import ChatServer.MessageLog

/-!
# Reading messages back

What a client that posts messages expects of `read_and_read_message`: the messages of the channel,
each with its sender, its content and its time. The list is built in two passes that do not agree:
the first reserves less for a message than the second needs, and the second copies timestamps with
their padding, at whose first zero the list ends as a string.
-/

namespace ChatServer

open CLib

/-- The fields of a post. -/
def Post.fields (p : Post) : List Str := (p.request.fieldsFor .createMessage).getD []

/-- The id of the channel that the name in the post led to. -/
def Post.channelId (p : Post) : Option Uuid :=
  (p.state.getChannelInfo p.request.env (CharArray.strncpy _ (p.fields.getD 1 []))).map
    (·.channelId)

/-- Sender, content and time of a post. -/
def Post.entry (p : Post) : List Str :=
  [p.fields.getD 0 [], p.fields.getD 2 [], p.fields.getD 3 []]

/-- The posts that went to a channel. -/
def postsOf (ps : List Post) (channelId : Uuid) : List Post :=
  ps.filter fun p => p.channelId = some channelId

/-- A complete request to read at least `k` messages of the channel `name`. -/
def ReadsMessages (r : Request) (name : Name) (k : ℕ) : Prop :=
  ∃ (number : Name) (rest : List Str),
    r.fieldsFor .readMessage = some (name.str :: number.str :: rest) ∧
      isNumber number.str = true ∧ (k : Int) ≤ strtolInt number.str

/-- The response has status 200, the name of the channel, the number of its posts, and exactly
these, in some order. -/
def ReadsBack (ps : List Post) (name : Name) (channelId : Uuid) (fd : ℕ) (c : Call) : Prop :=
  ∃ x ∈ c.sent, x.answers fd = true ∧ ∃ qs : List Post, qs.Perm (postsOf ps channelId) ∧
    tokens etx x.body =
      ascii "200" :: name.str :: decimal qs.length :: qs.flatMap Post.entry

section Copying

variable (s : State) (channelId : Uuid) (size : ℕ)

/-- What the second loop copies of a message. -/
def copied (sender : UserAccount) (m : MessageInfo) : List UInt8 :=
  sender.displayName.str ++ etx :: m.messageContent.str ++ etx :: m.timeStamp.bytes ++ [etx]

/-- The loop only appends. -/
theorem copyMessages_prefix {list out : List UInt8} {ms : List MessageInfo}
    (h : copyMessages s channelId size list ms = .ok out) : list <+: out := by
  induction ms generalizing list with
  | nil =>
    rw [copyMessages] at h
    cases h
    exact List.prefix_refl _
  | cons m ms ih =>
    rw [copyMessages] at h
    split at h
    · split at h
      · cases h
      · dsimp only at h
        split at h
        · cases h
          exact List.prefix_refl _
        · have hp := ih h
          simp only [List.append_assoc] at hp
          exact (List.prefix_append _ _).trans hp
    · exact ih h

/-- Either nothing is copied, or the list starts with a message of the channel. -/
theorem copyMessages_first {out : List UInt8} {ms : List MessageInfo}
    (h : copyMessages s channelId size [] ms = .ok out) :
    out = [] ∨ ∃ m ∈ ms, ∃ sender, s.getUserAccount m.userId = some sender ∧
      copied sender m <+: out := by
  induction ms with
  | nil =>
    rw [copyMessages] at h
    cases h
    exact Or.inl rfl
  | cons m ms ih =>
    rw [copyMessages] at h
    split at h
    · split at h
      · cases h
      · rename_i sender hs
        dsimp only at h
        split at h
        · cases h
          exact Or.inl rfl
        · exact Or.inr ⟨m, List.mem_cons_self, sender, hs, copyMessages_prefix s channelId size h⟩
    · obtain hnil | ⟨m', hm', sender, hs, hp⟩ := ih h
      · exact Or.inl hnil
      · exact Or.inr ⟨m', List.mem_cons_of_mem _ hm', sender, hs, hp⟩

/-- Nothing is copied when the reserved size is too small for every message of the channel. -/
theorem copyMessages_nil {out : List UInt8} {ms : List MessageInfo}
    (hsize : ∀ m ∈ ms, channelId = m.channelId →
      size ≤ m.messageContent.str.length+timestampSize+3)
    (h : copyMessages s channelId size [] ms = .ok out) : out = [] := by
  induction ms with
  | nil =>
    rw [copyMessages] at h
    cases h
    rfl
  | cons m ms ih =>
    rw [copyMessages] at h
    split at h
    · rename_i hm
      split at h
      · cases h
      · rename_i sender hs
        have hle := hsize m List.mem_cons_self hm
        rw [if_pos (by rw [List.length_nil]; omega)] at h
        cases h
        rfl
    · exact ih (fun m' hm' => hsize m' (List.mem_cons_of_mem _ hm')) h

/-- A single message of the channel is never copied: the first loop forgets the sender's name and
two of the separators. -/
theorem copyMessages_single {out : List UInt8} {ms : List MessageInfo}
    (hms : (ms.filter fun m => channelId = m.channelId).length ≤ 1)
    (h : copyMessages s channelId (messageListSize channelId ms) [] ms = .ok out) : out = [] := by
  refine copyMessages_nil s channelId _ ?_ h
  intro m hm hch
  have hmem : m ∈ ms.filter fun m => channelId = m.channelId :=
    List.mem_filter.mpr ⟨hm, by simpa using hch⟩
  have hone : (ms.filter fun m => channelId = m.channelId) = [m] := by
    obtain ⟨m', hm'⟩ := List.length_eq_one_iff.mp
      (Nat.le_antisymm hms (List.length_pos_of_mem hmem))
    rw [hm'] at hmem ⊢
    rw [List.mem_singleton.mp hmem]
  rw [messageListSize, hone]
  simp only [List.map_cons, List.map_nil, List.sum_cons, List.sum_nil]
  omega

end Copying

/-- The body of the response, with what was copied. -/
def historyBody (name : Name) (n : ℕ) (list : List UInt8) : Str :=
  status "200" "" ++
    (name.str ++ etx :: decimal n ++ etx :: cstr list).take (bigTokenNameLength-1)

/-- A complete request to read messages is answered with what was copied, or not at all. -/
theorem readMessage_sent {s : State} {r : Request} {name number : Name} {rest : List Str}
    (hf : r.fieldsFor .readMessage = some (name.str :: number.str :: rest))
    (hnum : isNumber number.str = true) :
    (∃ f, buildMessageList s (s.getAllMessages r.env) (s.getChannelInfo r.env name) = .error f ∧
      (handleRequest s r).sent = []) ∨ ∃ list header,
      buildMessageList s (s.getAllMessages r.env) (s.getChannelInfo r.env name) = .ok list ∧
      (handleRequest s r).sent =
        [⟨r.fd, false, header, historyBody name (s.getAllMessages r.env).length list⟩] := by
  obtain ⟨header, input, hd, hlen, _, hfs⟩ := fieldsFor_some hf
  have hname : name.isEmpty = false := field_ne_empty hf (by simp)
  have hnumber : number.isEmpty = false := field_ne_empty hf (by simp)
  have h₁ : nextField tokenNameLength (fields (input.take header.bodySize)) =
      .ok (name, number.str :: rest) := nextField_eq_ok.mpr hfs.symm
  have h₂ : nextField tokenNameLength (number.str :: rest) = .ok (number, rest) :=
    nextField_eq_ok.mpr rfl
  rw [handleRequest, hd]
  dsimp only
  rw [serve, if_neg (Nat.not_lt.mpr hlen)]
  simp only [runHandler, readAndReadMessage, readMessageFields, h₁, h₂, bind, Except.bind, pure,
    Except.pure, hnum, hname, hnumber, Bool.true_eq_false, Bool.or_self, Bool.false_eq_true,
    if_false]
  cases hl : buildMessageList s (s.getAllMessages r.env) (s.getChannelInfo r.env name) with
  | error f => exact Or.inl ⟨f, rfl, rfl⟩
  | ok list => exact Or.inr ⟨list, _, rfl, rfl⟩

section Counts

theorem channelId_of_leaves {p : Post} {m : MessageInfo} (h : p.Leaves m) :
    p.channelId = some m.channelId := by
  obtain ⟨d, name, content, stamp, rest, channel, user, login, hf, hc, _, _, _, hm, _⟩ := h
  have hfs : p.fields = d.str :: name.str :: content.str :: stamp :: rest := by
    rw [Post.fields, hf]; rfl
  rw [Post.channelId, hfs]
  simp only [List.getD_cons_succ, List.getD_cons_zero, CharArray.strncpy_str, hc, Option.map_some,
    hm]

/-- The scan of the message database gives the records of the posts. -/
theorem LogHolds.scan {ps : List Post} {d : Dbm Uuid MessageInfo} (h : LogHolds ps d)
    (o : KeyOrder Uuid MessageInfo) :
    ∃ ms, List.Forall₂ Post.Leaves ps ms ∧ (o.scan d).Perm ms := by
  obtain ⟨ms, hms, hnodup, hiff⟩ := h
  refine ⟨ms, hms, (List.perm_ext_iff_of_nodup ?_ (List.Nodup.of_map _ hnodup)).mpr ?_⟩
  · refine List.Nodup.filterMap ?_ ((o.perm d).nodup_iff.mpr d.nodupKeys)
    intro k k' m hm hm'
    exact ((hiff k m).mp hm).2.symm.trans ((hiff k' m).mp hm').2
  · intro m
    rw [KeyOrder.mem_scan]
    constructor
    · rintro ⟨k, hk⟩
      exact ((hiff k m).mp hk).1
    · intro hm
      exact ⟨m.messageId, (hiff _ m).mpr ⟨hm, rfl⟩⟩

theorem length_postsOf {ps : List Post} {ms : List MessageInfo}
    (h : List.Forall₂ Post.Leaves ps ms) (channelId : Uuid) :
    (postsOf ps channelId).length = (ms.filter fun m => channelId = m.channelId).length := by
  induction h with
  | nil => rfl
  | @cons p m ps ms hp _ ih =>
    rw [postsOf, List.filter_cons, List.filter_cons, channelId_of_leaves hp, ← postsOf]
    by_cases hm : m.channelId = channelId
    · simp [hm, ih]
    · simp [hm, Ne.symm hm, ih]

end Counts

/-- Only one number is printed as "0", even if the text is cut. -/
theorem take_decimal_ne_zero {n m : ℕ} (hn : n ≠ 0) (hm : 2 ≤ m) :
    (decimal n).take m ≠ decimal 0 := by
  intro h
  have hlen := congrArg List.length h
  simp only [decimal, List.length_take, List.length_map] at hlen
  rw [show (Nat.toDigits 10 0).length = 1 from rfl] at hlen
  have hlt : n < 10^1 := (Nat.length_toDigits_le_iff (by decide) (by decide)).mp (by omega)
  rw [List.take_of_length_le (by simp only [decimal, List.length_map]; omega)] at h
  have hdec : ∀ i < 10, decimal (i : ℕ) = decimal 0 → i = 0 := by decide
  exact hn (hdec n hlt h)

/-- The response when nothing was copied. -/
theorem tokens_historyBody_nil {name : Name} (hname : etx ∉ name.str) (hne : name.str ≠ [])
    (n : ℕ) : ∃ m, 2 ≤ m ∧ tokens etx (historyBody name n []) =
      [ascii "200", name.str, (decimal n).take m] := by
  have hfits : name.str.length ≤ 21 := name.fits
  have hbig : bigTokenNameLength = 4096 := rfl
  obtain ⟨m, hm⟩ : ∃ m, bigTokenNameLength-1-name.str.length = m+1 :=
    ⟨bigTokenNameLength-1-name.str.length-1, by omega⟩
  have hm2 : 2 ≤ m := by omega
  have htake : (decimal n).take m ≠ [] := by
    rw [Ne, List.take_eq_nil_iff]
    rintro (h | h)
    · omega
    · exact decimal_ne_nil n h
  have hnot : etx ∉ (decimal n).take m :=
    fun h => etx_not_mem_decimal n (List.take_subset _ _ h)
  refine ⟨m, hm2, ?_⟩
  have hbody : historyBody name n [] =
      ascii "200" ++ etx :: (name.str ++ etx :: ((decimal n).take m ++
        [etx].take (m-(decimal n).length))) := by
    rw [historyBody, List.append_assoc, List.take_append, hm, List.take_of_length_le (by omega),
      List.cons_append, List.take_succ_cons, List.take_append]
    rfl
  have hlast : tokens etx ((decimal n).take m ++ [etx].take (m-(decimal n).length)) =
      [(decimal n).take m] := by
    by_cases hz : m-(decimal n).length = 0
    · rw [hz, List.take_zero, List.append_nil, tokens_of_not_mem hnot htake]
    · have hsep : [etx].take (m-(decimal n).length) = [etx] :=
        List.take_of_length_le (by rw [List.length_singleton]; omega)
      rw [hsep, tokens_append_cons, tokens_of_not_mem hnot htake]
      rfl
  rw [hbody, tokens_append_cons, tokens_append_cons, hlast, tokens_of_not_mem hname hne]
  rfl

theorem length_tokens_historyBody_le {name : Name} (hname : etx ∉ name.str) (n : ℕ)
    (list : List UInt8) :
    (tokens etx (historyBody name n list)).length ≤ (cstr list).count etx + 4 := by
  refine (length_tokens_le _ _).trans ?_
  have hsub := (List.take_sublist (bigTokenNameLength-1)
    (name.str ++ etx :: decimal n ++ etx :: cstr list)).count_le etx
  rw [historyBody, List.count_append, show (status "200" "").count etx = 1 from by decide]
  simp only [List.count_append, List.count_cons_self, List.count_eq_zero_of_not_mem hname,
    List.count_eq_zero_of_not_mem (etx_not_mem_decimal n)] at hsub
  omega

/-- Records whose strings hold no separator and whose timestamps leave room for a terminator. -/
structure PlainRecords (s : State) : Prop where
  name : s.userAccountInfo.All fun _ a => etx ∉ a.displayName.str
  content : s.messagesInfo.All fun _ m => etx ∉ m.messageContent.str
  stamp : s.messagesInfo.All fun _ m => etx ∉ m.timeStamp.str ∧
    m.timeStamp.str.length < timestampSize

/-- The string in the list ends with the first timestamp. -/
theorem count_cstr_le {sender : UserAccount} {m : MessageInfo} {out : List UInt8}
    (hname : etx ∉ sender.displayName.str) (hcontent : etx ∉ m.messageContent.str)
    (hstamp : etx ∉ m.timeStamp.str) (hlen : m.timeStamp.str.length < timestampSize)
    (hp : copied sender m <+: out) : (cstr out).count etx ≤ 2 := by
  obtain ⟨rest, rfl⟩ := hp
  obtain ⟨j, hj⟩ : ∃ j, timestampSize-m.timeStamp.str.length = j+1 :=
    ⟨timestampSize-m.timeStamp.str.length-1, by omega⟩
  have hsplit : copied sender m ++ rest =
      (sender.displayName.str ++ etx :: m.messageContent.str ++ etx :: m.timeStamp.str) ++
        0 :: (List.replicate j 0 ++ [etx] ++ rest) := by
    simp only [copied, CharArray.bytes, hj, List.replicate_succ, List.append_assoc,
      List.cons_append, List.nil_append]
  have hsub : (cstr (copied sender m ++ rest)).Sublist
      (sender.displayName.str ++ etx :: m.messageContent.str ++ etx :: m.timeStamp.str) := by
    rw [cstr, hsplit, List.takeWhile_append]
    split
    · simp
    · exact List.takeWhile_sublist _
  refine (hsub.count_le etx).trans ?_
  simp only [List.count_append, List.count_cons_self, List.count_eq_zero_of_not_mem hname,
    List.count_eq_zero_of_not_mem hcontent, List.count_eq_zero_of_not_mem hstamp]
  omega

section RoundTrip

variable {s : State} {ps : List Post} {r : Request} {name : Name} {c : ChannelInfo} {k : ℕ}

theorem etx_not_mem_name (h : ReadsMessages r name k) : etx ∉ name.str ∧ name.str ≠ [] := by
  obtain ⟨number, rest, hf, _, _⟩ := h
  obtain ⟨header, input, _, _, _, hfs⟩ := fieldsFor_some hf
  have hmem : name.str ∈ fields (input.take header.bodySize) := by
    rw [← hfs]
    exact List.mem_cons_self
  exact ⟨not_mem_of_mem_tokens hmem, ne_nil_of_mem_tokens hmem⟩

/-- Without any message the response is the right one. -/
theorem readsBack_of_no_posts (hlog : LogHolds [] s.messagesInfo) (channelId : Uuid)
    (hr : ReadsMessages r name k) : ReadsBack [] name channelId r.fd (handleRequest s r) := by
  obtain ⟨ms, hms, hperm⟩ := hlog.scan r.env.messageOrder
  cases hms
  have hall : s.getAllMessages r.env = [] := hperm.eq_nil
  obtain ⟨hname, hne⟩ := etx_not_mem_name hr
  obtain ⟨number, rest, hf, hnum, _⟩ := hr
  obtain ⟨f, hb, _⟩ | ⟨list, header, hb, hsent⟩ := readMessage_sent (s := s) hf hnum
  · rw [hall] at hb
    cases hch : s.getChannelInfo r.env name <;> rw [hch] at hb <;> cases hb
  · have hlist : list = [] := by
      rw [hall] at hb
      cases hch : s.getChannelInfo r.env name <;> rw [hch] at hb <;> cases hb <;> rfl
    obtain ⟨m, hm, htok⟩ := tokens_historyBody_nil hname hne 0
    refine ⟨_, by rw [hsent]; exact List.mem_singleton_self _, by simp [Sent.answers], [],
      List.Perm.refl _, ?_⟩
    rw [hall, hlist]
    change tokens etx (historyBody name 0 []) = _
    rw [htok, show decimal (0 : ℕ) = [48] from rfl,
      List.take_of_length_le (by simpa using by omega)]
    rfl

theorem length_entries (qs : List Post) : (qs.flatMap Post.entry).length = 3*qs.length := by
  induction qs with
  | nil => rfl
  | cons q qs ih =>
    rw [List.flatMap_cons, List.length_append, ih, List.length_cons]
    simp only [Post.entry, List.length_cons, List.length_nil]
    omega

/-- What the loops leave in the list is at most one message with its two separators. -/
theorem PlainRecords.count_copyMessages (h : PlainRecords s) {channelId : Uuid} {n : ℕ}
    {list : List UInt8}
    (hcopy : copyMessages s channelId n [] (s.getAllMessages r.env) = .ok list) :
    (cstr list).count etx ≤ 2 := by
  obtain rfl | ⟨m, hm, sender, hs, hp⟩ := copyMessages_first s _ _ hcopy
  · exact Nat.zero_le 2
  · obtain ⟨km, hkm⟩ := KeyOrder.mem_scan.mp hm
    obtain ⟨hstamp, hstamplen⟩ := h.stamp km m hkm
    exact count_cstr_le (h.name _ _ hs) (h.content km m hkm) hstamp hstamplen hp

/-- With a message, of whatever channel, it is wrong: the number is the one of all messages, and the
last message of the channel is never copied. -/
theorem not_readsBack_of_posts (hlog : LogHolds ps s.messagesInfo) (hne : ps ≠ [])
    (hplain : PlainRecords s) (hc : s.getChannelInfo r.env name = some c)
    (hr : ReadsMessages r name k) : ¬ ReadsBack ps name c.channelId r.fd (handleRequest s r) := by
  rintro ⟨x, hx, _, qs, hqs, htok⟩
  obtain ⟨hname, hname'⟩ := etx_not_mem_name hr
  obtain ⟨ms, hms, hperm⟩ := hlog.scan r.env.messageOrder
  have hperm : (s.getAllMessages r.env).Perm ms := hperm
  have htotal : (s.getAllMessages r.env).length = ps.length :=
    hperm.length_eq.trans hms.length_eq.symm
  have hchannel : ((s.getAllMessages r.env).filter fun m => c.channelId = m.channelId).length =
      qs.length := by
    rw [hqs.length_eq, length_postsOf hms]
    exact (hperm.filter _).length_eq
  obtain ⟨number, rest, hf, hnum, _⟩ := hr
  obtain ⟨f, _, hsent⟩ | ⟨list, header, hb, hsent⟩ := readMessage_sent (s := s) hf hnum
  · rw [hsent] at hx; cases hx
  rw [hsent, List.mem_singleton] at hx
  subst hx
  have hcopy : copyMessages s c.channelId (messageListSize c.channelId (s.getAllMessages r.env)) []
      (s.getAllMessages r.env) = .ok list := by
    rw [hc] at hb
    cases hall : s.getAllMessages r.env with
    | nil =>
      rw [hall] at htotal
      exact absurd (List.length_eq_zero_iff.mp htotal.symm) hne
    | cons m ms => rw [hall] at hb; exact hb
  -- three fields for every message of the channel are too many
  have hlen : 3+3*qs.length ≤ (cstr list).count etx + 4 := by
    have hle := length_tokens_historyBody_le hname (s.getAllMessages r.env).length list
    rw [show tokens etx (historyBody name _ list) = _ from htok] at hle
    simp only [List.length_cons, length_entries] at hle
    omega
  have hcount : (cstr list).count etx ≤ 2 := hplain.count_copyMessages hcopy
  have hlist : list = [] := copyMessages_single s _ (by rw [hchannel]; omega) hcopy
  subst hlist
  have hqs0 : qs.length = 0 := by
    have : (cstr []).count etx = 0 := rfl
    omega
  obtain ⟨m, hm, htok'⟩ := tokens_historyBody_nil hname hname' (s.getAllMessages r.env).length
  rw [show tokens etx (historyBody name _ []) = _ from htok, hqs0] at htok'
  have hzero : decimal 0 = (decimal (s.getAllMessages r.env).length).take m := by
    simp only [List.cons.injEq] at htok'
    exact htok'.2.2.1
  refine take_decimal_ne_zero ?_ hm hzero.symm
  rw [htotal]
  exact fun h => hne (List.length_eq_zero_iff.mp h)

end RoundTrip

/-- In every life with fresh uuids: as long as no message has been created, reading a channel is
answered with what was posted to it, and once one has been created, it is not. -/
theorem message_round_trip (es : List LifeEvent) (h : Life.Along FreshEvent Life.initial es)
    (r : Request) (name : Name) (c : ChannelInfo)
    (hc : (Life.run es).state.getChannelInfo r.env name = some c)
    (hr : ReadsMessages r name (postsOf (Life.posts Life.initial es) c.channelId).length) :
    (Life.posts Life.initial es = [] →
      ReadsBack (Life.posts Life.initial es) name c.channelId r.fd
        (handleRequest (Life.run es).state r)) ∧
    (PlainRecords (Life.run es).state → Life.posts Life.initial es ≠ [] →
      ¬ ReadsBack (Life.posts Life.initial es) name c.channelId r.fd
        (handleRequest (Life.run es).state r)) := by
  have hlog := logHolds_life h
  constructor
  · intro hnone
    rw [hnone] at hlog hr ⊢
    exact readsBack_of_no_posts hlog c.channelId hr
  · exact fun hplain hne => not_readsBack_of_posts hlog hne hplain hc hr

/-- Someone reads the global channel right after the first start. -/
theorem message_round_trip_start :
    ReadsBack [] globalName Client.firstEnv.uuid 6
      (handleRequest (Life.run [.start true Client.firstEnv]).state
        (Client.readMessages 6 "10.0.0.2" "global" "5")) :=
  (message_round_trip [.start true Client.firstEnv] (by decide +kernel)
    (Client.readMessages 6 "10.0.0.2" "global" "5") globalName
    (createChannel Client.firstEnv.uuid globalName adminName false) (by decide +kernel)
    ⟨CharArray.strncpy _ (ascii "5"), [], by decide +kernel, by decide, by decide +kernel⟩).1 rfl

/-- The administrator posts one message to the global channel. -/
def oneMessageLife : List LifeEvent :=
  [.start true Client.firstEnv,
    .request (Client.login 6 "10.0.0.2" "admin" "admin"),
    .request (Client.createMessage 6 "10.0.0.2" "admin" "global" "hello" "10:00"
      "22222222-2222-2222-2222-222222222222")]

/-- The message is there, and the response has no field behind the number. -/
theorem message_not_read_back :
    Life.Along FreshEvent Life.initial oneMessageLife ∧
      (postsOf (Life.posts Life.initial oneMessageLife) Client.firstEnv.uuid).map Post.entry =
        [[ascii "admin", ascii "hello", ascii "10:00"]] ∧
      ¬ ReadsBack (Life.posts Life.initial oneMessageLife) globalName Client.firstEnv.uuid 6
        (handleRequest (Life.run oneMessageLife).state
          (Client.readMessages 6 "10.0.0.2" "global" "5")) := by
  refine ⟨by decide +kernel, by decide +kernel, ?_⟩
  rintro ⟨x, hx, _, qs, hqs, htok⟩
  have hlen : ∀ x ∈ (handleRequest (Life.run oneMessageLife).state
      (Client.readMessages 6 "10.0.0.2" "global" "5")).sent, (tokens etx x.body).length = 3 := by
    decide +kernel
  have hone :
      (postsOf (Life.posts Life.initial oneMessageLife) Client.firstEnv.uuid).length = 1 := by
    decide +kernel
  obtain ⟨q, rfl⟩ := List.length_eq_one_iff.mp (hqs.length_eq.trans hone)
  have hthree := hlen x hx
  rw [htok] at hthree
  cases hthree

end ChatServer
