import ChatServer.ArrayWrites

/-!
# Writes behind the end of an array

Requests whose fields leave room for their terminators still make the server write outside its
arrays. A separator is appended to a name that fills `token_out`, the history of a channel is copied
with a size that exceeds the array, and an account is fetched with the size of a login record. The
conditions below say for each kind of request when none of this happens.
-/

namespace ChatServer

open CLib

/-- The account that `read_and_create_message` fetches, if it gets so far. -/
def fetchedSender (s : State) (env : Env) : List Str → Option UserAccount
  | displayName :: channelName :: _ :: _ :: _ =>
    if displayName = ascii "200" then none
    else do
      let _ ← s.getChannelInfo env (CharArray.strncpy _ channelName)
      let user ← s.activeUsers.getConnectedUserByDisplayName (CharArray.strncpy _ displayName)
      s.getUserAccount user.uuid
  | _ => none

/-- There are messages, and `build_message_list` uses a `NULL` pointer before it has fetched an
account: the channel does not exist, or the sender of its first message does not. -/
def StopsAtNull (s : State) (env : Env) (channelName : Str) : Prop :=
  s.getAllMessages env ≠ [] ∧
    ∀ channel ∈ s.getChannelInfo env (CharArray.strncpy _ channelName),
      ∃ m ∈ (s.getAllMessages env).find? (fun m => channel.channelId = m.channelId),
        s.getUserAccount m.userId = none

/-- The branches in which a handler writes outside an array are not taken. -/
def WritesFit (s : State) (r : Request) (bodySize : ℕ) (bytes : List UInt8) : RequestKind → Prop
  | .createChannel => bodyIncomplete bodySize bytes = false → ∀ c d p rest,
    fields bytes = c :: d :: p :: rest → MayCreate s r.clntAddr c d p → c.length < tokenNameLength-1
  | .createMessage => bodyIncomplete bodySize bytes = false →
    fetchedSender s r.env (fields bytes) = none
  | .readMessage => ∀ c n rest, fields bytes = c :: n :: rest →
    n.length ≤ tokenNameLength ∧ (isNumber n = false ∨ StopsAtNull s r.env c)
  | _ => True

section Common

variable {bytes : List UInt8}

theorem inside_bufferWrites (h : bytes.length ≤ defaultBuffer) : Inside (bufferWrites bytes) :=
  inside_append.mpr ⟨inside_fill_self _, inside_fill.mpr (Or.inr (by omega))⟩

theorem inside_strtokWrites (h : bytes.length ≤ defaultBuffer) : Inside (strtokWrites bytes) := by
  intro x hx
  obtain ⟨⟨b, i⟩, hb, rfl⟩ := List.mem_map.mp hx
  have hi := (List.mem_zipIdx (List.mem_filter.mp hb).1).2.1
  have hle : (cstr bytes).length ≤ bytes.length := length_cstr_le bytes
  dsimp only at hi ⊢
  omega

theorem inside_fieldWrites {n : ℕ} {ts : List Str} :
    Inside (fieldWrites n ts) ↔ ∀ t ∈ ts.head?, t.length ≤ n := by
  cases ts with
  | nil => simp [fieldWrites, inside_nil]
  | cons t ts =>
    rw [fieldWrites, inside_fill]
    simp only [List.head?_cons, Option.mem_some_iff, forall_eq']
    omega

/-- A field within its limit is the string of an array. -/
theorem exists_field {n : ℕ} {t : Str} (h : t.length ≤ n-1) : ∃ a : CharArray n, a.str = t :=
  ⟨⟨t, by omega⟩, rfl⟩

theorem exists_three {ts : List Str} (h : 3 ≤ ts.length) :
    ∃ t u v rest, ts = t :: u :: v :: rest := by
  rcases ts with _ | ⟨t, _ | ⟨u, _ | ⟨v, rest⟩⟩⟩
  · exact absurd h (by decide)
  · exact absurd h (by simp)
  · exact absurd h (by simp)
  · exact ⟨t, u, v, rest, rfl⟩

theorem fits_head? {n : ℕ} (a : CharArray n) (ts : List Str) :
    ∀ t ∈ (a.str :: ts).head?, t.length ≤ n := by
  rintro t ⟨⟩
  exact a.fits

theorem inside_answered {x : Trace} {f : State → Reply → List Access} :
    Inside (answered x f) ↔
      Inside x.2 ∧ ∀ reply, x.1.value = .ok reply → Inside (f x.1.state reply) := by
  rw [answered, inside_append]
  cases x.1.value with
  | error e => simp [inside_nil]
  | ok reply => simp

theorem inside_answered_after {log : List Access} {x : Trace} {f : State → Reply → List Access} :
    Inside (answered (after log x) f) ↔ Inside log ∧ Inside (answered x f) := by
  rw [inside_answered, inside_answered, after_snd, inside_append, and_assoc]
  rfl

/-- A handler that does not return makes no further access. -/
theorem inside_answered_fault {s : State} {e : Fault} {log : List Access}
    {f : State → Reply → List Access} : Inside (answered (.fault s e, log) f) ↔ Inside log := by
  rw [inside_answered]
  refine ⟨fun h => h.1, fun h => ⟨h, ?_⟩⟩
  rintro reply ⟨⟩

theorem mem_answered {x : Trace} {f : State → Reply → List Access} {a : Access} (h : a ∈ x.2) :
    a ∈ answered x f := List.mem_append_left _ h

theorem mem_after {log : List Access} {x : Trace} {a : Access} (h : a ∈ x.2) :
    a ∈ (after log x).2 := List.mem_append_right _ h

end Common

section CreateChannel

variable {s : State} {r : Request} {n : ℕ} {bytes : List UInt8}

/-- The error texts of `send_create_channel_response` fit its array. -/
theorem inside_refused (s' : State) {result : Int} (hr : result ∈ [errorChannel400, errorChannel403,
    errorChannel404, errorChannel409, errorChannel500]) {log : List Access} :
    Inside (answered (.reply s' result [], log) createChannelAnswer) ↔ Inside log := by
  have htexts : ∀ result ∈ [errorChannel400, errorChannel403, errorChannel404, errorChannel409,
      errorChannel500],
      0+(codedPieces (status "201" "") createChannelTexts result []).flatten.length <
        bodyCapacity .createChannel := by decide
  rw [inside_answered]
  refine ⟨fun h => h.1, fun h => ⟨h, ?_⟩⟩
  rintro reply ⟨⟩
  exact inside_strcats (htexts result hr)

/-- The separator behind the name and the terminator behind the separator need two bytes. -/
theorem inside_createdTokenWrites {c : Name} :
    Inside (createdTokenWrites c) ↔ c.str.length+2 ≤ tokenNameLength := by
  rw [createdTokenWrites, inside_append]
  constructor
  · intro h
    have := inside_fill.mp h.2
    omega
  · intro h
    exact ⟨inside_append.mpr ⟨inside_fill_self _, inside_fill_self _⟩, inside_fill.mpr (Or.inr h)⟩

theorem inside_newChannelWrites : Inside newChannelWrites := by
  simp only [newChannelWrites, inside_append, inside_fill_self, and_self]

/-- Behind the parsed fields, only the name that is handed to the responder may not fit. -/
theorem storeNewChannelTrace_inside (env : Env) (addr : IpAddr) (c d : Name) (p : Bool) :
    Inside (answered (storeNewChannelTrace s env addr c d p) createChannelAnswer) ↔
      ((s.activeUsers.getDisplayNameInCache addr d).isSome = true →
        ¬ (d = adminName ∧ s.checkDuplicateDisplayName d = false) →
        s.checkDuplicateChannelName env c = false → c.str.length+2 ≤ tokenNameLength) := by
  rw [storeNewChannelTrace]
  cases hname : s.activeUsers.getDisplayNameInCache addr d with
  | none =>
    dsimp only
    rw [inside_refused _ (by decide)]
    exact iff_of_true inside_nil (fun h => by cases h)
  | some name =>
    obtain rfl := getDisplayNameInCache_eq hname
    have hmalloc : Inside (fillAll tokenNameLength ++ fillAll tokenNameLength) :=
      inside_append.mpr ⟨inside_fill_self _, inside_fill_self _⟩
    dsimp only
    rw [inside_answered_after, and_iff_right hmalloc]
    split_ifs with hadmin hother hdup
    · rw [inside_refused _ (by decide)]
      exact iff_of_true inside_nil (fun _ h => absurd hadmin h)
    · exact absurd rfl hother.2
    · rw [inside_refused _ (by decide)]
      exact iff_of_true inside_nil (fun _ _ h => by rw [hdup] at h; cases h)
    · rw [inside_answered, inside_append, and_iff_right inside_newChannelWrites,
        inside_createdTokenWrites]
      refine ⟨fun h _ _ _ => h.1, fun h => ?_⟩
      have hlen := h rfl hadmin (by simpa using hdup)
      refine ⟨hlen, ?_⟩
      rintro reply ⟨⟩
      refine inside_strcats (lt_of_le_of_lt ?_ (show 4+21 < bodyCapacity .createChannel by decide))
      simp only [codedPieces, if_true, List.flatten_cons, List.flatten_nil, List.length_append,
        List.length_singleton, List.length_nil, show (status "201" "").length = 4 from rfl]
      have htoken : tokenNameLength = 21 := rfl
      omega

/-- What becomes of the three fields of a request. -/
theorem readAndCreateChannelTrace_eq {env : Env} {addr : IpAddr} {c d : Name} {p : Str}
    {rest : List Str} (hinc : bodyIncomplete n bytes = false)
    (hfs : fields bytes = c.str :: d.str :: p :: rest) :
    readAndCreateChannelTrace s env addr n bytes =
      after (bufferWrites bytes)
        (after (strtokWrites bytes ++ fieldWrites tokenNameLength (c.str :: d.str :: p :: rest))
          (after (fieldWrites tokenNameLength (d.str :: p :: rest))
            (if p.length = 1 then storeNewChannelTrace s env addr c d (p = ascii "1")
            else (.reply s errorChannel400 [], [])))) := by
  rw [readAndCreateChannelTrace, hinc, if_neg Bool.false_ne_true, hfs, nextField_eq_ok.mpr rfl]
  dsimp only
  rw [nextField_eq_ok.mpr rfl]
  dsimp only
  simp only [publicity_iff, ite_not]

/-- A request without its three fields is answered or stops at a `NULL` pointer. -/
theorem createChannel_inside_short (hlen : bytes.length < defaultBuffer)
    (hlim : ∀ x ∈ limits (fields bytes) .createChannel, x.1.length ≤ x.2)
    (hinc : bodyIncomplete n bytes = false) (hshort : (fields bytes).length < 3) :
    Inside (requestWrites s r n bytes .createChannel) := by
  rw [requestWrites, readAndCreateChannelTrace, inside_answered_after, hinc,
    if_neg Bool.false_ne_true, inside_answered_after, inside_append]
  refine ⟨inside_bufferWrites hlen.le, ⟨inside_strtokWrites hlen.le, ?_⟩, ?_⟩
  · rw [inside_fieldWrites]
    intro t ht
    obtain ⟨ts, hts⟩ := List.head?_eq_some_iff.mp ht
    rw [hts] at hlim
    exact (hlim (t, tokenNameLength-1) List.mem_cons_self).trans (Nat.sub_le _ _)
  · rcases hfs : fields bytes with _ | ⟨c, _ | ⟨d, _ | ⟨p, rest⟩⟩⟩
    · rw [nextField]
      exact inside_answered_fault.mpr inside_nil
    · rw [hfs] at hlim
      obtain ⟨c, rfl⟩ := exists_field (hlim (c, tokenNameLength-1) List.mem_cons_self)
      rw [nextField_eq_ok.mpr rfl]
      exact (inside_refused s (by decide)).mpr inside_nil
    · rw [hfs] at hlim
      obtain ⟨c, rfl⟩ := exists_field (hlim (c, tokenNameLength-1) List.mem_cons_self)
      obtain ⟨d, rfl⟩ := exists_field (hlim (d, tokenNameLength-1)
        (List.mem_cons_of_mem _ List.mem_cons_self))
      rw [nextField_eq_ok.mpr rfl]
      dsimp only
      rw [inside_answered_after, nextField_eq_ok.mpr rfl]
      exact ⟨inside_fieldWrites.mpr (fits_head? d []), inside_answered_fault.mpr inside_nil⟩
    · rw [hfs] at hshort
      simp only [List.length_cons] at hshort
      omega

/-- With its three fields, it is the name of the new channel that may not fit. -/
theorem createChannel_inside_full {c d : Name} {p : Str} {rest : List Str}
    (hlen : bytes.length < defaultBuffer) (hinc : bodyIncomplete n bytes = false)
    (hfs : fields bytes = c.str :: d.str :: p :: rest) :
    Inside (requestWrites s r n bytes .createChannel) ↔
      (MayCreate s r.clntAddr c.str d.str p → c.str.length+2 ≤ tokenNameLength) := by
  have hfirst : Inside (strtokWrites bytes ++
      fieldWrites tokenNameLength (c.str :: d.str :: p :: rest)) :=
    inside_append.mpr ⟨inside_strtokWrites hlen.le, inside_fieldWrites.mpr (fits_head? c _)⟩
  have hsecond : Inside (fieldWrites tokenNameLength (d.str :: p :: rest)) :=
    inside_fieldWrites.mpr (fits_head? d _)
  rw [requestWrites, readAndCreateChannelTrace_eq hinc hfs, inside_answered_after,
    inside_answered_after, inside_answered_after, and_iff_right (inside_bufferWrites hlen.le),
    and_iff_right hfirst, and_iff_right hsecond, @mayCreate_iff s r.env]
  by_cases hp : p.length = 1
  · rw [if_pos hp, storeNewChannelTrace_inside]
    exact ⟨fun h hmay => h hmay.2.1 hmay.2.2.1 hmay.2.2.2,
      fun h h₁ h₂ h₃ => h ⟨hp, h₁, h₂, h₃⟩⟩
  · rw [if_neg hp, inside_refused _ (by decide)]
    exact iff_of_true inside_nil (fun h => absurd h.1 hp)

/-- A request to create a channel within the limits. -/
theorem createChannel_inside_iff (hlen : bytes.length < defaultBuffer)
    (hlim : ∀ x ∈ limits (fields bytes) .createChannel, x.1.length ≤ x.2) :
    Inside (requestWrites s r n bytes .createChannel) ↔ WritesFit s r n bytes .createChannel := by
  cases hinc : bodyIncomplete n bytes with
  | true =>
    rw [requestWrites, readAndCreateChannelTrace, hinc, if_pos rfl, inside_answered_after,
      inside_refused _ (by decide)]
    refine iff_of_true ⟨inside_bufferWrites hlen.le, inside_nil⟩ (fun h => ?_)
    rw [hinc] at h
    cases h
  | false =>
    by_cases hshort : (fields bytes).length < 3
    · refine iff_of_true (createChannel_inside_short hlen hlim hinc hshort) ?_
      intro _ c d p rest hfs
      rw [hfs] at hshort
      simp only [List.length_cons] at hshort
      omega
    · obtain ⟨c, d, p, rest, hfs⟩ : ∃ c d p rest, fields bytes = c :: d :: p :: rest :=
        exists_three (Nat.not_lt.mp hshort)
      rw [hfs] at hlim
      obtain ⟨c, rfl⟩ := exists_field (hlim (c, tokenNameLength-1) List.mem_cons_self)
      obtain ⟨d, rfl⟩ := exists_field (hlim (d, tokenNameLength-1)
        (List.mem_cons_of_mem _ List.mem_cons_self))
      rw [createChannel_inside_full hlen hinc hfs, WritesFit, hfs]
      have htoken : tokenNameLength = 21 := rfl
      constructor
      · rintro h - c' d' p' rest ⟨⟩ hmay
        have := h hmay
        omega
      · intro h hmay
        have := h hinc _ _ _ _ rfl hmay
        omega

/-- The separator behind a name that leaves no room for it. -/
theorem mem_createChannel {c d : Name} {p : Str} {rest : List Str}
    (hinc : bodyIncomplete n bytes = false) (hfs : fields bytes = c.str :: d.str :: p :: rest)
    (hmay : MayCreate s r.clntAddr c.str d.str p) :
    ⟨tokenNameLength, c.str.length+1⟩ ∈ requestWrites s r n bytes .createChannel := by
  obtain ⟨hp, hname, hadmin, hdup⟩ := (@mayCreate_iff s r.env ..).mp hmay
  obtain ⟨name, hname⟩ := Option.isSome_iff_exists.mp hname
  obtain rfl := getDisplayNameInCache_eq hname
  rw [requestWrites, readAndCreateChannelTrace_eq hinc hfs, if_pos hp, storeNewChannelTrace, hname]
  refine mem_answered (mem_after (mem_after (mem_after (mem_after ?_))))
  rw [if_neg hadmin, if_neg (fun h => h.2 rfl), hdup, if_neg Bool.false_ne_true]
  exact List.mem_append_right _ (List.mem_append_right _ (mem_fill (by omega) (by omega)))

end CreateChannel

section CreateMessage

variable {s : State} {r : Request} {n : ℕ} {bytes : List UInt8}

/-- The record of an account is smaller than the one of a login. -/
theorem not_inside_userAccountWrites : ¬ Inside userAccountWrites := by
  rw [userAccountWrites, inside_fill]
  decide

/-- A message for a channel that is not there is answered, and copied to nobody. -/
theorem inside_channelDoesNotExist {env : Env} {c : Name} (hc : s.getChannelInfo env c = none)
    (forward : Str) :
    Inside (createMessageAnswer env s ⟨errorChannelDoesNotExist, c.str, forward⟩) := by
  have hack : ¬ errorChannelDoesNotExist = createMessageAck := by decide
  rw [createMessageAnswer, if_neg hack, inside_append]
  constructor
  · have hbound : 4+22+21 < bodyCapacity .createMessage := by decide
    refine inside_strcats (lt_of_le_of_lt ?_ hbound)
    have hpieces : createMessagePieces errorChannelDoesNotExist c.str =
      [status "404" "", ascii "Channel does not exist", c.str] := rfl
    simp only [hpieces, List.flatten_cons, List.flatten_nil, List.length_append, List.length_nil,
      show (status "404" "").length = 4 from rfl,
      show (ascii "Channel does not exist").length = 22 from rfl]
    have hfits : c.str.length ≤ 21 := c.fits
    omega
  · show Inside (forwardWrites s env c.str forward)
    rw [forwardWrites, CharArray.strncpy_str, hc]
    exact inside_nil

/-- Behind the parsed fields, everything fits up to the account. -/
theorem storeNewMessageTrace_inside (env : Env) (d c : Name) (content : Str)
    (stamp : CharArray timestampSize) (forward : Str) :
    Inside (answered (storeNewMessageTrace s env d c content stamp forward)
        (createMessageAnswer env)) ↔
      ∀ channel ∈ s.getChannelInfo env c,
        ∀ user ∈ s.activeUsers.getConnectedUserByDisplayName d,
          s.getUserAccount user.uuid = none := by
  rw [storeNewMessageTrace]
  cases hc : s.getChannelInfo env c with
  | none =>
    refine iff_of_true (inside_answered.mpr ⟨inside_nil, ?_⟩) (fun _ h => by cases h)
    rintro reply ⟨⟩
    exact inside_channelDoesNotExist hc forward
  | some channel =>
    have hrecord : Inside (fillAll sizeofChannelInfo ++ fillAll uuidLen) :=
      inside_append.mpr ⟨inside_fill_self _, inside_fill_self _⟩
    dsimp only
    rw [inside_answered_after, and_iff_right hrecord]
    cases hu : s.activeUsers.getConnectedUserByDisplayName d with
    | none =>
      exact iff_of_true (inside_answered_fault.mpr inside_nil) (fun _ _ _ h => by cases h)
    | some user =>
      dsimp only
      rw [inside_answered_after, and_iff_right (inside_fill_self _)]
      cases ha : s.getUserAccount user.uuid with
      | none =>
        refine iff_of_true (inside_answered_fault.mpr inside_nil) ?_
        rintro _ _ _ ⟨⟩
        exact ha
      | some account =>
        dsimp only
        rw [inside_answered_after]
        refine iff_of_false (fun h => not_inside_userAccountWrites h.1) (fun h => ?_)
        have := h channel rfl user rfl
        rw [ha] at this
        cases this

/-- What is fetched for a message, in terms of the arrays that its fields were copied to. -/
theorem fetchedSender_eq_none {env : Env} {d c : Name} {content t : Str} {rest : List Str}
    (hd : d.str ≠ ascii "200") :
    fetchedSender s env (d.str :: c.str :: content :: t :: rest) = none ↔
      ∀ channel ∈ s.getChannelInfo env c,
        ∀ user ∈ s.activeUsers.getConnectedUserByDisplayName d,
          s.getUserAccount user.uuid = none := by
  rw [fetchedSender, if_neg hd, CharArray.strncpy_str, CharArray.strncpy_str]
  cases s.getChannelInfo env c with
  | none => simp
  | some channel =>
    cases s.activeUsers.getConnectedUserByDisplayName d with
    | none => simp
    | some user => simp

theorem fetchedSender_short {env : Env} {fs : List Str} (h : fs.length < 4) :
    fetchedSender s env fs = none := by
  fun_cases fetchedSender s env fs with
  | case1 => rfl
  | case2 d c content t rest => simp only [List.length_cons] at h; omega
  | case3 => rfl

theorem fetchedSender_ack {env : Env} (ts : List Str) :
    fetchedSender s env (ascii "200" :: ts) = none := by
  rcases ts with _ | ⟨c, _ | ⟨m, _ | ⟨t, rest⟩⟩⟩
  · rfl
  · rfl
  · rfl
  · rw [fetchedSender, if_pos rfl]

/-- The fields of a message that are within their limits fit, however many there are. -/
theorem inside_messageFieldWrites {ts : List Str}
    (h : ∀ x ∈ ts.zip [tokenNameLength-1, maxMessageSize-1, timestampSize-1], x.1.length ≤ x.2) :
    Inside (messageFieldWrites ts) := by
  have hstamp : Inside (if ts.length < 3 then [] else fillAll timestampSize) := by
    split_ifs
    · exact inside_nil
    · exact inside_fill_self _
  refine inside_append.mpr ⟨inside_append.mpr ⟨?_, ?_⟩, hstamp⟩
  · cases ts with
    | nil => exact inside_nil
    | cons c ts =>
      rw [inside_fieldWrites]
      rintro _ ⟨⟩
      exact (h (c, tokenNameLength-1) List.mem_cons_self).trans (Nat.sub_le _ _)
  · rcases ts with _ | ⟨c, _ | ⟨m, ts⟩⟩
    · exact inside_nil
    · exact inside_nil
    · rw [inside_fieldWrites]
      rintro _ ⟨⟩
      exact (h (m, maxMessageSize-1) (List.mem_cons_of_mem _ List.mem_cons_self)).trans
        (Nat.sub_le _ _)

theorem messageFields_short {ts : List Str} (h : ts.length < 3) :
    ∃ f, messageFields ts = .error f := by
  cases hm : messageFields ts with
  | error f => exact ⟨f, rfl⟩
  | ok y =>
    obtain ⟨c, content, stamp⟩ := y
    obtain ⟨us, t, rest, h₁, h₂, _⟩ := messageFields_eq_ok.mp hm
    rw [nextField_eq_ok.mp h₁, nextField_eq_ok.mp h₂] at h
    simp only [List.length_cons] at h
    omega

/-- What becomes of the four fields of a message that is no acknowledgement. -/
theorem readAndCreateMessageTrace_eq {env : Env} {d c : Name} {content : CharArray maxMessageSize}
    {t : Str} {rest : List Str} (hinc : bodyIncomplete n bytes = false)
    (hfs : fields bytes = d.str :: c.str :: content.str :: t :: rest)
    (hack : d.str ≠ ascii "200") :
    readAndCreateMessageTrace s env n bytes =
      after (bufferWrites bytes)
        (after (fillAll defaultBuffer ++ strtokWrites bytes ++
            fieldWrites tokenNameLength (d.str :: c.str :: content.str :: t :: rest))
          (after (messageFieldWrites (c.str :: content.str :: t :: rest))
            (after (fillAll tokenNameLength)
              (storeNewMessageTrace s env d c content.str (CharArray.strncpy _ t)
                (cstr bytes))))) := by
  have hempty := messageFields_ne_empty (nextField_eq_ok.mpr hfs)
    (messageFields_cons c content t rest)
  rw [readAndCreateMessageTrace, hinc, if_neg Bool.false_ne_true, hfs, nextField_eq_ok.mpr rfl]
  dsimp only
  rw [if_neg hack, messageFields_cons]
  dsimp only
  rw [hempty, if_neg Bool.false_ne_true]

/-- An acknowledgement, and a message without its four fields, come to no account. -/
theorem createMessage_inside_short (hlen : bytes.length < defaultBuffer)
    (hlim : ∀ x ∈ limits (fields bytes) .createMessage, x.1.length ≤ x.2)
    (hinc : bodyIncomplete n bytes = false)
    (h : (fields bytes).head? = some (ascii "200") ∨ (fields bytes).length < 4) :
    Inside (requestWrites s r n bytes .createMessage) := by
  have hforward : Inside (fillAll defaultBuffer ++ strtokWrites bytes) :=
    inside_append.mpr ⟨inside_fill_self _, inside_strtokWrites hlen.le⟩
  rw [requestWrites, readAndCreateMessageTrace, inside_answered_after, hinc,
    if_neg Bool.false_ne_true, inside_answered_after, inside_append]
  refine ⟨inside_bufferWrites hlen.le, ?_⟩
  rw [and_iff_right hforward]
  cases hfs : fields bytes with
  | nil => exact ⟨inside_nil, inside_answered_fault.mpr inside_nil⟩
  | cons d ts =>
    rw [hfs] at hlim h
    by_cases hack : d = ascii "200"
    · subst hack
      have hnext : nextField tokenNameLength (ascii "200" :: ts) =
        .ok (CharArray.strncpy _ (ascii "200"), ts) := nextField_eq_ok.mpr rfl
      rw [hnext]
      refine ⟨inside_fieldWrites.mpr
        (fits_head? (CharArray.strncpy tokenNameLength (ascii "200")) ts), ?_⟩
      refine inside_answered.mpr ⟨inside_nil, ?_⟩
      rintro reply ⟨⟩
      exact inside_nil
    · have hhead : ¬ (d :: ts).head? = some (ascii "200") := by simpa using hack
      rw [limits, if_neg hhead] at hlim
      obtain ⟨d, rfl⟩ := exists_field (hlim (d, tokenNameLength-1) List.mem_cons_self)
      have hshort : ts.length < 3 := Nat.lt_of_succ_lt_succ (h.resolve_left hhead)
      obtain ⟨f, hf⟩ := messageFields_short hshort
      rw [nextField_eq_ok.mpr rfl]
      dsimp only
      rw [if_neg hack, inside_answered_after, hf]
      exact ⟨inside_fieldWrites.mpr (fits_head? d ts),
        inside_messageFieldWrites fun x hx => hlim x (List.mem_cons_of_mem _ hx),
        inside_answered_fault.mpr inside_nil⟩

/-- A request to create a message within the limits. -/
theorem createMessage_inside_iff (hlen : bytes.length < defaultBuffer)
    (hlim : ∀ x ∈ limits (fields bytes) .createMessage, x.1.length ≤ x.2) :
    Inside (requestWrites s r n bytes .createMessage) ↔ WritesFit s r n bytes .createMessage := by
  cases hinc : bodyIncomplete n bytes with
  | true =>
    rw [requestWrites, readAndCreateMessageTrace, hinc, if_pos rfl, inside_answered_after]
    refine iff_of_true ⟨inside_bufferWrites hlen.le, inside_answered.mpr ⟨inside_nil, ?_⟩⟩ ?_
    · rintro reply ⟨⟩
      exact inside_nil
    · intro h
      rw [hinc] at h
      cases h
  | false =>
    by_cases hshort : (fields bytes).head? = some (ascii "200") ∨ (fields bytes).length < 4
    · refine iff_of_true (createMessage_inside_short hlen hlim hinc hshort) (fun _ => ?_)
      rcases hshort with hack | hshort
      · obtain ⟨ts, hts⟩ := List.head?_eq_some_iff.mp hack
        rw [hts]
        exact fetchedSender_ack ts
      · exact fetchedSender_short hshort
    · rw [not_or, Nat.not_lt] at hshort
      rw [limits, if_neg hshort.1] at hlim
      obtain ⟨d, c, m, ts, hfs⟩ := exists_three ((by decide : 3 ≤ 4).trans hshort.2)
      obtain ⟨t, rest, rfl⟩ : ∃ t rest, ts = t :: rest := by
        cases ts with
        | nil => simp [hfs] at hshort
        | cons t rest => exact ⟨t, rest, rfl⟩
      have hack : d ≠ ascii "200" := by simpa [hfs] using hshort.1
      rw [hfs] at hlim
      obtain ⟨d, rfl⟩ := exists_field (hlim (d, tokenNameLength-1) List.mem_cons_self)
      have hrest : ∀ x ∈ (c :: m :: t :: rest).zip [tokenNameLength-1, maxMessageSize-1,
          timestampSize-1], x.1.length ≤ x.2 := fun x hx => hlim x (List.mem_cons_of_mem _ hx)
      have hlog := inside_messageFieldWrites hrest
      obtain ⟨c, rfl⟩ := exists_field (hrest (c, tokenNameLength-1) List.mem_cons_self)
      obtain ⟨m, rfl⟩ := exists_field (hrest (m, maxMessageSize-1)
        (List.mem_cons_of_mem _ List.mem_cons_self))
      have hfirst : Inside (fillAll defaultBuffer ++ strtokWrites bytes ++
          fieldWrites tokenNameLength (d.str :: c.str :: m.str :: t :: rest)) :=
        inside_append.mpr ⟨inside_append.mpr ⟨inside_fill_self _, inside_strtokWrites hlen.le⟩,
          inside_fieldWrites.mpr (fits_head? d _)⟩
      rw [requestWrites, readAndCreateMessageTrace_eq hinc hfs hack, inside_answered_after,
        inside_answered_after, inside_answered_after, inside_answered_after,
        and_iff_right (inside_bufferWrites hlen.le), and_iff_right hfirst, and_iff_right hlog,
        and_iff_right (inside_fill_self _), storeNewMessageTrace_inside,
        ← fetchedSender_eq_none hack, ← hfs]
      exact ⟨fun h _ => h, fun h => h hinc⟩

/-- The last byte of a login record, in the record of an account. -/
theorem mem_createMessage {d c : Name} {content : CharArray maxMessageSize} {t : Str}
    {rest : List Str} (hinc : bodyIncomplete n bytes = false)
    (hfs : fields bytes = d.str :: c.str :: content.str :: t :: rest)
    (h : fetchedSender s r.env (fields bytes) ≠ none) :
    ⟨sizeofUserAccount, sizeofUserLogin-1⟩ ∈ requestWrites s r n bytes .createMessage := by
  rw [hfs] at h
  have hack : d.str ≠ ascii "200" := fun hack => h (hack ▸ fetchedSender_ack _)
  rw [Ne, fetchedSender_eq_none hack] at h
  push Not at h
  obtain ⟨channel, hc, user, hu, ha⟩ := h
  obtain ⟨account, ha⟩ := Option.ne_none_iff_exists'.mp ha
  rw [requestWrites, readAndCreateMessageTrace_eq hinc hfs hack, storeNewMessageTrace,
    Option.mem_def.mp hc]
  refine mem_answered (mem_after (mem_after (mem_after (mem_after (mem_after ?_)))))
  rw [Option.mem_def.mp hu]
  refine mem_after ?_
  rw [ha]
  exact List.mem_append_left _ (mem_fill (by decide) (by decide))

end CreateMessage

section ReadMessage

variable {s : State} {r : Request} {n : ℕ} {bytes : List UInt8}

theorem inside_allMessagesWrites (count : ℕ) : Inside (allMessagesWrites count) := by
  intro x hx
  obtain ⟨i, _, hi⟩ := List.mem_flatMap.mp hx
  rcases List.mem_append.mp hi with hi | hi
  · rcases List.mem_append.mp hi with hi | hi
    · exact inside_fill_self _ x hi
    · rw [List.mem_singleton.mp hi]
      exact Nat.lt_succ_self i
  · exact inside_fill_self _ x hi

section Loop

variable {channelId : Uuid} {size : ℕ} {ms : List MessageInfo}

/-- The loop passes over messages of other channels. -/
theorem messageLoop_of_none (h : ms.find? (fun m => channelId = m.channelId) = none)
    (list : Cursor) (out : List UInt8) :
    messageLoopWrites s channelId size ms list = (list.push 0).block.accesses ∧
      copyMessages s channelId size out ms = .ok out := by
  induction ms with
  | nil => exact ⟨rfl, rfl⟩
  | cons m ms ih =>
    obtain ⟨hm, hms⟩ := List.forall_mem_cons.mp (List.find?_eq_none.mp h)
    have hne : ¬ channelId = m.channelId := by simpa using hm
    rw [messageLoopWrites, if_neg hne, copyMessages, if_neg hne]
    exact ih (List.find?_eq_none.mpr hms)

/-- At the first message of the channel the account of its sender is fetched. -/
theorem messageLoop_of_some {m : MessageInfo}
    (h : ms.find? (fun m => channelId = m.channelId) = some m) (list : Cursor) (out : List UInt8) :
    match s.getUserAccount m.userId with
    | none => messageLoopWrites s channelId size ms list = list.block.accesses ∧
        copyMessages s channelId size out ms = .error .nullPointer
    | some _ => ¬ Inside (messageLoopWrites s channelId size ms list) := by
  induction ms with
  | nil => cases h
  | cons x ms ih =>
    rw [List.find?_cons] at h
    by_cases hx : channelId = x.channelId
    · rw [decide_eq_true hx] at h
      obtain rfl := Option.some.inj h
      rw [messageLoopWrites, if_pos hx, copyMessages, if_pos hx]
      cases s.getUserAccount x.userId with
      | none => exact ⟨rfl, rfl⟩
      | some sender => exact fun hin => not_inside_userAccountWrites (inside_append.mp hin).1
    · rw [decide_eq_false hx] at h
      rw [messageLoopWrites, if_neg hx, copyMessages, if_neg hx]
      exact ih h

end Loop

/-- Building the list makes no access outside and does not return, exactly when it stops at a
`NULL` pointer before it fetches an account. -/
theorem messageListWrites_iff (heap : List UInt8) (messages : List MessageInfo)
    (channel : Option ChannelInfo) :
    (Inside (messageListWrites heap s messages channel) ∧
        ∃ f, buildMessageList s messages channel = .error f) ↔
      messages ≠ [] ∧ ∀ ch ∈ channel,
        ∃ m ∈ messages.find? (fun m => ch.channelId = m.channelId),
          s.getUserAccount m.userId = none := by
  cases messages with
  | nil =>
    refine iff_of_false ?_ (fun h => h.1 rfl)
    rintro ⟨_, f, hf⟩
    cases channel with
    | none => cases hf
    | some ch => cases hf
  | cons x ms =>
    rw [and_iff_right (List.cons_ne_nil x ms)]
    cases channel with
    | none => exact iff_of_true ⟨inside_nil, _, rfl⟩ (fun _ h => by cases h)
    | some ch =>
      change Inside (fillAll sizeofChannelInfo ++ messageLoopWrites s ch.channelId
          (messageListSize ch.channelId (x :: ms)) (x :: ms)
            ⟨.alloc heap (messageListSize ch.channelId (x :: ms)), 0⟩) ∧
        (∃ f, copyMessages s ch.channelId (messageListSize ch.channelId (x :: ms)) [] (x :: ms) =
          .error f) ↔ _
      rw [inside_append, and_iff_right (inside_fill_self _)]
      cases hfind : (x :: ms).find? (fun m => ch.channelId = m.channelId) with
      | none =>
        refine iff_of_false ?_ (fun h => ?_)
        · rintro ⟨_, f, hf⟩
          rw [(messageLoop_of_none hfind
            ⟨.alloc heap (messageListSize ch.channelId (x :: ms)), 0⟩ []).2] at hf
          cases hf
        · obtain ⟨m, hm, _⟩ := h ch rfl
          rw [hfind] at hm
          cases hm
      | some m =>
        have hloop := @messageLoop_of_some s _ (messageListSize ch.channelId (x :: ms)) _ _ hfind
          ⟨.alloc heap (messageListSize ch.channelId (x :: ms)), 0⟩ []
        cases ha : s.getUserAccount m.userId with
        | none =>
          rw [ha] at hloop
          refine iff_of_true ⟨by rw [hloop.1]; exact inside_nil, _, hloop.2⟩ ?_
          rintro _ ⟨⟩
          exact ⟨m, hfind, ha⟩
        | some sender =>
          rw [ha] at hloop
          refine iff_of_false (fun h => hloop h.1) (fun h => ?_)
          obtain ⟨m', hm', ha'⟩ := h ch rfl
          rw [hfind] at hm'
          obtain rfl := Option.some.inj hm'
          rw [ha] at ha'
          cases ha'

/-- The arrays of the two fields, up to the check of the number. -/
theorem inside_readFields {c number : Name} {rest : List Str} (hlen : bytes.length < defaultBuffer) :
    Inside (bufferWrites bytes ++ strtokWrites bytes ++
        fieldWrites tokenNameLength (c.str :: number.str :: rest)) ∧
      Inside (fieldWrites tokenNameLength (number.str :: rest)) := by
  refine ⟨inside_append.mpr ⟨?_, inside_fieldWrites.mpr (fits_head? c _)⟩,
    inside_fieldWrites.mpr (fits_head? number rest)⟩
  exact inside_append.mpr ⟨inside_bufferWrites hlen.le, inside_strtokWrites hlen.le⟩

/-- A request that does not ask for a number is answered before any message is looked at. -/
theorem readMessage_inside_invalid {c number : Name} {rest : List Str}
    (hlen : bytes.length < defaultBuffer) (hfs : fields bytes = c.str :: number.str :: rest)
    (hnumber : isNumber number.str = false) :
    Inside (requestWrites s r n bytes .readMessage) := by
  have hfields := @inside_readFields _ c number rest hlen
  rw [requestWrites, readAndReadMessageTrace, hfs, nextField_eq_ok.mpr rfl, inside_answered_after]
  refine ⟨hfields.1, ?_⟩
  dsimp only
  rw [nextField_eq_ok.mpr rfl, inside_answered_after]
  refine ⟨hfields.2, ?_⟩
  dsimp only
  rw [if_pos hnumber, inside_answered]
  refine ⟨inside_nil, ?_⟩
  rintro reply ⟨⟩
  exact inside_strcats (by decide)

theorem readFields_ne_empty {c number : Name} {rest : List Str}
    (hfs : fields bytes = c.str :: number.str :: rest) : (c.isEmpty || number.isEmpty) = false := by
  rw [isEmpty_of_mem_fields (hfs ▸ List.mem_cons_self),
    isEmpty_of_mem_fields (hfs ▸ List.mem_cons_of_mem _ List.mem_cons_self)]
  rfl

/-- A request for a number of messages. -/
theorem readMessage_inside_number {c number : Name} {rest : List Str}
    (hlen : bytes.length < defaultBuffer) (hfs : fields bytes = c.str :: number.str :: rest)
    (hnumber : isNumber number.str = true) :
    Inside (requestWrites s r n bytes .readMessage) ↔ StopsAtNull s r.env c.str := by
  have hfields := @inside_readFields _ c number rest hlen
  have hempty := readFields_ne_empty hfs
  rw [requestWrites, readAndReadMessageTrace, hfs, nextField_eq_ok.mpr rfl, inside_answered_after,
    and_iff_right hfields.1]
  dsimp only
  rw [nextField_eq_ok.mpr rfl, inside_answered_after, and_iff_right hfields.2]
  dsimp only
  rw [hnumber, if_neg (by decide), hempty, if_neg Bool.false_ne_true, inside_answered_after,
    inside_append, and_iff_right (inside_allMessagesWrites _), StopsAtNull, CharArray.strncpy_str,
    ← messageListWrites_iff r.env.heap]
  cases hbuild : buildMessageList s (s.getAllMessages r.env) (s.getChannelInfo r.env c) with
  | error f =>
    rw [and_iff_left (inside_answered_fault.mpr inside_nil)]
    exact ⟨fun h => ⟨h, f, rfl⟩, fun h => h.1⟩
  | ok list =>
    -- the copy to message_info_out always writes the same number of bytes
    refine iff_of_false (fun h => ?_) ?_
    · have hcopy := (inside_append.mp (inside_answered.mp h.2).1).2
      exact absurd (inside_fill.mp hcopy) (by decide)
    · rintro ⟨_, f, hf⟩
      cases hf

/-- A request to read messages within the limits. -/
theorem readMessage_inside_iff (hlen : bytes.length < defaultBuffer)
    (hlim : ∀ x ∈ limits (fields bytes) .readMessage, x.1.length ≤ x.2) :
    Inside (requestWrites s r n bytes .readMessage) ↔ WritesFit s r n bytes .readMessage := by
  have hbuffer : Inside (bufferWrites bytes ++ strtokWrites bytes) :=
    inside_append.mpr ⟨inside_bufferWrites hlen.le, inside_strtokWrites hlen.le⟩
  rcases hfs : fields bytes with _ | ⟨c, _ | ⟨number, rest⟩⟩
  · rw [requestWrites, readAndReadMessageTrace, hfs, inside_answered_after, WritesFit, hfs]
    refine iff_of_true ⟨inside_append.mpr ⟨hbuffer, inside_nil⟩, ?_⟩ (fun c n rest h => by cases h)
    exact inside_answered_fault.mpr inside_nil
  · rw [hfs] at hlim
    obtain ⟨c, rfl⟩ := exists_field (hlim (c, tokenNameLength-1) List.mem_cons_self)
    rw [requestWrites, readAndReadMessageTrace, hfs, inside_answered_after, inside_append,
      and_iff_right hbuffer, WritesFit, hfs, nextField_eq_ok.mpr rfl]
    refine iff_of_true ⟨inside_fieldWrites.mpr (fits_head? c []), ?_⟩ (fun c n rest h => by cases h)
    exact inside_answered_after.mpr ⟨inside_nil, inside_answered_fault.mpr inside_nil⟩
  · rw [hfs] at hlim
    obtain ⟨c, rfl⟩ := exists_field (hlim (c, tokenNameLength-1) List.mem_cons_self)
    have hfit : WritesFit s r n bytes .readMessage ↔ number.length ≤ tokenNameLength ∧
        (isNumber number = false ∨ StopsAtNull s r.env c.str) := by
      rw [WritesFit, hfs]
      constructor
      · intro h
        exact h _ _ _ rfl
      · rintro h c' n' rest' ⟨⟩
        exact h
    rw [hfit]
    by_cases hlong : number.length ≤ tokenNameLength
    · obtain ⟨number, rfl⟩ : ∃ a : Name, a.str = number := ⟨⟨number, hlong⟩, rfl⟩
      rw [and_iff_right hlong]
      cases hnumber : isNumber number.str with
      | false => exact iff_of_true (readMessage_inside_invalid hlen hfs hnumber) (Or.inl rfl)
      | true =>
        rw [readMessage_inside_number hlen hfs hnumber, or_iff_right (by decide)]
    · refine iff_of_false (fun h => hlong ?_) (fun h => hlong h.1)
      rw [requestWrites, readAndReadMessageTrace, hfs, nextField_eq_ok.mpr rfl,
        inside_answered_after] at h
      exact inside_fieldWrites.mp (inside_answered_after.mp h.2).1 number rfl

/-- The last byte that `strncpy` pads in `message_info_out`. -/
theorem mem_readMessage {c number : Name} {rest : List Str} {list : Str}
    (hfs : fields bytes = c.str :: number.str :: rest) (hnumber : isNumber number.str = true)
    (hbuild : buildMessageList s (s.getAllMessages r.env) (s.getChannelInfo r.env c) = .ok list) :
    ⟨maxMsgHistoryRes, maxMsgHistoryRes+sizeofWord-1⟩ ∈ requestWrites s r n bytes .readMessage := by
  have hempty := readFields_ne_empty hfs
  rw [requestWrites, readAndReadMessageTrace, hfs, nextField_eq_ok.mpr rfl]
  refine mem_answered (mem_after (mem_after ?_))
  rw [nextField_eq_ok.mpr rfl]
  dsimp only
  rw [hnumber, if_neg (by decide), hempty, if_neg Bool.false_ne_true]
  refine mem_after ?_
  rw [hbuild]
  exact List.mem_append_right _ (mem_fill (by decide) (by decide))

end ReadMessage

/-- Within the limits, every access of the handler and its responder is inside its array if and
only if none of the branches with a wrong size is taken. -/
theorem writes_inside_iff (s : State) (r : Request) (k : RequestKind) (header : ChatHeader)
    (rest : List UInt8) (hd : r.decode = .serve k header rest)
    (hk : k = .createChannel ∨ k = .createMessage ∨ k = .readMessage) (hlim : ¬ r.OverLong) :
    Inside (requestWrites s r header.bodySize (rest.take header.bodySize) k) ↔
      WritesFit s r header.bodySize (rest.take header.bodySize) k := by
  simp only [Request.OverLong, hd, not_or, not_exists, not_and, Nat.not_le, Nat.not_lt] at hlim
  have hlen : (rest.take header.bodySize).length < defaultBuffer :=
    lt_of_le_of_lt (List.length_take_le _ _) hlim.1
  rcases hk with rfl | rfl | rfl
  · exact createChannel_inside_iff hlen hlim.2
  · exact createMessage_inside_iff hlen hlim.2
  · exact readMessage_inside_iff hlen hlim.2

/-- The limits, for a request that is known. -/
theorem not_overLong {r : Request} {k : RequestKind} {header : ChatHeader} {rest : List UInt8}
    (hd : r.decode = .serve k header rest)
    (h : ¬ (defaultBuffer ≤ header.bodySize.val ∨
      ∃ x ∈ limits (fields (rest.take header.bodySize)) k, x.2 < x.1.length)) : ¬ r.OverLong := by
  rw [Request.OverLong, hd]
  exact h

/-- The user of `bobLife` asks for a channel. -/
def channelRequest (name : String) : Request :=
  Client.createChannel 5 "10.0.0.1" name "bob" "1" "44444444-4444-4444-4444-444444444444"

theorem writes_inside_channelRequest :
    Inside (requestWrites (Life.run bobLife).state (channelRequest "tea") 10
      (Client.body ["tea", "bob", "1"]) .createChannel) := by
  have hdecode : (channelRequest "tea").decode = .serve .createChannel
      ⟨currentVersion, 1, 2, 10⟩ (Client.body ["tea", "bob", "1"]) := by decide +kernel
  refine (writes_inside_iff (Life.run bobLife).state (channelRequest "tea") _ _ _ hdecode
    (Or.inl rfl) (not_overLong hdecode (by decide +kernel))).mpr ?_
  intro _ c d p rest hfs _
  have hfields : fields (Client.body ["tea", "bob", "1"]) =
      [ascii "tea", ascii "bob", ascii "1"] := by decide +kernel
  obtain ⟨rfl, _⟩ := List.cons.inj (hfields.symm.trans hfs)
  decide

/-- The user posts to the global channel. -/
def messageRequest : Request :=
  Client.createMessage 5 "10.0.0.1" "bob" "global" "hi" "noon"
    "44444444-4444-4444-4444-444444444444"

/-- The user asks for the messages of the global channel. -/
def historyRequest : Request := Client.readMessages 5 "10.0.0.1" "global" "1"

/-- For a channel name of 20 bytes `token_out` is written behind its end, for a message the record
of the account, and for the question for messages `message_info_out`. -/
theorem writes_outside :
    (¬ (channelRequest "abcdefghijklmnopqrst").OverLong ∧
      ⟨tokenNameLength, 21⟩ ∈ requestWrites (Life.run bobLife).state
        (channelRequest "abcdefghijklmnopqrst") 27
        (Client.body ["abcdefghijklmnopqrst", "bob", "1"]) .createChannel) ∧
    (¬ messageRequest.OverLong ∧
      ⟨sizeofUserAccount, 88⟩ ∈ requestWrites (Life.run bobLife).state messageRequest 19
        (Client.body ["bob", "global", "hi", "noon"]) .createMessage) ∧
    ¬ historyRequest.OverLong ∧
      ⟨maxMsgHistoryRes, 8199⟩ ∈ requestWrites (Life.run bobLife).state historyRequest 9
        (Client.body ["global", "1"]) .readMessage := by
  have hchannel : (channelRequest "abcdefghijklmnopqrst").decode = .serve .createChannel
      ⟨currentVersion, 1, 2, 27⟩ (Client.body ["abcdefghijklmnopqrst", "bob", "1"]) := by
    decide +kernel
  have hmessage : messageRequest.decode = .serve .createMessage ⟨currentVersion, 1, 3, 19⟩
      (Client.body ["bob", "global", "hi", "noon"]) := by decide +kernel
  have hhistory : historyRequest.decode = .serve .readMessage ⟨currentVersion, 2, 3, 9⟩
      (Client.body ["global", "1"]) := by decide +kernel
  refine ⟨⟨not_overLong hchannel (by decide +kernel), ?_⟩,
    ⟨not_overLong hmessage (by decide +kernel), ?_⟩, not_overLong hhistory (by decide +kernel), ?_⟩
  · have hfs : fields (Client.body ["abcdefghijklmnopqrst", "bob", "1"]) =
        (CharArray.strncpy tokenNameLength (ascii "abcdefghijklmnopqrst")).str ::
          (CharArray.strncpy tokenNameLength (ascii "bob")).str :: ascii "1" :: [] := by
      decide +kernel
    have hmay : MayCreate (Life.run bobLife).state
        (channelRequest "abcdefghijklmnopqrst").clntAddr
        (CharArray.strncpy tokenNameLength (ascii "abcdefghijklmnopqrst")).str
        (CharArray.strncpy tokenNameLength (ascii "bob")).str (ascii "1") :=
      (@mayCreate_iff _ Client.firstEnv ..).mpr (by decide +kernel)
    exact mem_createChannel (by decide +kernel) hfs hmay
  · have hfs : fields (Client.body ["bob", "global", "hi", "noon"]) =
        (CharArray.strncpy tokenNameLength (ascii "bob")).str :: globalName.str ::
          (CharArray.strncpy maxMessageSize (ascii "hi")).str :: ascii "noon" :: [] := by
      decide +kernel
    exact mem_createMessage (by decide +kernel) hfs (by decide +kernel)
  · have hfs : fields (Client.body ["global", "1"]) =
        globalName.str :: (CharArray.strncpy tokenNameLength (ascii "1")).str :: [] := by
      decide +kernel
    have hbuild : buildMessageList (Life.run bobLife).state
        ((Life.run bobLife).state.getAllMessages historyRequest.env)
        ((Life.run bobLife).state.getChannelInfo historyRequest.env globalName) = .ok [] := by
      decide +kernel
    exact mem_readMessage hfs (by decide) hbuild

end ChatServer
