import ChatServer.Handler.UpdateParser
import ChatServer.HandlerCalls
import ChatServer.Invariant.CStrings
import ChatServer.Server

/-!
# The wrappers refine maps keyed by strings

A key is a window of bytes, so that two equal strings are the same key only if the bytes behind them
are equal too. Every buffer that a handler hands to a wrapper is zero behind its string, whatever
the memory held before; on such buffers the files answer as maps keyed by the strings do.
-/

namespace ChatServer

open CLib

/-- The arrays of every session in use and of every stored message are zero behind their strings. -/
structure Memory.Padded (m : Memory) : Prop where
  sessions : ∀ u ∈ m.slots, u.named = true →
    ChatServer.Padded tokenNameLength u.loginToken ∧ ChatServer.Padded uuidLen u.uuid
  senders : ∀ b ∈ m.senders, ChatServer.Padded uuidLen b

/-- The program calls the wrappers with padded buffers only, as long as it gets such from them, and
leaves the memory padded. -/
abbrev KeepsPadding (p : Calls Memory) : Prop :=
  p.Meets WrapperCall.Padded WrapperCall.AnswerPadded Memory.Padded

section Buffers

variable {n : ℕ} {b : List UInt8}

/-- A copy of a padded buffer, over whatever was there. -/
theorem Padded.copy (h : Padded n b) {dst : List UInt8} (hd : dst.length = n) :
    strncpy dst (cstr b) n = b := by
  obtain ⟨a, ha, rfl⟩ := h
  rw [CharArray.strncpy_full hd]
  exact congrArg CharArray.bytes (CharArray.ofBytes_bytes ha.clean)

theorem Padded.set_terminator (h : Padded n b) : b.set (cstr b).length 0 = b := by
  obtain ⟨a, ha, rfl⟩ := h
  rw [CharArray.cstr_bytes ha.clean, CharArray.set_terminator]

theorem Padded.strcpy (h : Padded n b) : strcpy (zeroed n) (cstr b) = b := by
  obtain ⟨a, ha, rfl⟩ := h
  rw [CharArray.cstr_bytes ha.clean, CharArray.strcpy_zeroed ha.short]

theorem length_zeroed (n : ℕ) : (zeroed n).length = n := List.length_replicate

/-- The first `j` fields are names, and none has a zero inside. -/
def NamesFirst (j : ℕ) (fs : List Str) : Prop :=
  (∀ t ∈ fs, 0 ∉ t) ∧ ∀ t ∈ fs.take j, t.length ≤ 20

/-- A name in a cleared array is padded. -/
theorem NamesFirst.next {j : ℕ} {fs ts : List Str} (hfs : NamesFirst (j+1) fs)
    (h : nextBuffer tokenNameLength fs = some (b, ts)) :
    Padded tokenNameLength b ∧ NamesFirst j ts := by
  cases fs with
  | nil => cases h
  | cons t fs =>
    have ht : t.length < tokenNameLength := Nat.lt_succ_of_le (hfs.2 t (by simp))
    rw [nextBuffer, if_pos ht.le] at h
    cases h
    refine ⟨⟨⟨t, ht.le⟩, ⟨hfs.1 t List.mem_cons_self, ht⟩, CharArray.strncpy_zeroed ht.le⟩, ?_, ?_⟩
    · exact fun u hu => hfs.1 u (List.mem_cons_of_mem t hu)
    · intro u hu
      exact hfs.2 u (by rw [List.take_succ_cons]; exact List.mem_cons_of_mem t hu)

theorem nextBuffer_rest {fs ts : List Str} (h : nextBuffer n fs = some (b, ts)) :
    ts = fs.tail := by
  cases fs with
  | nil => cases h
  | cons t fs =>
    rw [nextBuffer] at h
    split at h
    · cases h; rfl
    · cases h

end Buffers

section Records

/-- A record generated from padded buffers. -/
theorem LoginRecord.padded_generate {loginToken password userId : List UInt8}
    (ht : ChatServer.Padded tokenNameLength loginToken) (hu : ChatServer.Padded uuidLen userId) :
    (LoginRecord.generate loginToken password userId).Padded := by
  rw [generate, ht.copy (length_zeroed _), hu.copy (length_zeroed _),
    CharArray.strncpy_full (length_zeroed _)]
  obtain ⟨t, ht, rfl⟩ := ht
  obtain ⟨u, hu, rfl⟩ := hu
  refine ⟨⟨t, CharArray.strncpy _ (cstr password), u⟩, ⟨ht, ?_, hu⟩, rfl⟩
  exact fun h0 => zero_not_mem_cstr password (List.mem_of_mem_take h0)

theorem AccountRecord.padded_generate {uuid displayName : List UInt8}
    (hu : ChatServer.Padded uuidLen uuid) : (AccountRecord.generate uuid displayName).Padded := by
  rw [generate, hu.copy (length_zeroed _), CharArray.strncpy_full (length_zeroed _),
    CharArray.strncpy_full (length_zeroed _)]
  obtain ⟨u, hu, rfl⟩ := hu
  have haddr : 0 ∉ (CharArray.strncpy clntIpAddrLength (ascii "0")).str := by decide
  refine ⟨⟨u, CharArray.strncpy _ (cstr displayName), CharArray.strncpy _ (ascii "0"), false, _⟩,
    ⟨hu, ?_, haddr⟩, rfl⟩
  exact fun h0 => zero_not_mem_cstr displayName (List.mem_of_mem_take h0)

/-- An account with another address, status and privilege. -/
theorem AccountRecord.padded_withAddress {a : AccountRecord} (h : a.Padded) {addr : Str}
    (haddr : 0 ∉ addr) (online : Bool) (privilege : Int) :
    AccountRecord.Padded { a with ipAddr := strncpy a.ipAddr addr clntIpAddrLength
                                  onlineStatus := online
                                  privilegeLevel := privilege } := by
  obtain ⟨a, ha, rfl⟩ := h
  have hip : strncpy a.record.ipAddr addr clntIpAddrLength =
      (CharArray.strncpy clntIpAddrLength addr).bytes :=
    CharArray.strncpy_full (CharArray.length_bytes a.ipAddr) addr
  rw [hip]
  refine ⟨⟨a.userId, a.displayName, CharArray.strncpy _ addr, online, privilege⟩,
    ⟨ha.userId, ha.displayName, ?_⟩, rfl⟩
  exact fun h0 => haddr (List.mem_of_mem_take h0)

variable {l : LoginRecord} {a : AccountRecord}

theorem LoginRecord.Padded.loginToken (h : l.Padded) :
    ChatServer.Padded tokenNameLength l.loginToken := by
  obtain ⟨l, hl, rfl⟩ := h
  exact ⟨l.loginToken, hl.loginToken, rfl⟩

theorem LoginRecord.Padded.uuid (h : l.Padded) : ChatServer.Padded uuidLen l.uuid := by
  obtain ⟨l, hl, rfl⟩ := h
  exact ⟨l.uuid, hl.uuid, rfl⟩

theorem AccountRecord.Padded.userId (h : a.Padded) : ChatServer.Padded uuidLen a.userId := by
  obtain ⟨a, ha, rfl⟩ := h
  exact ⟨a.userId, ha.userId, rfl⟩

end Records

namespace Memory.Padded

variable {m : Memory} (h : m.Padded)
include h

theorem dead : m.dead.Padded := ⟨h.sessions, h.senders⟩

theorem live {u : Session} (hu : u ∈ m.live) :
    ChatServer.Padded tokenNameLength u.loginToken ∧ ChatServer.Padded uuidLen u.uuid :=
  h.sessions u (List.takeWhile_subset _ hu) (Slots.prop_of_mem_live hu)

theorem find {q : Session → Bool} {u : Session} (hu : m.live.find? q = some u) :
    ChatServer.Padded tokenNameLength u.loginToken ∧ ChatServer.Padded uuidLen u.uuid :=
  h.live (List.mem_of_find?_eq_some hu)

/-- The new session is built in cleared memory from padded records. -/
theorem insertUserInCache (fd : ℕ) {a : AccountRecord} {l : LoginRecord} (ha : a.Padded)
    (hl : l.Padded) : (m.insertUserInCache fd a l).Padded := by
  rw [Memory.insertUserInCache]
  split
  · refine ⟨fun u hu hnamed => ?_, h.senders⟩
    obtain hu | rfl := List.mem_or_eq_of_mem_set hu
    · exact h.sessions u hu hnamed
    · rw [Memory.newSession, hl.loginToken.strcpy, ha.userId.strcpy]
      exact ⟨hl.loginToken, ha.userId⟩
  · exact h.dead

/-- A session that stays keeps its bytes, and the blanked slot is not in use. -/
theorem removeUserInCache (displayName : List UInt8) :
    (m.removeUserInCache displayName).Padded := by
  refine ⟨fun u hu hnamed => ?_, h.senders⟩
  rw [Memory.removeUserInCache] at hu
  dsimp only at hu
  rw [Slots.removeFirst] at hu
  split at hu
  · exact h.sessions u hu hnamed
  · obtain hu | hu := List.mem_append.mp hu
    · obtain hu | hu := List.mem_append.mp hu
      · exact h.sessions u (List.mem_of_mem_take (List.eraseIdx_subset hu)) hnamed
      · obtain ⟨v, _, rfl⟩ := Option.map_eq_some_iff.mp (Option.mem_toList.mp hu)
        exfalso
        revert hnamed
        cases hv : v.dsplyName <;> simp [Session.named, Session.blank, hv]
    · exact h.sessions u (List.mem_of_mem_drop hu) hnamed

end Memory.Padded

namespace HandlerCalls

variable {m : Memory} (h : m.Padded) (r : Request)
include h

theorem keepsPadding_createUser {fs : List Str} (hfs : NamesFirst 2 fs)
    (huuid : 0 ∉ r.env.uuid.str ∧ r.env.uuid.str.length = 36) :
    KeepsPadding (createUser m r fs) := by
  have hu : Padded uuidLen (strcpy (malloc r.env.heap uuidLen) r.env.uuid.str) := by
    have hfull : r.env.uuid.str.length+1 = uuidLen := by rw [huuid.2]
    exact ⟨_, ⟨huuid.1, by rw [huuid.2]; decide⟩,
      CharArray.strcpy_exact (length_malloc _ _) hfull⟩
  rw [createUser]
  cases h₁ : nextBuffer tokenNameLength fs with
  | none => exact h.dead
  | some x =>
    obtain ⟨loginToken, ts⟩ := x
    obtain ⟨ht, hts⟩ := hfs.next h₁
    dsimp only
    cases h₂ : nextBuffer tokenNameLength ts with
    | none => exact h.dead
    | some y =>
      obtain ⟨displayName, us⟩ := y
      obtain ⟨hd, _⟩ := hts.next h₂
      refine .perform ht fun loginInfo _ => .perform hd fun isDuplicate _ => ?_
      split
      · exact h
      · cases nextBuffer pswdMaxLength us with
        | none => exact h.dead
        | some z =>
          refine .perform ⟨hd, hu⟩ fun _ _ => ?_
          refine .perform (LoginRecord.padded_generate ht hu) fun _ _ => ?_
          exact .perform (AccountRecord.padded_generate hu) fun _ _ => h

theorem keepsPadding_removeUser {displayName : List UInt8} {loginInfo : Option LoginRecord}
    (hd : Padded tokenNameLength displayName) (hl : ∀ l ∈ loginInfo, l.Padded)
    (credentials : Option Bool) :
    KeepsPadding (removeUser m displayName loginInfo credentials) := by
  rw [removeUser.eq_def]
  split
  · exact h.dead
  · exact h
  · cases loginInfo with
    | none => exact h.dead
    | some l =>
      have hl := hl l rfl
      exact .perform hd fun _ _ => .perform hl.uuid fun _ _ => .perform hl.loginToken fun _ _ => h

/-- The copy of the login token overwrites all of the allocated memory. -/
theorem keepsPadding_destroyNamed {displayName loginToken : List UInt8} (password : List UInt8)
    (hd : Padded tokenNameLength displayName) (ht : Padded tokenNameLength loginToken) :
    KeepsPadding (destroyNamed m r displayName loginToken password) := by
  rw [destroyNamed]
  cases hs : m.live.find? fun u => u.fd = r.fd with
  | none => exact h.dead
  | some sender =>
    obtain ⟨hst, hsu⟩ := h.find hs
    dsimp only
    rw [ht.copy (length_malloc _ _), ht.set_terminator]
    refine .perform hst fun senderLogin _ => .perform hsu fun senderAccount _ => ?_
    refine .perform ht fun loginInfo hl => ?_
    cases loginInfo with
    | some l => exact keepsPadding_removeUser h hd hl _
    | none =>
      cases senderAccount with
      | none => exact h.dead
      | some account =>
        dsimp only
        split
        · exact h
        · exact keepsPadding_removeUser h hd hl _

theorem keepsPadding_destroyUser {fs : List Str} (hfs : NamesFirst 2 fs) :
    KeepsPadding (destroyUser m r fs) := by
  rw [destroyUser]
  cases h₁ : nextBuffer tokenNameLength fs with
  | none => exact h.dead
  | some x =>
    obtain ⟨displayName, ts⟩ := x
    obtain ⟨hd, hts⟩ := hfs.next h₁
    dsimp only
    cases h₂ : nextBuffer tokenNameLength ts with
    | none => exact h.dead
    | some y =>
      obtain ⟨loginToken, us⟩ := y
      dsimp only
      cases nextBuffer pswdMaxLength us with
      | none => exact h.dead
      | some z =>
        dsimp only
        split
        · exact h
        · exact keepsPadding_destroyNamed h r _ hd (hts.next h₂).1

theorem keepsPadding_loginAccount {l : LoginRecord} {a : AccountRecord} (hl : l.Padded)
    (ha : a.Padded) (haddr : 0 ∉ r.clntAddr.str) : KeepsPadding (loginAccount m r l a) := by
  have hin : (a.login r.clntAddr).Padded := AccountRecord.padded_withAddress ha haddr _ _
  rw [loginAccount]
  split
  · exact h.insertUserInCache r.fd ha hl
  · refine .perform hin fun _ _ => ?_
    split
    · exact h
    · exact h.insertUserInCache r.fd hin hl

theorem keepsPadding_login {fs : List Str} (hfs : NamesFirst 1 fs) (haddr : 0 ∉ r.clntAddr.str) :
    KeepsPadding (login m r fs) := by
  rw [login]
  cases h₁ : nextBuffer tokenNameLength fs with
  | none => exact h.dead
  | some x =>
    obtain ⟨loginToken, ts⟩ := x
    obtain ⟨ht, _⟩ := hfs.next h₁
    dsimp only
    cases nextBuffer pswdMaxLength ts with
    | none => exact h.dead
    | some y =>
      refine .perform ht fun loginInfo hl => ?_
      cases loginInfo with
      | none => exact h
      | some l =>
        have hl : l.Padded := hl l rfl
        dsimp only
        split
        · exact h
        · rw [hl.uuid.copy (length_malloc _ _), hl.uuid.set_terminator]
          refine .perform hl.uuid fun account ha => ?_
          cases account with
          | none => exact h.dead
          | some a => exact keepsPadding_loginAccount h r hl (ha a rfl) haddr

theorem keepsPadding_logout {fs : List Str} (hfs : NamesFirst 1 fs) :
    KeepsPadding (logout m r fs) := by
  rw [logout]
  cases h₁ : nextBuffer tokenNameLength fs with
  | none => exact h.dead
  | some x =>
    obtain ⟨displayName, ts⟩ := x
    refine .perform (hfs.next h₁).1 fun uuidOfUser hu => ?_
    cases uuidOfUser with
    | none => exact h
    | some u =>
      refine .perform (hu u rfl) fun account ha => ?_
      cases account with
      | none => exact h
      | some a =>
        dsimp only
        split
        · exact h
        · split
          · exact h.dead
          · split
            · exact h
            · have hout : a.logout.Padded :=
                AccountRecord.padded_withAddress (ha a rfl) (by decide) _ _
              exact .perform hout fun _ _ => h.removeUserInCache _

theorem keepsPadding_createChannel {fs : List Str} (hfs : NamesFirst 1 fs.tail) :
    KeepsPadding (createChannel m r fs) := by
  rw [createChannel]
  cases h₁ : nextBuffer tokenNameLength fs with
  | none => exact h.dead
  | some x =>
    obtain ⟨channelName, ts⟩ := x
    rw [← nextBuffer_rest h₁] at hfs
    cases ts with
    | nil => exact h
    | cons t ts =>
      dsimp only
      cases h₂ : nextBuffer tokenNameLength (t :: ts) with
      | none => exact h.dead
      | some y =>
        obtain ⟨displayName, us⟩ := y
        cases us with
        | nil => exact h.dead
        | cons publicity us =>
          dsimp only
          split
          · exact h
          · split
            · exact .perform (hfs.next h₂).1 fun _ _ => h
            · exact h

/-- The uuid of a session and the one of a login record are copied to cleared memory. -/
theorem keepsPadding_postMessage {user : Session}
    (hu : Padded tokenNameLength user.loginToken ∧ Padded uuidLen user.uuid) :
    KeepsPadding (postMessage m user) := by
  rw [postMessage, hu.2.copy (length_zeroed _)]
  refine .perform hu.2 fun account _ => ?_
  cases account with
  | none => exact h.dead
  | some a =>
    dsimp only
    split
    · exact h.dead
    · refine .perform hu.1 fun userLogin hl => ?_
      cases userLogin with
      | none => exact h.dead
      | some l =>
        have hl : l.Padded := hl l rfl
        refine ⟨h.sessions, fun b hb => ?_⟩
        obtain hb | hb := List.mem_append.mp hb
        · exact h.senders b hb
        · rw [List.mem_singleton.mp hb, hl.uuid.copy (length_zeroed _)]
          exact hl.uuid

theorem keepsPadding_createMessage (channelFound : Bool) (fs : List Str) :
    KeepsPadding (createMessage m channelFound fs) := by
  rw [createMessage]
  cases nextBuffer tokenNameLength fs with
  | none => exact h.dead
  | some x =>
    obtain ⟨displayName, ts⟩ := x
    dsimp only
    split
    · exact h
    · cases messageFields ts with
      | error f => exact h.dead
      | ok y =>
        dsimp only
        split
        · exact h
        · split
          · exact h
          · cases hs : m.live.find? fun u => cstr u.dsplyName = cstr displayName with
            | none => exact h.dead
            | some user => exact keepsPadding_postMessage h (h.find hs)

theorem keepsPadding_lookUpSenders {userIds : List (List UInt8)}
    (hu : ∀ b ∈ userIds, Padded uuidLen b) : KeepsPadding (lookUpSenders m userIds) := by
  induction userIds with
  | nil => exact h
  | cons userId userIds ih =>
    refine .perform (hu userId List.mem_cons_self) fun msgSender _ => ?_
    split
    · exact h.dead
    · exact ih fun b hb => hu b (List.mem_cons_of_mem userId hb)

theorem keepsPadding_readMessage (listed : List ℕ) (bytes : List UInt8) :
    KeepsPadding (readMessage m listed bytes) := by
  rw [readMessage]
  cases readMessageFields bytes with
  | error f => exact h.dead
  | ok x =>
    dsimp only
    split
    · exact h
    · split
      · exact h
      · refine keepsPadding_lookUpSenders h fun b hb => ?_
        obtain ⟨i, _, hi⟩ := List.mem_filterMap.mp hb
        exact h.senders b (List.mem_of_getElem? hi)

theorem keepsPadding_checkNames {names : List (List UInt8)}
    (hn : ∀ b ∈ names, Padded tokenNameLength b) : KeepsPadding (checkNames m names) := by
  induction names with
  | nil => exact h
  | cons name names ih =>
    refine .perform (hn name List.mem_cons_self) fun found _ => ?_
    split
    · exact ih fun b hb => hn b (List.mem_cons_of_mem name hb)
    · exact h

omit h in
/-- The names in the lists of an update are fields of its body. -/
theorem text_of_listedNames {fs : List Str} (hclean : ∀ t ∈ fs, 0 ∉ t)
    (hshort : ∀ t ∈ names fs .updateChannel, t.length ≤ 20) {u : UpdateRequest}
    (hu : parseUpdate fs = .ok u) {name : Name} (hname : name ∈ listedNames u) : name.Text := by
  obtain ⟨l, hl, hm⟩ := List.mem_flatMap.mp hname
  obtain ⟨t, ht, he⟩ := (from_parseUpdate hu l hl).members hm
  have hlen : name.str.length ≤ 20 := by
    apply hshort
    rw [names, hu]
    exact List.mem_map_of_mem hname
  refine ⟨?_, Nat.lt_succ_of_le hlen⟩
  rw [he]
  exact fun h0 => hclean t ht (List.mem_of_mem_take h0)

omit h in
/-- A slot of a cleared list takes a name as it is. -/
theorem strncpy_name (name : Name) :
    strncpy (zeroed tokenNameLength) name.str tokenNameLength = name.bytes := by
  rw [CharArray.strncpy_full (length_zeroed _), CharArray.strncpy_str]

theorem keepsPadding_updateChannel (channelFound : Bool) {fs : List Str} (hclean : ∀ t ∈ fs, 0 ∉ t)
    (hshort : ∀ t ∈ names fs .updateChannel, t.length ≤ 20) :
    KeepsPadding (updateChannel m channelFound fs) := by
  rw [updateChannel]
  cases hu : parseUpdate fs with
  | error e =>
    cases e with
    | badRequest => exact h
    | fault f => exact h.dead
  | ok u =>
    dsimp only
    split
    · exact h
    · refine keepsPadding_checkNames h fun b hb => ?_
      obtain ⟨name, hname, rfl⟩ := List.mem_map.mp hb
      exact ⟨name, text_of_listedNames hclean hshort hu hname, strncpy_name name⟩

theorem keepsPadding_createAdmin (heap : List UInt8) : KeepsPadding (createAdmin m heap) := by
  have ha : Padded tokenNameLength adminName.bytes := ⟨adminName, ⟨by decide, by decide⟩, rfl⟩
  have hu : Padded uuidLen adminUuid.bytes := ⟨adminUuid, ⟨by decide, by decide⟩, rfl⟩
  have hl : LoginRecord.Padded ⟨adminName.bytes,
      (CharArray.strncpy pswdMaxLength (ascii "admin")).bytes, adminUuid.bytes⟩ :=
    ⟨⟨adminName, CharArray.strncpy _ (ascii "admin"), adminUuid⟩,
      ⟨⟨by decide, by decide⟩, by decide, ⟨by decide, by decide⟩⟩, rfl⟩
  rw [createAdmin, hu.copy (length_malloc _ _)]
  refine .perform ha fun found _ => ?_
  split
  · exact h
  · refine .perform ⟨ha, hu⟩ fun _ _ => .perform hl fun _ _ => ?_
    exact .perform (AccountRecord.padded_generate hu) fun _ _ => h

theorem keepsPadding_handler (channelFound : Bool) (listed : List ℕ) (bodySize : ℕ)
    (bytes : List UInt8) (k : RequestKind) (hnames : ∀ t ∈ names (fields bytes) k, t.length ≤ 20)
    (huuid : 0 ∉ r.env.uuid.str ∧ r.env.uuid.str.length = 36) (haddr : 0 ∉ r.clntAddr.str) :
    KeepsPadding (handler m r channelFound listed bodySize bytes k) := by
  have hclean : ∀ t ∈ fields bytes, 0 ∉ t := fun t ht => zero_not_mem_field ht
  unfold handler
  split
  · exact h
  · cases k with
    | createUser => exact keepsPadding_createUser h r ⟨hclean, hnames⟩ huuid
    | destroyUser => exact keepsPadding_destroyUser h r ⟨hclean, hnames⟩
    | createChannel =>
      exact keepsPadding_createChannel h r ⟨fun t ht => hclean t (List.mem_of_mem_tail ht), hnames⟩
    | readChannel => exact h
    | updateChannel => exact keepsPadding_updateChannel h channelFound hclean hnames
    | createMessage => exact keepsPadding_createMessage h channelFound _
    | readMessage => exact keepsPadding_readMessage h listed bytes
    | login => exact keepsPadding_login h r ⟨hclean, hnames⟩ haddr
    | logout => exact keepsPadding_logout h r ⟨hclean, hnames⟩

theorem keepsPadding_request (hr : r.Plain) (channelFound : Bool) (listed : List ℕ) :
    KeepsPadding (request m r channelFound listed) := by
  have hnames := hr.names
  rw [Request.names] at hnames
  rw [request]
  cases hd : r.decode with
  | stop ret rest =>
    cases ret with
    | error f => exact h.dead
    | ok n => exact h
  | serve k header rest =>
    dsimp only
    split
    · exact h.dead
    · rw [hd] at hnames
      exact keepsPadding_handler h r channelFound listed _ _ k hnames hr.uuid hr.address

theorem keepsPadding_step {e : HostEvent} (he : e.Plain) : KeepsPadding (step m e) := by
  cases e with
  | start newProcess heap =>
    rw [step]
    apply keepsPadding_createAdmin
    refine ⟨?_, h.senders⟩
    dsimp only
    split
    · intro u hu hnamed
      rw [List.eq_of_mem_replicate hu] at hnamed
      cases hnamed
    · exact h.sessions
  | request r channelFound listed =>
    rw [step]
    split
    · exact keepsPadding_request h r he channelFound listed
    · exact h

theorem keepsPadding_run {es : List HostEvent} (hes : ∀ e ∈ es, e.Plain) :
    KeepsPadding (run m es) := by
  -- along the events, with the memory that the last one left
  induction es generalizing m with
  | nil => exact h
  | cons e es ih =>
    refine (keepsPadding_step h (hes e List.mem_cons_self)).bind fun m' hm' => ?_
    exact ih hm' fun e' he' => hes e' (List.mem_cons_of_mem e he')

omit h in
theorem initial_padded : Memory.initial.Padded := by
  refine ⟨fun u hu hnamed => ?_, nofun⟩
  rw [List.eq_of_mem_replicate hu] at hnamed
  cases hnamed

end HandlerCalls

/-- From empty files on, whatever requests with tokens and names of at most 20 bytes and uuids of 36
characters are served and however often the server is started: every wrapper call gets the answer
that the map keyed by the C string gives. And a call changes the answer to no call with another
string as key. -/
theorem wrappers_refine_maps (es : List HostEvent) (hes : ∀ e ∈ es, e.Plain) :
    (HandlerCalls.run .initial es).trace WrapperCall.onFiles .empty =
      (HandlerCalls.run .initial es).trace WrapperCall.onStrings .fresh ∧
    ∀ (f : Files) (c g : WrapperCall), g.key ≠ c.key →
      (g.onFiles (c.onFiles f).2).1 = (g.onFiles f).1 := by
  refine ⟨?_, fun f c g h => WrapperCall.answer_of_key_ne h f⟩
  have hrun := HandlerCalls.keepsPadding_run HandlerCalls.initial_padded hes
  have hstep : ∀ c f s, WrapperCall.Padded c → Represents f s →
      (c.onFiles f).1 = (c.onStrings s).1 ∧ c.AnswerPadded (c.onFiles f).1 ∧
        Represents (c.onFiles f).2 (c.onStrings s).2 := fun c f s hc hfs => hfs.step hc
  exact (hrun.agree hstep .empty).1

/-- The request on a host whose heap holds old bytes. -/
def staleHeap (r : Request) : Request :=
  { r with env := { r.env with heap := List.replicate 40 0xFF } }

/-- A user is created, logs in, writes a message, logs out, and is destroyed by the
administrator. -/
def staleEvents : List HostEvent :=
  [.start true (List.replicate 40 0xFF),
    .request (staleHeap (Client.createUser 5 "10.0.0.1" "bobt" "bob" "pw"
      "22222222-2222-2222-2222-222222222222")) true [],
    .request (staleHeap (Client.login 5 "10.0.0.1" "bobt" "pw")) true [],
    .request (staleHeap (Client.createMessage 5 "10.0.0.1" "bob" "global" "hi" "1"
      "33333333-3333-3333-3333-333333333333")) true [],
    .request (staleHeap (Client.logout 5 "10.0.0.1" "bob")) true [],
    .request (staleHeap (Client.login 6 "10.0.0.2" "admin" "admin")) true [],
    .request (staleHeap (Client.destroyUser 6 "10.0.0.2" "bob" "bobt" "pw")) true []]

/-- The 26 calls that they lead to. -/
theorem wrappers_refine_maps_staleEvents :
    ((HandlerCalls.run .initial staleEvents).trace WrapperCall.onFiles .empty).length = 26 ∧
      (HandlerCalls.run .initial staleEvents).trace WrapperCall.onFiles .empty =
        (HandlerCalls.run .initial staleEvents).trace WrapperCall.onStrings .fresh := by
  refine ⟨by decide +kernel, (wrappers_refine_maps staleEvents ?_).1⟩
  simp only [staleEvents, List.forall_mem_cons, List.not_mem_nil, false_implies, implies_true,
    and_true]
  refine ⟨trivial, ?_, ?_, ?_, ?_, ?_, ?_⟩ <;>
    exact ⟨by decide +kernel, by decide +kernel, by decide +kernel⟩

end ChatServer
