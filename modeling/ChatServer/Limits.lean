import ChatServer.ChannelCreation
import ChatServer.ChannelUpdate
import ChatServer.Invariant.CStrings
import ChatServer.LoginRequests

/-!
# Input that is too long

The handlers read a body of any announced size into an array of 1024 bytes and copy its fields with
`strncpy(array, token, strlen(token))`. Nothing compares a length with an array: a field that is one
byte too long leaves its array without a terminator and is stored, a longer one overruns it. Such a
request is only turned down when one of the other checks of its handler fails.
-/

namespace ChatServer

open CLib

/-- A handler returns an error and has changed nothing. -/
def Outcome.Refuses (o : Outcome) (s : State) : Prop :=
  ∃ reply, o = ⟨s, .ok reply⟩ ∧ reply.result ≠ 0 ∧ reply.result ≠ createMessageAck

/-- The handler of a request refuses it. -/
def Request.Rejected (r : Request) (s : State) : Prop :=
  match r.decode with
  | .stop _ _ => False
  | .serve k header rest => (rest.take header.bodySize).length ≤ defaultBuffer ∧
    (runHandler k s r header.bodySize (rest.take header.bodySize)).Refuses s

/-- The checks that turn a request with complete body down, none of which is about a length. -/
inductive ChecksFail (s : State) (r : Request) : RequestKind → List Str → Prop where
  | userTaken {t d : Name} {rest : List Str}
    (h : (s.getLoginInfo t).isSome = true ∨ s.checkDuplicateDisplayName d = true) :
    ChecksFail s r .createUser (t.str :: d.str :: rest)
  | destroyUnknown {d t : Name} {p : Password} {rest : List Str} {sender : ConnectedUser}
    {a : UserAccount} (hs : s.activeUsers.getConnectedUserByFd r.fd = some sender)
    (hl : s.getLoginInfo t = none) (ha : s.getUserAccount sender.uuid = some a)
    (hpriv : a.privilegeLevel = 1) :
    ChecksFail s r .destroyUser (d.str :: t.str :: p.str :: rest)
  | destroyInvalid {d t : Name} {p : Password} {rest : List Str} {sender : ConnectedUser}
    (hs : s.activeUsers.getConnectedUserByFd r.fd = some sender)
    (hc : invalidCredentials sender (s.getLoginInfo sender.loginToken)
      (s.getUserAccount sender.uuid) d p = .ok true) :
    ChecksFail s r .destroyUser (d.str :: t.str :: p.str :: rest)
  | channelShort {c : Name} : ChecksFail s r .createChannel [c.str]
  | channelRefused {c d : Name} {p : Str} {rest : List Str}
    (h : ¬ MayCreate s r.clntAddr c.str d.str p) :
    ChecksFail s r .createChannel (c.str :: d.str :: p :: rest)
  | readNothing : ChecksFail s r .readChannel []
  | readShort {c : Name} {rest : List Str} (h : rest.length < 3) :
    ChecksFail s r .readChannel (c.str :: rest)
  | readAbsent {c : Name} {rest : List Str} (h : s.getChannelInfo r.env c = none) :
    ChecksFail s r .readChannel (c.str :: rest)
  | updateMalformed {fs : List Str} (h : parseUpdate fs = .error .badRequest) :
    ChecksFail s r .updateChannel fs
  | updateAbsent {fs : List Str} {u : UpdateRequest} (hu : parseUpdate fs = .ok u)
    (h : s.getChannelInfo r.env u.channelName = none ∨ namesRegistered s u = false) :
    ChecksFail s r .updateChannel fs
  | messageAbsent {d c : Name} {content : CharArray maxMessageSize} {t : Str} {rest : List Str}
    (hd : d.str ≠ ascii "200") (h : s.getChannelInfo r.env c = none) :
    ChecksFail s r .createMessage (d.str :: c.str :: content.str :: t :: rest)
  | readNumber {c n : Name} {rest : List Str} (h : isNumber n.str = false) :
    ChecksFail s r .readMessage (c.str :: n.str :: rest)
  | loginUnknown {t : Name} {p : Password} {rest : List Str} (h : s.getLoginInfo t = none) :
    ChecksFail s r .login (t.str :: p.str :: rest)
  | loginInvalid {t : Name} {p : Password} {rest : List Str} {l : UserLogin}
    (hl : s.getLoginInfo t = some l) (h : squeeze l.password.str ≠ squeeze p.str) :
    ChecksFail s r .login (t.str :: p.str :: rest)
  | logoutUnknown {d : Name} {rest : List Str}
    (h : ∀ u, s.getUuidWithDisplayName d = some u → s.getUserAccount u = none) :
    ChecksFail s r .logout (d.str :: rest)
  | logoutRefused {d : Name} {rest : List Str} {u : Uuid} {a : UserAccount} {n : Int}
    (hu : s.getUuidWithDisplayName d = some u) (ha : s.getUserAccount u = some a)
    (h : logoutRefused a r.clntAddr = .ok (some n)) :
    ChecksFail s r .logout (d.str :: rest)

/-- The stream ends inside the body, which all handlers but one test for, or a check fails. -/
def Request.Fails (r : Request) (s : State) : Prop :=
  match r.decode with
  | .stop _ _ => False
  | .serve k header rest => (rest.take header.bodySize).length ≤ defaultBuffer ∧
    (k ≠ .readMessage ∧ bodyIncomplete header.bodySize (rest.take header.bodySize) = true ∨
      ChecksFail s r k (fields (rest.take header.bodySize)))

section Handlers

variable {s s' : State} {r : Request} {n : ℕ} {bytes : List UInt8}

@[simp] theorem refuses_reply {code : Int} {t : Str} :
    (Outcome.reply s' code t).Refuses s ↔ s' = s ∧ code ≠ 0 ∧ code ≠ createMessageAck := by
  constructor
  · rintro ⟨reply, h, hne⟩
    cases h
    exact ⟨rfl, hne⟩
  · rintro ⟨rfl, hne⟩
    exact ⟨_, rfl, hne⟩

@[simp] theorem not_refuses_fault {f : Fault} : ¬ (Outcome.fault s' f).Refuses s := by
  rintro ⟨reply, h, _⟩
  cases h

theorem createUser_refuses (hn : bodyIncomplete n bytes = false) :
    (readAndCreateUser s r.env n bytes).Refuses s ↔
      ChecksFail s r .createUser (fields bytes) := by
  constructor
  · intro h
    simp only [readAndCreateUser, hn, Bool.false_eq_true, if_false] at h
    cases h₁ : nextField tokenNameLength (fields bytes) with
    | error f => simp [h₁, bind, Except.bind] at h
    | ok x =>
      obtain ⟨t, ts⟩ := x
      cases h₂ : nextField tokenNameLength ts with
      | error f => simp [h₁, h₂, bind, Except.bind] at h
      | ok y =>
        obtain ⟨d, us⟩ := y
        rw [nextField_eq_ok.mp h₁, nextField_eq_ok.mp h₂]
        refine .userTaken ?_
        by_contra hfree
        rw [not_or, Bool.not_eq_true, Bool.not_eq_true] at hfree
        simp only [h₁, h₂, bind, Except.bind, pure, Except.pure, hfree.1, hfree.2, Bool.and_self,
          Bool.false_eq_true, if_false] at h
        cases h₃ : nextField pswdMaxLength us with
        | error f => simp [h₃] at h
        | ok z => simp [h₃] at h
  · generalize hfs : fields bytes = fs
    rintro ⟨⟩
    rename_i t d rest htaken
    have h₁ : nextField tokenNameLength (fields bytes) = .ok (t, d.str :: rest) :=
      nextField_eq_ok.mpr hfs
    have h₂ : nextField tokenNameLength (d.str :: rest) = .ok (d, rest) := nextField_eq_ok.mpr rfl
    simp only [readAndCreateUser, hn, h₁, h₂, bind, Except.bind, pure, Except.pure,
      Bool.false_eq_true, if_false]
    cases hl : (s.getLoginInfo t).isSome with
    | true =>
      cases hd : s.checkDuplicateDisplayName d with
      | true => simp
      | false => simp
    | false =>
      rw [hl] at htaken
      rw [htaken.resolve_left Bool.false_ne_true]
      simp

theorem destroyUser_refuses (hn : bodyIncomplete n bytes = false) :
    (readAndDestroyUser s r.fd n bytes).Refuses s ↔ ChecksFail s r .destroyUser (fields bytes) := by
  constructor
  · intro h
    cases hdest : destroyFields bytes with
    | error f => simp [readAndDestroyUser, hn, hdest] at h
    | ok x =>
      obtain ⟨d, t, p⟩ := x
      cases hs : s.activeUsers.getConnectedUserByFd r.fd with
      | none => simp [readAndDestroyUser, hn, hdest, destroyFields_ne_empty hdest, hs] at h
      | some sender =>
        obtain ⟨rest, hfs⟩ := destroyFields_iff_fields.mp hdest
        rw [hfs]
        obtain ⟨hl, ⟨a, ha, hpriv⟩, _⟩ | ⟨hc, _⟩ | ⟨l, _, _, heq⟩ | ⟨f, heq, _⟩ :=
          readAndDestroyUser_cases hn hdest hs rfl
        · exact .destroyUnknown hs hl ha hpriv
        · exact .destroyInvalid hs hc
        · simp [heq, removeUser] at h
        · simp [heq] at h
  · generalize hfs : fields bytes = fs
    intro h
    cases h with
    | @destroyUnknown d t p rest sender a hs hl ha hpriv =>
      have hdest : destroyFields bytes = .ok (d, t, p) := destroyFields_iff_fields.mpr ⟨rest, hfs⟩
      simp [readAndDestroyUser, hn, hdest, destroyFields_ne_empty hdest, hs, hl, ha, hpriv]
    | @destroyInvalid d t p rest sender hs hc =>
      have hdest : destroyFields bytes = .ok (d, t, p) := destroyFields_iff_fields.mpr ⟨rest, hfs⟩
      obtain ⟨_, _, heq⟩ | ⟨_, heq⟩ | ⟨_, _, hno, _⟩ | ⟨_, _, hno, _⟩ :=
        readAndDestroyUser_cases hn hdest hs hc
      · simp [heq]
      · simp [heq]
      · cases hno
      · exact absurd rfl hno

theorem createChannel_refuses (hn : bodyIncomplete n bytes = false) :
    (readAndCreateChannel s r.env r.clntAddr n bytes).Refuses s ↔
      ChecksFail s r .createChannel (fields bytes) := by
  constructor
  · intro h
    cases h₁ : nextField tokenNameLength (fields bytes) with
    | error f => simp [readAndCreateChannel, hn, h₁] at h
    | ok x =>
      obtain ⟨c, ts⟩ := x
      rw [nextField_eq_ok.mp h₁]
      cases ts with
      | nil => exact .channelShort
      | cons t ts =>
        cases h₂ : nextField tokenNameLength (t :: ts) with
        | error f => simp [readAndCreateChannel, hn, h₁, h₂] at h
        | ok y =>
          obtain ⟨d, us⟩ := y
          rw [nextField_eq_ok.mp h₂]
          cases us with
          | nil => simp [readAndCreateChannel, hn, h₁, h₂] at h
          | cons p us =>
            refine .channelRefused fun hmay => ?_
            have hfs : fields bytes = c.str :: d.str :: p :: us := by
              rw [nextField_eq_ok.mp h₁, nextField_eq_ok.mp h₂]
            rw [readAndCreateChannel_granted hn hfs hmay] at h
            simp at h
  · generalize hfs : fields bytes = fs
    intro h
    cases h with
    | @channelShort c =>
      have h₁ : nextField tokenNameLength (fields bytes) = .ok (c, []) := nextField_eq_ok.mpr hfs
      simp [readAndCreateChannel, hn, h₁]
    | @channelRefused c d p rest h =>
      obtain ⟨code, hcode, heq⟩ := @readAndCreateChannel_refused s r.env _ _ _ _ _ _ _ hn hfs h
      rw [heq, refuses_reply]
      refine ⟨rfl, ?_⟩
      constructor
      · rintro rfl
        exact absurd hcode (by decide)
      · rintro rfl
        exact absurd hcode (by decide)

/-- The three flags of a request to read a channel are there or not. -/
theorem readAndReadChannel_short (hn : bodyIncomplete n bytes = false) {c : Name} {us : List Str}
    (hfs : fields bytes = c.str :: us) (h : us.length < 3) :
    readAndReadChannel s r.env n bytes = .reply s errorChannel400 [] := by
  have h₁ : nextField tokenNameLength (c.str :: us) = .ok (c, us) := nextField_eq_ok.mpr rfl
  simp only [readAndReadChannel, hn, hfs, h₁, Bool.false_eq_true, if_false]
  split
  · rename_i heq; cases heq
  · rename_i heq
    cases heq
    simp only [List.length_cons] at h
    omega
  · rfl

theorem readAndReadChannel_eq (hn : bodyIncomplete n bytes = false) {c : Name} {us : List Str}
    (hfs : fields bytes = c.str :: us) (h : ¬ us.length < 3) :
    (readAndReadChannel s r.env n bytes).Refuses s ↔ s.getChannelInfo r.env c = none := by
  have h₁ : nextField tokenNameLength (c.str :: us) = .ok (c, us) := nextField_eq_ok.mpr rfl
  rcases us with _ | ⟨users, _ | ⟨admins, _ | ⟨banned, us⟩⟩⟩
  · exact absurd (by simp) h
  · exact absurd (by simp) h
  · exact absurd (by simp) h
  · simp only [readAndReadChannel, hn, hfs, h₁, Bool.false_eq_true, if_false]
    cases hc : s.getChannelInfo r.env c with
    | none => simp
    | some ch => simp

theorem readChannel_refuses (hn : bodyIncomplete n bytes = false) :
    (readAndReadChannel s r.env n bytes).Refuses s ↔
      ChecksFail s r .readChannel (fields bytes) := by
  constructor
  · intro h
    cases hfs : fields bytes with
    | nil => exact .readNothing
    | cons t ts =>
      cases h₁ : nextField tokenNameLength (t :: ts) with
      | error f => simp [readAndReadChannel, hn, hfs, h₁] at h
      | ok x =>
        obtain ⟨c, us⟩ := x
        rw [nextField_eq_ok.mp h₁] at hfs ⊢
        by_cases hlen : us.length < 3
        · exact .readShort hlen
        · exact .readAbsent ((readAndReadChannel_eq hn hfs hlen).mp h)
  · generalize hfs : fields bytes = fs
    intro h
    cases h with
    | readNothing => simp [readAndReadChannel, hn, hfs]
    | @readShort c rest hlen => simp [readAndReadChannel_short hn hfs hlen]
    | @readAbsent c rest h =>
      by_cases hlen : rest.length < 3
      · simp [readAndReadChannel_short hn hfs hlen]
      · exact (readAndReadChannel_eq hn hfs hlen).mpr h

/-- An update that gets past the checks succeeds or has renamed the channel before it fails. -/
theorem updateChannel_refuses (hk : KeyedState s) (hn : bodyIncomplete n bytes = false) :
    (readAndUpdateChannel s r.env n bytes).Refuses s ↔
      ChecksFail s r .updateChannel (fields bytes) := by
  constructor
  · intro h
    cases hu : parseUpdate (fields bytes) with
    | error e =>
      cases e with
      | badRequest => exact .updateMalformed hu
      | fault f => simp [readAndUpdateChannel, hn, hu] at h
    | ok u =>
      refine .updateAbsent hu ?_
      by_contra hpass
      rw [not_or, Bool.not_eq_false] at hpass
      obtain ⟨c, hc⟩ := Option.ne_none_iff_exists'.mp hpass.1
      by_cases hloses : LosesChannel s u c
      · refine not_updateAtomic hk hn hu hc hpass.2 hloses ?_
        intro reply _ _
        obtain ⟨_, heq, _⟩ := h
        rw [heq]
      · obtain ⟨_, _, reply, _, _, heq, h0⟩ := applyUpdate_of_keeps hk hc hloses
        rw [readAndUpdateChannel_eq hn hu hc hpass.2, heq] at h
        obtain ⟨reply', heq', hne, _⟩ := h
        cases heq'
        exact hne h0
  · intro h
    generalize hfs : fields bytes = fs at h
    cases h with
    | updateMalformed hu =>
      rw [← hfs] at hu
      simp [readAndUpdateChannel, hn, hu]
    | @updateAbsent _ u hu h =>
      rw [← hfs] at hu
      simp only [readAndUpdateChannel, hn, hu, Bool.false_eq_true, if_false]
      obtain hc | hreg := h
      · simp [hc]
      · rw [hreg]
        split
        · simp
        · simp

theorem createMessage_refuses (hn : bodyIncomplete n bytes = false) :
    (readAndCreateMessage s r.env n bytes).Refuses s ↔
      ChecksFail s r .createMessage (fields bytes) := by
  constructor
  · intro h
    cases h₁ : nextField tokenNameLength (fields bytes) with
    | error f => simp [readAndCreateMessage, hn, h₁] at h
    | ok x =>
      obtain ⟨d, ts⟩ := x
      by_cases hack : d.str = ascii "200"
      · simp only [readAndCreateMessage, hn, h₁, hack, Bool.false_eq_true, if_false, if_true] at h
        obtain ⟨reply, heq, _, hne⟩ := h
        cases heq
        exact absurd rfl hne
      · cases h₂ : messageFields ts with
        | error f => simp [readAndCreateMessage, hn, h₁, hack, h₂] at h
        | ok y =>
          obtain ⟨c, content, stamp⟩ := y
          obtain ⟨us, t, rest, e₁, e₂, _⟩ := messageFields_eq_ok.mp h₂
          rw [nextField_eq_ok.mp h₁, nextField_eq_ok.mp e₁, nextField_eq_ok.mp e₂]
          refine .messageAbsent hack ?_
          simp only [readAndCreateMessage, hn, h₁, hack, h₂, messageFields_ne_empty h₁ h₂,
            Bool.false_eq_true, if_false] at h
          by_contra hc
          obtain ⟨channel, hc⟩ := Option.ne_none_iff_exists'.mp hc
          -- with a channel the handler stops or stores the message
          simp only [storeNewMessage, hc] at h
          split at h
          · exact not_refuses_fault h
          · split at h
            · exact not_refuses_fault h
            · split at h
              · exact not_refuses_fault h
              · split at h
                · exact not_refuses_fault h
                · obtain ⟨reply, heq, h0, _⟩ := h
                  cases congrArg Outcome.value heq
                  exact h0 rfl
  · generalize hfs : fields bytes = fs
    intro h
    cases h with
    | @messageAbsent d c content t rest hd h =>
      rw [readAndCreateMessage_eq hn hfs hd, storeNewMessage, h]
      exact ⟨_, rfl, show errorChannelDoesNotExist ≠ 0 by decide,
        show errorChannelDoesNotExist ≠ createMessageAck by decide⟩

/-- Only a number of messages that is none is refused. -/
theorem readMessage_refuses :
    (readAndReadMessage s r.env bytes).Refuses s ↔ ChecksFail s r .readMessage (fields bytes) := by
  constructor
  · intro h
    cases h₁ : readMessageFields bytes with
    | error f => simp [readAndReadMessage, h₁] at h
    | ok x =>
      obtain ⟨c, k⟩ := x
      obtain ⟨rest, hfs⟩ := readMessageFields_eq_ok.mp h₁
      have hc : c.isEmpty = false := isEmpty_of_mem_fields (by rw [hfs]; simp)
      have hk : k.isEmpty = false := isEmpty_of_mem_fields (by rw [hfs]; simp)
      rw [hfs]
      refine .readNumber (Bool.eq_false_of_not_eq_true fun hnum => ?_)
      simp only [readAndReadMessage, h₁, hnum, hc, hk, Bool.or_self, Bool.true_eq_false,
        Bool.false_eq_true, if_false] at h
      split at h
      · exact not_refuses_fault h
      · simp at h
  · generalize hfs : fields bytes = fs
    intro h
    cases h with
    | @readNumber c k rest h =>
      have h₁ : readMessageFields bytes = .ok (c, k) := readMessageFields_eq_ok.mpr ⟨rest, hfs⟩
      simp [readAndReadMessage, h₁, h]

/-- Behind the credential check a login stops, succeeds or opens a session. -/
theorem not_refuses_loginAccount {a : UserAccount} (hname : a.displayName.isEmpty = false)
    (l : UserLogin) (t : Name) : ¬ (loginAccount s r.env r.fd r.clntAddr l a t).Refuses s := by
  rintro ⟨reply, heq, h0, _⟩
  have hv := congrArg Outcome.value heq
  rw [loginAccount_value] at hv
  split at hv
  · rename_i helse
    rw [loginAccount, if_pos helse, openSession] at heq
    cases hc : s.activeUsers.insertUserInCache r.fd a l with
    | none =>
      rw [hc] at heq
      cases heq
    | some c =>
      rw [hc] at heq
      have hlive := congrArg (fun o : Outcome => o.state.activeUsers.live.length) heq
      dsimp only [Outcome.reply] at hlive
      rw [Cache.live_insertUserInCache hname hc, List.length_append, List.length_singleton] at hlive
      omega
  · split at hv
    · cases hv
      exact h0 rfl
    · cases hv

theorem login_refuses (hk : KeyedState s) (hn : bodyIncomplete n bytes = false) :
    (readAndLoginUser s r.env r.fd r.clntAddr n bytes).Refuses s ↔
      ChecksFail s r .login (fields bytes) := by
  constructor
  · intro h
    obtain ⟨t, p, rest, hfs⟩ := fields_of_login hn (congrArg Outcome.value h.choose_spec.1)
    rw [hfs]
    cases hl : s.getLoginInfo t with
    | none => exact .loginUnknown hl
    | some l =>
      refine .loginInvalid hl fun hp => ?_
      rw [readAndLoginUser_eq hk hn hfs hl, if_pos hp] at h
      cases ha : s.getUserAccount l.uuid with
      | none =>
        rw [ha] at h
        exact not_refuses_fault h
      | some a =>
        rw [ha] at h
        exact not_refuses_loginAccount (hk.named _ a ha) l t h
  · generalize hfs : fields bytes = fs
    intro h
    cases h with
    | @loginUnknown t p rest hl =>
      have hfields : loginFields bytes = .ok (t, p) := loginFields_eq_ok.mpr
        ⟨p.str :: rest, rest, nextField_eq_ok.mpr hfs, nextField_eq_ok.mpr rfl⟩
      simp [readAndLoginUser, hn, hfields, hl]
    | @loginInvalid t p rest l hl hp =>
      rw [readAndLoginUser_eq hk hn hfs hl, if_neg hp]
      simp

theorem code_of_logoutRefused {a : UserAccount} {addr : IpAddr} {code : Int}
    (h : logoutRefused a addr = .ok (some code)) : code ≠ 0 ∧ code ≠ createMessageAck := by
  rw [logoutRefused] at h
  split at h
  · cases h
    decide
  · split at h
    · split at h
      · cases h
        decide
      · cases h
    · cases h

theorem logout_refuses (hn : bodyIncomplete n bytes = false) :
    (readAndLogoutUser s r.clntAddr n bytes).Refuses s ↔
      ChecksFail s r .logout (fields bytes) := by
  constructor
  · intro h
    cases h₁ : nextField tokenNameLength (fields bytes) with
    | error f => simp [readAndLogoutUser, hn, h₁] at h
    | ok x =>
      obtain ⟨d, ts⟩ := x
      rw [nextField_eq_ok.mp h₁]
      cases hu : s.getUuidWithDisplayName d with
      | none => exact .logoutUnknown (by simp [hu])
      | some u =>
        cases ha : s.getUserAccount u with
        | none => exact .logoutUnknown (by simp [hu, ha])
        | some a =>
          cases href : logoutRefused a r.clntAddr with
          | error f => simp [readAndLogoutUser, hn, h₁, hu, ha, href] at h
          | ok result =>
            cases result with
            | none => simp [readAndLogoutUser, hn, h₁, hu, ha, href] at h
            | some code => exact .logoutRefused hu ha href
  · generalize hfs : fields bytes = fs
    intro h
    cases h with
    | @logoutUnknown d rest h =>
      have h₁ : nextField tokenNameLength (fields bytes) = .ok (d, rest) := nextField_eq_ok.mpr hfs
      simp only [readAndLogoutUser, hn, h₁, Bool.false_eq_true, if_false]
      cases hu : s.getUuidWithDisplayName d with
      | none => simp
      | some u => simp [h u hu]
    | @logoutRefused d rest u a code hu ha href =>
      have h₁ : nextField tokenNameLength (fields bytes) = .ok (d, rest) := nextField_eq_ok.mpr hfs
      simp only [readAndLogoutUser, hn, h₁, hu, ha, href, Bool.false_eq_true, if_false]
      rw [refuses_reply]
      exact ⟨rfl, code_of_logoutRefused href⟩

theorem incomplete_refuses {k : RequestKind} (hk : k ≠ .readMessage)
    (hn : bodyIncomplete n bytes = true) : (runHandler k s r n bytes).Refuses s := by
  cases k with
  | createUser => simp [runHandler, readAndCreateUser, hn]
  | destroyUser => simp [runHandler, readAndDestroyUser, hn]
  | createChannel => simp [runHandler, readAndCreateChannel, hn]
  | readChannel => simp [runHandler, readAndReadChannel, hn]
  | updateChannel => simp [runHandler, readAndUpdateChannel, hn]
  | createMessage => simp [runHandler, readAndCreateMessage, hn]
  | readMessage => exact absurd rfl hk
  | login => simp [runHandler, readAndLoginUser, hn]
  | logout => simp [runHandler, readAndLogoutUser, hn]

/-- A handler refuses a request if and only if the body is too short or a check fails. -/
theorem runHandler_refuses (hkey : KeyedState s) (k : RequestKind) :
    (runHandler k s r n bytes).Refuses s ↔
      k ≠ .readMessage ∧ bodyIncomplete n bytes = true ∨ ChecksFail s r k (fields bytes) := by
  by_cases hk : k = .readMessage
  · subst hk
    rw [or_iff_right fun h => h.1 rfl]
    exact readMessage_refuses
  · cases hn : bodyIncomplete n bytes with
    | true => exact iff_of_true (incomplete_refuses hk hn) (Or.inl ⟨hk, rfl⟩)
    | false =>
      rw [or_iff_right fun h => Bool.false_ne_true h.2]
      cases k with
      | createUser => exact createUser_refuses hn
      | destroyUser => exact destroyUser_refuses hn
      | createChannel => exact createChannel_refuses hn
      | readChannel => exact readChannel_refuses hn
      | updateChannel => exact updateChannel_refuses hkey hn
      | createMessage => exact createMessage_refuses hn
      | readMessage => exact absurd rfl hk
      | login => exact login_refuses hkey hn
      | logout => exact logout_refuses hn

end Handlers

theorem rejected_iff {s : State} (hkey : KeyedState s) (r : Request) :
    r.Rejected s ↔ r.Fails s := by
  rw [Request.Rejected, Request.Fails]
  cases r.decode with
  | stop ret rest => rfl
  | serve k header rest => exact and_congr_right fun _ => runHandler_refuses hkey k

/-- A rejected request leaves everything as it was. -/
theorem state_of_rejected {s : State} {r : Request} (h : r.Rejected s) :
    (handleRequest s r).state = s := by
  rw [Request.Rejected] at h
  cases hd : r.decode with
  | stop ret rest => rw [hd] at h; exact absurd h id
  | serve k header rest =>
    rw [hd] at h
    obtain ⟨hlen, reply, heq, _⟩ := h
    rw [handleRequest_state hd hlen, heq]

/-- Every string has its terminator. -/
def terminated : StringSpec where
  name := CharArray.Terminated
  password := CharArray.Terminated
  uuid := CharArray.Terminated
  addr := CharArray.Terminated
  content := CharArray.Terminated
  stamp := CharArray.Terminated
  name_empty := by decide
  name_admin := by decide
  name_global := by decide
  password_admin := by decide
  uuid_admin := by decide
  addr_none := by decide

/-- What the library calls deliver has a terminator: the uuid, the address of the client, and the
part of a new message record behind the eight bytes of content that are copied, if it shows. -/
structure Request.EnvEnds (r : Request) : Prop where
  uuid : r.env.uuid.Terminated
  addr : r.clntAddr.Terminated
  heap : ∀ d c content rest, r.fieldsFor .createMessage = some (d :: c :: content :: rest) →
    content.length < 8 ∨ 8+(cstr r.env.heap).length < maxMessageSize

section Terminated

variable {s : State} {r : Request}

theorem terminated_given (h : ¬ r.OverLong) (he : r.EnvEnds) : terminated.Given s r :=
  .of_text h (fun _ h => h.short) (fun _ h => h.short) (fun _ h => h.short)
    (fun _ h => h.short) he.uuid he.addr he.heap

end Terminated

/-- What is asked of an event: the library calls deliver strings with a terminator, and a request
that is too long fails one of the checks of its handler. -/
def LimitsKept (s : State) : LifeEvent → Prop
  | .start _ env => env.uuid.Terminated
  | .request r => r.EnvEnds ∧ (r.OverLong → r.Fails s)

theorem terminated_step {v : Server} (hk : KeyedState v.state) (h : terminated.Holds v.state)
    {e : LifeEvent} (he : Life.happens v e = true → LimitsKept v.state e) :
    terminated.Holds (Life.step v e).state := by
  cases e with
  | start newProcess env => exact StringSpec.holds_step hk h he
  | request r =>
    obtain ⟨_, heq⟩ | ⟨hr, hstate, _⟩ := Life.step_request v r
    · rw [heq]
      exact h
    · obtain ⟨henv, hlimits⟩ := he hr
      by_cases hlong : r.OverLong
      · rw [hstate, state_of_rejected ((rejected_iff hk r).mpr (hlimits hlong))]
        exact h
      · exact StringSpec.holds_step hk h fun _ => terminated_given hlong henv

/-- In a life in which every request that is too long fails one of the checks of its handler, every
string in the databases and the cache has its terminator. And a handler rejects a request that is
too long if and only if one of those checks fails: none of them is about a length. -/
theorem over_long_rejected_iff (es : List LifeEvent)
    (h : Life.Along LimitsKept Life.initial es) :
    terminated.Holds (Life.run es).state ∧
      ∀ r : Request, (r.OverLong → r.Rejected (Life.run es).state) ↔
        (r.OverLong → r.Fails (Life.run es).state) := by
  refine ⟨?_, fun r => imp_congr_right fun _ => rejected_iff (Life.keyed_run es) r⟩
  refine (Run.invariant (I := fun v => KeyedState v.state ∧ terminated.Holds v.state) ?_
    ⟨Life.keyedState_fresh, terminated.holds_fresh⟩ h).2
  rintro v e ⟨hk, ht⟩ he
  exact ⟨Life.keyed_step hk e, terminated_step hk ht he⟩

/-- A user with the given login token is created. -/
def tokenRequest (token : String) : Request :=
  Client.createUser 5 "10.0.0.1" token "bob" "pw" "22222222-2222-2222-2222-222222222222"

def tokenLife (token : String) : List LifeEvent :=
  [.start true Client.firstEnv, .request (tokenRequest token)]

/-- A token of 20 bytes is stored with its terminator. -/
theorem over_long_rejected_tokenLife :
    terminated.Holds (Life.run (tokenLife "abcdefghijklmnopqrst")).state := by
  refine (over_long_rejected_iff (tokenLife "abcdefghijklmnopqrst")
    ⟨fun _ => ?_, fun _ => ⟨⟨?_, ?_, ?_⟩, ?_⟩, trivial⟩).1
  · exact show Client.firstEnv.uuid.Terminated by decide
  · exact show (Client.uuid "22222222-2222-2222-2222-222222222222").Terminated by decide
  · exact show (Client.address "10.0.0.1").Terminated by decide
  · intro d c content rest hf
    have hnone : (tokenRequest "abcdefghijklmnopqrst").fieldsFor .createMessage = none := by
      decide +kernel
    rw [hnone] at hf
    cases hf
  · intro hlong
    have hdecode : (tokenRequest "abcdefghijklmnopqrst").decode = .serve .createUser
        ⟨currentVersion, 1, 1, 28⟩ (Client.body ["abcdefghijklmnopqrst", "bob", "pw"]) := by
      decide +kernel
    rw [Request.OverLong, hdecode] at hlong
    exact absurd hlong (by decide +kernel)

/-- A token of 21 bytes is accepted and stored without a terminator. -/
theorem over_long_accepted :
    (tokenRequest "abcdefghijklmnopqrstu").OverLong ∧
      ¬ (tokenRequest "abcdefghijklmnopqrstu").Rejected
        (Life.run [.start true Client.firstEnv]).state ∧
      ¬ terminated.Holds (Life.run (tokenLife "abcdefghijklmnopqrstu")).state := by
  have hdecode : (tokenRequest "abcdefghijklmnopqrstu").decode = .serve .createUser
        ⟨currentVersion, 1, 1, 29⟩ (Client.body ["abcdefghijklmnopqrstu", "bob", "pw"]) := by
    decide +kernel
  have hstored : ((Life.run (tokenLife "abcdefghijklmnopqrstu")).state.userLoginInfo.lookup
      (CharArray.strncpy _ (ascii "abcdefghijklmnopqrstu"))).isSome = true := by decide +kernel
  refine ⟨?_, fun h => ?_, fun h => ?_⟩
  · rw [Request.OverLong, hdecode]
    dsimp only
    decide +kernel
  · rw [Request.Rejected, hdecode] at h
    obtain ⟨_, reply, heq, h0, _⟩ := h
    have hresult : (tokenRequest "abcdefghijklmnopqrstu").result
        (Life.run [.start true Client.firstEnv]).state = some 0 := by decide +kernel
    rw [Request.result, hdecode] at hresult
    dsimp only at hresult
    rw [heq] at hresult
    exact h0 (Option.some.inj hresult)
  · obtain ⟨l, hl⟩ := Option.isSome_iff_exists.mp hstored
    exact absurd (h.logins _ l hl).1 (show ¬ CharArray.Terminated _ by decide)

end ChatServer
