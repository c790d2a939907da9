import ChatServer.Handler.UpdateParser
import ChatServer.Machine.Runs

/-!
# Which requests are answered

Every responder knows a set of results and either asserts or stays silent on the others. A request
is answered when its handler returns, and with a result that the responder knows. For every kind
of request this is decided by the fields of the body and by what the stores hold before the
call.
-/

namespace ChatServer

open CLib

/-- The results that the responder of a kind writes a response for. -/
def acceptedResults : RequestKind → List Int
  | .createUser => [0, errorCreateUserDuplicateToken, errorCreateUserDuplicateDisplayName,
      errorCreateUserDuplicateAll]
  | .destroyUser => [0, errorDestroyUserInvalidFields, errorDestroyUserNotExist,
      errorDestroyUserInvalidCredentials]
  | .createChannel => [0, errorChannel400, errorChannel404, errorChannel409, errorChannel403,
      errorChannel500]
  | .readChannel | .updateChannel => [0, errorChannel400, errorChannel404, errorChannel500]
  | .createMessage => [0, errorInvalidRequest, errorChannelDoesNotExist, errorAdminDoesNotExist,
      errorUserDoesNotExist, successForwardReq]
  | .readMessage => [0, errorReadMessage206]
  | .login => [0, errorLoginInvalidCredentials, errorLoginDoesNotExist]
  | .logout => [0, errorLogoutInvalidFields, errorLogoutUserMismatchAddress,
      errorLogoutAdminUserNotExist, errorLogoutAdminUserNotOnline,
      terminateAndRestablishConnection, errorDestroyAuth500]

theorem lookup_isSome_iff (es : List (Int × Str)) (n : Int) :
    (es.lookup n).isSome = true ↔ n ∈ es.map Prod.fst := by
  induction es with
  | nil => simp
  | cons e es ih =>
    rw [List.lookup_cons]
    by_cases h : n = e.1
    · simp [h]
    · simp [h, ih, beq_false_of_ne h]

theorem assertingBody_some_iff (success : Str) (es : List (Int × Str)) (n : Int) (token : Str) :
    (∃ body, assertingBody success es n token = .ok (some body)) ↔ n ∈ 0 :: es.map Prod.fst := by
  rw [List.mem_cons, ← lookup_isSome_iff, assertingBody]
  split
  · simp [*]
  · cases es.lookup n <;> simp [*]

theorem codedBody_some_iff (success : Str) (es : List (Int × Str)) (n : Int) (token : Str) :
    (∃ body, codedBody success es n token = .ok (some body)) ↔ n ∈ 0 :: es.map Prod.fst := by
  rw [List.mem_cons, ← lookup_isSome_iff, codedBody]
  split
  · simp [*]
  · cases es.lookup n <;> simp [*]

theorem sendCreateUserResponse_some_iff (n : Int) (token : Str) :
    (∃ body, sendCreateUserResponse n token = .ok (some body)) ↔
      n ∈ acceptedResults .createUser := by
  rw [acceptedResults, List.mem_cons, sendCreateUserResponse]
  refine Iff.trans ?_ (or_congr_right (lookup_isSome_iff
    [(errorCreateUserDuplicateToken, ascii "Login Token was not unique"),
      (errorCreateUserDuplicateDisplayName, ascii "Display Name was not unique"),
      (errorCreateUserDuplicateAll, ascii "Login Token and Display name both were not unique")] n))
  split
  · simp [*]
  · dsimp only
    split <;> simp [*]

theorem sendLogoutUserResponse_some_iff (n : Int) (token : Str) :
    (∃ body, sendLogoutUserResponse n token = .ok (some body)) ↔ n ∈ acceptedResults .logout := by
  -- the result 500 is tested for apart from the table
  rw [sendLogoutUserResponse]
  split
  · simp [acceptedResults, *]
  · rename_i hn
    rw [assertingBody_some_iff]
    simp [acceptedResults, hn]

theorem sendResponse_some_iff (k : RequestKind) (n : Int) (token : Str) :
    (∃ body, sendResponse k n token = .ok (some body)) ↔ n ∈ acceptedResults k := by
  cases k with
  | createUser => exact sendCreateUserResponse_some_iff n token
  | logout => exact sendLogoutUserResponse_some_iff n token
  | destroyUser | login | createMessage => exact assertingBody_some_iff ..
  | createChannel | readChannel | updateChannel | readMessage => exact codedBody_some_iff ..

/-- A direct response on `fd`. -/
def Sent.answers (x : Sent) (fd : ℕ) : Bool := x.fd = fd && !x.forwarded

/-- Exactly one direct response goes to the descriptor of the request, and no
`assert(!"should not be here")` is reached. -/
def AnsweredOnce (fd : ℕ) (c : Call) : Prop :=
  (c.sent.filter (·.answers fd)).length = 1 ∧
    c.ret ≠ .error .shouldNotBeHere

instance (fd : ℕ) (c : Call) : Decidable (AnsweredOnce fd c) :=
  inferInstanceAs (Decidable (_ ∧ _))

/-- The handler returns, with one of the results. -/
def Outcome.Yields (o : Outcome) (rs : List Int) : Prop :=
  ∃ x, o.value = .ok x ∧ x.result ∈ rs

@[simp] theorem yields_reply (s : State) (n : Int) (t : Str) (rs : List Int) :
    (Outcome.reply s n t).Yields rs ↔ n ∈ rs := by
  simp [Outcome.Yields, Outcome.reply]

@[simp] theorem not_yields_fault (s : State) (f : Fault) (rs : List Int) :
    ¬ (Outcome.fault s f).Yields rs := by
  simp [Outcome.Yields, Outcome.fault]

theorem forwards_spec (s : State) (env : Env) (header : ChatHeader) (token forward : Str) :
    forwards s env header token forward = .error .nullPointer ∨
      ∃ sent, forwards s env header token forward = .ok sent ∧ ∀ x ∈ sent, x.forwarded = true := by
  rw [forwards]
  split
  · exact Or.inr ⟨[], rfl, List.forall_mem_nil _⟩
  · exact Or.inl rfl
  · refine Or.inr ⟨_, rfl, ?_⟩
    intro x hx
    obtain ⟨u, _, rfl⟩ := List.mem_map.mp hx
    rfl

/-- What follows the response sends no second one and does not assert. -/
theorem afterResponse_spec (k : RequestKind) (s : State) (r : Request) (header : ChatHeader)
    (reply : Reply) :
    afterResponse k s r header reply = .error .nullPointer ∨
      ∃ x, afterResponse k s r header reply = .ok x ∧ ∀ y ∈ x.1, y.forwarded = true := by
  cases k with
  | destroyUser =>
    rw [afterResponse]
    cases s.activeUsers.getConnectedUserByFd r.fd with
    | none => exact Or.inl rfl
    | some sender => exact Or.inr ⟨_, rfl, List.forall_mem_nil _⟩
  | createMessage =>
    rw [afterResponse]
    rcases forwards_spec s r.env header reply.token reply.forward with h | ⟨sent, h, hsent⟩
    · rw [h]; exact Or.inl rfl
    · rw [h]; exact Or.inr ⟨_, rfl, hsent⟩
  | _ => exact Or.inr ⟨_, rfl, List.forall_mem_nil _⟩

theorem filter_forwarded {sent : List Sent} (h : ∀ x ∈ sent, x.forwarded = true) (fd : ℕ) :
    sent.filter (·.answers fd) = [] := by
  rw [List.filter_eq_nil_iff]
  intro x hx
  simp [Sent.answers, h x hx]

theorem answeredOnce_respond (k : RequestKind) (s : State) (r : Request) (header : ChatHeader)
    (rest : List UInt8) (reply : Reply) :
    AnsweredOnce r.fd (respond k s r header rest reply) ↔ reply.result ∈ acceptedResults k := by
  -- an acknowledgement gets no response, and its result is not an accepted one
  by_cases hack : k = .createMessage ∧ reply.result = createMessageAck
  · rw [respond, if_pos hack, hack.1, hack.2]
    exact iff_of_false (by simp [AnsweredOnce]) (by decide)
  · rw [respond, if_neg hack, ← sendResponse_some_iff k reply.result reply.token]
    cases hb : sendResponse k reply.result reply.token with
    | error f => simp [AnsweredOnce]
    | ok body =>
      dsimp only
      rcases afterResponse_spec k s r header reply with h | ⟨x, h, hx⟩
      · rw [h]
        cases body <;> simp [AnsweredOnce, Sent.answers]
      · obtain ⟨sent, closed⟩ := x
        rw [h]
        have hsent := filter_forwarded hx r.fd
        cases body with
        | none => simp [AnsweredOnce, hsent]
        | some body => simpa [AnsweredOnce, Sent.answers] using fun x hx' _ => hx x hx'

/-- A request with a complete body that fits the buffer is answered when its handler yields a
result that the responder accepts. -/
theorem answeredOnce_serve (k : RequestKind) (s : State) (r : Request) {header : ChatHeader}
    {rest : List UInt8} (hlen : (rest.take header.bodySize).length ≤ defaultBuffer) :
    AnsweredOnce r.fd (serve k s r header rest) ↔
      (runHandler k s r header.bodySize (rest.take header.bodySize)).Yields
        (acceptedResults k) := by
  rw [serve]
  rw [if_neg (Nat.not_lt.mpr hlen)]
  dsimp only
  cases hv : (runHandler k s r header.bodySize (rest.take header.bodySize)).value with
  | error f => simp [AnsweredOnce, Outcome.Yields, hv]
  | ok reply => simp [answeredOnce_respond, Outcome.Yields, hv]

/-! The condition of every kind on the fields of the body and the stores. `field? n` takes the
next field if there is one and it fits an array of `n` characters. -/

namespace Answerable

variable (s : State) (env : Env) (fd : ℕ) (addr : IpAddr)

/-- Token and display name are there, and the password is, unless one of them is taken. -/
def createUser (fs : List Str) : Prop :=
  ∃ t ts d us, field? tokenNameLength fs = some (t, ts) ∧ field? tokenNameLength ts = some (d, us) ∧
    ((s.getLoginInfo t).isSome ∨ s.checkDuplicateDisplayName d ∨ (field? pswdMaxLength us).isSome)

/-- The sender passes the credential check of a request on the name `d` with password `p`, or it
fails it for a reason that is found without a missing record. -/
def credentialsChecked (sender : ConnectedUser) (d : Name) (p : Password) : Prop :=
  sender.dsplyName = d ∨ ∃ l, s.getLoginInfo sender.loginToken = some l ∧
    (l.password = p ∨ (s.getUserAccount sender.uuid).isSome)

/-- The sender has a session. For a login token that exists the credentials can be checked; for
one that does not the sender has an account, with the privilege or with credentials that are
refused. -/
def destroyUser (fs : List Str) : Prop :=
  ∃ d ts t us p vs sender, field? tokenNameLength fs = some (d, ts) ∧
    field? tokenNameLength ts = some (t, us) ∧ field? pswdMaxLength us = some (p, vs) ∧
    s.activeUsers.getConnectedUserByFd fd = some sender ∧
    if (s.getLoginInfo t).isSome then credentialsChecked s sender d p
    else ∃ a, s.getUserAccount sender.uuid = some a ∧ (a.privilegeLevel = 1 ∨
      a.privilegeLevel = 0 ∧ sender.dsplyName ≠ d ∧
        ∃ l, s.getLoginInfo sender.loginToken = some l ∧ l.password ≠ p)

/-- One field, or at least three, of which the first two fit. -/
def createChannel (fs : List Str) : Prop :=
  ∃ name ts, field? tokenNameLength fs = some (name, ts) ∧
    (ts = [] ∨ ∃ d us, field? tokenNameLength ts = some (d, us) ∧ us ≠ [])

/-- The channel name fits. -/
def readChannel (fs : List Str) : Prop := fs = [] ∨ (field? tokenNameLength fs).isSome

/-- The channel name fits, and so does every list of names. -/
def updateChannel (fs : List Str) : Prop :=
  (∀ t ∈ fs.head?, t.length ≤ tokenNameLength) ∧ ∀ l ∈ updateLists fs, overruns l = false

/-- All four fields are there, the first three fit, and if the channel exists, the sender has a
session, an account and a login record. -/
def createMessage (fs : List Str) : Prop :=
  ∃ d ts name us content vs, field? tokenNameLength fs = some (d, ts) ∧
    field? tokenNameLength ts = some (name, us) ∧
    field? maxMessageSize us = some (content, vs) ∧ vs ≠ [] ∧
    (s.getChannelInfo env name = none ∨
      ∃ u a, s.activeUsers.getConnectedUserByDisplayName d = some u ∧
        s.getUserAccount u.uuid = some a ∧ (a.privilegeLevel = 0 ∨ a.privilegeLevel = 1) ∧
        (s.getLoginInfo u.loginToken).isSome)

/-- What a message takes in the list: the name of its sender, its content, its time stamp and three
separators. -/
def entryLength (m : MessageInfo) : ℕ :=
  (s.getUserAccount m.userId).elim 0 fun sender =>
    sender.displayName.str.length+m.messageContent.str.length+timestampSize+3

/-- Every message of the channel has a sender with an account, unless the entries in front of it
fill the allocation. -/
def sendersKnown (channelId : Uuid) (size : ℕ) (ms : List MessageInfo) : Prop :=
  ∀ front m behind, ms.filter (fun m => channelId = m.channelId) = front ++ m :: behind →
    (front.map (entryLength s)).sum < size → (s.getUserAccount m.userId).isSome

/-- Both fields are there, the second is a number, and if there are messages, the channel exists
and the senders of its messages are known. -/
def readMessage (fs : List Str) : Prop :=
  ∃ name ts n us, field? tokenNameLength fs = some (name, ts) ∧
    field? tokenNameLength ts = some (n, us) ∧ isNumber n.str = true ∧
    (s.getAllMessages env = [] ∨ ∃ c, s.getChannelInfo env name = some c ∧
      sendersKnown s c.channelId (messageListSize c.channelId (s.getAllMessages env))
        (s.getAllMessages env))

/-- Both fields are there; with the right credentials the account exists, is not online at another
address, and has the session already or gets a free slot. -/
def login (fs : List Str) : Prop :=
  ∃ t ts p us, field? tokenNameLength fs = some (t, ts) ∧ field? pswdMaxLength ts = some (p, us) ∧
    ∀ l, s.getLoginInfo t = some l → compareStrings l.password.str p.str = true →
      compareStrings l.loginToken.str t.str = true →
      ∃ a, s.getUserAccount l.uuid = some a ∧ loggedInElsewhere s.activeUsers a addr = false ∧
        (s.activeUsers.findConnectedUserWithSameCred (loginUserAccount a addr) fd = true ∨
          s.activeUsers.getNumConnectedUsers < maxClients)

/-- The display name is there, and the account it leads to, if any, has a known privilege. -/
def logout (fs : List Str) : Prop :=
  ∃ d ts, field? tokenNameLength fs = some (d, ts) ∧
    ∀ u a, s.getUuidWithDisplayName d = some u → s.getUserAccount u = some a →
      a.privilegeLevel = 0 ∨ a.privilegeLevel = 1

end Answerable

/-- When a request of kind `k` with the body `bytes` is answered. -/
def Answerable (s : State) (env : Env) (fd : ℕ) (addr : IpAddr) (bytes : List UInt8) :
    RequestKind → Prop
  | .createUser => Answerable.createUser s (fields bytes)
  | .destroyUser => Answerable.destroyUser s fd (fields bytes)
  | .createChannel => bytes = [] ∨ Answerable.createChannel (fields bytes)
  | .readChannel => bytes = [] ∨ Answerable.readChannel (fields bytes)
  | .updateChannel => bytes = [] ∨ Answerable.updateChannel (fields bytes)
  | .createMessage => Answerable.createMessage s env (fields bytes)
  | .readMessage => Answerable.readMessage s env (fields bytes)
  | .login => Answerable.login s fd addr (fields bytes)
  | .logout => Answerable.logout s (fields bytes)

section Handlers

variable (s : State) (env : Env) (fd : ℕ) (addr : IpAddr) {bytes : List UInt8}

theorem field?_error {n : ℕ} {ts : List Str} {f : Fault} (h : nextField n ts = .error f) :
    field? n ts = none := by
  rw [field?, h]; rfl

theorem bodyIncomplete_length (hb : bytes ≠ []) : bodyIncomplete bytes.length bytes = false := by
  simp [bodyIncomplete, hb]

theorem createUser_yields (hb : bytes ≠ []) :
    (readAndCreateUser s env bytes.length bytes).Yields (acceptedResults .createUser) ↔
      Answerable.createUser s (fields bytes) := by
  unfold readAndCreateUser Answerable.createUser
  rw [if_neg (by simp [bodyIncomplete_length hb])]
  cases h₁ : nextField tokenNameLength (fields bytes) with
  | error f => simp [field?_error h₁, bind, Except.bind]
  | ok x =>
    obtain ⟨t, ts⟩ := x
    cases h₂ : nextField tokenNameLength ts with
    | error f => simp [field?_eq h₁, field?_error h₂, bind, Except.bind, h₂]
    | ok y =>
      obtain ⟨d, us⟩ := y
      simp only [field?_eq h₁, field?_eq h₂, bind, Except.bind, h₂, pure, Except.pure,
        Option.some.injEq, Prod.mk.injEq, exists_and_left, exists_eq_left', and_assoc]
      -- the password is read only if neither the token nor the name is taken
      cases ht : (s.getLoginInfo t).isSome <;> cases hd : s.checkDuplicateDisplayName d
      · cases h₃ : nextField pswdMaxLength us with
        | error f => simp [field?_error h₃]
        | ok z => simp [field?_eq h₃, acceptedResults]
      all_goals simp [acceptedResults]

/-- The credential check ends, with some result, without a missing record. -/
theorem invalidCredentials_ok_iff (sender : ConnectedUser) (sl : Option UserLogin)
    (sa : Option UserAccount) (d : Name) (p : Password) :
    (∃ b, invalidCredentials sender sl sa d p = .ok b) ↔
      sender.dsplyName = d ∨ ∃ l, sl = some l ∧ (l.password = p ∨ sa.isSome) := by
  unfold invalidCredentials
  by_cases hd : sender.dsplyName = d
  · simp [hd]
  · cases sl with
    | none => simp [hd]
    | some l =>
      by_cases hp : l.password = p
      · simp [hd, hp]
      · cases sa <;> simp [hd, hp]

theorem invalidCredentials_true_iff (sender : ConnectedUser) (sl : Option UserLogin)
    (a : UserAccount) (d : Name) (p : Password) :
    invalidCredentials sender sl (some a) d p = .ok true ↔
      a.privilegeLevel = 0 ∧ sender.dsplyName ≠ d ∧ ∃ l, sl = some l ∧ l.password ≠ p := by
  unfold invalidCredentials
  by_cases hd : sender.dsplyName = d
  · simp [hd]
  · cases sl with
    | none => simp [hd]
    | some l =>
      by_cases hp : l.password = p
      · simp [hd, hp]
      · simp [hd, hp]

theorem destroyUser_yields (hb : bytes ≠ []) :
    (readAndDestroyUser s fd bytes.length bytes).Yields (acceptedResults .destroyUser) ↔
      Answerable.destroyUser s fd (fields bytes) := by
  unfold readAndDestroyUser Answerable.destroyUser destroyFields
  rw [if_neg (by simp [bodyIncomplete_length hb])]
  cases h₁ : nextField tokenNameLength (fields bytes) with
  | error f => simp [field?_error h₁, bind, Except.bind]
  | ok x =>
    obtain ⟨d, ts⟩ := x
    cases h₂ : nextField tokenNameLength ts with
    | error f => simp [field?_eq h₁, field?_error h₂, bind, Except.bind, h₂]
    | ok y =>
      obtain ⟨t, us⟩ := y
      cases h₃ : nextField pswdMaxLength us with
      | error f => simp [field?_eq h₁, field?_eq h₂, field?_error h₃, bind, Except.bind, h₂, h₃]
      | ok z =>
        obtain ⟨p, vs⟩ := z
        -- the test for empty fields never succeeds, as `strtok` returns no empty token
        have hfs : fields bytes = d.str :: t.str :: p.str :: vs := by
          rw [nextField_eq_ok.mp h₁, nextField_eq_ok.mp h₂, nextField_eq_ok.mp h₃]
        have hempty := destroyFields_ne_empty (destroyFields_iff_fields.mpr ⟨vs, hfs⟩)
        simp only [field?_eq h₁, field?_eq h₂, field?_eq h₃, bind, Except.bind, h₂, h₃, pure,
          Except.pure, Option.some.injEq, Prod.mk.injEq, exists_and_left, exists_eq_left',
          and_assoc, hempty, Bool.false_eq_true, if_false]
        cases hs : s.activeUsers.getConnectedUserByFd fd with
        | none => simp
        | some sender =>
          simp only [Option.some.injEq, exists_eq_left']
          cases hl : s.getLoginInfo t with
          | some l =>
            rw [if_pos Option.isSome_some, Answerable.credentialsChecked,
              ← invalidCredentials_ok_iff]
            simp only [Option.isNone_some, Bool.false_eq_true, if_false]
            cases hi : invalidCredentials sender (s.getLoginInfo sender.loginToken)
                (s.getUserAccount sender.uuid) d p with
            | error f => simp
            | ok b => cases b <;> simp [removeUser, acceptedResults]
          | none =>
            simp only [Option.isNone_none, Option.isSome_none, if_true, Bool.false_eq_true,
              if_false]
            cases ha : s.getUserAccount sender.uuid with
            | none => simp
            | some a =>
              simp only [Option.some.injEq, exists_eq_left', ← invalidCredentials_true_iff]
              by_cases hpriv : a.privilegeLevel = 1
              · simp [hpriv, acceptedResults]
              · simp only [hpriv, if_false, false_or]
                cases hi : invalidCredentials sender (s.getLoginInfo sender.loginToken) (some a)
                    d p with
                | error f => simp
                | ok b => cases b <;> simp [removeUser, acceptedResults]

theorem storeNewChannel_yields (name d : Name) (p : Bool) :
    (storeNewChannel s env addr name d p).Yields (acceptedResults .createChannel) := by
  rw [storeNewChannel]
  split
  · simp [acceptedResults]
  · repeat' split
    all_goals simp [acceptedResults]

theorem createChannel_yields (hb : bytes ≠ []) :
    (readAndCreateChannel s env addr bytes.length bytes).Yields (acceptedResults .createChannel) ↔
      Answerable.createChannel (fields bytes) := by
  unfold readAndCreateChannel Answerable.createChannel
  rw [if_neg (by simp [bodyIncomplete_length hb])]
  cases h₁ : nextField tokenNameLength (fields bytes) with
  | error f => simp [field?_error h₁]
  | ok x =>
    obtain ⟨name, ts⟩ := x
    cases ts with
    | nil => simp [field?_eq h₁, acceptedResults]
    | cons t ts =>
      cases h₂ : nextField tokenNameLength (t :: ts) with
      | error f => simp [field?_eq h₁, field?_error h₂, h₂]
      | ok y =>
        obtain ⟨d, us⟩ := y
        cases us with
        | nil => simp [field?_eq h₁, field?_eq h₂, h₂]
        | cons p us =>
          refine iff_of_true ?_ ⟨name, t :: ts, field?_eq h₁, Or.inr ⟨d, p :: us, field?_eq h₂,
            List.cons_ne_nil _ _⟩⟩
          simp only [h₂]
          split
          · simp [acceptedResults]
          · exact storeNewChannel_yields ..

theorem readChannel_yields (hb : bytes ≠ []) :
    (readAndReadChannel s env bytes.length bytes).Yields (acceptedResults .readChannel) ↔
      Answerable.readChannel (fields bytes) := by
  unfold readAndReadChannel Answerable.readChannel
  rw [if_neg (by simp [bodyIncomplete_length hb])]
  cases hf : fields bytes with
  | nil => simp [acceptedResults]
  | cons t ts =>
    dsimp only
    cases h₁ : nextField tokenNameLength (t :: ts) with
    | error f => simp [field?_error h₁]
    | ok x =>
      refine iff_of_true ?_ (Or.inr (by rw [field?_eq h₁]; rfl))
      split
      · rename_i h; cases h
      · split <;> simp [acceptedResults]
      · simp [acceptedResults]

theorem applyUpdate_yields (u : UpdateRequest) :
    (applyUpdate s env u).Yields (acceptedResults .updateChannel) := by
  rw [applyUpdate]
  dsimp only
  split
  · simp [acceptedResults]
  · split
    · simp [acceptedResults]
    · split <;> simp [acceptedResults]

theorem updateChannel_iff (fs : List Str) :
    Answerable.updateChannel fs ↔ ¬ Faults (parseUpdate fs) := by
  rw [parseUpdate_faults, Answerable.updateChannel, not_or]
  push Not
  simp only [Bool.not_eq_true]

theorem updateChannel_yields (hb : bytes ≠ []) :
    (readAndUpdateChannel s env bytes.length bytes).Yields (acceptedResults .updateChannel) ↔
      Answerable.updateChannel (fields bytes) := by
  rw [updateChannel_iff, readAndUpdateChannel, if_neg (by simp [bodyIncomplete_length hb])]
  cases h : parseUpdate (fields bytes) with
  | error e =>
    cases e with
    | badRequest => simp [Faults, acceptedResults]
    | fault f => simp [Faults]
  | ok u =>
    refine iff_of_true ?_ (by simp [Faults])
    dsimp only
    split
    · simp [acceptedResults]
    · split
      · simp [acceptedResults]
      · exact applyUpdate_yields s env u

theorem logoutRefused_ok_iff (a : UserAccount) :
    (∃ x, logoutRefused a addr = .ok x) ↔ a.privilegeLevel = 0 ∨ a.privilegeLevel = 1 := by
  rw [logoutRefused]
  split
  · rename_i h
    simp [h.1]
  · split
    · rename_i h
      refine iff_of_true ?_ h
      split <;> exact ⟨_, rfl⟩
    · rename_i h
      simp [h]

theorem logoutRefused_accepted {a : UserAccount} {n : Int}
    (h : logoutRefused a addr = .ok (some n)) : n ∈ acceptedResults .logout := by
  rw [logoutRefused] at h
  split at h
  · cases h; simp [acceptedResults]
  · split at h
    · split at h
      · cases h; simp [acceptedResults]
      · cases h
    · cases h

theorem logout_yields (hb : bytes ≠ []) :
    (readAndLogoutUser s addr bytes.length bytes).Yields (acceptedResults .logout) ↔
      Answerable.logout s (fields bytes) := by
  unfold readAndLogoutUser Answerable.logout
  rw [if_neg (by simp [bodyIncomplete_length hb])]
  cases h₁ : nextField tokenNameLength (fields bytes) with
  | error f => simp [field?_error h₁]
  | ok x =>
    obtain ⟨d, ts⟩ := x
    simp only [field?_eq h₁, Option.some.injEq, Prod.mk.injEq, exists_and_left, exists_eq_left',
      and_assoc]
    cases hu : s.getUuidWithDisplayName d with
    | none => simp [acceptedResults]
    | some u =>
      cases ha : s.getUserAccount u with
      | none =>
        refine iff_of_true (by simp [ha, acceptedResults]) ?_
        intro u' a hu' ha'
        rw [← Option.some.inj hu', ha] at ha'
        cases ha'
      | some a =>
        have hiff : (∀ u' a', some u = some u' → s.getUserAccount u' = some a' →
            a'.privilegeLevel = 0 ∨ a'.privilegeLevel = 1) ↔ ∃ x, logoutRefused a addr = .ok x := by
          rw [logoutRefused_ok_iff]
          constructor
          · exact fun h => h u a rfl ha
          · rintro h u' a' hu' ha'
            rw [← Option.some.inj hu', ha] at ha'
            cases ha'
            exact h
        rw [hiff]
        cases hr : logoutRefused a addr with
        | error f => simp [ha, hr]
        | ok x =>
          refine iff_of_true ?_ ⟨x, rfl⟩
          cases x with
          | none => simp [ha, hr, acceptedResults]
          | some n => simpa [ha, hr] using logoutRefused_accepted addr hr

theorem loginAccount_yields (l : UserLogin) (a : UserAccount) (t : Name) :
    (loginAccount s env fd addr l a t).Yields (acceptedResults .login) ↔
      loggedInElsewhere s.activeUsers a addr = false ∧
        (s.activeUsers.findConnectedUserWithSameCred (loginUserAccount a addr) fd = true ∨
          s.activeUsers.getNumConnectedUsers < maxClients) := by
  unfold loginAccount openSession Cache.insertUserInCache
  cases he : loggedInElsewhere s.activeUsers a addr with
  | true =>
    by_cases hn : s.activeUsers.getNumConnectedUsers < maxClients
    · simp [hn, acceptedResults]
    · simp [hn]
  | false =>
    cases hs : s.activeUsers.findConnectedUserWithSameCred (loginUserAccount a addr) fd with
    | true => simp [hs, acceptedResults]
    | false =>
      by_cases hn : s.activeUsers.getNumConnectedUsers < maxClients
      · simp [hs, hn, acceptedResults]
      · simp [hs, hn]

theorem login_yields (hb : bytes ≠ []) :
    (readAndLoginUser s env fd addr bytes.length bytes).Yields (acceptedResults .login) ↔
      Answerable.login s fd addr (fields bytes) := by
  unfold readAndLoginUser Answerable.login loginFields
  rw [if_neg (by simp [bodyIncomplete_length hb])]
  cases h₁ : nextField tokenNameLength (fields bytes) with
  | error f => simp [field?_error h₁, bind, Except.bind]
  | ok x =>
    obtain ⟨t, ts⟩ := x
    cases h₂ : nextField pswdMaxLength ts with
    | error f => simp [field?_eq h₁, field?_error h₂, bind, Except.bind, h₂]
    | ok y =>
      obtain ⟨p, us⟩ := y
      simp only [field?_eq h₁, field?_eq h₂, bind, Except.bind, h₂, pure, Except.pure,
        Option.some.injEq, Prod.mk.injEq, exists_and_left, exists_eq_left', and_assoc]
      cases hl : s.getLoginInfo t with
      | none => simp [acceptedResults]
      | some l =>
        simp only [Option.some.injEq, forall_eq']
        cases hp : compareStrings l.password.str p.str with
        | false => simp [acceptedResults]
        | true =>
          cases ht : compareStrings l.loginToken.str t.str with
          | false => simp [acceptedResults]
          | true =>
            cases ha : s.getUserAccount l.uuid with
            | none => simp
            | some a => simp [loginAccount_yields]

theorem storeNewMessage_yields (d name : Name) (content : Str) (stamp : CharArray timestampSize)
    (forward : Str) :
    (storeNewMessage s env d name content stamp forward).Yields (acceptedResults .createMessage) ↔
      s.getChannelInfo env name = none ∨
        ∃ u a, s.activeUsers.getConnectedUserByDisplayName d = some u ∧
          s.getUserAccount u.uuid = some a ∧ (a.privilegeLevel = 0 ∨ a.privilegeLevel = 1) ∧
          (s.getLoginInfo u.loginToken).isSome := by
  rw [storeNewMessage]
  cases hc : s.getChannelInfo env name with
  | none => simp [Outcome.Yields, acceptedResults]
  | some c =>
    cases hu : s.activeUsers.getConnectedUserByDisplayName d with
    | none => simp
    | some u =>
      cases ha : s.getUserAccount u.uuid with
      | none => simp [ha]
      | some a =>
        by_cases hp : a.privilegeLevel ≠ 0 ∧ a.privilegeLevel ≠ 1
        · simp [ha, hp]
        · have hp' : a.privilegeLevel = 0 ∨ a.privilegeLevel = 1 := by omega
          cases hl : s.getLoginInfo u.loginToken with
          | none => simp [ha, hp, hl]
          | some l => simp [ha, hp, hl, hp', Outcome.Yields, acceptedResults]

theorem createMessage_yields (hb : bytes ≠ []) (hack : (fields bytes).head? ≠ some (ascii "200")) :
    (readAndCreateMessage s env bytes.length bytes).Yields (acceptedResults .createMessage) ↔
      Answerable.createMessage s env (fields bytes) := by
  unfold readAndCreateMessage Answerable.createMessage
  rw [if_neg (by simp [bodyIncomplete_length hb])]
  cases h₁ : nextField tokenNameLength (fields bytes) with
  | error f => simp [field?_error h₁]
  | ok x =>
    obtain ⟨d, ts⟩ := x
    have hfs := nextField_eq_ok.mp h₁
    have hd : d.str ≠ ascii "200" := by
      intro he
      rw [hfs, he] at hack
      exact hack rfl
    simp only [field?_eq h₁, Option.some.injEq, Prod.mk.injEq, exists_and_left, exists_eq_left',
      and_assoc, if_neg hd]
    cases h₂ : messageFields ts with
    | error f =>
      refine iff_of_false (by simp) ?_
      rintro ⟨name, us, hn, content, vs, hc, hvs, _⟩
      obtain ⟨t, rest, rfl⟩ := List.exists_cons_of_ne_nil hvs
      rw [messageFields_eq_ok.mpr ⟨us, t, rest, nextField_of_field? hn, nextField_of_field? hc,
        rfl⟩] at h₂
      cases h₂
    | ok y =>
      obtain ⟨name, content, stamp⟩ := y
      have hempty := messageFields_ne_empty h₁ h₂
      obtain ⟨us, t, rest, hn, hc, rfl⟩ := messageFields_eq_ok.mp h₂
      simp only [hempty, Bool.false_eq_true, if_false, storeNewMessage_yields, field?_eq hn,
        field?_eq hc, Option.some.injEq, Prod.mk.injEq, and_assoc, exists_and_left,
        exists_eq_left', ne_eq, List.cons_ne_nil, not_false_eq_true, true_and]

/-- The condition on the messages behind the first one, which the loop has copied. -/
theorem sendersKnown_cons {channelId : Uuid} {used : ℕ} {size : ℕ} {m : MessageInfo}
    {ms : List MessageInfo} (hm : channelId = m.channelId) (hused : used < size) :
    (∀ front x behind, (m :: ms).filter (fun m => channelId = m.channelId) = front ++ x :: behind →
      used+(front.map (Answerable.entryLength s)).sum < size →
        (s.getUserAccount x.userId).isSome) ↔
    (s.getUserAccount m.userId).isSome ∧ ∀ front x behind,
      ms.filter (fun m => channelId = m.channelId) = front ++ x :: behind →
        used+Answerable.entryLength s m+(front.map (Answerable.entryLength s)).sum < size →
          (s.getUserAccount x.userId).isSome := by
  have hfilter : (m :: ms).filter (fun m => channelId = m.channelId) =
      m :: ms.filter (fun m => channelId = m.channelId) :=
    List.filter_cons_of_pos (decide_eq_true hm)
  rw [hfilter]
  constructor
  · intro h
    refine ⟨h [] m _ rfl hused, fun front x behind hsplit hlt => ?_⟩
    refine h (m :: front) x behind (by rw [hsplit]; rfl) ?_
    rw [List.map_cons, List.sum_cons, ← Nat.add_assoc]
    exact hlt
  · rintro ⟨hfirst, h⟩ front x behind hsplit hlt
    cases front with
    | nil =>
      rw [List.nil_append, List.cons.injEq] at hsplit
      rw [← hsplit.1]
      exact hfirst
    | cons y front =>
      rw [List.cons_append, List.cons.injEq] at hsplit
      obtain ⟨rfl, hsplit⟩ := hsplit
      rw [List.map_cons, List.sum_cons, ← Nat.add_assoc] at hlt
      exact h front x behind hsplit hlt

theorem copyMessages_ok_iff (channelId : Uuid) (size : ℕ) (list : List UInt8)
    (ms : List MessageInfo) (hlist : list.length < size) :
    (∃ out, copyMessages s channelId size list ms = .ok out) ↔
      ∀ front m behind, ms.filter (fun m => channelId = m.channelId) = front ++ m :: behind →
        list.length+(front.map (Answerable.entryLength s)).sum < size →
          (s.getUserAccount m.userId).isSome := by
  -- the list that the loop builds is as long as the entries it has copied
  induction ms generalizing list with
  | nil => simp [copyMessages]
  | cons m ms ih =>
    rw [copyMessages]
    by_cases hm : channelId = m.channelId
    · rw [if_pos hm, sendersKnown_cons s hm hlist]
      cases ha : s.getUserAccount m.userId with
      | none => simp
      | some sender =>
        have hentry : Answerable.entryLength s m = sender.displayName.str.length+
            m.messageContent.str.length+timestampSize+3 := by
          rw [Answerable.entryLength, ha]
          rfl
        rw [hentry, Option.isSome_some, and_iff_right rfl]
        dsimp only
        by_cases hsize : list.length+sender.displayName.str.length+
            m.messageContent.str.length+timestampSize+3 ≥ size
        · rw [if_pos hsize]
          refine iff_of_true ⟨_, rfl⟩ fun front x behind _ hlt => ?_
          omega
        · have hlen : (list ++ sender.displayName.str ++ etx :: m.messageContent.str ++
              etx :: m.timeStamp.bytes ++ [etx]).length = list.length+
              (sender.displayName.str.length+m.messageContent.str.length+timestampSize+3) := by
            simp only [List.length_append, List.length_cons, List.length_nil,
              CharArray.length_bytes]
            omega
          rw [if_neg hsize, ih _ (by rw [hlen]; omega), hlen]
    · rw [if_neg hm, List.filter_cons_of_neg (by simpa using hm)]
      exact ih list hlist

theorem buildMessageList_ok_iff (ms : List MessageInfo) (channel : Option ChannelInfo) :
    (∃ out, buildMessageList s ms channel = .ok out) ↔
      ms = [] ∨ ∃ c, channel = some c ∧
        Answerable.sendersKnown s c.channelId (messageListSize c.channelId ms) ms := by
  cases ms with
  | nil => cases channel <;> simp [buildMessageList]
  | cons m ms =>
    cases channel with
    | none => simp [buildMessageList]
    | some c =>
      rw [buildMessageList, copyMessages_ok_iff s _ _ _ _ (Nat.succ_pos _)]
      simp [Answerable.sendersKnown]

theorem readMessage_yields :
    (readAndReadMessage s env bytes).Yields (acceptedResults .readMessage) ↔
      Answerable.readMessage s env (fields bytes) := by
  unfold readAndReadMessage Answerable.readMessage readMessageFields
  cases h₁ : nextField tokenNameLength (fields bytes) with
  | error f => simp [field?_error h₁, bind, Except.bind]
  | ok x =>
    obtain ⟨name, ts⟩ := x
    cases h₂ : nextField tokenNameLength ts with
    | error f => simp [field?_eq h₁, field?_error h₂, bind, Except.bind, h₂]
    | ok y =>
      obtain ⟨n, us⟩ := y
      have hfs : fields bytes = name.str :: n.str :: us := by
        rw [nextField_eq_ok.mp h₁, nextField_eq_ok.mp h₂]
      have hname : name.isEmpty = false := isEmpty_of_mem_fields (by rw [hfs]; simp)
      have hn : n.isEmpty = false := isEmpty_of_mem_fields (by rw [hfs]; simp)
      simp only [field?_eq h₁, field?_eq h₂, bind, Except.bind, h₂, pure, Except.pure,
        Option.some.injEq, Prod.mk.injEq, exists_and_left, exists_eq_left', and_assoc,
        ← buildMessageList_ok_iff]
      cases hnum : isNumber n.str with
      | false => simp [acceptedResults]
      | true =>
        simp only [hname, hn, Bool.or_self, Bool.false_eq_true, if_false, Bool.true_eq_false]
        cases hl : buildMessageList s (s.getAllMessages env) (s.getChannelInfo env name) with
        | error f => simp
        | ok list => simp [acceptedResults]

end Handlers

/-- A request that is implemented, with a header and a body that arrive completely, and that is not
the acknowledgement of a message. -/
structure CompleteRequest where
  kind : RequestKind
  header : ChatHeader
  body : List UInt8
  implemented : branch header.object header.type = .handler kind
  length_body : body.length = header.bodySize
  body_le : body.length ≤ 1023
  not_ack : kind = .createMessage → (fields body).head? ≠ some (ascii "200")

/-- The request on a connection on which `rest` follows. -/
def CompleteRequest.request (q : CompleteRequest) (fd : ℕ) (addr : IpAddr) (env : Env)
    (rest : List UInt8) : Request :=
  ⟨fd, addr, headerBytes .big q.header ++ (q.body ++ rest), env⟩

theorem runHandler_yields (s : State) (r : Request) (k : RequestKind) (bytes : List UInt8)
    (hack : k = .createMessage → (fields bytes).head? ≠ some (ascii "200")) :
    (runHandler k s r bytes.length bytes).Yields (acceptedResults k) ↔
      Answerable s r.env r.fd r.clntAddr bytes k := by
  -- an empty body is the one case in which the channel handlers answer before they parse
  by_cases hb : bytes = []
  · subst hb
    have hf : fields [] = [] := rfl
    have hnone : ∀ n, field? n [] = none := fun _ => rfl
    cases k with
    | createUser =>
      simp [runHandler, readAndCreateUser, bodyIncomplete, acceptedResults, Answerable,
        Answerable.createUser, hf, hnone]
    | destroyUser =>
      simp [runHandler, readAndDestroyUser, bodyIncomplete, acceptedResults, Answerable,
        Answerable.destroyUser, hf, hnone]
    | createChannel =>
      simp [runHandler, readAndCreateChannel, bodyIncomplete, acceptedResults, Answerable]
    | readChannel =>
      simp [runHandler, readAndReadChannel, bodyIncomplete, acceptedResults, Answerable]
    | updateChannel =>
      simp [runHandler, readAndUpdateChannel, bodyIncomplete, acceptedResults, Answerable]
    | createMessage =>
      simp [runHandler, readAndCreateMessage, bodyIncomplete, acceptedResults, Answerable,
        Answerable.createMessage, hf, hnone]
    | readMessage => exact readMessage_yields s r.env
    | login =>
      simp [runHandler, readAndLoginUser, bodyIncomplete, acceptedResults, Answerable,
        Answerable.login, hf, hnone]
    | logout =>
      simp [runHandler, readAndLogoutUser, bodyIncomplete, acceptedResults, Answerable,
        Answerable.logout, hf, hnone]
  · cases k with
    | createUser => exact createUser_yields s r.env hb
    | destroyUser => exact destroyUser_yields s r.fd hb
    | createChannel =>
      rw [Answerable, or_iff_right hb]
      exact createChannel_yields s r.env r.clntAddr hb
    | readChannel =>
      rw [Answerable, or_iff_right hb]
      exact readChannel_yields s r.env hb
    | updateChannel =>
      rw [Answerable, or_iff_right hb]
      exact updateChannel_yields s r.env hb
    | createMessage => exact createMessage_yields s r.env hb (hack rfl)
    | readMessage => exact readMessage_yields s r.env
    | login => exact login_yields s r.env r.fd r.clntAddr hb
    | logout => exact logout_yields s r.clntAddr hb

/-- The handlers that read arrays answer a complete request exactly once if and only if it has the
current version and its fields and the stores meet the condition of its kind. -/
theorem answeredOnce_handleRequest (s : State) (q : CompleteRequest) (fd : ℕ) (addr : IpAddr)
    (env : Env) (rest : List UInt8) :
    AnsweredOnce fd (handleRequest s (q.request fd addr env rest)) ↔
      q.header.version = currentVersion ∧ Answerable s env fd addr q.body q.kind := by
  have hread : readHeader env.byteOrder (headerBytes .big q.header ++ (q.body ++ rest)) =
      .ok (q.header, q.body ++ rest) := readHeader_headerBytes ..
  by_cases hv : q.header.version = currentVersion
  · have hdec : (q.request fd addr env rest).decode = .serve q.kind q.header (q.body ++ rest) := by
      simp [Request.decode, CompleteRequest.request, hread, hv, q.implemented]
    have htake : (q.body ++ rest).take q.header.bodySize = q.body := by
      rw [← q.length_body, List.take_left]
    have hle : ((q.body ++ rest).take q.header.bodySize).length ≤ defaultBuffer := by
      rw [htake]
      exact q.body_le.trans (by decide)
    have hserve := answeredOnce_serve q.kind s (q.request fd addr env rest) hle
    rw [htake, ← q.length_body, runHandler_yields _ _ _ _ q.not_ack] at hserve
    rw [handleRequest, hdec]
    exact hserve.trans (and_iff_right hv).symm
  · have hdec : (q.request fd addr env rest).decode =
        .stop (.ok errorWrongVersion) (q.body ++ rest) := by
      simp [Request.decode, CompleteRequest.request, hread, hv]
    rw [handleRequest, hdec]
    simp [AnsweredOnce, hv]

section Delivery

/-- What a call writes: a direct response, after which nothing asserts, and copies. -/
theorem sent_of_handleRequest (s : State) (r : Request) :
    ∃ (direct : Option Sent) (copies : List Sent),
      (handleRequest s r).sent = direct.toList ++ copies ∧
      (∀ d ∈ direct, d.answers r.fd = true ∧
        (handleRequest s r).ret ≠ .error .shouldNotBeHere) ∧
      ∀ d ∈ copies, d.forwarded = true := by
  have hnone : ∀ c : Call, c.sent = [] → ∃ (direct : Option Sent) (copies : List Sent),
      c.sent = direct.toList ++ copies ∧
      (∀ d ∈ direct, d.answers r.fd = true ∧ c.ret ≠ .error .shouldNotBeHere) ∧
      ∀ d ∈ copies, d.forwarded = true := fun c hc => ⟨none, [], hc, by simp, by simp⟩
  rw [handleRequest]
  cases r.decode with
  | stop ret rest => exact hnone _ rfl
  | serve k header rest =>
    dsimp only
    obtain ⟨st, f, h⟩ | ⟨st, reply, h⟩ := serve_cases k s r header rest
    · exact hnone _ (by rw [h])
    · rw [h, respond]
      split
      · exact hnone _ rfl
      · cases sendResponse k reply.result reply.token with
        | error f => exact hnone _ rfl
        | ok body =>
          dsimp only
          have hdirect : ∀ b ∈ body.map fun b => (⟨r.fd, false, responseHeader header b, b⟩ : Sent),
              b.answers r.fd = true := by
            intro d hd
            obtain ⟨b, _, rfl⟩ := Option.mem_map.mp hd
            simp [Sent.answers]
          have hlist : (body.toList.map fun b =>
              (⟨r.fd, false, responseHeader header b, b⟩ : Sent)) =
                (body.map fun b => (⟨r.fd, false, responseHeader header b, b⟩ : Sent)).toList := by
            cases body <;> rfl
          obtain hafter | ⟨⟨sent, closed⟩, hafter, hcopies⟩ :=
            afterResponse_spec k st r header reply
          · rw [hafter]
            exact ⟨_, [], by rw [hlist, List.append_nil],
              fun d hd => ⟨hdirect d hd, by simp⟩, by simp⟩
          · rw [hafter]
            exact ⟨_, sent, by rw [hlist], fun d hd => ⟨hdirect d hd, by simp⟩, hcopies⟩

/-- A response is delivered as the first of what is written, if its peer is there. -/
theorem answeredOnce_deliver (m : Machine) (s : State) (r : Request) :
    AnsweredOnce r.fd (m.deliver (handleRequest s r)) ↔
      m.reset r.fd = false ∧ AnsweredOnce r.fd (handleRequest s r) := by
  obtain ⟨direct, copies, hsent, hdirect, hcopies⟩ := sent_of_handleRequest s r
  have hfilter : ∀ xs ⊆ copies, xs.filter (·.answers r.fd) = [] := fun xs hxs =>
    filter_forwarded (fun x hx => hcopies x (hxs hx)) r.fd
  by_cases hreset : ∃ d ∈ (handleRequest s r).sent, m.reset d.fd = true
  · obtain ⟨d, hd, hgone⟩ := hreset
    rw [m.deliver_broken hd hgone, AnsweredOnce, AnsweredOnce, hsent]
    cases direct with
    | none =>
      rw [Option.toList_none, List.nil_append, hfilter _ (List.takeWhile_subset _),
        hfilter _ (List.Subset.refl _)]
      simp
    | some x =>
      obtain ⟨hans, hret⟩ := hdirect x rfl
      have hfd : x.fd = r.fd := by
        rw [Sent.answers, Bool.and_eq_true, decide_eq_true_eq] at hans
        exact hans.1
      rw [Option.toList_some, List.singleton_append, List.takeWhile_cons, hfd]
      cases hr : m.reset r.fd with
      | true => simp
      | false =>
        simp [hans, hret, hfilter _ (List.takeWhile_subset _), hfilter _ (List.Subset.refl _)]
  · rw [m.deliver_eq fun d hd => by
      cases h : m.reset d.fd with
      | false => rfl
      | true => exact absurd ⟨d, hd, h⟩ hreset]
    refine (and_iff_right_of_imp fun hans => ?_).symm
    rw [AnsweredOnce, hsent] at hans
    cases direct with
    | none =>
      rw [Option.toList_none, List.nil_append, hfilter _ (List.Subset.refl _)] at hans
      cases hans.1
    | some x =>
      obtain ⟨hx, _⟩ := hdirect x rfl
      rw [Sent.answers, Bool.and_eq_true, decide_eq_true_eq] at hx
      rw [← hx.1]
      have hmem : x ∈ (handleRequest s r).sent := by
        rw [hsent]
        exact List.mem_append_left _ (by simp)
      cases h : m.reset x.fd with
      | false => rfl
      | true => exact absurd ⟨x, hmem, h⟩ hreset

end Delivery

/-- A login in the current version. -/
def loginRequest (token password : String)
    (h : (Client.body [token, password]).length < 1024) : CompleteRequest where
  kind := .login
  header := ⟨currentVersion, 1, 4, Fin.ofNat _ (Client.body [token, password]).length⟩
  body := Client.body [token, password]
  implemented := rfl
  length_body := (Nat.mod_eq_of_lt (by omega)).symm
  body_le := by omega
  not_ack := nofun

end ChatServer
