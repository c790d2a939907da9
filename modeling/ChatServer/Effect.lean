import ChatServer.Dispatch

/-!
# What a request can do to the state

For every kind of request that changes the state, what it acts on when it gets past all its
checks, computed from the request and the state before it. `handleRequest_effect` lists all
that one call can do; invariants are proved from that list and never open a handler.
-/

namespace ChatServer

open CLib

/-- The fields with which a request reaches the handler of kind `k`. -/
def Request.fieldsFor (r : Request) (k : RequestKind) : Option (List Str) :=
  (r.bodyFor k).map fields

/-- The field loaded into an array, as far as it fits. -/
def field? (n : ℕ) (ts : List Str) : Option (CharArray n × List Str) := (nextField n ts).toOption

/-- Login token, display name and password of a user that a request creates. -/
def createUserTarget (s : State) (r : Request) : Option (Name × Name × Password) := do
  let (loginToken, ts) ← field? tokenNameLength (← r.fieldsFor .createUser)
  let (displayName, ts) ← field? tokenNameLength ts
  let (password, _) ← field? pswdMaxLength ts
  if s.getLoginInfo loginToken = none ∧ s.getUuidWithDisplayName displayName = none then
    some (loginToken, displayName, password)
  else none

/-- Display name and login record that an accepted request to destroy a user removes. -/
def destroyTarget (s : State) (r : Request) : Option (Name × UserLogin) := do
  let (displayName, ts) ← field? tokenNameLength (← r.fieldsFor .destroyUser)
  let (loginToken, ts) ← field? tokenNameLength ts
  let (password, _) ← field? pswdMaxLength ts
  let sender ← s.activeUsers.getConnectedUserByFd r.fd
  let login ← s.getLoginInfo loginToken
  if invalidCredentials sender (s.getLoginInfo sender.loginToken) (s.getUserAccount sender.uuid)
      displayName password = .ok false then some (displayName, login)
  else none

/-- Login record and account of a login with the right credentials. -/
def loginTarget (s : State) (r : Request) : Option (UserLogin × UserAccount) := do
  let (loginToken, ts) ← field? tokenNameLength (← r.fieldsFor .login)
  let (password, _) ← field? pswdMaxLength ts
  let login ← s.getLoginInfo loginToken
  let account ← s.getUserAccount login.uuid
  if compareStrings login.password.str password.str ∧
      compareStrings login.loginToken.str loginToken.str then some (login, account)
  else none

/-- The account that a request logs out. -/
def logoutTarget (s : State) (r : Request) : Option UserAccount := do
  let (displayName, _) ← field? tokenNameLength (← r.fieldsFor .logout)
  let uuid ← s.getUuidWithDisplayName displayName
  let account ← s.getUserAccount uuid
  if logoutRefused account r.clntAddr = .ok none then some account else none

/-- The channel that a request creates. -/
def createChannelTarget (s : State) (r : Request) : Option ChannelInfo := do
  let (channelName, ts) ← field? tokenNameLength (← r.fieldsFor .createChannel)
  let (displayName, ts) ← field? tokenNameLength ts
  let publicity ← ts.head?
  let nameInCache ← s.activeUsers.getDisplayNameInCache r.clntAddr displayName
  if publicity.length = 1 ∧
      (nameInCache = adminName → s.checkDuplicateDisplayName displayName = true) ∧
      s.checkDuplicateChannelName r.env channelName = false then
    some (createChannel r.env.uuid channelName displayName (publicity = ascii "1"))
  else none

/-- The update that a request applies to a channel: it parses, the channel exists and every name
in its lists is registered. -/
def updateTarget (s : State) (r : Request) : Option UpdateRequest := do
  let u ← (parseUpdate (← r.fieldsFor .updateChannel)).toOption
  if (s.getChannelInfo r.env u.channelName).isSome ∧ namesRegistered s u = true then some u
  else none

/-- The message that a request stores. -/
def createMessageTarget (s : State) (r : Request) : Option MessageInfo := do
  let (displayName, ts) ← field? tokenNameLength (← r.fieldsFor .createMessage)
  let (channelName, content, timestamp) ← (messageFields ts).toOption
  let channel ← s.getChannelInfo r.env channelName
  let user ← s.activeUsers.getConnectedUserByDisplayName displayName
  let account ← s.getUserAccount user.uuid
  let login ← s.getLoginInfo user.loginToken
  if displayName.str ≠ ascii "200" ∧ (account.privilegeLevel = 0 ∨ account.privilegeLevel = 1) then
    some (generateMessage r.env login channel content.str timestamp)
  else none

/-- The rename of an update, if it asks for one. -/
def renameStep (s : State) (env : Env) (u : UpdateRequest) : Option State :=
  if u.isChangeName || u.isChangePublicity then
    s.updateChannelNameAndPublicity env u.channelName u.newChannelName u.newPublicity
  else some s

/-- The new members of an update, if it has any. -/
def addStep (s : State) (env : Env) (u : UpdateRequest) : Option State :=
  if u.users.alter ≠ 48 then s.addUsersOnChannel env u.channelName u.users.add else some s

/-- The state after a user has been created. -/
def State.withUser (s : State) (uuid : Uuid) (t d : Name) (p : Password) : State :=
  ((s.insertDisplayName d uuid).insertUserLogin (generateUserLogin t p uuid)).insertUserAccount
    (generateUserAccount uuid d)

/-- The state after a user has been destroyed: the display name comes from the request, the account
and the login record from the login token. -/
def State.withoutUser (s : State) (d : Name) (login : UserLogin) : State :=
  ((s.removeDisplayName d).removeUserAccount login.uuid).removeUserLogin login.loginToken

/-- Everything a call can do to the state; the last index says whether the call returned. -/
inductive Effect (s : State) (r : Request) : State → Bool → Prop where
  | unchanged (b : Bool) : Effect s r s b
  | createUser {t d : Name} {p : Password} (h : createUserTarget s r = some (t, d, p)) (b : Bool) :
      Effect s r (s.withUser r.env.uuid t d p) b
  | destroyUser {d : Name} {login : UserLogin} (h : destroyTarget s r = some (d, login))
      (b : Bool) : Effect s r (s.withoutUser d login) b
  | restart {login : UserLogin} {account : UserAccount}
      (h : loginTarget s r = some (login, account))
      (helse : loggedInElsewhere s.activeUsers account r.clntAddr = false)
      (hsame : s.activeUsers.findConnectedUserWithSameCred (loginUserAccount account r.clntAddr)
        r.fd = true) (b : Bool) :
      Effect s r (s.insertUserAccount (loginUserAccount account r.clntAddr)) b
  | openSession {login : UserLogin} {account : UserAccount} {c : Cache}
      (h : loginTarget s r = some (login, account))
      (helse : loggedInElsewhere s.activeUsers account r.clntAddr = false)
      (hsame : s.activeUsers.findConnectedUserWithSameCred (loginUserAccount account r.clntAddr)
        r.fd = false)
      (hc : s.activeUsers.insertUserInCache r.fd (loginUserAccount account r.clntAddr) login =
        some c) (b : Bool) :
      Effect s r { s.insertUserAccount (loginUserAccount account r.clntAddr) with
        activeUsers := c } b
  | cacheFull {login : UserLogin} {account : UserAccount}
      (h : loginTarget s r = some (login, account)) :
      Effect s r (s.insertUserAccount (loginUserAccount account r.clntAddr)) false
  | terminate {login : UserLogin} {account : UserAccount} {c : Cache}
      (h : loginTarget s r = some (login, account))
      (helse : loggedInElsewhere s.activeUsers account r.clntAddr = true)
      (hc : s.activeUsers.insertUserInCache r.fd account login = some c) :
      Effect s r { s with activeUsers := c } false
  | logout {account : UserAccount} (h : logoutTarget s r = some account) (b : Bool) :
      Effect s r { s.insertUserAccount (logoutUserAccount account) with
        activeUsers := s.activeUsers.removeUserInCache account.displayName } b
  | createChannel {c : ChannelInfo} (h : createChannelTarget s r = some c) (b : Bool) :
      Effect s r (s.insertChannelInfo c) b
  | updateChannel {u : UpdateRequest} {s₁ s₂ : State} (h : updateTarget s r = some u)
      (h₁ : renameStep s r.env u = some s₁) (h₂ : s₂ = s₁ ∨ addStep s₁ r.env u = some s₂)
      (b : Bool) : Effect s r s₂ b
  | createMessage {m : MessageInfo} (h : createMessageTarget s r = some m) (b : Bool) :
      Effect s r (s.insertMessage m) b

section Handlers

variable {s : State} {r : Request} {n : ℕ} {bytes : List UInt8}

theorem field?_eq {n : ℕ} {ts : List Str} {x : CharArray n × List Str}
    (h : nextField n ts = .ok x) : field? n ts = some x := by
  rw [field?, h]; rfl

theorem createUser_effect
    (hf : bodyIncomplete n bytes = false → r.fieldsFor .createUser = some (fields bytes))
    (b : Bool) : Effect s r (readAndCreateUser s r.env n bytes).state b := by
  rw [readAndCreateUser]
  cases hn : bodyIncomplete n bytes with
  | true => exact .unchanged b
  | false =>
    cases h₁ : nextField tokenNameLength (fields bytes) with
    | error f => exact .unchanged b
    | ok x =>
      obtain ⟨t, ts⟩ := x
      cases h₂ : nextField tokenNameLength ts with
      | error f => simp only [bind, Except.bind, h₂]; exact .unchanged b
      | ok y =>
        obtain ⟨d, us⟩ := y
        simp only [bind, Except.bind, h₂, pure, Except.pure, Bool.false_eq_true, if_false]
        split
        · exact .unchanged b
        · split
          · exact .unchanged b
          · rename_i ht
            split
            · exact .unchanged b
            · rename_i hd
              cases h₃ : nextField pswdMaxLength us with
              | error f => exact .unchanged b
              | ok z =>
                obtain ⟨p, vs⟩ := z
                refine .createUser ?_ b
                simp only [State.checkDuplicateDisplayName, Option.isSome_iff_ne_none, ne_eq,
                  Decidable.not_not] at ht hd
                simp only [createUserTarget, hf hn, bind, Option.bind, field?_eq h₁, field?_eq h₂,
                  field?_eq h₃, State.getUuidWithDisplayName, ht, hd, and_self, if_true]

theorem destroyUser_effect
    (hf : bodyIncomplete n bytes = false → r.fieldsFor .destroyUser = some (fields bytes))
    (b : Bool) : Effect s r (readAndDestroyUser s r.fd n bytes).state b := by
  cases hn : bodyIncomplete n bytes with
  | true =>
    rw [readAndDestroyUser, hn]
    exact .unchanged b
  | false =>
    cases hd : destroyFields bytes with
    | error f =>
      rw [readAndDestroyUser, hn, hd]
      exact .unchanged b
    | ok x =>
      obtain ⟨d, t, p⟩ := x
      cases hs : s.activeUsers.getConnectedUserByFd r.fd with
      | none =>
        simp only [readAndDestroyUser, hn, hd, destroyFields_ne_empty hd, hs, Bool.false_eq_true,
          if_false]
        exact .unchanged b
      | some sender =>
        obtain ⟨_, _, hout⟩ | ⟨_, hout⟩ | ⟨login, hl, hi, hout⟩ | ⟨f, hout, _⟩ :=
          readAndDestroyUser_cases hn hd hs rfl
        · rw [hout]
          exact .unchanged b
        · rw [hout]
          exact .unchanged b
        · rw [hout]
          refine .destroyUser ?_ b
          obtain ⟨ts, us, vs, h₁, h₂, h₃⟩ := destroyFields_eq_ok.mp hd
          simp only [destroyTarget, hf hn, bind, Option.bind, field?_eq h₁, field?_eq h₂,
            field?_eq h₃, hs, hl, hi, if_true]
        · rw [hout]
          exact .unchanged b

/-- The two insertions of a session, the second one behind the rewritten account. -/
theorem loginAccount_effect {login : UserLogin} {account : UserAccount} {t : Name} {b : Bool}
    (h : loginTarget s r = some (login, account))
    (hfault : ∀ f, (loginAccount s r.env r.fd r.clntAddr login account t).value = .error f →
      b = false)
    (hterm : ∀ x, (loginAccount s r.env r.fd r.clntAddr login account t).value = .ok x →
      x.result = terminateAndRestablishConnection → b = false) :
    Effect s r (loginAccount s r.env r.fd r.clntAddr login account t).state b := by
  unfold loginAccount at hfault hterm ⊢
  cases he : loggedInElsewhere s.activeUsers account r.clntAddr with
  | true =>
    simp only [he, if_true, openSession] at hfault hterm ⊢
    cases hc : s.activeUsers.insertUserInCache r.fd account login with
    | none => exact .unchanged b
    | some c =>
      simp only [hc] at hterm
      rw [hterm _ rfl rfl]
      exact .terminate h he hc
  | false =>
    simp only [he, Bool.false_eq_true, if_false, openSession] at hfault hterm ⊢
    cases hs : s.activeUsers.findConnectedUserWithSameCred (loginUserAccount account r.clntAddr)
        r.fd with
    | true =>
      simp only [State.insertUserAccount_activeUsers, hs, if_true]
      exact .restart h he hs b
    | false =>
      simp only [State.insertUserAccount_activeUsers, hs, Bool.false_eq_true, if_false]
        at hfault ⊢
      cases hc : s.activeUsers.insertUserInCache r.fd (loginUserAccount account r.clntAddr)
          login with
      | none =>
        simp only [hc] at hfault ⊢
        rw [hfault _ rfl]
        exact .cacheFull h
      | some c =>
        exact .openSession h he hs hc b

theorem login_effect
    (hf : bodyIncomplete n bytes = false → r.fieldsFor .login = some (fields bytes))
    {b : Bool}
    (hfault : ∀ f, (readAndLoginUser s r.env r.fd r.clntAddr n bytes).value = .error f → b = false)
    (hterm : ∀ x, (readAndLoginUser s r.env r.fd r.clntAddr n bytes).value = .ok x →
      x.result = terminateAndRestablishConnection → b = false) :
    Effect s r (readAndLoginUser s r.env r.fd r.clntAddr n bytes).state b := by
  unfold readAndLoginUser at hfault hterm ⊢
  cases hn : bodyIncomplete n bytes with
  | true => exact .unchanged b
  | false =>
    simp only [hn, Bool.false_eq_true, if_false] at hfault hterm ⊢
    cases hd : loginFields bytes with
    | error f => exact .unchanged b
    | ok x =>
      obtain ⟨t, p⟩ := x
      simp only [hd] at hfault hterm ⊢
      cases hl : s.getLoginInfo t with
      | none => exact .unchanged b
      | some login =>
        simp only [hl] at hfault hterm ⊢
        split
        · exact .unchanged b
        · rename_i hcmp
          cases ha : s.getUserAccount login.uuid with
          | none => exact .unchanged b
          | some account =>
            simp only [hcmp, ha] at hfault hterm ⊢
            refine loginAccount_effect ?_ hfault hterm
            simp only [Bool.or_eq_true, Bool.not_eq_true', not_or, Bool.not_eq_false] at hcmp
            obtain ⟨ts, us, h₁, h₂⟩ := loginFields_eq_ok.mp hd
            simp only [loginTarget, hf hn, bind, Option.bind, field?_eq h₁, field?_eq h₂, hl, ha,
              hcmp.1, hcmp.2, and_self, if_true]

theorem logout_effect
    (hf : bodyIncomplete n bytes = false → r.fieldsFor .logout = some (fields bytes))
    (b : Bool) : Effect s r (readAndLogoutUser s r.clntAddr n bytes).state b := by
  rw [readAndLogoutUser]
  cases hn : bodyIncomplete n bytes with
  | true => exact .unchanged b
  | false =>
    simp only [Bool.false_eq_true, if_false]
    cases h₁ : nextField tokenNameLength (fields bytes) with
    | error f => exact .unchanged b
    | ok x =>
      obtain ⟨d, ts⟩ := x
      dsimp only
      cases hu : s.getUuidWithDisplayName d with
      | none => exact .unchanged b
      | some u =>
        dsimp only
        cases ha : s.getUserAccount u with
        | none => exact .unchanged b
        | some account =>
          dsimp only
          cases hr : logoutRefused account r.clntAddr with
          | error f => exact .unchanged b
          | ok o =>
            cases o with
            | some result => exact .unchanged b
            | none =>
              refine .logout ?_ b
              simp only [logoutTarget, hf hn, bind, Option.bind, field?_eq h₁, hu, ha, hr, if_true]

theorem storeNewChannel_cases (env : Env) (addr : IpAddr) (c d : Name) (p : Bool) :
    ((storeNewChannel s env addr c d p).state = s ∧
      ∀ reply, (storeNewChannel s env addr c d p).value = .ok reply → reply.result ≠ 0) ∨
      ∃ name, s.activeUsers.getDisplayNameInCache addr d = some name ∧
        (name = adminName → s.checkDuplicateDisplayName d = true) ∧
        s.checkDuplicateChannelName env c = false ∧
        (storeNewChannel s env addr c d p).state =
          s.insertChannelInfo (createChannel env.uuid c d p) := by
  rw [storeNewChannel]
  cases hname : s.activeUsers.getDisplayNameInCache addr d with
  | none => exact Or.inl ⟨rfl, fun _ h => by cases h; decide⟩
  | some name =>
    dsimp only
    split
    · exact Or.inl ⟨rfl, fun _ h => by cases h; decide⟩
    · rename_i hadmin
      split
      · exact Or.inl ⟨rfl, fun _ h => by cases h; decide⟩
      · split
        · exact Or.inl ⟨rfl, fun _ h => by cases h; decide⟩
        · rename_i hdup
          have hreg : name = adminName → s.checkDuplicateDisplayName d = true :=
            fun ha => Bool.eq_true_of_not_eq_false fun hc => hadmin ⟨ha, hc⟩
          exact Or.inr ⟨name, rfl, hreg, Bool.eq_false_of_not_eq_true hdup, rfl⟩

/-- A request to create a channel is turned down and changes nothing, or it gets past every check
and its channel is stored. -/
theorem readAndCreateChannel_cases (s : State) (env : Env) (addr : IpAddr) (n : ℕ)
    (bytes : List UInt8) :
    ((readAndCreateChannel s env addr n bytes).state = s ∧
      ∀ reply, (readAndCreateChannel s env addr n bytes).value = .ok reply → reply.result ≠ 0) ∨
    bodyIncomplete n bytes = false ∧ ∃ c d p ts name,
      fields bytes = c.str :: d.str :: p :: ts ∧ p.length = 1 ∧
      s.activeUsers.getDisplayNameInCache addr d = some name ∧
      (name = adminName → s.checkDuplicateDisplayName d = true) ∧
      s.checkDuplicateChannelName env c = false ∧
      (readAndCreateChannel s env addr n bytes).state =
        s.insertChannelInfo (createChannel env.uuid c d (p = ascii "1")) := by
  rw [readAndCreateChannel]
  cases hn : bodyIncomplete n bytes with
  | true => exact Or.inl ⟨rfl, fun _ h => by cases h; decide⟩
  | false =>
    simp only [Bool.false_eq_true, if_false]
    cases h₁ : nextField tokenNameLength (fields bytes) with
    | error f => exact Or.inl ⟨rfl, fun _ h => by cases h⟩
    | ok x =>
      obtain ⟨c, ts⟩ := x
      cases ts with
      | nil => exact Or.inl ⟨rfl, fun _ h => by cases h; decide⟩
      | cons t ts =>
        dsimp only
        cases h₂ : nextField tokenNameLength (t :: ts) with
        | error f => exact Or.inl ⟨rfl, fun _ h => by cases h⟩
        | ok y =>
          obtain ⟨d, us⟩ := y
          cases us with
          | nil => exact Or.inl ⟨rfl, fun _ h => by cases h⟩
          | cons p us =>
            dsimp only
            split
            · exact Or.inl ⟨rfl, fun _ h => by cases h; decide⟩
            · rename_i hp
              obtain hs | ⟨name, hname, hreg, hfree, hs⟩ :=
                storeNewChannel_cases env addr c d (p = ascii "1")
              · exact Or.inl hs
              · have hfs : fields bytes = c.str :: d.str :: p :: us := by
                  rw [nextField_eq_ok.mp h₁, nextField_eq_ok.mp h₂]
                -- the publicity field is "1" or has one character, and "1" has one
                have hlen : p.length = 1 := by
                  by_contra hne
                  refine hp ⟨fun he => hne ?_, hne⟩
                  rw [he]; decide
                exact Or.inr ⟨trivial, c, d, p, us, name, hfs, hlen, hname, hreg, hfree, hs⟩

theorem createChannel_effect
    (hf : bodyIncomplete n bytes = false → r.fieldsFor .createChannel = some (fields bytes))
    (b : Bool) : Effect s r (readAndCreateChannel s r.env r.clntAddr n bytes).state b := by
  obtain ⟨hs, _⟩ | ⟨hn, c, d, p, ts, name, hfs, hlen, hname, hreg, hfree, hs⟩ :=
    readAndCreateChannel_cases s r.env r.clntAddr n bytes
  · rw [hs]
    exact .unchanged b
  · rw [hs]
    refine .createChannel ?_ b
    have h₁ := field?_eq (nextField_eq_ok.mpr hfs)
    have h₂ : field? tokenNameLength (d.str :: p :: ts) = some (d, p :: ts) :=
      field?_eq (nextField_eq_ok.mpr rfl)
    simp only [createChannelTarget, hf hn, bind, Option.bind, h₁, h₂, List.head?_cons, hname]
    rw [if_pos ⟨hlen, hreg, hfree⟩]

theorem updateChannel_effect
    (hf : bodyIncomplete n bytes = false → r.fieldsFor .updateChannel = some (fields bytes))
    (b : Bool) : Effect s r (readAndUpdateChannel s r.env n bytes).state b := by
  obtain ⟨hs, _⟩ | ⟨hn, u, c, hu, hc, hreg, heq⟩ := readAndUpdateChannel_cases s r.env n bytes
  · rw [hs]
    exact .unchanged b
  · have ht : updateTarget s r = some u := by
      simp only [updateTarget, hf hn, bind, Option.bind, hu, Except.toOption]
      rw [if_pos ⟨by rw [hc]; rfl, hreg⟩]
    rw [heq, applyUpdate]
    dsimp only
    split
    · exact .unchanged b
    · rename_i s₁ h₁
      split
      · exact .updateChannel ht h₁ (Or.inl rfl) b
      · rename_i s₂ h₂
        split <;> exact .updateChannel ht h₁ (Or.inr h₂) b

theorem storeNewMessage_cases (env : Env) (d c : Name) (content : Str)
    (stamp : CharArray timestampSize) (forward : Str) :
    ((storeNewMessage s env d c content stamp forward).state = s ∧
      ∀ reply, (storeNewMessage s env d c content stamp forward).value = .ok reply →
        reply.result ≠ 0) ∨
      ∃ channel user account login, s.getChannelInfo env c = some channel ∧
        s.activeUsers.getConnectedUserByDisplayName d = some user ∧
        s.getUserAccount user.uuid = some account ∧
        (account.privilegeLevel = 0 ∨ account.privilegeLevel = 1) ∧
        s.getLoginInfo user.loginToken = some login ∧
        (storeNewMessage s env d c content stamp forward).state =
          s.insertMessage (generateMessage env login channel content stamp) := by
  rw [storeNewMessage]
  cases hc : s.getChannelInfo env c with
  | none =>
    refine Or.inl ⟨rfl, fun _ h => ?_⟩
    cases h
    exact show errorChannelDoesNotExist ≠ 0 by decide
  | some channel =>
    dsimp only
    cases hu : s.activeUsers.getConnectedUserByDisplayName d with
    | none => exact Or.inl ⟨rfl, fun _ h => by cases h⟩
    | some user =>
      dsimp only
      cases ha : s.getUserAccount user.uuid with
      | none => exact Or.inl ⟨rfl, fun _ h => by cases h⟩
      | some account =>
        dsimp only
        by_cases hp : account.privilegeLevel ≠ 0 ∧ account.privilegeLevel ≠ 1
        · rw [if_pos hp]
          exact Or.inl ⟨rfl, fun _ h => by cases h⟩
        · rw [if_neg hp]
          cases hl : s.getLoginInfo user.loginToken with
          | none => exact Or.inl ⟨rfl, fun _ h => by cases h⟩
          | some login =>
            exact Or.inr ⟨channel, user, account, login, rfl, rfl, ha, by omega, hl, rfl⟩

/-- A request to create a message is turned down and changes nothing, or it gets past every check
and its message is stored. -/
theorem createMessage_cases
    (hf : bodyIncomplete n bytes = false → r.fieldsFor .createMessage = some (fields bytes)) :
    ((readAndCreateMessage s r.env n bytes).state = s ∧
      ∀ reply, (readAndCreateMessage s r.env n bytes).value = .ok reply → reply.result ≠ 0) ∨
      ∃ m, createMessageTarget s r = some m ∧
        (readAndCreateMessage s r.env n bytes).state = s.insertMessage m := by
  rw [readAndCreateMessage]
  cases hn : bodyIncomplete n bytes with
  | true => exact Or.inl ⟨rfl, fun _ h => by cases h; decide⟩
  | false =>
    simp only [Bool.false_eq_true, if_false]
    cases h₁ : nextField tokenNameLength (fields bytes) with
    | error f => exact Or.inl ⟨rfl, fun _ h => by cases h⟩
    | ok x =>
      obtain ⟨d, ts⟩ := x
      dsimp only
      by_cases hack : d.str = ascii "200"
      · rw [if_pos hack]
        refine Or.inl ⟨rfl, fun _ h => ?_⟩
        cases h
        exact show createMessageAck ≠ 0 by decide
      · rw [if_neg hack]
        cases h₂ : messageFields ts with
        | error f => exact Or.inl ⟨rfl, fun _ h => by cases h⟩
        | ok y =>
          obtain ⟨c, content, stamp⟩ := y
          simp only [messageFields_ne_empty h₁ h₂, Bool.false_eq_true, if_false]
          obtain hs | ⟨channel, user, account, login, hc, hu, ha, hp, hl, hs⟩ :=
            storeNewMessage_cases r.env d c content.str stamp (cstr bytes)
          · exact Or.inl hs
          · refine Or.inr ⟨_, ?_, hs⟩
            simp only [createMessageTarget, hf hn, bind, Option.bind, field?_eq h₁, h₂,
              Except.toOption, hc, hu, ha, hl]
            rw [if_pos ⟨hack, hp⟩]

theorem createMessage_effect
    (hf : bodyIncomplete n bytes = false → r.fieldsFor .createMessage = some (fields bytes))
    (b : Bool) : Effect s r (readAndCreateMessage s r.env n bytes).state b := by
  obtain ⟨hs, _⟩ | ⟨m, hm, hs⟩ := createMessage_cases hf
  · rw [hs]
    exact .unchanged b
  · rw [hs]
    exact .createMessage hm b

theorem readChannel_state : (readAndReadChannel s r.env n bytes).state = s := by
  rw [readAndReadChannel]
  repeat' (first | rfl | split)

theorem readMessage_state : (readAndReadMessage s r.env bytes).state = s := by
  rw [readAndReadMessage]
  dsimp only
  repeat' (first | rfl | split)

end Handlers

theorem fieldsFor_eq {r : Request} {k : RequestKind} {header : ChatHeader} {rest : List UInt8}
    (hd : r.decode = .serve k header rest)
    (hlen : (rest.take header.bodySize).length ≤ defaultBuffer)
    (hn : bodyIncomplete header.bodySize (rest.take header.bodySize) = false) :
    r.fieldsFor k = some (fields (rest.take header.bodySize)) := by
  simp only [Request.fieldsFor, Request.bodyFor, hd, hlen, hn, and_self, if_true, Option.map_some]

/-- A call returns when its `ret` is a value. -/
def Call.returned (c : Call) : Bool := c.ret.toBool

/-- All that one call of `handle_request` can do to the state. -/
theorem handleRequest_effect (s : State) (r : Request) :
    Effect s r (handleRequest s r).state (handleRequest s r).returned := by
  rw [handleRequest]
  split
  · exact .unchanged _
  · rename_i k header rest hd
    by_cases hlen : (rest.take header.bodySize).length ≤ defaultBuffer
    · have hf := fieldsFor_eq hd hlen
      rw [serve_state k s r header rest hlen]
      cases k with
      | createUser => exact createUser_effect hf _
      | destroyUser => exact destroyUser_effect hf _
      | createChannel => exact createChannel_effect hf _
      | readChannel => rw [runHandler, readChannel_state]; exact .unchanged _
      | updateChannel => exact updateChannel_effect hf _
      | createMessage => exact createMessage_effect hf _
      | readMessage => rw [runHandler, readMessage_state]; exact .unchanged _
      | login =>
        refine login_effect hf ?_ ?_
        · intro f hv
          simp only [serve, if_neg (Nat.not_lt.mpr hlen), runHandler, hv]
          rfl
        · intro x hv hx
          simp only [serve, if_neg (Nat.not_lt.mpr hlen), runHandler, hv, respond, hx]
          rfl
      | logout => exact logout_effect hf _
    · rw [serve, if_pos (Nat.lt_of_not_le hlen)]
      exact .unchanged _

section Targets

variable {s : State} {r : Request}

theorem field?_some {n : ℕ} {ts rest : List Str} {a : CharArray n}
    (h : field? n ts = some (a, rest)) : ts = a.str :: rest := by
  unfold field? Except.toOption at h
  split at h
  · rename_i x hx
    rw [Option.some.inj h] at hx
    exact nextField_eq_ok.mp hx
  · cases h

/-- The fields of a request that reaches a handler are those of its complete body. -/
theorem fieldsFor_some {k : RequestKind} {fs : List Str} (h : r.fieldsFor k = some fs) :
    ∃ header rest, r.decode = .serve k header rest ∧
      (rest.take header.bodySize).length ≤ defaultBuffer ∧
      bodyIncomplete header.bodySize (rest.take header.bodySize) = false ∧
      fs = fields (rest.take header.bodySize) := by
  obtain ⟨bytes, hb, rfl⟩ := Option.map_eq_some_iff.mp h
  rw [Request.bodyFor] at hb
  split at hb
  · cases hb
  · rename_i k' header rest hd
    dsimp only at hb
    split at hb
    · rename_i hk
      cases hb
      exact ⟨header, rest, hk.1 ▸ hd, hk.2.1, hk.2.2, rfl⟩
    · cases hb

/-- A request reaches one handler. -/
theorem fieldsFor_unique {k k' : RequestKind} {fs fs' : List Str}
    (h : r.fieldsFor k = some fs) (h' : r.fieldsFor k' = some fs') : k = k' := by
  obtain ⟨header, rest, hd, _, _, _⟩ := fieldsFor_some h
  obtain ⟨header', rest', hd', _, _, _⟩ := fieldsFor_some h'
  rw [hd] at hd'
  cases hd'
  rfl

/-- No field that `strtok` returned is empty. -/
theorem field_ne_empty {n : ℕ} {k : RequestKind} {fs : List Str} (h : r.fieldsFor k = some fs)
    {a : CharArray n} (ha : a.str ∈ fs) : a.isEmpty = false := by
  obtain ⟨_, _, _, _, _, rfl⟩ := fieldsFor_some h
  exact isEmpty_of_mem_fields ha

theorem createUserTarget_some {t d : Name} {p : Password}
    (h : createUserTarget s r = some (t, d, p)) :
    (∃ rest, r.fieldsFor .createUser = some (t.str :: d.str :: p.str :: rest)) ∧
      s.userLoginInfo.lookup t = none ∧ s.displayNames.lookup d = none := by
  simp only [createUserTarget, bind, Option.bind_eq_some_iff, Prod.exists,
    Option.ite_none_right_eq_some, Option.some.injEq, Prod.mk.injEq] at h
  obtain ⟨fs, hfs, t', ts, ht, d', us, hd, p', vs, hp, ⟨hlog, hname⟩, rfl, rfl, rfl⟩ := h
  rw [field?_some ht, field?_some hd, field?_some hp] at hfs
  exact ⟨⟨vs, hfs⟩, hlog, hname⟩

theorem destroyTarget_some {d : Name} {login : UserLogin}
    (h : destroyTarget s r = some (d, login)) :
    ∃ (t : Name) (p : Password) (rest : List Str) (sender : ConnectedUser),
      r.fieldsFor .destroyUser = some (d.str :: t.str :: p.str :: rest) ∧
      s.activeUsers.getConnectedUserByFd r.fd = some sender ∧ s.getLoginInfo t = some login ∧
      invalidCredentials sender (s.getLoginInfo sender.loginToken) (s.getUserAccount sender.uuid)
        d p = .ok false := by
  simp only [destroyTarget, bind, Option.bind_eq_some_iff, Prod.exists,
    Option.ite_none_right_eq_some, Option.some.injEq, Prod.mk.injEq] at h
  obtain ⟨fs, hfs, d', ts, hd, t, us, ht, p, vs, hp, sender, hs, l, hl, hi, rfl, rfl⟩ := h
  rw [field?_some hd, field?_some ht, field?_some hp] at hfs
  exact ⟨t, p, vs, sender, hfs, hs, hl, hi⟩

theorem loginTarget_fields {login : UserLogin} {account : UserAccount}
    (h : loginTarget s r = some (login, account)) :
    ∃ (t : Name) (rest : List Str), r.fieldsFor .login = some (t.str :: rest) ∧
      s.userLoginInfo.lookup t = some login ∧
      s.userAccountInfo.lookup login.uuid = some account := by
  simp only [loginTarget, bind, Option.bind_eq_some_iff, Prod.exists,
    Option.ite_none_right_eq_some, Option.some.injEq, Prod.mk.injEq] at h
  obtain ⟨fs, hfs, t, ts, ht, p, us, _, l, hl, a, ha, _, rfl, rfl⟩ := h
  rw [field?_some ht] at hfs
  exact ⟨t, ts, hfs, hl, ha⟩

theorem loginTarget_some {login : UserLogin} {account : UserAccount}
    (h : loginTarget s r = some (login, account)) :
    ∃ t : Name, s.userLoginInfo.lookup t = some login ∧
      s.userAccountInfo.lookup login.uuid = some account := by
  obtain ⟨t, _, _, hl, ha⟩ := loginTarget_fields h
  exact ⟨t, hl, ha⟩

theorem logoutTarget_fields {account : UserAccount} (h : logoutTarget s r = some account) :
    ∃ (d : Name) (u : Uuid) (rest : List Str), r.fieldsFor .logout = some (d.str :: rest) ∧
      s.displayNames.lookup d = some u ∧ s.userAccountInfo.lookup u = some account ∧
      logoutRefused account r.clntAddr = .ok none := by
  simp only [logoutTarget, bind, Option.bind_eq_some_iff, Prod.exists,
    Option.ite_none_right_eq_some, Option.some.injEq] at h
  obtain ⟨fs, hfs, d, ts, hd, u, hu, a, ha, hr, rfl⟩ := h
  rw [field?_some hd] at hfs
  exact ⟨d, u, ts, hfs, hu, ha, hr⟩

theorem logoutTarget_some {account : UserAccount} (h : logoutTarget s r = some account) :
    ∃ (d : Name) (u : Uuid), s.displayNames.lookup d = some u ∧
      s.userAccountInfo.lookup u = some account ∧
      logoutRefused account r.clntAddr = .ok none := by
  obtain ⟨d, u, _, _, hu, ha, hr⟩ := logoutTarget_fields h
  exact ⟨d, u, hu, ha, hr⟩

/-- Whoever can be logged out is online. -/
theorem online_of_logout {account : UserAccount} (h : logoutTarget s r = some account) :
    account.onlineStatus = true := by
  obtain ⟨_, _, _, _, hr⟩ := logoutTarget_some h
  rw [logoutRefused] at hr
  split at hr
  · cases hr
  · split at hr
    · split at hr
      · cases hr
      · rename_i hon
        simpa using hon
    · cases hr

theorem createChannelTarget_some {c : ChannelInfo} (h : createChannelTarget s r = some c) :
    ∃ (name d : Name) (publicity : Bool), c = createChannel r.env.uuid name d publicity ∧
      d.isEmpty = false ∧ s.activeUsers.getDisplayNameInCache r.clntAddr d ≠ none ∧
      s.getChannelInfo r.env name = none := by
  simp only [createChannelTarget, bind, Option.bind_eq_some_iff, Prod.exists,
    Option.ite_none_right_eq_some, Option.some.injEq] at h
  obtain ⟨fs, hfs, name, ts, hn, d, us, hd, p, _, c', hc, ⟨_, _, hdup⟩, rfl⟩ := h
  rw [field?_some hn, field?_some hd] at hfs
  refine ⟨name, d, _, rfl, field_ne_empty hfs (by simp), by rw [hc]; simp, ?_⟩
  simpa [State.checkDuplicateChannelName] using hdup

/-- The loops over the lists of a request look every name to add up. -/
theorem registered_of_namesRegistered {u : UpdateRequest} (h : namesRegistered s u = true)
    {name : Name} (hn : name ∈ u.users.add.members) :
    ∃ v, s.displayNames.lookup name = some v := by
  have hadd := List.all_eq_true.mp h u.users.add (by simp)
  exact Option.isSome_iff_exists.mp (List.all_eq_true.mp hadd name hn)

/-- An update adds registered users only. -/
theorem registered_of_update {u : UpdateRequest} (h : updateTarget s r = some u) {name : Name}
    (hn : name ∈ u.users.add.members) : ∃ v, s.displayNames.lookup name = some v := by
  simp only [updateTarget, bind, Option.bind_eq_some_iff, Option.ite_none_right_eq_some] at h
  obtain ⟨fs, _, u', _, ⟨_, hreg⟩, hu⟩ := h
  rw [Option.some.inj hu] at hreg
  exact registered_of_namesRegistered hreg hn

theorem createMessageTarget_some {m : MessageInfo} (h : createMessageTarget s r = some m) :
    ∃ (channel : ChannelInfo) (login : UserLogin) (user : ConnectedUser) (name : Name),
      s.getChannelInfo r.env name = some channel ∧ user ∈ s.activeUsers.live ∧
      s.userLoginInfo.lookup user.loginToken = some login ∧
      m.messageId = r.env.uuid ∧ m.userId = login.uuid ∧ m.channelId = channel.channelId := by
  simp only [createMessageTarget, bind, Option.bind_eq_some_iff, Prod.exists,
    Option.ite_none_right_eq_some, Option.some.injEq] at h
  obtain ⟨fs, _, d, ts, _, name, content, stamp, _, channel, hc, user, hu, a, _, login, hl, _,
    rfl⟩ := h
  exact ⟨channel, login, user, name, hc, List.mem_of_find?_eq_some hu, hl, rfl, rfl, rfl⟩

theorem getChannelInfo_some {env : Env} {name : Name} {c : ChannelInfo}
    (h : s.getChannelInfo env name = some c) :
    c.channelName = name ∧ ∃ k, s.channelInfo.lookup k = some c := by
  obtain ⟨hp, hk⟩ := KeyOrder.find?_scan_some h
  exact ⟨of_decide_eq_true hp, hk⟩

theorem getChannelInfo_none {env : Env} {name : Name} (h : s.getChannelInfo env name = none)
    {k : Uuid} {c : ChannelInfo} (hc : s.channelInfo.lookup k = some c) : c.channelName ≠ name :=
  of_decide_eq_false (KeyOrder.find?_scan_none h hc)

/-- A lookup by name finds a channel exactly if one has the name, whatever the order. -/
theorem getChannelInfo_ne_none {env : Env} {name : Name} :
    s.getChannelInfo env name ≠ none ↔
      ∃ k c, s.channelInfo.lookup k = some c ∧ c.channelName = name := by
  constructor
  · intro h
    obtain ⟨c, hc⟩ := Option.ne_none_iff_exists'.mp h
    obtain ⟨hname, k, hk⟩ := getChannelInfo_some hc
    exact ⟨k, c, hk, hname⟩
  · rintro ⟨k, c, hk, hname⟩ hnone
    exact getChannelInfo_none hnone hk hname

theorem nextField_of_field? {n : ℕ} {ts rest : List Str} {a : CharArray n}
    (h : field? n ts = some (a, rest)) : nextField n ts = .ok (a, rest) :=
  nextField_eq_ok.mpr (field?_some h)

/-- A login with the right credentials reaches the account. -/
theorem runHandler_login {l : UserLogin} {a : UserAccount} (h : loginTarget s r = some (l, a)) :
    ∃ header rest t, r.decode = .serve .login header rest ∧
      (rest.take header.bodySize).length ≤ defaultBuffer ∧
      runHandler .login s r header.bodySize (rest.take header.bodySize) =
        loginAccount s r.env r.fd r.clntAddr l a t := by
  simp only [loginTarget, bind, Option.bind_eq_some_iff, Prod.exists,
    Option.ite_none_right_eq_some, Option.some.injEq, Prod.mk.injEq] at h
  obtain ⟨fs, hfs, t, ts, ht, p, us, hp, l', hl, a', ha, ⟨hpw, htok⟩, rfl, rfl⟩ := h
  obtain ⟨header, rest, hd, hlen, hinc, rfl⟩ := fieldsFor_some hfs
  refine ⟨header, rest, t, hd, hlen, ?_⟩
  have hfields := loginFields_eq_ok.mpr ⟨ts, us, nextField_of_field? ht, nextField_of_field? hp⟩
  simp only [runHandler, readAndLoginUser, hinc, hfields, hl, hpw, htok, ha, Bool.not_true,
    Bool.or_self, Bool.false_eq_true, if_false]

/-- A logout that is not refused removes the session. -/
theorem runHandler_logout {a : UserAccount} (h : logoutTarget s r = some a) :
    ∃ header rest, r.decode = .serve .logout header rest ∧
      (rest.take header.bodySize).length ≤ defaultBuffer ∧
      runHandler .logout s r header.bodySize (rest.take header.bodySize) =
        .reply { s.insertUserAccount (logoutUserAccount a) with
          activeUsers := s.activeUsers.removeUserInCache a.displayName } 0 a.displayName.str := by
  simp only [logoutTarget, bind, Option.bind_eq_some_iff, Prod.exists,
    Option.ite_none_right_eq_some, Option.some.injEq] at h
  obtain ⟨fs, hfs, d, ts, hdn, u, hu, a', ha, hr, rfl⟩ := h
  obtain ⟨header, rest, hd, hlen, hinc, rfl⟩ := fieldsFor_some hfs
  refine ⟨header, rest, hd, hlen, ?_⟩
  simp only [runHandler, readAndLogoutUser, hinc, nextField_of_field? hdn, hu, ha, hr,
    Bool.false_eq_true, if_false]
  rfl

theorem renameStep_cases {env : Env} {u : UpdateRequest} {s₁ : State}
    (h : renameStep s env u = some s₁) :
    s₁ = s ∨ ∃ c, (u.isChangeName || u.isChangePublicity) = true ∧
      s.getChannelInfo env u.channelName = some c ∧
      s₁ = s.insertChannelInfo
        { c with channelName := u.newChannelName, publicity := u.newPublicity } := by
  rw [renameStep] at h
  split at h
  · rename_i hchange
    obtain ⟨c, hc, rfl⟩ := Option.map_eq_some_iff.mp h
    exact Or.inr ⟨c, hchange, hc, rfl⟩
  · cases h; exact Or.inl rfl

theorem addStep_cases {env : Env} {u : UpdateRequest} {s₁ : State}
    (h : addStep s env u = some s₁) :
    s₁ = s ∨ ∃ c, s.getChannelInfo env u.channelName = some c ∧
      s₁ = s.insertChannelInfo { c with userList := addUsers c.userList u.users.add } := by
  rw [addStep] at h
  split at h
  · obtain ⟨c, hc, rfl⟩ := Option.map_eq_some_iff.mp h
    exact Or.inr ⟨c, hc, rfl⟩
  · cases h; exact Or.inl rfl

theorem renameStep_frame {env : Env} {u : UpdateRequest} {s₁ : State}
    (h : renameStep s env u = some s₁) : s₁ = { s with channelInfo := s₁.channelInfo } := by
  obtain rfl | ⟨c, _, _, rfl⟩ := renameStep_cases h <;> rfl

theorem addStep_frame {env : Env} {u : UpdateRequest} {s₁ : State}
    (h : addStep s env u = some s₁) : s₁ = { s with channelInfo := s₁.channelInfo } := by
  obtain rfl | ⟨c, _, rfl⟩ := addStep_cases h <;> rfl

/-- An update of a channel touches no other database and not the cache. -/
theorem update_frame {env : Env} {u : UpdateRequest} {s₁ s₂ : State}
    (h₁ : renameStep s env u = some s₁) (h₂ : s₂ = s₁ ∨ addStep s₁ env u = some s₂) :
    s₂ = { s with channelInfo := s₂.channelInfo } := by
  have e₁ := renameStep_frame h₁
  rcases h₂ with rfl | h₂
  · exact e₁
  · rw [addStep_frame h₂, e₁]

/-- Only logging in and out touch the cache. -/
theorem Effect.activeUsers {s' : State} {b : Bool} (he : Effect s r s' b)
    (hin : loginTarget s r = none) (hout : logoutTarget s r = none) :
    s'.activeUsers = s.activeUsers := by
  cases he with
  | restart h | openSession h | cacheFull h | terminate h => rw [hin] at h; cases h
  | logout h => rw [hout] at h; cases h
  | updateChannel _ h₁ h₂ => rw [update_frame h₁ h₂]
  | _ => rfl

end Targets

end ChatServer
