import ChatServer.Lib.Simulation
import ChatServer.Machine.Runs
import ChatServer.UserRequests

/-!
# What is shown of a password

A password is stored in the record of its login token and compared in two places: when somebody
logs in with the token, and when a client that has logged in with it asks for another user to be
destroyed. Two servers whose records differ in one password are run side by side here. As long as no
comparison tells the two passwords apart, the clients of both are shown the same.
-/

namespace ChatServer

open CLib

/-- The password sent in a login with the token. -/
def loginGuess (t : Name) (r : Request) : Option Password := do
  let (loginToken, ts) ← field? tokenNameLength (← r.fieldsFor .login)
  let (password, _) ← field? pswdMaxLength ts
  if loginToken = t then some password else none

/-- The password in a request to destroy a user that is compared with the one of the sender, who
has logged in with the token and is not the user to destroy. -/
def destroyGuess (t : Name) (s : State) (r : Request) : Option Password := do
  let (displayName, ts) ← field? tokenNameLength (← r.fieldsFor .destroyUser)
  let (_, ts) ← field? tokenNameLength ts
  let (password, _) ← field? pswdMaxLength ts
  let sender ← s.activeUsers.getConnectedUserByFd r.fd
  if sender.loginToken = t ∧ sender.dsplyName ≠ displayName then some password else none

/-- The request does not tell the passwords `p` and `p'` of the token apart: `compare_strings` in a
login gives the same for both, and so does `strcmp` in a request to destroy a user. -/
def Undecided (t : Name) (p p' : Password) (s : State) (r : Request) : Prop :=
  (∀ q ∈ loginGuess t r, compareStrings p.str q.str = compareStrings p'.str q.str) ∧
    ∀ q ∈ destroyGuess t s r, (p = q ↔ p' = q)

instance (t : Name) (p p' : Password) (s : State) (r : Request) :
    Decidable (Undecided t p p' s r) :=
  inferInstanceAs (Decidable ((∀ q ∈ loginGuess t r, _) ∧ ∀ q ∈ destroyGuess t s r, _))

/-- What the world is shown of a call: all but the state. -/
def Call.shown (c : Call) : List UInt8 × List Sent × List ℕ × Except Fault Int :=
  (c.rest, c.sent, c.closed, c.ret)

/-- The login records are the same, but for that of the token, which may hold one password here and
the other there. -/
structure Twins (t : Name) (p p' : Password) (d d' : Dbm Name UserLogin) : Prop where
  others : ∀ k, k ≠ t → d'.lookup k = d.lookup k
  secret : d'.lookup t = d.lookup t ∨ ∃ l, d.lookup t = some l ∧ l.password = p ∧
    d'.lookup t = some { l with password := p' }

/-- The state with other login records. -/
@[simps] def State.withLogins (s : State) (d : Dbm Name UserLogin) : State :=
  { s with userLoginInfo := d }

/-- The same states but for one password. -/
def SameBut (t : Name) (p p' : Password) (s s' : State) : Prop :=
  ∃ d, s' = s.withLogins d ∧ Twins t p p' s.userLoginInfo d

/-- A function of the state that has nothing to do with the login records. -/
def LoginFree (f : State → Outcome) : Prop :=
  ∀ s d, f (s.withLogins d) = ⟨(f s).state.withLogins d, (f s).value⟩

/-- The same results in states that are the same but for one password. -/
structure Outcome.SameBut (t : Name) (p p' : Password) (o o' : Outcome) : Prop where
  value : o'.value = o.value
  state : ChatServer.SameBut t p p' o.state o'.state

section Records

variable {t : Name} {p p' : Password} {d d' : Dbm Name UserLogin}

/-- A lookup finds the same, or the record with the password. -/
theorem Twins.lookup (h : Twins t p p' d d') (k : Name) :
    d'.lookup k = d.lookup k ∨ k = t ∧ ∃ l, d.lookup k = some l ∧ l.password = p ∧
      d'.lookup k = some { l with password := p' } := by
  by_cases hk : k = t
  · subst hk
    exact h.secret.imp_right fun h => ⟨rfl, h⟩
  · exact Or.inl (h.others k hk)

theorem Twins.isSome (h : Twins t p p' d d') (k : Name) :
    (d'.lookup k).isSome = (d.lookup k).isSome := by
  obtain he | ⟨_, l, hl, _, hl'⟩ := h.lookup k
  · rw [he]
  · rw [hl, hl']
    rfl

theorem Twins.insert (h : Twins t p p' d d') (l : UserLogin) :
    Twins t p p' (AList.insert l.loginToken l d) (AList.insert l.loginToken l d') := by
  constructor
  · intro k hk
    rw [Dbm.lookup_insert_eq, Dbm.lookup_insert_eq, h.others k hk]
  · rw [Dbm.lookup_insert_eq, Dbm.lookup_insert_eq]
    by_cases hk : t = l.loginToken
    · simp [hk]
    · simpa only [if_neg hk] using h.secret

theorem Twins.erase (h : Twins t p p' d d') (k : Name) :
    Twins t p p' (AList.erase k d) (AList.erase k d') := by
  constructor
  · intro k' hk
    rw [Dbm.lookup_erase_eq, Dbm.lookup_erase_eq, h.others k' hk]
  · rw [Dbm.lookup_erase_eq, Dbm.lookup_erase_eq]
    by_cases hk : t = k
    · simp [hk]
    · simpa only [if_neg hk] using h.secret

/-- Replacing the password of a record. -/
theorem Twins.replace {l : UserLogin} (hl : d.lookup t = some l) (p' : Password) :
    Twins t l.password p' d (AList.insert t { l with password := p' } d) :=
  ⟨fun _ hk => AList.lookup_insert_ne hk, Or.inr ⟨l, hl, rfl, AList.lookup_insert d⟩⟩

end Records

section Frame

variable (s : State) (d : Dbm Name UserLogin)

theorem getUserAccount_withLogins (u : Uuid) :
    (s.withLogins d).getUserAccount u = s.getUserAccount u := (rfl)

theorem getUuid_withLogins (n : Name) :
    (s.withLogins d).getUuidWithDisplayName n = s.getUuidWithDisplayName n := (rfl)

theorem getChannelInfo_withLogins (env : Env) (n : Name) :
    (s.withLogins d).getChannelInfo env n = s.getChannelInfo env n := (rfl)

theorem getAllChannels_withLogins (env : Env) :
    (s.withLogins d).getAllChannels env = s.getAllChannels env := (rfl)

theorem getAllMessages_withLogins (env : Env) :
    (s.withLogins d).getAllMessages env = s.getAllMessages env := (rfl)

theorem checkDuplicateDisplayName_withLogins (n : Name) :
    (s.withLogins d).checkDuplicateDisplayName n = s.checkDuplicateDisplayName n := (rfl)

theorem checkDuplicateChannelName_withLogins (env : Env) (n : Name) :
    (s.withLogins d).checkDuplicateChannelName env n = s.checkDuplicateChannelName env n := (rfl)

theorem namesRegistered_withLogins (u : UpdateRequest) :
    namesRegistered (s.withLogins d) u = namesRegistered s u := (rfl)

theorem updateChannelNameAndPublicity_withLogins (env : Env) (name new : Name) (pub : Bool) :
    (s.withLogins d).updateChannelNameAndPublicity env name new pub =
      (s.updateChannelNameAndPublicity env name new pub).map (·.withLogins d) := by
  simp only [State.updateChannelNameAndPublicity, getChannelInfo_withLogins, Option.map_map]
  rfl

theorem addUsersOnChannel_withLogins (env : Env) (name : Name) (users : NameList) :
    (s.withLogins d).addUsersOnChannel env name users =
      (s.addUsersOnChannel env name users).map (·.withLogins d) := by
  simp only [State.addUsersOnChannel, getChannelInfo_withLogins, Option.map_map]
  rfl

end Frame

section Handlers

variable {t : Name} {p p' : Password} {s s' : State} {r : Request} {n : ℕ} {bytes : List UInt8}

/-- What has nothing to do with the login records does not see the password. -/
theorem LoginFree.sameBut {f : State → Outcome} (hf : LoginFree f) (h : SameBut t p p' s s') :
    Outcome.SameBut t p p' (f s) (f s') := by
  obtain ⟨d, rfl, htwins⟩ := h
  have hown : (f s).state.userLoginInfo = s.userLoginInfo :=
    congrArg (fun o => o.state.userLoginInfo) (hf s s.userLoginInfo)
  rw [hf s d]
  exact ⟨rfl, d, rfl, hown ▸ htwins⟩

theorem loginFree_createChannel (env : Env) (addr : IpAddr) (n : ℕ) (bytes : List UInt8) :
    LoginFree fun s => readAndCreateChannel s env addr n bytes := by
  have hstore : ∀ name d publicity,
      LoginFree fun s => storeNewChannel s env addr name d publicity := by
    intro name d publicity s logins
    simp only [storeNewChannel, State.withLogins_activeUsers, checkDuplicateDisplayName_withLogins,
      checkDuplicateChannelName_withLogins]
    cases s.activeUsers.getDisplayNameInCache addr d with
    | none => rfl
    | some x =>
      dsimp only
      split_ifs <;> rfl
  intro s logins
  simp only [readAndCreateChannel]
  cases bodyIncomplete n bytes with
  | true => rfl
  | false =>
    repeat' split
    all_goals first | rfl | exact hstore _ _ _ s logins

theorem loginFree_readChannel (env : Env) (n : ℕ) (bytes : List UInt8) :
    LoginFree fun s => readAndReadChannel s env n bytes := by
  intro s logins
  simp only [readAndReadChannel, getChannelInfo_withLogins]
  cases bodyIncomplete n bytes with
  | true => rfl
  | false =>
    cases fields bytes with
    | nil => rfl
    | cons t ts =>
      simp only [Bool.false_eq_true, if_false]
      split
      · rfl
      · rename_i name _ _ _ _ _
        cases s.getChannelInfo env name <;> rfl
      · rfl

theorem loginFree_applyUpdate (env : Env) (u : UpdateRequest) :
    LoginFree fun s => applyUpdate s env u := by
  -- a conditional store operation commutes with the replacement of the login records
  have hstep : ∀ {c : Prop} [Decidable c] (logins : Dbm Name UserLogin) (s : State)
      (o : Option State), (if c then o.map (·.withLogins logins) else some (s.withLogins logins)) =
        (if c then o else some s).map (·.withLogins logins) := by
    intro c _ logins s o
    split_ifs <;> rfl
  intro s logins
  simp only [applyUpdate, updateChannelNameAndPublicity_withLogins, hstep]
  generalize (if (u.isChangeName || u.isChangePublicity) = true then
    s.updateChannelNameAndPublicity env u.channelName u.newChannelName u.newPublicity
    else some s) = renamed
  cases renamed with
  | none => rfl
  | some s₁ =>
    simp only [Option.map_some, addUsersOnChannel_withLogins, hstep]
    generalize (if u.users.alter ≠ 48 then s₁.addUsersOnChannel env u.channelName u.users.add
      else some s₁) = added
    cases added with
    | none => rfl
    | some s₂ =>
      simp only [Option.map_some, getChannelInfo_withLogins]
      generalize s₂.getChannelInfo env
        (if u.isChangeName = true then u.newChannelName else u.channelName) = found
      cases found <;> rfl

theorem loginFree_updateChannel (env : Env) (n : ℕ) (bytes : List UInt8) :
    LoginFree fun s => readAndUpdateChannel s env n bytes := by
  intro s logins
  simp only [readAndUpdateChannel, getChannelInfo_withLogins, namesRegistered_withLogins]
  cases bodyIncomplete n bytes with
  | true => rfl
  | false =>
    cases parseUpdate (fields bytes) with
    | error e => cases e <;> rfl
    | ok u =>
      simp only [Bool.false_eq_true, if_false]
      split_ifs
      · rfl
      · rfl
      · exact loginFree_applyUpdate env u s logins

theorem copyMessages_withLogins (s : State) (logins : Dbm Name UserLogin) (id : Uuid) (size : ℕ)
    (list : List UInt8) (ms : List MessageInfo) :
    copyMessages (s.withLogins logins) id size list ms = copyMessages s id size list ms := by
  induction ms generalizing list with
  | nil => rfl
  | cons m ms ih => simp only [copyMessages, getUserAccount_withLogins, ih]

theorem loginFree_readMessage (env : Env) (bytes : List UInt8) :
    LoginFree fun s => readAndReadMessage s env bytes := by
  intro s logins
  have hlist : ∀ ms c, buildMessageList (s.withLogins logins) ms c = buildMessageList s ms c := by
    intro ms c
    cases c <;> cases ms <;> simp only [buildMessageList, copyMessages_withLogins]
  simp only [readAndReadMessage, getAllMessages_withLogins, getChannelInfo_withLogins, hlist]
  cases readMessageFields bytes with
  | error f => rfl
  | ok x =>
    dsimp only
    split_ifs
    · rfl
    · rfl
    · cases buildMessageList s (s.getAllMessages env) (s.getChannelInfo env x.1) <;> rfl

theorem loginFree_logout (addr : IpAddr) (n : ℕ) (bytes : List UInt8) :
    LoginFree fun s => readAndLogoutUser s addr n bytes := by
  intro s logins
  simp only [readAndLogoutUser, getUuid_withLogins, getUserAccount_withLogins]
  cases bodyIncomplete n bytes with
  | true => rfl
  | false =>
    cases nextField tokenNameLength (fields bytes) with
    | error f => rfl
    | ok x =>
      simp only [Bool.false_eq_true, if_false]
      cases s.getUuidWithDisplayName x.1 with
      | none => rfl
      | some u =>
        dsimp only
        cases s.getUserAccount u with
        | none => rfl
        | some a =>
          dsimp only
          cases logoutRefused a addr with
          | error f => rfl
          | ok o => cases o <;> rfl

/-- A new user takes the same password in both, and is refused in both. -/
theorem createUser_sameBut (env : Env) (h : SameBut t p p' s s') :
    Outcome.SameBut t p p' (readAndCreateUser s env n bytes)
      (readAndCreateUser s' env n bytes) := by
  obtain ⟨d, rfl, htwins⟩ := h
  have hsome : ∀ k, ((s.withLogins d).getLoginInfo k).isSome = (s.getLoginInfo k).isSome :=
    fun k => htwins.isSome k
  have hrefl : ∀ v, Outcome.SameBut t p p' ⟨s, v⟩ ⟨s.withLogins d, v⟩ :=
    fun v => ⟨rfl, d, rfl, htwins⟩
  simp only [readAndCreateUser, hsome, checkDuplicateDisplayName_withLogins]
  cases bodyIncomplete n bytes with
  | true => exact hrefl _
  | false =>
    simp only [Bool.false_eq_true, if_false]
    split
    · exact hrefl _
    · split_ifs
      · exact hrefl _
      · exact hrefl _
      · exact hrefl _
      · split
        · exact hrefl _
        · exact ⟨rfl, _, rfl, htwins.insert _⟩

/-- Only the identity in the login record goes into a message. -/
theorem createMessage_sameBut (env : Env) (h : SameBut t p p' s s') :
    Outcome.SameBut t p p' (readAndCreateMessage s env n bytes)
      (readAndCreateMessage s' env n bytes) := by
  obtain ⟨d, rfl, htwins⟩ := h
  have hrefl : ∀ v, Outcome.SameBut t p p' ⟨s, v⟩ ⟨s.withLogins d, v⟩ :=
    fun v => ⟨rfl, d, rfl, htwins⟩
  have hstore : ∀ sender name content stamp text, Outcome.SameBut t p p'
      (storeNewMessage s env sender name content stamp text)
      (storeNewMessage (s.withLogins d) env sender name content stamp text) := by
    intro sender name content stamp text
    simp only [storeNewMessage, getChannelInfo_withLogins, getUserAccount_withLogins,
      State.withLogins_activeUsers]
    cases s.getChannelInfo env name with
    | none => exact hrefl _
    | some channel =>
      dsimp only
      cases s.activeUsers.getConnectedUserByDisplayName sender with
      | none => exact hrefl _
      | some u =>
        dsimp only
        cases s.getUserAccount u.uuid with
        | none => exact hrefl _
        | some a =>
          dsimp only
          split_ifs
          · exact hrefl _
          obtain he | ⟨_, l, hl, _, hl'⟩ := htwins.lookup u.loginToken
          · rw [show (s.withLogins d).getLoginInfo u.loginToken = s.getLoginInfo u.loginToken
              from he]
            cases s.getLoginInfo u.loginToken with
            | none => exact hrefl _
            | some l => exact ⟨rfl, d, rfl, htwins⟩
          · rw [show s.getLoginInfo u.loginToken = some l from hl,
              show (s.withLogins d).getLoginInfo u.loginToken = some _ from hl']
            exact ⟨rfl, d, rfl, htwins⟩
  simp only [readAndCreateMessage]
  cases bodyIncomplete n bytes with
  | true => exact hrefl _
  | false =>
    simp only [Bool.false_eq_true, if_false]
    split
    · exact hrefl _
    · split_ifs
      · exact hrefl _
      · split
        · exact hrefl _
        · split_ifs
          · exact hrefl _
          · exact hstore ..

theorem loginFree_loginAccount (env : Env) (fd : ℕ) (addr : IpAddr) (l : UserLogin)
    (a : UserAccount) (token : Name) : LoginFree fun s => loginAccount s env fd addr l a token := by
  have hopen : ∀ (a : UserAccount) result text,
      LoginFree fun s => openSession s fd a l result text := by
    intro a result text s logins
    simp only [openSession, State.withLogins_activeUsers]
    cases s.activeUsers.insertUserInCache fd a l <;> rfl
  intro s logins
  have hinsert : ∀ b, (s.withLogins logins).insertUserAccount b =
      (s.insertUserAccount b).withLogins logins := fun _ => rfl
  simp only [loginAccount, State.withLogins_activeUsers, hinsert, getAllChannels_withLogins]
  split_ifs
  · exact hopen _ _ _ s logins
  · rfl
  · exact hopen _ _ _ (s.insertUserAccount _) logins

/-- A login goes on with the same record, or is refused in both. -/
theorem login_sameBut (env : Env) (fd : ℕ) (addr : IpAddr) (h : SameBut t p p' s s')
    (hguess : bodyIncomplete n bytes = false → ∀ q, loginFields bytes = .ok (t, q) →
      compareStrings p.str q.str = compareStrings p'.str q.str) :
    Outcome.SameBut t p p' (readAndLoginUser s env fd addr n bytes)
      (readAndLoginUser s' env fd addr n bytes) := by
  obtain ⟨d, rfl, htwins⟩ := h
  have hsame : SameBut t p p' s (s.withLogins d) := ⟨d, rfl, htwins⟩
  have hrefl : ∀ v, Outcome.SameBut t p p' ⟨s, v⟩ ⟨s.withLogins d, v⟩ := fun v => ⟨rfl, hsame⟩
  cases hn : bodyIncomplete n bytes with
  | true =>
    simp only [readAndLoginUser, hn]
    exact hrefl _
  | false =>
    cases hf : loginFields bytes with
    | error f =>
      simp only [readAndLoginUser, hn, hf]
      exact hrefl _
    | ok x =>
      obtain ⟨token, q⟩ := x
      simp only [readAndLoginUser, hn, hf, Bool.false_eq_true, if_false, getUserAccount_withLogins]
      obtain he | ⟨htoken, l, hl, hp, hl'⟩ := htwins.lookup token
      · rw [show (s.withLogins d).getLoginInfo token = s.getLoginInfo token from he]
        cases s.getLoginInfo token with
        | none => exact hrefl _
        | some l =>
          dsimp only
          split_ifs
          · exact hrefl _
          · cases s.getUserAccount l.uuid with
            | none => exact hrefl _
            | some a => exact (loginFree_loginAccount env fd addr l a token).sameBut hsame
      · -- the record of the token: the comparison comes out the same, and the rest of it is
        subst htoken
        have hcmp := hguess hn q hf
        rw [show s.getLoginInfo token = some l from hl,
          show (s.withLogins d).getLoginInfo token = some _ from hl']
        simp only [hp, ← hcmp]
        split_ifs
        · exact hrefl _
        · cases s.getUserAccount l.uuid with
          | none => exact hrefl _
          | some a => exact (loginFree_loginAccount env fd addr l a token).sameBut hsame

/-- The check of the sender comes out the same. -/
theorem invalidCredentials_twins {d' : Dbm Name UserLogin}
    (htwins : Twins t p p' s.userLoginInfo d') {sender : ConnectedUser} (a : Option UserAccount)
    {d : Name} {q : Password}
    (hguess : sender.loginToken = t → sender.dsplyName ≠ d → (p = q ↔ p' = q)) :
    invalidCredentials sender (d'.lookup sender.loginToken) a d q =
      invalidCredentials sender (s.getLoginInfo sender.loginToken) a d q := by
  obtain he | ⟨htoken, l, hl, hp, hl'⟩ := htwins.lookup sender.loginToken
  · rw [he]
    rfl
  · rw [show s.getLoginInfo sender.loginToken = some l from hl, hl']
    simp only [invalidCredentials, hp]
    by_cases hd : sender.dsplyName = d
    · rw [if_pos hd, if_pos hd]
    · rw [if_neg hd, if_neg hd]
      by_cases hq : p = q
      · rw [if_pos hq, if_pos ((hguess htoken hd).mp hq)]
      · rw [if_neg hq, if_neg fun h => hq ((hguess htoken hd).mpr h)]

theorem destroyUser_sameBut (fd : ℕ) (h : SameBut t p p' s s')
    (hguess : bodyIncomplete n bytes = false → ∀ d token q sender,
      destroyFields bytes = .ok (d, token, q) →
      s.activeUsers.getConnectedUserByFd fd = some sender → sender.loginToken = t →
      sender.dsplyName ≠ d → (p = q ↔ p' = q)) :
    Outcome.SameBut t p p' (readAndDestroyUser s fd n bytes)
      (readAndDestroyUser s' fd n bytes) := by
  obtain ⟨d', rfl, htwins⟩ := h
  have hrefl : ∀ v, Outcome.SameBut t p p' ⟨s, v⟩ ⟨s.withLogins d', v⟩ :=
    fun v => ⟨rfl, d', rfl, htwins⟩
  have hremove : ∀ (d token : Name), Outcome.SameBut t p p' (removeUser s d (s.getLoginInfo token))
      (removeUser (s.withLogins d') d ((s.withLogins d').getLoginInfo token)) := by
    intro d token
    obtain he | ⟨_, l, hl, _, hl'⟩ := htwins.lookup token
    · rw [show (s.withLogins d').getLoginInfo token = s.getLoginInfo token from he]
      cases s.getLoginInfo token with
      | none => exact hrefl _
      | some l => exact ⟨rfl, _, rfl, htwins.erase _⟩
    · rw [show s.getLoginInfo token = some l from hl,
        show (s.withLogins d').getLoginInfo token = some _ from hl']
      exact ⟨rfl, _, rfl, htwins.erase _⟩
  cases hn : bodyIncomplete n bytes with
  | true =>
    simp only [readAndDestroyUser, hn]
    exact hrefl _
  | false =>
    cases hf : destroyFields bytes with
    | error f =>
      simp only [readAndDestroyUser, hn, hf]
      exact hrefl _
    | ok x =>
      obtain ⟨d, token, q⟩ := x
      have hnone : ((s.withLogins d').getLoginInfo token).isNone =
          (s.getLoginInfo token).isNone := by
        rw [← Option.not_isSome, ← Option.not_isSome]
        exact congrArg _ (htwins.isSome token)
      simp only [readAndDestroyUser, hn, hf, destroyFields_ne_empty hf, Bool.false_eq_true,
        if_false, getUserAccount_withLogins, State.withLogins_activeUsers, hnone]
      cases hs : s.activeUsers.getConnectedUserByFd fd with
      | none => exact hrefl _
      | some sender =>
        have hcheck := invalidCredentials_twins htwins (s.getUserAccount sender.uuid)
          (hguess hn d token q sender hf hs)
        dsimp only
        rw [show invalidCredentials sender ((s.withLogins d').getLoginInfo sender.loginToken) _
          d q = _ from hcheck]
        -- the same check on both sides: only an accepted one goes on to the records
        cases invalidCredentials sender (s.getLoginInfo sender.loginToken)
          (s.getUserAccount sender.uuid) d q with
        | error f =>
          cases s.getUserAccount sender.uuid with
          | none => split <;> exact hrefl _
          | some a =>
            dsimp only
            split_ifs <;> exact hrefl _
        | ok refused =>
          cases refused with
          | true =>
            cases s.getUserAccount sender.uuid with
            | none => split <;> exact hrefl _
            | some a =>
              dsimp only
              split_ifs <;> exact hrefl _
          | false =>
            cases s.getUserAccount sender.uuid with
            | none =>
              split
              · exact hrefl _
              · exact hremove d token
            | some a =>
              dsimp only
              split_ifs
              · exact hrefl _
              · exact hremove d token
              · exact hremove d token

end Handlers

section Calls

variable {t : Name} {p p' : Password} {s s' : State} {r : Request}

theorem respond_withLogins (k : RequestKind) (s : State) (d : Dbm Name UserLogin) (r : Request)
    (header : ChatHeader) (rest : List UInt8) (reply : Reply) :
    respond k (s.withLogins d) r header rest reply =
      { respond k s r header rest reply with state := s.withLogins d } := by
  have hafter : afterResponse k (s.withLogins d) r header reply =
      afterResponse k s r header reply := by
    cases k <;> rfl
  simp only [respond, hafter]
  split_ifs
  · rfl
  · cases sendResponse k reply.result reply.token with
    | error f => rfl
    | ok body =>
      dsimp only
      cases afterResponse k s r header reply <;> rfl

/-- The nine handlers. -/
theorem runHandler_sameBut {k : RequestKind} {header : ChatHeader} {rest : List UInt8}
    (hd : r.decode = .serve k header rest)
    (hlen : (rest.take header.bodySize).length ≤ defaultBuffer) (h : SameBut t p p' s s')
    (hu : Undecided t p p' s r) :
    Outcome.SameBut t p p' (runHandler k s r header.bodySize (rest.take header.bodySize))
      (runHandler k s' r header.bodySize (rest.take header.bodySize)) := by
  have hf := fieldsFor_eq hd hlen
  cases k with
  | createUser => exact createUser_sameBut r.env h
  | destroyUser =>
    refine destroyUser_sameBut r.fd h fun hn d token q sender hfields hs htoken hne => ?_
    refine hu.2 q ?_
    obtain ⟨ts, us, vs, h₁, h₂, h₃⟩ := destroyFields_eq_ok.mp hfields
    simp only [destroyGuess, hf hn, bind, Option.bind, field?_eq h₁, field?_eq h₂, field?_eq h₃,
      hs, if_pos (And.intro htoken hne)]
    rfl
  | createChannel => exact (loginFree_createChannel r.env r.clntAddr _ _).sameBut h
  | readChannel => exact (loginFree_readChannel r.env _ _).sameBut h
  | updateChannel => exact (loginFree_updateChannel r.env _ _).sameBut h
  | createMessage => exact createMessage_sameBut r.env h
  | readMessage => exact (loginFree_readMessage r.env _).sameBut h
  | login =>
    refine login_sameBut r.env r.fd r.clntAddr h fun hn q hfields => hu.1 q ?_
    obtain ⟨ts, us, h₁, h₂⟩ := loginFields_eq_ok.mp hfields
    simp only [loginGuess, hf hn, bind, Option.bind, field?_eq h₁, field?_eq h₂, if_true]
    rfl
  | logout => exact (loginFree_logout r.clntAddr _ _).sameBut h

/-- A call shows nothing of the password that its guess does not decide. -/
theorem handleRequest_sameBut (h : SameBut t p p' s s') (hu : Undecided t p p' s r) :
    (handleRequest s r).shown = (handleRequest s' r).shown ∧
      SameBut t p p' (handleRequest s r).state (handleRequest s' r).state := by
  rw [handleRequest, handleRequest]
  cases hd : r.decode with
  | stop ret rest => exact ⟨rfl, h⟩
  | serve k header rest =>
    dsimp only
    by_cases hlen : (rest.take header.bodySize).length ≤ defaultBuffer
    · have hout := runHandler_sameBut hd hlen h hu
      obtain ⟨d, hstate, _⟩ := id hout.state
      have hstates := hout.state
      rw [← serve_state k s r header rest hlen, ← serve_state k s' r header rest hlen] at hstates
      refine ⟨?_, hstates⟩
      rw [serve, serve, if_neg (Nat.not_lt.mpr hlen), if_neg (Nat.not_lt.mpr hlen)]
      dsimp only
      rw [hout.value, hstate]
      cases (runHandler k s r header.bodySize (rest.take header.bodySize)).value with
      | error f => rfl
      | ok reply =>
        dsimp only
        rw [respond_withLogins]
        rfl
    · rw [serve, serve, if_pos (Nat.lt_of_not_le hlen), if_pos (Nat.lt_of_not_le hlen)]
      exact ⟨rfl, h⟩

/-- Neither does a start, which sets the password of the administrator to the same in both. -/
theorem startUp_sameBut (env : Env) (h : SameBut t p p' s s') :
    SameBut t p p' (startUp env s) (startUp env s') := by
  obtain ⟨d, rfl, htwins⟩ := h
  have hadmin : SameBut t p p' s.createAdmin (s.withLogins d).createAdmin := by
    simp only [State.createAdmin, checkDuplicateDisplayName_withLogins]
    split_ifs
    · exact ⟨d, rfl, htwins⟩
    · exact ⟨_, rfl, htwins.insert _⟩
  obtain ⟨d', hd', htwins'⟩ := hadmin
  rw [startUp, startUp, hd']
  simp only [State.createGlobalChannel, checkDuplicateChannelName_withLogins]
  split_ifs
  · exact ⟨d', rfl, htwins'⟩
  · exact ⟨d', rfl, htwins'⟩

end Calls

section Contents

variable {t : Name} {p p' : Password} {s s' : State} {r : Request}

/-- The strings of the twin end in their arrays as well. -/
theorem SameBut.strings (h : SameBut t p p' s s') (hp : p'.Text) (hs : cStrings.Holds s) :
    cStrings.Holds s' := by
  obtain ⟨d, rfl, htwins⟩ := h
  refine ⟨fun k l hl => ?_, hs.names, hs.accounts, hs.channels, hs.messages, hs.sessions⟩
  obtain he | ⟨-, l', hl', -, he⟩ := htwins.lookup k
  · exact hs.logins k l (he.symm.trans hl)
  · obtain rfl := Option.some.inj (he.symm.trans hl)
    obtain ⟨hk, hlogin⟩ := hs.logins k l' hl'
    exact ⟨hk, hlogin.token, hp, hlogin.uuid⟩

/-- The account that is fetched first is the same, or none in both. -/
theorem fetchedBy_sameBut (hr : r.Ends) (h : SameBut t p p' s s') (hu : Undecided t p p' s r) :
    Machine.fetchedBy s' r = Machine.fetchedBy s r := by
  obtain ⟨d, rfl, htwins⟩ := h
  rw [Machine.fetchedBy, Machine.fetchedBy]
  cases hd : r.decode with
  | stop ret rest => rfl
  | serve k header rest =>
    dsimp only
    split_ifs with hn
    · rfl
    have hlen := Machine.length_of_ends hr hd
    cases k with
    | login =>
      have hf := fieldsFor_eq hd hlen (by simpa using hn)
      simp only [Machine.fetchedAccount, bind, Option.bind, getUserAccount_withLogins]
      cases ht : field? tokenNameLength (fields (rest.take header.bodySize)) with
      | none => rfl
      | some x =>
        obtain ⟨token, ts⟩ := x
        dsimp only
        cases hp : field? pswdMaxLength ts with
        | none => rfl
        | some y =>
          obtain ⟨q, us⟩ := y
          dsimp only
          obtain he | ⟨rfl, l, hl, rfl, hl'⟩ := htwins.lookup token
          · rw [show (s.withLogins d).getLoginInfo token = s.getLoginInfo token from he]
          · have hcmp := hu.1 q (by
              simp only [loginGuess, hf, bind, Option.bind, ht, hp, if_true]
              rfl)
            rw [show s.getLoginInfo token = some l from hl,
              show (s.withLogins d).getLoginInfo token = some _ from hl']
            simp only [hcmp]
    | _ => rfl

end Contents

/-- Starts tell nothing about a password. A request brings strings that end in their arrays, no
message that is cut, and no guess that tells the passwords apart. -/
def UndecidedEvent (t : Name) (p p' : Password) (s : State) : LifeEvent → Prop
  | .start _ _ => True
  | .request r => r.ShortContent ∧ Undecided t p p' s r

instance (t : Name) (p p' : Password) (s : State) (e : LifeEvent) :
    Decidable (UndecidedEvent t p p' s e) := by
  cases e with
  | start => exact isTrue trivial
  | request r => exact inferInstanceAs (Decidable (_ ∧ Undecided t p p' s r))

/-- What the world is shown of an event. -/
def shownOf (v : Server) (x : Machine × LifeEvent) :
    List (List UInt8 × List Sent × List ℕ × Except Fault Int) :=
  match x.2 with
  | .start _ _ => []
  | .request r => if v.running then [(x.1.call v.state r).shown] else []

/-- What the memory of a server holds behind the arrays of its frames, behind its records and in the
blocks that are allocated. -/
structure Contents where
  stack : LocalArray → List UInt8
  heap : List UInt8
  fresh : List UInt8

/-- The same event on the same machine with that memory. -/
def Contents.put (y : Contents) (x : Machine × LifeEvent) : Machine × LifeEvent :=
  ({ x.1 with stack := y.stack, heap := y.heap },
    match x.2 with
    | .start newProcess env => .start newProcess env
    | .request r => .request (r.withHeap y.fresh))

/-- The state with another password in the record of the token. -/
def State.withPassword (s : State) (t : Name) (l : UserLogin) (p' : Password) : State :=
  s.withLogins (s.userLoginInfo.insert t { l with password := p' })

theorem returned_eq_of_shown {c c' : Call} (h : c.shown = c'.shown) : c.returned = c'.returned := by
  have hret : c.ret = c'.ret := congrArg (fun x => x.2.2.2) h
  rw [Call.returned, Call.returned, hret]

/-- What is delivered of a call depends on the peers and on what it shows. -/
theorem shown_deliver {m m' : Machine} (hm : m'.reset = m.reset) {c c' : Call}
    (h : c.shown = c'.shown) : (m.deliver c).shown = (m'.deliver c').shown := by
  have hsent : c'.sent = c.sent := (congrArg (fun x => x.2.1) h).symm
  have hrest : c'.rest = c.rest := (congrArg Prod.fst h).symm
  rw [Machine.deliver, Machine.deliver, hm, hsent]
  split_ifs
  · simp only [Call.shown, hrest]
  · exact h

section Calls

variable {t : Name} {p p' : Password} {s s' : State} {r : Request}

/-- A call on any machine shows nothing of the password, and nothing of the memory either. -/
theorem call_sameBut (hs : cStrings.Holds s) (hp : p'.Text) (hr : r.Ends) (hc : r.ShortContent)
    (h : SameBut t p p' s s') (hu : Undecided t p p' s r) (m : Machine) (y : Contents) :
    let m' : Machine := { m with stack := y.stack, heap := y.heap }
    (m.call s r).shown = (m'.call s' (r.withHeap y.fresh)).shown ∧
      SameBut t p p' (m.call s r).state (m'.call s' (r.withHeap y.fresh)).state := by
  intro m'
  have hs' := h.strings hp hs
  have hfetched := fetchedBy_sameBut hr h hu
  obtain ⟨hshown, hstate⟩ := handleRequest_sameBut h hu
  rw [Machine.call, Machine.call, m'.handleRequest_withHeap s' hr hc, Machine.deliver_state,
    Machine.deliver_state]
  by_cases hroom : m.Roomy ∨ Machine.fetchedBy s r = none
  · rw [m.handleRequest_eq hs hr hroom, m'.handleRequest_eq hs' hr (by rw [hfetched]; exact hroom)]
    exact ⟨shown_deliver rfl hshown, hstate⟩
  · obtain ⟨htight, hf⟩ := not_or.mp hroom
    have hrest : (handleRequest s' r).rest = (handleRequest s r).rest :=
      (congrArg Prod.fst hshown).symm
    rw [m.handleRequest_tight hs hr htight hf,
      m'.handleRequest_tight hs' hr htight (by rw [hfetched]; exact hf), hrest]
    exact ⟨shown_deliver rfl rfl, h⟩

end Calls

end ChatServer
