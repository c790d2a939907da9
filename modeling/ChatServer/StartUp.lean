import ChatServer.Lifetime

/-!
# What start-up writes

`create_admin` looks at the display names only and then stores into three databases, whatever the
other two hold; `create_global_channel` looks for a channel by name and stores under a new uuid.
Start-up leaves the records that are there alone exactly if these stores replace none of them.
-/

namespace ChatServer

open CLib

/-- The login record that `create_admin` stores. -/
def adminLogin : UserLogin := generateUserLogin adminName adminPassword adminUuid

/-- The account that `create_admin` stores. -/
def adminAccount : UserAccount := generateUserAccount adminUuid adminName

/-- Some channel is called "global". -/
def HasGlobal (s : State) : Prop :=
  ∃ k c, s.channelInfo.lookup k = some c ∧ c.channelName = globalName

/-- The records of `s` stay as they are in `s'`, and what is new belongs to the administrator whose
name was missing or is the channel that was missing. -/
structure OnlyAdds (env : Env) (s s' : State) : Prop where
  logins : ∀ t l, s.userLoginInfo.lookup t = some l → s'.userLoginInfo.lookup t = some l
  names : ∀ d u, s.displayNames.lookup d = some u → s'.displayNames.lookup d = some u
  accounts : ∀ k a, s.userAccountInfo.lookup k = some a → s'.userAccountInfo.lookup k = some a
  channels : ∀ k c, s.channelInfo.lookup k = some c → s'.channelInfo.lookup k = some c
  new_login : ∀ t l, s'.userLoginInfo.lookup t = some l → s.userLoginInfo.lookup t = some l ∨
    s.displayNames.lookup adminName = none ∧ t = adminName ∧ l = adminLogin
  new_name : ∀ d u, s'.displayNames.lookup d = some u → s.displayNames.lookup d = some u ∨
    s.displayNames.lookup adminName = none ∧ d = adminName ∧ u = adminUuid
  new_account : ∀ k a, s'.userAccountInfo.lookup k = some a →
    s.userAccountInfo.lookup k = some a ∨
      s.displayNames.lookup adminName = none ∧ k = adminUuid ∧ a = adminAccount
  new_channel : ∀ k c, s'.channelInfo.lookup k = some c → s.channelInfo.lookup k = some c ∨
    ¬ HasGlobal s ∧ k = env.uuid ∧ c = createChannel env.uuid globalName adminName false

/-- The name "admin" is taken, or neither the login record of the token "admin" nor the account of
the administrator's uuid is there in another form than the one that is stored; and there is a
global channel, or the new uuid is not the key of a channel. -/
def ReplacesNothing (s : State) (env : Env) : Prop :=
  (s.displayNames.lookup adminName ≠ none ∨
    (∀ l, s.userLoginInfo.lookup adminName = some l → l = adminLogin) ∧
    ∀ a, s.userAccountInfo.lookup adminUuid = some a → a = adminAccount) ∧
  (HasGlobal s ∨ s.channelInfo.lookup env.uuid = none)

theorem getChannelInfo_globalName_iff (s : State) (env : Env) :
    s.getChannelInfo env globalName ≠ none ↔ HasGlobal s := getChannelInfo_ne_none

/-- The databases of users after `create_admin`, and the channels as they were. -/
theorem createAdmin_onlyAdds_iff (s : State) (env : Env) :
    OnlyAdds env s s.createAdmin ↔ s.displayNames.lookup adminName ≠ none ∨
      (∀ l, s.userLoginInfo.lookup adminName = some l → l = adminLogin) ∧
      ∀ a, s.userAccountInfo.lookup adminUuid = some a → a = adminAccount := by
  obtain ⟨hbound, heq⟩ | ⟨hfree, heq⟩ := createAdmin_cases s
  · rw [heq]
    refine iff_of_true ?_ (Or.inl hbound)
    exact ⟨fun _ _ h => h, fun _ _ h => h, fun _ _ h => h, fun _ _ h => h, fun _ _ h => Or.inl h,
      fun _ _ h => Or.inl h, fun _ _ h => Or.inl h, fun _ _ h => Or.inl h⟩
  · rw [heq, or_iff_right (fun h => h hfree)]
    constructor
    · intro h
      exact ⟨Dbm.insert_keeps_iff.mp h.logins, Dbm.insert_keeps_iff.mp h.accounts⟩
    · rintro ⟨hl, ha⟩
      refine ⟨Dbm.insert_keeps_iff.mpr hl, Dbm.insert_keeps_iff.mpr ?_, Dbm.insert_keeps_iff.mpr ha,
        fun _ _ h => h, fun t l h => ?_, fun d u h => ?_, fun k a h => ?_, fun _ _ h => Or.inl h⟩
      · intro u hu
        rw [hfree] at hu
        cases hu
      · exact (Dbm.lookup_of_insert h).imp_right fun h => ⟨hfree, h⟩
      · exact (Dbm.lookup_of_insert h).imp_right fun h => ⟨hfree, h⟩
      · exact (Dbm.lookup_of_insert h).imp_right fun h => ⟨hfree, h⟩

/-- `create_admin` does not touch the channels, so `create_global_channel` finds those that were
there. -/
theorem channelInfo_createAdmin (s : State) : s.createAdmin.channelInfo = s.channelInfo := by
  obtain ⟨_, heq⟩ | ⟨_, heq⟩ := createAdmin_cases s <;> rw [heq]
  rfl

theorem startUp_cases (s : State) (env : Env) :
    (HasGlobal s ∧ startUp env s = s.createAdmin) ∨
      ¬ HasGlobal s ∧ startUp env s = s.createAdmin.withGlobal env := by
  have hglobal : HasGlobal s.createAdmin ↔ HasGlobal s := by
    rw [HasGlobal, HasGlobal, channelInfo_createAdmin]
  obtain ⟨hf, heq⟩ | ⟨hf, heq⟩ := createGlobalChannel_cases s.createAdmin env
  · exact Or.inl ⟨hglobal.mp ((getChannelInfo_globalName_iff _ env).mp hf), heq⟩
  · refine Or.inr ⟨fun hg => ?_, heq⟩
    exact (getChannelInfo_globalName_iff _ env).mpr (hglobal.mpr hg) hf

/-- The second start finds both the name and the channel. -/
theorem startUp_twice (s : State) (env env' : Env) :
    startUp env' (startUp env s) = startUp env s := by
  have hadmin : (startUp env s).displayNames.lookup adminName ≠ none := by
    have hnames : (startUp env s).displayNames = s.createAdmin.displayNames := by
      obtain ⟨_, heq⟩ | ⟨_, heq⟩ := startUp_cases s env <;> rw [heq]
      rfl
    rw [hnames]
    obtain ⟨hbound, heq⟩ | ⟨_, heq⟩ := createAdmin_cases s
    · rw [heq]; exact hbound
    · rw [heq]
      show (AList.insert adminName adminUuid s.displayNames).lookup adminName ≠ none
      rw [AList.lookup_insert]
      exact nofun
  have hglobal : HasGlobal (startUp env s) := by
    obtain ⟨hg, heq⟩ | ⟨_, heq⟩ := startUp_cases s env
    · rw [heq, HasGlobal, channelInfo_createAdmin]
      exact hg
    · rw [heq]
      exact ⟨_, _, AList.lookup_insert _, rfl⟩
  have hsame : (startUp env s).createAdmin = startUp env s :=
    (createAdmin_cases _).resolve_right (fun h => hadmin h.1) |>.2
  obtain ⟨_, heq⟩ | ⟨hno, _⟩ := startUp_cases (startUp env s) env'
  · rw [heq, hsame]
  · exact absurd hglobal hno

/-- Start-up only adds, and a second one changes nothing, if and only if none of its stores replaces
a record. -/
theorem startUp_only_adds_iff (s : State) (env : Env) :
    (OnlyAdds env s (startUp env s) ∧ ∀ env', startUp env' (startUp env s) = startUp env s) ↔
      ReplacesNothing s env := by
  rw [and_iff_left (startUp_twice s env), ReplacesNothing, ← createAdmin_onlyAdds_iff s env]
  obtain ⟨hg, heq⟩ | ⟨hno, heq⟩ := startUp_cases s env
  · rw [heq]
    exact ⟨fun h => ⟨h, Or.inl hg⟩, fun h => h.1⟩
  · have hchannels : (startUp env s).channelInfo = s.channelInfo.insert env.uuid
        (createChannel env.uuid globalName adminName false) := by
      rw [heq, ← channelInfo_createAdmin s]; rfl
    have hothers : startUp env s =
        { s.createAdmin with channelInfo := (startUp env s).channelInfo } := by
      rw [heq]; rfl
    rw [or_iff_right hno]
    constructor
    · intro h
      have hkeys := h.channels
      rw [hothers] at h
      refine ⟨⟨h.logins, h.names, h.accounts, ?_, h.new_login, h.new_name, h.new_account, ?_⟩, ?_⟩
      · intro k c hc; rw [channelInfo_createAdmin]; exact hc
      · intro k c hc; rw [channelInfo_createAdmin] at hc; exact Or.inl hc
      · -- a record under the new key would be a global channel already
        rw [hchannels, Dbm.insert_keeps_iff] at hkeys
        cases hc : s.channelInfo.lookup env.uuid with
        | none => rfl
        | some c => exact absurd ⟨_, c, hc, by rw [hkeys c hc]; rfl⟩ hno
    · rintro ⟨h, hnew⟩
      rw [hothers]
      refine ⟨h.logins, h.names, h.accounts, ?_, h.new_login, h.new_name, h.new_account, ?_⟩
      · change ∀ k c, _ → (startUp env s).channelInfo.lookup k = some c
        rw [hchannels, Dbm.insert_keeps_iff]
        intro c hc
        rw [hnew] at hc
        cases hc
      · intro k c hc
        change (startUp env s).channelInfo.lookup k = some c at hc
        rw [hchannels] at hc
        exact (Dbm.lookup_of_insert hc).imp_right fun h => ⟨hno, h⟩

/-- The administrator destroys itself, and somebody registers the token that has become free. -/
def takenTokenLife : List LifeEvent :=
  [.start true Client.firstEnv,
    .request (Client.login 6 "10.0.0.2" "admin" "admin"),
    .request (Client.destroyUser 6 "10.0.0.2" "admin" "admin" "admin"),
    .request (Client.createUser 5 "10.0.0.1" "admin" "eve" "pw"
      "22222222-2222-2222-2222-222222222222")]

/-- At the next start the login record of the new user is replaced by the administrator's. -/
theorem startUp_replaces :
    Life.Along FreshEvent Life.initial takenTokenLife ∧
      ¬ OnlyAdds (Client.env "33333333-3333-3333-3333-333333333333")
        (Life.run takenTokenLife).state
        (startUp (Client.env "33333333-3333-3333-3333-333333333333")
          (Life.run takenTokenLife).state) := by
  refine ⟨by decide +kernel, fun h => ?_⟩
  have hbefore : (Life.run takenTokenLife).state.userLoginInfo.lookup adminName =
      some (generateUserLogin adminName (CharArray.strncpy _ (ascii "pw"))
        (Client.uuid "22222222-2222-2222-2222-222222222222")) := by decide +kernel
  have hafter : (startUp (Client.env "33333333-3333-3333-3333-333333333333")
      (Life.run takenTokenLife).state).userLoginInfo.lookup adminName = some adminLogin := by
    decide +kernel
  have hkept := h.logins _ _ hbefore
  rw [hafter] at hkept
  revert hkept
  decide

end ChatServer
