import ChatServer.Invariant.Keyed

/-!
# Who has privilege

Privilege is given to the display name "admin" when an account is created. It stays with the
account of `create_admin` as long as that display name stays bound, and only the destruction
of a user unbinds a display name.
-/

namespace ChatServer

open CLib

/-- What keeps the privilege where it is: "admin" is taken, and only the account of `create_admin`
has the privilege or the name. -/
structure AdminHeld (s : State) : Prop where
  bound : s.displayNames.lookup adminName ≠ none
  accounts : s.userAccountInfo.All fun k a =>
    a.privilegeLevel = 1 ∨ a.displayName = adminName → k = adminUuid

/-- A request that gets a display name removed does not name "admin". -/
def KeepsAdminName (s : State) (r : Request) : Prop :=
  ∀ x ∈ destroyTarget s r, x.1 ≠ adminName

instance (s : State) (r : Request) : Decidable (KeepsAdminName s r) :=
  inferInstanceAs (Decidable (∀ x ∈ destroyTarget s r, x.1 ≠ adminName))

theorem AdminHeld.insertUserAccount {s : State} (h : AdminHeld s) (a' : UserAccount)
    {a : UserAccount} (ha : s.userAccountInfo.lookup a.userId = some a) (hid : a'.userId = a.userId)
    (hname : a'.displayName = a.displayName)
    (hpriv : a'.privilegeLevel = 1 → a.privilegeLevel = 1 ∨ a.displayName = adminName) :
    AdminHeld (s.insertUserAccount a') := by
  refine ⟨h.bound, h.accounts.insert ?_⟩
  rw [hid, hname]
  rintro (hp | hn)
  · exact h.accounts _ a ha (hpriv hp)
  · exact h.accounts _ a ha (Or.inr hn)

theorem AdminHeld.login {s : State} (hk : KeyedState s) (h : AdminHeld s) {r : Request}
    {l : UserLogin} {a : UserAccount} (ht : loginTarget s r = some (l, a)) :
    AdminHeld (s.insertUserAccount (loginUserAccount a r.clntAddr)) := by
  refine h.insertUserAccount _ (hk.account_of_login ht) rfl rfl fun hp => ?_
  by_cases hn : a.displayName = adminName
  · exact Or.inr hn
  · left; simpa [loginUserAccount, hn] using hp

theorem AdminHeld.effect {s s' : State} {r : Request} {b : Bool} (hk : KeyedState s)
    (h : AdminHeld s) (hc : KeepsAdminName s r) (he : Effect s r s' b) : AdminHeld s' := by
  cases he with
  | unchanged => exact h
  | @createUser t d p ht =>
    obtain ⟨_, _, hd⟩ := createUserTarget_some ht
    -- the name is free, so it is not "admin" and the new account gets no privilege
    have hne : d ≠ adminName := fun he => h.bound (he ▸ hd)
    refine ⟨?_, h.accounts.insert ?_⟩
    · simpa [State.withUser, AList.lookup_insert_ne (Ne.symm hne)] using h.bound
    · simp [generateUserAccount, hne]
  | @destroyUser d l ht =>
    have hne := hc _ ht
    refine ⟨?_, h.accounts.erase _⟩
    simpa [State.withoutUser, AList.lookup_erase_ne (Ne.symm hne)] using h.bound
  | restart ht | cacheFull ht => exact h.login hk ht
  | openSession ht => exact ⟨(h.login hk ht).bound, (h.login hk ht).accounts⟩
  | terminate => exact ⟨h.bound, h.accounts⟩
  | logout ht =>
    have hl := h.insertUserAccount (logoutUserAccount _) (hk.account_of_logout ht) rfl rfl
      fun hp => Or.inl hp
    exact ⟨hl.bound, hl.accounts⟩
  | createChannel | createMessage => exact ⟨h.bound, h.accounts⟩
  | updateChannel _ h₁ h₂ =>
    rw [update_frame h₁ h₂]
    exact ⟨h.bound, h.accounts⟩

theorem adminHeld_startUp (env : Env) : AdminHeld (startUp env .fresh) := by
  rw [startUp_fresh]
  refine ⟨by simp [State.withUser], ?_⟩
  exact (Dbm.All.empty _).insert fun _ => rfl

/-- In every run in which no request gets the display name "admin" removed, every account with
the privilege is the one that `create_admin` stored. -/
theorem privileged_account_is_admin (env : Env) (rs : List Request)
    (h : Server.Along KeepsAdminName (.started env) rs) (k : Uuid) (a : UserAccount)
    (ha : ((Server.started env).run rs).state.userAccountInfo.lookup k = some a)
    (hp : a.privilegeLevel = 1) : k = adminUuid ∧ a.userId = adminUuid := by
  obtain ⟨hkeyed, hinv⟩ := Server.invariant_keyed
    (fun _ _ _ _ hk hs hc he => AdminHeld.effect hk hs hc he) (adminHeld_startUp env) h
  have hk := hinv.accounts k a ha (Or.inl hp)
  exact ⟨hk, (hkeyed.accounts k a ha).trans hk⟩

/-- A session of an account that has the privilege sends the request. -/
def FromAdminSession (s : State) (r : Request) : Prop :=
  ∃ u ∈ s.activeUsers.getConnectedUserByFd r.fd, u.privilegeLevel = 1

instance (s : State) (r : Request) : Decidable (FromAdminSession s r) :=
  inferInstanceAs (Decidable (∃ u ∈ s.activeUsers.getConnectedUserByFd r.fd, _))

theorem privileged_account_leavingRun :
    ((generateUserAccount adminUuid adminName).privilegeLevel = 1 ∧
      (Client.start.run Client.leavingRun).state.userAccountInfo.lookup adminUuid =
        some (generateUserAccount adminUuid adminName)) ∧
      adminUuid = adminUuid ∧ (generateUserAccount adminUuid adminName).userId = adminUuid :=
  ⟨by decide +kernel,
    privileged_account_is_admin Client.firstEnv Client.leavingRun (by decide +kernel) adminUuid
      (generateUserAccount adminUuid adminName) (by decide +kernel) (by decide)⟩

/-- The credential check refuses only when all three of its conditions hold, so the right password
is enough to remove the display name "admin" and to register it again. -/
def escalationRun : List Request :=
  [Client.createUser 5 "10.0.0.1" "bobt" "bob" "pw" "22222222-2222-2222-2222-222222222222",
    Client.login 5 "10.0.0.1" "bobt" "pw",
    Client.destroyUser 5 "10.0.0.1" "admin" "bobt" "pw",
    Client.createUser 6 "10.0.0.1" "evet" "admin" "pw" "33333333-3333-3333-3333-333333333333"]

theorem second_privileged_account :
    Server.Along (fun s r => FreshUuid s r ∧ ¬ FromAdminSession s r) Client.start escalationRun ∧
      ∃ a, (Client.start.run escalationRun).state.userAccountInfo.lookup
          (Client.uuid "33333333-3333-3333-3333-333333333333") = some a ∧
        a.privilegeLevel = 1 ∧ a.userId ≠ adminUuid := by
  refine ⟨by decide +kernel, generateUserAccount
    (Client.uuid "33333333-3333-3333-3333-333333333333") adminName, ?_⟩
  decide +kernel

end ChatServer
