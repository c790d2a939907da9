import ChatServer.Invariant.Keyed

/-!
# The three identity databases

A user is one login record, one account and one display name, written by separate calls. They
stay in step as long as a request that destroys a user takes all three from the same user.
-/

namespace ChatServer

open CLib

/-- The identity databases are in one-to-one correspondence. -/
structure IdentityConsistent (s : State) : Prop where
  login_account : ∀ t l, s.userLoginInfo.lookup t = some l →
    ∃! e : Uuid × UserAccount, s.userAccountInfo.lookup e.1 = some e.2 ∧ e.2.userId = l.uuid
  account_login : ∀ k a, s.userAccountInfo.lookup k = some a →
    ∃ t l, s.userLoginInfo.lookup t = some l ∧ l.uuid = a.userId
  account_name : ∀ k a, s.userAccountInfo.lookup k = some a →
    s.displayNames.lookup a.displayName = some a.userId
  name_account : ∀ d u, s.displayNames.lookup d = some u →
    ∃ a, s.userAccountInfo.lookup u = some a ∧ a.userId = u ∧ a.displayName = d
  login_unique : ∀ t t' l l', s.userLoginInfo.lookup t = some l →
    s.userLoginInfo.lookup t' = some l' → l.uuid = l'.uuid → t = t'

/-- Login records belong to accounts, and no two to the same one. Destroying a user keeps this
whatever display name it takes. -/
structure LoginsLinked (s : State) : Prop where
  login_account : ∀ t l, s.userLoginInfo.lookup t = some l →
    ∃ a, s.userAccountInfo.lookup l.uuid = some a
  login_unique : s.userLoginInfo.Distinct UserLogin.uuid

/-- The correspondence over the keys of the databases. -/
structure Linked (s : State) : Prop extends LoginsLinked s where
  account_login : ∀ k a, s.userAccountInfo.lookup k = some a →
    ∃ t l, s.userLoginInfo.lookup t = some l ∧ l.uuid = k
  account_name : ∀ k a, s.userAccountInfo.lookup k = some a →
    s.displayNames.lookup a.displayName = some k
  name_account : ∀ d u, s.displayNames.lookup d = some u →
    ∃ a, s.userAccountInfo.lookup u = some a ∧ a.displayName = d

theorem Linked.consistent {s : State} (hk : KeyedState s) (h : Linked s) :
    IdentityConsistent s where
  login_account := by
    intro t l hl
    obtain ⟨a, ha⟩ := h.login_account t l hl
    refine ⟨(l.uuid, a), ⟨ha, hk.accounts _ a ha⟩, ?_⟩
    -- an account with the uuid is stored under it, so there is no second one
    rintro ⟨k, a'⟩ ⟨ha', hid⟩
    have hkl : k = l.uuid := (hk.accounts k a' ha').symm.trans hid
    subst hkl
    exact congrArg (Prod.mk _) (Option.some.inj (ha'.symm.trans ha))
  account_login := by
    intro k a ha
    rw [hk.accounts k a ha]
    exact h.account_login k a ha
  account_name := by
    intro k a ha
    rw [hk.accounts k a ha]
    exact h.account_name k a ha
  name_account := by
    intro d u hu
    obtain ⟨a, ha, hd⟩ := h.name_account d u hu
    exact ⟨a, ha, hk.accounts u a ha, hd⟩
  login_unique := h.login_unique

/-- A request that destroys a user names the display name of the user it removes. -/
def RemovesOwnName (s : State) (r : Request) : Prop :=
  ∀ x ∈ destroyTarget s r, s.displayNames.lookup x.1 = some x.2.uuid

instance (s : State) (r : Request) : Decidable (RemovesOwnName s r) :=
  inferInstanceAs (Decidable (∀ x ∈ destroyTarget s r, s.displayNames.lookup x.1 = some x.2.uuid))

namespace LoginsLinked

variable {s : State} (h : LoginsLinked s)
include h

theorem insertUserAccount (a : UserAccount) : LoginsLinked (s.insertUserAccount a) :=
  ⟨fun t l hl => Dbm.exists_lookup_insert (h.login_account t l hl), h.login_unique⟩

theorem withUser {u : Uuid} (hfresh : s.userAccountInfo.lookup u = none) (t d : Name)
    (p : Password) : LoginsLinked (s.withUser u t d p) := by
  refine ⟨?_, h.login_unique.insert ?_⟩
  · intro t' l hl
    rcases Dbm.lookup_insert_iff.mp hl with ⟨_, rfl⟩ | ⟨_, hl⟩
    · exact ⟨_, AList.lookup_insert _⟩
    · exact Dbm.exists_lookup_insert (h.login_account t' l hl)
  · intro t' l hl he
    obtain ⟨a, ha⟩ := h.login_account t' l hl
    rw [he, show (generateUserLogin t p u).uuid = u from rfl, hfresh] at ha
    cases ha

theorem withoutUser {l : UserLogin} (hl : s.userLoginInfo.lookup l.loginToken = some l)
    (d : Name) : LoginsLinked (s.withoutUser d l) := by
  refine ⟨?_, h.login_unique.erase _⟩
  intro t l' hl'
  obtain ⟨ht, hl'⟩ := Dbm.lookup_erase_iff.mp hl'
  obtain ⟨a, ha⟩ := h.login_account t l' hl'
  have hne : l'.uuid ≠ l.uuid := fun he => ht (h.login_unique _ _ l' l hl' hl he)
  exact ⟨a, Dbm.lookup_erase_iff.mpr ⟨hne, ha⟩⟩

theorem frame {s' : State} (hl : s'.userLoginInfo = s.userLoginInfo)
    (ha : s'.userAccountInfo = s.userAccountInfo) : LoginsLinked s' := by
  obtain ⟨h₁, h₂⟩ := h
  rw [← hl, ← ha] at h₁
  rw [← hl] at h₂
  exact ⟨h₁, h₂⟩

theorem effect {s' : State} {r : Request} {b : Bool} (hk : KeyedState s) (hfresh : FreshUuid s r)
    (he : Effect s r s' b) : LoginsLinked s' := by
  cases he with
  | unchanged => exact h
  | createUser ht => exact h.withUser hfresh.no_account _ _ _
  | destroyUser ht => exact h.withoutUser (hk.login_of_destroy ht) _
  | restart ht | cacheFull ht => exact h.insertUserAccount _
  | @openSession _ a _ ht =>
    exact (h.insertUserAccount (loginUserAccount a r.clntAddr)).frame rfl rfl
  | @logout a ht => exact (h.insertUserAccount (logoutUserAccount a)).frame rfl rfl
  | terminate | createChannel | createMessage => exact h.frame rfl rfl
  | updateChannel _ h₁ h₂ =>
    rw [update_frame h₁ h₂]
    exact h.frame rfl rfl

end LoginsLinked

namespace Linked

variable {s : State} (h : Linked s)
include h

/-- Rewriting an account under the same id and name, as logging in and out do. -/
theorem insertUserAccount (a' : UserAccount) {a : UserAccount}
    (ha : s.userAccountInfo.lookup a.userId = some a) (hid : a'.userId = a.userId)
    (hname : a'.displayName = a.displayName) :
    Linked (s.insertUserAccount a') := by
  have hold : ∀ k b, (s.insertUserAccount a').userAccountInfo.lookup k = some b →
      ∃ c, s.userAccountInfo.lookup k = some c ∧ c.displayName = b.displayName := by
    intro k b hb
    rcases Dbm.lookup_insert_iff.mp hb with ⟨rfl, rfl⟩ | ⟨_, hb⟩
    · exact ⟨a, by rw [hid, ha], hname.symm⟩
    · exact ⟨b, hb, rfl⟩
  refine ⟨h.toLoginsLinked.insertUserAccount a', ?_, ?_, ?_⟩
  · intro k b hb
    obtain ⟨c, hc, _⟩ := hold k b hb
    exact h.account_login k c hc
  · intro k b hb
    obtain ⟨c, hc, hcb⟩ := hold k b hb
    rw [← hcb]
    exact h.account_name k c hc
  · intro d u hu
    obtain ⟨b, hb, hd⟩ := h.name_account d u hu
    by_cases hu' : u = a'.userId
    · refine ⟨a', Dbm.lookup_insert_iff.mpr (Or.inl ⟨hu', rfl⟩), ?_⟩
      rw [hu', hid, ha] at hb
      rw [hname, Option.some.inj hb, hd]
    · exact ⟨b, Dbm.lookup_insert_iff.mpr (Or.inr ⟨hu', hb⟩), hd⟩

theorem withUser {u : Uuid} {t d : Name} {p : Password}
    (ht : s.userLoginInfo.lookup t = none) (hd : s.displayNames.lookup d = none)
    (hfresh : s.userAccountInfo.lookup u = none) : Linked (s.withUser u t d p) := by
  refine ⟨h.toLoginsLinked.withUser hfresh t d p, ?_, ?_, ?_⟩
  · intro k a ha
    rcases Dbm.lookup_insert_iff.mp ha with ⟨hk, _⟩ | ⟨_, ha⟩
    · exact ⟨t, generateUserLogin t p u, AList.lookup_insert _, hk.symm⟩
    · obtain ⟨t', l, hl, hlk⟩ := h.account_login k a ha
      have hne : t' ≠ t := by rintro rfl; rw [ht] at hl; cases hl
      exact ⟨t', l, Dbm.lookup_insert_iff.mpr (Or.inr ⟨hne, hl⟩), hlk⟩
  · intro k a ha
    rcases Dbm.lookup_insert_iff.mp ha with ⟨rfl, rfl⟩ | ⟨_, ha⟩
    · exact AList.lookup_insert _
    · have hk := h.account_name k a ha
      have hne : a.displayName ≠ d := by rintro rfl; rw [hd] at hk; cases hk
      exact Dbm.lookup_insert_iff.mpr (Or.inr ⟨hne, hk⟩)
  · intro d' u' hu
    rcases Dbm.lookup_insert_iff.mp hu with ⟨rfl, rfl⟩ | ⟨_, hu⟩
    · exact ⟨_, AList.lookup_insert _, rfl⟩
    · obtain ⟨a, ha, hname⟩ := h.name_account d' u' hu
      have hne : u' ≠ u := by rintro rfl; rw [hfresh] at ha; cases ha
      exact ⟨a, Dbm.lookup_insert_iff.mpr (Or.inr ⟨hne, ha⟩), hname⟩

theorem withoutUser {d : Name} {l : UserLogin}
    (hl : s.userLoginInfo.lookup l.loginToken = some l)
    (hd : s.displayNames.lookup d = some l.uuid) : Linked (s.withoutUser d l) := by
  refine ⟨h.toLoginsLinked.withoutUser hl d, ?_, ?_, ?_⟩
  · intro k a ha
    obtain ⟨hk, ha⟩ := Dbm.lookup_erase_iff.mp ha
    obtain ⟨t, l', hl', hlk⟩ := h.account_login k a ha
    refine ⟨t, l', Dbm.lookup_erase_iff.mpr ⟨?_, hl'⟩, hlk⟩
    rintro rfl
    rw [hl] at hl'
    cases hl'
    exact hk hlk.symm
  · intro k a ha
    obtain ⟨hk, ha⟩ := Dbm.lookup_erase_iff.mp ha
    have hname := h.account_name k a ha
    refine Dbm.lookup_erase_iff.mpr ⟨?_, hname⟩
    rintro rfl
    rw [hd] at hname
    exact hk (Option.some.inj hname).symm
  · intro d' u hu
    obtain ⟨hne, hu⟩ := Dbm.lookup_erase_iff.mp hu
    obtain ⟨a, ha, hname⟩ := h.name_account d' u hu
    refine ⟨a, Dbm.lookup_erase_iff.mpr ⟨?_, ha⟩, hname⟩
    rintro rfl
    -- the account of the removed login record has one name only
    obtain ⟨a', ha', hname'⟩ := h.name_account d l.uuid hd
    rw [ha] at ha'
    cases ha'
    exact hne (hname.symm.trans hname')

/-- Only the three identity databases matter. -/
theorem frame {s' : State} (hl : s'.userLoginInfo = s.userLoginInfo)
    (hd : s'.displayNames = s.displayNames) (ha : s'.userAccountInfo = s.userAccountInfo) :
    Linked s' := by
  obtain ⟨h₀, h₁, h₂, h₃⟩ := h
  rw [← hl, ← ha] at h₁
  rw [← ha, ← hd] at h₂ h₃
  exact ⟨h₀.frame hl ha, h₁, h₂, h₃⟩

end Linked

theorem Linked.effect {s s' : State} {r : Request} {b : Bool} (hk : KeyedState s) (h : Linked s)
    (hfresh : FreshUuid s r) (hc : RemovesOwnName s r) (he : Effect s r s' b) : Linked s' := by
  cases he with
  | unchanged => exact h
  | createUser ht =>
    obtain ⟨_, hlog, hname⟩ := createUserTarget_some ht
    exact h.withUser hlog hname hfresh.no_account
  | destroyUser ht => exact h.withoutUser (hk.login_of_destroy ht) (hc _ ht)
  | restart ht | cacheFull ht => exact h.insertUserAccount _ (hk.account_of_login ht) rfl rfl
  | openSession ht =>
    exact (h.insertUserAccount (loginUserAccount _ _) (hk.account_of_login ht) rfl
      rfl).frame rfl rfl rfl
  | logout ht =>
    exact (h.insertUserAccount (logoutUserAccount _) (hk.account_of_logout ht) rfl
      rfl).frame rfl rfl rfl
  | terminate | createChannel | createMessage => exact h.frame rfl rfl rfl
  | updateChannel _ h₁ h₂ =>
    rw [update_frame h₁ h₂]
    exact h.frame rfl rfl rfl

theorem linked_startUp (env : Env) : Linked (startUp env .fresh) := by
  rw [startUp_fresh]
  have hfresh : Linked State.fresh := ⟨⟨nofun, .empty _⟩, nofun, nofun, nofun⟩
  exact (hfresh.withUser rfl rfl rfl).frame rfl rfl rfl

/-- In every run with fresh uuids in which each accepted request to destroy a user names the
display name of the user it removes, the identity databases stay consistent. -/
theorem identity_consistent (env : Env) (rs : List Request)
    (h : Server.Along (fun s r => FreshUuid s r ∧ RemovesOwnName s r) (.started env) rs) :
    IdentityConsistent ((Server.started env).run rs).state := by
  obtain ⟨hk, hlinked⟩ := Server.invariant_keyed
    (fun _ _ _ _ hk hs hc he => Linked.effect hk hs hc.1 hc.2 he) (linked_startUp env) h
  exact hlinked.consistent hk

theorem identity_consistent_leavingRun :
    IdentityConsistent (Client.start.run Client.leavingRun).state :=
  identity_consistent Client.firstEnv Client.leavingRun (by decide +kernel)

/-- The login token is the sender's own and the password is right, but the display name is that of
the administrator. -/
def mismatchRun : List Request :=
  [Client.createUser 5 "10.0.0.1" "bobt" "bob" "pw" "22222222-2222-2222-2222-222222222222",
    Client.login 5 "10.0.0.1" "bobt" "pw",
    Client.destroyUser 5 "10.0.0.1" "admin" "bobt" "pw"]

theorem identity_inconsistent :
    Server.Along FreshUuid Client.start mismatchRun ∧
      ¬ IdentityConsistent (Client.start.run mismatchRun).state := by
  refine ⟨by decide +kernel, fun h => ?_⟩
  have hadmin : (Client.start.run mismatchRun).state.userAccountInfo.lookup adminUuid =
      some (generateUserAccount adminUuid adminName) := by decide +kernel
  have hgone : (Client.start.run mismatchRun).state.displayNames.lookup adminName = none := by
    decide +kernel
  have hname := h.account_name _ _ hadmin
  rw [show (generateUserAccount adminUuid adminName).displayName = adminName from rfl, hgone]
    at hname
  cases hname

end ChatServer
