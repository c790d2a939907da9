import ChatServer.Machine.Runs

/-!
# Sessions and accounts

Whether a user is online is stored twice: in the account and as an entry of the session cache.
A login looks for a session with the same address, name and descriptor, a logout removes the
first session with the name, and destroying a user leaves the cache alone.
-/

namespace ChatServer

open CLib

/-- The session cache and the accounts agree. -/
structure SessionsAgree (s : State) : Prop where
  names_distinct : (s.activeUsers.live.map (·.dsplyName)).Nodup
  online_iff : ∀ k a, s.userAccountInfo.lookup k = some a →
    (a.onlineStatus = true ↔ ∃ u ∈ s.activeUsers.live, u.uuid = a.userId)

/-- The agreement, and that a session has the name of its account, if that is still there. -/
structure SessionInv (s : State) : Prop extends SessionsAgree s where
  session_name : ∀ u ∈ s.activeUsers.live, ∀ a, s.userAccountInfo.lookup u.uuid = some a →
    a.displayName = u.dsplyName

/-- A login that goes through meets no session of its display name but the one that the same
account has on the same connection. -/
def MeetsOwnSession (s : State) (r : Request) : Prop :=
  ∀ x ∈ loginTarget s r, loggedInElsewhere s.activeUsers x.2 r.clntAddr = false →
    ∀ u ∈ s.activeUsers.live, u.dsplyName = x.2.displayName →
      u.fd = r.fd ∧ u.ipAddress = r.clntAddr ∧ u.uuid = x.2.userId

instance (s : State) (r : Request) : Decidable (MeetsOwnSession s r) :=
  inferInstanceAs (Decidable (∀ x ∈ loginTarget s r, _ → ∀ u ∈ s.activeUsers.live, _ → _))

namespace SessionInv

variable {s : State} {r : Request} (hk : KeyedState s) (h : SessionInv s)
include h

theorem withUser (hfresh : FreshUuid s r) (t d : Name) (p : Password) :
    SessionInv (s.withUser r.env.uuid t d p) := by
  refine ⟨⟨h.names_distinct, ?_⟩, ?_⟩
  · intro k a ha
    rcases Dbm.lookup_insert_iff.mp ha with ⟨_, rfl⟩ | ⟨_, ha⟩
    · constructor
      · exact nofun
      · rintro ⟨u, hu, he⟩
        exact absurd he (hfresh.session hu)
    · exact h.online_iff k a ha
  · intro u hu a ha
    rcases Dbm.lookup_insert_iff.mp ha with ⟨he, _⟩ | ⟨_, ha⟩
    · exact absurd he (hfresh.session hu)
    · exact h.session_name u hu a ha

theorem withoutUser (d : Name) (l : UserLogin) : SessionInv (s.withoutUser d l) := by
  refine ⟨⟨h.names_distinct, ?_⟩, ?_⟩
  · intro k a ha
    exact h.online_iff k a (Dbm.lookup_erase_iff.mp ha).2
  · intro u hu a ha
    exact h.session_name u hu a (Dbm.lookup_erase_iff.mp ha).2

include hk

/-- The account is rewritten as `a'` and the live sessions become `c`: the names stay distinct, the
sessions of `a'` are there if it is online, and the sessions of every other account stay. -/
theorem rewrite {a a' : UserAccount} {c : Cache}
    (ha : s.userAccountInfo.lookup a.userId = some a) (hid : a'.userId = a.userId)
    (hname : a'.displayName = a.displayName) (hdistinct : (c.live.map (·.dsplyName)).Nodup)
    (honline : a'.onlineStatus = true ↔ ∃ u ∈ c.live, u.uuid = a'.userId)
    (hother : ∀ k, k ≠ a.userId →
      ((∃ u ∈ c.live, u.uuid = k) ↔ ∃ u ∈ s.activeUsers.live, u.uuid = k))
    (hsub : ∀ u ∈ c.live, u ∈ s.activeUsers.live ∨ u.uuid = a.userId ∧
      u.dsplyName = a.displayName) :
    SessionInv { s.insertUserAccount a' with activeUsers := c } := by
  have hlookup : ∀ k b, (s.insertUserAccount a').userAccountInfo.lookup k = some b →
      (k = a.userId ∧ a' = b) ∨ (k ≠ a.userId ∧ s.userAccountInfo.lookup k = some b) := by
    intro k b hb
    rw [← hid]
    exact Dbm.lookup_insert_iff.mp hb
  refine ⟨⟨hdistinct, ?_⟩, ?_⟩
  · intro k b hb
    rcases hlookup k b hb with ⟨_, rfl⟩ | ⟨hne, hb⟩
    · exact honline
    · have hkb := hk.accounts k b hb
      rw [h.online_iff k b hb]
      exact (hother b.userId (by rw [hkb]; exact hne)).symm
  · intro u hu b hb
    have hname' : ∀ v ∈ s.activeUsers.live, v.uuid = a.userId → a.displayName = v.dsplyName :=
      fun v hv he => h.session_name v hv a (by rw [he, ha])
    rcases hlookup u.uuid b hb with ⟨he, rfl⟩ | ⟨hne, hb⟩
    · rw [hname]
      rcases hsub u hu with hu | ⟨_, hu⟩
      · exact hname' u hu he
      · exact hu.symm
    · rcases hsub u hu with hu | ⟨he, _⟩
      · exact h.session_name u hu b hb
      · exact absurd he hne

theorem restart {l : UserLogin} {a : UserAccount} (hc : MeetsOwnSession s r)
    (ht : loginTarget s r = some (l, a))
    (helse : loggedInElsewhere s.activeUsers a r.clntAddr = false)
    (hsame : s.activeUsers.findConnectedUserWithSameCred (loginUserAccount a r.clntAddr) r.fd =
      true) : SessionInv (s.insertUserAccount (loginUserAccount a r.clntAddr)) := by
  obtain ⟨u, hu, hcred⟩ := List.any_eq_true.mp hsame
  obtain ⟨_, hname, _⟩ := of_decide_eq_true hcred
  obtain ⟨_, _, huuid⟩ := hc _ ht helse u hu hname.symm
  refine h.rewrite hk (hk.account_of_login ht) rfl rfl h.names_distinct ?_ ?_ ?_
  · exact ⟨fun _ => ⟨u, hu, huuid⟩, fun _ => rfl⟩
  · exact fun _ _ => Iff.rfl
  · exact fun v hv => Or.inl hv

theorem openSession {l : UserLogin} {a : UserAccount} {c : Cache} (hc : MeetsOwnSession s r)
    (ht : loginTarget s r = some (l, a))
    (helse : loggedInElsewhere s.activeUsers a r.clntAddr = false)
    (hsame : s.activeUsers.findConnectedUserWithSameCred (loginUserAccount a r.clntAddr) r.fd =
      false)
    (hins : s.activeUsers.insertUserInCache r.fd (loginUserAccount a r.clntAddr) l = some c) :
    SessionInv { s.insertUserAccount (loginUserAccount a r.clntAddr) with activeUsers := c } := by
  have hlive := hk.live_of_login hins ht rfl
  -- a session with the name would be the one that was searched for
  have hnew : ∀ u ∈ s.activeUsers.live, u.dsplyName ≠ a.displayName := by
    intro u hu hname
    obtain ⟨hfd, hip, _⟩ := hc _ ht helse u hu hname
    have hnone := List.any_eq_false.mp hsame u hu
    exact hnone (decide_eq_true ⟨hip.symm, hname.symm, hfd.symm⟩)
  refine h.rewrite hk (hk.account_of_login ht) rfl rfl ?_ ?_ ?_ ?_
  · rw [hlive, List.map_append, List.nodup_append]
    refine ⟨h.names_distinct, List.nodup_singleton _, ?_⟩
    intro x hx y hy
    obtain ⟨u, hu, rfl⟩ := List.mem_map.mp hx
    rw [List.mem_singleton.mp hy]
    exact hnew u hu
  · have hmem : Cache.newSession r.fd (loginUserAccount a r.clntAddr) l ∈ c.live := by
      rw [hlive]
      exact List.mem_append_right _ (List.mem_singleton_self _)
    exact ⟨fun _ => ⟨_, hmem, rfl⟩, fun _ => rfl⟩
  · intro k hne
    rw [hlive]
    constructor
    · rintro ⟨u, hu, he⟩
      rcases List.mem_append.mp hu with hu | hu
      · exact ⟨u, hu, he⟩
      · rw [List.mem_singleton.mp hu] at he
        exact absurd he.symm hne
    · rintro ⟨u, hu, he⟩
      exact ⟨u, List.mem_append_left _ hu, he⟩
  · intro u hu
    rw [hlive] at hu
    rcases List.mem_append.mp hu with hu | hu
    · exact Or.inl hu
    · rw [List.mem_singleton.mp hu]
      exact Or.inr ⟨rfl, rfl⟩

theorem logout {a : UserAccount} (ht : logoutTarget s r = some a) :
    SessionInv { s.insertUserAccount (logoutUserAccount a) with
      activeUsers := s.activeUsers.removeUserInCache a.displayName } := by
  have ha := hk.account_of_logout ht
  -- the account is online, so the session that is removed is its own
  obtain ⟨w, hw, hwid⟩ := (h.online_iff _ a ha).mp (online_of_logout ht)
  have hwname : a.displayName = w.dsplyName := h.session_name w hw a (by rw [hwid, ha])
  have hleft : ∀ u ∈ (s.activeUsers.removeUserInCache a.displayName).live,
      u ∈ s.activeUsers.live ∧ u.dsplyName ≠ a.displayName := by
    intro u hu
    rw [Cache.live_removeUserInCache] at hu
    exact ⟨List.mem_of_mem_eraseP hu, Slots.ne_of_mem_eraseP h.names_distinct hu⟩
  refine h.rewrite hk ha rfl rfl ?_ ?_ ?_ ?_
  · rw [Cache.live_removeUserInCache]
    exact h.names_distinct.sublist (List.eraseP_sublist.map _)
  · constructor
    · exact nofun
    · rintro ⟨u, hu, he⟩
      obtain ⟨hu, hne⟩ := hleft u hu
      exact absurd (h.session_name u hu a (by rw [he]; exact ha)).symm hne
  · intro k hne
    constructor
    · rintro ⟨u, hu, he⟩
      exact ⟨u, (hleft u hu).1, he⟩
    · rintro ⟨u, hu, he⟩
      refine ⟨u, ?_, he⟩
      have hun : u.dsplyName ≠ a.displayName := by
        intro hname
        have : u = w := List.inj_on_of_nodup_map h.names_distinct hu hw (hname.trans hwname)
        subst this
        exact hne (he.symm.trans hwid)
      rw [Cache.live_removeUserInCache, List.mem_eraseP_of_neg (by simpa using hun)]
      exact hu
  · exact fun u hu => Or.inl (hleft u hu).1

theorem effect {s' : State} (hfresh : FreshUuid s r) (hc : MeetsOwnSession s r)
    (he : Effect s r s' true) : SessionInv s' := by
  cases he with
  | unchanged => exact h
  | createUser ht => exact h.withUser hfresh _ _ _
  | destroyUser ht => exact h.withoutUser _ _
  | restart ht helse hsame => exact h.restart hk hc ht helse hsame
  | openSession ht helse hsame hins => exact h.openSession hk hc ht helse hsame hins
  | logout ht => exact h.logout hk ht
  | createChannel | createMessage => exact ⟨⟨h.names_distinct, h.online_iff⟩, h.session_name⟩
  | updateChannel _ h₁ h₂ =>
    rw [update_frame h₁ h₂]
    exact ⟨⟨h.names_distinct, h.online_iff⟩, h.session_name⟩

end SessionInv

theorem sessionInv_startUp (env : Env) : SessionInv (startUp env .fresh) := by
  rw [startUp_fresh]
  refine ⟨⟨List.nodup_nil, ?_⟩, nofun⟩
  intro k a ha
  rcases Dbm.lookup_insert_iff.mp ha with ⟨_, rfl⟩ | ⟨_, ha⟩
  · exact ⟨nofun, nofun⟩
  · cases ha

/-- In every run on any machines with fresh uuids and strings that end in their arrays in which each
login that goes through meets no session of its display name but its own, the cache and the accounts
agree as long as the server runs. -/
theorem sessions_agree (env : Env) (henv : env.uuid.Text) (xs : List (Machine × Request))
    (h : Machine.Along (fun s x => x.2.Ends ∧ FreshUuid s x.2 ∧ MeetsOwnSession s x.2)
      (.started env) xs)
    (hrun : (Machine.run (.started env) xs).running = true) :
    SessionsAgree (Machine.run (.started env) xs).state := by
  obtain ⟨_, _, hinv⟩ := Machine.invariant_running (keyedState_startUp env)
    (cStrings_startUp henv) (sessionInv_startUp env)
    (fun _ _ _ hk _ hi hc he => hi.effect hk hc.1 hc.2 he) h hrun
  exact hinv.toSessionsAgree

/-- Two users log in and one of them logs out again. -/
def logoutRun : List Request :=
  [Client.createUser 5 "10.0.0.1" "bobt" "bob" "pw" "22222222-2222-2222-2222-222222222222",
    Client.login 5 "10.0.0.1" "bobt" "pw",
    Client.login 6 "10.0.0.2" "admin" "admin",
    Client.logout 5 "10.0.0.1" "bob"]

theorem sessions_agree_logoutRun :
    SessionsAgree (Machine.run Client.start (Client.on Client.machine logoutRun)).state :=
  sessions_agree Client.firstEnv (by decide) (Client.on Client.machine logoutRun)
    (by decide +kernel) (by decide +kernel)

/-- A second login from the same address on another connection is not taken for the session that
is already there. -/
def secondLoginRun : List Request :=
  [Client.login 5 "10.0.0.1" "admin" "admin", Client.login 6 "10.0.0.1" "admin" "admin"]

theorem second_login_not_distinct :
    Server.Along FreshUuid Client.start secondLoginRun ∧
      (Client.start.run secondLoginRun).running = true ∧
      (Client.start.run secondLoginRun).state.activeUsers.live.map (·.dsplyName) =
        [adminName, adminName] ∧
      ¬ SessionsAgree (Client.start.run secondLoginRun).state := by
  have hnames : (Client.start.run secondLoginRun).state.activeUsers.live.map (·.dsplyName) =
      [adminName, adminName] := by decide +kernel
  refine ⟨by decide +kernel, by decide +kernel, hnames, fun h => ?_⟩
  have hd := h.names_distinct
  rw [hnames] at hd
  exact absurd hd (by decide)

end ChatServer
