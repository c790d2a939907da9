import ChatServer.Lifetime

/-!
# Account records

An account is written when a user is created and rewritten by every login and logout from the
record that was fetched. The four fields that are rewritten or decide over rights stay in step: the
id is the key, the privilege follows from the display name, and an address stands in the record
exactly while the user is online.
-/

namespace ChatServer

open CLib

/-- `ip_addr` of an account that is not logged in. -/
def noAddress : IpAddr := CharArray.strncpy _ (ascii "0")

/-- The text that `inet_ntop` makes of an IPv4 address: four numbers with dots between them. -/
def IsIPv4 (addr : IpAddr) : Prop :=
  (addr.str.splitOn 46).length = 4 ∧
    ∀ part ∈ addr.str.splitOn 46, part ≠ [] ∧ part.all isdigit = true ∧ strtolInt part < 256

instance (addr : IpAddr) : Decidable (IsIPv4 addr) := inferInstanceAs (Decidable (_ ∧ _))

theorem IsIPv4.ne_noAddress {addr : IpAddr} (h : IsIPv4 addr) : addr ≠ noAddress := by
  rintro rfl
  exact absurd h.1 (by decide)

/-- A request comes from a client with an IPv4 address. -/
def FromIPv4 : LifeEvent → Prop
  | .start _ _ => True
  | .request r => IsIPv4 r.clntAddr

instance : (e : LifeEvent) → Decidable (FromIPv4 e)
  | .start _ _ => isTrue trivial
  | .request r => inferInstanceAs (Decidable (IsIPv4 r.clntAddr))

/-- What every record of the account database looks like. -/
structure AccountShape (k : Uuid) (a : UserAccount) : Prop where
  id : a.userId = k
  privilege : a.privilegeLevel = if a.displayName = adminName then 1 else 0
  address : a.ipAddr = noAddress ↔ a.onlineStatus = false

/-- All accounts have the shape, and the one of `create_admin` has the name "admin". -/
structure AccountsShaped (s : State) : Prop where
  shape : s.userAccountInfo.All AccountShape
  admin : ∀ a, s.userAccountInfo.lookup adminUuid = some a → a.displayName = adminName

theorem accountShape_generate (u : Uuid) (d : Name) : AccountShape u (generateUserAccount u d) :=
  ⟨rfl, rfl, fun _ => rfl, fun _ => rfl⟩

theorem AccountShape.login {k : Uuid} {a : UserAccount} (h : AccountShape k a) {addr : IpAddr}
    (haddr : IsIPv4 addr) : AccountShape k (loginUserAccount a addr) := by
  refine ⟨h.id, ?_, fun he => absurd he haddr.ne_noAddress, nofun⟩
  by_cases hn : a.displayName = adminName
  · simp [loginUserAccount, hn]
  · simp [loginUserAccount, hn, h.privilege]

theorem AccountShape.logout {k : Uuid} {a : UserAccount} (h : AccountShape k a) :
    AccountShape k (logoutUserAccount a) :=
  ⟨h.id, h.privilege, fun _ => rfl, fun _ => rfl⟩

namespace AccountsShaped

variable {s : State} (h : AccountsShaped s)
include h

theorem frame {s' : State} (he : s'.userAccountInfo = s.userAccountInfo) : AccountsShaped s' := by
  obtain ⟨h₁, h₂⟩ := h
  rw [← he] at h₁ h₂
  exact ⟨h₁, h₂⟩

theorem withUser {u : Uuid} {d : Name} (hadmin : u = adminUuid → d = adminName) (t : Name)
    (p : Password) : AccountsShaped (s.withUser u t d p) := by
  refine ⟨h.shape.insert (accountShape_generate u d), fun a ha => ?_⟩
  rcases Dbm.lookup_insert_iff.mp ha with ⟨hu, rfl⟩ | ⟨_, ha⟩
  · exact hadmin hu.symm
  · exact h.admin a ha

/-- A fetched account is written back, with its id and its name. -/
theorem rewrite {a a' : UserAccount} (ha : s.userAccountInfo.lookup a.userId = some a)
    (hid : a'.userId = a.userId) (hname : a'.displayName = a.displayName)
    (hshape : AccountShape a.userId a') : AccountsShaped (s.insertUserAccount a') := by
  refine ⟨h.shape.insert (hid ▸ hshape), fun b hb => ?_⟩
  rcases Dbm.lookup_insert_iff.mp hb with ⟨hu, rfl⟩ | ⟨_, hb⟩
  · rw [hname]
    exact h.admin a (by rw [hu, hid]; exact ha)
  · exact h.admin b hb

theorem effect (hk : KeyedState s) {r : Request} {s' : State} {b : Bool} (hfresh : FreshUuid s r)
    (haddr : IsIPv4 r.clntAddr) (he : Effect s r s' b) : AccountsShaped s' := by
  cases he with
  | unchanged => exact h
  | createUser ht => exact h.withUser (fun hu => absurd hu hfresh.1) _ _
  | destroyUser ht =>
    exact ⟨h.shape.erase _, fun a ha => h.admin a (Dbm.lookup_erase_iff.mp ha).2⟩
  | restart ht | cacheFull ht =>
    have ha := hk.account_of_login ht
    exact h.rewrite ha rfl rfl ((h.shape _ _ ha).login haddr)
  | @openSession _ a _ ht =>
    have ha := hk.account_of_login ht
    have hr : AccountsShaped (s.insertUserAccount (loginUserAccount a r.clntAddr)) :=
      h.rewrite ha rfl rfl ((h.shape _ _ ha).login haddr)
    exact hr.frame rfl
  | @logout a ht =>
    have ha := hk.account_of_logout ht
    have hr : AccountsShaped (s.insertUserAccount (logoutUserAccount a)) :=
      h.rewrite ha rfl rfl (h.shape _ _ ha).logout
    exact hr.frame rfl
  | terminate | createChannel | createMessage => exact h.frame rfl
  | updateChannel _ h₁ h₂ =>
    rw [update_frame h₁ h₂]
    exact h.frame rfl

end AccountsShaped

/-- The condition on the events: fresh uuids and IPv4 clients. -/
abbrev AccountEvent (s : State) (e : LifeEvent) : Prop := FreshEvent s e ∧ FromIPv4 e

theorem accountsShaped_run {v : Server} (hk : KeyedState v.state) (h : AccountsShaped v.state)
    {es : List LifeEvent} (hes : Life.Along AccountEvent v es) :
    KeyedState (Run.run Life.step v es).state ∧ AccountsShaped (Run.run Life.step v es).state := by
  refine Life.invariant (fun _ _ hc => hc.1) ?_ ?_ ?_ ?_ hk h hes
  · exact fun s hs => hs.frame rfl
  · exact fun s hs _ => hs.withUser (fun _ => rfl) _ _
  · exact fun s env hs _ _ => hs.frame rfl
  · exact fun s r s' b hk hs hc he => hs.effect hk hc.1 hc.2 he

theorem accountsShaped_life {es : List LifeEvent}
    (h : Life.Along AccountEvent Life.initial es) :
    KeyedState (Life.run es).state ∧ AccountsShaped (Life.run es).state :=
  accountsShaped_run Life.keyedState_fresh
    ⟨Dbm.All.empty _, fun _ ha => by cases ha⟩ h

/-- An account that is there before and after has the name it had. -/
def NamesKept (s s' : State) : Prop :=
  ∀ k a a', s.userAccountInfo.lookup k = some a → s'.userAccountInfo.lookup k = some a' →
    a'.displayName = a.displayName

section Names

variable {s : State}

theorem NamesKept.frame {s' : State} (he : s'.userAccountInfo = s.userAccountInfo) :
    NamesKept s s' := by
  intro k a a' ha ha'
  rw [he, ha] at ha'
  rw [Option.some.inj ha']

theorem NamesKept.rewrite {s' : State} {a₀ a₁ : UserAccount}
    (he : s'.userAccountInfo = s.userAccountInfo.insert a₁.userId a₁)
    (ha : s.userAccountInfo.lookup a₀.userId = some a₀) (hid : a₁.userId = a₀.userId)
    (hname : a₁.displayName = a₀.displayName) : NamesKept s s' := by
  intro k a a' hb hb'
  rw [he] at hb'
  rcases Dbm.lookup_insert_iff.mp hb' with ⟨hk, rfl⟩ | ⟨_, hb'⟩
  · rw [hk, hid, ha] at hb
    rw [hname, Option.some.inj hb]
  · rw [hb] at hb'
    rw [Option.some.inj hb']

theorem NamesKept.effect (hk : KeyedState s) {r : Request} {s' : State} {b : Bool}
    (hfresh : FreshUuid s r) (he : Effect s r s' b) : NamesKept s s' := by
  cases he with
  | unchanged | terminate | createChannel | createMessage => exact .frame rfl
  | createUser ht =>
    intro k a a' ha ha'
    rcases Dbm.lookup_insert_iff.mp ha' with ⟨hu, _⟩ | ⟨_, ha'⟩
    · -- the new account does not replace one
      rw [hu, show (generateUserAccount r.env.uuid _).userId = r.env.uuid from rfl,
        hfresh.no_account] at ha
      cases ha
    · rw [Option.some.inj (ha.symm.trans ha')]
  | destroyUser ht =>
    intro k a a' ha ha'
    rw [Option.some.inj (ha.symm.trans (Dbm.lookup_erase_iff.mp ha').2)]
  | restart ht | openSession ht | cacheFull ht =>
    exact .rewrite rfl (hk.account_of_login ht) rfl rfl
  | logout ht => exact .rewrite rfl (hk.account_of_logout ht) rfl rfl
  | updateChannel _ h₁ h₂ =>
    rw [update_frame h₁ h₂]
    exact .frame rfl

end Names

theorem NamesKept.start {v : Server} (h : AccountsShaped v.state) (newProcess : Bool) (env : Env) :
    NamesKept v.state (Life.step v (.start newProcess env)).state := by
  refine (Life.start_induction (I := fun s => AccountsShaped s ∧ NamesKept v.state s)
    v newProcess env ?_ ?_ ?_ ⟨h, .frame rfl⟩).2
  · exact fun hs => ⟨hs.1.frame rfl, .frame rfl⟩
  · intro s hs _
    refine ⟨hs.1.withUser (fun _ => rfl) _ _, fun k a a' ha ha' => ?_⟩
    rcases Dbm.lookup_insert_iff.mp ha' with ⟨hu, rfl⟩ | ⟨_, ha'⟩
    · rw [hu] at ha
      exact (h.admin a ha).symm
    · exact hs.2 k a a' ha ha'
  · exact fun s hs _ _ => ⟨hs.1.frame rfl, hs.2⟩

theorem NamesKept.step {v : Server} (hk : KeyedState v.state) (h : AccountsShaped v.state)
    {e : LifeEvent} (hc : Life.happens v e = true → AccountEvent v.state e) :
    NamesKept v.state (Life.step v e).state := by
  cases e with
  | start newProcess env => exact .start h newProcess env
  | request r =>
    obtain ⟨_, he⟩ | ⟨hr, _, he⟩ := Life.step_request v r
    · rw [he]; exact .frame rfl
    · exact .effect hk (hc hr).1 he

/-- The uuid is bound after every event. -/
abbrev StaysBound (k : Uuid) (v : Server) (es : List LifeEvent) : Prop :=
  Run.Along Life.step (fun v e => (Life.step v e).state.userAccountInfo.lookup k ≠ none) v es

theorem displayName_run {k : Uuid} {v : Server} {es : List LifeEvent} (hk : KeyedState v.state)
    (h : AccountsShaped v.state) (hes : Life.Along AccountEvent v es) (hbound : StaysBound k v es)
    {a : UserAccount} (ha : v.state.userAccountInfo.lookup k = some a) :
    ∃ a', (Run.run Life.step v es).state.userAccountInfo.lookup k = some a' ∧
      a'.displayName = a.displayName := by
  induction es generalizing v a with
  | nil => exact ⟨a, ha, rfl⟩
  | cons e es ih =>
    obtain ⟨a₁, ha₁⟩ := Option.ne_none_iff_exists'.mp hbound.1
    have hone : Life.Along AccountEvent v [e] := ⟨hes.1, trivial⟩
    obtain ⟨hk₁, h₁⟩ := accountsShaped_run hk h hone
    obtain ⟨a', ha', hname⟩ := ih hk₁ h₁ hes.2 hbound.2 ha₁
    exact ⟨a', ha', hname.trans (NamesKept.step hk h hes.1 k a a₁ ha ha₁)⟩

/-- In every life with fresh uuids and IPv4 clients, an account is stored under its own id, has
privilege exactly if its name is "admin", has the address "0" exactly while it is offline, and keeps
its name as long as its id stays in the database. -/
theorem account_invariant (es : List LifeEvent) (h : Life.Along AccountEvent Life.initial es)
    (k : Uuid) (a : UserAccount) (ha : (Life.run es).state.userAccountInfo.lookup k = some a) :
    AccountShape k a ∧
    ∀ es', Life.Along AccountEvent (Life.run es) es' → StaysBound k (Life.run es) es' →
      ∃ a', (Life.run (es ++ es')).state.userAccountInfo.lookup k = some a' ∧
        a'.displayName = a.displayName := by
  obtain ⟨hk, hshaped⟩ := accountsShaped_life h
  refine ⟨hshaped.shape k a ha, fun es' hes' hbound => ?_⟩
  rw [Life.run, Run.run_append]
  exact displayName_run hk hshaped hes' hbound ha

/-- The administrator logs in, and later a second process starts. -/
def adminLife : List LifeEvent :=
  [.start true Client.firstEnv,
    .request (Client.login 6 "10.0.0.2" "admin" "admin")]

theorem account_invariant_adminLife :
    AccountShape adminUuid
      (loginUserAccount (generateUserAccount adminUuid adminName) (Client.address "10.0.0.2")) ∧
    ∃ a', (Life.run (adminLife ++ [.request (Client.logout 6 "10.0.0.2" "admin"),
        .start true (Client.env "22222222-2222-2222-2222-222222222222")])).state.userAccountInfo.lookup
        adminUuid = some a' ∧ a'.displayName = adminName :=
  have h := account_invariant adminLife (by decide +kernel) adminUuid
    (loginUserAccount (generateUserAccount adminUuid adminName) (Client.address "10.0.0.2"))
    (by decide +kernel)
  ⟨h.1, h.2 _ (by decide +kernel) (by decide +kernel)⟩

end ChatServer
