import ChatServer.Invariant.Descriptors
import ChatServer.LoginRequests

/-!
# Room in the session cache

`insert_user_in_cache` does not test whether the array has a free slot. A login adds a session
unless there is one with its address, its display name and its descriptor, so the sessions of a
running server differ in these three, and there are at most as many as combinations of them that
logged in. Nothing bounds this number: one client can log in many users.
-/

namespace ChatServer

open CLib

/-- What a login compares with the sessions: address, display name and descriptor. -/
abbrev SessionKey := IpAddr × Name × ℕ

def ConnectedUser.key (u : ConnectedUser) : SessionKey := (u.ipAddress, u.dsplyName, u.fd)

/-- The combination of a login to the account. -/
def loginKey (r : Request) (account : UserAccount) : SessionKey :=
  (r.clntAddr, account.displayName, r.fd)

/-- The argument `num_active_users` of the call of `insert_user_in_cache` that a request leads to,
if it leads to one. -/
def insertCall (s : State) (r : Request) : Option ℕ :=
  match loginTarget s r with
  | none => none
  | some (_, account) =>
    if loggedInElsewhere s.activeUsers account r.clntAddr = true ∨
        s.activeUsers.findConnectedUserWithSameCred (loginUserAccount account r.clntAddr) r.fd =
          false then
      some s.activeUsers.getNumConnectedUsers
    else none

/-- The calls of `insert_user_in_cache` that a request makes write inside the array. -/
def InsertsInside (s : State) (r : Request) : Prop := ∀ n ∈ insertCall s r, n < maxClients

instance (s : State) (r : Request) : Decidable (InsertsInside s r) :=
  inferInstanceAs (Decidable (∀ n ∈ insertCall s r, n < maxClients))

section Calls

variable {s : State} {r : Request} {l : UserLogin} {a : UserAccount}
  (h : loginTarget s r = some (l, a))
include h

/-- The write behind the array is the one at the index of the call. -/
theorem insertsInside_iff : InsertsInside s r ↔ (handleRequest s r).ret ≠ .error .overflow := by
  obtain ⟨header, rest, t, hd, hlen, hrun⟩ := runHandler_login h
  have hvalue := loginAccount_value s r.env r.fd r.clntAddr l a t
  rw [InsertsInside, insertCall, h, handleRequest, hd]
  dsimp only
  rw [serve, if_neg (Nat.not_lt.mpr hlen), hrun]
  dsimp only
  by_cases hroom : s.activeUsers.getNumConnectedUsers < maxClients
  · -- the handler returns 0, or the result that the responder asserts on
    refine iff_of_true (fun n hn => ?_) ?_
    · split at hn
      · rw [← Option.some.inj hn]; exact hroom
      · cases hn
    · cases helse : loggedInElsewhere s.activeUsers a r.clntAddr with
      | true =>
        rw [helse, if_pos rfl, if_pos hroom] at hvalue
        rw [hvalue]
        exact fun he => by cases he
      | false =>
        rw [helse, if_neg Bool.false_ne_true, if_pos (Or.inr hroom)] at hvalue
        rw [hvalue]
        exact fun he => by cases he
  · cases helse : loggedInElsewhere s.activeUsers a r.clntAddr with
    | true =>
      rw [helse, if_pos rfl, if_neg hroom] at hvalue
      rw [hvalue, if_pos (Or.inl rfl)]
      exact iff_of_false (fun hin => hroom (hin _ rfl)) (fun hne => hne rfl)
    | false =>
      rw [helse, if_neg Bool.false_ne_true] at hvalue
      cases hsame : s.activeUsers.findConnectedUserWithSameCred (loginUserAccount a r.clntAddr)
          r.fd with
      | true =>
        rw [if_pos (Or.inl hsame)] at hvalue
        rw [hvalue, if_neg (by simp)]
        exact iff_of_true (fun n hn => by cases hn) (fun he => by cases he)
      | false =>
        rw [if_neg (by simp [hsame, hroom])] at hvalue
        rw [hvalue, if_pos (Or.inr rfl)]
        exact iff_of_false (fun hin => hroom (hin _ rfl)) (fun hne => hne rfl)

end Calls

/-- The sessions differ in the three fields, and these are among `keys`. -/
structure KeysWithin (keys : List SessionKey) (s : State) : Prop where
  nodup : (s.activeUsers.live.map ConnectedUser.key).Nodup
  subset : s.activeUsers.live.map ConnectedUser.key ⊆ keys

/-- A login to an account has one of the combinations, and if the user is online with a session
from another address, where no session is looked for, the combinations leave a slot free. -/
def LoginWithin (keys : List SessionKey) (s : State) (r : Request) : Prop :=
  ∀ x ∈ loginTarget s r, loginKey r x.2 ∈ keys ∧
    (loggedInElsewhere s.activeUsers x.2 r.clntAddr = true → keys.length < maxClients)

instance (keys : List SessionKey) (s : State) (r : Request) : Decidable (LoginWithin keys s r) :=
  inferInstanceAs (Decidable (∀ x ∈ loginTarget s r, _ ∧ (_ → _)))

namespace KeysWithin

variable {keys : List SessionKey} {s : State} {r : Request} (h : KeysWithin keys s)
include h

theorem length_le : s.activeUsers.getNumConnectedUsers ≤ keys.length := by
  have hle := (List.subperm_of_subset h.nodup h.subset).length_le
  rwa [List.length_map, Cache.length_live] at hle

/-- A login that finds no session of its own adds a combination. -/
theorem cons {a : UserAccount} (hkey : loginKey r a ∈ keys)
    (hsame : s.activeUsers.findConnectedUserWithSameCred (loginUserAccount a r.clntAddr) r.fd =
      false) :
    (loginKey r a :: s.activeUsers.live.map ConnectedUser.key).Nodup ∧
      loginKey r a :: s.activeUsers.live.map ConnectedUser.key ⊆ keys := by
  refine ⟨List.nodup_cons.mpr ⟨fun hm => ?_, h.nodup⟩, List.cons_subset.mpr ⟨hkey, h.subset⟩⟩
  obtain ⟨u, hu, he⟩ := List.mem_map.mp hm
  obtain ⟨haddr, hname, hfd⟩ : u.ipAddress = r.clntAddr ∧ u.dsplyName = a.displayName ∧
      u.fd = r.fd := by simpa only [ConnectedUser.key, loginKey, Prod.mk.injEq] using he
  exact List.any_eq_false.mp hsame u hu (decide_eq_true ⟨haddr.symm, hname.symm, hfd.symm⟩)

/-- A request that meets the condition finds a free slot when it needs one. -/
theorem insertsInside (hkeys : keys.length ≤ maxClients) (hr : LoginWithin keys s r) :
    InsertsInside s r := by
  intro n hn
  rw [insertCall] at hn
  cases ht : loginTarget s r with
  | none => rw [ht] at hn; cases hn
  | some x =>
    obtain ⟨l, a⟩ := x
    obtain ⟨hkey, helse⟩ := hr (l, a) ht
    rw [ht] at hn
    dsimp only at hn
    split at hn
    · rename_i hcase
      rw [← Option.some.inj hn]
      rcases hcase with he | hsame
      · exact lt_of_le_of_lt h.length_le (helse he)
      · obtain ⟨hnodup, hsub⟩ := h.cons hkey hsame
        have hle := (List.subperm_of_subset hnodup hsub).length_le
        rw [List.length_cons, List.length_map, Cache.length_live] at hle
        omega
    · cases hn

/-- The step lemma. -/
theorem step (hk : KeyedState s) (hr : LoginWithin keys s r)
    (hret : (handleRequest s r).returned = true) : KeysWithin keys (handleRequest s r).state := by
  cases ht : loginTarget s r with
  | none =>
    have hsub := (live_sublist_of_no_login ht).map ConnectedUser.key
    exact ⟨h.nodup.sublist hsub, fun x hx => h.subset (hsub.subset hx)⟩
  | some x =>
    obtain ⟨l, a⟩ := x
    obtain ⟨_, ⟨_, hcache⟩ | ⟨hsame, hins⟩⟩ := activeUsers_of_login ht hret
    · exact ⟨by rw [hcache]; exact h.nodup, by rw [hcache]; exact h.subset⟩
    · obtain ⟨hnodup, hsub⟩ := h.cons (hr (l, a) ht).1 hsame
      have hlive : (handleRequest s r).state.activeUsers.live.map ConnectedUser.key =
          s.activeUsers.live.map ConnectedUser.key ++ [loginKey r a] := by
        rw [hk.live_of_login hins ht rfl, List.map_append]
        rfl
      have hperm := List.perm_append_singleton (loginKey r a)
        (s.activeUsers.live.map ConnectedUser.key)
      exact ⟨by rw [hlive]; exact hperm.nodup_iff.mpr hnodup,
        by rw [hlive]; exact fun x hx => hsub (hperm.mem_iff.mp hx)⟩

end KeysWithin

/-- The run lemma: while the server runs, its sessions are among the combinations. -/
theorem keysWithin_run {keys : List SessionKey} {v : Server} (hk : KeyedState v.state)
    (h : KeysWithin keys v.state) {rs : List Request}
    (hrs : Server.Along (LoginWithin keys) v rs) (hrun : (v.run rs).running = true) :
    KeysWithin keys (v.run rs).state := by
  refine (Run.invariant (I := fun v => KeyedState v.state ∧
    (v.running = true → KeysWithin keys v.state)) ?_ ⟨hk, fun _ => h⟩ hrs).2 hrun
  rintro v r ⟨hk, hv⟩ hc
  cases hr : v.running with
  | false => rw [Server.step_stopped r hr, hr]; exact ⟨hk, fun h => by cases h⟩
  | true =>
    rw [Server.step_running r hr]
    exact ⟨hk.effect (handleRequest_effect v.state r), fun hret => (hv hr).step hk (hc hr) hret⟩

/-- In every run from a state without sessions whose logins use at most `MAX_CLIENTS`
combinations, every call of `insert_user_in_cache` writes inside the array. -/
theorem cache_has_room (es : List LifeEvent) (hempty : (Life.run es).state.activeUsers.live = [])
    (keys : List SessionKey) (hkeys : keys.length ≤ maxClients) (rs : List Request)
    (hrs : Server.Along (LoginWithin keys) (Life.run es) rs) (rs₁ rs₂ : List Request) (r : Request)
    (hsplit : rs = rs₁ ++ r :: rs₂) (hrun : ((Life.run es).run rs₁).running = true) :
    InsertsInside ((Life.run es).run rs₁).state r := by
  subst hsplit
  have hk := Life.keyed_run es
  have h0 : KeysWithin keys (Life.run es).state :=
    ⟨by rw [hempty]; exact List.nodup_nil, by rw [hempty]; exact List.nil_subset _⟩
  obtain ⟨hrs₁, hr, _⟩ := Run.along_append.mp hrs
  exact (keysWithin_run hk h0 hrs₁ hrun).insertsInside hkeys (hr hrun)

/-- A user is created and logs in. -/
theorem cache_has_room_bob :
    insertCall ((Life.run [.start true Client.firstEnv]).run [Client.createUser 5 "10.0.0.1" "bobt"
        "bob" "pw" "22222222-2222-2222-2222-222222222222"]).state
          (Client.login 5 "10.0.0.1" "bobt" "pw") = some 0 ∧
      InsertsInside ((Life.run [.start true Client.firstEnv]).run [Client.createUser 5 "10.0.0.1"
        "bobt" "bob" "pw" "22222222-2222-2222-2222-222222222222"]).state
          (Client.login 5 "10.0.0.1" "bobt" "pw") :=
  ⟨by decide +kernel, cache_has_room [.start true Client.firstEnv] (by decide +kernel)
    [(Client.address "10.0.0.1", CharArray.strncpy _ (ascii "bob"), 5)] (by decide)
    [Client.createUser 5 "10.0.0.1" "bobt" "bob" "pw" "22222222-2222-2222-2222-222222222222",
      Client.login 5 "10.0.0.1" "bobt" "pw"] (by decide +kernel)
    [Client.createUser 5 "10.0.0.1" "bobt" "bob" "pw" "22222222-2222-2222-2222-222222222222"] []
    (Client.login 5 "10.0.0.1" "bobt" "pw") rfl (by decide +kernel)⟩

/-! The administrator has a session on one of the descriptors of the poll table, a user on all 254
of them, and the administrator logs in on a second one. -/

namespace Crowd

def addr : IpAddr := Client.address "10.0.0.1"

def bobName : Name := CharArray.strncpy _ (ascii "bob")

def bobUuid : Uuid := Client.uuid "22222222-2222-2222-2222-222222222222"

def bobLogin : UserLogin := generateUserLogin (CharArray.strncpy _ (ascii "bobt"))
  (CharArray.strncpy _ (ascii "pw")) bobUuid

def arrive (n : ℕ) : Request := Client.login (4+n) "10.0.0.1" "bobt" "pw"

def requests (n : ℕ) : List Request :=
  [Client.createUser 4 "10.0.0.1" "bobt" "bob" "pw" "22222222-2222-2222-2222-222222222222",
    Client.login 4 "10.0.0.1" "admin" "admin"] ++ (List.range n).map arrive

def last : Request := Client.login 5 "10.0.0.1" "admin" "admin"

/-- The server after `n` of the logins of the user. -/
structure Grown (n : ℕ) (v : Server) : Prop where
  running : v.running = true
  keyed : KeyedState v.state
  login : v.state.userLoginInfo.lookup bobLogin.loginToken = some bobLogin
  account : ∃ a, v.state.userAccountInfo.lookup bobUuid = some a ∧ a.displayName = bobName
  length_eq : v.state.activeUsers.live.length = n+1
  session : ∀ u ∈ v.state.activeUsers.live, u.ipAddress = addr ∧
    (u.dsplyName = bobName ∧ u.fd < 4+n ∨ u.dsplyName = adminName ∧ u.fd = 4)
  adminLogin : v.state.userLoginInfo.lookup adminName =
    some (generateUserLogin adminName adminPassword adminUuid)
  adminAccount : ∃ a, v.state.userAccountInfo.lookup adminUuid = some a ∧
    a.displayName = adminName

theorem fields_arrive (n : ℕ) : (arrive n).fieldsFor .login =
    some (bobLogin.loginToken.str :: bobLogin.password.str :: []) := by
  -- the descriptor is not part of the dispatch
  have hfd : (arrive n).fieldsFor .login = (arrive 0).fieldsFor .login := by
    simp only [Request.fieldsFor, Request.bodyFor, Request.decode, arrive, Client.login,
      Client.request]
  rw [hfd]
  decide +kernel

theorem grown_zero : Grown 0 ((Life.run [.start true Client.firstEnv]).run (requests 0)) where
  running := by decide +kernel
  keyed := by
    have h := Life.keyed_run (.start true Client.firstEnv :: (requests 0).map .request)
    exact h
  login := by decide +kernel
  account := ⟨generateUserAccount bobUuid bobName, by decide +kernel, rfl⟩
  length_eq := by decide +kernel
  session := by decide +kernel
  adminLogin := by decide +kernel
  adminAccount := ⟨loginUserAccount (generateUserAccount adminUuid adminName) addr,
    by decide +kernel, rfl⟩

/-- One more login of the user, on the next descriptor. -/
theorem Grown.step {n : ℕ} {v : Server} (h : Grown n v) (hn : n+1 < maxClients) :
    Grown (n+1) (v.step (arrive n)) := by
  obtain ⟨a, ha, hname⟩ := h.account
  have hid : a.userId = bobUuid := (h.keyed.accounts _ _ ha)
  have ht : loginTarget v.state (arrive n) = some (bobLogin, a) :=
    loginTarget_of_stored h.login rfl ha (fields_arrive n)
  have helse : loggedInElsewhere v.state.activeUsers a (arrive n).clntAddr = false := by
    rw [loggedInElsewhere, List.any_eq_false]
    intro u hu hd
    exact (of_decide_eq_true hd).2.1 (h.session u hu).1
  have hsame : v.state.activeUsers.findConnectedUserWithSameCred
      (loginUserAccount a (arrive n).clntAddr) (arrive n).fd = false := by
    rw [Cache.findConnectedUserWithSameCred, List.any_eq_false]
    intro u hu hd
    obtain ⟨-, hbob, hfd⟩ := of_decide_eq_true hd
    obtain ⟨_, hlt⟩ | ⟨hadmin, _⟩ := (h.session u hu).2
    · have hfd : 4+n = u.fd := hfd
      omega
    · rw [hadmin] at hbob
      exact absurd (hname.symm.trans hbob) (by decide)
  obtain ⟨c, hc⟩ : ∃ c, v.state.activeUsers.insertUserInCache (arrive n).fd
      (loginUserAccount a (arrive n).clntAddr) bobLogin = some c := by
    rw [Cache.insertUserInCache, if_pos (by rw [← Cache.length_live, h.length_eq]; exact hn)]
    exact ⟨_, rfl⟩
  have hlive : c.live = v.state.activeUsers.live ++
      [Cache.newSession (4+n) (loginUserAccount a addr) bobLogin] :=
    h.keyed.live_of_login hc ht rfl
  obtain ⟨hret, hstate⟩ := call_of_login ht helse hsame hc
  have hne : adminUuid ≠ bobUuid := by decide
  rw [Server.step_running _ h.running]
  refine ⟨hret, h.keyed.effect (handleRequest_effect v.state (arrive n)), ?_, ?_, ?_, ?_, ?_, ?_⟩
  · rw [hstate]
    exact h.login
  · rw [hstate]
    exact ⟨loginUserAccount a addr, Dbm.lookup_insert_iff.mpr (Or.inl ⟨hid.symm, rfl⟩), hname⟩
  · rw [hstate]
    show c.live.length = n+1+1
    rw [hlive, List.length_append, h.length_eq]
    rfl
  · rw [hstate]
    change ∀ u ∈ c.live, _
    rw [hlive]
    intro u hu
    rcases List.mem_append.mp hu with hu | hu
    · obtain ⟨haddr, hu'⟩ := h.session u hu
      exact ⟨haddr, hu'.imp_left fun hbob => ⟨hbob.1, hbob.2.trans (Nat.lt_succ_self _)⟩⟩
    · rw [List.mem_singleton.mp hu]
      exact ⟨rfl, Or.inl ⟨hname, Nat.lt_succ_self _⟩⟩
  · rw [hstate]
    exact h.adminLogin
  · obtain ⟨b, hb, hbname⟩ := h.adminAccount
    rw [hstate]
    exact ⟨b, Dbm.lookup_insert_iff.mpr (Or.inr ⟨fun he => hne (he.trans hid), hb⟩), hbname⟩

theorem grown_run (n : ℕ) (hn : n < maxClients) :
    Grown n ((Life.run [.start true Client.firstEnv]).run (requests n)) := by
  induction n with
  | zero => exact grown_zero
  | succ n ih =>
    have hsplit : requests (n+1) = requests n ++ [arrive n] := by
      rw [requests, List.range_succ, List.map_append, ← List.append_assoc]
      rfl
    rw [hsplit, Server.run, Run.run_append]
    exact (ih (by omega)).step hn

end Crowd

/-- The administrator logs in on a second descriptor when one other user has filled the rest of the
cache from the descriptors of one client. -/
theorem cache_overflows :
    (Life.run [.start true Client.firstEnv]).state.activeUsers.live = [] ∧
      ((Life.run [.start true Client.firstEnv]).run (Crowd.requests 254)).running = true ∧
      insertCall ((Life.run [.start true Client.firstEnv]).run (Crowd.requests 254)).state
        Crowd.last = some maxClients ∧
      ¬ InsertsInside ((Life.run [.start true Client.firstEnv]).run
        (Crowd.requests 254)).state Crowd.last := by
  have h := Crowd.grown_run 254 (by decide)
  obtain ⟨a, ha, hname⟩ := h.adminAccount
  have ht : loginTarget ((Life.run [.start true Client.firstEnv]).run
      (Crowd.requests 254)).state Crowd.last =
        some (generateUserLogin adminName adminPassword adminUuid, a) := by
    have hfields : Crowd.last.fieldsFor .login =
        some (adminName.str :: adminPassword.str :: []) := by decide +kernel
    exact loginTarget_of_stored h.adminLogin rfl ha hfields
  have hsame : Cache.findConnectedUserWithSameCred ((Life.run [.start true Client.firstEnv]).run
      (Crowd.requests 254)).state.activeUsers
        (loginUserAccount a Crowd.last.clntAddr) Crowd.last.fd = false := by
    rw [Cache.findConnectedUserWithSameCred, List.any_eq_false]
    intro u hu hd
    obtain ⟨-, hadmin, hfd⟩ := of_decide_eq_true hd
    obtain ⟨hbob, _⟩ | ⟨_, hfour⟩ := (h.session u hu).2
    · rw [hbob] at hadmin
      exact absurd (hname.symm.trans hadmin) (by decide)
    · rw [hfour] at hfd
      exact absurd hfd (by decide)
  have hcall : insertCall ((Life.run [.start true Client.firstEnv]).run
      (Crowd.requests 254)).state Crowd.last = some maxClients := by
    rw [insertCall, ht]
    dsimp only
    rw [if_pos (Or.inr hsame), ← Cache.length_live, h.length_eq]
  exact ⟨by decide +kernel, h.running, hcall, fun hin => absurd (hin _ hcall) (lt_irrefl _)⟩

end ChatServer
