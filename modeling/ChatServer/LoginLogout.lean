import ChatServer.Invariant.Accounts
import ChatServer.Invariant.Identity
import ChatServer.Machine.Runs

/-!
# Logging out undoes logging in

A login finds the account through the login token and appends a session, a logout finds it through
the display name and removes the first session with the name. With other users coming and going in
between, the two still cancel: what a user's login wrote is what the logout takes back.
-/

namespace ChatServer

open CLib

/-- Every string matches itself. -/
theorem compareStrings_self (s : Str) : compareStrings s s = true :=
  (compareStrings_iff s s).mpr rfl

/-- A request to log in or out. -/
def IsSessionRequest (r : Request) : Prop :=
  (r.fieldsFor .login).isSome ∨ (r.fieldsFor .logout).isSome

/-- A request to log in or out that names neither the token nor the display name. -/
def NamesOther (token displayName : Name) (r : Request) : Prop :=
  (∃ (t : Name) (rest : List Str), r.fieldsFor .login = some (t.str :: rest) ∧ t ≠ token) ∨
    ∃ (d : Name) (rest : List Str), r.fieldsFor .logout = some (d.str :: rest) ∧ d ≠ displayName

theorem NamesOther.isSessionRequest {t d : Name} {r : Request} (h : NamesOther t d r) :
    IsSessionRequest r := by
  obtain ⟨_, _, hf, _⟩ | ⟨_, _, hf, _⟩ := h
  · exact Or.inl (by rw [hf]; rfl)
  · exact Or.inr (by rw [hf]; rfl)

theorem IsSessionRequest.other_none {r : Request} (h : IsSessionRequest r) {k : RequestKind}
    (hin : k ≠ .login) (hout : k ≠ .logout) : r.fieldsFor k = none := by
  cases hf : r.fieldsFor k with
  | none => rfl
  | some fs =>
    obtain hs | hs := h
    · obtain ⟨gs, hg⟩ := Option.isSome_iff_exists.mp hs
      exact absurd (fieldsFor_unique hf hg) hin
    · obtain ⟨gs, hg⟩ := Option.isSome_iff_exists.mp hs
      exact absurd (fieldsFor_unique hf hg) hout

/-- Logging in and out writes accounts and sessions only. -/
theorem IsSessionRequest.frame {s s' : State} {r : Request} {b : Bool} (h : IsSessionRequest r)
    (he : Effect s r s' b) :
    s' = { s with userAccountInfo := s'.userAccountInfo, activeUsers := s'.activeUsers } := by
  cases he with
  | createUser ht => simp [createUserTarget, h.other_none] at ht
  | destroyUser ht => simp [destroyTarget, h.other_none] at ht
  | createChannel ht => simp [createChannelTarget, h.other_none] at ht
  | updateChannel ht => simp [updateTarget, h.other_none] at ht
  | createMessage ht => simp [createMessageTarget, h.other_none] at ht
  | _ => rfl

/-- The sessions of the list are those of other users and one with the name `d`. -/
def OneSession (d : Name) (live : List ConnectedUser) : Prop :=
  ∃ l₁ u l₂, live = l₁ ++ u :: l₂ ∧ u.dsplyName = d ∧ ∀ x ∈ l₁ ++ l₂, x.dsplyName ≠ d

namespace OneSession

variable {d : Name} {live : List ConnectedUser}

theorem append_other (h : OneSession d live) {u : ConnectedUser} (hu : u.dsplyName ≠ d) :
    OneSession d (live ++ [u]) := by
  obtain ⟨l₁, v, l₂, rfl, hv, hother⟩ := h
  refine ⟨l₁, v, l₂ ++ [u], by simp, hv, fun x hx => ?_⟩
  rw [← List.append_assoc, List.mem_append, List.mem_singleton] at hx
  obtain hx | rfl := hx
  · exact hother x hx
  · exact hu

theorem erase_other (h : OneSession d live) {d' : Name} (hd : d' ≠ d) :
    OneSession d (live.eraseP fun u => u.dsplyName = d') := by
  obtain ⟨l₁, v, l₂, rfl, hv, hother⟩ := h
  have hkeep : ¬ (decide (v.dsplyName = d') = true) := by
    rw [hv, decide_eq_true_eq]
    exact Ne.symm hd
  rw [List.eraseP_append]
  split
  · refine ⟨_, v, l₂, rfl, hv, fun x hx => hother x ?_⟩
    obtain hx | hx := List.mem_append.mp hx
    · exact List.mem_append_left _ (List.mem_of_mem_eraseP hx)
    · exact List.mem_append_right _ hx
  · have hcons : (v :: l₂).eraseP (fun u => u.dsplyName = d') =
        v :: l₂.eraseP (fun u => u.dsplyName = d') := List.eraseP_cons_of_neg hkeep
    rw [hcons]
    refine ⟨l₁, v, _, rfl, hv, fun x hx => hother x ?_⟩
    obtain hx | hx := List.mem_append.mp hx
    · exact List.mem_append_left _ hx
    · exact List.mem_append_right _ (List.mem_of_mem_eraseP hx)

/-- The session with the name is the one that is removed. -/
theorem erase_self {l₁ l₂ : List ConnectedUser} {u : ConnectedUser} (hu : u.dsplyName = d)
    (hother : ∀ x ∈ l₁ ++ l₂, x.dsplyName ≠ d) :
    (l₁ ++ u :: l₂).eraseP (fun u => u.dsplyName = d) = l₁ ++ l₂ := by
  have hno : ∀ x ∈ l₁, ¬ (decide (x.dsplyName = d) = true) := by
    intro x hx
    rw [decide_eq_true_eq]
    exact hother x (List.mem_append_left _ hx)
  rw [List.eraseP_append_right _ hno, List.eraseP_cons_of_pos (by simpa using hu)]

end OneSession

/-- The time between the login and the logout of a user: `s₀` is the state before the login and `b`
the account while the user is logged in. -/
structure Meanwhile (s₀ : State) (b : UserAccount) (s : State) : Prop where
  keyed : KeyedState s
  logins : s.userLoginInfo = s₀.userLoginInfo
  names : s.displayNames = s₀.displayNames
  accounts : ∀ k c, s.userAccountInfo.lookup k = some c →
    ∃ c₀, s₀.userAccountInfo.lookup k = some c₀ ∧ c.displayName = c₀.displayName
  account : s.userAccountInfo.lookup b.userId = some b
  session : OneSession b.displayName s.activeUsers.live

namespace Meanwhile

variable {s₀ s : State} {b : UserAccount}

/-- Another account is rewritten, and the sessions become those of the cache `c`. -/
theorem rewrite (h : Meanwhile s₀ b s) {x x' : UserAccount} {c : Cache}
    (hx : s.userAccountInfo.lookup x.userId = some x) (hid : x'.userId = x.userId)
    (hname : x'.displayName = x.displayName) (hne : x.userId ≠ b.userId)
    (hc : OneSession b.displayName c.live) :
    Meanwhile s₀ b { s.insertUserAccount x' with activeUsers := c } := by
  have hkeyed : KeyedState (s.insertUserAccount x') := by
    refine h.keyed.insertUserAccount ?_
    rw [hname]
    exact h.keyed.named _ x hx
  refine ⟨⟨hkeyed.logins, hkeyed.accounts, hkeyed.channels, hkeyed.named⟩, h.logins, h.names, ?_,
    ?_, hc⟩
  · intro k y hy
    obtain hy | ⟨rfl, rfl⟩ := Dbm.lookup_of_insert hy
    · exact h.accounts k y hy
    · rw [hname, hid]
      exact h.accounts _ x hx
  · refine Dbm.lookup_insert_iff.mpr (Or.inr ⟨?_, h.account⟩)
    rw [hid]
    exact Ne.symm hne

/-- The accounts that other names lead to are other accounts, with other names. -/
structure Other (b x : UserAccount) : Prop where
  id : x.userId ≠ b.userId
  name : x.displayName ≠ b.displayName

section Consistent

variable {a : UserAccount} {l : UserLogin} {t : Name} (hk : KeyedState s₀)
  (hid : IdentityConsistent s₀) (hl : s₀.userLoginInfo.lookup t = some l)
  (ha : s₀.userAccountInfo.lookup l.uuid = some a) (hb : b.userId = a.userId)
  (hbname : b.displayName = a.displayName)
include hk hid ha hb hbname

include hl in
theorem other_of_login (h : Meanwhile s₀ b s) {r : Request} {l' : UserLogin} {x : UserAccount}
    (ht : loginTarget s r = some (l', x)) {t' : Name} {rest : List Str}
    (hr : r.fieldsFor .login = some (t'.str :: rest)) (hne : t' ≠ t) : Other b x := by
  obtain ⟨t'', _, hr', hl', hx⟩ := loginTarget_fields ht
  rw [hr, Option.some.injEq, List.cons.injEq] at hr'
  obtain rfl : t' = t'' := CharArray.ext hr'.1
  rw [h.logins] at hl'
  have huuid : l'.uuid ≠ l.uuid := fun he => hne (hid.login_unique t' t l' l hl' hl he)
  have hxid := h.keyed.accounts _ x hx
  have haid := hk.accounts _ a ha
  obtain ⟨x₀, hx₀, hname⟩ := h.accounts _ x hx
  constructor
  · rw [hxid, hb, haid]
    exact huuid
  · intro he
    -- one display name leads to one uuid
    have h₁ := hid.account_name _ x₀ hx₀
    have h₂ := hid.account_name _ a ha
    rw [← hname, he, hbname, h₂, hk.accounts _ x₀ hx₀, haid] at h₁
    exact huuid (Option.some.inj h₁).symm

theorem other_of_logout (h : Meanwhile s₀ b s) {r : Request} {x : UserAccount}
    (ht : logoutTarget s r = some x) {d : Name} {rest : List Str}
    (hr : r.fieldsFor .logout = some (d.str :: rest)) (hne : d ≠ b.displayName) : Other b x := by
  obtain ⟨d', u, _, hr', hu, hx, _⟩ := logoutTarget_fields ht
  rw [hr, Option.some.injEq, List.cons.injEq] at hr'
  obtain rfl : d = d' := CharArray.ext hr'.1
  rw [h.names] at hu
  obtain ⟨y, hy, _, hyname⟩ := hid.name_account d u hu
  obtain ⟨x₀, hx₀, hname⟩ := h.accounts u x hx
  rw [hy] at hx₀
  cases hx₀
  have hxname : x.displayName = d := hname.trans hyname
  refine ⟨fun he => ?_, by rw [hxname]; exact hne⟩
  -- the account under the uuid of `b` has the name of `b`
  rw [h.keyed.accounts u x hx, hb, hk.accounts _ a ha] at he
  rw [he, ha] at hy
  cases hy
  exact hne (hyname.symm.trans hbname.symm)

include hl in
theorem step (h : Meanwhile s₀ b s) {r : Request} {s' : State}
    (hr : NamesOther t b.displayName r) (he : Effect s r s' true) : Meanwhile s₀ b s' := by
  have hlogin : ∀ l' x, loginTarget s r = some (l', x) → Other b x := by
    intro l' x ht
    obtain ⟨t', rest, hf, hne⟩ | ⟨d, rest, hf, _⟩ := hr
    · exact h.other_of_login hk hid hl ha hb hbname ht hf hne
    · obtain ⟨_, _, hf', _⟩ := loginTarget_fields ht
      cases fieldsFor_unique hf hf'
  have hlogout : ∀ x, logoutTarget s r = some x → Other b x := by
    intro x ht
    obtain ⟨t', rest, hf, _⟩ | ⟨d, rest, hf, hne⟩ := hr
    · obtain ⟨_, _, _, hf', _⟩ := logoutTarget_fields ht
      cases fieldsFor_unique hf hf'
    · exact h.other_of_logout hk hid ha hb hbname ht hf hne
  have hsess := hr.isSessionRequest
  cases he with
  | unchanged => exact h
  | createUser ht => simp [createUserTarget, hsess.other_none] at ht
  | destroyUser ht => simp [destroyTarget, hsess.other_none] at ht
  | createChannel ht => simp [createChannelTarget, hsess.other_none] at ht
  | updateChannel ht => simp [updateTarget, hsess.other_none] at ht
  | createMessage ht => simp [createMessageTarget, hsess.other_none] at ht
  | restart ht =>
    exact h.rewrite (h.keyed.account_of_login ht) rfl rfl (hlogin _ _ ht).id h.session
  | openSession ht _ _ hc =>
    refine h.rewrite (h.keyed.account_of_login ht) rfl rfl (hlogin _ _ ht).id ?_
    rw [h.keyed.live_of_login hc ht rfl]
    exact h.session.append_other (hlogin _ _ ht).name
  | logout ht =>
    refine h.rewrite (h.keyed.account_of_logout ht) rfl rfl (hlogout _ ht).id ?_
    rw [Cache.live_removeUserInCache]
    exact h.session.erase_other (hlogout _ ht).name

end Consistent

end Meanwhile

section Calls

variable {s : State} {r : Request}

/-- A login that finds no session of its own and a free slot opens one, and returns. -/
theorem call_of_login {l : UserLogin} {a : UserAccount} {c : Cache}
    (h : loginTarget s r = some (l, a))
    (helse : loggedInElsewhere s.activeUsers a r.clntAddr = false)
    (hsame : s.activeUsers.findConnectedUserWithSameCred (loginUserAccount a r.clntAddr) r.fd =
      false)
    (hc : s.activeUsers.insertUserInCache r.fd (loginUserAccount a r.clntAddr) l = some c) :
    (handleRequest s r).returned = true ∧ (handleRequest s r).state =
      { s.insertUserAccount (loginUserAccount a r.clntAddr) with activeUsers := c } := by
  obtain ⟨header, rest, t, hd, hlen, hrun⟩ := runHandler_login h
  rw [handleRequest, hd]
  dsimp only
  rw [serve, if_neg (Nat.not_lt.mpr hlen), hrun]
  simp only [loginAccount, helse, openSession, State.insertUserAccount_activeUsers, hsame, hc,
    Bool.false_eq_true, if_false]
  exact ⟨rfl, rfl⟩

/-- A login that meets no session of its name opens one, if it returns. -/
theorem state_of_login {l : UserLogin} {a : UserAccount} (h : loginTarget s r = some (l, a))
    (hno : ∀ u ∈ s.activeUsers.live, u.dsplyName ≠ a.displayName)
    (hret : (handleRequest s r).returned = true) :
    ∃ c, s.activeUsers.insertUserInCache r.fd (loginUserAccount a r.clntAddr) l = some c ∧
      (handleRequest s r).state =
        { s.insertUserAccount (loginUserAccount a r.clntAddr) with activeUsers := c } := by
  have helse : loggedInElsewhere s.activeUsers a r.clntAddr = false := by
    rw [loggedInElsewhere, List.any_eq_false]
    intro u hu
    simp [hno u hu]
  have hsame : s.activeUsers.findConnectedUserWithSameCred (loginUserAccount a r.clntAddr) r.fd =
      false := by
    rw [Cache.findConnectedUserWithSameCred, List.any_eq_false]
    intro u hu
    simp [loginUserAccount, Ne.symm (hno u hu)]
  cases hc : s.activeUsers.insertUserInCache r.fd (loginUserAccount a r.clntAddr) l with
  | none =>
    -- without room the process faults, and the call does not return
    obtain ⟨header, rest, t, hd, hlen, hrun⟩ := runHandler_login h
    rw [handleRequest, hd] at hret
    simp only [serve, if_neg (Nat.not_lt.mpr hlen), hrun, loginAccount, helse, openSession,
      State.insertUserAccount_activeUsers, hsame, hc, Bool.false_eq_true, if_false] at hret
    cases hret
  | some c => exact ⟨c, rfl, (call_of_login h helse hsame hc).2⟩

/-- A logout that is not refused is answered with 200, and removes the session. -/
theorem call_of_logout {b : UserAccount} (h : logoutTarget s r = some b) :
    (handleRequest s r).ret = .ok 0 ∧
      (∃ header, (handleRequest s r).sent =
        [⟨r.fd, false, header, status "200" "" ++ b.displayName.str⟩]) ∧
      (handleRequest s r).state = { s.insertUserAccount (logoutUserAccount b) with
        activeUsers := s.activeUsers.removeUserInCache b.displayName } := by
  obtain ⟨header, rest, hd, hlen, hrun⟩ := runHandler_logout h
  rw [handleRequest_of_reply hd hlen (congrArg Outcome.value hrun), hrun]
  exact ⟨rfl, ⟨_, rfl⟩, rfl⟩

/-- The stored credentials are the right ones. -/
theorem loginTarget_of_stored {t : Name} {l : UserLogin} {a : UserAccount}
    (hl : s.userLoginInfo.lookup t = some l) (hkey : l.loginToken = t)
    (ha : s.userAccountInfo.lookup l.uuid = some a) {rest : List Str}
    (hr : r.fieldsFor .login = some (t.str :: l.password.str :: rest)) :
    loginTarget s r = some (l, a) := by
  have h₁ : field? tokenNameLength (t.str :: l.password.str :: rest) =
      some (t, l.password.str :: rest) := field?_eq (nextField_eq_ok.mpr rfl)
  have h₂ : field? pswdMaxLength (l.password.str :: rest) = some (l.password, rest) :=
    field?_eq (nextField_eq_ok.mpr rfl)
  simp only [loginTarget, hr, bind, Option.bind, h₁, h₂, State.getLoginInfo, hl,
    State.getUserAccount, ha, hkey, compareStrings_self, and_self, if_true]

theorem logoutTarget_of_online {u : Uuid} {b : UserAccount}
    (hu : s.displayNames.lookup b.displayName = some u)
    (hb : s.userAccountInfo.lookup u = some b)
    (hpriv : b.privilegeLevel = 0 ∨ b.privilegeLevel = 1) (haddr : b.ipAddr = r.clntAddr)
    (hon : b.onlineStatus = true) {rest : List Str}
    (hr : r.fieldsFor .logout = some (b.displayName.str :: rest)) :
    logoutTarget s r = some b := by
  have h₁ : field? tokenNameLength (b.displayName.str :: rest) = some (b.displayName, rest) :=
    field?_eq (nextField_eq_ok.mpr rfl)
  have hrefused : logoutRefused b r.clntAddr = .ok none := by
    rw [logoutRefused, if_neg (fun h => h.2 haddr), if_pos hpriv, if_neg (by simp [hon])]
  simp only [logoutTarget, hr, bind, Option.bind, h₁, State.getUuidWithDisplayName, hu,
    State.getUserAccount, hb, hrefused, if_true]

end Calls

theorem AccountShape.privilege_of_login {k : Uuid} {a : UserAccount} (h : AccountShape k a)
    (addr : IpAddr) : (loginUserAccount a addr).privilegeLevel = 0 ∨
      (loginUserAccount a addr).privilegeLevel = 1 := by
  simp only [loginUserAccount, h.privilege]
  split
  · exact Or.inr rfl
  · exact Or.inl rfl

/-- What a login wrote into an account that was offline, the logout takes back. -/
theorem logoutUserAccount_loginUserAccount {k : Uuid} {a : UserAccount} (h : AccountShape k a)
    (hoff : a.onlineStatus = false) (addr : IpAddr) :
    logoutUserAccount (loginUserAccount a addr) = a := by
  obtain ⟨userId, displayName, ipAddr, onlineStatus, privilegeLevel⟩ := a
  have hip : ipAddr = noAddress := h.address.mpr hoff
  have hpriv : privilegeLevel = if displayName = adminName then 1 else 0 := h.privilege
  subst hip hpriv hoff
  simp only [logoutUserAccount, loginUserAccount, UserAccount.mk.injEq, true_and]
  refine ⟨rfl, ?_⟩
  split <;> rfl

/-- The databases that logging in and out do not touch. -/
structure SameRegistry (s₀ s : State) : Prop where
  logins : s.userLoginInfo = s₀.userLoginInfo
  names : s.displayNames = s₀.displayNames
  channels : s.channelInfo = s₀.channelInfo

/-- The state right after the login of a user who had no session. -/
theorem meanwhile_login {s : State} {r : Request} {l : UserLogin} {a : UserAccount}
    (hk : KeyedState s) (ht : loginTarget s r = some (l, a))
    (hno : ∀ u ∈ s.activeUsers.live, u.dsplyName ≠ a.displayName)
    (hret : (handleRequest s r).returned = true) :
    Meanwhile s (loginUserAccount a r.clntAddr) (handleRequest s r).state := by
  have hkeyed := hk.effect (handleRequest_effect s r)
  obtain ⟨c, hc, hstate⟩ := state_of_login ht hno hret
  have hlive := hk.live_of_login hc ht rfl
  have ha := hk.account_of_login ht
  rw [hstate] at hkeyed ⊢
  refine ⟨hkeyed, rfl, rfl, ?_, AList.lookup_insert _, ?_⟩
  · intro k x hx
    obtain hx | ⟨rfl, rfl⟩ := Dbm.lookup_of_insert hx
    · exact ⟨x, hx, rfl⟩
    · exact ⟨a, ha, rfl⟩
  · refine ⟨s.activeUsers.live, _, [], hlive, rfl, fun x hx => ?_⟩
    rw [List.append_nil] at hx
    exact hno x hx

/-- A server that stopped stays as it is. -/
theorem run_stopped {v : Server} (h : v.running = false) (rs : List Request) : v.run rs = v := by
  induction rs with
  | nil => rfl
  | cons r rs ih =>
    show (v.step r).run rs = v
    rw [Server.step_stopped r h]
    exact ih

theorem running_of_run {v : Server} {rs : List Request} (h : (v.run rs).running = true) :
    v.running = true := by
  cases hv : v.running with
  | true => rfl
  | false =>
    rw [run_stopped hv, hv] at h
    cases h

/-- The login of a user without a session, and what others do behind it. -/
theorem meanwhile_run {v : Server} {t : Name} {l : UserLogin} {a : UserAccount} {r : Request}
    {rs : List Request} (hk : KeyedState v.state) (hid : IdentityConsistent v.state)
    (hl : v.state.userLoginInfo.lookup t = some l)
    (ha : v.state.userAccountInfo.lookup l.uuid = some a) (ht : loginTarget v.state r = some (l, a))
    (hno : ∀ u ∈ v.state.activeUsers.live, u.dsplyName ≠ a.displayName)
    (hrs : ∀ r ∈ rs, NamesOther t a.displayName r)
    (hanswered : (v.run (r :: rs)).running = true) :
    Meanwhile v.state (loginUserAccount a r.clntAddr) (v.run (r :: rs)).state := by
  have hstep := Server.step_running r (running_of_run hanswered)
  have hret : (handleRequest v.state r).returned = true := by
    have hone : (v.step r).running = true := running_of_run hanswered
    rw [hstep] at hone
    exact hone
  have hin := meanwhile_login hk ht hno hret
  change Meanwhile _ _ ((v.step r).run rs).state
  refine Server.invariant_running (C := fun _ r => NamesOther t a.displayName r) ?_ ?_
    (Server.along_of_forall hrs _) hanswered
  · intro s r' s' hs hr he
    exact Meanwhile.step (b := loginUserAccount a r.clntAddr) hk hid hl ha rfl rfl hs hr he
  · rw [hstep]
    exact hin

/-- The handlers that read arrays, in every state of every life with consistent identity databases:
a user who is offline and has no session logs in with the stored credentials, others log in and out,
and the user logs out from the same address. The logout is answered with 200, the account is what it
was before the login, and of the sessions before the logout exactly the user's one is gone. -/
theorem handleRequest_undoes_login (es : List LifeEvent)
    (h : Life.Along AccountEvent Life.initial es)
    (hid : IdentityConsistent (Life.run es).state) (t : Name) (l : UserLogin) (a : UserAccount)
    (hl : (Life.run es).state.userLoginInfo.lookup t = some l)
    (ha : (Life.run es).state.userAccountInfo.lookup l.uuid = some a)
    (hoff : a.onlineStatus = false)
    (hno : ∀ u ∈ (Life.run es).state.activeUsers.live, u.dsplyName ≠ a.displayName)
    (r₁ r₂ : Request) (rs : List Request)
    (hr₁ : ∃ rest, r₁.fieldsFor .login = some (t.str :: l.password.str :: rest))
    (hrs : ∀ r ∈ rs, NamesOther t a.displayName r)
    (hr₂ : ∃ rest, r₂.fieldsFor .logout = some (a.displayName.str :: rest))
    (haddr : r₂.clntAddr = r₁.clntAddr)
    (hanswered : ((Life.run es).run (r₁ :: rs)).running = true) :
    ((handleRequest ((Life.run es).run (r₁ :: rs)).state r₂).ret = .ok 0 ∧
      ∃ header, (handleRequest ((Life.run es).run (r₁ :: rs)).state r₂).sent =
        [⟨r₂.fd, false, header, status "200" "" ++ a.displayName.str⟩]) ∧
    (handleRequest ((Life.run es).run (r₁ :: rs)).state r₂).state.userAccountInfo.lookup l.uuid =
      some a ∧
    ∃ l₁ u l₂, ((Life.run es).run (r₁ :: rs)).state.activeUsers.live = l₁ ++ u :: l₂ ∧
      u.dsplyName = a.displayName ∧ (∀ x ∈ l₁ ++ l₂, x.dsplyName ≠ a.displayName) ∧
      (handleRequest ((Life.run es).run (r₁ :: rs)).state r₂).state.activeUsers.live =
        l₁ ++ l₂ := by
  obtain ⟨hk, hshaped⟩ := accountsShaped_life h
  obtain ⟨rest₁, hr₁⟩ := hr₁
  obtain ⟨rest₂, hr₂⟩ := hr₂
  have hshape := hshaped.shape _ a ha
  have ht := loginTarget_of_stored hl (hk.logins t l hl) ha hr₁
  have hmid := meanwhile_run hk hid hl ha ht hno hrs hanswered
  have hname : ((Life.run es).run (r₁ :: rs)).state.displayNames.lookup a.displayName =
      some a.userId := by
    rw [hmid.names]
    exact hid.account_name _ a ha
  have hpriv := hshape.privilege_of_login r₁.clntAddr
  have hout : logoutTarget ((Life.run es).run (r₁ :: rs)).state r₂ =
      some (loginUserAccount a r₁.clntAddr) :=
    logoutTarget_of_online hname hmid.account hpriv haddr.symm rfl hr₂
  obtain ⟨hok, hsent, hstate⟩ := call_of_logout hout
  refine ⟨⟨hok, hsent⟩, ?_, ?_⟩
  · rw [hstate, logoutUserAccount_loginUserAccount hshape hoff, ← hshape.id]
    exact AList.lookup_insert _
  · obtain ⟨l₁, u, l₂, hlive, hu, hother⟩ := hmid.session
    refine ⟨l₁, u, l₂, hlive, hu, hother, ?_⟩
    rw [hstate]
    change (Cache.removeUserInCache _ _).live = _
    rw [Cache.live_removeUserInCache, hlive]
    exact OneSession.erase_self hu hother

/-- On machines with one allocator, in every state of every life with consistent identity databases,
all strings ending in their arrays: a user who is offline and has no session logs in with the stored
credentials, others log in and out, and the user logs out from the same address. The logout is
answered with 200, the account is what it was before the login, the registry does not change at any
time, and of the sessions before the logout exactly the user's one is gone. -/
theorem logout_undoes_login (es : List LifeEvent) (h : Life.Along AccountEvent Life.initial es)
    (hes : ∀ e ∈ es, e.Ends) (hid : IdentityConsistent (Life.run es).state) (t : Name)
    (l : UserLogin) (a : UserAccount)
    (hl : (Life.run es).state.userLoginInfo.lookup t = some l)
    (ha : (Life.run es).state.userAccountInfo.lookup l.uuid = some a)
    (hoff : a.onlineStatus = false)
    (hno : ∀ u ∈ (Life.run es).state.activeUsers.live, u.dsplyName ≠ a.displayName)
    (x₁ x₂ : Machine × Request) (xs : List (Machine × Request))
    (hends : ∀ x ∈ x₁ :: xs ++ [x₂], x.2.Ends) (halloc : x₂.1.usable = x₁.1.usable)
    (hr₁ : ∃ rest, x₁.2.fieldsFor .login = some (t.str :: l.password.str :: rest))
    (hrs : ∀ x ∈ xs, NamesOther t a.displayName x.2)
    (hr₂ : ∃ rest, x₂.2.fieldsFor .logout = some (a.displayName.str :: rest))
    (haddr : x₂.2.clntAddr = x₁.2.clntAddr)
    (hanswered : (Machine.run (Life.run es) (x₁ :: xs)).running = true) :
    ((x₂.1.handleRequest (Machine.run (Life.run es) (x₁ :: xs)).state x₂.2).ret = .ok 0 ∧
      ∃ header, (x₂.1.handleRequest (Machine.run (Life.run es) (x₁ :: xs)).state x₂.2).sent =
        [⟨x₂.2.fd, false, header, status "200" "" ++ a.displayName.str⟩]) ∧
    (x₂.1.handleRequest (Machine.run (Life.run es) (x₁ :: xs)).state
      x₂.2).state.userAccountInfo.lookup l.uuid = some a ∧
    (∀ n, SameRegistry (Life.run es).state
      (Machine.run (Life.run es) ((x₁ :: xs ++ [x₂]).take n)).state) ∧
    ∃ l₁ u l₂, (Machine.run (Life.run es) (x₁ :: xs)).state.activeUsers.live = l₁ ++ u :: l₂ ∧
      u.dsplyName = a.displayName ∧ (∀ x ∈ l₁ ++ l₂, x.dsplyName ≠ a.displayName) ∧
      (x₂.1.handleRequest (Machine.run (Life.run es) (x₁ :: xs)).state
        x₂.2).state.activeUsers.live = l₁ ++ l₂ := by
  have hk := Life.keyed_run es
  have hs := cStrings_run hes
  obtain ⟨rest₁, hr₁⟩ := hr₁
  have hends₁ : ∀ x ∈ x₁ :: xs, x.2.Ends := fun x hx => hends x (List.mem_append_left _ hx)
  have hrun := Machine.run_eq_of_running hk hs hends₁ hanswered
  obtain ⟨_, hs', _⟩ := Machine.invariant (I := fun _ => True) (C := fun _ _ => True) hk hs trivial
    (fun _ _ _ _ _ _ _ _ _ => trivial)
    (Run.along_of_forall (fun _ x hx _ => ⟨hends₁ x hx, trivial⟩) _)
  -- the login was answered, so the allocator has the room that the logout needs
  have hroom : x₂.1.Roomy := by
    have ht := loginTarget_of_stored hl (hk.logins t l hl) ha hr₁
    have hret : (x₁.1.call (Life.run es).state x₁.2).returned = true := by
      have hone : (Machine.step (Life.run es) x₁).running = true := Machine.running_of_run hanswered
      rw [Machine.step_running x₁ (Machine.running_of_run hanswered)] at hone
      exact hone
    have hlogin : x₁.1.Roomy := Machine.roomy_of_returned hs (hends₁ x₁ List.mem_cons_self)
      (by rw [Machine.fetchedBy_of_login ht]; simp) hret
    rw [Machine.Roomy, halloc]
    exact hlogin
  have hcall := x₂.1.handleRequest_eq hs' (hends x₂ (by simp)) (Or.inl hroom)
  have hplain := handleRequest_undoes_login es h hid t l a hl ha hoff hno x₁.2 x₂.2
    (xs.map (·.2)) ⟨rest₁, hr₁⟩ (fun r hr => by
      obtain ⟨x, hx, rfl⟩ := List.mem_map.mp hr
      exact hrs x hx) hr₂ haddr (by
        rw [hrun] at hanswered
        exact hanswered)
  rw [hcall, hrun]
  obtain ⟨hret, haccount, hlive⟩ := hplain
  refine ⟨hret, haccount, fun n => ?_, hlive⟩
  obtain ⟨rest₂, hr₂⟩ := hr₂
  refine (Machine.invariant (I := SameRegistry (Life.run es).state)
    (C := fun _ x => IsSessionRequest x.2) hk hs ⟨rfl, rfl, rfl⟩ ?_
    (Run.along_of_forall (fun _ x hx _ => ⟨hends x (List.mem_of_mem_take hx), ?_⟩) _)).2.2
  · intro s x s' b _ _ hsame hx he
    rw [hx.frame he]
    exact ⟨hsame.logins, hsame.names, hsame.channels⟩
  · obtain hx | hx := List.mem_append.mp (List.mem_of_mem_take hx)
    · obtain rfl | hx := List.mem_cons.mp hx
      · exact Or.inl (by rw [hr₁]; rfl)
      · exact (hrs x hx).isSessionRequest
    · rw [List.mem_singleton.mp hx]
      exact Or.inr (by rw [hr₂]; rfl)

/-- A user is registered, and the administrator is online. -/
def quietRun : List Request :=
  [Client.createUser 5 "10.0.0.1" "bobt" "bob" "pw" "22222222-2222-2222-2222-222222222222",
    Client.login 6 "10.0.0.2" "admin" "admin"]

def quietLife : List LifeEvent := .start true Client.firstEnv :: quietRun.map .request

theorem identityConsistent_quietLife : IdentityConsistent (Life.run quietLife).state := by
  have halong : Server.Along (fun s r => FreshUuid s r ∧ RemovesOwnName s r) Client.start
      quietRun := by decide +kernel
  obtain ⟨hk, hlinked⟩ := Server.invariant_keyed
    (fun _ _ _ _ hk hs hc he => Linked.effect hk hs hc.1 hc.2 he) (linked_startUp _) halong
  exact hlinked.consistent hk

/-- Bob logs in, the administrator goes and comes back, and Bob logs out. -/
theorem logout_undoes_login_quietLife :
    (Client.machine.handleRequest (Machine.run (Life.run quietLife) (Client.on Client.machine
      [Client.login 5 "10.0.0.1" "bobt" "pw", Client.logout 6 "10.0.0.2" "admin",
        Client.login 7 "10.0.0.3" "admin" "admin"])).state
      (Client.logout 5 "10.0.0.1" "bob")).state.userAccountInfo.lookup
        (Client.uuid "22222222-2222-2222-2222-222222222222") =
      some (generateUserAccount (Client.uuid "22222222-2222-2222-2222-222222222222")
        (CharArray.strncpy _ (ascii "bob"))) := by
  refine (logout_undoes_login quietLife (by decide +kernel) (by decide +kernel)
    identityConsistent_quietLife (CharArray.strncpy _ (ascii "bobt"))
    (generateUserLogin (CharArray.strncpy _ (ascii "bobt")) (CharArray.strncpy _ (ascii "pw"))
      (Client.uuid "22222222-2222-2222-2222-222222222222"))
    (generateUserAccount (Client.uuid "22222222-2222-2222-2222-222222222222")
      (CharArray.strncpy _ (ascii "bob")))
    (by decide +kernel) (by decide +kernel) rfl (by decide +kernel)
    (Client.machine, Client.login 5 "10.0.0.1" "bobt" "pw")
    (Client.machine, Client.logout 5 "10.0.0.1" "bob")
    (Client.on Client.machine
      [Client.logout 6 "10.0.0.2" "admin", Client.login 7 "10.0.0.3" "admin" "admin"])
    (by decide +kernel) rfl ⟨[], by decide +kernel⟩ ?_ ⟨[], by decide +kernel⟩ rfl
    (by decide +kernel)).2.1
  intro x hx
  rw [Client.on, List.map_cons, List.map_cons, List.map_nil, List.mem_cons, List.mem_singleton]
    at hx
  obtain rfl | rfl := hx
  · exact Or.inr ⟨adminName, [], by decide +kernel, by decide⟩
  · exact Or.inl ⟨adminName, [ascii "admin"], by decide +kernel, by decide⟩

/-- A user whose display name fills its array registers. -/
def longNameLife : List LifeEvent :=
  [.start true Client.firstEnv,
    .request (Client.createUser 5 "10.0.0.1" "longt" "abcdefghijklmnopqrstu" "pw"
      "22222222-2222-2222-2222-222222222222")]

theorem identityConsistent_longNameLife : IdentityConsistent (Life.run longNameLife).state := by
  have halong : Server.Along (fun s r => FreshUuid s r ∧ RemovesOwnName s r) Client.start
      [Client.createUser 5 "10.0.0.1" "longt" "abcdefghijklmnopqrstu" "pw"
        "22222222-2222-2222-2222-222222222222"] := by decide +kernel
  obtain ⟨hk, hlinked⟩ := Server.invariant_keyed
    (fun _ _ _ _ hk hs hc he => Linked.effect hk hs hc.1 hc.2 he) (linked_startUp _) halong
  exact hlinked.consistent hk

/-- The user of `longNameLife` after a login with the stored credentials. -/
def longNameSession : Server :=
  Machine.run (Life.run longNameLife)
    (Client.on Client.machine [Client.login 5 "10.0.0.1" "longt" "pw"])

/-- The user is offline and has no session, logs in, and the next logout is answered with success,
but the session is still there: it is read on into its address, which is not the one that the account
has by then. -/
theorem logout_leaves_session :
    IdentityConsistent (Life.run longNameLife).state ∧
      ((Life.run longNameLife).state.userAccountInfo.lookup
        (Client.uuid "22222222-2222-2222-2222-222222222222")).map
          (fun a => (a.displayName.str, a.onlineStatus)) =
        some (ascii "abcdefghijklmnopqrstu", false) ∧
      (Life.run longNameLife).state.activeUsers.live = [] ∧
      longNameSession.running = true ∧
      longNameSession.state.activeUsers.live.map (·.dsplyName.str) =
        [ascii "abcdefghijklmnopqrstu"] ∧
      (Client.machine.handleRequest longNameSession.state
        (Client.logout 5 "10.0.0.1" "abcdefghijklmnopqrstu")).ret = .ok 0 ∧
      (Client.machine.handleRequest longNameSession.state
        (Client.logout 5 "10.0.0.1" "abcdefghijklmnopqrstu")).state.activeUsers.live.map
          (·.dsplyName.str) = [ascii "abcdefghijklmnopqrstu"] :=
  ⟨identityConsistent_longNameLife, by decide +kernel⟩

end ChatServer
