import ChatServer.LoginLogout
import ChatServer.LoginRequests
import ChatServer.Malformed
import ChatServer.UserRequests

/-!
# How long credentials last

No request changes a password, and a login record is removed by a request to destroy a user only.
From the moment in which a user is created, the login token and the password open its account, in
this process and in all that follow, until the token is named in an accepted request of that kind.
-/

namespace ChatServer

open CLib

/-- The user that was created with token `t`, display name `d`, password `p` and uuid `u` is still
there, and no other login record leads to its account. -/
structure Registered (t d : Name) (p : Password) (u : Uuid) (s : State) : Prop where
  login : s.userLoginInfo.lookup t = some (generateUserLogin t p u)
  sole : ∀ k l, s.userLoginInfo.lookup k = some l → l.uuid = u → k = t
  account : ∃ a, s.userAccountInfo.lookup u = some a ∧ a.displayName = d
  uuid : u ≠ adminUuid

/-- Nobody destroys a user by the token, and a start does not store the record of `create_admin`
under it. -/
def Spares (t : Name) (s : State) : LifeEvent → Prop
  | .start _ _ => t = adminName → s.displayNames.lookup adminName ≠ none
  | .request r => ∀ x ∈ destroyTarget s r, x.2.loginToken ≠ t

instance (t : Name) (s : State) : (e : LifeEvent) → Decidable (Spares t s e)
  | .start _ _ => inferInstanceAs (Decidable (_ → _))
  | .request r => inferInstanceAs (Decidable (∀ x ∈ destroyTarget s r, _))

/-- On every machine a login with the token `t` and the password `q` is decided by comparing `q`
with `p`, and opens the account with the name `d`. -/
structure Opens (t d : Name) (p : Password) (u : Uuid) (s : State) : Prop where
  granted : ∀ (m : Machine) (r : Request) (q : Password) (rest : List Str), r.Ends →
    r.fieldsFor .login = some (t.str :: q.str :: rest) → compareStrings p.str q.str = true →
      ∃ a, a.displayName = d ∧ loginTarget s r = some (generateUserLogin t p u, a) ∧
        ∀ n, m.result s r = some n → n = 0 ∨ n = terminateAndRestablishConnection
  refused : ∀ (m : Machine) (r : Request) (q : Password) (rest : List Str), r.Ends →
    r.fieldsFor .login = some (t.str :: q.str :: rest) →
      (m.result s r = some errorLoginInvalidCredentials ↔ compareStrings p.str q.str = false)
  known : ∀ (m : Machine) (r : Request) (q : Password) (rest : List Str), r.Ends →
    r.fieldsFor .login = some (t.str :: q.str :: rest) →
      m.result s r ≠ some errorLoginDoesNotExist

section Registered

variable {t d : Name} {p : Password} {u : Uuid} {s s' : State} {r : Request}

/-- A request that creates a user stores the three records. -/
theorem state_of_createUser (h : createUserTarget s r = some (t, d, p)) :
    (handleRequest s r).state = s.withUser r.env.uuid t d p := by
  obtain ⟨⟨rest, hf⟩, ht, hd⟩ := createUserTarget_some h
  obtain ⟨header, bs, hdec, hlen, hinc, hfs⟩ := fieldsFor_some hf
  have hname : ¬ s.checkDuplicateDisplayName d = true := by
    rw [State.checkDuplicateDisplayName, hd]
    exact Bool.false_ne_true
  have hlog : ¬ (s.getLoginInfo t).isSome = true := by
    rw [show s.getLoginInfo t = none from ht]
    exact Bool.false_ne_true
  rw [handleRequest_state hdec hlen, runHandler, readAndCreateUser_eq hinc hfs.symm,
    if_neg fun h => hlog h.1, if_neg hlog, if_neg hname]
  rfl

theorem registered_withUser (hfresh : FreshUuid s r) (h : createUserTarget s r = some (t, d, p)) :
    Registered t d p r.env.uuid (s.withUser r.env.uuid t d p) where
  login := AList.lookup_insert _
  sole := by
    intro k l hl hu
    obtain ⟨rfl, rfl⟩ | ⟨_, hl⟩ := Dbm.lookup_insert_iff.mp hl
    · rfl
    · refine absurd ?_ hfresh.2
      have hm : l.uuid ∈ s.userLoginInfo.entries.map (·.2.uuid) :=
        List.mem_map.mpr ⟨⟨k, l⟩, AList.mem_lookup_iff.mp hl, rfl⟩
      rw [← hu]
      simp only [State.uuids, List.mem_append, hm, true_or, or_true]
  account := ⟨_, AList.lookup_insert _, rfl⟩
  uuid := hfresh.1

namespace Registered

/-- The uuid of a registered user is in use. -/
theorem mem_uuids (h : Registered t d p u s) : u ∈ s.uuids := by
  obtain ⟨a, ha, _⟩ := h.account
  have hm : u ∈ s.userAccountInfo.keys := AList.lookup_isSome.mp (by rw [ha]; rfl)
  simp only [State.uuids, List.mem_append, hm, true_or]

/-- An account that is rewritten under its own name. -/
theorem rewrite (h : Registered t d p u s) {a c : UserAccount}
    (ha : s.userAccountInfo.lookup a.userId = some a) (hid : c.userId = a.userId)
    (hname : c.displayName = a.displayName) : Registered t d p u (s.insertUserAccount c) where
  login := h.login
  sole := h.sole
  account := by
    obtain ⟨b, hb, hbd⟩ := h.account
    by_cases he : u = a.userId
    · refine ⟨c, ?_, ?_⟩
      · rw [he, ← hid]
        exact AList.lookup_insert _
      · rw [he, ha] at hb
        rw [hname, Option.some.inj hb, hbd]
    · refine ⟨b, ?_, hbd⟩
      rw [← hid] at he
      exact (AList.lookup_insert_ne he).trans hb
  uuid := h.uuid

/-- Another user, with another token and another uuid. -/
theorem withUser (h : Registered t d p u s) {t' d' : Name} {p' : Password} {u' : Uuid}
    (ht : t' ≠ t) (hu : u' ≠ u) : Registered t d p u (s.withUser u' t' d' p') where
  login := (AList.lookup_insert_ne (Ne.symm ht)).trans h.login
  sole := by
    intro k l hl hlu
    obtain ⟨rfl, rfl⟩ | ⟨_, hl⟩ := Dbm.lookup_insert_iff.mp hl
    · exact absurd hlu hu
    · exact h.sole k l hl hlu
  account := by
    obtain ⟨a, ha, had⟩ := h.account
    exact ⟨a, (AList.lookup_insert_ne (Ne.symm hu)).trans ha, had⟩
  uuid := h.uuid

theorem frame (h : Registered t d p u s) (hlogins : s'.userLoginInfo = s.userLoginInfo)
    (haccounts : s'.userAccountInfo = s.userAccountInfo) : Registered t d p u s' where
  login := by rw [hlogins]; exact h.login
  sole := by rw [hlogins]; exact h.sole
  account := by rw [haccounts]; exact h.account
  uuid := h.uuid

theorem effect (h : Registered t d p u s) (hk : KeyedState s) (hfresh : FreshUuid s r)
    (hs : Spares t s (.request r)) {b : Bool} (he : Effect s r s' b) : Registered t d p u s' := by
  cases he with
  | unchanged => exact h
  | createUser ht =>
    obtain ⟨_, hfree, _⟩ := createUserTarget_some ht
    refine h.withUser ?_ fun he => hfresh.2 (he ▸ h.mem_uuids)
    rintro rfl
    rw [h.login] at hfree
    cases hfree
  | @destroyUser d' l ht =>
    have hne : l.loginToken ≠ t := hs _ ht
    have hlu : l.uuid ≠ u := by
      intro hlu
      exact hne (h.sole _ l (hk.login_of_destroy ht) hlu)
    refine ⟨(AList.lookup_erase_ne (Ne.symm hne)).trans h.login, ?_, ?_, h.uuid⟩
    · intro k l' hl'
      exact h.sole k l' (Dbm.lookup_erase_iff.mp hl').2
    · obtain ⟨a, ha, had⟩ := h.account
      exact ⟨a, (AList.lookup_erase_ne (Ne.symm hlu)).trans ha, had⟩
  | restart ht | openSession ht | cacheFull ht =>
    exact (h.rewrite (c := loginUserAccount _ r.clntAddr) (hk.account_of_login ht) rfl rfl).frame
      rfl rfl
  | logout ht =>
    exact (h.rewrite (c := logoutUserAccount _) (hk.account_of_logout ht) rfl rfl).frame rfl rfl
  | updateChannel _ h₁ h₂ =>
    rw [update_frame h₁ h₂]
    exact h.frame rfl rfl
  | terminate => exact h.frame rfl rfl
  | createChannel => exact h.frame rfl rfl
  | createMessage => exact h.frame rfl rfl

/-- A start stores nothing under the token or the uuid. -/
theorem start {v : Server} (h : Registered t d p u v.state) (newProcess : Bool) (env : Env)
    (hs : Spares t v.state (.start newProcess env)) :
    Registered t d p u (Life.step v (.start newProcess env)).state := by
  refine (Life.start_induction (I := fun s => Registered t d p u s ∧
    (t = adminName → s.displayNames.lookup adminName ≠ none)) v newProcess env ?_ ?_ ?_
    ⟨h, hs⟩).1
  · exact fun h => ⟨h.1.frame rfl rfl, h.2⟩
  · rintro s ⟨h, hs⟩ hnone
    have ht : adminName ≠ t := fun he => hs he.symm hnone
    exact ⟨h.withUser ht (Ne.symm h.uuid), fun he => absurd he.symm ht⟩
  · exact fun s h _ _ => ⟨h.1.frame rfl rfl, h.2⟩

end Registered

/-- What the handler makes of a login with the token. -/
theorem result_of_login (h : Registered t d p u s) {q : Password} {rest : List Str}
    (hf : r.fieldsFor .login = some (t.str :: q.str :: rest)) :
    r.result s = some errorLoginInvalidCredentials ∧ compareStrings p.str q.str = false ∨
      compareStrings p.str q.str = true ∧ ∃ a, a.displayName = d ∧
        loginTarget s r = some (generateUserLogin t p u, a) ∧
        ∀ n, r.result s = some n → n = 0 ∨ n = terminateAndRestablishConnection := by
  obtain ⟨a, ha, had⟩ := h.account
  have hl : s.getLoginInfo t = some (generateUserLogin t p u) := h.login
  have ha : s.getUserAccount (generateUserLogin t p u).uuid = some a := ha
  have htoken : compareStrings (generateUserLogin t p u).loginToken.str t.str = true :=
    compareStrings_self t.str
  obtain ⟨header, bs, hd, hlen, hinc, hfs⟩ := fieldsFor_some hf
  cases hq : compareStrings p.str q.str with
  | false =>
    have hq' : compareStrings (generateUserLogin t p u).password.str q.str = false := hq
    have hfields := loginFields_eq_ok.mpr ⟨_, _, nextField_eq_ok.mpr hfs.symm,
      nextField_eq_ok.mpr rfl⟩
    refine Or.inl ⟨?_, rfl⟩
    rw [Request.result, hd]
    simp only [runHandler, readAndLoginUser, hinc, hfields, hl, hq', Bool.not_false, Bool.true_or,
      Bool.false_eq_true, if_false, if_true]
    rfl
  | true =>
    have htarget : loginTarget s r = some (generateUserLogin t p u, a) := by
      simp only [loginTarget, hf, bind, Option.bind, field?_eq (nextField_eq_ok.mpr rfl), hl, ha]
      exact if_pos ⟨hq, htoken⟩
    refine Or.inr ⟨rfl, a, had, htarget, fun n hn => ?_⟩
    obtain ⟨header', rest', t', hd', _, hrun⟩ := runHandler_login htarget
    rw [Request.result, hd'] at hn
    dsimp only at hn
    rw [hrun] at hn
    obtain ⟨reply, hv, rfl⟩ := Option.map_eq_some_iff.mp hn
    rw [loginAccount_value] at hv
    repeat' split at hv
    all_goals cases hv
    · exact Or.inr rfl
    · exact Or.inl rfl

/-- A login whose password is refused fetches no account. -/
theorem fetchedBy_of_refused (h : Registered t d p u s) {q : Password} {rest : List Str}
    (hf : r.fieldsFor .login = some (t.str :: q.str :: rest))
    (hq : compareStrings p.str q.str = false) : Machine.fetchedBy s r = none := by
  have hl : s.getLoginInfo t = some (generateUserLogin t p u) := h.login
  have hq : compareStrings (generateUserLogin t p u).password.str q.str = false := hq
  rw [Machine.fetchedBy_eq hf]
  simp only [Machine.fetchedAccount, bind, Option.bind, field?_eq (nextField_eq_ok.mpr rfl), hl]
  exact if_pos (Or.inl hq)

/-- What the records make of a login. -/
theorem Registered.opens (h : Registered t d p u s) (hs : cStrings.Holds s) : Opens t d p u s where
  granted := by
    intro m r q rest hr hf hq
    obtain ⟨_, hno⟩ | ⟨_, a, had, hat, hn⟩ := result_of_login h hf
    · rw [hq] at hno
      cases hno
    · exact ⟨a, had, hat, fun n hm => hn n (Machine.handleRequest_of_result hs hr hm).2⟩
  refused := by
    intro m r q rest hr hf
    obtain ⟨hres, hno⟩ | ⟨hq, a, _, _, hn⟩ := result_of_login h hf
    · refine iff_of_true ?_ hno
      rw [Machine.result_eq hs hr (Or.inr (fetchedBy_of_refused h hf hno)), hres]
    · refine iff_of_false (fun hm => ?_) (by rw [hq]; exact Bool.noConfusion)
      obtain he | he := hn _ (Machine.handleRequest_of_result hs hr hm).2
      · cases he
      · cases he
  known := by
    intro m r q rest hr hf hm
    have hm := (Machine.handleRequest_of_result hs hr hm).2
    obtain ⟨hres, _⟩ | ⟨_, a, _, _, hn⟩ := result_of_login h hf
    · rw [hm] at hres
      cases hres
    · obtain he | he := hn _ hm
      · cases he
      · cases he

end Registered

end ChatServer
