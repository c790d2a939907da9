import ChatServer.Answer
import ChatServer.Invariant.Identity
import ChatServer.Lifetime

/-!
# Creating and destroying a user

Both requests touch the three identity databases. Creating a user binds a token, a display name and
a uuid that are all new. Destroying one takes the display name from the body and the other two keys
from the login record, and its credential check refuses a request only when the name and the
password are both wrong; the login token is compared with nothing.
-/

namespace ChatServer

open CLib

section Creating

variable {s : State} {u : Uuid}

theorem lookup_of_not_mem_uuids (h : u ∉ s.uuids) : s.userAccountInfo.lookup u = none := by
  rw [AList.lookup_eq_none]
  intro hm
  have hm : u ∈ s.userAccountInfo.keys := hm
  exact h (by simp [State.uuids, hm])

theorem login_of_not_mem_uuids (h : u ∉ s.uuids) {t : Name} {l : UserLogin}
    (hl : s.userLoginInfo.lookup t = some l) : l.uuid ≠ u := by
  rintro rfl
  have hm : l.uuid ∈ s.userLoginInfo.entries.map (·.2.uuid) :=
    List.mem_map_of_mem (f := fun e => e.2.uuid) (AList.mem_lookup_iff.mp hl)
  exact h (by simp only [State.uuids, List.mem_append, hm, or_true, true_or])

theorem name_of_not_mem_uuids (h : u ∉ s.uuids) {d : Name} {v : Uuid}
    (hv : s.displayNames.lookup d = some v) : v ≠ u := by
  rintro rfl
  have hm : v ∈ s.displayNames.entries.map (·.2) :=
    List.mem_map_of_mem (f := fun e => e.2) (AList.mem_lookup_iff.mp hv)
  exact h (by simp only [State.uuids, List.mem_append, hm, or_true, true_or])

/-- The databases have one user more, and nothing else has changed. -/
structure Registers (s s' : State) (u : Uuid) (t d : Name) (p : Password) : Prop where
  logins : ∀ k, s'.userLoginInfo.lookup k =
    if k = t then some ⟨t, p, u⟩ else s.userLoginInfo.lookup k
  names : ∀ k, s'.displayNames.lookup k = if k = d then some u else s.displayNames.lookup k
  accounts : ∃ a : UserAccount, a.userId = u ∧ a.displayName = d ∧ a.onlineStatus = false ∧
    (a.privilegeLevel = 1 ↔ d.str = ascii "admin") ∧
    ∀ k, s'.userAccountInfo.lookup k = if k = u then some a else s.userAccountInfo.lookup k
  new : s.userLoginInfo.lookup t = none ∧ s.displayNames.lookup d = none ∧
    s.userAccountInfo.lookup u = none
  rest : s'.channelInfo = s.channelInfo ∧ s'.messagesInfo = s.messagesInfo ∧
    s'.activeUsers = s.activeUsers

theorem registers_withUser {t d : Name} {p : Password} (ht : s.userLoginInfo.lookup t = none)
    (hd : s.displayNames.lookup d = none) (hu : s.userAccountInfo.lookup u = none) :
    Registers s (s.withUser u t d p) u t d p where
  logins := Dbm.lookup_insert_eq s.userLoginInfo t _
  names := Dbm.lookup_insert_eq s.displayNames d u
  accounts := by
    refine ⟨generateUserAccount u d, rfl, rfl, rfl, ?_,
      Dbm.lookup_insert_eq s.userAccountInfo u _⟩
    have hadmin : d = adminName ↔ d.str = ascii "admin" :=
      ⟨fun h => by rw [h]; rfl, fun h => CharArray.ext h⟩
    rw [← hadmin]
    by_cases h : d = adminName
    · simp [generateUserAccount, h]
    · simp [generateUserAccount, h]
  new := ⟨ht, hd, hu⟩
  rest := ⟨rfl, rfl, rfl⟩

theorem lookup_account_withUser {t d : Name} {p : Password}
    (hu : s.userAccountInfo.lookup u = none) {k : Uuid} {a : UserAccount} :
    (s.withUser u t d p).userAccountInfo.lookup k = some a ↔
      (k = u ∧ a = generateUserAccount u d) ∨ s.userAccountInfo.lookup k = some a := by
  change (s.userAccountInfo.insert u _).lookup k = _ ↔ _
  rw [Dbm.lookup_insert_iff]
  constructor
  · rintro (⟨hk, ha⟩ | ⟨_, ha⟩)
    · exact Or.inl ⟨hk, ha.symm⟩
    · exact Or.inr ha
  · rintro (⟨hk, ha⟩ | ha)
    · exact Or.inl ⟨hk, ha.symm⟩
    · refine Or.inr ⟨?_, ha⟩
      rintro rfl
      rw [hu] at ha
      cases ha

/-- A user with a new token, a new name and a new uuid. -/
theorem IdentityConsistent.withUser {t d : Name} (h : IdentityConsistent s)
    (ht : s.userLoginInfo.lookup t = none) (hd : s.displayNames.lookup d = none)
    (hu : u ∉ s.uuids) (p : Password) : IdentityConsistent (s.withUser u t d p) := by
  have hacc := @lookup_account_withUser s u t d p (lookup_of_not_mem_uuids hu)
  -- no account that was there before has the new id
  have hid : ∀ k a, s.userAccountInfo.lookup k = some a → a.userId ≠ u :=
    fun k a ha => name_of_not_mem_uuids hu (h.account_name k a ha)
  constructor
  · intro t' l hl
    rcases Dbm.lookup_insert_iff.mp hl with ⟨_, rfl⟩ | ⟨_, hl⟩
    · refine ⟨(u, generateUserAccount u d), ⟨hacc.mpr (Or.inl ⟨rfl, rfl⟩), rfl⟩, ?_⟩
      rintro ⟨k, a⟩ ⟨ha, hau⟩
      obtain ⟨hk, hae⟩ | ha := hacc.mp ha
      · exact Prod.ext hk hae
      · exact absurd hau (hid k a ha)
    · obtain ⟨⟨k, a⟩, ⟨ha, hau⟩, hunique⟩ := h.login_account t' l hl
      refine ⟨(k, a), ⟨hacc.mpr (Or.inr ha), hau⟩, ?_⟩
      rintro ⟨k', a'⟩ ⟨ha', hau'⟩
      obtain ⟨_, rfl⟩ | ha' := hacc.mp ha'
      · exact absurd hau'.symm (login_of_not_mem_uuids hu hl)
      · exact hunique (k', a') ⟨ha', hau'⟩
  · intro k a ha
    obtain ⟨_, rfl⟩ | ha := hacc.mp ha
    · exact ⟨t, generateUserLogin t p u, AList.lookup_insert _, rfl⟩
    · obtain ⟨t', l, hl, hlu⟩ := h.account_login k a ha
      refine ⟨t', l, Dbm.lookup_insert_iff.mpr (Or.inr ⟨?_, hl⟩), hlu⟩
      rintro rfl
      rw [ht] at hl
      cases hl
  · intro k a ha
    obtain ⟨_, rfl⟩ | ha := hacc.mp ha
    · exact AList.lookup_insert _
    · have hname := h.account_name k a ha
      refine Dbm.lookup_insert_iff.mpr (Or.inr ⟨?_, hname⟩)
      intro he
      rw [he, hd] at hname
      cases hname
  · intro d' v hv
    rcases Dbm.lookup_insert_iff.mp hv with ⟨rfl, rfl⟩ | ⟨_, hv⟩
    · exact ⟨_, hacc.mpr (Or.inl ⟨rfl, rfl⟩), rfl, rfl⟩
    · obtain ⟨a, ha, hau, had⟩ := h.name_account d' v hv
      exact ⟨a, hacc.mpr (Or.inr ha), hau, had⟩
  · intro t₁ t₂ l₁ l₂ h₁ h₂ he
    rcases Dbm.lookup_insert_iff.mp h₁ with ⟨e₁, rfl⟩ | ⟨_, h₁⟩
    · rcases Dbm.lookup_insert_iff.mp h₂ with ⟨e₂, _⟩ | ⟨_, h₂⟩
      · exact e₁.trans e₂.symm
      · exact absurd he.symm (login_of_not_mem_uuids hu h₂)
    · rcases Dbm.lookup_insert_iff.mp h₂ with ⟨_, rfl⟩ | ⟨_, h₂⟩
      · exact absurd he (login_of_not_mem_uuids hu h₁)
      · exact h.login_unique t₁ t₂ l₁ l₂ h₁ h₂ he

/-- What `read_and_create_user` does with a token, a display name and a password that fit their
arrays. -/
theorem readAndCreateUser_eq {env : Env} {n : ℕ} {bytes : List UInt8} {t d : Name} {p : Password}
    {rest : List Str} (hn : bodyIncomplete n bytes = false)
    (hfs : fields bytes = t.str :: d.str :: p.str :: rest) :
    readAndCreateUser s env n bytes =
      if (s.getLoginInfo t).isSome ∧ s.checkDuplicateDisplayName d = true then
        .reply s errorCreateUserDuplicateAll []
      else if (s.getLoginInfo t).isSome then .reply s errorCreateUserDuplicateToken []
      else if s.checkDuplicateDisplayName d = true then
        .reply s errorCreateUserDuplicateDisplayName []
      else .reply (s.withUser env.uuid t d p) 0 t.str := by
  have h₁ : nextField tokenNameLength (fields bytes) = .ok (t, d.str :: p.str :: rest) :=
    nextField_eq_ok.mpr hfs
  have h₂ : nextField tokenNameLength (d.str :: p.str :: rest) = .ok (d, p.str :: rest) :=
    nextField_eq_ok.mpr rfl
  have h₃ : nextField pswdMaxLength (p.str :: rest) = .ok (p, rest) := nextField_eq_ok.mpr rfl
  simp only [readAndCreateUser, hn, h₁, h₂, h₃, bind, Except.bind, pure, Except.pure,
    Bool.and_eq_true, Bool.false_eq_true, if_false]
  rfl

end Creating

/-- A request to create a user returns 3, 1 or 2 when token and name, the token alone or the name
alone are taken, and then changes nothing; otherwise it returns 0, the databases have one user more,
and the identity databases stay consistent. -/
theorem create_user_exact (s : State) (h : IdentityConsistent s) (env : Env)
    (hfresh : env.uuid ∉ s.uuids) (n : ℕ) (bytes : List UInt8)
    (hn : bodyIncomplete n bytes = false) (t d : Name) (p : Password) (rest : List Str)
    (hfs : fields bytes = t.str :: d.str :: p.str :: rest) :
    (s.userLoginInfo.lookup t ≠ none → s.displayNames.lookup d ≠ none →
      readAndCreateUser s env n bytes = .reply s 3 []) ∧
    (s.userLoginInfo.lookup t ≠ none → s.displayNames.lookup d = none →
      readAndCreateUser s env n bytes = .reply s 1 []) ∧
    (s.userLoginInfo.lookup t = none → s.displayNames.lookup d ≠ none →
      readAndCreateUser s env n bytes = .reply s 2 []) ∧
    (s.userLoginInfo.lookup t = none → s.displayNames.lookup d = none →
      ∃ s', readAndCreateUser s env n bytes = .reply s' 0 t.str ∧
        Registers s s' env.uuid t d p ∧ IdentityConsistent s') := by
  rw [readAndCreateUser_eq hn hfs]
  simp only [State.getLoginInfo, State.checkDuplicateDisplayName, Option.isSome_iff_ne_none]
  refine ⟨fun ht hd => ?_, fun ht hd => ?_, fun ht hd => ?_, fun ht hd => ?_⟩
  · rw [if_pos ⟨ht, hd⟩]
  · rw [if_neg (fun hc => hc.2 hd), if_pos ht]
  · rw [if_neg (fun hc => hc.1 ht), if_neg (fun hc => hc ht), if_pos hd]
  · rw [if_neg (fun hc => hc.1 ht), if_neg (fun hc => hc ht), if_neg (fun hc => hc hd)]
    exact ⟨_, rfl, registers_withUser ht hd (lookup_of_not_mem_uuids hfresh),
      h.withUser ht hd hfresh p⟩

/-- Creating a user next to the administrator. -/
theorem create_user_exact_start :
    ∃ s', readAndCreateUser Client.start.state (Client.env "22222222-2222-2222-2222-222222222222")
        12 (Client.body ["bobt", "bob", "pw"]) = .reply s' 0 (ascii "bobt") ∧
      IdentityConsistent s' := by
  obtain ⟨s', hs', _, hc⟩ := (create_user_exact Client.start.state
    ((linked_startUp Client.firstEnv).consistent (keyedState_startUp Client.firstEnv))
    (Client.env "22222222-2222-2222-2222-222222222222") (by decide +kernel) 12
    (Client.body ["bobt", "bob", "pw"]) (by decide) (CharArray.strncpy _ (ascii "bobt"))
    (CharArray.strncpy _ (ascii "bob")) (CharArray.strncpy _ (ascii "pw")) [] (by decide)).2.2.2
    (by decide +kernel) (by decide +kernel)
  exact ⟨s', hs', hc⟩

section Destroying

/-- Display name, token and password are those of the account. -/
def OwnFields (s : State) (a : UserAccount) (d t : Name) (p : Password) : Prop :=
  d = a.displayName ∧ ∃ l, s.getLoginInfo t = some l ∧ l.uuid = a.userId ∧ l.password = p

/-- An account without privilege may destroy itself, one with privilege everybody who has the login
token. -/
def MayDestroy (s : State) (sender : ConnectedUser) (d t : Name) (p : Password) : Prop :=
  ∃ a, s.getUserAccount sender.uuid = some a ∧
    (a.privilegeLevel = 0 ∧ OwnFields s a d t p ∨
      a.privilegeLevel = 1 ∧ (s.getLoginInfo t).isSome = true)

/-- The name, the login record of the token and the account under its uuid are one user's. -/
def OneUser (s : State) (d t : Name) (l : UserLogin) : Prop :=
  s.getLoginInfo t = some l ∧ s.displayNames.lookup d = some l.uuid ∧
    ∃ b, s.getUserAccount l.uuid = some b ∧ b.displayName = d

/-- The three records of one user are gone, and nothing else has changed. -/
def RemovesUser (s s' : State) (d t : Name) : Prop :=
  ∃ l, OneUser s d t l ∧
    (∀ k, s'.userLoginInfo.lookup k = if k = t then none else s.userLoginInfo.lookup k) ∧
    (∀ k, s'.displayNames.lookup k = if k = d then none else s.displayNames.lookup k) ∧
    (∀ k, s'.userAccountInfo.lookup k = if k = l.uuid then none else s.userAccountInfo.lookup k) ∧
    s'.channelInfo = s.channelInfo ∧ s'.messagesInfo = s.messagesInfo ∧
    s'.activeUsers = s.activeUsers

/-- A change is authorised and complete, and without a change an error result is returned. -/
structure DestroyMeets (s : State) (sender : ConnectedUser) (d t : Name) (p : Password)
    (out : Outcome) : Prop where
  authorised : out.state ≠ s → MayDestroy s sender d t p
  complete : out.state ≠ s → RemovesUser s out.state d t
  refused : out.state = s → ∃ reply, out.value = .ok reply ∧ reply.result ≠ 0

/-- The session's account exists, and one of three holds: it has no privilege, and name and password
of the body both differ from the session's; it has the privilege, and nobody has the login token;
name and token are one user's, the credential check meets no missing login record, and the account
has the privilege or is that user's own, with the right password. -/
def DestroyDecided (s : State) (sender : ConnectedUser) (d t : Name) (p : Password) : Prop :=
  ∃ a, s.getUserAccount sender.uuid = some a ∧
    ((a.privilegeLevel = 0 ∧ sender.dsplyName ≠ d ∧
        ∃ l, s.getLoginInfo sender.loginToken = some l ∧ l.password ≠ p) ∨
      (a.privilegeLevel = 1 ∧ s.getLoginInfo t = none) ∨
      ∃ l, OneUser s d t l ∧
        (sender.dsplyName = d ∨ (s.getLoginInfo sender.loginToken).isSome = true) ∧
        (a.privilegeLevel = 1 ∨ a.privilegeLevel = 0 ∧ l.uuid = a.userId ∧ l.password = p))

variable {s : State} {fd n : ℕ} {bytes : List UInt8} {d t : Name} {p : Password} {rest : List Str}
  {sender : ConnectedUser}

/-- A field that is too long overruns its array. -/
theorem readAndDestroyUser_long (s : State) (fd : ℕ) {d t p : Str}
    (hn : bodyIncomplete n bytes = false)
    (hfs : fields bytes = d :: t :: p :: rest)
    (hlong : ¬ (d.length ≤ tokenNameLength ∧ t.length ≤ tokenNameLength ∧
      p.length ≤ pswdMaxLength)) : ∃ f, readAndDestroyUser s fd n bytes = .fault s f := by
  cases hdest : destroyFields bytes with
  | error f => exact ⟨f, by simp only [readAndDestroyUser, hn, hdest, Bool.false_eq_true, if_false]⟩
  | ok x =>
    obtain ⟨d', t', p'⟩ := x
    obtain ⟨_, hall⟩ := destroyFields_iff_fields.mp hdest
    rw [hfs] at hall
    simp only [List.cons.injEq] at hall
    obtain ⟨rfl, rfl, rfl, _⟩ := hall
    exact absurd ⟨d'.fits, t'.fits, p'.fits⟩ hlong

theorem removesUser_withoutUser {l : UserLogin} (hl : l.loginToken = t) (h : OneUser s d t l) :
    RemovesUser s (s.withoutUser d l) d t := by
  refine ⟨l, h, ?_, Dbm.lookup_erase_eq s.displayNames d,
    Dbm.lookup_erase_eq s.userAccountInfo l.uuid, rfl, rfl, rfl⟩
  rw [← hl]
  exact Dbm.lookup_erase_eq s.userLoginInfo l.loginToken

/-- The login record is there before and not behind the removal. -/
theorem withoutUser_ne {l : UserLogin} (hl : s.getLoginInfo t = some l) (ht : l.loginToken = t) :
    s.withoutUser d l ≠ s := by
  intro he
  have hgone : (s.withoutUser d l).userLoginInfo.lookup t = none := by
    rw [← ht]
    exact AList.lookup_erase _ _
  rw [he, show s.userLoginInfo.lookup t = some l from hl] at hgone
  cases hgone

theorem destroyMeets_of_error {m : Int} (hm : m ≠ 0) :
    DestroyMeets s sender d t p (.reply s m []) :=
  ⟨fun h => absurd rfl h, fun h => absurd rfl h, fun _ => ⟨_, rfl, hm⟩⟩

/-- Without a fault of the check the request is refused or one user's records are removed. -/
theorem DestroyDecided.check {check : Except Fault Bool} (h : DestroyDecided s sender d t p)
    (hcheck : invalidCredentials sender (s.getLoginInfo sender.loginToken)
      (s.getUserAccount sender.uuid) d p = check) :
    check = .ok true ∨ (s.getLoginInfo t = none ∧
      ∃ a, s.getUserAccount sender.uuid = some a ∧ a.privilegeLevel = 1) ∨
    ∃ a l, s.getUserAccount sender.uuid = some a ∧ OneUser s d t l ∧ (∃ b, check = .ok b) ∧
      (a.privilegeLevel = 1 ∨ a.privilegeLevel = 0 ∧ l.uuid = a.userId ∧ l.password = p) := by
  obtain ⟨a, ha, ⟨h0, hd, l, hl, hp⟩ | ⟨h1, hl⟩ | ⟨l, hone, hfound, hpriv⟩⟩ := h
  · left
    rw [← hcheck, ha]
    exact (invalidCredentials_true_iff ..).mpr ⟨h0, hd, l, hl, hp⟩
  · exact Or.inr (Or.inl ⟨hl, a, ha, h1⟩)
  · refine Or.inr (Or.inr ⟨a, l, ha, hone, ?_, hpriv⟩)
    rw [← hcheck, invalidCredentials_ok_iff, ha]
    obtain hd | hlogin := hfound
    · exact Or.inl hd
    · obtain ⟨l', hl'⟩ := Option.isSome_iff_exists.mp hlogin
      exact Or.inr ⟨l', hl', Or.inr rfl⟩

/-- A request with the fields in their arrays. -/
theorem destroyMeets_iff (hk : KeyedState s) (hn : bodyIncomplete n bytes = false)
    (hfs : fields bytes = d.str :: t.str :: p.str :: rest)
    (hs : s.activeUsers.getConnectedUserByFd fd = some sender) :
    DestroyMeets s sender d t p (readAndDestroyUser s fd n bytes) ↔
      DestroyDecided s sender d t p := by
  generalize hcheck : invalidCredentials sender (s.getLoginInfo sender.loginToken)
    (s.getUserAccount sender.uuid) d p = check
  obtain ⟨hl, ⟨a, ha, h1⟩, hout⟩ | ⟨hc, hout⟩ | ⟨l, hl, hc, hout⟩ | ⟨f, hout, hc, hnone, hsome⟩ :=
    readAndDestroyUser_cases hn (destroyFields_iff_fields.mpr ⟨rest, hfs⟩) hs hcheck
  · rw [hout]
    exact iff_of_true (destroyMeets_of_error (by decide)) ⟨a, ha, Or.inr (Or.inl ⟨h1, hl⟩)⟩
  · rw [hout]
    refine iff_of_true (destroyMeets_of_error (by decide)) ?_
    rw [hc] at hcheck
    cases ha : s.getUserAccount sender.uuid with
    | none => rw [ha] at hcheck; exact absurd hcheck (invalidCredentials_none _)
    | some a =>
      rw [ha] at hcheck
      exact ⟨a, ha, Or.inl ((invalidCredentials_true_iff ..).mp hcheck)⟩
  · -- the user is removed
    rw [hout]
    have htoken : l.loginToken = t := hk.logins t l hl
    have hne := withoutUser_ne (d := d) hl htoken
    constructor
    · intro h
      obtain ⟨a, ha, hmay⟩ := h.authorised hne
      obtain ⟨l', hone, _⟩ := h.complete hne
      obtain rfl : l' = l := Option.some.inj (hone.1.symm.trans hl)
      refine ⟨a, ha, Or.inr (Or.inr ⟨l', hone, ?_, ?_⟩)⟩
      · obtain hd | ⟨l'', hl'', _⟩ := (invalidCredentials_ok_iff ..).mp ⟨false, hcheck.trans hc⟩
        · exact Or.inl hd
        · exact Or.inr (by rw [hl'']; rfl)
      · obtain ⟨h0, _, l'', hl'', huuid, hp⟩ | ⟨h1, _⟩ := hmay
        · obtain rfl : l'' = l' := Option.some.inj (hl''.symm.trans hl)
          exact Or.inr ⟨h0, huuid, hp⟩
        · exact Or.inl h1
    · intro h
      obtain hc' | ⟨hl', _⟩ | ⟨a, l', ha, hone, _, hpriv⟩ := h.check hcheck
      · rw [hc] at hc'
        cases hc'
      · rw [hl] at hl'
        cases hl'
      · obtain rfl : l' = l := Option.some.inj (hone.1.symm.trans hl)
        refine ⟨fun _ => ⟨a, ha, ?_⟩, fun _ => removesUser_withoutUser htoken hone,
          fun he => absurd he hne⟩
        obtain h1 | ⟨h0, huuid, hp⟩ := hpriv
        · exact Or.inr ⟨h1, by rw [hl]; rfl⟩
        · refine Or.inl ⟨h0, ?_, l', hl, huuid, hp⟩
          -- the account under the uuid of the login record is the session's
          obtain ⟨_, _, b, hb, hbd⟩ := hone
          rw [huuid, hk.accounts _ a ha, ha] at hb
          rw [← hbd, Option.some.inj hb]
  · rw [hout]
    refine iff_of_false (fun h => ?_) (fun h => ?_)
    · obtain ⟨reply, hok, _⟩ := h.refused rfl
      cases hok
    · obtain hc' | ⟨hl, ha⟩ | ⟨_, l, _, hone, ⟨b, hb⟩, _⟩ := h.check hcheck
      · exact hc hc'
      · exact hnone hl ha
      · cases b with
        | true => exact hc hb
        | false => exact hsome (by rw [hone.1]; rfl) hb

end Destroying

/-- In every state of every life: a request to destroy a user on a connection with a session is
authorised and complete if and only if its fields fit and it is decided as `DestroyDecided` says. -/
theorem destroy_authorised_iff (es : List LifeEvent) (fd n : ℕ) (bytes : List UInt8) (d t p : Str)
    (rest : List Str) (sender : ConnectedUser) (hn : bodyIncomplete n bytes = false)
    (hfs : fields bytes = d :: t :: p :: rest)
    (hs : (Life.run es).state.activeUsers.getConnectedUserByFd fd = some sender) :
    DestroyMeets (Life.run es).state sender (CharArray.strncpy _ d) (CharArray.strncpy _ t)
        (CharArray.strncpy _ p) (readAndDestroyUser (Life.run es).state fd n bytes) ↔
      (d.length ≤ tokenNameLength ∧ t.length ≤ tokenNameLength ∧ p.length ≤ pswdMaxLength) ∧
        DestroyDecided (Life.run es).state sender (CharArray.strncpy _ d) (CharArray.strncpy _ t)
          (CharArray.strncpy _ p) := by
  by_cases hfit : d.length ≤ tokenNameLength ∧ t.length ≤ tokenNameLength ∧
      p.length ≤ pswdMaxLength
  · rw [and_iff_right hfit]
    obtain ⟨hd, ht, hp⟩ := hfit
    have hfs' : fields bytes = (CharArray.strncpy tokenNameLength d).str ::
        (CharArray.strncpy tokenNameLength t).str :: (CharArray.strncpy pswdMaxLength p).str ::
          rest := by
      rw [hfs]
      simp only [CharArray.strncpy, List.take_of_length_le hd, List.take_of_length_le ht,
        List.take_of_length_le hp]
    exact destroyMeets_iff (Life.keyed_run es) hn hfs' hs
  · obtain ⟨f, hout⟩ := readAndDestroyUser_long (Life.run es).state fd hn hfs hfit
    refine iff_of_false (fun h => ?_) (fun h => hfit h.1)
    rw [hout] at h
    obtain ⟨reply, hok, _⟩ := h.refused rfl
    cases hok

/-- A user next to the administrator, with a session on descriptor 5. -/
def bobLife : List LifeEvent :=
  [.start true Client.firstEnv,
    .request (Client.createUser 5 "10.0.0.1" "bobt" "bob" "pw"
      "22222222-2222-2222-2222-222222222222"),
    .request (Client.login 5 "10.0.0.1" "bobt" "pw")]

/-- The session of `bobLife`. -/
def bobSession : ConnectedUser :=
  ⟨5, CharArray.strncpy _ (ascii "bob"), Client.address "10.0.0.1",
    CharArray.strncpy _ (ascii "bobt"), Client.uuid "22222222-2222-2222-2222-222222222222", 0⟩

theorem session_bobLife :
    (Life.run bobLife).state.activeUsers.getConnectedUserByFd 5 = some bobSession := by
  decide +kernel

theorem account_bobLife :
    (Life.run bobLife).state.getUserAccount bobSession.uuid =
      some (loginUserAccount (generateUserAccount bobSession.uuid bobSession.dsplyName)
        (Client.address "10.0.0.1")) := by
  decide +kernel

theorem login_bobLife :
    (Life.run bobLife).state.getLoginInfo bobSession.loginToken =
      some (generateUserLogin bobSession.loginToken (CharArray.strncpy _ (ascii "pw"))
        bobSession.uuid) := by
  decide +kernel

/-- The user leaves with the right fields. -/
theorem destroy_authorised_bobLife :
    DestroyMeets (Life.run bobLife).state bobSession (CharArray.strncpy _ (ascii "bob"))
      (CharArray.strncpy _ (ascii "bobt")) (CharArray.strncpy _ (ascii "pw"))
      (readAndDestroyUser (Life.run bobLife).state 5 12 (Client.body ["bob", "bobt", "pw"])) := by
  have hone : OneUser (Life.run bobLife).state bobSession.dsplyName bobSession.loginToken
      (generateUserLogin bobSession.loginToken (CharArray.strncpy _ (ascii "pw"))
        bobSession.uuid) :=
    ⟨login_bobLife, by decide +kernel, _, account_bobLife, rfl⟩
  exact (destroy_authorised_iff bobLife 5 12 (Client.body ["bob", "bobt", "pw"]) (ascii "bob")
    (ascii "bobt") (ascii "pw") [] bobSession (by decide) (by decide) session_bobLife).mpr
    ⟨by decide, _, account_bobLife, Or.inr (Or.inr ⟨_, hone, Or.inl rfl, Or.inr ⟨by decide, rfl, rfl⟩⟩)⟩

/-- With its own name, the administrator's token and a wrong password the user removes the
administrator's login record and account, and its own name. -/
theorem destroy_not_authorised :
    (Life.run bobLife).state.activeUsers.getConnectedUserByFd 5 = some bobSession ∧
      ¬ DestroyMeets (Life.run bobLife).state bobSession (CharArray.strncpy _ (ascii "bob"))
        (CharArray.strncpy _ (ascii "admin")) (CharArray.strncpy _ (ascii "no"))
        (readAndDestroyUser (Life.run bobLife).state 5 13
          (Client.body ["bob", "admin", "no"])) := by
  refine ⟨session_bobLife, fun h => ?_⟩
  have hgone : (readAndDestroyUser (Life.run bobLife).state 5 13
      (Client.body ["bob", "admin", "no"])).state.userLoginInfo.lookup adminName = none := by
    decide +kernel
  have hadmin : (Life.run bobLife).state.userLoginInfo.lookup adminName =
      some (generateUserLogin adminName adminPassword adminUuid) := by decide +kernel
  obtain ⟨a, ha, hmay⟩ := h.authorised (fun he => by rw [he, hadmin] at hgone; cases hgone)
  rw [account_bobLife] at ha
  cases ha
  obtain ⟨_, _, l, hl, huuid, _⟩ | ⟨hpriv, _⟩ := hmay
  · cases hadmin.symm.trans hl
    exact absurd huuid (by decide)
  · exact absurd hpriv (by decide)

end ChatServer
