import ChatServer.DbmCalls
import ChatServer.Server

/-!
# Requests under storage failures

A handler never looks at the results of its writes. So a request is all or nothing under a pattern
of failures only if none of its writes fails: behind a failed one the handler goes on, with the
other writes and with the session cache, and then returns 0.
-/

namespace ChatServer

open CLib

namespace DbmCall

/-- The calls that write nothing; a `dbm_open` with `O_CREAT` belongs to a write. -/
def WritesNothing : DbmCall → Prop
  | dbmOpen _ flags => flags ≠ .creat
  | dbmFetch _ _ => True
  | channels => True
  | write _ => False

/-- A call of a write that failed. -/
def WriteFailed : (Σ c : DbmCall, c.Answer) → Prop
  | ⟨dbmOpen _ flags, ok⟩ => flags = .creat ∧ ok = false
  | ⟨dbmFetch _ _, _⟩ => False
  | ⟨channels, _⟩ => False
  | ⟨write _, ok⟩ => ok = false

def change? : DbmCall → Option Change
  | write c => some c
  | _ => none

theorem WritesNothing.not_writeFailed {e : Σ c : DbmCall, c.Answer} (h : e.1.WritesNothing) :
    ¬WriteFailed e := by
  obtain ⟨c, a⟩ := e
  cases c with
  | dbmOpen db flags => exact fun hf => h hf.1
  | dbmFetch db key => exact id
  | channels => exact id
  | write c => exact h.elim

theorem WritesNothing.change?_eq_none {c : DbmCall} (h : c.WritesNothing) : c.change? = none := by
  cases c with
  | write c => exact h.elim
  | dbmOpen db flags | dbmFetch db key | channels => rfl

/-- Such a call leaves the databases as they are. -/
theorem WritesNothing.onDisk {c : DbmCall} (h : c.WritesNothing) (env : Env) (fails : ℕ → Bool)
    (d : State × ℕ) :
    (c.onDisk env fails d).2.1 = d.1 := by
  cases c with
  | write c => exact h.elim
  | dbmOpen db flags | dbmFetch db key | channels => rfl

end DbmCall

open DbmCall

/-- A write leaves the sessions alone. -/
theorem Change.activeUsers_apply (c : Change) (s : State) :
    (c.apply s).activeUsers = s.activeUsers := by
  cases c with
  | store db key value => cases db <;> rfl
  | delete db key => cases db <;> rfl

theorem Change.activeUsers_foldl (cs : List Change) (s : State) :
    (cs.foldl Change.apply s).activeUsers = s.activeUsers := by
  induction cs generalizing s with
  | nil => rfl
  | cons c cs ih => exact (ih _).trans (c.activeUsers_apply s)

/-- The writes that the calls ask for, also those that fail. -/
def changes (t : List (Σ c : DbmCall, c.Answer)) : List Change := t.filterMap fun e => e.1.change?

/-- A handler that returns 0 has made all its writes and nothing else has changed in the databases;
a handler with a failed write returns another result and leaves databases and cache alone. -/
@[mk_iff]
structure AllOrNothing (s : State) (o : Outcome) (t : List (Σ c : DbmCall, c.Answer)) : Prop where
  success : ∀ r, o.value = .ok r → r.result = 0 → (∀ e ∈ t, ¬WriteFailed e) ∧
    { o.state with activeUsers := s.activeUsers } = (changes t).foldl Change.apply s
  failure : (∃ e ∈ t, WriteFailed e) → (∃ r, o.value = .ok r ∧ r.result ≠ 0) ∧ o.state = s

theorem changes_reads {t : List (Σ c : DbmCall, c.Answer)} (h : ∀ e ∈ t, e.1.WritesNothing) :
    changes t = [] :=
  List.filterMap_eq_nil_iff.mpr fun e he => (h e he).change?_eq_none

/-- What is read in front of the rest does not matter. -/
theorem allOrNothing_append {s : State} {o : Outcome} {t t' : List (Σ c : DbmCall, c.Answer)}
    (h : ∀ e ∈ t, e.1.WritesNothing) : AllOrNothing s o (t ++ t') ↔ AllOrNothing s o t' := by
  have hall : (∀ e ∈ t ++ t', ¬WriteFailed e) ↔ ∀ e ∈ t', ¬WriteFailed e := by
    rw [List.forall_mem_append]
    exact and_iff_right fun e he => (h e he).not_writeFailed
  have hsome : (∃ e ∈ t ++ t', WriteFailed e) ↔ ∃ e ∈ t', WriteFailed e :=
    not_iff_not.mp (by simpa only [not_exists, not_and] using hall)
  have hchanges : changes (t ++ t') = changes t' := by
    rw [changes, List.filterMap_append]
    exact congrArg (· ++ _) (changes_reads h)
  rw [allOrNothing_iff, allOrNothing_iff, hall, hsome, hchanges]

namespace DbmCalls

variable (env : Env) (fails : ℕ → Bool)

/-- The handler is all or nothing under the pattern. -/
def Atomic (p : DbmCalls Ending) (s : State) (n : ℕ) : Prop :=
  AllOrNothing s (outcome env fails p s n) (calls env fails p s n)

section Reading

variable {s : State} {n : ℕ} {α : Type}

/-- The program only reads, and its result meets `post`. -/
abbrev OnlyReads (p : DbmCalls α) (post : α → Prop) : Prop :=
  p.Meets WritesNothing (fun _ _ => True) post

theorem OnlyReads.run {p : DbmCalls α} {post : α → Prop} (hp : OnlyReads p post) (s : State)
    (n : ℕ) : post (p.exec (onDisk env fails) (s, n)).1 ∧
      (p.exec (onDisk env fails) (s, n)).2.1 = s ∧
      ∀ e ∈ p.trace (onDisk env fails) (s, n), e.1.WritesNothing := by
  refine hp.invariant (I := fun d : State × ℕ => d.1 = s) ?_ rfl
  intro c d hc hd
  exact ⟨trivial, (hc.onDisk env fails d).trans hd⟩

variable {env fails}

theorem atomic_pure (e : Ending) : Atomic env fails (pure e) s n := by
  constructor
  · intro r _ _
    exact ⟨fun e he => absurd he List.not_mem_nil, rfl⟩
  · rintro ⟨e, he, _⟩
    exact absurd he List.not_mem_nil

/-- A program that reads, and how the handler goes on. -/
theorem OnlyReads.atomic_bind {p : DbmCalls α} {post : α → Prop} (hp : OnlyReads p post)
    {x : α} {m : ℕ} (hx : p.exec (onDisk env fails) (s, n) = (x, s, m))
    (k : α → DbmCalls Ending) :
    Atomic env fails (p >>= k) s n ↔ Atomic env fails (k x) s m := by
  have hout : outcome env fails (p >>= k) s n = outcome env fails (k x) s m := by
    rw [outcome, Prog.exec_bind, hx]; rfl
  have hcalls : calls env fails (p >>= k) s n =
      p.trace (onDisk env fails) (s, n) ++ calls env fails (k x) s m := by
    rw [calls, Prog.trace_bind, hx]; rfl
  rw [Atomic, hout, hcalls]
  exact allOrNothing_append (hp.run env fails s n).2.2

theorem onlyReads_fetchFrom {db : DbFile} {flags : OpenFlags} (h : flags ≠ .creat) (key : db.Key) :
    OnlyReads (fetchFrom db flags key) fun _ => True := by
  refine Prog.Meets.perform h fun ok _ => ?_
  cases ok with
  | false => exact trivial
  | true => exact ⟨trivial, fun _ _ => trivial⟩

theorem atomic_fetchFrom (db : DbFile) (flags : OpenFlags) (h : flags ≠ .creat) (key : db.Key)
    (k : Option db.Value → DbmCalls Ending) :
    Atomic env fails (fetchFrom db flags key >>= k) s n ↔
      Atomic env fails (k (found (fails n) ((s.file db).lookup key))) s (n+1) :=
  (onlyReads_fetchFrom h key).atomic_bind (exec_fetchFrom db flags key) k

theorem atomic_getLoginInfo (t : Name) (k : Option UserLogin → DbmCalls Ending) :
    Atomic env fails (getLoginInfo t >>= k) s n ↔
      Atomic env fails (k (found (fails n) (s.getLoginInfo t))) s (n+1) :=
  atomic_fetchFrom .loginInfo .rdonly (by decide) t k

theorem atomic_getUserAccount (u : Uuid) (k : Option UserAccount → DbmCalls Ending) :
    Atomic env fails (getUserAccount u >>= k) s n ↔
      Atomic env fails (k (found (fails n) (s.getUserAccount u))) s (n+1) :=
  atomic_fetchFrom .userAccount .rdwr (by decide) u k

theorem atomic_getUuidWithDisplayName (d : Name) (k : Option Uuid → DbmCalls Ending) :
    Atomic env fails (getUuidWithDisplayName d >>= k) s n ↔
      Atomic env fails (k (found (fails n) (s.getUuidWithDisplayName d))) s (n+1) :=
  atomic_fetchFrom .displayNames .rdwr (by decide) d k

theorem atomic_checkDuplicateDisplayName (d : Name) (k : Bool → DbmCalls Ending) :
    Atomic env fails (checkDuplicateDisplayName d >>= k) s n ↔
      Atomic env fails (k (found (fails n) (s.getUuidWithDisplayName d)).isSome) s (n+1) := by
  rw [checkDuplicateDisplayName, bind_assoc]
  exact atomic_fetchFrom .displayNames .rdonly (by decide) d _

theorem onlyReads_getAllChannels : OnlyReads getAllChannels fun _ => True := by
  refine Prog.Meets.perform (show OpenFlags.rdonly ≠ .creat by decide) fun ok _ => ?_
  cases ok with
  | false => exact trivial
  | true => exact ⟨trivial, fun _ _ => trivial⟩

theorem atomic_getChannelInfo (name : Name) (k : Option ChannelInfo → DbmCalls Ending) :
    Atomic env fails (getChannelInfo name >>= k) s n ↔
      Atomic env fails (k (found (fails n) (s.getChannelInfo env name))) s (n+1) := by
  have hfound : (found (fails n) (some (s.getAllChannels env))).bind
      (fun cs => cs.find? fun c => c.channelName = name) =
        found (fails n) (s.getChannelInfo env name) := by
    rw [found, found]
    cases fails n with
    | false => rfl
    | true => rfl
  rw [getChannelInfo, bind_assoc, ← hfound]
  exact onlyReads_getAllChannels.atomic_bind exec_getAllChannels _

end Reading

section Writing

variable {env fails} {s : State} {n : ℕ}

/-- Writes whose results are not used, and how the handler goes on. -/
def writing : List Change → DbmCalls Ending → DbmCalls Ending
  | [], p => p
  | c :: cs, p => writeTo c >>= fun _ => writing cs p

/-- If one of them fails, this is among the answers. -/
theorem writeTo_fails (env : Env) (s : State) (c : Change)
    (h : fails n = true ∨ fails (n+1) = true) :
    ∃ e ∈ (writeTo c).trace (onDisk env fails) (s, n), WriteFailed e := by
  cases h₁ : fails n with
  | true =>
    refine ⟨⟨dbmOpen c.db .creat, false⟩, ?_, rfl, rfl⟩
    simp [writeTo, Prog.trace_bind, Prog.perform, Prog.exec, Prog.trace, onDisk, h₁]
  | false =>
    have h₂ : fails (n+1) = true := h.resolve_left (by rw [h₁]; decide)
    refine ⟨⟨write c, false⟩, ?_, rfl⟩
    simp [writeTo, Prog.trace_bind, Prog.perform, Prog.exec, Prog.trace, onDisk, h₁, h₂]

/-- Without a failure all writes are made, and then the handler goes on. -/
theorem writing_succeeds (env : Env) (s : State) {cs : List Change} {p : DbmCalls Ending}
    {post : Ending → Prop} (hp : OnlyReads p post)
    (h : ∀ i, n ≤ i → i < n+2*cs.length → fails i = false) :
    (writing cs p).exec (onDisk env fails) (s, n) =
        p.exec (onDisk env fails) (cs.foldl Change.apply s, n+2*cs.length) ∧
      (∀ e ∈ (writing cs p).trace (onDisk env fails) (s, n), ¬WriteFailed e) ∧
      changes ((writing cs p).trace (onDisk env fails) (s, n)) = cs := by
  induction cs generalizing s n with
  | nil =>
    obtain ⟨_, _, hreads⟩ := hp.run env fails s n
    exact ⟨rfl, fun e he => (hreads e he).not_writeFailed, changes_reads hreads⟩
  | cons c cs ih =>
    rw [List.length_cons] at h
    obtain ⟨hexec, htrace⟩ := writeTo_succeeds env s c
      (h n le_rfl (by omega)) (h (n+1) (by omega) (by omega))
    obtain ⟨hrest, hnone, hchanges⟩ := ih (n := n+2) (c.apply s) fun i h₁ h₂ =>
      h i (by omega) (by omega)
    rw [writing, Prog.exec_bind, Prog.trace_bind, hexec, htrace]
    refine ⟨?_, ?_, ?_⟩
    · rw [hrest, List.length_cons, show n+2*(cs.length+1) = n+2+2*cs.length by omega]
      rfl
    · simp only [List.forall_mem_append, List.forall_mem_cons]
      exact ⟨⟨fun hf => Bool.false_ne_true hf.2.symm, fun hf => Bool.false_ne_true (Eq.symm hf),
        fun e he => absurd he List.not_mem_nil⟩, hnone⟩
    · exact congrArg (c :: ·) hchanges

theorem writing_fails {cs : List Change} {p : DbmCalls Ending} {i : ℕ} (h₁ : n ≤ i)
    (h₂ : i < n+2*cs.length) (hi : fails i = true) :
    ∃ e ∈ (writing cs p).trace (onDisk env fails) (s, n), WriteFailed e := by
  induction cs generalizing s n with
  | nil => simp at h₂; omega
  | cons c cs ih =>
    rw [writing, Prog.trace_bind]
    by_cases hc : fails n = true ∨ fails (n+1) = true
    · obtain ⟨e, he, hf⟩ := writeTo_fails env s c hc
      exact ⟨e, List.mem_append_left _ he, hf⟩
    · -- the first write is made, so the call that fails is one of the others
      simp only [not_or, Bool.not_eq_true] at hc
      have hne : i ≠ n := fun e => absurd hi (by rw [e, hc.1]; decide)
      have hne' : i ≠ n+1 := fun e => absurd hi (by rw [e, hc.2]; decide)
      rw [(writeTo_succeeds env s c hc.1 hc.2).1]
      rw [List.length_cons] at h₂
      obtain ⟨e, he, hf⟩ := ih (s := c.apply s) (n := n+2) (by omega) (by omega)
      exact ⟨e, List.mem_append_right _ he, hf⟩

/-- How the handler ends does not depend on its writes. -/
theorem writing_ends {cs : List Change} {p : DbmCalls Ending} {post : Ending → Prop}
    (hp : OnlyReads p post) (d : State × ℕ) :
    post ((writing cs p).exec (onDisk env fails) d).1 := by
  induction cs generalizing d with
  | nil => exact (hp.run env fails d.1 d.2).1
  | cons c cs ih =>
    rw [writing, Prog.exec_bind]
    exact ih _

/-- Behind its first write a handler returns 0, if it returns. So all or nothing means that none
of the calls of its writes fails. -/
theorem atomic_writing {cs : List Change} {p : DbmCalls Ending}
    (hp : OnlyReads p fun e => ∀ r, e.value = .ok r → r.result = 0) :
    Atomic env fails (writing cs p) s n ↔ ∀ i, n ≤ i → i < n+2*cs.length → fails i = false := by
  constructor
  · intro h i h₁ h₂
    by_contra hi
    obtain ⟨⟨r, hr, hne⟩, _⟩ := h.failure (writing_fails h₁ h₂ (by simpa using hi))
    exact hne (writing_ends hp (s, n) r hr)
  · intro h
    obtain ⟨hexec, hnone, hchanges⟩ := writing_succeeds env s hp h
    constructor
    · intro r _ _
      refine ⟨hnone, ?_⟩
      rw [calls, hchanges, outcome, hexec, (hp.run env fails _ _).2.1]
      exact congrArg (fun c => { cs.foldl Change.apply s with activeUsers := c })
        (Change.activeUsers_foldl cs s).symm
    · rintro ⟨e, he, hf⟩
      exact absurd hf (hnone e he)

end Writing

end DbmCalls

open DbmCalls

namespace WritingHandler

/-- The `dbm_open` calls in front of the writes. -/
def opens : WritingHandler → ℕ
  | createUser | login | logout => 2
  | destroyUser | createMessage => 3

/-- The number of writes, each with a `dbm_open` and a `dbm_store` or `dbm_delete`. -/
def writes : WritingHandler → ℕ
  | createUser | destroyUser => 3
  | login | logout | createMessage => 1

end WritingHandler

section Accepted

variable (fails : ℕ → Bool) (s : State) (r : Request) (bytes : List UInt8)

/-! The requests that reach the writes. A record whose database could not be opened is not
found. -/

def CreatesUser : Prop :=
  ∃ t d ts x, createNames bytes = .ok (t, d, ts) ∧ found (fails 0) (s.getLoginInfo t) = none ∧
    found (fails 1) (s.getUuidWithDisplayName d) = none ∧ nextField pswdMaxLength ts = .ok x

def DestroysUser : Prop :=
  ∃ d t p sender login, destroyFields bytes = .ok (d, t, p) ∧
    (d.isEmpty || t.isEmpty || p.isEmpty) = false ∧
    s.activeUsers.getConnectedUserByFd r.fd = some sender ∧
    found (fails 2) (s.getLoginInfo t) = some login ∧
    invalidCredentials sender (found (fails 0) (s.getLoginInfo sender.loginToken))
      (found (fails 1) (s.getUserAccount sender.uuid)) d p = .ok false

def LogsIn : Prop :=
  ∃ t p login account, loginFields bytes = .ok (t, p) ∧
    found (fails 0) (s.getLoginInfo t) = some login ∧
    compareStrings login.password.str p.str = true ∧
    compareStrings login.loginToken.str t.str = true ∧
    found (fails 1) (s.getUserAccount login.uuid) = some account ∧
    loggedInElsewhere s.activeUsers account r.clntAddr = false

def LogsOut : Prop :=
  ∃ d ts uuid account, nextField tokenNameLength (fields bytes) = .ok (d, ts) ∧
    found (fails 0) (s.getUuidWithDisplayName d) = some uuid ∧
    found (fails 1) (s.getUserAccount uuid) = some account ∧
    logoutRefused account r.clntAddr = .ok none

def CreatesMessage : Prop :=
  ∃ d ts name content stamp channel user account login,
    nextField tokenNameLength (fields bytes) = .ok (d, ts) ∧ d.str ≠ ascii "200" ∧
    messageFields ts = .ok (name, content, stamp) ∧
    (d.isEmpty || name.isEmpty || content.isEmpty || stamp.isEmpty) = false ∧
    found (fails 0) (s.getChannelInfo r.env name) = some channel ∧
    s.activeUsers.getConnectedUserByDisplayName d = some user ∧
    found (fails 1) (s.getUserAccount user.uuid) = some account ∧
    (account.privilegeLevel = 0 ∨ account.privilegeLevel = 1) ∧
    found (fails 2) (s.getLoginInfo user.loginToken) = some login

end Accepted

/-- The request is complete and gets as far as the writes. -/
def WritingHandler.Accepts (h : WritingHandler) (fails : ℕ → Bool) (s : State) (r : Request)
    (bodySize : ℕ) (bytes : List UInt8) : Prop :=
  bodyIncomplete bodySize bytes = false ∧
    match h with
    | createUser => CreatesUser fails s bytes
    | destroyUser => DestroysUser fails s r bytes
    | login => LogsIn fails s r bytes
    | logout => LogsOut fails s r bytes
    | createMessage => CreatesMessage fails s r bytes

section Handlers

variable {fails : ℕ → Bool} {s : State} {r : Request} {n m : ℕ} {bytes : List UInt8}

theorem atomic_refused {env : Env} {A B : Prop} (e : Ending) (h : ¬A) :
    Atomic env fails (pure e) s m ↔ (A → B) :=
  iff_of_true (atomic_pure e) fun ha => absurd ha h

theorem atomic_accepted {env : Env} {A : Prop} (cs : List Change) {p : DbmCalls Ending}
    (hp : OnlyReads p fun e => ∀ r, e.value = .ok r → r.result = 0) (ha : A) :
    Atomic env fails (writing cs p) s m ↔
      (A → ∀ i, m ≤ i → i < m+2*cs.length → fails i = false) :=
  (atomic_writing hp).trans (imp_iff_right ha).symm

theorem openSession_result {cache : Cache} {fd : ℕ} {account : UserAccount} {login : UserLogin}
    {result : Int} {token : Str} {reply : Reply}
    (h : (DbmCalls.openSession cache fd account login result token).value = .ok reply) :
    reply.result = result := by
  rw [DbmCalls.openSession] at h
  split at h
  · cases h
  · cases h; rfl

theorem createUser_atomic :
    Atomic r.env fails (WritingHandler.createUser.program s.activeUsers r n bytes) s 0 ↔
      (WritingHandler.createUser.Accepts fails s r n bytes →
        ∀ i, 2 ≤ i → i < 2+2*3 → fails i = false) := by
  simp only [WritingHandler.program, WritingHandler.Accepts, DbmCalls.readAndCreateUser]
  cases hn : bodyIncomplete n bytes with
  | true => exact atomic_refused _ (by simp)
  | false =>
    simp only [Bool.false_eq_true, if_false, true_and]
    cases h : createNames bytes with
    | error f => exact atomic_refused _ (by simp [CreatesUser, h])
    | ok x =>
      obtain ⟨t, d, ts⟩ := x
      simp only [atomic_getLoginInfo, atomic_checkDuplicateDisplayName]
      cases ht : found (fails 0) (s.getLoginInfo t) with
      | some l =>
        cases hd : (found (fails 1) (s.getUuidWithDisplayName d)).isSome with
        | true => exact atomic_refused _ (by simp [CreatesUser, h, ht])
        | false => exact atomic_refused _ (by simp [CreatesUser, h, ht])
      | none =>
        cases hd : found (fails 1) (s.getUuidWithDisplayName d) with
        | some u => exact atomic_refused _ (by simp [CreatesUser, h, hd])
        | none =>
          cases hp : nextField pswdMaxLength ts with
          | error f => exact atomic_refused _ (by simp [CreatesUser, h, hp])
          | ok y =>
            obtain ⟨p, us⟩ := y
            refine atomic_accepted [.store .displayNames d r.env.uuid,
              .store .loginInfo t (generateUserLogin t p r.env.uuid),
              .store .userAccount r.env.uuid (generateUserAccount r.env.uuid d)] ?_
              ⟨t, d, ts, _, h, ht, hd, hp⟩
            exact fun _ hr => by cases hr; rfl

theorem destroyUser_atomic :
    Atomic r.env fails (WritingHandler.destroyUser.program s.activeUsers r n bytes) s 0 ↔
      (WritingHandler.destroyUser.Accepts fails s r n bytes →
        ∀ i, 3 ≤ i → i < 3+2*3 → fails i = false) := by
  simp only [WritingHandler.program, WritingHandler.Accepts, DbmCalls.readAndDestroyUser]
  cases hn : bodyIncomplete n bytes with
  | true => exact atomic_refused _ (by simp)
  | false =>
    simp only [Bool.false_eq_true, if_false, true_and]
    cases h : destroyFields bytes with
    | error f => exact atomic_refused _ (by simp [DestroysUser, h])
    | ok x =>
      obtain ⟨d, t, p⟩ := x
      have he := destroyFields_ne_empty h
      simp only [he, Bool.false_eq_true, if_false]
      cases hs : s.activeUsers.getConnectedUserByFd r.fd with
      | none => exact atomic_refused _ (by simp [DestroysUser, hs])
      | some sender =>
        simp only [atomic_getLoginInfo, atomic_getUserAccount]
        cases hl : found (fails 2) (s.getLoginInfo t) with
        | none =>
          have hno : ¬DestroysUser fails s r bytes := by simp [DestroysUser, h, hl]
          simp only [Option.isNone_none, if_true]
          cases found (fails 1) (s.getUserAccount sender.uuid) with
          | none => exact atomic_refused _ hno
          | some account =>
            dsimp only
            split
            · exact atomic_refused _ hno
            · split
              · exact atomic_refused _ hno
              · exact atomic_refused _ hno
              · exact atomic_refused _ hno
        | some login =>
          simp only [Option.isNone_some, Bool.false_eq_true, if_false]
          cases hi : invalidCredentials sender
              (found (fails 0) (s.getLoginInfo sender.loginToken))
              (found (fails 1) (s.getUserAccount sender.uuid)) d p with
          | error f => exact atomic_refused _ (by simp [DestroysUser, h, hs, hi])
          | ok b =>
            cases b with
            | true => exact atomic_refused _ (by simp [DestroysUser, h, hs, hi])
            | false =>
              refine atomic_accepted [.delete .displayNames d,
                .delete .userAccount login.uuid, .delete .loginInfo login.loginToken] ?_
                ⟨d, t, p, sender, login, h, he, hs, hl, hi⟩
              exact fun _ hr => by cases hr; rfl

/-- From the account on: the channels are read behind the write. -/
theorem loginAccount_atomic {t : Name} {p : Password} {login : UserLogin} {account : UserAccount}
    (h : loginFields bytes = .ok (t, p)) (hl : found (fails 0) (s.getLoginInfo t) = some login)
    (hpass : compareStrings login.password.str p.str = true)
    (htoken : compareStrings login.loginToken.str t.str = true)
    (hac : found (fails 1) (s.getUserAccount login.uuid) = some account) :
    Atomic r.env fails
        (DbmCalls.loginAccount s.activeUsers r.fd r.clntAddr login account t) s 2 ↔
      (LogsIn fails s r bytes → ∀ i, 2 ≤ i → i < 2+2*1 → fails i = false) := by
  rw [DbmCalls.loginAccount]
  cases he : loggedInElsewhere s.activeUsers account r.clntAddr with
  | true => exact atomic_refused _ (by simp [LogsIn, h, hl, hac, he])
  | false =>
    refine atomic_accepted [.store .userAccount account.userId
      (loginUserAccount account r.clntAddr)] ?_
      ⟨t, p, login, account, h, hl, hpass, htoken, hac, he⟩
    refine onlyReads_getAllChannels.bind fun channels _ => ?_
    split
    · exact fun _ hr => by cases hr; rfl
    · exact fun _ hr => openSession_result hr

theorem login_atomic :
    Atomic r.env fails (WritingHandler.login.program s.activeUsers r n bytes) s 0 ↔
      (WritingHandler.login.Accepts fails s r n bytes →
        ∀ i, 2 ≤ i → i < 2+2*1 → fails i = false) := by
  simp only [WritingHandler.program, WritingHandler.Accepts, DbmCalls.readAndLoginUser]
  cases hn : bodyIncomplete n bytes with
  | true => exact atomic_refused _ (by simp)
  | false =>
    simp only [Bool.false_eq_true, if_false, true_and]
    cases h : loginFields bytes with
    | error f => exact atomic_refused _ (by simp [LogsIn, h])
    | ok x =>
      obtain ⟨t, p⟩ := x
      simp only [atomic_getLoginInfo]
      cases hl : found (fails 0) (s.getLoginInfo t) with
      | none => exact atomic_refused _ (by simp [LogsIn, h, hl])
      | some login =>
        dsimp only
        cases hpass : compareStrings login.password.str p.str with
        | false => exact atomic_refused _ (by simp [LogsIn, h, hl, hpass])
        | true =>
          cases htoken : compareStrings login.loginToken.str t.str with
          | false => exact atomic_refused _ (by simp [LogsIn, h, hl, htoken])
          | true =>
            simp only [Bool.not_true, Bool.or_self, Bool.false_eq_true, if_false,
              atomic_getUserAccount]
            cases hac : found (fails 1) (s.getUserAccount login.uuid) with
            | none => exact atomic_refused _ (by simp [LogsIn, h, hl, hac])
            | some account => exact loginAccount_atomic h hl hpass htoken hac

theorem logout_atomic :
    Atomic r.env fails (WritingHandler.logout.program s.activeUsers r n bytes) s 0 ↔
      (WritingHandler.logout.Accepts fails s r n bytes →
        ∀ i, 2 ≤ i → i < 2+2*1 → fails i = false) := by
  simp only [WritingHandler.program, WritingHandler.Accepts, DbmCalls.readAndLogoutUser]
  cases hn : bodyIncomplete n bytes with
  | true => exact atomic_refused _ (by simp)
  | false =>
    simp only [Bool.false_eq_true, if_false, true_and]
    cases h : nextField tokenNameLength (fields bytes) with
    | error f => exact atomic_refused _ (by simp [LogsOut, h])
    | ok x =>
      obtain ⟨d, ts⟩ := x
      simp only [atomic_getUuidWithDisplayName]
      cases hu : found (fails 0) (s.getUuidWithDisplayName d) with
      | none => exact atomic_refused _ (by simp [LogsOut, h, hu])
      | some uuid =>
        simp only [atomic_getUserAccount]
        cases hac : found (fails 1) (s.getUserAccount uuid) with
        | none => exact atomic_refused _ (by simp [LogsOut, h, hu, hac])
        | some account =>
          dsimp only
          cases hr : logoutRefused account r.clntAddr with
          | error f => exact atomic_refused _ (by simp [LogsOut, h, hu, hac, hr])
          | ok result =>
            cases result with
            | some result => exact atomic_refused _ (by simp [LogsOut, h, hu, hac, hr])
            | none =>
              refine atomic_accepted [.store .userAccount account.userId
                (logoutUserAccount account)] ?_ ⟨d, ts, uuid, account, h, hu, hac, hr⟩
              exact fun _ hr => by cases hr; rfl

/-- From the channel on. -/
theorem storeNewMessage_atomic {d name : Name} {ts : List Str} {content : CharArray maxMessageSize}
    {stamp : CharArray timestampSize} {forward : Str}
    (h : nextField tokenNameLength (fields bytes) = .ok (d, ts)) (hack : d.str ≠ ascii "200")
    (hm : messageFields ts = .ok (name, content, stamp)) :
    Atomic r.env fails
        (DbmCalls.storeNewMessage s.activeUsers r.env d name content.str stamp forward) s 0 ↔
      (CreatesMessage fails s r bytes → ∀ i, 3 ≤ i → i < 3+2*1 → fails i = false) := by
  rw [DbmCalls.storeNewMessage, atomic_getChannelInfo]
  cases hc : found (fails 0) (s.getChannelInfo r.env name) with
  | none => exact atomic_refused _ (by simp [CreatesMessage, h, hm, hc])
  | some channel =>
    dsimp only
    cases hu : s.activeUsers.getConnectedUserByDisplayName d with
    | none => exact atomic_refused _ (by simp [CreatesMessage, h, hm, hu])
    | some user =>
      simp only [atomic_getUserAccount]
      cases hac : found (fails 1) (s.getUserAccount user.uuid) with
      | none => exact atomic_refused _ (by simp [CreatesMessage, h, hm, hu, hac])
      | some account =>
        dsimp only
        by_cases hpriv : account.privilegeLevel ≠ 0 ∧ account.privilegeLevel ≠ 1
        · rw [if_pos hpriv]
          exact atomic_refused _ (by simp [CreatesMessage, h, hm, hu, hac, hpriv.1, hpriv.2])
        · rw [if_neg hpriv, atomic_getLoginInfo]
          cases hl : found (fails 2) (s.getLoginInfo user.loginToken) with
          | none => exact atomic_refused _ (by simp [CreatesMessage, h, hm, hu, hl])
          | some login =>
            refine atomic_accepted [.store .messageInfo r.env.uuid
              (generateMessage r.env login channel content.str stamp)] ?_
              ⟨d, ts, name, content, stamp, channel, user, account, login, h, hack, hm,
                messageFields_ne_empty h hm, hc, hu, hac, by omega, hl⟩
            exact fun _ hr => by cases hr; rfl

theorem createMessage_atomic :
    Atomic r.env fails (WritingHandler.createMessage.program s.activeUsers r n bytes) s 0 ↔
      (WritingHandler.createMessage.Accepts fails s r n bytes →
        ∀ i, 3 ≤ i → i < 3+2*1 → fails i = false) := by
  simp only [WritingHandler.program, WritingHandler.Accepts, DbmCalls.readAndCreateMessage]
  cases hn : bodyIncomplete n bytes with
  | true => exact atomic_refused _ (by simp)
  | false =>
    simp only [Bool.false_eq_true, if_false, true_and]
    cases h : nextField tokenNameLength (fields bytes) with
    | error f => exact atomic_refused _ (by simp [CreatesMessage, h])
    | ok x =>
      obtain ⟨d, ts⟩ := x
      dsimp only
      by_cases hack : d.str = ascii "200"
      · rw [if_pos hack]
        exact atomic_refused _ (by simp [CreatesMessage, h, hack])
      · rw [if_neg hack]
        cases hm : messageFields ts with
        | error f => exact atomic_refused _ (by simp [CreatesMessage, h, hm])
        | ok y =>
          obtain ⟨name, content, stamp⟩ := y
          simp only [messageFields_ne_empty h hm, Bool.false_eq_true, if_false]
          exact storeNewMessage_atomic h hack hm

end Handlers

/-- A request is all or nothing if and only if it is refused before its first write, or none of the
calls of its writes fails. -/
theorem storage_atomic_iff (h : WritingHandler) (fails : ℕ → Bool) (s : State) (r : Request)
    (n : ℕ) (bytes : List UInt8) :
    AllOrNothing s (outcome r.env fails (h.program s.activeUsers r n bytes) s 0)
        (calls r.env fails (h.program s.activeUsers r n bytes) s 0) ↔
      (h.Accepts fails s r n bytes →
        ∀ i, h.opens ≤ i → i < h.opens+2*h.writes → fails i = false) := by
  cases h with
  | createUser => exact createUser_atomic
  | destroyUser => exact destroyUser_atomic
  | login => exact login_atomic
  | logout => exact logout_atomic
  | createMessage => exact createMessage_atomic

namespace Client

/-- The login record of a new user is not stored, and the request is answered with success. -/
theorem half_registered :
    let r := createUser 5 "10.0.0.1" "bob" "Bob" "pw" "22222222-2222-2222-2222-222222222222"
    let bytes := body ["bob", "Bob", "pw"]
    let p := WritingHandler.createUser.program start.state.activeUsers r bytes.length bytes
    ¬AllOrNothing start.state (outcome r.env (· == 4) p start.state 0)
      (calls r.env (· == 4) p start.state 0) := by
  intro r bytes p h
  have hnone := createUser_atomic.mp h ⟨by decide, ?_⟩ 4 (by decide) (by decide)
  · exact absurd hnone (by decide)
  · exact ⟨CharArray.strncpy _ (ascii "bob"), CharArray.strncpy _ (ascii "Bob"), [ascii "pw"],
      (CharArray.strncpy _ (ascii "pw"), []), by decide, by decide, by decide, by decide⟩

end Client


end ChatServer
