import ChatServer.DbmCalls
import ChatServer.Limits
import ChatServer.Machine.Agreement
import ChatServer.WrapperRefinement

/-!
# The wrapper calls are those of the handlers

The programs of wrapper calls and the handlers of `handle_request` are two readings of the same C
functions, over bytes and over strings. With strings that end in their arrays they agree: where the
files hold the records of the databases, and the memory the sessions of the cache, a program leaves
the files and the memory of what its handler leaves.
-/

namespace ChatServer

open CLib

/-- The arrays of a session. -/
def ConnectedUser.session (u : ConnectedUser) : Session :=
  ⟨u.fd, u.dsplyName.bytes, u.ipAddress.bytes, u.loginToken.bytes, u.uuid.bytes, u.privilegeLevel⟩

/-- The process runs, with the sessions of the state in use and the authors of its messages. What
the slots behind the sessions hold does not matter. -/
structure Memory.Of (m : Memory) (s : State) : Prop where
  size : m.slots.length = maxClients
  compact : Slots.Compact Session.named m.slots
  live : m.live = s.activeUsers.live.map ConnectedUser.session
  senders : s.messagesInfo.All fun _ x => x.userId.bytes ∈ m.senders
  running : m.running = true

/-- The program leaves the files of the state that the handler leaves, and its memory if the handler
returns. -/
structure Implements (p : Calls Memory) (f : Files) (out : Outcome) : Prop where
  files : Represents (p.exec WrapperCall.onFiles f).2 out.state
  senders : out.state.messagesInfo.All fun _ x =>
    x.userId.bytes ∈ (p.exec WrapperCall.onFiles f).1.senders
  memory : ∀ reply, out.value = .ok reply → (p.exec WrapperCall.onFiles f).1.Of out.state

section Records

variable {n : ℕ}

theorem nextBuffer_of_error {fs : List Str} {e : Fault} (h : nextField n fs = .error e) :
    nextBuffer n fs = none := by
  cases fs with
  | nil => rfl
  | cons t ts =>
    rw [nextBuffer, if_neg]
    intro ht
    exact ne_cons_of_nextField h ⟨t, ht⟩ ts rfl

theorem nextBuffer_of_ok {fs ts : List Str} {a : CharArray n} (h : nextField n fs = .ok (a, ts)) :
    nextBuffer n fs = some (a.bytes, ts) := by
  rw [nextField_eq_ok.mp h, nextBuffer, if_pos a.fits, CharArray.strncpy_zeroed a.fits]

/-- Comparing the strings at two buffers is comparing the arrays. -/
theorem cstr_eq_iff {a b : CharArray n} (ha : 0 ∉ a.str) (hb : 0 ∉ b.str) :
    cstr a.bytes = cstr b.bytes ↔ a = b := by
  rw [CharArray.cstr_bytes ha, CharArray.cstr_bytes hb, CharArray.ext_iff]

theorem cstr_eq_admin_iff {a : Name} (ha : 0 ∉ a.str) :
    cstr a.bytes = ascii "admin" ↔ a = adminName := by
  rw [CharArray.cstr_bytes ha, CharArray.ext_iff]
  exact Iff.rfl

/-- `strncpy` of a whole array to another one of its size. -/
theorem strncpy_bytes {dst : List UInt8} (hd : dst.length = n) {a : CharArray n}
    (ha : 0 ∉ a.str) : strncpy dst (cstr a.bytes) n = a.bytes := by
  rw [CharArray.strncpy_full hd, CharArray.cstr_bytes ha, CharArray.strncpy_str]

theorem LoginRecord.generate_bytes {t : Name} {p : Password} {u : Uuid} (ht : 0 ∉ t.str)
    (hp : 0 ∉ p.str) (hu : 0 ∉ u.str) :
    LoginRecord.generate t.bytes p.bytes u.bytes = (generateUserLogin t p u).record := by
  rw [LoginRecord.generate, strncpy_bytes (length_zeroed _) ht, strncpy_bytes (length_zeroed _) hp,
    strncpy_bytes (length_zeroed _) hu]
  rfl

theorem AccountRecord.generate_bytes {u : Uuid} {d : Name} (hu : 0 ∉ u.str) (hd : 0 ∉ d.str) :
    AccountRecord.generate u.bytes d.bytes = (generateUserAccount u d).record := by
  rw [AccountRecord.generate, strncpy_bytes (length_zeroed _) hu,
    strncpy_bytes (length_zeroed _) hd, CharArray.strncpy_full (length_zeroed _)]
  simp only [cstr_eq_admin_iff hd]
  rfl

variable {a : UserAccount} (ha : cStrings.Account a)
include ha

theorem AccountRecord.login_record {addr : IpAddr} :
    a.record.login addr = (loginUserAccount a addr).record := by
  have haddr : strncpy a.ipAddr.bytes addr.str clntIpAddrLength = addr.bytes := by
    rw [CharArray.strncpy_full a.ipAddr.length_bytes, CharArray.strncpy_str]
  have hname : cstr a.displayName.bytes = ascii "admin" ↔ a.displayName = adminName :=
    cstr_eq_admin_iff ha.name.clean
  simp only [AccountRecord.login, UserAccount.record, loginUserAccount, haddr, hname]

omit ha in
theorem AccountRecord.logout_record : a.record.logout = (logoutUserAccount a).record := by
  have haddr : strncpy a.ipAddr.bytes (ascii "0") clntIpAddrLength =
      (CharArray.strncpy clntIpAddrLength (ascii "0")).bytes :=
    CharArray.strncpy_full a.ipAddr.length_bytes _
  simp only [AccountRecord.logout, UserAccount.record, logoutUserAccount, haddr]

theorem Account.clean : a.Clean := ⟨ha.id, ha.name.clean, ha.addr.clean⟩

theorem newSession_record {l : UserLogin} (hl : cStrings.Login l) (fd : ℕ) :
    Memory.newSession fd a.record l.record = (Cache.newSession fd a l).session := by
  have hcopy : ∀ {n : ℕ} {x : CharArray n}, x.Text → strcpy (zeroed n) (cstr x.bytes) = x.bytes :=
    fun hx => by rw [CharArray.cstr_bytes hx.clean, CharArray.strcpy_zeroed hx.short]
  simp only [Memory.newSession, UserAccount.record, UserLogin.record, hcopy ha.name,
    hcopy ha.addr, hcopy hl.token, hcopy ha.id, ConnectedUser.session, Cache.newSession]

end Records

theorem Represents.congr {f : Files} {s s' : State} (h : Represents f s)
    (hl : s'.userLoginInfo = s.userLoginInfo) (hn : s'.displayNames = s.displayNames)
    (ha : s'.userAccountInfo = s.userAccountInfo) : Represents f s' := by
  obtain ⟨h₁, h₂, h₃, h₄, h₅, h₆⟩ := h
  refine ⟨?_, ?_, ?_, ?_, ?_, ?_⟩ <;> simpa only [hl, hn, ha]

namespace Memory.Of

variable {m : Memory} {s : State} (h : m.Of s)
include h

theorem congr {s' : State} (hcache : s'.activeUsers = s.activeUsers)
    (hmessages : s'.messagesInfo = s.messagesInfo) : m.Of s' := by
  refine ⟨h.size, h.compact, ?_, ?_, h.running⟩
  · rw [hcache]
    exact h.live
  · rw [hmessages]
    exact h.senders

theorem find? (hs : cStrings.Holds s) {p : Session → Bool} {q : ConnectedUser → Bool}
    (hq : ∀ u, cStrings.Session u → p u.session = q u) :
    m.live.find? p = (s.activeUsers.live.find? q).map ConnectedUser.session := by
  rw [h.live, List.find?_map]
  exact congrArg _ (Machine.find?_live hs hq)

theorem any (hs : cStrings.Holds s) {p : Session → Bool} {q : ConnectedUser → Bool}
    (hq : ∀ u, cStrings.Session u → p u.session = q u) :
    m.live.any p = s.activeUsers.live.any q := by
  rw [h.live, List.any_map]
  exact Machine.any_live hs hq

theorem length_live : m.live.length = s.activeUsers.getNumConnectedUsers := by
  rw [h.live, List.length_map, s.activeUsers.length_live]

/-- Without a free slot neither of them goes on. -/
theorem insertUserInCache_full {fd : ℕ} {a : UserAccount} {l : UserLogin}
    (hc : s.activeUsers.insertUserInCache fd a l = none) :
    m.insertUserInCache fd a.record l.record = m.dead := by
  rw [Memory.insertUserInCache, if_neg]
  intro hroom
  rw [h.length_live] at hroom
  rw [Cache.insertUserInCache, if_pos hroom] at hc
  cases hc

/-- The slot behind the sessions in use takes the new one. -/
theorem insertUserInCache {fd : ℕ} {a : UserAccount} {l : UserLogin} {c : Cache}
    (ha : cStrings.Account a) (hl : cStrings.Login l) (hname : a.displayName.isEmpty = false)
    (hc : s.activeUsers.insertUserInCache fd a l = some c) :
    (m.insertUserInCache fd a.record l.record).Of { s with activeUsers := c } := by
  have hroom : m.live.length < maxClients := by
    rw [h.length_live]
    by_contra hfull
    rw [Cache.insertUserInCache, if_neg hfull] at hc
    cases hc
  have hnamed : (Cache.newSession fd a l).session.named = true := by
    obtain ⟨b, bs, hb⟩ : ∃ b bs, a.displayName.str = b :: bs :=
      List.exists_cons_of_ne_nil (by simpa [CharArray.isEmpty] using hname)
    have hb0 : b ≠ 0 := fun h0 => ha.name.clean (by rw [hb, h0]; exact List.mem_cons_self)
    have hbytes : a.displayName.bytes.headD 0 = b := by
      rw [CharArray.bytes, hb]
      rfl
    exact decide_eq_true (by rw [← hbytes] at hb0; exact hb0)
  rw [Memory.insertUserInCache, if_pos hroom, newSession_record ha hl]
  refine ⟨?_, h.compact.set _, ?_, h.senders, h.running⟩
  · rw [List.length_set]
    exact h.size
  · rw [Memory.live, Memory.live, Slots.live_set hnamed h.compact (by rw [h.size]; exact hroom),
      Cache.live_insertUserInCache hname hc, List.map_append, ← Memory.live, h.live]
    rfl

theorem removeUserInCache (hs : cStrings.Holds s) {d : Name} (hd : 0 ∉ d.str) :
    (m.removeUserInCache d.bytes).Of
      { s with activeUsers := s.activeUsers.removeUserInCache d } := by
  have hblank : ∀ u : Session, u.blank.named = false := by
    intro u
    cases hu : u.dsplyName <;> simp [Session.named, Session.blank, hu]
  have hremove := Slots.removeFirst_live
    (fun u : Session => decide (cstr u.dsplyName = cstr d.bytes)) Session.blank hblank h.compact
  refine ⟨?_, hremove.2, ?_, h.senders, h.running⟩
  · refine (Slots.length_removeFirst _ _ ?_).trans h.size
    exact (List.takeWhile_sublist _).length_le
  · refine hremove.1.trans ?_
    rw [Cache.live_removeUserInCache, ← Memory.live, h.live, List.eraseP_map]
    congr 1
    rw [List.eraseP_eq_eraseIdx, List.eraseP_eq_eraseIdx, Slots.findIdx?_congr]
    exact fun u hu => decide_eq_decide.mpr (cstr_eq_iff (hs.sessions u hu).name.clean hd)

end Memory.Of

namespace Implements

open WrapperCall

variable {m : Memory} {f : Files} {s : State} {out : Outcome}

theorem done (hf : Represents f out.state) (hm : m.Of out.state) : Implements (pure m) f out :=
  ⟨hf, hm.senders, fun _ _ => hm⟩

theorem unchanged (hf : Represents f s) (hm : m.Of s) (h : out.state = s) :
    Implements (pure m) f out := by
  rw [← h] at hf hm
  exact .done hf hm

/-- A handler that does not return leaves its databases; nothing is left of the memory. -/
theorem fault (hf : Represents f s) (hm : m.Of s) (e : Fault) :
    Implements (pure m.dead) f (.fault s e) := ⟨hf, hm.senders, fun _ h => by cases h⟩

theorem perform {c : WrapperCall} {k : c.Answer → Calls Memory}
    (h : Implements (k (c.onFiles f).1) (c.onFiles f).2 out) :
    Implements (Prog.perform c >>= k) f out := ⟨h.files, h.senders, h.memory⟩

/-- A call that only asks, with the answer known. -/
theorem answered {c : WrapperCall} {a : c.Answer} (hc : c.onFiles f = (a, f))
    {k : c.Answer → Calls Memory} (h : Implements (k a) f out) :
    Implements (Prog.perform c >>= k) f out := by
  apply perform
  rw [hc]
  exact h

section Lookups

variable (hf : Represents f s)
include hf

theorem getLoginInfo {t : Name} (ht : t.Text) {k : Option LoginRecord → Calls Memory}
    (h : Implements (k ((s.getLoginInfo t).map UserLogin.record)) f out) :
    Implements (Prog.perform (getLoginInfo t.bytes) >>= k) f out :=
  answered (c := .getLoginInfo t.bytes) (congrArg (·, f) (hf.getLoginInfo ht)) h

theorem getUserAccount {u : Uuid} (hu : u.Text) {k : Option AccountRecord → Calls Memory}
    (h : Implements (k ((s.getUserAccount u).map UserAccount.record)) f out) :
    Implements (Prog.perform (getUserAccount u.bytes) >>= k) f out :=
  answered (c := .getUserAccount u.bytes) (congrArg (·, f) (hf.getUserAccount hu)) h

theorem getUuidWithDisplayName {d : Name} (hd : d.Text) {heap : List UInt8}
    {k : Option (List UInt8) → Calls Memory}
    (h : Implements (k ((s.getUuidWithDisplayName d).map CharArray.bytes)) f out) :
    Implements (Prog.perform (getUuidWithDisplayName d.bytes heap) >>= k) f out :=
  answered (c := .getUuidWithDisplayName d.bytes heap)
    (congrArg (·, f) (hf.getUuidWithDisplayName hd heap)) h

theorem checkDuplicateDisplayName {d : Name} (hd : d.Text) {k : Bool → Calls Memory}
    (h : Implements (k (s.checkDuplicateDisplayName d)) f out) :
    Implements (Prog.perform (checkDuplicateDisplayName d.bytes) >>= k) f out :=
  answered (c := .checkDuplicateDisplayName d.bytes)
    (congrArg (·, f) (hf.checkDuplicateDisplayName hd)) h

end Lookups

end Implements

namespace HandlerCalls

section Users

variable {m : Memory} {f : Files} {s : State} {r : Request} {n : ℕ} {bytes : List UInt8}
  (hm : m.Of s) (hf : Represents f s) (hn : bodyIncomplete n bytes = false)
include hm hf hn

theorem implements_createUser (h : ∀ x ∈ limits (fields bytes) .createUser, x.1.length ≤ x.2)
    (hu : 0 ∉ r.env.uuid.str ∧ r.env.uuid.str.length = 36) :
    Implements (createUser m r (fields bytes)) f (readAndCreateUser s r.env n bytes) := by
  have huuid : strcpy (malloc r.env.heap uuidLen) r.env.uuid.str = r.env.uuid.bytes :=
    CharArray.strcpy_exact (length_malloc _ _) (by rw [hu.2])
  have hut : r.env.uuid.Text := ⟨hu.1, by rw [hu.2]; decide⟩
  rw [createUser, readAndCreateUser, ← DbmCalls.createNames, hn, if_neg Bool.false_ne_true]
  cases h₁ : nextField tokenNameLength (fields bytes) with
  | error e =>
    have hnames : DbmCalls.createNames bytes = .error e := by
      rw [DbmCalls.createNames, h₁]
      rfl
    rw [nextBuffer_of_error h₁, hnames]
    exact .fault hf hm e
  | ok x =>
    obtain ⟨t, ts⟩ := x
    have hfs := nextField_eq_ok.mp h₁
    have ht : t.Text := Machine.text_of_limits h (by simp [hfs]) (c := 20)
      (by simp [hfs, limits]) (by decide)
    rw [nextBuffer_of_ok h₁]
    dsimp only
    cases h₂ : nextField tokenNameLength ts with
    | error e =>
      have hnames : DbmCalls.createNames bytes = .error e := by
        simp only [DbmCalls.createNames, bind, Except.bind, h₁, h₂]
      rw [nextBuffer_of_error h₂, hnames]
      exact .fault hf hm e
    | ok y =>
      obtain ⟨d, us⟩ := y
      rw [nextField_eq_ok.mp h₂] at hfs
      have hd : d.Text := Machine.text_of_limits h (by simp [hfs]) (c := 20)
        (by simp [hfs, limits]) (by decide)
      have hnames : DbmCalls.createNames bytes = .ok (t, d, us) := by
        simp only [DbmCalls.createNames, bind, Except.bind, pure, Except.pure, h₁, h₂]
      rw [nextBuffer_of_ok h₂, hnames]
      dsimp only
      refine .getLoginInfo hf ht (.checkDuplicateDisplayName hf hd ?_)
      rw [Option.isSome_map]
      cases s.getLoginInfo t with
      | some l =>
        cases s.checkDuplicateDisplayName d with
        | true => exact .done hf hm
        | false => exact .done hf hm
      | none =>
        cases s.checkDuplicateDisplayName d with
        | true => exact .done hf hm
        | false =>
          cases h₃ : nextField pswdMaxLength us with
          | error e =>
            simp only [nextBuffer_of_error h₃]
            exact .fault hf hm e
          | ok z =>
            obtain ⟨p, vs⟩ := z
            rw [nextField_eq_ok.mp h₃] at hfs
            have hmem : p.str ∈ fields bytes := by simp [hfs]
            have hp : 0 ∉ p.str := zero_not_mem_field hmem
            simp only [nextBuffer_of_ok h₃]
            have hlogin : (generateUserLogin t p r.env.uuid).Clean := ⟨ht, hp, hut⟩
            have haccount : (generateUserAccount r.env.uuid d).Clean :=
              ⟨hut, hd.clean, cStrings.addr_none.clean⟩
            refine .perform (.perform (.perform (.done ?_ (hm.congr rfl rfl))))
            simp only [WrapperCall.onFiles, huuid, LoginRecord.generate_bytes ht.clean hp hut.clean,
              AccountRecord.generate_bytes hut.clean hd.clean]
            exact ((hf.insertDisplayName hd hut).insertUserLogin hlogin).insertUserAccount haccount

omit hn in
/-- The part behind the lookups, for any outcome of the credential check. -/
theorem implements_removeUser {d : Name} (hd : d.Text) {loginInfo : Option UserLogin}
    (hl : ∀ l ∈ loginInfo, cStrings.Login l) (check : Except Fault Bool) :
    Implements (removeUser m d.bytes (loginInfo.map UserLogin.record) check.toOption) f
      (match check with
        | .error e => .fault s e
        | .ok true => .reply s errorDestroyUserInvalidCredentials []
        | .ok false => ChatServer.removeUser s d loginInfo) := by
  cases check with
  | error e => exact .fault hf hm e
  | ok b =>
    cases b with
    | true => exact .done hf hm
    | false =>
      cases loginInfo with
      | none => exact .fault hf hm _
      | some l =>
        obtain ⟨htoken, _, huuid⟩ := hl l rfl
        refine .perform (.perform (.perform (.done ?_ (hm.congr rfl rfl))))
        exact ((hf.removeDisplayName hd).removeUserAccount huuid).removeUserLogin htoken

omit hm hf hn in
/-- The comparisons of the buffers are those of the strings. -/
theorem invalidCredentials_bytes {sender : ConnectedUser} {senderLogin : Option UserLogin}
    {d : Name} {p : Password} (hsender : cStrings.Session sender)
    (hl : ∀ l ∈ senderLogin, cStrings.Login l) (senderAccount : Option UserAccount) (hd : d.Text)
    (hp : p.Text) :
    invalidCredentials sender.session (senderLogin.map UserLogin.record)
        (senderAccount.map UserAccount.record) d.bytes p.bytes =
      (ChatServer.invalidCredentials sender senderLogin senderAccount d p).toOption := by
  have hname : cstr sender.session.dsplyName = cstr d.bytes ↔ sender.dsplyName = d :=
    cstr_eq_iff hsender.name.clean hd.clean
  rw [invalidCredentials.eq_def, ChatServer.invalidCredentials.eq_def]
  by_cases hsame : sender.dsplyName = d
  · rw [if_pos (hname.mpr hsame), if_pos hsame]
    rfl
  · rw [if_neg (mt hname.mp hsame), if_neg hsame]
    cases senderLogin with
    | none => rfl
    | some l =>
      have hpassword : cstr l.record.password = cstr p.bytes ↔ l.password = p :=
        cstr_eq_iff (hl l rfl).password.clean hp.clean
      dsimp only [Option.map_some]
      by_cases hpw : l.password = p
      · rw [if_pos (hpassword.mpr hpw), if_pos hpw]
        rfl
      · rw [if_neg (mt hpassword.mp hpw), if_neg hpw]
        cases senderAccount with
        | none => rfl
        | some a => rfl

omit hm hf hn in
/-- Without the three fields the program does not get to a call. -/
theorem destroyUser_of_error {e : Fault} (h : destroyFields bytes = .error e) :
    destroyUser m r (fields bytes) = pure m.dead := by
  rw [destroyUser]
  cases h₁ : nextField tokenNameLength (fields bytes) with
  | error _ => rw [nextBuffer_of_error h₁]
  | ok x =>
    obtain ⟨d, ts⟩ := x
    rw [nextBuffer_of_ok h₁]
    cases h₂ : nextField tokenNameLength ts with
    | error _ => simp only [nextBuffer_of_error h₂]
    | ok y =>
      obtain ⟨t, us⟩ := y
      cases h₃ : nextField pswdMaxLength us with
      | error _ => simp only [nextBuffer_of_ok h₂, nextBuffer_of_error h₃]
      | ok z =>
        rw [destroyFields_eq_ok.mpr ⟨ts, us, z.2, h₁, h₂, h₃⟩] at h
        cases h

theorem implements_destroyUser (hs : cStrings.Holds s)
    (h : ∀ x ∈ limits (fields bytes) .destroyUser, x.1.length ≤ x.2) :
    Implements (destroyUser m r (fields bytes)) f (readAndDestroyUser s r.fd n bytes) := by
  rw [readAndDestroyUser, hn, if_neg Bool.false_ne_true]
  cases hdest : destroyFields bytes with
  | error e =>
    rw [destroyUser_of_error hdest]
    exact .fault hf hm e
  | ok x =>
    obtain ⟨d, t, p⟩ := x
    obtain ⟨ts, us, vs, h₁, h₂, h₃⟩ := destroyFields_eq_ok.mp hdest
    obtain ⟨rest, hfs⟩ := destroyFields_iff_fields.mp hdest
    have hd : d.Text := Machine.text_of_limits h (by simp [hfs]) (c := 20)
      (by simp [hfs, limits]) (by decide)
    have ht : t.Text := Machine.text_of_limits h (by simp [hfs]) (c := 20)
      (by simp [hfs, limits]) (by decide)
    have hp : p.Text := Machine.text_of_limits h (by simp [hfs]) (c := 30)
      (by simp [hfs, limits]) (by decide)
    have hempty := destroyFields_ne_empty hdest
    simp only [destroyUser, nextBuffer_of_ok h₁, nextBuffer_of_ok h₂, nextBuffer_of_ok h₃,
      CharArray.cstr_bytes hd.clean, CharArray.cstr_bytes ht.clean, CharArray.cstr_bytes hp.clean]
    have hfind : m.live.find? (fun u => u.fd = r.fd) =
        (s.activeUsers.getConnectedUserByFd r.fd).map ConnectedUser.session :=
      hm.find? hs fun _ _ => rfl
    rw [← CharArray.isEmpty, ← CharArray.isEmpty, ← CharArray.isEmpty, hempty,
      if_neg Bool.false_ne_true, if_neg Bool.false_ne_true, destroyNamed, hfind]
    cases hsender : s.activeUsers.getConnectedUserByFd r.fd with
    | none => exact .fault hf hm _
    | some sender =>
      have hsess := hs.sessions sender (List.mem_of_find?_eq_some hsender)
      have hlogins : ∀ t' : Name, ∀ l ∈ s.getLoginInfo t', cStrings.Login l :=
        fun t' l hl => (hs.logins t' l hl).2
      have hcheck := invalidCredentials_bytes hsess (hlogins sender.loginToken)
        (s.getUserAccount sender.uuid) hd hp
      dsimp only [Option.map_some]
      rw [strncpy_bytes (length_malloc _ _) ht.clean, CharArray.cstr_bytes ht.clean,
        CharArray.set_terminator]
      refine .getLoginInfo hf hsess.token (.getUserAccount hf hsess.uuid (.getLoginInfo hf ht ?_))
      rw [hcheck]
      generalize ChatServer.invalidCredentials sender (s.getLoginInfo sender.loginToken)
        (s.getUserAccount sender.uuid) d p = check
      have hremove := implements_removeUser hm hf hd (hlogins t) check
      cases hl : s.getLoginInfo t with
      | some l =>
        rw [hl] at hremove
        exact hremove
      | none =>
        rw [hl] at hremove
        cases s.getUserAccount sender.uuid with
        | none => exact .fault hf hm _
        | some a =>
          change Implements (if a.privilegeLevel = 1 then _ else _) f
            (if a.privilegeLevel = 1 then _ else _)
          by_cases hpriv : a.privilegeLevel = 1
          · rw [if_pos hpriv, if_pos hpriv]
            exact .done hf hm
          · rw [if_neg hpriv, if_neg hpriv]
            exact hremove

end Users

section Sessions

variable {m : Memory} {f : Files} {s : State} {r : Request} {n : ℕ} {bytes : List UInt8}
  (hm : m.Of s) (hf : Represents f s) (hs : cStrings.Holds s)
include hm hf hs

omit hs in
theorem implements_openSession {l : UserLogin} {a : UserAccount} (hl : cStrings.Login l)
    (ha : cStrings.Account a) (hname : a.displayName.isEmpty = false) (result : Int) (token : Str) :
    Implements (pure (m.insertUserInCache r.fd a.record l.record)) f
      (openSession s r.fd a l result token) := by
  rw [openSession]
  cases hc : s.activeUsers.insertUserInCache r.fd a l with
  | none =>
    rw [hm.insertUserInCache_full hc]
    exact .fault hf hm _
  | some c => exact .done (hf.congr rfl rfl rfl) (hm.insertUserInCache ha hl hname hc)

omit hf in
theorem loggedInElsewhere_record {a : UserAccount} (ha : cStrings.Account a) (addr : IpAddr) :
    m.loggedInElsewhere a.record addr = loggedInElsewhere s.activeUsers a addr := by
  refine hm.any hs fun u hu => decide_eq_decide.mpr (and_congr ?_ (and_congr ?_ Iff.rfl))
  · exact cstr_eq_iff hu.name.clean ha.name.clean
  · change cstr u.ipAddress.bytes ≠ addr.str ↔ _
    rw [CharArray.cstr_bytes hu.addr.clean]
    exact not_congr CharArray.ext_iff.symm

omit hf in
theorem findConnectedUserWithSameCred_record {a : UserAccount} (ha : cStrings.Account a) (fd : ℕ) :
    m.findConnectedUserWithSameCred a.record fd =
      s.activeUsers.findConnectedUserWithSameCred a fd := by
  refine hm.any hs fun u hu => decide_eq_decide.mpr (and_congr ?_ (and_congr ?_ Iff.rfl))
  · exact cstr_eq_iff ha.addr.clean hu.addr.clean
  · exact cstr_eq_iff ha.name.clean hu.name.clean

theorem implements_loginAccount {l : UserLogin} {a : UserAccount} (hl : cStrings.Login l)
    (ha : cStrings.Account a) (hname : a.displayName.isEmpty = false) (haddr : r.clntAddr.Text)
    (t : Name) :
    Implements (loginAccount m r l.record a.record) f
      (ChatServer.loginAccount s r.env r.fd r.clntAddr l a t) := by
  rw [loginAccount, ChatServer.loginAccount, loggedInElsewhere_record hm hs ha]
  cases loggedInElsewhere s.activeUsers a r.clntAddr with
  | true => exact implements_openSession hm hf hl ha hname _ _
  | false =>
    have ha' : cStrings.Account (loginUserAccount a r.clntAddr) := ⟨ha.id, ha.name, haddr⟩
    have hm' : m.Of (s.insertUserAccount (loginUserAccount a r.clntAddr)) := hm.congr rfl rfl
    have hf' := hf.insertUserAccount (Account.clean ha')
    simp only [Bool.false_eq_true, if_false, AccountRecord.login_record ha,
      findConnectedUserWithSameCred_record hm hs ha', State.insertUserAccount_activeUsers]
    refine .perform ?_
    change Implements _ (f.insertUserAccount (a.record.login r.clntAddr)) _
    rw [AccountRecord.login_record ha]
    cases s.activeUsers.findConnectedUserWithSameCred (loginUserAccount a r.clntAddr) r.fd with
    | true => exact .done hf' hm'
    | false => exact implements_openSession hm' hf' hl ha' hname _ _

theorem implements_login (hk : KeyedState s) (haddr : r.clntAddr.Text)
    (h : ∀ x ∈ limits (fields bytes) .login, x.1.length ≤ x.2)
    (hn : bodyIncomplete n bytes = false) :
    Implements (login m r (fields bytes)) f
      (readAndLoginUser s r.env r.fd r.clntAddr n bytes) := by
  rw [readAndLoginUser, hn, if_neg Bool.false_ne_true]
  cases hlogin : loginFields bytes with
  | error e =>
    have hdead : login m r (fields bytes) = pure m.dead := by
      rw [login]
      cases h₁ : nextField tokenNameLength (fields bytes) with
      | error _ => rw [nextBuffer_of_error h₁]
      | ok x =>
        obtain ⟨t, ts⟩ := x
        rw [nextBuffer_of_ok h₁]
        cases h₂ : nextField pswdMaxLength ts with
        | error _ => simp only [nextBuffer_of_error h₂]
        | ok y =>
          rw [loginFields_eq_ok.mpr ⟨ts, y.2, h₁, h₂⟩] at hlogin
          cases hlogin
    rw [hdead]
    exact .fault hf hm e
  | ok x =>
    obtain ⟨t, p⟩ := x
    obtain ⟨ts, us, h₁, h₂⟩ := loginFields_eq_ok.mp hlogin
    have hfs := nextField_eq_ok.mp h₁
    rw [nextField_eq_ok.mp h₂] at hfs
    have ht : t.Text := Machine.text_of_limits h (by simp [hfs]) (c := 20)
      (by simp [hfs, limits]) (by decide)
    have hp : p.Text := Machine.text_of_limits h (by simp [hfs]) (c := 30)
      (by simp [hfs, limits]) (by decide)
    simp only [login, nextBuffer_of_ok h₁, nextBuffer_of_ok h₂]
    refine .getLoginInfo hf ht ?_
    cases hl : s.getLoginInfo t with
    | none => exact .done hf hm
    | some l =>
      have hlogin := (hs.logins t l hl).2
      have hpassword : cstr l.record.password = l.password.str :=
        CharArray.cstr_bytes hlogin.password.clean
      have htoken : cstr l.record.loginToken = l.loginToken.str :=
        CharArray.cstr_bytes hlogin.token.clean
      simp only [Option.map_some, hpassword, htoken, CharArray.cstr_bytes hp.clean,
        CharArray.cstr_bytes ht.clean]
      cases !compareStrings l.password.str p.str || !compareStrings l.loginToken.str t.str with
      | true => exact .done hf hm
      | false =>
        have hcopy : strncpy (malloc r.env.heap uuidLen) (cstr l.record.uuid) uuidLen =
            l.uuid.bytes := strncpy_bytes (length_malloc _ _) hlogin.uuid.clean
        rw [if_neg Bool.false_ne_true, if_neg Bool.false_ne_true, hcopy,
          CharArray.cstr_bytes hlogin.uuid.clean, CharArray.set_terminator]
        refine .getUserAccount hf hlogin.uuid ?_
        cases ha : s.getUserAccount l.uuid with
        | none => exact .fault hf hm _
        | some a =>
          exact implements_loginAccount hm hf hs hlogin (hs.accounts l.uuid a ha).2
            (hk.named l.uuid a ha) haddr t

/-- The switch over the privilege, and what follows it. -/
theorem implements_logoutAccount {a : UserAccount} (ha : cStrings.Account a) :
    Implements
      (if a.record.privilegeLevel = 0 ∧ cstr a.record.ipAddr ≠ r.clntAddr.str then pure m
        else if a.record.privilegeLevel ≠ 0 ∧ a.record.privilegeLevel ≠ 1 then pure m.dead
        else if a.record.onlineStatus = false then pure m
        else do
          Prog.perform (WrapperCall.insertUserAccount a.record.logout)
          pure (m.removeUserInCache a.record.displayName)) f
      (match logoutRefused a r.clntAddr with
        | .error e => .fault s e
        | .ok (some result) => .reply s result []
        | .ok none =>
          let s := s.insertUserAccount (logoutUserAccount a)
          .reply { s with activeUsers := s.activeUsers.removeUserInCache a.displayName } 0
            a.displayName.str) := by
  have hip : a.privilegeLevel = 0 ∧ cstr a.ipAddr.bytes ≠ r.clntAddr.str ↔
      a.privilegeLevel = 0 ∧ a.ipAddr ≠ r.clntAddr := by
    rw [CharArray.cstr_bytes ha.addr.clean]
    exact and_congr_right' (not_congr CharArray.ext_iff.symm)
  rw [logoutRefused.eq_def]
  change Implements (if a.privilegeLevel = 0 ∧ cstr a.ipAddr.bytes ≠ r.clntAddr.str then _
    else if a.privilegeLevel ≠ 0 ∧ a.privilegeLevel ≠ 1 then _
    else if a.onlineStatus = false then _ else _) f _
  by_cases haddr : a.privilegeLevel = 0 ∧ a.ipAddr ≠ r.clntAddr
  · rw [if_pos (hip.mpr haddr), if_pos haddr]
    exact .done hf hm
  · rw [if_neg (mt hip.mp haddr), if_neg haddr]
    by_cases hpriv : a.privilegeLevel = 0 ∨ a.privilegeLevel = 1
    · rw [if_neg (by omega), if_pos hpriv]
      cases a.onlineStatus with
      | false => exact .done hf hm
      | true =>
        have hout : cStrings.Account (logoutUserAccount a) := ⟨ha.id, ha.name, cStrings.addr_none⟩
        have hm' : m.Of (s.insertUserAccount (logoutUserAccount a)) := hm.congr rfl rfl
        have hs' := hs.insertUserAccount hout
        refine .perform (.done ?_ (hm'.removeUserInCache hs' ha.name.clean))
        change Represents (f.insertUserAccount a.record.logout) _
        rw [AccountRecord.logout_record]
        exact (hf.insertUserAccount (Account.clean hout)).congr rfl rfl rfl
    · rw [if_pos (by omega), if_neg hpriv]
      exact .fault hf hm _

theorem implements_logout
    (h : ∀ x ∈ limits (fields bytes) .logout, x.1.length ≤ x.2)
    (hn : bodyIncomplete n bytes = false) :
    Implements (logout m r (fields bytes)) f (readAndLogoutUser s r.clntAddr n bytes) := by
  rw [logout, readAndLogoutUser, hn, if_neg Bool.false_ne_true]
  cases h₁ : nextField tokenNameLength (fields bytes) with
  | error e =>
    rw [nextBuffer_of_error h₁]
    exact .fault hf hm e
  | ok x =>
    obtain ⟨d, ts⟩ := x
    have hfs := nextField_eq_ok.mp h₁
    have hd : d.Text := Machine.text_of_limits h (by simp [hfs]) (c := 20)
      (by simp [hfs, limits]) (by decide)
    rw [nextBuffer_of_ok h₁]
    dsimp only
    refine .getUuidWithDisplayName hf hd ?_
    cases hu : s.getUuidWithDisplayName d with
    | none => exact .done hf hm
    | some u =>
      dsimp only [Option.map_some]
      refine .getUserAccount hf (hs.names d u hu).2 ?_
      cases ha : s.getUserAccount u with
      | none => exact .done hf hm
      | some a => exact implements_logoutAccount hm hf hs (hs.accounts u a ha).2

end Sessions

section Channels

variable {m : Memory} {f : Files} {s : State} {r : Request} {n : ℕ} {bytes : List UInt8}
  (hm : m.Of s) (hf : Represents f s)
include hm hf

/-- Of the calls for a new channel, one concerns the users; it changes nothing. -/
theorem implements_createChannel
    (h : ∀ x ∈ limits (fields bytes) .createChannel, x.1.length ≤ x.2)
    (hn : bodyIncomplete n bytes = false) :
    Implements (createChannel m r (fields bytes)) f
      (readAndCreateChannel s r.env r.clntAddr n bytes) := by
  rw [createChannel, readAndCreateChannel, hn, if_neg Bool.false_ne_true]
  cases h₁ : nextField tokenNameLength (fields bytes) with
  | error e =>
    rw [nextBuffer_of_error h₁]
    exact .fault hf hm e
  | ok x =>
    obtain ⟨c, ts⟩ := x
    have hfs := nextField_eq_ok.mp h₁
    rw [nextBuffer_of_ok h₁]
    cases ts with
    | nil => exact .done hf hm
    | cons t ts =>
      dsimp only
      cases h₂ : nextField tokenNameLength (t :: ts) with
      | error e =>
        rw [nextBuffer_of_error h₂]
        exact .fault hf hm e
      | ok y =>
        obtain ⟨d, us⟩ := y
        rw [nextField_eq_ok.mp h₂] at hfs
        have hd : d.Text := Machine.text_of_limits h (by simp [hfs]) (c := 20)
          (by simp [hfs, limits]) (by decide)
        rw [nextBuffer_of_ok h₂]
        cases us with
        | nil => exact .fault hf hm _
        | cons p us =>
          dsimp only
          by_cases hp : p ≠ ascii "1" ∧ p.length ≠ 1
          · rw [if_pos hp, if_pos hp]
            exact .done hf hm
          · rw [if_neg hp, if_neg hp]
            have hstored : Represents f
                  (storeNewChannel s r.env r.clntAddr c d (p = ascii "1")).state ∧
                m.Of (storeNewChannel s r.env r.clntAddr c d (p = ascii "1")).state := by
              obtain ⟨heq, _⟩ | ⟨_, _, _, _, heq⟩ :=
                storeNewChannel_cases r.env r.clntAddr c d (p = ascii "1")
              · rw [heq]
                exact ⟨hf, hm⟩
              · rw [heq]
                exact ⟨hf.congr rfl rfl rfl, hm.congr rfl rfl⟩
            split
            · exact .checkDuplicateDisplayName hf hd (.done hstored.1 hstored.2)
            · exact .done hstored.1 hstored.2

omit hm in
/-- All names of the lists are looked up, or those up to the first one that is missing. -/
theorem implements_checkNames {names : List Name} (h : ∀ d ∈ names, d.Text) {out : Outcome}
    (hf' : Represents f out.state) (hm' : m.Of out.state) :
    Implements (checkNames m (names.map CharArray.bytes)) f out := by
  induction names with
  | nil => exact .done hf' hm'
  | cons d names ih =>
    refine .checkDuplicateDisplayName hf (h d List.mem_cons_self) ?_
    cases s.checkDuplicateDisplayName d with
    | true => exact ih fun u hu => h u (List.mem_cons_of_mem d hu)
    | false => exact .done hf' hm'

omit hm hf in
/-- An update writes the channels only. -/
theorem applyUpdate_frame (s : State) (env : Env) (u : UpdateRequest) :
    (applyUpdate s env u).state =
      { s with channelInfo := (applyUpdate s env u).state.channelInfo } := by
  rw [applyUpdate]
  dsimp only
  split
  · rfl
  · rename_i s₁ h₁
    split
    · exact renameStep_frame h₁
    · rename_i s₂ h₂
      split <;> exact update_frame h₁ (Or.inr h₂)

theorem implements_updateChannel
    (hshort : ∀ t ∈ names (fields bytes) .updateChannel, t.length ≤ 20)
    (hn : bodyIncomplete n bytes = false) {channelFound : Bool}
    (hfound : ∀ u, parseUpdate (fields bytes) = .ok u →
      channelFound = (s.getChannelInfo r.env u.channelName).isSome) :
    Implements (updateChannel m channelFound (fields bytes)) f
      (readAndUpdateChannel s r.env n bytes) := by
  rw [updateChannel, readAndUpdateChannel, hn, if_neg Bool.false_ne_true]
  cases hu : parseUpdate (fields bytes) with
  | error e =>
    cases e with
    | badRequest => exact .done hf hm
    | fault e => exact .fault hf hm e
  | ok u =>
    dsimp only
    rw [hfound u hu]
    cases s.getChannelInfo r.env u.channelName with
    | none => exact .done hf hm
    | some c =>
      have hout : ∀ out : Outcome, out = .reply s errorChannel404 [] ∨ out = applyUpdate s r.env u →
          Represents f out.state ∧ m.Of out.state := by
        rintro out (rfl | rfl)
        · exact ⟨hf, hm⟩
        · rw [applyUpdate_frame]
          exact ⟨hf.congr rfl rfl rfl, hm.congr rfl rfl⟩
      simp only [Option.isSome_some, Bool.true_eq_false, if_false, Option.isNone_some,
        Bool.false_eq_true, strncpy_name]
      refine implements_checkNames hf (fun d hd => ?_) (hout _ ?_).1 (hout _ ?_).2
      · exact text_of_listedNames (fun t ht => zero_not_mem_field ht) hshort hu hd
      · split
        · exact Or.inl rfl
        · exact Or.inr rfl
      · split
        · exact Or.inl rfl
        · exact Or.inr rfl

end Channels

section Messages

variable {m : Memory} {f : Files} {s : State} {r : Request} {n : ℕ} {bytes : List UInt8}
  (hm : m.Of s) (hf : Represents f s) (hs : cStrings.Holds s)
include hm hf hs

/-- The part behind the lookup of the session. -/
theorem implements_postMessage {user : ConnectedUser} (hu : cStrings.Session user)
    {channel : ChannelInfo} {content : Str} {stamp : CharArray timestampSize} {reply : Reply} :
    Implements (postMessage m user.session) f
      (match s.getUserAccount user.uuid with
        | none => .fault s .nullPointer
        | some account =>
          if account.privilegeLevel ≠ 0 ∧ account.privilegeLevel ≠ 1 then .fault s .assertFailed
          else match s.getLoginInfo user.loginToken with
            | none => .fault s .nullPointer
            | some login =>
              ⟨s.insertMessage (generateMessage r.env login channel content stamp),
                .ok reply⟩) := by
  have hcopy : strncpy (zeroed uuidLen) (cstr user.session.uuid) uuidLen = user.uuid.bytes :=
    strncpy_bytes (length_zeroed _) hu.uuid.clean
  rw [postMessage, hcopy]
  refine .getUserAccount hf hu.uuid ?_
  cases s.getUserAccount user.uuid with
  | none => exact .fault hf hm _
  | some account =>
    change Implements (if account.privilegeLevel ≠ 0 ∧ account.privilegeLevel ≠ 1 then _ else _) f
      (if account.privilegeLevel ≠ 0 ∧ account.privilegeLevel ≠ 1 then _ else _)
    by_cases hpriv : account.privilegeLevel ≠ 0 ∧ account.privilegeLevel ≠ 1
    · rw [if_pos hpriv, if_pos hpriv]
      exact .fault hf hm _
    · rw [if_neg hpriv, if_neg hpriv]
      refine .getLoginInfo hf hu.token ?_
      cases hl : s.getLoginInfo user.loginToken with
      | none => exact .fault hf hm _
      | some login =>
        have huuid : strncpy (zeroed uuidLen) (cstr login.record.uuid) uuidLen = login.uuid.bytes :=
          strncpy_bytes (length_zeroed _) (hs.logins _ login hl).2.uuid.clean
        refine .done (hf.congr rfl rfl rfl) ⟨hm.size, hm.compact, hm.live, ?_, hm.running⟩
        dsimp only
        rw [huuid]
        refine Dbm.All.insert (fun k x hx => ?_) ?_
        · exact List.mem_append_left _ (hm.senders k x hx)
        · exact List.mem_append_right _ (List.mem_singleton.mpr rfl)

theorem implements_createMessage (hn : bodyIncomplete n bytes = false) {channelFound : Bool}
    (hfound : ∀ d ts name content stamp, nextField tokenNameLength (fields bytes) = .ok (d, ts) →
      messageFields ts = .ok (name, content, stamp) →
      channelFound = (s.getChannelInfo r.env name).isSome) :
    Implements (createMessage m channelFound (fields bytes)) f
      (readAndCreateMessage s r.env n bytes) := by
  rw [createMessage, readAndCreateMessage, hn, if_neg Bool.false_ne_true]
  cases h₁ : nextField tokenNameLength (fields bytes) with
  | error e =>
    rw [nextBuffer_of_error h₁]
    exact .fault hf hm e
  | ok x =>
    obtain ⟨d, ts⟩ := x
    have hmem : d.str ∈ fields bytes := by
      rw [nextField_eq_ok.mp h₁]
      exact List.mem_cons_self
    have hd : 0 ∉ d.str := zero_not_mem_field hmem
    have hfind : m.live.find? (fun u => cstr u.dsplyName = cstr d.bytes) =
        (s.activeUsers.getConnectedUserByDisplayName d).map ConnectedUser.session :=
      hm.find? hs fun u hu => decide_eq_decide.mpr (cstr_eq_iff hu.name.clean hd)
    rw [nextBuffer_of_ok h₁]
    dsimp only
    rw [CharArray.cstr_bytes hd] at hfind ⊢
    by_cases hack : d.str = ascii "200"
    · rw [if_pos hack, if_pos hack]
      exact .done hf hm
    · rw [if_neg hack, if_neg hack]
      cases h₂ : messageFields ts with
      | error e => exact .fault hf hm e
      | ok y =>
        obtain ⟨name, content, stamp⟩ := y
        dsimp only
        rw [← CharArray.isEmpty, messageFields_ne_empty h₁ h₂, if_neg Bool.false_ne_true,
          if_neg Bool.false_ne_true, hfound d ts name content stamp h₁ h₂, storeNewMessage]
        cases s.getChannelInfo r.env name with
        | none => exact .done hf hm
        | some channel =>
          rw [Option.isSome_some, if_neg Bool.true_eq_false.mp, hfind]
          cases huser : s.activeUsers.getConnectedUserByDisplayName d with
          | none => exact .fault hf hm _
          | some user =>
            exact implements_postMessage hm hf hs
              (hs.sessions user (List.mem_of_find?_eq_some huser))

/-- The messages whose senders the second loop of `build_message_list` looks up, when `used` bytes
of the list have been written. -/
def lookedUp (s : State) (channelId : Uuid) (size : ℕ) : ℕ → List MessageInfo → List MessageInfo
  | _, [] => []
  | used, x :: xs =>
    if channelId = x.channelId then
      match s.getUserAccount x.userId with
      | none => [x]
      | some sender =>
        let used := used+sender.displayName.str.length+x.messageContent.str.length+timestampSize+3
        if used ≥ size then [x] else x :: lookedUp s channelId size used xs
    else lookedUp s channelId size used xs

/-- The messages whose senders a request to read messages looks up. -/
def listedMessages (s : State) (env : Env) (bytes : List UInt8) : List MessageInfo :=
  match readMessageFields bytes with
  | .error _ => []
  | .ok (channelName, _) =>
    let messages := s.getAllMessages env
    match s.getChannelInfo env channelName with
    | none => []
    | some c => lookedUp s c.channelId (messageListSize c.channelId messages) 0 messages

omit hm hf hs in
theorem mem_of_lookedUp {id : Uuid} {size used : ℕ} {x : MessageInfo} {xs : List MessageInfo}
    (h : x ∈ lookedUp s id size used xs) : x ∈ xs := by
  fun_induction lookedUp s id size used xs with
  | case1 => cases h
  | case2 used y ys hid hsender => exact List.mem_singleton.mp h ▸ List.mem_cons_self
  | case3 used y ys hid sender hsender used' hfull =>
    exact List.mem_singleton.mp h ▸ List.mem_cons_self
  | case4 used y ys hid sender hsender used' hfits ih =>
    obtain rfl | h := List.mem_cons.mp h
    · exact List.mem_cons_self
    · exact List.mem_cons_of_mem y (ih h)
  | case5 used y ys hid ih => exact List.mem_cons_of_mem y (ih h)

omit hm hf hs in
/-- When the loop comes to its end, all of them have an account. -/
theorem account_of_lookedUp {id : Uuid} {size : ℕ} {list out : List UInt8} {xs : List MessageInfo}
    (h : copyMessages s id size list xs = .ok out) {x : MessageInfo}
    (hx : x ∈ lookedUp s id size list.length xs) : s.getUserAccount x.userId ≠ none := by
  fun_induction copyMessages s id size list xs with
  | case1 list => cases hx
  | case2 list y ys hid hsender => cases h
  | case3 list y ys hid sender hsender name content hfull =>
    rw [lookedUp, if_pos hid, hsender] at hx
    dsimp only at hx
    rw [if_pos hfull] at hx
    rw [List.mem_singleton.mp hx, hsender]
    exact Option.some_ne_none sender
  | case4 list y ys hid sender hsender name content hfits ih =>
    rw [lookedUp, if_pos hid, hsender] at hx
    dsimp only at hx
    rw [if_neg hfits] at hx
    obtain rfl | hx := List.mem_cons.mp hx
    · rw [hsender]
      exact Option.some_ne_none sender
    · refine ih h ?_
      have hlen : (list ++ name ++ etx :: content ++ etx :: y.timeStamp.bytes ++ [etx]).length =
          list.length+name.length+content.length+timestampSize+3 := by
        simp only [List.length_append, List.length_cons, CharArray.length_bytes, List.length_nil]
        omega
      rw [hlen]
      exact hx
  | case5 list y ys hid ih =>
    rw [lookedUp, if_neg hid] at hx
    exact ih h hx

omit hs in
theorem implements_lookUpSenders {ids : List Uuid} (h : ∀ u ∈ ids, u.Text) {out : Outcome}
    (hstate : out.state = s)
    (hfound : ∀ reply, out.value = .ok reply → ∀ u ∈ ids, s.getUserAccount u ≠ none) :
    Implements (lookUpSenders m (ids.map CharArray.bytes)) f out := by
  induction ids with
  | nil =>
    rw [← hstate] at hf hm
    exact .done hf hm
  | cons u ids ih =>
    refine .getUserAccount hf (h u List.mem_cons_self) ?_
    cases hu : s.getUserAccount u with
    | none =>
      rw [← hstate] at hf hm
      exact ⟨hf, hm.senders, fun reply hr => absurd hu (hfound reply hr u List.mem_cons_self)⟩
    | some a =>
      exact ih (fun v hv => h v (List.mem_cons_of_mem u hv))
        fun reply hr v hv => hfound reply hr v (List.mem_cons_of_mem u hv)

omit hm hf hs in
theorem mem_of_listedMessages {env : Env} {x : MessageInfo} (h : x ∈ listedMessages s env bytes) :
    x ∈ s.getAllMessages env := by
  rw [listedMessages] at h
  split at h
  · cases h
  · dsimp only at h
    split at h
    · cases h
    · exact mem_of_lookedUp h

omit hm hf hs in
/-- So a list that is built has an account for every sender. -/
theorem account_of_listedMessages {env : Env} {c k : Name} {list : List UInt8}
    (hread : readMessageFields bytes = .ok (c, k))
    (h : buildMessageList s (s.getAllMessages env) (s.getChannelInfo env c) = .ok list)
    {x : MessageInfo} (hx : x ∈ listedMessages s env bytes) :
    s.getUserAccount x.userId ≠ none := by
  rw [listedMessages, hread] at hx
  dsimp only at hx
  cases hc : s.getChannelInfo env c with
  | none =>
    rw [hc] at hx
    cases hx
  | some channel =>
    rw [hc] at h hx
    cases hmessages : s.getAllMessages env with
    | nil =>
      rw [hmessages] at hx
      cases hx
    | cons y ys =>
      rw [hmessages] at h hx
      exact account_of_lookedUp h hx

/-- With the channel and the messages that the databases hold, the senders are those of the list. -/
theorem implements_readMessage {listed : List ℕ}
    (hlisted : listed.filterMap (m.senders[·]?) =
      (listedMessages s r.env bytes).map fun x => x.userId.bytes) :
    Implements (readMessage m listed bytes) f (readAndReadMessage s r.env bytes) := by
  rw [readMessage, readAndReadMessage]
  cases hread : readMessageFields bytes with
  | error e => exact .fault hf hm e
  | ok x =>
    obtain ⟨c, k⟩ := x
    dsimp only
    cases isNumber k.str with
    | false => exact .done hf hm
    | true =>
      rw [if_neg Bool.true_eq_false.mp, if_neg Bool.true_eq_false.mp]
      cases c.isEmpty || k.isEmpty with
      | true => exact .done hf hm
      | false =>
        rw [if_neg Bool.false_ne_true, if_neg Bool.false_ne_true, hlisted, ← Function.comp_def,
          ← List.map_map]
        refine implements_lookUpSenders hm hf (fun u hu => ?_) ?_ fun reply hreply u hu => ?_
        · obtain ⟨x, hx, rfl⟩ := List.mem_map.mp hu
          obtain ⟨_, _, hmsg⟩ := KeyOrder.holds_scan hs.messages (mem_of_listedMessages hx)
          exact hmsg.user
        · split <;> rfl
        · obtain ⟨x, hx, rfl⟩ := List.mem_map.mp hu
          split at hreply
          · cases hreply
          · rename_i list hlist
            exact account_of_listedMessages hread hlist hx

end Messages

section Requests

variable {m : Memory} {f : Files} {s : State} {r : Request} (hm : m.Of s) (hf : Represents f s)
  (hs : cStrings.Holds s)

/-- Messages whose senders are in the memory, given by the places of the senders. -/
theorem exists_listed {xs : List MessageInfo} (h : ∀ x ∈ xs, x.userId.bytes ∈ m.senders) :
    ∃ listed : List ℕ, listed.filterMap (m.senders[·]?) = xs.map fun x => x.userId.bytes := by
  induction xs with
  | nil => exact ⟨[], rfl⟩
  | cons x xs ih =>
    obtain ⟨hx, hxs⟩ := List.forall_mem_cons.mp h
    obtain ⟨i, hi⟩ := List.getElem?_of_mem hx
    obtain ⟨listed, hl⟩ := ih hxs
    exact ⟨i :: listed, by rw [List.filterMap_cons_some hi, hl, List.map_cons]⟩

/-- What the lookup of the channel of a message comes to. -/
theorem exists_channelFound (s : State) (env : Env) (bytes : List UInt8) :
    ∃ channelFound : Bool, ∀ d ts name content stamp,
      nextField tokenNameLength (fields bytes) = .ok (d, ts) →
      messageFields ts = .ok (name, content, stamp) →
      channelFound = (s.getChannelInfo env name).isSome := by
  cases h₁ : nextField tokenNameLength (fields bytes) with
  | error e => exact ⟨false, fun _ _ _ _ _ h => by cases h⟩
  | ok x =>
    cases h₂ : messageFields x.2 with
    | error e => exact ⟨false, fun _ _ _ _ _ h h' => by cases h; rw [h₂] at h'; cases h'⟩
    | ok y =>
      refine ⟨(s.getChannelInfo env y.1).isSome, fun _ _ _ _ _ h h' => ?_⟩
      cases h
      rw [h₂] at h'
      cases h'
      rfl

include hm hf hs

theorem implements_handler (hk : KeyedState s) (hr : r.Ends) (hp : r.Plain) {k : RequestKind}
    {header : ChatHeader} {rest : List UInt8} (hd : r.decode = .serve k header rest) :
    ∃ channelFound listed,
      Implements (handler m r channelFound listed header.bodySize (rest.take header.bodySize) k) f
        (runHandler k s r header.bodySize (rest.take header.bodySize)) := by
  have hlim : ∀ x ∈ limits (fields (rest.take header.bodySize)) k, x.1.length ≤ x.2 := by
    intro x hx
    refine Nat.le_of_not_lt fun hlt => hr.fields ?_
    rw [Request.OverLong, hd]
    exact Or.inr ⟨x, hx, hlt⟩
  have hnames := hp.names
  rw [Request.names, hd] at hnames
  dsimp only at hnames
  generalize rest.take header.bodySize = bytes at hlim hnames ⊢
  by_cases hread : k = .readMessage
  · subst hread
    have hknown : ∀ x ∈ listedMessages s r.env bytes, x.userId.bytes ∈ m.senders := by
      intro x hx
      obtain ⟨_, h⟩ := KeyOrder.holds_scan hm.senders (mem_of_listedMessages hx)
      exact h
    obtain ⟨listed, hlisted⟩ := exists_listed hknown
    refine ⟨false, listed, ?_⟩
    rw [handler.eq_def, if_neg (fun h => h.1 rfl)]
    exact implements_readMessage hm hf hs hlisted
  · cases hn : bodyIncomplete header.bodySize bytes with
    | true =>
      refine ⟨false, [], ?_⟩
      rw [handler.eq_def, if_pos ⟨hread, hn⟩]
      obtain ⟨reply, heq, _⟩ := incomplete_refuses (s := s) (r := r) hread hn
      exact .unchanged hf hm (congrArg Outcome.state heq)
    | false =>
      simp only [handler.eq_def, hn, Bool.false_eq_true, and_false, if_false]
      cases k with
      | createUser => exact ⟨false, [], implements_createUser hm hf hn hlim hp.uuid⟩
      | destroyUser => exact ⟨false, [], implements_destroyUser hm hf hn hs hlim⟩
      | createChannel => exact ⟨false, [], implements_createChannel hm hf hlim hn⟩
      | readChannel => exact ⟨false, [], .unchanged hf hm readChannel_state⟩
      | updateChannel =>
        refine ⟨(parseUpdate (fields bytes)).toOption.any fun u =>
          (s.getChannelInfo r.env u.channelName).isSome, [], ?_⟩
        exact implements_updateChannel hm hf hnames hn fun u hu => by rw [hu]; rfl
      | createMessage =>
        obtain ⟨channelFound, hfound⟩ := exists_channelFound s r.env bytes
        exact ⟨channelFound, [], implements_createMessage hm hf hs hn hfound⟩
      | readMessage => exact absurd rfl hread
      | login => exact ⟨false, [], implements_login hm hf hs hk hr.addr hlim hn⟩
      | logout => exact ⟨false, [], implements_logout hm hf hs hlim hn⟩

end Requests

end HandlerCalls

end ChatServer
