import ChatServer.Authority
import ChatServer.Invariant.Strings

/-!
# Granting and answering a login

A login is granted to whoever knows the password up to white space: `compare_strings` skips blanks
on both sides, where `read_and_destroy_user` compares the same password byte by byte. The answer
counts the channels before `snprintf` cuts the text at 1023 bytes, and the responder puts a status
in front of it in an array of 1024.
-/

namespace ChatServer

open CLib

section Granting

/-- The token is registered with the password, up to white space, and nothing behind the credential
check keeps the user out: the account is there, the user is not online from another address, and the
session is there already or the cache has room for it. -/
structure Granted (s : State) (fd : ℕ) (addr : IpAddr) (t : Name) (p : Password) (l : UserLogin)
    (a : UserAccount) : Prop where
  login : s.getLoginInfo t = some l
  password : squeeze l.password.str = squeeze p.str
  account : s.getUserAccount l.uuid = some a
  here : loggedInElsewhere s.activeUsers a addr = false
  room : s.activeUsers.findConnectedUserWithSameCred (loginUserAccount a addr) fd = true ∨
    s.activeUsers.getNumConnectedUsers < maxClients

variable {s : State} {env : Env} {fd n : ℕ} {addr : IpAddr} {bytes : List UInt8}

theorem openSession_value (s : State) (fd : ℕ) (a : UserAccount) (l : UserLogin) (result : Int)
    (token : Str) :
    (openSession s fd a l result token).value =
      if s.activeUsers.getNumConnectedUsers < maxClients then .ok ⟨result, token, []⟩
      else .error .overflow := by
  rw [openSession, Cache.insertUserInCache]
  by_cases h : s.activeUsers.getNumConnectedUsers < maxClients
  · rw [if_pos h, if_pos h]
    rfl
  · rw [if_neg h, if_neg h]
    rfl

/-- Once the account is found, the handler returns 0 if and only if the user is not logged in
elsewhere and has its session or gets one. -/
theorem loginAccount_value (s : State) (env : Env) (fd : ℕ) (addr : IpAddr) (l : UserLogin)
    (a : UserAccount) (t : Name) :
    (loginAccount s env fd addr l a t).value =
      if loggedInElsewhere s.activeUsers a addr then
        if s.activeUsers.getNumConnectedUsers < maxClients then
          .ok ⟨terminateAndRestablishConnection, t.str, []⟩
        else .error .overflow
      else if s.activeUsers.findConnectedUserWithSameCred (loginUserAccount a addr) fd = true ∨
          s.activeUsers.getNumConnectedUsers < maxClients then
        .ok ⟨0, loginBody (loginUserAccount a addr) (s.getAllChannels env), []⟩
      else .error .overflow := by
  rw [loginAccount]
  cases helse : loggedInElsewhere s.activeUsers a addr with
  | true => rw [if_pos rfl, if_pos rfl, openSession_value]
  | false =>
    rw [if_neg Bool.false_ne_true, if_neg Bool.false_ne_true]
    dsimp only
    rw [State.insertUserAccount_activeUsers]
    cases hsame : s.activeUsers.findConnectedUserWithSameCred (loginUserAccount a addr) fd with
    | true =>
      rw [if_pos rfl, if_pos (Or.inl rfl)]
      rfl
    | false =>
      rw [if_neg Bool.false_ne_true, openSession_value, State.insertUserAccount_activeUsers]
      simp only [Bool.false_eq_true, false_or]
      rfl

/-- A handler that returns has read both fields into their arrays. -/
theorem fields_of_login (hn : bodyIncomplete n bytes = false) {reply : Reply}
    (hv : (readAndLoginUser s env fd addr n bytes).value = .ok reply) :
    ∃ (t : Name) (p : Password) (rest : List Str), fields bytes = t.str :: p.str :: rest := by
  cases hf : loginFields bytes with
  | error f =>
    simp only [readAndLoginUser, hn, hf, Bool.false_eq_true, if_false] at hv
    cases hv
  | ok x =>
    obtain ⟨t, p⟩ := x
    obtain ⟨ts, us, h₁, h₂⟩ := loginFields_eq_ok.mp hf
    exact ⟨t, p, us, by rw [nextField_eq_ok.mp h₁, nextField_eq_ok.mp h₂]⟩

/-- A login with a registered token, up to the account. -/
theorem readAndLoginUser_eq (hk : KeyedState s) (hn : bodyIncomplete n bytes = false) {t : Name}
    {p : Password} {rest : List Str} (hfs : fields bytes = t.str :: p.str :: rest) {l : UserLogin}
    (hl : s.getLoginInfo t = some l) :
    readAndLoginUser s env fd addr n bytes =
      if squeeze l.password.str = squeeze p.str then
        match s.getUserAccount l.uuid with
        | none => .fault s .nullPointer
        | some a => loginAccount s env fd addr l a t
      else .reply s errorLoginInvalidCredentials [] := by
  have hfields : loginFields bytes = .ok (t, p) :=
    loginFields_eq_ok.mpr ⟨p.str :: rest, rest, nextField_eq_ok.mpr hfs, nextField_eq_ok.mpr rfl⟩
  -- the record is stored under its own token, so only the password is compared
  have htoken : compareStrings l.loginToken.str t.str = true := by
    rw [hk.logins t l hl, compareStrings_self]
  simp only [readAndLoginUser, hn, hfields, hl, htoken, Bool.false_eq_true, if_false]
  by_cases hp : squeeze l.password.str = squeeze p.str
  · rw [if_pos hp, (compareStrings_iff _ _).mpr hp]
    rfl
  · rw [if_neg hp, Bool.eq_false_of_not_eq_true fun h => hp ((compareStrings_iff _ _).mp h)]
    rfl

/-- The handler returns 0 if and only if the login is granted. -/
theorem readAndLoginUser_zero (hk : KeyedState s) (hn : bodyIncomplete n bytes = false) {t : Name}
    {p : Password} {rest : List Str} (hfs : fields bytes = t.str :: p.str :: rest) {reply : Reply} :
    (readAndLoginUser s env fd addr n bytes).value = .ok reply ∧ reply.result = 0 ↔
      ∃ l a, Granted s fd addr t p l a ∧
        reply = ⟨0, loginBody (loginUserAccount a addr) (s.getAllChannels env), []⟩ := by
  constructor
  · rintro ⟨hv, h0⟩
    cases hl : s.getLoginInfo t with
    | none =>
      have hfields : loginFields bytes = .ok (t, p) := loginFields_eq_ok.mpr
        ⟨p.str :: rest, rest, nextField_eq_ok.mpr hfs, nextField_eq_ok.mpr rfl⟩
      simp only [readAndLoginUser, hn, hfields, hl, Bool.false_eq_true, if_false] at hv
      cases hv
      exact absurd h0 (show errorLoginDoesNotExist ≠ 0 by decide)
    | some l =>
      rw [readAndLoginUser_eq hk hn hfs hl] at hv
      by_cases hp : squeeze l.password.str = squeeze p.str
      · rw [if_pos hp] at hv
        cases ha : s.getUserAccount l.uuid with
        | none =>
          rw [ha] at hv
          cases hv
        | some a =>
          rw [ha] at hv
          dsimp only at hv
          rw [loginAccount_value] at hv
          split at hv
          · split at hv
            · cases hv
              exact absurd h0 (show terminateAndRestablishConnection ≠ 0 by decide)
            · cases hv
          · rename_i hhere
            split at hv
            · rename_i hroom
              cases hv
              exact ⟨l, a, ⟨hl, hp, ha, Bool.eq_false_of_not_eq_true hhere, hroom⟩, rfl⟩
            · cases hv
      · rw [if_neg hp] at hv
        cases hv
        exact absurd h0 (show errorLoginInvalidCredentials ≠ 0 by decide)
  · rintro ⟨l, a, h, rfl⟩
    refine ⟨?_, rfl⟩
    rw [readAndLoginUser_eq hk hn hfs h.login, if_pos h.password, h.account]
    dsimp only
    rw [loginAccount_value, h.here, if_neg Bool.false_ne_true, if_pos h.room]

end Granting

/-- The login database has the token with the password, byte for byte. -/
def HoldsPassword (s : State) (t p : Str) : Prop :=
  ∃ (name : Name) (l : UserLogin), name.str = t ∧ s.userLoginInfo.lookup name = some l ∧
    l.password.str = p

/-- In every state of every life the handler that reads arrays only returns 0 for the stored
password if and only if it does not grant another one, which then differs from the stored one in
white space. -/
theorem loginExact_iff (es : List LifeEvent) (env : Env) (fd : ℕ) (addr : IpAddr) (n : ℕ)
    (bytes : List UInt8) (hn : bodyIncomplete n bytes = false) (t p : Str) (rest : List Str)
    (hfs : fields bytes = t :: p :: rest) :
    (∀ reply, (readAndLoginUser (Life.run es).state env fd addr n bytes).value = .ok reply →
      reply.result = 0 → HoldsPassword (Life.run es).state t p) ↔
    ∀ (name : Name) (q : Password) (l : UserLogin) (a : UserAccount), name.str = t → q.str = p →
      Granted (Life.run es).state fd addr name q l a → l.password = q := by
  have hk := Life.keyed_run es
  constructor
  · intro h name q l a hname hq hg
    subst hname hq
    obtain ⟨hv, h0⟩ := (readAndLoginUser_zero hk hn hfs).mpr ⟨l, a, hg, rfl⟩
    obtain ⟨name', l', hname', hl', hpw⟩ := h _ hv h0
    obtain rfl : name' = name := CharArray.ext hname'
    have hsame : some l' = some l := hl'.symm.trans hg.login
    cases hsame
    exact CharArray.ext hpw
  · intro h reply hv h0
    obtain ⟨name, q, us, hfs'⟩ := fields_of_login hn hv
    obtain ⟨l, a, hg, _⟩ := (readAndLoginUser_zero hk hn hfs').mp ⟨hv, h0⟩
    rw [hfs, List.cons.injEq, List.cons.injEq] at hfs'
    obtain ⟨ht, hp, _⟩ := hfs'
    have hq := h name q l a ht.symm hp.symm hg
    exact ⟨name, l, ht.symm, hg.login, by rw [hq, hp]⟩

/-- A login that is granted has fetched an account. -/
theorem roomy_of_login (m : Machine) {s : State} {env : Env} {fd n : ℕ} {addr : IpAddr}
    {bytes : List UInt8} {reply : Reply}
    (hv : (m.readAndLoginUser s env fd addr n bytes).value = .ok reply) (h0 : reply.result = 0) :
    m.Roomy := by
  refine Classical.byContradiction fun htight => ?_
  rw [Machine.readAndLoginUser] at hv
  split at hv
  · cases hv
    cases h0
  · split at hv
    · cases hv
    · split at hv
      · cases hv
        cases h0
      · rename_i l _
        split at hv
        · cases hv
          cases h0
        · rw [Machine.getUserAccount] at hv
          cases ha : s.getUserAccount l.uuid with
          | none =>
            rw [ha] at hv
            cases hv
          | some a =>
            rw [ha] at hv
            dsimp only at hv
            rw [if_pos (Nat.not_le.mp htight)] at hv
            cases hv

/-- On every machine and in every state of every life of strings that end in their arrays: a login
with a token of at most 20 bytes and a password of at most 30 only returns 0 for the stored password
if and only if there is no room for the account or no other password is granted, which then differs
from the stored one in white space. -/
theorem login_exact_iff (m : Machine) (es : List LifeEvent) (hes : ∀ e ∈ es, e.Ends) (env : Env)
    (fd : ℕ) (addr : IpAddr) (haddr : addr.Text) (n : ℕ) (bytes : List UInt8)
    (hn : bodyIncomplete n bytes = false) (t p : Str) (rest : List Str)
    (hfs : fields bytes = t :: p :: rest) (ht : t.length < tokenNameLength)
    (hp : p.length < pswdMaxLength) :
    (∀ reply, (m.readAndLoginUser (Life.run es).state env fd addr n bytes).value = .ok reply →
      reply.result = 0 → HoldsPassword (Life.run es).state t p) ↔
    (m.Roomy → ∀ (name : Name) (q : Password) (l : UserLogin) (a : UserAccount),
      name.str = t → q.str = p → Granted (Life.run es).state fd addr name q l a →
        l.password = q) := by
  have hlimits : ∀ x ∈ limits (fields bytes) .login, x.1.length ≤ x.2 := by
    simp only [hfs, limits, List.zip_cons_cons, List.zip_nil_right, List.forall_mem_cons]
    exact ⟨Nat.le_of_lt_succ ht, Nat.le_of_lt_succ hp, by simp⟩
  by_cases hroom : m.Roomy
  · rw [forall_prop_of_true hroom, ← loginExact_iff es env fd addr n bytes hn t p rest hfs,
      m.readAndLoginUser_eq (r := ⟨fd, addr, [], env⟩) (cStrings_run hes) hlimits haddr hn
        (Or.inl hroom)]
  · exact iff_of_true (fun reply hv h0 => absurd (roomy_of_login m hv h0) hroom)
      (fun h => absurd h hroom)

/-- The password of the user of `bobLife`. -/
theorem password_bobLife {name : Name} {l : UserLogin} (hname : name.str = ascii "bobt")
    (hl : (Life.run bobLife).state.userLoginInfo.lookup name = some l) :
    l.password.str = ascii "pw" := by
  obtain rfl : name = bobSession.loginToken := CharArray.ext hname
  have hstored := Option.some.inj (hl.symm.trans login_bobLife)
  rw [hstored]
  rfl

/-- The user of `bobLife` logs in with its own password. -/
theorem login_exact_bobLife :
    (Client.machine.readAndLoginUser (Life.run bobLife).state Client.firstEnv 5
        (Client.address "10.0.0.1") 8 (Client.body ["bobt", "pw"])).value.toOption.map (·.result) =
          some 0 ∧
      HoldsPassword (Life.run bobLife).state (ascii "bobt") (ascii "pw") := by
  have h0 : (Client.machine.readAndLoginUser (Life.run bobLife).state Client.firstEnv 5
      (Client.address "10.0.0.1") 8 (Client.body ["bobt", "pw"])).value.toOption.map (·.result) =
        some 0 := by decide +kernel
  refine ⟨h0, ?_⟩
  have hexact := (login_exact_iff Client.machine bobLife (by decide +kernel) Client.firstEnv 5
    (Client.address "10.0.0.1") (by decide) 8 (Client.body ["bobt", "pw"]) (by decide)
    (ascii "bobt") (ascii "pw") [] (by decide) (by decide) (by decide)).mpr
      (fun _ name q l a hname hq hg =>
        CharArray.ext ((password_bobLife hname hg.login).trans hq.symm))
  cases hv : (Client.machine.readAndLoginUser (Life.run bobLife).state Client.firstEnv 5
      (Client.address "10.0.0.1") 8 (Client.body ["bobt", "pw"])).value with
  | error f =>
    rw [hv] at h0
    cases h0
  | ok reply =>
    rw [hv] at h0
    exact hexact reply hv (Option.some.inj h0)

/-- Two blanks in front of the password and one inside are accepted. -/
theorem login_not_exact :
    (Client.machine.readAndLoginUser (Life.run bobLife).state Client.firstEnv 5
        (Client.address "10.0.0.1") 11 (Client.body ["bobt", "  p w"])).value.toOption.map
          (·.result) = some 0 ∧
      ¬ HoldsPassword (Life.run bobLife).state (ascii "bobt") (ascii "  p w") := by
  refine ⟨by decide +kernel, ?_⟩
  rintro ⟨name, l, hname, hl, hp⟩
  have hbad := (password_bobLife hname hl).symm.trans hp
  exact absurd hbad (by decide)

section Answering

/-- The length of the text that a login formats: the display name, the privilege level, the number
of channels and their names, each with a delimiter behind it. -/
def loginLength (a : UserAccount) (channels : List ChannelInfo) : ℕ :=
  (a.displayName.str.length+1) + ((decimal a.privilegeLevel).length+1) +
    ((decimal channels.length).length+1) + (channels.map fun c => c.channelName.str.length+1).sum

/-- The response decodes to the status, the user, and all channels with their number, and it fits
the array of the responder with its terminator. -/
def LoginAnswered (c : Call) (s : State) (r : Request) (a : UserAccount) : Prop :=
  ∃ body names, c.sent.map (fun x => (x.fd, x.body)) = [(r.fd, body)] ∧
    body.splitOn etx = ascii "200" :: a.displayName.str :: decimal a.privilegeLevel ::
      decimal (List.length names) :: (names ++ [[]]) ∧
    names.Perm (s.channelInfo.entries.map fun e => e.2.channelName.str) ∧
    body.length < bodyCapacity .login

theorem etx_not_mem_decimal_int (n : ℤ) : etx ∉ decimal n := by
  cases n with
  | ofNat n => exact etx_not_mem_decimal n
  | negSucc n =>
    intro h
    obtain h | h := List.mem_cons.mp h
    · cases h
    · exact etx_not_mem_decimal (n+1) h

/-- The parts of an uncut response. -/
def loginParts (a : UserAccount) (channels : List ChannelInfo) : List Str :=
  a.displayName.str :: decimal a.privilegeLevel :: decimal channels.length ::
    channels.map fun c => c.channelName.str

theorem loginBody_eq (a : UserAccount) (channels : List ChannelInfo) :
    loginBody a channels =
      ((loginParts a channels).flatMap fun t => t ++ [etx]).take (defaultBuffer-1) := by
  rw [loginBody, loginParts, buildChannelNameList]
  simp [List.flatMap_map]

theorem length_loginParts (a : UserAccount) (channels : List ChannelInfo) :
    ((loginParts a channels).flatMap fun t => t ++ [etx]).length = loginLength a channels := by
  rw [loginLength, loginParts, List.length_flatMap]
  simp only [List.map_cons, List.map_map, List.sum_cons, List.length_append, List.length_singleton]
  have hsum : ((fun t : Str => t.length+1) ∘ fun c : ChannelInfo => c.channelName.str) =
      fun c => c.channelName.str.length+1 := rfl
  rw [hsum]
  omega

variable {s : State} {r : Request}

/-- A login with result 0 was granted, and its text stands behind the status of its only answer. -/
theorem sent_of_login (hk : KeyedState s) {fs : List Str} (hf : r.fieldsFor .login = some fs)
    (h0 : r.result s = some 0) :
    ∃ t p l a rest, fs = t.str :: p.str :: rest ∧ Granted s r.fd r.clntAddr t p l a ∧
      (handleRequest s r).sent.map (fun x => (x.fd, x.body)) = [(r.fd, ascii "200" ++ etx ::
        loginBody (loginUserAccount a r.clntAddr) (s.getAllChannels r.env))] := by
  obtain ⟨header, rest, hd, hlen, hinc, rfl⟩ := fieldsFor_some hf
  obtain ⟨reply, hv, hz⟩ := Request.value_of_result hd h0
  obtain ⟨t, p, us, hfs⟩ := fields_of_login hinc hv
  obtain ⟨l, a, hg, rfl⟩ := (readAndLoginUser_zero hk hinc hfs).mp ⟨hv, hz⟩
  refine ⟨t, p, l, a, us, hfs, hg, ?_⟩
  rw [handleRequest_of_reply hd hlen hv]
  rfl

/-- An uncut response splits into its parts, no name having a delimiter in it. -/
theorem splitOn_login (h : delimiterFree.Holds s) {t : Name} {p : Password} {l : UserLogin}
    {a : UserAccount} (hg : Granted s r.fd r.clntAddr t p l a) (env : Env) :
    (ascii "200" ++ etx :: (loginParts (loginUserAccount a r.clntAddr)
        (s.getAllChannels env)).flatMap fun t => t ++ [etx]).splitOn etx =
      ascii "200" :: (loginUserAccount a r.clntAddr).displayName.str ::
        decimal (loginUserAccount a r.clntAddr).privilegeLevel ::
        decimal ((s.getAllChannels env).map fun c => c.channelName.str).length ::
        (((s.getAllChannels env).map fun c => c.channelName.str) ++ [[]]) := by
  have hparts : ∀ x ∈ ascii "200" :: loginParts (loginUserAccount a r.clntAddr)
      (s.getAllChannels env), etx ∉ x := by
    intro x hx
    simp only [loginParts, List.mem_cons, List.mem_map] at hx
    obtain rfl | rfl | rfl | rfl | ⟨c, hc, rfl⟩ := hx
    · decide
    · exact (h.accounts _ a hg.account).2.name
    · exact etx_not_mem_decimal_int _
    · exact etx_not_mem_decimal_int _
    · obtain ⟨k, hk⟩ := KeyOrder.mem_scan.mp hc
      exact (h.channels k c hk).2.name
  have hsplit := splitOn_flatMap hparts
  rw [List.flatMap_cons, List.append_assoc, List.singleton_append] at hsplit
  rw [hsplit, loginParts, List.length_map]
  rfl

end Answering

/-- In every state of every life the handlers that read arrays answer a granted login completely if
and only if the status, the text and a terminator have room in the 1024 bytes of the responder. -/
theorem loginAnswered_iff (es : List LifeEvent) (r : Request) (fs : List Str)
    (hf : r.fieldsFor .login = some fs) (h0 : r.result (Life.run es).state = some 0) :
    ∃ t p l a rest, fs = t.str :: p.str :: rest ∧
      Granted (Life.run es).state r.fd r.clntAddr t p l a ∧
      (LoginAnswered (handleRequest (Life.run es).state r) (Life.run es).state r
          (loginUserAccount a r.clntAddr) ↔
        loginLength (loginUserAccount a r.clntAddr) ((Life.run es).state.getAllChannels r.env) ≤
          1019) := by
  obtain ⟨t, p, l, a, rest, hfs, hg, hsent⟩ := sent_of_login (Life.keyed_run es) hf h0
  refine ⟨t, p, l, a, rest, hfs, hg, ?_⟩
  have hlen := length_loginParts (loginUserAccount a r.clntAddr)
    ((Life.run es).state.getAllChannels r.env)
  have hstatus : (ascii "200").length = 3 := by decide
  have hcap : bodyCapacity .login = 1024 := rfl
  have hbuffer : defaultBuffer = 1024 := rfl
  rw [loginBody_eq] at hsent
  constructor
  · rintro ⟨body, names, hsent', _, _, hfits⟩
    rw [hsent, List.cons.injEq, Prod.mk.injEq] at hsent'
    rw [← hsent'.1.2, List.length_append, List.length_cons, List.length_take, hlen, hstatus,
      hcap] at hfits
    omega
  · intro hle
    rw [List.take_of_length_le (by rw [hlen]; exact hle.trans (by decide))] at hsent
    refine ⟨_, _, hsent, splitOn_login (delimiterFree_run es) hg _, ?_, ?_⟩
    · have hperm := (KeyOrder.scan_perm r.env.channelOrder (Life.run es).state.channelInfo).map
        fun c => c.channelName.str
      rwa [List.map_map] at hperm
    · rw [List.length_append, List.length_cons, hlen, hstatus, hcap]
      omega

/-- On every machine and in every state of every life of strings that end in their arrays: a granted
login is answered completely if and only if the status, the text and a terminator have room in the
1024 bytes of the responder. -/
theorem login_response_iff (m : Machine) (es : List LifeEvent) (hes : ∀ e ∈ es, e.Ends)
    (r : Request) (hr : r.Ends) (fs : List Str) (hf : r.fieldsFor .login = some fs)
    (h0 : m.result (Life.run es).state r = some 0) :
    ∃ t p l a rest, fs = t.str :: p.str :: rest ∧
      Granted (Life.run es).state r.fd r.clntAddr t p l a ∧
      (LoginAnswered (m.handleRequest (Life.run es).state r) (Life.run es).state r
          (loginUserAccount a r.clntAddr) ↔
        loginLength (loginUserAccount a r.clntAddr) ((Life.run es).state.getAllChannels r.env) ≤
          1019) := by
  obtain ⟨hcall, hresult⟩ := Machine.handleRequest_of_result (cStrings_run hes) hr h0
  rw [hcall]
  exact loginAnswered_iff es r fs hf hresult

/-- The administrator logs in next to the user of `bobLife`. -/
theorem login_response_bobLife :
    ∃ a, LoginAnswered (Client.machine.handleRequest (Life.run bobLife).state
        (Client.login 6 "10.0.0.2" "admin" "admin")) (Life.run bobLife).state
      (Client.login 6 "10.0.0.2" "admin" "admin") a := by
  obtain ⟨t, p, l, a, rest, _, hg, hiff⟩ := login_response_iff Client.machine bobLife
    (by decide +kernel) (Client.login 6 "10.0.0.2" "admin" "admin") (by decide +kernel)
    [ascii "admin", ascii "admin"] (by decide +kernel) (by decide +kernel)
  have hshort : ∀ e ∈ (Life.run bobLife).state.userAccountInfo.entries,
      loginLength (loginUserAccount e.2 (Client.address "10.0.0.2"))
        ((Life.run bobLife).state.getAllChannels
          (Client.login 6 "10.0.0.2" "admin" "admin").env) ≤ 1019 := by decide +kernel
  exact ⟨_, hiff.mpr (hshort ⟨_, a⟩ (AList.mem_lookup_iff.mp hg.account))⟩

/-- The administrator creates a channel with a name of 20 bytes, of which the first one is given. -/
def wideChannel (first : UInt8) : Request :=
  let body := first :: List.replicate 19 120 ++ etx :: ascii "admin" ++ etx :: ascii "1" ++ [etx]
  { fd := 6
    clntAddr := Client.address "10.0.0.2"
    input := headerBytes .big ⟨currentVersion, 1, 2, Fin.ofNat _ body.length⟩ ++ body
    env := { Client.firstEnv with
      uuid := CharArray.strncpy _ (first :: ascii "2222222-2222-2222-2222-222222222222") } }

/-- A life with 49 channels. -/
def wideLife : List LifeEvent :=
  .start true Client.firstEnv :: .request (Client.login 6 "10.0.0.2" "admin" "admin") ::
    (List.range 48).map fun k => .request (wideChannel (65+k).toUInt8)

/-- The text for 49 channels has 1026 bytes: three are cut off, and with the status in front the
rest does not fit the array. -/
theorem login_response_cut :
    Client.machine.result (Life.run wideLife).state (Client.login 6 "10.0.0.2" "admin" "admin") =
        some 0 ∧
      ¬ ∃ a, LoginAnswered (Client.machine.handleRequest (Life.run wideLife).state
        (Client.login 6 "10.0.0.2" "admin" "admin")) (Life.run wideLife).state
        (Client.login 6 "10.0.0.2" "admin" "admin") a := by
  have hcall : Client.machine.result (Life.run wideLife).state
      (Client.login 6 "10.0.0.2" "admin" "admin") = some 0 ∧
      (Client.machine.handleRequest (Life.run wideLife).state
        (Client.login 6 "10.0.0.2" "admin" "admin")).sent.map (fun x => x.body.length) =
          [1027] := by decide +kernel
  refine ⟨hcall.1, ?_⟩
  rintro ⟨a, body, names, hsent, _, _, hfits⟩
  have hlen := congrArg (List.map fun x => x.2.length) hsent
  rw [List.map_map] at hlen
  have hbody : [1027] = [body.length] := hcall.2.symm.trans hlen
  rw [← List.singleton_injective hbody] at hfits
  exact absurd hfits (by decide)

end ChatServer
