import ChatServer.Handler.Basic

/-!
# Logging in and out
-/

namespace ChatServer

open CLib

/-- The main loop of `compare_strings`: two cursors, each skipping white space on its own.
`none` is the early `return false`; otherwise what the cursors have left. -/
def compareLoop : ℕ → Str → Str → Option (Str × Str)
  | _, [], bs => some ([], bs)
  | _, as, [] => some (as, [])
  | 0, _, _ => none
  | n+1, a :: as, b :: bs =>
    if isspace a then compareLoop n as (b :: bs)
    else if isspace b then compareLoop n (a :: as) bs
    else if a ≠ b then none
    else compareLoop n as bs

/-- `compare_strings` -/
def compareStrings (str1 str2 : Str) : Bool :=
  match compareLoop (str1.length+str2.length) str1 str2 with
  | none => false
  | some (as, bs) => (as.dropWhile isspace).isEmpty && (bs.dropWhile isspace).isEmpty

/-- A string without its white space. -/
def squeeze (s : Str) : Str := s.filter fun b => !isspace b

/-- The last two loops leave nothing of a string if and only if it was white space. -/
theorem isEmpty_dropWhile_isspace (s : Str) :
    (s.dropWhile isspace).isEmpty = true ↔ squeeze s = [] := by
  rw [squeeze, List.isEmpty_iff, List.dropWhile_eq_nil_iff, List.filter_eq_nil_iff]
  simp

/-- The loops together compare what is left when the white space is deleted. -/
theorem compareLoop_iff (n : ℕ) (as bs : Str) (h : as.length+bs.length ≤ n) :
    (∃ xs ys, compareLoop n as bs = some (xs, ys) ∧ (xs.dropWhile isspace).isEmpty = true ∧
      (ys.dropWhile isspace).isEmpty = true) ↔ squeeze as = squeeze bs := by
  fun_induction compareLoop n as bs with
  | case1 n bs =>
    constructor
    · rintro ⟨xs, ys, ⟨⟩, _, hys⟩
      exact ((isEmpty_dropWhile_isspace bs).mp hys).symm
    · intro he
      exact ⟨[], bs, rfl, rfl, (isEmpty_dropWhile_isspace bs).mpr he.symm⟩
  | case2 n as _ =>
    constructor
    · rintro ⟨xs, ys, ⟨⟩, hxs, _⟩
      exact (isEmpty_dropWhile_isspace as).mp hxs
    · intro he
      exact ⟨as, [], rfl, (isEmpty_dropWhile_isspace as).mpr he, rfl⟩
  | case3 as bs has hbs =>
    -- without fuel both strings are at their end, which the first two cases have taken
    have hnil : as = [] := List.length_eq_zero_iff.mp (by omega)
    exact absurd hnil has
  | case4 n a as b bs ha ih =>
    rw [ih (by simp only [List.length_cons] at h ⊢; omega)]
    simp [squeeze, ha]
  | case5 n a as b bs ha hb ih =>
    rw [ih (by simp only [List.length_cons] at h ⊢; omega)]
    simp [squeeze, hb]
  | case6 n a as b bs ha hb hab =>
    simp [squeeze, ha, hb, hab]
  | case7 n a as b bs ha hb hab ih =>
    rw [ih (by simp only [List.length_cons] at h ⊢; omega)]
    obtain rfl : a = b := not_not.mp hab
    simp [squeeze, hb]

/-- `compare_strings` is equality up to white space. -/
theorem compareStrings_iff (a b : Str) : compareStrings a b = true ↔ squeeze a = squeeze b := by
  rw [← compareLoop_iff (a.length+b.length) a b (Nat.le_refl _), compareStrings]
  cases compareLoop (a.length+b.length) a b with
  | none => simp
  | some x =>
    obtain ⟨xs, ys⟩ := x
    simp

/-- `build_channel_name_list` -/
def buildChannelNameList (channels : List ChannelInfo) : Str :=
  channels.flatMap fun c => c.channelName.str ++ [etx]

/-- The response body that a login leaves in `token_out`, cut by `snprintf`. -/
def loginBody (account : UserAccount) (channels : List ChannelInfo) : Str :=
  (account.displayName.str ++ etx :: decimal account.privilegeLevel ++
    etx :: decimal channels.length ++ etx :: buildChannelNameList channels).take (defaultBuffer-1)

/-- The two fields of a login request. -/
def loginFields (bytes : List UInt8) : Except Fault (Name × Password) := do
  let (loginToken, ts) ← nextField tokenNameLength (fields bytes)
  let (password, _) ← nextField pswdMaxLength ts
  return (loginToken, password)

theorem loginFields_eq_ok {bytes : List UInt8} {t : Name} {p : Password} :
    loginFields bytes = .ok (t, p) ↔
      ∃ ts us, nextField tokenNameLength (fields bytes) = .ok (t, ts) ∧
        nextField pswdMaxLength ts = .ok (p, us) := by
  rw [loginFields]
  cases h₁ : nextField tokenNameLength (fields bytes) with
  | error f => simp [bind, Except.bind]
  | ok x =>
    obtain ⟨t', ts⟩ := x
    cases h₂ : nextField pswdMaxLength ts with
    | error f => simp [bind, Except.bind, h₂]
    | ok y => simp [bind, Except.bind, pure, Except.pure, h₂, Prod.ext_iff]

/-- The loop that looks for a session of the same user at another address. -/
def loggedInElsewhere (c : Cache) (account : UserAccount) (clntAddr : IpAddr) : Bool :=
  c.live.any fun u =>
    u.dsplyName = account.displayName ∧ u.ipAddress ≠ clntAddr ∧ account.onlineStatus = true

/-- `insert_user_in_cache` and the `return` behind it. -/
def openSession (s : State) (fd : ℕ) (account : UserAccount) (login : UserLogin) (result : Int)
    (token : Str) : Outcome :=
  match s.activeUsers.insertUserInCache fd account login with
  | none => .fault s .overflow
  | some c => .reply { s with activeUsers := c } result token

/-- `read_and_login_user` from the account on. -/
def loginAccount (s : State) (env : Env) (fd : ℕ) (clntAddr : IpAddr) (login : UserLogin)
    (account : UserAccount) (loginToken : Name) : Outcome :=
  if loggedInElsewhere s.activeUsers account clntAddr then
    openSession s fd account login terminateAndRestablishConnection loginToken.str
  else
    let account := loginUserAccount account clntAddr
    let s := s.insertUserAccount account
    let body := loginBody account (s.getAllChannels env)
    if s.activeUsers.findConnectedUserWithSameCred account fd then .reply s 0 body
    else openSession s fd account login 0 body

/-- `read_and_login_user` -/
def readAndLoginUser (s : State) (env : Env) (fd : ℕ) (clntAddr : IpAddr) (bodySize : ℕ)
    (bytes : List UInt8) : Outcome :=
  if bodyIncomplete bodySize bytes then .reply s (-1) []
  else match loginFields bytes with
    | .error f => .fault s f
    | .ok (loginToken, password) =>
      match s.getLoginInfo loginToken with
      | none => .reply s errorLoginDoesNotExist []
      | some loginInfo =>
        if !compareStrings loginInfo.password.str password.str ||
            !compareStrings loginInfo.loginToken.str loginToken.str then
          .reply s errorLoginInvalidCredentials []
        else match s.getUserAccount loginInfo.uuid with
          | none => .fault s .nullPointer
          | some account => loginAccount s env fd clntAddr loginInfo account loginToken

/-- The switch of `read_and_logout_user`, case 0 falling through to case 1, and the assertion
behind it. `none` lets the logout go on. -/
def logoutRefused (account : UserAccount) (clntAddr : IpAddr) : Except Fault (Option Int) :=
  if account.privilegeLevel = 0 ∧ account.ipAddr ≠ clntAddr then
    .ok (some errorLogoutUserMismatchAddress)
  else if account.privilegeLevel = 0 ∨ account.privilegeLevel = 1 then
    if account.onlineStatus = false then .ok (some errorLogoutAdminUserNotOnline) else .ok none
  else .error .assertFailed

/-- `read_and_logout_user` -/
def readAndLogoutUser (s : State) (clntAddr : IpAddr) (bodySize : ℕ) (bytes : List UInt8) :
    Outcome :=
  if bodyIncomplete bodySize bytes then .reply s (-1) []
  else match nextField tokenNameLength (fields bytes) with
    | .error f => .fault s f
    | .ok (displayName, _) =>
      match s.getUuidWithDisplayName displayName with
      | none => .reply s errorDestroyAuth500 []
      | some uuid =>
        match s.getUserAccount uuid with
        | none => .reply s errorDestroyAuth500 []
        | some account =>
          match logoutRefused account clntAddr with
          | .error f => .fault s f
          | .ok (some result) => .reply s result []
          | .ok none =>
            let s := s.insertUserAccount (logoutUserAccount account)
            .reply { s with activeUsers := s.activeUsers.removeUserInCache account.displayName } 0
              account.displayName.str

end ChatServer
