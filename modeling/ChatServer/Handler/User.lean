import ChatServer.Handler.Basic

/-!
# Creating and destroying users
-/

namespace ChatServer

open CLib

/-- `read_and_create_user`. The password is only taken from the body after the token and the
display name have been found free. -/
def readAndCreateUser (s : State) (env : Env) (bodySize : ℕ) (bytes : List UInt8) : Outcome :=
  if bodyIncomplete bodySize bytes then .reply s (-1) []
  else
    let names := do
      let (loginToken, ts) ← nextField tokenNameLength (fields bytes)
      let (displayName, ts) ← nextField tokenNameLength ts
      return (loginToken, displayName, ts)
    match names with
    | .error f => .fault s f
    | .ok (loginToken, displayName, ts) =>
      let isTokenDuplicate := (s.getLoginInfo loginToken).isSome
      let isDisplayNameDuplicates := s.checkDuplicateDisplayName displayName
      if isTokenDuplicate && isDisplayNameDuplicates then .reply s errorCreateUserDuplicateAll []
      else if isTokenDuplicate then .reply s errorCreateUserDuplicateToken []
      else if isDisplayNameDuplicates then .reply s errorCreateUserDuplicateDisplayName []
      else match nextField pswdMaxLength ts with
        | .error f => .fault s f
        | .ok (password, _) =>
          .reply (((s.insertDisplayName displayName env.uuid).insertUserLogin
            (generateUserLogin loginToken password env.uuid)).insertUserAccount
            (generateUserAccount env.uuid displayName)) 0 loginToken.str

/-- The three fields of a request to destroy a user: display name, login token, password. -/
def destroyFields (bytes : List UInt8) : Except Fault (Name × Name × Password) := do
  let (displayName, ts) ← nextField tokenNameLength (fields bytes)
  let (loginToken, ts) ← nextField tokenNameLength ts
  let (password, _) ← nextField pswdMaxLength ts
  return (displayName, loginToken, password)

theorem destroyFields_eq_ok {bytes : List UInt8} {d t : Name} {p : Password} :
    destroyFields bytes = .ok (d, t, p) ↔
      ∃ ts us vs, nextField tokenNameLength (fields bytes) = .ok (d, ts) ∧
        nextField tokenNameLength ts = .ok (t, us) ∧ nextField pswdMaxLength us = .ok (p, vs) := by
  rw [destroyFields]
  cases h₁ : nextField tokenNameLength (fields bytes) with
  | error f => simp [bind, Except.bind]
  | ok x =>
    obtain ⟨d', ts⟩ := x
    cases h₂ : nextField tokenNameLength ts with
    | error f => simp [bind, Except.bind, h₂]
    | ok y =>
      obtain ⟨t', us⟩ := y
      cases h₃ : nextField pswdMaxLength us with
      | error f => simp [bind, Except.bind, h₂, h₃]
      | ok z => simp [bind, Except.bind, pure, Except.pure, h₂, h₃, Prod.ext_iff]

/-- The three fields are the first ones of the body. -/
theorem destroyFields_iff_fields {bytes : List UInt8} {d t : Name} {p : Password} :
    destroyFields bytes = .ok (d, t, p) ↔
      ∃ rest, fields bytes = d.str :: t.str :: p.str :: rest := by
  rw [destroyFields_eq_ok]
  constructor
  · rintro ⟨ts, us, vs, h₁, h₂, h₃⟩
    refine ⟨vs, ?_⟩
    rw [nextField_eq_ok.mp h₁, nextField_eq_ok.mp h₂, nextField_eq_ok.mp h₃]
  · rintro ⟨rest, h⟩
    exact ⟨_, _, _, nextField_eq_ok.mpr h, nextField_eq_ok.mpr rfl, nextField_eq_ok.mpr rfl⟩

/-- So each of them has a character. -/
theorem destroyFields_ne_empty {bytes : List UInt8} {d t : Name} {p : Password}
    (h : destroyFields bytes = .ok (d, t, p)) :
    (d.isEmpty || t.isEmpty || p.isEmpty) = false := by
  obtain ⟨rest, hfs⟩ := destroyFields_iff_fields.mp h
  rw [isEmpty_of_mem_fields (by rw [hfs]; simp), isEmpty_of_mem_fields (by rw [hfs]; simp),
    isEmpty_of_mem_fields (by rw [hfs]; simp)]
  rfl

/-- The condition that sends a request to `error_invalid_credentials`: the sender's display name
and password both differ from the body's and the sender has no privilege. The records are
used from left to right, and only as far as the conjunction needs them. -/
def invalidCredentials (sender : ConnectedUser) (senderLogin : Option UserLogin)
    (senderAccount : Option UserAccount) (displayName : Name) (password : Password) :
    Except Fault Bool :=
  if sender.dsplyName = displayName then .ok false
  else match senderLogin with
    | none => .error .nullPointer
    | some login =>
      if login.password = password then .ok false
      else match senderAccount with
        | none => .error .nullPointer
        | some account => .ok (account.privilegeLevel = 0)

/-- Nobody is refused for a missing account. -/
theorem invalidCredentials_none {sender : ConnectedUser} {d : Name} {p : Password}
    (sl : Option UserLogin) :
    invalidCredentials sender sl none d p ≠ .ok true := by
  unfold invalidCredentials
  split
  · simp
  · split
    · simp
    · split <;> simp

/-- The part of `read_and_destroy_user` behind the credential check. -/
def removeUser (s : State) (displayName : Name) : Option UserLogin → Outcome
  | none => .fault s .assertFailed
  | some loginInfo =>
    .reply (((s.removeDisplayName displayName).removeUserAccount loginInfo.uuid).removeUserLogin
      loginInfo.loginToken) 0 displayName.str

/-- `read_and_destroy_user` -/
def readAndDestroyUser (s : State) (fd : ℕ) (bodySize : ℕ) (bytes : List UInt8) : Outcome :=
  if bodyIncomplete bodySize bytes then .reply s (-1) []
  else match destroyFields bytes with
    | .error f => .fault s f
    | .ok (displayName, loginToken, password) =>
      if displayName.isEmpty || loginToken.isEmpty || password.isEmpty then
        .reply s errorDestroyUserInvalidFields []
      else match s.activeUsers.getConnectedUserByFd fd with
        | none => .fault s .nullPointer
        | some sender =>
          let senderLogin := s.getLoginInfo sender.loginToken
          let senderAccount := s.getUserAccount sender.uuid
          let loginInfo := s.getLoginInfo loginToken
          let credentials := fun _ : Unit =>
            match invalidCredentials sender senderLogin senderAccount displayName password with
            | .error f => .fault s f
            | .ok true => .reply s errorDestroyUserInvalidCredentials []
            | .ok false => removeUser s displayName loginInfo
          if loginInfo.isNone then
            match senderAccount with
            | none => .fault s .nullPointer
            | some account =>
              if account.privilegeLevel = 1 then .reply s errorDestroyUserNotExist []
              else credentials ()
          else credentials ()

/-- What `read_and_destroy_user` does with three fields on a connection with a session. -/
theorem readAndDestroyUser_cases {s : State} {fd n : ℕ} {bytes : List UInt8} {d t : Name}
    {p : Password} {sender : ConnectedUser} (hn : bodyIncomplete n bytes = false)
    (hdest : destroyFields bytes = .ok (d, t, p))
    (hs : s.activeUsers.getConnectedUserByFd fd = some sender) {check : Except Fault Bool}
    (hcheck : invalidCredentials sender (s.getLoginInfo sender.loginToken)
      (s.getUserAccount sender.uuid) d p = check) :
    (s.getLoginInfo t = none ∧
      (∃ a, s.getUserAccount sender.uuid = some a ∧ a.privilegeLevel = 1) ∧
      readAndDestroyUser s fd n bytes = .reply s errorDestroyUserNotExist []) ∨
    (check = .ok true ∧
      readAndDestroyUser s fd n bytes = .reply s errorDestroyUserInvalidCredentials []) ∨
    (∃ l, s.getLoginInfo t = some l ∧ check = .ok false ∧
      readAndDestroyUser s fd n bytes = removeUser s d (some l)) ∨
    ∃ f, readAndDestroyUser s fd n bytes = .fault s f ∧ check ≠ .ok true ∧
      (s.getLoginInfo t = none →
        ¬ ∃ a, s.getUserAccount sender.uuid = some a ∧ a.privilegeLevel = 1) ∧
      ((s.getLoginInfo t).isSome = true → check ≠ .ok false) := by
  have hempty := destroyFields_ne_empty hdest
  generalize hout : readAndDestroyUser s fd n bytes = out
  simp only [readAndDestroyUser, hn, hdest, hempty, hs, hcheck, Bool.false_eq_true, if_false]
    at hout
  cases hl : s.getLoginInfo t with
  | none =>
    simp only [hl, Option.isNone_none, if_true, removeUser] at hout
    cases ha : s.getUserAccount sender.uuid with
    | none =>
      rw [ha] at hout hcheck
      have hne : check ≠ .ok true := hcheck ▸ invalidCredentials_none _
      exact Or.inr (Or.inr (Or.inr ⟨_, hout.symm, hne, by simp, by simp⟩))
    | some a =>
      simp only [ha] at hout
      by_cases hpriv : a.privilegeLevel = 1
      · rw [if_pos hpriv] at hout
        exact Or.inl ⟨rfl, ⟨a, rfl, hpriv⟩, hout.symm⟩
      · rw [if_neg hpriv] at hout
        have hnone : ¬ ∃ a', some a = some a' ∧ a'.privilegeLevel = 1 := by
          rintro ⟨a', he, h1⟩
          cases he
          exact hpriv h1
        cases check with
        | error f =>
          exact Or.inr (Or.inr (Or.inr ⟨f, hout.symm, by simp, fun _ => hnone, by simp⟩))
        | ok b =>
          cases b with
          | true => exact Or.inr (Or.inl ⟨rfl, hout.symm⟩)
          | false =>
            exact Or.inr (Or.inr (Or.inr ⟨_, hout.symm, by simp, fun _ => hnone, by simp⟩))
  | some l =>
    simp only [hl, Option.isNone_some, Bool.false_eq_true, if_false, removeUser] at hout
    cases check with
    | error f => exact Or.inr (Or.inr (Or.inr ⟨f, hout.symm, by simp, by simp, by simp⟩))
    | ok b =>
      cases b with
      | true => exact Or.inr (Or.inl ⟨rfl, hout.symm⟩)
      | false => exact Or.inr (Or.inr (Or.inl ⟨l, rfl, rfl, hout.symm⟩))

end ChatServer
