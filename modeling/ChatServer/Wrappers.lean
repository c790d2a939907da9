import ChatServer.Database
import ChatServer.Lib.Buffer
import ChatServer.Lib.Program

/-!
# The database wrappers over bytes

The wrappers of `my_ndbm.c` for logins, display names and accounts, over the bytes that they hand
to `ndbm`. A key is the window of 21 or 37 bytes at the pointer that the wrapper is called with,
terminator and all that follows it included; a record is the bytes of its arrays. The wrappers of
`State` are the specification: there the keys and the arrays are strings.
-/

namespace ChatServer

open CLib

/-- The bytes of a `user_login_t`. -/
structure LoginRecord where
  loginToken : List UInt8
  password : List UInt8
  uuid : List UInt8
  deriving DecidableEq

/-- The bytes of the arrays of a `user_account_t`, and its other fields. -/
structure AccountRecord where
  userId : List UInt8
  displayName : List UInt8
  ipAddr : List UInt8
  onlineStatus : Bool
  privilegeLevel : Int
  deriving DecidableEq

/-- The three database files. -/
structure Files where
  loginInfo : Dbm (List UInt8) LoginRecord
  displayNames : Dbm (List UInt8) (List UInt8)
  userAccount : Dbm (List UInt8) AccountRecord

namespace Files

def empty : Files := ⟨∅, ∅, ∅⟩

variable (f : Files)

def getLoginInfo (loginToken : List UInt8) : Option LoginRecord :=
  f.loginInfo.lookup (loginToken.take tokenNameLength)

/-- The copy of `sizeof(user_login_t)` bytes holds all of the account. -/
def getUserAccount (userUuid : List UInt8) : Option AccountRecord :=
  f.userAccount.lookup (userUuid.take uuidLen)

/-- The uuid is copied by `strncpy` to a buffer from `malloc`. -/
def getUuidWithDisplayName (displayName heap : List UInt8) : Option (List UInt8) :=
  (f.displayNames.lookup (displayName.take tokenNameLength)).map fun value =>
    strncpy (malloc heap uuidLen) (cstr value) uuidLen

def checkDuplicateDisplayName (displayName : List UInt8) : Bool :=
  (f.displayNames.lookup (displayName.take tokenNameLength)).isSome

def insertUserLogin (login : LoginRecord) : Files :=
  { f with loginInfo := f.loginInfo.insert (login.loginToken.take tokenNameLength) login }

def insertDisplayName (displayName uuid : List UInt8) : Files :=
  { f with displayNames :=
    f.displayNames.insert (displayName.take tokenNameLength) (uuid.take uuidLen) }

def insertUserAccount (account : AccountRecord) : Files :=
  { f with userAccount := f.userAccount.insert (account.userId.take uuidLen) account }

def removeUserLogin (loginToken : List UInt8) : Files :=
  { f with loginInfo := f.loginInfo.erase (loginToken.take tokenNameLength) }

def removeDisplayName (displayName : List UInt8) : Files :=
  { f with displayNames := f.displayNames.erase (displayName.take tokenNameLength) }

def removeUserAccount (userId : List UInt8) : Files :=
  { f with userAccount := f.userAccount.erase (userId.take uuidLen) }

end Files

/-- A call of one of the wrappers, with the bytes at its pointers. -/
inductive WrapperCall where
  | getLoginInfo (loginToken : List UInt8)
  | getUserAccount (userUuid : List UInt8)
  | getUuidWithDisplayName (displayName heap : List UInt8)
  | checkDuplicateDisplayName (displayName : List UInt8)
  | insertUserLogin (login : LoginRecord)
  | insertDisplayName (displayName uuid : List UInt8)
  | insertUserAccount (account : AccountRecord)
  | removeUserLogin (loginToken : List UInt8)
  | removeDisplayName (displayName : List UInt8)
  | removeUserAccount (userId : List UInt8)
  deriving DecidableEq

namespace WrapperCall

/-- What a call returns. The status of a store or a removal is not used by the handlers. -/
abbrev Answer : WrapperCall → Type
  | getLoginInfo _ => Option LoginRecord
  | getUserAccount _ => Option AccountRecord
  | getUuidWithDisplayName _ _ => Option (List UInt8)
  | checkDuplicateDisplayName _ => Bool
  | _ => Unit

/-- The call on the files. -/
def onFiles : (c : WrapperCall) → Files → c.Answer × Files
  | getLoginInfo b, f => (f.getLoginInfo b, f)
  | getUserAccount b, f => (f.getUserAccount b, f)
  | getUuidWithDisplayName b heap, f => (f.getUuidWithDisplayName b heap, f)
  | checkDuplicateDisplayName b, f => (f.checkDuplicateDisplayName b, f)
  | insertUserLogin r, f => ((), f.insertUserLogin r)
  | insertDisplayName b u, f => ((), f.insertDisplayName b u)
  | insertUserAccount r, f => ((), f.insertUserAccount r)
  | removeUserLogin b, f => ((), f.removeUserLogin b)
  | removeDisplayName b, f => ((), f.removeDisplayName b)
  | removeUserAccount b, f => ((), f.removeUserAccount b)

end WrapperCall

/-- The record that holds the strings of a login. -/
def UserLogin.record (l : UserLogin) : LoginRecord :=
  ⟨l.loginToken.bytes, l.password.bytes, l.uuid.bytes⟩

def UserAccount.record (a : UserAccount) : AccountRecord :=
  ⟨a.userId.bytes, a.displayName.bytes, a.ipAddr.bytes, a.onlineStatus, a.privilegeLevel⟩

/-- The strings of a record. -/
def LoginRecord.strings (r : LoginRecord) : UserLogin :=
  ⟨.ofBytes _ r.loginToken, .ofBytes _ r.password, .ofBytes _ r.uuid⟩

def AccountRecord.strings (r : AccountRecord) : UserAccount :=
  ⟨.ofBytes _ r.userId, .ofBytes _ r.displayName, .ofBytes _ r.ipAddr, r.onlineStatus,
    r.privilegeLevel⟩

namespace WrapperCall

/-- The call on maps keyed by the C strings at its pointers. -/
def onStrings : (c : WrapperCall) → State → c.Answer × State
  | getLoginInfo b, s => ((s.getLoginInfo (.ofBytes _ b)).map UserLogin.record, s)
  | getUserAccount b, s => ((s.getUserAccount (.ofBytes _ b)).map UserAccount.record, s)
  | getUuidWithDisplayName b _, s =>
    ((s.getUuidWithDisplayName (.ofBytes _ b)).map CharArray.bytes, s)
  | checkDuplicateDisplayName b, s => (s.checkDuplicateDisplayName (.ofBytes _ b), s)
  | insertUserLogin r, s => ((), s.insertUserLogin r.strings)
  | insertDisplayName b u, s => ((), s.insertDisplayName (.ofBytes _ b) (.ofBytes _ u))
  | insertUserAccount r, s => ((), s.insertUserAccount r.strings)
  | removeUserLogin b, s => ((), s.removeUserLogin (.ofBytes _ b))
  | removeDisplayName b, s => ((), s.removeDisplayName (.ofBytes _ b))
  | removeUserAccount b, s => ((), s.removeUserAccount (.ofBytes _ b))

end WrapperCall

/-- The buffer is a C string in an array of `n` characters, zero up to the end of the array. -/
def Padded (n : ℕ) (b : List UInt8) : Prop := ∃ a : CharArray n, a.Text ∧ b = a.bytes

/-- Token and uuid are C strings, and the password array has no zero in front of its end. -/
structure UserLogin.Clean (l : UserLogin) : Prop where
  loginToken : l.loginToken.Text
  password : 0 ∉ l.password.str
  uuid : l.uuid.Text

structure UserAccount.Clean (a : UserAccount) : Prop where
  userId : a.userId.Text
  displayName : 0 ∉ a.displayName.str
  ipAddr : 0 ∉ a.ipAddr.str

/-- All arrays of the record are zero behind their strings. -/
def LoginRecord.Padded (r : LoginRecord) : Prop := ∃ l : UserLogin, l.Clean ∧ r = l.record

def AccountRecord.Padded (r : AccountRecord) : Prop := ∃ a : UserAccount, a.Clean ∧ r = a.record

theorem UserLogin.Clean.strings_record {l : UserLogin} (h : l.Clean) : l.record.strings = l := by
  simp only [LoginRecord.strings, UserLogin.record, CharArray.ofBytes_bytes h.loginToken.clean,
    CharArray.ofBytes_bytes h.password, CharArray.ofBytes_bytes h.uuid.clean]

theorem UserAccount.Clean.strings_record {a : UserAccount} (h : a.Clean) :
    a.record.strings = a := by
  simp only [AccountRecord.strings, UserAccount.record, CharArray.ofBytes_bytes h.userId.clean,
    CharArray.ofBytes_bytes h.displayName, CharArray.ofBytes_bytes h.ipAddr]

namespace WrapperCall

/-- The buffers that the call hands over are zero behind their strings. -/
def Padded : WrapperCall → Prop
  | getLoginInfo b | getUuidWithDisplayName b _ | checkDuplicateDisplayName b | removeUserLogin b
  | removeDisplayName b => ChatServer.Padded tokenNameLength b
  | getUserAccount b | removeUserAccount b => ChatServer.Padded uuidLen b
  | insertUserLogin r => r.Padded
  | insertUserAccount r => r.Padded
  | insertDisplayName b u =>
    ChatServer.Padded tokenNameLength b ∧ ChatServer.Padded uuidLen u

/-- So are the buffers of an answer. -/
def AnswerPadded : (c : WrapperCall) → c.Answer → Prop
  | getLoginInfo _, r => ∀ x ∈ r, x.Padded
  | getUserAccount _, r => ∀ x ∈ r, x.Padded
  | getUuidWithDisplayName _ _, r => ∀ x ∈ r, ChatServer.Padded uuidLen x
  | _, _ => True

end WrapperCall

/-- The files hold the records of the maps: every record under the window that a buffer with its key
gives. -/
structure Represents (f : Files) (s : State) : Prop where
  logins : Dbm.Encodes CharArray.Text CharArray.bytes UserLogin.record f.loginInfo s.userLoginInfo
  names : Dbm.Encodes CharArray.Text CharArray.bytes CharArray.bytes f.displayNames s.displayNames
  accounts : Dbm.Encodes CharArray.Text CharArray.bytes UserAccount.record f.userAccount
    s.userAccountInfo
  loginsClean : Dbm.All s.userLoginInfo fun _ l => l.Clean
  namesClean : Dbm.All s.displayNames fun _ u => u.Text
  accountsClean : Dbm.All s.userAccountInfo fun _ a => a.Clean

theorem Represents.empty : Represents .empty .fresh where
  logins := .empty
  names := .empty
  accounts := .empty
  loginsClean := .empty _
  namesClean := .empty _
  accountsClean := .empty _

section Step

variable {f : Files} {s : State} (h : Represents f s)
include h

theorem Represents.getLoginInfo {a : Name} (ha : a.Text) :
    f.getLoginInfo a.bytes = (s.getLoginInfo a).map UserLogin.record := by
  rw [Files.getLoginInfo, a.take_bytes]
  exact h.logins a ha

theorem Represents.getUserAccount {u : Uuid} (hu : u.Text) :
    f.getUserAccount u.bytes = (s.getUserAccount u).map UserAccount.record := by
  rw [Files.getUserAccount, u.take_bytes]
  exact h.accounts u hu

theorem Represents.getUuidWithDisplayName {a : Name} (ha : a.Text) (heap : List UInt8) :
    f.getUuidWithDisplayName a.bytes heap =
      (s.getUuidWithDisplayName a).map CharArray.bytes := by
  rw [Files.getUuidWithDisplayName, a.take_bytes, h.names a ha, State.getUuidWithDisplayName]
  cases hu : s.displayNames.lookup a with
  | none => rfl
  | some u =>
    -- the copy overwrites all of the allocated buffer
    have hcopy := CharArray.strncpy_full (length_malloc heap uuidLen) (cstr u.bytes)
    have hsame := CharArray.ofBytes_bytes (h.namesClean a u hu).clean
    rw [Option.map_some, Option.map_some, hcopy]
    exact congrArg (fun v : Uuid => some v.bytes) hsame

theorem Represents.checkDuplicateDisplayName {a : Name} (ha : a.Text) :
    f.checkDuplicateDisplayName a.bytes = s.checkDuplicateDisplayName a := by
  rw [Files.checkDuplicateDisplayName, a.take_bytes, h.names a ha, Option.isSome_map]
  rfl

theorem Represents.insertUserLogin {l : UserLogin} (hl : l.Clean) :
    Represents (f.insertUserLogin l.record) (s.insertUserLogin l) := by
  refine { h with logins := ?_, loginsClean := h.loginsClean.insert hl }
  have hkey := l.loginToken.take_bytes
  simp only [Files.insertUserLogin, State.insertUserLogin, UserLogin.record, hkey]
  exact h.logins.insert CharArray.Text.bytes_inj hl.loginToken l

theorem Represents.insertDisplayName {a : Name} {u : Uuid} (ha : a.Text) (hu : u.Text) :
    Represents (f.insertDisplayName a.bytes u.bytes) (s.insertDisplayName a u) := by
  refine { h with names := ?_, namesClean := h.namesClean.insert hu }
  simp only [Files.insertDisplayName, State.insertDisplayName, a.take_bytes, u.take_bytes]
  exact h.names.insert CharArray.Text.bytes_inj ha u

theorem Represents.insertUserAccount {a : UserAccount} (ha : a.Clean) :
    Represents (f.insertUserAccount a.record) (s.insertUserAccount a) := by
  refine { h with accounts := ?_, accountsClean := h.accountsClean.insert ha }
  have hkey := a.userId.take_bytes
  simp only [Files.insertUserAccount, State.insertUserAccount, UserAccount.record, hkey]
  exact h.accounts.insert CharArray.Text.bytes_inj ha.userId a

theorem Represents.removeUserLogin {a : Name} (ha : a.Text) :
    Represents (f.removeUserLogin a.bytes) (s.removeUserLogin a) := by
  refine { h with logins := ?_, loginsClean := h.loginsClean.erase a }
  simp only [Files.removeUserLogin, State.removeUserLogin, a.take_bytes]
  exact h.logins.erase CharArray.Text.bytes_inj ha

theorem Represents.removeDisplayName {a : Name} (ha : a.Text) :
    Represents (f.removeDisplayName a.bytes) (s.removeDisplayName a) := by
  refine { h with names := ?_, namesClean := h.namesClean.erase a }
  simp only [Files.removeDisplayName, State.removeDisplayName, a.take_bytes]
  exact h.names.erase CharArray.Text.bytes_inj ha

theorem Represents.removeUserAccount {u : Uuid} (hu : u.Text) :
    Represents (f.removeUserAccount u.bytes) (s.removeUserAccount u) := by
  refine { h with accounts := ?_, accountsClean := h.accountsClean.erase u }
  simp only [Files.removeUserAccount, State.removeUserAccount, u.take_bytes]
  exact h.accounts.erase CharArray.Text.bytes_inj hu

/-- A call with padded buffers is answered by the files as by the maps, and the files go on holding
the records of the maps. -/
theorem Represents.step {c : WrapperCall} (hc : c.Padded) :
    (c.onFiles f).1 = (c.onStrings s).1 ∧ c.AnswerPadded (c.onFiles f).1 ∧
      Represents (c.onFiles f).2 (c.onStrings s).2 := by
  cases c with
  | getLoginInfo b =>
    obtain ⟨a, ha, rfl⟩ := hc
    simp only [WrapperCall.onFiles, WrapperCall.onStrings, CharArray.ofBytes_bytes ha.clean,
      h.getLoginInfo ha]
    refine ⟨trivial, ?_, h⟩
    intro x hx
    obtain ⟨l, hl, rfl⟩ := Option.map_eq_some_iff.mp hx
    exact ⟨l, h.loginsClean a l hl, rfl⟩
  | getUserAccount b =>
    obtain ⟨u, hu, rfl⟩ := hc
    simp only [WrapperCall.onFiles, WrapperCall.onStrings, CharArray.ofBytes_bytes hu.clean,
      h.getUserAccount hu]
    refine ⟨trivial, ?_, h⟩
    intro x hx
    obtain ⟨a, ha, rfl⟩ := Option.map_eq_some_iff.mp hx
    exact ⟨a, h.accountsClean u a ha, rfl⟩
  | getUuidWithDisplayName b heap =>
    obtain ⟨a, ha, rfl⟩ := hc
    simp only [WrapperCall.onFiles, WrapperCall.onStrings, CharArray.ofBytes_bytes ha.clean,
      h.getUuidWithDisplayName ha]
    refine ⟨trivial, ?_, h⟩
    intro x hx
    obtain ⟨u, hu, rfl⟩ := Option.map_eq_some_iff.mp hx
    exact ⟨u, h.namesClean a u hu, rfl⟩
  | checkDuplicateDisplayName b =>
    obtain ⟨a, ha, rfl⟩ := hc
    simp only [WrapperCall.onFiles, WrapperCall.onStrings, CharArray.ofBytes_bytes ha.clean,
      h.checkDuplicateDisplayName ha]
    exact ⟨trivial, trivial, h⟩
  | insertUserLogin r =>
    obtain ⟨l, hl, rfl⟩ := hc
    simp only [WrapperCall.onFiles, WrapperCall.onStrings, hl.strings_record]
    exact ⟨trivial, trivial, h.insertUserLogin hl⟩
  | insertDisplayName b u =>
    obtain ⟨⟨a, ha, rfl⟩, v, hv, rfl⟩ := hc
    simp only [WrapperCall.onFiles, WrapperCall.onStrings, CharArray.ofBytes_bytes ha.clean,
      CharArray.ofBytes_bytes hv.clean]
    exact ⟨trivial, trivial, h.insertDisplayName ha hv⟩
  | insertUserAccount r =>
    obtain ⟨a, ha, rfl⟩ := hc
    simp only [WrapperCall.onFiles, WrapperCall.onStrings, ha.strings_record]
    exact ⟨trivial, trivial, h.insertUserAccount ha⟩
  | removeUserLogin b =>
    obtain ⟨a, ha, rfl⟩ := hc
    simp only [WrapperCall.onFiles, WrapperCall.onStrings, CharArray.ofBytes_bytes ha.clean]
    exact ⟨trivial, trivial, h.removeUserLogin ha⟩
  | removeDisplayName b =>
    obtain ⟨a, ha, rfl⟩ := hc
    simp only [WrapperCall.onFiles, WrapperCall.onStrings, CharArray.ofBytes_bytes ha.clean]
    exact ⟨trivial, trivial, h.removeDisplayName ha⟩
  | removeUserAccount b =>
    obtain ⟨u, hu, rfl⟩ := hc
    simp only [WrapperCall.onFiles, WrapperCall.onStrings, CharArray.ofBytes_bytes hu.clean]
    exact ⟨trivial, trivial, h.removeUserAccount hu⟩

end Step

inductive Database where
  | loginInfo | displayNames | userAccount
  deriving DecidableEq

namespace WrapperCall

/-- The database of a call and the window that is its key. -/
def window : WrapperCall → Database × List UInt8
  | getLoginInfo b | removeUserLogin b => (.loginInfo, b.take tokenNameLength)
  | insertUserLogin r => (.loginInfo, r.loginToken.take tokenNameLength)
  | getUuidWithDisplayName b _ | checkDuplicateDisplayName b | insertDisplayName b _
  | removeDisplayName b => (.displayNames, b.take tokenNameLength)
  | getUserAccount b | removeUserAccount b => (.userAccount, b.take uuidLen)
  | insertUserAccount r => (.userAccount, r.userId.take uuidLen)

/-- The database and the C string that is the key. -/
def key (c : WrapperCall) : Database × Str := (c.window.1, cstr c.window.2)

/-- The files hold the same under one key. -/
def SameAt (f f' : Files) : Database × List UInt8 → Prop
  | (.loginInfo, k) => f.loginInfo.lookup k = f'.loginInfo.lookup k
  | (.displayNames, k) => f.displayNames.lookup k = f'.displayNames.lookup k
  | (.userAccount, k) => f.userAccount.lookup k = f'.userAccount.lookup k

theorem sameAt_refl (f : Files) (w : Database × List UInt8) : SameAt f f w := by
  obtain ⟨db, k⟩ := w
  cases db <;> rfl

/-- A call changes nothing under another window than its own. -/
theorem sameAt_onFiles {c : WrapperCall} {w : Database × List UInt8} (h : w ≠ c.window)
    (f : Files) : SameAt (c.onFiles f).2 f w := by
  obtain ⟨db, k⟩ := w
  cases c with
  | insertUserLogin r =>
    cases db with
    | loginInfo => exact AList.lookup_insert_ne (fun e => h (congrArg (Prod.mk _) e))
    | displayNames | userAccount => rfl
  | insertDisplayName b u =>
    cases db with
    | displayNames => exact AList.lookup_insert_ne (fun e => h (congrArg (Prod.mk _) e))
    | loginInfo | userAccount => rfl
  | insertUserAccount r =>
    cases db with
    | userAccount => exact AList.lookup_insert_ne (fun e => h (congrArg (Prod.mk _) e))
    | loginInfo | displayNames => rfl
  | removeUserLogin b =>
    cases db with
    | loginInfo => exact AList.lookup_erase_ne (fun e => h (congrArg (Prod.mk _) e))
    | displayNames | userAccount => rfl
  | removeDisplayName b =>
    cases db with
    | displayNames => exact AList.lookup_erase_ne (fun e => h (congrArg (Prod.mk _) e))
    | loginInfo | userAccount => rfl
  | removeUserAccount b =>
    cases db with
    | userAccount => exact AList.lookup_erase_ne (fun e => h (congrArg (Prod.mk _) e))
    | loginInfo | displayNames => rfl
  | getLoginInfo | getUserAccount | getUuidWithDisplayName | checkDuplicateDisplayName =>
    exact sameAt_refl f _

/-- An answer depends on the key of the call alone. -/
theorem answer_of_sameAt {g : WrapperCall} {f f' : Files} (h : SameAt f f' g.window) :
    (g.onFiles f).1 = (g.onFiles f').1 := by
  cases g with
  | getLoginInfo b => exact h
  | getUserAccount b => exact h
  | getUuidWithDisplayName b heap => exact congrArg (Option.map _) h
  | checkDuplicateDisplayName b => exact congrArg Option.isSome h
  | _ => rfl

/-- A call does not change the answer to a call with another key. -/
theorem answer_of_key_ne {c g : WrapperCall} (h : g.key ≠ c.key) (f : Files) :
    (g.onFiles (c.onFiles f).2).1 = (g.onFiles f).1 := by
  apply answer_of_sameAt
  apply sameAt_onFiles
  intro hw
  exact h (by rw [key, key, hw])

end WrapperCall

end ChatServer
