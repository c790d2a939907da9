import ChatServer.Dispatch
import ChatServer.Lib.Program

/-!
# The handlers over calls that can fail

The wrappers of `my_ndbm.c` and the handlers that write, once more, as programs of `dbm` calls.
Which of the calls `dbm_open`, `dbm_store` and `dbm_delete` fail is given by a pattern over the
calls in the order in which they are made. Without a failure the handlers are those of
`ChatServer.Handler`.
-/

namespace ChatServer

open CLib

/-- The database files of `my_ndbm.c`. -/
inductive DbFile where
  | loginInfo | displayNames | userAccount | channelInfo | messageInfo
  deriving DecidableEq

namespace DbFile

abbrev Key : DbFile → Type
  | loginInfo | displayNames => Name
  | userAccount | channelInfo | messageInfo => Uuid

abbrev Value : DbFile → Type
  | loginInfo => UserLogin
  | displayNames => Uuid
  | userAccount => UserAccount
  | channelInfo => ChannelInfo
  | messageInfo => MessageInfo

instance : (db : DbFile) → DecidableEq db.Key
  | loginInfo | displayNames => inferInstanceAs (DecidableEq Name)
  | userAccount | channelInfo | messageInfo => inferInstanceAs (DecidableEq Uuid)

end DbFile

namespace State

/-- What a file holds. -/
def file (s : State) : (db : DbFile) → Dbm db.Key db.Value
  | .loginInfo => s.userLoginInfo
  | .displayNames => s.displayNames
  | .userAccount => s.userAccountInfo
  | .channelInfo => s.channelInfo
  | .messageInfo => s.messagesInfo

def setFile (s : State) : (db : DbFile) → Dbm db.Key db.Value → State
  | .loginInfo, d => { s with userLoginInfo := d }
  | .displayNames, d => { s with displayNames := d }
  | .userAccount, d => { s with userAccountInfo := d }
  | .channelInfo, d => { s with channelInfo := d }
  | .messageInfo, d => { s with messagesInfo := d }

end State

/-- The flags a wrapper opens its file with. -/
inductive OpenFlags where
  /-- `O_RDONLY | O_SYNC` -/
  | rdonly
  /-- `O_RDWR` -/
  | rdwr
  /-- `O_CREAT | O_RDWR | O_SYNC | O_APPEND` -/
  | creat
  deriving DecidableEq

/-- What is written by `dbm_store` with `DBM_REPLACE`, or by `dbm_delete`. -/
inductive Change where
  | store (db : DbFile) (key : db.Key) (value : db.Value)
  | delete (db : DbFile) (key : db.Key)

namespace Change

def db : Change → DbFile
  | store db _ _ => db
  | delete db _ => db

def apply (s : State) : Change → State
  | store db key value => s.setFile db ((s.file db).insert key value)
  | delete db key => s.setFile db ((s.file db).erase key)

end Change

inductive DbmCall where
  | dbmOpen (db : DbFile) (flags : OpenFlags)
  | dbmFetch (db : DbFile) (key : db.Key)
  /-- the loop over `dbm_firstkey`, `dbm_nextkey` and `dbm_fetch` -/
  | channels
  | write (c : Change)

namespace DbmCall

/-- Whether a call that can fail was successful, or what a search found. -/
abbrev Answer : DbmCall → Type
  | dbmOpen _ _ => Bool
  | dbmFetch db _ => Option db.Value
  | channels => List ChannelInfo
  | write _ => Bool

/-- A call on the databases, `n` calls that can fail having been made before. A `dbm_delete` of a
key that is not there is answered in either way. -/
def onDisk (env : Env) (fails : ℕ → Bool) : (c : DbmCall) → State × ℕ → c.Answer × (State × ℕ)
  | dbmOpen _ _, (s, n) => (!fails n, s, n+1)
  | dbmFetch db key, (s, n) => ((s.file db).lookup key, s, n)
  | channels, (s, n) => (s.getAllChannels env, s, n)
  | write c, (s, n) => if fails n then (false, s, n+1) else (true, c.apply s, n+1)

end DbmCall

abbrev DbmCalls (α : Type) := Prog DbmCall DbmCall.Answer α

namespace DbmCalls

open DbmCall Prog

/-- A wrapper that fetches a record, `none` being `NULL`. -/
def fetchFrom (db : DbFile) (flags : OpenFlags) (key : db.Key) : DbmCalls (Option db.Value) := do
  if ← perform (dbmOpen db flags) then perform (dbmFetch db key) else return none

def getLoginInfo (loginToken : Name) : DbmCalls (Option UserLogin) :=
  fetchFrom .loginInfo .rdonly loginToken

def getUserAccount (userUuid : Uuid) : DbmCalls (Option UserAccount) :=
  fetchFrom .userAccount .rdwr userUuid

def getUuidWithDisplayName (displayName : Name) : DbmCalls (Option Uuid) :=
  fetchFrom .displayNames .rdwr displayName

def checkDuplicateDisplayName (displayName : Name) : DbmCalls Bool := do
  return (← fetchFrom .displayNames .rdonly displayName).isSome

/-- `get_all_channels`, `none` being `NULL`. -/
def getAllChannels : DbmCalls (Option (List ChannelInfo)) := do
  if ← perform (dbmOpen .channelInfo .rdonly) then return some (← perform channels)
  else return none

/-- `get_channel_info_malloc_or_null`, which searches the channels in the same loop. -/
def getChannelInfo (channelName : Name) : DbmCalls (Option ChannelInfo) := do
  return (← getAllChannels).bind fun cs => cs.find? fun c => c.channelName = channelName

/-- A wrapper that stores or deletes a record: its result is 0 or -1. -/
def writeTo (c : Change) : DbmCalls Int := do
  if ← perform (dbmOpen c.db .creat) then
    if ← perform (write c) then return 0 else return -1
  else return -1

def insertUserAccount (account : UserAccount) : DbmCalls Int :=
  writeTo (.store .userAccount account.userId account)

def insertDisplayName (displayName : Name) (uuid : Uuid) : DbmCalls Int :=
  writeTo (.store .displayNames displayName uuid)

def insertUserLogin (login : UserLogin) : DbmCalls Int :=
  writeTo (.store .loginInfo login.loginToken login)

def insertMessage (message : MessageInfo) : DbmCalls Int :=
  writeTo (.store .messageInfo message.messageId message)

def removeUserAccount (userId : Uuid) : DbmCalls Int := writeTo (.delete .userAccount userId)

def removeDisplayName (displayName : Name) : DbmCalls Int :=
  writeTo (.delete .displayNames displayName)

def removeUserLogin (loginToken : Name) : DbmCalls Int := writeTo (.delete .loginInfo loginToken)

end DbmCalls

/-- How a handler ends: with the sessions it leaves in the cache, and with a reply unless it does
not return. -/
structure Ending where
  cache : Cache
  value : Except Fault Reply

namespace Ending

def reply (c : Cache) (result : Int) (token : Str) : Ending := ⟨c, .ok ⟨result, token, []⟩⟩

def fault (c : Cache) (f : Fault) : Ending := ⟨c, .error f⟩

end Ending

namespace DbmCalls

/-- Token and display name of a request to create a user, and the fields behind them. -/
def createNames (bytes : List UInt8) : Except Fault (Name × Name × List Str) := do
  let (loginToken, ts) ← nextField tokenNameLength (fields bytes)
  let (displayName, ts) ← nextField tokenNameLength ts
  return (loginToken, displayName, ts)

/-- `read_and_create_user`. The results of the three stores are not used. -/
def readAndCreateUser (cache : Cache) (env : Env) (bodySize : ℕ) (bytes : List UInt8) :
    DbmCalls Ending :=
  if bodyIncomplete bodySize bytes then pure (.reply cache (-1) [])
  else match createNames bytes with
    | .error f => pure (.fault cache f)
    | .ok (loginToken, displayName, ts) => do
      let isTokenDuplicate := (← getLoginInfo loginToken).isSome
      let isDisplayNameDuplicates ← checkDuplicateDisplayName displayName
      if isTokenDuplicate && isDisplayNameDuplicates then
        return .reply cache errorCreateUserDuplicateAll []
      else if isTokenDuplicate then return .reply cache errorCreateUserDuplicateToken []
      else if isDisplayNameDuplicates then
        return .reply cache errorCreateUserDuplicateDisplayName []
      else match nextField pswdMaxLength ts with
        | .error f => return .fault cache f
        | .ok (password, _) =>
          let _ ← insertDisplayName displayName env.uuid
          let _ ← insertUserLogin (generateUserLogin loginToken password env.uuid)
          let _ ← insertUserAccount (generateUserAccount env.uuid displayName)
          return .reply cache 0 loginToken.str

/-- The part of `read_and_destroy_user` behind the credential check. -/
def removeUser (cache : Cache) (displayName : Name) : Option UserLogin → DbmCalls Ending
  | none => pure (.fault cache .assertFailed)
  | some loginInfo => do
    let _ ← removeDisplayName displayName
    let _ ← removeUserAccount loginInfo.uuid
    let _ ← removeUserLogin loginInfo.loginToken
    return .reply cache 0 displayName.str

/-- `read_and_destroy_user` -/
def readAndDestroyUser (cache : Cache) (fd : ℕ) (bodySize : ℕ) (bytes : List UInt8) :
    DbmCalls Ending :=
  if bodyIncomplete bodySize bytes then pure (.reply cache (-1) [])
  else match destroyFields bytes with
    | .error f => pure (.fault cache f)
    | .ok (displayName, loginToken, password) =>
      if displayName.isEmpty || loginToken.isEmpty || password.isEmpty then
        pure (.reply cache errorDestroyUserInvalidFields [])
      else match cache.getConnectedUserByFd fd with
        | none => pure (.fault cache .nullPointer)
        | some sender => do
          let senderLogin ← getLoginInfo sender.loginToken
          let senderAccount ← getUserAccount sender.uuid
          let loginInfo ← getLoginInfo loginToken
          let credentials := fun _ : Unit =>
            match invalidCredentials sender senderLogin senderAccount displayName password with
            | .error f => pure (.fault cache f)
            | .ok true => pure (.reply cache errorDestroyUserInvalidCredentials [])
            | .ok false => removeUser cache displayName loginInfo
          if loginInfo.isNone then
            match senderAccount with
            | none => return .fault cache .nullPointer
            | some account =>
              if account.privilegeLevel = 1 then return .reply cache errorDestroyUserNotExist []
              else credentials ()
          else credentials ()

/-- `insert_user_in_cache` and the `return` behind it. -/
def openSession (cache : Cache) (fd : ℕ) (account : UserAccount) (login : UserLogin)
    (result : Int) (token : Str) : Ending :=
  match cache.insertUserInCache fd account login with
  | none => .fault cache .overflow
  | some c => .reply c result token

/-- `read_and_login_user` from the account on. Without a list of channels it goes on with an empty
one. -/
def loginAccount (cache : Cache) (fd : ℕ) (clntAddr : IpAddr) (login : UserLogin)
    (account : UserAccount) (loginToken : Name) : DbmCalls Ending :=
  if loggedInElsewhere cache account clntAddr then
    pure (openSession cache fd account login terminateAndRestablishConnection loginToken.str)
  else do
    let account := loginUserAccount account clntAddr
    let _ ← insertUserAccount account
    let channels ← getAllChannels
    let body := loginBody account (channels.getD [])
    if cache.findConnectedUserWithSameCred account fd then return .reply cache 0 body
    else return openSession cache fd account login 0 body

/-- `read_and_login_user` -/
def readAndLoginUser (cache : Cache) (fd : ℕ) (clntAddr : IpAddr) (bodySize : ℕ)
    (bytes : List UInt8) : DbmCalls Ending :=
  if bodyIncomplete bodySize bytes then pure (.reply cache (-1) [])
  else match loginFields bytes with
    | .error f => pure (.fault cache f)
    | .ok (loginToken, password) => do
      match ← getLoginInfo loginToken with
      | none => return .reply cache errorLoginDoesNotExist []
      | some loginInfo =>
        if !compareStrings loginInfo.password.str password.str ||
            !compareStrings loginInfo.loginToken.str loginToken.str then
          return .reply cache errorLoginInvalidCredentials []
        else match ← getUserAccount loginInfo.uuid with
          | none => return .fault cache .nullPointer
          | some account => loginAccount cache fd clntAddr loginInfo account loginToken

/-- `read_and_logout_user` -/
def readAndLogoutUser (cache : Cache) (clntAddr : IpAddr) (bodySize : ℕ) (bytes : List UInt8) :
    DbmCalls Ending :=
  if bodyIncomplete bodySize bytes then pure (.reply cache (-1) [])
  else match nextField tokenNameLength (fields bytes) with
    | .error f => pure (.fault cache f)
    | .ok (displayName, _) => do
      match ← getUuidWithDisplayName displayName with
      | none => return .reply cache errorDestroyAuth500 []
      | some uuid =>
        match ← getUserAccount uuid with
        | none => return .reply cache errorDestroyAuth500 []
        | some account =>
          match logoutRefused account clntAddr with
          | .error f => return .fault cache f
          | .ok (some result) => return .reply cache result []
          | .ok none =>
            let _ ← insertUserAccount (logoutUserAccount account)
            return .reply (cache.removeUserInCache account.displayName) 0 account.displayName.str

/-- `read_and_create_message` from the channel on. The login is fetched while the message is
built. -/
def storeNewMessage (cache : Cache) (env : Env) (displayName channelName : Name) (content : Str)
    (timestamp : CharArray timestampSize) (forward : Str) : DbmCalls Ending := do
  match ← getChannelInfo channelName with
  | none => return ⟨cache, .ok ⟨errorChannelDoesNotExist, channelName.str, forward⟩⟩
  | some channel =>
    match cache.getConnectedUserByDisplayName displayName with
    | none => return .fault cache .nullPointer
    | some user =>
      match ← getUserAccount user.uuid with
      | none => return .fault cache .nullPointer
      | some account =>
        if account.privilegeLevel ≠ 0 ∧ account.privilegeLevel ≠ 1 then
          return .fault cache .assertFailed
        else match ← getLoginInfo user.loginToken with
          | none => return .fault cache .nullPointer
          | some login =>
            let _ ← insertMessage (generateMessage env login channel content timestamp)
            return ⟨cache, .ok ⟨0, channelName.str, forward⟩⟩

/-- `read_and_create_message` -/
def readAndCreateMessage (cache : Cache) (env : Env) (bodySize : ℕ) (bytes : List UInt8) :
    DbmCalls Ending :=
  if bodyIncomplete bodySize bytes then pure (.reply cache (-1) [])
  else match nextField tokenNameLength (fields bytes) with
    | .error f => pure (.fault cache f)
    | .ok (displayName, ts) =>
      if displayName.str = ascii "200" then pure ⟨cache, .ok ⟨createMessageAck, [], cstr bytes⟩⟩
      else match messageFields ts with
        | .error f => pure (.fault cache f)
        | .ok (channelName, content, timestamp) =>
          if displayName.isEmpty || channelName.isEmpty || content.isEmpty || timestamp.isEmpty then
            pure ⟨cache, .ok ⟨errorInvalidRequest, channelName.str, cstr bytes⟩⟩
          else storeNewMessage cache env displayName channelName content.str timestamp (cstr bytes)

end DbmCalls

/-- The handlers that write to the databases of users and messages. -/
inductive WritingHandler where
  | createUser | destroyUser | login | logout | createMessage
  deriving DecidableEq

namespace WritingHandler

def kind : WritingHandler → RequestKind
  | createUser => .createUser
  | destroyUser => .destroyUser
  | login => .login
  | logout => .logout
  | createMessage => .createMessage

/-- The handler as a program of calls. -/
def program (h : WritingHandler) (cache : Cache) (r : Request) (bodySize : ℕ)
    (bytes : List UInt8) : DbmCalls Ending :=
  match h with
  | createUser => DbmCalls.readAndCreateUser cache r.env bodySize bytes
  | destroyUser => DbmCalls.readAndDestroyUser cache r.fd bodySize bytes
  | login => DbmCalls.readAndLoginUser cache r.fd r.clntAddr bodySize bytes
  | logout => DbmCalls.readAndLogoutUser cache r.clntAddr bodySize bytes
  | createMessage => DbmCalls.readAndCreateMessage cache r.env bodySize bytes

end WritingHandler

/-- What a wrapper finds: nothing if its `dbm_open` failed. -/
def found {α : Type} (failed : Bool) (x : Option α) : Option α := if failed then none else x

namespace DbmCalls

open DbmCall

variable (env : Env) (fails : ℕ → Bool)

/-- The outcome of a handler that starts when `n` calls have been made. -/
def outcome (p : DbmCalls Ending) (s : State) (n : ℕ) : Outcome :=
  let r := p.exec (onDisk env fails) (s, n)
  ⟨{ r.2.1 with activeUsers := r.1.cache }, r.1.value⟩

/-- The calls of a handler, with their answers. -/
def calls (p : DbmCalls Ending) (s : State) (n : ℕ) : List (Σ c : DbmCall, c.Answer) :=
  p.trace (onDisk env fails) (s, n)

section

variable {env fails} {s : State} {n : ℕ}

theorem exec_fetchFrom (db : DbFile) (flags : OpenFlags) (key : db.Key) :
    (fetchFrom db flags key).exec (onDisk env fails) (s, n) =
      (found (fails n) ((s.file db).lookup key), s, n+1) := by
  rw [fetchFrom, Prog.exec_bind, found]
  show Prog.exec _ (if (!fails n) = true then _ else _) (s, n+1) = _
  cases fails n with
  | false => rfl
  | true => rfl

theorem exec_getAllChannels : getAllChannels.exec (onDisk env fails) (s, n) =
    (found (fails n) (some (s.getAllChannels env)), s, n+1) := by
  rw [getAllChannels, Prog.exec_bind, found]
  show Prog.exec _ (if (!fails n) = true then _ else _) (s, n+1) = _
  cases fails n with
  | false => rfl
  | true => rfl

/-- A write takes two calls. -/
theorem writeTo_succeeds (env : Env) (s : State) (c : Change) (h₁ : fails n = false)
    (h₂ : fails (n+1) = false) :
    (writeTo c).exec (onDisk env fails) (s, n) = (0, c.apply s, n+2) ∧
      (writeTo c).trace (onDisk env fails) (s, n) =
        [⟨dbmOpen c.db .creat, true⟩, ⟨write c, true⟩] := by
  have hopen : (dbmOpen c.db .creat).onDisk env fails (s, n) = (true, s, n+1) := by
    rw [onDisk, h₁]; rfl
  have hwrite : (write c).onDisk env fails (s, n+1) = (true, c.apply s, n+2) := by
    rw [onDisk, h₂]; rfl
  constructor
  · simp only [writeTo, Prog.exec_bind, Prog.perform, Prog.exec, hopen, hwrite, if_true]
    rfl
  · simp only [writeTo, Prog.trace_bind, Prog.perform, Prog.exec, Prog.trace, hopen, hwrite,
      if_true]
    rfl

end

section NoFailure

variable {env} {s : State} {r : Request} {n : ℕ} {bytes : List UInt8}

/-- Every call is successful. -/
def noFailure : ℕ → Bool := fun _ => false

theorem outcome_getLoginInfo (t : Name) (k : Option UserLogin → DbmCalls Ending) :
    outcome env noFailure (getLoginInfo t >>= k) s n =
      outcome env noFailure (k (s.getLoginInfo t)) s (n+1) := rfl

theorem outcome_getUserAccount (u : Uuid) (k : Option UserAccount → DbmCalls Ending) :
    outcome env noFailure (getUserAccount u >>= k) s n =
      outcome env noFailure (k (s.getUserAccount u)) s (n+1) := rfl

theorem outcome_checkDuplicateDisplayName (d : Name) (k : Bool → DbmCalls Ending) :
    outcome env noFailure (checkDuplicateDisplayName d >>= k) s n =
      outcome env noFailure (k (s.checkDuplicateDisplayName d)) s (n+1) := rfl

theorem outcome_getUuidWithDisplayName (d : Name) (k : Option Uuid → DbmCalls Ending) :
    outcome env noFailure (getUuidWithDisplayName d >>= k) s n =
      outcome env noFailure (k (s.getUuidWithDisplayName d)) s (n+1) := rfl

theorem outcome_getChannelInfo (name : Name) (k : Option ChannelInfo → DbmCalls Ending) :
    outcome env noFailure (getChannelInfo name >>= k) s n =
      outcome env noFailure (k (s.getChannelInfo env name)) s (n+1) := rfl

theorem outcome_createUser :
    outcome env noFailure (DbmCalls.readAndCreateUser s.activeUsers env n bytes) s 0 =
      ChatServer.readAndCreateUser s env n bytes := by
  rw [DbmCalls.readAndCreateUser, ChatServer.readAndCreateUser, ← createNames]
  cases bodyIncomplete n bytes with
  | true => rfl
  | false =>
    simp only [Bool.false_eq_true, if_false]
    cases createNames bytes with
    | error f => rfl
    | ok x =>
      obtain ⟨t, d, ts⟩ := x
      simp only [outcome_getLoginInfo, outcome_checkDuplicateDisplayName]
      cases s.getLoginInfo t with
      | none =>
        cases s.checkDuplicateDisplayName d with
        | true => rfl
        | false =>
          cases nextField pswdMaxLength ts with
          | error f => rfl
          | ok y => rfl
      | some l =>
        cases s.checkDuplicateDisplayName d with
        | true => rfl
        | false => rfl

theorem outcome_destroyUser {fd : ℕ} :
    outcome env noFailure (DbmCalls.readAndDestroyUser s.activeUsers fd n bytes) s 0 =
      ChatServer.readAndDestroyUser s fd n bytes := by
  rw [DbmCalls.readAndDestroyUser, ChatServer.readAndDestroyUser]
  cases bodyIncomplete n bytes with
  | true => rfl
  | false =>
    cases destroyFields bytes with
    | error f => rfl
    | ok x =>
      obtain ⟨d, t, p⟩ := x
      simp only [Bool.false_eq_true, if_false]
      cases d.isEmpty || t.isEmpty || p.isEmpty with
      | true => rfl
      | false =>
        cases s.activeUsers.getConnectedUserByFd fd with
        | none => rfl
        | some sender =>
          simp only [outcome_getLoginInfo, outcome_getUserAccount, Bool.false_eq_true, if_false]
          cases s.getLoginInfo t with
          | none =>
            cases s.getUserAccount sender.uuid with
            | none => rfl
            | some account =>
              by_cases hpriv : account.privilegeLevel = 1
              · simp only [Option.isNone_none, if_true, hpriv]; rfl
              · simp only [Option.isNone_none, if_true, if_neg hpriv]
                cases invalidCredentials sender (s.getLoginInfo sender.loginToken) (some account)
                    d p with
                | error f => rfl
                | ok b => cases b <;> rfl
          | some login =>
            simp only [Option.isNone_some, Bool.false_eq_true, if_false]
            cases invalidCredentials sender (s.getLoginInfo sender.loginToken)
                (s.getUserAccount sender.uuid) d p with
            | error f => rfl
            | ok b => cases b <;> rfl

theorem outcome_loginAccount {fd m : ℕ} {clntAddr : IpAddr} {login : UserLogin}
    {account : UserAccount} {t : Name} :
    outcome env noFailure (DbmCalls.loginAccount s.activeUsers fd clntAddr login account t) s m =
      ChatServer.loginAccount s env fd clntAddr login account t := by
  rw [DbmCalls.loginAccount, ChatServer.loginAccount]
  cases loggedInElsewhere s.activeUsers account clntAddr with
  | true =>
    simp only [if_true, DbmCalls.openSession, ChatServer.openSession]
    cases s.activeUsers.insertUserInCache fd account login with
    | none => rfl
    | some c => rfl
  | false =>
    simp only [Bool.false_eq_true, if_false, DbmCalls.openSession, ChatServer.openSession,
      State.insertUserAccount_activeUsers]
    cases s.activeUsers.findConnectedUserWithSameCred (loginUserAccount account clntAddr) fd with
    | true => rfl
    | false =>
      cases s.activeUsers.insertUserInCache fd (loginUserAccount account clntAddr) login with
      | none => rfl
      | some c => rfl

theorem outcome_login {fd : ℕ} {clntAddr : IpAddr} :
    outcome env noFailure (DbmCalls.readAndLoginUser s.activeUsers fd clntAddr n bytes) s 0 =
      ChatServer.readAndLoginUser s env fd clntAddr n bytes := by
  rw [DbmCalls.readAndLoginUser, ChatServer.readAndLoginUser]
  cases bodyIncomplete n bytes with
  | true => rfl
  | false =>
    cases loginFields bytes with
    | error f => rfl
    | ok x =>
      obtain ⟨t, p⟩ := x
      simp only [outcome_getLoginInfo, Bool.false_eq_true, if_false]
      cases s.getLoginInfo t with
      | none => rfl
      | some login =>
        dsimp only
        cases !compareStrings login.password.str p.str ||
            !compareStrings login.loginToken.str t.str with
        | true => rfl
        | false =>
          simp only [outcome_getUserAccount, Bool.false_eq_true, if_false]
          cases s.getUserAccount login.uuid with
          | none => rfl
          | some account => exact outcome_loginAccount

theorem outcome_logout {clntAddr : IpAddr} :
    outcome env noFailure (DbmCalls.readAndLogoutUser s.activeUsers clntAddr n bytes) s 0 =
      ChatServer.readAndLogoutUser s clntAddr n bytes := by
  rw [DbmCalls.readAndLogoutUser, ChatServer.readAndLogoutUser]
  cases bodyIncomplete n bytes with
  | true => rfl
  | false =>
    cases nextField tokenNameLength (fields bytes) with
    | error f => rfl
    | ok x =>
      obtain ⟨d, ts⟩ := x
      simp only [outcome_getUuidWithDisplayName, Bool.false_eq_true, if_false]
      cases s.getUuidWithDisplayName d with
      | none => rfl
      | some uuid =>
        simp only [outcome_getUserAccount]
        cases s.getUserAccount uuid with
        | none => rfl
        | some account =>
          dsimp only
          cases logoutRefused account clntAddr with
          | error f => rfl
          | ok result =>
            cases result with
            | some result => rfl
            | none => rfl

theorem outcome_storeNewMessage {m : ℕ} {d name : Name} {content : Str}
    {stamp : CharArray timestampSize} {forward : Str} :
    outcome env noFailure
        (DbmCalls.storeNewMessage s.activeUsers env d name content stamp forward) s m =
      ChatServer.storeNewMessage s env d name content stamp forward := by
  rw [DbmCalls.storeNewMessage, ChatServer.storeNewMessage, outcome_getChannelInfo]
  cases s.getChannelInfo env name with
  | none => rfl
  | some channel =>
    dsimp only
    cases s.activeUsers.getConnectedUserByDisplayName d with
    | none => rfl
    | some user =>
      simp only [outcome_getUserAccount]
      cases s.getUserAccount user.uuid with
      | none => rfl
      | some account =>
        dsimp only
        by_cases hpriv : account.privilegeLevel ≠ 0 ∧ account.privilegeLevel ≠ 1
        · rw [if_pos hpriv, if_pos hpriv]; rfl
        · rw [if_neg hpriv, if_neg hpriv, outcome_getLoginInfo]
          cases s.getLoginInfo user.loginToken with
          | none => rfl
          | some login => rfl

theorem outcome_createMessage :
    outcome env noFailure (DbmCalls.readAndCreateMessage s.activeUsers env n bytes) s 0 =
      ChatServer.readAndCreateMessage s env n bytes := by
  rw [DbmCalls.readAndCreateMessage, ChatServer.readAndCreateMessage]
  cases bodyIncomplete n bytes with
  | true => rfl
  | false =>
    cases nextField tokenNameLength (fields bytes) with
    | error f => rfl
    | ok x =>
      obtain ⟨d, ts⟩ := x
      dsimp only
      by_cases hack : d.str = ascii "200"
      · simp only [if_pos hack, Bool.false_eq_true, if_false]; rfl
      · simp only [if_neg hack, Bool.false_eq_true, if_false]
        cases messageFields ts with
        | error f => rfl
        | ok y =>
          obtain ⟨name, content, stamp⟩ := y
          dsimp only
          cases d.isEmpty || name.isEmpty || content.isEmpty || stamp.isEmpty with
          | true => rfl
          | false => exact outcome_storeNewMessage

/-- Without failures the programs are the handlers of `handle_request`. -/
theorem outcome_noFailure (h : WritingHandler) (s : State) (r : Request) (n : ℕ)
    (bytes : List UInt8) :
    outcome r.env noFailure (h.program s.activeUsers r n bytes) s 0 =
      runHandler h.kind s r n bytes := by
  cases h with
  | createUser => exact outcome_createUser
  | destroyUser => exact outcome_destroyUser
  | login => exact outcome_login
  | logout => exact outcome_logout
  | createMessage => exact outcome_createMessage

end NoFailure

end DbmCalls

end ChatServer
