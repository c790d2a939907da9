import ChatServer.Cache
import ChatServer.Lib.Wire
import Mathlib.Tactic.Simps.Basic

/-!
# The databases

The wrappers of `my_ndbm.c` over the five databases, every `dbm` call succeeding. A
database file that does not exist yet is an empty database: the getters answer
"not found" in both cases. What the wrappers and the handlers take from outside
the program is an `Env`: the uuid that `uuid_generate_random` returns, the order in which
`dbm_nextkey` enumerates the keys, the bytes of a freshly allocated record, and the byte
order of the host.
-/

namespace ChatServer

open CLib

structure Env where
  uuid : Uuid
  channelOrder : KeyOrder Uuid ChannelInfo
  messageOrder : KeyOrder Uuid MessageInfo
  heap : List UInt8
  byteOrder : Wire.ByteOrder

/-- The databases and the session cache. -/
structure State where
  userLoginInfo : Dbm Name UserLogin
  displayNames : Dbm Name Uuid
  userAccountInfo : Dbm Uuid UserAccount
  channelInfo : Dbm Uuid ChannelInfo
  messagesInfo : Dbm Uuid MessageInfo
  activeUsers : Cache

namespace State

/-- No database file and a cleared cache. -/
def fresh : State := ⟨∅, ∅, ∅, ∅, ∅, .empty⟩

def getLoginInfo (s : State) (loginToken : Name) : Option UserLogin :=
  s.userLoginInfo.lookup loginToken

/-- The record that is found, whatever room there is for the copy (`Machine.getUserAccount`). -/
def getUserAccount (s : State) (userUuid : Uuid) : Option UserAccount :=
  s.userAccountInfo.lookup userUuid

def getUuidWithDisplayName (s : State) (displayName : Name) : Option Uuid :=
  s.displayNames.lookup displayName

def getChannelInfo (s : State) (env : Env) (channelName : Name) : Option ChannelInfo :=
  (env.channelOrder.scan s.channelInfo).find? fun c => c.channelName = channelName

def getAllChannels (s : State) (env : Env) : List ChannelInfo :=
  env.channelOrder.scan s.channelInfo

def getAllMessages (s : State) (env : Env) : List MessageInfo :=
  env.messageOrder.scan s.messagesInfo

def checkDuplicateDisplayName (s : State) (displayName : Name) : Bool :=
  (s.displayNames.lookup displayName).isSome

def checkDuplicateChannelName (s : State) (env : Env) (channelName : Name) : Bool :=
  (s.getChannelInfo env channelName).isSome

@[simps] def insertUserAccount (s : State) (account : UserAccount) : State :=
  { s with userAccountInfo := s.userAccountInfo.insert account.userId account }

@[simps] def insertDisplayName (s : State) (displayName : Name) (uuid : Uuid) : State :=
  { s with displayNames := s.displayNames.insert displayName uuid }

@[simps] def insertUserLogin (s : State) (login : UserLogin) : State :=
  { s with userLoginInfo := s.userLoginInfo.insert login.loginToken login }

@[simps] def insertChannelInfo (s : State) (channel : ChannelInfo) : State :=
  { s with channelInfo := s.channelInfo.insert channel.channelId channel }

@[simps] def insertMessage (s : State) (message : MessageInfo) : State :=
  { s with messagesInfo := s.messagesInfo.insert message.messageId message }

@[simps] def removeUserAccount (s : State) (userId : Uuid) : State :=
  { s with userAccountInfo := s.userAccountInfo.erase userId }

@[simps] def removeDisplayName (s : State) (displayName : Name) : State :=
  { s with displayNames := s.displayNames.erase displayName }

@[simps] def removeUserLogin (s : State) (loginToken : Name) : State :=
  { s with userLoginInfo := s.userLoginInfo.erase loginToken }

end State

def checkIfUserInChannel (displayName : Name) (channel : ChannelInfo) : Bool :=
  channel.userList.slots.any fun u => !u.isEmpty && decide (displayName = u)

def generateUserLogin (loginToken : Name) (password : Password) (userId : Uuid) : UserLogin :=
  ⟨loginToken, password, userId⟩

/-- `generate_user_account_malloc_or_null`: privilege comes from the display name. -/
def generateUserAccount (uuid : Uuid) (displayName : Name) : UserAccount where
  userId := uuid
  displayName := displayName
  ipAddr := CharArray.strncpy _ (ascii "0")
  onlineStatus := false
  privilegeLevel := if displayName = adminName then 1 else 0

def createChannel (uuid : Uuid) (channelName displayName : Name) (publicity : Bool) :
    ChannelInfo where
  channelId := uuid
  creator := displayName
  userList := NameList.empty.set 0 displayName
  adminList := NameList.empty.set 0 displayName
  bannedList := NameList.empty
  channelName := channelName
  publicity := publicity

def loginUserAccount (account : UserAccount) (clntAddr : IpAddr) : UserAccount where
  userId := account.userId
  displayName := account.displayName
  ipAddr := clntAddr
  onlineStatus := true
  privilegeLevel := if account.displayName = adminName then 1 else account.privilegeLevel

def logoutUserAccount (account : UserAccount) : UserAccount :=
  { account with ipAddr := CharArray.strncpy _ (ascii "0"), onlineStatus := false }

/-- The inner loop of `add_users_on_channel`: names equal to `member` are blanked, and the
loop stops at the first blank. -/
def blankUser (member : Name) : List Name → List Name
  | [] => []
  | u :: us =>
    if u.isEmpty then u :: us
    else if member = u then .empty _ :: blankUser member us
    else u :: blankUser member us

/-- The second loop of `add_users_on_channel`: copy names to the slots from `j` on until
the list is full or a blank is met. -/
def appendUsers (list : NameList) (j : ℕ) : List Name → NameList
  | [] => list
  | u :: us =>
    if j < defaultListSize ∧ u.isEmpty = false then appendUsers (list.set j u) (j+1) us
    else list

/-- The list that `add_users_on_channel` stores. -/
def addUsers (list users : NameList) : NameList :=
  appendUsers list list.members.length
    (list.members.foldl (fun us m => blankUser m us) users.slots)

namespace State

/-- `update_channel_name_and_publicity`, `none` being the result `-1`. -/
def updateChannelNameAndPublicity (s : State) (env : Env) (channelName newChannelName : Name)
    (newPublicity : Bool) : Option State :=
  (s.getChannelInfo env channelName).map fun c =>
    s.insertChannelInfo { c with channelName := newChannelName, publicity := newPublicity }

/-- `add_users_on_channel`, `none` being the result `-1`. -/
def addUsersOnChannel (s : State) (env : Env) (channelName : Name) (usersToAdd : NameList) :
    Option State :=
  (s.getChannelInfo env channelName).map fun c =>
    s.insertChannelInfo { c with userList := addUsers c.userList usersToAdd }

/-- `create_admin`, which returns early when the display name is taken. -/
def createAdmin (s : State) : State :=
  if s.checkDuplicateDisplayName adminName then s
  else
    ((s.insertDisplayName adminName adminUuid).insertUserLogin
      ⟨adminName, CharArray.strncpy _ (ascii "admin"), adminUuid⟩).insertUserAccount
      (generateUserAccount adminUuid adminName)

/-- `create_global_channel` -/
def createGlobalChannel (s : State) (env : Env) : State :=
  let globalName : Name := CharArray.strncpy _ (ascii "global")
  if s.checkDuplicateChannelName env globalName then s
  else s.insertChannelInfo (createChannel env.uuid globalName adminName false)

end State

end ChatServer
