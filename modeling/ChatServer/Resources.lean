import ChatServer.Lib.Ledger
import ChatServer.Lifetime

/-!
# Memory and open databases

What the functions of the server take, use and give back: the blocks that `malloc` returns and the
databases that `dbm_open` opens. A block goes by the name of the variable that holds it, a database
by the function that opens it. Every function is its list of uses, as far as it gets: behind a fault
nothing follows. `malloc` and the calls of ndbm succeed.
-/

namespace ChatServer

open CLib Ledger

/-- The functions of `my_ndbm.c` that open a database. -/
inductive Wrapper where
  | getLoginInfo | getUserAccount | getUuidWithDisplayName | getChannelInfo | getAllChannels
  | getAllMessages | checkDuplicateDisplayName | checkDuplicateChannelName | insertUserAccount
  | insertDisplayName | insertUserLogin | insertChannelInfo | insertMessage | removeUserAccount
  | removeDisplayName | removeUserLogin | updateChannelNameAndPublicity | addUsersOnChannel
  deriving DecidableEq

inductive Resource where
  | db (w : Wrapper)
  | loginInfo | userUuid | userLogin | userAccount
  | reqSenderLoginInfo | reqSenderAccountInfo | reqBodyLoginToken
  | clntUuid | channelNameList | responseBody | uuidOfUser
  | channelList | channels | channelEntry (i : ℕ)
  | disNameInCache | channel | channelUuid | channelInfo | updatedChannel | fetchedChannel
  | message | messageUuid | currentChannel
  | messageList | messages | messageEntry (i : ℕ) | kMessage
  | reqChannel | list | msgSender (i : ℕ)
  | uuidString | adminAccount
  deriving DecidableEq

abbrev Uses : Type := List (Use Resource)

namespace Resources

/-- `dbm_open`, what is done meanwhile, `dbm_close`. -/
def opened (w : Wrapper) (us : Uses) : Uses := .take (.db w) :: (us ++ [.give (.db w)])

/-- `malloc`, and the writes to the block. -/
def filled (x : Resource) : Uses := [.take x, .touch x]

/-- `free`, which does nothing with `NULL`. -/
def freed (x : Resource) (allocated : Bool) : Uses := if allocated then [.give x] else []

/-! The wrappers. `found` says whether there is a record under the key, `given` are the blocks the
arguments point to. -/

def fetched (w : Wrapper) (x : Resource) (found : Bool) : Uses :=
  opened w (if found then filled x else [])

def getLoginInfo : Resource → Bool → Uses := fetched .getLoginInfo

def getUserAccount : Resource → Bool → Uses := fetched .getUserAccount

def getUuidWithDisplayName : Resource → Bool → Uses := fetched .getUuidWithDisplayName

def getChannelInfo : Resource → Bool → Uses := fetched .getChannelInfo

def checkDuplicateDisplayName : Uses := opened .checkDuplicateDisplayName []

def checkDuplicateChannelName : Uses := opened .checkDuplicateChannelName []

def written (w : Wrapper) (given : List Resource) : Uses := opened w (given.map .touch)

def insertUserAccount : List Resource → Uses := written .insertUserAccount

def insertDisplayName : List Resource → Uses := written .insertDisplayName

def insertUserLogin : List Resource → Uses := written .insertUserLogin

def insertChannelInfo : List Resource → Uses := written .insertChannelInfo

def insertMessage : List Resource → Uses := written .insertMessage

def removeUserAccount : List Resource → Uses := written .removeUserAccount

def removeDisplayName : List Resource → Uses := written .removeDisplayName

def removeUserLogin : List Resource → Uses := written .removeUserLogin

def updateChannelNameAndPublicity (found : Bool) : Uses :=
  if found then
    opened .updateChannelNameAndPublicity
      (getChannelInfo .fetchedChannel true ++ [.touch .fetchedChannel]) ++ [.give .fetchedChannel]
  else opened .updateChannelNameAndPublicity (getChannelInfo .fetchedChannel false)

/-- Without the channel the function returns before `dbm_close`. -/
def addUsersOnChannel (found : Bool) : Uses :=
  if found then
    opened .addUsersOnChannel
      (getChannelInfo .fetchedChannel true ++ [.touch .fetchedChannel]) ++ [.give .fetchedChannel]
  else .take (.db .addUsersOnChannel) :: getChannelInfo .fetchedChannel false

/-- A turn of the loops of `get_all_channels` and `get_all_messages`. `realloc` of `NULL` is
`malloc`; later it resizes the array. -/
def collected (header array : Resource) (entry : ℕ → Resource) (i : ℕ) : Uses :=
  .touch header :: (if i = 0 then .take array else .touch array) :: .touch header ::
    (filled (entry i) ++ [.touch array, .touch header])

def getAllChannels (count : ℕ) : Uses :=
  opened .getAllChannels (filled .channelList ++
    (List.range count).flatMap (collected .channelList .channels .channelEntry))

def getAllMessages (count : ℕ) : Uses :=
  opened .getAllMessages (filled .messageList ++ (List.range count).flatMap fun i =>
    filled .kMessage ++ (collected .messageList .messages .messageEntry i ++
      [.touch .kMessage, .give .kMessage]))

def freeChannelList (count : ℕ) : Uses :=
  .touch .channelList :: ((List.range count).flatMap fun i =>
    [.touch .channels, .give (.channelEntry i)]) ++
      (freed .channels (count ≠ 0) ++ [.give .channelList])

/-! The functions that build records and lists. -/

def createChannel : Uses :=
  filled .channel ++ filled .channelUuid ++
    [.touch .channel, .touch .channelUuid, .give .channelUuid]

/-- The record of the sender is used when it has been looked up. -/
def generateMessage (found : Bool) : Uses :=
  .take .message :: (filled .messageUuid ++ getLoginInfo .userLogin found ++
    .touch .message :: .touch .messageUuid ::
      if found then [.touch .userLogin, .touch .channel, .touch .message] else [])

def buildChannelNameList (count : ℕ) : Uses :=
  ((List.range count).flatMap fun i => [.touch .channels, .touch (.channelEntry i)]) ++
    (.take .channelNameList :: ((List.range count).flatMap fun i =>
      [.touch .channels, .touch (.channelEntry i), .touch .channelNameList]) ++
        [.touch .channelNameList])

/-- The second loop of `build_message_list` from message `j` on, in front of `behind`. Every record
of a sender is a new block, the `i`-th one of the loop. -/
def copyMessages (s : State) (channelId : Uuid) (size : ℕ) (behind : Uses) :
    ℕ → ℕ → List UInt8 → List MessageInfo → Uses
  | _, _, _, [] => behind
  | i, j, list, m :: ms =>
    .touch .messages :: .touch (.messageEntry j) :: .touch .reqChannel ::
      if channelId = m.channelId then
        getUserAccount (.msgSender i) (s.getUserAccount m.userId).isSome ++
          match s.getUserAccount m.userId with
          | none => []
          | some sender =>
            let name := sender.displayName.str
            let content := m.messageContent.str
            .touch (.msgSender i) ::
              if list.length+name.length+content.length+timestampSize+3 ≥ size then behind
              else .touch .list :: copyMessages s channelId size behind (i+1) (j+1)
                (list ++ name ++ etx :: content ++ etx :: m.timeStamp.bytes ++ [etx]) ms
      else copyMessages s channelId size behind i (j+1) list ms

def buildMessageList (s : State) (messages : List MessageInfo) (channel : Option ChannelInfo)
    (behind : Uses) : Uses :=
  getChannelInfo .reqChannel channel.isSome ++
    match channel, messages with
    | none, [] => filled .list ++ behind
    | none, _ :: _ => []
    | some c, ms =>
      ((List.range ms.length).flatMap fun i =>
          [.touch .messages, .touch .reqChannel, .touch (.messageEntry i)]) ++
        .take .list :: copyMessages s c.channelId (messageListSize c.channelId ms)
          (.touch .list :: .give .reqChannel :: behind) 0 0 [] ms

/-! The handlers. -/

def readAndCreateUser (s : State) (bodySize : ℕ) (bytes : List UInt8) : Uses :=
  if bodyIncomplete bodySize bytes then []
  else
    let names := do
      let (loginToken, ts) ← nextField tokenNameLength (fields bytes)
      let (displayName, ts) ← nextField tokenNameLength ts
      return (loginToken, displayName, ts)
    match names with
    | .error _ => []
    | .ok (loginToken, displayName, ts) =>
      let isTokenDuplicate := (s.getLoginInfo loginToken).isSome
      getLoginInfo .loginInfo isTokenDuplicate ++ checkDuplicateDisplayName ++
        if isTokenDuplicate || s.checkDuplicateDisplayName displayName then
          freed .loginInfo isTokenDuplicate
        else match nextField pswdMaxLength ts with
          | .error _ => []
          | .ok _ =>
            filled .userUuid ++ insertDisplayName [.userUuid] ++
              filled .userLogin ++ .touch .userUuid :: insertUserLogin [.userLogin] ++
              filled .userAccount ++ .touch .userUuid :: insertUserAccount [.userAccount] ++
              [.give .userAccount, .give .userLogin, .give .userUuid]

/-- The records that the check of the credentials reads, as far as it gets. -/
def credentials (sender : ConnectedUser) (senderLogin : Option UserLogin)
    (senderAccount : Option UserAccount) (displayName : Name) (password : Password) : Uses :=
  if sender.dsplyName = displayName then []
  else match senderLogin with
    | none => []
    | some login =>
      .touch .reqSenderLoginInfo ::
        if login.password = password then []
        else if senderAccount.isSome then [.touch .reqSenderAccountInfo] else []

/-- `read_and_destroy_user` from the check of the credentials on. -/
def checkAndRemove (sender : ConnectedUser) (senderLogin : Option UserLogin)
    (senderAccount : Option UserAccount) (loginInfo : Option UserLogin) (displayName : Name)
    (password : Password) : Uses :=
  credentials sender senderLogin senderAccount displayName password ++
    match invalidCredentials sender senderLogin senderAccount displayName password with
    | .ok false =>
      if loginInfo.isSome then
        removeDisplayName [] ++ removeUserAccount [.loginInfo] ++ removeUserLogin [.loginInfo]
      else []
    | _ => []

def readAndDestroyUser (s : State) (fd : ℕ) (bodySize : ℕ) (bytes : List UInt8) : Uses :=
  if bodyIncomplete bodySize bytes then []
  else match destroyFields bytes with
    | .error _ => []
    | .ok (displayName, loginToken, password) =>
      if displayName.isEmpty || loginToken.isEmpty || password.isEmpty then []
      else match s.activeUsers.getConnectedUserByFd fd with
        | none => []
        | some sender =>
          let senderLogin := s.getLoginInfo sender.loginToken
          let senderAccount := s.getUserAccount sender.uuid
          let loginInfo := s.getLoginInfo loginToken
          let checked :=
            checkAndRemove sender senderLogin senderAccount loginInfo displayName password
          getLoginInfo .reqSenderLoginInfo senderLogin.isSome ++
            getUserAccount .reqSenderAccountInfo senderAccount.isSome ++
            filled .reqBodyLoginToken ++ getLoginInfo .loginInfo loginInfo.isSome ++
            if loginInfo.isNone then
              match senderAccount with
              | none => []
              | some account =>
                .touch .reqSenderAccountInfo :: if account.privilegeLevel = 1 then [] else checked
            else checked

/-- `insert_user_in_cache`, behind which a full cache lets nothing follow. -/
def openSession (s : State) (fd : ℕ) (account : UserAccount) (login : UserLogin) (behind : Uses) :
    Uses :=
  if (s.activeUsers.insertUserInCache fd account login).isSome then
    .touch .userAccount :: .touch .loginInfo :: behind
  else []

def loginAccount (s : State) (env : Env) (fd : ℕ) (clntAddr : IpAddr) (login : UserLogin)
    (account : UserAccount) : Uses :=
  .touch .userAccount ::
    if loggedInElsewhere s.activeUsers account clntAddr then openSession s fd account login []
    else
      let account := loginUserAccount account clntAddr
      let s := s.insertUserAccount account
      let count := (s.getAllChannels env).length
      let freed := [.give .userAccount, .give .loginInfo, .give .clntUuid,
        .give .channelNameList] ++ freeChannelList count
      insertUserAccount [.userAccount] ++ getAllChannels count ++
        .touch .channelList :: buildChannelNameList count ++
        filled .responseBody ++ [.touch .channelList, .touch .channelNameList] ++
        if s.activeUsers.findConnectedUserWithSameCred account fd then .touch .userAccount :: freed
        else openSession s fd account login freed

def readAndLoginUser (s : State) (env : Env) (fd : ℕ) (clntAddr : IpAddr) (bodySize : ℕ)
    (bytes : List UInt8) : Uses :=
  if bodyIncomplete bodySize bytes then []
  else match loginFields bytes with
    | .error _ => []
    | .ok (loginToken, password) =>
      getLoginInfo .loginInfo (s.getLoginInfo loginToken).isSome ++
        match s.getLoginInfo loginToken with
        | none => freed .loginInfo false
        | some loginInfo =>
          .touch .loginInfo ::
            if !compareStrings loginInfo.password.str password.str ||
                !compareStrings loginInfo.loginToken.str loginToken.str then
              freed .loginInfo true
            else
              .take .clntUuid :: .touch .loginInfo :: .touch .clntUuid ::
                (getUserAccount .userAccount (s.getUserAccount loginInfo.uuid).isSome ++
                  match s.getUserAccount loginInfo.uuid with
                  | none => []
                  | some account => loginAccount s env fd clntAddr loginInfo account)

def readAndLogoutUser (s : State) (clntAddr : IpAddr) (bodySize : ℕ) (bytes : List UInt8) : Uses :=
  if bodyIncomplete bodySize bytes then []
  else match nextField tokenNameLength (fields bytes) with
    | .error _ => []
    | .ok (displayName, _) =>
      getUuidWithDisplayName .uuidOfUser (s.getUuidWithDisplayName displayName).isSome ++
        match s.getUuidWithDisplayName displayName with
        | none => []
        | some uuid =>
          getUserAccount .userAccount (s.getUserAccount uuid).isSome ++
            match s.getUserAccount uuid with
            | none => freed .uuidOfUser true
            | some account =>
              .touch .userAccount ::
                match logoutRefused account clntAddr with
                | .error _ => []
                | .ok (some _) => freed .uuidOfUser true
                | .ok none =>
                  .touch .userAccount :: insertUserAccount [.userAccount] ++
                    [.touch .userAccount, .give .userAccount, .give .uuidOfUser]

/-- `get_display_name_in_cache_malloc_or_null` copies the name. Only the last `return` of the
handler is behind `free`. -/
def storeNewChannel (s : State) (env : Env) (clntAddr : IpAddr) (channelName displayName : Name) :
    Uses :=
  match s.activeUsers.getDisplayNameInCache clntAddr displayName with
  | none => []
  | some nameInCache =>
    filled .disNameInCache ++ checkDuplicateDisplayName ++ .touch .disNameInCache ::
      if nameInCache = adminName ∧ s.checkDuplicateDisplayName displayName = false then []
      else if nameInCache ≠ adminName ∧ displayName ≠ nameInCache then []
      else checkDuplicateChannelName ++
        if s.checkDuplicateChannelName env channelName then []
        else createChannel ++ insertChannelInfo [.channel] ++
          [.give .disNameInCache, .give .channel]

def readAndCreateChannel (s : State) (env : Env) (clntAddr : IpAddr) (bodySize : ℕ)
    (bytes : List UInt8) : Uses :=
  if bodyIncomplete bodySize bytes then []
  else match nextField tokenNameLength (fields bytes) with
    | .ok (channelName, ts) =>
      match nextField tokenNameLength ts with
      | .ok (displayName, publicity :: _) =>
        if publicity ≠ ascii "1" ∧ publicity.length ≠ 1 then []
        else storeNewChannel s env clntAddr channelName displayName
      | _ => []
    | .error _ => []

def readAndReadChannel (s : State) (env : Env) (bodySize : ℕ) (bytes : List UInt8) : Uses :=
  if bodyIncomplete bodySize bytes then []
  else match nextField tokenNameLength (fields bytes) with
    | .ok (channelName, _ :: _ :: _ :: _) =>
      let found := (s.getChannelInfo env channelName).isSome
      getChannelInfo .channelInfo found ++
        if found then [.touch .channelInfo, .give .channelInfo] else []
    | _ => []

/-- The loops that look the listed names up, which stop at the first that is not registered. -/
def checkNames (s : State) : List Name → Uses
  | [] => []
  | u :: us =>
    checkDuplicateDisplayName ++ if s.checkDuplicateDisplayName u then checkNames s us else []

def listedNames (u : UpdateRequest) : List Name :=
  [u.users.add, u.users.remove, u.admins.add, u.admins.remove, u.banned.add,
    u.banned.remove].flatMap NameList.members

def applyUpdate (s : State) (env : Env) (u : UpdateRequest) : Uses :=
  (if u.isChangeName || u.isChangePublicity then
      updateChannelNameAndPublicity (s.getChannelInfo env u.channelName).isSome
    else []) ++
  match renameStep s env u with
  | none => []
  | some s =>
    (if u.users.alter ≠ 48 then addUsersOnChannel (s.getChannelInfo env u.channelName).isSome
      else []) ++
    match addStep s env u with
    | none => []
    | some s =>
      let found := (s.getChannelInfo env
        (if u.isChangeName then u.newChannelName else u.channelName)).isSome
      getChannelInfo .updatedChannel found ++
        if found then [.touch .updatedChannel, .give .updatedChannel] else []

def readAndUpdateChannel (s : State) (env : Env) (bodySize : ℕ) (bytes : List UInt8) : Uses :=
  if bodyIncomplete bodySize bytes then []
  else match parseUpdate (fields bytes) with
    | .error _ => []
    | .ok u =>
      let found := (s.getChannelInfo env u.channelName).isSome
      getChannelInfo .channel found ++
        if found then
          checkNames s (listedNames u) ++ if namesRegistered s u then applyUpdate s env u else []
        else []

def storeNewMessage (s : State) (env : Env) (displayName channelName : Name) : Uses :=
  getChannelInfo .channel (s.getChannelInfo env channelName).isSome ++
    if (s.getChannelInfo env channelName).isNone then freed .channel false
    else match s.activeUsers.getConnectedUserByDisplayName displayName with
      | none => [.take .clntUuid, .touch .clntUuid]
      | some user =>
        filled .clntUuid ++ getUserAccount .userAccount (s.getUserAccount user.uuid).isSome ++
          match s.getUserAccount user.uuid with
          | none => []
          | some account =>
            .touch .userAccount ::
              if account.privilegeLevel ≠ 0 ∧ account.privilegeLevel ≠ 1 then []
              else
                let found := (s.getLoginInfo user.loginToken).isSome
                generateMessage found ++
                  if found then
                    insertMessage [.message] ++ [.give .channel, .give .userAccount]
                  else []

def readAndCreateMessage (s : State) (env : Env) (bodySize : ℕ) (bytes : List UInt8) : Uses :=
  if bodyIncomplete bodySize bytes then []
  else match nextField tokenNameLength (fields bytes) with
    | .error _ => []
    | .ok (displayName, ts) =>
      if displayName.str = ascii "200" then []
      else match messageFields ts with
        | .error _ => []
        | .ok (channelName, content, timestamp) =>
          if displayName.isEmpty || channelName.isEmpty || content.isEmpty || timestamp.isEmpty then
            []
          else storeNewMessage s env displayName channelName

def readAndReadMessage (s : State) (env : Env) (bytes : List UInt8) : Uses :=
  match readMessageFields bytes with
  | .error _ => []
  | .ok (channelName, numOfMessages) =>
    if isNumber numOfMessages.str = false then []
    else if channelName.isEmpty || numOfMessages.isEmpty then []
    else
      let messages := s.getAllMessages env
      getAllMessages messages.length ++ .touch .messageList ::
        buildMessageList s messages (s.getChannelInfo env channelName)
          (filled .responseBody ++ [.touch .messageList, .touch .list, .touch .responseBody])

def runHandler (k : RequestKind) (s : State) (r : Request) (bodySize : ℕ) (bytes : List UInt8) :
    Uses :=
  match k with
  | .createUser => readAndCreateUser s bodySize bytes
  | .destroyUser => readAndDestroyUser s r.fd bodySize bytes
  | .createChannel => readAndCreateChannel s r.env r.clntAddr bodySize bytes
  | .readChannel => readAndReadChannel s r.env bodySize bytes
  | .updateChannel => readAndUpdateChannel s r.env bodySize bytes
  | .createMessage => readAndCreateMessage s r.env bodySize bytes
  | .readMessage => readAndReadMessage s r.env bytes
  | .login => readAndLoginUser s r.env r.fd r.clntAddr bodySize bytes
  | .logout => readAndLogoutUser s r.clntAddr bodySize bytes

/-- `handle_request`, which looks the channel of a message up again for the members. -/
def handleRequest (s : State) (r : Request) : Uses :=
  match r.decode with
  | .stop _ _ => []
  | .serve k header rest =>
    let bytes := rest.take header.bodySize
    if bytes.length > defaultBuffer then []
    else
      let out := ChatServer.runHandler k s r header.bodySize bytes
      runHandler k s r header.bodySize bytes ++
        match out.value with
        | .error _ => []
        | .ok reply =>
          if k = .createMessage ∧ reply.result ≠ createMessageAck ∧
              (sendResponse k reply.result reply.token).isOk = true then
            let found :=
              (out.state.getChannelInfo r.env (CharArray.strncpy _ reply.token)).isSome
            -- the list of members is only looked into for a session
            getChannelInfo .currentChannel found ++
              if found && !out.state.activeUsers.live.isEmpty then [.touch .currentChannel] else []
          else []

def createAdmin (s : State) : Uses :=
  filled .uuidString ++ checkDuplicateDisplayName ++
    if s.checkDuplicateDisplayName adminName then []
    else filled .adminAccount ++ insertDisplayName [.uuidString] ++ insertUserLogin [] ++
      insertUserAccount [.adminAccount] ++ [.give .adminAccount, .give .uuidString]

def createGlobalChannel (s : State) (env : Env) : Uses :=
  createChannel ++ checkDuplicateChannelName ++
    if s.checkDuplicateChannelName env globalName then []
    else insertChannelInfo [.channel] ++ [.give .channel]

def startUp (s : State) (env : Env) : Uses :=
  createAdmin s ++ createGlobalChannel s.createAdmin env

def ofEvent (v : Server) : LifeEvent → Uses
  | .start newProcess env => startUp (Life.entered v newProcess) env
  | .request r => if v.running then handleRequest v.state r else []

end Resources

end ChatServer
