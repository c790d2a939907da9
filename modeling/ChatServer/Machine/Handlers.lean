import ChatServer.Machine.Memory
import ChatServer.Server

/-!
# The handlers over memory

`handle_request` once more, every string being what the library reads at the address of its array
and every account being fetched into a block of the allocator. Keys of the databases are whole
arrays, whatever they hold. What a call writes to the connections is delivered up to the first peer
that is gone.
-/

namespace ChatServer

open CLib

/-- The cache after the loop of `remove_user_in_cache` has found its first match. -/
def Cache.removeWhere (c : Cache) (q : ConnectedUser → Bool) : Cache where
  slots := Slots.removeFirst q ConnectedUser.blank c.getNumConnectedUsers c.slots
  size_eq := by
    rw [Slots.length_removeFirst _ _ (c.size_eq ▸ c.getNumConnectedUsers_le), c.size_eq]
  compact := by
    rw [getNumConnectedUsers_eq]
    exact (Slots.removeFirst_live _ _ (fun _ => rfl) c.compact).2

namespace Machine

variable (m : Machine)

/-- `strncpy(token_out, s, TOKEN_NAME_LENGTH)`, and what the responder reads there. -/
def tokenOut (s : Name) : Str := m.read .token s

section Users

/-- `read_and_create_user` -/
def readAndCreateUser (s : State) (env : Env) (bodySize : ℕ) (bytes : List UInt8) : Outcome :=
  if bodyIncomplete bodySize bytes then .reply s (-1) []
  else
    let names := do
      let (loginToken, ts) ← nextField tokenNameLength (fields bytes)
      let (displayName, ts) ← nextField tokenNameLength ts
      return (loginToken, displayName, ts)
    match names with
    | .error f => .fault s f
    | .ok (loginToken, displayName, ts) =>
      let isTokenDuplicate := (s.getLoginInfo loginToken).isSome
      let isDisplayNameDuplicates := s.checkDuplicateDisplayName displayName
      if isTokenDuplicate && isDisplayNameDuplicates then .reply s errorCreateUserDuplicateAll []
      else if isTokenDuplicate then .reply s errorCreateUserDuplicateToken []
      else if isDisplayNameDuplicates then .reply s errorCreateUserDuplicateDisplayName []
      else match nextField pswdMaxLength ts with
        | .error f => .fault s f
        | .ok (password, _) =>
          .reply (((s.insertDisplayName displayName env.uuid).insertUserLogin
            (generateUserLogin loginToken password env.uuid)).insertUserAccount
            (generateUserAccount env.uuid displayName)) 0 (m.tokenOut loginToken)

def invalidCredentials (sender : ConnectedUser) (senderLogin : Option UserLogin)
    (senderAccount : Option UserAccount) (displayName : Name) (password : Password) :
    Except Fault Bool :=
  if sender.nameAt = m.read .displayName displayName then .ok false
  else match senderLogin with
    | none => .error .nullPointer
    | some login =>
      if login.passwordAt m.heap = m.read .password password then .ok false
      else match senderAccount with
        | none => .error .nullPointer
        | some account => .ok (account.privilegeLevel = 0)

def removeUser (s : State) (displayName : Name) : Option UserLogin → Outcome
  | none => .fault s .assertFailed
  | some loginInfo =>
    .reply (((s.removeDisplayName displayName).removeUserAccount loginInfo.uuid).removeUserLogin
      loginInfo.loginToken) 0 (m.tokenOut displayName)

/-- `read_and_destroy_user`. The terminator of the copied token is written behind the string that is
read in the frame. -/
def readAndDestroyUser (s : State) (fd : ℕ) (bodySize : ℕ) (bytes : List UInt8) : Outcome :=
  if bodyIncomplete bodySize bytes then .reply s (-1) []
  else match destroyFields bytes with
    | .error f => .fault s f
    | .ok (displayName, loginToken, password) =>
      if displayName.isEmpty || loginToken.isEmpty || password.isEmpty then
        .reply s errorDestroyUserInvalidFields []
      else match s.activeUsers.getConnectedUserByFd fd with
        | none => .fault s .nullPointer
        | some sender =>
          let senderLogin := s.getLoginInfo sender.loginToken
          match m.getUserAccount s sender.uuid with
          | .error f => .fault s f
          | .ok senderAccount =>
            if m.usable tokenNameLength ≤ (m.read .loginToken loginToken).length then
              .fault s .overflow
            else
              let loginInfo := s.getLoginInfo loginToken
              let credentials := fun _ : Unit =>
                match m.invalidCredentials sender senderLogin senderAccount displayName
                  password with
                | .error f => .fault s f
                | .ok true => .reply s errorDestroyUserInvalidCredentials []
                | .ok false => m.removeUser s displayName loginInfo
              if loginInfo.isNone then
                match senderAccount with
                | none => .fault s .nullPointer
                | some account =>
                  if account.privilegeLevel = 1 then .reply s errorDestroyUserNotExist []
                  else credentials ()
              else credentials ()

end Users

section Channels

/-- `get_display_name_in_cache_malloc_or_null`, which returns a copy of the array. -/
def getDisplayNameInCache (c : Cache) (ipAddr : IpAddr) (displayName : Str) : Option Name :=
  (c.live.find? fun u => u.addrAt = ipAddr.str ∧ u.nameAt = displayName).map (·.dsplyName)

def storeNewChannel (s : State) (env : Env) (clntAddr : IpAddr) (channelName displayName : Name)
    (publicity : Bool) : Outcome :=
  match getDisplayNameInCache s.activeUsers clntAddr (m.read .displayName displayName) with
  | none => .reply s errorChannel500 []
  | some copy =>
    let nameInCache := copy.readOn m.heap
    if nameInCache = adminName.str ∧ s.checkDuplicateDisplayName displayName = false then
      .reply s errorChannel404 []
    else if nameInCache ≠ adminName.str ∧ m.read .displayName displayName ≠ nameInCache then
      .reply s errorChannel403 []
    else if m.checkDuplicateChannelName s env (m.read .channelName channelName) then
      .reply s errorChannel409 []
    else
      .reply (s.insertChannelInfo (createChannel env.uuid channelName displayName publicity)) 0
        (m.tokenOut channelName ++ [etx])

/-- `read_and_create_channel` -/
def readAndCreateChannel (s : State) (env : Env) (clntAddr : IpAddr) (bodySize : ℕ)
    (bytes : List UInt8) : Outcome :=
  if bodyIncomplete bodySize bytes then .reply s errorChannel500 []
  else match nextField tokenNameLength (fields bytes) with
    | .error f => .fault s f
    | .ok (_, []) => .reply s errorChannel400 []
    | .ok (channelName, ts) =>
      match nextField tokenNameLength ts with
      | .error f => .fault s f
      | .ok (_, []) => .fault s .nullPointer
      | .ok (displayName, publicity :: _) =>
        if publicity ≠ ascii "1" ∧ publicity.length ≠ 1 then .reply s errorChannel400 []
        else m.storeNewChannel s env clntAddr channelName displayName (publicity = ascii "1")

/-- One list in the serialised form, the names being read from the rows of `printed`. -/
def serializeList (list : NameList) (printed : List Str) : Str :=
  let i := list.members.length
  let temp := match i with
    | 0 => []
    | j+1 => printed.getD j [] ++ [etx]
  decimal i ++ etx :: temp ++ if i = 0 then [etx] else []

def serializeChannel (c : ChannelInfo) : Str :=
  c.nameAt m.heap ++ etx :: c.creatorAt m.heap ++
    etx :: decimal (if c.publicity then 1 else 0) ++ [etx]

/-- `read_and_read_channel` -/
def readAndReadChannel (s : State) (env : Env) (bodySize : ℕ) (bytes : List UInt8) : Outcome :=
  if bodyIncomplete bodySize bytes then .reply s errorChannel500 []
  else match fields bytes with
    | [] => .reply s errorChannel400 []
    | t :: ts =>
      match nextField tokenNameLength (t :: ts) with
      | .error f => .fault s f
      | .ok (channelName, users :: admins :: banned :: _) =>
        match m.getChannelInfo s env (m.read .channelName channelName) with
        | none => .reply s errorChannel404 []
        | some c =>
          .reply s 0 (m.serializeChannel c ++
            (if users = ascii "1" then serializeList c.userList (c.usersAt m.heap) else []) ++
            (if admins = ascii "1" then serializeList c.adminList (c.adminsAt m.heap) else []) ++
            (if banned = ascii "1" then serializeList c.bannedList (c.adminsAt m.heap) else []))
      | .ok _ => .reply s errorChannel400 []

/-- The inner loop of `add_users_on_channel` over the rows of `users_to_add`. A blanked row ends the
name in front of it. -/
def blankUser (member : Str) : List Name → List Name
  | [] => []
  | u :: us =>
    if u.isEmpty then u :: us
    else if member = u.readOn (us.flatMap CharArray.bytes ++ m.stack .addUserList) then
      .empty _ :: blankUser member us
    else u :: blankUser member us

/-- The list that `add_users_on_channel` stores. -/
def addUsers (c : ChannelInfo) (users : NameList) : NameList :=
  let n := c.userList.members.length
  appendUsers c.userList n
    (((c.usersAt m.heap).take n).foldl (fun us member => m.blankUser member us) users.slots)

def updateChannelNameAndPublicity (s : State) (env : Env) (channelName newChannelName : Name)
    (newPublicity : Bool) : Option State :=
  (m.getChannelInfo s env (m.read .channelName channelName)).map fun c =>
    s.insertChannelInfo { c with channelName := newChannelName, publicity := newPublicity }

def addUsersOnChannel (s : State) (env : Env) (channelName : Name) (usersToAdd : NameList) :
    Option State :=
  (m.getChannelInfo s env (m.read .channelName channelName)).map fun c =>
    s.insertChannelInfo { c with userList := m.addUsers c usersToAdd }

/-- The second half of `read_and_update_channel`. Without a new name the old one is copied to
`new_channel_name`. -/
def applyUpdate (s : State) (env : Env) (r : UpdateRequest) : Outcome :=
  let renamed := if r.isChangeName || r.isChangePublicity then
      m.updateChannelNameAndPublicity s env r.channelName r.newChannelName r.newPublicity
    else some s
  match renamed with
  | none => .reply s errorChannel500 []
  | some s =>
    let added := if r.users.alter ≠ 48 then m.addUsersOnChannel s env r.channelName r.users.add
      else some s
    match added with
    | none => .reply s errorChannel500 []
    | some s =>
      match m.getChannelInfo s env
          (m.read .newChannelName (if r.isChangeName then r.newChannelName else r.channelName)) with
      | none => .reply s errorChannel500 []
      | some c =>
        .reply s 0 (m.serializeChannel c ++ serializeList c.userList (c.usersAt m.heap) ++
          serializeList c.adminList (c.adminsAt m.heap) ++
          serializeList c.bannedList (c.bannedAt m.heap))

/-- `read_and_update_channel` -/
def readAndUpdateChannel (s : State) (env : Env) (bodySize : ℕ) (bytes : List UInt8) : Outcome :=
  if bodyIncomplete bodySize bytes then .reply s errorChannel500 []
  else match parseUpdate (fields bytes) with
    | .error .badRequest => .reply s errorChannel400 []
    | .error (.fault f) => .fault s f
    | .ok r =>
      if (m.getChannelInfo s env (m.read .channelName r.channelName)).isNone then
        .reply s errorChannel404 []
      else if namesRegistered s r = false then .reply s errorChannel404 []
      else m.applyUpdate s env r

end Channels

section Messages

def getConnectedUserByDisplayName (c : Cache) (displayName : Str) : Option ConnectedUser :=
  c.live.find? fun u => u.nameAt = displayName

def storeNewMessage (s : State) (env : Env) (displayName channelName : Name) (content : Str)
    (timestamp : CharArray timestampSize) (forward : Str) : Outcome :=
  match m.getChannelInfo s env (m.read .channelName channelName) with
  | none => ⟨s, .ok ⟨errorChannelDoesNotExist, m.tokenOut channelName, forward⟩⟩
  | some channel =>
    match getConnectedUserByDisplayName s.activeUsers (m.read .displayName displayName) with
    | none => .fault s .nullPointer
    | some user =>
      match m.getUserAccount s user.uuid with
      | .error f => .fault s f
      | .ok none => .fault s .nullPointer
      | .ok (some account) =>
        if account.privilegeLevel ≠ 0 ∧ account.privilegeLevel ≠ 1 then .fault s .assertFailed
        else match s.getLoginInfo user.loginToken with
          | none => .fault s .nullPointer
          | some login =>
            ⟨s.insertMessage (generateMessage env login channel content timestamp),
              .ok ⟨0, m.tokenOut channelName, forward⟩⟩

/-- `read_and_create_message` -/
def readAndCreateMessage (s : State) (env : Env) (bodySize : ℕ) (bytes : List UInt8) : Outcome :=
  if bodyIncomplete bodySize bytes then .reply s (-1) []
  else match nextField tokenNameLength (fields bytes) with
    | .error f => .fault s f
    | .ok (displayName, ts) =>
      if m.read .displayName displayName = ascii "200" then
        ⟨s, .ok ⟨createMessageAck, [], cstr bytes⟩⟩
      else match messageFields ts with
        | .error f => .fault s f
        | .ok (channelName, content, timestamp) =>
          if displayName.isEmpty || channelName.isEmpty || content.isEmpty || timestamp.isEmpty then
            ⟨s, .ok ⟨errorInvalidRequest, m.tokenOut channelName, cstr bytes⟩⟩
          else m.storeNewMessage s env displayName channelName content.str timestamp (cstr bytes)

/-- The first loop of `build_message_list`. -/
def messageListSize (channelId : Uuid) (messages : List MessageInfo) : ℕ :=
  ((messages.filter fun x => channelId = x.channelId).map fun x =>
    (x.contentAt m.heap).length+1+timestampSize).sum + 1

/-- The second loop of `build_message_list`. -/
def copyMessages (s : State) (channelId : Uuid) (size : ℕ) (list : List UInt8) :
    List MessageInfo → Except Fault (List UInt8)
  | [] => .ok list
  | x :: xs =>
    if channelId = x.channelId then
      match m.getUserAccount s x.userId with
      | .error f => .error f
      | .ok none => .error .nullPointer
      | .ok (some sender) =>
        let name := sender.nameAt m.heap
        let content := x.contentAt m.heap
        if list.length+name.length+content.length+timestampSize+3 ≥ size then .ok list
        else copyMessages s channelId size
          (list ++ name ++ etx :: content ++ etx :: x.timeStamp.bytes ++ [etx]) xs
    else copyMessages s channelId size list xs

/-- `build_message_list` -/
def buildMessageList (s : State) (messages : List MessageInfo) (channel : Option ChannelInfo) :
    Except Fault (List UInt8) :=
  match channel, messages with
  | _, [] => .ok []
  | none, _ :: _ => .error .nullPointer
  | some c, _ :: _ =>
    m.copyMessages s c.channelId (m.messageListSize c.channelId messages) [] messages

/-- `read_and_read_message` -/
def readAndReadMessage (s : State) (env : Env) (bytes : List UInt8) : Outcome :=
  match readMessageFields bytes with
  | .error f => .fault s f
  | .ok (channelName, numOfMessages) =>
    if isNumber (m.read .numOfMessages numOfMessages) = false then .reply s (-1) []
    else if channelName.isEmpty || numOfMessages.isEmpty then .reply s (-1) []
    else
      let messages := s.getAllMessages env
      match m.buildMessageList s messages
          (m.getChannelInfo s env (m.read .channelName channelName)) with
      | .error f => .fault s f
      | .ok list =>
        .reply s 0 ((m.read .channelName channelName ++ etx :: decimal messages.length ++ etx ::
          cstr list).take (bigTokenNameLength-1))

end Messages

section Sessions

/-- `build_channel_name_list` -/
def buildChannelNameList (channels : List ChannelInfo) : Str :=
  channels.flatMap fun c => c.nameAt m.heap ++ [etx]

/-- The response body of a login, the display name being copied to the frame first. -/
def loginBody (account : UserAccount) (channels : List ChannelInfo) : Str :=
  (m.read .displayName account.displayName ++ etx :: decimal account.privilegeLevel ++
    etx :: decimal channels.length ++
    etx :: m.buildChannelNameList channels).take (defaultBuffer-1)

def loggedInElsewhere (c : Cache) (account : UserAccount) (clntAddr : IpAddr) : Bool :=
  c.live.any fun u => u.nameAt = account.nameAt m.heap ∧ u.addrAt ≠ clntAddr.str ∧
    account.onlineStatus = true

def findConnectedUserWithSameCred (c : Cache) (account : UserAccount) (fd : ℕ) : Bool :=
  c.live.any fun u => account.addrAt m.heap = u.addrAt ∧ account.nameAt m.heap = u.nameAt ∧
    fd = u.fd

/-- `insert_user_in_cache`. A display name that fills its array is copied with the address behind
it, over which the address is copied next. A login token that fills its array is copied with the
password behind it, over the uuid. -/
def openSession (s : State) (fd : ℕ) (account : UserAccount) (login : UserLogin) (result : Int)
    (token : Str) : Outcome :=
  if login.loginToken.Terminated then ChatServer.openSession s fd account login result token
  else .fault s .overflow

/-- `read_and_login_user` from the account on. -/
def loginAccount (s : State) (env : Env) (fd : ℕ) (clntAddr : IpAddr) (login : UserLogin)
    (account : UserAccount) (loginToken : Name) : Outcome :=
  if m.loggedInElsewhere s.activeUsers account clntAddr then
    openSession s fd account login terminateAndRestablishConnection loginToken.str
  else
    let account := loginUserAccount account clntAddr
    let s := s.insertUserAccount account
    let body := m.loginBody account (s.getAllChannels env)
    if m.findConnectedUserWithSameCred s.activeUsers account fd then .reply s 0 body
    else openSession s fd account login 0 body

/-- `read_and_login_user` -/
def readAndLoginUser (s : State) (env : Env) (fd : ℕ) (clntAddr : IpAddr) (bodySize : ℕ)
    (bytes : List UInt8) : Outcome :=
  if bodyIncomplete bodySize bytes then .reply s (-1) []
  else match loginFields bytes with
    | .error f => .fault s f
    | .ok (loginToken, password) =>
      match s.getLoginInfo loginToken with
      | none => .reply s errorLoginDoesNotExist []
      | some loginInfo =>
        if !compareStrings (loginInfo.passwordAt m.heap) (m.read .password password) ||
            !compareStrings (loginInfo.tokenAt m.heap) (m.read .loginToken loginToken) then
          .reply s errorLoginInvalidCredentials []
        else match m.getUserAccount s loginInfo.uuid with
          | .error f => .fault s f
          | .ok none => .fault s .nullPointer
          | .ok (some account) => m.loginAccount s env fd clntAddr loginInfo account loginToken

def logoutRefused (account : UserAccount) (clntAddr : IpAddr) : Except Fault (Option Int) :=
  if account.privilegeLevel = 0 ∧ account.addrAt m.heap ≠ clntAddr.str then
    .ok (some errorLogoutUserMismatchAddress)
  else if account.privilegeLevel = 0 ∨ account.privilegeLevel = 1 then
    if account.onlineStatus = false then .ok (some errorLogoutAdminUserNotOnline) else .ok none
  else .error .assertFailed

/-- `read_and_logout_user`. The session is looked for with the record that is logged out already. -/
def readAndLogoutUser (s : State) (clntAddr : IpAddr) (bodySize : ℕ) (bytes : List UInt8) :
    Outcome :=
  if bodyIncomplete bodySize bytes then .reply s (-1) []
  else match nextField tokenNameLength (fields bytes) with
    | .error f => .fault s f
    | .ok (displayName, _) =>
      match s.getUuidWithDisplayName displayName with
      | none => .reply s errorDestroyAuth500 []
      | some uuid =>
        match m.getUserAccount s uuid with
        | .error f => .fault s f
        | .ok none => .reply s errorDestroyAuth500 []
        | .ok (some account) =>
          match m.logoutRefused account clntAddr with
          | .error f => .fault s f
          | .ok (some result) => .reply s result []
          | .ok none =>
            let account := logoutUserAccount account
            let s := s.insertUserAccount account
            let cache := s.activeUsers.removeWhere fun u => u.nameAt = account.nameAt m.heap
            .reply { s with activeUsers := cache } 0 (m.tokenOut account.displayName)

end Sessions

section Dispatch

/-- The handler of a kind of request. -/
def runHandler (k : RequestKind) (s : State) (r : Request) (bodySize : ℕ) (bytes : List UInt8) :
    Outcome :=
  match k with
  | .createUser => m.readAndCreateUser s r.env bodySize bytes
  | .destroyUser => m.readAndDestroyUser s r.fd bodySize bytes
  | .createChannel => m.readAndCreateChannel s r.env r.clntAddr bodySize bytes
  | .readChannel => m.readAndReadChannel s r.env bodySize bytes
  | .updateChannel => m.readAndUpdateChannel s r.env bodySize bytes
  | .createMessage => m.readAndCreateMessage s r.env bodySize bytes
  | .readMessage => m.readAndReadMessage s r.env bytes
  | .login => m.readAndLoginUser s r.env r.fd r.clntAddr bodySize bytes
  | .logout => m.readAndLogoutUser s r.clntAddr bodySize bytes

/-- The copies of a message, `token` being what is read in `token_out`. -/
def forwards (s : State) (env : Env) (header : ChatHeader) (token forward : Str) :
    Except Fault (List Sent) :=
  match m.getChannelInfo s env token, s.activeUsers.live with
  | _, [] => .ok []
  | none, _ :: _ => .error .nullPointer
  | some channel, users =>
    match sendCreateMessageResponse successForwardReq forward with
    | .error f => .error f
    | .ok none => .ok []
    | .ok (some body) =>
      .ok ((users.filter fun u => m.checkIfUserInChannel u.nameAt channel).map fun u =>
        ⟨u.fd, true, responseHeader header body, body⟩)

/-- What is done behind the response. -/
def afterResponse (k : RequestKind) (s : State) (r : Request) (header : ChatHeader)
    (reply : Reply) : Except Fault (List Sent × List ℕ) :=
  match k with
  | .createMessage =>
    match m.forwards s r.env header reply.token reply.forward with
    | .error f => .error f
    | .ok sent => .ok (sent, [])
  | _ => ChatServer.afterResponse k s r header reply

def respond (k : RequestKind) (s : State) (r : Request) (header : ChatHeader)
    (rest : List UInt8) (reply : Reply) : Call :=
  if k = .createMessage ∧ reply.result = createMessageAck then ⟨s, rest, [], [], .ok 0⟩
  else match sendResponse k reply.result reply.token with
    | .error f => ⟨s, rest, [], [], .error f⟩
    | .ok body =>
      let direct := body.toList.map fun b => ⟨r.fd, false, responseHeader header b, b⟩
      match m.afterResponse k s r header reply with
      | .error f => ⟨s, rest, direct, [], .error f⟩
      | .ok (sent, closed) => ⟨s, rest, direct ++ sent, closed, .ok 0⟩

def serve (k : RequestKind) (s : State) (r : Request) (header : ChatHeader) (rest : List UInt8) :
    Call :=
  let bytes := rest.take header.bodySize
  let rest := rest.drop header.bodySize
  if bytes.length > defaultBuffer then ⟨s, rest, [], [], .error .overflow⟩
  else
    let out := m.runHandler k s r header.bodySize bytes
    match out.value with
    | .error f => ⟨out.state, rest, [], [], .error f⟩
    | .ok reply => m.respond k out.state r header rest reply

/-- `handle_request`, with the dispatches it tries to write. -/
def handleRequest (s : State) (r : Request) : Call :=
  match r.decode with
  | .stop ret rest => ⟨s, rest, [], [], ret⟩
  | .serve k header rest => m.serve k s r header rest

/-- The dispatches reach their peers up to the first one that is gone. A header written to it is
answered with a reset, and writing the body raises `SIGPIPE`, for which there is no handler. -/
def deliver (c : Call) : Call :=
  if c.sent.any fun d => m.reset d.fd then
    { c with sent := c.sent.takeWhile fun d => !m.reset d.fd
             closed := []
             ret := .error .brokenPipe }
  else c

/-- A call of `handle_request` with what becomes of its writes. -/
def call (s : State) (r : Request) : Call := m.deliver (m.handleRequest s r)

end Dispatch

end Machine

/-- A server that serves a request on the machine as it is at that time. -/
def Machine.step (v : Server) (x : Machine × Request) : Server :=
  if v.running then ⟨(x.1.call v.state x.2).state, (x.1.call v.state x.2).returned⟩ else v

end ChatServer
