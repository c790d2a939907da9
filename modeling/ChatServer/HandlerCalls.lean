import ChatServer.Dispatch
import ChatServer.Wrappers

/-!
# The wrapper calls of the handlers

The handlers once more, this time with the bytes of every buffer that ends up as a key: fields
copied from the request, the arrays of a session, of a fetched record and of a stored message,
copies in allocated memory and the uuid that `uuid_unparse_upper` prints. A handler is a program of
wrapper calls. What it decides from the channel database is an argument, and so is what the heap
holds; a call sequence of the server is one of these programs after another.
-/

namespace ChatServer

open CLib

abbrev Calls (α : Type) := Prog WrapperCall WrapperCall.Answer α

/-- The bytes of a `connected_user`. -/
structure Session where
  fd : ℕ
  dsplyName : List UInt8
  ipAddress : List UInt8
  loginToken : List UInt8
  uuid : List UInt8
  privilegeLevel : Int

/-- `dsply_name[0] != '\0'` -/
def Session.named (u : Session) : Bool := u.dsplyName.headD 0 ≠ 0

/-- `dsply_name[0] = '\0'`, which leaves the other characters. -/
def Session.blank (u : Session) : Session := { u with dsplyName := u.dsplyName.set 0 0 }

def Session.zero : Session :=
  ⟨0, zeroed tokenNameLength, zeroed clntIpAddrLength, zeroed tokenNameLength, zeroed uuidLen, 0⟩

/-- What the process holds beside the three databases: the slots of `active_users`, the `user_id`
arrays of the stored messages, and whether it runs. -/
structure Memory where
  slots : List Session
  senders : List (List UInt8)
  running : Bool

namespace Memory

def initial : Memory := ⟨List.replicate maxClients .zero, [], false⟩

variable (m : Memory)

/-- The process has ended. -/
def dead : Memory := { m with running := false }

def live : List Session := Slots.live Session.named m.slots

/-- The session that `insert_user_in_cache` builds in a cleared structure. -/
def newSession (fd : ℕ) (account : AccountRecord) (login : LoginRecord) : Session where
  fd := fd
  dsplyName := strcpy (zeroed tokenNameLength) (cstr account.displayName)
  ipAddress := strcpy (zeroed clntIpAddrLength) (cstr account.ipAddr)
  loginToken := strcpy (zeroed tokenNameLength) (cstr login.loginToken)
  uuid := strcpy (zeroed uuidLen) (cstr account.userId)
  privilegeLevel := account.privilegeLevel

/-- `insert_user_in_cache`; without a free slot it writes behind the array. -/
def insertUserInCache (fd : ℕ) (account : AccountRecord) (login : LoginRecord) : Memory :=
  if m.live.length < maxClients then
    { m with slots := m.slots.set m.live.length (newSession fd account login) }
  else m.dead

/-- `remove_user_in_cache` -/
def removeUserInCache (displayName : List UInt8) : Memory :=
  let named := fun u : Session => decide (cstr u.dsplyName = cstr displayName)
  { m with slots := Slots.removeFirst named Session.blank m.live.length m.slots }

/-- The loop of `read_and_login_user` over the sessions. -/
def loggedInElsewhere (account : AccountRecord) (clntAddr : IpAddr) : Bool :=
  m.live.any fun u => cstr u.dsplyName = cstr account.displayName ∧
    cstr u.ipAddress ≠ clntAddr.str ∧ account.onlineStatus = true

/-- `find_connected_user_with_same_cred` -/
def findConnectedUserWithSameCred (account : AccountRecord) (fd : ℕ) : Bool :=
  m.live.any fun u => cstr account.ipAddr = cstr u.ipAddress ∧
    cstr account.displayName = cstr u.dsplyName ∧ fd = u.fd

end Memory

/-- A field in a cleared array of `n` characters, and the fields behind it. There is none without a
field, or with one that is too long for the array. -/
def nextBuffer (n : ℕ) : List Str → Option (List UInt8 × List Str)
  | [] => none
  | t :: ts => if t.length ≤ n then some (strncpy (zeroed n) t t.length, ts) else none

/-- `generate_user_login_malloc_or_null` -/
def LoginRecord.generate (loginToken password userId : List UInt8) : LoginRecord where
  loginToken := strncpy (zeroed tokenNameLength) (cstr loginToken) tokenNameLength
  password := strncpy (zeroed pswdMaxLength) (cstr password) pswdMaxLength
  uuid := strncpy (zeroed uuidLen) (cstr userId) uuidLen

/-- `generate_user_account_malloc_or_null` -/
def AccountRecord.generate (uuid displayName : List UInt8) : AccountRecord where
  userId := strncpy (zeroed uuidLen) (cstr uuid) uuidLen
  displayName := strncpy (zeroed tokenNameLength) (cstr displayName) tokenNameLength
  ipAddr := strncpy (zeroed clntIpAddrLength) (ascii "0") clntIpAddrLength
  onlineStatus := false
  privilegeLevel := if cstr displayName = ascii "admin" then 1 else 0

/-- `login_user_account_malloc_or_null` -/
def AccountRecord.login (a : AccountRecord) (clntAddr : IpAddr) : AccountRecord :=
  { a with ipAddr := strncpy a.ipAddr clntAddr.str clntIpAddrLength
           onlineStatus := true
           privilegeLevel := if cstr a.displayName = ascii "admin" then 1 else a.privilegeLevel }

/-- `logout_user_account_malloc_or_null` -/
def AccountRecord.logout (a : AccountRecord) : AccountRecord :=
  { a with ipAddr := strncpy a.ipAddr (ascii "0") clntIpAddrLength, onlineStatus := false }

namespace HandlerCalls

open WrapperCall

variable (m : Memory) (r : Request)

/-- `read_and_create_user` -/
def createUser (fs : List Str) : Calls Memory :=
  match nextBuffer tokenNameLength fs with
  | none => pure m.dead
  | some (loginToken, ts) =>
    match nextBuffer tokenNameLength ts with
    | none => pure m.dead
    | some (displayName, ts) => do
      let loginInfo ← Prog.perform (getLoginInfo loginToken)
      let isDisplayNameDuplicates ← Prog.perform (checkDuplicateDisplayName displayName)
      if loginInfo.isSome || isDisplayNameDuplicates then pure m
      else match nextBuffer pswdMaxLength ts with
        | none => pure m.dead
        | some (password, _) => do
          -- uuid_unparse_upper prints the uuid with its terminator
          let uuid := strcpy (malloc r.env.heap uuidLen) r.env.uuid.str
          Prog.perform (insertDisplayName displayName uuid)
          Prog.perform (insertUserLogin (.generate loginToken password uuid))
          Prog.perform (insertUserAccount (.generate uuid displayName))
          pure m

/-- The test for invalid credentials; `none` is the use of a missing record. -/
def invalidCredentials (sender : Session) (senderLogin : Option LoginRecord)
    (senderAccount : Option AccountRecord) (displayName password : List UInt8) : Option Bool :=
  if cstr sender.dsplyName = cstr displayName then some false
  else match senderLogin with
    | none => none
    | some login =>
      if cstr login.password = cstr password then some false
      else senderAccount.map fun account => account.privilegeLevel = 0

/-- The part of `read_and_destroy_user` behind the lookups. -/
def removeUser (displayName : List UInt8) (loginInfo : Option LoginRecord) :
    Option Bool → Calls Memory
  | none => pure m.dead
  | some true => pure m
  | some false =>
    match loginInfo with
    | none => pure m.dead
    | some loginInfo => do
      Prog.perform (removeDisplayName displayName)
      Prog.perform (removeUserAccount loginInfo.uuid)
      Prog.perform (removeUserLogin loginInfo.loginToken)
      pure m

/-- `read_and_destroy_user` from the lookup of the session on; the login token is copied to
allocated memory before it is looked up. -/
def destroyNamed (displayName loginToken password : List UInt8) : Calls Memory :=
  match m.live.find? fun u => u.fd = r.fd with
  | none => pure m.dead
  | some sender => do
    let senderLogin ← Prog.perform (getLoginInfo sender.loginToken)
    let senderAccount ← Prog.perform (getUserAccount sender.uuid)
    let copy := strncpy (malloc r.env.heap tokenNameLength) (cstr loginToken) tokenNameLength
    let loginInfo ← Prog.perform (getLoginInfo (copy.set (cstr loginToken).length 0))
    let credentials := invalidCredentials sender senderLogin senderAccount displayName password
    match loginInfo, senderAccount with
    | none, none => pure m.dead
    | none, some account =>
      if account.privilegeLevel = 1 then pure m else removeUser m displayName none credentials
    | some loginInfo, _ => removeUser m displayName (some loginInfo) credentials

/-- `read_and_destroy_user` -/
def destroyUser (fs : List Str) : Calls Memory :=
  match nextBuffer tokenNameLength fs with
  | none => pure m.dead
  | some (displayName, ts) =>
    match nextBuffer tokenNameLength ts with
    | none => pure m.dead
    | some (loginToken, ts) =>
      match nextBuffer pswdMaxLength ts with
      | none => pure m.dead
      | some (password, _) =>
        if (cstr displayName).isEmpty || (cstr loginToken).isEmpty || (cstr password).isEmpty then
          pure m
        else destroyNamed m r displayName loginToken password

/-- `read_and_login_user` from the account on. -/
def loginAccount (loginInfo : LoginRecord) (account : AccountRecord) : Calls Memory :=
  if m.loggedInElsewhere account r.clntAddr then pure (m.insertUserInCache r.fd account loginInfo)
  else do
    let account := account.login r.clntAddr
    Prog.perform (insertUserAccount account)
    if m.findConnectedUserWithSameCred account r.fd then pure m
    else pure (m.insertUserInCache r.fd account loginInfo)

/-- `read_and_login_user`; the uuid is copied to allocated memory before it is looked up. -/
def login (fs : List Str) : Calls Memory :=
  match nextBuffer tokenNameLength fs with
  | none => pure m.dead
  | some (loginToken, ts) =>
    match nextBuffer pswdMaxLength ts with
    | none => pure m.dead
    | some (password, _) => do
      let loginInfo ← Prog.perform (getLoginInfo loginToken)
      match loginInfo with
      | none => pure m
      | some loginInfo =>
        if !compareStrings (cstr loginInfo.password) (cstr password) ||
            !compareStrings (cstr loginInfo.loginToken) (cstr loginToken) then pure m
        else do
          let clntUuid := strncpy (malloc r.env.heap uuidLen) (cstr loginInfo.uuid) uuidLen
          let account ← Prog.perform (getUserAccount (clntUuid.set (cstr clntUuid).length 0))
          match account with
          | none => pure m.dead
          | some account => loginAccount m r loginInfo account

/-- `read_and_logout_user` -/
def logout (fs : List Str) : Calls Memory :=
  match nextBuffer tokenNameLength fs with
  | none => pure m.dead
  | some (displayName, _) => do
    let uuidOfUser ← Prog.perform (getUuidWithDisplayName displayName r.env.heap)
    match uuidOfUser with
    | none => pure m
    | some uuidOfUser => do
      let account ← Prog.perform (getUserAccount uuidOfUser)
      match account with
      | none => pure m
      | some account =>
        if account.privilegeLevel = 0 ∧ cstr account.ipAddr ≠ r.clntAddr.str then pure m
        else if account.privilegeLevel ≠ 0 ∧ account.privilegeLevel ≠ 1 then pure m.dead
        else if account.onlineStatus = false then pure m
        else do
          Prog.perform (insertUserAccount account.logout)
          pure (m.removeUserInCache account.displayName)

/-- `read_and_create_channel` -/
def createChannel (fs : List Str) : Calls Memory :=
  match nextBuffer tokenNameLength fs with
  | none => pure m.dead
  | some (_, []) => pure m
  | some (_, ts) =>
    match nextBuffer tokenNameLength ts with
    | none => pure m.dead
    | some (_, []) => pure m.dead
    | some (displayName, publicity :: _) =>
      if publicity ≠ ascii "1" ∧ publicity.length ≠ 1 then pure m
      else if m.live.any fun u =>
          cstr u.ipAddress = r.clntAddr.str ∧ cstr u.dsplyName = cstr displayName then do
        let _displayNameExist ← Prog.perform (checkDuplicateDisplayName displayName)
        pure m
      else pure m

/-- `read_and_create_message` from the account of the session on, with the lookup that
`generate_message_malloc_or_null` makes. -/
def postMessage (user : Session) : Calls Memory := do
  let clntUuid := strncpy (zeroed uuidLen) (cstr user.uuid) uuidLen
  let account ← Prog.perform (getUserAccount clntUuid)
  match account with
  | none => pure m.dead
  | some account =>
    if account.privilegeLevel ≠ 0 ∧ account.privilegeLevel ≠ 1 then pure m.dead
    else do
      let userLogin ← Prog.perform (getLoginInfo user.loginToken)
      match userLogin with
      | none => pure m.dead
      | some userLogin =>
        let userId := strncpy (zeroed uuidLen) (cstr userLogin.uuid) uuidLen
        pure { m with senders := m.senders ++ [userId] }

/-- `read_and_create_message`, for a channel that is found or not. -/
def createMessage (channelFound : Bool) (fs : List Str) : Calls Memory :=
  match nextBuffer tokenNameLength fs with
  | none => pure m.dead
  | some (displayName, ts) =>
    if cstr displayName = ascii "200" then pure m
    else match messageFields ts with
      | .error _ => pure m.dead
      | .ok (channelName, content, timestamp) =>
        if (cstr displayName).isEmpty || channelName.isEmpty || content.isEmpty ||
            timestamp.isEmpty then pure m
        else if channelFound = false then pure m
        else match m.live.find? fun u => cstr u.dsplyName = cstr displayName with
          | none => pure m.dead
          | some user => postMessage m user

/-- The loop of `build_message_list` over the senders of the messages it lists. -/
def lookUpSenders : List (List UInt8) → Calls Memory
  | [] => pure m
  | userId :: userIds => do
    let msgSender ← Prog.perform (getUserAccount userId)
    if msgSender.isNone then pure m.dead else lookUpSenders userIds

/-- `read_and_read_message`; the messages listed are those stored at the places `listed`. -/
def readMessage (listed : List ℕ) (bytes : List UInt8) : Calls Memory :=
  match readMessageFields bytes with
  | .error _ => pure m.dead
  | .ok (channelName, numOfMessages) =>
    if isNumber numOfMessages.str = false then pure m
    else if channelName.isEmpty || numOfMessages.isEmpty then pure m
    else lookUpSenders m (listed.filterMap (m.senders[·]?))

/-- The loops that look the listed display names up, until one is missing. -/
def checkNames : List (List UInt8) → Calls Memory
  | [] => pure m
  | name :: names => do
    let found ← Prog.perform (checkDuplicateDisplayName name)
    if found then checkNames names else pure m

/-- The names of an update request in the order in which they are looked up. -/
def listedNames (u : UpdateRequest) : List Name :=
  [u.users.add, u.users.remove, u.admins.add, u.admins.remove, u.banned.add, u.banned.remove].flatMap
    NameList.members

/-- `read_and_update_channel`, for a channel that is found or not. Every listed name has been copied
to a slot of a cleared array. -/
def updateChannel (channelFound : Bool) (fs : List Str) : Calls Memory :=
  match parseUpdate fs with
  | .error .badRequest => pure m
  | .error (.fault _) => pure m.dead
  | .ok u =>
    if channelFound = false then pure m
    else checkNames m ((listedNames u).map fun name =>
      strncpy (zeroed tokenNameLength) name.str tokenNameLength)

/-- `create_admin` -/
def createAdmin (heap : List UInt8) : Calls Memory := do
  -- a literal in memory, and arrays with a literal as initializer
  let uuid := adminUuid.bytes
  let admin := adminName.bytes
  let uuidString := strncpy (malloc heap uuidLen) (cstr uuid) uuidLen
  let isDisplayNameDuplicates ← Prog.perform (checkDuplicateDisplayName admin)
  if isDisplayNameDuplicates then pure m
  else do
    Prog.perform (insertDisplayName admin uuidString)
    Prog.perform (insertUserLogin ⟨admin, (CharArray.strncpy pswdMaxLength (ascii "admin")).bytes,
      uuid⟩)
    Prog.perform (insertUserAccount (.generate uuid admin))
    pure m

/-- The handler of a kind. All but one return on an incomplete body; `channelFound` and `listed` are
what the channel and message databases answer. -/
def handler (channelFound : Bool) (listed : List ℕ) (bodySize : ℕ) (bytes : List UInt8)
    (k : RequestKind) : Calls Memory :=
  if k ≠ .readMessage ∧ bodyIncomplete bodySize bytes = true then pure m
  else match k with
    | .createUser => createUser m r (fields bytes)
    | .destroyUser => destroyUser m r (fields bytes)
    | .createChannel => createChannel m r (fields bytes)
    | .readChannel => pure m
    | .updateChannel => updateChannel m channelFound (fields bytes)
    | .createMessage => createMessage m channelFound (fields bytes)
    | .readMessage => readMessage m listed bytes
    | .login => login m r (fields bytes)
    | .logout => logout m r (fields bytes)

/-- `handle_request`, without the responders, which call no wrapper. -/
def request (channelFound : Bool) (listed : List ℕ) : Calls Memory :=
  match r.decode with
  | .stop (.error _) _ => pure m.dead
  | .stop (.ok _) _ => pure m
  | .serve k header rest =>
    let bytes := rest.take header.bodySize
    if bytes.length > defaultBuffer then pure m.dead
    else handler m r channelFound listed header.bodySize bytes k

end HandlerCalls

/-- A start of the server, or a request with what the channel and message databases answer to it. -/
inductive HostEvent where
  | start (newProcess : Bool) (heap : List UInt8)
  | request (r : Request) (channelFound : Bool) (listed : List ℕ)

namespace HandlerCalls

/-- The wrapper calls of an event, from a memory to the next. -/
def step (m : Memory) : HostEvent → Calls Memory
  | .start newProcess heap =>
    let slots := if newProcess || !m.running then List.replicate maxClients .zero else m.slots
    createAdmin { m with slots := slots, running := true } heap
  | .request r channelFound listed => if m.running then request m r channelFound listed else pure m

def run : Memory → List HostEvent → Calls Memory
  | m, [] => pure m
  | m, e :: es => do
    let m ← step m e
    run m es

/-- The fields that a handler uses as a token or as a display name. -/
def names (fs : List Str) : RequestKind → List Str
  | .createUser | .destroyUser => fs.take 2
  | .login | .logout => fs.take 1
  | .createChannel => fs.tail.take 1
  | .updateChannel => ((parseUpdate fs).toOption.map listedNames).getD [] |>.map (·.str)
  | .readChannel | .createMessage | .readMessage => []

end HandlerCalls

/-- The tokens and display names in a request. -/
def Request.names (r : Request) : List Str :=
  match r.decode with
  | .stop _ _ => []
  | .serve k header rest => HandlerCalls.names (fields (rest.take header.bodySize)) k

/-- Tokens and names have at most 20 bytes, the generated uuid has 36 characters, and the address is
a string. -/
structure Request.Plain (r : Request) : Prop where
  names : ∀ t ∈ r.names, t.length ≤ 20
  uuid : 0 ∉ r.env.uuid.str ∧ r.env.uuid.str.length = 36
  address : 0 ∉ r.clntAddr.str

def HostEvent.Plain : HostEvent → Prop
  | .start _ _ => True
  | .request r _ _ => r.Plain

end ChatServer
