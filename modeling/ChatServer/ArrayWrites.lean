import ChatServer.Limits
import ChatServer.ReplyLists

/-!
# What three handlers write

`read_and_create_channel`, `read_and_create_message` and `read_and_read_message` again, each with
the accesses to arrays that it and the functions it calls make, in the order of the source. A
declaration with an initializer and a `memset` of a structure have the size of what
they clear and are left out. Dropping the accesses gives the handlers of the model.
-/

namespace ChatServer

open CLib

/-- `sizeof(channel_info_t)` -/
abbrev sizeofChannelInfo : ℕ :=
  uuidLen+tokenNameLength+3*(defaultListSize*tokenNameLength)+tokenNameLength+1

/-- `sizeof(message_info_t)` -/
abbrev sizeofMessageInfo : ℕ := 3*uuidLen+maxMessageSize+timestampSize

/-- `sizeof(size_t)` and `sizeof(char*)` -/
abbrev sizeofWord : ℕ := 8

/-- What a handler did, and the accesses it made. -/
abbrev Trace := Outcome × List Access

/-- The accesses before a part of a handler. -/
def after (log : List Access) (x : Trace) : Trace := (x.1, log ++ x.2)

@[simp] theorem after_fst (log : List Access) (x : Trace) : (after log x).1 = x.1 := rfl

@[simp] theorem after_snd (log : List Access) (x : Trace) : (after log x).2 = log ++ x.2 := rfl

/-- The buffer is cleared and the body read into it. -/
def bufferWrites (bytes : List UInt8) : List Access :=
  fill defaultBuffer 0 defaultBuffer ++ fill defaultBuffer 0 bytes.length

/-- The separators that `strtok` overwrites; also those behind the last field a handler asks for. -/
def strtokWrites (bytes : List UInt8) : List Access :=
  ((cstr bytes).zipIdx.filter fun x => x.1 = etx).map fun x => ⟨defaultBuffer, x.2⟩

/-- `strncpy(array, token, strlen(token))` with the next field, if there is one. -/
def fieldWrites (n : ℕ) : List Str → List Access
  | [] => []
  | t :: _ => fill n 0 t.length

/-- A call that writes an array of `n` elements from its beginning to its end. -/
abbrev fillAll (n : ℕ) : List Access := fill n 0 n

/-! ### Creating a channel -/

/-- `create_channel_or_null_malloc` -/
def newChannelWrites : List Access :=
  fillAll sizeofChannelInfo ++ fillAll uuidLen ++ fillAll uuidLen ++ fillAll tokenNameLength ++
    fillAll tokenNameLength ++ fillAll tokenNameLength ++ fillAll tokenNameLength

/-- The name of the new channel in `token_out`, and a separator behind it. -/
def createdTokenWrites (channelName : Name) : List Access :=
  fillAll tokenNameLength ++ fillAll tokenNameLength ++
    fill tokenNameLength channelName.str.length 2

/-- `read_and_create_channel` from the check of the sender's session on. -/
def storeNewChannelTrace (s : State) (env : Env) (clntAddr : IpAddr)
    (channelName displayName : Name) (publicity : Bool) : Trace :=
  match s.activeUsers.getDisplayNameInCache clntAddr displayName with
  | none => (.reply s errorChannel500 [], [])
  | some nameInCache =>
    after (fillAll tokenNameLength ++ fillAll tokenNameLength) <|
    if nameInCache = adminName ∧ s.checkDuplicateDisplayName displayName = false then
      (.reply s errorChannel404 [], [])
    else if nameInCache ≠ adminName ∧ displayName ≠ nameInCache then
      (.reply s errorChannel403 [], [])
    else if s.checkDuplicateChannelName env channelName then (.reply s errorChannel409 [], [])
    else
      (.reply (s.insertChannelInfo (createChannel env.uuid channelName displayName publicity)) 0
        (channelName.str ++ [etx]), newChannelWrites ++ createdTokenWrites channelName)

/-- `read_and_create_channel` -/
def readAndCreateChannelTrace (s : State) (env : Env) (clntAddr : IpAddr) (bodySize : ℕ)
    (bytes : List UInt8) : Trace :=
  after (bufferWrites bytes) <|
  if bodyIncomplete bodySize bytes then (.reply s errorChannel500 [], [])
  else
    after (strtokWrites bytes ++ fieldWrites tokenNameLength (fields bytes)) <|
    match nextField tokenNameLength (fields bytes) with
    | .error f => (.fault s f, [])
    | .ok (_, []) => (.reply s errorChannel400 [], [])
    | .ok (channelName, ts) =>
      after (fieldWrites tokenNameLength ts) <|
      match nextField tokenNameLength ts with
      | .error f => (.fault s f, [])
      | .ok (_, []) => (.fault s .nullPointer, [])
      | .ok (displayName, publicity :: _) =>
        if publicity ≠ ascii "1" ∧ publicity.length ≠ 1 then (.reply s errorChannel400 [], [])
        else storeNewChannelTrace s env clntAddr channelName displayName (publicity = ascii "1")

/-! ### Creating a message -/

/-- `get_user_account_malloc_or_null` of an account that is there: the record of an account is
filled with the number of bytes of a login record. -/
def userAccountWrites : List Access := fill sizeofUserAccount 0 sizeofUserLogin

/-- `generate_message_malloc_or_null` up to the use of the login record. -/
def newMessageWrites : List Access :=
  fillAll uuidLen ++ fill sizeofMessageInfo 0 sizeofUserAccount ++ fillAll uuidLen

/-- The rest of `generate_message_malloc_or_null`. -/
def messageRecordWrites : List Access :=
  fillAll uuidLen ++ fillAll uuidLen ++ fill maxMessageSize 0 sizeofWord ++ fillAll timestampSize

/-- `read_and_create_message` from the channel on. -/
def storeNewMessageTrace (s : State) (env : Env) (displayName channelName : Name) (content : Str)
    (timestamp : CharArray timestampSize) (forward : Str) : Trace :=
  match s.getChannelInfo env channelName with
  | none => (⟨s, .ok ⟨errorChannelDoesNotExist, channelName.str, forward⟩⟩, [])
  | some channel =>
    after (fillAll sizeofChannelInfo ++ fillAll uuidLen) <|
    match s.activeUsers.getConnectedUserByDisplayName displayName with
    | none => (.fault s .nullPointer, [])
    | some user =>
      after (fillAll uuidLen) <|
      match s.getUserAccount user.uuid with
      | none => (.fault s .nullPointer, [])
      | some account =>
        after userAccountWrites <|
        if account.privilegeLevel ≠ 0 ∧ account.privilegeLevel ≠ 1 then (.fault s .assertFailed, [])
        else match s.getLoginInfo user.loginToken with
          | none => (.fault s .nullPointer, newMessageWrites)
          | some login =>
            (⟨s.insertMessage (generateMessage env login channel content timestamp),
              .ok ⟨0, channelName.str, forward⟩⟩,
              fillAll sizeofUserLogin ++ newMessageWrites ++ messageRecordWrites)

/-- The fields of a message behind the display name: two of any length, and the time, of which
`TIMESTAMP_SIZE` bytes are copied. -/
def messageFieldWrites (ts : List Str) : List Access :=
  fieldWrites tokenNameLength ts ++ fieldWrites maxMessageSize ts.tail ++
    if ts.length < 3 then [] else fillAll timestampSize

/-- `read_and_create_message` -/
def readAndCreateMessageTrace (s : State) (env : Env) (bodySize : ℕ) (bytes : List UInt8) : Trace :=
  after (bufferWrites bytes) <|
  if bodyIncomplete bodySize bytes then (.reply s (-1) [], [])
  else
    after (fillAll defaultBuffer ++ strtokWrites bytes ++
      fieldWrites tokenNameLength (fields bytes)) <|
    match nextField tokenNameLength (fields bytes) with
    | .error f => (.fault s f, [])
    | .ok (displayName, ts) =>
      if displayName.str = ascii "200" then (⟨s, .ok ⟨createMessageAck, [], cstr bytes⟩⟩, [])
      else
        after (messageFieldWrites ts) <|
        match messageFields ts with
        | .error f => (.fault s f, [])
        | .ok (channelName, content, timestamp) =>
          after (fillAll tokenNameLength) <|
          if displayName.isEmpty || channelName.isEmpty || content.isEmpty || timestamp.isEmpty then
            (⟨s, .ok ⟨errorInvalidRequest, channelName.str, cstr bytes⟩⟩, [])
          else storeNewMessageTrace s env displayName channelName content.str timestamp (cstr bytes)

/-! ### Reading messages -/

/-- `get_all_messages`: every record is copied twice, and a pointer to it put behind the others. -/
def allMessagesWrites (count : ℕ) : List Access :=
  (List.range count).flatMap fun i =>
    fillAll sizeofMessageInfo ++ [⟨i+1, i⟩] ++ fillAll sizeofMessageInfo

/-- The second loop of `build_message_list` and the terminator, with the records of the senders. -/
def messageLoopWrites (s : State) (channelId : Uuid) (size : ℕ) :
    List MessageInfo → Cursor → List Access
  | [], list => (list.push 0).block.accesses
  | m :: ms, list =>
    if channelId = m.channelId then
      match s.getUserAccount m.userId with
      | none => list.block.accesses
      | some msgSender =>
        let displayName := msgSender.displayName.str
        let content := m.messageContent.str
        userAccountWrites ++
          if list.offset+displayName.length+content.length+timestampSize+3 ≥ size then
            (list.push 0).block.accesses
          else
            let list := (list.append displayName).push etx
            let list := (list.append content).push etx
            messageLoopWrites s channelId size ms ((list.append m.timeStamp.bytes).push etx)
    else messageLoopWrites s channelId size ms list

/-- `build_message_list`. A channel that is not there is used as soon as there is a message. -/
def messageListWrites (heap : List UInt8) (s : State) (messages : List MessageInfo) :
    Option ChannelInfo → List Access
  | none =>
    match messages with
    | [] => ((⟨.alloc heap 1, 0⟩ : Cursor).push 0).block.accesses
    | _ :: _ => []
  | some channel =>
    let size := messageListSize channel.channelId messages
    fillAll sizeofChannelInfo ++
      messageLoopWrites s channel.channelId size messages ⟨.alloc heap size, 0⟩

/-- `read_and_read_message`. The size in the last call is that of the array and of a pointer. -/
def readAndReadMessageTrace (s : State) (env : Env) (bytes : List UInt8) : Trace :=
  after (bufferWrites bytes ++ strtokWrites bytes ++ fieldWrites tokenNameLength (fields bytes)) <|
  match nextField tokenNameLength (fields bytes) with
  | .error f => (.fault s f, [])
  | .ok (channelName, ts) =>
    after (fieldWrites tokenNameLength ts) <|
    match nextField tokenNameLength ts with
    | .error f => (.fault s f, [])
    | .ok (numOfMessages, _) =>
      if isNumber numOfMessages.str = false then (.reply s (-1) [], [])
      else if channelName.isEmpty || numOfMessages.isEmpty then (.reply s (-1) [], [])
      else
        let messages := s.getAllMessages env
        after (allMessagesWrites messages.length ++
          messageListWrites env.heap s messages (s.getChannelInfo env channelName)) <|
        match buildMessageList s messages (s.getChannelInfo env channelName) with
        | .error f => (.fault s f, [])
        | .ok list =>
          let responseBody := (channelName.str ++ etx :: decimal messages.length ++ etx ::
            cstr list).take (bigTokenNameLength-1)
          (.reply s 0 responseBody, fill bigTokenNameLength 0 (responseBody.length+1) ++
            fill maxMsgHistoryRes 0 (maxMsgHistoryRes+sizeofWord))

/-! ### Responders -/

/-- The error texts of `send_create_channel_response`. -/
def createChannelTexts : List (Int × Str) :=
  [(errorChannel400, ascii "Invalid request"), (errorChannel404, ascii "Display name NOT found"),
   (errorChannel409, ascii "Channel name is not unique"),
   (errorChannel403, ascii "Display name does not match"),
   (errorChannel500, ascii "Internal server error")]

/-- The error texts of `send_read_message_response`. -/
def readMessageTexts : List (Int × Str) := [(errorReadMessage206, ascii "Invalid request")]

/-- The strings that a responder of the kind of `codedBody` puts into `body`: `strcpy` and `strcat`
of a response, or `sprintf` of the result and `strcat` of a text. -/
def codedPieces (success : Str) (texts : List (Int × Str)) (result : Int) (token : Str) :
    List Str :=
  if result = 0 then [success, token]
  else (decimal result ++ [etx]) :: ((texts.lookup result).map fun text => text ++ [etx]).toList

/-- The strings that `send_create_message_response` puts into `body`. -/
def createMessagePieces (result : Int) (token : Str) : List Str :=
  if result = 0 then [status "201" "", token]
  else if result = errorInvalidRequest then [status "400" "", ascii "Invalid request", token]
  else if result = errorChannelDoesNotExist then
    [status "404" "", ascii "Channel does not exist", token]
  else if result = errorAdminDoesNotExist then
    [status "404" "", ascii "Referenced display name does not exist", token]
  else if result = errorUserDoesNotExist then
    [status "403" "", ascii "Referenced display name does not exist", token]
  else if result = successForwardReq then [status "200" "", token]
  else []

/-- The copies of a message for the members of its channel that are online. -/
def forwardWrites (s : State) (env : Env) (token forward : Str) : List Access :=
  match s.getChannelInfo env (CharArray.strncpy _ token) with
  | none => []
  | some channel =>
    fillAll sizeofChannelInfo ++
      (s.activeUsers.live.filter fun u => checkIfUserInChannel u.dsplyName channel).flatMap
        fun _ => strcats (bodyCapacity .createMessage) 0
          (createMessagePieces successForwardReq forward)

/-- `send_create_channel_response` -/
def createChannelAnswer (_ : State) (reply : Reply) : List Access :=
  strcats (bodyCapacity .createChannel) 0
    (codedPieces (status "201" "") createChannelTexts reply.result reply.token)

/-- `send_create_message_response`, for the sender and then for the members. A result that it does
not know ends the process. -/
def createMessageAnswer (env : Env) (s : State) (reply : Reply) : List Access :=
  if reply.result = createMessageAck then []
  else
    strcats (bodyCapacity .createMessage) 0 (createMessagePieces reply.result reply.token) ++
      match sendCreateMessageResponse reply.result reply.token with
      | .error _ => []
      | .ok _ => forwardWrites s env reply.token reply.forward

/-- `send_read_message_response` -/
def readMessageAnswer (_ : State) (reply : Reply) : List Access :=
  strcats (bodyCapacity .readMessage) 0
    (codedPieces (status "200" "") readMessageTexts reply.result reply.token)

/-- A handler and, if it returns, what follows it. -/
def answered (x : Trace) (f : State → Reply → List Access) : List Access :=
  x.2 ++ match x.1.value with
    | .error _ => []
    | .ok reply => f x.1.state reply

/-- The accesses of the handler and its responder. -/
def requestWrites (s : State) (r : Request) (bodySize : ℕ) (bytes : List UInt8) :
    RequestKind → List Access
  | .createChannel =>
    answered (readAndCreateChannelTrace s r.env r.clntAddr bodySize bytes) createChannelAnswer
  | .createMessage =>
    answered (readAndCreateMessageTrace s r.env bodySize bytes) (createMessageAnswer r.env)
  | .readMessage => answered (readAndReadMessageTrace s r.env bytes) readMessageAnswer
  | _ => []

/-! ### The handlers of the model -/

theorem storeNewChannelTrace_fst (s : State) (env : Env) (addr : IpAddr) (c d : Name) (p : Bool) :
    (storeNewChannelTrace s env addr c d p).1 = storeNewChannel s env addr c d p := by
  rw [storeNewChannelTrace, storeNewChannel]
  cases s.activeUsers.getDisplayNameInCache addr d with
  | none => rfl
  | some name =>
    dsimp only
    rw [after_fst]
    split_ifs <;> rfl

theorem readAndCreateChannelTrace_fst (s : State) (env : Env) (addr : IpAddr) (n : ℕ)
    (bytes : List UInt8) :
    (readAndCreateChannelTrace s env addr n bytes).1 = readAndCreateChannel s env addr n bytes := by
  rw [readAndCreateChannelTrace, readAndCreateChannel, after_fst]
  split_ifs with hinc
  · rfl
  · rw [after_fst]
    cases nextField tokenNameLength (fields bytes) with
    | error f => rfl
    | ok x =>
      obtain ⟨c, ts⟩ := x
      cases ts with
      | nil => rfl
      | cons t ts =>
        dsimp only
        rw [after_fst]
        cases nextField tokenNameLength (t :: ts) with
        | error f => rfl
        | ok y =>
          obtain ⟨d, us⟩ := y
          cases us with
          | nil => rfl
          | cons p us =>
            dsimp only
            split_ifs with hp
            · rfl
            · exact storeNewChannelTrace_fst ..

theorem storeNewMessageTrace_fst (s : State) (env : Env) (d c : Name) (content : Str)
    (stamp : CharArray timestampSize) (forward : Str) :
    (storeNewMessageTrace s env d c content stamp forward).1 =
      storeNewMessage s env d c content stamp forward := by
  rw [storeNewMessageTrace, storeNewMessage]
  cases s.getChannelInfo env c with
  | none => rfl
  | some channel =>
    dsimp only
    rw [after_fst]
    cases s.activeUsers.getConnectedUserByDisplayName d with
    | none => rfl
    | some user =>
      dsimp only
      rw [after_fst]
      cases s.getUserAccount user.uuid with
      | none => rfl
      | some account =>
        dsimp only
        rw [after_fst]
        split_ifs
        · rfl
        · cases s.getLoginInfo user.loginToken with
          | none => rfl
          | some login => rfl

theorem readAndCreateMessageTrace_fst (s : State) (env : Env) (n : ℕ) (bytes : List UInt8) :
    (readAndCreateMessageTrace s env n bytes).1 = readAndCreateMessage s env n bytes := by
  rw [readAndCreateMessageTrace, readAndCreateMessage, after_fst]
  split_ifs with hinc
  · rfl
  · rw [after_fst]
    cases nextField tokenNameLength (fields bytes) with
    | error f => rfl
    | ok x =>
      obtain ⟨d, ts⟩ := x
      dsimp only
      split_ifs with hack
      · rfl
      · rw [after_fst]
        cases messageFields ts with
        | error f => rfl
        | ok y =>
          obtain ⟨c, content, stamp⟩ := y
          dsimp only
          rw [after_fst]
          split_ifs with hempty
          · rfl
          · exact storeNewMessageTrace_fst ..

theorem readAndReadMessageTrace_fst (s : State) (env : Env) (bytes : List UInt8) :
    (readAndReadMessageTrace s env bytes).1 = readAndReadMessage s env bytes := by
  rw [readAndReadMessageTrace, readAndReadMessage, readMessageFields, after_fst]
  cases h₁ : nextField tokenNameLength (fields bytes) with
  | error f => rfl
  | ok x =>
    obtain ⟨c, ts⟩ := x
    dsimp only [bind, Except.bind]
    rw [after_fst]
    cases h₂ : nextField tokenNameLength ts with
    | error f => rfl
    | ok y =>
      obtain ⟨number, rest⟩ := y
      dsimp only [pure, Except.pure]
      split_ifs
      · rfl
      · rfl
      · rw [after_fst]
        cases buildMessageList s (s.getAllMessages env) (s.getChannelInfo env c) with
        | error f => rfl
        | ok list => rfl

theorem codedPieces_flatten {success : Str} {texts : List (Int × Str)} {result : Int}
    {token body : Str} (h : codedBody success texts result token = .ok (some body)) :
    (codedPieces success texts result token).flatten = body := by
  rw [codedBody] at h
  rw [codedPieces]
  split_ifs at h ⊢ with h0
  · cases h
    simp
  · cases hl : texts.lookup result with
    | none => rw [hl] at h; cases h
    | some text =>
      rw [hl] at h
      cases h
      simp

theorem createMessagePieces_flatten {result : Int} {token body : Str}
    (h : sendCreateMessageResponse result token = .ok (some body)) :
    (createMessagePieces result token).flatten = body := by
  have hnil : ascii "" = [] := rfl
  rw [createMessagePieces]
  split_ifs with h₀ h₁ h₂ h₃ h₄ h₅
  · rw [h₀] at h
    cases h
    simp [status, hnil]
  · rw [h₁] at h
    cases h
    simp [status, hnil]
  · rw [h₂] at h
    cases h
    simp [status, hnil]
  · rw [h₃] at h
    cases h
    simp [status, hnil]
  · rw [h₄] at h
    cases h
    simp [status, hnil]
  · rw [h₅] at h
    cases h
    simp [status, hnil]
  · rw [sendCreateMessageResponse, assertingBody, if_neg h₀] at h
    have hnone : ∀ texts : List (Int × Str), (∀ x ∈ texts, result ≠ x.1) →
        texts.lookup result = none := by
      intro texts ht
      rw [List.lookup_eq_none_iff]
      intro x hx
      simpa using ht x hx
    rw [hnone _ (by simp [h₁, h₂, h₃, h₄, h₅])] at h
    cases h

end ChatServer
