import ChatServer.Handler.Basic

/-!
# Creating and reading messages
-/

namespace ChatServer

open CLib

/-- `generate_message_malloc_or_null`. Only `sizeof(size_t)` bytes of the content are copied, and
the rest of the array is whatever the allocation held. -/
def generateMessage (env : Env) (login : UserLogin) (channel : ChannelInfo) (content : Str)
    (timestamp : CharArray timestampSize) : MessageInfo where
  messageId := env.uuid
  userId := login.uuid
  channelId := channel.channelId
  messageContent := CharArray.strncpy _
    (content.take 8 ++ if content.length < 8 then [] else cstr env.heap)
  timeStamp := timestamp

/-- The fields of a message behind the display name. -/
def messageFields (ts : List Str) :
    Except Fault (Name × CharArray maxMessageSize × CharArray timestampSize) := do
  let (channelName, ts) ← nextField tokenNameLength ts
  let (content, ts) ← nextField maxMessageSize ts
  match ts with
  | [] => .error .nullPointer
  | t :: _ => return (channelName, content, CharArray.strncpy _ t)

theorem messageFields_eq_ok {ts : List Str} {name : Name} {content : CharArray maxMessageSize}
    {stamp : CharArray timestampSize} :
    messageFields ts = .ok (name, content, stamp) ↔
      ∃ us t rest, nextField tokenNameLength ts = .ok (name, us) ∧
        nextField maxMessageSize us = .ok (content, t :: rest) ∧
        stamp = CharArray.strncpy _ t := by
  rw [messageFields]
  cases h₁ : nextField tokenNameLength ts with
  | error f => simp [bind, Except.bind]
  | ok x =>
    obtain ⟨name', us⟩ := x
    cases h₂ : nextField maxMessageSize us with
    | error f => simp [bind, Except.bind, h₂]
    | ok y =>
      obtain ⟨content', vs⟩ := y
      cases vs with
      | nil => simp [bind, Except.bind, h₂]
      | cons t vs => simp [bind, Except.bind, pure, Except.pure, h₂, and_assoc, eq_comm]

theorem messageFields_cons (name : Name) (content : CharArray maxMessageSize) (t : Str)
    (rest : List Str) : messageFields (name.str :: content.str :: t :: rest) =
      .ok (name, content, CharArray.strncpy _ t) :=
  messageFields_eq_ok.mpr ⟨_, t, rest, nextField_eq_ok.mpr rfl, nextField_eq_ok.mpr rfl, rfl⟩

/-- Every field of the body has a character, so none of the arrays is empty. -/
theorem messageFields_ne_empty {bytes : List UInt8} {ts : List Str} {d name : Name}
    {content : CharArray maxMessageSize} {stamp : CharArray timestampSize}
    (h₁ : nextField tokenNameLength (fields bytes) = .ok (d, ts))
    (h₂ : messageFields ts = .ok (name, content, stamp)) :
    (d.isEmpty || name.isEmpty || content.isEmpty || stamp.isEmpty) = false := by
  obtain ⟨us, t, rest, hn, hc, rfl⟩ := messageFields_eq_ok.mp h₂
  have hne : ∀ u ∈ fields bytes, u ≠ [] := fun u hu => ne_nil_of_mem_tokens hu
  rw [nextField_eq_ok.mp h₁, nextField_eq_ok.mp hn, nextField_eq_ok.mp hc] at hne
  obtain ⟨hd', hn', hc', ht, _⟩ : d.str ≠ [] ∧ name.str ≠ [] ∧ content.str ≠ [] ∧ t ≠ [] ∧ _ := by
    simpa only [List.forall_mem_cons] using hne
  have hs : (CharArray.strncpy timestampSize t).str ≠ [] := by
    simpa [CharArray.strncpy] using ht
  simp only [CharArray.isEmpty, Bool.or_eq_false_iff, List.isEmpty_eq_false_iff]
  exact ⟨⟨⟨hd', hn'⟩, hc'⟩, hs⟩

/-- `read_and_create_message` from the channel on. -/
def storeNewMessage (s : State) (env : Env) (displayName channelName : Name) (content : Str)
    (timestamp : CharArray timestampSize) (forward : Str) : Outcome :=
  match s.getChannelInfo env channelName with
  | none => ⟨s, .ok ⟨errorChannelDoesNotExist, channelName.str, forward⟩⟩
  | some channel =>
    match s.activeUsers.getConnectedUserByDisplayName displayName with
    | none => .fault s .nullPointer
    | some user =>
      match s.getUserAccount user.uuid with
      | none => .fault s .nullPointer
      | some account =>
        -- the switch leaves is_token_duplicate unset for any other privilege level
        if account.privilegeLevel ≠ 0 ∧ account.privilegeLevel ≠ 1 then .fault s .assertFailed
        else match s.getLoginInfo user.loginToken with
          | none => .fault s .nullPointer
          | some login =>
            ⟨s.insertMessage (generateMessage env login channel content timestamp),
              .ok ⟨0, channelName.str, forward⟩⟩

/-- `read_and_create_message` -/
def readAndCreateMessage (s : State) (env : Env) (bodySize : ℕ) (bytes : List UInt8) : Outcome :=
  if bodyIncomplete bodySize bytes then .reply s (-1) []
  else match nextField tokenNameLength (fields bytes) with
    | .error f => .fault s f
    | .ok (displayName, ts) =>
      if displayName.str = ascii "200" then ⟨s, .ok ⟨createMessageAck, [], cstr bytes⟩⟩
      else match messageFields ts with
        | .error f => .fault s f
        | .ok (channelName, content, timestamp) =>
          if displayName.isEmpty || channelName.isEmpty || content.isEmpty || timestamp.isEmpty then
            ⟨s, .ok ⟨errorInvalidRequest, channelName.str, cstr bytes⟩⟩
          else storeNewMessage s env displayName channelName content.str timestamp (cstr bytes)

/-- A message with its four fields that is no acknowledgement. -/
theorem readAndCreateMessage_eq {s : State} {env : Env} {n : ℕ} {bytes : List UInt8} {d name : Name}
    {content : CharArray maxMessageSize} {t : Str} {rest : List Str}
    (hn : bodyIncomplete n bytes = false)
    (hfs : fields bytes = d.str :: name.str :: content.str :: t :: rest)
    (hack : d.str ≠ ascii "200") :
    readAndCreateMessage s env n bytes =
      storeNewMessage s env d name content.str (CharArray.strncpy _ t) (cstr bytes) := by
  have hd := nextField_eq_ok.mpr hfs
  have hempty := messageFields_ne_empty hd (messageFields_cons name content t rest)
  simp only [readAndCreateMessage, hn, hd, hack, messageFields_cons, hempty, Bool.false_eq_true,
    if_false]

/-- `is_number` -/
def isNumber (s : Str) : Bool := s.all isdigit

/-- The first loop of `build_message_list`, which sizes the allocation. -/
def messageListSize (channelId : Uuid) (messages : List MessageInfo) : ℕ :=
  ((messages.filter fun m => channelId = m.channelId).map fun m =>
    m.messageContent.str.length+1+timestampSize).sum + 1

/-- The second loop of `build_message_list`, `list` being what has been copied so far. The
sender's record is used before the remaining space is tested. -/
def copyMessages (s : State) (channelId : Uuid) (size : ℕ) (list : List UInt8) :
    List MessageInfo → Except Fault (List UInt8)
  | [] => .ok list
  | m :: ms =>
    if channelId = m.channelId then
      match s.getUserAccount m.userId with
      | none => .error .nullPointer
      | some sender =>
        let name := sender.displayName.str
        let content := m.messageContent.str
        if list.length+name.length+content.length+timestampSize+3 ≥ size then .ok list
        else copyMessages s channelId size
          (list ++ name ++ etx :: content ++ etx :: m.timeStamp.bytes ++ [etx]) ms
    else copyMessages s channelId size list ms

/-- `build_message_list`. The channel is used for the first time inside the loops, so a missing
one only matters when there is a message. -/
def buildMessageList (s : State) (messages : List MessageInfo) (channel : Option ChannelInfo) :
    Except Fault (List UInt8) :=
  match channel, messages with
  | _, [] => .ok []
  | none, _ :: _ => .error .nullPointer
  | some c, _ :: _ => copyMessages s c.channelId (messageListSize c.channelId messages) [] messages

/-- The two fields of a request to read messages. -/
def readMessageFields (bytes : List UInt8) : Except Fault (Name × Name) := do
  let (channelName, ts) ← nextField tokenNameLength (fields bytes)
  let (numOfMessages, _) ← nextField tokenNameLength ts
  return (channelName, numOfMessages)

/-- They are the first two fields of the body. -/
theorem readMessageFields_eq_ok {bytes : List UInt8} {c k : Name} :
    readMessageFields bytes = .ok (c, k) ↔ ∃ rest, fields bytes = c.str :: k.str :: rest := by
  have hread : readMessageFields bytes = .ok (c, k) ↔
      ∃ ts us, nextField tokenNameLength (fields bytes) = .ok (c, ts) ∧
        nextField tokenNameLength ts = .ok (k, us) := by
    rw [readMessageFields]
    cases h₁ : nextField tokenNameLength (fields bytes) with
    | error f => simp [bind, Except.bind]
    | ok x =>
      obtain ⟨c', ts⟩ := x
      cases h₂ : nextField tokenNameLength ts with
      | error f => simp [bind, Except.bind, h₂]
      | ok y => simp [bind, Except.bind, pure, Except.pure, h₂, Prod.ext_iff]
  rw [hread]
  constructor
  · rintro ⟨ts, us, h₁, h₂⟩
    exact ⟨us, by rw [nextField_eq_ok.mp h₁, nextField_eq_ok.mp h₂]⟩
  · rintro ⟨rest, h⟩
    exact ⟨_, _, nextField_eq_ok.mpr h, nextField_eq_ok.mpr rfl⟩

/-- `read_and_read_message`, which goes on with what it has when the body is incomplete. -/
def readAndReadMessage (s : State) (env : Env) (bytes : List UInt8) : Outcome :=
  match readMessageFields bytes with
  | .error f => .fault s f
  | .ok (channelName, numOfMessages) =>
    if isNumber numOfMessages.str = false then .reply s (-1) []
    else if channelName.isEmpty || numOfMessages.isEmpty then .reply s (-1) []
    else
      let messages := s.getAllMessages env
      match buildMessageList s messages (s.getChannelInfo env channelName) with
      | .error f => .fault s f
      | .ok list =>
        .reply s 0 ((channelName.str ++ etx :: decimal messages.length ++ etx ::
          cstr list).take (bigTokenNameLength-1))

end ChatServer
