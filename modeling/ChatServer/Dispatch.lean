import ChatServer.Handler.Auth
import ChatServer.Handler.Channel
import ChatServer.Handler.Message
import ChatServer.Handler.User

/-!
# Dispatching a request

`handle_request`: decode the header, choose the handler, let the responder answer and do what is
left to do for the kind of request. A `Call` records everything such a call did: the state it
left, the input it did not read, the dispatches it sent, the descriptors it closed and its return
value, or the fault that kept it from returning.
-/

namespace ChatServer

open CLib

/-- A call `handle_request(fd, clnt_addr, active_users)` with the unread input of the
connection. -/
structure Request where
  fd : ℕ
  clntAddr : IpAddr
  input : List UInt8
  env : Env

/-- A dispatch written to a descriptor, either as the direct response or as the copy of a message
for a member of its channel. -/
structure Sent where
  fd : ℕ
  forwarded : Bool
  header : ChatHeader
  body : Str
  deriving DecidableEq

structure Call where
  state : State
  rest : List UInt8
  sent : List Sent
  closed : List ℕ
  ret : Except Fault Int

/-- The branches of the switch over object and type. -/
inductive Branch where
  | handler (k : RequestKind)
  | nothing
  | wrongType
  deriving DecidableEq

/-- The switch of `handle_request`. `OBJECT_AUTH` has no branch for `TYPE_READ`. -/
def branch (object : Fin 256) (type : Fin 16) : Branch :=
  match object.val, type.val with
  | 1, 1 => .handler .createUser
  | 1, 2 => .nothing
  | 1, 3 => .nothing
  | 1, 4 => .handler .destroyUser
  | 1, _ => .wrongType
  | 2, 1 => .handler .createChannel
  | 2, 2 => .handler .readChannel
  | 2, 3 => .handler .updateChannel
  | 2, 4 => .nothing
  | 2, _ => .wrongType
  | 3, 1 => .handler .createMessage
  | 3, 2 => .handler .readMessage
  | 3, 3 => .nothing
  | 3, 4 => .nothing
  | 3, _ => .wrongType
  | 4, 1 => .handler .login
  | 4, 3 => .nothing
  | 4, 4 => .handler .logout
  | 4, _ => .wrongType
  | _, _ => .nothing

/-- What the header of a request leads to: a handler, or a call that is over without one. -/
inductive Decoded where
  | serve (k : RequestKind) (header : ChatHeader) (rest : List UInt8)
  | stop (ret : Except Fault Int) (rest : List UInt8)
  deriving DecidableEq

def Request.decode (r : Request) : Decoded :=
  match readHeader r.env.byteOrder r.input with
  | .error f => .stop (.error f) []
  | .ok (header, rest) =>
    if header.version ≠ currentVersion then .stop (.ok errorWrongVersion) rest
    else match branch header.object header.type with
      | .handler k => .serve k header rest
      | .nothing => .stop (.ok 0) rest
      | .wrongType => .stop (.error .shouldNotBeHere) rest

/-- The handler of a kind of request. -/
def runHandler (k : RequestKind) (s : State) (r : Request) (bodySize : ℕ) (bytes : List UInt8) :
    Outcome :=
  match k with
  | .createUser => readAndCreateUser s r.env bodySize bytes
  | .destroyUser => readAndDestroyUser s r.fd bodySize bytes
  | .createChannel => readAndCreateChannel s r.env r.clntAddr bodySize bytes
  | .readChannel => readAndReadChannel s r.env bodySize bytes
  | .updateChannel => readAndUpdateChannel s r.env bodySize bytes
  | .createMessage => readAndCreateMessage s r.env bodySize bytes
  | .readMessage => readAndReadMessage s r.env bytes
  | .login => readAndLoginUser s r.env r.fd r.clntAddr bodySize bytes
  | .logout => readAndLogoutUser s r.clntAddr bodySize bytes

/-- The copies of a message for the live sessions whose user is in the channel. -/
def forwards (s : State) (env : Env) (header : ChatHeader) (token forward : Str) :
    Except Fault (List Sent) :=
  match s.getChannelInfo env (CharArray.strncpy _ token), s.activeUsers.live with
  | _, [] => .ok []
  | none, _ :: _ => .error .nullPointer
  | some channel, users =>
    match sendCreateMessageResponse successForwardReq forward with
    | .error f => .error f
    | .ok none => .ok []
    | .ok (some body) =>
      .ok ((users.filter fun u => checkIfUserInChannel u.dsplyName channel).map fun u =>
        ⟨u.fd, true, responseHeader header body, body⟩)

/-- What `handle_request` and the responder do behind the response: copies of a message, closing
the connection. -/
def afterResponse (k : RequestKind) (s : State) (r : Request) (header : ChatHeader)
    (reply : Reply) : Except Fault (List Sent × List ℕ) :=
  match k with
  | .destroyUser =>
    match s.activeUsers.getConnectedUserByFd r.fd with
    | none => .error .nullPointer
    | some sender => .ok ([], if sender.privilegeLevel = 0 then [r.fd] else [])
  | .createMessage =>
    match forwards s r.env header reply.token reply.forward with
    | .error f => .error f
    | .ok sent => .ok (sent, [])
  | .logout => .ok ([], [r.fd])
  | _ => .ok ([], [])

/-- The responder and what follows it, every write being successful (`Machine.deliver`). -/
def respond (k : RequestKind) (s : State) (r : Request) (header : ChatHeader)
    (rest : List UInt8) (reply : Reply) : Call :=
  if k = .createMessage ∧ reply.result = createMessageAck then ⟨s, rest, [], [], .ok 0⟩
  else match sendResponse k reply.result reply.token with
    | .error f => ⟨s, rest, [], [], .error f⟩
    | .ok body =>
      let direct := body.toList.map fun b => ⟨r.fd, false, responseHeader header b, b⟩
      match afterResponse k s r header reply with
      | .error f => ⟨s, rest, direct, [], .error f⟩
      | .ok (sent, closed) => ⟨s, rest, direct ++ sent, closed, .ok 0⟩

/-- A handler, which first reads the body into its buffer, and the rest of the branch. -/
def serve (k : RequestKind) (s : State) (r : Request) (header : ChatHeader) (rest : List UInt8) :
    Call :=
  let bytes := rest.take header.bodySize
  let rest := rest.drop header.bodySize
  if bytes.length > defaultBuffer then ⟨s, rest, [], [], .error .overflow⟩
  else
    let out := runHandler k s r header.bodySize bytes
    match out.value with
    | .error f => ⟨out.state, rest, [], [], .error f⟩
    | .ok reply => respond k out.state r header rest reply

/-- `handle_request` -/
def handleRequest (s : State) (r : Request) : Call :=
  match r.decode with
  | .stop ret rest => ⟨s, rest, [], [], ret⟩
  | .serve k header rest => serve k s r header rest

/-- The complete body with which a request reaches the handler of kind `k`. -/
def Request.bodyFor (r : Request) (k : RequestKind) : Option (List UInt8) :=
  match r.decode with
  | .stop _ _ => none
  | .serve k' header rest =>
    let bytes := rest.take header.bodySize
    if k' = k ∧ bytes.length ≤ defaultBuffer ∧ bodyIncomplete header.bodySize bytes = false then
      some bytes
    else none

theorem respond_state (k : RequestKind) (s : State) (r : Request) (header : ChatHeader)
    (rest : List UInt8) (reply : Reply) : (respond k s r header rest reply).state = s := by
  -- neither the responder nor what follows it writes a store
  rw [respond]
  split
  · rfl
  · split
    · rfl
    · dsimp only
      split <;> rfl

theorem respond_rest (k : RequestKind) (s : State) (r : Request) (header : ChatHeader)
    (rest : List UInt8) (reply : Reply) : (respond k s r header rest reply).rest = rest := by
  rw [respond]
  split
  · rfl
  · split
    · rfl
    · dsimp only
      split <;> rfl

/-- A call ends in a fault or with the responder. -/
theorem serve_cases (k : RequestKind) (s : State) (r : Request) (header : ChatHeader)
    (rest : List UInt8) :
    (∃ st f, serve k s r header rest = ⟨st, rest.drop header.bodySize, [], [], .error f⟩) ∨
      ∃ st reply, serve k s r header rest =
        respond k st r header (rest.drop header.bodySize) reply := by
  rw [serve]
  dsimp only
  split
  · exact Or.inl ⟨_, _, rfl⟩
  · split
    · exact Or.inl ⟨_, _, rfl⟩
    · exact Or.inr ⟨_, _, rfl⟩

/-- Every handler reads the body, whatever it makes of it. -/
theorem serve_rest (k : RequestKind) (s : State) (r : Request) (header : ChatHeader)
    (rest : List UInt8) : (serve k s r header rest).rest = rest.drop header.bodySize := by
  rcases serve_cases k s r header rest with ⟨st, f, h⟩ | ⟨st, reply, h⟩
  · rw [h]
  · rw [h, respond_rest]

/-- A call leaves the state that its handler left. -/
theorem serve_state (k : RequestKind) (s : State) (r : Request) (header : ChatHeader)
    (rest : List UInt8) (h : (rest.take header.bodySize).length ≤ defaultBuffer) :
    (serve k s r header rest).state =
      (runHandler k s r header.bodySize (rest.take header.bodySize)).state := by
  rw [serve]
  rw [if_neg (Nat.not_lt.mpr h)]
  dsimp only
  split
  · rfl
  · exact respond_state ..

section Calls

variable {k : RequestKind} {s : State} {r : Request} {header : ChatHeader} {rest : List UInt8}
  (hd : r.decode = .serve k header rest)
  (hlen : (rest.take header.bodySize).length ≤ defaultBuffer)
include hd hlen

theorem handleRequest_state : (handleRequest s r).state =
    (runHandler k s r header.bodySize (rest.take header.bodySize)).state := by
  rw [handleRequest, hd]
  exact serve_state k s r header rest hlen

/-- What a handler returns is sent on. -/
theorem handleRequest_of_reply {reply : Reply}
    (h : (runHandler k s r header.bodySize (rest.take header.bodySize)).value = .ok reply) :
    handleRequest s r =
      respond k (runHandler k s r header.bodySize (rest.take header.bodySize)).state r header
        (rest.drop header.bodySize) reply := by
  rw [handleRequest, hd]
  dsimp only
  rw [serve, if_neg (Nat.not_lt.mpr hlen)]
  dsimp only
  rw [h]

end Calls

end ChatServer
