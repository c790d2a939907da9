import ChatServer.Header

/-!
# Responders

The bodies that the nine `send_*_response` functions write. A responder writes a header that
echoes the request's version, type and object with the size of the new body, and
then the body. Five of them end in `assert(!"should not be here")` for a result they do not
know; the other four return without writing anything.
-/

namespace ChatServer

open CLib Wire

/-- The pairs of object and type that `handle_request` implements. -/
inductive RequestKind where
  | createUser | destroyUser | createChannel | readChannel | updateChannel
  | createMessage | readMessage | login | logout
  deriving DecidableEq

abbrev errorCreateUserDuplicateToken : Int := 1
abbrev errorCreateUserDuplicateDisplayName : Int := 2
abbrev errorCreateUserDuplicateAll : Int := 3
abbrev errorDestroyUserInvalidFields : Int := 1
abbrev errorDestroyUserNotExist : Int := 2
abbrev errorDestroyUserInvalidCredentials : Int := 3
abbrev errorLoginInvalidCredentials : Int := 1
abbrev errorLoginDoesNotExist : Int := 2
abbrev terminateAndRestablishConnection : Int := 9
abbrev errorLogoutInvalidFields : Int := 1
abbrev errorLogoutUserMismatchAddress : Int := 2
abbrev errorLogoutAdminUserNotExist : Int := 3
abbrev errorLogoutAdminUserNotOnline : Int := 4
abbrev errorInvalidRequest : Int := 1
abbrev errorChannelDoesNotExist : Int := 2
abbrev errorAdminDoesNotExist : Int := 3
abbrev errorUserDoesNotExist : Int := 4
abbrev successForwardReq : Int := 5
abbrev errorReadMessage206 : Int := 206
abbrev createMessageAck : Int := 69
abbrev errorDestroyAuth500 : Int := 500
-- ERROR_CREATE_CHANNEL_*, ERROR_READ_CHANNEL_* and ERROR_UPDATE_CHANNEL_* share their values
abbrev errorChannel400 : Int := 400
abbrev errorChannel403 : Int := 403
abbrev errorChannel404 : Int := 404
abbrev errorChannel409 : Int := 409
abbrev errorChannel500 : Int := 500

/-- The status, a separator and a text. -/
def status (code text : String) : Str := ascii code ++ etx :: ascii text

/-- A responder whose error bodies end with the token and whose last branch asserts. -/
def assertingBody (success : Str) (errors : List (Int × Str)) (result : Int) (token : Str) :
    Except Fault (Option Str) :=
  if result = 0 then .ok (some (success ++ token))
  else match errors.lookup result with
    | some text => .ok (some (text ++ token))
    | none => .error .shouldNotBeHere

/-- A responder whose error bodies start with the result itself and whose last branch returns
`-1` before anything is written. -/
def codedBody (success : Str) (errors : List (Int × Str)) (result : Int) (token : Str) :
    Except Fault (Option Str) :=
  if result = 0 then .ok (some (success ++ token))
  else match errors.lookup result with
    | some text => .ok (some (decimal result ++ etx :: text ++ [etx]))
    | none => .ok none

def sendCreateUserResponse (result : Int) (token : Str) : Except Fault (Option Str) :=
  if result = 0 then .ok (some (status "201" "" ++ token))
  else
    let errors := [(errorCreateUserDuplicateToken, ascii "Login Token was not unique"),
      (errorCreateUserDuplicateDisplayName, ascii "Display Name was not unique"),
      (errorCreateUserDuplicateAll, ascii "Login Token and Display name both were not unique")]
    match errors.lookup result with
    | some text => .ok (some (status "409" "" ++ decimal result ++ etx :: text))
    | none => .error .shouldNotBeHere

def sendDestroyUserResponse : Int → Str → Except Fault (Option Str) :=
  assertingBody (status "204" "")
    [(errorDestroyUserInvalidFields, status "400" "Invalid request fields"),
     (errorDestroyUserNotExist, status "404" "User does not exist"),
     (errorDestroyUserInvalidCredentials, status "403" "Invalid credentials")]

def sendLoginUserResponse : Int → Str → Except Fault (Option Str) :=
  assertingBody (status "200" "")
    [(errorLoginInvalidCredentials, status "403" "Login Token and password does not match"),
     (errorLoginDoesNotExist, status "400" "Invalid Login Token or password")]

/-- The only asserting responder with an error body that leaves the token out. -/
def sendLogoutUserResponse (result : Int) (token : Str) : Except Fault (Option Str) :=
  if result = errorDestroyAuth500 then .ok (some (status "500" "Internal server error" ++ [etx]))
  else assertingBody (status "200" "")
    [(errorLogoutInvalidFields, status "400" "Invalid fields provided"),
     (errorLogoutUserMismatchAddress,
       status "403" "Connection ip address does not match address in database"),
     (errorLogoutAdminUserNotExist, status "404" "User does not exist"),
     (errorLogoutAdminUserNotOnline, status "412" "User is not currently online"),
     (terminateAndRestablishConnection,
       status "333" "Account has been accessed on another device")] result token

def sendCreateChannelResponse : Int → Str → Except Fault (Option Str) :=
  codedBody (status "201" "")
    [(errorChannel400, ascii "Invalid request"), (errorChannel404, ascii "Display name NOT found"),
     (errorChannel409, ascii "Channel name is not unique"),
     (errorChannel403, ascii "Display name does not match"),
     (errorChannel500, ascii "Internal server error")]

def sendCreateMessageResponse : Int → Str → Except Fault (Option Str) :=
  assertingBody (status "201" "")
    [(errorInvalidRequest, status "400" "Invalid request"),
     (errorChannelDoesNotExist, status "404" "Channel does not exist"),
     (errorAdminDoesNotExist, status "404" "Referenced display name does not exist"),
     (errorUserDoesNotExist, status "403" "Referenced display name does not exist"),
     (successForwardReq, status "200" "")]

def sendReadChannelResponse : Int → Str → Except Fault (Option Str) :=
  codedBody (status "200" "")
    [(errorChannel400, ascii "Invalid request"), (errorChannel404, ascii "Channel name NOT found"),
     (errorChannel500, ascii "Internal server error")]

def sendUpdateChannelResponse : Int → Str → Except Fault (Option Str) :=
  codedBody (status "200" "")
    [(errorChannel400, ascii "Invalid request"),
     (errorChannel404, ascii "Channel name or user's display name NOT found"),
     (errorChannel500, ascii "Internal server error")]

def sendReadMessageResponse : Int → Str → Except Fault (Option Str) :=
  codedBody (status "200" "") [(errorReadMessage206, ascii "Invalid request")]

/-- The responder that `handle_request` calls with the result of a handler. -/
def sendResponse : RequestKind → Int → Str → Except Fault (Option Str)
  | .createUser => sendCreateUserResponse
  | .destroyUser => sendDestroyUserResponse
  | .createChannel => sendCreateChannelResponse
  | .readChannel => sendReadChannelResponse
  | .updateChannel => sendUpdateChannelResponse
  | .createMessage => sendCreateMessageResponse
  | .readMessage => sendReadMessageResponse
  | .login => sendLoginUserResponse
  | .logout => sendLogoutUserResponse

/-- The size of the array `body` of a responder. -/
def bodyCapacity : RequestKind → ℕ
  | .readChannel | .updateChannel => tempChannelInfoLength
  | .readMessage => maxMsgHistoryRes+200
  | _ => defaultBuffer

/-- The header of a response: the request's, with `uint16_t body_size = strlen(body)`. -/
def responseHeader (header : ChatHeader) (body : Str) : ChatHeader :=
  { header with bodySize := Fin.ofNat 65536 body.length }

/-- The two writes of a responder: the header and `body_size` bytes of the body. -/
def responseBytes (o : ByteOrder) (header : ChatHeader) (body : Str) : List UInt8 :=
  headerBytes o (responseHeader header body) ++ body.take (responseHeader header body).bodySize

/-- One call of a responder that wrote a response. -/
structure Response where
  kind : RequestKind
  header : ChatHeader
  result : Int
  token : Str
  body : Str
  written : sendResponse kind result token = .ok (some body)
  fits : body.length < bodyCapacity kind

theorem bodyCapacity_le (k : RequestKind) : bodyCapacity k ≤ 65536 := by
  cases k <;> decide

/-- A body that fits its array loses nothing in the conversion to `uint16_t`. -/
theorem Response.bodySize_eq (r : Response) :
    (responseHeader r.header r.body).bodySize.val = r.body.length := by
  have h := r.fits
  have hc := bodyCapacity_le r.kind
  simp only [responseHeader, Fin.val_ofNat]
  exact Nat.mod_eq_of_lt (by omega)

/-- The stream parser of a client: `read_header`, then `body_size` bytes, again and again. -/
def parseResponses (o : ByteOrder) (stream : List UInt8) : Option (List (ChatHeader × Str)) :=
  Wire.frames (fun bs => (readHeader o bs).toOption) (fun h => h.bodySize.val) stream.length stream

/-- The header survives encoding and decoding between any two hosts; and the concatenated
responses on one descriptor are parsed into exactly the responses that were written, each with
its echoed version, type and object, its whole body and the body's own length. -/
theorem response_round_trip (o o' : ByteOrder) :
    (∀ h : ChatHeader, readHeader o' (headerBytes o h) = .ok (h, [])) ∧
    ∀ rs : List Response,
      parseResponses o' (rs.flatMap fun r => responseBytes o r.header r.body) =
        some (rs.map fun r => (responseHeader r.header r.body, r.body)) ∧
      ∀ r ∈ rs, (responseHeader r.header r.body).version = r.header.version ∧
        (responseHeader r.header r.body).type = r.header.type ∧
        (responseHeader r.header r.body).object = r.header.object ∧
        (responseHeader r.header r.body).bodySize.val = r.body.length := by
  refine ⟨fun h => ?_, fun rs => ⟨?_, fun r _ => ⟨rfl, rfl, rfl, r.bodySize_eq⟩⟩⟩
  · simpa using readHeader_headerBytes o o' h []
  · have hbytes : (rs.flatMap fun r => responseBytes o r.header r.body) =
        (rs.map fun r => (responseHeader r.header r.body, r.body)).flatMap
          fun f => headerBytes o f.1 ++ f.2 := by
      rw [List.flatMap_map]
      congr 1
      funext r
      rw [responseBytes, r.bodySize_eq, List.take_length]
    rw [parseResponses, hbytes]
    refine Wire.frames_flatMap (headerBytes o) _ _ (headerBytes_ne_nil o) ?_ _ ?_ _
      (Wire.length_le_flatMap _ (headerBytes_ne_nil o) _)
    · intro h rest
      rw [readHeader_headerBytes]
      rfl
    · intro f hf
      obtain ⟨r, _, rfl⟩ := List.mem_map.mp hf
      exact r.bodySize_eq.symm

end ChatServer
