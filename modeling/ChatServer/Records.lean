import ChatServer.Lib.CString
import ChatServer.Lib.Dbm

/-!
# Records of the chat server

The array sizes and structures of `my_ndbm.h` and `server.h`. Every character array is
zero behind its string, because each one is cleared or filled by a padding
`strncpy` before it is stored. `access_time` of a session is only printed and is left out.
-/

namespace ChatServer

open CLib

abbrev tokenNameLength : ℕ := 21
abbrev bigTokenNameLength : ℕ := 4096
abbrev pswdMaxLength : ℕ := 31
abbrev uuidLen : ℕ := 37
abbrev clntIpAddrLength : ℕ := 16
abbrev defaultListSize : ℕ := 64
abbrev timestampSize : ℕ := 32
abbrev maxMessageSize : ℕ := 974
abbrev maxMsgHistoryRes : ℕ := 8192
abbrev defaultBuffer : ℕ := 1024
abbrev maxClients : ℕ := 255
abbrev tempChannelInfoLength : ℕ := 8192

/-- `sizeof(user_login_t)` -/
abbrev sizeofUserLogin : ℕ := tokenNameLength+pswdMaxLength+uuidLen

/-- `sizeof(user_account_t)`: three arrays, a `bool`, and an `int` at the next multiple of four. -/
abbrev sizeofUserAccount : ℕ := (uuidLen+tokenNameLength+clntIpAddrLength+1+3)/4*4+4

/-- Login tokens, display names and channel names (`DSPLY_NAME_LENGTH` is
`TOKEN_NAME_LENGTH`). -/
abbrev Name := CharArray tokenNameLength
abbrev Password := CharArray pswdMaxLength
abbrev Uuid := CharArray uuidLen
abbrev IpAddr := CharArray clntIpAddrLength

/-- `user_login_t` -/
structure UserLogin where
  loginToken : Name
  password : Password
  uuid : Uuid
  deriving DecidableEq

/-- `user_account_t` -/
structure UserAccount where
  userId : Uuid
  displayName : Name
  ipAddr : IpAddr
  onlineStatus : Bool
  privilegeLevel : Int
  deriving DecidableEq

/-- `char list[DEFAULT_LIST_SIZE][TOKEN_NAME_LENGTH]` -/
structure NameList where
  slots : List Name
  size_eq : slots.length = defaultListSize
  deriving DecidableEq

namespace NameList

/-- The list after `memset(list, 0, sizeof(list))`. -/
def empty : NameList := ⟨List.replicate defaultListSize (CharArray.empty _), List.length_replicate⟩

/-- `strncpy(list[i], name, TOKEN_NAME_LENGTH)` -/
def set (l : NameList) (i : ℕ) (name : Name) : NameList :=
  ⟨l.slots.set i name, by rw [List.length_set, l.size_eq]⟩

/-- The names before the first empty slot, where every loop over a list stops. -/
def members (l : NameList) : List Name := l.slots.takeWhile fun u => !u.isEmpty

/-- A list holds a name if some slot does, and the empty name is no name. -/
def Holds (l : NameList) (name : Name) : Prop := name ∈ l.slots ∧ name.isEmpty = false

instance (l : NameList) (name : Name) : Decidable (l.Holds name) :=
  inferInstanceAs (Decidable (_ ∧ _))

theorem not_holds_empty (name : Name) : ¬ empty.Holds name := by
  rintro ⟨hm, hn⟩
  rw [List.eq_of_mem_replicate hm] at hn
  simp [CharArray.isEmpty, CharArray.empty] at hn

/-- Writing one slot adds at most the name written. -/
theorem holds_set {l : NameList} {i : ℕ} {name u : Name} (h : (l.set i name).Holds u) :
    l.Holds u ∨ u = name := by
  rcases List.mem_or_eq_of_mem_set h.1 with hm | rfl
  · exact Or.inl ⟨hm, h.2⟩
  · exact Or.inr rfl

end NameList

/-- `channel_info_t` -/
structure ChannelInfo where
  channelId : Uuid
  creator : Name
  userList : NameList
  adminList : NameList
  bannedList : NameList
  channelName : Name
  publicity : Bool
  deriving DecidableEq

/-- `message_info_t` -/
structure MessageInfo where
  messageId : Uuid
  userId : Uuid
  channelId : Uuid
  messageContent : CharArray maxMessageSize
  timeStamp : CharArray timestampSize
  deriving DecidableEq

/-- `connected_user` -/
structure ConnectedUser where
  fd : ℕ
  dsplyName : Name
  ipAddress : IpAddr
  loginToken : Name
  uuid : Uuid
  privilegeLevel : Int
  deriving DecidableEq

/-- Why a call did not return: a failed `assert`, the `assert(!"should not be here")`
of a responder or of the dispatch, the use of a `NULL` pointer, a write behind
the end of an array, or the `SIGPIPE` of a write to a connection that its peer has reset. -/
inductive Fault where
  | assertFailed | shouldNotBeHere | nullPointer | overflow | brokenPipe
  deriving DecidableEq

def etx : UInt8 := 3

def adminName : Name := CharArray.strncpy _ (ascii "admin")

def adminUuid : Uuid := CharArray.strncpy _ (ascii "00000000-0000-0000-0000-000000000000")

end ChatServer
