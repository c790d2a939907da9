import ChatServer.Dispatch
import ChatServer.Lib.Buffer

/-!
# What the arrays stand in

In `ChatServer.Handler` an array holds its string and nothing stands behind it. Here an array stands
in a record, in the cache or in the frame of a function, and the functions of the library read a
string up to the first zero: a string that fills its array is read on into whatever stands behind.
The structures are those of `my_ndbm.h` and `server.h`, member after member. The bytes behind an
array of a frame and behind a record are data of the machine, as are the room that `malloc` leaves
and the peers that are gone. Only the uuids, which `uuid_unparse` writes, always end in their
arrays.
-/

namespace ChatServer

open CLib

/-- The arrays of a frame that are read as strings. -/
inductive LocalArray where
  /-- `token`, in the frame of `handle_request` -/
  | token
  | loginToken | displayName | password | channelName | newChannelName | numOfMessages
  /-- the last row of `add_user_list` -/
  | addUserList
  deriving DecidableEq

structure Machine where
  /-- the bytes behind an array of a frame -/
  stack : LocalArray → List UInt8
  /-- the bytes behind a record -/
  heap : List UInt8
  /-- how many bytes can be written to what `malloc(n)` returns -/
  usable : ℕ → ℕ
  le_usable : ∀ n, n ≤ usable n
  /-- the peers that answer what is written to them with a reset -/
  reset : ℕ → Bool

/-- The string that is read from an array of a frame. -/
def Machine.read (m : Machine) (x : LocalArray) {n : ℕ} (a : CharArray n) : Str :=
  a.readOn (m.stack x)

/-- A `bool` in memory. -/
def boolByte (b : Bool) : UInt8 := if b then 1 else 0

namespace UserLogin

variable (l : UserLogin) (heap : List UInt8)

def passwordAt : Str := l.password.readOn (l.uuid.bytes ++ heap)

def tokenAt : Str := l.loginToken.readOn (l.password.bytes ++ l.uuid.bytes ++ heap)

end UserLogin

namespace UserAccount

variable (a : UserAccount) (heap : List UInt8)

def addrAt : Str := a.ipAddr.readOn (boolByte a.onlineStatus :: heap)

def nameAt : Str := a.displayName.readOn (a.ipAddr.bytes ++ boolByte a.onlineStatus :: heap)

end UserAccount

namespace ConnectedUser

variable (u : ConnectedUser)

/-- The byte behind the uuid aligns `privilege_level`. -/
def addrAt : Str := u.ipAddress.readOn (u.loginToken.bytes ++ u.uuid.bytes ++ [0])

def nameAt : Str :=
  u.dsplyName.readOn (u.ipAddress.bytes ++ u.loginToken.bytes ++ u.uuid.bytes ++ [0])

end ConnectedUser

/-- The names of a list, each one read on into the next row. -/
def readRows (behind : List UInt8) : List Name → List Str
  | [] => []
  | u :: us => u.readOn (us.flatMap CharArray.bytes ++ behind) :: readRows behind us

namespace ChannelInfo

variable (c : ChannelInfo) (heap : List UInt8)

/-- `channel_name` and `publicity`, and what stands behind the record. -/
def nameBytes : List UInt8 := c.channelName.bytes ++ boolByte c.publicity :: heap

def bannedBytes : List UInt8 := c.bannedList.slots.flatMap CharArray.bytes ++ c.nameBytes heap

def adminBytes : List UInt8 := c.adminList.slots.flatMap CharArray.bytes ++ c.bannedBytes heap

def userBytes : List UInt8 := c.userList.slots.flatMap CharArray.bytes ++ c.adminBytes heap

def nameAt : Str := c.channelName.readOn (boolByte c.publicity :: heap)

def creatorAt : Str := c.creator.readOn (c.userBytes heap)

def usersAt : List Str := readRows (c.adminBytes heap) c.userList.slots

def adminsAt : List Str := readRows (c.bannedBytes heap) c.adminList.slots

def bannedAt : List Str := readRows (c.nameBytes heap) c.bannedList.slots

end ChannelInfo

def MessageInfo.contentAt (m : MessageInfo) (heap : List UInt8) : Str :=
  m.messageContent.readOn (m.timeStamp.bytes ++ heap)

/-- Names with their terminators are read as they are. -/
theorem readRows_eq {us : List Name} (h : ∀ u ∈ us, u.Text) (behind : List UInt8) :
    readRows behind us = us.map (·.str) := by
  induction us with
  | nil => rfl
  | cons u us ih =>
    obtain ⟨hu, hus⟩ := List.forall_mem_cons.mp h
    rw [readRows, hu.readOn_eq, ih hus, List.map_cons]

namespace Machine

variable (m : Machine)

/-- `get_user_account_malloc_or_null`, which copies the size of a login record to an allocation of
the size of an account. -/
def getUserAccount (s : State) (userUuid : Uuid) : Except Fault (Option UserAccount) :=
  match s.getUserAccount userUuid with
  | none => .ok none
  | some account =>
    if m.usable sizeofUserAccount < sizeofUserLogin then .error .overflow else .ok (some account)

/-- What `malloc` leaves behind an account has room for the copy. -/
def Roomy : Prop := sizeofUserLogin ≤ m.usable sizeofUserAccount

instance : Decidable m.Roomy := inferInstanceAs (Decidable (_ ≤ _))

def getChannelInfo (s : State) (env : Env) (channelName : Str) : Option ChannelInfo :=
  (env.channelOrder.scan s.channelInfo).find? fun c => c.nameAt m.heap = channelName

def checkDuplicateChannelName (s : State) (env : Env) (channelName : Str) : Bool :=
  (m.getChannelInfo s env channelName).isSome

def checkIfUserInChannel (displayName : Str) (channel : ChannelInfo) : Bool :=
  (channel.usersAt m.heap).any fun u => !u.isEmpty && decide (displayName = u)

end Machine

end ChatServer
