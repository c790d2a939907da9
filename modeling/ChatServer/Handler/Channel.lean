import ChatServer.Handler.Basic

/-!
# Creating, reading and updating channels
-/

namespace ChatServer

open CLib

/-- `read_and_create_channel` from the check of the sender's session on. -/
def storeNewChannel (s : State) (env : Env) (clntAddr : IpAddr) (channelName displayName : Name)
    (publicity : Bool) : Outcome :=
  match s.activeUsers.getDisplayNameInCache clntAddr displayName with
  | none => .reply s errorChannel500 []
  | some nameInCache =>
    if nameInCache = adminName ∧ s.checkDuplicateDisplayName displayName = false then
      .reply s errorChannel404 []
    else if nameInCache ≠ adminName ∧ displayName ≠ nameInCache then .reply s errorChannel403 []
    else if s.checkDuplicateChannelName env channelName then .reply s errorChannel409 []
    else
      .reply (s.insertChannelInfo (createChannel env.uuid channelName displayName publicity)) 0
        (channelName.str ++ [etx])

/-- `read_and_create_channel`. The third field is compared with "1" before it is tested for
`NULL`. -/
def readAndCreateChannel (s : State) (env : Env) (clntAddr : IpAddr) (bodySize : ℕ)
    (bytes : List UInt8) : Outcome :=
  if bodyIncomplete bodySize bytes then .reply s errorChannel500 []
  else match nextField tokenNameLength (fields bytes) with
    | .error f => .fault s f
    | .ok (_, []) => .reply s errorChannel400 []
    | .ok (channelName, ts) =>
      match nextField tokenNameLength ts with
      | .error f => .fault s f
      | .ok (_, []) => .fault s .nullPointer
      | .ok (displayName, publicity :: _) =>
        if publicity ≠ ascii "1" ∧ publicity.length ≠ 1 then .reply s errorChannel400 []
        else storeNewChannel s env clntAddr channelName displayName (publicity = ascii "1")

/-- One list of a channel in the serialised form: the number of names, then the last name
printed into the temporary buffer, every `sprintf` starting at its beginning. The names counted
are those of `list`, the names printed those of `printed`. -/
def serializeList (list printed : NameList) : Str :=
  let i := list.members.length
  let temp := match i with
    | 0 => []
    | j+1 => (printed.slots.getD j (.empty _)).str ++ [etx]
  decimal i ++ etx :: temp ++ if i = 0 then [etx] else []

/-- The fields in front of the lists. -/
def serializeChannel (c : ChannelInfo) : Str :=
  c.channelName.str ++ etx :: c.creator.str ++ etx :: decimal (if c.publicity then 1 else 0) ++
    [etx]

/-- `read_and_read_channel`; the banned list is printed from the admin list. -/
def readAndReadChannel (s : State) (env : Env) (bodySize : ℕ) (bytes : List UInt8) : Outcome :=
  if bodyIncomplete bodySize bytes then .reply s errorChannel500 []
  else match fields bytes with
    | [] => .reply s errorChannel400 []
    | t :: ts =>
      match nextField tokenNameLength (t :: ts) with
      | .error f => .fault s f
      | .ok (channelName, users :: admins :: banned :: _) =>
        match s.getChannelInfo env channelName with
        | none => .reply s errorChannel404 []
        | some c =>
          .reply s 0 (serializeChannel c ++
            (if users = ascii "1" then serializeList c.userList c.userList else []) ++
            (if admins = ascii "1" then serializeList c.adminList c.adminList else []) ++
            (if banned = ascii "1" then serializeList c.bannedList c.adminList else []))
      | .ok _ => .reply s errorChannel400 []

/-- How the parser of `read_and_update_channel` stops early: with a `return` of 400 or not at
all. -/
inductive ParseStop where
  | badRequest
  | fault (f : Fault)
  deriving DecidableEq

/-- `token = strtok(NULL, "\3")` and the return of 400 when there is none. -/
def requireToken : List Str → Except ParseStop (Str × List Str)
  | [] => .error .badRequest
  | t :: ts => .ok (t, ts)

/-- The loop that copies `n` names to a list, from slot `i` on. -/
def readNames : ℕ → ℕ → NameList → List Str → Except ParseStop (NameList × List Str)
  | 0, _, list, ts => .ok (list, ts)
  | _+1, _, _, [] => .error .badRequest
  | n+1, i, list, t :: ts =>
    if i < defaultListSize then readNames n (i+1) (list.set i (CharArray.strncpy _ t)) ts
    else .error (.fault .overflow)

/-- A count and as many names. -/
def readCountedNames (ts : List Str) : Except ParseStop (NameList × List Str) := do
  let (count, ts) ← requireToken ts
  readNames (strtolInt count).toNat 0 NameList.empty ts

/-- One of the three list changes of an update request. -/
structure Alteration where
  alter : UInt8
  add : NameList
  remove : NameList
  deriving DecidableEq

/-- The switch over an alteration digit, '3' falling through to '2'. The default case only
holds `assert("...")`, which never fails. -/
def readAlteration (ts : List Str) : Except ParseStop (Alteration × List Str) := do
  let (t, ts) ← requireToken ts
  if t.length > 1 then .error .badRequest
  else
    let alter := t.headD 0
    if alter = 49 then do
      let (add, ts) ← readCountedNames ts
      return (⟨alter, add, NameList.empty⟩, ts)
    else if alter = 51 then do
      let (add, ts) ← readCountedNames ts
      let (remove, ts) ← readCountedNames ts
      return (⟨alter, add, remove⟩, ts)
    else if alter = 50 then do
      let (remove, ts) ← readCountedNames ts
      return (⟨alter, NameList.empty, remove⟩, ts)
    else return (⟨alter, NameList.empty, NameList.empty⟩, ts)

/-- The variables that the parser of `read_and_update_channel` fills. -/
structure UpdateRequest where
  channelName : Name
  isChangeName : Bool
  newChannelName : Name
  isChangePublicity : Bool
  newPublicity : Bool
  users : Alteration
  admins : Alteration
  banned : Alteration
  deriving DecidableEq

/-- A flag and, if it is "1", the value behind it. -/
def readFlagged (ts : List Str) : Except ParseStop (Option Str × List Str) := do
  let (flag, ts) ← requireToken ts
  if flag = ascii "1" then do
    let (value, ts) ← requireToken ts
    return (some value, ts)
  else return (none, ts)

/-- The parser of `read_and_update_channel`. -/
def parseUpdate (ts : List Str) : Except ParseStop UpdateRequest := do
  let (t, ts) ← requireToken ts
  match CharArray.strncpyLen? tokenNameLength t with
  | none => .error (.fault .overflow)
  | some channelName =>
    let (newName, ts) ← readFlagged ts
    let (publicity, ts) ← readFlagged ts
    let (users, ts) ← readAlteration ts
    let (admins, ts) ← readAlteration ts
    let (banned, ts) ← readAlteration ts
    if ts ≠ [] then .error .badRequest
    else
      return { channelName := channelName
               isChangeName := newName.isSome
               newChannelName := CharArray.strncpy _ (newName.getD [])
               isChangePublicity := publicity.isSome
               newPublicity := publicity = some (ascii "1")
               users := users, admins := admins, banned := banned }

/-- The six loops that look every listed display name up. -/
def namesRegistered (s : State) (r : UpdateRequest) : Bool :=
  [r.users.add, r.users.remove, r.admins.add, r.admins.remove, r.banned.add, r.banned.remove].all
    fun l => l.members.all fun u => s.checkDuplicateDisplayName u

/-- The second half of `read_and_update_channel`: the two store operations, of which only the
first runs when it fails, and the lookup by the new name that ends the request. -/
def applyUpdate (s : State) (env : Env) (r : UpdateRequest) : Outcome :=
  let renamed := if r.isChangeName || r.isChangePublicity then
      s.updateChannelNameAndPublicity env r.channelName r.newChannelName r.newPublicity
    else some s
  match renamed with
  | none => .reply s errorChannel500 []
  | some s =>
    let added := if r.users.alter ≠ 48 then s.addUsersOnChannel env r.channelName r.users.add
      else some s
    match added with
    | none => .reply s errorChannel500 []
    | some s =>
      match s.getChannelInfo env (if r.isChangeName then r.newChannelName else r.channelName) with
      | none => .reply s errorChannel500 []
      | some c =>
        .reply s 0 (serializeChannel c ++ serializeList c.userList c.userList ++
          serializeList c.adminList c.adminList ++ serializeList c.bannedList c.bannedList)

/-- `read_and_update_channel` -/
def readAndUpdateChannel (s : State) (env : Env) (bodySize : ℕ) (bytes : List UInt8) : Outcome :=
  if bodyIncomplete bodySize bytes then .reply s errorChannel500 []
  else match parseUpdate (fields bytes) with
    | .error .badRequest => .reply s errorChannel400 []
    | .error (.fault f) => .fault s f
    | .ok r =>
      if (s.getChannelInfo env r.channelName).isNone then .reply s errorChannel404 []
      else if namesRegistered s r = false then .reply s errorChannel404 []
      else applyUpdate s env r

/-- What a request to update a channel comes to: it is turned down and changes nothing, or it passes
all checks and the update is applied. -/
theorem readAndUpdateChannel_cases (s : State) (env : Env) (n : ℕ) (bytes : List UInt8) :
    ((readAndUpdateChannel s env n bytes).state = s ∧
      ∀ reply, (readAndUpdateChannel s env n bytes).value = .ok reply → reply.result ≠ 0) ∨
    bodyIncomplete n bytes = false ∧ ∃ u c, parseUpdate (fields bytes) = .ok u ∧
      s.getChannelInfo env u.channelName = some c ∧ namesRegistered s u = true ∧
      readAndUpdateChannel s env n bytes = applyUpdate s env u := by
  rw [readAndUpdateChannel]
  cases hn : bodyIncomplete n bytes with
  | true => exact Or.inl ⟨rfl, fun _ h => by cases h; decide⟩
  | false =>
    rw [if_neg Bool.false_ne_true]
    cases hu : parseUpdate (fields bytes) with
    | error e =>
      cases e with
      | badRequest => exact Or.inl ⟨rfl, fun _ h => by cases h; decide⟩
      | fault f => exact Or.inl ⟨rfl, fun _ h => by cases h⟩
    | ok u =>
      dsimp only
      cases hc : s.getChannelInfo env u.channelName with
      | none =>
        rw [if_pos Option.isNone_none]
        exact Or.inl ⟨rfl, fun _ h => by cases h; decide⟩
      | some c =>
        rw [if_neg (by simp)]
        cases hreg : namesRegistered s u with
        | false => exact Or.inl ⟨rfl, fun _ h => by cases h; decide⟩
        | true => exact Or.inr ⟨rfl, u, c, rfl, hc, hreg, rfl⟩

end ChatServer
