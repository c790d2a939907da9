import ChatServer.Cache
import ChatServer.Machine.Memory
import ChatServer.Lib.Run

/-!
# The session cache in memory

`active_users` as its bytes. A removal blanks one character of the last session, so what was
behind it stays in the array. Read as strings, the array is a `Cache` and the
calls are the ones of `Cache`, and the sessions of a `Cache` are a list to which an insertion
appends and from which a removal deletes the first session with the name.
-/

namespace ChatServer

open CLib

/-- The sizes of `dsply_name`, `ip_address`, `login_token` and `uuid`, with the byte that aligns
what stands behind them. -/
def sessionStrings : ℕ := tokenNameLength+clntIpAddrLength+tokenNameLength+uuidLen+1

/-- A `connected_user` as it lies in the array, its strings being members of one piece of memory. -/
structure SessionSlot where
  fd : ℕ
  strings : Chars sessionStrings
  privilegeLevel : Int
  deriving DecidableEq

namespace SessionSlot

def ipAddressAt : ℕ := tokenNameLength

def loginTokenAt : ℕ := ipAddressAt+clntIpAddrLength

def uuidAt : ℕ := loginTokenAt+tokenNameLength

/-- A session cleared by `memset`. -/
def zero : SessionSlot := ⟨0, .zero _, 0⟩

/-- `dsply_name[0] != '\0'` -/
def named (u : SessionSlot) : Bool := u.strings.bytes.head? ≠ some 0

/-- `dsply_name[0] = '\0'` -/
def blank (u : SessionSlot) : SessionSlot := { u with strings := u.strings.cut }

/-- The strings of the session. -/
def read (u : SessionSlot) : ConnectedUser where
  fd := u.fd
  dsplyName := u.strings.member 0 _
  ipAddress := u.strings.member ipAddressAt _
  loginToken := u.strings.member loginTokenAt _
  uuid := u.strings.member uuidAt _
  privilegeLevel := u.privilegeLevel

theorem read_zero : zero.read = .zero := by
  simp only [read, zero, Chars.member_zero, ConnectedUser.zero]

theorem read_blank (u : SessionSlot) : u.blank.read = u.read.blank := by
  have hip : 0 < ipAddressAt := by decide
  have htoken : 0 < loginTokenAt := by decide
  have huuid : 0 < uuidAt := by decide
  simp only [read, blank, Chars.member_cut_zero, Chars.member_cut _ hip, Chars.member_cut _ htoken,
    Chars.member_cut _ huuid, ConnectedUser.blank]

/-- The first character tells whether the name is empty. -/
theorem named_read (u : SessionSlot) : u.read.named = u.named := by
  have hsize := u.strings.size_eq
  rw [ConnectedUser.named, CharArray.isEmpty, named]
  change (!((cstr u.strings.bytes).take tokenNameLength).isEmpty) = _
  cases hb : u.strings.bytes with
  | nil => rw [hb] at hsize; cases hsize
  | cons c cs =>
    by_cases hc : c = 0
    · simp [cstr, hc]
    · simp [cstr, hc, tokenNameLength]

/-- `strcmp(cache[i].dsply_name, display_name) == 0` -/
def hasName (displayName : Str) (u : SessionSlot) : Bool := cstr u.strings.bytes = displayName

/-- The display name ends in its member. -/
def Ends (u : SessionSlot) : Prop := (cstr u.strings.bytes).length < tokenNameLength

theorem Ends.str_eq {u : SessionSlot} (h : u.Ends) : u.read.dsplyName.str = cstr u.strings.bytes :=
  List.take_of_length_le h.le

instance (u : SessionSlot) : Decidable u.Ends := inferInstanceAs (Decidable (_ < _))

theorem ends_zero : zero.Ends := by decide

theorem Ends.blank {u : SessionSlot} : u.blank.Ends := by
  show (cstr (u.strings.bytes.set 0 0)).length < tokenNameLength
  cases u.strings.bytes with
  | nil => decide
  | cons c cs => exact Nat.zero_lt_succ _

end SessionSlot

/-- `user_id`, which `uuid_unparse` has written. -/
def UserAccount.idAt (a : UserAccount) (heap : List UInt8) : Str :=
  a.userId.readOn (a.displayName.bytes ++ a.ipAddr.bytes ++ boolByte a.onlineStatus :: heap)

/-- The array `active_users`. -/
structure ActiveUsers where
  slots : List SessionSlot
  size_eq : slots.length = maxClients

namespace ActiveUsers

/-- The array that `main` clears. -/
def zero : ActiveUsers := ⟨List.replicate maxClients .zero, List.length_replicate⟩

/-- The loop of `get_num_connected_users`. -/
def countFrom : ℕ → List SessionSlot → ℕ
  | n, [] => n
  | n, u :: us =>
    if n ≤ maxClients ∧ u.named = false then n
    else if u.named then countFrom (n+1) us
    else countFrom n us

/-- `get_num_connected_users` -/
def getNumConnectedUsers (c : ActiveUsers) : ℕ := countFrom 0 c.slots

/-- The local `insert_user` of `insert_user_in_cache`, the strings of the records being read in the
machine and copied one after the other. -/
def insertUser (m : Machine) (fd : ℕ) (account : UserAccount) (login : UserLogin) :
    SessionSlot where
  fd := fd
  strings :=
    (((SessionSlot.zero.strings.strcpyAt 0 (account.nameAt m.heap)).strcpyAt
      SessionSlot.ipAddressAt (account.addrAt m.heap)).strcpyAt
      SessionSlot.uuidAt (account.idAt m.heap)).strcpyAt
      SessionSlot.loginTokenAt (login.tokenAt m.heap)
  privilegeLevel := account.privilegeLevel

/-- `insert_user_in_cache(.., num_active_users)`, the index being inside the array. -/
def insertUserInCache (c : ActiveUsers) (u : SessionSlot) (numActiveUsers : ℕ) : ActiveUsers :=
  ⟨c.slots.set numActiveUsers u, by rw [List.length_set, c.size_eq]⟩

/-- `remove_user_in_cache(.., num_active_users)` -/
def removeUserInCache (c : ActiveUsers) (displayName : Str) (numActiveUsers : ℕ) : ActiveUsers :=
  ⟨Slots.removeInPlace (SessionSlot.hasName displayName) SessionSlot.blank numActiveUsers c.slots,
    by rw [Slots.length_removeInPlace, c.size_eq]⟩

/-- `get_connected_user_by_display_name` -/
def getConnectedUserByDisplayName (c : ActiveUsers) (displayName : Str) : Option SessionSlot :=
  (c.slots.take c.getNumConnectedUsers).find? (SessionSlot.hasName displayName)

/-- `get_connected_user_by_fd` -/
def getConnectedUserByFd (c : ActiveUsers) (fd : ℕ) : Option SessionSlot :=
  (c.slots.take c.getNumConnectedUsers).find? fun u => u.fd = fd

/-- The array, read as strings, is the cache `d`, and its names end in their members. -/
structure Reads (c : ActiveUsers) (d : Cache) : Prop where
  slots_eq : c.slots.map SessionSlot.read = d.slots
  ends : ∀ u ∈ c.slots, u.Ends

theorem countFrom_map (n : ℕ) (us : List SessionSlot) :
    Cache.countFrom n (us.map SessionSlot.read) = countFrom n us := by
  induction us generalizing n with
  | nil => rfl
  | cons u us ih =>
    rw [List.map_cons, Cache.countFrom, countFrom, SessionSlot.named_read, ih, ih]

/-- Strings that end in their arrays are copied to members of their own. -/
theorem insertUser_bytes (m : Machine) (fd : ℕ) {account : UserAccount} {login : UserLogin}
    (hname : account.displayName.Text) (haddr : account.ipAddr.Text) (hid : account.userId.Text)
    (htoken : login.loginToken.Text) :
    (insertUser m fd account login).strings.bytes =
      account.displayName.bytes ++ account.ipAddr.bytes ++ login.loginToken.bytes ++
        account.userId.bytes ++ [0] := by
  have hzero : SessionSlot.zero.strings.bytes = [] ++ zeroed tokenNameLength ++
      (zeroed clntIpAddrLength ++ (zeroed tokenNameLength ++ (zeroed uuidLen ++ [0]))) := by
    decide
  have hdsply := Chars.bytes_strcpyAt (o := 0) hname hzero rfl
  have haddress := Chars.bytes_strcpyAt (p := account.displayName.bytes)
    (o := SessionSlot.ipAddressAt) haddr (hdsply.trans (by simp only [List.append_assoc]; rfl))
    account.displayName.length_bytes
  -- the uuid is copied before the login token that stands in front of it
  have huuid := Chars.bytes_strcpyAt
    (p := account.displayName.bytes ++ account.ipAddr.bytes ++ zeroed tokenNameLength)
    (q := [0]) (o := SessionSlot.uuidAt) hid
    (haddress.trans (by simp only [List.append_assoc])) (by
      simp only [List.length_append, CharArray.length_bytes, zeroed, List.length_replicate]
      rfl)
  have hlogin := Chars.bytes_strcpyAt (p := account.displayName.bytes ++ account.ipAddr.bytes)
    (q := account.userId.bytes ++ [0]) (o := SessionSlot.loginTokenAt) htoken
    (huuid.trans (by simp only [List.append_assoc])) (by
      simp only [List.length_append, CharArray.length_bytes]
      rfl)
  have hnameAt : account.nameAt m.heap = account.displayName.str := hname.readOn_eq _
  have haddrAt : account.addrAt m.heap = account.ipAddr.str := haddr.readOn_eq _
  have hidAt : account.idAt m.heap = account.userId.str := hid.readOn_eq _
  have htokenAt : login.tokenAt m.heap = login.loginToken.str := htoken.readOn_eq _
  simp only [insertUser, hnameAt, haddrAt, hidAt, htokenAt]
  rw [hlogin]
  simp only [List.append_assoc]

/-- The strings are read back. -/
theorem insertUser_read (m : Machine) (fd : ℕ) {account : UserAccount} {login : UserLogin}
    (hname : account.displayName.Text) (haddr : account.ipAddr.Text) (hid : account.userId.Text)
    (htoken : login.loginToken.Text) :
    (insertUser m fd account login).read = Cache.newSession fd account login := by
  have hbytes := insertUser_bytes m fd hname haddr hid htoken
  have hn := Chars.member_eq (p := []) (o := 0) hname (hbytes.trans (by
    simp only [List.append_assoc, List.nil_append]; rfl)) rfl
  have ha := Chars.member_eq (p := account.displayName.bytes) (o := SessionSlot.ipAddressAt) haddr
    (hbytes.trans (by simp only [List.append_assoc]; rfl)) account.displayName.length_bytes
  have ht := Chars.member_eq (p := account.displayName.bytes ++ account.ipAddr.bytes)
    (o := SessionSlot.loginTokenAt) htoken (hbytes.trans (by simp only [List.append_assoc]; rfl))
    (by simp only [List.length_append, CharArray.length_bytes]; rfl)
  have hu := Chars.member_eq
    (p := account.displayName.bytes ++ account.ipAddr.bytes ++ login.loginToken.bytes)
    (o := SessionSlot.uuidAt) hid hbytes
    (by simp only [List.length_append, CharArray.length_bytes]; rfl)
  simp only [SessionSlot.read, hn, ha, ht, hu]
  rfl

theorem insertUser_ends (m : Machine) (fd : ℕ) {account : UserAccount} {login : UserLogin}
    (hname : account.displayName.Text) (haddr : account.ipAddr.Text) (hid : account.userId.Text)
    (htoken : login.loginToken.Text) : (insertUser m fd account login).Ends := by
  rw [SessionSlot.Ends, insertUser_bytes m fd hname haddr hid htoken]
  have hread : cstr (account.displayName.bytes ++ (account.ipAddr.bytes ++
      (login.loginToken.bytes ++ (account.userId.bytes ++ [0])))) = account.displayName.str :=
    hname.readOn_eq _
  simp only [List.append_assoc]
  rw [hread]
  exact hname.short

section Reads

variable {c : ActiveUsers} {d : Cache} (h : c.Reads d)
include h

theorem Reads.getNumConnectedUsers_eq : c.getNumConnectedUsers = d.getNumConnectedUsers := by
  rw [getNumConnectedUsers, Cache.getNumConnectedUsers, ← h.slots_eq, countFrom_map]

theorem Reads.live_eq : (c.slots.take c.getNumConnectedUsers).map SessionSlot.read = d.live := by
  rw [Cache.live, ← h.slots_eq, List.map_take, h.getNumConnectedUsers_eq]

theorem Reads.insert {u : SessionSlot} (hends : u.Ends) {fd : ℕ} {account : UserAccount}
    {login : UserLogin} {d' : Cache} (hu : u.read = Cache.newSession fd account login)
    (hd : d.insertUserInCache fd account login = some d') :
    (c.insertUserInCache u c.getNumConnectedUsers).Reads d' where
  slots_eq := by
    rw [Cache.insertUserInCache] at hd
    split at hd
    · rw [← Option.some.inj hd]
      change (c.slots.set _ _).map _ = d.slots.set _ _
      rw [List.map_set, hu, h.getNumConnectedUsers_eq, h.slots_eq]
    · cases hd
  ends := by
    intro v hv
    obtain hv | rfl := List.mem_or_eq_of_mem_set hv
    · exact h.ends v hv
    · exact hends

theorem Reads.remove (displayName : Name) :
    (c.removeUserInCache displayName.str c.getNumConnectedUsers).Reads
      (d.removeUserInCache displayName) where
  slots_eq := by
    have hn : c.getNumConnectedUsers ≤ c.slots.length := by
      rw [h.getNumConnectedUsers_eq, c.size_eq]
      exact d.getNumConnectedUsers_le
    have hname : ∀ u ∈ c.slots.take c.getNumConnectedUsers, SessionSlot.hasName displayName.str u =
        decide (u.read.dsplyName = displayName) := by
      intro u hu
      have hstr := (h.ends u (List.mem_of_mem_take hu)).str_eq
      exact decide_eq_decide.mpr
        ⟨fun he => CharArray.ext (hstr.trans he),
          fun he => hstr.symm.trans (congrArg CharArray.str he)⟩
    change (Slots.removeInPlace _ _ _ _).map _ = Slots.removeFirst _ _ _ _
    rw [Slots.removeInPlace_eq _ _ hn, Slots.removeFirst_congr _ hname, ← h.slots_eq,
      ← h.getNumConnectedUsers_eq]
    refine Slots.map_removeFirst (f := SessionSlot.read) ?_ SessionSlot.read_blank _ _
    exact fun u => rfl
  ends := by
    have hn : c.getNumConnectedUsers ≤ c.slots.length := by
      rw [h.getNumConnectedUsers_eq, c.size_eq]
      exact d.getNumConnectedUsers_le
    intro u hu
    change u ∈ Slots.removeInPlace _ _ _ _ at hu
    rw [Slots.removeInPlace_eq _ _ hn] at hu
    obtain hu | ⟨v, -, rfl⟩ := Slots.mem_removeFirst hu
    · exact h.ends u hu
    · exact .blank

end Reads

/-- The sessions of the array in the order of the slots, the number of them, and the lookups are
those of a list. -/
structure Represents (c : ActiveUsers) (sessions : List ConnectedUser) : Prop where
  compact : ∀ i u, c.slots[i]? = some u → (u.named = true ↔ i < c.getNumConnectedUsers)
  count_eq : c.getNumConnectedUsers = c.slots.countP SessionSlot.named
  live_eq : (c.slots.filter SessionSlot.named).map SessionSlot.read = sessions
  byDisplayName_eq : ∀ displayName,
    (c.getConnectedUserByDisplayName displayName).map SessionSlot.read =
      sessions.find? fun u => u.dsplyName.str = displayName
  byFd_eq : ∀ fd,
    (c.getConnectedUserByFd fd).map SessionSlot.read = sessions.find? fun u => u.fd = fd

/-- An array that reads as a cache represents the live sessions of the cache. -/
theorem Reads.represents {c : ActiveUsers} {d : Cache} (h : c.Reads d) : c.Represents d.live := by
  have hnamed : ConnectedUser.named ∘ SessionSlot.read = SessionSlot.named :=
    funext SessionSlot.named_read
  have hfilter : (c.slots.filter SessionSlot.named).map SessionSlot.read = d.live := by
    rw [← hnamed, ← List.filter_map, h.slots_eq, d.compact.filter_eq, Cache.live_eq]
  refine ⟨?_, ?_, hfilter, ?_, ?_⟩
  · intro i u hu
    have hd : d.slots[i]? = some u.read := by rw [← h.slots_eq, List.getElem?_map, hu]; rfl
    rw [← SessionSlot.named_read, d.compact.getElem?_iff hd, h.getNumConnectedUsers_eq,
      Cache.getNumConnectedUsers_eq]
  · rw [List.countP_eq_length_filter, ← List.length_map (f := SessionSlot.read), hfilter,
      Cache.length_live, h.getNumConnectedUsers_eq]
  · intro displayName
    have hname : ∀ u ∈ c.slots.take c.getNumConnectedUsers, SessionSlot.hasName displayName u =
        decide (u.read.dsplyName.str = displayName) := by
      intro u hu
      rw [(h.ends u (List.mem_of_mem_take hu)).str_eq]
      rfl
    rw [← h.live_eq, List.find?_map, getConnectedUserByDisplayName, List.find?_congr hname]
    rfl
  · intro fd
    rw [← h.live_eq, List.find?_map]
    rfl

end ActiveUsers

/-- A call that changes the array, with the number of users the callers pass. -/
inductive CacheCall where
  | insert (fd : ℕ) (connectingUser : UserAccount) (loginInfo : UserLogin)
  | remove (connectingUser : UserAccount)

namespace CacheCall

/-- The call on the machine as it is at that time. -/
def step (c : ActiveUsers) (x : Machine × CacheCall) : ActiveUsers :=
  match x.2 with
  | insert fd account login =>
    c.insertUserInCache (ActiveUsers.insertUser x.1 fd account login) c.getNumConnectedUsers
  | remove account => c.removeUserInCache (account.nameAt x.1.heap) c.getNumConnectedUsers

/-- What the call does to the list of sessions. -/
def onList (sessions : List ConnectedUser) : CacheCall → List ConnectedUser
  | insert fd account login => sessions ++ [Cache.newSession fd account login]
  | remove account => sessions.eraseP fun u => u.dsplyName = account.displayName

/-- An insertion has a name that is not empty, and happens while fewer than `MAX_CLIENTS` sessions
are live. -/
def HasRoom (c : ActiveUsers) : CacheCall → Prop
  | insert _ account _ =>
    account.displayName.isEmpty = false ∧ c.slots.countP SessionSlot.named < maxClients
  | remove _ => True

instance (c : ActiveUsers) (call : CacheCall) : Decidable (call.HasRoom c) :=
  match call with
  | insert _ _ _ => inferInstanceAs (Decidable (_ ∧ _))
  | remove _ => isTrue trivial

/-- The strings of the call end in their arrays. -/
def Ends : CacheCall → Prop
  | insert _ account login =>
    account.displayName.Text ∧ account.ipAddr.Text ∧ account.userId.Text ∧ login.loginToken.Text
  | remove account => account.displayName.Text

instance (call : CacheCall) : Decidable call.Ends :=
  match call with
  | insert _ _ _ => inferInstanceAs (Decidable (_ ∧ _ ∧ _ ∧ _))
  | remove _ => inferInstanceAs (Decidable (CharArray.Text _))

/-- The step lemma: a cache that the array reads as, before and after the call. -/
theorem step_reads {c : ActiveUsers} {d : Cache} (h : c.Reads d) (m : Machine) (call : CacheCall)
    (hroom : call.HasRoom c) (hends : call.Ends) :
    ∃ d', (step c (m, call)).Reads d' ∧ d'.live = call.onList d.live := by
  cases call with
  | insert fd account login =>
    obtain ⟨hname, haddr, hid, htoken⟩ := hends
    have hlt : d.getNumConnectedUsers < maxClients := by
      rw [← h.getNumConnectedUsers_eq, h.represents.count_eq]
      exact hroom.2
    obtain ⟨d', hd⟩ : ∃ d', d.insertUserInCache fd account login = some d' := by
      rw [Cache.insertUserInCache, if_pos hlt]
      exact ⟨_, rfl⟩
    have hread := ActiveUsers.insertUser_read m fd hname haddr hid htoken
    exact ⟨d', h.insert (ActiveUsers.insertUser_ends m fd hname haddr hid htoken) hread hd,
      Cache.live_insertUserInCache hroom.1 hd⟩
  | remove account =>
    have hnameAt : account.nameAt m.heap = account.displayName.str := hends.readOn_eq _
    refine ⟨d.removeUserInCache account.displayName, ?_, d.live_removeUserInCache _⟩
    change (c.removeUserInCache (account.nameAt m.heap) _).Reads _
    rw [hnameAt]
    exact h.remove account.displayName

/-- The run lemma. -/
theorem run_reads {c : ActiveUsers} {d : Cache} (h : c.Reads d) {calls : List (Machine × CacheCall)}
    (hcalls : Run.Along step (fun c x => x.2.HasRoom c ∧ x.2.Ends) c calls) :
    ∃ d', (Run.run step c calls).Reads d' ∧
      d'.live = Run.run onList d.live (calls.map Prod.snd) := by
  induction calls generalizing c d with
  | nil => exact ⟨d, h, rfl⟩
  | cons x calls ih =>
    obtain ⟨d₁, h₁, hlive₁⟩ := step_reads h x.1 x.2 hcalls.1.1 hcalls.1.2
    obtain ⟨d₂, h₂, hlive₂⟩ := ih h₁ hcalls.2
    exact ⟨d₂, h₂, by rw [hlive₂, hlive₁]; rfl⟩

end CacheCall

theorem ActiveUsers.zero_reads : ActiveUsers.zero.Reads .empty where
  slots_eq := by
    show (List.replicate maxClients SessionSlot.zero).map SessionSlot.read =
      List.replicate maxClients ConnectedUser.zero
    rw [List.map_replicate, SessionSlot.read_zero]
  ends := by
    intro u hu
    rw [List.eq_of_mem_replicate hu]
    exact SessionSlot.ends_zero

/-- After any calls on the cleared array, all of them with strings that end in their arrays, it
represents the list on which the same calls were made. -/
theorem cache_represents_list (calls : List (Machine × CacheCall))
    (hcalls : Run.Along CacheCall.step (fun c x => x.2.HasRoom c ∧ x.2.Ends) ActiveUsers.zero
      calls) :
    (Run.run CacheCall.step ActiveUsers.zero calls).Represents
      (Run.run CacheCall.onList [] (calls.map Prod.snd)) := by
  obtain ⟨d, hd, hlive⟩ := CacheCall.run_reads ActiveUsers.zero_reads hcalls
  have hempty : Cache.empty.live = [] := by decide
  rw [← hempty, ← hlive]
  exact hd.represents

/-- An account of the given name and address. -/
def accountOf (name addr : String) (onlineStatus : Bool) : UserAccount :=
  ⟨.empty _, CharArray.strncpy _ (ascii name), CharArray.strncpy _ (ascii addr), onlineStatus, 0⟩

def loginOf (token : String) : UserLogin := ⟨CharArray.strncpy _ (ascii token), .empty _, .empty _⟩

/-- A machine with zeros behind every array. -/
def zeroMachine : Machine := ⟨fun _ => [], [], id, fun _ => le_rfl, fun _ => false⟩

/-- Two sessions are opened and the first one of them is removed. -/
def twoArrivals : List (Machine × CacheCall) :=
  [(zeroMachine, .insert 5 (accountOf "bob" "10.0.0.1" true) (loginOf "bobt")),
    (zeroMachine, .insert 6 (accountOf "amy" "10.0.0.2" true) (loginOf "amyt")),
    (zeroMachine, .remove (accountOf "bob" "0" false))]

theorem cache_represents_twoArrivals :
    (Run.run CacheCall.onList [] (twoArrivals.map Prod.snd)).map (·.fd) = [6] ∧
      (Run.run CacheCall.step ActiveUsers.zero twoArrivals).Represents
        (Run.run CacheCall.onList [] (twoArrivals.map Prod.snd)) :=
  ⟨by decide, cache_represents_list twoArrivals
    (by decide +kernel)⟩

/-- A session with a name of 21 characters is opened, and removed with the account as it is written
back at the logout. -/
def longArrival : List (Machine × CacheCall) :=
  [(zeroMachine, .insert 5 (accountOf "wolfeschlegelsteinhau" "10.0.0.1" true) (loginOf "wolf")),
    (zeroMachine, .remove (accountOf "wolfeschlegelsteinhau" "0" false))]

/-- The name of the session goes on with one address, the name of the account with another one. -/
theorem cache_not_represents_list :
    ¬ ∀ calls, Run.Along CacheCall.step (fun c x => x.2.HasRoom c) ActiveUsers.zero calls →
      (Run.run CacheCall.step ActiveUsers.zero calls).Represents
        (Run.run CacheCall.onList [] (calls.map Prod.snd)) := by
  intro h
  have hlive := (h longArrival (by decide +kernel)).live_eq
  exact absurd hlive (by decide +kernel)

end ChatServer
