import ChatServer.Invariant.Strings
import ChatServer.Lib.Buffer
import ChatServer.Lib.Table

/-!
# The viewers

Entry 2 of the menu prints the databases and entry 3 the sessions. Every record is cast to its
structure and every array is printed with `%s`, which reads on to the next zero byte wherever that
is.
-/

namespace ChatServer

open CLib Wire

/-- `%s` with a pointer to the byte `offset` of `mem`. -/
def stringAt (mem : List UInt8) (offset : ℕ) : Str := cstr (mem.drop offset)

theorem cstr_append_cons {s : Str} (h : 0 ∉ s) (t : List UInt8) : cstr (s ++ 0 :: t) = s := by
  have hs : ∀ b ∈ s, decide (b ≠ 0) = true := fun b hb => decide_eq_true fun h0 => h (h0 ▸ hb)
  rw [cstr, List.takeWhile_append_of_pos hs]
  simp

/-- From inside an array that holds a C string, `%s` prints the rest of the string. -/
theorem stringAt_bytes {n : ℕ} {a : CharArray n} (h : a.Text) (front back : List UInt8) {j : ℕ}
    (hj : j < n) : stringAt (front ++ (a.bytes ++ back)) (front.length+j) = a.str.drop j := by
  have hroom : n-a.str.length-(j-a.str.length) = n-a.str.length-(j-a.str.length)-1+1 := by
    have := h.short
    omega
  rw [stringAt, List.drop_length_add_append,
    List.drop_append_of_le_length (by rw [CharArray.length_bytes]; exact hj.le), CharArray.bytes,
    List.drop_append, List.drop_replicate, hroom, List.replicate_succ, List.append_assoc,
    List.cons_append]
  exact cstr_append_cons (fun hm => h.clean (List.mem_of_mem_drop hm)) _

/-- From its beginning, all of the string. -/
theorem stringAt_array {n : ℕ} {a : CharArray n} (h : a.Text) (front back : List UInt8) :
    stringAt (front ++ (a.bytes ++ back)) front.length = a.str :=
  stringAt_bytes h front back (j := 0) (Nat.zero_lt_of_lt h.short)

/-- The bytes of a `user_login_t`. -/
def UserLogin.image (l : UserLogin) : List UInt8 :=
  l.loginToken.bytes ++ (l.password.bytes ++ l.uuid.bytes)

/-- The bytes of a `user_account_t`, with the one in front of `privilege_level` that aligns it. -/
def UserAccount.image (o : ByteOrder) (a : UserAccount) : List UInt8 :=
  a.userId.bytes ++ (a.displayName.bytes ++ (a.ipAddr.bytes ++
    ([if a.onlineStatus then 1 else 0, 0] ++ storeWord o (a.privilegeLevel % 2^32).toNat)))

/-- The bytes of `char list[DEFAULT_LIST_SIZE][TOKEN_NAME_LENGTH]`. -/
def NameList.image (l : NameList) : List UInt8 := l.slots.flatMap CharArray.bytes

/-- The bytes of a `channel_info_t`. -/
def ChannelInfo.image (c : ChannelInfo) : List UInt8 :=
  c.channelId.bytes ++ (c.creator.bytes ++ (c.userList.image ++ (c.adminList.image ++
    (c.bannedList.image ++ (c.channelName.bytes ++ [if c.publicity then 1 else 0])))))

/-- The bytes of a `connected_user` up to the uuid; `rest` is what is behind it. -/
def ConnectedUser.image (o : ByteOrder) (rest : List UInt8) (u : ConnectedUser) : List UInt8 :=
  storeWord o u.fd ++ (u.dsplyName.bytes ++ (u.ipAddress.bytes ++ (u.loginToken.bytes ++
    (u.uuid.bytes ++ rest))))

/-- The orders in which the keys of the files are enumerated. -/
structure ViewOrder where
  accounts : KeyOrder Uuid UserAccount
  names : KeyOrder Name Uuid
  logins : KeyOrder Name UserLogin
  channels : KeyOrder Uuid ChannelInfo

namespace Viewer

/-- The loop over `dbm_firstkey` and `dbm_nextkey`, which fetches each key and prints what is
there. -/
def printAll {K V : Type} [DecidableEq K] (o : KeyOrder K V) (db : Dbm K V) (print : K → V → Str) :
    Str :=
  (o.keys db).flatMap fun k => ((db.lookup k).map (print k)).getD []

def printAllUserAccounts (o : KeyOrder Uuid UserAccount) (order : ByteOrder)
    (db : Dbm Uuid UserAccount) : Str :=
  printAll o db fun _ user => text [row [stringAt (user.image order) 0,
    stringAt (user.image order) uuidLen, stringAt (user.image order) (uuidLen+tokenNameLength),
    decimal (if user.onlineStatus then 1 else 0), decimal user.privilegeLevel]]

def printAllDisplayNames (o : KeyOrder Name Uuid) (db : Dbm Name Uuid) : Str :=
  printAll o db fun key data => text [row [stringAt key.bytes 0, stringAt data.bytes 0]]

def printAllLoginInfos (o : KeyOrder Name UserLogin) (db : Dbm Name UserLogin) : Str :=
  printAll o db fun _ user => text [row [stringAt user.image 0,
    stringAt user.image tokenNameLength, stringAt user.image (tokenNameLength+pswdMaxLength)]]

/-- The loop over a list of names at `offset`, which stops at an empty one. Behind the last one it
looks at one byte more, and stops. -/
def printNames (mem : List UInt8) : ℕ → ℕ → Str
  | _, 0 => []
  | offset, n+1 =>
    if mem.getD offset 0 = 0 then []
    else stringAt mem offset ++ ascii " " ++ printNames mem (offset+tokenNameLength) n

abbrev listSize : ℕ := defaultListSize*tokenNameLength

def printAllChannelInfos (o : KeyOrder Uuid ChannelInfo) (db : Dbm Uuid ChannelInfo) : Str :=
  printAll o db fun _ channel => text
    [row [stringAt channel.image (uuidLen+tokenNameLength+3*listSize),
        stringAt channel.image uuidLen, stringAt channel.image 0],
      ascii "user list: ", printNames channel.image (uuidLen+tokenNameLength) defaultListSize,
      ascii "admin list: ",
      printNames channel.image (uuidLen+tokenNameLength+listSize) defaultListSize]

/-- A file that does not exist is not opened, and nothing is printed of it. -/
def runDbViewer (o : ViewOrder) (order : ByteOrder) (s : State) : Str :=
  text [ascii "UserAccounts DB"] ++ printAllUserAccounts o.accounts order s.userAccountInfo ++
    text [[]] ++
  (text [ascii "DisplayNames DB"] ++ printAllDisplayNames o.names s.displayNames ++ text [[]]) ++
  (text [ascii "UserLoginInfo DB"] ++ printAllLoginInfos o.logins s.userLoginInfo ++ text [[]]) ++
  (text [ascii "ChannelInfo DB"] ++ printAllChannelInfos o.channels s.channelInfo ++ text [[]])

/-- Entry 3 of the menu. -/
def viewActiveUsers (order : ByteOrder) (rest : List UInt8) (cache : Cache) : Str :=
  if (cache.slots.headD .zero).named = false then text [ascii "There are no active users."]
  else
    text [[], ascii "Active user count: " ++ decimal cache.getNumConnectedUsers] ++
      (cache.slots.take cache.getNumConnectedUsers).flatMap fun u =>
        text [ascii "display_name: " ++ stringAt (u.image order rest) 4 ++ ascii ", fd: " ++
          decimal u.fd ++ ascii ", uuid: " ++
          stringAt (u.image order rest) (4+tokenNameLength+clntIpAddrLength+tokenNameLength) ++
          ascii ", privilege lvl: " ++ decimal u.privilegeLevel]

end Viewer

/-! What is to be seen of a record. -/

def UserAccount.columns (a : UserAccount) : List Str :=
  [a.userId.str, a.displayName.str, a.ipAddr.str, decimal (if a.onlineStatus then 1 else 0),
    decimal a.privilegeLevel]

def UserLogin.columns (l : UserLogin) : List Str := [l.loginToken.str, l.password.str, l.uuid.str]

def NameList.line (l : NameList) : Str := l.members.flatMap fun u => u.str ++ ascii " "

def ChannelInfo.lines (c : ChannelInfo) : List Str :=
  [row [c.channelName.str, c.creator.str, c.channelId.str], ascii "user list: ", c.userList.line,
    ascii "admin list: ", c.adminList.line]

def ConnectedUser.line (u : ConnectedUser) : Str :=
  ascii "display_name: " ++ u.dsplyName.str ++ ascii ", fd: " ++ decimal u.fd ++
    ascii ", uuid: " ++ u.uuid.str ++ ascii ", privilege lvl: " ++ decimal u.privilegeLevel

def State.sessionLines (s : State) : List Str :=
  match s.activeUsers.live with
  | [] => [ascii "There are no active users."]
  | u :: us => [] :: (ascii "Active user count: " ++ decimal (us.length+1)) ::
      (u :: us).map ConnectedUser.line

/-- The databases as lines of text, every string being the whole string of its field. -/
def State.listing (o : ViewOrder) (s : State) : List Str :=
  ascii "UserAccounts DB" ::
    ((o.accounts.entries s.userAccountInfo).map (fun e => row e.2.columns) ++ [] ::
  ascii "DisplayNames DB" ::
    ((o.names.entries s.displayNames).map (fun e => row [e.1.str, e.2.str]) ++ [] ::
  ascii "UserLoginInfo DB" ::
    ((o.logins.entries s.userLoginInfo).map (fun e => row e.2.columns) ++ [] ::
  ascii "ChannelInfo DB" ::
    ((o.channels.entries s.channelInfo).flatMap (fun e => e.2.lines) ++ [[]]))))

/-- C strings with a property that the strings of the program have. -/
def textual (P : Str → Prop) (h : P [] ∧ P (ascii "admin") ∧ P (ascii "global") ∧ P (ascii "0") ∧
    P adminUuid.str) : StringSpec where
  name a := a.Text ∧ P a.str
  password a := a.Text ∧ P a.str
  uuid a := a.Text ∧ P a.str
  addr a := a.Text ∧ P a.str
  content _ := True
  stamp _ := True
  name_empty := ⟨⟨by decide, by decide⟩, h.1⟩
  name_admin := ⟨⟨by decide, by decide⟩, h.2.1⟩
  name_global := ⟨⟨by decide, by decide⟩, h.2.2.1⟩
  password_admin := ⟨⟨by decide, by decide⟩, h.2.1⟩
  uuid_admin := ⟨⟨by decide, by decide⟩, h.2.2.2.2⟩
  addr_none := ⟨⟨by decide, by decide⟩, h.2.2.2.1⟩

section Fields

variable {P : Str → Prop} {hP : P [] ∧ P (ascii "admin") ∧ P (ascii "global") ∧ P (ascii "0") ∧
  P adminUuid.str}

theorem stringAt_account {a : UserAccount} (h : (textual P hP).Account a) (o : ByteOrder) :
    stringAt (a.image o) 0 = a.userId.str ∧ stringAt (a.image o) uuidLen = a.displayName.str ∧
      stringAt (a.image o) (uuidLen+tokenNameLength) = a.ipAddr.str := by
  refine ⟨stringAt_array h.id.1 [] _, ?_, ?_⟩
  · have := stringAt_array h.name.1 a.userId.bytes
    rw [CharArray.length_bytes] at this
    exact this _
  · have := stringAt_array h.addr.1 (a.userId.bytes ++ a.displayName.bytes)
    rw [List.length_append, CharArray.length_bytes, CharArray.length_bytes] at this
    rw [UserAccount.image, ← List.append_assoc]
    exact this _

theorem stringAt_login {l : UserLogin} (h : (textual P hP).Login l) :
    stringAt l.image 0 = l.loginToken.str ∧ stringAt l.image tokenNameLength = l.password.str ∧
      stringAt l.image (tokenNameLength+pswdMaxLength) = l.uuid.str := by
  refine ⟨stringAt_array h.token.1 [] _, ?_, ?_⟩
  · have := stringAt_array h.password.1 l.loginToken.bytes
    rw [CharArray.length_bytes] at this
    exact this _
  · have := stringAt_array h.uuid.1 (l.loginToken.bytes ++ l.password.bytes) []
    rw [List.length_append, CharArray.length_bytes, CharArray.length_bytes, List.append_nil] at this
    rw [UserLogin.image, ← List.append_assoc]
    exact this

/-- The loop over a list prints its members. -/
theorem printNames_slots {slots : List Name} (h : ∀ u ∈ slots, u.Text) (front back : List UInt8) :
    Viewer.printNames (front ++ (slots.flatMap CharArray.bytes ++ back)) front.length slots.length =
      (slots.takeWhile fun u => !u.isEmpty).flatMap fun u => u.str ++ ascii " " := by
  induction slots generalizing front with
  | nil => rfl
  | cons u slots ih =>
    obtain ⟨hu, hslots⟩ := List.forall_mem_cons.mp h
    have hhead : (front ++ ((u :: slots).flatMap CharArray.bytes ++ back)).getD front.length 0 =
        u.str.headD 0 := by
      rw [List.flatMap_cons, List.append_assoc, List.getD_append_right _ _ _ _ le_rfl,
        Nat.sub_self, hu.bytes_eq]
      cases u.str <;> rfl
    rw [List.length_cons, Viewer.printNames, hhead]
    by_cases hempty : u.isEmpty = true
    · rw [List.takeWhile_cons_of_neg (by simp [hempty]), if_pos]
      · rfl
      · rw [CharArray.isEmpty_iff.mp hempty]
        rfl
    · have hne : u.str.headD 0 ≠ 0 := by
        obtain ⟨b, s, hs⟩ := List.exists_cons_of_ne_nil
          (show u.str ≠ [] from fun hs => hempty (by rw [CharArray.isEmpty, hs]; rfl))
        rw [hs]
        intro h0
        exact hu.clean (by rw [hs, ← show b = 0 from h0]; exact List.mem_cons_self)
      have hnext := ih hslots (front ++ u.bytes)
      rw [List.length_append, CharArray.length_bytes, List.append_assoc] at hnext
      have hname : (!u.isEmpty) = true := by rw [Bool.eq_false_of_not_eq_true hempty]; rfl
      rw [List.takeWhile_cons_of_pos (p := fun u : Name => !u.isEmpty) hname, if_neg hne,
        List.flatMap_cons, List.flatMap_cons, List.append_assoc u.bytes, stringAt_array hu, hnext]

theorem NameList.length_image (l : NameList) : l.image.length = Viewer.listSize := by
  rw [image, List.length_flatMap, Viewer.listSize, ← l.size_eq]
  induction l.slots with
  | nil => rfl
  | cons u slots ih =>
    rw [List.map_cons, List.sum_cons, CharArray.length_bytes, ih, List.length_cons]
    ring

theorem printNames_list {l : NameList} (h : ∀ u ∈ l.slots, (textual P hP).name u)
    (front back : List UInt8) :
    Viewer.printNames (front ++ (l.image ++ back)) front.length defaultListSize = l.line := by
  have := printNames_slots (fun u hu => (h u hu).1) front back
  rw [l.size_eq] at this
  exact this

theorem lines_of_image {c : ChannelInfo} (h : (textual P hP).Channel c) :
    [row [stringAt c.image (uuidLen+tokenNameLength+3*Viewer.listSize), stringAt c.image uuidLen,
        stringAt c.image 0],
      ascii "user list: ",
      Viewer.printNames c.image (uuidLen+tokenNameLength) defaultListSize, ascii "admin list: ",
      Viewer.printNames c.image (uuidLen+tokenNameLength+Viewer.listSize) defaultListSize] =
        c.lines := by
  have hid : stringAt c.image 0 = c.channelId.str := stringAt_array h.id.1 [] _
  have hcreator : stringAt c.image uuidLen = c.creator.str := by
    have := stringAt_array h.creator.1 c.channelId.bytes
    rw [CharArray.length_bytes] at this
    exact this _
  have hname : stringAt c.image (uuidLen+tokenNameLength+3*Viewer.listSize) =
      c.channelName.str := by
    have := stringAt_array h.name.1 (c.channelId.bytes ++ (c.creator.bytes ++
      (c.userList.image ++ (c.adminList.image ++ c.bannedList.image))))
    simp only [List.length_append, CharArray.length_bytes, NameList.length_image,
      List.append_assoc] at this
    exact this _
  have husers : Viewer.printNames c.image (uuidLen+tokenNameLength) defaultListSize =
      c.userList.line := by
    have := printNames_list h.users (c.channelId.bytes ++ c.creator.bytes)
    simp only [List.length_append, CharArray.length_bytes, List.append_assoc] at this
    exact this _
  have hadmins : Viewer.printNames c.image (uuidLen+tokenNameLength+Viewer.listSize)
      defaultListSize = c.adminList.line := by
    have := printNames_list h.admins (c.channelId.bytes ++ (c.creator.bytes ++ c.userList.image))
    simp only [List.length_append, CharArray.length_bytes, NameList.length_image,
      List.append_assoc] at this
    exact this _
  rw [hid, hcreator, hname, husers, hadmins, ChannelInfo.lines]

end Fields

/-- A loop that prints the same lines for every entry prints these lines. -/
theorem printAll_eq {K V : Type} [DecidableEq K] {o : KeyOrder K V} {db : Dbm K V}
    {print : K → V → Str} {lines : K × V → List Str}
    (h : ∀ k v, db.lookup k = some v → print k v = text (lines (k, v))) :
    Viewer.printAll o db print = text ((o.entries db).flatMap lines) := by
  have hentries : ∀ e ∈ o.entries db, print e.1 e.2 = text (lines e) :=
    fun e he => h e.1 e.2 (KeyOrder.mem_entries.mp he)
  rw [Viewer.printAll, KeyOrder.flatMap_keys]
  generalize o.entries db = es at hentries
  induction es with
  | nil => rfl
  | cons e es ih =>
    obtain ⟨he, hes⟩ := List.forall_mem_cons.mp hentries
    rw [List.flatMap_cons, List.flatMap_cons, text_append, he, ih hes]

theorem printAllDisplayNames_eq {P : Str → Prop} {hP} {s : State} (h : (textual P hP).Holds s)
    {o : KeyOrder Name Uuid} : Viewer.printAllDisplayNames o s.displayNames =
      text ((o.entries s.displayNames).flatMap fun e => [row [e.1.str, e.2.str]]) := by
  refine printAll_eq fun k u hu => ?_
  have hkey := stringAt_array (h.names k u hu).1.1 [] []
  have hdata := stringAt_array (h.names k u hu).2.1 [] []
  simp only [List.nil_append, List.append_nil, List.length_nil] at hkey hdata
  rw [hkey, hdata]

/-- Where every string has its terminator, entry 2 of the menu shows the databases as they are. -/
theorem runDbViewer_eq {P : Str → Prop} {hP} {s : State} (h : (textual P hP).Holds s)
    (o : ViewOrder) (order : ByteOrder) :
    Viewer.runDbViewer o order s = text (s.listing o) := by
  have haccounts : Viewer.printAllUserAccounts o.accounts order s.userAccountInfo =
      text ((o.accounts.entries s.userAccountInfo).flatMap fun e => [row e.2.columns]) := by
    refine printAll_eq fun k a ha => ?_
    obtain ⟨h₁, h₂, h₃⟩ := stringAt_account (h.accounts k a ha).2 order
    rw [h₁, h₂, h₃]
    rfl
  have hlogins : Viewer.printAllLoginInfos o.logins s.userLoginInfo =
      text ((o.logins.entries s.userLoginInfo).flatMap fun e => [row e.2.columns]) := by
    refine printAll_eq fun k l hl => ?_
    obtain ⟨h₁, h₂, h₃⟩ := stringAt_login (h.logins k l hl).2
    rw [h₁, h₂, h₃]
    rfl
  have hchannels : Viewer.printAllChannelInfos o.channels s.channelInfo =
      text ((o.channels.entries s.channelInfo).flatMap fun e => e.2.lines) :=
    printAll_eq fun k c hc => by rw [lines_of_image (h.channels k c hc).2]
  rw [Viewer.runDbViewer, haccounts, printAllDisplayNames_eq h, hlogins, hchannels]
  simp only [State.listing, ← text_append, ← List.map_eq_flatMap, List.append_assoc,
    List.cons_append, List.nil_append]

/-- Entry 3 shows the sessions. -/
theorem viewActiveUsers_eq {P : Str → Prop} {hP} {s : State} (h : (textual P hP).Holds s)
    (order : ByteOrder) (rest : List UInt8) :
    Viewer.viewActiveUsers order rest s.activeUsers = text s.sessionLines := by
  have hline : ∀ u ∈ s.activeUsers.live, text [ascii "display_name: " ++
      stringAt (u.image order rest) 4 ++ ascii ", fd: " ++ decimal u.fd ++ ascii ", uuid: " ++
      stringAt (u.image order rest) (4+tokenNameLength+clntIpAddrLength+tokenNameLength) ++
      ascii ", privilege lvl: " ++ decimal u.privilegeLevel] = text [u.line] := by
    intro u hu
    have hfd : (storeWord order u.fd).length = 4 := by cases order <;> rfl
    have hname : stringAt (u.image order rest) 4 = u.dsplyName.str := by
      have := stringAt_array (h.sessions u hu).name.1 (storeWord order u.fd)
      rw [hfd] at this
      exact this _
    have huuid : stringAt (u.image order rest)
        (4+tokenNameLength+clntIpAddrLength+tokenNameLength) = u.uuid.str := by
      have := stringAt_array (h.sessions u hu).uuid.1 (storeWord order u.fd ++
        (u.dsplyName.bytes ++ (u.ipAddress.bytes ++ u.loginToken.bytes))) rest
      simp only [List.length_append, CharArray.length_bytes, hfd, List.append_assoc] at this
      exact this
    rw [hname, huuid, ConnectedUser.line]
  have hlive := s.activeUsers.live_eq
  rw [Viewer.viewActiveUsers, ← s.activeUsers.length_live, State.sessionLines]
  have htake : s.activeUsers.slots.take s.activeUsers.live.length = s.activeUsers.live := by
    rw [s.activeUsers.length_live]
    rfl
  rw [htake]
  cases hslots : s.activeUsers.slots with
  | nil =>
    rw [hslots] at hlive
    rw [hlive]
    rfl
  | cons v slots =>
    rw [hslots, Slots.live, List.takeWhile_cons] at hlive
    cases hv : v.named with
    | false =>
      rw [hv, if_neg Bool.false_ne_true] at hlive
      rw [hlive, List.headD_cons, if_pos hv]
    | true =>
      rw [hv, if_pos rfl] at hlive
      rw [hlive] at hline ⊢
      rw [List.flatMap_congr hline]
      simp only [List.headD_cons, hv, List.length_cons, text, List.flatMap_cons, List.flatMap_nil,
        List.append_nil, List.map_cons, List.flatMap_map, Bool.true_eq_false, if_false]
      rfl

/-- C strings without a comma and without an end of line. -/
abbrev tabular : StringSpec := textual (fun s => 44 ∉ s ∧ 10 ∉ s) (by decide)

section Tabular

variable {s s' : State}

theorem not_mem_decimal (n : ℤ) : 44 ∉ decimal n ∧ 10 ∉ decimal n := by
  constructor
  · intro h
    obtain h | h := mem_decimal h
    · exact absurd h (by decide)
    · exact absurd h (by decide)
  · intro h
    obtain h | h := mem_decimal h
    · exact absurd h (by decide)
    · exact absurd h (by decide)

theorem not_mem_row {cs : List Str} (h : ∀ c ∈ cs, 44 ∉ c ∧ 10 ∉ c) : 10 ∉ row cs := by
  intro hmem
  obtain h0 | h0 | ⟨c, hc, h0⟩ := mem_row hmem
  · exact absurd h0 (by decide)
  · exact absurd h0 (by decide)
  · exact (h c hc).2 h0

theorem tabular_account {a : UserAccount} (h : tabular.Account a) :
    ∀ c ∈ a.columns, 44 ∉ c ∧ 10 ∉ c := by
  rw [UserAccount.columns]
  simp only [List.forall_mem_cons]
  exact ⟨h.id.2, h.name.2, h.addr.2, not_mem_decimal _, not_mem_decimal _, nofun⟩

theorem tabular_login {l : UserLogin} (h : tabular.Login l) : ∀ c ∈ l.columns, 44 ∉ c ∧ 10 ∉ c := by
  rw [UserLogin.columns]
  simp only [List.forall_mem_cons]
  exact ⟨h.token.2, h.password.2, h.uuid.2, nofun⟩

theorem tabular_name {d : Name} {u : Uuid} (hd : tabular.name d) (hu : tabular.uuid u) :
    ∀ c ∈ [d.str, u.str], 44 ∉ c ∧ 10 ∉ c := by
  simp only [List.forall_mem_cons]
  exact ⟨hd.2, hu.2, nofun⟩

theorem not_mem_line {l : NameList} (h : ∀ u ∈ l.slots, tabular.name u) : 10 ∉ l.line := by
  intro hmem
  obtain ⟨u, hu, hmem⟩ := List.mem_flatMap.mp hmem
  obtain hmem | hmem := List.mem_append.mp hmem
  · exact (h u ((List.takeWhile_sublist _).subset hu)).2.2 hmem
  · exact absurd hmem (by decide)

@[simp] theorem UserAccount.length_columns (a : UserAccount) : a.columns.length = 5 := rfl

@[simp] theorem UserLogin.length_columns (l : UserLogin) : l.columns.length = 3 := rfl

/-- A row of two columns or more is no empty line. -/
theorem nil_not_mem_rows {α : Type} (es : List α) (f : α → List Str)
    (hf : ∀ e, 2 ≤ (f e).length) : [] ∉ es.map fun e => row (f e) := by
  intro hmem
  obtain ⟨e, _, h0⟩ := List.mem_map.mp hmem
  match hcols : f e, hf e with
  | c :: c' :: cs, _ =>
    rw [hcols] at h0
    exact row_ne_nil c c' cs h0

/-- The rows under one title of the listing, and the lines behind the empty one that ends them. -/
theorem sections_eq {α : Type} {f : α → List Str} (hf : ∀ e, 2 ≤ (f e).length) {t : Str}
    {es es' : List α} {rest rest' : List Str}
    (he : t :: (es.map (fun e => row (f e)) ++ [] :: rest) =
      t :: (es'.map (fun e => row (f e)) ++ [] :: rest')) :
    (es.map fun e => row (f e)) = (es'.map fun e => row (f e)) ∧ rest = rest' :=
  append_delimiter_inj (nil_not_mem_rows es f hf) (nil_not_mem_rows es' f hf)
    (List.cons_eq_cons.mp he).2

theorem UserAccount.eq_of_columns {a a' : UserAccount} (h : a.columns = a'.columns) : a = a' := by
  obtain ⟨id, name, addr, online, level⟩ := a
  obtain ⟨id', name', addr', online', level'⟩ := a'
  simp only [columns, List.cons.injEq, and_true] at h
  obtain ⟨h₁, h₂, h₃, h₄, h₅⟩ := h
  have honline : online = online' := by
    have := decimal_inj h₄
    cases online <;> cases online' <;> simp_all
  rw [CharArray.ext h₁, CharArray.ext h₂, CharArray.ext h₃, honline, decimal_inj h₅]

theorem UserLogin.eq_of_columns {l l' : UserLogin} (h : l.columns = l'.columns) : l = l' := by
  obtain ⟨token, password, uuid⟩ := l
  obtain ⟨token', password', uuid'⟩ := l'
  simp only [columns, List.cons.injEq, and_true] at h
  rw [CharArray.ext h.1, CharArray.ext h.2.1, CharArray.ext h.2.2]

theorem not_mem_listing (h : tabular.Holds s) (o : ViewOrder) : ∀ l ∈ s.listing o, 10 ∉ l := by
  have hkeys {K V : Type} [DecidableEq K] {e : K × V} {o : KeyOrder K V} {db : Dbm K V}
      (he : e ∈ o.entries db) : db.lookup e.1 = some e.2 := KeyOrder.mem_entries.mp he
  intro l hl
  simp only [State.listing, List.mem_cons, List.mem_append, List.mem_map, List.mem_flatMap,
    List.not_mem_nil, or_false] at hl
  obtain rfl | ⟨e, he, rfl⟩ | rfl | rfl | ⟨e, he, rfl⟩ | rfl | rfl | ⟨e, he, rfl⟩ | rfl | rfl |
    ⟨e, he, hl⟩ | rfl := hl
  · decide
  · exact not_mem_row (tabular_account (h.accounts _ _ (hkeys he)).2)
  · decide
  · decide
  · exact not_mem_row (tabular_name (h.names _ _ (hkeys he)).1 (h.names _ _ (hkeys he)).2)
  · decide
  · decide
  · exact not_mem_row (tabular_login (h.logins _ _ (hkeys he)).2)
  · decide
  · decide
  · have hc := (h.channels _ _ (hkeys he)).2
    simp only [ChannelInfo.lines, List.mem_cons, List.not_mem_nil, or_false] at hl
    obtain rfl | rfl | rfl | rfl | rfl := hl
    · refine not_mem_row ?_
      simp only [List.forall_mem_cons]
      exact ⟨hc.name.2, hc.creator.2, hc.id.2, nofun⟩
    · decide
    · exact not_mem_line hc.users
    · decide
    · exact not_mem_line hc.admins
  · decide

/-- The databases of the users can be told from the listing. -/
theorem users_of_listing (h : tabular.Holds s) (h' : tabular.Holds s') (hk : KeyedState s)
    (hk' : KeyedState s') {o o' : ViewOrder} (he : s.listing o = s'.listing o') :
    (∀ k, s.userAccountInfo.lookup k = s'.userAccountInfo.lookup k) ∧
    (∀ d, s.displayNames.lookup d = s'.displayNames.lookup d) ∧
    ∀ t, s.userLoginInfo.lookup t = s'.userLoginInfo.lookup t := by
  rw [State.listing, State.listing] at he
  obtain ⟨haccounts, he⟩ :=
    sections_eq (f := fun e : Uuid × UserAccount => e.2.columns) (fun _ => by simp) he
  obtain ⟨hnames, he⟩ :=
    sections_eq (f := fun e : Name × Uuid => [e.1.str, e.2.str]) (fun _ => by simp) he
  obtain ⟨hlogins, _⟩ :=
    sections_eq (f := fun e : Name × UserLogin => e.2.columns) (fun _ => by simp) he
  refine ⟨KeyOrder.lookup_eq_of_map_entries ?_ haccounts,
    KeyOrder.lookup_eq_of_map_entries ?_ hnames, KeyOrder.lookup_eq_of_map_entries ?_ hlogins⟩
  · rintro ⟨k, a⟩ hmem ⟨k', a'⟩ hmem' hrow
    have ha := KeyOrder.mem_entries.mp hmem
    have ha' := KeyOrder.mem_entries.mp hmem'
    have hcols : a.columns = a'.columns := row_inj rfl
      (fun c hc => (tabular_account (h.accounts k a ha).2 c hc).1)
      (fun c hc => (tabular_account (h'.accounts k' a' ha').2 c hc).1) hrow
    obtain rfl := UserAccount.eq_of_columns hcols
    rw [← hk.accounts k a ha, ← hk'.accounts k' a ha']
  · rintro ⟨d, u⟩ hmem ⟨d', u'⟩ hmem' hrow
    have hu := h.names d u (KeyOrder.mem_entries.mp hmem)
    have hu' := h'.names d' u' (KeyOrder.mem_entries.mp hmem')
    have hcols : [d.str, u.str] = [d'.str, u'.str] := row_inj rfl
      (fun c hc => (tabular_name hu.1 hu.2 c hc).1)
      (fun c hc => (tabular_name hu'.1 hu'.2 c hc).1) hrow
    simp only [List.cons.injEq, and_true] at hcols
    rw [CharArray.ext hcols.1, CharArray.ext hcols.2]
  · rintro ⟨t, l⟩ hmem ⟨t', l'⟩ hmem' hrow
    have hl := KeyOrder.mem_entries.mp hmem
    have hl' := KeyOrder.mem_entries.mp hmem'
    have hcols : l.columns = l'.columns := row_inj rfl
      (fun c hc => (tabular_login (h.logins t l hl).2 c hc).1)
      (fun c hc => (tabular_login (h'.logins t' l' hl').2 c hc).1) hrow
    obtain rfl := UserLogin.eq_of_columns hcols
    rw [← hk.logins t l hl, ← hk'.logins t' l hl']

end Tabular

/-- What a request brings, target by target. -/
theorem StringSpec.given_iff {F : StringSpec} {s : State} {r : Request} :
    F.Given s r ↔ F.uuid r.env.uuid ∧ F.addr r.clntAddr ∧
      (∀ x ∈ createUserTarget s r, F.name x.1 ∧ F.name x.2.1 ∧ F.password x.2.2) ∧
      (∀ c ∈ createChannelTarget s r, F.name c.channelName ∧ F.name c.creator) ∧
      (∀ u ∈ updateTarget s r, F.name u.newChannelName) ∧
      ∀ m ∈ createMessageTarget s r, F.content m.messageContent ∧ F.stamp m.timeStamp := by
  constructor
  · rintro ⟨h₁, h₂, h₃, h₄, h₅, h₆⟩
    exact ⟨h₁, h₂, fun x hx => h₃ x.1 x.2.1 x.2.2 hx, h₄, h₅, h₆⟩
  · rintro ⟨h₁, h₂, h₃, h₄, h₅, h₆⟩
    exact ⟨h₁, h₂, fun t d p hx => h₃ (t, d, p) hx, h₄, h₅, h₆⟩

instance {P : Str → Prop} [DecidablePred P] {hP} (s : State) (r : Request) :
    Decidable ((textual P hP).Given s r) := by
  refine @decidable_of_iff' _ _ StringSpec.given_iff ?_
  dsimp only [textual]
  infer_instance

instance {P : Str → Prop} [DecidablePred P] {hP} (s : State) :
    (e : LifeEvent) → Decidable ((textual P hP).GivenEvent s e)
  | .start _ env => inferInstanceAs (Decidable (env.uuid.Text ∧ P env.uuid.str))
  | .request r => inferInstanceAs (Decidable ((textual P hP).Given s r))

/-- bob is created and logs in. -/
def viewedLife : List LifeEvent :=
  [.start true Client.firstEnv,
    .request (Client.createUser 5 "10.0.0.1" "bobt" "bob" "pw"
      "22222222-2222-2222-2222-222222222222"),
    .request (Client.login 5 "10.0.0.1" "bobt" "pw")]

def Viewer.listed : ViewOrder := ⟨.listed _ _, .listed _ _, .listed _ _, .listed _ _⟩

/-- In every life in which only C strings are stored, entries 2 and 3 of the menu show the databases
and the sessions as they are, whatever the orders of the keys and the bytes. -/
theorem viewers_show_state (es : List LifeEvent)
    (h : Life.Along (textual (fun _ => True) (by simp)).GivenEvent Life.initial es)
    (o : ViewOrder) (order : ByteOrder) (rest : List UInt8) :
    Viewer.runDbViewer o order (Life.run es).state = text ((Life.run es).state.listing o) ∧
    Viewer.viewActiveUsers order rest (Life.run es).state.activeUsers =
      text (Life.run es).state.sessionLines :=
  ⟨runDbViewer_eq (StringSpec.holds_run h) o order,
    viewActiveUsers_eq (StringSpec.holds_run h) order rest⟩

theorem viewers_show_state_viewedLife :
    Viewer.runDbViewer Viewer.listed .little (Life.run viewedLife).state =
      text ((Life.run viewedLife).state.listing Viewer.listed) ∧
    Viewer.viewActiveUsers .little [] (Life.run viewedLife).state.activeUsers =
      text (Life.run viewedLife).state.sessionLines :=
  viewers_show_state viewedLife (by decide +kernel) Viewer.listed .little []

/-- Two servers that show the same text have the same accounts, display names and logins, passwords
included, if no string that was stored has a comma or an end of line in it. -/
theorem viewer_determines_users (es es' : List LifeEvent)
    (h : Life.Along tabular.GivenEvent Life.initial es)
    (h' : Life.Along tabular.GivenEvent Life.initial es') (o o' : ViewOrder)
    (order order' : ByteOrder)
    (he : Viewer.runDbViewer o order (Life.run es).state =
      Viewer.runDbViewer o' order' (Life.run es').state) :
    (∀ k, (Life.run es).state.userAccountInfo.lookup k =
      (Life.run es').state.userAccountInfo.lookup k) ∧
    (∀ d, (Life.run es).state.displayNames.lookup d =
      (Life.run es').state.displayNames.lookup d) ∧
    ∀ t, (Life.run es).state.userLoginInfo.lookup t =
      (Life.run es').state.userLoginInfo.lookup t := by
  have hs : tabular.Holds (Life.run es).state := StringSpec.holds_run h
  have hs' : tabular.Holds (Life.run es').state := StringSpec.holds_run h'
  rw [runDbViewer_eq hs, runDbViewer_eq hs'] at he
  exact users_of_listing hs hs' (Life.keyed_run es) (Life.keyed_run es')
    (text_inj (not_mem_listing hs o) (not_mem_listing hs' o') he)

/-- The same, and the start of another process. -/
def viewedLonger : List LifeEvent :=
  viewedLife ++ [.start true (Client.env "33333333-3333-3333-3333-333333333333")]

theorem viewer_determines_users_viewedLonger :
    (∀ k, (Life.run viewedLife).state.userAccountInfo.lookup k =
      (Life.run viewedLonger).state.userAccountInfo.lookup k) ∧
    (∀ d, (Life.run viewedLife).state.displayNames.lookup d =
      (Life.run viewedLonger).state.displayNames.lookup d) ∧
    ∀ t, (Life.run viewedLife).state.userLoginInfo.lookup t =
      (Life.run viewedLonger).state.userLoginInfo.lookup t :=
  viewer_determines_users viewedLife viewedLonger (by decide +kernel) (by decide +kernel)
    Viewer.listed Viewer.listed .little .big (by decide +kernel)

end ChatServer
