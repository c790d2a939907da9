import ChatServer.Invariant.CStrings
import ChatServer.Machine.Handlers

/-!
# Handlers that find terminators

In a state whose strings end in their arrays, a request whose strings do so is served by the machine
as by the handlers of `ChatServer.Handler`, whatever stands behind the arrays. The only thing that
is left of the machine is its allocator: where it leaves no room behind an account, the first
account that a handler fetches stops the process.
-/

namespace ChatServer

open CLib

theorem KeyOrder.holds_scan {κ ν : Type} [DecidableEq κ] {o : KeyOrder κ ν} {d : Dbm κ ν}
    {P : κ → ν → Prop} (h : d.All P) {v : ν} (hv : v ∈ o.scan d) : ∃ k, P k v := by
  obtain ⟨k, hk⟩ := KeyOrder.mem_scan.mp hv
  exact ⟨k, h k v hk⟩

section Records

variable (heap : List UInt8)

@[simp] theorem UserLogin.passwordAt_eq {l : UserLogin} (h : cStrings.Login l) :
    l.passwordAt heap = l.password.str := h.password.readOn_eq _

@[simp] theorem UserLogin.tokenAt_eq {l : UserLogin} (h : cStrings.Login l) :
    l.tokenAt heap = l.loginToken.str := h.token.readOn_eq _

@[simp] theorem UserAccount.addrAt_eq {a : UserAccount} (h : cStrings.Account a) :
    a.addrAt heap = a.ipAddr.str := h.addr.readOn_eq _

@[simp] theorem UserAccount.nameAt_eq {a : UserAccount} (h : cStrings.Account a) :
    a.nameAt heap = a.displayName.str := h.name.readOn_eq _

@[simp] theorem ConnectedUser.addrAt_eq {u : ConnectedUser} (h : cStrings.Session u) :
    u.addrAt = u.ipAddress.str := h.addr.readOn_eq _

@[simp] theorem ConnectedUser.nameAt_eq {u : ConnectedUser} (h : cStrings.Session u) :
    u.nameAt = u.dsplyName.str := h.name.readOn_eq _

@[simp] theorem ChannelInfo.nameAt_eq {c : ChannelInfo} (h : cStrings.Channel c) :
    c.nameAt heap = c.channelName.str := h.name.readOn_eq _

@[simp] theorem ChannelInfo.creatorAt_eq {c : ChannelInfo} (h : cStrings.Channel c) :
    c.creatorAt heap = c.creator.str := h.creator.readOn_eq _

@[simp] theorem ChannelInfo.usersAt_eq {c : ChannelInfo} (h : cStrings.Channel c) :
    c.usersAt heap = c.userList.slots.map (·.str) := readRows_eq h.users _

@[simp] theorem ChannelInfo.adminsAt_eq {c : ChannelInfo} (h : cStrings.Channel c) :
    c.adminsAt heap = c.adminList.slots.map (·.str) := readRows_eq h.admins _

@[simp] theorem ChannelInfo.bannedAt_eq {c : ChannelInfo} (h : cStrings.Channel c) :
    c.bannedAt heap = c.bannedList.slots.map (·.str) := readRows_eq h.banned _

@[simp] theorem MessageInfo.contentAt_eq {x : MessageInfo} (h : cStrings.Message x) :
    x.contentAt heap = x.messageContent.str := h.content.readOn_eq _

end Records

namespace Machine

variable (m : Machine) {s : State} {env : Env}

@[simp] theorem read_eq (x : LocalArray) {n : ℕ} {a : CharArray n} (h : a.Text) :
    m.read x a = a.str := h.readOn_eq _

@[simp] theorem tokenOut_eq {a : Name} (h : a.Text) : m.tokenOut a = a.str := h.readOn_eq _

section Lookups

/-- A channel that is found is read as the name that was looked for. -/
theorem nameAt_of_getChannelInfo {name : Str} {c : ChannelInfo}
    (hc : m.getChannelInfo s env name = some c) : c.nameAt m.heap = name := by
  simpa using List.find?_some hc

variable (hs : cStrings.Holds s)
include hs

theorem channel_of_scan {c : ChannelInfo} (hc : c ∈ env.channelOrder.scan s.channelInfo) :
    cStrings.Channel c := by
  obtain ⟨k, _, h⟩ := KeyOrder.holds_scan hs.channels hc
  exact h

theorem channel_of_getChannelInfo {a : Name} {c : ChannelInfo}
    (hc : s.getChannelInfo env a = some c) : cStrings.Channel c :=
  channel_of_scan hs (List.mem_of_find?_eq_some hc)

/-- A channel is found by the string of an array. -/
theorem getChannelInfo_eq (a : Name) : m.getChannelInfo s env a.str = s.getChannelInfo env a := by
  rw [getChannelInfo, State.getChannelInfo]
  refine List.find?_congr fun c hc => ?_
  rw [ChannelInfo.nameAt_eq m.heap (channel_of_scan hs hc)]
  exact decide_eq_decide.mpr CharArray.ext_iff.symm

theorem checkDuplicateChannelName_eq (a : Name) :
    m.checkDuplicateChannelName s env a.str = s.checkDuplicateChannelName env a := by
  rw [checkDuplicateChannelName, m.getChannelInfo_eq hs]
  rfl

/-- Sessions are found by what is compared with their strings. -/
theorem find?_live {p q : ConnectedUser → Bool}
    (h : ∀ u, cStrings.Session u → p u = q u) :
    s.activeUsers.live.find? p = s.activeUsers.live.find? q :=
  List.find?_congr fun u hu => h u (hs.sessions u hu)

theorem any_live {p q : ConnectedUser → Bool} (h : ∀ u, cStrings.Session u → p u = q u) :
    s.activeUsers.live.any p = s.activeUsers.live.any q := by
  rw [Bool.eq_iff_iff, List.any_eq_true, List.any_eq_true]
  refine exists_congr fun u => and_congr_right fun hu => ?_
  rw [h u (hs.sessions u hu)]

theorem getConnectedUserByDisplayName_eq (a : Name) :
    getConnectedUserByDisplayName s.activeUsers a.str =
      s.activeUsers.getConnectedUserByDisplayName a := by
  refine find?_live hs fun u hu => ?_
  rw [ConnectedUser.nameAt_eq hu]
  exact decide_eq_decide.mpr CharArray.ext_iff.symm

theorem getDisplayNameInCache_eq {addr : IpAddr} (a : Name) :
    getDisplayNameInCache s.activeUsers addr a.str =
      s.activeUsers.getDisplayNameInCache addr a := by
  rw [getDisplayNameInCache, Cache.getDisplayNameInCache]
  congr 1
  refine find?_live hs fun u hu => ?_
  rw [ConnectedUser.nameAt_eq hu, ConnectedUser.addrAt_eq hu]
  exact decide_eq_decide.mpr (and_congr CharArray.ext_iff.symm CharArray.ext_iff.symm)

end Lookups

/-- An account is fetched where there is room for it. -/
theorem getUserAccount_eq {u : Uuid} (h : m.Roomy ∨ s.getUserAccount u = none) :
    m.getUserAccount s u = .ok (s.getUserAccount u) := by
  rw [getUserAccount]
  cases hu : s.getUserAccount u with
  | none => rfl
  | some a => exact if_neg (Nat.not_lt.mpr (h.resolve_right (by simp [hu])))

theorem getUserAccount_tight (h : ¬ m.Roomy) {u : Uuid} {a : UserAccount}
    (ha : s.getUserAccount u = some a) : m.getUserAccount s u = .error .overflow := by
  rw [getUserAccount, ha]
  exact if_pos (Nat.not_le.mp h)

section Fields

variable {bytes : List UInt8}

/-- A field that leaves room for a terminator is a C string in its array. -/
theorem text_of_mem {n : ℕ} {a : CharArray n} (hmem : a.str ∈ fields bytes)
    (hlen : a.str.length < n) : a.Text :=
  ⟨zero_not_mem_field hmem, hlen⟩

end Fields

/-! The account that a handler fetches first, if it gets so far. -/

section Fetched

variable (s) (r : Request)

def fetchedAccount (fs : List Str) : RequestKind → Option UserAccount
  | .destroyUser => do
    let (_, ts) ← field? tokenNameLength fs
    let (_, us) ← field? tokenNameLength ts
    let _ ← field? pswdMaxLength us
    let sender ← s.activeUsers.getConnectedUserByFd r.fd
    s.getUserAccount sender.uuid
  | .createMessage => do
    let (displayName, ts) ← field? tokenNameLength fs
    if displayName.str = ascii "200" then none
    else
      let (channelName, us) ← field? tokenNameLength ts
      let (_, vs) ← field? maxMessageSize us
      let _ ← vs.head?
      let _ ← s.getChannelInfo r.env channelName
      let user ← s.activeUsers.getConnectedUserByDisplayName displayName
      s.getUserAccount user.uuid
  | .readMessage => do
    let (channelName, ts) ← field? tokenNameLength fs
    let (numOfMessages, _) ← field? tokenNameLength ts
    if isNumber numOfMessages.str = false then none
    else
      let channel ← s.getChannelInfo r.env channelName
      let first ← (s.getAllMessages r.env).find? fun x => channel.channelId = x.channelId
      s.getUserAccount first.userId
  | .login => do
    let (loginToken, ts) ← field? tokenNameLength fs
    let (password, _) ← field? pswdMaxLength ts
    let login ← s.getLoginInfo loginToken
    if compareStrings login.password.str password.str = false ∨
        compareStrings login.loginToken.str loginToken.str = false then none
    else s.getUserAccount login.uuid
  | .logout => do
    let (displayName, _) ← field? tokenNameLength fs
    let uuid ← s.getUuidWithDisplayName displayName
    s.getUserAccount uuid
  | _ => none

end Fetched

section Handlers

variable {r : Request} {n : ℕ} {bytes : List UInt8}

theorem text_of_limits {k : RequestKind} {n c : ℕ} {a : CharArray n}
    (h : ∀ x ∈ limits (fields bytes) k, x.1.length ≤ x.2) (hmem : a.str ∈ fields bytes)
    (hlim : (a.str, c) ∈ limits (fields bytes) k) (hc : c < n) : a.Text :=
  text_of_mem hmem ((h _ hlim).trans_lt hc)

theorem field?_of_ok {n : ℕ} {ts us : List Str} {a : CharArray n}
    (h : nextField n ts = .ok (a, us)) : field? n ts = some (a, us) := by
  rw [field?, h]
  rfl

theorem readAndCreateUser_eq (h : ∀ x ∈ limits (fields bytes) .createUser, x.1.length ≤ x.2) :
    m.readAndCreateUser s env n bytes = ChatServer.readAndCreateUser s env n bytes := by
  rw [readAndCreateUser, ChatServer.readAndCreateUser]
  cases h₁ : nextField tokenNameLength (fields bytes) with
  | error f => rfl
  | ok x =>
    obtain ⟨t, ts⟩ := x
    have hfs := nextField_eq_ok.mp h₁
    have ht : t.Text := text_of_limits h (by simp [hfs]) (c := 20) (by simp [hfs, limits])
      (by decide)
    cases h₂ : nextField tokenNameLength ts with
    | error f =>
      simp only [bind, Except.bind, h₂]
    | ok y =>
      simp only [bind, Except.bind, pure, Except.pure, h₂, m.tokenOut_eq ht]
      all_goals rfl

/-- The two names of an update are fields of the body, or the new one is empty. -/
theorem text_of_parseUpdate (h : ∀ x ∈ limits (fields bytes) .updateChannel, x.1.length ≤ x.2)
    {u : UpdateRequest} (hu : parseUpdate (fields bytes) = .ok u) :
    u.channelName.Text ∧ u.newChannelName.Text := by
  obtain ⟨name, ts, newName, us₁, _, _, _, _, hfs, hlen, e₁, _, _, _, _, _, hnew⟩ :=
    parseUpdate_stages hu
  have hname := CharArray.strncpyLen?_eq_some.mp hlen
  have hlimits : ∀ t ∈ updateNames (fields bytes), t.length ≤ 20 := fun t ht =>
    h (t, 20) (List.mem_map_of_mem ht)
  constructor
  · refine text_of_mem (by rw [hname, hfs]; exact List.mem_cons_self) ?_
    rw [hname]
    exact Nat.lt_succ_of_le (hlimits name (by simp [hfs, updateNames]))
  · rw [hnew]
    cases newName with
    | none => exact cStrings.name_empty
    | some v =>
      rw [readFlagged_some e₁] at hfs
      have hv : v.length ≤ 20 := hlimits v (by simp [hfs, updateNames, flagName])
      have h0 : 0 ∉ v := zero_not_mem_field (by rw [hfs]; simp)
      exact ⟨fun hmem => h0 (List.mem_of_mem_take hmem),
        (List.length_take_le' _ _).trans_lt (Nat.lt_succ_of_le hv)⟩

theorem serializeList_eq (list : NameList) (printed : NameList) :
    serializeList list (printed.slots.map (·.str)) = ChatServer.serializeList list printed := by
  rw [serializeList, ChatServer.serializeList]
  cases list.members.length with
  | zero => rfl
  | succ j =>
    have hget : (printed.slots.map (·.str)).getD j [] = (printed.slots.getD j (.empty _)).str :=
      List.getD_map printed.slots (CharArray.empty _) (·.str)
    simp only [hget]

/-- A name is compared with the names in front of the first blank one. -/
theorem blankUser_eq (member : Name) {us : List Name}
    (h : ∀ u ∈ us.takeWhile (fun u => !u.isEmpty), u.Text) :
    m.blankUser member.str us = ChatServer.blankUser member us := by
  induction us with
  | nil => rfl
  | cons u us ih =>
    rw [blankUser, ChatServer.blankUser]
    cases hu : u.isEmpty with
    | true => rfl
    | false =>
      rw [List.takeWhile_cons_of_pos (by simp [hu])] at h
      obtain ⟨htext, hus⟩ := List.forall_mem_cons.mp h
      rw [htext.readOn_eq, ih hus]
      simp only [← CharArray.ext_iff]

/-- What is left in front of the first blank name was there. -/
theorem mem_blankUser (member : Name) {us : List Name} {u : Name}
    (h : u ∈ (ChatServer.blankUser member us).takeWhile fun u => !u.isEmpty) :
    u ∈ us.takeWhile fun u => !u.isEmpty := by
  induction us with
  | nil => exact h
  | cons x xs ih =>
    rw [ChatServer.blankUser] at h
    cases hx : x.isEmpty with
    | true =>
      rw [if_pos hx] at h
      exact h
    | false =>
      rw [if_neg (by simp [hx])] at h
      rw [List.takeWhile_cons_of_pos (by simp [hx])]
      split at h
      · cases h
      · rw [List.takeWhile_cons_of_pos (by simp [hx])] at h
        obtain rfl | h := List.mem_cons.mp h
        · exact List.mem_cons_self
        · exact List.mem_cons_of_mem x (ih h)

theorem foldl_blankUser_eq (members : List Name) {us : List Name}
    (h : ∀ u ∈ us.takeWhile (fun u => !u.isEmpty), u.Text) :
    (members.map (·.str)).foldl (fun us member => m.blankUser member us) us =
      members.foldl (fun us member => ChatServer.blankUser member us) us := by
  induction members generalizing us with
  | nil => rfl
  | cons x xs ih =>
    rw [List.map_cons, List.foldl_cons, List.foldl_cons, m.blankUser_eq x h]
    exact ih fun u hu => h u (mem_blankUser x hu)

theorem addUsers_eq {c : ChannelInfo} (hc : ∀ u ∈ c.userList.slots, u.Text) {users : NameList}
    (h : ∀ u ∈ users.members, u.Text) :
    m.addUsers c users = ChatServer.addUsers c.userList users := by
  have hmembers : ((c.usersAt m.heap).take c.userList.members.length) =
      c.userList.members.map (·.str) := by
    rw [ChannelInfo.usersAt, readRows_eq hc, ← List.map_take]
    exact congrArg _ (Slots.take_length_live (p := fun u : Name => !u.isEmpty) c.userList.slots)
  rw [addUsers, ChatServer.addUsers, hmembers, m.foldl_blankUser_eq _ h]

theorem messageListSize_eq {xs : List MessageInfo} (h : ∀ x ∈ xs, cStrings.Message x)
    (channelId : Uuid) :
    m.messageListSize channelId xs = ChatServer.messageListSize channelId xs := by
  rw [messageListSize, ChatServer.messageListSize]
  congr 2
  refine List.map_congr_left fun x hx => ?_
  rw [MessageInfo.contentAt_eq m.heap (h x (List.mem_filter.mp hx).1)]

theorem loginBody_eq {a : UserAccount} (ha : cStrings.Account a) {cs : List ChannelInfo}
    (hcs : ∀ c ∈ cs, cStrings.Channel c) : m.loginBody a cs = ChatServer.loginBody a cs := by
  have hlist : m.buildChannelNameList cs = ChatServer.buildChannelNameList cs :=
    List.flatMap_congr fun c hc => by rw [ChannelInfo.nameAt_eq m.heap (hcs c hc)]
  rw [loginBody, ChatServer.loginBody, hlist, m.read_eq _ ha.name]

theorem logoutRefused_eq {a : UserAccount} (ha : cStrings.Account a) (addr : IpAddr) :
    m.logoutRefused a addr = ChatServer.logoutRefused a addr := by
  rw [logoutRefused, ChatServer.logoutRefused, UserAccount.addrAt_eq m.heap ha]
  simp only [ne_eq, ← CharArray.ext_iff]

section Holds

variable (hs : cStrings.Holds s)
include hs

theorem invalidCredentials_eq {sender : ConnectedUser}
    (hsender : sender ∈ s.activeUsers.live) {d : Name} {p : Password} (hd : d.Text) (hp : p.Text)
    (account : Option UserAccount) :
    m.invalidCredentials sender (s.getLoginInfo sender.loginToken) account d p =
      ChatServer.invalidCredentials sender (s.getLoginInfo sender.loginToken) account d p := by
  cases hl : s.getLoginInfo sender.loginToken with
  | none =>
    simp only [invalidCredentials, ChatServer.invalidCredentials,
      ConnectedUser.nameAt_eq (hs.sessions _ hsender), m.read_eq _ hd, ← CharArray.ext_iff]
  | some login =>
    have hlogin := (hs.logins _ login hl).2
    simp only [invalidCredentials, ChatServer.invalidCredentials,
      ConnectedUser.nameAt_eq (hs.sessions _ hsender), m.read_eq _ hd,
      UserLogin.passwordAt_eq m.heap hlogin, m.read_eq _ hp, ← CharArray.ext_iff]
    all_goals cases account <;> rfl

theorem readAndDestroyUser_eq (h : ∀ x ∈ limits (fields bytes) .destroyUser, x.1.length ≤ x.2)
    (hn : bodyIncomplete n bytes = false)
    (hroom : m.Roomy ∨ fetchedAccount s r (fields bytes) .destroyUser = none) :
    m.readAndDestroyUser s r.fd n bytes = ChatServer.readAndDestroyUser s r.fd n bytes := by
  rw [readAndDestroyUser, ChatServer.readAndDestroyUser, if_neg (by simp [hn]),
    if_neg (by simp [hn])]
  cases hdest : destroyFields bytes with
  | error f => rfl
  | ok x =>
    obtain ⟨d, t, p⟩ := x
    obtain ⟨ts, us, vs, h₁, h₂, h₃⟩ := destroyFields_eq_ok.mp hdest
    obtain ⟨rest, hfs⟩ := destroyFields_iff_fields.mp hdest
    have hd : d.Text := text_of_limits h (by simp [hfs]) (c := 20) (by simp [hfs, limits])
      (by decide)
    have ht : t.Text := text_of_limits h (by simp [hfs]) (c := 20) (by simp [hfs, limits])
      (by decide)
    have hp : p.Text := text_of_limits h (by simp [hfs]) (c := 30) (by simp [hfs, limits])
      (by decide)
    dsimp only
    split
    · rfl
    · cases hsender : s.activeUsers.getConnectedUserByFd r.fd with
      | none => rfl
      | some sender =>
        have hacc : m.Roomy ∨ s.getUserAccount sender.uuid = none := by
          simpa [fetchedAccount, field?_of_ok h₁, field?_of_ok h₂, field?_of_ok h₃, hsender]
            using hroom
        have htoken : ¬ m.usable tokenNameLength ≤ (m.read .loginToken t).length := by
          rw [m.read_eq _ ht]
          exact Nat.not_le.mpr (ht.short.trans_le (m.le_usable _))
        have hdisplay := m.tokenOut_eq hd
        simp only [m.getUserAccount_eq hacc, if_neg htoken, m.invalidCredentials_eq hs
          (List.mem_of_find?_eq_some hsender) hd hp]
        cases s.getLoginInfo t with
        | none => rfl
        | some l =>
          simp only [removeUser, ChatServer.removeUser, hdisplay]
          all_goals rfl

theorem storeNewChannel_eq {addr : IpAddr} {c d : Name} (hc : c.Text) (hd : d.Text) (p : Bool) :
    m.storeNewChannel s env addr c d p = ChatServer.storeNewChannel s env addr c d p := by
  rw [storeNewChannel, ChatServer.storeNewChannel, m.read_eq _ hd, getDisplayNameInCache_eq hs]
  cases hfound : s.activeUsers.getDisplayNameInCache addr d with
  | none => rfl
  | some nameInCache =>
    obtain ⟨u, hu, rfl⟩ := Option.map_eq_some_iff.mp hfound
    have hname : u.dsplyName.Text := (hs.sessions u (List.mem_of_find?_eq_some hu)).name
    simp only [hname.readOn_eq, m.read_eq _ hc, m.checkDuplicateChannelName_eq hs, m.tokenOut_eq hc,
      ne_eq, ← CharArray.ext_iff]

theorem readAndCreateChannel_eq (h : ∀ x ∈ limits (fields bytes) .createChannel, x.1.length ≤ x.2)
    (addr : IpAddr) : m.readAndCreateChannel s env addr n bytes =
      ChatServer.readAndCreateChannel s env addr n bytes := by
  rw [readAndCreateChannel, ChatServer.readAndCreateChannel]
  split
  · rfl
  · cases h₁ : nextField tokenNameLength (fields bytes) with
    | error f => rfl
    | ok x =>
      obtain ⟨c, ts⟩ := x
      have hfs := nextField_eq_ok.mp h₁
      have hc : c.Text := text_of_limits h (by simp [hfs]) (c := 20) (by simp [hfs, limits])
        (by decide)
      cases ts with
      | nil => rfl
      | cons t ts =>
        dsimp only
        cases h₂ : nextField tokenNameLength (t :: ts) with
        | error f => rfl
        | ok y =>
          obtain ⟨d, us⟩ := y
          rw [nextField_eq_ok.mp h₂] at hfs
          have hd : d.Text := text_of_limits h (by simp [hfs]) (c := 20) (by simp [hfs, limits])
            (by decide)
          cases us with
          | nil => rfl
          | cons p us => simp only [m.storeNewChannel_eq hs hc hd]

theorem readAndReadChannel_eq (h : ∀ x ∈ limits (fields bytes) .readChannel, x.1.length ≤ x.2) :
    m.readAndReadChannel s env n bytes = ChatServer.readAndReadChannel s env n bytes := by
  rw [readAndReadChannel, ChatServer.readAndReadChannel]
  split
  · rfl
  · cases hfs : fields bytes with
    | nil => rfl
    | cons t ts =>
      dsimp only
      cases h₁ : nextField tokenNameLength (t :: ts) with
      | error f => rfl
      | ok x =>
        obtain ⟨c, us⟩ := x
        rw [nextField_eq_ok.mp h₁] at hfs
        have hc : c.Text := text_of_limits h (by simp [hfs]) (c := 20) (by simp [hfs, limits])
          (by decide)
        rcases us with _ | ⟨users, _ | ⟨admins, _ | ⟨banned, us⟩⟩⟩
        · rfl
        · rfl
        · rfl
        · simp only [m.read_eq _ hc, m.getChannelInfo_eq hs]
          cases hch : s.getChannelInfo env c with
          | none => rfl
          | some ch =>
            have htext := channel_of_getChannelInfo hs hch
            simp only [serializeChannel, ChatServer.serializeChannel, htext,
              ChannelInfo.nameAt_eq, ChannelInfo.creatorAt_eq, ChannelInfo.usersAt_eq,
              ChannelInfo.adminsAt_eq, serializeList_eq]

theorem updateChannelNameAndPublicity_eq {c : Name} (hc : c.Text) (new : Name) (p : Bool) :
    m.updateChannelNameAndPublicity s env c new p =
      s.updateChannelNameAndPublicity env c new p := by
  rw [updateChannelNameAndPublicity, State.updateChannelNameAndPublicity, m.read_eq _ hc,
    m.getChannelInfo_eq hs]

theorem addUsersOnChannel_eq {c : Name} (hc : c.Text) {users : NameList}
    (h : ∀ u ∈ users.members, u.Text) :
    m.addUsersOnChannel s env c users = s.addUsersOnChannel env c users := by
  rw [addUsersOnChannel, State.addUsersOnChannel, m.read_eq _ hc, m.getChannelInfo_eq hs]
  cases hch : s.getChannelInfo env c with
  | none => rfl
  | some ch =>
    rw [Option.map_some, Option.map_some, m.addUsers_eq (channel_of_getChannelInfo hs hch).users h]

/-- The two stores and the lookup that ends the request. -/
theorem applyUpdate_eq {u : UpdateRequest} (hname : u.channelName.Text)
    (hnew : u.newChannelName.Text) (hadd : ∀ x ∈ u.users.add.members, x.Text) :
    m.applyUpdate s env u = ChatServer.applyUpdate s env u := by
  have hrename : (if u.isChangeName || u.isChangePublicity then
      m.updateChannelNameAndPublicity s env u.channelName u.newChannelName u.newPublicity
      else some s) = renameStep s env u := by
    rw [renameStep, m.updateChannelNameAndPublicity_eq hs hname]
  have hplain : (if u.isChangeName || u.isChangePublicity then
      s.updateChannelNameAndPublicity env u.channelName u.newChannelName u.newPublicity
      else some s) = renameStep s env u := rfl
  rw [applyUpdate, ChatServer.applyUpdate]
  dsimp only
  rw [hrename, hplain]
  cases h₁ : renameStep s env u with
  | none => rfl
  | some s₁ =>
    have hs₁ : cStrings.Holds s₁ := hs.renameStep hnew h₁
    dsimp only
    rw [m.addUsersOnChannel_eq hs₁ hname hadd]
    cases h₂ : (if u.users.alter ≠ 48 then s₁.addUsersOnChannel env u.channelName u.users.add
        else some s₁) with
    | none => rfl
    | some s₂ =>
      have hs₂ : cStrings.Holds s₂ := hs₁.addStep hadd h₂
      have hlast : (if u.isChangeName then u.newChannelName else u.channelName).Text := by
        split
        · exact hnew
        · exact hname
      dsimp only
      rw [m.read_eq _ hlast, m.getChannelInfo_eq hs₂]
      cases hch : s₂.getChannelInfo env (if u.isChangeName then u.newChannelName
          else u.channelName) with
      | none => rfl
      | some c =>
        have htext := channel_of_getChannelInfo hs₂ hch
        simp only [serializeChannel, ChatServer.serializeChannel, htext,
          ChannelInfo.nameAt_eq, ChannelInfo.creatorAt_eq, ChannelInfo.usersAt_eq,
          ChannelInfo.adminsAt_eq, ChannelInfo.bannedAt_eq, serializeList_eq]

theorem readAndUpdateChannel_eq
    (h : ∀ x ∈ limits (fields bytes) .updateChannel, x.1.length ≤ x.2) :
    m.readAndUpdateChannel s env n bytes = ChatServer.readAndUpdateChannel s env n bytes := by
  rw [readAndUpdateChannel, ChatServer.readAndUpdateChannel]
  split
  · rfl
  · cases hu : parseUpdate (fields bytes) with
    | error e =>
      cases e with
      | badRequest => rfl
      | fault f => rfl
    | ok u =>
      obtain ⟨hname, hnew⟩ := text_of_parseUpdate h hu
      dsimp only
      rw [m.read_eq _ hname, m.getChannelInfo_eq hs]
      split
      · rfl
      · split
        · rfl
        · rename_i hreg
          refine m.applyUpdate_eq hs hname hnew fun x hx => ?_
          obtain ⟨v, hv⟩ := registered_of_namesRegistered (by simpa using hreg) hx
          exact (hs.names x v hv).1

theorem storeNewMessage_eq {d c : Name} (hd : d.Text) (hc : c.Text)
    (hroom : m.Roomy ∨ ∀ channel user, s.getChannelInfo env c = some channel →
      s.activeUsers.getConnectedUserByDisplayName d = some user →
      s.getUserAccount user.uuid = none) (content : Str) (stamp : CharArray timestampSize)
    (forward : Str) : m.storeNewMessage s env d c content stamp forward =
      ChatServer.storeNewMessage s env d c content stamp forward := by
  rw [storeNewMessage, ChatServer.storeNewMessage, m.read_eq _ hc, m.read_eq _ hd,
    m.getChannelInfo_eq hs, getConnectedUserByDisplayName_eq hs]
  simp only [m.tokenOut_eq hc]
  cases hch : s.getChannelInfo env c with
  | none => rfl
  | some channel =>
    dsimp only
    cases hu : s.activeUsers.getConnectedUserByDisplayName d with
    | none => rfl
    | some user =>
      dsimp only
      rw [m.getUserAccount_eq (hroom.imp_right fun h => h channel user hch hu)]
      cases s.getUserAccount user.uuid with
      | none => rfl
      | some a =>
        cases s.getLoginInfo user.loginToken with
        | none => rfl
        | some l => rfl

theorem readAndCreateMessage_eq
    (h : ∀ x ∈ limits (fields bytes) .createMessage, x.1.length ≤ x.2)
    (hn : bodyIncomplete n bytes = false)
    (hroom : m.Roomy ∨ fetchedAccount s r (fields bytes) .createMessage = none) :
    m.readAndCreateMessage s r.env n bytes = ChatServer.readAndCreateMessage s r.env n bytes := by
  rw [readAndCreateMessage, ChatServer.readAndCreateMessage, if_neg (by simp [hn]),
    if_neg (by simp [hn])]
  cases h₁ : nextField tokenNameLength (fields bytes) with
  | error f => rfl
  | ok x =>
    obtain ⟨d, ts⟩ := x
    have hfs := nextField_eq_ok.mp h₁
    dsimp only
    by_cases hack : d.str = ascii "200"
    · have hd : d.Text := ⟨zero_not_mem_field (by rw [hfs]; simp), by rw [hack]; decide⟩
      rw [m.read_eq _ hd, if_pos hack, if_pos hack]
    · have hlim : limits (fields bytes) .createMessage = (fields bytes).zip
          [tokenNameLength-1, tokenNameLength-1, maxMessageSize-1, timestampSize-1] := by
        rw [limits, if_neg (by simpa [hfs] using hack)]
      have hd : d.Text := text_of_limits h (by simp [hfs]) (c := 20)
        (by rw [hlim]; simp [hfs]) (by decide)
      rw [m.read_eq _ hd, if_neg hack, if_neg hack]
      cases h₂ : messageFields ts with
      | error f => rfl
      | ok y =>
        obtain ⟨c, content, stamp⟩ := y
        obtain ⟨us, t, rest, hc₁, hcontent, rfl⟩ := messageFields_eq_ok.mp h₂
        rw [nextField_eq_ok.mp hc₁] at hfs
        have hc : c.Text := text_of_limits h (by simp [hfs]) (c := 20)
          (by rw [hlim]; simp [hfs]) (by decide)
        dsimp only
        rw [m.tokenOut_eq hc]
        split
        · rfl
        · refine m.storeNewMessage_eq hs hd hc (hroom.imp_right fun hnone channel user hch hu => ?_)
            content.str _ _
          simpa [fetchedAccount, field?_of_ok h₁, hack, field?_of_ok hc₁, field?_of_ok hcontent,
            hch, hu] using hnone

theorem copyMessages_eq {xs : List MessageInfo} (h : ∀ x ∈ xs, cStrings.Message x)
    {channelId : Uuid} (hroom : m.Roomy ∨ ∀ x ∈ xs.find? (fun x => channelId = x.channelId),
      s.getUserAccount x.userId = none) (size : ℕ) (list : List UInt8) :
    m.copyMessages s channelId size list xs =
      ChatServer.copyMessages s channelId size list xs := by
  induction xs generalizing list with
  | nil => rfl
  | cons x xs ih =>
    obtain ⟨hx, hxs⟩ := List.forall_mem_cons.mp h
    rw [copyMessages, ChatServer.copyMessages]
    by_cases hid : channelId = x.channelId
    · rw [if_pos hid, if_pos hid,
        m.getUserAccount_eq (hroom.imp_right fun h => h x (by simp [hid]))]
      cases hu : s.getUserAccount x.userId with
      | none => rfl
      | some sender =>
        have hroom' : m.Roomy := hroom.resolve_right fun h => by
          rw [h x (by simp [hid])] at hu
          cases hu
        simp only [UserAccount.nameAt_eq m.heap (hs.accounts _ sender hu).2,
          MessageInfo.contentAt_eq m.heap hx, ih hxs (Or.inl hroom')]
    · rw [if_neg hid, if_neg hid]
      refine ih hxs (hroom.imp_right fun h y hy => h y ?_) list
      rwa [List.find?_cons_of_neg (by simpa using hid)]

theorem buildMessageList_eq {xs : List MessageInfo} (h : ∀ x ∈ xs, cStrings.Message x)
    {channel : Option ChannelInfo} (hroom : m.Roomy ∨ ∀ c ∈ channel,
      ∀ x ∈ xs.find? (fun x => c.channelId = x.channelId), s.getUserAccount x.userId = none) :
    m.buildMessageList s xs channel = ChatServer.buildMessageList s xs channel := by
  cases xs with
  | nil => cases channel <;> rfl
  | cons x xs =>
    cases channel with
    | none => rfl
    | some c =>
      simp only [buildMessageList, ChatServer.buildMessageList]
      rw [m.messageListSize_eq h, m.copyMessages_eq hs h (hroom.imp_right fun h => h c rfl)]

theorem message_of_scan {x : MessageInfo} (hx : x ∈ s.getAllMessages env) :
    cStrings.Message x := by
  obtain ⟨k, _, h⟩ := KeyOrder.holds_scan hs.messages hx
  exact h

theorem readAndReadMessage_eq (h : ∀ x ∈ limits (fields bytes) .readMessage, x.1.length ≤ x.2)
    (hnumber : ∀ t ∈ (fields bytes)[1]?, t.length < tokenNameLength)
    (hroom : m.Roomy ∨ fetchedAccount s r (fields bytes) .readMessage = none) :
    m.readAndReadMessage s r.env bytes = ChatServer.readAndReadMessage s r.env bytes := by
  rw [readAndReadMessage, ChatServer.readAndReadMessage]
  cases hread : readMessageFields bytes with
  | error f => rfl
  | ok x =>
    obtain ⟨c, number⟩ := x
    obtain ⟨rest, hfs⟩ := readMessageFields_eq_ok.mp hread
    have h₁ : nextField tokenNameLength (fields bytes) = .ok (c, number.str :: rest) :=
      nextField_eq_ok.mpr hfs
    have h₂ : nextField tokenNameLength (number.str :: rest) = .ok (number, rest) :=
      nextField_eq_ok.mpr rfl
    have hc : c.Text := text_of_limits h (by simp [hfs]) (c := 20) (by simp [hfs, limits])
      (by decide)
    have hnum : number.Text := ⟨zero_not_mem_field (by rw [hfs]; simp),
      hnumber number.str (by simp [hfs])⟩
    dsimp only
    rw [m.read_eq _ hnum, m.read_eq _ hc, m.getChannelInfo_eq hs]
    split
    · rfl
    · rename_i hdigits
      split
      · rfl
      · have hfetch : m.Roomy ∨ ∀ channel ∈ s.getChannelInfo r.env c,
            ∀ x ∈ (s.getAllMessages r.env).find? (fun x => channel.channelId = x.channelId),
              s.getUserAccount x.userId = none := by
          refine hroom.imp_right fun hnone channel hch first hfirst => ?_
          simpa [fetchedAccount, field?_of_ok h₁, field?_of_ok h₂, hdigits,
            Option.mem_def.mp hch, Option.mem_def.mp hfirst] using hnone
        rw [m.buildMessageList_eq hs (fun x hx => message_of_scan hs hx) hfetch]
        all_goals rfl

theorem loggedInElsewhere_eq {a : UserAccount} (ha : cStrings.Account a) (addr : IpAddr) :
    m.loggedInElsewhere s.activeUsers a addr =
      ChatServer.loggedInElsewhere s.activeUsers a addr := by
  refine any_live hs fun u hu => ?_
  rw [ConnectedUser.nameAt_eq hu, ConnectedUser.addrAt_eq hu, UserAccount.nameAt_eq m.heap ha]
  simp only [ne_eq, ← CharArray.ext_iff]

theorem findConnectedUserWithSameCred_eq {a : UserAccount} (ha : cStrings.Account a) (fd : ℕ) :
    m.findConnectedUserWithSameCred s.activeUsers a fd =
      s.activeUsers.findConnectedUserWithSameCred a fd := by
  refine any_live hs fun u hu => ?_
  rw [ConnectedUser.nameAt_eq hu, ConnectedUser.addrAt_eq hu, UserAccount.nameAt_eq m.heap ha,
    UserAccount.addrAt_eq m.heap ha]
  simp only [← CharArray.ext_iff]

theorem loginAccount_eq {addr : IpAddr} (haddr : addr.Text) {l : UserLogin} (hl : cStrings.Login l)
    {a : UserAccount} (ha : cStrings.Account a) (fd : ℕ) (t : Name) :
    m.loginAccount s env fd addr l a t = ChatServer.loginAccount s env fd addr l a t := by
  have ha' : cStrings.Account (loginUserAccount a addr) := ⟨ha.id, ha.name, haddr⟩
  have hcs : ∀ c ∈ (s.insertUserAccount (loginUserAccount a addr)).getAllChannels env,
      cStrings.Channel c := fun c hc => channel_of_scan hs hc
  have htoken : l.loginToken.Terminated := hl.token.short
  rw [loginAccount, ChatServer.loginAccount]
  simp only [m.loggedInElsewhere_eq hs ha, m.loginBody_eq ha' hcs, openSession,
    if_pos htoken, State.insertUserAccount_activeUsers,
    m.findConnectedUserWithSameCred_eq hs ha']

theorem readAndLoginUser_eq (h : ∀ x ∈ limits (fields bytes) .login, x.1.length ≤ x.2)
    (haddr : r.clntAddr.Text) (hn : bodyIncomplete n bytes = false)
    (hroom : m.Roomy ∨ fetchedAccount s r (fields bytes) .login = none) :
    m.readAndLoginUser s r.env r.fd r.clntAddr n bytes =
      ChatServer.readAndLoginUser s r.env r.fd r.clntAddr n bytes := by
  rw [readAndLoginUser, ChatServer.readAndLoginUser, if_neg (by simp [hn]), if_neg (by simp [hn])]
  cases hlogin : loginFields bytes with
  | error f => rfl
  | ok x =>
    obtain ⟨t, p⟩ := x
    obtain ⟨ts, us, h₁, h₂⟩ := loginFields_eq_ok.mp hlogin
    have hfs := nextField_eq_ok.mp h₁
    rw [nextField_eq_ok.mp h₂] at hfs
    have ht : t.Text := text_of_limits h (by simp [hfs]) (c := 20) (by simp [hfs, limits])
      (by decide)
    have hp : p.Text := text_of_limits h (by simp [hfs]) (c := 30) (by simp [hfs, limits])
      (by decide)
    dsimp only
    cases hl : s.getLoginInfo t with
    | none => rfl
    | some l =>
      have hltext := (hs.logins t l hl).2
      dsimp only
      rw [UserLogin.passwordAt_eq m.heap hltext, UserLogin.tokenAt_eq m.heap hltext, m.read_eq _ ht,
        m.read_eq _ hp]
      split
      · rfl
      · rename_i hcred
        rw [m.getUserAccount_eq (hroom.imp_right fun hnone => by
          simpa [fetchedAccount, field?_of_ok h₁, field?_of_ok h₂, hl,
            show ¬ (compareStrings l.password.str p.str = false ∨
              compareStrings l.loginToken.str t.str = false) by simpa using hcred] using hnone)]
        cases ha : s.getUserAccount l.uuid with
        | none => rfl
        | some a => exact m.loginAccount_eq hs haddr hltext (hs.accounts _ a ha).2 _ _

theorem removeWhere_eq {a : UserAccount} (ha : cStrings.Account a) :
    (s.activeUsers.removeWhere fun u => u.nameAt = a.nameAt m.heap) =
      s.activeUsers.removeUserInCache a.displayName := by
  rw [Cache.removeWhere, Cache.removeUserInCache]
  congr 1
  refine Slots.removeFirst_congr _ fun u hu => ?_
  rw [ConnectedUser.nameAt_eq (hs.sessions u hu), UserAccount.nameAt_eq m.heap ha]
  simp only [← CharArray.ext_iff]

theorem readAndLogoutUser_eq (hn : bodyIncomplete n bytes = false)
    (hroom : m.Roomy ∨ fetchedAccount s r (fields bytes) .logout = none) :
    m.readAndLogoutUser s r.clntAddr n bytes =
      ChatServer.readAndLogoutUser s r.clntAddr n bytes := by
  rw [readAndLogoutUser, ChatServer.readAndLogoutUser, if_neg (by simp [hn]),
    if_neg (by simp [hn])]
  cases h₁ : nextField tokenNameLength (fields bytes) with
  | error f => rfl
  | ok x =>
    obtain ⟨d, ts⟩ := x
    dsimp only
    cases hu : s.getUuidWithDisplayName d with
    | none => rfl
    | some u =>
      dsimp only
      rw [m.getUserAccount_eq (hroom.imp_right fun hnone => by
        simpa [fetchedAccount, field?_of_ok h₁, hu] using hnone)]
      cases ha : s.getUserAccount u with
      | none => rfl
      | some a =>
        have htext := (hs.accounts _ a ha).2
        have hout : cStrings.Account (logoutUserAccount a) :=
          ⟨htext.id, htext.name, cStrings.addr_none⟩
        dsimp only
        rw [m.logoutRefused_eq htext]
        cases ChatServer.logoutRefused a r.clntAddr with
        | error f => rfl
        | ok refused =>
          cases refused with
          | some code => rfl
          | none =>
            simp only [State.insertUserAccount_activeUsers, m.removeWhere_eq hs hout,
              m.tokenOut_eq hout.name]
            rfl

theorem forwards_eq (header : ChatHeader) {token : Str} (ht : token.length ≤ tokenNameLength)
    (forward : Str) :
    m.forwards s env header token forward = ChatServer.forwards s env header token forward := by
  have htoken : token = (CharArray.strncpy tokenNameLength token).str :=
    (List.take_of_length_le ht).symm
  have hlookup : m.getChannelInfo s env token =
      s.getChannelInfo env (CharArray.strncpy _ token) := by
    rw [← m.getChannelInfo_eq hs, ← htoken]
  rw [forwards, ChatServer.forwards, hlookup]
  cases hlive : s.activeUsers.live with
  | nil => rfl
  | cons u us =>
    cases hc : s.getChannelInfo env (CharArray.strncpy _ token) with
    | none => rfl
    | some c =>
      have htext := channel_of_getChannelInfo hs hc
      have hmember : ∀ u ∈ s.activeUsers.live, m.checkIfUserInChannel u.nameAt c =
          ChatServer.checkIfUserInChannel u.dsplyName c := by
        intro u hu
        rw [checkIfUserInChannel, ChatServer.checkIfUserInChannel,
          ConnectedUser.nameAt_eq (hs.sessions u hu), ChannelInfo.usersAt_eq m.heap htext,
          List.any_map]
        congr 1
        funext v
        simp only [Function.comp, CharArray.isEmpty, CharArray.ext_iff]
      rw [hlive] at hmember
      dsimp only
      rw [List.filter_congr hmember]
      all_goals rfl

end Holds

end Handlers

end Machine

end ChatServer
