import ChatServer.Resources

/-!
# What the handlers never give back

The uses of every handler balance: nothing is used or freed that is not held. What is still held
when the handler has returned is computed for each of them.
-/

namespace ChatServer

open CLib Ledger

namespace Resources

/-- The uses balance, and no database stays open. -/
structure Settled (us : Uses) (left : List Resource) : Prop where
  balance : balance [] us = some left
  closed : ∀ w, Resource.db w ∉ left

theorem settled_nil : Settled [] [] := ⟨rfl, fun _ => List.not_mem_nil⟩

def kept (x : Resource) (found : Bool) : List Resource := if found then [x] else []

theorem mem_kept {x y : Resource} {found : Bool} : y ∈ kept x found ↔ found = true ∧ y = x := by
  cases found <;> simp [kept]

/-- Blocks that are held may be used. -/
theorem balance_touches {held : List Resource} {us : Uses}
    (h : ∀ u ∈ us, ∃ x ∈ held, u = .touch x) : balance held us = some held := by
  induction us with
  | nil => rfl
  | cons u us ih =>
    obtain ⟨x, hx, rfl⟩ := h u List.mem_cons_self
    rw [balance_touch us hx]
    exact ih fun v hv => h v (List.mem_cons_of_mem _ hv)

/-- A function that opens a database and is given blocks that are held. -/
theorem balance_written {held : List Resource} {w : Wrapper} {given : List Resource}
    (hw : .db w ∉ held) (hgiven : ∀ x ∈ given, x ∈ held) :
    balance held (written w given) = some held := by
  have htouch : balance (held ++ [.db w]) (given.map .touch) = some (held ++ [.db w]) := by
    refine balance_touches fun u hu => ?_
    obtain ⟨x, hx, rfl⟩ := List.mem_map.mp hu
    exact ⟨x, List.mem_append_left _ (hgiven x hx), rfl⟩
  rw [written, opened, balance_take _ hw]
  refine balance_seq htouch ?_
  rw [balance_give [] hw, List.append_nil]
  rfl

theorem balance_opened {held : List Resource} {w : Wrapper} (hw : .db w ∉ held) :
    balance held (opened w []) = some held :=
  @balance_written held w [] hw (fun _ h => absurd h List.not_mem_nil)

/-- A function that opens a database and returns a copy of a record. -/
theorem balance_fetched {held : List Resource} {w : Wrapper} {x : Resource} (hw : .db w ∉ held)
    (hx : x ∉ held) (hne : x ≠ .db w) : balance held (fetched w x true) = some (held ++ [x]) := by
  rw [fetched, opened, balance_take _ hw, if_pos rfl, filled, List.cons_append,
    balance_take _ (by simp [hx, hne]), List.singleton_append, balance_touch _ (by simp),
    List.append_assoc, List.singleton_append, balance_give _ hw]
  rfl

/-- What a request to destroy a user leaves, whether it is accepted or not: the records that have
been looked up, and the copy of the login token. -/
def leftByDestroy (s : State) (fd : ℕ) (bytes : List UInt8) : List Resource :=
  match destroyFields bytes, s.activeUsers.getConnectedUserByFd fd with
  | .ok (_, loginToken, _), some sender =>
    kept .reqSenderLoginInfo (s.getLoginInfo sender.loginToken).isSome ++
      kept .reqSenderAccountInfo (s.getUserAccount sender.uuid).isSome ++
      .reqBodyLoginToken :: kept .loginInfo (s.getLoginInfo loginToken).isSome
  | _, _ => []

section Users

variable (s : State) (n : ℕ) (bytes : List UInt8)

/-- A request to create a user leaves nothing. -/
theorem createUser_settled : Settled (readAndCreateUser s n bytes) [] := by
  unfold readAndCreateUser
  split
  · exact settled_nil
  · dsimp only
    split
    · exact settled_nil
    · rename_i loginToken displayName ts _
      cases s.getLoginInfo loginToken with
      | some l => cases s.checkDuplicateDisplayName displayName <;> exact ⟨rfl, by simp⟩
      | none =>
        cases s.checkDuplicateDisplayName displayName with
        | true => exact ⟨rfl, by simp⟩
        | false => cases nextField pswdMaxLength ts <;> exact ⟨rfl, by simp⟩

/-- What a request to log out leaves. -/
theorem logout_settled (clntAddr : IpAddr) :
    ∃ left, Settled (readAndLogoutUser s clntAddr n bytes) left ∧
      ∀ reply, (ChatServer.readAndLogoutUser s clntAddr n bytes).value = .ok reply →
        left = if reply.result = errorLogoutUserMismatchAddress ∨
          reply.result = errorLogoutAdminUserNotOnline then [.userAccount] else [] := by
  rw [readAndLogoutUser, ChatServer.readAndLogoutUser]
  cases bodyIncomplete n bytes with
  | true => exact ⟨_, settled_nil, fun _ h => by cases h; rfl⟩
  | false =>
    rw [if_neg Bool.false_ne_true, if_neg Bool.false_ne_true]
    cases nextField tokenNameLength (fields bytes) with
    | error f => exact ⟨_, settled_nil, fun _ h => by cases h⟩
    | ok x =>
      obtain ⟨displayName, ts⟩ := x
      dsimp only
      cases s.getUuidWithDisplayName displayName with
      | none => exact ⟨[], ⟨rfl, by simp⟩, fun _ h => by cases h; rfl⟩
      | some uuid =>
        dsimp only
        cases s.getUserAccount uuid with
        | none => exact ⟨[], ⟨rfl, by simp⟩, fun _ h => by cases h; rfl⟩
        | some account =>
          dsimp only
          rw [logoutRefused]
          split_ifs
          · exact ⟨[.userAccount], ⟨rfl, by simp⟩, fun _ h => by cases h; rfl⟩
          · exact ⟨[.userAccount], ⟨rfl, by simp⟩, fun _ h => by cases h; rfl⟩
          · exact ⟨[], ⟨rfl, by simp⟩, fun _ h => by cases h; rfl⟩
          · exact ⟨[.uuidOfUser, .userAccount], ⟨rfl, by simp⟩, fun _ h => by cases h⟩

/-- Behind the lookups a request to destroy a user neither takes nor frees a block. -/
theorem balance_checkAndRemove {held : List Resource} {sender : ConnectedUser}
    {senderLogin loginInfo : Option UserLogin} {senderAccount : Option UserAccount}
    (displayName : Name) (password : Password)
    (hl : senderLogin.isSome = true → .reqSenderLoginInfo ∈ held)
    (ha : senderAccount.isSome = true → .reqSenderAccountInfo ∈ held)
    (hi : loginInfo.isSome = true → .loginInfo ∈ held) (hdb : ∀ w, Resource.db w ∉ held) :
    balance held
      (checkAndRemove sender senderLogin senderAccount loginInfo displayName password) =
        some held := by
  have hcredentials : balance held
      (credentials sender senderLogin senderAccount displayName password) = some held := by
    unfold credentials
    split
    · rfl
    · cases senderLogin with
      | none => rfl
      | some login =>
        dsimp only
        rw [balance_touch _ (hl rfl)]
        split_ifs with _ hsome
        · rfl
        · rw [balance_touch _ (ha hsome)]
          rfl
        · rfl
  refine balance_seq hcredentials ?_
  split
  · split_ifs with hsome
    · have hgiven : ∀ x ∈ [Resource.loginInfo], x ∈ held := by simpa using hi hsome
      exact balance_seq (balance_seq (balance_written (hdb _) (by simp))
        (balance_written (hdb _) hgiven)) (balance_written (hdb _) hgiven)
    · rfl
  · rfl

theorem destroyUser_settled (fd : ℕ) : Settled (readAndDestroyUser s fd n bytes)
    (if bodyIncomplete n bytes then [] else leftByDestroy s fd bytes) := by
  rw [readAndDestroyUser, leftByDestroy]
  cases bodyIncomplete n bytes with
  | true => exact settled_nil
  | false =>
    rw [if_neg Bool.false_ne_true, if_neg Bool.false_ne_true]
    cases hf : destroyFields bytes with
    | error f => exact settled_nil
    | ok x =>
      obtain ⟨displayName, loginToken, password⟩ := x
      dsimp only
      rw [if_neg (by simp [destroyFields_ne_empty hf])]
      cases s.activeUsers.getConnectedUserByFd fd with
      | none => exact settled_nil
      | some sender =>
        dsimp only
        generalize s.getLoginInfo sender.loginToken = senderLogin
        generalize s.getUserAccount sender.uuid = senderAccount
        generalize s.getLoginInfo loginToken = loginInfo
        generalize hleft : kept .reqSenderLoginInfo senderLogin.isSome ++
          kept .reqSenderAccountInfo senderAccount.isSome ++
          .reqBodyLoginToken :: kept .loginInfo loginInfo.isSome = left
        have hclosed : ∀ w, Resource.db w ∉ left := by simp [← hleft, mem_kept]
        have haccount : senderAccount.isSome = true → .reqSenderAccountInfo ∈ left := fun h => by
          simp [← hleft, mem_kept, h]
        have hlogin : senderLogin.isSome = true → .reqSenderLoginInfo ∈ left := fun h => by
          simp [← hleft, mem_kept, h]
        have hinfo : loginInfo.isSome = true → .loginInfo ∈ left := fun h => by
          simp [← hleft, mem_kept, h]
        have hchecked := @balance_checkAndRemove left sender _ _ _ displayName password hlogin
          haccount hinfo hclosed
        refine ⟨balance_seq (b := left) ?_ ?_, hclosed⟩
        · rw [← hleft]
          cases senderLogin <;> cases senderAccount <;> cases loginInfo <;> rfl
        · split_ifs with hnone
          · cases senderAccount with
            | none => rfl
            | some account =>
              dsimp only
              rw [balance_touch _ (haccount rfl)]
              split_ifs
              · rfl
              · exact hchecked
          · exact hchecked

end Users

section Channels

variable (s : State) (env : Env) (n : ℕ) (bytes : List UInt8)

/-- A request to create a channel that is turned down behind the lookup of the session leaves the
copy of the display name. -/
theorem createChannel_settled (clntAddr : IpAddr) :
    ∃ left, Settled (readAndCreateChannel s env clntAddr n bytes) left ∧
      ∀ reply, (ChatServer.readAndCreateChannel s env clntAddr n bytes).value = .ok reply →
        left = if reply.result = errorChannel404 ∨ reply.result = errorChannel403 ∨
          reply.result = errorChannel409 then [.disNameInCache] else [] := by
  rw [readAndCreateChannel, ChatServer.readAndCreateChannel]
  cases bodyIncomplete n bytes with
  | true => exact ⟨_, settled_nil, fun _ h => by cases h; rfl⟩
  | false =>
    rw [if_neg Bool.false_ne_true, if_neg Bool.false_ne_true]
    cases nextField tokenNameLength (fields bytes) with
    | error f => exact ⟨_, settled_nil, fun _ h => by cases h⟩
    | ok x =>
      obtain ⟨channelName, ts⟩ := x
      cases ts with
      | nil => exact ⟨_, settled_nil, fun _ h => by cases h; rfl⟩
      | cons t ts =>
        dsimp only
        cases nextField tokenNameLength (t :: ts) with
        | error f => exact ⟨_, settled_nil, fun _ h => by cases h⟩
        | ok y =>
          obtain ⟨displayName, us⟩ := y
          cases us with
          | nil => exact ⟨_, settled_nil, fun _ h => by cases h⟩
          | cons publicity us =>
            dsimp only
            rw [storeNewChannel, ChatServer.storeNewChannel]
            cases s.activeUsers.getDisplayNameInCache clntAddr displayName with
            | none => split_ifs <;> exact ⟨_, settled_nil, fun _ h => by cases h; rfl⟩
            | some nameInCache =>
              dsimp only
              split_ifs
              · exact ⟨_, settled_nil, fun _ h => by cases h; rfl⟩
              · exact ⟨[.disNameInCache], ⟨rfl, by simp⟩, fun _ h => by cases h; rfl⟩
              · exact ⟨[.disNameInCache], ⟨rfl, by simp⟩, fun _ h => by cases h; rfl⟩
              · exact ⟨[.disNameInCache], ⟨rfl, by simp⟩, fun _ h => by cases h; rfl⟩
              · exact ⟨[], ⟨rfl, by simp⟩, fun _ h => by cases h; rfl⟩

/-- A request to read a channel leaves nothing. -/
theorem readChannel_settled : Settled (readAndReadChannel s env n bytes) [] := by
  unfold readAndReadChannel
  split
  · exact settled_nil
  · split
    · dsimp only
      generalize (s.getChannelInfo env _).isSome = found
      cases found <;> exact ⟨rfl, by simp⟩
    · exact settled_nil

/-- The update takes new members, and behind its rename no channel has the name that it gives. -/
def staysOpen (u : UpdateRequest) : Bool :=
  namesRegistered s u && u.users.alter ≠ 48 &&
    (renameStep s env u).any fun s => (s.getChannelInfo env u.channelName).isNone

/-- What a request to update a channel leaves: the record of the first lookup. -/
def leftByUpdate : List Resource :=
  match parseUpdate (fields bytes) with
  | .error _ => []
  | .ok u =>
    if (s.getChannelInfo env u.channelName).isSome then
      .channel :: kept (.db .addUsersOnChannel) (staysOpen s env u)
    else []

theorem balance_checkNames {held : List Resource}
    (h : .db .checkDuplicateDisplayName ∉ held) (us : List Name) :
    balance held (checkNames s us) = some held := by
  induction us with
  | nil => rfl
  | cons u us ih =>
    refine balance_seq (balance_opened h) ?_
    split
    · exact ih
    · rfl

theorem balance_applyUpdate (u : UpdateRequest) (hreg : namesRegistered s u = true)
    (hfound : (s.getChannelInfo env u.channelName).isSome = true) :
    balance [.channel] (applyUpdate s env u) =
      some (.channel :: kept (.db .addUsersOnChannel) (staysOpen s env u)) := by
  rw [applyUpdate, staysOpen, hreg, hfound]
  have hrename : balance [.channel] (if u.isChangeName || u.isChangePublicity then
      updateChannelNameAndPublicity true else []) = some [.channel] := by
    split <;> rfl
  refine balance_seq hrename ?_
  cases renameStep s env u with
  | none =>
    simp only [Option.any_none, Bool.and_false]
    rfl
  | some s₁ =>
    have hadd : balance [.channel] (if u.users.alter ≠ 48 then
        addUsersOnChannel (s₁.getChannelInfo env u.channelName).isSome else []) =
          some (.channel :: kept (.db .addUsersOnChannel)
            (u.users.alter ≠ 48 && (s₁.getChannelInfo env u.channelName).isNone)) := by
      by_cases halter : u.users.alter = 48
      · simp only [halter, ne_eq, not_true_eq_false, if_false, decide_false, Bool.false_and]
        rfl
      · simp only [halter, ne_eq, not_false_eq_true, if_true, decide_true, Bool.true_and]
        cases s₁.getChannelInfo env u.channelName <;> rfl
    simp only [Option.any_some, Bool.true_and]
    refine balance_seq hadd ?_
    generalize (decide (u.users.alter ≠ 48) && (s₁.getChannelInfo env u.channelName).isNone) = b
    cases addStep s₁ env u with
    | none => cases b <;> rfl
    | some s₂ =>
      dsimp only
      generalize (s₂.getChannelInfo env _).isSome = found
      cases b <;> cases found <;> rfl

theorem balance_updateChannel : balance [] (readAndUpdateChannel s env n bytes) =
    some (if bodyIncomplete n bytes then [] else leftByUpdate s env bytes) := by
  rw [readAndUpdateChannel, leftByUpdate]
  cases bodyIncomplete n bytes with
  | true => rfl
  | false =>
    rw [if_neg Bool.false_ne_true, if_neg Bool.false_ne_true]
    cases parseUpdate (fields bytes) with
    | error e => rfl
    | ok u =>
      dsimp only
      cases hfound : (s.getChannelInfo env u.channelName).isSome with
      | false => rfl
      | true =>
        rw [if_pos rfl, if_pos rfl]
        refine balance_seq (b := [.channel]) rfl ?_
        refine balance_seq (balance_checkNames s (by simp) _) ?_
        cases hreg : namesRegistered s u with
        | false =>
          rw [staysOpen, hreg]
          rfl
        | true => exact balance_applyUpdate s env u hreg hfound

end Channels

section Loops

/-- The blocks of a list of records: its header, the array once there is a record, the records. -/
def cells (header array : Resource) (entry : ℕ → Resource) (n : ℕ) : List Resource :=
  header :: (if n = 0 then [] else [array]) ++ (List.range n).map entry

variable {held a b : List Resource} {header array : Resource} {entry : ℕ → Resource} {i n : ℕ}

theorem cells_succ : cells header array entry (n+1) =
    cells header array entry n ++ (if n = 0 then [array] else []) ++ [entry n] := by
  cases n with
  | zero => rfl
  | succ n => simp [cells, List.range_succ]

/-- A turn of the loops of `get_all_channels` and `get_all_messages` adds a record. -/
theorem balance_collected (hheader : header ∈ held) (harray : array ∈ held ↔ i ≠ 0)
    (hentry : entry i ∉ held) (hne : entry i ≠ array) :
    balance held (collected header array entry i) =
      some (held ++ (if i = 0 then [array] else []) ++ [entry i]) := by
  rw [collected, balance_touch _ hheader]
  cases i with
  | zero =>
    have hnot : array ∉ held := fun h => harray.mp h rfl
    rw [if_pos rfl, if_pos rfl, balance_take _ hnot, balance_touch _ (by simp [hheader]), filled,
      List.cons_append, balance_take _ (by simp [hentry, hne])]
    exact balance_touches (by simp [hheader])
  | succ i =>
    have hin : array ∈ held := harray.mpr (Nat.succ_ne_zero i)
    rw [if_neg (Nat.succ_ne_zero i), if_neg (Nat.succ_ne_zero i), balance_touch _ hin,
      balance_touch _ hheader, filled, List.cons_append, balance_take _ hentry, List.append_nil]
    exact balance_touches (by simp [hheader, hin])

theorem mem_cells {x : Resource} : x ∈ cells header array entry n ↔
    x = header ∨ (n ≠ 0 ∧ x = array) ∨ ∃ i < n, entry i = x := by
  rw [cells, List.cons_append, List.mem_cons, List.mem_append, List.mem_map]
  simp only [List.mem_range]
  split_ifs with h <;> simp [h]

/-- `get_all_channels` from a state in which no list has been collected. -/
theorem balance_getAllChannels (hdb : ∀ w, Resource.db w ∉ held) (hlist : .channelList ∉ held)
    (harray : .channels ∉ held) (hentry : ∀ i, Resource.channelEntry i ∉ held) :
    balance held (getAllChannels n) =
      some (held ++ cells .channelList .channels .channelEntry n) := by
  have hloop : balance (held ++ .db .getAllChannels :: cells .channelList .channels .channelEntry 0)
      ((List.range n).flatMap (collected .channelList .channels .channelEntry)) =
        some (held ++ .db .getAllChannels :: cells .channelList .channels .channelEntry n) := by
    refine balance_loop (fun i =>
      held ++ .db .getAllChannels :: cells .channelList .channels .channelEntry i) fun i _ => ?_
    rw [balance_collected (by simp [mem_cells]) (by simp [mem_cells, harray])
      (by simp [mem_cells, hentry]) (by simp), cells_succ]
    simp
  rw [getAllChannels, opened, balance_take _ (hdb _)]
  refine balance_seq (balance_seq ?_ hloop) ?_
  · rw [filled, balance_take _ (by simp [hlist]), balance_touch _ (by simp)]
    simp [cells, balance]
  · rw [balance_give _ (hdb _)]
    rfl

theorem balance_getAllMessages : balance [] (getAllMessages n) =
    some (cells .messageList .messages .messageEntry n) := by
  have hloop : balance (.db .getAllMessages :: cells .messageList .messages .messageEntry 0)
      ((List.range n).flatMap fun i =>
        filled .kMessage ++ (collected .messageList .messages .messageEntry i ++
          [.touch .kMessage, .give .kMessage])) =
        some (.db .getAllMessages :: cells .messageList .messages .messageEntry n) := by
    refine balance_loop (fun i =>
      .db .getAllMessages :: cells .messageList .messages .messageEntry i) fun i _ => ?_
    have htaken : balance (.db .getAllMessages :: cells .messageList .messages .messageEntry i)
        (filled .kMessage) =
          some (.db .getAllMessages :: cells .messageList .messages .messageEntry i ++
            [.kMessage]) := by
      rw [filled, balance_take _ (by simp [mem_cells])]
      exact balance_touches (by simp)
    refine balance_seq htaken ?_
    refine balance_seq (balance_collected (by simp [mem_cells]) (by simp [mem_cells])
      (by simp [mem_cells]) (by simp)) ?_
    rw [balance_touch _ (by simp), List.append_assoc, List.append_assoc, List.singleton_append,
      balance_give _ (by simp [mem_cells]), cells_succ]
    simp [balance]
  rw [getAllMessages, opened, balance_take _ List.not_mem_nil]
  refine balance_seq (balance_seq rfl hloop) ?_
  rw [← List.nil_append (Resource.db .getAllMessages :: _), balance_give _ List.not_mem_nil]
  rfl

/-- `free_channel_list` gives back the whole list. -/
theorem balance_freeChannelList (hlist : .channelList ∉ a) (harray : .channels ∉ a)
    (hentry : ∀ i, Resource.channelEntry i ∉ a) :
    balance (a ++ cells .channelList .channels .channelEntry n ++ b) (freeChannelList n) =
      some (a ++ b) := by
  cases n with
  | zero =>
    rw [freeChannelList, List.cons_append, balance_touch _ (by simp [cells])]
    refine balance_seq (b := a ++ .channelList :: b) (by simp [cells, balance]) ?_
    exact balance_give [] hlist
  | succ m =>
    have hloop : balance
        (a ++ .channelList :: .channels :: ((List.range (m+1)).map .channelEntry ++ b))
        ((List.range (m+1)).flatMap fun i => [.touch .channels, .give (.channelEntry i)]) =
          some (a ++ .channelList :: .channels :: b) := by
      have hturn : ∀ i < m+1, balance
          (a ++ .channelList :: .channels :: (((List.range (m+1)).drop i).map .channelEntry ++ b))
          [.touch .channels, .give (.channelEntry i)] = some (a ++ .channelList :: .channels ::
            (((List.range (m+1)).drop (i+1)).map .channelEntry ++ b)) := by
        intro i hi
        have hdrop : (List.range (m+1)).drop i = i :: (List.range (m+1)).drop (i+1) := by
          rw [List.drop_eq_getElem_cons (by simpa using hi), List.getElem_range]
        have hgive := balance_give (a := a ++ [.channelList, .channels])
          (b := ((List.range (m+1)).drop (i+1)).map .channelEntry ++ b) []
          (x := .channelEntry i) (by simp [hentry])
        rw [hdrop, balance_touch _ (by simp), List.map_cons, List.cons_append]
        simpa [balance] using hgive
      have hturns := balance_loop (fun i => a ++ .channelList :: .channels ::
        (((List.range (m+1)).drop i).map .channelEntry ++ b)) hturn
      rwa [List.drop_zero, List.drop_eq_nil_of_le (by simp), List.map_nil, List.nil_append]
        at hturns
    rw [freeChannelList, List.cons_append, balance_touch _ (by simp [cells])]
    refine balance_seq (b := a ++ .channelList :: .channels :: b) ?_ ?_
    · simpa [cells] using hloop
    · have harray' : Resource.channels ∉ a ++ [.channelList] := by simp [harray]
      have hfirst := balance_give (b := b) [.give .channelList] harray'
      rw [freed, if_pos (by simp), List.singleton_append]
      rw [List.append_assoc, List.singleton_append] at hfirst
      rw [hfirst, List.append_assoc, List.singleton_append, balance_give [] hlist]
      rfl

theorem balance_buildChannelNameList
    (hcells : ∀ x ∈ cells .channelList .channels .channelEntry n, x ∈ held)
    (hnot : .channelNameList ∉ held) :
    balance held (buildChannelNameList n) = some (held ++ [.channelNameList]) := by
  have harray : ∀ i < n, Resource.channels ∈ held ∧ Resource.channelEntry i ∈ held := fun i hi =>
    ⟨hcells _ (mem_cells.mpr (Or.inr (Or.inl ⟨Nat.ne_zero_of_lt hi, rfl⟩))),
      hcells _ (mem_cells.mpr (Or.inr (Or.inr ⟨i, hi, rfl⟩)))⟩
  rw [buildChannelNameList]
  refine balance_seq (b := held) (balance_touches fun u hu => ?_) ?_
  · obtain ⟨i, hi, hu⟩ := List.mem_flatMap.mp hu
    obtain ⟨h₁, h₂⟩ := harray i (List.mem_range.mp hi)
    obtain rfl | rfl : u = _ ∨ u = _ := by simpa using hu
    · exact ⟨_, h₁, rfl⟩
    · exact ⟨_, h₂, rfl⟩
  · rw [List.cons_append, balance_take _ hnot]
    refine balance_touches fun u hu => ?_
    obtain hu | hu := List.mem_append.mp hu
    · obtain ⟨i, hi, hu⟩ := List.mem_flatMap.mp hu
      obtain ⟨h₁, h₂⟩ := harray i (List.mem_range.mp hi)
      obtain rfl | rfl | rfl : u = _ ∨ u = _ ∨ u = _ := by simpa using hu
      · exact ⟨_, List.mem_append_left _ h₁, rfl⟩
      · exact ⟨_, List.mem_append_left _ h₂, rfl⟩
      · exact ⟨.channelNameList, by simp, rfl⟩
    · obtain rfl : u = _ := by simpa using hu
      exact ⟨.channelNameList, by simp, rfl⟩

end Loops

section Logins

variable (s : State) (env : Env) (fd : ℕ) (clntAddr : IpAddr) (n : ℕ) (bytes : List UInt8)

/-- What is held when the account has been looked up. -/
abbrev loginHeld : List Resource := [.loginInfo, .clntUuid, .userAccount]

/-- A login that opens or keeps a session leaves the response body, one that ends another session
all that it has looked up. -/
theorem loginAccount_settled (login : UserLogin) (account : UserAccount) (loginToken : Name) :
    ∃ left, (balance loginHeld (loginAccount s env fd clntAddr login account) = some left ∧
      ∀ w, Resource.db w ∉ left) ∧ ∀ reply,
        (ChatServer.loginAccount s env fd clntAddr login account loginToken).value = .ok reply →
          left = if reply.result = 0 then [.responseBody] else
            if reply.result = terminateAndRestablishConnection then loginHeld else [] := by
  rw [loginAccount, ChatServer.loginAccount, balance_touch _ (by simp)]
  split_ifs with helsewhere
  · refine ⟨loginHeld, ⟨?_, by simp⟩, ?_⟩
    · rw [openSession]
      split <;> rfl
    · intro reply h
      rw [ChatServer.openSession] at h
      cases hc : s.activeUsers.insertUserInCache fd account login with
      | none => rw [hc] at h; cases h
      | some c => rw [hc] at h; cases h; rfl
  · dsimp only
    generalize hcount : ((s.insertUserAccount (loginUserAccount account clntAddr)).getAllChannels
      env).length = count
    generalize hheld : loginHeld ++ cells .channelList .channels .channelEntry count = held
    have hlists : balance loginHeld (insertUserAccount [.userAccount] ++ getAllChannels count) =
        some held := by
      rw [← hheld]
      exact balance_seq (balance_written (by simp) (by simp))
        (balance_getAllChannels (by simp) (by simp) (by simp) (by simp))
    have hnames : balance held (.touch .channelList :: buildChannelNameList count) =
        some (held ++ [.channelNameList]) := by
      rw [balance_touch _ (by simp [← hheld, mem_cells])]
      exact balance_buildChannelNameList
        (fun x hx => by rw [← hheld]; exact List.mem_append_right _ hx)
        (by simp [← hheld, mem_cells])
    have hbody : balance (held ++ [.channelNameList]) (filled .responseBody) =
        some (held ++ [.channelNameList, .responseBody]) := by
      rw [filled, balance_take _ (by simp [← hheld, mem_cells]), balance_touch _ (by simp),
        List.append_assoc]
      rfl
    have hprinted : balance (held ++ [.channelNameList, .responseBody])
        [.touch .channelList, .touch .channelNameList] =
          some (held ++ [.channelNameList, .responseBody]) :=
      balance_touches (by simp [← hheld, mem_cells])
    have hfreed : balance (held ++ [.channelNameList, .responseBody])
        ([.give .userAccount, .give .loginInfo, .give .clntUuid, .give .channelNameList] ++
          freeChannelList count) = some [.responseBody] := by
      refine balance_seq (b := cells .channelList .channels .channelEntry count ++
        [.responseBody]) ?_ ?_
      · have haccount := balance_give (a := [.loginInfo, .clntUuid]) (x := .userAccount)
          (b := cells .channelList .channels .channelEntry count ++
            [.channelNameList, .responseBody])
          [.give .loginInfo, .give .clntUuid, .give .channelNameList] (by simp)
        rw [← hheld]
        refine Eq.trans haccount ?_
        refine (balance_give (a := []) _ List.not_mem_nil).trans ?_
        refine (balance_give (a := []) _ List.not_mem_nil).trans ?_
        refine (balance_give (a := cells .channelList .channels .channelEntry count) []
          (by simp [mem_cells])).trans rfl
      · exact balance_freeChannelList (a := []) List.not_mem_nil List.not_mem_nil
          fun _ => List.not_mem_nil
    have hfront := balance_seq (balance_seq (balance_seq hlists hnames) hbody) hprinted
    have hused : ∀ us, balance (held ++ [.channelNameList, .responseBody])
        (.touch .userAccount :: us) =
          balance (held ++ [.channelNameList, .responseBody]) us := fun us =>
      balance_touch us (by simp [← hheld])
    split_ifs with hsame
    · refine ⟨[.responseBody], ⟨balance_seq hfront ?_, by simp⟩, fun _ h => by cases h; rfl⟩
      rw [hused]
      exact hfreed
    · rw [openSession, ChatServer.openSession]
      generalize (s.insertUserAccount (loginUserAccount account clntAddr)).activeUsers = cache
      cases cache.insertUserInCache fd (loginUserAccount account clntAddr) login with
      | none =>
        exact ⟨_, ⟨balance_seq hfront rfl, by simp [← hheld, mem_cells]⟩, fun _ h => by cases h⟩
      | some c =>
        refine ⟨[.responseBody], ⟨balance_seq hfront ?_, by simp⟩, fun _ h => by cases h; rfl⟩
        rw [if_pos Option.isSome_some, hused, balance_touch _ (by simp [← hheld])]
        exact hfreed

theorem login_settled :
    ∃ left, Settled (readAndLoginUser s env fd clntAddr n bytes) left ∧
      ∀ reply, (ChatServer.readAndLoginUser s env fd clntAddr n bytes).value = .ok reply →
        left = if reply.result = 0 then [.responseBody] else
          if reply.result = terminateAndRestablishConnection then loginHeld else [] := by
  rw [readAndLoginUser, ChatServer.readAndLoginUser]
  cases bodyIncomplete n bytes with
  | true => exact ⟨_, settled_nil, fun _ h => by cases h; rfl⟩
  | false =>
    rw [if_neg Bool.false_ne_true, if_neg Bool.false_ne_true]
    cases loginFields bytes with
    | error f => exact ⟨_, settled_nil, fun _ h => by cases h⟩
    | ok x =>
      obtain ⟨loginToken, password⟩ := x
      dsimp only
      cases s.getLoginInfo loginToken with
      | none => exact ⟨[], ⟨rfl, by simp⟩, fun _ h => by cases h; rfl⟩
      | some login =>
        dsimp only
        split_ifs
        · exact ⟨[], ⟨rfl, by simp⟩, fun _ h => by cases h; rfl⟩
        · cases s.getUserAccount login.uuid with
          | none => exact ⟨[.loginInfo, .clntUuid], ⟨rfl, by simp⟩, fun _ h => by cases h⟩
          | some account =>
            obtain ⟨left, ⟨hleft, hdb⟩, hvalue⟩ :=
              loginAccount_settled s env fd clntAddr login account loginToken
            exact ⟨left, ⟨hleft, hdb⟩, hvalue⟩

end Logins

section Messages

variable (s : State) (env : Env) (n : ℕ) (bytes : List UInt8)

theorem createMessage_settled :
    ∃ left, Settled (readAndCreateMessage s env n bytes) left ∧
      ∀ reply, (ChatServer.readAndCreateMessage s env n bytes).value = .ok reply →
        left =
          if reply.result = 0 then [.clntUuid, .message, .messageUuid, .userLogin] else [] := by
  rw [readAndCreateMessage, ChatServer.readAndCreateMessage]
  cases bodyIncomplete n bytes with
  | true => exact ⟨_, settled_nil, fun _ h => by cases h; rfl⟩
  | false =>
    rw [if_neg Bool.false_ne_true, if_neg Bool.false_ne_true]
    cases nextField tokenNameLength (fields bytes) with
    | error f => exact ⟨_, settled_nil, fun _ h => by cases h⟩
    | ok x =>
      obtain ⟨displayName, ts⟩ := x
      dsimp only
      split_ifs
      · exact ⟨_, settled_nil, fun _ h => by cases h; rfl⟩
      · cases messageFields ts with
        | error f => exact ⟨_, settled_nil, fun _ h => by cases h⟩
        | ok y =>
          obtain ⟨channelName, content, timestamp⟩ := y
          dsimp only
          split_ifs
          · exact ⟨_, settled_nil, fun _ h => by cases h; rfl⟩
          · rw [storeNewMessage, ChatServer.storeNewMessage]
            cases s.getChannelInfo env channelName with
            | none => exact ⟨[], ⟨rfl, by simp⟩, fun _ h => by cases h; rfl⟩
            | some channel =>
              cases s.activeUsers.getConnectedUserByDisplayName displayName with
              | none => exact ⟨[.channel, .clntUuid], ⟨rfl, by simp⟩, fun _ h => by cases h⟩
              | some user =>
                dsimp only
                cases s.getUserAccount user.uuid with
                | none => exact ⟨[.channel, .clntUuid], ⟨rfl, by simp⟩, fun _ h => by cases h⟩
                | some account =>
                  dsimp only
                  by_cases hlevel : account.privilegeLevel ≠ 0 ∧ account.privilegeLevel ≠ 1
                  · rw [if_pos hlevel, if_pos hlevel]
                    exact ⟨[.channel, .clntUuid, .userAccount], ⟨rfl, by simp⟩,
                      fun _ h => by cases h⟩
                  · rw [if_neg hlevel, if_neg hlevel]
                    cases s.getLoginInfo user.loginToken with
                    | none =>
                      exact ⟨[.channel, .clntUuid, .userAccount, .message, .messageUuid],
                        ⟨rfl, by simp⟩, fun _ h => by cases h⟩
                    | some login =>
                      exact ⟨[.clntUuid, .message, .messageUuid, .userLogin], ⟨rfl, by simp⟩,
                        fun _ h => by cases h; rfl⟩

/-- The senders that the second loop of `build_message_list` looks up: those of the messages in the
channel, up to the first that does not fit. -/
def sendersLookedUp (s : State) (channelId : Uuid) (size : ℕ) : List UInt8 → List MessageInfo → ℕ
  | _, [] => 0
  | list, m :: ms =>
    if channelId = m.channelId then
      match s.getUserAccount m.userId with
      | none => 0
      | some sender =>
        let name := sender.displayName.str
        let content := m.messageContent.str
        if list.length+name.length+content.length+timestampSize+3 ≥ size then 1
        else sendersLookedUp s channelId size
          (list ++ name ++ etx :: content ++ etx :: m.timeStamp.bytes ++ [etx]) ms + 1
    else sendersLookedUp s channelId size list ms

/-- What is held in the second loop of `build_message_list` when `i` senders have been looked up. -/
def copying (count i : ℕ) : List Resource :=
  cells .messageList .messages .messageEntry count ++ [.reqChannel, .list] ++
    (List.range i).map .msgSender

variable (channelId : Uuid) (size : ℕ) (behind : Uses)

theorem copying_succ (count i : ℕ) :
    copying count (i+1) = copying count i ++ [.msgSender i] := by
  simp [copying, List.range_succ]

/-- The loop takes a block for every sender it looks up, and goes on with `behind` when it gets
through. -/
theorem balance_copyMessages {count : ℕ} (ms : List MessageInfo) (i j : ℕ) (list : List UInt8)
    (hcount : j+ms.length = count) :
    balance (copying count i) (copyMessages s channelId size behind i j list ms) =
      match ChatServer.copyMessages s channelId size list ms with
      | .ok _ => balance (copying count (i+sendersLookedUp s channelId size list ms)) behind
      | .error _ => some (copying count (i+sendersLookedUp s channelId size list ms)) := by
  induction ms generalizing i j list with
  | nil => rfl
  | cons m ms ih =>
    have hne : count ≠ 0 := by rw [← hcount, List.length_cons]; omega
    have hj : j < count := by rw [← hcount, List.length_cons]; omega
    have hnext : j+1+ms.length = count := by rw [← hcount, List.length_cons]; omega
    rw [copyMessages, balance_touch _ (by simp [copying, mem_cells, hne]),
      balance_touch _ (by simp [copying, mem_cells, hj]), balance_touch _ (by simp [copying]),
      ChatServer.copyMessages, sendersLookedUp]
    by_cases hid : channelId = m.channelId
    · rw [if_pos hid, if_pos hid, if_pos hid]
      cases s.getUserAccount m.userId with
      | none =>
        exact balance_seq (balance_opened (by simp [copying, mem_cells])) rfl
      | some sender =>
        have hsender : balance (copying count i) (getUserAccount (.msgSender i) true) =
            some (copying count (i+1)) := by
          rw [copying_succ]
          exact balance_fetched (by simp [copying, mem_cells]) (by simp [copying, mem_cells])
            (by simp)
        rw [Option.isSome_some, balance_append, hsender, Option.bind_some]
        dsimp only
        rw [balance_touch _ (by simp [copying_succ])]
        split_ifs with hfull
        · rfl
        · rw [balance_touch _ (by simp [copying]), ih (i+1) (j+1) _ hnext,
            Nat.add_assoc, Nat.add_comm 1]
    · rw [if_neg hid, if_neg hid, if_neg hid]
      exact ih i (j+1) list hnext

theorem balance_buildMessageList (c : ChannelInfo) (ms : List MessageInfo) :
    balance (cells .messageList .messages .messageEntry ms.length)
        (buildMessageList s ms (some c) behind) =
      match ChatServer.copyMessages s c.channelId (messageListSize c.channelId ms) [] ms with
      | .ok _ => balance (copying ms.length
          (sendersLookedUp s c.channelId (messageListSize c.channelId ms) [] ms))
            (.touch .list :: .give .reqChannel :: behind)
      | .error _ => some (copying ms.length
          (sendersLookedUp s c.channelId (messageListSize c.channelId ms) [] ms)) := by
  have hchannel : balance (cells .messageList .messages .messageEntry ms.length)
      (getChannelInfo .reqChannel true) =
        some (cells .messageList .messages .messageEntry ms.length ++ [.reqChannel]) :=
    balance_fetched (by simp [mem_cells]) (by simp [mem_cells]) (by simp)
  have hsized : balance (cells .messageList .messages .messageEntry ms.length ++ [.reqChannel])
      ((List.range ms.length).flatMap fun i =>
        [.touch .messages, .touch .reqChannel, .touch (.messageEntry i)]) =
        some (cells .messageList .messages .messageEntry ms.length ++ [.reqChannel]) := by
    refine balance_touches fun u hu => ?_
    obtain ⟨i, hi, hu⟩ := List.mem_flatMap.mp hu
    have hi := List.mem_range.mp hi
    obtain rfl | rfl | rfl : u = _ ∨ u = _ ∨ u = _ := by simpa using hu
    · exact ⟨_, by simp [mem_cells, Nat.ne_zero_of_lt hi], rfl⟩
    · exact ⟨_, by simp, rfl⟩
    · exact ⟨_, by simp [mem_cells, hi], rfl⟩
  have hstart : cells .messageList .messages .messageEntry ms.length ++ [.reqChannel] ++ [.list] =
      copying ms.length 0 := by simp [copying]
  rw [buildMessageList, Option.isSome_some, balance_append, hchannel, Option.bind_some,
    balance_append, hsized, Option.bind_some, balance_take _ (by simp [mem_cells]), hstart,
    balance_copyMessages s c.channelId _ _ ms 0 0 [] (Nat.zero_add _), Nat.zero_add]

/-- Behind the loop the channel is freed and the response body taken. -/
theorem balance_response (count k : ℕ) :
    balance (copying count k) (.touch .list :: .give .reqChannel :: (filled .responseBody ++
      [.touch .messageList, .touch .list, .touch .responseBody])) =
        some (cells .messageList .messages .messageEntry count ++
          .list :: (List.range k).map .msgSender ++ [.responseBody]) := by
  have hfreed := balance_give (a := cells .messageList .messages .messageEntry count)
    (b := .list :: (List.range k).map .msgSender) (x := .reqChannel) (filled .responseBody ++
      [.touch .messageList, .touch .list, .touch .responseBody]) (by simp [mem_cells])
  have hcopying : copying count k = cells .messageList .messages .messageEntry count ++
      .reqChannel :: .list :: (List.range k).map .msgSender := by simp [copying]
  rw [balance_touch _ (by simp [copying]), hcopying, hfreed, filled, List.cons_append,
    balance_take _ (by simp [mem_cells])]
  exact balance_touches (by simp [mem_cells])

/-- What an answered request to read messages leaves: the list of all messages, the block the
messages of the channel are copied to, the records of the senders and the response body. -/
def leftByRead (s : State) (env : Env) (bytes : List UInt8) : List Resource :=
  match readMessageFields bytes with
  | .error _ => []
  | .ok (channelName, _) =>
    let messages := s.getAllMessages env
    let senders := match s.getChannelInfo env channelName with
      | none => 0
      | some c => sendersLookedUp s c.channelId (messageListSize c.channelId messages) [] messages
    cells .messageList .messages .messageEntry messages.length ++
      .list :: (List.range senders).map .msgSender ++ [.responseBody]

theorem readMessage_settled :
    ∃ left, Settled (readAndReadMessage s env bytes) left ∧
      ∀ reply, (ChatServer.readAndReadMessage s env bytes).value = .ok reply →
        left = if reply.result = 0 then leftByRead s env bytes else [] := by
  rw [readAndReadMessage, ChatServer.readAndReadMessage, leftByRead]
  cases readMessageFields bytes with
  | error f => exact ⟨_, settled_nil, fun _ h => by cases h⟩
  | ok x =>
    obtain ⟨channelName, numOfMessages⟩ := x
    dsimp only
    split_ifs
    · exact ⟨_, settled_nil, fun _ h => by cases h; rfl⟩
    · exact ⟨_, settled_nil, fun _ h => by cases h; rfl⟩
    · generalize s.getAllMessages env = ms
      have hlist : ∀ us, balance (cells .messageList .messages .messageEntry ms.length)
          (.touch .messageList :: us) =
            balance (cells .messageList .messages .messageEntry ms.length) us := fun us =>
        balance_touch us (by simp [mem_cells])
      cases hc : s.getChannelInfo env channelName with
      | none =>
        cases ms with
        | nil =>
          exact ⟨[.messageList, .list, .responseBody], ⟨rfl, by simp⟩,
            fun _ h => by cases h; rfl⟩
        | cons m ms =>
          refine ⟨cells .messageList .messages .messageEntry (m :: ms).length,
            ⟨balance_seq balance_getAllMessages ((hlist _).trans ?_), by simp [mem_cells]⟩,
            fun _ h => by cases h⟩
          exact balance_seq (balance_opened (by simp [mem_cells])) rfl
      | some c =>
        have hbuild := balance_buildMessageList s
          (filled .responseBody ++ [.touch .messageList, .touch .list, .touch .responseBody]) c ms
        have hcopied : ChatServer.buildMessageList s ms (some c) =
            ChatServer.copyMessages s c.channelId (messageListSize c.channelId ms) [] ms := by
          cases ms <;> rfl
        rw [hcopied]
        cases hcopy : ChatServer.copyMessages s c.channelId (messageListSize c.channelId ms) []
          ms with
        | error f =>
          rw [hcopy] at hbuild
          refine ⟨_, ⟨balance_seq balance_getAllMessages ((hlist _).trans hbuild), ?_⟩,
            fun _ h => by cases h⟩
          simp [copying, mem_cells]
        | ok list =>
          rw [hcopy] at hbuild
          refine ⟨_, ⟨balance_seq balance_getAllMessages
            ((hlist _).trans (hbuild.trans (balance_response ms.length _))), ?_⟩,
            fun _ h => by cases h; rfl⟩
          simp [mem_cells]

end Messages

end Resources

end ChatServer
