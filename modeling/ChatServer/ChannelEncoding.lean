import ChatServer.Invariant.ChannelHistory
import ChatServer.Machine.Runs

/-!
# The two encodings of a channel

`read_and_read_channel` and `read_and_update_channel` print a channel each in its own way; reading
prints the banned users from the list of administrators. On the channels that a server can have
there is no difference, because nobody is ever banned. Neither of them prints more than one name of
a list, since every name is printed to the beginning of the buffer.
-/

namespace ChatServer

open CLib

/-- A list without names prints nothing of the array that its names would be printed from. -/
theorem serializeList_of_no_members {list : NameList} (h : list.members = [])
    (printed : NameList) : serializeList list printed = serializeList list list := by
  rw [serializeList, serializeList, h]
  rfl

theorem members_empty : NameList.empty.members = [] := by
  refine members_of_slots (n := defaultListSize) ?_ nofun
  rfl

/-- The name under which `read_and_update_channel` looks the updated channel up. -/
def resultingName (u : UpdateRequest) : Name :=
  if u.isChangeName then u.newChannelName else u.channelName

/-- An update that returns 0 stored what it was asked to store, and printed the channel that it
found afterwards. -/
theorem applyUpdate_zero {s : State} {env : Env} {u : UpdateRequest} {reply : Reply}
    (h : (applyUpdate s env u).value = .ok reply) (h0 : reply.result = 0) :
    ∃ s₁ c, renameStep s env u = some s₁ ∧ addStep s₁ env u = some (applyUpdate s env u).state ∧
      (applyUpdate s env u).state.getChannelInfo env (resultingName u) = some c ∧
      reply.token = serializeChannel c ++ serializeList c.userList c.userList ++
        serializeList c.adminList c.adminList ++ serializeList c.bannedList c.bannedList := by
  rw [applyUpdate] at h ⊢
  rw [← renameStep] at h ⊢
  cases h₁ : renameStep s env u with
  | none =>
    rw [h₁] at h
    cases h
    cases h0
  | some s₁ =>
    simp only [h₁] at h ⊢
    rw [← addStep] at h ⊢
    cases h₂ : addStep s₁ env u with
    | none =>
      rw [h₂] at h
      cases h
      cases h0
    | some s₂ =>
      simp only [h₂] at h ⊢
      rw [← resultingName] at h ⊢
      cases hc : s₂.getChannelInfo env (resultingName u) with
      | none =>
        rw [hc] at h
        cases h
        cases h0
      | some c =>
        rw [hc] at h
        cases h
        exact ⟨s₁, c, rfl, h₂, hc, rfl⟩

theorem readAndUpdateChannel_zero {s : State} {env : Env} {n : ℕ} {bytes : List UInt8}
    {reply : Reply} (h : (readAndUpdateChannel s env n bytes).value = .ok reply)
    (h0 : reply.result = 0) :
    ∃ u, parseUpdate (fields bytes) = .ok u ∧ namesRegistered s u = true ∧
      readAndUpdateChannel s env n bytes = applyUpdate s env u := by
  obtain ⟨_, hne⟩ | ⟨_, u, _, hu, _, hreg, heq⟩ := readAndUpdateChannel_cases s env n bytes
  · exact absurd h0 (hne reply h)
  · exact ⟨u, hu, hreg, heq⟩

/-- In every state of every life, an update that returns 0 leaves in its output what a request to
read the channel under its resulting name, with all three lists, is answered with afterwards. -/
theorem update_read_agree (es : List LifeEvent) (h : Life.Along FreshEvent Life.initial es)
    (env : Env) (n : ℕ) (bytes : List UInt8) (reply : Reply)
    (hupdate : (readAndUpdateChannel (Life.run es).state env n bytes).value = .ok reply)
    (h0 : reply.result = 0) :
    ∃ u, parseUpdate (fields bytes) = .ok u ∧
      ∀ env' n' bytes' rest, env'.channelOrder = env.channelOrder →
        bodyIncomplete n' bytes' = false →
        fields bytes' = (resultingName u).str :: ascii "1" :: ascii "1" :: ascii "1" :: rest →
        readAndReadChannel (readAndUpdateChannel (Life.run es).state env n bytes).state env' n'
            bytes' =
          .reply (readAndUpdateChannel (Life.run es).state env n bytes).state 0 reply.token := by
  obtain ⟨u, hu, hreg, heq⟩ := readAndUpdateChannel_zero hupdate h0
  refine ⟨u, hu, fun env' n' bytes' rest horder hn' hfs => ?_⟩
  rw [heq] at hupdate ⊢
  obtain ⟨s₁, c, h₁, h₂, hc, htoken⟩ := applyUpdate_zero hupdate h0
  have hkept := channelsKept_life h
  have hr : KeepsChannels (Life.run es).state _ s₁ := .renameStep hkept.shaped hkept.keyed h₁
  have ha : KeepsChannels (Life.run es).state s₁ _ := .addStep hr.1 (hkept.keyed.renameStep h₁)
    (fun name hname => registered_of_namesRegistered hreg hname) h₂
  obtain ⟨_, k, hk⟩ := getChannelInfo_some hc
  have hbanned : c.bannedList.members = [] := by
    rw [(ha.1 k c hk).banned, members_empty]
  have hfield : nextField tokenNameLength (fields bytes') =
      .ok (resultingName u, ascii "1" :: ascii "1" :: ascii "1" :: rest) :=
    nextField_eq_ok.mpr hfs
  have hfound : (applyUpdate (Life.run es).state env u).state.getChannelInfo env'
      (resultingName u) = some c := by
    rw [State.getChannelInfo, horder]
    exact hc
  rw [hfs] at hfield
  simp only [readAndReadChannel, hn', hfs, hfield, hfound, htoken,
    serializeList_of_no_members hbanned c.adminList, if_true, Bool.false_eq_true, if_false]

theorem update_read_agree_joinLife :
    (readAndUpdateChannel (Life.run teaLife).state Client.firstEnv 20
      (Client.body ["tea", "0", "0", "1", "1", "bob", "0", "0"])).value =
        .ok ⟨0, Client.body ["tea", "admin", "1", "2", "bob", "1", "admin", "0", ""], []⟩ ∧
    ∃ u, parseUpdate (fields (Client.body ["tea", "0", "0", "1", "1", "bob", "0", "0"])) = .ok u ∧
      ∀ env' n' bytes' rest, env'.channelOrder = Client.firstEnv.channelOrder →
        bodyIncomplete n' bytes' = false →
        fields bytes' = (resultingName u).str :: ascii "1" :: ascii "1" :: ascii "1" :: rest →
        readAndReadChannel (readAndUpdateChannel (Life.run teaLife).state Client.firstEnv 20
            (Client.body ["tea", "0", "0", "1", "1", "bob", "0", "0"])).state env' n' bytes' =
          .reply (readAndUpdateChannel (Life.run teaLife).state Client.firstEnv 20
            (Client.body ["tea", "0", "0", "1", "1", "bob", "0", "0"])).state 0
            (Client.body ["tea", "admin", "1", "2", "bob", "1", "admin", "0", ""]) :=
  ⟨by decide +kernel,
    update_read_agree teaLife (by decide +kernel) Client.firstEnv 20
      (Client.body ["tea", "0", "0", "1", "1", "bob", "0", "0"])
      ⟨0, Client.body ["tea", "admin", "1", "2", "bob", "1", "admin", "0", ""], []⟩
      (by decide +kernel) rfl⟩

section Decoding

variable {list printed : NameList} {c : ChannelInfo}

/-- What a list decodes to: the number of its names and the names. -/
def listFields (l : NameList) : List Str :=
  decimal l.members.length :: l.members.map (·.str)

/-- What a channel decodes to, with the lists that were asked for. -/
def channelFields (c : ChannelInfo) (users admins banned : Str) : List Str :=
  [c.channelName.str, c.creator.str, decimal (if c.publicity then 1 else 0)] ++
    ((if users = ascii "1" then listFields c.userList else []) ++
      ((if admins = ascii "1" then listFields c.adminList else []) ++
        (if banned = ascii "1" then listFields c.bannedList else [])))

theorem tokens_nil (d : UInt8) : tokens d [] = [] := by simp [tokens]

/-- A text that ends in ETX is one field or none. -/
theorem tokens_append_etx {t : Str} (h : etx ∉ t) (ts : Str) :
    tokens etx (t ++ etx :: ts) = (if t = [] then [] else [t]) ++ tokens etx ts := by
  rw [tokens_append_cons]
  by_cases ht : t = []
  · rw [if_pos ht, ht, tokens_nil]
  · rw [if_neg ht, tokens_of_not_mem h ht]

/-- What is printed behind the number of names: one name at most. -/
def printedNames (list printed : NameList) : List Str :=
  if list.members.length = 0 ∨
      (printed.slots.getD (list.members.length-1) (.empty _)).str = [] then []
  else [(printed.slots.getD (list.members.length-1) (.empty _)).str]

theorem tokens_serializeList (list : NameList) (h : ∀ u ∈ printed.slots, etx ∉ u.str) (ts : Str) :
    tokens etx (serializeList list printed ++ ts) =
      decimal list.members.length :: (printedNames list printed ++ tokens etx ts) := by
  have hdec : ∀ us, tokens etx (decimal list.members.length ++ etx :: us) =
      decimal list.members.length :: tokens etx us := by
    intro us
    rw [tokens_append_etx (etx_not_mem_decimal _), if_neg (decimal_ne_nil _)]
    rfl
  rw [serializeList, printedNames]
  cases hlen : list.members.length with
  | zero =>
    rw [hlen] at hdec
    dsimp only
    rw [if_pos rfl, if_pos (Or.inl rfl), List.append_assoc, List.append_assoc,
      List.singleton_append, List.singleton_append, hdec, ← List.nil_append (etx :: ts),
      tokens_append_cons, tokens_nil]
  | succ j =>
    rw [hlen] at hdec
    have hslot : etx ∉ (printed.slots.getD j (.empty _)).str := by
      by_cases hj : j < printed.slots.length
      · rw [List.getD_eq_getElem _ _ hj]
        exact h _ (List.getElem_mem hj)
      · rw [List.getD_eq_default _ _ (Nat.le_of_not_lt hj)]
        exact List.not_mem_nil
    dsimp only
    rw [if_neg (Nat.succ_ne_zero j), List.append_nil, List.append_assoc, List.cons_append, hdec,
      List.append_assoc, List.singleton_append, tokens_append_etx hslot]
    simp

theorem length_printedNames_le (list printed : NameList) :
    (printedNames list printed).length ≤ list.members.length := by
  rw [printedNames]
  split
  · exact Nat.zero_le _
  · rename_i h
    rw [List.length_singleton]
    omega

/-- The names of a list are printed if and only if there is none, or one and it stands in the first
slot of the array that is printed. -/
theorem printedNames_eq_iff (list printed : NameList) :
    printedNames list printed = list.members.map (·.str) ↔
      list.members = [] ∨ ∃ u, list.members = [u] ∧ printed.slots.head? = some u := by
  cases hm : list.members with
  | nil => simp [printedNames, hm]
  | cons u us =>
    have hne : u.str ≠ [] := by
      have hu := isEmpty_of_mem_members (l := list) (u := u) (by rw [hm]; exact List.mem_cons_self)
      simpa [CharArray.isEmpty] using hu
    cases us with
    | nil =>
      have hhead : printed.slots.getD 0 (.empty _) = u ↔ printed.slots.head? = some u := by
        cases hs : printed.slots with
        | nil =>
          have hsize := printed.size_eq
          rw [hs] at hsize
          cases hsize
        | cons v vs => simp
      simp only [printedNames, hm, List.length_singleton, Nat.sub_self, Nat.one_ne_zero, false_or,
        List.map_cons, List.map_nil, List.cons.injEq, and_true, reduceCtorEq, exists_eq_left']
      rw [← hhead]
      constructor
      · intro h
        split at h
        · cases h
        · exact CharArray.ext (List.singleton_inj.mp h)
      · intro h
        rw [h, if_neg hne]
    | cons v vs =>
      refine iff_of_false (fun h => ?_) (by simp)
      have hlen := congrArg List.length h
      simp only [printedNames] at hlen
      split at hlen
      · simp at hlen
      · simp at hlen

/-- Lists that are each no longer than its counterpart. -/
theorem append_eq_of_length_le {α : Type} {as bs xs ys : List α} (ha : as.length ≤ xs.length)
    (hb : bs.length ≤ ys.length) (h : as ++ bs = xs ++ ys) : as = xs ∧ bs = ys := by
  have hlen := congrArg List.length h
  rw [List.length_append, List.length_append] at hlen
  exact List.append_inj h (by omega)

/-- The fields of a list that may have been asked for. -/
def listTokens (flag : Str) (list printed : NameList) : List Str :=
  if flag = ascii "1" then decimal list.members.length :: printedNames list printed else []

theorem tokens_listTokens (flag : Str) (list : NameList) (h : ∀ u ∈ printed.slots, etx ∉ u.str)
    (ts : Str) :
    tokens etx ((if flag = ascii "1" then serializeList list printed else []) ++ ts) =
      listTokens flag list printed ++ tokens etx ts := by
  rw [listTokens]
  split
  · rw [tokens_serializeList list h, List.cons_append]
  · rfl

theorem length_listTokens_le (flag : Str) (list printed : NameList) :
    (listTokens flag list printed).length ≤
      (if flag = ascii "1" then listFields list else []).length := by
  rw [listTokens]
  split
  · have hle := length_printedNames_le list printed
    simp only [listFields, List.length_cons, List.length_map]
    omega
  · exact Nat.le_refl _

theorem listTokens_eq_iff (flag : Str) (list printed : NameList) :
    listTokens flag list printed = (if flag = ascii "1" then listFields list else []) ↔
      (flag = ascii "1" →
        list.members = [] ∨ ∃ u, list.members = [u] ∧ printed.slots.head? = some u) := by
  rw [← printedNames_eq_iff, listTokens]
  by_cases h : flag = ascii "1"
  · simp [h, listFields]
  · simp [h]

/-- A list that is printed from itself. -/
theorem length_le_one_iff (l : NameList) :
    (l.members = [] ∨ ∃ u, l.members = [u] ∧ l.slots.head? = some u) ↔ l.members.length ≤ 1 := by
  constructor
  · rintro (h | ⟨u, h, _⟩)
    · rw [h]; exact Nat.zero_le 1
    · rw [h]; exact Nat.le_refl 1
  · intro h
    cases hm : l.members with
    | nil => exact Or.inl rfl
    | cons u us =>
      rw [hm, List.length_cons] at h
      obtain rfl : us = [] := List.eq_nil_of_length_eq_zero (by omega)
      refine Or.inr ⟨u, rfl, ?_⟩
      -- the first member stands in the first slot
      have hsplit : l.members ++ l.slots.dropWhile (fun u => !u.isEmpty) = l.slots :=
        List.takeWhile_append_dropWhile
      rw [← hsplit, hm]
      rfl

theorem etx_not_mem_slots {l : NameList} (hl : l.Block) (h : ∀ u ∈ l.members, etx ∉ u.str) :
    ∀ u ∈ l.slots, etx ∉ u.str := hl.forall_slots List.not_mem_nil h

theorem tokens_serializeChannel (hname : c.channelName.str ≠ []) (hetx : etx ∉ c.channelName.str)
    (ts : Str) :
    tokens etx (serializeChannel c ++ ts) =
      c.channelName.str :: (tokens etx c.creator.str ++
        decimal (if c.publicity then 1 else 0) :: tokens etx ts) := by
  have hpub : tokens etx (decimal (if c.publicity then 1 else 0) ++ etx :: ts) =
      decimal (if c.publicity then 1 else 0) :: tokens etx ts := by
    cases c.publicity with
    | false => exact (tokens_append_etx (etx_not_mem_decimal 0) ts)
    | true => exact (tokens_append_etx (etx_not_mem_decimal 1) ts)
  rw [serializeChannel, List.append_assoc, List.append_assoc, List.append_assoc, List.cons_append,
    List.cons_append, List.singleton_append, tokens_append_etx hetx, if_neg hname,
    tokens_append_cons, hpub, List.singleton_append]

/-- The creator is one field, and every list that is asked for has at most one name. A banned user
is printed from the first slot of the list of administrators. -/
structure ReadsWhole (c : ChannelInfo) (users admins banned : Str) : Prop where
  creator : c.creator.str ≠ [] ∧ etx ∉ c.creator.str
  users : users = ascii "1" → c.userList.members.length ≤ 1
  admins : admins = ascii "1" → c.adminList.members.length ≤ 1
  banned : banned = ascii "1" → c.bannedList.members = [] ∨
    ∃ u, c.bannedList.members = [u] ∧ c.adminList.slots.head? = some u

/-- What the output decodes to. -/
theorem tokens_readChannel (hname : c.channelName.str ≠ []) (hetx : etx ∉ c.channelName.str)
    (hu : ∀ u ∈ c.userList.slots, etx ∉ u.str) (ha : ∀ u ∈ c.adminList.slots, etx ∉ u.str)
    (users admins banned : Str) :
    tokens etx (serializeChannel c ++
        (if users = ascii "1" then serializeList c.userList c.userList else []) ++
        (if admins = ascii "1" then serializeList c.adminList c.adminList else []) ++
        (if banned = ascii "1" then serializeList c.bannedList c.adminList else [])) =
      c.channelName.str :: (tokens etx c.creator.str ++
        decimal (if c.publicity then 1 else 0) :: (listTokens users c.userList c.userList ++
          (listTokens admins c.adminList c.adminList ++
            listTokens banned c.bannedList c.adminList))) := by
  have hlast := tokens_listTokens banned c.bannedList ha []
  rw [List.append_nil, tokens_nil, List.append_nil] at hlast
  rw [List.append_assoc, List.append_assoc, tokens_serializeChannel hname hetx,
    tokens_listTokens users c.userList hu, tokens_listTokens admins c.adminList ha, hlast]

/-- An output of these fields decodes to the channel if and only if every list has at most one
name. -/
theorem tokens_eq_channelFields_iff {out users admins banned : Str}
    (htokens : tokens etx out = c.channelName.str :: (tokens etx c.creator.str ++
      decimal (if c.publicity then 1 else 0) :: (listTokens users c.userList c.userList ++
        (listTokens admins c.adminList c.adminList ++
          listTokens banned c.bannedList c.adminList)))) :
    tokens etx out = channelFields c users admins banned ↔ ReadsWhole c users admins banned := by
  have husers := listTokens_eq_iff users c.userList c.userList
  have hadmins := listTokens_eq_iff admins c.adminList c.adminList
  have hbanned := listTokens_eq_iff banned c.bannedList c.adminList
  rw [length_le_one_iff] at husers hadmins
  constructor
  · intro h
    have hcreator : c.creator.str ≠ [] ∧ etx ∉ c.creator.str := by
      have hmem : c.creator.str ∈ tokens etx out := by
        rw [h]
        simp [channelFields]
      exact ⟨ne_nil_of_mem_tokens hmem, not_mem_of_mem_tokens hmem⟩
    rw [htokens, tokens_of_not_mem hcreator.2 hcreator.1, channelFields, List.singleton_append,
      List.cons_append, List.cons_append, List.cons_append, List.nil_append] at h
    simp only [List.cons.injEq, true_and] at h
    obtain ⟨h₁, h⟩ := append_eq_of_length_le (length_listTokens_le users c.userList c.userList)
      (by
        rw [List.length_append, List.length_append]
        exact Nat.add_le_add (length_listTokens_le admins c.adminList c.adminList)
          (length_listTokens_le banned c.bannedList c.adminList)) h
    obtain ⟨h₂, h₃⟩ := append_eq_of_length_le
      (length_listTokens_le admins c.adminList c.adminList)
      (length_listTokens_le banned c.bannedList c.adminList) h
    exact ⟨hcreator, husers.mp h₁, hadmins.mp h₂, hbanned.mp h₃⟩
  · intro h
    rw [htokens, tokens_of_not_mem h.creator.2 h.creator.1, husers.mpr h.users,
      hadmins.mpr h.admins, hbanned.mpr h.banned]
    rfl

end Decoding

/-- On every machine and whatever the state, for a channel whose strings end in their arrays: the
output of a request to read it, split at ETX, is the name, the creator and the publicity and then,
for every list that was asked for, its length and its names, if and only if the creator is one field
and every such list has at most one name, for the banned users the one in the first slot of the list
of administrators. -/
theorem read_channel_whole_iff (m : Machine) (s : State) (env : Env) (n : ℕ) (bytes : List UInt8)
    (name : Name) (users admins banned : Str) (rest : List Str) (c : ChannelInfo)
    (hn : bodyIncomplete n bytes = false)
    (hfs : fields bytes = name.str :: users :: admins :: banned :: rest)
    (hname : name.str.length < tokenNameLength)
    (hc : m.getChannelInfo s env (m.read .channelName name) = some c)
    (hstrings : cStrings.Channel c) (hu : c.userList.Block) (ha : c.adminList.Block)
    (hue : ∀ u ∈ c.userList.members, etx ∉ u.str) (hae : ∀ u ∈ c.adminList.members, etx ∉ u.str) :
    (∃ reply, m.readAndReadChannel s env n bytes = ⟨s, .ok reply⟩ ∧ reply.result = 0 ∧
      tokens etx reply.token = channelFields c users admins banned) ↔
        ReadsWhole c users admins banned := by
  have hmem : name.str ∈ fields bytes := by
    rw [hfs]
    exact List.mem_cons_self
  have hfield : nextField tokenNameLength (fields bytes) =
      .ok (name, users :: admins :: banned :: rest) := nextField_eq_ok.mpr hfs
  have hcn : c.channelName.str = name.str := by
    rw [← ChannelInfo.nameAt_eq m.heap hstrings,
      ← m.read_eq .channelName ⟨zero_not_mem_field hmem, hname⟩]
    exact m.nameAt_of_getChannelInfo hc
  have htokens := tokens_readChannel (c := c) (by rw [hcn]; exact ne_nil_of_mem_tokens hmem)
    (by rw [hcn]; exact not_mem_of_mem_tokens hmem) (etx_not_mem_slots hu hue)
    (etx_not_mem_slots ha hae) users admins banned
  have hiff := tokens_eq_channelFields_iff htokens
  rw [hfs] at hfield
  simp only [Machine.readAndReadChannel, hn, hfs, hfield, hc, Bool.false_eq_true, if_false,
    Machine.serializeChannel, hstrings, ChannelInfo.nameAt_eq, ChannelInfo.creatorAt_eq,
    ChannelInfo.usersAt_eq, ChannelInfo.adminsAt_eq, Machine.serializeList_eq]
  constructor
  · rintro ⟨reply, hreply, _, htok⟩
    cases hreply
    exact hiff.mp htok
  · intro h
    exact ⟨_, rfl, rfl, hiff.mpr h⟩

theorem strings_teaLife : cStrings.Holds (Life.run teaLife).state :=
  cStrings_run (by decide +kernel)

/-- The new channel of `teaLife` has one user, one administrator and nobody is banned. -/
theorem read_channel_whole_teaLife :
    ∃ reply, Client.machine.readAndReadChannel (Life.run teaLife).state Client.firstEnv 10
        (Client.body ["tea", "1", "1", "1"]) = ⟨(Life.run teaLife).state, .ok reply⟩ ∧
      reply.result = 0 ∧
      tokens etx reply.token = channelFields teaChannel (ascii "1") (ascii "1") (ascii "1") := by
  have hc : Client.machine.getChannelInfo (Life.run teaLife).state Client.firstEnv
      (Client.machine.read .channelName (CharArray.strncpy tokenNameLength (ascii "tea"))) =
        some teaChannel := by decide +kernel
  exact (read_channel_whole_iff Client.machine (Life.run teaLife).state Client.firstEnv 10
    (Client.body ["tea", "1", "1", "1"]) (CharArray.strncpy _ (ascii "tea")) (ascii "1") (ascii "1")
    (ascii "1") [] teaChannel (by decide) (by decide) (by decide) hc
    (Machine.channel_of_scan strings_teaLife (List.mem_of_find?_eq_some hc)) ⟨63, by decide⟩
    ⟨63, by decide⟩ (by decide) (by decide)).mpr
    ⟨by decide, fun _ => by decide, fun _ => by decide, fun _ => Or.inl (by decide)⟩

/-- With a second user in the channel, only the second one is printed. -/
theorem read_channel_not_whole :
    ∃ c, (Life.run (teaLife ++ joinLife)).state.getChannelInfo Client.firstEnv
        (CharArray.strncpy _ (ascii "tea")) = some c ∧
      c.userList.members = [adminName, CharArray.strncpy _ (ascii "bob")] ∧
      ¬ ∃ reply, readAndReadChannel (Life.run (teaLife ++ joinLife)).state Client.firstEnv 10
          (Client.body ["tea", "1", "0", "0"]) =
            ⟨(Life.run (teaLife ++ joinLife)).state, .ok reply⟩ ∧
        reply.result = 0 ∧
        tokens etx reply.token = channelFields c (ascii "1") (ascii "0") (ascii "0") := by
  obtain ⟨c, hc, hc'⟩ : ∃ c, (Life.run (teaLife ++ joinLife)).state.getChannelInfo
      Client.firstEnv (CharArray.strncpy _ (ascii "tea")) = some c ∧
      (c.userList.members, channelFields c (ascii "1") (ascii "0") (ascii "0")) =
        ([adminName, CharArray.strncpy _ (ascii "bob")],
          [ascii "tea", ascii "admin", ascii "1", ascii "2", ascii "admin", ascii "bob"]) :=
    Option.map_eq_some_iff.mp (by decide +kernel)
  obtain ⟨hmembers, hfields⟩ := Prod.mk.inj hc'
  refine ⟨c, hc, hmembers, ?_⟩
  rintro ⟨reply, hreply, _, htokens⟩
  have hout : (readAndReadChannel (Life.run (teaLife ++ joinLife)).state Client.firstEnv 10
      (Client.body ["tea", "1", "0", "0"])).value =
        .ok ⟨0, Client.body ["tea", "admin", "1", "2", "bob"], []⟩ := by decide +kernel
  rw [hreply] at hout
  cases hout
  rw [hfields] at htokens
  exact absurd htokens (by decide)

end ChatServer
