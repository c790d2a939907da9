import Mathlib.Data.Finset.Card
import ChatServer.Invariant.ChannelHistory
import ChatServer.Machine.Runs

/-!
# Adding members to a channel

`add_users_on_channel` blanks the names that are members already and then appends what stands
before the first blank. So a request is applied completely only when the names that are new stand
in front of all the others, and each of them once.
-/

namespace ChatServer

open CLib

section Lists

variable {l users : NameList}

/-- The list has the old members and all names of the request, each once. -/
structure AddsMembers (l users l' : NameList) : Prop where
  block : l'.Block
  nodup : l'.members.Nodup
  members : ∀ u, u ∈ l'.members ↔ u ∈ l.members ∨ u ∈ users.members

/-- The names of the request are names that are new, each once, and behind them names that are not.
What is behind them starts with a member, unless the list is full by then. -/
def NewNamesFirst (l users : NameList) : Prop :=
  ∃ p q, users.members = p ++ q ∧ p.Nodup ∧ (∀ u ∈ p, u ∉ l.members) ∧
    (∀ u ∈ q, u ∈ l.members ∨ u ∈ p) ∧
    ((∀ u ∈ q.head?, u ∈ l.members) ∨ l.members.length + p.length = defaultListSize)

theorem NameList.length_members_le (l : NameList) : l.members.length ≤ defaultListSize := by
  rw [← l.size_eq]
  exact (List.takeWhile_sublist _).length_le

/-- What is appended is the whole list, if it consists of different new names and all of them. -/
theorem addsMembers_iff (hl : l.Block) (hnodup : l.members.Nodup) :
    AddsMembers l users (addUsers l users) ↔
      (newcomers l users).Nodup ∧
        ∀ u ∈ users.members, u ∉ l.members → u ∈ newcomers l users := by
  obtain ⟨hblock, hmem⟩ := members_addUsers users hl
  constructor
  · intro h
    refine ⟨?_, fun u hu hnot => ?_⟩
    · have hboth := h.nodup
      rw [hmem] at hboth
      exact hboth.of_append_right
    · have hin := (h.members u).mpr (Or.inr hu)
      rw [hmem] at hin
      exact (List.mem_append.mp hin).resolve_left hnot
  · rintro ⟨hnew, hall⟩
    refine ⟨hblock, ?_, fun u => ?_⟩
    · rw [hmem, List.nodup_append']
      exact ⟨hnodup, hnew, fun u hu hu' => not_mem_of_newcomers hu' hu⟩
    · rw [hmem, List.mem_append]
      constructor
      · rintro (hu | hu)
        · exact Or.inl hu
        · exact Or.inr (mem_users_of_newcomers hu)
      · rintro (hu | hu)
        · exact Or.inl hu
        · by_cases hold : u ∈ l.members
          · exact Or.inl hold
          · exact Or.inr (hall u hu hold)

/-- Different new names have room when all names together do. -/
theorem length_le_of_union (hnodup : l.members.Nodup)
    (hunion : (l.members.toFinset ∪ users.members.toFinset).card ≤ defaultListSize) {p : List Name}
    (hp : p.Nodup) (hnew : ∀ u ∈ p, u ∉ l.members) (hsub : p ⊆ users.members) :
    l.members.length + p.length ≤ defaultListSize := by
  have hboth : (l.members ++ p).Nodup :=
    List.nodup_append'.mpr ⟨hnodup, hp, fun u hu hu' => hnew u hu' hu⟩
  have hle : (l.members ++ p).toFinset ⊆ l.members.toFinset ∪ users.members.toFinset := by
    rw [List.toFinset_append]
    refine Finset.union_subset_union_right ?_
    intro u hu
    exact List.mem_toFinset.mpr (hsub (List.mem_toFinset.mp hu))
  calc l.members.length + p.length = (l.members ++ p).toFinset.card := by
        rw [List.toFinset_card_of_nodup hboth, List.length_append]
    _ ≤ (l.members.toFinset ∪ users.members.toFinset).card := Finset.card_le_card hle
    _ ≤ defaultListSize := hunion

/-- With the new names first, they are what is appended. -/
theorem newcomers_eq {p q : List Name} (hsplit : users.members = p ++ q)
    (hnew : ∀ u ∈ p, u ∉ l.members) (hroom : l.members.length + p.length ≤ defaultListSize)
    (hnext : (∀ u ∈ q.head?, u ∈ l.members) ∨ l.members.length + p.length = defaultListSize) :
    newcomers l users = p := by
  rw [newcomers, hsplit, List.takeWhile_append_of_pos (fun u hu => decide_eq_true (hnew u hu))]
  obtain hhead | hfull := hnext
  · have hstop : (q.takeWhile fun u => u ∉ l.members) = [] := by
      cases q with
      | nil => rfl
      | cons v q => simp [hhead v rfl]
    rw [hstop, List.append_nil]
    exact List.take_of_length_le (by omega)
  · rw [show defaultListSize - l.members.length = p.length by omega]
    exact List.take_left

/-- The names that are appended are a first part of the request. -/
theorem newcomers_append_drop (l users : NameList) :
    newcomers l users ++ users.members.drop (newcomers l users).length = users.members := by
  have hpre : newcomers l users <+: users.members :=
    (List.take_prefix _ _).trans (List.takeWhile_prefix _)
  obtain ⟨q, hq⟩ := hpre
  rw [← hq, List.drop_left]

/-- Behind them the list is full or a member follows. -/
theorem head_behind_newcomers (l users : NameList) :
    (∀ u ∈ (users.members.drop (newcomers l users).length).head?, u ∈ l.members) ∨
      l.members.length + (newcomers l users).length = defaultListSize := by
  have hle := l.length_members_le
  by_cases hroom : (users.members.takeWhile fun u => u ∉ l.members).length ≤
      defaultListSize - l.members.length
  · left
    have hall : newcomers l users = users.members.takeWhile fun u => u ∉ l.members :=
      List.take_of_length_le hroom
    have hdrop : users.members.drop (newcomers l users).length =
        users.members.dropWhile fun u => u ∉ l.members := by
      rw [hall]
      exact Slots.drop_length_live users.members
    rw [hdrop]
    intro u hu
    have hne := List.head?_dropWhile_not (fun u => decide (u ∉ l.members)) users.members
    rw [Option.mem_def.mp hu] at hne
    simpa using hne
  · right
    rw [newcomers, List.length_take]
    omega

theorem newNamesFirst_iff (hnodup : l.members.Nodup)
    (hunion : (l.members.toFinset ∪ users.members.toFinset).card ≤ defaultListSize) :
    NewNamesFirst l users ↔ (newcomers l users).Nodup ∧
      ∀ u ∈ users.members, u ∉ l.members → u ∈ newcomers l users := by
  constructor
  · rintro ⟨p, q, hsplit, hp, hnew, hrest, hnext⟩
    have hsub : p ⊆ users.members := by
      rw [hsplit]
      exact List.subset_append_left p q
    have hroom := length_le_of_union hnodup hunion hp hnew hsub
    rw [newcomers_eq hsplit hnew hroom hnext]
    refine ⟨hp, fun u hu hnot => ?_⟩
    rw [hsplit, List.mem_append] at hu
    obtain hu | hu := hu
    · exact hu
    · exact (hrest u hu).resolve_left hnot
  · rintro ⟨hp, hall⟩
    refine ⟨newcomers l users, users.members.drop (newcomers l users).length,
      (newcomers_append_drop l users).symm, hp, fun u hu => not_mem_of_newcomers hu, fun u hu => ?_,
      head_behind_newcomers l users⟩
    by_cases hold : u ∈ l.members
    · exact Or.inl hold
    · exact Or.inr (hall u (List.mem_of_mem_drop hu) hold)

theorem addsMembers_iff_newNamesFirst (hl : l.Block) (hnodup : l.members.Nodup)
    (hunion : (l.members.toFinset ∪ users.members.toFinset).card ≤ defaultListSize) :
    AddsMembers l users (addUsers l users) ↔ NewNamesFirst l users := by
  rw [addsMembers_iff hl hnodup, newNamesFirst_iff hnodup hunion]

/-- Two requests one after the other: everybody of the three lists is a member. -/
theorem mem_addUsers_addUsers {users' : NameList} (hl : l.Block) (hnodup : l.members.Nodup)
    (hunion : (l.members.toFinset ∪ users.members.toFinset ∪ users'.members.toFinset).card ≤
      defaultListSize)
    (h : NewNamesFirst l users) (h' : NewNamesFirst (addUsers l users) users') (u : Name) :
    u ∈ (addUsers (addUsers l users) users').members ↔
      u ∈ l.members ∨ u ∈ users.members ∨ u ∈ users'.members := by
  have hfirst : (l.members.toFinset ∪ users.members.toFinset).card ≤ defaultListSize :=
    (Finset.card_le_card Finset.subset_union_left).trans hunion
  have hadds := (addsMembers_iff_newNamesFirst hl hnodup hfirst).mpr h
  have hsets : (addUsers l users).members.toFinset =
      l.members.toFinset ∪ users.members.toFinset := by
    ext v
    simp [hadds.members v]
  have hadds' := (addsMembers_iff_newNamesFirst hadds.block hadds.nodup
    (by rw [hsets]; exact hunion)).mpr h'
  rw [hadds'.members u, hadds.members u, or_assoc]

end Lists

/-- Adding `users` to a channel whose users are different names in front of empty slots, all names
having at most 20 bytes, stores on every machine the old members and all names of the request, each
once, if and only if the new names stand first. Two requests of which that holds in either order
leave the same members. -/
theorem add_users_complete_iff (m : Machine) (s : State) (env : Env) (name : Name) (c : ChannelInfo)
    (users : NameList) (hc : m.getChannelInfo s env (m.read .channelName name) = some c)
    (hmembers : ∀ u ∈ c.userList.members, u.Text) (husers : ∀ u ∈ users.members, u.Text)
    (hl : c.userList.Block) (hnodup : c.userList.members.Nodup) (hunion :
      (c.userList.members.toFinset ∪ users.members.toFinset).card ≤ defaultListSize) :
    (∃ s' l', m.addUsersOnChannel s env name users = some s' ∧
      s'.channelInfo.lookup c.channelId = some { c with userList := l' } ∧
      (AddsMembers c.userList users l' ↔ NewNamesFirst c.userList users)) ∧
    ∀ users' : NameList, (∀ u ∈ users'.members, u.Text) →
      (c.userList.members.toFinset ∪ users.members.toFinset ∪
        users'.members.toFinset).card ≤ defaultListSize →
      NewNamesFirst c.userList users → NewNamesFirst (m.addUsers c users) users' →
      NewNamesFirst c.userList users' → NewNamesFirst (m.addUsers c users') users →
      ∀ u, u ∈ (m.addUsers { c with userList := m.addUsers c users } users').members ↔
        u ∈ (m.addUsers { c with userList := m.addUsers c users' } users).members := by
  have hslots := hl.forall_slots cStrings.name_empty hmembers
  have hadd : ∀ users : NameList, (∀ u ∈ users.members, u.Text) →
      m.addUsers c users = addUsers c.userList users := fun users h => m.addUsers_eq hslots h
  have htext : ∀ users : NameList, (∀ u ∈ users.members, u.Text) →
      ∀ u ∈ (addUsers c.userList users).slots, u.Text := fun users h =>
    StringSpec.name_addUsers (F := cStrings) hslots h
  refine ⟨⟨s.insertChannelInfo { c with userList := m.addUsers c users }, m.addUsers c users, ?_,
    AList.lookup_insert _, ?_⟩, ?_⟩
  · rw [Machine.addUsersOnChannel, hc]
    rfl
  · rw [hadd users husers]
    exact addsMembers_iff_newNamesFirst hl hnodup hunion
  · intro users' husers' hall h h' k k' u
    rw [hadd users husers] at h' ⊢
    rw [hadd users' husers'] at k' ⊢
    rw [m.addUsers_eq (htext users husers) husers', m.addUsers_eq (htext users' husers') husers]
    have hswap := hall
    rw [Finset.union_right_comm] at hswap
    rw [mem_addUsers_addUsers hl hnodup hall h h' u, mem_addUsers_addUsers hl hnodup hswap k k' u]
    tauto

/-- The list of the names, in their order. -/
def Client.nameList (names : List String) : NameList :=
  (names.zipIdx.foldl fun l x => l.set x.2 (CharArray.strncpy _ (ascii x.1))) NameList.empty

theorem getChannelInfo_teaLife :
    (Life.run teaLife).state.getChannelInfo Client.firstEnv (CharArray.strncpy _ (ascii "tea")) =
      some teaChannel := by
  decide +kernel

/-- A user who is no member yet, in front of the administrator, who is one. -/
theorem add_users_complete_teaLife :
    ∃ s' l', Client.machine.addUsersOnChannel (Life.run teaLife).state Client.firstEnv
        (CharArray.strncpy _ (ascii "tea")) (Client.nameList ["bob", "admin"]) = some s' ∧
      s'.channelInfo.lookup teaChannel.channelId = some { teaChannel with userList := l' } ∧
      AddsMembers teaChannel.userList (Client.nameList ["bob", "admin"]) l' := by
  obtain ⟨s', l', hs', hl', hiff⟩ := (add_users_complete_iff Client.machine (Life.run teaLife).state
    Client.firstEnv (CharArray.strncpy _ (ascii "tea")) teaChannel
    (Client.nameList ["bob", "admin"]) (by decide +kernel) (by decide) (by decide) ⟨63, by decide⟩
    (by decide) (by decide)).1
  refine ⟨s', l', hs', hl', hiff.mpr ⟨[CharArray.strncpy _ (ascii "bob")], [adminName], ?_⟩⟩
  decide

/-- The member in front of the newcomer: the request returns 0, and the newcomer is no member. -/
theorem add_users_not_complete :
    ∃ s' l', (Life.run teaLife).state.addUsersOnChannel Client.firstEnv
        (CharArray.strncpy _ (ascii "tea")) (Client.nameList ["admin", "bob"]) = some s' ∧
      s'.channelInfo.lookup teaChannel.channelId = some { teaChannel with userList := l' } ∧
      ¬ AddsMembers teaChannel.userList (Client.nameList ["admin", "bob"]) l' := by
  refine ⟨(Life.run teaLife).state.insertChannelInfo { teaChannel with
      userList := addUsers teaChannel.userList (Client.nameList ["admin", "bob"]) }, _, ?_,
    AList.lookup_insert _, fun h => ?_⟩
  · rw [State.addUsersOnChannel, getChannelInfo_teaLife]
    rfl
  · have hbob := (h.members (CharArray.strncpy _ (ascii "bob"))).mpr (Or.inr (by decide))
    exact absurd hbob (by decide)

end ChatServer
