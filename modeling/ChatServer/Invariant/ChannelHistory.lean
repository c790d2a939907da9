import ChatServer.Lifetime
import ChatServer.Invariant.References

/-!
# The history of a channel

A channel record is written when the channel is created and rewritten as a whole by every update.
Its id, creator, administrators and banned users stay what they were, and its users only become
more: `add_users_on_channel` blanks the names that are already there and appends what stands
before the first blank.
-/

namespace ChatServer

open CLib

/-- The names of the list stand in front of nothing but empty slots. -/
def NameList.Block (l : NameList) : Prop :=
  ∃ n, l.slots = l.members ++ List.replicate n (.empty _)

/-- The slots of a block are its members and empty names. -/
theorem NameList.Block.forall_slots {l : NameList} (hl : l.Block) {P : Name → Prop}
    (h0 : P (.empty _)) (h : ∀ u ∈ l.members, P u) : ∀ u ∈ l.slots, P u := by
  obtain ⟨n, hn⟩ := hl
  intro u hu
  rw [hn, List.mem_append] at hu
  obtain hu | hu := hu
  · exact h u hu
  · rw [List.eq_of_mem_replicate hu]
    exact h0

/-- What every record of the channel database looks like. -/
structure ChannelShape (u : Uuid) (c : ChannelInfo) : Prop where
  id : c.channelId = u
  admins : c.adminList = NameList.empty.set 0 c.creator
  banned : c.bannedList = NameList.empty
  users : c.userList.Block
  first : c.userList.members.head? = some c.creator

/-- A later version of a channel record. -/
structure ChannelGrows (c c' : ChannelInfo) : Prop where
  creator : c'.creator = c.creator
  admins : c'.adminList = c.adminList
  banned : c'.bannedList = c.bannedList
  users : c.userList.members <+: c'.userList.members

/-- What a name needs to be appended to the users of `c` in the state `s`. -/
def Joins (s : State) (c : ChannelInfo) (name : Name) : Prop :=
  (∃ u, s.displayNames.lookup name = some u) ∧ name ∉ c.userList.members

/-- A version of a channel record that one event in the state `s` can make of `c`. -/
structure ChannelStep (s : State) (c c' : ChannelInfo) : Prop extends ChannelGrows c c' where
  appended : ∀ name ∈ c'.userList.members.drop c.userList.members.length, Joins s c name

/-- Every channel of `s` is still there in `s'`, in a version that an event in `s₀` can make. -/
def ChannelsStep (s₀ s s' : State) : Prop :=
  ∀ u c, s.channelInfo.lookup u = some c →
    ∃ c', s'.channelInfo.lookup u = some c' ∧ ChannelStep s₀ c c'

theorem ChannelStep.of_users_eq {s : State} {c c' : ChannelInfo} (hcreator : c'.creator = c.creator)
    (hadmins : c'.adminList = c.adminList) (hbanned : c'.bannedList = c.bannedList)
    (husers : c'.userList = c.userList) : ChannelStep s c c' := by
  refine ⟨⟨hcreator, hadmins, hbanned, by simp only [husers, List.prefix_rfl]⟩, ?_⟩
  rw [husers, List.drop_length]
  exact nofun

theorem ChannelStep.trans {s : State} {c c' c'' : ChannelInfo} (h : ChannelStep s c c')
    (h' : ChannelStep s c' c'') : ChannelStep s c c'' := by
  refine ⟨⟨h'.creator.trans h.creator, h'.admins.trans h.admins, h'.banned.trans h.banned,
    h.users.trans h'.users⟩, fun name hname => ?_⟩
  obtain ⟨vs, hvs⟩ := h.users
  obtain ⟨ws, hws⟩ := h'.users
  have hdrop := h'.appended name
  have hdrop₀ := h.appended name
  rw [← hws, List.drop_left] at hdrop
  rw [← hvs, List.drop_left] at hdrop₀
  rw [← hws, ← hvs, List.append_assoc, List.drop_left, List.mem_append] at hname
  rcases hname with hname | hname
  · exact hdrop₀ hname
  · -- who is no member later was none before
    obtain ⟨hreg, hnot⟩ := hdrop hname
    exact ⟨hreg, fun hm => hnot (h.users.subset hm)⟩

theorem ChannelsStep.refl (s₀ s : State) : ChannelsStep s₀ s s :=
  fun _ c hc => ⟨c, hc, .of_users_eq rfl rfl rfl rfl⟩

theorem ChannelsStep.trans {s₀ s s' s'' : State} (h : ChannelsStep s₀ s s')
    (h' : ChannelsStep s₀ s' s'') : ChannelsStep s₀ s s'' := by
  intro u c hc
  obtain ⟨c', hc', hs⟩ := h u c hc
  obtain ⟨c'', hc'', hs'⟩ := h' u c' hc'
  exact ⟨c'', hc'', hs.trans hs'⟩

section Loops

theorem members_of_slots {l : NameList} {ns : List Name} {n : ℕ}
    (h : l.slots = ns ++ List.replicate n (.empty _)) (hns : ∀ u ∈ ns, u.isEmpty = false) :
    l.members = ns := by
  rw [NameList.members, h, List.takeWhile_append_of_pos (fun u hu => by rw [hns u hu]; rfl)]
  cases n with
  | zero => simp
  | succ n => simp [List.replicate_succ, CharArray.isEmpty, CharArray.empty]

theorem isEmpty_of_mem_members {l : NameList} {u : Name} (h : u ∈ l.members) :
    u.isEmpty = false := by
  simpa using List.mem_takeWhile_imp h

/-- A name written to the first empty slot. -/
theorem slots_set_behind {l : NameList} {ns : List Name} {k : ℕ} (u : Name)
    (h : l.slots = ns ++ List.replicate (k+1) (.empty _)) :
    (l.set ns.length u).slots = (ns ++ [u]) ++ List.replicate k (.empty _) := by
  change l.slots.set _ _ = _
  rw [h, List.set_append_right _ _ (Nat.le_refl _), Nat.sub_self, List.replicate_succ,
    List.set_cons_zero, List.append_assoc, List.singleton_append]

/-- The second loop appends what stands before the first blank, as far as there is room. -/
theorem appendUsers_slots (us : List Name) {list : NameList} {ns : List Name} {n : ℕ}
    (h : list.slots = ns ++ List.replicate n (.empty _)) :
    ∃ m, (appendUsers list ns.length us).slots =
      ns ++ (us.takeWhile fun u => !u.isEmpty).take n ++ List.replicate m (.empty _) := by
  induction us generalizing list ns n with
  | nil => exact ⟨n, by simp [appendUsers, h]⟩
  | cons u us ih =>
    have hlen := list.size_eq
    rw [h, List.length_append, List.length_replicate] at hlen
    rw [appendUsers]
    by_cases hu : ns.length < defaultListSize ∧ u.isEmpty = false
    · -- there is room, so the slot behind the names is an empty one
      obtain ⟨k, rfl⟩ : ∃ k, n = k+1 := ⟨n-1, by omega⟩
      obtain ⟨m, hm⟩ := ih (slots_set_behind u h)
      rw [List.length_append, List.length_singleton] at hm
      refine ⟨m, ?_⟩
      rw [if_pos hu, hm]
      simp [hu.2]
    · refine ⟨n, ?_⟩
      rw [if_neg hu, h]
      by_cases hfull : ns.length < defaultListSize
      · have hblank : u.isEmpty = true := by simpa [hfull] using hu
        simp [hblank]
      · obtain rfl : n = 0 := by omega
        simp

/-- The names that `add_users_on_channel` appends: those listed before the first member, as far as
there is room. -/
def newcomers (l users : NameList) : List Name :=
  (users.members.takeWhile fun u => u ∉ l.members).take (defaultListSize - l.members.length)

theorem mem_users_of_newcomers {l users : NameList} {u : Name} (h : u ∈ newcomers l users) :
    u ∈ users.members := List.takeWhile_subset _ (List.mem_of_mem_take h)

theorem not_mem_of_newcomers {l users : NameList} {u : Name} (h : u ∈ newcomers l users) :
    u ∉ l.members := by
  simpa using List.mem_takeWhile_imp (List.mem_of_mem_take h)

/-- `add_users_on_channel` keeps the block and appends the newcomers. -/
theorem members_addUsers {l : NameList} (users : NameList) (h : l.Block) :
    (addUsers l users).Block ∧ (addUsers l users).members = l.members ++ newcomers l users := by
  obtain ⟨n, hn⟩ := h
  obtain ⟨m, hm⟩ :=
    appendUsers_slots (l.members.foldl (fun us m => blankUser m us) users.slots) hn
  have hroom : n = defaultListSize - l.members.length := by
    have hlen := l.size_eq
    rw [hn, List.length_append, List.length_replicate] at hlen
    omega
  rw [takeWhile_foldl_blankUser, hroom] at hm
  have hmem : (addUsers l users).members = l.members ++ newcomers l users := by
    refine members_of_slots hm fun u hu => ?_
    rcases List.mem_append.mp hu with hu | hu
    · exact isEmpty_of_mem_members hu
    · exact isEmpty_of_mem_members (mem_users_of_newcomers hu)
  exact ⟨⟨m, by rw [hmem]; exact hm⟩, hmem⟩

end Loops

/-- All channel records have the shape. -/
abbrev ChannelsShaped (s : State) : Prop := s.channelInfo.All ChannelShape

theorem channelShape_createChannel (u : Uuid) (name : Name) {d : Name} (hd : d.isEmpty = false)
    (p : Bool) : ChannelShape u (createChannel u name d p) := by
  have hslots : (NameList.empty.set 0 d).slots = [d] ++ List.replicate 63 (.empty _) := rfl
  have hmem : (NameList.empty.set 0 d).members = [d] := by
    refine members_of_slots hslots fun v hv => ?_
    rw [List.mem_singleton.mp hv, hd]
  refine ⟨rfl, rfl, rfl, ⟨63, ?_⟩, ?_⟩
  · rw [show (createChannel u name d p).userList = NameList.empty.set 0 d from rfl, hmem, hslots]
  · rw [show (createChannel u name d p).userList = NameList.empty.set 0 d from rfl, hmem]
    rfl

/-- What an event may do to the channels of `s`, seen from the state `s₀` it happens in. -/
def KeepsChannels (s₀ s s' : State) : Prop := ChannelsShaped s' ∧ ChannelsStep s₀ s s'

section Steps

variable {s₀ s : State} (hshape : ChannelsShaped s)
include hshape

theorem KeepsChannels.refl : KeepsChannels s₀ s s := ⟨hshape, .refl s₀ s⟩

theorem KeepsChannels.frame {s' : State} (h : s'.channelInfo = s.channelInfo) :
    KeepsChannels s₀ s s' := by
  rw [KeepsChannels, ChannelsShaped, ChannelsStep, h]
  exact KeepsChannels.refl hshape

/-- A new channel does not take the key of another one. -/
theorem KeepsChannels.create {c : ChannelInfo} (hnew : s.channelInfo.lookup c.channelId = none)
    (hc : ChannelShape c.channelId c) : KeepsChannels s₀ s (s.insertChannelInfo c) := by
  refine ⟨hshape.insert hc, fun u d hd => ?_⟩
  refine ⟨d, Dbm.lookup_insert_iff.mpr (Or.inr ⟨?_, hd⟩), .of_users_eq rfl rfl rfl rfl⟩
  rintro rfl
  rw [hnew] at hd
  cases hd

/-- A channel is written back under its own key. -/
theorem KeepsChannels.rewrite {c c' : ChannelInfo}
    (hc : s.channelInfo.lookup c.channelId = some c) (hid : c'.channelId = c.channelId)
    (hblock : c'.userList.Block) (hs : ChannelStep s₀ c c') :
    KeepsChannels s₀ s (s.insertChannelInfo c') := by
  have hold := hshape _ c hc
  have hfirst : c'.userList.members.head? = some c'.creator := by
    obtain ⟨vs, hvs⟩ := hs.users
    rw [← hvs, List.head?_append, hold.first, hs.creator]
    rfl
  refine ⟨hshape.insert ⟨rfl, ?_, hs.banned.trans hold.banned, hblock, hfirst⟩, fun u d hd => ?_⟩
  · rw [hs.admins, hs.creator]; exact hold.admins
  · by_cases hu : u = c.channelId
    · subst hu
      rw [hc] at hd
      cases hd
      exact ⟨c', Dbm.lookup_insert_iff.mpr (Or.inl ⟨hid.symm, rfl⟩), hs⟩
    · refine ⟨d, Dbm.lookup_insert_iff.mpr (Or.inr ⟨?_, hd⟩), .of_users_eq rfl rfl rfl rfl⟩
      rw [hid]; exact hu

theorem KeepsChannels.renameStep (hk : KeyedState s) {env : Env} {u : UpdateRequest} {s₁ : State}
    (h₁ : renameStep s env u = some s₁) : KeepsChannels s₀ s s₁ := by
  obtain rfl | ⟨c, _, hc, rfl⟩ := renameStep_cases h₁
  · exact .refl hshape
  · have hl := hk.lookup_getChannelInfo hc
    exact .rewrite hshape hl rfl (hshape _ c hl).users (.of_users_eq rfl rfl rfl rfl)

theorem KeepsChannels.addStep (hk : KeyedState s) {env : Env} {u : UpdateRequest} {s₁ : State}
    (hreg : ∀ name ∈ u.users.add.members, ∃ v, s₀.displayNames.lookup name = some v)
    (h₁ : addStep s env u = some s₁) : KeepsChannels s₀ s s₁ := by
  obtain rfl | ⟨c, hc, rfl⟩ := addStep_cases h₁
  · exact .refl hshape
  · have hl := hk.lookup_getChannelInfo hc
    obtain ⟨hblock, hmem⟩ := members_addUsers u.users.add (hshape _ c hl).users
    refine .rewrite hshape hl rfl hblock ⟨⟨rfl, rfl, rfl, ?_⟩, ?_⟩
    · exact ⟨_, hmem.symm⟩
    · intro name hname
      rw [hmem, List.drop_left] at hname
      exact ⟨hreg name (mem_users_of_newcomers hname), not_mem_of_newcomers hname⟩

theorem KeepsChannels.effect (hk : KeyedState s) {r : Request} {s' : State} {b : Bool}
    (hfresh : FreshEvent s (.request r)) (he : Effect s r s' b) : KeepsChannels s s s' := by
  cases he with
  | createChannel ht =>
    obtain ⟨name, d, p, rfl, hd, _, _⟩ := createChannelTarget_some ht
    exact .create hshape hfresh.no_channel (channelShape_createChannel _ _ hd _)
  | updateChannel ht h₁ h₂ =>
    have hr : KeepsChannels s s _ := .renameStep hshape hk h₁
    rcases h₂ with rfl | h₂
    · exact hr
    · have ha : KeepsChannels s _ _ := .addStep hr.1 (hk.renameStep h₁)
        (fun name hn => registered_of_update ht hn) h₂
      exact ⟨ha.1, hr.2.trans ha.2⟩
  | _ => exact .frame hshape rfl

end Steps

/-- One event of a life, be it a start or a request. -/
theorem KeepsChannels.step {v : Server} (hk : KeyedState v.state) (hshape : ChannelsShaped v.state)
    {e : LifeEvent} (hfresh : Life.happens v e = true → FreshEvent v.state e) :
    KeepsChannels v.state v.state (Life.step v e).state := by
  cases e with
  | start newProcess env =>
    refine Life.start_induction v newProcess env ?_ ?_ ?_ (.refl hshape)
    · exact fun _ => .frame hshape rfl
    · exact fun s hs _ => ⟨hs.1, hs.2⟩
    · intro s hs hch _
      have hnew : s.channelInfo.lookup env.uuid = none := by
        rw [hch]; exact (hfresh rfl).no_channel
      have hc : KeepsChannels v.state s (s.withGlobal env) :=
        .create hs.1 hnew (channelShape_createChannel _ _ rfl _)
      exact ⟨hc.1, hs.2.trans hc.2⟩
  | request r =>
    obtain ⟨_, he⟩ | ⟨hr, _, he⟩ := Life.step_request v r
    · rw [he]; exact .refl hshape
    · exact .effect hshape hk (hfresh hr) he

/-- What later events keep of the channels of `s₀`. -/
structure ChannelsKept (s₀ s : State) : Prop where
  keyed : KeyedState s
  shaped : ChannelsShaped s
  grown : ∀ u c, s₀.channelInfo.lookup u = some c →
    ∃ c', s.channelInfo.lookup u = some c' ∧ ChannelGrows c c'

theorem channelsKept_run {s₀ : State} {v : Server} (h : ChannelsKept s₀ v.state)
    {es : List LifeEvent} (hes : Life.Along FreshEvent v es) :
    ChannelsKept s₀ (Run.run Life.step v es).state := by
  refine Run.invariant (I := fun v => ChannelsKept s₀ v.state) ?_ h hes
  intro v e hv hc
  obtain ⟨hshape, hstep⟩ := KeepsChannels.step hv.keyed hv.shaped hc
  refine ⟨Life.keyed_step hv.keyed e, hshape, fun u c hu => ?_⟩
  obtain ⟨c', hc', hg⟩ := hv.grown u c hu
  obtain ⟨c'', hc'', hs⟩ := hstep u c' hc'
  exact ⟨c'', hc'', hs.creator.trans hg.creator, hs.admins.trans hg.admins,
    hs.banned.trans hg.banned, hg.users.trans hs.users⟩

/-- The channels of every life with fresh uuids. -/
theorem channelsKept_life {es : List LifeEvent} (h : Life.Along FreshEvent Life.initial es) :
    ChannelsKept .fresh (Life.run es).state :=
  channelsKept_run ⟨Life.keyedState_fresh, Dbm.All.empty _, fun _ _ hc => by cases hc⟩ h

/-- A channel, once it is there, is there in every later state of every life, under its own id,
with the creator, the administrators and the (empty) banned list it had and with its users in front
of those that were appended; and a user that one event appends is registered and was no member in
the state in which the event happened. -/
theorem channel_history (es : List LifeEvent) (h : Life.Along FreshEvent Life.initial es)
    (u : Uuid) (c : ChannelInfo) (hc : (Life.run es).state.channelInfo.lookup u = some c) :
    ChannelShape u c ∧
    (∀ es', Life.Along FreshEvent (Life.run es) es' →
      ∃ c', (Life.run (es ++ es')).state.channelInfo.lookup u = some c' ∧ ChannelShape u c' ∧
        ChannelGrows c c') ∧
    ∀ e, Life.Along FreshEvent (Life.run es) [e] →
      ∃ c', (Life.run (es ++ [e])).state.channelInfo.lookup u = some c' ∧
        ∀ name ∈ c'.userList.members.drop c.userList.members.length,
          (∃ w, (Life.run es).state.displayNames.lookup name = some w) ∧
            name ∉ c.userList.members := by
  have hkept := channelsKept_life h
  refine ⟨hkept.shaped u c hc, fun es' hes' => ?_, fun e he => ?_⟩
  · have hself : ChannelsKept (Life.run es).state (Life.run es).state :=
      ⟨hkept.keyed, hkept.shaped, fun _ c hc => ⟨c, hc, rfl, rfl, rfl, List.prefix_refl _⟩⟩
    have hkept' := channelsKept_run hself hes'
    obtain ⟨c', hc', hg⟩ := hkept'.grown u c hc
    rw [Life.run, Run.run_append]
    exact ⟨c', hc', hkept'.shaped u c' hc', hg⟩
  · obtain ⟨c', hc', hs⟩ := (KeepsChannels.step hkept.keyed hkept.shaped he.1).2 u c hc
    rw [Life.run, Run.run_append]
    exact ⟨c', hc', hs.appended⟩

/-- The administrator creates a channel in the first process. -/
def teaLife : List LifeEvent :=
  [.start true Client.firstEnv,
    .request (Client.createUser 5 "10.0.0.1" "bobt" "bob" "pw"
      "22222222-2222-2222-2222-222222222222"),
    .request (Client.login 6 "10.0.0.2" "admin" "admin"),
    .request (Client.createChannel 6 "10.0.0.2" "tea" "admin" "1"
      "33333333-3333-3333-3333-333333333333")]

/-- The public channel of `teaLife`. -/
def teaChannel : ChannelInfo :=
  createChannel (Client.uuid "33333333-3333-3333-3333-333333333333")
    (CharArray.strncpy _ (ascii "tea")) adminName true

/-- A second process, in which a user is added to the channel twice. -/
def joinLife : List LifeEvent :=
  [.start true (Client.env "44444444-4444-4444-4444-444444444444"),
    .request (Client.addMember 5 "10.0.0.1" "tea" "bob"),
    .request (Client.addMember 5 "10.0.0.1" "tea" "bob")]

theorem channel_history_teaLife :
    ((Life.run (teaLife ++ joinLife)).state.channelInfo.lookup
      (Client.uuid "33333333-3333-3333-3333-333333333333")).map (·.userList.members) =
        some [adminName, CharArray.strncpy _ (ascii "bob")] ∧
    ∃ c', (Life.run (teaLife ++ joinLife)).state.channelInfo.lookup
        (Client.uuid "33333333-3333-3333-3333-333333333333") = some c' ∧
      ChannelShape (Client.uuid "33333333-3333-3333-3333-333333333333") c' ∧
      ChannelGrows (createChannel (Client.uuid "33333333-3333-3333-3333-333333333333")
        (CharArray.strncpy _ (ascii "tea")) adminName true) c' :=
  ⟨by decide +kernel,
    (channel_history teaLife (by decide +kernel) _ _ (by decide +kernel)).2.1 joinLife
      (by decide +kernel)⟩

end ChatServer
