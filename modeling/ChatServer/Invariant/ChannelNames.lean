import ChatServer.Machine.Runs

/-!
# Channel names

Channels are stored under their uuid and found by scanning for their name. Creating a channel
looks the name up first; an update does not look up the name it writes, which is the empty one
when only the publicity changes.
-/

namespace ChatServer

open CLib

/-- An update that writes a channel name keeps the name of the channel or writes a free one. -/
def WritesFreeName (s : State) (r : Request) : Prop :=
  ∀ u ∈ updateTarget s r, (u.isChangeName || u.isChangePublicity) = true →
    u.newChannelName = u.channelName ∨ s.checkDuplicateChannelName r.env u.newChannelName = false

instance (s : State) (r : Request) : Decidable (WritesFreeName s r) :=
  inferInstanceAs (Decidable (∀ u ∈ updateTarget s r, _))

abbrev NamesDistinct (s : State) : Prop := s.channelInfo.Distinct ChannelInfo.channelName

section Steps

variable {s : State} (hk : KeyedState s) (h : NamesDistinct s)
include hk h

/-- Writing a found channel back under the name `name`. -/
theorem NamesDistinct.rewrite {env : Env} {old : Name} {c c' : ChannelInfo}
    (hc : s.getChannelInfo env old = some c) (hid : c'.channelId = c.channelId)
    (hfree : ∀ k d, s.channelInfo.lookup k = some d → d.channelName = c'.channelName →
      d.channelName = old) :
    NamesDistinct (s.insertChannelInfo c') := by
  refine Dbm.Distinct.insert h ?_
  intro k d hd hname
  rw [hid]
  refine h k c.channelId d c hd (hk.lookup_getChannelInfo hc) ?_
  exact (hfree k d hd hname).trans (getChannelInfo_some hc).1.symm

theorem NamesDistinct.renameStep {r : Request} {u : UpdateRequest} {s₁ : State}
    (hu : updateTarget s r = some u) (hfree : WritesFreeName s r)
    (h₁ : renameStep s r.env u = some s₁) : NamesDistinct s₁ := by
  obtain rfl | ⟨c, hchange, hc, rfl⟩ := renameStep_cases h₁
  · exact h
  · refine NamesDistinct.rewrite hk h hc rfl ?_
    intro k d hd hname
    -- the name written is the old one, or no channel has it
    rcases hfree u hu hchange with heq | hnone
    · exact hname.trans heq
    · rw [State.checkDuplicateChannelName, Option.isSome_eq_false_iff, Option.isNone_iff_eq_none]
        at hnone
      exact absurd hname (getChannelInfo_none hnone hd)

theorem NamesDistinct.addStep {env : Env} {u : UpdateRequest} {s₁ : State}
    (h₁ : addStep s env u = some s₁) : NamesDistinct s₁ := by
  obtain rfl | ⟨c, hc, rfl⟩ := addStep_cases h₁
  · exact h
  · refine NamesDistinct.rewrite hk h hc rfl ?_
    intro k d _ hname
    exact hname.trans (getChannelInfo_some hc).1

theorem NamesDistinct.effect {s' : State} {r : Request} {b : Bool} (hc : WritesFreeName s r)
    (he : Effect s r s' b) : NamesDistinct s' := by
  cases he with
  | createChannel ht =>
    obtain ⟨name, d, p, rfl, _, _, hnone⟩ := createChannelTarget_some ht
    refine Dbm.Distinct.insert h ?_
    intro k c hc hname
    exact absurd hname (getChannelInfo_none hnone hc)
  | updateChannel ht h₁ h₂ =>
    have hd := NamesDistinct.renameStep hk h ht hc h₁
    rcases h₂ with rfl | h₂
    · exact hd
    · exact NamesDistinct.addStep (hk.renameStep h₁) hd h₂
  | _ => exact h

end Steps

theorem namesDistinct_startUp (env : Env) : NamesDistinct (startUp env .fresh) := by
  rw [startUp_fresh]
  exact (Dbm.Distinct.empty _).insert nofun

/-- In every run on any machines in which all strings end in their arrays and no update writes the
name of another channel, no two channels have the same name, and a lookup by name does not depend on
the order in which the keys are enumerated. -/
theorem channel_names_unique (env : Env) (henv : env.uuid.Text) (xs : List (Machine × Request))
    (h : Machine.Along (fun s x => x.2.Ends ∧ WritesFreeName s x.2) (.started env) xs) :
    (∀ k k' c c', (Machine.run (.started env) xs).state.channelInfo.lookup k = some c →
      (Machine.run (.started env) xs).state.channelInfo.lookup k' = some c' →
      c.channelName = c'.channelName → k = k') ∧
    ∀ (m m' : Machine) (e e' : Env) (name : Str),
      m.getChannelInfo (Machine.run (.started env) xs).state e name =
        m'.getChannelInfo (Machine.run (.started env) xs).state e' name := by
  obtain ⟨_, hs, hd⟩ := Machine.invariant (keyedState_startUp env) (cStrings_startUp henv)
    (namesDistinct_startUp env) (fun _ _ _ _ hk _ hd hc he => NamesDistinct.effect hk hd hc he) h
  exact ⟨hd, fun m m' e e' name => Machine.getChannelInfo_congr hs hd m m' e e' name⟩

/-- The administrator creates a channel and renames it. -/
def renameRun (new : String) : List Request :=
  [Client.login 5 "10.0.0.1" "admin" "admin",
    Client.createChannel 5 "10.0.0.1" "tea" "admin" "1" "22222222-2222-2222-2222-222222222222",
    Client.renameChannel 5 "10.0.0.1" "tea" new]

theorem channel_names_unique_renameRun :
    (∀ k k' c c', (Machine.run Client.start
        (Client.on Client.machine (renameRun "mate"))).state.channelInfo.lookup k = some c →
      (Machine.run Client.start
        (Client.on Client.machine (renameRun "mate"))).state.channelInfo.lookup k' = some c' →
      c.channelName = c'.channelName → k = k') ∧
    ∀ (m m' : Machine) (e e' : Env) (name : Str),
      m.getChannelInfo (Machine.run Client.start
          (Client.on Client.machine (renameRun "mate"))).state e name =
        m'.getChannelInfo (Machine.run Client.start
          (Client.on Client.machine (renameRun "mate"))).state e' name :=
  channel_names_unique Client.firstEnv (by decide) (Client.on Client.machine (renameRun "mate"))
    (by decide +kernel)

/-- The new name is that of the global channel. -/
theorem channel_names_collide :
    Server.Along FreshUuid Client.start (renameRun "global") ∧
      ∃ k k' c c', (Client.start.run (renameRun "global")).state.channelInfo.lookup k = some c ∧
        (Client.start.run (renameRun "global")).state.channelInfo.lookup k' = some c' ∧
        c.channelName = c'.channelName ∧ k ≠ k' := by
  have h₁ : ((Client.start.run (renameRun "global")).state.channelInfo.lookup
      Client.firstEnv.uuid).map (·.channelName) = some (CharArray.strncpy _ (ascii "global")) := by
    decide +kernel
  have h₂ : ((Client.start.run (renameRun "global")).state.channelInfo.lookup
      (Client.uuid "22222222-2222-2222-2222-222222222222")).map (·.channelName) =
        some (CharArray.strncpy _ (ascii "global")) := by
    decide +kernel
  obtain ⟨c, hc, hn⟩ := Option.map_eq_some_iff.mp h₁
  obtain ⟨c', hc', hn'⟩ := Option.map_eq_some_iff.mp h₂
  exact ⟨by decide +kernel, _, _, c, c', hc, hc', hn.trans hn'.symm, by decide⟩

end ChatServer
