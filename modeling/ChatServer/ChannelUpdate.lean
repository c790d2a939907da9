import ChatServer.ChannelEncoding
import ChatServer.Handler.UpdateParser
import ChatServer.Invariant.ChannelNames
import ChatServer.Machine.Agreement

/-!
# The store operations of a channel update

`read_and_update_channel` applies an update in up to two store operations, each of which looks the
channel up by its old name, and ends with a third lookup. The first operation always writes both
attributes, the name and the publicity, also when only one of them was in the request.
-/

namespace ChatServer

open CLib

section Lookup

variable {s : State} {env : Env}

/-- Some channel has the name. -/
def Named (s : State) (name : Name) : Prop :=
  ∃ k c, s.channelInfo.lookup k = some c ∧ c.channelName = name

theorem getChannelInfo_ne_none_iff (env : Env) {name : Name} :
    s.getChannelInfo env name ≠ none ↔ Named s name := getChannelInfo_ne_none

theorem named_insert (s : State) (c : ChannelInfo) : Named (s.insertChannelInfo c) c.channelName :=
  ⟨c.channelId, c, AList.lookup_insert _, rfl⟩

/-- A channel other than the one that is written keeps its name. -/
theorem named_insert_of_ne {c d : ChannelInfo} {k : Uuid} (hd : s.channelInfo.lookup k = some d)
    (hne : k ≠ c.channelId) : Named (s.insertChannelInfo c) d.channelName :=
  ⟨k, d, Dbm.lookup_insert_iff.mpr (Or.inr ⟨hne, hd⟩), rfl⟩

/-- Writing a channel back with the name it has takes no name away. -/
theorem Named.insert_same {name : Name} (h : Named s name) {c c' : ChannelInfo}
    (hc : s.channelInfo.lookup c.channelId = some c) (hid : c'.channelId = c.channelId)
    (hname : c'.channelName = c.channelName) : Named (s.insertChannelInfo c') name := by
  obtain ⟨k, d, hd, rfl⟩ := h
  by_cases hk : k = c'.channelId
  · rw [hk, hid, hc, Option.some.injEq] at hd
    rw [← hd, ← hname]
    exact named_insert s c'
  · exact named_insert_of_ne hd hk

/-- Behind a rename of the only channel of its name nobody has the name. -/
theorem getChannelInfo_renamed {c c' : ChannelInfo} {name : Name} (hid : c'.channelId = c.channelId)
    (honly : ∀ k d, s.channelInfo.lookup k = some d → d.channelName = name → k = c.channelId)
    (hname : c'.channelName ≠ name) : (s.insertChannelInfo c').getChannelInfo env name = none := by
  by_contra h
  obtain ⟨k, d, hd, hdn⟩ := (getChannelInfo_ne_none_iff env).mp h
  obtain ⟨_, rfl⟩ | ⟨hne, hd⟩ := Dbm.lookup_insert_iff.mp hd
  · exact hname hdn
  · exact hne ((honly k d hd hdn).trans hid.symm)

end Lookup

section Applying

variable {s : State} {env : Env} {u : UpdateRequest} {c : ChannelInfo}

/-- The channel as the first store operation writes it. -/
def ChannelInfo.renamed (c : ChannelInfo) (u : UpdateRequest) : ChannelInfo :=
  { c with channelName := u.newChannelName, publicity := u.newPublicity }

/-- No other channel has the name, and an operation behind the rename looks for it. -/
def LosesChannel (s : State) (u : UpdateRequest) (c : ChannelInfo) : Prop :=
  (∀ k d, s.channelInfo.lookup k = some d → d.channelName = u.channelName → k = c.channelId) ∧
    ((u.isChangeName = true ∧ u.newChannelName ≠ u.channelName ∧ u.users.alter ≠ 48) ∨
      (u.isChangeName = false ∧ u.isChangePublicity = true))

theorem renameStep_of_change (hc : s.getChannelInfo env u.channelName = some c)
    (h : (u.isChangeName || u.isChangePublicity) = true) :
    renameStep s env u = some (s.insertChannelInfo (c.renamed u)) := by
  rw [renameStep, if_pos h, State.updateChannelNameAndPublicity, hc]
  rfl

theorem addStep_of_zero (h : u.users.alter = 48) : addStep s env u = some s :=
  if_neg (not_not.mpr h)

theorem addStep_of_found (hc : s.getChannelInfo env u.channelName = some c)
    (h : u.users.alter ≠ 48) :
    addStep s env u =
      some (s.insertChannelInfo { c with userList := addUsers c.userList u.users.add }) := by
  rw [addStep, if_pos h, State.addUsersOnChannel, hc]
  rfl

/-- The members of an update go to a channel that has its old name, or there is none. -/
theorem addStep_isSome (env : Env) (h : u.users.alter ≠ 48 → Named s u.channelName) :
    ∃ s', addStep s env u = some s' := by
  by_cases halter : u.users.alter = 48
  · exact ⟨s, addStep_of_zero halter⟩
  · obtain ⟨c, hc⟩ := Option.ne_none_iff_exists'.mp
      ((getChannelInfo_ne_none_iff env).mpr (h halter))
    exact ⟨_, addStep_of_found hc halter⟩

/-- New members take no channel name away. -/
theorem Named.addStep {name : Name} (h : Named s name) (hk : KeyedState s) {s' : State}
    (h' : addStep s env u = some s') : Named s' name := by
  obtain rfl | ⟨c, hc, rfl⟩ := addStep_cases h'
  · exact h
  · exact h.insert_same (hk.lookup_getChannelInfo hc) rfl rfl

theorem applyUpdate_add_none {s₁ : State} (h₁ : renameStep s env u = some s₁)
    (h₂ : addStep s₁ env u = none) : applyUpdate s env u = .reply s₁ errorChannel500 [] := by
  rw [applyUpdate, ← renameStep, h₁]
  dsimp only
  rw [← addStep, h₂]

theorem applyUpdate_lookup_none {s₁ s₂ : State} (h₁ : renameStep s env u = some s₁)
    (h₂ : addStep s₁ env u = some s₂) (h₃ : s₂.getChannelInfo env (resultingName u) = none) :
    applyUpdate s env u = .reply s₂ errorChannel500 [] := by
  rw [applyUpdate, ← renameStep, h₁]
  dsimp only
  rw [← addStep, h₂]
  dsimp only
  rw [← resultingName, h₃]

theorem applyUpdate_found {s₁ s₂ : State} (h₁ : renameStep s env u = some s₁)
    (h₂ : addStep s₁ env u = some s₂) (h₃ : Named s₂ (resultingName u)) :
    ∃ reply, applyUpdate s env u = ⟨s₂, .ok reply⟩ ∧ reply.result = 0 := by
  obtain ⟨c, hc⟩ := Option.ne_none_iff_exists'.mp
    ((getChannelInfo_ne_none_iff env).mpr h₃)
  rw [applyUpdate, ← renameStep, h₁]
  dsimp only
  rw [← addStep, h₂]
  dsimp only
  rw [← resultingName, hc]
  exact ⟨_, rfl, rfl⟩

/-- The rename is stored, and the request fails on the name that it took away. -/
theorem applyUpdate_of_loses (hc : s.getChannelInfo env u.channelName = some c)
    (hempty : u.isChangeName = false → u.newChannelName ≠ u.channelName)
    (h : LosesChannel s u c) :
    applyUpdate s env u = .reply (s.insertChannelInfo (c.renamed u)) errorChannel500 [] := by
  obtain ⟨honly, hcase⟩ := h
  have hchange : (u.isChangeName || u.isChangePublicity) = true := by
    obtain ⟨h, _⟩ | ⟨_, h⟩ := hcase
    · rw [h, Bool.true_or]
    · rw [h, Bool.or_true]
  have hnew : u.newChannelName ≠ u.channelName := by
    obtain ⟨_, h, _⟩ | ⟨h, _⟩ := hcase
    · exact h
    · exact hempty h
  have h₁ := renameStep_of_change hc hchange
  have hgone : (s.insertChannelInfo (c.renamed u)).getChannelInfo env u.channelName = none :=
    getChannelInfo_renamed rfl honly hnew
  by_cases halter : u.users.alter = 48
  · -- without new members only the last lookup is left, by the old name
    have hname : u.isChangeName = false := by
      obtain ⟨_, _, h⟩ | ⟨h, _⟩ := hcase
      · exact absurd halter h
      · exact h
    refine applyUpdate_lookup_none h₁ (addStep_of_zero halter) ?_
    rw [resultingName, if_neg (by simp [hname]), hgone]
  · refine applyUpdate_add_none h₁ ?_
    rw [addStep, if_pos halter, State.addUsersOnChannel, hgone]
    rfl

/-- Any other update of a channel returns 0. -/
theorem applyUpdate_of_keeps (hk : KeyedState s)
    (hc : s.getChannelInfo env u.channelName = some c) (h : ¬ LosesChannel s u c) :
    ∃ s₁ s₂ reply, renameStep s env u = some s₁ ∧ addStep s₁ env u = some s₂ ∧
      applyUpdate s env u = ⟨s₂, .ok reply⟩ ∧ reply.result = 0 := by
  have hold : Named s u.channelName :=
    (getChannelInfo_ne_none_iff env).mp (by rw [hc]; exact Option.some_ne_none c)
  by_cases hchange : (u.isChangeName || u.isChangePublicity) = true
  · have h₁ := renameStep_of_change hc hchange
    have hk₁ := hk.renameStep h₁
    have hnew := named_insert s (c.renamed u)
    -- a name that an operation still looks for is there
    have hleft : u.isChangeName = false ∨ u.users.alter ≠ 48 →
        Named (s.insertChannelInfo (c.renamed u)) u.channelName := by
      intro hlooks
      by_contra hno
      refine h ⟨fun k d hd hdn => ?_, ?_⟩
      · by_contra hne
        exact hno (hdn ▸ named_insert_of_ne hd hne)
      · have hne : u.newChannelName ≠ u.channelName := fun he => hno (he ▸ hnew)
        cases hname : u.isChangeName with
        | true =>
          rw [hname] at hlooks
          exact Or.inl ⟨rfl, hne, hlooks.resolve_left (by simp)⟩
        | false =>
          rw [hname, Bool.false_or] at hchange
          exact Or.inr ⟨rfl, hchange⟩
    obtain ⟨s₂, h₂⟩ := addStep_isSome env fun halter => hleft (Or.inr halter)
    have hfound : Named s₂ (resultingName u) := by
      refine Named.addStep ?_ hk₁ h₂
      cases hname : u.isChangeName with
      | true => rw [resultingName, if_pos hname]; exact hnew
      | false => rw [resultingName, if_neg (by simp [hname])]; exact hleft (Or.inl hname)
    obtain ⟨reply, hreply, h0⟩ := applyUpdate_found h₁ h₂ hfound
    exact ⟨_, s₂, reply, h₁, h₂, hreply, h0⟩
  · have h₁ : renameStep s env u = some s := if_neg hchange
    obtain ⟨s₂, h₂⟩ := addStep_isSome env fun _ => hold
    have hname : resultingName u = u.channelName := by
      rw [Bool.or_eq_true, not_or] at hchange
      exact if_neg hchange.1
    obtain ⟨reply, hreply, h0⟩ := applyUpdate_found h₁ h₂ (hname ▸ hold.addStep hk h₂)
    exact ⟨s, s₂, reply, h₁, h₂, hreply, h0⟩

end Applying

/-- The three alterations "0". -/
def noAlterations : List Str := [ascii "0", ascii "0", ascii "0"]

def Alteration.none : Alteration := ⟨48, .empty, .empty⟩

/-- The request that the flags and values make, without an alteration of a list. -/
def flagUpdate (name : Name) (f₁ new f₂ publicity : Str) : UpdateRequest where
  channelName := name
  isChangeName := (flagValue f₁ new).isSome
  newChannelName := CharArray.strncpy _ ((flagValue f₁ new).getD [])
  isChangePublicity := (flagValue f₂ publicity).isSome
  newPublicity := flagValue f₂ publicity = some (ascii "1")
  users := .none
  admins := .none
  banned := .none

theorem parseUpdate_flags (name : Name) (f₁ new f₂ publicity : Str) :
    parseUpdate (name.str :: (flagged f₁ new ++ (flagged f₂ publicity ++ noAlterations))) =
      .ok (flagUpdate name f₁ new f₂ publicity) := by
  have hname : CharArray.strncpyLen? tokenNameLength name.str = some name :=
    CharArray.strncpyLen?_eq_some.mpr rfl
  have hzero : ∀ ts, readAlteration (ascii "0" :: ts) = .ok (.none, ts) := fun _ => rfl
  simp only [parseUpdate, requireToken, hname, readFlagged_flagged, noAlterations, hzero, bind,
    Except.bind, pure, Except.pure]
  rfl

/-- The channel has the new name and the new publicity, where there is one, and nothing else has
changed. -/
structure ChangesFlagged (s : State) (c : ChannelInfo) (name : Option Name)
    (publicity : Option Bool) (out : Outcome) : Prop where
  returns : ∃ reply, out.value = .ok reply ∧ reply.result = 0
  channels : ∀ k, out.state.channelInfo.lookup k =
    if k = c.channelId then
      some { c with channelName := name.getD c.channelName
                    publicity := publicity.getD c.publicity }
    else s.channelInfo.lookup k
  rest : out.state = { s with channelInfo := out.state.channelInfo }

section Requests

variable {s : State} {env : Env} {n : ℕ} {bytes : List UInt8} {u : UpdateRequest} {c : ChannelInfo}

/-- A request that gets past every check is applied. -/
theorem readAndUpdateChannel_eq (hn : bodyIncomplete n bytes = false)
    (hu : parseUpdate (fields bytes) = .ok u) (hc : s.getChannelInfo env u.channelName = some c)
    (hreg : namesRegistered s u = true) :
    readAndUpdateChannel s env n bytes = applyUpdate s env u := by
  rw [readAndUpdateChannel, if_neg (by simp [hn]), hu]
  dsimp only
  rw [if_neg (by simp [hc]), if_neg (by simp [hreg])]

theorem namesRegistered_none (hu : u.users = .none) (ha : u.admins = .none)
    (hb : u.banned = .none) : namesRegistered s u = true := by
  rw [namesRegistered, hu, ha, hb]
  simp [Alteration.none, members_empty]

/-- Storing the channel `c₁` in place of `c` is right if and only if `c₁` is. -/
theorem changesFlagged_insert {c₁ : ChannelInfo} {name : Option Name} {publicity : Option Bool}
    {reply : Reply} (hid : c₁.channelId = c.channelId) (h0 : reply.result = 0) :
    ChangesFlagged s c name publicity ⟨s.insertChannelInfo c₁, .ok reply⟩ ↔
      c₁ = { c with channelName := name.getD c.channelName
                    publicity := publicity.getD c.publicity } := by
  constructor
  · intro h
    have hk := h.channels c.channelId
    rw [if_pos rfl] at hk
    have hins : (s.insertChannelInfo c₁).channelInfo.lookup c.channelId = some c₁ := by
      rw [← hid]
      exact AList.lookup_insert _
    exact Option.some.inj (hins.symm.trans hk)
  · intro h
    refine ⟨⟨reply, rfl, h0⟩, fun k => ?_, rfl⟩
    rw [← h, ← hid]
    exact Dbm.lookup_insert_eq s.channelInfo c₁.channelId c₁ k

/-- Without a change nothing is stored. -/
theorem changesFlagged_unchanged (hc : s.channelInfo.lookup c.channelId = some c) {reply : Reply}
    (h0 : reply.result = 0) : ChangesFlagged s c none none ⟨s, .ok reply⟩ := by
  refine ⟨⟨reply, rfl, h0⟩, fun k => ?_, rfl⟩
  by_cases hk : k = c.channelId
  · rw [if_pos hk, hk]
    exact hc
  · rw [if_neg hk]

variable {name : Name} {f₁ f₂ : Str} (new publicity : Str)

/-- Without alterations, an update that does not lose the channel ends with the first step. -/
theorem applyUpdate_flags {s' : State} (hk : KeyedState s)
    (hc : s.getChannelInfo env name = some c)
    (hkeeps : ¬ LosesChannel s (flagUpdate name f₁ new f₂ publicity) c)
    (hrename : renameStep s env (flagUpdate name f₁ new f₂ publicity) = some s') :
    ∃ reply, applyUpdate s env (flagUpdate name f₁ new f₂ publicity) = ⟨s', .ok reply⟩ ∧
      reply.result = 0 := by
  obtain ⟨s₁, s₂, reply, hr, ha, heq, h0⟩ := applyUpdate_of_keeps
    (u := flagUpdate name f₁ new f₂ publicity) hk hc hkeeps
  rw [addStep_of_zero rfl, Option.some.injEq] at ha
  rw [hrename, Option.some.injEq] at hr
  rw [← ha, ← hr] at heq
  exact ⟨reply, heq, h0⟩

/-- With the flag of the name the channel is written and found under its new name. -/
theorem applyUpdate_flags_name (f₂ : Str) (hk : KeyedState s)
    (hc : s.getChannelInfo env name = some c) (h₁ : f₁ = ascii "1") :
    ∃ reply, applyUpdate s env (flagUpdate name f₁ new f₂ publicity) =
      ⟨s.insertChannelInfo (c.renamed (flagUpdate name f₁ new f₂ publicity)), .ok reply⟩ ∧
        reply.result = 0 := by
  have hname : (flagUpdate name f₁ new f₂ publicity).isChangeName = true := by
    simp [flagUpdate, flagValue, h₁]
  have hkeeps : ¬ LosesChannel s (flagUpdate name f₁ new f₂ publicity) c := by
    rintro ⟨_, ⟨_, _, h⟩ | ⟨h, _⟩⟩
    · exact h rfl
    · rw [hname] at h
      cases h
  exact applyUpdate_flags new publicity hk hc hkeeps
    (renameStep_of_change hc (by rw [hname, Bool.true_or]))

/-- Without a flag nothing is written. -/
theorem applyUpdate_flags_none (hk : KeyedState s) (hc : s.getChannelInfo env name = some c)
    (h₁ : f₁ ≠ ascii "1") (h₂ : f₂ ≠ ascii "1") :
    ∃ reply, applyUpdate s env (flagUpdate name f₁ new f₂ publicity) = ⟨s, .ok reply⟩ ∧
      reply.result = 0 := by
  have hname : (flagUpdate name f₁ new f₂ publicity).isChangeName = false := by
    simp [flagUpdate, flagValue, h₁]
  have hpub : (flagUpdate name f₁ new f₂ publicity).isChangePublicity = false := by
    simp [flagUpdate, flagValue, h₂]
  have hkeeps : ¬ LosesChannel s (flagUpdate name f₁ new f₂ publicity) c := by
    rintro ⟨_, ⟨_, _, h⟩ | ⟨_, h⟩⟩
    · exact h rfl
    · rw [hpub] at h
      cases h
  exact applyUpdate_flags new publicity hk hc hkeeps
    (by rw [renameStep, if_neg (by simp [hname, hpub])])

/-- With the flag of the publicity alone the channel loses its name. -/
theorem applyUpdate_flags_publicity (hk : KeyedState s) (hd : NamesDistinct s)
    (hc : s.getChannelInfo env name = some c) (hname : name.isEmpty = false)
    (h₁ : f₁ ≠ ascii "1") (h₂ : f₂ = ascii "1") :
    ∃ s', applyUpdate s env (flagUpdate name f₁ new f₂ publicity) =
      .reply s' errorChannel500 [] := by
  refine ⟨_, applyUpdate_of_loses (c := c) hc ?_ ⟨fun k d hdk hdn => ?_, Or.inr ⟨?_, ?_⟩⟩⟩
  · intro _ he
    have he : CharArray.strncpy _ ((flagValue f₁ new).getD []) = name := he
    rw [← he] at hname
    simp [flagValue, h₁, CharArray.isEmpty, CharArray.strncpy] at hname
  · exact hd k c.channelId d c hdk (hk.lookup_getChannelInfo hc)
      (hdn.trans (getChannelInfo_some hc).1.symm)
  · simp [flagUpdate, flagValue, h₁]
  · simp [flagUpdate, flagValue, h₂]

end Requests

/-- A flagged name is written together with the publicity, which is 0 if it is not flagged. -/
theorem renamed_flagUpdate (name : Name) (c : ChannelInfo) (new : Name) {f₁ : Str}
    (h₁ : f₁ = ascii "1") (f₂ publicity : Str) :
    c.renamed (flagUpdate name f₁ new.str f₂ publicity) =
      { c with channelName := new
               publicity := decide (flagValue f₂ publicity = some (ascii "1")) } := by
  simp [ChannelInfo.renamed, flagUpdate, flagValue, h₁]

/-- In every state of every life with distinct channel names, an update of an existing channel
without alterations of its lists changes exactly what is flagged if and only if a change of the
publicity comes with a change of the name, and a change of the name alone is one of a channel whose
publicity is 0. -/
theorem update_flagged_iff (es : List LifeEvent) (env : Env) (n : ℕ) (bytes : List UInt8)
    (name new : Name) (f₁ f₂ publicity : Str) (c : ChannelInfo)
    (hdistinct : NamesDistinct (Life.run es).state) (hn : bodyIncomplete n bytes = false)
    (hfs : fields bytes =
      name.str :: (flagged f₁ new.str ++ (flagged f₂ publicity ++ noAlterations)))
    (hc : (Life.run es).state.getChannelInfo env name = some c) :
    ChangesFlagged (Life.run es).state c (if f₁ = ascii "1" then some new else none)
        (if f₂ = ascii "1" then some (decide (publicity = ascii "1")) else none)
        (readAndUpdateChannel (Life.run es).state env n bytes) ↔
      (f₂ = ascii "1" → f₁ = ascii "1") ∧
        (f₁ = ascii "1" → f₂ ≠ ascii "1" → c.publicity = false) := by
  have hk := Life.keyed_run es
  have hparse : parseUpdate (fields bytes) = .ok (flagUpdate name f₁ new.str f₂ publicity) := by
    rw [hfs]
    exact parseUpdate_flags ..
  rw [readAndUpdateChannel_eq hn hparse hc (namesRegistered_none rfl rfl rfl)]
  by_cases h₁ : f₁ = ascii "1"
  · obtain ⟨reply, heq, h0⟩ := applyUpdate_flags_name new.str publicity f₂ hk hc h₁
    have hid : (c.renamed (flagUpdate name f₁ new.str f₂ publicity)).channelId = c.channelId := rfl
    rw [heq, changesFlagged_insert hid h0, renamed_flagUpdate name c new h₁, if_pos h₁]
    by_cases h₂ : f₂ = ascii "1"
    · refine iff_of_true ?_ ⟨fun _ => h₁, fun _ h => absurd h₂ h⟩
      simp [flagValue, h₂]
    · rw [flagValue, if_neg h₂, if_neg h₂]
      constructor
      · intro h
        exact ⟨fun h' => absurd h' h₂, fun _ _ => (congrArg ChannelInfo.publicity h).symm⟩
      · intro h
        rw [Option.getD_none, h.2 h₁ h₂]
        rfl
  · by_cases h₂ : f₂ = ascii "1"
    · have hmem : name.str ∈ fields bytes := by
        rw [hfs]
        exact List.mem_cons_self
      obtain ⟨s', heq⟩ := applyUpdate_flags_publicity new.str publicity hk hdistinct hc
        (isEmpty_of_mem_fields hmem) h₁ h₂
      refine iff_of_false (fun h => ?_) (fun h => h₁ (h.1 h₂))
      rw [heq] at h
      obtain ⟨reply, hreply, h0⟩ := h.returns
      cases hreply
      cases h0
    · obtain ⟨reply, heq, h0⟩ := applyUpdate_flags_none new.str publicity hk hc h₁ h₂
      rw [heq, if_neg h₁, if_neg h₂]
      exact iff_of_true (changesFlagged_unchanged (hk.lookup_getChannelInfo hc) h0)
        ⟨fun h => absurd h h₂, fun h => absurd h h₁⟩

theorem namesDistinct_teaLife : NamesDistinct (Life.run teaLife).state :=
  Dbm.Distinct.of_nodup (by decide +kernel)

/-- A new name and a new publicity together. -/
theorem update_flagged_teaLife :
    ChangesFlagged (Life.run teaLife).state teaChannel (some (CharArray.strncpy _ (ascii "mate")))
      (some false) (readAndUpdateChannel (Life.run teaLife).state Client.firstEnv 21
        (Client.body ["tea", "1", "mate", "1", "0", "0", "0", "0"])) :=
  (update_flagged_iff teaLife Client.firstEnv 21
    (Client.body ["tea", "1", "mate", "1", "0", "0", "0", "0"]) (CharArray.strncpy _ (ascii "tea"))
    (CharArray.strncpy _ (ascii "mate")) (ascii "1") (ascii "1") (ascii "0") teaChannel
    namesDistinct_teaLife (by decide) (by decide) (by decide +kernel)).mpr
    ⟨fun h => h, fun _ h => absurd rfl h⟩

/-- A new publicity alone: the channel has lost its name, and the request fails. -/
theorem update_not_flagged :
    (Life.run teaLife).state.getChannelInfo Client.firstEnv (CharArray.strncpy _ (ascii "tea")) =
        some teaChannel ∧
      ¬ ChangesFlagged (Life.run teaLife).state teaChannel none (some false)
        (readAndUpdateChannel (Life.run teaLife).state Client.firstEnv 16
          (Client.body ["tea", "0", "1", "0", "0", "0", "0"])) := by
  refine ⟨by decide +kernel, fun h => ?_⟩
  have hname := h.channels (Client.uuid "33333333-3333-3333-3333-333333333333")
  exact absurd hname (by decide +kernel)

section Atomic

variable {s : State} {env : Env} {n : ℕ} {bytes : List UInt8} {u : UpdateRequest} {c : ChannelInfo}

/-- A request that returns an error leaves the channel database as it was. -/
def UpdateAtomic (s : State) (out : Outcome) : Prop :=
  ∀ reply, out.value = .ok reply → reply.result ≠ 0 → out.state.channelInfo = s.channelInfo

/-- The channel name of a request is not empty, and a new one is only there if it is flagged. -/
theorem newChannelName_ne (hu : parseUpdate (fields bytes) = .ok u)
    (h : u.isChangeName = false) : u.newChannelName ≠ u.channelName := by
  obtain ⟨name, ts, newName, _, _, _, _, _, hfs, hname, _, _, _, _, _, hchange, hnew⟩ :=
    parseUpdate_stages hu
  have hmem : u.channelName.str ∈ fields bytes := by
    rw [CharArray.strncpyLen?_eq_some.mp hname, hfs]
    exact List.mem_cons_self
  rw [hchange, Option.isSome_eq_false_iff, Option.isNone_iff_eq_none] at h
  intro he
  have hne := isEmpty_of_mem_fields hmem
  rw [← he, hnew, h] at hne
  cases hne

/-- The rename is there, although the request failed. -/
theorem not_updateAtomic (hk : KeyedState s) (hn : bodyIncomplete n bytes = false)
    (hu : parseUpdate (fields bytes) = .ok u) (hc : s.getChannelInfo env u.channelName = some c)
    (hreg : namesRegistered s u = true) (h : LosesChannel s u c) :
    ¬ UpdateAtomic s (readAndUpdateChannel s env n bytes) := by
  have hempty := newChannelName_ne hu
  have hnew : u.newChannelName ≠ u.channelName := by
    obtain ⟨_, ⟨_, hne, _⟩ | ⟨hname, _⟩⟩ := h
    · exact hne
    · exact hempty hname
  rw [readAndUpdateChannel_eq hn hu hc hreg, applyUpdate_of_loses hc hempty h]
  intro hatomic
  have hsame : (s.insertChannelInfo (c.renamed u)).channelInfo.lookup c.channelId = some c := by
    rw [show (s.insertChannelInfo (c.renamed u)).channelInfo = s.channelInfo from
      hatomic ⟨errorChannel500, [], []⟩ rfl (by decide)]
    exact hk.lookup_getChannelInfo hc
  have hwritten : (s.insertChannelInfo (c.renamed u)).channelInfo.lookup c.channelId =
      some (c.renamed u) := AList.lookup_insert _
  have hrec : c.renamed u = c := Option.some.inj (hwritten.symm.trans hsame)
  apply hnew
  rw [← (getChannelInfo_some hc).1]
  exact congrArg ChannelInfo.channelName hrec

end Atomic

/-- In every state of every life, whatever the body: the handler that reads arrays leaves the
channel database as it was when it fails unless the update parses, names an existing channel and
registered users, no other channel has the name, and it either renames the channel and alters its
users or changes its publicity but not its name. -/
theorem updateAtomic_iff (es : List LifeEvent) (env : Env) (n : ℕ) (bytes : List UInt8) :
    UpdateAtomic (Life.run es).state (readAndUpdateChannel (Life.run es).state env n bytes) ↔
      ¬ (bodyIncomplete n bytes = false ∧ ∃ u c, parseUpdate (fields bytes) = .ok u ∧
        (Life.run es).state.getChannelInfo env u.channelName = some c ∧
        namesRegistered (Life.run es).state u = true ∧ LosesChannel (Life.run es).state u c) := by
  have hk := Life.keyed_run es
  constructor
  · rintro hatomic ⟨hn, u, c, hu, hc, hreg, hloses⟩
    exact not_updateAtomic hk hn hu hc hreg hloses hatomic
  · intro h
    obtain ⟨hs, _⟩ | ⟨hn, u, c, hu, hc, hreg, happly⟩ :=
      readAndUpdateChannel_cases (Life.run es).state env n bytes
    · intro reply _ _
      rw [hs]
    · obtain ⟨_, _, reply, _, _, heq, h0⟩ := applyUpdate_of_keeps hk hc
        (fun hloses => h ⟨hn, u, c, hu, hc, hreg, hloses⟩)
      rw [happly, heq]
      intro reply' hreply hne
      cases hreply
      exact absurd h0 hne

/-- On every machine and in every state of every life of strings that end in their arrays, whatever
the body with names of at most 20 bytes: an update that fails leaves the channel database as it was
if and only if this is not one that parses, names an existing channel and registered users, with a
name that no other channel has, and either renames the channel and alters its users or changes its
publicity but not its name. -/
theorem update_atomic_iff (m : Machine) (es : List LifeEvent) (hes : ∀ e ∈ es, e.Ends) (env : Env)
    (n : ℕ) (bytes : List UInt8)
    (hnames : ∀ t ∈ updateNames (fields bytes), t.length < tokenNameLength) :
    UpdateAtomic (Life.run es).state (m.readAndUpdateChannel (Life.run es).state env n bytes) ↔
      ¬ (bodyIncomplete n bytes = false ∧ ∃ u c, parseUpdate (fields bytes) = .ok u ∧
        (Life.run es).state.getChannelInfo env u.channelName = some c ∧
        namesRegistered (Life.run es).state u = true ∧ LosesChannel (Life.run es).state u c) := by
  have hlimits : ∀ x ∈ limits (fields bytes) .updateChannel, x.1.length ≤ x.2 := by
    intro x hx
    obtain ⟨t, ht, rfl⟩ := List.mem_map.mp hx
    exact Nat.le_of_lt_succ (hnames t ht)
  rw [m.readAndUpdateChannel_eq (cStrings_run hes) hlimits]
  exact updateAtomic_iff es env n bytes

/-- A user who does not exist: the request fails, and nothing has changed. -/
theorem update_atomic_teaLife :
    UpdateAtomic (Life.run teaLife).state (Client.machine.readAndUpdateChannel
      (Life.run teaLife).state Client.firstEnv 26
      (Client.body ["tea", "1", "mate", "0", "1", "1", "carl", "0", "0"])) := by
  refine (update_atomic_iff Client.machine teaLife (by decide +kernel) Client.firstEnv 26
    (Client.body ["tea", "1", "mate", "0", "1", "1", "carl", "0", "0"]) (by decide)).mpr ?_
  rintro ⟨_, u, _, hu, _, hreg, _⟩
  have hno : (parseUpdate (fields (Client.body
      ["tea", "1", "mate", "0", "1", "1", "carl", "0", "0"]))).toOption.all
        (fun u => !namesRegistered (Life.run teaLife).state u) = true := by decide +kernel
  rw [hu] at hno
  simp [Except.toOption, hreg] at hno

/-- Renaming a channel and adding a user to it: the name has changed, and the request fails. -/
theorem update_not_atomic :
    ¬ UpdateAtomic (Life.run teaLife).state (readAndUpdateChannel (Life.run teaLife).state
      Client.firstEnv 25 (Client.body ["tea", "1", "mate", "0", "1", "1", "bob", "0", "0"])) := by
  intro h
  have hout : (readAndUpdateChannel (Life.run teaLife).state Client.firstEnv 25
      (Client.body ["tea", "1", "mate", "0", "1", "1", "bob", "0", "0"])).value =
        .ok ⟨errorChannel500, [], []⟩ := by decide +kernel
  have hsame := congrArg
    (fun d : Dbm Uuid ChannelInfo => (d.lookup teaChannel.channelId).map (·.channelName))
    (h _ hout (by decide))
  exact absurd hsame (by decide +kernel)

end ChatServer
