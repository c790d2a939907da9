import ChatServer.Invariant.Identity

/-!
# References between the stores

Messages, sessions and the lists of a channel refer to users. Destroying a user edits the three
identity databases only, so every other store may be left with a reference to nothing.
-/

namespace ChatServer

open CLib

/-- Every reference resolves. -/
structure NoDangling (s : State) : Prop where
  message_user : ∀ k m, s.messagesInfo.lookup k = some m →
    ∃ a, s.userAccountInfo.lookup m.userId = some a
  message_channel : ∀ k m, s.messagesInfo.lookup k = some m →
    ∃ c, s.channelInfo.lookup m.channelId = some c
  session_account : ∀ u ∈ s.activeUsers.live, ∃ a, s.userAccountInfo.lookup u.uuid = some a
  session_login : ∀ u ∈ s.activeUsers.live, ∃ l, s.userLoginInfo.lookup u.loginToken = some l
  members : ∀ k c, s.channelInfo.lookup k = some c → ∀ name,
    c.userList.Holds name ∨ c.adminList.Holds name → ∃ u, s.displayNames.lookup name = some u

/-- A user that is destroyed is not referred to, neither by the display name nor by the login
record that the request names, and a new channel has a member that is registered. -/
def LeavesNoReference (s : State) (r : Request) : Prop :=
  (∀ x ∈ destroyTarget s r,
    (∀ e ∈ s.messagesInfo.entries, e.2.userId ≠ x.2.uuid) ∧
    (∀ u ∈ s.activeUsers.live, u.uuid ≠ x.2.uuid ∧ u.loginToken ≠ x.2.loginToken) ∧
    ∀ e ∈ s.channelInfo.entries, ¬ e.2.userList.Holds x.1 ∧ ¬ e.2.adminList.Holds x.1) ∧
  ∀ c ∈ createChannelTarget s r, s.checkDuplicateDisplayName c.creator = true

instance (s : State) (r : Request) : Decidable (LeavesNoReference s r) :=
  inferInstanceAs (Decidable ((∀ x ∈ destroyTarget s r, _ ∧ _ ∧ _) ∧
    ∀ c ∈ createChannelTarget s r, _))

/-- One round of the first loop: what stands before the first blank ends at the member. -/
theorem takeWhile_blankUser (m : Name) (us : List Name) :
    ((blankUser m us).takeWhile fun u => !u.isEmpty) =
      (us.takeWhile fun u => !u.isEmpty).takeWhile fun u => u ≠ m := by
  induction us with
  | nil => rfl
  | cons u us ih =>
    rw [blankUser]
    by_cases hu : u.isEmpty = true
    · rw [if_pos hu]
      simp [hu]
    · by_cases hm : m = u
      · have hblank : (CharArray.empty tokenNameLength).isEmpty = true := rfl
        rw [if_neg hu, if_pos hm]
        simp [hu, hm, hblank]
      · rw [if_neg hu, if_neg hm]
        simp [hu, Ne.symm hm, ih]

/-- The first loop, over all members: the names before the first blank end at the first member. -/
theorem takeWhile_foldl_blankUser (ms us : List Name) :
    ((ms.foldl (fun us m => blankUser m us) us).takeWhile fun u => !u.isEmpty) =
      (us.takeWhile fun u => !u.isEmpty).takeWhile fun u => u ∉ ms := by
  induction ms generalizing us with
  | nil => exact (List.takeWhile_eq_self_iff.mpr (by simp)).symm
  | cons m ms ih =>
    rw [List.foldl_cons, ih, takeWhile_blankUser, List.takeWhile_takeWhile]
    congr 1
    funext u
    simp [and_comm]

theorem holds_appendUsers {u : Name} {us : List Name} {list : NameList} {j : ℕ}
    (h : (appendUsers list j us).Holds u) :
    list.Holds u ∨ u ∈ us.takeWhile fun u => !u.isEmpty := by
  induction us generalizing list j with
  | nil => exact Or.inl h
  | cons v us ih =>
    rw [appendUsers] at h
    split at h
    · rename_i hv
      rw [List.takeWhile_cons, if_pos (by simp [hv.2])]
      rcases ih h with h | h
      · rcases NameList.holds_set h with h | rfl
        · exact Or.inl h
        · exact Or.inr List.mem_cons_self
      · exact Or.inr (List.mem_cons_of_mem _ h)
    · exact Or.inl h

/-- Adding users to a channel adds at most the names of the request. -/
theorem holds_addUsers {u : Name} {list users : NameList} (h : (addUsers list users).Holds u) :
    list.Holds u ∨ u ∈ users.members := by
  rcases holds_appendUsers h with h | h
  · exact Or.inl h
  · rw [takeWhile_foldl_blankUser] at h
    exact Or.inr (List.takeWhile_subset _ h)

theorem holds_createChannel {uuid : Uuid} {channelName d : Name} {p : Bool} {name : Name}
    (h : (createChannel uuid channelName d p).userList.Holds name ∨
      (createChannel uuid channelName d p).adminList.Holds name) : name = d := by
  have hset : (NameList.empty.set 0 d).Holds name := h.elim id id
  exact (NameList.holds_set hset).resolve_left (NameList.not_holds_empty name)

namespace NoDangling

variable {s : State} {r : Request} (h : NoDangling s)
include h

theorem withUser (u : Uuid) (t d : Name) (p : Password) : NoDangling (s.withUser u t d p) where
  message_user := fun k m hm => Dbm.exists_lookup_insert (h.message_user k m hm)
  message_channel := h.message_channel
  session_account := fun v hv => Dbm.exists_lookup_insert (h.session_account v hv)
  session_login := fun v hv => Dbm.exists_lookup_insert (h.session_login v hv)
  members := fun k c hc name hn => Dbm.exists_lookup_insert (h.members k c hc name hn)

theorem withoutUser {d : Name} {l : UserLogin}
    (hm : ∀ e ∈ s.messagesInfo.entries, e.2.userId ≠ l.uuid)
    (hu : ∀ u ∈ s.activeUsers.live, u.uuid ≠ l.uuid ∧ u.loginToken ≠ l.loginToken)
    (hc : ∀ e ∈ s.channelInfo.entries, ¬ e.2.userList.Holds d ∧ ¬ e.2.adminList.Holds d) :
    NoDangling (s.withoutUser d l) := by
  refine ⟨?_, h.message_channel, ?_, ?_, ?_⟩
  · intro k m hk
    obtain ⟨a, ha⟩ := h.message_user k m hk
    exact ⟨a, Dbm.lookup_erase_iff.mpr ⟨hm ⟨k, m⟩ (AList.mem_lookup_iff.mp hk), ha⟩⟩
  · intro u hu'
    obtain ⟨a, ha⟩ := h.session_account u hu'
    exact ⟨a, Dbm.lookup_erase_iff.mpr ⟨(hu u hu').1, ha⟩⟩
  · intro u hu'
    obtain ⟨l', hl'⟩ := h.session_login u hu'
    exact ⟨l', Dbm.lookup_erase_iff.mpr ⟨(hu u hu').2, hl'⟩⟩
  · intro k c hk name hn
    obtain ⟨u, hu⟩ := h.members k c hk name hn
    obtain ⟨hc₁, hc₂⟩ := hc ⟨k, c⟩ (AList.mem_lookup_iff.mp hk)
    refine ⟨u, Dbm.lookup_erase_iff.mpr ⟨?_, hu⟩⟩
    rintro rfl
    exact hn.elim hc₁ hc₂

theorem insertUserAccount (a : UserAccount) : NoDangling (s.insertUserAccount a) where
  message_user := fun k m hm => Dbm.exists_lookup_insert (h.message_user k m hm)
  message_channel := h.message_channel
  session_account := fun u hu => Dbm.exists_lookup_insert (h.session_account u hu)
  session_login := h.session_login
  members := h.members

/-- The live sessions become those of `c`, of which the new ones resolve. -/
theorem sessions {c : Cache}
    (hc : ∀ u ∈ c.live, u ∈ s.activeUsers.live ∨
      (∃ a, s.userAccountInfo.lookup u.uuid = some a) ∧
      ∃ l, s.userLoginInfo.lookup u.loginToken = some l) :
    NoDangling { s with activeUsers := c } where
  message_user := h.message_user
  message_channel := h.message_channel
  session_account := fun u hu => (hc u hu).elim (h.session_account u) And.left
  session_login := fun u hu => (hc u hu).elim (h.session_login u) And.right
  members := h.members

theorem openSession {b : UserAccount} {l : UserLogin} {c : Cache} {fd : ℕ}
    (hlive : c.live = s.activeUsers.live ++ [Cache.newSession fd b l])
    (hb : s.userAccountInfo.lookup b.userId = some b)
    (hl : s.userLoginInfo.lookup l.loginToken = some l) :
    NoDangling { s with activeUsers := c } := by
  refine h.sessions fun u hu => ?_
  rw [hlive] at hu
  refine (List.mem_append.mp hu).imp_right fun hu => ?_
  rw [List.mem_singleton.mp hu]
  exact ⟨⟨b, hb⟩, ⟨l, hl⟩⟩

/-- A channel is stored that keeps its lists or gets registered names. -/
theorem insertChannelInfo {c : ChannelInfo}
    (hc : ∀ name, c.userList.Holds name ∨ c.adminList.Holds name →
      ∃ u, s.displayNames.lookup name = some u) : NoDangling (s.insertChannelInfo c) where
  message_user := h.message_user
  message_channel := fun k m hm => Dbm.exists_lookup_insert (h.message_channel k m hm)
  session_account := h.session_account
  session_login := h.session_login
  members := Dbm.All.insert h.members hc

theorem renameStep {env : Env} {u : UpdateRequest} {s₁ : State}
    (h₁ : renameStep s env u = some s₁) : NoDangling s₁ := by
  obtain rfl | ⟨c, _, hc, rfl⟩ := renameStep_cases h₁
  · exact h
  · obtain ⟨_, k, hc⟩ := getChannelInfo_some hc
    exact h.insertChannelInfo (h.members k c hc)

theorem addStep {env : Env} {u : UpdateRequest} {s₁ : State}
    (hreg : ∀ name ∈ u.users.add.members, ∃ v, s.displayNames.lookup name = some v)
    (h₁ : addStep s env u = some s₁) : NoDangling s₁ := by
  obtain rfl | ⟨c, hc, rfl⟩ := addStep_cases h₁
  · exact h
  · obtain ⟨_, k, hc⟩ := getChannelInfo_some hc
    refine h.insertChannelInfo ?_
    rintro name (hn | hn)
    · rcases holds_addUsers hn with hn | hn
      · exact h.members k c hc name (Or.inl hn)
      · exact hreg name hn
    · exact h.members k c hc name (Or.inr hn)

theorem effect {s' : State} {b : Bool} (hk : KeyedState s) (hl : LoginsLinked s)
    (hc : LeavesNoReference s r) (he : Effect s r s' b) : NoDangling s' := by
  cases he with
  | unchanged => exact h
  | createUser ht => exact h.withUser _ _ _ _
  | destroyUser ht =>
    obtain ⟨hm, hu, hn⟩ := hc.1 _ ht
    exact h.withoutUser hm hu hn
  | restart ht | cacheFull ht => exact h.insertUserAccount _
  | @openSession l a c ht _ _ hins =>
    have h' := h.insertUserAccount (loginUserAccount a r.clntAddr)
    exact h'.openSession (hk.live_of_login hins ht rfl) (AList.lookup_insert _)
      (hk.login_of_login ht)
  | terminate ht _ hins =>
    exact h.openSession (hk.live_of_login hins ht rfl) (hk.account_of_login ht)
      (hk.login_of_login ht)
  | @logout a ht =>
    refine (h.insertUserAccount (logoutUserAccount a)).sessions fun u hu => Or.inl ?_
    rw [Cache.live_removeUserInCache] at hu
    exact List.mem_of_mem_eraseP hu
  | createChannel ht =>
    obtain ⟨name, d, p, rfl, _, _, _⟩ := createChannelTarget_some ht
    refine h.insertChannelInfo fun n hn => ?_
    rw [holds_createChannel hn]
    exact Option.isSome_iff_exists.mp (hc.2 _ ht)
  | updateChannel ht h₁ h₂ =>
    have hr := h.renameStep h₁
    rcases h₂ with rfl | h₂
    · exact hr
    · refine hr.addStep (fun name hn => ?_) h₂
      rw [renameStep_frame h₁]
      exact registered_of_update ht hn
  | createMessage ht =>
    obtain ⟨channel, login, user, name, hch, _, hlog, _, huser, hchan⟩ :=
      createMessageTarget_some ht
    refine ⟨?_, ?_, h.session_account, h.session_login, h.members⟩
    · refine Dbm.All.insert h.message_user ?_
      rw [huser]
      exact hl.login_account _ _ hlog
    · refine Dbm.All.insert h.message_channel ?_
      rw [hchan]
      exact ⟨channel, hk.lookup_getChannelInfo hch⟩

end NoDangling

theorem noDangling_startUp (env : Env) : NoDangling (startUp env .fresh) := by
  rw [startUp_fresh]
  have hfresh : NoDangling State.fresh := ⟨nofun, nofun, nofun, nofun, nofun⟩
  refine (hfresh.withUser _ _ _ _).insertChannelInfo fun name hn => ?_
  rw [holds_createChannel hn]
  exact ⟨adminUuid, AList.lookup_insert _⟩

/-- In every run with fresh uuids in which no user is destroyed that is still referred to and every
new channel has a registered creator, every reference resolves. -/
theorem no_dangling (env : Env) (rs : List Request)
    (h : Server.Along (fun s r => FreshUuid s r ∧ LeavesNoReference s r) (.started env) rs) :
    NoDangling ((Server.started env).run rs).state := by
  have hinv := Server.invariant_keyed (I := fun s => LoginsLinked s ∧ NoDangling s)
    (fun _ _ _ _ hk hs hc he => ⟨hs.1.effect hk hc.1 he, hs.2.effect hk hs.1 hc.2 he⟩)
    ⟨(linked_startUp env).toLoginsLinked, noDangling_startUp env⟩ h
  exact hinv.2.2

/-- The administrator destroys a user that is not logged in. -/
def expelRun : List Request :=
  [Client.createUser 5 "10.0.0.1" "bobt" "bob" "pw" "22222222-2222-2222-2222-222222222222",
    Client.login 6 "10.0.0.2" "admin" "admin",
    Client.destroyUser 6 "10.0.0.2" "bob" "bobt" "pw"]

theorem no_dangling_expelRun : NoDangling (Client.start.run expelRun).state :=
  no_dangling Client.firstEnv expelRun (by decide +kernel)

theorem dangling_after_leavingRun :
    Server.Along FreshUuid Client.start Client.leavingRun ∧
      ¬ NoDangling (Client.start.run Client.leavingRun).state := by
  refine ⟨by decide +kernel, fun h => ?_⟩
  -- the session of the user that destroyed itself stays in the cache
  have hlive : (Client.start.run Client.leavingRun).state.activeUsers.live.map (·.uuid) =
      [Client.uuid "22222222-2222-2222-2222-222222222222"] := by decide +kernel
  have hgone : (Client.start.run Client.leavingRun).state.userAccountInfo.lookup
      (Client.uuid "22222222-2222-2222-2222-222222222222") = none := by decide +kernel
  have hmem : Client.uuid "22222222-2222-2222-2222-222222222222" ∈
      (Client.start.run Client.leavingRun).state.activeUsers.live.map (·.uuid) := by
    rw [hlive]
    exact List.mem_singleton_self _
  obtain ⟨u, hu, he⟩ := List.mem_map.mp hmem
  obtain ⟨a, ha⟩ := h.session_account u hu
  rw [he, hgone] at ha
  cases ha

end ChatServer
