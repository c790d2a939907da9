import ChatServer.ChannelCreation
import ChatServer.ChannelUpdate
import ChatServer.Chat
import ChatServer.Credentials
import ChatServer.Invariant.ChannelHistory
import ChatServer.Invariant.ChannelNames
import ChatServer.Invariant.Identity
import ChatServer.Lib.Simulation
import ChatServer.MessageLog

/-!
# The databases are a chat

Display names lead to people, who are present while their account is online; the records of the
channel database are rooms, and the stored messages are what was said. What an event of a life asks
for is a list of acts, read off the checks of the handler. As long as no request takes the display
name of another user or the name of another channel, every act of a life is one that the chat
permits, and the databases hold the chat that has performed them.
-/

namespace ChatServer

open CLib

/-- A message text and its timestamp. -/
abbrev Text := CharArray maxMessageSize × CharArray timestampSize

def ChannelInfo.room (c : ChannelInfo) : Room Name :=
  ⟨c.channelName, c.creator, {n | n ∈ c.userList.members}, c.publicity⟩

def MessageInfo.remark (m : MessageInfo) : Remark Uuid Text :=
  ⟨m.channelId, m.userId, m.messageContent, m.timeStamp⟩

/-- The chat that the databases hold. Tokens, passwords, addresses and sessions are no part of
it. -/
def State.chat (s : State) : Chat Uuid Name Text where
  people := fun n => s.displayNames.lookup n
  present := {u | ∃ a, s.userAccountInfo.lookup u = some a ∧ a.onlineStatus = true}
  rooms := fun k => (s.channelInfo.lookup k).map ChannelInfo.room
  said := s.messagesInfo.entries.map fun e => e.2.remark

/-- The acts of the first store operation of an update. -/
def renameActs (s : State) (env : Env) (u : UpdateRequest) : List (Act Uuid Name Text) :=
  if u.isChangeName || u.isChangePublicity then
    (s.getChannelInfo env u.channelName).toList.map fun c =>
      .relabel c.channelId u.newChannelName u.newPublicity
  else []

/-- The acts of the second one, which appends the newcomers. -/
def inviteActs (s : State) (env : Env) (u : UpdateRequest) : List (Act Uuid Name Text) :=
  if u.users.alter ≠ 48 then
    (s.getChannelInfo env u.channelName).toList.map fun c =>
      .invite c.channelId (newcomers c.userList u.users.add)
  else []

/-- What a request asks of the chat, if it gets past the checks of its handler. -/
def requestActs (s : State) (r : Request) : List (Act Uuid Name Text) :=
  if let some (_, d, _) := createUserTarget s r then [.enrol d r.env.uuid]
  else if let some (d, _) := destroyTarget s r then [.expel d]
  else if let some (_, a) := loginTarget s r then
    if loggedInElsewhere s.activeUsers a r.clntAddr then [] else [.arrive a.userId]
  else if let some a := logoutTarget s r then [.depart a.userId]
  else if let some c := createChannelTarget s r then
    [.found c.channelId c.channelName c.creator c.publicity]
  else if let some u := updateTarget s r then
    renameActs s r.env u ++ inviteActs ((renameStep s r.env u).getD s) r.env u
  else if let some m := createMessageTarget s r then [.say m.remark]
  else []

/-- What a start asks of it: `create_admin` and `create_global_channel`. -/
def startActs (s : State) (env : Env) : List (Act Uuid Name Text) :=
  (if s.displayNames.lookup adminName = none then [.enrol adminName adminUuid] else []) ++
    if s.getChannelInfo env globalName = none then [.found env.uuid globalName adminName false]
    else []

/-- What an event of a life asks of the chat. -/
def acts (v : Server) : LifeEvent → List (Act Uuid Name Text)
  | .start _ env => startActs v.state env
  | .request r => if v.running then requestActs v.state r else []

/-- The state `s'` holds the chat of `s` after the acts, all of them permitted. -/
def Does (s : State) (as : List (Act Uuid Name Text)) (s' : State) : Prop :=
  s.chat.Allows as ∧ s'.chat = s.chat.performs as

section Does

variable {s s' s'' : State} {as bs : List (Act Uuid Name Text)} {a : Act Uuid Name Text}

theorem Does.nil (h : s'.chat = s.chat) : Does s [] s' := ⟨trivial, h⟩

theorem Does.one (hp : s.chat.Permits a) (h : s'.chat = s.chat.perform a) : Does s [a] s' :=
  ⟨⟨hp, trivial⟩, h⟩

theorem Does.append (h : Does s as s') (h' : Does s' bs s'') : Does s (as ++ bs) s'' := by
  obtain ⟨hallows, heq⟩ := h'
  rw [h.2] at hallows heq
  exact ⟨Run.along_append.mpr ⟨h.1, hallows⟩, heq.trans (Run.run_append ..).symm⟩

end Does

section Chats

variable (s : State)

theorem lookup_insert_update {K V : Type} [DecidableEq K] (d : Dbm K V) (k : K) (v : V) :
    (fun k' => (d.insert k v).lookup k') =
      Function.update (fun k' => d.lookup k') k (some v) := by
  funext k'
  rw [Function.update_apply]
  exact Dbm.lookup_insert_eq d k v k'

theorem lookup_erase_update {K V : Type} [DecidableEq K] (d : Dbm K V) (k : K) :
    (fun k' => (d.erase k).lookup k') = Function.update (fun k' => d.lookup k') k none := by
  funext k'
  rw [Function.update_apply]
  exact Dbm.lookup_erase_eq d k k'

/-- A new user is enrolled, and not present yet. -/
theorem chat_withUser {u : Uuid} (hu : s.userAccountInfo.lookup u = none) (t d : Name)
    (p : Password) : (s.withUser u t d p).chat = s.chat.perform (.enrol d u) := by
  apply Chat.ext
  · exact lookup_insert_update s.displayNames d u
  · ext q
    constructor
    · rintro ⟨a, ha, hon⟩
      obtain ⟨_, rfl⟩ | ⟨_, ha⟩ := Dbm.lookup_insert_iff.mp ha
      · cases hon
      · exact ⟨a, ha, hon⟩
    · rintro ⟨a, ha, hon⟩
      refine ⟨a, Dbm.lookup_insert_iff.mpr (Or.inr ⟨?_, ha⟩), hon⟩
      rintro rfl
      have hu : s.userAccountInfo.lookup q = none := hu
      rw [hu] at ha
      cases ha
  · rfl
  · rfl

/-- A user that is destroyed under its own name. -/
theorem chat_withoutUser {d : Name} {l : UserLogin}
    (hd : s.displayNames.lookup d = some l.uuid) :
    (s.withoutUser d l).chat = s.chat.perform (.expel d) := by
  apply Chat.ext
  · exact lookup_erase_update s.displayNames d
  · ext q
    constructor
    · rintro ⟨a, ha, hon⟩
      obtain ⟨hne, ha⟩ := Dbm.lookup_erase_iff.mp ha
      exact ⟨⟨a, ha, hon⟩, fun hq => hne (Option.some.inj (hq.symm.trans hd))⟩
    · rintro ⟨⟨a, ha, hon⟩, hne⟩
      exact ⟨a, Dbm.lookup_erase_iff.mpr ⟨fun hq => hne (hq ▸ hd), ha⟩, hon⟩
  · rfl
  · rfl

/-- An account that is written back online. -/
theorem chat_online {a : UserAccount} (hon : a.onlineStatus = true) :
    (s.insertUserAccount a).chat = s.chat.perform (.arrive a.userId) := by
  apply Chat.ext
  · rfl
  · ext q
    constructor
    · rintro ⟨b, hb, hbon⟩
      obtain ⟨hq, _⟩ | ⟨_, hb⟩ := Dbm.lookup_insert_iff.mp hb
      · exact Or.inl hq
      · exact Or.inr ⟨b, hb, hbon⟩
    · rintro (rfl | ⟨b, hb, hbon⟩)
      · exact ⟨a, AList.lookup_insert _, hon⟩
      · by_cases hq : q = a.userId
        · exact ⟨a, Dbm.lookup_insert_iff.mpr (Or.inl ⟨hq, rfl⟩), hon⟩
        · exact ⟨b, Dbm.lookup_insert_iff.mpr (Or.inr ⟨hq, hb⟩), hbon⟩
  · rfl
  · rfl

theorem chat_offline {a : UserAccount} (hoff : a.onlineStatus = false) :
    (s.insertUserAccount a).chat = s.chat.perform (.depart a.userId) := by
  apply Chat.ext
  · rfl
  · ext q
    constructor
    · rintro ⟨b, hb, hbon⟩
      obtain ⟨_, rfl⟩ | ⟨hq, hb⟩ := Dbm.lookup_insert_iff.mp hb
      · rw [hoff] at hbon
        cases hbon
      · exact ⟨⟨b, hb, hbon⟩, hq⟩
    · rintro ⟨⟨b, hb, hbon⟩, hq⟩
      exact ⟨b, Dbm.lookup_insert_iff.mpr (Or.inr ⟨hq, hb⟩), hbon⟩
  · rfl
  · rfl

/-- A channel record that is stored is a room that is written. -/
theorem chat_insertChannelInfo (c : ChannelInfo) :
    (s.insertChannelInfo c).chat =
      { s.chat with rooms := Function.update s.chat.rooms c.channelId (some c.room) } := by
  apply Chat.ext
  · rfl
  · rfl
  · funext k
    have hk := congrFun (lookup_insert_update s.channelInfo c.channelId c) k
    show ((s.channelInfo.insert c.channelId c).lookup k).map ChannelInfo.room =
      Function.update s.chat.rooms c.channelId (some c.room) k
    rw [hk, Function.update_apply, Function.update_apply]
    split <;> rfl
  · rfl

theorem chat_insertMessage {m : MessageInfo} (h : s.messagesInfo.lookup m.messageId = none) :
    (s.insertMessage m).chat = s.chat.perform (.say m.remark) := by
  apply Chat.ext
  · rfl
  · rfl
  · rfl
  · have hentries : (s.insertMessage m).messagesInfo.entries =
        ⟨m.messageId, m⟩ :: s.messagesInfo.entries :=
      AList.entries_insert_of_notMem (AList.lookup_eq_none.mp h)
    exact congrArg (List.map fun e => e.2.remark) hentries

end Chats

section Accepted

variable {s : State} {r : Request}

theorem state_of_destroy {d : Name} {l : UserLogin} (h : destroyTarget s r = some (d, l)) :
    (handleRequest s r).state = s.withoutUser d l := by
  obtain ⟨t, p, rest, sender, hf, hs, hl, hi⟩ := destroyTarget_some h
  obtain ⟨header, bs, hdec, hlen, hinc, hfs⟩ := fieldsFor_some hf
  have hdest := destroyFields_iff_fields.mpr ⟨rest, hfs.symm⟩
  rw [handleRequest_state hdec hlen, runHandler]
  obtain ⟨hnone, _⟩ | ⟨hc, _⟩ | ⟨l', hl', _, hout⟩ | ⟨f, _, _, _, hno⟩ :=
    readAndDestroyUser_cases hinc hdest hs hi
  · rw [hl] at hnone
    cases hnone
  · cases hc
  · rw [hl] at hl'
    cases hl'
    rw [hout]
    rfl
  · exact absurd rfl (hno (by rw [hl]; rfl))

/-- A login that finds the user at another address writes no account. -/
theorem chat_loginAccount (s : State) (env : Env) (fd : ℕ) (addr : IpAddr) (l : UserLogin)
    (a : UserAccount) (t : Name) : (loginAccount s env fd addr l a t).state.chat =
      if loggedInElsewhere s.activeUsers a addr then s.chat
      else (s.insertUserAccount (loginUserAccount a addr)).chat := by
  rw [loginAccount]
  split
  · rw [openSession]
    split <;> rfl
  · dsimp only
    split
    · rfl
    · rw [openSession]
      split <;> rfl

theorem chat_of_login {l : UserLogin} {a : UserAccount} (h : loginTarget s r = some (l, a)) :
    (handleRequest s r).state.chat =
      if loggedInElsewhere s.activeUsers a r.clntAddr then s.chat
      else (s.insertUserAccount (loginUserAccount a r.clntAddr)).chat := by
  obtain ⟨header, rest, t, hd, hlen, hrun⟩ := runHandler_login h
  rw [handleRequest_state hd hlen, hrun, chat_loginAccount]

theorem state_of_createChannel {c : ChannelInfo} (h : createChannelTarget s r = some c) :
    (handleRequest s r).state = s.insertChannelInfo c := by
  simp only [createChannelTarget, bind, Option.bind_eq_some_iff, Prod.exists,
    Option.ite_none_right_eq_some, Option.some.injEq] at h
  obtain ⟨fs, hfs, name, ts, hname, d, us, hd, p, hp, inCache, hcache, ⟨hlen1, hreg, hdup⟩, rfl⟩ :=
    h
  rw [field?_some hname, field?_some hd, List.head?_eq_some_iff.mp hp |>.choose_spec] at hfs
  obtain ⟨header, bs, hdec, hlen, hinc, hfields⟩ := fieldsFor_some hfs
  have hmay : MayCreate s r.clntAddr name.str d.str p := by
    refine mayCreate_iff.mpr ⟨hlen1, by rw [hcache]; rfl, ?_, hdup⟩
    rintro ⟨hadmin, hnot⟩
    rw [getDisplayNameInCache_eq hcache] at hreg
    rw [hreg hadmin] at hnot
    cases hnot
  rw [handleRequest_state hdec hlen, runHandler,
    readAndCreateChannel_granted hinc hfields.symm hmay]
  rfl

theorem applyUpdate_state {env : Env} {u : UpdateRequest} {s₁ : State}
    (h : renameStep s env u = some s₁) :
    (applyUpdate s env u).state = (addStep s₁ env u).getD s₁ := by
  rw [applyUpdate, ← renameStep, h]
  dsimp only
  rw [← addStep]
  cases addStep s₁ env u with
  | none => rfl
  | some s₂ =>
    dsimp only
    split <;> rfl

/-- The update of a channel that is there stores its rename, and its members if it still finds the
channel. -/
theorem state_of_update {u : UpdateRequest} (h : updateTarget s r = some u) :
    ∃ s₁, renameStep s r.env u = some s₁ ∧
      (handleRequest s r).state = (addStep s₁ r.env u).getD s₁ := by
  simp only [updateTarget, bind, Option.bind_eq_some_iff, Option.ite_none_right_eq_some] at h
  obtain ⟨fs, hfs, u', hparse, ⟨hfound, hreg⟩, hu⟩ := h
  cases hu
  obtain ⟨header, bs, hdec, hlen, hinc, rfl⟩ := fieldsFor_some hfs
  obtain ⟨c, hc⟩ := Option.isSome_iff_exists.mp hfound
  obtain ⟨s₁, h₁⟩ : ∃ s₁, renameStep s r.env u = some s₁ := by
    rw [renameStep, State.updateChannelNameAndPublicity, hc]
    split
    · exact ⟨_, rfl⟩
    · exact ⟨_, rfl⟩
  refine ⟨s₁, h₁, ?_⟩
  have hok : parseUpdate (fields (bs.take header.bodySize)) = .ok u := by
    cases hp : parseUpdate (fields (bs.take header.bodySize)) with
    | error e => rw [hp] at hparse; cases hparse
    | ok u' => rw [hp] at hparse; cases hparse; rfl
  rw [handleRequest_state hdec hlen, runHandler, readAndUpdateChannel_eq hinc hok hc hreg,
    applyUpdate_state h₁]

/-- A request that gets past no check changes nothing. -/
theorem state_of_none (h₁ : createUserTarget s r = none) (h₂ : destroyTarget s r = none)
    (h₃ : loginTarget s r = none) (h₄ : logoutTarget s r = none)
    (h₅ : createChannelTarget s r = none) (h₆ : updateTarget s r = none)
    (h₇ : createMessageTarget s r = none) : (handleRequest s r).state = s := by
  have he := handleRequest_effect s r
  generalize (handleRequest s r).state = s', (handleRequest s r).returned = b at he
  cases he with
  | unchanged => rfl
  | createUser h => rw [h₁] at h; cases h
  | destroyUser h => rw [h₂] at h; cases h
  | restart h | openSession h | cacheFull h | terminate h => rw [h₃] at h; cases h
  | logout h => rw [h₄] at h; cases h
  | createChannel h => rw [h₅] at h; cases h
  | updateChannel h => rw [h₆] at h; cases h
  | createMessage h => rw [h₇] at h; cases h

end Accepted

/-- Login records lead to accounts, accounts to the display names that lead back to them, and the
uuid of the administrator belongs to nobody else. -/
structure Identified (s : State) : Prop where
  logins : LoginsLinked s
  names : ∀ k a, s.userAccountInfo.lookup k = some a →
    s.displayNames.lookup a.displayName = some k
  admin : ∀ d, s.displayNames.lookup d = some adminUuid → d = adminName

namespace Identified

variable {s : State} (h : Identified s)
include h

theorem withUser {u : Uuid} {d : Name} (hd : s.displayNames.lookup d = none)
    (hu : s.userAccountInfo.lookup u = none) (hadmin : u = adminUuid → d = adminName) (t : Name)
    (p : Password) : Identified (s.withUser u t d p) where
  logins := h.logins.withUser hu t d p
  names := by
    intro k a ha
    obtain ⟨rfl, rfl⟩ | ⟨_, ha⟩ := Dbm.lookup_insert_iff.mp ha
    · exact AList.lookup_insert _
    · refine Dbm.lookup_insert_iff.mpr (Or.inr ⟨?_, h.names k a ha⟩)
      rintro rfl
      have hk := h.names k a ha
      rw [hd] at hk
      cases hk
  admin := by
    intro d' hd'
    obtain ⟨rfl, hu'⟩ | ⟨_, hd'⟩ := Dbm.lookup_insert_iff.mp hd'
    · exact hadmin hu'
    · exact h.admin d' hd'

theorem withoutUser {d : Name} {l : UserLogin}
    (hl : s.userLoginInfo.lookup l.loginToken = some l)
    (hd : s.displayNames.lookup d = some l.uuid) : Identified (s.withoutUser d l) where
  logins := h.logins.withoutUser hl d
  names := by
    intro k a ha
    obtain ⟨hk, ha⟩ := Dbm.lookup_erase_iff.mp ha
    have hname := h.names k a ha
    refine Dbm.lookup_erase_iff.mpr ⟨?_, hname⟩
    rintro rfl
    rw [hd] at hname
    exact hk (Option.some.inj hname).symm
  admin := fun d' hd' => h.admin d' (Dbm.lookup_erase_iff.mp hd').2

theorem rewrite {a c : UserAccount} (ha : s.userAccountInfo.lookup a.userId = some a)
    (hid : c.userId = a.userId) (hname : c.displayName = a.displayName) :
    Identified (s.insertUserAccount c) where
  logins := h.logins.insertUserAccount c
  names := by
    intro k b hb
    obtain ⟨rfl, rfl⟩ | ⟨_, hb⟩ := Dbm.lookup_insert_iff.mp hb
    · rw [hname, hid]
      exact h.names a.userId a ha
    · exact h.names k b hb
  admin := h.admin

theorem frame {s' : State} (hl : s'.userLoginInfo = s.userLoginInfo)
    (hd : s'.displayNames = s.displayNames) (ha : s'.userAccountInfo = s.userAccountInfo) :
    Identified s' where
  logins := h.logins.frame hl ha
  names := by rw [ha, hd]; exact h.names
  admin := by rw [hd]; exact h.admin

theorem no_admin (hnone : s.displayNames.lookup adminName = none) :
    s.userAccountInfo.lookup adminUuid = none := by
  by_contra ha
  obtain ⟨a, ha⟩ := Option.ne_none_iff_exists'.mp ha
  have hname := h.names adminUuid a ha
  rw [h.admin _ hname, hnone] at hname
  cases hname

theorem effect {s' : State} {r : Request} {b : Bool} (hk : KeyedState s) (hfresh : FreshUuid s r)
    (hc : RemovesOwnName s r) (he : Effect s r s' b) : Identified s' := by
  cases he with
  | unchanged => exact h
  | createUser ht =>
    obtain ⟨_, _, hname⟩ := createUserTarget_some ht
    exact h.withUser hname hfresh.no_account (fun he => absurd he hfresh.1) _ _
  | destroyUser ht => exact h.withoutUser (hk.login_of_destroy ht) (hc _ ht)
  | restart ht | cacheFull ht => exact h.rewrite (hk.account_of_login ht) rfl rfl
  | openSession ht =>
    exact (h.rewrite (c := loginUserAccount _ _) (hk.account_of_login ht) rfl rfl).frame rfl rfl
      rfl
  | logout ht =>
    exact (h.rewrite (c := logoutUserAccount _) (hk.account_of_logout ht) rfl rfl).frame rfl rfl
      rfl
  | terminate | createChannel | createMessage => exact h.frame rfl rfl rfl
  | updateChannel _ h₁ h₂ =>
    rw [update_frame h₁ h₂]
    exact h.frame rfl rfl rfl

end Identified

/-- What the refinement rests on. -/
structure InOrder (s : State) : Prop where
  keyed : KeyedState s
  strings : cStrings.Holds s
  identified : Identified s
  channels : ChannelsShaped s
  coherent : s.chat.Coherent

/-- The strings of an event end in their arrays and its uuid is new; a request that destroys a user
takes its own display name, and one that renames a channel no name of another one. -/
def Orderly (s : State) (e : LifeEvent) : Prop :=
  e.Ends ∧ FreshEvent s e ∧ match e with
    | .start _ _ => True
    | .request r => RemovesOwnName s r ∧ WritesFreeName s r

instance (s : State) : (e : LifeEvent) → Decidable (Orderly s e)
  | .start _ env => inferInstanceAs (Decidable (LifeEvent.Ends (.start _ env) ∧ _ ∧ True))
  | .request r => inferInstanceAs (Decidable (LifeEvent.Ends (.request r) ∧ _ ∧
      RemovesOwnName s r ∧ WritesFreeName s r))

section Doing

variable {s : State} {r : Request} {env : Env} {u : UpdateRequest}

theorem rooms_of_lookup {c : ChannelInfo} (hc : s.channelInfo.lookup c.channelId = some c) :
    s.chat.rooms c.channelId = some c.room := by
  change (s.channelInfo.lookup c.channelId).map ChannelInfo.room = _
  rw [hc]
  rfl

theorem lookup_of_rooms {k : Uuid} {x : Room Name} (h : s.chat.rooms k = some x) :
    ∃ c, s.channelInfo.lookup k = some c ∧ c.room = x := Option.map_eq_some_iff.mp h

/-- A channel with a name that no other one has is founded. -/
theorem does_found {id : Uuid} {name d : Name} (p : Bool)
    (hnew : s.channelInfo.lookup id = none) (hd : d.isEmpty = false)
    (hfree : s.getChannelInfo env name = none) :
    Does s [.found id name d p] (s.insertChannelInfo (createChannel id name d p)) := by
  have hmem : (createChannel id name d p).userList.members = [d] := by
    refine members_of_slots (n := 63) rfl fun v hv => ?_
    rw [List.mem_singleton.mp hv, hd]
  have hroom : (createChannel id name d p).room = ⟨name, d, {d}, p⟩ := by
    rw [ChannelInfo.room, hmem]
    simp only [List.mem_singleton, Set.ofPred_eq_eq_singleton]
    rfl
  refine .one ⟨?_, fun k x hx => ?_⟩ ?_
  · show (s.channelInfo.lookup id).map ChannelInfo.room = none
    rw [hnew]
    rfl
  · obtain ⟨c, hc, rfl⟩ := lookup_of_rooms hx
    exact getChannelInfo_none hfree hc
  · rw [chat_insertChannelInfo, hroom]
    rfl

/-- A channel that is written back as the room that an act makes of it. -/
theorem chat_rewrite {c c' : ChannelInfo} {f : Room Name → Room Name}
    (hc : s.channelInfo.lookup c.channelId = some c) (hid : c'.channelId = c.channelId)
    (hroom : c'.room = f c.room) : (s.insertChannelInfo c').chat =
      { s.chat with rooms := Function.update s.chat.rooms c.channelId
                      ((s.chat.rooms c.channelId).map f) } := by
  rw [chat_insertChannelInfo, hid, hroom, rooms_of_lookup hc]
  rfl

theorem does_rename (hk : KeyedState s) (hcoh : s.chat.Coherent) (hu : updateTarget s r = some u)
    (hw : WritesFreeName s r) {s₁ : State} (h₁ : renameStep s r.env u = some s₁) :
    Does s (renameActs s r.env u) s₁ := by
  rw [renameStep] at h₁
  rw [renameActs]
  by_cases hchange : (u.isChangeName || u.isChangePublicity) = true
  · rw [if_pos hchange] at h₁
    obtain ⟨c, hc, rfl⟩ := Option.map_eq_some_iff.mp h₁
    rw [if_pos hchange, hc]
    have hl := hk.lookup_getChannelInfo hc
    refine .one ⟨⟨_, rooms_of_lookup hl⟩, fun k x hx hname => ?_⟩ (chat_rewrite hl rfl rfl)
    obtain ⟨c', hc', rfl⟩ := lookup_of_rooms hx
    obtain heq | hnone := hw u hu hchange
    · refine hcoh.rooms k c.channelId _ _ hx (rooms_of_lookup hl) ?_
      exact hname.trans (heq.trans (getChannelInfo_some hc).1.symm)
    · rw [State.checkDuplicateChannelName, Option.isSome_eq_false_iff, Option.isNone_iff_eq_none]
        at hnone
      exact absurd hname (getChannelInfo_none hnone hc')
  · rw [if_neg hchange] at h₁
    cases h₁
    rw [if_neg hchange]
    exact .nil rfl

theorem does_invite (hk : KeyedState s) (hshape : ChannelsShaped s)
    (hreg : ∀ name ∈ u.users.add.members, ∃ v, s.displayNames.lookup name = some v) :
    Does s (inviteActs s env u) ((addStep s env u).getD s) := by
  rw [inviteActs, addStep]
  by_cases halter : u.users.alter ≠ 48
  · rw [if_pos halter, if_pos halter, State.addUsersOnChannel]
    cases hc : s.getChannelInfo env u.channelName with
    | none => exact .nil rfl
    | some c =>
      have hl := hk.lookup_getChannelInfo hc
      obtain ⟨_, hmem⟩ := members_addUsers u.users.add (hshape _ c hl).users
      refine .one ⟨⟨_, rooms_of_lookup hl⟩, ?_⟩ (chat_rewrite hl rfl ?_)
      · exact fun name hname => hreg name (mem_users_of_newcomers hname)
      · rw [ChannelInfo.room, ChannelInfo.room, Room.invite]
        dsimp only
        rw [hmem]
        simp only [List.mem_append, Set.ofPred_or]
  · rw [if_neg halter, if_neg halter]
    exact .nil rfl

/-- What a request does to the chat is what it asks for. -/
theorem does_request (h : InOrder s) (hfresh : FreshEvent s (.request r))
    (hown : RemovesOwnName s r) (hw : WritesFreeName s r) :
    Does s (requestActs s r) (handleRequest s r).state := by
  rw [requestActs]
  cases h₁ : createUserTarget s r with
  | some x =>
    obtain ⟨t, d, p⟩ := x
    obtain ⟨_, _, hname⟩ := createUserTarget_some h₁
    have hnone := hfresh.request.no_account
    rw [state_of_createUser h₁]
    refine .one ⟨hname, ?_, ?_⟩ (chat_withUser s hnone t d p)
    · rintro ⟨d', hd'⟩
      exact name_of_not_mem_uuids hfresh.2 hd' rfl
    · rintro ⟨a, ha, _⟩
      rw [hnone] at ha
      cases ha
  | none =>
  cases h₂ : destroyTarget s r with
  | some x =>
    obtain ⟨d, l⟩ := x
    rw [state_of_destroy h₂]
    exact .one ⟨_, hown _ h₂⟩ (chat_withoutUser s (hown _ h₂))
  | none =>
  cases h₃ : loginTarget s r with
  | some x =>
    obtain ⟨l, a⟩ := x
    have hchat := chat_of_login h₃
    dsimp only
    by_cases helse : loggedInElsewhere s.activeUsers a r.clntAddr = true
    · rw [if_pos helse] at hchat ⊢
      exact .nil hchat
    · rw [if_neg helse] at hchat ⊢
      refine .one ⟨a.displayName, h.identified.names _ a (h.keyed.account_of_login h₃)⟩ ?_
      rw [hchat]
      exact chat_online s rfl
  | none =>
  cases h₄ : logoutTarget s r with
  | some a =>
    rw [(call_of_logout h₄).2.2]
    refine .one ⟨a, h.keyed.account_of_logout h₄, online_of_logout h₄⟩ ?_
    exact chat_offline s (a := logoutUserAccount a) rfl
  | none =>
  cases h₅ : createChannelTarget s r with
  | some c =>
    obtain ⟨name, d, p, rfl, hd, _, hfree⟩ := createChannelTarget_some h₅
    rw [state_of_createChannel h₅]
    exact does_found p hfresh.no_channel hd hfree
  | none =>
  cases h₆ : updateTarget s r with
  | some u =>
    obtain ⟨s₁, hs₁, hstate⟩ := state_of_update h₆
    have hframe := renameStep_frame hs₁
    have hkeeps : KeepsChannels s s s₁ := .renameStep h.channels h.keyed hs₁
    have hshape : ChannelsShaped s₁ := hkeeps.1
    rw [hstate]
    dsimp only
    rw [hs₁]
    refine .append (does_rename h.keyed h.coherent h₆ hw hs₁)
      (does_invite (h.keyed.renameStep hs₁) hshape fun name hname => ?_)
    rw [hframe]
    exact registered_of_update h₆ hname
  | none =>
  cases h₇ : createMessageTarget s r with
  | some m =>
    obtain ⟨channel, l, user, name, hc, _, hl, hid, hspeaker, hroom⟩ := createMessageTarget_some h₇
    obtain ⟨a, ha⟩ := h.identified.logins.login_account _ l hl
    have hnew : s.messagesInfo.lookup m.messageId = none := by
      rw [hid]
      exact hfresh.no_message
    rw [state_of_message h₇]
    refine .one ⟨⟨channel.room, ?_⟩, a.displayName, ?_⟩ (chat_insertMessage s hnew)
    · rw [MessageInfo.remark, hroom]
      exact rooms_of_lookup (h.keyed.lookup_getChannelInfo hc)
    · rw [MessageInfo.remark, hspeaker]
      exact h.identified.names _ a ha
  | none => exact .nil (congrArg State.chat (state_of_none h₁ h₂ h₃ h₄ h₅ h₆ h₇))

/-- What a start does to the chat is what it asks for. -/
theorem does_startUp (h : Identified s) (hnew : s.channelInfo.lookup env.uuid = none) :
    Does s (startActs s env) (startUp env s) := by
  have hadmin : Does s (if s.displayNames.lookup adminName = none then
      [.enrol adminName adminUuid] else []) s.createAdmin := by
    obtain ⟨htaken, he⟩ | ⟨hnone, he⟩ := createAdmin_cases s
    · rw [if_neg htaken, he]
      exact .nil rfl
    · rw [if_pos hnone, he]
      refine .one ⟨hnone, ?_, ?_⟩ (chat_withUser s (h.no_admin hnone) _ _ _)
      · rintro ⟨d, hd⟩
        have hd : s.displayNames.lookup d = some adminUuid := hd
        rw [h.admin d hd, hnone] at hd
        cases hd
      · rintro ⟨a, ha, _⟩
        rw [h.no_admin hnone] at ha
        cases ha
  have hchannels : s.createAdmin.channelInfo = s.channelInfo := by
    obtain ⟨_, he⟩ | ⟨_, he⟩ := createAdmin_cases s
    · rw [he]
    · rw [he]
      rfl
  have hsame : s.createAdmin.getChannelInfo env globalName = s.getChannelInfo env globalName := by
    rw [State.getChannelInfo, hchannels, State.getChannelInfo]
  refine hadmin.append ?_
  rw [startUp]
  obtain ⟨htaken, he⟩ | ⟨hnone, he⟩ := createGlobalChannel_cases s.createAdmin env
  · rw [hsame] at htaken
    rw [if_neg htaken, he]
    exact .nil rfl
  · rw [if_pos (hsame ▸ hnone), he]
    exact does_found false (by rw [hchannels]; exact hnew) rfl hnone

end Doing

theorem Identified.start {v : Server} (h : Identified v.state) (newProcess : Bool) (env : Env) :
    Identified (Life.step v (.start newProcess env)).state := by
  refine Life.start_induction v newProcess env ?_ ?_ ?_ h
  · exact fun h => h.frame rfl rfl rfl
  · exact fun s h hnone => h.withUser hnone (h.no_admin hnone) (fun _ => rfl) _ _
  · exact fun s h _ _ => h.frame rfl rfl rfl

/-- Clearing the sessions of the process that ended does nothing to the chat. -/
theorem does_start {v : Server} (h : Identified v.state) (newProcess : Bool) {env : Env}
    (hfresh : FreshEvent v.state (.start newProcess env)) :
    Does v.state (startActs v.state env) (Life.step v (.start newProcess env)).state := by
  show Does v.state (startActs v.state env) (startUp env (Life.entered v newProcess))
  rw [Life.entered]
  split
  · exact does_startUp (s := { v.state with activeUsers := .empty }) (h.frame rfl rfl rfl)
      hfresh.no_channel
  · exact does_startUp h hfresh.no_channel

/-- One event of a life. -/
theorem InOrder.step {v : Server} {e : LifeEvent} (h : InOrder v.state)
    (hc : Life.happens v e = true → Orderly v.state e) :
    Does v.state (acts v e) (Life.step v e).state ∧ InOrder (Life.step v e).state := by
  have hdoes : Does v.state (acts v e) (Life.step v e).state ∧
      Identified (Life.step v e).state := by
    cases e with
    | start newProcess env =>
      exact ⟨does_start h.identified newProcess (hc rfl).2.1, h.identified.start newProcess env⟩
    | request r =>
      obtain ⟨hv, he⟩ | ⟨hv, hstate, he⟩ := Life.step_request v r
      · rw [acts, hv, he]
        exact ⟨.nil rfl, h.identified⟩
      · obtain ⟨_, hfresh, hown, hw⟩ := hc hv
        refine ⟨?_, h.identified.effect h.keyed hfresh.request hown he⟩
        rw [acts, hv, hstate]
        exact does_request h hfresh hown hw
  refine ⟨hdoes.1, Life.keyed_step h.keyed e, ?_, hdoes.2, ?_, ?_⟩
  · exact cStrings.holds_step h.keyed h.strings fun hv => cStrings_givenEvent (hc hv).1
  · exact (KeepsChannels.step h.keyed h.channels fun hv => (hc hv).2.1).1
  · rw [hdoes.1.2]
    exact h.coherent.performs hdoes.1.1

theorem chat_fresh : State.fresh.chat = Chat.empty := by
  apply Chat.ext
  · rfl
  · ext q
    constructor
    · rintro ⟨a, ha, _⟩
      cases ha
    · intro hq
      cases hq
  · rfl
  · rfl

theorem inOrder_fresh : InOrder .fresh where
  keyed := Life.keyedState_fresh
  strings := cStrings.holds_fresh
  identified := ⟨⟨nofun, .empty _⟩, nofun, nofun⟩
  channels := Dbm.All.empty _
  coherent := by
    rw [chat_fresh]
    exact Chat.coherent_empty

/-- A run whose steps do what their events ask for. -/
theorem InOrder.forward {ε : Type} {step : Server → ε → Server}
    {acts : Server → ε → List (Act Uuid Name Text)} {C : Server → ε → Prop}
    (hstep : ∀ v e, InOrder v.state → C v e →
      Does v.state (acts v e) (step v e).state ∧ InOrder (step v e).state)
    {v : Server} {es : List ε} (h : InOrder v.state) (hes : Run.Along step C v es) :
    Does v.state (Run.trace step acts v es) (Run.run step v es).state ∧
      InOrder (Run.run step v es).state := by
  have hdoes : ∀ (v : Server) (c : Chat Uuid Name Text) (e : ε),
      v.state.chat = c ∧ InOrder v.state → C v e →
      c.Allows (acts v e) ∧ (step v e).state.chat = c.performs (acts v e) ∧
        InOrder (step v e).state := by
    rintro v c e ⟨rfl, hv⟩ hc
    obtain ⟨⟨hallows, hchat⟩, hin⟩ := hstep v e hv hc
    exact ⟨hallows, hchat, hin⟩
  have hrun := Run.forward (fun v c e hr hc => (hdoes v c e hr hc).2) ⟨rfl, h⟩ hes
  exact ⟨⟨Run.forward_along hdoes ⟨rfl, h⟩ hes, hrun.1⟩, hrun.2⟩

/-- All events of a run of a server whose databases are in order. -/
theorem InOrder.run {v : Server} {es : List LifeEvent} (h : InOrder v.state)
    (hes : Life.Along Orderly v es) :
    Does v.state (Run.trace Life.step acts v es) (Run.run Life.step v es).state ∧
      InOrder (Run.run Life.step v es).state :=
  h.forward (fun _ _ hv hc => hv.step hc) hes

/-- The acts of a life. -/
abbrev lifeActs (es : List LifeEvent) : List (Act Uuid Name Text) :=
  Run.trace Life.step acts Life.initial es

/-- What an event asks of the chat on a machine: a call that has no room for the account it fetches
stops before it stores anything. -/
def Machine.acts (v : Server) (x : Machine × LifeEvent) : List (Act Uuid Name Text) :=
  match x.2 with
  | .start _ env => startActs v.state env
  | .request r =>
    if v.running ∧ (x.1.Roomy ∨ Machine.fetchedBy v.state r = none) then requestActs v.state r
    else []

/-- One event of a life on a machine. -/
theorem InOrder.lifeStep {v : Server} {x : Machine × LifeEvent} (h : InOrder v.state)
    (hc : Life.happens v x.2 = true → Orderly v.state x.2) :
    Does v.state (Machine.acts v x) (Machine.lifeStep v x).state ∧
      InOrder (Machine.lifeStep v x).state := by
  obtain ⟨m, e⟩ := x
  cases e with
  | start newProcess env => exact h.step (e := .start newProcess env) hc
  | request r =>
    cases hv : v.running with
    | false =>
      rw [Machine.lifeStep_stopped v hv, Machine.acts, hv]
      exact ⟨.nil rfl, h⟩
    | true =>
      obtain ⟨hends, -⟩ := hc hv
      rw [Machine.lifeStep_running v hv, Machine.acts]
      dsimp only
      rw [Machine.call, Machine.deliver_state]
      by_cases hroom : m.Roomy ∨ Machine.fetchedBy v.state r = none
      · have hplain := h.step (e := .request r) hc
        rw [acts, hv, Life.step, Server.step_running r hv] at hplain
        rw [if_pos ⟨hv, hroom⟩, m.handleRequest_eq h.strings hends hroom]
        exact hplain
      · obtain ⟨htight, hf⟩ := not_or.mp hroom
        rw [if_neg fun h => hroom h.2, m.handleRequest_tight h.strings hends htight hf]
        exact ⟨.nil rfl, h⟩

/-- All events of a life on machines. -/
theorem InOrder.lifeRun {v : Server} {xs : List (Machine × LifeEvent)} (h : InOrder v.state)
    (hxs : Machine.LifeAlong (fun s x => Orderly s x.2) v xs) :
    Does v.state (Run.trace Machine.lifeStep Machine.acts v xs)
        (Run.run Machine.lifeStep v xs).state ∧
      InOrder (Run.run Machine.lifeStep v xs).state :=
  h.forward (fun _ _ hv hc => hv.lifeStep hc) hxs

/-- The acts of a life on machines. -/
abbrev Machine.lifeActs (xs : List (Machine × LifeEvent)) : List (Act Uuid Name Text) :=
  Run.trace Machine.lifeStep Machine.acts Life.initial xs

/-- The server refines the chat: in every orderly life, on any machines, the acts that the events
ask for are permitted one after the other, and the databases hold the chat that has performed
them. -/
theorem server_refines_chat (xs : List (Machine × LifeEvent))
    (h : Machine.LifeAlong (fun s x => Orderly s x.2) Life.initial xs) :
    Chat.empty.Allows (Machine.lifeActs xs) ∧
      (Machine.lived xs).state.chat =
        Chat.empty.performs (Machine.lifeActs xs) := by
  obtain ⟨⟨hallows, hchat⟩, _⟩ := InOrder.lifeRun (v := Life.initial) inOrder_fresh h
  have hempty : Life.initial.state.chat = Chat.empty := chat_fresh
  rw [hempty] at hallows hchat
  exact ⟨hallows, hchat⟩

/-- A user joins the channel of `teaLife`, the channel gets another name, a message is posted in it,
and the user leaves. -/
def partyLife : List LifeEvent :=
  teaLife ++ [.request (Client.addMember 6 "10.0.0.2" "tea" "bob"),
    .request (Client.renameChannel 6 "10.0.0.2" "tea" "coffee"),
    .request (Client.createMessage 6 "10.0.0.2" "admin" "coffee" "hello" "10:00"
      "44444444-4444-4444-4444-444444444444"),
    .request (Client.destroyUser 6 "10.0.0.2" "bob" "bobt" "pw")]

theorem server_refines_chat_partyLife :
    let xs := Client.lifeOn Client.machine partyLife
    (Machine.lifeActs xs).length = 9 ∧ Chat.empty.Allows (Machine.lifeActs xs) ∧
      (Machine.lived xs).state.chat = Chat.empty.performs (Machine.lifeActs xs) :=
  ⟨by decide +kernel, server_refines_chat (Client.lifeOn Client.machine partyLife)
    (by decide +kernel)⟩

/-- In an orderly life the databases hold a coherent chat, and what it has grown to stays. -/
theorem chat_grows_life (xs xs' : List (Machine × LifeEvent))
    (h : Machine.LifeAlong (fun s x => Orderly s x.2) Life.initial (xs ++ xs')) :
    (Machine.lived (xs ++ xs')).state.chat.Coherent ∧
      (Machine.lived xs).state.chat.Grows (Machine.lived (xs ++ xs')).state.chat := by
  obtain ⟨hfirst, hlater⟩ := Run.along_append.mp h
  obtain ⟨_, hin⟩ := InOrder.lifeRun inOrder_fresh hfirst
  obtain ⟨hdoes, hin'⟩ := InOrder.lifeRun hin hlater
  rw [Machine.lived, Run.run_append]
  refine ⟨hin'.coherent, ?_⟩
  rw [hdoes.2]
  exact .performs hdoes.1

theorem chat_grows_life_partyLife :
    let xs := Client.lifeOn Client.machine teaLife
    let xs' := Client.lifeOn Client.machine (partyLife.drop 4)
    (Machine.lived (xs ++ xs')).state.chat.Coherent ∧
      (Machine.lived xs).state.chat.Grows (Machine.lived (xs ++ xs')).state.chat :=
  chat_grows_life (Client.lifeOn Client.machine teaLife)
    (Client.lifeOn Client.machine (partyLife.drop 4)) (by decide +kernel)

end ChatServer
