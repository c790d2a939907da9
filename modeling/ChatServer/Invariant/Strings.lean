import ChatServer.Handler.UpdateParser
import ChatServer.Invariant.Accounts
import ChatServer.Invariant.References

/-!
# Strings in the stores

Every string in a record or in a session was copied there from a request, from the environment, from
another record or from the text of the program. A property of strings that all requests and the
environment respect therefore holds of everything that is stored, in every state of every life.
-/

namespace ChatServer

open CLib

/-- A property of the strings in the stores, by kind, which the strings of the program itself
have. -/
structure StringSpec where
  name : Name → Prop
  password : Password → Prop
  uuid : Uuid → Prop
  addr : IpAddr → Prop
  content : CharArray maxMessageSize → Prop
  stamp : CharArray timestampSize → Prop
  name_empty : name (.empty _)
  name_admin : name adminName
  name_global : name globalName
  password_admin : password adminPassword
  uuid_admin : uuid adminUuid
  addr_none : addr noAddress

namespace StringSpec

structure Login (F : StringSpec) (l : UserLogin) : Prop where
  token : F.name l.loginToken
  password : F.password l.password
  uuid : F.uuid l.uuid

structure Account (F : StringSpec) (a : UserAccount) : Prop where
  id : F.uuid a.userId
  name : F.name a.displayName
  addr : F.addr a.ipAddr

structure Channel (F : StringSpec) (c : ChannelInfo) : Prop where
  id : F.uuid c.channelId
  name : F.name c.channelName
  creator : F.name c.creator
  users : ∀ u ∈ c.userList.slots, F.name u
  admins : ∀ u ∈ c.adminList.slots, F.name u
  banned : ∀ u ∈ c.bannedList.slots, F.name u

structure Message (F : StringSpec) (m : MessageInfo) : Prop where
  id : F.uuid m.messageId
  user : F.uuid m.userId
  channel : F.uuid m.channelId
  content : F.content m.messageContent
  stamp : F.stamp m.timeStamp

structure Session (F : StringSpec) (u : ConnectedUser) : Prop where
  name : F.name u.dsplyName
  addr : F.addr u.ipAddress
  token : F.name u.loginToken
  uuid : F.uuid u.uuid

/-- Every string of every record, key and session has the property. -/
structure Holds (F : StringSpec) (s : State) : Prop where
  logins : s.userLoginInfo.All fun t l => F.name t ∧ F.Login l
  names : s.displayNames.All fun d u => F.name d ∧ F.uuid u
  accounts : s.userAccountInfo.All fun k a => F.uuid k ∧ F.Account a
  channels : s.channelInfo.All fun k c => F.uuid k ∧ F.Channel c
  messages : s.messagesInfo.All fun k m => F.uuid k ∧ F.Message m
  sessions : ∀ u ∈ s.activeUsers.live, F.Session u

/-- The strings that a request brings into the stores have the property. -/
structure Given (F : StringSpec) (s : State) (r : Request) : Prop where
  uuid : F.uuid r.env.uuid
  addr : F.addr r.clntAddr
  user : ∀ t d p, createUserTarget s r = some (t, d, p) → F.name t ∧ F.name d ∧ F.password p
  channel : ∀ c, createChannelTarget s r = some c → F.name c.channelName ∧ F.name c.creator
  rename : ∀ u, updateTarget s r = some u → F.name u.newChannelName
  message : ∀ m, createMessageTarget s r = some m → F.content m.messageContent ∧ F.stamp m.timeStamp

variable {F : StringSpec} {s : State}

theorem account_generate {u : Uuid} {d : Name} (hu : F.uuid u) (hd : F.name d) :
    F.Account (generateUserAccount u d) :=
  ⟨hu, hd, F.addr_none⟩

theorem name_set {l : NameList} (h : ∀ u ∈ l.slots, F.name u) (i : ℕ) {d : Name} (hd : F.name d) :
    ∀ u ∈ (l.set i d).slots, F.name u := by
  intro u hu
  obtain hu | rfl := List.mem_or_eq_of_mem_set hu
  · exact h u hu
  · exact hd

theorem name_of_mem_empty : ∀ u ∈ NameList.empty.slots, F.name u := by
  intro u hu
  rw [List.eq_of_mem_replicate hu]
  exact F.name_empty

theorem channel_createChannel {u : Uuid} {c d : Name} (hu : F.uuid u) (hc : F.name c)
    (hd : F.name d) (p : Bool) : F.Channel (createChannel u c d p) :=
  ⟨hu, hc, hd, name_set name_of_mem_empty 0 hd, name_set name_of_mem_empty 0 hd,
    name_of_mem_empty⟩

/-- A name in an extended list is blank, an old member or a new one. -/
theorem name_addUsers {l users : NameList} (hl : ∀ u ∈ l.slots, F.name u)
    (hu : ∀ u ∈ users.members, F.name u) : ∀ u ∈ (addUsers l users).slots, F.name u := by
  intro u hmem
  cases hempty : u.isEmpty with
  | true =>
    rw [CharArray.isEmpty_iff.mp hempty]
    exact F.name_empty
  | false =>
    obtain h | h := holds_addUsers ⟨hmem, hempty⟩
    · exact hl u h.1
    · exact hu u h

namespace Holds

variable (h : F.Holds s)
include h

theorem withUser {u : Uuid} {t d : Name} {p : Password} (hu : F.uuid u) (ht : F.name t)
    (hd : F.name d) (hp : F.password p) : F.Holds (s.withUser u t d p) where
  logins := h.logins.insert ⟨ht, ht, hp, hu⟩
  names := h.names.insert ⟨hd, hu⟩
  accounts := h.accounts.insert ⟨hu, account_generate hu hd⟩
  channels := h.channels
  messages := h.messages
  sessions := h.sessions

theorem withoutUser (d : Name) (l : UserLogin) : F.Holds (s.withoutUser d l) where
  logins := h.logins.erase _
  names := h.names.erase _
  accounts := h.accounts.erase _
  channels := h.channels
  messages := h.messages
  sessions := h.sessions

theorem insertUserAccount {a : UserAccount} (ha : F.Account a) :
    F.Holds (s.insertUserAccount a) :=
  ⟨h.logins, h.names, h.accounts.insert ⟨ha.id, ha⟩, h.channels, h.messages, h.sessions⟩

theorem insertChannelInfo {c : ChannelInfo} (hc : F.Channel c) :
    F.Holds (s.insertChannelInfo c) :=
  ⟨h.logins, h.names, h.accounts, h.channels.insert ⟨hc.id, hc⟩, h.messages, h.sessions⟩

theorem insertMessage {m : MessageInfo} (hm : F.Message m) : F.Holds (s.insertMessage m) :=
  ⟨h.logins, h.names, h.accounts, h.channels, h.messages.insert ⟨hm.id, hm⟩, h.sessions⟩

theorem withCache {c : Cache} (hc : ∀ u ∈ c.live, F.Session u) :
    F.Holds { s with activeUsers := c } :=
  ⟨h.logins, h.names, h.accounts, h.channels, h.messages, hc⟩

/-- A session gets its strings from the account and from the login record. -/
theorem openSession {fd : ℕ} {a : UserAccount} {l : UserLogin} {c : Cache} (ha : F.Account a)
    (hl : F.Login l) (hlive : c.live = s.activeUsers.live ++ [Cache.newSession fd a l]) :
    ∀ u ∈ c.live, F.Session u := by
  intro u hu
  rw [hlive, List.mem_append, List.mem_singleton] at hu
  obtain hu | rfl := hu
  · exact h.sessions u hu
  · exact ⟨ha.name, ha.addr, hl.token, ha.id⟩

theorem account_of_login {r : Request} {l : UserLogin} {a : UserAccount}
    (ht : loginTarget s r = some (l, a)) : F.Login l ∧ F.Account a := by
  obtain ⟨t, hl, ha⟩ := loginTarget_some ht
  exact ⟨(h.logins t l hl).2, (h.accounts _ a ha).2⟩

theorem renameStep {env : Env} {u : UpdateRequest} {s₁ : State} (hu : F.name u.newChannelName)
    (h₁ : renameStep s env u = some s₁) : F.Holds s₁ := by
  obtain rfl | ⟨c, _, hc, rfl⟩ := renameStep_cases h₁
  · exact h
  · obtain ⟨_, k, hk⟩ := getChannelInfo_some hc
    obtain ⟨hid, _, hcreator, husers, hadmins, hbanned⟩ := (h.channels k c hk).2
    exact h.insertChannelInfo ⟨hid, hu, hcreator, husers, hadmins, hbanned⟩

theorem addStep {env : Env} {u : UpdateRequest} {s₁ : State}
    (hu : ∀ x ∈ u.users.add.members, F.name x) (h₁ : addStep s env u = some s₁) : F.Holds s₁ := by
  obtain rfl | ⟨c, hc, rfl⟩ := addStep_cases h₁
  · exact h
  · obtain ⟨_, k, hk⟩ := getChannelInfo_some hc
    obtain ⟨hid, hname, hcreator, husers, hadmins, hbanned⟩ := (h.channels k c hk).2
    exact h.insertChannelInfo ⟨hid, hname, hcreator, name_addUsers husers hu, hadmins, hbanned⟩

theorem effect (hk : KeyedState s) {r : Request} {s' : State} {b : Bool} (hr : F.Given s r)
    (he : Effect s r s' b) : F.Holds s' := by
  cases he with
  | unchanged => exact h
  | createUser ht =>
    obtain ⟨h₁, h₂, h₃⟩ := hr.user _ _ _ ht
    exact h.withUser hr.uuid h₁ h₂ h₃
  | destroyUser => exact h.withoutUser _ _
  | restart ht | cacheFull ht =>
    obtain ⟨_, ha⟩ := h.account_of_login ht
    exact h.insertUserAccount ⟨ha.id, ha.name, hr.addr⟩
  | @openSession _ a _ ht _ _ hc =>
    obtain ⟨hl, ha⟩ := h.account_of_login ht
    have ha' : F.Account (loginUserAccount a r.clntAddr) := ⟨ha.id, ha.name, hr.addr⟩
    exact (h.insertUserAccount ha').withCache (h.openSession ha' hl (hk.live_of_login hc ht rfl))
  | terminate ht _ hc =>
    obtain ⟨hl, ha⟩ := h.account_of_login ht
    exact h.withCache (h.openSession ha hl (hk.live_of_login hc ht rfl))
  | @logout a ht =>
    obtain ⟨_, k, _, hlook, _⟩ := logoutTarget_some ht
    have ha := (h.accounts k a hlook).2
    have ha' : F.Account (logoutUserAccount a) := ⟨ha.id, ha.name, F.addr_none⟩
    refine (h.insertUserAccount ha').withCache fun u hu => ?_
    rw [Cache.live_removeUserInCache] at hu
    exact h.sessions u (List.mem_of_mem_eraseP hu)
  | createChannel ht =>
    obtain ⟨_, _, p, rfl, _⟩ := createChannelTarget_some ht
    obtain ⟨hc, hd⟩ := hr.channel _ ht
    exact h.insertChannelInfo (channel_createChannel hr.uuid hc hd p)
  | updateChannel ht h₁ h₂ =>
    have hrenamed := h.renameStep (hr.rename _ ht) h₁
    obtain rfl | h₂ := h₂
    · exact hrenamed
    · refine hrenamed.addStep (fun x hx => ?_) h₂
      -- the members that an update adds are registered names
      obtain ⟨v, hv⟩ := registered_of_update ht hx
      exact (h.names x v hv).1
  | createMessage ht =>
    obtain ⟨channel, login, user, name, hc, _, hl, hid, hauthor, hchannel⟩ :=
      createMessageTarget_some ht
    obtain ⟨_, k, hk⟩ := getChannelInfo_some hc
    obtain ⟨hcontent, hstamp⟩ := hr.message _ ht
    refine h.insertMessage ⟨?_, ?_, ?_, hcontent, hstamp⟩
    · rw [hid]
      exact hr.uuid
    · rw [hauthor]
      exact (h.logins _ login hl).2.uuid
    · rw [hchannel]
      exact (h.channels k channel hk).2.id

end Holds

/-- A cleared cache has no session. -/
theorem session_of_mem_empty : ∀ u ∈ Cache.empty.live, F.Session u := by
  rw [show Cache.empty.live = [] by decide]
  exact fun _ hu => absurd hu List.not_mem_nil

theorem holds_fresh (F : StringSpec) : F.Holds .fresh :=
  ⟨.empty _, .empty _, .empty _, .empty _, .empty _, session_of_mem_empty⟩

/-- The strings that an event brings into the stores have the property. -/
def GivenEvent (F : StringSpec) (s : State) : LifeEvent → Prop
  | .start _ env => F.uuid env.uuid
  | .request r => F.Given s r

theorem holds_step {v : Server} (hk : KeyedState v.state) (h : F.Holds v.state) {e : LifeEvent}
    (he : Life.happens v e = true → F.GivenEvent v.state e) : F.Holds (Life.step v e).state := by
  cases e with
  | start newProcess env =>
    have huuid : F.uuid env.uuid := he rfl
    refine Life.start_induction v newProcess env ?_ ?_ ?_ h
    · exact fun h => h.withCache session_of_mem_empty
    · exact fun s h _ => h.withUser F.uuid_admin F.name_admin F.name_admin F.password_admin
    · exact fun s h _ _ =>
        h.insertChannelInfo (channel_createChannel huuid F.name_global F.name_admin false)
  | request r =>
    obtain ⟨_, heq⟩ | ⟨hr, _, heff⟩ := Life.step_request v r
    · rw [heq]; exact h
    · exact h.effect hk (he hr) heff

/-- What all events respect, everything stored has. -/
theorem holds_run {es : List LifeEvent} (hes : Life.Along F.GivenEvent Life.initial es) :
    F.Holds (Life.run es).state := by
  refine (Run.invariant (I := fun v => KeyedState v.state ∧ F.Holds v.state) ?_
    ⟨Life.keyedState_fresh, F.holds_fresh⟩ hes).2
  rintro v e ⟨hk, h⟩ he
  exact ⟨Life.keyed_step hk e, holds_step hk h he⟩

end StringSpec

section Sources

variable {s : State} {r : Request}

/-- The strings of a request to create a channel are its first two fields. -/
theorem fields_of_createChannel {c : ChannelInfo} (h : createChannelTarget s r = some c) :
    ∃ rest, r.fieldsFor .createChannel = some (c.channelName.str :: c.creator.str :: rest) := by
  simp only [createChannelTarget, bind, Option.bind_eq_some_iff, Prod.exists,
    Option.ite_none_right_eq_some, Option.some.injEq] at h
  obtain ⟨fs, hfs, name, ts, hn, d, us, hd, _, _, _, _, _, rfl⟩ := h
  rw [field?_some hn, field?_some hd] at hfs
  exact ⟨us, hfs⟩

/-- A value was read behind a flag that is set. -/
theorem readFlagged_some {ts us : List Str} {v : Str} (h : readFlagged ts = .ok (some v, us)) :
    ts = ascii "1" :: v :: us := by
  obtain ⟨⟨flag, ts'⟩, hflag, h⟩ := bind_eq_ok h
  dsimp only at h
  split at h
  · rename_i hset
    obtain ⟨⟨value, us'⟩, hvalue, h⟩ := bind_eq_ok h
    cases h
    cases ts with
    | nil => cases hflag
    | cons t ts =>
      cases hflag
      cases ts' with
      | nil => cases hvalue
      | cons t' ts =>
        cases hvalue
        rw [hset]
  · cases h

/-- A new channel name is empty or the beginning of the field behind the first flag. -/
theorem newChannelName_of_update {u : UpdateRequest} (h : updateTarget s r = some u) :
    u.newChannelName = .empty _ ∨ ∃ name v us,
      r.fieldsFor .updateChannel = some (name :: ascii "1" :: v :: us) ∧
      u.newChannelName = CharArray.strncpy _ v := by
  simp only [updateTarget, bind, Option.bind_eq_some_iff, Option.ite_none_right_eq_some] at h
  obtain ⟨fs, hfs, u', hu, _, heq⟩ := h
  obtain rfl := Option.some.inj heq
  have hu : parseUpdate fs = .ok u' := by
    cases hp : parseUpdate fs with
    | error e => rw [hp] at hu; cases hu
    | ok x => rw [hp] at hu; cases hu; rfl
  obtain ⟨name, ts, newName, us, _, _, _, _, rfl, _, e₁, _, _, _, _, _, hnew⟩ :=
    parseUpdate_stages hu
  cases newName with
  | none => exact Or.inl hnew
  | some v =>
    rw [readFlagged_some e₁] at hfs
    exact Or.inr ⟨name, v, us, hfs, hnew⟩

end Sources

/-- Names without a delimiter. -/
def delimiterFree : StringSpec where
  name d := etx ∉ d.str
  password _ := True
  uuid _ := True
  addr _ := True
  content _ := True
  stamp _ := True
  name_empty := List.not_mem_nil
  name_admin := by decide
  name_global := by decide
  password_admin := trivial
  uuid_admin := trivial
  addr_none := trivial

theorem etx_not_mem_of_fieldsFor {r : Request} {k : RequestKind} {fs : List Str}
    (h : r.fieldsFor k = some fs) {t : Str} (ht : t ∈ fs) : etx ∉ t := by
  obtain ⟨_, _, _, _, _, rfl⟩ := fieldsFor_some h
  exact not_mem_of_mem_tokens ht

/-- The delimiter is in no field, so no request can bring it into a name. -/
theorem delimiterFree_given (s : State) (r : Request) : delimiterFree.Given s r where
  uuid := trivial
  addr := trivial
  user := by
    intro t d p h
    obtain ⟨⟨rest, hf⟩, _⟩ := createUserTarget_some h
    exact ⟨etx_not_mem_of_fieldsFor hf (by simp), etx_not_mem_of_fieldsFor hf (by simp), trivial⟩
  channel := by
    intro c h
    obtain ⟨rest, hf⟩ := fields_of_createChannel h
    exact ⟨etx_not_mem_of_fieldsFor hf (by simp), etx_not_mem_of_fieldsFor hf (by simp)⟩
  rename := by
    intro u h
    obtain hu | ⟨name, v, us, hf, hu⟩ := newChannelName_of_update h
    · rw [hu]
      exact delimiterFree.name_empty
    · rw [hu]
      exact fun hmem => etx_not_mem_of_fieldsFor hf (by simp) (List.mem_of_mem_take hmem)
  message := fun _ _ => ⟨trivial, trivial⟩

/-- In every state of every life no name has a delimiter in it. -/
theorem delimiterFree_run (es : List LifeEvent) : delimiterFree.Holds (Life.run es).state := by
  refine StringSpec.holds_run (Run.along_of_forall (fun v e _ _ => ?_) _)
  cases e with
  | start newProcess env => trivial
  | request r => exact delimiterFree_given v.state r

end ChatServer
