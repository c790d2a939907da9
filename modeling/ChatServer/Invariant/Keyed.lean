import ChatServer.Server

/-!
# Records under their own keys

Login records, accounts and channels are stored under the token or uuid that they carry, and no
account has an empty display name. This holds in every run, whatever the clients send, and every
other invariant builds on it.
-/

namespace ChatServer

open CLib

structure KeyedState (s : State) : Prop where
  logins : s.userLoginInfo.Keyed UserLogin.loginToken
  accounts : s.userAccountInfo.Keyed UserAccount.userId
  channels : s.channelInfo.Keyed ChannelInfo.channelId
  named : s.userAccountInfo.All fun _ a => a.displayName.isEmpty = false

namespace KeyedState

variable {s : State} (h : KeyedState s)
include h

theorem insertUserAccount {a : UserAccount} (ha : a.displayName.isEmpty = false) :
    KeyedState (s.insertUserAccount a) :=
  ⟨h.logins, h.accounts.insert a, h.channels, h.named.insert ha⟩

theorem insertChannelInfo (c : ChannelInfo) : KeyedState (s.insertChannelInfo c) :=
  ⟨h.logins, h.accounts, h.channels.insert c, h.named⟩

theorem account_of_login {r : Request} {l : UserLogin} {a : UserAccount}
    (ht : loginTarget s r = some (l, a)) : s.userAccountInfo.lookup a.userId = some a := by
  obtain ⟨_, _, ha⟩ := loginTarget_some ht
  rw [h.accounts _ a ha, ha]

theorem account_of_logout {r : Request} {a : UserAccount} (ht : logoutTarget s r = some a) :
    s.userAccountInfo.lookup a.userId = some a := by
  obtain ⟨_, _, _, ha, _⟩ := logoutTarget_some ht
  rw [h.accounts _ a ha, ha]

theorem login_of_login {r : Request} {l : UserLogin} {a : UserAccount}
    (ht : loginTarget s r = some (l, a)) : s.userLoginInfo.lookup l.loginToken = some l := by
  obtain ⟨t, hl, _⟩ := loginTarget_some ht
  rw [h.logins t l hl, hl]

theorem named_of_login {r : Request} {l : UserLogin} {a : UserAccount}
    (ht : loginTarget s r = some (l, a)) : a.displayName.isEmpty = false :=
  h.named _ a (h.account_of_login ht)

theorem named_of_logout {r : Request} {a : UserAccount} (ht : logoutTarget s r = some a) :
    a.displayName.isEmpty = false :=
  h.named _ a (h.account_of_logout ht)

/-- A login that opens a session appends it to the live ones. -/
theorem live_of_login {r : Request} {l : UserLogin} {a b : UserAccount} {c : Cache}
    (hc : s.activeUsers.insertUserInCache r.fd b l = some c) (ht : loginTarget s r = some (l, a))
    (hname : b.displayName = a.displayName) :
    c.live = s.activeUsers.live ++ [Cache.newSession r.fd b l] := by
  refine Cache.live_insertUserInCache ?_ hc
  rw [hname]
  exact h.named_of_login ht

/-- The login record that an accepted request to destroy a user names. -/
theorem login_of_destroy {r : Request} {d : Name} {l : UserLogin}
    (ht : destroyTarget s r = some (d, l)) : s.userLoginInfo.lookup l.loginToken = some l := by
  obtain ⟨t, _, _, _, _, _, hl, _⟩ := destroyTarget_some ht
  rw [h.logins t l hl, ← hl]; rfl

/-- The channel that a lookup finds is stored under its own id. -/
theorem lookup_getChannelInfo {env : Env} {name : Name} {c : ChannelInfo}
    (hc : s.getChannelInfo env name = some c) : s.channelInfo.lookup c.channelId = some c := by
  obtain ⟨_, k, hk⟩ := getChannelInfo_some hc
  rw [h.channels k c hk, hk]

theorem renameStep {env : Env} {u : UpdateRequest} {s₁ : State}
    (h₁ : renameStep s env u = some s₁) : KeyedState s₁ := by
  obtain rfl | ⟨c, _, _, rfl⟩ := renameStep_cases h₁
  · exact h
  · exact h.insertChannelInfo _

theorem addStep {env : Env} {u : UpdateRequest} {s₁ : State}
    (h₁ : addStep s env u = some s₁) : KeyedState s₁ := by
  obtain rfl | ⟨c, _, rfl⟩ := addStep_cases h₁
  · exact h
  · exact h.insertChannelInfo _

theorem effect {s' : State} {r : Request} {b : Bool} (he : Effect s r s' b) : KeyedState s' := by
  cases he with
  | unchanged => exact h
  | @createUser t d p ht =>
    obtain ⟨⟨_, hfs⟩, _, _⟩ := createUserTarget_some ht
    have hd : d.isEmpty = false := field_ne_empty hfs (by simp)
    exact ⟨h.logins.insert (generateUserLogin t p r.env.uuid),
      h.accounts.insert (generateUserAccount r.env.uuid d), h.channels,
      h.named.insert hd⟩
  | destroyUser ht => exact ⟨h.logins.erase _, h.accounts.erase _, h.channels, h.named.erase _⟩
  | restart ht | cacheFull ht =>
    have hname := h.named_of_login ht
    exact h.insertUserAccount hname
  | openSession ht =>
    have hname := h.named_of_login ht
    exact ⟨h.logins, h.accounts.insert _, h.channels, h.named.insert hname⟩
  | logout ht =>
    have hname := h.named_of_logout ht
    exact ⟨h.logins, h.accounts.insert _, h.channels, h.named.insert hname⟩
  | terminate ht | createMessage ht => exact ⟨h.logins, h.accounts, h.channels, h.named⟩
  | createChannel ht => exact h.insertChannelInfo _
  | updateChannel ht h₁ h₂ =>
    rcases h₂ with rfl | h₂
    · exact h.renameStep h₁
    · exact (h.renameStep h₁).addStep h₂

end KeyedState

/-- What start-up makes of empty databases: the account of `create_admin` and the global
channel. -/
theorem startUp_fresh (env : Env) : startUp env .fresh =
    ((State.fresh.withUser adminUuid adminName adminName (CharArray.strncpy _ (ascii "admin")))
      ).insertChannelInfo
      (createChannel env.uuid (CharArray.strncpy _ (ascii "global")) adminName false) := by
  have hchan : (State.fresh.createAdmin).getChannelInfo env (CharArray.strncpy _ (ascii "global"))
      = none := by
    rw [State.getChannelInfo, List.find?_eq_none]
    intro c hc
    obtain ⟨k, hk⟩ := KeyOrder.mem_scan.mp hc
    cases hk
  rw [startUp, State.createGlobalChannel, State.checkDuplicateChannelName, hchan]
  rfl

theorem keyedState_startUp (env : Env) : KeyedState (startUp env .fresh) := by
  rw [startUp_fresh]
  have hlogins : (State.fresh.userLoginInfo).Keyed UserLogin.loginToken := Dbm.All.empty _
  have haccounts : (State.fresh.userAccountInfo).Keyed UserAccount.userId := Dbm.All.empty _
  have hchannels : (State.fresh.channelInfo).Keyed ChannelInfo.channelId := Dbm.All.empty _
  exact ⟨hlogins.insert ⟨_, _, _⟩, haccounts.insert _, hchannels.insert _,
    (Dbm.All.empty _).insert rfl⟩

/-- The rule for an invariant of the databases over runs from start-up: it may use that the
records are keyed. -/
theorem Server.invariant_keyed {I : State → Prop} {C : State → Request → Prop}
    (hstep : ∀ s r s' b, KeyedState s → I s → C s r → Effect s r s' b → I s') {env : Env}
    (h0 : I (startUp env .fresh)) {rs : List Request}
    (hrs : Server.Along C (.started env) rs) :
    KeyedState ((Server.started env).run rs).state ∧ I ((Server.started env).run rs).state := by
  refine Server.invariant (I := fun s => KeyedState s ∧ I s) ?_ ⟨keyedState_startUp env, h0⟩ hrs
  rintro s r s' b ⟨hk, hi⟩ hc he
  exact ⟨hk.effect he, hstep s r s' b hk hi hc he⟩

end ChatServer
