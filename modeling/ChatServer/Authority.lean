import ChatServer.LoginLogout
import ChatServer.Malformed
import ChatServer.MessageLog
import ChatServer.PollLoop
import ChatServer.UserRequests

/-!
# On whose behalf a request acts

A logout, a message and a channel are all attributed to the display name in the body of the
request. The session on the requester's own connection is looked up by none of the three handlers,
so whether the name and the connection belong together depends on what the cache holds.
-/

namespace ChatServer

open CLib

section Logout

/-- The session on the connection is the named user's own or an administrator's. -/
def OwnOrAdmin (s : State) (fd : ℕ) (d : Str) : Prop :=
  ∃ u, s.activeUsers.getConnectedUserByFd fd = some u ∧
    (u.dsplyName.str = d ∨ u.privilegeLevel = 1)

/-- A logout changes something only on behalf of the user or of an administrator; everybody else
gets an error result, changes nothing and keeps the connection. -/
structure LogoutMeets (s : State) (r : Request) (d : Str) : Prop where
  authorised : (handleRequest s r).state ≠ s → OwnOrAdmin s r.fd d
  refused : ¬ OwnOrAdmin s r.fd d → r.TurnedDown s ∧ r.fd ∉ (handleRequest s r).closed

variable {s : State} {r : Request} {d : Str} {rest : List Str}

/-- A logout that is answered at all closes the connection it came from. -/
theorem closed_of_logout (hf : r.fieldsFor .logout = some (d :: rest))
    (hret : (handleRequest s r).returned = true) : r.fd ∈ (handleRequest s r).closed := by
  obtain ⟨header, bs, hd, _, _, _⟩ := fieldsFor_some hf
  have hcloses : closesConnection s r = true := by rw [closesConnection, hd]; rfl
  rw [closed_eq, hret, hcloses]
  exact List.mem_singleton_self r.fd

/-- Without an account to log out, a logout leaves the state as it was. -/
theorem state_of_no_logout (hf : r.fieldsFor .logout = some (d :: rest))
    (hnone : logoutTarget s r = none) : (handleRequest s r).state = s := by
  obtain ⟨header, bs, hd, hlen, hinc, hfs⟩ := fieldsFor_some hf
  have hstate : (handleRequest s r).state =
      (readAndLogoutUser s r.clntAddr header.bodySize (bs.take header.bodySize)).state :=
    handleRequest_state hd hlen
  rw [hstate, readAndLogoutUser, if_neg (by simp [hinc]), ← hfs]
  rw [logoutTarget, hf] at hnone
  cases h₁ : nextField tokenNameLength (d :: rest) with
  | error f => rfl
  | ok x =>
    obtain ⟨name, ts⟩ := x
    simp only [bind, Option.bind, field?_eq h₁] at hnone
    dsimp only
    cases hu : s.getUuidWithDisplayName name with
    | none => rfl
    | some u =>
      simp only [hu] at hnone
      dsimp only
      cases ha : s.getUserAccount u with
      | none => rfl
      | some a =>
        simp only [ha] at hnone
        dsimp only
        cases hr : logoutRefused a r.clntAddr with
        | error f => rfl
        | ok result =>
          cases result with
          | none => simp [hr] at hnone
          | some n => rfl

/-- An account that is logged out was online before and is not behind it. -/
theorem state_ne_of_logout (hk : KeyedState s) {a : UserAccount}
    (h : logoutTarget s r = some a) : (handleRequest s r).state ≠ s := by
  intro he
  obtain ⟨_, u, _, ha, _⟩ := logoutTarget_some h
  rw [(call_of_logout h).2.2] at he
  have hoff : s.userAccountInfo.lookup a.userId = some (logoutUserAccount a) := by
    rw [← he]
    exact AList.lookup_insert _
  rw [hk.accounts u a ha, ha] at hoff
  have hon := online_of_logout h
  rw [Option.some.inj hoff] at hon
  cases hon

end Logout

/-- In every state of every life a logout meets what is asked of it if and only if the session on
the requester's connection is the named user's own or an administrator's: any other requester that
is answered has its connection closed. The state changes whoever asks, as soon as the account of the
name passes the switch over its own privilege. -/
theorem logout_authorised_iff (es : List LifeEvent) (r : Request) (d : Str) (rest : List Str)
    (hf : r.fieldsFor .logout = some (d :: rest)) :
    (LogoutMeets (Life.run es).state r d ↔ OwnOrAdmin (Life.run es).state r.fd d) ∧
      ((handleRequest (Life.run es).state r).state ≠ (Life.run es).state ↔
        ∃ a, logoutTarget (Life.run es).state r = some a) := by
  refine ⟨⟨fun h => ?_, fun h => ⟨fun _ => h, fun hno => absurd h hno⟩⟩, fun h => ?_, ?_⟩
  · by_contra hno
    obtain ⟨hdown, hopen⟩ := h.refused hno
    exact hopen (closed_of_logout hf hdown.returned)
  · cases ht : logoutTarget (Life.run es).state r with
    | none => exact absurd (state_of_no_logout hf ht) h
    | some a => exact ⟨a, rfl⟩
  · rintro ⟨a, ha⟩
    exact state_ne_of_logout (Life.keyed_run es) ha

/-- The user of `bobLife` logs itself out. -/
theorem logout_authorised_bobLife :
    LogoutMeets (Life.run bobLife).state (Client.logout 5 "10.0.0.1" "bob") (ascii "bob") :=
  (logout_authorised_iff bobLife (Client.logout 5 "10.0.0.1" "bob") (ascii "bob") []
    (by decide +kernel)).1.mpr ⟨bobSession, session_bobLife, Or.inl rfl⟩

/-- The user of `bobLife` on descriptor 5, and the administrator on descriptor 6. -/
def adminOnlineLife : List LifeEvent :=
  bobLife ++ [.request (Client.login 6 "10.0.0.2" "admin" "admin")]

theorem session_adminOnlineLife :
    (Life.run adminOnlineLife).state.activeUsers.getConnectedUserByFd 5 = some bobSession := by
  decide +kernel

/-- The user logs the administrator out. -/
theorem logout_not_authorised :
    (∃ a, logoutTarget (Life.run adminOnlineLife).state
      (Client.logout 5 "10.0.0.1" "admin") = some a) ∧
      ¬ LogoutMeets (Life.run adminOnlineLife).state (Client.logout 5 "10.0.0.1" "admin")
        (ascii "admin") := by
  have honline : ((Life.run adminOnlineLife).state.userAccountInfo.lookup adminUuid).map
      (·.onlineStatus) = some true := by decide +kernel
  have hoffline : ((handleRequest (Life.run adminOnlineLife).state
      (Client.logout 5 "10.0.0.1" "admin")).state.userAccountInfo.lookup adminUuid).map
      (·.onlineStatus) = some false := by decide +kernel
  refine ⟨Option.isSome_iff_exists.mp (by decide +kernel), fun h => ?_⟩
  obtain ⟨u, hu, hname | hpriv⟩ := h.authorised (fun he => by
    rw [he, honline] at hoffline
    cases hoffline)
  · cases session_adminOnlineLife.symm.trans hu
    exact absurd hname (by decide)
  · cases session_adminOnlineLife.symm.trans hu
    exact absurd hpriv (by decide)

section Authors

/-- Whoever is logged in on the connection is the author of what the request stores. -/
def Authored (s : State) (r : Request) : Prop :=
  ∃ u, s.activeUsers.getConnectedUserByFd r.fd = some u ∧
    (∀ k m, s.messagesInfo.lookup k = none →
      (handleRequest s r).state.messagesInfo.lookup k = some m → m.userId = u.uuid) ∧
    ∀ k c, s.channelInfo.lookup k = none →
      (handleRequest s r).state.channelInfo.lookup k = some c → c.creator = u.dsplyName

/-- The first session under the display name logged in with a token that is registered for the
account on the connection. -/
def SendsAsItself (s : State) (r : Request) (d : Name) : Prop :=
  ∃ u v l, s.activeUsers.getConnectedUserByFd r.fd = some u ∧
    s.activeUsers.getConnectedUserByDisplayName d = some v ∧
    s.getLoginInfo v.loginToken = some l ∧ l.uuid = u.uuid

/-- The session on the connection has the display name. -/
def HasName (s : State) (r : Request) (d : Str) : Prop :=
  ∃ u, s.activeUsers.getConnectedUserByFd r.fd = some u ∧ u.dsplyName.str = d

/-- Every session has the login record and the account that it was opened with. -/
structure SessionsBacked (s : State) : Prop where
  login : ∀ u ∈ s.activeUsers.live, ∃ l, s.getLoginInfo u.loginToken = some l ∧ l.uuid = u.uuid
  account : ∀ u ∈ s.activeUsers.live,
    ∃ a, s.getUserAccount u.uuid = some a ∧ a.displayName = u.dsplyName

variable {s : State} {r : Request}

theorem FreshUuid.no_message (h : FreshUuid s r) : s.messagesInfo.lookup r.env.uuid = none :=
  FreshEvent.no_message (e := .request r) h

theorem FreshUuid.no_channel (h : FreshUuid s r) : s.channelInfo.lookup r.env.uuid = none :=
  FreshEvent.no_channel (e := .request r) h

/-- The handler behind a result of 0, on the complete body. -/
theorem runHandler_of_result {k : RequestKind} {fs : List Str} (hf : r.fieldsFor k = some fs)
    {n : Int} (h : r.result s = some n) :
    ∃ m bytes reply, bodyIncomplete m bytes = false ∧ fields bytes = fs ∧
      (runHandler k s r m bytes).value = .ok reply ∧ reply.result = n ∧
      (handleRequest s r).state = (runHandler k s r m bytes).state := by
  obtain ⟨header, rest, hd, hlen, hinc, hfs⟩ := fieldsFor_some hf
  obtain ⟨reply, hv, hn⟩ := Request.value_of_result hd h
  exact ⟨header.bodySize, rest.take header.bodySize, reply, hinc, hfs.symm, hv, hn,
    handleRequest_state hd hlen⟩

/-- The creator of a channel is the second field of the request. -/
theorem readAndCreateChannel_zero {env : Env} {addr : IpAddr} {n : ℕ} {bytes : List UInt8}
    {name d : Str} {rest : List Str} {reply : Reply} (hfs : fields bytes = name :: d :: rest)
    (hv : (readAndCreateChannel s env addr n bytes).value = .ok reply) (h0 : reply.result = 0) :
    ∃ (c : Name) (d' : Name) (p : Bool), d'.str = d ∧
      (readAndCreateChannel s env addr n bytes).state =
        s.insertChannelInfo (createChannel env.uuid c d' p) := by
  obtain ⟨_, hne⟩ | ⟨_, c, d', p, ts, _, hfs', _, _, _, _, hs⟩ :=
    readAndCreateChannel_cases s env addr n bytes
  · exact absurd h0 (hne reply hv)
  · rw [hfs, List.cons.injEq, List.cons.injEq] at hfs'
    exact ⟨c, d', _, hfs'.2.1.symm, hs⟩

/-- The account of a message comes from the login record of the session under the name. -/
theorem authored_message_iff (hfresh : FreshUuid s r) (h0 : r.result s = some 0) {d : Name}
    {rest : List Str} (hf : r.fieldsFor .createMessage = some (d.str :: rest)) :
    Authored s r ↔ SendsAsItself s r d := by
  obtain ⟨n, bytes, reply, _, hfs, hv, hz, _⟩ := runHandler_of_result hf h0
  obtain ⟨m, hm⟩ := createMessage_zero (fun _ => by rw [hf, hfs]) hv hz
  obtain ⟨d', _, _, _, _, _, v, l, hf', _, hv, hl, hid, _, hauthor⟩ := leaves_of_target hm
  obtain rfl : d' = d := by
    rw [hf, Option.some.injEq, List.cons.injEq] at hf'
    exact CharArray.ext hf'.1.symm
  have hstate := state_of_message hm
  have hnew : (handleRequest s r).state.messagesInfo.lookup r.env.uuid = some m := by
    rw [hstate, ← show m.messageId = r.env.uuid from hid]
    exact AList.lookup_insert _
  constructor
  · rintro ⟨u, hu, hmessages, _⟩
    refine ⟨u, v, l, hu, hv, hl, ?_⟩
    rw [← hauthor]
    exact hmessages _ m hfresh.no_message hnew
  · rintro ⟨u, v', l', hu, hv', hl', huuid⟩
    cases hv.symm.trans hv'
    cases hl.symm.trans hl'
    refine ⟨u, hu, fun k m' hk hm' => ?_, fun k c hk hc => ?_⟩
    · rw [hstate] at hm'
      obtain ⟨_, rfl⟩ | ⟨_, hm'⟩ := Dbm.lookup_insert_iff.mp hm'
      · rw [hauthor, huuid]
      · rw [hk] at hm'
        cases hm'
    · rw [hstate, State.insertMessage_channelInfo, hk] at hc
      cases hc

/-- The creator of a channel is whatever name the request has. -/
theorem authored_channel_iff (hfresh : FreshUuid s r) (h0 : r.result s = some 0) {name d : Str}
    {rest : List Str} (hf : r.fieldsFor .createChannel = some (name :: d :: rest)) :
    Authored s r ↔ HasName s r d := by
  obtain ⟨n, bytes, reply, hn, hfs, hv, hz, hstate⟩ := runHandler_of_result hf h0
  obtain ⟨c, d', p, rfl, hins⟩ := readAndCreateChannel_zero hfs hv hz
  replace hstate := hstate.trans hins
  have hnew : (handleRequest s r).state.channelInfo.lookup r.env.uuid =
      some (createChannel r.env.uuid c d' p) := by
    rw [hstate]
    exact AList.lookup_insert _
  constructor
  · rintro ⟨u, hu, _, hchannels⟩
    refine ⟨u, hu, ?_⟩
    rw [← hchannels _ _ hfresh.no_channel hnew]
    rfl
  · rintro ⟨u, hu, hname⟩
    refine ⟨u, hu, fun k m hk hm => ?_, fun k c' hk hc' => ?_⟩
    · rw [hstate, State.insertChannelInfo_messagesInfo, hk] at hm
      cases hm
    · rw [hstate] at hc'
      obtain ⟨_, rfl⟩ | ⟨_, hc'⟩ := Dbm.lookup_insert_iff.mp hc'
      · exact (CharArray.ext hname).symm
      · rw [hk] at hc'
        cases hc'

/-- Sessions that agree with consistent identity databases are told apart by their names. -/
theorem sendsAsItself_iff (hk : KeyedState s) (hi : IdentityConsistent s) (hb : SessionsBacked s)
    (d : Name) : SendsAsItself s r d ↔ HasName s r d.str := by
  constructor
  · rintro ⟨u, v, l, hu, hv, hl, huuid⟩
    refine ⟨u, hu, ?_⟩
    have hvd : v.dsplyName = d := by simpa using List.find?_some hv
    obtain ⟨l', hl', hlv⟩ := hb.login v (List.mem_of_find?_eq_some hv)
    obtain ⟨a, ha, had⟩ := hb.account v (List.mem_of_find?_eq_some hv)
    obtain ⟨b, hb', hbd⟩ := hb.account u (List.mem_of_find?_eq_some hu)
    cases hl.symm.trans hl'
    rw [← hlv, huuid, hb'] at ha
    rw [← hbd, Option.some.inj ha, had, hvd]
  · rintro ⟨u, hu, hname⟩
    have hud : u.dsplyName = d := CharArray.ext hname
    have hlive := List.mem_of_find?_eq_some hu
    obtain ⟨v, hv⟩ : ∃ v, s.activeUsers.getConnectedUserByDisplayName d = some v :=
      Option.isSome_iff_exists.mp (List.find?_isSome.mpr ⟨u, hlive, by simpa using hud⟩)
    have hvd : v.dsplyName = d := by simpa using List.find?_some hv
    obtain ⟨l, hl, hlv⟩ := hb.login v (List.mem_of_find?_eq_some hv)
    refine ⟨u, v, l, hu, hv, hl, ?_⟩
    obtain ⟨a, ha, had⟩ := hb.account v (List.mem_of_find?_eq_some hv)
    obtain ⟨b, hb', hbd⟩ := hb.account u hlive
    -- the name of both accounts is bound to one uuid
    have hav := hi.account_name _ a ha
    have hbu := hi.account_name _ b hb'
    rw [had, hvd] at hav
    rw [hbd, hud, hav] at hbu
    rw [hlv, ← hk.accounts _ a ha, ← hk.accounts _ b hb', Option.some.inj hbu]

end Authors

/-- In every state of every life, for a request that succeeds: the account on the connection is the
author of the message if and only if the display name in the body leads to a session whose login
token is registered for that account, and the creator of the channel if and only if the name is the
session's. While sessions and identity databases agree the two conditions are one. -/
theorem authored_iff (es : List LifeEvent) (r : Request)
    (hfresh : FreshUuid (Life.run es).state r) (h0 : r.result (Life.run es).state = some 0) :
    (∀ (d : Name) (rest : List Str), r.fieldsFor .createMessage = some (d.str :: rest) →
      (Authored (Life.run es).state r ↔ SendsAsItself (Life.run es).state r d)) ∧
    (∀ (name d : Str) (rest : List Str), r.fieldsFor .createChannel = some (name :: d :: rest) →
      (Authored (Life.run es).state r ↔ HasName (Life.run es).state r d)) ∧
    (IdentityConsistent (Life.run es).state → SessionsBacked (Life.run es).state →
      ∀ d : Name, SendsAsItself (Life.run es).state r d ↔ HasName (Life.run es).state r d.str) :=
  ⟨fun _ _ hf => authored_message_iff hfresh h0 hf,
    fun _ _ _ hf => authored_channel_iff hfresh h0 hf,
    fun hi hb d => sendsAsItself_iff (Life.keyed_run es) hi hb d⟩

/-- A message of the user of `bobLife`, under its own name or another. -/
def bobMessage (name : String) : Request :=
  Client.createMessage 5 "10.0.0.1" name "global" "hello" "12:00"
    "33333333-3333-3333-3333-333333333333"

/-- Under its own name the user is the author. -/
theorem authored_bobMessage : Authored (Life.run bobLife).state (bobMessage "bob") :=
  ((authored_iff bobLife (bobMessage "bob") (by decide +kernel) (by decide +kernel)).1
    (CharArray.strncpy _ (ascii "bob")) [ascii "global", ascii "hello", ascii "12:00"]
    (by decide +kernel)).mpr
    ⟨bobSession, bobSession, generateUserLogin bobSession.loginToken
      (CharArray.strncpy _ (ascii "pw")) bobSession.uuid, session_bobLife, by decide +kernel,
      login_bobLife, rfl⟩

/-- With the administrator online, the user posts as administrator. -/
theorem not_authored :
    (Life.run adminOnlineLife).state.activeUsers.getConnectedUserByFd 5 = some bobSession ∧
      bobSession.privilegeLevel = 0 ∧
      (bobMessage "admin").result (Life.run adminOnlineLife).state = some 0 ∧
      ¬ Authored (Life.run adminOnlineLife).state (bobMessage "admin") := by
  have hauthor : ((handleRequest (Life.run adminOnlineLife).state
      (bobMessage "admin")).state.messagesInfo.lookup (bobMessage "admin").env.uuid).map
      (·.userId) = some adminUuid := by decide +kernel
  refine ⟨session_adminOnlineLife, rfl, by decide +kernel, ?_⟩
  rintro ⟨u, hu, hmessages, _⟩
  cases session_adminOnlineLife.symm.trans hu
  obtain ⟨m, hm, hid⟩ := Option.map_eq_some_iff.mp hauthor
  have := hmessages _ m (by decide +kernel) hm
  rw [hid] at this
  exact absurd this (by decide)

end ChatServer
