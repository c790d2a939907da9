import ChatServer.Invariant.CStrings
import ChatServer.PollLoop

/-!
# Descriptors and sessions

`handle_request` takes the session with the descriptor of a request for the sender. This is right
as long as every session belongs to an open connection, every connection to one session, and the
session to the account that logged in last. A login on a connection that has a session, a logout
of somebody else's session and a connection that is closed with its session left behind break it.
-/

namespace ChatServer

open CLib

/-- The descriptor of a connection identifies its session. -/
structure DescriptorsAgree (w : Loop) : Prop where
  fds_distinct : (w.connections.map (·.fd)).Nodup
  session_open : ∀ u ∈ w.server.state.activeUsers.live, ∃ c ∈ w.connections, c.fd = u.fd
  sessions_distinct : (w.server.state.activeUsers.live.map (·.fd)).Nodup
  owner : ∀ c ∈ w.connections,
    (w.server.state.activeUsers.getConnectedUserByFd c.fd).map (·.uuid) = c.account

/-- The session that a request logs out. -/
def removedSession (s : State) (r : Request) : Option ConnectedUser :=
  (logoutTarget s r).bind fun a => s.activeUsers.getConnectedUserByDisplayName a.displayName

/-- A login on a connection with a session is one of the same account and finds the session, a
request that closes the connection takes the session of the connection with it, and no other
session is logged out. -/
def KeepsSession (s : State) (r : Request) : Prop :=
  (∀ x ∈ loginTarget s r, loggedInElsewhere s.activeUsers x.2 r.clntAddr = false →
    ∀ u ∈ s.activeUsers.live, u.fd = r.fd →
      u.ipAddress = r.clntAddr ∧ u.dsplyName = x.2.displayName ∧ u.uuid = x.2.userId) ∧
  (closesConnection s r = true →
    ∀ u ∈ s.activeUsers.live, u.fd = r.fd → removedSession s r = some u) ∧
  ∀ u ∈ removedSession s r, u.fd = r.fd

instance (s : State) (r : Request) : Decidable (KeepsSession s r) :=
  inferInstanceAs (Decidable ((∀ x ∈ loginTarget s r, _ → ∀ u ∈ s.activeUsers.live, _ → _) ∧
    (_ → ∀ u ∈ s.activeUsers.live, _ → _) ∧ ∀ u ∈ removedSession s r, _))

def KeepsDescriptors (w : Loop) (e : Event) : Prop :=
  ∀ r ∈ w.request? e, KeepsSession w.server.state r

instance (w : Loop) (e : Event) : Decidable (KeepsDescriptors w e) :=
  inferInstanceAs (Decidable (∀ r ∈ w.request? e, KeepsSession w.server.state r))

/-- A call that returns is one on an open connection. -/
theorem isOpen_of_returned {w : Loop} {e : Event} {r : Request} (hr : w.request? e = some r)
    (hret : (handleRequest w.server.state r).returned = true) : w.isOpen r.fd = true := by
  have hcall : ∀ i input env, w.call i input env = some r →
      w.isOpen r.fd = true ∨ r.input = [] := by
    intro i input env h
    rw [Loop.call] at h
    split at h
    · rename_i fd addr _
      cases h
      cases ho : w.isOpen fd <;> simp
    · cases h
  have hcases : w.isOpen r.fd = true ∨ r.input = [] := by
    cases e with
    | accept => cases hr
    | request i input env => exact hcall i input env hr
    | peerClose i env => exact hcall i [] env hr
  refine hcases.resolve_right fun hin => ?_
  -- `read_header` asserts that it reads a byte
  have hdec : r.decode = .stop (.error .assertFailed) [] := by
    rw [Request.decode, hin]
    rfl
  rw [handleRequest, hdec] at hret
  cases hret

section Login

variable {s : State} {r : Request}

/-- What a successful login does to the cache. -/
theorem activeUsers_of_login {l : UserLogin} {a : UserAccount}
    (h : loginTarget s r = some (l, a)) (hret : (handleRequest s r).returned = true) :
    loggedInElsewhere s.activeUsers a r.clntAddr = false ∧
      (s.activeUsers.findConnectedUserWithSameCred (loginUserAccount a r.clntAddr) r.fd = true ∧
          (handleRequest s r).state.activeUsers = s.activeUsers ∨
        s.activeUsers.findConnectedUserWithSameCred (loginUserAccount a r.clntAddr) r.fd = false ∧
          s.activeUsers.insertUserInCache r.fd (loginUserAccount a r.clntAddr) l =
            some (handleRequest s r).state.activeUsers) := by
  obtain ⟨header, rest, t, hd, hlen, hrun⟩ := runHandler_login h
  rw [handleRequest_state hd hlen, hrun]
  rw [handleRequest, hd] at hret
  simp only [serve, if_neg (Nat.not_lt.mpr hlen), hrun] at hret
  unfold loginAccount openSession at hret ⊢
  cases he : loggedInElsewhere s.activeUsers a r.clntAddr with
  | true =>
    -- the result is one that the responder asserts on
    rw [he] at hret
    cases hc : s.activeUsers.insertUserInCache r.fd a l with
    | none => simp [hc, Outcome.fault, Call.returned, Except.toBool] at hret
    | some c =>
      simp only [hc, if_true, Outcome.reply] at hret
      cases hret
  | false =>
    refine ⟨rfl, ?_⟩
    simp only [he, Bool.false_eq_true, if_false, State.insertUserAccount_activeUsers] at hret ⊢
    cases hs : s.activeUsers.findConnectedUserWithSameCred (loginUserAccount a r.clntAddr) r.fd with
    | true => exact Or.inl ⟨rfl, rfl⟩
    | false =>
      refine Or.inr ⟨rfl, ?_⟩
      simp only [hs, Bool.false_eq_true, if_false] at hret ⊢
      cases hc : s.activeUsers.insertUserInCache r.fd (loginUserAccount a r.clntAddr) l with
      | none => simp [hc, Outcome.fault, Call.returned, Except.toBool] at hret
      | some c => rfl

theorem activeUsers_of_logout {a : UserAccount} (h : logoutTarget s r = some a) :
    (handleRequest s r).state.activeUsers = s.activeUsers.removeUserInCache a.displayName := by
  obtain ⟨header, rest, hd, hlen, hrun⟩ := runHandler_logout h
  rw [handleRequest_state hd hlen, hrun]
  rfl

/-- The sessions that a call without a successful login leaves: all but the one logged out. -/
theorem live_of_no_login (hin : loginTarget s r = none) (hd : s.activeUsers.live.Nodup)
    (u : ConnectedUser) :
    u ∈ (handleRequest s r).state.activeUsers.live ↔
      u ∈ s.activeUsers.live ∧ removedSession s r ≠ some u := by
  cases hout : logoutTarget s r with
  | none =>
    rw [(handleRequest_effect s r).activeUsers hin hout]
    simp [removedSession, hout]
  | some a =>
    rw [activeUsers_of_logout hout, Cache.live_removeUserInCache]
    simp only [removedSession, hout, Option.bind_some, Cache.getConnectedUserByDisplayName]
    cases hf : s.activeUsers.live.find? fun u => u.dsplyName = a.displayName with
    | none =>
      rw [List.eraseP_of_forall_not (by simpa using hf)]
      simp
    | some v =>
      rw [Slots.eraseP_eq_erase hf, hd.mem_erase_iff]
      simp [and_comm, eq_comm]

theorem live_sublist_of_no_login (hin : loginTarget s r = none) :
    (handleRequest s r).state.activeUsers.live.Sublist s.activeUsers.live := by
  cases hout : logoutTarget s r with
  | none => rw [(handleRequest_effect s r).activeUsers hin hout]
  | some a =>
    rw [activeUsers_of_logout hout, Cache.live_removeUserInCache]
    exact List.eraseP_sublist

/-- Logging somebody out closes the connection. -/
theorem closes_of_removedSession {u : ConnectedUser} (h : removedSession s r = some u) :
    closesConnection s r = true := by
  obtain ⟨a, ha, _⟩ := Option.bind_eq_some_iff.mp h
  obtain ⟨_, _, hd, _⟩ := runHandler_logout ha
  rw [closesConnection, hd]
  rfl

end Login

/-- Among sessions with different descriptors the search finds the one there is. -/
theorem getConnectedUserByFd_eq_some_iff {c : Cache} (hd : (c.live.map (·.fd)).Nodup) {fd : ℕ}
    {u : ConnectedUser} : c.getConnectedUserByFd fd = some u ↔ u ∈ c.live ∧ u.fd = fd := by
  constructor
  · intro h
    exact ⟨List.mem_of_find?_eq_some h, by simpa using List.find?_some h⟩
  · rintro ⟨hu, rfl⟩
    cases hf : c.getConnectedUserByFd u.fd with
    | none =>
      have hno := List.find?_eq_none.mp hf u hu
      simp at hno
    | some v =>
      have hv := List.mem_of_find?_eq_some hf
      have hfd : v.fd = u.fd := by simpa using List.find?_some hf
      rw [List.inj_on_of_nodup_map hd hv hu hfd]

/-- The sessions after a successful login: one of the account on the connection, and the others as
they were. -/
theorem live_of_login {s : State} {r : Request} {l : UserLogin} {a : UserAccount}
    (hk : KeyedState s) (ht : loginTarget s r = some (l, a))
    (hret : (handleRequest s r).returned = true) (hkeeps : KeepsSession s r)
    (hd : (s.activeUsers.live.map (·.fd)).Nodup) :
    ((handleRequest s r).state.activeUsers.live.map (·.fd)).Nodup ∧
      (∀ u, u.fd ≠ r.fd → (u ∈ (handleRequest s r).state.activeUsers.live ↔
        u ∈ s.activeUsers.live)) ∧
      ∃ v ∈ (handleRequest s r).state.activeUsers.live, v.fd = r.fd ∧ v.uuid = a.userId := by
  obtain ⟨helse, ⟨hsame, hcache⟩ | ⟨hsame, hins⟩⟩ := activeUsers_of_login ht hret
  · -- the session that was found is the one of the connection
    obtain ⟨v, hv, hcred⟩ := List.any_eq_true.mp hsame
    obtain ⟨_, _, hfd⟩ := of_decide_eq_true hcred
    rw [hcache]
    exact ⟨hd, fun _ _ => Iff.rfl, v, hv, hfd.symm, (hkeeps.1 _ ht helse v hv hfd.symm).2.2⟩
  · -- no session was found, so the connection had none
    have hlive := hk.live_of_login hins ht rfl
    have hnew : ∀ u ∈ s.activeUsers.live, u.fd ≠ r.fd := by
      intro u hu hfd
      obtain ⟨hip, hname, _⟩ := hkeeps.1 _ ht helse u hu hfd
      exact List.any_eq_false.mp hsame u hu (decide_eq_true ⟨hip.symm, hname.symm, hfd.symm⟩)
    rw [hlive]
    refine ⟨?_, ?_, _, List.mem_append_right _ (List.mem_singleton_self _), rfl, rfl⟩
    · rw [List.map_append, List.nodup_append]
      refine ⟨hd, List.nodup_singleton _, ?_⟩
      intro x hx y hy
      obtain ⟨u, hu, rfl⟩ := List.mem_map.mp hx
      rw [List.mem_singleton.mp hy]
      exact hnew u hu
    · intro u hu
      rw [List.mem_append, List.mem_singleton, or_iff_left]
      rintro rfl
      exact hu rfl

namespace DescriptorsAgree

variable {w : Loop} (h : DescriptorsAgree w)
include h

theorem accept {fd : ℕ} {peer : IpAddr} (hopen : w.isOpen fd = false) :
    DescriptorsAgree { w with slots := place fd peer w.slots,
                              connections := ⟨fd, peer, none⟩ :: w.connections } := by
  have hnew := Loop.not_mem_of_closed hopen
  refine ⟨List.nodup_cons.mpr ⟨hnew, h.fds_distinct⟩, ?_, h.sessions_distinct, ?_⟩
  · intro u hu
    obtain ⟨c, hc, hfd⟩ := h.session_open u hu
    exact ⟨c, List.mem_cons_of_mem _ hc, hfd⟩
  · intro c hc
    rcases List.mem_cons.mp hc with rfl | hc
    · -- a session with the descriptor would have an open connection
      have hnone : w.server.state.activeUsers.getConnectedUserByFd fd = none := by
        refine List.find?_eq_none.mpr fun u hu hfd => ?_
        obtain ⟨c, hc, hcfd⟩ := h.session_open u hu
        exact hnew (List.mem_map.mpr ⟨c, hc, hcfd.trans (of_decide_eq_true hfd)⟩)
      simp [hnone]
    · exact h.owner c hc

variable {r : Request} (hrun : w.server.running = true)
  (hret : (handleRequest w.server.state r).returned = true)
  (hkeeps : KeepsSession w.server.state r)
include hrun hret hkeeps

theorem leave (hin : loginTarget w.server.state r = none) : DescriptorsAgree (w.serve r) := by
  have hserver : (w.serve r).server.state = (handleRequest w.server.state r).state := by
    rw [Loop.serve, Server.step_running r hrun]
  have hlogged : ∀ c : Connection, c.record r.fd (loggedIn w.server.state r) = c := by
    intro c
    simp [loggedIn, hin, Connection.record]
  have hnd : w.server.state.activeUsers.live.Nodup := h.sessions_distinct.of_map _
  have hlive := live_of_no_login hin hnd
  have hdistinct : ((handleRequest w.server.state r).state.activeUsers.live.map (·.fd)).Nodup :=
    h.sessions_distinct.sublist ((live_sublist_of_no_login hin).map _)
  refine ⟨h.fds_distinct.sublist (w.fds_serve_sublist r), ?_, ?_, ?_⟩
  · rw [hserver]
    intro u hu
    obtain ⟨hu, hleft⟩ := (hlive u).mp hu
    obtain ⟨c, hc, hfd⟩ := h.session_open u hu
    refine ⟨c, (Loop.mem_connections_serve hret).mpr ⟨c, hc, ?_, hlogged c⟩, hfd⟩
    rintro ⟨hclose, he⟩
    exact hleft (hkeeps.2.1 hclose u hu (hfd.symm.trans he))
  · rw [hserver]
    exact hdistinct
  · rw [hserver]
    intro c hc
    obtain ⟨c', hc', hkept, he⟩ := (Loop.mem_connections_serve hret).mp hc
    rw [hlogged] at he
    subst he
    -- a connection that is still open has lost no session, as a logout would have closed it
    rw [← h.owner c' hc']
    congr 1
    ext u
    rw [getConnectedUserByFd_eq_some_iff hdistinct,
      getConnectedUserByFd_eq_some_iff h.sessions_distinct, hlive]
    refine ⟨fun hu => ⟨hu.1.1, hu.2⟩, fun hu => ⟨⟨hu.1, fun hrem => ?_⟩, hu.2⟩⟩
    exact hkept ⟨closes_of_removedSession hrem, hu.2.symm.trans (hkeeps.2.2 u hrem)⟩

theorem login {l : UserLogin} {a : UserAccount} (hk : KeyedState w.server.state)
    (hopen : w.isOpen r.fd = true) (ht : loginTarget w.server.state r = some (l, a)) :
    DescriptorsAgree (w.serve r) := by
  have hserver : (w.serve r).server.state = (handleRequest w.server.state r).state := by
    rw [Loop.serve, Server.step_running r hrun]
  have hlogged : loggedIn w.server.state r = some a.userId := by simp [loggedIn, hret, ht]
  have hclose : closesConnection w.server.state r = false := by
    obtain ⟨_, _, _, hd, _⟩ := runHandler_login ht
    rw [closesConnection, hd]
    rfl
  have hconn : ∀ c, c ∈ (w.serve r).connections ↔
      ∃ c' ∈ w.connections, c'.record r.fd (some a.userId) = c := by
    intro c
    rw [Loop.mem_connections_serve hret, hclose, hlogged]
    simp
  obtain ⟨hdistinct, hother, v, hv, hvfd, hvid⟩ := live_of_login hk ht hret hkeeps
    h.sessions_distinct
  refine ⟨h.fds_distinct.sublist (w.fds_serve_sublist r), ?_, ?_, ?_⟩
  · rw [hserver]
    intro u hu
    have hc : ∃ c ∈ w.connections, c.fd = u.fd := by
      -- a session of the sender belongs to the connection that the login came from
      by_cases hfd : u.fd = r.fd
      · rw [hfd]
        exact List.mem_map.mp (Loop.isOpen_iff.mp hopen)
      · exact h.session_open u ((hother u hfd).mp hu)
    obtain ⟨c, hc, hfd⟩ := hc
    exact ⟨_, (hconn _).mpr ⟨c, hc, rfl⟩, by rw [Connection.record_fd, hfd]⟩
  · rw [hserver]
    exact hdistinct
  · rw [hserver]
    intro c hc
    obtain ⟨c', hc', rfl⟩ := (hconn c).mp hc
    rw [Connection.record_fd]
    by_cases hfd : c'.fd = r.fd
    · rw [hfd, (getConnectedUserByFd_eq_some_iff hdistinct).mpr ⟨hv, hvfd⟩]
      simp [Connection.record, hfd, hvid]
    · rw [Connection.record, if_neg hfd, ← h.owner c' hc']
      congr 1
      ext u
      rw [getConnectedUserByFd_eq_some_iff hdistinct,
        getConnectedUserByFd_eq_some_iff h.sessions_distinct]
      refine and_congr_left fun hu => hother u ?_
      rwa [hu]

theorem serve {e : Event} (hk : KeyedState w.server.state) (hr : w.request? e = some r) :
    DescriptorsAgree (w.serve r) := by
  cases ht : loginTarget w.server.state r with
  | none => exact h.leave hrun hret hkeeps ht
  | some x => exact h.login hrun hret hkeeps hk (isOpen_of_returned hr hret) ht

end DescriptorsAgree

theorem descriptorsAgree_started (env : Env) : DescriptorsAgree (.started env) := by
  have hlive : (Loop.started env).server.state.activeUsers.live = [] := by
    rw [show (Loop.started env).server.state = startUp env .fresh from rfl, startUp_fresh]
    rfl
  refine ⟨List.nodup_nil, ?_, ?_, nofun⟩
  · rw [hlive]; exact nofun
  · rw [hlive]; exact List.nodup_nil

/-- The call that an event leads to brings strings that end in their arrays. -/
def Loop.EventEnds (w : Loop) (e : Event) : Prop := ∀ r ∈ w.request? e, r.Ends

instance (w : Loop) (e : Event) : Decidable (w.EventEnds e) :=
  inferInstanceAs (Decidable (∀ r ∈ w.request? e, r.Ends))

/-- In every run in which all strings end in their arrays and logins, logouts and the requests that
close their connection keep to the session of their own connection, a descriptor identifies its
session as long as the server runs. -/
theorem descriptors_agree (env : Env) (henv : env.uuid.Text) (es : List Event)
    (h : Loop.Along (fun w e => w.EventEnds e ∧ KeepsDescriptors w e) (.started env) es)
    (hrun : ((Loop.started env).run es).server.running = true) :
    cStrings.Holds ((Loop.started env).run es).server.state ∧
      DescriptorsAgree ((Loop.started env).run es) := by
  refine (Run.invariant (I := fun w : Loop => w.server.running = true →
    KeyedState w.server.state ∧ cStrings.Holds w.server.state ∧ DescriptorsAgree w) ?_
    (fun _ => ⟨keyedState_startUp env, cStrings_startUp henv, descriptorsAgree_started env⟩)
    h hrun).2
  intro w e hw hc hrun'
  rcases w.step_cases e with he | ⟨hr, fd, peer, rfl, hopen, he⟩ | ⟨hr, r, hreq, he⟩
  · rw [he] at hrun' ⊢
    exact hw hrun'
  · rw [he]
    exact ⟨(hw hr).1, (hw hr).2.1, (hw hr).2.2.accept hopen⟩
  · obtain ⟨hk, hs, hd⟩ := hw hr
    rw [he] at hrun' ⊢
    have hstep := Server.step_running r hr
    have hret : (handleRequest w.server.state r).returned = true := by
      rw [Loop.serve, hstep] at hrun'
      exact hrun'
    obtain ⟨hends, hkeeps⟩ := hc hr
    refine ⟨?_, ?_, hd.serve hr hret (hkeeps r hreq) hk hreq⟩
    · rw [Loop.serve, hstep]
      exact hk.effect (handleRequest_effect w.server.state r)
    · rw [Loop.serve, hstep]
      exact cStrings_effect hk hs (hends r hreq) (handleRequest_effect w.server.state r)

/-- The administrator logs in and out on its own connection. -/
def ownLogoutEvents : List Event :=
  [.accept 5 (Client.address "10.0.0.1"), .accept 6 (Client.address "10.0.0.2"),
    .request 0 (Client.dispatch 1 4 ["admin", "admin"]) Client.firstEnv,
    .request 0 (Client.dispatch 4 4 ["admin"]) Client.firstEnv]

theorem descriptors_agree_ownLogoutEvents :
    cStrings.Holds ((Loop.started Client.firstEnv).run ownLogoutEvents).server.state ∧
      DescriptorsAgree ((Loop.started Client.firstEnv).run ownLogoutEvents) :=
  descriptors_agree Client.firstEnv (by decide) ownLogoutEvents (by decide +kernel)
    (by decide +kernel)

/-- A user without privilege destroys itself, which closes the connection, and the next connection
gets the same descriptor. -/
def inheritedEvents : List Event :=
  [.accept 5 (Client.address "10.0.0.1"),
    .request 0 (Client.dispatch 1 1 ["bobt", "bob", "pw"])
      (Client.env "22222222-2222-2222-2222-222222222222"),
    .request 0 (Client.dispatch 1 4 ["bobt", "pw"]) Client.firstEnv,
    .request 0 (Client.dispatch 4 1 ["bob", "bobt", "pw"]) Client.firstEnv,
    .accept 5 (Client.address "10.0.0.2")]

/-- Nobody has logged in on the new connection, and it has the session of the old one. -/
theorem descriptor_inherits_session :
    ((Loop.started Client.firstEnv).run inheritedEvents).server.running = true ∧
      ((Loop.started Client.firstEnv).run inheritedEvents).connections =
        [⟨5, Client.address "10.0.0.2", none⟩] ∧
      (((Loop.started Client.firstEnv).run inheritedEvents).server.state.activeUsers.getConnectedUserByFd
        5).map (·.uuid) = some (Client.uuid "22222222-2222-2222-2222-222222222222") ∧
      ¬ DescriptorsAgree ((Loop.started Client.firstEnv).run inheritedEvents) := by
  have hconn : ((Loop.started Client.firstEnv).run inheritedEvents).connections =
      [⟨5, Client.address "10.0.0.2", none⟩] := by decide +kernel
  have hsession : (((Loop.started Client.firstEnv).run
      inheritedEvents).server.state.activeUsers.getConnectedUserByFd 5).map (·.uuid) =
        some (Client.uuid "22222222-2222-2222-2222-222222222222") := by decide +kernel
  refine ⟨by decide +kernel, hconn, hsession, fun h => ?_⟩
  have hown := h.owner ⟨5, Client.address "10.0.0.2", none⟩ (by rw [hconn]; simp)
  rw [hsession] at hown
  cases hown

end ChatServer
