import ChatServer.Server

/-!
# The poll loop

`run_server`: every turn of the loop accepts at most one connection, which gets the first slot
with descriptor -1, and then calls `handle_request` for the slots that have data. The events of
a run are these accepts and calls, in any order. The connections are what the operating system
knows: which descriptors are open, with which peer, and, for the sake of the statements, which
account logged in last on each of them. Descriptors are closed by `handle_request` and never
taken out of their slot.
-/

namespace ChatServer

open CLib

/-- `pollfds[i].fd`, with `none` for -1, and `client_addrs[i]`. -/
structure Slot where
  fd : Option ℕ
  clientAddr : IpAddr
  deriving DecidableEq

/-- A connection that has been accepted and not been closed. -/
structure Connection where
  fd : ℕ
  peer : IpAddr
  account : Option Uuid
  deriving DecidableEq

structure Loop where
  server : Server
  /-- `pollfds[1]` to `pollfds[MAX_CLIENTS - 1]`. -/
  slots : List Slot
  connections : List Connection

/-- `accept` returned a descriptor, a slot has data, or the peer of a slot has closed. -/
inductive Event where
  | accept (fd : ℕ) (peer : IpAddr)
  | request (i : ℕ) (input : List UInt8) (env : Env)
  | peerClose (i : ℕ) (env : Env)

/-- The loop that looks for a slot with descriptor -1. Without one it stores nothing. -/
def place (fd : ℕ) (peer : IpAddr) : List Slot → List Slot
  | [] => []
  | slot :: slots =>
    if slot.fd = none then ⟨some fd, peer⟩ :: slots else slot :: place fd peer slots

namespace Loop

/-- `init_pollfd` and start-up. -/
def started (env : Env) : Loop :=
  ⟨.started env, List.replicate (maxClients-1) ⟨none, .empty _⟩, []⟩

def isOpen (w : Loop) (fd : ℕ) : Bool := w.connections.any fun c => c.fd = fd

/-- The call `handle_request(pollfds[i].fd, client_addrs[i], active_users)`. A closed descriptor
and one whose peer has closed have no input: `read` returns -1 or 0. -/
def call (w : Loop) (i : ℕ) (input : List UInt8) (env : Env) : Option Request :=
  match w.slots[i]? with
  | some ⟨some fd, addr⟩ => some ⟨fd, addr, if w.isOpen fd then input else [], env⟩
  | _ => none

/-- The call that an event leads to. -/
def request? (w : Loop) : Event → Option Request
  | .accept _ _ => none
  | .request i input env => w.call i input env
  | .peerClose i env => w.call i [] env

end Loop

/-- The account of a login that was answered with success. -/
def loggedIn (s : State) (r : Request) : Option Uuid :=
  if (handleRequest s r).returned then (loginTarget s r).map (·.2.userId) else none

/-- The connection after a login on it. -/
def Connection.record (c : Connection) (fd : ℕ) (account : Option Uuid) : Connection :=
  if c.fd = fd then { c with account := account <|> c.account } else c

namespace Loop

/-- What a call leaves behind: the server's state, and the connections less those it closed. -/
def serve (w : Loop) (r : Request) : Loop :=
  { w with
    server := w.server.step r
    connections :=
      (w.connections.filter fun c => c.fd ∉ (handleRequest w.server.state r).closed).map
        fun c => c.record r.fd (loggedIn w.server.state r) }

/-- One event. `accept` does not return a descriptor that is open. -/
def step (w : Loop) (e : Event) : Loop :=
  if w.server.running then
    match e with
    | .accept fd peer =>
      if w.isOpen fd then w
      else { w with slots := place fd peer w.slots, connections := ⟨fd, peer, none⟩ :: w.connections }
    | e =>
      match w.request? e with
      | none => w
      | some r => w.serve r
  else w

abbrev run (w : Loop) (es : List Event) : Loop := Run.run step w es

/-- Every event that is handled while the server runs meets `C`. -/
abbrev Along (C : Loop → Event → Prop) (w : Loop) (es : List Event) : Prop :=
  Run.Along step (fun w e => w.server.running = true → C w e) w es

end Loop

namespace Loop

/-- All that one event can do. -/
theorem step_cases (w : Loop) (e : Event) :
    w.step e = w ∨
    (w.server.running = true ∧ ∃ fd peer, e = .accept fd peer ∧ w.isOpen fd = false ∧
      w.step e = { w with slots := place fd peer w.slots,
                          connections := ⟨fd, peer, none⟩ :: w.connections }) ∨
    (w.server.running = true ∧ ∃ r, w.request? e = some r ∧ w.step e = w.serve r) := by
  cases hrun : w.server.running with
  | false => exact Or.inl (by simp [step, hrun])
  | true =>
    cases e with
    | accept fd peer =>
      cases ho : w.isOpen fd with
      | true => exact Or.inl (by simp [step, hrun, ho])
      | false => exact Or.inr (Or.inl ⟨rfl, fd, peer, rfl, ho, by simp [step, hrun, ho]⟩)
    | request i input env =>
      cases hr : w.request? (.request i input env) with
      | none => exact Or.inl (by simp [step, hrun, hr])
      | some r => exact Or.inr (Or.inr ⟨rfl, r, rfl, by simp [step, hrun, hr]⟩)
    | peerClose i env =>
      cases hr : w.request? (.peerClose i env) with
      | none => exact Or.inl (by simp [step, hrun, hr])
      | some r => exact Or.inr (Or.inr ⟨rfl, r, rfl, by simp [step, hrun, hr]⟩)

/-- The server inside the loop makes a run of its own, so that what holds in every run of the server
holds in the loop. -/
theorem run_server (w : Loop) (es : List Event) :
    ∃ rs, (w.run es).server = w.server.run rs := by
  induction es generalizing w with
  | nil => exact ⟨[], rfl⟩
  | cons e es ih =>
    obtain ⟨rs, hrs⟩ := ih (w.step e)
    rcases step_cases w e with h | ⟨_, fd, peer, _, _, h⟩ | ⟨_, r, _, h⟩
    · exact ⟨rs, by rw [show w.run (e :: es) = (w.step e).run es from rfl, hrs, h]⟩
    · exact ⟨rs, by rw [show w.run (e :: es) = (w.step e).run es from rfl, hrs, h]⟩
    · refine ⟨r :: rs, ?_⟩
      rw [show w.run (e :: es) = (w.step e).run es from rfl, hrs, h]
      rfl

theorem isOpen_iff {w : Loop} {fd : ℕ} : w.isOpen fd = true ↔ fd ∈ w.connections.map (·.fd) := by
  simp [isOpen]

theorem not_mem_of_closed {w : Loop} {fd : ℕ} (h : w.isOpen fd = false) :
    fd ∉ w.connections.map (·.fd) := by
  rw [← isOpen_iff, h]
  exact Bool.false_ne_true

end Loop

@[simp] theorem Connection.record_fd (c : Connection) (fd : ℕ) (a : Option Uuid) :
    (c.record fd a).fd = c.fd := by
  rw [Connection.record]
  split <;> rfl

@[simp] theorem Connection.record_peer (c : Connection) (fd : ℕ) (a : Option Uuid) :
    (c.record fd a).peer = c.peer := by
  rw [Connection.record]
  split <;> rfl

/-- The requests after which the connection is closed: every logout, and the destruction of a user
by a session without privilege. -/
def RequestKind.closes (k : RequestKind) (c : Cache) (fd : ℕ) : Bool :=
  match k with
  | .logout => true
  | .destroyUser => (c.getConnectedUserByFd fd).any fun u => u.privilegeLevel = 0
  | _ => false

def closesConnection (s : State) (r : Request) : Bool :=
  match r.decode with
  | .serve k _ _ => k.closes s.activeUsers r.fd
  | .stop _ _ => false

section Closing

variable {s : State} {r : Request}

theorem activeUsers_of_decode {k : RequestKind} {header : ChatHeader} {rest : List UInt8}
    (hd : r.decode = .serve k header rest) (hin : k ≠ .login) (hout : k ≠ .logout) :
    (handleRequest s r).state.activeUsers = s.activeUsers := by
  refine (handleRequest_effect s r).activeUsers ?_ ?_
  · by_contra h
    obtain ⟨x, hx⟩ := Option.ne_none_iff_exists'.mp h
    obtain ⟨_, _, _, hd', _⟩ := runHandler_login hx
    rw [hd] at hd'
    cases hd'
    exact hin rfl
  · by_contra h
    obtain ⟨x, hx⟩ := Option.ne_none_iff_exists'.mp h
    obtain ⟨_, _, hd', _⟩ := runHandler_logout hx
    rw [hd] at hd'
    cases hd'
    exact hout rfl

theorem closed_afterResponse {k : RequestKind} {header : ChatHeader} {reply : Reply}
    {x : List Sent × List ℕ} (h : afterResponse k s r header reply = .ok x) :
    x.2 = if k.closes s.activeUsers r.fd then [r.fd] else [] := by
  cases k with
  | destroyUser =>
    rw [afterResponse] at h
    cases hs : s.activeUsers.getConnectedUserByFd r.fd with
    | none => simp [hs] at h
    | some sender =>
      simp only [hs, Except.ok.injEq] at h
      rw [← h]
      simp [RequestKind.closes, hs]
  | createMessage =>
    rw [afterResponse] at h
    cases hf : forwards s r.env header reply.token reply.forward with
    | error f => simp [hf] at h
    | ok sent =>
      simp only [hf, Except.ok.injEq] at h
      rw [← h]
      rfl
  | _ => cases h; rfl

theorem closed_respond (k : RequestKind) (s : State) (r : Request) (header : ChatHeader)
    (rest : List UInt8) (reply : Reply) :
    (respond k s r header rest reply).closed =
      if (respond k s r header rest reply).returned && k.closes s.activeUsers r.fd then [r.fd]
      else [] := by
  by_cases hack : k = .createMessage ∧ reply.result = createMessageAck
  · rw [respond, if_pos hack, hack.1]
    rfl
  · rw [respond, if_neg hack]
    cases sendResponse k reply.result reply.token with
    | error f => rfl
    | ok body =>
      dsimp only
      cases ha : afterResponse k s r header reply with
      | error f => rfl
      | ok x => exact closed_afterResponse ha

theorem closes_of_decode {k : RequestKind} {header : ChatHeader} {rest : List UInt8}
    (hd : r.decode = .serve k header rest) :
    k.closes (handleRequest s r).state.activeUsers r.fd = k.closes s.activeUsers r.fd := by
  cases k with
  | destroyUser => rw [activeUsers_of_decode hd nofun nofun]
  | _ => rfl

/-- A call closes its own descriptor or none; if it does not return, it has closed none. -/
theorem closed_eq (s : State) (r : Request) :
    (handleRequest s r).closed =
      if (handleRequest s r).returned && closesConnection s r then [r.fd] else [] := by
  cases hd : r.decode with
  | stop ret rest => simp [handleRequest, closesConnection, hd]
  | serve k header rest =>
    have hcall : handleRequest s r = serve k s r header rest := by rw [handleRequest, hd]
    have hkind : closesConnection s r = k.closes s.activeUsers r.fd := by
      rw [closesConnection, hd]
    -- the privilege is looked up behind the handler, which leaves the session as it was
    rw [hkind, ← closes_of_decode hd, hcall]
    rcases serve_cases k s r header rest with ⟨st, f, h⟩ | ⟨st, reply, h⟩
    · rw [h]
      rfl
    · rw [h, respond_state]
      exact closed_respond ..

end Closing

namespace Loop

theorem mem_connections_serve {w : Loop} {r : Request} {c : Connection}
    (hret : (handleRequest w.server.state r).returned = true) :
    c ∈ (w.serve r).connections ↔ ∃ c' ∈ w.connections,
      ¬ (closesConnection w.server.state r = true ∧ c'.fd = r.fd) ∧
      c'.record r.fd (loggedIn w.server.state r) = c := by
  simp only [serve, List.mem_map, List.mem_filter, closed_eq, hret, Bool.true_and,
    decide_eq_true_eq, and_assoc]
  refine exists_congr fun c' => and_congr_right fun _ => and_congr_left fun _ => ?_
  cases closesConnection w.server.state r <;> simp

theorem fds_serve_sublist (w : Loop) (r : Request) :
    ((w.serve r).connections.map (·.fd)).Sublist (w.connections.map (·.fd)) := by
  rw [serve, List.map_map]
  simp only [Function.comp_def, Connection.record_fd]
  exact List.filter_sublist.map _

end Loop

end ChatServer
