import ChatServer.Lib.Simulation
import ChatServer.PollLoop

/-!
# One turn of the server loop

The loop of `run_server` as it stands: a call of `poll`, an `accept` if the listening socket has a
connection, and a pass over the other entries of `pollfds` that calls `handle_request` for each one
whose `revents` is `POLLIN` and nothing else. The events of `Loop` are what such a turn comes to: a
turn is a run of the loop on at most one accept and one request for each ready entry, in the order
of the entries.
-/

namespace ChatServer

open CLib

abbrev pollin : ℕ := 1
abbrev pollnval : ℕ := 32

/-- `pollfds[i]` and `client_addrs[i]` for `i` from 1 on; the descriptor -1 is `none`. -/
structure PollEntry where
  fd : Option ℕ
  events : ℕ
  revents : ℕ
  clientAddr : IpAddr

def PollEntry.slot (c : PollEntry) : Slot := ⟨c.fd, c.clientAddr⟩

/-- What a call of `poll` and the calls behind it take from outside the program. -/
structure Turn where
  /-- The `revents` of the listening socket and, for an open descriptor, of entry `i`; there are
  none if `poll` returned 0 or -1. -/
  found : Option (ℕ × (ℕ → ℕ))
  /-- What `accept` returns, with the peer's address; `none` is -1. -/
  accepted : Option (ℕ × IpAddr)
  input : ℕ → List UInt8
  env : ℕ → Env

/-- The requests that reach the entries `is`. -/
def Turn.requests (t : Turn) (is : List ℕ) : List Event :=
  is.map fun i => .request i (t.input i) (t.env i)

/-- The variables of `run_server`. A failing `accept` ends the process in `fatal_errno`. -/
structure ServerLoop where
  server : Server
  exited : Bool
  entries : List PollEntry
  connections : List Connection

/-- The loop that looks for an entry with descriptor -1. -/
def placeEntry (fd : ℕ) (peer : IpAddr) : List PollEntry → List PollEntry
  | [] => []
  | c :: cs => if c.fd = none then ⟨some fd, pollin, 0, peer⟩ :: cs else c :: placeEntry fd peer cs

/-- `init_pollfd` behind the first entry, which leaves the other fields as they were, and the
cleared `client_addrs`. -/
def initPollfd (stack : List (ℕ × ℕ)) : List PollEntry :=
  stack.map fun x => ⟨none, x.1, x.2, .empty _⟩

namespace ServerLoop

def isOpen (w : ServerLoop) (fd : ℕ) : Bool := w.connections.any fun c => c.fd = fd

/-- `revents` after `poll`: 0 for the descriptor -1 and `POLLNVAL` for one that is not open. -/
def pollEntry (w : ServerLoop) (found : ℕ → ℕ) (i : ℕ) (c : PollEntry) : PollEntry :=
  { c with revents := match c.fd with
      | none => 0
      | some fd => if w.isOpen fd then found i else pollnval }

def poll (w : ServerLoop) (found : ℕ → ℕ) : ServerLoop :=
  { w with entries := w.entries.mapIdx (w.pollEntry found) }

/-- The `accept` that `pollfds[0]` asks for. -/
def accept (w : ServerLoop) : Option (ℕ × IpAddr) → ServerLoop
  | none => { w with exited := true }
  | some (fd, peer) => { w with entries := placeEntry fd peer w.entries,
                                connections := ⟨fd, peer, none⟩ :: w.connections }

/-- What the call `handle_request(pollfds[i].fd, client_addrs[i], active_users)` leaves behind. -/
def handle (w : ServerLoop) (r : Request) : ServerLoop :=
  { w with
    server := w.server.step r
    connections :=
      (w.connections.filter fun c => c.fd ∉ (handleRequest w.server.state r).closed).map
        fun c => c.record r.fd (loggedIn w.server.state r) }

/-- The process has come to its end inside the loop. -/
def ended (w : ServerLoop) : Bool := w.exited || !w.server.running

/-- The switch over `pollfds[i].revents`. A call with descriptor -1 ends in the assertion of
`read_header`. -/
def serveEntry (t : Turn) (w : ServerLoop) (x : PollEntry × ℕ) : ServerLoop :=
  if w.ended then w
  else if x.1.revents = 0 then w
  else if x.1.revents = pollin then
    match x.1.fd with
    | none => { w with exited := true }
    | some fd =>
      w.handle ⟨fd, x.1.clientAddr, if w.isOpen fd then t.input x.2 else [], t.env x.2⟩
  else w

/-- The loop over the entries behind the first one. -/
def serveEntries (t : Turn) (w : ServerLoop) : ServerLoop :=
  w.entries.zipIdx.foldl (serveEntry t) w

/-- The body of `while (server_running)`. -/
def turn (w : ServerLoop) (t : Turn) : ServerLoop :=
  if w.ended then w
  else match t.found with
    | none => w
    | some (listener, found) =>
      let w := w.poll found
      let w := if listener = pollin then w.accept t.accepted else w
      w.serveEntries t

/-- The loop as it is entered, with what the stack held in `pollfds` and the descriptors that are
still open. -/
def entered (server : Server) (stack : List (ℕ × ℕ)) (connections : List Connection) :
    ServerLoop :=
  ⟨server, false, initPollfd stack, connections⟩

abbrev run (w : ServerLoop) (ts : List Turn) : ServerLoop := Run.run turn w ts

/-! What a turn comes to. -/

def loop (w : ServerLoop) : Loop := ⟨w.server, w.entries.map PollEntry.slot, w.connections⟩

/-- The entries, from number `k` on, whose `revents` is `POLLIN`. -/
def readyFrom (k : ℕ) (cs : List PollEntry) : List ℕ :=
  (cs.zipIdx k).filterMap fun x => if x.1.revents = pollin then some x.2 else none

/-- The entries that a turn serves. -/
def ready (w : ServerLoop) (t : Turn) : List ℕ :=
  match t.found with
  | none => []
  | some (_, found) => readyFrom 0 (w.poll found).entries

/-- The connection that a turn accepts. -/
def accepts (t : Turn) : List Event :=
  match t.found, t.accepted with
  | some (listener, _), some (fd, peer) => if listener = pollin then [.accept fd peer] else []
  | _, _ => []

/-- `accept` is called and fails. -/
def acceptFails (t : Turn) : Bool :=
  t.found.any fun x => x.1 = pollin ∧ t.accepted = none

/-- The events of a turn. -/
def events (w : ServerLoop) (t : Turn) : List Event :=
  if w.ended || acceptFails t then []
  else accepts t ++ t.requests (w.ready t)

/-- `accept` returns a descriptor that is not open. -/
def NewDescriptor (w : ServerLoop) (t : Turn) : Prop := ∀ x ∈ t.accepted, w.isOpen x.1 = false

instance (w : ServerLoop) (t : Turn) : Decidable (w.NewDescriptor t) :=
  inferInstanceAs (Decidable (∀ x ∈ t.accepted, _))

abbrev Along (C : ServerLoop → Turn → Prop) (w : ServerLoop) (ts : List Turn) : Prop :=
  Run.Along turn C w ts

end ServerLoop

namespace ServerLoop

/-- Entries without a descriptor have no `POLLIN`. -/
def Polled (cs : List PollEntry) : Prop := ∀ c ∈ cs, c.fd = none → c.revents = 0

theorem polled_poll (w : ServerLoop) (found : ℕ → ℕ) : Polled (w.poll found).entries := by
  intro c hc hfd
  obtain ⟨i, _, rfl⟩ := List.mem_mapIdx.mp hc
  simp only [pollEntry] at hfd ⊢
  rw [hfd]

theorem loop_poll (w : ServerLoop) (found : ℕ → ℕ) : (w.poll found).loop = w.loop := by
  have hslots : (w.poll found).entries.map PollEntry.slot = w.entries.map PollEntry.slot := by
    apply List.ext_getElem
    · simp [poll]
    · intro i h₁ h₂
      simp [poll, pollEntry, PollEntry.slot]
  rw [loop, loop, hslots]
  rfl

/-- The new entry is not served in the turn that makes it. -/
theorem readyFrom_placeEntry (fd : ℕ) (peer : IpAddr) {cs : List PollEntry} (h : Polled cs)
    (k : ℕ) :
    readyFrom k (placeEntry fd peer cs) = readyFrom k cs := by
  induction cs generalizing k with
  | nil => rfl
  | cons c cs ih =>
    obtain ⟨hc, hcs⟩ := List.forall_mem_cons.mp h
    rw [placeEntry]
    split
    · rename_i hfd
      simp [readyFrom, hc hfd]
    · have hih := ih hcs (k+1)
      simp only [readyFrom, List.zipIdx_cons, List.filterMap_cons] at hih ⊢
      rw [hih]

theorem slots_placeEntry (fd : ℕ) (peer : IpAddr) (cs : List PollEntry) :
    (placeEntry fd peer cs).map PollEntry.slot = place fd peer (cs.map PollEntry.slot) := by
  induction cs with
  | nil => rfl
  | cons c cs ih =>
    rw [placeEntry, List.map_cons, place]
    by_cases hc : c.fd = none
    · rw [if_pos hc, if_pos (show c.slot.fd = none from hc)]
      rfl
    · rw [if_neg hc, if_neg (show c.slot.fd ≠ none from hc), List.map_cons, ih]

theorem polled_placeEntry {fd : ℕ} {peer : IpAddr} {cs : List PollEntry} (h : Polled cs) :
    Polled (placeEntry fd peer cs) := by
  induction cs with
  | nil => exact h
  | cons c cs ih =>
    obtain ⟨hc, hcs⟩ := List.forall_mem_cons.mp h
    rw [placeEntry]
    split
    · exact List.forall_mem_cons.mpr ⟨nofun, hcs⟩
    · exact List.forall_mem_cons.mpr ⟨hc, ih hcs⟩

/-- An entry that is served is a request of the loop, one that is not is none. -/
theorem loop_serveEntry (t : Turn) {w : ServerLoop} {c : PollEntry} {i : ℕ}
    (hi : w.entries[i]? = some c) (hp : c.fd = none → c.revents = 0) (hx : w.exited = false) :
    (w.serveEntry t (c, i)).loop =
        w.loop.run (t.requests (if c.revents = pollin then [i] else [])) ∧
      (w.serveEntry t (c, i)).entries = w.entries ∧ (w.serveEntry t (c, i)).exited = false := by
  cases hrun : w.server.running with
  | false =>
    have hs : w.serveEntry t (c, i) = w := by simp [serveEntry, ended, hx, hrun]
    rw [hs]
    refine ⟨?_, rfl, hx⟩
    split
    · simp [Turn.requests, Run.run, Loop.step, loop, hrun]
    · rfl
  | true =>
    by_cases hin : c.revents = pollin
    · obtain ⟨fd, hfd⟩ := Option.ne_none_iff_exists'.mp fun hn => by
        rw [hp hn] at hin
        cases hin
      have hs : w.serveEntry t (c, i) =
          w.handle ⟨fd, c.clientAddr, if w.isOpen fd then t.input i else [], t.env i⟩ := by
        simp [serveEntry, ended, hx, hrun, hin, hfd]
      have hslot : w.loop.slots[i]? = some ⟨some fd, c.clientAddr⟩ := by
        simp [loop, PollEntry.slot, hi, hfd]
      rw [hs, if_pos hin]
      refine ⟨?_, rfl, hx⟩
      simp only [Turn.requests, List.map_cons, List.map_nil, Run.run, List.foldl_cons,
        List.foldl_nil, Loop.step, Loop.request?, Loop.call, hslot,
        show w.loop.server.running = true from hrun, if_true]
      rfl
    · have hs : w.serveEntry t (c, i) = w := by
        -- the switch does nothing for any other value
        simp [serveEntry, hin]
      rw [hs, if_neg hin]
      exact ⟨rfl, rfl, hx⟩

/-- The pass over the entries is a run on the requests of the ready ones. -/
theorem loop_serveEntries (t : Turn) {w : ServerLoop} (hp : Polled w.entries)
    (hx : w.exited = false) :
    (w.serveEntries t).loop = w.loop.run (t.requests (readyFrom 0 w.entries)) := by
  have hpass : ∀ (xs : List (PollEntry × ℕ)) (w : ServerLoop), Polled w.entries → w.exited = false →
      (∀ x ∈ xs, w.entries[x.2]? = some x.1) →
      (xs.foldl (serveEntry t) w).loop = w.loop.run (t.requests (xs.filterMap fun x =>
        if x.1.revents = pollin then some x.2 else none)) := by
    intro xs
    induction xs with
    | nil => exact fun _ _ _ _ => rfl
    | cons x xs ih =>
      intro w hp hx hxs
      obtain ⟨hi, hxs⟩ := List.forall_mem_cons.mp hxs
      obtain ⟨hloop, hcs, hx'⟩ := loop_serveEntry t hi (hp _ (List.mem_of_getElem? hi)) hx
      rw [List.foldl_cons, ih _ (by rw [hcs]; exact hp) hx' (by rw [hcs]; exact hxs), hloop]
      by_cases hin : x.1.revents = pollin
      · rw [if_pos hin, List.filterMap_cons, if_pos hin]
        rfl
      · rw [if_neg hin, List.filterMap_cons, if_neg hin]
        rfl
  exact hpass _ w hp hx fun x hx => List.mem_zipIdx_iff_getElem?.mp hx

/-- Behind a failed `accept` there is no more of the turn. -/
theorem serveEntries_of_exited (t : Turn) {w : ServerLoop} (hx : w.exited = true) :
    w.serveEntries t = w := by
  have hpass : ∀ xs : List (PollEntry × ℕ), xs.foldl (serveEntry t) w = w := by
    intro xs
    induction xs with
    | nil => rfl
    | cons x xs ih => rw [List.foldl_cons, serveEntry, ended, hx]; exact ih
  exact hpass _

theorem loop_accept {w : ServerLoop} {fd : ℕ} {peer : IpAddr} (hrun : w.server.running = true)
    (hopen : w.isOpen fd = false) :
    (w.accept (some (fd, peer))).loop = w.loop.step (.accept fd peer) := by
  have ho : w.loop.isOpen fd = false := hopen
  have hr : w.loop.server.running = true := hrun
  rw [Loop.step, hr, if_pos rfl, ho, if_neg Bool.false_ne_true]
  simp only [accept, loop, slots_placeEntry]

/-- A turn is a run of the loop on its events. -/
theorem loop_turn {w : ServerLoop} {t : Turn} (hnew : w.NewDescriptor t) :
    (w.turn t).loop = w.loop.run (w.events t) := by
  cases hend : w.ended with
  | true => simp [turn, events, hend, Run.run]
  | false =>
    obtain ⟨hx, hrun⟩ : w.exited = false ∧ w.server.running = true := by
      simpa [ended] using hend
    cases hf : t.found with
    | none => simp [turn, events, hend, hf, accepts, ready, acceptFails, Turn.requests, Run.run]
    | some x =>
      obtain ⟨listener, found⟩ := x
      have hp := polled_poll w found
      by_cases hl : listener = pollin
      · cases ha : t.accepted with
        | none =>
          have hturn : w.turn t = ((w.poll found).accept none).serveEntries t := by
            simp [turn, hend, hf, hl, ha]
          have hev : w.events t = [] := by simp [events, hend, acceptFails, hf, hl, ha]
          rw [hturn, serveEntries_of_exited t rfl, hev]
          exact loop_poll w found
        | some y =>
          obtain ⟨fd, peer⟩ := y
          have hturn : w.turn t = ((w.poll found).accept (some (fd, peer))).serveEntries t := by
            simp [turn, hend, hf, hl, ha]
          have hev : w.events t =
              .accept fd peer :: t.requests (readyFrom 0 (w.poll found).entries) := by
            simp [events, hend, acceptFails, accepts, ready, hf, hl, ha]
          have hacc : ((w.poll found).accept (some (fd, peer))).loop =
              w.loop.step (.accept fd peer) := by
            rw [loop_accept (w := w.poll found) hrun (hnew (fd, peer) ha), loop_poll]
          have hpass : (((w.poll found).accept (some (fd, peer))).serveEntries t).loop =
              ((w.poll found).accept (some (fd, peer))).loop.run
                (t.requests (readyFrom 0 (placeEntry fd peer (w.poll found).entries))) :=
            loop_serveEntries t (polled_placeEntry hp) hx
          rw [hturn, hpass, hacc, readyFrom_placeEntry fd peer hp, hev]
          rfl
      · have hturn : w.turn t = (w.poll found).serveEntries t := by
          simp [turn, hend, hf, hl]
        have hev : w.events t = t.requests (readyFrom 0 (w.poll found).entries) := by
          cases ha : t.accepted <;> simp [events, hend, acceptFails, accepts, ready, hf, hl, ha]
        rw [hturn, loop_serveEntries t hp hx, loop_poll, hev]

/-- No entry is served twice in a turn, and the entries are served in their order. -/
theorem pairwise_readyFrom (k : ℕ) (cs : List PollEntry) : (readyFrom k cs).Pairwise (· < ·) := by
  have hbound : ∀ (k : ℕ) (cs : List PollEntry), ∀ i ∈ readyFrom k cs, k ≤ i := by
    intro k cs i hi
    obtain ⟨⟨c, j⟩, hx, hj⟩ := List.mem_filterMap.mp hi
    simp only [Option.ite_none_right_eq_some, Option.some.injEq] at hj
    exact hj.2 ▸ List.le_snd_of_mem_zipIdx hx
  induction cs generalizing k with
  | nil => exact .nil
  | cons c cs ih =>
    rw [readyFrom, List.zipIdx_cons, List.filterMap_cons]
    split
    · exact ih (k+1)
    · rename_i i hi
      obtain ⟨_, rfl⟩ : c.revents = pollin ∧ k = i := by simpa using hi
      exact List.pairwise_cons.mpr ⟨hbound (k+1) cs, ih (k+1)⟩

/-- The entries that are served are those of open descriptors on which `poll` found data. -/
theorem mem_ready {w : ServerLoop} {t : Turn} {i : ℕ} :
    i ∈ w.ready t ↔ ∃ listener found c fd, t.found = some (listener, found) ∧
      w.entries[i]? = some c ∧ c.fd = some fd ∧ w.isOpen fd = true ∧ found i = pollin := by
  cases hf : t.found with
  | none => simp [ready, hf]
  | some x =>
    obtain ⟨listener, found⟩ := x
    have hmem : i ∈ w.ready t ↔ ∃ c, w.entries[i]? = some c ∧
        (w.pollEntry found i c).revents = pollin := by
      simp [ready, hf, readyFrom, List.mem_zipIdx_iff_getElem?, poll]
    rw [hmem]
    constructor
    · rintro ⟨c, hc, hin⟩
      simp only [pollEntry] at hin
      split at hin
      · cases hin
      · rename_i fd hfd
        split at hin
        · rename_i ho
          exact ⟨listener, found, c, fd, rfl, hc, hfd, ho, hin⟩
        · cases hin
    · rintro ⟨_, _, c, fd, ⟨⟩, hc, hfd, ho, hin⟩
      exact ⟨c, hc, by simp [pollEntry, hfd, ho, hin]⟩

theorem loop_run {w : ServerLoop} {ts : List Turn} (hts : Along NewDescriptor w ts) :
    (w.run ts).loop = w.loop.run (Run.trace turn events w ts) :=
  Run.forward (R := fun w l => w.loop = l) (fun w l t hl hnew => by rw [loop_turn hnew, hl]) rfl hts

/-- A client connects, and in the next turn it logs in. -/
def visitTurns : List Turn :=
  [⟨some (pollin, fun _ => 0), some (5, Client.address "10.0.0.1"), fun _ => [],
      fun _ => Client.firstEnv⟩,
    ⟨some (0, fun _ => pollin), none, fun _ => Client.dispatch 1 4 ["admin", "admin"],
      fun _ => Client.firstEnv⟩]

def visitedLoop : ServerLoop := entered Client.start (List.replicate (maxClients-1) (0, 0)) []

end ServerLoop

/-! The table of connections. -/

namespace Loop

/-- The connection that an event adds. -/
def accepted (w : Loop) : Event → List (ℕ × IpAddr)
  | .accept fd peer => if w.server.running && !w.isOpen fd then [(fd, peer)] else []
  | _ => []

/-- The call of `handle_request` that an event leads to. -/
def calls (w : Loop) (e : Event) : List Request :=
  if w.server.running then (w.request? e).toList else []

/-- The slots, when the connections `as` have been accepted: one for each, until there is none. -/
def table (n : ℕ) (as : List (ℕ × IpAddr)) : List Slot :=
  (as.take n).map (fun a => ⟨some a.1, a.2⟩) ++ List.replicate (n-as.length) ⟨none, .empty _⟩

theorem place_append {used free : List Slot} (h : ∀ s ∈ used, s.fd ≠ none) (fd : ℕ)
    (peer : IpAddr) : place fd peer (used ++ free) = used ++ place fd peer free := by
  induction used with
  | nil => rfl
  | cons s used ih =>
    obtain ⟨hs, hused⟩ := List.forall_mem_cons.mp h
    rw [List.cons_append, place, if_neg hs, ih hused, List.cons_append]

theorem place_table (n : ℕ) (as : List (ℕ × IpAddr)) (a : ℕ × IpAddr) :
    place a.1 a.2 (table n as) = table n (as ++ [a]) := by
  have hused : ∀ s ∈ (as.take n).map (fun a => (⟨some a.1, a.2⟩ : Slot)), s.fd ≠ none := by
    intro s hs
    obtain ⟨a, _, rfl⟩ := List.mem_map.mp hs
    nofun
  rw [table, place_append hused]
  obtain hlt | hge := Nat.lt_or_ge as.length n
  · obtain ⟨m, hm⟩ : ∃ m, n-as.length = m+1 := ⟨n-as.length-1, by omega⟩
    have hm' : n-(as ++ [a]).length = m := by
      rw [List.length_append, List.length_singleton]
      omega
    rw [hm, List.replicate_succ, place, if_pos rfl, table, hm', List.take_of_length_le hlt.le,
      List.take_of_length_le (by simp; omega), List.map_append, List.append_assoc]
    rfl
  · have hm : n-as.length = 0 := by omega
    have hm' : n-(as ++ [a]).length = 0 := by
      rw [List.length_append]
      omega
    rw [table, hm, hm', List.take_append_of_le_length hge]
    rfl

theorem slots_step (w : Loop) (e : Event) :
    (w.step e).slots = (w.accepted e).foldl (fun ss a => place a.1 a.2 ss) w.slots := by
  cases e with
  | accept fd peer =>
    by_cases h : w.server.running = true ∧ w.isOpen fd = false
    · simp [step, accepted, h]
    · have hnone : w.accepted (.accept fd peer) = [] := by simpa [accepted] using h
      rw [hnone]
      cases hr : w.server.running with
      | false => simp [step, hr]
      | true =>
        have ho : w.isOpen fd = true := by simpa [hr] using h
        simp [step, hr, ho]
  | request i input env =>
    rcases step_cases w (.request i input env) with h | ⟨_, _, _, ⟨⟩, _⟩ | ⟨_, r, _, h⟩
    · rw [h]; rfl
    · rw [h]; rfl
  | peerClose i env =>
    rcases step_cases w (.peerClose i env) with h | ⟨_, _, _, ⟨⟩, _⟩ | ⟨_, r, _, h⟩
    · rw [h]; rfl
    · rw [h]; rfl

/-- The slots are the table of the connections accepted so far. -/
theorem slots_run {w : Loop} {n : ℕ} {as : List (ℕ × IpAddr)} (h : w.slots = table n as)
    (es : List Event) : (w.run es).slots = table n (as ++ Run.trace step accepted w es) := by
  induction es generalizing w as with
  | nil => rw [Run.trace, List.append_nil]; exact h
  | cons e es ih =>
    have hstep : (w.step e).slots = table n (as ++ w.accepted e) := by
      have hfold : ∀ (bs as : List (ℕ × IpAddr)),
          bs.foldl (fun ss a => place a.1 a.2 ss) (table n as) = table n (as ++ bs) := by
        intro bs
        induction bs with
        | nil => intro as; rw [List.append_nil]; rfl
        | cons b bs ih => intro as; rw [List.foldl_cons, place_table, ih, List.append_assoc]; rfl
      rw [slots_step, h, hfold]
    rw [Run.trace, ← List.append_assoc]
    exact ih hstep

/-- A call is made with the descriptor and the address in the slot of its event. -/
theorem slot_of_call {w : Loop} {e : Event} {r : Request} (h : r ∈ w.calls e) :
    ∃ i : ℕ, w.slots[i]? = some ⟨some r.fd, r.clntAddr⟩ := by
  have hcall : ∀ {i : ℕ} {input : List UInt8} {env : Env}, w.call i input env = some r →
      w.slots[i]? = some ⟨some r.fd, r.clntAddr⟩ := by
    intro i input env hc
    rw [call] at hc
    split at hc
    · rename_i fd addr hs
      cases hc
      exact hs
    · cases hc
  rw [calls] at h
  split at h
  · rw [Option.mem_toList] at h
    cases e with
    | accept => cases h
    | request i input env => exact ⟨i, hcall h⟩
    | peerClose i env => exact ⟨i, hcall h⟩
  · cases h

/-- The calls of `handle_request` are the requests that the server serves. -/
theorem server_run (w : Loop) (es : List Event) :
    (w.run es).server = w.server.run (Run.trace step calls w es) := by
  refine Run.forward (R := fun w v => w.server = v) (C := fun _ _ => True) ?_ rfl
    (Run.along_of_forall (fun _ _ _ => trivial) w)
  rintro w v e rfl -
  rcases step_cases w e with h | ⟨hr, fd, peer, rfl, _, h⟩ | ⟨hr, r, hreq, h⟩
  · rw [h]
    cases hrun : w.server.running with
    | false => simp [calls, hrun, Run.run]
    | true =>
      cases hreq : w.request? e with
      | none => simp [calls, hrun, hreq, Run.run]
      | some r =>
        -- the event would have been served
        have hs : w.step e = w.serve r := by
          cases e with
          | accept => cases hreq
          | request => simp [step, hrun, hreq]
          | peerClose => simp [step, hrun, hreq]
        rw [hs] at h
        have hv : w.server = w.server.step r := congrArg Loop.server h.symm
        simpa [calls, hrun, hreq, Run.run] using hv
  · rw [h]
    simp [calls, hr, request?, Run.run]
  · rw [h]
    simp [calls, hr, hreq, Run.run, serve]

/-- In every run of the loop slot `i` belongs to connection `i` of those that have been accepted,
for good: no slot is given up, later connections get none, and `handle_request` is only called for
one of the first 254 connections, with that connection's descriptor and address. -/
theorem connection_table (env : Env) (es : List Event) :
    ((started env).run es).slots = table (maxClients-1) (Run.trace step accepted (started env) es) ∧
    ∀ r ∈ Run.trace step calls (started env) es, ∃ i < maxClients-1,
      (Run.trace step accepted (started env) es)[i]? = some (r.fd, r.clntAddr) := by
  have hstart : (started env).slots = table (maxClients-1) [] := rfl
  refine ⟨slots_run hstart es, fun r hr => ?_⟩
  obtain ⟨es₁, e, es₂, rfl, hcall⟩ := Run.mem_trace.mp hr
  obtain ⟨i, hi⟩ := slot_of_call hcall
  rw [slots_run hstart es₁, List.nil_append, table] at hi
  -- a slot with a descriptor is not one of those that are left
  have hused : i < ((Run.trace step accepted (started env) es₁).take (maxClients-1)).length := by
    by_contra hge
    rw [List.getElem?_append_right (by rw [List.length_map]; exact Nat.not_lt.mp hge)] at hi
    have hfree := List.eq_of_mem_replicate (List.mem_of_getElem? hi)
    cases hfree
  rw [List.getElem?_append_left (by simpa using hused), List.getElem?_map,
    Option.map_eq_some_iff] at hi
  obtain ⟨⟨fd, peer⟩, ha, hslot⟩ := hi
  cases hslot
  rw [List.length_take] at hused
  have hlt : i < maxClients-1 := by omega
  rw [List.getElem?_take_of_lt hlt] at ha
  refine ⟨i, hlt, ?_⟩
  rw [Run.trace_append, List.getElem?_append_left (by omega)]
  exact ha

end Loop

end ChatServer
