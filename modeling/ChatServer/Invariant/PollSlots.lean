import ChatServer.PollLoop

/-!
# Slots and connections

A slot should hold an open connection with its peer's address, and every open connection should
have one slot. `run_server` fills slots, but a descriptor is closed inside `handle_request`, which
does not know the slots.
-/

namespace ChatServer

open CLib

/-- Slots and open connections correspond. -/
structure SlotsAgree (w : Loop) : Prop where
  fds_distinct : (w.connections.map (·.fd)).Nodup
  slots_distinct : (w.slots.filterMap (·.fd)).Nodup
  slot_open : ∀ slot ∈ w.slots, ∀ fd, slot.fd = some fd →
    ∃ c ∈ w.connections, c.fd = fd ∧ slot.clientAddr = c.peer
  open_slot : ∀ c ∈ w.connections, ∃ slot ∈ w.slots, slot.fd = some c.fd

/-- A connection is accepted only while a slot is free, and no request closes its connection. -/
def KeepsSlots (w : Loop) (e : Event) : Prop :=
  match e with
  | .accept _ _ => ∃ slot ∈ w.slots, slot.fd = none
  | e => ∀ r ∈ w.request? e, closesConnection w.server.state r = false

instance (w : Loop) (e : Event) : Decidable (KeepsSlots w e) :=
  match e with
  | .accept _ _ => inferInstanceAs (Decidable (∃ slot ∈ w.slots, slot.fd = none))
  | .request i input env =>
    inferInstanceAs (Decidable (∀ r ∈ w.request? (.request i input env), _))
  | .peerClose i env => inferInstanceAs (Decidable (∀ r ∈ w.request? (.peerClose i env), _))

section Place

variable (fd : ℕ) (peer : IpAddr) {slots : List Slot}

variable {fd peer} in
theorem mem_place {slot : Slot} (h : slot ∈ place fd peer slots) :
    slot = ⟨some fd, peer⟩ ∨ slot ∈ slots := by
  induction slots with
  | nil => cases h
  | cons x xs ih =>
    rw [place] at h
    split at h
    · exact (List.mem_cons.mp h).imp_right (List.mem_cons_of_mem _)
    · rcases List.mem_cons.mp h with rfl | h
      · exact Or.inr List.mem_cons_self
      · exact (ih h).imp_right (List.mem_cons_of_mem _)

/-- Only a free slot is overwritten. -/
theorem mem_place_of_mem {slot : Slot} (h : slot ∈ slots) (hfd : slot.fd ≠ none) :
    slot ∈ place fd peer slots := by
  induction slots with
  | nil => cases h
  | cons x xs ih =>
    rw [place]
    split
    · rename_i hx
      rcases List.mem_cons.mp h with rfl | h
      · exact absurd hx hfd
      · exact List.mem_cons_of_mem _ h
    · rcases List.mem_cons.mp h with rfl | h
      · exact List.mem_cons_self
      · exact List.mem_cons_of_mem _ (ih h)

theorem filterMap_place (h : ∃ slot ∈ slots, slot.fd = none) :
    ((place fd peer slots).filterMap (·.fd)).Perm (fd :: slots.filterMap (·.fd)) := by
  induction slots with
  | nil => obtain ⟨slot, hs, _⟩ := h; cases hs
  | cons x xs ih =>
    rw [place]
    cases hx : x.fd with
    | none =>
      rw [if_pos rfl]
      simp [hx]
    | some y =>
      obtain ⟨slot, hs, hnone⟩ := h
      have hs' : slot ∈ xs := by
        rcases List.mem_cons.mp hs with rfl | hs
        · rw [hx] at hnone; cases hnone
        · exact hs
      rw [if_neg (by simp), List.filterMap_cons_some hx, List.filterMap_cons_some hx]
      exact ((ih ⟨slot, hs', hnone⟩).cons y).trans (List.Perm.swap fd y _)

end Place

namespace SlotsAgree

variable {w : Loop} (h : SlotsAgree w)
include h

theorem accept {fd : ℕ} {peer : IpAddr} (hfree : ∃ slot ∈ w.slots, slot.fd = none)
    (hopen : w.isOpen fd = false) :
    SlotsAgree { w with slots := place fd peer w.slots,
                        connections := ⟨fd, peer, none⟩ :: w.connections } := by
  have hnew := Loop.not_mem_of_closed hopen
  have hperm := filterMap_place fd peer hfree
  refine ⟨List.nodup_cons.mpr ⟨hnew, h.fds_distinct⟩, ?_, ?_, ?_⟩
  · refine hperm.nodup_iff.mpr (List.nodup_cons.mpr ⟨?_, h.slots_distinct⟩)
    -- every slot holds an open descriptor, and the new one was not open
    intro hm
    obtain ⟨slot, hs, hfd⟩ := List.mem_filterMap.mp hm
    obtain ⟨c, hc, hcfd, _⟩ := h.slot_open slot hs fd hfd
    exact hnew (hcfd ▸ List.mem_map_of_mem hc)
  · intro slot hs fd' hfd
    rcases mem_place hs with rfl | hs
    · exact ⟨_, List.mem_cons_self, Option.some.inj hfd, rfl⟩
    · obtain ⟨c, hc, hcfd⟩ := h.slot_open slot hs fd' hfd
      exact ⟨c, List.mem_cons_of_mem _ hc, hcfd⟩
  · intro c hc
    rcases List.mem_cons.mp hc with rfl | hc
    · have hm : fd ∈ (place fd peer w.slots).filterMap (·.fd) :=
        hperm.mem_iff.mpr List.mem_cons_self
      exact List.mem_filterMap.mp hm
    · obtain ⟨slot, hs, hfd⟩ := h.open_slot c hc
      exact ⟨slot, mem_place_of_mem fd peer hs (by rw [hfd]; nofun), hfd⟩

theorem serve {r : Request} (hclose : closesConnection w.server.state r = false) :
    SlotsAgree (w.serve r) := by
  have hclosed : (handleRequest w.server.state r).closed = [] := by
    rw [closed_eq, hclose, Bool.and_false]
    rfl
  have hconn : (w.serve r).connections =
      w.connections.map fun c => c.record r.fd (loggedIn w.server.state r) := by
    simp [Loop.serve, hclosed]
  refine ⟨?_, h.slots_distinct, ?_, ?_⟩
  · rw [hconn, List.map_map]
    simpa [Function.comp_def] using h.fds_distinct
  · intro slot hs fd hfd
    obtain ⟨c, hc, hcfd, hpeer⟩ := h.slot_open slot hs fd hfd
    rw [hconn]
    exact ⟨_, List.mem_map_of_mem hc, by simp [hcfd], by simp [hpeer]⟩
  · intro c hc
    rw [hconn] at hc
    obtain ⟨c', hc', rfl⟩ := List.mem_map.mp hc
    rw [Connection.record_fd]
    exact h.open_slot c' hc'

theorem step {e : Event} (hc : w.server.running = true → KeepsSlots w e) :
    SlotsAgree (w.step e) := by
  rcases w.step_cases e with he | ⟨hrun, fd, peer, rfl, hopen, he⟩ | ⟨hrun, r, hr, he⟩
  · rw [he]; exact h
  · rw [he]
    exact h.accept (hc hrun) hopen
  · rw [he]
    refine h.serve ?_
    cases e with
    | accept => cases hr
    | request | peerClose => exact hc hrun r hr

end SlotsAgree

theorem slotsAgree_started (env : Env) : SlotsAgree (.started env) := by
  refine ⟨List.nodup_nil, ?_, ?_, nofun⟩
  · have hnil : (Loop.started env).slots.filterMap (·.fd) = [] := by
      rw [List.filterMap_eq_nil_iff]
      intro slot hs
      rw [List.eq_of_mem_replicate hs]
    rw [hnil]
    exact List.nodup_nil
  · intro slot hs fd hfd
    rw [List.eq_of_mem_replicate hs] at hfd
    cases hfd

/-- In every run in which a connection is accepted only while a slot is free and no request closes
its connection, slots and open connections correspond. -/
theorem poll_slots_agree (env : Env) (es : List Event)
    (h : Loop.Along KeepsSlots (.started env) es) : SlotsAgree ((Loop.started env).run es) :=
  Run.invariant (fun _ _ hw hc => hw.step hc) (slotsAgree_started env) h

/-- Two connections, of which the first logs in. -/
def connectEvents : List Event :=
  [.accept 5 (Client.address "10.0.0.1"), .accept 6 (Client.address "10.0.0.2"),
    .request 0 (Client.dispatch 1 4 ["admin", "admin"]) Client.firstEnv]

theorem poll_slots_agree_connectEvents :
    SlotsAgree ((Loop.started Client.firstEnv).run connectEvents) :=
  poll_slots_agree Client.firstEnv connectEvents (by decide +kernel)

/-- A logout is refused and closes its connection, and the next connection gets the same
descriptor. -/
def reusedEvents : List Event :=
  [.accept 5 (Client.address "10.0.0.1"),
    .request 0 (Client.dispatch 4 4 ["nobody"]) Client.firstEnv,
    .accept 5 (Client.address "10.0.0.2")]

/-- Two slots hold the descriptor, the first of them with the address of the old connection. -/
theorem poll_slots_alias :
    ((Loop.started Client.firstEnv).run reusedEvents).server.running = true ∧
      ((Loop.started Client.firstEnv).run reusedEvents).slots.take 2 =
        [⟨some 5, Client.address "10.0.0.1"⟩, ⟨some 5, Client.address "10.0.0.2"⟩] ∧
      ¬ SlotsAgree ((Loop.started Client.firstEnv).run reusedEvents) := by
  have hfds : ((Loop.started Client.firstEnv).run reusedEvents).slots.filterMap (·.fd) =
      [5, 5] := by decide +kernel
  refine ⟨by decide +kernel, by decide +kernel, fun h => ?_⟩
  have hd := h.slots_distinct
  rw [hfds] at hd
  exact absurd hd (by decide)

end ChatServer
