import ChatServer.Lib.Run
import Mathlib.Data.Set.Insert
import Mathlib.Logic.Function.Basic

/-!
# What a chat server is for

People enrol under names of their own, come and go; rooms with names of their own gain members; and
what is said in a room stays said. Identities, names and texts are of any types. `Permits` is what
has to hold for an act to make sense; acts that make sense keep a chat coherent, and never take
anything back that was said or anyone out of a room.
-/

namespace ChatServer

structure Room (ν : Type) where
  name : ν
  founder : ν
  members : Set ν
  isPublic : Bool

structure Remark (ι τ : Type) where
  room : ι
  speaker : ι
  text : τ

/-- Who goes by which name, who is present, the rooms, and what was said, the latest first. -/
@[ext] structure Chat (ι ν τ : Type) where
  people : ν → Option ι
  present : Set ι
  rooms : ι → Option (Room ν)
  said : List (Remark ι τ)

inductive Act (ι ν τ : Type) where
  | enrol (name : ν) (person : ι)
  | expel (name : ν)
  | arrive (person : ι)
  | depart (person : ι)
  | found (room : ι) (name founder : ν) (isPublic : Bool)
  | relabel (room : ι) (name : ν) (isPublic : Bool)
  | invite (room : ι) (names : List ν)
  | say (remark : Remark ι τ)

namespace Room

variable {ν : Type} (x : Room ν)

def relabel (name : ν) (isPublic : Bool) : Room ν := { x with name := name, isPublic := isPublic }

def invite (names : List ν) : Room ν := { x with members := x.members ∪ {n | n ∈ names} }

end Room

namespace Chat

variable {ι ν τ : Type} {c c' c'' : Chat ι ν τ} {a : Act ι ν τ}

def empty : Chat ι ν τ := ⟨fun _ => none, ∅, fun _ => none, []⟩

/-- Somebody who goes by a name. -/
def Known (c : Chat ι ν τ) (person : ι) : Prop := ∃ name, c.people name = some person

def perform [DecidableEq ι] [DecidableEq ν] (c : Chat ι ν τ) : Act ι ν τ → Chat ι ν τ
  | .enrol n p => { c with people := Function.update c.people n (some p) }
  | .expel n => { c with people := Function.update c.people n none
                         present := {p | p ∈ c.present ∧ c.people n ≠ some p} }
  | .arrive p => { c with present := insert p c.present }
  | .depart p => { c with present := {q | q ∈ c.present ∧ q ≠ p} }
  | .found r n f isPublic =>
    { c with rooms := Function.update c.rooms r (some ⟨n, f, {f}, isPublic⟩) }
  | .relabel r n isPublic =>
    { c with rooms := Function.update c.rooms r ((c.rooms r).map (·.relabel n isPublic)) }
  | .invite r names =>
    { c with rooms := Function.update c.rooms r ((c.rooms r).map (·.invite names)) }
  | .say x => { c with said := x :: c.said }

/-- Names and identities are given out once, only people who are known come in, are let into rooms
and speak, and only in rooms that are there. -/
def Permits (c : Chat ι ν τ) : Act ι ν τ → Prop
  | .enrol n p => c.people n = none ∧ ¬ c.Known p ∧ p ∉ c.present
  | .expel n => ∃ p, c.people n = some p
  | .arrive p => c.Known p
  | .depart p => p ∈ c.present
  | .found r n _ _ => c.rooms r = none ∧ ∀ k x, c.rooms k = some x → x.name ≠ n
  | .relabel r n _ => (∃ x, c.rooms r = some x) ∧ ∀ k x, c.rooms k = some x → x.name = n → k = r
  | .invite r names => (∃ x, c.rooms r = some x) ∧ ∀ n ∈ names, ∃ p, c.people n = some p
  | .say x => (∃ r, c.rooms x.room = some r) ∧ c.Known x.speaker

/-- Nobody goes by two names, everyone present is known, no two rooms share a name, the founder of
a room is one of its members, and nothing was said outside the rooms. -/
structure Coherent (c : Chat ι ν τ) : Prop where
  people : ∀ n m p, c.people n = some p → c.people m = some p → n = m
  present : ∀ p ∈ c.present, c.Known p
  rooms : ∀ k l x y, c.rooms k = some x → c.rooms l = some y → x.name = y.name → k = l
  founders : ∀ k x, c.rooms k = some x → x.founder ∈ x.members
  said : ∀ x ∈ c.said, ∃ r, c.rooms x.room = some r

/-- What no act takes back: the rooms with their founders and members, and what was said. -/
structure Grows (c c' : Chat ι ν τ) : Prop where
  rooms : ∀ k x, c.rooms k = some x →
    ∃ y, c'.rooms k = some y ∧ y.founder = x.founder ∧ x.members ⊆ y.members
  said : c.said <:+ c'.said

theorem coherent_empty : (empty : Chat ι ν τ).Coherent where
  people := nofun
  present := nofun
  rooms := nofun
  founders := nofun
  said := nofun

theorem update_eq_some {α β : Type} [DecidableEq α] {f : α → Option β} {a k : α} {o : Option β}
    {x : β} : Function.update f a o k = some x ↔ k = a ∧ o = some x ∨ k ≠ a ∧ f k = some x := by
  by_cases hk : k = a
  · subst hk
    simp
  · simp [hk]

theorem Grows.refl (c : Chat ι ν τ) : c.Grows c :=
  ⟨fun _ x hx => ⟨x, hx, rfl, subset_rfl⟩, List.suffix_rfl⟩

theorem Grows.trans (h : c.Grows c') (h' : c'.Grows c'') : c.Grows c'' := by
  refine ⟨fun k x hx => ?_, h.said.trans h'.said⟩
  obtain ⟨y, hy, hfy, hmy⟩ := h.rooms k x hx
  obtain ⟨z, hz, hfz, hmz⟩ := h'.rooms k y hy
  exact ⟨z, hz, hfz.trans hfy, hmy.trans hmz⟩

section Rooms

variable [DecidableEq ι]

/-- A room that is written again, with its founder and at least its members. -/
theorem Grows.rewrite {r : ι} {f : Room ν → Room ν} (hfounder : ∀ x, (f x).founder = x.founder)
    (hmembers : ∀ x, x.members ⊆ (f x).members) :
    c.Grows { c with rooms := Function.update c.rooms r ((c.rooms r).map f) } := by
  refine ⟨fun k x hx => ?_, List.suffix_rfl⟩
  by_cases hk : k = r
  · subst hk
    exact ⟨f x, update_eq_some.mpr (Or.inl ⟨rfl, by rw [hx]; rfl⟩), hfounder x, hmembers x⟩
  · exact ⟨x, update_eq_some.mpr (Or.inr ⟨hk, hx⟩), rfl, subset_rfl⟩

/-- A room that is written again under a name that no other room has. -/
theorem Coherent.rewrite (h : c.Coherent) {r : ι} {f : Room ν → Room ν}
    (hname : ∀ x k y, c.rooms r = some x → c.rooms k = some y → y.name = (f x).name → k = r)
    (hfounder : ∀ x, (f x).founder = x.founder) (hmembers : ∀ x, x.members ⊆ (f x).members) :
    Coherent { c with rooms := Function.update c.rooms r ((c.rooms r).map f) } where
  people := h.people
  present := h.present
  rooms := by
    intro k l x y hx hy hxy
    obtain ⟨hk, hnew⟩ | ⟨_, hold⟩ := update_eq_some.mp hx <;>
      obtain ⟨hl, hnew'⟩ | ⟨_, hold'⟩ := update_eq_some.mp hy
    · exact hk.trans hl.symm
    · obtain ⟨x', hx', rfl⟩ := Option.map_eq_some_iff.mp hnew
      exact hk.trans (hname x' l y hx' hold' hxy.symm).symm
    · obtain ⟨y', hy', rfl⟩ := Option.map_eq_some_iff.mp hnew'
      exact (hname y' k x hy' hold hxy).trans hl.symm
    · exact h.rooms k l x y hold hold' hxy
  founders := by
    intro k x hx
    obtain ⟨_, hnew⟩ | ⟨_, hold⟩ := update_eq_some.mp hx
    · obtain ⟨x', hx', rfl⟩ := Option.map_eq_some_iff.mp hnew
      rw [hfounder]
      exact hmembers x' (h.founders r x' hx')
    · exact h.founders k x hold
  said := by
    intro x hx
    obtain ⟨y, hy⟩ := h.said x hx
    obtain ⟨z, hz, _⟩ := (Grows.rewrite (r := r) hfounder hmembers).rooms x.room y hy
    exact ⟨z, hz⟩

end Rooms

variable [DecidableEq ι] [DecidableEq ν]

theorem Grows.perform (h : c.Permits a) : c.Grows (c.perform a) := by
  cases a with
  | found r n f isPublic =>
    refine ⟨fun k x hx => ⟨x, update_eq_some.mpr (Or.inr ⟨?_, hx⟩), rfl, subset_rfl⟩,
      List.suffix_rfl⟩
    rintro rfl
    rw [h.1] at hx
    cases hx
  | relabel r n isPublic => exact .rewrite (fun _ => rfl) fun _ => subset_rfl
  | invite r names => exact .rewrite (fun _ => rfl) fun _ => Set.subset_union_left
  | say x => exact ⟨(Grows.refl c).rooms, List.suffix_cons x c.said⟩
  | enrol | expel | arrive | depart => exact ⟨(Grows.refl c).rooms, List.suffix_rfl⟩

namespace Coherent

variable (h : c.Coherent)
include h

theorem enrol {n : ν} {p : ι} (hp : c.Permits (.enrol n p)) :
    (c.perform (.enrol n p)).Coherent where
  people := by
    obtain ⟨_, hnew, _⟩ := hp
    intro m m' q hm hm'
    obtain ⟨hmn, hq⟩ | ⟨_, hold⟩ := update_eq_some.mp hm <;>
      obtain ⟨hmn', hq'⟩ | ⟨_, hold'⟩ := update_eq_some.mp hm'
    · exact hmn.trans hmn'.symm
    · exact absurd ⟨m', hold'.trans hq.symm⟩ hnew
    · exact absurd ⟨m, hold.trans hq'.symm⟩ hnew
    · exact h.people m m' q hold hold'
  present := by
    intro q hq
    obtain ⟨m, hm⟩ := h.present q hq
    refine ⟨m, update_eq_some.mpr (Or.inr ⟨?_, hm⟩)⟩
    rintro rfl
    rw [hp.1] at hm
    cases hm
  rooms := h.rooms
  founders := h.founders
  said := h.said

theorem expel (n : ν) : (c.perform (.expel n)).Coherent where
  people := by
    intro m m' q hm hm'
    obtain ⟨_, hq⟩ | ⟨_, hm⟩ := update_eq_some.mp hm
    · cases hq
    · obtain ⟨_, hq⟩ | ⟨_, hm'⟩ := update_eq_some.mp hm'
      · cases hq
      · exact h.people m m' q hm hm'
  present := by
    rintro q ⟨hq, hne⟩
    obtain ⟨m, hm⟩ := h.present q hq
    refine ⟨m, update_eq_some.mpr (Or.inr ⟨?_, hm⟩)⟩
    rintro rfl
    exact hne hm
  rooms := h.rooms
  founders := h.founders
  said := h.said

theorem found {r : ι} {n f : ν} {isPublic : Bool} (hp : c.Permits (.found r n f isPublic)) :
    (c.perform (.found r n f isPublic)).Coherent where
  people := h.people
  present := h.present
  rooms := by
    obtain ⟨_, hfree⟩ := hp
    intro k l x y hx hy hname
    obtain ⟨hk, hnew⟩ | ⟨_, hold⟩ := update_eq_some.mp hx <;>
      obtain ⟨hl, hnew'⟩ | ⟨_, hold'⟩ := update_eq_some.mp hy
    · exact hk.trans hl.symm
    · rw [← Option.some.inj hnew] at hname
      exact absurd hname.symm (hfree l y hold')
    · rw [← Option.some.inj hnew'] at hname
      exact absurd hname (hfree k x hold)
    · exact h.rooms k l x y hold hold' hname
  founders := by
    intro k x hx
    obtain ⟨_, hnew⟩ | ⟨_, hold⟩ := update_eq_some.mp hx
    · rw [← Option.some.inj hnew]
      exact Set.mem_singleton f
    · exact h.founders k x hold
  said := by
    intro x hx
    obtain ⟨y, hy⟩ := h.said x hx
    obtain ⟨z, hz, _⟩ := (Grows.perform hp).rooms x.room y hy
    exact ⟨z, hz⟩

/-- One act that makes sense. -/
theorem perform (hp : c.Permits a) : (c.perform a).Coherent := by
  cases a with
  | enrol n p => exact h.enrol hp
  | expel n => exact h.expel n
  | arrive p =>
    refine { h with present := ?_ }
    rintro q (rfl | hq)
    · exact hp
    · exact h.present q hq
  | depart p => exact { h with present := fun q hq => h.present q hq.1 }
  | found r n f isPublic => exact h.found hp
  | relabel r n isPublic =>
    exact h.rewrite (fun _ k y _ hy hname => hp.2 k y hy hname) (fun _ => rfl) fun _ => subset_rfl
  | invite r names =>
    exact h.rewrite (fun x k y hx hy hname => h.rooms k r y x hy hx hname) (fun _ => rfl)
      fun _ => Set.subset_union_left
  | say x =>
    refine { h with said := ?_ }
    intro y hy
    obtain rfl | hy := List.mem_cons.mp hy
    · exact hp.1
    · exact h.said y hy

end Coherent

/-- The acts are performed one after the other, each permitted when its turn comes. -/
abbrev Allows (c : Chat ι ν τ) (as : List (Act ι ν τ)) : Prop := Run.Along perform Permits c as

abbrev performs (c : Chat ι ν τ) (as : List (Act ι ν τ)) : Chat ι ν τ := Run.run perform c as

theorem Coherent.performs {as : List (Act ι ν τ)} (h : c.Coherent) (has : c.Allows as) :
    (c.performs as).Coherent :=
  Run.invariant (fun _ _ hc hp => Coherent.perform hc hp) h has

theorem Grows.performs {as : List (Act ι ν τ)} (has : c.Allows as) : c.Grows (c.performs as) :=
  Run.invariant (I := c.Grows) (fun _ _ hc hp => hc.trans (.perform hp)) (.refl c) has

end Chat

end ChatServer
