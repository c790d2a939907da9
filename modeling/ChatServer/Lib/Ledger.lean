import Mathlib.Data.List.Basic
import Mathlib.Data.Prod.Basic
import ChatServer.Lib.Run

/-!
# Ledgers of resources

A program takes resources (blocks of memory, open files), uses them and gives them back. The ledger
of what it does is a list of such uses. It balances if nothing is taken while it is held, and
nothing is used or given back that is not held: then no resource is used before it is taken or after
it was given back, none is given back twice, and what is held at the end is what was never given
back.
-/

namespace Ledger

inductive Use (ρ : Type) where
  | take (x : ρ)
  | touch (x : ρ)
  | give (x : ρ)
  deriving DecidableEq

variable {ρ σ : Type} [DecidableEq ρ] [DecidableEq σ]

/-- The resource of a use. -/
def Use.of : Use ρ → ρ
  | .take x | .touch x | .give x => x

def Use.map (f : ρ → σ) : Use ρ → Use σ
  | .take x => .take (f x)
  | .touch x => .touch (f x)
  | .give x => .give (f x)

/-- What is held behind a use, in the order in which it was taken. -/
def book (held : List ρ) : Use ρ → Option (List ρ)
  | .take x => if x ∈ held then none else some (held ++ [x])
  | .touch x => if x ∈ held then some held else none
  | .give x => if x ∈ held then some (held.erase x) else none

/-- What is held behind a list of uses, if they balance. -/
def balance : List ρ → List (Use ρ) → Option (List ρ)
  | held, [] => some held
  | held, u :: us => (book held u).bind fun held => balance held us

theorem balance_append (held : List ρ) (us vs : List (Use ρ)) :
    balance held (us ++ vs) = (balance held us).bind fun held => balance held vs := by
  induction us generalizing held with
  | nil => rfl
  | cons u us ih =>
    rw [List.cons_append, balance, balance]
    cases book held u with
    | none => rfl
    | some held' => exact ih held'

/-- Pieces that balance one behind the other. -/
theorem balance_seq {a b c : List ρ} {us vs : List (Use ρ)} (hus : balance a us = some b)
    (hvs : balance b vs = some c) : balance a (us ++ vs) = some c := by
  rw [balance_append, hus]
  exact hvs

/-! Each use by itself. -/

theorem balance_take {held : List ρ} {x : ρ} (us : List (Use ρ)) (h : x ∉ held) :
    balance held (.take x :: us) = balance (held ++ [x]) us := by
  rw [balance, book, if_neg h]
  rfl

theorem balance_touch {held : List ρ} {x : ρ} (us : List (Use ρ)) (h : x ∈ held) :
    balance held (.touch x :: us) = balance held us := by
  rw [balance, book, if_pos h]
  rfl

theorem balance_give {a b : List ρ} {x : ρ} (us : List (Use ρ)) (h : x ∉ a) :
    balance (a ++ x :: b) (.give x :: us) = balance (a ++ b) us := by
  rw [balance, book, if_pos (by simp), List.erase_append_right _ h, List.erase_cons_head]
  rfl

theorem book_frame {rest held : List ρ} {u : Use ρ} (h : u.of ∉ rest) :
    book (rest ++ held) u = (book held u).map (rest ++ ·) := by
  have hmem : ∀ x, u.of = x → (x ∈ rest ++ held ↔ x ∈ held) := by
    rintro x rfl
    rw [List.mem_append, or_iff_right h]
  cases u with
  | take x =>
    rw [book, book]
    by_cases hx : x ∈ held
    · rw [if_pos hx, if_pos ((hmem x rfl).mpr hx)]
      rfl
    · rw [if_neg hx, if_neg fun h => hx ((hmem x rfl).mp h), List.append_assoc]
      rfl
  | touch x =>
    rw [book, book]
    by_cases hx : x ∈ held
    · rw [if_pos hx, if_pos ((hmem x rfl).mpr hx)]
      rfl
    · rw [if_neg hx, if_neg fun h => hx ((hmem x rfl).mp h)]
      rfl
  | give x =>
    rw [book, book]
    by_cases hx : x ∈ held
    · rw [if_pos hx, if_pos ((hmem x rfl).mpr hx), List.erase_append_right _ (show x ∉ rest from h)]
      rfl
    · rw [if_neg hx, if_neg fun h => hx ((hmem x rfl).mp h)]
      rfl

/-- The frame rule: what a list of uses does not name does not matter to it. -/
theorem balance_frame {rest held : List ρ} {us : List (Use ρ)} (h : ∀ u ∈ us, u.of ∉ rest) :
    balance (rest ++ held) us = (balance held us).map (rest ++ ·) := by
  induction us generalizing held with
  | nil => rfl
  | cons u us ih =>
    rw [balance, balance, book_frame (h u List.mem_cons_self)]
    cases book held u with
    | none => rfl
    | some held' => exact ih fun v hv => h v (List.mem_cons_of_mem u hv)

/-- Uses that begin with nothing balance in front of anything they do not name. -/
theorem balance_framed {rest left : List ρ} {us : List (Use ρ)} (h : ∀ u ∈ us, u.of ∉ rest)
    (hus : balance [] us = some left) : balance rest us = some (rest ++ left) := by
  have hframe : balance (rest ++ []) us = (balance [] us).map (rest ++ ·) := balance_frame h
  rwa [List.append_nil, hus] at hframe

theorem book_map {f : ρ → σ} (hf : Function.Injective f) (held : List ρ) (u : Use ρ) :
    book (held.map f) (u.map f) = (book held u).map (List.map f) := by
  have hmem : ∀ x, f x ∈ held.map f ↔ x ∈ held := fun x => List.mem_map_of_injective hf
  cases u with
  | take x =>
    rw [Use.map, book, book]
    by_cases hx : x ∈ held
    · rw [if_pos hx, if_pos ((hmem x).mpr hx)]
      rfl
    · rw [if_neg hx, if_neg fun h => hx ((hmem x).mp h), Option.map_some, List.map_append]
      rfl
  | touch x =>
    rw [Use.map, book, book]
    by_cases hx : x ∈ held
    · rw [if_pos hx, if_pos ((hmem x).mpr hx)]
      rfl
    · rw [if_neg hx, if_neg fun h => hx ((hmem x).mp h)]
      rfl
  | give x =>
    rw [Use.map, book, book]
    by_cases hx : x ∈ held
    · rw [if_pos hx, if_pos ((hmem x).mpr hx), Option.map_some, List.map_erase hf]
    · rw [if_neg hx, if_neg fun h => hx ((hmem x).mp h)]
      rfl

/-- Resources may be renamed. -/
theorem balance_map {f : ρ → σ} (hf : Function.Injective f) (held : List ρ) (us : List (Use ρ)) :
    balance (held.map f) (us.map (Use.map f)) = (balance held us).map (List.map f) := by
  induction us generalizing held with
  | nil => rfl
  | cons u us ih =>
    rw [List.map_cons, balance, balance, book_map hf]
    cases book held u with
    | none => rfl
    | some held' => exact ih held'

/-- The rule for a loop: `held i` is what is held in front of turn `i`. -/
theorem balance_loop (held : ℕ → List ρ) {us : ℕ → List (Use ρ)} {n : ℕ}
    (h : ∀ i < n, balance (held i) (us i) = some (held (i+1))) :
    balance (held 0) ((List.range n).flatMap us) = some (held n) := by
  induction n with
  | zero => rfl
  | succ n ih =>
    rw [List.range_succ, List.flatMap_append, List.flatMap_singleton]
    exact balance_seq (ih fun i hi => h i (Nat.lt_succ_of_lt hi)) (h n (Nat.lt_succ_self n))

section Runs

variable {τ ε : Type} (step : τ → ε → τ)

/-- The ledger of a run: the resources of a step are those of the step's number. -/
def ofRun (f : τ → ε → List (Use ρ)) : ℕ → τ → List ε → List (Use (ℕ × ρ))
  | _, _, [] => []
  | i, s, e :: es => (f s e).map (Use.map fun x => (i, x)) ++ ofRun f (i+1) (step s e) es

/-- What the steps of a run leave. -/
def leftOver (g : τ → ε → List ρ) : ℕ → τ → List ε → List (ℕ × ρ)
  | _, _, [] => []
  | i, s, e :: es => (g s e).map (fun x => (i, x)) ++ leftOver g (i+1) (step s e) es

variable {step}

omit [DecidableEq ρ] in
theorem le_of_mem_ofRun {f : τ → ε → List (Use ρ)} {i : ℕ} {s : τ} {es : List ε}
    {u : Use (ℕ × ρ)} (h : u ∈ ofRun step f i s es) : i ≤ u.of.1 := by
  induction es generalizing i s with
  | nil => cases h
  | cons e es ih =>
    obtain h | h := List.mem_append.mp h
    · obtain ⟨v, _, rfl⟩ := List.mem_map.mp h
      cases v <;> exact Nat.le_refl i
    · exact Nat.le_of_succ_le (ih h)

/-- If every step balances by itself and leaves `g`, then so does the run. -/
theorem balance_ofRun {f : τ → ε → List (Use ρ)} {g : τ → ε → List ρ} {C : τ → ε → Prop}
    (h : ∀ s e, C s e → balance [] (f s e) = some (g s e)) {i : ℕ} {s : τ} {es : List ε}
    (hes : Run.Along step C s es) :
    balance [] (ofRun step f i s es) = some (leftOver step g i s es) := by
  induction es generalizing i s with
  | nil => rfl
  | cons e es ih =>
    have hfirst := balance_map (Prod.mk_right_injective i) [] (f s e)
    rw [h s e hes.1] at hfirst
    refine balance_seq hfirst (balance_framed (fun u hu hin => ?_) (ih hes.2))
    obtain ⟨x, _, hx⟩ := List.mem_map.mp hin
    have hle := le_of_mem_ofRun hu
    rw [← hx] at hle
    exact absurd hle (Nat.not_succ_le_self i)

omit [DecidableEq ρ] in
theorem mem_leftOver {g : τ → ε → List ρ} {i : ℕ} {s : τ} {es : List ε} {n : ℕ} {x : ρ} :
    (n, x) ∈ leftOver step g i s es ↔
      ∃ es₁ e es₂, es = es₁ ++ e :: es₂ ∧ n = i+es₁.length ∧ x ∈ g (Run.run step s es₁) e := by
  induction es generalizing i s with
  | nil =>
    refine iff_of_false (by rw [leftOver]; exact List.not_mem_nil) ?_
    rintro ⟨es₁, e, es₂, h, _⟩
    exact absurd h (by simp)
  | cons e es ih =>
    rw [leftOver, List.mem_append, ih]
    constructor
    · rintro (h | ⟨es₁, e', es₂, rfl, rfl, hx⟩)
      · obtain ⟨y, hy, he⟩ := List.mem_map.mp h
        cases he
        exact ⟨[], e, es, rfl, rfl, hy⟩
      · exact ⟨e :: es₁, e', es₂, rfl, by rw [List.length_cons]; omega, hx⟩
    · rintro ⟨es₁, e', es₂, h, rfl, hx⟩
      cases es₁ with
      | nil =>
        cases h
        exact Or.inl (List.mem_map.mpr ⟨x, hx, rfl⟩)
      | cons e₁ es₁ =>
        cases h
        exact Or.inr ⟨es₁, e', es₂, rfl, by rw [List.length_cons]; omega, hx⟩

end Runs

end Ledger
