import Mathlib.Data.List.Basic

/-!
# Runs of a step function

A run is a list of events folded through a step function. `Along C` says that every
step of the run meets the condition `C` on the state before it and its event; an
invariant that such steps keep holds at the end of every such run, and therefore
in every state on the way.
-/

namespace Run

variable {σ ε : Type} (step : σ → ε → σ)

/-- The state a run ends in. -/
def run (s : σ) (es : List ε) : σ := es.foldl step s

theorem run_append (s : σ) (es es' : List ε) :
    run step s (es ++ es') = run step (run step s es) es' := List.foldl_append

/-- Every step of the run meets `C` in the state it is taken from. -/
def Along (C : σ → ε → Prop) : σ → List ε → Prop
  | _, [] => True
  | s, e :: es => C s e ∧ Along C (step s e) es

instance Along.decidable (C : σ → ε → Prop) [∀ s e, Decidable (C s e)] :
    ∀ s es, Decidable (Along step C s es)
  | _, [] => isTrue trivial
  | s, e :: es =>
    have := Along.decidable C (step s e) es
    inferInstanceAs (Decidable (C s e ∧ Along step C (step s e) es))

variable {step}

theorem along_of_forall {C : σ → ε → Prop} {es : List ε} (h : ∀ s, ∀ e ∈ es, C s e) (s : σ) :
    Along step C s es := by
  induction es generalizing s with
  | nil => trivial
  | cons e es ih =>
    exact ⟨h s e List.mem_cons_self, ih (fun s e he => h s e (List.mem_cons_of_mem _ he)) _⟩

theorem along_append {C : σ → ε → Prop} {s : σ} {es es' : List ε} :
    Along step C s (es ++ es') ↔ Along step C s es ∧ Along step C (run step s es) es' := by
  induction es generalizing s with
  | nil => exact ⟨fun h => ⟨trivial, h⟩, fun h => h.2⟩
  | cons e es ih =>
    rw [List.cons_append, Along, Along, ih, and_assoc]
    rfl

theorem along_and {C D : σ → ε → Prop} {s : σ} {es : List ε} :
    Along step (fun s e => C s e ∧ D s e) s es ↔ Along step C s es ∧ Along step D s es := by
  induction es generalizing s with
  | nil => exact ⟨fun h => ⟨h, h⟩, fun h => h.1⟩
  | cons e es ih =>
    rw [Along, Along, Along, ih]
    exact and_and_and_comm

/-- The invariant rule: what the first state has and every permitted step keeps,
the last state has. -/
theorem invariant {I : σ → Prop} {C : σ → ε → Prop}
    (hstep : ∀ s e, I s → C s e → I (step s e)) {s : σ} {es : List ε}
    (h0 : I s) (hes : Along step C s es) : I (run step s es) := by
  induction es generalizing s with
  | nil => exact h0
  | cons e es ih => exact ih (hstep s e h0 hes.1) hes.2

end Run
