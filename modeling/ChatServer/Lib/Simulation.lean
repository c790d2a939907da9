import ChatServer.Lib.Run

/-!
# Simulations between runs

One system is simulated by another if every step of the first is a run, possibly empty, of the
second. What a run lets out on its way is its trace. The two rules are the forward simulation,
where the trace of the first system is what the second one runs on, the lockstep, where both take
the same events and let out the same, and the erasure, where a run is compared with the run on those
of its events that count.
-/

namespace Run

variable {σ τ ε δ ω : Type} (step : σ → ε → σ)

/-- What a run lets out, `f` being what one step does. -/
def trace (f : σ → ε → List ω) : σ → List ε → List ω
  | _, [] => []
  | s, e :: es => f s e ++ trace f (step s e) es

variable {step}

theorem trace_append (f : σ → ε → List ω) (s : σ) (es es' : List ε) :
    trace step f s (es ++ es') = trace step f s es ++ trace step f (run step s es) es' := by
  induction es generalizing s with
  | nil => rfl
  | cons e es ih =>
    rw [List.cons_append, trace, trace, ih, List.append_assoc]
    rfl

/-- What a run lets out, some step has let out. -/
theorem mem_trace {f : σ → ε → List ω} {s : σ} {es : List ε} {x : ω} :
    x ∈ trace step f s es ↔ ∃ es₁ e es₂, es = es₁ ++ e :: es₂ ∧ x ∈ f (run step s es₁) e := by
  induction es generalizing s with
  | nil => simp [trace]
  | cons e es ih =>
    rw [trace, List.mem_append, ih]
    constructor
    · rintro (h | ⟨es₁, e', es₂, rfl, h⟩)
      · exact ⟨[], e, es, rfl, h⟩
      · exact ⟨e :: es₁, e', es₂, rfl, h⟩
    · rintro ⟨es₁, e', es₂, heq, h⟩
      cases es₁ with
      | nil =>
        obtain ⟨rfl, rfl⟩ := List.cons.inj heq
        exact Or.inl h
      | cons e₁ es₁ =>
        obtain ⟨rfl, rfl⟩ := List.cons.inj heq
        exact Or.inr ⟨es₁, e', es₂, rfl, h⟩

theorem along_imp {C D : σ → ε → Prop} (h : ∀ s e, C s e → D s e) {s : σ} {es : List ε}
    (hes : Along step C s es) : Along step D s es := by
  induction es generalizing s with
  | nil => trivial
  | cons e es ih => exact ⟨h s e hes.1, ih hes.2⟩

/-! A run on renamed events is a run of the system that renames them itself. -/

theorem run_map (g : δ → ε) (s : σ) (ds : List δ) :
    run step s (ds.map g) = run (fun s d => step s (g d)) s ds := List.foldl_map

theorem trace_map (g : δ → ε) (f : σ → ε → List ω) (s : σ) (ds : List δ) :
    trace step f s (ds.map g) = trace (fun s d => step s (g d)) (fun s d => f s (g d)) s ds := by
  induction ds generalizing s with
  | nil => rfl
  | cons d ds ih => rw [List.map_cons, trace, trace, ih]

theorem along_map {g : δ → ε} {C : σ → ε → Prop} {s : σ} {ds : List δ} :
    Along step C s (ds.map g) ↔ Along (fun s d => step s (g d)) (fun s d => C s (g d)) s ds := by
  induction ds generalizing s with
  | nil => exact Iff.rfl
  | cons d ds ih => exact and_congr_right fun _ => ih

/-- Forward simulation: if every step of the first system from related states is matched by the
second one running on what the step lets out, then so is every run. -/
theorem forward {step' : τ → δ → τ} {f : σ → ε → List δ} {R : σ → τ → Prop} {C : σ → ε → Prop}
    (h : ∀ s t e, R s t → C s e → R (step s e) (run step' t (f s e)))
    {s : σ} {t : τ} {es : List ε} (hst : R s t) (hes : Along step C s es) :
    R (run step s es) (run step' t (trace step f s es)) := by
  induction es generalizing s t with
  | nil => exact hst
  | cons e es ih =>
    rw [trace, run_append]
    exact ih (h s t e hst hes.1) hes.2

/-- If moreover the second system may take each of these steps, it may take the whole trace. -/
theorem forward_along {step' : τ → δ → τ} {f : σ → ε → List δ} {R : σ → τ → Prop}
    {C : σ → ε → Prop} {C' : τ → δ → Prop}
    (h : ∀ s t e, R s t → C s e →
      Along step' C' t (f s e) ∧ R (step s e) (run step' t (f s e)))
    {s : σ} {t : τ} {es : List ε} (hst : R s t) (hes : Along step C s es) :
    Along step' C' t (trace step f s es) := by
  induction es generalizing s t with
  | nil => trivial
  | cons e es ih =>
    obtain ⟨halong, hrel⟩ := h s t e hst hes.1
    exact along_append.mpr ⟨halong, ih hrel hes.2⟩

/-- Lockstep: two systems that let out the same on the same event, from related states to related
states, let out the same in every run. -/
theorem lockstep (step' : τ → δ → τ) {g : ε → δ} {f : σ → ε → List ω} {f' : τ → δ → List ω}
    {R : σ → τ → Prop} {C : σ → ε → Prop}
    (h : ∀ s t e, R s t → C s e → f s e = f' t (g e) ∧ R (step s e) (step' t (g e)))
    {s : σ} {t : τ} {es : List ε} (hst : R s t) (hes : Along step C s es) :
    trace step f s es = trace step' f' t (es.map g) ∧
      R (run step s es) (run step' t (es.map g)) := by
  induction es generalizing s t with
  | nil => exact ⟨rfl, hst⟩
  | cons e es ih =>
    obtain ⟨hout, hrel⟩ := h s t e hst hes.1
    obtain ⟨htrace, hrun⟩ := ih hrel hes.2
    exact ⟨by rw [trace, List.map_cons, trace, hout, htrace], hrun⟩

/-- Two things let out in one run are the same if they are in every step, where an invariant may be
used. -/
theorem trace_congr {f f' : σ → ε → List ω} {I : σ → Prop} {C : σ → ε → Prop}
    (h : ∀ s e, I s → C s e → f s e = f' s e ∧ I (step s e)) {s : σ} {es : List ε} (h0 : I s)
    (hes : Along step C s es) : trace step f s es = trace step f' s es := by
  induction es generalizing s with
  | nil => rfl
  | cons e es ih =>
    obtain ⟨hout, hnext⟩ := h s e h0 hes.1
    rw [trace, trace, hout, ih hnext hes.2]

/-- Erasure: a run on what the steps keep of their events ends where the whole run does, if every
step is what it keeps of its event. -/
theorem run_trace {f : σ → ε → List ε} (h : ∀ s e, run step s (f s e) = step s e) (s : σ)
    (es : List ε) : run step s (trace step f s es) = run step s es :=
  (forward (R := Eq) (C := fun _ _ => True)
    (fun s _ e hst _ => by rw [← hst, h s e]) rfl
    (along_of_forall (fun _ _ _ => trivial) s)).symm

/-- What such a run lets out is what the steps that were kept let out in the whole run. -/
theorem trace_trace {f : σ → ε → List ε} {g g' : σ → ε → List ω}
    (h : ∀ s e, run step s (f s e) = step s e) (hg : ∀ s e, trace step g s (f s e) = g' s e)
    (s : σ) (es : List ε) : trace step g s (trace step f s es) = trace step g' s es := by
  induction es generalizing s with
  | nil => rfl
  | cons e es ih => rw [trace, trace, trace_append, hg, h, ih]

end Run
