import Mathlib.Data.List.Basic

/-!
# Programs of calls

A program that works on a store through calls only is a tree: a call, and for every answer how the
program goes on. The same program runs over any implementation of the calls. Two implementations
whose answers agree on the calls that a program makes, in related states, run it alike: with the
same calls, the same answers and the same result.
-/

/-- Programs with calls in `C`, the answer to `c` being in `R c`, and a result in `α`. -/
inductive Prog (C : Type) (R : C → Type) (α : Type) where
  | done (a : α)
  | call (c : C) (next : R c → Prog C R α)

namespace Prog

variable {C : Type} {R : C → Type} {α β σ τ : Type}

def bind : Prog C R α → (α → Prog C R β) → Prog C R β
  | done a, k => k a
  | call c next, k => call c fun r => (next r).bind k

instance : Monad (Prog C R) where
  pure := done
  bind := bind

theorem bind_done (p : Prog C R α) : p.bind done = p := by
  induction p with
  | done a => rfl
  | call c next ih => exact congrArg _ (funext ih)

theorem bind_bind {γ : Type} (p : Prog C R α) (k : α → Prog C R β) (l : β → Prog C R γ) :
    (p.bind k).bind l = p.bind fun a => (k a).bind l := by
  induction p with
  | done a => rfl
  | call c next ih => exact congrArg _ (funext ih)

instance : LawfulMonad (Prog C R) :=
  LawfulMonad.mk' _ bind_done (fun _ _ => rfl) bind_bind

/-- One call, whose answer is the result. -/
def perform (c : C) : Prog C R (R c) := call c done

/-- The result of a program and the state it leaves. -/
def exec (impl : (c : C) → σ → R c × σ) : Prog C R α → σ → α × σ
  | done a, s => (a, s)
  | call c next, s => (next (impl c s).1).exec impl (impl c s).2

/-- The calls a program makes, with their answers. -/
def trace (impl : (c : C) → σ → R c × σ) : Prog C R α → σ → List (Σ c, R c)
  | done _, _ => []
  | call c next, s => ⟨c, (impl c s).1⟩ :: (next (impl c s).1).trace impl (impl c s).2

/-- Every call of the program meets `P`, as long as the answers meet `Q`, and then its result meets
`post`. -/
def Meets (P : C → Prop) (Q : (c : C) → R c → Prop) (post : α → Prop) : Prog C R α → Prop
  | done a => post a
  | call c next => P c ∧ ∀ r, Q c r → (next r).Meets P Q post

variable {P : C → Prop} {Q : (c : C) → R c → Prop} {post : α → Prop} {post' : β → Prop}

theorem Meets.bind {p : Prog C R α} {k : α → Prog C R β} (hp : p.Meets P Q post)
    (hk : ∀ a, post a → (k a).Meets P Q post') : (p >>= k).Meets P Q post' := by
  induction p with
  | done a => exact hk a hp
  | call c next ih => exact ⟨hp.1, fun r hr => ih r (hp.2 r hr)⟩

/-- A call, and how the program goes on. -/
theorem Meets.perform {c : C} {k : R c → Prog C R β} (hc : P c)
    (hk : ∀ r, Q c r → (k r).Meets P Q post') : (Prog.perform c >>= k).Meets P Q post' := ⟨hc, hk⟩

/-! A program behind another one goes on in the state that the first one left. -/

theorem exec_bind (impl : (c : C) → σ → R c × σ) (p : Prog C R α) (k : α → Prog C R β) (s : σ) :
    (p >>= k).exec impl s = (k (p.exec impl s).1).exec impl (p.exec impl s).2 := by
  induction p generalizing s with
  | done a => rfl
  | call c next ih => exact ih _ _

theorem trace_bind (impl : (c : C) → σ → R c × σ) (p : Prog C R α) (k : α → Prog C R β) (s : σ) :
    (p >>= k).trace impl s =
      p.trace impl s ++ (k (p.exec impl s).1).trace impl (p.exec impl s).2 := by
  induction p generalizing s with
  | done a => rfl
  | call c next ih => exact congrArg _ (ih _ _)

/-- What the calls of a program keep, the program keeps. -/
theorem Meets.invariant {impl : (c : C) → σ → R c × σ} {I : σ → Prop}
    (hstep : ∀ c s, P c → I s → Q c (impl c s).1 ∧ I (impl c s).2) {p : Prog C R α}
    (hp : p.Meets P Q post) {s : σ} (hs : I s) :
    post (p.exec impl s).1 ∧ I (p.exec impl s).2 ∧ ∀ e ∈ p.trace impl s, P e.1 := by
  induction p generalizing s with
  | done a => exact ⟨hp, hs, fun e he => by cases he⟩
  | call c next ih =>
    obtain ⟨hq, hinv⟩ := hstep c s hp.1 hs
    obtain ⟨hpost, hend, htrace⟩ := ih _ (hp.2 _ hq) hinv
    exact ⟨hpost, hend, List.forall_mem_cons.mpr ⟨hp.1, htrace⟩⟩

/-- A program runs alike over two implementations that answer its calls alike. -/
theorem Meets.agree {impl : (c : C) → σ → R c × σ} {spec : (c : C) → τ → R c × τ}
    {rel : σ → τ → Prop}
    (hstep : ∀ c s t, P c → rel s t → (impl c s).1 = (spec c t).1 ∧ Q c (impl c s).1 ∧
      rel (impl c s).2 (spec c t).2)
    {p : Prog C R α} (hp : p.Meets P Q post) {s : σ} {t : τ} (hst : rel s t) :
    p.trace impl s = p.trace spec t ∧ (p.exec impl s).1 = (p.exec spec t).1 ∧
      post (p.exec impl s).1 ∧ rel (p.exec impl s).2 (p.exec spec t).2 := by
  induction p generalizing s t with
  | done a => exact ⟨rfl, rfl, hp, hst⟩
  | call c next ih =>
    obtain ⟨hanswer, hq, hrel⟩ := hstep c s t hp.1 hst
    have hnext := ih _ (hp.2 _ hq) hrel
    simp only [trace, exec]
    rw [← hanswer]
    exact ⟨congrArg _ hnext.1, hnext.2⟩

end Prog
