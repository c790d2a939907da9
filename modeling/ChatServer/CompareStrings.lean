import ChatServer.Handler.Auth
import ChatServer.Lib.Buffer
import Mathlib.Computability.StateTransition

/-!
# Comparing strings in memory

`compare_strings` as it runs: three loops over two cursors, which read the bytes of two strings one
by one. A read outside of the memory that belongs to a string is undefined, and so is `isspace` of
a `char` that is not an ASCII character. The call comes to its end without either, whatever stands
behind the strings, and returns what `compareStrings` computes from the strings.
-/

namespace ChatServer

open CLib StateTransition

/-- A call of `compare_strings`: before the condition of one of its three loops, with the cursors
`i` and `j`, or at its end. -/
inductive Comparison where
  | both (i j : ℕ)
  | first (i j : ℕ)
  | second (i j : ℕ)
  | returned (result : Bool)
  | undefined
  deriving DecidableEq

namespace Comparison

/-- `isspace` of a `char`, for the values that an `unsigned char` has as well. -/
def isspaceChar (c : UInt8) : Option Bool := if c < 128 then some (isspace c) else none

/-- The condition of a loop with the body of the loop, or with the way to the next one. `none` is a
read outside of the memory, or `isspace` of another value. -/
def turn (str1 str2 : List UInt8) : Comparison → Option Comparison
  | both i j => do
    if (← str1[i]?) = 0 then return first i j
    if (← str2[j]?) = 0 then return first i j
    if ← isspaceChar (← str1[i]?) then return both (i+1) j
    if ← isspaceChar (← str2[j]?) then return both i (j+1)
    if (← str1[i]?) ≠ (← str2[j]?) then return returned false
    return both (i+1) (j+1)
  | first i j => do
    if ← isspaceChar (← str1[i]?) then return first (i+1) j
    return second i j
  | second i j => do
    if ← isspaceChar (← str2[j]?) then return second i (j+1)
    if (← str1[i]?) ≠ 0 then return returned false
    return returned ((← str2[j]?) = 0)
  | returned _ => none
  | undefined => none

/-- One turn of a call that has not ended. -/
def step (str1 str2 : List UInt8) : Comparison → Option Comparison
  | returned _ => none
  | undefined => none
  | c => some ((turn str1 str2 c).getD undefined)

/-- `compare_strings(str1, str2)`: where the call ends, if it ends. -/
def call (str1 str2 : List UInt8) : Part Comparison := eval (step str1 str2) (both 0 0)

/-- The cursors of a call that is defined so far are at most at the given indices. -/
def Within (n m : ℕ) : Comparison → Prop
  | both i j | first i j | second i j => i ≤ n ∧ j ≤ m
  | returned _ => True
  | undefined => False

end Comparison

/-- A string of ASCII characters. -/
structure AsciiString where
  str : Str
  ascii : ∀ c ∈ str, c ≠ 0 ∧ c < 128

namespace Comparison

theorem isspaceChar_zero : isspaceChar 0 = some false := by decide

section Steps

variable {a b : AsciiString} {i j : ℕ} {x y : UInt8} {s t : Str} (m₁ m₂ : List UInt8)

theorem isspaceChar_rest (h : Rest a.str i (x :: s)) : isspaceChar x = some (isspace x) :=
  if_pos (a.ascii x h.mem).2

theorem step_both_nil (h : Rest a.str i []) :
    step (a.str ++ 0 :: m₁) (b.str ++ 0 :: m₂) (both i j) = some (first i j) := by
  simp [step, turn, h.getElem?_nil]

theorem step_both_nil_right (h₁ : Rest a.str i (x :: s)) (h₂ : Rest b.str j []) :
    step (a.str ++ 0 :: m₁) (b.str ++ 0 :: m₂) (both i j) = some (first i j) := by
  simp [step, turn, h₁.getElem?_cons, h₂.getElem?_nil]

/-- In front of two characters. -/
theorem step_both_cons (h₁ : Rest a.str i (x :: s)) (h₂ : Rest b.str j (y :: t)) :
    step (a.str ++ 0 :: m₁) (b.str ++ 0 :: m₂) (both i j) =
      some (if isspace x then both (i+1) j
        else if isspace y then both i (j+1)
        else if x ≠ y then returned false
        else both (i+1) (j+1)) := by
  have hx := (a.ascii x h₁.mem).1
  have hy := (b.ascii y h₂.mem).1
  simp only [step, turn, h₁.getElem?_cons, h₂.getElem?_cons, isspaceChar_rest h₁,
    isspaceChar_rest h₂, Option.bind_eq_bind, Option.bind_some, if_neg hx, if_neg hy]
  split_ifs <;> rfl

theorem step_first_nil (h : Rest a.str i []) :
    step (a.str ++ 0 :: m₁) (b.str ++ 0 :: m₂) (first i j) = some (second i j) := by
  simp [step, turn, h.getElem?_nil, isspaceChar_zero]

theorem step_first_cons (h : Rest a.str i (x :: s)) :
    step (a.str ++ 0 :: m₁) (b.str ++ 0 :: m₂) (first i j) =
      some (if isspace x then first (i+1) j else second i j) := by
  simp only [step, turn, h.getElem?_cons, isspaceChar_rest h, Option.bind_eq_bind,
    Option.bind_some]
  split_ifs <;> rfl

theorem step_second_nil (h₁ : Rest a.str i s) (h₂ : Rest b.str j []) :
    step (a.str ++ 0 :: m₁) (b.str ++ 0 :: m₂) (second i j) = some (returned s.isEmpty) := by
  cases s with
  | nil => simp [step, turn, h₁.getElem?_nil, h₂.getElem?_nil, isspaceChar_zero]
  | cons x s =>
    have hx := (a.ascii x h₁.mem).1
    simp [step, turn, h₁.getElem?_cons, h₂.getElem?_nil, isspaceChar_zero, hx]

theorem step_second_cons (h₁ : Rest a.str i s) (h₂ : Rest b.str j (y :: t)) :
    step (a.str ++ 0 :: m₁) (b.str ++ 0 :: m₂) (second i j) =
      some (if isspace y then second i (j+1) else returned false) := by
  have hy := (b.ascii y h₂.mem).1
  cases s with
  | nil =>
    simp only [step, turn, h₁.getElem?_nil, h₂.getElem?_cons, isspaceChar_rest h₂,
      Option.bind_eq_bind, Option.bind_some]
    split_ifs <;> simp [hy]
  | cons x s =>
    have hx := (a.ascii x h₁.mem).1
    simp only [step, turn, h₁.getElem?_cons, h₂.getElem?_cons, isspaceChar_rest h₂,
      Option.bind_eq_bind, Option.bind_some, if_pos hx]
    split_ifs <;> rfl

end Steps

section Runs

variable {a b : AsciiString} {m₁ m₂ : List UInt8}

/-- No turn moves a cursor behind a terminator, and every turn is defined. -/
theorem within_step {c c' : Comparison} (hc : c.Within a.str.length b.str.length)
    (h : step (a.str ++ 0 :: m₁) (b.str ++ 0 :: m₂) c = some c') :
    c'.Within a.str.length b.str.length := by
  cases c with
  | both i j =>
    obtain ⟨s, h₁⟩ := Rest.exists_of_le hc.1
    obtain ⟨t, h₂⟩ := Rest.exists_of_le hc.2
    cases s with
    | nil =>
      rw [step_both_nil m₁ m₂ h₁] at h
      obtain rfl := Option.some.inj h
      exact hc
    | cons x s =>
      cases t with
      | nil =>
        rw [step_both_nil_right m₁ m₂ h₁ h₂] at h
        obtain rfl := Option.some.inj h
        exact hc
      | cons y t =>
        rw [step_both_cons m₁ m₂ h₁ h₂] at h
        obtain rfl := Option.some.inj h
        split_ifs
        · exact ⟨h₁.lt, hc.2⟩
        · exact ⟨hc.1, h₂.lt⟩
        · trivial
        · exact ⟨h₁.lt, h₂.lt⟩
  | first i j =>
    obtain ⟨s, h₁⟩ := Rest.exists_of_le hc.1
    cases s with
    | nil =>
      rw [step_first_nil m₁ m₂ h₁] at h
      obtain rfl := Option.some.inj h
      exact hc
    | cons x s =>
      rw [step_first_cons m₁ m₂ h₁] at h
      obtain rfl := Option.some.inj h
      split_ifs
      · exact ⟨h₁.lt, hc.2⟩
      · exact hc
  | second i j =>
    obtain ⟨s, h₁⟩ := Rest.exists_of_le hc.1
    obtain ⟨t, h₂⟩ := Rest.exists_of_le hc.2
    cases t with
    | nil =>
      rw [step_second_nil m₁ m₂ h₁ h₂] at h
      obtain rfl := Option.some.inj h
      trivial
    | cons y t =>
      rw [step_second_cons m₁ m₂ h₁ h₂] at h
      obtain rfl := Option.some.inj h
      split_ifs
      · exact ⟨hc.1, h₂.lt⟩
      · trivial
  | returned r => cases h
  | undefined => cases h

/-- A call in the first loop goes on as `compareLoop` says: it returns `false`, or comes to the
second loop with the cursors where `compareLoop` leaves them. -/
def Follows (a b : AsciiString) (m₁ m₂ : List UInt8) (c : Comparison) :
    Option (Str × Str) → Prop
  | none => Reaches (step (a.str ++ 0 :: m₁) (b.str ++ 0 :: m₂)) c (returned false)
  | some (s, t) => ∃ i j, Rest a.str i s ∧ Rest b.str j t ∧
    Reaches (step (a.str ++ 0 :: m₁) (b.str ++ 0 :: m₂)) c (first i j)

theorem Follows.head {c c' : Comparison} {o : Option (Str × Str)}
    (hstep : step (a.str ++ 0 :: m₁) (b.str ++ 0 :: m₂) c = some c')
    (h : Follows a b m₁ m₂ c' o) : Follows a b m₁ m₂ c o := by
  cases o with
  | none => exact Relation.ReflTransGen.head hstep h
  | some x =>
    obtain ⟨i, j, hi, hj, hreach⟩ := h
    exact ⟨i, j, hi, hj, Relation.ReflTransGen.head hstep hreach⟩

theorem follows_compareLoop {n : ℕ} {s t : Str} (hn : s.length+t.length ≤ n) {i j : ℕ}
    (h₁ : Rest a.str i s) (h₂ : Rest b.str j t) :
    Follows a b m₁ m₂ (both i j) (compareLoop n s t) := by
  fun_induction compareLoop n s t generalizing i j with
  | case1 n t => exact ⟨i, j, h₁, h₂, .single (step_both_nil m₁ m₂ h₁)⟩
  | case2 n s hs =>
    obtain ⟨x, s, rfl⟩ := List.exists_cons_of_ne_nil hs
    exact ⟨i, j, h₁, h₂, .single (step_both_nil_right m₁ m₂ h₁ h₂)⟩
  | case3 s t hs ht =>
    -- the fuel lasts as long as one of the strings does
    exact absurd (List.length_eq_zero_iff.mp (by omega)) hs
  | case4 n x s y t hx ih =>
    have hstep := step_both_cons m₁ m₂ h₁ h₂
    rw [if_pos hx] at hstep
    exact .head hstep (ih (by simp only [List.length_cons] at hn ⊢; omega) h₁.succ h₂)
  | case5 n x s y t hx hy ih =>
    have hstep := step_both_cons m₁ m₂ h₁ h₂
    rw [if_neg hx, if_pos hy] at hstep
    exact .head hstep (ih (by simp only [List.length_cons] at hn ⊢; omega) h₁ h₂.succ)
  | case6 n x s y t hx hy hne =>
    have hstep := step_both_cons m₁ m₂ h₁ h₂
    rw [if_neg hx, if_neg hy, if_pos hne] at hstep
    exact .single hstep
  | case7 n x s y t hx hy hne ih =>
    have hstep := step_both_cons m₁ m₂ h₁ h₂
    rw [if_neg hx, if_neg hy, if_neg hne] at hstep
    exact .head hstep (ih (by simp only [List.length_cons] at hn ⊢; omega) h₁.succ h₂.succ)

/-- The second loop skips the white space of the first string. -/
theorem reaches_first {s : Str} {i : ℕ} (h : Rest a.str i s) (j : ℕ) :
    ∃ i', Rest a.str i' (s.dropWhile isspace) ∧
      Reaches (step (a.str ++ 0 :: m₁) (b.str ++ 0 :: m₂)) (first i j) (second i' j) := by
  induction s generalizing i with
  | nil => exact ⟨i, h, .single (step_first_nil m₁ m₂ h)⟩
  | cons x s ih =>
    have hstep := @step_first_cons a b i j x s m₁ m₂ h
    by_cases hx : isspace x = true
    · rw [if_pos hx] at hstep
      obtain ⟨i', hi, hreach⟩ := ih h.succ
      rw [List.dropWhile_cons_of_pos hx]
      exact ⟨i', hi, .head hstep hreach⟩
    · rw [if_neg hx] at hstep
      rw [List.dropWhile_cons_of_neg hx]
      exact ⟨i, h, .single hstep⟩

/-- The third loop skips the white space of the second string, and the call returns. -/
theorem reaches_second {s t : Str} {i j : ℕ} (h₁ : Rest a.str i s) (h₂ : Rest b.str j t) :
    Reaches (step (a.str ++ 0 :: m₁) (b.str ++ 0 :: m₂)) (second i j)
      (returned (s.isEmpty && (t.dropWhile isspace).isEmpty)) := by
  induction t generalizing j with
  | nil =>
    rw [List.dropWhile_nil, List.isEmpty_nil, Bool.and_true]
    exact .single (step_second_nil m₁ m₂ h₁ h₂)
  | cons y t ih =>
    have hstep := step_second_cons m₁ m₂ h₁ h₂
    by_cases hy : isspace y = true
    · rw [if_pos hy] at hstep
      rw [List.dropWhile_cons_of_pos hy]
      exact .head hstep (ih h₂.succ)
    · rw [if_neg hy] at hstep
      rw [List.dropWhile_cons_of_neg hy, List.isEmpty_cons, Bool.and_false]
      exact .single hstep

/-- The call computes `compareStrings` of its strings, whatever stands behind them. -/
theorem call_eq (a b : AsciiString) (m₁ m₂ : List UInt8) :
    call (a.str ++ 0 :: m₁) (b.str ++ 0 :: m₂) =
      Part.some (returned (compareStrings a.str b.str)) := by
  have hreach : Reaches (step (a.str ++ 0 :: m₁) (b.str ++ 0 :: m₂)) (both 0 0)
      (returned (compareStrings a.str b.str)) := by
    have hfollows := @follows_compareLoop a b m₁ m₂ (a.str.length+b.str.length) a.str b.str
      le_rfl 0 0 (.start a.str) (.start b.str)
    rw [compareStrings]
    cases hloop : compareLoop (a.str.length+b.str.length) a.str b.str with
    | none =>
      rw [hloop] at hfollows
      exact hfollows
    | some x =>
      rw [hloop] at hfollows
      obtain ⟨i, j, hi, hj, hboth⟩ := hfollows
      obtain ⟨i', hi', hfirst⟩ := @reaches_first a b m₁ m₂ _ i hi j
      exact (hboth.trans hfirst).trans (reaches_second hi' hj)
  exact Part.eq_some_iff.mpr (mem_eval.mpr ⟨hreach, rfl⟩)

/-- The call of a login for its arrays, if their strings end inside of them. -/
theorem call_bytes {n m : ℕ} {x : CharArray n} {y : CharArray m} (hx : x.Text) (hy : y.Text)
    (hxs : ∀ c ∈ x.str, c < 128) (hys : ∀ c ∈ y.str, c < 128) :
    call x.bytes y.bytes = Part.some (returned (compareStrings x.str y.str)) := by
  have hcall := call_eq ⟨x.str, fun c hc => ⟨fun h0 => hx.clean (h0 ▸ hc), hxs c hc⟩⟩
    ⟨y.str, fun c hc => ⟨fun h0 => hy.clean (h0 ▸ hc), hys c hc⟩⟩
    (List.replicate (n-x.str.length-1) 0) (List.replicate (m-y.str.length-1) 0)
  rw [hx.bytes_eq, hy.bytes_eq]
  exact hcall

/-- Wherever a call has come to, it is defined and its cursors are not behind the terminators. -/
theorem within_of_reaches {c : Comparison}
    (h : Reaches (step (a.str ++ 0 :: m₁) (b.str ++ 0 :: m₂)) (both 0 0) c) :
    c.Within a.str.length b.str.length := by
  induction h with
  | refl => exact ⟨Nat.zero_le _, Nat.zero_le _⟩
  | tail _ hstep ih => exact within_step ih hstep

end Runs

end Comparison

/-- In every memory that holds two strings, also if it ends with their terminators, a call of
`compare_strings` comes to its end, is defined all the way with its cursors not behind the
terminators, and returns whether the strings are equal without their white space. That it returns
`true` is an equivalence of strings. -/
theorem compare_strings_exact :
    (∀ (a b : AsciiString) (m₁ m₂ : List UInt8),
      Comparison.call (a.str ++ 0 :: m₁) (b.str ++ 0 :: m₂) =
          Part.some (.returned (decide (squeeze a.str = squeeze b.str))) ∧
        ∀ c, Reaches (Comparison.step (a.str ++ 0 :: m₁) (b.str ++ 0 :: m₂)) (.both 0 0) c →
          c.Within a.str.length b.str.length) ∧
    Equivalence fun a b : AsciiString =>
      Comparison.call (a.str ++ [0]) (b.str ++ [0]) = Part.some (.returned true) := by
  have hcall : ∀ (a b : AsciiString) (m₁ m₂ : List UInt8),
      Comparison.call (a.str ++ 0 :: m₁) (b.str ++ 0 :: m₂) =
        Part.some (.returned (decide (squeeze a.str = squeeze b.str))) := by
    intro a b m₁ m₂
    have hresult : compareStrings a.str b.str = decide (squeeze a.str = squeeze b.str) := by
      rw [Bool.eq_iff_iff, compareStrings_iff, decide_eq_true_iff]
    rw [Comparison.call_eq, hresult]
  have htrue : ∀ a b : AsciiString,
      Comparison.call (a.str ++ [0]) (b.str ++ [0]) = Part.some (.returned true) ↔
        squeeze a.str = squeeze b.str := by
    intro a b
    rw [hcall, Part.some_inj, Comparison.returned.injEq, decide_eq_true_iff]
  refine ⟨fun a b m₁ m₂ => ⟨hcall a b m₁ m₂, fun c => Comparison.within_of_reaches⟩, ?_, ?_, ?_⟩
  · intro a
    exact (htrue a a).mpr rfl
  · intro a b h
    exact (htrue b a).mpr ((htrue a b).mp h).symm
  · intro a b c h₁ h₂
    exact (htrue a c).mpr (((htrue a b).mp h₁).trans ((htrue b c).mp h₂))

end ChatServer
