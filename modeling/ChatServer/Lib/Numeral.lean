import ChatServer.Lib.CString
import Mathlib.Tactic.NormNum

/-!
# Numerals

The number that a run of digits stands for, and `strtol` in base ten. What `%d` prints is read back
as the number that was printed.
-/

namespace CLib

/-- The number with the digits `ds`. -/
def numeral (ds : Str) : ℕ := ds.foldl (fun acc b => acc*10+(b.toNat-48)) 0

theorem toNat_digit {c : Char} (h : c.isDigit = true) :
    48 ≤ c.toNat ∧ c.toNat ≤ 57 ∧ c.toNat.toUInt8.toNat = c.toNat := by
  rw [Char.isDigit, Bool.and_eq_true, decide_eq_true_eq, decide_eq_true_eq] at h
  have h48 : 48 ≤ c.toNat := h.1
  have h57 : c.toNat ≤ 57 := h.2
  refine ⟨h48, h57, ?_⟩
  rw [Nat.toUInt8, UInt8.toNat_ofNat']
  omega

theorem isdigit_of_mem_decimal {n : ℕ} {b : UInt8} (h : b ∈ decimal n) : isdigit b = true := by
  obtain ⟨c, hc, rfl⟩ := List.mem_map.mp h
  obtain ⟨h48, h57, hb⟩ := toNat_digit (Nat.isDigit_of_mem_toDigits (by decide) (by decide) hc)
  rw [isdigit, Bool.and_eq_true, decide_eq_true_eq, decide_eq_true_eq, UInt8.le_iff_toNat_le,
    UInt8.le_iff_toNat_le, hb]
  exact ⟨h48, h57⟩

theorem numeral_decimal (n : ℕ) : numeral (decimal n) = n := by
  have hfold : ∀ (cs : List Char) (acc : ℕ), (∀ c ∈ cs, c.isDigit = true) →
      (cs.map fun c => c.toNat.toUInt8).foldl (fun acc b => acc*10+(b.toNat-48)) acc =
        Nat.ofDigitChars 10 cs acc := by
    intro cs
    induction cs with
    | nil => exact fun _ _ => rfl
    | cons c cs ih =>
      intro acc hcs
      obtain ⟨hc, hcs⟩ := List.forall_mem_cons.mp hcs
      rw [List.map_cons, List.foldl_cons, ih _ hcs, (toNat_digit hc).2.2, Nat.ofDigitChars_cons,
        Nat.mul_comm]
      rfl
  have hdigits : ∀ c ∈ Nat.toDigits 10 n, c.isDigit = true :=
    fun c hc => Nat.isDigit_of_mem_toDigits (by decide) (by decide) hc
  rw [numeral, show decimal n = (Nat.toDigits 10 n).map fun c => c.toNat.toUInt8 from rfl,
    hfold _ _ hdigits, Nat.ofDigitChars_ten_toDigits]

theorem decimal_nat_ne_nil (n : ℕ) : decimal n ≠ [] := by
  simp [decimal, Nat.toDigits_ne_nil]

theorem decimal_nat_inj {n m : ℕ} (h : decimal n = decimal m) : n = m := by
  rw [← numeral_decimal n, h, numeral_decimal]

/-- A byte that a number is printed with. -/
theorem mem_decimal {n : ℤ} {b : UInt8} (h : b ∈ decimal n) : b = 45 ∨ isdigit b = true := by
  cases n with
  | ofNat n => exact Or.inr (isdigit_of_mem_decimal h)
  | negSucc n =>
    obtain rfl | h := List.mem_cons.mp h
    · exact Or.inl rfl
    · exact Or.inr (isdigit_of_mem_decimal (n := n+1) h)

theorem decimal_inj {n m : ℤ} (h : decimal n = decimal m) : n = m := by
  -- the sign is not a digit
  have hsign : ∀ n m : ℕ, decimal (.negSucc n) ≠ decimal (.ofNat m) := by
    intro n m he
    have hmem : (45 : UInt8) ∈ decimal (m : ℤ) := by
      rw [← Int.ofNat_eq_natCast, ← he]
      exact List.mem_cons_self
    exact absurd (isdigit_of_mem_decimal hmem) (by decide)
  cases n with
  | ofNat n =>
    cases m with
    | ofNat m => rw [decimal_nat_inj h]
    | negSucc m => exact absurd h.symm (hsign m n)
  | negSucc n =>
    cases m with
    | ofNat m => exact absurd h (hsign n m)
    | negSucc m =>
      have htail : decimal ((n+1 : ℕ) : ℤ) = decimal ((m+1 : ℕ) : ℤ) := (List.cons_eq_cons.mp h).2
      rw [Nat.succ_injective (decimal_nat_inj htail)]

/-- What `strtol` returns, where it leaves the end pointer, and whether `errno` is `ERANGE`. -/
structure Conversion where
  value : Int
  rest : Str
  outOfRange : Bool
  deriving DecidableEq

/-- An optional sign. -/
def readSign : Str → Bool × Str
  | 45 :: s => (true, s)
  | 43 :: s => (false, s)
  | s => (false, s)

/-- A 64-bit `long` with the sign and the size of a number, or the nearest one. -/
def toLong (negative : Bool) (n : ℕ) : Int × Bool :=
  if negative then if 2^63 < n then (-2^63, true) else (-n, false)
  else if 2^63 ≤ n then (2^63-1, true) else (n, false)

/-- `strtol(s, &end, 10)`: blanks, an optional sign and the longest run of digits. Without a digit
nothing is converted, and `end` is `s`. -/
def strtol (s : Str) : Conversion :=
  let (negative, body) := readSign (s.dropWhile isspace)
  let ds := body.takeWhile isdigit
  if ds = [] then ⟨0, s, false⟩
  else ⟨(toLong negative (numeral ds)).1, body.dropWhile isdigit, (toLong negative (numeral ds)).2⟩

def signs : Bool → List Str
  | true => [[45]]
  | false => [[], [43]]

/-- `s` is a numeral for `n`, or for `-n`, with blanks in front of it. -/
def IsNumeral (s : Str) (negative : Bool) (n : ℕ) : Prop :=
  ∃ blanks sign ds, s = blanks ++ (sign ++ ds) ∧ (∀ b ∈ blanks, isspace b = true) ∧
    sign ∈ signs negative ∧ ds ≠ [] ∧ (∀ b ∈ ds, isdigit b = true) ∧ numeral ds = n

theorem not_isspace_of_isdigit {b : UInt8} (h : isdigit b = true) : ¬ isspace b = true := by
  rw [isdigit, Bool.and_eq_true, decide_eq_true_eq, decide_eq_true_eq] at h
  rw [isspace, Bool.or_eq_true, beq_iff_eq, Bool.and_eq_true, decide_eq_true_eq,
    decide_eq_true_eq]
  have h48 : 48 ≤ b.toNat := h.1
  rintro (rfl | ⟨_, h13⟩)
  · exact absurd h48 (by decide)
  · have : b.toNat ≤ 13 := h13
    omega

/-- A sign is read off, and digits have none. -/
theorem readSign_append {negative : Bool} {sign ds : Str}
    (hsign : sign ∈ signs negative) (hne : ds ≠ []) (hds : ∀ b ∈ ds, isdigit b = true) :
    (sign ++ ds).dropWhile isspace = sign ++ ds ∧ readSign (sign ++ ds) = (negative, ds) := by
  obtain ⟨b, ds, rfl⟩ := List.exists_cons_of_ne_nil hne
  have hb : isdigit b = true := hds b List.mem_cons_self
  cases negative with
  | true =>
    obtain rfl := List.mem_singleton.mp hsign
    exact ⟨rfl, rfl⟩
  | false =>
    have hsign : sign = [] ∨ sign = [43] := by simpa [signs] using hsign
    obtain rfl | rfl := hsign
    · refine ⟨List.dropWhile_cons_of_neg (not_isspace_of_isdigit hb), ?_⟩
      unfold readSign
      split
      · rename_i heq
        rw [(List.cons_eq_cons.mp heq).1] at hb
        exact absurd hb (by decide)
      · rename_i heq
        rw [(List.cons_eq_cons.mp heq).1] at hb
        exact absurd hb (by decide)
      · rfl
    · exact ⟨rfl, rfl⟩

/-- What is behind a sign that was read. -/
theorem readSign_eq (s : Str) : ∃ sign, s = sign ++ (readSign s).2 ∧
    sign ∈ signs (readSign s).1 := by
  unfold readSign
  split
  · exact ⟨[45], rfl, by simp [signs]⟩
  · exact ⟨[43], rfl, by simp [signs]⟩
  · exact ⟨[], rfl, by simp [signs]⟩

/-- A numeral is converted whole. -/
theorem IsNumeral.strtol_eq {s : Str} {negative : Bool} {n : ℕ} (h : IsNumeral s negative n) :
    strtol s = ⟨(toLong negative n).1, [], (toLong negative n).2⟩ := by
  obtain ⟨blanks, sign, ds, rfl, hblanks, hsign, hne, hds, hn⟩ := h
  obtain ⟨hdrop, hread⟩ := readSign_append hsign hne hds
  have htake : ds.takeWhile isdigit = ds := List.takeWhile_eq_self_iff.mpr hds
  have hrest : ds.dropWhile isdigit = [] := List.dropWhile_eq_nil_iff.mpr hds
  rw [strtol, List.dropWhile_append_of_pos hblanks, hdrop, hread]
  dsimp only
  rw [htake, hrest, if_neg hne, hn]

theorem IsNumeral.ne_nil {s : Str} {negative : Bool} {n : ℕ} (h : IsNumeral s negative n) :
    s ≠ [] := by
  obtain ⟨blanks, sign, ds, rfl, _, _, hne, _, _⟩ := h
  simp [hne]

/-- If something was converted and nothing is left, it was a numeral. -/
theorem exists_numeral_of_strtol {s : Str} (hne : (strtol s).rest ≠ s)
    (hrest : (strtol s).rest = []) : ∃ negative n, IsNumeral s negative n := by
  obtain ⟨sign, hbody, hsign⟩ := readSign_eq (s.dropWhile isspace)
  rw [strtol] at hne hrest
  dsimp only at hne hrest
  by_cases hds : (readSign (s.dropWhile isspace)).2.takeWhile isdigit = []
  · rw [if_pos hds] at hne
    exact absurd rfl hne
  · rw [if_neg hds] at hrest
    refine ⟨_, _, s.takeWhile isspace, sign, (readSign (s.dropWhile isspace)).2, ?_, ?_, hsign, ?_,
      ?_, rfl⟩
    · rw [← hbody, List.takeWhile_append_dropWhile]
    · exact fun b hb => List.mem_takeWhile_imp hb
    · intro h
      rw [h] at hds
      exact hds rfl
    · exact List.dropWhile_eq_nil_iff.mp hrest

/-- What `%d` prints of a natural number is a numeral for it. -/
theorem isNumeral_decimal (n : ℕ) : IsNumeral (decimal n) false n :=
  ⟨[], [], decimal n, rfl, nofun, by decide, decimal_nat_ne_nil n,
    fun _ hb => isdigit_of_mem_decimal hb, numeral_decimal n⟩

end CLib
