import Mathlib.Algebra.Group.Int.Defs
import Mathlib.Algebra.Group.Nat.Defs
import Mathlib.Data.List.Basic
import Mathlib.Data.List.TakeWhile

/-!
# C strings and fixed character arrays

A C string is the list of its bytes before the terminator. A character array is
given by the string it holds, all bytes behind the string being zero; a string
that fills the array leaves no room for a terminator, and its value ends where
the array ends. What is read behind such an array depends on the memory the
array stands in (`CharArray.readOn`).
-/

namespace CLib

/-- The bytes of a C string, without its terminator. -/
abbrev Str := List UInt8

/-- The bytes of a literal. -/
def ascii (text : String) : Str := text.toList.map fun c => c.toNat.toUInt8

/-- The C string at the beginning of a zeroed buffer into which `bytes` was read. -/
def cstr (bytes : List UInt8) : Str := bytes.takeWhile (· ≠ 0)

theorem length_cstr_le (bytes : List UInt8) : (cstr bytes).length ≤ bytes.length :=
  (List.takeWhile_sublist _).length_le

/-- The conversion `%d`. -/
def decimal : Int → Str
  | .ofNat n => (Nat.toDigits 10 n).map fun c => c.toNat.toUInt8
  | .negSucc n => 45 :: (Nat.toDigits 10 (n+1)).map fun c => c.toNat.toUInt8

def isspace (b : UInt8) : Bool := b == 32 || (9 ≤ b && b ≤ 13)

def isdigit (b : UInt8) : Bool := 48 ≤ b && b ≤ 57

/-- The results of `strtok(s, d)` followed by `strtok(NULL, d)` until it returns
`NULL`: the maximal nonempty runs of bytes other than the delimiter. -/
def tokens (d : UInt8) (s : Str) : List Str := (s.splitOn d).filter (· ≠ [])

theorem ne_nil_of_mem_tokens {d : UInt8} {s t : Str} (h : t ∈ tokens d s) : t ≠ [] := by
  simpa using (List.mem_filter.mp h).2

theorem tokens_append_cons (d : UInt8) (s t : Str) :
    tokens d (s ++ d :: t) = tokens d s ++ tokens d t := by
  rw [tokens, List.splitOn_append_cons_self, List.filter_append]
  rfl

theorem tokens_of_not_mem {d : UInt8} {s : Str} (hd : d ∉ s) (hs : s ≠ []) : tokens d s = [s] := by
  rw [tokens, List.splitOn_eq_singleton hd]
  simp [hs]

/-- Texts without the delimiter, each with one behind it, are the parts of the whole, and there is
nothing behind the last one. -/
theorem splitOn_flatMap {d : UInt8} {ts : List Str} (h : ∀ t ∈ ts, d ∉ t) :
    (ts.flatMap fun t => t ++ [d]).splitOn d = ts ++ [[]] := by
  induction ts with
  | nil => rfl
  | cons t ts ih =>
    obtain ⟨hd, hts⟩ := List.forall_mem_cons.mp h
    rw [List.flatMap_cons, List.append_assoc, List.singleton_append,
      List.splitOn_append_cons_self, List.splitOn_eq_singleton hd, ih hts]
    rfl

/-- None of them being empty, they are the tokens of the whole. -/
theorem tokens_flatMap {d : UInt8} {ts : List Str} (h : ∀ t ∈ ts, t ≠ [] ∧ d ∉ t) :
    tokens d (ts.flatMap fun t => t ++ [d]) = ts := by
  rw [tokens, splitOn_flatMap fun t ht => (h t ht).2, List.filter_append]
  have hkeep : ts.filter (· ≠ []) = ts :=
    List.filter_eq_self.mpr fun t ht => decide_eq_true (h t ht).1
  rw [hkeep]
  exact List.append_nil ts

theorem not_mem_of_mem_tokens {d : UInt8} {s t : Str} (h : t ∈ tokens d s) : d ∉ t := by
  have ht : t ∈ s.splitOn d := (List.mem_filter.mp h).1
  clear h
  induction s generalizing t with
  | nil =>
    rw [List.splitOn_nil, List.mem_singleton] at ht
    rw [ht]
    exact List.not_mem_nil
  | cons b s ih =>
    rw [List.splitOn_cons_eq_if_modifyHead] at ht
    obtain ⟨u, us, hu⟩ := List.exists_cons_of_ne_nil (List.splitOn_ne_nil d s)
    by_cases hb : b = d
    · rw [if_pos (by simpa using hb)] at ht
      obtain rfl | ht := List.mem_cons.mp ht
      · exact List.not_mem_nil
      · exact ih ht
    · rw [if_neg (by simpa using hb), hu, List.modifyHead_cons] at ht
      obtain rfl | ht := List.mem_cons.mp ht
      · exact List.not_mem_cons_of_ne_of_not_mem (Ne.symm hb) (ih (by rw [hu]; simp))
      · exact ih (by rw [hu]; simp [ht])

/-- A token is made of bytes of the string. -/
theorem subset_of_mem_tokens {d : UInt8} {s t : Str} (h : t ∈ tokens d s) : t ⊆ s := by
  have ht : t ∈ s.splitOn d := (List.mem_filter.mp h).1
  clear h
  induction s generalizing t with
  | nil =>
    rw [List.splitOn_nil, List.mem_singleton] at ht
    rw [ht]
    exact fun _ hb => hb
  | cons b s ih =>
    rw [List.splitOn_cons_eq_if_modifyHead] at ht
    obtain ⟨u, us, hu⟩ := List.exists_cons_of_ne_nil (List.splitOn_ne_nil d s)
    split at ht
    · obtain rfl | ht := List.mem_cons.mp ht
      · exact List.nil_subset _
      · exact fun c hc => List.mem_cons_of_mem b (ih ht hc)
    · rw [hu, List.modifyHead_cons] at ht
      obtain rfl | ht := List.mem_cons.mp ht
      · exact List.cons_subset_cons b (ih (by rw [hu]; simp))
      · exact fun c hc => List.mem_cons_of_mem b (ih (by rw [hu]; simp [ht]) hc)

/-- There is at most one token more than there are delimiters. -/
theorem length_tokens_le (d : UInt8) (s : Str) : (tokens d s).length ≤ s.count d + 1 := by
  have hsplit : ∀ s : Str, (s.splitOn d).length = s.count d + 1 := by
    intro s
    induction s with
    | nil => simp
    | cons b s ih =>
      rw [List.splitOn_cons_eq_if_modifyHead, List.count_cons]
      split
      · simp [ih]
      · simp [ih]
  rw [← hsplit]
  exact List.length_filter_le _ _

/-- `(int) strtol(s, &endptr, 10)`: blanks, an optional sign, the longest run of
digits, saturated to a 64-bit `long` and cut down to a 32-bit `int`. -/
def strtolInt (s : Str) : Int :=
  let body := s.dropWhile isspace
  let (negative, digits) := match body with
    | 45 :: ds => (true, ds)
    | 43 :: ds => (false, ds)
    | ds => (false, ds)
  let n : Int := (digits.takeWhile isdigit).foldl (fun acc b => acc*10+(b.toNat-48 : Int)) 0
  let long := if negative then max (-n) (-2^63) else min n (2^63-1)
  Int.bmod long (2^32)

/-- An array of `n` characters that is zero behind the string it holds. -/
structure CharArray (n : ℕ) where
  str : Str
  fits : str.length ≤ n
  deriving DecidableEq

namespace CharArray

variable {n : ℕ}

@[ext] theorem ext {a b : CharArray n} (h : a.str = b.str) : a = b := by
  cases a; cases b; simp_all

/-- The array after `memset(a, 0, n)`. -/
def empty (n : ℕ) : CharArray n := ⟨[], Nat.zero_le n⟩

/-- `a[0] == '\0'` -/
def isEmpty (a : CharArray n) : Bool := a.str.isEmpty

/-- There is a terminator behind the string. -/
def Terminated (a : CharArray n) : Prop := a.str.length < n

instance (a : CharArray n) : Decidable a.Terminated := inferInstanceAs (Decidable (_ < _))

/-- The array after `strncpy(a, s, n)`, which cuts `s` at the array's size. -/
def strncpy (n : ℕ) (s : Str) : CharArray n := ⟨s.take n, List.length_take_le n s⟩

/-- The zeroed array after `strncpy(a, s, strlen(s))`, which writes past the end
of the array when `s` is longer than it. -/
def strncpyLen? (n : ℕ) (s : Str) : Option (CharArray n) :=
  if h : s.length ≤ n then some ⟨s, h⟩ else none

/-- The bytes of the whole array, as `memcpy` moves them. -/
def bytes (a : CharArray n) : List UInt8 := a.str ++ List.replicate (n-a.str.length) 0

@[simp] theorem isEmpty_iff {a : CharArray n} : a.isEmpty = true ↔ a = empty n := by
  rw [isEmpty, List.isEmpty_iff]
  exact ⟨fun h => ext h, fun h => h ▸ rfl⟩

@[simp] theorem length_bytes (a : CharArray n) : a.bytes.length = n := by
  have := a.fits
  simp only [bytes, List.length_append, List.length_replicate]
  omega

/-- Copying the string of an array gives the array. -/
@[simp] theorem strncpy_str (a : CharArray n) : strncpy n a.str = a :=
  ext (List.take_of_length_le a.fits)

theorem strncpyLen?_eq_some {s : Str} {a : CharArray n} :
    strncpyLen? n s = some a ↔ a.str = s := by
  rw [strncpyLen?]
  split
  · constructor
    · rintro ⟨⟩; rfl
    · intro h; exact congrArg some (ext h.symm)
  · rename_i hs
    refine ⟨fun h => by simp at h, fun h => ?_⟩
    exact absurd (h ▸ a.fits) hs

theorem strncpyLen?_eq_none {s : Str} : strncpyLen? n s = none ↔ n < s.length := by
  rw [strncpyLen?]
  split <;> simp <;> omega

end CharArray

end CLib
