import ChatServer.Lib.CString

/-!
# Character buffers as bytes

A `CharArray` is zero behind its string. Here a buffer is its bytes, whatever they are: freshly
allocated memory holds anything, and `strcpy` and `strncpy` write some of the bytes and leave the
others. The lemmas say after which sequences of these calls a buffer is the bytes of a `CharArray`.
-/

namespace CLib

/-- A buffer cleared by `memset` or by an initializer. -/
def zeroed (n : ℕ) : List UInt8 := List.replicate n 0

/-- `malloc(n)`, with what the heap held there. -/
def malloc (heap : List UInt8) (n : ℕ) : List UInt8 := heap.take n ++ zeroed (n-heap.length)

/-- `strncpy(dst, src, n)`: the string at `src`, cut at `n` bytes, and zeros up to `n`. -/
def strncpy (dst : List UInt8) (src : Str) (n : ℕ) : List UInt8 :=
  src.take n ++ List.replicate (n-src.length) 0 ++ dst.drop n

/-- `strcpy(dst, src)`: the string and its terminator. -/
def strcpy (dst : List UInt8) (src : Str) : List UInt8 := src ++ 0 :: dst.drop (src.length+1)

theorem length_malloc (heap : List UInt8) (n : ℕ) : (malloc heap n).length = n := by
  simp only [malloc, zeroed, List.length_append, List.length_take, List.length_replicate]
  omega

/-- The string read back from a buffer that holds it. -/
theorem cstr_append_zero {s : Str} (h : 0 ∉ s) (m : ℕ) : cstr (s ++ List.replicate m 0) = s := by
  have hs : ∀ b ∈ s, (decide (b ≠ 0)) = true := by
    intro b hb
    exact decide_eq_true (fun h0 => h (h0 ▸ hb))
  rw [cstr, List.takeWhile_append_of_pos hs]
  cases m with
  | zero => simp
  | succ m => simp [List.replicate_succ]

/-- Nothing behind the first zero belongs to the string. -/
theorem cstr_append_cons_zero {s : Str} (h : 0 ∉ s) (t : List UInt8) : cstr (s ++ 0 :: t) = s := by
  have hs : ∀ b ∈ s, (decide (b ≠ 0)) = true :=
    fun b hb => decide_eq_true (fun h0 => h (h0 ▸ hb))
  rw [cstr, List.takeWhile_append_of_pos hs, List.takeWhile_cons_of_neg (by decide),
    List.append_nil]

theorem zero_not_mem_cstr (b : List UInt8) : 0 ∉ cstr b := by
  intro h
  have := List.mem_takeWhile_imp h
  simp at this

/-- A cursor at index `i` of the string `a` has `s` in front of it. -/
structure Rest (a : Str) (i : ℕ) (s : Str) : Prop where
  drop_eq : a.drop i = s
  le : i ≤ a.length

namespace Rest

variable {a s : Str} {i : ℕ} {c : UInt8}

theorem start (a : Str) : Rest a 0 a := ⟨rfl, Nat.zero_le _⟩

theorem exists_of_le (h : i ≤ a.length) : ∃ s, Rest a i s := ⟨_, rfl, h⟩

theorem lt (h : Rest a i (c :: s)) : i < a.length := by
  have hlen := congrArg List.length h.drop_eq
  rw [List.length_drop, List.length_cons] at hlen
  omega

theorem mem (h : Rest a i (c :: s)) : c ∈ a :=
  List.mem_of_mem_drop (h.drop_eq ▸ List.mem_cons_self)

theorem succ (h : Rest a i (c :: s)) : Rest a (i+1) s where
  drop_eq := by rw [← List.tail_drop, h.drop_eq, List.tail_cons]
  le := h.lt

/-- At the end of the string the cursor is at the terminator. -/
theorem getElem?_nil (h : Rest a i []) (m : List UInt8) : (a ++ 0 :: m)[i]? = some 0 := by
  obtain rfl : i = a.length := le_antisymm h.le (List.drop_eq_nil_iff.mp h.drop_eq)
  rw [List.getElem?_append_right le_rfl, Nat.sub_self, List.getElem?_cons_zero]

theorem getElem?_cons (h : Rest a i (c :: s)) (m : List UInt8) :
    (a ++ 0 :: m)[i]? = some c := by
  rw [List.getElem?_append_left h.lt, ← List.head?_drop, h.drop_eq, List.head?_cons]

end Rest

namespace CharArray

variable {n : ℕ}

theorem cstr_bytes {a : CharArray n} (h : 0 ∉ a.str) : cstr a.bytes = a.str :=
  cstr_append_zero h _

/-- The window of the size of the array. -/
theorem take_bytes (a : CharArray n) : a.bytes.take n = a.bytes :=
  List.take_of_length_le a.length_bytes.le

/-- The string at `b`, as an array. -/
def ofBytes (n : ℕ) (b : List UInt8) : CharArray n := strncpy n (cstr b)

theorem ofBytes_bytes {a : CharArray n} (h : 0 ∉ a.str) : ofBytes n a.bytes = a := by
  rw [ofBytes, cstr_bytes h]
  exact strncpy_str a

/-- The array holds a C string: no zero inside, and room for the terminator. -/
structure Text (a : CharArray n) : Prop where
  clean : 0 ∉ a.str
  short : a.str.length < n

/-- The terminator stands behind the string. -/
theorem Text.bytes_eq {a : CharArray n} (h : a.Text) :
    a.bytes = a.str ++ 0 :: List.replicate (n-a.str.length-1) 0 := by
  have hroom : n-a.str.length = n-a.str.length-1+1 := by
    have := h.short
    omega
  rw [bytes, hroom, List.replicate_succ, Nat.add_sub_cancel]

instance (a : CharArray n) : Decidable a.Text :=
  decidable_of_iff (0 ∉ a.str ∧ a.str.length < n) ⟨fun h => ⟨h.1, h.2⟩, fun h => ⟨h.clean, h.short⟩⟩

/-- The string that a function of the library reads from an array with `behind` behind it. A string
that fills the array has no terminator there, and it is read on. -/
def readOn (a : CharArray n) (behind : List UInt8) : Str := cstr (a.bytes ++ behind)

/-- A string with its terminator is read as it is. -/
@[simp] theorem Text.readOn_eq {a : CharArray n} (h : a.Text) (behind : List UInt8) :
    a.readOn behind = a.str := by
  rw [readOn, h.bytes_eq, List.append_assoc, List.cons_append, cstr_append_cons_zero h.clean]

/-- What an array holds is read in any case. -/
theorem prefix_readOn {a : CharArray n} (h0 : 0 ∉ a.str) (behind : List UInt8) :
    a.str <+: a.readOn behind := by
  rw [readOn, bytes, List.append_assoc, cstr, List.takeWhile_append_of_pos]
  · exact List.prefix_append _ _
  · intro b hb
    exact decide_eq_true fun h => h0 (h ▸ hb)

/-- The windows of two padded arrays are equal exactly when their strings are. -/
theorem bytes_inj {a b : CharArray n} (ha : 0 ∉ a.str) (hb : 0 ∉ b.str) :
    a.bytes = b.bytes ↔ a = b := by
  constructor
  · intro h
    apply ext
    rw [← cstr_bytes ha, ← cstr_bytes hb, h]
  · exact congrArg bytes

theorem Text.bytes_inj (a b : CharArray n) (ha : a.Text) (hb : b.Text) (h : a.bytes = b.bytes) :
    a = b := (CharArray.bytes_inj ha.clean hb.clean).mp h

/-- `strncpy(dst, src, strlen(src))` to a cleared array. -/
theorem strncpy_zeroed {s : Str} (h : s.length ≤ n) :
    CLib.strncpy (zeroed n) s s.length = (⟨s, h⟩ : CharArray n).bytes := by
  simp [CLib.strncpy, bytes, zeroed]

/-- `strncpy(dst, src, sizeof(dst))`, whatever the array held before. -/
theorem strncpy_full {dst : List UInt8} (hd : dst.length = n) (s : Str) :
    CLib.strncpy dst s n = (strncpy n s).bytes := by
  rw [CLib.strncpy, List.drop_of_length_le hd.le, List.append_nil, bytes, strncpy, List.length_take]
  congr 2
  omega

/-- `strcpy` to a cleared array. -/
theorem strcpy_zeroed {s : Str} (h : s.length < n) :
    strcpy (zeroed n) s = (⟨s, h.le⟩ : CharArray n).bytes := by
  have hn : n-s.length = n-(s.length+1)+1 := by omega
  rw [strcpy, zeroed, List.drop_replicate, bytes, hn, List.replicate_succ]

/-- `strcpy` of a string that, with its terminator, fills the array. -/
theorem strcpy_exact {dst : List UInt8} {s : Str} (hd : dst.length = n) (h : s.length+1 = n) :
    strcpy dst s = (⟨s, by omega⟩ : CharArray n).bytes := by
  have hn : n-s.length = 1 := by omega
  rw [strcpy, List.drop_of_length_le (by omega), bytes, hn]
  rfl

/-- Writing the terminator again. -/
theorem set_terminator (a : CharArray n) : a.bytes.set a.str.length 0 = a.bytes := by
  rw [bytes, List.set_append_right _ _ le_rfl, Nat.sub_self]
  cases n-a.str.length with
  | zero => rfl
  | succ m => rfl

end CharArray

/-- `n` characters that may hold anything. -/
structure Chars (n : ℕ) where
  bytes : List UInt8
  size_eq : bytes.length = n
  deriving DecidableEq

namespace Chars

variable {n : ℕ}

/-- The characters after `memset(a, 0, n)`. -/
def zero (n : ℕ) : Chars n := ⟨zeroed n, List.length_replicate⟩

/-- `strcpy(a+o, s)`. What is written behind the `n` characters is not theirs. -/
def strcpyAt (b : Chars n) (o : ℕ) (s : Str) : Chars n where
  bytes := (b.bytes.take o ++ strcpy (b.bytes.drop o) s).take n
  size_eq := by
    simp only [strcpy, List.length_take, List.length_append, List.length_cons, List.length_drop,
      b.size_eq]
    omega

/-- `a[0] = '\0'`, which leaves the characters behind it as they were. -/
def cut (b : Chars n) : Chars n := ⟨b.bytes.set 0 0, by rw [List.length_set, b.size_eq]⟩

/-- The string in the member of size `k` at the address `o`. -/
def member (b : Chars n) (o k : ℕ) : CharArray k := CharArray.ofBytes k (b.bytes.drop o)

/-- A string that ends in its member leaves the other members as they were. -/
theorem bytes_strcpyAt {b : Chars n} {p q : List UInt8} {o k : ℕ} {a : CharArray k} (h : a.Text)
    (hb : b.bytes = p ++ zeroed k ++ q) (hp : p.length = o) :
    (b.strcpyAt o a.str).bytes = p ++ a.bytes ++ q := by
  have hcopy : strcpy (zeroed k ++ q) a.str = a.bytes ++ q := by
    have hdrop : (zeroed k ++ q).drop (a.str.length+1) = (zeroed k).drop (a.str.length+1) ++ q := by
      refine List.drop_append_of_le_length ?_
      rw [zeroed, List.length_replicate]
      exact h.short
    rw [strcpy, hdrop, ← List.cons_append, ← List.append_assoc]
    exact congrArg (· ++ q) (CharArray.strcpy_zeroed h.short)
  have hsize := b.size_eq
  rw [hb] at hsize
  simp only [zeroed, List.length_append, List.length_replicate] at hsize
  change (b.bytes.take o ++ strcpy (b.bytes.drop o) a.str).take n = _
  rw [← hp, hb, List.append_assoc, List.take_left, List.drop_left, hcopy, ← List.append_assoc]
  refine List.take_of_length_le ?_
  rw [List.length_append, List.length_append, CharArray.length_bytes]
  exact hsize.le

/-- The string of a member that ends in it is read back. -/
theorem member_eq {b : Chars n} {p q : List UInt8} {o k : ℕ} {a : CharArray k} (h : a.Text)
    (hb : b.bytes = p ++ a.bytes ++ q) (hp : p.length = o) : b.member o k = a := by
  have hread : cstr (a.bytes ++ q) = a.str := h.readOn_eq q
  rw [member, CharArray.ofBytes, ← hp, hb, List.append_assoc, List.drop_left, hread]
  exact CharArray.strncpy_str a

theorem member_zero (n o k : ℕ) : (zero n).member o k = .empty k := by
  have hread : cstr (zeroed (n-o)) = [] := cstr_append_zero (s := []) List.not_mem_nil _
  apply CharArray.ext
  show (cstr ((zeroed n).drop o)).take k = []
  rw [zeroed, List.drop_replicate]
  show (cstr (zeroed (n-o))).take k = []
  rw [hread, List.take_nil]

theorem member_cut_zero (b : Chars n) (k : ℕ) : b.cut.member 0 k = .empty k := by
  apply CharArray.ext
  show (cstr (b.bytes.set 0 0)).take k = []
  cases b.bytes with
  | nil => exact List.take_nil
  | cons c cs => exact List.take_nil

/-- Blanking the first character is seen in the first member only. -/
theorem member_cut (b : Chars n) {o : ℕ} (ho : 0 < o) (k : ℕ) :
    b.cut.member o k = b.member o k := by
  show CharArray.ofBytes k ((b.bytes.set 0 0).drop o) = CharArray.ofBytes k (b.bytes.drop o)
  rw [List.drop_set_of_lt ho]

end Chars

end CLib
