import ChatServer.Lib.Buffer

/-!
# Blocks of memory being filled

A block with the indices at which it has been written so far. A store behind the end of the block
changes none of its bytes, but its index is kept, so that a program is inside its block
exactly when every index in the record is. A cursor is a block with the offset of the next write.
`Filled m size out` is the invariant of code that writes a block from left to right: `out` is
there, and nothing was written outside.

Code that fills several arrays is described by its accesses, each a pair of an array's size and an
index.
-/

namespace CLib

structure Block where
  bytes : List UInt8
  written : List ℕ

namespace Block

/-- `malloc(n)` -/
def alloc (heap : List UInt8) (n : ℕ) : Block := ⟨malloc heap n, []⟩

/-- `block[i] = b` -/
def store (m : Block) (i : ℕ) (b : UInt8) : Block := ⟨m.bytes.set i b, m.written ++ [i]⟩

/-- `memcpy(block+i, src, n)`, `src` being the `n` bytes. -/
def memcpy (m : Block) (i : ℕ) : List UInt8 → Block
  | [] => m
  | b :: bs => (m.store i b).memcpy (i+1) bs

/-- `strcpy(block+i, s)` -/
def strcpy (m : Block) (i : ℕ) (s : Str) : Block := m.memcpy i (s ++ [0])

/-- Every index that was written is one of the block. -/
def InBounds (m : Block) : Prop := ∀ i ∈ m.written, i < m.bytes.length

instance (m : Block) : Decidable m.InBounds := inferInstanceAs (Decidable (∀ i ∈ _, _))

/-- The block has `size` bytes and begins with `out`, and all writes were inside it and not behind
the byte after `out`. -/
structure Filled (m : Block) (size : ℕ) (out : List UInt8) : Prop where
  size_eq : m.bytes.length = size
  inBounds : m.InBounds
  written_le : ∀ i ∈ m.written, i ≤ out.length
  out_eq : m.bytes.take out.length = out

theorem filled_alloc (heap : List UInt8) (n : ℕ) : (alloc heap n).Filled n [] :=
  ⟨length_malloc heap n, fun _ hi => absurd hi List.not_mem_nil,
    fun _ hi => absurd hi List.not_mem_nil, rfl⟩

theorem memcpy_concat (m : Block) (i : ℕ) (bs : List UInt8) (b : UInt8) :
    m.memcpy i (bs ++ [b]) = (m.memcpy i bs).store (i+bs.length) b := by
  induction bs generalizing m i with
  | nil => rfl
  | cons c bs ih =>
    rw [List.cons_append, memcpy, ih, memcpy, List.length_cons, Nat.add_right_comm, Nat.add_assoc]

namespace Filled

variable {m : Block} {size : ℕ} {out : List UInt8}

/-- A store behind what is there, which it leaves. -/
theorem storeBehind (h : m.Filled size out) (b : UInt8) (hlt : out.length < size) :
    (m.store out.length b).Filled size out := by
  refine ⟨?_, ?_, ?_, ?_⟩
  · rw [Block.store, List.length_set, h.size_eq]
  · intro i hi
    rw [Block.store, List.length_set, h.size_eq]
    rcases List.mem_append.mp hi with hi | hi
    · rw [← h.size_eq]; exact h.inBounds i hi
    · rw [List.mem_singleton.mp hi]; exact hlt
  · intro i hi
    rcases List.mem_append.mp hi with hi | hi
    · exact h.written_le i hi
    · rw [List.mem_singleton.mp hi]
  · rw [Block.store, List.take_set_of_le le_rfl, h.out_eq]

/-- The same store, the byte being what comes next. -/
theorem store (h : m.Filled size out) (b : UInt8) (hlt : out.length < size) :
    (m.store out.length b).Filled size (out ++ [b]) := by
  have hb := h.storeBehind b hlt
  have hlen : (out ++ [b]).length = out.length+1 := List.length_append
  refine ⟨hb.size_eq, hb.inBounds, fun i hi => ?_, ?_⟩
  · rw [hlen]
    exact Nat.le_succ_of_le (hb.written_le i hi)
  · rw [hlen, List.take_succ_eq_append_getElem (by rw [hb.size_eq]; exact hlt), hb.out_eq]
    simp [Block.store]

/-- A copy to the point reached so far. -/
theorem memcpy {bs : List UInt8} (h : m.Filled size out) (hle : out.length+bs.length ≤ size) :
    (m.memcpy out.length bs).Filled size (out ++ bs) := by
  induction bs generalizing m out with
  | nil => rw [List.append_nil]; exact h
  | cons b bs ih =>
    rw [List.length_cons] at hle
    have hb := h.store b (by omega)
    have hlen : (out ++ [b]).length = out.length+1 := List.length_append
    have := ih hb (by rw [hlen]; omega)
    rwa [hlen, List.append_assoc] at this

/-- After a copied string the next write goes to its terminator. -/
theorem strcpy {s : Str} (h : m.Filled size out) (hlt : out.length+s.length < size) :
    (m.strcpy out.length s).Filled size (out ++ s) := by
  have hs : (m.memcpy out.length s).Filled size (out ++ s) := h.memcpy (by omega)
  have hlen : (out ++ s).length = out.length+s.length := List.length_append
  rw [Block.strcpy, memcpy_concat, ← hlen]
  exact hs.storeBehind 0 (by rw [hlen]; exact hlt)

/-- A block that is written to its end. -/
theorem bytes_eq (h : m.Filled size out) (hlen : out.length = size) : m.bytes = out :=
  (List.take_of_length_le (by rw [h.size_eq, hlen])).symm.trans h.out_eq

end Filled

end Block

/-- A block that is written from left to right, and the offset reached. -/
structure Cursor where
  block : Block
  offset : ℕ

namespace Cursor

/-- `memcpy(block+offset, src, n); offset += n;` -/
def append (x : Cursor) (bs : List UInt8) : Cursor :=
  ⟨x.block.memcpy x.offset bs, x.offset+bs.length⟩

/-- `block[offset++] = b;` -/
def push (x : Cursor) (b : UInt8) : Cursor := ⟨x.block.store x.offset b, x.offset+1⟩

/-- `strcpy(block+offset, s); offset += strlen(s);` -/
def strcpy (x : Cursor) (s : Str) : Cursor := ⟨x.block.strcpy x.offset s, x.offset+s.length⟩

/-- The block holds `out` up to the offset. -/
structure Filled (x : Cursor) (size : ℕ) (out : List UInt8) : Prop where
  block : x.block.Filled size out
  offset_eq : x.offset = out.length

theorem filled_alloc (heap : List UInt8) (n : ℕ) : (⟨.alloc heap n, 0⟩ : Cursor).Filled n [] :=
  ⟨Block.filled_alloc heap n, rfl⟩

namespace Filled

variable {x : Cursor} {size : ℕ} {out : List UInt8} (h : x.Filled size out)
include h

theorem append {bs : List UInt8} (hle : out.length+bs.length ≤ size) :
    (x.append bs).Filled size (out ++ bs) := by
  refine ⟨?_, by rw [Cursor.append, h.offset_eq, List.length_append]⟩
  rw [Cursor.append, h.offset_eq]
  exact h.block.memcpy hle

theorem push (b : UInt8) (hlt : out.length < size) : (x.push b).Filled size (out ++ [b]) := by
  refine ⟨?_, by rw [Cursor.push, h.offset_eq, List.length_append]; rfl⟩
  rw [Cursor.push, h.offset_eq]
  exact h.block.store b hlt

theorem strcpy {s : Str} (hlt : out.length+s.length < size) :
    (x.strcpy s).Filled size (out ++ s) := by
  refine ⟨?_, by rw [Cursor.strcpy, h.offset_eq, List.length_append]⟩
  rw [Cursor.strcpy, h.offset_eq]
  exact h.block.strcpy hlt

end Filled

end Cursor

/-- A write to an array of `size` elements. -/
structure Access where
  size : ℕ
  index : ℕ
  deriving DecidableEq

/-- Every access is to an element of its array. -/
def Inside (log : List Access) : Prop := ∀ x ∈ log, x.index < x.size

instance (log : List Access) : Decidable (Inside log) := inferInstanceAs (Decidable (∀ x ∈ _, _))

/-- A call that writes `n` elements from index `i` on: `memset`, `memcpy` and `strncpy`, which pads
what the string leaves. -/
def fill (size i n : ℕ) : List Access := (List.range n).map fun j => ⟨size, i+j⟩

/-- `strcpy(a, s)`, `strcat(a, s')`, ..: every string is written with a terminator, over the
terminator of the one before it. -/
def strcats (size : ℕ) : ℕ → List Str → List Access
  | _, [] => []
  | i, s :: ss => fill size i (s.length+1) ++ strcats size (i+s.length) ss

/-- The accesses of a block. -/
def Block.accesses (m : Block) : List Access := m.written.map fun i => ⟨m.bytes.length, i⟩

theorem inside_nil : Inside [] := fun _ hx => absurd hx List.not_mem_nil

theorem inside_append {log log' : List Access} :
    Inside (log ++ log') ↔ Inside log ∧ Inside log' := List.forall_mem_append

theorem mem_fill {size i n j : ℕ} (hi : i ≤ j) (hj : j < i+n) : ⟨size, j⟩ ∈ fill size i n := by
  refine List.mem_map.mpr ⟨j-i, List.mem_range.mpr (by omega), ?_⟩
  rw [Nat.add_sub_cancel' hi]

theorem inside_fill {size i n : ℕ} : Inside (fill size i n) ↔ n = 0 ∨ i+n ≤ size := by
  constructor
  · intro h
    by_cases hn : n = 0
    · exact Or.inl hn
    · have hlast : i+(n-1) < size := h _ (mem_fill (by omega) (by omega))
      omega
  · intro h x hx
    obtain ⟨j, hj, rfl⟩ := List.mem_map.mp hx
    have := List.mem_range.mp hj
    dsimp only
    omega

/-- A call that writes the whole array. -/
theorem inside_fill_self (size : ℕ) : Inside (fill size 0 size) :=
  inside_fill.mpr (Or.inr (by omega))

theorem inside_strcats {size i : ℕ} {ss : List Str} (h : i+ss.flatten.length < size) :
    Inside (strcats size i ss) := by
  induction ss generalizing i with
  | nil => exact inside_nil
  | cons s ss ih =>
    rw [List.flatten_cons, List.length_append] at h
    exact inside_append.mpr ⟨inside_fill.mpr (Or.inr (by omega)), ih (by omega)⟩

end CLib
