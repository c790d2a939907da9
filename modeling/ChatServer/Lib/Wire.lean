import Mathlib.Data.Nat.Bitwise
import Mathlib.Tactic.Ring

/-!
# Words in memory and framed streams

`htonl` and `ntohl` reverse the bytes of a word on a little-endian host and do nothing on a
big-endian one; together with the host's own loads and stores they fix the
order of the bytes on the wire. The second half is framing: a stream of frames, each a
header that announces the length of the body behind it, is split at exactly the frame
boundaries.
-/

namespace Wire

inductive ByteOrder where
  | little | big
  deriving DecidableEq

/-- Byte `i` of a word, counted from the least significant one. -/
def byte (w i : ℕ) : UInt8 := UInt8.ofNat (w / 256^i)

/-- The four bytes of a 32-bit word at increasing addresses. -/
def storeWord : ByteOrder → ℕ → List UInt8
  | .little, w => [byte w 0, byte w 1, byte w 2, byte w 3]
  | .big, w => [byte w 3, byte w 2, byte w 1, byte w 0]

/-- The 32-bit word at four increasing addresses, the missing ones being zero. -/
def loadWord : ByteOrder → List UInt8 → ℕ
  | .little, bs => (bs.getD 0 0).toNat + (bs.getD 1 0).toNat*256 +
      (bs.getD 2 0).toNat*256^2 + (bs.getD 3 0).toNat*256^3
  | .big, bs => (bs.getD 0 0).toNat*256^3 + (bs.getD 1 0).toNat*256^2 +
      (bs.getD 2 0).toNat*256 + (bs.getD 3 0).toNat

/-- `htonl` and, being its own inverse, `ntohl`. -/
def htonl : ByteOrder → ℕ → ℕ
  | .little, w => loadWord .little (storeWord .big w)
  | .big, w => w

theorem byte_toNat (w i : ℕ) : (byte w i).toNat = w / 256^i % 256 := by
  simp [byte, UInt8.toNat_ofNat']

theorem byte_ext {x y : UInt8} (h : x.toNat = y.toNat) : x = y := UInt8.toNat_inj.mp h

/-- What a host stores after `htonl` is the word with its most significant byte first. -/
theorem storeWord_htonl (o : ByteOrder) (w : ℕ) : storeWord o (htonl o w) = storeWord .big w := by
  cases o with
  | big => rfl
  | little =>
    have h0 := (byte w 0).toNat_lt
    have h1 := (byte w 1).toNat_lt
    have h2 := (byte w 2).toNat_lt
    have h3 := (byte w 3).toNat_lt
    simp only [storeWord, htonl, loadWord, List.getD_cons_zero, List.getD_cons_succ,
      List.cons.injEq, and_true]
    refine ⟨?_, ?_, ?_, ?_⟩ <;> apply byte_ext <;> rw [byte_toNat] <;> norm_num at * <;> omega

/-- What a host loads and passes to `ntohl` is the first byte's word on every host. -/
theorem ntohl_loadWord (o : ByteOrder) (a b c d : UInt8) :
    htonl o (loadWord o [a,b,c,d]) = loadWord .big [a,b,c,d] := by
  cases o with
  | big => rfl
  | little =>
    have ha := a.toNat_lt
    have hb := b.toNat_lt
    have hc := c.toNat_lt
    have hd := d.toNat_lt
    simp only [htonl, loadWord, storeWord, List.getD_cons_zero, List.getD_cons_succ, byte_toNat]
    norm_num
    omega

/-- Disjoint fields of a word are joined by `|` as by addition. -/
theorem shiftLeft_or (a b i j : ℕ) (hij : j ≤ i) (hb : b < 2^(i-j)) :
    a <<< i ||| b <<< j = (a*2^(i-j)+b) <<< j := by
  have hlt : b <<< j < 2^i := by
    rw [Nat.shiftLeft_eq]
    calc b*2^j < 2^(i-j)*2^j := Nat.mul_lt_mul_of_pos_right hb (Nat.two_pow_pos j)
      _ = 2^i := by rw [← Nat.pow_add, Nat.sub_add_cancel hij]
  have hi : 2^(i-j)*2^j = 2^i := by rw [← Nat.pow_add, Nat.sub_add_cancel hij]
  rw [← Nat.shiftLeft_add_eq_or_of_lt hlt, Nat.shiftLeft_eq, Nat.shiftLeft_eq, Nat.shiftLeft_eq,
    ← hi]
  ring

section Framing

variable {H : Type} (encode : H → List UInt8) (decode : List UInt8 → Option (H × List UInt8))
  (size : H → ℕ)

/-- Split a stream: decode a header, take the body it announces, repeat. The first
argument bounds the number of frames. -/
def frames : ℕ → List UInt8 → Option (List (H × List UInt8))
  | _, [] => some []
  | 0, _ :: _ => none
  | n+1, b :: bs =>
    match decode (b :: bs) with
    | none => none
    | some (h, rest) =>
      if size h ≤ rest.length then
        (frames n (rest.drop (size h))).map fun fs => (h, rest.take (size h)) :: fs
      else none

/-- A stream of frames is split into exactly those frames. -/
theorem frames_flatMap (hne : ∀ h, encode h ≠ [])
    (hdec : ∀ h rest, decode (encode h ++ rest) = some (h, rest))
    (fs : List (H × List UInt8)) (hsize : ∀ f ∈ fs, f.2.length = size f.1)
    (n : ℕ) (hn : fs.length ≤ n) :
    frames decode size n (fs.flatMap fun f => encode f.1 ++ f.2) = some fs := by
  induction fs generalizing n with
  | nil => cases n <;> rfl
  | cons f fs ih =>
    obtain ⟨h, body⟩ := f
    obtain ⟨m, rfl⟩ : ∃ m, n = m+1 := ⟨n-1, by simp at hn; omega⟩
    have hlen : body.length = size h := hsize (h, body) List.mem_cons_self
    obtain ⟨b, bs, hb⟩ := List.exists_cons_of_ne_nil (hne h)
    have hih := ih (fun f hf => hsize f (List.mem_cons_of_mem _ hf)) m (by simpa using hn)
    have hd := hdec h (body ++ fs.flatMap fun f => encode f.1 ++ f.2)
    -- the first header decodes to itself and leaves its body and the other frames
    simp only [List.flatMap_cons, List.append_assoc, hb, List.cons_append] at hd ⊢
    simp only [frames, hd, List.length_append, hlen, Nat.le_add_right, if_true]
    rw [← hlen, List.drop_left, List.take_left, hih, Option.map_some]

theorem length_le_flatMap (hne : ∀ h, encode h ≠ []) (fs : List (H × List UInt8)) :
    fs.length ≤ (fs.flatMap fun f => encode f.1 ++ f.2).length := by
  induction fs with
  | nil => simp
  | cons f fs ih =>
    have hpos := List.length_pos_iff.mpr (hne f.1)
    simp only [List.flatMap_cons, List.length_append, List.length_cons]
    omega

end Framing

end Wire
