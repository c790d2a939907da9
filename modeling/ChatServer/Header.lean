import ChatServer.Records
import ChatServer.Lib.Wire

/-!
# Dispatch headers

`read_header` and `create_response_header`. The header has four bytes on the wire: version and
type in the first one, then the object, then the size of the body.
-/

namespace ChatServer

open Wire

/-- `chat_header_t`, with the widths of its fields. -/
structure ChatHeader where
  version : Fin 16
  type : Fin 16
  object : Fin 256
  bodySize : Fin 65536
  deriving DecidableEq

-- the sizes of the fields are not zero, so that `Fin.ofNat` and the literals have one instance
instance neZeroNibble : NeZero 16 := ⟨by decide⟩
instance neZeroByte : NeZero 256 := ⟨by decide⟩
instance neZeroShort : NeZero 65536 := ⟨by decide⟩

abbrev currentVersion : Fin 16 := 1
abbrev errorWrongVersion : Int := 2

/-- `read_header`: one `read` of one byte and one of three bytes into cleared words, both
with an `assert` on the number of bytes read. -/
def readHeader (o : ByteOrder) : List UInt8 → Except Fault (ChatHeader × List UInt8)
  | b₀ :: b₁ :: b₂ :: b₃ :: rest =>
    let value := htonl o (loadWord o [b₀])
    let header2 := htonl o (loadWord o [b₁,b₂,b₃])
    .ok ({ version := Fin.ofNat 16 ((value >>> 28) &&& 0x0F)
           type := Fin.ofNat 16 ((value >>> 24) &&& 0x0F)
           object := Fin.ofNat 256 ((header2 >>> 24) &&& 0xFF)
           bodySize := Fin.ofNat 65536 ((header2 >>> 8) &&& 0xFFFF) }, rest)
  | _ => .error .assertFailed

/-- `create_response_header` -/
def createResponseHeader (o : ByteOrder) (header : ChatHeader) : ℕ :=
  htonl o (header.version.val <<< 28 ||| header.type.val <<< 24 ||| header.object.val <<< 16 |||
    header.bodySize.val)

/-- The bytes that `write(fd, &header_int, sizeof(uint32_t))` puts on the wire. -/
def headerBytes (o : ByteOrder) (header : ChatHeader) : List UInt8 :=
  storeWord o (createResponseHeader o header)

theorem headerWord_eq (h : ChatHeader) :
    h.version.val <<< 28 ||| h.type.val <<< 24 ||| h.object.val <<< 16 ||| h.bodySize.val =
      h.version.val*2^28+h.type.val*2^24+h.object.val*2^16+h.bodySize.val := by
  have ht := h.type.isLt
  have ho := h.object.isLt
  have hb := h.bodySize.isLt
  have hbody : h.bodySize.val <<< 0 = h.bodySize.val := rfl
  rw [shiftLeft_or _ _ 28 24 (by omega) (by omega), shiftLeft_or _ _ 24 16 (by omega) (by omega),
    ← hbody, shiftLeft_or _ _ 16 0 (by omega) (by omega), Nat.shiftLeft_eq]
  omega

/-- On every host the header bytes are the fields from the most significant one down. -/
theorem headerBytes_eq (o : ByteOrder) (h : ChatHeader) :
    headerBytes o h = [UInt8.ofNat (h.version.val*16+h.type.val), UInt8.ofNat h.object.val,
      UInt8.ofNat (h.bodySize.val/256), UInt8.ofNat h.bodySize.val] := by
  have ht := h.type.isLt
  have hv := h.version.isLt
  have ho := h.object.isLt
  have hb := h.bodySize.isLt
  rw [headerBytes, createResponseHeader, storeWord_htonl, headerWord_eq]
  simp only [storeWord, List.cons.injEq, and_true]
  refine ⟨?_, ?_, ?_, ?_⟩ <;> apply byte_ext <;> rw [byte_toNat, UInt8.toNat_ofNat'] <;>
    norm_num <;> omega

/-- On every host the decoder reads the fields from the first byte on. -/
theorem readHeader_cons (o : ByteOrder) (b₀ b₁ b₂ b₃ : UInt8) (rest : List UInt8) :
    readHeader o (b₀ :: b₁ :: b₂ :: b₃ :: rest) =
      .ok ({ version := Fin.ofNat 16 (b₀.toNat/16)
             type := Fin.ofNat 16 b₀.toNat
             object := Fin.ofNat 256 b₁.toNat
             bodySize := Fin.ofNat 65536 (b₂.toNat*256+b₃.toNat) }, rest) := by
  have h₀ := b₀.toNat_lt
  have h₁ := b₁.toNat_lt
  have h₂ := b₂.toNat_lt
  have h₃ := b₃.toNat_lt
  -- the words are cleared before the short reads, so the missing bytes are zero
  have e₁ : loadWord o [b₀] = loadWord o [b₀,0,0,0] := by cases o <;> rfl
  have e₂ : loadWord o [b₁,b₂,b₃] = loadWord o [b₁,b₂,b₃,0] := by cases o <;> rfl
  have m4 : ∀ x : ℕ, x &&& 15 = x % 16 := fun x => Nat.and_two_pow_sub_one_eq_mod x 4
  have m8 : ∀ x : ℕ, x &&& 255 = x % 256 := fun x => Nat.and_two_pow_sub_one_eq_mod x 8
  have m16 : ∀ x : ℕ, x &&& 65535 = x % 65536 := fun x => Nat.and_two_pow_sub_one_eq_mod x 16
  simp only [readHeader, e₁, e₂, ntohl_loadWord, Except.ok.injEq, Prod.mk.injEq, and_true,
    ChatHeader.mk.injEq, Nat.shiftRight_eq_div_pow, m4, m8, m16]
  simp only [loadWord, List.getD_cons_zero, List.getD_cons_succ, Fin.ext_iff, Fin.val_ofNat,
    UInt8.toNat_zero]
  refine ⟨?_, ?_, ?_, ?_⟩ <;> omega

/-- Header bytes written on one host are read back unchanged on another. -/
theorem readHeader_headerBytes (o o' : ByteOrder) (h : ChatHeader) (rest : List UInt8) :
    readHeader o' (headerBytes o h ++ rest) = .ok (h, rest) := by
  have ht := h.type.isLt
  have hv := h.version.isLt
  have ho := h.object.isLt
  have hb := h.bodySize.isLt
  rw [headerBytes_eq]
  simp only [List.cons_append, List.nil_append, readHeader_cons, Except.ok.injEq, Prod.mk.injEq,
    and_true]
  cases h
  simp only [ChatHeader.mk.injEq, Fin.ext_iff, Fin.val_ofNat, UInt8.toNat_ofNat'] at *
  refine ⟨?_, ?_, ?_, ?_⟩ <;> omega

theorem headerBytes_ne_nil (o : ByteOrder) (h : ChatHeader) : headerBytes o h ≠ [] := by
  rw [headerBytes_eq]; exact List.cons_ne_nil _ _

theorem length_headerBytes (o : ByteOrder) (h : ChatHeader) : (headerBytes o h).length = 4 := by
  rw [headerBytes_eq]; rfl

end ChatServer
