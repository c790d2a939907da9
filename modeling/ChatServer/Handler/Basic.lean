import ChatServer.Database
import ChatServer.Response

/-!
# What a handler does

A handler reads the body, works on the state and returns a result with the string it left in
its output array. When it does not return, the state is the one at that point. Strings end with
their arrays, blocks have room for what is copied to them and writes reach their peers;
`ChatServer.Machine` has the same handlers without these three assumptions.
-/

namespace ChatServer

open CLib

/-- The result of a handler, the string in `token_out` or `channel_info_out`, and the string in
`forward_token`. -/
structure Reply where
  result : Int
  token : Str
  forward : Str
  deriving DecidableEq

structure Outcome where
  state : State
  value : Except Fault Reply

namespace Outcome

def reply (s : State) (result : Int) (token : Str) : Outcome := ⟨s, .ok ⟨result, token, []⟩⟩

def fault (s : State) (f : Fault) : Outcome := ⟨s, .error f⟩

end Outcome

/-- `nread <= 0 || nread != body_size` -/
def bodyIncomplete (bodySize : ℕ) (bytes : List UInt8) : Bool :=
  bytes.isEmpty || bytes.length ≠ bodySize

/-- The fields of a body, in the order in which `strtok` returns them. -/
def fields (bytes : List UInt8) : List Str := tokens etx (cstr bytes)

/-- No field is empty. -/
theorem isEmpty_of_mem_fields {n : ℕ} {bytes : List UInt8} {a : CharArray n}
    (h : a.str ∈ fields bytes) : a.isEmpty = false := by
  rw [CharArray.isEmpty, List.isEmpty_eq_false_iff]
  exact ne_nil_of_mem_tokens h

/-- `token = strtok(..); strncpy(array, token, strlen(token))` on a cleared array of `n`
characters, with the fields that remain. -/
def nextField (n : ℕ) : List Str → Except Fault (CharArray n × List Str)
  | [] => .error .nullPointer
  | t :: ts =>
    match CharArray.strncpyLen? n t with
    | none => .error .overflow
    | some a => .ok (a, ts)

theorem nextField_eq_ok {n : ℕ} {ts rest : List Str} {a : CharArray n} :
    nextField n ts = .ok (a, rest) ↔ ts = a.str :: rest := by
  cases ts with
  | nil => simp [nextField]
  | cons t ts =>
    simp only [nextField]
    cases h : CharArray.strncpyLen? n t with
    | none =>
      have ht := CharArray.strncpyLen?_eq_none.mp h
      simp only [reduceCtorEq, List.cons.injEq, false_iff, not_and]
      intro hat
      have := a.fits
      rw [← hat] at this
      omega
    | some b =>
      have hb := CharArray.strncpyLen?_eq_some.mp h
      simp only [Except.ok.injEq, Prod.mk.injEq, List.cons.injEq, ← hb]
      constructor
      · rintro ⟨rfl, rfl⟩; exact ⟨rfl, rfl⟩
      · rintro ⟨hs, rfl⟩; exact ⟨CharArray.ext hs, rfl⟩

/-- A field that cannot be read is missing or does not fit. -/
theorem ne_cons_of_nextField {n : ℕ} {ts : List Str} {f : Fault} (h : nextField n ts = .error f)
    (a : CharArray n) (rest : List Str) : ts ≠ a.str :: rest := by
  intro hts
  rw [nextField_eq_ok.mpr hts] at h
  cases h

/-! A number is printed as one field. -/

theorem etx_not_mem_decimal (n : ℕ) : etx ∉ decimal n := by
  intro h
  obtain ⟨c, hc, he⟩ := List.mem_map.mp h
  have hdigit := Nat.isDigit_of_mem_toDigits (by decide) (by decide) hc
  rw [Char.isDigit, Bool.and_eq_true, decide_eq_true_eq, decide_eq_true_eq] at hdigit
  have h48 : 48 ≤ c.toNat := hdigit.1
  have h57 : c.toNat ≤ 57 := hdigit.2
  have h3 := congrArg UInt8.toNat he
  rw [show etx.toNat = 3 from rfl, Nat.toUInt8, UInt8.toNat_ofNat'] at h3
  omega

theorem decimal_ne_nil (n : ℕ) : decimal n ≠ [] := by
  simp [decimal, Nat.toDigits_ne_nil]

end ChatServer
