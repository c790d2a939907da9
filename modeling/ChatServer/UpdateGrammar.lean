import Mathlib.Data.List.TakeDrop
import ChatServer.ChannelUpdate
import ChatServer.Malformed

/-!
# The grammar of an update request

The fields of a request are given by a form, and a spelling says which texts stand for a flag, a
digit or a count. The grammar is one spelling, what the parser of `read_and_update_channel` takes
is another: every flag but "1" counts as "0", every digit but '1', '2' and '3' as '0', and a count
is whatever `strtol` makes of the field.
-/

namespace ChatServer

open CLib

/-- A count and the names behind it. -/
structure Counted where
  count : Str
  names : List Str

def Counted.fields (c : Counted) : List Str := c.count :: c.names

/-- The digit of an alteration and its two lists, of which the digit says whether they are there. -/
structure AlterationForm where
  digit : Str
  add : Counted
  remove : Counted

namespace AlterationForm

/-- The digits '1' and '3'. -/
def Adds (a : AlterationForm) : Prop := a.digit = ascii "1" ∨ a.digit = ascii "3"

/-- The digits '2' and '3'. -/
def Removes (a : AlterationForm) : Prop := a.digit = ascii "2" ∨ a.digit = ascii "3"

instance (a : AlterationForm) : Decidable a.Adds := inferInstanceAs (Decidable (_ ∨ _))

instance (a : AlterationForm) : Decidable a.Removes := inferInstanceAs (Decidable (_ ∨ _))

def fields (a : AlterationForm) : List Str :=
  a.digit :: ((if a.Adds then a.add.fields else []) ++ if a.Removes then a.remove.fields else [])

def addNames (a : AlterationForm) : List Str := if a.Adds then a.add.names else []

def removeNames (a : AlterationForm) : List Str := if a.Removes then a.remove.names else []

end AlterationForm

/-- What an update request says. -/
structure UpdateForm where
  channelName : Str
  changeName : Str
  newName : Str
  changePublicity : Str
  publicity : Str
  users : AlterationForm
  admins : AlterationForm
  banned : AlterationForm

def UpdateForm.fields (f : UpdateForm) : List Str :=
  f.channelName :: (flagged f.changeName f.newName ++ (flagged f.changePublicity f.publicity ++
    (f.users.fields ++ (f.admins.fields ++ f.banned.fields))))

def UpdateForm.alterations (f : UpdateForm) : List AlterationForm := [f.users, f.admins, f.banned]

/-- The names in the six lists of a request. -/
def UpdateForm.lists (f : UpdateForm) : List (List Str) :=
  f.alterations.flatMap fun a => [a.addNames, a.removeNames]

/-- The body with the fields, each with an ETX behind it. -/
def UpdateForm.body (f : UpdateForm) : List UInt8 := f.fields.flatMap fun t => t ++ [etx]

/-- Which texts stand for a flag, a publicity, a digit and a count. -/
structure Spelling where
  flag : Str → Prop
  publicity : Str → Prop
  digit : Str → Prop
  count : Str → ℕ → Prop

/-- The value of a run of decimal digits. -/
def digitsValue (t : Str) : Int := t.foldl (fun acc b => acc*10+(b.toNat-48 : Int)) 0

namespace Spelling

/-- The spelling of the grammar. -/
def strict : Spelling where
  flag t := t = ascii "0" ∨ t = ascii "1"
  publicity t := t = ascii "0" ∨ t = ascii "1"
  digit t := t = ascii "0" ∨ t = ascii "1" ∨ t = ascii "2" ∨ t = ascii "3"
  count t n := t ≠ [] ∧ t.all isdigit = true ∧ digitsValue t = n

/-- The spelling of the parser. -/
def lenient : Spelling where
  flag _ := True
  publicity _ := True
  digit t := t.length ≤ 1
  count t n := (strtolInt t).toNat = n

end Spelling

/-- The count is that of the names, and the list has room for them. -/
def Counted.Spelled (p : Spelling) (c : Counted) : Prop :=
  p.count c.count c.names.length ∧ c.names.length ≤ defaultListSize

structure AlterationForm.Spelled (p : Spelling) (a : AlterationForm) : Prop where
  digit : p.digit a.digit
  add : a.Adds → a.add.Spelled p
  remove : a.Removes → a.remove.Spelled p

structure UpdateForm.Spelled (p : Spelling) (f : UpdateForm) : Prop where
  changeName : p.flag f.changeName
  changePublicity : p.flag f.changePublicity
  publicity : f.changePublicity = ascii "1" → p.publicity f.publicity
  users : f.users.Spelled p
  admins : f.admins.Spelled p
  banned : f.banned.Spelled p

/-- The grammar: fields that are not empty, in the strict spelling. -/
structure UpdateForm.InGrammar (f : UpdateForm) : Prop where
  spelled : f.Spelled .strict
  text : ∀ t ∈ f.fields, t ≠ [] ∧ etx ∉ t ∧ 0 ∉ t

/-- What the parser takes. -/
structure UpdateForm.Accepted (f : UpdateForm) : Prop where
  spelled : f.Spelled .lenient
  channelName : f.channelName.length ≤ tokenNameLength

/-- The channel name and the names in the lists are not longer than their arrays. -/
structure UpdateForm.Fits (f : UpdateForm) : Prop where
  channelName : f.channelName.length ≤ tokenNameLength
  lists : ∀ names ∈ f.lists, ∀ t ∈ names, t.length ≤ tokenNameLength

section Counts

theorem not_isspace_of_isdigit {b : UInt8} (h : isdigit b = true) :
    isspace b = false ∧ b ≠ 45 ∧ b ≠ 43 := by
  rw [isdigit, Bool.and_eq_true, decide_eq_true_eq, decide_eq_true_eq, UInt8.le_iff_toNat_le,
    UInt8.le_iff_toNat_le] at h
  have h48 : (48 : UInt8).toNat = 48 := rfl
  have h57 : (57 : UInt8).toNat = 57 := rfl
  refine ⟨?_, ?_, ?_⟩
  · simp only [isspace, Bool.or_eq_false_iff, beq_eq_false_iff_ne, Bool.and_eq_false_iff,
      decide_eq_false_iff_not, UInt8.le_iff_toNat_le, ne_eq, ← UInt8.toNat_inj]
    have h13 : (13 : UInt8).toNat = 13 := rfl
    have h32 : (32 : UInt8).toNat = 32 := rfl
    omega
  · rintro rfl
    have h45 : (45 : UInt8).toNat = 45 := rfl
    omega
  · rintro rfl
    have h43 : (43 : UInt8).toNat = 43 := rfl
    omega

/-- `strtol` reads a decimal count that fits an `int`. -/
theorem strtolInt_of_digits {t : Str} (hne : t ≠ []) (hd : t.all isdigit = true) {n : ℕ}
    (hv : digitsValue t = n) (hn : n ≤ defaultListSize) : strtolInt t = n := by
  cases t with
  | nil => exact absurd rfl hne
  | cons b bs =>
    obtain ⟨hb, _⟩ := Bool.and_eq_true_iff.mp (List.all_cons.symm.trans hd)
    obtain ⟨hspace, hminus, hplus⟩ := not_isspace_of_isdigit hb
    have hall : (b :: bs).takeWhile isdigit = b :: bs :=
      List.takeWhile_eq_self_iff.mpr (List.all_eq_true.mp hd)
    have hdrop : (b :: bs).dropWhile isspace = b :: bs := by simp [hspace]
    have hsize : defaultListSize = 64 := rfl
    have hmin : min (n : Int) (2^63-1) = n := by omega
    rw [strtolInt, hdrop]
    dsimp only
    -- the first character is a digit and no sign
    split
    · rename_i heq
      exact absurd (List.cons.inj heq).1 hminus
    · rename_i heq
      exact absurd (List.cons.inj heq).1 hplus
    · dsimp only
      rw [hall, ← digitsValue, hv, if_neg Bool.false_ne_true, hmin]
      exact Int.bmod_eq_of_le (by omega) (by omega)

theorem Counted.Spelled.lenient {c : Counted} (h : c.Spelled .strict) : c.Spelled .lenient := by
  obtain ⟨⟨hne, hd, hv⟩, hle⟩ := h
  refine ⟨?_, hle⟩
  change (strtolInt c.count).toNat = _
  rw [strtolInt_of_digits hne hd hv hle]
  exact Int.toNat_natCast _

theorem AlterationForm.Spelled.lenient {a : AlterationForm} (h : a.Spelled .strict) :
    a.Spelled .lenient where
  digit := by
    show a.digit.length ≤ 1
    obtain h | h | h | h := h.digit <;> rw [h] <;> decide
  add ha := (h.add ha).lenient
  remove hr := (h.remove hr).lenient

/-- The parser takes every form of the grammar whose channel name fits. -/
theorem UpdateForm.InGrammar.accepted {f : UpdateForm} (h : f.InGrammar)
    (hname : f.channelName.length ≤ tokenNameLength) : f.Accepted where
  spelled := ⟨trivial, trivial, fun _ => trivial, h.spelled.users.lenient, h.spelled.admins.lenient,
    h.spelled.banned.lenient⟩
  channelName := hname

end Counts

section Lists

/-- The loop that copies names, when they are all there. -/
def writeNames (l : NameList) (i : ℕ) : List Str → NameList
  | [] => l
  | t :: ts => writeNames (l.set i (CharArray.strncpy _ t)) (i+1) ts

/-- The list that the parser makes of some names. -/
def nameList (names : List Str) : NameList := writeNames NameList.empty 0 names

theorem readNames_append (names ts : List Str) (l : NameList) (i : ℕ)
    (h : i+names.length ≤ defaultListSize) :
    readNames names.length i l (names ++ ts) = .ok (writeNames l i names, ts) := by
  induction names generalizing l i with
  | nil => rfl
  | cons t names ih =>
    rw [List.length_cons] at h
    rw [List.length_cons, List.cons_append, readNames, if_pos (by omega)]
    exact ih _ _ (by omega)

theorem writeNames_slots (names : List Str) {l : NameList} {ns : List Name} {n : ℕ}
    (h : l.slots = ns ++ List.replicate n (.empty _)) (hn : names.length ≤ n) :
    (writeNames l ns.length names).slots =
      ns ++ names.map (CharArray.strncpy _) ++ List.replicate (n-names.length) (.empty _) := by
  induction names generalizing l ns n with
  | nil => simpa [writeNames] using h
  | cons t names ih =>
    rw [List.length_cons] at hn
    obtain ⟨k, rfl⟩ : ∃ k, n = k+1 := ⟨n-1, by omega⟩
    have hnext := ih (slots_set_behind (CharArray.strncpy _ t) h) (by omega)
    rw [List.length_append, List.length_singleton] at hnext
    rw [writeNames, hnext, List.length_cons, Nat.add_sub_add_right]
    simp

/-- The names that a list has in the end. -/
theorem members_nameList {names : List Str} (hlen : names.length ≤ defaultListSize)
    (hne : ∀ t ∈ names, t ≠ []) : (nameList names).members = names.map (CharArray.strncpy _) := by
  have hempty : NameList.empty.slots = [] ++ List.replicate defaultListSize (.empty _) := rfl
  have hslots := writeNames_slots names hempty hlen
  refine members_of_slots hslots fun u hu => ?_
  obtain ⟨t, ht, rfl⟩ := List.mem_map.mp hu
  have htne := hne t ht
  simpa [CharArray.isEmpty, CharArray.strncpy] using htne

/-- A list has exactly the names of the request if and only if all of them fit. -/
theorem members_nameList_eq_iff {names : List Str} (hlen : names.length ≤ defaultListSize)
    (hne : ∀ t ∈ names, t ≠ []) :
    (nameList names).members.map (·.str) = names ↔ ∀ t ∈ names, t.length ≤ tokenNameLength := by
  have hmap := List.map_inj_left (l := names) (f := fun t => t.take tokenNameLength) (g := id)
  rw [List.map_id] at hmap
  rw [members_nameList hlen hne, List.map_map]
  exact hmap.trans (forall₂_congr fun t _ => List.take_eq_self_iff t)

end Lists

section Stages

/-- The variables that the parser fills for a form. -/
def AlterationForm.request (a : AlterationForm) : Alteration :=
  ⟨a.digit.headD 0, nameList a.addNames, nameList a.removeNames⟩

def UpdateForm.request (f : UpdateForm) : UpdateRequest where
  channelName := CharArray.strncpy _ f.channelName
  isChangeName := (flagValue f.changeName f.newName).isSome
  newChannelName := CharArray.strncpy _ ((flagValue f.changeName f.newName).getD [])
  isChangePublicity := (flagValue f.changePublicity f.publicity).isSome
  newPublicity := flagValue f.changePublicity f.publicity = some (ascii "1")
  users := f.users.request
  admins := f.admins.request
  banned := f.banned.request

theorem readCountedNames_fields {c : Counted} (h : c.Spelled .lenient) (ts : List Str) :
    readCountedNames (c.fields ++ ts) = .ok (nameList c.names, ts) := by
  change readNames (strtolInt c.count).toNat 0 NameList.empty (c.names ++ ts) = _
  rw [show (strtolInt c.count).toNat = c.names.length from h.1]
  exact readNames_append c.names ts NameList.empty 0 (by rw [Nat.zero_add]; exact h.2)

/-- What a list stage takes is a count and as many names. -/
theorem exists_of_readCountedNames {ts us : List Str} {l : NameList}
    (h : readCountedNames ts = .ok (l, us)) :
    ∃ c : Counted, c.Spelled .lenient ∧ ts = c.fields ++ us := by
  cases ts with
  | nil => cases h
  | cons count ts =>
    have h : readNames (strtolInt count).toNat 0 NameList.empty ts = .ok (l, us) := h
    have hlen := length_of_readNames _ _ _ ts h
    have hrest := readNames_rest _ _ _ ts h
    have hno : ¬ Faults (readNames (strtolInt count).toNat 0 NameList.empty ts) := by
      rw [h]
      simp [Faults]
    rw [readNames_faults _ _ _ _ (Nat.zero_le _), Nat.zero_add, Nat.zero_add] at hno
    refine ⟨⟨count, ts.take (strtolInt count).toNat⟩, ⟨?_, ?_⟩, ?_⟩
    · change (strtolInt count).toNat = (ts.take _).length
      rw [List.length_take]
      omega
    · change (ts.take _).length ≤ _
      rw [List.length_take]
      omega
    · rw [hrest, Counted.fields, List.cons_append, List.take_append_drop]

theorem exists_of_readFlagged {ts us : List Str} {x : Option Str}
    (h : readFlagged ts = .ok (x, us)) : ∃ flag value, ts = flagged flag value ++ us := by
  cases ts with
  | nil => cases h
  | cons flag ts =>
    by_cases hflag : flag = ascii "1"
    · cases ts with
      | nil => rw [hflag] at h; cases h
      | cons value ts =>
        rw [hflag] at h
        cases h
        refine ⟨flag, value, ?_⟩
        rw [flagged, if_pos hflag]
        rfl
    · refine ⟨flag, [], ?_⟩
      have h : (if flag = ascii "1" then _ else Except.ok (none, ts)) = .ok (x, us) := h
      rw [if_neg hflag] at h
      cases h
      rw [flagged, if_neg hflag]
      rfl

theorem adds_removes_of_digit (a : AlterationForm) :
    (a.digit = ascii "1" → a.Adds ∧ ¬ a.Removes) ∧ (a.digit = ascii "2" → ¬ a.Adds ∧ a.Removes) ∧
      (a.digit = ascii "3" → a.Adds ∧ a.Removes) ∧
      (a.digit ≠ ascii "1" → a.digit ≠ ascii "2" → a.digit ≠ ascii "3" →
        ¬ a.Adds ∧ ¬ a.Removes) := by
  have h12 : ascii "1" ≠ ascii "2" := by decide
  have h13 : ascii "1" ≠ ascii "3" := by decide
  have h23 : ascii "2" ≠ ascii "3" := by decide
  refine ⟨fun h => ?_, fun h => ?_, fun h => ?_, fun h₁ h₂ h₃ => ?_⟩
  · simp [AlterationForm.Adds, AlterationForm.Removes, h, h12, h13]
  · simp [AlterationForm.Adds, AlterationForm.Removes, h, h12.symm, h23]
  · simp [AlterationForm.Adds, AlterationForm.Removes, h]
  · simp [AlterationForm.Adds, AlterationForm.Removes, h₁, h₂, h₃]

theorem readAlteration_fields {a : AlterationForm} (h : a.Spelled .lenient) (ts : List Str) :
    readAlteration (a.fields ++ ts) = .ok (a.request, ts) := by
  obtain ⟨hone, htwo, hthree, hother⟩ := adds_removes_of_digit a
  have hshort : a.digit.length ≤ 1 := h.digit
  obtain ⟨hlong, _⟩ | ⟨hd, heq⟩ | ⟨hd, heq⟩ | ⟨hd, heq⟩ | ⟨_, h₁, h₂, h₃, heq⟩ :=
    readAlteration_cases a.digit
  · omega
  · obtain ⟨hadd, hrem⟩ := hone hd
    rw [AlterationForm.fields, if_pos hadd, if_neg hrem, List.append_nil, List.cons_append, heq,
      readCountedNames_fields (h.add hadd), AlterationForm.request, AlterationForm.addNames,
      AlterationForm.removeNames, if_pos hadd, if_neg hrem, hd]
    rfl
  · obtain ⟨hadd, hrem⟩ := htwo hd
    rw [AlterationForm.fields, if_neg hadd, if_pos hrem, List.nil_append, List.cons_append, heq,
      readCountedNames_fields (h.remove hrem), AlterationForm.request, AlterationForm.addNames,
      AlterationForm.removeNames, if_neg hadd, if_pos hrem, hd]
    rfl
  · obtain ⟨hadd, hrem⟩ := hthree hd
    rw [AlterationForm.fields, if_pos hadd, if_pos hrem, List.cons_append, List.append_assoc, heq,
      readCountedNames_fields (h.add hadd), AlterationForm.request, AlterationForm.addNames,
      AlterationForm.removeNames, if_pos hadd, if_pos hrem, hd]
    change (readCountedNames (a.remove.fields ++ ts) >>= _) = _
    rw [readCountedNames_fields (h.remove hrem)]
    rfl
  · obtain ⟨hadd, hrem⟩ := hother h₁ h₂ h₃
    rw [AlterationForm.fields, if_neg hadd, if_neg hrem, List.cons_append, List.append_nil, heq,
      AlterationForm.request, AlterationForm.addNames, AlterationForm.removeNames, if_neg hadd,
      if_neg hrem]
    rfl

/-- What an alteration stage takes is a digit and the lists that go with it. -/
theorem exists_of_readAlteration {ts us : List Str} {x : Alteration}
    (h : readAlteration ts = .ok (x, us)) :
    ∃ a : AlterationForm, a.Spelled .lenient ∧ ts = a.fields ++ us := by
  cases ts with
  | nil => cases h
  | cons digit ts =>
    have hshort : ∀ c : String, (ascii c).length = 1 → digit = ascii c → digit.length ≤ 1 := by
      rintro c hc rfl
      omega
    obtain ⟨_, heq⟩ | ⟨hd, heq⟩ | ⟨hd, heq⟩ | ⟨hd, heq⟩ | ⟨hle, h₁, h₂, h₃, heq⟩ :=
      readAlteration_cases digit
    · rw [heq] at h
      cases h
    · rw [heq] at h
      obtain ⟨⟨l, us'⟩, hl, h⟩ := bind_eq_ok h
      cases h
      obtain ⟨c, hc, rfl⟩ := exists_of_readCountedNames hl
      obtain ⟨hadd, hrem⟩ := (adds_removes_of_digit ⟨digit, c, c⟩).1 hd
      refine ⟨⟨digit, c, c⟩, ⟨hshort "1" rfl hd, fun _ => hc, fun hr => absurd hr hrem⟩, ?_⟩
      rw [AlterationForm.fields, if_pos hadd, if_neg hrem, List.append_nil, List.cons_append]
    · rw [heq] at h
      obtain ⟨⟨l, us'⟩, hl, h⟩ := bind_eq_ok h
      cases h
      obtain ⟨c, hc, rfl⟩ := exists_of_readCountedNames hl
      obtain ⟨hadd, hrem⟩ := (adds_removes_of_digit ⟨digit, c, c⟩).2.1 hd
      refine ⟨⟨digit, c, c⟩, ⟨hshort "2" rfl hd, fun ha => absurd ha hadd, fun _ => hc⟩, ?_⟩
      rw [AlterationForm.fields, if_neg hadd, if_pos hrem, List.nil_append, List.cons_append]
    · rw [heq] at h
      obtain ⟨⟨l, us'⟩, hl, h⟩ := bind_eq_ok h
      obtain ⟨⟨l', vs⟩, hl', h⟩ := bind_eq_ok h
      cases h
      obtain ⟨c, hc, rfl⟩ := exists_of_readCountedNames hl
      obtain ⟨c', hc', hus⟩ := exists_of_readCountedNames hl'
      obtain ⟨hadd, hrem⟩ := (adds_removes_of_digit ⟨digit, c, c'⟩).2.2.1 hd
      refine ⟨⟨digit, c, c'⟩, ⟨hshort "3" rfl hd, fun _ => hc, fun _ => hc'⟩, ?_⟩
      dsimp only at hus
      rw [AlterationForm.fields, if_pos hadd, if_pos hrem, List.cons_append, List.append_assoc, hus]
    · rw [heq] at h
      cases h
      obtain ⟨hadd, hrem⟩ := (adds_removes_of_digit ⟨digit, ⟨[], []⟩, ⟨[], []⟩⟩).2.2.2 h₁ h₂ h₃
      refine ⟨⟨digit, ⟨[], []⟩, ⟨[], []⟩⟩,
        ⟨hle, fun ha => absurd ha hadd, fun hr => absurd hr hrem⟩, ?_⟩
      rw [AlterationForm.fields, if_neg hadd, if_neg hrem, List.append_nil, List.cons_append,
        List.nil_append]

theorem parseUpdate_fields {f : UpdateForm} (h : f.Accepted) :
    parseUpdate f.fields = .ok f.request := by
  have hname : CharArray.strncpyLen? tokenNameLength f.channelName =
      some (CharArray.strncpy _ f.channelName) :=
    CharArray.strncpyLen?_eq_some.mpr (List.take_of_length_le h.channelName)
  have hbanned := readAlteration_fields h.spelled.banned []
  rw [List.append_nil] at hbanned
  simp only [parseUpdate, UpdateForm.fields, requireToken, hname, readFlagged_flagged,
    readAlteration_fields h.spelled.users, readAlteration_fields h.spelled.admins, hbanned, bind,
    Except.bind, pure, Except.pure]
  rfl

/-- What the parser takes is a form in its spelling. -/
theorem exists_of_parseUpdate {fs : List Str} {u : UpdateRequest} (h : parseUpdate fs = .ok u) :
    ∃ f : UpdateForm, f.Accepted ∧ fs = f.fields := by
  obtain ⟨name, ts, _, us₁, _, us₂, us₃, us₄, rfl, hname, e₁, e₂, e₃, e₄, e₅, _, _⟩ :=
    parseUpdate_stages h
  obtain ⟨f₁, v₁, rfl⟩ := exists_of_readFlagged e₁
  obtain ⟨f₂, v₂, rfl⟩ := exists_of_readFlagged e₂
  obtain ⟨a₃, h₃, rfl⟩ := exists_of_readAlteration e₃
  obtain ⟨a₄, h₄, rfl⟩ := exists_of_readAlteration e₄
  obtain ⟨a₅, h₅, rfl⟩ := exists_of_readAlteration e₅
  refine ⟨⟨name, f₁, v₁, f₂, v₂, a₃, a₄, a₅⟩,
    ⟨⟨trivial, trivial, fun _ => trivial, h₃, h₄, h₅⟩, ?_⟩, ?_⟩
  · show name.length ≤ tokenNameLength
    rw [← CharArray.strncpyLen?_eq_some.mp hname]
    exact u.channelName.fits
  · rw [UpdateForm.fields, List.append_nil]

/-- The fields of a body in the grammar are those of its form. -/
theorem fields_body {f : UpdateForm} (h : ∀ t ∈ f.fields, t ≠ [] ∧ etx ∉ t ∧ 0 ∉ t) :
    fields f.body = f.fields := by
  have hcstr : cstr f.body = f.body := by
    refine List.takeWhile_eq_self_iff.mpr fun b hb => ?_
    obtain ⟨t, ht, hbt⟩ := List.mem_flatMap.mp hb
    obtain hbt | hbt := List.mem_append.mp hbt
    · exact decide_eq_true fun h0 => (h t ht).2.2 (h0 ▸ hbt)
    · rw [List.mem_singleton.mp hbt]
      decide
  rw [fields, hcstr]
  exact tokens_flatMap fun t ht => ⟨(h t ht).1, (h t ht).2.1⟩

end Stages

section Verdict

variable {f : UpdateForm} {s : State} {env : Env} {n : ℕ} {bytes : List UInt8} {u : UpdateRequest}

theorem AlterationForm.names_subset (a : AlterationForm) :
    a.addNames ⊆ a.fields ∧ a.removeNames ⊆ a.fields := by
  constructor
  · intro t ht
    rw [addNames] at ht
    split at ht
    · rename_i hadd
      rw [fields, if_pos hadd]
      exact List.mem_cons_of_mem _ (List.mem_append_left _ (List.mem_cons_of_mem _ ht))
    · cases ht
  · intro t ht
    rw [removeNames] at ht
    split at ht
    · rename_i hrem
      rw [fields, if_pos hrem]
      exact List.mem_cons_of_mem _ (List.mem_append_right _ (List.mem_cons_of_mem _ ht))
    · cases ht

theorem AlterationForm.Spelled.length_names {p : Spelling} {a : AlterationForm}
    (h : a.Spelled p) :
    a.addNames.length ≤ defaultListSize ∧ a.removeNames.length ≤ defaultListSize := by
  constructor
  · rw [addNames]
    split
    · rename_i hadd
      exact (h.add hadd).2
    · exact Nat.zero_le _
  · rw [removeNames]
    split
    · rename_i hrem
      exact (h.remove hrem).2
    · exact Nat.zero_le _

theorem UpdateForm.fields_subset {a : AlterationForm} (h : a ∈ f.alterations) :
    a.fields ⊆ f.fields := by
  intro t ht
  rw [alterations, List.mem_cons, List.mem_cons, List.mem_singleton] at h
  obtain rfl | rfl | rfl := h <;> simp [fields, ht]

/-- The lists have room for their names, and the names are fields. -/
theorem UpdateForm.Spelled.lists {p : Spelling} (h : f.Spelled p) {names : List Str}
    (hnames : names ∈ f.lists) : names.length ≤ defaultListSize ∧ names ⊆ f.fields := by
  obtain ⟨a, ha, hnames⟩ := List.mem_flatMap.mp hnames
  have hspelled : a.Spelled p := by
    rw [alterations, List.mem_cons, List.mem_cons, List.mem_singleton] at ha
    obtain rfl | rfl | rfl := ha
    · exact h.users
    · exact h.admins
    · exact h.banned
  have hsub := fields_subset ha
  rw [List.mem_cons, List.mem_singleton] at hnames
  obtain rfl | rfl := hnames
  · exact ⟨hspelled.length_names.1, fun t ht => hsub (a.names_subset.1 ht)⟩
  · exact ⟨hspelled.length_names.2, fun t ht => hsub (a.names_subset.2 ht)⟩

/-- The six lists that the parser fills. -/
def UpdateRequest.lists (u : UpdateRequest) : List NameList :=
  [u.users.add, u.users.remove, u.admins.add, u.admins.remove, u.banned.add, u.banned.remove]

/-- The lists have exactly the names of the form if and only if all of these fit. -/
theorem lists_request_iff (h : f.InGrammar) :
    f.request.lists.map (fun l => l.members.map (·.str)) = f.lists ↔
      ∀ names ∈ f.lists, ∀ t ∈ names, t.length ≤ tokenNameLength := by
  have hmap := List.map_inj_left (l := f.lists)
    (f := fun names => (nameList names).members.map (·.str)) (g := id)
  rw [List.map_id] at hmap
  refine hmap.trans (forall₂_congr fun names hnames => ?_)
  obtain ⟨hlen, hsub⟩ := h.spelled.lists hnames
  exact members_nameList_eq_iff hlen fun t ht => (h.text t (hsub ht)).1

/-- Past the parser, no return value is 400. -/
theorem returns_of_parseUpdate (s : State) (env : Env) (hn : bodyIncomplete n bytes = false)
    (hu : parseUpdate (fields bytes) = .ok u) :
    ∃ reply, (readAndUpdateChannel s env n bytes).value = .ok reply ∧
      reply.result ≠ errorChannel400 := by
  rw [readAndUpdateChannel, if_neg (by simp [hn]), hu]
  dsimp only
  split
  · exact ⟨_, rfl, by decide⟩
  · split
    · exact ⟨_, rfl, by decide⟩
    · rw [applyUpdate]
      dsimp only
      split
      · exact ⟨_, rfl, by decide⟩
      · split
        · exact ⟨_, rfl, by decide⟩
        · split
          · exact ⟨_, rfl, by decide⟩
          · exact ⟨_, rfl, show (0 : Int) ≠ errorChannel400 by decide⟩

/-- A channel name or a list that is too long for its array. -/
def UpdateOverruns (fs : List Str) : Prop :=
  (∃ t ∈ fs.head?, tokenNameLength < t.length) ∨ ∃ l ∈ updateLists fs, overruns l = true

/-- What the grammar asks of the parser: a body of the grammar gets past it with exactly its names
in the lists, any other is refused with 400. -/
structure ParsesGrammar (s : State) (env : Env) (n : ℕ) (bytes : List UInt8) : Prop where
  accepted : ∀ f : UpdateForm, f.InGrammar → bytes = f.body →
    (∃ reply, (readAndUpdateChannel s env n bytes).value = .ok reply ∧
      reply.result ≠ errorChannel400) ∧
    ∃ u, parseUpdate (fields bytes) = .ok u ∧
      u.lists.map (fun l => l.members.map (·.str)) = f.lists
  refused : (¬ ∃ f : UpdateForm, f.InGrammar ∧ bytes = f.body) →
    readAndUpdateChannel s env n bytes = .reply s errorChannel400 []

/-- A body of the grammar is accepted if and only if its names fit. -/
theorem accepted_iff (hn : bodyIncomplete n bytes = false) (h : f.InGrammar)
    (hb : bytes = f.body) :
    ((∃ reply, (readAndUpdateChannel s env n bytes).value = .ok reply ∧
        reply.result ≠ errorChannel400) ∧
      ∃ u, parseUpdate (fields bytes) = .ok u ∧
        u.lists.map (fun l => l.members.map (·.str)) = f.lists) ↔ f.Fits := by
  have hfs : fields bytes = f.fields := by
    rw [hb]
    exact fields_body h.text
  constructor
  · rintro ⟨_, u, hu, hlists⟩
    have hname : f.channelName.length ≤ tokenNameLength := by
      obtain ⟨name, _, _, _, _, _, _, _, hcons, hname, _⟩ := parseUpdate_stages hu
      rw [hfs, UpdateForm.fields, List.cons.injEq] at hcons
      rw [hcons.1, ← CharArray.strncpyLen?_eq_some.mp hname]
      exact u.channelName.fits
    rw [hfs, parseUpdate_fields (h.accepted hname), Except.ok.injEq] at hu
    rw [← hu] at hlists
    exact ⟨hname, (lists_request_iff h).mp hlists⟩
  · intro hfits
    have hu : parseUpdate (fields bytes) = .ok f.request := by
      rw [hfs]
      exact parseUpdate_fields (h.accepted hfits.channelName)
    exact ⟨returns_of_parseUpdate s env hn hu, f.request, hu,
      (lists_request_iff h).mpr hfits.lists⟩

/-- The parser returns 400 if and only if it neither takes the fields nor overruns an array. -/
theorem refused_iff (hn : bodyIncomplete n bytes = false) :
    readAndUpdateChannel s env n bytes = .reply s errorChannel400 [] ↔
      ¬ UpdateOverruns (fields bytes) ∧
        ¬ ∃ f : UpdateForm, f.Accepted ∧ fields bytes = f.fields := by
  have hfaults := parseUpdate_faults (fields bytes)
  cases hu : parseUpdate (fields bytes) with
  | ok u =>
    refine iff_of_false (fun h => ?_) (fun h => h.2 (exists_of_parseUpdate hu))
    obtain ⟨reply, hreply, hne⟩ := returns_of_parseUpdate s env hn hu
    rw [h] at hreply
    cases hreply
    exact hne rfl
  | error e =>
    rw [hu] at hfaults
    cases e with
    | badRequest =>
      refine iff_of_true ?_ ⟨fun h => ?_, ?_⟩
      · rw [readAndUpdateChannel, if_neg (by simp [hn]), hu]
      · obtain ⟨_, hf⟩ := hfaults.mpr h
        cases hf
      · rintro ⟨f, hf, hfs⟩
        rw [hfs, parseUpdate_fields hf] at hu
        cases hu
    | fault e =>
      refine iff_of_false (fun h => ?_) (fun h => h.1 (hfaults.mp ⟨e, rfl⟩))
      rw [readAndUpdateChannel, if_neg (by simp [hn]), hu] at h
      cases congrArg Outcome.value h

end Verdict

/-- Whatever the state and the body: the parser of an update accepts exactly its grammar on the body
if and only if, for a body of the grammar, the channel name and the names in the lists fit their
arrays, and any other body overruns no array and is no form in the parser's own spelling. -/
theorem update_grammar_iff (s : State) (env : Env) (n : ℕ) (bytes : List UInt8)
    (hn : bodyIncomplete n bytes = false) :
    ParsesGrammar s env n bytes ↔
      (∀ f : UpdateForm, f.InGrammar → bytes = f.body → f.Fits) ∧
        ((¬ ∃ f : UpdateForm, f.InGrammar ∧ bytes = f.body) →
          ¬ UpdateOverruns (fields bytes) ∧
            ¬ ∃ f : UpdateForm, f.Accepted ∧ fields bytes = f.fields) := by
  constructor
  · intro h
    exact ⟨fun f hf hb => (accepted_iff hn hf hb).mp (h.accepted f hf hb),
      fun hno => (refused_iff hn).mp (h.refused hno)⟩
  · rintro ⟨hfits, hrest⟩
    exact ⟨fun f hf hb => (accepted_iff hn hf hb).mpr (hfits f hf hb),
      fun hno => (refused_iff hn).mpr (hrest hno)⟩

/-- Short fields fit, wherever they stand. -/
theorem UpdateForm.InGrammar.fits {f : UpdateForm} (h : f.InGrammar)
    (hshort : ∀ t ∈ f.fields, t.length ≤ tokenNameLength) : f.Fits where
  channelName := hshort f.channelName List.mem_cons_self
  lists _ hnames t ht := hshort t ((h.spelled.lists hnames).2 ht)

/-- A request that adds one user to a channel. -/
def addBobForm : UpdateForm where
  channelName := ascii "tea"
  changeName := ascii "0"
  newName := []
  changePublicity := ascii "0"
  publicity := []
  users := ⟨ascii "1", ⟨ascii "1", [ascii "bob"]⟩, ⟨[], []⟩⟩
  admins := ⟨ascii "0", ⟨[], []⟩, ⟨[], []⟩⟩
  banned := ⟨ascii "0", ⟨[], []⟩, ⟨[], []⟩⟩

theorem inGrammar_addBobForm : addBobForm.InGrammar where
  spelled := by
    have hnone : AlterationForm.Spelled .strict ⟨ascii "0", ⟨[], []⟩, ⟨[], []⟩⟩ :=
      ⟨Or.inl rfl, fun h => absurd h (by decide), fun h => absurd h (by decide)⟩
    refine ⟨Or.inl rfl, Or.inl rfl, fun h => absurd h (by decide), ⟨Or.inr (Or.inl rfl), ?_, ?_⟩,
      hnone, hnone⟩
    · exact fun _ => ⟨⟨by decide, by decide, by decide⟩, by decide⟩
    · exact fun h => absurd h (by decide)
  text := by decide

theorem update_grammar_addBobForm :
    ParsesGrammar Client.start.state Client.firstEnv 20
      (Client.body ["tea", "0", "0", "1", "1", "bob", "0", "0"]) := by
  refine (update_grammar_iff Client.start.state Client.firstEnv 20
    (Client.body ["tea", "0", "0", "1", "1", "bob", "0", "0"]) (by decide)).mpr
    ⟨fun f hf hb => hf.fits ?_, fun hno => absurd ⟨addBobForm, inGrammar_addBobForm, ?_⟩ hno⟩
  · rw [← fields_body hf.text, ← hb]
    decide
  · decide

/-- The digit '7' is none of the grammar, and the parser takes it for '0'. -/
theorem update_not_grammar :
    ¬ ParsesGrammar (Life.run teaLife).state Client.firstEnv 14
      (Client.body ["tea", "0", "0", "7", "0", "0"]) := by
  intro h
  have hrefused := h.refused (by
    rintro ⟨f, hf, hb⟩
    have hfs : f.fields = fields (Client.body ["tea", "0", "0", "7", "0", "0"]) := by
      rw [hb, fields_body hf.text]
    rw [show fields (Client.body ["tea", "0", "0", "7", "0", "0"]) = [ascii "tea", ascii "0",
      ascii "0", ascii "7", ascii "0", ascii "0"] by decide] at hfs
    simp only [UpdateForm.fields, AlterationForm.fields, flagged, List.cons_append,
      List.cons.injEq] at hfs
    obtain ⟨_, hname, hfs⟩ := hfs
    rw [if_neg (by rw [hname]; decide), List.nil_append, List.cons.injEq] at hfs
    obtain ⟨hpub, hfs⟩ := hfs
    rw [if_neg (by rw [hpub]; decide), List.nil_append, List.cons.injEq] at hfs
    obtain ⟨hdigit, _⟩ := hfs
    obtain h | h | h | h := hf.spelled.users.digit <;>
      exact absurd (hdigit.symm.trans h) (by decide))
  exact absurd (congrArg Outcome.value hrefused) (by decide +kernel)

end ChatServer
