import ChatServer.Lib.Dbm
import ChatServer.Lib.Numeral

/-!
# Tables printed as text

A program prints the records of a database one by one, each as a row of columns with commas between
them, under a title. Rows of columns without a comma and without an end of line can be read
back, and with the rows the database.
-/

namespace CLib

/-- `printf("%s, %s, ..", ..)` -/
def row : List Str → Str
  | [] => []
  | [c] => c
  | c :: c' :: cs => c ++ ascii ", " ++ row (c' :: cs)

/-- Every line with `\n` behind it. -/
def text (lines : List Str) : Str := lines.flatMap fun l => l ++ [10]

@[simp] theorem text_append (ls ls' : List Str) : text (ls ++ ls') = text ls ++ text ls' :=
  List.flatMap_append

/-- What stands in front of the first delimiter and behind it. -/
theorem append_delimiter_inj {α : Type} {d : α} {s s' t t' : List α} (hs : d ∉ s) (hs' : d ∉ s')
    (h : s ++ d :: t = s' ++ d :: t') : s = s' ∧ t = t' := by
  induction s generalizing s' with
  | nil =>
    cases s' with
    | nil => exact ⟨rfl, (List.cons_eq_cons.mp h).2⟩
    | cons x s' =>
      rw [(List.cons_eq_cons.mp h).1] at hs'
      exact absurd List.mem_cons_self hs'
  | cons x s ih =>
    cases s' with
    | nil =>
      rw [← (List.cons_eq_cons.mp h).1] at hs
      exact absurd List.mem_cons_self hs
    | cons y s' =>
      obtain ⟨rfl, htail⟩ := List.cons_eq_cons.mp h
      obtain ⟨rfl, ht⟩ := ih (fun hm => hs (List.mem_cons_of_mem x hm))
        (fun hm => hs' (List.mem_cons_of_mem x hm)) htail
      exact ⟨rfl, ht⟩

theorem row_inj {cs cs' : List Str} (hlen : cs.length = cs'.length) (h : ∀ c ∈ cs, 44 ∉ c)
    (h' : ∀ c ∈ cs', 44 ∉ c) (he : row cs = row cs') : cs = cs' := by
  induction cs using row.induct generalizing cs' with
  | case1 => exact (List.length_eq_zero_iff.mp hlen.symm).symm
  | case2 c =>
    obtain ⟨c', rfl⟩ := List.length_eq_one_iff.mp hlen.symm
    exact congrArg (fun c => [c]) he
  | case3 c c₁ cs ih =>
    match cs', hlen with
    | [], hlen => cases hlen
    | [d], hlen => cases hlen
    | d :: d₁ :: ds, hlen =>
      obtain ⟨hc, hcs⟩ := List.forall_mem_cons.mp h
      obtain ⟨hd, hds⟩ := List.forall_mem_cons.mp h'
      rw [row, row, List.append_assoc, List.append_assoc] at he
      obtain ⟨rfl, hrest⟩ := append_delimiter_inj hc hd he
      rw [ih (Nat.succ_injective hlen) hcs hds (List.cons_eq_cons.mp hrest).2]

theorem mem_row {cs : List Str} {b : UInt8} (h : b ∈ row cs) :
    b = 44 ∨ b = 32 ∨ ∃ c ∈ cs, b ∈ c := by
  induction cs using row.induct with
  | case1 => cases h
  | case2 c => exact Or.inr (Or.inr ⟨c, List.mem_cons_self, h⟩)
  | case3 c c' cs ih =>
    rw [row, List.mem_append, List.mem_append] at h
    obtain (h | h) | h := h
    · exact Or.inr (Or.inr ⟨c, List.mem_cons_self, h⟩)
    · have h : b = 44 ∨ b = 32 := by simpa [ascii] using h
      exact h.imp_right Or.inl
    · obtain h | h | ⟨c₁, hc₁, h⟩ := ih h
      · exact Or.inl h
      · exact Or.inr (Or.inl h)
      · exact Or.inr (Or.inr ⟨c₁, List.mem_cons_of_mem c hc₁, h⟩)

/-- A row with a comma is not an empty line. -/
theorem row_ne_nil (c c' : Str) (cs : List Str) : row (c :: c' :: cs) ≠ [] := by
  simp [row, ascii]

theorem text_inj {ls ls' : List Str} (h : ∀ l ∈ ls, 10 ∉ l) (h' : ∀ l ∈ ls', 10 ∉ l)
    (he : text ls = text ls') : ls = ls' := by
  have hsplit := congrArg (fun s : Str => s.splitOn 10) he
  simp only [text, splitOn_flatMap h, splitOn_flatMap h'] at hsplit
  exact List.append_cancel_right hsplit

end CLib

namespace KeyOrder

variable {K V : Type} [DecidableEq K]

/-- The keys with their records in the order of the enumeration, each record fetched by its key. -/
def entries (o : KeyOrder K V) (d : Dbm K V) : List (K × V) :=
  (o.keys d).filterMap fun k => (d.lookup k).map fun v => (k, v)

theorem mem_entries {o : KeyOrder K V} {d : Dbm K V} {k : K} {v : V} :
    (k, v) ∈ o.entries d ↔ d.lookup k = some v := by
  rw [entries, List.mem_filterMap]
  constructor
  · rintro ⟨k', _, h⟩
    obtain ⟨v', hv', he⟩ := Option.map_eq_some_iff.mp h
    cases he
    exact hv'
  · intro h
    refine ⟨k, (o.perm d).mem_iff.mpr (AList.lookup_isSome.mp (by rw [h]; rfl)), ?_⟩
    rw [h]
    rfl

/-- The loop over the keys prints the entries. -/
theorem flatMap_keys {β : Type} (o : KeyOrder K V) (d : Dbm K V) (f : K → V → List β) :
    ((o.keys d).flatMap fun k => ((d.lookup k).map (f k)).getD []) =
      (o.entries d).flatMap fun e => f e.1 e.2 := by
  rw [entries]
  induction o.keys d with
  | nil => rfl
  | cons k ks ih =>
    rw [List.flatMap_cons, ih, List.filterMap_cons]
    cases d.lookup k with
    | none => rfl
    | some v => rfl

/-- Databases are equal if what is shown of their entries is, whatever the orders, when an entry is
known from what is shown of it. -/
theorem lookup_eq_of_map_entries {β : Type} {o o' : KeyOrder K V} {d d' : Dbm K V} {f : K × V → β}
    (hinj : ∀ e ∈ o.entries d, ∀ e' ∈ o'.entries d', f e = f e' → e = e')
    (h : (o.entries d).map f = (o'.entries d').map f) (k : K) : d.lookup k = d'.lookup k := by
  have hiff : ∀ v, d.lookup k = some v ↔ d'.lookup k = some v := by
    intro v
    constructor
    · intro hv
      obtain ⟨e', he', hf⟩ := List.mem_map.mp (h ▸ List.mem_map_of_mem (mem_entries.mpr hv))
      rw [← hinj _ (mem_entries.mpr hv) e' he' hf.symm] at he'
      exact mem_entries.mp he'
    · intro hv
      obtain ⟨e, he, hf⟩ := List.mem_map.mp (h.symm ▸ List.mem_map_of_mem (mem_entries.mpr hv))
      rw [hinj e he _ (mem_entries.mpr hv) hf] at he
      exact mem_entries.mp he
  exact Option.ext hiff

end KeyOrder
