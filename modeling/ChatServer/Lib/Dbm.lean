import Mathlib.Data.List.AList

/-!
# Keyed databases

A database in the manner of `ndbm` is a finite map: `dbm_fetch` looks a key up,
`dbm_store` with `DBM_REPLACE` binds it and `dbm_delete` unbinds it. The order in
which `dbm_firstkey` and `dbm_nextkey` enumerate the keys is not specified; a
`KeyOrder` is any such order, and results that must not depend on it are stated
for all of them.
-/

/-- A database with keys in `K` and records in `V`. -/
abbrev Dbm (K V : Type) := AList (fun _ : K => V)

/-- An enumeration of the keys of every database, each key exactly once. -/
structure KeyOrder (K V : Type) where
  keys : Dbm K V → List K
  perm : ∀ d, (keys d).Perm d.keys

namespace Dbm

variable {K V : Type} [DecidableEq K]

theorem lookup_insert_iff {d : Dbm K V} {k k' : K} {v w : V} :
    (d.insert k v).lookup k' = some w ↔ (k' = k ∧ v = w) ∨ (k' ≠ k ∧ d.lookup k' = some w) := by
  by_cases h : k' = k
  · subst h; simp
  · simp [AList.lookup_insert_ne h, h]

theorem lookup_erase_iff {d : Dbm K V} {k k' : K} {w : V} :
    (d.erase k).lookup k' = some w ↔ k' ≠ k ∧ d.lookup k' = some w := by
  by_cases h : k' = k
  · subst h; simp
  · simp [AList.lookup_erase_ne h, h]

theorem lookup_insert_eq (d : Dbm K V) (k : K) (v : V) (k' : K) :
    (d.insert k v).lookup k' = if k' = k then some v else d.lookup k' := by
  by_cases h : k' = k
  · rw [if_pos h, h, AList.lookup_insert]
  · rw [if_neg h, AList.lookup_insert_ne h]

theorem lookup_erase_eq (d : Dbm K V) (k k' : K) :
    (d.erase k).lookup k' = if k' = k then none else d.lookup k' := by
  by_cases h : k' = k
  · rw [if_pos h, h, AList.lookup_erase]
  · rw [if_neg h, AList.lookup_erase_ne h]

/-- What is there after a store was there before or is what was stored. -/
theorem lookup_of_insert {d : Dbm K V} {k k' : K} {v w : V}
    (h : (d.insert k v).lookup k' = some w) : d.lookup k' = some w ∨ k' = k ∧ w = v := by
  obtain ⟨hk, hv⟩ | ⟨_, hw⟩ := lookup_insert_iff.mp h
  · exact Or.inr ⟨hk, hv.symm⟩
  · exact Or.inl hw

/-- A store keeps what is there if and only if it replaces nothing but an equal record. -/
theorem insert_keeps_iff {d : Dbm K V} {k : K} {v : V} :
    (∀ k' w, d.lookup k' = some w → (d.insert k v).lookup k' = some w) ↔
      ∀ w, d.lookup k = some w → w = v := by
  constructor
  · intro h w hw
    have hkw := h k w hw
    rw [AList.lookup_insert] at hkw
    exact (Option.some.inj hkw).symm
  · intro h k' w hw
    rw [lookup_insert_iff]
    by_cases hk : k' = k
    · exact Or.inl ⟨hk, (h w (hk ▸ hw)).symm⟩
    · exact Or.inr ⟨hk, hw⟩

/-- Every record, with its key, has the property. -/
def All (d : Dbm K V) (P : K → V → Prop) : Prop := ∀ k v, d.lookup k = some v → P k v

theorem All.insert {d : Dbm K V} {P : K → V → Prop} (h : d.All P) {k : K} {v : V} (hv : P k v) :
    All (AList.insert k v d) P := by
  intro k' w hw
  rcases lookup_insert_iff.mp hw with ⟨rfl, rfl⟩ | ⟨_, hw⟩
  · exact hv
  · exact h k' w hw

theorem All.erase {d : Dbm K V} {P : K → V → Prop} (h : d.All P) (k : K) :
    All (AList.erase k d) P :=
  fun k' w hw => h k' w (lookup_erase_iff.mp hw).2

theorem All.empty (P : K → V → Prop) : All (∅ : Dbm K V) P := by
  intro k v hv; simp at hv

/-- Every record is stored under the key it carries. -/
def Keyed (d : Dbm K V) (key : V → K) : Prop := d.All fun k v => key v = k

theorem Keyed.insert {d : Dbm K V} {key : V → K} (h : d.Keyed key) (v : V) :
    Keyed (AList.insert (key v) v d) key := All.insert h rfl

/-- No two records agree in `f`. -/
def Distinct {α : Type} (d : Dbm K V) (f : V → α) : Prop :=
  ∀ k k' v v', d.lookup k = some v → d.lookup k' = some v' → f v = f v' → k = k'

theorem Distinct.empty {α : Type} (f : V → α) : Distinct (∅ : Dbm K V) f := by
  intro k k' v v' hv
  simp at hv

/-- Records that are pairwise different in the list of entries are distinct. -/
theorem Distinct.of_nodup {α : Type} {d : Dbm K V} {f : V → α}
    (h : (d.entries.map fun e => f e.2).Nodup) : d.Distinct f := by
  intro k k' v v' hv hv' he
  have heq : (⟨k, v⟩ : Sigma fun _ : K => V) = ⟨k', v'⟩ :=
    List.inj_on_of_nodup_map h (AList.mem_lookup_iff.mp hv) (AList.mem_lookup_iff.mp hv') he
  exact congrArg Sigma.fst heq

/-- A record may be stored if no record under another key agrees with it. -/
theorem Distinct.insert {α : Type} {d : Dbm K V} {f : V → α} (h : d.Distinct f) {k : K} {v : V}
    (hv : ∀ k' v', d.lookup k' = some v' → f v' = f v → k' = k) :
    Distinct (AList.insert k v d) f := by
  intro k₁ k₂ v₁ v₂ h₁ h₂ he
  -- either of the two records may be the one just stored
  rcases lookup_insert_iff.mp h₁ with ⟨e₁, rfl⟩ | ⟨_, h₁⟩
  · rcases lookup_insert_iff.mp h₂ with ⟨e₂, _⟩ | ⟨_, h₂⟩
    · exact e₁.trans e₂.symm
    · exact e₁.trans (hv k₂ v₂ h₂ he.symm).symm
  · rcases lookup_insert_iff.mp h₂ with ⟨e₂, rfl⟩ | ⟨_, h₂⟩
    · exact (hv k₁ v₁ h₁ he).trans e₂.symm
    · exact h k₁ k₂ v₁ v₂ h₁ h₂ he

theorem Distinct.erase {α : Type} {d : Dbm K V} {f : V → α} (h : d.Distinct f) (k : K) :
    Distinct (AList.erase k d) f :=
  fun k₁ k₂ v₁ v₂ h₁ h₂ => h k₁ k₂ v₁ v₂ (lookup_erase_iff.mp h₁).2 (lookup_erase_iff.mp h₂).2

/-- Binding a key, whatever the record, keeps every bound key bound. -/
theorem exists_lookup_insert {d : Dbm K V} {k k' : K} {v : V}
    (h : ∃ w, d.lookup k' = some w) : ∃ w, (d.insert k v).lookup k' = some w := by
  obtain ⟨w, hw⟩ := h
  by_cases hk : k' = k
  · exact ⟨v, lookup_insert_iff.mpr (Or.inl ⟨hk, rfl⟩)⟩
  · exact ⟨w, lookup_insert_iff.mpr (Or.inr ⟨hk, hw⟩)⟩

section Encoding

variable {K' V' : Type} [DecidableEq K'] {P : K → Prop} {key : K → K'} {val : V → V'}

/-- The database `d'` holds the records of `d`, encoded and under encoded keys, as far as its keys
are encodings of keys in `P`. -/
def Encodes (P : K → Prop) (key : K → K') (val : V → V') (d' : Dbm K' V') (d : Dbm K V) : Prop :=
  ∀ k, P k → d'.lookup (key k) = (d.lookup k).map val

theorem Encodes.empty : Encodes P key val (∅ : Dbm K' V') (∅ : Dbm K V) := by
  intro k _; simp

theorem Encodes.insert {d' : Dbm K' V'} {d : Dbm K V} (h : Encodes P key val d' d)
    (hinj : ∀ k₁ k₂, P k₁ → P k₂ → key k₁ = key k₂ → k₁ = k₂) {k : K} (hk : P k) (v : V) :
    Encodes P key val (AList.insert (key k) (val v) d') (AList.insert k v d) := by
  intro k' hk'
  by_cases he : k' = k
  · rw [he, AList.lookup_insert, AList.lookup_insert, Option.map_some]
  · rw [AList.lookup_insert_ne (fun hc => he (hinj _ _ hk' hk hc)), AList.lookup_insert_ne he]
    exact h k' hk'

theorem Encodes.erase {d' : Dbm K' V'} {d : Dbm K V} (h : Encodes P key val d' d)
    (hinj : ∀ k₁ k₂, P k₁ → P k₂ → key k₁ = key k₂ → k₁ = k₂) {k : K} (hk : P k) :
    Encodes P key val (AList.erase (key k) d') (AList.erase k d) := by
  intro k' hk'
  by_cases he : k' = k
  · rw [he, AList.lookup_erase, AList.lookup_erase, Option.map_none]
  · rw [AList.lookup_erase_ne (fun hc => he (hinj _ _ hk' hk hc)), AList.lookup_erase_ne he]
    exact h k' hk'

end Encoding

end Dbm

namespace KeyOrder

variable {K V : Type} [DecidableEq K]

/-- The order in which the map itself lists its keys. -/
def listed (K V : Type) : KeyOrder K V := ⟨AList.keys, fun d => List.Perm.refl d.keys⟩

/-- The records in the order of the enumeration, each fetched by its key. -/
def scan (o : KeyOrder K V) (d : Dbm K V) : List V := (o.keys d).filterMap fun k => d.lookup k

theorem mem_scan {o : KeyOrder K V} {d : Dbm K V} {v : V} :
    v ∈ o.scan d ↔ ∃ k, d.lookup k = some v := by
  rw [scan, List.mem_filterMap]
  constructor
  · rintro ⟨k, _, hk⟩; exact ⟨k, hk⟩
  · rintro ⟨k, hk⟩
    refine ⟨k, (o.perm d).mem_iff.mpr ?_, hk⟩
    exact AList.lookup_isSome.mp (by rw [hk]; rfl)

/-- An enumeration visits every record, whatever the order. -/
theorem scan_perm (o : KeyOrder K V) (d : Dbm K V) :
    (o.scan d).Perm (d.entries.map fun e => e.2) := by
  refine ((o.perm d).filterMap fun k => d.lookup k).trans ?_
  rw [AList.keys, List.keys, List.filterMap_map, ← List.filterMap_eq_map]
  refine List.Perm.of_eq (List.filterMap_congr fun e he => ?_)
  exact AList.mem_lookup_iff.mpr he

theorem find?_scan_some {o : KeyOrder K V} {d : Dbm K V} {p : V → Bool} {v : V}
    (h : (o.scan d).find? p = some v) : p v = true ∧ ∃ k, d.lookup k = some v :=
  ⟨List.find?_some h, mem_scan.mp (List.mem_of_find?_eq_some h)⟩

theorem find?_scan_none {o : KeyOrder K V} {d : Dbm K V} {p : V → Bool}
    (h : (o.scan d).find? p = none) {k : K} {v : V} (hv : d.lookup k = some v) :
    p v = false := by
  have := List.find?_eq_none.mp h v (mem_scan.mpr ⟨k, hv⟩)
  simpa using this

/-- A search for a value that no two records share does not depend on the order. -/
theorem find?_scan_congr {α : Type} [DecidableEq α] (o o' : KeyOrder K V) {d : Dbm K V} {f : V → α}
    (h : d.Distinct f) (x : α) :
    ((o.scan d).find? fun v => f v = x) = (o'.scan d).find? fun v => f v = x := by
  cases hv : (o.scan d).find? fun v => f v = x with
  | none =>
    refine (List.find?_eq_none.mpr fun v hv' => ?_).symm
    obtain ⟨k, hk⟩ := mem_scan.mp hv'
    simp [of_decide_eq_false (find?_scan_none hv hk)]
  | some v =>
    obtain ⟨hp, k, hk⟩ := find?_scan_some hv
    cases hv' : (o'.scan d).find? fun v => f v = x with
    | none => rw [find?_scan_none hv' hk] at hp; simp at hp
    | some v' =>
      obtain ⟨hp', k', hk'⟩ := find?_scan_some hv'
      -- both orders find some record with the value, and there is only one
      have he : k = k' :=
        h k k' v v' hk hk' ((of_decide_eq_true hp).trans (of_decide_eq_true hp').symm)
      rw [← hk, ← hk', he]

end KeyOrder
