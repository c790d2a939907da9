import Mathlib.Data.List.Find
import Mathlib.Data.List.TakeWhile

/-!
# Arrays used as lists

An array whose used slots form a prefix: a slot is used when `p` holds of it, the
number of used slots is found by scanning for the first unused one, a new
element goes to that slot, and an element is removed by moving the used slots behind it
down by one and blanking the slot that was the last used one.
-/

namespace Slots

variable {α : Type} (p : α → Bool)

/-- The used prefix. -/
def live (slots : List α) : List α := slots.takeWhile p

/-- No slot behind the first unused one is used. -/
def Compact (slots : List α) : Prop := ∀ x ∈ slots.dropWhile p, p x = false

/-- Remove the first of the first `n` slots that satisfies `q`: the slots up to `n`
move down by one, and the slot they leave keeps its old element, blanked. -/
def removeFirst (q : α → Bool) (blank : α → α) (n : ℕ) (slots : List α) : List α :=
  match (slots.take n).findIdx? q with
  | none => slots
  | some i =>
    (slots.take n).eraseIdx i ++ ((slots[n-1]?).map blank).toList ++ slots.drop n

variable {p}

theorem live_append_dropWhile (slots : List α) : live p slots ++ slots.dropWhile p = slots :=
  List.takeWhile_append_dropWhile

theorem take_length_live (slots : List α) : slots.take (live p slots).length = live p slots := by
  have h := live_append_dropWhile (p := p) slots
  calc slots.take (live p slots).length
      = (live p slots ++ slots.dropWhile p).take (live p slots).length := by rw [h]
    _ = live p slots := List.take_left

theorem drop_length_live (slots : List α) :
    slots.drop (live p slots).length = slots.dropWhile p := by
  have h := live_append_dropWhile (p := p) slots
  calc slots.drop (live p slots).length
      = (live p slots ++ slots.dropWhile p).drop (live p slots).length := by rw [h]
    _ = slots.dropWhile p := List.drop_left

theorem prop_of_mem_live {slots : List α} {x : α} (h : x ∈ live p slots) : p x = true :=
  List.mem_takeWhile_imp h

/-- A used block followed by unused slots is compact, with the block as used prefix. -/
theorem live_block {used rest : List α} (hu : ∀ x ∈ used, p x = true)
    (hr : ∀ x ∈ rest, p x = false) :
    live p (used++rest) = used ∧ Compact p (used++rest) := by
  have hnil : rest.takeWhile p = [] := by
    cases rest with
    | nil => rfl
    | cons y ys => simp [hr y List.mem_cons_self]
  have hdrop : (used++rest).dropWhile p = rest := by
    rw [List.dropWhile_append_of_pos hu]
    cases rest with
    | nil => rfl
    | cons y ys => simp [hr y List.mem_cons_self]
  refine ⟨?_, fun x hx => hr x (hdrop ▸ hx)⟩
  rw [live, List.takeWhile_append_of_pos hu, hnil, List.append_nil]

/-- The used slots of a compact array are its used prefix. -/
theorem Compact.filter_eq {slots : List α} (hc : Compact p slots) :
    slots.filter p = live p slots := by
  have hrest : (slots.dropWhile p).filter p = [] := by
    rw [List.filter_eq_nil_iff]
    intro x hx
    simp [hc x hx]
  have hused : (live p slots).filter p = live p slots :=
    List.filter_eq_self.mpr fun x hx => prop_of_mem_live hx
  calc slots.filter p
      = (live p slots ++ slots.dropWhile p).filter p := by rw [live_append_dropWhile]
    _ = live p slots := by rw [List.filter_append, hrest, hused, List.append_nil]

theorem Compact.getElem?_iff {slots : List α} (hc : Compact p slots) {i : ℕ} {x : α}
    (h : slots[i]? = some x) : p x = true ↔ i < (live p slots).length := by
  rw [← live_append_dropWhile (p := p) slots] at h
  constructor
  · intro hx
    by_contra hi
    rw [List.getElem?_append_right (by omega)] at h
    have hn := hc x (List.mem_of_getElem? h)
    rw [hx] at hn
    cases hn
  · intro hi
    rw [List.getElem?_append_left hi] at h
    exact prop_of_mem_live (List.mem_of_getElem? h)

theorem set_length_live {slots : List α} (x : α) (h : (live p slots).length < slots.length) :
    slots.set (live p slots).length x = live p slots ++ x :: (slots.dropWhile p).tail := by
  rw [List.set_eq_take_append_cons_drop, if_pos h, take_length_live,
    ← List.tail_drop, drop_length_live]

theorem live_set {slots : List α} {x : α} (hx : p x = true) (hc : Compact p slots)
    (h : (live p slots).length < slots.length) :
    live p (slots.set (live p slots).length x) = live p slots ++ [x] := by
  rw [set_length_live x h, ← List.singleton_append, ← List.append_assoc]
  refine (live_block ?_ ?_).1
  · intro y hy
    rcases List.mem_append.mp hy with hy | hy
    · exact prop_of_mem_live hy
    · rw [List.mem_singleton.mp hy]; exact hx
  · intro y hy
    exact hc y (List.mem_of_mem_tail hy)

theorem Compact.set {slots : List α} (x : α) (hc : Compact p slots) :
    Compact p (slots.set (live p slots).length x) := by
  by_cases h : (live p slots).length < slots.length
  · have htail : ∀ y ∈ (slots.dropWhile p).tail, p y = false :=
      fun y hy => hc y (List.mem_of_mem_tail hy)
    rw [set_length_live x h]
    -- a used element extends the prefix by one slot, an unused one leaves it as it is
    cases hx : p x with
    | true =>
      rw [← List.singleton_append, ← List.append_assoc]
      refine (live_block ?_ htail).2
      intro y hy
      rcases List.mem_append.mp hy with hy | hy
      · exact prop_of_mem_live hy
      · rw [List.mem_singleton.mp hy]; exact hx
    | false =>
      refine (live_block (fun y hy => prop_of_mem_live hy) ?_).2
      intro y hy
      rcases List.mem_cons.mp hy with rfl | hy
      · exact hx
      · exact htail y hy
  · rw [List.set_eq_of_length_le (Nat.le_of_not_gt h)]
    exact hc

/-- Removal erases the first match from the used prefix and keeps the array compact. -/
theorem removeFirst_live {slots : List α} (q : α → Bool) (blank : α → α)
    (hblank : ∀ x, p (blank x) = false) (hc : Compact p slots) :
    live p (removeFirst q blank (live p slots).length slots) = (live p slots).eraseP q ∧
      Compact p (removeFirst q blank (live p slots).length slots) := by
  rw [removeFirst]
  rw [take_length_live, List.eraseP_eq_eraseIdx, drop_length_live]
  cases hi : (live p slots).findIdx? q with
  | none => exact ⟨rfl, hc⟩
  | some i =>
    simp only [List.append_assoc]
    refine live_block ?_ ?_
    · intro x hx
      exact prop_of_mem_live (List.mem_of_mem_eraseIdx hx)
    · intro x hx
      rcases List.mem_append.mp hx with hx | hx
      · obtain ⟨y, _, rfl⟩ := Option.map_eq_some_iff.mp (Option.mem_toList.mp hx)
        exact hblank y
      · exact hc x hx

theorem length_removeFirst (q : α → Bool) (blank : α → α) {n : ℕ} {slots : List α}
    (hn : n ≤ slots.length) : (removeFirst q blank n slots).length = slots.length := by
  rw [removeFirst]
  cases hi : (slots.take n).findIdx? q with
  | none => rfl
  | some i =>
    obtain ⟨hlt, _⟩ := List.findIdx?_eq_some_iff_getElem.mp hi
    -- the blanked slot makes up for the one that was erased
    have hlen : (slots.take n).length = n := by rw [List.length_take]; omega
    rw [hlen] at hlt
    have hlast : slots[n-1]? = some (slots[n-1]) := List.getElem?_eq_getElem (by omega)
    simp only [hlast, Option.map_some, Option.toList_some, List.length_append, List.length_drop,
      List.length_singleton, List.length_eraseIdx, hlen, if_pos hlt]
    omega

/-! The same removal as loops over the array: every slot from the match on takes the element behind
it, and the slot that was the last used one is blanked where it is. -/

/-- `slots[i] = slots[j]` -/
def assign (i j : ℕ) (slots : List α) : List α :=
  match slots[j]? with
  | none => slots
  | some x => slots.set i x

/-- `for (j = i; j < i+k; j++) slots[j] = slots[j+1];` -/
def moveDown : ℕ → ℕ → List α → List α
  | 0, _, slots => slots
  | k+1, i, slots => moveDown k (i+1) (assign i (i+1) slots)

theorem getElem?_assign {slots : List α} {i : ℕ} (h : i+1 < slots.length) (m : ℕ) :
    (assign i (i+1) slots)[m]? = if m = i then slots[i+1]? else slots[m]? := by
  rw [assign, List.getElem?_eq_getElem h]
  change (slots.set i slots[i+1])[m]? = _
  rw [List.getElem?_set]
  by_cases hm : i = m
  · subst hm
    rw [if_pos rfl, if_pos rfl, if_pos (by omega)]
  · rw [if_neg hm, if_neg (Ne.symm hm)]

theorem length_assign (i j : ℕ) (slots : List α) : (assign i j slots).length = slots.length := by
  rw [assign]
  split
  · rfl
  · exact List.length_set

/-- The loop moves the `k` elements behind slot `i` down and touches nothing else. -/
theorem getElem?_moveDown (k : ℕ) {i : ℕ} {slots : List α} (h : i+k < slots.length) (m : ℕ) :
    (moveDown k i slots)[m]? = if i ≤ m ∧ m < i+k then slots[m+1]? else slots[m]? := by
  induction k generalizing i slots with
  | zero => rw [moveDown, if_neg (by omega)]
  | succ k ih =>
    rw [moveDown, ih (by rw [length_assign]; omega), getElem?_assign (by omega),
      getElem?_assign (by omega)]
    -- the first slot is written now, the others by the rest of the loop
    by_cases hm : m = i
    · subst hm
      rw [if_neg (by omega), if_pos rfl, if_pos (by omega)]
    · by_cases hin : i ≤ m ∧ m < i+(k+1)
      · rw [if_pos (by omega), if_neg (by omega), if_pos hin]
      · rw [if_neg (by omega), if_neg hm, if_neg hin]

/-- The loop up to the last used slot erases slot `i`, the last element being there twice then. -/
theorem moveDown_eq {n i : ℕ} {slots : List α} (hi : i < n) (hn : n ≤ slots.length) :
    moveDown (n-1-i) i slots = (slots.take n).eraseIdx i ++ slots.drop (n-1) := by
  have hlen : ((slots.take n).eraseIdx i).length = n-1 := by
    rw [List.length_eraseIdx, List.length_take, if_pos (by omega)]
    omega
  apply List.ext_getElem?
  intro m
  rw [getElem?_moveDown _ (by omega)]
  by_cases hm : m < n-1
  · rw [List.getElem?_append_left (by omega), List.getElem?_eraseIdx]
    by_cases him : m < i
    · rw [if_neg (by omega), if_pos him, List.getElem?_take_of_lt (by omega)]
    · rw [if_pos (by omega), if_neg him, List.getElem?_take_of_lt (by omega)]
  · rw [if_neg (by omega), List.getElem?_append_right (by omega), hlen, List.getElem?_drop]
    congr 1
    omega

theorem modify_append_cons (f : α → α) (x : α) {l : List α} (r : List α) {k : ℕ}
    (h : l.length = k) : (l ++ x :: r).modify k f = l ++ f x :: r := by
  subst h
  induction l with
  | nil => rfl
  | cons y l ih =>
    rw [List.cons_append, List.length_cons, List.modify_succ_cons, ih, List.cons_append]

theorem length_moveDown (k i : ℕ) (slots : List α) :
    (moveDown k i slots).length = slots.length := by
  induction k generalizing i slots with
  | zero => rfl
  | succ k ih => rw [moveDown, ih, length_assign]

/-- `removeFirst` as the loops over the array do it. -/
def removeInPlace (q : α → Bool) (blank : α → α) (n : ℕ) (slots : List α) : List α :=
  match (slots.take n).findIdx? q with
  | none => slots
  | some i => (moveDown (n-1-i) i slots).modify (n-1) blank

theorem length_removeInPlace (q : α → Bool) (blank : α → α) (n : ℕ) (slots : List α) :
    (removeInPlace q blank n slots).length = slots.length := by
  rw [removeInPlace]
  split
  · rfl
  · rw [List.length_modify, length_moveDown]

theorem removeInPlace_eq (q : α → Bool) (blank : α → α) {n : ℕ} {slots : List α}
    (hn : n ≤ slots.length) : removeInPlace q blank n slots = removeFirst q blank n slots := by
  rw [removeInPlace, removeFirst]
  cases hi : (slots.take n).findIdx? q with
  | none => rfl
  | some i =>
    obtain ⟨hlt, _⟩ := List.findIdx?_eq_some_iff_getElem.mp hi
    rw [List.length_take] at hlt
    have hin : i < n := by omega
    have hlen : ((slots.take n).eraseIdx i).length = n-1 := by
      rw [List.length_eraseIdx, List.length_take, if_pos hlt]
      omega
    have hdrop : slots.drop (n-1) = slots[n-1] :: slots.drop n := by
      rw [List.drop_eq_getElem_cons (by omega), Nat.sub_add_cancel (by omega)]
    have hlast : ((slots[n-1]?).map blank).toList = [blank (slots[n-1])] := by
      rw [List.getElem?_eq_getElem (by omega)]; rfl
    show (moveDown (n-1-i) i slots).modify (n-1) blank =
      (slots.take n).eraseIdx i ++ ((slots[n-1]?).map blank).toList ++ slots.drop n
    rw [moveDown_eq hin hn, hdrop, hlast, List.append_assoc]
    exact modify_append_cons blank _ _ hlen

/-- Removal commutes with a view of the elements that the test and the blanking respect. -/
theorem map_removeFirst {β : Type} {f : α → β} {q : α → Bool} {q' : β → Bool} {b : α → α}
    {b' : β → β} (hq : ∀ x, q' (f x) = q x) (hb : ∀ x, f (b x) = b' (f x)) (n : ℕ)
    (slots : List α) :
    (removeFirst q b n slots).map f = removeFirst q' b' n (slots.map f) := by
  have hfind : ((slots.map f).take n).findIdx? q' = (slots.take n).findIdx? q := by
    rw [← List.map_take, List.findIdx?_map, show q' ∘ f = q from funext hq]
  rw [removeFirst, removeFirst, hfind]
  cases (slots.take n).findIdx? q with
  | none => rfl
  | some i =>
    simp only [List.map_append, List.map_drop, List.map_take, List.eraseIdx_eq_take_drop_succ,
      List.getElem?_map]
    cases slots[n-1]? with
    | none => rfl
    | some x => simp [hb]

theorem findIdx?_congr {q q' : α → Bool} {slots : List α} (h : ∀ x ∈ slots, q x = q' x) :
    slots.findIdx? q = slots.findIdx? q' := by
  induction slots with
  | nil => rfl
  | cons x xs ih =>
    obtain ⟨hx, hxs⟩ := List.forall_mem_cons.mp h
    rw [List.findIdx?_cons, List.findIdx?_cons, hx, ih hxs]

/-- Every slot was there before, or is the blanked one. -/
theorem mem_removeFirst {q : α → Bool} {blank : α → α} {n : ℕ} {slots : List α} {x : α}
    (h : x ∈ removeFirst q blank n slots) : x ∈ slots ∨ ∃ y ∈ slots, x = blank y := by
  rw [removeFirst] at h
  split at h
  · exact .inl h
  · obtain h | hdrop := List.mem_append.mp h
    · obtain herase | hblank := List.mem_append.mp h
      · exact .inl (List.mem_of_mem_take (List.mem_of_mem_eraseIdx herase))
      · obtain ⟨y, hy, rfl⟩ := Option.map_eq_some_iff.mp (Option.mem_toList.mp hblank)
        exact .inr ⟨y, List.mem_of_getElem? hy, rfl⟩
    · exact .inl (List.mem_of_mem_drop hdrop)

theorem removeFirst_congr {q q' : α → Bool} (blank : α → α) {n : ℕ} {slots : List α}
    (h : ∀ x ∈ slots.take n, q x = q' x) :
    removeFirst q blank n slots = removeFirst q' blank n slots := by
  rw [removeFirst, removeFirst, findIdx?_congr h]

/-- Removing the first entry that is found is removing this entry. -/
theorem eraseP_eq_erase [DecidableEq α] {q : α → Bool} {slots : List α} {a : α}
    (h : slots.find? q = some a) : slots.eraseP q = slots.erase a := by
  induction slots with
  | nil => cases h
  | cons x xs ih =>
    cases hx : q x with
    | true =>
      rw [List.find?_cons_of_pos hx] at h
      rw [List.eraseP_cons_of_pos hx, Option.some.inj h, List.erase_cons_head]
    | false =>
      rw [List.find?_cons_of_neg (by simp [hx])] at h
      have hne : x ≠ a := by
        rintro rfl
        rw [List.find?_some h] at hx
        cases hx
      rw [List.eraseP_cons_of_neg (by simp [hx]), List.erase_cons_tail (by simpa using hne), ih h]

/-- Among entries that differ in `f`, removing the first one with a value removes the only one. -/
theorem ne_of_mem_eraseP {β : Type} [DecidableEq β] {f : α → β} {slots : List α}
    (h : (slots.map f).Nodup) {x : β} {a : α} (ha : a ∈ slots.eraseP fun a => f a = x) :
    f a ≠ x := by
  have hm : f a ∈ (slots.map f).erase x := by
    rw [List.erase_eq_eraseP', List.eraseP_map]
    exact List.mem_map_of_mem ha
  exact (h.mem_erase_iff.mp hm).1

end Slots
