import ChatServer.Handler.Channel

/-!
# Overruns of the update parser

The parser of `read_and_update_channel` copies as many names into a list as the request announces,
without a look at the size of the list. Whether it writes behind an array is decided by the
lengths of the fields alone: every stage either goes on behind the fields it has read, or stops
with a return of 400, or overruns its array.
-/

namespace ChatServer

open CLib

/-- The parser does not return. -/
def Faults {α : Type} (x : Except ParseStop α) : Prop := ∃ f, x = .error (.fault f)

/-- A stage of the parser: the inputs that it overruns an array on, and the fields behind it. A
return of 400 leaves no fields to the stages that would have followed. -/
structure Reads {α : Type} (stage : List Str → Except ParseStop (α × List Str))
    (bad : List Str → Prop) (after : List Str → List Str) : Prop where
  faults : ∀ ts, Faults (stage ts) ↔ bad ts
  rest : ∀ ts x us, stage ts = .ok (x, us) → us = after ts
  stop : ∀ ts, stage ts = .error .badRequest → after ts = []

namespace Reads

variable {α β : Type} {stage : List Str → Except ParseStop (α × List Str)}
  {bad bad' : List Str → Prop} {after after' : List Str → List Str}

/-- What a stage and the rest of the parser overrun on. -/
theorem faults_bind (h : Reads stage bad after) {next : α → List Str → Except ParseStop β}
    (hnext : ∀ x us, Faults (next x us) ↔ bad' us) (hnil : ¬ bad' []) (ts : List Str) :
    Faults (stage ts >>= fun x => next x.1 x.2) ↔ bad ts ∨ bad' (after ts) := by
  rw [← h.faults]
  cases hs : stage ts with
  | error e =>
    cases e with
    | badRequest => simp [Faults, bind, Except.bind, h.stop ts hs, hnil]
    | fault f => simp [Faults, bind, Except.bind]
  | ok y =>
    obtain ⟨x, us⟩ := y
    rw [← h.rest ts x us hs, ← hnext x us]
    simp [Faults, bind, Except.bind]

/-- Two stages one after the other. -/
theorem seq (h : Reads stage bad after) {next : α → List Str → Except ParseStop (β × List Str)}
    (hnext : ∀ x, Reads (next x) bad' after') (hnil : ¬ bad' []) (hafter : after' [] = []) :
    Reads (fun ts => stage ts >>= fun x => next x.1 x.2) (fun ts => bad ts ∨ bad' (after ts))
      (fun ts => after' (after ts)) where
  faults := h.faults_bind (fun x us => (hnext x).faults us) hnil
  rest := by
    intro ts y vs hy
    cases hs : stage ts with
    | error e => simp [hs, bind, Except.bind] at hy
    | ok z =>
      obtain ⟨x, us⟩ := z
      rw [← h.rest ts x us hs]
      rw [hs] at hy
      exact (hnext x).rest us y vs hy
  stop := by
    intro ts hstop
    cases hs : stage ts with
    | error e =>
      simp only [hs, bind, Except.bind, Except.error.injEq] at hstop
      subst hstop
      rw [h.stop ts hs, hafter]
    | ok z =>
      obtain ⟨x, us⟩ := z
      rw [← h.rest ts x us hs]
      rw [hs] at hstop
      exact (hnext x).stop us hstop

/-- A stage that only makes a value. -/
theorem pure (x : α) : Reads (fun ts => .ok (x, ts)) (fun _ => False) id where
  faults := by simp [Faults]
  rest := by
    intro ts y us h
    cases h
    rfl
  stop := nofun

theorem of_eq (h : Reads stage bad after) {stage' : List Str → Except ParseStop (α × List Str)}
    (hs : ∀ ts, stage' ts = stage ts) (hb : ∀ ts, bad' ts ↔ bad ts)
    (ha : ∀ ts, after' ts = after ts) : Reads stage' bad' after' := by
  obtain rfl : stage' = stage := funext hs
  obtain rfl : bad' = bad := funext fun ts => propext (hb ts)
  obtain rfl : after' = after := funext ha
  exact h

/-- A stage that returns 400 when there is no field, given by what it does behind the first one. -/
theorem of_cons (hstop : stage [] = .error .badRequest) (hbad : ¬ bad []) (hafter : after [] = [])
    (h : ∀ t, Reads (fun ts => stage (t :: ts)) (fun ts => bad (t :: ts))
      (fun ts => after (t :: ts))) : Reads stage bad after where
  faults := by
    intro ts
    cases ts with
    | nil => simp [Faults, hstop, hbad]
    | cons t ts => exact (h t).faults ts
  rest := by
    intro ts x us hok
    cases ts with
    | nil => rw [hstop] at hok; cases hok
    | cons t ts => exact (h t).rest ts x us hok
  stop := by
    intro ts herr
    cases ts with
    | nil => exact hafter
    | cons t ts => exact (h t).stop ts herr

end Reads

theorem reads_requireToken : Reads requireToken (fun _ => False) List.tail :=
  .of_cons rfl id rfl fun t => .pure t

section Names

variable (n i : ℕ) (list : NameList) (ts : List Str)

/-- The loop overruns the list when more names are announced, and there, than the list has slots
left. -/
theorem readNames_faults (hi : i ≤ defaultListSize) :
    Faults (readNames n i list ts) ↔
      defaultListSize < i+n ∧ defaultListSize < i+ts.length := by
  induction n generalizing i list ts with
  | zero =>
    simp only [readNames, Faults, reduceCtorEq, exists_false, false_iff]
    omega
  | succ n ih =>
    cases ts with
    | nil =>
      simp only [readNames, Faults, Except.error.injEq, reduceCtorEq, exists_false, false_iff,
        List.length_nil]
      omega
    | cons t ts =>
      rw [readNames, List.length_cons]
      by_cases hlt : i < defaultListSize
      · rw [if_pos hlt, ih (i+1) _ ts hlt]
        omega
      · rw [if_neg hlt]
        exact iff_of_true ⟨_, rfl⟩ (by omega)

theorem readNames_rest {l : NameList} {us : List Str}
    (h : readNames n i list ts = .ok (l, us)) : us = ts.drop n := by
  induction n generalizing i list ts with
  | zero => cases h; rfl
  | succ n ih =>
    cases ts with
    | nil => cases h
    | cons t ts =>
      rw [readNames] at h
      split at h
      · exact ih _ _ ts h
      · cases h

theorem readNames_stop (h : readNames n i list ts = .error .badRequest) : ts.drop n = [] := by
  induction n generalizing i list ts with
  | zero => cases h
  | succ n ih =>
    cases ts with
    | nil => rfl
    | cons t ts =>
      rw [readNames] at h
      split at h
      · exact ih _ _ ts h
      · cases h

end Names

/-- The fields behind a count and the names that it announces. -/
def afterNames : List Str → List Str
  | [] => []
  | count :: ts => ts.drop (strtolInt count).toNat

/-- A list, from its count on, of which more names are announced and there than it has slots. -/
def overruns : List Str → Bool
  | [] => false
  | count :: names =>
    defaultListSize < (strtolInt count).toNat && defaultListSize < names.length

theorem reads_readCountedNames :
    Reads readCountedNames (fun ts => overruns ts = true) afterNames := by
  refine .of_cons rfl Bool.false_ne_true rfl fun count => ⟨fun ts => ?_, fun ts l us h => ?_,
    fun ts h => ?_⟩
  · have h := readNames_faults (strtolInt count).toNat 0 NameList.empty ts (Nat.zero_le _)
    rw [Nat.zero_add, Nat.zero_add] at h
    rw [overruns, Bool.and_eq_true, decide_eq_true_eq, decide_eq_true_eq]
    exact h
  · exact readNames_rest _ _ _ ts h
  · exact readNames_stop _ _ _ ts h

/-- The fields behind a flag and, if it is "1", the value that follows it. -/
def afterFlag : List Str → List Str
  | [] => []
  | flag :: ts => if flag = ascii "1" then ts.tail else ts

theorem reads_readFlagged : Reads readFlagged (fun _ => False) afterFlag := by
  refine .of_cons rfl id rfl fun flag => ?_
  by_cases hflag : flag = ascii "1"
  · have h := reads_requireToken.seq (fun value => Reads.pure (some value)) id rfl
    exact h.of_eq (fun ts => if_pos hflag) (by simp) (fun ts => if_pos hflag)
  · exact (Reads.pure none).of_eq (fun ts => if_neg hflag) (fun _ => Iff.rfl)
      (fun ts => if_neg hflag)

/-- The lists of an alteration, each from its count on. -/
def alterationLists : List Str → List (List Str)
  | [] => []
  | t :: ts =>
    if t = ascii "1" ∨ t = ascii "2" then [ts]
    else if t = ascii "3" then [ts, afterNames ts]
    else []

/-- The fields behind an alteration; one of more than a character is not accepted. -/
def afterAlteration : List Str → List Str
  | [] => []
  | t :: ts =>
    if t.length > 1 then []
    else if t = ascii "1" ∨ t = ascii "2" then afterNames ts
    else if t = ascii "3" then afterNames (afterNames ts)
    else ts

/-- What the switch does for a digit: refuse the request, read one list or two, or nothing. -/
theorem readAlteration_cases (t : Str) :
    (t.length > 1 ∧ ∀ ts, readAlteration (t :: ts) = .error .badRequest) ∨
    (t = ascii "1" ∧ ∀ ts, readAlteration (t :: ts) =
      readCountedNames ts >>= fun x => .ok (⟨49, x.1, NameList.empty⟩, x.2)) ∨
    (t = ascii "2" ∧ ∀ ts, readAlteration (t :: ts) =
      readCountedNames ts >>= fun x => .ok (⟨50, NameList.empty, x.1⟩, x.2)) ∨
    (t = ascii "3" ∧ ∀ ts, readAlteration (t :: ts) = readCountedNames ts >>= fun x =>
      readCountedNames x.2 >>= fun y => .ok (⟨51, x.1, y.1⟩, y.2)) ∨
    (t.length ≤ 1 ∧ t ≠ ascii "1" ∧ t ≠ ascii "2" ∧ t ≠ ascii "3" ∧ ∀ ts,
      readAlteration (t :: ts) = .ok (⟨t.headD 0, NameList.empty, NameList.empty⟩, ts)) := by
  have h1 : ascii "1" = [49] := by decide
  have h2 : ascii "2" = [50] := by decide
  have h3 : ascii "3" = [51] := by decide
  rw [h1, h2, h3]
  cases t with
  | nil => exact .inr (.inr (.inr (.inr ⟨by simp, by simp, by simp, by simp, fun _ => rfl⟩)))
  | cons c cs =>
    cases cs with
    | cons d ds => exact .inl ⟨by simp, fun _ => rfl⟩
    | nil =>
      by_cases ha : c = 49
      · exact .inr (.inl ⟨by rw [ha], fun _ => by rw [ha]; rfl⟩)
      · by_cases hr : c = 50
        · exact .inr (.inr (.inl ⟨by rw [hr], fun _ => by rw [hr]; rfl⟩))
        · by_cases hb : c = 51
          · exact .inr (.inr (.inr (.inl ⟨by rw [hb], fun _ => by rw [hb]; rfl⟩)))
          · refine .inr (.inr (.inr (.inr ⟨by simp, by simp [ha], by simp [hr], by simp [hb], ?_⟩)))
            intro ts
            simp [readAlteration, requireToken, ha, hb, hr, bind, Except.bind, pure, Except.pure]

theorem reads_readAlteration : Reads readAlteration
    (fun ts => ∃ l ∈ alterationLists ts, overruns l = true) afterAlteration := by
  refine .of_cons rfl (by simp [alterationLists]) rfl fun t => ?_
  obtain ⟨hlong, heq⟩ | ⟨rfl, heq⟩ | ⟨rfl, heq⟩ | ⟨rfl, heq⟩ | ⟨hshort, h1, h2, h3, heq⟩ :=
    readAlteration_cases t
  · -- more than one character: the request is refused and nothing is read behind it
    have hne : ∀ c : String, (ascii c).length = 1 → t ≠ ascii c := by
      rintro c hc rfl
      omega
    refine ⟨fun ts => ?_, fun ts x us h => ?_, fun ts _ => ?_⟩
    · simp [Faults, heq, alterationLists, hne "1" rfl, hne "2" rfl, hne "3" rfl]
    · rw [heq] at h
      cases h
    · simp [afterAlteration, hlong]
  · have h := reads_readCountedNames.seq
      (fun add => Reads.pure (⟨49, add, NameList.empty⟩ : Alteration)) id rfl
    refine h.of_eq heq (fun ts => ?_) (fun ts => ?_)
    · simp [alterationLists]
    · rfl
  · have h := reads_readCountedNames.seq
      (fun remove => Reads.pure (⟨50, NameList.empty, remove⟩ : Alteration)) id rfl
    refine h.of_eq heq (fun ts => ?_) (fun ts => ?_)
    · simp [alterationLists]
    · rfl
  · have h := reads_readCountedNames.seq (fun add => reads_readCountedNames.seq
      (fun remove => Reads.pure (⟨51, add, remove⟩ : Alteration)) id rfl) (by simp [overruns]) rfl
    have h31 : ascii "3" ≠ ascii "1" := by decide
    have h32 : ascii "3" ≠ ascii "2" := by decide
    refine h.of_eq heq (fun ts => ?_) (fun ts => ?_)
    · simp [alterationLists, h31, h32]
    · rfl
  · refine (Reads.pure _).of_eq heq (fun ts => ?_) (fun ts => ?_)
    · simp [alterationLists, h1, h2, h3]
    · simp [afterAlteration, Nat.not_lt.mpr hshort, h1, h2, h3]

/-- The lists of an update request, each from its count on. -/
def updateLists (fs : List Str) : List (List Str) :=
  let users := afterFlag (afterFlag fs.tail)
  let admins := afterAlteration users
  let banned := afterAlteration admins
  alterationLists users ++ alterationLists admins ++ alterationLists banned

/-- The last check of the parser, with the variables filled. -/
theorem not_faults_last {u : UpdateRequest} (us : List Str) :
    Faults (if us ≠ [] then .error .badRequest else .ok u) ↔ False := by
  split <;> simp [Faults]

/-- The parser overruns an array on a channel name that is too long and on a list that is. -/
theorem parseUpdate_faults (fs : List Str) :
    Faults (parseUpdate fs) ↔ (∃ t ∈ fs.head?, tokenNameLength < t.length) ∨
      ∃ l ∈ updateLists fs, overruns l = true := by
  cases fs with
  | nil =>
    simp [parseUpdate, requireToken, Faults, updateLists, afterFlag, afterAlteration,
      alterationLists, bind, Except.bind]
  | cons t ts =>
    have hfirst : (∃ t' ∈ (t :: ts).head?, tokenNameLength < t'.length) ↔
        tokenNameLength < t.length := by simp
    rw [hfirst]
    cases hname : CharArray.strncpyLen? tokenNameLength t with
    | none =>
      refine iff_of_true ⟨.overflow, ?_⟩ (Or.inl (CharArray.strncpyLen?_eq_none.mp hname))
      simp [parseUpdate, requireToken, hname, bind, Except.bind]
    | some name =>
      have hshort : ¬ tokenNameLength < t.length := by
        intro hlong
        rw [CharArray.strncpyLen?_eq_none.mpr hlong] at hname
        cases hname
      have hstages := reads_readFlagged.faults_bind (fun newName us =>
        reads_readFlagged.faults_bind (fun publicity us =>
          reads_readAlteration.faults_bind (fun users us =>
            reads_readAlteration.faults_bind (fun admins us =>
              reads_readAlteration.faults_bind (fun banned us =>
                not_faults_last (u := ⟨name, newName.isSome, CharArray.strncpy _ (newName.getD []),
                  publicity.isSome, publicity = some (ascii "1"), users, admins, banned⟩) us)
                id us) (by simp [alterationLists]) us)
            (by simp [alterationLists, afterAlteration]) us)
          (by simp [alterationLists, afterAlteration]) us)
        (by simp [alterationLists, afterAlteration, afterFlag]) ts
      rw [or_iff_right hshort]
      refine Iff.trans ?_ (hstages.trans ?_)
      · simp only [parseUpdate, requireToken, hname, bind, Except.bind]
        exact Iff.rfl
      · simp only [updateLists, List.tail_cons, List.mem_append, false_or, or_false, or_assoc,
          or_and_right, exists_or]

theorem bind_eq_ok {α β : Type} {x : Except ParseStop α} {f : α → Except ParseStop β} {b : β}
    (h : x >>= f = .ok b) : ∃ a, x = .ok a ∧ f a = .ok b := by
  cases x with
  | error e => cases h
  | ok a => exact ⟨a, rfl, h⟩

/-- The stages of a parse that succeeds, with the fields between them. -/
theorem parseUpdate_stages {fs : List Str} {u : UpdateRequest} (h : parseUpdate fs = .ok u) :
    ∃ name ts newName us₁ publicity us₂ us₃ us₄, fs = name :: ts ∧
      CharArray.strncpyLen? tokenNameLength name = some u.channelName ∧
      readFlagged ts = .ok (newName, us₁) ∧ readFlagged us₁ = .ok (publicity, us₂) ∧
      readAlteration us₂ = .ok (u.users, us₃) ∧ readAlteration us₃ = .ok (u.admins, us₄) ∧
      readAlteration us₄ = .ok (u.banned, []) ∧ u.isChangeName = newName.isSome ∧
      u.newChannelName = CharArray.strncpy _ (newName.getD []) := by
  obtain ⟨⟨name, ts⟩, hfs, hok⟩ := bind_eq_ok h
  cases fs with
  | nil => cases hfs
  | cons t us =>
    cases hfs
    cases hname : CharArray.strncpyLen? tokenNameLength name with
    | none =>
      dsimp only at hok
      rw [hname] at hok
      cases hok
    | some channelName =>
      dsimp only at hok
      rw [hname] at hok
      obtain ⟨⟨newName, us₁⟩, e₁, hok⟩ := bind_eq_ok hok
      obtain ⟨⟨publicity, us₂⟩, e₂, hok⟩ := bind_eq_ok hok
      obtain ⟨⟨users, us₃⟩, e₃, hok⟩ := bind_eq_ok hok
      obtain ⟨⟨admins, us₄⟩, e₄, hok⟩ := bind_eq_ok hok
      obtain ⟨⟨banned, us₅⟩, e₅, hok⟩ := bind_eq_ok hok
      dsimp only at hok
      split at hok
      · cases hok
      · rename_i hend
        cases hok
        rw [not_not.mp hend] at e₅
        exact ⟨name, ts, newName, us₁, publicity, us₂, us₃, us₄, rfl, hname, e₁, e₂, e₃, e₄, e₅,
          rfl, rfl⟩

/-! Where the names come from. -/

section Names

variable {fs : List Str}

/-- Every name in the list is one of the fields, cut at the size of a slot. -/
def NameList.From (fs : List Str) (l : NameList) : Prop :=
  ∀ u ∈ l.slots, u = .empty _ ∨ ∃ t ∈ fs, u = CharArray.strncpy _ t

theorem NameList.From.empty : NameList.empty.From fs :=
  fun _ hu => Or.inl (List.eq_of_mem_replicate hu)

theorem NameList.From.set {l : NameList} (h : l.From fs) {t : Str} (ht : t ∈ fs) (i : ℕ) :
    (l.set i (CharArray.strncpy _ t)).From fs := by
  intro u hu
  obtain hu | rfl := List.mem_or_eq_of_mem_set hu
  · exact h u hu
  · exact Or.inr ⟨t, ht, rfl⟩

theorem NameList.From.members {l : NameList} (h : l.From fs) {u : Name} (hu : u ∈ l.members) :
    ∃ t ∈ fs, u = CharArray.strncpy _ t := by
  refine (h u (List.takeWhile_subset _ hu)).resolve_left fun he => ?_
  rw [he] at hu
  have hne := List.mem_takeWhile_imp hu
  cases hne

/-- The fields that a successful stage leaves are among those it was given. -/
theorem Reads.subset {α : Type} {stage : List Str → Except ParseStop (α × List Str)}
    {bad : List Str → Prop} {after : List Str → List Str} (h : Reads stage bad after)
    (hafter : ∀ ts, after ts ⊆ ts) {ts us : List Str} {x : α} (hok : stage ts = .ok (x, us))
    (hts : ts ⊆ fs) : us ⊆ fs := by
  rw [h.rest ts x us hok]
  exact fun t ht => hts (hafter ts ht)

theorem afterNames_subset (ts : List Str) : afterNames ts ⊆ ts := by
  cases ts with
  | nil => exact fun _ h => h
  | cons count ts => exact fun t ht => List.mem_cons_of_mem _ (List.mem_of_mem_drop ht)

theorem afterFlag_subset (ts : List Str) : afterFlag ts ⊆ ts := by
  cases ts with
  | nil => exact fun _ h => h
  | cons flag ts =>
    intro t ht
    rw [afterFlag] at ht
    split at ht
    · exact List.mem_cons_of_mem _ (List.mem_of_mem_tail ht)
    · exact List.mem_cons_of_mem _ ht

theorem afterAlteration_subset (ts : List Str) : afterAlteration ts ⊆ ts := by
  cases ts with
  | nil => exact fun _ h => h
  | cons digit ts =>
    intro t ht
    rw [afterAlteration] at ht
    split at ht
    · cases ht
    · split at ht
      · exact List.mem_cons_of_mem _ (afterNames_subset ts ht)
      · split at ht
        · exact List.mem_cons_of_mem _ (afterNames_subset ts (afterNames_subset _ ht))
        · exact List.mem_cons_of_mem _ ht

theorem from_readNames {n i : ℕ} {list l : NameList} {ts us : List Str}
    (h : readNames n i list ts = .ok (l, us)) (hl : list.From fs) (hts : ts ⊆ fs) : l.From fs := by
  induction n generalizing i list ts with
  | zero => cases h; exact hl
  | succ n ih =>
    cases ts with
    | nil => cases h
    | cons t ts =>
      rw [readNames] at h
      split at h
      · exact ih h (hl.set (hts List.mem_cons_self) i) (List.subset_of_cons_subset hts)
      · cases h

theorem from_readCountedNames {l : NameList} {ts us : List Str}
    (h : readCountedNames ts = .ok (l, us)) (hts : ts ⊆ fs) : l.From fs := by
  cases ts with
  | nil => cases h
  | cons count ts => exact from_readNames h .empty (List.subset_of_cons_subset hts)

theorem from_readAlteration {a : Alteration} {ts us : List Str}
    (h : readAlteration ts = .ok (a, us)) (hts : ts ⊆ fs) : a.add.From fs ∧ a.remove.From fs := by
  cases ts with
  | nil => cases h
  | cons t ts =>
    have hts' : ts ⊆ fs := List.subset_of_cons_subset hts
    obtain ⟨_, heq⟩ | ⟨_, heq⟩ | ⟨_, heq⟩ | ⟨_, heq⟩ | ⟨_, _, _, _, heq⟩ := readAlteration_cases t
    · rw [heq] at h
      cases h
    · rw [heq] at h
      obtain ⟨⟨add, us'⟩, hadd, h⟩ := bind_eq_ok h
      cases h
      exact ⟨from_readCountedNames hadd hts', .empty⟩
    · rw [heq] at h
      obtain ⟨⟨remove, us'⟩, hremove, h⟩ := bind_eq_ok h
      cases h
      exact ⟨.empty, from_readCountedNames hremove hts'⟩
    · rw [heq] at h
      obtain ⟨⟨add, us'⟩, hadd, h⟩ := bind_eq_ok h
      obtain ⟨⟨remove, vs⟩, hremove, h⟩ := bind_eq_ok h
      cases h
      have hus := reads_readCountedNames.subset afterNames_subset hadd hts'
      exact ⟨from_readCountedNames hadd hts', from_readCountedNames hremove hus⟩
    · rw [heq] at h
      cases h
      exact ⟨.empty, .empty⟩

/-- The names that an update request lists are fields of the body. -/
theorem from_parseUpdate {u : UpdateRequest} (h : parseUpdate fs = .ok u) :
    ∀ l ∈ [u.users.add, u.users.remove, u.admins.add, u.admins.remove, u.banned.add,
      u.banned.remove], l.From fs := by
  obtain ⟨name, ts, _, us₁, _, us₂, us₃, us₄, rfl, _, e₁, e₂, e₃, e₄, e₅, _, _⟩ :=
    parseUpdate_stages h
  have s₁ := reads_readFlagged.subset afterFlag_subset e₁ (List.subset_cons_self name ts)
  have s₂ := reads_readFlagged.subset afterFlag_subset e₂ s₁
  have s₃ := reads_readAlteration.subset afterAlteration_subset e₃ s₂
  have s₄ := reads_readAlteration.subset afterAlteration_subset e₄ s₃
  have f₃ := from_readAlteration e₃ s₂
  have f₄ := from_readAlteration e₄ s₃
  have f₅ := from_readAlteration e₅ s₄
  simp only [List.forall_mem_cons, List.not_mem_nil, false_implies, implies_true, and_true]
  exact ⟨f₃.1, f₃.2, f₄.1, f₄.2, f₅.1, f₅.2⟩

end Names

/-- A flag and, behind the flag "1", a value. -/
def flagged (flag value : Str) : List Str := flag :: if flag = ascii "1" then [value] else []

/-- What the parser makes of a flag. -/
def flagValue (flag value : Str) : Option Str := if flag = ascii "1" then some value else none

theorem readFlagged_flagged (flag value : Str) (ts : List Str) :
    readFlagged (flagged flag value ++ ts) = .ok (flagValue flag value, ts) := by
  by_cases h : flag = ascii "1"
  · rw [flagged, flagValue, if_pos h, if_pos h, h]
    rfl
  · rw [flagged, flagValue, if_neg h, if_neg h]
    simp [readFlagged, requireToken, h, bind, Except.bind, pure, Except.pure]

end ChatServer
