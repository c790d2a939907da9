import ChatServer.Invariant.Strings
import ChatServer.Lib.Buffer

/-!
# Strings that end in their arrays

A name of 21 bytes or a password of 31 fills its array. The handlers accept and store it, but every
function of the library that reads it goes on into whatever stands behind the array. The rest of the
development reads the bytes of the array only, which is what the code does with C strings that end
in their arrays. Here is the condition on the requests that keeps all strings of the server of this
kind.
-/

namespace ChatServer

open CLib

/-- The value behind a flag that is set. -/
def flagName : List Str → List Str
  | flag :: value :: _ => if flag = ascii "1" then [value] else []
  | _ => []

/-- The names of a list, given from its count on. -/
def listNames : List Str → List Str
  | [] => []
  | count :: names => names.take (strtolInt count).toNat

/-- The fields of an update request that are names. -/
def updateNames (fs : List Str) : List Str :=
  fs.take 1 ++ flagName fs.tail ++ (updateLists fs).flatMap listNames

/-- The fields of a request that go to arrays, each with the length that leaves room for a
terminator. -/
def limits (fs : List Str) : RequestKind → List (Str × ℕ)
  | .createUser | .destroyUser =>
    fs.zip [tokenNameLength-1, tokenNameLength-1, pswdMaxLength-1]
  | .createChannel => fs.zip [tokenNameLength-1, tokenNameLength-1]
  | .readChannel | .readMessage | .logout => fs.zip [tokenNameLength-1]
  | .updateChannel => (updateNames fs).map fun t => (t, tokenNameLength-1)
  | .login => fs.zip [tokenNameLength-1, pswdMaxLength-1]
  | .createMessage =>
    -- nothing behind an acknowledgement is read
    if fs.head? = some (ascii "200") then [] else
    fs.zip [tokenNameLength-1, tokenNameLength-1, maxMessageSize-1, timestampSize-1]

/-- The body does not fit the buffer with a terminator, or a field does not fit its array with
one. -/
def Request.OverLong (r : Request) : Prop :=
  match r.decode with
  | .stop _ _ => False
  | .serve k header rest => defaultBuffer ≤ header.bodySize.val ∨
    ∃ x ∈ limits (fields (rest.take header.bodySize)) k, x.2 < x.1.length

instance (r : Request) : Decidable r.OverLong := by
  rw [Request.OverLong]
  cases r.decode with
  | stop ret rest => exact inferInstanceAs (Decidable False)
  | serve k header rest => exact inferInstanceAs (Decidable (_ ∨ _))

/-- C strings that end in their arrays. -/
def cStrings : StringSpec where
  name := CharArray.Text
  password := CharArray.Text
  uuid := CharArray.Text
  addr := CharArray.Text
  content := CharArray.Text
  stamp := CharArray.Text
  name_empty := by decide
  name_admin := by decide
  name_global := by decide
  password_admin := by decide
  uuid_admin := by decide
  addr_none := by decide

/-- The second field of a request to read messages, which no check compares with its array. -/
def Request.numberField (r : Request) : Option Str :=
  match r.decode with
  | .serve .readMessage header rest => (fields (rest.take header.bodySize))[1]?
  | _ => none

/-- The strings that a request brings end in their arrays: names after 20 bytes, passwords after 30.
So do the uuid and the address, and what a fresh record holds behind the first eight bytes of its
content. -/
structure Request.Ends (r : Request) : Prop where
  fields : ¬ r.OverLong
  number : ∀ n ∈ r.numberField, n.length < tokenNameLength
  uuid : r.env.uuid.Text
  addr : r.clntAddr.Text
  heap : 8+(cstr r.env.heap).length < maxMessageSize

instance (r : Request) : Decidable r.Ends :=
  decidable_of_iff (¬ r.OverLong ∧ (∀ n ∈ r.numberField, n.length < tokenNameLength) ∧
      r.env.uuid.Text ∧ r.clntAddr.Text ∧ 8+(cstr r.env.heap).length < maxMessageSize)
    ⟨fun h => ⟨h.1, h.2.1, h.2.2.1, h.2.2.2.1, h.2.2.2.2⟩,
      fun h => ⟨h.fields, h.number, h.uuid, h.addr, h.heap⟩⟩

def LifeEvent.Ends : LifeEvent → Prop
  | .start _ env => env.uuid.Text
  | .request r => r.Ends

instance : (e : LifeEvent) → Decidable e.Ends
  | .start _ env => inferInstanceAs (Decidable env.uuid.Text)
  | .request r => inferInstanceAs (Decidable r.Ends)

section Given

variable {s : State} {r : Request}

theorem length_le_of_not_overLong (h : ¬ r.OverLong) {k : RequestKind} {fs : List Str}
    (hf : r.fieldsFor k = some fs) : ∀ x ∈ limits fs k, x.1.length ≤ x.2 := by
  obtain ⟨header, rest, hd, _, _, rfl⟩ := fieldsFor_some hf
  rw [Request.OverLong, hd] at h
  intro x hx
  exact Nat.le_of_not_lt fun hlt => h (Or.inr ⟨x, hx, hlt⟩)

/-- What a request to create a message stores of its fields. -/
theorem fields_of_createMessage {m : MessageInfo} (h : createMessageTarget s r = some m) :
    ∃ (d c content t : Str) (rest : List Str),
      r.fieldsFor .createMessage = some (d :: c :: content :: t :: rest) ∧ d ≠ ascii "200" ∧
      m.messageContent = CharArray.strncpy _
        (content.take 8 ++ if content.length < 8 then [] else cstr r.env.heap) ∧
      m.timeStamp = CharArray.strncpy _ t := by
  simp only [createMessageTarget, bind, Option.bind_eq_some_iff, Prod.exists,
    Option.ite_none_right_eq_some, Option.some.injEq] at h
  obtain ⟨fs, hfs, d, ts, hdn, name, content, stamp, hmf, _, _, _, _, _, _, _, _, ⟨hack, _⟩,
    rfl⟩ := h
  have hm : messageFields ts = .ok (name, content, stamp) := by
    cases hm : messageFields ts with
    | error f => rw [hm] at hmf; cases hmf
    | ok x => rw [hm] at hmf; rw [Option.some.inj hmf]
  obtain ⟨us, t, rest, hn, hcont, hstamp⟩ := messageFields_eq_ok.mp hm
  rw [field?_some hdn, nextField_eq_ok.mp hn, nextField_eq_ok.mp hcont] at hfs
  exact ⟨d.str, name.str, content.str, t, rest, hfs, hack, rfl, hstamp⟩

theorem zero_not_mem_field {bytes : List UInt8} {t : Str} (ht : t ∈ fields bytes) : 0 ∉ t :=
  fun h0 => zero_not_mem_cstr bytes (subset_of_mem_tokens ht h0)

theorem zero_not_mem_of_fieldsFor {k : RequestKind} {fs : List Str} (hf : r.fieldsFor k = some fs)
    {t : Str} (ht : t ∈ fs) : 0 ∉ t := by
  obtain ⟨_, _, _, _, _, rfl⟩ := fieldsFor_some hf
  exact zero_not_mem_field ht

/-- A request without a field that is too long brings what every C string that ends in its array
has. -/
theorem StringSpec.Given.of_text {F : StringSpec} (h : ¬ r.OverLong)
    (hname : ∀ a : Name, a.Text → F.name a) (hpassword : ∀ a : Password, a.Text → F.password a)
    (hcontent : ∀ a : CharArray maxMessageSize, a.Text → F.content a)
    (hstamp : ∀ a : CharArray timestampSize, a.Text → F.stamp a) (huuid : F.uuid r.env.uuid)
    (haddr : F.addr r.clntAddr)
    (hheap : ∀ d c content rest, r.fieldsFor .createMessage = some (d :: c :: content :: rest) →
      content.length < 8 ∨ 8+(cstr r.env.heap).length < maxMessageSize) : F.Given s r where
  uuid := huuid
  addr := haddr
  user := by
    intro t d p ht
    obtain ⟨⟨rest, hf⟩, _⟩ := createUserTarget_some ht
    have hlim := length_le_of_not_overLong h hf
    simp only [limits, List.zip_cons_cons, List.forall_mem_cons] at hlim
    have hclean : ∀ u ∈ [t.str, d.str, p.str], 0 ∉ u := fun u hu =>
      zero_not_mem_of_fieldsFor hf (List.mem_append_left rest hu)
    exact ⟨hname t ⟨hclean _ (by simp), Nat.lt_succ_of_le hlim.1⟩,
      hname d ⟨hclean _ (by simp), Nat.lt_succ_of_le hlim.2.1⟩,
      hpassword p ⟨hclean _ (by simp), Nat.lt_succ_of_le hlim.2.2.1⟩⟩
  channel := by
    intro c hc
    obtain ⟨rest, hf⟩ := fields_of_createChannel hc
    have hlim := length_le_of_not_overLong h hf
    simp only [limits, List.zip_cons_cons, List.forall_mem_cons] at hlim
    exact ⟨hname _ ⟨zero_not_mem_of_fieldsFor hf (by simp), Nat.lt_succ_of_le hlim.1⟩,
      hname _ ⟨zero_not_mem_of_fieldsFor hf (by simp), Nat.lt_succ_of_le hlim.2.1⟩⟩
  rename := by
    intro u hu
    obtain hu | ⟨name, v, us, hf, hu⟩ := newChannelName_of_update hu
    · rw [hu]
      exact F.name_empty
    · have hmem : v ∈ updateNames (name :: ascii "1" :: v :: us) := by
        simp [updateNames, flagName]
      have hlim := length_le_of_not_overLong h hf (v, tokenNameLength-1)
        (List.mem_map_of_mem hmem)
      rw [hu]
      refine hname _ ⟨fun h0 => ?_, ?_⟩
      · exact zero_not_mem_of_fieldsFor hf (by simp) (List.mem_of_mem_take h0)
      · exact Nat.lt_of_le_of_lt (List.length_take_le' _ _) (Nat.lt_succ_of_le hlim)
  message := by
    intro m hm
    obtain ⟨d, c, content, t, rest, hf, hack, hcon, hst⟩ := fields_of_createMessage hm
    have hlim := length_le_of_not_overLong h hf
    rw [limits, if_neg (by simpa using hack)] at hlim
    simp only [List.zip_cons_cons, List.forall_mem_cons] at hlim
    have hclean : ∀ u ∈ [d, c, content, t], 0 ∉ u := fun u hu =>
      zero_not_mem_of_fieldsFor hf (List.mem_append_left rest hu)
    constructor
    · rw [hcon]
      refine hcontent _ ⟨fun h0 => ?_, ?_⟩
      · obtain h0 | h0 := List.mem_append.mp (List.mem_of_mem_take h0)
        · exact hclean content (by simp) (List.mem_of_mem_take h0)
        · split at h0
          · cases h0
          · exact zero_not_mem_cstr _ h0
      · change (List.take _ _).length < maxMessageSize
        refine Nat.lt_of_le_of_lt (List.length_take_le' _ _) ?_
        have hmax : maxMessageSize = 974 := rfl
        rw [List.length_append, List.length_take]
        obtain hshort | hheap := hheap d c content (t :: rest) hf
        · rw [if_pos hshort, List.length_nil]
          omega
        · split
          · rw [List.length_nil]
            omega
          · omega
    · rw [hst]
      refine hstamp _ ⟨fun h0 => hclean t (by simp) (List.mem_of_mem_take h0), ?_⟩
      exact Nat.lt_of_le_of_lt (List.length_take_le' _ _) (Nat.lt_succ_of_le hlim.2.2.2.1)

theorem cStrings_given (h : r.Ends) : cStrings.Given s r :=
  .of_text h.fields (fun _ h => h) (fun _ h => h) (fun _ h => h) (fun _ h => h) h.uuid h.addr
    fun _ _ _ _ _ => Or.inr h.heap

theorem cStrings_givenEvent {e : LifeEvent} (h : e.Ends) : cStrings.GivenEvent s e := by
  cases e with
  | start newProcess env => exact h
  | request r => exact cStrings_given h

end Given

/-- When all requests of a life bring strings that end in their arrays, so do all that are
stored. -/
theorem cStrings_run {es : List LifeEvent} (h : ∀ e ∈ es, e.Ends) :
    cStrings.Holds (Life.run es).state :=
  cStrings.holds_run (Run.along_of_forall (fun _ e he _ => cStrings_givenEvent (h e he)) _)

theorem cStrings_effect {s s' : State} {r : Request} {b : Bool} (hk : KeyedState s)
    (h : cStrings.Holds s) (hr : r.Ends) (he : Effect s r s' b) : cStrings.Holds s' :=
  h.effect hk (cStrings_given hr) he

theorem cStrings_startUp {env : Env} (h : env.uuid.Text) : cStrings.Holds (startUp env .fresh) := by
  have hes : ∀ e ∈ [LifeEvent.start true env], e.Ends := by
    rw [List.forall_mem_singleton]
    exact h
  exact cStrings_run hes

end ChatServer
