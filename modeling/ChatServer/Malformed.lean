import ChatServer.Answer

/-!
# Input that is not a request

A stream can end inside the header or the body, and a complete body can lack fields. The header is
read under assertions; eight of the nine handlers return an error for a body that is too short, but
only the responders of the channel requests know the error; and whether a missing field is found
before `strlen` gets its `NULL` is different in every parser.
-/

namespace ChatServer

open CLib

/-- The number of fields that a flag takes, with the value behind it. -/
def flagWidth : List Str → ℕ
  | [] => 1
  | flag :: _ => if flag = ascii "1" then 2 else 1

/-- The number of fields that a count and the names it announces take. -/
def namesWidth : List Str → ℕ
  | [] => 1
  | count :: _ => 1+(strtolInt count).toNat

def alterationWidth : List Str → ℕ
  | [] => 1
  | t :: ts =>
    if t = ascii "1" ∨ t = ascii "2" then 1+namesWidth ts
    else if t = ascii "3" then 1+namesWidth ts+namesWidth (afterNames ts)
    else 1

/-- The number of fields of an update request: the channel name, two flags and three alterations,
each as long as the flags, digits and counts before it say. -/
def updateWidth (fs : List Str) : ℕ :=
  let publicity := afterFlag fs.tail
  let users := afterFlag publicity
  let admins := afterAlteration users
  let banned := afterAlteration admins
  1+flagWidth fs.tail+flagWidth publicity+alterationWidth users+alterationWidth admins+
    alterationWidth banned

/-- The number of fields that a request needs. The acknowledgement of a message is one field. -/
def fieldsNeeded (fs : List Str) : RequestKind → ℕ
  | .createUser | .destroyUser | .createChannel => 3
  | .readChannel => 4
  | .updateChannel => updateWidth fs
  | .createMessage => if fs.head? = some (ascii "200") then 1 else 4
  | .readMessage | .login => 2
  | .logout => 1

/-- A stream that ends in front of or inside the header or the body, or a body of at most 1023 bytes
that lacks a field. -/
inductive Malformed (r : Request) : Prop where
  | header (h : r.input.length < 4)
  | body {header : ChatHeader} {rest : List UInt8}
    (hread : readHeader r.env.byteOrder r.input = .ok (header, rest))
    (h : rest.length < header.bodySize)
  | fields {header : ChatHeader} {rest : List UInt8} {k : RequestKind}
    (hread : readHeader r.env.byteOrder r.input = .ok (header, rest))
    (hk : branch header.object header.type = .handler k) (hle : header.bodySize.val ≤ 1023)
    (hall : header.bodySize ≤ rest.length)
    (h : (fields (rest.take header.bodySize)).length <
      fieldsNeeded (fields (rest.take header.bodySize)) k)

/-- The variable `result` of `handle_request` when the call is over, or the value of its early
return. -/
def Request.result (r : Request) (s : State) : Option Int :=
  match r.decode with
  | .stop ret _ => ret.toOption
  | .serve k header rest =>
    (runHandler k s r header.bodySize (rest.take header.bodySize)).value.toOption.map Reply.result

/-- The result of a request is the one its handler returned. -/
theorem Request.value_of_result {r : Request} {s : State} {k : RequestKind} {header : ChatHeader}
    {rest : List UInt8} (hd : r.decode = .serve k header rest) {n : Int}
    (h : r.result s = some n) :
    ∃ reply, (runHandler k s r header.bodySize (rest.take header.bodySize)).value = .ok reply ∧
      reply.result = n := by
  rw [Request.result, hd] at h
  obtain ⟨reply, hv, hn⟩ := Option.map_eq_some_iff.mp h
  refine ⟨reply, ?_, hn⟩
  cases hval : (runHandler k s r header.bodySize (rest.take header.bodySize)).value with
  | error f => rw [hval] at hv; cases hv
  | ok reply' => rw [hval] at hv; cases hv; rfl

/-- The call returns after an error result, with the databases and the cache as they were. -/
structure Request.TurnedDown (r : Request) (s : State) : Prop where
  returned : (handleRequest s r).returned = true
  unchanged : (handleRequest s r).state = s
  error : ∃ n, r.result s = some n ∧ n ≠ 0

/-- The result of a request on a machine. -/
def Machine.result (m : Machine) (s : State) (r : Request) : Option Int :=
  match r.decode with
  | .stop ret _ => ret.toOption
  | .serve k header rest =>
    (m.runHandler k s r header.bodySize (rest.take header.bodySize)).value.toOption.map Reply.result

theorem Machine.result_eq {m : Machine} {s : State} {r : Request} (hs : cStrings.Holds s)
    (hr : r.Ends) (hroom : m.Roomy ∨ fetchedBy s r = none) : m.result s r = r.result s := by
  rw [Request.result, Machine.result]
  cases hd : r.decode with
  | stop ret rest => rfl
  | serve k header rest =>
    dsimp only
    rw [m.runHandler_eq hs hr hd hroom]

/-- Without the room that it needs a handler does not return. -/
theorem Machine.result_tight {m : Machine} {s : State} {r : Request} (hs : cStrings.Holds s)
    (hr : r.Ends) (htight : ¬ m.Roomy) (hf : fetchedBy s r ≠ none) : m.result s r = none := by
  cases hd : r.decode with
  | stop ret rest =>
    rw [fetchedBy, hd] at hf
    exact absurd rfl hf
  | serve k header rest =>
    rw [Machine.result, hd]
    dsimp only
    rw [m.runHandler_tight hs hr hd htight hf]
    rfl

/-- A handler that returns has had the room it needs, so it has done what the handler that reads
arrays does. -/
theorem Machine.handleRequest_of_result {m : Machine} {s : State} {r : Request} {n : Int}
    (hs : cStrings.Holds s) (hr : r.Ends) (h : m.result s r = some n) :
    m.handleRequest s r = ChatServer.handleRequest s r ∧ r.result s = some n := by
  have hroom : m.Roomy ∨ fetchedBy s r = none := by
    refine Classical.byContradiction fun hno => ?_
    obtain ⟨htight, hf⟩ := not_or.mp hno
    rw [Machine.result_tight hs hr htight hf] at h
    cases h
  exact ⟨m.handleRequest_eq hs hr hroom, by rw [← h, Machine.result_eq hs hr hroom]⟩

/-- On a machine the call returns after an error result, with the databases and the cache as they
were. -/
structure Machine.TurnsDown (m : Machine) (s : State) (r : Request) : Prop where
  returned : (m.call s r).returned = true
  unchanged : (m.call s r).state = s
  error : ∃ n, m.result s r = some n ∧ n ≠ 0

/-- A stage of the update parser that succeeds has read as many fields as it is wide. -/
def Takes {α : Type} (stage : List Str → Except ParseStop (α × List Str)) (width : List Str → ℕ) :
    Prop := ∀ ts x us, stage ts = .ok (x, us) → ts.length = width ts+us.length

section Widths

theorem Takes.seq {α β : Type} {stage : List Str → Except ParseStop (α × List Str)}
    {bad : List Str → Prop} {after : List Str → List Str} {width width' : List Str → ℕ}
    {next : α → List Str → Except ParseStop (β × List Str)} (h : Takes stage width)
    (hreads : Reads stage bad after) (hnext : ∀ x, Takes (next x) width') :
    Takes (fun ts => stage ts >>= fun x => next x.1 x.2)
      (fun ts => width ts+width' (after ts)) := by
  intro ts y vs hy
  obtain ⟨⟨x, us⟩, hx, hnextx⟩ := bind_eq_ok hy
  have h₁ := h ts x us hx
  have h₂ := hnext x us y vs hnextx
  have hus := hreads.rest ts x us hx
  subst hus
  dsimp only
  omega

theorem Takes.pure {α : Type} (x : α) : Takes (fun ts => .ok (x, ts)) (fun _ => 0) := by
  intro ts y us h
  cases h
  exact (Nat.zero_add _).symm

/-- A stage that reads a first field, given by its width behind it. -/
theorem Takes.of_cons {α : Type} {stage : List Str → Except ParseStop (α × List Str)}
    {width : List Str → ℕ} {w : Str → List Str → ℕ} (hstop : stage [] = .error .badRequest)
    (h : ∀ t, Takes (fun ts => stage (t :: ts)) (w t))
    (hwidth : ∀ t ts, width (t :: ts) = 1+w t ts) : Takes stage width := by
  intro ts x us hok
  cases ts with
  | nil => rw [hstop] at hok; cases hok
  | cons t ts =>
    rw [List.length_cons, h t ts x us hok, hwidth]
    omega

theorem takes_requireToken : Takes requireToken (fun _ => 1) :=
  .of_cons rfl (fun t => .pure t) (fun _ _ => rfl)

theorem length_of_readNames (n i : ℕ) (list : NameList) (ts : List Str) {l : NameList}
    {us : List Str} (h : readNames n i list ts = .ok (l, us)) : ts.length = n+us.length := by
  induction n generalizing i list ts with
  | zero =>
    cases h
    exact (Nat.zero_add _).symm
  | succ n ih =>
    cases ts with
    | nil => cases h
    | cons t ts =>
      rw [readNames] at h
      split at h
      · rw [List.length_cons, ih _ _ ts h]
        omega
      · cases h

theorem takes_readCountedNames : Takes readCountedNames namesWidth :=
  .of_cons rfl (fun _ ts _ _ h => length_of_readNames _ 0 NameList.empty ts h) (fun _ _ => rfl)

theorem takes_readFlagged : Takes readFlagged flagWidth := by
  refine .of_cons (w := fun flag _ => if flag = ascii "1" then 1 else 0) rfl
    (fun flag => ?_) (fun flag ts => by rw [flagWidth]; split <;> rfl)
  by_cases hflag : flag = ascii "1"
  · have h := takes_requireToken.seq reads_requireToken (fun value => Takes.pure (some value))
    intro ts x us hok
    have hlen := h ts x us (by rw [← hok]; exact (if_pos hflag).symm)
    rw [hlen, if_pos hflag]
  · intro ts x us hok
    have hlen := Takes.pure none ts x us (by rw [← hok]; exact (if_neg hflag).symm)
    rw [hlen, if_neg hflag]

theorem takes_readAlteration : Takes readAlteration alterationWidth := by
  intro ts x us hok
  cases ts with
  | nil => cases hok
  | cons t ts =>
    rw [List.length_cons, alterationWidth]
    obtain ⟨_, heq⟩ | ⟨rfl, heq⟩ | ⟨rfl, heq⟩ | ⟨rfl, heq⟩ | ⟨_, h1, h2, h3, heq⟩ :=
      readAlteration_cases t
    · rw [heq] at hok
      cases hok
    · have h := takes_readCountedNames.seq reads_readCountedNames
        (fun add => Takes.pure (⟨49, add, NameList.empty⟩ : Alteration))
      have hlen := h ts x us ((heq ts).symm.trans hok)
      rw [if_pos (Or.inl rfl)]
      dsimp only at hlen
      omega
    · have h := takes_readCountedNames.seq reads_readCountedNames
        (fun remove => Takes.pure (⟨50, NameList.empty, remove⟩ : Alteration))
      have hlen := h ts x us ((heq ts).symm.trans hok)
      rw [if_pos (Or.inr rfl)]
      dsimp only at hlen
      omega
    · have h := takes_readCountedNames.seq reads_readCountedNames
        (fun add => takes_readCountedNames.seq reads_readCountedNames
          (fun remove => Takes.pure (⟨51, add, remove⟩ : Alteration)))
      have hlen := h ts x us ((heq ts).symm.trans hok)
      rw [if_neg (by decide), if_pos rfl]
      dsimp only at hlen
      omega
    · rw [heq] at hok
      cases hok
      rw [if_neg (not_or.mpr ⟨h1, h2⟩), if_neg h3]
      omega

/-- An update request that the parser accepts has exactly the fields that it announces. -/
theorem updateWidth_of_parseUpdate {fs : List Str} {u : UpdateRequest}
    (h : parseUpdate fs = .ok u) : updateWidth fs = fs.length := by
  obtain ⟨name, ts, _, us₁, _, us₂, us₃, us₄, rfl, _, e₁, e₂, e₃, e₄, e₅, _, _⟩ :=
    parseUpdate_stages h
  have w₁ := takes_readFlagged _ _ _ e₁
  have w₂ := takes_readFlagged _ _ _ e₂
  have w₃ := takes_readAlteration _ _ _ e₃
  have w₄ := takes_readAlteration _ _ _ e₄
  have w₅ := takes_readAlteration _ _ _ e₅
  have r₁ := reads_readFlagged.rest _ _ _ e₁
  have r₂ := reads_readFlagged.rest _ _ _ e₂
  have r₃ := reads_readAlteration.rest _ _ _ e₃
  have r₄ := reads_readAlteration.rest _ _ _ e₄
  rw [List.length_nil] at w₅
  rw [updateWidth, List.tail_cons, ← r₁, ← r₂, ← r₃, ← r₄, List.length_cons]
  omega

end Widths

/-- The bodies without enough bytes or fields that the handler of a kind returns an error result
for, and its responder knows it. The second field of a request to read messages is tested as it is
read in the frame. -/
def ShortHandled (m : Machine) (s : State) (bodySize : ℕ) (bytes : List UInt8) : RequestKind → Prop
  | .createUser => bodyIncomplete bodySize bytes = false ∧ ∃ t d : Name,
      fields bytes = [t.str, d.str] ∧
        ((s.getLoginInfo t).isSome = true ∨ s.checkDuplicateDisplayName d = true)
  | .createChannel => bodyIncomplete bodySize bytes = true ∨ ∃ name : Name,
      fields bytes = [name.str]
  | .readChannel => bodyIncomplete bodySize bytes = true ∨ Answerable.readChannel (fields bytes)
  | .updateChannel => bodyIncomplete bodySize bytes = true ∨ Answerable.updateChannel (fields bytes)
  | .readMessage => ∃ (name n : Name) (rest : List Str),
      fields bytes = name.str :: n.str :: rest ∧ isNumber (m.read .numOfMessages n) = false
  | .destroyUser | .createMessage | .login | .logout => False

section Handlers

variable {m : Machine} {s : State} {r : Request} {header : ChatHeader} {rest : List UInt8}

/-- The handler returns an error result and leaves the state, and its responder returns. -/
def ErrorServed (m : Machine) (k : RequestKind) (s : State) (r : Request) (header : ChatHeader)
    (rest : List UInt8) (out : Outcome) : Prop :=
  out.state = s ∧ ∃ reply, out.value = .ok reply ∧ reply.result ≠ 0 ∧
    (m.deliver (m.respond k s r header rest reply)).returned = true

theorem Machine.respond_state (k : RequestKind) (reply : Reply) :
    (m.respond k s r header rest reply).state = s := by
  rw [Machine.respond]
  split
  · rfl
  · split
    · rfl
    · dsimp only
      split <;> rfl

theorem turnsDown_serve {k : RequestKind} (hd : r.decode = .serve k header rest)
    (hlen : (rest.take header.bodySize).length ≤ defaultBuffer) :
    m.TurnsDown s r ↔ ErrorServed m k s r header (rest.drop header.bodySize)
      (m.runHandler k s r header.bodySize (rest.take header.bodySize)) := by
  have hcall : m.call s r = m.deliver (m.serve k s r header rest) := by
    rw [Machine.call, Machine.handleRequest, hd]
  have hresult : m.result s r =
      (m.runHandler k s r header.bodySize (rest.take header.bodySize)).value.toOption.map
        Reply.result := by rw [Machine.result, hd]
  rw [Machine.serve, if_neg (Nat.not_lt.mpr hlen)] at hcall
  dsimp only at hcall
  generalize m.runHandler k s r header.bodySize (rest.take header.bodySize) = out
    at hcall hresult ⊢
  obtain ⟨st, value⟩ := out
  cases value with
  | error f =>
    constructor
    · rintro ⟨hret, _, _⟩
      rw [hcall, m.deliver_eq (by simp)] at hret
      cases hret
    · rintro ⟨_, reply, hok, _⟩
      cases hok
  | ok reply =>
    have hst : (m.call s r).state = st := by
      rw [hcall, Machine.deliver_state]
      exact Machine.respond_state k reply
    constructor
    · rintro ⟨hret, hsame, n, hn, hne⟩
      obtain rfl : st = s := hst.symm.trans hsame
      rw [hresult] at hn
      cases hn
      rw [hcall] at hret
      exact ⟨rfl, reply, rfl, hne, hret⟩
    · rintro ⟨hsame, reply', hok, hne, hret⟩
      cases hok
      dsimp only at hsame
      subst hsame
      exact ⟨by rw [hcall]; exact hret, hst, _, hresult, hne⟩

variable {k : RequestKind} {bodySize : ℕ} {bytes : List UInt8}

theorem not_errorServed_fault (st : State) (f : Fault) :
    ¬ ErrorServed m k s r header rest (.fault st f) := by
  rintro ⟨_, reply, hok, _⟩
  cases hok

/-- A result that makes the responder assert. -/
theorem not_errorServed_of_assert {n : Int} {token : Str} {f : Fault}
    (h : sendResponse k n token = .error f) (hack : n ≠ createMessageAck) :
    ¬ ErrorServed m k s r header rest (.reply s n token) := by
  rintro ⟨_, reply, hok, _, hret⟩
  cases hok
  rw [Machine.respond, if_neg (fun h => hack h.2), h] at hret
  dsimp only at hret
  rw [m.deliver_eq (by simp)] at hret
  cases hret

/-- An error result of a request without anything to do behind the response, which is served if the
peer is there. -/
theorem errorServed_of_response {n : Int} {token body : Str}
    (h : sendResponse k n token = .ok (some body)) (hn : n ≠ 0) (hdestroy : k ≠ .destroyUser)
    (hmessage : k ≠ .createMessage) :
    ErrorServed m k s r header rest (.reply s n token) ↔ m.reset r.fd = false := by
  have hafter : ∀ reply : Reply,
      ∃ closed, m.afterResponse k s r header reply = .ok ([], closed) := by
    intro reply
    cases k with
    | destroyUser => exact absurd rfl hdestroy
    | createMessage => exact absurd rfl hmessage
    | _ => exact ⟨_, rfl⟩
  obtain ⟨closed, hclosed⟩ := hafter ⟨n, token, []⟩
  have hrespond : m.respond k s r header rest ⟨n, token, []⟩ =
      ⟨s, rest, [⟨r.fd, false, responseHeader header body, body⟩], closed, .ok 0⟩ := by
    rw [Machine.respond, if_neg (fun h => hmessage h.1)]
    dsimp only
    rw [h]
    dsimp only
    rw [hclosed]
    rfl
  constructor
  · rintro ⟨_, reply, hok, _, hret⟩
    cases hok
    rw [hrespond] at hret
    cases hreset : m.reset r.fd with
    | false => rfl
    | true =>
      rw [m.deliver_broken List.mem_cons_self hreset] at hret
      cases hret
  · intro hreset
    refine ⟨rfl, ⟨n, token, []⟩, rfl, hn, ?_⟩
    rw [hrespond, m.deliver_eq (by simpa using hreset)]
    rfl

theorem not_errorServed_success (st : State) (token : Str) :
    ¬ ErrorServed m k s r header rest (.reply st 0 token) := by
  rintro ⟨_, reply, hok, hne, _⟩
  cases hok
  exact hne rfl

/-- Fewer than two fields leave the token or the name missing, and two the password. -/
theorem createUser_short (hinc : bodyIncomplete bodySize bytes = false)
    (h : (fields bytes).length < 3) :
    ErrorServed m .createUser s r header rest (readAndCreateUser s r.env bodySize bytes) ↔
      m.reset r.fd = false ∧ ShortHandled m s bodySize bytes .createUser := by
  rw [readAndCreateUser, hinc, if_neg Bool.false_ne_true, ShortHandled, and_iff_right hinc]
  cases h₁ : nextField tokenNameLength (fields bytes) with
  | error f =>
    refine iff_of_false (not_errorServed_fault s f) ?_
    rintro ⟨_, t, d, hfs, _⟩
    exact ne_cons_of_nextField h₁ t _ hfs
  | ok x =>
    obtain ⟨t, ts⟩ := x
    have hfs := nextField_eq_ok.mp h₁
    rw [hfs]
    cases h₂ : nextField tokenNameLength ts with
    | error f =>
      simp only [bind, Except.bind, h₂]
      refine iff_of_false (not_errorServed_fault s f) ?_
      rintro ⟨_, t', d, hts, _⟩
      exact ne_cons_of_nextField h₂ d _ (List.cons.inj hts).2
    | ok y =>
      obtain ⟨d, us⟩ := y
      have hts := nextField_eq_ok.mp h₂
      rw [hfs, hts] at h
      obtain rfl : us = [] := by
        rw [← List.length_eq_zero_iff]
        simp only [List.length_cons] at h
        omega
      have hexact : (∃ t' d' : Name, t.str :: ts = [t'.str, d'.str] ∧
          ((s.getLoginInfo t').isSome = true ∨ s.checkDuplicateDisplayName d' = true)) ↔
            ((s.getLoginInfo t).isSome = true ∨ s.checkDuplicateDisplayName d = true) := by
        rw [hts]
        constructor
        · rintro ⟨t', d', he, htaken⟩
          rw [List.cons.injEq, List.cons.injEq] at he
          obtain rfl : t = t' := CharArray.ext he.1
          obtain rfl : d = d' := CharArray.ext he.2.1
          exact htaken
        · exact fun htaken => ⟨t, d, rfl, htaken⟩
      rw [hexact]
      simp only [bind, Except.bind, h₂, pure, Except.pure]
      cases ht : (s.getLoginInfo t).isSome <;> cases hd : s.checkDuplicateDisplayName d
      · simpa [nextField] using not_errorServed_fault s .nullPointer
      · simpa using errorServed_of_response rfl (by decide) (by decide) (by decide)
      · simpa using errorServed_of_response rfl (by decide) (by decide) (by decide)
      · simpa using errorServed_of_response rfl (by decide) (by decide) (by decide)

/-- A body without a display name, a token or a password is used all the same. -/
theorem destroyUser_short (hinc : bodyIncomplete bodySize bytes = false)
    (h : (fields bytes).length < 3) :
    ¬ ErrorServed m .destroyUser s r header rest (readAndDestroyUser s r.fd bodySize bytes) := by
  rw [readAndDestroyUser, hinc, if_neg Bool.false_ne_true]
  cases hf : destroyFields bytes with
  | error f => exact not_errorServed_fault s f
  | ok x =>
    obtain ⟨d, t, p⟩ := x
    obtain ⟨rest, hfs⟩ := destroyFields_iff_fields.mp hf
    rw [hfs] at h
    simp only [List.length_cons] at h
    omega

/-- The second field is tested, the first and the third are not. -/
theorem createChannel_short (hinc : bodyIncomplete bodySize bytes = false)
    (h : (fields bytes).length < 3) :
    ErrorServed m .createChannel s r header rest
        (readAndCreateChannel s r.env r.clntAddr bodySize bytes) ↔
      m.reset r.fd = false ∧ ShortHandled m s bodySize bytes .createChannel := by
  rw [readAndCreateChannel, hinc, if_neg Bool.false_ne_true, ShortHandled, hinc,
    or_iff_right Bool.false_ne_true]
  cases h₁ : nextField tokenNameLength (fields bytes) with
  | error f =>
    refine iff_of_false (not_errorServed_fault s f) ?_
    rintro ⟨_, name, hfs⟩
    exact ne_cons_of_nextField h₁ name _ hfs
  | ok x =>
    obtain ⟨name, ts⟩ := x
    have hfs := nextField_eq_ok.mp h₁
    cases ts with
    | nil =>
      rw [and_iff_left (⟨name, hfs⟩ : ∃ name : Name, fields bytes = [name.str])]
      exact errorServed_of_response rfl (by decide) (by decide) (by decide)
    | cons t ts =>
      have hmore : ¬ ∃ name : Name, fields bytes = [name.str] := by
        rintro ⟨name', hone⟩
        rw [hfs] at hone
        exact List.cons_ne_nil t ts (List.cons.inj hone).2
      refine iff_of_false ?_ fun h => hmore h.2
      dsimp only
      cases h₂ : nextField tokenNameLength (t :: ts) with
      | error f => exact not_errorServed_fault s f
      | ok y =>
        obtain ⟨d, us⟩ := y
        rw [hfs, nextField_eq_ok.mp h₂] at h
        obtain rfl : us = [] := by
          rw [← List.length_eq_zero_iff]
          simp only [List.length_cons] at h
          omega
        exact not_errorServed_fault s .nullPointer

/-- Every field is tested, but the length of the first is not. -/
theorem readChannel_short (hinc : bodyIncomplete bodySize bytes = false)
    (h : (fields bytes).length < 4) :
    ErrorServed m .readChannel s r header rest (readAndReadChannel s r.env bodySize bytes) ↔
      m.reset r.fd = false ∧ ShortHandled m s bodySize bytes .readChannel := by
  rw [readAndReadChannel, hinc, if_neg Bool.false_ne_true, ShortHandled, hinc,
    or_iff_right Bool.false_ne_true, Answerable.readChannel]
  cases hfs : fields bytes with
  | nil =>
    rw [and_iff_left (Or.inl rfl)]
    exact errorServed_of_response rfl (by decide) (by decide) (by decide)
  | cons t ts =>
    dsimp only
    cases h₁ : nextField tokenNameLength (t :: ts) with
    | error f =>
      refine iff_of_false (not_errorServed_fault s f) ?_
      simp [field?_error h₁]
    | ok x =>
      obtain ⟨name, us⟩ := x
      rw [and_iff_left (Or.inr (by rw [field?_eq h₁]; rfl))]
      rw [hfs, nextField_eq_ok.mp h₁, List.length_cons] at h
      have h400 : ErrorServed m .readChannel s r header rest (.reply s errorChannel400 []) ↔
          m.reset r.fd = false :=
        errorServed_of_response rfl (by decide) (by decide) (by decide)
      cases us with
      | nil => exact h400
      | cons users us =>
        cases us with
        | nil => exact h400
        | cons admins us =>
          cases us with
          | nil => exact h400
          | cons banned us =>
            simp only [List.length_cons] at h
            omega

/-- Every field is tested, and a request that lacks one is not accepted. -/
theorem updateChannel_short (hinc : bodyIncomplete bodySize bytes = false)
    (h : (fields bytes).length < updateWidth (fields bytes)) :
    ErrorServed m .updateChannel s r header rest (readAndUpdateChannel s r.env bodySize bytes) ↔
      m.reset r.fd = false ∧ ShortHandled m s bodySize bytes .updateChannel := by
  rw [readAndUpdateChannel, hinc, if_neg Bool.false_ne_true, ShortHandled, hinc,
    or_iff_right Bool.false_ne_true, updateChannel_iff]
  cases hu : parseUpdate (fields bytes) with
  | error e =>
    cases e with
    | badRequest =>
      rw [and_iff_left (by simp [Faults])]
      exact errorServed_of_response rfl (by decide) (by decide) (by decide)
    | fault f => exact iff_of_false (not_errorServed_fault s f) (by simp [Faults])
  | ok u =>
    rw [updateWidth_of_parseUpdate hu] at h
    exact absurd h (lt_irrefl _)

theorem createMessage_short (hinc : bodyIncomplete bodySize bytes = false)
    (h : (fields bytes).length < fieldsNeeded (fields bytes) .createMessage) :
    ¬ ErrorServed m .createMessage s r header rest
      (readAndCreateMessage s r.env bodySize bytes) := by
  rw [readAndCreateMessage, hinc, if_neg Bool.false_ne_true]
  cases h₁ : nextField tokenNameLength (fields bytes) with
  | error f => exact not_errorServed_fault s f
  | ok x =>
    obtain ⟨d, ts⟩ := x
    rw [fieldsNeeded, nextField_eq_ok.mp h₁, List.head?_cons, List.length_cons] at h
    dsimp only
    by_cases hack : d.str = ascii "200"
    · rw [if_pos (congrArg some hack)] at h
      omega
    · rw [if_neg (fun he => hack (Option.some.inj he))] at h
      rw [if_neg hack]
      cases h₂ : messageFields ts with
      | error f => exact not_errorServed_fault s f
      | ok y =>
        obtain ⟨name, content, stamp⟩ := y
        obtain ⟨us, t, vs, hn, hc, _⟩ := messageFields_eq_ok.mp h₂
        rw [nextField_eq_ok.mp hn, nextField_eq_ok.mp hc] at h
        simp only [List.length_cons] at h
        omega

theorem login_short (hinc : bodyIncomplete bodySize bytes = false)
    (h : (fields bytes).length < 2) :
    ¬ ErrorServed m .login s r header rest
      (readAndLoginUser s r.env r.fd r.clntAddr bodySize bytes) := by
  rw [readAndLoginUser, hinc, if_neg Bool.false_ne_true]
  cases hf : loginFields bytes with
  | error f => exact not_errorServed_fault s f
  | ok x =>
    obtain ⟨t, p⟩ := x
    obtain ⟨ts, us, h₁, h₂⟩ := loginFields_eq_ok.mp hf
    rw [nextField_eq_ok.mp h₁, nextField_eq_ok.mp h₂] at h
    simp only [List.length_cons] at h
    omega

theorem logout_short (hinc : bodyIncomplete bodySize bytes = false)
    (h : (fields bytes).length < 1) :
    ¬ ErrorServed m .logout s r header rest (readAndLogoutUser s r.clntAddr bodySize bytes) := by
  rw [readAndLogoutUser, hinc, if_neg Bool.false_ne_true,
    List.length_eq_zero_iff.mp (Nat.lt_one_iff.mp h)]
  exact not_errorServed_fault s .nullPointer

/-- The handler does not look at the number of bytes, and returns an error result only when the
second field is not read as a number. Its responder does not write anything then. -/
theorem readMessage_short :
    ErrorServed m .readMessage s r header rest (m.readAndReadMessage s r.env bytes) ↔
      ShortHandled m s bodySize bytes .readMessage := by
  rw [Machine.readAndReadMessage, readMessageFields, ShortHandled]
  cases h₁ : nextField tokenNameLength (fields bytes) with
  | error f =>
    refine iff_of_false (not_errorServed_fault s f) ?_
    rintro ⟨name, n, us, hfs, _⟩
    exact ne_cons_of_nextField h₁ name _ hfs
  | ok x =>
    obtain ⟨name, ts⟩ := x
    have hfs := nextField_eq_ok.mp h₁
    cases h₂ : nextField tokenNameLength ts with
    | error f =>
      simp only [bind, Except.bind, h₂]
      refine iff_of_false (not_errorServed_fault s f) ?_
      rintro ⟨name', n, us, hfs', _⟩
      rw [hfs, List.cons.injEq] at hfs'
      exact ne_cons_of_nextField h₂ n _ hfs'.2
    | ok y =>
      obtain ⟨n, us⟩ := y
      have hts := nextField_eq_ok.mp h₂
      have hexact : (∃ (name' n' : Name) (us' : List Str),
          fields bytes = name'.str :: n'.str :: us' ∧
            isNumber (m.read .numOfMessages n') = false) ↔
              isNumber (m.read .numOfMessages n) = false := by
        rw [hfs, hts]
        constructor
        · rintro ⟨name', n', us', he, hnum⟩
          rw [List.cons.injEq, List.cons.injEq] at he
          rw [CharArray.ext he.2.1]
          exact hnum
        · exact fun hnum => ⟨name, n, us, rfl, hnum⟩
      have hname : name.isEmpty = false := isEmpty_of_mem_fields (by rw [hfs]; simp)
      have hn : n.isEmpty = false := isEmpty_of_mem_fields (by rw [hfs, hts]; simp)
      rw [hexact]
      simp only [bind, Except.bind, h₂, pure, Except.pure]
      cases hnum : isNumber (m.read .numOfMessages n) with
      | false =>
        refine iff_of_true ⟨rfl, ⟨-1, [], []⟩, rfl, by decide, ?_⟩ rfl
        rw [show m.respond .readMessage s r header rest ⟨-1, [], []⟩ = ⟨s, rest, [], [], .ok 0⟩ from
          rfl, m.deliver_eq (by simp)]
        rfl
      | true =>
        refine iff_of_false ?_ (by decide)
        rw [if_neg (by decide), hname, hn, if_neg (by decide)]
        cases m.buildMessageList s (s.getAllMessages r.env)
            (m.getChannelInfo s r.env (m.read .channelName name)) with
        | error f => exact not_errorServed_fault s f
        | ok list => exact not_errorServed_success s _

/-- A body that ends too early: only the channel handlers return a result that their responder
knows. -/
theorem incomplete_served (hk : k ≠ .readMessage) (hinc : bodyIncomplete bodySize bytes = true) :
    ErrorServed m k s r header rest (runHandler k s r bodySize bytes) ↔
      m.reset r.fd = false ∧ ShortHandled m s bodySize bytes k := by
  cases k with
  | createUser =>
    rw [runHandler, readAndCreateUser, if_pos hinc, ShortHandled]
    exact iff_of_false (not_errorServed_of_assert rfl (by decide)) (by simp [hinc])
  | destroyUser =>
    rw [runHandler, readAndDestroyUser, if_pos hinc, ShortHandled]
    exact iff_of_false (not_errorServed_of_assert rfl (by decide)) And.right
  | createChannel =>
    rw [runHandler, readAndCreateChannel, if_pos hinc, ShortHandled, and_iff_left (Or.inl hinc)]
    exact errorServed_of_response rfl (by decide) (by decide) (by decide)
  | readChannel =>
    rw [runHandler, readAndReadChannel, if_pos hinc, ShortHandled, and_iff_left (Or.inl hinc)]
    exact errorServed_of_response rfl (by decide) (by decide) (by decide)
  | updateChannel =>
    rw [runHandler, readAndUpdateChannel, if_pos hinc, ShortHandled, and_iff_left (Or.inl hinc)]
    exact errorServed_of_response rfl (by decide) (by decide) (by decide)
  | createMessage =>
    rw [runHandler, readAndCreateMessage, if_pos hinc, ShortHandled]
    exact iff_of_false (not_errorServed_of_assert rfl (by decide)) And.right
  | readMessage => exact absurd rfl hk
  | login =>
    rw [runHandler, readAndLoginUser, if_pos hinc, ShortHandled]
    exact iff_of_false (not_errorServed_of_assert rfl (by decide)) And.right
  | logout =>
    rw [runHandler, readAndLogoutUser, if_pos hinc, ShortHandled]
    exact iff_of_false (not_errorServed_of_assert rfl (by decide)) And.right

theorem short_served (hk : k ≠ .readMessage) (h : bodyIncomplete bodySize bytes = true ∨
      (fields bytes).length < fieldsNeeded (fields bytes) k) :
    ErrorServed m k s r header rest (runHandler k s r bodySize bytes) ↔
      m.reset r.fd = false ∧ ShortHandled m s bodySize bytes k := by
  cases hinc : bodyIncomplete bodySize bytes with
  | true => exact incomplete_served hk hinc
  | false =>
    have hshort := h.resolve_left (by simp [hinc])
    cases k with
    | createUser => exact createUser_short hinc hshort
    | destroyUser => exact iff_of_false (destroyUser_short hinc hshort) And.right
    | createChannel => exact createChannel_short hinc hshort
    | readChannel => exact readChannel_short hinc hshort
    | updateChannel => exact updateChannel_short hinc hshort
    | createMessage => exact iff_of_false (createMessage_short hinc hshort) And.right
    | readMessage => exact absurd rfl hk
    | login => exact iff_of_false (login_short hinc hshort) And.right
    | logout => exact iff_of_false (logout_short hinc hshort) And.right

/-! A handler that gets no further than the fields does not read on. -/

theorem readAndCreateUser_lacking (h : (fields bytes).length < 3) :
    m.readAndCreateUser s r.env bodySize bytes = readAndCreateUser s r.env bodySize bytes := by
  rw [Machine.readAndCreateUser, readAndCreateUser]
  split
  · rfl
  · cases h₁ : nextField tokenNameLength (fields bytes) with
    | error f => rfl
    | ok x =>
      obtain ⟨t, ts⟩ := x
      cases h₂ : nextField tokenNameLength ts with
      | error f => simp only [bind, Except.bind, h₂]
      | ok y =>
        obtain ⟨d, us⟩ := y
        rw [nextField_eq_ok.mp h₁, nextField_eq_ok.mp h₂] at h
        obtain rfl : us = [] := by
          rw [← List.length_eq_zero_iff]
          simp only [List.length_cons] at h
          omega
        simp only [bind, Except.bind, h₂, pure, Except.pure]
        rfl

theorem readAndCreateChannel_lacking (h : (fields bytes).length < 3) :
    m.readAndCreateChannel s r.env r.clntAddr bodySize bytes =
      readAndCreateChannel s r.env r.clntAddr bodySize bytes := by
  rw [Machine.readAndCreateChannel, readAndCreateChannel]
  split
  · rfl
  · cases h₁ : nextField tokenNameLength (fields bytes) with
    | error f => rfl
    | ok x =>
      obtain ⟨c, ts⟩ := x
      cases ts with
      | nil => rfl
      | cons t ts =>
        dsimp only
        cases h₂ : nextField tokenNameLength (t :: ts) with
        | error f => rfl
        | ok y =>
          obtain ⟨d, us⟩ := y
          rw [nextField_eq_ok.mp h₁, nextField_eq_ok.mp h₂] at h
          obtain rfl : us = [] := by
            rw [← List.length_eq_zero_iff]
            simp only [List.length_cons] at h
            omega
          rfl

theorem readAndReadChannel_lacking (h : (fields bytes).length < 4) :
    m.readAndReadChannel s r.env bodySize bytes = readAndReadChannel s r.env bodySize bytes := by
  rw [Machine.readAndReadChannel, readAndReadChannel]
  split
  · rfl
  · cases hfs : fields bytes with
    | nil => rfl
    | cons t ts =>
      dsimp only
      cases h₁ : nextField tokenNameLength (t :: ts) with
      | error f => rfl
      | ok x =>
        obtain ⟨c, us⟩ := x
        rw [hfs, nextField_eq_ok.mp h₁] at h
        rcases us with _ | ⟨users, _ | ⟨admins, _ | ⟨banned, us⟩⟩⟩
        · rfl
        · rfl
        · rfl
        · simp only [List.length_cons] at h
          omega

theorem readAndUpdateChannel_lacking (h : (fields bytes).length < updateWidth (fields bytes)) :
    m.readAndUpdateChannel s r.env bodySize bytes =
      readAndUpdateChannel s r.env bodySize bytes := by
  rw [Machine.readAndUpdateChannel, readAndUpdateChannel]
  split
  · rfl
  · cases hu : parseUpdate (fields bytes) with
    | error e => cases e <;> rfl
    | ok u =>
      rw [updateWidth_of_parseUpdate hu] at h
      exact absurd h (lt_irrefl _)

/-- A name that fills its array is not read as the acknowledgement. -/
theorem read_ack_iff {d : Name} {ts : List Str} (h : fields bytes = d.str :: ts) :
    m.read .displayName d = ascii "200" ↔ d.str = ascii "200" := by
  have h0 : 0 ∉ d.str := zero_not_mem_field (by rw [h]; exact List.mem_cons_self)
  by_cases hlen : d.str.length < tokenNameLength
  · rw [m.read_eq _ ⟨h0, hlen⟩]
  · have hack : (ascii "200").length = 3 := by decide
    have hmax : tokenNameLength = 21 := rfl
    have hread : d.str.length ≤ (m.read .displayName d).length := by
      have hpre : d.str <+: m.read .displayName d := CharArray.prefix_readOn h0 _
      exact hpre.length_le
    constructor
    · intro he
      rw [he] at hread
      omega
    · intro he
      rw [he] at hlen
      omega

theorem readAndCreateMessage_lacking
    (h : (fields bytes).length < fieldsNeeded (fields bytes) .createMessage) :
    m.readAndCreateMessage s r.env bodySize bytes =
      readAndCreateMessage s r.env bodySize bytes := by
  rw [Machine.readAndCreateMessage, readAndCreateMessage]
  split
  · rfl
  · cases h₁ : nextField tokenNameLength (fields bytes) with
    | error f => rfl
    | ok x =>
      obtain ⟨d, ts⟩ := x
      have hfs := nextField_eq_ok.mp h₁
      dsimp only
      rw [fieldsNeeded, hfs, List.head?_cons, List.length_cons] at h
      simp only [read_ack_iff hfs]
      by_cases hack : d.str = ascii "200"
      · rw [if_pos (congrArg some hack)] at h
        omega
      · rw [if_neg (fun he => hack (Option.some.inj he))] at h
        rw [if_neg hack, if_neg hack]
        cases h₂ : messageFields ts with
        | error f => rfl
        | ok y =>
          obtain ⟨name, content, stamp⟩ := y
          obtain ⟨us, t, vs, hn, hc, _⟩ := messageFields_eq_ok.mp h₂
          rw [nextField_eq_ok.mp hn, nextField_eq_ok.mp hc] at h
          simp only [List.length_cons] at h
          omega

theorem runHandler_lacking (hk : k ≠ .readMessage) (h : bodyIncomplete bodySize bytes = true ∨
      (fields bytes).length < fieldsNeeded (fields bytes) k) :
    m.runHandler k s r bodySize bytes = runHandler k s r bodySize bytes := by
  obtain hinc | hshort := h
  · exact m.bodyIncomplete_eq hk hinc
  · cases k with
    | createUser => exact readAndCreateUser_lacking hshort
    | destroyUser =>
      rw [Machine.runHandler, runHandler, Machine.readAndDestroyUser, readAndDestroyUser]
      cases hf : destroyFields bytes with
      | error f => rfl
      | ok x =>
        obtain ⟨rest, hfs⟩ := destroyFields_iff_fields.mp hf
        rw [hfs] at hshort
        simp only [fieldsNeeded, List.length_cons] at hshort
        omega
    | createChannel => exact readAndCreateChannel_lacking hshort
    | readChannel => exact readAndReadChannel_lacking hshort
    | updateChannel => exact readAndUpdateChannel_lacking hshort
    | createMessage => exact readAndCreateMessage_lacking hshort
    | readMessage => exact absurd rfl hk
    | login =>
      rw [Machine.runHandler, runHandler, Machine.readAndLoginUser, readAndLoginUser]
      cases hf : loginFields bytes with
      | error f => rfl
      | ok x =>
        obtain ⟨ts, us, h₁, h₂⟩ := loginFields_eq_ok.mp hf
        rw [nextField_eq_ok.mp h₁, nextField_eq_ok.mp h₂] at hshort
        simp only [fieldsNeeded, List.length_cons] at hshort
        omega
    | logout =>
      rw [Machine.runHandler, runHandler, Machine.readAndLogoutUser, readAndLogoutUser,
        List.length_eq_zero_iff.mp (Nat.lt_one_iff.mp hshort)]
      rfl

end Handlers

/-- The header is complete, and the version is a wrong one or the body is one that the handler of
its kind returns an error result for. If there is a response to that, the peer is there to read
it. -/
def MalformedHandled (m : Machine) (s : State) (r : Request) : Prop :=
  ∃ header rest, readHeader r.env.byteOrder r.input = .ok (header, rest) ∧
    (header.version ≠ currentVersion ∨ ∃ k, branch header.object header.type = .handler k ∧
      (rest.take header.bodySize).length ≤ defaultBuffer ∧
        (k = .readMessage ∨ m.reset r.fd = false) ∧
          ShortHandled m s header.bodySize (rest.take header.bodySize) k)

theorem length_of_readHeader {o : Wire.ByteOrder} {input rest : List UInt8} {header : ChatHeader}
    (h : readHeader o input = .ok (header, rest)) : 4 ≤ input.length := by
  match input, h with
  | _ :: _ :: _ :: _ :: _, _ => simp only [List.length_cons]; omega

/-- With a complete header, a malformed request has too few bytes or fields for its handler. -/
theorem Malformed.short {r : Request} (h : Malformed r) {header : ChatHeader} {rest : List UInt8}
    (hread : readHeader r.env.byteOrder r.input = .ok (header, rest)) {k : RequestKind}
    (hk : branch header.object header.type = .handler k) :
    bodyIncomplete header.bodySize (rest.take header.bodySize) = true ∨
      (ChatServer.fields (rest.take header.bodySize)).length <
        fieldsNeeded (ChatServer.fields (rest.take header.bodySize)) k := by
  cases h with
  | header h =>
    have hlen := length_of_readHeader hread
    omega
  | body hread' h =>
    cases hread.symm.trans hread'
    left
    simp only [bodyIncomplete, List.length_take, Bool.or_eq_true, decide_eq_true_eq]
    omega
  | fields hread' hk' _ _ h =>
    cases hread.symm.trans hread'
    cases hk.symm.trans hk'
    exact Or.inr h

/-- A call that returns early has not touched the state, so only the value it returns counts. -/
theorem turnsDown_stop {m : Machine} {s : State} {r : Request} {ret : Except Fault Int}
    {rest : List UInt8} (hd : r.decode = .stop ret rest) :
    m.TurnsDown s r ↔ ∃ n, ret = .ok n ∧ n ≠ 0 := by
  have hcall : m.call s r = ⟨s, rest, [], [], ret⟩ := by
    rw [Machine.call, Machine.handleRequest, hd]
    exact m.deliver_eq (by simp)
  have hresult : m.result s r = ret.toOption := by rw [Machine.result, hd]
  constructor
  · rintro ⟨_, _, n, hn, hne⟩
    rw [hresult] at hn
    cases ret with
    | error f => cases hn
    | ok m =>
      cases hn
      exact ⟨n, rfl, hne⟩
  · rintro ⟨n, rfl, hne⟩
    exact ⟨by rw [hcall]; rfl, by rw [hcall], n, hresult, hne⟩

/-- A body that does not fit the buffer. -/
theorem not_turnsDown_of_long {m : Machine} {s : State} {r : Request} {k : RequestKind}
    {header : ChatHeader} {rest : List UInt8} (hd : r.decode = .serve k header rest)
    (hlen : ¬ (rest.take header.bodySize).length ≤ defaultBuffer) : ¬ m.TurnsDown s r := by
  rintro ⟨hret, _, _⟩
  rw [Machine.call, Machine.handleRequest, hd] at hret
  simp only [Machine.serve, if_pos (Nat.not_le.mp hlen)] at hret
  rw [m.deliver_eq (by simp)] at hret
  cases hret

/-- On every machine and in every state: malformed input is turned down if and only if the header is
there and the version is wrong or the handler has an error result for what it lacks. -/
theorem malformed_refused_iff (m : Machine) (s : State) (r : Request) (h : Malformed r) :
    m.TurnsDown s r ↔ MalformedHandled m s r := by
  cases hread : readHeader r.env.byteOrder r.input with
  | error f =>
    have hd : r.decode = .stop (.error f) [] := by rw [Request.decode, hread]
    rw [turnsDown_stop hd]
    simp [MalformedHandled, hread]
  | ok x =>
    obtain ⟨header, rest⟩ := x
    have hcond : MalformedHandled m s r ↔ (header.version ≠ currentVersion ∨
        ∃ k, branch header.object header.type = .handler k ∧
          (rest.take header.bodySize).length ≤ defaultBuffer ∧
            (k = .readMessage ∨ m.reset r.fd = false) ∧
              ShortHandled m s header.bodySize (rest.take header.bodySize) k) := by
      simp only [MalformedHandled, hread, Except.ok.injEq, Prod.mk.injEq, and_assoc,
        exists_and_left, exists_eq_left']
    rw [hcond]
    by_cases hv : header.version = currentVersion
    · rw [or_iff_right (not_not.mpr hv)]
      cases hb : branch header.object header.type with
      | nothing =>
        have hd : r.decode = .stop (.ok 0) rest := by simp [Request.decode, hread, hv, hb]
        rw [turnsDown_stop hd]
        simp
      | wrongType =>
        have hd : r.decode = .stop (.error .shouldNotBeHere) rest := by
          simp [Request.decode, hread, hv, hb]
        rw [turnsDown_stop hd]
        simp
      | handler k =>
        have hd : r.decode = .serve k header rest := by simp [Request.decode, hread, hv, hb]
        simp only [Branch.handler.injEq, exists_eq_left']
        by_cases hlen : (rest.take header.bodySize).length ≤ defaultBuffer
        · rw [turnsDown_serve hd hlen, and_iff_right hlen]
          by_cases hk : k = .readMessage
          · subst hk
            rw [and_iff_right (Or.inl rfl)]
            exact readMessage_short
          · rw [or_iff_right hk, runHandler_lacking hk (h.short hread hb)]
            exact short_served hk (h.short hread hb)
        · exact iff_of_false (not_turnsDown_of_long hd hlen) (fun hc => hlen hc.1)
    · have hd : r.decode = .stop (.ok errorWrongVersion) rest := by
        simp [Request.decode, hread, hv]
      rw [turnsDown_stop hd]
      exact iff_of_true ⟨errorWrongVersion, rfl, by decide⟩ (Or.inl hv)

/-- A request to create a channel that ends behind the name. -/
theorem malformed_refused_channel :
    Client.machine.TurnsDown Client.start.state (Client.request 5 "10.0.0.1" 1 2 ["tea"]
      "22222222-2222-2222-2222-222222222222") := by
  have hread : readHeader .little (Client.dispatch 1 2 ["tea"]) =
      .ok (⟨1, 1, 2, 4⟩, Client.body ["tea"]) := by decide +kernel
  refine (malformed_refused_iff Client.machine _ _ (.fields (k := .createChannel) hread rfl
    (by decide) (by decide) (by decide))).mpr ⟨_, _, hread, Or.inr ⟨.createChannel, rfl, by decide,
      Or.inr rfl, Or.inr ?_⟩⟩
  exact ⟨CharArray.strncpy _ (ascii "tea"), by decide⟩

/-- The first eight bytes of a login with a body of twelve bytes; then the peer closes. -/
def cutLogin : Request :=
  ⟨5, Client.address "10.0.0.1", (Client.dispatch 1 4 ["admin", "admin"]).take 8, Client.firstEnv⟩

/-- The handler returns -1 and the responder asserts. -/
theorem malformed_not_refused :
    Malformed cutLogin ∧ ¬ Client.machine.TurnsDown Client.start.state cutLogin := by
  have hread : readHeader cutLogin.env.byteOrder cutLogin.input =
      .ok (⟨1, 1, 4, 12⟩, ascii "admi") := by decide +kernel
  refine ⟨.body hread (by decide), fun h => ?_⟩
  have hdead : (Client.machine.call Client.start.state cutLogin).returned = false := by
    decide +kernel
  rw [h.returned] at hdead
  cases hdead

end ChatServer
