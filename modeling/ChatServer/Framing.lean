import ChatServer.Server

/-!
# Request framing on one connection

A client sends dispatches back to back, and every call of `handle_request` takes the header of the
next one from where the last call stopped reading. The calls stay in step with the dispatches only
if each of them reads the body: a handler does, but the branches without one and the return on a
wrong version leave it on the connection.
-/

namespace ChatServer

open CLib

/-- A dispatch with a body that fits the buffer of a handler, and one of the objects and types that
`handle_request` distinguishes. -/
structure Dispatch where
  header : ChatHeader
  body : List UInt8
  length_body : body.length = header.bodySize
  body_pos : 1 ≤ body.length
  body_le : body.length ≤ 1023
  object_known : header.object.val ∈ [1, 2, 3, 4]
  type_known : header.type.val ∈ [1, 2, 3, 4]

def Dispatch.bytes (d : Dispatch) : List UInt8 := headerBytes .big d.header ++ d.body

/-- What one call did on the connection: the header it decoded, how much it read, whether it
returned. -/
structure Reading where
  header : Option ChatHeader
  consumed : ℕ
  returned : Bool
  deriving DecidableEq

/-- The calls on the connection `fd`, one for each state that the server is in when it gets to
the connection again, as long as it runs and the connection is open. -/
def readings (fd : ℕ) (addr : IpAddr) : List (State × Env) → List UInt8 → List Reading
  | [], _ => []
  | (s, env) :: turns, input =>
    let c := handleRequest s ⟨fd, addr, input, env⟩
    ⟨(readHeader env.byteOrder input).toOption.map Prod.fst, input.length-c.rest.length,
      c.returned⟩ ::
      if c.returned = true ∧ fd ∉ c.closed then readings fd addr turns c.rest else []

/-- Every call decodes the header of its own dispatch, and reads all of it if it returns. -/
def InSync (ds : List Dispatch) (cs : List Reading) : Prop :=
  ∀ (i : ℕ) (c : Reading) (d : Dispatch), cs[i]? = some c → ds[i]? = some d →
    c.header = some d.header ∧ (c.returned = true → c.consumed = 4+d.header.bodySize)

/-- The version is the current one and the branch for object and type is not an empty one. -/
def Dispatch.BodyRead (d : Dispatch) : Prop :=
  d.header.version = currentVersion ∧ branch d.header.object d.header.type ≠ .nothing

instance (d : Dispatch) : Decidable d.BodyRead := inferInstanceAs (Decidable (_ ∧ _))

theorem inSync_cons {d : Dispatch} {ds : List Dispatch} {c : Reading} {cs : List Reading} :
    InSync (d :: ds) (c :: cs) ↔
      (c.header = some d.header ∧ (c.returned = true → c.consumed = 4+d.header.bodySize)) ∧
        InSync ds cs := by
  constructor
  · intro h
    exact ⟨h 0 c d rfl rfl, fun i c' d' hc hd => h (i+1) c' d' hc hd⟩
  · rintro ⟨h₀, h⟩ i c' d' hc hd
    cases i with
    | zero => cases hc; cases hd; exact h₀
    | succ i => exact h i c' d' hc hd

section Call

variable (s : State) (env : Env) (fd : ℕ) (addr : IpAddr) (d : Dispatch) (rest : List UInt8)

theorem length_bytes_append :
    (d.bytes ++ rest).length = 4+d.header.bodySize+rest.length := by
  rw [List.length_append, Dispatch.bytes, List.length_append, length_headerBytes, d.length_body]

theorem readHeader_bytes :
    readHeader env.byteOrder (d.bytes ++ rest) = .ok (d.header, d.body ++ rest) := by
  rw [Dispatch.bytes, List.append_assoc, readHeader_headerBytes]

/-- A call whose branch is not empty stops reading behind the body. -/
theorem rest_of_bodyRead (h : d.BodyRead)
    (hret : (handleRequest s ⟨fd, addr, d.bytes ++ rest, env⟩).returned = true) :
    (handleRequest s ⟨fd, addr, d.bytes ++ rest, env⟩).rest = rest := by
  cases hb : branch d.header.object d.header.type with
  | nothing => exact absurd hb h.2
  | wrongType =>
    have hdec : Request.decode ⟨fd, addr, d.bytes ++ rest, env⟩ =
        .stop (.error .shouldNotBeHere) (d.body ++ rest) := by
      simp [Request.decode, readHeader_bytes, h.1, hb]
    rw [handleRequest, hdec] at hret
    cases hret
  | handler k =>
    have hdec : Request.decode ⟨fd, addr, d.bytes ++ rest, env⟩ =
        .serve k d.header (d.body ++ rest) := by
      simp [Request.decode, readHeader_bytes, h.1, hb]
    rw [handleRequest, hdec]
    dsimp only
    rw [serve_rest, ← d.length_body, List.drop_left]

/-- Any other call returns with the whole body unread. -/
theorem rest_of_not_bodyRead (h : ¬ d.BodyRead) :
    (handleRequest s ⟨fd, addr, d.bytes ++ rest, env⟩).returned = true ∧
      (handleRequest s ⟨fd, addr, d.bytes ++ rest, env⟩).rest = d.body ++ rest := by
  have hdec : ∃ v, Request.decode ⟨fd, addr, d.bytes ++ rest, env⟩ =
      .stop (.ok v) (d.body ++ rest) := by
    by_cases hv : d.header.version = currentVersion
    · have hb : branch d.header.object d.header.type = .nothing := by
        by_contra hb
        exact h ⟨hv, hb⟩
      exact ⟨0, by simp [Request.decode, readHeader_bytes, hv, hb]⟩
    · exact ⟨errorWrongVersion, by simp [Request.decode, readHeader_bytes, hv]⟩
  obtain ⟨v, hv⟩ := hdec
  rw [handleRequest, hv]
  exact ⟨rfl, rfl⟩

end Call

/-- The calls are in step with the dispatches exactly when every dispatch that the server gets to
has the current version and a branch that is not empty. -/
theorem in_sync_iff (fd : ℕ) (addr : IpAddr) (turns : List (State × Env)) (ds : List Dispatch) :
    InSync ds (readings fd addr turns (ds.flatMap Dispatch.bytes)) ↔
      ∀ d ∈ ds.take (readings fd addr turns (ds.flatMap Dispatch.bytes)).length, d.BodyRead := by
  -- along the dispatches; a call that stops behind its body leaves the others to be read
  induction ds generalizing turns with
  | nil => simp [InSync]
  | cons d ds ih =>
    cases turns with
    | nil => simp [InSync, readings]
    | cons turn turns =>
      obtain ⟨s, env⟩ := turn
      have hlen := length_bytes_append d (ds.flatMap Dispatch.bytes)
      have hread := rest_of_bodyRead s env fd addr d (ds.flatMap Dispatch.bytes)
      have hleft := rest_of_not_bodyRead s env fd addr d (ds.flatMap Dispatch.bytes)
      rw [List.flatMap_cons, readings, inSync_cons, readHeader_bytes, List.length_cons,
        List.take_succ_cons, List.forall_mem_cons]
      generalize handleRequest s ⟨fd, addr, d.bytes ++ ds.flatMap Dispatch.bytes, env⟩ = c
        at hread hleft
      by_cases hd : d.BodyRead
      · have hfirst : c.returned = true →
            (d.bytes ++ ds.flatMap Dispatch.bytes).length-c.rest.length =
              4+d.header.bodySize := by
          intro hret
          rw [hread hd hret, hlen]
          omega
        simp only [hd, true_and]
        by_cases hgo : c.returned = true ∧ fd ∉ c.closed
        · have hnext := ih turns
          rw [← hread hd hgo.1] at hnext
          rw [if_pos hgo, ← hnext]
          exact ⟨And.right, fun h => ⟨⟨rfl, hfirst⟩, h⟩⟩
        · rw [if_neg hgo]
          exact ⟨fun _ => by simp, fun _ => ⟨⟨rfl, hfirst⟩, by simp [InSync]⟩⟩
      · obtain ⟨hret, hrest⟩ := hleft hd
        have hpos := d.body_pos
        have hbody := d.length_body
        -- the body is not empty, so the call has consumed less than its dispatch
        constructor
        · rintro ⟨⟨_, hcons⟩, _⟩
          have hc := hcons hret
          simp only [hlen, hrest, List.length_append] at hc
          omega
        · exact fun h => absurd h.1 hd

/-- A login in the wrong version, followed by a login. -/
def wrongVersionDispatches : List Dispatch :=
  [⟨⟨2, 1, 4, 12⟩, Client.body ["admin", "admin"], by decide, by decide, by decide, by decide,
      by decide⟩,
    ⟨⟨1, 1, 4, 12⟩, Client.body ["admin", "admin"], by decide, by decide, by decide, by decide,
      by decide⟩]

/-- The second call takes its header from the body of the first dispatch. -/
theorem wrong_version_out_of_sync :
    ¬ InSync wrongVersionDispatches (readings 5 (Client.address "10.0.0.1")
      [(Client.start.state, Client.firstEnv), (Client.start.state, Client.firstEnv)]
      (wrongVersionDispatches.flatMap Dispatch.bytes)) := by
  intro h
  have hsecond : ((readings 5 (Client.address "10.0.0.1")
      [(Client.start.state, Client.firstEnv), (Client.start.state, Client.firstEnv)]
      (wrongVersionDispatches.flatMap Dispatch.bytes))[1]?) =
        some ⟨some ⟨6, 1, 100, 0x6D69⟩, 4, true⟩ := by decide +kernel
  have hheader := (h 1 _ _ hsecond rfl).1
  exact absurd hheader (by decide +kernel)

end ChatServer
