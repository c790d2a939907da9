import ChatServer.Framing

/-!
# The mock client

The test program of `mock_client/main.c` reads keys and sends the dispatch that belongs to each.
Some of its branches serialize the header as the server does, others copy `chat_header_t` as it is
in memory, where the bit fields stand in an order that depends on the host.
-/

namespace ChatServer

open CLib Wire

/-- The branches of the loop over the keys. -/
inductive MockChoice where
  | createAdmin | createUser | createAuth | destroyAuth | destroyAuthAdmin | createChannel
  | createMessage | destroyUser | readChannel | updateChannel | readMessage
  deriving DecidableEq

namespace MockChoice

def ofChar : UInt8 → Option MockChoice
  | 48 => some createAdmin
  | 49 => some createUser
  | 50 => some createAuth
  | 51 => some destroyAuth
  | 52 => some destroyAuthAdmin
  | 53 => some createChannel
  | 54 => some createMessage
  | 55 => some destroyUser
  | 56 => some readChannel
  | 57 => some updateChannel
  | 65 => some readMessage
  | _ => none

def type : MockChoice → Fin 16
  | createAdmin | createUser | createAuth | createChannel | createMessage => 1
  | readChannel | readMessage => 2
  | updateChannel => 3
  | destroyAuth | destroyAuthAdmin | destroyUser => 4

def object : MockChoice → Fin 256
  | createAdmin | createUser | destroyUser => 1
  | createChannel | readChannel | updateChannel => 2
  | createMessage | readMessage => 3
  | createAuth | destroyAuth | destroyAuthAdmin => 4

/-- The fields with `\3` between them; `now` is the time, cut to a byte. -/
def body (now : UInt8) : MockChoice → List UInt8
  | createAdmin => ascii "GlobalAdmin" ++ etx :: ascii "admin" ++ etx :: ascii "admin"
  | createUser => ascii "bennychao" ++ etx :: ascii "benny" ++ etx :: ascii "monkey123"
  | createAuth => Client.body ["bennychao", "monkey123"]
  | destroyAuth => Client.body ["benny"]
  | destroyAuthAdmin => ascii "bennychao"
  | createChannel => ascii "comp4981 channel" ++ etx :: ascii "benny" ++ etx :: decimal 0
  | createMessage =>
    Client.body ["benny", "comp4981 channel", "new message"] ++ decimal (now.toNat : ℤ)
  | destroyUser => ascii "benny" ++ etx :: ascii "bennychao" ++ etx :: ascii "monkey123"
  | readChannel => Client.body ["comp4981 channel", "1", "1", "0"]
  | updateChannel => Client.body ["comp4981 channel", "0", "0", "1", "1", "admin", "0", "0"]
  | readMessage => Client.body ["comp4981 channel", "10"]

/-- The branches that copy the header from memory. -/
def Copied : MockChoice → Prop
  | createAdmin | createUser | createAuth | destroyAuthAdmin | createChannel => True
  | _ => False

instance : (c : MockChoice) → Decidable c.Copied
  | createAdmin | createUser | createAuth | destroyAuthAdmin | createChannel => isTrue trivial
  | destroyAuth | createMessage | destroyUser | readChannel | updateChannel | readMessage =>
    isFalse not_false

theorem length_body (now : UInt8) (c : MockChoice) :
    1 ≤ (c.body now).length ∧ (c.body now).length ≤ 100 := by
  have hnow : (decimal (now.toNat : ℤ)).length ≤ 3 := by
    change ((Nat.toDigits 10 now.toNat).map _).length ≤ 3
    rw [List.length_map, Nat.length_toDigits_le_iff (by decide) (by decide)]
    have := now.toNat_lt
    omega
  cases c with
  | createMessage =>
    rw [body, List.length_append,
      show (Client.body ["benny", "comp4981 channel", "new message"]).length = 35 by decide]
    omega
  | _ => exact ⟨Nat.le_of_ble_eq_true rfl, Nat.le_of_ble_eq_true rfl⟩

theorem object_mem (c : MockChoice) : c.object.val ∈ [1, 2, 3, 4] := by
  cases c <;> decide

theorem type_mem (c : MockChoice) : c.type.val ∈ [1, 2, 3, 4] := by
  cases c <;> decide

/-- The dispatch that a branch means. -/
def dispatch (now : UInt8) (c : MockChoice) : Dispatch where
  header := ⟨1, c.type, c.object, ⟨(c.body now).length, by have := (length_body now c).2; omega⟩⟩
  body := c.body now
  length_body := rfl
  body_pos := (length_body now c).1
  body_le := (length_body now c).2.trans (by decide)
  object_known := object_mem c
  type_known := type_mem c

end MockChoice

/-- The two bytes of a 16-bit word. -/
def storeShort : ByteOrder → ℕ → List UInt8
  | .little, w => [byte w 0, byte w 1]
  | .big, w => [byte w 1, byte w 0]

def htons : ByteOrder → ℕ → ℕ
  | .little, w => (byte w 0).toNat*256+(byte w 1).toNat
  | .big, w => w

/-- `chat_header_t` in memory. The field declared first, the version, is in the lower half of its
byte on a little-endian host and in the upper one on a big-endian host. -/
def ChatHeader.image (o : ByteOrder) (h : ChatHeader) (bodySize : ℕ) : List UInt8 :=
  (match o with
    | .little => UInt8.ofNat (h.type.val*16+h.version.val)
    | .big => UInt8.ofNat (h.version.val*16+h.type.val)) ::
  UInt8.ofNat h.object.val :: storeShort o bodySize

/-- What a branch sends. -/
def MockChoice.bytes (o : ByteOrder) (now : UInt8) (c : MockChoice) : List UInt8 :=
  let header := (c.dispatch now).header
  (if c.Copied then header.image o (htons o header.bodySize) else headerBytes o header) ++
    c.body now

/-- The header that the image is taken for. -/
def ChatHeader.copied : ByteOrder → ChatHeader → ChatHeader
  | .little, h => { h with version := h.type, type := h.version }
  | .big, h => h

theorem storeShort_htons (o : ByteOrder) (w : ℕ) :
    storeShort o (htons o w) = storeShort .big w := by
  cases o with
  | big => rfl
  | little =>
    have h0 := (byte w 0).toNat_lt
    have h1 := (byte w 1).toNat_lt
    simp only [storeShort, htons, List.cons.injEq, and_true]
    constructor
    · apply byte_ext
      rw [byte_toNat]
      norm_num
    · apply byte_ext
      rw [byte_toNat]
      norm_num
      omega

theorem image_htons (o : ByteOrder) (h : ChatHeader) :
    h.image o (htons o h.bodySize) = headerBytes .big (h.copied o) := by
  have hshort : storeShort .big h.bodySize =
      [UInt8.ofNat (h.bodySize.val/256), UInt8.ofNat h.bodySize.val] := by
    simp [storeShort, byte]
  cases o with
  | little =>
    rw [ChatHeader.image, storeShort_htons, hshort, headerBytes_eq]
    rfl
  | big =>
    rw [ChatHeader.image, storeShort_htons, hshort, headerBytes_eq]
    rfl

namespace MockChoice

/-- The header as the server finds it. -/
def sentHeader (o : ByteOrder) (now : UInt8) (c : MockChoice) : ChatHeader :=
  if c.Copied then (c.dispatch now).header.copied o else (c.dispatch now).header

/-- On a little-endian host a copied header has its version and its type exchanged, which shows only
where the type is not 1. -/
theorem sentHeader_cases (o : ByteOrder) (now : UInt8) (c : MockChoice) :
    (c.sentHeader o now = (c.dispatch now).header ∧ ¬ (o = .little ∧ c = destroyAuthAdmin)) ∨
      (o = .little ∧ c = destroyAuthAdmin ∧
        c.sentHeader o now = { (c.dispatch now).header with version := 4, type := 1 }) := by
  cases o with
  | big => exact Or.inl ⟨by rw [sentHeader]; split <;> rfl, nofun⟩
  | little =>
    cases c with
    | destroyAuthAdmin => exact Or.inr ⟨rfl, rfl, rfl⟩
    | _ => exact Or.inl ⟨rfl, by simp⟩

theorem bytes_eq (o : ByteOrder) (now : UInt8) (c : MockChoice) :
    c.bytes o now = headerBytes .big (c.sentHeader o now) ++ c.body now := by
  rw [bytes, sentHeader]
  split
  · rw [image_htons]
  · rw [headerBytes_eq, headerBytes_eq]

theorem bodyRead_dispatch (now : UInt8) (c : MockChoice) : (c.dispatch now).BodyRead := by
  refine ⟨rfl, ?_⟩
  show branch c.object c.type ≠ .nothing
  cases c <;> decide

end MockChoice

/-- What the client sends for the keys that it reads, each with the time. -/
def mockClient (o : ByteOrder) (keys : List (UInt8 × UInt8)) : List UInt8 :=
  keys.flatMap fun k => ((MockChoice.ofChar k.1).map fun c => c.bytes o k.2).getD []

/-- The dispatches that are meant. -/
def meant (keys : List (UInt8 × UInt8)) : List (UInt8 × MockChoice) :=
  keys.filterMap fun k => (MockChoice.ofChar k.1).map fun c => (k.2, c)

theorem mockClient_eq (o : ByteOrder) (keys : List (UInt8 × UInt8)) :
    mockClient o keys = (meant keys).flatMap fun m => m.2.bytes o m.1 := by
  rw [mockClient, meant]
  induction keys with
  | nil => rfl
  | cons k keys ih =>
    rw [List.flatMap_cons, ih, List.filterMap_cons]
    cases MockChoice.ofChar k.1 with
    | none => rfl
    | some c => rfl

/-- The calls of the server are in step with the dispatches that the client means exactly if the
client runs on a big-endian host or none of the dispatches that the server gets to is that of key
'4': its header arrives with the version 4. -/
theorem mock_client_in_sync_iff (o : ByteOrder) (fd : ℕ) (addr : IpAddr)
    (turns : List (State × Env)) (keys : List (UInt8 × UInt8)) :
    InSync ((meant keys).map fun m => m.2.dispatch m.1)
        (readings fd addr turns (mockClient o keys)) ↔
      o = .big ∨ ∀ m ∈ (meant keys).take (readings fd addr turns (mockClient o keys)).length,
        m.2 ≠ .destroyAuthAdmin := by
  rw [mockClient_eq]
  -- along the dispatches that are meant; the first one that arrives changed is out of step
  generalize meant keys = ms
  induction ms generalizing turns with
  | nil => simp [InSync]
  | cons m ms ih =>
    cases turns with
    | nil => simp [InSync, readings]
    | cons turn turns =>
      obtain ⟨s, env⟩ := turn
      obtain ⟨now, c⟩ := m
      have hread : readHeader env.byteOrder (c.bytes o now ++ ms.flatMap fun m => m.2.bytes o m.1) =
          .ok (c.sentHeader o now, c.body now ++ ms.flatMap fun m => m.2.bytes o m.1) := by
        rw [MockChoice.bytes_eq, List.append_assoc, readHeader_headerBytes]
      rw [List.flatMap_cons, readings, List.map_cons, inSync_cons, hread, List.length_cons,
        List.take_succ_cons, List.forall_mem_cons]
      obtain ⟨hsame, hno⟩ | ⟨rfl, rfl, hchanged⟩ := c.sentHeader_cases o now
      · have hbytes : c.bytes o now = (c.dispatch now).bytes := by
          rw [MockChoice.bytes_eq, hsame, Dispatch.bytes]
          rfl
        have hrest := rest_of_bodyRead s env fd addr (c.dispatch now)
          (ms.flatMap fun m => m.2.bytes o m.1) (c.bodyRead_dispatch now)
        have hlen := length_bytes_append (c.dispatch now) (ms.flatMap fun m => m.2.bytes o m.1)
        rw [hbytes, hsame]
        dsimp only
        generalize handleRequest s ⟨fd, addr, (c.dispatch now).bytes ++
          ms.flatMap fun m => m.2.bytes o m.1, env⟩ = call at hrest ⊢
        have hfirst : call.returned = true →
            ((c.dispatch now).bytes ++ ms.flatMap fun m => m.2.bytes o m.1).length-
              call.rest.length = 4+(c.dispatch now).header.bodySize := by
          intro hret
          rw [hrest hret, hlen]
          omega
        have hkey : o = .big ∨ c ≠ .destroyAuthAdmin := by
          cases o with
          | big => exact Or.inl rfl
          | little => exact Or.inr fun hc => hno ⟨rfl, hc⟩
        by_cases hgo : call.returned = true ∧ fd ∉ call.closed
        · have hnext := ih turns
          rw [← hrest hgo.1] at hnext
          rw [if_pos hgo, hnext]
          constructor
          · rintro ⟨_, h | h⟩
            · exact Or.inl h
            · exact hkey.imp_right fun hc => ⟨hc, h⟩
          · rintro h
            exact ⟨⟨rfl, hfirst⟩, h.imp_right And.right⟩
        · rw [if_neg hgo]
          constructor
          · intro _
            exact hkey.imp_right fun hc => ⟨hc, by simp⟩
          · exact fun _ => ⟨⟨rfl, hfirst⟩, by simp [InSync]⟩
      · constructor
        · rintro ⟨⟨hheader, _⟩, _⟩
          rw [hchanged] at hheader
          have hversion : (4 : Fin 16) = 1 := congrArg ChatHeader.version (Option.some.inj hheader)
          exact absurd hversion (by decide)
        · rintro (h | h)
          · cases h
          · exact absurd rfl h.1

end ChatServer
