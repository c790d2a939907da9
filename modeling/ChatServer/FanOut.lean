import ChatServer.Authority

/-!
# Fan-out of a message

A message that was stored is answered to its sender, and its copies go to the sessions of the
members of the channel, which `handle_request` fetches once more by its name. The loop over the
sessions asks for their number at every turn; nothing in its body changes it.
-/

namespace ChatServer

open CLib

/-- The channel name for the sender, then the text for every session whose user is in the list of
the channel, in the order of the cache. -/
def fanOut (s : State) (fd : ℕ) (name : Str) (channel : ChannelInfo) (text : Str) :
    List (ℕ × Str) :=
  (fd, ascii "201" ++ etx :: name) ::
    (s.activeUsers.live.filter fun u => channel.userList.slots.contains u.dsplyName).map fun u =>
      (u.fd, ascii "200" ++ etx :: text)

/-- The call returns and writes the fan-out of the text, each dispatch from an array that holds it
with its terminator, under a header that announces its length. -/
structure FansOut (c : Call) (s : State) (r : Request) (bytes : List UInt8) (text : Str) :
    Prop where
  returned : c.returned = true
  sent : ∃ d name ts channel, fields bytes = d :: name.str :: ts ∧
    s.getChannelInfo r.env name = some channel ∧
    c.sent.map (fun x => (x.fd, x.body)) = fanOut s r.fd name.str channel text
  framed : ∀ x ∈ c.sent,
    x.body.length < bodyCapacity .createMessage ∧ x.header.bodySize.val = x.body.length

variable {s : State}

/-- No live session is unnamed, so the empty slots of a list match none. -/
theorem named_of_live {c : Cache} {u : ConnectedUser} (h : u ∈ c.live) :
    u.dsplyName.isEmpty = false := by
  rw [Cache.live_eq] at h
  have hnamed : u.named = true := List.mem_takeWhile_imp h
  rw [ConnectedUser.named] at hnamed
  simpa using hnamed

theorem checkIfUserInChannel_live {c : Cache} {u : ConnectedUser} (h : u ∈ c.live)
    (channel : ChannelInfo) :
    checkIfUserInChannel u.dsplyName channel = channel.userList.slots.contains u.dsplyName := by
  rw [checkIfUserInChannel, Bool.eq_iff_iff, List.any_eq_true, List.contains_iff_mem]
  constructor
  · rintro ⟨name, hm, hname⟩
    rw [Bool.and_eq_true, decide_eq_true_eq] at hname
    rw [hname.2]
    exact hm
  · intro hm
    exact ⟨_, hm, by simp [named_of_live h]⟩

/-- A dispatch under the header of the request. -/
def dispatchOf (header : ChatHeader) (forwarded : Bool) (x : ℕ × Str) : Sent :=
  ⟨x.1, forwarded, responseHeader header x.2, x.2⟩

/-- What `handle_request` writes for a message, the answer and the copies. -/
theorem forwards_eq {env : Env} {name : Name} {channel : ChannelInfo}
    (h : s.getChannelInfo env name = some channel) (header : ChatHeader) (fd : ℕ) (text : Str) :
    forwards s env header name.str text =
      .ok ((fanOut s fd name.str channel text).tail.map (dispatchOf header true)) := by
  have hbody : sendCreateMessageResponse successForwardReq text =
      .ok (some (ascii "200" ++ etx :: text)) := rfl
  have hfilter := List.filter_congr fun u hu => checkIfUserInChannel_live hu channel
    (c := s.activeUsers) (u := u)
  rw [forwards, CharArray.strncpy_str, h, fanOut, List.tail_cons, List.map_map, ← hfilter]
  cases s.activeUsers.live with
  | nil => rfl
  | cons u us =>
    simp only [hbody]
    rfl

/-- A header announces the length of a body that fits its array. -/
theorem bodySize_responseHeader {header : ChatHeader} {body : Str}
    (h : body.length < bodyCapacity .createMessage) :
    (responseHeader header body).bodySize.val = body.length := by
  have hcap := bodyCapacity_le .createMessage
  simp only [responseHeader, Fin.val_ofNat]
  exact Nat.mod_eq_of_lt (by omega)

/-- A request that stores a message sends the fan-out of its text, and nothing else. -/
theorem sent_of_message {r : Request} {m : MessageInfo} (h : createMessageTarget s r = some m) :
    ∃ header rest d name ts channel, r.decode = .serve .createMessage header rest ∧
      fields (rest.take header.bodySize) = d :: name.str :: ts ∧
      s.getChannelInfo r.env name = some channel ∧ (handleRequest s r).returned = true ∧
      (handleRequest s r).sent =
        dispatchOf header false (r.fd, ascii "201" ++ etx :: name.str) ::
          (fanOut s r.fd name.str channel (cstr (rest.take header.bodySize))).tail.map
            (dispatchOf header true) := by
  obtain ⟨header, rest, name, hd, hlen, ⟨d, ts, hfs⟩, hsome, hrun⟩ := runHandler_createMessage h
  obtain ⟨channel, hc⟩ := Option.isSome_iff_exists.mp hsome
  have hcall : handleRequest s r =
      respond .createMessage (s.insertMessage m) r header (rest.drop header.bodySize)
        ⟨0, name.str, cstr (rest.take header.bodySize)⟩ := by
    rw [handleRequest_of_reply hd hlen (congrArg Outcome.value hrun), hrun]
  -- the message database is not the one the channel is fetched from
  have hc' : (s.insertMessage m).getChannelInfo r.env name = some channel := hc
  have hbody : sendResponse .createMessage 0 name.str =
      .ok (some (ascii "201" ++ etx :: name.str)) := rfl
  rw [respond, if_neg (fun hack => by cases hack.2), hbody] at hcall
  dsimp only at hcall
  rw [afterResponse, forwards_eq hc' header r.fd] at hcall
  rw [hcall]
  exact ⟨header, rest, d, name, ts, channel, hd, hfs, hc, rfl, rfl⟩

/-- The body is the one the header announces. -/
theorem bodyFor_eq {k k' : RequestKind} {r : Request} {header : ChatHeader}
    {rest bytes : List UInt8} (hd : r.decode = .serve k header rest)
    (h : r.bodyFor k' = some bytes) : bytes = rest.take header.bodySize := by
  rw [Request.bodyFor, hd] at h
  dsimp only at h
  split at h
  · exact (Option.some.inj h).symm
  · cases h

/-- Whatever is written fits its array, as long as the body leaves room for the status. -/
theorem length_lt_of_fanOut {fd : ℕ} {name : Name} {channel : ChannelInfo} {text : Str}
    (htext : text.length ≤ 1019) {x : ℕ × Str} (h : x ∈ fanOut s fd name.str channel text) :
    x.2.length < bodyCapacity .createMessage := by
  have hstatus : (ascii "201").length = 3 ∧ (ascii "200").length = 3 := by decide
  have hcap : bodyCapacity .createMessage = 1024 := rfl
  have hname : name.str.length ≤ 21 := name.fits
  obtain rfl | h := List.mem_cons.mp h
  · rw [List.length_append, List.length_cons, hstatus.1, hcap]
    omega
  · obtain ⟨u, _, rfl⟩ := List.mem_map.mp h
    rw [List.length_append, List.length_cons, hstatus.2, hcap]
    omega

/-- The handlers that read arrays answer a request with a body of at most 1019 bytes that stores a
message with 201 and the channel name, and then the body, up to its first terminator, goes with 200
to each session of a member of the channel; no other dispatch is written. A body without a
terminator goes out whole. -/
theorem fansOut_handleRequest (s : State) (r : Request) (bytes : List UInt8)
    (hb : r.bodyFor .createMessage = some bytes) (hlen : bytes.length ≤ 1019)
    (h0 : r.result s = some 0) :
    FansOut (handleRequest s r) s r bytes (cstr bytes) ∧
      (0 ∉ bytes → FansOut (handleRequest s r) s r bytes bytes) := by
  have hf : r.fieldsFor .createMessage = some (fields bytes) := by
    rw [Request.fieldsFor, hb, Option.map_some]
  obtain ⟨n, bytes', reply, _, hfs', hv, hz, _⟩ := runHandler_of_result hf h0
  obtain ⟨m, hm⟩ := createMessage_zero (fun _ => by rw [hf, hfs']) hv hz
  obtain ⟨header, rest, d, name, ts, channel, hd, hfs, hc, hret, hsent⟩ := sent_of_message hm
  obtain rfl := bodyFor_eq hd hb
  have htext := (length_cstr_le (rest.take header.bodySize)).trans hlen
  have hfan : FansOut (handleRequest s r) s r (rest.take header.bodySize)
      (cstr (rest.take header.bodySize)) := by
    refine ⟨hret, ⟨d, name, ts, channel, hfs, hc, ?_⟩, ?_⟩
    · rw [hsent, List.map_cons, List.map_map]
      exact congrArg _ (List.map_id _)
    · rw [hsent]
      intro x hx
      obtain ⟨fwd, y, hy, rfl⟩ : ∃ fwd, ∃ y ∈ fanOut s r.fd name.str channel
          (cstr (rest.take header.bodySize)), dispatchOf header fwd y = x := by
        obtain rfl | hx := List.mem_cons.mp hx
        · exact ⟨false, _, List.mem_cons_self, rfl⟩
        · obtain ⟨y, hy, rfl⟩ := List.mem_map.mp hx
          exact ⟨true, y, List.mem_of_mem_tail hy, rfl⟩
      have hfits := length_lt_of_fanOut htext hy
      exact ⟨hfits, bodySize_responseHeader hfits⟩
  refine ⟨hfan, fun hnul => ?_⟩
  have hwhole : cstr (rest.take header.bodySize) = rest.take header.bodySize := by
    refine List.takeWhile_eq_self_iff.mpr fun b hb => ?_
    exact decide_eq_true fun h => hnul (h ▸ hb)
  rw [hwhole] at hfan
  exact hfan

/-- The same message with a terminator in its last field. -/
def cutMessage : Request :=
  Client.createMessage 5 "10.0.0.1" "bob" "global" "hello" "12:00\x00pm"
    "33333333-3333-3333-3333-333333333333"

/-- A user whose name fills its array is a member of the channel and online. -/
def longMemberRun : List Request :=
  [Client.login 5 "10.0.0.1" "admin" "admin",
    Client.createUser 6 "10.0.0.2" "longt" "abcdefghijklmnopqrstu" "pw"
      "22222222-2222-2222-2222-222222222222",
    Client.login 6 "10.0.0.2" "longt" "pw",
    Client.addMember 5 "10.0.0.1" "global" "abcdefghijklmnopqrstu"]

def longMemberState : State :=
  (Machine.run Client.start (Client.on Client.machine longMemberRun)).state

/-- The administrator posts. -/
def adminMessage : Request :=
  Client.createMessage 5 "10.0.0.1" "admin" "global" "hello" "12:00"
    "33333333-3333-3333-3333-333333333333"

end ChatServer
