import ChatServer.FanOut
import ChatServer.Lib.Buffer
import ChatServer.Lib.Simulation

/-!
# Channels as broadcasts

What a client receives of a channel, read off the dispatches that are written to its descriptor, and
what is posted in the channel, read off the requests that are answered with 201. Over a whole run,
with the requests of all clients in any order, every descriptor gets the messages of a channel in
the order in which they were posted: each as many times as members have a session on it.
-/

namespace ChatServer

open CLib

/-- The channel and the text of the message that a request posts if it has the result. -/
def Request.postedWith (r : Request) (result : Option Int) : Option (Name × Str) := do
  let bytes ← r.bodyFor .createMessage
  let (_, ts) ← field? tokenNameLength (fields bytes)
  let (name, _) ← field? tokenNameLength ts
  if result = some 0 then some (name, cstr bytes) else none

def Request.posts (r : Request) (s : State) : Option (Name × Str) := r.postedWith (r.result s)

def Machine.posts (m : Machine) (s : State) (r : Request) : Option (Name × Str) :=
  r.postedWith (m.result s r)

/-- The dispatch that brings a message to a member: the status and the text. -/
def copyOf (text : Str) : Str := ascii "200" ++ etx :: text

/-- The field of a copy that names the channel, behind the status and the sender. -/
def channelOf (x : Sent) : Option Str := (fields x.body)[2]?

/-- What is posted, as far as it is posted in the channel. -/
def textsIn (name : Name) (p : Option (Name × Str)) : List Str :=
  (p.filter fun x => x.1 = name).toList.map fun x => copyOf x.2

/-- What a call writes to a descriptor as copies of messages in a channel. -/
def copiesTo (fd : ℕ) (name : Name) (c : Call) : List Str :=
  (c.sent.filter fun x => x.forwarded && x.fd = fd && channelOf x = some name.str).map Sent.body

/-- What a step posts in a channel. -/
def posted (name : Name) (v : Server) (x : Machine × Request) : List Str :=
  if v.running then textsIn name (x.1.posts v.state x.2) else []

/-- What a step brings to a descriptor as copies of messages in a channel. -/
def inbox (fd : ℕ) (name : Name) (v : Server) (x : Machine × Request) : List Str :=
  if v.running then copiesTo fd name (x.1.call v.state x.2) else []

/-- The live sessions on a descriptor whose users are in the channel's list. -/
def seats (s : State) (env : Env) (fd : ℕ) (name : Name) : ℕ :=
  match s.getChannelInfo env name with
  | none => 0
  | some c => s.activeUsers.live.countP fun u => u.fd = fd && c.userList.slots.contains u.dsplyName

variable {s : State} {r : Request}

/-- A copy is split at ETX into the status and the fields of the message. -/
theorem fields_copyOf (bytes : List UInt8) :
    fields (copyOf (cstr bytes)) = ascii "200" :: fields bytes := by
  have hclean : cstr (copyOf (cstr bytes)) = copyOf (cstr bytes) := by
    refine List.takeWhile_eq_self_iff.mpr fun b hb => ?_
    rw [decide_eq_true_eq]
    rintro rfl
    rcases List.mem_append.mp hb with h | h
    · exact absurd h (by decide)
    · rcases List.mem_cons.mp h with h | h
      · exact absurd h (by decide)
      · exact zero_not_mem_cstr bytes h
  rw [fields, hclean, copyOf, tokens_append_cons]
  rfl

/-- What the channel of a posted message is, and who gets it. -/
theorem sent_of_posts {name : Name} {text : Str} (h : r.posts s = some (name, text)) :
    ∃ header channel bytes d ts, fields bytes = d :: name.str :: ts ∧ text = cstr bytes ∧
      s.getChannelInfo r.env name = some channel ∧
      (handleRequest s r).sent = dispatchOf header false (r.fd, ascii "201" ++ etx :: name.str) ::
        (fanOut s r.fd name.str channel text).tail.map (dispatchOf header true) := by
  simp only [Request.posts, Request.postedWith, bind, Option.bind_eq_some_iff, Prod.exists,
    Option.ite_none_right_eq_some, Option.some.injEq, Prod.mk.injEq] at h
  obtain ⟨bytes, hb, d, ts, hd, name', us, hn, h0, rfl, rfl⟩ := h
  have hf : r.fieldsFor .createMessage = some (fields bytes) := by
    rw [Request.fieldsFor, hb, Option.map_some]
  obtain ⟨n, bytes', reply, _, hfs', hv, hz, _⟩ := runHandler_of_result hf h0
  obtain ⟨m, hm⟩ := createMessage_zero (fun _ => by rw [hf, hfs']) hv hz
  obtain ⟨header, rest, d', name, ts', channel, hdec, hfs, hc, _, hsent⟩ := sent_of_message hm
  obtain rfl := bodyFor_eq hdec hb
  rw [field?_some hd, field?_some hn] at hfs
  obtain rfl : name' = name := CharArray.ext (List.cons.inj (List.cons.inj hfs).2).1
  exact ⟨header, channel, rest.take header.bodySize, d.str, us,
    by rw [field?_some hd, field?_some hn], rfl, hc, hsent⟩

/-- A message that is not stored is turned down before its channel is known, or has none. -/
theorem createMessage_reply {n : ℕ} {bytes : List UInt8} {reply : Reply}
    (hv : (readAndCreateMessage s r.env n bytes).value = .ok reply) (h0 : reply.result ≠ 0) :
    reply.result = -1 ∨ reply.result = createMessageAck ∨
      (readAndCreateMessage s r.env n bytes).state = s ∧
        ∃ name : Name, reply.token = name.str ∧ s.getChannelInfo r.env name = none := by
  unfold readAndCreateMessage at hv ⊢
  cases hn : bodyIncomplete n bytes with
  | true =>
    rw [hn] at hv
    cases hv
    exact Or.inl rfl
  | false =>
    simp only [hn, Bool.false_eq_true, if_false] at hv ⊢
    cases h₁ : nextField tokenNameLength (fields bytes) with
    | error f => simp [h₁, Outcome.fault] at hv
    | ok x =>
      obtain ⟨d, ts⟩ := x
      simp only [h₁] at hv ⊢
      by_cases hack : d.str = ascii "200"
      · rw [if_pos hack] at hv
        cases hv
        exact Or.inr (Or.inl rfl)
      · rw [if_neg hack] at hv ⊢
        cases h₂ : messageFields ts with
        | error f => simp [h₂, Outcome.fault] at hv
        | ok y =>
          obtain ⟨name, content, stamp⟩ := y
          simp only [h₂, messageFields_ne_empty h₁ h₂, Bool.false_eq_true, if_false] at hv ⊢
          unfold storeNewMessage at hv ⊢
          cases hc : s.getChannelInfo r.env name with
          | none =>
            simp only [hc] at hv ⊢
            cases hv
            exact Or.inr (Or.inr ⟨trivial, name, rfl, hc⟩)
          | some channel =>
            -- behind the channel every path that returns has stored the message
            simp only [hc] at hv
            repeat' split at hv
            all_goals first
              | cases hv; exact absurd rfl h0
              | cases hv

theorem forwards_of_no_channel {env : Env} {header : ChatHeader} {name : Name} {text : Str}
    {sent : List Sent} (h : s.getChannelInfo env name = none)
    (hs : forwards s env header name.str text = .ok sent) : sent = [] := by
  rw [forwards, CharArray.strncpy_str, h] at hs
  cases hlive : s.activeUsers.live with
  | nil =>
    rw [hlive] at hs
    cases hs
    rfl
  | cons u us =>
    rw [hlive] at hs
    cases hs

/-- A copy is no direct response. -/
theorem forwards_of_respond {k : RequestKind} {header : ChatHeader} {rest : List UInt8}
    {reply : Reply} {x : Sent} (hx : x ∈ (respond k s r header rest reply).sent)
    (hfwd : x.forwarded = true) :
    k = .createMessage ∧ reply.result ≠ createMessageAck ∧
      (∃ body, sendResponse k reply.result reply.token = .ok body) ∧
      ∃ sent, forwards s r.env header reply.token reply.forward = .ok sent ∧ x ∈ sent := by
  rw [respond] at hx
  split at hx
  · cases hx
  rename_i hack
  cases hsend : sendResponse k reply.result reply.token with
  | error f =>
    rw [hsend] at hx
    cases hx
  | ok body =>
    have hdirect : x ∉ body.toList.map fun b =>
        (⟨r.fd, false, responseHeader header b, b⟩ : Sent) := by
      intro hm
      obtain ⟨b, _, rfl⟩ := List.mem_map.mp hm
      cases hfwd
    simp only [hsend] at hx
    cases ha : afterResponse k s r header reply with
    | error f =>
      simp only [ha] at hx
      exact absurd hx hdirect
    | ok y =>
      obtain ⟨sent, closed⟩ := y
      simp only [ha] at hx
      have hsent := (List.mem_append.mp hx).resolve_left hdirect
      obtain ⟨rfl, hf⟩ := forwards_of_afterResponse ha hsent
      exact ⟨rfl, fun h => hack ⟨rfl, h⟩, ⟨body, rfl⟩, sent, hf, hsent⟩

/-- A message that is stored and answered is posted. -/
theorem posts_of_target {m : MessageInfo} (hm : createMessageTarget s r = some m)
    (h0 : r.result s = some 0) : r.posts s ≠ none := by
  simp only [createMessageTarget, bind, Option.bind_eq_some_iff, Prod.exists] at hm
  obtain ⟨fs, hfs, d, ts, hdn, name, content, stamp, hmf, _⟩ := hm
  obtain ⟨bytes, hb, rfl⟩ := Option.map_eq_some_iff.mp hfs
  have hmf : messageFields ts = .ok (name, content, stamp) := by
    cases h : messageFields ts with
    | error f => rw [h] at hmf; cases hmf
    | ok y => rw [h] at hmf; cases hmf; rfl
  obtain ⟨us, t, ws, hn, _⟩ := messageFields_eq_ok.mp hmf
  simp [Request.posts, Request.postedWith, bind, hb, hdn, field?_eq hn, h0]

/-- Copies are only written for a message that is posted. -/
theorem posts_of_forwarded {x : Sent} (hx : x ∈ (handleRequest s r).sent)
    (hfwd : x.forwarded = true) : r.posts s ≠ none := by
  cases hd : r.decode with
  | stop ret rest =>
    rw [handleRequest, hd] at hx
    cases hx
  | serve k header rest =>
    by_cases hlen : (rest.take header.bodySize).length ≤ defaultBuffer
    swap
    · rw [handleRequest, hd] at hx
      dsimp only at hx
      rw [serve, if_pos (Nat.lt_of_not_le hlen)] at hx
      cases hx
    cases hv : (runHandler k s r header.bodySize (rest.take header.bodySize)).value with
    | error f =>
      rw [handleRequest, hd] at hx
      simp only [serve, if_neg (Nat.not_lt.mpr hlen), hv] at hx
      cases hx
    | ok reply =>
      rw [handleRequest_of_reply hd hlen hv] at hx
      obtain ⟨rfl, hack, ⟨body, hsend⟩, sent, hf, hsent⟩ := forwards_of_respond hx hfwd
      have h0 : reply.result = 0 := by
        by_contra h0
        rcases createMessage_reply hv h0 with h | h | ⟨hstate, name, htoken, hnone⟩
        · rw [h] at hsend
          cases hsend
        · exact hack h
        · have hstate' : (runHandler .createMessage s r header.bodySize
              (rest.take header.bodySize)).state = s := hstate
          rw [hstate', htoken] at hf
          rw [forwards_of_no_channel hnone hf] at hsent
          cases hsent
      obtain ⟨m, hm⟩ := createMessage_zero (fieldsFor_eq hd hlen) hv h0
      exact posts_of_target hm (by rw [Request.result, hd, ← h0]; dsimp only; rw [hv]; rfl)

/-- The copies of a posted message on one descriptor: as many as there are seats. -/
theorem copiesTo_of_posts {name : Name} {text : Str} (h : r.posts s = some (name, text)) (fd : ℕ)
    (name' : Name) :
    copiesTo fd name' (handleRequest s r) =
      if name = name' then List.replicate (seats s r.env fd name) (copyOf text) else [] := by
  rw [copiesTo]
  obtain ⟨header, channel, bytes, d, ts, hfs, rfl, hc, hsent⟩ := sent_of_posts h
  have hchannel : ∀ u : ConnectedUser,
      channelOf (dispatchOf header true (u.fd, copyOf (cstr bytes))) = some name.str := by
    intro u
    rw [channelOf, dispatchOf, fields_copyOf, hfs]
    rfl
  have hcopies : (fanOut s r.fd name.str channel (cstr bytes)).tail.map (dispatchOf header true) =
      (s.activeUsers.live.filter fun u => channel.userList.slots.contains u.dsplyName).map
        fun u => dispatchOf header true (u.fd, copyOf (cstr bytes)) := by
    rw [fanOut, List.tail_cons, List.map_map]
    rfl
  rw [hsent, hcopies, List.filter_cons_of_neg (by simp [dispatchOf]), List.filter_map,
    List.filter_filter, List.map_map]
  have hpred : ∀ u : ConnectedUser, (((fun x : Sent =>
      x.forwarded && x.fd = fd && channelOf x = some name'.str) ∘
        fun u : ConnectedUser => dispatchOf header true (u.fd, copyOf (cstr bytes))) u &&
        channel.userList.slots.contains u.dsplyName) =
      (decide (name = name') && (u.fd = fd && channel.userList.slots.contains u.dsplyName)) := by
    intro u
    have hname : decide (some name.str = some name'.str) = decide (name = name') :=
      decide_eq_decide.mpr ⟨fun he => CharArray.ext (Option.some.inj he), fun he => by rw [he]⟩
    rw [Function.comp_apply, hchannel, hname]
    change (true && decide (u.fd = fd) && decide (name = name') && _) = _
    rw [Bool.true_and, Bool.and_assoc, Bool.and_left_comm]
  rw [List.filter_congr fun u _ => hpred u]
  by_cases hn : name = name'
  · rw [if_pos hn, seats, hc]
    simp only [hn, decide_true, Bool.true_and]
    rw [List.eq_replicate_iff]
    refine ⟨by rw [List.length_map, List.countP_eq_length_filter], ?_⟩
    intro b hb
    obtain ⟨u, _, rfl⟩ := List.mem_map.mp hb
    rfl
  · simp [hn]

/-- What a call writes to a descriptor is what it posts, once for every seat. -/
theorem copiesTo_eq (fd : ℕ) (name : Name) (s : State) (r : Request) :
    copiesTo fd name (handleRequest s r) =
      (textsIn name (r.posts s)).flatMap (List.replicate (seats s r.env fd name)) := by
  cases h : r.posts s with
  | none =>
    have hnone : ((handleRequest s r).sent.filter fun x =>
        x.forwarded && x.fd = fd && channelOf x = some name.str) = [] := by
      refine List.filter_eq_nil_iff.mpr fun x hx => ?_
      rw [Bool.and_eq_true, Bool.and_eq_true]
      exact fun hp => posts_of_forwarded hx hp.1.1 h
    rw [copiesTo, hnone]
    rfl
  | some x =>
    obtain ⟨name', text⟩ := x
    rw [copiesTo_of_posts h, textsIn]
    by_cases hn : name' = name
    · rw [if_pos hn, Option.filter_some, if_pos (decide_eq_true hn), hn]
      exact (List.append_nil _).symm
    · rw [if_neg hn, Option.filter_some, if_neg (by simpa using hn)]
      rfl

/-- On a machine that reaches its peers. -/
theorem inbox_eq (fd : ℕ) (name : Name) {v : Server} (hs : cStrings.Holds v.state) {m : Machine}
    {r : Request} (h : v.running = true → r.Ends ∧ m.Reaches v.state r) :
    inbox fd name v (m, r) =
      (posted name v (m, r)).flatMap (List.replicate (seats v.state r.env fd name)) := by
  rw [inbox, posted]
  cases hv : v.running with
  | false => rfl
  | true =>
    obtain ⟨hends, hreach⟩ := h hv
    simp only [if_true, Machine.posts, Machine.call]
    by_cases hroom : m.Roomy ∨ Machine.fetchedBy v.state r = none
    · rw [m.handleRequest_eq hs hends hroom, hreach.deliver_eq, Machine.result_eq hs hends hroom]
      exact copiesTo_eq fd name v.state r
    · -- the call has stopped before anything is posted or written
      obtain ⟨htight, hf⟩ := not_or.mp hroom
      have hnone : r.postedWith (m.result v.state r) = none := by
        rw [Machine.result_tight hs hends htight hf]
        simp [Request.postedWith, bind]
      rw [hnone, m.handleRequest_tight hs hends htight hf, m.deliver_eq (by simp)]
      rfl

/-- Whenever something is posted in the channel, one live session is on the descriptor and belongs
to a member. -/
def Seated (fd : ℕ) (name : Name) (s : State) (x : Machine × Request) : Prop :=
  ∀ y ∈ x.1.posts s x.2, y.1 = name → seats s x.2.env fd name = 1

instance (fd : ℕ) (name : Name) (s : State) (x : Machine × Request) :
    Decidable (Seated fd name s x) :=
  inferInstanceAs (Decidable (∀ y ∈ x.1.posts s x.2, _))

/-- With one seat a descriptor is brought what is posted. -/
theorem inbox_of_seated {fd : ℕ} {name : Name} {v : Server} {x : Machine × Request}
    (heq : inbox fd name v x =
      (posted name v x).flatMap (List.replicate (seats v.state x.2.env fd name)))
    (hs : v.running = true → Seated fd name v.state x) : inbox fd name v x = posted name v x := by
  rw [heq]
  by_cases hempty : posted name v x = []
  · rw [hempty]
    rfl
  · -- something is posted, so there is one seat
    have hone : seats v.state x.2.env fd name = 1 := by
      rw [posted] at hempty
      split at hempty
      · rename_i hrun
        cases hp : x.1.posts v.state x.2 with
        | none => simp [hp, textsIn] at hempty
        | some y =>
          refine hs hrun y hp ?_
          by_contra hy
          simp [hp, hy, textsIn] at hempty
      · exact absurd rfl hempty
    rw [hone]
    exact List.flatMap_singleton' _

end ChatServer
