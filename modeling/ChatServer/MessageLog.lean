import ChatServer.Answer
import ChatServer.Lifetime

/-!
# The message log

A message is stored by the request that is answered with status 201 and by nothing else, and no
request of any kind rewrites or removes a stored one. Seen from the clients, the message database
is the list of the requests that were answered so.
-/

namespace ChatServer

open CLib

def Decoded.kind : Decoded → Option RequestKind
  | .serve k _ _ => some k
  | .stop _ _ => none

/-- The call wrote a direct response with status 201. -/
def Call.answers201 (c : Call) (fd : ℕ) : Bool :=
  c.sent.any fun x => x.answers fd && (ascii "201").isPrefixOf x.body

/-- The request is one to create a message, and it is answered with status 201. -/
def createsMessage (s : State) (r : Request) : Bool :=
  r.decode.kind = some .createMessage && (handleRequest s r).answers201 r.fd

section Response

theorem not_prefix_of_lookup {es : List (Int × Str)} {code text : Str} {n : Int} (token : Str)
    (hes : ∀ e ∈ es, code.length ≤ e.2.length ∧ e.2.take code.length ≠ code)
    (h : es.lookup n = some text) : ¬ code <+: text ++ token := by
  obtain ⟨l₁, l₂, hl, _⟩ := List.lookup_eq_some_iff.mp h
  obtain ⟨hlen, hne⟩ := hes (n, text) (by rw [hl]; simp)
  intro hp
  have htake := List.prefix_iff_eq_take.mp hp
  rw [List.take_append_of_le_length hlen] at htake
  exact hne htake.symm

/-- The status of the response to a request to create a message is 201 exactly for the result 0. -/
theorem sendCreateMessageResponse_201 {n : Int} {token body : Str}
    (h : sendCreateMessageResponse n token = .ok (some body)) :
    (ascii "201").isPrefixOf body = true ↔ n = 0 := by
  rw [List.isPrefixOf_iff_prefix]
  rw [sendCreateMessageResponse, assertingBody] at h
  split at h
  · rename_i hn
    cases h
    exact iff_of_true ⟨etx :: token, rfl⟩ hn
  · rename_i hn
    split at h
    · rename_i text htext
      cases h
      exact iff_of_false (not_prefix_of_lookup token (by decide) htext) hn
    · cases h

theorem answers201_respond (s : State) (r : Request) (header : ChatHeader) (rest : List UInt8)
    (reply : Reply) :
    (respond .createMessage s r header rest reply).answers201 r.fd = true ↔ reply.result = 0 := by
  by_cases hack : reply.result = createMessageAck
  · rw [respond, if_pos ⟨rfl, hack⟩, hack]
    exact iff_of_false (by simp [Call.answers201]) (by decide)
  · rw [respond, if_neg (fun h => hack h.2)]
    cases hb : sendResponse .createMessage reply.result reply.token with
    | error f =>
      refine iff_of_false (by simp [Call.answers201]) ?_
      intro h0
      rw [h0] at hb
      cases hb
    | ok body =>
      cases body with
      | none =>
        obtain ⟨body, hbody⟩ | hno := em (∃ body, sendResponse .createMessage reply.result
          reply.token = .ok (some body))
        · rw [hb] at hbody; cases hbody
        · rw [sendResponse_some_iff] at hno
          refine iff_of_false ?_ (fun h0 => hno (by rw [h0]; decide))
          obtain h | ⟨x, h, hx⟩ := afterResponse_spec .createMessage s r header reply
          · simp [h, Call.answers201]
          · obtain ⟨sent, closed⟩ := x
            simp only [h, Call.answers201, Option.toList_none, List.map_nil, List.nil_append,
              List.any_eq_true, not_exists, not_and, Bool.and_eq_true]
            intro y hy ha
            rw [Sent.answers, hx y hy] at ha
            simp at ha
      | some body =>
        rw [← sendCreateMessageResponse_201 hb]
        obtain h | ⟨x, h, hx⟩ := afterResponse_spec .createMessage s r header reply
        · simp [h, Call.answers201, Sent.answers]
        · obtain ⟨sent, closed⟩ := x
          have hsent : sent.any (fun x => x.answers r.fd && (ascii "201").isPrefixOf x.body) =
              false := by
            rw [List.any_eq_false]
            intro y hy
            simp [Sent.answers, hx y hy]
          simp only [h, Call.answers201, List.any_append, hsent, Bool.or_false]
          simp [Sent.answers]

end Response

section Handler

variable {s : State} {r : Request}

/-- A request that gets past every check stores its message and returns 0. -/
theorem runHandler_createMessage {m : MessageInfo} (h : createMessageTarget s r = some m) :
    ∃ header rest name, r.decode = .serve .createMessage header rest ∧
      (rest.take header.bodySize).length ≤ defaultBuffer ∧
      (∃ d ts, fields (rest.take header.bodySize) = d :: name.str :: ts) ∧
      (s.getChannelInfo r.env name).isSome = true ∧
      runHandler .createMessage s r header.bodySize (rest.take header.bodySize) =
        ⟨s.insertMessage m, .ok ⟨0, name.str, cstr (rest.take header.bodySize)⟩⟩ := by
  simp only [createMessageTarget, bind, Option.bind_eq_some_iff, Prod.exists,
    Option.ite_none_right_eq_some, Option.some.injEq] at h
  obtain ⟨fs, hfs, d, ts, hdn, name, content, stamp, hmf, channel, hc, user, hu, account, ha, login,
    hl, ⟨hack, hp⟩, rfl⟩ := h
  obtain ⟨header, rest, hd, hlen, hinc, rfl⟩ := fieldsFor_some hfs
  have hm : messageFields ts = .ok (name, content, stamp) := by
    cases hm : messageFields ts with
    | error f => rw [hm] at hmf; cases hmf
    | ok x => rw [hm] at hmf; rw [Option.some.inj hmf]
  have hempty := messageFields_ne_empty (nextField_of_field? hdn) hm
  have hp' : ¬(account.privilegeLevel ≠ 0 ∧ account.privilegeLevel ≠ 1) := by omega
  obtain ⟨us, _, _, hn, _⟩ := messageFields_eq_ok.mp hm
  refine ⟨header, rest, name, hd, hlen, ⟨d.str, us, ?_⟩, by rw [hc]; rfl, ?_⟩
  · rw [field?_some hdn, nextField_eq_ok.mp hn]
  simp only [runHandler, readAndCreateMessage, hinc, nextField_of_field? hdn, hack, hm, hempty,
    storeNewMessage, hc, hu, ha, hp', hl, Bool.false_eq_true, if_false]

/-- Only a request that gets past every check returns 0. -/
theorem createMessage_zero {n : ℕ} {bytes : List UInt8} {reply : Reply}
    (hf : bodyIncomplete n bytes = false → r.fieldsFor .createMessage = some (fields bytes))
    (h : (readAndCreateMessage s r.env n bytes).value = .ok reply) (h0 : reply.result = 0) :
    ∃ m, createMessageTarget s r = some m := by
  obtain ⟨_, hne⟩ | ⟨m, hm, _⟩ := createMessage_cases (s := s) hf
  · exact absurd h0 (hne reply h)
  · exact ⟨m, hm⟩

theorem answers201_serve {header : ChatHeader} {rest : List UInt8}
    (hlen : (rest.take header.bodySize).length ≤ defaultBuffer) :
    (serve .createMessage s r header rest).answers201 r.fd = true ↔
      ∃ reply, (readAndCreateMessage s r.env header.bodySize (rest.take header.bodySize)).value =
        .ok reply ∧ reply.result = 0 := by
  rw [serve, if_neg (Nat.not_lt.mpr hlen)]
  dsimp only [runHandler]
  cases hv : (readAndCreateMessage s r.env header.bodySize (rest.take header.bodySize)).value with
  | error f => simp [Call.answers201]
  | ok reply => simp [answers201_respond]

/-- A request is answered with 201 exactly if it stores a message. -/
theorem createsMessage_iff :
    createsMessage s r = true ↔ ∃ m, createMessageTarget s r = some m := by
  constructor
  · intro h
    obtain ⟨hk, h201⟩ := Bool.and_eq_true_iff.mp h
    cases hd : r.decode with
    | stop ret rest => rw [hd] at hk; cases hk
    | serve k header rest =>
      rw [hd] at hk
      obtain rfl : k = .createMessage := Option.some.inj (of_decide_eq_true hk)
      rw [handleRequest, hd] at h201
      by_cases hlen : (rest.take header.bodySize).length ≤ defaultBuffer
      · obtain ⟨reply, hv, h0⟩ := (answers201_serve hlen).mp h201
        exact createMessage_zero (fieldsFor_eq hd hlen) hv h0
      · dsimp only at h201
        rw [serve, if_pos (Nat.lt_of_not_le hlen)] at h201
        cases h201
  · rintro ⟨m, hm⟩
    obtain ⟨header, rest, name, hd, hlen, _, _, hrun⟩ := runHandler_createMessage hm
    have h201 := (answers201_serve (s := s) (r := r) hlen).mpr
      ⟨_, by rw [show readAndCreateMessage s r.env _ _ = _ from hrun], rfl⟩
    rw [createsMessage, handleRequest, hd]
    exact h201

end Handler

/-- A request to create a message that was answered with status 201, and the state it met. -/
structure Post where
  state : State
  request : Request

/-- The post of an event, if it is one. -/
def Life.post (v : Server) : LifeEvent → List Post
  | .start _ _ => []
  | .request r => if v.running && createsMessage v.state r then [⟨v.state, r⟩] else []

/-- The posts of a life, in order. -/
def Life.posts (v : Server) : List LifeEvent → List Post
  | [] => []
  | e :: es => Life.post v e ++ Life.posts (Life.step v e) es

/-- The record that a post is to leave: its id is the generated uuid, its channel the one that the
name in the request led to, its user the one in the login record of the session that the request
named. -/
def Post.Leaves (p : Post) (m : MessageInfo) : Prop :=
  ∃ (d name : Name) (content : CharArray maxMessageSize) (stamp : Str) (rest : List Str)
    (channel : ChannelInfo) (user : ConnectedUser) (login : UserLogin),
    p.request.fieldsFor .createMessage =
      some (d.str :: name.str :: content.str :: stamp :: rest) ∧
    p.state.getChannelInfo p.request.env name = some channel ∧
    p.state.activeUsers.getConnectedUserByDisplayName d = some user ∧
    p.state.getLoginInfo user.loginToken = some login ∧
    m.messageId = p.request.env.uuid ∧ m.channelId = channel.channelId ∧ m.userId = login.uuid

/-- The message database holds exactly one record for every post. -/
def LogHolds (ps : List Post) (d : Dbm Uuid MessageInfo) : Prop :=
  ∃ ms : List MessageInfo, List.Forall₂ Post.Leaves ps ms ∧ (ms.map (·.messageId)).Nodup ∧
    ∀ k m, d.lookup k = some m ↔ m ∈ ms ∧ m.messageId = k

theorem leaves_of_target {s : State} {r : Request} {m : MessageInfo}
    (h : createMessageTarget s r = some m) : Post.Leaves ⟨s, r⟩ m := by
  simp only [createMessageTarget, bind, Option.bind_eq_some_iff, Prod.exists,
    Option.ite_none_right_eq_some, Option.some.injEq] at h
  obtain ⟨fs, hfs, d, ts, hdn, name, content, stamp, hmf, channel, hc, user, hu, account, ha, login,
    hl, _, rfl⟩ := h
  cases hm : messageFields ts with
  | error f => rw [hm] at hmf; cases hmf
  | ok x =>
    rw [hm] at hmf
    rw [Option.some.inj hmf] at hm
    obtain ⟨us, t, rest, hn, hcont, _⟩ := messageFields_eq_ok.mp hm
    rw [field?_some hdn, nextField_eq_ok.mp hn, nextField_eq_ok.mp hcont] at hfs
    exact ⟨d, name, content, t, rest, channel, user, login, hfs, hc, hu, hl, rfl, rfl, rfl⟩

/-- The message of a post goes behind those that are there. -/
theorem LogHolds.append {ps : List Post} {d : Dbm Uuid MessageInfo} (h : LogHolds ps d) {p : Post}
    {m : MessageInfo} (hp : p.Leaves m) (hnew : d.lookup m.messageId = none) :
    LogHolds (ps ++ [p]) (d.insert m.messageId m) := by
  obtain ⟨ms, hms, hnodup, hiff⟩ := h
  have hnot : ∀ m' ∈ ms, m'.messageId ≠ m.messageId := by
    intro m' hm' he
    have hm'' := (hiff m.messageId m').mpr ⟨hm', he⟩
    rw [hnew] at hm''
    cases hm''
  refine ⟨ms ++ [m], List.rel_append hms (.cons hp .nil), ?_, fun k m' => ?_⟩
  · rw [List.map_append, List.nodup_append']
    refine ⟨hnodup, List.nodup_singleton _, ?_⟩
    intro k hk hk'
    obtain ⟨m', hm', rfl⟩ := List.mem_map.mp hk
    exact hnot m' hm' (List.mem_singleton.mp hk')
  · rw [Dbm.lookup_insert_iff, hiff, List.mem_append, List.mem_singleton]
    constructor
    · rintro (⟨rfl, rfl⟩ | ⟨_, hm', rfl⟩)
      · exact ⟨Or.inr rfl, rfl⟩
      · exact ⟨Or.inl hm', rfl⟩
    · rintro ⟨hm' | rfl, rfl⟩
      · exact Or.inr ⟨hnot m' hm', hm', rfl⟩
      · exact Or.inl ⟨rfl, rfl⟩

/-- A request that is not answered with 201 leaves the message database alone. -/
theorem messagesInfo_of_effect {s s' : State} {r : Request} {b : Bool} (he : Effect s r s' b)
    (hno : createMessageTarget s r = none) : s'.messagesInfo = s.messagesInfo := by
  cases he with
  | createMessage h => rw [hno] at h; cases h
  | updateChannel _ h₁ h₂ => rw [update_frame h₁ h₂]
  | _ => rfl

/-- The message is all that such a request stores. -/
theorem state_of_message {s : State} {r : Request} {m : MessageInfo}
    (h : createMessageTarget s r = some m) : (handleRequest s r).state = s.insertMessage m := by
  obtain ⟨header, rest, _, hd, hlen, _, _, hrun⟩ := runHandler_createMessage h
  rw [handleRequest_state hd hlen, hrun]

theorem messagesInfo_of_target {s : State} {r : Request} {m : MessageInfo}
    (h : createMessageTarget s r = some m) :
    (handleRequest s r).state.messagesInfo = s.messagesInfo.insert m.messageId m := by
  rw [state_of_message h]
  rfl

theorem messagesInfo_of_start (v : Server) (newProcess : Bool) (env : Env) :
    (Life.step v (.start newProcess env)).state.messagesInfo = v.state.messagesInfo := by
  refine Life.start_induction (I := fun s => s.messagesInfo = v.state.messagesInfo) v newProcess
    env ?_ ?_ ?_ rfl
  · exact fun h => h
  · exact fun s h _ => h
  · exact fun s h _ _ => h

theorem FreshEvent.no_message {s : State} {e : LifeEvent} (h : FreshEvent s e) :
    s.messagesInfo.lookup e.env.uuid = none := by
  rw [AList.lookup_eq_none]
  intro hm
  have hm : e.env.uuid ∈ s.messagesInfo.keys := hm
  exact h.2 (by simp [State.uuids, hm])

/-- What one event does to the message database: it adds the message of a post, or nothing. -/
theorem messagesInfo_step {v : Server} {e : LifeEvent}
    (hfresh : Life.happens v e = true → FreshEvent v.state e) :
    (Life.post v e = [] ∧ (Life.step v e).state.messagesInfo = v.state.messagesInfo) ∨
      ∃ p m, Life.post v e = [p] ∧ p.Leaves m ∧ v.state.messagesInfo.lookup m.messageId = none ∧
        (Life.step v e).state.messagesInfo = v.state.messagesInfo.insert m.messageId m := by
  cases e with
  | start newProcess env => exact Or.inl ⟨rfl, messagesInfo_of_start v newProcess env⟩
  | request r =>
    obtain ⟨hr, he⟩ | ⟨hr, hstate, he⟩ := Life.step_request v r
    · left
      rw [he, Life.post, hr]
      exact ⟨rfl, rfl⟩
    · cases ht : createMessageTarget v.state r with
      | none =>
        left
        refine ⟨?_, messagesInfo_of_effect he ht⟩
        have hno : createsMessage v.state r = false := by
          rw [Bool.eq_false_iff, Ne, createsMessage_iff, ht]
          rintro ⟨_, h⟩
          cases h
        rw [Life.post, hno, Bool.and_false]
        rfl
      | some m =>
        right
        have hyes : createsMessage v.state r = true := createsMessage_iff.mpr ⟨m, ht⟩
        obtain ⟨_, _, _, _, _, _, _, hid, _⟩ := createMessageTarget_some ht
        refine ⟨⟨v.state, r⟩, m, ?_, leaves_of_target ht, ?_, ?_⟩
        · rw [Life.post, hr, hyes]
          rfl
        · rw [hid]
          exact (hfresh hr).no_message
        · rw [hstate]
          exact messagesInfo_of_target ht

theorem logHolds_run {v : Server} {ps : List Post} (h : LogHolds ps v.state.messagesInfo)
    {es : List LifeEvent} (hes : Life.Along FreshEvent v es) :
    LogHolds (ps ++ Life.posts v es) (Run.run Life.step v es).state.messagesInfo := by
  -- the log so far is the invariant, with the posts of the rest still to come
  induction es generalizing v ps with
  | nil =>
    rw [Life.posts, List.append_nil]
    exact h
  | cons e es ih =>
    rw [Life.posts, ← List.append_assoc]
    refine ih ?_ hes.2
    obtain ⟨hp, hm⟩ | ⟨p, m, hp, hl, hnew, hm⟩ := messagesInfo_step hes.1
    · rw [hp, hm, List.append_nil]
      exact h
    · rw [hp, hm]
      exact h.append hl hnew

theorem logHolds_life {es : List LifeEvent} (h : Life.Along FreshEvent Life.initial es) :
    LogHolds (Life.posts Life.initial es) (Life.run es).state.messagesInfo := by
  have hempty : LogHolds [] Life.initial.state.messagesInfo := by
    refine ⟨[], .nil, List.nodup_nil, fun k m => ⟨fun hm => ?_, nofun⟩⟩
    cases hm
  exact logHolds_run hempty h

/-- A stored message stays as it is in every later state. -/
theorem message_kept {v : Server} {k : Uuid} {m : MessageInfo}
    (h : v.state.messagesInfo.lookup k = some m) {es : List LifeEvent}
    (hes : Life.Along FreshEvent v es) :
    (Run.run Life.step v es).state.messagesInfo.lookup k = some m := by
  refine Run.invariant (I := fun v => v.state.messagesInfo.lookup k = some m) ?_ h hes
  intro v e hv hc
  obtain ⟨_, hm⟩ | ⟨p, m', _, _, hnew, hm⟩ := messagesInfo_step hc
  · rw [hm]; exact hv
  · rw [hm, Dbm.lookup_insert_iff]
    refine Or.inr ⟨?_, hv⟩
    rintro rfl
    rw [hnew] at hv
    cases hv

/-- In every life with fresh uuids the message database holds exactly one record for every request
that was answered 201, with the ids that the request resolved to when it was served; and no later
event changes or removes a record. -/
theorem message_log (es : List LifeEvent) (h : Life.Along FreshEvent Life.initial es) :
    LogHolds (Life.posts Life.initial es) (Life.run es).state.messagesInfo ∧
    ∀ es' k m, Life.Along FreshEvent (Life.run es) es' →
      (Life.run es).state.messagesInfo.lookup k = some m →
      (Life.run (es ++ es')).state.messagesInfo.lookup k = some m := by
  refine ⟨logHolds_life h, fun es' k m hes' hm => ?_⟩
  rw [Life.run, Run.run_append]
  exact message_kept hm hes'

/-- The administrator logs in and posts twice, and the channel is renamed in between. -/
def postLife : List LifeEvent :=
  [.start true Client.firstEnv,
    .request (Client.login 6 "10.0.0.2" "admin" "admin"),
    .request (Client.createMessage 6 "10.0.0.2" "admin" "global" "hello" "10:00"
      "22222222-2222-2222-2222-222222222222"),
    .request (Client.renameChannel 6 "10.0.0.2" "global" "tea"),
    .request (Client.createMessage 6 "10.0.0.2" "admin" "tea" "again" "10:01"
      "33333333-3333-3333-3333-333333333333")]

theorem message_log_postLife :
    (Life.posts Life.initial postLife).length = 2 ∧
      LogHolds (Life.posts Life.initial postLife) (Life.run postLife).state.messagesInfo :=
  ⟨by decide +kernel, (message_log postLife (by decide +kernel)).1⟩

end ChatServer
