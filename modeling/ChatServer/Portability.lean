import ChatServer.Invariant.ChannelNames
import ChatServer.Lib.Simulation
import ChatServer.Survival

/-!
# The same clients on another host

The order in which `dbm_nextkey` enumerates keys and the order of the bytes in a word belong to the
host. Two servers on different hosts that serve the same careful requests hold the same databases
and sessions after each of them, and send the same dispatches, byte for byte except for the lists
of channels in the answer to a login and of messages in the answer to a request for them.
-/

namespace ChatServer

open CLib

/-- What an `Env` takes from the host, the generated uuids and the memory apart. -/
structure Host where
  channelOrder : KeyOrder Uuid ChannelInfo
  messageOrder : KeyOrder Uuid MessageInfo
  byteOrder : Wire.ByteOrder

def Env.on (env : Env) (h : Host) : Env where
  uuid := env.uuid
  channelOrder := h.channelOrder
  messageOrder := h.messageOrder
  heap := env.heap
  byteOrder := h.byteOrder

def Request.on (r : Request) (h : Host) : Request := { r with env := r.env.on h }

/-- The request is answered with a list in the order of the keys. -/
def Request.lists (r : Request) : Bool :=
  match r.decode with
  | .serve .login _ _ | .serve .readMessage _ _ => true
  | _ => false

/-- A dispatch without its body. -/
def Sent.masked (x : Sent) : Sent :=
  { x with header := { x.header with bodySize := 0 }, body := [] }

def Call.masked (c : Call) : Call := { c with sent := c.sent.map Sent.masked }

/-- What a call does, the bodies of lists left out. -/
def observed (s : State) (r : Request) : Call :=
  if r.lists then (handleRequest s r).masked else handleRequest s r

section Decoding

variable (h : Host) (env : Env) (r : Request)

theorem readHeader_host (o o' : Wire.ByteOrder) :
    (bs : List UInt8) → readHeader o bs = readHeader o' bs
  | [] | [_] | [_, _] | [_, _, _] => rfl
  | b₀ :: b₁ :: b₂ :: b₃ :: rest => by rw [readHeader_cons, readHeader_cons]

/-- A header is decoded alike on all hosts. -/
theorem decode_on : (r.on h).decode = r.decode := by
  have hread : readHeader (r.on h).env.byteOrder (r.on h).input =
      readHeader r.env.byteOrder r.input := readHeader_host _ _ r.input
  rw [Request.decode, Request.decode, hread]

theorem lists_on : (r.on h).lists = r.lists := by
  rw [Request.lists, decode_on, Request.lists]

end Decoding

section Handlers

variable {s : State} (hd : NamesDistinct s) (h : Host) (env : Env) {n : ℕ} {bytes : List UInt8}
include hd

/-- With distinct names a lookup by name finds the same channel on all hosts. -/
theorem getChannelInfo_on (name : Name) :
    s.getChannelInfo (env.on h) name = s.getChannelInfo env name :=
  KeyOrder.find?_scan_congr _ _ hd name

theorem createChannel_on (addr : IpAddr) :
    readAndCreateChannel s (env.on h) addr n bytes = readAndCreateChannel s env addr n bytes := by
  have hstore : ∀ c d p, storeNewChannel s (env.on h) addr c d p =
      storeNewChannel s env addr c d p := by
    intro c d p
    simp only [storeNewChannel, State.checkDuplicateChannelName, getChannelInfo_on hd]
    rfl
  simp only [readAndCreateChannel, hstore]

theorem readChannel_on :
    readAndReadChannel s (env.on h) n bytes = readAndReadChannel s env n bytes := by
  simp only [readAndReadChannel, getChannelInfo_on hd]

theorem createMessage_on :
    readAndCreateMessage s (env.on h) n bytes = readAndCreateMessage s env n bytes := by
  have hstore : ∀ d c content stamp forward,
      storeNewMessage s (env.on h) d c content stamp forward =
        storeNewMessage s env d c content stamp forward := by
    intro d c content stamp forward
    simp only [storeNewMessage, getChannelInfo_on hd]
    rfl
  simp only [readAndCreateMessage, hstore]

theorem forwards_on (header : ChatHeader) (token forward : Str) :
    forwards s (env.on h) header token forward = forwards s env header token forward := by
  simp only [forwards, getChannelInfo_on hd]

theorem renameStep_on (u : UpdateRequest) : renameStep s (env.on h) u = renameStep s env u := by
  simp only [renameStep, State.updateChannelNameAndPublicity, getChannelInfo_on hd]

theorem addStep_on (u : UpdateRequest) : addStep s (env.on h) u = addStep s env u := by
  simp only [addStep, State.addUsersOnChannel, getChannelInfo_on hd]

/-- Every lookup of an update is made among distinct names. -/
theorem applyUpdate_on (hk : KeyedState s) {u : UpdateRequest}
    (hd₁ : ∀ s₁, renameStep s env u = some s₁ → NamesDistinct s₁) :
    applyUpdate s (env.on h) u = applyUpdate s env u := by
  rw [applyUpdate, applyUpdate, ← renameStep, ← renameStep, renameStep_on hd]
  cases h₁ : renameStep s env u with
  | none => rfl
  | some s₁ =>
    have hd₁ := hd₁ s₁ h₁
    dsimp only
    rw [← addStep, ← addStep, addStep_on hd₁]
    cases h₂ : addStep s₁ env u with
    | none => rfl
    | some s₂ =>
      have hd₂ := NamesDistinct.addStep (hk.renameStep h₁) hd₁ h₂
      simp only [getChannelInfo_on hd₂]

theorem updateChannel_on (hk : KeyedState s)
    (hd₁ : ∀ u, bodyIncomplete n bytes = false → parseUpdate (fields bytes) = .ok u →
      (s.getChannelInfo env u.channelName).isSome = true → namesRegistered s u = true →
        ∀ s₁, renameStep s env u = some s₁ → NamesDistinct s₁) :
    readAndUpdateChannel s (env.on h) n bytes = readAndUpdateChannel s env n bytes := by
  rw [readAndUpdateChannel, readAndUpdateChannel]
  cases hn : bodyIncomplete n bytes with
  | true => rfl
  | false =>
    cases hu : parseUpdate (fields bytes) with
    | error e => cases e <;> rfl
    | ok u =>
      dsimp only
      rw [getChannelInfo_on hd]
      cases hc : s.getChannelInfo env u.channelName with
      | none => rfl
      | some c =>
        cases hreg : namesRegistered s u with
        | false => rfl
        | true => rw [applyUpdate_on hd h env hk (hd₁ u hn hu (by rw [hc]; rfl) hreg)]

end Handlers

section Lists

variable (s : State) (h : Host) (env : Env) (fd : ℕ) (addr : IpAddr) {n : ℕ} {bytes : List UInt8}

/-- The order of the channels goes into the body of the answer and nowhere else. -/
theorem login_on : (readAndLoginUser s (env.on h) fd addr n bytes).state =
      (readAndLoginUser s env fd addr n bytes).state ∧
    (readAndLoginUser s (env.on h) fd addr n bytes).value.map Reply.result =
      (readAndLoginUser s env fd addr n bytes).value.map Reply.result := by
  have haccount : ∀ l a t, (loginAccount s (env.on h) fd addr l a t).state =
        (loginAccount s env fd addr l a t).state ∧
      (loginAccount s (env.on h) fd addr l a t).value.map Reply.result =
        (loginAccount s env fd addr l a t).value.map Reply.result := by
    intro l a t
    simp only [loginAccount, openSession]
    split_ifs
    · exact ⟨rfl, rfl⟩
    · exact ⟨rfl, rfl⟩
    · cases (s.insertUserAccount (loginUserAccount a addr)).activeUsers.insertUserInCache fd
        (loginUserAccount a addr) l <;> exact ⟨rfl, rfl⟩
  rw [readAndLoginUser, readAndLoginUser]
  split
  · exact ⟨rfl, rfl⟩
  · split
    · exact ⟨rfl, rfl⟩
    · split
      · exact ⟨rfl, rfl⟩
      · split
        · exact ⟨rfl, rfl⟩
        · split
          · exact ⟨rfl, rfl⟩
          · exact haccount _ _ _

/-- Two answers to a request for messages have one result. -/
theorem readMessage_result {env' : Env} {reply reply' : Reply}
    (hv : (readAndReadMessage s env bytes).value = .ok reply)
    (hv' : (readAndReadMessage s env' bytes).value = .ok reply') :
    reply.result = reply'.result := by
  rw [readAndReadMessage] at hv hv'
  cases hf : readMessageFields bytes with
  | error f =>
    rw [hf] at hv
    cases hv
  | ok x =>
    rw [hf] at hv hv'
    dsimp only at hv hv'
    split at hv
    · rename_i hnumber
      rw [if_pos hnumber] at hv'
      cases hv
      cases hv'
      rfl
    · rename_i hnumber
      rw [if_neg hnumber] at hv'
      split at hv
      · rename_i hempty
        rw [if_pos hempty] at hv'
        cases hv
        cases hv'
        rfl
      · rename_i hempty
        rw [if_neg hempty] at hv'
        split at hv
        · cases hv
        · split at hv'
          · cases hv'
          · cases hv
            cases hv'
            rfl

variable {r r' : Request} {header : ChatHeader} {rest : List UInt8} {k : RequestKind}

theorem assertingBody_isSome (success : Str) (errors : List (Int × Str)) (result : Int)
    (t t' : Str) : (assertingBody success errors result t).map Option.isSome =
      (assertingBody success errors result t').map Option.isSome := by
  rw [assertingBody, assertingBody]
  split
  · rfl
  · split <;> rfl

theorem codedBody_isSome (success : Str) (errors : List (Int × Str)) (result : Int)
    (t t' : Str) : (codedBody success errors result t).map Option.isSome =
      (codedBody success errors result t').map Option.isSome := by
  rw [codedBody, codedBody]
  split
  · rfl
  · split <;> rfl

/-- Without the body an answer with a list depends on its result alone. -/
theorem masked_respond (hk : k = .login ∨ k = .readMessage) (hfd : r'.fd = r.fd)
    {reply reply' : Reply} (hr : reply'.result = reply.result) :
    (respond k s r' header rest reply').masked = (respond k s r header rest reply).masked := by
  have hshape : (sendResponse k reply'.result reply'.token).map Option.isSome =
      (sendResponse k reply.result reply.token).map Option.isSome := by
    rw [hr]
    obtain rfl | rfl := hk
    · exact assertingBody_isSome _ _ _ _ _
    · exact codedBody_isSome _ _ _ _ _
  have hafter : ∀ x, afterResponse k s x header reply' = .ok ([], []) ∧
      afterResponse k s x header reply = .ok ([], []) := by
    obtain rfl | rfl := hk <;> exact fun _ => ⟨rfl, rfl⟩
  have hack : ∀ n, ¬ (k = .createMessage ∧ n = createMessageAck) := by
    obtain rfl | rfl := hk <;> exact fun n h => by cases h.1
  rw [respond, respond, if_neg (hack _), if_neg (hack _)]
  revert hshape
  cases sendResponse k reply'.result reply'.token with
  | error f =>
    cases sendResponse k reply.result reply.token with
    | error f' => exact fun h => by cases h; rfl
    | ok body => exact fun h => by cases h
  | ok body' =>
    cases sendResponse k reply.result reply.token with
    | error f' => exact fun h => by cases h
    | ok body =>
      intro h
      dsimp only
      rw [(hafter r').1, (hafter r).2, hfd]
      cases body' with
      | none =>
        cases body with
        | none => rfl
        | some b => cases h
      | some b' =>
        cases body with
        | none => cases h
        | some b => rfl

end Lists

section Calls

variable {s : State} (hs : Sound s) (hd : NamesDistinct s) {r : Request} (h : Host)
include hd

/-- Well-behaved here is well-behaved there. -/
theorem wellBehaved_on : (r.on h).WellBehaved s ↔ r.WellBehaved s := by
  have hpolite : ∀ k fs, polite s (r.on h) fs k = polite s r fs k := by
    intro k fs
    have hfind := getChannelInfo_on hd h r.env
    cases k with
    | createMessage | readMessage =>
      simp only [polite, show (r.on h).env = r.env.on h from rfl, hfind]
    | _ => rfl
  simp only [Request.WellBehaved, decode_on, hpolite]

omit hd in
/-- A handler that does the same on both hosts is followed by the same. -/
theorem serve_on {k : RequestKind} {header : ChatHeader} {rest : List UInt8}
    (hrun : (rest.take header.bodySize).length ≤ defaultBuffer →
      runHandler k s (r.on h) header.bodySize (rest.take header.bodySize) =
        runHandler k s r header.bodySize (rest.take header.bodySize))
    (hafter : (rest.take header.bodySize).length ≤ defaultBuffer → k = .createMessage →
      NamesDistinct (runHandler k s r header.bodySize (rest.take header.bodySize)).state) :
    serve k s (r.on h) header rest = serve k s r header rest := by
  rw [serve, serve]
  by_cases hlen : (rest.take header.bodySize).length > defaultBuffer
  · rw [if_pos hlen, if_pos hlen]
  · have hafter := hafter (Nat.not_lt.mp hlen)
    rw [if_neg hlen, if_neg hlen, hrun (Nat.not_lt.mp hlen)]
    revert hafter
    generalize runHandler k s r header.bodySize (rest.take header.bodySize) = out
    intro hafter
    dsimp only
    cases out.value with
    | error f => rfl
    | ok reply =>
      have hsame : afterResponse k out.state (r.on h) header reply =
          afterResponse k out.state r header reply := by
        cases k with
        | createMessage =>
          have hf := forwards_on (hafter rfl) h r.env header reply.token reply.forward
          simp only [afterResponse, show (r.on h).env = r.env.on h from rfl, hf]
        | _ => rfl
      dsimp only
      rw [respond, respond, hsame]
      rfl

/-- The seven kinds of requests that are answered without a list. -/
theorem handleRequest_on (hk : KeyedState s) (hw : WritesFreeName s r) (hl : r.lists = false) :
    handleRequest s (r.on h) = handleRequest s r := by
  rw [handleRequest, handleRequest, decode_on]
  cases hdec : r.decode with
  | stop ret rest => rfl
  | serve k header rest =>
    dsimp only
    cases k with
    | createUser | destroyUser | logout => exact serve_on h (fun _ => rfl) fun _ he => by cases he
    | createChannel =>
      exact serve_on h (fun _ => createChannel_on hd h r.env _) fun _ he => by cases he
    | readChannel =>
      exact serve_on h (fun _ => readChannel_on hd h r.env) fun _ he => by cases he
    | createMessage =>
      refine serve_on h (fun _ => createMessage_on hd h r.env) fun hlen _ => ?_
      obtain ⟨hstate, _⟩ | ⟨m, _, hstate⟩ :=
        createMessage_cases (s := s) (fieldsFor_eq hdec hlen) <;>
      · rw [runHandler, hstate]
        exact hd
    | updateChannel =>
      refine serve_on h (fun hlen => ?_) fun _ he => by cases he
      refine updateChannel_on hd h r.env hk fun u hn hu hc hreg s₁ h₁ => ?_
      have htarget : updateTarget s r = some u := by
        simp only [updateTarget, fieldsFor_eq hdec hlen hn, bind, Option.bind, hu,
          Except.toOption]
        exact if_pos ⟨hc, hreg⟩
      exact NamesDistinct.renameStep hk hd htarget hw h₁
    | login | readMessage =>
      rw [Request.lists, hdec] at hl
      cases hl

omit hd in
/-- A handler that returns the same result on both hosts, and leaves the same state. -/
theorem masked_serve {k : RequestKind} (hk : k = .login ∨ k = .readMessage) {header : ChatHeader}
    {rest : List UInt8}
    (hstate : (runHandler k s (r.on h) header.bodySize (rest.take header.bodySize)).state =
      (runHandler k s r header.bodySize (rest.take header.bodySize)).state)
    (hvalue : (runHandler k s (r.on h) header.bodySize (rest.take header.bodySize)).value.map
        Reply.result =
      (runHandler k s r header.bodySize (rest.take header.bodySize)).value.map Reply.result) :
    (serve k s (r.on h) header rest).masked = (serve k s r header rest).masked := by
  rw [serve, serve]
  by_cases hlen : (rest.take header.bodySize).length > defaultBuffer
  · rw [if_pos hlen, if_pos hlen]
  · rw [if_neg hlen, if_neg hlen]
    dsimp only
    rw [hstate]
    revert hvalue
    cases (runHandler k s (r.on h) header.bodySize (rest.take header.bodySize)).value with
    | error f =>
      cases (runHandler k s r header.bodySize (rest.take header.bodySize)).value with
      | error f' => exact fun hvalue => by cases hvalue; rfl
      | ok reply => exact fun hvalue => by cases hvalue
    | ok reply' =>
      cases (runHandler k s r header.bodySize (rest.take header.bodySize)).value with
      | error f => exact fun hvalue => by cases hvalue
      | ok reply =>
        intro hvalue
        dsimp only
        exact masked_respond _ hk (show (r.on h).fd = r.fd from rfl) (Except.ok.inj hvalue)

/-- A well-behaved request is observed to do the same on both hosts. -/
theorem observed_on (hs : Sound s) (hw : WritesFreeName s r) (hb : r.WellBehaved s) :
    observed s (r.on h) = observed s r := by
  rw [observed, observed, lists_on]
  cases hl : r.lists with
  | false =>
    rw [if_neg Bool.false_ne_true, if_neg Bool.false_ne_true,
      handleRequest_on hd h hs.keyed hw hl]
  | true =>
    rw [if_pos rfl, if_pos rfl, handleRequest, handleRequest, decode_on]
    cases hdec : r.decode with
    | stop ret rest => rfl
    | serve k header rest =>
      dsimp only
      cases k with
      | login =>
        obtain ⟨hstate, hvalue⟩ := @login_on s h r.env r.fd r.clntAddr header.bodySize
          (rest.take header.bodySize)
        exact masked_serve h (Or.inl rfl) hstate hvalue
      | readMessage =>
        refine masked_serve h (Or.inr rfl) ?_ ?_
        · rw [runHandler, runHandler, readMessage_state, readMessage_state]
        · -- neither host stops on a missing record, so both return a result, and there is one
          have hb' := (wellBehaved_on hd h).mpr hb
          have hyields : ∀ r' : Request, r'.decode = r.decode → r'.WellBehaved s →
              ∃ reply, (readAndReadMessage s r'.env (rest.take header.bodySize)).value =
                .ok reply := by
            intro r' hsame hb
            rw [Request.WellBehaved, hsame, hdec] at hb
            obtain ⟨_, _, hack, hp⟩ := hb
            obtain ⟨reply, hv, _⟩ :=
              (runHandler_yields s r' .readMessage _ hack).mpr (answerable_of_polite hs _ hp)
            exact ⟨reply, hv⟩
          obtain ⟨reply, hv⟩ := hyields r rfl hb
          obtain ⟨reply', hv'⟩ := hyields (r.on h) (decode_on h r) hb'
          rw [runHandler, runHandler, hv, hv']
          exact congrArg Except.ok (readMessage_result s _ hv' hv)
      | _ =>
        rw [Request.lists, hdec] at hl
        cases hl

end Calls

/-- The server is started alike on all hosts. -/
theorem started_on (env : Env) (h : Host) : Server.started (env.on h) = Server.started env := by
  rw [Server.started, Server.started, startUp_fresh, startUp_fresh]
  rfl

theorem observed_step (s : State) (r : Request) :
    (observed s r).state = (handleRequest s r).state ∧
      (observed s r).returned = (handleRequest s r).returned := by
  rw [observed]
  split <;> exact ⟨rfl, rfl⟩

/-- What a call leaves is part of what is observed. -/
theorem step_of_observed {v : Server} (hrun : v.running = true) {r r' : Request}
    (h : observed v.state r' = observed v.state r) : v.step r' = v.step r := by
  obtain ⟨hstate, hret⟩ := observed_step v.state r
  obtain ⟨hstate', hret'⟩ := observed_step v.state r'
  rw [Server.step_running r hrun, Server.step_running r' hrun, ← hstate, ← hret, ← hstate', ← hret',
    h]

section Machines

variable {s : State} {r : Request} (h : Host)

theorem fieldsFor_on (k : RequestKind) : (r.on h).fieldsFor k = r.fieldsFor k := by
  rw [Request.fieldsFor, Request.bodyFor, decode_on, Request.fieldsFor, Request.bodyFor]

theorem ends_on (hr : r.Ends) : (r.on h).Ends where
  fields := by
    rw [Request.OverLong, decode_on]
    exact hr.fields
  number := by
    rw [Request.numberField, decode_on]
    exact hr.number
  uuid := hr.uuid
  addr := hr.addr
  heap := hr.heap

theorem shortContent_on (hr : r.ShortContent) : (r.on h).ShortContent := by
  rw [Request.ShortContent, fieldsFor_on]
  exact hr

/-- Another host, the machine it is at that time, and what a fresh block of its memory holds. -/
structure Site where
  host : Host
  machine : Machine
  fresh : List UInt8

/-- The request at another site. -/
def Site.serving (y : Site) (r : Request) : Machine × Request :=
  (y.machine, (r.on y.host).withHeap y.fresh)

/-- What a call on a machine does, the bodies of lists left out. -/
def Machine.observed (m : Machine) (s : State) (r : Request) : Call :=
  if r.lists then (m.call s r).masked else m.call s r

/-- What a server lets its clients see of a request, with the state that it leaves. -/
def served (v : Server) (x : Machine × Request) : List Call :=
  if v.running then [x.1.observed v.state x.2] else []

/-- At every site that can serve a request of strings that end in their arrays, the handlers that
read arrays are called with it. -/
theorem Site.call_eq {y : Site} (hs : cStrings.Holds s) (hr : r.Ends) (hc : r.ShortContent)
    (hy : y.machine.Serves s r) :
    (y.serving r).1.call s (y.serving r).2 = handleRequest s (r.on y.host) := by
  have hon : y.machine.Serves s (r.on y.host) :=
    ⟨hy.roomy, hy.reaches.client, hy.reaches.others⟩
  rw [← hon.call_eq hs (ends_on y.host hr)]
  change y.machine.deliver _ = y.machine.deliver _
  exact congrArg y.machine.deliver
    (y.machine.handleRequest_withHeap s (ends_on y.host hr) (shortContent_on y.host hc) y.fresh)

end Machines

/-- A request that two sites can serve, careful and with strings that end in their arrays; it
neither gives a channel the name of another one nor stores a message that is cut. -/
structure Portable (s : State) (m m' : Machine) (r : Request) : Prop where
  ends : r.Ends
  short : r.ShortContent
  serves : m.Serves s r
  serves' : m'.Serves s r
  careful : Careful s r
  free : WritesFreeName s r

instance (s : State) (m m' : Machine) (r : Request) : Decidable (Portable s m m' r) :=
  decidable_of_iff (r.Ends ∧ r.ShortContent ∧ m.Serves s r ∧ m'.Serves s r ∧ Careful s r ∧
      WritesFreeName s r)
    ⟨fun h => ⟨h.1, h.2.1, h.2.2.1, h.2.2.2.1, h.2.2.2.2.1, h.2.2.2.2.2⟩,
      fun h => ⟨h.ends, h.short, h.serves, h.serves', h.careful, h.free⟩⟩

/-- A host that lists the keys backwards and stores the most significant byte first. -/
def backwardHost : Host where
  channelOrder := ⟨fun d => d.keys.reverse, fun d => List.reverse_perm d.keys⟩
  messageOrder := ⟨fun d => d.keys.reverse, fun d => List.reverse_perm d.keys⟩
  byteOrder := .big

/-- Its memory holds ones. -/
def backwardSite : Site where
  host := backwardHost
  machine := { Client.machine with stack := fun _ => [1], heap := [1] }
  fresh := [1]

end ChatServer
