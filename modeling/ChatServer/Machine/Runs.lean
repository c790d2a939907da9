import ChatServer.Invariant.Keyed
import ChatServer.Machine.Requests

/-!
# Runs on machines

A run serves requests one after the other, each on the machine as it is at that time: what stands
behind the arrays, what the allocator has room for and which peers are gone may all change. A call
on a machine either is the call of `ChatServer.handleRequest` or does not return, and then it leaves
the state as that call does or as it was. So what the calls of the server preserve, runs on machines
preserve, as long as the requests bring strings that end in their arrays.
-/

namespace ChatServer

open CLib

namespace Machine

section Delivery

variable (m : Machine) {c : Call}

@[simp] theorem deliver_state (c : Call) : (m.deliver c).state = c.state := by
  rw [deliver]
  split <;> rfl

theorem deliver_eq (h : ∀ d ∈ c.sent, m.reset d.fd = false) : m.deliver c = c := by
  rw [deliver, if_neg]
  simpa using h

theorem deliver_broken {d : Sent} (hd : d ∈ c.sent) (h : m.reset d.fd = true) :
    m.deliver c = { c with
      sent := c.sent.takeWhile fun d => !m.reset d.fd
      closed := []
      ret := .error .brokenPipe } := by
  rw [deliver, if_pos]
  exact List.any_eq_true.mpr ⟨d, hd, h⟩

/-- Everything is delivered, or the process ends while it writes. -/
theorem deliver_cases (c : Call) : m.deliver c = c ∨ (m.deliver c).ret = .error .brokenPipe := by
  rw [deliver]
  split
  · exact Or.inr rfl
  · exact Or.inl rfl

end Delivery

section Calls

variable (m : Machine) {s : State} {r : Request} (hs : cStrings.Holds s) (hr : r.Ends)
include hs hr

/-- A call does what the handlers that read arrays do, or it does not return. -/
theorem call_cases : m.call s r = ChatServer.handleRequest s r ∨
    (m.call s r).returned = false ∧
      ((m.call s r).state = s ∨ (m.call s r).state = (ChatServer.handleRequest s r).state) := by
  by_cases hroom : m.Roomy ∨ fetchedBy s r = none
  · rw [call, m.handleRequest_eq hs hr hroom]
    obtain h | h := m.deliver_cases (ChatServer.handleRequest s r)
    · exact Or.inl h
    · refine Or.inr ⟨?_, Or.inr (m.deliver_state _)⟩
      rw [Call.returned, h]
      rfl
  · obtain ⟨hroom, hf⟩ := not_or.mp hroom
    rw [call, m.handleRequest_tight hs hr hroom hf, m.deliver_eq (by simp)]
    exact Or.inr ⟨rfl, Or.inl rfl⟩

theorem call_of_returned (h : (m.call s r).returned = true) :
    m.call s r = ChatServer.handleRequest s r := by
  obtain hcall | ⟨hno, _⟩ := m.call_cases hs hr
  · exact hcall
  · rw [hno] at h
    cases h

end Calls

section Fetched

variable {s : State} {r : Request}

/-- The account a request makes its handler fetch first, read off its fields. -/
theorem fetchedBy_eq {k : RequestKind} {fs : List Str} (hf : r.fieldsFor k = some fs) :
    fetchedBy s r = fetchedAccount s r fs k := by
  obtain ⟨header, rest, hd, _, hn, rfl⟩ := fieldsFor_some hf
  rw [fetchedBy, hd]
  exact if_neg fun h => by rw [hn] at h; exact Bool.false_ne_true h.2

theorem fetchedBy_of_login {l : UserLogin} {a : UserAccount} (h : loginTarget s r = some (l, a)) :
    fetchedBy s r = some a := by
  simp only [loginTarget, bind, Option.bind_eq_some_iff, Prod.exists,
    Option.ite_none_right_eq_some, Option.some.injEq, Prod.mk.injEq] at h
  obtain ⟨fs, hf, t, ts, ht, p, us, hp, l', hl, a', ha, hcred, rfl, rfl⟩ := h
  rw [fetchedBy_eq hf]
  simp only [fetchedAccount, bind, Option.bind, ht, hp, hl]
  rw [if_neg (by simp [hcred]), ha]

/-- A request that fetches an account and is answered has had the room for it. -/
theorem roomy_of_returned {m : Machine} (hs : cStrings.Holds s) (hr : r.Ends)
    (hf : fetchedBy s r ≠ none) (hret : (m.call s r).returned = true) : m.Roomy := by
  refine Classical.byContradiction fun htight => ?_
  rw [call, m.handleRequest_tight hs hr htight hf, m.deliver_eq (by simp)] at hret
  cases hret

end Fetched

abbrev run (v : Server) (xs : List (Machine × Request)) : Server := Run.run Machine.step v xs

/-- Every request that is served meets `C` on its machine and in the state it is served in. -/
abbrev Along (C : State → Machine × Request → Prop) (v : Server) (xs : List (Machine × Request)) :
    Prop :=
  Run.Along Machine.step (fun v x => v.running = true → C v.state x) v xs

theorem step_running {v : Server} (x : Machine × Request) (h : v.running = true) :
    Machine.step v x = ⟨(x.1.call v.state x.2).state, (x.1.call v.state x.2).returned⟩ := if_pos h

theorem step_stopped {v : Server} (x : Machine × Request) (h : v.running = false) :
    Machine.step v x = v := by
  rw [Machine.step, h]
  rfl

theorem run_stopped {v : Server} (h : v.running = false) (xs : List (Machine × Request)) :
    run v xs = v := by
  induction xs with
  | nil => rfl
  | cons x xs ih =>
    show run (Machine.step v x) xs = v
    rw [step_stopped x h]
    exact ih

theorem running_of_run {v : Server} {xs : List (Machine × Request)}
    (h : (run v xs).running = true) : v.running = true := by
  cases hv : v.running with
  | true => rfl
  | false =>
    rw [run_stopped hv, hv] at h
    cases h

/-- As long as the server runs, its machines make no difference. -/
theorem run_eq_of_running {v : Server} {xs : List (Machine × Request)} (hk : KeyedState v.state)
    (hs : cStrings.Holds v.state) (hxs : ∀ x ∈ xs, x.2.Ends) (hrun : (run v xs).running = true) :
    run v xs = v.run (xs.map (·.2)) := by
  induction xs generalizing v with
  | nil => rfl
  | cons x xs ih =>
    obtain ⟨hx, hxs⟩ := List.forall_mem_cons.mp hxs
    have hv : v.running = true := running_of_run hrun
    have hret : (x.1.call v.state x.2).returned = true := by
      have hone : (Machine.step v x).running = true := running_of_run hrun
      rw [step_running x hv] at hone
      exact hone
    have hstep : Machine.step v x = v.step x.2 := by
      rw [step_running x hv, Server.step_running x.2 hv, x.1.call_of_returned hs hx hret]
    have he := handleRequest_effect v.state x.2
    show run (Machine.step v x) xs = (v.step x.2).run (xs.map (·.2))
    change (run (Machine.step v x) xs).running = true at hrun
    rw [hstep] at hrun ⊢
    refine ih ?_ ?_ hxs hrun
    · rw [Server.step_running x.2 hv]
      exact hk.effect he
    · rw [Server.step_running x.2 hv]
      exact cStrings_effect hk hs hx he

section Invariants

variable {I : State → Prop} {C : State → Machine × Request → Prop} {v : Server}
  {xs : List (Machine × Request)} (hk : KeyedState v.state) (hs : cStrings.Holds v.state)
  (h0 : I v.state)
include hk hs h0

/-- An invariant of the databases, which may use that the records are keyed and that all strings
end in their arrays. -/
theorem invariant
    (hstep : ∀ s x s' b, KeyedState s → cStrings.Holds s → I s → C s x → Effect s x.2 s' b → I s')
    (hxs : Machine.Along (fun s x => x.2.Ends ∧ C s x) v xs) :
    KeyedState (run v xs).state ∧ cStrings.Holds (run v xs).state ∧ I (run v xs).state := by
  refine Run.invariant (I := fun v => KeyedState v.state ∧ cStrings.Holds v.state ∧ I v.state) ?_
    ⟨hk, hs, h0⟩ hxs
  rintro v x ⟨hk, hs, hi⟩ hc
  cases hr : v.running with
  | false =>
    rw [step_stopped x hr]
    exact ⟨hk, hs, hi⟩
  | true =>
    obtain ⟨hends, hc⟩ := hc hr
    have he := handleRequest_effect v.state x.2
    have hplain : KeyedState (ChatServer.handleRequest v.state x.2).state ∧
        cStrings.Holds (ChatServer.handleRequest v.state x.2).state ∧
          I (ChatServer.handleRequest v.state x.2).state :=
      ⟨hk.effect he, cStrings_effect hk hs hends he, hstep _ _ _ _ hk hs hi hc he⟩
    rw [step_running x hr]
    obtain hcall | ⟨_, hcall | hcall⟩ := x.1.call_cases hs hends
    · rw [hcall]
      exact hplain
    · rw [hcall]
      exact ⟨hk, hs, hi⟩
    · rw [hcall]
      exact hplain

/-- An invariant of the running server holds in every state in which it still runs. -/
theorem invariant_running
    (hstep : ∀ s x s', KeyedState s → cStrings.Holds s → I s → C s x → Effect s x.2 s' true → I s')
    (hxs : Machine.Along (fun s x => x.2.Ends ∧ C s x) v xs) (hrun : (run v xs).running = true) :
    KeyedState (run v xs).state ∧ cStrings.Holds (run v xs).state ∧ I (run v xs).state := by
  refine Run.invariant (I := fun v => v.running = true →
    KeyedState v.state ∧ cStrings.Holds v.state ∧ I v.state) ?_ (fun _ => ⟨hk, hs, h0⟩) hxs hrun
  intro v x hv hc
  cases hr : v.running with
  | false =>
    rw [step_stopped x hr, hr]
    exact fun h => by cases h
  | true =>
    obtain ⟨hk, hs, hi⟩ := hv hr
    obtain ⟨hends, hc⟩ := hc hr
    rw [step_running x hr]
    intro hret
    have hcall := x.1.call_of_returned hs hends hret
    have he := handleRequest_effect v.state x.2
    rw [hcall] at hret ⊢
    rw [show (ChatServer.handleRequest v.state x.2).returned = true from hret] at he
    exact ⟨hk.effect he, cStrings_effect hk hs hends he, hstep _ _ _ hk hs hi hc he⟩

end Invariants

section Lives

/-- An event of a life, a request being served on the machine as it is at that time. -/
def lifeStep (v : Server) (x : Machine × LifeEvent) : Server :=
  match x.2 with
  | .start newProcess env => Life.step v (.start newProcess env)
  | .request r => Machine.step v (x.1, r)

/-- A life on machines. -/
abbrev lived (xs : List (Machine × LifeEvent)) : Server := Run.run lifeStep Life.initial xs

/-- Every start, and every request that is served, meets `C` on its machine and in the state it
happens in. -/
abbrev LifeAlong (C : State → Machine × LifeEvent → Prop) (v : Server)
    (xs : List (Machine × LifeEvent)) : Prop :=
  Run.Along lifeStep (fun v x => Life.happens v x.2 = true → C v.state x) v xs

theorem lifeStep_running (v : Server) (h : v.running = true) (m : Machine) (r : Request) :
    lifeStep v (m, .request r) = ⟨(m.call v.state r).state, (m.call v.state r).returned⟩ :=
  step_running (m, r) h

theorem lifeStep_stopped (v : Server) (h : v.running = false) (m : Machine) (r : Request) :
    lifeStep v (m, .request r) = v :=
  step_stopped (m, r) h

/-- An invariant of the databases over lives, which may use that the records are keyed and that all
strings end in their arrays. -/
theorem life_invariant {I : State → Prop} {C : State → Machine × LifeEvent → Prop} {v : Server}
    {xs : List (Machine × LifeEvent)} (hk : KeyedState v.state) (hs : cStrings.Holds v.state)
    (h0 : I v.state)
    (hstart : ∀ (v : Server) m newProcess env, KeyedState v.state → cStrings.Holds v.state →
      I v.state → C v.state (m, .start newProcess env) →
        I (Life.step v (.start newProcess env)).state)
    (hstep : ∀ s m r s' b, KeyedState s → cStrings.Holds s → I s → C s (m, .request r) →
      Effect s r s' b → I s')
    (hxs : LifeAlong (fun s x => x.2.Ends ∧ C s x) v xs) :
    KeyedState (Run.run lifeStep v xs).state ∧ cStrings.Holds (Run.run lifeStep v xs).state ∧
      I (Run.run lifeStep v xs).state := by
  refine Run.invariant (I := fun v => KeyedState v.state ∧ cStrings.Holds v.state ∧ I v.state) ?_
    ⟨hk, hs, h0⟩ hxs
  rintro v ⟨m, e⟩ ⟨hk, hs, hi⟩ hc
  cases e with
  | start newProcess env =>
    obtain ⟨hends, hc⟩ := hc rfl
    exact ⟨Life.keyed_step hk _, cStrings.holds_step hk hs fun _ => cStrings_givenEvent hends,
      hstart v m newProcess env hk hs hi hc⟩
  | request r =>
    have hone : Machine.Along (fun s x => x.2.Ends ∧ C s (x.1, .request x.2)) v [(m, r)] :=
      ⟨hc, trivial⟩
    exact Machine.invariant hk hs hi (fun s x s' b => hstep s x.1 x.2 s' b) hone

/-- Strings that end in their arrays bring no others. -/
theorem life_strings {C : State → Machine × LifeEvent → Prop} {v : Server}
    {xs : List (Machine × LifeEvent)} (hk : KeyedState v.state) (hs : cStrings.Holds v.state)
    (hxs : LifeAlong (fun s x => x.2.Ends ∧ C s x) v xs) :
    KeyedState (Run.run lifeStep v xs).state ∧ cStrings.Holds (Run.run lifeStep v xs).state := by
  obtain ⟨hk', hs', _⟩ := life_invariant (I := fun _ => True) hk hs trivial
    (fun _ _ _ _ _ _ _ _ => trivial) (fun _ _ _ _ _ _ _ _ _ _ => trivial) hxs
  exact ⟨hk', hs'⟩

theorem lifeStep_strings {v : Server} (hk : KeyedState v.state) (hs : cStrings.Holds v.state)
    {x : Machine × LifeEvent} (hx : Life.happens v x.2 = true → x.2.Ends) :
    KeyedState (lifeStep v x).state ∧ cStrings.Holds (lifeStep v x).state := by
  have hone : LifeAlong (fun _ x => x.2.Ends ∧ True) v [x] := ⟨fun h => ⟨hx h, trivial⟩, trivial⟩
  exact life_strings hk hs hone

theorem step_strings {v : Server} (hk : KeyedState v.state) (hs : cStrings.Holds v.state)
    {x : Machine × Request} (hx : v.running = true → x.2.Ends) :
    KeyedState (Machine.step v x).state ∧ cStrings.Holds (Machine.step v x).state :=
  lifeStep_strings (x := (x.1, .request x.2)) hk hs hx

end Lives

section Lookups

variable {s : State} (hs : cStrings.Holds s)
include hs

/-- Where no two channels share a name, a lookup finds the same channel in every order and on every
machine. -/
theorem getChannelInfo_congr (hd : s.channelInfo.Distinct ChannelInfo.channelName) (m m' : Machine)
    (env env' : Env) (name : Str) :
    m.getChannelInfo s env name = m'.getChannelInfo s env' name := by
  have hstr : s.channelInfo.Distinct fun c => c.channelName.str := fun k k' c c' hc hc' he =>
    hd k k' c c' hc hc' (CharArray.ext he)
  have hread : ∀ (m : Machine) (env : Env), m.getChannelInfo s env name =
      (env.channelOrder.scan s.channelInfo).find? fun c => c.channelName.str = name := by
    intro m env
    refine List.find?_congr fun c hc => ?_
    rw [ChannelInfo.nameAt_eq m.heap (channel_of_scan hs hc)]
  rw [hread, hread]
  exact KeyOrder.find?_scan_congr env.channelOrder env'.channelOrder hstr name

end Lookups

end Machine

section Peers

variable {s : State} {r : Request}

theorem createMessage_activeUsers (env : Env) (n : ℕ) (bytes : List UInt8) :
    (readAndCreateMessage s env n bytes).state.activeUsers = s.activeUsers := by
  unfold readAndCreateMessage storeNewMessage
  repeat' split
  all_goals rfl

/-- Copies go to sessions. -/
theorem fd_of_forwards {env : Env} {header : ChatHeader} {token forward : Str} {sent : List Sent}
    (h : forwards s env header token forward = .ok sent) {d : Sent} (hd : d ∈ sent) :
    ∃ u ∈ s.activeUsers.live, d.fd = u.fd := by
  unfold forwards at h
  split at h
  · cases h
    cases hd
  · cases h
  · split at h
    · cases h
    · cases h
      cases hd
    · cases h
      obtain ⟨u, hu, rfl⟩ := List.mem_map.mp hd
      exact ⟨u, List.mem_of_mem_filter hu, rfl⟩

/-- Copies come from the loop behind the response to a message. -/
theorem forwards_of_afterResponse {k : RequestKind} {header : ChatHeader} {reply : Reply}
    {sent : List Sent} {closed : List ℕ} (h : afterResponse k s r header reply = .ok (sent, closed))
    {x : Sent} (hx : x ∈ sent) :
    k = .createMessage ∧ forwards s r.env header reply.token reply.forward = .ok sent := by
  cases k with
  | createMessage =>
    rw [afterResponse] at h
    cases hf : forwards s r.env header reply.token reply.forward with
    | error f => simp [hf] at h
    | ok sent' =>
      simp only [hf, Except.ok.injEq, Prod.mk.injEq] at h
      exact ⟨rfl, congrArg _ h.1⟩
  | destroyUser =>
    rw [afterResponse] at h
    split at h
    · cases h
    · cases h
      cases hx
  | _ =>
    cases h
    cases hx

theorem fd_of_respond {k : RequestKind} {header : ChatHeader} {rest : List UInt8} {reply : Reply}
    {d : Sent} (hd : d ∈ (respond k s r header rest reply).sent) :
    d.fd = r.fd ∨ k = .createMessage ∧ ∃ u ∈ s.activeUsers.live, d.fd = u.fd := by
  rw [respond] at hd
  split_ifs at hd
  · cases hd
  cases hb : sendResponse k reply.result reply.token with
  | error f =>
    rw [hb] at hd
    cases hd
  | ok body =>
    have hdirect : ∀ x ∈ body.toList.map fun b =>
        (⟨r.fd, false, responseHeader header b, b⟩ : Sent), x.fd = r.fd := by
      intro x hx
      obtain ⟨b, _, rfl⟩ := List.mem_map.mp hx
      rfl
    rw [hb] at hd
    dsimp only at hd
    cases ha : afterResponse k s r header reply with
    | error f =>
      rw [ha] at hd
      exact Or.inl (hdirect d hd)
    | ok y =>
      obtain ⟨sent, closed⟩ := y
      rw [ha] at hd
      obtain hd | hd := List.mem_append.mp hd
      · exact Or.inl (hdirect d hd)
      · obtain ⟨rfl, hf⟩ := forwards_of_afterResponse ha hd
        exact Or.inr ⟨rfl, fd_of_forwards hf hd⟩

/-- Dispatches go to the client and, as copies of a message, to the clients with a session. -/
theorem fd_of_sent {d : Sent} (h : d ∈ (handleRequest s r).sent) :
    d.fd = r.fd ∨ ∃ u ∈ s.activeUsers.live, d.fd = u.fd := by
  rw [handleRequest] at h
  cases hd : r.decode with
  | stop ret rest =>
    rw [hd] at h
    cases h
  | serve k header rest =>
    rw [hd] at h
    dsimp only at h
    rw [serve] at h
    split_ifs at h
    · cases h
    dsimp only at h
    split at h
    · cases h
    · obtain hfd | ⟨rfl, hu⟩ := fd_of_respond h
      · exact Or.inl hfd
      · rw [runHandler, createMessage_activeUsers] at hu
        exact Or.inr hu

/-- Neither the client nor one of the clients with a session is gone. -/
structure Machine.Reaches (m : Machine) (s : State) (r : Request) : Prop where
  client : m.reset r.fd = false
  others : ∀ u ∈ s.activeUsers.live, m.reset u.fd = false

instance (m : Machine) (s : State) (r : Request) : Decidable (m.Reaches s r) :=
  decidable_of_iff (m.reset r.fd = false ∧ ∀ u ∈ s.activeUsers.live, m.reset u.fd = false)
    ⟨fun h => ⟨h.1, h.2⟩, fun h => ⟨h.client, h.others⟩⟩

/-- Everything that is written is delivered. -/
theorem Machine.Reaches.deliver_eq {m : Machine} (h : m.Reaches s r) :
    m.deliver (ChatServer.handleRequest s r) = ChatServer.handleRequest s r := by
  refine m.deliver_eq fun d hd => ?_
  obtain hfd | ⟨u, hu, hfd⟩ := fd_of_sent hd
  · rw [hfd, h.client]
  · rw [hfd, h.others u hu]

end Peers

section Fresh

variable {r : Request}

/-- The request with other memory to allocate from. -/
def Request.withHeap (r : Request) (heap : List UInt8) : Request :=
  { r with env := { r.env with heap := heap } }

/-- The request does not ask to store a message of more than seven bytes, behind which the array of
the stored message keeps what was in the memory before. -/
def Request.ShortContent (r : Request) : Prop :=
  ∀ fs ∈ r.fieldsFor .createMessage, ∀ content ∈ fs[2]?, content.length < 8

instance (r : Request) : Decidable r.ShortContent :=
  inferInstanceAs (Decidable (∀ fs ∈ r.fieldsFor .createMessage, ∀ content ∈ fs[2]?, _))

/-- A short message fills its array up to a terminator. -/
theorem generateMessage_withHeap {content : Str} (h : content.length < 8) (env : Env)
    (heap : List UInt8) (login : UserLogin) (channel : ChannelInfo)
    (timestamp : CharArray timestampSize) :
    generateMessage { env with heap := heap } login channel content timestamp =
      generateMessage env login channel content timestamp := by
  rw [generateMessage, generateMessage, if_pos h, if_pos h]

theorem Machine.readAndCreateMessage_withHeap (m : Machine) (s : State) {n : ℕ}
    {bytes : List UInt8}
    (h : bodyIncomplete n bytes = false → ∀ content ∈ (fields bytes)[2]?, content.length < 8)
    (env : Env) (heap : List UInt8) :
    m.readAndCreateMessage s { env with heap := heap } n bytes =
      m.readAndCreateMessage s env n bytes := by
  rw [readAndCreateMessage, readAndCreateMessage]
  split_ifs with hn
  · rfl
  cases hd : nextField tokenNameLength (fields bytes) with
  | error f => rfl
  | ok x =>
    obtain ⟨displayName, ts⟩ := x
    dsimp only
    split_ifs
    · rfl
    cases hm : messageFields ts with
    | error f => rfl
    | ok y =>
      obtain ⟨channelName, content, timestamp⟩ := y
      obtain ⟨us, t, rest, hname, hcontent, -⟩ := messageFields_eq_ok.mp hm
      have hshort : content.str.length < 8 := h (by simpa using hn) content.str (by
        rw [nextField_eq_ok.mp hd, nextField_eq_ok.mp hname, nextField_eq_ok.mp hcontent]
        rfl)
      dsimp only
      split_ifs
      · rfl
      simp only [storeNewMessage, generateMessage_withHeap hshort]
      rfl

/-- Such a request does not get to see the memory that it is given. -/
theorem Machine.handleRequest_withHeap (m : Machine) (s : State) (hr : r.Ends)
    (h : r.ShortContent) (heap : List UInt8) :
    m.handleRequest s (r.withHeap heap) = m.handleRequest s r := by
  have hdecode : (r.withHeap heap).decode = r.decode := rfl
  rw [Machine.handleRequest, Machine.handleRequest, hdecode]
  cases hd : r.decode with
  | stop ret rest => rfl
  | serve k header rest =>
    dsimp only
    have hrespond : ∀ s' reply, m.respond k s' (r.withHeap heap) header (rest.drop header.bodySize)
        reply = m.respond k s' r header (rest.drop header.bodySize) reply := by
      intro s' reply
      cases k <;> rfl
    rw [Machine.serve, Machine.serve]
    split_ifs with hlen
    · rfl
    have hout : m.runHandler k s (r.withHeap heap) header.bodySize (rest.take header.bodySize) =
        m.runHandler k s r header.bodySize (rest.take header.bodySize) := by
      cases k with
      | createMessage =>
        refine m.readAndCreateMessage_withHeap s (fun hn => ?_) r.env heap
        exact h _ (fieldsFor_eq hd (Machine.length_of_ends hr hd) hn)
      | _ => rfl
    dsimp only
    rw [hout]
    simp only [hrespond]

end Fresh

namespace Client

/-- A machine with zeros behind its arrays, sixteen spare bytes in every block and all peers
there. -/
def machine : Machine := ⟨fun _ => [0], [0], fun n => n+16, fun n => by omega, fun _ => false⟩

theorem strings_start : cStrings.Holds start.state :=
  cStrings_startUp (by decide : firstEnv.uuid.Text)

/-- Requests that are all served on one machine. -/
def on (m : Machine) (rs : List Request) : List (Machine × Request) := rs.map fun r => (m, r)

/-- A life on one machine. -/
def lifeOn (m : Machine) (es : List LifeEvent) : List (Machine × LifeEvent) :=
  es.map fun e => (m, e)

end Client

end ChatServer
