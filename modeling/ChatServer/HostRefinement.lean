import ChatServer.HandlerRefinement

/-!
# The bytes of a life

A life of the server over bytes: the programs of wrapper calls run one after another, from empty
files and cleared memory on, with what the databases of channels and messages answer to each
request. The files hold the records of the databases after every event, and the memory the sessions
of the cache as long as the process runs.
-/

namespace ChatServer

open CLib

/-- The files and the memory are those of the server. Of a process that has ended only the senders
of the stored messages are known. -/
structure Tracks (m : Memory) (f : Files) (v : Server) : Prop where
  files : Represents f v.state
  senders : v.state.messagesInfo.All fun _ x => x.userId.bytes ∈ m.senders
  memory : v.running = true → m.Of v.state

theorem Tracks.initial : Tracks .initial .empty Life.initial where
  files := .empty
  senders := .empty _
  memory h := by cases h

namespace HandlerCalls

open WrapperCall

variable {m : Memory} {f : Files} {s : State}

theorem tracks_request (hm : m.Of s) (hf : Represents f s) (hs : cStrings.Holds s)
    (hk : KeyedState s) {r : Request} (hr : r.Ends) (hp : r.Plain) :
    ∃ channelFound listed,
      Tracks ((request m r channelFound listed).exec onFiles f).1
        ((request m r channelFound listed).exec onFiles f).2
        ⟨(handleRequest s r).state, (handleRequest s r).returned⟩ := by
  cases hd : r.decode with
  | stop ret rest =>
    refine ⟨false, [], ?_⟩
    rw [request, handleRequest, hd]
    cases ret with
    | error e => exact ⟨hf, hm.senders, fun h => by cases h⟩
    | ok n => exact ⟨hf, hm.senders, fun _ => hm⟩
  | serve k header rest =>
    have hlen : (rest.take header.bodySize).length ≤ defaultBuffer := by
      have hsize : header.bodySize.val < defaultBuffer := by
        refine Nat.lt_of_not_le fun hle => hr.fields ?_
        rw [Request.OverLong, hd]
        exact Or.inl hle
      exact (List.length_take_le _ _).trans hsize.le
    obtain ⟨channelFound, listed, h⟩ := implements_handler hm hf hs hk hr hp hd
    refine ⟨channelFound, listed, ?_⟩
    rw [handleRequest_state hd hlen, request, hd]
    dsimp only
    rw [if_neg (Nat.not_lt.mpr hlen)]
    refine ⟨h.files, h.senders, fun hret => ?_⟩
    cases hv : (runHandler k s r header.bodySize (rest.take header.bodySize)).value with
    | ok reply => exact h.memory reply hv
    | error e =>
      -- a handler that does not return keeps the call from returning
      rw [handleRequest, hd] at hret
      simp only [serve, if_neg (Nat.not_lt.mpr hlen), hv] at hret
      cases hret

theorem implements_createAdmin (hm : m.Of s) (hf : Represents f s) (heap : List UInt8)
    (reply : Reply) : Implements (createAdmin m heap) f ⟨s.createAdmin, .ok reply⟩ := by
  have hname : adminName.Text := cStrings.name_admin
  have huuid : adminUuid.Text := cStrings.uuid_admin
  have hlogin : UserLogin.Clean ⟨adminName, CharArray.strncpy _ (ascii "admin"), adminUuid⟩ :=
    ⟨hname, cStrings.password_admin.clean, huuid⟩
  have haccount : (generateUserAccount adminUuid adminName).Clean :=
    ⟨huuid, hname.clean, cStrings.addr_none.clean⟩
  rw [createAdmin, strncpy_bytes (length_malloc _ _) huuid.clean, State.createAdmin]
  refine .checkDuplicateDisplayName hf hname ?_
  cases s.checkDuplicateDisplayName adminName with
  | true => exact .done hf hm
  | false =>
    refine .perform (.perform (.perform (.done ?_ (hm.congr rfl rfl))))
    simp only [onFiles, AccountRecord.generate_bytes huuid.clean hname.clean]
    exact ((hf.insertDisplayName hname huuid).insertUserLogin hlogin).insertUserAccount haccount

/-- The memory with which `run_server` is entered is that of the state in which it is entered. -/
theorem of_entered {v : Server} (h : Tracks m f v) (newProcess : Bool) :
    Memory.Of
      { m with slots := if (newProcess || !v.running) || !m.running then
                 List.replicate maxClients .zero else m.slots
               running := true } (Life.entered v newProcess) := by
  rw [Life.entered]
  cases hnew : newProcess || !v.running with
  | true =>
    refine ⟨List.length_replicate, ?_, ?_, h.senders, rfl⟩
    · intro x hx
      rw [List.eq_of_mem_replicate ((List.dropWhile_sublist _).subset hx)]
      rfl
    · show Slots.live Session.named (List.replicate maxClients .zero) =
        Cache.empty.live.map ConnectedUser.session
      rw [show Cache.empty.live = [] by decide]
      rfl
  | false =>
    obtain ⟨-, hrun⟩ := Bool.or_eq_false_iff.mp hnew
    have hm := h.memory (by simpa using hrun)
    rw [hm.running]
    exact ⟨hm.size, hm.compact, hm.live, hm.senders, rfl⟩

theorem tracks_start {v : Server} (h : Tracks m f v) (newProcess : Bool) (env : Env) :
    Tracks ((step m (.start (newProcess || !v.running) env.heap)).exec onFiles f).1
      ((step m (.start (newProcess || !v.running) env.heap)).exec onFiles f).2
      (Life.step v (.start newProcess env)) := by
  have hf : Represents f (Life.entered v newProcess) := by
    rw [Life.entered]
    split
    · exact h.files.congr rfl rfl rfl
    · exact h.files
  have hadmin := implements_createAdmin (of_entered h newProcess) hf env.heap ⟨0, [], []⟩
  have hm := hadmin.memory _ rfl
  change Tracks _ _ ⟨(Life.entered v newProcess).createAdmin.createGlobalChannel env, true⟩
  obtain ⟨_, heq⟩ | ⟨_, heq⟩ :=
    createGlobalChannel_cases (Life.entered v newProcess).createAdmin env
  · rw [heq]
    exact ⟨hadmin.files, hadmin.senders, fun _ => hm⟩
  · rw [heq]
    exact ⟨hadmin.files.congr rfl rfl rfl, hadmin.senders, fun _ => hm.congr rfl rfl⟩

end HandlerCalls

/-- The events of a life as the programs take them. The answers of the databases of channels and
messages are added, a process that has ended is started anew, and what is sent to it is lost. -/
inductive Hosts : Server → List LifeEvent → List HostEvent → Prop where
  | nil (v : Server) : Hosts v [] []
  | start {v : Server} {newProcess : Bool} {env : Env} {es : List LifeEvent} {hs : List HostEvent}
      (h : Hosts (Life.step v (.start newProcess env)) es hs) :
      Hosts v (.start newProcess env :: es) (.start (newProcess || !v.running) env.heap :: hs)
  | request {v : Server} {r : Request} {channelFound : Bool} {listed : List ℕ}
      {es : List LifeEvent} {hs : List HostEvent} (hrun : v.running = true)
      (h : Hosts (Life.step v (.request r)) es hs) :
      Hosts v (.request r :: es) (.request r channelFound listed :: hs)
  | lost {v : Server} {r : Request} {es : List LifeEvent} {hs : List HostEvent}
      (hrun : v.running = false) (h : Hosts v es hs) : Hosts v (.request r :: es) hs

namespace HandlerCalls

open WrapperCall

theorem tracks_run {v : Server} {m : Memory} {f : Files} (h : Tracks m f v)
    (hk : KeyedState v.state) (hs : cStrings.Holds v.state) {es : List LifeEvent}
    (hes : ∀ e ∈ es, e.Ends) (hplain : ∀ r, .request r ∈ es → r.Plain) :
    ∃ hs, Hosts v es hs ∧ Tracks ((run m hs).exec onFiles f).1 ((run m hs).exec onFiles f).2
      (Run.run Life.step v es) := by
  -- along the events; files and memory are those that the last event left
  induction es generalizing v m f with
  | nil => exact ⟨[], .nil v, h⟩
  | cons e es ih =>
    obtain ⟨he, hes'⟩ := List.forall_mem_cons.mp hes
    have hplain' : ∀ r, .request r ∈ es → r.Plain :=
      fun r hr => hplain r (List.mem_cons_of_mem e hr)
    have hk' := Life.keyed_step hk e
    have hs' := cStrings.holds_step hk hs fun _ => cStrings_givenEvent he
    cases e with
    | start newProcess env =>
      obtain ⟨hs, hhosts, htracks⟩ := ih (tracks_start h newProcess env) hk' hs' hes' hplain'
      refine ⟨_, .start hhosts, ?_⟩
      rw [run, Prog.exec_bind]
      exact htracks
    | request r =>
      have hp := hplain r List.mem_cons_self
      cases hrun : v.running with
      | false =>
        have hstep : Life.step v (.request r) = v := Server.step_stopped r hrun
        obtain ⟨hs, hhosts, htracks⟩ := ih h hk hs hes' hplain'
        refine ⟨hs, .lost hrun hhosts, ?_⟩
        rw [Run.run, List.foldl_cons, hstep]
        exact htracks
      | true =>
        have hm := h.memory hrun
        obtain ⟨channelFound, listed, hreq⟩ := tracks_request hm h.files hs hk he hp
        rw [← Server.step_running r hrun] at hreq
        obtain ⟨hs, hhosts, htracks⟩ := ih hreq hk' hs' hes' hplain'
        refine ⟨.request r channelFound listed :: hs, .request hrun hhosts, ?_⟩
        rw [run, Prog.exec_bind, step, if_pos hm.running]
        exact htracks

end HandlerCalls

/-- The programs of wrapper calls implement every life with strings that end in their arrays: on
empty files, their calls leave the records that the handlers leave in the databases. -/
theorem hosts_implement_life (es : List LifeEvent) (hes : ∀ e ∈ es, e.Ends)
    (hplain : ∀ r, .request r ∈ es → r.Plain) :
    ∃ hs, Hosts Life.initial es hs ∧
      Represents ((HandlerCalls.run .initial hs).exec WrapperCall.onFiles .empty).2
        (Life.run es).state := by
  obtain ⟨hs, hhosts, h⟩ :=
    HandlerCalls.tracks_run .initial Life.keyedState_fresh (cStrings.holds_fresh) hes hplain
  exact ⟨hs, hhosts, h.files⟩

end ChatServer
