import ChatServer.Lifetime
import ChatServer.ServerLoop

/-!
# The process

`main` shows a menu, starts the server in a thread of its own, waits for the key that stops it and
joins the thread. The two threads share `server_running`, the session cache and the databases, and
the steps of both may come in any order. A process that is over can be followed by another one.
-/

namespace ChatServer

open CLib

inductive Key where
  | up | down | enter | quit | other
  deriving DecidableEq

/-- Where `main` stands. -/
inductive MainAt where
  | menu (choice : ℕ)
  | creating | waiting | closing | joining
  | viewing | returned
  deriving DecidableEq

/-- Where `run_server_thread` stands: before the loop, at its condition, inside it, behind it. -/
inductive ThreadAt where
  | setup | condition | body | closing | returned
  deriving DecidableEq

/-- A server thread and its array `pollfds`. -/
structure ServerThread where
  pc : ThreadAt
  entries : List PollEntry

structure Process where
  main : MainAt
  /-- The threads that have been created and not been joined, the last one first. -/
  threads : List ServerThread
  serverRunning : Bool
  /-- The server has been started in this process. -/
  visited : Bool
  server : Server
  exited : Bool
  connections : List Connection

/-- What a step of a server thread takes from outside the program. -/
structure ThreadInput where
  /-- `socket`, `setsockopt`, `bind` and `listen` succeed. -/
  listens : Bool
  stack : List (ℕ × ℕ)
  env : Env
  turn : Turn

inductive Action where
  | launch
  | main (key : Key)
  | thread (i : ℕ) (x : ThreadInput)

def Action.IsThread : Action → Prop
  | .thread _ _ => True
  | _ => False

/-- A step of the thread that was created last. -/
def Action.isServer : Action → Bool
  | .thread 0 _ => true
  | _ => false

namespace Process

/-- No process yet. -/
def initial : Process := ⟨.returned, [], false, false, ⟨.fresh, true⟩, false, []⟩

/-- The process has come to its end, in `main` or inside the server. -/
def finished (p : Process) : Bool := p.main = .returned || p.exited || !p.server.running

/-- A new process clears the session cache. -/
def launch (p : Process) : Process :=
  { main := .menu 1, threads := [], serverRunning := false, visited := false
    server := ⟨{ p.server.state with activeUsers := .empty }, true⟩
    exited := false, connections := [] }

/-- The switch over the choice, behind which the menu is shown again. -/
def choose (p : Process) (choice : ℕ) : Process :=
  match choice with
  | 1 =>
    if p.serverRunning then { p with main := .menu 1 }
    else { p with main := .creating, serverRunning := true }
  | 2 => { p with main := .viewing }
  | 3 => { p with main := .viewing }
  | 4 => { p with main := .returned }
  | _ => { p with main := .menu 1 }

/-- A step of `main`, `key` being the next key if it waits for one: `navigate_menu`, the creation of
the thread, the loop that waits for 'q', `close`, `pthread_join` and the two viewers. -/
def mainStep (p : Process) (key : Key) : Process :=
  match p.main with
  | .menu choice =>
    match key with
    | .up => { p with main := .menu (if choice-1 < 1 then 4 else choice-1) }
    | .down => { p with main := .menu (if choice+1 > 4 then 1 else choice+1) }
    | .enter => p.choose choice
    | _ => p
  | .creating => { p with threads := ⟨.setup, []⟩ :: p.threads, main := .waiting }
  | .waiting =>
    if p.serverRunning then
      if key = .quit then { p with serverRunning := false } else p
    else { p with main := .closing }
  | .closing => { p with main := .joining }
  | .joining =>
    match p.threads with
    | ⟨.returned, _⟩ :: threads => { p with threads := threads, main := .menu 1 }
    | _ => p
  | .viewing => { p with main := .menu 1 }
  | .returned => p

/-- The loop of `run_server` with the array of one thread. -/
def view (p : Process) (entries : List PollEntry) : ServerLoop :=
  ⟨p.server, p.exited, entries, p.connections⟩

/-- A step of a server thread. -/
def threadStep (p : Process) (i : ℕ) (x : ThreadInput) : Process :=
  match p.threads[i]? with
  | none => p
  | some ⟨pc, entries⟩ =>
    match pc with
    | .setup =>
      if x.listens then
        { p with visited := true, server := ⟨startUp x.env p.server.state, true⟩
                 threads := p.threads.set i ⟨.condition, initPollfd x.stack⟩ }
      else { p with threads := p.threads.set i ⟨.returned, entries⟩ }
    | .condition =>
      { p with threads := p.threads.set i ⟨if p.serverRunning then .body else .closing, entries⟩ }
    | .body =>
      let w := (p.view entries).turn x.turn
      { p with server := w.server, exited := w.exited, connections := w.connections
               threads := p.threads.set i ⟨.condition, w.entries⟩ }
    | .closing =>
      { p with connections := p.connections.filter fun c => some c.fd ∉ entries.map (·.fd)
               threads := p.threads.set i ⟨.returned, entries⟩ }
    | .returned => p

def step (p : Process) : Action → Process
  | .launch => if p.finished then p.launch else p
  | .main key => if p.finished then p else p.mainStep key
  | .thread i x => if p.finished then p else p.threadStep i x

abbrev run (p : Process) (as : List Action) : Process := Run.run step p as

/-- `main` is between the creation of a server thread and its join. -/
def Serving (p : Process) : Prop :=
  p.main = .waiting ∨ p.main = .closing ∨ p.main = .joining

instance (p : Process) : Decidable p.Serving := inferInstanceAs (Decidable (_ ∨ _))

/-- What the two threads keep to: there is a server thread exactly while `main` waits for it, the
flag is set from before its creation to the key that stops it, and a choice is one of the four. -/
structure Safe (p : Process) : Prop where
  threads : p.threads.length = if p.Serving then 1 else 0
  flag : p.serverRunning = true → p.main = .creating ∨ p.main = .waiting
  creating : p.main = .creating → p.serverRunning = true
  choice : ∀ c, p.main = .menu c → 1 ≤ c ∧ c ≤ 4
  visited : ∀ th ∈ p.threads, th.pc = .condition ∨ th.pc = .body → p.visited = true

theorem safe_initial : Safe initial := ⟨rfl, nofun, nofun, nofun, nofun⟩

theorem safe_launch (p : Process) : Safe p.launch := by
  refine ⟨rfl, nofun, nofun, ?_, nofun⟩
  rintro c ⟨⟩
  exact ⟨le_rfl, by decide⟩

/-- Without a thread and with the flag cleared, `main` may go anywhere but behind a creation. -/
theorem Safe.idle {p : Process} {m : MainAt} (hthreads : p.threads = [])
    (hflag : p.serverRunning = false) (hmain : p.main = m) (hm : m = .viewing ∨ m = .returned ∨
      ∃ c, m = .menu c ∧ 1 ≤ c ∧ c ≤ 4) : Safe p := by
  have hserving : ¬ p.Serving := by
    rw [Serving, hmain]
    rcases hm with rfl | rfl | ⟨c, rfl, _⟩ <;> simp
  refine ⟨by rw [hthreads, if_neg hserving]; rfl, by rw [hflag]; nofun, ?_, ?_, ?_⟩
  · rw [hmain]
    rcases hm with rfl | rfl | ⟨c, rfl, _⟩ <;> nofun
  · rw [hmain]
    rcases hm with rfl | rfl | ⟨c, rfl, hc⟩
    · nofun
    · nofun
    · rintro c ⟨⟩
      exact hc
  · rw [hthreads]
    nofun

section Step

variable {p : Process} (h : Safe p)
include h

/-- While `main` is not serving there is no thread, and outside a creation the flag is cleared. -/
theorem Safe.no_thread (hs : ¬ p.Serving) : p.threads = [] := by
  have := h.threads
  rw [if_neg hs] at this
  exact List.length_eq_zero_iff.mp this

theorem Safe.not_running (hc : p.main ≠ .creating) (hw : p.main ≠ .waiting) :
    p.serverRunning = false := by
  cases hr : p.serverRunning with
  | false => rfl
  | true => exact absurd (h.flag hr) (by simp [hc, hw])

theorem Safe.mainStep (key : Key) : Safe (p.mainStep key) := by
  cases hm : p.main with
  | menu c =>
    have hno : p.threads = [] := h.no_thread (by simp [Serving, hm])
    have hrun : p.serverRunning = false := h.not_running (by simp [hm]) (by simp [hm])
    have hc := h.choice c hm
    cases key with
    | up =>
      simp only [Process.mainStep, hm]
      refine .idle hno hrun rfl (Or.inr (Or.inr ⟨_, rfl, ?_⟩))
      split <;> omega
    | down =>
      simp only [Process.mainStep, hm]
      refine .idle hno hrun rfl (Or.inr (Or.inr ⟨_, rfl, ?_⟩))
      split <;> omega
    | enter =>
      simp only [Process.mainStep, hm]
      -- the choice is one of four, so the default of the switch is not taken
      obtain rfl | rfl | rfl | rfl : c = 1 ∨ c = 2 ∨ c = 3 ∨ c = 4 := by omega
      · rw [choose, hrun]
        exact ⟨by simp [hno, Serving], fun _ => Or.inl rfl, fun _ => rfl, nofun,
          by simp [hno]⟩
      · exact .idle hno hrun rfl (Or.inl rfl)
      · exact .idle hno hrun rfl (Or.inl rfl)
      · exact .idle hno hrun rfl (Or.inr (Or.inl rfl))
    | quit => simpa only [Process.mainStep, hm] using h
    | other => simpa only [Process.mainStep, hm] using h
  | creating =>
    have hno : p.threads = [] := h.no_thread (by simp [Serving, hm])
    simp only [Process.mainStep, hm]
    exact ⟨by simp [hno, Serving], fun _ => Or.inr rfl, nofun, nofun, by simp [hno]⟩
  | waiting =>
    have hone : p.threads.length = 1 := by simpa [Serving, hm] using h.threads
    simp only [Process.mainStep, hm]
    split
    · split
      · exact ⟨by simpa [Serving, hm] using hone, nofun, by simp, by simp, h.visited⟩
      · exact h
    · rename_i hr
      exact ⟨by simpa [Serving] using hone, fun hr' => absurd hr' hr, nofun, nofun, h.visited⟩
  | closing =>
    have hone : p.threads.length = 1 := by simpa [Serving, hm] using h.threads
    have hrun : p.serverRunning = false := h.not_running (by simp [hm]) (by simp [hm])
    simp only [Process.mainStep, hm]
    exact ⟨by simpa [Serving] using hone, by simp [hrun], nofun, nofun, h.visited⟩
  | joining =>
    have hone : p.threads.length = 1 := by simpa [Serving, hm] using h.threads
    have hrun : p.serverRunning = false := h.not_running (by simp [hm]) (by simp [hm])
    simp only [Process.mainStep, hm]
    split
    · rename_i entries threads hth
      rw [hth, List.length_cons] at hone
      have hno : threads = [] := List.length_eq_zero_iff.mp (by omega)
      exact .idle hno hrun rfl
        (Or.inr (Or.inr ⟨1, rfl, le_rfl, by decide⟩))
    · exact h
  | viewing =>
    have hno : p.threads = [] := h.no_thread (by simp [Serving, hm])
    have hrun : p.serverRunning = false := h.not_running (by simp [hm]) (by simp [hm])
    simp only [Process.mainStep, hm]
    exact .idle hno hrun rfl (Or.inr (Or.inr ⟨1, rfl, le_rfl, by decide⟩))
  | returned => simpa only [Process.mainStep, hm] using h

omit h in
/-- A step of a server thread leaves `main` and the flag alone, and moves the one thread. -/
theorem threadStep_cases (p : Process) (i : ℕ) (x : ThreadInput) :
    p.threadStep i x = p ∨ ∃ th th', p.threads[i]? = some th ∧
      (p.threadStep i x).threads = p.threads.set i th' ∧
      (p.threadStep i x).main = p.main ∧ (p.threadStep i x).serverRunning = p.serverRunning ∧
      (p.visited = true → (p.threadStep i x).visited = true) ∧
      (th'.pc = .condition ∨ th'.pc = .body → (p.threadStep i x).visited = true ∨
        th.pc = .condition ∨ th.pc = .body) := by
  rw [threadStep]
  split
  · exact Or.inl rfl
  · rename_i pc entries hth
    cases pc with
    | setup =>
      dsimp only
      split
      · exact Or.inr ⟨_, _, hth, rfl, rfl, rfl, fun _ => rfl, fun _ => Or.inl rfl⟩
      · exact Or.inr ⟨_, _, hth, rfl, rfl, rfl, id, by simp⟩
    | condition =>
      exact Or.inr ⟨_, _, hth, rfl, rfl, rfl, id, fun _ => Or.inr (Or.inl rfl)⟩
    | body => exact Or.inr ⟨_, _, hth, rfl, rfl, rfl, id, fun _ => Or.inr (Or.inr rfl)⟩
    | closing => exact Or.inr ⟨_, _, hth, rfl, rfl, rfl, id, by simp⟩
    | returned => exact Or.inl rfl

theorem Safe.threadStep (i : ℕ) (x : ThreadInput) : Safe (p.threadStep i x) := by
  rcases threadStep_cases p i x with he | ⟨th, th', hth, hset, hmain, hflag, hvis, hpc⟩
  · rw [he]
    exact h
  · have hserving : (p.threadStep i x).Serving ↔ p.Serving := by rw [Serving, Serving, hmain]
    refine ⟨?_, by rw [hflag, hmain]; exact h.flag, by rw [hflag, hmain]; exact h.creating,
      by rw [hmain]; exact h.choice, ?_⟩
    · rw [hset, List.length_set, h.threads]
      simp only [hserving]
    · intro th₁ hth₁ hpc₁
      rw [hset] at hth₁
      rcases List.mem_or_eq_of_mem_set hth₁ with hth₁ | rfl
      · exact hvis (h.visited th₁ hth₁ hpc₁)
      · exact (hpc hpc₁).elim id fun hold => hvis (h.visited th (List.mem_of_getElem? hth) hold)

theorem Safe.step (a : Action) : Safe (p.step a) := by
  cases a with
  | launch =>
    rw [Process.step]
    split
    · exact safe_launch p
    · exact h
  | main key =>
    rw [Process.step]
    split
    · exact h
    · exact h.mainStep key
  | thread i x =>
    rw [Process.step]
    split
    · exact h
    · exact h.threadStep i x

end Step

theorem safe_run (as : List Action) : Safe (initial.run as) :=
  Run.invariant (C := fun _ _ => True) (fun _ a h _ => h.step a) safe_initial
    (Run.along_of_forall (fun _ _ _ => trivial) initial)

theorem choose_frame (p : Process) (choice : ℕ) :
    (p.choose choice).server = p.server ∧ (p.choose choice).exited = p.exited ∧
      (p.choose choice).connections = p.connections ∧
      (p.choose choice).visited = p.visited := by
  unfold choose
  split
  · split <;> exact ⟨rfl, rfl, rfl, rfl⟩
  all_goals exact ⟨rfl, rfl, rfl, rfl⟩

/-- `main` touches nothing that the server works on. -/
theorem mainStep_frame (p : Process) (key : Key) :
    (p.mainStep key).server = p.server ∧ (p.mainStep key).exited = p.exited ∧
      (p.mainStep key).connections = p.connections ∧ (p.mainStep key).visited = p.visited := by
  unfold mainStep
  split
  · rename_i c _
    cases key with
    | enter => exact choose_frame p c
    | _ => exact ⟨rfl, rfl, rfl, rfl⟩
  · exact ⟨rfl, rfl, rfl, rfl⟩
  · split
    · split <;> exact ⟨rfl, rfl, rfl, rfl⟩
    · exact ⟨rfl, rfl, rfl, rfl⟩
  · exact ⟨rfl, rfl, rfl, rfl⟩
  · split <;> exact ⟨rfl, rfl, rfl, rfl⟩
  · exact ⟨rfl, rfl, rfl, rfl⟩
  · exact ⟨rfl, rfl, rfl, rfl⟩

/-- In every interleaving of the two threads there is at most one server thread, and one exactly
while `main` waits for it or joins it. `main` never changes what the server works on; and while the
menu or a viewer is shown, nothing else changes it. The choice is one of the four. -/
theorem server_thread_exclusive (as : List Action) :
    (initial.run as).threads.length ≤ 1 ∧
    ((initial.run as).threads ≠ [] ↔ (initial.run as).Serving) ∧
    (∀ c, (initial.run as).main = .menu c → 1 ≤ c ∧ c ≤ 4) ∧
    (∀ key, ((initial.run as).step (.main key)).server = (initial.run as).server) ∧
    (¬ (initial.run as).Serving → ∀ bs : List Action, (∀ b ∈ bs, b.IsThread) →
      (initial.run as).run bs = initial.run as) := by
  have h := safe_run as
  generalize initial.run as = p at h
  refine ⟨?_, ?_, h.choice, fun key => ?_, fun hs bs hbs => ?_⟩
  · rw [h.threads]
    split <;> omega
  · rw [← List.length_pos_iff, h.threads]
    split
    · rename_i hs
      exact iff_of_true Nat.one_pos hs
    · rename_i hs
      exact iff_of_false (Nat.lt_irrefl 0) hs
  · rw [step]
    split
    · rfl
    · exact (mainStep_frame p key).1
  · have hno := h.no_thread hs
    induction bs with
    | nil => rfl
    | cons b bs ih =>
      obtain ⟨hb, hbs⟩ := List.forall_mem_cons.mp hbs
      have hstep : p.step b = p := by
        cases b with
        | launch => cases hb
        | main key => cases hb
        | thread i x =>
          rw [step, threadStep, hno]
          exact ite_self p
      show (p.step b).run bs = p
      rw [hstep]
      exact ih hbs

/-! Stopping the server. -/

/-- The steps that a thread takes to its end once the flag is cleared. -/
def remaining : ThreadAt → ℕ
  | .setup | .body => 3
  | .condition => 2
  | .closing => 1
  | .returned => 0

/-- `main` has seen 'q' and has not joined the thread. -/
structure Stopping (p : Process) (th : ServerThread) : Prop where
  serving : p.Serving
  flag : p.serverRunning = false
  threads : p.threads = [th]

/-- With the flag cleared every step of the thread brings it nearer to its end. -/
theorem Stopping.threadStep {p : Process} {th : ServerThread} (h : Stopping p th)
    (x : ThreadInput) (hpc : th.pc ≠ .returned) :
    ∃ th', Stopping (p.threadStep 0 x) th' ∧ remaining th'.pc < remaining th.pc := by
  obtain ⟨pc, entries⟩ := th
  have hth : p.threads[0]? = some ⟨pc, entries⟩ := by rw [h.threads]; rfl
  have hset : ∀ th' : ServerThread, p.threads.set 0 th' = [th'] := by
    intro th'
    rw [h.threads]
    rfl
  rw [Process.threadStep, hth]
  cases pc with
  | setup =>
    dsimp only
    split
    · exact ⟨_, ⟨h.serving, h.flag, hset _⟩, by simp [remaining]⟩
    · exact ⟨_, ⟨h.serving, h.flag, hset _⟩, by simp [remaining]⟩
  | condition =>
    refine ⟨⟨.closing, entries⟩, ⟨h.serving, h.flag, ?_⟩, by simp [remaining]⟩
    simp only [h.flag, Bool.false_eq_true, if_false]
    exact hset _
  | body => exact ⟨_, ⟨h.serving, h.flag, hset _⟩, by simp [remaining]⟩
  | closing => exact ⟨_, ⟨h.serving, h.flag, hset _⟩, by simp [remaining]⟩
  | returned => exact absurd rfl hpc

/-- `main` goes on to the join and waits there. -/
theorem Stopping.mainStep {p : Process} {th : ServerThread} (h : Stopping p th) (key : Key)
    (hpc : th.pc ≠ .returned) : Stopping (p.mainStep key) th := by
  rcases h.serving with hm | hm | hm
  · simp only [Process.mainStep, hm, h.flag, Bool.false_eq_true, if_false]
    exact ⟨Or.inr (Or.inl rfl), rfl, h.threads⟩
  · simp only [Process.mainStep, hm]
    exact ⟨Or.inr (Or.inr rfl), h.flag, h.threads⟩
  · obtain ⟨pc, entries⟩ := th
    cases pc with
    | returned => exact absurd rfl hpc
    | _ =>
      simp only [Process.mainStep, hm, h.threads]
      exact h

/-- Once 'q' has cleared the flag, three steps of the server thread are enough: whatever `main` does
in between and whatever the turn that was under way finds, the thread has then returned, unless the
process came to its end. -/
theorem stop_is_bounded (as : List Action) (hserving : (initial.run as).Serving)
    (hflag : (initial.run as).serverRunning = false) (bs : List Action)
    (hbs : 3 ≤ bs.countP Action.isServer) :
    ∃ bs₁ bs₂, bs = bs₁ ++ bs₂ ∧ (((initial.run as).run bs₁).finished = true ∨
      ∃ entries, ((initial.run as).run bs₁).threads = [⟨.returned, entries⟩]) := by
  have hsafe := safe_run as
  generalize initial.run as = p at hserving hflag hsafe
  obtain ⟨th, hth⟩ : ∃ th, p.threads = [th] := by
    have hone := hsafe.threads
    rw [if_pos hserving] at hone
    exact List.length_eq_one_iff.mp hone
  have hstop : Stopping p th := ⟨hserving, hflag, hth⟩
  have hleft : remaining th.pc ≤ bs.countP Action.isServer := by
    refine le_trans ?_ hbs
    cases th.pc <;> decide
  clear hsafe hserving hflag hth hbs as
  induction bs generalizing p th with
  | nil =>
    obtain ⟨pc, entries⟩ := th
    refine ⟨[], [], rfl, Or.inr ⟨entries, ?_⟩⟩
    cases pc with
    | returned => exact hstop.threads
    | _ => simp [remaining] at hleft
  | cons b bs ih =>
    by_cases hdone : p.finished = true ∨ th.pc = .returned
    · refine ⟨[], b :: bs, rfl, hdone.imp id fun hpc => ?_⟩
      obtain ⟨pc, entries⟩ := th
      cases hpc
      exact ⟨entries, hstop.threads⟩
    · obtain ⟨hfin, hpc⟩ := not_or.mp hdone
      have hgo : ∃ th', Stopping (p.step b) th' ∧
          remaining th'.pc ≤ bs.countP Action.isServer := by
        cases b with
        | launch =>
          rw [step, if_neg hfin]
          exact ⟨th, hstop, by simpa [Action.isServer] using hleft⟩
        | main key =>
          rw [step, if_neg hfin]
          exact ⟨th, hstop.mainStep key hpc, by simpa [Action.isServer] using hleft⟩
        | thread i x =>
          rw [step, if_neg hfin]
          cases i with
          | zero =>
            obtain ⟨th', hstop', hlt⟩ := hstop.threadStep x hpc
            refine ⟨th', hstop', ?_⟩
            rw [List.countP_cons_of_pos rfl] at hleft
            omega
          | succ i =>
            rw [threadStep, hstop.threads]
            exact ⟨th, hstop, by simpa [Action.isServer] using hleft⟩
      obtain ⟨th', hstop', hleft'⟩ := hgo
      obtain ⟨bs₁, bs₂, rfl, hend⟩ := ih _ _ hstop' hleft'
      exact ⟨b :: bs₁, bs₂, rfl, hend⟩

/-- The server is started and stopped right away. -/
def quitActions : List Action := [.launch, .main .enter, .main .other, .main .quit]

/-- A step of the server thread, `t` being the turn if it takes one. -/
def serverStep (t : Turn) : Action :=
  .thread 0 ⟨true, List.replicate (maxClients-1) (0, 0), Client.firstEnv, t⟩

def idleTurn : Turn := ⟨none, none, fun _ => [], fun _ => Client.firstEnv⟩

theorem stop_is_bounded_quit :
    ∃ bs₁ bs₂, List.replicate 3 (serverStep idleTurn) = bs₁ ++ bs₂ ∧
      (((initial.run quitActions).run bs₁).finished = true ∨
        ∃ entries, ((initial.run quitActions).run bs₁).threads = [⟨.returned, entries⟩]) :=
  stop_is_bounded quitActions (by decide) (by decide) _ (by decide)

/-! The databases of a process. -/

/-- The calls of `handle_request` in one turn of the loop. -/
def turnCalls (w : ServerLoop) (t : Turn) : List Request :=
  Run.trace Loop.step Loop.calls w.loop (w.events t)

/-- The events of the server's life that an action is: a start of the server, which a new process
makes with a cleared cache, or the requests of a turn. -/
def lifeEvents (p : Process) : Action → List LifeEvent
  | .thread i x =>
    if p.finished then []
    else match p.threads[i]? with
      | some ⟨.setup, _⟩ => if x.listens then [.start (!p.visited) x.env] else []
      | some ⟨.body, entries⟩ => (turnCalls (p.view entries) x.turn).map .request
      | _ => []
  | _ => []

/-- `accept` returns a descriptor that is not open. -/
def NewDescriptors (p : Process) : Action → Prop
  | .thread _ x => ∀ y ∈ x.turn.accepted, (p.connections.any fun c => c.fd = y.1) = false
  | _ => True

instance (p : Process) (a : Action) : Decidable (NewDescriptors p a) :=
  match a with
  | .thread _ x => inferInstanceAs (Decidable (∀ y ∈ x.turn.accepted, _))
  | .launch => isTrue trivial
  | .main _ => isTrue trivial

/-- The process has the databases of the server's life, and from its first start on the cache. -/
structure Lives (p : Process) (v : Server) : Prop where
  databases : p.server.state = { v.state with activeUsers := p.server.state.activeUsers }
  started : p.visited = true → p.server = v
  cleared : p.visited = false → p.server.state.activeUsers = .empty

theorem lives_initial : Lives initial Life.initial := ⟨rfl, nofun, fun _ => rfl⟩

theorem Lives.of_eq {p p' : Process} {v : Server} (h : Lives p v) (hs : p'.server = p.server)
    (hv : p'.visited = p.visited) : Lives p' v :=
  ⟨hs ▸ h.databases, fun hv' => hs.trans (h.started (hv ▸ hv')),
    fun hv' => hs ▸ h.cleared (hv ▸ hv')⟩

theorem Lives.of_server {p : Process} {v : Server} (hv : p.visited = true) (h : p.server = v) :
    Lives p v :=
  ⟨by rw [h], fun _ => h, fun hv' => absurd hv (by rw [hv']; exact Bool.false_ne_true)⟩

theorem Lives.launch {p : Process} {v : Server} (h : Lives p v) : Lives p.launch v where
  databases := by
    change { p.server.state with activeUsers := .empty } = _
    rw [h.databases]
    rfl
  started := nofun
  cleared _ := rfl

/-- The state in which the server is started is that of its life. -/
theorem Lives.entered {p : Process} {v : Server} (h : Lives p v) (hrun : p.server.running = true) :
    Life.entered v (!p.visited) = p.server.state := by
  cases hv : p.visited with
  | true =>
    have hs := h.started hv
    rw [Life.entered, ← hs, hrun]
    rfl
  | false =>
    rw [Life.entered, Bool.not_false, Bool.true_or, if_pos rfl, h.databases, h.cleared hv]

/-- Requests in the life of a server are a run of it. -/
theorem life_requests (v : Server) (rs : List Request) :
    Run.run Life.step v (rs.map .request) = v.run rs := by
  rw [Run.run, List.foldl_map]
  rfl

theorem server_turn {w : ServerLoop} {t : Turn} (hnew : w.NewDescriptor t) :
    (w.turn t).server = w.server.run (turnCalls w t) := by
  have hloop := congrArg Loop.server (ServerLoop.loop_turn hnew)
  rw [Loop.server_run] at hloop
  exact hloop

theorem Lives.threadStep {p : Process} {v : Server} (hsafe : Safe p) (h : Lives p v)
    (hfin : p.finished = false) (i : ℕ) (x : ThreadInput) (hnew : NewDescriptors p (.thread i x)) :
    Lives (p.threadStep i x) (Run.run Life.step v (p.lifeEvents (.thread i x))) := by
  have hrun : p.server.running = true := by
    simp only [finished, Bool.or_eq_false_iff, Bool.not_eq_false'] at hfin
    exact hfin.2
  rw [Process.threadStep, lifeEvents, hfin, if_neg Bool.false_ne_true]
  cases hth : p.threads[i]? with
  | none => exact h
  | some th =>
    obtain ⟨pc, entries⟩ := th
    cases pc with
    | setup =>
      dsimp only
      split
      · have hstart : (⟨startUp x.env p.server.state, true⟩ : Server) =
            Life.step v (.start (!p.visited) x.env) := by
          rw [Life.step, h.entered hrun]
        exact .of_server rfl hstart
      · exact h.of_eq rfl rfl
    | condition => exact h.of_eq rfl rfl
    | body =>
      have hvis : p.visited = true :=
        hsafe.visited _ (List.mem_of_getElem? hth) (Or.inr rfl)
      have hturn : ((p.view entries).turn x.turn).server =
          Run.run Life.step v ((turnCalls (p.view entries) x.turn).map .request) := by
        rw [life_requests, ← h.started hvis]
        exact server_turn hnew
      exact .of_server hvis hturn
    | closing => exact h.of_eq rfl rfl
    | returned => exact h

theorem Lives.step {p : Process} {v : Server} (hsafe : Safe p) (h : Lives p v) (a : Action)
    (hnew : NewDescriptors p a) : Lives (p.step a) (Run.run Life.step v (p.lifeEvents a)) := by
  cases a with
  | launch =>
    rw [Process.step]
    split
    · exact h.launch
    · exact h
  | main key =>
    rw [Process.step]
    split
    · exact h
    · obtain ⟨hs, _, _, hv⟩ := mainStep_frame p key
      exact h.of_eq hs hv
  | thread i x =>
    rw [Process.step]
    cases hfin : p.finished with
    | true =>
      rw [lifeEvents, hfin]
      exact h
    | false => exact h.threadStep hsafe hfin i x hnew

/-- All actions of a run. -/
theorem Lives.run {p : Process} {v : Server} (hsafe : Safe p) (h : Lives p v) {as : List Action}
    (has : Run.Along Process.step NewDescriptors p as) :
    Lives (p.run as) (Run.run Life.step v (Run.trace Process.step lifeEvents p as)) := by
  refine (Run.forward (R := fun p v => Safe p ∧ Lives p v) (C := NewDescriptors) ?_
    ⟨hsafe, h⟩ has).2
  rintro p v a ⟨hsafe, hlives⟩ hnew
  exact ⟨hsafe.step a, hlives.step hsafe a hnew⟩

/-- Whatever the order in which the threads of one process after the other take their steps, the
databases are those of the server's life: of its starts, each with the cache cleared by a new
process or kept by the same one, and of the requests of its turns. So what holds of the databases
in every life holds of them in every process. -/
theorem process_lives (as : List Action)
    (has : Run.Along Process.step NewDescriptors initial as) :
    Lives (initial.run as) (Life.run (Run.trace Process.step lifeEvents initial as)) :=
  Lives.run safe_initial lives_initial has

/-- A process in which the server is started and a client connects and logs in. -/
def servingActions : List Action :=
  [.launch, .main .enter, .main .other, serverStep idleTurn] ++
    ServerLoop.visitTurns.flatMap fun t => [serverStep idleTurn, serverStep t]

theorem process_lives_serving : Lives (initial.run servingActions)
    (Life.run (Run.trace Process.step lifeEvents initial servingActions)) :=
  process_lives servingActions (by decide +kernel)

end Process

end ChatServer
