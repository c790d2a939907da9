import ChatServer.Invariant.Keyed

/-!
# The life of a server

Databases outlive the process that writes them. `run_server` is entered with the databases as
they are, and it may be entered again: by a new process, whose `main` clears the session cache,
or from the menu of the same one, which keeps the cache. A life is a list of such starts and of
requests, in any order, from empty databases on.
-/

namespace ChatServer

open CLib

inductive LifeEvent where
  | start (newProcess : Bool) (env : Env)
  | request (r : Request)

def LifeEvent.env : LifeEvent → Env
  | .start _ env => env
  | .request r => r.env

def globalName : Name := CharArray.strncpy _ (ascii "global")

def adminPassword : Password := CharArray.strncpy _ (ascii "admin")

/-- The state after `create_admin` found the display name free. -/
abbrev State.withAdmin (s : State) : State :=
  s.withUser adminUuid adminName adminName adminPassword

/-- The state after `create_global_channel` found no channel of the name. -/
abbrev State.withGlobal (s : State) (env : Env) : State :=
  s.insertChannelInfo (createChannel env.uuid globalName adminName false)

theorem createAdmin_cases (s : State) :
    (s.displayNames.lookup adminName ≠ none ∧ s.createAdmin = s) ∨
      s.displayNames.lookup adminName = none ∧ s.createAdmin = s.withAdmin := by
  rw [State.createAdmin, State.checkDuplicateDisplayName]
  cases h : s.displayNames.lookup adminName with
  | none => exact Or.inr ⟨rfl, rfl⟩
  | some u => exact Or.inl ⟨Option.some_ne_none u, rfl⟩

theorem createGlobalChannel_cases (s : State) (env : Env) :
    (s.getChannelInfo env globalName ≠ none ∧ s.createGlobalChannel env = s) ∨
      s.getChannelInfo env globalName = none ∧ s.createGlobalChannel env = s.withGlobal env := by
  rw [State.createGlobalChannel, State.checkDuplicateChannelName]
  cases h : s.getChannelInfo env globalName with
  | none => exact Or.inr ⟨rfl, by rw [← globalName, h]; rfl⟩
  | some c => exact Or.inl ⟨Option.some_ne_none c, by rw [← globalName, h]; rfl⟩

/-- The uuid generated for an event is new. -/
def FreshEvent (s : State) (e : LifeEvent) : Prop :=
  e.env.uuid ≠ adminUuid ∧ e.env.uuid ∉ s.uuids

instance (s : State) (e : LifeEvent) : Decidable (FreshEvent s e) :=
  inferInstanceAs (Decidable (_ ∧ _))

theorem FreshEvent.no_channel {s : State} {e : LifeEvent} (h : FreshEvent s e) :
    s.channelInfo.lookup e.env.uuid = none := by
  rw [AList.lookup_eq_none]
  intro hm
  have hm : e.env.uuid ∈ s.channelInfo.keys := hm
  exact h.2 (by simp [State.uuids, hm])

theorem FreshEvent.request {s : State} {r : Request} (h : FreshEvent s (.request r)) :
    FreshUuid s r := h

namespace Life

/-- Databases that were never opened, and no process. -/
def initial : Server := ⟨.fresh, false⟩

/-- The state in which `run_server` is entered. A process that ended is not entered again. -/
def entered (v : Server) (newProcess : Bool) : State :=
  if newProcess || !v.running then { v.state with activeUsers := .empty } else v.state

def step (v : Server) : LifeEvent → Server
  | .start newProcess env => ⟨startUp env (entered v newProcess), true⟩
  | .request r => v.step r

abbrev run (es : List LifeEvent) : Server := Run.run step initial es

/-- Requests are only served while a process runs. -/
def happens (v : Server) : LifeEvent → Bool
  | .start _ _ => true
  | .request _ => v.running

/-- Every start, and every request that is served, meets `C` in the state it happens in. -/
abbrev Along (C : State → LifeEvent → Prop) (v : Server) (es : List LifeEvent) : Prop :=
  Run.Along step (fun v e => happens v e = true → C v.state e) v es

/-- What a start makes of the databases: the cache may be cleared, the administrator and the
global channel may be added. -/
theorem start_induction {I : State → Prop} (v : Server) (newProcess : Bool) (env : Env)
    (hclear : I v.state → I { v.state with activeUsers := .empty })
    (hadmin : ∀ s, I s → s.displayNames.lookup adminName = none → I s.withAdmin)
    (hglobal : ∀ s, I s → s.channelInfo = v.state.channelInfo →
      s.getChannelInfo env globalName = none → I (s.withGlobal env))
    (h : I v.state) : I (step v (.start newProcess env)).state := by
  have he : I (entered v newProcess) ∧
      (entered v newProcess).channelInfo = v.state.channelInfo := by
    rw [entered]
    split
    · exact ⟨hclear h, rfl⟩
    · exact ⟨h, rfl⟩
  have ha : I (entered v newProcess).createAdmin ∧
      (entered v newProcess).createAdmin.channelInfo = v.state.channelInfo := by
    obtain ⟨_, heq⟩ | ⟨hfree, heq⟩ := createAdmin_cases (entered v newProcess)
    · rw [heq]; exact he
    · rw [heq]; exact ⟨hadmin _ he.1 hfree, he.2⟩
  show I ((entered v newProcess).createAdmin.createGlobalChannel env)
  obtain ⟨_, heq⟩ | ⟨hfree, heq⟩ :=
    createGlobalChannel_cases (entered v newProcess).createAdmin env
  · rw [heq]; exact ha.1
  · rw [heq]; exact hglobal _ ha.1 ha.2 hfree

/-- A request that is served has one of the effects of a call. -/
theorem step_request (v : Server) (r : Request) :
    (v.running = false ∧ step v (.request r) = v) ∨
      (v.running = true ∧ (step v (.request r)).state = (handleRequest v.state r).state ∧
        Effect v.state r (step v (.request r)).state (step v (.request r)).running) := by
  cases hr : v.running with
  | false => exact Or.inl ⟨rfl, Server.step_stopped r hr⟩
  | true =>
    right
    rw [show step v (.request r) = v.step r from rfl, Server.step_running r hr]
    exact ⟨rfl, rfl, handleRequest_effect v.state r⟩

theorem keyed_step {v : Server} (h : KeyedState v.state) (e : LifeEvent) :
    KeyedState (step v e).state := by
  cases e with
  | start newProcess env =>
    refine start_induction v newProcess env ?_ ?_ ?_ h
    · exact fun h => ⟨h.logins, h.accounts, h.channels, h.named⟩
    · intro s h _
      exact ⟨h.logins.insert (generateUserLogin adminName adminPassword adminUuid),
        h.accounts.insert (generateUserAccount adminUuid adminName), h.channels,
        h.named.insert rfl⟩
    · exact fun s h _ _ => h.insertChannelInfo _
  | request r =>
    obtain ⟨_, he⟩ | ⟨_, _, he⟩ := step_request v r
    · rw [he]; exact h
    · exact h.effect he

theorem keyedState_fresh : KeyedState .fresh :=
  ⟨Dbm.All.empty _, Dbm.All.empty _, Dbm.All.empty _, Dbm.All.empty _⟩

/-- Records are stored under their own keys in every state of every life. -/
theorem keyed_run (es : List LifeEvent) : KeyedState (run es).state := by
  have hrun : ∀ (v : Server), KeyedState v.state → KeyedState (Run.run step v es).state := by
    induction es with
    | nil => exact fun v h => h
    | cons e es ih => exact fun v h => ih (step v e) (keyed_step h e)
  exact hrun initial keyedState_fresh

/-- The rule for an invariant of the databases over lives in which every generated uuid is new. -/
theorem invariant {I : State → Prop} {C : State → LifeEvent → Prop}
    (hfresh : ∀ s e, C s e → FreshEvent s e)
    (hclear : ∀ s, I s → I { s with activeUsers := .empty })
    (hadmin : ∀ s, I s → s.displayNames.lookup adminName = none → I s.withAdmin)
    (hglobal : ∀ s env, I s → s.channelInfo.lookup env.uuid = none →
      s.getChannelInfo env globalName = none → I (s.withGlobal env))
    (hstep : ∀ s r s' b, KeyedState s → I s → C s (.request r) → Effect s r s' b → I s')
    {v : Server} (hk : KeyedState v.state) (h0 : I v.state) {es : List LifeEvent}
    (hes : Along C v es) :
    KeyedState (Run.run step v es).state ∧ I (Run.run step v es).state := by
  refine Run.invariant (I := fun v => KeyedState v.state ∧ I v.state) ?_ ⟨hk, h0⟩ hes
  rintro v e ⟨hk, hi⟩ hc
  refine ⟨keyed_step hk e, ?_⟩
  cases e with
  | start newProcess env =>
    refine start_induction v newProcess env (hclear _) hadmin ?_ hi
    intro s hs hch hnone
    refine hglobal s env hs ?_ hnone
    rw [hch]
    exact (hfresh _ _ (hc rfl)).no_channel
  | request r =>
    obtain ⟨_, he⟩ | ⟨hr, _, he⟩ := step_request v r
    · rw [he]; exact hi
    · exact hstep _ _ _ _ hk hi (hc hr) he

end Life

end ChatServer
