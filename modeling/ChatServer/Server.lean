import ChatServer.Effect
import ChatServer.Lib.Run

/-!
# Runs of the server

The server is its state and whether the process still runs: a call that does not return ends it.
`Server.step` serves one request, whatever connection and address it comes from; a run starts
with the databases that `create_admin` and `create_global_channel` leave.
-/

namespace ChatServer

open CLib

structure Server where
  state : State
  running : Bool

/-- What `run_server` does to the databases before its loop. -/
def startUp (env : Env) (s : State) : State := s.createAdmin.createGlobalChannel env

/-- The server after start-up with empty databases and an empty cache. -/
def Server.started (env : Env) : Server := ⟨startUp env .fresh, true⟩

def Server.step (v : Server) (r : Request) : Server :=
  if v.running then ⟨(handleRequest v.state r).state, (handleRequest v.state r).returned⟩ else v

abbrev Server.run (v : Server) (rs : List Request) : Server := Run.run Server.step v rs

/-- Every request that is served meets `C` in the state it is served in. -/
abbrev Server.Along (C : State → Request → Prop) (v : Server) (rs : List Request) : Prop :=
  Run.Along Server.step (fun v r => v.running = true → C v.state r) v rs

theorem Server.along_of_forall {P : Request → Prop} {rs : List Request} (h : ∀ r ∈ rs, P r)
    (v : Server) : Server.Along (fun _ r => P r) v rs :=
  Run.along_of_forall (C := fun v r => v.running = true → P r) (fun _ r hr _ => h r hr) v

/-- Every uuid that occurs in the state. -/
def State.uuids (s : State) : List Uuid :=
  s.userAccountInfo.keys ++ s.userLoginInfo.entries.map (·.2.uuid) ++
    s.displayNames.entries.map (·.2) ++ s.channelInfo.keys ++ s.messagesInfo.keys ++
    s.messagesInfo.entries.flatMap (fun e => [e.2.userId, e.2.channelId]) ++
    s.activeUsers.live.map (·.uuid)

/-- The uuid generated for a request is new. -/
def FreshUuid (s : State) (r : Request) : Prop :=
  r.env.uuid ≠ adminUuid ∧ r.env.uuid ∉ s.uuids

instance (s : State) (r : Request) : Decidable (FreshUuid s r) :=
  inferInstanceAs (Decidable (_ ∧ _))

section Fresh

variable {s : State} {r : Request} (h : FreshUuid s r)
include h

theorem FreshUuid.no_account : s.userAccountInfo.lookup r.env.uuid = none := by
  rw [AList.lookup_eq_none]
  intro hm
  have hm : r.env.uuid ∈ s.userAccountInfo.keys := hm
  exact h.2 (by simp [State.uuids, hm])

theorem FreshUuid.session {u : ConnectedUser} (hu : u ∈ s.activeUsers.live) :
    u.uuid ≠ r.env.uuid := by
  intro he
  have hm : u.uuid ∈ s.activeUsers.live.map (·.uuid) := List.mem_map_of_mem hu
  rw [he] at hm
  exact h.2 (by simp only [State.uuids, List.mem_append, hm, or_true])

end Fresh

theorem Server.step_running {v : Server} (r : Request) (h : v.running = true) :
    v.step r = ⟨(handleRequest v.state r).state, (handleRequest v.state r).returned⟩ := if_pos h

theorem Server.step_stopped {v : Server} (r : Request) (h : v.running = false) : v.step r = v := by
  rw [Server.step, h]; rfl

/-- An invariant of the databases holds in every state of a run, also in the one in which the
process stopped. -/
theorem Server.invariant {I : State → Prop} {C : State → Request → Prop}
    (hstep : ∀ s r s' b, I s → C s r → Effect s r s' b → I s') {v : Server} (h0 : I v.state)
    {rs : List Request} (hrs : Server.Along C v rs) : I (v.run rs).state := by
  refine Run.invariant (I := fun v => I v.state) ?_ h0 hrs
  intro v r hv hc
  cases hr : v.running with
  | false => rw [Server.step_stopped r hr]; exact hv
  | true =>
    rw [Server.step_running r hr]
    exact hstep _ _ _ _ hv (hc hr) (handleRequest_effect v.state r)

/-- An invariant of the running server holds in every state of a run in which it still runs. -/
theorem Server.invariant_running {I : State → Prop} {C : State → Request → Prop}
    (hstep : ∀ s r s', I s → C s r → Effect s r s' true → I s') {v : Server} (h0 : I v.state)
    {rs : List Request} (hrs : Server.Along C v rs) (hrun : (v.run rs).running = true) :
    I (v.run rs).state := by
  refine Run.invariant (I := fun v => v.running = true → I v.state) ?_ (fun _ => h0) hrs hrun
  intro v r hv hc
  cases hr : v.running with
  | false => rw [Server.step_stopped r hr, hr]; exact fun h => by cases h
  | true =>
    rw [Server.step_running r hr]
    intro hret
    have he := handleRequest_effect v.state r
    rw [show (handleRequest v.state r).returned = true from hret] at he
    exact hstep _ _ _ (hv hr) (hc hr) he

/-! Requests as a client writes them, for runs on concrete inputs. -/

namespace Client

def uuid (text : String) : Uuid := CharArray.strncpy _ (ascii text)

def address (text : String) : IpAddr := CharArray.strncpy _ (ascii text)

/-- An environment with keys in the order of the map and a zeroed heap. -/
def env (u : String) : Env := ⟨uuid u, .listed _ _, .listed _ _, [], .little⟩

def body (fs : List String) : List UInt8 := fs.flatMap fun f => ascii f ++ [etx]

def dispatch (type : Fin 16) (object : Fin 256) (fs : List String) : List UInt8 :=
  headerBytes .big ⟨currentVersion, type, object, Fin.ofNat _ (body fs).length⟩ ++ body fs

/-- A request from `fd` at `addr`; `u` is the uuid generated for it, if it needs one. -/
def request (fd : ℕ) (addr : String) (type : Fin 16) (object : Fin 256) (fs : List String)
    (u : String) : Request :=
  ⟨fd, address addr, dispatch type object fs, env u⟩

def firstEnv : Env := env "11111111-1111-1111-1111-111111111111"

/-- The server right after its first start-up. -/
def start : Server := .started firstEnv

def createUser (fd : ℕ) (addr token name password u : String) : Request :=
  request fd addr 1 1 [token, name, password] u

def destroyUser (fd : ℕ) (addr name token password : String) : Request :=
  request fd addr 4 1 [name, token, password] "99999999-9999-9999-9999-999999999999"

def login (fd : ℕ) (addr token password : String) : Request :=
  request fd addr 1 4 [token, password] "99999999-9999-9999-9999-999999999999"

def logout (fd : ℕ) (addr name : String) : Request :=
  request fd addr 4 4 [name] "99999999-9999-9999-9999-999999999999"

def createChannel (fd : ℕ) (addr name displayName publicity u : String) : Request :=
  request fd addr 1 2 [name, displayName, publicity] u

def renameChannel (fd : ℕ) (addr old new : String) : Request :=
  request fd addr 3 2 [old, "1", new, "0", "0", "0", "0"] "99999999-9999-9999-9999-999999999999"

def addMember (fd : ℕ) (addr channel name : String) : Request :=
  request fd addr 3 2 [channel, "0", "0", "1", "1", name, "0", "0"]
    "99999999-9999-9999-9999-999999999999"

def createMessage (fd : ℕ) (addr name channel content stamp u : String) : Request :=
  request fd addr 1 3 [name, channel, content, stamp] u

def readMessages (fd : ℕ) (addr channel number : String) : Request :=
  request fd addr 2 3 [channel, number] "99999999-9999-9999-9999-999999999999"

/-- A user is created, logs in and destroys itself. -/
def leavingRun : List Request :=
  [createUser 5 "10.0.0.1" "bobt" "bob" "pw" "22222222-2222-2222-2222-222222222222",
    login 5 "10.0.0.1" "bobt" "pw",
    destroyUser 5 "10.0.0.1" "bob" "bobt" "pw"]

end Client

end ChatServer
