import ChatServer.Lib.Simulation
import ChatServer.Malformed

/-!
# The journal of a run

Most requests leave nothing behind: those that only read, and those that are answered with an error.
Replaying the others, in their order, leads to the same databases and the same cache, and each of
them gets the same answer again.
-/

namespace ChatServer

open CLib

/-- The results behind which a handler may have stored something: success; for an update also 500,
when the channel is gone behind the first of its two store operations; for a login also 9, when the
user has another session at another address. -/
def RequestKind.stores : RequestKind → Int → Bool
  | .readChannel, _ | .readMessage, _ => false
  | .updateChannel, n => n = 0 || n = errorChannel500
  | .login, n => n = 0 || n = terminateAndRestablishConnection
  | _, n => n = 0

/-- A handler that returns any other result leaves the state as it was. -/
def Outcome.Refusing (s : State) (stores : Int → Bool) (o : Outcome) : Prop :=
  ∀ reply, o.value = .ok reply → stores reply.result = false → o.state = s

/-- The request goes into the journal: it may have stored something, or the server stopped over
it. -/
def Request.kept (r : Request) (s : State) : Bool :=
  !(handleRequest s r).returned ||
    match r.decode with
    | .stop _ _ => false
    | .serve k _ _ => (r.result s).any k.stores

/-- What a step adds to the journal. -/
def journal (v : Server) (r : Request) : List Request :=
  if v.running && r.kept v.state then [r] else []

/-- The call that a step makes. -/
def called (v : Server) (r : Request) : List Call :=
  if v.running then [handleRequest v.state r] else []

section Refused

variable {s s' : State} {stores : Int → Bool} {n : ℕ} {bytes : List UInt8}

theorem refusing_of_eq {o : Outcome} (h : o.state = s) : o.Refusing s stores := fun _ _ _ => h

theorem refusing_reply {m : Int} (h : stores m = true) (token : Str) :
    (Outcome.reply s' m token).Refusing s stores := by
  intro reply hv hno
  cases hv
  rw [h] at hno
  cases hno

theorem createUser_refusing (env : Env) :
    (readAndCreateUser s env n bytes).Refusing s (RequestKind.stores .createUser) := by
  unfold readAndCreateUser
  dsimp only
  repeat' split
  all_goals first | exact refusing_of_eq rfl | exact refusing_reply rfl _

theorem destroyUser_refusing (fd : ℕ) :
    (readAndDestroyUser s fd n bytes).Refusing s (RequestKind.stores .destroyUser) := by
  unfold readAndDestroyUser removeUser
  dsimp only
  repeat' split
  all_goals first | exact refusing_of_eq rfl | exact refusing_reply rfl _

theorem createChannel_refusing (env : Env) (addr : IpAddr) :
    (readAndCreateChannel s env addr n bytes).Refusing s (RequestKind.stores .createChannel) := by
  unfold readAndCreateChannel storeNewChannel
  repeat' split
  all_goals first | exact refusing_of_eq rfl | exact refusing_reply rfl _

theorem applyUpdate_refusing (env : Env) (u : UpdateRequest) :
    (applyUpdate s env u).Refusing s (RequestKind.stores .updateChannel) := by
  unfold applyUpdate
  dsimp only
  repeat' split
  all_goals exact refusing_reply rfl _

theorem updateChannel_refusing (env : Env) :
    (readAndUpdateChannel s env n bytes).Refusing s (RequestKind.stores .updateChannel) := by
  unfold readAndUpdateChannel
  repeat' split
  all_goals first | exact refusing_of_eq rfl | exact applyUpdate_refusing env _

theorem createMessage_refusing (env : Env) :
    (readAndCreateMessage s env n bytes).Refusing s (RequestKind.stores .createMessage) := by
  unfold readAndCreateMessage storeNewMessage
  repeat' split
  all_goals
    first
      | exact refusing_of_eq rfl
      | intro reply hv hno
        cases hv
        cases hno

theorem login_refusing (env : Env) (fd : ℕ) (addr : IpAddr) :
    (readAndLoginUser s env fd addr n bytes).Refusing s (RequestKind.stores .login) := by
  unfold readAndLoginUser loginAccount openSession
  dsimp only
  repeat' split
  all_goals
    first
      | exact refusing_of_eq rfl
      | exact refusing_reply rfl _
      | exact fun _ hv => by cases hv

theorem logout_refusing (addr : IpAddr) :
    (readAndLogoutUser s addr n bytes).Refusing s (RequestKind.stores .logout) := by
  unfold readAndLogoutUser
  dsimp only
  repeat' split
  all_goals first | exact refusing_of_eq rfl | exact refusing_reply rfl _

/-- The nine handlers. -/
theorem runHandler_refusing (k : RequestKind) (r : Request) :
    (runHandler k s r n bytes).Refusing s k.stores := by
  cases k with
  | createUser => exact createUser_refusing r.env
  | destroyUser => exact destroyUser_refusing r.fd
  | createChannel => exact createChannel_refusing r.env r.clntAddr
  | readChannel => exact refusing_of_eq readChannel_state
  | updateChannel => exact updateChannel_refusing r.env
  | createMessage => exact createMessage_refusing r.env
  | readMessage => exact refusing_of_eq readMessage_state
  | login => exact login_refusing r.env r.fd r.clntAddr
  | logout => exact logout_refusing r.clntAddr

/-- A request that is not kept is answered and changes nothing. -/
theorem handleRequest_of_not_kept {r : Request} (h : r.kept s = false) :
    (handleRequest s r).state = s ∧ (handleRequest s r).returned = true := by
  rw [Request.kept, Bool.or_eq_false_iff, Bool.not_eq_false'] at h
  obtain ⟨hret, hkept⟩ := h
  refine ⟨?_, hret⟩
  cases hd : r.decode with
  | stop ret rest => rw [handleRequest, hd]
  | serve k header rest =>
    by_cases hlen : (rest.take header.bodySize).length ≤ defaultBuffer
    · rw [handleRequest_state hd hlen]
      rw [Request.result, hd] at hkept
      dsimp only at hkept
      cases hv : (runHandler k s r header.bodySize (rest.take header.bodySize)).value with
      | ok reply =>
        rw [hv] at hkept
        exact runHandler_refusing k r reply hv hkept
      | error f =>
        -- a handler that does not return keeps the call from returning
        rw [handleRequest, hd] at hret
        simp only [serve, if_neg (Nat.not_lt.mpr hlen), hv] at hret
        cases hret
    · rw [handleRequest, hd]
      dsimp only
      rw [serve, if_pos (Nat.lt_of_not_le hlen)]

end Refused

/-- What is not in the journal leaves no trace. -/
theorem run_journal (v : Server) (r : Request) :
    Run.run Server.step v (journal v r) = v.step r := by
  rw [journal]
  split
  · rfl
  · rename_i h
    cases hrun : v.running with
    | false => exact (Server.step_stopped r hrun).symm
    | true =>
      rw [hrun, Bool.true_and, Bool.not_eq_true] at h
      obtain ⟨hstate, hret⟩ := handleRequest_of_not_kept h
      rw [Server.step_running r hrun, hstate, hret, ← hrun]
      rfl

/-- Recovery: replaying the journal of a run, from the server it began with, leads to the server it
ended with, and every request in the journal is answered as it was in the run. -/
theorem journal_recovers (v : Server) (rs : List Request) :
    v.run (Run.trace Server.step journal v rs) = v.run rs ∧
      Run.trace Server.step called v (Run.trace Server.step journal v rs) =
        Run.trace Server.step (fun v r => if r.kept v.state then called v r else []) v rs := by
  refine ⟨Run.run_trace run_journal v rs, Run.trace_trace run_journal (fun v r => ?_) v rs⟩
  rw [journal]
  cases hrun : v.running with
  | false => simp [Run.trace, called, hrun]
  | true => cases r.kept v.state <;> simp [Run.trace, called]

end ChatServer
