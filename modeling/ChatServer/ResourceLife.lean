import ChatServer.ChannelUpdate
import ChatServer.Leaks

/-!
# The ledger of a life

What calls, starts and whole lives take, use and give back. Every ledger balances; what is left
grows with almost every request, and one kind of request leaves a database open.
-/

namespace ChatServer

open CLib Ledger

namespace Resources

section Calls

variable {s : State} {r : Request} {env : Env} {n : ℕ} {bytes : List UInt8}

/-- What a handler of kind `k` leaves when it returns `result`. -/
def leftByHandler (k : RequestKind) (s : State) (r : Request) (n : ℕ) (bytes : List UInt8)
    (result : Int) : List Resource :=
  match k with
  | .createUser | .readChannel => []
  | .destroyUser => if bodyIncomplete n bytes then [] else leftByDestroy s r.fd bytes
  | .createChannel =>
    if result = errorChannel404 ∨ result = errorChannel403 ∨ result = errorChannel409 then
      [.disNameInCache]
    else []
  | .updateChannel => if bodyIncomplete n bytes then [] else leftByUpdate s r.env bytes
  | .createMessage =>
    if result = 0 then [.clntUuid, .message, .messageUuid, .userLogin] else []
  | .readMessage => if result = 0 then leftByRead s r.env bytes else []
  | .login =>
    if result = 0 then [.responseBody]
    else if result = terminateAndRestablishConnection then loginHeld else []
  | .logout =>
    if result = errorLogoutUserMismatchAddress ∨ result = errorLogoutAdminUserNotOnline then
      [.userAccount]
    else []

/-- The update is one that `add_users_on_channel` returns from early. -/
def KeepsOpen (k : RequestKind) (s : State) (env : Env) (n : ℕ) (bytes : List UInt8) : Prop :=
  k = .updateChannel ∧ bodyIncomplete n bytes = false ∧ ∃ u, parseUpdate (fields bytes) = .ok u ∧
    (s.getChannelInfo env u.channelName).isSome = true ∧ staysOpen s env u = true

theorem mem_leftByUpdate {w : Wrapper} : Resource.db w ∈ leftByUpdate s env bytes ↔
    w = .addUsersOnChannel ∧ ∃ u, parseUpdate (fields bytes) = .ok u ∧
      (s.getChannelInfo env u.channelName).isSome = true ∧ staysOpen s env u = true := by
  rw [leftByUpdate]
  cases parseUpdate (fields bytes) with
  | error e => simp
  | ok u =>
    dsimp only
    by_cases hc : (s.getChannelInfo env u.channelName).isSome = true
    · simp [hc, mem_kept, and_comm]
    · simp [hc]

theorem runHandler_settled (k : RequestKind) (s : State) (r : Request) (n : ℕ)
    (bytes : List UInt8) :
    ∃ left, balance [] (runHandler k s r n bytes) = some left ∧
      (∀ w, Resource.db w ∈ left ↔ w = .addUsersOnChannel ∧ KeepsOpen k s r.env n bytes) ∧
      ∀ reply, (ChatServer.runHandler k s r n bytes).value = .ok reply →
        left = leftByHandler k s r n bytes reply.result := by
  have hsettled : ∀ {us left}, k ≠ .updateChannel → Settled us left → balance [] us = some left ∧
      ∀ w, Resource.db w ∈ left ↔ w = .addUsersOnChannel ∧ KeepsOpen k s r.env n bytes :=
    fun hk h => ⟨h.balance, fun w => iff_of_false (h.closed w) fun h => hk h.2.1⟩
  cases k with
  | createUser =>
    obtain ⟨hus, hdb⟩ := hsettled (by decide) (createUser_settled s n bytes)
    exact ⟨[], hus, hdb, fun _ _ => rfl⟩
  | destroyUser =>
    obtain ⟨hus, hdb⟩ := hsettled (by decide) (destroyUser_settled s n bytes r.fd)
    exact ⟨_, hus, hdb, fun _ _ => rfl⟩
  | createChannel =>
    obtain ⟨left, h, hleft⟩ := createChannel_settled s r.env n bytes r.clntAddr
    obtain ⟨hus, hdb⟩ := hsettled (by decide) h
    exact ⟨left, hus, hdb, hleft⟩
  | readChannel =>
    obtain ⟨hus, hdb⟩ := hsettled (by decide) (readChannel_settled s r.env n bytes)
    exact ⟨[], hus, hdb, fun _ _ => rfl⟩
  | updateChannel =>
    refine ⟨_, balance_updateChannel s r.env n bytes, fun w => ?_, fun _ _ => rfl⟩
    cases hn : bodyIncomplete n bytes with
    | true => simp [KeepsOpen, hn]
    | false =>
      rw [if_neg Bool.false_ne_true, mem_leftByUpdate, KeepsOpen, hn]
      simp
  | createMessage =>
    obtain ⟨left, h, hleft⟩ := createMessage_settled s r.env n bytes
    obtain ⟨hus, hdb⟩ := hsettled (by decide) h
    exact ⟨left, hus, hdb, hleft⟩
  | readMessage =>
    obtain ⟨left, h, hleft⟩ := readMessage_settled s r.env bytes
    obtain ⟨hus, hdb⟩ := hsettled (by decide) h
    exact ⟨left, hus, hdb, hleft⟩
  | login =>
    obtain ⟨left, h, hleft⟩ := login_settled s r.env r.fd r.clntAddr n bytes
    obtain ⟨hus, hdb⟩ := hsettled (by decide) h
    exact ⟨left, hus, hdb, hleft⟩
  | logout =>
    obtain ⟨left, h, hleft⟩ := logout_settled s n bytes r.clntAddr
    obtain ⟨hus, hdb⟩ := hsettled (by decide) h
    exact ⟨left, hus, hdb, hleft⟩

/-- What a call of `handle_request` that returns leaves. -/
def leftByCall (s : State) (r : Request) : List Resource :=
  match r.decode with
  | .stop _ _ => []
  | .serve k header rest =>
    let bytes := rest.take header.bodySize
    let out := ChatServer.runHandler k s r header.bodySize bytes
    match out.value with
    | .error _ => []
    | .ok reply =>
      leftByHandler k s r header.bodySize bytes reply.result ++
        kept .currentChannel (k = .createMessage ∧ reply.result ≠ createMessageAck ∧
          (out.state.getChannelInfo r.env (CharArray.strncpy _ reply.token)).isSome = true)

/-- A request to update a channel that renames the only channel of its name and goes on to look it
up by that name. -/
def LeavesOpen (s : State) (r : Request) : Prop :=
  ∃ u c, updateTarget s r = some u ∧ s.getChannelInfo r.env u.channelName = some c ∧
    (u.isChangeName || u.isChangePublicity) = true ∧ u.newChannelName ≠ u.channelName ∧
    u.users.alter ≠ 48 ∧
    ∀ k d, s.channelInfo.lookup k = some d → d.channelName = u.channelName → k = c.channelId

theorem staysOpen_iff {u : UpdateRequest} {c : ChannelInfo}
    (hc : s.getChannelInfo env u.channelName = some c) (hreg : namesRegistered s u = true) :
    staysOpen s env u = true ↔ (u.isChangeName || u.isChangePublicity) = true ∧
      u.newChannelName ≠ u.channelName ∧ u.users.alter ≠ 48 ∧
      ∀ k d, s.channelInfo.lookup k = some d → d.channelName = u.channelName →
        k = c.channelId := by
  rw [staysOpen, hreg, Bool.true_and, Bool.and_eq_true, decide_eq_true_eq]
  cases hchange : (u.isChangeName || u.isChangePublicity) with
  | false =>
    rw [renameStep, if_neg (by simp [hchange])]
    simp [hc]
  | true =>
    rw [renameStep_of_change hc hchange, Option.any_some, Option.isNone_iff_eq_none]
    constructor
    · rintro ⟨halter, hgone⟩
      have hgone : ¬ Named (s.insertChannelInfo (c.renamed u)) u.channelName := fun h =>
        (getChannelInfo_ne_none_iff env).mpr h hgone
      refine ⟨rfl, fun hsame => hgone ?_, halter, fun k d hd hname => ?_⟩
      · rw [← hsame]
        exact named_insert s (c.renamed u)
      · by_contra hne
        rw [← hname] at hgone
        exact hgone (named_insert_of_ne hd hne)
    · rintro ⟨_, hnew, halter, honly⟩
      exact ⟨halter, getChannelInfo_renamed rfl honly hnew⟩

theorem leavesOpen_iff : LeavesOpen s r ↔ ∃ k header rest, r.decode = .serve k header rest ∧
    (rest.take header.bodySize).length ≤ defaultBuffer ∧
      KeepsOpen k s r.env header.bodySize (rest.take header.bodySize) := by
  constructor
  · rintro ⟨u, c, hu, hc, hrest⟩
    simp only [updateTarget, bind, Option.bind_eq_some_iff, Option.ite_none_right_eq_some,
      Option.some.injEq] at hu
    obtain ⟨fs, hfs, u', hparse, ⟨hfound, hreg⟩, rfl⟩ := hu
    obtain ⟨header, rest, hd, hlen, hn, rfl⟩ := fieldsFor_some hfs
    refine ⟨_, header, rest, hd, hlen, rfl, hn, u', ?_, hfound,
      (staysOpen_iff hc hreg).mpr hrest⟩
    cases hp : parseUpdate (fields (rest.take header.bodySize)) with
    | error e =>
      rw [hp] at hparse
      cases hparse
    | ok u =>
      rw [hp] at hparse
      rw [Option.some.inj hparse]
  · rintro ⟨k, header, rest, hd, hlen, rfl, hn, u, hu, hfound, hstays⟩
    obtain ⟨c, hc⟩ := Option.isSome_iff_exists.mp hfound
    have hreg : namesRegistered s u = true := by
      rw [staysOpen, Bool.and_assoc, Bool.and_eq_true] at hstays
      exact hstays.1
    have htarget : updateTarget s r = some u := by
      simp only [updateTarget, fieldsFor_eq hd hlen hn, bind, Option.bind, hu, Except.toOption]
      exact if_pos ⟨hfound, hreg⟩
    exact ⟨u, c, htarget, hc, (staysOpen_iff hc hreg).mp hstays⟩

/-- The uses of a call balance. Only one kind of request leaves a database open. -/
theorem call_settled (s : State) (r : Request) :
    ∃ left, balance [] (handleRequest s r) = some left ∧
      (∀ w, Resource.db w ∈ left ↔ w = .addUsersOnChannel ∧ LeavesOpen s r) ∧
      ((ChatServer.handleRequest s r).returned = true → left = leftByCall s r) := by
  simp only [leavesOpen_iff]
  rw [handleRequest, ChatServer.handleRequest, leftByCall]
  cases r.decode with
  | stop ret rest => exact ⟨[], rfl, by simp, fun _ => rfl⟩
  | serve k header rest =>
    dsimp only
    rw [serve]
    by_cases hlen : (rest.take header.bodySize).length ≤ defaultBuffer
    · rw [if_neg (Nat.not_lt.mpr hlen), if_neg (Nat.not_lt.mpr hlen)]
      obtain ⟨left, hus, hdb, hleft⟩ :=
        runHandler_settled k s r header.bodySize (rest.take header.bodySize)
      have hopen : ∀ w, Resource.db w ∈ left ↔ w = .addUsersOnChannel ∧
          ∃ k' header' rest', Decoded.serve k header rest = .serve k' header' rest' ∧
            (rest'.take header'.bodySize).length ≤ defaultBuffer ∧
              KeepsOpen k' s r.env header'.bodySize (rest'.take header'.bodySize) := by
        intro w
        rw [hdb]
        refine and_congr_right fun _ => ⟨fun h => ⟨_, _, _, rfl, hlen, h⟩, ?_⟩
        rintro ⟨_, _, _, he, _, h⟩
        cases he
        exact h
      dsimp only
      cases hv : (ChatServer.runHandler k s r header.bodySize
          (rest.take header.bodySize)).value with
      | error f =>
        refine ⟨left, balance_seq hus rfl, hopen, fun h => by cases h⟩
      | ok reply =>
        have hleft := hleft reply hv
        dsimp only
        by_cases hsend : k = .createMessage ∧ reply.result ≠ createMessageAck ∧
            (sendResponse k reply.result reply.token).isOk = true
        · rw [if_pos hsend]
          obtain ⟨rfl, hack, _⟩ := hsend
          generalize hfound : (State.getChannelInfo _ r.env
            (CharArray.strncpy _ reply.token)).isSome = found
          have hnew : .currentChannel ∉ left := by
            rw [hleft, leftByHandler]
            split <;> simp
          have hclosed : Resource.db .getChannelInfo ∉ left := fun h => by cases ((hdb _).mp h).1
          have hmember : ∀ sessions : Bool, balance left (getChannelInfo .currentChannel found ++
              if found && sessions then [.touch .currentChannel] else []) =
                some (left ++ kept .currentChannel found) := by
            intro sessions
            cases found with
            | false =>
              rw [show kept .currentChannel false = [] from rfl, List.append_nil]
              exact balance_seq (balance_opened hclosed) rfl
            | true =>
              refine balance_seq (balance_fetched hclosed hnew (by simp)) ?_
              cases sessions with
              | false => rfl
              | true => exact balance_touches (by simp)
          refine ⟨_, balance_seq hus (hmember _), fun w => ?_, fun _ => ?_⟩
          · rw [List.mem_append, or_iff_left (by simp [mem_kept]), hopen]
          · rw [hleft]
            simp [hack]
        · rw [if_neg hsend]
          refine ⟨left, balance_seq hus rfl, hopen, fun hret => ?_⟩
          rw [hleft, kept, if_neg, List.append_nil]
          -- without a response the call does not return
          intro hcond
          obtain ⟨hk, hack, _⟩ := of_decide_eq_true hcond
          rw [respond, if_neg fun h => hack h.2] at hret
          cases hs : sendResponse k reply.result reply.token with
          | error f =>
            rw [hs] at hret
            cases hret
          | ok body => exact hsend ⟨hk, hack, by rw [hs]; rfl⟩
    · rw [if_pos (Nat.lt_of_not_le hlen), if_pos (Nat.lt_of_not_le hlen)]
      refine ⟨[], rfl, fun w => iff_of_false List.not_mem_nil ?_, fun h => by cases h⟩
      rintro ⟨_, _, _, _, he, h, _⟩
      cases he
      exact hlen h

end Calls

/-- What a start leaves: the uuid of an administrator that exists, the record of a global channel
that exists. -/
def leftByStart (s : State) (env : Env) : List Resource :=
  kept .uuidString (s.checkDuplicateDisplayName adminName) ++
    kept .channel (s.createAdmin.checkDuplicateChannelName env globalName)

theorem startUp_settled (s : State) (env : Env) :
    Settled (startUp s env) (leftByStart s env) := by
  refine ⟨?_, by simp [leftByStart, mem_kept]⟩
  rw [startUp, leftByStart, createAdmin, createGlobalChannel]
  generalize s.createAdmin.checkDuplicateChannelName env globalName = isChannelDuplicate
  cases s.checkDuplicateDisplayName adminName <;> cases isChannelDuplicate <;> rfl

/-- What an event leaves, when its call returns. -/
def leftByEvent (v : Server) : LifeEvent → List Resource
  | .start newProcess env => leftByStart (Life.entered v newProcess) env
  | .request r => if v.running then leftByCall v.state r else []

/-- The call of an event returns. -/
def Returns (v : Server) : LifeEvent → Prop
  | .start _ _ => True
  | .request r => v.running = true → (ChatServer.handleRequest v.state r).returned = true

instance (v : Server) : (e : LifeEvent) → Decidable (Returns v e)
  | .start _ _ => isTrue trivial
  | .request _ => inferInstanceAs (Decidable (_ → _))

theorem event_settled (v : Server) (e : LifeEvent) :
    ∃ left, balance [] (ofEvent v e) = some left ∧
      (∀ w, Resource.db w ∈ left ↔ w = .addUsersOnChannel ∧
        ∃ r, e = .request r ∧ v.running = true ∧ LeavesOpen v.state r) ∧
      (Returns v e → left = leftByEvent v e) := by
  cases e with
  | start newProcess env =>
    have h := startUp_settled (Life.entered v newProcess) env
    exact ⟨_, h.balance, fun w => iff_of_false (h.closed w) (by simp), fun _ => rfl⟩
  | request r =>
    rw [ofEvent, leftByEvent, Returns]
    cases hrun : v.running with
    | false => exact ⟨[], rfl, by simp, fun _ => rfl⟩
    | true =>
      obtain ⟨left, hus, hdb, hleft⟩ := call_settled v.state r
      refine ⟨left, hus, fun w => ?_, fun h => hleft (h rfl)⟩
      rw [hdb]
      simp

/-- The uses of everything that happens to a server, from any state and over any starts and
requests, balance: no block of memory is used or freed before it is allocated or after it has been
freed, and no database is used or closed unless it is open. When all calls return, what is never
given back is what the events leave. -/
theorem life_balances (v : Server) (es : List LifeEvent) :
    (∃ left, balance [] (ofRun Life.step ofEvent 0 v es) = some left) ∧
      (Run.Along Life.step Returns v es →
        balance [] (ofRun Life.step ofEvent 0 v es) =
          some (leftOver Life.step leftByEvent 0 v es)) := by
  constructor
  · refine ⟨_, balance_ofRun (C := fun _ _ => True)
      (g := fun v e => (balance [] (ofEvent v e)).getD []) (fun v e _ => ?_)
      (Run.along_of_forall (fun _ _ _ => trivial) v)⟩
    obtain ⟨left, hus, _⟩ := event_settled v e
    rw [hus]
    rfl
  · refine balance_ofRun fun v e hreturns => ?_
    obtain ⟨left, hus, _, hleft⟩ := event_settled v e
    rw [hus, hleft hreturns]

/-- In every life the databases that stay open are those of `add_users_on_channel`, one for every
request to update a channel that renames the only channel of its name and takes new members. -/
theorem databases_left_open (v : Server) (es : List LifeEvent) :
    ∃ left, balance [] (ofRun Life.step ofEvent 0 v es) = some left ∧
      ∀ n w, (n, Resource.db w) ∈ left ↔ w = .addUsersOnChannel ∧
        ∃ es₁ r es₂, es = es₁ ++ .request r :: es₂ ∧ n = es₁.length ∧
          (Run.run Life.step v es₁).running = true ∧
          LeavesOpen (Run.run Life.step v es₁).state r := by
  refine ⟨_, balance_ofRun (C := fun _ _ => True)
    (g := fun v e => (balance [] (ofEvent v e)).getD []) (fun v e _ => ?_)
    (Run.along_of_forall (fun _ _ _ => trivial) v), fun n w => ?_⟩
  · obtain ⟨left, hus, _⟩ := event_settled v e
    rw [hus]
    rfl
  · rw [mem_leftOver]
    constructor
    · rintro ⟨es₁, e, es₂, rfl, rfl, hx⟩
      obtain ⟨left, hus, hdb, _⟩ := event_settled (Run.run Life.step v es₁) e
      rw [hus] at hx
      obtain ⟨hw, r, rfl, hrun, hopen⟩ := (hdb w).mp hx
      exact ⟨hw, es₁, r, es₂, rfl, Nat.zero_add _, hrun, hopen⟩
    · rintro ⟨hw, es₁, r, es₂, rfl, rfl, hrun, hopen⟩
      obtain ⟨left, hus, hdb, _⟩ := event_settled (Run.run Life.step v es₁) (.request r)
      refine ⟨es₁, _, es₂, rfl, (Nat.zero_add _).symm, ?_⟩
      rw [hus]
      exact (hdb w).mpr ⟨hw, r, rfl, hrun, hopen⟩

/-- The administrator's channel is renamed by a request that goes on to add a member, and the server
is started once more. -/
def renamingLife : List LifeEvent :=
  [.start true Client.firstEnv,
    .request (Client.createUser 5 "10.0.0.1" "bobt" "bob" "pw"
      "22222222-2222-2222-2222-222222222222"),
    .request (Client.login 5 "10.0.0.1" "bobt" "pw"),
    .request (Client.request 5 "10.0.0.1" 3 2 ["global", "1", "tea", "0", "1", "1", "bob", "0", "0"]
      "99999999-9999-9999-9999-999999999999"),
    .start false (Client.env "33333333-3333-3333-3333-333333333333")]

theorem life_balances_renamingLife :
    balance [] (ofRun Life.step ofEvent 0 Life.initial renamingLife) =
      some [(2, .responseBody), (3, .channel), (3, .db .addUsersOnChannel), (4, .uuidString)] :=
  (life_balances Life.initial renamingLife).2 (by decide +kernel)

end Resources

end ChatServer
