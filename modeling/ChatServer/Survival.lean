import ChatServer.Answer
import ChatServer.Invariant.References

/-!
# Runs that do not stop the server

A request stops the process when a handler uses a missing record, writes past an array or returns a
result that the responder asserts against. What a client has to observe so that none of this
happens: the fields are there and fit, a message goes to a channel that exists and comes under the
name of a session, a user logs in from one address, and so on. Everything else that the handlers
rely on, the records that refer to each other and the privileges, holds in every state on the way.
-/

namespace ChatServer

open CLib

/-- What a client observes, by kind of request. -/
def polite (s : State) (r : Request) (fs : List Str) : RequestKind → Bool
  | .createUser => Option.isSome do
      let (_, ts) ← field? tokenNameLength fs
      let (_, us) ← field? tokenNameLength ts
      field? pswdMaxLength us
  | .destroyUser => Option.any id do
      let (_, ts) ← field? tokenNameLength fs
      let (loginToken, us) ← field? tokenNameLength ts
      let _ ← field? pswdMaxLength us
      let sender ← s.activeUsers.getConnectedUserByFd r.fd
      some ((s.getLoginInfo loginToken).isSome ||
        (s.getUserAccount sender.uuid).any fun a => a.privilegeLevel = 1)
  | .createChannel => Option.isSome do
      let (_, ts) ← field? tokenNameLength fs
      let (_, us) ← field? tokenNameLength ts
      us.head?
  | .readChannel => (field? tokenNameLength fs).isSome
  | .updateChannel => (fs.head?.any fun t => t.length ≤ tokenNameLength) &&
      (updateLists fs).all fun l => !overruns l
  | .createMessage => Option.any id do
      let (displayName, ts) ← field? tokenNameLength fs
      let (channelName, us) ← field? tokenNameLength ts
      let (_, vs) ← field? maxMessageSize us
      some (!vs.isEmpty && (s.getChannelInfo r.env channelName).isSome &&
        (s.activeUsers.getConnectedUserByDisplayName displayName).isSome)
  | .readMessage => Option.any id do
      let (channelName, ts) ← field? tokenNameLength fs
      let (numOfMessages, _) ← field? tokenNameLength ts
      some (isNumber numOfMessages.str && (s.getChannelInfo r.env channelName).isSome)
  | .login => Option.any id do
      let (loginToken, ts) ← field? tokenNameLength fs
      let _ ← field? pswdMaxLength ts
      some <| (s.getLoginInfo loginToken).all fun l => (s.getUserAccount l.uuid).all fun a =>
        !loggedInElsewhere s.activeUsers a r.clntAddr &&
          (s.activeUsers.findConnectedUserWithSameCred (loginUserAccount a r.clntAddr) r.fd ||
            decide (s.activeUsers.getNumConnectedUsers < maxClients))
  | .logout => (field? tokenNameLength fs).isSome

/-- A complete request in the current version that is no acknowledgement, with what its kind
observes. -/
def Request.WellBehaved (r : Request) (s : State) : Prop :=
  match r.decode with
  | .stop _ _ => False
  | .serve k header rest =>
    (rest.take header.bodySize).length = header.bodySize ∧
      (rest.take header.bodySize).length ≤ 1023 ∧
      (k = .createMessage →
        (fields (rest.take header.bodySize)).head? ≠ some (ascii "200")) ∧
      polite s r (fields (rest.take header.bodySize)) k = true

instance (r : Request) (s : State) : Decidable (r.WellBehaved s) :=
  match hd : r.decode with
  | .stop ret rest => isFalse (by rw [Request.WellBehaved, hd]; exact id)
  | .serve k header rest =>
    decidable_of_iff
      ((rest.take header.bodySize).length = header.bodySize ∧
        (rest.take header.bodySize).length ≤ 1023 ∧
        (k = .createMessage →
          (fields (rest.take header.bodySize)).head? ≠ some (ascii "200")) ∧
        polite s r (fields (rest.take header.bodySize)) k = true)
      (by rw [Request.WellBehaved, hd])

/-- The account has one of the two privileges. -/
def UserAccount.Levelled (a : UserAccount) : Prop := a.privilegeLevel = 0 ∨ a.privilegeLevel = 1

/-- What the handlers rely on: records that refer to each other, and the two privileges. -/
structure Sound (s : State) : Prop where
  keyed : KeyedState s
  linked : LoginsLinked s
  references : NoDangling s
  levels : s.userAccountInfo.All fun _ a => a.Levelled

/-- The condition on the requests of a run. -/
structure Careful (s : State) (r : Request) : Prop where
  fresh : FreshUuid s r
  references : LeavesNoReference s r
  behaved : r.WellBehaved s

instance (s : State) (r : Request) : Decidable (Careful s r) :=
  decidable_of_iff (FreshUuid s r ∧ LeavesNoReference s r ∧ r.WellBehaved s)
    ⟨fun h => ⟨h.1, h.2.1, h.2.2⟩, fun h => ⟨h.fresh, h.references, h.behaved⟩⟩

section Levels

variable {s s' : State} {r : Request} {b : Bool}

theorem levels_insert (h : s.userAccountInfo.All fun _ a => a.Levelled) {a : UserAccount}
    (ha : a.Levelled) : (s.insertUserAccount a).userAccountInfo.All fun _ a => a.Levelled :=
  Dbm.All.insert h ha

theorem levelled_loginUserAccount {a : UserAccount} (ha : a.Levelled) (addr : IpAddr) :
    (loginUserAccount a addr).Levelled := by
  rw [UserAccount.Levelled, loginUserAccount]
  dsimp only
  split
  · exact Or.inr rfl
  · exact ha

theorem levelled_generateUserAccount (u : Uuid) (d : Name) :
    (generateUserAccount u d).Levelled := by
  rw [UserAccount.Levelled, generateUserAccount]
  dsimp only
  split
  · exact Or.inr rfl
  · exact Or.inl rfl

theorem Sound.levels_effect (h : Sound s) (he : Effect s r s' b) :
    s'.userAccountInfo.All fun _ a => a.Levelled := by
  cases he with
  | createUser =>
    exact levels_insert (s := (s.insertDisplayName _ _).insertUserLogin _) h.levels
      (levelled_generateUserAccount _ _)
  | destroyUser => exact Dbm.All.erase h.levels _
  | restart ht | openSession ht | cacheFull ht =>
    exact levels_insert h.levels
      (levelled_loginUserAccount (h.levels _ _ (h.keyed.account_of_login ht)) _)
  | @logout a ht =>
    have ha := h.levels _ a (h.keyed.account_of_logout ht)
    exact levels_insert h.levels ha
  | updateChannel _ h₁ h₂ => exact (congrArg State.userAccountInfo (update_frame h₁ h₂)) ▸ h.levels
  | _ => exact h.levels

theorem Sound.effect (h : Sound s) (hc : Careful s r) (he : Effect s r s' b) : Sound s' where
  keyed := h.keyed.effect he
  linked := h.linked.effect h.keyed hc.fresh he
  references := h.references.effect h.keyed h.linked hc.references he
  levels := h.levels_effect he

theorem sound_startUp (env : Env) : Sound (startUp env .fresh) where
  keyed := keyedState_startUp env
  linked := (linked_startUp env).toLoginsLinked
  references := noDangling_startUp env
  levels := by
    rw [startUp_fresh]
    exact levels_insert (s := (State.fresh.insertDisplayName _ _).insertUserLogin _)
      (Dbm.All.empty _) (levelled_generateUserAccount _ _)

end Levels

section Polite

variable {s : State} {r : Request} {bytes : List UInt8}

/-- Whoever has a session has an account and a login record. -/
theorem Sound.session (h : Sound s) {u : ConnectedUser} (hu : u ∈ s.activeUsers.live) :
    (∃ a, s.getUserAccount u.uuid = some a ∧ a.Levelled) ∧
      ∃ l, s.getLoginInfo u.loginToken = some l := by
  obtain ⟨a, ha⟩ := h.references.session_account u hu
  exact ⟨⟨a, ha, h.levels _ _ ha⟩, h.references.session_login u hu⟩

theorem eq_some_true_of_any {o : Option Bool} (h : o.any id = true) : o = some true := by
  cases o with
  | none => cases h
  | some b => exact congrArg some h

/-- The fields of a message that observes the conditions, with what they lead to. -/
theorem polite_message (hp : polite s r (fields bytes) .createMessage = true) :
    ∃ d ts name us content vs, field? tokenNameLength (fields bytes) = some (d, ts) ∧
      field? tokenNameLength ts = some (name, us) ∧
      field? maxMessageSize us = some (content, vs) ∧ vs ≠ [] ∧
      (∃ c, s.getChannelInfo r.env name = some c) ∧
      ∃ u, s.activeUsers.getConnectedUserByDisplayName d = some u := by
  have hx := eq_some_true_of_any hp
  simp only [bind, Option.bind_eq_some_iff, Prod.exists, Option.some.injEq, Bool.and_eq_true,
    Bool.not_eq_true', List.isEmpty_eq_false_iff, Option.isSome_iff_exists] at hx
  obtain ⟨d, ts, hd, name, us, hn, content, vs, hc, ⟨hvs, hchannel⟩, husr⟩ := hx
  exact ⟨d, ts, name, us, content, vs, hd, hn, hc, hvs, hchannel, husr⟩

/-- In a sound state a request that observes its kind's conditions is answerable. -/
theorem answerable_of_polite (h : Sound s) (k : RequestKind)
    (hp : polite s r (fields bytes) k = true) :
    Answerable s r.env r.fd r.clntAddr bytes k := by
  cases k with
  | createUser =>
    obtain ⟨x, hx⟩ := Option.isSome_iff_exists.mp hp
    simp only [bind, Option.bind_eq_some_iff, Prod.exists] at hx
    obtain ⟨t, ts, ht, d, us, hd, hpw⟩ := hx
    exact ⟨t, ts, d, us, ht, hd, Or.inr (Or.inr (by rw [hpw]; rfl))⟩
  | destroyUser =>
    have hx := eq_some_true_of_any hp
    simp only [bind, Option.bind_eq_some_iff, Prod.exists, Option.some.injEq, Bool.or_eq_true]
      at hx
    obtain ⟨d, ts, hd, t, us, ht, p, vs, hpw, sender, hs, hok⟩ := hx
    obtain ⟨⟨a, ha, _⟩, l, hl⟩ := h.session (List.mem_of_find?_eq_some hs)
    refine ⟨d, ts, t, us, p, vs, sender, hd, ht, hpw, hs, ?_⟩
    split
    · exact Or.inr ⟨l, hl, Or.inr (by rw [ha]; rfl)⟩
    · rename_i hnone
      have hpriv := hok.resolve_left hnone
      rw [ha] at hpriv
      exact ⟨a, ha, Or.inl (of_decide_eq_true hpriv)⟩
  | createChannel =>
    obtain ⟨x, hx⟩ := Option.isSome_iff_exists.mp hp
    simp only [bind, Option.bind_eq_some_iff, Prod.exists] at hx
    obtain ⟨name, ts, hn, d, us, hd, hhead⟩ := hx
    refine Or.inr ⟨name, ts, hn, Or.inr ⟨d, us, hd, ?_⟩⟩
    rintro rfl
    cases hhead
  | readChannel => exact Or.inr (Or.inr hp)
  | updateChannel =>
    obtain ⟨hname, hlists⟩ := Bool.and_eq_true_iff.mp hp
    refine Or.inr ⟨fun t ht => ?_, fun l hl => ?_⟩
    · rw [Option.mem_def.mp ht] at hname
      exact of_decide_eq_true hname
    · simpa using List.all_eq_true.mp hlists l hl
  | createMessage =>
    obtain ⟨d, ts, name, us, content, vs, hd, hn, hc, hvs, _, u, hu⟩ := polite_message hp
    obtain ⟨⟨a, ha, hpriv⟩, l, hl⟩ := h.session (List.mem_of_find?_eq_some hu)
    exact ⟨d, ts, name, us, content, vs, hd, hn, hc, hvs,
      Or.inr ⟨u, a, hu, ha, hpriv, by rw [hl]; rfl⟩⟩
  | readMessage =>
    have hx := eq_some_true_of_any hp
    simp only [bind, Option.bind_eq_some_iff, Prod.exists, Option.some.injEq, Bool.and_eq_true,
      Option.isSome_iff_exists] at hx
    obtain ⟨name, ts, hn, num, us, hnum, hdigits, c, hc⟩ := hx
    refine ⟨name, ts, num, us, hn, hnum, hdigits,
      Or.inr ⟨c, hc, fun front m behind hsplit _ => ?_⟩⟩
    -- the sender of a stored message has an account
    have hm : m ∈ s.getAllMessages r.env := by
      refine List.mem_of_mem_filter (p := fun m => c.channelId = m.channelId) ?_
      rw [hsplit]
      exact List.mem_append_right _ List.mem_cons_self
    obtain ⟨k, hk⟩ := KeyOrder.mem_scan.mp hm
    obtain ⟨a, ha⟩ := h.references.message_user k m hk
    exact Option.isSome_iff_exists.mpr ⟨a, ha⟩
  | login =>
    have hx := eq_some_true_of_any hp
    simp only [bind, Option.bind_eq_some_iff, Prod.exists, Option.some.injEq] at hx
    obtain ⟨t, ts, ht, p, us, hpw, hok⟩ := hx
    refine ⟨t, ts, p, us, ht, hpw, fun l hl _ _ => ?_⟩
    obtain ⟨a, ha⟩ := h.linked.login_account t l hl
    rw [hl, Option.all_some, show s.getUserAccount l.uuid = some a from ha, Option.all_some,
      Bool.and_eq_true, Bool.not_eq_true', Bool.or_eq_true, decide_eq_true_eq] at hok
    exact ⟨a, ha, hok⟩
  | logout =>
    obtain ⟨⟨d, ts⟩, hd⟩ := Option.isSome_iff_exists.mp hp
    exact ⟨d, ts, hd, fun u a _ ha => h.levels u a ha⟩

theorem destroyUser_activeUsers (fd n : ℕ) :
    (readAndDestroyUser s fd n bytes).state.activeUsers = s.activeUsers := by
  unfold readAndDestroyUser removeUser
  dsimp only
  repeat' split
  all_goals rfl

/-- A message that observes the conditions is stored, and the channel is still there. -/
theorem createMessage_of_polite (h : Sound s) {n : ℕ} (hn : bodyIncomplete n bytes = false)
    (hack : (fields bytes).head? ≠ some (ascii "200"))
    (hp : polite s r (fields bytes) .createMessage = true) :
    ∃ (name : Name) (c : ChannelInfo), (readAndCreateMessage s r.env n bytes).value =
        .ok ⟨0, name.str, cstr bytes⟩ ∧
      (readAndCreateMessage s r.env n bytes).state.getChannelInfo r.env name = some c := by
  obtain ⟨d, ts, name, us, content, vs, hd, hname, hcontent, hvs, ⟨c, hc⟩, u, hu⟩ :=
    polite_message hp
  obtain ⟨⟨a, ha, hpriv⟩, l, hl⟩ := h.session (List.mem_of_find?_eq_some hu)
  obtain ⟨t, rest, rfl⟩ := List.exists_cons_of_ne_nil hvs
  have hfs : fields bytes = d.str :: name.str :: content.str :: t :: rest := by
    rw [field?_some hd, field?_some hname, field?_some hcontent]
  have hnack : d.str ≠ ascii "200" := by
    intro he
    rw [hfs, List.head?_cons, he] at hack
    exact hack rfl
  have hpriv' : ¬ (a.privilegeLevel ≠ 0 ∧ a.privilegeLevel ≠ 1) := by
    rintro ⟨h₀, h₁⟩
    exact hpriv.elim h₀ h₁
  rw [readAndCreateMessage_eq hn hfs hnack]
  simp only [storeNewMessage, hc, hu, ha, if_neg hpriv', hl]
  exact ⟨name, c, rfl, hc⟩

/-- What follows the response runs to its end. -/
theorem afterResponse_of_polite (h : Sound s) (k : RequestKind) (header : ChatHeader)
    {reply : Reply} {n : ℕ} (hn : bodyIncomplete n bytes = false)
    (hack : k = .createMessage → (fields bytes).head? ≠ some (ascii "200"))
    (hp : polite s r (fields bytes) k = true)
    (hv : (runHandler k s r n bytes).value = .ok reply) :
    ∃ x, afterResponse k (runHandler k s r n bytes).state r header reply = .ok x := by
  cases k with
  | destroyUser =>
    have hx := eq_some_true_of_any hp
    simp only [bind, Option.bind_eq_some_iff, Prod.exists, Option.some.injEq] at hx
    obtain ⟨_, _, _, _, _, _, _, _, _, sender, hs, _⟩ := hx
    rw [afterResponse, runHandler, destroyUser_activeUsers, hs]
    exact ⟨_, rfl⟩
  | createMessage =>
    obtain ⟨name, c, hval, hc⟩ := createMessage_of_polite h hn (hack rfl) hp
    obtain rfl : reply = ⟨0, name.str, cstr bytes⟩ := by
      rw [runHandler, hval] at hv
      exact (Except.ok.inj hv).symm
    have hbody : sendCreateMessageResponse successForwardReq (cstr bytes) =
        .ok (some (status "200" "" ++ cstr bytes)) := rfl
    rw [afterResponse, runHandler, forwards]
    simp only [CharArray.strncpy_str, hc, hbody]
    cases (readAndCreateMessage s r.env n bytes).state.activeUsers.live with
    | nil => exact ⟨_, rfl⟩
    | cons v vs => exact ⟨_, rfl⟩
  | _ => exact ⟨_, rfl⟩

/-- In a sound state a well-behaved request is answered exactly once, and the call returns. -/
theorem answered_of_wellBehaved (h : Sound s) (hw : r.WellBehaved s) :
    AnsweredOnce r.fd (handleRequest s r) ∧ (handleRequest s r).returned = true := by
  rw [Request.WellBehaved] at hw
  cases hd : r.decode with
  | stop ret rest =>
    rw [hd] at hw
    exact hw.elim
  | serve k header rest =>
    rw [hd] at hw
    obtain ⟨hfull, hle, hack, hp⟩ := hw
    have hlen : (rest.take header.bodySize).length ≤ defaultBuffer := hle.trans (by decide)
    have hyields := (runHandler_yields s r k _ hack).mpr (answerable_of_polite h k hp)
    rw [hfull] at hyields
    refine ⟨by rw [handleRequest, hd]; exact (answeredOnce_serve k s r hlen).mpr hyields, ?_⟩
    obtain ⟨reply, hv, hresult⟩ := hyields
    have hne : rest.take header.bodySize ≠ [] := by
      intro he
      rw [he] at hp
      cases k <;> cases hp
    have hn : bodyIncomplete header.bodySize (rest.take header.bodySize) = false := by
      have hb := bodyIncomplete_length hne
      rwa [hfull] at hb
    obtain ⟨⟨sent, closed⟩, hafter⟩ := afterResponse_of_polite h k header hn hack hp hv
    obtain ⟨body, hsend⟩ := (sendResponse_some_iff k reply.result reply.token).mpr hresult
    have hnack : ¬ (k = .createMessage ∧ reply.result = createMessageAck) := by
      rintro ⟨rfl, hr⟩
      rw [hr] at hresult
      exact absurd hresult (by decide)
    rw [handleRequest_of_reply hd hlen hv, respond, if_neg hnack, hsend]
    dsimp only
    rw [hafter]
    rfl

end Polite

section Serving

variable {s : State} {r : Request}

/-- The allocator has room for the account that is fetched, and everybody who is written to is
there. -/
structure Machine.Serves (m : Machine) (s : State) (r : Request) : Prop where
  roomy : m.Roomy
  reaches : m.Reaches s r

instance (m : Machine) (s : State) (r : Request) : Decidable (m.Serves s r) :=
  decidable_of_iff (m.Roomy ∧ m.Reaches s r)
    ⟨fun h => ⟨h.1, h.2⟩, fun h => ⟨h.roomy, h.reaches⟩⟩

/-- Such a machine does what the handlers that read arrays do. -/
theorem Machine.Serves.call_eq {m : Machine} (h : m.Serves s r) (hs : cStrings.Holds s)
    (hr : r.Ends) : m.call s r = ChatServer.handleRequest s r := by
  rw [Machine.call, m.handleRequest_eq hs hr (Or.inl h.roomy), h.reaches.deliver_eq]

end Serving

/-- A user is created, logs in, opens a channel, writes to it, reads what is there and logs out. -/
def talkRun : List Request :=
  [Client.createUser 5 "10.0.0.1" "bobt" "bob" "pw" "22222222-2222-2222-2222-222222222222",
    Client.login 5 "10.0.0.1" "bobt" "pw",
    Client.createChannel 5 "10.0.0.1" "tea" "bob" "1" "33333333-3333-3333-3333-333333333333",
    Client.createMessage 5 "10.0.0.1" "bob" "tea" "hello" "12:00"
      "44444444-4444-4444-4444-444444444444",
    Client.readMessages 5 "10.0.0.1" "tea" "10",
    Client.logout 5 "10.0.0.1" "bob"]

end ChatServer
