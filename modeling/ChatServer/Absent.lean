import ChatServer.MessageHistory

/-!
# Requests that name something absent

Requests to destroy a user, to create a message and to read messages look several records up, and
each lookup may find nothing. Some of these cases have an error result of their own; in others the
missing record is used before it is tested for, or the responder uses it after the answer.
-/

namespace ChatServer

open CLib

/-- The status of the body is one of 4xx and 5xx. -/
def errorStatus (body : Str) : Bool := body.head? = some 52 || body.head? = some 53

/-- The call returned, left the state `s` as it was, and sent one dispatch: an error response to the
requester. -/
structure Call.Refused (c : Call) (s : State) (fd : ℕ) : Prop where
  returned : c.returned = true
  unchanged : c.state = s
  answer : ∃ x, c.sent = [x] ∧ x.answers fd = true ∧ errorStatus x.body = true

/-- A complete request to destroy a user, on a connection without a session or with a login token
that does not exist. -/
def DestroysAbsent (s : State) (r : Request) (d t : Name) (p : Password) : Prop :=
  (∃ rest, r.fieldsFor .destroyUser = some (d.str :: t.str :: p.str :: rest)) ∧
    (s.activeUsers.getConnectedUserByFd r.fd = none ∨ s.getLoginInfo t = none)

/-- A complete request to create a message, for a channel that does not exist or in the name of
somebody without a session. -/
def PostsToAbsent (s : State) (r : Request) (d name : Name) : Prop :=
  (∃ (content : CharArray maxMessageSize) (stamp : Str) (rest : List Str),
    r.fieldsFor .createMessage = some (d.str :: name.str :: content.str :: stamp :: rest)) ∧
  d.str ≠ ascii "200" ∧ (s.getChannelInfo r.env name = none ∨
    s.activeUsers.getConnectedUserByDisplayName d = none)

/-- A complete request to read the messages of a channel that does not exist. -/
def ReadsAbsent (s : State) (r : Request) (name : Name) : Prop :=
  (∃ (number : Name) (rest : List Str),
    r.fieldsFor .readMessage = some (name.str :: number.str :: rest) ∧
      isNumber number.str = true) ∧
  s.getChannelInfo r.env name = none

section Destroy

variable {s : State} {r : Request}

/-- A call whose handler does not return is not refused. -/
theorem not_refused_of_fault {k : RequestKind} {header : ChatHeader} {rest : List UInt8} {f : Fault}
    (hlen : (rest.take header.bodySize).length ≤ defaultBuffer)
    (h : (runHandler k s r header.bodySize (rest.take header.bodySize)).value = .error f) :
    ¬ (serve k s r header rest).Refused s r.fd := by
  intro hr
  have hret := hr.returned
  simp only [serve, if_neg (Nat.not_lt.mpr hlen), h, Call.returned] at hret
  cases hret

theorem serve_of_reply {k : RequestKind} {header : ChatHeader} {rest : List UInt8} {s' : State}
    {reply : Reply} (hlen : (rest.take header.bodySize).length ≤ defaultBuffer)
    (h : runHandler k s r header.bodySize (rest.take header.bodySize) = ⟨s', .ok reply⟩) :
    serve k s r header rest = respond k s' r header (rest.drop header.bodySize) reply := by
  rw [serve, if_neg (Nat.not_lt.mpr hlen), h]

/-- An error response with nothing behind it. -/
theorem refused_respond {k : RequestKind} {header : ChatHeader} {rest : List UInt8} {reply : Reply}
    {body : Str} {closed : List ℕ}
    (hack : ¬ (k = .createMessage ∧ reply.result = createMessageAck))
    (hbody : sendResponse k reply.result reply.token = .ok (some body))
    (hafter : afterResponse k s r header reply = .ok ([], closed))
    (herror : errorStatus body = true) : (respond k s r header rest reply).Refused s r.fd := by
  rw [respond, if_neg hack, hbody]
  dsimp only
  rw [hafter]
  exact ⟨rfl, rfl, _, rfl, by simp [Sent.answers], herror⟩

/-- The two error results of a destroy request are answered, and the session is found again behind
the response. -/
theorem refused_destroyUser {sender : ConnectedUser} {header : ChatHeader} {rest : List UInt8}
    {n : Int} (hs : s.activeUsers.getConnectedUserByFd r.fd = some sender)
    (hlen : (rest.take header.bodySize).length ≤ defaultBuffer)
    (hn : n = errorDestroyUserNotExist ∨ n = errorDestroyUserInvalidCredentials)
    (hreply : runHandler .destroyUser s r header.bodySize (rest.take header.bodySize) =
      .reply s n []) : (serve .destroyUser s r header rest).Refused s r.fd := by
  have hafter : afterResponse .destroyUser s r header ⟨n, [], []⟩ =
      .ok ([], if sender.privilegeLevel = 0 then [r.fd] else []) := by
    rw [afterResponse, hs]
  rw [serve_of_reply hlen hreply]
  obtain rfl | rfl := hn
  · exact refused_respond (by decide) rfl hafter (by decide)
  · exact refused_respond (by decide) rfl hafter (by decide)

/-- The credential check comes to the result that the credentials are invalid, or the sender may
destroy users. -/
def SenderChecked (s : State) (sender : ConnectedUser) (d : Name) (p : Password) : Prop :=
  ∃ a, s.getUserAccount sender.uuid = some a ∧ (a.privilegeLevel = 1 ∨
    a.privilegeLevel = 0 ∧ sender.dsplyName ≠ d ∧
      ∃ l, s.getLoginInfo sender.loginToken = some l ∧ l.password ≠ p)

theorem destroy_absent_iff {d t : Name} {p : Password} (h : DestroysAbsent s r d t p) :
    (handleRequest s r).Refused s r.fd ↔
      ∃ sender, s.activeUsers.getConnectedUserByFd r.fd = some sender ∧
        SenderChecked s sender d p := by
  obtain ⟨⟨fs, hf⟩, habsent⟩ := h
  obtain ⟨header, rest, hd, hlen, hinc, hfs⟩ := fieldsFor_some hf
  have hdest : destroyFields (rest.take header.bodySize) = .ok (d, t, p) :=
    destroyFields_iff_fields.mpr ⟨fs, hfs.symm⟩
  rw [handleRequest, hd]
  cases hs : s.activeUsers.getConnectedUserByFd r.fd with
  | none =>
    refine iff_of_false (not_refused_of_fault (f := .nullPointer) hlen ?_) ?_
    · simp only [runHandler, readAndDestroyUser, hinc, hdest, destroyFields_ne_empty hdest, hs,
        Bool.false_eq_true, if_false]
      rfl
    · rintro ⟨_, h, _⟩
      cases h
  | some sender =>
    have ht : s.getLoginInfo t = none :=
      habsent.resolve_left (by rw [hs]; exact Option.some_ne_none sender)
    simp only [Option.some.injEq, exists_eq_left']
    obtain ⟨_, ⟨a, ha, hpriv⟩, hout⟩ | ⟨hi, hout⟩ | ⟨l, hl, _⟩ | ⟨f, hout, hi, hnone, _⟩ :=
      readAndDestroyUser_cases hinc hdest hs rfl
    · exact iff_of_true (refused_destroyUser hs hlen (Or.inl rfl) hout) ⟨a, ha, Or.inl hpriv⟩
    · refine iff_of_true (refused_destroyUser hs hlen (Or.inr rfl) hout) ?_
      cases ha : s.getUserAccount sender.uuid with
      | none => exact absurd (ha ▸ hi) (invalidCredentials_none _)
      | some a => exact ⟨a, ha, Or.inr ((invalidCredentials_true_iff ..).mp (ha ▸ hi))⟩
    · rw [ht] at hl
      cases hl
    · refine iff_of_false (not_refused_of_fault hlen (congrArg Outcome.value hout)) ?_
      rintro ⟨a, ha, hpriv | hcred⟩
      · exact hnone ht ⟨a, ha, hpriv⟩
      · exact hi (ha ▸ (invalidCredentials_true_iff ..).mpr hcred)

end Destroy

section Messages

variable {s : State} {r : Request}

/-- Behind the error response the channel is used once more if anybody is connected. -/
theorem forwards_absent {name : Name} (h : s.getChannelInfo r.env name = none) (header : ChatHeader)
    (forward : Str) :
    (s.activeUsers.live = [] ∧ forwards s r.env header name.str forward = .ok []) ∨
      s.activeUsers.live ≠ [] ∧
        forwards s r.env header name.str forward = .error .nullPointer := by
  rw [forwards, CharArray.strncpy_str, h]
  cases s.activeUsers.live with
  | nil => exact Or.inl ⟨rfl, rfl⟩
  | cons u us => exact Or.inr ⟨List.cons_ne_nil u us, rfl⟩

theorem create_absent_iff {d name : Name} (h : PostsToAbsent s r d name) :
    (handleRequest s r).Refused s r.fd ↔
      s.getChannelInfo r.env name = none ∧ s.activeUsers.live = [] := by
  obtain ⟨⟨content, stamp, fs, hf⟩, hack, habsent⟩ := h
  obtain ⟨header, rest, hd, hlen, hinc, hfs⟩ := fieldsFor_some hf
  have hrun : runHandler .createMessage s r header.bodySize (rest.take header.bodySize) =
      storeNewMessage s r.env d name content.str (CharArray.strncpy _ stamp)
        (cstr (rest.take header.bodySize)) := readAndCreateMessage_eq hinc hfs.symm hack
  rw [storeNewMessage] at hrun
  rw [handleRequest, hd]
  dsimp only
  cases hc : s.getChannelInfo r.env name with
  | some channel =>
    have hu := habsent.resolve_left (by rw [hc]; exact Option.some_ne_none channel)
    simp only [hc, hu] at hrun
    exact iff_of_false (not_refused_of_fault hlen (by rw [hrun]; rfl))
      (fun h => Option.some_ne_none channel h.1)
  | none =>
    simp only [hc] at hrun
    have hnoack : ¬ (RequestKind.createMessage = .createMessage ∧
        errorChannelDoesNotExist = createMessageAck) := by decide
    rw [and_iff_right rfl, serve_of_reply hlen hrun]
    obtain ⟨hlive, hfwd⟩ | ⟨hlive, hfwd⟩ :=
      forwards_absent hc header (cstr (rest.take header.bodySize))
    · refine iff_of_true ?_ hlive
      have hafter : afterResponse .createMessage s r header
          ⟨errorChannelDoesNotExist, name.str, cstr (rest.take header.bodySize)⟩ =
            .ok ([], []) := by
        rw [afterResponse, hfwd]
      exact refused_respond hnoack rfl hafter rfl
    · refine iff_of_false (fun hr => ?_) hlive
      have hret := hr.returned
      have hafter : afterResponse .createMessage s r header
          ⟨errorChannelDoesNotExist, name.str, cstr (rest.take header.bodySize)⟩ =
            .error .nullPointer := by
        rw [afterResponse, hfwd]
      rw [respond, if_neg hnoack, hafter] at hret
      cases hret

/-- A channel that does not exist is read as one without messages, if there are no messages at
all. -/
theorem not_refused_of_read_absent {name : Name} (h : ReadsAbsent s r name) :
    ¬ (handleRequest s r).Refused s r.fd := by
  obtain ⟨⟨number, rest, hf, hnum⟩, hc⟩ := h
  rintro ⟨_, _, x, hx, _, herror⟩
  obtain ⟨_, _, hsent⟩ | ⟨list, header, _, hsent⟩ := readMessage_sent (s := s) hf hnum
  · rw [hsent] at hx
    cases hx
  · rw [hsent] at hx
    cases hx
    cases herror

end Messages

/-- A complete request that names something that does not exist. -/
inductive NamesAbsent (s : State) (r : Request) : Prop where
  | destroyUser {d t : Name} {p : Password} (h : DestroysAbsent s r d t p)
  | createMessage {d name : Name} (h : PostsToAbsent s r d name)
  | readMessage {name : Name} (h : ReadsAbsent s r name)

/-- The requests with an error result of their own: to destroy a user with an unknown token, from a
session whose account exists and has the privilege, or has not and fails the credential check in
both name and password; and to create a message in an unknown channel while nobody is connected. -/
def AbsenceHandled (s : State) (r : Request) : Prop :=
  (∃ (d t : Name) (p : Password) (rest : List Str) (sender : ConnectedUser),
    r.fieldsFor .destroyUser = some (d.str :: t.str :: p.str :: rest) ∧
      s.activeUsers.getConnectedUserByFd r.fd = some sender ∧ SenderChecked s sender d p) ∨
  ∃ (d name : Name) (rest : List Str),
    r.fieldsFor .createMessage = some (d.str :: name.str :: rest) ∧
      s.getChannelInfo r.env name = none ∧ s.activeUsers.live = []

theorem absent_refused_iff (s : State) (r : Request) (h : NamesAbsent s r) :
    (handleRequest s r).Refused s r.fd ↔ AbsenceHandled s r := by
  cases h with
  | @destroyUser d t p h =>
    rw [destroy_absent_iff h]
    obtain ⟨⟨rest, hf⟩, _⟩ := h
    constructor
    · rintro ⟨sender, hs, hchecked⟩
      exact Or.inl ⟨d, t, p, rest, sender, hf, hs, hchecked⟩
    · rintro (⟨d', t', p', rest', sender, hf', hs, hchecked⟩ | ⟨_, _, _, hf', _⟩)
      · rw [hf, Option.some.injEq, List.cons.injEq, List.cons.injEq, List.cons.injEq] at hf'
        obtain rfl : d = d' := CharArray.ext hf'.1
        obtain rfl : p = p' := CharArray.ext hf'.2.2.1
        exact ⟨sender, hs, hchecked⟩
      · cases fieldsFor_unique hf hf'
  | @createMessage d name h =>
    rw [create_absent_iff h]
    obtain ⟨⟨content, stamp, rest, hf⟩, _⟩ := h
    constructor
    · rintro ⟨hc, hlive⟩
      exact Or.inr ⟨d, name, _, hf, hc, hlive⟩
    · rintro (⟨_, _, _, _, _, hf', _⟩ | ⟨d', name', rest', hf', hc, hlive⟩)
      · cases fieldsFor_unique hf hf'
      · rw [hf, Option.some.injEq, List.cons.injEq, List.cons.injEq] at hf'
        obtain rfl : name = name' := CharArray.ext hf'.2.1
        exact ⟨hc, hlive⟩
  | readMessage h =>
    refine iff_of_false (not_refused_of_read_absent h) ?_
    obtain ⟨⟨number, rest, hf, _⟩, _⟩ := h
    rintro (⟨_, _, _, _, _, hf', _⟩ | ⟨_, _, _, hf', _⟩)
    · cases fieldsFor_unique hf hf'
    · cases fieldsFor_unique hf hf'

/-- The administrator tries to destroy somebody who does not exist. -/
theorem absent_refused_admin :
    (handleRequest (Client.start.run [Client.login 6 "10.0.0.2" "admin" "admin"]).state
      (Client.destroyUser 6 "10.0.0.2" "bob" "bobt" "pw")).Refused
      (Client.start.run [Client.login 6 "10.0.0.2" "admin" "admin"]).state 6 := by
  refine (absent_refused_iff _ (Client.destroyUser 6 "10.0.0.2" "bob" "bobt" "pw")
    (.destroyUser (d := CharArray.strncpy _ (ascii "bob")) (t := CharArray.strncpy _ (ascii "bobt"))
      (p := CharArray.strncpy _ (ascii "pw")) ⟨⟨[], by decide +kernel⟩, Or.inr ?_⟩)).mpr (Or.inl ?_)
  · decide +kernel
  · refine ⟨CharArray.strncpy _ (ascii "bob"), CharArray.strncpy _ (ascii "bobt"),
      CharArray.strncpy _ (ascii "pw"), [], ⟨6, adminName, Client.address "10.0.0.2", adminName,
        adminUuid, 1⟩, by decide +kernel, by decide +kernel,
      loginUserAccount (generateUserAccount adminUuid adminName) (Client.address "10.0.0.2"),
      by decide +kernel, Or.inl rfl⟩

/-- A client that has not logged in asks for a user to be destroyed: the missing session is used. -/
theorem absent_not_refused :
    NamesAbsent Client.start.state (Client.destroyUser 5 "10.0.0.1" "bob" "bobt" "pw") ∧
      ¬ (handleRequest Client.start.state
        (Client.destroyUser 5 "10.0.0.1" "bob" "bobt" "pw")).Refused Client.start.state 5 := by
  refine ⟨.destroyUser (d := CharArray.strncpy _ (ascii "bob"))
    (t := CharArray.strncpy _ (ascii "bobt")) (p := CharArray.strncpy _ (ascii "pw"))
    ⟨⟨[], by decide +kernel⟩, Or.inl (by decide +kernel)⟩, fun h => ?_⟩
  have hdead : (handleRequest Client.start.state
      (Client.destroyUser 5 "10.0.0.1" "bob" "bobt" "pw")).returned = false := by decide +kernel
  rw [h.returned] at hdead
  cases hdead

end ChatServer
