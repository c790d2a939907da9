import ChatServer.Machine.Agreement

/-!
# Requests on a machine

What the machine adds to a request of C strings that end in their arrays: its allocator, which may
have no room for the account that the handler fetches first, and the peers that are gone. Everything
else is `ChatServer.handleRequest`.
-/

namespace ChatServer

open CLib

namespace Machine

variable (m : Machine) {s : State}

/-! Without room the account that is fetched first is the end. -/

section Tight

variable {r : Request} {n : ℕ} {bytes : List UInt8} (hroom : ¬ m.Roomy) {a : UserAccount}
include hroom

theorem readAndDestroyUser_tight (hn : bodyIncomplete n bytes = false)
    (ha : fetchedAccount s r (fields bytes) .destroyUser = some a) :
    m.readAndDestroyUser s r.fd n bytes = .fault s .overflow := by
  simp only [fetchedAccount, bind, Option.bind_eq_some_iff, Prod.exists] at ha
  obtain ⟨d, ts, h₁, t, us, h₂, p, vs, h₃, sender, hsender, ha⟩ := ha
  have hdest := destroyFields_iff_fields.mpr ⟨vs, by
    rw [field?_some h₁, field?_some h₂, field?_some h₃]⟩
  rw [readAndDestroyUser, if_neg (by simp [hn]), hdest]
  simp only [destroyFields_ne_empty hdest, hsender, m.getUserAccount_tight hroom ha]
  rfl

theorem copyMessages_tight {xs : List MessageInfo} {channelId : Uuid} {first : MessageInfo}
    (hfirst : xs.find? (fun x => channelId = x.channelId) = some first)
    (ha : s.getUserAccount first.userId = some a) (size : ℕ) (list : List UInt8) :
    m.copyMessages s channelId size list xs = .error .overflow := by
  induction xs with
  | nil => cases hfirst
  | cons x xs ih =>
    rw [copyMessages]
    by_cases hid : channelId = x.channelId
    · rw [List.find?_cons_of_pos (by simpa using hid)] at hfirst
      rw [if_pos hid, Option.some.inj hfirst, m.getUserAccount_tight hroom ha]
    · rw [List.find?_cons_of_neg (by simpa using hid)] at hfirst
      rw [if_neg hid, ih hfirst]

section Reading

variable (hs : cStrings.Holds s)
include hs

theorem readAndCreateMessage_tight
    (h : ∀ x ∈ limits (fields bytes) .createMessage, x.1.length ≤ x.2)
    (hn : bodyIncomplete n bytes = false)
    (ha : fetchedAccount s r (fields bytes) .createMessage = some a) :
    m.readAndCreateMessage s r.env n bytes = .fault s .overflow := by
  simp only [fetchedAccount, bind, Option.bind_eq_some_iff, Prod.exists,
    Option.ite_none_left_eq_some] at ha
  obtain ⟨d, ts, h₁, hack, c, us, h₂, content, vs, h₃, t, hhead, channel, hch, user, hu, ha⟩ := ha
  obtain ⟨rest, rfl⟩ : ∃ rest, vs = t :: rest := by
    cases vs with
    | nil => cases hhead
    | cons v vs => exact ⟨vs, by rw [Option.some.inj hhead]⟩
  have hfs : fields bytes = d.str :: c.str :: content.str :: t :: rest := by
    rw [field?_some h₁, field?_some h₂, field?_some h₃]
  have hd₁ : nextField tokenNameLength (fields bytes) =
      .ok (d, c.str :: content.str :: t :: rest) := nextField_eq_ok.mpr hfs
  have hempty := messageFields_ne_empty hd₁ (messageFields_cons c content t rest)
  have hlim : limits (fields bytes) .createMessage = (fields bytes).zip
      [tokenNameLength-1, tokenNameLength-1, maxMessageSize-1, timestampSize-1] := by
    rw [limits, if_neg (by simpa [hfs] using hack)]
  have hd : d.Text := text_of_limits h (by simp [hfs]) (c := 20) (by rw [hlim]; simp [hfs])
    (by decide)
  have hc : c.Text := text_of_limits h (by simp [hfs]) (c := 20) (by rw [hlim]; simp [hfs])
    (by decide)
  rw [readAndCreateMessage, if_neg (by simp [hn]), hd₁]
  dsimp only
  rw [m.read_eq _ hd, if_neg hack, messageFields_cons]
  dsimp only
  rw [if_neg (by rw [hempty]; exact Bool.false_ne_true), storeNewMessage, m.read_eq _ hc,
    m.read_eq _ hd, m.getChannelInfo_eq hs, hch]
  dsimp only
  rw [getConnectedUserByDisplayName_eq hs, hu]
  dsimp only
  rw [m.getUserAccount_tight hroom ha]

theorem readAndReadMessage_tight (h : ∀ x ∈ limits (fields bytes) .readMessage, x.1.length ≤ x.2)
    (hnumber : ∀ t ∈ (fields bytes)[1]?, t.length < tokenNameLength)
    (ha : fetchedAccount s r (fields bytes) .readMessage = some a) :
    m.readAndReadMessage s r.env bytes = .fault s .overflow := by
  simp only [fetchedAccount, bind, Option.bind_eq_some_iff, Prod.exists,
    Option.ite_none_left_eq_some] at ha
  obtain ⟨c, ts, h₁, number, rest, h₂, hdigits, channel, hch, first, hfirst, ha⟩ := ha
  have hfs : fields bytes = c.str :: number.str :: rest := by rw [field?_some h₁, field?_some h₂]
  have hc : c.Text := text_of_limits h (by simp [hfs]) (c := 20) (by simp [hfs, limits])
    (by decide)
  have hnum : number.Text := ⟨zero_not_mem_field (by rw [hfs]; simp),
    hnumber number.str (by simp [hfs])⟩
  have hempty : (c.isEmpty || number.isEmpty) = false := by
    rw [isEmpty_of_mem_fields (by rw [hfs]; simp), isEmpty_of_mem_fields (by rw [hfs]; simp)]
    rfl
  rw [readAndReadMessage, readMessageFields_eq_ok.mpr ⟨rest, hfs⟩]
  dsimp only
  rw [m.read_eq _ hnum, if_neg hdigits, if_neg (by rw [hempty]; exact Bool.false_ne_true),
    m.read_eq _ hc, m.getChannelInfo_eq hs, hch]
  cases hall : s.getAllMessages r.env with
  | nil =>
    rw [hall] at hfirst
    cases hfirst
  | cons x xs =>
    rw [hall] at hfirst
    simp only [buildMessageList]
    rw [m.copyMessages_tight hroom hfirst ha]

theorem readAndLoginUser_tight (h : ∀ x ∈ limits (fields bytes) .login, x.1.length ≤ x.2)
    (hn : bodyIncomplete n bytes = false)
    (ha : fetchedAccount s r (fields bytes) .login = some a) :
    m.readAndLoginUser s r.env r.fd r.clntAddr n bytes = .fault s .overflow := by
  simp only [fetchedAccount, bind, Option.bind_eq_some_iff, Prod.exists,
    Option.ite_none_left_eq_some] at ha
  obtain ⟨t, ts, h₁, p, rest, h₂, l, hl, hcred, ha⟩ := ha
  have hfs : fields bytes = t.str :: p.str :: rest := by rw [field?_some h₁, field?_some h₂]
  have ht : t.Text := text_of_limits h (by simp [hfs]) (c := 20) (by simp [hfs, limits])
    (by decide)
  have hp : p.Text := text_of_limits h (by simp [hfs]) (c := 30) (by simp [hfs, limits])
    (by decide)
  have hltext := (hs.logins t l hl).2
  have hlogin : loginFields bytes = .ok (t, p) := loginFields_eq_ok.mpr
    ⟨_, _, nextField_eq_ok.mpr hfs, nextField_eq_ok.mpr rfl⟩
  rw [readAndLoginUser, if_neg (by simp [hn]), hlogin]
  dsimp only
  rw [hl]
  dsimp only
  rw [UserLogin.passwordAt_eq m.heap hltext, UserLogin.tokenAt_eq m.heap hltext, m.read_eq _ ht,
    m.read_eq _ hp, if_neg (by simpa using hcred), m.getUserAccount_tight hroom ha]

end Reading

theorem readAndLogoutUser_tight (hn : bodyIncomplete n bytes = false)
    (ha : fetchedAccount s r (fields bytes) .logout = some a) :
    m.readAndLogoutUser s r.clntAddr n bytes = .fault s .overflow := by
  simp only [fetchedAccount, bind, Option.bind_eq_some_iff, Prod.exists] at ha
  obtain ⟨d, ts, h₁, u, hu, ha⟩ := ha
  rw [readAndLogoutUser, if_neg (by simp [hn]), nextField_eq_ok.mpr (field?_some h₁)]
  dsimp only
  rw [hu]
  dsimp only
  rw [m.getUserAccount_tight hroom ha]

end Tight

/-- The account that a request makes its handler fetch first: one for which the body is incomplete
gets no further, unless it reads messages. -/
def fetchedBy (s : State) (r : Request) : Option UserAccount :=
  match r.decode with
  | .stop _ _ => none
  | .serve k header rest =>
    if k ≠ .readMessage ∧ bodyIncomplete header.bodySize (rest.take header.bodySize) = true then
      none
    else fetchedAccount s r (fields (rest.take header.bodySize)) k

section Requests

variable {r : Request} {k : RequestKind} {header : ChatHeader} {rest : List UInt8}

theorem limits_of_ends (hr : r.Ends) (hd : r.decode = .serve k header rest) :
    ∀ x ∈ limits (fields (rest.take header.bodySize)) k, x.1.length ≤ x.2 := by
  have h := hr.fields
  rw [Request.OverLong, hd] at h
  exact fun x hx => Nat.le_of_not_lt fun hlt => h (Or.inr ⟨x, hx, hlt⟩)

theorem length_of_ends (hr : r.Ends) (hd : r.decode = .serve k header rest) :
    (rest.take header.bodySize).length ≤ defaultBuffer := by
  have h := hr.fields
  rw [Request.OverLong, hd, not_or, Nat.not_le] at h
  exact (List.length_take_le _ _).trans h.1.le

theorem number_of_ends (hr : r.Ends) (hd : r.decode = .serve .readMessage header rest) :
    ∀ t ∈ (fields (rest.take header.bodySize))[1]?, t.length < tokenNameLength := by
  have h := hr.number
  rw [Request.numberField, hd] at h
  exact h

theorem bodyIncomplete_eq (hk : k ≠ .readMessage) {n : ℕ} {bytes : List UInt8}
    (hn : bodyIncomplete n bytes = true) :
    m.runHandler k s r n bytes = ChatServer.runHandler k s r n bytes := by
  cases k with
  | readMessage => exact absurd rfl hk
  | createUser | destroyUser | createChannel | readChannel | updateChannel | createMessage
  | login | logout =>
    simp only [runHandler, ChatServer.runHandler, readAndCreateUser, ChatServer.readAndCreateUser,
      readAndDestroyUser, ChatServer.readAndDestroyUser, readAndCreateChannel,
      ChatServer.readAndCreateChannel, readAndReadChannel, ChatServer.readAndReadChannel,
      readAndUpdateChannel, ChatServer.readAndUpdateChannel, readAndCreateMessage,
      ChatServer.readAndCreateMessage, readAndLoginUser, ChatServer.readAndLoginUser,
      readAndLogoutUser, ChatServer.readAndLogoutUser, hn, if_true]

variable (hs : cStrings.Holds s) (hr : r.Ends)
include hs hr

theorem runHandler_eq (hd : r.decode = .serve k header rest)
    (hroom : m.Roomy ∨ fetchedBy s r = none) :
    m.runHandler k s r header.bodySize (rest.take header.bodySize) =
      ChatServer.runHandler k s r header.bodySize (rest.take header.bodySize) := by
  have hlim := limits_of_ends hr hd
  rw [fetchedBy, hd] at hroom
  by_cases hn : k ≠ .readMessage ∧ bodyIncomplete header.bodySize (rest.take header.bodySize) = true
  · exact m.bodyIncomplete_eq hn.1 hn.2
  · dsimp only at hroom
    rw [if_neg hn] at hroom
    have hfull : k ≠ .readMessage →
        bodyIncomplete header.bodySize (rest.take header.bodySize) = false := fun hk =>
      Bool.eq_false_iff.mpr fun h => hn ⟨hk, h⟩
    cases k with
    | createUser => exact m.readAndCreateUser_eq hlim
    | destroyUser => exact m.readAndDestroyUser_eq hs hlim (hfull (by decide)) hroom
    | createChannel => exact m.readAndCreateChannel_eq hs hlim _
    | readChannel => exact m.readAndReadChannel_eq hs hlim
    | updateChannel => exact m.readAndUpdateChannel_eq hs hlim
    | createMessage => exact m.readAndCreateMessage_eq hs hlim (hfull (by decide)) hroom
    | readMessage => exact m.readAndReadMessage_eq hs hlim (number_of_ends hr hd) hroom
    | login => exact m.readAndLoginUser_eq hs hlim hr.addr (hfull (by decide)) hroom
    | logout => exact m.readAndLogoutUser_eq hs (hfull (by decide)) hroom

theorem runHandler_tight (hd : r.decode = .serve k header rest) (hroom : ¬ m.Roomy)
    (hf : fetchedBy s r ≠ none) :
    m.runHandler k s r header.bodySize (rest.take header.bodySize) = .fault s .overflow := by
  have hlim := limits_of_ends hr hd
  obtain ⟨a, ha⟩ := Option.ne_none_iff_exists'.mp hf
  rw [fetchedBy, hd] at ha
  dsimp only at ha
  split at ha
  · cases ha
  · rename_i hn
    have hfull : k ≠ .readMessage →
        bodyIncomplete header.bodySize (rest.take header.bodySize) = false := fun hk =>
      Bool.eq_false_iff.mpr fun h => hn ⟨hk, h⟩
    cases k with
    | destroyUser => exact m.readAndDestroyUser_tight hroom (hfull (by decide)) ha
    | createMessage => exact m.readAndCreateMessage_tight hroom hs hlim (hfull (by decide)) ha
    | readMessage => exact m.readAndReadMessage_tight hroom hs hlim (number_of_ends hr hd) ha
    | login => exact m.readAndLoginUser_tight hroom hs hlim (hfull (by decide)) ha
    | logout => exact m.readAndLogoutUser_tight hroom (hfull (by decide)) ha
    | createUser | createChannel | readChannel | updateChannel => cases ha

omit hr in
/-- The copies of a message go out on the channels and sessions that the handler found. -/
theorem forwards_of_createMessage {n : ℕ} {bytes : List UInt8} {reply : Reply}
    (hv : (ChatServer.readAndCreateMessage s r.env n bytes).value = .ok reply) :
    m.forwards (ChatServer.readAndCreateMessage s r.env n bytes).state r.env header reply.token
        reply.forward =
      ChatServer.forwards (ChatServer.readAndCreateMessage s r.env n bytes).state r.env header
        reply.token reply.forward := by
  have hframe : ((ChatServer.readAndCreateMessage s r.env n bytes).state = s ∨
      ∃ x, (ChatServer.readAndCreateMessage s r.env n bytes).state = s.insertMessage x) ∧
      reply.token.length ≤ tokenNameLength := by
    generalize hout : ChatServer.readAndCreateMessage s r.env n bytes = out at hv ⊢
    unfold ChatServer.readAndCreateMessage ChatServer.storeNewMessage at hout
    repeat' split at hout
    all_goals
      subst hout
      cases hv
    all_goals first
      | exact ⟨Or.inl rfl, Nat.zero_le _⟩
      | exact ⟨Or.inl rfl, CharArray.fits _⟩
      | exact ⟨Or.inr ⟨_, rfl⟩, CharArray.fits _⟩
  obtain ⟨heq | ⟨x, heq⟩, hlen⟩ := hframe
  · rw [heq]
    exact m.forwards_eq hs header hlen _
  · rw [heq]
    exact m.forwards_eq (s := s) hs header hlen _

/-- A request of C strings that end in their arrays is served as by the handlers that read arrays,
if there is room for the account that it fetches. -/
theorem handleRequest_eq (hroom : m.Roomy ∨ fetchedBy s r = none) :
    m.handleRequest s r = ChatServer.handleRequest s r := by
  rw [handleRequest, ChatServer.handleRequest]
  cases hd : r.decode with
  | stop ret rest => rfl
  | serve k header rest =>
    dsimp only
    rw [serve, ChatServer.serve]
    dsimp only
    rw [m.runHandler_eq hs hr hd hroom]
    split
    · rfl
    · cases hv :
          (ChatServer.runHandler k s r header.bodySize (rest.take header.bodySize)).value with
      | error f => rfl
      | ok reply =>
        dsimp only
        rw [respond, ChatServer.respond]
        have hafter : m.afterResponse k
            (ChatServer.runHandler k s r header.bodySize (rest.take header.bodySize)).state r header
              reply =
            ChatServer.afterResponse k
              (ChatServer.runHandler k s r header.bodySize (rest.take header.bodySize)).state r
              header reply := by
          cases k with
          | createMessage =>
            simp only [afterResponse, ChatServer.afterResponse, ChatServer.runHandler,
              m.forwards_of_createMessage hs hv]
            all_goals rfl
          | createUser | destroyUser | createChannel | readChannel | updateChannel | readMessage
          | login | logout => rfl
        rw [hafter]
        all_goals rfl

/-- Without the room, fetching an account is the end of the process. -/
theorem handleRequest_tight (hroom : ¬ m.Roomy) (hf : fetchedBy s r ≠ none) :
    m.handleRequest s r =
      ⟨s, (ChatServer.handleRequest s r).rest, [], [], .error .overflow⟩ := by
  rw [handleRequest, ChatServer.handleRequest]
  cases hd : r.decode with
  | stop ret rest =>
    rw [fetchedBy, hd] at hf
    exact absurd rfl hf
  | serve k header rest =>
    dsimp only
    rw [serve_rest, serve, if_neg (Nat.not_lt.mpr (length_of_ends hr hd))]
    dsimp only
    rw [m.runHandler_tight hs hr hd hroom hf]
    rfl

end Requests

end Machine

end ChatServer
