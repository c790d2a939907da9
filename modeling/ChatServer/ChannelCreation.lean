import ChatServer.Invariant.ChannelHistory

/-!
# Creating a channel

`read_and_create_channel` decides over the body, the session cache, the display names and a scan of
all channels, in this order. Behind the four checks it stores one record, and nothing that it does
before them touches a database.
-/

namespace ChatServer

open CLib

/-- A list with one name in its first slot. -/
def NameList.Single (l : NameList) (d : Str) : Prop :=
  l.slots.map (·.str) = d :: List.replicate (defaultListSize-1) []

/-- The record of a channel that nobody has joined or changed yet. -/
structure NewChannel (ch : ChannelInfo) (c d p : Str) : Prop where
  name : ch.channelName.str = c
  creator : ch.creator.str = d
  users : ch.userList.Single d
  admins : ch.adminList.Single d
  banned : ∀ u ∈ ch.bannedList.slots, u = .empty _
  publicity : ch.publicity = true ↔ p = ascii "1"

/-- The channel database has one record more, and nothing else has changed. -/
structure GainsChannel (s s' : State) (ch : ChannelInfo) : Prop where
  new : s.channelInfo.lookup ch.channelId = none
  channels : ∀ k, s'.channelInfo.lookup k =
    if k = ch.channelId then some ch else s.channelInfo.lookup k
  rest : s' = { s with channelInfo := s'.channelInfo }

/-- A session from the address has the display name, no channel has the channel name, and the name
of the administrator is only used while it is registered. -/
structure MayCreate (s : State) (addr : IpAddr) (c d p : Str) : Prop where
  publicity : p.length = 1
  session : ∃ u ∈ s.activeUsers.live, u.ipAddress = addr ∧ u.dsplyName.str = d
  free : ∀ k ch, s.channelInfo.lookup k = some ch → ch.channelName.str ≠ c
  registered : d = ascii "admin" → ∃ u, s.displayNames.lookup adminName = some u

variable {s : State}

theorem single_set (d : Name) : (NameList.empty.set 0 d).Single d.str := by
  rw [NameList.Single, NameList.set, NameList.empty]
  simp [List.replicate, CharArray.empty]

theorem newChannel_createChannel (u : Uuid) (c d : Name) (p : Str) :
    NewChannel (createChannel u c d (p = ascii "1")) c.str d.str p where
  name := rfl
  creator := rfl
  users := single_set d
  admins := single_set d
  banned := fun _ hu => List.eq_of_mem_replicate hu
  publicity := decide_eq_true_iff

theorem gainsChannel_insert {ch : ChannelInfo} (h : s.channelInfo.lookup ch.channelId = none) :
    GainsChannel s (s.insertChannelInfo ch) ch :=
  ⟨h, Dbm.lookup_insert_eq s.channelInfo ch.channelId ch, rfl⟩

/-- A name that no channel had leads to the new channel, in whatever order the keys come. -/
theorem getChannelInfo_insert {ch : ChannelInfo} (env : Env)
    (hfree : ∀ k c, s.channelInfo.lookup k = some c → c.channelName ≠ ch.channelName) :
    (s.insertChannelInfo ch).getChannelInfo env ch.channelName = some ch := by
  cases h : (s.insertChannelInfo ch).getChannelInfo env ch.channelName with
  | none => exact absurd rfl (getChannelInfo_none h (AList.lookup_insert _))
  | some c =>
    obtain ⟨hname, k, hk⟩ := getChannelInfo_some h
    obtain ⟨_, rfl⟩ | ⟨_, hk⟩ := Dbm.lookup_insert_iff.mp hk
    · rfl
    · exact absurd hname (hfree k c hk)

theorem checkDuplicateChannelName_eq_false {env : Env} {c : Name} :
    s.checkDuplicateChannelName env c = false ↔
      ∀ k ch, s.channelInfo.lookup k = some ch → ch.channelName ≠ c := by
  rw [State.checkDuplicateChannelName]
  cases h : s.getChannelInfo env c with
  | none => exact ⟨fun _ k ch hch => getChannelInfo_none h hch, fun _ => rfl⟩
  | some ch =>
    obtain ⟨hname, k, hk⟩ := getChannelInfo_some h
    refine ⟨fun hf => ?_, fun hf => absurd hname (hf k ch hk)⟩
    cases hf

theorem getDisplayNameInCache_eq {c : Cache} {addr : IpAddr} {d name : Name}
    (h : c.getDisplayNameInCache addr d = some name) : name = d := by
  obtain ⟨u, hu, rfl⟩ := Option.map_eq_some_iff.mp h
  have hp := List.find?_some hu
  exact (of_decide_eq_true hp).2

theorem getDisplayNameInCache_isSome {c : Cache} {addr : IpAddr} {d : Name} :
    (c.getDisplayNameInCache addr d).isSome = true ↔
      ∃ u ∈ c.live, u.ipAddress = addr ∧ u.dsplyName = d := by
  rw [Cache.getDisplayNameInCache, Option.isSome_map, List.find?_isSome]
  simp only [decide_eq_true_eq]

/-- The session of the address has the name the request asks for, so the check that could answer
403 never does. -/
theorem storeNewChannel_eq (s : State) (env : Env) (addr : IpAddr) (c d : Name) (p : Bool) :
    storeNewChannel s env addr c d p =
      if (s.activeUsers.getDisplayNameInCache addr d).isNone then .reply s errorChannel500 []
      else if d = adminName ∧ s.checkDuplicateDisplayName d = false then
        .reply s errorChannel404 []
      else if s.checkDuplicateChannelName env c then .reply s errorChannel409 []
      else .reply (s.insertChannelInfo (createChannel env.uuid c d p)) 0 (c.str ++ [etx]) := by
  rw [storeNewChannel]
  cases h : s.activeUsers.getDisplayNameInCache addr d with
  | none => rfl
  | some name =>
    obtain rfl := getDisplayNameInCache_eq h
    simp

/-- The check of the publicity lets pass what has one byte. -/
theorem publicity_iff {p : Str} : (p ≠ ascii "1" ∧ p.length ≠ 1) ↔ ¬ p.length = 1 := by
  refine ⟨fun h => h.2, fun h => ⟨?_, h⟩⟩
  rintro rfl
  exact h rfl

theorem readAndCreateChannel_eq {env : Env} {addr : IpAddr} {n : ℕ} {bytes : List UInt8}
    {c d : Name} {p : Str} {rest : List Str} (hn : bodyIncomplete n bytes = false)
    (hfs : fields bytes = c.str :: d.str :: p :: rest) :
    readAndCreateChannel s env addr n bytes =
      if p.length = 1 then storeNewChannel s env addr c d (p = ascii "1")
      else .reply s errorChannel400 [] := by
  have h₁ : nextField tokenNameLength (fields bytes) = .ok (c, d.str :: p :: rest) :=
    nextField_eq_ok.mpr hfs
  have h₂ : nextField tokenNameLength (d.str :: p :: rest) = .ok (d, p :: rest) :=
    nextField_eq_ok.mpr rfl
  simp only [readAndCreateChannel, hn, h₁, h₂, Bool.false_eq_true, if_false, publicity_iff,
    ite_not]

/-- The conditions are what the checks test. -/
theorem mayCreate_iff {env : Env} {addr : IpAddr} {c d : Name} {p : Str} :
    MayCreate s addr c.str d.str p ↔
      p.length = 1 ∧ (s.activeUsers.getDisplayNameInCache addr d).isSome = true ∧
        ¬ (d = adminName ∧ s.checkDuplicateDisplayName d = false) ∧
        s.checkDuplicateChannelName env c = false := by
  rw [getDisplayNameInCache_isSome, checkDuplicateChannelName_eq_false]
  constructor
  · intro h
    obtain ⟨u, hu, haddr, hname⟩ := h.session
    refine ⟨h.publicity, ⟨u, hu, haddr, CharArray.ext hname⟩, ?_, ?_⟩
    · rintro ⟨rfl, hnot⟩
      obtain ⟨v, hv⟩ := h.registered rfl
      rw [State.checkDuplicateDisplayName, hv] at hnot
      cases hnot
    · intro k ch hk he
      exact h.free k ch hk (by rw [he])
  · rintro ⟨hp, ⟨u, hu, haddr, hname⟩, hadmin, hfree⟩
    refine ⟨hp, ⟨u, hu, haddr, by rw [hname]⟩, ?_, fun ha => ?_⟩
    · intro k ch hk he
      exact hfree k ch hk (CharArray.ext he)
    · obtain rfl : d = adminName := CharArray.ext ha
      exact Option.isSome_iff_exists.mp
        (Bool.eq_true_of_not_eq_false fun hnot => hadmin ⟨rfl, hnot⟩)

/-- A request that passes all checks stores its channel. -/
theorem readAndCreateChannel_granted {env : Env} {addr : IpAddr} {n : ℕ} {bytes : List UInt8}
    {c d : Name} {p : Str} {rest : List Str} (hn : bodyIncomplete n bytes = false)
    (hfs : fields bytes = c.str :: d.str :: p :: rest) (h : MayCreate s addr c.str d.str p) :
    readAndCreateChannel s env addr n bytes =
      .reply (s.insertChannelInfo (createChannel env.uuid c d (p = ascii "1"))) 0
        (c.str ++ [etx]) := by
  obtain ⟨hp, hcache, hadmin, hdup⟩ := (@mayCreate_iff s env addr c d p).mp h
  rw [readAndCreateChannel_eq hn hfs, if_pos hp, storeNewChannel_eq,
    if_neg (by simpa [Option.isSome_iff_ne_none] using hcache), if_neg hadmin,
    if_neg (by rw [hdup]; exact Bool.false_ne_true)]

/-- Any other request is answered by the first check it fails, which leaves everything as it was. -/
theorem readAndCreateChannel_refused {env : Env} {addr : IpAddr} {n : ℕ} {bytes : List UInt8}
    {c d : Name} {p : Str} {rest : List Str} (hn : bodyIncomplete n bytes = false)
    (hfs : fields bytes = c.str :: d.str :: p :: rest) (h : ¬ MayCreate s addr c.str d.str p) :
    ∃ code ∈ [errorChannel400, errorChannel404, errorChannel409, errorChannel500],
      readAndCreateChannel s env addr n bytes = .reply s code [] := by
  rw [@mayCreate_iff s env addr c d p] at h
  rw [readAndCreateChannel_eq hn hfs, storeNewChannel_eq]
  by_cases hp : p.length = 1
  · rw [if_pos hp]
    -- one branch for each check, in the order of the source
    split
    · exact ⟨_, by simp, rfl⟩
    · rename_i hcache
      split
      · exact ⟨_, by simp, rfl⟩
      · rename_i hadmin
        split
        · exact ⟨_, by simp, rfl⟩
        · rename_i hdup
          refine absurd ⟨hp, ?_, hadmin, Bool.eq_false_of_not_eq_true hdup⟩ h
          exact Option.isSome_iff_ne_none.mpr fun hnone =>
            hcache (Option.isNone_iff_eq_none.mpr hnone)
  · rw [if_neg hp]
    exact ⟨_, by simp, rfl⟩

/-- An outcome that grants what may be granted: one channel more, found under its name in whatever
order the keys come, or no change at all. -/
structure CreatesExactly (s : State) (env : Env) (addr : IpAddr) (c d p : Str) (s' : State)
    (reply : Reply) : Prop where
  granted : reply.result = 0 ↔ MayCreate s addr c d p
  stored : reply.result = 0 → ∃ ch, ch.channelId = env.uuid ∧ NewChannel ch c d p ∧
    GainsChannel s s' ch ∧ ∀ env' name, name.str = c → s'.getChannelInfo env' name = some ch
  refused : reply.result ≠ 0 → s' = s

theorem CreatesExactly.of_refusal {env : Env} {addr : IpAddr} {c d p : Str} {code : Int}
    (hcode : code ≠ 0) (hno : ¬ MayCreate s addr c d p) :
    CreatesExactly s env addr c d p s ⟨code, [], []⟩ where
  granted := ⟨fun h => absurd h hcode, fun h => absurd h hno⟩
  stored := fun h => absurd h hcode
  refused := fun _ => rfl

theorem CreatesExactly.of_grant {env : Env} {addr : IpAddr} {c d : Name} {p token : Str}
    (h : MayCreate s addr c.str d.str p) (hfresh : s.channelInfo.lookup env.uuid = none) :
    CreatesExactly s env addr c.str d.str p
      (s.insertChannelInfo (createChannel env.uuid c d (p = ascii "1"))) ⟨0, token, []⟩ where
  granted := ⟨fun _ => h, fun _ => rfl⟩
  stored := by
    intro _
    refine ⟨_, rfl, newChannel_createChannel env.uuid c d p, gainsChannel_insert hfresh, ?_⟩
    intro env' name hname
    obtain rfl : name = c := CharArray.ext hname
    refine getChannelInfo_insert env' fun k ch hk he => h.free k ch hk ?_
    rw [he]
    rfl
  refused := fun h => absurd rfl h

/-- With a channel name and a display name of at most 20 bytes the request returns 0 if and only if
all checks pass. Then there is one channel more, and nothing else has changed; otherwise nothing has
changed. -/
theorem create_channel_exact (s : State) (env : Env) (addr : IpAddr) (n : ℕ) (bytes : List UInt8)
    (hn : bodyIncomplete n bytes = false) (c d p : Str) (rest : List Str)
    (hfs : fields bytes = c :: d :: p :: rest) (hc : c.length ≤ 20) (hd : d.length ≤ 20)
    (hfresh : s.channelInfo.lookup env.uuid = none) :
    ∃ s' reply, readAndCreateChannel s env addr n bytes = ⟨s', .ok reply⟩ ∧
      CreatesExactly s env addr c d p s' reply := by
  obtain ⟨c, rfl⟩ : ∃ c' : Name, c'.str = c := ⟨⟨c, Nat.le_succ_of_le hc⟩, rfl⟩
  obtain ⟨d, rfl⟩ : ∃ d' : Name, d'.str = d := ⟨⟨d, Nat.le_succ_of_le hd⟩, rfl⟩
  by_cases h : MayCreate s addr c.str d.str p
  · exact ⟨_, _, readAndCreateChannel_granted hn hfs h, .of_grant h hfresh⟩
  · obtain ⟨code, hcode, heq⟩ := @readAndCreateChannel_refused s env _ _ _ _ _ _ _ hn hfs h
    refine ⟨_, _, heq, .of_refusal ?_ h⟩
    rintro rfl
    revert hcode
    decide

/-- The administrator of `teaLife` creates a second channel. -/
theorem create_channel_exact_teaLife :
    MayCreate (Life.run teaLife).state (Client.address "10.0.0.2") (ascii "coffee")
        (ascii "admin") (ascii "0") ∧
      ∃ s' reply, readAndCreateChannel (Life.run teaLife).state
          (Client.env "44444444-4444-4444-4444-444444444444") (Client.address "10.0.0.2") 15
          (Client.body ["coffee", "admin", "0"]) = ⟨s', .ok reply⟩ ∧
        CreatesExactly (Life.run teaLife).state
          (Client.env "44444444-4444-4444-4444-444444444444") (Client.address "10.0.0.2")
          (ascii "coffee") (ascii "admin") (ascii "0") s' reply := by
  refine ⟨?_, create_channel_exact _ _ _ 15 _ (by decide) _ _ _ [] (by decide) (by decide)
    (by decide) (by decide +kernel)⟩
  exact (@mayCreate_iff _ Client.firstEnv _ (CharArray.strncpy _ (ascii "coffee"))
    adminName _).mpr ⟨by decide, by decide +kernel, by decide +kernel, by decide +kernel⟩

end ChatServer
