import ChatServer.Lib.Block
import ChatServer.Machine.Runs
import ChatServer.MessageHistory

/-!
# The lists in the replies, in memory

`build_channel_name_list` and `build_message_list` size an allocation in a first loop and fill it
in a second. Here both are the writes they make, and are shown to stay inside the
allocation and to leave the lists of the handlers there.
-/

namespace ChatServer

open CLib

/-! ### Channel names -/

/-- The first loop of `build_channel_name_list`, over the strings `channels[i]->channel_name`. -/
def channelNameListSize (names : List Str) : ℕ :=
  names.foldl (fun size name => size + (name.length+1)) 0 + 1

/-- The second loop: `strcpy`, and a separator over its terminator. -/
def copyChannelNames : List Str → Cursor → Cursor
  | [], list => list
  | name :: names, list => copyChannelNames names ((list.strcpy name).push etx)

/-- `build_channel_name_list`, in memory that `malloc` returned. -/
def buildChannelNameBlock (heap : List UInt8) (names : List Str) : Block :=
  ((copyChannelNames names ⟨.alloc heap (channelNameListSize names), 0⟩).push 0).block

/-- Every name with its separator. -/
def nameListBytes (names : List Str) : Str := names.flatMap fun name => name ++ [etx]

theorem nameListBytes_cons (name : Str) (names : List Str) :
    nameListBytes (name :: names) = name ++ [etx] ++ nameListBytes names := rfl

theorem Machine.buildChannelNameList_eq (m : Machine) (channels : List ChannelInfo) :
    m.buildChannelNameList channels = nameListBytes (channels.map (·.nameAt m.heap)) := by
  rw [Machine.buildChannelNameList, nameListBytes, List.flatMap_map]

/-- The first loop counts what the second one writes. -/
theorem channelNameListSize_eq (names : List Str) :
    channelNameListSize names = (nameListBytes names).length+1 := by
  have hfold : ∀ n, names.foldl (fun size name => size + (name.length+1)) n =
      n + (nameListBytes names).length := by
    induction names with
    | nil => exact fun n => rfl
    | cons name names ih =>
      intro n
      rw [List.foldl_cons, ih, nameListBytes_cons]
      simp only [List.length_append, List.length_singleton]
      omega
  rw [channelNameListSize, hfold, Nat.zero_add]

/-- The second loop keeps what is there and appends the names. -/
theorem copyChannelNames_filled (names : List Str) {list : Cursor} {size : ℕ} {out : List UInt8}
    (h : list.Filled size out) (hsize : out.length+(nameListBytes names).length < size) :
    (copyChannelNames names list).Filled size (out ++ nameListBytes names) := by
  induction names generalizing list out with
  | nil => rw [nameListBytes, List.flatMap_nil, List.append_nil]; exact h
  | cons name names ih =>
    rw [nameListBytes_cons, ← List.append_assoc, ← List.append_assoc]
    simp only [nameListBytes_cons, List.length_append, List.length_singleton] at hsize
    have hname : (list.strcpy name).Filled size (out ++ name) := h.strcpy (by omega)
    have hetx : ((list.strcpy name).push etx).Filled size (out ++ name ++ [etx]) :=
      hname.push etx (by rw [List.length_append]; omega)
    exact ih hetx (by simp only [List.length_append, List.length_singleton]; omega)

/-- The block that is returned: the names with their separators, and one terminator. -/
theorem buildChannelNameBlock_filled (heap : List UInt8) (names : List Str) :
    (buildChannelNameBlock heap names).Filled (channelNameListSize names)
      (nameListBytes names ++ [0]) := by
  have hsize := channelNameListSize_eq names
  have hfilled := copyChannelNames_filled names
    (Cursor.filled_alloc heap (channelNameListSize names)) (by rw [hsize]; simp)
  rw [List.nil_append] at hfilled
  exact (hfilled.push 0 (by omega)).block

theorem zero_not_mem_nameListBytes {names : List Str} (h : ∀ name ∈ names, 0 ∉ name) :
    0 ∉ nameListBytes names := by
  intro h0
  obtain ⟨name, hname, hm⟩ := List.mem_flatMap.mp h0
  rcases List.mem_append.mp hm with hm | hm
  · exact h name hname hm
  · exact absurd (List.mem_singleton.mp hm) (by decide)

/-- The string that is returned, for names that are strings. -/
theorem cstr_buildChannelNameBlock (heap : List UInt8) {names : List Str}
    (h : ∀ name ∈ names, 0 ∉ name) :
    cstr (buildChannelNameBlock heap names).bytes = nameListBytes names := by
  have hfilled := buildChannelNameBlock_filled heap names
  rw [hfilled.bytes_eq (by rw [channelNameListSize_eq, List.length_append]; rfl)]
  exact cstr_append_zero (zero_not_mem_nameListBytes h) 1

/-- Splitting at the separators gives back the names, and then the end of the string. -/
theorem splitOn_nameListBytes {names : List Str} (h : ∀ name ∈ names, etx ∉ name) :
    (nameListBytes names).splitOn etx = names ++ [[]] := splitOn_flatMap h

/-- The names of the channels survive the list that is built of them, as long as they end in their
arrays. -/
theorem channel_name_list_codec (heap : List UInt8) (names : List Str)
    (h : ∀ name ∈ names, etx ∉ name ∧ 0 ∉ name) :
    (buildChannelNameBlock heap names).InBounds ∧
      (buildChannelNameBlock heap names).bytes.length = channelNameListSize names ∧
      (∀ i, (buildChannelNameBlock heap names).bytes[i]? = some 0 ↔
        i+1 = channelNameListSize names) ∧
      (cstr (buildChannelNameBlock heap names).bytes).splitOn etx = names ++ [[]] ∧
      (∀ heap' names', (∀ name ∈ names', etx ∉ name ∧ 0 ∉ name) →
        cstr (buildChannelNameBlock heap' names').bytes =
          cstr (buildChannelNameBlock heap names).bytes → names' = names) ∧
      ∀ (m : Machine) (channels : List ChannelInfo), channels.map (·.channelName.str) = names →
        (∀ c ∈ channels, c.channelName.Terminated) →
          m.buildChannelNameList channels = cstr (buildChannelNameBlock heap names).bytes := by
  have hfilled := buildChannelNameBlock_filled heap names
  have hbytes := hfilled.bytes_eq (by rw [channelNameListSize_eq, List.length_append]; rfl)
  have hclean := zero_not_mem_nameListBytes fun name hn => (h name hn).2
  have hcstr := cstr_buildChannelNameBlock heap fun name hn => (h name hn).2
  have hsplit := splitOn_nameListBytes fun name hn => (h name hn).1
  refine ⟨hfilled.inBounds, hfilled.size_eq, ?_, ?_, ?_, ?_⟩
  · intro i
    rw [hbytes, channelNameListSize_eq, Nat.add_right_cancel_iff]
    constructor
    · intro hi
      rcases Nat.lt_trichotomy i (nameListBytes names).length with hlt | heq | hgt
      · rw [List.getElem?_append_left hlt] at hi
        exact absurd (List.mem_of_getElem? hi) hclean
      · exact heq
      · rw [List.getElem?_eq_none (by rw [List.length_append]; exact hgt)] at hi
        cases hi
    · rintro rfl
      exact List.getElem?_concat_length
  · rw [hcstr, hsplit]
  · intro heap' names' h' he
    rw [hcstr, cstr_buildChannelNameBlock heap' fun name hn => (h' name hn).2] at he
    have hsplit' := splitOn_nameListBytes fun name hn => (h' name hn).1
    rw [he, hsplit] at hsplit'
    exact (List.append_cancel_right hsplit').symm
  · rintro m channels rfl hterm
    rw [hcstr, m.buildChannelNameList_eq]
    congr 1
    refine List.map_congr_left fun c hc => ?_
    have htext : c.channelName.Text := ⟨(h _ (List.mem_map_of_mem hc)).2, hterm c hc⟩
    exact htext.readOn_eq _

/-- An empty name among others, and memory that held something else. -/
theorem channel_name_list_of_three :
    (buildChannelNameBlock [7, 7, 7] [ascii "tea", [], ascii "go"]).bytes =
        ascii "tea" ++ [etx, etx] ++ ascii "go" ++ [etx, 0] ∧
      (cstr (buildChannelNameBlock [7, 7, 7] [ascii "tea", [], ascii "go"]).bytes).splitOn etx =
        [ascii "tea", [], ascii "go"] ++ [[]] :=
  ⟨by decide, (channel_name_list_codec [7, 7, 7] [ascii "tea", [], ascii "go"]
    (by decide)).2.2.2.1⟩

/-! ### Messages -/

/-- The second loop of `build_message_list` as the writes it makes. -/
def copyMessagesTo (m : Machine) (s : State) (channelId : Uuid) (size : ℕ) :
    List MessageInfo → Cursor → Except Fault Cursor
  | [], list => .ok list
  | x :: xs, list =>
    if channelId = x.channelId then
      match s.getUserAccount x.userId with
      | none => .error .nullPointer
      | some msgSender =>
        let displayName := msgSender.nameAt m.heap
        let content := x.contentAt m.heap
        if list.offset+displayName.length+content.length+timestampSize+3 ≥ size then .ok list
        else
          let list := (list.append displayName).push etx
          let list := (list.append content).push etx
          copyMessagesTo m s channelId size xs ((list.append x.timeStamp.bytes).push etx)
    else copyMessagesTo m s channelId size xs list

/-- `build_message_list` for a channel that exists, in memory that `malloc` returned. -/
def buildMessageBlock (m : Machine) (heap : List UInt8) (s : State) (messages : List MessageInfo)
    (channel : ChannelInfo) : Except Fault Block :=
  let size := m.messageListSize channel.channelId messages
  match copyMessagesTo m s channel.channelId size messages ⟨.alloc heap size, 0⟩ with
  | .error f => .error f
  | .ok list => .ok (list.push 0).block

/-- What the second loop copies of a message, the strings being read on. -/
def Machine.copied (m : Machine) (sender : UserAccount) (x : MessageInfo) : List UInt8 :=
  sender.nameAt m.heap ++ etx :: x.contentAt m.heap ++ etx :: x.timeStamp.bytes ++ [etx]

variable {m : Machine} {s : State}

theorem length_copied (sender : UserAccount) (x : MessageInfo) :
    (m.copied sender x).length =
      (sender.nameAt m.heap).length+(x.contentAt m.heap).length+timestampSize+3 := by
  simp only [Machine.copied, List.length_append, List.length_cons, List.length_nil,
    CharArray.length_bytes]
  omega

/-- The writes for one message leave its encoding behind what is there. -/
theorem filled_copied {list : Cursor} {size : ℕ} {out : List UInt8} (h : list.Filled size out)
    {sender : UserAccount} {x : MessageInfo} (hlt : out.length+(m.copied sender x).length < size) :
    ((((((list.append (sender.nameAt m.heap)).push etx).append
      (x.contentAt m.heap)).push etx).append
      x.timeStamp.bytes).push etx).Filled size (out ++ m.copied sender x) := by
  rw [length_copied] at hlt
  have hname : (list.append (sender.nameAt m.heap)).Filled size (out ++ sender.nameAt m.heap) :=
    h.append (by omega)
  have hname := hname.push etx (by rw [List.length_append]; omega)
  have hcontent := hname.append (show _+(x.contentAt m.heap).length ≤ size by
    simp only [List.length_append, List.length_singleton]; omega)
  have hcontent := hcontent.push etx
    (by simp only [List.length_append, List.length_singleton]; omega)
  have hstamp := hcontent.append (show _+x.timeStamp.bytes.length ≤ size by
    simp only [List.length_append, List.length_singleton, CharArray.length_bytes]; omega)
  have hstamp := hstamp.push etx
    (by simp only [List.length_append, List.length_singleton, CharArray.length_bytes]; omega)
  simpa only [Machine.copied, List.append_assoc, List.cons_append, List.nil_append] using hstamp

/-- The encodings of the first `k` messages of a channel in a state that has the accounts of their
senders. -/
def encodeFirst (encode : UserAccount → MessageInfo → List UInt8) (s : State) (channelId : Uuid)
    (k : ℕ) (messages : List MessageInfo) : List UInt8 :=
  ((messages.filter fun x => channelId = x.channelId).take k).flatMap fun x =>
    (s.getUserAccount x.userId).elim [] fun sender => encode sender x

/-- The second loop stops in front of the terminator, behind as many messages of the channel as
its test let through; and it copies what the list of the handler has. -/
theorem copyMessagesTo_filled {channelId : Uuid} {size : ℕ} {xs : List MessageInfo}
    (hsenders : ∀ x ∈ xs, channelId = x.channelId → (s.getUserAccount x.userId).isSome)
    {list : Cursor} {out : List UInt8} (h : list.Filled size out) (hlt : out.length < size) :
    ∃ list' k, copyMessagesTo m s channelId size xs list = .ok list' ∧
      list'.Filled size (out ++ encodeFirst m.copied s channelId k xs) ∧
      (out ++ encodeFirst m.copied s channelId k xs).length < size ∧
      (m.Roomy → m.copyMessages s channelId size out xs =
        .ok (out ++ encodeFirst m.copied s channelId k xs)) := by
  induction xs generalizing list out with
  | nil =>
    have hnil : out ++ encodeFirst m.copied s channelId 0 [] = out := List.append_nil out
    exact ⟨list, 0, rfl, by rw [hnil]; exact h, by rw [hnil]; exact hlt,
      fun _ => by rw [hnil]; rfl⟩
  | cons x xs ih =>
    have htail := fun x' hx' => hsenders x' (List.mem_cons_of_mem x hx')
    rw [copyMessagesTo, Machine.copyMessages]
    by_cases hx : channelId = x.channelId
    · obtain ⟨sender, hsender⟩ := Option.isSome_iff_exists.mp (hsenders x List.mem_cons_self hx)
      have hfirst : ∀ k, encodeFirst m.copied s channelId (k+1) (x :: xs) =
          m.copied sender x ++ encodeFirst m.copied s channelId k xs := by
        intro k
        rw [encodeFirst, List.filter_cons_of_pos (by simpa using hx), List.take_succ_cons,
          List.flatMap_cons, hsender]
        rfl
      have hfetch : m.Roomy → m.getUserAccount s x.userId = .ok (some sender) := fun hroom => by
        rw [m.getUserAccount_eq (Or.inl hroom), hsender]
      rw [if_pos hx, if_pos hx, hsender]
      dsimp only
      rw [h.offset_eq]
      by_cases hguard : out.length+(sender.nameAt m.heap).length+(x.contentAt m.heap).length+
          timestampSize+3 ≥ size
      · have hnil : out ++ encodeFirst m.copied s channelId 0 (x :: xs) = out := by
          rw [encodeFirst, List.take_zero, List.flatMap_nil, List.append_nil]
        rw [if_pos hguard]
        refine ⟨list, 0, rfl, by rw [hnil]; exact h, by rw [hnil]; exact hlt, fun hroom => ?_⟩
        rw [hfetch hroom, hnil]
        exact if_pos hguard
      · rw [if_neg hguard]
        have hroom : out.length+(m.copied sender x).length < size := by rw [length_copied]; omega
        obtain ⟨list', k, hto, hfilled, hlen, hcopy⟩ := ih htail (filled_copied h hroom)
          (by rw [List.length_append]; exact hroom)
        rw [List.append_assoc, ← hfirst] at hfilled hlen hcopy
        refine ⟨list', k+1, hto, hfilled, hlen, fun hroomy => ?_⟩
        rw [hfetch hroomy, ← hcopy hroomy]
        dsimp only
        rw [if_neg hguard]
        simp only [Machine.copied, List.append_assoc]
    · have hskip : ∀ k, encodeFirst m.copied s channelId k (x :: xs) =
          encodeFirst m.copied s channelId k xs := by
        intro k
        rw [encodeFirst, List.filter_cons_of_neg (by simpa using hx)]
        rfl
      rw [if_neg hx, if_neg hx]
      obtain ⟨list', k, hto, hfilled, hlen, hcopy⟩ := ih htail h hlt
      exact ⟨list', k, hto, by rw [hskip]; exact hfilled, by rw [hskip]; exact hlen,
        by rw [hskip]; exact hcopy⟩

/-- With strings that end in their arrays the encodings are those of the arrays. -/
theorem encodeFirst_eq {channelId : Uuid} {messages : List MessageInfo}
    (htext : ∀ x ∈ messages, channelId = x.channelId → x.messageContent.Text ∧
      ∀ a, s.getUserAccount x.userId = some a → a.displayName.Text) (k : ℕ) :
    encodeFirst m.copied s channelId k messages = encodeFirst copied s channelId k messages := by
  refine List.flatMap_congr fun x hx => ?_
  obtain ⟨hx, hid⟩ := List.mem_filter.mp (List.mem_of_mem_take hx)
  obtain ⟨hcontent, hname⟩ := htext x hx (of_decide_eq_true hid)
  cases ha : s.getUserAccount x.userId with
  | none => rfl
  | some a =>
    have hread : a.nameAt m.heap = a.displayName.str := (hname a ha).readOn_eq _
    have hread' : x.contentAt m.heap = x.messageContent.str := hcontent.readOn_eq _
    simp only [Option.elim_some, Machine.copied, copied, hread, hread']

/-- On every machine the block that is returned holds the first messages of the channel and a
terminator, with the strings as they are read, and is the list of the handler. Strings that end in
their arrays are read as they are. -/
theorem message_list_filled (m : Machine) (heap : List UInt8) (s : State)
    (messages : List MessageInfo) (channel : ChannelInfo)
    (hsenders : ∀ x ∈ messages, channel.channelId = x.channelId →
      (s.getUserAccount x.userId).isSome) :
    ∃ list k, buildMessageBlock m heap s messages channel = .ok list ∧
      list.bytes.length = m.messageListSize channel.channelId messages ∧ list.InBounds ∧
      (∀ i ∈ list.written, i ≤ (encodeFirst m.copied s channel.channelId k messages).length) ∧
      list.bytes.take ((encodeFirst m.copied s channel.channelId k messages).length+1) =
        encodeFirst m.copied s channel.channelId k messages ++ [0] ∧
      (m.Roomy → m.buildMessageList s messages (some channel) =
        .ok (encodeFirst m.copied s channel.channelId k messages)) ∧
      ((∀ x ∈ messages, channel.channelId = x.channelId → x.messageContent.Text ∧
        ∀ a, s.getUserAccount x.userId = some a → a.displayName.Text) →
          encodeFirst m.copied s channel.channelId k messages =
            encodeFirst copied s channel.channelId k messages) := by
  obtain ⟨list, k, hto, hfilled, hlen, hcopy⟩ := copyMessagesTo_filled hsenders
    (Cursor.filled_alloc heap (m.messageListSize channel.channelId messages))
    (by rw [Machine.messageListSize]; exact Nat.succ_pos _)
  rw [List.nil_append] at hfilled hlen hcopy
  have hpush : (list.push 0).block =
      list.block.store (encodeFirst m.copied s channel.channelId k messages).length 0 := by
    rw [Cursor.push, hfilled.offset_eq]
  have hbehind := hfilled.block.storeBehind 0 hlen
  have hstore := hfilled.block.store 0 hlen
  rw [← hpush] at hbehind hstore
  refine ⟨(list.push 0).block, k, ?_, hbehind.size_eq, hbehind.inBounds, hbehind.written_le, ?_, ?_,
    fun htext => encodeFirst_eq htext k⟩
  · rw [buildMessageBlock, hto]
  · simpa only [List.length_append, List.length_singleton] using hstore.out_eq
  · cases messages with
    | nil => exact hcopy
    | cons m ms => exact hcopy

/-- Messages of a channel and one of another between them, all of one sender. -/
def messagesOf (sender : Uuid) : List MessageInfo :=
  [⟨Client.uuid "1", sender, Client.uuid "c", CharArray.strncpy _ (ascii "hi"),
      CharArray.strncpy _ (ascii "noon")⟩,
    ⟨Client.uuid "2", sender, Client.uuid "d", CharArray.strncpy _ (ascii "no"),
      CharArray.strncpy _ (ascii "noon")⟩,
    ⟨Client.uuid "3", sender, Client.uuid "c", CharArray.strncpy _ (ascii "there"),
      CharArray.strncpy _ (ascii "one")⟩]

/-- The room that both messages need without names and two separators is enough for one of them
with these. -/
theorem message_list_filled_threeMessages :
    (∃ list k, buildMessageBlock Client.machine [] Client.start.state (messagesOf adminUuid)
        (createChannel (Client.uuid "c") globalName adminName false) = .ok list ∧
      list.InBounds ∧
      list.bytes.take ((encodeFirst copied Client.start.state (Client.uuid "c") k
        (messagesOf adminUuid)).length+1) =
          encodeFirst copied Client.start.state (Client.uuid "c") k (messagesOf adminUuid) ++
            [0]) ∧
    Client.machine.buildMessageList Client.start.state (messagesOf adminUuid)
        (some (createChannel (Client.uuid "c") globalName adminName false)) =
      .ok (encodeFirst copied Client.start.state (Client.uuid "c") 1 (messagesOf adminUuid)) := by
  obtain ⟨list, k, hto, _, hin, _, hout, _, htext⟩ := message_list_filled Client.machine []
    Client.start.state (messagesOf adminUuid)
    (createChannel (Client.uuid "c") globalName adminName false) (by decide +kernel)
  have hadmin : ∀ x ∈ messagesOf adminUuid, x.messageContent.Text ∧ x.userId = adminUuid := by
    decide
  have haccount := htext fun x hx _ => ⟨(hadmin x hx).1, fun a ha =>
    (Client.strings_start.accounts _ a ha).2.name⟩
  rw [haccount] at hout
  exact ⟨⟨list, k, hto, hin, hout⟩, by decide +kernel⟩

/-- After a registration with a name of 21 bytes. -/
def longSenderState : State :=
  (Machine.run Client.start (Client.on Client.machine
    [Client.createUser 6 "10.0.0.2" "longt" "abcdefghijklmnopqrstu" "pw"
      "22222222-2222-2222-2222-222222222222"])).state

/-- Four messages of that sender in the channel. -/
def longSenderMessages : List MessageInfo :=
  messagesOf (Client.uuid "22222222-2222-2222-2222-222222222222") ++
    messagesOf (Client.uuid "22222222-2222-2222-2222-222222222222")

/-- The name of that sender is copied with the address behind it, so the block does not hold the
encodings of any number of messages. -/
theorem message_list_reads_on :
    (∀ x ∈ longSenderMessages, (longSenderState.getUserAccount x.userId).isSome) ∧
      ∃ list, buildMessageBlock Client.machine [] longSenderState longSenderMessages
          (createChannel (Client.uuid "c") globalName adminName false) = .ok list ∧
        ∀ k, list.bytes.take
            ((encodeFirst copied longSenderState (Client.uuid "c") k longSenderMessages).length+1) ≠
          encodeFirst copied longSenderState (Client.uuid "c") k longSenderMessages ++ [0] := by
  refine ⟨by decide +kernel, ?_⟩
  have hblock : (buildMessageBlock Client.machine [] longSenderState longSenderMessages
      (createChannel (Client.uuid "c") globalName adminName false)).toOption.map
        (fun list => list.bytes.take 22) = some (ascii "abcdefghijklmnopqrstu0") := by
    decide +kernel
  obtain ⟨list, hlist, hbytes⟩ := Option.map_eq_some_iff.mp hblock
  have hok : buildMessageBlock Client.machine [] longSenderState longSenderMessages
      (createChannel (Client.uuid "c") globalName adminName false) = .ok list := by
    cases h : buildMessageBlock Client.machine [] longSenderState longSenderMessages
        (createChannel (Client.uuid "c") globalName adminName false) with
    | error f =>
      rw [h] at hlist
      cases hlist
    | ok list' =>
      rw [h] at hlist
      rw [Option.some.inj hlist]
  refine ⟨list, hok, fun k hk => ?_⟩
  have htake := congrArg (List.take 22) hk
  cases k with
  | zero =>
    have hfirst := congrArg (List.take 1) hbytes
    rw [List.take_take] at hfirst
    have hzero : list.bytes.take 1 = [0] := hk
    rw [show min 1 22 = 1 from rfl, hzero] at hfirst
    exact absurd hfirst (by decide)
  | succ k =>
    -- every other encoding starts with the name and a separator
    obtain ⟨behind, hfirst⟩ : ∃ behind, encodeFirst copied longSenderState (Client.uuid "c") (k+1)
        longSenderMessages = ascii "abcdefghijklmnopqrstu" ++ etx :: behind := by
      obtain ⟨x, xs, hx, hcopied⟩ : ∃ x xs, longSenderMessages.filter
          (fun x => Client.uuid "c" = x.channelId) = x :: xs ∧
          (longSenderState.getUserAccount x.userId).map (·.displayName.str) =
            some (ascii "abcdefghijklmnopqrstu") := ⟨_, _, rfl, by decide +kernel⟩
      obtain ⟨sender, hsender, hname⟩ := Option.map_eq_some_iff.mp hcopied
      refine ⟨x.messageContent.str ++ etx :: x.timeStamp.bytes ++ [etx] ++ (xs.take k).flatMap
        fun x => (longSenderState.getUserAccount x.userId).elim [] fun a => copied a x, ?_⟩
      rw [encodeFirst, hx, List.take_succ_cons, List.flatMap_cons, hsender, ← hname]
      simp [copied]
    have hlen : (ascii "abcdefghijklmnopqrstu").length = 21 := by decide
    rw [hfirst, List.take_take, Nat.min_eq_left (by simp [hlen]), hbytes, List.append_assoc,
      List.take_append, List.take_of_length_le (by simp [hlen]), hlen] at htake
    have hetx : List.take (22-21) (etx :: behind ++ [0]) = [etx] := rfl
    rw [hetx] at htake
    exact absurd htake (by decide)

end ChatServer
