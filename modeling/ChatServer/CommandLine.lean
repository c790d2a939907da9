import ChatServer.DbmCalls
import ChatServer.Lib.Block
import ChatServer.Lib.Numeral

/-!
# Before the menu

What `main` does first: it reads the port from the command line and builds the paths of the database
files from the variable `HOME`. An error ends the program before anything is shown.
-/

namespace ChatServer

open CLib

/-- Why the program ends before its menu. -/
inductive StartFailure where
  | usage (program : Str)
  | unknownOption
  | badPort (msg : String)
  | dbPaths
  /-- a path is written over the end of its array, and what happens then is not defined -/
  | overflow
  | errLog
  deriving DecidableEq

/-- The exit status. -/
def StartFailure.status : StartFailure → Option ℕ
  | badPort _ => some 2
  | overflow => none
  | _ => some 1

theorem StartFailure.bind_eq_ok {α β : Type} {x : Except StartFailure α}
    {f : α → Except StartFailure β} {b : β} (h : x >>= f = .ok b) :
    ∃ a, x = .ok a ∧ f a = .ok b := by
  cases x with
  | error e => cases h
  | ok a => exact ⟨a, rfl, h⟩

abbrev uint16Max : ℕ := 65535
abbrev defaultPort : ℕ := 5050
abbrev maxArgCount : ℕ := 3

/-- `parse_port` in base ten. A message is passed to `fatal_message`. -/
def parsePort (buff : Str) : Except StartFailure ℕ :=
  let c := strtol buff
  if c.rest = buff then .error (.badPort "not a decimal number")
  else if c.rest ≠ [] then .error (.badPort "%s: extra characters at end of input")
  else if (c.value = -2^63 ∨ c.value = 2^63-1) ∧ c.outOfRange = true then
    .error (.badPort "out of range of type long")
  else if (uint16Max : ℤ) < c.value then .error (.badPort "greater than UINT16_MAX")
  else if c.value < 0 then .error (.badPort "less than 0")
  else .ok c.value.toNat

/-- `struct options` -/
structure Options where
  portIn : ℕ
  serverSock : ℕ
  deriving DecidableEq

/-- `options_init` -/
def optionsInit : Options := ⟨defaultPort, 0⟩

/-- What `getopt` with "p:" takes an element of `argv` for. -/
inductive ArgKind where
  | operand
  /-- "--" -/
  | endOfOptions
  /-- "-p", the argument being the next element -/
  | port
  /-- "-p" with the argument in the same element -/
  | portWith (optarg : Str)
  | unknown
  deriving DecidableEq

def argKind : Str → ArgKind
  | 45 :: c :: cs =>
    if c = 45 ∧ cs = [] then .endOfOptions
    else if c = 112 then if cs = [] then .port else .portWith cs
    else .unknown
  | _ => .operand

/-- The loop over `getopt`, which moves the operands behind the options: it ends with them. A
missing argument and an unknown option are both '?'. -/
def parseOptions : List Str → List Str → Options → Except StartFailure (Options × List Str)
  | [], operands, opts => .ok (opts, operands)
  | a :: args, operands, opts =>
    match argKind a with
    | .operand => parseOptions args (operands ++ [a]) opts
    | .endOfOptions => .ok (opts, operands ++ args)
    | .port =>
      match args with
      | [] => .error .unknownOption
      | optarg :: args => do
        let port ← parsePort optarg
        parseOptions args operands { opts with portIn := port }
    | .portWith optarg => do
      let port ← parsePort optarg
      parseOptions args operands { opts with portIn := port }
    | .unknown => .error .unknownOption

/-- `parse_arguments` -/
def parseArguments (argv : List Str) (opts : Options) : Except StartFailure Options :=
  if maxArgCount < argv.length ∨ argv.length % 2 = 0 then .error (.usage (argv.headD []))
  else do
    let (opts, operands) ← parseOptions argv.tail [] opts
    if operands ≠ [] then .error (.usage (argv.headD [])) else .ok opts

/-- A decimal number that fits a port; a minus sign may stand in front of a zero. -/
def IsPort (s : Str) (n : ℕ) : Prop :=
  n ≤ uint16Max ∧ ∃ negative, IsNumeral s negative n ∧ (negative = true → n = 0)

theorem parsePort_iff {buff : Str} {n : ℕ} : parsePort buff = .ok n ↔ IsPort buff n := by
  constructor
  · intro h
    rw [parsePort] at h
    split at h
    · cases h
    rename_i hne
    split at h
    · cases h
    rename_i hrest
    obtain ⟨negative, m, hm⟩ := exists_numeral_of_strtol hne (not_not.mp hrest)
    rw [hm.strtol_eq] at h
    dsimp only [toLong] at h
    cases negative with
    | true =>
      simp only [if_true] at h
      split at h
      · simp at h
      · simp only [Bool.false_eq_true, and_false, if_false] at h
        split at h
        · cases h
        split at h
        · cases h
        have hm0 : m = 0 := by omega
        subst hm0
        cases h
        exact ⟨Nat.zero_le _, true, hm, fun _ => rfl⟩
    | false =>
      simp only [Bool.false_eq_true, if_false] at h
      split at h
      · simp at h
      · simp only [Bool.false_eq_true, and_false, if_false] at h
        split at h
        · cases h
        split at h
        · cases h
        cases h
        exact ⟨by omega, false, hm, nofun⟩
  · rintro ⟨hle, negative, hn, hneg⟩
    have hmax : uint16Max = 65535 := rfl
    have hlong : toLong negative n = ((n : ℤ), false) := by
      cases negative with
      | true => rw [hneg rfl]; rfl
      | false =>
        rw [toLong, if_neg Bool.false_ne_true, if_neg (by omega)]
    have hzero : ¬ ((n : ℤ) < 0) := by omega
    have hbound : ¬ ((uint16Max : ℤ) < n) := by omega
    rw [parsePort, hn.strtol_eq, hlong]
    dsimp only
    rw [if_neg (Ne.symm hn.ne_nil), if_neg (not_not.mpr rfl), if_neg (by simp), if_neg hbound,
      if_neg hzero, Int.toNat_natCast]

theorem argKind_eq_port {a : Str} : argKind a = .port ↔ a = ascii "-p" := by
  constructor
  · intro h
    unfold argKind at h
    split at h
    · split at h
      · cases h
      · split at h
        · rename_i c cs _ hc
          split at h
          · rename_i hcs
            rw [hc, hcs]
            rfl
          · cases h
        · cases h
    · cases h
  · rintro rfl
    rfl

theorem argKind_eq_portWith {a v : Str} :
    argKind a = .portWith v ↔ a = ascii "-p" ++ v ∧ v ≠ [] := by
  constructor
  · intro h
    unfold argKind at h
    split at h
    · split at h
      · cases h
      · split at h
        · rename_i c cs _ hc
          split at h
          · cases h
          · rename_i hcs
            cases h
            rw [hc]
            exact ⟨rfl, hcs⟩
        · cases h
    · cases h
  · rintro ⟨rfl, hv⟩
    change argKind (45 :: 112 :: v) = _
    simp [argKind, hv]

theorem argKind_eq_endOfOptions {a : Str} : argKind a = .endOfOptions ↔ a = ascii "--" := by
  constructor
  · intro h
    unfold argKind at h
    split at h
    · split at h
      · rename_i c cs hc
        rw [hc.1, hc.2]
        rfl
      · split at h
        · split at h <;> cases h
        · cases h
    · cases h
  · rintro rfl
    rfl

/-- An operand is never lost. -/
theorem operands_ne_nil {args operands operands' : List Str} {opts opts' : Options}
    (hne : operands ≠ []) (h : parseOptions args operands opts = .ok (opts', operands')) :
    operands' ≠ [] := by
  induction args, operands, opts using parseOptions.induct with
  | case1 operands opts =>
    rw [parseOptions] at h
    cases h
    exact hne
  | case2 a args operands opts hk ih =>
    unfold parseOptions at h
    rw [hk] at h
    exact ih (by simp) h
  | case3 a args operands opts hk =>
    unfold parseOptions at h
    rw [hk] at h
    cases h
    simp [hne]
  | case4 a operands opts hk =>
    rw [parseOptions, hk] at h
    cases h
  | case5 a operands opts hk optarg args ih =>
    rw [parseOptions, hk] at h
    obtain ⟨port, _, h⟩ := StartFailure.bind_eq_ok h
    exact ih port hne h
  | case6 a args operands opts optarg hk ih =>
    unfold parseOptions at h
    rw [hk] at h
    obtain ⟨port, _, h⟩ := StartFailure.bind_eq_ok h
    exact ih port hne h
  | case7 a args operands opts hk =>
    unfold parseOptions at h
    rw [hk] at h
    cases h

/-- The command lines with which the program starts, and the port. -/
inductive Accepted : List Str → ℕ → Prop
  | default (program : Str) : Accepted [program] defaultPort
  | port (program v : Str) (n : ℕ) (h : IsPort v n) : Accepted [program, ascii "-p", v] n
  | portWith (program v : Str) (n : ℕ) (h : IsPort v n) :
      Accepted [program, ascii "-p" ++ v, ascii "--"] n
  | twice (program v w : Str) (m n : ℕ) (hv : IsPort v m) (hw : IsPort w n) :
      Accepted [program, ascii "-p" ++ v, ascii "-p" ++ w] n

/-- Every port can be given by its digits. -/
theorem accepted_decimal (program : Str) {n : ℕ} (h : n ≤ uint16Max) :
    Accepted [program, ascii "-p", decimal n] n :=
  .port program (decimal n) n ⟨h, false, isNumeral_decimal n, nofun⟩

theorem IsPort.ne_nil {s : Str} {n : ℕ} (h : IsPort s n) : s ≠ [] := by
  obtain ⟨_, _, hs, _⟩ := h
  exact hs.ne_nil

/-- The options behind the program's name, when there are two elements. -/
theorem parseOptions_two {a b : Str} {opts opts' : Options}
    (h : parseOptions [a, b] [] opts = .ok (opts', [])) :
    (a = ascii "-p" ∧ ∃ n, IsPort b n ∧ opts' = { opts with portIn := n }) ∨
    ∃ v m, a = ascii "-p" ++ v ∧ IsPort v m ∧
      ((b = ascii "--" ∧ opts' = { opts with portIn := m }) ∨
        ∃ w n, b = ascii "-p" ++ w ∧ IsPort w n ∧ opts' = { opts with portIn := n }) := by
  rw [parseOptions] at h
  cases ha : argKind a with
  | operand =>
    rw [ha] at h
    exact absurd rfl (operands_ne_nil (by simp) h)
  | endOfOptions =>
    rw [ha] at h
    cases h
  | port =>
    rw [ha] at h
    obtain ⟨n, hn, h⟩ := StartFailure.bind_eq_ok h
    cases h
    exact Or.inl ⟨argKind_eq_port.mp ha, n, parsePort_iff.mp hn, rfl⟩
  | portWith v =>
    rw [ha] at h
    obtain ⟨m, hm, h⟩ := StartFailure.bind_eq_ok h
    refine Or.inr ⟨v, m, (argKind_eq_portWith.mp ha).1, parsePort_iff.mp hm, ?_⟩
    rw [parseOptions] at h
    cases hb : argKind b with
    | operand =>
      rw [hb] at h
      cases h
    | endOfOptions =>
      rw [hb] at h
      cases h
      exact Or.inl ⟨argKind_eq_endOfOptions.mp hb, rfl⟩
    | port =>
      rw [hb] at h
      cases h
    | portWith w =>
      rw [hb] at h
      obtain ⟨n, hn, h⟩ := StartFailure.bind_eq_ok h
      cases h
      exact Or.inr ⟨w, n, (argKind_eq_portWith.mp hb).1, parsePort_iff.mp hn, rfl⟩
    | unknown =>
      rw [hb] at h
      cases h
  | unknown =>
    rw [ha] at h
    cases h

/-- A command line is accepted exactly if the program's name stands alone or the two elements behind
it are made of "-p" and port numbers: one in an element of its own, or one behind each "-p", the
last one counting, or one behind "-p" and then "--". -/
theorem parseArguments_iff {argv : List Str} {opts : Options} :
    parseArguments argv optionsInit = .ok opts ↔
      Accepted argv opts.portIn ∧ opts.serverSock = 0 := by
  constructor
  · intro h
    rw [parseArguments] at h
    split at h
    · cases h
    rename_i hlen
    have hmax : maxArgCount = 3 := rfl
    obtain ⟨⟨opts', operands⟩, hopts, h⟩ := StartFailure.bind_eq_ok h
    dsimp only at h
    split at h
    · cases h
    rename_i hops
    cases h
    rw [not_not.mp hops] at hopts
    match argv, hlen, hopts with
    | [], hlen, _ => exact (hlen (Or.inr rfl)).elim
    | [program], _, hopts =>
      cases hopts
      exact ⟨.default program, rfl⟩
    | [_, _], hlen, _ => exact (hlen (by simp)).elim
    | [program, a, b], _, hopts =>
      obtain ⟨rfl, n, hn, rfl⟩ | ⟨v, m, rfl, hm, ⟨rfl, rfl⟩ | ⟨w, n, rfl, hn, rfl⟩⟩ :=
        parseOptions_two hopts
      · exact ⟨.port program b n hn, rfl⟩
      · exact ⟨.portWith program v m hm, rfl⟩
      · exact ⟨.twice program v w m n hm hn, rfl⟩
    | _ :: _ :: _ :: _ :: _, hlen, _ =>
      refine absurd (Or.inl ?_) hlen
      simp only [List.length_cons]
      omega
  · rintro ⟨h, hsock⟩
    obtain ⟨port, sock⟩ := opts
    dsimp only at h hsock
    subst hsock
    cases h with
    | default program => rfl
    | port program v n hn =>
      simp [parseArguments, parseOptions, argKind_eq_port.mpr rfl, parsePort_iff.mpr hn,
        optionsInit, bind, Except.bind]
    | portWith program v n hn =>
      simp [parseArguments, parseOptions, argKind_eq_portWith.mpr ⟨rfl, hn.ne_nil⟩,
        argKind_eq_endOfOptions.mpr rfl, parsePort_iff.mpr hn, optionsInit, bind, Except.bind]
    | twice program v w m n hm hn =>
      simp [parseArguments, parseOptions, argKind_eq_portWith.mpr ⟨rfl, hm.ne_nil⟩,
        argKind_eq_portWith.mpr ⟨rfl, hn.ne_nil⟩, parsePort_iff.mpr hm, parsePort_iff.mpr hn,
        optionsInit, bind, Except.bind]

abbrev pathMax : ℕ := 4096

/-- DB_LOGIN_INFO, DB_DISPLAY_NAMES, .. -/
def DbFile.fileName : DbFile → Str
  | loginInfo => ascii "user_login_info"
  | displayNames => ascii "display_names"
  | userAccount => ascii "user_account_info"
  | channelInfo => ascii "channel_info"
  | messageInfo => ascii "messages_info"

/-- The arrays DB_LOGIN_INFO_PATH, DB_DISPLAY_NAMES_PATH, .. -/
abbrev DbPaths : Type := DbFile → CharArray pathMax

def DbFile.all : List DbFile := [loginInfo, displayNames, userAccount, channelInfo, messageInfo]

/-- `setup_db_paths`, with what it writes, array by array. The arrays have just been cleared when
their lengths are taken for the check. -/
def setupDbPaths (home : Option Str) : List Access × Option DbPaths :=
  let cleared : DbPaths := fun _ => .empty _
  let clearing := (DbFile.all ++ DbFile.all).flatMap fun _ => fill pathMax 0 pathMax
  match home with
  | none => (clearing, none)
  | some home =>
    if DbFile.all.any fun db => decide (pathMax ≤ home.length+(cleared db).str.length+1) then
      (clearing, none)
    else
      (clearing ++
          (DbFile.all.flatMap fun db => strcats pathMax 0 [home, ascii "/", db.fileName]) ++
          DbFile.all.flatMap fun _ => fill pathMax 0 pathMax,
        some fun db => .strncpy pathMax (home ++ ascii "/" ++ db.fileName))

theorem setupDbPaths_isSome (home : Str) :
    (setupDbPaths (some home)).2.isSome ↔ home.length+1 < pathMax := by
  rw [setupDbPaths]
  dsimp only
  split
  · rename_i h
    obtain ⟨db, _, h⟩ := List.any_eq_true.mp h
    have h := of_decide_eq_true h
    simp only [CharArray.empty, List.length_nil] at h
    simp only [Option.isSome_none, Bool.false_eq_true, false_iff]
    omega
  · rename_i h
    have h : ¬ pathMax ≤ home.length+0+1 := fun hle =>
      h (List.any_eq_true.mpr ⟨.loginInfo, by simp [DbFile.all], decide_eq_true hle⟩)
    simp only [Option.isSome_some, true_iff]
    omega

theorem inside_strcats_iff {size i : ℕ} {s : Str} {ss : List Str} :
    Inside (strcats size i (s :: ss)) ↔ i+(s :: ss).flatten.length < size := by
  refine ⟨fun h => ?_, inside_strcats⟩
  induction ss generalizing i s with
  | nil =>
    have h := inside_fill.mp (inside_append.mp h).1
    simp only [List.flatten_cons, List.flatten_nil, List.append_nil]
    omega
  | cons s' ss ih =>
    have h := ih (inside_append.mp h).2
    rw [List.flatten_cons, List.length_append]
    omega

theorem length_fileName_le (db : DbFile) : db.fileName.length ≤ 17 := by
  cases db <;> decide

theorem fileName_injective {db db' : DbFile} (h : db.fileName = db'.fileName) : db = db' := by
  revert h
  cases db <;> cases db' <;> decide

/-- The arrays that `setup_db_paths` clears. -/
def clearedPaths : List Access := (DbFile.all ++ DbFile.all).flatMap fun _ => fill pathMax 0 pathMax

theorem inside_fills (dbs : List DbFile) :
    Inside (dbs.flatMap fun _ => fill pathMax 0 pathMax) := by
  intro x hx
  obtain ⟨_, _, hx⟩ := List.mem_flatMap.mp hx
  exact inside_fill_self pathMax x hx

/-- What `setup_db_paths` does with a directory that it accepts. -/
theorem setupDbPaths_eq {home : Str} (h : home.length+1 < pathMax) :
    setupDbPaths (some home) =
      (clearedPaths ++
          (DbFile.all.flatMap fun db => strcats pathMax 0 [home, ascii "/", db.fileName]) ++
          DbFile.all.flatMap fun _ => fill pathMax 0 pathMax,
        some fun db => .strncpy pathMax (home ++ ascii "/" ++ db.fileName)) := by
  have hcheck : ¬ (DbFile.all.any fun db =>
      decide (pathMax ≤ home.length+(CharArray.empty pathMax).str.length+1)) = true := by
    intro hany
    obtain ⟨_, _, hle⟩ := List.any_eq_true.mp hany
    have hle := of_decide_eq_true hle
    simp only [CharArray.empty, List.length_nil] at hle
    omega
  rw [setupDbPaths]
  exact if_neg hcheck

theorem length_path (home : Str) (db : DbFile) :
    ([home, ascii "/", db.fileName] : List Str).flatten.length =
      home.length+1+db.fileName.length := by
  simp only [List.flatten_cons, List.flatten_nil, List.append_nil, List.length_append]
  rw [show (ascii "/").length = 1 from rfl]
  omega

/-- The longest name decides. -/
theorem inside_setupDbPaths_iff {home : Str} (h : home.length+1 < pathMax) :
    Inside (setupDbPaths (some home)).1 ↔ home.length ≤ 4077 := by
  have hmax : pathMax = 4096 := rfl
  have hname : DbFile.userAccount.fileName.length = 17 := rfl
  rw [setupDbPaths_eq h]
  dsimp only
  rw [inside_append, inside_append]
  constructor
  · rintro ⟨⟨_, hstrings⟩, _⟩
    have hlong : Inside (strcats pathMax 0 [home, ascii "/", DbFile.userAccount.fileName]) :=
      fun x hx => hstrings x (List.mem_flatMap.mpr ⟨.userAccount, by simp [DbFile.all], hx⟩)
    have := inside_strcats_iff.mp hlong
    rw [length_path] at this
    omega
  · intro hle
    refine ⟨⟨inside_fills _, fun x hx => ?_⟩, inside_fills _⟩
    obtain ⟨db, _, hx⟩ := List.mem_flatMap.mp hx
    refine inside_strcats ?_ x hx
    have := length_fileName_le db
    rw [length_path]
    omega

/-- The paths that `setup_db_paths` accepts are written inside their arrays exactly if `HOME` has at
most 4077 characters, 17 fewer than are accepted; they are then the paths of the five files
in that directory, no two of them the same. -/
theorem db_paths_inside_iff (home : Str) (paths : DbPaths)
    (h : (setupDbPaths (some home)).2 = some paths) :
    (Inside (setupDbPaths (some home)).1 ↔ home.length ≤ 4077) ∧
    (home.length ≤ 4077 → ∀ db, (paths db).str = home ++ ascii "/" ++ db.fileName ∧
      (paths db).Terminated ∧ ∀ db', paths db = paths db' → db = db') := by
  have hmax : pathMax = 4096 := rfl
  have hsome : home.length+1 < pathMax := (setupDbPaths_isSome home).mp (by rw [h]; rfl)
  refine ⟨inside_setupDbPaths_iff hsome, fun hle db => ?_⟩
  rw [setupDbPaths_eq hsome] at h
  have hpaths := Option.some.inj h
  have hfits (db : DbFile) : (home ++ ascii "/" ++ db.fileName).length < pathMax := by
    have := length_fileName_le db
    have := length_path home db
    simp only [List.flatten_cons, List.flatten_nil, List.append_nil, ← List.append_assoc] at this
    omega
  have hstr (db : DbFile) : (paths db).str = home ++ ascii "/" ++ db.fileName := by
    rw [← hpaths]
    exact List.take_of_length_le (hfits db).le
  refine ⟨hstr db, ?_, fun db' heq => ?_⟩
  · rw [CharArray.Terminated, hstr]
    exact hfits db
  · have := congrArg CharArray.str heq
    rw [hstr, hstr] at this
    exact fileName_injective (List.append_cancel_left this)

theorem db_paths_inside_iff_home :
    let home := ascii "/home/chat"
    let paths : DbPaths := fun db => .strncpy pathMax (home ++ ascii "/" ++ db.fileName)
    (Inside (setupDbPaths (some home)).1 ↔ home.length ≤ 4077) ∧
    (home.length ≤ 4077 → ∀ db, (paths db).str = home ++ ascii "/" ++ db.fileName ∧
      (paths db).Terminated ∧ ∀ db', paths db = paths db' → db = db') :=
  db_paths_inside_iff (ascii "/home/chat") _ rfl

/-- `main` up to its menu. The windows are there when `err_log.txt` is opened in the working
directory, which may fail. -/
def mainStart (argv : List Str) (home : Option Str) (errLogOpens : Bool) :
    Except StartFailure (Options × DbPaths) := do
  let opts ← parseArguments argv optionsInit
  let (writes, paths) := setupDbPaths home
  if Inside writes then
    match paths with
    | none => .error .dbPaths
    | some paths => if errLogOpens then .ok (opts, paths) else .error .errLog
  else .error .overflow

end ChatServer
