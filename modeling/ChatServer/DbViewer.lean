import ChatServer.Lib.Simulation
import ChatServer.Viewer

/-!
# The viewer that stands alone

The program of `db_viewer/main.c` reads the files of the users with structures of its own. Their
arrays have 20, 30 and 37 bytes, where the server writes 21, 31 and 37, and an account has a
`struct sockaddr_in` in the place of the text of the address.
-/

namespace ChatServer

open CLib Wire

namespace DbViewer

abbrev tokenNameLength : ℕ := 20
abbrev pswdMaxLength : ℕ := 30

/-- The addresses are printed from a copy in a buffer of 20 bytes. `sock_addr` is at offset 60 of
its structure, `online_status` at 76 and `privilege_level` at 80; `behind` is the memory behind the
record. -/
def printAllUserAccounts (o : KeyOrder Uuid UserAccount) (order : ByteOrder)
    (heap behind : Uuid → List UInt8) (db : Dbm Uuid UserAccount) : Str :=
  Viewer.printAll o db fun key user =>
    let mem := user.image order ++ behind key
    text [row [stringAt mem 0, stringAt mem uuidLen,
      cstr (strncpy (malloc (heap key) 20) (stringAt mem 60) 16), decimal (mem.getD 76 0).toNat,
      decimal (Int.bmod (loadWord order (mem.drop 80)) (2^32))]]

def printAllLoginInfos (o : KeyOrder Name UserLogin) (db : Dbm Name UserLogin) : Str :=
  Viewer.printAll o db fun _ user => text [row [stringAt user.image 0,
    stringAt user.image tokenNameLength, stringAt user.image (tokenNameLength+pswdMaxLength)]]

/-- The three files exist, and are those of the server. -/
def main (sysname : Str) (o : ViewOrder) (order : ByteOrder) (heap behind : Uuid → List UInt8)
    (s : State) : Str :=
  text [[], ascii "Server is running on: " ++ sysname] ++
  (text [ascii "UserAccounts DB"] ++
    printAllUserAccounts o.accounts order heap behind s.userAccountInfo ++ text [[]]) ++
  (text [ascii "DisplayNames DB"] ++ Viewer.printAllDisplayNames o.names s.displayNames ++
    text [[]]) ++
  (text [ascii "UserLoginInfo DB"] ++ printAllLoginInfos o.logins s.userLoginInfo ++ text [[]])

/-- What is to be seen of an account. -/
def accountColumns (order : ByteOrder) (behind : List UInt8) (a : UserAccount) : List Str :=
  [a.userId.str, a.displayName.str, a.ipAddr.str.drop 2,
    decimal (if order = .little ∧ a.displayName = adminName then 1 else 0),
    decimal (Int.bmod (loadWord order behind) (2^32))]

/-- What is to be seen of a login. -/
def loginColumns (l : UserLogin) : List Str := [l.loginToken.str, [], l.password.str.drop 29]

section Columns

variable {P : Str → Prop} {hP : P [] ∧ P (ascii "admin") ∧ P (ascii "global") ∧ P (ascii "0") ∧
  P adminUuid.str}

theorem length_image (order : ByteOrder) (a : UserAccount) : (a.image order).length = 80 := by
  cases order <;> simp [UserAccount.image, storeWord] <;> rfl

/-- The byte that is taken for the flag is the first one of the level. -/
theorem getD_image {k : Uuid} {a : UserAccount} (h : AccountShape k a) (order : ByteOrder)
    (behind : List UInt8) : ((a.image order ++ behind).getD 76 0).toNat =
      if order = .little ∧ a.displayName = adminName then 1 else 0 := by
  have hbyte : (a.image order ++ behind).getD 76 0 =
      (storeWord order (a.privilegeLevel % 2^32).toNat).getD 0 0 := by
    have hfront : (a.userId.bytes ++ (a.displayName.bytes ++ (a.ipAddr.bytes ++
        [if a.onlineStatus then 1 else 0, 0]))).length = 76 := by
      simp only [List.length_append, CharArray.length_bytes]
      rfl
    have himage : a.image order = (a.userId.bytes ++ (a.displayName.bytes ++ (a.ipAddr.bytes ++
        [if a.onlineStatus then 1 else 0, 0]))) ++
          storeWord order (a.privilegeLevel % 2^32).toNat := by
      simp [UserAccount.image]
    rw [himage, List.append_assoc, ← hfront, List.getD_append_right _ _ _ _ le_rfl, Nat.sub_self]
    cases order <;> rfl
  rw [hbyte, h.privilege]
  cases order <;> by_cases hn : a.displayName = adminName <;> simp [hn, storeWord, byte]

theorem columns_account {k : Uuid} {a : UserAccount} (h : AccountShape k a)
    (ht : (textual P hP).Account a) (order : ByteOrder) (heap behind : List UInt8) :
    [stringAt (a.image order ++ behind) 0, stringAt (a.image order ++ behind) uuidLen,
      cstr (strncpy (malloc heap 20) (stringAt (a.image order ++ behind) 60) 16),
      decimal ((a.image order ++ behind).getD 76 0).toNat,
      decimal (Int.bmod (loadWord order ((a.image order ++ behind).drop 80)) (2^32))] =
        accountColumns order behind a := by
  have hid : stringAt (a.image order ++ behind) 0 = a.userId.str := by
    rw [UserAccount.image, List.append_assoc]
    exact stringAt_array ht.id.1 [] _
  have hname : stringAt (a.image order ++ behind) uuidLen = a.displayName.str := by
    have := stringAt_array ht.name.1 a.userId.bytes
    rw [CharArray.length_bytes] at this
    rw [UserAccount.image, List.append_assoc, List.append_assoc]
    exact this _
  have haddr : stringAt (a.image order ++ behind) 60 = a.ipAddr.str.drop 2 := by
    have := stringAt_bytes ht.addr.1 (a.userId.bytes ++ a.displayName.bytes)
      ([if a.onlineStatus then 1 else 0, 0] ++
        storeWord order (a.privilegeLevel % 2^32).toNat ++ behind) (j := 2) (by decide)
    simp only [List.length_append, CharArray.length_bytes, List.append_assoc] at this
    simp only [UserAccount.image, List.append_assoc]
    exact this
  have hcopy : cstr (strncpy (malloc heap 20) (a.ipAddr.str.drop 2) 16) = a.ipAddr.str.drop 2 := by
    have hlen : (a.ipAddr.str.drop 2).length < 16 := by
      have : a.ipAddr.str.length < 16 := ht.addr.1.short
      rw [List.length_drop]
      omega
    have hroom : 16-(a.ipAddr.str.drop 2).length = 16-(a.ipAddr.str.drop 2).length-1+1 := by omega
    rw [strncpy, List.take_of_length_le hlen.le, hroom, List.replicate_succ, List.append_assoc,
      List.cons_append]
    exact cstr_append_cons (fun hm => ht.addr.1.clean (List.mem_of_mem_drop hm)) _
  have hlevel : (a.image order ++ behind).drop 80 = behind :=
    List.drop_left' (length_image order a)
  rw [hid, hname, haddr, hcopy, hlevel, getD_image h, accountColumns]
  norm_cast

theorem columns_login {l : UserLogin} (h : (textual P hP).Login l) :
    [stringAt l.image 0, stringAt l.image tokenNameLength,
      stringAt l.image (tokenNameLength+pswdMaxLength)] = loginColumns l := by
  have htoken : stringAt l.image tokenNameLength = l.loginToken.str.drop 20 :=
    stringAt_bytes h.token.1 [] _ (j := 20) (by decide)
  have hpassword : stringAt l.image (tokenNameLength+pswdMaxLength) = l.password.str.drop 29 := by
    have := stringAt_bytes h.password.1 l.loginToken.bytes l.uuid.bytes (j := 29) (by decide)
    rw [CharArray.length_bytes] at this
    exact this
  have hshort : l.loginToken.str.drop 20 = [] :=
    List.drop_eq_nil_of_le (Nat.le_of_lt_succ h.token.1.short)
  rw [(stringAt_login h).1, htoken, hpassword, hshort]
  rfl

end Columns

end DbViewer

/-- In every life with fresh uuids and IPv4 clients, the program of `db_viewer/main.c` shows of a
login the token but not the password and not the uuid, and of an account the address without its
first two characters, the administrator and nobody else as online (nobody on a big-endian host), and
as the level what is behind the record. -/
theorem db_viewer_columns (es : List LifeEvent)
    (h : Life.Along (fun s e => AccountEvent s e ∧
      (textual (fun _ => True) (by simp)).GivenEvent s e) Life.initial es)
    (sysname : Str) (o : ViewOrder) (order : ByteOrder) (heap behind : Uuid → List UInt8) :
    DbViewer.main sysname o order heap behind (Life.run es).state =
      text ([[], ascii "Server is running on: " ++ sysname, ascii "UserAccounts DB"] ++
        (o.accounts.entries (Life.run es).state.userAccountInfo).map (fun e =>
          row (DbViewer.accountColumns order (behind e.1) e.2)) ++
        [[], ascii "DisplayNames DB"] ++
        (o.names.entries (Life.run es).state.displayNames).map (fun e => row [e.1.str, e.2.str]) ++
        [[], ascii "UserLoginInfo DB"] ++
        (o.logins.entries (Life.run es).state.userLoginInfo).map (fun e =>
          row (DbViewer.loginColumns e.2)) ++ [[]]) := by
  have hs := StringSpec.holds_run (Run.along_imp (fun _ _ hc ha => (hc ha).2) h)
  have hshaped := (accountsShaped_life (Run.along_imp (fun _ _ hc ha => (hc ha).1) h)).2
  have haccounts : DbViewer.printAllUserAccounts o.accounts order heap behind
      (Life.run es).state.userAccountInfo =
      text ((o.accounts.entries (Life.run es).state.userAccountInfo).flatMap fun e =>
        [row (DbViewer.accountColumns order (behind e.1) e.2)]) := by
    refine printAll_eq fun k a ha => ?_
    have := DbViewer.columns_account (hshaped.shape k a ha) (hs.accounts k a ha).2 order (heap k)
      (behind k)
    dsimp only
    rw [this]
  have hlogins : DbViewer.printAllLoginInfos o.logins (Life.run es).state.userLoginInfo =
      text ((o.logins.entries (Life.run es).state.userLoginInfo).flatMap fun e =>
        [row (DbViewer.loginColumns e.2)]) :=
    printAll_eq fun k l hl => by rw [DbViewer.columns_login (hs.logins k l hl).2]
  rw [DbViewer.main, haccounts, printAllDisplayNames_eq hs, hlogins]
  simp only [← text_append, ← List.map_eq_flatMap, List.append_assoc, List.cons_append,
    List.nil_append]

theorem db_viewer_columns_viewedLife :
    let s := (Life.run viewedLife).state
    DbViewer.main (ascii "Linux") Viewer.listed .little (fun _ => []) (fun _ => []) s =
      text ([[], ascii "Server is running on: " ++ ascii "Linux", ascii "UserAccounts DB"] ++
        (Viewer.listed.accounts.entries s.userAccountInfo).map (fun e =>
          row (DbViewer.accountColumns .little [] e.2)) ++
        [[], ascii "DisplayNames DB"] ++
        (Viewer.listed.names.entries s.displayNames).map (fun e => row [e.1.str, e.2.str]) ++
        [[], ascii "UserLoginInfo DB"] ++
        (Viewer.listed.logins.entries s.userLoginInfo).map (fun e =>
          row (DbViewer.loginColumns e.2)) ++ [[]]) :=
  db_viewer_columns viewedLife (by decide +kernel) (ascii "Linux") Viewer.listed .little
    (fun _ => []) (fun _ => [])

end ChatServer
