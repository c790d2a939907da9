import ChatServer.Records
import ChatServer.Lib.Slots

/-!
# The session cache

`active_users`, an array of `MAX_CLIENTS` sessions. The number of sessions is not
stored: it is found by scanning for the first slot with an empty display name.
-/

namespace ChatServer

open CLib

/-- `dsply_name[0] != '\0'` -/
def ConnectedUser.named (u : ConnectedUser) : Bool := !u.dsplyName.isEmpty

/-- A session cleared by `memset`. -/
def ConnectedUser.zero : ConnectedUser :=
  ⟨0, .empty _, .empty _, .empty _, .empty _, 0⟩

/-- `dsply_name[0] = '\0'`, which leaves every other field as it was. -/
def ConnectedUser.blank (u : ConnectedUser) : ConnectedUser := { u with dsplyName := .empty _ }

/-- The cache array, with no named slot behind an unnamed one. -/
structure Cache where
  slots : List ConnectedUser
  size_eq : slots.length = maxClients
  compact : Slots.Compact ConnectedUser.named slots

namespace Cache

/-- The cache `main` clears before the menu is shown. -/
def empty : Cache where
  slots := List.replicate maxClients .zero
  size_eq := List.length_replicate
  compact := by
    intro x hx
    rw [List.eq_of_mem_replicate (List.dropWhile_sublist _ |>.subset hx)]
    rfl

/-- The counting loop of `get_num_connected_users`, from slot to slot. -/
def countFrom : ℕ → List ConnectedUser → ℕ
  | n, [] => n
  | n, u :: us =>
    if n ≤ maxClients ∧ u.named = false then n
    else if u.named then countFrom (n+1) us
    else countFrom n us

/-- `get_num_connected_users` -/
def getNumConnectedUsers (c : Cache) : ℕ := countFrom 0 c.slots

/-- The sessions that the loops over `i < get_num_connected_users(cache)` visit. -/
def live (c : Cache) : List ConnectedUser := c.slots.take c.getNumConnectedUsers

theorem countFrom_eq (us : List ConnectedUser) (n : ℕ) (h : n+us.length ≤ maxClients) :
    countFrom n us = n + (Slots.live ConnectedUser.named us).length := by
  induction us generalizing n with
  | nil => rfl
  | cons u us ih =>
    rw [List.length_cons] at h
    -- within the array the first test of the loop is that the slot is unnamed
    cases hu : u.named with
    | false =>
      rw [countFrom, if_pos ⟨by omega, hu⟩]
      simp [Slots.live, hu]
    | true =>
      rw [countFrom, if_neg (by simp [hu]), if_pos hu, ih (n+1) (by omega)]
      simp only [Slots.live, List.takeWhile_cons, hu, if_true, List.length_cons]
      omega

theorem getNumConnectedUsers_eq (c : Cache) :
    c.getNumConnectedUsers = (Slots.live ConnectedUser.named c.slots).length := by
  rw [getNumConnectedUsers, countFrom_eq _ _ (by rw [c.size_eq, Nat.zero_add]), Nat.zero_add]

theorem live_eq (c : Cache) : c.live = Slots.live ConnectedUser.named c.slots := by
  rw [live, getNumConnectedUsers_eq, Slots.take_length_live]

theorem length_live (c : Cache) : c.live.length = c.getNumConnectedUsers := by
  rw [live_eq, getNumConnectedUsers_eq]

theorem getNumConnectedUsers_le (c : Cache) : c.getNumConnectedUsers ≤ maxClients := by
  rw [← length_live, ← c.size_eq]
  exact List.length_take_le' _ _

/-- `get_connected_user_by_fd` -/
def getConnectedUserByFd (c : Cache) (fd : ℕ) : Option ConnectedUser :=
  c.live.find? fun u => u.fd = fd

/-- `get_connected_user_by_display_name` -/
def getConnectedUserByDisplayName (c : Cache) (displayName : Name) : Option ConnectedUser :=
  c.live.find? fun u => u.dsplyName = displayName

/-- `get_display_name_in_cache_malloc_or_null` -/
def getDisplayNameInCache (c : Cache) (ipAddr : IpAddr) (displayName : Name) : Option Name :=
  (c.live.find? fun u => u.ipAddress = ipAddr ∧ u.dsplyName = displayName).map (·.dsplyName)

/-- `find_connected_user_with_same_cred`, the number of users being the number of
live ones at every call. -/
def findConnectedUserWithSameCred (c : Cache) (account : UserAccount) (fd : ℕ) : Bool :=
  c.live.any fun u =>
    account.ipAddr = u.ipAddress ∧ account.displayName = u.dsplyName ∧ fd = u.fd

/-- The session `insert_user_in_cache` builds. -/
def newSession (fd : ℕ) (account : UserAccount) (login : UserLogin) : ConnectedUser where
  fd := fd
  dsplyName := account.displayName
  ipAddress := account.ipAddr
  loginToken := login.loginToken
  uuid := account.userId
  privilegeLevel := account.privilegeLevel

/-- `insert_user_in_cache` at index `get_num_connected_users(cache)`. With every slot in
use the index is `MAX_CLIENTS`, one past the array. -/
def insertUserInCache (c : Cache) (fd : ℕ) (account : UserAccount) (login : UserLogin) :
    Option Cache :=
  if c.getNumConnectedUsers < maxClients then
    some { slots := c.slots.set c.getNumConnectedUsers (newSession fd account login)
           size_eq := by rw [List.length_set, c.size_eq]
           compact := by
            rw [getNumConnectedUsers_eq]
            exact c.compact.set _ }
  else none

/-- `remove_user_in_cache` with the number of live users. -/
def removeUserInCache (c : Cache) (displayName : Name) : Cache where
  slots := Slots.removeFirst (fun u => u.dsplyName = displayName) ConnectedUser.blank
    c.getNumConnectedUsers c.slots
  size_eq := by
    rw [Slots.length_removeFirst _ _ (c.size_eq ▸ c.getNumConnectedUsers_le), c.size_eq]
  compact := by
    rw [getNumConnectedUsers_eq]
    exact (Slots.removeFirst_live _ _ (fun _ => rfl) c.compact).2

/-- An insertion appends the new session to the live ones. -/
theorem live_insertUserInCache {c c' : Cache} {fd : ℕ} {account : UserAccount} {login : UserLogin}
    (hname : account.displayName.isEmpty = false)
    (h : c.insertUserInCache fd account login = some c') :
    c'.live = c.live ++ [newSession fd account login] := by
  rw [insertUserInCache] at h
  split at h
  · rename_i hlt
    rw [← Option.some.inj h, live_eq, live_eq]
    change Slots.live _ (c.slots.set _ _) = _
    rw [getNumConnectedUsers_eq]
    refine Slots.live_set ?_ c.compact ?_
    · simp [ConnectedUser.named, newSession, hname]
    · rw [← getNumConnectedUsers_eq, c.size_eq]; exact hlt
  · cases h

/-- A removal erases the first live session with the display name. -/
@[simp] theorem live_removeUserInCache (c : Cache) (displayName : Name) :
    (c.removeUserInCache displayName).live =
      c.live.eraseP fun u => u.dsplyName = displayName := by
  rw [live_eq, live_eq]
  change Slots.live _ (Slots.removeFirst _ _ _ _) = _
  rw [getNumConnectedUsers_eq]
  exact (Slots.removeFirst_live _ _ (fun _ => rfl) c.compact).1

end Cache

end ChatServer
