/-
This file describes the account databases of a Unix system and the system calls with which a
privileged process changes its identity.

The databases are given by their lookup functions: a lookup can find an entry, find none or fail.
The only laws are that an entry found under a name or a number carries that name or number.
-/

import Mathlib.Data.List.Dedup
import Mathlib.Tactic.SplitIfs

namespace Kepler

/-! ### Databases -/

structure Account where
  name : String
  uid : UInt32
  gid : UInt32
  dir : String
  shell : String
  deriving DecidableEq, Repr

structure AccountGroup where
  name : String
  gid : UInt32
  members : List String
  deriving DecidableEq, Repr

/-- The lookups in the password and group databases, and the number of groups that the system
allows. -/
structure Accounts where
  userFromName : String → Except String (Option Account)
  userFromUid : UInt32 → Except String (Option Account)
  groupFromName : String → Except String (Option AccountGroup)
  memberships : String → List UInt32
  ngroupsMax : Nat
  userFromName_name : ∀ name account, userFromName name = .ok (some account) →
    account.name = name
  userFromUid_uid : ∀ uid account, userFromUid uid = .ok (some account) → account.uid = uid

namespace Accounts

def fromFiles (passwd : List Account) (groups : List AccountGroup) (ngroupsMax : Nat) :
    Accounts where
  userFromName name := .ok (passwd.find? fun account => account.name = name)
  userFromUid uid := .ok (passwd.find? fun account => account.uid = uid)
  groupFromName name := .ok (groups.find? fun group => group.name = name)
  memberships name := (groups.filter fun group => name ∈ group.members).map AccountGroup.gid
  ngroupsMax := ngroupsMax
  userFromName_name name account found := by
    simpa using List.find?_some (Except.ok.inj found)
  userFromUid_uid uid account found := by
    simpa using List.find?_some (Except.ok.inj found)

variable (accounts : Accounts)

def groupList (name : String) (base : UInt32) : List UInt32 :=
  base :: ((accounts.memberships name).filter (· ≠ base)).dedup

theorem mem_groupList (name : String) (base gid : UInt32) :
    gid ∈ accounts.groupList name base ↔ gid = base ∨ gid ∈ accounts.memberships name := by
  rw [groupList, List.mem_cons, List.mem_dedup, List.mem_filter]
  by_cases equal : gid = base <;> simp [equal]

end Accounts

/-! ### The identity of a process -/

/-- The identity of a process: user, primary group and supplementary groups. -/
structure Credentials where
  uid : UInt32
  gid : UInt32
  groups : List UInt32
  deriving DecidableEq, Repr

def invalidId : UInt32 := 0xFFFFFFFF

namespace Credentials

def notPermitted : String := "Operation not permitted (os error 1)"

def invalidArgument : String := "Invalid argument (os error 22)"

def setgroups (process : Credentials) (limit : Nat) (gids : List UInt32) :
    Except String Credentials :=
  if process.uid ≠ 0 then .error notPermitted
  else if gids.length > limit ∨ invalidId ∈ gids then .error invalidArgument
  else .ok { process with groups := gids }

/-- `initgroups(3)`: the group list of a user, as far as the system takes it. -/
def initgroups (process : Credentials) (accounts : Accounts) (name : String) (base : UInt32) :
    Except String Credentials :=
  if process.uid ≠ 0 then .error notPermitted
  else .ok { process with groups := (accounts.groupList name base).take accounts.ngroupsMax }

/-- `setgid(2)` of a privileged process. -/
def setgid (process : Credentials) (gid : UInt32) : Except String Credentials :=
  if process.uid ≠ 0 then .error notPermitted
  else if gid = invalidId then .error invalidArgument
  else .ok { process with gid := gid }

/-- `setuid(2)` of a privileged process. -/
def setuid (process : Credentials) (uid : UInt32) : Except String Credentials :=
  if process.uid ≠ 0 then .error notPermitted
  else if uid = invalidId then .error invalidArgument
  else .ok { process with uid := uid }

variable {process changed : Credentials}

theorem setgroups_eq_ok {limit : Nat} {gids : List UInt32}
    (success : process.setgroups limit gids = .ok changed) :
    changed = { process with groups := gids } := by
  unfold setgroups at success
  split_ifs at success
  exact (Except.ok.inj success).symm

theorem initgroups_eq_ok {accounts : Accounts} {name : String} {base : UInt32}
    (success : process.initgroups accounts name base = .ok changed) :
    changed =
      { process with groups := (accounts.groupList name base).take accounts.ngroupsMax } := by
  unfold initgroups at success
  split_ifs at success
  exact (Except.ok.inj success).symm

theorem setgid_eq_ok {gid : UInt32} (success : process.setgid gid = .ok changed) :
    changed = { process with gid := gid } := by
  unfold setgid at success
  split_ifs at success
  exact (Except.ok.inj success).symm

theorem setuid_eq_ok {uid : UInt32} (success : process.setuid uid = .ok changed) :
    changed = { process with uid := uid } := by
  unfold setuid at success
  split_ifs at success
  exact (Except.ok.inj success).symm

end Credentials

end Kepler
