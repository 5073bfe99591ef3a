/-
This file models `user.rs` and the group functions of `kepler-unix`: how the daemon turns a
user specification into a uid and a gid, a group specification into a gid, and how it
computes the supplementary groups of a process without the kepler group.

A user specification is a name, a number, or either of them with a group after a colon.
The gid of a bare number comes from the password database and is the number itself when
the database has no entry.
-/

import Kepler.Library.Accounts
import Kepler.Library.Text

namespace Kepler

/-- The errors of the daemon that the modelled functions raise, with their texts. -/
inductive DaemonError where
  | config (message : String)
  | internal (message : String)
  | userNotFound (spec : String)
  | groupNotFound (spec : String)
  | processSpawn (service source : String)
  | luaError (path message : String)
  | configNotFound (path : String)
  | configCopy (source : String)
  | serviceNotFound (name : String)
  | hookFailed (service hook message : String)
  | dependencyCycle (message : String)
  | missingDependency (service dependency : String)
  deriving DecidableEq, Repr

def DaemonError.text : DaemonError → String
  | config message => s!"Configuration error: {message}"
  | internal message => s!"Internal error: {message}"
  | userNotFound spec => s!"User not found: {spec}"
  | groupNotFound spec => s!"Group not found: {spec}"
  | processSpawn service source => s!"Failed to spawn process for service {service}: {source}"
  | luaError path message => s!"Lua error in config '{path}': {message}"
  | configNotFound path => s!"Config file not found: {path}"
  | configCopy source => s!"Failed to copy config file to secure location: {source}"
  | serviceNotFound name => s!"Service not found: {name}"
  | hookFailed service hook message => s!"{service} {hook} hook failed ({message})"
  | dependencyCycle message => s!"Dependency cycle detected: {message}"
  | missingDependency service dependency =>
    s!"Missing dependency for service {service}: {dependency}"

/-! ### User specifications -/

structure ResolvedUser where
  uid : UInt32
  gid : UInt32
  username : Option String
  home : Option String
  shell : Option String
  deriving DecidableEq, Repr

/-- The entry of a lookup, failure read as no entry (`.ok().flatten()`). -/
def foundEntry {Entry : Type} : Except String (Option Entry) → Option Entry
  | .ok entry => entry
  | .error _ => none

theorem foundEntry_eq_some {Entry : Type} {lookup : Except String (Option Entry)} {entry : Entry} :
    foundEntry lookup = some entry ↔ lookup = .ok (some entry) := by
  cases lookup <;> simp [foundEntry]

def requireEntry {Entry : Type} (missing : DaemonError) :
    Except String (Option Entry) → Except DaemonError Entry
  | .ok (some entry) => .ok entry
  | .ok none | .error _ => .error missing

theorem requireEntry_eq_ok {Entry : Type} {missing : DaemonError}
    {lookup : Except String (Option Entry)} {entry : Entry} :
    requireEntry missing lookup = .ok entry ↔ lookup = .ok (some entry) := by
  unfold requireEntry
  split <;> simp

section

variable (accounts : Accounts)

def lookupUserByUid (uid : UInt32) : Option Account := foundEntry (accounts.userFromUid uid)

/-- `resolve_user_part`: the user before the colon, without a gid of its own. -/
def resolveUserPart (spec fullSpec : String) :
    Except DaemonError (UInt32 × Option String × Option String × Option String) :=
  match Text.parseU32 spec with
  | some uid =>
    match lookupUserByUid accounts uid with
    | some user => .ok (uid, some user.name, some user.dir, some user.shell)
    | none => .ok (uid, none, none, none)
  | none => do
    let user ← requireEntry (.userNotFound fullSpec) (accounts.userFromName spec)
    return (user.uid, some user.name, some user.dir, some user.shell)

def lookupUserByName (username : String) :
    Except DaemonError (UInt32 × UInt32 × String × String) := do
  let user ← requireEntry (.userNotFound username) (accounts.userFromName username)
  return (user.uid, user.gid, user.dir, user.shell)

def resolveGroup (group : String) : Except DaemonError UInt32 :=
  match Text.parseU32 group with
  | some gid => .ok gid
  | none => do
    let entry ← requireEntry (.groupNotFound group) (accounts.groupFromName group)
    return entry.gid

def resolveUser (user : String) : Except DaemonError ResolvedUser :=
  match Text.splitOnce ':' user with
  | some (left, right) => do
    let (uid, username, home, shell) ← resolveUserPart accounts left user
    let gid ← resolveGroup accounts right
    return { uid, gid, username, home, shell }
  | none =>
    match Text.parseU32 user with
    | some uid =>
      match lookupUserByUid accounts uid with
      | some entry => .ok {
          uid
          gid := entry.gid
          username := some entry.name
          home := some entry.dir
          shell := some entry.shell }
      | none => .ok { uid, gid := uid, username := none, home := none, shell := none }
    | none => do
      let (uid, gid, home, shell) ← lookupUserByName accounts user
      return { uid, gid, username := some user, home := some home, shell := some shell }

/-! ### Group lists -/

def groupListLimit : Nat := 1024

/-- `kepler_unix::groups::getgrouplist`: an error above the bound. -/
def getgrouplist (user : String) (baseGid : UInt32) : Except String (List UInt32) :=
  let gids := accounts.groupList user baseGid
  if gids.length > groupListLimit then .error "EINVAL: Invalid argument" else .ok gids

def uidHasGid (uid targetGid : UInt32) : Bool :=
  match lookupUserByUid accounts uid with
  | none => false
  | some user =>
    match getgrouplist accounts user.name user.gid with
    | .ok gids => gids.contains targetGid
    | .error _ => false

/-- The test of `strip_kepler_group`: an entry resolves to the kepler group. -/
def namesKeplerGroup (keplerGid : UInt32) (group : String) : Bool :=
  group == toString keplerGid ||
    match resolveGroup accounts group with
    | .ok resolved => resolved == keplerGid
    | .error _ => false

def stripKeplerGroup (groups : List String) (keplerGid : UInt32) : List String :=
  groups.filter fun group => !namesKeplerGroup accounts keplerGid group

def computeGroupsExcluding (userSpec : String) (excludeGid : UInt32) :
    Except DaemonError (List String) := do
  let resolved ← resolveUser accounts userSpec
  match resolved.username with
  | none => return if resolved.gid = excludeGid then [] else [toString resolved.gid]
  | some username =>
    match getgrouplist accounts username resolved.gid with
    | .error e => throw (.internal s!"getgrouplist failed: {e}")
    | .ok gids => return (gids.filter (· ≠ excludeGid)).map toString

def effectiveGroups (groups : List String) (user : Option String) (keplerGid : Option UInt32) :
    List String :=
  let result := match groups.isEmpty, user, keplerGid with
    | true, some userSpec, some kgid =>
      match computeGroupsExcluding accounts userSpec kgid with
      | .ok computed => computed
      | .error _ => groups
    | _, _, _ => groups
  match keplerGid with
  | some kgid => stripKeplerGroup accounts result kgid
  | none => result

end

end Kepler
