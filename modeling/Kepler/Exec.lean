/-
This file models `kepler-exec`, the wrapper through which the daemon starts processes. It sets
resource limits, gives up the daemon's privileges and executes the command. It resolves users and
groups once more, with functions of its own. Without a user option it keeps its credentials.
-/

import Kepler.Library.Result
import Kepler.User

namespace Kepler

open Result Except Credentials

/-- What the wrapper meets: the account databases, and whether the system accepts a resource limit,
the promise of no new privileges, and a command. -/
structure ExecSystem where
  accounts : Accounts
  setrlimit : String → UInt64 → Except String Unit
  setNoNewPrivileges : Except String Bool
  execvp : List String → Except String Unit

namespace Exec

/-! ### Options -/

inductive ValueFlag where
  | user
  | groups
  | rlimitAs
  | rlimitCpu
  | rlimitNofile
  | cgroup
  deriving DecidableEq, Repr

def ValueFlag.text : ValueFlag → String
  | user => "--user"
  | groups => "--groups"
  | rlimitAs => "--rlimit-as"
  | rlimitCpu => "--rlimit-cpu"
  | rlimitNofile => "--rlimit-nofile"
  | cgroup => "--cgroup"

def ValueFlag.all : List ValueFlag := [user, groups, rlimitAs, rlimitCpu, rlimitNofile, cgroup]

structure Options where
  userSpec : Option String := none
  groupsSpec : Option String := none
  rlimitAs : Option UInt64 := none
  rlimitCpu : Option UInt64 := none
  rlimitNofile : Option UInt64 := none
  noNewPrivileges : Bool := false
  cgroupPath : Option String := none
  deriving DecidableEq, Repr

def parseU64Arg (flag : ValueFlag) (value : String) : Except String UInt64 :=
  match Text.parseU64 value with
  | some number => .ok number
  | none => .error ("kepler-exec: invalid value for " ++ flag.text ++ ": " ++ value)

def Options.set (options : Options) (flag : ValueFlag) (value : String) :
    Except String Options :=
  match flag with
  | .user => .ok { options with userSpec := some value }
  | .groups => .ok { options with groupsSpec := some value }
  | .rlimitAs => (parseU64Arg flag value).map fun n => { options with rlimitAs := some n }
  | .rlimitCpu => (parseU64Arg flag value).map fun n => { options with rlimitCpu := some n }
  | .rlimitNofile => (parseU64Arg flag value).map fun n => { options with rlimitNofile := some n }
  | .cgroup => .ok { options with cgroupPath := some value }

/-- The option loop of `main`: the options, and the command after `--`. -/
def parseArgs (options : Options) : List String → Except String (Options × List String)
  | [] => .error "kepler-exec: missing command after --"
  | flag :: rest =>
    if flag = "--" then
      if rest = [] then .error "kepler-exec: missing command after --" else .ok (options, rest)
    else if flag = "--no-new-privileges" then
      parseArgs { options with noNewPrivileges := true } rest
    else match ValueFlag.all.find? fun known => known.text == flag, rest with
      | none, _ => .error s!"kepler-exec: unknown argument: {flag}"
      | some _, [] => .error s!"kepler-exec: {flag} requires a value"
      | some known, value :: rest =>
        match options.set known value with
        | .error e => .error e
        | .ok changed => parseArgs changed rest

theorem parseArgs_value (options changed : Options) (flag : ValueFlag) (value : String)
    (rest : List String) (success : options.set flag value = .ok changed) :
    parseArgs options (flag.text :: value :: rest) = parseArgs changed rest := by
  have found : (ValueFlag.all.find? fun known => known.text == flag.text) = some flag := by
    cases flag <;> decide
  conv_lhs => unfold parseArgs
  rw [if_neg (by cases flag <;> decide), if_neg (by cases flag <;> decide), found]
  simp only [success]

theorem parseArgs_noNewPrivileges (options : Options) (rest : List String) :
    parseArgs options ("--no-new-privileges" :: rest) =
      parseArgs { options with noNewPrivileges := true } rest := by
  conv_lhs => unfold parseArgs
  rw [if_neg (by decide), if_pos rfl]

theorem parseArgs_command (options : Options) (command : List String) (nonempty : command ≠ []) :
    parseArgs options ("--" :: command) = .ok (options, command) := by
  unfold parseArgs
  rw [if_pos rfl, if_neg nonempty]

/-! ### Users and groups -/

section

variable (accounts : Accounts)

def resolveGroup (spec : String) : Except String UInt32 :=
  match Text.parseU32 spec with
  | some gid => .ok gid
  | none =>
    match accounts.groupFromName spec with
    | .error e => .error s!"kepler-exec: failed to look up group '{spec}': {e}"
    | .ok none => .error s!"kepler-exec: group '{spec}' not found"
    | .ok (some group) => .ok group.gid

def userFromName (spec : String) : Except String Account :=
  match accounts.userFromName spec with
  | .error e => .error s!"kepler-exec: failed to look up user '{spec}': {e}"
  | .ok none => .error s!"kepler-exec: user '{spec}' not found"
  | .ok (some user) => .ok user

def resolveUserPart (spec : String) : Except String (UInt32 × Option String) :=
  match Text.parseU32 spec with
  | some uid => .ok (uid, (foundEntry (accounts.userFromUid uid)).map Account.name)
  | none => (userFromName accounts spec).map fun user => (user.uid, some user.name)

def resolveUser (spec : String) : Except String (UInt32 × UInt32 × Option String) :=
  match Text.splitOnce ':' spec with
  | some (left, right) => do
    let (uid, username) ← resolveUserPart accounts left
    let gid ← resolveGroup accounts right
    return (uid, gid, username)
  | none =>
    match Text.parseU32 spec with
    | some uid =>
      match foundEntry (accounts.userFromUid uid) with
      | some user => .ok (uid, user.gid, some user.name)
      | none => .ok (uid, uid, none)
    | none => (userFromName accounts spec).map fun user => (user.uid, user.gid, some user.name)

def parseGroups (spec : String) : Except String (List UInt32) :=
  (Text.split ',' spec).mapM fun part => resolveGroup accounts (Text.trim part)

/-- The groups step of `drop_privileges`: the explicit groups, those of the user, or the primary
group of a user without a name. -/
def setSupplementaryGroups (process : Credentials) (gid : UInt32) (username : Option String)
    (explicitGroups : Option (List UInt32)) : Except String Credentials :=
  match explicitGroups, username with
  | some gids, _ =>
    (process.setgroups accounts.ngroupsMax (gids.take accounts.ngroupsMax)).mapError fun e =>
      "kepler-exec: setgroups(" ++ toString (gids.take accounts.ngroupsMax) ++ ") failed: " ++ e
  | none, some name =>
    (process.initgroups accounts name gid).mapError fun e =>
      "kepler-exec: initgroups('" ++ name ++ "', " ++ toString gid ++ ") failed: " ++ e
  | none, none =>
    (process.setgroups accounts.ngroupsMax [gid]).mapError fun e =>
      "kepler-exec: setgroups([" ++ toString gid ++ "]) failed: " ++ e

/-- `drop_privileges`: groups, then the gid, then the uid. -/
def dropPrivileges (process : Credentials) (userSpec : Option String)
    (explicitGroups : Option (List UInt32)) : Except String Credentials :=
  match userSpec with
  | none => .ok process
  | some spec =>
    (resolveUser accounts spec).bind fun (uid, gid, username) => do
      let grouped ← setSupplementaryGroups accounts process gid username explicitGroups
      let withGid ← (grouped.setgid gid).mapError fun e =>
        "kepler-exec: setgid(" ++ toString gid ++ ") failed: " ++ e
      (withGid.setuid uid).mapError fun e =>
        "kepler-exec: setuid(" ++ toString uid ++ ") failed: " ++ e

end

/-! ### The wrapper -/

def applyRlimits (system : ExecSystem) (options : Options) : Except String Unit := do
  let limit (resource : String) (value : Option UInt64) : Except String Unit :=
    match value with
    | some number => (system.setrlimit resource number).mapError fun e =>
        "kepler-exec: setrlimit(" ++ resource ++ ", " ++ toString number ++ ") failed: " ++ e
    | none => .ok ()
  limit "RLIMIT_AS" options.rlimitAs
  limit "RLIMIT_CPU" options.rlimitCpu
  limit "RLIMIT_NOFILE" options.rlimitNofile

/-- The explicit groups that the wrapper makes of its `--groups` option. -/
def explicitGroups (accounts : Accounts) (options : Options) :
    Except String (Option (List UInt32)) :=
  match options.groupsSpec with
  | none => .ok none
  | some spec => (parseGroups accounts spec).map some

/-- The last step before the command. A system without the promise only warns. -/
def promiseNoNewPrivileges (system : ExecSystem) (options : Options) : Except String Unit :=
  if options.noNewPrivileges then
    (system.setNoNewPrivileges.map fun _ => ()).mapError fun e =>
      "kepler-exec: set_no_new_privileges failed: " ++ e
  else .ok ()

/-- `main`: the credentials that the command runs with. Joining a cgroup cannot fail the start, so
it is left out. -/
def run (system : ExecSystem) (process : Credentials) (args : List String) :
    Except String Credentials :=
  (parseArgs {} args).bind fun (options, command) => do
    applyRlimits system options
    let groups ← explicitGroups system.accounts options
    let dropped ← dropPrivileges system.accounts process options.userSpec groups
    promiseNoNewPrivileges system options
    (system.execvp command).mapError fun e => "kepler-exec: exec failed: " ++ e
    return dropped

/-! ### What the wrapper establishes -/

/-- The groups of a process: the explicit list, those of its user, or its primary group. -/
def groupsSet (accounts : Accounts) (gid : UInt32) (username : Option String)
    (explicitGroups : Option (List UInt32)) : List UInt32 :=
  match explicitGroups, username with
  | some gids, _ => gids.take accounts.ngroupsMax
  | none, some name => (accounts.groupList name gid).take accounts.ngroupsMax
  | none, none => [gid]

variable {accounts : Accounts} {gid : UInt32} {spec : String}

theorem setSupplementaryGroups_eq_ok {process grouped : Credentials} {username : Option String}
    {explicitGroups : Option (List UInt32)}
    (success : setSupplementaryGroups accounts process gid username explicitGroups = .ok grouped) :
    grouped.groups = groupsSet accounts gid username explicitGroups := by
  cases explicitGroups with
  | some gids => rw [setgroups_eq_ok (mapError_eq_ok.mp success)]; rfl
  | none =>
    cases username with
    | some name => rw [initgroups_eq_ok (mapError_eq_ok.mp success)]; rfl
    | none => rw [setgroups_eq_ok (mapError_eq_ok.mp success)]; rfl

theorem dropPrivileges_eq_ok {process dropped : Credentials} {explicitGroups : Option (List UInt32)}
    (success : dropPrivileges accounts process (some spec) explicitGroups = .ok dropped) :
    ∃ username, resolveUser accounts spec = .ok (dropped.uid, dropped.gid, username) ∧
      dropped.groups = groupsSet accounts dropped.gid username explicitGroups := by
  obtain ⟨⟨uid, gid, username⟩, resolved, success⟩ := exceptBind_eq_ok.mp success
  obtain ⟨grouped, groups, success⟩ := bind_eq_ok.mp success
  obtain ⟨withGid, gidSet, success⟩ := bind_eq_ok.mp success
  rw [setuid_eq_ok (mapError_eq_ok.mp success),
    setgid_eq_ok (mapError_eq_ok.mp gidSet)]
  have set := setSupplementaryGroups_eq_ok groups
  exact ⟨username, resolved, set⟩

theorem run_eq_ok {system : ExecSystem} {process executed : Credentials} {args : List String}
    {options : Options} {command : List String}
    (parsed : parseArgs {} args = .ok (options, command))
    (success : run system process args = .ok executed) :
    ∃ groups, explicitGroups system.accounts options = .ok groups ∧
      dropPrivileges system.accounts process options.userSpec groups = .ok executed := by
  obtain ⟨found, same, success⟩ := exceptBind_eq_ok.mp success
  cases parsed.symm.trans same
  obtain ⟨_, _, success⟩ := bind_eq_ok.mp success
  obtain ⟨groups, made, success⟩ := bind_eq_ok.mp success
  obtain ⟨dropped, dropping, success⟩ := bind_eq_ok.mp success
  obtain ⟨_, _, success⟩ := bind_eq_ok.mp success
  obtain ⟨_, _, success⟩ := bind_eq_ok.mp success
  cases success
  exact ⟨groups, made, dropping⟩

theorem resolveGroup_eq :
    resolveGroup accounts spec = .ok gid ↔ Kepler.resolveGroup accounts spec = .ok gid := by
  unfold resolveGroup Kepler.resolveGroup
  cases Text.parseU32 spec with
  | some number => simp
  | none =>
    cases accounts.groupFromName spec with
    | error e => simp [requireEntry, bind, Except.bind]
    | ok entry => cases entry <;> simp [requireEntry, bind, Except.bind, pure, Except.pure]

theorem resolveUserPart_eq {spec fullSpec : String} {uid : UInt32}
    {username home shell : Option String}
    (resolved : Kepler.resolveUserPart accounts spec fullSpec = .ok (uid, username, home, shell)) :
    resolveUserPart accounts spec = .ok (uid, username) := by
  unfold Kepler.resolveUserPart lookupUserByUid at resolved
  unfold resolveUserPart userFromName
  cases number : Text.parseU32 spec with
  | some parsed =>
    rw [number] at resolved
    cases found : foundEntry (accounts.userFromUid parsed) with
    | some user =>
      simp only [found, ok.injEq, Prod.mk.injEq] at resolved
      obtain ⟨rfl, rfl, _⟩ := resolved
      simp [found]
    | none =>
      simp only [found, ok.injEq, Prod.mk.injEq] at resolved
      obtain ⟨rfl, rfl, _⟩ := resolved
      simp [found]
  | none =>
    rw [number] at resolved
    obtain ⟨user, found, resolved⟩ := bind_eq_ok.mp resolved
    simp only [pure, Except.pure, Except.ok.injEq, Prod.mk.injEq] at resolved
    obtain ⟨rfl, rfl, _⟩ := resolved
    rw [requireEntry_eq_ok.mp found]
    rfl

theorem resolveUser_eq {user : ResolvedUser}
    (resolved : Kepler.resolveUser accounts spec = .ok user) :
    resolveUser accounts spec = .ok (user.uid, user.gid, user.username) := by
  unfold Kepler.resolveUser at resolved
  unfold resolveUser
  cases cut : Text.splitOnce ':' spec with
  | some parts =>
    obtain ⟨left, right⟩ := parts
    rw [cut] at resolved
    obtain ⟨⟨uid, username, home, shell⟩, userPart, resolved⟩ := bind_eq_ok.mp resolved
    obtain ⟨gid, groupPart, resolved⟩ := bind_eq_ok.mp resolved
    cases resolved
    refine bind_eq_ok.mpr ⟨(uid, username), resolveUserPart_eq userPart, ?_⟩
    exact bind_eq_ok.mpr ⟨gid, resolveGroup_eq.mpr groupPart, rfl⟩
  | none =>
    rw [cut] at resolved
    cases number : Text.parseU32 spec with
    | some uid =>
      simp only [number, lookupUserByUid] at resolved ⊢
      cases found : foundEntry (accounts.userFromUid uid) with
      | some =>
        simp only [found, ok.injEq] at resolved ⊢
        rw [← resolved]
      | none =>
        simp only [found, ok.injEq] at resolved ⊢
        rw [← resolved]
    | none =>
      simp only [number, userFromName] at resolved ⊢
      obtain ⟨_, looked, resolved⟩ := bind_eq_ok.mp resolved
      obtain ⟨account, required, looked⟩ := bind_eq_ok.mp looked
      have found := requireEntry_eq_ok.mp required
      cases looked
      cases resolved
      rw [found, ← accounts.userFromName_name spec account found]
      rfl

end Exec

end Kepler
