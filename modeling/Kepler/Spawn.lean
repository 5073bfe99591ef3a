/-
This file models the command builder of the daemon (`process/spawn.rs`) and its composition
with `kepler-exec`: how a user, a list of groups and a command become the credentials of a
process.

The groups travel as one text, joined with commas by the daemon and split at commas by the
wrapper. An entry that holds a comma therefore comes out as several groups.
-/

import Kepler.Config
import Kepler.Exec

namespace Kepler

open Exec Result Option

/-! ### The command builder -/

structure CommandSpec where
  programAndArgs : List String
  workingDir : String
  user : Option String := none
  groups : List String := []
  limits : Option ResourceLimits := none
  noNewPrivileges : Bool := true
  cgroupPath : Option String := none
  deriving DecidableEq, Repr

/-- What the daemon meets when it starts a process: the wrapper, and the directories that exist. -/
structure SpawnSystem extends ExecSystem where
  keplerExec : Option String
  directoryExists : String → Bool

inductive BuiltCommand where
  | wrapped (keplerExec : String) (args : List String)
  | plain (programAndArgs : List String)
  deriving DecidableEq, Repr

def flagArgs (flag : Exec.ValueFlag) : Option String → List String
  | some value => [flag.text, value]
  | none => []

/-- The memory limit in bytes. A limit that does not parse is not passed on. -/
def memoryBytes (limits : ResourceLimits) : Option UInt64 :=
  limits.memory.bind fun text => (parseMemoryLimit text).toOption

def limitArgs (limits : ResourceLimits) : List String :=
  flagArgs .rlimitAs ((memoryBytes limits).map toString) ++
    flagArgs .rlimitCpu (limits.cpuTime.map toString) ++
    flagArgs .rlimitNofile (limits.maxFds.map toString)

def groupsText (accounts : Accounts) (groups : List String) : Option String :=
  if groups = [] then none else some (Text.join ',' (groups.take accounts.ngroupsMax))

def wrapperArgs (accounts : Accounts) (spec : CommandSpec) : List String :=
  flagArgs .user spec.user ++ flagArgs .groups (groupsText accounts spec.groups) ++
    (spec.limits.map limitArgs).getD [] ++
    (if spec.noNewPrivileges then ["--no-new-privileges"] else []) ++
    flagArgs .cgroup spec.cgroupPath ++ "--" :: spec.programAndArgs

/-- The wrapped branch of `build_command`: the user and the groups must resolve. -/
def buildWrapped (system : SpawnSystem) (spec : CommandSpec) : Except DaemonError BuiltCommand :=
  match system.keplerExec with
  | none => .error (.config ("kepler-exec binary not found; it must be installed alongside " ++
      "kepler-daemon to apply user/group/resource-limit settings"))
  | some keplerExec => do
    spec.user.forM fun user => discard (resolveUser system.accounts user)
    spec.groups.forM fun group => discard (resolveGroup system.accounts group)
    return .wrapped keplerExec (wrapperArgs system.accounts spec)

def CommandSpec.needsWrapper (spec : CommandSpec) : Bool :=
  spec.user.isSome || spec.limits.isSome || spec.noNewPrivileges || spec.cgroupPath.isSome

/-- The command of `build_command` before its working directory is checked. -/
def chooseCommand (system : SpawnSystem) (spec : CommandSpec) :
    Except DaemonError BuiltCommand :=
  if spec.needsWrapper then buildWrapped system spec else .ok (.plain spec.programAndArgs)

def buildCommand (system : SpawnSystem) (spec : CommandSpec) : Except DaemonError BuiltCommand :=
  if spec.programAndArgs = [] then .error (.config "Empty command")
  else (chooseCommand system spec).bind fun command =>
    if system.directoryExists spec.workingDir then .ok command
    else .error (.config s!"Working directory '{spec.workingDir}' does not exist")

def spawn (system : SpawnSystem) (process : Credentials) (spec : CommandSpec) :
    Except String Credentials :=
  match buildCommand system spec with
  | .error e => .error e.text
  | .ok (.plain programAndArgs) => (system.execvp programAndArgs).map fun _ => process
  | .ok (.wrapped _ args) => Exec.run system.toExecSystem process args

/-- What services, hooks and health checks do alike: the groups are computed without the kepler
group, and the command is started. -/
def spawnAs (system : SpawnSystem) (process : Credentials) (keplerGid : Option UInt32)
    (user : Option String) (groups : List String) (spec : CommandSpec) :
    Except String Credentials :=
  spawn system process { spec with
    user, groups := effectiveGroups system.accounts groups user keplerGid }

/-! ### What the wrapper reads -/

/-- The options that the wrapper finds in its arguments. -/
def passedOptions (accounts : Accounts) (spec : CommandSpec) : Exec.Options where
  userSpec := spec.user
  groupsSpec := groupsText accounts spec.groups
  rlimitAs := spec.limits.bind memoryBytes
  rlimitCpu := spec.limits.bind ResourceLimits.cpuTime
  rlimitNofile := spec.limits.bind ResourceLimits.maxFds
  noNewPrivileges := spec.noNewPrivileges
  cgroupPath := spec.cgroupPath

theorem parseArgs_flagArgs (options changed : Exec.Options) (flag : Exec.ValueFlag)
    (value : Option String) (rest : List String)
    (absent : value = none → changed = options)
    (present : ∀ given, value = some given → options.set flag given = .ok changed) :
    Exec.parseArgs options (flagArgs flag value ++ rest) = Exec.parseArgs changed rest := by
  cases value with
  | none => rw [absent rfl]; rfl
  | some given => exact parseArgs_value options changed flag given rest (present given rfl)

theorem parseU64Arg_toString (flag : Exec.ValueFlag) (value : UInt64) :
    Exec.parseU64Arg flag (toString value) = .ok value := by
  rw [parseU64Arg, Text.parseU64_toString]

theorem parseArgs_numberArgs (options changed : Exec.Options) (flag : Exec.ValueFlag)
    (value : Option UInt64) (rest : List String) (absent : value = none → changed = options)
    (present : ∀ number, value = some number → options.set flag (toString number) = .ok changed) :
    Exec.parseArgs options (flagArgs flag (value.map toString) ++ rest) =
      Exec.parseArgs changed rest := by
  refine parseArgs_flagArgs options changed flag _ rest ?_ ?_
  · intro none
    exact absent (map_eq_none_iff.mp none)
  · intro given found
    obtain ⟨number, held, rfl⟩ := map_eq_some_iff.mp found
    exact present number held

theorem parseArgs_limitArgs (options : Exec.Options) (limits : Option ResourceLimits)
    (rest : List String) (noAs : options.rlimitAs = none) (noCpu : options.rlimitCpu = none)
    (noNofile : options.rlimitNofile = none) :
    Exec.parseArgs options ((limits.map limitArgs).getD [] ++ rest) =
      Exec.parseArgs { options with
        rlimitAs := limits.bind memoryBytes
        rlimitCpu := limits.bind ResourceLimits.cpuTime
        rlimitNofile := limits.bind ResourceLimits.maxFds } rest := by
  cases limits with
  | none =>
    cases options
    subst noAs noCpu noNofile
    rfl
  | some limits =>
    rw [map_some, getD_some, limitArgs, List.append_assoc, List.append_assoc]
    rw [parseArgs_numberArgs options { options with rlimitAs := memoryBytes limits } .rlimitAs _ _
        (fun absent => by rw [absent, ← noAs])
        (fun bytes found => by rw [Exec.Options.set, parseU64Arg_toString, found]; rfl),
      parseArgs_numberArgs _ { options with
          rlimitAs := memoryBytes limits, rlimitCpu := limits.cpuTime } .rlimitCpu _ _
        (fun absent => by rw [absent, ← noCpu])
        (fun seconds found => by rw [Exec.Options.set, parseU64Arg_toString, found]; rfl),
      parseArgs_numberArgs _ { options with
          rlimitAs := memoryBytes limits, rlimitCpu := limits.cpuTime
          rlimitNofile := limits.maxFds } .rlimitNofile _ _
        (fun absent => by rw [absent, ← noNofile])
        (fun count found => by rw [Exec.Options.set, parseU64Arg_toString, found]; rfl)]
    rfl

/-- The wrapper reads back what the daemon wrote, for every command. -/
theorem parseArgs_wrapperArgs (accounts : Accounts) (spec : CommandSpec)
    (nonempty : spec.programAndArgs ≠ []) :
    Exec.parseArgs {} (wrapperArgs accounts spec) =
      .ok (passedOptions accounts spec, spec.programAndArgs) := by
  have promised (options : Exec.Options) (rest : List String)
      (unset : options.noNewPrivileges = false) :
      parseArgs options
          ((if spec.noNewPrivileges then ["--no-new-privileges"] else []) ++ rest) =
        parseArgs { options with noNewPrivileges := spec.noNewPrivileges } rest := by
    cases spec.noNewPrivileges with
    | true => exact parseArgs_noNewPrivileges ..
    | false =>
      cases options
      subst unset
      rfl
  simp only [wrapperArgs, List.append_assoc]
  rw [parseArgs_flagArgs _ { userSpec := spec.user } .user _ _ (fun absent => by rw [absent])
      (fun given found => by rw [found]; rfl),
    parseArgs_flagArgs _
      { userSpec := spec.user, groupsSpec := groupsText accounts spec.groups } .groups _ _
      (fun absent => by rw [absent]) (fun given found => by rw [found]; rfl),
    parseArgs_limitArgs _ _ _ rfl rfl rfl, promised _ _ rfl,
    parseArgs_flagArgs _ (passedOptions ..) .cgroup _ _
      (fun absent => by rw [passedOptions, absent])
      (fun given found => by rw [passedOptions, found]; rfl),
    parseArgs_command _ _ nonempty]

/-! ### The credentials of the process -/

def namedParts (accounts : Accounts) (groups : List String) : List String :=
  (Text.split ',' (Text.join ',' (groups.take accounts.ngroupsMax))).take accounts.ngroupsMax

/-- The process runs as the user, with the groups of its list, or with those of the user when it is
empty. -/
structure RunsAs (accounts : Accounts) (resolved : ResolvedUser) (groups : List String)
    (executed : Credentials) : Prop where
  uid : executed.uid = resolved.uid
  gid : executed.gid = resolved.gid
  named : groups ≠ [] → ∀ gid, gid ∈ executed.groups ↔
    ∃ part ∈ namedParts accounts groups, resolveGroup accounts (Text.trim part) = .ok gid
  ofUser : groups = [] → ∀ name, resolved.username = some name →
    executed.groups = (accounts.groupList name resolved.gid).take accounts.ngroupsMax
  ofGid : groups = [] → resolved.username = none → executed.groups = [resolved.gid]

theorem mem_parseGroups {accounts : Accounts} {groups : List String} {gids : List UInt32}
    (parsed : Exec.parseGroups accounts (Text.join ',' (groups.take accounts.ngroupsMax)) =
      .ok gids) (gid : UInt32) :
    gid ∈ gids.take accounts.ngroupsMax ↔
      ∃ part ∈ namedParts accounts groups, resolveGroup accounts (Text.trim part) = .ok gid := by
  rw [mem_of_mapM (mapM_take parsed accounts.ngroupsMax)]
  simp only [resolveGroup_eq]
  rfl

variable {process executed : Credentials} {spec : CommandSpec}

theorem runsAs_of_run {system : ExecSystem} {user : String} {resolved : ResolvedUser}
    (nonempty : spec.programAndArgs ≠ []) (asUser : spec.user = some user)
    (found : resolveUser system.accounts user = .ok resolved)
    (success : Exec.run system process (wrapperArgs system.accounts spec) = .ok executed) :
    RunsAs system.accounts resolved spec.groups executed := by
  obtain ⟨groups, made, dropped⟩ :=
    run_eq_ok (parseArgs_wrapperArgs system.accounts spec nonempty) success
  have sameUser : (passedOptions system.accounts spec).userSpec = some user := asUser
  rw [sameUser] at dropped
  obtain ⟨username, same, groupsSet⟩ := dropPrivileges_eq_ok dropped
  rw [resolveUser_eq found] at same
  simp only [Except.ok.injEq, Prod.mk.injEq] at same
  obtain ⟨uid, gid, rfl⟩ := same
  rw [← gid] at groupsSet
  have text : (passedOptions system.accounts spec).groupsSpec =
      groupsText system.accounts spec.groups := rfl
  rw [explicitGroups, text, groupsText] at made
  by_cases empty : spec.groups = []
  · rw [if_pos empty] at made
    cases made
    refine ⟨uid.symm, gid.symm, fun nonempty => absurd empty nonempty, ?_, ?_⟩
    · intro _ name named
      rw [groupsSet, named]
      rfl
    · intro _ unnamed
      rw [groupsSet, unnamed]
      rfl
  · rw [if_neg empty] at made
    obtain ⟨gids, parsed, rfl⟩ := map_eq_ok.mp made
    refine ⟨uid.symm, gid.symm, fun _ other => ?_, fun isEmpty => absurd isEmpty empty,
      fun isEmpty => absurd isEmpty empty⟩
    rw [groupsSet]
    exact mem_parseGroups parsed other

theorem buildCommand_eq_ok {system : SpawnSystem} {command : BuiltCommand}
    (success : buildCommand system spec = .ok command) :
    spec.programAndArgs ≠ [] ∧ match command with
      | .plain _ => spec.user = none
      | .wrapped _ args => args = wrapperArgs system.accounts spec ∧
          ∀ user, spec.user = some user → ∃ resolved,
            resolveUser system.accounts user = .ok resolved := by
  unfold buildCommand at success
  by_cases empty : spec.programAndArgs = []
  · rw [if_pos empty] at success
    cases success
  rw [if_neg empty] at success
  refine ⟨empty, ?_⟩
  obtain ⟨built, building, success⟩ := exceptBind_eq_ok.mp success
  split_ifs at success with directory
  cases success
  unfold chooseCommand at building
  split_ifs at building with needed
  · unfold buildWrapped at building
    cases keplerExec : system.keplerExec with
    | none => simp [keplerExec] at building
    | some path => ?_
    rw [keplerExec] at building
    obtain ⟨_, userResolves, building⟩ := bind_eq_ok.mp building
    obtain ⟨_, _, building⟩ := bind_eq_ok.mp building
    cases building
    refine ⟨rfl, fun user given => ?_⟩
    rw [given] at userResolves
    cases resolved : resolveUser system.accounts user with
    | ok found => exact ⟨found, rfl⟩
    | error e =>
      simp [Option.forM, resolved, discard, Functor.discard, Functor.mapConst,
        Except.map] at userResolves
  · cases building
    simp only [CommandSpec.needsWrapper, Bool.or_eq_true, not_or, not_isSome_iff_eq_none]
      at needed
    exact needed.1.1.1

theorem spawn_eq_ok {system : SpawnSystem} (success : spawn system process spec = .ok executed) :
    (spec.user = none → executed = process) ∧
      ∀ user, spec.user = some user → ∃ resolved, resolveUser system.accounts user = .ok resolved ∧
        RunsAs system.accounts resolved spec.groups executed := by
  unfold spawn at success
  cases built : buildCommand system spec with
  | error e => simp [built] at success
  | ok command => ?_
  obtain ⟨nonempty, shape⟩ := buildCommand_eq_ok built
  rw [built] at success
  cases command with
  | plain =>
    obtain ⟨_, _, rfl⟩ := map_eq_ok.mp success
    exact ⟨fun _ => rfl, fun user given => absurd (shape.symm.trans given) (by simp)⟩
  | wrapped =>
    obtain ⟨rfl, resolves⟩ := shape
    constructor
    · intro noUser
      obtain ⟨groups, _, dropped⟩ :=
        run_eq_ok (parseArgs_wrapperArgs system.accounts spec nonempty) success
      have sameUser : (passedOptions system.accounts spec).userSpec = none := noUser
      rw [sameUser] at dropped
      exact (Except.ok.inj dropped).symm
    · intro user given
      obtain ⟨resolved, found⟩ := resolves user given
      exact ⟨resolved, found, runsAs_of_run nonempty given found success⟩

end Kepler
