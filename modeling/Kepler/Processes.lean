/-
This file models the three places in which the daemon starts a process for a config: the start of a
service (`orchestrator/mod.rs`), a step of a hook (`hooks.rs`) and a health check (`health.rs`).

A service is resolved and checked first, and the result is kept by the config actor. A health check
fetches its context anew at every tick, and takes the user of the service from it when it has no
user of its own. The actor forgets the resolved services when the environment or the flags of the
config change, and then there is no user to take. The main result says that this is the only way for
a process to escape the hardening level of its config.
-/

import Kepler.Confinement
import Kepler.Library.Runs
import Kepler.Registry
import Kepler.Resolve

namespace Kepler

open Option Result ConfigActor List

/-! ### The daemon and its surroundings -/

/-- The process of the daemon, which runs as root, and its settings. -/
structure DaemonProcess where
  credentials : Credentials
  isRoot : credentials.uid = 0
  keplerGid : Option UInt32
  hardening : HardeningLevel

/-- What the daemon meets while a task takes one step. -/
structure Surroundings where
  world : World
  system : SpawnSystem
  evaluator : Except DaemonError Evaluator
  /-- The value of an `if` condition of a hook, and whether it asked for failures. -/
  evalIfCondition : String → Except String (Bool × Bool)
  /-- The exit code of a command that was executed, none for a signal. -/
  exitCode : List String → Option Int
  /-- The lines that a command writes to its standard output. -/
  stdout : List String → List String := fun _ => []
  cgroup : Option String

/-- The errors of the orchestrator that the modelled functions raise. -/
inductive OrchestratorError where
  | serviceContextNotFound
  | configNotFound (path : String)
  | serviceNotFound (name : String)
  | serviceNotInitialized (name : String)
  | spawnFailed (message : String)
  | configError (message : String)
  | daemonError (error : DaemonError)
  | hookFailed (message : String)
  | io (message : String)
  | dependencyTimeout (service dependency : String) (condition : DependencyCondition)
  | dependencyUnsatisfied (service dependency : String) (condition : DependencyCondition)
      (reason : String)
  | dependencySkipped (service dependency : String)
  | startupCancelled (service : String)
  deriving DecidableEq, Repr

def OrchestratorError.text : OrchestratorError → String
  | serviceContextNotFound => "Service context not found"
  | configNotFound path => s!"Config not found: {path}"
  | serviceNotFound name => s!"Service not found: {name}"
  | serviceNotInitialized name => "Service '" ++ name ++ "' has not completed its first " ++
      "startup; use 'kepler start " ++ name ++ "' before restarting"
  | spawnFailed message => s!"Failed to spawn service: {message}"
  | configError message => s!"Config error: {message}"
  | daemonError error => error.text
  | hookFailed message => message
  | io message => s!"IO error: {message}"
  | dependencyTimeout service dependency condition => "Dependency timeout: " ++ service ++
      " timed out waiting for " ++ dependency ++ " to satisfy condition " ++ condition.debug
  | dependencyUnsatisfied service dependency condition reason => "Dependency unsatisfied: " ++
      service ++ " cannot start because " ++ dependency ++ " (condition: " ++ condition.debug ++
      ") is permanently unsatisfied: " ++ reason
  | dependencySkipped service dependency =>
      "Service " ++ service ++ " skipped because dependency " ++ dependency ++ " was skipped"
  | startupCancelled service => s!"Startup cancelled for service {service}"

namespace ConfigActorHandle

def effectiveHardening (handle : ConfigActorHandle) (daemonLevel : HardeningLevel) :
    HardeningLevel :=
  max daemonLevel (handle.hardening.getD .none)

/-- The user of a service that names none: the owner of the config, unless it is root. -/
def defaultUser (handle : ConfigActorHandle) : Option String :=
  match handle.ownerUid, handle.ownerGid with
  | some uid, some gid => if uid ≠ 0 then some (ownerSpec uid gid) else none
  | some uid, none => if uid ≠ 0 then some (toString uid) else none
  | none, _ => none

theorem isSome_defaultUser {handle : ConfigActorHandle} {owner : UInt32}
    (owned : handle.ownerUid = some owner) (nonRoot : owner ≠ 0) : handle.defaultUser.isSome := by
  unfold defaultUser
  rw [owned]
  cases handle.ownerGid <;> simp [nonRoot]

def checkUser (handle : ConfigActorHandle) (daemon : DaemonProcess) (accounts : Accounts)
    (user : Option String) (context : String) : Except String Unit :=
  checkPrivilegeEscalation accounts (handle.effectiveHardening daemon.hardening) user
    handle.ownerUid context

end ConfigActorHandle

/-! ### Services -/

/-- `prepare_service_launch` and `re_resolve_service`, until the result is stored. -/
def ConfigActor.resolveLaunch (actor : ConfigActor) (daemon : DaemonProcess)
    (surroundings : Surroundings) (service : String) : Except OrchestratorError ServiceConfig :=
  match actor.config.services.lookup service with
  | none => .error .serviceContextNotFound
  | some raw => do
    let evaluator ← surroundings.evaluator.mapError fun e => .configError e.text
    let resolved ← (resolveService evaluator service raw actor.handle.defaultUser).mapError
      fun e => .configError e.text
    (actor.handle.checkUser daemon surroundings.system.accounts resolved.user
      s!"service '{service}'").mapError .configError
    return resolved

structure ServiceContext where
  service : String
  resolvedConfig : Option ServiceConfig
  workingDir : String

def spawnService (daemon : DaemonProcess) (surroundings : Surroundings)
    (context : ServiceContext) : Option Credentials :=
  context.resolvedConfig.bind fun resolved =>
    (spawnAs surroundings.system daemon.credentials daemon.keplerGid resolved.user resolved.groups
      { programAndArgs := resolved.command
        workingDir := context.workingDir
        limits := resolved.limits
        noNewPrivileges := resolved.noNewPrivileges.getD true
        cgroupPath := surroundings.cgroup }).toOption

/-! ### Hooks -/

/-- What the loop that captures the output of a process keeps from line to line. -/
structure OutputCapture where
  captured : List String := []
  capturedBytes : Nat := 0
  overflow : Bool := false

/-- The loop in `spawn_capture_task`: a line with the marker and an equals sign is kept, up to the
size limit. -/
def OutputCapture.line (maxSize : Nat) (capture : OutputCapture) (line : String) : OutputCapture :=
  match line.toList.dropPrefix? "::output::".toList with
  | none => capture
  | some rest =>
    let marker := String.ofList rest
    if !marker.toList.contains '=' || capture.overflow then capture
    else if capture.capturedBytes + marker.utf8ByteSize ≤ maxSize then
      { capture with
        captured := capture.captured ++ [marker]
        capturedBytes := capture.capturedBytes + marker.utf8ByteSize }
    else { capture with overflow := true }

/-- The captured lines of a process, if its output is captured at all. -/
def captureOutput (outputCapture : Option Nat) (stdout : List String) : Option (List String) :=
  outputCapture.map fun maxSize => (Runs.run (OutputCapture.line maxSize) {} stdout).captured

/-- A command that was waited for: its exit code, its captured lines, and the credentials of its
process, if it came to that. -/
structure BlockingResult where
  exitCode : Option Int
  capturedOutput : Option (List String)
  executed : Option Credentials
  deriving DecidableEq, Repr

/-- `spawn_blocking`. A wrapper that fails before the command exits with 127. -/
def spawnBlocking (surroundings : Surroundings) (process : Credentials) (spec : CommandSpec)
    (outputCapture : Option Nat) : Except DaemonError BlockingResult :=
  match buildCommand surroundings.system spec with
  | .error e => .error e
  | .ok (.plain programAndArgs) =>
    match surroundings.system.execvp programAndArgs with
    | .error e => .error (.processSpawn (spec.programAndArgs.headD "") e)
    | .ok () => .ok ⟨surroundings.exitCode spec.programAndArgs,
        captureOutput outputCapture (surroundings.stdout spec.programAndArgs), some process⟩
  | .ok (.wrapped _ args) =>
    match Exec.run surroundings.system.toExecSystem process args with
    | .error _ => .ok ⟨some 127, captureOutput outputCapture [], none⟩
    | .ok executed => .ok ⟨surroundings.exitCode spec.programAndArgs,
        captureOutput outputCapture (surroundings.stdout spec.programAndArgs), some executed⟩

theorem spawn_of_spawnBlocking {surroundings : Surroundings} {process executed : Credentials}
    {spec : CommandSpec} {outputCapture : Option Nat} {result : BlockingResult}
    (success : spawnBlocking surroundings process spec outputCapture = .ok result)
    (ran : result.executed = some executed) :
    spawn surroundings.system process spec = .ok executed := by
  unfold spawnBlocking at success
  unfold spawn
  cases built : buildCommand surroundings.system spec with
  | error e => simp [built] at success
  | ok command => ?_
  cases command with
  | plain programAndArgs =>
    cases outcome : surroundings.system.execvp programAndArgs with
    | error e => simp [built, outcome] at success
    | ok done => ?_
    simp only [built, outcome, Except.ok.injEq] at success
    subst success
    dsimp only
    rw [outcome]
    exact congrArg Except.ok (some.inj ran)
  | wrapped path args =>
    cases outcome : Exec.run surroundings.system.toExecSystem process args with
    | error e =>
      simp only [built, outcome, Except.ok.injEq] at success
      subst success
      cases ran
    | ok =>
      simp only [built, outcome, Except.ok.injEq] at success
      subst success
      exact outcome.trans (congrArg Except.ok (some.inj ran))

structure ServiceHookParams where
  workingDir : String
  serviceUser : Option String
  serviceGroups : List String
  evaluator : Option Evaluator
  configDir : String
  hardening : HardeningLevel
  ownerUid : Option UInt32
  keplerGid : Option UInt32
  serviceNoNewPrivileges : Option Bool
  outputMaxSize : Nat

def ServiceHookParams.inherit (params : ServiceHookParams) (hook : HookCommand)
    (spec : CommandSpec) : CommandSpec :=
  { spec with
    workingDir := if hook.common.workingDir = .static none then params.workingDir
      else spec.workingDir
    user := spec.user.or params.serviceUser
    groups := if spec.groups = [] then params.serviceGroups else spec.groups
    noNewPrivileges := (hook.common.noNewPrivileges.or params.serviceNoNewPrivileges).getD true }

def hookOutcome (service hookName : String) :
    Except DaemonError BlockingResult →
      Except DaemonError (Option (List String)) × Option Credentials
  | .error e => (.error e, none)
  | .ok result =>
    (if result.exitCode = some 0 then .ok result.capturedOutput
      else .error (.hookFailed service hookName (match result.exitCode with
        | some code => s!"exit code {code}"
        | none => "killed by signal")), result.executed)

/-- `run_hook_step`, with the process it started. -/
def runHookStep (daemon : DaemonProcess) (surroundings : Surroundings)
    (params : ServiceHookParams) (service hookName : String) (hook : HookCommand) :
    Except DaemonError (Option (List String)) × Option Credentials :=
  match params.evaluator with
  | none => (.error (.config ("Hook " ++ service ++ "." ++ hookName ++
      ": no Lua evaluator available for hook resolution")), none)
  | some evaluator =>
    match resolveHook evaluator (service ++ ".hooks." ++ hookName) params.configDir hook with
    | .error e => (.error e, none)
    | .ok resolved =>
      let spec := params.inherit hook resolved
      match checkPrivilegeEscalation surroundings.system.accounts params.hardening spec.user
          params.ownerUid ("hook '" ++ service ++ "." ++ hookName ++ "'") with
      | .error e => (.error (.config e), none)
      | .ok () => hookOutcome service hookName (spawnBlocking surroundings daemon.credentials
          { spec with
            groups := effectiveGroups surroundings.system.accounts spec.groups spec.user
              params.keplerGid }
          (hook.common.output.map fun _ => params.outputMaxSize))

/-- `parse_capture_lines`: the last value of a key wins, and a key is not empty. -/
def parseCaptureLines (lines : List String) : Bindings :=
  lines.foldl (fun found line =>
    match Text.splitOnce '=' line with
    | some (key, value) => if key = "" then found else found.insert key value
    | none => found) ∅

/-- The variables of each step of a hook, by the name of the step's output. -/
abbrev StepOutputs : Type := HashMap String Bindings

def StepOutputs.keep (outputs : StepOutputs) (name : Option String)
    (captured : Option (List String)) : StepOutputs :=
  match name, captured with
  | some name, some lines =>
    if (parseCaptureLines lines).entries.isEmpty then outputs
    else outputs.insert name (parseCaptureLines lines)
  | some _, none | none, _ => outputs

/-- What `run_service_hook` keeps from step to step, and the processes it has started. -/
structure HookProgress where
  hadFailure : Bool := false
  firstError : Option DaemonError := none
  failureChecked : Bool := false
  outputs : StepOutputs := ∅
  executed : List Credentials := []

/-- The `if` condition of a step: none when it is skipped, otherwise whether a failure counts as
handled when it succeeds. -/
def HookProgress.admits (surroundings : Surroundings) (progress : HookProgress) :
    ConfigValue (Option Bool) → Option Bool
  | .static none => if progress.hadFailure then none else some progress.failureChecked
  | .static (some false) => none
  | .static (some true) => some progress.failureChecked
  | .dynamic expression =>
    match surroundings.evalIfCondition expression with
    | .ok (true, asked) => some asked
    | .ok (false, _) | .error _ => none

/-- The body of the loop of `run_service_hook`. -/
def hookLoopStep (daemon : DaemonProcess) (surroundings : Surroundings)
    (params : ServiceHookParams) (service hookName : String) (progress : HookProgress)
    (hook : HookCommand) : HookProgress :=
  match progress.admits surroundings hook.common.condition with
  | none => progress
  | some asked =>
    let (outcome, started) := runHookStep daemon surroundings params service hookName hook
    let executed := progress.executed ++ started.toList
    match outcome with
    | .ok captured =>
      let outputs := progress.outputs.keep hook.common.output captured
      if progress.hadFailure && asked then { outputs, executed }
      else { progress with failureChecked := asked, outputs, executed }
    | .error e =>
      { hadFailure := true
        firstError := progress.firstError.or (some e)
        failureChecked := asked
        outputs := progress.outputs
        executed }

/-- `run_service_hook`: all steps of a hook. -/
def runServiceHook (daemon : DaemonProcess) (surroundings : Surroundings)
    (params : ServiceHookParams) (service : String) (hooks : Option ServiceHooks)
    (hookType : ServiceHookType) : HookProgress :=
  Runs.run (hookLoopStep daemon surroundings params service hookType.asStr) {}
    ((hooks.bind fun hooks => hooks hookType).getD [])

/-! ### Health checks -/

structure HealthChecker where
  service : String
  config : HealthCheck

def staticTexts (field : ListField) : List String :=
  (field.asStatic.getD []).filterMap ConfigValue.asStatic

def HealthCheck.ownUser (check : HealthCheck) : Option String := check.user.asStatic.bind id

/-- A round of `health_check_loop`. A check without a command passes without a process. -/
def healthTick (daemon : DaemonProcess) (surroundings : Surroundings) (handle : ConfigActorHandle)
    (checker : HealthChecker) (context : ServiceContext) : Option Credentials :=
  let check := checker.config
  let resolved := context.resolvedConfig
  let user := check.ownUser.or (resolved.bind ServiceConfig.user)
  match handle.checkUser daemon surroundings.system.accounts user
      ("healthcheck for service '" ++ checker.service ++ "'") with
  | .error _ => none
  | .ok () =>
    if staticTexts check.command = [] then none
    else (spawnAs surroundings.system daemon.credentials daemon.keplerGid user
      (if staticTexts check.groups = [] then (resolved.map ServiceConfig.groups).getD []
        else staticTexts check.groups)
      { programAndArgs := staticTexts check.command
        workingDir := context.workingDir
        noNewPrivileges := (check.noNewPrivileges.or
          (resolved.bind ServiceConfig.noNewPrivileges)).getD true }).toOption

/-! ### What hardening asks of a process -/

/-- The process is not root, and under the strict level it is the owner. -/
def Respects (level : HardeningLevel) (owner : UInt32) (executed : Credentials) : Prop :=
  executed.uid ≠ 0 ∧ (level = .strict → executed.uid = owner)

instance (level : HardeningLevel) (owner : UInt32) (executed : Credentials) :
    Decidable (Respects level owner executed) :=
  inferInstanceAs (Decidable (_ ∧ _))

/-! ### A config and its tasks -/

/-- A loaded config with the contexts that tasks have fetched and the health checkers that were
started. A task that has ended just takes no further step. -/
structure RunningConfig where
  actor : ConfigActor
  dir : StateDir
  workingDirs : HashMap String String
  contexts : List ServiceContext
  checkers : List HealthChecker

/-- The steps of the tasks of a config, and the commands of its actor. A context or a checker is
given by its place in the list. -/
inductive Activity where
  | resolve (service : String)
  | fetch (service : String)
  | spawnService (context : Nat)
  | runHook (context : Nat) (hookType : ServiceHookType)
  | startHealthChecker (context : Nat)
  | healthTick (checker : Nat)
  | mergeKeplerEnv (overrides : Bindings)
  | mergeKeplerFlags (flags : Bindings)
  | takeSnapshot
  | clearSnapshot

/-- A step together with what the daemon meets while it takes place. -/
structure TaskEvent where
  surroundings : Surroundings
  activity : Activity

namespace RunningConfig

def loaded (actor : ConfigActor) (dir : StateDir) : RunningConfig where
  actor := actor
  dir := dir
  workingDirs := ∅
  contexts := []
  checkers := []

def getServiceContext (state : RunningConfig) (service : String) : Option ServiceContext :=
  if (state.actor.config.services.lookup service).isSome then
    some {
      service
      resolvedConfig := state.actor.resolvedConfigs.lookup service
      workingDir :=
        (state.workingDirs.lookup service).getD (configDir state.actor.handle.configPath) }
  else none

/-- `StoreResolvedConfig`. -/
def storeResolved (state : RunningConfig) (service : String) (resolved : ServiceConfig) :
    RunningConfig :=
  let directory := configDir state.actor.handle.configPath
  { state with
    actor := state.actor.storeResolvedConfig service resolved
    workingDirs := state.workingDirs.insert service
      ((resolved.workingDir.map (joinPath directory)).getD directory) }

/-- A command of the actor that writes to the state directory. -/
def command (state : RunningConfig) (run : ConfigActor → StateDir → ConfigActor × StateDir) :
    RunningConfig :=
  { state with actor := (run state.actor state.dir).1, dir := (run state.actor state.dir).2 }

/-- The parameters that `run_service_hook` builds from a context. -/
def hookParams (state : RunningConfig) (daemon : DaemonProcess) (surroundings : Surroundings)
    (context : ServiceContext) (resolved : ServiceConfig) : ServiceHookParams where
  workingDir := context.workingDir
  serviceUser := resolved.user
  serviceGroups := resolved.groups
  evaluator := surroundings.evaluator.toOption
  configDir := configDir state.actor.handle.configPath
  hardening := state.actor.handle.effectiveHardening daemon.hardening
  ownerUid := state.actor.handle.ownerUid
  keplerGid := daemon.keplerGid
  serviceNoNewPrivileges := resolved.noNewPrivileges
  outputMaxSize := state.actor.config.outputMaxSizeBytes

def runHook (state : RunningConfig) (daemon : DaemonProcess) (surroundings : Surroundings)
    (hookType : ServiceHookType) (context : ServiceContext) : List Credentials :=
  match context.resolvedConfig with
  | none => []
  | some resolved =>
    (runServiceHook daemon surroundings (state.hookParams daemon surroundings context resolved)
      context.service resolved.hooks hookType).executed

def newChecker (context : ServiceContext) : Option HealthChecker :=
  context.resolvedConfig.bind fun resolved =>
    resolved.healthcheck.map fun config => { service := context.service, config }

def step (daemon : DaemonProcess) (state : RunningConfig) (event : TaskEvent) : RunningConfig :=
  match event.activity with
  | .resolve service =>
    match state.actor.resolveLaunch daemon event.surroundings service with
    | .error _ => state
    | .ok resolved => state.storeResolved service resolved
  | .fetch service =>
    { state with contexts := state.contexts ++ (state.getServiceContext service).toList }
  | .startHealthChecker index =>
    { state with
      checkers := state.checkers ++ ((state.contexts[index]?).bind newChecker).toList }
  | .mergeKeplerEnv overrides =>
    state.command (ConfigActor.mergeKeplerEnv event.surroundings.world overrides)
  | .mergeKeplerFlags flags =>
    state.command (ConfigActor.mergeKeplerFlags event.surroundings.world flags)
  | .takeSnapshot => state.command (ConfigActor.takeSnapshotIfNeeded event.surroundings.world)
  | .clearSnapshot => state.command (ConfigActor.clearSnapshot event.surroundings.world)
  | .spawnService _ | .runHook _ _ | .healthTick _ => state

def executes (daemon : DaemonProcess) (state : RunningConfig) (event : TaskEvent) :
    List Credentials :=
  match event.activity with
  | .spawnService index =>
    ((state.contexts[index]?).bind (Kepler.spawnService daemon event.surroundings)).toList
  | .runHook index hookType =>
    ((state.contexts[index]?).map
      (state.runHook daemon event.surroundings hookType)).getD []
  | .healthTick index =>
    ((state.checkers[index]?).bind fun checker =>
      (state.getServiceContext checker.service).bind
        (Kepler.healthTick daemon event.surroundings state.actor.handle checker)).toList
  | _ => []

/-! ### What the tasks keep -/

/-- A resolved service has a user that the escalation check has let pass. -/
def Checked (daemon : DaemonProcess) (accounts : Accounts) (handle : ConfigActorHandle)
    (resolved : ServiceConfig) : Prop :=
  resolved.user.isSome ∧
    ∃ context, handle.checkUser daemon accounts resolved.user context = .ok ()

/-- Everything that the actor or a task knows about a service has been checked. -/
structure Sound (daemon : DaemonProcess) (accounts : Accounts) (handle : ConfigActorHandle)
    (state : RunningConfig) : Prop where
  sameHandle : state.actor.handle = handle
  stored : ∀ service resolved, state.actor.resolvedConfigs.lookup service = some resolved →
    Checked daemon accounts handle resolved
  fetched : ∀ context ∈ state.contexts, ∀ resolved, context.resolvedConfig = some resolved →
    Checked daemon accounts handle resolved

section

variable {daemon : DaemonProcess} {accounts : Accounts} {handle : ConfigActorHandle}
  {owner : UInt32} {state : RunningConfig} {event : TaskEvent} {resolved : ServiceConfig}

section

variable {actor : ConfigActor} {surroundings : Surroundings} {service : String}
  {resolved : ServiceConfig}
  (success : actor.resolveLaunch daemon surroundings service = .ok resolved)

include success

theorem resolveLaunch_eq_ok : ∃ raw, actor.config.services.lookup service = some raw ∧
    (∃ evaluator, resolveService evaluator service raw actor.handle.defaultUser = .ok resolved) ∧
    actor.handle.checkUser daemon surroundings.system.accounts resolved.user
      s!"service '{service}'" = .ok () := by
  unfold resolveLaunch at success
  cases found : actor.config.services.lookup service with
  | none => simp [found] at success
  | some raw => ?_
  rw [found] at success
  obtain ⟨evaluator, _, success⟩ := bind_eq_ok.mp success
  obtain ⟨made, resolving, success⟩ := bind_eq_ok.mp success
  obtain ⟨_, checking, success⟩ := bind_eq_ok.mp success
  cases success
  exact ⟨raw, rfl, ⟨evaluator, mapError_eq_ok.mp resolving⟩,
    mapError_eq_ok.mp checking⟩

theorem checked_of_resolveLaunch (owned : actor.handle.ownerUid = some owner)
    (nonRoot : owner ≠ 0) : Checked daemon surroundings.system.accounts actor.handle resolved := by
  obtain ⟨_, _, ⟨_, resolving⟩, checking⟩ := resolveLaunch_eq_ok success
  exact ⟨(resolveService_eq_ok resolving).1 (ConfigActorHandle.isSome_defaultUser owned nonRoot),
    _, checking⟩

end

theorem sound_storeResolved {service : String} (checked : Checked daemon accounts handle resolved)
    (sound : Sound daemon accounts handle state) :
    Sound daemon accounts handle (state.storeResolved service resolved) := by
  refine ⟨sound.sameHandle, fun asked other found => ?_, sound.fetched⟩
  change (state.actor.resolvedConfigs.insert ..).lookup asked = some other at found
  by_cases same : asked = service
  · subst same
    rw [AList.lookup_insert] at found
    cases found
    exact checked
  · rw [AList.lookup_insert_ne same] at found
    exact sound.stored asked other found

theorem sound_command {run : ConfigActor → StateDir → ConfigActor × StateDir}
    (keepsHandle : ∀ actor dir, (run actor dir).1.handle = actor.handle)
    (keepsResolved : ∀ actor dir, (run actor dir).1.resolvedConfigs = ∅ ∨
      (run actor dir).1.resolvedConfigs = actor.resolvedConfigs)
    (sound : Sound daemon accounts handle state) :
    Sound daemon accounts handle (state.command run) := by
  refine ⟨(keepsHandle _ _).trans sound.sameHandle, fun service resolved found => ?_, sound.fetched⟩
  change (run state.actor state.dir).1.resolvedConfigs.lookup service = some resolved at found
  rcases keepsResolved state.actor state.dir with empty | same
  · rw [empty, AList.lookup_empty] at found
    cases found
  · rw [same] at found
    exact sound.stored service resolved found

theorem sound_takeSnapshot (world : World) (sound : Sound daemon accounts handle state) :
    Sound daemon accounts handle (state.command (ConfigActor.takeSnapshotIfNeeded world)) := by
  refine sound_command (fun actor dir => ?_) (fun actor dir => Or.inr ?_) sound
  all_goals
    obtain ⟨_, _, same⟩ := actor.takeSnapshotIfNeeded_actor world dir
    rw [same]

theorem sound_clearSnapshot (world : World) (sound : Sound daemon accounts handle state) :
    Sound daemon accounts handle (state.command (ConfigActor.clearSnapshot world)) := by
  refine sound_command (fun actor dir => ?_) (fun actor dir => ?_) sound
  · unfold clearSnapshot
    rcases dir.clearSnapshot world with ⟨_ | _, left⟩ <;> rfl
  · unfold clearSnapshot
    rcases dir.clearSnapshot world with ⟨_ | _, left⟩
    · exact Or.inr rfl
    · exact Or.inl rfl

theorem sound_step (owned : handle.ownerUid = some owner) (nonRoot : owner ≠ 0)
    (sound : Sound daemon accounts handle state)
    (sameAccounts : event.surroundings.system.accounts = accounts) :
    Sound daemon accounts handle (state.step daemon event) := by
  unfold step
  cases event.activity with
  | resolve service =>
    dsimp only
    cases launch : state.actor.resolveLaunch daemon event.surroundings service with
    | error e => exact sound
    | ok =>
      have checked := checked_of_resolveLaunch launch (sound.sameHandle ▸ owned) nonRoot
      rw [sound.sameHandle, sameAccounts] at checked
      exact sound_storeResolved checked sound
  | fetch service =>
    refine ⟨sound.sameHandle, sound.stored, fun context member resolved held => ?_⟩
    rcases mem_append.mp member with old | new
    · exact sound.fetched context old resolved held
    · rw [mem_toList] at new
      unfold getServiceContext at new
      split_ifs at new
      cases new
      exact sound.stored service resolved held
  | startHealthChecker index => exact ⟨sound.sameHandle, sound.stored, sound.fetched⟩
  | mergeKeplerEnv | mergeKeplerFlags =>
    exact sound_command (fun _ _ => rfl) (fun _ _ => Or.inl rfl) sound
  | takeSnapshot => exact sound_takeSnapshot event.surroundings.world sound
  | clearSnapshot => exact sound_clearSnapshot event.surroundings.world sound
  | spawnService | runHook | healthTick => exact sound

/-! ### The users of processes -/

/-- A process was started as a user that the escalation check lets pass, or as no user. -/
def StartedAs (daemon : DaemonProcess) (accounts : Accounts) (handle : ConfigActorHandle)
    (user : Option String) (executed : Credentials) : Prop :=
  (∃ context, handle.checkUser daemon accounts user context = .ok ()) ∧
    ∃ system : SpawnSystem, system.accounts = accounts ∧ ∃ groups command,
      spawnAs system daemon.credentials daemon.keplerGid user groups command = .ok executed

variable {executed : Credentials} {context : ServiceContext}

theorem respects_iff_isSome {user : Option String} (owned : handle.ownerUid = some owner)
    (nonRoot : owner ≠ 0) (restricted : handle.effectiveHardening daemon.hardening ≠ .none)
    (started : StartedAs daemon accounts handle user executed) :
    Respects (handle.effectiveHardening daemon.hardening) owner executed ↔ user.isSome := by
  obtain ⟨⟨context, checked⟩, system, rfl, groups, command, spawned⟩ := started
  obtain ⟨withoutUser, withUser⟩ := spawnAs_eq_ok spawned
  cases user with
  | none =>
    rw [withoutUser rfl]
    simp [Respects, daemon.isRoot]
  | some spec =>
    obtain ⟨resolved, found, runs⟩ := withUser spec rfl
    unfold ConfigActorHandle.checkUser at checked
    rw [owned] at checked
    obtain ⟨same, again, respects⟩ := checkPrivilegeEscalation_eq_ok restricted nonRoot checked
    cases found.symm.trans again
    rw [← runs.uid] at respects
    exact ⟨fun _ => rfl, fun _ => respects⟩

section

variable (sound : Sound daemon accounts handle state)
  (sameAccounts : event.surroundings.system.accounts = accounts)

include sound sameAccounts

theorem startedAs_of_runHookStep {hookName : String} {hook : HookCommand}
    (checked : Checked daemon accounts handle resolved)
    (ran : (runHookStep daemon event.surroundings
      (state.hookParams daemon event.surroundings context resolved) context.service hookName
      hook).2 = some executed) :
    ∃ user, user.isSome ∧ StartedAs daemon accounts handle user executed := by
  subst sameAccounts
  unfold runHookStep at ran
  cases evaluation : event.surroundings.evaluator.toOption with
  | none => simp [hookParams, evaluation] at ran
  | some => ?_
  simp only [hookParams, evaluation] at ran
  split at ran
  · cases ran
  · next spec _ =>
    split at ran
    · cases ran
    · next passed =>
      rw [sound.sameHandle] at passed
      generalize outcome : spawnBlocking _ _ _ _ = finished at ran
      cases finished with
      | error e => exact absurd ran (by simp [hookOutcome])
      | ok result =>
        refine ⟨_, ?_, ⟨_, passed⟩, event.surroundings.system, rfl, _, _,
          spawn_of_spawnBlocking outcome ran⟩
        change (spec.user.or resolved.user).isSome
        rw [isSome_or, checked.1, Bool.or_true]

theorem startedAs_of_runHook {hookType : ServiceHookType} (member : context ∈ state.contexts)
    (ran : executed ∈ state.runHook daemon event.surroundings hookType context) :
    ∃ user, user.isSome ∧ StartedAs daemon accounts handle user executed := by
  unfold runHook at ran
  cases held : context.resolvedConfig with
  | none => simp [held] at ran
  | some resolved => ?_
  have checked := sound.fetched context member resolved held
  simp only [held, runServiceHook] at ran
  -- the invariant of the loop over the steps of the hook
  let Holds (progress : HookProgress) : Prop := ∀ executed ∈ progress.executed,
    ∃ user, user.isSome ∧ StartedAs daemon accounts handle user executed
  refine (show Holds _ from Runs.always (fun progress hook holds => ?_) _ ?_) executed ran
  · unfold hookLoopStep
    cases progress.admits event.surroundings hook.common.condition with
    | none => exact holds
    | some asked => ?_
    have extended : ∀ started ∈ progress.executed ++ (runHookStep daemon event.surroundings
          (state.hookParams daemon event.surroundings context resolved) context.service
          hookType.asStr hook).2.toList,
        ∃ user, user.isSome ∧ StartedAs daemon accounts handle user started := by
      intro started inList
      rcases mem_append.mp inList with old | new
      · exact holds started old
      · exact startedAs_of_runHookStep sound sameAccounts checked (mem_toList.mp new)
    dsimp only
    cases (runHookStep daemon event.surroundings
      (state.hookParams daemon event.surroundings context resolved) context.service
      hookType.asStr hook).1 with
    | error e => exact extended
    | ok done =>
      split_ifs <;> exact extended
  · intro started none
    cases none

theorem startedAs_of_spawnService (member : context ∈ state.contexts)
    (ran : Kepler.spawnService daemon event.surroundings context = some executed) :
    ∃ user, user.isSome ∧ StartedAs daemon accounts handle user executed := by
  obtain ⟨resolved, held, ran⟩ := bind_eq_some_iff.mp ran
  obtain ⟨hasUser, checked⟩ := sound.fetched context member resolved held
  exact ⟨resolved.user, hasUser, checked, event.surroundings.system, sameAccounts, _, _,
    toOption_eq_some.mp ran⟩

theorem startedAs_of_healthTick {checker : HealthChecker}
    (fetched : state.getServiceContext checker.service = some context)
    (ran : Kepler.healthTick daemon event.surroundings state.actor.handle checker context =
      some executed) :
    ∃ user, (user.isSome ↔ checker.config.ownUser.isSome ∨
        (state.actor.resolvedConfigs.lookup checker.service).isSome) ∧
      StartedAs daemon accounts handle user executed := by
  unfold getServiceContext at fetched
  split_ifs at fetched
  cases fetched
  simp only [Kepler.healthTick, sound.sameHandle, sameAccounts] at ran
  split at ran
  · cases ran
  · next passed =>
    by_cases empty : staticTexts checker.config.command = []
    · simp [empty] at ran
    rw [if_neg empty] at ran
    refine ⟨_, ?_, ⟨_, passed⟩, event.surroundings.system, sameAccounts, _, _,
      toOption_eq_some.mp ran⟩
    rw [isSome_or, Bool.or_eq_true]
    refine or_congr_right ?_
    cases found : state.actor.resolvedConfigs.lookup checker.service with
    | none => simp
    | some resolved => simp [(sound.stored checker.service resolved found).1]

end

/-- A health check that names no user finds its service resolved. -/
def FindsUser (state : RunningConfig) : Activity → Prop
  | .healthTick index => ∀ checker, state.checkers[index]? = some checker →
      checker.config.ownUser.isSome ∨
        (state.actor.resolvedConfigs.lookup checker.service).isSome
  | _ => True

theorem startedAs_of_executes (sound : Sound daemon accounts handle state)
    (sameAccounts : event.surroundings.system.accounts = accounts)
    (ran : executed ∈ state.executes daemon event) :
    ∃ user, (user.isSome ↔ state.FindsUser event.activity) ∧
      StartedAs daemon accounts handle user executed := by
  unfold executes at ran
  cases activity : event.activity with
  | spawnService index =>
    simp only [activity, mem_toList] at ran
    obtain ⟨context, held, ran⟩ := bind_eq_some_iff.mp ran
    obtain ⟨user, isUser, started⟩ := startedAs_of_spawnService sound sameAccounts
      (mem_of_getElem? held) ran
    exact ⟨user, by simp [isUser, FindsUser], started⟩
  | runHook index =>
    simp only [activity] at ran
    cases held : state.contexts[index]? with
    | none => simp [held] at ran
    | some =>
      rw [held] at ran
      obtain ⟨user, isUser, started⟩ := startedAs_of_runHook sound sameAccounts
        (mem_of_getElem? held) ran
      exact ⟨user, by simp [isUser, FindsUser], started⟩
  | healthTick index =>
    simp only [activity, mem_toList] at ran
    obtain ⟨checker, held, ran⟩ := bind_eq_some_iff.mp ran
    obtain ⟨context, fetched, ran⟩ := bind_eq_some_iff.mp ran
    obtain ⟨user, isUser, started⟩ := startedAs_of_healthTick sound sameAccounts fetched ran
    refine ⟨user, isUser.trans ?_, started⟩
    simp [FindsUser, held]
  | _ => simp [activity] at ran

end

end RunningConfig

/-- A process of a config with a non-root owner respects the hardening level of the config exactly
when its step finds a user: after any run of the tasks of the config, for services, hooks and health
checks alike. -/
theorem process_respects_iff {daemon : DaemonProcess} {accounts : Accounts} {world : World}
    {machine : Nat} {canonical : String} {sysEnv : Option Bindings} {terms : LoadTerms}
    {existing : Option StateDir} {actor : ConfigActor} {owner : UInt32} {dir : StateDir}
    {events : List TaskEvent} {event : TaskEvent} {executed : Credentials}
    (created : (ConfigActor.create world machine canonical sysEnv terms existing).1 = .ok actor)
    (owned : actor.handle.ownerUid = some owner) (nonRoot : owner ≠ 0)
    (restricted : actor.handle.effectiveHardening daemon.hardening ≠ .none)
    (sameAccounts : ∀ other ∈ events ++ [event],
      other.surroundings.system.accounts = accounts)
    (ran : executed ∈ (Runs.run (RunningConfig.step daemon) (.loaded actor dir) events).executes
      daemon event) :
    Respects (actor.handle.effectiveHardening daemon.hardening) owner executed ↔
      (Runs.run (RunningConfig.step daemon) (.loaded actor dir) events).FindsUser
        event.activity := by
  obtain ⟨before, now⟩ := forall_mem_append.mp sameAccounts
  obtain ⟨baked, finished, _⟩ := create_eq_ok created
  have fresh := (finish_eq_ok finished).2.2.2.2.2
  have initially : RunningConfig.Sound daemon accounts actor.handle (.loaded actor dir) := by
    refine ⟨rfl, fun service resolved found => ?_, fun context member => ?_⟩
    · change actor.resolvedConfigs.lookup service = some resolved at found
      rw [fresh, AList.lookup_empty] at found
      cases found
    · cases member
  have sound := Runs.invariant (fun state event => RunningConfig.sound_step owned nonRoot)
    (Runs.meets_of_forall _ before) initially
  obtain ⟨user, isUser, started⟩ := RunningConfig.startedAs_of_executes sound
    (now event (mem_singleton.mpr rfl)) ran
  rw [RunningConfig.respects_iff_isSome owned nonRoot restricted started, isUser]

/-! A service with a health check that names no user, loaded by `alice` under strict hardening. -/

def checkedConfig : KeplerConfig where
  services := AList.insert "web"
    { command := .static (wrapVec ["serve"])
      healthcheck := .static (some { command := .static (wrapVec ["probe"]) }) } ∅

def checkedWorld : World := quietWorld singleConfigTree refusingEngine checkedConfig

def aliceTerms : LoadTerms where
  owner := some (1000, 1000)
  hardening := some .strict

def checkedActor : Except DaemonError ConfigActor :=
  (ConfigActor.create checkedWorld 0 "/srv/app.yaml" none aliceTerms none).1

def rootDaemon : DaemonProcess where
  credentials := rootCredentials
  isRoot := rfl
  keplerGid := some 900
  hardening := .noRoot

def staticEvaluator : Evaluator where
  text _ _ := .error (.config "expression")
  optionalText _ _ := .error (.config "expression")
  optionalBool _ _ := .error (.config "expression")
  list _ _ := .error (.config "expression")
  limits _ _ := .error (.config "expression")
  healthcheck _ _ := .error (.config "expression")
  environment _ := .ok ()
  restart _ _ := .ok default
  otherFields _ := .ok ()
  shell := "/bin/bash"

def quietly (activity : Activity) : TaskEvent where
  surroundings :=
    { world := checkedWorld
      system := twoUserSystem
      evaluator := .ok staticEvaluator
      evalIfCondition _ := .error "no condition"
      exitCode _ := some 0
      cgroup := none }
  activity := activity

def webStarted : List TaskEvent :=
  [.resolve "web", .fetch "web", .spawnService 0, .startHealthChecker 0].map quietly

/-- The service has been started, and the environment of the config was extended since. -/
def webExtended : List TaskEvent :=
  webStarted ++ [quietly (.mergeKeplerEnv (AList.insert "MODE" "debug" ∅))]

/-- The processes of the next health check after a list of steps. -/
def checkedProcesses (events : List TaskEvent) (actor : ConfigActor) : List Credentials :=
  (Runs.run (RunningConfig.step rootDaemon) (.loaded actor {}) events).executes rootDaemon
    (quietly (.healthTick 0))

theorem quietly_accounts (activities : List Activity) :
    ∀ event ∈ activities.map quietly, event.surroundings.system.accounts = twoUserAccounts := by
  intro event member
  obtain ⟨activity, _, rfl⟩ := mem_map.mp member
  rfl

theorem exists_checkedActor {events : List TaskEvent} {processes : List Credentials}
    (evaluated : checkedActor.map (fun actor => (actor.handle.ownerUid,
      actor.handle.effectiveHardening rootDaemon.hardening, checkedProcesses events actor)) =
        .ok (some 1000, .strict, processes)) :
    ∃ actor, checkedActor = .ok actor ∧ actor.handle.ownerUid = some 1000 ∧
      actor.handle.effectiveHardening rootDaemon.hardening = .strict ∧
      checkedProcesses events actor = processes := by
  obtain ⟨actor, created, same⟩ := map_eq_ok.mp evaluated
  simp only [Prod.mk.injEq] at same
  exact ⟨actor, created, same⟩

theorem healthCheck_respects :
    ∃ actor, checkedActor = .ok actor ∧
      checkedProcesses webStarted actor = [⟨1000, 1000, [1000]⟩] ∧
      (Respects (actor.handle.effectiveHardening rootDaemon.hardening) 1000
          ⟨1000, 1000, [1000]⟩ ↔
        (Runs.run (RunningConfig.step rootDaemon) (.loaded actor {}) webStarted).FindsUser
          (.healthTick 0)) := by
  obtain ⟨actor, created, owned, level, processes⟩ := @exists_checkedActor webStarted
    [⟨1000, 1000, [1000]⟩] (by decide +kernel)
  refine ⟨actor, created, processes, ?_⟩
  refine @process_respects_iff rootDaemon twoUserAccounts _ _ _ _ _ _ _ 1000 {} webStarted
    (quietly (.healthTick 0)) _ created owned (by decide) ?_ ?_ ?_
  · rw [level]
    decide
  · exact quietly_accounts [.resolve "web", .fetch "web", .spawnService 0, .startHealthChecker 0,
      .healthTick 0]
  · change _ ∈ checkedProcesses webStarted actor
    rw [processes]
    exact mem_singleton.mpr rfl

/-- Extending the environment makes the actor forget its resolved services, and the next health
check runs as root. -/
theorem healthCheck_runs_as_root :
    ∃ actor, checkedActor = .ok actor ∧ actor.handle.ownerUid = some 1000 ∧
      actor.handle.effectiveHardening rootDaemon.hardening = .strict ∧
      checkedProcesses webExtended actor = [⟨0, 0, [0]⟩] :=
  exists_checkedActor (by decide +kernel)

end Kepler
