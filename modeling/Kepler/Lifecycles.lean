/-
This file models the operations that move a service through its life (`orchestrator/mod.rs`,
`orchestrator/events.rs`, `process/mod.rs`): starts, stops, manual restarts, the automatic restarts
after an exit, a file change, a failed health check and the restart of a dependency.

Each of them is a task of its own, here a program, that talks to the config actor, one command at a
time, and in between runs hooks, resolves the config, creates and revokes tokens, and spawns and
stops processes. A request for several services does for each of them what its program says. Log
retention, control groups and the files with the outputs of a service are left out.
-/

import Kepler.ServiceActor
import Kepler.Processes
import Kepler.Library.Programs

namespace Kepler

/-! ### Operations -/

/-- A process that was spawned, with its handle and what is registered about it. -/
structure SpawnedProcess where
  handle : ProcessHandle
  pid : Option UInt32
  startedAt : Nat

/-- A computed config with the working directory that goes with it. -/
structure Resolution where
  config : ServiceConfig
  workingDir : String

/-- What a task does with its service. How a hook ends, what the config is computed to, whether a
token can be made, a delay computed and a process spawned, and how the wait for the dependencies
ends is decided outside. -/
inductive Operation where
  | command (command : ServiceCommand)
  | runHook (hook : ServiceHookType)
  | resolveService
  | createToken (permissions : ServicePermissions)
  | revokeToken (token : Token)
  | spawnProcess
  | killProcess (process : ProcessId)
  | requestShutdown (process : ProcessId)
  | awaitShutdown (process : ProcessId)
  | clearProcessOutputs
  | spawnTask
  | awaitDependencies
  | awaitDependencyRestart
  | sleep
  /-- The computed delay before an automatic restart. -/
  | backoff

@[reducible]
def Operation.Reply : Operation → Type
  | .command request => request.Reply
  | .runHook _ => Except OrchestratorError Unit
  | .resolveService => Except OrchestratorError Resolution
  | .createToken _ => Except OrchestratorError Token
  | .revokeToken _ => Unit
  | .spawnProcess => Except DaemonError SpawnedProcess
  | .killProcess _ => Unit
  | .requestShutdown _ => Unit
  | .awaitShutdown _ => Unit
  | .clearProcessOutputs => Except DaemonError Unit
  | .spawnTask => TaskHandle
  | .awaitDependencies => Except OrchestratorError Unit
  | .awaitDependencyRestart => Unit
  | .sleep => Unit
  | .backoff => Except OrchestratorError Unit

abbrev Lifecycle (Result : Type) := Program Operation.Reply OrchestratorError Result

namespace Lifecycle

abbrev perform (operation : Operation) : Lifecycle operation.Reply := Program.call operation

abbrev command (command : ServiceCommand) : Lifecycle command.Reply := perform (.command command)

def check {Result : Type} : Except OrchestratorError Result → Lifecycle Result
  | .ok result => pure result
  | .error error => Program.fail error

def require {Result : Type} : Option Result → Lifecycle Result
  | some result => pure result
  | none => Program.fail .serviceContextNotFound

/-- A hook whose failure is only logged. -/
def hook (hookType : ServiceHookType) : Lifecycle Unit := do
  let _ ← perform (.runHook hookType)
  return ()

section

variable (service : String)

/-! ### Token guards -/

/-- `revoke_matching_service_token_guard`. -/
def revokeMatching : Option Token → Lifecycle Unit
  | none => pure ()
  | some token => do
    let guard ← command (.takeMatchingTokenGuard token)
    match guard with
    | none => pure ()
    | some token => perform (.revokeToken token)

/-- The guard of a new token is handed to the actor, for a startup only while its claim is usable. A
guard that comes back is revoked. -/
def storeGuard (token : Token) : Option ServiceStartup → Lifecycle Unit
  | none => command (.storeTokenGuard token)
  | some startup => do
    let rejected ← command (.storeStartupTokenGuard startup token)
    match rejected with
    | none => pure ()
    | some token => do
      perform (.revokeToken token)
      Program.fail (.startupCancelled service)

/-- `create_service_token_guard_for_operation`. -/
def createServiceTokenGuard (resolved : ServiceConfig) (startup : Option ServiceStartup) :
    Lifecycle (Option Token) :=
  match resolved.permissions with
  | none => pure none
  | some permissions => do
    let created ← perform (.createToken permissions)
    let token ← check created
    storeGuard service token startup
    return some token

/-! ### Processes -/

/-- The registration of a spawned process, which is killed when that fails. -/
def registerProcess (spawned : SpawnedProcess) (token : Option Token) :
    Lifecycle ServiceInstance := do
  let registered ← command (.registerServiceInstance spawned.pid spawned.startedAt)
  match registered with
  | .error error => do
    perform (.killProcess spawned.handle.process)
    revokeMatching token
    Program.fail (.spawnFailed error.text)
  | .ok registered => do
    command (.storeProcessHandle spawned.handle)
    let _ ← command (.setServiceStatus .running)
    return registered

def spawnServiceWithTokenGuard (context : FetchedContext) (token : Option Token) :
    Lifecycle ServiceInstance := do
  let _ ← require context.resolvedConfig
  let spawned ← perform .spawnProcess
  match spawned with
  | .error error => do
    revokeMatching token
    Program.fail (.spawnFailed error.text)
  | .ok spawned => registerProcess spawned token

def spawnHealthChecker (attached : ServiceInstance) : Lifecycle Unit := do
  let begun ← command (.beginHealthCheck attached)
  match begun with
  | none => pure ()
  | some session => do
    let task ← perform .spawnTask
    command (.storeHealthCheckTask session task)

/-- A new file watcher in the place of one that cannot be resumed. -/
def replaceWatcher (patterns : List String) (workingDir : String) : Lifecycle Unit := do
  command (.cancelTaskHandle .fileWatcher)
  let task ← perform .spawnTask
  command (.storeFileWatcher { task, patterns, workingDir })

def watchFiles (patterns : List String) (workingDir : String) : Lifecycle Unit := do
  let resumed ← command (.resumeFileWatcher patterns workingDir)
  if resumed then pure () else replaceWatcher patterns workingDir

def checkHealth (resolved : ServiceConfig) (attached : ServiceInstance) : Lifecycle Unit :=
  if resolved.healthcheck.isSome then spawnHealthChecker attached else pure ()

/-- `spawn_auxiliary_tasks`: the health checker and the file watcher. -/
def spawnAuxiliaryTasks (context : FetchedContext) (attached : ServiceInstance) :
    Lifecycle Unit :=
  match context.resolvedConfig with
  | none => pure ()
  | some resolved => do
    checkHealth resolved attached
    if resolved.restart.watchPatterns.isEmpty then command (.cancelTaskHandle .fileWatcher)
    else watchFiles resolved.restart.watchPatterns context.workingDir

def shutDown : Option ProcessHandle → Lifecycle Unit
  | none => pure ()
  | some handle => do
    perform (.requestShutdown handle.process)
    perform (.awaitShutdown handle.process)

/-- A status that a manual restart does not set, to stay in its own. -/
def setStatusUnless (skipStatusUpdate : Bool) (status : ServiceStatus) : Lifecycle Unit :=
  if skipStatusUpdate then pure ()
  else do
    let _ ← command (.setServiceStatus status)
    return ()

/-- `stop_service`. -/
def stopProcess (skipStatusUpdate : Bool) : Lifecycle Unit := do
  setStatusUnless skipStatusUpdate .stopping
  let handle ← command .removeProcessHandle
  shutDown handle
  command (.cancelTaskHandle .healthCheck)
  command (.cancelTaskHandle .fileWatcher)
  setStatusUnless skipStatusUpdate .stopped
  let _ ← command (.setServicePid none none)
  return ()

/-! ### Startups -/

def ensureServiceStartup (startup : ServiceStartup) : Lifecycle Unit := do
  let current ← command .getServiceStartup
  if current = some startup then pure () else Program.fail (.startupCancelled service)

/-- A status change of a startup. It fails when the claim is not usable any more. -/
def advance (startup : ServiceStartup) (status : ServiceStatus) (skipReason : Option String) :
    Lifecycle Unit := do
  let moved ← command (.transitionServiceStartup startup status skipReason none)
  if moved then pure () else Program.fail (.startupCancelled service)

/-- `wait_for_dependencies`, unless the request is to ignore them. -/
def waitForDependencies (noDeps : Bool) : Lifecycle Unit :=
  if noDeps then pure ()
  else do
    let outcome ← perform .awaitDependencies
    check outcome

/-- The second half of `prepare_service_launch`: the service is resolved, and skipped when its
condition is false. -/
def resolveLaunch (startup : ServiceStartup) (skipCondition : Bool) :
    Lifecycle (Option FetchedContext) := do
  let answer ← perform .resolveService
  let resolved ← check answer
  command (.storeResolvedConfig resolved.config resolved.workingDir)
  let found ← command .getServiceContext
  let context ← require found
  ensureServiceStartup service startup
  if !skipCondition && resolved.config.condition = some false then do
    advance service startup .skipped (some "`if` condition evaluated to false")
    return none
  else return some context

def prepareServiceLaunch (startup : ServiceStartup) (status : ServiceStatus)
    (skipCondition noDeps : Bool) : Lifecycle (Option FetchedContext) := do
  ensureServiceStartup service startup
  let found ← command .getServiceContext
  let _ ← require found
  waitForDependencies noDeps
  advance service startup status none
  resolveLaunch service startup skipCondition

/-- A launch step after the token was created, which goes with it when it fails. -/
def orRevoke {Result : Type} (token : Option Token) (step : Lifecycle Result) :
    Lifecycle Result := do
  let outcome ← step.attempt
  match outcome with
  | .ok result => pure result
  | .error error => do
    revokeMatching token
    Program.fail error

/-- A hook whose failure ends the launch. -/
def launchHook (hookType : ServiceHookType) : Lifecycle Unit := do
  let outcome ← perform (.runHook hookType)
  check outcome

def markInitialized (initialized : Bool) : Lifecycle Unit :=
  if initialized then pure ()
  else do
    let marked ← command .markServiceInitialized
    check (marked.mapError .daemonError)

def startServiceProcess (startup : ServiceStartup) (context : FetchedContext) :
    Lifecycle ServiceInstance := do
  ensureServiceStartup service startup
  let resolved ← require context.resolvedConfig
  let initialized ← command .isServiceInitialized
  command (.emitEvent .start)
  let token ← createServiceTokenGuard service resolved (some startup)
  orRevoke token (launchHook .preStart)
  orRevoke token (ensureServiceStartup service startup)
  let registered ← spawnServiceWithTokenGuard context token
  hook .postStart
  markInitialized initialized
  return registered

def executeServiceStartup (startup : ServiceStartup) (skipCondition noDeps : Bool) :
    Lifecycle Unit := do
  let prepared ← prepareServiceLaunch service startup .starting skipCondition noDeps
  match prepared with
  | none => pure ()
  | some context => do
    let registered ← startServiceProcess service startup context
    spawnAuxiliaryTasks context registered

/-- `handle_service_launch_result`. A cancelled startup leaves the status to whoever cancelled it.
-/
def handleServiceLaunchResult (startup : ServiceStartup) :
    Except OrchestratorError Unit → Lifecycle Unit
  | .ok () => pure ()
  | .error (.dependencySkipped _ dependency) => do
    let _ ← command (.transitionServiceStartup startup .skipped
      (some s!"dependency `{dependency}` was skipped") none)
    return ()
  | .error (.dependencyUnsatisfied _ _ _ reason) => do
    let _ ← command (.transitionServiceStartup startup .skipped (some reason) none)
    return ()
  | .error (.startupCancelled _) => pure ()
  | .error error => do
    let current ← command .getServiceStartup
    if current = some startup then do
      let moved ← command (.transitionServiceStartup startup .failed none (some error.text))
      if moved then Program.fail error else pure ()
    else pure ()

def runServiceStartup (startup : ServiceStartup) (skipCondition noDeps : Bool) :
    Lifecycle Unit := do
  let outcome ← (executeServiceStartup service startup skipCondition noDeps).attempt
  handleServiceLaunchResult startup outcome

/-- `start_services`, for one service. -/
def startService (skipCondition noDeps : Bool) : Lifecycle Unit := do
  let claimed ← command .claimServiceStart
  match claimed with
  | none => pure ()
  | some startup => runServiceStartup service startup skipCondition noDeps

/-! ### Stops -/

def hookOf (context : Option FetchedContext) (hookType : ServiceHookType) : Lifecycle Unit :=
  if context.isSome then hook hookType else pure ()

/-- `stop_services`, for one service that was found active. -/
def stopActive : Lifecycle Unit := do
  command (.emitEvent .stop)
  let context ← command .getServiceContext
  hookOf context .preStop
  stopProcess false
  hookOf context .postStop
  let _ ← command .resetRestartCount
  revokeMatching (context.bind FetchedContext.token)

/-- `stop_services`, for one service. -/
def stopService : Lifecycle Unit := do
  let state ← command .getServiceState
  if state.any fun state => state.status.isActive then stopActive else pure ()

/-! ### Manual restarts -/

/-- The body of `run_manual_restart_startup`. -/
def executeManualRestart (startup : ServiceStartup) (skipCondition noDeps : Bool) :
    Lifecycle Unit := do
  ensureServiceStartup service startup
  let counted ← command .incrementRestartCount
  check (counted.mapError .daemonError)
  let prepared ← prepareServiceLaunch service startup .restarting skipCondition noDeps
  match prepared with
  | none => pure ()
  | some context => do
    let cleared ← perform .clearProcessOutputs
    check (cleared.mapError .daemonError)
    let registered ← startServiceProcess service startup context
    hook .postRestart
    spawnAuxiliaryTasks context registered

def runManualRestartStartup (startup : ServiceStartup) (skipCondition noDeps : Bool) :
    Lifecycle Unit := do
  let outcome ← (executeManualRestart service startup skipCondition noDeps).attempt
  handleServiceLaunchResult startup outcome

/-- The stop phase of a manual restart, for a service whose claim is still usable. -/
def stopForRestart (startup : ServiceStartup) : Lifecycle Unit := do
  ensureServiceStartup service startup
  command .suppressFileWatcher
  let found ← command .getServiceContext
  let context ← require found
  command (.emitEvent (.restart .manual))
  hook .preRestart
  ensureServiceStartup service startup
  hook .preStop
  ensureServiceStartup service startup
  stopProcess true
  hook .postStop
  revokeMatching context.token

/-- The manual restart of a service that was running when it was selected. -/
def restartRunning (skipCondition noDeps : Bool) : Lifecycle Unit := do
  let claimed ← command .claimServiceRestart
  match claimed with
  | none => pure ()
  | some startup => do
    let _ ← (stopForRestart service startup).attempt
    perform .sleep
    runManualRestartStartup service startup skipCondition noDeps

/-- The manual restart of a service that was selected by its terminal state. -/
def restartInactive (states : List RestartState) (skipCondition noDeps : Bool) :
    Lifecycle Unit := do
  let claimed ← command (.claimInactiveServiceRestart states)
  match claimed with
  | none => pure ()
  | some startup => do
    perform .sleep
    runServiceStartup service startup skipCondition noDeps

/-- `restart_services_with_states`, for one service. -/
def restartService (states : List RestartState) (skipCondition noDeps : Bool) :
    Lifecycle Unit := do
  let found ← command .getServiceState
  match found with
  | none => pure ()
  | some state =>
    if !state.initialized then pure ()
    else if state.status.isRunning then restartRunning service skipCondition noDeps
    else if states.any fun selected => selected.includes state.status.asStr then
      restartInactive service states skipCondition noDeps
    else pure ()

/-! ### Automatic restarts -/

def reResolveService : Lifecycle FetchedContext := do
  let found ← command .getServiceContext
  let _ ← require found
  let answer ← perform .resolveService
  let resolved ← check answer
  command (.storeResolvedConfig resolved.config resolved.workingDir)
  let refreshed ← command .getServiceContext
  require refreshed

def tokenOf (context : FetchedContext) : Lifecycle (Option Token) :=
  match context.resolvedConfig with
  | none => pure none
  | some resolved => createServiceTokenGuard service resolved none

def executeRestartStartPhase : Lifecycle Unit := do
  let _ ← command .incrementRestartCount
  let context ← reResolveService
  command (.emitEvent .start)
  let token ← tokenOf service context
  orRevoke token (launchHook .preStart)
  let registered ← spawnServiceWithTokenGuard context token
  hook .postStart
  hook .postRestart
  spawnAuxiliaryTasks context registered

/-- `restart_single_service_with_reason`. -/
def restartSingleService (reason : RestartReason) : Lifecycle Unit := do
  command (.cancelTaskHandle .healthCheck)
  command (.emitEvent (.restart reason))
  command .suppressFileWatcher
  let found ← command .getServiceContext
  let context ← require found
  hook .preRestart
  hook .preStop
  stopProcess false
  hook .postStop
  revokeMatching context.token
  -- A delay that is too long for a duration panics, and nothing catches that.
  let delayed ← perform .backoff
  check delayed
  let outcome ← (executeRestartStartPhase service).attempt
  match outcome with
  | .ok () => pure ()
  | .error error => do
    let _ ← command (.setServiceStatusWithReason .failed none (some error.text))
    Program.fail error

def handleFileChange : Lifecycle Unit := do
  let found ← command .getServiceState
  if found.any fun state => !state.status.isActive then pure ()
  else restartSingleService service .watch

def restartsOnUnhealthy (raw : RawServiceConfig) : Bool :=
  (raw.restart.asStatic.getD default).policy.shouldRestartOnUnhealthy

def handleUnhealthyRestart : Lifecycle Unit := do
  let raw ← command .getServiceConfig
  if raw.any restartsOnUnhealthy then do
    let running ← command .isServiceRunning
    if running then restartSingleService service .unhealthy else pure ()
  else pure ()

/-- `propagate_restart`, for one dependent service. -/
def propagateRestart (dependency : String) : Lifecycle Unit := do
  let running ← command .isServiceRunning
  if running then do
    stopProcess false
    perform .awaitDependencyRestart
    restartSingleService service (.dependencyRestart dependency)
  else pure ()

/-! ### Exits -/

/-- The statuses in which the exit of a process counts. -/
def wasActivelyRunning (state : Option ServiceState) : Bool :=
  state.any fun state => state.status.isRunning || state.status = .starting

def restartsOnExit (context : FetchedContext) (exitCode : Option Int) : Bool :=
  match context.resolvedConfig with
  | some resolved => resolved.restart.shouldRestartOnExit exitCode
  | none => (context.serviceConfig.restart.asStatic.getD default).shouldRestartOnExit exitCode

/-- The end of an automatic restart, with the config that was computed for it. -/
def respawn (context : FetchedContext) : Lifecycle Unit := do
  let outcome ← (spawnServiceWithTokenGuard context context.token).attempt
  match outcome with
  | .ok registered => do
    hook .postStart
    hook .postRestart
    spawnAuxiliaryTasks context registered
    let _ ← command (.setServiceStatus .running)
    return ()
  | .error _ => do
    let _ ← command (.setServiceStatus .failed)
    return ()

def restartAfterExit (context : FetchedContext) (exitCode : Option Int) : Lifecycle Unit := do
  command (.emitEvent (.restart (.failure exitCode)))
  let _ ← command .incrementRestartCount
  let _ ← command (.setServiceStatus .starting)
  let delayed ← perform .backoff
  check delayed
  command .suppressFileWatcher
  let created ← (tokenOf service context).attempt
  match created with
  | .error _ => do
    let _ ← command (.setServiceStatus .failed)
    return ()
  | .ok _ => do
    hook .preRestart
    hook .preStart
    let refreshed ← reResolveService
    respawn refreshed

def settleExit (active : Bool) (signal : Option Int) : Lifecycle Unit :=
  if active then do
    let _ ← command (.setServiceStatus (if signal.isSome then .killed else .exited))
    return ()
  else pure ()

/-- `handle_exit`, once the exit has been recorded. -/
def decideExit (context : FetchedContext) (exitCode signal : Option Int) : Lifecycle Unit := do
  hook .postExit
  revokeMatching context.token
  let state ← command .getServiceState
  if wasActivelyRunning state && restartsOnExit context exitCode then
    restartAfterExit service context exitCode
  else settleExit (wasActivelyRunning state) signal

def handleExit (exitCode signal : Option Int) : Lifecycle Unit := do
  let found ← command .getServiceContext
  match found with
  | none => pure ()
  | some context => do
    command (.emitEvent (.exit exitCode))
    let _ ← command .takeOutputTasks
    let _ ← command (.recordProcessExit exitCode signal)
    decideExit service context exitCode signal

end

end Lifecycle

/-! ### Neutral operations -/

/-- The commands that leave the process, the token guard and the startup alone. -/
def ServiceCommand.isNeutral : ServiceCommand → Bool
  | .getServiceConfig | .isServiceRunning | .isServiceInitialized | .getServiceState
  | .setServicePid _ _ | .beginHealthCheck _ | .storeHealthCheckTask _ _ | .markServiceInitialized
  | .incrementRestartCount | .resetRestartCount | .takeOutputTasks | .cancelTaskHandle _
  | .suppressFileWatcher | .resumeFileWatcher _ _ | .storeFileWatcher _ | .emitEvent _ => true
  | _ => false

/-- The operations that concern neither the process nor the token of a service. -/
def Operation.isNeutral : Operation → Bool
  | .command request => request.isNeutral
  | .runHook hook => hook != .preStart
  | .awaitShutdown _ | .clearProcessOutputs | .spawnTask | .awaitDependencyRestart | .sleep
  | .backoff => true
  | _ => false

namespace Lifecycle

theorem only_checkHealth (resolved : ServiceConfig) (attached : ServiceInstance) :
    (checkHealth resolved attached).Only fun operation => operation.isNeutral := by
  unfold checkHealth
  split
  · refine ⟨rfl, fun begun => ?_⟩
    cases begun with
    | none => exact trivial
    | some => exact ⟨rfl, fun _ => ⟨rfl, fun _ => trivial⟩⟩
  · exact trivial

theorem only_watchFiles (patterns : List String) (workingDir : String) :
    (watchFiles patterns workingDir).Only fun operation => operation.isNeutral := by
  refine ⟨rfl, fun resumed => ?_⟩
  cases resumed with
  | true => exact trivial
  | false => exact ⟨rfl, fun _ => ⟨rfl, fun _ => ⟨rfl, fun _ => trivial⟩⟩⟩

theorem only_spawnAuxiliaryTasks (context : FetchedContext) (attached : ServiceInstance) :
    (spawnAuxiliaryTasks context attached).Only fun operation => operation.isNeutral := by
  unfold spawnAuxiliaryTasks
  split
  · exact trivial
  · refine (only_checkHealth _ attached).bind fun _ => ?_
    split
    · exact ⟨rfl, fun _ => trivial⟩
    · exact only_watchFiles _ _

end Lifecycle

end Kepler
