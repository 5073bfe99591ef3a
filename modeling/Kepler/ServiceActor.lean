/-
This file models the part of the config actor that looks after the services of its config
(`config_actor/actor.rs`, `config_actor/command.rs`). The actor answers one command after another,
so each command is a function of its state.

The source keeps one map for each kind of data, keyed by the name of the service. Here the data of
one service is one record. A command about a service is first a change to the record of that
service, and then the signals that a new status gives. What leaves the actor while it answers a
command is an effect. Whether a state is written to disk has no influence on the actor and is left
out.
-/

import Kepler.ServiceState
import Kepler.Library.Runs

namespace Kepler

open Function

/-! ### The record of a service -/

abbrev TaskHandle := Nat

abbrev ProcessId := Nat

/-- `ProcessHandle`. The sender of its shutdown channel belongs to the monitor. -/
structure ProcessHandle where
  process : ProcessId
  stdoutTask : Option TaskHandle := none
  stderrTask : Option TaskHandle := none
  deriving DecidableEq, Repr

structure FileWatcherHandle where
  task : TaskHandle
  suppressed : Bool := false
  patterns : List String
  workingDir : String
  finished : Bool := false
  deriving DecidableEq, Repr

inductive TaskHandleType where
  | healthCheck
  | fileWatcher
  deriving DecidableEq, Repr

inductive RestartReason where
  | watch
  | failure (exitCode : Option Int)
  | manual
  | dependencyRestart (dependency : String)
  | unhealthy
  deriving DecidableEq, Repr

inductive HealthStatus where
  | success
  | failure (consecutiveFailures : Nat)
  deriving DecidableEq, Repr

inductive ServiceEvent where
  | start
  | restart (reason : RestartReason)
  | exit (code : Option Int)
  | stop
  | cleanup
  | healthcheck (status : HealthStatus)
  | healthy
  | unhealthy
  deriving DecidableEq, Repr

structure ServiceEventMessage where
  event : ServiceEvent
  timestamp : Nat
  healthCheckSession : Option HealthCheckSession := none
  deriving DecidableEq, Repr

def serviceEventChannelCapacity : Nat := 100

/-- The events of a service that its event handler has not received yet. -/
structure EventChannel where
  queue : List ServiceEventMessage := []
  closed : Bool := false
  deriving DecidableEq, Repr

/-- `try_send`: a message to a full or a closed channel is lost. -/
def EventChannel.trySend (message : ServiceEventMessage) (channel : EventChannel) : EventChannel :=
  if channel.closed || serviceEventChannelCapacity ≤ channel.queue.length then channel
  else { channel with queue := channel.queue ++ [message] }

/-- Everything that the actor holds under one name. -/
structure ServiceCell where
  state : Option ServiceState := none
  generation : UInt64 := 0
  claim : Option ServiceStartup := none
  resolved : Option ServiceConfig := none
  process : Option ProcessHandle := none
  tokenGuard : Option Token := none
  watcher : Option FileWatcherHandle := none
  healthCheck : Option TaskHandle := none
  currentInstance : Option ServiceInstance := none
  session : Option HealthCheckSession := none
  eventSender : Option EventChannel := none

namespace ServiceCell

def status (cell : ServiceCell) : Option ServiceStatus := cell.state.map ServiceState.status

def isRunning (cell : ServiceCell) : Bool := cell.status.any ServiceStatus.isRunning

/-- `service_startup`: the claim of a startup that is under way. -/
def serviceStartup (cell : ServiceCell) : Option ServiceStartup :=
  if cell.status.any ServiceStatus.isStartup then cell.claim else none

def isHealthCheckCurrent (cell : ServiceCell) (session : HealthCheckSession) : Bool :=
  cell.session = some session && cell.isRunning

def cancelHealthCheck (cell : ServiceCell) : ServiceCell :=
  { cell with session := none, healthCheck := none }

/-- Whether a status begins a new generation of startups. -/
def advances (status current : ServiceStatus) : Bool :=
  status = .stopping || ((status = .waiting || status = .restarting) && status != current)

/-- The changes of `set_service_status` to the record of a known service. -/
def enterStatus (now : Nat) (status : ServiceStatus) (state : ServiceState) (cell : ServiceCell) :
    ServiceCell :=
  { cell with
    state := some (state.enter now status)
    generation := if advances status state.status then cell.generation + 1 else cell.generation
    claim := if advances status state.status || !status.isStartup then none else cell.claim }

/-- The record after `set_service_status`. -/
def setStatus (now : Nat) (status : ServiceStatus) (cell : ServiceCell) : ServiceCell :=
  let kept := if status.isRunning then cell else cell.cancelHealthCheck
  match cell.state with
  | none => kept
  | some state => kept.enterStatus now status state

def claimStartup (cell : ServiceCell) : ServiceCell :=
  { cell with claim := some ⟨cell.generation⟩ }

def modifyState (change : ServiceState → ServiceState) (cell : ServiceCell) : ServiceCell :=
  { cell with state := cell.state.map change }

/-- A message to the event handler of the service, if it has a channel. -/
def send (message : ServiceEventMessage) (cell : ServiceCell) : ServiceCell :=
  { cell with eventSender := cell.eventSender.map (EventChannel.trySend message) }

end ServiceCell

/-! ### Commands -/

/-- `ServiceContext`: what a task fetches about a service, with the token of its guard. -/
structure FetchedContext where
  serviceConfig : RawServiceConfig
  resolvedConfig : Option ServiceConfig
  token : Option Token
  workingDir : String

structure HealthCheckUpdate where
  previousStatus : ServiceStatus
  newStatus : ServiceStatus
  failures : Nat
  deriving DecidableEq, Repr

inductive ConfigEvent where
  | statusChange (service : String) (status : ServiceStatus)
  | ready
  | quiescent
  | unhandledFailure (service : String) (exitCode : Option Int)
  deriving DecidableEq, Repr

/-- What leaves the actor. The watchers of a dependency receive its status changes. -/
inductive Effect where
  | notified (event : ConfigEvent)
  | aborted (task : TaskHandle)
  | droppedHandle (handle : ProcessHandle)
  | droppedGuard (token : Token)
  deriving DecidableEq, Repr

/-- The commands of `ConfigCommand` that name a service. -/
inductive ServiceCommand where
  | getServiceContext
  | getServiceConfig
  | isServiceRunning
  | isServiceInitialized
  | getServiceState
  | claimServiceStart
  | claimServiceRestart
  | claimInactiveServiceRestart (states : List RestartState)
  | getServiceStartup
  | transitionServiceStartup (startup : ServiceStartup) (status : ServiceStatus)
      (skipReason failReason : Option String)
  | setServiceStatusWithReason (status : ServiceStatus) (skipReason failReason : Option String)
  | setServiceStatus (status : ServiceStatus)
  | setSkipReason (reason : String)
  | setFailReason (reason : String)
  | setServicePid (pid : Option UInt32) (startedAt : Option Nat)
  | recordProcessExit (exitCode signal : Option Int)
  | registerServiceInstance (pid : Option UInt32) (startedAt : Nat)
  | getServiceInstance
  | beginHealthCheck (attached : ServiceInstance)
  | isHealthCheckCurrent (session : HealthCheckSession)
  | storeHealthCheckTask (session : HealthCheckSession) (handle : TaskHandle)
  | emitHealthCheckEvent (session : HealthCheckSession) (event : ServiceEvent)
  | updateHealthCheck (session : HealthCheckSession) (passed : Bool) (retries : Nat)
  | markServiceInitialized
  | incrementRestartCount
  | resetRestartCount
  | storeResolvedConfig (config : ServiceConfig) (workingDir : String)
  | storeProcessHandle (handle : ProcessHandle)
  | removeProcessHandle
  | takeOutputTasks
  | storeTokenGuard (token : Token)
  | storeStartupTokenGuard (startup : ServiceStartup) (token : Token)
  | takeTokenGuard
  | takeMatchingTokenGuard (token : Token)
  | getServiceToken
  | storeTaskHandle (handleType : TaskHandleType) (handle : TaskHandle)
  | cancelTaskHandle (handleType : TaskHandleType)
  | suppressFileWatcher
  | resumeFileWatcher (patterns : List String) (workingDir : String)
  | storeFileWatcher (handle : FileWatcherHandle)
  | createEventChannel
  | removeEventChannel
  | emitEvent (event : ServiceEvent)

/-- The type of the answer to a command. A guard that is handed over is its token. -/
@[reducible]
def ServiceCommand.Reply : ServiceCommand → Type
  | getServiceContext => Option FetchedContext
  | getServiceConfig => Option RawServiceConfig
  | isServiceRunning | isServiceInitialized => Bool
  | getServiceState => Option ServiceState
  | claimServiceStart | claimServiceRestart | claimInactiveServiceRestart _ => Option ServiceStartup
  | getServiceStartup => Option ServiceStartup
  | transitionServiceStartup _ _ _ _ => Bool
  | setServiceStatusWithReason _ _ _ | setServiceStatus _ => Except DaemonError Unit
  | setSkipReason _ | setFailReason _ => Unit
  | setServicePid _ _ | recordProcessExit _ _ => Except DaemonError Unit
  | registerServiceInstance _ _ => Except DaemonError ServiceInstance
  | getServiceInstance => Option ServiceInstance
  | beginHealthCheck _ => Option HealthCheckSession
  | isHealthCheckCurrent _ => Bool
  | storeHealthCheckTask _ _ | emitHealthCheckEvent _ _ => Unit
  | updateHealthCheck _ _ _ => Except DaemonError (Option HealthCheckUpdate)
  | markServiceInitialized | incrementRestartCount | resetRestartCount => Except DaemonError Unit
  | storeResolvedConfig _ _ => Unit
  | storeProcessHandle _ => Unit
  | removeProcessHandle => Option ProcessHandle
  | takeOutputTasks => Option TaskHandle × Option TaskHandle
  | storeTokenGuard _ => Unit
  | storeStartupTokenGuard _ _ | takeTokenGuard | takeMatchingTokenGuard _ => Option Token
  | getServiceToken => Option Token
  | storeTaskHandle _ _ | cancelTaskHandle _ => Unit
  | suppressFileWatcher => Unit
  | resumeFileWatcher _ _ => Bool
  | storeFileWatcher _ => Unit
  | createEventChannel | removeEventChannel | emitEvent _ => Unit

/-- The commands of `ConfigCommand` about the whole config that read or change the services. -/
inductive ConfigCommand where
  | getRunningServices
  | isConfigInitialized
  | allServicesStopped
  | checkQuiescence
  | checkReadiness
  | recheckReadyQuiescent
  | setStartupInProgress (inProgress : Bool)
  | markConfigInitialized
  | clearResolvedConfigs
  | getAllEventReceivers

@[reducible]
def ConfigCommand.Reply : ConfigCommand → Type
  | getRunningServices => List String
  | isConfigInitialized | allServicesStopped | checkQuiescence | checkReadiness => Bool
  | recheckReadyQuiescent | setStartupInProgress _ => Unit
  | markConfigInitialized | clearResolvedConfigs => Unit
  | getAllEventReceivers => List String

/-! ### Commands on the record of a service -/

/-- The signal after a new status: of `set_service_status`, or of a health result. -/
inductive StatusSignal where
  | entered (status : ServiceStatus)
  | health (status : ServiceStatus)
  deriving DecidableEq, Repr

/-- What a command reads besides the record of its service: the time, the name and the written
config, and the numbers for the next instance and session. -/
structure CommandContext where
  now : Nat
  name : String
  config : Option RawServiceConfig
  nextServiceInstance : UInt64
  nextHealthCheck : UInt64

/-- The outcome of a command for the record, with the signal to give and whether a number was used
up. -/
structure CellOutcome (Reply : Type) where
  cell : ServiceCell
  reply : Reply
  effects : List Effect := []
  signal : Option StatusSignal := none
  registered : Bool := false
  began : Bool := false

namespace ServiceCell

variable (cell : ServiceCell) (context : CommandContext)

def abortedCheck : List Effect := cell.healthCheck.toList.map Effect.aborted

def droppedHandle : List Effect := cell.process.toList.map Effect.droppedHandle

def droppedGuard : List Effect := cell.tokenGuard.toList.map Effect.droppedGuard

def setServiceStatus (status : ServiceStatus) : CellOutcome (Except DaemonError Unit) where
  cell := cell.setStatus context.now status
  reply := if cell.state.isSome then .ok () else .error (.serviceNotFound context.name)
  effects := if status.isRunning then [] else cell.abortedCheck
  signal := if cell.state.isSome then some (.entered status) else none

def claimWith (status : ServiceStatus) : CellOutcome (Option ServiceStartup) :=
  let changed := cell.setServiceStatus context status
  { cell := changed.cell.claimStartup
    reply := some ⟨changed.cell.generation⟩
    effects := changed.effects
    signal := changed.signal }

/-- `ClaimServiceStart`: only a reservation without an owner can be claimed. -/
def claimServiceStart : CellOutcome (Option ServiceStartup) :=
  match cell.status with
  | none => { cell, reply := none }
  | some .waiting =>
    if cell.claim.isNone then { cell := cell.claimStartup, reply := some ⟨cell.generation⟩ }
    else { cell, reply := none }
  | some status =>
    if status.isActive then { cell, reply := none } else cell.claimWith context .waiting

def claimServiceRestart : CellOutcome (Option ServiceStartup) :=
  if cell.state.any fun state => state.initialized && state.status.isRunning then
    cell.claimWith context .restarting
  else { cell, reply := none }

def claimInactiveServiceRestart (states : List RestartState) :
    CellOutcome (Option ServiceStartup) :=
  if cell.state.any fun state =>
      state.initialized && states.any fun selected => selected.includes state.status.asStr then
    cell.claimWith context .waiting
  else { cell, reply := none }

def transitionServiceStartup (startup : ServiceStartup) (status : ServiceStatus)
    (skipReason failReason : Option String) : CellOutcome Bool :=
  if cell.serviceStartup = some startup then
    let changed := (cell.modifyState fun state =>
      { state with skipReason, failReason }).setServiceStatus context status
    { cell := changed.cell
      reply := changed.reply.isOk
      effects := changed.effects
      signal := changed.signal }
  else { cell, reply := false }

def setServiceStatusWithReason (status : ServiceStatus) (skipReason failReason : Option String) :
    CellOutcome (Except DaemonError Unit) :=
  (cell.modifyState fun state =>
    { state with
      skipReason := skipReason.or state.skipReason
      failReason := failReason.or state.failReason }).setServiceStatus context status

def withState (change : ServiceState → ServiceState) : CellOutcome (Except DaemonError Unit) where
  cell := cell.modifyState change
  reply := if cell.state.isSome then .ok () else .error (.serviceNotFound context.name)

def recordProcessExit (exitCode signal : Option Int) : CellOutcome (Except DaemonError Unit) :=
  let released := { cell.cancelHealthCheck with process := none }
  { released.withState context fun state => { state with exitCode, signal, pid := none } with
    effects := cell.abortedCheck ++ cell.droppedHandle }

def registerServiceInstance (pid : Option UInt32) (startedAt : Nat) :
    CellOutcome (Except DaemonError ServiceInstance) :=
  if cell.state.isSome then
    let started := cell.modifyState fun state => { state with pid, startedAt := some startedAt }
    { cell := { started.cancelHealthCheck with
        currentInstance := some ⟨context.nextServiceInstance⟩ }
      reply := .ok ⟨context.nextServiceInstance⟩
      effects := cell.abortedCheck
      registered := true }
  else { cell, reply := .error (.serviceNotFound context.name) }

def beginHealthCheck (attached : ServiceInstance) : CellOutcome (Option HealthCheckSession) :=
  if cell.currentInstance = some attached && cell.isRunning then
    { cell := { cell.cancelHealthCheck with session := some ⟨context.nextHealthCheck⟩ }
      reply := some ⟨context.nextHealthCheck⟩
      effects := cell.abortedCheck
      began := true }
  else { cell, reply := none }

def replaceCheck (handle : TaskHandle) : CellOutcome Unit where
  cell := { cell with healthCheck := some handle }
  reply := ()
  effects := cell.abortedCheck

def storeHealthCheckTask (session : HealthCheckSession) (handle : TaskHandle) : CellOutcome Unit :=
  if cell.isHealthCheckCurrent session then cell.replaceCheck handle
  else { cell, reply := (), effects := [.aborted handle] }

def emitHealthCheckEvent (session : HealthCheckSession) (event : ServiceEvent) :
    CellOutcome Unit :=
  if cell.isHealthCheckCurrent session then
    { cell := cell.send ⟨event, context.now, some session⟩, reply := () }
  else { cell, reply := () }

def updateHealthCheck (session : HealthCheckSession) (passed : Bool) (retries : Nat) :
    CellOutcome (Except DaemonError (Option HealthCheckUpdate)) :=
  if cell.isHealthCheckCurrent session then
    match cell.state with
    | none => { cell, reply := .error (.serviceNotFound context.name) }
    | some state =>
      let updated := state.updateHealth passed retries
      { cell := cell.modifyState (ServiceState.updateHealth passed retries)
        reply := .ok (some ⟨state.status, updated.status, updated.healthCheckFailures⟩)
        signal := if updated.status = state.status then none else some (.health updated.status) }
  else { cell, reply := .ok none }

def replaceGuard (token : Token) : CellOutcome Unit where
  cell := { cell with tokenGuard := some token }
  reply := ()
  effects := cell.droppedGuard

/-- `StoreStartupTokenGuard`: a guard that comes too late is handed back. -/
def storeStartupTokenGuard (startup : ServiceStartup) (token : Token) :
    CellOutcome (Option Token) :=
  if cell.serviceStartup = some startup then
    { cell := (cell.replaceGuard token).cell, reply := none, effects := cell.droppedGuard }
  else { cell, reply := some token }

def takeMatchingTokenGuard (token : Token) : CellOutcome (Option Token) :=
  if cell.tokenGuard = some token then
    { cell := { cell with tokenGuard := none }, reply := some token }
  else { cell, reply := none }

/-- The file watcher that is aborted when another one takes its place. -/
def abortedWatcher : List Effect := cell.watcher.toList.map fun watcher => .aborted watcher.task

def storeTaskHandle (handleType : TaskHandleType) (handle : TaskHandle) : CellOutcome Unit :=
  match handleType with
  | .healthCheck => cell.replaceCheck handle
  | .fileWatcher => { cell, reply := (), effects := [.aborted handle] }

def cancelTaskHandle (handleType : TaskHandleType) : CellOutcome Unit :=
  match handleType with
  | .healthCheck => { cell := cell.cancelHealthCheck, reply := (), effects := cell.abortedCheck }
  | .fileWatcher =>
    { cell := { cell with watcher := none }, reply := (), effects := cell.abortedWatcher }

def resumeFileWatcher (patterns : List String) (workingDir : String) : CellOutcome Bool :=
  let resumable := cell.watcher.any fun watcher =>
    !watcher.finished && watcher.patterns = patterns && watcher.workingDir = workingDir
  { cell := if resumable then
      { cell with watcher := cell.watcher.map fun watcher => { watcher with suppressed := false } }
      else cell
    reply := resumable }

def buildServiceContext : Option FetchedContext := do
  let serviceConfig ← context.config
  let state ← cell.state
  return ⟨serviceConfig, cell.resolved, cell.tokenGuard, state.workingDir⟩

/-- `process_command`, for the commands about one service. -/
def handle : (command : ServiceCommand) → CellOutcome command.Reply
  | .getServiceContext => { cell, reply := cell.buildServiceContext context }
  | .getServiceConfig => { cell, reply := context.config }
  | .isServiceRunning => { cell, reply := cell.isRunning }
  | .isServiceInitialized => { cell, reply := cell.state.any ServiceState.initialized }
  | .getServiceState => { cell, reply := cell.state }
  | .claimServiceStart => cell.claimServiceStart context
  | .claimServiceRestart => cell.claimServiceRestart context
  | .claimInactiveServiceRestart states => cell.claimInactiveServiceRestart context states
  | .getServiceStartup => { cell, reply := cell.serviceStartup }
  | .transitionServiceStartup startup status skipReason failReason =>
    cell.transitionServiceStartup context startup status skipReason failReason
  | .setServiceStatusWithReason status skipReason failReason =>
    cell.setServiceStatusWithReason context status skipReason failReason
  | .setServiceStatus status => cell.setServiceStatus context status
  | .setSkipReason reason =>
    { cell := cell.modifyState fun state => { state with skipReason := some reason }, reply := () }
  | .setFailReason reason =>
    { cell := cell.modifyState fun state => { state with failReason := some reason }, reply := () }
  | .setServicePid pid startedAt =>
    cell.withState context fun state => { state with pid, startedAt }
  | .recordProcessExit exitCode signal => cell.recordProcessExit context exitCode signal
  | .registerServiceInstance pid startedAt => cell.registerServiceInstance context pid startedAt
  | .getServiceInstance => { cell, reply := cell.currentInstance }
  | .beginHealthCheck attached => cell.beginHealthCheck context attached
  | .isHealthCheckCurrent session => { cell, reply := cell.isHealthCheckCurrent session }
  | .storeHealthCheckTask session handle => cell.storeHealthCheckTask session handle
  | .emitHealthCheckEvent session event => cell.emitHealthCheckEvent context session event
  | .updateHealthCheck session passed retries =>
    cell.updateHealthCheck context session passed retries
  | .markServiceInitialized =>
    cell.withState context fun state => { state with initialized := true }
  | .incrementRestartCount => cell.withState context fun state =>
      { state with
        restartCount := state.restartCount + 1
        restartCountSinceHealthy := state.restartCountSinceHealthy + 1 }
  | .resetRestartCount => cell.withState context fun state =>
      { state with restartCount := 0, restartCountSinceHealthy := 0 }
  | .storeResolvedConfig config workingDir =>
    { cell := { cell.modifyState fun state => { state with workingDir } with
        resolved := some config }
      reply := () }
  | .storeProcessHandle handle =>
    { cell := { cell with process := some handle }, reply := (), effects := cell.droppedHandle }
  | .removeProcessHandle => { cell := { cell with process := none }, reply := cell.process }
  | .takeOutputTasks =>
    { cell := { cell with process := cell.process.map fun handle =>
        { handle with stdoutTask := none, stderrTask := none } }
      reply := (cell.process.bind ProcessHandle.stdoutTask,
        cell.process.bind ProcessHandle.stderrTask) }
  | .storeTokenGuard token => cell.replaceGuard token
  | .storeStartupTokenGuard startup token => cell.storeStartupTokenGuard startup token
  | .takeTokenGuard => { cell := { cell with tokenGuard := none }, reply := cell.tokenGuard }
  | .takeMatchingTokenGuard token => cell.takeMatchingTokenGuard token
  | .getServiceToken => { cell, reply := cell.tokenGuard }
  | .storeTaskHandle handleType handle => cell.storeTaskHandle handleType handle
  | .cancelTaskHandle handleType => cell.cancelTaskHandle handleType
  | .suppressFileWatcher =>
    { cell := { cell with watcher := cell.watcher.map fun watcher =>
        { watcher with suppressed := true } }
      reply := () }
  | .resumeFileWatcher patterns workingDir => cell.resumeFileWatcher patterns workingDir
  | .storeFileWatcher handle =>
    { cell := { cell with watcher := some handle }, reply := (), effects := cell.abortedWatcher }
  | .createEventChannel => { cell := { cell with eventSender := some {} }, reply := () }
  | .removeEventChannel => { cell := { cell with eventSender := none }, reply := () }
  | .emitEvent event => { cell := cell.send ⟨event, context.now, none⟩, reply := () }

end ServiceCell

/-! ### The actor -/

/-- `ConfigActor`, as far as it looks after services. The order of `get_start_order` is fixed with
the config, and absent when there is a cycle. -/
structure ServiceActor where
  config : KeplerConfig
  startOrder : Option (List String)
  cells : String → ServiceCell
  initialized : Bool := false
  nextServiceInstance : UInt64 := 0
  nextHealthCheck : UInt64 := 0
  lastReady : Bool := false
  lastQuiescent : Bool := false
  startupInProgress : Bool := false

structure Handled (Reply : Type) where
  actor : ServiceActor
  reply : Reply
  effects : List Effect := []

namespace ServiceActor

variable (actor : ServiceActor)

def put (name : String) (cell : ServiceCell) : ServiceActor :=
  { actor with cells := Function.update actor.cells name cell }

def status (name : String) : Option ServiceStatus := (actor.cells name).status

/-! ### Readiness and quiescence -/

/-- The restart section that counts: the computed one, or else the written one when it needs no
computation. -/
def restartConfig (name : String) : Option RestartConfig :=
  match (actor.cells name).resolved with
  | some resolved => some resolved.restart
  | none => (actor.config.services.lookup name).map fun raw => raw.restart.asStatic.getD default

/-- `restart_follows` on the actor. -/
def restartFollows (name : String) (status : ServiceStatus) (exitCode : Option Int) : Bool :=
  (actor.restartConfig name).any (Kepler.restartFollows status exitCode)

def isConditionSatisfiedSync (name : String) (dependency : DependencyConfig) : Bool :=
  (actor.cells name).state.any fun state =>
    isConditionMet state dependency (actor.restartConfig name)

def dependsOn (name : String) : DependsOn :=
  ((actor.config.services.lookup name).map RawServiceConfig.dependsOn).getD []

/-- The dependencies of a service whose condition does not hold. -/
def unsatisfied (name : String) : DependsOn :=
  (actor.dependsOn name).filter fun (dependency, entry) =>
    !actor.isConditionSatisfiedSync dependency entry

/-- Whether the status of a dependency may still change by itself. -/
def isSettling (name : String) : Bool :=
  (actor.cells name).state.any fun state => match state.status with
    | .starting | .waiting | .stopping => true
    | .exited | .killed | .failed => actor.restartFollows name state.status state.exitCode
    | _ => false

/-- `is_service_ready`. A waiting service is ready when it waits for dependencies at rest. -/
def isServiceReady (name : String) : Bool :=
  match actor.status name with
  | none => true
  | some .stopped => false
  | some .failed | some .exited | some .killed | some .skipped => true
  | some .running =>
    !((actor.config.services.lookup name).any fun raw => raw.healthcheck.isPresent)
  | some .healthy | some .unhealthy => true
  | some .waiting => (actor.unsatisfied name).all (fun (dependency, _) =>
      !actor.isSettling dependency) && !(actor.unsatisfied name).isEmpty
  | some .starting | some .restarting | some .stopping => false

def computeReady : Bool := actor.config.services.keys.all actor.isServiceReady

/-- `are_deps_satisfiable`, given the dependencies that are known to be settled. -/
def areDepsSatisfiable (settled : String → Bool) (name : String) : Bool :=
  (actor.config.services.lookup name).isSome &&
    (actor.unsatisfied name).all fun (dependency, entry) =>
      (actor.cells dependency).state.any fun state =>
        !(state.status = .skipped && !entry.allowSkipped) && !settled dependency

/-- `is_service_settled`, given the dependencies that are known to be settled. -/
def isServiceSettled (settled : String → Bool) (name : String) : Bool :=
  (actor.cells name).state.all fun state => match state.status with
    | .skipped => true
    | .waiting => (actor.unsatisfied name).all (fun (dependency, _) => settled dependency) &&
        !(actor.unsatisfied name).isEmpty
    | .stopped | .failed | .exited | .killed =>
      !actor.restartFollows name state.status state.exitCode ||
        !actor.areDepsSatisfiable settled name
    | _ => false

/-- The services of an order that are settled, each judged by those before it. -/
def settledIn (order : List String) : String → Bool :=
  order.foldl (fun settled name =>
    Function.update settled name (actor.isServiceSettled settled name)) fun _ => false

def computeQuiescence : Bool :=
  actor.startOrder.any fun order => order.all (actor.settledIn order)

def checkAndNotifyReady : ServiceActor × List Effect :=
  if !actor.startupInProgress && actor.computeReady && !actor.lastReady then
    ({ actor with lastReady := true }, [.notified .ready])
  else (actor, [])

def checkAndNotifyQuiescent : ServiceActor × List Effect :=
  if !actor.startupInProgress && actor.computeQuiescence && !actor.lastQuiescent then
    ({ actor with lastQuiescent := true }, [.notified .quiescent])
  else (actor, [])

def checkSignals : ServiceActor × List Effect :=
  let ready := actor.checkAndNotifyReady
  let quiescent := ready.1.checkAndNotifyQuiescent
  (quiescent.1, ready.2 ++ quiescent.2)

/-- Two actors that differ at most in what they have announced. -/
def SameButSignals (new : ServiceActor) : Prop :=
  ∃ lastReady lastQuiescent, new = { actor with lastReady, lastQuiescent }

namespace SameButSignals

variable {actor} {new : ServiceActor} (same : actor.SameButSignals new)

include same

theorem frame : new.cells = actor.cells ∧
    (new.config = actor.config ∧ new.startOrder = actor.startOrder) ∧
    new.startupInProgress = actor.startupInProgress := by
  obtain ⟨_, _, rfl⟩ := same
  exact ⟨rfl, ⟨rfl, rfl⟩, rfl⟩

theorem checkAndNotifyReady : actor.SameButSignals new.checkAndNotifyReady.1 := by
  obtain ⟨_, _, rfl⟩ := same
  unfold ServiceActor.checkAndNotifyReady
  split <;> exact ⟨_, _, rfl⟩

theorem checkAndNotifyQuiescent : actor.SameButSignals new.checkAndNotifyQuiescent.1 := by
  obtain ⟨_, _, rfl⟩ := same
  unfold ServiceActor.checkAndNotifyQuiescent
  split <;> exact ⟨_, _, rfl⟩

end SameButSignals

theorem sameButSignals_checkSignals : actor.SameButSignals actor.checkSignals.1 :=
  SameButSignals.checkAndNotifyQuiescent (SameButSignals.checkAndNotifyReady ⟨_, _, rfl⟩)

/-! ### Status changes -/

def failureEvents (name : String) (status : ServiceStatus) : List Effect :=
  let exitCode := (actor.cells name).state.bind ServiceState.exitCode
  let isFailure := match status with
    | .failed | .killed => true
    | .exited => exitCode.any fun code => code != 0
    | _ => false
  if isFailure && !actor.restartFollows name status exitCode &&
      !isFailureHandled actor.config.services name then
    [.notified (.unhandledFailure name exitCode)]
  else []

/-- The second half of `set_service_status`: the signals of a status change. -/
def signalStatus (name : String) (status : ServiceStatus) : ServiceActor × List Effect :=
  let reset : ServiceActor := { actor with
    lastReady := actor.lastReady && !(status = .starting || status = .restarting)
    lastQuiescent := actor.lastQuiescent && !(status.isActive && status != .waiting) }
  let ready := reset.checkAndNotifyReady
  let quiescent := if !status.isActive || status = .waiting then ready.1.checkAndNotifyQuiescent
    else (ready.1, [])
  (quiescent.1, .notified (.statusChange name status) :: actor.failureEvents name status ++
    ready.2 ++ quiescent.2)

def signalled (name : String) : Option StatusSignal → ServiceActor × List Effect
  | none => (actor, [])
  | some (.entered status) => actor.signalStatus name status
  | some (.health status) =>
    let ready := actor.checkAndNotifyReady
    (ready.1, .notified (.statusChange name status) :: ready.2)

theorem sameButSignals_signalled (name : String) (signal : Option StatusSignal) :
    actor.SameButSignals (actor.signalled name signal).1 := by
  rcases signal with _ | status | status
  · exact ⟨_, _, rfl⟩
  · have ready (lastReady lastQuiescent : Bool) : actor.SameButSignals
        { actor with lastReady, lastQuiescent }.checkAndNotifyReady.1 :=
      SameButSignals.checkAndNotifyReady ⟨_, _, rfl⟩
    unfold signalled signalStatus
    dsimp only
    split
    · exact (ready ..).checkAndNotifyQuiescent
    · exact ready ..
  · exact SameButSignals.checkAndNotifyReady ⟨_, _, rfl⟩

/-! ### Commands about one service -/

def context (now : Nat) (name : String) : CommandContext where
  now
  name
  config := actor.config.services.lookup name
  nextServiceInstance := actor.nextServiceInstance + 1
  nextHealthCheck := actor.nextHealthCheck + 1

/-- `process_command`, for the commands about one service. -/
def handle (now : Nat) (name : String) (command : ServiceCommand) : Handled command.Reply :=
  let context := actor.context now name
  let outcome := (actor.cells name).handle context command
  let changed : ServiceActor := { actor.put name outcome.cell with
    nextServiceInstance := if outcome.registered then context.nextServiceInstance
      else actor.nextServiceInstance
    nextHealthCheck := if outcome.began then context.nextHealthCheck else actor.nextHealthCheck }
  let signalled := changed.signalled name outcome.signal
  ⟨signalled.1, outcome.reply, outcome.effects ++ signalled.2⟩

theorem cells_handle (now : Nat) (name : String) (command : ServiceCommand) :
    (actor.handle now name command).actor.cells = Function.update actor.cells name
      ((actor.cells name).handle (actor.context now name) command).cell :=
  (sameButSignals_signalled _ name _).frame.1

theorem cells_handle_self (now : Nat) (name : String) (command : ServiceCommand) :
    (actor.handle now name command).actor.cells name =
      ((actor.cells name).handle (actor.context now name) command).cell := by
  rw [cells_handle, update_self]

theorem cells_handle_of_ne (now : Nat) {name other : String} (differ : other ≠ name)
    (command : ServiceCommand) :
    (actor.handle now name command).actor.cells other = actor.cells other := by
  rw [cells_handle, update_of_ne differ]

theorem handle_of_unchanged {now : Nat} {name : String} {command : ServiceCommand}
    {reply : command.Reply} {effects : List Effect}
    (outcome : (actor.cells name).handle (actor.context now name) command =
      { cell := actor.cells name, reply, effects }) :
    actor.handle now name command = ⟨actor, reply, effects⟩ := by
  have same : actor.put name (actor.cells name) = actor := by
    rw [put, update_eq_self]
  simp only [handle, outcome, signalled, same, List.append_nil, Bool.false_eq_true, if_false]

/-! ### Commands about the config -/

def mapCells (change : ServiceCell → ServiceCell) : ServiceActor :=
  { actor with cells := fun name => change (actor.cells name) }

/-- `process_command`, for the commands about the config. `MergeKeplerEnv`, `MergeKeplerFlags` and
`ClearSnapshot` clear the computed configs. -/
def handleConfig : (command : ConfigCommand) → Handled command.Reply
  | .getRunningServices =>
    ⟨actor, actor.config.services.keys.filter fun name => (actor.cells name).isRunning, []⟩
  | .isConfigInitialized => ⟨actor, actor.initialized, []⟩
  | .allServicesStopped =>
    ⟨actor, actor.config.services.keys.all fun name => !(actor.cells name).isRunning, []⟩
  | .checkQuiescence => ⟨actor, !actor.startupInProgress && actor.computeQuiescence, []⟩
  | .checkReadiness => ⟨actor, !actor.startupInProgress && actor.computeReady, []⟩
  | .recheckReadyQuiescent =>
    let checked := { actor with lastReady := false, lastQuiescent := false }.checkSignals
    ⟨checked.1, (), checked.2⟩
  | .setStartupInProgress inProgress =>
    let fenced : ServiceActor := { actor with startupInProgress := inProgress }
    if inProgress then ⟨fenced, (), []⟩
    else ⟨fenced.checkSignals.1, (), fenced.checkSignals.2⟩
  | .markConfigInitialized => ⟨{ actor with initialized := true }, (), []⟩
  | .clearResolvedConfigs => ⟨actor.mapCells fun cell => { cell with resolved := none }, (), []⟩
  | .getAllEventReceivers =>
    ⟨actor.mapCells fun cell => if cell.state.isSome && cell.eventSender.isNone then
        { cell with eventSender := some {} } else cell,
      actor.config.services.keys.filter fun name => (actor.cells name).eventSender.isNone, []⟩

/-- A command about the config changes at most the event channel of a service, unless it clears the
computed configs. -/
theorem cells_handleConfig_of_ne {command : ConfigCommand}
    (kept : command ≠ .clearResolvedConfigs) (name : String) :
    ∃ eventSender, (actor.handleConfig command).actor.cells name =
      { actor.cells name with eventSender } := by
  cases command with
  | clearResolvedConfigs => exact absurd rfl kept
  | recheckReadyQuiescent =>
    exact ⟨_, congrFun (sameButSignals_checkSignals _).frame.1 name⟩
  | setStartupInProgress inProgress =>
    cases inProgress with
    | true => exact ⟨_, rfl⟩
    | false => exact ⟨_, congrFun (sameButSignals_checkSignals _).frame.1 name⟩
  | getAllEventReceivers =>
    rw [handleConfig, mapCells]
    dsimp only
    split
    · exact ⟨_, rfl⟩
    · exact ⟨_, rfl⟩
  | _ => exact ⟨_, rfl⟩

theorem cells_handleConfig (command : ConfigCommand) (name : String) :
    ∃ resolved eventSender, (actor.handleConfig command).actor.cells name =
      { actor.cells name with resolved, eventSender } := by
  by_cases clears : command = .clearResolvedConfigs
  · subst clears
    exact ⟨_, _, rfl⟩
  · obtain ⟨eventSender, same⟩ := cells_handleConfig_of_ne actor clears name
    exact ⟨_, eventSender, same⟩

/-! ### Runs -/

@[simp]
theorem cells_put_self (name : String) (cell : ServiceCell) :
    (actor.put name cell).cells name = cell :=
  update_self ..

theorem cells_put_of_ne {name other : String} (differ : other ≠ name) (cell : ServiceCell) :
    (actor.put name cell).cells other = actor.cells other :=
  update_of_ne differ ..

/-- A command arrives, or the other end of something acts: an event handler receives a message or
goes away, or a file watcher ends. -/
inductive Input where
  | service (now : Nat) (name : String) (command : ServiceCommand)
  | config (command : ConfigCommand)
  | received (name : String)
  | receiverDropped (name : String)
  | watcherFinished (name : String)

def step : Input → ServiceActor
  | .service now name command => (actor.handle now name command).actor
  | .config command => (actor.handleConfig command).actor
  | .received name => actor.put name { actor.cells name with
      eventSender := (actor.cells name).eventSender.map fun channel =>
        { channel with queue := channel.queue.tail } }
  | .receiverDropped name => actor.put name { actor.cells name with
      eventSender := (actor.cells name).eventSender.map fun _ => { closed := true } }
  | .watcherFinished name => actor.put name { actor.cells name with
      watcher := (actor.cells name).watcher.map fun watcher => { watcher with finished := true } }

/-- Only a command about a service changes more of it than its computed config, its file watcher and
its event channel. -/
theorem cells_step_of_elsewhere {name : String} {input : Input}
    (elsewhere : ∀ now command, input ≠ .service now name command) :
    ∃ resolved watcher eventSender, (actor.step input).cells name =
      { actor.cells name with resolved, watcher, eventSender } := by
  cases input with
  | service now target command =>
    have other : name ≠ target := fun same => elsewhere now command (by rw [same])
    exact ⟨_, _, _, actor.cells_handle_of_ne now other command⟩
  | config command =>
    obtain ⟨resolved, eventSender, same⟩ := actor.cells_handleConfig command name
    exact ⟨resolved, _, eventSender, same⟩
  | received target | receiverDropped target | watcherFinished target =>
    by_cases same : name = target
    · subst same
      exact ⟨_, _, _, cells_put_self ..⟩
    · exact ⟨_, _, _, cells_put_of_ne _ same _⟩

def effects : Input → List Effect
  | .service now name command => (actor.handle now name command).effects
  | .config command => (actor.handleConfig command).effects
  | .received _ | .receiverDropped _ | .watcherFinished _ => []

/-- The actor that `create` makes: the services of the config with their restored states. -/
def create (config : KeplerConfig) (startOrder : Option (List String)) (initialized : Bool)
    (restored : String → ServiceState) : ServiceActor :=
  { config, startOrder, initialized
    cells := fun name =>
      { state := if name ∈ config.services then some (restored name) else none } }

/-! ### The config of an actor stays -/

variable {actor}

theorem fixed_step (input : Input) : (actor.step input).config = actor.config ∧
    (actor.step input).startOrder = actor.startOrder := by
  cases input with
  | service now name => exact (sameButSignals_signalled _ name _).frame.2.1
  | config command =>
    cases command with
    | recheckReadyQuiescent => exact (sameButSignals_checkSignals _).frame.2.1
    | setStartupInProgress inProgress =>
      cases inProgress with
      | true => exact ⟨rfl, rfl⟩
      | false => exact (sameButSignals_checkSignals _).frame.2.1
    | _ => exact ⟨rfl, rfl⟩
  | _ => exact ⟨rfl, rfl⟩

theorem config_step (input : Input) : (actor.step input).config = actor.config :=
  (fixed_step input).1

def webConfig : KeplerConfig := { services := AList.singleton "web" {} }

end ServiceActor

end Kepler
