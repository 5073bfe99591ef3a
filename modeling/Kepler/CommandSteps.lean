/-
This file says once what a command can do to the record of its service. What the later files show
about single fields of the record follows from these cases.
-/

import Kepler.ServiceActor

namespace Kepler

open Option

/-- The commands that can bring a service into another status. Health results only move a running
service among the running statuses. -/
def ServiceCommand.entersStatus : ServiceCommand → Bool
  | .claimServiceStart | .claimServiceRestart | .claimInactiveServiceRestart _
  | .transitionServiceStartup _ _ _ _ | .setServiceStatusWithReason _ _ _
  | .setServiceStatus _ => true
  | _ => false

/-- What the conditions of dependencies read of a service. -/
def ServiceState.observed (state : ServiceState) : ServiceStatus × Option Int × Bool :=
  (state.status, state.exitCode, state.wasHealthy)

namespace ServiceCell

theorem isSome_state_of_isRunning {cell : ServiceCell} (running : cell.isRunning) :
    cell.state.isSome := by
  obtain ⟨status, found, _⟩ := (any_eq_true ..).mp running
  obtain ⟨state, known, _⟩ := map_eq_some_iff.mp found
  rw [known, isSome_some]

/-! ### The cases -/

inductive CommandStep (cell : ServiceCell) (context : CommandContext) :
    ServiceCommand → ServiceCell → List Effect → Option StatusSignal → Prop where
  | held {command : ServiceCommand} {effects : List Effect} (process : Option ProcessHandle)
      (tokenGuard : Option Token) (watcher : Option FileWatcherHandle)
      (healthCheck : Option TaskHandle) (eventSender : Option EventChannel)
      (silent : ∀ event, Effect.notified event ∉ effects) :
      CommandStep cell context command
        { cell with process, tokenGuard, watcher, healthCheck, eventSender } effects none
  | noted {command : ServiceCommand} (change : ServiceState → ServiceState)
      (preserves : ∀ state, (change state).observed = state.observed) :
      CommandStep cell context command (cell.modifyState change) [] none
  | resolved (config : ServiceConfig) (workingDir : String) :
      CommandStep cell context (.storeResolvedConfig config workingDir)
        { cell.modifyState fun state => { state with workingDir } with resolved := some config }
        [] none
  | recorded (exitCode signal : Option Int) :
      CommandStep cell context (.recordProcessExit exitCode signal)
        (modifyState (fun state => { state with exitCode, signal, pid := none })
          { cell.cancelHealthCheck with process := none })
        (cell.abortedCheck ++ cell.droppedHandle) none
  | registered (pid : Option UInt32) (startedAt : Nat) :
      CommandStep cell context (.registerServiceInstance pid startedAt)
        { (cell.modifyState fun state =>
            { state with pid, startedAt := some startedAt }).cancelHealthCheck with
          currentInstance := some ⟨context.nextServiceInstance⟩ }
        cell.abortedCheck none
  | began (attached : ServiceInstance) :
      CommandStep cell context (.beginHealthCheck attached)
        { cell.cancelHealthCheck with session := some ⟨context.nextHealthCheck⟩ }
        cell.abortedCheck none
  | cancelled {command : ServiceCommand} :
      CommandStep cell context command cell.cancelHealthCheck cell.abortedCheck none
  | reserved (free : cell.claim = none) :
      CommandStep cell context .claimServiceStart cell.claimStartup [] none
  | claimed {command : ServiceCommand} (enters : command.entersStatus)
      (known : cell.state.isSome) (status : ServiceStatus) :
      CommandStep cell context command (cell.claimWith context status).cell
        (cell.claimWith context status).effects (cell.claimWith context status).signal
  | entered {command : ServiceCommand} (enters : command.entersStatus)
      (change : ServiceState → ServiceState)
      (preserves : ∀ state, (change state).observed = state.observed) (status : ServiceStatus) :
      CommandStep cell context command
        ((cell.modifyState change).setServiceStatus context status).cell
        ((cell.modifyState change).setServiceStatus context status).effects
        ((cell.modifyState change).setServiceStatus context status).signal
  | health (session : HealthCheckSession) (passed : Bool) (retries : Nat) {state : ServiceState}
      (found : cell.state = some state) (running : state.status.isRunning) :
      CommandStep cell context (.updateHealthCheck session passed retries)
        (cell.modifyState (ServiceState.updateHealth passed retries)) []
        (if (state.updateHealth passed retries).status = state.status then none
          else some (.health (state.updateHealth passed retries).status))

variable {cell : ServiceCell} {context : CommandContext}

/-! ### Which effects a command has -/

theorem notified_notMem_map {Value : Type} {make : Value → Effect} {event : ConfigEvent}
    (other : ∀ value, make value ≠ .notified event) (values : List Value) :
    Effect.notified event ∉ values.map make := by
  rintro member
  obtain ⟨value, _, same⟩ := List.mem_map.mp member
  exact other value same

variable (event : ConfigEvent)

theorem notified_notMem_abortedCheck : Effect.notified event ∉ cell.abortedCheck :=
  notified_notMem_map (by exact fun _ => nofun) _

theorem notified_notMem_abortedWatcher : Effect.notified event ∉ cell.abortedWatcher :=
  notified_notMem_map (by exact fun _ => nofun) _

theorem notified_notMem_droppedHandle : Effect.notified event ∉ cell.droppedHandle :=
  notified_notMem_map (by exact fun _ => nofun) _

theorem notified_notMem_droppedGuard : Effect.notified event ∉ cell.droppedGuard :=
  notified_notMem_map (by exact fun _ => nofun) _

theorem notified_notMem_aborted (task : TaskHandle) (event : ConfigEvent) :
    Effect.notified event ∉ [Effect.aborted task] :=
  fun member => nomatch List.mem_singleton.mp member

theorem notified_notMem_setServiceStatus (context : CommandContext) (event : ConfigEvent)
    (status : ServiceStatus) :
    Effect.notified event ∉ (cell.setServiceStatus context status).effects := by
  unfold setServiceStatus
  dsimp only
  split
  · exact List.not_mem_nil
  · exact notified_notMem_abortedCheck event

/-! ### Every command is one of the cases -/

namespace CommandStep

variable {command : ServiceCommand}

theorem refl : CommandStep cell context command cell [] none :=
  .held _ _ _ _ _ fun _ => List.not_mem_nil

theorem claimServiceStart :
    CommandStep cell context .claimServiceStart (cell.claimServiceStart context).cell
      (cell.claimServiceStart context).effects (cell.claimServiceStart context).signal := by
  unfold ServiceCell.claimServiceStart
  split
  · exact .refl
  · split
    · rename_i free
      exact .reserved (isNone_iff_eq_none.mp free)
    · exact .refl
  · rename_i status _ found
    split
    · exact .refl
    · obtain ⟨state, known, _⟩ := map_eq_some_iff.mp found
      exact .claimed rfl (isSome_iff_exists.mpr ⟨state, known⟩) .waiting

theorem updateHealthCheck (session : HealthCheckSession) (passed : Bool) (retries : Nat) :
    CommandStep cell context (.updateHealthCheck session passed retries)
      (cell.updateHealthCheck context session passed retries).cell
      (cell.updateHealthCheck context session passed retries).effects
      (cell.updateHealthCheck context session passed retries).signal := by
  unfold ServiceCell.updateHealthCheck
  split
  · rename_i current
    split
    · exact .refl
    · rename_i state found
      have running := (Bool.and_eq_true_iff.mp current).2
      rw [isRunning, ServiceCell.status, found] at running
      exact .health session passed retries found running
  · exact .refl

theorem notified_notMem {new : ServiceCell} {effects : List Effect} {signal : Option StatusSignal}
    (step : CommandStep cell context command new effects signal) (event : ConfigEvent) :
    Effect.notified event ∉ effects := by
  cases step with
  | held process tokenGuard watcher healthCheck eventSender silent => exact silent event
  | recorded =>
    exact List.not_mem_append (notified_notMem_abortedCheck event)
      (notified_notMem_droppedHandle event)
  | registered | began | cancelled => exact notified_notMem_abortedCheck event
  | claimed _ _ status | entered _ _ _ status =>
    exact notified_notMem_setServiceStatus context event status
  | noted | resolved | reserved | health => exact List.not_mem_nil

end CommandStep

theorem commandStep_handle (command : ServiceCommand) :
    CommandStep cell context command (cell.handle context command).cell
      (cell.handle context command).effects (cell.handle context command).signal := by
  cases command with
  | claimServiceStart => exact .claimServiceStart
  | claimServiceRestart =>
    dsimp only [handle]
    unfold claimServiceRestart
    split
    · rename_i eligible
      obtain ⟨state, found, _⟩ := (any_eq_true ..).mp eligible
      exact .claimed rfl (isSome_iff_exists.mpr ⟨state, found⟩) .restarting
    · exact .refl
  | claimInactiveServiceRestart states =>
    dsimp only [handle]
    unfold claimInactiveServiceRestart
    split
    · rename_i eligible
      obtain ⟨state, found, _⟩ := (any_eq_true ..).mp eligible
      exact .claimed rfl (isSome_iff_exists.mpr ⟨state, found⟩) .waiting
    · exact .refl
  | transitionServiceStartup startup status =>
    dsimp only [handle]
    unfold transitionServiceStartup
    split
    · exact .entered rfl _ (by exact fun _ => rfl) status
    · exact .refl
  | setServiceStatusWithReason status =>
    exact .entered rfl _ (by exact fun _ => rfl) status
  | setServiceStatus status =>
    have same : cell.modifyState id = cell := by
      rw [modifyState, map_id]
      rfl
    have step := @CommandStep.entered cell context (.setServiceStatus status) rfl id
      (fun _ => rfl) status
    rw [same] at step
    exact step
  | setSkipReason | setFailReason | setServicePid | markServiceInitialized
  | incrementRestartCount | resetRestartCount =>
    exact .noted _ (fun _ => rfl)
  | storeResolvedConfig => exact .resolved ..
  | recordProcessExit => exact .recorded ..
  | registerServiceInstance =>
    dsimp only [handle]
    unfold registerServiceInstance
    split
    · exact .registered ..
    · exact .refl
  | beginHealthCheck attached =>
    dsimp only [handle]
    unfold beginHealthCheck
    split
    · exact .began attached
    · exact .refl
  | storeHealthCheckTask session task =>
    dsimp only [handle]
    unfold storeHealthCheckTask
    split
    · exact .held _ _ _ _ _ notified_notMem_abortedCheck
    · exact .held _ _ _ _ _ (notified_notMem_aborted task)
  | emitHealthCheckEvent =>
    dsimp only [handle]
    unfold emitHealthCheckEvent
    split
    · exact .held _ _ _ _ _ fun _ => List.not_mem_nil
    · exact .refl
  | updateHealthCheck => exact .updateHealthCheck ..
  | storeProcessHandle handle => exact .held _ _ _ _ _ notified_notMem_droppedHandle
  | storeTokenGuard token => exact .held _ _ _ _ _ notified_notMem_droppedGuard
  | storeStartupTokenGuard =>
    dsimp only [handle]
    unfold storeStartupTokenGuard
    split
    · exact .held _ _ _ _ _ notified_notMem_droppedGuard
    · exact .refl
  | takeMatchingTokenGuard token =>
    dsimp only [handle]
    unfold takeMatchingTokenGuard
    split
    · exact .held _ _ _ _ _ fun _ => List.not_mem_nil
    · exact .refl
  | storeTaskHandle handleType task =>
    cases handleType with
    | healthCheck => exact .held _ _ _ _ _ notified_notMem_abortedCheck
    | fileWatcher => exact .held _ _ _ _ _ (notified_notMem_aborted task)
  | cancelTaskHandle handleType =>
    cases handleType with
    | healthCheck => exact .cancelled
    | fileWatcher => exact .held _ _ _ _ _ notified_notMem_abortedWatcher
  | resumeFileWatcher =>
    dsimp only [handle, resumeFileWatcher]
    split
    · exact .held _ _ _ _ _ fun _ => List.not_mem_nil
    · exact .refl
  | storeFileWatcher handle => exact .held _ _ _ _ _ notified_notMem_abortedWatcher
  | removeProcessHandle | takeOutputTasks | takeTokenGuard | suppressFileWatcher
  | createEventChannel | removeEventChannel | emitEvent =>
    exact .held _ _ _ _ _ fun _ => List.not_mem_nil
  | getServiceContext | getServiceConfig | isServiceRunning | isServiceInitialized
  | getServiceState | getServiceStartup | getServiceInstance | isHealthCheckCurrent
  | getServiceToken => exact .refl

/-- The effects of a command on a record tell nobody about it: that follows from the signal. -/
theorem notified_notMem_handle (command : ServiceCommand) :
    Effect.notified event ∉ (cell.handle context command).effects :=
  (commandStep_handle command).notified_notMem event

end ServiceCell

end Kepler
