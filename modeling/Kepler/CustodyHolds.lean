/-
This file says what the custody of a task means in the system, and that it stays true. When a
task performs an operation that its custody allows, the answer is one that the custody expects,
and the custody after it means what is then the case.
-/

import Kepler.Custody
import Kepler.StartupClaims
import Kepler.HealthSessions

namespace Kepler

open ServiceCell List ServiceRuntime Option ServiceSystem Place ServiceActor

/-! ### Processes that are told to shut down -/

/-- An effect that sets neither a process handle nor a token guard free. -/
def Effect.isNotice : Effect → Bool
  | .notified _ | .aborted _ => true
  | .droppedHandle _ | .droppedGuard _ => false

namespace ServiceRuntime

variable {runtime : ServiceRuntime} {told process : ProcessId}

/-- The exit of the process has been noticed or will be, and it will be handled. -/
def Reports (runtime : ServiceRuntime) (process : ProcessId) : Prop :=
  runtime.Live process ∨ (∃ exitCode signal,
    runtime.processes[process]? = some (.exited exitCode signal)) ∨
    ∃ exit ∈ runtime.exits, exit.process = process

theorem absorbAll_append (first second : List Effect) :
    runtime.absorbAll (first ++ second) = (runtime.absorbAll first).absorbAll second :=
  foldl_append

theorem absorbAll_of_notices {effects : List Effect}
    (notices : ∀ effect ∈ effects, effect.isNotice) : runtime.absorbAll effects = runtime := by
  induction effects with
  | nil => rfl
  | cons effect rest inductionHypothesis =>
    obtain ⟨notice, others⟩ := forall_mem_cons.mp notices
    have unchanged : runtime.absorb effect = runtime := by
      cases effect <;> first | rfl | cases notice
    change (runtime.absorb effect).absorbAll rest = runtime
    rw [unchanged, inductionHypothesis others]

theorem getElem?_tell_self (process : ProcessId) :
    (runtime.tell process).processes[process]? = runtime.processes[process]?.map fun phase =>
      if phase = .running then .told else phase := by
  simp only [tell, getElem?_modify, if_true]
  rfl

theorem getElem?_tell_of_ne (different : process ≠ told) :
    (runtime.tell told).processes[process]? = runtime.processes[process]? := by
  simp only [tell, getElem?_modify, if_neg (Ne.symm different)]
  exact map_id'

theorem live_tell (live : (runtime.tell told).Live process) :
    runtime.Live process ∧ process ≠ told := by
  unfold Live at live ⊢
  by_cases same : process = told
  · rw [same, getElem?_tell_self] at live
    obtain ⟨phase, _, told⟩ := map_eq_some_iff.mp live
    split at told
    · cases told
    · contradiction
  · rw [getElem?_tell_of_ne same] at live
    exact ⟨live, same⟩

end ServiceRuntime

/-! ### What custody means -/

def ServiceCell.holder (cell : ServiceCell) : Option ProcessId :=
  cell.process.map ProcessHandle.process

/-- All there is about one service: its record, its processes, and its registered tokens. -/
structure ServiceView where
  cell : ServiceCell
  runtime : ServiceRuntime
  Registered : Token → Prop

namespace ServiceView

variable (view : ServiceView)

def Attached : Prop := ∀ process, view.runtime.Live process → view.cell.holder = some process

/-- The exit of the process whose handle the actor holds will be handled. -/
def Reports : Prop := ∃ process, view.cell.holder = some process ∧ view.runtime.Reports process

end ServiceView

def Place.Holds (view : ServiceView) : Place → Prop
  | rest => view.Attached ∧ (view.cell.isRunning = false → view.cell.holder = none)
  | held claim => view.Attached ∧
      ∀ startup, claim = some startup → view.cell.serviceStartup = some startup
  | removed process | spawned process => view.cell.holder = none ∧
      ∀ other, view.runtime.Live other → other = process
  | cleared => view.cell.holder = none ∧ ∀ process, ¬ view.runtime.Live process

namespace Custody

/-- Every registered token is accounted for, given those that other tasks look after. -/
structure Tokens (answered : Token → Prop) (view : ServiceView) (phase : Custody) : Prop where
  accounted : ∀ token, view.Registered token →
    view.cell.tokenGuard = some token ∨ phase.owned = some token ∨ token ∈ view.runtime.dropped
  covered : phase.covered → ∀ token, view.cell.tokenGuard = some token →
    view.Reports ∨ answered token ∨ phase.pending.Answers token
  spawned : ∀ process, phase.place = .spawned process → ∀ token,
    view.runtime.Reports process ∨ answered token
  resolved : phase.resolved → view.cell.resolved.isSome

structure Holds (strict : Bool) (answered : Token → Prop) (view : ServiceView) (phase : Custody) :
    Prop where
  place : phase.place.Holds view
  known : ∀ stored, phase.known = some stored → view.cell.tokenGuard = stored
  tokens : strict → phase.Tokens answered view

end Custody

/-! ### What commands leave alone -/

/-- The outcome of a command that sets no process and no token free and keeps the handle and the
guard. -/
structure KeepsHoldings (cell : ServiceCell) {Reply : Type} (outcome : CellOutcome Reply) :
    Prop where
  holder : outcome.cell.holder = cell.holder
  tokenGuard : outcome.cell.tokenGuard = cell.tokenGuard
  resolved : outcome.cell.resolved = cell.resolved
  notices : ∀ effect ∈ outcome.effects, effect.isNotice

/-- The outcome of a command that also leaves a startup and the running of a service alone. -/
structure KeepsStanding (cell : ServiceCell) {Reply : Type} (outcome : CellOutcome Reply) : Prop
    extends KeepsHoldings cell outcome where
  isRunning : outcome.cell.isRunning = cell.isRunning
  serviceStartup : outcome.cell.serviceStartup = cell.serviceStartup

namespace ServiceCell

variable {cell : ServiceCell} {context : CommandContext}

theorem notice_abortedCheck : ∀ effect ∈ cell.abortedCheck, effect.isNotice := by
  intro effect member
  obtain ⟨task, _, rfl⟩ := mem_map.mp member
  rfl

theorem notice_abortedWatcher : ∀ effect ∈ cell.abortedWatcher, effect.isNotice := by
  intro effect member
  obtain ⟨watcher, _, rfl⟩ := mem_map.mp member
  rfl

theorem serviceStartup_of_status {new : ServiceCell} (status : new.status = cell.status)
    (claim : new.claim = cell.claim) : new.serviceStartup = cell.serviceStartup := by
  rw [serviceStartup, serviceStartup, status, claim]

theorem keepsStanding_of_fields {Reply : Type} {outcome : CellOutcome Reply}
    (process : outcome.cell.process = cell.process)
    (tokenGuard : outcome.cell.tokenGuard = cell.tokenGuard)
    (resolved : outcome.cell.resolved = cell.resolved)
    (status : outcome.cell.status = cell.status) (claim : outcome.cell.claim = cell.claim)
    (notices : ∀ effect ∈ outcome.effects, effect.isNotice) : KeepsStanding cell outcome where
  holder := by rw [holder, holder, process]
  tokenGuard
  resolved
  notices
  isRunning := by rw [isRunning, isRunning, status]
  serviceStartup := serviceStartup_of_status status claim

theorem keepsStanding_withState {change : ServiceState → ServiceState}
    (preserves : ∀ state, (change state).status = state.status) :
    KeepsStanding cell (cell.withState context change) :=
  keepsStanding_of_fields rfl rfl rfl (status_modifyState preserves) rfl nofun

theorem keepsStanding_of_neutral {command : ServiceCommand} (neutral : command.isNeutral) :
    KeepsStanding cell (cell.handle context command) := by
  cases command with
  | setServicePid | markServiceInitialized | incrementRestartCount | resetRestartCount =>
    refine keepsStanding_withState ?_
    exact fun _ => rfl
  | beginHealthCheck =>
    change KeepsStanding cell (cell.beginHealthCheck ..)
    unfold beginHealthCheck
    split
    · exact keepsStanding_of_fields rfl rfl rfl rfl rfl notice_abortedCheck
    · exact keepsStanding_of_fields rfl rfl rfl rfl rfl nofun
  | storeHealthCheckTask =>
    change KeepsStanding cell (cell.storeHealthCheckTask ..)
    unfold storeHealthCheckTask
    split
    · exact keepsStanding_of_fields rfl rfl rfl rfl rfl notice_abortedCheck
    · refine keepsStanding_of_fields rfl rfl rfl rfl rfl fun effect member => ?_
      rw [mem_singleton.mp member]
      rfl
  | takeOutputTasks =>
    refine ⟨⟨?_, rfl, rfl, nofun⟩, rfl, rfl⟩
    change (cell.process.map _).map _ = cell.process.map _
    rw [Option.map_map]
    rfl
  | cancelTaskHandle handleType =>
    cases handleType with
    | healthCheck => exact keepsStanding_of_fields rfl rfl rfl rfl rfl notice_abortedCheck
    | fileWatcher => exact keepsStanding_of_fields rfl rfl rfl rfl rfl notice_abortedWatcher
  | resumeFileWatcher =>
    change KeepsStanding cell (cell.resumeFileWatcher ..)
    unfold resumeFileWatcher
    dsimp only
    split <;> exact keepsStanding_of_fields rfl rfl rfl rfl rfl nofun
  | storeFileWatcher handle =>
    exact keepsStanding_of_fields rfl rfl rfl rfl rfl notice_abortedWatcher
  | getServiceConfig | isServiceRunning | isServiceInitialized | getServiceState
  | suppressFileWatcher | emitEvent =>
    exact keepsStanding_of_fields rfl rfl rfl rfl rfl nofun
  | _ => cases neutral

theorem setStatus_holdings (now : Nat) (status : ServiceStatus) :
    (cell.setStatus now status).process = cell.process ∧
      (cell.setStatus now status).tokenGuard = cell.tokenGuard ∧
      (cell.setStatus now status).resolved = cell.resolved := by
  unfold setStatus
  split
  · split <;> exact ⟨rfl, rfl, rfl⟩
  · split <;> exact ⟨rfl, rfl, rfl⟩

theorem notice_setServiceStatus (status : ServiceStatus) :
    ∀ effect ∈ (cell.setServiceStatus context status).effects, effect.isNotice := by
  unfold setServiceStatus
  dsimp only
  split
  · exact nofun
  · exact notice_abortedCheck

theorem keepsHoldings_setServiceStatus (status : ServiceStatus) :
    KeepsHoldings cell (cell.setServiceStatus context status) := by
  obtain ⟨process, tokenGuard, resolved⟩ := @setStatus_holdings cell context.now status
  exact ⟨congrArg (Option.map _) process, tokenGuard, resolved, notice_setServiceStatus status⟩

theorem keepsHoldings_claimWith (status : ServiceStatus) :
    KeepsHoldings cell (cell.claimWith context status) :=
  { keepsHoldings_setServiceStatus status with }

theorem keepsHoldings_of_entersStatus {command : ServiceCommand} (enters : command.entersStatus) :
    KeepsHoldings cell (cell.handle context command) := by
  have unchanged {Reply : Type} (reply : Reply) : KeepsHoldings cell { cell, reply } :=
    ⟨rfl, rfl, rfl, nofun⟩
  cases command with
  | claimServiceStart =>
    change KeepsHoldings cell (cell.claimServiceStart context)
    unfold claimServiceStart
    split
    · exact unchanged none
    · split
      · exact ⟨rfl, rfl, rfl, nofun⟩
      · exact unchanged none
    · split
      · exact unchanged none
      · exact keepsHoldings_claimWith .waiting
  | claimServiceRestart =>
    change KeepsHoldings cell (cell.claimServiceRestart context)
    unfold claimServiceRestart
    split
    · exact keepsHoldings_claimWith .restarting
    · exact unchanged none
  | claimInactiveServiceRestart states =>
    change KeepsHoldings cell (cell.claimInactiveServiceRestart ..)
    unfold claimInactiveServiceRestart
    split
    · exact keepsHoldings_claimWith .waiting
    · exact unchanged none
  | transitionServiceStartup startup status skipReason failReason =>
    change KeepsHoldings cell
      (cell.transitionServiceStartup ..)
    unfold transitionServiceStartup
    split
    · exact { @keepsHoldings_setServiceStatus
        (cell.modifyState fun state => { state with skipReason, failReason }) context status with }
    · exact unchanged false
  | setServiceStatusWithReason status skipReason failReason =>
    exact { @keepsHoldings_setServiceStatus
      (cell.modifyState fun state => { state with
        skipReason := skipReason.or state.skipReason
        failReason := failReason.or state.failReason }) context status with }
  | setServiceStatus status => exact keepsHoldings_setServiceStatus status
  | _ => cases enters

theorem registerServiceInstance_of_known (known : cell.state.isSome) (pid : Option UInt32)
    (startedAt : Nat) :
    (cell.registerServiceInstance context pid startedAt).reply.isOk ∧
      KeepsStanding cell (cell.registerServiceInstance context pid startedAt) := by
  rw [registerServiceInstance, if_pos known]
  refine ⟨rfl, keepsStanding_of_fields rfl rfl rfl ?_ rfl notice_abortedCheck⟩
  refine status_modifyState ?_
  exact fun _ => rfl

theorem buildServiceContext_of_known (known : cell.state.isSome)
    (configured : context.config.isSome) : ∃ raw workingDir, cell.buildServiceContext context =
      some ⟨raw, cell.resolved, cell.tokenGuard, workingDir⟩ := by
  obtain ⟨state, known⟩ := isSome_iff_exists.mp known
  obtain ⟨raw, configured⟩ := isSome_iff_exists.mp configured
  refine ⟨raw, state.workingDir, ?_⟩
  rw [buildServiceContext, known, configured]
  rfl

variable {startup : ServiceStartup}

theorem not_isRunning_of_claimServiceStart
    (claimed : (cell.claimServiceStart context).reply = some startup) : cell.isRunning = false := by
  unfold claimServiceStart at claimed
  unfold isRunning
  split at claimed
  · cases claimed
  · next waiting =>
    rw [waiting]
    rfl
  · next status _ found =>
    rw [found]
    split at claimed
    · cases claimed
    · next inactive =>
      revert inactive
      cases status <;> decide

theorem not_isRunning_of_claimInactive {states : List RestartState}
    (claimed : (cell.claimInactiveServiceRestart context states).reply = some startup) :
    cell.isRunning = false := by
  unfold claimInactiveServiceRestart at claimed
  split at claimed
  · next eligible =>
    obtain ⟨state, known, selected⟩ := (Option.any_eq_true ..).mp eligible
    obtain ⟨choice, _, included⟩ := any_eq_true.mp (Bool.and_eq_true_iff.mp selected).2
    have inactive := inactive_of_includes included
    rw [isRunning, status, known]
    revert inactive
    rw [map_some, any_some]
    cases state.status <;> decide
  · cases claimed

theorem not_isRunning_of_serviceStartup (current : cell.serviceStartup = some startup) :
    cell.isRunning = false := by
  unfold serviceStartup at current
  split at current
  · next underWay =>
    cases running : cell.isRunning with
    | false => rfl
    | true => exact absurd underWay (not_isStartup_of_isRunning running)
  · cases current

theorem Claiming.unchanged {outcome : CellOutcome (Option ServiceStartup)}
    (claiming : Claiming cell outcome) (unclaimed : outcome.reply = none) : outcome.cell = cell := by
  obtain ⟨same, _⟩ | ⟨startup, claimed, _⟩ := claiming
  · exact same
  · rw [unclaimed] at claimed
    cases claimed

theorem serviceStartup_of_claimServiceRestart
    (claimed : (cell.claimServiceRestart context).reply = some startup) :
    (cell.claimServiceRestart context).cell.serviceStartup = some startup := by
  obtain ⟨stored, _, status, _⟩ := claiming_claimServiceRestart.handsOut claimed
  unfold serviceStartup
  obtain waiting | restarting := status
  · rw [waiting]
    exact stored
  · rw [restarting]
    exact stored

theorem isRunning_of_setStatus (known : cell.state.isSome) (now : Nat) (status : ServiceStatus) :
    (cell.setStatus now status).isRunning = status.isRunning := by
  obtain ⟨state, known⟩ := isSome_iff_exists.mp known
  rw [isRunning, (setStatus_of_state known ..).1]
  rfl

end ServiceCell

/-! ### Custody after a command -/

namespace ServiceView

variable (view : ServiceView) (context : CommandContext)

def commanded (command : ServiceCommand) : ServiceView where
  cell := (view.cell.handle context command).cell
  runtime := view.runtime.absorbAll (view.cell.handle context command).effects
  Registered := view.Registered

theorem commanded_of_outcome {view : ServiceView} {context : CommandContext}
    {command : ServiceCommand} {outcome : CellOutcome command.Reply}
    (same : view.cell.handle context command = outcome) :
    view.commanded context command =
      { view with cell := outcome.cell, runtime := view.runtime.absorbAll outcome.effects } := by
  rw [commanded, same]

/-- What happens elsewhere: the handle, the guard and the processes stay. -/
structure Keeps (view new : ServiceView) : Prop where
  holder : new.cell.holder = view.cell.holder
  tokenGuard : new.cell.tokenGuard = view.cell.tokenGuard
  runtime : new.runtime = view.runtime
  Registered : ∀ token, new.Registered token → view.Registered token

variable {view context} {new : ServiceView}

theorem keeps_commanded {command : ServiceCommand}
    (keeps : KeepsHoldings view.cell (view.cell.handle context command)) :
    view.Keeps (view.commanded context command) :=
  ⟨keeps.holder, keeps.tokenGuard, absorbAll_of_notices keeps.notices,
    fun _ registered => registered⟩

theorem Keeps.attached (keeps : view.Keeps new) (attached : view.Attached) : new.Attached := by
  intro process live
  rw [keeps.holder]
  exact attached process (keeps.runtime ▸ live)

theorem Keeps.reports (keeps : view.Keeps new) (reports : view.Reports) : new.Reports := by
  rw [Reports, keeps.holder, keeps.runtime]
  exact reports

end ServiceView

namespace Custody

variable {strict : Bool} {answered : Token → Prop} {view new : ServiceView} {phase : Custody}

theorem Tokens.moved (tokens : phase.Tokens answered view) (keeps : view.Keeps new)
    (resolved : view.cell.resolved.isSome → new.cell.resolved.isSome) {place : Place}
    (spawned : ∀ process, place = .spawned process → phase.place = .spawned process) :
    Tokens answered new { phase with place } where
  accounted token registered := by
    rw [keeps.tokenGuard, keeps.runtime]
    exact tokens.accounted token (keeps.Registered token registered)
  covered covered token stored := by
    rw [keeps.tokenGuard] at stored
    exact (tokens.covered covered token stored).imp keeps.reports id
  spawned process placed := by
    rw [keeps.runtime]
    exact tokens.spawned process (spawned process placed)
  resolved done := resolved (tokens.resolved done)

end Custody

namespace Place

variable {view new : ServiceView} {place : Place}

theorem Holds.fewer (holds : place.Holds view)
    (live : ∀ process, new.runtime.Live process → view.runtime.Live process)
    (holder : new.cell.holder = view.cell.holder)
    (isRunning : new.cell.isRunning = view.cell.isRunning)
    (serviceStartup : new.cell.serviceStartup = view.cell.serviceStartup) : place.Holds new := by
  have attached : view.Attached → new.Attached := fun attached process now =>
    holder.trans (attached process (live process now))
  cases place with
  | rest =>
    exact ⟨attached holds.1, fun idle => holder.trans (holds.2 (isRunning.symm.trans idle))⟩
  | held claim =>
    exact ⟨attached holds.1, fun startup known => serviceStartup.trans (holds.2 startup known)⟩
  | removed | spawned =>
    exact ⟨holder.trans holds.1, fun other now => holds.2 other (live other now)⟩
  | cleared =>
    exact ⟨holder.trans holds.1, fun process now => holds.2 process (live process now)⟩

theorem Holds.keeps (holds : place.Holds view) (keeps : view.Keeps new)
    (isRunning : new.cell.isRunning = view.cell.isRunning)
    (serviceStartup : new.cell.serviceStartup = view.cell.serviceStartup) : place.Holds new :=
  holds.fewer (fun _ live => keeps.runtime ▸ live) keeps.holder isRunning serviceStartup

theorem cleared_of_rest (holds : rest.Holds view) (idle : view.cell.isRunning = false) :
    cleared.Holds view := by
  refine ⟨holds.2 idle, fun process live => ?_⟩
  have attached := holds.1 process live
  rw [holds.2 idle] at attached
  cases attached

theorem Holds.cleared_keeps (holds : cleared.Holds view) (keeps : view.Keeps new) :
    cleared.Holds new :=
  ⟨keeps.holder.trans holds.1, fun process live => holds.2 process (keeps.runtime ▸ live)⟩

theorem rest_of_cleared (holds : cleared.Holds view) : rest.Holds view :=
  ⟨fun process live => absurd live (holds.2 process), fun _ => holds.1⟩

theorem attached_of_steady (holds : place.Holds view) (steady : place.isSteady) :
    view.Attached := by
  cases place with
  | rest | held => exact holds.1
  | cleared => exact (rest_of_cleared holds).1
  | removed | spawned => cases steady

end Place

variable {token : Token}

namespace Custody

variable {strict : Bool} {answered : Token → Prop} {view new : ServiceView} {phase : Custody}
  {context : CommandContext} {rest : List Effect}

section

variable (holds : phase.Holds strict answered view)

include holds

theorem Holds.placedAt {place : Place} (placed : phase.place = place) : place.Holds view :=
  placed ▸ holds.place

theorem Holds.moved (keeps : view.Keeps new)
    (resolved : view.cell.resolved.isSome → new.cell.resolved.isSome) {place : Place}
    (placed : place.Holds new)
    (spawned : ∀ process, place = .spawned process → phase.place = .spawned process) :
    Holds strict answered new { phase with place } where
  place := placed
  known stored known := keeps.tokenGuard.trans (holds.known stored known)
  tokens isStrict := (holds.tokens isStrict).moved keeps resolved spawned

theorem Holds.neutral {command : ServiceCommand}
    (standing : KeepsStanding view.cell (view.cell.handle context command)) :
    phase.Holds strict answered (view.commanded context command) :=
  have keeps := ServiceView.keeps_commanded standing.toKeepsHoldings
  holds.moved keeps (fun resolved => standing.resolved ▸ resolved)
    (holds.place.keeps keeps standing.isRunning standing.serviceStartup) fun _ placed => placed

theorem Holds.getServiceContext (known : view.cell.state.isSome)
    (configured : context.config.isSome) :
    phase.ExpectsReply strict .getServiceContext (view.cell.buildServiceContext context) ∧
      (phase.afterReply .getServiceContext (view.cell.buildServiceContext context)).Holds strict
        answered view := by
  obtain ⟨raw, workingDir, built⟩ := buildServiceContext_of_known known configured
  rw [built]
  refine ⟨⟨_, rfl, fun stored => holds.known stored, fun isStrict =>
    (holds.tokens isStrict).resolved⟩, holds.place, fun stored same => some.inj same,
    fun isStrict => ?_⟩
  · have tokens := holds.tokens isStrict
    refine ⟨tokens.accounted, fun covered token stored => ?_, tokens.spawned, tokens.resolved⟩
    obtain ⟨wasCovered, notAny⟩ := Bool.and_eq_true_iff.mp covered
    have unchanged : (if phase.pending = .any then Pending.nothing else phase.pending) =
      phase.pending := if_neg (bne_iff_ne.mp notAny)
    change _ ∨ _ ∨ (if phase.pending = .any then Pending.nothing else phase.pending).Answers token
    rw [unchanged]
    exact tokens.covered wasCovered token stored

theorem Holds.unclaimed {command : ServiceCommand}
    (same : (view.cell.handle context command).cell = view.cell)
    (keeps : KeepsHoldings view.cell (view.cell.handle context command)) :
    phase.Holds strict answered (view.commanded context command) :=
  holds.neutral ⟨keeps, by rw [same], by rw [same]⟩

theorem Holds.claimed (rest : phase.place = .rest) {command : ServiceCommand}
    (enters : command.entersStatus) {reply : Option ServiceStartup}
    (unclaimed : reply = none → (view.cell.handle context command).cell = view.cell)
    (idle : ∀ startup, reply = some startup → view.cell.isRunning = false) :
    Holds strict answered (view.commanded context command)
      (if reply.isSome then { phase with place := .cleared } else phase) := by
  have keeps : KeepsHoldings view.cell (view.cell.handle context command) :=
    keepsHoldings_of_entersStatus enters
  cases reply with
  | none => exact holds.unclaimed (unclaimed rfl) keeps
  | some startup =>
    have placed := holds.placedAt rest
    have kept := ServiceView.keeps_commanded keeps
    exact holds.moved kept (fun resolved => keeps.resolved ▸ resolved)
      ((cleared_of_rest placed (idle startup rfl)).cleared_keeps kept) nofun

theorem Holds.claimServiceRestart (rest : phase.place = .rest) :
    (phase.afterReply .claimServiceRestart (view.cell.claimServiceRestart context).reply).Holds
      strict answered (view.commanded context .claimServiceRestart) := by
  have keeps : KeepsHoldings view.cell (view.cell.handle context .claimServiceRestart) :=
    keepsHoldings_of_entersStatus rfl
  have kept := ServiceView.keeps_commanded keeps
  have placed := holds.placedAt rest
  obtain ⟨same, unclaimed⟩ | ⟨startup, claimed, _⟩ :=
    @ServiceCell.claiming_claimServiceRestart view.cell context
  · rw [unclaimed]
    exact holds.unclaimed same keeps
  · rw [claimed]
    refine holds.moved kept (fun resolved => keeps.resolved ▸ resolved)
      ⟨kept.attached placed.1, fun known same => ?_⟩ nofun
    rw [← same]
    exact serviceStartup_of_claimServiceRestart claimed

theorem Holds.getServiceStartup :
    phase.ExpectsReply strict .getServiceStartup view.cell.serviceStartup ∧
      (phase.afterReply .getServiceStartup view.cell.serviceStartup).Holds strict answered
        view := by
  refine ⟨fun startup held => ?_, ?_⟩
  · have placed := holds.placedAt held
    exact placed.2 startup rfl
  · change Holds _ _ _ (if _ then _ else _)
    split
    · next found =>
      obtain ⟨some, rest⟩ := Bool.and_eq_true_iff.mp found
      obtain ⟨startup, current⟩ := isSome_iff_exists.mp some
      exact holds.moved ⟨rfl, rfl, rfl, fun _ registered => registered⟩ id (cleared_of_rest
        (holds.placedAt (of_decide_eq_true rest)) (not_isRunning_of_serviceStartup current)) nofun
    · exact holds

theorem Holds.transition (settled : phase.place = .rest ∨ phase.place = .cleared)
    (startup : ServiceStartup) (status : ServiceStatus) (skipReason failReason : Option String) :
    (phase.afterReply (.transitionServiceStartup startup status skipReason failReason)
      (view.cell.transitionServiceStartup context startup status skipReason failReason).reply).Holds
      strict answered
      (view.commanded context (.transitionServiceStartup startup status skipReason failReason)) := by
  have keeps : KeepsHoldings view.cell (view.cell.handle context
      (.transitionServiceStartup startup status skipReason failReason)) :=
    keepsHoldings_of_entersStatus rfl
  have kept := ServiceView.keeps_commanded keeps
  by_cases current : view.cell.serviceStartup = some startup
  · have cleared : cleared.Holds view := by
      obtain rest | cleared := settled
      · exact cleared_of_rest (holds.placedAt rest) (not_isRunning_of_serviceStartup current)
      · exact holds.placedAt cleared
    have clearedAfter := cleared.cleared_keeps kept
    have resolved := fun before : view.cell.resolved.isSome => keeps.resolved ▸ before
    change Holds _ _ _ (if _ then _ else _)
    split
    · exact holds.moved kept resolved clearedAfter nofun
    · refine holds.moved kept resolved ?_ fun _ placed => placed
      obtain rest | cleared := settled
      · rw [rest]
        exact rest_of_cleared clearedAfter
      · rw [cleared]
        exact clearedAfter
  · have unmoved : view.cell.transitionServiceStartup context startup status skipReason failReason =
        { cell := view.cell, reply := false } := if_neg current
    rw [unmoved]
    exact holds.unclaimed (congrArg CellOutcome.cell unmoved) keeps

theorem Holds.entered (steady : phase.place.isSteady) {command : ServiceCommand}
    {status : ServiceStatus} (enters : command.entersStatus)
    (isRunning : (view.cell.handle context command).cell.isRunning = status.isRunning) :
    (phase.entered status).Holds strict answered (view.commanded context command) := by
  have keeps : KeepsHoldings view.cell (view.cell.handle context command) :=
    keepsHoldings_of_entersStatus enters
  have kept := ServiceView.keeps_commanded keeps
  have attached := kept.attached (attached_of_steady holds.place steady)
  refine holds.moved kept (fun resolved => keeps.resolved ▸ resolved) ?_ ?_
  · split
    · next running =>
      refine ⟨attached, fun idle => ?_⟩
      rw [show (view.commanded ..).cell.isRunning = _ from isRunning, running] at idle
      cases idle
    · split
      · next cleared =>
        have placed := holds.placedAt cleared
        exact placed.cleared_keeps kept
      · exact ⟨attached, nofun⟩
  · intro process placed
    split at placed
    · cases placed
    · split at placed <;> cases placed

end

theorem live_of_droppedHandle {process : ProcessId} (notices : ∀ effect ∈ rest, effect.isNotice)
    (live : (view.runtime.absorbAll (rest ++ view.cell.droppedHandle)).Live process) :
    view.runtime.Live process ∧ view.cell.holder ≠ some process := by
  rw [absorbAll_append, absorbAll_of_notices notices] at live
  unfold droppedHandle at live
  unfold holder
  cases found : view.cell.process with
  | none =>
    rw [found] at live
    exact ⟨live, nofun⟩
  | some handle =>
    rw [found] at live
    obtain ⟨wasLive, different⟩ := live_tell live
    exact ⟨wasLive, fun same => different (some.inj same).symm⟩

theorem dropped_of_droppedHandle (notices : ∀ effect ∈ rest, effect.isNotice) :
    (view.runtime.absorbAll (rest ++ view.cell.droppedHandle)).dropped = view.runtime.dropped := by
  rw [absorbAll_append, absorbAll_of_notices notices]
  unfold droppedHandle
  cases view.cell.process <;> rfl

section

variable (holds : phase.Holds strict answered view)

include holds

theorem Holds.recordProcessExit (steady : phase.place.isSteady) (exitCode signal : Option Int) :
    Holds strict answered (view.commanded context (.recordProcessExit exitCode signal))
      { phase with place := .cleared, covered := false } where
  place := by
    refine ⟨rfl, fun process live => ?_⟩
    obtain ⟨wasLive, unheld⟩ := live_of_droppedHandle notice_abortedCheck live
    exact unheld (attached_of_steady holds.place steady process wasLive)
  known stored known := holds.known stored known
  tokens isStrict := by
    have tokens := holds.tokens isStrict
    refine ⟨fun token registered => ?_, nofun, nofun, tokens.resolved⟩
    have same : (view.commanded context (.recordProcessExit exitCode signal)).runtime.dropped =
      view.runtime.dropped := dropped_of_droppedHandle notice_abortedCheck
    rw [same]
    exact tokens.accounted token registered

theorem Holds.removeProcessHandle (steady : phase.place.isSteady) :
    phase.ExpectsReply strict .removeProcessHandle view.cell.process ∧
      (phase.afterReply .removeProcessHandle view.cell.process).Holds strict answered
        (view.commanded context .removeProcessHandle) := by
  have attached := attached_of_steady holds.place steady
  cases found : view.cell.process with
  | none =>
    have holder : view.cell.holder = none := by rw [holder, found]; rfl
    have keeps : view.Keeps (view.commanded context .removeProcessHandle) :=
      ⟨holder.symm, rfl, rfl, fun _ registered => registered⟩
    have cleared : cleared.Holds (view.commanded context .removeProcessHandle) := by
      refine ⟨rfl, fun process live => ?_⟩
      have held := attached process live
      rw [holder] at held
      cases held
    exact ⟨fun _ => rfl, holds.moved keeps id cleared nofun⟩
  | some handle =>
    have holder : view.cell.holder = some handle.process := by
      rw [holder, found]
      rfl
    refine ⟨fun cleared => ?_, ⟨rfl, fun process live => ?_⟩, fun stored known =>
      holds.known stored known, fun isStrict => ?_⟩
    · have placed := holds.placedAt cleared
      have absent := holder.symm.trans placed.1
      cases absent
    · exact some.inj ((attached process live).symm.trans holder)
    · have tokens := holds.tokens isStrict
      exact ⟨tokens.accounted, nofun, nofun, tokens.resolved⟩

theorem Holds.registerServiceInstance (known : view.cell.state.isSome) (pid : Option UInt32)
    (startedAt : Nat) :
    (view.cell.registerServiceInstance context pid startedAt).reply.isOk ∧
      phase.Holds strict answered
        (view.commanded context (.registerServiceInstance pid startedAt)) := by
  have registered := @registerServiceInstance_of_known _ context known pid startedAt
  exact ⟨registered.1, holds.neutral registered.2⟩

theorem Holds.storeProcessHandle {handle : ProcessHandle}
    (spawned : phase.place = .spawned handle.process) :
    Holds strict answered (view.commanded context (.storeProcessHandle handle))
      { phase with place := .held none, covered := true, pending := .nothing } := by
  have placed := holds.placedAt spawned
  have runtime : (view.commanded context (.storeProcessHandle handle)).runtime = view.runtime := by
    change view.runtime.absorbAll view.cell.droppedHandle = view.runtime
    rw [droppedHandle, map_eq_none_iff.mp placed.1]
    rfl
  refine ⟨⟨fun process live => ?_, nofun⟩, fun stored known => holds.known stored known,
    fun isStrict => ?_⟩
  · rw [runtime] at live
    rw [placed.2 process live]
    rfl
  · have tokens := holds.tokens isStrict
    refine ⟨fun token registered => ?_, fun _ token _ => ?_, nofun, tokens.resolved⟩
    · rw [runtime]
      exact tokens.accounted token registered
    · refine (tokens.spawned handle.process spawned token).imp (fun reports => ?_) .inl
      refine ⟨handle.process, rfl, ?_⟩
      rw [runtime]
      exact reports

theorem Holds.storeResolvedConfig (config : ServiceConfig) (workingDir : String) :
    Holds strict answered (view.commanded context (.storeResolvedConfig config workingDir))
      { phase with resolved := phase.role = .exit } := by
  have status : (view.cell.modifyState fun state => { state with workingDir }).status =
      view.cell.status := by
    refine status_modifyState ?_
    exact fun _ => rfl
  have keeps : view.Keeps (view.commanded context (.storeResolvedConfig config workingDir)) :=
    ⟨rfl, rfl, rfl, fun _ registered => registered⟩
  have moved := holds.moved keeps (fun _ => rfl) (holds.place.keeps keeps
    (congrArg (Option.any ServiceStatus.isRunning) status)
    (serviceStartup_of_status status rfl)) fun _ placed => placed
  exact ⟨moved.place, moved.known, fun isStrict => ⟨(moved.tokens isStrict).accounted,
    (moved.tokens isStrict).covered, (moved.tokens isStrict).spawned, fun _ => rfl⟩⟩

end

theorem absorbAll_droppedGuard : view.runtime.absorbAll view.cell.droppedGuard =
    { view.runtime with dropped := view.runtime.dropped ++ view.cell.tokenGuard.toList } := by
  unfold droppedGuard
  cases view.cell.tokenGuard with
  | none =>
    rw [toList_none, append_nil]
    rfl
  | some token => rfl

section

variable (holds : phase.Holds strict answered view)

include holds

theorem Holds.replaceGuard (owned : phase.owned = some token) :
    (phase.stored token).Holds strict answered
      { view with
        cell := { view.cell with tokenGuard := some token }
        runtime := view.runtime.absorbAll view.cell.droppedGuard } := by
  rw [absorbAll_droppedGuard]
  refine ⟨holds.place.fewer (fun _ live => live) rfl rfl rfl, fun stored same =>
    some.inj same, fun isStrict => ?_⟩
  have tokens := holds.tokens isStrict
  refine ⟨fun other registered => ?_, nofun, fun process placed other => ?_, tokens.resolved⟩
  · obtain guarded | ownToken | dropped := tokens.accounted other registered
    · refine .inr (.inr (mem_append_right _ ?_))
      rw [guarded]
      exact mem_singleton_self other
    · rw [owned] at ownToken
      exact .inl ownToken
    · exact .inr (.inr (mem_append_left _ dropped))
  · exact tokens.spawned process placed other

theorem Holds.storeStartupTokenGuard (owned : phase.owned = some token) (startup : ServiceStartup) :
    phase.ExpectsReply strict (.storeStartupTokenGuard startup token)
        (view.cell.handle context (.storeStartupTokenGuard startup token)).reply ∧
      (phase.afterReply (.storeStartupTokenGuard startup token)
        (view.cell.handle context (.storeStartupTokenGuard startup token)).reply).Holds strict answered
        (view.commanded context (.storeStartupTokenGuard startup token)) := by
  by_cases current : view.cell.serviceStartup = some startup
  · have stored : view.cell.handle context (.storeStartupTokenGuard ..) =
        { cell := { view.cell with tokenGuard := some token }, reply := none,
          effects := view.cell.droppedGuard } := if_pos current
    have viewed : view.commanded context (.storeStartupTokenGuard ..) =
        { view with
          cell := { view.cell with tokenGuard := some token }
          runtime := view.runtime.absorbAll view.cell.droppedGuard } :=
      ServiceView.commanded_of_outcome stored
    rw [stored, viewed]
    exact ⟨.inl rfl, holds.replaceGuard owned⟩
  · have rejected : view.cell.handle context (.storeStartupTokenGuard ..) =
        { cell := view.cell, reply := some token } := if_neg current
    have viewed : view.commanded context (.storeStartupTokenGuard ..) = view :=
      ServiceView.commanded_of_outcome rejected
    rw [rejected, viewed]
    exact ⟨.inr rfl, holds⟩

theorem Holds.takeMatchingTokenGuard (owned : phase.owned = none) (token : Token) :
    phase.ExpectsReply strict (.takeMatchingTokenGuard token)
        (view.cell.handle context (.takeMatchingTokenGuard token)).reply ∧
      (phase.afterReply (.takeMatchingTokenGuard token)
        (view.cell.handle context (.takeMatchingTokenGuard token)).reply).Holds strict answered
        (view.commanded context (.takeMatchingTokenGuard token)) := by
  by_cases matching : view.cell.tokenGuard = some token
  · have taken : view.cell.handle context (.takeMatchingTokenGuard token) =
        { cell := { view.cell with tokenGuard := none }, reply := some token } := if_pos matching
    have viewed : view.commanded context (.takeMatchingTokenGuard token) =
        { view with cell := { view.cell with tokenGuard := none } } :=
      ServiceView.commanded_of_outcome taken
    rw [taken, viewed]
    refine ⟨⟨.inr rfl, fun _ => rfl⟩, holds.place.fewer (fun _ live => live) rfl rfl rfl,
      fun stored same => some.inj same, fun isStrict => ?_⟩
    have tokens := holds.tokens isStrict
    refine ⟨fun other registered => ?_, nofun, tokens.spawned, tokens.resolved⟩
    obtain guarded | ownToken | dropped := tokens.accounted other registered
    · exact .inr (.inl (matching.symm.trans guarded))
    · rw [owned] at ownToken
      cases ownToken
    · exact .inr (.inr dropped)
  · have left : view.cell.handle context (.takeMatchingTokenGuard token) =
        { cell := view.cell, reply := none } := if_neg matching
    have viewed : view.commanded context (.takeMatchingTokenGuard token) = view :=
      ServiceView.commanded_of_outcome left
    rw [left, viewed]
    refine ⟨⟨.inl rfl, fun known => absurd (holds.known _ known) matching⟩, holds.place,
      holds.known, fun isStrict => ?_⟩
    have tokens := holds.tokens isStrict
    refine ⟨tokens.accounted, fun covered other stored => ?_, tokens.spawned, tokens.resolved⟩
    refine (tokens.covered covered other stored).imp id (Or.imp id fun answers => ?_)
    -- A pending token that is not the one with the actor need not be looked after any more.
    change (if phase.pending = .token token then Pending.nothing else phase.pending).Answers other
    split
    · next pending =>
      rw [pending] at answers
      exact absurd (answers ▸ stored) matching
    · exact answers

theorem Holds.command (known : view.cell.state.isSome) (configured : context.config.isSome)
    {command : ServiceCommand} (allowed : phase.AllowsCommand command) :
    phase.ExpectsReply strict command (view.cell.handle context command).reply ∧
      (phase.afterReply command (view.cell.handle context command).reply).Holds strict answered
        (view.commanded context command) := by
  by_cases neutral : command.isNeutral
  · rw [(neutral_command neutral).2]
    refine ⟨?_, holds.neutral (keepsStanding_of_neutral neutral)⟩
    cases command <;> first | exact trivial | cases neutral
  cases command with
  | getServiceContext => exact holds.getServiceContext known configured
  | claimServiceStart =>
    exact ⟨trivial, holds.claimed allowed rfl claiming_claimServiceStart.unchanged
      fun _ => not_isRunning_of_claimServiceStart⟩
  | claimServiceRestart => exact ⟨trivial, holds.claimServiceRestart allowed⟩
  | claimInactiveServiceRestart states =>
    exact ⟨trivial, holds.claimed allowed rfl (claiming_claimInactiveServiceRestart states).unchanged
      fun _ => not_isRunning_of_claimInactive⟩
  | getServiceStartup => exact holds.getServiceStartup
  | transitionServiceStartup startup status skipReason failReason =>
    exact ⟨trivial, holds.transition allowed.1 startup status skipReason failReason⟩
  | setServiceStatusWithReason status =>
    refine ⟨trivial, holds.entered allowed rfl (isRunning_of_setStatus ?_ context.now status)⟩
    rw [modifyState, isSome_map]
    exact known
  | setServiceStatus status =>
    exact ⟨trivial, holds.entered allowed rfl (isRunning_of_setStatus known context.now status)⟩
  | recordProcessExit exitCode signal =>
    exact ⟨trivial, holds.recordProcessExit allowed exitCode signal⟩
  | removeProcessHandle => exact holds.removeProcessHandle allowed
  | registerServiceInstance =>
    exact holds.registerServiceInstance known ..
  | storeProcessHandle handle => exact ⟨trivial, holds.storeProcessHandle allowed⟩
  | storeResolvedConfig config workingDir =>
    exact ⟨trivial, holds.storeResolvedConfig config workingDir⟩
  | storeTokenGuard token => exact ⟨trivial, holds.replaceGuard allowed⟩
  | storeStartupTokenGuard startup token => exact holds.storeStartupTokenGuard allowed startup
  | takeMatchingTokenGuard token => exact holds.takeMatchingTokenGuard allowed token
  | _ => exact absurd allowed neutral

end

end Custody

/-! ### Custody after an operation -/

namespace ServiceActor

variable {actor : ServiceActor}

theorem notice_checkAndNotifyReady :
    ∀ effect ∈ actor.checkAndNotifyReady.2, effect.isNotice := by
  unfold checkAndNotifyReady
  split
  · exact forall_mem_singleton.mpr rfl
  · exact nofun

theorem notice_checkAndNotifyQuiescent :
    ∀ effect ∈ actor.checkAndNotifyQuiescent.2, effect.isNotice := by
  unfold checkAndNotifyQuiescent
  split
  · exact forall_mem_singleton.mpr rfl
  · exact nofun

theorem notice_failureEvents (name : String) (status : ServiceStatus) :
    ∀ effect ∈ actor.failureEvents name status, effect.isNotice := by
  intro effect member
  simp only [failureEvents, mem_ite_nil_right, mem_singleton] at member
  rw [member.2]
  rfl

theorem notice_signalStatus (name : String) (status : ServiceStatus) :
    ∀ effect ∈ (actor.signalStatus name status).2, effect.isNotice := by
  unfold signalStatus
  refine forall_mem_append.mpr ⟨forall_mem_append.mpr
    ⟨forall_mem_cons.mpr ⟨rfl, notice_failureEvents name status⟩,
      notice_checkAndNotifyReady⟩, ?_⟩
  split
  · exact notice_checkAndNotifyQuiescent
  · exact nofun

theorem notice_signalled (name : String) (signal : Option StatusSignal) :
    ∀ effect ∈ (actor.signalled name signal).2, effect.isNotice := by
  rcases signal with _ | status | status
  · exact nofun
  · exact notice_signalStatus name status
  · exact forall_mem_cons.mpr ⟨rfl, notice_checkAndNotifyReady⟩

theorem absorbAll_handle (now : Nat) (name : String) (command : ServiceCommand)
    (runtime : ServiceRuntime) :
    runtime.absorbAll (actor.handle now name command).effects = runtime.absorbAll
      ((actor.cells name).handle (actor.context now name) command).effects := by
  change runtime.absorbAll (_ ++ (signalled _ name _).2) = _
  rw [absorbAll_append,
    absorbAll_of_notices (notice_signalled name _)]

end ServiceActor

namespace ServiceSystem

variable {system : ServiceSystem} {service other : String}

def view (system : ServiceSystem) (service : String) : ServiceView where
  cell := system.actor.cells service
  runtime := system.runtime service
  Registered token := ∃ context, (token, context) ∈ system.store ∧
    context.service = service ∧ context.configPath = system.configPath

theorem runtime_withRuntime_self (change : ServiceRuntime → ServiceRuntime) :
    (system.withRuntime service change).runtime service = change (system.runtime service) :=
  Function.update_self ..

theorem runtime_withRuntime_of_ne (different : other ≠ service)
    (change : ServiceRuntime → ServiceRuntime) :
    (system.withRuntime service change).runtime other = system.runtime other :=
  Function.update_of_ne different ..

theorem view_withRuntime_self (change : ServiceRuntime → ServiceRuntime) :
    (system.withRuntime service change).view service =
      { system.view service with runtime := change (system.runtime service) } := by
  rw [view, runtime_withRuntime_self]
  rfl

theorem view_withRuntime_of_ne (different : other ≠ service)
    (change : ServiceRuntime → ServiceRuntime) :
    (system.withRuntime service change).view other = system.view other := by
  rw [view, runtime_withRuntime_of_ne different]
  rfl

theorem view_command (now : Nat) (command : ServiceCommand) :
    (system.command now service command).1.view service =
      (system.view service).commanded (system.actor.context now service) command := by
  refine (view_withRuntime_self _).trans ?_
  rw [absorbAll_handle]
  unfold view ServiceView.commanded
  rw [cells_handle_self]

theorem view_command_of_ne (different : other ≠ service) (now : Nat) (command : ServiceCommand) :
    (system.command now service command).1.view other = system.view other := by
  refine (view_withRuntime_of_ne different _).trans ?_
  unfold view
  rw [cells_handle_of_ne _ _ different]

structure Knows (system : ServiceSystem) (service : String) : Prop where
  state : (system.actor.cells service).state.isSome
  config : (system.actor.config.services.lookup service).isSome

theorem registered_revoke {token revoked : Token}
    (registered : ((system.revoke revoked).view service).Registered token) :
    (system.view service).Registered token ∧ token ≠ revoked := by
  obtain ⟨context, member, named, located⟩ := registered
  obtain ⟨member, different⟩ := mem_filter.mp member
  exact ⟨⟨context, member, named, located⟩, of_decide_eq_true different⟩

theorem registered_register {token created : Token} {context : TokenContext}
    (registered : ((system.register other created context).view service).Registered token) :
    (system.view service).Registered token ∨ token = created ∧ service = other := by
  obtain ⟨found, member, named, located⟩ := registered
  obtain member | member := mem_append.mp member
  · exact .inl ⟨found, member, named, located⟩
  · cases mem_singleton.mp member
    exact .inr ⟨rfl, named.symm⟩

end ServiceSystem

namespace Custody

variable {strict : Bool} {answered : Token → Prop} {view : ServiceView} {phase : Custody}

section

variable (holds : phase.Holds strict answered view)

include holds

/-- A startup that gives way keeps no more than the token it owes for. -/
theorem Holds.paused (pausable : phase.Pausable) : phase.paused.Holds strict answered view := by
  obtain ⟨⟨settled, owned⟩, covered⟩ := pausable
  refine ⟨?_, nofun, fun isStrict => ⟨?_, fun _ token stored => ?_, nofun, nofun⟩⟩
  · obtain rest | cleared := settled
    · exact holds.placedAt rest
    · exact rest_of_cleared (holds.placedAt cleared)
  · have accounted := (holds.tokens isStrict).accounted
    rw [owned] at accounted
    exact accounted
  · change _ ∨ _ ∨ phase.owed.Answers token
    unfold owed
    split
    · next isCovered => exact (holds.tokens isStrict).covered isCovered token stored
    · next uncovered =>
      obtain ⟨known, isKnown⟩ := isSome_iff_exists.mp (covered.resolve_left uncovered)
      rw [isKnown, ← holds.known known isKnown, stored]
      exact .inr (.inr rfl)

theorem Holds.afterPause (pausable : phase.role = .startup → phase.Pausable) :
    phase.afterPause.Holds strict answered view := by
  unfold Custody.afterPause
  split
  · next startup => exact holds.paused (pausable startup)
  · exact holds

theorem Holds.spawned (cleared : phase.place = .cleared) :
    Holds strict answered
      { view with runtime := { view.runtime with
          processes := view.runtime.processes ++ [.running] } }
      { phase with place := .spawned view.runtime.processes.length } := by
  have placed := holds.placedAt cleared
  have live : ∀ process, (view.runtime.processes ++ [.running])[process]? = some .running →
      process = view.runtime.processes.length := by
    intro process live
    by_cases old : process < view.runtime.processes.length
    · rw [getElem?_append_left old] at live
      exact absurd live (placed.2 process)
    · have bound := (List.getElem?_eq_some_iff.mp live).1
      rw [length_append, length_singleton] at bound
      omega
  refine ⟨⟨placed.1, live⟩, holds.known, fun isStrict => ?_⟩
  have tokens := holds.tokens isStrict
  refine ⟨tokens.accounted, fun covered token stored => ?_, fun process same token => .inl ?_,
    tokens.resolved⟩
  · refine (tokens.covered covered token stored).imp (fun reports => ?_) id
    obtain ⟨process, held, _⟩ := reports
    rw [placed.1] at held
    cases held
  · cases same
    exact .inl (getElem?_concat_length ..)

theorem Holds.requestShutdown {process : ProcessId} (removed : phase.place = .removed process) :
    Holds strict answered { view with runtime := view.runtime.tell process }
      { phase with place := .cleared } := by
  have placed := holds.placedAt removed
  refine ⟨⟨placed.1, fun other live => ?_⟩, holds.known, fun isStrict => ?_⟩
  · obtain ⟨wasLive, different⟩ := live_tell live
    exact different (placed.2 other wasLive)
  · have tokens := holds.tokens isStrict
    refine ⟨tokens.accounted, fun covered token stored => ?_, nofun, tokens.resolved⟩
    refine (tokens.covered covered token stored).imp (fun reports => ?_) id
    obtain ⟨process, held, _⟩ := reports
    rw [placed.1] at held
    cases held

end

variable {system : ServiceSystem} {service : String}

section

variable (holds : phase.Holds strict answered (system.view service))

include holds

theorem Holds.createToken (owned : phase.owned = none) (token : Token) (context : TokenContext) :
    Holds strict answered ((system.register service token context).view service)
      { phase with owned := some token } := by
  refine ⟨holds.place.fewer (fun _ live => live) rfl rfl rfl, holds.known, fun isStrict => ?_⟩
  have tokens := holds.tokens isStrict
  refine ⟨fun other registered => ?_, tokens.covered, tokens.spawned, tokens.resolved⟩
  obtain before | ⟨same, _⟩ := registered_register registered
  · refine (tokens.accounted other before).imp id (Or.imp (fun ownToken => ?_) id)
    rw [owned] at ownToken
    cases ownToken
  · exact .inr (.inl (same ▸ rfl))

theorem Holds.revokeToken (owned : phase.owned = some token) :
    Holds strict answered ((system.revoke token).view service) { phase with owned := none } := by
  refine ⟨holds.place.fewer (fun _ live => live) rfl rfl rfl, holds.known, fun isStrict => ?_⟩
  have tokens := holds.tokens isStrict
  refine ⟨fun other registered => ?_, tokens.covered, tokens.spawned, tokens.resolved⟩
  obtain ⟨before, different⟩ := registered_revoke registered
  refine (tokens.accounted other before).imp id (Or.imp (fun ownToken => ?_) id)
  rw [owned] at ownToken
  exact absurd (some.inj ownToken).symm different

theorem Holds.perform (known : system.Knows service) {operation : Operation}
    (allowed : phase.Allows operation) {choice : Choice}
    (computes : strict → phase.role = .exit → operation = .resolveService →
      choice.resolution.isOk ∨ (system.actor.cells service).tokenGuard = none) :
    phase.Expects strict operation (system.perform service choice operation).2 ∧
      (phase.after operation (system.perform service choice operation).2).Holds strict answered
        ((system.perform service choice operation).1.view service) := by
  cases operation with
  | command command =>
    have configured : (system.actor.context choice.now service).config.isSome := known.config
    have after := holds.command known.state configured allowed
    rw [← view_command] at after
    exact after
  | runHook hook =>
    refine ⟨trivial, ?_⟩
    cases hook with
    | preStart => exact holds.afterPause allowed
    | _ => exact holds
  | resolveService =>
    refine ⟨fun isStrict exit isKnown => ?_, holds.afterPause allowed⟩
    refine (computes isStrict exit rfl).imp id fun empty => ?_
    obtain ⟨stored, isKnown⟩ := isSome_iff_exists.mp isKnown
    rw [isKnown, ← holds.known stored isKnown]
    exact congrArg some empty
  | createToken =>
    refine ⟨trivial, ?_⟩
    unfold ServiceSystem.perform
    cases choice.token with
    | ok created => exact holds.createToken allowed created.1 created.2
    | error => exact holds
  | revokeToken token => exact ⟨trivial, holds.revokeToken allowed⟩
  | spawnProcess =>
    refine ⟨trivial, ?_⟩
    unfold ServiceSystem.perform
    cases choice.spawned with
    | ok pid =>
      rw [view_withRuntime_self]
      exact holds.spawned allowed
    | error => exact holds
  | killProcess => cases allowed
  | requestShutdown =>
    refine ⟨trivial, ?_⟩
    change Holds _ _ ((system.withRuntime service _).view service) _
    rw [view_withRuntime_self]
    exact holds.requestShutdown allowed
  | awaitDependencies => exact ⟨trivial, holds.afterPause allowed⟩
  | awaitShutdown | clearProcessOutputs | spawnTask | awaitDependencyRestart | sleep
  | backoff =>
    exact ⟨trivial, holds⟩

end

end Custody

end Kepler
