/-
This file says what is told about a service, and when.

A command that moves a service to another status gives a signal, and the actor announces the new
status to everybody who waits for the service. All other commands leave alone what the conditions
of dependencies read of a service, with one exception: the exit code of a process is recorded
without an announcement.
-/

import Kepler.CommandSteps

namespace Kepler

open List ServiceCell ServiceState

theorem ServiceState.exitCode_enter (now : Nat) {status : ServiceStatus}
    (notStarting : status ≠ .starting) (notRunning : status ≠ .running) (state : ServiceState) :
    (state.enter now status).exitCode = state.exitCode := by
  have later : ¬ (status = .starting ∨ status = .running) := not_or.mpr ⟨notStarting, notRunning⟩
  unfold enter
  dsimp only
  rw [if_neg later]
  split <;> split <;> rfl

variable {signal : Option StatusSignal}

namespace ServiceCell

/-! ### Commands and their signals -/

/-- How a command changes the state of a service, with the signal that it gives. -/
inductive StateStep (cell new : ServiceCell) : ServiceCommand → Option StatusSignal → Prop where
  | entered {command : ServiceCommand} (now : Nat) (status : ServiceStatus)
      {state reasoned : ServiceState} (found : cell.state = some state)
      (same : reasoned.observed = state.observed)
      (becomes : new.state = some (reasoned.enter now status))
      (resolved : new.resolved = cell.resolved) :
      StateStep cell new command (some (.entered status))
  | health {command : ServiceCommand} (passed : Bool) (retries : Nat) {state : ServiceState}
      (found : cell.state = some state) (running : state.status.isRunning)
      (becomes : new.state = some (state.updateHealth passed retries)) :
      StateStep cell new command (some (.health (state.updateHealth passed retries).status))
  | recorded (exitCode signal : Option Int)
      (becomes : new.state = cell.state.map fun state =>
        { state with exitCode, signal, pid := none })
      (claim : new.claim = cell.claim) :
      StateStep cell new (.recordProcessExit exitCode signal) none
  | kept {command : ServiceCommand}
      (same : new.state.map ServiceState.observed = cell.state.map ServiceState.observed)
      (claim : new.claim = cell.claim ∨ cell.claim = none) : StateStep cell new command none

variable {cell : ServiceCell} {context : CommandContext} {state : ServiceState}

theorem state_setStatus (found : cell.state = some state) (now : Nat) (status : ServiceStatus) :
    (cell.setStatus now status).state = some (state.enter now status) ∧
      (cell.setStatus now status).resolved = cell.resolved := by
  unfold setStatus
  simp only [found]
  split
  · exact ⟨rfl, rfl⟩
  · exact ⟨rfl, rfl⟩

theorem claim_setStatus_of_none (unknown : cell.state = none) (now : Nat)
    (status : ServiceStatus) :
    (cell.setStatus now status).state = none ∧ (cell.setStatus now status).claim = cell.claim := by
  unfold setStatus
  simp only [unknown]
  split
  · exact ⟨unknown, rfl⟩
  · exact ⟨unknown, rfl⟩

variable {command : ServiceCommand} {change : ServiceState → ServiceState} {new : ServiceCell}

theorem stateStep_setServiceStatus (preserves : ∀ state, (change state).observed = state.observed)
    (status : ServiceStatus) :
    StateStep cell ((cell.modifyState change).setServiceStatus context status).cell command
      ((cell.modifyState change).setServiceStatus context status).signal := by
  cases found : cell.state with
  | none =>
    have unknown : (cell.modifyState change).state = none := by rw [modifyState, found]; rfl
    have silent : ((cell.modifyState change).setServiceStatus context status).signal = none := by
      rw [setServiceStatus, unknown]
      rfl
    obtain ⟨state, claim⟩ := claim_setStatus_of_none unknown context.now status
    rw [silent]
    refine .kept ?_ (.inl claim)
    rw [setServiceStatus, state, found]
  | some state =>
    have known : (cell.modifyState change).state = some (change state) := by
      rw [modifyState, found]
      rfl
    have told : ((cell.modifyState change).setServiceStatus context status).signal =
        some (.entered status) := by
      rw [setServiceStatus, known]
      rfl
    obtain ⟨becomes, resolved⟩ := state_setStatus known context.now status
    rw [told]
    exact .entered context.now status found (preserves state) becomes resolved

theorem stateStep_claimWith (known : cell.state.isSome) (status : ServiceStatus) :
    StateStep cell (cell.claimWith context status).cell command
      (cell.claimWith context status).signal := by
  obtain ⟨state, found⟩ := Option.isSome_iff_exists.mp known
  have told : (cell.claimWith context status).signal = some (.entered status) := by
    rw [claimWith, setServiceStatus, found]
    rfl
  obtain ⟨becomes, resolved⟩ := state_setStatus found context.now status
  rw [told]
  exact .entered context.now status found rfl becomes resolved

theorem stateStep_of_modifyState (preserves : ∀ state, (change state).observed = state.observed)
    (becomes : new.state = cell.state.map change) (claim : new.claim = cell.claim) :
    StateStep cell new command none := by
  refine .kept ?_ (.inl claim)
  rw [becomes, Option.map_map]
  exact congrArg (cell.state.map ·) (funext preserves)

theorem observed_updateHealth {passed : Bool} {retries : Nat}
    (same : (state.updateHealth passed retries).status = state.status) :
    (state.updateHealth passed retries).observed = state.observed := by
  unfold updateHealth at same ⊢
  split at same
  · split at same
    · rename_i moves
      rw [same.symm] at moves
      rcases moves with impossible | impossible <;> exact nomatch impossible
    · rename_i passed other
      rw [if_pos passed, if_neg other]
      rfl
  · rename_i failed
    rw [if_neg failed]
    exact congrArg (·, state.exitCode, state.wasHealthy) same

theorem stateStep_updateHealth (passed : Bool) (retries : Nat) (found : cell.state = some state)
    (running : state.status.isRunning) :
    StateStep cell (cell.modifyState (ServiceState.updateHealth passed retries)) command
      (if (state.updateHealth passed retries).status = state.status then none
        else some (.health (state.updateHealth passed retries).status)) := by
  have becomes : (cell.modifyState (updateHealth passed retries)).state =
      some (state.updateHealth passed retries) := by
    rw [modifyState, found]
    rfl
  split
  · rename_i same
    refine .kept ?_ (.inl rfl)
    rw [becomes, found]
    exact congrArg some (observed_updateHealth same)
  · exact .health passed retries found running becomes

theorem CommandStep.stateStep {effects : List Effect}
    (step : CommandStep cell context command new effects signal) :
    StateStep cell new command signal := by
  cases step with
  | held | began | cancelled => exact .kept rfl (.inl rfl)
  | reserved free => exact .kept rfl (.inr free)
  | noted change preserves => exact stateStep_of_modifyState preserves rfl rfl
  | resolved | registered => exact stateStep_of_modifyState (by exact fun _ => rfl) rfl rfl
  | recorded exitCode signal => exact .recorded exitCode signal rfl rfl
  | claimed enters known status => exact stateStep_claimWith known status
  | entered enters change preserves status => exact stateStep_setServiceStatus preserves status
  | health session passed retries found running =>
    exact stateStep_updateHealth passed retries found running

theorem stateStep_handle (command : ServiceCommand) :
    StateStep cell (cell.handle context command).cell command
      (cell.handle context command).signal :=
  (commandStep_handle command).stateStep

end ServiceCell

/-! ### Signals and announcements -/

namespace ServiceActor

def signalTo (actor : ServiceActor) (input : Input) (name : String) : Option StatusSignal :=
  match input with
  | .service now target command =>
    if target = name then
      ((actor.cells target).handle (actor.context now target) command).signal
    else none
  | _ => none

variable {actor : ServiceActor} {input : Input} {name : String} {status : ServiceStatus}

variable {effect : Effect} {other : String} {exitCode : Option Int}

theorem eq_of_mem_checkAndNotifyReady (member : effect ∈ actor.checkAndNotifyReady.2) :
    effect = .notified .ready := by
  unfold checkAndNotifyReady at member
  split at member
  · exact mem_singleton.mp member
  · cases member

theorem eq_of_mem_checkAndNotifyQuiescent (member : effect ∈ actor.checkAndNotifyQuiescent.2) :
    effect = .notified .quiescent := by
  unfold checkAndNotifyQuiescent at member
  split at member
  · exact mem_singleton.mp member
  · cases member

theorem eq_of_mem_checkSignals (member : effect ∈ actor.checkSignals.2) :
    effect = .notified .ready ∨ effect = .notified .quiescent := by
  rcases mem_append.mp member with ready | quiescent
  · exact .inl (eq_of_mem_checkAndNotifyReady ready)
  · exact .inr (eq_of_mem_checkAndNotifyQuiescent quiescent)

theorem mem_signalStatus_iff (notReady : effect ≠ .notified .ready)
    (notQuiescent : effect ≠ .notified .quiescent) :
    effect ∈ (actor.signalStatus name status).2 ↔
      effect = .notified (.statusChange name status) ∨
        effect ∈ actor.failureEvents name status := by
  unfold signalStatus
  rw [mem_append, mem_append, mem_cons]
  constructor
  · rintro ((told | ready) | quiescent)
    · exact told
    · exact absurd (eq_of_mem_checkAndNotifyReady ready) notReady
    · split at quiescent
      · exact absurd (eq_of_mem_checkAndNotifyQuiescent quiescent) notQuiescent
      · cases quiescent
  · exact fun told => .inl (.inl told)

theorem statusChange_mem_signalled_iff :
    .notified (.statusChange other status) ∈ (actor.signalled name signal).2 ↔
      other = name ∧ (signal = some (.entered status) ∨ signal = some (.health status)) := by
  rcases signal with _ | entered | entered
  · exact iff_of_false not_mem_nil fun told => by rcases told.2 with no | no <;> cases no
  · rw [signalled, mem_signalStatus_iff (fun same => by cases same) (fun same => by cases same)]
    have notFailure :
        .notified (.statusChange other status) ∉ actor.failureEvents name entered := by
      intro member
      simp only [failureEvents, mem_ite_nil_right, mem_singleton] at member
      cases member.2
    simp [notFailure, eq_comm]
  · rw [signalled, mem_cons]
    have notReady : .notified (.statusChange other status) ∉ actor.checkAndNotifyReady.2 := by
      intro member
      cases eq_of_mem_checkAndNotifyReady member
    simp [notReady, eq_comm]

theorem unhandledFailure_mem_signalled_iff :
    .notified (.unhandledFailure other exitCode) ∈ (actor.signalled name signal).2 ↔
      ∃ status, signal = some (.entered status) ∧
        .notified (.unhandledFailure other exitCode) ∈ actor.failureEvents name status := by
  rcases signal with _ | entered | entered
  · refine iff_of_false not_mem_nil ?_
    rintro ⟨status, same, _⟩
    cases same
  · rw [signalled, mem_signalStatus_iff (fun same => by cases same) (fun same => by cases same)]
    simp
  · refine iff_of_false (fun member => ?_) ?_
    · rw [signalled, mem_cons] at member
      rcases member with impossible | ready
      · cases impossible
      · cases eq_of_mem_checkAndNotifyReady ready
    · rintro ⟨status, same, _⟩
      cases same

theorem eq_of_mem_handleConfig {command : ConfigCommand}
    (member : effect ∈ (actor.handleConfig command).effects) :
    effect = .notified .ready ∨ effect = .notified .quiescent := by
  cases command with
  | recheckReadyQuiescent => exact eq_of_mem_checkSignals member
  | setStartupInProgress inProgress =>
    cases inProgress with
    | true => cases member
    | false => exact eq_of_mem_checkSignals member
  | _ => cases member

theorem statusChange_mem_effects_iff :
    .notified (.statusChange name status) ∈ actor.effects input ↔
      actor.signalTo input name = some (.entered status) ∨
        actor.signalTo input name = some (.health status) := by
  cases input with
  | service now target command =>
    change _ ∈ _ ++ _ ↔ _
    rw [mem_append, or_iff_right (notified_notMem_handle _ command),
      statusChange_mem_signalled_iff, signalTo]
    by_cases same : target = name
    · rw [if_pos same, and_iff_right same.symm]
    · rw [if_neg same]
      exact iff_of_false (fun told => same told.1.symm) (by rintro (no | no) <;> cases no)
  | config =>
    refine iff_of_false (fun member => ?_) (by rintro (no | no) <;> cases no)
    rcases eq_of_mem_handleConfig member with impossible | impossible <;> exact nomatch impossible
  | _ => exact iff_of_false not_mem_nil (by rintro (no | no) <;> cases no)

theorem SameButSignals.failureEvents {new : ServiceActor} (same : actor.SameButSignals new) :
    new.failureEvents name status = actor.failureEvents name status := by
  obtain ⟨_, _, rfl⟩ := same
  rfl

theorem unhandledFailure_mem_effects_iff :
    .notified (.unhandledFailure name exitCode) ∈ actor.effects input ↔
      ∃ status, actor.signalTo input name = some (.entered status) ∧
        .notified (.unhandledFailure name exitCode) ∈
          (actor.step input).failureEvents name status := by
  cases input with
  | service now target command =>
    change _ ∈ _ ++ _ ↔ _
    rw [mem_append, or_iff_right (notified_notMem_handle _ command),
      unhandledFailure_mem_signalled_iff, signalTo]
    by_cases same : target = name
    · subst same
      rw [if_pos rfl]
      refine exists_congr fun status => and_congr_right fun _ => ?_
      rw [← (sameButSignals_signalled ..).failureEvents]
      rfl
    · rw [if_neg same]
      refine iff_of_false ?_ nofun
      rintro ⟨status, _, member⟩
      simp only [failureEvents, mem_ite_nil_right, mem_singleton, Effect.notified.injEq,
        ConfigEvent.unhandledFailure.injEq] at member
      exact same member.2.1.symm
  | config =>
    refine iff_of_false (fun member => ?_) nofun
    rcases eq_of_mem_handleConfig member with impossible | impossible <;> exact nomatch impossible
  | _ => exact iff_of_false not_mem_nil nofun

theorem stateStep_of_signalTo {signal : StatusSignal}
    (told : actor.signalTo input name = some signal) :
    ∃ command, (actor.cells name).StateStep ((actor.step input).cells name) command
      (some signal) := by
  cases input with
  | service now target command =>
    rw [signalTo] at told
    split at told
    · rename_i same
      subst same
      refine ⟨command, ?_⟩
      rw [ServiceActor.step, cells_handle_self, ← told]
      exact stateStep_handle command
    · cases told
  | _ => cases told

/-- A service that has entered a status has it. Its exit code is forgotten at the beginning of a run
only. -/
theorem state_of_entered (told : actor.signalTo input name = some (.entered status)) :
    ∃ before after, (actor.cells name).state = some before ∧
      ((actor.step input).cells name).state = some after ∧ after.status = status ∧
      (status ≠ .starting → status ≠ .running → after.exitCode = before.exitCode) ∧
      ((actor.step input).cells name).resolved = (actor.cells name).resolved := by
  obtain ⟨command, step⟩ := stateStep_of_signalTo told
  cases step with
  | entered now status found same becomes resolved =>
    refine ⟨_, _, found, becomes, rfl, fun notStarting notRunning => ?_, resolved⟩
    rw [exitCode_enter _ notStarting notRunning]
    exact congrArg (fun observed => observed.2.1) same

theorem state_of_health (told : actor.signalTo input name = some (.health status)) :
    ∃ after, ((actor.step input).cells name).state = some after ∧ after.status = status ∧
      status.isRunning := by
  obtain ⟨command, step⟩ := stateStep_of_signalTo told
  cases step with
  | health passed retries found running becomes =>
    exact ⟨_, becomes, rfl, isRunning_updateHealth passed retries running⟩

/-- Without a signal, what is observed of a service stays, unless an exit is recorded. A claim
stays. -/
theorem observed_of_silent (silent : actor.signalTo input name = none) :
    ((∃ now exitCode signal, input = .service now name (.recordProcessExit exitCode signal) ∧
        ((actor.step input).cells name).state = (actor.cells name).state.map fun state =>
          { state with exitCode, signal, pid := none }) ∨
      ((actor.step input).cells name).state.map ServiceState.observed =
        (actor.cells name).state.map ServiceState.observed) ∧
    (((actor.step input).cells name).claim = (actor.cells name).claim ∨
      (actor.cells name).claim = none) := by
  by_cases about : ∃ now command, input = .service now name command
  · obtain ⟨now, command, rfl⟩ := about
    have step := @ServiceCell.stateStep_handle (actor.cells name) (actor.context now name) command
    rw [signalTo, if_pos rfl] at silent
    rw [silent, ← cells_handle_self] at step
    cases step with
    | recorded exitCode signal becomes claim =>
      exact ⟨.inl ⟨now, exitCode, signal, rfl, becomes⟩, .inl claim⟩
    | kept same claim => exact ⟨.inr same, claim⟩
  · obtain ⟨resolved, watcher, eventSender, same⟩ := actor.cells_step_of_elsewhere
      fun now command same => about ⟨now, command, same⟩
    rw [same]
    exact ⟨.inr rfl, .inl rfl⟩

theorem status_of_silent (silent : actor.signalTo input name = none) :
    ((actor.step input).cells name).status = (actor.cells name).status := by
  unfold ServiceCell.status
  rcases (observed_of_silent silent).1 with ⟨now, exitCode, signal, _, becomes⟩ | same
  · rw [becomes, Option.map_map]
    rfl
  · have statuses := congrArg (Option.map Prod.fst) same
    rw [Option.map_map, Option.map_map] at statuses
    exact statuses

theorem serviceStartup_of_silent {startup : ServiceStartup}
    (silent : actor.signalTo input name = none)
    (valid : (actor.cells name).serviceStartup = some startup) :
    ((actor.step input).cells name).serviceStartup = some startup := by
  unfold serviceStartup at valid ⊢
  rw [status_of_silent silent]
  split at valid
  · rename_i starting
    rw [if_pos starting]
    rcases (observed_of_silent silent).2 with same | free
    · rw [same, valid]
    · cases valid.symm.trans free
  · cases valid

end ServiceActor

end Kepler
