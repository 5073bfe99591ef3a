/-
This file shows that the custody of a task stays right while the task does nothing: processes exit
and are killed, dropped guards are revoked, health checkers send their results, and tasks on other
services go on.
-/

import Kepler.CustodyHolds

namespace Kepler

open ServiceRuntime ServiceCell ServiceActor List

/-- What processes, monitors, health checkers and tasks on other services do to a service: live
processes end, and tokens are revoked. -/
structure ServiceView.Drifts (view new : ServiceView) : Prop where
  live : ∀ process, new.runtime.Live process → view.runtime.Live process
  reports : ∀ process, view.runtime.Reports process → new.runtime.Reports process
  holder : new.cell.holder = view.cell.holder
  tokenGuard : new.cell.tokenGuard = view.cell.tokenGuard
  isRunning : new.cell.isRunning = view.cell.isRunning
  serviceStartup : new.cell.serviceStartup = view.cell.serviceStartup
  registered : ∀ token, new.Registered token → view.Registered token ∧
    (token ∈ view.runtime.dropped → token ∈ new.runtime.dropped)

namespace Custody

variable {strict : Bool} {answered : Token → Prop} {view new : ServiceView} {phase : Custody}

theorem Holds.drifts (holds : phase.Holds strict answered view) (drifts : view.Drifts new)
    (resolved : strict → phase.resolved → view.cell.resolved.isSome → new.cell.resolved.isSome) :
    phase.Holds strict answered new where
  place := holds.place.fewer drifts.live drifts.holder drifts.isRunning drifts.serviceStartup
  known stored known := drifts.tokenGuard.trans (holds.known stored known)
  tokens isStrict := by
    have tokens := holds.tokens isStrict
    refine ⟨fun token registered => ?_, fun covered token stored => ?_, fun process placed token => ?_,
      fun done => resolved isStrict done (tokens.resolved done)⟩
    · obtain ⟨before, dropped⟩ := drifts.registered token registered
      rw [drifts.tokenGuard]
      exact (tokens.accounted token before).imp id (Or.imp id dropped)
    · rw [drifts.tokenGuard] at stored
      refine (tokens.covered covered token stored).imp (fun reports => ?_) id
      obtain ⟨process, held, reports⟩ := reports
      exact ⟨process, drifts.holder.trans held, drifts.reports process reports⟩
    · exact (tokens.spawned process placed token).imp (drifts.reports process) id

theorem Holds.answers {others : Token → Prop} (holds : phase.Holds strict answered view)
    (more : ∀ token, answered token → others token) : phase.Holds strict others view :=
  ⟨holds.place, holds.known, fun isStrict =>
    have tokens := holds.tokens isStrict
    ⟨tokens.accounted,
      fun covered token stored => (tokens.covered covered token stored).imp id
        (Or.imp (more token) id),
      fun process placed token => (tokens.spawned process placed token).imp id (more token),
      tokens.resolved⟩⟩

end Custody

namespace ServiceRuntime

variable {runtime : ServiceRuntime} {process : ProcessId}

theorem getElem?_setPhase_self {before : ProcessPhase}
    (found : runtime.processes[process]? = some before) (phase : ProcessPhase) :
    (runtime.setPhase process phase).processes[process]? = some phase :=
  List.getElem?_set_self (List.getElem?_eq_some_iff.mp found).1

theorem getElem?_setPhase_of_ne {other : ProcessId} (different : other ≠ process)
    (phase : ProcessPhase) :
    (runtime.setPhase process phase).processes[other]? = runtime.processes[other]? :=
  getElem?_set_ne (Ne.symm different)

theorem live_setPhase {phase : ProcessPhase} (ends : phase ≠ .running) {other : ProcessId}
    (live : (runtime.setPhase process phase).Live other) : runtime.Live other := by
  by_cases same : other = process
  · subst same
    have bound : other < runtime.processes.length := by
      have found := (List.getElem?_eq_some_iff.mp live).1
      rwa [setPhase, length_set] at found
    rw [Live, getElem?_setPhase_self (getElem?_eq_getElem bound)] at live
    exact absurd (Option.some.inj live) ends
  · rw [Live, getElem?_setPhase_of_ne same] at live
    exact live

end ServiceRuntime

theorem ServiceView.Drifts.refl (view : ServiceView) : view.Drifts view :=
  ⟨fun _ live => live, fun _ reports => reports, rfl, rfl, rfl, rfl,
    fun _ registered => ⟨registered, id⟩⟩

namespace ServiceSystem

variable {system : ServiceSystem} {service other : String}

theorem drifts_withRuntime {change : ServiceRuntime → ServiceRuntime}
    (live : ∀ process, (change (system.runtime other)).Live process →
      (system.runtime other).Live process)
    (reports : ∀ process, (system.runtime other).Reports process →
      (change (system.runtime other)).Reports process)
    (dropped : (change (system.runtime other)).dropped = (system.runtime other).dropped) :
    (system.view service).Drifts ((system.withRuntime other change).view service) := by
  by_cases same : service = other
  · subst same
    rw [view_withRuntime_self]
    refine ⟨live, reports, rfl, rfl, rfl, rfl, fun token registered => ⟨registered, ?_⟩⟩
    rw [dropped]
    exact id
  · rw [view_withRuntime_of_ne same]
    exact .refl _

theorem drifts_exitProcess (process : ProcessId) (exitCode signal : Option Int) :
    (system.view service).Drifts
      ((system.exitProcess other process exitCode signal).view service) := by
  have exits : ∀ before, (system.runtime other).processes[process]? = some before →
      (system.view service).Drifts ((system.withRuntime other
        (·.setPhase process (.exited exitCode signal))).view service) := by
    intro before found
    refine drifts_withRuntime (fun _ live => live_setPhase (by exact nofun) live)
      (fun reporting reports => ?_) rfl
    by_cases same : reporting = process
    · subst same
      exact .inr (.inl ⟨exitCode, signal, getElem?_setPhase_self found _⟩)
    · unfold ServiceRuntime.Reports ServiceRuntime.Live at reports ⊢
      rw [getElem?_setPhase_of_ne same]
      exact reports
  unfold exitProcess
  split
  · next running => exact exits _ running
  · next told => exact exits _ told
  · exact .refl _

theorem drifts_reportExit (process : ProcessId) :
    (system.view service).Drifts ((system.reportExit other process).view service) := by
  unfold reportExit
  split
  · next exitCode signal exited =>
    refine drifts_withRuntime (fun running live => ?_) (fun reporting reports => ?_) rfl
    · have live : ((system.runtime other).setPhase process .ended).Live running := live
      exact live_setPhase (by exact nofun) live
    by_cases same : reporting = process
    · exact .inr (.inr ⟨_, mem_append_right _ (mem_singleton_self _), same.symm⟩)
    · unfold ServiceRuntime.Reports ServiceRuntime.Live at reports ⊢
      rw [show (_ : ServiceRuntime).processes[reporting]? = _ from
        getElem?_setPhase_of_ne same .ended]
      refine reports.imp id (Or.imp id ?_)
      rintro ⟨exit, member, reported⟩
      exact ⟨exit, mem_append_left _ member, reported⟩
  · exact .refl _

theorem drifts_revokeFirstDropped :
    (system.view service).Drifts ((system.revokeFirstDropped other).view service) := by
  unfold revokeFirstDropped
  split
  · exact .refl _
  · next token rest found =>
    by_cases same : service = other
    · subst same
      rw [view_withRuntime_self]
      refine ⟨fun _ live => live, fun _ reports => reports, rfl, rfl, rfl, rfl,
        fun other registered => ?_⟩
      obtain ⟨before, different⟩ := registered_revoke registered
      refine ⟨before, fun dropped => ?_⟩
      rw [show (system.view service).runtime.dropped = token :: rest from found] at dropped
      exact (mem_cons.mp dropped).resolve_left different
    · rw [view_withRuntime_of_ne same]
      exact ⟨fun _ live => live, fun _ reports => reports, rfl, rfl, rfl, rfl,
        fun other registered => ⟨(registered_revoke registered).1, id⟩⟩

theorem drifts_perform (different : service ≠ other) (choice : Choice) (operation : Operation) :
    (system.view service).Drifts ((system.perform other choice operation).1.view service) := by
  cases operation with
  | command command =>
    change ServiceView.Drifts _ ((system.command choice.now other command).1.view service)
    rw [view_command_of_ne different]
    exact .refl _
  | createToken =>
    unfold perform
    cases choice.token with
    | ok =>
      refine ⟨fun _ live => live, fun _ reports => reports, rfl, rfl, rfl, rfl,
        fun token registered => ⟨?_, id⟩⟩
      obtain before | ⟨_, same⟩ := registered_register registered
      · exact before
      · exact absurd same different
    | error => exact .refl _
  | revokeToken token =>
    exact ⟨fun _ live => live, fun _ reports => reports, rfl, rfl, rfl, rfl,
      fun other registered => ⟨(registered_revoke registered).1, id⟩⟩
  | spawnProcess =>
    unfold perform
    cases choice.spawned with
    | ok pid =>
      rw [view_withRuntime_of_ne different]
      exact .refl _
    | error => exact .refl _
  | killProcess | requestShutdown =>
    change ServiceView.Drifts _ ((system.withRuntime other _).view service)
    rw [view_withRuntime_of_ne different]
    exact .refl _
  | _ => exact .refl _

end ServiceSystem

/-- A change of a record by which at most a running service changes its health. -/
structure ServiceCell.SameButHealth (cell new : ServiceCell) : Prop where
  process : new.process = cell.process
  tokenGuard : new.tokenGuard = cell.tokenGuard
  claim : new.claim = cell.claim
  resolved : new.resolved = cell.resolved
  status : new.status = cell.status ∨ cell.isRunning ∧ new.isRunning

namespace ServiceCell.SameButHealth

variable {cell new : ServiceCell}

theorem refl (cell : ServiceCell) : cell.SameButHealth cell := ⟨rfl, rfl, rfl, rfl, .inl rfl⟩

theorem isRunning (same : cell.SameButHealth new) : new.isRunning = cell.isRunning := by
  obtain status | ⟨before, after⟩ := same.status
  · rw [ServiceCell.isRunning, ServiceCell.isRunning, status]
  · rw [before, after]

theorem serviceStartup (same : cell.SameButHealth new) :
    new.serviceStartup = cell.serviceStartup := by
  obtain status | ⟨before, after⟩ := same.status
  · exact serviceStartup_of_status status same.claim
  · rw [ServiceCell.serviceStartup, ServiceCell.serviceStartup,
      if_neg (not_isStartup_of_isRunning before), if_neg (not_isStartup_of_isRunning after)]

theorem emitHealthCheckEvent (context : CommandContext) (session : HealthCheckSession)
    (event : ServiceEvent) :
    cell.SameButHealth (cell.emitHealthCheckEvent context session event).cell := by
  unfold ServiceCell.emitHealthCheckEvent
  split <;> exact ⟨rfl, rfl, rfl, rfl, .inl rfl⟩

theorem updateHealthCheck (context : CommandContext) (session : HealthCheckSession) (passed : Bool)
    (retries : Nat) :
    cell.SameButHealth (cell.updateHealthCheck context session passed retries).cell := by
  unfold ServiceCell.updateHealthCheck
  split
  · next current =>
    have running := (Bool.and_eq_true_iff.mp current).2
    split
    · exact .refl cell
    · next state known =>
      refine ⟨rfl, rfl, rfl, rfl, .inr ⟨running, ?_⟩⟩
      rw [ServiceCell.isRunning, ServiceCell.status, known] at running
      change (Option.map _ (cell.state.map _)).any _
      rw [known]
      exact ServiceState.isRunning_updateHealth passed retries running
  · exact .refl cell

end ServiceCell.SameButHealth

namespace ServiceSystem

variable {system : ServiceSystem} {service other : String}

/-- What comes from elsewhere to the actor changes at most the health, unless the computed configs
are cleared. -/
theorem sameButHealth_aside {input : Aside} (kept : input ≠ .config .clearResolvedConfigs) :
    (system.actor.cells service).SameButHealth
      ((system.actor.step input.input).cells service) := by
  have changed : ∀ name cell, (system.actor.cells name).SameButHealth cell →
      (system.actor.cells service).SameButHealth ((system.actor.put name cell).cells service) := by
    intro name cell same
    by_cases here : service = name
    · subst here
      rw [cells_put_self]
      exact same
    · rw [cells_put_of_ne _ here]
      exact .refl _
  have commanded : ∀ now name command, ((system.actor.cells name).SameButHealth
      ((system.actor.cells name).handle (system.actor.context now name) command).cell) →
      (system.actor.cells service).SameButHealth
        ((system.actor.handle now name command).actor.cells service) := by
    intro now name command same
    rw [cells_handle]
    exact changed name _ same
  cases input with
  | healthEvent now name session event =>
    exact commanded now name _ (.emitHealthCheckEvent _ session event)
  | healthResult now name session passed retries =>
    exact commanded now name _ (.updateHealthCheck _ session passed retries)
  | config command =>
    obtain ⟨eventSender, same⟩ := cells_handleConfig_of_ne system.actor
      (fun clears => kept (congrArg Aside.config clears)) service
    change ServiceCell.SameButHealth _ ((system.actor.handleConfig command).actor.cells service)
    rw [same]
    exact ⟨rfl, rfl, rfl, rfl, .inl rfl⟩
  | received name | receiverDropped name | watcherFinished name =>
    exact changed name _ ⟨rfl, rfl, rfl, rfl, .inl rfl⟩

theorem drifts_aside (input : Aside) :
    (system.view service).Drifts ((system.step (.aside input)).view service) := by
  by_cases clears : input = .config .clearResolvedConfigs
  · subst clears
    exact ⟨fun _ live => live, fun _ reports => reports, rfl, rfl, rfl, rfl,
      fun _ registered => ⟨registered, id⟩⟩
  · have same : (system.actor.cells service).SameButHealth
        ((system.actor.step input.input).cells service) := sameButHealth_aside clears
    exact ⟨fun _ live => live, fun _ reports => reports, congrArg (Option.map _) same.process,
      same.tokenGuard, same.isRunning, same.serviceStartup,
      fun _ registered => ⟨registered, id⟩⟩

theorem view_killTold (now : Nat) (process : ProcessId) (exitCode signal : Option Int)
    (told : (system.runtime service).processes[process]? = some .told) :
    (system.killTold now service process exitCode signal).view service =
      { (system.view service) with
        runtime := (system.runtime service).setPhase process .ended }.commanded
        (system.actor.context now service) (.recordProcessExit exitCode signal) := by
  unfold killTold
  rw [if_pos told, view_command, view_withRuntime_self]
  rfl

theorem view_killTold_of_ne (different : service ≠ other) (now : Nat) (process : ProcessId)
    (exitCode signal : Option Int) :
    (system.killTold now other process exitCode signal).view service = system.view service := by
  unfold killTold
  split
  · rw [view_command_of_ne different, view_withRuntime_of_ne different]
  · rfl

end ServiceSystem

theorem Place.Holds.dropped {place : Place} {view new : ServiceView} (holds : place.Holds view)
    (live : ∀ process, new.runtime.Live process →
      view.runtime.Live process ∧ view.cell.holder ≠ some process)
    (holder : new.cell.holder = none)
    (serviceStartup : new.cell.serviceStartup = view.cell.serviceStartup) : place.Holds new := by
  have attached : view.Attached → new.Attached := fun attached process now =>
    absurd (attached process (live process now).1) (live process now).2
  cases place with
  | rest => exact ⟨attached holds.1, fun _ => holder⟩
  | held claim =>
    exact ⟨attached holds.1, fun startup known => serviceStartup.trans (holds.2 startup known)⟩
  | removed | spawned => exact ⟨holder, fun other now => holds.2 other (live other now).1⟩
  | cleared => exact ⟨holder, fun process now => holds.2 process (live process now).1⟩

namespace Custody

variable {strict : Bool} {answered : Token → Prop} {phase : Custody} {system : ServiceSystem}
  {service : String}

/-- The exit that a monitor records takes no more from a strict task than it has. -/
theorem Holds.killTold (holds : phase.Holds strict answered (system.view service)) (now : Nat)
    (process : ProcessId) (exitCode signal : Option Int)
    (orphan : strict → (system.runtime service).processes[process]? = some .told →
      (system.actor.cells service).process = none) :
    phase.Holds strict answered
      ((system.killTold now service process exitCode signal).view service) := by
  by_cases told : (system.runtime service).processes[process]? = some .told
  swap
  · rw [show system.killTold now service process exitCode signal = system from if_neg told]
    exact holds
  rw [ServiceSystem.view_killTold now process exitCode signal told]
  have status : ((system.view service).cell.cancelHealthCheck.modifyState fun state =>
      { state with exitCode, signal, pid := none }).status = (system.view service).cell.status := by
    refine status_modifyState ?_
    exact fun _ => rfl
  have startup := serviceStartup_of_status status rfl
  cases strict with
  | false =>
    refine ⟨holds.place.dropped (fun other live => ?_) rfl startup, holds.known,
      fun impossible => by cases impossible⟩
    obtain ⟨live, unheld⟩ := live_of_droppedHandle notice_abortedCheck live
    exact ⟨live_setPhase (fun same => by cases same) live, unheld⟩
  | true =>
    have unheld : (system.view service).cell.process = none := orphan rfl told
    have runtime : ((system.runtime service).setPhase process .ended).absorbAll
        ((system.view service).cell.abortedCheck ++ (system.view service).cell.droppedHandle) =
        (system.runtime service).setPhase process .ended := by
      rw [droppedHandle, unheld]
      exact absorbAll_of_notices (forall_mem_append.mpr
        ⟨notice_abortedCheck, fun _ member => by cases member⟩)
    refine holds.drifts ⟨fun other live => ?_, fun reporting reports => ?_, ?_, rfl,
      congrArg (Option.any ServiceStatus.isRunning) status, startup, fun token registered =>
      ⟨registered, ?_⟩⟩ fun _ _ resolved => resolved
    · change (absorbAll (_ ++ _) _).Live other at live
      rw [runtime] at live
      exact live_setPhase (fun same => by cases same) live
    · change (absorbAll (_ ++ _) _).Reports reporting
      rw [runtime]
      by_cases same : reporting = process
      · subst same
        unfold ServiceRuntime.Reports ServiceRuntime.Live at reports
        rw [show (system.view service).runtime.processes[reporting]? = _ from told] at reports
        obtain live | ⟨_, _, exited⟩ | reported := reports
        · cases live
        · cases exited
        · exact .inr (.inr reported)
      · unfold ServiceRuntime.Reports ServiceRuntime.Live at reports ⊢
        rw [getElem?_setPhase_of_ne same]
        exact reports
    · exact (congrArg (Option.map ProcessHandle.process) unheld).symm
    · change _ → token ∈ (absorbAll (_ ++ _) _).dropped
      rw [runtime]
      exact id

end Custody

/-! ### Known services -/

namespace ServiceSystem

variable {system new : ServiceSystem} {service : String}

theorem Knows.step (known : system.Knows service) {input : ServiceActor.Input}
    (same : new.actor = system.actor.step input) : new.Knows service := by
  refine ⟨?_, ?_⟩
  · rw [same]
    exact isSome_state_step known.state input
  · rw [same, config_step]
    exact known.config

theorem Knows.of_actor (known : system.Knows service) (same : new.actor = system.actor) :
    new.Knows service := by
  refine ⟨?_, ?_⟩
  · rw [same]
    exact known.state
  · rw [same]
    exact known.config

theorem knows_create (configPath : String) {config : KeplerConfig}
    (startOrder : Option (List String)) (initialized : Bool) (restored : String → ServiceState)
    (member : service ∈ config.services) :
    (create configPath config startOrder initialized restored).Knows service := by
  refine ⟨?_, AList.lookup_isSome.mpr member⟩
  change (if service ∈ config.services then some (restored service) else none).isSome
  rw [if_pos member]
  rfl

theorem config_event (system : ServiceSystem) (event : Event) :
    (system.step event).actor.config = system.actor.config := by
  obtain same | ⟨input, same⟩ := system.actor_step event
  · rw [same]
  · rw [same, config_step]

theorem Knows.event (known : system.Knows service) (event : Event) :
    (system.step event).Knows service := by
  obtain same | ⟨input, same⟩ := system.actor_step event
  · exact known.of_actor same
  · exact known.step same

end ServiceSystem

end Kepler
