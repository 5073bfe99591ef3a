/-
This file shows when a stop is final. At the moment when a stop sets a service to stopped, every
other task on it must be one that will notice: it has not begun, or it is a startup that looks at
its claim again before it spawns a process. From then on, and as long as there is no request to
start the service, it gets no process and no other status.

An automatic restart looks at the status once, and then it waits, runs hooks and computes the config
before it spawns a process.
-/

import Kepler.CustodyDrift
import Kepler.StopRules

namespace Kepler

open Runs StopPhase ServiceSystem ServiceCell List ServiceActor

/-! ### What a stopped service stays -/

theorem ServiceRuntime.length_absorbAll (effects : List Effect) (runtime : ServiceRuntime) :
    (runtime.absorbAll effects).processes.length = runtime.processes.length := by
  induction effects generalizing runtime with
  | nil => rfl
  | cons effect rest inductionHypothesis =>
    change ((runtime.absorb effect).absorbAll rest).processes.length = _
    rw [inductionHypothesis]
    cases effect with
    | droppedHandle handle => exact length_modify ..
    | _ => rfl

namespace ServiceCell

variable {cell : ServiceCell} {context : CommandContext}

section

variable (stopped : cell.status = some .stopped)

include stopped

theorem isRunning_of_stopped : cell.isRunning = false := by
  rw [isRunning, stopped]
  rfl

theorem serviceStartup_of_stopped : cell.serviceStartup = none := by
  rw [serviceStartup, if_neg]
  rw [stopped]
  decide

theorem status_handle_of_stopped {command : ServiceCommand} (harmless : command.revives = false) :
    (cell.handle context command).cell.status = some .stopped := by
  by_cases other : command.entersStatus = false
  · obtain same | ⟨running, _⟩ := (@keepsClaim_handle cell context command other).status
    · exact same.trans stopped
    · rw [isRunning_of_stopped stopped] at running
      cases running
  cases command with
  | transitionServiceStartup startup status =>
    change (cell.transitionServiceStartup ..).cell.status = _
    rw [transitionServiceStartup, if_neg]
    · exact stopped
    · rw [serviceStartup_of_stopped stopped]
      exact nofun
  | setServiceStatus status =>
    obtain ⟨state, known, _⟩ := Option.map_eq_some_iff.mp stopped
    rw [← bne_eq_false_iff_eq.mp harmless]
    exact (setStatus_of_state known context.now status).1
  | _ => first | exact absurd rfl other | cases harmless

theorem stoppedReply_handle (command : ServiceCommand) :
    command.StoppedReply (cell.handle context command).reply := by
  cases command with
  | getServiceState => exact stopped
  | isServiceRunning => exact isRunning_of_stopped stopped
  | getServiceStartup => exact serviceStartup_of_stopped stopped
  | _ => exact trivial

end

end ServiceCell

namespace ServiceSystem

variable {system new : ServiceSystem} {service : String} {id : Nat} {task : RunningTask}

/-- The service was stopped, with a number of processes spawned until then. -/
structure Stopped (service : String) (count : Nat) (system : ServiceSystem) : Prop where
  status : (system.actor.cells service).status = some .stopped
  processes : (system.runtime service).processes.length = count

variable {count : Nat} {operation : Operation}

section

variable (stopped : system.Stopped service count)

include stopped

theorem Stopped.withRuntime (other : String) (change : ServiceRuntime → ServiceRuntime)
    (length : (change (system.runtime other)).processes.length =
      (system.runtime other).processes.length) :
    (system.withRuntime other change).Stopped service count := by
  refine ⟨stopped.status, ?_⟩
  by_cases same : service = other
  · subst same
    rw [runtime_withRuntime_self, length]
    exact stopped.processes
  · rw [runtime_withRuntime_of_ne same]
    exact stopped.processes

theorem Stopped.command (now : Nat) (other : String) {command : ServiceCommand}
    (harmless : other = service → command.revives = false) :
    (system.command now other command).1.Stopped service count := by
  have handled : Stopped service count
      { system with actor := (system.actor.handle now other command).actor } := by
    refine ⟨?_, stopped.processes⟩
    by_cases same : service = other
    · subst same
      rw [cells_handle_self]
      exact status_handle_of_stopped stopped.status (harmless rfl)
    · rw [cells_handle_of_ne _ _ same]
      exact stopped.status
  exact handled.withRuntime other _ (ServiceRuntime.length_absorbAll ..)

theorem Stopped.perform (other : String) (choice : Choice)
    (harmless : other = service → operation.revives = false) :
    (system.perform other choice operation).1.Stopped service count := by
  cases operation with
  | command command => exact stopped.command choice.now other harmless
  | createToken =>
    unfold perform
    cases choice.token <;> exact ⟨stopped.status, stopped.processes⟩
  | spawnProcess =>
    have different : service ≠ other := fun same => nomatch harmless same.symm
    unfold perform
    cases choice.spawned with
    | ok pid =>
      refine ⟨stopped.status, ?_⟩
      rw [runtime_withRuntime_of_ne different]
      exact stopped.processes
    | error => exact stopped
  | killProcess => exact stopped.withRuntime other _ length_set
  | requestShutdown => exact stopped.withRuntime other _ (length_modify ..)
  | _ => exact ⟨stopped.status, stopped.processes⟩

theorem Stopped.answers (choice : Choice) (operation : Operation) :
    operation.StoppedReply (system.perform service choice operation).2 := by
  cases operation with
  | command command => exact stoppedReply_handle stopped.status command
  | _ => exact trivial

end

/-! ### Steps -/

structure StaysStopped (service : String) (count : Nat) (system : ServiceSystem) : Prop where
  stopped : system.Stopped service count
  follows : ∀ id task, system.Runs service id task →
    StopPhase.Follows task.kind.early (fun _ _ => True) task.program .stopped

theorem StaysStopped.advance (stays : system.StaysStopped service count) (id : Nat)
    (choice : Choice) : (system.advance id choice).Stopped service count := by
  have stopped := stays.stopped
  cases found : system.tasks id with
  | none =>
    rw [show system.advance id choice = system by simp only [ServiceSystem.advance, found]]
    exact stopped
  | some task =>
    cases program : task.program with
    | done | fail =>
      rw [advance_of_ended found program rfl]
      exact ⟨stopped.status, stopped.processes⟩
    | perform operation next =>
      have performed : (system.perform task.service choice operation).1.Stopped service count := by
        refine stopped.perform task.service choice fun here => ?_
        have follows := stays.follows id task ⟨found, here⟩
        rw [program] at follows
        exact follows.1 rfl
      rw [advance_of_perform found program]
      exact ⟨performed.status, performed.processes⟩

theorem Stopped.aside (stopped : system.Stopped service count) (input : Aside) :
    (system.step (.aside input)).Stopped service count := by
  refine ⟨?_, stopped.processes⟩
  by_cases clears : input = .config .clearResolvedConfigs
  · subst clears
    exact stopped.status
  · have same : (system.actor.cells service).SameButHealth
        ((system.actor.step input.input).cells service) := sameButHealth_aside clears
    obtain status | ⟨running, _⟩ := same.status
    · exact status.trans stopped.status
    · rw [isRunning_of_stopped stopped.status] at running
      cases running

theorem StaysStopped.stopped_step (stays : system.StaysStopped service count) (event : Event) :
    (system.step event).Stopped service count := by
  have stopped := stays.stopped
  cases event with
  | begin =>
    change ServiceSystem.Stopped service count (if _ then _ else _)
    split
    · exact ⟨stopped.status, stopped.processes⟩
    · exact stopped
  | advance id choice => exact stays.advance id choice
  | exit other =>
    change (system.exitProcess ..).Stopped service count
    unfold exitProcess
    split
    · exact stopped.withRuntime other _ length_set
    · exact stopped.withRuntime other _ length_set
    · exact stopped
  | report other =>
    change (system.reportExit ..).Stopped service count
    unfold reportExit
    split
    · exact stopped.withRuntime other _ length_set
    · exact stopped
  | kill now other =>
    change (system.killTold ..).Stopped service count
    unfold killTold
    split
    · exact (stopped.withRuntime other _ length_set).command now other fun _ => rfl
    · exact stopped
  | deliver other =>
    change (system.deliverExit other).Stopped service count
    unfold deliverExit
    split
    · exact stopped
    · next exit rest _ =>
      have delivered := stopped.withRuntime other
        (fun runtime => { runtime with exits := rest }) rfl
      exact ⟨delivered.status, delivered.processes⟩
  | revokeDropped other =>
    change (system.revokeFirstDropped other).Stopped service count
    unfold revokeFirstDropped
    split
    · exact stopped
    · next token rest _ =>
      have revoked : (system.revoke token).Stopped service count :=
        ⟨stopped.status, stopped.processes⟩
      exact revoked.withRuntime other (fun runtime => { runtime with dropped := rest }) rfl
  | aside input => exact stopped.aside input

def Event.starts (service : String) : Event → Bool
  | .begin other request => other == service && request.starts
  | _ => false

theorem StaysStopped.step (stays : system.StaysStopped service count) {event : Event}
    (other : event.starts service = false) : (system.step event).StaysStopped service count := by
  refine ⟨stays.stopped_step event, fun id task after => ?_⟩
  cases runs_step after with
  | kept runs => exact stays.follows id task runs
  | went before choice operation next runs program same =>
    have follows := stays.follows id before runs
    rw [program] at follows
    rw [same]
    exact follows.2 _ .stopped ⟨nofun, stays.stopped.answers choice operation⟩
  | begun request same =>
    rw [same]
    refine follows_program_stopped service ?_
    simpa [Event.starts] using other
  | delivered process late exitCode signal same =>
    rw [same]
    exact follows_handleExit_stopped ..

/-! ### The moment of the stop -/

/-- Every task keeps to the rules, and one that has not begun will notice a stop unless it is a
startup. -/
structure Heeds (service : String) (system : ServiceSystem) : Prop where
  known : system.Knows service
  unused : ∀ id, system.nextTask ≤ id → system.tasks id = none
  follows : ∀ id task, system.Runs service id task →
    StopPhase.Follows task.kind.early (fun _ _ => True) task.program .nothing
  fresh : ∀ id task, system.Runs service id task → task.fresh → task.kind.starts = false →
    StopPhase.Follows task.kind.early (fun _ _ => True) task.program .stopped

/-- The task is a stop that is about to set the service to stopped. -/
def Stops (service : String) (system : ServiceSystem) (id : Nat) : Prop :=
  ∃ task ∈ system.tasks id, task.service = service ∧ task.kind.isStop ∧
    task.nextOperation.any Operation.setsStopped

/-- All other tasks on the service are going to notice the stop. An exit handler that has begun is
not admitted, even if it has not read the status yet. -/
def Unopposed (service : String) (system : ServiceSystem) (id : Nat) : Prop :=
  ∀ other < system.nextTask, other ≠ id → ∀ task ∈ system.tasks other, task.service = service →
    task.fresh ∧ task.kind.starts = false ∨ task.nextOperation.any task.kind.early

instance (service : String) (system : ServiceSystem) (id : Nat) :
    Decidable (system.Stops service id) :=
  inferInstanceAs (Decidable (∃ task ∈ system.tasks id, _))

instance (service : String) (system : ServiceSystem) (id : Nat) :
    Decidable (system.Unopposed service id) :=
  inferInstanceAs (Decidable (∀ other < system.nextTask, _))

theorem Heeds.overtaken (heeds : system.Heeds service) {stop : Nat}
    (unopposed : system.Unopposed service stop) (different : id ≠ stop)
    (runs : system.Runs service id task) :
    StopPhase.Follows task.kind.early (fun _ _ => True) task.program .stopped := by
  obtain ⟨fresh, other⟩ | isEarly :=
    unopposed id (lt_nextTask heeds.unused runs.1) different task runs.1 runs.2
  · exact heeds.fresh id task runs fresh other
  · obtain ⟨operation, next, program, isEarly⟩ := RunningTask.of_any_nextOperation isEarly
    have follows := heeds.follows id task runs
    rw [program] at follows ⊢
    exact follows_overtaken isEarly follows

theorem stopped_of_setsStopped (sets : operation.setsStopped) (known : system.Knows service)
    (choice : Choice) :
    (system.perform service choice operation).1.Stopped service
      (system.runtime service).processes.length := by
  cases operation with
  | command command =>
    cases command with
    | setServiceStatus status =>
      obtain rfl := beq_iff_eq.mp sets
      obtain ⟨state, found⟩ := Option.isSome_iff_exists.mp known.state
      refine ⟨?_, ?_⟩
      · change ((system.actor.handle choice.now service _).actor.cells service).status = _
        rw [cells_handle_self]
        exact (setStatus_of_state found choice.now .stopped).1
      · change ((withRuntime _ service _).runtime service).processes.length = _
        rw [runtime_withRuntime_self]
        exact ServiceRuntime.length_absorbAll ..
    | _ => cases sets
  | _ => cases sets

theorem Heeds.stop (heeds : system.Heeds service) (stops : system.Stops service id)
    (unopposed : system.Unopposed service id) (choice : Choice) :
    (system.step (.advance id choice)).StaysStopped service
      (system.runtime service).processes.length := by
  obtain ⟨task, found, here, isStop, sets⟩ := stops
  obtain ⟨operation, next, program, sets⟩ := RunningTask.of_any_nextOperation sets
  have isEarly := early_of_isStop isStop sets
  have follows := heeds.follows id task ⟨found, here⟩
  rw [program] at follows
  have stopped := stopped_of_setsStopped sets heeds.known choice
  refine ⟨?_, fun other otherTask after => ?_⟩
  · change (system.advance id choice).Stopped service _
    rw [advance_of_perform found program, here]
    exact ⟨stopped.status, stopped.processes⟩
  · cases runs_step after with
    | kept runs =>
      by_cases same : other = id
      · subst same
        cases runs.1.symm.trans found
        rw [program]
        exact follows_overtaken isEarly follows
      · exact heeds.overtaken unopposed same runs
    | went before choice acted continuation runs acts same =>
      cases runs.1.symm.trans found
      rw [program] at acts
      cases acts
      rw [same]
      exact follows.2 _ .stopped
        ⟨fun _ => isEarly, stoppedReply_of_setsStopped sets _⟩

/-! ### Runs -/

theorem heeds_create (configPath : String) {config : KeplerConfig}
    (startOrder : Option (List String)) (initialized : Bool) (restored : String → ServiceState)
    (member : service ∈ config.services) :
    (create configPath config startOrder initialized restored).Heeds service where
  known := knows_create configPath startOrder initialized restored member
  unused := fun _ _ => rfl
  follows := fun _ _ runs => nomatch runs.1
  fresh := fun _ _ runs => nomatch runs.1

theorem Heeds.step (heeds : system.Heeds service) (event : Event) :
    (system.step event).Heeds service where
  known := heeds.known.event event
  unused := unused_step heeds.unused event
  follows := fun id task after => by
    cases runs_step after with
    | kept runs => exact heeds.follows id task runs
    | went before choice operation next runs program same =>
      have follows := heeds.follows id before runs
      rw [program] at follows
      rw [same]
      exact follows.2 _ .nothing rfl
    | begun request same =>
      rw [same]
      exact follows_program ..
    | delivered process late exitCode signal same =>
      rw [same]
      exact follows_of_never fun _ => rfl
  fresh := fun id task after fresh other => by
    cases runs_step after with
    | kept runs => exact heeds.fresh id task runs fresh other
    | went before choice operation next runs program same =>
      rw [same] at fresh
      cases fresh
    | begun request same =>
      rw [same] at other ⊢
      exact follows_program_stopped service other
    | delivered process late exitCode signal same =>
      rw [same]
      exact follows_handleExit_stopped ..

/-- The event spawns a process of the service, or it sets the service to running. -/
def Revives (service : String) (system : ServiceSystem) (event : Event) : Prop :=
  (system.runtime service).processes.length <
      ((system.step event).runtime service).processes.length ∨
    ((system.step event).actor.cells service).status = some .running

instance (service : String) (system : ServiceSystem) (event : Event) :
    Decidable (system.Revives service event) :=
  inferInstanceAs (Decidable (_ ∨ _))

theorem StaysStopped.not_revives (stays : system.StaysStopped service count) (event : Event) :
    ¬ system.Revives service event := by
  have stopped := stays.stopped_step event
  rintro (spawns | runs)
  · rw [stopped.processes, stays.stopped.processes] at spawns
    exact Nat.lt_irrefl _ spawns
  · rw [stopped.status] at runs
    cases runs

theorem StaysStopped.run (stays : system.StaysStopped service count) {later : List Event}
    (noRequest : ∀ event ∈ later, event.starts service = false) :
    (Runs.run ServiceSystem.step system later).StaysStopped service count := by
  have keeps : ∀ system event, StaysStopped service count system →
      event.starts service = false → StaysStopped service count (system.step event) :=
    fun _ _ stays other => stays.step other
  exact invariant keeps (meets_of_forall system noRequest) stays

/-- In every run in which a stop sets the service to stopped while all other tasks on it are going
to notice, the service is stopped, and no event revives it later on as long as there is no request
to start it. -/
theorem stop_final (configPath : String) (config : KeplerConfig)
    (startOrder : Option (List String)) (initialized : Bool) (restored : String → ServiceState)
    (service : String) (member : service ∈ config.services) (events : List Event) (id : Nat)
    (choice : Choice) (later : List Event) (event : Event)
    (stops : Stops service
      (run step (create configPath config startOrder initialized restored) events) id)
    (unopposed : Unopposed service
      (run step (create configPath config startOrder initialized restored) events) id)
    (noRequest : ∀ other ∈ later, other.starts service = false) :
    ((run step (create configPath config startOrder initialized restored)
        (events ++ [.advance id choice])).actor.cells service).status = some .stopped ∧
      ¬ Revives service (run step (create configPath config startOrder initialized restored)
        (events ++ .advance id choice :: later)) event := by
  have keeps : ∀ system event, Heeds service system → Heeds service (system.step event) :=
    fun _ event heeds => heeds.step event
  have heeds := always keeps events
    (heeds_create configPath startOrder initialized restored member)
  have stays := heeds.stop stops unopposed choice
  rw [run_concat, run_append_cons]
  exact ⟨stays.stopped.status, (stays.run noRequest).not_revives event⟩

/-- A service is stopped while the config for its first process is computed. -/
def stopDuringStart : List Event :=
  [.begin "web" (.start true true)] ++ works 0 4 ++ [.begin "web" .stop] ++ works 1 8

theorem stopDuringStart_final :
    ((run step (create "/kepler.yaml" retryingWeb none false fun _ => {})
        (stopDuringStart ++ [.advance 1 goesWell])).actor.cells "web").status = some .stopped ∧
      ¬ Revives "web" (run step (create "/kepler.yaml" retryingWeb none false fun _ => {})
        (stopDuringStart ++ .advance 1 goesWell :: works 0 4)) (.advance 0 goesWell) :=
  stop_final _ _ _ _ _ _ (by decide +kernel) _ _ _ _ _ (by decide +kernel) (by decide +kernel)
    (by decide +kernel)

/-- A service is stopped while the exit of its process is handled. -/
def stopDuringBackoff : List Event := untilBackoff ++ [.begin "web" .stop] ++ works 2 8

/-- The stop has set the service to stopped. Without a request to start it, the handler goes on: it
spawns a process and sets the service to running. -/
theorem stopDuringBackoff_revives :
    Stops "web" (run step (create "/kepler.yaml" retryingWeb none false fun _ => {})
        stopDuringBackoff) 2 ∧
      ((run step (create "/kepler.yaml" retryingWeb none false fun _ => {})
        (stopDuringBackoff ++ [.advance 2 goesWell])).actor.cells "web").status = some .stopped ∧
      (∀ other ∈ works 1 11, other.starts "web" = false) ∧
      Revives "web" (run step (create "/kepler.yaml" retryingWeb none false fun _ => {})
        (stopDuringBackoff ++ .advance 2 goesWell :: works 1 8)) (.advance 1 goesWell) ∧
      Revives "web" (run step (create "/kepler.yaml" retryingWeb none false fun _ => {})
        (stopDuringBackoff ++ .advance 2 goesWell :: works 1 11)) (.advance 1 goesWell) := by
  refine ⟨by decide +kernel, by decide +kernel, by decide +kernel, by decide +kernel,
    by decide +kernel⟩

end ServiceSystem

end Kepler
