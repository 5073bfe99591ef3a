/-
This file models a loaded config at work: the actor with its services, the tasks that run operations
on them, the processes with their monitors, and the token store.

A task takes one operation at a time, and between any two of its operations every other part of the
system may take steps. A monitor waits for the exit of its process or for a request to shut it down.
A process handle that is dropped counts as such a request.
-/

import Kepler.Lifecycles

namespace Kepler

open Function

/-! ### Processes and their monitors -/

/-- A process as its monitor sees it: it runs, it has exited and the exit will be reported, it was
told to shut down, or the monitor has ended. -/
inductive ProcessPhase where
  | running
  | exited (exitCode signal : Option Int)
  | told
  | ended
  deriving DecidableEq, Repr

/-- `ProcessExitEvent`, with the number of the process, which the source does not have. -/
structure ExitReport where
  process : ProcessId
  exitCode : Option Int
  signal : Option Int
  deriving DecidableEq, Repr

/-- What goes on outside the actor for a service: its processes, the exits that are not handled yet,
and the dropped guards that are not revoked yet. -/
structure ServiceRuntime where
  processes : List ProcessPhase := []
  exits : List ExitReport := []
  dropped : List Token := []
  deriving DecidableEq, Repr

namespace ServiceRuntime

/-- A request to shut down reaches a monitor that is still waiting. -/
def tell (process : ProcessId) (runtime : ServiceRuntime) : ServiceRuntime :=
  { runtime with processes := runtime.processes.modify process fun phase =>
      if phase = .running then .told else phase }

def setPhase (process : ProcessId) (phase : ProcessPhase) (runtime : ServiceRuntime) :
    ServiceRuntime :=
  { runtime with processes := runtime.processes.set process phase }

/-- The process has neither exited nor been told to shut down. -/
def Live (runtime : ServiceRuntime) (process : ProcessId) : Prop :=
  runtime.processes[process]? = some .running

instance (runtime : ServiceRuntime) (process : ProcessId) : Decidable (runtime.Live process) :=
  inferInstanceAs (Decidable (_ = _))

def absorb (effect : Effect) (runtime : ServiceRuntime) : ServiceRuntime :=
  match effect with
  | .droppedHandle handle => runtime.tell handle.process
  | .droppedGuard token => { runtime with dropped := runtime.dropped ++ [token] }
  | .notified _ | .aborted _ => runtime

/-- What happens when several things go away, one after the other. -/
def absorbAll (effects : List Effect) (runtime : ServiceRuntime) : ServiceRuntime :=
  effects.foldl (fun runtime effect => runtime.absorb effect) runtime

end ServiceRuntime

/-! ### Tasks -/

/-- The operations on a service that a user asks for or that the daemon starts by itself. -/
inductive ServiceRequest where
  | start (skipCondition noDeps : Bool)
  | restart (states : List RestartState) (skipCondition noDeps : Bool)
  | stop
  | fileChange
  | unhealthy
  | propagate (dependency : String)

def ServiceRequest.program (service : String) : ServiceRequest → Lifecycle Unit
  | start skipCondition noDeps => Lifecycle.startService service skipCondition noDeps
  | restart states skipCondition noDeps =>
    Lifecycle.restartService service states skipCondition noDeps
  | stop => Lifecycle.stopService
  | fileChange => Lifecycle.handleFileChange service
  | unhealthy => Lifecycle.handleUnhealthyRestart service
  | propagate dependency => Lifecycle.propagateRestart service dependency

/-- A task works on a request, or it handles an exit: a late one when a newer process of the service
is there. -/
inductive TaskKind where
  | request (request : ServiceRequest)
  | exit (process : ProcessId) (late : Bool)

/-- A task with what is left of its program. A fresh one has not begun. -/
structure RunningTask where
  service : String
  kind : TaskKind
  program : Lifecycle Unit
  fresh : Bool := true

def RunningTask.goOn (task : RunningTask) (program : Lifecycle Unit) : Option RunningTask :=
  match program with
  | Program.done _ | Program.fail _ => none
  | Program.perform _ _ => some { task with program, fresh := false }

def RunningTask.nextOperation (task : RunningTask) : Option Operation :=
  match task.program with
  | Program.done _ | Program.fail _ => none
  | Program.perform operation _ => some operation

/-! ### The system -/

structure ServiceSystem where
  configPath : String
  actor : ServiceActor
  runtime : String → ServiceRuntime := fun _ => {}
  store : TokenStore := []
  tasks : Nat → Option RunningTask := fun _ => none
  nextTask : Nat := 0

/-- What is decided outside the system when an operation is performed. -/
structure Choice where
  now : Nat := 0
  outcome : Except OrchestratorError Unit := .ok ()
  resolution : Except OrchestratorError Resolution := .error .serviceContextNotFound
  token : Except OrchestratorError (Token × TokenContext) := .error .serviceContextNotFound
  spawned : Except DaemonError (Option UInt32) := .ok none
  cleared : Except DaemonError Unit := .ok ()
  task : TaskHandle := 0

namespace ServiceSystem

variable (system : ServiceSystem)

def withRuntime (service : String) (change : ServiceRuntime → ServiceRuntime) : ServiceSystem :=
  { system with
    runtime := Function.update system.runtime service (change (system.runtime service)) }

/-- A command to the actor, with what it sets free. -/
def command (now : Nat) (service : String) (command : ServiceCommand) :
    ServiceSystem × command.Reply :=
  let handled := system.actor.handle now service command
  ({ system with actor := handled.actor }.withRuntime service
      (ServiceRuntime.absorbAll handled.effects), handled.reply)

/-- `TokenStore`, without the registrations of a token. -/
def revoke (token : Token) : ServiceSystem :=
  { system with store := system.store.filter fun entry => entry.1 ≠ token }

def register (service : String) (token : Token) (context : TokenContext) : ServiceSystem :=
  let context := { context with service, configPath := system.configPath }
  { system with store := system.store.register token context }

def nextProcess (service : String) : ProcessId := (system.runtime service).processes.length

def perform (service : String) (choice : Choice) :
    (operation : Operation) → ServiceSystem × operation.Reply
  | .command command => system.command choice.now service command
  | .runHook _ => (system, choice.outcome)
  | .resolveService => (system, choice.resolution)
  | .createToken _ =>
    match choice.token with
    | .ok (token, context) => (system.register service token context, .ok token)
    | .error error => (system, .error error)
  | .revokeToken token => (system.revoke token, ())
  | .spawnProcess =>
    match choice.spawned with
    | .ok pid =>
      (system.withRuntime service fun runtime =>
          { runtime with processes := runtime.processes ++ [.running] },
        .ok ⟨{ process := system.nextProcess service, stdoutTask := some choice.task,
               stderrTask := some choice.task }, pid, choice.now⟩)
    | .error error => (system, .error error)
  | .killProcess process => (system.withRuntime service (·.setPhase process .ended), ())
  | .requestShutdown process => (system.withRuntime service (·.tell process), ())
  | .awaitShutdown _ => (system, ())
  | .clearProcessOutputs => (system, choice.cleared)
  | .spawnTask => (system, choice.task)
  | .awaitDependencies => (system, choice.outcome)
  | .awaitDependencyRestart => (system, ())
  | .sleep => (system, ())
  | .backoff => (system, choice.outcome)

/-! ### Events -/

/-- Inputs to the actor from health checkers, requests about the whole config, and receivers of
events. -/
inductive Aside where
  | healthEvent (now : Nat) (service : String) (session : HealthCheckSession) (event : ServiceEvent)
  | healthResult (now : Nat) (service : String) (session : HealthCheckSession) (passed : Bool)
      (retries : Nat)
  | config (command : ConfigCommand)
  | received (service : String)
  | receiverDropped (service : String)
  | watcherFinished (service : String)

def Aside.input : Aside → ServiceActor.Input
  | healthEvent now service session event =>
    .service now service (.emitHealthCheckEvent session event)
  | healthResult now service session passed retries =>
    .service now service (.updateHealthCheck session passed retries)
  | config command => .config command
  | received service => .received service
  | receiverDropped service => .receiverDropped service
  | watcherFinished service => .watcherFinished service

inductive Event where
  /-- An operation on a service of the config begins. -/
  | begin (service : String) (request : ServiceRequest)
  /-- A task performs its next operation. -/
  | advance (task : Nat) (choice : Choice)
  /-- A process exits by itself. -/
  | exit (service : String) (process : ProcessId) (exitCode signal : Option Int)
  /-- The monitor of a process that exited reports the exit. -/
  | report (service : String) (process : ProcessId)
  /-- The monitor of a process that was told to shut down kills it and records the exit. -/
  | kill (now : Nat) (service : String) (process : ProcessId) (exitCode signal : Option Int)
  /-- The first exit that was reported is handled. -/
  | deliver (service : String)
  /-- The first dropped guard is revoked. -/
  | revokeDropped (service : String)
  | aside (input : Aside)

def spawnTask (task : RunningTask) : ServiceSystem :=
  { system with
    tasks := Function.update system.tasks system.nextTask (some task)
    nextTask := system.nextTask + 1 }

def advance (id : Nat) (choice : Choice) : ServiceSystem :=
  match system.tasks id with
  | none => system
  | some task =>
    match task.program with
    | Program.done _ | Program.fail _ =>
      { system with tasks := Function.update system.tasks id none }
    | Program.perform operation next =>
      let performed := system.perform task.service choice operation
      { performed.1 with
        tasks := Function.update system.tasks id (task.goOn (next performed.2)) }

def exitProcess (service : String) (process : ProcessId) (exitCode signal : Option Int) :
    ServiceSystem :=
  match (system.runtime service).processes[process]? with
  | some .running | some .told =>
    system.withRuntime service (·.setPhase process (.exited exitCode signal))
  | _ => system

def reportExit (service : String) (process : ProcessId) : ServiceSystem :=
  match (system.runtime service).processes[process]? with
  | some (.exited exitCode signal) => system.withRuntime service fun runtime =>
      { runtime.setPhase process .ended with
        exits := runtime.exits ++ [⟨process, exitCode, signal⟩] }
  | _ => system

/-- The end of a monitor that was told to shut its process down. -/
def killTold (now : Nat) (service : String) (process : ProcessId) (exitCode signal : Option Int) :
    ServiceSystem :=
  if (system.runtime service).processes[process]? = some .told then
    ((system.withRuntime service (·.setPhase process .ended)).command now service
      (.recordProcessExit exitCode signal)).1
  else system

def deliverExit (service : String) : ServiceSystem :=
  match (system.runtime service).exits with
  | [] => system
  | exit :: rest =>
    let late := decide (exit.process + 1 < (system.runtime service).processes.length)
    (system.withRuntime service fun runtime => { runtime with exits := rest }).spawnTask
      { service, kind := .exit exit.process late
        program := Lifecycle.handleExit service exit.exitCode exit.signal }

def revokeFirstDropped (service : String) : ServiceSystem :=
  match (system.runtime service).dropped with
  | [] => system
  | token :: rest =>
    (system.revoke token).withRuntime service fun runtime => { runtime with dropped := rest }

def step : Event → ServiceSystem
  | .begin service request =>
    if (system.actor.cells service).state.isSome then
      system.spawnTask { service, kind := .request request, program := request.program service }
    else system
  | .advance task choice => system.advance task choice
  | .exit service process exitCode signal => system.exitProcess service process exitCode signal
  | .report service process => system.reportExit service process
  | .kill now service process exitCode signal =>
    system.killTold now service process exitCode signal
  | .deliver service => system.deliverExit service
  | .revokeDropped service => system.revokeFirstDropped service
  | .aside input => { system with actor := system.actor.step input.input }

def create (configPath : String) (config : KeplerConfig) (startOrder : Option (List String))
    (initialized : Bool) (restored : String → ServiceState) : ServiceSystem :=
  { configPath, actor := ServiceActor.create config startOrder initialized restored }

/-! ### What an event leaves as it is -/

end ServiceSystem

namespace RunningTask

variable {task : RunningTask} {operation : Operation} {next : operation.Reply → Lifecycle Unit}
  {accepts : Operation → Bool}

theorem of_any_nextOperation (accepted : task.nextOperation.any accepts) :
    ∃ operation next, task.program = Program.perform operation next ∧ accepts operation := by
  unfold nextOperation at accepted
  cases program : task.program with
  | perform operation next =>
    rw [program] at accepted
    exact ⟨operation, next, rfl, accepted⟩
  | _ =>
    rw [program] at accepted
    cases accepted

theorem any_nextOperation (program : task.program = Program.perform operation next)
    (accepted : accepts operation) : task.nextOperation.any accepts := by
  unfold nextOperation
  rw [program]
  exact accepted

end RunningTask

namespace ServiceSystem

variable (system : ServiceSystem) {event : Event}

def Runs (system : ServiceSystem) (service : String) (id : Nat) (task : RunningTask) : Prop :=
  system.tasks id = some task ∧ task.service = service

section

variable {system} {service : String} {id : Nat} {task : RunningTask} {left : Option RunningTask}
  {new : ServiceSystem}

theorem tasks_perform (other : String) (choice : Choice) (operation : Operation) :
    (system.perform other choice operation).1.tasks = system.tasks ∧
      (system.perform other choice operation).1.nextTask = system.nextTask := by
  cases operation with
  | createToken =>
    unfold perform
    cases choice.token <;> exact ⟨rfl, rfl⟩
  | spawnProcess =>
    unfold perform
    cases choice.spawned <;> exact ⟨rfl, rfl⟩
  | _ => exact ⟨rfl, rfl⟩

theorem cells_perform_of_ne {other : String} (different : service ≠ other) (choice : Choice)
    (operation : Operation) :
    (system.perform other choice operation).1.actor.cells service =
      system.actor.cells service := by
  cases operation with
  | command command => exact ServiceActor.cells_handle_of_ne _ _ different command
  | createToken =>
    unfold perform
    cases choice.token <;> rfl
  | spawnProcess =>
    unfold perform
    cases choice.spawned <;> rfl
  | _ => rfl

theorem advance_of_perform {operation : Operation} {next : operation.Reply → Lifecycle Unit}
    (found : system.tasks id = some task)
    (program : task.program = Program.perform operation next) (choice : Choice) :
    system.advance id choice =
      { (system.perform task.service choice operation).1 with
        tasks := Function.update system.tasks id
          (task.goOn (next (system.perform task.service choice operation).2)) } := by
  simp only [advance, found, program]

theorem advance_of_ended {ended : Lifecycle Unit} (found : system.tasks id = some task)
    (program : task.program = ended) (nothingLeft : task.goOn ended = none) (choice : Choice) :
    system.advance id choice =
      { system with tasks := Function.update system.tasks id none } := by
  cases ended with
  | perform => cases nothingLeft
  | done | fail => simp only [advance, found, program]

theorem goOn_eq_some {program : Lifecycle Unit} {left : RunningTask}
    (goesOn : task.goOn program = some left) :
    left.service = task.service ∧ left.kind = task.kind := by
  cases program with
  | perform =>
    cases goesOn
    exact ⟨rfl, rfl⟩
  | _ => cases goesOn

/-- A step of a task: at most one operation on its service, and a change of this task only. -/
theorem advance_cases (found : system.tasks id = some task) (choice : Choice) :
    ∃ new left, system.advance id choice =
        { new with tasks := Function.update system.tasks id left } ∧
      (new = system ∨ ∃ operation, new = (system.perform task.service choice operation).1) ∧
      ∀ following, left = some following →
        following.service = task.service ∧ following.kind = task.kind := by
  cases program : task.program with
  | done | fail =>
    exact ⟨system, none, advance_of_ended found program rfl choice, .inl rfl, nofun⟩
  | perform operation next =>
    exact ⟨_, _, advance_of_perform found program choice, .inr ⟨operation, rfl⟩,
      fun following goesOn => goOn_eq_some goesOn⟩

theorem nextTask_advance (id : Nat) (choice : Choice) :
    (system.advance id choice).nextTask = system.nextTask := by
  cases found : system.tasks id with
  | none => simp only [advance, found]
  | some task => ?_
  obtain ⟨new, left, same, worked, _⟩ := advance_cases found choice
  rw [same]
  obtain rfl | ⟨operation, rfl⟩ := worked
  · rfl
  · exact (tasks_perform ..).2

theorem runs_of_update (tasks : new.tasks = Function.update system.tasks id left) {other : Nat}
    (different : other ≠ id) (otherTask : RunningTask) :
    new.Runs service other otherTask ↔ system.Runs service other otherTask := by
  unfold Runs
  rw [tasks, update_of_ne different]

/-- The numbers of the tasks that are still to come are not in use. -/
def Unused (system : ServiceSystem) : Prop := ∀ id, system.nextTask ≤ id → system.tasks id = none

theorem lt_nextTask (unused : system.Unused) (found : system.tasks id = some task) :
    id < system.nextTask := by
  by_contra above
  rw [unused id (Nat.le_of_not_lt above)] at found
  cases found

theorem Unused.same (unused : system.Unused)
    (same : new.tasks = system.tasks ∧ new.nextTask = system.nextTask) : new.Unused := by
  rw [Unused, same.1, same.2]
  exact unused

theorem unused_update (unused : system.Unused) (found : system.tasks id = some task)
    (tasks : new.tasks = Function.update system.tasks id left)
    (next : new.nextTask = system.nextTask) : new.Unused := by
  intro other above
  rw [next] at above
  have different : other ≠ id := fun same => by
    have below := lt_nextTask unused found
    omega
  rw [tasks, update_of_ne different]
  exact unused other above

end

theorem frame_exitProcess (service : String) (process : ProcessId) (exitCode signal : Option Int) :
    (system.exitProcess service process exitCode signal).actor = system.actor ∧
      (system.exitProcess service process exitCode signal).tasks = system.tasks ∧
      (system.exitProcess service process exitCode signal).nextTask = system.nextTask := by
  unfold exitProcess
  split <;> exact ⟨rfl, rfl, rfl⟩

theorem frame_reportExit (service : String) (process : ProcessId) :
    (system.reportExit service process).actor = system.actor ∧
      (system.reportExit service process).tasks = system.tasks ∧
      (system.reportExit service process).nextTask = system.nextTask := by
  unfold reportExit
  split <;> exact ⟨rfl, rfl, rfl⟩

theorem frame_revokeFirstDropped (service : String) :
    (system.revokeFirstDropped service).actor = system.actor ∧
      (system.revokeFirstDropped service).tasks = system.tasks ∧
      (system.revokeFirstDropped service).nextTask = system.nextTask := by
  unfold revokeFirstDropped
  split <;> exact ⟨rfl, rfl, rfl⟩

theorem tasks_killTold (now : Nat) (service : String) (process : ProcessId)
    (exitCode signal : Option Int) :
    (system.killTold now service process exitCode signal).tasks = system.tasks ∧
      (system.killTold now service process exitCode signal).nextTask = system.nextTask := by
  unfold killTold
  split <;> exact ⟨rfl, rfl⟩

section

variable {system} {id : Nat}

theorem unused_spawnTask (unused : system.Unused) (task : RunningTask) :
    (system.spawnTask task).Unused := by
  intro id above
  have beyond : system.nextTask + 1 ≤ id := above
  have different : id ≠ system.nextTask := by omega
  exact (update_of_ne different ..).trans (unused id (by omega))

/-- New tasks get new numbers. -/
theorem unused_step (unused : system.Unused) (event : Event) : (system.step event).Unused := by
  cases event with
  | begin =>
    rw [step]
    split
    · exact unused_spawnTask unused _
    · exact unused
  | advance id choice =>
    change (system.advance id choice).Unused
    cases found : system.tasks id with
    | none =>
      rw [show system.advance id choice = system by simp only [advance, found]]
      exact unused
    | some task =>
      have next := @nextTask_advance system id choice
      obtain ⟨new, left, same, _⟩ := advance_cases found choice
      rw [same] at next ⊢
      exact unused_update unused found rfl next
  | deliver =>
    rw [step, deliverExit]
    split
    · exact unused
    · exact unused_spawnTask unused _
  | exit => exact unused.same (frame_exitProcess ..).2
  | report => exact unused.same (frame_reportExit ..).2
  | revokeDropped => exact unused.same (frame_revokeFirstDropped ..).2
  | kill => exact unused.same (tasks_killTold ..)
  | aside input => exact unused

theorem actor_perform (other : String) (choice : Choice) (operation : Operation) :
    (system.perform other choice operation).1.actor = system.actor ∨
      ∃ input, (system.perform other choice operation).1.actor = system.actor.step input := by
  cases operation with
  | command command => exact .inr ⟨.service choice.now other command, rfl⟩
  | createToken =>
    unfold perform
    cases choice.token <;> exact .inl rfl
  | spawnProcess =>
    unfold perform
    cases choice.spawned <;> exact .inl rfl
  | _ => exact .inl rfl

theorem actor_step (event : Event) :
    (system.step event).actor = system.actor ∨
      ∃ input, (system.step event).actor = system.actor.step input := by
  cases event with
  | begin =>
    rw [step]
    split <;> exact .inl rfl
  | advance id choice =>
    change (system.advance id choice).actor = _ ∨ ∃ input, (system.advance id choice).actor = _
    cases found : system.tasks id with
    | none => exact .inl (by simp only [advance, found])
    | some task => ?_
    obtain ⟨new, left, same, rfl | ⟨operation, rfl⟩, _⟩ := advance_cases found choice
    · rw [same]
      exact .inl rfl
    · rw [same]
      exact actor_perform ..
  | deliver service =>
    change (system.deliverExit service).actor = _ ∨ ∃ input, (system.deliverExit service).actor = _
    unfold deliverExit
    split <;> exact .inl rfl
  | exit => exact .inl (frame_exitProcess ..).1
  | report => exact .inl (frame_reportExit ..).1
  | revokeDropped => exact .inl (frame_revokeFirstDropped ..).1
  | kill now service =>
    rw [step, killTold]
    split
    · exact .inr ⟨.service now service (.recordProcessExit ..), rfl⟩
    · exact .inl rfl
  | aside input => exact .inr ⟨input.input, rfl⟩

theorem tasks_step_of_other (used : id < system.nextTask)
    (other : ∀ choice, event ≠ .advance id choice) :
    (system.step event).tasks id = system.tasks id := by
  have old : id ≠ system.nextTask := Nat.ne_of_lt used
  cases event with
  | begin =>
    rw [step]
    split
    · exact update_of_ne old ..
    · rfl
  | advance name choice =>
    have different : id ≠ name := by
      rintro rfl
      exact other choice rfl
    change (system.advance ..).tasks id = _
    cases found : system.tasks name with
    | none => simp only [advance, found]
    | some task =>
      obtain ⟨new, left, same, _⟩ := advance_cases found choice
      rw [same]
      exact update_of_ne different ..
  | deliver =>
    rw [step, deliverExit]
    split
    · rfl
    · exact update_of_ne old ..
  | exit => exact congrFun (frame_exitProcess ..).2.1 id
  | report => exact congrFun (frame_reportExit ..).2.1 id
  | revokeDropped => exact congrFun (frame_revokeFirstDropped ..).2.1 id
  | kill => exact congrFun (tasks_killTold ..).1 id
  | aside input => rfl

end

/-- A task that runs after an event ran before, has performed an operation, or is new. -/
inductive Origin (service : String) (id : Nat) (task : RunningTask) : Event → Prop where
  | kept {event : Event} (runs : system.Runs service id task) : Origin service id task event
  | went (before : RunningTask) (choice : Choice) (operation : Operation)
      (next : operation.Reply → Lifecycle Unit) (runs : system.Runs service id before)
      (program : before.program = Program.perform operation next)
      (same : task = { before with
        program := next (system.perform service choice operation).2, fresh := false }) :
      Origin service id task (.advance id choice)
  | begun (request : ServiceRequest)
      (same : task = { service, kind := .request request, program := request.program service }) :
      Origin service id task (.begin service request)
  | delivered (process : ProcessId) (late : Bool) (exitCode signal : Option Int)
      (same : task = { service, kind := .exit process late,
                       program := Lifecycle.handleExit service exitCode signal }) :
      Origin service id task (.deliver service)

section

variable {system} {service : String} {id : Nat} {task : RunningTask}

theorem Runs.of_tasks {new : ServiceSystem} (runs : new.Runs service id task)
    (same : new.tasks = system.tasks) : system.Runs service id task :=
  ⟨same ▸ runs.1, runs.2⟩

theorem runs_spawnTask {added : RunningTask}
    (runs : (system.spawnTask added).Runs service id task) :
    system.Runs service id task ∨ task = added := by
  by_cases newest : id = system.nextTask
  · subst newest
    have found := (update_self ..).symm.trans runs.1
    exact .inr (Option.some.inj found).symm
  · exact .inl ((runs_of_update rfl newest task).mp runs)

theorem runs_advance {other : Nat} {choice : Choice}
    (runs : (system.advance other choice).Runs service id task) :
    system.Origin service id task (.advance other choice) := by
  cases found : system.tasks other with
  | none =>
    rw [advance, found] at runs
    exact .kept runs
  | some before =>
    by_cases same : id = other
    · subst same
      cases program : before.program with
      | done | fail =>
        rw [advance_of_ended found program rfl] at runs
        cases (update_self ..).symm.trans runs.1
      | perform operation next =>
        rw [advance_of_perform found program] at runs
        have goesOn := (update_self ..).symm.trans runs.1
        have here : before.service = service := (goOn_eq_some goesOn).1.symm.trans runs.2
        rw [here] at goesOn
        refine .went before choice operation next ⟨found, here⟩ program ?_
        generalize next (system.perform ..).2 = left at goesOn
        cases left with
        | perform => exact (Option.some.inj goesOn).symm
        | _ => cases goesOn
    · obtain ⟨new, left, changed, _⟩ := advance_cases found choice
      rw [changed] at runs
      exact .kept ((runs_of_update rfl same task).mp runs)

theorem runs_step (runs : (system.step event).Runs service id task) :
    system.Origin service id task event := by
  cases event with
  | begin other request =>
    change ServiceSystem.Runs (if _ then _ else _) service id task at runs
    split at runs
    · obtain before | rfl := runs_spawnTask runs
      · exact .kept before
      · cases runs.2
        exact .begun request rfl
    · exact .kept runs
  | advance => exact runs_advance runs
  | deliver other =>
    change (system.deliverExit other).Runs service id task at runs
    unfold deliverExit at runs
    split at runs
    · exact .kept runs
    · obtain before | rfl := runs_spawnTask runs
      · exact .kept before
      · cases runs.2
        exact .delivered _ _ _ _ rfl
  | exit => exact .kept (runs.of_tasks (frame_exitProcess ..).2.1)
  | report => exact .kept (runs.of_tasks (frame_reportExit ..).2.1)
  | revokeDropped => exact .kept (runs.of_tasks (frame_revokeFirstDropped ..).2.1)
  | kill => exact .kept (runs.of_tasks (tasks_killTold ..).1)
  | aside input => exact .kept runs

end

/-! ### A service that is restarted -/

def retryingWeb : KeplerConfig :=
  { services := AList.singleton "web" { restart := .static (.simple { flags := 1 }) } }

def goesWell : Choice :=
  { resolution := .ok ⟨{ command := ["web"], restart := .simple { flags := 1 } }, ""⟩ }

def works (id count : Nat) : List Event := List.replicate count (.advance id goesWell)

/-- A first process is spawned and exits, and the task that handles the exit begins to wait before
it restarts the service. -/
def untilBackoff : List Event :=
  [.begin "web" (.start true true)] ++ works 0 20 ++
    [.exit "web" 0 (some 1) none, .report "web" 0, .deliver "web"] ++ works 1 9

end ServiceSystem

end Kepler
