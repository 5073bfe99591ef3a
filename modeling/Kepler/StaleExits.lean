/-
This file is about exits that are handled late, when there is a newer process of the service. The
handler does not know whose exit it handles: it takes the output tasks, the process handle, the pid,
the health check and the token that it finds, and it restarts a service that it finds running.

So it leaves the newer process alone only if there is nothing left to take: the newer process has
been stopped or its own exit has been handled.
-/

import Kepler.CustodyHolds

namespace Kepler

open Runs

/-- What belongs to the present process of a service: its handle with the output tasks, its pid, its
token, its health check, and the status. -/
structure Belongings where
  process : Option ProcessHandle
  pid : Option UInt32
  tokenGuard : Option Token
  session : Option HealthCheckSession
  status : Option ServiceStatus
  deriving DecidableEq

namespace ServiceCell

variable {cell : ServiceCell} {context : CommandContext}

def belongings (cell : ServiceCell) : Belongings where
  process := cell.process
  pid := cell.state.bind ServiceState.pid
  tokenGuard := cell.tokenGuard
  session := cell.session
  status := cell.status

/-- Nothing is left that belongs to a process, and the service is not about to have one. -/
structure Released (cell : ServiceCell) : Prop where
  process : cell.process = none
  pid : cell.state.bind ServiceState.pid = none
  tokenGuard : cell.tokenGuard = none
  session : cell.session = none
  inactive : Lifecycle.wasActivelyRunning cell.state = false

instance (cell : ServiceCell) : Decidable cell.Released :=
  decidable_of_iff (cell.process = none ∧ cell.state.bind ServiceState.pid = none ∧
      cell.tokenGuard = none ∧ cell.session = none ∧
      Lifecycle.wasActivelyRunning cell.state = false)
    ⟨fun ⟨process, pid, tokenGuard, session, inactive⟩ =>
        ⟨process, pid, tokenGuard, session, inactive⟩,
      fun released => ⟨released.process, released.pid, released.tokenGuard, released.session,
        released.inactive⟩⟩

end ServiceCell

/-! ### The operations of a late handler -/

/-- The task handles the exit of a process when there is a newer one. -/
def TaskKind.isLate : TaskKind → Bool
  | .exit _ late => late
  | .request _ => false

/-- The operations of a handler that finds nothing to take. -/
def Operation.isLookAround : Operation → Bool
  | .command .getServiceContext | .command (.emitEvent _) | .command .takeOutputTasks
  | .command (.recordProcessExit _ _) | .command (.takeMatchingTokenGuard _)
  | .command .getServiceState | .runHook _ => true
  | _ => false

def Operation.EmptyReply : (operation : Operation) → operation.Reply → Prop
  | .command .getServiceState => fun reply => Lifecycle.wasActivelyRunning reply = false
  | .command (.takeMatchingTokenGuard _) => fun reply => reply = none
  | _ => fun _ => True

namespace StaleExit

def protocol : Program.Protocol Operation.Reply Unit where
  Allowed _ operation := operation.isLookAround
  Next _ operation reply _ := operation.EmptyReply reply

abbrev Follows {Result : Type} (post : Except OrchestratorError Result → Unit → Prop)
    (program : Lifecycle Result) : Prop :=
  Program.Follows protocol post program ()

variable {Result : Type} {post : Except OrchestratorError Result → Unit → Prop}

theorem follows_operation {operation : Operation}
    {continuation : operation.Reply → Lifecycle Result} (allowed : operation.isLookAround)
    (rest : ∀ reply, operation.EmptyReply reply → Follows post (continuation reply)) :
    Follows post (Lifecycle.perform operation >>= continuation) :=
  ⟨allowed, fun reply _ told => rest reply told⟩

theorem follows_revokeMatching (token : Option Token) :
    Follows (fun _ _ => True) (Lifecycle.revokeMatching token) := by
  cases token with
  | none => exact trivial
  | some token =>
    refine follows_operation rfl fun taken told => ?_
    rw [told]
    exact trivial

/-- A handler that finds nothing to take ends without doing anything. -/
theorem follows_handleExit (service : String) (exitCode signal : Option Int) :
    Follows (fun _ _ => True) (Lifecycle.handleExit service exitCode signal) := by
  refine follows_operation rfl fun found _ => ?_
  cases found with
  | none => exact trivial
  | some context => ?_
  refine follows_operation rfl fun _ _ => follows_operation rfl fun _ _ => ?_
  refine follows_operation rfl fun _ _ => follows_operation rfl fun _ _ => ?_
  refine Program.follows_bind_of (follows_revokeMatching context.token)
    (fun _ _ _ => ?_) fun _ _ _ => trivial
  refine follows_operation rfl fun state told => ?_
  rw [told]
  exact trivial

end StaleExit

/-! ### What a late handler changes -/

namespace ServiceCell

variable {cell : ServiceCell} {context : CommandContext}

theorem belongings_recordProcessExit (released : cell.Released) (exitCode signal : Option Int) :
    (cell.recordProcessExit context exitCode signal).cell.belongings = cell.belongings := by
  have status : (cell.modifyState fun state => { state with exitCode, signal, pid := none }).status =
      cell.status := status_modifyState fun _ => rfl
  have pid : (cell.state.map fun state => { state with exitCode, signal, pid := none }).bind
      ServiceState.pid = none := by
    cases cell.state <;> rfl
  exact Belongings.mk.injEq .. |>.mpr ⟨released.process.symm, pid.trans released.pid.symm, rfl,
    released.session.symm, status⟩

theorem belongings_handle (released : cell.Released) {command : ServiceCommand}
    (looks : (Operation.command command).isLookAround) :
    (cell.handle context command).cell.belongings = cell.belongings ∧
      (Operation.command command).EmptyReply (cell.handle context command).reply := by
  cases command with
  | getServiceContext | emitEvent => exact ⟨rfl, trivial⟩
  | takeOutputTasks =>
    refine ⟨?_, trivial⟩
    have process : (cell.process.map fun handle =>
        { handle with stdoutTask := none, stderrTask := none }) = cell.process := by
      rw [released.process]
      rfl
    exact congrArg (Belongings.mk · _ _ _ _) process
  | recordProcessExit exitCode signal =>
    exact ⟨belongings_recordProcessExit released exitCode signal, trivial⟩
  | takeMatchingTokenGuard token =>
    have taken : cell.takeMatchingTokenGuard token = { cell, reply := none } := by
      rw [takeMatchingTokenGuard, released.tokenGuard, if_neg nofun]
    refine ⟨?_, ?_⟩
    · exact congrArg (fun outcome => (CellOutcome.cell outcome).belongings) taken
    · exact congrArg CellOutcome.reply taken
  | getServiceState => exact ⟨rfl, released.inactive⟩
  | _ => cases looks

end ServiceCell

namespace ServiceSystem

variable {system : ServiceSystem} {service : String}

theorem belongings_perform (released : (system.actor.cells service).Released) (choice : Choice)
    {operation : Operation} (looks : operation.isLookAround) :
    ((system.perform service choice operation).1.actor.cells service).belongings =
        (system.actor.cells service).belongings ∧
      (system.perform service choice operation).1.store = system.store ∧
      operation.EmptyReply (system.perform service choice operation).2 := by
  cases operation with
  | command command =>
    obtain ⟨same, told⟩ := ServiceCell.belongings_handle released looks
    refine ⟨?_, rfl, told⟩
    change ((system.actor.handle choice.now service command).actor.cells service).belongings = _
    rw [ServiceActor.cells_handle_self]
    exact same
  | runHook hook => exact ⟨rfl, rfl, trivial⟩
  | _ => cases looks

/-- The event leaves alone what belongs to the process that the service has now. -/
def Untouched (service : String) (system : ServiceSystem) (event : Event) : Prop :=
  ((system.step event).actor.cells service).belongings =
      (system.actor.cells service).belongings ∧
    (system.step event).store = system.store

instance (service : String) (system : ServiceSystem) (event : Event) :
    Decidable (system.Untouched service event) :=
  inferInstanceAs (Decidable (_ ∧ _))

/-- The event is a step of a task that handles an exit of the service late. An exit is late if there
is a newer process when it is received. Handlers that are under way by then are not covered. -/
def HandlesLate (service : String) (system : ServiceSystem) : Event → Prop
  | .advance id _ => ∃ task ∈ system.tasks id, task.service = service ∧ task.kind.isLate
  | _ => False

instance (service : String) (system : ServiceSystem) :
    (event : Event) → Decidable (system.HandlesLate service event)
  | .advance id _ => inferInstanceAs (Decidable (∃ task ∈ system.tasks id, _))
  | .begin _ _ | .exit _ _ _ _ | .report _ _ | .kill _ _ _ _ _ | .deliver _ | .revokeDropped _
  | .aside _ => isFalse id

/-- An exit is handled late only while the service has been released. -/
def Spares (service : String) (system : ServiceSystem) (event : Event) : Prop :=
  system.HandlesLate service event → (system.actor.cells service).Released

instance (service : String) (system : ServiceSystem) (event : Event) :
    Decidable (system.Spares service event) :=
  inferInstanceAs (Decidable (_ → _))

def LateFollow (service : String) (system : ServiceSystem) : Prop :=
  ∀ id task, system.Runs service id task → task.kind.isLate →
    StaleExit.Follows (fun _ _ => True) task.program

theorem lateFollow_step (follow : system.LateFollow service) {event : Event}
    (spares : system.Spares service event) : (system.step event).LateFollow service := by
  intro id task after late
  cases runs_step after with
  | kept runs => exact follow id task runs late
  | went before choice operation next runs program same =>
    rw [same] at late ⊢
    have follows := follow id before runs late
    rw [program] at follows
    have released := spares ⟨before, runs.1, runs.2, late⟩
    exact follows.2 _ () (belongings_perform released choice follows.1).2.2
  | begun request same =>
    rw [same] at late
    cases late
  | delivered process late exitCode signal same =>
    rw [same]
    exact StaleExit.follows_handleExit ..

theorem LateFollow.untouched (follow : system.LateFollow service) {event : Event}
    (spares : system.Spares service event) (late : system.HandlesLate service event) :
    system.Untouched service event := by
  have released := spares late
  cases event with
  | advance id choice =>
    obtain ⟨task, found, here, late⟩ := late
    have follows := follow id task ⟨found, here⟩ late
    change ((system.advance id choice).actor.cells service).belongings = _ ∧
      (system.advance id choice).store = _
    cases program : task.program with
    | done | fail =>
      rw [advance_of_ended found program rfl]
      exact ⟨rfl, rfl⟩
    | perform =>
      rw [program] at follows
      obtain ⟨same, store, _⟩ := belongings_perform released choice follows.1
      rw [advance_of_perform found program, here]
      exact ⟨same, store⟩
  | _ => cases late

/-- In every run in which exits are handled late only while the service has been released, the
handling of such an exit touches nothing that belongs to the newer process. -/
theorem untouched_run (configPath : String) (config : KeplerConfig)
    (startOrder : Option (List String)) (initialized : Bool) (restored : String → ServiceState)
    (service : String) (events : List Event) (event : Event)
    (spares : Meets step (Spares service)
      (create configPath config startOrder initialized restored) (events ++ [event]))
    (late : HandlesLate service
      (run step (create configPath config startOrder initialized restored) events) event) :
    Untouched service
      (run step (create configPath config startOrder initialized restored) events) event := by
  obtain ⟨before, last⟩ := (meets_concat _ _ _).mp spares
  have keeps : ∀ system event, LateFollow service system → Spares service system event →
      LateFollow service (system.step event) :=
    fun _ _ follow spares => lateFollow_step follow spares
  have follow := invariant keeps before fun _ _ runs => nomatch runs.1
  exact follow.untouched last late

/-! ### A service that is started again before an exit is handled -/

/-- A process exits. Before the exit is handled, the service is stopped and started again. -/
def untilSecondStart : List Event :=
  [.begin "web" (.start true true)] ++ works 0 20 ++
    [.exit "web" 0 (some 1) none, .report "web" 0, .begin "web" .stop] ++ works 1 14 ++
    [.begin "web" (.start true true)] ++ works 2 20

theorem untouched_afterStop : Untouched "web"
    (run step (create "/kepler.yaml" retryingWeb none false fun _ => {})
      (untilSecondStart ++ [.begin "web" .stop] ++ works 3 16 ++ [.deliver "web"] ++ works 4 3))
    (.advance 4 goesWell) :=
  untouched_run _ _ _ _ _ _ _ _ (by decide +kernel) (by decide +kernel)

/-- The handler of the first exit takes the handle of the second process, and later on it changes
the status of the service. -/
theorem secondProcess_touched :
    HandlesLate "web" (run step (create "/kepler.yaml" retryingWeb none false fun _ => {})
        (untilSecondStart ++ [.deliver "web"] ++ works 3 3)) (.advance 3 goesWell) ∧
      ¬ Untouched "web" (run step (create "/kepler.yaml" retryingWeb none false fun _ => {})
        (untilSecondStart ++ [.deliver "web"] ++ works 3 3)) (.advance 3 goesWell) ∧
      ¬ Untouched "web" (run step (create "/kepler.yaml" retryingWeb none false fun _ => {})
        (untilSecondStart ++ [.deliver "web"] ++ works 3 8)) (.advance 3 goesWell) :=
  ⟨by decide +kernel, by decide +kernel, by decide +kernel⟩

end ServiceSystem

end Kepler
