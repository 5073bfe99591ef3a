/-
This file is about the processes of one service: when tasks take turns, the service never has two
live processes, and a process handle that is stored takes the place of no other.

Without turns both fail. A task that waits before it restarts a service does not look again at the
status afterwards, so that it restarts a service that was stopped and started in the meantime.
-/

import Kepler.Turns

namespace Kepler

open Runs

def Operation.storesHandle : Operation → Bool
  | .command (.storeProcessHandle _) => true
  | _ => false

namespace ServiceSystem

variable {strict : Bool} {system : ServiceSystem} {service : String}

def OneLive (service : String) (system : ServiceSystem) : Prop :=
  ∀ first second, (system.runtime service).Live first → (system.runtime service).Live second →
    first = second

def HoldsLive (service : String) (system : ServiceSystem) : Prop :=
  ∃ process ∈ (system.actor.cells service).holder, (system.runtime service).Live process

instance (service : String) (system : ServiceSystem) : Decidable (system.HoldsLive service) :=
  inferInstanceAs (Decidable (∃ process ∈ _, _))

/-- The event stores a process handle in place of the one of a live process. -/
def DiscardsLive (service : String) (system : ServiceSystem) : Event → Prop
  | .advance id _ => (∃ task ∈ system.tasks id, task.service = service ∧
      task.nextOperation.any Operation.storesHandle) ∧ system.HoldsLive service
  | _ => False

instance (service : String) (system : ServiceSystem) :
    (event : Event) → Decidable (system.DiscardsLive service event)
  | .advance _ _ => inferInstanceAs (Decidable (_ ∧ _))
  | .begin _ _ | .exit _ _ _ _ | .report _ _ | .kill _ _ _ _ _ | .deliver _ | .revokeDropped _
  | .aside _ => isFalse id

theorem oneLive_of_place {place : Place} (holds : place.Holds (system.view service)) :
    system.OneLive service := by
  intro first second firstLive secondLive
  have attached : (system.view service).Attached → first = second := fun attached =>
    Option.some.inj ((attached first firstLive).symm.trans (attached second secondLive))
  cases place with
  | rest | held => exact attached holds.1
  | removed | spawned => exact (holds.2 first firstLive).trans (holds.2 second secondLive).symm
  | cleared => exact absurd firstLive (holds.2 first)

theorem TakesTurns.oneLive (turns : TakesTurns strict service system) : system.OneLive service := by
  obtain ⟨pending, atRest | ⟨id, task, phase, _, hasTurn⟩⟩ := turns.turn
  · exact oneLive_of_place atRest.holds.place
  · exact oneLive_of_place hasTurn.holds.place

/-- A task stores only the handle of a process it has just spawned, when the actor has none. -/
theorem TakesTurns.not_discardsLive (turns : TakesTurns strict service system) {event : Event}
    (serial : system.Serial service event) : ¬ system.DiscardsLive service event := by
  cases event with
  | advance =>
    rintro ⟨⟨task, found, here, stores⟩, process, held, _⟩
    obtain ⟨operation, next, program, stores⟩ := RunningTask.of_any_nextOperation stores
    obtain ⟨pending, phase, hasTurn⟩ := turns.hasTurn_of_serial ⟨found, here⟩ serial
    have follows := hasTurn.follows
    rw [program] at follows
    cases operation with
    | command command =>
      cases command with
      | storeProcessHandle handle =>
        have placed := hasTurn.holds.place
        rw [follows.1] at placed
        have unheld : (system.actor.cells service).holder = none := placed.1
        rw [unheld] at held
        cases held
      | _ => cases stores
    | _ => cases stores
  | _ => exact id

/-- In every run in which tasks on the service take turns, the service never has two live processes,
and no handle of a live process is discarded. -/
theorem oneLive_run (configPath : String) (config : KeplerConfig)
    (startOrder : Option (List String)) (initialized : Bool) (restored : String → ServiceState)
    (service : String) (member : service ∈ config.services) (events : List Event)
    (serial : Meets step (Serial service)
      (create configPath config startOrder initialized restored) events) :
    OneLive service (run step (create configPath config startOrder initialized restored) events) ∧
      ∀ event,
        Serial service (run step (create configPath config startOrder initialized restored) events)
          event →
        ¬ DiscardsLive service
          (run step (create configPath config startOrder initialized restored) events) event := by
  have keeps : ∀ system event, TakesTurns false service system → system.Serial service event →
      TakesTurns false service (system.step event) :=
    fun system event turns serial => takesTurns_step turns event serial nofun
  have turns := invariant keeps serial
    (takesTurns_create configPath startOrder initialized restored member)
  exact ⟨turns.oneLive, fun event => turns.not_discardsLive⟩

theorem oneLive_restart : OneLive "web" (run step (create "/kepler.yaml" retryingWeb none false
      fun _ => {}) (untilBackoff ++ works 1 16)) ∧
    ∀ event, Serial "web" (run step (create "/kepler.yaml" retryingWeb none false fun _ => {})
        (untilBackoff ++ works 1 16)) event →
      ¬ DiscardsLive "web" (run step (create "/kepler.yaml" retryingWeb none false fun _ => {})
        (untilBackoff ++ works 1 16)) event :=
  oneLive_run _ _ _ _ _ _ (by decide +kernel) _ (by decide +kernel)

/-- While an exit is handled, the service is stopped and started again. Then the handler goes on and
spawns a process. -/
def restartAfterStart : List Event :=
  untilBackoff ++ [.begin "web" .stop] ++ works 2 12 ++ [.begin "web" (.start true true)] ++
    works 3 20 ++ works 1 9

/-- There are two live processes, and the handle of one of them is about to be discarded. -/
theorem restartAfterStart_twoLive :
    ¬ OneLive "web" (run step (create "/kepler.yaml" retryingWeb none false fun _ => {})
      restartAfterStart) ∧
    DiscardsLive "web" (run step (create "/kepler.yaml" retryingWeb none false fun _ => {})
      (restartAfterStart ++ works 1 1)) (.advance 1 goesWell) := by
  refine ⟨fun one => ?_, ?_⟩
  · have same := one 1 2 (by decide +kernel) (by decide +kernel)
    cases same
  · decide +kernel

end ServiceSystem

end Kepler
