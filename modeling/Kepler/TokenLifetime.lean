/-
This file is about the tokens of one service: when all is quiet, none of them is registered any
more. There is no live process, no exit is left to be handled, no task works on the service, and
every guard that was dropped has been revoked.

A handler that has created a token for the next process gives up when the config cannot be computed
again, and nobody looks after the token.
-/

import Kepler.ProcessOwnership

namespace Kepler

open Runs

namespace ServiceSystem

variable {system : ServiceSystem} {service : String}

structure Quiet (service : String) (system : ServiceSystem) : Prop where
  dead : ∀ phase ∈ (system.runtime service).processes, phase = .told ∨ phase = .ended
  handled : (system.runtime service).exits = []
  idle : ∀ id < system.nextTask, ∀ task ∈ system.tasks id, task.service ≠ service
  revoked : (system.runtime service).dropped = []

def Unregistered (service : String) (system : ServiceSystem) : Prop :=
  ∀ entry ∈ system.store,
    ¬ (entry.2.service = service ∧ entry.2.configPath = system.configPath)

def Tended (service : String) (system : ServiceSystem) (event : Event) : Prop :=
  system.Serial service event ∧ system.Orderly service event

instance (service : String) (system : ServiceSystem) (event : Event) :
    Decidable (system.Tended service event) :=
  inferInstanceAs (Decidable (_ ∧ _))

theorem TakesTurns.atRest (turns : TakesTurns true service system) (quiet : system.Quiet service) :
    ∃ pending, system.AtRest true service pending := by
  obtain ⟨pending, atRest | ⟨id, task, phase, _, hasTurn⟩⟩ := turns.turn
  · exact ⟨pending, atRest⟩
  · have below := lt_nextTask turns.unused hasTurn.runs.1
    exact absurd hasTurn.runs.2 (quiet.idle id below task hasTurn.runs.1)

theorem Quiet.not_reports (quiet : system.Quiet service) (process : ProcessId) :
    ¬ (system.runtime service).Reports process := by
  have settled : ∀ phase, (system.runtime service).processes[process]? = some phase →
      phase = .told ∨ phase = .ended :=
    fun phase found => quiet.dead phase (List.mem_of_getElem? found)
  rintro (live | ⟨exitCode, signal, exited⟩ | ⟨exit, member, _⟩)
  · rcases settled _ live with impossible | impossible <;> cases impossible
  · rcases settled _ exited with impossible | impossible <;> cases impossible
  · rw [quiet.handled] at member
    cases member

/-- When all is quiet, nobody is left to look after a registered token. -/
theorem TakesTurns.unregistered (turns : TakesTurns true service system)
    (quiet : system.Quiet service) : system.Unregistered service := by
  rintro ⟨token, context⟩ member ⟨named, located⟩
  obtain ⟨pending, atRest⟩ := turns.atRest quiet
  have tokens := atRest.holds.tokens rfl
  obtain stored | owned | dropped := tokens.accounted token ⟨context, member, named, located⟩
  · obtain ⟨process, _, reports⟩ | answered | nothing := tokens.covered rfl token stored
    · exact quiet.not_reports process reports
    · obtain ⟨id, task, runs, _⟩ := answered
      exact quiet.idle id (lt_nextTask turns.unused runs.1) task runs.1 runs.2
    · exact nothing
  · cases owned
  · rw [show (system.view service).runtime.dropped = [] from quiet.revoked] at dropped
    cases dropped

/-- In every run in which the tokens of the service are looked after, no token of it is registered
when all is quiet. -/
theorem unregistered_run (configPath : String) (config : KeplerConfig)
    (startOrder : Option (List String)) (initialized : Bool) (restored : String → ServiceState)
    (service : String) (member : service ∈ config.services) (events : List Event)
    (tended : Meets step (Tended service)
      (create configPath config startOrder initialized restored) events)
    (quiet : Quiet service
      (run step (create configPath config startOrder initialized restored) events)) :
    Unregistered service
      (run step (create configPath config startOrder initialized restored) events) := by
  have keeps : ∀ system event, TakesTurns true service system → system.Tended service event →
      TakesTurns true service (system.step event) :=
    fun system event turns tended => takesTurns_step turns event tended.1 fun _ => tended.2
  have turns := invariant keeps tended
    (takesTurns_create configPath startOrder initialized restored member)
  exact turns.unregistered quiet

/-! ### A service with a token -/

def trustedWeb : ServiceConfig where
  command := ["web"]
  restart := .simple { flags := 1 }
  permissions := some { allow := [] }

def webContext : TokenContext where
  allow := ∅
  maxHardening := .none
  service := "web"
  configPath := "/kepler.yaml"
  authorizer := none

/-- What is decided outside when everything goes well for a service with a token. -/
def trusts (token : Token) : Choice :=
  { resolution := .ok ⟨trustedWeb, ""⟩, token := .ok (token, webContext) }

/-- A process with a token exits, and the exit is handled up to where the config is computed again:
the first token was revoked and another one registered. -/
def untilResolution : List Event :=
  [.begin "web" (.start true true)] ++ List.replicate 22 (.advance 0 (trusts 1)) ++
    [.exit "web" 0 (some 1) none, .report "web" 0, .deliver "web"] ++
    List.replicate 18 (.advance 1 (trusts 2))

def untilSuccess : List Event :=
  untilResolution ++ List.replicate 11 (.advance 1 (trusts 2)) ++
    [.exit "web" 1 (some 0) none, .report "web" 1, .deliver "web"] ++
    List.replicate 12 (.advance 2 (trusts 2))

theorem untilSuccess_unregistered : Unregistered "web"
    (run step (create "/kepler.yaml" retryingWeb none false fun _ => {}) untilSuccess) :=
  unregistered_run _ _ _ _ _ _ (by decide +kernel) _ (by decide +kernel)
    ⟨by decide +kernel, by decide +kernel, by decide +kernel, by decide +kernel⟩

/-- The config cannot be computed. All is quiet afterwards, and a token is registered. -/
theorem failedResolution_registered :
    Quiet "web" (run step (create "/kepler.yaml" retryingWeb none false fun _ => {})
      (untilResolution ++ [.advance 1 {}])) ∧
    ¬ Unregistered "web" (run step (create "/kepler.yaml" retryingWeb none false fun _ => {})
      (untilResolution ++ [.advance 1 {}])) := by
  refine ⟨⟨by decide +kernel, by decide +kernel, by decide +kernel, by decide +kernel⟩,
    fun unregistered => ?_⟩
  exact unregistered (2, webContext) (by decide +kernel) ⟨by decide +kernel, by decide +kernel⟩

end ServiceSystem

end Kepler
