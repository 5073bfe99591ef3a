/-
This file is about the verdict of a waiting service that a dependency cannot come to meet the
condition any more (`wait_for_dependencies`), and about what becomes of the dependency afterwards
when no user touches it.

The verdict rests on two assumptions: a dependency at rest stays as it is, and a dependency that its
policy restarts never comes to rest as the condition asks. Both hold as long as the dependency is
left to its restart policy. A restart for another reason passes through a status of rest, the exit
of a process that was stopped may be recorded late, and a restart by the policy may fail.
-/

import Kepler.DependencyChecks
import Kepler.PolicyRestarts

namespace Kepler

open Runs ServiceState RestartPolicy Bool ServiceActor Option DependencyConfig ServiceStatus

/-! ### The verdict -/

theorem isConditionMet_congr {state other : ServiceState} (same : other.observed = state.observed)
    (entry : DependencyConfig) :
    isConditionMet other entry none = isConditionMet state entry none := by
  simp only [observed, Prod.mk.injEq] at same
  unfold isConditionMet holdsIn
  rw [same.1, same.2.1, same.2.2]
  rfl

theorem RestartConfig.shouldRestartOnExit_of_ne {exitCode : Option Int} (failed : exitCode ≠ some 0)
    (restart : RestartConfig) :
    restart.shouldRestartOnExit exitCode =
      restart.policy.contains RestartPolicy.onFailureFlag := by
  unfold shouldRestartOnExit RestartPolicy.shouldRestartOnExit
  split
  · exact absurd rfl failed
  · rfl

/-- When the policy makes the condition unreachable, a service that is left to its policy meets it
only until it is restarted. -/
theorem isTransientSatisfaction_of_unreachable {name : String} {entry : DependencyConfig}
    {restart : RestartConfig} {state : ServiceState}
    (unreachable : (isConditionUnreachableByPolicy name entry.condition restart.policy).isSome)
    (ordinary : state.isOrdinary (!entry.condition.isMetByFailure))
    (met : isConditionMet state entry none) : isTransientSatisfaction state restart := by
  have notSkipped : state.status ≠ .skipped := by
    intro skipped
    rw [isOrdinary, skipped] at ordinary
    cases ordinary
  rw [isConditionMet, if_neg notSkipped, any_none, Bool.not_false, Bool.and_true] at met
  rw [isTransientSatisfaction_eq]
  unfold isConditionUnreachableByPolicy at unreachable
  unfold holdsIn at met
  cases condition : entry.condition with
  | serviceFailed =>
    rw [condition] at unreachable ordinary met
    have onFailure : restart.policy.contains onFailureFlag := by
      by_contra off
      simp [off] at unreachable
    have exitCode : state.status.isExit ∧ state.exitCode ≠ some 0 := by
      obtain ⟨failure, _⟩ := and_eq_true_iff.mp met
      cases status : state.status <;> rw [isOrdinary, status] at ordinary <;>
        simp_all [isExit, DependencyCondition.isMetByFailure]
    rw [exitCode.1, RestartConfig.shouldRestartOnExit_of_ne exitCode.2, onFailure]
    rfl
  | serviceStopped =>
    rw [condition] at unreachable ordinary met
    have both : restart.policy.contains onFailureFlag ∧
        restart.policy.contains onSuccessFlag := by
      by_contra off
      simp [off] at unreachable
    have exited : state.status.isExit := by
      obtain ⟨ended, _⟩ := and_eq_true_iff.mp met
      cases status : state.status <;> rw [isOrdinary, status] at ordinary <;>
        simp_all [isExit, DependencyCondition.isMetByFailure]
    rw [exited, Bool.true_and]
    by_cases success : state.exitCode = some 0
    · rw [success]
      exact both.2
    · rw [RestartConfig.shouldRestartOnExit_of_ne success]
      exact both.1
  | serviceCompletedSuccessfully =>
    rw [condition] at unreachable ordinary met
    have onSuccess : restart.policy.contains onSuccessFlag := by
      by_contra off
      simp [off] at unreachable
    obtain ⟨ended, success⟩ := and_eq_true_iff.mp met
    have exited : state.status.isExit := by
      cases status : state.status <;> rw [isOrdinary, status] at ordinary <;>
        simp_all [isExit]
    rw [exited, of_decide_eq_true success]
    exact onSuccess
  | _ =>
    rw [condition] at unreachable
    cases unreachable

namespace ServiceActor

variable {actor : ServiceActor} {service : String} {startup : ServiceStartup} {name : String}
  {entry : DependencyConfig} {reason : String}

theorem givenUp_of_judge (judged : actor.judge service startup name entry =
      .error (.dependencyUnsatisfied service name entry.condition reason)) :
    ∃ state, (actor.cells name).state = some state ∧ isConditionMet state entry none = false ∧
      (state.status.isActive = false ∨ state.status.isRunning ∧
        ∃ restart, DependencyWait.writtenRestart actor.config name = some restart ∧
          (isConditionUnreachableByPolicy name entry.condition restart.policy).isSome) := by
  have valid : (actor.cells service).serviceStartup = some startup := by
    by_contra invalid
    cases (judge_of_invalid invalid).symm.trans judged
  have unmet : actor.isSatisfied name entry = false := by
    cases met : actor.isSatisfied name entry with
    | false => rfl
    | true => cases (judge_of_satisfied valid met).symm.trans judged
  have givenUp : actor.isGivenUp name entry = true := by
    cases kept : actor.isGivenUp name entry with
    | true => rfl
    | false => cases (judge_of_not_givenUp valid unmet kept).symm.trans judged
  obtain ⟨state, found, givenUp⟩ := (any_eq_true ..).mp givenUp
  rw [isSatisfied, found, any_some] at unmet
  refine ⟨state, found, unmet, ?_⟩
  rcases or_eq_true_iff.mp givenUp with skipped | judged
  · have skipped : state.status = .skipped :=
      of_decide_eq_true (and_eq_true_iff.mp skipped).1
    exact .inl (by rw [skipped]; rfl)
  · obtain ⟨restart, written, judged⟩ := (any_eq_true ..).mp judged
    rcases or_eq_true_iff.mp judged with atRest | restless
    · unfold isAtRest at atRest
      cases status : state.status <;> rw [status] at atRest <;>
        first | exact .inl rfl | cases atRest
    · obtain ⟨running, unreachable⟩ := and_eq_true_iff.mp restless
      exact .inr ⟨running, restart, written, unreachable⟩

end ServiceActor

/-! ### After the verdict -/

namespace ServiceSystem

/-- The dependency is not active and does not meet the condition, or its policy makes it
unreachable. -/
inductive Hopeless (name : String) (entry : DependencyConfig) (system : ServiceSystem) : Prop where
  | atRest (state : ServiceState) (found : (system.actor.cells name).state = some state)
      (inactive : state.status.isActive = false)
      (unmet : isConditionMet state entry none = false)
  | restless (state : ServiceState) (found : (system.actor.cells name).state = some state)
      (ordinary : state.isOrdinary (!entry.condition.isMetByFailure)) (restart : RestartConfig)
      (written : DependencyWait.writtenRestart system.actor.config name = some restart)
      (unreachable : (isConditionUnreachableByPolicy name entry.condition restart.policy).isSome)

variable {system : ServiceSystem} {name : String} {entry : DependencyConfig} {event : Event}

theorem hopeless_of_judge {service reason : String} {startup : ServiceStartup}
    (judged : system.actor.judge service startup name entry =
      .error (.dependencyUnsatisfied service name entry.condition reason)) :
    Hopeless name entry system := by
  obtain ⟨state, found, unmet, inactive | ⟨running, restart, written, unreachable⟩⟩ :=
    givenUp_of_judge judged
  · exact .atRest state found inactive unmet
  · exact .restless state found
      (isOrdinary_of_active (active_of_running running)) restart written
      unreachable

theorem Hopeless.isTransient (hopeless : Hopeless name entry system)
    (met : system.actor.isSatisfied name entry) : system.actor.isTransient name := by
  cases hopeless with
  | atRest state found _ unmet =>
    rw [isSatisfied, found, any_some, unmet] at met
    cases met
  | restless state found ordinary restart written unreachable =>
    rw [isSatisfied, found, any_some] at met
    rw [ServiceActor.isTransient, written, found]
    exact isTransientSatisfaction_of_unreachable unreachable ordinary met

theorem Hopeless.step (hopeless : Hopeless name entry system)
    (evolves : (system.actor.cells name).Evolves (!entry.condition.isMetByFailure)
      ((system.step event).actor.cells name)) : Hopeless name entry (system.step event) := by
  cases hopeless with
  | atRest state found inactive unmet =>
    obtain ⟨after, becomes, evolves⟩ := evolves state found
    have same := evolves.observed inactive
    refine .atRest after becomes ?_ ?_
    · rw [show after.status = state.status from congrArg Prod.fst same]
      exact inactive
    · rw [isConditionMet_congr same]
      exact unmet
  | restless state found ordinary restart written unreachable =>
    obtain ⟨after, becomes, evolves⟩ := evolves state found
    refine .restless after becomes (evolves.isOrdinary ordinary) restart ?_ unreachable
    rw [config_event]
    exact written

/-- In every run in which a dependency is left to its restart policy since a moment at which nobody
worked on it, a verdict that the condition cannot be met any more is right: from then on the
dependency meets the condition at most until it is restarted. -/
theorem not_lasting_run (configPath : String) (config : KeplerConfig)
    (startOrder : Option (List String)) (initialized : Bool) (restored : String → ServiceState)
    (service : String) (startup : ServiceStartup) (name : String) (entry : DependencyConfig)
    (reason : String) (start before after : List Event)
    (unattended : Unattended name
      (run step (create configPath config startOrder initialized restored) start))
    (left : Meets step (LeftToPolicy name entry)
      (run step (create configPath config startOrder initialized restored) start) before)
    (judged : (run step (create configPath config startOrder initialized restored)
        (start ++ before)).actor.judge service startup name entry =
      .error (.dependencyUnsatisfied service name entry.condition reason))
    (leftAfter : Meets step (LeftToPolicy name entry) (run step
      (create configPath config startOrder initialized restored) (start ++ before)) after) :
    ¬ ((run step (create configPath config startOrder initialized restored)
        (start ++ before ++ after)).actor.isSatisfied name entry ∧
      (run step (create configPath config startOrder initialized restored)
        (start ++ before ++ after)).actor.isTransient name = false) := by
  let Holds (system : ServiceSystem) : Prop :=
    system.Unused ∧ Attended (!entry.condition.isMetByFailure) name system
  have keeps : ∀ system event, Holds system → LeftToPolicy name entry system event →
      Holds (system.step event) := fun _ event holds left =>
    ⟨unused_step holds.1 event, (holds.2.step holds.1 rfl left).1⟩
  have keepsHopeless : ∀ system event, Holds system ∧ Hopeless name entry system →
      LeftToPolicy name entry system event →
      Holds (system.step event) ∧ Hopeless name entry (system.step event) :=
    fun system event holds left =>
      ⟨keeps system event holds.1 left, holds.2.step (holds.1.2.step holds.1.1 rfl left).2⟩
  have unused : Unused (run step (create configPath config startOrder initialized restored)
    start) := @always _ _ _ _ Unused (fun _ event unused => unused_step unused event) start
      fun _ _ => rfl
  have idle : Holds (run step (create ..) start) :=
    ⟨unused, .idle fun id task runs =>
      unattended id (lt_nextTask unused runs.1) task runs.1 runs.2⟩
  have judgedHolds := invariant keeps left idle
  rw [← run_append] at judgedHolds
  have final := invariant keepsHopeless leftAfter ⟨judgedHolds, hopeless_of_judge judged⟩
  rw [← run_append] at final
  rintro ⟨met, lasting⟩
  exact nomatch lasting.symm.trans (final.2.isTransient met)

/-! ### Verdicts that are not right -/

/-- A service that waits for another one, which has the given policy. -/
def waitingWeb (flags : UInt8) (condition : DependencyCondition) : ServiceSystem :=
  create "/kepler.yaml"
    { services := (AList.singleton "db" { restart := .static (.simple { flags }) }).insert "web"
        { dependsOn := [("db", { condition })] } } none false fun _ => {}

def dbGoesWell (flags : UInt8) : Choice :=
  { resolution := .ok ⟨{ command := ["db"], restart := .simple { flags },
                         healthcheck := some {} }, ""⟩ }

def dbWorks (flags : UInt8) (id count : Nat) : List Event :=
  List.replicate count (.advance id (dbGoesWell flags))

def untilWaiting (flags : UInt8) : List Event :=
  [.begin "db" (.start true true)] ++ dbWorks flags 0 23 ++
    [.begin "web" (.start true false), .advance 1 {}]

/-- The process of the other service fails, and the exit is about to be handled. -/
def dbFails : List Event :=
  [.exit "db" 0 (some 1) none, .report "db" 0, .deliver "db"]

theorem not_lasting_afterRestart :
    ¬ ((run step (waitingWeb 1 .serviceFailed)
        (untilWaiting 1 ++ [] ++ (dbFails ++ dbWorks 1 2 30))).actor.isSatisfied "db"
          { condition := .serviceFailed } ∧
      (run step (waitingWeb 1 .serviceFailed)
        (untilWaiting 1 ++ [] ++ (dbFails ++ dbWorks 1 2 30))).actor.isTransient "db" = false) :=
  not_lasting_run _ _ _ _ _ "web" ⟨1⟩ "db" { condition := .serviceFailed }
    ((isConditionUnreachableByPolicy "db" .serviceFailed { flags := 1 }).getD "")
    (untilWaiting 1) [] (dbFails ++ dbWorks 1 2 30) (by decide +kernel) trivial (by decide +kernel)
    (by decide +kernel)

/-- The waiting service gives up, and in the end the other one meets the condition for good. -/
def Misjudged (flags : UInt8) (condition : DependencyCondition) (before after : List Event) :
    Prop :=
  (∃ reason, (run step (waitingWeb flags condition) before).actor.judge "web" ⟨1⟩ "db"
      { condition } = .error (.dependencyUnsatisfied "web" "db" condition reason)) ∧
    (run step (waitingWeb flags condition) (before ++ after)).actor.isSatisfied "db"
      { condition } ∧
    (run step (waitingWeb flags condition) (before ++ after)).actor.isTransient "db" = false

/-- The other service was unhealthy and is stopped until its restart. -/
def untilBackoffOfDb : List Event :=
  untilWaiting 4 ++ [.aside (.healthResult 0 "db" ⟨1⟩ false 1), .begin "db" .unhealthy] ++
    dbWorks 4 2 11 ++ [.kill 0 "db" 0 none (some 15)] ++ dbWorks 4 2 5

/-- The other service is stopped when its process has just come to an end. -/
def untilLateStop : List Event :=
  untilWaiting 0 ++ [.exit "db" 0 (some 0) none, .report "db" 0, .begin "db" .stop] ++
    dbWorks 0 2 20

/-- The other service is healthy after a restart, its exit code is recorded after it was stopped, or
its restart fails. No user has touched it since the verdict. -/
theorem misjudged :
    Misjudged 4 .serviceHealthy untilBackoffOfDb
        (dbWorks 4 2 20 ++ [.aside (.healthResult 0 "db" ⟨2⟩ true 1)]) ∧
      Misjudged 0 .serviceCompletedSuccessfully untilLateStop ([.deliver "db"] ++ dbWorks 0 3 4) ∧
      Misjudged 1 .serviceFailed (untilWaiting 1)
        (dbFails ++ List.replicate 30 (.advance 2
          { dbGoesWell 1 with spawned := .error (.processSpawn "db" "out of memory") })) := by
  refine ⟨⟨⟨"dependency `db` stopped and won't restart, condition `service_healthy` can " ++
      "never be met", ?_⟩, ?_, ?_⟩,
    ⟨⟨"dependency `db` stopped and won't restart, condition `service_completed_successfully` " ++
      "can never be met", ?_⟩, ?_, ?_⟩,
    ⟨⟨(isConditionUnreachableByPolicy "db" .serviceFailed { flags := 1 }).getD "", ?_⟩, ?_, ?_⟩⟩
  all_goals decide +kernel

end ServiceSystem

end Kepler
