/-
This file is about the report of a failure that nobody handles. The actor reports it to those who
listen when the service enters the failed status, and `forward_state_events` reports it to a later
listener, who is served by a look at the states of the services.

A failure is what satisfies the condition `service_failed` without a filter for exit codes. It is
unhandled when the restart policy does not bring the service back and no service depends on the
failure. Both reports leave out a service that has exited without an exit code. The later one asks
the policy as it is written, and is only given for the services that the listener follows.
-/

import Kepler.StatusSignals

namespace Kepler

open Runs ServiceState

/-! ### The two reports -/

/-- The statuses and exit codes that are reported as failures. -/
def isReportedFailure (status : ServiceStatus) (exitCode : Option Int) : Bool :=
  match status with
  | .failed | .killed => true
  | .exited => exitCode.any fun code => code != 0
  | _ => false

/-- A process has exited, but its exit code is not known. -/
def ServiceState.isUncodedExit (state : ServiceState) : Bool :=
  state.status = .exited && state.exitCode.isNone

namespace ServiceActor

variable {actor : ServiceActor} {name : String}

/-- The failure that `forward_state_events` reports to a listener when it comes to a service. A
listener follows all services or some. -/
def replayFailure (actor : ServiceActor) (services : Option (List String)) (name : String) :
    Option (Option Int) := do
  let raw ← actor.config.services.lookup name
  let state ← (actor.cells name).state
  if services.all (fun followed => name ∈ followed) &&
      isReportedFailure state.status state.exitCode &&
      !Kepler.restartFollows state.status state.exitCode (raw.restart.asStatic.getD default) &&
      !isFailureHandled actor.config.services name then
    some state.exitCode
  else none

/-- The failure satisfies `service_failed`, the policy does not bring the service back, and no
service depends on it. -/
def hasUnhandledFailure (actor : ServiceActor) (name : String) : Bool :=
  (actor.cells name).state.any (fun state =>
      isConditionMet state { condition := .serviceFailed } none &&
        !actor.restartFollows name state.status state.exitCode) &&
    !isFailureHandled actor.config.services name

def Reports (actor : ServiceActor) (input : Input) (name : String) : Prop :=
  ∃ exitCode, .notified (.unhandledFailure name exitCode) ∈ actor.effects input

def Announces (actor : ServiceActor) (input : Input) (name : String) : Prop :=
  ∃ status, .notified (.statusChange name status) ∈ actor.effects input

/-! ### Reports to those who listen -/

theorem isConditionMet_serviceFailed (state : ServiceState) :
    isConditionMet state { condition := .serviceFailed } none =
      (isReportedFailure state.status state.exitCode || state.isUncodedExit) := by
  unfold isConditionMet DependencyConfig.holdsIn isReportedFailure isUncodedExit
  cases state.status with
  | exited =>
    cases state.exitCode with
    | none => rfl
    | some code => simp [ExitCodeFilter.accepts, bne]
  | _ => rfl

variable {state : ServiceState} {input : Input}

theorem hasUnhandledFailure_iff (found : (actor.cells name).state = some state) :
    actor.hasUnhandledFailure name ↔
      (isReportedFailure state.status state.exitCode ∨ state.isUncodedExit) ∧
        actor.restartFollows name state.status state.exitCode = false ∧
        isFailureHandled actor.config.services name = false := by
  rw [hasUnhandledFailure, found]
  simp [isConditionMet_serviceFailed, and_assoc]

theorem mem_failureEvents_iff (found : (actor.cells name).state = some state) :
    (∃ exitCode,
        .notified (.unhandledFailure name exitCode) ∈ actor.failureEvents name state.status) ↔
      isReportedFailure state.status state.exitCode ∧
        actor.restartFollows name state.status state.exitCode = false ∧
        isFailureHandled actor.config.services name = false := by
  have same : actor.failureEvents name state.status =
      if isReportedFailure state.status state.exitCode &&
          !actor.restartFollows name state.status state.exitCode &&
          !isFailureHandled actor.config.services name then
        [.notified (.unhandledFailure name state.exitCode)]
      else [] := by
    unfold failureEvents
    rw [found]
    rfl
  simp only [same, List.mem_ite_nil_right, List.mem_singleton, Bool.and_eq_true,
    Bool.not_eq_true', exists_and_left, Effect.notified.injEq, ConfigEvent.unhandledFailure.injEq,
    true_and, exists_eq, and_true, and_assoc]

theorem not_reports_of_not_entered
    (other : ∀ status, actor.signalTo input name ≠ some (.entered status)) :
    ¬ actor.Reports input name := by
  rintro ⟨exitCode, member⟩
  obtain ⟨status, told, _⟩ := unhandledFailure_mem_effects_iff.mp member
  exact other status told

theorem not_hasUnhandledFailure_of_isRunning (found : (actor.cells name).state = some state)
    (running : state.status.isRunning) : ¬ actor.hasUnhandledFailure name := by
  rw [hasUnhandledFailure_iff found]
  rintro ⟨failed, _⟩
  unfold isReportedFailure isUncodedExit at failed
  cases status : state.status <;> simp_all [ServiceStatus.isRunning]

theorem reports_of_entered {after : ServiceState}
    (told : actor.signalTo input name = some (.entered after.status))
    (becomes : ((actor.step input).cells name).state = some after) :
    actor.Reports input name ↔ isReportedFailure after.status after.exitCode ∧
      (actor.step input).restartFollows name after.status after.exitCode = false ∧
      isFailureHandled (actor.step input).config.services name = false := by
  rw [← mem_failureEvents_iff becomes]
  refine exists_congr fun exitCode => ?_
  rw [unhandledFailure_mem_effects_iff, told]
  constructor
  · rintro ⟨status, same, member⟩
    cases same
    exact member
  · exact fun member => ⟨_, rfl, member⟩

theorem restartFollows_step {status : ServiceStatus} {exitCode : Option Int}
    (resolved : ((actor.step input).cells name).resolved = (actor.cells name).resolved) :
    (actor.step input).restartFollows name status exitCode =
      actor.restartFollows name status exitCode := by
  unfold restartFollows restartConfig
  rw [resolved, config_step]

/-- The service exits for good without an exit code, and nobody handles the failure. -/
def losesExit (actor : ServiceActor) (input : Input) (name : String) : Bool :=
  actor.signalTo input name = some (.entered .exited) &&
    (actor.cells name).state.any (fun state => state.exitCode.isNone) &&
    !actor.restartFollows name .exited none && !isFailureHandled actor.config.services name

theorem reports_iff (input : Input) :
    (actor.Reports input name ↔
        actor.Announces input name ∧ (actor.step input).hasUnhandledFailure name) ↔
      actor.losesExit input name = false := by
  unfold losesExit
  cases told : actor.signalTo input name with
  | none =>
    have silent : ¬ actor.Announces input name := by
      rintro ⟨status, member⟩
      rw [statusChange_mem_effects_iff, told] at member
      rcases member with impossible | impossible <;> exact nomatch impossible
    exact iff_of_true (iff_of_false (not_reports_of_not_entered fun status => by simp [told])
      fun both => silent both.1) rfl
  | some signal =>
    cases signal with
    | health status =>
      obtain ⟨after, becomes, rfl, running⟩ := state_of_health told
      exact iff_of_true (iff_of_false (not_reports_of_not_entered fun status => by simp [told])
        fun both => not_hasUnhandledFailure_of_isRunning becomes running both.2) rfl
    | entered status =>
      obtain ⟨before, after, found, becomes, rfl, exitCode, resolved⟩ := state_of_entered told
      have announces : actor.Announces input name :=
        ⟨after.status, statusChange_mem_effects_iff.mpr (.inl told)⟩
      rw [reports_of_entered told becomes, and_iff_right announces,
        hasUnhandledFailure_iff becomes, restartFollows_step resolved, config_step, found,
        Option.any_some]
      unfold isUncodedExit
      by_cases exited : after.status = .exited
      · have code := exitCode (by rw [exited]; decide) (by rw [exited]; decide)
        rw [exited, code]
        cases before.exitCode with
        | none => simp [isReportedFailure, imp_iff_not_or]
        | some code => simp
      · simp [exited]

/-! ### Reports to a later listener -/

/-- The written policy brings the service back, an expression taken for the default. -/
def writtenRestartFollows (raw : RawServiceConfig) (state : ServiceState) : Bool :=
  Kepler.restartFollows state.status state.exitCode (raw.restart.asStatic.getD default)

/-- A later listener is told what there is to tell of a failure that nobody handles: nothing if the
service comes back, and otherwise all. -/
def isReplayedRightly (actor : ServiceActor) (services : Option (List String)) (name : String)
    (raw : RawServiceConfig) (state : ServiceState) : Bool :=
  let follows := services.all fun followed => name ∈ followed
  !isConditionMet state { condition := .serviceFailed } none ||
    isFailureHandled actor.config.services name ||
    if actor.restartFollows name state.status state.exitCode then
      writtenRestartFollows raw state || !follows || state.isUncodedExit
    else !writtenRestartFollows raw state && follows && !state.isUncodedExit

theorem replayFailure_iff {services : Option (List String)} {raw : RawServiceConfig}
    (configured : actor.config.services.lookup name = some raw)
    (found : (actor.cells name).state = some state) :
    ((actor.replayFailure services name).isSome ↔ actor.hasUnhandledFailure name) ↔
      actor.isReplayedRightly services name raw state := by
  have replayed : (actor.replayFailure services name).isSome ↔
      services.all (fun followed => name ∈ followed) ∧
        isReportedFailure state.status state.exitCode ∧ writtenRestartFollows raw state = false ∧
        isFailureHandled actor.config.services name = false := by
    have looked : actor.replayFailure services name =
        if services.all (fun followed => name ∈ followed) &&
            isReportedFailure state.status state.exitCode && !writtenRestartFollows raw state &&
            !isFailureHandled actor.config.services name then
          some state.exitCode
        else none := by
      rw [replayFailure, configured, found]
      rfl
    rw [looked]
    split
    · rename_i told
      simpa [and_assoc] using told
    · rename_i untold
      simpa [and_assoc] using untold
  rw [replayed, hasUnhandledFailure_iff found, isReplayedRightly, isConditionMet_serviceFailed]
  cases uncoded : state.isUncodedExit with
  | true =>
    have unreported : isReportedFailure state.status state.exitCode = false := by
      obtain ⟨exited, none⟩ := (Bool.and_eq_true ..).mp uncoded
      rw [of_decide_eq_true exited, Option.isNone_iff_eq_none.mp none]
      rfl
    rw [unreported]
    cases actor.restartFollows name state.status state.exitCode <;>
      cases isFailureHandled actor.config.services name <;> simp
  | false =>
    cases isReportedFailure state.status state.exitCode <;>
      cases isFailureHandled actor.config.services name <;>
      cases actor.restartFollows name state.status state.exitCode <;>
      simp [and_comm, imp_iff_not_or, or_comm]

end ServiceActor

/-! ### Runs -/

/-- The actor takes an input, or the look of a later listener comes to a service. -/
inductive ReportEvent where
  | actor (input : ServiceActor.Input)
  | replay (services : Option (List String)) (name : String)

namespace ReportEvent

open ServiceActor

def step (actor : ServiceActor) : ReportEvent → ServiceActor
  | .actor input => actor.step input
  | .replay _ _ => actor

/-- A failure is reported exactly if there is one: to a listener when the status changes, and to a
later one when the look comes to the service. -/
def Exact (actor : ServiceActor) : ReportEvent → Prop
  | .actor input => ∀ name, actor.Reports input name ↔
      actor.Announces input name ∧ (actor.step input).hasUnhandledFailure name
  | .replay services name => name ∈ actor.config.services →
      ((actor.replayFailure services name).isSome ↔ actor.hasUnhandledFailure name)

/-- No exit is lost, and a later listener is told what there is to tell. -/
def isCovered (actor : ServiceActor) : ReportEvent → Bool
  | .actor (.service now name command) => !actor.losesExit (.service now name command) name
  | .actor _ => true
  | .replay services name => (actor.config.services.lookup name).all fun raw =>
      (actor.cells name).state.all fun state => actor.isReplayedRightly services name raw state

theorem exact_iff_isCovered (actor : ServiceActor) (event : ReportEvent) :
    event.Exact actor ↔ event.isCovered actor := by
  cases event with
  | actor input =>
    change (∀ name, actor.Reports input name ↔
      actor.Announces input name ∧ (actor.step input).hasUnhandledFailure name) ↔ _
    simp only [reports_iff]
    cases input with
    | service now target command =>
      rw [isCovered, Bool.not_eq_true']
      refine ⟨fun covered => covered target, fun covered name => ?_⟩
      by_cases same : target = name
      · exact same ▸ covered
      · have silent : actor.signalTo (.service now target command) name = none := if_neg same
        rw [losesExit, silent]
        rfl
    | _ => exact iff_of_true (fun name => rfl) rfl
  | replay services name =>
    change (name ∈ actor.config.services →
      ((actor.replayFailure ..).isSome ↔ actor.hasUnhandledFailure name)) ↔ _
    rw [isCovered]
    cases configured : actor.config.services.lookup name with
    | none =>
      exact iff_of_true (fun member => absurd member (AList.lookup_eq_none.mp configured)) rfl
    | some raw =>
      have member : name ∈ actor.config.services :=
        AList.lookup_isSome.mp (Option.isSome_iff_exists.mpr ⟨raw, configured⟩)
      rw [forall_prop_of_true member]
      cases found : (actor.cells name).state with
      | none =>
        have silent : actor.replayFailure services name = none := by
          rw [replayFailure, configured, found]
          rfl
        have sound : actor.hasUnhandledFailure name = false := by
          rw [hasUnhandledFailure, found]
          rfl
        rw [silent, sound]
        exact iff_of_true Iff.rfl rfl
      | some state => exact replayFailure_iff configured found

/-- In every run, the reports are exact exactly if every event is covered. -/
theorem exact_run_iff (config : KeplerConfig) (startOrder : Option (List String))
    (initialized : Bool) (restored : String → ServiceState) (events : List ReportEvent) :
    Meets step (fun actor event => event.Exact actor)
        (create config startOrder initialized restored) events ↔
      Meets step (fun actor event => event.isCovered actor)
        (create config startOrder initialized restored) events :=
  meets_congr exact_iff_isCovered

/-- The policy of the service was computed to be a restart after a failure. The service has failed
and is about to be restarted. -/
def beforeRestart : ServiceActor :=
  run ServiceActor.step
    (create { services := AList.singleton "db" { restart := .dynamic "policy" } } (some ["db"])
      false fun _ => {})
    [.service 0 "db"
        (.storeResolvedConfig { command := [], restart := .simple { flags := 1 } } ""),
      .service 1 "db" (.setServiceStatus .running),
      .service 2 "db" (.recordProcessExit (some 1) none),
      .service 3 "db" (.setServiceStatus .exited)]

/-- The actor does not report the failure, but a later listener is told about it. -/
theorem replayed_beforeRestart :
    beforeRestart.replayFailure none "db" = some (some 1) ∧
      beforeRestart.hasUnhandledFailure "db" = false := by
  decide +kernel

end ReportEvent

end Kepler
