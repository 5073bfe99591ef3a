/-
This file models the check that a starting service makes for a dependency (the loop in
`wait_for_dependencies`), and compares it with two other places that judge a dependency: the actor
(`is_condition_satisfied_sync`) and the event handler that waits before it restarts a dependent
service (the loop in `propagate_restart`).

The actor and the exit handler look at the computed restart policy, a waiting service looks at the
written one. The event handler has no rule for a dependency that cannot come to meet the condition.
-/

import Kepler.Lifecycles

namespace Kepler

open Runs Program Option

/-! ### The check of a waiting service -/

/-- What a waiting service asks the actor: for its claim, and for the state of the dependency. -/
inductive WaitQuery where
  | serviceStartup
  | dependencyState
  deriving DecidableEq, Repr

@[reducible]
def WaitQuery.Reply : WaitQuery → Type
  | serviceStartup => Option ServiceStartup
  | dependencyState => Option ServiceState

abbrev DependencyWait (Result : Type) : Type := Program WaitQuery.Reply OrchestratorError Result

namespace DependencyWait

def getServiceStartup : DependencyWait (Option ServiceStartup) :=
  Program.call WaitQuery.serviceStartup

def getServiceState : DependencyWait (Option ServiceState) :=
  Program.call WaitQuery.dependencyState

/-- The restart section that a waiting service looks at: the default when it is an expression. -/
def writtenRestart (config : KeplerConfig) (name : String) : Option RestartConfig :=
  (config.services.lookup name).map fun raw => raw.restart.asStatic.getD default

section

variable (config : KeplerConfig) (service : String) (startup : ServiceStartup) (name : String)
  (entry : DependencyConfig)

def ensureServiceStartup : DependencyWait Unit := do
  let current ← getServiceStartup
  if current = some startup then pure () else Program.fail (.startupCancelled service)

def checkDependencySatisfied : DependencyWait Bool := do
  let found ← getServiceState
  return found.any fun state => isConditionMet state entry none

/-- Whether the dependency has exited and is going to be restarted. -/
def isTransient : DependencyWait Bool :=
  match writtenRestart config name with
  | none => return false
  | some restart => do
    let found ← getServiceState
    return found.any fun state => isTransientSatisfaction state restart

def ensureNotSkipped : DependencyWait Unit := do
  let found ← getServiceState
  if found.any (fun state => state.status = .skipped) && !entry.allowSkipped then
    Program.fail (.dependencySkipped service name)
  else pure ()

def isDependencyPermanentlyUnsatisfied (restart : RestartConfig) : DependencyWait Bool := do
  let found ← getServiceState
  match found with
  | none => return false
  | some state =>
    match state.status with
    | .skipped => return !entry.allowSkipped
    | .stopped | .exited | .failed | .killed => do
      let satisfied ← checkDependencySatisfied entry
      return !satisfied &&
        (state.status = .stopped || !restartFollows state.status state.exitCode restart)
    | _ => return false

def restReason (found : Option ServiceState) : String :=
  "dependency `" ++ name ++ "` " ++
    ((found.map fun state => state.status.asStr).getD "unknown") ++
    (match found.bind ServiceState.exitCode with
      | some code => " (exit code " ++ toString code ++ ")"
      | none => "") ++
    " and won't restart, condition `" ++ entry.condition.asStr ++ "` can never be met"

def ensureNotAtRest : DependencyWait Unit :=
  match writtenRestart config name with
  | none => pure ()
  | some restart => do
    let unsatisfied ← isDependencyPermanentlyUnsatisfied entry restart
    if unsatisfied then do
      let found ← getServiceState
      Program.fail
        (.dependencyUnsatisfied service name entry.condition (restReason name entry found))
    else pure ()

/-- The end of a wait for a running dependency that never comes to rest as asked. -/
def ensureReachable : DependencyWait Unit :=
  match writtenRestart config name with
  | none => pure ()
  | some restart => do
    let found ← getServiceState
    if found.any fun state => state.status.isRunning then
      match isConditionUnreachableByPolicy name entry.condition restart.policy with
      | some reason => Program.fail (.dependencyUnsatisfied service name entry.condition reason)
      | none => pure ()
    else pure ()

/-- One round of the loop: whether the wait is over. Otherwise the service waits for the next
change. -/
def checkDependency : DependencyWait Bool := do
  ensureServiceStartup service startup
  let satisfied ← checkDependencySatisfied entry
  if satisfied then do
    let transient ← isTransient config name
    if transient then do
      ensureServiceStartup service startup
      return false
    else return true
  else do
    ensureNotSkipped service name entry
    ensureNotAtRest config service name entry
    ensureReachable config service name entry
    ensureServiceStartup service startup
    return false

end

/-- One round of the loop in `propagate_restart`. -/
def checkPropagation (config : KeplerConfig) (name : String) (entry : DependencyConfig) :
    DependencyWait Bool := do
  let satisfied ← checkDependencySatisfied entry
  if satisfied then do
    let transient ← isTransient config name
    return !transient
  else return false

end DependencyWait

open DependencyWait

/-! ### The check on a state of the actor -/

namespace ServiceActor

variable (actor : ServiceActor) (service : String) (startup : ServiceStartup) (name : String)
  (entry : DependencyConfig)

def answer : (query : WaitQuery) → query.Reply
  | .serviceStartup => (actor.cells service).serviceStartup
  | .dependencyState => (actor.cells name).state

/-- What a waiting service concludes when the actor does not change while it asks. -/
def judge : Except OrchestratorError Bool :=
  (checkDependency actor.config service startup name entry).evaluate
    (actor.answer service name)

/-- Whether the event handler goes on when it has looked at the dependency. -/
def releases : Bool :=
  match (checkPropagation actor.config name entry).evaluate
      (actor.answer name name) with
  | .ok released => released
  | .error _ => false

def isSatisfied : Bool := (actor.cells name).state.any fun state => isConditionMet state entry none

/-- A waiting service takes the dependency for one that is going to be restarted. -/
def isTransient : Bool :=
  (writtenRestart actor.config name).any fun restart =>
    (actor.cells name).state.any fun state => isTransientSatisfaction state restart

end ServiceActor

def DependencyConfig.isAtRest (entry : DependencyConfig) (restart : RestartConfig)
    (state : ServiceState) : Bool :=
  match state.status with
  | .skipped => !entry.allowSkipped
  | .stopped => true
  | .exited | .failed | .killed => !restartFollows state.status state.exitCode restart
  | _ => false

/-- The dependency never comes to rest as the condition asks. -/
def DependencyConfig.isRestless (entry : DependencyConfig) (name : String)
    (restart : RestartConfig) (state : ServiceState) : Bool :=
  state.status.isRunning &&
    (isConditionUnreachableByPolicy name entry.condition restart.policy).isSome

namespace ServiceActor

/-- A dependency that does not meet the condition is given up: it was skipped, it has come to rest,
or it never comes to rest as asked. -/
def isGivenUp (actor : ServiceActor) (name : String) (entry : DependencyConfig) : Bool :=
  (actor.cells name).state.any fun state =>
    (state.status = .skipped && !entry.allowSkipped) ||
      (writtenRestart actor.config name).any fun restart =>
        entry.isAtRest restart state || entry.isRestless name restart state

variable {actor : ServiceActor} {service : String} {startup : ServiceStartup} {name : String}
  {entry : DependencyConfig}

theorem evaluate_ensureServiceStartup
    (valid : (actor.cells service).serviceStartup = some startup) :
    (ensureServiceStartup service startup).evaluate (actor.answer service name) = .ok () := by
  change evaluate _
    (if (actor.cells service).serviceStartup = some startup then _ else _) = _
  rw [if_pos valid]
  rfl

theorem judge_of_invalid (invalid : (actor.cells service).serviceStartup ≠ some startup) :
    actor.judge service startup name entry = .error (.startupCancelled service) := by
  change evaluate _
    ((if (actor.cells service).serviceStartup = some startup then _ else _) >>= _) = _
  rw [if_neg invalid]
  rfl

theorem evaluate_checkDependencySatisfied :
    (checkDependencySatisfied entry).evaluate (actor.answer service name) =
      .ok (actor.isSatisfied name entry) := rfl

theorem evaluate_isTransient :
    (DependencyWait.isTransient actor.config name).evaluate (actor.answer service name) =
      .ok (actor.isTransient name) := by
  unfold DependencyWait.isTransient ServiceActor.isTransient
  cases writtenRestart actor.config name with
  | none => rfl
  | some => rfl

theorem evaluate_ensureNotSkipped :
    (ensureNotSkipped service name entry).evaluate (actor.answer service name) =
      if (actor.cells name).state.any (fun state => state.status = .skipped) &&
          !entry.allowSkipped then .error (.dependencySkipped service name)
      else .ok () := by
  change evaluate _ (if (actor.cells name).state.any _ && _ then _ else _) = _
  split <;> rfl

theorem evaluate_isDependencyPermanentlyUnsatisfied (unmet : actor.isSatisfied name entry = false)
    (restart : RestartConfig) :
    (isDependencyPermanentlyUnsatisfied entry restart).evaluate
        (actor.answer service name) =
      .ok ((actor.cells name).state.any (entry.isAtRest restart)) := by
  unfold isDependencyPermanentlyUnsatisfied
  rw [evaluate_bind]
  change evaluate _ (match (actor.cells name).state with | none => _ | some state => _) = _
  cases known : (actor.cells name).state with
  | none => rfl
  | some state =>
    have checked : (checkDependencySatisfied entry).evaluate (actor.answer service name) =
        .ok false := evaluate_checkDependencySatisfied.trans (congrArg _ unmet)
    dsimp only [any_some, DependencyConfig.isAtRest]
    cases status : state.status <;> first | rfl | exact evaluate_bind_of_ok checked _

theorem evaluate_ensureNotAtRest (unmet : actor.isSatisfied name entry = false) :
    (ensureNotAtRest actor.config service name entry).evaluate
        (actor.answer service name) =
      if (writtenRestart actor.config name).any fun restart =>
          (actor.cells name).state.any (entry.isAtRest restart) then
        .error (.dependencyUnsatisfied service name entry.condition
          (restReason name entry (actor.cells name).state))
      else .ok () := by
  unfold ensureNotAtRest
  cases writtenRestart actor.config name with
  | none => rfl
  | some restart =>
    dsimp only [any_some]
    rw [evaluate_bind_of_ok (evaluate_isDependencyPermanentlyUnsatisfied unmet restart)]
    split <;> rfl

theorem evaluate_ensureReachable_of_restless
    (restless : (writtenRestart actor.config name).any fun restart =>
      (actor.cells name).state.any (entry.isRestless name restart)) :
    ∃ reason, (ensureReachable actor.config service name entry).evaluate
        (actor.answer service name) =
      .error (.dependencyUnsatisfied service name entry.condition reason) := by
  obtain ⟨restart, written, restless⟩ := (any_eq_true ..).mp restless
  obtain ⟨state, known, restless⟩ := (any_eq_true ..).mp restless
  obtain ⟨running, unreachable⟩ := Bool.and_eq_true_iff.mp restless
  obtain ⟨reason, unreachable⟩ := isSome_iff_exists.mp unreachable
  refine ⟨reason, ?_⟩
  unfold ensureReachable
  rw [written]
  change evaluate _ (if (actor.cells name).state.any _ then _ else _) = _
  rw [known, if_pos (by exact running), unreachable]
  rfl

theorem evaluate_ensureReachable_of_not
    (calm : ((writtenRestart actor.config name).any fun restart =>
      (actor.cells name).state.any (entry.isRestless name restart)) = false) :
    (ensureReachable actor.config service name entry).evaluate
      (actor.answer service name) = .ok () := by
  unfold ensureReachable
  cases written : writtenRestart actor.config name with
  | none => rfl
  | some => ?_
  rw [written, any_some] at calm
  change evaluate _ (if (actor.cells name).state.any _ then _ else _) = _
  split
  · next running =>
    obtain ⟨state, known, running⟩ := (any_eq_true ..).mp running
    rw [known, any_some, DependencyConfig.isRestless, running, Bool.true_and,
      isSome_eq_false_iff, isNone_iff_eq_none] at calm
    rw [calm]
    rfl
  · rfl

theorem isGivenUp_eq : actor.isGivenUp name entry =
    (((actor.cells name).state.any (fun state => state.status = .skipped) && !entry.allowSkipped) ||
      (((writtenRestart actor.config name).any fun restart =>
          (actor.cells name).state.any (entry.isAtRest restart)) ||
        (writtenRestart actor.config name).any fun restart =>
          (actor.cells name).state.any (entry.isRestless name restart))) := by
  unfold isGivenUp
  cases (actor.cells name).state with
  | none | some => cases writtenRestart actor.config name <;> rfl

section

variable (valid : (actor.cells service).serviceStartup = some startup)

include valid

theorem judge_of_satisfied (met : actor.isSatisfied name entry) :
    actor.judge service startup name entry = .ok (!actor.isTransient name) := by
  unfold judge checkDependency
  rw [evaluate_bind_of_ok (evaluate_ensureServiceStartup valid),
    evaluate_bind_of_ok evaluate_checkDependencySatisfied, met, if_pos rfl,
    evaluate_bind_of_ok evaluate_isTransient]
  cases actor.isTransient name with
  | true => exact evaluate_bind_of_ok (evaluate_ensureServiceStartup valid) _
  | false => rfl

theorem judge_of_unsatisfied (unmet : actor.isSatisfied name entry = false) :
    actor.judge service startup name entry =
      (do
        ensureNotSkipped service name entry
        ensureNotAtRest actor.config service name entry
        ensureReachable actor.config service name entry
        return false : DependencyWait Bool).evaluate (actor.answer service name) := by
  unfold judge checkDependency
  rw [evaluate_bind_of_ok (evaluate_ensureServiceStartup valid),
    evaluate_bind_of_ok evaluate_checkDependencySatisfied, unmet,
    if_neg Bool.false_ne_true]
  simp only [evaluate_bind, evaluate_ensureServiceStartup valid]
  rfl

theorem judge_of_not_givenUp (unmet : actor.isSatisfied name entry = false)
    (kept : actor.isGivenUp name entry = false) :
    actor.judge service startup name entry = .ok false := by
  rw [isGivenUp_eq, Bool.or_eq_false_iff, Bool.or_eq_false_iff] at kept
  obtain ⟨notSkipped, active, calm⟩ := kept
  rw [judge_of_unsatisfied valid unmet, evaluate_bind_of_ok
      (evaluate_ensureNotSkipped.trans (if_neg (Bool.not_eq_true _ ▸ notSkipped))),
    evaluate_bind_of_ok
      ((evaluate_ensureNotAtRest unmet).trans (if_neg (Bool.not_eq_true _ ▸ active))),
    evaluate_bind_of_ok (evaluate_ensureReachable_of_not calm)]
  rfl

theorem judge_of_givenUp (unmet : actor.isSatisfied name entry = false)
    (givenUp : actor.isGivenUp name entry) :
    ∃ error, actor.judge service startup name entry = .error error := by
  rw [judge_of_unsatisfied valid unmet, evaluate_bind, evaluate_ensureNotSkipped]
  split
  · exact ⟨_, rfl⟩
  · next notSkipped =>
    rw [evaluate_bind, evaluate_ensureNotAtRest unmet]
    split
    · exact ⟨_, rfl⟩
    · next active =>
      rw [isGivenUp_eq, Bool.eq_false_of_not_eq_true notSkipped,
        Bool.eq_false_of_not_eq_true active, Bool.false_or, Bool.false_or] at givenUp
      obtain ⟨reason, unreachable⟩ :=
        @evaluate_ensureReachable_of_restless actor service name entry givenUp
      rw [evaluate_bind, unreachable]
      exact ⟨_, rfl⟩

theorem judge_cases :
    actor.isSatisfied name entry ∧
        actor.judge service startup name entry = .ok (!actor.isTransient name) ∨
      actor.isSatisfied name entry = false ∧ actor.isGivenUp name entry = false ∧
        actor.judge service startup name entry = .ok false ∨
      actor.isSatisfied name entry = false ∧ actor.isGivenUp name entry ∧
        ∃ error, actor.judge service startup name entry = .error error := by
  cases met : actor.isSatisfied name entry with
  | true => exact .inl ⟨rfl, judge_of_satisfied valid met⟩
  | false =>
    cases givenUp : actor.isGivenUp name entry with
    | false => exact .inr (.inl ⟨rfl, rfl, judge_of_not_givenUp valid met givenUp⟩)
    | true => exact .inr (.inr ⟨rfl, rfl, judge_of_givenUp valid met givenUp⟩)

theorem judge_eq_ok_true_iff :
    actor.judge service startup name entry = .ok true ↔
      actor.isSatisfied name entry ∧ actor.isTransient name = false := by
  obtain ⟨met, judged⟩ | ⟨unmet, _, judged⟩ | ⟨unmet, _, _, judged⟩ :=
    @judge_cases actor service startup name entry valid <;> simp [*]

/-- The service goes on waiting iff the dependency meets the condition only until it is restarted,
or does not meet it and is not given up. -/
theorem judge_eq_ok_false_iff :
    actor.judge service startup name entry = .ok false ↔
      if actor.isSatisfied name entry then actor.isTransient name
      else actor.isGivenUp name entry = false := by
  obtain ⟨met, judged⟩ | ⟨unmet, kept, judged⟩ | ⟨unmet, givenUp, _, judged⟩ :=
    @judge_cases actor service startup name entry valid <;> simp [*]

end

end ServiceActor

/-! ### The waiting service and the actor -/

def ServiceStatus.isExit : ServiceStatus → Bool
  | .exited | .killed => true
  | _ => false

theorem isTransientSatisfaction_eq (state : ServiceState) (restart : RestartConfig) :
    isTransientSatisfaction state restart =
      (state.status.isExit && restart.shouldRestartOnExit state.exitCode) := by
  unfold isTransientSatisfaction restartFollows
  cases state.status <;> rfl

theorem isConditionMet_of_not_exit {state : ServiceState} (other : state.status.isExit = false)
    (entry : DependencyConfig) (restart : Option RestartConfig) :
    isConditionMet state entry restart = isConditionMet state entry none := by
  have lasting : restart.any (isTransientSatisfaction state) = false := by
    cases restart with
    | none => rfl
    | some => rw [any_some, isTransientSatisfaction_eq, other, Bool.false_and]
  unfold isConditionMet
  rw [lasting]
  rfl

theorem isConditionMet_of_exit {state : ServiceState} (exited : state.status.isExit)
    (entry : DependencyConfig) (restart : RestartConfig) :
    isConditionMet state entry (some restart) =
      (isConditionMet state entry none && !restart.shouldRestartOnExit state.exitCode) := by
  have notSkipped : state.status ≠ .skipped := by
    rintro skipped
    rw [skipped] at exited
    cases exited
  unfold isConditionMet
  rw [if_neg notSkipped, if_neg notSkipped, any_some, isTransientSatisfaction_eq, exited,
    Bool.true_and, any_none, Bool.not_false, Bool.and_true]

namespace ServiceActor

variable {actor : ServiceActor} {service : String} {startup : ServiceStartup} {name : String}
  {entry : DependencyConfig} {raw : RawServiceConfig} {state : ServiceState}

/-- Whether `handle_exit` restarts the service after an exit with this code. -/
def restartsAfter (actor : ServiceActor) (name : String) (exitCode : Option Int) : Bool :=
  ((actor.cells name).buildServiceContext (actor.context 0 name)).any fun context =>
    Lifecycle.restartsOnExit context exitCode

theorem restartsAfter_eq (configured : actor.config.services.lookup name = some raw)
    (known : (actor.cells name).state = some state) (exitCode : Option Int) :
    actor.restartsAfter name exitCode =
      (actor.restartConfig name).any fun restart => restart.shouldRestartOnExit exitCode := by
  have built : (actor.cells name).buildServiceContext (actor.context 0 name) =
      some ⟨raw, (actor.cells name).resolved, (actor.cells name).tokenGuard, state.workingDir⟩ := by
    rw [ServiceCell.buildServiceContext, context, configured, known]
    rfl
  unfold restartsAfter restartConfig
  rw [built, configured]
  cases (actor.cells name).resolved with
  | none => rfl
  | some => rfl

/-- The written and the computed policy say the same about an exit. -/
def DecidesAlike (actor : ServiceActor) (name : String) (exitCode : Option Int) : Prop :=
  (writtenRestart actor.config name).any
      (fun restart => restart.shouldRestartOnExit exitCode) =
    (actor.restartConfig name).any fun restart => restart.shouldRestartOnExit exitCode

instance (actor : ServiceActor) (name : String) (exitCode : Option Int) :
    Decidable (actor.DecidesAlike name exitCode) :=
  inferInstanceAs (Decidable (_ = _))

/-- A waiting service and the actor agree about a dependency, and both take an exit for transient
exactly if the exit handler restarts the service, if and only if the written and the computed policy
decide alike about an exit that is there. -/
theorem judge_agrees_iff (actor : ServiceActor) (service : String) (startup : ServiceStartup)
    (name : String) (entry : DependencyConfig) (raw : RawServiceConfig) (state : ServiceState)
    (valid : (actor.cells service).serviceStartup = some startup)
    (configured : actor.config.services.lookup name = some raw)
    (known : (actor.cells name).state = some state) :
    ((actor.judge service startup name entry = .ok true ↔
          actor.isConditionSatisfiedSync name entry) ∧
        (state.status.isExit →
          (actor.isTransient name ↔ actor.restartsAfter name state.exitCode) ∧
            ((actor.restartConfig name).any (isTransientSatisfaction state) ↔
              actor.restartsAfter name state.exitCode))) ↔
      (state.status.isExit → actor.DecidesAlike name state.exitCode) := by
  obtain ⟨written, isWritten⟩ : ∃ written,
      writtenRestart actor.config name = some written := by
    unfold writtenRestart
    rw [configured]
    exact ⟨_, rfl⟩
  obtain ⟨computed, isComputed⟩ : ∃ computed, actor.restartConfig name = some computed := by
    unfold restartConfig
    rw [configured]
    cases (actor.cells name).resolved <;> exact ⟨_, rfl⟩
  have transient : actor.isTransient name = isTransientSatisfaction state written := by
    rw [isTransient, isWritten, known]
    rfl
  rw [judge_eq_ok_true_iff valid, isSatisfied, isConditionSatisfiedSync, restartsAfter_eq
    configured known, transient, DecidesAlike, known, isComputed, isWritten]
  simp only [any_some, isTransientSatisfaction_eq]
  cases exited : state.status.isExit with
  | false =>
    rw [isConditionMet_of_not_exit exited entry (some computed)]
    simp
  | true =>
    rw [isConditionMet_of_exit exited entry computed]
    cases written.shouldRestartOnExit state.exitCode <;>
      cases computed.shouldRestartOnExit state.exitCode <;> simp

/-- A service that is started when another one fails, which has the given policy. -/
def failureConfig (restart : ConfigValue RestartConfig) : KeplerConfig :=
  { services := (AList.singleton "db" { restart }).insert "web"
      { dependsOn := [("db", { condition := .serviceFailed })] } }

/-- The config of the dependency was computed. Its process has failed, and the other service has
been claimed for a start. -/
def afterFailure (written : ConfigValue RestartConfig) (computed : RestartConfig) : ServiceActor :=
  run step (create (failureConfig written) (some ["db", "web"]) false fun _ => {})
    [.service 0 "db" (.storeResolvedConfig { command := [], restart := computed } ""),
      .service 1 "db" (.setServiceStatus .running),
      .service 2 "db" (.recordProcessExit (some 1) none),
      .service 3 "db" (.setServiceStatus .exited),
      .service 4 "web" .claimServiceStart]

theorem static_judge_agrees :
    (afterFailure (.static (.simple { flags := 1 })) (.simple { flags := 1 })).judge "web" ⟨1⟩ "db"
        { condition := .serviceFailed } = .ok true ↔
      (afterFailure (.static (.simple { flags := 1 }))
        (.simple { flags := 1 })).isConditionSatisfiedSync "db" { condition := .serviceFailed } :=
  ((judge_agrees_iff _ _ _ _ _ { restart := .static (.simple { flags := 1 }) }
    { status := .exited, exitCode := some 1, stoppedAt := some 3 } (by decide +kernel) rfl
    (by decide +kernel)).mpr (fun _ => by decide +kernel)).1

/-- The policy is an expression. The waiting service takes the failure for a lasting one, the actor
does not, and the exit handler restarts the service. -/
theorem dynamic_judge_disagrees :
    (afterFailure (.dynamic "policy") (.simple { flags := 1 })).judge "web" ⟨1⟩ "db"
        { condition := .serviceFailed } = .ok true ∧
      (afterFailure (.dynamic "policy") (.simple { flags := 1 })).isConditionSatisfiedSync "db"
        { condition := .serviceFailed } = false ∧
      (afterFailure (.dynamic "policy") (.simple { flags := 1 })).restartsAfter "db" (some 1) := by
  decide +kernel

/-! ### The waiting service and the event handler -/

theorem releases_eq :
    actor.releases name entry = (actor.isSatisfied name entry && !actor.isTransient name) := by
  have evaluated : (checkPropagation actor.config name entry).evaluate
      (actor.answer name name) = .ok (actor.isSatisfied name entry && !actor.isTransient name) := by
    unfold checkPropagation
    rw [evaluate_bind_of_ok evaluate_checkDependencySatisfied]
    cases actor.isSatisfied name entry with
    | false => rfl
    | true => exact evaluate_bind_of_ok evaluate_isTransient _
  rw [releases, evaluated]

/-- Where a waiting service comes to a conclusion, the event handler goes on too or has a time
limit, exactly if there is a time limit or the dependency is not given up. -/
theorem releases_iff (actor : ServiceActor) (service : String) (startup : ServiceStartup)
    (name : String) (entry : DependencyConfig)
    (valid : (actor.cells service).serviceStartup = some startup) :
    (actor.judge service startup name entry ≠ .ok false →
        actor.releases name entry ∨ entry.timeout.isSome) ↔
      (entry.timeout.isSome ∨ actor.isSatisfied name entry ∨
        actor.isGivenUp name entry = false) := by
  rw [Ne, judge_eq_ok_false_iff valid, releases_eq]
  cases actor.isSatisfied name entry with
  | true => cases actor.isTransient name <;> simp
  | false => cases actor.isGivenUp name entry <;> simp

/-- A dependency that has failed for good and whose dependent is restarted with it when it is
healthy. -/
def afterLastFailure : ServiceActor := afterFailure (.static (.simple {})) (.simple {})

theorem limited_releases :
    (∃ reason, afterLastFailure.judge "web" ⟨1⟩ "db"
        { condition := .serviceHealthy, restart := true, timeout := some 30 } =
          .error (.dependencyUnsatisfied "web" "db" .serviceHealthy reason)) ∧
      (afterLastFailure.releases "db"
          { condition := .serviceHealthy, restart := true, timeout := some 30 } ∨
        (some 30).isSome) := by
  have judged : afterLastFailure.judge "web" ⟨1⟩ "db"
      { condition := .serviceHealthy, restart := true, timeout := some 30 } =
        .error (.dependencyUnsatisfied "web" "db" .serviceHealthy
          ("dependency `db` exited (exit code 1) and won't restart, condition " ++
            "`service_healthy` can never be met")) := by
    decide +kernel
  refine ⟨⟨_, judged⟩, (releases_iff afterLastFailure "web" ⟨1⟩ "db"
    { condition := .serviceHealthy, restart := true, timeout := some 30 }
    (by decide +kernel)).mpr (.inl rfl) ?_⟩
  intro blocks
  cases judged.symm.trans blocks

/-- A waiting service gives the dependency up, while the event handler waits for a change that
nothing will make. -/
theorem unlimited_not_released :
    (∃ reason, afterLastFailure.judge "web" ⟨1⟩ "db"
        { condition := .serviceHealthy, restart := true } =
          .error (.dependencyUnsatisfied "web" "db" .serviceHealthy reason)) ∧
      afterLastFailure.releases "db" { condition := .serviceHealthy, restart := true } = false :=
  ⟨⟨"dependency `db` exited (exit code 1) and won't restart, condition `service_healthy` can " ++
    "never be met", by decide +kernel⟩, by decide +kernel⟩

end ServiceActor

end Kepler
