/-
This file models what the config actor knows about one service (`state.rs`), the identities
it hands out (`config_actor/context.rs`), and the rules that read a service's state from
outside: dependency conditions and restart policies (`deps.rs`).
-/

import Kepler.Config

namespace Kepler

inductive ServiceStatus where
  | stopped
  | waiting
  | starting
  | running
  | stopping
  | restarting
  | failed
  | healthy
  | unhealthy
  | exited
  | killed
  | skipped
  deriving DecidableEq, Repr

namespace ServiceStatus

def asStr : ServiceStatus → String
  | stopped => "stopped"
  | waiting => "waiting"
  | starting => "starting"
  | running => "running"
  | stopping => "stopping"
  | restarting => "restarting"
  | failed => "failed"
  | healthy => "healthy"
  | unhealthy => "unhealthy"
  | exited => "exited"
  | killed => "killed"
  | skipped => "skipped"

def isRunning : ServiceStatus → Bool
  | running | healthy | unhealthy => true
  | _ => false

def isActive : ServiceStatus → Bool
  | stopped | failed | exited | killed | skipped => false
  | _ => true

/-- The statuses of a startup that is under way. -/
def isStartup : ServiceStatus → Bool
  | waiting | starting | restarting => true
  | _ => false

end ServiceStatus

/-- `ServiceState`, without the environment. Points in time are numbers. -/
structure ServiceState where
  status : ServiceStatus := .stopped
  pid : Option UInt32 := none
  startedAt : Option Nat := none
  stoppedAt : Option Nat := none
  exitCode : Option Int := none
  signal : Option Int := none
  healthCheckFailures : Nat := 0
  restartCount : Nat := 0
  restartCountSinceHealthy : Nat := 0
  initialized : Bool := false
  workingDir : String := ""
  wasHealthy : Bool := false
  skipReason : Option String := none
  failReason : Option String := none
  deriving DecidableEq, Repr

/-! ### Identities -/

structure ServiceStartup where
  generation : UInt64
  deriving DecidableEq, Repr

structure ServiceInstance where
  generation : UInt64
  deriving DecidableEq, Repr

structure HealthCheckSession where
  generation : UInt64
  deriving DecidableEq, Repr

/-! ### Changes of the state -/

namespace ServiceState

/-- The fields that `set_service_status` resets on the way into a status. -/
def enter (now : Nat) (status : ServiceStatus) (state : ServiceState) : ServiceState :=
  let fresh := if status.isStartup then { state with failReason := none, skipReason := none }
    else state
  let restarted := if status = .starting ∨ status = .running then
      { fresh with
        wasHealthy := false
        healthCheckFailures := 0
        stoppedAt := none
        signal := none
        exitCode := none }
    else fresh
  let ended := if status.isActive then restarted
    else { restarted with pid := none, startedAt := none, stoppedAt := some now }
  { ended with status }

@[simp]
theorem status_enter (now : Nat) (status : ServiceStatus) (state : ServiceState) :
    (state.enter now status).status = status := rfl

/-- `update_health_check` on the state of the service. -/
def updateHealth (passed : Bool) (retries : Nat) (state : ServiceState) : ServiceState :=
  if passed then
    if state.status = .running ∨ state.status = .unhealthy then
      { state with
        healthCheckFailures := 0
        status := .healthy
        wasHealthy := true
        restartCountSinceHealthy := 0 }
    else { state with healthCheckFailures := 0 }
  else
    { state with
      healthCheckFailures := state.healthCheckFailures + 1
      status := if retries ≤ state.healthCheckFailures + 1 then .unhealthy else state.status }

theorem isRunning_updateHealth (passed : Bool) (retries : Nat) {state : ServiceState}
    (running : state.status.isRunning) : (state.updateHealth passed retries).status.isRunning := by
  unfold updateHealth
  split
  · split
    · rfl
    · exact running
  · split
    · rfl
    · exact running

end ServiceState

/-! ### Reading a state from outside -/

/-- `restart_follows`: whether the policy brings a service back. A failed startup is not retried. -/
def restartFollows (status : ServiceStatus) (exitCode : Option Int) (restart : RestartConfig) :
    Bool :=
  status != .failed && restart.shouldRestartOnExit exitCode

def isTransientSatisfaction (state : ServiceState) (restart : RestartConfig) : Bool :=
  (state.status = .exited || state.status = .killed) &&
    restartFollows state.status state.exitCode restart

/-- The condition of a dependency entry, on a dependency that was not skipped. -/
def DependencyConfig.holdsIn (dependency : DependencyConfig) (state : ServiceState) : Bool :=
  match dependency.condition with
  | .serviceStarted => state.status.isRunning
  | .serviceHealthy => state.status = .healthy
  | .serviceCompletedSuccessfully =>
    (state.status = .stopped || state.status = .exited) && state.exitCode = some 0
  | .serviceUnhealthy => state.status = .unhealthy && state.wasHealthy
  | .serviceFailed =>
    (state.status = .failed || state.status = .killed ||
        (state.status = .exited && state.exitCode != some 0)) &&
      dependency.exitCode.accepts (state.exitCode.getD (-1))
  | .serviceStopped =>
    (state.status = .stopped || state.status = .exited || state.status = .failed ||
        state.status = .killed) &&
      dependency.exitCode.accepts (state.exitCode.getD (-1))

def isConditionMet (state : ServiceState) (dependency : DependencyConfig)
    (restart : Option RestartConfig) : Bool :=
  if state.status = .skipped then dependency.allowSkipped
  else dependency.holdsIn state && !(restart.any (isTransientSatisfaction state))

/-- `is_condition_unreachable_by_policy`: why a dependency that is restarted never comes to rest as
asked. -/
def isConditionUnreachableByPolicy (name : String) (condition : DependencyCondition)
    (policy : RestartPolicy) : Option String :=
  let hasOnFailure := policy.contains RestartPolicy.onFailureFlag
  let hasOnSuccess := policy.contains RestartPolicy.onSuccessFlag
  match condition with
  | .serviceFailed =>
    if hasOnFailure then
      some ("`" ++ name ++ "` has restart policy with `on-failure` — it will always restart on " ++
        "failure, so `service_failed` can never be met")
    else none
  | .serviceStopped =>
    if hasOnFailure && hasOnSuccess then
      some ("`" ++ name ++ "` has restart policy with `on-failure` and `on-success` — it will " ++
        "always restart, so `service_stopped` can never be met")
    else none
  | .serviceCompletedSuccessfully =>
    if hasOnSuccess then
      some ("`" ++ name ++ "` has restart policy with `on-success` — it will always restart on " ++
        "success, so `service_completed_successfully` can never be met")
    else none
  | .serviceStarted | .serviceHealthy | .serviceUnhealthy => none

/-- `is_failure_handled`: another service waits for the failure or the end of this one. -/
def isFailureHandled (services : HashMap String RawServiceConfig) (failed : String) : Bool :=
  services.entries.any fun entry => entry.2.dependsOn.any fun (name, dependency) =>
    name = failed &&
      (dependency.condition = .serviceFailed || dependency.condition = .serviceStopped)

end Kepler
