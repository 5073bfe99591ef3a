/-
This file models the parts of a config file (`config/`) that decide who may use a config, as whom
its processes run and when its services are started.

A field is static, or it is an expression that the config's Lua evaluator computes when a service
starts. Durations, log settings and the other fields that no function of this development reads are
left out.
-/

import Kepler.Acl

namespace Kepler

/-- `ConfigValue`: a value known at load time, or an expression. -/
inductive ConfigValue (Value : Type) where
  | static (value : Value)
  | dynamic (expression : String)
  deriving DecidableEq, Repr

namespace ConfigValue

variable {Value : Type}

def asStatic : ConfigValue Value → Option Value
  | static value => some value
  | dynamic _ => none

/-- A field that may be absent, like `run`: set, or set by an expression. -/
def isPresent : ConfigValue (Option Value) → Bool
  | static value => value.isSome
  | dynamic _ => true

end ConfigValue

/-- A list field, the entries of which may be expressions too. -/
abbrev ListField : Type := ConfigValue (List (ConfigValue String))

def wrapVec (values : List String) : List (ConfigValue String) := values.map .static

structure ResourceLimits where
  memory : Option String
  cpuTime : Option UInt64
  maxFds : Option UInt64
  deriving DecidableEq, Repr

def memoryUnit (unit : String) : Option Nat :=
  match unit.toList.map Char.toUpper with
  | [] | ['B'] => some 1
  | ['K'] | ['K', 'B'] => some 1024
  | ['M'] | ['M', 'B'] => some (1024 * 1024)
  | ['G'] | ['G', 'B'] => some (1024 * 1024 * 1024)
  | _ => none

/-- `parse_memory_limit`: a number of at most 64 bits with an optional unit. -/
def parseMemoryLimit (text : String) : Except String UInt64 :=
  let trimmed := Text.trim text
  let digits := String.ofList (trimmed.toList.takeWhile Char.isDigit)
  let unit := String.ofList (trimmed.toList.dropWhile Char.isDigit)
  if trimmed = "" then .error "Empty memory limit string"
  else if digits = "" then .error s!"Invalid number in memory limit: {trimmed}"
  else match Text.parseU64 digits, memoryUnit unit with
    | none, _ => .error s!"Invalid number in memory limit: {digits}"
    | some _, none => .error s!"Unknown memory unit: {unit}"
    | some number, some factor =>
      if number.toNat * factor < UInt64.size then .ok (UInt64.ofNat (number.toNat * factor))
      else .error s!"Memory limit overflows u64: {number}*{factor}"

structure HealthCheck where
  command : ListField := .static []
  run : ConfigValue (Option String) := .static none
  user : ConfigValue (Option String) := .static none
  groups : ListField := .static []
  noNewPrivileges : Option Bool := none
  deriving DecidableEq, Repr

structure HookCommon where
  condition : ConfigValue (Option Bool) := .static none
  user : ConfigValue (Option String) := .static none
  groups : ListField := .static []
  workingDir : ConfigValue (Option String) := .static none
  limits : ConfigValue (Option ResourceLimits) := .static none
  noNewPrivileges : Option Bool := none
  /-- The name under which the marked lines of the step's output are kept. -/
  output : Option String := none
  deriving DecidableEq, Repr

inductive HookCommand where
  | script (run : ConfigValue String) (common : HookCommon)
  | command (command : ListField) (common : HookCommon)
  deriving DecidableEq, Repr

def HookCommand.common : HookCommand → HookCommon
  | script _ common => common
  | command _ common => common

inductive ServiceHookType where
  | preStart
  | postStart
  | preStop
  | postStop
  | preRestart
  | postRestart
  | postExit
  | preCleanup
  | postHealthcheckSuccess
  | postHealthcheckFail
  deriving DecidableEq, Repr

def ServiceHookType.asStr : ServiceHookType → String
  | preStart => "pre_start"
  | postStart => "post_start"
  | preStop => "pre_stop"
  | postStop => "post_stop"
  | preRestart => "pre_restart"
  | postRestart => "post_restart"
  | postExit => "post_exit"
  | preCleanup => "pre_cleanup"
  | postHealthcheckSuccess => "post_healthcheck_success"
  | postHealthcheckFail => "post_healthcheck_fail"

abbrev ServiceHooks : Type := ServiceHookType → Option (List HookCommand)

structure ServicePermissions where
  allow : List String
  hardening : Option String := none
  authorize : Option String := none
  deriving DecidableEq, Repr

/-! ### Restarts and dependencies -/

structure RestartPolicy where
  flags : UInt8 := 0
  deriving DecidableEq, Repr

namespace RestartPolicy

def onFailureFlag : UInt8 := 1

def onSuccessFlag : UInt8 := 2

def onUnhealthyFlag : UInt8 := 4

def contains (policy : RestartPolicy) (flag : UInt8) : Bool := policy.flags &&& flag != 0

/-- `should_restart_on_exit`: without an exit code the process was killed by a signal. -/
def shouldRestartOnExit (policy : RestartPolicy) : Option Int → Bool
  | some 0 => policy.contains onSuccessFlag
  | _ => policy.contains onFailureFlag

def shouldRestartOnUnhealthy (policy : RestartPolicy) : Bool := policy.contains onUnhealthyFlag

end RestartPolicy

/-- The extended form of a restart section. -/
structure RestartSettings where
  policy : RestartPolicy := {}
  watch : ListField := .static []
  gracePeriod : ConfigValue String := .static "0s"
  delay : ConfigValue String := .static "0s"
  maxDelay : ConfigValue String := .static "0s"

inductive RestartConfig where
  | simple (policy : RestartPolicy)
  | extended (settings : RestartSettings)

instance : Inhabited RestartConfig := ⟨.simple {}⟩

namespace RestartConfig

def policy : RestartConfig → RestartPolicy
  | simple policy => policy
  | extended settings => settings.policy

/-- `watch_patterns`: the patterns that need no computation. -/
def watchPatterns : RestartConfig → List String
  | simple _ => []
  | extended settings => (settings.watch.asStatic.getD []).filterMap ConfigValue.asStatic

def shouldRestartOnExit (config : RestartConfig) (exitCode : Option Int) : Bool :=
  config.policy.shouldRestartOnExit exitCode

end RestartConfig

/-- The state of a dependency that a service waits for before it starts. -/
inductive DependencyCondition where
  | serviceStarted
  | serviceHealthy
  | serviceCompletedSuccessfully
  | serviceUnhealthy
  | serviceFailed
  | serviceStopped
  deriving DecidableEq, Repr, Inhabited

def DependencyCondition.debug : DependencyCondition → String
  | serviceStarted => "ServiceStarted"
  | serviceHealthy => "ServiceHealthy"
  | serviceCompletedSuccessfully => "ServiceCompletedSuccessfully"
  | serviceUnhealthy => "ServiceUnhealthy"
  | serviceFailed => "ServiceFailed"
  | serviceStopped => "ServiceStopped"

def DependencyCondition.asStr : DependencyCondition → String
  | serviceStarted => "service_started"
  | serviceHealthy => "service_healthy"
  | serviceCompletedSuccessfully => "service_completed_successfully"
  | serviceUnhealthy => "service_unhealthy"
  | serviceFailed => "service_failed"
  | serviceStopped => "service_stopped"

structure ExitCodeRange where
  start : Int
  finish : Int
  deriving DecidableEq, Repr

abbrev ExitCodeFilter := List ExitCodeRange

/-- `ExitCodeFilter::matches`: a filter without ranges lets every code pass. -/
def ExitCodeFilter.accepts (filter : ExitCodeFilter) (code : Int) : Bool :=
  filter.isEmpty || filter.any fun range => range.start ≤ code && code ≤ range.finish

structure DependencyConfig where
  condition : DependencyCondition := .serviceStarted
  timeout : Option Nat := none
  restart : Bool := false
  exitCode : ExitCodeFilter := []
  allowSkipped : Bool := false
  deriving DecidableEq, Repr

/-- `DependsOn`: the entries in the order in which they are visited. -/
abbrev DependsOn := List (String × DependencyConfig)

structure RawServiceConfig where
  condition : ConfigValue (Option Bool) := .static none
  command : ListField := .static []
  run : ConfigValue (Option String) := .static none
  workingDir : ConfigValue (Option String) := .static none
  user : ConfigValue (Option String) := .static none
  groups : ListField := .static []
  limits : ConfigValue (Option ResourceLimits) := .static none
  healthcheck : ConfigValue (Option HealthCheck) := .static none
  hooks : Option ServiceHooks := none
  noNewPrivileges : Option Bool := none
  permissions : Option ServicePermissions := none
  restart : ConfigValue RestartConfig := .static default
  dependsOn : DependsOn := []

structure KeplerConfig where
  acl : Option AclConfig := none
  globalAutostart : Bool := false
  outputMaxSize : Option String := none
  services : HashMap String RawServiceConfig

/-- `output_max_size`: one mebibyte when there is no limit that can be read. -/
def KeplerConfig.outputMaxSizeBytes (config : KeplerConfig) : Nat :=
  ((config.outputMaxSize.bind fun text => (parseMemoryLimit text).toOption).map
    UInt64.toNat).getD (1024 * 1024)

def validateServiceName (name : String) : Except String Unit :=
  if name = "" then .error "Service name cannot be empty"
  else if name.toList.all fun c => c.isLower || c.isDigit || c = '_' || c = '-' then .ok ()
  else .error ("Service name '" ++ name ++ "' contains invalid characters. Only lowercase " ++
    "letters (a-z), digits (0-9), underscores (_), and hyphens (-) are allowed.")

/-- A service with its fields computed, those of its health check too. -/
structure ServiceConfig where
  condition : Option Bool := none
  command : List String
  workingDir : Option String := none
  user : Option String := none
  groups : List String := []
  limits : Option ResourceLimits := none
  healthcheck : Option HealthCheck := none
  hooks : Option ServiceHooks := none
  noNewPrivileges : Option Bool := none
  permissions : Option ServicePermissions := none
  restart : RestartConfig := default

/-- The user specification of a config's owner: its uid and gid. -/
def ownerSpec (uid gid : UInt32) : String := toString uid ++ ":" ++ toString gid

/-- `resolve_default_user` for a service: an absent user becomes the owner. -/
def RawServiceConfig.withDefaultUser (spec : String) (raw : RawServiceConfig) : RawServiceConfig :=
  match raw.user with
  | .static none => { raw with user := .static (some spec) }
  | .static (some _) | .dynamic _ => raw

/-- `resolve_default_user`: nothing changes for root, the daemon's own user. -/
def KeplerConfig.resolveDefaultUser (config : KeplerConfig) (uid gid : UInt32) : KeplerConfig :=
  if uid = 0 then config
  else { config with
    services := config.services.mapValues (RawServiceConfig.withDefaultUser (ownerSpec uid gid)) }

end Kepler
