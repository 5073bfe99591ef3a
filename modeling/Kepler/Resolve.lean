/-
This file models how the fields of a config get their values when a service or a hook starts
(`config/mod.rs`, `config/resolvable.rs`): static fields are taken as they are, expressions
go to the config's Lua evaluator.

The evaluator is given by what it makes of an expression for each type of field. The
environment and the log settings of a service are computed along the way. No other field
depends on their values, but they can fail.
-/

import Kepler.Library.FileTree
import Kepler.Spawn

namespace Kepler

open Result

/-- `LuaEvaluator` with its context: the value of an expression at the path of its field, read as
the type of the field. -/
structure Evaluator where
  text : String → String → Except DaemonError String
  optionalText : String → String → Except DaemonError (Option String)
  optionalBool : String → String → Except DaemonError (Option Bool)
  list : String → String → Except DaemonError (List (ConfigValue String))
  limits : String → String → Except DaemonError (Option ResourceLimits)
  healthcheck : String → String → Except DaemonError (Option HealthCheck)
  /-- The environment file and the environment of a service or a hook. -/
  environment : String → Except DaemonError Unit
  restart : String → String → Except DaemonError RestartConfig
  /-- The log settings, the outputs and the backoff factor of a service. -/
  otherFields : String → Except DaemonError Unit
  /-- `resolve_shell`. -/
  shell : String

namespace ConfigValue

variable {Value : Type}

/-- `resolve_with_env`. -/
def resolve (evaluate : String → String → Except DaemonError Value) (path : String) :
    ConfigValue Value → Except DaemonError Value
  | static value => .ok value
  | dynamic expression => evaluate expression path

/-- `map_static`, for the optional reading of a field that is always there. -/
def mapSome : ConfigValue Value → ConfigValue (Option Value)
  | static value => static (some value)
  | dynamic expression => dynamic expression

end ConfigValue

section

variable (evaluator : Evaluator)

def resolveNestedVec (path : String) (field : ListField) : Except DaemonError (List String) := do
  let items ← field.resolve evaluator.list path
  items.zipIdx.mapM fun (item, index) => item.resolve evaluator.text s!"{path}[{index}]"

def shellCommand (script : String) : List String := [evaluator.shell, "-c", script]

/-- The command of a service or a hook: its script, or else its command list. -/
def resolveCommand (path : String) (run : ConfigValue (Option String)) (command : ListField) :
    Except DaemonError (List String) :=
  if run.isPresent then
    (run.resolve evaluator.optionalText s!"{path}.run").map fun script =>
      (script.map (shellCommand evaluator)).getD []
  else resolveNestedVec evaluator s!"{path}.command" command

/-- The command of a health check. A script that comes out absent leaves the list as it is. -/
def resolveCheckCommand (path : String) (check : HealthCheck) : Except DaemonError HealthCheck :=
  if check.run.isPresent then
    (check.run.resolve evaluator.optionalText s!"{path}.run").map fun script =>
      { check with
        run := .static none
        command := match script with
          | some script => .static (wrapVec (shellCommand evaluator script))
          | none => check.command }
  else (resolveNestedVec evaluator s!"{path}.command" check.command).map fun command =>
    { check with command := .static (wrapVec command) }

/-- The health check of a service with its inner fields computed. -/
def resolveHealthCheck (path : String) (check : HealthCheck) : Except DaemonError HealthCheck := do
  let withCommand ← resolveCheckCommand evaluator path check
  let user ← check.user.resolve evaluator.optionalText s!"{path}.user"
  let groups ← resolveNestedVec evaluator s!"{path}.groups" check.groups
  return { withCommand with user := .static user, groups := .static (wrapVec groups) }

def resolveOptionalCheck (path : String) :
    Option HealthCheck → Except DaemonError (Option HealthCheck)
  | some check => (resolveHealthCheck evaluator path check).map some
  | none => .ok none

/-- The restart section of a service with its inner fields computed. -/
def resolveRestart (path : String) : RestartConfig → Except DaemonError RestartConfig
  | .simple policy => .ok (.simple policy)
  | .extended settings => do
    let watch ← resolveNestedVec evaluator s!"{path}.watch" settings.watch
    let gracePeriod ← settings.gracePeriod.resolve evaluator.text s!"{path}.grace_period"
    let delay ← settings.delay.resolve evaluator.text s!"{path}.delay"
    let maxDelay ← settings.maxDelay.resolve evaluator.text s!"{path}.max_delay"
    return .extended {
      policy := settings.policy
      watch := .static (wrapVec watch)
      gracePeriod := .static gracePeriod
      delay := .static delay
      maxDelay := .static maxDelay }

/-- `resolve_service`: a service without a user gets the default user. -/
def resolveService (name : String) (raw : RawServiceConfig) (defaultUser : Option String) :
    Except DaemonError ServiceConfig := do
  evaluator.environment name
  let command ← resolveCommand evaluator name raw.run raw.command
  let workingDir ← raw.workingDir.resolve evaluator.optionalText s!"{name}.working_dir"
  let condition ← raw.condition.resolve evaluator.optionalBool s!"{name}.if"
  let user ← raw.user.resolve evaluator.optionalText s!"{name}.user"
  let groups ← resolveNestedVec evaluator s!"{name}.groups" raw.groups
  let check ← raw.healthcheck.resolve evaluator.healthcheck s!"{name}.healthcheck"
  let healthcheck ← resolveOptionalCheck evaluator s!"{name}.healthcheck" check
  let limits ← raw.limits.resolve evaluator.limits s!"{name}.limits"
  let restart ← raw.restart.resolve evaluator.restart s!"{name}.restart"
  let restart ← resolveRestart evaluator s!"{name}.restart" restart
  evaluator.otherFields name
  return {
    condition
    command
    workingDir
    user := user.or defaultUser
    groups
    limits
    healthcheck
    hooks := raw.hooks
    noNewPrivileges := raw.noNewPrivileges
    permissions := raw.permissions
    restart }

end

theorem resolveService_eq_ok {evaluator : Evaluator} {name : String} {raw : RawServiceConfig}
    {defaultUser : Option String} {resolved : ServiceConfig}
    (success : resolveService evaluator name raw defaultUser = .ok resolved) :
    (defaultUser.isSome → resolved.user.isSome) ∧ resolved.permissions = raw.permissions ∧
      ∃ written, raw.restart.resolve evaluator.restart s!"{name}.restart" = .ok written ∧
        resolveRestart evaluator s!"{name}.restart" written = .ok resolved.restart := by
  obtain ⟨_, _, success⟩ := bind_eq_ok.mp success
  obtain ⟨command, _, success⟩ := bind_eq_ok.mp success
  obtain ⟨workingDir, _, success⟩ := bind_eq_ok.mp success
  obtain ⟨condition, _, success⟩ := bind_eq_ok.mp success
  obtain ⟨user, _, success⟩ := bind_eq_ok.mp success
  obtain ⟨groups, _, success⟩ := bind_eq_ok.mp success
  obtain ⟨check, _, success⟩ := bind_eq_ok.mp success
  obtain ⟨healthcheck, _, success⟩ := bind_eq_ok.mp success
  obtain ⟨limits, _, success⟩ := bind_eq_ok.mp success
  obtain ⟨written, value, success⟩ := bind_eq_ok.mp success
  obtain ⟨restart, computed, success⟩ := bind_eq_ok.mp success
  obtain ⟨_, _, success⟩ := bind_eq_ok.mp success
  cases success
  refine ⟨fun hasDefault => ?_, rfl, written, value, computed⟩
  rw [Option.isSome_or, hasDefault, Bool.or_true]

def joinPath (directory path : String) : String :=
  if isAbsolute path then path else directory ++ "/" ++ path

def configDir (canonical : String) : String :=
  match (Text.split '/' canonical).dropLast with
  | [] | [""] => "/"
  | parts => Text.join '/' parts

/-! ### Hooks -/

/-- `ResolvableCommand::resolve` for a hook. Whether the process may gain privileges is settled
later. -/
def resolveHook (evaluator : Evaluator) (path directory : String) (hook : HookCommand) :
    Except DaemonError CommandSpec := do
  evaluator.environment path
  let programAndArgs ← match hook with
    | .script run _ => resolveCommand evaluator path run.mapSome (.static [])
    | .command command _ => resolveCommand evaluator path (.static none) command
  let workingDir ← hook.common.workingDir.resolve evaluator.optionalText s!"{path}.working_dir"
  let user ← hook.common.user.resolve evaluator.optionalText s!"{path}.user"
  let groups ← resolveNestedVec evaluator s!"{path}.groups" hook.common.groups
  let limits ← hook.common.limits.resolve evaluator.limits s!"{path}.limits"
  return {
    programAndArgs
    workingDir := (workingDir.map (joinPath directory)).getD directory
    user
    groups
    limits }

end Kepler
