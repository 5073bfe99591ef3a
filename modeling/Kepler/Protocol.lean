/-
This file models the requests of `kepler-protocol/src/protocol.rs` that a client sends to
the daemon, with every field, and the answers with which the daemon refuses a request.

Paths are texts: a request arrives as serialised text, so its paths are valid Unicode and
reading them as text loses nothing. Time stamps, row ids and limits are integers.
-/

import Kepler.Library.HashMap

namespace Kepler

/-- The terminal states that a manual restart can be asked to include. -/
inductive RestartState where
  | stopped
  | exited
  | failed
  | killed
  | all
  deriving DecidableEq, Repr

def RestartState.asStr : RestartState → String
  | stopped => "stopped"
  | exited => "exited"
  | failed => "failed"
  | killed => "killed"
  | all => "all"

def RestartState.includes (selected : RestartState) (status : String) : Bool :=
  match selected with
  | stopped => status = "stopped"
  | exited => status = "exited"
  | failed => status = "failed"
  | killed => status = "killed"
  | all => status = "stopped" || status = "exited" || status = "failed" || status = "killed"

/-- A set of environment variables or flags sent along with a request. -/
abbrev Bindings : Type := HashMap String String

/-! ### The fields of the requests on one config -/

structure StartRequest where
  configPath : String
  services : List String := []
  sysEnv : Option Bindings := none
  noDeps : Bool := false
  overrideEnvs : Option Bindings := none
  hardening : Option String := none
  follow : Bool := false
  defineFlags : Option Bindings := none

structure RunRequest where
  configPath : String
  services : List String := []
  sysEnv : Option Bindings := none
  noDeps : Bool := false
  overrideEnvs : Option Bindings := none
  hardening : Option String := none
  follow : Bool := false
  startClean : Bool := false
  defineFlags : Option Bindings := none

structure StopRequest where
  configPath : String
  services : List String := []
  clean : Bool
  signal : Option String := none

structure RestartRequest where
  configPath : String
  services : List String := []
  sysEnv : Option Bindings := none
  noDeps : Bool := false
  overrideEnvs : Option Bindings := none
  defineFlags : Option Bindings := none
  states : List RestartState := []

structure RecreateRequest where
  configPath : String
  sysEnv : Option Bindings := none
  hardening : Option String := none
  defineFlags : Option Bindings := none

structure LogsStreamRequest where
  configPath : String
  services : List String := []
  afterId : Option Int := none
  fromEnd : Bool := false
  limit : Nat
  noHooks : Bool := false
  filter : Option String := none
  sql : Bool := false
  raw : Bool := false
  tail : Bool := false
  afterTs : Option Int := none
  beforeTs : Option Int := none

structure SubscribeRequest where
  configPath : String
  services : Option (List String)

structure InspectRequest where
  configPath : String
  services : List String := []
  includeServices : Bool := false
  includeEnvironment : Bool := false
  includeFlags : Bool := false

structure MonitorMetricsRequest where
  configPath : String
  service : Option String
  since : Option Int
  limit : Option Nat := none
  filter : Option String := none
  sql : Bool := false
  bucketMs : Option Int := none
  afterTs : Option Int := none
  beforeTs : Option Int := none

/-! ### Requests and refusals -/

/-- A request of a client. One that carries only the path of its config has that as its field. -/
inductive Request where
  | start (fields : StartRequest)
  | run (fields : RunRequest)
  | stop (fields : StopRequest)
  | restart (fields : RestartRequest)
  | recreate (fields : RecreateRequest)
  | status (configPath : Option String)
  | shutdown
  | ping
  | listConfigs
  | prune (force dryRun : Bool)
  | logsStream (fields : LogsStreamRequest)
  | subscribeLogs (configPath : String)
  | subscribe (fields : SubscribeRequest)
  | inspect (fields : InspectRequest)
  | checkQuiescence (configPath : String)
  | checkReadiness (configPath : String)
  | userRights (configPath : String)
  | configOwner (configPath : String)
  | monitorMetrics (fields : MonitorMetricsRequest)

/-- The answers that end a request before it is carried out. -/
inductive Response where
  | error (message : String)
  | permissionDenied (message : String)
  deriving DecidableEq, Repr

namespace Request

/-- `extract_config_path` of the daemon: the config that a request is checked against. -/
def extractConfigPath : Request → Option String
  | start fields => some fields.configPath
  | run fields => some fields.configPath
  | stop fields => some fields.configPath
  | restart fields => some fields.configPath
  | recreate fields => some fields.configPath
  | logsStream fields => some fields.configPath
  | subscribeLogs configPath => some configPath
  | subscribe fields => some fields.configPath
  | checkQuiescence configPath => some configPath
  | checkReadiness configPath => some configPath
  | userRights configPath => some configPath
  | monitorMetrics fields => some fields.configPath
  | inspect fields => some fields.configPath
  | status configPath => configPath
  | ping | shutdown | listConfigs | prune _ _ | configOwner _ => none

def requestedHardening : Request → Option String
  | start fields => fields.hardening
  | run fields => fields.hardening
  | recreate fields => fields.hardening
  | _ => none

def withHardening (level : String) : Request → Request
  | start fields => start { fields with hardening := some level }
  | run fields => run { fields with hardening := some level }
  | recreate fields => recreate { fields with hardening := some level }
  | request => request

def withConfigPath (path : String) : Request → Request
  | start fields => start { fields with configPath := path }
  | run fields => run { fields with configPath := path }
  | stop fields => stop { fields with configPath := path }
  | restart fields => restart { fields with configPath := path }
  | recreate fields => recreate { fields with configPath := path }
  | status (some _) => status (some path)
  | logsStream fields => logsStream { fields with configPath := path }
  | subscribeLogs _ => subscribeLogs path
  | subscribe fields => subscribe { fields with configPath := path }
  | inspect fields => inspect { fields with configPath := path }
  | checkQuiescence _ => checkQuiescence path
  | checkReadiness _ => checkReadiness path
  | userRights _ => userRights path
  | configOwner _ => configOwner path
  | monitorMetrics fields => monitorMetrics { fields with configPath := path }
  | request => request

@[simp] theorem extractConfigPath_withHardening (level : String) (request : Request) :
    (request.withHardening level).extractConfigPath = request.extractConfigPath := by
  cases request <;> rfl

theorem extractConfigPath_withConfigPath {request : Request} {rawPath : String} (path : String)
    (spelled : request.extractConfigPath = some rawPath) :
    (request.withConfigPath path).extractConfigPath = some path := by
  cases request with
  | status configPath => cases configPath <;> simp_all [withConfigPath, extractConfigPath]
  | _ => simp_all [withConfigPath, extractConfigPath]

theorem withConfigPath_self {request : Request} {rawPath : String}
    (spelled : request.extractConfigPath = some rawPath) :
    request.withConfigPath rawPath = request := by
  cases request with
  | status configPath =>
    obtain rfl : configPath = some rawPath := spelled
    rfl
  | ping | shutdown | listConfigs | prune | configOwner => simp [extractConfigPath] at spelled
  | _ =>
    cases spelled
    rfl

end Request

end Kepler
