/-
This file models the orchestrator (`orchestrator/mod.rs`) and the part of `handle_request` that
hands requests to it: how the services of a config are started, run, recreated, restarted and
stopped, and how a service that is launched gets its token.

A request claims the services it starts. Tasks of their own launch them later, with the handle that
the request got from the registry. What the request asked for reaches a launch only through that
handle. The messages of successful requests are left out.
-/

import Kepler.Gate
import Kepler.Processes

namespace Kepler

/-! ### What a request finds out -/

/-- What the daemon learns about the services while it carries out a request. -/
structure ServiceStates where
  /-- `get_start_order`, which fails on cyclic dependencies. -/
  startOrder : KeplerConfig → Except DaemonError (List String)
  /-- The services that a start can claim: those that are not active. -/
  claimable : String → Bool
  initialized : String → Bool
  restartable : String → Bool
  allStopped : Bool
  /-- Creating the Lua evaluator that the started services share. -/
  evaluator : Except String Unit
  /-- The failure of a start that the request waits for. -/
  failure : Option OrchestratorError
  /-- One of the services that the request waits for has come up. -/
  anyStarted : Bool
  /-- `parse_signal_name` knows the signal. -/
  knownSignal : String → Bool

/-- The outcome of a request, the services it claimed with their actors, and the daemon it leaves.
-/
structure RequestResult (Failure : Type) where
  outcome : Except Failure Unit
  started : List (ConfigActor × String)
  daemon : Daemon

def RequestResult.answer (result : RequestResult OrchestratorError) : RequestResult Response where
  outcome := result.outcome.mapError fun e => .error e.text
  started := result.started
  daemon := result.daemon

namespace Daemon

/-! ### Steps that requests share -/

def mergeOverrides (daemon : Daemon) (world : World) (canonical : String)
    (overrideEnvs defineFlags : Option Bindings) : Daemon :=
  let withEnv := match overrideEnvs with
    | some overrides => daemon.command world canonical (ConfigActor.mergeKeplerEnv world overrides)
    | none => daemon
  match defineFlags with
  | some flags => withEnv.command world canonical (ConfigActor.mergeKeplerFlags world flags)
  | none => withEnv

def checkNames (config : KeplerConfig) (services : List String) : Except OrchestratorError Unit :=
  match services.find? fun name => (config.services.lookup name).isNone with
  | some name => .error (.serviceNotFound name)
  | none => .ok ()

/-- The services that a request names, or all in their start order. -/
def selectServices (states : ServiceStates) (config : KeplerConfig) (services : List String) :
    Except OrchestratorError (List String) :=
  if services = [] then (states.startOrder config).mapError .daemonError
  else (checkNames config services).map fun _ => services

def revokeForConfig (daemon : Daemon) (configPath : String) : Daemon :=
  { daemon with tokens := daemon.tokens.revokeForConfig configPath }

def postStartupWork (daemon : Daemon) (world : World) (canonical : String) (anyStarted : Bool) :
    Daemon :=
  if anyStarted then daemon.command world canonical (ConfigActor.takeSnapshotIfNeeded world)
  else daemon

/-- Removing the state directory of a config. A failure is only logged. -/
def removeStateDir (daemon : Daemon) (world : World) (canonical : String) : Daemon :=
  attempt (world.remove .directory) (fun daemon => daemon.setStateDir world canonical none) daemon

/-! ### Starting and stopping

The path that the orchestrator is called with is canonical. -/

/-- The end of `start_services`. A request that names its services waits for them, and ends when one
of them fails. -/
def startSelected (daemon : Daemon) (world : World) (states : ServiceStates)
    (configPath : String) (actor : ConfigActor) (named : Bool) (selected : List String) :
    RequestResult OrchestratorError :=
  let claimed := selected.filter states.claimable
  if claimed = [] then ⟨.ok (), [], daemon⟩
  else match states.evaluator, (if named then states.failure else none) with
    | .error e, _ => ⟨.error (.configError e), [], daemon⟩
    | .ok (), some failure => ⟨.error failure, claimed.map (actor, ·), daemon⟩
    | .ok (), none => ⟨.ok (), claimed.map (actor, ·),
        daemon.postStartupWork world configPath (!named || states.anyStarted)⟩

def startServices (daemon : Daemon) (world : World) (states : ServiceStates)
    (configPath : String) (services : List String) (sysEnv : Option Bindings) (terms : LoadTerms)
    (overrideEnvs defineFlags : Option Bindings) : RequestResult OrchestratorError :=
  match daemon.getOrCreate world configPath sysEnv terms with
  | (.error e, left) => ⟨.error (.daemonError e), [], left⟩
  | (.ok actor, loaded) =>
    let merged := loaded.mergeOverrides world configPath overrideEnvs defineFlags
    match selectServices states actor.config services with
    | .error e => ⟨.error e, [], merged⟩
    | .ok selected =>
      merged.startSelected world states configPath actor (!services.isEmpty) selected

/-- The services of a stop lose their tokens when they were running. -/
def revokeStopped (daemon : Daemon) (configPath : String) (stopped : List String) : Daemon :=
  { daemon with
    tokens := stopped.foldl (fun tokens service => tokens.revokeForService configPath service)
      daemon.tokens }

/-- `stop_services`. Stopping all services with `clean` also unloads the config and removes its
state directory. -/
def stopServices (daemon : Daemon) (world : World) (states : ServiceStates)
    (configPath : String) (services : List String) (clean : Bool) :
    Except OrchestratorError Unit × Daemon :=
  match daemon.get world configPath with
  | none => (.ok (), if clean then daemon.removeStateDir world configPath else daemon)
  | some actor =>
    match selectServices states actor.config services with
    | .error e => (.error e, daemon)
    | .ok selected =>
      let stopped := daemon.revokeStopped configPath (selected.filter fun service =>
        !states.claimable service)
      if services.isEmpty && clean then
        (.ok (), ((stopped.revokeForConfig configPath).unload world configPath true).removeStateDir
          world configPath)
      else (.ok (), stopped)

/-- The services that a restart selects, in start order. A named one must have completed a first
startup. -/
def selectRestarts (states : ServiceStates) (config : KeplerConfig) (services : List String)
    (noDeps : Bool) : Except OrchestratorError (List String) :=
  (checkNames config services).bind fun _ =>
    match services.find? (!states.initialized ·) with
    | some name => .error (.serviceNotInitialized name)
    | none =>
      let candidates := if services = [] then config.services.keys else services
      let selected := candidates.filter fun service =>
        states.initialized service && states.restartable service
      if selected = [] ∨ noDeps then .ok selected
      else ((states.startOrder config).mapError .daemonError).map fun order =>
        order.filter (· ∈ selected)

/-- `restart_services_with_states`: the config must be loaded, and keeps its actor. -/
def restartServices (daemon : Daemon) (world : World) (states : ServiceStates)
    (configPath : String) (services : List String) (noDeps : Bool)
    (overrideEnvs defineFlags : Option Bindings) : RequestResult OrchestratorError :=
  match daemon.get world configPath with
  | none => ⟨.error (.configNotFound configPath), [], daemon⟩
  | some actor =>
    let merged := daemon.mergeOverrides world configPath overrideEnvs defineFlags
    match selectRestarts states actor.config services noDeps, states.evaluator with
    | .error e, _ => ⟨.error e, [], merged⟩
    | .ok [], _ => ⟨.ok (), [], merged⟩
    | .ok (_ :: _), .error e => ⟨.error (.configError e), [], merged⟩
    | .ok (first :: rest), .ok () => ⟨states.failure.elim (.ok ()) .error,
        (first :: rest).map (actor, ·), merged.postStartupWork world configPath states.anyStarted⟩

/-! ### Loading a config anew -/

/-- What `recreate_services` and `run_services` do with a loaded config: its services are stopped,
its snapshot cleared, its tokens revoked and its actor unloaded. -/
def retire (daemon : Daemon) (world : World) (states : ServiceStates) (configPath : String)
    (stopClean unloadClean : Bool) : Except OrchestratorError Unit × Daemon :=
  match daemon.get world configPath with
  | none => (.ok (), daemon)
  | some _ =>
    match (if states.allStopped then (.ok (), daemon)
        else daemon.stopServices world states configPath [] stopClean) with
    | (.error e, left) => (.error e, left)
    | (.ok (), stopped) =>
      let cleared := stopped.command world configPath (ConfigActor.clearSnapshot world)
      (.ok (), (cleared.revokeForConfig configPath).unload world configPath unloadClean)

/-- Loading a config and starting its services. The second lookup comes without a ceiling, but finds
the actor of the first. -/
def loadAndStart (daemon : Daemon) (world : World) (states : ServiceStates)
    (configPath : String) (services : List String) (sysEnv : Option Bindings) (terms : LoadTerms)
    (overrideEnvs defineFlags : Option Bindings)
    (prepare : ConfigActor → StateDir → ConfigActor × StateDir) : RequestResult OrchestratorError :=
  match daemon.getOrCreate world configPath sysEnv terms with
  | (.error e, left) => ⟨.error (.daemonError e), [], left⟩
  | (.ok _, loaded) =>
    (loaded.command world configPath prepare).startServices world states configPath services
      sysEnv { terms with permissionCeiling := none } overrideEnvs defineFlags

def recreateServices (daemon : Daemon) (world : World) (states : ServiceStates)
    (configPath : String) (sysEnv : Option Bindings) (terms : LoadTerms)
    (defineFlags : Option Bindings) : RequestResult OrchestratorError :=
  match daemon.retire world states configPath true false with
  | (.error e, left) => ⟨.error e, [], left⟩
  | (.ok (), retired) => retired.loadAndStart world states configPath [] sysEnv terms none
      defineFlags (ConfigActor.takeSnapshotIfNeeded world)

/-- What `run_services` removes from a state directory. Failures are only logged. -/
def clearForRun (world : World) (dir : StateDir) : StateDir :=
  attempt (world.remove .envFiles) (fun dir => { dir with envFiles := false }) <|
    attempt (world.remove .sourcePath) (fun dir => { dir with sourcePath := none }) <|
      attempt (world.remove .stateJson) (fun dir => { dir with state := none }) <|
        attempt (world.remove .configYaml) (fun dir => { dir with configYaml := none }) <|
          attempt (world.remove .expandedConfig)
            (fun dir => { dir with expandedConfig := none }) dir

def clearState (daemon : Daemon) (world : World) (canonical : String) (startClean : Bool) :
    Daemon :=
  if startClean then daemon.removeStateDir world canonical
  else daemon.setStateDir world canonical
    ((daemon.stateDir world canonical).map (clearForRun world))

def runServices (daemon : Daemon) (world : World) (states : ServiceStates)
    (configPath : String) (services : List String) (sysEnv : Option Bindings) (terms : LoadTerms)
    (overrideEnvs defineFlags : Option Bindings) (startClean : Bool) :
    RequestResult OrchestratorError :=
  match daemon.retire world states configPath false true with
  | (.error e, left) => ⟨.error e, [], left⟩
  | (.ok (), retired) => (retired.clearState world configPath startClean).loadAndStart world states
      configPath services sysEnv terms overrideEnvs defineFlags
      fun actor dir => (actor.setSuppressSnapshot, dir)

end Daemon

/-! ### Carrying out a request -/

/-- The ceiling that a caller sets for the services of the configs it loads. -/
def AuthContext.permissionCeiling : AuthContext → Option (Finset Right)
  | .token _ _ context => some context.allow
  | .root _ _ | .group _ _ => none

def parseHardening : Option String → Except String (Option HardeningLevel)
  | some text => (HardeningLevel.fromStr text).map some
  | none => .ok none

namespace Daemon

def forgetUnloadedAcl (daemon : Daemon) (world : World) (canonical : String) : Daemon :=
  { daemon with unloadedAclCache := daemon.unloadedAclCache.erase (world.configHash canonical) }

def refuse (daemon : Daemon) (message : String) : RequestResult Response :=
  ⟨.error (.error message), [], daemon⟩

def withPath (daemon : Daemon) (world : World) (configPath : String)
    (carryOut : String → RequestResult Response) : RequestResult Response :=
  match world.canonicalizeConfigPath configPath with
  | .error e => daemon.refuse e.text
  | .ok canonical => carryOut canonical

/-- What the requests that load a config do alike: canonicalize the path, parse the level, set the
terms and drop the cached section. -/
def withTerms (daemon : Daemon) (world : World) (auth : AuthContext) (configPath : String)
    (hardening : Option String)
    (carryOut : Daemon → String → LoadTerms → RequestResult OrchestratorError) :
    RequestResult Response :=
  daemon.withPath world configPath fun canonical =>
    match parseHardening hardening with
    | .error e => daemon.refuse e
    | .ok level => (carryOut (daemon.forgetUnloadedAcl world canonical) canonical {
        owner := some (auth.uid, auth.gid)
        hardening := level
        permissionCeiling := auth.permissionCeiling }).answer

def stopBranch (daemon : Daemon) (world : World) (states : ServiceStates) (fields : StopRequest)
    (canonical : String) : RequestResult Response :=
  match fields.signal.filter (!states.knownSignal ·) with
  | some signal => daemon.refuse s!"Unknown signal: {signal}"
  | none =>
    let (outcome, stopped) :=
      daemon.stopServices world states canonical fields.services fields.clean
    RequestResult.answer ⟨outcome, [],
      if fields.clean then stopped.forgetUnloadedAcl world canonical else stopped⟩

/-- The part of `handle_request` behind the gates, for the requests that reach the services of a
config. -/
def dispatch (daemon : Daemon) (world : World) (states : ServiceStates) (auth : AuthContext)
    (request : Request) : RequestResult Response :=
  match request with
  | .start fields => daemon.withTerms world auth fields.configPath fields.hardening
      fun daemon canonical terms => daemon.startServices world states canonical fields.services
        fields.sysEnv terms fields.overrideEnvs fields.defineFlags
  | .run fields => daemon.withTerms world auth fields.configPath fields.hardening
      fun daemon canonical terms => daemon.runServices world states canonical fields.services
        fields.sysEnv terms fields.overrideEnvs fields.defineFlags fields.startClean
  | .recreate fields => daemon.withTerms world auth fields.configPath fields.hardening
      fun daemon canonical terms => daemon.recreateServices world states canonical fields.sysEnv
        terms fields.defineFlags
  | .restart fields => daemon.withPath world fields.configPath fun canonical =>
      (daemon.restartServices world states canonical fields.services fields.noDeps
        fields.overrideEnvs fields.defineFlags).answer
  | .stop fields => daemon.withPath world fields.configPath
      (daemon.stopBranch world states fields)
  | _ => ⟨.ok (), [], daemon⟩

/-! ### The token of a service -/

def permittedRights (handle : ConfigActorHandle) (permissions : ServicePermissions) :
    Except OrchestratorError (Finset Right) :=
  ((expandAllow permissions.allow ∅).mapError fun e =>
    .spawnFailed s!"invalid permission rights: {e}").map fun expanded =>
      match handle.permissionCeiling with
      | some ceiling => expanded ∩ ceiling
      | none => expanded

def tokenHardening (handle : ConfigActorHandle) (daemonLevel : HardeningLevel)
    (permissions : ServicePermissions) : Except OrchestratorError HardeningLevel :=
  match permissions.hardening with
  | some text => (HardeningLevel.fromStr text).mapError fun e =>
      .spawnFailed s!"invalid permissions.hardening value: {e}"
  | none => .ok (handle.effectiveHardening daemonLevel)

/-- The authorizer of a token, compiled on the machine of the config's section. -/
def compileAuthorizer (daemon : Daemon) (world : World) (handle : ConfigActorHandle)
    (service : String) :
    Option String → Except OrchestratorError (Option RegistryKey × Daemon)
  | none => .ok (none, daemon)
  | some source =>
    match (daemon.currentAcl handle.acl).compileTokenAuthorizer world.engine source with
    | .error e => .error (.spawnFailed
        ("failed to compile token authorizer for '" ++ service ++ "': " ++ e))
    | .ok (key, _) => .ok (some key, { daemon with
        tokenAuthorizers := daemon.tokenAuthorizers.insert key.machine
          ((daemon.tokenAuthorizers.lookup key.machine).getD [] ++ [source]) })

def newTokenContext (daemon : Daemon) (world : World) (daemonLevel : HardeningLevel)
    (handle : ConfigActorHandle) (service : String) (permissions : ServicePermissions) :
    Except OrchestratorError (TokenContext × Daemon) := do
  let allow ← permittedRights handle permissions
  let maxHardening ← tokenHardening handle daemonLevel permissions
  let (authorizer, compiled) ← daemon.compileAuthorizer world handle service permissions.authorize
  return ({ allow, maxHardening, service, configPath := handle.configPath, authorizer }, compiled)

/-- `create_service_token_guard_for_operation`. Drawing a new token can fail. -/
def createServiceTokenGuard (daemon : Daemon) (world : World) (daemonLevel : HardeningLevel)
    (handle : ConfigActorHandle) (service : String) (permissions : Option ServicePermissions)
    (drawn : Except String Token) : Except OrchestratorError (Option TokenContext) × Daemon :=
  match permissions with
  | none => (.ok none, daemon)
  | some permissions =>
    match daemon.newTokenContext world daemonLevel handle service permissions, drawn with
    | .error e, _ => (.error e, daemon)
    | .ok (_, compiled), .error e =>
      (.error (.spawnFailed s!"failed to generate auth token: {e}"), compiled)
    | .ok (context, compiled), .ok token =>
      (.ok (some context), { compiled with tokens := compiled.tokens.register token context })

end Daemon

end Kepler
