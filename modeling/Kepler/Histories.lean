/-
This file models the daemon over time. Callers send requests, tasks launch the services that the
requests have claimed, services exit and are launched again, and the daemon itself is restarted and
restores configs from their snapshots.

Each launch is recorded with the request it was claimed for. The main result is the rule by which
what a request demands of the footing of its services reaches every launch: the config must meet the
demand in the state that the request finds.
-/

import Kepler.Authorization
import Kepler.Footing

namespace Kepler

open Daemon List

/-! ### The state of a history -/

/-- A request that was carried out, as the client sent it, with its caller. -/
structure Origin where
  caller : AuthContext
  request : Request

/-- A service that a task launches with the actor of its request, or without a request. -/
structure Startup where
  actor : ConfigActor
  service : String
  origin : Option Origin

/-- A service that has been launched under a level of the daemon, with its token. -/
structure Launch where
  startup : Startup
  daemonLevel : HardeningLevel
  token : Option TokenContext

/-- The level that the daemon applies to a service that it launches. -/
def Launch.level (launch : Launch) : HardeningLevel :=
  launch.startup.actor.handle.effectiveHardening launch.daemonLevel

/-- The daemon, what its tasks are about to launch, and what has been launched. -/
structure System where
  daemon : Daemon
  process : DaemonProcess
  startups : List Startup
  launches : List Launch

/-- A startup is given by its place in the list. It can be launched again while its actor is there:
when the service has exited or a watched file has changed, without an origin from another actor.
That a stopped service is not launched any more is not part of the model. -/
inductive Event where
  | request (world : World) (states : ServiceStates) (peer : Peer) (request : Request)
  | launch (surroundings : Surroundings) (startup : Nat) (drawn : Except String Token)
  | relaunch (surroundings : Surroundings) (configPath service : String)
    (drawn : Except String Token)
  | exit (configPath service : String)
  | daemonRestart (process : DaemonProcess)
  | restore (world : World) (hash : String) (services : List String)

namespace Daemon

/-- `prepare_service_launch`, and `start_service_process` until the service has its token. -/
def launchService (daemon : Daemon) (process : DaemonProcess) (surroundings : Surroundings)
    (actor : ConfigActor) (service : String) (drawn : Except String Token) :
    Except OrchestratorError (Option TokenContext) × Daemon :=
  match actor.resolveLaunch process surroundings service with
  | .error e => (.error e, daemon)
  | .ok resolved => daemon.createServiceTokenGuard surroundings.world process.hardening
      actor.handle service resolved.permissions drawn

/-- The round of `discover_existing_configs` for one state directory. -/
def restore (daemon : Daemon) (world : World) (hash : String) :
    Option ConfigActor × Daemon :=
  match (daemon.stateDirs.lookup hash).bind fun dir => dir.expandedConfig.bind fun _ =>
      dir.sourcePath with
  | none => (none, daemon)
  | some source =>
    let (loaded, after) := daemon.getOrCreate world source none {}
    (loaded.toOption, after)

def restarted (daemon : Daemon) : Daemon :=
  { initial with stateDirs := daemon.stateDirs, nextMachine := daemon.nextMachine }

end Daemon

namespace System

def launch (system : System) (surroundings : Surroundings) (startup : Startup)
    (drawn : Except String Token) : System :=
  match system.daemon.launchService system.process surroundings startup.actor startup.service
      drawn with
  | (.error _, left) => { system with daemon := left }
  | (.ok token, left) => { system with
      daemon := left
      launches := system.launches ++ [⟨startup, system.process.hardening, token⟩] }

/-- `handle_request`: the gates, and then what the request asks for. -/
def handleRequest (system : System) (world : World) (states : ServiceStates) (peer : Peer)
    (request : Request) : System :=
  let verdict := system.daemon.authorize world peer request
  match verdict.outcome with
  | .error _ => { system with daemon := verdict.daemon }
  | .ok (caller, rewritten) =>
    let result := verdict.daemon.dispatch world states caller rewritten
    { system with
      daemon := result.daemon
      startups := system.startups ++ result.started.map fun (actor, service) =>
        ⟨actor, service, some ⟨caller, request⟩⟩ }

def step (system : System) : Event → System
  | .request world states peer request => system.handleRequest world states peer request
  | .launch surroundings index drawn =>
    match system.startups[index]? with
    | none => system
    | some startup => system.launch surroundings startup drawn
  | .relaunch surroundings configPath service drawn =>
    match system.daemon.get surroundings.world configPath with
    | none => system
    | some actor => system.launch surroundings ⟨actor, service, none⟩ drawn
  | .exit configPath service =>
    { system with daemon := system.daemon.revokeStopped configPath [service] }
  | .daemonRestart process =>
    { system with daemon := system.daemon.restarted, process := process, startups := [] }
  | .restore world hash services =>
    let (loaded, after) := system.daemon.restore world hash
    { system with
      daemon := after
      startups := system.startups ++
        loaded.toList.flatMap fun actor => services.map (⟨actor, ·, none⟩) }

end System

/-! ### Tokens and what they are made from -/

/-- The token of a launch is made from the permissions of its service and the actor. -/
def Launch.TokenMade (launch : Launch) : Prop :=
  ∀ created, launch.token = some created →
    ∃ permissions, launch.startup.actor.footing.permissions launch.startup.service =
        some permissions ∧
      Daemon.permittedRights launch.startup.actor.handle permissions = .ok created.allow ∧
      Daemon.tokenHardening launch.startup.actor.handle launch.daemonLevel permissions =
        .ok created.maxHardening

variable {surroundings : Surroundings} {process : DaemonProcess}

theorem permissions_of_resolveLaunch {actor : ConfigActor} {service : String}
    {resolved : ServiceConfig}
    (success : actor.resolveLaunch process surroundings service = .ok resolved) :
    actor.footing.permissions service = resolved.permissions := by
  obtain ⟨raw, found, ⟨_, resolving⟩, _⟩ := RunningConfig.resolveLaunch_eq_ok success
  rw [(resolveService_eq_ok resolving).2.1]
  simp [ConfigActor.footing, KeplerConfig.permissions, found]

variable {drawn : Except String Token} {startup : Startup}

theorem tokenMade_of_launchService {daemon left : Daemon} {token : Option TokenContext}
    (success : daemon.launchService process surroundings startup.actor startup.service drawn =
      (.ok token, left)) : Launch.TokenMade ⟨startup, process.hardening, token⟩ := by
  intro created rfl
  unfold launchService at success
  cases launching : startup.actor.resolveLaunch process surroundings startup.service with
  | error e => simp [launching] at success
  | ok resolved => ?_
  simp only [launching, createServiceTokenGuard] at success
  cases granted : resolved.permissions with
  | none => simp [granted] at success
  | some permissions => ?_
  simp only [granted] at success
  cases making : daemon.newTokenContext surroundings.world process.hardening
      startup.actor.handle startup.service permissions with
  | error e => simp [making] at success
  | ok made => ?_
  cases drawn with
  | error e => simp [making] at success
  | ok drawn => ?_
  simp only [making, Prod.mk.injEq, Except.ok.injEq, Option.some.injEq] at success
  obtain ⟨rfl, _⟩ := success
  obtain ⟨allow, rights, making⟩ := Result.bind_eq_ok.mp making
  obtain ⟨floor, hardening, making⟩ := Result.bind_eq_ok.mp making
  obtain ⟨⟨authorizer, compiled⟩, _, making⟩ := Result.bind_eq_ok.mp making
  cases making
  exact ⟨permissions, (permissions_of_resolveLaunch launching).trans granted, rights,
    hardening⟩

/-! ### Demands -/

/-- What a request demands of the footing of its services, under a level of the daemon. -/
abbrev Demand := HardeningLevel → Origin → Standard

/-- The terms that the gates leave to a request meet its demand, for every file that does. -/
def Demand.MetByTerms (demand : Demand) : Prop :=
  ∀ level origin rewritten asked permissions,
    Daemon.hardeningGate origin.caller origin.request = .ok rewritten →
    parseHardening rewritten.requestedHardening = .ok asked →
    (demand level origin).file permissions →
    (demand level origin).footing ⟨origin.caller.permissionCeiling, asked, permissions⟩

/-- In the state that a request finds, its config meets the demand of the request. -/
def Demand.Granted (demand : Demand) (system : System) : Event → Prop
  | .request world states peer request => ∀ caller rawPath canonical,
      resolveAuth world.accounts peer world.keplerGid system.daemon.tokens = .ok caller →
      request.extractConfigPath = some rawPath → world.tree.canonicalize rawPath = .ok canonical →
      system.daemon.MeetsStandard world states canonical
        (demand system.process.hardening ⟨caller, request⟩) request
  | _ => True

/-- Whatever has been or will be launched is on a footing that its request demanded. -/
structure System.Honors (system : System) (demand : Demand) : Prop where
  startups : ∀ startup ∈ system.startups, ∀ origin, startup.origin = some origin →
    (demand system.process.hardening origin).footing startup.actor.footing
  launches : ∀ launch ∈ system.launches, launch.TokenMade ∧
    ∀ origin, launch.startup.origin = some origin →
      (demand launch.daemonLevel origin).footing launch.startup.actor.footing

namespace Daemon

/-- Two daemons with the same actors, state directories and tokens. -/
structure Agrees (after before : Daemon) : Prop where
  registry : after.registry = before.registry
  stateDirs : after.stateDirs = before.stateDirs
  tokens : after.tokens = before.tokens

theorem agrees_aclGate (daemon : Daemon) (world : World) (auth : AuthContext)
    (request : Request) : (daemon.aclGate world auth request).daemon.Agrees daemon := by
  have same : daemon.Agrees daemon := ⟨rfl, rfl, rfl⟩
  unfold aclGate
  cases request.extractConfigPath with
  | none => exact same
  | some rawPath => ?_
  dsimp only
  cases world.tree.canonicalize rawPath with
  | error e => exact same
  | ok canonical => ?_
  dsimp only
  cases daemon.get world canonical with
  | some actor => exact same
  | none => ?_
  cases daemon.stateDir world canonical with
  | none => exact same
  | some dir =>
    dsimp only
    unfold getUnloadedAclEntry
    cases daemon.unloadedAclEntry world canonical dir <;> exact ⟨rfl, rfl, rfl⟩

theorem agrees_authorize (daemon : Daemon) (world : World) (peer : Peer) (request : Request) :
    (daemon.authorize world peer request).daemon.Agrees daemon := by
  have same : daemon.Agrees daemon := ⟨rfl, rfl, rfl⟩
  unfold authorize
  cases resolveAuth world.accounts peer world.keplerGid daemon.tokens with
  | error e => exact same
  | ok auth => ?_
  dsimp only
  cases hardeningGate auth request with
  | error => exact same
  | ok rewritten =>
    dsimp only
    cases filesystemGate world.accounts world.tree auth rewritten with
    | error => exact same
    | ok passed => exact daemon.agrees_aclGate ..

/-- A standard looks at the registry, the state directories and what the gates leave of a request.
-/
theorem meetsStandard_of_authorize {daemon : Daemon} {world : World} {states : ServiceStates}
    {canonical : String} {standard : Standard} {peer : Peer} {request rewritten : Request}
    {caller : AuthContext}
    (executed : (daemon.authorize world peer request).outcome = .ok (caller, rewritten))
    (meets : daemon.MeetsStandard world states canonical standard request) :
    (daemon.authorize world peer request).daemon.MeetsStandard world states canonical standard
      rewritten := by
  have sameRequest (level : String) : daemon.MeetsStandard world states canonical standard
      (request.withHardening level) := by
    cases request <;> exact meets
  have rewritten : daemon.MeetsStandard world states canonical standard rewritten := by
    obtain ⟨_, gate, _⟩ := authorize_eq_ok.mp executed
    obtain rfl | ⟨level, rfl⟩ := rewritten_of_hardeningGate gate
    · exact meets
    · exact sameRequest level.text
  obtain ⟨sameRegistry, sameDirs, _⟩ := daemon.agrees_authorize world peer request
  revert rewritten
  generalize (daemon.authorize ..).daemon = after at sameRegistry sameDirs
  obtain ⟨registry, stateDirs, _, _, _, _⟩ := after
  obtain rfl : registry = daemon.registry := sameRegistry
  obtain rfl : stateDirs = daemon.stateDirs := sameDirs
  exact id

end Daemon

namespace System

variable {system : System} {demand : Demand}

theorem honors_launch (honors : system.Honors demand)
    (suits : ∀ origin, startup.origin = some origin →
      (demand system.process.hardening origin).footing startup.actor.footing) :
    (system.launch surroundings startup drawn).Honors demand := by
  unfold launch
  split
  · exact ⟨honors.startups, honors.launches⟩
  · next success =>
    refine ⟨honors.startups, fun launch member => ?_⟩
    rcases mem_append.mp member with old | new
    · exact honors.launches launch old
    · obtain rfl := mem_singleton.mp new
      exact ⟨tokenMade_of_launchService success, suits⟩

/-- A startup that comes from a request which passed the gates. -/
structure ClaimedBy (system : System) (world : World) (states : ServiceStates) (peer : Peer)
    (request : Request) (startup : Startup) (caller : AuthContext) (rewritten : Request)
    (rawPath canonical : String) : Prop where
  executed : (system.daemon.authorize world peer request).outcome = .ok (caller, rewritten)
  asSent : request.extractConfigPath = some rawPath
  spelled : rewritten.extractConfigPath = some rawPath
  resolved : world.tree.canonicalize rawPath = .ok canonical
  started : (startup.actor, startup.service) ∈ ((system.daemon.authorize world peer
    request).daemon.dispatch world states caller rewritten).started
  origin : startup.origin = some ⟨caller, request⟩

theorem mem_startups_handleRequest {world : World} {states : ServiceStates} {peer : Peer}
    {request : Request}
    (member : startup ∈ (system.handleRequest world states peer request).startups) :
    startup ∈ system.startups ∨ ∃ caller rewritten rawPath canonical,
      system.ClaimedBy world states peer request startup caller rewritten rawPath canonical := by
  unfold handleRequest at member
  dsimp only at member
  cases executed : (system.daemon.authorize ..).outcome with
  | error =>
    rw [executed] at member
    exact .inl member
  | ok result =>
    obtain ⟨caller, rewritten⟩ := result
    rw [executed] at member
    refine (mem_append.mp member).imp id fun new => ?_
    obtain ⟨⟨actor, service⟩, started, rfl⟩ := mem_map.mp new
    obtain ⟨_, gate, _, passed⟩ := authorize_eq_ok.mp executed
    cases spelled : rewritten.extractConfigPath with
    | none =>
      have nothing : ((system.daemon.authorize world peer request).daemon.dispatch world states
          caller rewritten).started = [] := by
        cases rewritten <;> first | rfl | simp [Request.extractConfigPath] at spelled
      rw [nothing] at started
      cases started
    | some rawPath =>
      obtain ⟨canonical, resolved⟩ := resolves_of_aclGate spelled passed
      have asSent := spelled
      rw [extractConfigPath_of_hardeningGate gate] at asSent
      exact ⟨caller, rewritten, rawPath, canonical,
        { executed, asSent, spelled, resolved, started, origin := rfl }⟩

theorem launches_handleRequest {world : World} {states : ServiceStates} {peer : Peer}
    {request : Request} :
    (system.handleRequest world states peer request).process = system.process ∧
      (system.handleRequest world states peer request).launches = system.launches := by
  unfold handleRequest
  dsimp only
  split <;> exact ⟨rfl, rfl⟩

theorem honors_handleRequest {world : World} {states : ServiceStates} {peer : Peer}
    {request : Request} (terms : demand.MetByTerms) (honors : system.Honors demand)
    (granted : demand.Granted system (.request world states peer request)) :
    (system.handleRequest world states peer request).Honors demand := by
  obtain ⟨sameProcess, sameLaunches⟩ := @launches_handleRequest system world states peer request
  constructor
  · intro startup member origin asked
    rw [sameProcess]
    rcases mem_startups_handleRequest member with old | ⟨caller, rewritten, rawPath, canonical, new⟩
    · exact honors.startups startup old origin asked
    · cases new.origin.symm.trans asked
      obtain ⟨authenticated, gate, _⟩ := authorize_eq_ok.mp new.executed
      exact footing_of_dispatch new.spelled new.resolved
        (meetsStandard_of_authorize new.executed
          (granted caller rawPath canonical authenticated new.asSent new.resolved))
        (fun asked permissions => terms _ ⟨caller, request⟩ rewritten asked permissions gate)
        new.started
  · rw [sameLaunches]
    exact honors.launches

theorem honors_step (terms : demand.MetByTerms) {event : Event} (honors : system.Honors demand)
    (granted : demand.Granted system event) : (system.step event).Honors demand := by
  cases event with
  | request => exact honors_handleRequest terms honors granted
  | launch =>
    simp only [step]
    split
    · exact honors
    · next found => exact honors_launch honors (honors.startups _ (mem_of_getElem? found))
  | relaunch =>
    simp only [step]
    split
    · exact honors
    · exact honors_launch honors fun origin impossible => absurd impossible (by simp)
  | exit => exact ⟨honors.startups, honors.launches⟩
  | daemonRestart =>
    exact ⟨fun startup member => absurd member not_mem_nil, honors.launches⟩
  | restore =>
    refine ⟨fun startup member origin asked => ?_, honors.launches⟩
    rcases mem_append.mp member with old | new
    · exact honors.startups startup old origin asked
    · obtain ⟨actor, _, inServices⟩ := mem_flatMap.mp new
      obtain ⟨service, _, rfl⟩ := mem_map.mp inServices
      cases asked

def Untouched (system : System) : Prop := system.startups = [] ∧ system.launches = []

theorem honors_run (terms : demand.MetByTerms) {events : List Event}
    (untouched : system.Untouched) (granted : Runs.Meets step demand.Granted system events) :
    (Runs.run step system events).Honors demand := by
  refine Runs.invariant (fun state event => honors_step terms) granted ⟨?_, ?_⟩
  · simp [untouched.1]
  · simp [untouched.2]

end System

end Kepler
