/-
This file is about configs whose services depend on each other in a circle.

`validate` does not look for cycles. They are found only where the services are sorted: when a start
or a run names no services, when a config is recreated, when a restart takes the dependencies into
account, and in a stop. Other requests start services of a config with a cycle, which then cannot be
stopped as a whole.

In a history in which these are made only for configs without a cycle, every service that is started
is one of a config whose services can be sorted.
-/

import Kepler.LoadedConfigs
import Kepler.StartOrder

namespace Kepler

open KeplerConfig List Daemon Option Result Runs

/-! ### Configs that can be sorted -/

namespace KeplerConfig

/-- The check of `validate` that the dependencies are there. -/
def dependencyErrors (config : KeplerConfig) : List String :=
  config.services.entries.flatMap fun entry =>
    ((DependsOn.names entry.2.dependsOn).filter (· ∉ config.services.keys)).map fun dependency =>
      s!"Service '{entry.1}': depends on '{dependency}' which is not defined"

def IsAcyclic (config : KeplerConfig) : Prop := Acyclic (dependencyNames config.services)

structure Ordered (config : KeplerConfig) : Prop where
  defined : DependenciesDefined config.services
  acyclic : config.IsAcyclic

variable {config : KeplerConfig}

theorem dependencyErrors_eq_nil_iff :
    config.dependencyErrors = [] ↔ DependenciesDefined config.services := by
  unfold dependencyErrors DependenciesDefined
  rw [flatMap_eq_nil_iff]
  constructor
  · intro none name member dependency required
    obtain ⟨entry, isEntry, rfl⟩ := mem_map.mp member
    rw [dependencyNames_of_entry isEntry] at required
    have nothing := filter_eq_nil_iff.mp (map_eq_nil_iff.mp (none entry isEntry))
    by_contra outside
    exact nothing dependency required (decide_eq_true outside)
  · intro defined entry isEntry
    have within := defined entry.1 (mem_map.mpr ⟨entry, isEntry, rfl⟩)
    rw [dependencyNames_of_entry isEntry] at within
    rw [map_eq_nil_iff, filter_eq_nil_iff]
    intro dependency required outside
    exact of_decide_eq_true outside (within required)

theorem ordered_iff (placement : Kahn.Placement String) :
    config.Ordered ↔ ∃ order, getStartOrder placement config.services = .ok order := by
  have sorts := @isSome_getStartOrder_iff config.services placement
  constructor
  · rintro ⟨defined, acyclic⟩
    obtain ⟨order, found⟩ := isSome_iff_exists.mp (sorts.mpr ⟨defined, acyclic⟩)
    exact ⟨order, toOption_eq_some.mp found⟩
  · rintro ⟨order, found⟩
    obtain ⟨defined, acyclic⟩ := sorts.mp
      (isSome_iff_exists.mpr ⟨order, toOption_eq_some.mpr found⟩)
    exact ⟨defined, acyclic⟩

theorem dependencyNames_resolveDefaultUser (config : KeplerConfig) (uid gid : UInt32) :
    dependencyNames (config.resolveDefaultUser uid gid).services =
      dependencyNames config.services := by
  funext name
  unfold resolveDefaultUser
  split_ifs
  · rfl
  · unfold dependencyNames
    rw [HashMap.lookup_mapValues, Option.map_map]
    refine congrArg (Option.getD · []) (congrArg (Option.map · _) (funext fun raw => ?_))
    rw [Function.comp, RawServiceConfig.withDefaultUser]
    split <;> rfl

theorem mem_keys_resolveDefaultUser {uid gid : UInt32} {name : String} :
    name ∈ (config.resolveDefaultUser uid gid).services.keys ↔ name ∈ config.services.keys := by
  unfold resolveDefaultUser
  split_ifs
  · rfl
  · rw [← AList.mem_keys, ← AList.mem_keys, ← AList.lookup_isSome, ← AList.lookup_isSome,
      HashMap.lookup_mapValues, isSome_map]

theorem defined_resolveDefaultUser (uid gid : UInt32)
    (defined : DependenciesDefined config.services) :
    DependenciesDefined (config.resolveDefaultUser uid gid).services := by
  intro name member dependency required
  rw [dependencyNames_resolveDefaultUser] at required
  exact mem_keys_resolveDefaultUser.mpr
    (defined name (mem_keys_resolveDefaultUser.mp member) required)

theorem isAcyclic_resolveDefaultUser (uid gid : UInt32) (acyclic : config.IsAcyclic) :
    (config.resolveDefaultUser uid gid).IsAcyclic := by
  unfold IsAcyclic
  rw [dependencyNames_resolveDefaultUser]
  exact acyclic

end KeplerConfig

/-! ### Where the services are sorted -/

/-- Every config that is read has passed the check of `validate`. -/
def World.Validates (world : World) : Prop :=
  ∀ contents env config, world.loadConfig contents env = .ok config → config.dependencyErrors = []

/-- The start order is the one of `get_start_order`. -/
def ServiceStates.Sorts (states : ServiceStates) : Prop :=
  ∀ config, ∃ placement, states.startOrder config = getStartOrder placement config.services

namespace Daemon

variable {daemon : Daemon} {world : World} {states : ServiceStates} {canonical service : String}
  {services : List String} {sysEnv : Option Bindings} {terms : LoadTerms}
  {overrideEnvs defineFlags : Option Bindings} {actor : ConfigActor} {config : KeplerConfig}
  {selected : List String}

/-- What is loaded of a config, its snapshot and its file have no cycle. -/
structure AcyclicAt (daemon : Daemon) (world : World) (canonical : String)
    (sysEnv : Option Bindings) : Prop where
  held : daemon.Holds {canonical} {world.configHash canonical} KeplerConfig.IsAcyclic
  file : world.Reads canonical sysEnv KeplerConfig.IsAcyclic

/-- A request that does not sort the services is for a config without a cycle. -/
def Shields (daemon : Daemon) (world : World) (canonical : String) : Request → Prop
  | .start fields => fields.services ≠ [] → daemon.AcyclicAt world canonical fields.sysEnv
  | .run fields => fields.services ≠ [] → daemon.AcyclicAt world canonical fields.sysEnv
  | .restart fields => fields.noDeps = true →
      ∀ actor, daemon.registry.lookup canonical = some actor → actor.config.IsAcyclic
  | _ => True

/-- All dependencies in the loaded configs and in the snapshots are there. -/
def AllDefined (daemon : Daemon) : Prop :=
  daemon.Holds Set.univ Set.univ fun config => DependenciesDefined config.services

theorem admits_defined (validates : world.Validates)
    (fixed : world.tree.canonicalize canonical = .ok canonical) :
    world.Admits canonical sysEnv Set.univ Set.univ
      fun config => DependenciesDefined config.services where
  fixed := fixed
  linked := iff_of_true trivial trivial
  reads _ contents config _ parsed :=
    dependencyErrors_eq_nil_iff.mp (validates contents _ config parsed)
  stable _ uid gid := defined_resolveDefaultUser uid gid

theorem AcyclicAt.admits (acyclic : daemon.AcyclicAt world canonical sysEnv)
    (fixed : world.tree.canonicalize canonical = .ok canonical) :
    world.Admits canonical sysEnv {canonical} {world.configHash canonical}
      KeplerConfig.IsAcyclic where
  fixed := fixed
  linked := iff_of_true rfl rfl
  reads _ := acyclic.file
  stable _ uid gid := isAcyclic_resolveDefaultUser uid gid

theorem AcyclicAt.forgetUnloadedAcl (acyclic : daemon.AcyclicAt world canonical sysEnv) :
    (daemon.forgetUnloadedAcl world canonical).AcyclicAt world canonical sysEnv :=
  ⟨acyclic.held.forgetUnloadedAcl, acyclic.file⟩

/-! #### Requests that sort -/

theorem ordered_of_startOrder (sorts : states.Sorts) {order : List String}
    (found : states.startOrder config = .ok order) : config.Ordered := by
  obtain ⟨placement, same⟩ := sorts config
  exact (ordered_iff placement).mpr ⟨order, same.symm.trans found⟩

theorem ordered_of_selectServices (sorts : states.Sorts)
    (success : selectServices states config [] = .ok selected) : config.Ordered :=
  ordered_of_startOrder sorts (mapError_eq_ok.mp success)

theorem exists_selectServices (sorts : states.Sorts) (ordered : config.Ordered) :
    ∃ selected, selectServices states config [] = .ok selected := by
  obtain ⟨placement, same⟩ := sorts config
  obtain ⟨order, found⟩ := (ordered_iff placement).mp ordered
  exact ⟨order, mapError_eq_ok.mpr (same.trans found)⟩

theorem ordered_of_selectRestarts (sorts : states.Sorts)
    (success : selectRestarts states config services false = .ok selected)
    (member : service ∈ selected) : config.Ordered := by
  obtain ⟨_, _, success⟩ := bind_eq_ok.mp success
  split at success
  · cases success
  · dsimp only at success
    generalize (if services = [] then config.services.keys else services) = candidates at success
    split at success
    · next nothing =>
      cases success
      rw [nothing.resolve_right Bool.false_ne_true] at member
      cases member
    · obtain ⟨order, found, _⟩ := map_eq_ok.mp success
      exact ordered_of_startOrder sorts (mapError_eq_ok.mp found)

theorem selects_of_loadAndStart {prepare : ConfigActor → StateDir → ConfigActor × StateDir}
    (member : (actor, service) ∈ (daemon.loadAndStart world states canonical services sysEnv terms
      overrideEnvs defineFlags prepare).started) :
    ∃ selected, selectServices states actor.config services = .ok selected := by
  unfold loadAndStart at member
  rcases loading : daemon.getOrCreate world canonical sysEnv terms with ⟨_ | first, loaded⟩
  all_goals rw [loading] at member
  · cases member
  · exact (selects_of_startServices member).2

theorem selects_of_runServices {startClean : Bool}
    (member : (actor, service) ∈ (daemon.runServices world states canonical services sysEnv terms
      overrideEnvs defineFlags startClean).started) :
    ∃ selected, selectServices states actor.config services = .ok selected := by
  unfold runServices at member
  rcases retiring : daemon.retire world states canonical false true with ⟨_ | _, retired⟩
  all_goals rw [retiring] at member
  · cases member
  · exact selects_of_loadAndStart member

theorem selects_of_recreateServices
    (member : (actor, service) ∈ (daemon.recreateServices world states canonical sysEnv terms
      defineFlags).started) :
    ∃ selected, selectServices states actor.config [] = .ok selected := by
  unfold recreateServices at member
  rcases retiring : daemon.retire world states canonical true false with ⟨_ | _, retired⟩
  all_goals rw [retiring] at member
  · cases member
  · exact selects_of_loadAndStart member

/-! #### Every request -/

theorem ordered_of_dispatch {auth : AuthContext} {request : Request} {rawPath : String}
    (spelled : request.extractConfigPath = some rawPath)
    (resolved : world.tree.canonicalize rawPath = .ok canonical) (validates : world.Validates)
    (sorts : states.Sorts) (defined : daemon.AllDefined)
    (shields : daemon.Shields world canonical request)
    (member : (actor, service) ∈ (daemon.dispatch world states auth request).started) :
    actor.config.Ordered := by
  have fixed := world.tree.canonicalize_canonical resolved
  cases request with
  | start fields =>
    obtain ⟨level, _, member⟩ := started_of_withTerms spelled resolved member
    obtain ⟨returned, selected, selecting⟩ := selects_of_startServices member
    by_cases unnamed : fields.services = []
    · rw [unnamed] at selecting
      exact ordered_of_selectServices sorts selecting
    · have acyclic := (shields unnamed).forgetUnloadedAcl
      exact ⟨(defined.forgetUnloadedAcl.getOrCreate (admits_defined validates fixed) _).2 actor
          returned trivial,
        (acyclic.held.getOrCreate (acyclic.admits fixed) _).2 actor returned rfl⟩
  | run fields =>
    obtain ⟨level, _, member⟩ := started_of_withTerms spelled resolved member
    obtain ⟨selected, selecting⟩ := selects_of_runServices member
    by_cases unnamed : fields.services = []
    · rw [unnamed] at selecting
      exact ordered_of_selectServices sorts selecting
    · have acyclic := (shields unnamed).forgetUnloadedAcl
      exact ⟨(defined.forgetUnloadedAcl.runServices (admits_defined validates fixed)).2 actor
          service member trivial,
        (acyclic.held.runServices (acyclic.admits fixed)).2 actor service member rfl⟩
  | recreate fields =>
    obtain ⟨level, _, member⟩ := started_of_withTerms spelled resolved member
    obtain ⟨selected, selecting⟩ := selects_of_recreateServices member
    exact ordered_of_selectServices sorts selecting
  | restart fields =>
    cases spelled
    simp only [dispatch, withPath, canonicalizeConfigPath_eq_ok.mpr resolved] at member
    obtain ⟨loaded, selected, selecting, isSelected⟩ := selects_of_restartServices member
    rw [get_canonical fixed] at loaded
    cases noDeps : fields.noDeps with
    | true => exact ⟨defined.registry canonical trivial actor loaded, shields noDeps actor loaded⟩
    | false =>
      rw [noDeps] at selecting
      exact ordered_of_selectRestarts sorts selecting isSelected
  | stop fields =>
    cases spelled
    simp only [dispatch, withPath, canonicalizeConfigPath_eq_ok.mpr resolved, stopBranch] at member
    split at member <;> exact absurd member not_mem_nil
  | _ => cases member

theorem shields_of_authorize {peer : Peer} {request rewritten : Request} {caller : AuthContext}
    (executed : (daemon.authorize world peer request).outcome = .ok (caller, rewritten))
    (shields : daemon.Shields world canonical request) :
    (daemon.authorize world peer request).daemon.Shields world canonical rewritten := by
  have sameDaemon : daemon.Shields world canonical rewritten := by
    obtain ⟨_, gate, _⟩ := authorize_eq_ok.mp executed
    obtain rfl | ⟨level, rfl⟩ := rewritten_of_hardeningGate gate
    · exact shields
    · cases request <;> exact shields
  obtain ⟨registry, stateDirs, _⟩ := daemon.agrees_authorize world peer request
  have same {sysEnv : Option Bindings} (acyclic : daemon.AcyclicAt world canonical sysEnv) :
      (daemon.authorize ..).daemon.AcyclicAt world canonical sysEnv :=
    ⟨acyclic.held.of_agrees registry stateDirs, acyclic.file⟩
  cases rewritten with
  | start | run => exact fun named => same (sameDaemon named)
  | restart fields =>
    intro noDeps actor loaded
    rw [registry] at loaded
    exact sameDaemon noDeps actor loaded
  | _ => exact trivial

end Daemon

/-! ### Histories -/

/-- The parts that stand for `validate` and `get_start_order` do what these do. -/
def Event.Faithful : Event → Prop
  | .request world states _ _ => world.Validates ∧ states.Sorts
  | .restore world _ _ => world.Validates
  | _ => True

variable {services : List String}

namespace System

/-- What starts services without sorting them is for a config without a cycle: a request, or the
restoration of running services. -/
def Shielded (system : System) : Event → Prop
  | .request world _ _ request => ∀ rawPath canonical,
      request.extractConfigPath = some rawPath → world.tree.canonicalize rawPath = .ok canonical →
      system.daemon.Shields world canonical request
  | .restore world hash services => services ≠ [] → ∀ dir source canonical,
      system.daemon.stateDirs.lookup hash = some dir → dir.sourcePath = some source →
      world.tree.canonicalize source = .ok canonical →
      system.daemon.AcyclicAt world canonical none
  | _ => True

/-- The services of every config from which something is started can be sorted. -/
structure StartsOrdered (system : System) : Prop where
  defined : system.daemon.AllDefined
  startups : ∀ startup ∈ system.startups, startup.actor.config.Ordered

variable {system : System}

section

variable (starts : system.StartsOrdered) {states : ServiceStates} {world : World}

include starts

theorem StartsOrdered.launch (surroundings : Surroundings) (startup : Startup)
    (drawn : Except String Token) : (system.launch surroundings startup drawn).StartsOrdered := by
  obtain ⟨registry, stateDirs⟩ := @Daemon.agrees_launchService startup.actor system.daemon
    system.process surroundings startup.service drawn
  unfold System.launch
  rcases launching : system.daemon.launchService system.process surroundings startup.actor
      startup.service drawn with ⟨_ | token, left⟩
  all_goals
    rw [launching] at registry stateDirs
    exact ⟨starts.defined.of_agrees registry stateDirs, starts.startups⟩

theorem StartsOrdered.handleRequest {peer : Peer} {request : Request} (validates : world.Validates)
    (sorts : states.Sorts) (shielded : system.Shielded (.request world states peer request)) :
    (system.handleRequest world states peer request).StartsOrdered := by
  obtain ⟨registry, stateDirs, _⟩ := system.daemon.agrees_authorize world peer request
  have defined : (system.daemon.authorize ..).daemon.AllDefined :=
    starts.defined.of_agrees registry stateDirs
  refine ⟨?_, fun startup member => ?_⟩
  · unfold System.handleRequest
    dsimp only
    cases (system.daemon.authorize ..).outcome with
    | error => exact defined
    | ok result => exact defined.dispatch (fun _ _ => admits_defined validates) _ _
  · rcases mem_startups_handleRequest member with old | ⟨caller, rewritten, rawPath, canonical, new⟩
    · exact starts.startups startup old
    · exact ordered_of_dispatch new.spelled new.resolved validates sorts defined
        (shields_of_authorize new.executed
          (shielded rawPath canonical new.asSent new.resolved)) new.started

theorem StartsOrdered.restore {hash : String} (validates : world.Validates)
    (shielded : system.Shielded (.restore world hash services)) :
    (system.step (.restore world hash services)).StartsOrdered := by
  refine ⟨starts.defined.restore fun _ => admits_defined validates,
    fun startup member => ?_⟩
  rcases mem_append.mp member with old | new
  · exact starts.startups startup old
  · obtain ⟨actor, isLoaded, inServices⟩ := mem_flatMap.mp new
    obtain ⟨service, isService, rfl⟩ := mem_map.mp inServices
    obtain ⟨dir, source, canonical, isDir, isSource, resolved, returned⟩ :=
      restore_eq_some (mem_toList.mp isLoaded)
    have fixed := world.tree.canonicalize_canonical resolved
    have acyclic := shielded (ne_nil_of_mem isService) dir source canonical isDir isSource
      resolved
    exact ⟨(starts.defined.getOrCreate (admits_defined validates fixed) {}).2 actor returned
        trivial,
      (acyclic.held.getOrCreate (acyclic.admits fixed) {}).2 actor returned rfl⟩

theorem StartsOrdered.step {event : Event} (faithful : event.Faithful)
    (shielded : system.Shielded event) : (system.step event).StartsOrdered := by
  cases event with
  | request =>
    exact starts.handleRequest faithful.1 faithful.2 shielded
  | launch | relaunch =>
    simp only [System.step]
    split
    · exact starts
    · exact starts.launch ..
  | exit configPath service =>
    exact ⟨starts.defined.revokeStopped configPath [service], starts.startups⟩
  | daemonRestart =>
    have unloaded : ∀ path actor, system.daemon.restarted.registry.lookup path ≠ some actor :=
      fun _ _ found => by cases found
    exact ⟨⟨fun path _ actor found => absurd found (unloaded path actor), starts.defined.snapshots⟩,
      fun startup member => absurd member not_mem_nil⟩
  | restore => exact starts.restore faithful shielded

theorem StartsOrdered.stops {startup : Startup} (member : startup ∈ system.startups)
    (sorts : states.Sorts) {configPath : String} {actor : ConfigActor}
    (loaded : system.daemon.get world configPath = some actor)
    (same : startup.actor.config = actor.config) (clean : Bool) :
    (system.daemon.stopServices world states configPath [] clean).1 = .ok () := by
  obtain ⟨selected, selecting⟩ :=
    exists_selectServices sorts (same ▸ starts.startups startup member)
  unfold stopServices
  rw [loaded]
  dsimp only
  rw [selecting]
  dsimp only
  split <;> rfl

end

def started (process : DaemonProcess) : System where
  daemon := .initial
  process := process
  startups := []
  launches := []

theorem startsOrdered_started (process : DaemonProcess) : (started process).StartsOrdered where
  defined := Daemon.holds_initial
  startups _ member := absurd member List.not_mem_nil

/-- In every history in which nothing is started unsorted from a config with a cycle, only services
of configs that can be sorted are started, and these can be stopped as a whole. -/
theorem startups_ordered (process : DaemonProcess) (events : List Event)
    (faithful : ∀ event ∈ events, event.Faithful)
    (shielded : Runs.Meets step Shielded (started process) events) :
    ∀ startup ∈ (Runs.run step (started process) events).startups,
      startup.actor.config.Ordered ∧
      ∀ (world : World) (states : ServiceStates) (configPath : String) (actor : ConfigActor)
        (clean : Bool), states.Sorts →
        (Runs.run step (started process) events).daemon.get world configPath = some actor →
        startup.actor.config = actor.config →
        ((Runs.run step (started process) events).daemon.stopServices world states configPath []
          clean).1 = .ok () := by
  have starts : (run step (started process) events).StartsOrdered := by
    have both := meets_and.mpr ⟨meets_of_forall _ faithful, shielded⟩
    exact invariant (fun system event held each => held.step each.1 each.2) both
      (startsOrdered_started process)
  intro startup member
  exact ⟨starts.startups startup member,
    fun world states configPath actor clean sorts loaded same =>
      starts.stops member sorts loaded same clean⟩

end System

/-! #### Three services -/

/-- A web server, and a database that depends on its cache. The cache may depend on the database. -/
def cacheConfig (cacheDependencies : DependsOn) : KeplerConfig where
  services := AList.insert "web" { command := .static (wrapVec ["web"]) } <|
    AList.insert "db" { command := .static (wrapVec ["db"]), dependsOn := [("cache", {})] } <|
      AList.insert "cache"
        { command := .static (wrapVec ["cache"]), dependsOn := cacheDependencies } ∅

def sortingStates : ServiceStates where
  startOrder config := getStartOrder ⟨fun queue _ => queue.length, fun _ _ => le_rfl⟩
    config.services
  claimable _ := true
  initialized _ := false
  restartable _ := false
  allStopped := true
  evaluator := .ok ()
  failure := none
  anyStarted := true
  knownSignal _ := true

theorem sorts_sortingStates : sortingStates.Sorts := fun _ => ⟨_, rfl⟩

def startByName (cacheDependencies : DependsOn) (services : List String) : Event :=
  .request (quietWorld singleConfigTree refusingEngine (cacheConfig cacheDependencies))
    sortingStates { uid := 0, gid := 0, token := none }
    (.start { configPath := "/srv/app.yaml", services })

variable {cacheDependencies : DependsOn}

theorem faithful_startByName (passes : (cacheConfig cacheDependencies).dependencyErrors = []) :
    (startByName cacheDependencies services).Faithful := by
  refine ⟨fun contents env config loaded => ?_, sorts_sortingStates⟩
  rw [← Except.ok.inj loaded]
  exact passes

namespace System

theorem shielded_startByName (process : DaemonProcess)
    (acyclic : (cacheConfig cacheDependencies).IsAcyclic) :
    (started process).Shielded (startByName cacheDependencies services) := by
  intro rawPath canonical _ _ _
  refine ⟨holds_initial, fun contents config _ loaded => ?_⟩
  rw [← Except.ok.inj loaded]
  exact acyclic

theorem startups_ordered_of_startByName :
    (∃ startup ∈ (Runs.run step (started rootDaemon) [startByName [] ["db"]]).startups,
      startup.service = "db") ∧
    ∀ startup ∈ (Runs.run step (started rootDaemon) [startByName [] ["db"]]).startups,
      startup.actor.config.Ordered ∧
      ∀ (world : World) (states : ServiceStates) (configPath : String) (actor : ConfigActor)
        (clean : Bool), states.Sorts →
        (Runs.run step (started rootDaemon) [startByName [] ["db"]]).daemon.get world configPath =
          some actor →
        startup.actor.config = actor.config →
        ((Runs.run step (started rootDaemon) [startByName [] ["db"]]).daemon.stopServices world
          states configPath [] clean).1 = .ok () := by
  have ordered : (cacheConfig []).Ordered := by
    refine (ordered_iff ⟨fun queue _ => queue.length, fun _ _ => le_rfl⟩).mpr ?_
    exact ⟨["web", "cache", "db"], by decide +kernel⟩
  refine ⟨by decide +kernel, startups_ordered rootDaemon _ ?_ ?_⟩
  · exact forall_mem_singleton.mpr (faithful_startByName (by decide +kernel))
  · exact ⟨shielded_startByName rootDaemon ordered.acyclic, trivial⟩

/-- The web server is started beside the circle, and the loaded config cannot be stopped as a whole.
-/
theorem started_beside_cycle :
    ∃ events : List Event, (∀ event ∈ events, event.Faithful) ∧
      ∃ startup ∈ (Runs.run step (started rootDaemon) events).startups,
        ¬ startup.actor.config.Ordered ∧
        ∃ (world : World) (states : ServiceStates), states.Sorts ∧
          ((Runs.run step (started rootDaemon) events).daemon.get world
            startup.actor.handle.configPath).isSome ∧
          ((Runs.run step (started rootDaemon) events).daemon.stopServices world states
            startup.actor.handle.configPath [] false).1.toOption = none := by
  have evaluated : ∃ startup ∈ (run step (started rootDaemon)
      [startByName [("db", {})] ["web"]]).startups,
      (sortingStates.startOrder startup.actor.config).toOption = none ∧
      ((run step (started rootDaemon) [startByName [("db", {})] ["web"]]).daemon.get
        (quietWorld singleConfigTree refusingEngine (cacheConfig [("db", {})]))
        startup.actor.handle.configPath).isSome ∧
      ((run step (started rootDaemon) [startByName [("db", {})] ["web"]]).daemon.stopServices
        (quietWorld singleConfigTree refusingEngine (cacheConfig [("db", {})])) sortingStates
        startup.actor.handle.configPath [] false).1.toOption = none := by
    decide +kernel
  obtain ⟨startup, member, unsorted, loaded, unstopped⟩ := evaluated
  refine ⟨_, ?_, startup, member, fun ordered => ?_, _, sortingStates, sorts_sortingStates, loaded,
    unstopped⟩
  · exact forall_mem_singleton.mpr (faithful_startByName (by decide +kernel))
  · obtain ⟨order, found⟩ := (ordered_iff
      ⟨fun queue _ => queue.length, fun _ _ => le_rfl⟩).mp ordered
    have sorted : sortingStates.startOrder startup.actor.config = .ok order := found
    rw [sorted] at unsorted
    cases unsorted

end System

end Kepler
