/-
This file says on what footing the services of a request are started: with which permission ceiling,
which hardening level and which permissions of services.

A config that is loaded already keeps the footing it has. One that is loaded from a snapshot gets
that of the snapshot, and only one that is read from its file gets what the request asks for. The
main result traces each service that a request starts back to one of the three.
-/

import Kepler.Orchestrator

namespace Kepler

open ConfigActor Except

/-! ### Footings -/

/-- What a config brings to the launch of its services. -/
structure Footing where
  permissionCeiling : Option (Finset Right)
  hardening : Option HardeningLevel
  permissions : String → Option ServicePermissions

def KeplerConfig.permissions (config : KeplerConfig) (service : String) :
    Option ServicePermissions :=
  (config.services.lookup service).bind RawServiceConfig.permissions

def ConfigActor.footing (actor : ConfigActor) : Footing where
  permissionCeiling := actor.handle.permissionCeiling
  hardening := actor.handle.hardening
  permissions := actor.config.permissions

def Snapshot.footing (snapshot : Snapshot) : Footing where
  permissionCeiling := snapshot.permissionCeiling.map ceilingOfTexts
  hardening := snapshot.hardening.bind fun text => (HardeningLevel.fromStr text).toOption
  permissions := snapshot.config.permissions

def LoadTerms.footing (terms : LoadTerms) (permissions : String → Option ServicePermissions) :
    Footing where
  permissionCeiling := terms.permissionCeiling
  hardening := terms.hardening
  permissions := permissions

theorem permissions_resolveDefaultUser (config : KeplerConfig) (uid gid : UInt32) :
    (config.resolveDefaultUser uid gid).permissions = config.permissions := by
  funext service
  unfold KeplerConfig.resolveDefaultUser
  split_ifs
  · rfl
  · unfold KeplerConfig.permissions
    rw [HashMap.lookup_mapValues, Option.bind_map]
    refine congrArg _ (funext fun raw => ?_)
    rw [Function.comp, RawServiceConfig.withDefaultUser]
    split <;> rfl

/-- The footing of a loaded config: that of the snapshot, or that of the request with the
permissions in the file. -/
def LoadedOn (world : World) (canonical : String) (sysEnv : Option Bindings) (terms : LoadTerms)
    (snapshot : Option Snapshot) (footing : Footing) : Prop :=
  match snapshot with
  | some snapshot => footing = snapshot.footing
  | none => ∃ contents config, world.tree.read canonical = .ok contents ∧
      world.loadConfig contents (cliEnv sysEnv) = .ok config ∧
      footing = terms.footing config.permissions

theorem loadExpandedConfig_prepareDir (world : World) (canonical : String) (terms : LoadTerms)
    (dir : StateDir) :
    (prepareDir world canonical terms dir).loadExpandedConfig =
      dir.loadExpandedConfig := by
  unfold prepareDir attempt
  cases world.write .sourcePath <;> cases terms.owner <;> try rfl
  all_goals cases world.write .stateJson <;> rfl

variable {sysEnv : Option Bindings} {terms : LoadTerms}

theorem loadFresh_eq_ok {world : World} {canonical : String} {dir : StateDir} {baked : BakedConfig}
    (success : (loadFresh world canonical sysEnv terms dir).1 = .ok baked) :
    ∃ contents config, world.tree.read canonical = .ok contents ∧
      world.loadConfig contents (cliEnv sysEnv) = .ok config ∧
      baked.config = (match terms.owner with
        | some (uid, gid) => config.resolveDefaultUser uid gid
        | none => config) ∧
      baked.hardening = terms.hardening ∧ baked.permissionCeiling = terms.permissionCeiling := by
  unfold loadFresh at success
  cases contents : world.tree.read canonical with
  | error e => simp [contents] at success
  | ok text => ?_
  cases copied : world.write .configYaml with
  | error e => simp [contents, copied] at success
  | ok done => ?_
  cases baking : bakeFresh world canonical text sysEnv terms with
  | error e => simp [contents, copied, baking] at success
  | ok made => ?_
  simp only [contents, copied, baking, ok.injEq] at success
  subst success
  obtain ⟨config, parsed, baking⟩ := Result.bind_eq_ok.mp baking
  obtain ⟨_, _, baking⟩ := Result.bind_eq_ok.mp baking
  obtain ⟨_, _, baking⟩ := Result.bind_eq_ok.mp baking
  obtain ⟨keplerEnv, _, baking⟩ := Result.bind_eq_ok.mp baking
  cases baking
  exact ⟨text, config, rfl, parsed, rfl, rfl, rfl⟩

theorem loadedOn_of_create {world : World} {machine : Nat} {canonical : String}
    {existing : Option StateDir} {actor : ConfigActor}
    (success : (create world machine canonical sysEnv terms existing).1 = .ok actor) :
    LoadedOn world canonical sysEnv terms (existing.bind StateDir.loadExpandedConfig)
      actor.footing := by
  obtain ⟨baked, finished, source⟩ := create_eq_ok success
  obtain ⟨config, _, _, hardening, ceiling, _⟩ := finish_eq_ok finished
  have made : actor.footing =
      ⟨baked.permissionCeiling, baked.hardening, baked.config.permissions⟩ := by
    rw [footing, config, hardening, ceiling]
  have sameDir : (existing.getD {}).loadExpandedConfig =
      existing.bind StateDir.loadExpandedConfig := by cases existing <;> rfl
  rw [loadExpandedConfig_prepareDir, sameDir] at source
  rw [made]
  cases found : existing.bind StateDir.loadExpandedConfig with
  | some =>
    rw [found] at source
    unfold restoreSnapshot at source
    cases evaluator : world.luaEvaluator with
    | error e => simp [evaluator] at source
    | ok done =>
      simp only [evaluator, ok.injEq] at source
      rw [← source]
      rfl
  | none =>
    rw [found] at source
    obtain ⟨contents, config, read, parsed, same, level, rights⟩ := loadFresh_eq_ok source
    have permissions : baked.config.permissions = config.permissions := by
      rw [same]
      cases terms.owner with
      | none => rfl
      | some owner => exact permissions_resolveDefaultUser config owner.1 owner.2
    exact ⟨contents, config, read, parsed, by rw [permissions, level, rights]; rfl⟩

namespace Daemon

def diskSnapshot (daemon : Daemon) (world : World) (canonical : String) : Option Snapshot :=
  (daemon.stateDir world canonical).bind StateDir.loadExpandedConfig

variable {daemon : Daemon} {world : World} {canonical service : String}
  {sysEnv overrideEnvs defineFlags : Option Bindings} {terms : LoadTerms} {actor : ConfigActor}
  {states : ServiceStates} {services : List String}

theorem getOrCreate_eq_ok {after : Daemon}
    (canonicalized : world.canonicalizeConfigPath canonical = .ok canonical)
    (success : daemon.getOrCreate world canonical sysEnv terms = (.ok actor, after)) :
    after.registry.lookup canonical = some actor ∧
      (daemon.registry.lookup canonical = some actor ∨
        daemon.registry.lookup canonical = none ∧ LoadedOn world canonical sysEnv terms
          (daemon.diskSnapshot world canonical) actor.footing) := by
  unfold getOrCreate at success
  simp only [canonicalized] at success
  cases loaded : daemon.registry.lookup canonical with
  | some found =>
    simp only [loaded, Prod.mk.injEq, ok.injEq] at success
    obtain ⟨rfl, rfl⟩ := success
    exact ⟨loaded, Or.inl rfl⟩
  | none =>
    simp only [loaded] at success
    cases created : (create world daemon.nextMachine canonical sysEnv terms
        (daemon.stateDir world canonical)).1 with
    | error e => simp [created] at success
    | ok made =>
      simp only [created, Prod.mk.injEq, ok.injEq] at success
      obtain ⟨rfl, rfl⟩ := success
      exact ⟨AList.lookup_insert _, Or.inr ⟨rfl, loadedOn_of_create created⟩⟩

/-! ### The services of a start -/

theorem canonicalizeConfigPath_eq_ok {path : String} :
    world.canonicalizeConfigPath path = .ok canonical ↔
      world.tree.canonicalize path = .ok canonical := by
  unfold World.canonicalizeConfigPath
  cases world.tree.canonicalize path with
  | ok found => simp
  | error e => cases e <;> simp

theorem get_canonical (fixed : world.tree.canonicalize canonical = .ok canonical) :
    daemon.get world canonical = daemon.registry.lookup canonical := by
  unfold get
  rw [fixed]

theorem selects_of_startServices
    (member : (actor, service) ∈ (daemon.startServices world states canonical services sysEnv
      terms overrideEnvs defineFlags).started) :
    (daemon.getOrCreate world canonical sysEnv terms).1 = .ok actor ∧
      ∃ selected, selectServices states actor.config services = .ok selected := by
  unfold startServices at member
  rcases loading : daemon.getOrCreate world canonical sysEnv terms with ⟨_ | found, loaded⟩
  · simp [loading] at member
  · simp only [loading] at member
    cases selecting : selectServices states found.config services with
    | error e => simp [selecting] at member
    | ok selected => ?_
    simp only [selecting, startSelected] at member
    split at member
    · cases member
    · split at member
      · cases member
      all_goals
        obtain ⟨_, _, same⟩ := List.mem_map.mp member
        obtain rfl := (Prod.mk.inj same).1
        exact ⟨rfl, selected, selecting⟩

theorem selects_of_restartServices {noDeps : Bool}
    (member : (actor, service) ∈ (daemon.restartServices world states canonical services noDeps
      overrideEnvs defineFlags).started) :
    daemon.get world canonical = some actor ∧
      ∃ selected, selectRestarts states actor.config services noDeps = .ok selected ∧
        service ∈ selected := by
  unfold restartServices at member
  cases found : daemon.get world canonical with
  | none => simp [found] at member
  | some loaded => ?_
  simp only [found] at member
  split at member
  case h_4 selecting _ =>
    obtain ⟨name, isSelected, same⟩ := List.mem_map.mp member
    obtain ⟨rfl, rfl⟩ := Prod.mk.inj same
    exact ⟨rfl, _, selecting, isSelected⟩
  all_goals exact absurd member List.not_mem_nil

theorem lookup_command {run : ConfigActor → StateDir → ConfigActor × StateDir}
    (keeps : ∀ actor dir, (run actor dir).1.footing = actor.footing)
    (loaded : daemon.registry.lookup canonical = some actor) :
    ∃ changed, (daemon.command world canonical run).registry.lookup canonical = some changed ∧
      changed.footing = actor.footing := by
  unfold command
  simp only [loaded]
  exact ⟨_, AList.lookup_insert _, keeps actor _⟩

theorem footing_of_loadAndStart {prepare : ConfigActor → StateDir → ConfigActor × StateDir}
    (fixed : world.tree.canonicalize canonical = .ok canonical)
    (keeps : ∀ actor dir, (prepare actor dir).1.footing = actor.footing)
    (unloaded : daemon.registry.lookup canonical = none)
    (member : (actor, service) ∈ (daemon.loadAndStart world states canonical services sysEnv
      terms overrideEnvs defineFlags prepare).started) :
    LoadedOn world canonical sysEnv terms (daemon.diskSnapshot world canonical)
      actor.footing := by
  have canonicalized := canonicalizeConfigPath_eq_ok.mpr fixed
  unfold loadAndStart at member
  rcases loading : daemon.getOrCreate world canonical sysEnv terms with ⟨_ | first, loaded⟩
  · simp [loading] at member
  · simp only [loading] at member
    obtain ⟨there, source⟩ := getOrCreate_eq_ok canonicalized loading
    obtain ⟨changed, stillThere, same⟩ := @lookup_command _ world _ _ _ keeps there
    have again := (selects_of_startServices member).1
    unfold getOrCreate at again
    simp only [canonicalized, stillThere, ok.injEq] at again
    rw [← again, same]
    rcases source with already | ⟨_, loadedOn⟩
    · rw [unloaded] at already
      cases already
    · exact loadedOn

/-! ### The snapshot that a new load meets -/

section

variable {stopped : Daemon}

theorem lookup_setStateDir (dir : Option StateDir) (hash : String) :
    (daemon.setStateDir world canonical dir).stateDirs.lookup hash =
      if world.configHash canonical = hash then dir else daemon.stateDirs.lookup hash := by
  cases dir with
  | some dir => exact HashMap.lookup_insert_eq ..
  | none => exact HashMap.lookup_erase_eq ..

@[simp] theorem stateDir_setStateDir (dir : Option StateDir) :
    (daemon.setStateDir world canonical dir).stateDir world canonical = dir :=
  (lookup_setStateDir ..).trans (if_pos rfl)

def unlessRemoved (removal : Except String Unit) (snapshot : Option Snapshot) : Option Snapshot :=
  if removal.isOk then none else snapshot

theorem diskSnapshot_removeStateDir :
    (daemon.removeStateDir world canonical).diskSnapshot world canonical =
      unlessRemoved (world.remove .directory) (daemon.diskSnapshot world canonical) := by
  unfold removeStateDir attempt unlessRemoved diskSnapshot
  cases world.remove .directory with
  | error e => rfl
  | ok done => simp [Except.isOk, Except.toBool]

theorem registry_removeStateDir :
    (daemon.removeStateDir world canonical).registry = daemon.registry := by
  unfold removeStateDir attempt
  cases world.remove .directory <;> rfl

theorem diskSnapshot_clearSnapshot (loaded : daemon.registry.lookup canonical = some actor) :
    (daemon.command world canonical (clearSnapshot world)).diskSnapshot world canonical =
      unlessRemoved (world.remove .expandedConfig) (daemon.diskSnapshot world canonical) := by
  have cleared (dir : StateDir) : (actor.clearSnapshot world dir).2.loadExpandedConfig =
      unlessRemoved (world.remove .expandedConfig) dir.loadExpandedConfig := by
    have left : (actor.clearSnapshot world dir).2 = (dir.clearSnapshot world).2 := by
      unfold clearSnapshot
      rcases dir.clearSnapshot world with ⟨_ | _, left⟩ <;> rfl
    rw [left, StateDir.loadExpandedConfig, StateDir.expandedConfig_clearSnapshot, unlessRemoved]
    split_ifs <;> rfl
  unfold command diskSnapshot
  simp only [loaded]
  change ((daemon.setStateDir world canonical _).stateDir world canonical).bind _ = _
  rw [stateDir_setStateDir]
  cases daemon.stateDir world canonical with
  | none => simp [unlessRemoved]
  | some dir => exact cleared dir

theorem stopServices_keeps {services : List String}
    (success : daemon.stopServices world states canonical services false = (.ok (), stopped)) :
    stopped.registry = daemon.registry ∧ stopped.stateDirs = daemon.stateDirs := by
  unfold stopServices at success
  cases found : daemon.get world canonical with
  | none =>
    simp only [found, Prod.mk.injEq, true_and] at success
    subst success
    exact ⟨rfl, rfl⟩
  | some actor =>
    simp only [found] at success
    cases selecting : selectServices states actor.config services with
    | error e => simp [selecting] at success
    | ok =>
      simp only [selecting, Bool.and_false, Bool.false_eq_true, if_false, Prod.mk.injEq,
        true_and] at success
      subst success
      exact ⟨rfl, rfl⟩

/-- The snapshot that is left of a retired config. Services that still run are stopped first, and
`clean` removes the whole directory. -/
def snapshotAfterRetire (daemon : Daemon) (world : World) (states : ServiceStates)
    (canonical : String) (stopClean : Bool) : Option Snapshot :=
  match daemon.registry.lookup canonical with
  | none => daemon.diskSnapshot world canonical
  | some _ => unlessRemoved
      (world.remove (if stopClean && !states.allStopped then .directory else .expandedConfig))
      (daemon.diskSnapshot world canonical)

section

variable (fixed : world.tree.canonicalize canonical = .ok canonical)

include fixed

theorem diskSnapshot_unload (clean : Bool) :
    (daemon.unload world canonical clean).diskSnapshot world canonical =
      daemon.diskSnapshot world canonical := by
  unfold unload
  simp only [fixed]
  cases daemon.registry.lookup canonical with
  | none => rfl
  | some actor => ?_
  have kept (dir : StateDir) :
      (actor.shutdown world clean dir).loadExpandedConfig = dir.loadExpandedConfig := by
    unfold shutdown saveState attempt
    cases clean <;> cases world.write .stateJson <;> rfl
  change (((daemon.setStateDir world canonical _).stateDir world canonical).bind _) = _
  rw [stateDir_setStateDir, Option.bind_map]
  exact congrArg _ (funext kept)

theorem lookup_unload (clean : Bool) :
    (daemon.unload world canonical clean).registry.lookup canonical = none := by
  unfold unload
  simp only [fixed]
  cases loaded : daemon.registry.lookup canonical with
  | none => exact loaded
  | some actor => exact AList.lookup_erase _ _

theorem stopServices_clean (loaded : daemon.registry.lookup canonical = some actor)
    (success : daemon.stopServices world states canonical [] true = (.ok (), stopped)) :
    stopped.registry.lookup canonical = none ∧ stopped.diskSnapshot world canonical =
      unlessRemoved (world.remove .directory) (daemon.diskSnapshot world canonical) := by
  unfold stopServices at success
  simp only [get_canonical fixed, loaded] at success
  cases selecting : selectServices states actor.config [] with
  | error e => simp [selecting] at success
  | ok => ?_
  simp only [selecting, List.isEmpty_nil, Bool.and_self, if_true, Prod.mk.injEq, true_and]
    at success
  subst success
  constructor
  · rw [registry_removeStateDir]
    exact lookup_unload fixed true
  · rw [diskSnapshot_removeStateDir, diskSnapshot_unload fixed true]
    rfl

theorem retire_eq_ok {retired : Daemon} {stopClean unloadClean : Bool}
    (success : daemon.retire world states canonical stopClean unloadClean = (.ok (), retired)) :
    retired.registry.lookup canonical = none ∧ retired.diskSnapshot world canonical =
      daemon.snapshotAfterRetire world states canonical stopClean := by
  unfold retire at success
  rw [get_canonical fixed] at success
  unfold snapshotAfterRetire
  cases loaded : daemon.registry.lookup canonical with
  | none =>
    simp only [loaded, Prod.mk.injEq, true_and] at success
    subst success
    exact ⟨loaded, rfl⟩
  | some actor =>
    simp only [loaded] at success
    -- what clearing, revoking and unloading do to the daemon that stopping leaves
    have rest {stopped : Daemon} (same : ((stopped.command world canonical
        (clearSnapshot world)).revokeForConfig canonical).unload world canonical
          unloadClean = retired) :
        retired.registry.lookup canonical = none ∧ retired.diskSnapshot world canonical =
          (stopped.command world canonical (clearSnapshot world)).diskSnapshot world
            canonical := by
      subst same
      exact ⟨lookup_unload fixed unloadClean, diskSnapshot_unload fixed unloadClean⟩
    cases allStopped : states.allStopped with
    | true =>
      simp only [allStopped, if_true, Prod.mk.injEq, true_and] at success
      obtain ⟨gone, snapshot⟩ := rest success
      rw [snapshot, diskSnapshot_clearSnapshot loaded]
      simp [gone]
    | false =>
      simp only [allStopped, Bool.false_eq_true, if_false] at success
      rcases stopping : daemon.stopServices world states canonical [] stopClean with
        ⟨_ | _, stopped⟩
      · simp [stopping] at success
      · simp only [stopping, Prod.mk.injEq, true_and] at success
        obtain ⟨gone, snapshot⟩ := rest success
        refine ⟨gone, snapshot.trans ?_⟩
        cases stopClean with
        | true =>
          obtain ⟨unloaded, left⟩ := stopServices_clean fixed loaded stopping
          have untouched : stopped.command world canonical (clearSnapshot world) =
              stopped := by
            unfold command
            rw [unloaded]
          rw [untouched, left]
          rfl
        | false =>
          obtain ⟨sameRegistry, sameDirs⟩ := stopServices_keeps stopping
          rw [← sameRegistry] at loaded
          rw [diskSnapshot_clearSnapshot loaded]
          unfold diskSnapshot stateDir
          rw [sameDirs]
          rfl

end

/-- The snapshot that `run_services` leaves before it loads a config. -/
def snapshotBeforeRun (daemon : Daemon) (world : World) (states : ServiceStates)
    (canonical : String) (startClean : Bool) : Option Snapshot :=
  unlessRemoved (world.remove (if startClean then .directory else .expandedConfig))
    (daemon.snapshotAfterRetire world states canonical false)

theorem expandedConfig_clearForRun (world : World) (dir : StateDir) :
    (clearForRun world dir).loadExpandedConfig =
      unlessRemoved (world.remove .expandedConfig) dir.loadExpandedConfig := by
  have same : (clearForRun world dir).expandedConfig = (attempt (world.remove .expandedConfig)
      (fun dir => { dir with expandedConfig := none }) dir).expandedConfig := by
    unfold clearForRun attempt
    cases world.remove .envFiles <;> cases world.remove .sourcePath <;>
      cases world.remove .stateJson <;> cases world.remove .configYaml <;> rfl
  rw [StateDir.loadExpandedConfig, same]
  cases world.remove .expandedConfig <;> rfl

theorem clearState_eq (startClean : Bool) :
    (daemon.clearState world canonical startClean).registry = daemon.registry ∧
      (daemon.clearState world canonical startClean).diskSnapshot world canonical =
        unlessRemoved (world.remove (if startClean then .directory else .expandedConfig))
          (daemon.diskSnapshot world canonical) := by
  unfold clearState
  cases startClean with
  | true => exact ⟨registry_removeStateDir, diskSnapshot_removeStateDir⟩
  | false => ?_
  refine ⟨rfl, ?_⟩
  simp only [Bool.false_eq_true, if_false, diskSnapshot, stateDir_setStateDir]
  cases daemon.stateDir world canonical with
  | none => simp [unlessRemoved]
  | some dir => exact expandedConfig_clearForRun world dir

end

end Daemon

/-! ### Standards -/

/-- What is asked of the footing of services, and of the permissions in a file that is loaded on the
terms of the request. -/
structure Standard where
  footing : Footing → Prop
  file : (String → Option ServicePermissions) → Prop

/-- The snapshot of a config that is about to be loaded meets the standard, or else its file. -/
def Standard.Load (standard : Standard) (world : World) (canonical : String)
    (sysEnv : Option Bindings) (snapshot : Option Snapshot) : Prop :=
  match snapshot with
  | some snapshot => standard.footing snapshot.footing
  | none => ∀ contents config, world.tree.read canonical = .ok contents →
      world.loadConfig contents (cliEnv sysEnv) = .ok config →
      standard.file config.permissions

theorem Standard.footing_of_loadedOn {standard : Standard} {world : World} {canonical : String}
    {snapshot : Option Snapshot} {footing : Footing}
    (load : standard.Load world canonical sysEnv snapshot)
    (fresh : ∀ permissions, standard.file permissions →
      standard.footing (terms.footing permissions))
    (loadedOn : LoadedOn world canonical sysEnv terms snapshot footing) :
    standard.footing footing := by
  cases snapshot with
  | some snapshot =>
    obtain rfl : footing = snapshot.footing := loadedOn
    exact load
  | none =>
    obtain ⟨contents, config, read, parsed, rfl⟩ := loadedOn
    exact fresh _ (load contents config read parsed)

namespace Daemon

/-- The config of a request meets the standard as it is loaded, or as it will be. -/
def MeetsStandard (daemon : Daemon) (world : World) (states : ServiceStates) (canonical : String)
    (standard : Standard) : Request → Prop
  | .start fields =>
    match daemon.registry.lookup canonical with
    | some actor => standard.footing actor.footing
    | none => standard.Load world canonical fields.sysEnv (daemon.diskSnapshot world canonical)
  | .restart _ => ∀ actor, daemon.registry.lookup canonical = some actor →
      standard.footing actor.footing
  | .recreate fields => standard.Load world canonical fields.sysEnv
      (daemon.snapshotAfterRetire world states canonical true)
  | .run fields => standard.Load world canonical fields.sysEnv
      (daemon.snapshotBeforeRun world states canonical fields.startClean)
  | _ => True

section

variable {daemon : Daemon} {world : World} {states : ServiceStates} {standard : Standard}
  {canonical service : String} {services : List String} {sysEnv : Option Bindings}
  {terms : LoadTerms} {overrideEnvs defineFlags : Option Bindings} {actor : ConfigActor}
  {auth : AuthContext} {rawPath : String}

section

variable (fixed : world.tree.canonicalize canonical = .ok canonical)
  (fresh : ∀ permissions, standard.file permissions → standard.footing (terms.footing permissions))

include fixed fresh

theorem footing_of_recreateServices
    (load : standard.Load world canonical sysEnv
      (daemon.snapshotAfterRetire world states canonical true))
    (member : (actor, service) ∈ (daemon.recreateServices world states canonical sysEnv terms
      defineFlags).started) : standard.footing actor.footing := by
  unfold recreateServices at member
  rcases retiring : daemon.retire world states canonical true false with ⟨_ | _, retired⟩
  · simp [retiring] at member
  · simp only [retiring] at member
    obtain ⟨unloaded, snapshot⟩ := retire_eq_ok fixed retiring
    rw [← snapshot] at load
    refine Standard.footing_of_loadedOn load fresh
      (footing_of_loadAndStart fixed (fun actor dir => ?_) unloaded member)
    obtain ⟨_, _, same⟩ := actor.takeSnapshotIfNeeded_actor world dir
    rw [same]
    rfl

theorem footing_of_runServices {startClean : Bool}
    (load : standard.Load world canonical sysEnv
      (daemon.snapshotBeforeRun world states canonical startClean))
    (member : (actor, service) ∈ (daemon.runServices world states canonical services sysEnv terms
      overrideEnvs defineFlags startClean).started) : standard.footing actor.footing := by
  unfold runServices at member
  rcases retiring : daemon.retire world states canonical false true with ⟨_ | _, retired⟩
  · simp [retiring] at member
  · simp only [retiring] at member
    obtain ⟨unloaded, snapshot⟩ := retire_eq_ok fixed retiring
    obtain ⟨sameRegistry, cleared⟩ := @clearState_eq retired world canonical startClean
    rw [snapshotBeforeRun, ← snapshot, ← cleared] at load
    rw [← sameRegistry] at unloaded
    exact Standard.footing_of_loadedOn load fresh
      (footing_of_loadAndStart fixed (fun _ _ => rfl) unloaded member)

end

theorem started_of_withTerms {configPath : String} {hardening : Option String}
    {carryOut : Daemon → String → LoadTerms → RequestResult OrchestratorError}
    (spelled : some configPath = some rawPath)
    (resolved : world.tree.canonicalize rawPath = .ok canonical) (member : (actor, service) ∈
      (daemon.withTerms world auth configPath hardening carryOut).started) :
    ∃ level, parseHardening hardening = .ok level ∧
      (actor, service) ∈ (carryOut (daemon.forgetUnloadedAcl world canonical) canonical
        ⟨some (auth.uid, auth.gid), level, auth.permissionCeiling⟩).started := by
  cases spelled
  unfold withTerms withPath at member
  rw [canonicalizeConfigPath_eq_ok.mpr resolved] at member
  cases parsed : parseHardening hardening with
  | error e => simp [parsed, refuse] at member
  | ok level =>
    simp only [parsed] at member
    exact ⟨level, rfl, member⟩

/-- Every service that a request starts meets the standard, if its config does and if the terms of
the request do with any file that does. -/
theorem footing_of_dispatch {request : Request} (spelled : request.extractConfigPath = some rawPath)
    (resolved : world.tree.canonicalize rawPath = .ok canonical)
    (meets : daemon.MeetsStandard world states canonical standard request)
    (fresh : ∀ level permissions, parseHardening request.requestedHardening = .ok level →
      standard.file permissions →
      standard.footing ⟨auth.permissionCeiling, level, permissions⟩)
    (member : (actor, service) ∈ (daemon.dispatch world states auth request).started) :
    standard.footing actor.footing := by
  have fixed := world.tree.canonicalize_canonical resolved
  cases request with
  | start fields =>
    obtain ⟨level, parsed, member⟩ := started_of_withTerms spelled resolved member
    have returned := (selects_of_startServices member).1
    obtain ⟨_, source⟩ := getOrCreate_eq_ok (canonicalizeConfigPath_eq_ok.mpr fixed)
      (Prod.ext returned rfl)
    unfold MeetsStandard at meets
    rcases source with loaded | ⟨unloaded, loadedOn⟩
    · rw [show daemon.registry.lookup canonical = some actor from loaded] at meets
      exact meets
    · rw [show daemon.registry.lookup canonical = none from unloaded] at meets
      exact Standard.footing_of_loadedOn meets (fun _ => fresh level _ parsed) loadedOn
  | run fields =>
    obtain ⟨level, parsed, member⟩ := started_of_withTerms spelled resolved member
    exact footing_of_runServices fixed (fun _ => fresh level _ parsed) (by exact meets) member
  | recreate fields =>
    obtain ⟨level, parsed, member⟩ := started_of_withTerms spelled resolved member
    exact footing_of_recreateServices fixed (fun _ => fresh level _ parsed) (by exact meets) member
  | restart fields =>
    cases spelled
    simp only [dispatch, withPath, canonicalizeConfigPath_eq_ok.mpr resolved] at member
    have loaded := (selects_of_restartServices member).1
    rw [get_canonical fixed] at loaded
    exact meets actor loaded
  | stop fields =>
    cases spelled
    simp only [dispatch, withPath, canonicalizeConfigPath_eq_ok.mpr resolved, stopBranch] at member
    split at member <;> exact absurd member List.not_mem_nil
  | _ => cases member

end

end Daemon

end Kepler
