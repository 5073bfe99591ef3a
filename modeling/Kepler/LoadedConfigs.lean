/-
This file says which configs the daemon can come to hold. A config is loaded from its file or from
a snapshot, and a snapshot is taken of a loaded config. Requests never change a config otherwise.

A property of configs that the files at some paths have, and that the loaded configs and the
snapshots there have before a request, is therefore a property of the configs there after the
request, and of the config whose services the request starts.
-/

import Kepler.Histories

namespace Kepler

open ConfigActor Option

/-- The loaded configs at some paths and the snapshots under some hashes are good. -/
structure Daemon.Holds (daemon : Daemon) (paths hashes : Set String)
    (Good : KeplerConfig → Prop) : Prop where
  registry : ∀ path ∈ paths, ∀ actor, daemon.registry.lookup path = some actor →
    Good actor.config
  snapshots : ∀ hash ∈ hashes, ∀ dir, daemon.stateDirs.lookup hash = some dir →
    ∀ snapshot, dir.loadExpandedConfig = some snapshot → Good snapshot.config

def World.Reads (world : World) (canonical : String) (sysEnv : Option Bindings)
    (Good : KeplerConfig → Prop) : Prop :=
  ∀ contents config, world.tree.read canonical = .ok contents →
    world.loadConfig contents (cliEnv sysEnv) = .ok config → Good config

/-- A request for a config at a path under which only good configs are loaded. -/
structure World.Admits (world : World) (canonical : String) (sysEnv : Option Bindings)
    (paths hashes : Set String) (Good : KeplerConfig → Prop) : Prop where
  fixed : world.tree.canonicalize canonical = .ok canonical
  linked : canonical ∈ paths ↔ world.configHash canonical ∈ hashes
  reads : canonical ∈ paths → world.Reads canonical sysEnv Good
  stable : ∀ config uid gid, Good config → Good (config.resolveDefaultUser uid gid)

/-- A command of an actor that leaves its config alone, and after which a snapshot is the one that
was there or one of the config. -/
def ConfigActor.Tame (run : ConfigActor → StateDir → ConfigActor × StateDir) : Prop :=
  ∀ actor dir, (run actor dir).1.config = actor.config ∧
    ∀ snapshot, (run actor dir).2.loadExpandedConfig = some snapshot →
      dir.loadExpandedConfig = some snapshot ∨ snapshot.config = actor.config

variable {actor : ConfigActor}

namespace ConfigActor

/-! ### Commands of an actor -/

theorem loadExpandedConfig_saveState (world : World) (actor : ConfigActor) (dir : StateDir) :
    (saveState world actor dir).loadExpandedConfig = dir.loadExpandedConfig := by
  unfold saveState attempt
  cases world.write .stateJson <;> rfl

theorem tame_takeSnapshotIfNeeded (world : World) : Tame (takeSnapshotIfNeeded world) := by
  intro actor dir
  refine ⟨?_, fun snapshot found => ?_⟩
  · obtain ⟨_, _, same⟩ := takeSnapshotIfNeeded_actor world actor dir
    rw [same]
  · unfold takeSnapshotIfNeeded at found
    split at found
    · exact .inl found
    · split at found
      · exact .inl found
      · split at found
        · exact .inl found
        · split at found
          · exact .inl found
          · split at found
            · exact .inl found
            · rw [loadExpandedConfig_saveState] at found
              exact .inr (congrArg Snapshot.config (some.inj found).symm)

theorem tame_refresh {change : ConfigActor → ConfigActor} (world : World)
    (keeps : ∀ actor, (change actor).config = actor.config) :
    Tame fun actor dir => refresh world (change actor) dir := by
  intro actor dir
  refine ⟨keeps actor, fun snapshot found => ?_⟩
  unfold refresh at found
  dsimp only at found
  split at found
  · unfold attempt at found
    split at found
    · rw [← some.inj found]
      exact .inr (keeps actor)
    · exact .inl found
  · exact .inl found

theorem tame_clearSnapshot (world : World) : Tame (clearSnapshot world) := by
  intro actor dir
  unfold clearSnapshot
  rcases cleared : dir.clearSnapshot world with ⟨outcome, left⟩
  have snapshot : left.expandedConfig = none ∨ left.expandedConfig = dir.expandedConfig := by
    have same := StateDir.expandedConfig_clearSnapshot world dir
    rw [cleared] at same
    rw [same]
    split
    · exact .inl rfl
    · exact .inr rfl
  have keeps : ∀ found, left.loadExpandedConfig = some found →
      dir.loadExpandedConfig = some found := by
    intro found
    unfold StateDir.loadExpandedConfig
    rcases snapshot with none | same
    · rw [none]
      exact nofun
    · rw [same]
      exact id
  rcases outcome with failure | done <;> exact ⟨rfl, fun found is => .inl (keeps found is)⟩

theorem tame_setSuppressSnapshot : Tame fun actor dir => (actor.setSuppressSnapshot, dir) :=
  fun _ _ => ⟨rfl, fun _ found => .inl found⟩

/-! ### Loading -/

variable {world : World} {canonical : String} {sysEnv : Option Bindings} {terms : LoadTerms}
  {Good : KeplerConfig → Prop} {existing : Option StateDir} {machine : Nat}

theorem good_of_loadFresh {dir : StateDir} {baked : BakedConfig}
    (stable : ∀ config uid gid, Good config → Good (config.resolveDefaultUser uid gid))
    (reads : world.Reads canonical sysEnv Good)
    (success : (loadFresh world canonical sysEnv terms dir).1 = .ok baked) :
    Good baked.config := by
  obtain ⟨contents, config, read, parsed, same, _, _⟩ := loadFresh_eq_ok success
  have good := reads contents config read parsed
  rw [same]
  cases terms.owner with
  | none => exact good
  | some owner => exact stable config owner.1 owner.2 good

theorem good_of_create
    (stable : ∀ config uid gid, Good config → Good (config.resolveDefaultUser uid gid))
    (reads : world.Reads canonical sysEnv Good) (restored : ∀ dir, existing = some dir → ∀ snapshot,
      dir.loadExpandedConfig = some snapshot → Good snapshot.config)
    (success : (create world machine canonical sysEnv terms existing).1 = .ok actor) :
    Good actor.config := by
  obtain ⟨baked, finished, source⟩ := create_eq_ok success
  rw [(finish_eq_ok finished).1]
  rw [loadExpandedConfig_prepareDir] at source
  cases found : (existing.getD {}).loadExpandedConfig with
  | none =>
    rw [found] at source
    exact good_of_loadFresh stable reads source
  | some snapshot =>
    rw [found] at source
    unfold restoreSnapshot at source
    dsimp only at source
    split at source
    · cases source
    · cases source
      cases existing with
      | none => cases found
      | some dir => exact restored dir rfl snapshot found

theorem loadExpandedConfig_loadFresh (dir : StateDir) :
    (loadFresh world canonical sysEnv terms dir).2.loadExpandedConfig =
      dir.loadExpandedConfig := by
  unfold loadFresh
  cases world.tree.read canonical with
  | error e => rfl
  | ok contents => ?_
  cases world.write .configYaml with
  | error e => rfl
  | ok done => ?_
  dsimp only
  cases bakeFresh world canonical contents sysEnv terms with
  | error e => rfl
  | ok baked =>
    dsimp only
    split
    · cases world.write .envFiles <;> rfl
    · rfl

theorem loadExpandedConfig_create {left : StateDir}
    (leaves : (create world machine canonical sysEnv terms existing).2 = some left) :
    left.loadExpandedConfig = existing.bind StateDir.loadExpandedConfig := by
  unfold create at leaves
  cases made : world.write .directory with
  | error e =>
    rw [made] at leaves
    obtain rfl : existing = some left := leaves
    rfl
  | ok done =>
    rw [made] at leaves
    have same : existing.bind StateDir.loadExpandedConfig =
        (prepareDir world canonical terms (existing.getD {})).loadExpandedConfig := by
      rw [loadExpandedConfig_prepareDir]
      cases existing <;> rfl
    rw [same, ← some.inj leaves]
    cases found : (prepareDir world canonical terms (existing.getD {})).loadExpandedConfig with
    | some => exact found
    | none => exact (loadExpandedConfig_loadFresh _).trans found

end ConfigActor

namespace Daemon

/-! ### Requests -/

variable {daemon : Daemon} {world : World} {states : ServiceStates} {canonical : String}
  {paths hashes : Set String} {Good : KeplerConfig → Prop} {sysEnv : Option Bindings}
  {terms : LoadTerms} {services : List String} {overrideEnvs defineFlags : Option Bindings}
  {hash : String}

theorem holds_initial : initial.Holds paths hashes Good where
  registry _ _ _ found := by cases found
  snapshots _ _ _ found := by cases found

section

variable (holds : daemon.Holds paths hashes Good) {after : Daemon} {configPath : String}

include holds

theorem Holds.of_agrees (registry : after.registry = daemon.registry)
    (stateDirs : after.stateDirs = daemon.stateDirs) : after.Holds paths hashes Good where
  registry := by rw [registry]; exact holds.registry
  snapshots := by rw [stateDirs]; exact holds.snapshots

theorem Holds.setStateDir {dir : Option StateDir}
    (good : world.configHash canonical ∈ hashes → ∀ left, dir = some left →
      ∀ snapshot, left.loadExpandedConfig = some snapshot → Good snapshot.config) :
    (daemon.setStateDir world canonical dir).Holds paths hashes Good := by
  refine ⟨holds.registry, fun hash inside left found => ?_⟩
  rw [lookup_setStateDir] at found
  split at found
  · next same => exact good (same ▸ inside) left found
  · exact holds.snapshots hash inside left found

theorem Holds.stateDir (inside : world.configHash canonical ∈ hashes) :
    ∀ dir, daemon.stateDir world canonical = some dir →
      ∀ snapshot, dir.loadExpandedConfig = some snapshot → Good snapshot.config :=
  fun dir found => holds.snapshots _ inside dir found

theorem Holds.insert (good : canonical ∈ paths → Good actor.config)
    (registry : after.registry = daemon.registry.insert canonical actor)
    (stateDirs : after.stateDirs = daemon.stateDirs) : after.Holds paths hashes Good := by
  refine ⟨fun path inside found isFound => ?_, by rw [stateDirs]; exact holds.snapshots⟩
  rw [registry, HashMap.lookup_insert_eq] at isFound
  split at isFound
  · next same =>
    rw [← some.inj isFound]
    exact good (same ▸ inside)
  · exact holds.registry path inside found isFound

theorem Holds.erase (registry : after.registry = daemon.registry.erase canonical)
    (stateDirs : after.stateDirs = daemon.stateDirs) : after.Holds paths hashes Good := by
  refine ⟨fun path inside found isFound => ?_, by rw [stateDirs]; exact holds.snapshots⟩
  rw [registry, HashMap.lookup_erase_eq] at isFound
  split at isFound
  · cases isFound
  · exact holds.registry path inside found isFound

theorem Holds.unload (clean : Bool) :
    (daemon.unload world canonical clean).Holds paths hashes Good := by
  unfold Daemon.unload
  cases world.tree.canonicalize canonical with
  | error e => exact holds
  | ok path => ?_
  dsimp only
  cases daemon.registry.lookup path with
  | none => exact holds
  | some actor => ?_
  refine Holds.erase (holds.setStateDir fun inside left isLeft snapshot found => ?_) rfl rfl
  obtain ⟨dir, isDir, rfl⟩ := map_eq_some_iff.mp isLeft
  refine holds.stateDir inside dir isDir snapshot ?_
  rw [← found]
  unfold shutdown
  split
  · rfl
  · exact (loadExpandedConfig_saveState ..).symm

theorem Holds.removeStateDir : (daemon.removeStateDir world canonical).Holds paths hashes Good := by
  unfold Daemon.removeStateDir attempt
  split
  · exact holds.setStateDir fun _ left isLeft => by cases isLeft
  · exact holds

theorem Holds.revokeForConfig (configPath : String) :
    (daemon.revokeForConfig configPath).Holds paths hashes Good :=
  holds.of_agrees rfl rfl

theorem Holds.revokeStopped (configPath : String) (stopped : List String) :
    (daemon.revokeStopped configPath stopped).Holds paths hashes Good :=
  holds.of_agrees rfl rfl

theorem Holds.stopServices (world : World) (states : ServiceStates) (canonical : String)
    (services : List String) (clean : Bool) :
    (daemon.stopServices world states canonical services clean).2.Holds paths hashes Good := by
  unfold Daemon.stopServices
  cases daemon.get world canonical with
  | none =>
    dsimp only
    split
    · exact holds.removeStateDir
    · exact holds
  | some actor =>
    dsimp only
    cases selectServices states actor.config services with
    | error e => exact holds
    | ok => ?_
    dsimp only
    split
    · exact (((holds.revokeStopped canonical _).revokeForConfig canonical).unload
        true).removeStateDir
    · exact holds.revokeStopped canonical _

theorem Holds.clearState (startClean : Bool) :
    (daemon.clearState world canonical startClean).Holds paths hashes Good := by
  unfold Daemon.clearState
  split
  · exact holds.removeStateDir
  · refine holds.setStateDir fun inside left isLeft snapshot found => ?_
    obtain ⟨dir, isDir, rfl⟩ := map_eq_some_iff.mp isLeft
    rw [expandedConfig_clearForRun, unlessRemoved] at found
    split at found
    · cases found
    · exact holds.stateDir inside dir isDir snapshot found

section

variable (admits : world.Admits canonical sysEnv paths hashes Good)

include admits

theorem Holds.command {run : ConfigActor → StateDir → ConfigActor × StateDir}
    (tame : ConfigActor.Tame run) :
    (daemon.command world canonical run).Holds paths hashes Good := by
  unfold Daemon.command
  cases loaded : daemon.registry.lookup canonical with
  | none => exact holds
  | some actor => ?_
  have good : canonical ∈ paths → Good actor.config :=
    fun inside => holds.registry canonical inside actor loaded
  refine Holds.insert (holds.setStateDir fun inside left isLeft snapshot found => ?_)
    (fun inside => ?_) rfl rfl
  · obtain ⟨dir, isDir, rfl⟩ := map_eq_some_iff.mp isLeft
    rw [isDir] at found
    rcases (tame actor dir).2 snapshot found with before | own
    · exact holds.stateDir inside dir isDir snapshot before
    · rw [own]
      exact good (admits.linked.mpr inside)
  · rw [(tame actor _).1]
    exact good inside

theorem Holds.getOrCreate (terms : LoadTerms) :
    (daemon.getOrCreate world canonical sysEnv terms).2.Holds paths hashes Good ∧
      ∀ actor, (daemon.getOrCreate world canonical sysEnv terms).1 = .ok actor →
        canonical ∈ paths → Good actor.config := by
  unfold Daemon.getOrCreate
  rw [canonicalizeConfigPath_eq_ok.mpr admits.fixed]
  dsimp only
  cases loaded : daemon.registry.lookup canonical with
  | some actor =>
    refine ⟨holds, fun found isFound inside => ?_⟩
    rw [← Except.ok.inj isFound]
    exact holds.registry canonical inside actor loaded
  | none =>
    have left : (daemon.setStateDir world canonical (create world daemon.nextMachine
        canonical sysEnv terms (daemon.stateDir world canonical)).2).Holds paths hashes Good := by
      refine holds.setStateDir fun inside left isLeft snapshot found => ?_
      rw [loadExpandedConfig_create isLeft] at found
      obtain ⟨dir, isDir, found⟩ := bind_eq_some_iff.mp found
      exact holds.stateDir inside dir isDir snapshot found
    cases created : (create world daemon.nextMachine canonical sysEnv terms
        (daemon.stateDir ..)).1 with
    | error e => exact ⟨left.of_agrees rfl rfl, fun actor impossible => by cases impossible⟩
    | ok actor => ?_
    have good : canonical ∈ paths → Good actor.config := fun inside =>
      good_of_create admits.stable (admits.reads inside)
        (holds.stateDir (admits.linked.mp inside)) created
    refine ⟨left.insert good rfl rfl, fun found isFound inside => ?_⟩
    rw [← Except.ok.inj isFound]
    exact good inside

theorem Holds.mergeOverrides (overrideEnvs defineFlags : Option Bindings) :
    (daemon.mergeOverrides world canonical overrideEnvs defineFlags).Holds paths hashes Good := by
  have env : ∀ overrides, (daemon.command world canonical
      (mergeKeplerEnv world overrides)).Holds paths hashes Good :=
    fun overrides => holds.command admits (tame_refresh world fun _ => rfl)
  have flags : ∀ {merged : Daemon}, merged.Holds paths hashes Good → ∀ flags,
      (merged.command world canonical
        (mergeKeplerFlags world flags)).Holds paths hashes Good :=
    fun merged flags => merged.command admits (tame_refresh world fun _ => rfl)
  cases overrideEnvs with
  | none =>
    cases defineFlags with
    | none => exact holds
    | some given => exact flags holds given
  | some overrides =>
    cases defineFlags with
    | none => exact env overrides
    | some given => exact flags (env overrides) given

theorem Holds.postStartupWork (anyStarted : Bool) :
    (daemon.postStartupWork world canonical anyStarted).Holds paths hashes Good := by
  unfold Daemon.postStartupWork
  split
  · exact holds.command admits (tame_takeSnapshotIfNeeded world)
  · exact holds

theorem Holds.startServices :
    (daemon.startServices world states canonical services sysEnv terms overrideEnvs
      defineFlags).daemon.Holds paths hashes Good := by
  have loads := (holds.getOrCreate admits terms).1
  unfold Daemon.startServices
  rcases loading : daemon.getOrCreate world canonical sysEnv terms with ⟨_ | actor, loaded⟩
  all_goals rw [loading] at loads
  · exact loads
  · dsimp only
    have merged := loads.mergeOverrides admits overrideEnvs defineFlags
    cases selectServices states actor.config services with
    | error e => exact merged
    | ok => ?_
    unfold startSelected
    dsimp only
    split
    · exact merged
    · split
      · exact merged
      · exact merged
      · exact merged.postStartupWork admits _

theorem Holds.restartServices {noDeps : Bool} :
    (daemon.restartServices world states canonical services noDeps overrideEnvs
      defineFlags).daemon.Holds paths hashes Good := by
  have merged := holds.mergeOverrides admits overrideEnvs defineFlags
  unfold Daemon.restartServices
  cases daemon.get world canonical with
  | none => exact holds
  | some actor => ?_
  dsimp only
  split
  · exact merged
  · exact merged
  · exact merged
  · exact merged.postStartupWork admits _

theorem Holds.retire {stopClean unloadClean : Bool} :
    (daemon.retire world states canonical stopClean unloadClean).2.Holds paths hashes Good := by
  have rest : ∀ {stopped : Daemon}, stopped.Holds paths hashes Good →
      (((stopped.command world canonical (clearSnapshot world)).revokeForConfig
        canonical).unload world canonical unloadClean).Holds paths hashes Good := by
    intro stopped holds
    have cleared := holds.command admits (tame_clearSnapshot world)
    exact (cleared.revokeForConfig canonical).unload unloadClean
  unfold Daemon.retire
  cases daemon.get world canonical with
  | none => exact holds
  | some actor => ?_
  split_ifs
  · exact rest holds
  · have left := holds.stopServices world states canonical [] stopClean
    rcases stopping : daemon.stopServices world states canonical [] stopClean with
      ⟨_ | _, stopped⟩
    all_goals rw [stopping] at left
    · exact left
    · exact rest left

theorem Holds.loadAndStart {prepare : ConfigActor → StateDir → ConfigActor × StateDir}
    (tame : ConfigActor.Tame prepare) :
    (daemon.loadAndStart world states canonical services sysEnv terms overrideEnvs defineFlags
        prepare).daemon.Holds paths hashes Good ∧
      ∀ actor service, (actor, service) ∈ (daemon.loadAndStart world states canonical services
        sysEnv terms overrideEnvs defineFlags prepare).started →
        canonical ∈ paths → Good actor.config := by
  have loads := (holds.getOrCreate admits terms).1
  unfold Daemon.loadAndStart
  rcases loading : daemon.getOrCreate world canonical sysEnv terms with ⟨_ | first, loaded⟩
  all_goals rw [loading] at loads
  · exact ⟨loads, fun _ _ member => absurd member List.not_mem_nil⟩
  · have prepared := loads.command admits tame
    refine ⟨prepared.startServices admits, fun actor service member inside => ?_⟩
    exact (prepared.getOrCreate admits _).2 actor (selects_of_startServices member).1 inside

theorem Holds.recreateServices :
    (daemon.recreateServices world states canonical sysEnv terms defineFlags).daemon.Holds paths
      hashes Good := by
  have left : (daemon.retire world states canonical true false).2.Holds paths hashes Good :=
    holds.retire admits
  unfold Daemon.recreateServices
  rcases retiring : daemon.retire world states canonical true false with ⟨_ | _, retired⟩
  all_goals rw [retiring] at left
  · exact left
  · exact (left.loadAndStart admits (tame_takeSnapshotIfNeeded world)).1

theorem Holds.runServices {startClean : Bool} :
    (daemon.runServices world states canonical services sysEnv terms overrideEnvs defineFlags
        startClean).daemon.Holds paths hashes Good ∧
      ∀ actor service, (actor, service) ∈ (daemon.runServices world states canonical services
        sysEnv terms overrideEnvs defineFlags startClean).started →
        canonical ∈ paths → Good actor.config := by
  have left : (daemon.retire world states canonical false true).2.Holds paths hashes Good :=
    holds.retire admits
  unfold Daemon.runServices
  rcases retiring : daemon.retire world states canonical false true with ⟨_ | _, retired⟩
  all_goals rw [retiring] at left
  · exact ⟨left, fun _ _ member => absurd member List.not_mem_nil⟩
  · exact (left.clearState startClean).loadAndStart admits tame_setSuppressSnapshot

end

theorem Holds.forgetUnloadedAcl :
    (daemon.forgetUnloadedAcl world canonical).Holds paths hashes Good :=
  holds.of_agrees rfl rfl

theorem Holds.withPath {carryOut : String → RequestResult Response}
    (carries : ∀ canonical, world.tree.canonicalize canonical = .ok canonical →
      (carryOut canonical).daemon.Holds paths hashes Good) :
    (daemon.withPath world configPath carryOut).daemon.Holds paths hashes Good := by
  unfold Daemon.withPath
  cases resolved : world.canonicalizeConfigPath configPath with
  | error e => exact holds
  | ok canonical =>
    exact carries canonical
      (world.tree.canonicalize_canonical (canonicalizeConfigPath_eq_ok.mp resolved))

theorem Holds.withTerms {auth : AuthContext} {hardening : Option String}
    {carryOut : Daemon → String → LoadTerms → RequestResult OrchestratorError}
    (carries : ∀ daemon canonical terms, Daemon.Holds daemon paths hashes Good →
      world.tree.canonicalize canonical = .ok canonical →
      (carryOut daemon canonical terms).daemon.Holds paths hashes Good) :
    (daemon.withTerms world auth configPath hardening carryOut).daemon.Holds paths hashes
      Good := by
  refine holds.withPath fun canonical fixed => ?_
  cases parseHardening hardening with
  | error e => exact holds
  | ok level => exact carries _ canonical _ holds.forgetUnloadedAcl fixed

theorem Holds.dispatch
    (admits : ∀ canonical sysEnv, world.tree.canonicalize canonical = .ok canonical →
      world.Admits canonical sysEnv paths hashes Good) (auth : AuthContext) (request : Request) :
    (daemon.dispatch world states auth request).daemon.Holds paths hashes Good := by
  cases request with
  | start fields =>
    exact holds.withTerms fun _ canonical _ held fixed => held.startServices (admits _ _ fixed)
  | run fields =>
    exact holds.withTerms fun _ canonical _ held fixed => (held.runServices (admits _ _ fixed)).1
  | recreate fields =>
    exact holds.withTerms fun _ canonical _ held fixed => held.recreateServices (admits _ _ fixed)
  | restart fields =>
    exact holds.withPath fun canonical fixed =>
      Holds.restartServices holds (admits canonical none fixed)
  | stop fields =>
    refine holds.withPath fun canonical fixed => ?_
    have left := holds.stopServices world states canonical fields.services fields.clean
    unfold stopBranch
    split
    · exact holds
    · dsimp only [RequestResult.answer]
      split
      · exact left.forgetUnloadedAcl
      · exact left
  | _ => exact holds

end

theorem agrees_launchService {process : DaemonProcess} {surroundings : Surroundings}
    {service : String} {drawn : Except String Token} :
    (daemon.launchService process surroundings actor service drawn).2.registry =
        daemon.registry ∧
      (daemon.launchService process surroundings actor service drawn).2.stateDirs =
        daemon.stateDirs := by
  unfold launchService
  cases actor.resolveLaunch process surroundings service with
  | error e => exact ⟨rfl, rfl⟩
  | ok resolved => ?_
  dsimp only
  unfold createServiceTokenGuard
  cases resolved.permissions with
  | none => exact ⟨rfl, rfl⟩
  | some permissions => ?_
  dsimp only
  cases making : daemon.newTokenContext surroundings.world process.hardening actor.handle
      service permissions with
  | error e => exact ⟨rfl, rfl⟩
  | ok made => ?_
  obtain ⟨allow, _, making⟩ := Result.bind_eq_ok.mp making
  obtain ⟨floor, _, making⟩ := Result.bind_eq_ok.mp making
  obtain ⟨⟨authorizer, compiled⟩, compiling, making⟩ := Result.bind_eq_ok.mp making
  cases making
  have same : compiled.registry = daemon.registry ∧
      compiled.stateDirs = daemon.stateDirs := by
    unfold compileAuthorizer at compiling
    split at compiling
    · cases compiling
      exact ⟨rfl, rfl⟩
    · split at compiling
      · cases compiling
      · cases compiling
        exact ⟨rfl, rfl⟩
  cases drawn <;> exact same

theorem getOrCreate_of_canonicalize {source : String}
    (resolved : world.tree.canonicalize source = .ok canonical) :
    daemon.getOrCreate world source sysEnv terms =
      daemon.getOrCreate world canonical sysEnv terms := by
  unfold getOrCreate
  rw [canonicalizeConfigPath_eq_ok.mpr resolved,
    canonicalizeConfigPath_eq_ok.mpr (world.tree.canonicalize_canonical resolved)]

theorem restore_eq_some (loaded : (daemon.restore world hash).1 = some actor) :
    ∃ dir source canonical, daemon.stateDirs.lookup hash = some dir ∧
      dir.sourcePath = some source ∧ world.tree.canonicalize source = .ok canonical ∧
      (daemon.getOrCreate world canonical none {}).1 = .ok actor := by
  unfold Daemon.restore at loaded
  split at loaded
  · cases loaded
  · next source known =>
    obtain ⟨dir, isDir, known⟩ := bind_eq_some_iff.mp known
    obtain ⟨_, _, isSource⟩ := bind_eq_some_iff.mp known
    have returned := Result.toOption_eq_some.mp loaded
    cases resolved : world.tree.canonicalize source with
    | error e =>
      unfold Daemon.getOrCreate World.canonicalizeConfigPath at returned
      rw [resolved] at returned
      cases e <;> cases returned
    | ok canonical =>
      rw [getOrCreate_of_canonicalize resolved] at returned
      exact ⟨dir, source, canonical, isDir, isSource, resolved, returned⟩

theorem Holds.restore (holds : daemon.Holds paths hashes Good)
    (admits : ∀ canonical, world.tree.canonicalize canonical = .ok canonical →
      world.Admits canonical none paths hashes Good) :
    (daemon.restore world hash).2.Holds paths hashes Good := by
  unfold Daemon.restore
  split
  · exact holds
  · next source _ =>
    cases resolved : world.tree.canonicalize source with
    | error e =>
      have unchanged : (daemon.getOrCreate world source none {}).2 = daemon := by
        unfold Daemon.getOrCreate World.canonicalizeConfigPath
        rw [resolved]
        cases e <;> rfl
      rw [unchanged]
      exact holds
    | ok canonical =>
      rw [getOrCreate_of_canonicalize resolved]
      exact (holds.getOrCreate (admits canonical (world.tree.canonicalize_canonical resolved))
        {}).1

end Daemon

end Kepler
