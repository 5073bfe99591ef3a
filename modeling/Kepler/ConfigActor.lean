/-
This file models the actor that holds a loaded config (`config_actor/actor.rs`) and the state
directory in which it keeps its files (`persistence.rs`).

An actor is created from the snapshot in its state directory when there is one, and from the config
file otherwise. A snapshot carries the owner, the hardening level and the permission ceiling of the
first load, and what the caller asks for now is then not looked at. Most writes are best effort, and
what was written before a failure stays.
-/

import Kepler.Config
import Kepler.Library.FileTree

namespace Kepler

/-! ### What lies outside of the daemon -/

/-- A file of a state directory, as the target of a write or of a removal. -/
inductive StateFile where
  | directory
  | sourcePath
  | stateJson
  | configYaml
  | expandedConfig
  | envFiles
  deriving DecidableEq, Repr

/-- What the daemon finds around it while it takes one step: the account databases, the directory
tree, the Lua interpreters, the parser of config files, the outcome of writing and removing each
file of a state directory, and the kepler group. -/
structure World where
  accounts : Accounts
  tree : FileTree String
  engine : LuaEngine
  /-- The hash that names the state directory of a canonical path. -/
  configHash : String → String
  /-- `KeplerConfig::load` on the contents of a file. -/
  loadConfig : String → Bindings → Except DaemonError KeplerConfig
  /-- `LuaEvaluator::new`. -/
  luaEvaluator : Except String Unit
  /-- Running the `lua` block of a config. -/
  loadInline : KeplerConfig → Except String Unit
  /-- `compute_kepler_env`. -/
  computeKeplerEnv : KeplerConfig → Bindings → Except DaemonError Bindings
  write : StateFile → Except String Unit
  remove : StateFile → Except String Unit
  keplerGid : UInt32

def attempt {State : Type} (outcome : Except String Unit) (change : State → State)
    (state : State) : State :=
  match outcome with
  | .ok () => change state
  | .error _ => state

/-- `canonicalize_config_path`, which the registry and the actor repeat. -/
def World.canonicalizeConfigPath (world : World) (path : String) : Except DaemonError String :=
  match world.tree.canonicalize path with
  | .ok canonical => .ok canonical
  | .error .notFound => .error (.configNotFound path)
  | .error e => .error (.internal ("Failed to canonicalize '" ++ path ++ "': " ++ e.text))

/-! ### The state directory -/

/-- `ExpandedConfigSnapshot`. It is written and read as YAML, which keeps the fields of
`KeplerConfig`. Environment entries, which are no such field, may change: a key with an expression
in a map is read again as an expression. -/
structure Snapshot where
  config : KeplerConfig
  keplerEnv : Bindings
  keplerFlags : Bindings
  ownerUid : Option UInt32
  ownerGid : Option UInt32
  hardening : Option String
  permissionCeiling : Option (List String)

structure PersistedConfigState where
  ownerUid : Option UInt32
  deriving DecidableEq, Repr

/-- The files of a state directory. A snapshot that cannot be read is kept as its error. A state
file that cannot be parsed is set aside, so it counts as missing. -/
structure StateDir where
  sourcePath : Option String := none
  state : Option PersistedConfigState := none
  configYaml : Option String := none
  expandedConfig : Option (Except DaemonError Snapshot) := none
  envFiles : Bool := false

namespace StateDir

/-- `load_expanded_config`, with a failure read as no snapshot. -/
def loadExpandedConfig (dir : StateDir) : Option Snapshot :=
  match dir.expandedConfig with
  | some (.ok snapshot) => some snapshot
  | some (.error _) | none => none

def ownerUid (dir : StateDir) : Option UInt32 := dir.state.bind PersistedConfigState.ownerUid

def removeFile (world : World) (file : StateFile) (present : Bool) (name : String) :
    Except DaemonError Unit :=
  if present then
    (world.remove file).mapError fun e => .internal ("Failed to remove '" ++ name ++ "': " ++ e)
  else .ok ()

/-- The rest of `clear_snapshot`: the state file and the environment files. -/
def clearFiles (world : World) (dir : StateDir) : Except DaemonError Unit × StateDir :=
  match removeFile world .stateJson dir.state.isSome "state.json" with
  | .error e => (.error e, dir)
  | .ok () =>
    let withoutState := { dir with state := none }
    match removeFile world .envFiles dir.envFiles "env_files" with
    | .error e => (.error e, withoutState)
    | .ok () => (.ok (), { withoutState with envFiles := false })

/-- `clear_snapshot`: snapshot, state and environment files, up to the first failure. -/
def clearSnapshot (world : World) (dir : StateDir) : Except DaemonError Unit × StateDir :=
  match removeFile world .expandedConfig dir.expandedConfig.isSome "expanded_config.yaml" with
  | .error e => (.error e, dir)
  | .ok () => clearFiles world { dir with expandedConfig := none }

theorem expandedConfig_clearFiles (world : World) (dir : StateDir) :
    (dir.clearFiles world).2.expandedConfig = dir.expandedConfig := by
  unfold clearFiles
  split
  · rfl
  · split <;> rfl

theorem expandedConfig_clearSnapshot (world : World) (dir : StateDir) :
    (dir.clearSnapshot world).2.expandedConfig =
      if (world.remove .expandedConfig).isOk then none else dir.expandedConfig := by
  unfold clearSnapshot
  cases removal : removeFile world .expandedConfig dir.expandedConfig.isSome
      "expanded_config.yaml" with
  | error e =>
    unfold removeFile at removal
    split_ifs at removal with present
    cases outcome : world.remove .expandedConfig with
    | error e => simp [Except.isOk, Except.toBool]
    | ok done =>
      rw [outcome] at removal
      exact absurd (show Except.ok done = Except.error e from removal) (by simp)
  | ok done =>
    rw [expandedConfig_clearFiles]
    split_ifs with outcome
    · rfl
    · -- nothing was there to remove
      unfold removeFile at removal
      cases held : dir.expandedConfig with
      | none => rfl
      | some =>
        cases failed : world.remove .expandedConfig with
        | ok done => simp [failed, Except.isOk, Except.toBool] at outcome
        | error e => simp [held, failed] at removal

end StateDir

/-! ### The actor -/

/-- `ConfigActorHandle`: what every holder sees without asking the actor. Nothing in it changes
while the config is loaded. -/
structure ConfigActorHandle where
  configPath : String
  configHash : String
  ownerUid : Option UInt32
  ownerGid : Option UInt32
  hardening : Option HardeningLevel
  acl : ResolvedAcl.Ready
  permissionCeiling : Option (Finset Right)

/-- `ConfigActor`, with the handle that was given out for it. -/
structure ConfigActor where
  handle : ConfigActorHandle
  config : KeplerConfig
  keplerEnv : Bindings
  keplerFlags : Bindings
  resolvedConfigs : HashMap String ServiceConfig
  snapshotTaken : Bool
  suppressSnapshot : Bool

/-- What `create` settles before it resolves the ACL section. -/
structure BakedConfig where
  config : KeplerConfig
  keplerEnv : Bindings
  keplerFlags : Bindings
  ownerUid : Option UInt32
  ownerGid : Option UInt32
  hardening : Option HardeningLevel
  permissionCeiling : Option (Finset Right)
  snapshotTaken : Bool

/-- The terms on which a caller loads a config: its owner, its level and the ceiling of rights. -/
structure LoadTerms where
  owner : Option (UInt32 × UInt32) := none
  hardening : Option HardeningLevel := none
  permissionCeiling : Option (Finset Right) := none
  deriving DecidableEq

def ceilingTexts (ceiling : Finset Right) : List String :=
  ((Right.baseRights ++ Right.subRights).filter fun right => right ∈ ceiling).map Right.text

/-- The ceiling as it is read from a snapshot. Unknown texts are dropped. -/
def ceilingOfTexts (texts : List String) : Finset Right := (texts.filterMap internRight).toFinset

namespace ConfigActor

def restoreSnapshot (world : World) (snapshot : Snapshot) : Except DaemonError BakedConfig :=
  match world.luaEvaluator with
  | .error e => .error (.internal s!"Failed to create Lua evaluator: {e}")
  | .ok () => .ok {
      config := snapshot.config
      keplerEnv := snapshot.keplerEnv
      keplerFlags := snapshot.keplerFlags
      ownerUid := snapshot.ownerUid
      ownerGid := snapshot.ownerGid
      hardening := snapshot.hardening.bind fun text => (HardeningLevel.fromStr text).toOption
      permissionCeiling := snapshot.permissionCeiling.map ceilingOfTexts
      snapshotTaken := true }

/-- The environment of the caller without the daemon's own variables. -/
def cliEnv (sysEnv : Option Bindings) : Bindings :=
  (sysEnv.getD ∅).erase "KEPLER_TOKEN" |>.erase "KEPLER_SOCKET_PATH"

/-- The branch of `create` that reads the config file, from the copied contents on. -/
def bakeFresh (world : World) (canonical contents : String) (sysEnv : Option Bindings)
    (terms : LoadTerms) : Except DaemonError BakedConfig := do
  let config ← world.loadConfig contents (cliEnv sysEnv)
  world.luaEvaluator.mapError fun e => .internal s!"Failed to create Lua evaluator: {e}"
  (world.loadInline config).mapError fun e =>
    .luaError canonical ("Error in lua: block: " ++ e)
  let keplerEnv ← world.computeKeplerEnv config (cliEnv sysEnv)
  return {
    config := match terms.owner with
      | some (uid, gid) => config.resolveDefaultUser uid gid
      | none => config
    keplerEnv
    keplerFlags := ∅
    ownerUid := terms.owner.map Prod.fst
    ownerGid := terms.owner.map Prod.snd
    hardening := terms.hardening
    permissionCeiling := terms.permissionCeiling
    snapshotTaken := false }

/-- The branch of `create` that reads the config file and leaves a copy. -/
def loadFresh (world : World) (canonical : String) (sysEnv : Option Bindings)
    (terms : LoadTerms) (dir : StateDir) : Except DaemonError BakedConfig × StateDir :=
  match world.tree.read canonical with
  | .error e =>
    (.error (.internal ("Failed to read '" ++ canonical ++ "': " ++ e.text)), dir)
  | .ok contents =>
    match world.write .configYaml with
    | .error e => (.error (.configCopy e), dir)
    | .ok () =>
      let copied := { dir with configYaml := some contents }
      match bakeFresh world canonical contents sysEnv terms with
      | .error e => (.error e, copied)
      | .ok baked =>
        (.ok baked, if baked.config.globalAutostart then
          attempt (world.write .envFiles) (fun dir => { dir with envFiles := true }) copied
        else copied)

/-- The end of `create`: the ACL section is resolved and its authorizers are compiled on a new
machine, which is made even without a section. -/
def finish (world : World) (machine : Nat) (canonical : String) (baked : BakedConfig) :
    Except DaemonError ConfigActor := do
  let resolved ← (match baked.config.acl with
    | some aclConfig => ResolvedAcl.fromConfig world.accounts aclConfig
    | none => .ok .empty).mapError fun e => DaemonError.config s!"ACL resolution failed: {e}"
  let acl ← (resolved.prepare world.engine machine).mapError fun e =>
    DaemonError.config s!"ACL initialization failed: {e}"
  return {
    handle := {
      configPath := canonical
      configHash := world.configHash canonical
      ownerUid := baked.ownerUid
      ownerGid := baked.ownerGid
      hardening := baked.hardening
      acl
      permissionCeiling := baked.permissionCeiling }
    config := baked.config
    keplerEnv := baked.keplerEnv
    keplerFlags := baked.keplerFlags
    resolvedConfigs := ∅
    snapshotTaken := baked.snapshotTaken
    suppressSnapshot := false }

theorem finish_eq_ok {world : World} {machine : Nat} {canonical : String} {baked : BakedConfig}
    {actor : ConfigActor} (success : finish world machine canonical baked = .ok actor) :
    actor.config = baked.config ∧ actor.handle.configPath = canonical ∧
      actor.handle.ownerUid = baked.ownerUid ∧ actor.handle.hardening = baked.hardening ∧
      actor.handle.permissionCeiling = baked.permissionCeiling ∧ actor.resolvedConfigs = ∅ := by
  obtain ⟨resolved, _, success⟩ := Result.bind_eq_ok.mp success
  obtain ⟨acl, _, success⟩ := Result.bind_eq_ok.mp success
  cases success
  exact ⟨rfl, rfl, rfl, rfl, rfl, rfl⟩

/-- What `create` writes before it looks for a snapshot. -/
def prepareDir (world : World) (canonical : String) (terms : LoadTerms) (dir : StateDir) :
    StateDir :=
  let withPath := attempt (world.write .sourcePath)
    (fun dir => { dir with sourcePath := some canonical }) dir
  match terms.owner with
  | some (uid, _) => attempt (world.write .stateJson)
      (fun dir => { dir with state := some { ownerUid := some uid } }) withPath
  | none => withPath

/-- `ConfigActor::create` for a canonical path. The state directory is returned also when the config
cannot be loaded. -/
def create (world : World) (machine : Nat) (canonical : String) (sysEnv : Option Bindings)
    (terms : LoadTerms) (existing : Option StateDir) :
    Except DaemonError ConfigActor × Option StateDir :=
  match world.write .directory with
  | .error e => (.error (.configCopy e), existing)
  | .ok () =>
    let dir := prepareDir world canonical terms (existing.getD {})
    let (baked, left) := match dir.loadExpandedConfig with
      | some snapshot => (restoreSnapshot world snapshot, dir)
      | none => loadFresh world canonical sysEnv terms dir
    (baked.bind (finish world machine canonical), some left)

theorem create_eq_ok {world : World} {machine : Nat} {canonical : String}
    {sysEnv : Option Bindings} {terms : LoadTerms} {existing : Option StateDir}
    {actor : ConfigActor}
    (success : (create world machine canonical sysEnv terms existing).1 = .ok actor) :
    ∃ baked, finish world machine canonical baked = .ok actor ∧
      match (prepareDir world canonical terms (existing.getD {})).loadExpandedConfig with
      | some snapshot => restoreSnapshot world snapshot = .ok baked
      | none => (loadFresh world canonical sysEnv terms
          (prepareDir world canonical terms (existing.getD {}))).1 = .ok baked := by
  unfold create at success
  cases made : world.write .directory with
  | error e => simp [made] at success
  | ok done => ?_
  simp only [made] at success
  obtain ⟨baked, settled, finished⟩ := Result.exceptBind_eq_ok.mp success
  refine ⟨baked, finished, ?_⟩
  cases snapshot : (prepareDir world canonical terms (existing.getD {})).loadExpandedConfig with
  | some found =>
    rw [snapshot] at settled
    exact settled
  | none =>
    rw [snapshot] at settled
    exact settled

/-! ### Commands of the actor -/

def snapshot (actor : ConfigActor) : Snapshot where
  config := actor.config
  keplerEnv := actor.keplerEnv
  keplerFlags := actor.keplerFlags
  ownerUid := actor.handle.ownerUid
  ownerGid := actor.handle.ownerGid
  hardening := actor.handle.hardening.map HardeningLevel.text
  permissionCeiling := actor.handle.permissionCeiling.map ceilingTexts

def saveState (world : World) (actor : ConfigActor) (dir : StateDir) : StateDir :=
  attempt (world.write .stateJson)
    (fun dir => { dir with state := some { ownerUid := actor.handle.ownerUid } }) dir

/-- `take_snapshot_if_needed`. Its callers only log a failure. -/
def takeSnapshotIfNeeded (world : World) (actor : ConfigActor) (dir : StateDir) :
    ConfigActor × StateDir :=
  if actor.snapshotTaken then (actor, dir)
  else if actor.suppressSnapshot then ({ actor with suppressSnapshot := false }, dir)
  else if !actor.config.globalAutostart then (actor, dir)
  else match world.write .envFiles with
    | .error _ => (actor, dir)
    | .ok () =>
      let withFiles := { dir with envFiles := true }
      match world.write .expandedConfig with
      | .error _ => (actor, withFiles)
      | .ok () => ({ actor with snapshotTaken := true }, saveState world actor
          { withFiles with expandedConfig := some (.ok actor.snapshot) })

theorem takeSnapshotIfNeeded_actor (world : World) (actor : ConfigActor) (dir : StateDir) :
    ∃ taken suppress, (takeSnapshotIfNeeded world actor dir).1 =
      { actor with snapshotTaken := taken, suppressSnapshot := suppress } := by
  unfold takeSnapshotIfNeeded
  by_cases taken : actor.snapshotTaken
  · exact ⟨_, _, by rw [if_pos taken]⟩
  rw [if_neg taken]
  by_cases suppress : actor.suppressSnapshot
  · exact ⟨_, _, by rw [if_pos suppress]⟩
  rw [if_neg suppress]
  by_cases manual : !actor.config.globalAutostart
  · exact ⟨_, _, by rw [if_pos manual]⟩
  rw [if_neg manual]
  cases world.write .envFiles with
  | error e => exact ⟨_, _, rfl⟩
  | ok done =>
    cases world.write .expandedConfig with
    | error e => exact ⟨_, _, rfl⟩
    | ok done => exact ⟨true, actor.suppressSnapshot, rfl⟩

/-- The rest of `MergeKeplerEnv` and `MergeKeplerFlags`: the snapshot is written and the services
have to be resolved again. -/
def refresh (world : World) (actor : ConfigActor) (dir : StateDir) : ConfigActor × StateDir :=
  ({ actor with resolvedConfigs := ∅ },
    if actor.snapshotTaken && actor.config.globalAutostart then
      attempt (world.write .expandedConfig)
        (fun dir => { dir with expandedConfig := some (.ok actor.snapshot) }) dir
    else dir)

def mergeKeplerEnv (world : World) (overrides : Bindings) (actor : ConfigActor) (dir : StateDir) :
    ConfigActor × StateDir :=
  refresh world { actor with keplerEnv := overrides ∪ actor.keplerEnv } dir

def mergeKeplerFlags (world : World) (flags : Bindings) (actor : ConfigActor) (dir : StateDir) :
    ConfigActor × StateDir :=
  refresh world { actor with keplerFlags := flags ∪ actor.keplerFlags } dir

def storeResolvedConfig (service : String) (resolved : ServiceConfig) (actor : ConfigActor) :
    ConfigActor :=
  { actor with resolvedConfigs := actor.resolvedConfigs.insert service resolved }

/-- `ClearSnapshot`: the actor forgets its snapshot only when all files are gone. -/
def clearSnapshot (world : World) (actor : ConfigActor) (dir : StateDir) :
    ConfigActor × StateDir :=
  match dir.clearSnapshot world with
  | (.ok (), cleared) => ({ actor with snapshotTaken := false, resolvedConfigs := ∅ }, cleared)
  | (.error _, left) => (actor, left)

def setSuppressSnapshot (actor : ConfigActor) : ConfigActor :=
  { actor with suppressSnapshot := true }

/-- `Shutdown`: the state is saved unless the state directory is to be removed. -/
def shutdown (world : World) (clean : Bool) (actor : ConfigActor) (dir : StateDir) : StateDir :=
  if clean then dir else saveState world actor dir

end ConfigActor

end Kepler
