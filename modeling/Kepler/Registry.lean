/-
This file models the state of the daemon: the registry of loaded configs
(`config_registry.rs`), the state directories on disk, the tokens of running services, and
the cache of ACL sections of configs that are not loaded.

A config is loaded at most once. Asking for it again returns the actor that is there, with
the terms on which it was loaded first.
-/

import Kepler.ConfigActor

namespace Kepler

/-- `UnloadedAclEntry`: the owner and the ACL section of a config that is not loaded. -/
structure UnloadedAclEntry where
  ownerUid : Option UInt32
  acl : Option ResolvedAcl.Ready

/-- The state of the daemon. State directories and cached sections are kept by the hash of their
config. A Lua machine is shared by all copies of its section, so the authorizers of tokens, which it
compiles later, are kept here by machine. -/
structure Daemon where
  registry : HashMap String ConfigActor
  stateDirs : HashMap String StateDir
  unloadedAclCache : HashMap String UnloadedAclEntry
  tokens : TokenStore
  tokenAuthorizers : HashMap Nat (List String)
  nextMachine : Nat

namespace Daemon

def initial : Daemon where
  registry := ∅
  stateDirs := ∅
  unloadedAclCache := ∅
  tokens := []
  tokenAuthorizers := ∅
  nextMachine := 0

/-- A section with what its machine has compiled up to now. -/
def currentAcl (daemon : Daemon) (acl : ResolvedAcl.Ready) : ResolvedAcl :=
  acl.1.withCompiled (match acl.1.luaHandle with
    | some vm => (daemon.tokenAuthorizers.lookup vm.machine).getD []
    | none => [])

/-- `compute_state_dir`: the state directory of a canonical path, if it exists. -/
def stateDir (daemon : Daemon) (world : World) (canonical : String) : Option StateDir :=
  daemon.stateDirs.lookup (world.configHash canonical)

def get (daemon : Daemon) (world : World) (configPath : String) : Option ConfigActor :=
  match world.tree.canonicalize configPath with
  | .ok canonical => daemon.registry.lookup canonical
  | .error _ => none

def setStateDir (daemon : Daemon) (world : World) (canonical : String) (dir : Option StateDir) :
    Daemon :=
  { daemon with
    stateDirs := match dir with
      | some dir => daemon.stateDirs.insert (world.configHash canonical) dir
      | none => daemon.stateDirs.erase (world.configHash canonical) }

/-- `ConfigRegistry::get_or_create`: an actor that is there is returned as it is. -/
def getOrCreate (daemon : Daemon) (world : World) (configPath : String)
    (sysEnv : Option Bindings) (terms : LoadTerms) : Except DaemonError ConfigActor × Daemon :=
  match world.canonicalizeConfigPath configPath with
  | .error e => (.error e, daemon)
  | .ok canonical =>
    match daemon.registry.lookup canonical with
    | some actor => (.ok actor, daemon)
    | none =>
      let (created, dir) := ConfigActor.create world daemon.nextMachine canonical sysEnv terms
        (daemon.stateDir world canonical)
      let after := { daemon.setStateDir world canonical dir with
        nextMachine := daemon.nextMachine + 1 }
      match created with
      | .error e => (.error e, after)
      | .ok actor =>
        (.ok actor, { after with registry := after.registry.insert canonical actor })

/-- A command to a loaded actor that may write to its state directory, unless that is gone. -/
def command (daemon : Daemon) (world : World) (canonical : String)
    (run : ConfigActor → StateDir → ConfigActor × StateDir) : Daemon :=
  match daemon.registry.lookup canonical with
  | none => daemon
  | some actor =>
    let dir := daemon.stateDir world canonical
    let (after, left) := run actor (dir.getD {})
    { daemon.setStateDir world canonical (dir.map fun _ => left) with
      registry := daemon.registry.insert canonical after }

def unload (daemon : Daemon) (world : World) (configPath : String) (clean : Bool) : Daemon :=
  match world.tree.canonicalize configPath with
  | .error _ => daemon
  | .ok canonical =>
    match daemon.registry.lookup canonical with
    | none => daemon
    | some actor =>
      let dir := (daemon.stateDir world canonical).map (actor.shutdown world clean)
      { daemon.setStateDir world canonical dir with
        registry := daemon.registry.erase canonical }

end Daemon

/-! ### A small machine -/

/-- A world in which every config file has the given contents and no operation fails. -/
def quietWorld (tree : FileTree String) (engine : LuaEngine) (config : KeplerConfig) : World where
  accounts := .fromFiles [] [] 65536
  tree := tree
  engine := engine
  configHash canonical := canonical
  loadConfig _ _ := .ok config
  luaEvaluator := .ok ()
  loadInline _ := .ok ()
  computeKeplerEnv _ env := .ok env
  write _ := .ok ()
  remove _ := .ok ()
  keplerGid := 900

def refusingEngine : LuaEngine where
  create := .ok ()
  exec _ := .ok ()
  compile _ _ := .ok ()
  call _ _ _ _ _ := .ok (.boolean false)

/-- A tree with one config file that everybody can read. -/
def singleConfigTree : FileTree String :=
  .fromEntries [
    ([], .directory { mode := 0o755, uid := 0, gid := 0 }),
    (["srv"], .directory { mode := 0o755, uid := 0, gid := 0 }),
    (["srv", "app.yaml"], .file { mode := 0o644, uid := 0, gid := 0 } "services:")]

end Kepler
