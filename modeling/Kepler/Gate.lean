/-
This file models the authorization gates of `handle_request` in `main.rs`: authentication, the
hardening floor of a token, the filesystem check, and the check of a request against the rights and
authorizers of the config it names.

A loaded config brings its own ACL section. A config that is not loaded but has a state directory is
checked against the section in the copied config file, if there is one. For a config that has never
been seen nothing is checked.
-/

import Kepler.ConfigAccess
import Kepler.Registry

namespace Kepler

/-! ### Running the authorizers of a section -/

def AuthContext.isToken : AuthContext → Bool
  | .token _ _ _ => true
  | .root _ _ | .group _ _ => false

def AuthContext.tokenAuthorizer : AuthContext → Option RegistryKey
  | .token _ _ context => context.authorizer
  | .root _ _ | .group _ _ => none

def resolveUsername (accounts : Accounts) (uid : UInt32) : Option String :=
  (foundEntry (accounts.userFromUid uid)).map Account.name

/-- What `run_authorizers` hands to the authorizers of a section, if it asks them. -/
def authorizerContext (accounts : Accounts) (acl : ResolvedAcl) (auth : AuthContext)
    (request : Request) : Option AuthorizerContext :=
  if !acl.hasAuthorizers && auth.tokenAuthorizer.isNone then none
  else match auth with
    | .root _ _ => none
    | .group uid gid | .token uid gid _ =>
      buildAuthorizerContext request uid gid (resolveUsername accounts uid)
        (callerGids accounts uid gid) auth.isToken

/-- `run_authorizers`, with the calls it made. -/
def runAuthorizers (accounts : Accounts) (engine : LuaEngine) (acl : ResolvedAcl)
    (auth : AuthContext) (request : Request) : Except String Unit × List LuaCall :=
  match authorizerContext accounts acl auth request with
  | none => (.ok (), [])
  | some context =>
    let (verdict, calls) := acl.checkAuthorizers accounts engine auth.uid auth.gid
      auth.tokenAuthorizer context
    (verdict.mapError fun _ => "permission denied", calls)

/-! ### The gate of a config -/

/-- The owner and the ACL section that a request is checked against. -/
structure AclSubject where
  ownerUid : Option UInt32
  acl : Option ResolvedAcl

/-- The static check: the rights of the caller on the config contain those that the request needs.
-/
def checkStaticRights (accounts : Accounts) (subject : AclSubject) (auth : AuthContext)
    (request : Request) : Except String Unit :=
  match effectiveRights accounts auth subject.ownerUid subject.acl with
  | .error _ | .ok none => .error "permission denied"
  | .ok (some effective) =>
    (checkRights effective request).mapError fun e => s!"permission denied: {e}"

/-- `check_config_acl` and `check_unloaded_config_acl`: the static check, then the authorizers of a
section. -/
def checkAcl (world : World) (subject : AclSubject) (auth : AuthContext) (request : Request) :
    Except String Unit × List LuaCall :=
  match checkStaticRights world.accounts subject auth request with
  | .error e => (.error e, [])
  | .ok () =>
    match subject.acl with
    | none => (.ok (), [])
    | some acl => runAuthorizers world.accounts world.engine acl auth request

/-- What `get_unloaded_acl_entry` reads. A copy that does not parse counts as one without a section.
-/
def readUnloadedAclEntry (world : World) (machine : Nat) (dir : StateDir) :
    Except String UnloadedAclEntry :=
  match dir.configYaml.map fun contents => world.loadConfig contents ∅ with
  | none | some (.error _) => .ok { ownerUid := dir.ownerUid, acl := none }
  | some (.ok config) =>
    match config.acl with
    | none => .ok { ownerUid := dir.ownerUid, acl := none }
    | some aclConfig => do
      let resolved ← ResolvedAcl.fromConfig world.accounts aclConfig
      let acl ← resolved.prepare world.engine machine
      return { ownerUid := dir.ownerUid, acl := some acl }

namespace Daemon

/-- `get_unloaded_acl_entry`: the cached entry, or what is on disk. -/
def unloadedAclEntry (daemon : Daemon) (world : World) (canonical : String) (dir : StateDir) :
    Except String UnloadedAclEntry :=
  match daemon.unloadedAclCache.lookup (world.configHash canonical) with
  | some entry => .ok entry
  | none => readUnloadedAclEntry world daemon.nextMachine dir

/-- `get_unloaded_acl_entry`, with the cache it leaves. -/
def getUnloadedAclEntry (daemon : Daemon) (world : World) (canonical : String)
    (dir : StateDir) : Except String UnloadedAclEntry × Daemon :=
  match daemon.unloadedAclEntry world canonical dir with
  | .error e => (.error e, { daemon with nextMachine := daemon.nextMachine + 1 })
  | .ok entry => (.ok entry, { daemon with
      unloadedAclCache := daemon.unloadedAclCache.insert (world.configHash canonical) entry
      nextMachine := daemon.nextMachine + 1 })

def loadedSubject (daemon : Daemon) (actor : ConfigActor) : AclSubject where
  ownerUid := actor.handle.ownerUid
  acl := some (daemon.currentAcl actor.handle.acl)

def unloadedSubject (daemon : Daemon) (entry : UnloadedAclEntry) : AclSubject where
  ownerUid := entry.ownerUid
  acl := entry.acl.map daemon.currentAcl

def checkConfigAcl (daemon : Daemon) (world : World) (auth : AuthContext) (actor : ConfigActor)
    (request : Request) : Except String Unit × List LuaCall :=
  checkAcl world (daemon.loadedSubject actor) auth request

def checkUnloadedConfigAcl (daemon : Daemon) (world : World) (auth : AuthContext)
    (canonical : String) (dir : StateDir) (request : Request) :
    Except String Unit × List LuaCall :=
  match daemon.unloadedAclEntry world canonical dir with
  | .error e => (.error e, [])
  | .ok entry => checkAcl world (daemon.unloadedSubject entry) auth request

/-- What the gates have decided, the calls they made and the daemon they leave. -/
structure Verdict (Result : Type) where
  outcome : Except Response Result
  calls : List LuaCall
  daemon : Daemon

def aclGate (daemon : Daemon) (world : World) (auth : AuthContext) (request : Request) :
    Verdict Unit :=
  match request.extractConfigPath with
  | none => ⟨.ok (), [], daemon⟩
  | some rawPath =>
    match world.tree.canonicalize rawPath with
    | .error _ =>
      ⟨.error (.error s!"Config path not found or inaccessible: '{rawPath}'"), [], daemon⟩
    | .ok canonical =>
      match daemon.get world canonical, daemon.stateDir world canonical with
      | some actor, _ =>
        let (verdict, calls) := daemon.checkConfigAcl world auth actor request
        ⟨verdict.mapError .permissionDenied, calls, daemon⟩
      | none, some dir =>
        let (verdict, calls) := daemon.checkUnloadedConfigAcl world auth canonical dir request
        ⟨verdict.mapError .permissionDenied, calls,
          (daemon.getUnloadedAclEntry world canonical dir).2⟩
      | none, none => ⟨.ok (), [], daemon⟩

/-- The hardening gate of `handle_request`: the level that a token asks for is checked and written
back. -/
def hardeningGate (auth : AuthContext) (request : Request) : Except Response Request :=
  match auth with
  | .root _ _ | .group _ _ => .ok request
  | .token _ _ context =>
    match checkHardeningFloor context request.requestedHardening with
    | .error e => .error (.permissionDenied e)
    | .ok none => .ok request
    | .ok (some level) => .ok (request.withHardening level.text)

/-- The gates of `handle_request`, up to the caller and the rewritten request. -/
def authorize (daemon : Daemon) (world : World) (peer : Peer) (request : Request) :
    Verdict (AuthContext × Request) :=
  match resolveAuth world.accounts peer world.keplerGid daemon.tokens with
  | .error e => ⟨.error (.error s!"Authentication failed: {e}"), [], daemon⟩
  | .ok auth =>
    match hardeningGate auth request with
    | .error refusal => ⟨.error refusal, [], daemon⟩
    | .ok rewritten =>
      match filesystemGate world.accounts world.tree auth rewritten with
      | .error refusal => ⟨.error refusal, [], daemon⟩
      | .ok () =>
        let gate := daemon.aclGate world auth rewritten
        ⟨gate.outcome.map fun _ => (auth, rewritten), gate.calls, gate.daemon⟩

/-! ### What the gates establish -/

def Verdict.Executes {Result : Type} (verdict : Verdict Result) : Prop :=
  ∃ result, verdict.outcome = .ok result

instance {Result : Type} (verdict : Verdict Result) : Decidable verdict.Executes :=
  match outcome : verdict.outcome with
  | .ok result => .isTrue ⟨result, outcome⟩
  | .error refusal => .isFalse fun ⟨result, success⟩ => by
      rw [outcome] at success
      cases success

def Known (daemon : Daemon) (world : World) (canonical : String) : Prop :=
  (daemon.get world canonical).isSome ∨ (daemon.stateDir world canonical).isSome

instance (daemon : Daemon) (world : World) (canonical : String) :
    Decidable (daemon.Known world canonical) :=
  inferInstanceAs (Decidable (_ ∨ _))

def aclSubject (daemon : Daemon) (world : World) (canonical : String) :
    Except String (Option AclSubject) :=
  match daemon.get world canonical, daemon.stateDir world canonical with
  | some actor, _ => .ok (some (daemon.loadedSubject actor))
  | none, some dir => (daemon.unloadedAclEntry world canonical dir).map fun entry =>
      some (daemon.unloadedSubject entry)
  | none, none => .ok none

/-- What passes the gates before the ACL gate: the rewritten request and the canonical path of its
config. -/
structure PassesEarlierGates (world : World) (auth : AuthContext) (request rewritten : Request)
    (canonical : String) : Prop where
  hardening : hardeningGate auth request = .ok rewritten
  filesystem : filesystemGate world.accounts world.tree auth rewritten = .ok ()
  resolves : ∃ rawPath, rewritten.extractConfigPath = some rawPath ∧
    world.tree.canonicalize rawPath = .ok canonical

theorem not_known_iff (daemon : Daemon) (world : World) (canonical : String) :
    ¬ daemon.Known world canonical ↔ daemon.aclSubject world canonical = .ok none := by
  unfold Known aclSubject
  cases daemon.get world canonical with
  | some actor => simp
  | none =>
    cases daemon.stateDir world canonical with
    | none => simp
    | some dir =>
      cases found : daemon.unloadedAclEntry world canonical dir <;> simp [found, Except.map]

variable {world : World}

theorem aclGate_eq (daemon : Daemon) (auth : AuthContext) {request : Request}
    {rawPath canonical : String} (spelled : request.extractConfigPath = some rawPath)
    (resolved : world.tree.canonicalize rawPath = .ok canonical) :
    ((daemon.aclGate world auth request).outcome, (daemon.aclGate world auth request).calls) =
      match daemon.aclSubject world canonical with
      | .error e => (.error (.permissionDenied e), [])
      | .ok none => (.ok (), [])
      | .ok (some subject) =>
        ((checkAcl world subject auth request).1.mapError .permissionDenied,
          (checkAcl world subject auth request).2) := by
  unfold aclGate aclSubject
  rw [spelled]
  simp only [resolved]
  cases daemon.get world canonical with
  | some actor => rfl
  | none => ?_
  cases daemon.stateDir world canonical with
  | none => rfl
  | some dir => ?_
  unfold checkUnloadedConfigAcl
  dsimp only
  cases daemon.unloadedAclEntry world canonical dir with
  | error e => rfl
  | ok entry => rfl

variable {auth : AuthContext} {daemon : Daemon}

theorem resolves_of_aclGate {request : Request} {rawPath : String}
    (spelled : request.extractConfigPath = some rawPath)
    (passed : (daemon.aclGate world auth request).outcome = .ok ()) :
    ∃ canonical, world.tree.canonicalize rawPath = .ok canonical := by
  unfold aclGate at passed
  rw [spelled] at passed
  cases resolved : world.tree.canonicalize rawPath with
  | error e => simp [resolved] at passed
  | ok canonical => exact ⟨canonical, rfl⟩

variable {request rewritten : Request}

/-- A request is carried out exactly when every gate lets it pass. -/
theorem authorize_eq_ok {peer : Peer} :
    (daemon.authorize world peer request).outcome = .ok (auth, rewritten) ↔
      resolveAuth world.accounts peer world.keplerGid daemon.tokens = .ok auth ∧
        hardeningGate auth request = .ok rewritten ∧
        filesystemGate world.accounts world.tree auth rewritten = .ok () ∧
        (daemon.aclGate world auth rewritten).outcome = .ok () := by
  unfold authorize
  cases resolveAuth world.accounts peer world.keplerGid daemon.tokens with
  | error e => simp
  | ok caller => ?_
  dsimp only
  cases gate : hardeningGate caller request with
  | error =>
    simp only [Except.ok.injEq, reduceCtorEq, false_iff, not_and]
    rintro rfl impossible
    exact absurd (gate.symm.trans impossible) (by simp)
  | ok kept =>
    dsimp only
    cases files : filesystemGate world.accounts world.tree caller kept with
    | error =>
      simp only [Except.ok.injEq, reduceCtorEq, false_iff, not_and]
      rintro rfl same
      cases gate.symm.trans same
      simp [files]
    | ok done =>
      simp only [Result.map_eq_ok, Prod.mk.injEq, Except.ok.injEq]
      constructor
      · rintro ⟨passed, outcome, rfl, rfl⟩
        exact ⟨rfl, gate, files, outcome⟩
      · rintro ⟨rfl, same, _, outcome⟩
        cases gate.symm.trans same
        exact ⟨(), outcome, rfl, rfl⟩

theorem calls_of_authorize {peer : Peer}
    (executed : (daemon.authorize world peer request).outcome = .ok (auth, rewritten)) :
    (daemon.authorize world peer request).calls =
      (daemon.aclGate world auth rewritten).calls := by
  obtain ⟨resolved, hardening, files, _⟩ := authorize_eq_ok.mp executed
  simp only [authorize, resolved, hardening, files]

end Daemon

end Kepler
