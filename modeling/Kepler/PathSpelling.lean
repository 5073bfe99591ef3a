/-
This file compares two requests that differ only in how they spell the path of one config.

The registry and the state directories are looked up by the canonical path, but the `request` table
that the authorizers receive carries the path as it was typed. The main result says that the tables
agree only when the spelling does, or when no authorizer is called.
-/

import Kepler.Authorization

namespace Kepler

open Daemon Option

/-! ### When an authorizer is called -/

def LuaCall.tables (call : LuaCall) : RequestTable × CallerTable := (call.request, call.caller)

/-- The authorizer that is called first: that of the token, of the user, or of a group. -/
def firstAuthorizer (accounts : Accounts) (acl : ResolvedAcl) (auth : AuthContext) :
    Option String := do
  let vm ← acl.luaHandle
  let keys ← (acl.collectAuthorizerKeys accounts auth.uid auth.gid).toOption
  let key ← (auth.tokenAuthorizer.toList ++ keys).head?
  (vm.registryValue key).toOption

/-- The static check passes, there are authorizers which are asked about the request, and one of
them is the caller's. -/
def asksAuthorizer (accounts : Accounts) (subject : AclSubject) (auth : AuthContext)
    (request : Request) : Bool :=
  match checkStaticRights accounts subject auth request, subject.acl with
  | .ok (), some acl => (authorizerContext accounts acl auth request).isSome &&
      (firstAuthorizer accounts acl auth).isSome
  | .ok (), none | .error _, _ => false

/-- An authorizer is called for a request on the config at a canonical path. -/
def Daemon.asksAuthorizer (daemon : Daemon) (world : World) (canonical : String)
    (auth : AuthContext) (request : Request) : Bool :=
  match daemon.aclSubject world canonical with
  | .ok (some subject) => Kepler.asksAuthorizer world.accounts subject auth request
  | .ok none | .error _ => false

variable {accounts : Accounts} {acl : ResolvedAcl} {auth : AuthContext} {subject : AclSubject}

theorem checkAuthorizers_of_none (quiet : firstAuthorizer accounts acl auth = none)
    (engine : LuaEngine) : ∃ verdict, ∀ context, acl.checkAuthorizers accounts engine auth.uid
      auth.gid auth.tokenAuthorizer context = (verdict, []) := by
  unfold firstAuthorizer at quiet
  unfold ResolvedAcl.checkAuthorizers LuaVm.evaluateAuthorizers
  cases handle : acl.luaHandle with
  | none => exact ⟨_, fun _ => rfl⟩
  | some vm => ?_
  cases collected : acl.collectAuthorizerKeys accounts auth.uid auth.gid with
  | error e => exact ⟨_, fun _ => rfl⟩
  | ok keys => ?_
  rw [handle, collected] at quiet
  dsimp only
  cases asked : auth.tokenAuthorizer.toList ++ keys with
  | nil => exact ⟨_, fun _ => rfl⟩
  | cons key rest =>
    unfold LuaVm.evaluateFrom
    cases found : vm.registryValue key with
    | error e => exact ⟨_, fun _ => rfl⟩
    | ok source =>
      change ((_ ++ keys).head?.bind fun key => (vm.registryValue key).toOption) = none at quiet
      rw [asked, List.head?_cons, bind_some, found] at quiet
      cases quiet

theorem head_checkAuthorizers (asked : (firstAuthorizer accounts acl auth).isSome)
    (engine : LuaEngine) (context : AuthorizerContext) :
    ((acl.checkAuthorizers accounts engine auth.uid auth.gid auth.tokenAuthorizer context).2.map
      LuaCall.tables).head? = some (buildRequestTable context, buildCallerTable context) := by
  obtain ⟨source, first⟩ := isSome_iff_exists.mp asked
  obtain ⟨vm, handle, first⟩ := bind_eq_some_iff.mp first
  obtain ⟨keys, collected, first⟩ := bind_eq_some_iff.mp first
  obtain ⟨key, head, stored⟩ := bind_eq_some_iff.mp first
  obtain ⟨rest, order⟩ := List.head?_eq_some_iff.mp head
  unfold ResolvedAcl.checkAuthorizers LuaVm.evaluateAuthorizers
  rw [handle]
  cases found : acl.collectAuthorizerKeys accounts auth.uid auth.gid with
  | error e => simp [found, Except.toOption] at collected
  | ok others => ?_
  obtain rfl : others = keys := by simpa [found, Except.toOption] using collected
  dsimp only
  rw [order]
  unfold LuaVm.evaluateFrom
  cases value : vm.registryValue key with
  | error e =>
    rw [value] at stored
    cases stored
  | ok =>
    dsimp only
    split
    · obtain ⟨made, calls⟩ := LuaVm.evaluateFrom_calls engine vm (buildRequestTable context)
        (buildCallerTable context) 1 _ rest
      rw [calls]
      rfl
    all_goals rfl

/-! ### Two spellings of one path -/

variable {request : Request} {rawPath : String}

theorem checkStaticRights_withConfigPath (accounts : Accounts) (subject : AclSubject)
    (auth : AuthContext) (path : String) (request : Request) :
    checkStaticRights accounts subject auth (request.withConfigPath path) =
      checkStaticRights accounts subject auth request := by
  unfold checkStaticRights
  simp only [checkRights_withConfigPath]

theorem authorizerContext_withConfigPath (path : String)
    (spelled : request.extractConfigPath = some rawPath) (accounts : Accounts) (acl : ResolvedAcl)
    (auth : AuthContext) :
    authorizerContext accounts acl auth (request.withConfigPath path) =
      (authorizerContext accounts acl auth request).map fun context =>
        { context with configPath := some path } := by
  unfold authorizerContext
  split_ifs with quiet
  · rfl
  · cases auth with
    | root => rfl
    | group => exact buildAuthorizerContext_withConfigPath path spelled ..
    | token => exact buildAuthorizerContext_withConfigPath path spelled ..

theorem asksAuthorizer_withConfigPath (path : String)
    (spelled : request.extractConfigPath = some rawPath) :
    asksAuthorizer accounts subject auth (request.withConfigPath path) =
      asksAuthorizer accounts subject auth request := by
  simp only [asksAuthorizer, checkStaticRights_withConfigPath,
    authorizerContext_withConfigPath path spelled, isSome_map]

/-- The authorizer that is called first sees the path as it was typed. -/
theorem head_checkAcl {world : World} (spelled : request.extractConfigPath = some rawPath)
    (asks : asksAuthorizer world.accounts subject auth request = true) :
    ((checkAcl world subject auth request).2.map LuaCall.tables).head?.map (·.1.configPath) =
      some (some rawPath) := by
  unfold asksAuthorizer at asks
  split at asks
  · next acl granted held =>
    rw [Bool.and_eq_true] at asks
    obtain ⟨context, handed⟩ := isSome_iff_exists.mp asks.1
    have typed : context.configPath = some rawPath := by
      have respelled := authorizerContext_withConfigPath rawPath spelled world.accounts acl auth
      rw [Request.withConfigPath_self spelled, handed, map_some] at respelled
      rw [some.inj respelled]
    unfold checkAcl runAuthorizers
    simp only [granted, held, handed, head_checkAuthorizers asks.2, map_some, buildRequestTable,
      typed]
  all_goals cases asks

theorem checkAcl_of_not_asks {world : World} (path : String)
    (spelled : request.extractConfigPath = some rawPath)
    (quiet : asksAuthorizer world.accounts subject auth request = false) :
    checkAcl world subject auth (request.withConfigPath path) =
      checkAcl world subject auth request := by
  unfold asksAuthorizer at quiet
  unfold checkAcl runAuthorizers
  rw [checkStaticRights_withConfigPath]
  cases granted : checkStaticRights world.accounts subject auth request with
  | error e => rfl
  | ok done => ?_
  cases held : subject.acl with
  | none => rfl
  | some acl => ?_
  rw [granted, held] at quiet
  dsimp only at quiet ⊢
  rw [authorizerContext_withConfigPath path spelled]
  cases handed : authorizerContext world.accounts acl auth request with
  | none => rfl
  | some context =>
    rw [handed, isSome_some, Bool.true_and, isSome_eq_false_iff, isNone_iff_eq_none] at quiet
    obtain ⟨_, same⟩ := checkAuthorizers_of_none quiet world.engine
    simp only [map_some, same]

/-- For every daemon, world and caller, and two requests that differ only in how they spell one
path: the authorizers are called with the same tables and the ACL gate decides alike exactly when
the spelling is the same or no authorizer is called. The interpreter is the same for both, so an
authorizer that is handed the same tables answers alike. -/
theorem respelled_calls_same_iff (daemon : Daemon) (world : World) (auth : AuthContext)
    (request : Request) {rawPath path canonical : String}
    (spelled : request.extractConfigPath = some rawPath)
    (resolved : world.tree.canonicalize rawPath = .ok canonical)
    (resolvedToo : world.tree.canonicalize path = .ok canonical) :
    ((daemon.aclGate world auth (request.withConfigPath path)).calls.map LuaCall.tables =
          (daemon.aclGate world auth request).calls.map LuaCall.tables ∧
        (daemon.aclGate world auth (request.withConfigPath path)).outcome =
          (daemon.aclGate world auth request).outcome) ↔
      (path = rawPath ∨ daemon.asksAuthorizer world canonical auth request = false) := by
  have gate := aclGate_eq daemon auth spelled resolved
  have spelledToo := Request.extractConfigPath_withConfigPath path spelled
  have gateToo := aclGate_eq daemon auth spelledToo resolvedToo
  unfold Daemon.asksAuthorizer
  rcases known : daemon.aclSubject world canonical with e | _ | subject <;>
    rw [known, Prod.mk.injEq] at gate gateToo
  · simp [gate, gateToo]
  · simp [gate, gateToo]
  · rw [gate.1, gate.2, gateToo.1, gateToo.2]
    constructor
    · rintro ⟨tables, _⟩
      cases asks : asksAuthorizer world.accounts subject auth request with
      | false => exact .inr asks
      | true =>
        have heads := congrArg (fun calls => calls.head?.map (·.1.configPath)) tables
        rw [head_checkAcl spelled asks, head_checkAcl spelledToo
          ((asksAuthorizer_withConfigPath path spelled).trans asks)] at heads
        exact .inl (some.inj (some.inj heads))
    · rintro (rfl | quiet)
      · rw [Request.withConfigPath_self spelled]
        exact ⟨rfl, rfl⟩
      · rw [checkAcl_of_not_asks path spelled quiet]
        exact ⟨rfl, rfl⟩

/-! ### An authorizer that protects a path -/

def protectingEngine : LuaEngine where
  create := .ok ()
  exec _ := .ok ()
  compile _ _ := .ok ()
  call _ _ _ request _ := .ok (.boolean (request.configPath != some "/srv/app.yaml"))

/-- A config that lets two users stop its services, the first subject to the authorizer. -/
def protectedConfig : KeplerConfig where
  acl := some {
    lua := none
    aliases := ∅
    users := ((∅ : HashMap String AclRule).insert "1001"
        { allow := ["stop"], authorize := none }).insert "1000"
      { allow := ["stop"], authorize := some "return request.config_path ~= '/srv/app.yaml'" }
    groups := ∅ }
  services := ∅

def protectedWorld : World := quietWorld singleConfigTree protectingEngine protectedConfig

def protectedDaemon : Daemon :=
  (Daemon.initial.getOrCreate protectedWorld "/srv/app.yaml" none { owner := some (0, 0) }).2

/-- Typed as it is, the path is refused. Typed with a dot segment, it passes. -/
theorem stopApp_decided_by_spelling :
    protectedWorld.tree.canonicalize "/srv/./app.yaml" = .ok "/srv/app.yaml" ∧
      ¬ (protectedDaemon.aclGate protectedWorld (.group 1000 900) stopApp).Executes ∧
      (protectedDaemon.aclGate protectedWorld (.group 1000 900)
        (stopApp.withConfigPath "/srv/./app.yaml")).Executes := by
  refine ⟨by decide +kernel, by decide +kernel, by decide +kernel⟩

/-- For a user without an authorizer both spellings pass alike. -/
theorem stopApp_calls_same :
    (protectedDaemon.aclGate protectedWorld (.group 1001 900) stopApp).Executes ∧
      (protectedDaemon.aclGate protectedWorld (.group 1001 900)
          (stopApp.withConfigPath "/srv/./app.yaml")).calls.map LuaCall.tables =
        (protectedDaemon.aclGate protectedWorld (.group 1001 900) stopApp).calls.map
          LuaCall.tables ∧
      (protectedDaemon.aclGate protectedWorld (.group 1001 900)
          (stopApp.withConfigPath "/srv/./app.yaml")).outcome =
        (protectedDaemon.aclGate protectedWorld (.group 1001 900) stopApp).outcome := by
  have quiet : protectedDaemon.asksAuthorizer protectedWorld "/srv/app.yaml" (.group 1001 900)
      stopApp = false := by decide +kernel
  exact ⟨by decide +kernel, (respelled_calls_same_iff protectedDaemon protectedWorld _ _ rfl
    (by decide +kernel) (by decide +kernel)).mpr (.inr quiet)⟩

end Kepler
