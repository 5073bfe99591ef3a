/-
This file models `lua/acl_runtime.rs`: the Lua virtual machine with the compiled authorizers of a
config, their evaluation for a request, and the request and caller tables that they receive.

The interpreter is a parameter. An answer may depend on the calls made before for the same request,
and the interpreter may be another one at each request, so authorizers that keep state or look at
the clock are covered. A registry key is accepted only by the machine that made it.
-/

import Kepler.Library.Result
import Kepler.Permissions
import Mathlib.Tactic.SplitIfs

namespace Kepler

open List

/-! ### The tables an authorizer receives -/

inductive ParamValue where
  | bool (value : Bool)
  | string (value : String)
  | stringList (values : List String)
  | stringMap (values : Bindings)

structure AuthorizerContext where
  action : String
  uid : UInt32
  gid : UInt32
  username : Option String
  groups : List UInt32
  isToken : Bool
  params : HashMap String ParamValue
  configPath : Option String

structure RequestTable where
  action : String
  configPath : Option String
  params : HashMap String ParamValue

structure CallerTable where
  uid : UInt32
  gid : UInt32
  username : Option String
  token : Bool
  groups : List UInt32
  deriving DecidableEq, Repr

def buildRequestTable (context : AuthorizerContext) : RequestTable where
  action := context.action
  configPath := context.configPath
  params := context.params

def buildCallerTable (context : AuthorizerContext) : CallerTable where
  uid := context.uid
  gid := context.gid
  username := context.username
  token := context.isToken
  groups := context.groups

/-- `request_config_path`: the path as the request spells it. -/
def requestConfigPath : Request → Option String
  | .configOwner configPath => some configPath
  | request => request.extractConfigPath

def optionalParam (key : String) (value : Option ParamValue) (params : HashMap String ParamValue) :
    HashMap String ParamValue :=
  match value with
  | some value => params.insert key value
  | none => params

/-- The action and the parameters of `build_authorizer_context`, for a request that needs rights. -/
def authorizerParams : Request → Option (String × HashMap String ParamValue)
  | .start fields =>
    let params : HashMap String ParamValue := (∅ : HashMap String ParamValue)
      |>.insert "services" (.stringList fields.services)
      |>.insert "no_deps" (.bool fields.noDeps)
      |> optionalParam "hardening" (fields.hardening.map .string)
      |> optionalParam "override_envs" (fields.overrideEnvs.map .stringMap)
    some ("start", params)
  | .stop fields =>
    let params : HashMap String ParamValue := (∅ : HashMap String ParamValue)
      |>.insert "services" (.stringList fields.services)
      |>.insert "clean" (.bool fields.clean)
      |> optionalParam "signal" (fields.signal.map .string)
    some ("stop", params)
  | .restart fields =>
    let params : HashMap String ParamValue := (∅ : HashMap String ParamValue)
      |>.insert "services" (.stringList fields.services)
      |>.insert "states" (.stringList (fields.states.map RestartState.asStr))
      |>.insert "no_deps" (.bool fields.noDeps)
      |> optionalParam "override_envs" (fields.overrideEnvs.map .stringMap)
    some ("restart", params)
  | .run fields =>
    let params : HashMap String ParamValue := (∅ : HashMap String ParamValue)
      |>.insert "services" (.stringList fields.services)
      |>.insert "no_deps" (.bool fields.noDeps)
      |>.insert "start_clean" (.bool fields.startClean)
      |> optionalParam "hardening" (fields.hardening.map .string)
      |> optionalParam "override_envs" (fields.overrideEnvs.map .stringMap)
    some ("run", params)
  | .recreate fields =>
    some ("recreate", optionalParam "hardening" (fields.hardening.map .string) ∅)
  | .logsStream fields =>
    let params : HashMap String ParamValue := (∅ : HashMap String ParamValue)
      |>.insert "services" (.stringList fields.services)
      |> optionalParam "filter" (fields.filter.map .string)
    some ("logs", params)
  | .subscribe fields =>
    let services := fields.services.getD []
    some ("subscribe", (∅ : HashMap String ParamValue).insert "services" (.stringList services))
  | .inspect fields =>
    let params : HashMap String ParamValue := (∅ : HashMap String ParamValue)
      |>.insert "services" (.stringList fields.services)
      |>.insert "include_services" (.bool fields.includeServices)
      |>.insert "include_environment" (.bool fields.includeEnvironment)
      |>.insert "include_flags" (.bool fields.includeFlags)
    some ("inspect", params)
  | .status (some _) => some ("status", ∅)
  | .subscribeLogs _ => some ("logs", ∅)
  | .checkQuiescence _ => some ("quiescence", ∅)
  | .checkReadiness _ => some ("readiness", ∅)
  | .monitorMetrics fields =>
    let params : HashMap String ParamValue := (∅ : HashMap String ParamValue)
      |> optionalParam "service" (fields.service.map .string)
      |> optionalParam "filter" (fields.filter.map .string)
    some ("monitor", params)
  | .ping | .listConfigs | .shutdown | .prune _ _ | .status none | .userRights _
  | .configOwner _ => none

def buildAuthorizerContext (request : Request) (uid gid : UInt32) (username : Option String)
    (groups : List UInt32) (isToken : Bool) : Option AuthorizerContext :=
  (authorizerParams request).map fun (action, params) =>
    { action, uid, gid, username, groups, isToken, params
      configPath := requestConfigPath request }

theorem authorizerParams_isSome_iff (request : Request) :
    (authorizerParams request).isSome ↔ (requiredRights request).isSome := by
  cases request with
  | status configPath => cases configPath <;> simp [authorizerParams, requiredRights]
  | _ => simp [authorizerParams, requiredRights]

theorem authorizerParams_withConfigPath (path : String) (request : Request) :
    authorizerParams (request.withConfigPath path) = authorizerParams request := by
  cases request with
  | status configPath => cases configPath <;> rfl
  | _ => rfl

theorem requestConfigPath_eq {request : Request} {rawPath : String}
    (spelled : request.extractConfigPath = some rawPath) :
    requestConfigPath request = some rawPath := by
  cases request with
  | configOwner => simp [Request.extractConfigPath] at spelled
  | _ => exact spelled

theorem buildAuthorizerContext_withConfigPath {request : Request} {rawPath : String}
    (path : String) (spelled : request.extractConfigPath = some rawPath) (uid gid : UInt32)
    (username : Option String) (groups : List UInt32) (isToken : Bool) :
    buildAuthorizerContext (request.withConfigPath path) uid gid username groups isToken =
      (buildAuthorizerContext request uid gid username groups isToken).map fun context =>
        { context with configPath := some path } := by
  unfold buildAuthorizerContext
  rw [authorizerParams_withConfigPath,
    requestConfigPath_eq (Request.extractConfigPath_withConfigPath path spelled), Option.map_map]
  rfl

/-! ### The virtual machine -/

/-- What a Lua call answers, as far as the daemon tells answers apart. -/
inductive LuaValue where
  | boolean (value : Bool)
  | nil
  | other (typeName : String)
  deriving DecidableEq, Repr

structure RegistryKey where
  machine : Nat
  slot : Nat
  deriving DecidableEq, Repr

structure LuaCall where
  key : RegistryKey
  source : String
  request : RequestTable
  caller : CallerTable
  answer : Except String LuaValue

/-- The Lua interpreter: creating a machine, running the shared block, compiling an authorizer after
it, and calling one after the calls made so far for a request. -/
structure LuaEngine where
  create : Except String Unit
  exec : String → Except String Unit
  compile : Option String → String → Except String Unit
  call : Option String → String → List LuaCall → RequestTable → CallerTable →
    Except String LuaValue

/-- A machine: the shared block it has run and the sources in its registry, in order. -/
structure LuaVm where
  machine : Nat
  aclLua : Option String
  registry : List String
  deriving DecidableEq, Repr

namespace LuaVm

/-- `registry_value`: a key of another machine is refused. -/
def registryValue (vm : LuaVm) (key : RegistryKey) : Except String String :=
  if key.machine ≠ vm.machine then
    .error "RegistryKey used from different Lua state"
  else match vm.registry[key.slot]? with
    | some source => .ok source
    | none => .error "RegistryKey used from different Lua state"

def extend (vm : LuaVm) (compiled : List String) : LuaVm :=
  { vm with registry := vm.registry ++ compiled }

theorem registryValue_extend {vm : LuaVm} {key : RegistryKey} {source : String}
    (compiled : List String) (held : vm.registryValue key = .ok source) :
    (vm.extend compiled).registryValue key = .ok source := by
  unfold registryValue at held ⊢
  split_ifs at held with foreign
  rw [extend, if_neg foreign]
  cases found : vm.registry[key.slot]? with
  | none => simp [found] at held
  | some stored =>
    obtain ⟨bound, _⟩ := List.getElem?_eq_some_iff.mp found
    rw [getElem?_append_left bound, found]
    rw [found] at held
    exact held

/-- `compile_authorizer` on a machine. The error text is that of the interpreter. -/
def compileAuthorizer (engine : LuaEngine) (vm : LuaVm) (source : String) :
    Except String (RegistryKey × LuaVm) := do
  engine.compile vm.aclLua ("return function(request, caller)\n" ++ source ++ "\nend")
  return ({ machine := vm.machine, slot := vm.registry.length },
    { vm with registry := vm.registry ++ [source] })

/-- The loop of `AclLuaHandle::new` over the numbered sources. -/
def compileSources (engine : LuaEngine) :
    LuaVm → HashMap Nat RegistryKey → List (Nat × String) →
      Except String (LuaVm × HashMap Nat RegistryKey)
  | vm, compiled, [] => .ok (vm, compiled)
  | vm, compiled, (id, source) :: rest =>
    match vm.compileAuthorizer engine source with
    | .error e => .error s!"Failed to compile authorizer for ID {id}: {e}"
    | .ok (key, extended) => compileSources engine extended (compiled.insert id key) rest

def new (engine : LuaEngine) (machine : Nat) (aclLua : Option String)
    (sources : List (Nat × String)) : Except String (LuaVm × HashMap Nat RegistryKey) := do
  engine.create.mapError fun e => s!"Failed to create ACL Lua VM: {e}"
  match aclLua with
  | some code => (engine.exec code).mapError fun e => s!"Failed to evaluate kepler.acl.lua: {e}"
  | none => pure ()
  compileSources engine { machine, aclLua, registry := [] } ∅ sources

/-- `evaluate_authorizers` from a number on, with the calls that are made. -/
def evaluateFrom (engine : LuaEngine) (vm : LuaVm) (request : RequestTable)
    (caller : CallerTable) :
    Nat → List LuaCall → List RegistryKey → Except String Unit × List LuaCall
  | _, calls, [] => (.ok (), calls)
  | number, calls, key :: rest =>
    match vm.registryValue key with
    | .error e => (.error s!"Failed to retrieve authorizer #{number}: {e}", calls)
    | .ok source =>
      let answer := engine.call vm.aclLua source calls request caller
      let called := calls ++ [{ key, source, request, caller, answer }]
      match answer with
      | .ok (.boolean true) => evaluateFrom engine vm request caller (number + 1) called rest
      | .ok (.boolean false) => (.error s!"Authorizer #{number} denied the request", called)
      | .ok .nil => (.error s!"Authorizer #{number} returned nil (denied)", called)
      | .ok (.other _) => (.error s!"Authorizer #{number} returned non-boolean value", called)
      | .error e => (.error s!"Authorizer #{number} error: {e}", called)

def evaluateAuthorizers (engine : LuaEngine) (vm : LuaVm) (keys : List RegistryKey)
    (context : AuthorizerContext) : Except String Unit × List LuaCall :=
  evaluateFrom engine vm (buildRequestTable context) (buildCallerTable context) 0 [] keys

/-- A compiled authorizer was called with the tables of the request and answered `true`. -/
def Allowed (calls : List LuaCall) (context : AuthorizerContext) (key : RegistryKey)
    (source : String) : Prop :=
  { key, source, request := buildRequestTable context, caller := buildCallerTable context,
    answer := .ok (.boolean true) : LuaCall } ∈ calls

theorem compileAuthorizer_eq_ok {engine : LuaEngine} {vm extended : LuaVm} {source : String}
    {key : RegistryKey} (success : vm.compileAuthorizer engine source = .ok (key, extended)) :
    key = { machine := vm.machine, slot := vm.registry.length } ∧
      extended = { vm with registry := vm.registry ++ [source] } := by
  obtain ⟨_, _, success⟩ := Result.bind_eq_ok.mp success
  obtain ⟨sameKey, sameVm⟩ := Prod.mk.inj (Except.ok.inj success)
  exact ⟨sameKey.symm, sameVm.symm⟩

variable (engine : LuaEngine)

/-- Sources that are numbered by the slots they will take are added in order, and each number leads
to its slot. -/
theorem compileSources_eq_ok (sources : List String) (vm after : LuaVm)
    (before compiled : HashMap Nat RegistryKey)
    (known : ∀ slot < vm.registry.length, before.lookup slot = some ⟨vm.machine, slot⟩)
    (success : compileSources engine vm before
      ((sources.zipIdx vm.registry.length).map Prod.swap) = .ok (after, compiled)) :
    after = { vm with registry := vm.registry ++ sources } ∧
      ∀ slot < after.registry.length, compiled.lookup slot = some ⟨vm.machine, slot⟩ := by
  induction sources generalizing vm before with
  | nil =>
    simp only [zipIdx_nil, map_nil, compileSources, Except.ok.injEq,
      Prod.mk.injEq] at success
    obtain ⟨rfl, rfl⟩ := success
    exact ⟨by simp, known⟩
  | cons source rest inductionHypothesis =>
    rw [zipIdx_cons, map_cons] at success
    simp only [Prod.swap_prod_mk, compileSources] at success
    cases step : vm.compileAuthorizer engine source with
    | error e => simp [step] at success
    | ok result => ?_
    obtain ⟨key, extended⟩ := result
    obtain ⟨rfl, rfl⟩ := compileAuthorizer_eq_ok step
    rw [step] at success
    have extendedLength : (vm.registry ++ [source]).length = vm.registry.length + 1 := by simp
    have knownAfter : ∀ slot < (vm.registry ++ [source]).length,
        (before.insert vm.registry.length ⟨vm.machine, vm.registry.length⟩).lookup slot =
          some ⟨vm.machine, slot⟩ := by
      intro slot bound
      by_cases last : slot = vm.registry.length
      · rw [last, AList.lookup_insert]
      · rw [AList.lookup_insert_ne last]
        exact known slot (by omega)
    obtain ⟨equal, found⟩ := inductionHypothesis
      { vm with registry := vm.registry ++ [source] } _ knownAfter
      (by rw [extendedLength]; exact success)
    refine ⟨?_, found⟩
    rw [equal, append_assoc]
    rfl

theorem new_eq_ok (machine : Nat) (aclLua : Option String) (sources : List String) (vm : LuaVm)
    (compiled : HashMap Nat RegistryKey)
    (success : new engine machine aclLua (sources.zipIdx.map Prod.swap) = .ok (vm, compiled)) :
    vm.registry = sources ∧
      ∀ slot < sources.length, compiled.lookup slot = some ⟨vm.machine, slot⟩ := by
  have reached : compileSources engine { machine, aclLua, registry := [] } ∅
      (sources.zipIdx.map Prod.swap) = .ok (vm, compiled) := by
    obtain ⟨_, _, success⟩ := Result.bind_eq_ok.mp success
    cases aclLua with
    | none => exact success
    | some code =>
      obtain ⟨_, _, success⟩ := Result.bind_eq_ok.mp success
      exact success
  obtain ⟨rfl, found⟩ := compileSources_eq_ok engine sources
    { machine, aclLua, registry := [] } vm ∅ compiled (by simp) reached
  exact ⟨by simp, by simpa using found⟩

section

variable (vm : LuaVm) (request : RequestTable) (caller : CallerTable) (number : Nat)
  (calls : List LuaCall) (keys : List RegistryKey)

theorem evaluateFrom_calls :
    ∃ made, (evaluateFrom engine vm request caller number calls keys).2 = calls ++ made := by
  induction keys generalizing number calls with
  | nil => exact ⟨[], by simp [evaluateFrom]⟩
  | cons key rest inductionHypothesis =>
    unfold evaluateFrom
    split
    · exact ⟨[], by simp⟩
    · rename_i source found
      dsimp only
      split
      · obtain ⟨made, equal⟩ := inductionHypothesis (number + 1) _
        exact ⟨_, by rw [equal, append_assoc]⟩
      all_goals exact ⟨_, rfl⟩

theorem evaluateFrom_eq_ok
    (passed : (evaluateFrom engine vm request caller number calls keys).1 = .ok ())
    (key : RegistryKey) (member : key ∈ keys) :
    ∃ source, vm.registryValue key = .ok source ∧
      { key, source, request, caller, answer := .ok (.boolean true) : LuaCall } ∈
        (evaluateFrom engine vm request caller number calls keys).2 := by
  induction keys generalizing number calls with
  | nil => simp at member
  | cons first rest inductionHypothesis =>
    unfold evaluateFrom at passed ⊢
    cases found : vm.registryValue first with
    | error e => simp [found] at passed
    | ok source => ?_
    simp only [found] at passed ⊢
    split at passed
    · rename_i answered
      simp only [answered] at passed ⊢
      rcases mem_cons.mp member with rfl | inRest
      · obtain ⟨made, equal⟩ := evaluateFrom_calls engine vm request caller (number + 1)
          _ rest
        refine ⟨source, found, ?_⟩
        rw [equal]
        simp
      · exact inductionHypothesis _ _ passed inRest
    all_goals exact absurd passed (by simp)

theorem evaluateAuthorizers_eq_ok (context : AuthorizerContext)
    (passed : (evaluateAuthorizers engine vm keys context).1 = .ok ()) (key : RegistryKey)
    (member : key ∈ keys) :
    ∃ source, vm.registryValue key = .ok source ∧
      Allowed (evaluateAuthorizers engine vm keys context).2 context key source :=
  evaluateFrom_eq_ok engine vm _ _ 0 [] keys passed key member

end

end LuaVm

end Kepler
