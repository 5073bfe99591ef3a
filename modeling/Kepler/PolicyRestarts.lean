/-
This file is about a service that is left to its restart policy: no user touches it, restarts for
other reasons begin only while it is not active, and the exits of its processes are handled one
after the other while it counts as running.

Such a service stays as it is when it is not active. Otherwise it is started again after an exit, or
it comes to rest with a status that says how its process ended.
-/

import Kepler.StatusSignals
import Kepler.Turns

namespace Kepler

open Runs Lifecycle ServiceCell Option Program Function

/-! ### What becomes of a service that is left to its policy -/

namespace ServiceState

/-- What a running service can come to while only exits are handled. Whether a restart may fail is
given. -/
def isOrdinary (fails : Bool) (state : ServiceState) : Bool :=
  match state.status with
  | .stopped | .skipped => false
  | .failed => fails
  | .killed => state.exitCode = none
  | _ => true

/-- Nothing that conditions read changes, or a service that counts as running moves on. -/
inductive Evolves (fails : Bool) (state new : ServiceState) : Prop where
  | kept (same : new.observed = state.observed)
  | moved (active : wasActivelyRunning (some state)) (ordinary : new.isOrdinary fails)

variable {fails : Bool} {state new : ServiceState}

theorem Evolves.isOrdinary (evolves : state.Evolves fails new)
    (ordinary : state.isOrdinary fails) : new.isOrdinary fails := by
  cases evolves with
  | moved _ ordinary => exact ordinary
  | kept same =>
    simp only [observed, Prod.mk.injEq] at same
    rw [ServiceState.isOrdinary, same.1, same.2.1]
    exact ordinary

theorem status_of_active (active : wasActivelyRunning (some state)) :
    state.status.isRunning ∨ state.status = .starting := by
  rw [wasActivelyRunning, any_some, Bool.or_eq_true, decide_eq_true_iff] at active
  exact active

theorem status_of_not_active (inactive : state.status.isActive = false) :
    state.status.isRunning = false ∧ wasActivelyRunning (some state) = false := by
  rw [wasActivelyRunning, any_some]
  cases status : state.status <;> rw [status] at inactive <;>
    first | exact ⟨rfl, rfl⟩ | cases inactive

theorem Evolves.observed (evolves : state.Evolves fails new)
    (inactive : state.status.isActive = false) : new.observed = state.observed := by
  cases evolves with
  | kept same => exact same
  | moved active _ =>
    rw [(status_of_not_active inactive).2] at active
    cases active

/-- What conditions read changes at most by the health of a running service. -/
inductive Idles (state new : ServiceState) : Prop where
  | kept (same : new.observed = state.observed)
  | health (before : state.status.isRunning) (after : new.status.isRunning)
      (exitCode : new.exitCode = state.exitCode)

theorem exitCode_updateHealth (passed : Bool) (retries : Nat) (state : ServiceState) :
    (state.updateHealth passed retries).exitCode = state.exitCode := by
  unfold updateHealth
  split
  · split <;> rfl
  · rfl

theorem active_of_running (running : state.status.isRunning) :
    wasActivelyRunning (some state) := by
  rw [wasActivelyRunning, any_some, running]
  rfl

theorem isOrdinary_of_active (active : wasActivelyRunning (some state)) :
    state.isOrdinary fails := by
  unfold isOrdinary
  rcases status_of_active active with running | starting
  · cases status : state.status <;> rw [status] at running <;> first | rfl | cases running
  · rw [starting]

theorem Idles.evolves (idles : state.Idles new) : state.Evolves fails new := by
  cases idles with
  | kept same => exact .kept same
  | health before after _ =>
    exact .moved (active_of_running before) (isOrdinary_of_active (active_of_running after))

theorem Idles.status (idles : state.Idles new) :
    new.status = state.status ∨ state.status.isRunning ∧ new.status.isRunning := by
  cases idles with
  | kept same => exact .inl (congrArg Prod.fst same)
  | health before after _ => exact .inr ⟨before, after⟩

theorem Idles.exitCode (idles : state.Idles new) : new.exitCode = state.exitCode := by
  cases idles with
  | kept same => exact congrArg (fun observed => observed.2.1) same
  | health _ _ exitCode => exact exitCode

theorem Idles.active (idles : state.Idles new)
    (active : wasActivelyRunning (some state)) :
    wasActivelyRunning (some new) := by
  rcases idles.status with same | ⟨_, running⟩
  · rw [wasActivelyRunning, any_some, same]
    exact active
  · exact active_of_running running

theorem Idles.inactive (idles : state.Idles new) (inactive : state.status.isActive = false) :
    new.status.isActive = false := by
  rcases idles.status with same | ⟨running, _⟩
  · rw [same]
    exact inactive
  · rw [(status_of_not_active inactive).1] at running
    cases running

end ServiceState

/-! ### What a task on the service may do -/

/-- The commands that leave alone what conditions read and the computed config. -/
def ServiceCommand.leavesState : ServiceCommand → Bool
  | .getServiceContext | .takeMatchingTokenGuard _ | .storeTokenGuard _
  | .registerServiceInstance _ _ | .storeProcessHandle _ => true
  | command => command.isNeutral

namespace ServiceCell

variable {cell : ServiceCell} {context : CommandContext}

variable {command : ServiceCommand}

theorem not_entersStatus_of_leavesState (leaves : command.leavesState) :
    command.entersStatus = false := by
  cases command with
  | claimServiceStart | claimServiceRestart | claimInactiveServiceRestart
  | transitionServiceStartup | setServiceStatusWithReason | setServiceStatus => cases leaves
  | _ => rfl

theorem CommandStep.kept {new : ServiceCell} {effects : List Effect} {signal : Option StatusSignal}
    (step : CommandStep cell context command new effects signal) (leaves : command.leavesState) :
    new.state.map ServiceState.observed = cell.state.map ServiceState.observed ∧
      new.resolved = cell.resolved := by
  have other := Bool.eq_false_iff.mp (not_entersStatus_of_leavesState leaves)
  cases step with
  | held | began | cancelled => exact ⟨rfl, rfl⟩
  | noted change preserves =>
    refine ⟨?_, rfl⟩
    rw [modifyState, map_map]
    exact congrArg (cell.state.map ·) (funext preserves)
  | registered =>
    refine ⟨?_, rfl⟩
    change (cell.state.map _).map _ = _
    rw [map_map]
    rfl
  | resolved | recorded | health | reserved => cases leaves
  | claimed enters | entered enters => exact absurd enters other

theorem observed_of_leavesState (leaves : command.leavesState) :
    (cell.handle context command).cell.state.map ServiceState.observed =
      cell.state.map ServiceState.observed :=
  ((commandStep_handle command).kept leaves).1

theorem resolved_of_leavesState (leaves : command.leavesState) :
    (cell.handle context command).cell.resolved = cell.resolved :=
  ((commandStep_handle command).kept leaves).2

end ServiceCell

/-- Where a task on a service is that is left to its policy: it handles an exit and may have
recorded an exit code and stored a config, it has come to the end, or it looks at a service that is
not active. -/
inductive HandlerPhase where
  | working (recorded : Option (Option Int)) (resolved : Bool)
  | finished
  | resting

/-- The restarts that no user asks for. -/
def ServiceRequest.isAutomatic : ServiceRequest → Bool
  | .fileChange | .unhealthy | .propagate _ => true
  | .start _ _ | .restart _ _ _ | .stop => false

variable {request : ServiceRequest}

namespace HandlerPhase

variable (fails : Bool)

def AllowsStatus (recorded : Option (Option Int)) : ServiceStatus → Prop
  | .starting | .running | .exited => True
  | .killed => recorded = some none
  | .failed => fails
  | _ => False

def AllowsCommand (recorded : Option (Option Int)) : ServiceCommand → Prop
  | .setServiceStatus status => AllowsStatus fails recorded status
  | .storeResolvedConfig _ _ | .recordProcessExit _ _ => True
  | command => command.leavesState

def Allows : HandlerPhase → Operation → Prop
  | working recorded _, .command request => AllowsCommand fails recorded request
  | working _ _, _ => True
  | finished, _ => False
  | resting, .command .getServiceState | resting, .command .getServiceConfig
  | resting, .command .isServiceRunning => True
  | resting, _ => False

def ExpectsReply (resolved : Bool) : (operation : Operation) → operation.Reply → Prop
  | .command .getServiceContext => fun reply => ∀ context, reply = some context →
      fails = false → resolved → context.resolvedConfig.isSome
  | .command (.registerServiceInstance _ _) => fun reply => reply.isOk
  | .createToken _ => fun reply => fails = false → reply.isOk
  | .spawnProcess => fun reply => fails = false → reply.isOk
  | _ => fun _ => True

def FindsInactive : (operation : Operation) → operation.Reply → Prop
  | .command .getServiceState => fun reply => ∃ state, reply = some state ∧
      state.status.isActive = false
  | .command .isServiceRunning => fun reply => reply = false
  | _ => fun _ => True

def Expects : HandlerPhase → (operation : Operation) → operation.Reply → Prop
  | working _ resolved => ExpectsReply fails resolved
  | finished => fun _ _ => True
  | resting => FindsInactive

def after : HandlerPhase → Operation → HandlerPhase
  | working _ resolved, .command (.setServiceStatus status) =>
    if status.isActive then working none resolved else finished
  | working _ resolved, .command (.recordProcessExit exitCode _) =>
    working (some exitCode) resolved
  | working recorded _, .command (.storeResolvedConfig _ _) => working recorded true
  | phase, _ => phase

def protocol : Program.Protocol Operation.Reply HandlerPhase where
  Allowed := Allows fails
  Next phase operation reply following :=
    phase.Expects fails operation reply ∧ following = phase.after operation

abbrev Follows {Result : Type} (post : Except OrchestratorError Result → HandlerPhase → Prop)
    (program : Lifecycle Result) (phase : HandlerPhase) : Prop :=
  Program.Follows (protocol fails) post program phase

variable {fails} {phase : HandlerPhase} {recorded : Option (Option Int)} {resolved : Bool}
  {Result : Type} {post : Except OrchestratorError Result → HandlerPhase → Prop}
  {continuation : Unit → Lifecycle Result} {context : FetchedContext}

theorem after_working (operation : Operation) :
    (∃ recorded' resolved', after (working recorded resolved) operation =
        working recorded' resolved') ∨
      after (working recorded resolved) operation = finished := by
  cases operation with
  | command command =>
    cases command with
    | setServiceStatus status =>
      change (∃ recorded' resolved', (if status.isActive then _ else _) = _) ∨
        (if status.isActive then _ else _) = _
      split
      · exact .inl ⟨_, _, rfl⟩
      · exact .inr rfl
    | _ => exact .inl ⟨_, _, rfl⟩
  | _ => exact .inl ⟨_, _, rfl⟩

theorem follows_operation {operation : Operation}
    {continuation : operation.Reply → Lifecycle Result} (allowed : phase.Allows fails operation)
    (rest : ∀ reply, phase.Expects fails operation reply →
      Follows fails post (continuation reply) (phase.after operation)) :
    Follows fails post (perform operation >>= continuation) phase :=
  follows_call_bind allowed (fun _ _ leads => leads) rest

theorem follows_hook {hookType : ServiceHookType}
    (rest : Follows fails post (continuation ()) (working recorded resolved)) :
    Follows fails post (hook hookType >>= continuation) (working recorded resolved) :=
  follows_operation trivial fun _ _ => rest

theorem allows_of_neutral {operation : Operation} (neutral : operation.isNeutral) :
    Allows fails (working recorded resolved) operation ∧
      after (working recorded resolved) operation = working recorded resolved := by
  cases operation with
  | command command => cases command <;> first | exact ⟨neutral, rfl⟩ | cases neutral
  | _ => exact ⟨trivial, rfl⟩

theorem follows_spawnAuxiliaryTasks (context : FetchedContext) (attached : ServiceInstance)
    (rest : Follows fails post (continuation ()) (working recorded resolved)) :
    Follows fails post (spawnAuxiliaryTasks context attached >>= continuation)
      (working recorded resolved) := by
  refine follows_bind_of
    ((only_spawnAuxiliaryTasks ..).follows fun operation neutral => ?_)
    (fun _ _ holds => holds.2 ▸ rest) fun _ _ holds => nomatch holds.1
  obtain ⟨allowed, stays⟩ := @allows_of_neutral fails recorded resolved operation neutral
  exact ⟨allowed, fun _ _ leads => leads.2.trans stays⟩

theorem follows_revokeMatching (token : Option Token) :
    Follows fails (fun outcome following => (∃ result, outcome = .ok result) ∧
        following = working recorded resolved)
      (revokeMatching token) (working recorded resolved) := by
  cases token with
  | none => exact ⟨⟨(), rfl⟩, rfl⟩
  | some token =>
    refine follows_operation rfl fun taken _ => ?_
    cases taken with
    | none => exact ⟨⟨(), rfl⟩, rfl⟩
    | some token => exact ⟨trivial, fun _ _ leads => ⟨⟨(), rfl⟩, leads.2⟩⟩

theorem fails_of_error {Value : Type} {failure : OrchestratorError}
    (reliable : fails = false → (Except.error failure : Except OrchestratorError Value).isOk) :
    fails = true := by
  cases fails with
  | true => rfl
  | false => cases reliable rfl

theorem follows_tokenOf (service : String) (context : FetchedContext) :
    Follows fails (fun outcome following => (fails = false → outcome.isOk) ∧
        following = working recorded resolved)
      (tokenOf service context) (working recorded resolved) := by
  unfold tokenOf
  cases context.resolvedConfig with
  | none => exact ⟨fun _ => rfl, rfl⟩
  | some config => ?_
  dsimp only
  unfold createServiceTokenGuard
  cases config.permissions with
  | none => exact ⟨fun _ => rfl, rfl⟩
  | some =>
    refine follows_operation trivial fun created expected => ?_
    cases created with
    | error => exact ⟨expected, rfl⟩
    | ok token => exact follows_operation rfl fun _ _ => ⟨fun _ => rfl, rfl⟩

theorem follows_spawnServiceWithTokenGuard
    (computed : fails = false → context.resolvedConfig.isSome) (token : Option Token) :
    Follows fails (fun outcome following => (fails = false → outcome.isOk) ∧
        ∃ recorded resolved, following = working recorded resolved)
      (spawnServiceWithTokenGuard context token) (working recorded resolved) := by
  unfold spawnServiceWithTokenGuard
  cases found : context.resolvedConfig with
  | none =>
    rw [found] at computed
    exact ⟨fun reliable => (nomatch computed reliable), _, _, rfl⟩
  | some config =>
    refine follows_operation trivial fun spawned expected => ?_
    cases spawned with
    | error =>
      refine follows_bind_of (follows_revokeMatching token) ?_
        fun _ _ ended => nomatch ended.1
      rintro _ _ ⟨_, rfl⟩
      exact ⟨expected, _, _, rfl⟩
    | ok =>
      refine follows_operation rfl fun registered expected => ?_
      cases registered with
      | error => cases expected
      | ok =>
        refine follows_operation rfl fun _ _ => ?_
        exact follows_operation trivial fun _ _ => ⟨fun _ => rfl, _, _, rfl⟩

theorem follows_respawn (computed : fails = false → context.resolvedConfig.isSome) :
    Follows fails (fun _ _ => True) (respawn context) (working recorded resolved) := by
  refine follows_attempt_bind
    (follows_spawnServiceWithTokenGuard computed context.token) ?_
  rintro outcome _ ⟨reliable, recorded, resolved, rfl⟩
  cases outcome with
  | error =>
    exact follows_operation (fails_of_error reliable) fun _ _ => trivial
  | ok registered =>
    refine follows_hook (follows_hook (follows_spawnAuxiliaryTasks context registered ?_))
    exact follows_operation trivial fun _ _ => trivial

theorem follows_reResolveService :
    Follows fails (fun outcome following =>
        (∃ recorded resolved, following = working recorded resolved) ∧
        ∀ context, outcome = .ok context → fails = false → context.resolvedConfig.isSome)
      reResolveService (working recorded resolved) := by
  refine follows_operation rfl fun found _ => ?_
  cases found with
  | none => exact ⟨⟨_, _, rfl⟩, fun _ same => by cases same⟩
  | some before => ?_
  refine follows_operation trivial fun answer _ => ?_
  cases answer with
  | error => exact ⟨⟨_, _, rfl⟩, fun _ same => by cases same⟩
  | ok => ?_
  refine follows_operation trivial fun _ _ =>
    follows_operation rfl fun refreshed expected => ?_
  cases refreshed with
  | none => exact ⟨⟨_, _, rfl⟩, fun _ same => by cases same⟩
  | some context =>
    refine ⟨⟨_, _, rfl⟩, fun other same reliable => ?_⟩
    cases same
    exact expected context rfl reliable rfl

theorem follows_restartAfterExit (service : String) (context : FetchedContext)
    (exitCode : Option Int) :
    Follows fails (fun _ _ => True) (restartAfterExit service context exitCode)
      (working recorded resolved) := by
  refine follows_operation rfl fun _ _ => follows_operation rfl fun _ _ => ?_
  refine follows_operation trivial fun _ _ => follows_operation trivial fun delayed _ => ?_
  cases delayed with
  | error => exact trivial
  | ok => ?_
  refine follows_operation rfl fun _ _ => ?_
  refine follows_attempt_bind (follows_tokenOf ..) ?_
  rintro created _ ⟨reliable, rfl⟩
  cases created with
  | error =>
    exact follows_operation (fails_of_error reliable) fun _ _ => trivial
  | ok token =>
    refine follows_hook (follows_hook ?_)
    refine follows_bind_of follows_reResolveService ?_ fun _ _ _ => trivial
    rintro refreshed _ ⟨⟨recorded, resolved, rfl⟩, computed⟩
    exact follows_respawn (computed refreshed rfl)

theorem follows_handleExit (service : String) {exitCode signal : Option Int}
    (plain : signal.isSome → exitCode = none) :
    Follows fails (fun _ _ => True) (handleExit service exitCode signal)
      (working recorded resolved) := by
  refine follows_operation rfl fun found _ => ?_
  cases found with
  | none => exact trivial
  | some context => ?_
  refine follows_operation rfl fun _ _ => follows_operation rfl fun _ _ => ?_
  refine follows_operation trivial fun _ _ => follows_hook ?_
  refine follows_bind_of (follows_revokeMatching context.token) ?_ fun _ _ _ => trivial
  rintro _ _ ⟨_, rfl⟩
  refine follows_operation rfl fun state _ => ?_
  split
  · exact follows_restartAfterExit ..
  · unfold settleExit
    split
    · cases signal with
      | none => exact follows_operation trivial fun _ _ => trivial
      | some signal =>
        exact follows_operation (congrArg some (plain rfl)) fun _ _ => trivial
    · exact trivial

theorem follows_automatic (service : String) (automatic : request.isAutomatic) :
    Follows fails (fun _ _ => True) (request.program service) resting := by
  cases request with
  | fileChange =>
    refine follows_operation trivial fun _ found => ?_
    obtain ⟨state, rfl, inactive⟩ := found
    rw [if_pos (by rw [any_some, inactive]; rfl)]
    exact trivial
  | unhealthy =>
    refine follows_operation trivial fun raw _ => ?_
    split
    · refine follows_operation trivial fun _ running => ?_
      cases running
      exact trivial
    · exact trivial
  | propagate =>
    refine follows_operation trivial fun _ running => ?_
    cases running
    exact trivial
  | _ => cases automatic

/-! ### What a task relies on is the case -/

/-- The service counts as running, with the recorded exit code and the computed config, or it is not
active. -/
def Means (fails : Bool) (cell : ServiceCell) : HandlerPhase → Prop
  | working recorded resolved =>
    (∃ state, cell.state = some state ∧ wasActivelyRunning (some state) ∧
      ∀ exitCode, recorded = some exitCode → state.exitCode = exitCode) ∧
    (fails = false → resolved → cell.resolved.isSome)
  | finished => True
  | resting => ∃ state, cell.state = some state ∧ state.status.isActive = false

end HandlerPhase

def ServiceCell.Evolves (fails : Bool) (cell new : ServiceCell) : Prop :=
  ∀ state, cell.state = some state → ∃ after, new.state = some after ∧ state.Evolves fails after

/-- Whatever happens to the state has to do with the health only. -/
def ServiceCell.Idles (cell new : ServiceCell) : Prop :=
  ∀ state, cell.state = some state → ∃ after, new.state = some after ∧ state.Idles after

theorem ServiceCell.Idles.evolves {fails : Bool} {cell new : ServiceCell} (idles : cell.Idles new) :
    cell.Evolves fails new := by
  intro state found
  obtain ⟨after, becomes, idles⟩ := idles state found
  exact ⟨after, becomes, idles.evolves⟩

theorem ServiceCell.idles_of_observed {cell new : ServiceCell}
    (same : new.state.map ServiceState.observed = cell.state.map ServiceState.observed) :
    cell.Idles new := by
  intro state found
  rw [found] at same
  obtain ⟨after, found, same⟩ := map_eq_some_iff.mp same
  exact ⟨after, found, .kept same⟩

namespace HandlerPhase

variable {fails : Bool} {cell : ServiceCell} {context : CommandContext} {phase : HandlerPhase}
  {recorded : Option (Option Int)} {resolved : Bool} {status : ServiceStatus}

theorem isOrdinary_enter (allowed : AllowsStatus fails recorded status) {state : ServiceState}
    (exitCode : recorded = some none → state.exitCode = none) (now : Nat) :
    (state.enter now status).isOrdinary fails := by
  unfold ServiceState.isOrdinary
  rw [ServiceState.status_enter]
  cases status with
  | killed =>
    have same : (state.enter now .killed).exitCode = state.exitCode :=
      ServiceState.exitCode_enter now (by exact nofun) (by exact nofun) state
    exact decide_eq_true (same.trans (exitCode allowed))
  | failed => exact allowed
  | stopped | skipped => exact allowed.elim
  | _ => rfl

section

variable (means : Means fails cell (working recorded resolved))

include means

theorem Means.setServiceStatus (allowed : AllowsStatus fails recorded status) :
    cell.Evolves fails (cell.handle context (.setServiceStatus status)).cell ∧
      Means fails (cell.handle context (.setServiceStatus status)).cell
        (after (working recorded resolved) (.command (.setServiceStatus status))) := by
  obtain ⟨⟨state, found, active, exitCode⟩, computed⟩ := means
  obtain ⟨becomes, same⟩ := state_setStatus found context.now status
  constructor
  · intro other known
    cases found.symm.trans known
    exact ⟨_, becomes, .moved active (isOrdinary_enter allowed (exitCode _) context.now)⟩
  · cases status with
    | starting | running =>
      exact ⟨⟨_, becomes, rfl, nofun⟩, fun reliable done => same ▸ computed reliable done⟩
    | exited | killed | failed => exact trivial
    | _ => exact allowed.elim

theorem Means.recordProcessExit (exitCode signal : Option Int) :
    cell.Evolves fails (cell.handle context (.recordProcessExit exitCode signal)).cell ∧
      Means fails (cell.handle context (.recordProcessExit exitCode signal)).cell
        (working (some exitCode) resolved) := by
  obtain ⟨⟨state, found, active, _⟩, computed⟩ := means
  have becomes : (cell.handle context (.recordProcessExit exitCode signal)).cell.state =
      some { state with exitCode, signal, pid := none } := by
    change cell.state.map _ = _
    rw [found]
    rfl
  constructor
  · intro other known
    cases found.symm.trans known
    exact ⟨_, becomes, .moved active (ServiceState.isOrdinary_of_active active)⟩
  · exact ⟨⟨_, becomes, active, fun _ same => some.inj same⟩, computed⟩

theorem Means.storeResolvedConfig (config : ServiceConfig) (workingDir : String) :
    cell.Evolves fails (cell.handle context (.storeResolvedConfig config workingDir)).cell ∧
      Means fails (cell.handle context (.storeResolvedConfig config workingDir)).cell
        (working recorded true) := by
  obtain ⟨⟨state, found, active, exitCode⟩, _⟩ := means
  have becomes : (cell.handle context (.storeResolvedConfig config workingDir)).cell.state =
      some { state with workingDir } := by
    change cell.state.map _ = _
    rw [found]
    rfl
  constructor
  · intro other known
    cases found.symm.trans known
    exact ⟨_, becomes, .kept rfl⟩
  · exact ⟨⟨_, becomes, active, exitCode⟩, fun _ _ => rfl⟩

end

theorem Means.idles {new : ServiceCell} (means : phase.Means fails cell) (idles : cell.Idles new)
    (computed : fails = false → cell.resolved.isSome → new.resolved.isSome) :
    phase.Means fails new := by
  cases phase with
  | finished => exact trivial
  | resting =>
    obtain ⟨state, found, inactive⟩ := means
    obtain ⟨after, found, idles⟩ := idles state found
    exact ⟨after, found, idles.inactive inactive⟩
  | working =>
    obtain ⟨⟨state, found, active, exitCode⟩, stored⟩ := means
    obtain ⟨after, found, idles⟩ := idles state found
    exact ⟨⟨after, found, idles.active active, fun code same =>
      idles.exitCode.trans (exitCode code same)⟩,
      fun reliable done => computed reliable (stored reliable done)⟩

theorem Means.expects_of_leavesState {command : ServiceCommand}
    (means : Means fails cell (working recorded resolved)) (leaves : command.leavesState) :
    ExpectsReply fails resolved (.command command) (cell.handle context command).reply := by
  obtain ⟨⟨state, found, _, _⟩, computed⟩ := means
  cases command with
  | getServiceContext =>
    intro fetched built reliable done
    obtain ⟨serviceConfig, _, built⟩ := bind_eq_some_iff.mp built
    obtain ⟨known, _, built⟩ := bind_eq_some_iff.mp built
    cases built
    exact computed reliable done
  | registerServiceInstance =>
    change (cell.registerServiceInstance ..).reply.isOk
    rw [registerServiceInstance, if_pos (isSome_iff_exists.mpr ⟨state, found⟩)]
    rfl
  | _ => exact trivial

theorem Means.command {command : ServiceCommand} (means : phase.Means fails cell)
    (allowed : phase.Allows fails (.command command)) :
    phase.Expects fails (.command command) (cell.handle context command).reply ∧
      cell.Evolves fails (cell.handle context command).cell ∧
      (phase.after (.command command)).Means fails (cell.handle context command).cell := by
  cases phase with
  | finished => exact allowed.elim
  | resting =>
    obtain ⟨state, found, inactive⟩ := means
    have unchanged : cell.Evolves fails cell := (idles_of_observed rfl).evolves
    cases command with
    | getServiceState => exact ⟨⟨state, found, inactive⟩, unchanged, state, found, inactive⟩
    | getServiceConfig => exact ⟨trivial, unchanged, state, found, inactive⟩
    | isServiceRunning =>
      refine ⟨?_, unchanged, state, found, inactive⟩
      change cell.isRunning = false
      rw [isRunning, status, found]
      exact (ServiceState.status_of_not_active inactive).1
    | _ => exact allowed.elim
  | working recorded resolved =>
    by_cases leaves : command.leavesState
    · have idles : cell.Idles (cell.handle context command).cell :=
        idles_of_observed (observed_of_leavesState leaves)
      have stays : after (working recorded resolved) (.command command) =
          working recorded resolved := by
        cases command <;> first | rfl | cases leaves
      rw [stays]
      refine ⟨means.expects_of_leavesState leaves, idles.evolves, means.idles idles ?_⟩
      rw [resolved_of_leavesState leaves]
      exact fun _ stored => stored
    · cases command with
      | setServiceStatus status => exact ⟨trivial, means.setServiceStatus allowed⟩
      | recordProcessExit exitCode signal =>
        exact ⟨trivial, means.recordProcessExit exitCode signal⟩
      | storeResolvedConfig config workingDir =>
        exact ⟨trivial, means.storeResolvedConfig config workingDir⟩
      | _ => exact absurd allowed leaves

end HandlerPhase

/-! ### A system in which the service is left to its policy -/

/-- A startup that has failed can meet the condition. -/
def DependencyCondition.isMetByFailure : DependencyCondition → Bool
  | .serviceFailed | .serviceStopped => true
  | _ => false

/-- A token that is asked for is created, and a process is spawned. -/
def Choice.succeeds (choice : Choice) : Operation → Bool
  | .createToken _ => choice.token.isOk
  | .spawnProcess => choice.spawned.isOk
  | _ => true

namespace ServiceSystem

def Unattended (name : String) (system : ServiceSystem) : Prop :=
  ∀ id < system.nextTask, ∀ task ∈ system.tasks id, task.service ≠ name

instance (name : String) (system : ServiceSystem) : Decidable (system.Unattended name) :=
  inferInstanceAs (Decidable (∀ id < system.nextTask, ∀ task ∈ system.tasks id, _))

/-- The dependency is left to its restart policy. No user touches it, and restarts for other reasons
begin only while it is not active. The exit of a process is handled when nobody works on the
dependency and it counts as running, and is not recorded otherwise. If a failed startup could meet
the condition, restarts by the policy do not fail. -/
def LeftToPolicy (name : String) (entry : DependencyConfig) (system : ServiceSystem) : Event → Prop
  | .begin other request => other = name → request.isAutomatic ∧
      ∀ state ∈ (system.actor.cells name).state, state.status.isActive = false
  | .advance id choice => entry.condition.isMetByFailure → ∀ task ∈ system.tasks id,
      task.service = name → ∀ operation ∈ task.nextOperation, choice.succeeds operation
  | .kill _ other process _ _ => other = name →
      (system.runtime name).processes[process]? ≠ some .told
  | .deliver other => other = name → system.Unattended name ∧
      wasActivelyRunning (system.actor.cells name).state ∧
      ∀ report ∈ (system.runtime name).exits.head?, report.signal.isSome → report.exitCode = none
  | .aside input => entry.condition.isMetByFailure → input.clearsConfigs → system.Unattended name
  | .exit _ _ _ _ | .report _ _ | .revokeDropped _ => True

instance (name : String) (entry : DependencyConfig) (system : ServiceSystem) :
    (event : Event) → Decidable (system.LeftToPolicy name entry event)
  | .begin _ _ => inferInstanceAs (Decidable (_ → _ ∧ _))
  | .advance id _ => inferInstanceAs (Decidable (_ → ∀ task ∈ system.tasks id, _))
  | .kill _ _ _ _ _ => inferInstanceAs (Decidable (_ → _))
  | .deliver _ => inferInstanceAs (Decidable (_ → _ ∧ _ ∧ _))
  | .aside _ => inferInstanceAs (Decidable (_ → _ → _))
  | .exit _ _ _ _ | .report _ _ | .revokeDropped _ => isTrue trivial

variable {system : ServiceSystem} {name : String} {entry : DependencyConfig} {fails : Bool}
  {phase : HandlerPhase} {event : Event} {choice : Choice}

theorem evolves_perform {operation : Operation}
    (means : phase.Means fails (system.actor.cells name)) (allowed : phase.Allows fails operation)
    (succeeds : fails = false → choice.succeeds operation) :
    phase.Expects fails operation (system.perform name choice operation).2 ∧
      (system.actor.cells name).Evolves fails
        ((system.perform name choice operation).1.actor.cells name) ∧
      (phase.after operation).Means fails
        ((system.perform name choice operation).1.actor.cells name) := by
  have unchanged : (system.actor.cells name).Evolves fails (system.actor.cells name) :=
    (idles_of_observed rfl).evolves
  cases operation with
  | command command =>
    have handled := @HandlerPhase.Means.command fails _ (system.actor.context choice.now name) phase
      command means allowed
    change _ ∧ ServiceCell.Evolves fails _
        ((system.actor.handle choice.now name command).actor.cells name) ∧
      HandlerPhase.Means fails ((system.actor.handle choice.now name command).actor.cells name) _
    rw [ServiceActor.cells_handle_self]
    exact handled
  | createToken | spawnProcess =>
    cases phase with
    | working =>
      dsimp only [Choice.succeeds] at succeeds
      dsimp only [perform]
      split
      · exact ⟨fun _ => rfl, unchanged, means⟩
      · next failed =>
        rw [failed] at succeeds
        exact ⟨fun reliable => (by cases succeeds reliable), unchanged, means⟩
    | _ => exact allowed.elim
  | _ =>
    cases phase with
    | working => exact ⟨trivial, unchanged, means⟩
    | _ => exact allowed.elim

/-- Nobody works on the service, or it is not active and some tasks are about to find that out, or a
single task handles an exit. -/
inductive Attended (fails : Bool) (name : String) (system : ServiceSystem) : Prop where
  | idle (nobody : ∀ id task, ¬ system.Runs name id task)
  | resting (means : HandlerPhase.resting.Means fails (system.actor.cells name))
      (tasks : ∀ id task, system.Runs name id task →
        HandlerPhase.Follows fails (fun _ _ => True) task.program .resting)
  | working (id : Nat) (task : RunningTask) (recorded : Option (Option Int)) (resolved : Bool)
      (runs : system.Runs name id task)
      (only : ∀ other otherTask, system.Runs name other otherTask → other = id)
      (means : (HandlerPhase.working recorded resolved).Means fails (system.actor.cells name))
      (follows : HandlerPhase.Follows fails (fun _ _ => True) task.program
        (.working recorded resolved))

/-! ### What happens elsewhere -/

theorem idles_updateHealthCheck {cell : ServiceCell} (context : CommandContext)
    (session : HealthCheckSession) (passed : Bool) (retries : Nat) :
    cell.Idles (cell.updateHealthCheck context session passed retries).cell := by
  intro state found
  unfold updateHealthCheck
  split
  · rename_i current
    have running : state.status.isRunning := by
      have running := (Bool.and_eq_true_iff.mp current).2
      rwa [isRunning, status, found] at running
    rw [found]
    refine ⟨state.updateHealth passed retries, congrArg (Option.map _) found, ?_⟩
    exact .health running (ServiceState.isRunning_updateHealth passed retries running)
      (ServiceState.exitCode_updateHealth ..)
  · exact ⟨state, found, .kept rfl⟩

theorem idles_aside (input : Aside) :
    (system.actor.cells name).Idles ((system.actor.step input.input).cells name) := by
  by_cases about : ∃ now command, input.input = .service now name command
  · obtain ⟨now, command, same⟩ := about
    rw [same, ServiceActor.step, ServiceActor.cells_handle_self]
    cases input with
    | healthEvent time service session event =>
      cases same
      change ServiceCell.Idles _ (emitHealthCheckEvent _ _ session event).cell
      unfold emitHealthCheckEvent
      split
      · exact idles_of_observed rfl
      · exact idles_of_observed rfl
    | healthResult time service session passed retries =>
      cases same
      exact idles_updateHealthCheck _ session passed retries
    | _ => cases same
  · obtain ⟨resolved, watcher, eventSender, same⟩ := system.actor.cells_step_of_elsewhere
      fun now command same => about ⟨now, command, same⟩
    rw [same]
    exact idles_of_observed rfl

/-- The event is no step of a task on the dependency, and no task on it is new. -/
def Elsewhere (name : String) (system : ServiceSystem) : Event → Prop
  | .begin other _ | .deliver other => other ≠ name
  | .advance id _ => ∀ task, ¬ system.Runs name id task
  | _ => True

section

variable {task : RunningTask} (away : system.Elsewhere name event)

include away

theorem runs_step_elsewhere (unused : system.Unused) {id : Nat} :
    (system.step event).Runs name id task ↔ system.Runs name id task := by
  constructor
  · intro runs
    cases runs_step runs with
    | kept runs => exact runs
    | went before choice operation next earlier => exact absurd earlier (away before)
    | begun | delivered => exact absurd rfl away
  · intro runs
    refine ⟨?_, runs.2⟩
    rw [tasks_step_of_other (lt_nextTask unused runs.1), runs.1]
    rintro choice rfl
    exact away task runs

variable (left : system.LeftToPolicy name entry event)

include left

theorem cells_step_elsewhere (inner : ∀ input, event ≠ .aside input) :
    (system.step event).actor.cells name = system.actor.cells name := by
  cases event with
  | begin =>
    rw [step]
    split <;> rfl
  | advance id choice =>
    change (system.advance id choice).actor.cells name = _
    cases found : system.tasks id with
    | none => simp only [advance, found]
    | some task => ?_
    have different : name ≠ task.service := fun same => away task ⟨found, same.symm⟩
    obtain ⟨new, left, same, rfl | ⟨operation, rfl⟩, _⟩ := advance_cases found choice
    · rw [same]
    · rw [same]
      exact cells_perform_of_ne different ..
  | deliver =>
    rw [step, deliverExit]
    split <;> rfl
  | exit => rw [step, (frame_exitProcess ..).1]
  | report => rw [step, (frame_reportExit ..).1]
  | revokeDropped => rw [step, (frame_revokeFirstDropped ..).1]
  | kill now service =>
    rw [step, killTold]
    split
    · rename_i told
      have different : name ≠ service := by
        rintro rfl
        exact left rfl told
      exact ServiceActor.cells_handle_of_ne _ _ different _
    · rfl
  | aside input => exact absurd rfl (inner input)

theorem resolved_step_elsewhere {id : Nat} (unused : system.Unused)
    (runs : system.Runs name id task) (reliable : entry.condition.isMetByFailure) :
    ((system.step event).actor.cells name).resolved = (system.actor.cells name).resolved := by
  by_cases inner : ∃ input, event = .aside input
  · obtain ⟨input, rfl⟩ := inner
    refine (sameButHealth_aside ?_).resolved
    rintro rfl
    exact left reliable rfl id (lt_nextTask unused runs.1) task runs.1 runs.2
  · rw [cells_step_elsewhere away left fun input same => inner ⟨input, same⟩]

theorem idles_step_elsewhere :
    (system.actor.cells name).Idles ((system.step event).actor.cells name) := by
  by_cases inner : ∃ input, event = .aside input
  · obtain ⟨input, rfl⟩ := inner
    exact idles_aside input
  · rw [cells_step_elsewhere away left fun input same => inner ⟨input, same⟩]
    exact idles_of_observed rfl

/-- What happens elsewhere changes nothing about how the dependency is attended to. -/
theorem Attended.elsewhere (attended : Attended fails name system) (unused : system.Unused)
    (kind : fails = !entry.condition.isMetByFailure) : Attended fails name (system.step event) := by
  have idles := idles_step_elsewhere away left
  have same {id task} := @runs_step_elsewhere system name event task away unused id
  cases attended with
  | idle nobody => exact .idle fun id task runs => nobody id task (same.mp runs)
  | resting means tasks =>
    obtain ⟨state, found, inactive⟩ := means
    obtain ⟨after, found, idles⟩ := idles state found
    exact .resting ⟨after, found, idles.inactive inactive⟩
      fun id task runs => tasks id task (same.mp runs)
  | working id task recorded resolved runs only means follows =>
    refine .working id task recorded resolved (same.mpr runs)
      (fun other otherTask runs => only other otherTask (same.mp runs))
      (means.idles idles fun reliable stored => ?_) follows
    have met : entry.condition.isMetByFailure := by simpa [kind] using reliable
    rw [resolved_step_elsewhere away left unused runs met]
    exact stored

end

variable {task : RunningTask}

/-! ### What the tasks on the dependency do -/

theorem Attended.begin (attended : Attended fails name system)
    (left : system.LeftToPolicy name entry (.begin name request)) :
    Attended fails name (system.step (.begin name request)) := by
  obtain ⟨automatic, inactive⟩ := left rfl
  have added : ∀ id task, (system.step (.begin name request)).Runs name id task →
      system.Runs name id task ∨
        HandlerPhase.Follows fails (fun _ _ => True) task.program .resting := by
    intro id task runs
    cases runs_step runs with
    | kept earlier => exact .inl earlier
    | begun request same =>
      rw [same]
      exact .inr (HandlerPhase.follows_automatic name automatic)
  cases found : (system.actor.cells name).state with
  | none =>
    have same : system.step (.begin name request) = system := by
      rw [step, found]
      rfl
    rw [same]
    exact attended
  | some state =>
    have means : HandlerPhase.resting.Means fails
        ((system.step (.begin name request)).actor.cells name) := by
      refine ⟨state, ?_, inactive state found⟩
      rw [step]
      split
      · exact found
      · exact found
    refine .resting means fun id task runs => ?_
    rcases added id task runs with earlier | follows
    · cases attended with
      | idle nobody => exact absurd earlier (nobody id task)
      | resting _ tasks => exact tasks id task earlier
      | working _ _ _ _ _ _ means =>
        obtain ⟨⟨other, known, active, _⟩, _⟩ := means
        cases found.symm.trans known
        rw [(ServiceState.status_of_not_active (inactive state found)).2] at active
        cases active
    · exact follows

theorem Attended.deliver (attended : Attended fails name system) (unused : system.Unused)
    (left : system.LeftToPolicy name entry (.deliver name)) :
    Attended fails name (system.step (.deliver name)) := by
  obtain ⟨unattended, active, plain⟩ := left rfl
  have nobody : ∀ id task, ¬ system.Runs name id task := fun id task runs =>
    unattended id (lt_nextTask unused runs.1) task runs.1 runs.2
  rw [step, deliverExit]
  split
  · exact attended
  · rename_i exit rest pending
    rw [pending] at plain
    obtain ⟨state, found, _⟩ := (any_eq_true ..).mp active
    refine .working system.nextTask _ none false ⟨update_self .., rfl⟩ ?_
      ⟨⟨state, found, found ▸ active, fun _ same => by cases same⟩, fun _ same => by cases same⟩
      (HandlerPhase.follows_handleExit name (plain exit rfl))
    intro other task runs
    by_contra different
    exact nobody other task ((runs_of_update rfl different task).mp runs)

theorem Attended.idle_of_ended {new : ServiceSystem} {id : Nat}
    (only : ∀ other otherTask, system.Runs name other otherTask → other = id)
    (tasks : new.tasks = Function.update system.tasks id none) : Attended fails name new := by
  refine .idle fun other otherTask runs => ?_
  by_cases same : other = id
  · rw [same] at runs
    cases (congrFun tasks id ▸ update_self ..).symm.trans runs.1
  · exact same (only other otherTask ((runs_of_update tasks same otherTask).mp runs))

theorem Attended.work {id : Nat} {operation : Operation} {next : operation.Reply → Lifecycle Unit}
    {recorded : Option (Option Int)} {resolved : Bool} (runs : system.Runs name id task)
    (only : ∀ other otherTask, system.Runs name other otherTask → other = id)
    (program : task.program = Program.perform operation next)
    (means : ((HandlerPhase.working recorded resolved).after operation).Means fails
      ((system.perform name choice operation).1.actor.cells name))
    (follows : HandlerPhase.Follows fails (fun _ _ => True)
      (next (system.perform name choice operation).2)
      ((HandlerPhase.working recorded resolved).after operation)) :
    Attended fails name (system.advance id choice) := by
  have advanced := advance_of_perform runs.1 program choice
  rw [runs.2] at advanced
  cases rest : next (system.perform ..).2 with
  | done | fail =>
    rw [advanced, rest]
    exact .idle_of_ended only rfl
  | perform operation' next' =>
    rw [rest] at follows advanced
    obtain ⟨recorded', resolved', goesOn⟩ | ended := HandlerPhase.after_working operation
    · rw [goesOn] at means follows
      rw [advanced]
      refine .working id { task with program := Program.perform operation' next', fresh := false }
        recorded' resolved' ⟨update_self .., runs.2⟩ ?_ means follows
      intro other otherTask later
      by_contra different
      exact different (only other otherTask ((runs_of_update rfl different otherTask).mp later))
    · rw [ended] at follows
      exact follows.1.elim

theorem Attended.ends {id : Nat} (attended : Attended fails name system)
    (runs : system.Runs name id task) :
    Attended fails name { system with tasks := Function.update system.tasks id none } := by
  cases attended with
  | idle nobody => exact absurd runs (nobody id task)
  | resting means rest =>
    refine .resting means fun other otherTask later => ?_
    by_cases here : other = id
    · rw [here] at later
      cases (update_self ..).symm.trans later.1
    · exact rest other otherTask ((runs_of_update rfl here otherTask).mp later)
  | working worker _ _ _ _ only =>
    cases only id task runs
    exact .idle_of_ended only rfl

theorem Attended.look {id : Nat} {operation : Operation} {next : operation.Reply → Lifecycle Unit}
    (runs : system.Runs name id task) (program : task.program = Program.perform operation next)
    (means : HandlerPhase.resting.Means fails
      ((system.perform name choice operation).1.actor.cells name))
    (rest : ∀ other otherTask, system.Runs name other otherTask →
      HandlerPhase.Follows fails (fun _ _ => True) otherTask.program .resting)
    (follows : HandlerPhase.Follows fails (fun _ _ => True)
      (next (system.perform name choice operation).2) .resting) :
    Attended fails name (system.advance id choice) := by
  have advanced := advance_of_perform runs.1 program choice
  rw [runs.2] at advanced
  refine .resting (by rw [advanced]; exact means) fun other otherTask later => ?_
  cases runs_advance later with
  | kept earlier => exact rest other otherTask earlier
  | went before _ _ _ earlier performed same =>
    cases runs.1.symm.trans earlier.1
    cases program.symm.trans performed
    rw [same]
    exact follows

theorem Attended.advance {id : Nat} (attended : Attended fails name system)
    (runs : system.Runs name id task) (kind : fails = !entry.condition.isMetByFailure)
    (left : system.LeftToPolicy name entry (.advance id choice)) :
    Attended fails name (system.advance id choice) ∧
      (system.actor.cells name).Evolves fails ((system.advance id choice).actor.cells name) := by
  cases program : task.program with
  | done | fail =>
    rw [advance_of_ended runs.1 program rfl]
    exact ⟨attended.ends runs, (idles_of_observed rfl).evolves⟩
  | perform operation next =>
    have succeeds : fails = false → choice.succeeds operation := by
      intro reliable
      refine left (by simpa [kind] using reliable) task runs.1 runs.2 operation ?_
      rw [RunningTask.nextOperation, program]
      rfl
    have cells : (system.advance id choice).actor.cells name =
        (system.perform name choice operation).1.actor.cells name := by
      rw [advance_of_perform runs.1 program, runs.2]
    rw [cells]
    cases attended with
    | idle nobody => exact absurd runs (nobody id task)
    | resting means rest =>
      have follows := rest id task runs
      rw [program] at follows
      obtain ⟨expected, evolves, after⟩ := evolves_perform means follows.1 succeeds
      exact ⟨.look runs program after rest (follows.2 _ _ ⟨expected, rfl⟩), evolves⟩
    | working worker workerTask recorded resolved working only means follows =>
      cases only id task runs
      cases runs.1.symm.trans working.1
      rw [program] at follows
      obtain ⟨expected, evolves, after⟩ := evolves_perform means follows.1 succeeds
      exact ⟨.work runs only program after (follows.2 _ _ ⟨expected, rfl⟩), evolves⟩

theorem Attended.step (attended : Attended fails name system) (unused : system.Unused)
    (kind : fails = !entry.condition.isMetByFailure)
    (left : system.LeftToPolicy name entry event) :
    Attended fails name (system.step event) ∧
      (system.actor.cells name).Evolves fails ((system.step event).actor.cells name) := by
  by_cases elsewhere : system.Elsewhere name event
  · exact ⟨attended.elsewhere elsewhere left unused kind,
      (idles_step_elsewhere elsewhere left).evolves⟩
  cases event with
  | begin =>
    cases not_not.mp elsewhere
    refine ⟨attended.begin left, (idles_of_observed ?_).evolves⟩
    rw [ServiceSystem.step]
    split <;> rfl
  | deliver other =>
    cases not_not.mp elsewhere
    refine ⟨attended.deliver unused left, (idles_of_observed ?_).evolves⟩
    rw [ServiceSystem.step, deliverExit]
    split <;> rfl
  | advance =>
    obtain ⟨task, runs⟩ := not_forall_not.mp elsewhere
    exact attended.advance runs kind left
  | _ => exact absurd trivial elsewhere

end ServiceSystem

end Kepler
