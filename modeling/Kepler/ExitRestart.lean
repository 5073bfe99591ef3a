/-
This file is about the task that handles the exit of a process while it has the service for itself.
It follows what the task knows: the status of the service, the process whose handle the actor holds,
and the process that was spawned last.

The task ends with a live process in a running status or with a status that says how the service
ended, with two exceptions: when the delay before a restart or the config for it cannot be computed,
it leaves the service in the status of a start.
-/

import Kepler.Turns

namespace Kepler

open Runs Lifecycle ServiceCell Option Program ServiceView Function

/-! ### What the task knows -/

/-- What a task knows that handles an exit alone: the status of the service, the process whose
handle the actor holds (once the exit is recorded), the process that was spawned and is not stored
yet, and whether the config was computed again. -/
structure ExitPhase where
  status : ServiceStatus
  process : Option (Option ProcessId) := none
  spawned : Option ProcessId := none
  resolved : Bool := false

namespace ExitPhase

variable (phase : ExitPhase)

def AllowsCommand : ServiceCommand → Prop
  | .getServiceContext | .takeMatchingTokenGuard _ | .storeTokenGuard _ | .setServiceStatus _
  | .registerServiceInstance _ _ | .storeResolvedConfig _ _ => True
  | .recordProcessExit _ _ => phase.spawned = none
  | .storeProcessHandle handle =>
    phase.process = some none ∧ phase.spawned = some handle.process
  | command => command.isNeutral

def Allows : Operation → Prop
  | .command request => phase.AllowsCommand request
  | .killProcess _ | .requestShutdown _ | .awaitDependencies => False
  | _ => True

def ExpectsReply : (command : ServiceCommand) → command.Reply → Prop
  | .getServiceContext => fun reply => ∃ context, reply = some context ∧
      (phase.resolved → context.resolvedConfig.isSome)
  | .getServiceState => fun reply => ∃ state, reply = some state ∧
      (state.status = phase.status ∨ state.status.isRunning ∧ phase.status.isRunning)
  | .registerServiceInstance _ _ => fun reply => reply.isOk
  | _ => fun _ => True

def Expects (outcomes : Operation → Choice) : (operation : Operation) → operation.Reply → Prop
  | .command request => phase.ExpectsReply request
  | .resolveService => fun reply => reply.isOk = (outcomes .resolveService).resolution.isOk
  | .createToken permissions => fun reply =>
      reply.isOk = (outcomes (.createToken permissions)).token.isOk
  | .backoff => fun reply => reply.isOk = (outcomes .backoff).outcome.isOk
  | _ => fun _ => True

def afterCommand : ServiceCommand → ExitPhase
  | .setServiceStatus status => { phase with status }
  | .recordProcessExit _ _ => { phase with process := some none }
  | .storeResolvedConfig _ _ => { phase with resolved := true }
  | .storeProcessHandle handle =>
    { phase with process := some (some handle.process), spawned := none }
  | _ => phase

def after : (operation : Operation) → operation.Reply → ExitPhase
  | .command request => fun _ => phase.afterCommand request
  | .spawnProcess => fun
    | .ok spawned => { phase with spawned := some spawned.handle.process }
    | .error _ => phase
  | _ => fun _ => phase

def protocol (outcomes : Operation → Choice) : Program.Protocol Operation.Reply ExitPhase where
  Allowed := Allows
  Next phase operation reply following :=
    phase.Expects outcomes operation reply ∧ following = phase.after operation reply

abbrev Follows (outcomes : Operation → Choice) {Result : Type}
    (post : Except OrchestratorError Result → ExitPhase → Prop) (program : Lifecycle Result)
    (phase : ExitPhase) : Prop :=
  Program.Follows (protocol outcomes) post program phase

/-! ### How the task ends -/

end ExitPhase

def ServiceStatus.isEnd : ServiceStatus → Bool
  | .stopped | .exited | .failed | .killed => true
  | _ => false

theorem ServiceStatus.isRunning_of_isEnd {status : ServiceStatus} (ended : status.isEnd) :
    status.isRunning = false := by
  cases status <;> first | rfl | cases ended

variable {context : FetchedContext} {operation : Operation}

namespace ExitPhase

variable {phase : ExitPhase} {outcomes : Operation → Choice} {Result : Type}
  {post : Except OrchestratorError Result → ExitPhase → Prop}
  {continuation : Unit → Lifecycle Result}

def Settled (phase : ExitPhase) : Prop :=
  (∃ process, phase.process = some (some process)) ∧ phase.status.isRunning ∨ phase.status.isEnd

def Abandoned (phase : ExitPhase) : Prop :=
  phase.process = some none ∧ phase.status = .starting

def Ends (completes : Prop) (phase : ExitPhase) : Prop :=
  (completes → phase.Settled) ∧ (¬ completes → phase.Abandoned)

theorem ends_of_settled {completes : Prop} (holds : completes) (settled : phase.Settled) :
    phase.Ends completes :=
  ⟨fun _ => settled, fun fails => absurd holds fails⟩

theorem follows_operation {continuation : operation.Reply → Lifecycle Result}
    (allowed : phase.Allows operation) (rest : ∀ reply, phase.Expects outcomes operation reply →
      Follows outcomes post (continuation reply) (phase.after operation reply)) :
    Follows outcomes post (perform operation >>= continuation) phase :=
  follows_call_bind allowed (fun _ _ leads => leads) rest

theorem follows_hook {hookType : ServiceHookType}
    (rest : Follows outcomes post (continuation ()) phase) :
    Follows outcomes post (hook hookType >>= continuation) phase :=
  follows_operation trivial fun _ _ => rest

theorem follows_spawnAuxiliaryTasks (context : FetchedContext) (attached : ServiceInstance)
    (rest : Follows outcomes post (continuation ()) phase) :
    Follows outcomes post (spawnAuxiliaryTasks context attached >>= continuation)
      phase := by
  refine follows_bind_of
    ((only_spawnAuxiliaryTasks ..).follows ?_)
    (fun _ _ holds => holds.2 ▸ rest) fun _ _ holds => nomatch holds.1
  intro operation neutral
  refine ⟨?_, ?_⟩
  · cases operation with
    | command command => cases command <;> first | exact neutral | cases neutral
    | _ => first | exact trivial | cases neutral
  · rintro reply following ⟨_, rfl⟩
    cases operation with
    | command command => cases command <;> first | rfl | cases neutral
    | _ => first | rfl | cases neutral

theorem follows_revokeMatching (token : Option Token) :
    Follows outcomes (fun outcome following => (∃ result, outcome = .ok result) ∧ following = phase)
      (revokeMatching token) phase := by
  cases token with
  | none => exact ⟨⟨(), rfl⟩, rfl⟩
  | some token =>
    refine follows_operation trivial fun taken _ => ?_
    cases taken with
    | none => exact ⟨⟨(), rfl⟩, rfl⟩
    | some token => exact ⟨trivial, fun _ _ leads => ⟨⟨(), rfl⟩, leads.2⟩⟩

/-- The exit is handled to an end: the service is not restarted, or the delay can be computed and
there is no token for the restart or the config can be computed. -/
def Completes (outcomes : Operation → Choice) (context : FetchedContext) (exitCode : Option Int) :
    Prop :=
  restartsOnExit context exitCode = false ∨ (outcomes .backoff).outcome.isOk ∧
    ((∃ permissions ∈ context.resolvedConfig.bind ServiceConfig.permissions,
      (outcomes (.createToken permissions)).token.isOk = false) ∨
    (outcomes .resolveService).resolution.isOk)

theorem follows_tokenOf (service : String) (context : FetchedContext) :
    Follows outcomes (fun outcome following => following = phase ∧
      (outcome.isOk = false → ∃ permissions ∈ context.resolvedConfig.bind ServiceConfig.permissions,
        (outcomes (.createToken permissions)).token.isOk = false) ∧
      (outcome.isOk → ∀ permissions ∈ context.resolvedConfig.bind ServiceConfig.permissions,
        (outcomes (.createToken permissions)).token.isOk))
      (tokenOf service context) phase := by
  unfold tokenOf
  cases resolved : context.resolvedConfig with
  | none => exact ⟨rfl, nofun, fun _ => nofun⟩
  | some config => ?_
  dsimp only
  unfold createServiceTokenGuard
  cases permitted : config.permissions with
  | none =>
    refine ⟨rfl, nofun, fun _ permissions member => ?_⟩
    rw [bind_some, permitted] at member
    cases member
  | some permissions =>
    have member : permissions ∈ (some config).bind ServiceConfig.permissions := permitted
    refine follows_operation trivial fun created expected => ?_
    have expected : created.isOk = (outcomes (.createToken permissions)).token.isOk := expected
    cases created with
    | error => exact ⟨rfl, fun _ => ⟨permissions, member, expected.symm⟩, nofun⟩
    | ok token =>
      refine follows_operation trivial fun _ _ => ⟨rfl, nofun, fun _ other found => ?_⟩
      cases (mem_unique member found : permissions = other)
      exact expected.symm

theorem follows_spawnServiceWithTokenGuard (resolved : context.resolvedConfig.isSome)
    (cleared : phase.process = some none) (token : Option Token) :
    Follows outcomes (fun outcome following => outcome.isOk →
        (∃ process, following.process = some (some process)) ∧ following.status = .running)
      (spawnServiceWithTokenGuard context token) phase := by
  obtain ⟨config, found⟩ := isSome_iff_exists.mp resolved
  unfold spawnServiceWithTokenGuard
  rw [found]
  refine follows_operation trivial fun spawned _ => ?_
  cases spawned with
  | error =>
    exact follows_bind_of (follows_revokeMatching token) (fun _ _ _ => nofun)
      fun _ _ _ => nofun
  | ok =>
    refine follows_operation trivial fun registered expected => ?_
    cases registered with
    | error => cases expected
    | ok =>
      refine follows_operation ⟨cleared, rfl⟩ fun _ _ => ?_
      exact follows_operation trivial fun _ _ => fun _ => ⟨⟨_, rfl⟩, rfl⟩

theorem follows_respawn (resolved : context.resolvedConfig.isSome)
    (cleared : phase.process = some none) :
    Follows outcomes (fun _ following => following.Settled) (respawn context) phase := by
  refine follows_attempt_bind
    (follows_spawnServiceWithTokenGuard resolved cleared context.token) ?_
  intro outcome following spawned
  cases outcome with
  | error => exact follows_operation trivial fun _ _ => .inr rfl
  | ok registered =>
    refine follows_hook (follows_hook (follows_spawnAuxiliaryTasks context registered ?_))
    exact follows_operation trivial fun _ _ => .inl ⟨(spawned rfl).1, rfl⟩

theorem follows_reResolveService :
    Follows outcomes (fun outcome following =>
        outcome.isOk = (outcomes .resolveService).resolution.isOk ∧
        following.process = phase.process ∧ following.status = phase.status ∧
        ∀ context, outcome = .ok context → context.resolvedConfig.isSome)
      reResolveService phase := by
  refine follows_operation trivial fun found expected => ?_
  obtain ⟨before, rfl, _⟩ := expected
  refine follows_operation trivial fun answer expected => ?_
  have expected : answer.isOk = (outcomes .resolveService).resolution.isOk := expected
  cases answer with
  | error =>
    refine ⟨expected, rfl, rfl, fun context same => ?_⟩
    cases same
  | ok =>
    refine follows_operation trivial fun _ _ => follows_operation trivial fun refreshed found => ?_
    obtain ⟨context, rfl, resolved⟩ := found
    refine ⟨expected, rfl, rfl, fun other same => ?_⟩
    cases same
    exact resolved rfl

theorem follows_restartAfterExit (service : String) (context : FetchedContext)
    (exitCode : Option Int) (restarts : restartsOnExit context exitCode)
    (cleared : phase.process = some none) :
    Follows outcomes (fun _ following => following.Ends (Completes outcomes context exitCode))
      (restartAfterExit service context exitCode) phase := by
  refine follows_operation rfl fun _ _ => follows_operation rfl fun _ _ => ?_
  refine follows_operation trivial fun _ _ => follows_operation trivial fun delayed expected => ?_
  have expected : delayed.isOk = (outcomes .backoff).outcome.isOk := expected
  cases delayed with
  | error =>
    refine ⟨fun completes => ?_, fun _ => ⟨cleared, rfl⟩⟩
    obtain stays | ⟨computes, _⟩ := completes
    · rw [restarts] at stays
      cases stays
    · rw [computes] at expected
      cases expected
  | ok => ?_
  have delays : (outcomes .backoff).outcome.isOk := expected.symm
  refine follows_operation rfl fun _ _ => ?_
  refine follows_attempt_bind (follows_tokenOf ..) ?_
  rintro created following ⟨rfl, failed, passed⟩
  cases created with
  | error =>
    exact follows_operation trivial fun _ _ =>
      ends_of_settled (.inr ⟨delays, .inl (failed rfl)⟩) (.inr rfl)
  | ok token =>
    refine follows_hook (follows_hook ?_)
    refine follows_bind_of follows_reResolveService ?_ ?_
    · rintro refreshed following ⟨computed, process, status, resolved⟩
      have completes : Completes outcomes context exitCode := .inr ⟨delays, .inr computed.symm⟩
      exact (follows_respawn (resolved refreshed rfl) (process.trans cleared)).mono
        fun _ _ settled => ends_of_settled completes settled
    · rintro failure following ⟨computed, process, status, _⟩
      refine ⟨fun completes => ?_, fun _ => ⟨process.trans cleared, status⟩⟩
      -- The restart goes on up to here, and the config is not computed.
      obtain stays | ⟨_, ⟨permissions, member, fails⟩ | computes⟩ := completes
      · rw [restarts] at stays
        cases stays
      · rw [passed rfl permissions member] at fails
        cases fails
      · rw [computes] at computed
        cases computed

/-- `handle_exit`, once the context of the service is there. -/
def handleFetched (service : String) (exitCode signal : Option Int) :
    Option FetchedContext → Lifecycle Unit
  | none => pure ()
  | some context => do
    command (.emitEvent (.exit exitCode))
    let _ ← command .takeOutputTasks
    let _ ← command (.recordProcessExit exitCode signal)
    decideExit service context exitCode signal

theorem follows_handleFetched (service : String) (context : FetchedContext)
    (exitCode signal : Option Int) (active : phase.status.isRunning ∨ phase.status = .starting)
    (fresh : phase.spawned = none) :
    Follows outcomes (fun _ following => following.Ends (Completes outcomes context exitCode))
      (handleFetched service exitCode signal (some context)) phase := by
  refine follows_operation rfl fun _ _ => follows_operation rfl fun _ _ => ?_
  refine follows_operation fresh fun _ _ => follows_hook ?_
  refine follows_bind_of (follows_revokeMatching context.token)
    (fun _ following same => ?_) fun _ _ ended => nomatch ended.1
  rw [same.2]
  refine follows_operation rfl fun found expected => ?_
  obtain ⟨state, rfl, known⟩ := expected
  have counts : wasActivelyRunning (some state) := by
    have counted : state.status.isRunning ∨ state.status = .starting := by
      obtain same | ⟨running, _⟩ := known
      · rw [same]
        exact active
      · exact .inl running
    exact Bool.or_eq_true_iff.mpr (counted.imp id decide_eq_true)
  rw [counts, Bool.true_and]
  cases restarts : restartsOnExit context exitCode with
  | true =>
    rw [if_pos rfl]
    exact follows_restartAfterExit service context exitCode restarts rfl
  | false =>
    rw [if_neg Bool.false_ne_true]
    refine follows_operation trivial fun _ _ => ends_of_settled (.inl restarts) (.inr ?_)
    cases signal <;> rfl

/-! ### What the task knows is the case -/

structure Means (view : ServiceView) (phase : ExitPhase) : Prop where
  status : view.cell.status = some phase.status ∨
    view.cell.isRunning ∧ phase.status.isRunning
  process : ∀ held, phase.process = some held → view.cell.holder = held ∧
    ∀ process, held = some process → view.runtime.Live process
  spawned : ∀ process, phase.spawned = some process → view.runtime.Live process
  resolved : phase.resolved → view.cell.resolved.isSome

variable {view new : ServiceView} {context : CommandContext}

section

variable (means : phase.Means view)

include means

theorem Means.status_kept
    (status : new.cell.status = view.cell.status ∨ view.cell.isRunning ∧ new.cell.isRunning) :
    new.cell.status = some phase.status ∨ new.cell.isRunning ∧ phase.status.isRunning := by
  obtain same | ⟨before, after⟩ := status
  · unfold isRunning
    rw [same]
    exact means.status
  · refine .inr ⟨after, ?_⟩
    obtain status | ⟨_, running⟩ := means.status
    · rw [isRunning, status] at before
      exact before
    · exact running

theorem Means.kept
    (status : new.cell.status = view.cell.status ∨ view.cell.isRunning ∧ new.cell.isRunning)
    (holder : new.cell.holder = view.cell.holder)
    (processes : new.runtime.processes = view.runtime.processes)
    (resolved : view.cell.resolved.isSome → new.cell.resolved.isSome) : phase.Means new := by
  have live : ∀ process, view.runtime.Live process → new.runtime.Live process := by
    unfold ServiceRuntime.Live
    rw [processes]
    exact fun _ live => live
  refine ⟨means.status_kept status, fun held known => ?_,
    fun process known => live process (means.spawned process known),
    fun done => resolved (means.resolved done)⟩
  rw [holder]
  exact ⟨(means.process held known).1, fun process same =>
    live process ((means.process held known).2 process same)⟩

theorem Means.standing {command : ServiceCommand} (other : command.entersStatus = false)
    (standing : KeepsStanding view.cell (view.cell.handle context command)) :
    phase.Means (view.commanded context command) := by
  have keeps := keeps_commanded standing.toKeepsHoldings
  exact means.kept (keepsClaim_handle other).status keeps.holder
    (congrArg ServiceRuntime.processes keeps.runtime) fun before => standing.resolved ▸ before

theorem Means.neutral {command : ServiceCommand} (neutral : command.isNeutral) :
    phase.Means (view.commanded context command) := by
  refine means.standing ?_ (keepsStanding_of_neutral neutral)
  cases command <;> first | rfl | cases neutral

theorem Means.takeMatchingTokenGuard (token : Token) :
    phase.Means (view.commanded context (.takeMatchingTokenGuard token)) := by
  by_cases matching : view.cell.tokenGuard = some token
  · have taken : view.cell.handle context (.takeMatchingTokenGuard token) =
        { cell := { view.cell with tokenGuard := none }, reply := some token } := if_pos matching
    rw [commanded_of_outcome taken]
    exact ⟨means.status, means.process, means.spawned, means.resolved⟩
  · have left : view.cell.handle context (.takeMatchingTokenGuard token) =
        { cell := view.cell, reply := none } := if_neg matching
    rw [commanded_of_outcome left]
    exact means

theorem Means.setServiceStatus (known : view.cell.state.isSome) (status : ServiceStatus) :
    Means (view.commanded context (.setServiceStatus status)) { phase with status } := by
  obtain ⟨state, known⟩ := isSome_iff_exists.mp known
  have holdings : KeepsHoldings view.cell (view.cell.handle context (.setServiceStatus status)) :=
    keepsHoldings_setServiceStatus status
  have keeps := keeps_commanded holdings
  refine ⟨.inl (setStatus_of_state known context.now status).1, ?_, ?_, ?_⟩
  · rw [keeps.holder, keeps.runtime]
    exact means.process
  · rw [keeps.runtime]
    exact means.spawned
  · exact fun done => holdings.resolved ▸ means.resolved done

theorem Means.recordProcessExit (fresh : phase.spawned = none) (exitCode signal : Option Int) :
    Means (view.commanded context (.recordProcessExit exitCode signal))
      { phase with process := some none } := by
  refine ⟨means.status_kept (keepsClaim_handle rfl).status, ?_, ?_, means.resolved⟩
  · intro held same
    cases same
    exact ⟨rfl, nofun⟩
  · intro process spawned
    rw [fresh] at spawned
    cases spawned

theorem Means.storeProcessHandle {handle : ProcessHandle} (cleared : phase.process = some none)
    (spawned : phase.spawned = some handle.process) :
    Means (view.commanded context (.storeProcessHandle handle))
      { phase with process := some (some handle.process), spawned := none } := by
  have unheld : view.cell.process = none := map_eq_none_iff.mp (means.process none cleared).1
  have runtime : (view.commanded context (.storeProcessHandle handle)).runtime = view.runtime := by
    change view.runtime.absorbAll view.cell.droppedHandle = view.runtime
    rw [droppedHandle, unheld]
    rfl
  refine ⟨means.status, ?_, (fun _ same => by cases same), means.resolved⟩
  rintro held same
  cases same
  refine ⟨rfl, fun process same => ?_⟩
  rw [runtime, ← some.inj same]
  exact means.spawned handle.process spawned

theorem Means.command (known : view.cell.state.isSome) (configured : context.config.isSome)
    {command : ServiceCommand} (allowed : phase.AllowsCommand command) :
    phase.ExpectsReply command (view.cell.handle context command).reply ∧
      (phase.afterCommand command).Means (view.commanded context command) := by
  cases command with
  | getServiceContext =>
    obtain ⟨raw, workingDir, built⟩ := buildServiceContext_of_known known configured
    exact ⟨⟨_, built, means.resolved⟩,
      means.kept (keepsClaim_handle rfl).status rfl rfl id⟩
  | getServiceState =>
    obtain ⟨state, known⟩ := isSome_iff_exists.mp known
    refine ⟨⟨state, known, ?_⟩, means.neutral rfl⟩
    have status : view.cell.status = some state.status := congrArg _ known
    obtain same | ⟨running, phaseRunning⟩ := means.status
    · exact .inl (some.inj (status.symm.trans same))
    · rw [isRunning, status] at running
      exact .inr ⟨running, phaseRunning⟩
  | takeMatchingTokenGuard token => exact ⟨trivial, means.takeMatchingTokenGuard token⟩
  | storeTokenGuard token =>
    refine ⟨trivial, means.kept (keepsClaim_handle rfl).status rfl ?_ id⟩
    change (view.runtime.absorbAll view.cell.droppedGuard).processes = _
    rw [Custody.absorbAll_droppedGuard]
  | setServiceStatus status => exact ⟨trivial, means.setServiceStatus known status⟩
  | registerServiceInstance pid startedAt =>
    have registered := @registerServiceInstance_of_known _ context known pid startedAt
    exact ⟨registered.1, means.standing rfl registered.2⟩
  | storeResolvedConfig config workingDir =>
    have kept : phase.Means (view.commanded context (.storeResolvedConfig config workingDir)) :=
      means.kept (keepsClaim_handle rfl).status rfl rfl fun _ => rfl
    exact ⟨trivial, kept.status, kept.process, kept.spawned, fun _ => rfl⟩
  | recordProcessExit exitCode signal =>
    exact ⟨trivial, means.recordProcessExit allowed exitCode signal⟩
  | storeProcessHandle handle => exact ⟨trivial, means.storeProcessHandle allowed.1 allowed.2⟩
  | _ => exact ⟨trivial, means.neutral allowed⟩

end

end ExitPhase

namespace ServiceSystem

variable {system : ServiceSystem} {service : String} {phase : ExitPhase}
  {outcomes : Operation → Choice} {choice : Choice}

theorem means_spawn (means : phase.Means (system.view service)) :
    ExitPhase.Means ((system.withRuntime service fun runtime =>
        { runtime with processes := runtime.processes ++ [.running] }).view service)
      { phase with spawned := some (system.nextProcess service) } := by
  have live : ∀ process, (system.runtime service).Live process →
      ((system.runtime service).processes ++ [.running])[process]? = some .running := by
    intro process live
    rw [List.getElem?_append_left (List.getElem?_eq_some_iff.mp live).1]
    exact live
  rw [view_withRuntime_self]
  refine ⟨means.status, fun held known => ?_, fun process same => ?_, means.resolved⟩
  · obtain ⟨holder, lives⟩ := means.process held known
    exact ⟨holder, fun process same => live process (lives process same)⟩
  · cases same
    exact List.getElem?_concat_length

/-- What is decided outside about the delay, a token and the config is as given. -/
def Agrees (outcomes : Operation → Choice) (choice : Choice) : Operation → Prop
  | .resolveService => choice.resolution.isOk = (outcomes .resolveService).resolution.isOk
  | .createToken permissions =>
    choice.token.isOk = (outcomes (.createToken permissions)).token.isOk
  | .backoff => choice.outcome.isOk = (outcomes .backoff).outcome.isOk
  | _ => True

instance (outcomes : Operation → Choice) (choice : Choice) :
    (operation : Operation) → Decidable (Agrees outcomes choice operation)
  | .resolveService | .createToken _ | .backoff => inferInstanceAs (Decidable (_ = _))
  | .command _ | .runHook _ | .revokeToken _ | .spawnProcess | .killProcess _ | .requestShutdown _
  | .awaitShutdown _ | .clearProcessOutputs | .spawnTask | .awaitDependencies
  | .awaitDependencyRestart | .sleep => isTrue trivial

theorem means_perform (means : phase.Means (system.view service)) (known : system.Knows service)
    (allowed : phase.Allows operation) (agrees : Agrees outcomes choice operation) :
    phase.Expects outcomes operation (system.perform service choice operation).2 ∧
      (phase.after operation (system.perform service choice operation).2).Means
        ((system.perform service choice operation).1.view service) := by
  cases operation with
  | command command =>
    change phase.ExpectsReply command _ ∧
      (phase.afterCommand command).Means ((system.command choice.now service command).1.view service)
    rw [view_command]
    exact means.command known.state known.config allowed
  | resolveService | backoff => exact ⟨agrees, means⟩
  | createToken =>
    rw [Agrees] at agrees
    unfold perform
    cases created : choice.token with
    | ok token =>
      rw [created] at agrees
      exact ⟨agrees, means.status, means.process, means.spawned, means.resolved⟩
    | error =>
      rw [created] at agrees
      exact ⟨agrees, means⟩
  | spawnProcess =>
    unfold perform
    cases choice.spawned with
    | ok pid => exact ⟨trivial, means_spawn means⟩
    | error => exact ⟨trivial, means⟩
  | revokeToken token => exact ⟨trivial, means.status, means.process, means.spawned, means.resolved⟩
  | killProcess | requestShutdown | awaitDependencies => cases allowed
  | _ => exact ⟨trivial, means⟩

/-! ### What happens meanwhile -/

/-- The task has the service for itself: what else happens has to do with other services, the health
of this one or a dropped guard. What is decided outside for the task is given. -/
def Alone (service : String) (id : Nat) (outcomes : Operation → Choice) (system : ServiceSystem) :
    Event → Prop
  | .begin other _ | .exit other _ _ _ | .report other _ | .kill _ other _ _ _ | .deliver other =>
    other ≠ service
  | .advance other choice => ∀ task ∈ system.tasks other,
      if other = id then ∀ operation ∈ task.nextOperation, Agrees outcomes choice operation
      else task.service ≠ service
  | .revokeDropped _ => True
  | .aside input => input.clearsConfigs = false

instance (service : String) (id : Nat) (outcomes : Operation → Choice) (system : ServiceSystem) :
    (event : Event) → Decidable (system.Alone service id outcomes event)
  | .begin _ _ | .exit _ _ _ _ | .report _ _ | .kill _ _ _ _ _ | .deliver _ =>
    inferInstanceAs (Decidable (_ ≠ _))
  | .advance other _ => inferInstanceAs (Decidable (∀ task ∈ system.tasks other, _))
  | .revokeDropped _ => isTrue trivial
  | .aside _ => inferInstanceAs (Decidable (_ = _))

structure LeavesAlone (service : String) (id : Nat) (system new : ServiceSystem) : Prop where
  cell : (system.actor.cells service).SameButHealth (new.actor.cells service)
  processes : (new.runtime service).processes = (system.runtime service).processes
  task : new.tasks id = system.tasks id
  next : system.nextTask ≤ new.nextTask

variable {new : ServiceSystem} {id : Nat} {other : String} {event : Event}

theorem LeavesAlone.refl (system : ServiceSystem) (service : String) (id : Nat) :
    LeavesAlone service id system system :=
  ⟨.refl _, rfl, rfl, Nat.le_refl _⟩

theorem LeavesAlone.means (left : LeavesAlone service id system new)
    (means : phase.Means (system.view service)) : phase.Means (new.view service) := by
  refine means.kept left.cell.status (congrArg (Option.map _) left.cell.process) left.processes
    fun before => ?_
  change (new.actor.cells service).resolved.isSome
  rw [left.cell.resolved]
  exact before

theorem leavesAlone_withRuntime (different : other ≠ service)
    (change : ServiceRuntime → ServiceRuntime) :
    LeavesAlone service id system (system.withRuntime other change) := by
  refine ⟨.refl _, ?_, rfl, Nat.le_refl _⟩
  rw [runtime_withRuntime_of_ne (Ne.symm different)]

theorem LeavesAlone.spawnTask (left : LeavesAlone service id system new)
    (used : id < system.nextTask) (task : RunningTask) :
    LeavesAlone service id system (new.spawnTask task) := by
  have older : id ≠ new.nextTask := by
    have := left.next
    omega
  refine ⟨left.cell, left.processes, ?_, Nat.le_succ_of_le left.next⟩
  exact (update_of_ne older ..).trans left.task

theorem leavesAlone_perform (different : other ≠ service) (choice : Choice) (operation : Operation) :
    LeavesAlone service id system (system.perform other choice operation).1 := by
  obtain ⟨tasks, next⟩ := @tasks_perform system other choice operation
  refine ⟨?_, ?_, congrFun tasks id, next.ge⟩
  · rw [cells_perform_of_ne (Ne.symm different)]
    exact .refl _
  · have apart : ∀ change, ((system.withRuntime other change).runtime service).processes =
        (system.runtime service).processes := by
      intro change
      rw [runtime_withRuntime_of_ne (Ne.symm different)]
    cases operation with
    | command command =>
      have view := @view_command_of_ne system other service (Ne.symm different) choice.now command
      exact congrArg (fun view : ServiceView => view.runtime.processes) view
    | createToken =>
      unfold perform
      cases choice.token <;> rfl
    | spawnProcess =>
      unfold perform
      cases choice.spawned with
      | ok pid => exact apart fun runtime =>
          { runtime with processes := runtime.processes ++ [.running] }
      | error => rfl
    | killProcess | requestShutdown => exact apart _
    | _ => rfl

theorem leavesAlone_step (used : id < system.nextTask)
    (alone : system.Alone service id outcomes event) (other : ∀ choice, event ≠ .advance id choice) :
    LeavesAlone service id system (system.step event) := by
  cases event with
  | begin =>
    rw [step]
    split
    · exact (LeavesAlone.refl ..).spawnTask used _
    · exact .refl ..
  | advance name choice =>
    have different : id ≠ name := by
      rintro rfl
      exact other choice rfl
    change LeavesAlone service id system (system.advance ..)
    cases found : system.tasks name with
    | none =>
      rw [show system.advance name choice = system by simp only [advance, found]]
      exact .refl ..
    | some task =>
      have elsewhere : task.service ≠ service := by
        have apart := alone task found
        rw [if_neg (Ne.symm different)] at apart
        exact apart
      obtain ⟨performed, left, same, worked, _⟩ := advance_cases found choice
      have apart : LeavesAlone service id system performed := by
        obtain rfl | ⟨operation, rfl⟩ := worked
        · exact .refl ..
        · exact leavesAlone_perform elsewhere ..
      rw [same]
      exact ⟨apart.cell, apart.processes, update_of_ne different .., apart.next⟩
  | exit =>
    rw [step, exitProcess]
    split
    · exact leavesAlone_withRuntime alone _
    · exact leavesAlone_withRuntime alone _
    · exact .refl ..
  | report =>
    rw [step, reportExit]
    split
    · exact leavesAlone_withRuntime alone _
    · exact .refl ..
  | deliver name =>
    rw [step, deliverExit]
    split
    · exact .refl ..
    · exact (leavesAlone_withRuntime alone _).spawnTask used _
  | kill now name process exitCode signal =>
    obtain ⟨tasks, next⟩ := tasks_killTold system now name process exitCode signal
    have view := @view_killTold_of_ne system service name (Ne.symm alone) now process exitCode signal
    refine ⟨?_, ?_, congrFun tasks id, next.ge⟩
    · change ServiceCell.SameButHealth _
        ((system.killTold ..).view service).cell
      rw [view]
      exact .refl _
    · exact congrArg (fun view => view.runtime.processes) view
  | revokeDropped name =>
    rw [step, revokeFirstDropped]
    split
    · exact .refl ..
    · refine ⟨.refl _, ?_, rfl, Nat.le_refl _⟩
      by_cases here : service = name
      · subst here
        rw [runtime_withRuntime_self]
        rfl
      · rw [runtime_withRuntime_of_ne here]
        rfl
  | aside input =>
    have kept : input ≠ .config .clearResolvedConfigs := by
      rintro rfl
      cases alone
    exact ⟨sameButHealth_aside kept, rfl, rfl, Nat.le_refl _⟩

/-! ### The whole task -/

/-- The service has a live process and is running, or it has ended. -/
def Settled (service : String) (system : ServiceSystem) : Prop :=
  (system.actor.cells service).isRunning ∧
      (∃ process ∈ (system.actor.cells service).holder, (system.runtime service).Live process) ∨
    (system.actor.cells service).status.any ServiceStatus.isEnd

instance (service : String) (system : ServiceSystem) : Decidable (system.Settled service) :=
  inferInstanceAs (Decidable (_ ∨ _))

theorem settled_iff {completes : Prop} (means : phase.Means (system.view service))
    (ends : phase.Ends completes) : system.Settled service ↔ completes := by
  refine ⟨fun settled => ?_, fun holds => ?_⟩
  · by_contra fails
    obtain ⟨cleared, starting⟩ := ends.2 fails
    have unheld : (system.actor.cells service).holder = none := (means.process none cleared).1
    have status : (system.actor.cells service).status = some .starting := by
      obtain same | ⟨_, running⟩ := means.status
      · rw [starting] at same
        exact same
      · rw [starting] at running
        cases running
    obtain ⟨_, process, held, _⟩ | ended := settled
    · rw [unheld] at held
      cases held
    · rw [status] at ended
      cases ended
  · obtain ⟨⟨process, held⟩, running⟩ | ended := ends.1 holds
    · obtain ⟨holder, live⟩ := means.process (some process) held
      refine .inl ⟨?_, process, holder, live process rfl⟩
      obtain same | ⟨runs, _⟩ := means.status
      · rw [show (system.actor.cells service).isRunning = _ from
          congrArg (Option.any ServiceStatus.isRunning) same]
        exact running
      · exact runs
    · refine .inr ?_
      obtain same | ⟨_, running⟩ := means.status
      · rw [show (system.actor.cells service).status = _ from same]
        exact ended
      · rw [ServiceStatus.isRunning_of_isEnd ended] at running
        cases running

theorem knows_of_context
    (fetched : (system.actor.cells service).buildServiceContext (system.actor.context 0 service) =
      some context) : system.Knows service := by
  obtain ⟨raw, configured, fetched⟩ := bind_eq_some_iff.mp fetched
  obtain ⟨state, known, _⟩ := bind_eq_some_iff.mp fetched
  exact ⟨isSome_iff_exists.mpr ⟨state, known⟩,
    isSome_iff_exists.mpr ⟨raw, configured⟩⟩

/-- The task has not fetched the context yet, and these are the configs that it will fetch. -/
structure Awaits (service : String) (id : Nat) (exitCode signal : Option Int)
    (context : FetchedContext) (system : ServiceSystem) : Prop where
  task : ∃ task, system.Runs service id task ∧
    task.program = handleExit service exitCode signal
  config : system.actor.config.services.lookup service = some context.serviceConfig
  resolved : (system.actor.cells service).resolved = context.resolvedConfig
  active : ∃ status, (system.actor.cells service).status = some status ∧
    (status.isRunning ∨ status = .starting)

/-- The task works on the exit, or it has come to an end. -/
structure Handles (service : String) (id : Nat) (outcomes : Operation → Choice) (completes : Prop)
    (phase : ExitPhase) (system : ServiceSystem) : Prop where
  means : phase.Means (system.view service)
  goesOn : (∃ task, system.Runs service id task ∧ ExitPhase.Follows outcomes
      (fun _ following => following.Ends completes) task.program phase) ∨
    system.tasks id = none ∧ phase.Ends completes

variable {completes : Prop} {task : RunningTask} {exitCode signal : Option Int}
  {context : FetchedContext}

theorem handles_goOn {rest : Lifecycle Unit} (means : phase.Means (system.view service))
    (here : task.service = service) (found : system.tasks id = task.goOn rest)
    (follows : ExitPhase.Follows outcomes (fun _ following => following.Ends completes) rest
      phase) : Handles service id outcomes completes phase system := by
  refine ⟨means, ?_⟩
  cases rest with
  | perform => exact .inl ⟨_, ⟨found, here⟩, follows⟩
  | done | fail => exact .inr ⟨found, follows⟩

theorem handles_perform {next : operation.Reply → Lifecycle Unit}
    (means : phase.Means (system.view service)) (known : system.Knows service)
    (runs : system.Runs service id task) (program : task.program = Program.perform operation next)
    (allowed : phase.Allows operation) (agrees : Agrees outcomes choice operation)
    (follows : ∀ reply, reply = (system.perform service choice operation).2 →
      phase.Expects outcomes operation reply →
      ExitPhase.Follows outcomes (fun _ following => following.Ends completes) (next reply)
        (phase.after operation reply)) :
    ∃ following, Handles service id outcomes completes following
      (system.step (.advance id choice)) := by
  obtain ⟨expected, after⟩ := means_perform means known allowed agrees
  have stepped : system.step (.advance id choice) = _ :=
    advance_of_perform runs.1 program choice
  rw [runs.2] at stepped
  rw [stepped]
  exact ⟨_, handles_goOn after runs.2 (update_self ..)
    (follows _ rfl expected)⟩

theorem Handles.advance (handles : Handles service id outcomes completes phase system)
    (known : system.Knows service) (alone : system.Alone service id outcomes (.advance id choice)) :
    ∃ following, Handles service id outcomes completes following
      (system.step (.advance id choice)) := by
  obtain ⟨means, ⟨task, runs, follows⟩ | ⟨gone, ends⟩⟩ := handles
  · have agrees := alone task runs.1
    rw [if_pos rfl] at agrees
    cases program : task.program with
    | perform operation next =>
      rw [program] at follows
      rw [RunningTask.nextOperation, program] at agrees
      exact handles_perform means known runs program follows.1 (agrees operation rfl)
        fun reply _ expected => follows.2 reply _ ⟨expected, rfl⟩
    | done | fail =>
      rw [program] at follows
      have stepped : system.step (.advance id choice) = _ :=
        advance_of_ended runs.1 program rfl choice
      rw [stepped]
      exact ⟨phase, means, .inr ⟨update_self .., follows⟩⟩
  · have still : system.step (.advance id choice) = system := by
      simp only [step, ServiceSystem.advance, gone]
    rw [still]
    exact ⟨phase, means, .inr ⟨gone, ends⟩⟩

theorem LeavesAlone.handles (left : LeavesAlone service id system new)
    (handles : Handles service id outcomes completes phase system) :
    Handles service id outcomes completes phase new := by
  refine ⟨left.means handles.means, ?_⟩
  unfold Runs
  rw [left.task]
  exact handles.goesOn

theorem Awaits.advance (awaits : Awaits service id exitCode signal context system)
    (known : system.Knows service) (choice : Choice) :
    ∃ phase, Handles service id outcomes (ExitPhase.Completes outcomes context exitCode) phase
      (system.step (.advance id choice)) := by
  obtain ⟨task, runs, program⟩ := awaits.task
  obtain ⟨status, same, running⟩ := awaits.active
  obtain ⟨state, found⟩ := isSome_iff_exists.mp known.state
  have starts : ExitPhase.Means (system.view service) { status } :=
    ⟨.inl same, nofun, nofun, nofun⟩
  have fetches : task.program = Program.perform (.command .getServiceContext)
    (ExitPhase.handleFetched service exitCode signal) := program
  have fetched : (system.actor.cells service).buildServiceContext
      (system.actor.context choice.now service) =
      some ⟨context.serviceConfig, context.resolvedConfig,
        (system.actor.cells service).tokenGuard, state.workingDir⟩ := by
    rw [buildServiceContext, ServiceActor.context, found, awaits.config,
      awaits.resolved]
    rfl
  refine handles_perform starts known runs fetches trivial trivial fun reply same _ => ?_
  rw [show reply = some _ from same.trans fetched]
  have follows := @ExitPhase.follows_handleFetched { status } outcomes service
    ⟨context.serviceConfig, context.resolvedConfig, (system.actor.cells service).tokenGuard,
      state.workingDir⟩ exitCode signal running rfl
  exact follows

theorem LeavesAlone.awaits (left : LeavesAlone service id system new)
    (config : new.actor.config = system.actor.config)
    (awaits : Awaits service id exitCode signal context system) :
    Awaits service id exitCode signal context new := by
  refine ⟨?_, ?_, left.cell.resolved.trans awaits.resolved, ?_⟩
  · unfold Runs
    rw [left.task]
    exact awaits.task
  · rw [config]
    exact awaits.config
  · obtain same | ⟨_, running⟩ := left.cell.status
    · rw [same]
      exact awaits.active
    · obtain ⟨status, known, running⟩ := (any_eq_true ..).mp running
      exact ⟨status, known, .inl running⟩

structure InProgress (service : String) (id : Nat) (outcomes : Operation → Choice)
    (exitCode signal : Option Int) (context : FetchedContext) (system : ServiceSystem) : Prop where
  known : system.Knows service
  used : id < system.nextTask
  state : system.Awaits service id exitCode signal context ∨
    ∃ phase, system.Handles service id outcomes
      (ExitPhase.Completes outcomes context exitCode) phase

theorem InProgress.step (inProgress : InProgress service id outcomes exitCode signal context system)
    (alone : system.Alone service id outcomes event) :
    InProgress service id outcomes exitCode signal context (system.step event) := by
  have known := inProgress.known.event event
  by_cases own : ∃ choice, event = .advance id choice
  · obtain ⟨choice, rfl⟩ := own
    refine ⟨known, ?_, .inr ?_⟩
    · exact inProgress.used.trans_eq (nextTask_advance id choice).symm
    · obtain awaits | ⟨phase, handles⟩ := inProgress.state
      · exact awaits.advance inProgress.known choice
      · exact handles.advance inProgress.known alone
  · have left := leavesAlone_step inProgress.used alone fun choice same => own ⟨choice, same⟩
    refine ⟨known, inProgress.used.trans_le left.next, ?_⟩
    obtain awaits | ⟨phase, handles⟩ := inProgress.state
    · exact .inl (left.awaits (system.config_event event) awaits)
    · exact .inr ⟨phase, left.handles handles⟩

/-- When the exit of a service that counts as running is handled by a task that has the service for
itself: once the task has ended, the service has a live process and is running or has a status that
says how it ended, exactly if the exit is handled to an end. -/
theorem settled_handleExit_iff (system : ServiceSystem) (service : String) (id : Nat)
    (task : RunningTask) (exitCode signal : Option Int) (outcomes : Operation → Choice)
    (context : FetchedContext) (events : List Event) (used : id < system.nextTask)
    (runs : system.Runs service id task)
    (program : task.program = handleExit service exitCode signal)
    (fetched : (system.actor.cells service).buildServiceContext (system.actor.context 0 service) =
      some context)
    (active : wasActivelyRunning (system.actor.cells service).state)
    (alone : Meets step (Alone service id outcomes) system events)
    (ended : (run step system events).tasks id = none) :
    (run step system events).Settled service ↔ ExitPhase.Completes outcomes context exitCode := by
  have keeps : ∀ system event, InProgress service id outcomes exitCode signal context system →
      Alone service id outcomes system event →
      InProgress service id outcomes exitCode signal context (system.step event) :=
    fun _ _ inProgress alone => inProgress.step alone
  have counts : ∃ status, (system.actor.cells service).status = some status ∧
      (status.isRunning ∨ status = .starting) := by
    obtain ⟨state, known, counts⟩ := (any_eq_true ..).mp active
    exact ⟨state.status, congrArg _ known,
      (Bool.or_eq_true_iff.mp counts).imp (fun running => running) of_decide_eq_true⟩
  obtain ⟨raw, configured, built⟩ := bind_eq_some_iff.mp fetched
  obtain ⟨state, _, built⟩ := bind_eq_some_iff.mp built
  cases built
  have awaits : Awaits service id exitCode signal ⟨raw, (system.actor.cells service).resolved,
      (system.actor.cells service).tokenGuard, state.workingDir⟩ system :=
    ⟨⟨task, runs, program⟩, configured, rfl, counts⟩
  obtain ⟨_, _, awaits | ⟨phase, handles⟩⟩ :=
    invariant keeps alone ⟨knows_of_context fetched, used, .inl awaits⟩
  · obtain ⟨task, runs, _⟩ := awaits.task
    rw [runs.1] at ended
    cases ended
  · obtain ⟨task, runs, _⟩ | ⟨_, ends⟩ := handles.goesOn
    · rw [runs.1] at ended
      cases ended
    · exact settled_iff handles.means ends

/-! ### A config that cannot be computed again -/

/-- The process of a service has failed, and a task is about to handle the exit. -/
def afterFailure : ServiceSystem :=
  run step (create "/kepler.yaml" retryingWeb none false fun _ => {})
    ([.begin "web" (.start true true)] ++ works 0 20 ++
      [.exit "web" 0 (some 1) none, .report "web" 0, .deliver "web"])

theorem runs_afterFailure : afterFailure.Runs "web" 1
    { service := "web", kind := .exit 0 false
      program := handleExit "web" (some 1) none } :=
  ⟨rfl, rfl⟩

theorem settled_afterRestart : (run step afterFailure (works 1 30)).Settled "web" :=
  (settled_handleExit_iff afterFailure "web" 1 _ (some 1) none (fun _ => goesWell)
    ⟨{ restart := .static (.simple { flags := 1 }) },
      some { command := ["web"], restart := .simple { flags := 1 } }, none, ""⟩ (works 1 30)
    (by decide +kernel) runs_afterFailure rfl rfl (by decide +kernel) (by decide +kernel)
    (by decide +kernel)).mpr (.inr ⟨rfl, .inr rfl⟩)

/-- When the config cannot be computed, the task ends and nothing is left that would move the
service: it stays in the status of a start, without a process. -/
theorem abandoned_afterFailure :
    Meets step (Alone "web" 1 fun _ => {}) afterFailure (List.replicate 30 (.advance 1 {})) ∧
      (∀ id < (run step afterFailure (List.replicate 30 (.advance 1 {}))).nextTask,
        ((run step afterFailure (List.replicate 30 (.advance 1 {}))).tasks id).isNone) ∧
      ((run step afterFailure (List.replicate 30 (.advance 1 {}))).actor.cells "web").status =
        some .starting ∧
      ((run step afterFailure (List.replicate 30 (.advance 1 {}))).runtime "web").processes =
        [.ended] ∧
      ¬ (run step afterFailure (List.replicate 30 (.advance 1 {}))).Settled "web" :=
  ⟨by decide +kernel, by decide +kernel, by decide +kernel, by decide +kernel, by decide +kernel⟩

end ServiceSystem

end Kepler
