/-
This file says what tasks do to a service that was stopped. A startup looks at its claim before
it spawns a process, and the claim of a stopped service is void. The other tasks look at the
status before they do anything that could bring the service back.

A task that was interrupted by a stop knows nothing about it. So the rules tell apart what a
task may do at any time and what it may do only as long as there was no stop.
-/

import Kepler.ServiceSystem

namespace Kepler

open Lifecycle Program

/-! ### The rules -/

/-- The commands that must not be given for a stopped service: to claim it, to make a process known,
and to set another status. -/
def ServiceCommand.revives : ServiceCommand → Bool
  | .claimServiceStart | .claimServiceRestart | .claimInactiveServiceRestart _
  | .setServiceStatusWithReason _ _ _ | .registerServiceInstance _ _ | .storeProcessHandle _ => true
  | .setServiceStatus status => status != .stopped
  | _ => false

/-- The operations that must not be performed on a service that was stopped. -/
def Operation.revives : Operation → Bool
  | .command request => request.revives
  | .spawnProcess => true
  | _ => false

def Operation.readsState : Operation → Bool
  | .command .getServiceState => true
  | _ => false

def Operation.setsStopped : Operation → Bool
  | .command (.setServiceStatus status) => status == .stopped
  | _ => false

def ServiceCommand.StoppedReply : (command : ServiceCommand) → command.Reply → Prop
  | .getServiceState => fun reply => reply.map ServiceState.status = some .stopped
  | .isServiceRunning => fun reply => reply = false
  | .getServiceStartup => fun reply => reply = none
  | _ => fun _ => True

def Operation.StoppedReply : (operation : Operation) → operation.Reply → Prop
  | .command request => request.StoppedReply
  | _ => fun _ => True

def ServiceRequest.starts : ServiceRequest → Bool
  | .start _ _ | .restart _ _ _ => true
  | _ => false

def TaskKind.starts : TaskKind → Bool
  | .request asked => asked.starts
  | .exit _ _ => false

def TaskKind.isStop : TaskKind → Bool
  | .request .stop => true
  | _ => false

/-- The operations before which a task may be overtaken by a stop. A startup looks at its claim
again later on. A stop only has to clean up. -/
def TaskKind.early (kind : TaskKind) (operation : Operation) : Bool :=
  if kind.starts then !operation.revives && !operation.readsState
  else kind.isStop && operation.setsStopped

/-- What is known about the service: nothing, or that it was stopped. -/
inductive StopPhase where
  | nothing
  | stopped
  deriving DecidableEq

namespace StopPhase

/-- A stop can come to be known with an early operation. It is not forgotten. -/
def protocol (early : Operation → Bool) : Program.Protocol Operation.Reply StopPhase where
  Allowed phase operation := phase = .stopped → operation.revives = false
  Next phase operation reply following := match following with
    | .nothing => phase = .nothing
    | .stopped => (phase = .nothing → early operation) ∧ operation.StoppedReply reply

abbrev Follows (early : Operation → Bool) {Result : Type}
    (post : Except OrchestratorError Result → StopPhase → Prop) (program : Lifecycle Result)
    (phase : StopPhase) : Prop :=
  Program.Follows (protocol early) post program phase

variable {early : Operation → Bool} {Result Other : Type} {phase : StopPhase}
  {post : Except OrchestratorError Result → StopPhase → Prop}

variable {operation : Operation} {continuation : operation.Reply → Lifecycle Result}
  {program : Lifecycle Result} {kind : TaskKind}

theorem follows_nothing (late : early operation = false)
    (rest : ∀ reply, Follows early post (continuation reply) .nothing) :
    Follows early post (perform operation >>= continuation) .nothing := by
  refine ⟨nofun, fun reply following leads => ?_⟩
  cases following with
  | nothing => exact rest reply
  | stopped =>
    have wasEarly := leads.1 rfl
    rw [late] at wasEarly
    cases wasEarly

theorem follows_stopped (harmless : operation.revives = false)
    (rest : ∀ reply, operation.StoppedReply reply →
      Follows early post (continuation reply) .stopped) :
    Follows early post (perform operation >>= continuation) .stopped := by
  refine ⟨fun _ => harmless, fun reply following leads => ?_⟩
  cases following with
  | nothing => cases leads
  | stopped => exact rest reply leads.2

theorem follows_any (harmless : operation.revives = false)
    (rest : ∀ reply following, (following = .stopped → operation.StoppedReply reply) →
      Follows early post (continuation reply) following) :
    Follows early post (perform operation >>= continuation) phase := by
  refine ⟨fun _ => harmless, fun reply following leads => rest reply following ?_⟩
  rintro rfl
  exact leads.2

/-! ### Harmless programs -/

/-- The program does no harm to a stopped service, whether or not it knows. -/
def Harmless (early : Operation → Bool) (program : Lifecycle Result) : Prop :=
  ∀ phase, Follows early (fun _ _ => True) program phase

theorem harmless_pure (result : Result) : Harmless early (pure result) := fun _ => trivial

theorem harmless_fail (failure : OrchestratorError) :
    Harmless early (Program.fail failure : Lifecycle Result) := fun _ => trivial

theorem harmless_operation (harmless : operation.revives = false)
    (rest : ∀ reply, Harmless early (continuation reply)) :
    Harmless early (perform operation >>= continuation) :=
  fun _ => follows_any harmless fun reply following _ => rest reply following

theorem harmless_perform (harmless : operation.revives = false) :
    Harmless early (perform operation) :=
  fun _ => ⟨fun _ => harmless, fun _ _ _ => trivial⟩

theorem Harmless.bind {continuation : Result → Lifecycle Other} (first : Harmless early program)
    (rest : ∀ result, Harmless early (continuation result)) :
    Harmless early (program >>= continuation) :=
  fun phase => follows_bind_of (first phase) (fun result following _ => rest result following)
    fun _ _ _ => trivial

theorem Harmless.attempt (first : Harmless early program) : Harmless early program.attempt :=
  fun phase => follows_attempt.mpr (first phase)

theorem harmless_of_only {kind : Operation → Prop} (only : program.Only kind)
    (harmless : ∀ operation, kind operation → operation.revives = false) :
    Harmless early program := by
  induction program with
  | done result => exact harmless_pure result
  | fail => exact only.elim
  | perform operation next inductionHypothesis =>
    exact harmless_operation (harmless operation only.1) fun reply =>
      inductionHypothesis reply (only.2 reply)

theorem harmless_check (answer : Except OrchestratorError Result) :
    Harmless early (check answer) := by
  cases answer with
  | ok result => exact harmless_pure result
  | error failure => exact harmless_fail failure

theorem harmless_require (answer : Option Result) : Harmless early (require answer) := by
  cases answer with
  | some result => exact harmless_pure result
  | none => exact harmless_fail _

theorem harmless_hook (hookType : ServiceHookType) : Harmless early (hook hookType) :=
  harmless_operation rfl fun _ => harmless_pure ()

theorem harmless_hookOf (context : Option FetchedContext) (hookType : ServiceHookType) :
    Harmless early (hookOf context hookType) := by
  unfold hookOf
  split
  · exact harmless_hook hookType
  · exact harmless_pure ()

theorem harmless_launchHook (hookType : ServiceHookType) :
    Harmless early (launchHook hookType) :=
  harmless_operation rfl fun outcome => harmless_check outcome

theorem harmless_revokeMatching (token : Option Token) :
    Harmless early (revokeMatching token) := by
  cases token with
  | none => exact harmless_pure ()
  | some token =>
    refine harmless_operation rfl fun taken => ?_
    cases taken with
    | none => exact harmless_pure ()
    | some token => exact harmless_perform rfl

theorem harmless_storeGuard (service : String) (token : Token) (startup : Option ServiceStartup) :
    Harmless early (storeGuard service token startup) := by
  cases startup with
  | none => exact harmless_perform rfl
  | some =>
    refine harmless_operation rfl fun rejected => ?_
    cases rejected with
    | none => exact harmless_pure ()
    | some token => exact harmless_operation rfl fun _ => harmless_fail _

theorem harmless_createServiceTokenGuard (service : String) (resolved : ServiceConfig)
    (startup : Option ServiceStartup) :
    Harmless early (createServiceTokenGuard service resolved startup) := by
  unfold createServiceTokenGuard
  split
  · exact harmless_pure none
  · refine harmless_operation rfl fun created => (harmless_check created).bind fun token => ?_
    exact (harmless_storeGuard service token startup).bind fun _ => harmless_pure (some token)

theorem revives_of_neutral (neutral : operation.isNeutral) : operation.revives = false := by
  cases operation with
  | command command => cases command <;> first | rfl | cases neutral
  | spawnProcess => cases neutral
  | _ => rfl

theorem harmless_spawnAuxiliaryTasks (context : FetchedContext) (attached : ServiceInstance) :
    Harmless early (spawnAuxiliaryTasks context attached) :=
  harmless_of_only (only_spawnAuxiliaryTasks ..)
    fun _ neutral => revives_of_neutral neutral

theorem harmless_shutDown (handle : Option ProcessHandle) :
    Harmless early (shutDown handle) := by
  cases handle with
  | none => exact harmless_pure ()
  | some handle => exact harmless_operation rfl fun _ => harmless_perform rfl

theorem harmless_setStatusUnless (skip : Bool) :
    Harmless early (setStatusUnless skip .stopped) := by
  unfold setStatusUnless
  split
  · exact harmless_pure ()
  · exact harmless_operation rfl fun _ => harmless_pure ()

theorem harmless_stopProcess (skip : Bool) : Harmless early (do
    let handle ← command .removeProcessHandle
    shutDown handle
    command (.cancelTaskHandle .healthCheck)
    command (.cancelTaskHandle .fileWatcher)
    setStatusUnless skip .stopped
    let _ ← command (.setServicePid none none)
    return ()) :=
  harmless_operation rfl fun handle => (harmless_shutDown handle).bind fun _ =>
    harmless_operation rfl fun _ => harmless_operation rfl fun _ =>
      (harmless_setStatusUnless skip).bind fun _ =>
        harmless_operation rfl fun _ => harmless_pure ()

/-! ### Startups -/

section

variable (service : String) (startup : ServiceStartup)

/-- A claim that is found usable was not made void by a stop. -/
theorem follows_ensureServiceStartup : Follows early
    (fun outcome following => ∀ result, outcome = .ok result → following = .nothing)
    (ensureServiceStartup service startup) phase := by
  refine follows_any rfl fun current following stopped => ?_
  split
  · next usable =>
    intro _ _
    cases following with
    | nothing => rfl
    | stopped =>
      rw [show current = none from stopped rfl] at usable
      cases usable
  · exact nofun

theorem harmless_ensureServiceStartup :
    Harmless early (ensureServiceStartup service startup) :=
  fun _ => (follows_ensureServiceStartup ..).mono fun _ _ _ => trivial

theorem harmless_advance (status : ServiceStatus) (skipReason : Option String) :
    Harmless early (advance service startup status skipReason) := by
  refine harmless_operation rfl fun moved => ?_
  split
  · exact harmless_pure ()
  · exact harmless_fail _

theorem harmless_waitForDependencies (noDeps : Bool) :
    Harmless early (waitForDependencies noDeps) := by
  unfold waitForDependencies
  split
  · exact harmless_pure ()
  · exact harmless_operation rfl fun outcome => harmless_check outcome

theorem harmless_prepareServiceLaunch (status : ServiceStatus) (skipCondition noDeps : Bool) :
    Harmless early
      (prepareServiceLaunch service startup status skipCondition noDeps) := by
  refine (harmless_ensureServiceStartup service startup).bind fun _ => ?_
  refine harmless_operation rfl fun found => (harmless_require found).bind fun _ => ?_
  refine (harmless_waitForDependencies noDeps).bind fun _ => ?_
  refine (harmless_advance service startup status none).bind fun _ => ?_
  refine harmless_operation rfl fun answer => (harmless_check answer).bind fun resolved => ?_
  refine harmless_operation rfl fun _ => harmless_operation rfl fun found => ?_
  refine (harmless_require found).bind fun context => ?_
  refine (harmless_ensureServiceStartup service startup).bind fun _ => ?_
  split
  · exact (harmless_advance service startup _ _).bind fun _ => harmless_pure none
  · exact harmless_pure _

theorem harmless_handleServiceLaunchResult (outcome : Except OrchestratorError Unit) :
    Harmless early (handleServiceLaunchResult startup outcome) := by
  unfold handleServiceLaunchResult
  split
  · exact harmless_pure ()
  · exact harmless_operation rfl fun _ => harmless_pure ()
  · exact harmless_operation rfl fun _ => harmless_pure ()
  · exact harmless_pure ()
  · refine harmless_operation rfl fun current => ?_
    split
    · refine harmless_operation rfl fun moved => ?_
      split
      · exact harmless_fail _
      · exact harmless_pure ()
    · exact harmless_pure ()

theorem follows_orRevoke (token : Option Token) (first : Follows early
      (fun outcome following => ∀ result, outcome = .ok result → following = .nothing)
      program phase) :
    Follows early (fun outcome following => ∀ result, outcome = .ok result → following = .nothing)
      (orRevoke token program) phase := by
  refine follows_attempt_bind first fun outcome following ends => ?_
  cases outcome with
  | ok result => exact fun _ _ => ends result rfl
  | error =>
    refine follows_bind_of (harmless_revokeMatching ..)
      (fun _ _ _ => ?_) fun _ _ _ => nofun
    exact nofun

theorem harmless_orRevoke (token : Option Token) (first : Harmless early program) :
    Harmless early (orRevoke token program) := by
  refine first.attempt.bind fun outcome => ?_
  cases outcome with
  | ok result => exact harmless_pure result
  | error failure => exact (harmless_revokeMatching token).bind fun _ => harmless_fail failure

theorem harmless_markInitialized (initialized : Bool) :
    Harmless early (markInitialized initialized) := by
  unfold markInitialized
  split
  · exact harmless_pure ()
  · exact harmless_operation rfl fun marked => harmless_check _

variable (late : ∀ operation, operation.revives → early operation = false)

include late

theorem follows_spawnServiceWithTokenGuard (context : FetchedContext) (token : Option Token) :
    Follows early (fun _ _ => True) (spawnServiceWithTokenGuard context token) .nothing := by
  unfold spawnServiceWithTokenGuard
  cases context.resolvedConfig with
  | none => exact trivial
  | some => ?_
  refine follows_nothing (late _ rfl) fun spawned => ?_
  cases spawned with
  | error => exact (harmless_revokeMatching token).bind (fun _ => harmless_fail _) .nothing
  | ok => ?_
  refine follows_nothing (late _ rfl) fun registered => ?_
  cases registered with
  | error =>
    exact harmless_operation rfl (fun _ =>
      (harmless_revokeMatching token).bind fun _ => harmless_fail _) .nothing
  | ok =>
    exact follows_nothing (late _ rfl) fun _ => follows_nothing (late _ rfl) fun _ => trivial

theorem harmless_startServiceProcess (context : FetchedContext) :
    Harmless early (startServiceProcess service startup context) := by
  refine (harmless_ensureServiceStartup service startup).bind fun _ => ?_
  refine (harmless_require context.resolvedConfig).bind fun resolved => ?_
  refine harmless_operation rfl fun initialized => harmless_operation rfl fun _ => ?_
  refine (harmless_createServiceTokenGuard service resolved (some startup)).bind fun token => ?_
  refine (harmless_orRevoke token (harmless_launchHook .preStart)).bind fun _ => ?_
  intro phase
  refine follows_bind_of
    (follows_orRevoke token (follows_ensureServiceStartup ..))
    (fun _ following usable => ?_) fun _ _ _ => trivial
  rw [usable _ rfl]
  refine follows_bind_of (follows_spawnServiceWithTokenGuard late ..)
    (fun registered following _ => ?_) fun _ _ _ => trivial
  exact (harmless_hook .postStart).bind (fun _ => (harmless_markInitialized initialized).bind
    fun _ => harmless_pure registered) following

variable (skipCondition noDeps : Bool)

theorem harmless_runServiceStartup :
    Harmless early (runServiceStartup service startup skipCondition noDeps) := by
  have executed : Harmless early
      (executeServiceStartup service startup skipCondition noDeps) := by
    refine (harmless_prepareServiceLaunch service startup .starting skipCondition noDeps).bind
      fun prepared => ?_
    cases prepared with
    | none => exact harmless_pure ()
    | some context =>
      exact (harmless_startServiceProcess service startup late context).bind
        fun registered => harmless_spawnAuxiliaryTasks context registered
  exact executed.attempt.bind fun outcome => harmless_handleServiceLaunchResult startup outcome

theorem harmless_runManualRestartStartup :
    Harmless early (runManualRestartStartup service startup skipCondition noDeps) := by
  have executed : Harmless early
      (executeManualRestart service startup skipCondition noDeps) := by
    refine (harmless_ensureServiceStartup service startup).bind fun _ => ?_
    refine harmless_operation rfl fun counted => (harmless_check _).bind fun _ => ?_
    refine (harmless_prepareServiceLaunch service startup .restarting skipCondition noDeps).bind
      fun prepared => ?_
    cases prepared with
    | none => exact harmless_pure ()
    | some context =>
      refine harmless_operation rfl fun cleared => (harmless_check _).bind fun _ => ?_
      refine (harmless_startServiceProcess service startup late context).bind fun registered => ?_
      exact (harmless_hook .postRestart).bind fun _ =>
        harmless_spawnAuxiliaryTasks context registered
  exact executed.attempt.bind fun outcome => harmless_handleServiceLaunchResult startup outcome

omit late in
theorem harmless_stopForRestart : Harmless early (stopForRestart service startup) := by
  refine (harmless_ensureServiceStartup service startup).bind fun _ => ?_
  refine harmless_operation rfl fun _ => harmless_operation rfl fun found => ?_
  refine (harmless_require found).bind fun context => harmless_operation rfl fun _ => ?_
  refine (harmless_hook .preRestart).bind fun _ => ?_
  refine (harmless_ensureServiceStartup service startup).bind fun _ => ?_
  refine (harmless_hook .preStop).bind fun _ => ?_
  refine (harmless_ensureServiceStartup service startup).bind fun _ => ?_
  refine (harmless_stopProcess true).bind fun _ => (harmless_hook .postStop).bind fun _ => ?_
  exact harmless_revokeMatching context.token

/-- Once a startup has its claim, a stop may come at any time but between the last look at the claim
and the new status. -/
theorem follows_startService :
    Follows early (fun _ _ => True) (startService service skipCondition noDeps)
      .nothing := by
  refine follows_nothing (late _ rfl) fun claimed => ?_
  cases claimed with
  | none => exact trivial
  | some startup => exact harmless_runServiceStartup service startup late skipCondition noDeps _

theorem follows_restartService (states : List RestartState)
    (reads : early (.command .getServiceState) = false) :
    Follows early (fun _ _ => True)
      (restartService service states skipCondition noDeps) .nothing := by
  refine follows_nothing reads fun found => ?_
  cases found with
  | none => exact trivial
  | some state => ?_
  dsimp only
  split
  · exact trivial
  split
  · refine follows_nothing (late _ rfl) fun claimed => ?_
    cases claimed with
    | none => exact trivial
    | some startup =>
      exact (harmless_stopForRestart service startup).attempt.bind (fun _ =>
        harmless_operation rfl fun _ =>
          harmless_runManualRestartStartup service startup late skipCondition noDeps) .nothing
  split
  · refine follows_nothing (late _ rfl) fun claimed => ?_
    cases claimed with
    | none => exact trivial
    | some startup =>
      exact harmless_operation rfl (fun _ =>
        harmless_runServiceStartup service startup late skipCondition noDeps) .nothing
  · exact trivial

end

/-! ### The other tasks -/

section

variable (service : String)

theorem follows_hookOf (context : Option FetchedContext) (hookType : ServiceHookType)
    (late : early (.runHook hookType) = false) :
    Follows early (fun _ following => following = .nothing)
      (hookOf context hookType) .nothing := by
  unfold hookOf
  split
  · exact follows_nothing late fun _ => rfl
  · exact rfl

theorem follows_stopService
    (late : ∀ operation, operation.setsStopped = false → early operation = false) :
    Follows early (fun _ _ => True) stopService .nothing := by
  refine follows_nothing (late _ rfl) fun state => ?_
  split
  swap
  · exact trivial
  refine follows_nothing (late _ rfl) fun _ => follows_nothing (late _ rfl) fun context => ?_
  refine follows_bind_of (follows_hookOf context .preStop (late _ rfl))
    (fun _ following unknown => ?_) fun _ _ _ => trivial
  rw [unknown]
  have stopping : Follows early (fun _ _ => True) (stopProcess false) .nothing :=
    follows_nothing (late _ rfl) fun _ => harmless_stopProcess false .nothing
  refine follows_bind_of stopping (fun _ following _ => ?_) fun _ _ _ => trivial
  exact (harmless_hookOf context .postStop).bind (fun _ => harmless_operation rfl fun _ =>
    harmless_revokeMatching _) following

theorem follows_program_stopped {request : ServiceRequest} (other : request.starts = false) :
    Follows early (fun _ _ => True) (request.program service) .stopped := by
  cases request with
  | start => cases other
  | restart => cases other
  | stop | fileChange =>
    refine follows_stopped rfl fun found stopped => ?_
    obtain ⟨state, rfl, same⟩ := Option.map_eq_some_iff.mp stopped
    rw [Option.any_some, same]
    exact trivial
  | unhealthy =>
    refine follows_stopped rfl fun raw _ => ?_
    split
    · refine follows_stopped rfl fun running stopped => ?_
      rw [stopped]
      exact trivial
    · exact trivial
  | propagate =>
    refine follows_stopped rfl fun running stopped => ?_
    rw [stopped]
    exact trivial

theorem follows_revokeMatching_stopped (token : Option Token) :
    Follows early (fun _ following => following = .stopped) (revokeMatching token)
      .stopped := by
  cases token with
  | none => exact rfl
  | some token =>
    refine follows_stopped rfl fun taken _ => ?_
    cases taken with
    | none => exact rfl
    | some token => exact follows_stopped rfl fun _ _ => rfl

theorem follows_handleExit_stopped (exitCode signal : Option Int) :
    Follows early (fun _ _ => True) (handleExit service exitCode signal) .stopped := by
  refine follows_stopped rfl fun found _ => ?_
  cases found with
  | none => exact trivial
  | some context => ?_
  refine follows_stopped rfl fun _ _ => follows_stopped rfl fun _ _ => ?_
  refine follows_stopped rfl fun _ _ => follows_stopped rfl fun _ _ => ?_
  refine follows_bind_of (follows_revokeMatching_stopped context.token)
    (fun _ following stopped => ?_) fun _ _ _ => trivial
  rw [stopped]
  refine follows_stopped rfl fun found stopped => ?_
  obtain ⟨state, rfl, same⟩ := Option.map_eq_some_iff.mp stopped
  have inactive : wasActivelyRunning (some state) = false := by
    unfold wasActivelyRunning
    rw [Option.any_some, same]
    rfl
  rw [inactive]
  exact trivial

end

/-! ### All tasks -/

theorem follows_of_never {program : Lifecycle Unit} (never : ∀ operation, early operation = false) :
    Follows early (fun _ _ => True) program .nothing := by
  induction program with
  | done result => exact trivial
  | fail => exact trivial
  | perform operation next inductionHypothesis =>
    exact follows_nothing (never operation) fun reply => inductionHypothesis reply

theorem follows_program (service : String) (request : ServiceRequest) :
    Follows (TaskKind.request request).early (fun _ _ => True) (request.program service)
      .nothing := by
  have startup : request.starts → ∀ operation, operation.revives →
      (TaskKind.request request).early operation = false := by
    intro starts operation revives
    unfold TaskKind.early
    rw [if_pos (show (TaskKind.request request).starts from starts), revives]
    rfl
  cases request with
  | start skipCondition noDeps =>
    exact follows_startService service (startup rfl) skipCondition noDeps
  | restart states skipCondition noDeps =>
    exact follows_restartService service (startup rfl) skipCondition noDeps states rfl
  | stop => exact follows_stopService fun operation late => late
  | fileChange | unhealthy | propagate => exact follows_of_never fun _ => rfl

theorem early_of_isStop (isStop : kind.isStop) (sets : operation.setsStopped) :
    kind.early operation := by
  cases kind with
  | request request =>
    cases request with
    | stop => exact sets
    | _ => cases isStop
  | exit => cases isStop

theorem stoppedReply_of_setsStopped (sets : operation.setsStopped) (reply : operation.Reply) :
    operation.StoppedReply reply := by
  cases operation with
  | command command =>
    cases command with
    | setServiceStatus status => exact trivial
    | _ => cases sets
  | _ => cases sets

theorem revives_of_early (isEarly : kind.early operation) : operation.revives = false := by
  unfold TaskKind.early at isEarly
  split at isEarly
  · exact (Bool.not_eq_true' _).mp (Bool.and_eq_true_iff.mp isEarly).1
  · have sets := (Bool.and_eq_true_iff.mp isEarly).2
    cases operation with
    | command command =>
      cases command with
      | setServiceStatus status => exact bne_eq_false_iff_eq.mpr (beq_iff_eq.mp sets)
      | _ => cases sets
    | _ => cases sets

theorem follows_overtaken {next : operation.Reply → Lifecycle Unit} (isEarly : kind.early operation)
    (follows : Follows kind.early (fun _ _ => True) (Program.perform operation next) .nothing) :
    Follows kind.early (fun _ _ => True) (Program.perform operation next) .stopped := by
  refine follows_stopped (revives_of_early isEarly) fun reply stopped => ?_
  exact follows.2 reply .stopped ⟨fun _ => isEarly, stopped⟩

end StopPhase

end Kepler
