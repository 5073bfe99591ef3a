/-
This file shows when the result of a health check counts.

A health checker works in a session. Its results, its events and the registration of its task
carry the session, and they count only as long as the session is the latest one begun for the
service and the process it was begun for is still the one that runs.
-/

import Kepler.CommandSteps

namespace Kepler

open Runs ServiceCell

/-- The commands that are made with a session and change something. -/
inductive ServiceCommand.MadeWith (session : HealthCheckSession) : ServiceCommand → Prop where
  | task (handle : TaskHandle) : MadeWith session (.storeHealthCheckTask session handle)
  | event (event : ServiceEvent) : MadeWith session (.emitHealthCheckEvent session event)
  | result (passed : Bool) (retries : Nat) :
      MadeWith session (.updateHealthCheck session passed retries)

/-- The commands that say that a process has ended or that another one has begun. -/
inductive ServiceCommand.EndsInstance : ServiceCommand → Prop where
  | exit (exitCode signal : Option Int) : EndsInstance (.recordProcessExit exitCode signal)
  | registration (pid : Option UInt32) (startedAt : Nat) :
      EndsInstance (.registerServiceInstance pid startedAt)

def ServiceCommand.isHealthResult : ServiceCommand → Bool
  | .updateHealthCheck _ _ _ => true
  | _ => false

def ServiceCommand.begun : (command : ServiceCommand) → command.Reply → Option HealthCheckSession
  | .beginHealthCheck _, reply => reply
  | _, _ => none

namespace ServiceCell

variable {cell : ServiceCell} {context : CommandContext} {session : HealthCheckSession}

variable {command : ServiceCommand} {new : ServiceCell} {change : ServiceState → ServiceState}

theorem handle_of_not_current (madeWith : command.MadeWith session)
    (stale : cell.isHealthCheckCurrent session = false) :
    ∃ reply effects, cell.handle context command = { cell, reply, effects } := by
  have notCurrent : ¬ cell.isHealthCheckCurrent session = true := by
    rw [stale]
    exact Bool.false_ne_true
  cases madeWith with
  | task | event | result => exact ⟨_, _, if_neg notCurrent⟩

/-- A stored session was stored before, on a service that has not left the running statuses. -/
def KeepsSession (cell new : ServiceCell) : Prop :=
  ∀ session, new.session = some session →
    cell.session = some session ∧ (cell.isRunning → new.isRunning)

theorem keepsSession_of_fields (session : new.session = cell.session)
    (running : new.isRunning = cell.isRunning) : KeepsSession cell new :=
  fun _ stored => ⟨session ▸ stored, fun runs => running.trans runs⟩

theorem keepsSession_of_none (none : new.session = none) : KeepsSession cell new := by
  intro session stored
  rw [none] at stored
  exact absurd stored nofun

theorem session_setStatus (now : Nat) (status : ServiceStatus) :
    (cell.setStatus now status).session = if status.isRunning then cell.session else none := by
  unfold setStatus
  split
  · split <;> rfl
  · split <;> rfl

theorem isRunning_setStatus {now : Nat} {status : ServiceStatus} (running : status.isRunning)
    (known : cell.state.isSome) : (cell.setStatus now status).isRunning := by
  obtain ⟨state, known⟩ := Option.isSome_iff_exists.mp known
  simp only [setStatus, known, if_pos running]
  exact running

theorem isRunning_modifyState (preserves : ∀ state, (change state).status = state.status) :
    (cell.modifyState change).isRunning = cell.isRunning := by
  rw [isRunning, isRunning, status, status, modifyState, Option.map_map]
  exact congrArg (fun statuses => (statuses : Option ServiceStatus).any ServiceStatus.isRunning)
    (congrArg (cell.state.map ·) (funext preserves))

theorem keepsSession_modifyState (preserves : ∀ state, (change state).status = state.status) :
    KeepsSession cell (cell.modifyState change) :=
  keepsSession_of_fields rfl (isRunning_modifyState preserves)

theorem keepsSession_setStatus (now : Nat) (status : ServiceStatus) :
    KeepsSession cell (cell.setStatus now status) := by
  intro session stored
  rw [session_setStatus] at stored
  split at stored
  · rename_i target
    exact ⟨stored, fun running => isRunning_setStatus target (isSome_state_of_isRunning running)⟩
  · exact absurd stored nofun

theorem KeepsSession.trans {middle : ServiceCell} (first : KeepsSession cell middle)
    (second : KeepsSession middle new) : KeepsSession cell new := by
  intro session stored
  obtain ⟨between, runsLater⟩ := second session stored
  obtain ⟨before, runs⟩ := first session between
  exact ⟨before, fun running => runsLater (runs running)⟩

theorem keepsSession_claimWith (status : ServiceStatus) :
    KeepsSession cell (cell.claimWith context status).cell :=
  (keepsSession_setStatus context.now status).trans (keepsSession_of_fields rfl rfl)

theorem CommandStep.keepsSession {effects : List Effect} {signal : Option StatusSignal}
    (step : CommandStep cell context command new effects signal)
    (other : ∀ attached, command ≠ .beginHealthCheck attached) : KeepsSession cell new := by
  cases step with
  | held | reserved => exact keepsSession_of_fields rfl rfl
  | noted change preserves =>
    exact keepsSession_modifyState fun state => congrArg Prod.fst (preserves state)
  | resolved =>
    exact keepsSession_of_fields rfl (@isRunning_modifyState cell _ fun _ => rfl)
  | recorded | registered | cancelled => exact keepsSession_of_none rfl
  | began attached => exact absurd rfl (other attached)
  | claimed enters known status => exact keepsSession_claimWith status
  | entered enters change preserves status =>
    refine KeepsSession.trans ?_ (keepsSession_setStatus context.now status)
    exact keepsSession_modifyState fun state => congrArg Prod.fst (preserves state)
  | health session passed retries found running =>
    refine fun session stored => ⟨stored, fun _ => ?_⟩
    rw [isRunning, status, modifyState, found]
    exact ServiceState.isRunning_updateHealth passed retries running

theorem keepsSession_handle (command : ServiceCommand)
    (begun : command.begun (cell.handle context command).reply = none) :
    KeepsSession cell (cell.handle context command).cell := by
  by_cases begins : ∃ attached, command = .beginHealthCheck attached
  · obtain ⟨attached, rfl⟩ := begins
    change (cell.beginHealthCheck ..).reply = none at begun
    change KeepsSession cell (cell.beginHealthCheck ..).cell
    unfold beginHealthCheck at begun ⊢
    split
    · rename_i current
      rw [if_pos current] at begun
      exact absurd begun nofun
    · exact keepsSession_of_fields rfl rfl
  · exact (commandStep_handle command).keepsSession fun attached same => begins ⟨attached, same⟩

theorem session_of_begun
    (begun : command.begun (cell.handle context command).reply = some session) :
    (cell.handle context command).cell.session = some session ∧
      (cell.handle context command).cell.isRunning ∧
        ∃ attached, command = .beginHealthCheck attached := by
  cases command with
  | beginHealthCheck attached =>
    change (cell.beginHealthCheck ..).reply = some session at begun
    change (cell.beginHealthCheck ..).cell.session = some session ∧
      (cell.beginHealthCheck ..).cell.isRunning ∧ _
    unfold beginHealthCheck at begun ⊢
    split
    · rename_i current
      rw [if_pos current] at begun
      exact ⟨begun, (Bool.and_eq_true_iff.mp current).2, attached, rfl⟩
    · rename_i stale
      rw [if_neg stale] at begun
      exact absurd begun nofun
  | _ => exact absurd begun nofun

theorem session_of_endsInstance (ends : command.EndsInstance) (running : cell.isRunning) :
    (cell.handle context command).cell.session = none := by
  cases ends with
  | exit => rfl
  | registration =>
    change (cell.registerServiceInstance ..).cell.session = none
    rw [registerServiceInstance, if_pos (isSome_state_of_isRunning running)]
    rfl

end ServiceCell

/-! ### Sessions along a run -/

namespace ServiceActor

/-- An input records an exit, registers an instance, or begins another session. -/
def Interrupts (actor : ServiceActor) (name : String) (input : Input) : Prop :=
  ∃ now command, input = .service now name command ∧
    (command.EndsInstance ∨ command.begun (actor.handle now name command).reply ≠ none)

/-- A session is in force: it has begun, and since then the service was running and nothing
interrupted it. -/
def InForce (actor : ServiceActor) (name : String) (session : HealthCheckSession)
    (inputs : List Input) : Prop :=
  ∃ before now attached rest,
    inputs = before ++ .service now name (.beginHealthCheck attached) :: rest ∧
    ((run step actor before).handle now name (.beginHealthCheck attached)).reply = some session ∧
    Meets step
      (fun actor input => (actor.cells name).isRunning ∧ ¬ Interrupts actor name input)
      ((run step actor before).step (.service now name (.beginHealthCheck attached))) rest ∧
    ((run step actor inputs).cells name).isRunning

variable {session : HealthCheckSession} {actor : ServiceActor} {inputs : List Input} {name : String}
  {input : Input}

theorem InForce.isRunning (inForce : InForce actor name session inputs) :
    ((run step actor inputs).cells name).isRunning := by
  obtain ⟨_, _, _, _, _, _, _, running⟩ := inForce
  exact running

theorem InForce.concat (inForce : InForce actor name session inputs)
    (uninterrupted : ¬ Interrupts (run step actor inputs) name input)
    (running : (((run step actor inputs).step input).cells name).isRunning) :
    InForce actor name session (inputs ++ [input]) := by
  obtain ⟨before, now, attached, rest, rfl, answer, meets, runs⟩ := inForce
  refine ⟨before, now, attached, rest ++ [input], ?_, answer, ?_, ?_⟩
  · rw [List.append_assoc, List.cons_append]
  · rw [meets_concat, ← run_append_cons]
    exact ⟨meets, runs, uninterrupted⟩
  · rw [run_concat]
    exact running

theorem inForce_of_session (unbegun : (actor.cells name).session = none)
    (stored : ((run step actor inputs).cells name).session = some session) :
    InForce actor name session inputs := by
  induction inputs using List.reverseRecOn with
  | nil =>
    change (actor.cells name).session = some session at stored
    rw [unbegun] at stored
    exact absurd stored nofun
  | append_singleton inputs input inductionHypothesis =>
    rw [run_concat] at stored
    by_cases elsewhere : ∀ now command, input ≠ .service now name command
    · obtain ⟨resolved, watcher, eventSender, same⟩ := cells_step_of_elsewhere (run ..) elsewhere
      rw [same] at stored
      have inForce := inductionHypothesis stored
      refine inForce.concat ?_ (same ▸ inForce.isRunning)
      rintro ⟨now, command, here, _⟩
      exact elsewhere now command here
    · simp only [not_forall, not_not] at elsewhere
      obtain ⟨now, command, rfl⟩ := elsewhere
      rw [step, cells_handle_self] at stored
      cases begun : command.begun ((run step ..).handle now name command).reply with
      | some other =>
        obtain ⟨storedNow, running, attached, rfl⟩ := session_of_begun begun
        cases storedNow.symm.trans stored
        refine ⟨inputs, now, attached, [], rfl, begun, trivial, ?_⟩
        rw [run_concat, step, cells_handle_self]
        exact running
      | none =>
        obtain ⟨before, keepsRunning⟩ := keepsSession_handle command begun _ stored
        have inForce := inductionHypothesis before
        refine inForce.concat ?_ ?_
        · rintro ⟨later, other, same, interrupts⟩
          obtain ⟨rfl, _, rfl⟩ := Input.service.inj same
          rcases interrupts with ends | begins
          · rw [session_of_endsInstance ends inForce.isRunning] at stored
            exact absurd stored nofun
          · exact begins begun
        · rw [step, cells_handle_self]
          exact keepsRunning inForce.isRunning

/-- A command made with a session that is not in force leaves the actor as it was. -/
theorem inForce_or_unchanged (config : KeplerConfig) (startOrder : Option (List String))
    (initialized : Bool) (restored : String → ServiceState) (name : String)
    (session : HealthCheckSession) (inputs : List Input) (now : Nat) (command : ServiceCommand)
    (madeWith : command.MadeWith session) :
    InForce (create config startOrder initialized restored) name session inputs ∨
      ((run step (create config startOrder initialized restored) inputs).handle now name
        command).actor = run step (create config startOrder initialized restored) inputs := by
  cases current : ((run step (create ..) inputs).cells
      name).isHealthCheckCurrent session with
  | true =>
    have stored := of_decide_eq_true (Bool.and_eq_true_iff.mp current).1
    exact .inl (inForce_of_session rfl stored)
  | false =>
    obtain ⟨reply, effects, outcome⟩ := handle_of_not_current madeWith current
    exact .inr (by rw [handle_of_unchanged _ outcome])

def lateFailure : List Input :=
  [.service 0 "web" (.registerServiceInstance (some 7) 0),
    .service 1 "web" (.setServiceStatus .running),
    .service 2 "web" (.beginHealthCheck ⟨1⟩),
    .service 3 "web" (.recordProcessExit (some 1) none)]

theorem lateFailure_inForce_or_unchanged :
    InForce (create webConfig (some ["web"]) false fun _ => {}) "web" ⟨1⟩ lateFailure ∨
      ((run step (create webConfig (some ["web"]) false fun _ => {}) lateFailure).handle 4 "web"
          (.updateHealthCheck ⟨1⟩ false 1)).actor =
        run step (create webConfig (some ["web"]) false fun _ => {}) lateFailure :=
  inForce_or_unchanged _ _ _ _ _ _ _ _ _ (.result false 1)

end ServiceActor

/-! ### A service whose process has exited -/

/-- The actor, and whether an exit was recorded and no new instance registered since. -/
structure ExitWatch where
  actor : ServiceActor
  exited : Bool := false

namespace ExitWatch

def exitedAfter (exited : Bool) : ServiceCommand → Bool
  | .recordProcessExit _ _ => true
  | .registerServiceInstance _ _ => false
  | _ => exited

def step (name : String) (watch : ExitWatch) (input : ServiceActor.Input) : ExitWatch where
  actor := watch.actor.step input
  exited := match input with
    | .service _ changed command =>
      if changed = name then exitedAfter watch.exited command else watch.exited
    | _ => watch.exited

/-- A command neither begins a health check nor changes the status as the result of one. -/
def Disregards (actor : ServiceActor) (now : Nat) (name : String) (command : ServiceCommand) :
    Prop :=
  command.begun (actor.handle now name command).reply = none ∧
    (command.isHealthResult →
      (actor.handle now name command).actor.status name = actor.status name)

/-- After the exit was recorded, nothing is said about the health of the service. -/
def Unchecked (name : String) (watch : ExitWatch) : ServiceActor.Input → Prop
  | .service now changed command =>
    watch.exited → changed = name → Disregards watch.actor now name command
  | _ => True

/-- After a recorded exit, the health checker is begun only when the service has left the running
statuses. -/
def BeginsInTime (name : String) (watch : ExitWatch) : ServiceActor.Input → Prop
  | .service _ changed (.beginHealthCheck attached) => watch.exited → changed = name →
      (watch.actor.cells name).currentInstance = some attached →
      (watch.actor.cells name).isRunning = false
  | _ => True

instance (name : String) (watch : ExitWatch) :
    (input : ServiceActor.Input) → Decidable (watch.Unchecked name input)
  | .service _ _ _ => inferInstanceAs (Decidable (_ → _ → _ ∧ (_ → _)))
  | .config _ | .received _ | .receiverDropped _ | .watcherFinished _ => isTrue trivial

def Unattended (name : String) (watch : ExitWatch) : Prop :=
  watch.exited → (watch.actor.cells name).session = none

variable {name : String} {watch : ExitWatch} {input : ServiceActor.Input} {now : Nat}
  {command : ServiceCommand}

theorem begun_eq_none (inTime : watch.BeginsInTime name (.service now name command))
    (exited : watch.exited) :
    command.begun (watch.actor.handle now name command).reply = none := by
  cases command with
  | beginHealthCheck attached =>
    have refused := inTime exited rfl
    change ((watch.actor.cells name).beginHealthCheck _ attached).reply = none
    rw [beginHealthCheck, if_neg]
    rintro current
    obtain ⟨attachedNow, running⟩ := Bool.and_eq_true_iff.mp current
    rw [refused (of_decide_eq_true attachedNow)] at running
    cases running
  | _ => rfl

theorem Unattended.disregards (unattended : watch.Unattended name) (exited : watch.exited)
    (inTime : watch.BeginsInTime name (.service now name command)) :
    Disregards watch.actor now name command := by
  refine ⟨begun_eq_none inTime exited, fun result => ?_⟩
  cases command with
  | updateHealthCheck session =>
    have stale : (watch.actor.cells name).isHealthCheckCurrent session = false := by
      rw [isHealthCheckCurrent, unattended exited]
      rfl
    obtain ⟨reply, effects, outcome⟩ :=
      handle_of_not_current (.result ..) stale
    rw [ServiceActor.handle_of_unchanged _ outcome]
  | _ => cases result

theorem unattended_step (unattended : watch.Unattended name)
    (inTime : watch.BeginsInTime name input) : (watch.step name input).Unattended name := by
  by_cases elsewhere : ∀ now command, input ≠ .service now name command
  · obtain ⟨resolved, watcher, eventSender, same⟩ := watch.actor.cells_step_of_elsewhere elsewhere
    have before : (watch.step name input).exited = watch.exited := by
      cases input with
      | service now changed command =>
        exact if_neg fun here => elsewhere now command (by rw [here])
      | _ => rfl
    intro exited
    exact (congrArg ServiceCell.session same).trans (unattended (before ▸ exited))
  · simp only [not_forall, not_not] at elsewhere
    obtain ⟨now, command, rfl⟩ := elsewhere
    intro exited
    have exited : exitedAfter watch.exited command := by
      rw [← show (watch.step name (.service ..)).exited = _ from if_pos rfl]
      exact exited
    change ((watch.actor.handle ..).actor.cells name).session = none
    rw [ServiceActor.cells_handle_self]
    by_cases records : ∃ exitCode signal, command = .recordProcessExit exitCode signal
    · obtain ⟨exitCode, signal, rfl⟩ := records
      rfl
    · have before : watch.exited := by
        cases command with
        | recordProcessExit exitCode signal => exact absurd ⟨exitCode, signal, rfl⟩ records
        | registerServiceInstance => cases exited
        | _ => exact exited
      have keeps := keepsSession_handle command (begun_eq_none inTime before)
      refine Option.eq_none_iff_forall_ne_some.mpr fun session stored => ?_
      obtain ⟨stored, _⟩ := keeps session stored
      rw [unattended before] at stored
      cases stored

theorem inTime_of_unchecked (unchecked : watch.Unchecked name input) :
    watch.BeginsInTime name input := by
  cases input with
  | service now changed command =>
    cases command with
    | beginHealthCheck attached =>
      rintro exited rfl current
      have refused := (unchecked exited rfl).1
      change ((watch.actor.cells changed).beginHealthCheck _ attached).reply = none at refused
      by_contra running
      rw [beginHealthCheck, if_pos] at refused
      · cases refused
      · rw [current, decide_eq_true rfl, Bool.true_and]
        exact Bool.not_eq_false _ ▸ running
    | _ => exact trivial
  | _ => exact trivial

/-- In every sequence of inputs: once an exit was recorded, no health check begins and no health
result changes the status until a new instance is registered, exactly if no health checker is begun
for the process that exited while the service is still in a running status. -/
theorem unchecked_iff (config : KeplerConfig) (startOrder : Option (List String))
    (initialized : Bool) (restored : String → ServiceState) (name : String)
    (inputs : List ServiceActor.Input) :
    Meets (step name) (Unchecked name)
        { actor := ServiceActor.create config startOrder initialized restored } inputs ↔
      Meets (step name) (BeginsInTime name)
        { actor := ServiceActor.create config startOrder initialized restored } inputs := by
  refine ⟨fun unchecked => ?_, fun inTime => ?_⟩
  · have gives : ∀ watch input, True → Unchecked name watch input →
        BeginsInTime name watch input :=
      fun _ _ _ unchecked => inTime_of_unchecked unchecked
    exact meets_of_meets (fun _ _ _ _ => trivial) gives unchecked trivial
  · have keeps : ∀ watch input, Unattended name watch → BeginsInTime name watch input →
        Unattended name (watch.step ..) :=
      fun _ _ unattended inTime => unattended_step unattended inTime
    have gives : ∀ watch input, Unattended name watch → BeginsInTime name watch input →
        Unchecked name watch input := by
      intro watch input unattended inTime
      cases input with
      | service =>
        rintro exited rfl
        exact unattended.disregards exited inTime
      | _ => exact trivial
    exact meets_of_meets keeps gives inTime nofun

/-- The process exits while its start is being finished. The health checker is begun after that, and
its first check passes. -/
def lateChecker : List ServiceActor.Input :=
  [.service 0 "web" (.registerServiceInstance (some 7) 0),
    .service 1 "web" (.setServiceStatus .running),
    .service 2 "web" (.recordProcessExit (some 1) none),
    .service 3 "web" (.beginHealthCheck ⟨1⟩),
    .service 4 "web" (.updateHealthCheck ⟨1⟩ true 1)]

/-- The process that has exited is reported as healthy. -/
theorem lateChecker_reported :
    ¬ Meets (step "web") (Unchecked "web")
        { actor := ServiceActor.create ServiceActor.webConfig (some ["web"]) false fun _ => {} }
        lateChecker ∧
      (run (step "web")
        { actor := ServiceActor.create ServiceActor.webConfig (some ["web"]) false fun _ => {} }
        lateChecker).exited ∧
      (run (step "web")
        { actor := ServiceActor.create ServiceActor.webConfig (some ["web"]) false fun _ => {} }
        lateChecker).actor.status "web" = some .healthy := by
  decide +kernel

end ExitWatch

end Kepler
