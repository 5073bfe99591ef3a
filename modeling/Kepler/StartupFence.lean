/-
This file is about the fence that a start or a restart of several services raises while it claims
them (`start_services` and `restart_services`). As long as the fence is up, the actor neither
announces that the config is ready or at rest, nor says so when it is asked.

The fence is a single flag of the actor, and requests may overlap. The request that finishes first
lowers the fence for all of them.
-/

import Kepler.CommandSteps

namespace Kepler

open Runs List Function ServiceActor

/-! ### The flag of the actor -/

/-- All services are where they should be, or nothing will change. -/
def ConfigEvent.isSignal : ConfigEvent → Bool
  | .ready | .quiescent => true
  | .statusChange _ _ | .unhandledFailure _ _ => false

def ConfigCommand.confirms : (command : ConfigCommand) → command.Reply → Bool
  | .checkQuiescence => fun reply => reply
  | .checkReadiness => fun reply => reply
  | _ => fun _ => false

namespace ServiceActor

variable {actor : ServiceActor} {event : ConfigEvent} {name : String} {input : Input}

def confirms (actor : ServiceActor) : Input → Bool
  | .config command => command.confirms (actor.handleConfig command).reply
  | _ => false

/-- No signal is given, and no query is answered with yes. -/
def Silent (actor : ServiceActor) (input : Input) : Prop :=
  (∀ event : ConfigEvent, .notified event ∈ actor.effects input → event.isSignal = false) ∧
    actor.confirms input = false

def Input.movesFence : Input → Bool
  | .config (.setStartupInProgress _) => true
  | _ => false

section

variable (raised : actor.startupInProgress)

include raised

theorem checkAndNotifyReady_of_raised : actor.checkAndNotifyReady = (actor, []) := by
  rw [checkAndNotifyReady, raised, if_neg]
  exact Bool.false_ne_true

theorem checkAndNotifyQuiescent_of_raised : actor.checkAndNotifyQuiescent = (actor, []) := by
  rw [checkAndNotifyQuiescent, raised, if_neg]
  exact Bool.false_ne_true

theorem checkSignals_of_raised : actor.checkSignals = (actor, []) := by
  rw [checkSignals, checkAndNotifyReady_of_raised raised]
  rw [checkAndNotifyQuiescent_of_raised raised]
  rfl

/-- Behind the fence, a status change is announced, and possibly a failure. -/
theorem signalStatus_of_raised (name : String) (status : ServiceStatus) :
    (actor.signalStatus name status).2 =
      .notified (.statusChange name status) :: actor.failureEvents name status := by
  unfold signalStatus
  dsimp only
  rw [checkAndNotifyReady_of_raised (by exact raised)]
  rw [append_nil]
  split
  · rw [checkAndNotifyQuiescent_of_raised (by exact raised), append_nil]
  · rw [append_nil]

end

theorem isSignal_of_mem_failureEvents {status : ServiceStatus}
    (member : .notified event ∈ actor.failureEvents name status) : event.isSignal = false := by
  simp only [failureEvents, mem_ite_nil_right, mem_singleton] at member
  cases member.2
  rfl

theorem isSignal_of_mem_signalled (raised : actor.startupInProgress) {signal : Option StatusSignal}
    (member : .notified event ∈ (actor.signalled name signal).2) : event.isSignal = false := by
  rcases signal with _ | status | status
  · cases member
  · rw [signalled, signalStatus_of_raised raised] at member
    rcases mem_cons.mp member with same | member
    · cases same
      rfl
    · exact isSignal_of_mem_failureEvents member
  · rw [signalled, checkAndNotifyReady_of_raised raised] at member
    cases mem_singleton.mp member
    rfl

theorem silent_of_raised (raised : actor.startupInProgress) (stays : input.movesFence = false) :
    actor.Silent input := by
  cases input with
  | service now name command =>
    refine ⟨fun event member => ?_, rfl⟩
    rcases mem_append.mp member with member | member
    · exact absurd member (ServiceCell.notified_notMem_handle event command)
    · exact isSignal_of_mem_signalled (by exact raised) member
  | config command =>
    cases command with
    | checkQuiescence =>
      refine ⟨nofun, ?_⟩
      change (!actor.startupInProgress && actor.computeQuiescence) = false
      rw [raised]
      rfl
    | checkReadiness =>
      refine ⟨nofun, ?_⟩
      change (!actor.startupInProgress && actor.computeReady) = false
      rw [raised]
      rfl
    | recheckReadyQuiescent =>
      refine ⟨fun event member => ?_, rfl⟩
      change _ ∈ (checkSignals _).2 at member
      rw [checkSignals_of_raised (by exact raised)] at member
      cases member
    | setStartupInProgress => cases stays
    | _ => exact ⟨nofun, rfl⟩
  | _ => exact ⟨nofun, rfl⟩

theorem startupInProgress_step (stays : input.movesFence = false) :
    (actor.step input).startupInProgress = actor.startupInProgress := by
  cases input with
  | service now name => exact (sameButSignals_signalled _ name _).frame.2.2
  | config command =>
    cases command with
    | setStartupInProgress => cases stays
    | recheckReadyQuiescent => exact (sameButSignals_checkSignals _).frame.2.2
    | _ => rfl
  | _ => rfl

end ServiceActor

/-! ### Requests -/

inductive ServiceClaim where
  | start
  | restart
  | inactiveRestart (states : List RestartState)

def ServiceClaim.command : ServiceClaim → ServiceCommand
  | start => .claimServiceStart
  | restart => .claimServiceRestart
  | inactiveRestart states => .claimInactiveServiceRestart states

/-- The actor, and for every request that has raised the fence the services that it will claim. -/
structure StartupRequests where
  actor : ServiceActor
  claims : Nat → Option (List (String × ServiceClaim)) := fun _ => none
  next : Nat := 0

inductive StartupEvent where
  /-- A request for some services raises the fence. -/
  | raise (claims : List (String × ServiceClaim))
  /-- A request claims its next service. -/
  | claim (now request : Nat)
  /-- A request that has claimed all its services lowers the fence. -/
  | lower (request : Nat)
  /-- Something else happens to the actor. Nobody else moves the fence. -/
  | other (input : ServiceActor.Input)

namespace StartupRequests

variable (requests : StartupRequests)

def input : StartupEvent → Option ServiceActor.Input
  | .raise _ => some (.config (.setStartupInProgress true))
  | .claim now request =>
    match requests.claims request with
    | some ((name, claim) :: _) => some (.service now name claim.command)
    | _ => none
  | .lower request =>
    if (requests.claims request).any List.isEmpty then
      some (.config (.setStartupInProgress false))
    else none
  | .other input => if input.movesFence then none else some input

def remaining : StartupEvent → Nat → Option (List (String × ServiceClaim))
  | .raise claims => Function.update requests.claims requests.next (some claims)
  | .claim _ request =>
    Function.update requests.claims request ((requests.claims request).map List.tail)
  | .lower request => if (requests.claims request).any List.isEmpty then
      Function.update requests.claims request none else requests.claims
  | .other _ => requests.claims

def step (event : StartupEvent) : StartupRequests where
  actor := (requests.input event).elim requests.actor requests.actor.step
  claims := requests.remaining event
  next := match event with
    | .raise _ => requests.next + 1
    | _ => requests.next

/-- Some request has raised the fence and has not claimed all its services yet. -/
def Claiming : Prop :=
  ∃ request < requests.next, (requests.claims request).any fun rest => !rest.isEmpty

instance : Decidable requests.Claiming :=
  inferInstanceAs (Decidable (∃ request < requests.next, _))

/-- As long as a request is claiming services, no signal is given. -/
def Fenced (event : StartupEvent) : Prop :=
  requests.Claiming → ∀ input ∈ requests.input event, requests.actor.Silent input

/-- A request lowers the fence when no other request is claiming services. -/
def LowersLast : StartupEvent → Prop
  | .lower request => (requests.claims request).any List.isEmpty → ¬ requests.Claiming
  | _ => True

instance : (event : StartupEvent) → Decidable (requests.LowersLast event)
  | .lower _ => inferInstanceAs (Decidable (_ → ¬ _))
  | .raise _ | .claim _ _ | .other _ => isTrue trivial

def FenceUp : Prop := requests.Claiming → requests.actor.startupInProgress

variable {requests} {event : StartupEvent}

theorem startupInProgress_of_input
    (stays : ∀ input ∈ requests.input event, input.movesFence = false) :
    (requests.step event).actor.startupInProgress = requests.actor.startupInProgress := by
  change ((requests.input event).elim requests.actor requests.actor.step).startupInProgress = _
  cases found : requests.input event with
  | none => rfl
  | some input => exact startupInProgress_step (stays input found)

theorem movesFence_claim (now request : Nat) :
    ∀ input ∈ requests.input (.claim now request), input.movesFence = false := by
  intro input found
  rw [StartupRequests.input] at found
  split at found
  · cases found
    rfl
  · cases found

theorem movesFence_other (input : ServiceActor.Input) :
    ∀ given ∈ requests.input (.other input), given.movesFence = false := by
  intro given found
  rw [StartupRequests.input] at found
  split at found
  · cases found
  · next stays =>
    cases found
    exact Bool.eq_false_of_not_eq_true stays

theorem claiming_of_claim {now request : Nat}
    (claiming : (requests.step (.claim now request)).Claiming) : requests.Claiming := by
  obtain ⟨other, known, rest⟩ := claiming
  refine ⟨other, known, ?_⟩
  change (update requests.claims request _ other).any _ at rest
  by_cases same : other = request
  · subst same
    rw [update_self] at rest
    cases found : requests.claims other with
    | none =>
      rw [found] at rest
      cases rest
    | some claims =>
      rw [found] at rest
      cases claims with
      | nil => cases rest
      | cons => rfl
  · rw [update_of_ne same] at rest
    exact rest

theorem fenceUp_step (fenceUp : requests.FenceUp) (lowersLast : requests.LowersLast event) :
    (requests.step event).FenceUp := by
  intro claiming
  cases event with
  | raise claims => rfl
  | claim now request =>
    rw [startupInProgress_of_input (movesFence_claim now request)]
    exact fenceUp (claiming_of_claim claiming)
  | lower request =>
    by_cases finished : (requests.claims request).any isEmpty
    · -- No request is claiming services, and the one that has finished is gone.
      refine absurd ?_ (lowersLast finished)
      obtain ⟨other, known, rest⟩ := claiming
      refine ⟨other, known, ?_⟩
      change ((if (requests.claims request).any isEmpty then
        update requests.claims request none else requests.claims) other).any _ at rest
      rw [if_pos finished] at rest
      by_cases same : other = request
      · subst same
        rw [update_self] at rest
        cases rest
      · rw [update_of_ne same] at rest
        exact rest
    · have nothing : requests.step (.lower request) = requests := by
        simp only [step, StartupRequests.input, remaining, if_neg finished, Option.elim]
      rw [nothing] at claiming ⊢
      exact fenceUp claiming
  | other input =>
    rw [startupInProgress_of_input (movesFence_other input)]
    exact fenceUp claiming

theorem FenceUp.fenced (fenceUp : requests.FenceUp) (lowersLast : requests.LowersLast event) :
    requests.Fenced event := by
  intro claiming input found
  have raised := fenceUp claiming
  cases event with
  | raise claims =>
    cases found
    exact ⟨nofun, rfl⟩
  | claim now request =>
    exact silent_of_raised raised (movesFence_claim now request input found)
  | lower =>
    rw [StartupRequests.input] at found
    split at found
    · next finished => exact absurd claiming (lowersLast finished)
    · cases found
  | other given =>
    exact silent_of_raised raised (movesFence_other given input found)

/-- In every run of start and restart requests in which the fence is lowered only when no other
request is claiming services, no signal is given while a request is claiming services. -/
theorem fenced_run (config : KeplerConfig) (startOrder : Option (List String))
    (initialized : Bool) (restored : String → ServiceState) (events : List StartupEvent)
    (lowersLast : Meets step LowersLast
      { actor := ServiceActor.create config startOrder initialized restored } events) :
    Meets step Fenced
      { actor := ServiceActor.create config startOrder initialized restored } events := by
  have keeps : ∀ requests event, FenceUp requests → LowersLast requests event →
      FenceUp (requests.step event) :=
    fun _ _ fenceUp lowersLast => fenceUp_step fenceUp lowersLast
  have gives : ∀ requests event, FenceUp requests → LowersLast requests event →
      Fenced requests event :=
    fun _ _ fenceUp lowersLast => fenceUp.fenced lowersLast
  exact meets_of_meets keeps gives lowersLast fun claiming => by
    obtain ⟨request, known, _⟩ := claiming
    exact absurd known (Nat.not_lt_zero request)

/-! ### Two requests at the same time -/

def endedServices : StartupRequests :=
  { actor := ServiceActor.create
      { services := (AList.singleton "job" {}).insert "web" {} } (some ["job", "web"]) true
      fun _ => { status := .exited, exitCode := some 0, initialized := true } }

/-- A request to start both services claims them while another one is at work. -/
def nested : List StartupEvent :=
  [.raise [("web", .restart)], .raise [("web", .start), ("job", .start)], .claim 0 1, .claim 1 1,
    .claim 2 0, .lower 0, .lower 1]

theorem nested_fenced : Meets step Fenced endedServices nested :=
  fenced_run _ _ _ _ _ (by decide +kernel)

/-- The first request comes to its end before the second one has claimed anything, and the service
that it was going to restart has exited. -/
def overlapping : List StartupEvent :=
  [.raise [("web", .restart)], .raise [("web", .start), ("job", .start)], .claim 0 0]

/-- The fence goes down while the second request is still claiming services, and the config is
announced to be at rest. -/
theorem overlapping_not_fenced :
    ¬ Meets step Fenced endedServices (overlapping ++ [.lower 0]) ∧
      (run step endedServices (overlapping ++ [.lower 0])).Claiming ∧
      (run step endedServices (overlapping ++ [.lower 0])).actor.confirms
        (.config .checkQuiescence) := by
  refine ⟨fun fenced => ?_, by decide +kernel, by decide +kernel⟩
  obtain ⟨_, last⟩ := (meets_concat _ _ _).mp fenced
  have claiming : (run step endedServices overlapping).Claiming := by decide +kernel
  have announced : Effect.notified .quiescent ∈ (run step endedServices overlapping).actor.effects
      (.config (.setStartupInProgress false)) := by decide +kernel
  exact absurd ((last claiming (.config (.setStartupInProgress false)) rfl).1 _ announced) nofun

end StartupRequests

end Kepler
