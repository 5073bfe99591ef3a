/-
This file is about the two signals that the actor gives about its config: that all services are
where they should be (`check_and_notify_ready`), and that nothing will change any more
(`check_and_notify_quiescent`). Each of them is given once. The actor remembers that it has given it
and forgets that when a service enters certain statuses.

The actor looks at the services only after some commands, and it forgets only after some of those
that put an end to what a signal says. A config can become ready for a second time without a second
signal.
-/

import Kepler.Library.Latch
import Kepler.StartupFence
import Kepler.StatusSignals

namespace Kepler

open Runs ServiceActor Bool List

/-! ### What the signals look at -/

namespace ServiceCell

variable {cell new : ServiceCell} {context : CommandContext} {command : ServiceCommand}
  {effects : List Effect} {signal : Option StatusSignal}

theorem resolved_setStatus (now : Nat) (status : ServiceStatus) :
    (cell.setStatus now status).resolved = cell.resolved := by
  cases found : cell.state with
  | some state => exact (state_setStatus found now status).2
  | none =>
    unfold setStatus
    simp only [found]
    split <;> rfl

theorem CommandStep.keepsResolved (step : CommandStep cell context command new effects signal)
    (other : ∀ config workingDir, command ≠ .storeResolvedConfig config workingDir) :
    new.resolved = cell.resolved := by
  cases step with
  | resolved config workingDir => exact absurd rfl (other config workingDir)
  | claimed | entered => exact resolved_setStatus ..
  | _ => rfl

end ServiceCell

namespace ServiceActor

variable (actor : ServiceActor)

/-- What the signals look at: what is observed of the services and their computed configs. -/
def seen : ServiceActor where
  config := actor.config
  startOrder := actor.startOrder
  cells name :=
    { state := ((actor.cells name).state.map ServiceState.observed).map fun observed =>
        { status := observed.1, exitCode := observed.2.1, wasHealthy := observed.2.2 }
      resolved := (actor.cells name).resolved }

theorem state_seen (name : String) :
    (actor.seen.cells name).state = (actor.cells name).state.map fun state =>
      { status := state.status, exitCode := state.exitCode, wasHealthy := state.wasHealthy } :=
  Option.map_map ..

theorem unsatisfied_seen : actor.seen.unsatisfied = actor.unsatisfied := by
  have same : actor.seen.isConditionSatisfiedSync = actor.isConditionSatisfiedSync := by
    funext name entry
    unfold isConditionSatisfiedSync
    rw [state_seen]
    exact Option.any_map ..
  funext name
  unfold unsatisfied
  rw [same]
  rfl

theorem computeReady_seen : actor.seen.computeReady = actor.computeReady := by
  have settling : actor.seen.isSettling = actor.isSettling := by
    funext name
    unfold isSettling
    rw [state_seen]
    exact Option.any_map ..
  have same : actor.seen.isServiceReady = actor.isServiceReady := by
    funext name
    have status : actor.seen.status name = actor.status name := by
      unfold status ServiceCell.status
      rw [state_seen]
      exact Option.map_map ..
    unfold isServiceReady
    rw [status, unsatisfied_seen, settling]
    rfl
  unfold computeReady
  rw [same]
  rfl

theorem computeQuiescence_seen : actor.seen.computeQuiescence = actor.computeQuiescence := by
  have satisfiable : actor.seen.areDepsSatisfiable = actor.areDepsSatisfiable := by
    funext settled name
    unfold areDepsSatisfiable
    rw [unsatisfied_seen]
    refine congrArg (_ && (actor.unsatisfied name).all ·) (funext fun (dependency, entry) => ?_)
    dsimp only
    rw [state_seen]
    exact Option.any_map ..
  have same : actor.seen.isServiceSettled = actor.isServiceSettled := by
    funext settled name
    unfold isServiceSettled
    rw [satisfiable, unsatisfied_seen, state_seen]
    exact Option.all_map ..
  unfold computeQuiescence settledIn
  rw [same]
  rfl

theorem not_settledIn {order : List String} {name : String} (member : name ∈ order)
    (unsettled : ∀ settled, actor.isServiceSettled settled name = false) :
    actor.settledIn order name = false := by
  unfold settledIn
  induction order using List.reverseRecOn with
  | nil => cases member
  | append_singleton rest last inductionHypothesis =>
    rw [foldl_concat]
    by_cases same : name = last
    · rw [← same, Function.update_self]
      exact unsettled _
    · rw [Function.update_of_ne same]
      exact inductionHypothesis ((mem_append.mp member).resolve_right fun here =>
        same (mem_singleton.mp here))

end ServiceActor

inductive ConfigSignal where
  | ready
  | quiescent

namespace ConfigSignal

def event : ConfigSignal → ConfigEvent
  | ready => .ready
  | quiescent => .quiescent

/-- What the signal says: `compute_ready` and `compute_quiescence`. -/
def holds : ConfigSignal → ServiceActor → Bool
  | ready => computeReady
  | quiescent => computeQuiescence

/-- The signal was given: `last_ready` and `last_quiescent`. -/
def last : ConfigSignal → ServiceActor → Bool
  | ready => lastReady
  | quiescent => lastQuiescent

/-- The change of status makes the actor forget the signal. -/
def isResetOn : ConfigSignal → StatusSignal → Bool
  | ready, .entered status => status = .starting || status = .restarting
  | quiescent, .entered status => status.isActive && status != .waiting
  | _, .health _ => false

/-- The actor looks after the change of status. -/
def isCheckedOn : ConfigSignal → StatusSignal → Bool
  | ready, _ => true
  | quiescent, .entered status => !status.isActive || status = .waiting
  | quiescent, .health _ => false

variable (signal : ConfigSignal)

def resets (actor : ServiceActor) : Input → Bool
  | .service now name command =>
    ((actor.cells name).handle (actor.context now name) command).signal.any signal.isResetOn
  | .config .recheckReadyQuiescent => true
  | _ => false

def checks (actor : ServiceActor) : Input → Bool
  | .service now name command =>
    ((actor.cells name).handle (actor.context now name) command).signal.any signal.isCheckedOn
  | .config .recheckReadyQuiescent => true
  | .config (.setStartupInProgress inProgress) => !inProgress
  | _ => false

/-- A service with the status keeps the signal from being true. -/
def isBarredBy : ConfigSignal → ServiceStatus → Bool
  | ready, status =>
    status = .stopped || status = .starting || status = .restarting || status = .stopping
  | quiescent, status => status.isActive && status != .waiting

def regards : ConfigSignal → ServiceActor → String → Bool
  | ready, actor, name => actor.config.services.keys.contains name
  | quiescent, actor, name => actor.startOrder.all (·.contains name)

/-- The signal may become true with the input: a service enters a status or has a health result, an
exit is recorded, or a computed config is stored or cleared. -/
def raises (actor : ServiceActor) : Input → Bool
  | .service now name command =>
    match ((actor.cells name).handle (actor.context now name) command).signal with
    | some (.entered status) | some (.health status) =>
      !(signal.isBarredBy status && signal.regards actor name)
    | none => match command with
      | .recordProcessExit _ _ | .storeResolvedConfig _ _ => true
      | _ => false
  | .config .clearResolvedConfigs => true
  | _ => false

/-! ### What one input does -/

/-- The actor has looked, or not, after it has forgotten the signal, or not. -/
structure Looks (checks resets : Bool) (before after : ServiceActor) (effects : List Effect) :
    Prop where
  last : signal.last after =
    ((signal.last before && !resets) || decide (.notified signal.event ∈ effects))
  given : .notified signal.event ∈ effects ↔ checks = true ∧ after.startupInProgress = false ∧
    signal.holds after = true ∧ (signal.last before && !resets) = false

variable {signal} {checks resets : Bool} {before middle after actor : ServiceActor}
  {effects : List Effect}

theorem looks_unchecked (last : signal.last after = (signal.last before && !resets))
    (silent : .notified signal.event ∉ effects) :
    signal.Looks false resets before after effects where
  last := by rw [last, decide_eq_false silent, Bool.or_false]
  given := iff_of_false silent fun given => by cases given.1

theorem Looks.after_change {cleared : Bool}
    (looks : signal.Looks checks cleared middle after effects)
    (last : (signal.last middle && !cleared) = (signal.last before && !resets))
    {earlier : List Effect}
    (silent : .notified signal.event ∉ earlier) :
    signal.Looks checks resets before after (earlier ++ effects) := by
  have same : .notified signal.event ∈ earlier ++ effects ↔ .notified signal.event ∈ effects := by
    rw [mem_append, or_iff_right silent]
  constructor
  · rw [looks.last, last, decide_eq_decide.mpr same]
  · rw [same, looks.given, last]

theorem Looks.and_then (looks : signal.Looks checks resets before middle effects)
    (last : signal.last after = signal.last middle)
    (fence : after.startupInProgress = middle.startupInProgress)
    (holds : signal.holds after = signal.holds middle) {later : List Effect}
    (silent : .notified signal.event ∉ later) :
    signal.Looks checks resets before after (effects ++ later) := by
  have same : .notified signal.event ∈ effects ++ later ↔ .notified signal.event ∈ effects := by
    rw [mem_append, or_iff_left silent]
  constructor
  · rw [last, looks.last, decide_eq_decide.mpr same]
  · rw [same, looks.given, fence, holds]

theorem looks_of_check (given : ServiceActor) (last : signal.last given = true)
    (fence : given.startupInProgress = actor.startupInProgress)
    (holds : signal.holds given = signal.holds actor) {checked : ServiceActor × List Effect}
    (check : checked = if !actor.startupInProgress && signal.holds actor && !signal.last actor then
      (given, [.notified signal.event]) else (actor, [])) :
    signal.Looks true false actor checked.1 checked.2 := by
  subst check
  split
  · next due =>
    rw [and_eq_true, and_eq_true, not_eq_true', not_eq_true'] at due
    obtain ⟨⟨lowered, isHeld⟩, unlatched⟩ := due
    constructor
    · rw [last, unlatched]
      exact (decide_eq_true (mem_singleton_self _)).symm
    · rw [fence, holds, unlatched]
      exact iff_of_true (mem_singleton_self _) ⟨rfl, lowered, isHeld, rfl⟩
  · next idle =>
    refine ⟨?_, iff_of_false not_mem_nil fun given => idle ?_⟩
    · rw [decide_eq_false not_mem_nil, Bool.not_false, Bool.and_true, Bool.or_false]
    · obtain ⟨-, lowered, isHeld, unlatched⟩ := given
      rw [Bool.not_false, Bool.and_true] at unlatched
      rw [lowered, isHeld, unlatched]
      rfl

theorem looks_checkAndNotifyReady (actor : ServiceActor) :
    ready.Looks true false actor actor.checkAndNotifyReady.1 actor.checkAndNotifyReady.2 := by
  refine looks_of_check { actor with lastReady := true } ?_ ?_ ?_ ?_ <;> rfl

theorem looks_checkAndNotifyQuiescent (actor : ServiceActor) :
    quiescent.Looks true false actor actor.checkAndNotifyQuiescent.1
      actor.checkAndNotifyQuiescent.2 := by
  refine looks_of_check { actor with lastQuiescent := true } ?_ ?_ ?_ ?_ <;> rfl

theorem quiescent_notMem_checkAndNotifyReady :
    .notified quiescent.event ∉ actor.checkAndNotifyReady.2 := by
  intro member
  cases eq_of_mem_checkAndNotifyReady member

theorem ready_notMem_checkAndNotifyQuiescent :
    .notified ready.event ∉ actor.checkAndNotifyQuiescent.2 := by
  intro member
  cases eq_of_mem_checkAndNotifyQuiescent member

theorem lastQuiescent_checkAndNotifyReady :
    actor.checkAndNotifyReady.1.lastQuiescent = actor.lastQuiescent := by
  unfold checkAndNotifyReady
  split <;> rfl

theorem Looks.checkAndNotifyQuiescent
    (looks : ready.Looks checks resets before middle effects) :
    ready.Looks checks resets before middle.checkAndNotifyQuiescent.1
      (effects ++ middle.checkAndNotifyQuiescent.2) := by
  have kept : ready.last middle.checkAndNotifyQuiescent.1 = ready.last middle ∧
      middle.checkAndNotifyQuiescent.1.startupInProgress = middle.startupInProgress ∧
      ready.holds middle.checkAndNotifyQuiescent.1 = ready.holds middle := by
    unfold ServiceActor.checkAndNotifyQuiescent
    split <;> exact ⟨rfl, rfl, rfl⟩
  exact looks.and_then kept.1 kept.2.1 kept.2.2 ready_notMem_checkAndNotifyQuiescent

theorem looks_checkSignals (actor : ServiceActor) :
    signal.Looks true false actor actor.checkSignals.1 actor.checkSignals.2 := by
  cases signal with
  | ready => exact (looks_checkAndNotifyReady actor).checkAndNotifyQuiescent
  | quiescent =>
    refine (looks_checkAndNotifyQuiescent actor.checkAndNotifyReady.1).after_change ?_
      quiescent_notMem_checkAndNotifyReady
    exact congrArg (· && true) lastQuiescent_checkAndNotifyReady

theorem isSignal_event (signal : ConfigSignal) : signal.event.isSignal = true := by
  cases signal <;> rfl

theorem notMem_announcements (name : String) (status : ServiceStatus) :
    .notified signal.event ∉
      .notified (.statusChange name status) :: actor.failureEvents name status := by
  intro member
  have isSignal := signal.isSignal_event
  rcases mem_cons.mp member with same | failure
  · rw [Effect.notified.inj same] at isSignal
    cases isSignal
  · rw [isSignal_of_mem_failureEvents failure] at isSignal
    cases isSignal

theorem looks_signalStatus (actor : ServiceActor) (name : String) (status : ServiceStatus) :
    signal.Looks (signal.isCheckedOn (.entered status)) (signal.isResetOn (.entered status)) actor
      (actor.signalStatus name status).1 (actor.signalStatus name status).2 := by
  unfold signalStatus
  dsimp only
  generalize resetAs : ({ actor with
    lastReady := actor.lastReady && !(status = .starting || status = .restarting)
    lastQuiescent := actor.lastQuiescent && !(status.isActive && status != .waiting) } :
      ServiceActor) = reset
  cases signal with
  | ready =>
    have looks : ready.Looks true (ready.isResetOn (.entered status)) actor
        reset.checkAndNotifyReady.1
        (.notified (.statusChange ..) :: actor.failureEvents name status ++
          reset.checkAndNotifyReady.2) :=
      (looks_checkAndNotifyReady reset).after_change (by rw [← resetAs]; exact and_true _)
        (notMem_announcements name status)
    split
    · exact looks.checkAndNotifyQuiescent
    · rw [append_nil]
      exact looks
  | quiescent =>
    have last : quiescent.last reset.checkAndNotifyReady.1 =
        (quiescent.last actor && !quiescent.isResetOn (.entered status)) := by
      change reset.checkAndNotifyReady.1.lastQuiescent = _
      rw [lastQuiescent_checkAndNotifyReady, ← resetAs]
      rfl
    have silent : .notified quiescent.event ∉
        .notified (.statusChange name status) :: actor.failureEvents name status ++
          reset.checkAndNotifyReady.2 := by
      rw [mem_append]
      exact not_or.mpr ⟨notMem_announcements name status, quiescent_notMem_checkAndNotifyReady⟩
    split
    · next checked =>
      rw [isCheckedOn, checked]
      exact (looks_checkAndNotifyQuiescent _).after_change ((Bool.and_true _).trans last) silent
    · next unchecked =>
      rw [isCheckedOn, eq_false_of_not_eq_true unchecked, append_nil]
      exact looks_unchecked last silent

theorem looks_health (actor : ServiceActor) (name : String) (status : ServiceStatus) :
    signal.Looks (signal.isCheckedOn (.health status)) false actor
      (actor.signalled name (some (.health status))).1
      (actor.signalled name (some (.health status))).2 := by
  have silent : .notified signal.event ∉ [Effect.notified (.statusChange name status)] := by
    intro member
    have isSignal := signal.isSignal_event
    rw [Effect.notified.inj (mem_singleton.mp member)] at isSignal
    cases isSignal
  cases signal with
  | ready =>
    exact (looks_checkAndNotifyReady actor).after_change rfl silent
  | quiescent =>
    refine looks_unchecked ?_ fun member => ?_
    · rw [Bool.not_false, Bool.and_true]
      exact lastQuiescent_checkAndNotifyReady
    · rcases mem_cons.mp member with same | other
      · exact silent (mem_singleton.mpr same)
      · exact quiescent_notMem_checkAndNotifyReady other

theorem looks_signalled (actor : ServiceActor) (name : String) (told : Option StatusSignal) :
    signal.Looks (told.any signal.isCheckedOn) (told.any signal.isResetOn) actor
      (actor.signalled name told).1 (actor.signalled name told).2 := by
  rcases told with _ | status | status
  · exact looks_unchecked (Bool.and_true _).symm not_mem_nil
  · exact looks_signalStatus ..
  · have looks : signal.Looks _ _ _ _ _ := looks_health actor name status
    cases signal <;> exact looks

theorem looks_step (signal : ConfigSignal) (actor : ServiceActor) (input : Input) :
    signal.Looks (signal.checks actor input) (signal.resets actor input) actor
      (actor.step input) (actor.effects input) := by
  have idle : ∀ {after : ServiceActor}, signal.last after = signal.last actor →
      signal.Looks false false actor after [] := by
    intro after last
    exact looks_unchecked (last.trans (Bool.and_true _).symm) not_mem_nil
  cases input with
  | service now name command =>
    refine (looks_signalled _ name _).after_change ?_
      (ServiceCell.notified_notMem_handle signal.event command)
    cases signal <;> rfl
  | config command =>
    cases command with
    | recheckReadyQuiescent =>
      refine (looks_checkSignals _).after_change ?_ not_mem_nil
      refine Eq.trans ?_ (Bool.and_false _).symm
      cases signal <;> rfl
    | setStartupInProgress inProgress =>
      cases inProgress with
      | true => exact idle (by cases signal <;> rfl)
      | false =>
        refine (looks_checkSignals _).after_change ?_ not_mem_nil
        cases signal <;> rfl
    | _ => exact idle (by cases signal <;> rfl)
  | _ => exact idle (by cases signal <;> rfl)

/-! ### When a signal can become true -/

variable {name : String} {input : Input}

theorem holds_seen (signal : ConfigSignal) (actor : ServiceActor) :
    signal.holds actor.seen = signal.holds actor := by
  cases signal with
  | ready => exact actor.computeReady_seen
  | quiescent => exact actor.computeQuiescence_seen

theorem not_holds_of_barred {state : ServiceState} (found : (actor.cells name).state = some state)
    (barred : signal.isBarredBy state.status) (regards : signal.regards actor name) :
    signal.holds actor = false := by
  cases signal with
  | ready =>
    refine all_eq_false.mpr ⟨name, contains_iff_mem.mp regards, ?_⟩
    have known : actor.status name = some state.status := congrArg _ found
    unfold isServiceReady
    rw [known]
    cases status : state.status <;> rw [status] at barred <;>
      first | exact false_ne_true | cases barred
  | quiescent =>
    change actor.startOrder.any _ = false
    change actor.startOrder.all _ = true at regards
    cases known : actor.startOrder with
    | none => rfl
    | some order =>
      rw [known] at regards
      have member : name ∈ order := contains_iff_mem.mp regards
      refine all_eq_false.mpr ⟨name, member, ?_⟩
      rw [actor.not_settledIn member]
      · exact false_ne_true
      · intro settled
        unfold isServiceSettled
        rw [found, Option.all_some]
        cases status : state.status <;> rw [status] at barred <;> first | rfl | cases barred

theorem regards_step (input : Input) :
    signal.regards (actor.step input) name = signal.regards actor name := by
  cases signal with
  | ready => exact congrArg (fun config => config.services.keys.contains name) (fixed_step input).1
  | quiescent => exact congrArg (Option.all (·.contains name)) (fixed_step input).2

theorem resolved_step (unraised : signal.raises actor input = false) (name : String) :
    ((actor.step input).cells name).resolved = (actor.cells name).resolved := by
  cases input with
  | service now target command =>
    by_cases same : name = target
    · subst same
      rw [ServiceActor.step, cells_handle_self]
      refine (ServiceCell.commandStep_handle command).keepsResolved fun config dir stores => ?_
      subst stores
      cases unraised
    · rw [ServiceActor.step, cells_handle_of_ne _ _ same]
  | config command =>
    have kept : command ≠ .clearResolvedConfigs := by
      rintro rfl
      cases unraised
    obtain ⟨eventSender, same⟩ := cells_handleConfig_of_ne actor kept name
    rw [ServiceActor.step, same]
  | received target | receiverDropped target | watcherFinished target =>
    by_cases same : name = target
    · subst same
      rw [ServiceActor.step, cells_put_self]
    · rw [ServiceActor.step, cells_put_of_ne _ same]

theorem seen_step (silent : ∀ name, actor.signalTo input name = none)
    (unraised : signal.raises actor input = false) : (actor.step input).seen = actor.seen := by
  unfold seen
  rw [(fixed_step input).1, (fixed_step input).2]
  congr 1
  funext name
  rw [resolved_step unraised]
  rcases (observed_of_silent (silent name)).1 with ⟨now, exitCode, code, rfl, _⟩ | same
  · cases unraised
  · rw [same]

theorem raises_of_holds (fails : signal.holds actor = false)
    (holds : signal.holds (actor.step input) = true) : signal.raises actor input = true := by
  rw [← not_eq_false]
  intro unraised
  have unseen (silent : ∀ name, actor.signalTo input name = none) : False := by
    rw [← holds_seen, seen_step silent unraised, holds_seen, fails] at holds
    cases holds
  cases input with
  | service now name command =>
    have told : actor.signalTo (.service now name command) name =
        ((actor.cells name).handle (actor.context now name) command).signal := if_pos rfl
    have unbarred {status : ServiceStatus} {after : ServiceState}
        (found : ((actor.step (.service now name command)).cells name).state = some after)
        (entered : after.status = status)
        (barred : (!(signal.isBarredBy status && signal.regards actor name)) = false) : False := by
      rw [not_eq_false', and_eq_true, ← entered] at barred
      rw [not_holds_of_barred found barred.1 ((regards_step _).trans barred.2)] at holds
      cases holds
    dsimp only [raises] at unraised
    split at unraised
    · next status entered =>
      obtain ⟨_, after, _, found, same, _⟩ := state_of_entered (told.trans entered)
      exact unbarred found same unraised
    · next status changed =>
      obtain ⟨after, found, same, _⟩ := state_of_health (told.trans changed)
      exact unbarred found same unraised
    · next silent =>
      refine unseen fun other => ?_
      change (if name = other then _ else none) = none
      split
      · exact silent
      · rfl
  | _ => exact unseen fun _ => rfl

/-! ### Runs -/

theorem eq_of_lowered {input : Input} (raised : actor.startupInProgress = true)
    (lowered : (actor.step input).startupInProgress = false) :
    input = .config (.setStartupInProgress false) := by
  have moves : input.movesFence = true := by
    rw [← not_eq_false]
    intro stays
    rw [startupInProgress_step stays, raised] at lowered
    cases lowered
  unfold Input.movesFence at moves
  split at moves
  · next inProgress =>
    cases inProgress with
    | true => cases lowered
    | false => rfl
  · cases moves

def latch (signal : ConfigSignal) : Latch ServiceActor Input where
  step := step
  holds := signal.holds
  latched := signal.last
  muted := startupInProgress
  resets := signal.resets
  checks := signal.checks
  raises := signal.raises
  emits actor input := .notified signal.event ∈ actor.effects input
  latched_step actor input := (signal.looks_step actor input).last
  emits_iff actor input := decide_eq_true_iff.trans (signal.looks_step actor input).given
  checks_of_unmuted actor input raised lowered := by
    rw [eq_of_lowered raised lowered]
    rfl
  raises_of_holds _ _ := raises_of_holds

theorem mem_outputs_of_emitted {inputs : List Input}
    (emitted : signal.latch.Emitted actor inputs) :
    .notified signal.event ∈ outputs step ServiceActor.effects actor inputs := by
  induction inputs generalizing actor with
  | nil => exact emitted.elim
  | cons input rest inductionHypothesis =>
    rw [outputs, mem_append]
    rcases emitted with emits | later
    · exact .inl (decide_eq_true_iff.mp emits)
    · exact .inr (inductionHypothesis later)

/-- A signal that has become true was given in between, in every run in which the actor looks after
every input with which the signal may become true and has forgotten by then that it was given
before. No signal is given that is not true. -/
theorem given_since_it_ceased (config : KeplerConfig) (startOrder : Option (List String))
    (initialized : Bool) (restored : String → ServiceState) (signal : ConfigSignal)
    (earlier later : List Input) :
    (Meets step signal.latch.Notices
        (run step (create config startOrder initialized restored) earlier) later →
      signal.holds (run step (create config startOrder initialized restored) earlier) = false →
      (run step (create config startOrder initialized restored)
        (earlier ++ later)).startupInProgress = false →
      signal.holds (run step (create config startOrder initialized restored)
        (earlier ++ later)) = true →
      .notified signal.event ∈ outputs step ServiceActor.effects
        (run step (create config startOrder initialized restored) earlier) later) ∧
    ∀ input, .notified signal.event ∈
        (run step (create config startOrder initialized restored) earlier).effects input →
      signal.holds (run step (create config startOrder initialized restored)
        (earlier ++ [input])) = true := by
  refine ⟨fun notices ceased lowered holds => ?_, fun input given => ?_⟩
  · rw [run_append] at lowered holds
    exact mem_outputs_of_emitted (Latch.emitted_of_holds notices lowered holds ceased)
  · rw [run_concat]
    exact ((signal.looks_step _ input).given.mp given).2.2.1

/-! ### A second start -/

def startedPair : KeplerConfig where
  services := (AList.singleton "db" {}).insert "web" { dependsOn := [("db", {})] }

def startBoth : List Input :=
  [.config (.setStartupInProgress true), .service 0 "db" .claimServiceStart,
    .service 1 "web" .claimServiceStart, .config (.setStartupInProgress false),
    .service 2 "db" (.setServiceStatus .starting), .service 3 "db" (.setServiceStatus .running),
    .service 4 "web" (.setServiceStatus .starting), .service 5 "web" (.setServiceStatus .running)]

theorem given_since_it_ceased_of_startBoth :
    (ready.holds (run step (create startedPair (some ["db", "web"]) false fun _ => {})
        ([] ++ startBoth)) = true) ∧
      .notified ready.event ∈ outputs step ServiceActor.effects
        (run step (create startedPair (some ["db", "web"]) false fun _ => {}) []) startBoth :=
  ⟨by decide +kernel, (given_since_it_ceased startedPair (some ["db", "web"]) false (fun _ => {})
    ready [] startBoth).1 (by decide +kernel) (by decide +kernel) (by decide +kernel)
    (by decide +kernel)⟩

/-- One service is stopped, and the other one comes to an end. -/
def endBoth : List Input :=
  [.service 6 "web" (.setServiceStatus .stopping),
    .service 7 "web" (.recordProcessExit none (some 15)),
    .service 8 "web" (.setServiceStatus .stopped),
    .service 9 "db" (.recordProcessExit (some 1) none),
    .service 10 "db" (.setServiceStatus .exited)]

/-- The first service is started again. It waits for the other one, in vain. -/
def startAgain : List Input :=
  [.config (.setStartupInProgress true), .service 11 "web" .claimServiceStart,
    .config (.setStartupInProgress false)]

/-- The config was not ready and has become ready, and there is no signal. -/
theorem no_signal_of_startAgain :
    ∃ (config : KeplerConfig) (startOrder : Option (List String)) (initialized : Bool)
      (restored : String → ServiceState) (signal : ConfigSignal) (earlier later : List Input),
      signal.holds (run step (create config startOrder initialized restored) earlier) = false ∧
      (run step (create config startOrder initialized restored)
        (earlier ++ later)).startupInProgress = false ∧
      signal.holds (run step (create config startOrder initialized restored)
        (earlier ++ later)) = true ∧
      .notified signal.event ∉ outputs step ServiceActor.effects
        (run step (create config startOrder initialized restored) earlier) later :=
  ⟨startedPair, some ["db", "web"], false, fun _ => {}, ready, startBoth ++ endBoth, startAgain,
    by decide +kernel⟩

end ConfigSignal

end Kepler
