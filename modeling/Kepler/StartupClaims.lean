/-
This file shows what a startup claim guarantees.

The actor takes the status changes of the task that starts a service only while its claim is usable.
A claim carries the generation of its service. A stop and a new claim begin a new generation, so a
task that was overtaken can never move the service again, unless the generation comes back to the
same number.
-/

import Kepler.CommandSteps

namespace Kepler

open Runs ServiceCell Option

/-- The claim that a command has handed out with its answer. -/
def ServiceCommand.claimed : (command : ServiceCommand) → command.Reply → Option ServiceStartup
  | .claimServiceStart, reply => reply
  | .claimServiceRestart, reply => reply
  | .claimInactiveServiceRestart _, reply => reply
  | _, _ => none

namespace ServiceCell

/-! ### What a command does to claims -/

/-- The record holds the claim at its generation, and either nobody owned the reservation before or
the generation is new. -/
structure HandsOut (cell new : ServiceCell) (startup : ServiceStartup) : Prop where
  stored : new.claim = some startup
  current : startup.generation = new.generation
  status : new.status = some .waiting ∨ new.status = some .restarting
  unowned : (cell.status = some .waiting ∧ cell.claim = none ∧ new.generation = cell.generation) ∨
    new.generation = cell.generation + 1

/-- How a command can change the status, the generation and the claim of a service. -/
inductive ClaimStep (cell new : ServiceCell) : Prop where
  | kept (generation : new.generation = cell.generation) (claim : new.claim = cell.claim)
      (status : new.status = cell.status ∨ cell.isRunning ∧ new.isRunning)
  | entered (current status : ServiceStatus) (before : cell.status = some current)
      (after : new.status = some status)
      (generation : new.generation =
        if advances status current then cell.generation + 1 else cell.generation)
      (claim : new.claim =
        if advances status current || !status.isStartup then none else cell.claim)
  | claimed (startup : ServiceStartup) (handsOut : HandsOut cell new startup)

variable {cell : ServiceCell} {context : CommandContext}

variable {new : ServiceCell} {change : ServiceState → ServiceState} {state : ServiceState}
  {status : ServiceStatus} {outcome : CellOutcome (Option ServiceStartup)}
  {startup : ServiceStartup} {command : ServiceCommand}

theorem claimStep_of_fields (generation : new.generation = cell.generation)
    (claim : new.claim = cell.claim) (status : new.status = cell.status) : ClaimStep cell new :=
  .kept generation claim (.inl status)

theorem status_modifyState (preserves : ∀ state, (change state).status = state.status) :
    (cell.modifyState change).status = cell.status := by
  rw [status, status, modifyState, map_map]
  exact congrArg (cell.state.map ·) (funext preserves)

theorem setStatus_of_state (known : cell.state = some state) (now : Nat) (status : ServiceStatus) :
    (cell.setStatus now status).status = some status ∧
      (cell.setStatus now status).generation =
        (if advances status state.status then cell.generation + 1 else cell.generation) ∧
      (cell.setStatus now status).claim =
        (if advances status state.status || !status.isStartup then none else cell.claim) := by
  unfold setStatus
  simp only [known]
  split
  · exact ⟨rfl, rfl, rfl⟩
  · exact ⟨rfl, rfl, rfl⟩

theorem claimStep_setStatus (now : Nat) (status : ServiceStatus) :
    ClaimStep cell (cell.setStatus now status) := by
  cases known : cell.state with
  | none =>
    have same : cell.setStatus now status =
        if status.isRunning then cell else cell.cancelHealthCheck := by
      simp only [setStatus, known]
    rw [same]
    split <;> exact claimStep_of_fields rfl rfl rfl
  | some state =>
    obtain ⟨after, generation, claim⟩ := setStatus_of_state known now status
    exact .entered state.status status (by rw [ServiceCell.status, known, map_some])
      after generation claim

theorem ClaimStep.after_modifyState (preserves : ∀ state, (change state).status = state.status)
    (step : ClaimStep (cell.modifyState change) new) : ClaimStep cell new := by
  have same := @status_modifyState cell _ preserves
  cases step with
  | kept generation claim status =>
    have running : (cell.modifyState change).isRunning = cell.isRunning := by
      rw [isRunning, isRunning, same]
    rw [same, running] at status
    exact .kept generation claim status
  | entered current status before after generation claim =>
    exact .entered current status (same ▸ before) after generation claim
  | claimed startup handsOut =>
    exact .claimed startup ⟨handsOut.stored, handsOut.current, handsOut.status,
      same ▸ handsOut.unowned⟩

theorem claimStep_setStatus_modifyState (preserves : ∀ state, (change state).status = state.status)
    (now : Nat) (status : ServiceStatus) :
    ClaimStep cell ((cell.modifyState change).setStatus now status) :=
  (claimStep_setStatus ..).after_modifyState preserves

theorem handsOut_claimWith (known : cell.state = some state)
    (reserves : status = .waiting ∨ status = .restarting) (differs : status ≠ state.status) :
    HandsOut cell (cell.claimWith context status).cell
      ⟨((cell.setStatus context.now status)).generation⟩ := by
  obtain ⟨after, generation, claim⟩ := setStatus_of_state known context.now status
  have advance : advances status state.status = true := by
    rcases reserves with rfl | rfl
    · simp [advances, differs]
    · simp [advances, differs]
  refine ⟨rfl, rfl, ?_, .inr ?_⟩
  · change (cell.setStatus context.now status).status = some .waiting ∨
      (cell.setStatus context.now status).status = some .restarting
    rw [after]
    rcases reserves with rfl | rfl
    · exact .inl rfl
    · exact .inr rfl
  · change (cell.setStatus context.now status).generation = cell.generation + 1
    rw [generation, if_pos advance]

theorem inactive_of_includes {selected : RestartState} (included : selected.includes status.asStr) :
    status.isActive = false := by
  revert included
  cases selected <;> cases status <;> decide

/-- A claim command either hands out the claim it answers with or changes nothing. -/
def Claiming (cell : ServiceCell) (outcome : CellOutcome (Option ServiceStartup)) : Prop :=
  (outcome.cell = cell ∧ outcome.reply = none) ∨
    ∃ startup, outcome.reply = some startup ∧ HandsOut cell outcome.cell startup

theorem claiming_claimServiceStart : Claiming cell (cell.claimServiceStart context) := by
  unfold claimServiceStart
  split
  · exact .inl ⟨rfl, rfl⟩
  · rename_i waiting
    split
    · rename_i unowned
      exact .inr ⟨_, rfl, rfl, rfl, .inl waiting,
        .inl ⟨waiting, isNone_iff_eq_none.mp unowned, rfl⟩⟩
    · exact .inl ⟨rfl, rfl⟩
  · rename_i status notWaiting found
    split
    · exact .inl ⟨rfl, rfl⟩
    · obtain ⟨state, known, same⟩ := map_eq_some_iff.mp found
      exact .inr ⟨_, rfl, handsOut_claimWith known (.inl rfl) fun waiting =>
        notWaiting (same.symm.trans waiting.symm)⟩

theorem claiming_claimServiceRestart : Claiming cell (cell.claimServiceRestart context) := by
  unfold claimServiceRestart
  split
  · rename_i eligible
    obtain ⟨state, known, running⟩ := (any_eq_true ..).mp eligible
    refine .inr ⟨_, rfl, handsOut_claimWith known (.inr rfl) fun restarting => ?_⟩
    rw [← restarting] at running
    simp [ServiceStatus.isRunning] at running
  · exact .inl ⟨rfl, rfl⟩

theorem claiming_claimInactiveServiceRestart (states : List RestartState) :
    Claiming cell (cell.claimInactiveServiceRestart context states) := by
  unfold claimInactiveServiceRestart
  split
  · rename_i eligible
    obtain ⟨state, known, selected⟩ := (any_eq_true ..).mp eligible
    obtain ⟨choice, _, included⟩ := List.any_eq_true.mp (Bool.and_eq_true_iff.mp selected).2
    refine .inr ⟨_, rfl, handsOut_claimWith known (.inl rfl) fun waiting => ?_⟩
    have inactive := inactive_of_includes included
    rw [← waiting] at inactive
    exact absurd inactive (by decide)
  · exact .inl ⟨rfl, rfl⟩

theorem Claiming.claimStep (claiming : Claiming cell outcome) : ClaimStep cell outcome.cell := by
  rcases claiming with ⟨same, _⟩ | ⟨startup, _, handsOut⟩
  · rw [same]
    exact claimStep_of_fields rfl rfl rfl
  · exact .claimed startup handsOut

theorem Claiming.handsOut (claiming : Claiming cell outcome)
    (answered : outcome.reply = some startup) : HandsOut cell outcome.cell startup := by
  rcases claiming with ⟨_, none⟩ | ⟨other, answer, handsOut⟩
  · rw [none] at answered
    exact absurd answered nofun
  · rw [answer] at answered
    exact some.inj answered ▸ handsOut

theorem handsOut_of_claimed
    (claimed : command.claimed (cell.handle context command).reply = some startup) :
    HandsOut cell (cell.handle context command).cell startup := by
  cases command with
  | claimServiceStart => exact claiming_claimServiceStart.handsOut claimed
  | claimServiceRestart => exact claiming_claimServiceRestart.handsOut claimed
  | claimInactiveServiceRestart states =>
    exact (claiming_claimInactiveServiceRestart states).handsOut claimed
  | _ => exact absurd claimed nofun

theorem claimStep_transition (startup : ServiceStartup) (status : ServiceStatus)
    (skipReason failReason : Option String) :
    ClaimStep cell
      (cell.transitionServiceStartup context startup status skipReason failReason).cell := by
  unfold transitionServiceStartup
  split
  · refine claimStep_setStatus_modifyState ?_ context.now status
    exact fun _ => rfl
  · exact claimStep_of_fields rfl rfl rfl

/-- Claims stay as they are, and the status changes at most among the running ones. -/
structure KeepsClaim (cell new : ServiceCell) : Prop where
  generation : new.generation = cell.generation
  claim : new.claim = cell.claim
  status : new.status = cell.status ∨ cell.isRunning ∧ new.isRunning

theorem keepsClaim_of_fields (generation : new.generation = cell.generation)
    (claim : new.claim = cell.claim) (status : new.status = cell.status) : KeepsClaim cell new :=
  ⟨generation, claim, .inl status⟩

theorem CommandStep.keepsClaim {effects : List Effect} {signal : Option StatusSignal}
    (step : CommandStep cell context command new effects signal)
    (other : command.entersStatus = false) : KeepsClaim cell new := by
  have status_of_observed {change : ServiceState → ServiceState} {base : ServiceCell}
      (preserves : ∀ state, (change state).observed = state.observed) :
      (base.modifyState change).status = base.status :=
    status_modifyState fun state => congrArg Prod.fst (preserves state)
  cases step with
  | held | began | cancelled => exact keepsClaim_of_fields rfl rfl rfl
  | noted change preserves => exact keepsClaim_of_fields rfl rfl (status_of_observed preserves)
  | resolved | registered =>
    exact keepsClaim_of_fields rfl rfl (@status_modifyState cell _ fun _ => rfl)
  | recorded =>
    exact keepsClaim_of_fields rfl rfl
      (@status_modifyState { cell.cancelHealthCheck with process := none } _ fun _ => rfl)
  | reserved => cases other
  | claimed enters | entered enters => exact absurd enters (Bool.eq_false_iff.mp other)
  | health session passed retries found running =>
    refine ⟨rfl, rfl, .inr ⟨?_, ?_⟩⟩
    · rw [isRunning, status, found]
      exact running
    · rw [isRunning, status, modifyState, found]
      exact ServiceState.isRunning_updateHealth passed retries running

theorem keepsClaim_handle (other : command.entersStatus = false) :
    KeepsClaim cell (cell.handle context command).cell :=
  (commandStep_handle command).keepsClaim other

theorem claimStep_handle (command : ServiceCommand) :
    ClaimStep cell (cell.handle context command).cell := by
  by_cases other : command.entersStatus = false
  · obtain ⟨generation, claim, status⟩ := @keepsClaim_handle cell context command other
    exact .kept generation claim status
  cases command with
  | claimServiceStart => exact claiming_claimServiceStart.claimStep
  | claimServiceRestart => exact claiming_claimServiceRestart.claimStep
  | claimInactiveServiceRestart states =>
    exact (claiming_claimInactiveServiceRestart states).claimStep
  | transitionServiceStartup =>
    exact claimStep_transition ..
  | setServiceStatusWithReason status =>
    refine claimStep_setStatus_modifyState ?_ context.now status
    exact fun _ => rfl
  | setServiceStatus status => exact claimStep_setStatus context.now status
  | _ => exact absurd rfl other

/-! ### Claims and generations -/

/-- A stored claim is one of the current generation, and its startup is under way. -/
def ClaimSound (cell : ServiceCell) : Prop :=
  ∀ startup, cell.claim = some startup →
    startup.generation = cell.generation ∧ cell.status.any ServiceStatus.isStartup

/-- As long as no generation has followed that of a claim, the service has not been told to stop,
and the claim owns its reservation. -/
structure Undisturbed (startup : ServiceStartup) (cell : ServiceCell) : Prop where
  generation : cell.generation = startup.generation
  status : cell.status ≠ some .stopping
  owned : cell.status = some .waiting → cell.claim = some startup

variable {new : ServiceCell} {startup : ServiceStartup}

theorem not_isStartup_of_isRunning (running : cell.isRunning) :
    ¬ cell.status.any ServiceStatus.isStartup := by
  obtain ⟨status, found, running⟩ := (any_eq_true ..).mp running
  rw [found]
  revert running
  cases status <;> decide

theorem ClaimStep.sound (step : ClaimStep cell new) (sound : ClaimSound cell) :
    ClaimSound new := by
  intro startup stored
  cases step with
  | kept generation claim status =>
    obtain ⟨current, startupStatus⟩ := sound startup (claim ▸ stored)
    rw [generation]
    rcases status with same | ⟨running, _⟩
    · exact ⟨current, same ▸ startupStatus⟩
    · exact absurd startupStatus (not_isStartup_of_isRunning running)
  | entered current status before after generation claim =>
    rw [claim] at stored
    split at stored
    · exact absurd stored nofun
    · rename_i keeps
      simp only [Bool.or_eq_true, Bool.not_eq_true', not_or, Bool.not_eq_true,
        Bool.not_eq_false] at keeps
      rw [generation, if_neg (by rw [keeps.1]; exact Bool.false_ne_true), after]
      exact ⟨(sound startup stored).1, keeps.2⟩
  | claimed other handsOut =>
    cases handsOut.stored.symm.trans stored
    refine ⟨handsOut.current, ?_⟩
    rcases handsOut.status with status | status
    · rw [status]
      rfl
    · rw [status]
      rfl

theorem ClaimSound.of_serviceStartup (sound : ClaimSound cell)
    (usable : cell.serviceStartup = some startup) :
    startup.generation = cell.generation ∧ cell.status.any ServiceStatus.isStartup := by
  unfold serviceStartup at usable
  split at usable
  · exact sound startup usable
  · exact absurd usable nofun

theorem ClaimStep.generation (step : ClaimStep cell new) :
    new.generation = cell.generation ∨ new.generation = cell.generation + 1 := by
  cases step with
  | kept generation => exact .inl generation
  | entered current status before after generation claim =>
    rw [generation]
    split
    · exact .inr rfl
    · exact .inl rfl
  | claimed startup handsOut => exact handsOut.unowned.imp_left fun unowned => unowned.2.2

theorem ne_succ (generation : UInt64) : generation ≠ generation + 1 := by
  intro same
  have value := congrArg UInt64.toNat same
  have bound := generation.toNat_lt
  rw [UInt64.toNat_add] at value
  change generation.toNat = (generation.toNat + 1) % 2 ^ 64 at value
  omega

theorem HandsOut.undisturbed (handsOut : HandsOut cell new startup) : Undisturbed startup new := by
  refine ⟨handsOut.current.symm, ?_, fun _ => handsOut.stored⟩
  intro stopping
  rcases handsOut.status with status | status <;>
  · rw [stopping] at status
    exact absurd status nofun

theorem HandsOut.advances {other : ServiceStartup} (handsOut : HandsOut cell new other)
    (undisturbed : Undisturbed startup cell) : new.generation ≠ cell.generation := by
  rcases handsOut.unowned with ⟨waiting, unowned, _⟩ | advanced
  · rw [undisturbed.owned waiting] at unowned
    exact absurd unowned nofun
  · rw [advanced]
    exact (ne_succ cell.generation).symm

theorem ClaimStep.undisturbed (step : ClaimStep cell new) (before : Undisturbed startup cell)
    (generation : new.generation = cell.generation) : Undisturbed startup new := by
  cases step with
  | kept _ claim status =>
    refine ⟨generation.trans before.generation, ?_, ?_⟩
    · intro stopping
      rcases status with same | ⟨_, running⟩
      · exact before.status (same ▸ stopping)
      · rw [isRunning, stopping] at running
        exact absurd running (by decide)
    · intro waiting
      rcases status with same | ⟨_, running⟩
      · rw [claim]
        exact before.owned (same ▸ waiting)
      · rw [isRunning, waiting] at running
        exact absurd running (by decide)
  | entered current status found after advanced claim =>
    have noAdvance : advances status current = false := by
      rw [generation] at advanced
      by_contra advance
      rw [if_pos (Bool.not_eq_false _ ▸ advance)] at advanced
      exact ne_succ cell.generation advanced
    refine ⟨generation.trans before.generation, ?_, ?_⟩
    · intro stopping
      cases after.symm.trans stopping
      exact absurd noAdvance (by simp [advances])
    · intro waiting
      cases after.symm.trans waiting
      have same : current = .waiting := by
        revert noAdvance
        cases current <;> decide
      rw [claim, noAdvance]
      exact before.owned (same ▸ found)
  | claimed other handsOut => exact absurd generation (handsOut.advances before)

end ServiceCell

/-! ### Claims along a run -/

namespace ServiceActor

theorem claimStep_step (actor : ServiceActor) (name : String) (input : Input) :
    ServiceCell.ClaimStep (actor.cells name) ((actor.step input).cells name) := by
  by_cases about : ∃ now command, input = .service now name command
  · obtain ⟨now, command, rfl⟩ := about
    rw [step, cells_handle_self]
    exact claimStep_handle command
  · obtain ⟨resolved, watcher, eventSender, same⟩ := actor.cells_step_of_elsewhere
      fun now command same => about ⟨now, command, same⟩
    rw [same]
    exact claimStep_of_fields rfl rfl rfl

variable {actor : ServiceActor} {name : String} {startup : ServiceStartup} {inputs : List Input}

theorem isSome_state_step (known : (actor.cells name).state.isSome) (input : Input) :
    ((actor.step input).cells name).state.isSome := by
  have status : ∀ cell : ServiceCell, cell.status.isSome = cell.state.isSome :=
    fun cell => isSome_map ..
  rw [← status] at known ⊢
  cases claimStep_step actor name input with
  | kept generation claim same =>
    obtain same | ⟨_, running⟩ := same
    · rw [same]
      exact known
    · rw [status]
      exact isSome_state_of_isRunning running
  | entered current entered before after =>
    rw [after]
    rfl
  | claimed startup handsOut =>
    obtain waiting | restarting := handsOut.status
    · rw [waiting]
      rfl
    · rw [restarting]
      rfl

def generations (name : String) : ServiceActor → List Input → Nat
  | _, [] => 0
  | actor, input :: rest =>
    (if ((actor.step input).cells name).generation = (actor.cells name).generation then 0 else 1) +
      generations name (actor.step input) rest

theorem generations_append (name : String) (actor : ServiceActor) (first second : List Input) :
    generations name actor (first ++ second) =
      generations name actor first + generations name (run step actor first) second := by
  induction first generalizing actor with
  | nil => rw [List.nil_append, generations, Nat.zero_add]; rfl
  | cons input rest inductionHypothesis =>
    rw [List.cons_append, generations, inductionHypothesis, generations, Nat.add_assoc]
    rfl

theorem toNat_generation_run (name : String) (actor : ServiceActor) (inputs : List Input)
    (few : (actor.cells name).generation.toNat + generations name actor inputs < UInt64.size) :
    ((run step actor inputs).cells name).generation.toNat =
      (actor.cells name).generation.toNat + generations name actor inputs := by
  induction inputs generalizing actor with
  | nil => rfl
  | cons input rest inductionHypothesis =>
    rw [generations] at few ⊢
    have next : ((actor.step input).cells name).generation.toNat =
        (actor.cells name).generation.toNat +
          if ((actor.step input).cells name).generation = (actor.cells name).generation then 0
          else 1 := by
      split
      · rename_i same
        rw [same, Nat.add_zero]
      · rename_i differs
        rw [if_neg differs] at few
        rw [((claimStep_step ..).generation.resolve_left differs), UInt64.toNat_add]
        exact Nat.mod_eq_of_lt (Nat.lt_of_le_of_lt (by change _ + 1 ≤ _; omega) few)
    rw [← Nat.add_assoc, ← next] at few ⊢
    exact inductionHypothesis _ few

theorem undisturbed_run (undisturbed : (actor.cells name).Undisturbed startup)
    (none : generations name actor inputs = 0) :
    ((run step actor inputs).cells name).Undisturbed startup := by
  induction inputs generalizing actor with
  | nil => exact undisturbed
  | cons input rest inductionHypothesis =>
    rw [generations] at none
    have same : ((actor.step input).cells name).generation = (actor.cells name).generation := by
      by_contra differs
      rw [if_neg differs] at none
      omega
    refine inductionHypothesis ((claimStep_step ..).undisturbed undisturbed same) ?_
    omega

/-- An input is a claim command for a service, and its answer is a claim. -/
def HandsOut (actor : ServiceActor) (name : String) (input : Input) (startup : ServiceStartup) :
    Prop :=
  ∃ now command, input = .service now name command ∧
    command.claimed (actor.handle now name command).reply = some startup

theorem HandsOut.cell {input : Input} (handsOut : HandsOut actor name input startup) :
    (actor.cells name).HandsOut ((actor.step input).cells name) startup := by
  obtain ⟨now, command, rfl, claimed⟩ := handsOut
  rw [step, cells_handle_self]
  exact handsOut_of_claimed claimed

/-- Along a run the service was once stopping, or another claim was handed out. -/
def Superseded (actor : ServiceActor) (name : String) (inputs : List Input) : Prop :=
  (∃ first rest, inputs = first ++ rest ∧
      (run step actor first).status name = some .stopping) ∨
    ∃ first input rest startup, inputs = first ++ input :: rest ∧
      HandsOut (run step actor first) name input startup

theorem generations_pos_of_superseded (undisturbed : (actor.cells name).Undisturbed startup)
    (superseded : Superseded actor name inputs) : 0 < generations name actor inputs := by
  rcases superseded with ⟨first, rest, rfl, stopping⟩ | ⟨first, input, rest, other, rfl, handsOut⟩
  · rw [generations_append]
    by_contra none
    exact (undisturbed_run undisturbed (by omega)).status stopping
  · rw [generations_append, generations]
    by_contra none
    have quiet : generations name actor first = 0 := by omega
    rw [if_neg (handsOut.cell.advances (undisturbed_run undisturbed quiet))] at none
    omega

theorem claimSound_run (name : String)
    (sound : (actor.cells name).ClaimSound) (inputs : List Input) :
    ((run step actor inputs).cells name).ClaimSound :=
  always (fun actor input sound => (claimStep_step actor name input).sound sound) inputs sound

/-- A claim that was overtaken is not usable again. -/
theorem serviceStartup_ne_of_superseded {before rest : List Input} {first : Input}
    (sound : (actor.cells name).ClaimSound) (few : (actor.cells name).generation.toNat +
      generations name actor (before ++ first :: rest) < UInt64.size)
    (handsOut : HandsOut (run step actor before) name first startup)
    (superseded : Superseded ((run step actor before).step first) name rest) :
    ((run step actor (before ++ first :: rest)).cells name).serviceStartup ≠ some startup := by
  intro usable
  have current := ((claimSound_run name sound _).of_serviceStartup usable).1
  have claimedAt := handsOut.cell.current
  have advanced := generations_pos_of_superseded handsOut.cell.undisturbed superseded
  have split : before ++ first :: rest = (before ++ [first]) ++ rest := by
    rw [List.append_assoc, List.singleton_append]
  have reached : run step actor (before ++ [first]) = (run step ..).step first :=
    run_concat actor before first
  have total := toNat_generation_run name actor _ few
  rw [split, generations_append, reached] at few total
  have upTo := toNat_generation_run name actor (before ++ [first]) (by omega)
  rw [reached] at upTo
  rw [split] at current
  rw [← current, claimedAt] at total
  omega

structure ClaimsGuarded (actor : ServiceActor) (name : String) (inputs : List Input) : Prop where
  current : ∀ startup,
    ((run step actor inputs).cells name).serviceStartup = some startup →
      ((run step actor inputs).status name = some .waiting ∨
        (run step actor inputs).status name = some .starting ∨
        (run step actor inputs).status name = some .restarting) ∧
      startup.generation = ((run step actor inputs).cells name).generation
  exclusive : ∀ before first between second rest one other,
    inputs = before ++ first :: (between ++ second :: rest) →
      HandsOut (run step actor before) name first one →
      HandsOut (run step actor (before ++ first :: between)) name second other →
      ¬ (((run step actor inputs).cells name).serviceStartup = some one ∧
        ((run step actor inputs).cells name).serviceStartup = some other)
  rejected : ∀ before first rest startup, inputs = before ++ first :: rest →
    HandsOut (run step actor before) name first startup →
    Superseded ((run step actor before).step first) name rest →
      ∀ now status skipReason failReason,
        (run step actor inputs).handle now name
            (.transitionServiceStartup startup status skipReason failReason) =
          ⟨run step actor inputs, false, []⟩

/-- From the creation of the actor on, with fewer generations than there are numbers for them, a
usable claim is the current one, no two claims are usable together, and an overtaken claim moves
nothing. -/
theorem claimsGuarded_create (config : KeplerConfig) (startOrder : Option (List String))
    (initialized : Bool) (restored : String → ServiceState) (name : String) (inputs : List Input)
    (few : generations name (create config startOrder initialized restored) inputs <
      UInt64.size) :
    ClaimsGuarded (create config startOrder initialized restored) name inputs := by
  have sound : ((create config startOrder initialized restored).cells name).ClaimSound :=
    fun _ => nofun
  have fewFromZero : ((create config startOrder initialized restored).cells name).generation.toNat +
      generations name (create config startOrder initialized restored) inputs < UInt64.size := by
    change 0 + _ < _
    rwa [Nat.zero_add]
  refine ⟨fun startup usable => ?_, ?_, ?_⟩
  · obtain ⟨current, status⟩ := (claimSound_run name sound inputs).of_serviceStartup usable
    refine ⟨?_, current⟩
    obtain ⟨status, found, startupStatus⟩ := (any_eq_true ..).mp status
    rw [ServiceActor.status, found]
    cases status <;> simp [ServiceStatus.isStartup] at startupStatus ⊢
  · rintro before first between second rest one other rfl claimed again ⟨usable, _⟩
    refine serviceStartup_ne_of_superseded sound fewFromZero claimed
      (.inr ⟨between, second, rest, other, rfl, ?_⟩) usable
    rw [← run_append_cons]
    exact again
  · rintro before first rest startup rfl claimed superseded now status skipReason failReason
    refine handle_of_unchanged _ ?_
    exact if_neg (serviceStartup_ne_of_superseded sound fewFromZero claimed superseded)

/-- A service that is claimed, stopped while it waits, and claimed again. -/
theorem claimsGuarded_web : ClaimsGuarded
    (create webConfig (some ["web"]) false fun _ => {}) "web"
    [.service 0 "web" .claimServiceStart, .service 1 "web" (.setServiceStatus .stopping),
      .service 2 "web" (.setServiceStatus .stopped), .service 3 "web" .claimServiceStart] :=
  claimsGuarded_create _ _ _ _ _ _ (by decide +kernel)

end ServiceActor

end Kepler
