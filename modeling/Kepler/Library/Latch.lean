/-
This file is about signals that are given once. A system looks at a condition now and then. When it
finds that the condition holds, it gives a signal and sets a latch, and it does not give the signal
again before the latch is cleared. While it is muted it does not look.

The signal follows the condition if, whenever the condition may begin to hold, the latch is clear
and the system looks.
-/

import Kepler.Library.Runs

namespace Kepler

open Runs

structure Latch (State Event : Type) where
  step : State → Event → State
  holds : State → Bool
  latched : State → Bool
  muted : State → Bool
  resets : State → Event → Bool
  checks : State → Event → Bool
  /-- The condition may begin to hold with the event. -/
  raises : State → Event → Bool
  emits : State → Event → Bool
  latched_step : ∀ state event,
    latched (step state event) = ((latched state && !resets state event) || emits state event)
  emits_iff : ∀ state event, emits state event = true ↔
    checks state event = true ∧ muted (step state event) = false ∧
      holds (step state event) = true ∧ (latched state && !resets state event) = false
  checks_of_unmuted : ∀ state event, muted state = true → muted (step state event) = false →
    checks state event = true
  raises_of_holds : ∀ state event, holds state = false → holds (step state event) = true →
    raises state event = true

namespace Latch

variable {State Event : Type} (latch : Latch State Event)

/-- If the condition may begin to hold, the latch is clear, and the system looks or is muted. -/
def Notices (state : State) (event : Event) : Prop :=
  latch.holds state = false → latch.raises state event = true →
    (latch.latched state = false ∨ latch.resets state event = true) ∧
      (latch.muted state = true ∨ latch.checks state event = true)

instance (state : State) (event : Event) : Decidable (latch.Notices state event) :=
  inferInstanceAs (Decidable (_ → _))

def Emitted : State → List Event → Prop
  | _, [] => False
  | state, event :: rest => latch.emits state event = true ∨ Emitted (latch.step state event) rest

def Pending (state : State) : Prop :=
  latch.holds state = true → latch.muted state = true ∧ latch.latched state = false

variable {latch} {state : State}

theorem pending_step {event : Event} (pending : latch.Pending state)
    (notices : latch.Notices state event) (silent : latch.emits state event = false) :
    latch.Pending (latch.step state event) := by
  intro holds
  have clear : (latch.latched state && !latch.resets state event) = false := by
    cases before : latch.holds state with
    | true => rw [(pending before).2, Bool.false_and]
    | false =>
      rcases (notices before (latch.raises_of_holds _ _ before holds)).1 with unlatched | resets
      · rw [unlatched, Bool.false_and]
      · rw [resets, Bool.not_true, Bool.and_false]
  refine ⟨?_, by rw [latch.latched_step, clear, silent, Bool.or_false]⟩
  rw [← Bool.not_eq_false]
  intro heard
  -- The system has looked, so it would have given the signal.
  have checks : latch.checks state event = true := by
    cases before : latch.holds state with
    | true => exact latch.checks_of_unmuted state event (pending before).1 heard
    | false =>
      rcases (notices before (latch.raises_of_holds _ _ before holds)).2 with muted | checks
      · exact latch.checks_of_unmuted state event muted heard
      · exact checks
  rw [(latch.emits_iff ..).mpr ⟨checks, heard, holds, clear⟩] at silent
  cases silent

section

variable {events : List Event} (notices : Meets latch.step latch.Notices state events)
  (heard : latch.muted (run latch.step state events) = false)
  (holds : latch.holds (run latch.step state events) = true)

include notices heard holds

theorem emitted_of_pending (pending : latch.Pending state) : latch.Emitted state events := by
  induction events generalizing state with
  | nil =>
    have muted : latch.muted (run latch.step state []) = true := (pending holds).1
    rw [muted] at heard
    cases heard
  | cons event rest inductionHypothesis =>
    cases emits : latch.emits state event with
    | true => exact .inl emits
    | false =>
      exact .inr (inductionHypothesis notices.2 heard holds (pending_step pending notices.1 emits))

theorem emitted_of_holds (ceased : latch.holds state = false) : latch.Emitted state events := by
  refine emitted_of_pending notices heard holds fun before => ?_
  rw [ceased] at before
  cases before

end

end Latch

end Kepler
