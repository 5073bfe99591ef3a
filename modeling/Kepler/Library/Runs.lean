/-
This file is about systems that take step after step. The event of a step carries whatever the
system does not decide itself, so that a step is a function and a run is a list of events. Steps may
be limited by a condition on the event and on the state it meets.
-/

namespace Kepler.Runs

variable {State Event : Type} (step : State → Event → State)

def run (state : State) (events : List Event) : State := events.foldl step state

/-- Every event of the list meets the condition in the state in which it takes place. -/
def Meets (condition : State → Event → Prop) : State → List Event → Prop
  | _, [] => True
  | state, event :: rest => condition state event ∧ Meets condition (step state event) rest

instance {condition : State → Event → Prop}
    [∀ state event, Decidable (condition state event)] :
    (state : State) → (events : List Event) → Decidable (Meets step condition state events)
  | _, [] => isTrue trivial
  | state, event :: rest =>
    have : Decidable (Meets step condition (step state event) rest) :=
      instDecidableMeets (step state event) rest
    inferInstanceAs (Decidable (condition state event ∧ _))

variable {step}

theorem run_append (state : State) (events rest : List Event) :
    run step state (events ++ rest) = run step (run step state events) rest :=
  List.foldl_append

theorem run_concat (state : State) (events : List Event) (last : Event) :
    run step state (events ++ [last]) = step (run step state events) last :=
  run_append ..

theorem run_append_cons (state : State) (events rest : List Event) (event : Event) :
    run step state (events ++ event :: rest) =
      run step (step (run step state events) event) rest :=
  run_append ..

variable {condition : State → Event → Prop} {events : List Event} {state : State}
  {Holds : State → Prop} {conclusion : State → Event → Prop}

theorem meets_concat (state : State) (events : List Event) (last : Event) :
    Meets step condition state (events ++ [last]) ↔
      Meets step condition state events ∧ condition (run step state events) last := by
  induction events generalizing state with
  | nil => exact ⟨fun meets => ⟨trivial, meets.1⟩, fun meets => ⟨meets.2, trivial⟩⟩
  | cons event rest inductionHypothesis =>
    rw [List.cons_append, Meets, inductionHypothesis, Meets, and_assoc]
    rfl

theorem invariant
    (keeps : ∀ state event, Holds state → condition state event → Holds (step state event))
    (meets : Meets step condition state events) (initially : Holds state) :
    Holds (run step state events) := by
  induction events generalizing state with
  | nil => exact initially
  | cons event rest inductionHypothesis =>
    exact inductionHypothesis meets.2 (keeps state event initially meets.1)

/-- A condition on every step gives another one, with the help of an invariant. -/
theorem meets_of_meets
    (keeps : ∀ state event, Holds state → condition state event → Holds (step state event))
    (gives : ∀ state event, Holds state → condition state event → conclusion state event)
    (meets : Meets step condition state events) (initially : Holds state) :
    Meets step conclusion state events := by
  induction events generalizing state with
  | nil => exact trivial
  | cons event rest inductionHypothesis =>
    exact ⟨gives state event initially meets.1,
      inductionHypothesis meets.2 (keeps state event initially meets.1)⟩

theorem meets_and {first second : State → Event → Prop} :
    Meets step (fun state event => first state event ∧ second state event) state events ↔
      Meets step first state events ∧ Meets step second state events := by
  induction events generalizing state with
  | nil => exact iff_of_true trivial ⟨trivial, trivial⟩
  | cons event rest inductionHypothesis =>
    rw [Meets, Meets, Meets, inductionHypothesis, and_and_and_comm]

theorem meets_congr (same : ∀ state event, condition state event ↔ conclusion state event) :
    Meets step condition state events ↔ Meets step conclusion state events := by
  induction events generalizing state with
  | nil => exact Iff.rfl
  | cons event rest inductionHypothesis => exact and_congr (same ..) inductionHypothesis

theorem meets_of_forall {allowed : Event → Prop} (state : State)
    (all : ∀ event ∈ events, allowed event) :
    Meets step (fun _ event => allowed event) state events := by
  induction events generalizing state with
  | nil => exact trivial
  | cons event rest inductionHypothesis =>
    obtain ⟨first, others⟩ := List.forall_mem_cons.mp all
    exact ⟨first, inductionHypothesis _ others⟩

theorem always (keeps : ∀ state event, Holds state → Holds (step state event)) (events : List Event)
    (initially : Holds state) : Holds (run step state events) :=
  invariant (fun state event holds _ => keeps state event holds)
    (meets_of_forall state fun _ _ => trivial) initially

/-! ### What a run gives -/

section Outputs

variable {Output : Type}

variable (step) in
def outputs (observe : State → Event → List Output) : State → List Event → List Output
  | _, [] => []
  | state, event :: rest => observe state event ++ outputs observe (step state event) rest

/-- A relation between two outputs of a run and its state that every step keeps. -/
theorem histories {Other : Type} {condition : State → Event → Prop}
    {first : State → Event → List Output} {second : State → Event → List Other}
    {Holds : List Output → List Other → State → Prop}
    (keeps : ∀ given taken state event, Holds given taken state → condition state event →
      Holds (given ++ first state event) (taken ++ second state event) (step state event))
    {events : List Event} (meets : Meets step condition state events) {given : List Output}
    {taken : List Other} (initially : Holds given taken state) :
    Holds (given ++ outputs step first state events) (taken ++ outputs step second state events)
      (run step state events) := by
  induction events generalizing state given taken with
  | nil =>
    rw [outputs, outputs, List.append_nil, List.append_nil]
    exact initially
  | cons event rest inductionHypothesis =>
    rw [outputs, outputs, ← List.append_assoc, ← List.append_assoc]
    exact inductionHypothesis meets.2 (keeps given taken state event initially meets.1)

end Outputs

end Kepler.Runs
