/-
This file models what happens to the changes of watched files: the channel of a file watcher with
its flag for suppression (`watcher.rs`), and the handler that restarts the services of all configs
(`spawn_file_change_handler`).

A watcher looks at its flag when it takes a batch from the channel, which may be long after the
batch was put there. The handler remembers the names of the services that are being restarted, but
not their configs, and it does not forget a name when the task panics.
-/

import Mathlib.Data.Finset.Basic
import Kepler.Library.Runs

namespace Kepler

open Runs

/-! ### The channel of a watcher -/

/-- The loop waits for a batch, has received one, or drains the channel. -/
inductive WatcherPlace where
  | waiting
  | received (batch : Bool)
  | draining
  deriving DecidableEq, Repr

/-- A file watcher. Of a batch it counts whether the watcher was suppressed when it came. -/
structure FileWatcher where
  suppressed : Bool := false
  channel : List Bool := []
  wasSuppressed : Bool := false
  place : WatcherPlace := .waiting
  deriving DecidableEq, Repr

namespace FileWatcher

/-- A call of the handle, a batch that comes, or a step of the loop. -/
inductive Event where
  | suppress
  | resume
  | enqueue
  | receive
  | look
  | drain
  deriving DecidableEq, Repr

def step (watcher : FileWatcher) : Event → FileWatcher
  | .suppress => { watcher with suppressed := true }
  | .resume => { watcher with suppressed := false }
  | .enqueue => { watcher with channel := watcher.channel ++ [watcher.suppressed] }
  | .receive => match watcher.place, watcher.channel with
    | .waiting, batch :: rest => { watcher with place := .received batch, channel := rest }
    | _, _ => watcher
  | .look => match watcher.place with
    | .received _ =>
      if watcher.wasSuppressed && !watcher.suppressed then { watcher with place := .draining }
      else { watcher with place := .waiting, wasSuppressed := watcher.suppressed }
    | _ => watcher
  | .drain => match watcher.place, watcher.channel with
    | .draining, _ :: rest => { watcher with channel := rest }
    | .draining, [] => { watcher with place := .waiting, wasSuppressed := false }
    | _, _ => watcher

/-- The batch that a step decides about, and whether it is processed. -/
def decided (watcher : FileWatcher) : Event → Option (Bool × Bool)
  | .look => match watcher.place with
    | .received batch => some (batch, !watcher.wasSuppressed && !watcher.suppressed)
    | _ => none
  | .drain => match watcher.place, watcher.channel with
    | .draining, batch :: _ => some (batch, false)
    | _, _ => none
  | _ => none

/-- A batch is processed exactly if it came while the watcher was not suppressed. -/
def Exact (watcher : FileWatcher) (event : Event) : Prop :=
  ∀ batch processed, watcher.decided event = some (batch, processed) → processed = !batch

def onTheWay (watcher : FileWatcher) : List Bool :=
  match watcher.place with
  | .received batch => batch :: watcher.channel
  | _ => watcher.channel

/-- The watcher is suppressed only while every batch on its way came in a suppression. It is resumed
only while no batch is on its way, or when the loop has learnt of the suppression, so that it will
drain the channel. A batch arrives in an active watcher only if there is nothing to drain. -/
def Calm (watcher : FileWatcher) : Event → Prop
  | .suppress => watcher.suppressed ∨ ∀ batch ∈ watcher.onTheWay, batch = true
  | .resume => watcher.wasSuppressed ∨ watcher.suppressed = false ∨ watcher.onTheWay = []
  | .enqueue => watcher.wasSuppressed → watcher.suppressed
  | _ => True

instance (watcher : FileWatcher) : (event : Event) → Decidable (watcher.Calm event)
  | .suppress => inferInstanceAs (Decidable (_ ∨ ∀ batch ∈ _, _))
  | .resume => inferInstanceAs (Decidable (_ ∨ _ ∨ _))
  | .enqueue => inferInstanceAs (Decidable (_ → _))
  | .receive | .look | .drain => .isTrue trivial

/-- Every batch on its way came under the flag as it is, or the loop has learnt of a suppression and
all of them came in it. -/
structure UpToDate (watcher : FileWatcher) : Prop where
  batches : ∀ batch ∈ watcher.onTheWay, batch = (watcher.wasSuppressed || watcher.suppressed)
  draining : watcher.place = .draining → watcher.wasSuppressed

theorem UpToDate.step {watcher : FileWatcher} (upToDate : watcher.UpToDate) (event : Event)
    (calm : watcher.Calm event) : (watcher.step event).UpToDate := by
  obtain ⟨batches, draining⟩ := upToDate
  cases event with
  | suppress =>
    refine ⟨fun batch (member : batch ∈ watcher.onTheWay) => ?_, draining⟩
    show batch = (watcher.wasSuppressed || true)
    rw [Bool.or_true]
    rcases calm with already | stale
    · rw [batches batch member, already, Bool.or_true]
    · exact stale batch member
  | resume =>
    refine ⟨fun batch (member : batch ∈ watcher.onTheWay) => ?_, draining⟩
    show batch = (watcher.wasSuppressed || false)
    rw [batches batch member]
    rcases calm with learnt | already | none
    · rw [learnt, Bool.true_or, Bool.true_or]
    · rw [already]
    · rw [none] at member
      cases member
  | enqueue =>
    refine ⟨fun batch member => ?_, draining⟩
    have arrived : (watcher.step .enqueue).onTheWay = watcher.onTheWay ++ [watcher.suppressed] := by
      unfold onTheWay FileWatcher.step
      cases watcher.place <;> rfl
    rw [arrived, List.mem_append, List.mem_singleton] at member
    rcases member with old | rfl
    · exact batches batch old
    · show watcher.suppressed = (watcher.wasSuppressed || watcher.suppressed)
      cases was : watcher.wasSuppressed with
      | true => exact calm was
      | false => rfl
  | receive =>
    unfold FileWatcher.step
    dsimp only
    split
    · next batch rest place channel =>
      refine ⟨fun other member => batches other ?_, nofun⟩
      rw [onTheWay, place, channel]
      exact member
    · exact ⟨batches, draining⟩
  | look =>
    unfold FileWatcher.step
    dsimp only
    split
    · next batch place =>
      have rest : ∀ other ∈ watcher.channel, other ∈ watcher.onTheWay := by
        intro other member
        rw [onTheWay, place]
        exact List.mem_cons_of_mem _ member
      split
      · next resumed =>
        exact ⟨fun other member => batches other (rest other member),
          fun _ => (Bool.and_eq_true_iff.mp resumed).1⟩
      · next stays =>
        refine ⟨fun other member => ?_, nofun⟩
        rw [batches other (rest other member)]
        show (watcher.wasSuppressed || watcher.suppressed) =
          (watcher.suppressed || watcher.suppressed)
        revert stays
        cases watcher.wasSuppressed <;> cases watcher.suppressed <;> decide
    · exact ⟨batches, draining⟩
  | drain =>
    unfold FileWatcher.step
    dsimp only
    split
    · next batch rest place channel =>
      refine ⟨fun other member => batches other ?_, draining⟩
      rw [onTheWay, place] at member ⊢
      rw [channel]
      exact List.mem_cons_of_mem _ member
    · next place channel =>
      refine ⟨fun other member => ?_, nofun⟩
      rw [onTheWay, channel] at member
      cases member
    · exact ⟨batches, draining⟩

theorem UpToDate.exact {watcher : FileWatcher} (upToDate : watcher.UpToDate) (event : Event) :
    watcher.Exact event := by
  obtain ⟨batches, draining⟩ := upToDate
  intro batch processed decides
  cases event with
  | look =>
    dsimp only [decided] at decides
    split at decides
    · next place =>
      cases decides
      rw [batches batch (by rw [onTheWay, place]; exact List.mem_cons_self)]
      cases watcher.wasSuppressed <;> rfl
    · cases decides
  | drain =>
    dsimp only [decided] at decides
    split at decides
    · next place channel =>
      cases decides
      rw [batches batch (by rw [onTheWay, place, channel]; exact List.mem_cons_self),
        draining place]
      rfl
    · cases decides
  | _ => cases decides

/-- No batch is lost or processed too late if the watcher is suppressed and resumed calmly. -/
theorem exact_run (events : List Event) (calm : Meets step Calm {} events) :
    Meets step Exact {} events :=
  meets_of_meets (fun _ event (upToDate : UpToDate _) => upToDate.step event)
    (fun _ event upToDate _ => upToDate.exact event) calm ⟨by decide, by decide⟩

/-- A batch is processed. Two come in a suppression, and the second is drained after it. -/
theorem exact_through_drain :
    Meets step Exact {} [.enqueue, .receive, .look, .suppress, .enqueue, .enqueue, .receive, .look,
      .resume, .receive, .look, .drain, .enqueue, .receive, .look] :=
  exact_run _ (by decide)

/-- A batch that arrived before the suppression is discarded, and so is the first one after it. One
that arrived during a suppression is processed after it. -/
theorem suppression_inexact :
    decided (run step {} [.enqueue, .suppress, .receive]) .look = some (false, false) ∧
      decided (run step {} [.suppress, .enqueue, .receive, .look, .resume, .enqueue, .receive])
        .look = some (false, false) ∧
      decided (run step {} [.suppress, .enqueue, .resume, .receive]) .look = some (true, true) := by
  decide

end FileWatcher

/-! ### The handler of all configs -/

@[ext]
structure FileChangeEvent where
  configPath : String
  serviceName : String
  deriving DecidableEq, Repr

/-- The set that the handler shares with its tasks, and the events that these handle. For the record
there are the services whose task has died. -/
structure FileChangeHandler where
  inFlight : Finset String := ∅
  restarts : Finset FileChangeEvent := ∅
  dead : Finset String := ∅

namespace FileChangeHandler

/-- An event is received, or its task has restarted the service or has panicked (in
`compute_restart_delay`). -/
inductive Step where
  | received (event : FileChangeEvent)
  | finished (event : FileChangeEvent)
  | died (event : FileChangeEvent)
  deriving DecidableEq, Repr

def Step.event : Step → FileChangeEvent
  | received event | finished event | died event => event

/-- A part of `spawn_file_change_handler`. A task that panics leaves its name in the set. -/
def step (handler : FileChangeHandler) : Step → FileChangeHandler
  | .received event =>
    if event.serviceName ∈ handler.inFlight then handler
    else { handler with
      inFlight := insert event.serviceName handler.inFlight
      restarts := insert event handler.restarts }
  | .finished event =>
    if event ∈ handler.restarts then { handler with
      inFlight := handler.inFlight.erase event.serviceName
      restarts := handler.restarts.erase event }
    else handler
  | .died event =>
    if event ∈ handler.restarts then { handler with
      restarts := handler.restarts.erase event
      dead := insert event.serviceName handler.dead }
    else handler

def handled (handler : FileChangeHandler) : Step → List FileChangeEvent
  | .received event => if event.serviceName ∈ handler.inFlight then [] else [event]
  | .finished _ | .died _ => []

/-- No service of the same name in another config is being restarted, and no task for this name has
died. -/
def Apart (handler : FileChangeHandler) : Step → Prop
  | .received event => event.serviceName ∉ handler.dead ∧
      ∀ other ∈ handler.restarts, other.serviceName = event.serviceName →
        other.configPath = event.configPath
  | .finished _ | .died _ => True

/-- The set has the names of the services that are being restarted, each once, and of dead tasks. -/
structure Consistent (handler : FileChangeHandler) : Prop where
  names : ∀ name, name ∈ handler.inFlight ↔ name ∈ handler.dead ∨
    ∃ event ∈ handler.restarts, event.serviceName = name
  unique : ∀ event ∈ handler.restarts, ∀ other ∈ handler.restarts,
    event.serviceName = other.serviceName → event = other
  alive : ∀ event ∈ handler.restarts, event.serviceName ∉ handler.dead

theorem Consistent.step {handler : FileChangeHandler} (consistent : handler.Consistent)
    (next : Step) : (handler.step next).Consistent := by
  obtain ⟨names, unique, alive⟩ := consistent
  cases next with
  | received event | finished event | died event =>
    unfold FileChangeHandler.step
    constructor <;> grind

section

variable {config : String} {handler own : FileChangeHandler}

/-- The second handler has the restarts of one config. -/
def Follows (config : String) (handler own : FileChangeHandler) : Prop :=
  own.Consistent ∧ own.dead ⊆ handler.dead ∧ ∀ event, event ∈ own.restarts ↔
    event ∈ handler.restarts ∧ event.configPath = config

theorem Follows.step (follows : Follows config handler own) (consistent : handler.Consistent)
    (next : Step) (apart : handler.Apart next) :
    Follows config (handler.step next)
        (if next.event.configPath = config then own.step next else own) ∧
      (handler.handled next).filter (·.configPath = config) =
        if next.event.configPath = config then own.handled next else [] := by
  obtain ⟨known, dead, restarts⟩ := follows
  have kept := known.step next
  cases next with
  | received event =>
    have same (isOwn : event.configPath = config) :
        event.serviceName ∈ own.inFlight ↔ event.serviceName ∈ handler.inFlight := by
      rw [known.names, consistent.names]
      grind [Apart]
    unfold Follows
    grind [FileChangeHandler.step, handled, Step.event]
  | finished event | died event =>
    unfold Follows
    grind [FileChangeHandler.step, handled, Step.event]

end

end FileChangeHandler

end Kepler
