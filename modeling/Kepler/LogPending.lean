/-
This file is about the counter of the entries that a log store has not written yet.

A sender counts its entry before it puts it into the channel, and the actor takes a whole batch off
the counter when it is done with it: when the batch is in the table, when the last attempt to write
it has failed, or when a flush finds that everything is to be discarded. The third is no loss that
the counter should show: it only happens after `shutdown_discard`, when the whole state directory is
about to be deleted.
-/

import Kepler.LogBatches
import Mathlib.Data.List.Perm.Basic

namespace Kepler

open Runs List Position

inductive Fate where
  | stored
  /-- the last attempt to write its batch failed -/
  | dropped
  /-- a flush of its batch found the discard flag -/
  | discarded
deriving DecidableEq, Repr

/-- The fate of a batch at the end of a flush, unless it was stored in the transaction. -/
def FlushResult.fate : FlushResult → Option Fate
  | .stored => none
  | .discarding => some .discarded
  | .gaveUp => some .dropped

namespace LogStore

def announced (_ : LogStore) : LogEvent → List InsertEntry
  | .announce entry => [entry]
  | _ => []

def batchFate (store : LogStore) (answer : Answer) : Option Fate :=
  match store.position with
  | .writing _ _ => if answer.outcome = .done then some .stored else none
  | .settling result _ => result.fate
  | _ => none

def decided (store : LogStore) : LogEvent → List (InsertEntry × Fate)
  | .actor answer =>
    match store.batchFate answer with
    | some fate => store.batch.map fun entry => (entry, fate)
    | none => []
  | _ => []

/-! ### The traffic of entries -/

theorem writes_append (first second : List LogCommand) :
    writes (first ++ second) = writes first ++ writes second := filterMap_append

theorem writes_held (caller : FlushCaller) : writes caller.held = [] := by
  cases caller with
  | command command => cases command with
    | _ => rfl
  | _ => rfl

variable {store next : LogStore} {answer : Answer} {position : Position} {queue : List LogCommand}
  {entry : InsertEntry} {caller : FlushCaller}

theorem writes_undone (place : store.position = position) (none : writes position.held = []) :
    writes store.undone = writes store.queue := by
  rw [undone, place, writes_append, none, nil_append]

theorem writes_undone_of_free (free : store.position.Free) :
    writes store.undone = writes store.queue := writes_undone rfl (by rw [free.held]; rfl)

theorem decided_eq_nil (none : store.batchFate answer = none) :
    store.decided (.actor answer) = [] := by
  rw [decided, none]

theorem decided_of_not_busy (idle : store.position.busy = false) (answer : Answer) :
    store.decided (.actor answer) = [] := by
  refine decided_eq_nil ?_
  unfold batchFate
  split
  · rename_i writing
    rw [writing] at idle
    cases idle
  · rename_i settling
    rw [settling] at idle
    cases idle
  · rfl

theorem unwritten_of_not_stored (place : store.position.stored = false) :
    store.unwritten = store.batch := by
  rw [unwritten, place]
  rfl

/-- A step of the actor loses no entry and keeps the counter in line. -/
structure Traffic (store : LogStore) (decided : List (InsertEntry × Fate)) (next : LogStore) :
    Prop where
  running : store.position.running = true
  sending : next.sending = store.sending
  count : next.pendingCount + store.batch.length + (writes store.undone).length =
    store.pendingCount + next.batch.length + (writes next.undone).length
  entries : decided.map Prod.fst ++ next.unwritten ++ writes next.undone =
    store.unwritten ++ writes store.undone

theorem Traffic.still (running : store.position.running = true)
    (idle : store.position.busy = false) (after : next.position.stored = false)
    (sending : next.sending = store.sending) (count : next.pendingCount = store.pendingCount)
    (batch : next.batch = store.batch) (same : writes next.undone = writes store.undone) :
    Traffic store (store.decided (.actor answer)) next where
  running := running
  sending := sending
  count := by rw [count, batch, same]
  entries := by
    rw [decided_of_not_busy idle, unwritten_of_not_stored after, batch, same,
      unwritten_of_not_stored (stored_of_not_busy idle)]
    rfl

theorem Traffic.resumes {logs : LogTable} {replies : List Nat}
    (running : store.position.running = true) (idle : store.position.busy = false)
    (same : writes queue = writes store.undone)
    (resumes : { store with logs := logs, queue := queue, replies := replies }.Resumes next) :
    Traffic store (store.decided (.actor answer)) next := by
  obtain ⟨position, calls, cleanupHasMore, resting, rfl, cleaning⟩ := resumes
  have free := free_of_resting resting
  refine .still running idle (stored_of_not_busy free.busy) rfl rfl rfl ?_
  rw [← same]
  exact writes_undone_of_free free

theorem Traffic.gathered (running : store.position.running = true)
    (idle : store.position.busy = false) (free : position.Free)
    (first : writes store.undone = entry :: writes queue) :
    Traffic store (store.decided (.actor answer))
      { store with queue := queue, batch := store.batch ++ [entry], position := position } := by
  have after : writes { store with
      queue := queue, batch := store.batch ++ [entry], position := position }.undone =
        writes queue := writes_undone_of_free free
  refine ⟨running, rfl, ?_, ?_⟩
  · rw [after, first, length_cons]
    show store.pendingCount + _ + _ = store.pendingCount + ((store.batch ++ [entry]).length : Int) + _
    rw [length_append, length_singleton]
    push_cast
    omega
  · rw [after, first, decided_of_not_busy idle,
      unwritten_of_not_stored (stored_of_not_busy free.busy),
      unwritten_of_not_stored (stored_of_not_busy idle)]
    show store.batch ++ [entry] ++ writes queue = store.batch ++ entry :: writes queue
    rw [append_assoc, singleton_append]

theorem Traffic.flushes {degraded : Bool} {before : Position} (place : store.position = before)
    (running : before.running = true) (idle : before.busy = false) (after : position.stored = false)
    (same : writes position.held = writes before.held) :
    Traffic store (store.decided (.actor answer))
      { store with position := position, degraded := degraded } := by
  subst place
  refine .still running idle after rfl rfl rfl ?_
  show writes (position.held ++ store.queue) = writes (store.position.held ++ store.queue)
  rw [writes_append, writes_append, same]

theorem map_fst_decided (decides : (store.batchFate answer).isSome) :
    (store.decided (.actor answer)).map Prod.fst = store.batch := by
  obtain ⟨fate, decides⟩ := Option.isSome_iff_exists.mp decides
  rw [decided, decides]
  show (store.batch.map fun entry => (entry, fate)).map Prod.fst = store.batch
  rw [map_map]
  exact map_id _

theorem traffic_written {attempt : Nat} (writing : store.position = .writing attempt caller) :
    Traffic store (store.decided (.actor answer)) (store.tryWriteBatch answer attempt caller) := by
  have before : store.unwritten = store.batch := unwritten_of_not_stored (writing ▸ rfl)
  have same : writes (store.tryWriteBatch answer attempt caller).undone = writes store.undone := by
    rw [undone, undone, writing, tryWriteBatch]
    split_ifs <;> rfl
  refine ⟨writing ▸ rfl, rfl, ?_, ?_⟩
  · rw [same]
    rfl
  · rw [same, before]
    by_cases done : answer.outcome = .done
    · have stored : store.batchFate answer = some .stored := by
        rw [batchFate, writing]
        exact if_pos done
      have after : (store.tryWriteBatch answer attempt caller).unwritten = [] := by
        rw [tryWriteBatch, if_pos done]
        rfl
      rw [map_fst_decided (stored ▸ rfl), after, append_nil]
    · have undecided : store.batchFate answer = none := by
        rw [batchFate, writing]
        exact if_neg done
      have after : (store.tryWriteBatch answer attempt caller).unwritten = store.batch := by
        refine unwritten_of_not_stored ?_
        rw [tryWriteBatch, if_neg done]
        split_ifs <;> rfl
      rw [decided_eq_nil undecided, after]
      rfl

/-- The end of a flush decides the fate of a batch that is not stored. -/
theorem traffic_settled {result : FlushResult} (settling : store.position = .settling result caller) :
    Traffic store (store.decided (.actor answer)) (store.settle result caller) := by
  have same : writes (store.settle result caller).undone = writes store.undone := by
    rw [undone, undone, settling]
    rfl
  refine ⟨settling ▸ rfl, rfl, ?_, ?_⟩
  · rw [same]
    show store.pendingCount - store.batch.length + store.batch.length + _ =
      store.pendingCount + (0 : Nat) + _
    omega
  · rw [same]
    cases result with
    | stored =>
      have undecided : store.batchFate answer = none := by
        rw [batchFate, settling]
        rfl
      rw [decided_eq_nil undecided, unwritten, unwritten, settling]
      rfl
    | discarding | gaveUp =>
      have decides : (store.batchFate answer).isSome := by
        rw [batchFate, settling]
        rfl
      rw [map_fst_decided decides, unwritten, unwritten, settling]
      exact congrArg (· ++ _) (append_nil _)

theorem traffic_actorStep (step : ActorStep store answer next)
    (running : next.position.running = true) :
    Traffic store (store.decided (.actor answer)) next := by
  cases step with
  | idle idle =>
    exact .still running idle (stored_of_not_busy idle) rfl rfl rfl rfl
  | resumed free resumes =>
    exact .resumes free.running free.busy (writes_undone_of_free free).symm resumes
  | skipped found free resumes =>
    refine .resumes free.running free.busy ?_ resumes
    rw [writes_undone_of_free free, found]
    rfl
  | noted places resumes =>
    rcases places with place | place <;>
      exact .resumes (place ▸ rfl) (place ▸ rfl) (writes_undone place rfl).symm resumes
  | cleared flushed selects resumes =>
    exact .resumes (flushed ▸ rfl) (flushed ▸ rfl)
      (writes_undone flushed (writes_held _)).symm resumes
  | replied flushed resumes | expired flushed resumes =>
    exact .resumes (flushed ▸ rfl) (flushed ▸ rfl) (writes_undone flushed rfl).symm resumes
  | hanging position free cause hanging =>
    have after := free_of_hanging hanging
    refine .still free.running free.busy (stored_of_not_busy after.busy) rfl rfl rfl ?_
    rw [writes_undone_of_free free]
    exact writes_undone_of_free after
  | @taken command queue position found free places =>
    have still : position.held = [command] ∧ position.stored = false := by
      rcases places with rfl | ⟨rfl, other⟩
      · exact ⟨rfl, rfl⟩
      · exact ⟨FlushCaller.held_command other, rfl⟩
    refine .still free.running free.busy still.2 rfl rfl rfl ?_
    show writes (position.held ++ queue) = writes (store.position.held ++ store.queue)
    rw [still.1, free.held, found]
    rfl
  | @collected entry queue position found before resting cleaning =>
    refine .gathered before.running before.busy (free_of_resting resting) ?_
    rw [writes_undone_of_free before, found]
    rfl
  | @pushed entry received =>
    refine .gathered (received ▸ rfl) (received ▸ rfl) ⟨rfl, rfl, rfl⟩ ?_
    rw [undone, received]
    rfl
  | @handled command received other =>
    exact .flushes received rfl rfl rfl (congrArg writes (FlushCaller.held_command other))
  | clean _ flushing | begun flushing | refused flushing | attempted flushing
  | cleanupDue flushing | cleanupAsked flushing => exact .flushes flushing rfl rfl rfl rfl
  | written writing => exact traffic_written writing
  | settled settling => exact traffic_settled settling
  | ended | discarded | drained | emptied | zeroed => cases running

/-! ### Runs -/

/-- The counter, the entries that were sent and their fates fit to each other while the actor runs.
-/
structure Accounted (sent : List InsertEntry) (fates : List (InsertEntry × Fate))
    (store : LogStore) : Prop where
  count : store.position.running = true → store.pendingCount =
    store.sending.length + (writes store.undone).length + store.batch.length
  nonneg : 0 ≤ store.pendingCount
  entries : store.position.running = true →
    sent.Perm (fates.map Prod.fst ++ (store.unwritten ++ writes store.undone) ++ store.sending)
  flagged : ∀ entry, (entry, Fate.discarded) ∈ fates → store.discardFlag = true
  discarding : ∀ caller, store.position = .settling .discarding caller → store.discardFlag = true

variable {sent : List InsertEntry} {fates : List (InsertEntry × Fate)}

theorem Accounted.announce (accounted : Accounted sent fates store) (entry : InsertEntry) :
    Accounted (sent ++ [entry]) fates { store with
      sending := store.sending ++ [entry], pendingCount := store.pendingCount + 1 } where
  count running := by
    show store.pendingCount + 1 = ((store.sending ++ [entry]).length : Int) +
      (writes store.undone).length + store.batch.length
    rw [length_append, length_singleton, accounted.count running]
    push_cast
    omega
  nonneg := Int.le_add_one accounted.nonneg
  entries running := by
    show (sent ++ [entry]).Perm (_ ++ (store.sending ++ [entry]))
    rw [← append_assoc]
    exact (accounted.entries running).append_right [entry]
  flagged := accounted.flagged
  discarding := accounted.discarding

theorem Accounted.push (accounted : Accounted sent fates store) {sending : List InsertEntry}
    {command : LogCommand} (balance : store.sending.Perm (writes [command] ++ sending)) :
    Accounted sent fates ({ store with sending := sending }.push command) := by
  by_cases closed : store.position = .returned
  · rw [LogStore.push, if_pos closed]
    refine ⟨fun running => ?_, accounted.nonneg, fun running => ?_, accounted.flagged,
      accounted.discarding⟩ <;>
    · rw [closed] at running
      cases running
  · have queued : writes (store.position.held ++ (store.queue ++ [command])) =
        writes store.undone ++ writes [command] := by
      rw [← append_assoc, writes_append]
      rfl
    rw [LogStore.push, if_neg closed]
    refine ⟨fun running => ?_, accounted.nonneg, fun running => ?_, accounted.flagged,
      accounted.discarding⟩
    · show store.pendingCount = (sending.length : Int) +
        (writes (store.position.held ++ (store.queue ++ [command]))).length + store.batch.length
      have moved := balance.length_eq
      rw [length_append] at moved
      rw [queued, length_append, accounted.count running, moved]
      push_cast
      omega
    · show sent.Perm (fates.map Prod.fst ++ (store.unwritten ++
        writes (store.position.held ++ (store.queue ++ [command]))) ++ sending)
      rw [queued, ← append_assoc store.unwritten, ← append_assoc (fates.map Prod.fst),
        append_assoc _ (writes [command])]
      exact (accounted.entries running).trans (balance.append_left _)

theorem Resumes.not_settling (resumes : store.Resumes next) (result : FlushResult)
    (caller : FlushCaller) : next.position ≠ .settling result caller := by
  obtain ⟨position, calls, cleanupHasMore, resting, rfl, cleaning⟩ := resumes
  rintro rfl
  cases resting

theorem discardFlag_actorStep (step : ActorStep store answer next) :
    next.discardFlag = store.discardFlag := by
  cases step with
  | resumed _ resumes | skipped _ _ resumes | noted _ resumes | cleared _ _ resumes
  | replied _ resumes | expired _ resumes => exact resumes.keeps.2.2
  | _ => rfl

/-- Only a running actor lowers the counter, except that it is set to zero in the end. -/
theorem pendingCount_actorStep (step : ActorStep store answer next) :
    next.pendingCount = store.pendingCount ∨ next.pendingCount = 0 ∨
      next.position.running = true := by
  cases step with
  | resumed _ resumes | skipped _ _ resumes | noted _ resumes | cleared _ _ resumes
  | replied _ resumes | expired _ resumes => exact .inl resumes.keeps.2.1
  | settled => exact .inr (.inr rfl)
  | zeroed => exact .inr (.inl rfl)
  | _ => exact .inl rfl

/-- A flush gives its batch up for a discard only when it has found the flag. -/
theorem refused_of_discarding (step : ActorStep store answer next)
    (discarding : next.position = .settling .discarding caller) :
    store.discardFlag = true ∨ next = store := by
  cases step with
  | idle => exact .inr rfl
  | refused _ flagged => exact .inl flagged
  | resumed _ resumes | skipped _ _ resumes | noted _ resumes | cleared _ _ resumes
  | replied _ resumes | expired _ resumes => exact (resumes.not_settling _ _ discarding).elim
  | hanging position free cause hanging =>
    rw [show position = _ from discarding] at hanging
    simp [Position.hanging] at hanging
  | taken position found free places =>
    rcases places with rfl | ⟨rfl, other⟩
    · cases discarding
    · cases discarding
  | collected position found before resting =>
    rw [show position = _ from discarding] at resting
    cases resting
  | written =>
    rw [tryWriteBatch] at discarding
    split_ifs at discarding <;> cases discarding
  | _ => cases discarding

theorem flagged_of_decided (accounted : Accounted sent fates store)
    (member : (entry, Fate.discarded) ∈ store.decided (.actor answer)) :
    store.discardFlag = true := by
  have fate : store.batchFate answer = some .discarded := by
    cases decides : store.batchFate answer with
    | none =>
      rw [decided_eq_nil decides] at member
      cases member
    | some fate =>
      rw [decided, decides] at member
      obtain ⟨other, _, same⟩ := mem_map.mp member
      rw [(Prod.mk.inj same).2]
  unfold batchFate at fate
  split at fate
  · split at fate <;> cases fate
  · rename_i result caller settling
    cases result with
    | discarding => exact accounted.discarding caller settling
    | _ => cases fate
  · cases fate

theorem Accounted.actorStep (accounted : Accounted sent fates store)
    (step : ActorStep store answer next) :
    Accounted sent (fates ++ store.decided (.actor answer)) next := by
  have count : next.position.running = true → next.pendingCount =
      next.sending.length + (writes next.undone).length + next.batch.length := by
    intro running
    have traffic := traffic_actorStep step running
    have before := accounted.count traffic.running
    have count := traffic.count
    rw [traffic.sending]
    omega
  refine ⟨count, ?_, ?_, ?_, ?_⟩
  · rcases pendingCount_actorStep step with same | zero | running
    · exact same ▸ accounted.nonneg
    · exact zero.ge
    · rw [count running]
      omega
  · intro running
    have traffic := traffic_actorStep step running
    have entries := traffic.entries
    rw [append_assoc] at entries
    rw [map_append, append_assoc (fates.map Prod.fst), entries, traffic.sending]
    exact accounted.entries traffic.running
  · intro entry member
    rw [discardFlag_actorStep step]
    rcases mem_append.mp member with member | member
    · exact accounted.flagged entry member
    · exact flagged_of_decided accounted member
  · intro caller discarding
    rw [discardFlag_actorStep step]
    rcases refused_of_discarding step discarding with flagged | same
    · exact flagged
    · exact accounted.discarding caller (same ▸ discarding)

theorem Accounted.step (accounted : Accounted sent fates store) (event : LogEvent) :
    Accounted (sent ++ store.announced event) (fates ++ store.decided event)
      (store.step event) := by
  have unchanged : Accounted (sent ++ []) (fates ++ []) store := by
    rw [append_nil, append_nil]
    exact accounted
  cases event with
  | announce entry =>
    show Accounted (sent ++ [entry]) (fates ++ []) _
    rw [append_nil]
    exact accounted.announce entry
  | enqueue index =>
    show Accounted (sent ++ []) (fates ++ []) _
    simp only [LogStore.step]
    split
    · rename_i entry found
      obtain ⟨inside, rfl⟩ := List.getElem?_eq_some_iff.mp found
      rw [append_nil, append_nil]
      exact accounted.push (getElem_cons_eraseIdx_perm inside).symm
    · exact unchanged
  | request command =>
    show Accounted (sent ++ []) (fates ++ []) _
    cases command with
    | write entry => exact unchanged
    | _ =>
      rw [append_nil, append_nil]
      exact accounted.push (.refl _)
  | shutdownDiscard =>
    show Accounted (sent ++ []) (fates ++ []) _
    rw [append_nil, append_nil]
    exact ⟨accounted.count, accounted.nonneg, accounted.entries, fun _ _ => rfl, fun _ _ => rfl⟩
  | actor answer =>
    show Accounted (sent ++ []) _ _
    rw [append_nil]
    exact accounted.actorStep (store.actorStep_cases answer)

theorem accounted_run (logs : LogTable) (batchSize : Nat) (retention : Option Int)
    (events : List LogEvent) :
    let start := spawn logs batchSize retention
    Accounted (outputs step announced start events) (outputs step decided start events)
      (run step start events) := by
  intro start
  have initially : Accounted [] [] start :=
    ⟨fun _ => rfl, le_rfl, fun _ => .nil, nofun,
      nofun⟩
  have keeps : ∀ (sent : List InsertEntry) (fates : List (InsertEntry × Fate)) (store : LogStore)
      (event : LogEvent), Accounted sent fates store → True →
      Accounted (sent ++ store.announced event) (fates ++ store.decided event)
        (store.step event) :=
    fun _ _ _ event accounted _ => accounted.step event
  exact histories keeps (meets_of_forall start fun _ _ => trivial) initially

theorem Accounted.settled (accounted : Accounted sent fates store)
    (running : store.position.running = true) (idle : store.hasPending = false) :
    sent.Perm (fates.map Prod.fst) := by
  have zero : store.sending.length + (writes store.undone).length + store.batch.length = 0 := by
    have none : ¬ 0 < store.pendingCount := of_decide_eq_false idle
    have count := accounted.count running
    omega
  have sending : store.sending = [] := length_eq_zero_iff.mp (by omega)
  have queued : writes store.undone = [] := length_eq_zero_iff.mp (by omega)
  have batch : store.batch = [] := length_eq_zero_iff.mp (by omega)
  have entries := accounted.entries running
  rw [sending, queued, unwritten_of_empty batch, append_nil, append_nil,
    append_nil] at entries
  exact entries

/-- In every run of a log store the counter is never negative. While the actor runs, it is the
number of the entries that are counted and not in the channel yet, that are in the channel or just
taken out of it, and that are in the batch. When it is zero, every entry that was sent is stored,
was dropped after the last failed attempt to write it, or was dropped by a flush that found the
discard flag. -/
theorem pendingCount_counts (logs : LogTable) (batchSize : Nat) (retention : Option Int)
    (events : List LogEvent) :
    let start := spawn logs batchSize retention
    let store := run step start events
    let fates := outputs step decided start events
    0 ≤ store.pendingCount ∧
    (store.position.running = true →
      store.pendingCount =
        store.sending.length + (writes store.undone).length + store.batch.length ∧
      (store.hasPending = false →
        (outputs step announced start events).Perm (fates.map Prod.fst) ∧
        ((∃ entry, (entry, Fate.discarded) ∈ fates) → store.discardFlag = true))) := by
  intro start store fates
  have accounted : Accounted (outputs ..) fates store :=
    accounted_run logs batchSize retention events
  refine ⟨accounted.nonneg, fun running => ⟨accounted.count running, fun idle => ⟨?_, ?_⟩⟩⟩
  · exact accounted.settled running idle
  · rintro ⟨entry, member⟩
    exact accounted.flagged entry member

/-- A flush that finds the discard flag takes its batch off the counter while the actor still runs.
The entry was neither stored nor did an attempt to write it fail. -/
theorem discarded_before_any_attempt :
    let entry : InsertEntry := ⟨0, "web", none, "info", "ready", none⟩
    let start := spawn default 10 none
    let events := [.announce entry, .enqueue 0, .actor {}, .actor {}, .actor {}, .actor {},
      .actor {}, .shutdownDiscard, .actor { elapsed := true }, .actor {}, .actor {}, .actor {}]
    let store := run step start events
    store.position.running = true ∧ store.hasPending = false ∧
      outputs step announced start events = [entry] ∧ store.logs.rows = [] ∧
      outputs step decided start events = [(entry, .discarded)] := by
  decide +kernel

end LogStore

end Kepler
