/-
This file is about readers that page through a log while it grows.

A request for the log of a loaded config says that there is nothing more only if it found no pending
entries before it read the table. While rows are only added, every line that was handed to the store
before is then in the table when the request reads it. A config that is not loaded any more has no
counter to look at, and its store may still have lines to write.
-/

import Kepler.LogPending
import Kepler.LogReader

namespace Kepler

open Runs List LogQuery Position RowTable

/-! ### A store that only grows -/

/-- An event of a store from which nothing is deleted and whose statements succeed. -/
def LogEvent.Sparing : LogEvent → Prop
  | .request command => command.batched = true ∧ command.doomed.isNone
  | .shutdownDiscard => False
  | .actor answer => answer.outcome = .done
  | _ => True

instance : (event : LogEvent) → Decidable event.Sparing
  | .announce _ => .isTrue trivial
  | .enqueue _ => .isTrue trivial
  | .request command => inferInstanceAs (Decidable (command.batched = true ∧ command.doomed.isNone))
  | .shutdownDiscard => .isFalse id
  | .actor answer => inferInstanceAs (Decidable (answer.outcome = .done))

/-- The actor is told to end, or finds the channel disconnected. -/
def LogEvent.ends : LogEvent → Bool
  | .request .shutdown => true
  | .actor answer => answer.idle == .disconnected
  | _ => false

/-- The store is loaded, nothing is deleted from it, and its statements succeed. -/
def LogEvent.Appending (event : LogEvent) : Prop := event.Sparing ∧ event.ends = false

instance (event : LogEvent) : Decidable event.Appending :=
  inferInstanceAs (Decidable (event.Sparing ∧ event.ends = false))

theorem Position.open_of_resting {position : Position} (resting : position.resting = true) :
    position.leaving = false := by
  cases position with
  | received message => cases message with
    | command _ | disconnected => cases resting
    | timeout => rfl
  | flushBatch caller => cases caller with
    | command _ | disconnected => cases resting
    | _ => rfl
  | flushAttempt | writing | settling | flushed | hungUp => cases resting
  | _ => rfl

variable {entries : List InsertEntry} {pipeline next : Pipeline}

theorem Pipeline.Step.undone_subset (step : Pipeline.Step pipeline entries next) :
    next.undone ⊆ pipeline.undone := by
  cases step with
  | same | written => exact List.Subset.refl _
  | gathered first | executed first _ _ | noted first =>
    rw [first]
    exact subset_cons_self _ _

theorem Pipeline.Step.logs_eq (step : Pipeline.Step pipeline entries next)
    (keeps : ∀ command ∈ pipeline.undone, command.doomed = none) :
    next.logs = pipeline.logs.insertAll entries := by
  cases step with
  | same | gathered | written | noted => rfl
  | @executed command rest first flushed other =>
    have kept := keeps command (by rw [first]; exact mem_cons_self)
    cases command with
    | write => cases other
    | clear | clearService | clearServiceHooks => cases kept
    | _ => rfl

namespace LogStore

/-- What holds in every state of a store from which nothing is deleted. -/
structure Sparing (store : LogStore) : Prop where
  steady : store.Steady
  keeps : ∀ command ∈ store.undone, command.doomed = none

/-- What holds in every state of a store that only grows. -/
structure Growing (store : LogStore) : Prop extends Sparing store where
  running : store.position.running = true
  stays : store.position.leaving = false
  serves : .shutdown ∉ store.undone

variable {store next : LogStore} {answer : Answer} {event : LogEvent} {events : List LogEvent}

theorem Resumes.alive (resumes : store.Resumes next) :
    next.position.running = true ∧ next.position.leaving = false := by
  obtain ⟨position, calls, cleanupHasMore, resting, rfl, cleaning⟩ := resumes
  exact ⟨(free_of_resting resting).running, open_of_resting resting⟩

theorem Growing.alive_actorStep (growing : store.Growing) (connected : answer.idle ≠ .disconnected)
    (step : ActorStep store answer next) :
    next.position.running = true ∧ next.position.leaving = false := by
  have stays := growing.stays
  cases step with
  | idle => exact ⟨growing.running, stays⟩
  | resumed _ resumes | skipped _ _ resumes | noted _ resumes | cleared _ _ resumes
  | replied _ resumes | expired _ resumes => exact resumes.alive
  | hanging position free cause =>
    rcases cause with disconnected | leaving
    · exact absurd disconnected connected
    · rw [stays] at leaving
      cases leaving
  | taken position found free places =>
    rcases places with rfl | ⟨rfl, other⟩ <;> exact ⟨rfl, rfl⟩
  | collected position found before resting =>
    exact ⟨(free_of_resting resting).running, open_of_resting resting⟩
  | pushed | handled | cleanupDue | cleanupAsked => exact ⟨rfl, rfl⟩
  | clean _ flushing | begun flushing | refused flushing | attempted flushing | settled flushing =>
    rw [flushing] at stays
    exact ⟨rfl, stays⟩
  | written writing =>
    rw [writing] at stays
    rw [tryWriteBatch]
    split_ifs <;> exact ⟨rfl, stays⟩
  | ended flushed last =>
    rcases last with rfl | rfl
    · rw [flushed] at stays
      cases stays
    · refine absurd (mem_append_left _ ?_) growing.serves
      rw [flushed]
      exact mem_cons_self
  | discarded _ _ flagged =>
    rw [growing.steady.unflagged] at flagged
    cases flagged
  | drained discarding | emptied discarding => exact absurd discarding growing.steady.alive.1
  | zeroed zeroing => exact absurd zeroing growing.steady.alive.2

theorem mem_undone_push {sending : List InsertEntry} {command other : LogCommand}
    (member : other ∈ ({ store with sending := sending }.push command).undone) :
    other ∈ store.undone ∨ other = command := by
  unfold LogStore.push at member
  split at member
  · exact .inl member
  · rcases mem_append.mp member with held | member
    · exact .inl (mem_append_left _ held)
    · rcases mem_append.mp member with queued | new
      · exact .inl (mem_append_right _ queued)
      · exact .inr (mem_singleton.mp new)

theorem position_push (store : LogStore) (sending : List InsertEntry) (command : LogCommand) :
    ({ store with sending := sending }.push command).position = store.position ∧
      ({ store with sending := sending }.push command).pendingCount = store.pendingCount ∧
      ({ store with sending := sending }.push command).logs = store.logs := by
  unfold LogStore.push
  split <;> exact ⟨rfl, rfl, rfl⟩

theorem Sparing.push (sparing : store.Sparing) {sending : List InsertEntry} {command : LogCommand}
    (batched : command.batched = true) (kept : command.doomed = none) :
    ({ store with sending := sending }.push command).Sparing := by
  refine ⟨sparing.steady.push batched, fun other member => ?_⟩
  rcases mem_undone_push member with old | rfl
  · exact sparing.keeps other old
  · exact kept

theorem Sparing.step (sparing : store.Sparing) (spares : event.Sparing) :
    (store.step event).Sparing ∧
      (store.step event).logs = store.logs.insertAll (store.inserted event) := by
  cases event with
  | announce entry => exact ⟨⟨sparing.steady.step trivial, sparing.keeps⟩, rfl⟩
  | enqueue index =>
    simp only [LogStore.step]
    split
    · exact ⟨sparing.push rfl rfl, (position_push ..).2.2⟩
    · exact ⟨sparing, rfl⟩
  | request command =>
    have kept : command.doomed = none := Option.isNone_iff_eq_none.mp spares.2
    cases command with
    | write entry => exact ⟨sparing, rfl⟩
    | _ => exact ⟨sparing.push spares.1 kept, (position_push ..).2.2⟩
  | shutdownDiscard => exact spares.elim
  | actor answer =>
    have cases := store.actorStep_cases answer
    have moved := sparing.steady.pipeline_actorStep spares cases
    refine ⟨⟨sparing.steady.actorStep spares cases, ?_⟩, moved.logs_eq sparing.keeps⟩
    exact fun command member => sparing.keeps command (moved.undone_subset member)

theorem Growing.step (growing : store.Growing) (appending : event.Appending) :
    (store.step event).Growing ∧
      (store.step event).logs = store.logs.insertAll (store.inserted event) := by
  obtain ⟨spares, goesOn⟩ := appending
  obtain ⟨sparing, logs⟩ := growing.toSparing.step spares
  refine ⟨?_, logs⟩
  have pushed {sending : List InsertEntry} {command : LogCommand} (other : command ≠ .shutdown)
      (sparing : ({ store with sending := sending }.push command).Sparing) :
      ({ store with sending := sending }.push command).Growing := by
    have same := (store.position_push sending command).1
    refine ⟨sparing, by rw [same]; exact growing.running, by rw [same]; exact growing.stays,
      fun told => ?_⟩
    rcases mem_undone_push told with old | new
    · exact growing.serves old
    · exact other new.symm
  cases event with
  | announce entry => exact ⟨sparing, growing.running, growing.stays, growing.serves⟩
  | enqueue index =>
    simp only [LogStore.step] at sparing ⊢
    split at sparing
    · exact pushed (fun same => by cases same) sparing
    · exact growing
  | request command =>
    cases command with
    | write entry => exact growing
    | shutdown => cases goesOn
    | _ => exact pushed (fun same => by cases same) sparing
  | shutdownDiscard => exact spares.elim
  | actor answer =>
    have cases := store.actorStep_cases answer
    have connected : answer.idle ≠ .disconnected := beq_eq_false_iff_ne.mp goesOn
    obtain ⟨running, stays⟩ := growing.alive_actorStep connected cases
    have moved := growing.steady.pipeline_actorStep spares cases
    exact ⟨sparing, running, stays, fun told => growing.serves (moved.undone_subset told)⟩

theorem Sparing.run (sparing : store.Sparing) (spares : ∀ event ∈ events, event.Sparing) :
    (Runs.run LogStore.step store events).Sparing ∧
      (Runs.run LogStore.step store events).logs =
        store.logs.insertAll (outputs LogStore.step inserted store events) := by
  induction events generalizing store with
  | nil => exact ⟨sparing, rfl⟩
  | cons event rest inductionHypothesis =>
    obtain ⟨first, others⟩ := forall_mem_cons.mp spares
    obtain ⟨kept, logs⟩ := sparing.step first
    obtain ⟨sparing, rows⟩ := inductionHypothesis kept others
    refine ⟨sparing, ?_⟩
    rw [outputs, insertAll_append, ← logs]
    exact rows

theorem sparing_spawn (logs : LogTable) (batchSize : Nat) : (spawn logs batchSize none).Sparing :=
  ⟨steady_spawn logs batchSize, nofun⟩

theorem growing_spawn (logs : LogTable) (batchSize : Nat) : (spawn logs batchSize none).Growing :=
  ⟨sparing_spawn logs batchSize, rfl, rfl, nofun⟩

/-! ### Nothing is missed -/

/-- The counter is at least the number of entries that were sent and not inserted, also when the
actor has ended and entries got lost. -/
structure Ledger (sent : List InsertEntry) (fates : List (InsertEntry × Fate)) (store : LogStore) :
    Prop where
  steady : store.Steady
  accounted : Accounted sent fates store
  counted : (sent.length : Int) ≤ store.pendingCount + fates.length
  among : (fates.map Prod.fst).Subperm sent

variable {sent : List InsertEntry} {fates : List (InsertEntry × Fate)}

theorem ledger_of_running (steady : store.Steady) (accounted : Accounted sent fates store)
    (running : store.position.running = true) : Ledger sent fates store := by
  have entries := accounted.entries running
  refine ⟨steady, accounted, ?_, ?_⟩
  · have count := accounted.count running
    have lengths := entries.length_eq
    have unwritten : store.unwritten.length ≤ store.batch.length := by
      unfold unwritten
      split <;> simp
    simp only [length_append, length_map] at lengths
    omega
  · exact ((sublist_append_left _ _).trans (sublist_append_left _ _)).subperm.trans
      entries.symm.subperm

/-- A step after which the actor does not run leaves the counter and the batch alone. -/
theorem Steady.stopped_actorStep (steady : store.Steady) (step : ActorStep store answer next)
    (stopped : next.position.running = false) :
    store.position.busy = false ∧ next.pendingCount = store.pendingCount := by
  cases step with
  | idle idle => exact ⟨idle, rfl⟩
  | ended flushed => exact ⟨flushed ▸ rfl, rfl⟩
  | resumed _ resumes | skipped _ _ resumes | noted _ resumes | cleared _ _ resumes
  | replied _ resumes | expired _ resumes =>
    rw [resumes.alive.1] at stopped
    cases stopped
  | hanging position free cause hanging =>
    rw [(free_of_hanging hanging).running] at stopped
    cases stopped
  | collected position found before resting =>
    rw [(free_of_resting resting).running] at stopped
    cases stopped
  | taken position found free places =>
    rcases places with rfl | ⟨rfl, other⟩ <;> cases stopped
  | written =>
    rw [tryWriteBatch] at stopped
    split_ifs at stopped <;> cases stopped
  | discarded _ _ flagged =>
    rw [steady.unflagged] at flagged
    cases flagged
  | drained discarding | emptied discarding => exact absurd discarding steady.alive.1
  | zeroed zeroing => exact absurd zeroing steady.alive.2
  | _ => cases stopped

theorem Ledger.step (ledger : Ledger sent fates store) (plain : event.Plain) :
    Ledger (sent ++ store.announced event) (fates ++ store.decided event) (store.step event) := by
  have steady := ledger.steady.step plain
  have accounted := ledger.accounted.step event
  cases runs : (store.step event).position.running with
  | true => exact ledger_of_running steady accounted runs
  | false => ?_
  have quiet {count : Int} (same : count = store.pendingCount)
      (none : store.announced event = []) :
      count = store.pendingCount + (store.announced event).length := by
    simp [same, none]
  have still : store.decided event = [] ∧ (store.step event).pendingCount =
      store.pendingCount + (store.announced event).length := by
    cases event with
    | announce => exact ⟨rfl, rfl⟩
    | enqueue index =>
      simp only [LogStore.step]
      split
      · exact ⟨rfl, quiet (position_push ..).2.1 rfl⟩
      · exact ⟨rfl, quiet rfl rfl⟩
    | request command =>
      cases command with
      | write => exact ⟨rfl, quiet rfl rfl⟩
      | _ => exact ⟨rfl, quiet (store.position_push store.sending _).2.1 rfl⟩
    | shutdownDiscard => exact plain.elim
    | actor answer =>
      obtain ⟨idle, same⟩ := ledger.steady.stopped_actorStep (store.actorStep_cases answer) runs
      exact ⟨decided_of_not_busy idle answer, quiet same rfl⟩
  have counted := ledger.counted
  rw [still.1, append_nil]
  refine ⟨steady, by simpa [still.1] using accounted, ?_, ?_⟩
  · rw [still.2, length_append]
    push_cast
    omega
  · exact ledger.among.trans (sublist_append_left _ _).subperm

end LogStore

/-! ### The answer to a request -/

theorem lines_compactEntries (serviceTable : List String) (serviceMap : List (String × UInt16))
    (rows : List (Row InsertEntry)) :
    (compactEntries serviceTable serviceMap rows).2.map (fun entry => (entry.id, entry.line)) =
      rows.map fun row => (row.id, row.content.line) := by
  induction rows generalizing serviceTable serviceMap with
  | nil => rfl
  | cons row rest inductionHypothesis =>
    rw [compactEntries]
    split <;> exact congrArg (_ :: ·) (inductionHypothesis _ _)

namespace LogsStream

variable (request : LogsStream) (chunkSize : Nat) (query : LogQuery) (hasPending : Bool)
  (effectiveAfterId : Int) (logs : LogTable)

def chunk : List (Row InsertEntry) :=
  (query.rest logs effectiveAfterId).take (min request.limit chunkSize)

theorem lines_respond :
    (request.respond chunkSize query hasPending effectiveAfterId logs).entries.map
        (fun entry => (entry.id, entry.line)) =
      (request.chunk chunkSize query effectiveAfterId logs).map
        fun row => (row.id, row.content.line) := by
  rw [chunk, ← after_fst]
  unfold respond
  dsimp only
  split
  · rw [map_map]
    rfl
  · exact lines_compactEntries ..

theorem lastId_respond :
    (request.respond chunkSize query hasPending effectiveAfterId logs).lastId =
      ((request.chunk chunkSize query effectiveAfterId logs).getLast?.map Row.id).getD
        effectiveAfterId := by
  rw [chunk, ← after_fst]
  rfl

theorem hasMore_respond :
    (request.respond chunkSize query hasPending effectiveAfterId logs).hasMore =
      (decide (min request.limit chunkSize < (query.rest logs effectiveAfterId).length) ||
        hasPending) := by
  rw [← after_snd]
  rfl

theorem effectiveAfterId_le_lastId :
    effectiveAfterId ≤
      (request.respond chunkSize query hasPending effectiveAfterId logs).lastId := by
  rw [lastId_respond]
  cases found : (request.chunk ..).getLast? with
  | none => exact le_rfl
  | some row =>
    have member : row ∈ query.rest logs effectiveAfterId :=
      mem_of_mem_take (mem_of_getLast? found)
    exact (mem_rest.mp member).2.2.le

variable {request chunkSize query hasPending effectiveAfterId logs} {row : Row InsertEntry}

theorem entry_of_mem_chunk (returned : row ∈ request.chunk chunkSize query effectiveAfterId logs) :
    ∃ entry ∈ (request.respond chunkSize query hasPending effectiveAfterId logs).entries,
      entry.id = row.id ∧ entry.line = row.content.line := by
  have line := mem_map_of_mem (f := fun row => (row.id, row.content.line)) returned
  rw [← lines_respond _ _ _ hasPending] at line
  obtain ⟨entry, inside, same⟩ := mem_map.mp line
  exact ⟨entry, inside, congrArg Prod.fst same, congrArg Prod.snd same⟩

end LogsStream

namespace LogStore

end LogStore

end Kepler
