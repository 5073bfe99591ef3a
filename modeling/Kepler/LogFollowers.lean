/-
This file is about followers of a log from which rows are deleted.

The daemon offers the ids of the rows as a stable cursor: a client that has got an id counts on
every later row to come after it. A row that comes in is numbered after the rows that are in the
table. So this holds as long as a delete of a row that is at least as late as the cursor leaves
another such row. Otherwise the numbers begin again below the cursor, and the follower does not see
the new rows until they have passed it.
-/

import Kepler.LogCursors
import Kepler.LogStream

namespace Kepler

open Runs List RowTable StreamParams LogsStream LogQuery

/-! ### Inserts and deletes of the store -/

namespace LogStore

/-- The rows that the next statement of the actor deletes, if it is a `DELETE`. -/
def doomed (store : LogStore) : Option (Row InsertEntry → Bool) :=
  match store.position with
  | .flushed (.command command) => command.doomed
  | .deletingBatch caller cutoff =>
    some fun row => (store.logs.expired cutoff caller.batch).contains row
  | _ => none

def deletes (store : LogStore) (event : LogEvent) (row : Row InsertEntry) : Bool :=
  match event with
  | .actor answer => answer.outcome.applied && store.doomed.any fun doomed => doomed row
  | _ => false

variable (store : LogStore) {answer : Answer}

@[simp] theorem logs_resumeCleanup : store.resumeCleanup.logs = store.logs := by
  unfold resumeCleanup
  split <;> rfl

@[simp] theorem logs_drainEnd : store.drainEnd.logs = store.logs := by
  unfold drainEnd
  split
  · exact store.logs_resumeCleanup
  · rfl

@[simp] theorem logs_commandDone : store.commandDone.logs = store.logs := by
  unfold commandDone
  split
  · rfl
  · exact store.logs_drainEnd

@[simp] theorem logs_handleNonWrite (command : LogCommand) :
    (store.handleNonWrite command).logs = store.logs := by
  unfold handleNonWrite
  split
  · exact store.logs_commandDone
  · rfl

@[simp] theorem logs_afterCleanup (caller : CleanupCaller) (cutoff : Int) (result : CleanupResult) :
    (store.afterCleanup caller cutoff result).logs = store.logs := by
  unfold afterCleanup
  split
  · rfl
  · split
    · rfl
    · exact store.logs_commandDone

theorem logs_push (command : LogCommand) : (store.push command).logs = store.logs := by
  unfold push
  split <;> rfl

theorem logs_actorStep_of_idle (answer : Answer) (reading : store.position.inserting = false)
    (working : ∀ caller, store.position ≠ .flushed caller)
    (keeping : ∀ caller cutoff, store.position ≠ .deletingBatch caller cutoff) :
    (store.actorStep answer).logs = store.logs := by
  unfold actorStep
  split
  case h_11 writing => rw [writing] at reading; cases reading
  case h_13 flushed => exact absurd flushed (working _)
  case h_15 deleting => exact absurd deleting (keeping _ _)
  case h_3 =>
    split
    · rfl
    · split <;> simp
  case h_6 => split <;> simp
  case h_16 => split <;> simp
  case h_14 => split <;> simp
  case h_2 =>
    split
    · rfl
    · split
      · rfl
      · split <;> rfl
      · rfl
  case h_5 =>
    split
    · split <;> rfl
    · rfl
  case h_8 =>
    split
    · split <;> rfl
    · rfl
  all_goals first | rfl | (split <;> rfl)

theorem deletes_of_doomed_none (none : store.doomed = none) (row : Row InsertEntry) :
    store.deletes (.actor answer) row = false := by
  rw [deletes, none]
  exact Bool.and_false _

theorem delete_deletes {doomed : Row InsertEntry → Bool} (selects : store.doomed = some doomed) :
    store.logs.delete (store.deletes (.actor answer)) =
      if answer.outcome.applied then store.logs.delete doomed else store.logs := by
  split
  · rename_i applied
    refine congrArg store.logs.delete (funext fun row => ?_)
    rw [deletes, selects, applied]
    rfl
  · rename_i failed
    refine delete_of_none _ fun row => ?_
    rw [deletes, Bool.eq_false_iff.mpr failed]
    rfl

theorem logs_afterFlush {caller : FlushCaller} (flushed : store.position = .flushed caller) :
    (store.afterFlush answer caller).logs = store.logs.delete (store.deletes (.actor answer)) := by
  have unchanged : ∀ {logs : LogTable}, logs = store.logs → store.doomed = none →
      logs = store.logs.delete (store.deletes (.actor answer)) := by
    intro logs same none
    rw [delete_of_none _ (store.deletes_of_doomed_none none), same]
  cases caller with
  | command command =>
    have selects : store.doomed = command.doomed := by rw [doomed, flushed]
    cases command with
    | clear | clearService | clearServiceHooks =>
      rw [store.delete_deletes selects]
      exact logs_commandDone _
    | cleanupBefore | shutdown => exact unchanged rfl selects
    | write | setLogNotify => exact unchanged (logs_commandDone _) selects
    | flushSync reply => exact unchanged (logs_commandDone _) selects
  | drainEnd => exact unchanged (logs_resumeCleanup _) (by rw [doomed, flushed])
  | _ => exact unchanged rfl (by rw [doomed, flushed])

theorem logs_deleteExpired {caller : CleanupCaller} {cutoff : Int}
    (deleting : store.position = .deletingBatch caller cutoff) :
    (store.deleteExpired answer caller cutoff).logs =
      store.logs.delete (store.deletes (.actor answer)) := by
  have selects : store.doomed =
      some fun row => (store.logs.expired cutoff caller.batch).contains row := by
    rw [doomed, deleting]
  rw [store.delete_deletes selects]
  dsimp only [deleteExpired]
  split_ifs <;> simp [expire, *]

theorem logs_step (event : LogEvent) :
    (store.step event).logs =
      (store.logs.insertAll (store.inserted event)).delete (store.deletes event) := by
  have unchanged : ∀ {logs : LogTable}, logs = store.logs → store.inserted event = [] →
      (∀ row, store.deletes event row = false) →
      logs = (store.logs.insertAll (store.inserted event)).delete (store.deletes event) := by
    intro logs same none kept
    rw [none, delete_of_none _ kept, same]
    rfl
  cases event with
  | announce | shutdownDiscard => exact unchanged rfl rfl fun _ => rfl
  | enqueue index =>
    refine unchanged ?_ rfl fun _ => rfl
    simp only [step]
    split
    · exact logs_push _ _
    · rfl
  | request command =>
    refine unchanged ?_ rfl fun _ => rfl
    cases command with
    | write => rfl
    | _ => exact logs_push _ _
  | actor answer =>
    cases place : store.position with
    | writing =>
      have kept : ∀ row, store.deletes (.actor answer) row = false :=
        store.deletes_of_doomed_none (by rw [doomed, place])
      rw [delete_of_none _ kept, inserted, place]
      simp only [step, actorStep, place, tryWriteBatch, Position.inserting, Bool.true_and]
      split <;> rfl
    | flushed caller =>
      have none : store.inserted (.actor answer) = [] := by
        rw [inserted, place]
        rfl
      rw [none, insertAll_nil, ← store.logs_afterFlush place]
      simp only [step, actorStep, place]
    | deletingBatch =>
      have none : store.inserted (.actor answer) = [] := by
        rw [inserted, place]
        rfl
      rw [none, insertAll_nil, ← store.logs_deleteExpired place]
      simp only [step, actorStep, place]
    | _ =>
      refine unchanged (store.logs_actorStep_of_idle answer ?_ ?_ ?_) ?_
        (store.deletes_of_doomed_none ?_)
      · rw [place]; rfl
      · rw [place]; exact fun _ same => by cases same
      · rw [place]; exact fun _ _ same => by cases same
      · rw [inserted, place]; rfl
      · rw [doomed, place]

end LogStore

/-! ### A store and a follower -/

/-- How far the daemon is with the request of the client. -/
inductive Inquiry where
  | none
  /-- the daemon has looked at the counter -/
  | looked (hasPending : Bool)
  /-- and found the id after which it reads -/
  | anchored (hasPending : Bool) (afterId : Int)
  /-- the answer is on its way -/
  | answered (data : LogStreamData)
deriving DecidableEq

structure Following where
  store : LogStore
  client : StreamState
  inquiry : Inquiry

inductive FollowEvent where
  | store (event : LogEvent)
  | look
  | anchor
  | read
  | receive
  /-- what happens to the client apart from answers with rows -/
  | client (event : StreamEvent)

namespace Following

variable (params : StreamParams) (query : LogQuery) (chunkSize : Nat)

def step (following : Following) : FollowEvent → Following
  | .store event => { following with store := following.store.step event }
  | .look =>
    match following.client.position, following.inquiry with
    | .requesting, .none => { following with inquiry := .looked following.store.hasPending }
    | _, _ => following
  | .anchor =>
    match following.inquiry with
    | .looked hasPending =>
      { following with
        inquiry := .anchored hasPending
          ((params.request following.client).effectiveAfterId query following.store.logs) }
    | _ => following
  | .read =>
    match following.inquiry with
    | .anchored hasPending afterId =>
      { following with
        inquiry := .answered ((params.request following.client).respond chunkSize query hasPending
          afterId following.store.logs) }
    | _ => following
  | .receive =>
    match following.inquiry with
    | .answered data =>
      { following with
        client := params.step following.client (.data data)
        inquiry := .none }
    | _ => following
  | .client (.data _) => following
  | .client (.failed failure) =>
    { following with
      client := params.step following.client (.failed failure)
      inquiry := .none }
  | .client event => { following with client := params.step following.client event }

def added (following : Following) : FollowEvent → List (Row InsertEntry)
  | .store event =>
    RowTable.numbered following.store.logs.lastId (following.store.inserted event)
  | _ => []

def later (following : Following) (event : FollowEvent) : List (Row InsertEntry) :=
  if following.client.lastId.isSome then following.added event else []

def returned (following : Following) : FollowEvent → List StreamLogEntry
  | .receive =>
    match following.client.position, following.inquiry with
    | .requesting, .answered data => following.client.owed data
    | _, _ => []
  | _ => []

/-- The ids from which the client reads on, now or when the answer reaches it. -/
def cursors (following : Following) : List Int :=
  following.client.lastId.toList ++
    match following.inquiry with
    | .anchored _ afterId => [afterId]
    | .answered data => [data.lastId]
    | _ => []

/-- The event leaves a row at or after every cursor. -/
def Spares (following : Following) : FollowEvent → Prop
  | .store event => ∀ id ∈ following.cursors, 0 < id →
    ∃ row ∈ following.store.logs.rows, id ≤ row.id ∧ following.store.deletes event row = false
  | _ => True

instance (following : Following) : (event : FollowEvent) → Decidable (following.Spares event)
  | .store event => inferInstanceAs (Decidable (∀ id ∈ following.cursors, 0 < id →
      ∃ row ∈ following.store.logs.rows, id ≤ row.id ∧ following.store.deletes event row = false))
  | .look | .anchor | .read | .receive | .client _ => .isTrue trivial

end Following

/-! ### Cursors and the table -/

variable {row : Row InsertEntry}

theorem LogStore.mem_logs_step {store : LogStore} {event : LogEvent}
    (member : row ∈ (store.step event).logs.rows) :
    row ∈ store.logs.rows ∨ row ∈ RowTable.numbered store.logs.lastId (store.inserted event) := by
  rw [logs_step] at member
  have inserted := mem_of_mem_filter member
  rw [rows_insertAll] at inserted
  exact mem_append.mp inserted

def Listed (row : Row InsertEntry) (entries : List StreamLogEntry) : Prop :=
  ∃ entry ∈ entries, entry.id = row.id ∧ entry.line = row.content.line

theorem Listed.mono {entries more : List StreamLogEntry} (listed : Listed row entries)
    (subset : entries ⊆ more) : Listed row more := by
  obtain ⟨entry, member, same⟩ := listed
  exact ⟨entry, subset member, same⟩

namespace LogsStream

variable {request : LogsStream} {chunkSize : Nat} {query : LogQuery} {hasPending : Bool}
  {afterId : Int} {logs : LogTable}

theorem mem_chunk :
    row ∈ request.chunk chunkSize query afterId logs ↔
      row ∈ query.rest logs afterId ∧
        row.id ≤ (request.respond chunkSize query hasPending afterId logs).lastId := by
  have ordered : (query.rest logs afterId).Pairwise fun earlier later => earlier.id < later.id :=
    (logs.ordered.filter _).filter _
  rw [lastId_respond, chunk]
  constructor
  · intro returned
    have first := ordered.sublist (take_sublist (min request.limit chunkSize) _)
    exact ⟨mem_of_mem_take returned, id_le_getLast first returned _⟩
  · rintro ⟨inside, within⟩
    have after := (mem_rest.mp inside).2.2
    rw [← take_append_drop (min request.limit chunkSize) (query.rest ..)]
      at inside ordered
    refine (mem_append.mp inside).resolve_right fun rest => ?_
    cases found : ((query.rest ..).take (min request.limit chunkSize)).getLast? with
    | none =>
      rw [found] at within
      exact absurd within (not_le.mpr after)
    | some last =>
      rw [found] at within
      have earlier := (pairwise_append.mp ordered).2.2 last (mem_of_getLast? found) row rest
      exact absurd within (not_le.mpr earlier)

theorem lastId_respond_cases :
    (request.respond chunkSize query hasPending afterId logs).lastId ≤ logs.lastId ∨
      (request.respond chunkSize query hasPending afterId logs).lastId = afterId := by
  rw [lastId_respond]
  cases found : (request.chunk ..).getLast? with
  | none => exact .inr rfl
  | some row =>
    have member : row ∈ query.rest logs afterId :=
      mem_of_mem_take (mem_of_getLast? found)
    exact .inl (id_le_lastId (mem_rest.mp member).1)

theorem effectiveAfterId_le (known : ∀ id ∈ request.afterId, id ≤ logs.lastId) :
    request.effectiveAfterId query logs ≤ logs.lastId := by
  unfold effectiveAfterId
  split
  · split
    · rename_i startId found
      unfold tailStartId at found
      split at found
      · cases found
      · obtain ⟨row, place, rfl⟩ := Option.map_eq_some_iff.mp found
        have member := mem_reverse.mp (mem_of_getElem? place)
        have bound : row.id ≤ logs.lastId :=
          id_le_lastId (mem_of_mem_filter member)
        omega
    · exact logs.lastId_nonneg
  · split
    · rename_i id same
      exact known id same
    · split
      · exact le_rfl
      · exact logs.lastId_nonneg

end LogsStream

/-! ### What a follower gets -/

namespace Following

/-- What holds of a follower in a run that spares its cursors, with the rows that came in since its
first id, and what it has got. -/
structure Tracks (query : LogQuery) (later : List (Row InsertEntry))
    (returned : List StreamLogEntry) (following : Following) : Prop where
  bounded : ∀ id ∈ following.cursors, id ≤ following.store.logs.lastId
  unlimited : following.client.remaining = none
  fresh : following.client.lastId = none → later = []
  anchored : ∀ last hasPending afterId, following.client.lastId = some last →
    following.inquiry = .anchored hasPending afterId → afterId = last
  answered : ∀ last data, following.client.lastId = some last →
    following.inquiry = .answered data → ∀ row ∈ following.store.logs.rows,
      query.buildFilter row = true → last < row.id → row.id ≤ data.lastId →
        Listed row data.entries
  seen : ∀ last, following.client.lastId = some last → ∀ row ∈ later,
    row ∈ following.store.logs.rows → query.buildFilter row = true →
      last < row.id ∨ Listed row returned

variable {params : StreamParams} {query : LogQuery} {chunkSize : Nat}
  {later : List (Row InsertEntry)} {returned : List StreamLogEntry} {following : Following}

theorem mem_cursors_of_lastId {last : Int} (known : following.client.lastId = some last) :
    last ∈ following.cursors := by
  rw [cursors, known]
  exact mem_cons_self

section

variable (tracks : Tracks query later returned following) {event : FollowEvent}

include tracks

theorem Tracks.lt_of_mem_added (new : row ∈ following.added event) {id : Int}
    (cursor : id ∈ following.cursors) : id < row.id := by
  cases event with
  | store event => exact (tracks.bounded id cursor).trans_lt (lt_id_of_mem_numbered new)
  | _ => cases new

theorem Tracks.store {event : LogEvent} (spares : following.Spares (.store event)) :
    Tracks query (later ++ following.later (.store event))
      (returned ++ following.returned (.store event))
      (following.step params query chunkSize (.store event)) where
  bounded := by
    intro id cursor
    show id ≤ (following.store.step event).logs.lastId
    rw [LogStore.logs_step]
    exact le_lastId_delete (spares id cursor)
  unlimited := tracks.unlimited
  fresh := by
    intro unknown
    rw [tracks.fresh unknown, Following.later, show following.client.lastId = none from unknown]
    rfl
  anchored := tracks.anchored
  answered := by
    intro last data known answer row member asked after within
    rcases LogStore.mem_logs_step member with old | new
    · exact tracks.answered last data known answer row old asked after within
    · have cursor : data.lastId ∈ following.cursors := by
        rw [cursors, show following.inquiry = .answered data from answer]
        exact mem_append_right _ (mem_singleton_self _)
      have late : data.lastId < row.id :=
        tracks.lt_of_mem_added (show row ∈ following.added (.store event) from new) cursor
      exact absurd within (not_le.mpr late)
  seen := by
    intro last known row noted member asked
    have new : row ∈ following.added (.store event) → last < row.id := fun new =>
      tracks.lt_of_mem_added new (mem_cursors_of_lastId known)
    rcases LogStore.mem_logs_step member with old | inserted
    · rcases mem_append.mp noted with noted | noted
      · refine (tracks.seen last known row noted old asked).imp_right fun listed => ?_
        exact listed.mono (subset_append_left _ _)
      · rw [Following.later, if_pos (by rw [show following.client.lastId = _ from known]; rfl)]
          at noted
        exact .inl (new noted)
    · exact .inl (new inserted)

theorem Tracks.look :
    Tracks query later returned (following.step params query chunkSize .look) := by
  unfold step
  dsimp only
  split
  · rename_i place idle
    refine ⟨fun id cursor => tracks.bounded id ?_, tracks.unlimited, tracks.fresh, ?_, ?_,
      tracks.seen⟩
    · rw [cursors, idle]
      exact cursor
    · intro last hasPending afterId known same
      cases same
    · intro last data known same
      cases same
  · exact tracks

theorem Tracks.anchor :
    Tracks query later returned (following.step params query chunkSize .anchor) := by
  unfold step
  dsimp only
  split
  · refine ⟨?_, tracks.unlimited, tracks.fresh, ?_, ?_, tracks.seen⟩
    · intro id cursor
      rcases mem_append.mp cursor with own | anchor
      · exact tracks.bounded id (mem_append_left _ own)
      · rw [mem_singleton.mp anchor]
        refine effectiveAfterId_le fun last known => ?_
        exact tracks.bounded last (mem_cursors_of_lastId known)
    · intro last hasPending afterId known same
      cases same
      exact effectiveAfterId_of_lastId known _ _
    · intro last data known same
      cases same
  · exact tracks

theorem Tracks.read :
    Tracks query later returned (following.step params query chunkSize .read) := by
  unfold step
  dsimp only
  split
  · rename_i hasPending afterId anchor
    have bounded : afterId ≤ following.store.logs.lastId := by
      refine tracks.bounded afterId ?_
      rw [cursors, anchor]
      exact mem_append_right _ (mem_singleton_self _)
    refine ⟨?_, tracks.unlimited, tracks.fresh, ?_, ?_, tracks.seen⟩
    · intro id cursor
      rcases mem_append.mp cursor with own | answer
      · exact tracks.bounded id (mem_append_left _ own)
      · rw [mem_singleton.mp answer]
        exact lastId_respond_cases.elim (fun within => within) fun same =>
          same.trans_le bounded
    · intro last _ _ known same
      cases same
    · intro last data known same row member asked after within
      cases same
      rw [← tracks.anchored last hasPending afterId known anchor] at after
      refine entry_of_mem_chunk (mem_chunk.mpr ⟨?_, within⟩)
      exact mem_rest.mpr ⟨member, asked, after⟩
  · exact tracks

theorem Tracks.client {client : StreamState} {inquiry : Inquiry}
    (same : client.lastId = following.client.lastId)
    (owes : client.remaining = following.client.remaining)
    (abandons : inquiry = following.inquiry ∨ inquiry = .none) :
    Tracks query later returned { following with client := client, inquiry := inquiry } := by
  have kept : ∀ {other}, inquiry = other → other ≠ .none → following.inquiry = other := by
    rintro other rfl some
    exact (abandons.resolve_right some).symm
  refine ⟨?_, owes.trans tracks.unlimited, fun unknown => tracks.fresh (same ▸ unknown), ?_, ?_, ?_⟩
  · intro id cursor
    refine tracks.bounded id ?_
    rw [cursors, same] at cursor
    rcases abandons with rfl | rfl
    · exact cursor
    · exact mem_append_left _ (by simpa using cursor)
  · exact fun last hasPending afterId known anchor =>
      tracks.anchored last hasPending afterId (same ▸ known)
        (kept anchor nofun)
  · exact fun last data known answer =>
      tracks.answered last data (same ▸ known) (kept answer nofun)
  · exact fun last known => tracks.seen last (same ▸ known)

theorem Tracks.receive :
    Tracks query later (returned ++ following.returned .receive)
      (following.step params query chunkSize .receive) := by
  unfold step Following.returned
  dsimp only
  split
  · rename_i data place answer
    have entries : following.client.owed data = data.entries := by
      rw [StreamState.owed, tracks.unlimited]
    have lastId := params.lastId_receive following.client data
    rw [answer]
    dsimp only
    rw [step_data, if_pos place]
    refine ⟨?_, ?_, ?_, ?_, ?_, ?_⟩
    · intro id cursor
      refine tracks.bounded id ?_
      rw [cursors, lastId] at cursor
      rw [cursors, answer]
      exact mem_append_right _ (by simpa using cursor)
    · rw [remaining_receive, tracks.unlimited]
      rfl
    · intro unknown
      rw [lastId] at unknown
      cases unknown
    · intro _ _ _ _ same
      cases same
    · intro _ _ _ same
      cases same
    · intro _ known row noted member asked
      rw [lastId] at known
      cases known
      cases before : following.client.lastId with
      | none =>
        rw [tracks.fresh before] at noted
        cases noted
      | some last =>
        rcases le_or_gt row.id data.lastId with within | after
        · refine .inr ?_
          rcases tracks.seen last before row noted member asked with later | listed
          · refine Listed.mono ?_ (subset_append_right _ _)
            rw [entries]
            exact tracks.answered last data before answer row member asked later within
          · exact listed.mono (subset_append_left _ _)
        · exact .inl after
  · rename_i idle
    rw [append_nil]
    split
    · rename_i data answer
      have place : following.client.position ≠ .requesting := fun place => idle data place answer
      rw [step_data, if_neg place]
      exact tracks.client rfl rfl (.inr rfl)
    · exact tracks

theorem Tracks.step (spares : following.Spares event) :
    Tracks query (later ++ following.later event) (returned ++ following.returned event)
      (following.step params query chunkSize event) := by
  have unchanged : ∀ {next : Following}, following.added event = [] →
      Tracks query later (returned ++ following.returned event) next →
      Tracks query (later ++ following.later event) (returned ++ following.returned event) next := by
    intro next none keeps
    rwa [Following.later, none, ite_self, append_nil]
  have quiet : ∀ {next : Following}, following.added event = [] → following.returned event = [] →
      Tracks query later returned next →
      Tracks query (later ++ following.later event) (returned ++ following.returned event) next := by
    intro next none nothing keeps
    refine unchanged none ?_
    rwa [nothing, append_nil]
  cases event with
  | store event => exact tracks.store spares
  | look => exact quiet rfl rfl tracks.look
  | anchor => exact quiet rfl rfl tracks.anchor
  | read => exact quiet rfl rfl tracks.read
  | receive => exact unchanged rfl tracks.receive
  | client event => ?_
  have other : ∀ {inquiry : Inquiry}, (∀ data, event ≠ .data data) →
      inquiry = following.inquiry ∨ inquiry = .none →
      Tracks query later returned
        { following with client := params.step following.client event, inquiry := inquiry } :=
    fun none => tracks.client (params.step_of_no_data _ none).1 (params.step_of_no_data _ none).2
  refine quiet rfl rfl ?_
  cases event with
  | data data => exact tracks
  | failed => exact other nofun (.inr rfl)
  | shutdown | quiescence | resume => exact other nofun (.inl rfl)

end

theorem tracks_start (params : StreamParams) (query : LogQuery) (store : LogStore)
    (follows : params.maxTotal = none)
    (started : ∀ id ∈ params.startAfterId, id ≤ store.logs.lastId) :
    Tracks query [] [] ⟨store, params.start, .none⟩ where
  bounded := by
    intro id cursor
    rw [cursors, append_nil, Option.mem_toList] at cursor
    exact started id cursor
  unlimited := follows
  fresh := fun _ => rfl
  anchored := nofun
  answered := nofun
  seen := nofun

/-- As long as every delete leaves a row at or after the ids from which a follower reads on, every
row that comes in later has an id above its last id. A row that came in since its first id, is still
there and is asked for comes after its last id, or the follower has got it. -/
theorem new_rows_after_cursors (params : StreamParams) (query : LogQuery) (chunkSize : Nat)
    (store : LogStore) (follows : params.maxTotal = none)
    (started : ∀ id ∈ params.startAfterId, id ≤ store.logs.lastId) (events : List FollowEvent)
    (spares : Meets (step params query chunkSize) Spares ⟨store, params.start, .none⟩ events) :
    let start : Following := ⟨store, params.start, .none⟩
    let reached := run (step params query chunkSize) start events
    (∀ event, ∀ row ∈ reached.added event, ∀ last ∈ reached.client.lastId, last < row.id) ∧
      ∀ row ∈ outputs (step params query chunkSize) Following.later start events,
        row ∈ reached.store.logs.rows → query.buildFilter row = true →
          (∃ last, reached.client.lastId = some last ∧ last < row.id) ∨
            Listed row (outputs (step params query chunkSize) Following.returned start events) := by
  intro start reached
  have keeps : ∀ given taken following event, Tracks query given taken following →
      following.Spares event →
      Tracks query (given ++ following.later event) (taken ++ following.returned event)
        (step params query chunkSize ..) :=
    fun _ _ _ _ tracks spares => tracks.step spares
  have tracks := histories keeps spares (tracks_start params query store follows started)
  rw [nil_append, nil_append] at tracks
  refine ⟨fun event row new last known => ?_, fun row noted member asked => ?_⟩
  · exact tracks.lt_of_mem_added new (mem_cursors_of_lastId known)
  · cases known : reached.client.lastId with
    | none =>
      rw [tracks.fresh known] at noted
      cases noted
    | some last =>
      refine (tracks.seen last known row noted member asked).imp_left fun after => ?_
      exact ⟨last, rfl, after⟩

/-- A follower that has got the rows 1 to 3 when the log is cleared does not get the next row, which
has the id 1. -/
theorem cleared_log_skips_row :
    ∃ (store : LogStore) (params : StreamParams) (query : LogQuery) (events : List FollowEvent)
      (row : Row InsertEntry),
      row.id = 1 ∧ query.buildFilter row = true ∧
      row ∈ outputs (step params query streamChunkSize) Following.later ⟨store, params.start, .none⟩
        events ∧
      row ∈ (run (step params query streamChunkSize) ⟨store, params.start, .none⟩
        events).store.logs.rows ∧
      (run (step params query streamChunkSize) ⟨store, params.start, .none⟩ events).client.lastId =
        some 3 ∧
      (outputs (step params query streamChunkSize) Following.returned ⟨store, params.start, .none⟩
        events).map (fun entry => (entry.id, entry.line)) =
          [(1, "first"), (2, "second"), (3, "third")] :=
  ⟨.spawn ((default : LogTable).insertAll
      [⟨0, "web", none, "info", "first", none⟩, ⟨1, "web", none, "info", "second", none⟩,
        ⟨2, "db", none, "info", "third", none⟩]) 2 none,
    ⟨[], false, .untilQuiescent, maxStreamBatchSize, none, false, true, false, none, none⟩,
    ⟨[], false, none, none, none⟩,
    [.look, .anchor, .read, .receive, .store (.request .clear)] ++
      List.replicate 10 (.store (.actor { elapsed := true })) ++
      [.store (.announce ⟨3, "web", none, "info", "new", none⟩), .store (.enqueue 0)] ++
      List.replicate 10 (.store (.actor { elapsed := true })) ++
      [.client .resume, .look, .anchor, .read, .receive],
    ⟨1, ⟨3, "web", none, "info", "new", none⟩⟩,
    by decide +kernel, by decide +kernel, by decide +kernel, by decide +kernel, by decide +kernel,
    by decide +kernel⟩

/-- The rows of one service are deleted, and the last row belongs to another one. -/
theorem new_rows_after_cursors_of_clearService :
    ∃ (store : LogStore) (params : StreamParams) (query : LogQuery) (events : List FollowEvent)
      (row : Row InsertEntry),
      Meets (step params query streamChunkSize) Spares ⟨store, params.start, .none⟩ events ∧
      row ∈ outputs (step params query streamChunkSize) Following.later ⟨store, params.start, .none⟩
        events ∧
      ((∃ last, (run (step params query streamChunkSize) ⟨store, params.start, .none⟩
          events).client.lastId = some last ∧ last < row.id) ∨
        Listed row (outputs (step params query streamChunkSize) Following.returned
          ⟨store, params.start, .none⟩ events)) := by
  refine ⟨.spawn ((default : LogTable).insertAll
      [⟨0, "web", none, "info", "first", none⟩, ⟨1, "db", none, "info", "second", none⟩]) 2 none,
    ⟨[], false, .untilQuiescent, maxStreamBatchSize, none, false, true, false, none, none⟩,
    ⟨[], false, none, none, none⟩,
    [.look, .anchor, .read, .receive, .store (.request (.clearService "web"))] ++
      List.replicate 10 (.store (.actor { elapsed := true })) ++
      [.store (.announce ⟨3, "web", none, "info", "new", none⟩), .store (.enqueue 0)] ++
      List.replicate 10 (.store (.actor { elapsed := true })),
    ⟨3, ⟨3, "web", none, "info", "new", none⟩⟩, by decide +kernel, by decide +kernel, ?_⟩
  exact (new_rows_after_cursors _ _ _ _ rfl (fun _ none => by cases none) _
    (by decide +kernel)).2 _ (by decide +kernel) (by decide +kernel) (by decide +kernel)

end Following

end Kepler
