/-
This file is about a client in the foreground: it follows the logs of its services and ends when all
of them are quiescent.

Before the config actor signals quiescence it waits for a flush of the log store. After the signal
the client asks until an answer has no rows, even if the daemon tells it that there are pending
entries. So a line that comes between the flush and the signal may be lost, and so may the lines
before an unhandled failure that makes the client give up. Every other line that came before the
signal is printed.
-/

import Kepler.LogFollowers

namespace Kepler

open Runs List LogQuery LogsStream StreamParams Following LogStore RowTable StreamState

/-! ### Foreground client, store and config actor -/

/-- The stream of `follow_logs_until_quiescent`. -/
def followLogsUntilQuiescent (services : List String) (raw : Bool) (startAfterId : Option Int) :
    StreamParams where
  services := services
  noHooks := false
  mode := .untilQuiescent
  limit := maxStreamBatchSize
  filter := none
  sql := false
  raw := raw
  tail := false
  maxTotal := none
  startAfterId := startAfterId

def foregroundQuery (services : List String) : LogQuery := ⟨services, false, none, none, none⟩

/-- How far the config actor is in `check_and_notify_quiescent`. -/
inductive QuiescencePhase where
  | idle
  /-- it waits for the reply to its `FlushSync` -/
  | flushing
  | emitted
deriving DecidableEq, Repr

structure Foreground where
  following : Following
  phase : QuiescencePhase

inductive ForegroundEvent where
  | follow (event : FollowEvent)
  /-- the config actor sends `FlushSync` -/
  | flush
  /-- the config actor has got the reply and emits `Quiescent` -/
  | emit
  /-- the wait of the client ends without a flush: an unhandled failure with `--abort-on-failure`,
  or the channel of its events is closed -/
  | abort

namespace Foreground

variable (params : StreamParams) (query : LogQuery) (chunkSize : Nat) (reply : Nat)

/-- One step of the system. `reply` is the channel on which the config actor waits. -/
def step (foreground : Foreground) : ForegroundEvent → Foreground
  | .follow (.client .quiescence) =>
    if foreground.phase = .emitted then
      { foreground with
        following := foreground.following.step params query chunkSize (.client .quiescence) }
    else foreground
  | .follow event =>
    { foreground with following := foreground.following.step params query chunkSize event }
  | .flush =>
    if foreground.phase = .idle then
      { following := foreground.following.step params query chunkSize
          (.store (.request (.flushSync reply)))
        phase := .flushing }
    else foreground
  | .emit =>
    if foreground.phase = .flushing ∧ reply ∈ foreground.following.store.replies then
      { foreground with phase := .emitted }
    else foreground
  | .abort =>
    { foreground with
      following := foreground.following.step params query chunkSize (.client .quiescence) }

/-- The lines that an event puts into the channel before the signal. -/
def sent (foreground : Foreground) : ForegroundEvent → List InsertEntry
  | .follow (.store event) =>
    if foreground.phase = .emitted then []
    else writes (foreground.following.store.enqueued event)
  | _ => []

def printed (foreground : Foreground) : ForegroundEvent → List StreamLogEntry
  | .follow event => foreground.following.returned event
  | _ => []

end Foreground

/-- The client is not interrupted, and the store stays loaded, loses nothing and answers. -/
def ForegroundEvent.Undisturbed (reply : Nat) : ForegroundEvent → Prop
  | .follow (.store event) => event.Appending ∧ event ≠ .request (.flushSync reply)
  | .follow (.client .shutdown) => False
  | .follow (.client (.failed failure)) =>
    failure ≠ .disconnected ∧ failure ≠ .other ∧ failure ≠ .error "Config not loaded"
  | _ => True

instance (reply : Nat) : (event : ForegroundEvent) → Decidable (event.Undisturbed reply)
  | .follow (.store event) =>
    inferInstanceAs (Decidable (event.Appending ∧ event ≠ .request (.flushSync reply)))
  | .follow (.client .shutdown) => .isFalse id
  | .follow (.client (.failed failure)) =>
    inferInstanceAs (Decidable
      (failure ≠ .disconnected ∧ failure ≠ .other ∧ failure ≠ .error "Config not loaded"))
  | .follow (.client (.data _)) | .follow (.client .quiescence) | .follow (.client .resume)
  | .follow .look | .follow .anchor | .follow .read | .follow .receive | .flush | .emit | .abort =>
    .isTrue trivial

/-- No line comes into the channel between the flush and the signal, and the client does not give up
before the signal. -/
def Foreground.Quiet (foreground : Foreground) (event : ForegroundEvent) : Prop :=
  match event with
  | .follow (.store (.enqueue _)) => foreground.phase ≠ .flushing
  | .abort => foreground.phase = .emitted
  | _ => True

instance (foreground : Foreground) (event : ForegroundEvent) : Decidable (foreground.Quiet event) := by
  unfold Foreground.Quiet
  split <;> infer_instance

/-! ### From the channel to the table -/

variable {entries : List InsertEntry} {pipeline next : Pipeline}

theorem Pipeline.Step.entries_eq (step : Pipeline.Step pipeline entries next) :
    entries ++ (next.unwritten ++ writes next.undone) =
      pipeline.unwritten ++ writes pipeline.undone := by
  cases step with
  | same | written => rfl
  | gathered first =>
    rw [first, nil_append, append_assoc]
    rfl
  | executed first flushed other =>
    rw [first, flushed, writes, writes, filterMap_cons_none other]
    rfl
  | noted first =>
    rw [first]
    rfl

variable {reply : Nat}

/-- A command stays behind those before it until it is executed, with the batch written. -/
theorem Pipeline.Step.behind (step : Pipeline.Step pipeline entries next)
    {before after : List LogCommand} (split : pipeline.undone = before ++ .flushSync reply :: after) :
    (∃ rest, next.undone = rest ++ .flushSync reply :: after ∧ rest ⊆ before) ∨
      next.undone = after ∧ next.unwritten = [] := by
  have moved : ∀ {first : LogCommand} {rest : List LogCommand}, pipeline.undone = first :: rest →
      (first = .flushSync reply ∧ rest = after) ∨
        ∃ others, rest = others ++ .flushSync reply :: after ∧ others ⊆ before := by
    intro first rest place
    rw [place] at split
    rcases cons_eq_append_iff.mp split with ⟨-, same⟩ | ⟨others, rfl, rfl⟩
    · rw [cons.injEq] at same
      exact .inl ⟨same.1.symm, same.2.symm⟩
    · exact .inr ⟨others, rfl, subset_cons_self _ _⟩
  cases step with
  | same | written => exact .inl ⟨before, split, List.Subset.refl _⟩
  | gathered first | noted first =>
    rcases moved first with ⟨same, -⟩ | kept
    · cases same
    · exact .inl kept
  | executed first =>
    rcases moved first with ⟨-, rfl⟩ | kept
    · exact .inr ⟨rfl, rfl⟩
    · exact .inl kept

namespace LogStore

variable {store next : LogStore} {answer : Answer}

theorem Growing.opened (growing : store.Growing) : store.position ≠ .returned := by
  intro closed
  have running := growing.running
  rw [closed] at running
  cases running

theorem push_of_opened (opened : store.position ≠ .returned) (sending : List InsertEntry)
    (command : LogCommand) :
    ({ store with sending := sending }.push command).unwritten = store.unwritten ∧
      ({ store with sending := sending }.push command).undone = store.undone ++ [command] ∧
      ({ store with sending := sending }.push command).replies = store.replies := by
  have moved : ({ store with sending := sending }.push command).pipeline =
      ⟨store.logs, store.unwritten, store.undone ++ [command]⟩ := by
    rw [pipeline_push, if_neg opened]
  refine ⟨congrArg Pipeline.unwritten moved, congrArg Pipeline.undone moved, ?_⟩
  unfold push
  split <;> rfl

theorem Growing.entries_step (growing : store.Growing) {event : LogEvent}
    (appending : event.Appending) :
    store.inserted event ++ ((store.step event).unwritten ++ writes (store.step event).undone) =
      store.unwritten ++ writes store.undone ++ writes (store.enqueued event) := by
  have pushed : ∀ sending command,
      ({ store with sending := sending }.push command).unwritten ++
          writes ({ store with sending := sending }.push command).undone =
        store.unwritten ++ writes store.undone ++ writes [command] := by
    intro sending command
    obtain ⟨unwritten, undone, -⟩ := push_of_opened growing.opened sending command
    rw [unwritten, undone, append_assoc, ← writes_append]
  rw [enqueued, if_neg growing.opened]
  cases event with
  | announce entry => exact (append_nil _).symm
  | enqueue index =>
    rw [offered, LogStore.step]
    cases store.sending[index]? with
    | none => exact (append_nil _).symm
    | some entry => exact pushed _ _
  | request command =>
    cases command with
    | write entry => exact (append_nil _).symm
    | _ => exact pushed store.sending _
  | shutdownDiscard => exact appending.1.elim
  | actor answer =>
    refine Eq.trans ?_ (append_nil _).symm
    exact (growing.steady.pipeline_actorStep appending.1 (store.actorStep_cases answer)).entries_eq

theorem Growing.replied (growing : store.Growing) (step : ActorStep store answer next)
    (new : reply ∈ next.replies) (old : reply ∉ store.replies) :
    store.undone = .flushSync reply :: store.queue ∧ next.undone = store.queue ∧
      next.unwritten = [] := by
  have unchanged : next.replies = store.replies → False := fun same => old (same ▸ new)
  cases step with
  | @replied other _ flushed resumes =>
    have moved := resumes.pipeline_eq
    have same : reply = other := by
      rw [resumes.keeps.1] at new
      exact mem_singleton.mp ((mem_append.mp new).resolve_left old)
    refine ⟨?_, congrArg Pipeline.undone moved, ?_⟩
    · rw [undone, flushed, same]
      rfl
    · refine (congrArg Pipeline.unwritten moved).trans ?_
      exact growing.steady.flushed _ flushed
  | resumed _ resumes | skipped _ _ resumes | noted _ resumes | cleared _ _ resumes
  | expired _ resumes => exact (unchanged resumes.keeps.1).elim
  | _ => exact (unchanged rfl).elim

end LogStore

/-! ### The flush before the signal -/

/-- Where the `FlushSync` of the config actor is. While the actor waits, no write is behind it, and
once the reply is sent everything is written. -/
def Flushes (reply : Nat) (store : LogStore) : QuiescencePhase → Prop
  | .idle => reply ∉ store.replies ∧ .flushSync reply ∉ store.undone
  | .flushing =>
    (reply ∉ store.replies ∧ ∃ before after, store.undone = before ++ .flushSync reply :: after ∧
      .flushSync reply ∉ before ∧ writes after = []) ∨
    store.unwritten = [] ∧ writes store.undone = []
  | .emitted => True

namespace Flushes

variable {reply : Nat} {store : LogStore} {phase : QuiescencePhase}

theorem push (flushes : Flushes reply store phase) (opened : store.position ≠ .returned)
    (sending : List InsertEntry) {command : LogCommand} (other : command ≠ .flushSync reply)
    (quiet : phase = .flushing → command.entry = none) :
    Flushes reply ({ store with sending := sending }.push command) phase := by
  obtain ⟨unwritten, undone, replies⟩ := push_of_opened opened sending command
  unfold Flushes at *
  rw [undone, unwritten, replies]
  cases phase with
  | idle =>
    refine ⟨flushes.1, fun member => ?_⟩
    rcases mem_append.mp member with member | same
    · exact flushes.2 member
    · exact other (mem_singleton.mp same).symm
  | flushing =>
    have none : writes [command] = [] := filterMap_cons_none (quiet rfl)
    rcases flushes with ⟨waits, before, after, split, first, last⟩ | ⟨written, empty⟩
    · refine .inl ⟨waits, before, after ++ [command], ?_, first, ?_⟩
      · rw [split, append_assoc, cons_append]
      · rw [writes_append, last, none, nil_append]
    · refine .inr ⟨written, ?_⟩
      rw [writes_append, empty, none, nil_append]
  | emitted => trivial

theorem actorStep (flushes : Flushes reply store phase) (growing : store.Growing)
    {answer : Answer} (done : answer.outcome = .done) :
    Flushes reply (store.actorStep answer) phase := by
  have step := store.actorStep_cases answer
  have moved := growing.steady.pipeline_actorStep done step
  cases phase with
  | idle =>
    refine ⟨fun new => ?_, fun member => flushes.2 (moved.undone_subset member)⟩
    have held := (growing.replied step new flushes.1).1
    exact flushes.2 (held ▸ mem_cons_self)
  | flushing =>
    rcases flushes with ⟨waits, before, after, split, first, last⟩ | ⟨written, empty⟩
    · by_cases replied : reply ∈ (store.actorStep answer).replies
      · obtain ⟨held, next, written⟩ := growing.replied step replied waits
        rw [held] at split
        cases before with
        | nil =>
          rw [nil_append, cons.injEq] at split
          refine .inr ⟨written, ?_⟩
          rw [next, split.2, last]
        | cons =>
          rw [cons_append, cons.injEq] at split
          exact absurd (split.1 ▸ mem_cons_self) first
      · rcases moved.behind split with ⟨rest, behind, subset⟩ | ⟨next, written⟩
        · exact .inl ⟨replied, rest, after, behind, fun member => first (subset member), last⟩
        · refine .inr ⟨written, ?_⟩
          rw [show (store.actorStep answer).undone = after from next, last]
    · have entries := moved.entries_eq
      rw [show store.pipeline.unwritten = [] from written,
        show writes store.pipeline.undone = [] from empty, append_nil,
        append_eq_nil_iff, append_eq_nil_iff] at entries
      exact .inr entries.2
  | emitted => trivial

end Flushes

theorem Flushes.store {store : LogStore} {phase : QuiescencePhase}
    (flushes : Flushes reply store phase) (growing : store.Growing) {event : LogEvent}
    (appending : event.Appending) (other : event ≠ .request (.flushSync reply))
    (quiet : ∀ index, event = .enqueue index → phase ≠ .flushing) :
    Flushes reply (store.step event) phase := by
  cases event with
  | announce entry => cases phase <;> exact flushes
  | enqueue index =>
    rw [LogStore.step]
    split
    · refine flushes.push growing.opened _ (fun same => by cases same) fun waits => ?_
      exact absurd waits (quiet index rfl)
    · exact flushes
  | request command =>
    cases command with
    | write entry => exact flushes
    | flushSync number =>
      refine flushes.push growing.opened store.sending (fun same => ?_) fun _ => rfl
      exact other (congrArg LogEvent.request same)
    | _ => exact flushes.push growing.opened store.sending (fun same => by cases same) fun _ => rfl
  | shutdownDiscard => exact appending.1.elim
  | actor answer => exact flushes.actorStep growing appending.1

/-- The store keeps what it was sent before the signal. -/
structure Delivers (reply : Nat) (start : LogTable) (sent : List InsertEntry) (store : LogStore)
    (phase : QuiescencePhase) : Prop where
  growing : store.Growing
  order : ∃ inserted, store.logs = start.insertAll inserted ∧
    (phase = .emitted → sent <+: inserted) ∧
    (phase ≠ .emitted → inserted ++ (store.unwritten ++ writes store.undone) = sent)
  flush : Flushes reply store phase

namespace Delivers

variable {reply : Nat} {start : LogTable} {sent : List InsertEntry} {store : LogStore}
  {phase : QuiescencePhase}

theorem step (delivers : Delivers reply start sent store phase) {event : LogEvent}
    (appending : event.Appending) (other : event ≠ .request (.flushSync reply))
    (quiet : ∀ index, event = .enqueue index → phase ≠ .flushing) :
    Delivers reply start (sent ++ if phase = .emitted then [] else writes (store.enqueued event))
      (store.step event) phase := by
  obtain ⟨inserted, logs, late, early⟩ := delivers.order
  obtain ⟨growing, grown⟩ := delivers.growing.step appending
  refine ⟨growing, ⟨inserted ++ store.inserted event, ?_, ?_, ?_⟩,
    delivers.flush.store delivers.growing appending other quiet⟩
  · rw [grown, logs, insertAll_append]
  · intro emitted
    rw [if_pos emitted, append_nil]
    exact (late emitted).trans (prefix_append _ _)
  · intro waits
    rw [if_neg waits, ← early waits, append_assoc, append_assoc,
      delivers.growing.entries_step appending]

theorem flushing (delivers : Delivers reply start sent store .idle) :
    Delivers reply start sent (store.step (.request (.flushSync reply))) .flushing := by
  have appending : (LogEvent.request (.flushSync reply)).Appending := ⟨⟨rfl, rfl⟩, rfl⟩
  obtain ⟨inserted, logs, -, early⟩ := delivers.order
  obtain ⟨growing, grown⟩ := delivers.growing.step appending
  obtain ⟨unwritten, undone, replies⟩ :=
    push_of_opened delivers.growing.opened store.sending (.flushSync reply)
  refine ⟨growing, ⟨inserted, ?_, nofun, fun _ => ?_⟩,
    .inl ⟨?_, store.undone, [], undone, delivers.flush.2, rfl⟩⟩
  · rw [grown, logs]
    rfl
  · rw [← early (nofun)]
    show inserted ++ (({ store with sending := store.sending }.push _).unwritten ++
      writes ({ store with sending := store.sending }.push _).undone) = _
    rw [unwritten, undone, writes_append,
      show writes [LogCommand.flushSync reply] = [] from rfl, append_nil]
  · show reply ∉ ({ store with sending := store.sending }.push _).replies
    rw [replies]
    exact delivers.flush.1

theorem emitted (delivers : Delivers reply start sent store .flushing)
    (replied : reply ∈ store.replies) : Delivers reply start sent store .emitted := by
  obtain ⟨inserted, logs, -, early⟩ := delivers.order
  obtain ⟨waits, -⟩ | ⟨written, empty⟩ := delivers.flush
  · exact absurd replied waits
  · refine ⟨delivers.growing, ⟨inserted, logs, fun _ => ?_, fun waits => absurd rfl waits⟩, trivial⟩
    rewrite [← early nofun, written, empty, append_nil,
      append_nil]
    exact prefix_rfl

theorem subset (delivers : Delivers reply start sent store .emitted) :
    (start.insertAll sent).rows <+: store.logs.rows := by
  obtain ⟨inserted, logs, late, -⟩ := delivers.order
  obtain ⟨rest, rfl⟩ := late rfl
  rw [logs, insertAll_append, rows_insertAll (start.insertAll sent)]
  exact prefix_append _ _

end Delivers

/-! ### Rows between two ids -/

namespace LogQuery

variable {query : LogQuery} {logs : LogTable} {low middle high : Int}

def between (query : LogQuery) (logs : LogTable) (low high : Int) : List (Row InsertEntry) :=
  (query.rest logs low).filter fun row => row.id ≤ high

theorem mem_between {row : Row InsertEntry} :
    row ∈ query.between logs low high ↔
      row ∈ logs.rows ∧ query.buildFilter row = true ∧ low < row.id ∧ row.id ≤ high := by
  rw [between, mem_filter, mem_rest, decide_eq_true_eq, and_assoc, and_assoc]

theorem between_ordered (query : LogQuery) (logs : LogTable) (low high : Int) :
    (query.between logs low high).Pairwise fun earlier later => earlier.id < later.id :=
  ((logs.ordered.filter _).filter _).filter _

theorem between_eq_nil (empty : high ≤ low) : query.between logs low high = [] := by
  refine eq_nil_iff_forall_not_mem.mpr fun row member => ?_
  obtain ⟨-, -, above, below⟩ := mem_between.mp member
  exact absurd (below.trans empty) (not_le.mpr above)

theorem between_insertAll (within : high ≤ logs.lastId ∨ high ≤ low) (entries : List InsertEntry) :
    query.between (logs.insertAll entries) low high = query.between logs low high := by
  rcases within with within | empty
  · have none : (((numbered logs.lastId entries).filter query.buildFilter).filter
        fun row => low < row.id).filter (fun row => row.id ≤ high) = [] := by
      rw [filter_eq_nil_iff]
      intro row member
      have new := mem_of_mem_filter (mem_of_mem_filter member)
      rw [decide_eq_true_eq, not_le]
      exact within.trans_lt (lt_id_of_mem_numbered new)
    rw [between, rest, select, rows_insertAll, filter_append, filter_append,
      filter_append, none, append_nil]
    rfl
  · rw [between_eq_nil empty, between_eq_nil empty]

theorem between_append (lower : low ≤ middle) (upper : middle ≤ high) :
    query.between logs low middle ++ query.between logs middle high =
      query.between logs low high := by
  have ordered : (query.between logs low middle ++ query.between logs middle high).Pairwise
      fun earlier later => earlier.id < later.id := by
    refine pairwise_append.mpr
      ⟨between_ordered .., between_ordered .., fun first before second after => ?_⟩
    exact (mem_between.mp before).2.2.2.trans_lt (mem_between.mp after).2.2.1
  refine eq_of_ordered ordered (between_ordered ..) fun row => ?_
  rw [mem_append, mem_between, mem_between, mem_between]
  constructor
  · rintro (⟨member, asked, above, below⟩ | ⟨member, asked, above, below⟩)
    · exact ⟨member, asked, above, below.trans upper⟩
    · exact ⟨member, asked, lower.trans_lt above, below⟩
  · rintro ⟨member, asked, above, below⟩
    rcases le_or_gt row.id middle with early | late
    · exact .inl ⟨member, asked, above, early⟩
    · exact .inr ⟨member, asked, late, below⟩

theorem rest_prefix_between {earlier : LogTable} (grown : earlier.rows <+: logs.rows)
    (within : ∀ row ∈ query.rest earlier low, row.id ≤ high) :
    query.rest earlier low <+: query.between logs low high := by
  obtain ⟨more, split⟩ := grown
  have all : (query.rest ..).filter (fun row => row.id ≤ high) = query.rest earlier low :=
    filter_eq_self.mpr fun row member => decide_eq_true (within row member)
  have whole : query.rest logs low = query.rest earlier low ++
      (more.filter query.buildFilter).filter fun row => low < row.id := by
    rw [rest, select, ← split, filter_append, filter_append]
    rfl
  rw [between, whole, filter_append, all]
  exact prefix_append _ _

end LogQuery

theorem chunk_eq_between {request : LogsStream} {chunkSize : Nat} {query : LogQuery}
    (hasPending : Bool) {afterId : Int} {logs : LogTable} :
    request.chunk chunkSize query afterId logs = query.between logs afterId
      (request.respond chunkSize query hasPending afterId logs).lastId := by
  have ordered : (query.rest logs afterId).Pairwise fun earlier later => earlier.id < later.id :=
    (logs.ordered.filter _).filter _
  refine eq_of_ordered (ordered.sublist (take_sublist _ _)) (between_ordered ..)
    fun row => ?_
  rw [mem_chunk, LogQuery.between, mem_filter, decide_eq_true_eq]

/-! ### What the client has printed -/

def Following.cursor (following : Following) : Int := following.client.lastId.getD 0

/-- The client has printed what the query asks for up to its cursor, and when it ends nothing due is
left. -/
structure Reads (query : LogQuery) (first : Int) (due : List (Row InsertEntry))
    (printed : List StreamLogEntry) (following : Following) (phase : QuiescencePhase) : Prop where
  unlimited : following.client.remaining = none
  resting : following.client.position ≠ .requesting → following.inquiry = .none
  lower : first ≤ following.cursor
  upper : following.cursor ≤ following.store.logs.lastId ∨ following.cursor ≤ first
  printed : printed.map (fun entry => (entry.id, entry.line)) =
    (query.between following.store.logs first following.cursor).map
      fun row => (row.id, row.content.line)
  anchored : ∀ hasPending afterId, following.inquiry = .anchored hasPending afterId →
    afterId = following.cursor
  answered : ∀ data, following.inquiry = .answered data →
    following.cursor ≤ data.lastId ∧
      (data.lastId ≤ following.store.logs.lastId ∨ data.lastId ≤ following.cursor) ∧
      data.entries.map (fun entry => (entry.id, entry.line)) =
        (query.between following.store.logs following.cursor data.lastId).map
          fun row => (row.id, row.content.line)
  signalled : following.client.quiescentReceived = true → phase = .emitted
  complete : ∀ data, following.inquiry = .answered data →
    following.client.quiescentReceived = true →
    (data.hasMore && !data.entries.isEmpty) = false →
    ∀ row ∈ due, query.buildFilter row = true → row.id ≤ data.lastId
  done : following.client.position = .exited .done → phase = .emitted ∧
    ∀ row ∈ due, query.buildFilter row = true → row.id ≤ following.cursor

namespace Reads

variable {services : List String} {raw : Bool} {startAfterId : Option Int} {chunkSize : Nat}
  {query : LogQuery} {first : Int} {due : List (Row InsertEntry)} {printed : List StreamLogEntry}
  {following : Following} {phase : QuiescencePhase}

section

variable (reads : Reads query first due printed following phase)

include reads

theorem store {event : LogEvent} {more : List (Row InsertEntry)}
    (grown : (following.store.step event).logs = following.store.logs.insertAll entries)
    (settled : phase = .emitted → more = due) :
    Reads query first more printed { following with store := following.store.step event }
      phase where
  unlimited := reads.unlimited
  resting := reads.resting
  lower := reads.lower
  upper := by
    show following.cursor ≤ (following.store.step event).logs.lastId ∨ following.cursor ≤ first
    rw [grown]
    exact reads.upper.imp_left fun within => within.trans (lastId_le_insertAll _ _)
  printed := by
    show _ = (query.between (following.store.step event).logs first following.cursor).map _
    rw [grown, between_insertAll reads.upper]
    exact reads.printed
  anchored := reads.anchored
  answered := by
    intro data answer
    obtain ⟨after, within, entries⟩ := reads.answered data answer
    refine ⟨after, ?_, ?_⟩
    · show data.lastId ≤ (following.store.step event).logs.lastId ∨ _
      rw [grown]
      exact within.imp_left fun within => within.trans (lastId_le_insertAll _ _)
    · show _ = (query.between (following.store.step event).logs following.cursor data.lastId).map _
      rw [grown, between_insertAll within]
      exact entries
  signalled := reads.signalled
  complete := by
    intro data answer quiescent last
    rw [settled (reads.signalled quiescent)]
    exact reads.complete data answer quiescent last
  done := by
    intro exited
    obtain ⟨emitted, all⟩ := reads.done exited
    rw [settled emitted]
    exact ⟨emitted, all⟩

theorem signal {next : QuiescencePhase} (later : phase = .emitted → next = .emitted) :
    Reads query first due printed following next :=
  { reads with
    signalled := fun quiescent => later (reads.signalled quiescent)
    done := fun exited => (reads.done exited).imp_left later }

theorem client {client : StreamState} (same : client.lastId = following.client.lastId)
    (owes : client.remaining = following.client.remaining)
    (quiescent : client.quiescentReceived = true → phase = .emitted)
    (goes : client.position ≠ .exited .done) :
    Reads query first due printed { following with client := client, inquiry := .none } phase where
  unlimited := owes.trans reads.unlimited
  resting := fun _ => rfl
  lower := by
    rw [cursor, same]
    exact reads.lower
  upper := by
    rw [cursor, same]
    exact reads.upper
  printed := by
    rw [cursor, same]
    exact reads.printed
  anchored := nofun
  answered := nofun
  signalled := quiescent
  complete := nofun
  done := fun exited => absurd exited goes

theorem look :
    Reads query first due printed
      (following.step (followLogsUntilQuiescent services raw startAfterId) query chunkSize .look)
      phase := by
  unfold Following.step
  dsimp only
  split
  · rename_i place idle
    exact { reads with
      resting := fun elsewhere => absurd place elsewhere
      anchored := nofun
      answered := nofun
      complete := nofun }
  · exact reads

theorem anchor :
    Reads query first due printed
      (following.step (followLogsUntilQuiescent services raw startAfterId) query chunkSize .anchor)
      phase := by
  unfold Following.step
  dsimp only
  split
  · rename_i hasPending looked
    exact { reads with
      resting := fun elsewhere => by
        rw [reads.resting elsewhere] at looked
        cases looked
      anchored := by
        rintro _ _ ⟨⟩
        unfold cursor
        cases known : following.client.lastId with
        | none =>
          rw [LogsStream.effectiveAfterId, if_neg (by exact Bool.false_ne_true),
            show (request _ following.client).afterId = none from known]
          rfl
        | some last => exact effectiveAfterId_of_lastId known _ _
      answered := nofun
      complete := nofun }
  · exact reads

end

theorem covers {request : LogsStream} {hasPending : Bool} {afterId : Int} {logs : LogTable}
    (some : 0 < min request.limit chunkSize)
    (last : ((request.respond chunkSize query hasPending afterId logs).hasMore &&
      !(request.respond chunkSize query hasPending afterId logs).entries.isEmpty) = false)
    {row : Row InsertEntry} (member : row ∈ logs.rows) (asked : query.buildFilter row = true) :
    row.id ≤ (request.respond chunkSize query hasPending afterId logs).lastId := by
  rcases le_or_gt row.id afterId with before | after
  · exact before.trans (effectiveAfterId_le_lastId ..)
  · have inside : row ∈ query.rest logs afterId := mem_rest.mpr ⟨member, asked, after⟩
    have returned : row ∈ request.chunk chunkSize query afterId logs := by
      rcases (Bool.and_eq_false_iff.mp last) with ends | empty
      · rw [hasMore_respond, Bool.or_eq_false_iff, decide_eq_false_iff_not,
          not_lt] at ends
        rw [LogsStream.chunk, take_of_length_le ends.1]
        exact inside
      · have none : request.chunk chunkSize query afterId logs = [] := by
          rw [Bool.not_eq_false', List.isEmpty_iff] at empty
          have lines := lines_respond request chunkSize query hasPending afterId logs
          rw [empty, map_nil] at lines
          exact map_eq_nil_iff.mp lines.symm
        rcases take_eq_nil_iff.mp none with zero | nothing
        · exact absurd zero some.ne'
        · rw [nothing] at inside
          cases inside
    exact (mem_chunk.mp returned).2

theorem read (reads : Reads query first due printed following phase) (positive : 0 < chunkSize)
    (present : phase = .emitted → ∀ row ∈ due, row ∈ following.store.logs.rows) :
    Reads query first due printed
      (following.step (followLogsUntilQuiescent services raw startAfterId) query chunkSize .read)
      phase := by
  unfold Following.step
  dsimp only
  split
  · rename_i hasPending afterId found
    obtain rfl := reads.anchored hasPending afterId found
    exact { reads with
      resting := fun elsewhere => by
        rw [reads.resting elsewhere] at found
        cases found
      anchored := nofun
      answered := by
        rintro _ ⟨⟩
        refine ⟨effectiveAfterId_le_lastId ..,
          lastId_respond_cases.imp_right le_of_eq, ?_⟩
        refine (lines_respond ..).trans ?_
        rw [chunk_eq_between hasPending]
        rfl
      complete := by
        rintro _ ⟨⟩ quiescent last row member asked
        refine covers ?_ last (present (reads.signalled quiescent) row member) asked
        have limit : (request (followLogsUntilQuiescent services raw startAfterId)
            following.client).limit = maxStreamBatchSize := by
          rw [request, requestLimit, reads.unlimited]
          rfl
        rw [limit]
        exact lt_min (by decide) positive }
  · exact reads

theorem receive_eq {state : StreamState} (unlimited : state.remaining = none)
    (data : LogStreamData) :
    (followLogsUntilQuiescent services raw startAfterId).receive state data =
      { state with
        lastId := some data.lastId
        position :=
          if state.quiescentReceived && !(data.hasMore && !data.entries.isEmpty) then .exited .done
          else if data.hasMore && !data.entries.isEmpty then .continuing
          else .waiting } := by
  have owed : state.owed data = data.entries := by rw [owed, unlimited]
  have endless : state.exhausted data = false := by rw [exhausted, unlimited]
  unfold receive
  rw [owed, endless, unlimited, if_neg Bool.false_ne_true]
  unfold proceed
  dsimp only [followLogsUntilQuiescent]
  split_ifs <;> simp [exit]

section

variable (reads : Reads query first due printed following phase)

include reads

theorem receive :
    Reads query first due (printed ++ following.returned .receive)
      (following.step (followLogsUntilQuiescent services raw startAfterId) query chunkSize .receive)
      phase := by
  unfold Following.step Following.returned
  dsimp only
  split
  · rename_i data place answer
    obtain ⟨after, within, entries⟩ := reads.answered data answer
    rw [answer]
    dsimp only
    rw [step_data, if_pos place, receive_eq reads.unlimited, owed,
      reads.unlimited]
    have upper : data.lastId ≤ following.store.logs.lastId ∨ data.lastId ≤ first :=
      within.elim .inl fun same => reads.upper.imp same.trans same.trans
    refine ⟨rfl, fun _ => rfl, reads.lower.trans after, upper, ?_, (fun _ _ same => by cases same),
      (fun _ same => by cases same), reads.signalled, (fun _ same => by cases same),
      fun exited => ?_⟩
    · rw [map_append, reads.printed, entries, ← map_append,
        between_append reads.lower after]
      rfl
    · split_ifs at exited with last
      rw [Bool.and_eq_true, Bool.not_eq_true'] at last
      exact ⟨reads.signalled last.1, reads.complete data answer last.1 last.2⟩
  · rename_i idle
    rw [append_nil]
    split
    · rename_i data answer
      have place : following.client.position = .requesting := by
        by_contra elsewhere
        rw [reads.resting elsewhere] at answer
        cases answer
      exact absurd answer (idle data place)
    · exact reads

theorem goesOn {client : StreamState} (elsewhere : following.client.position ≠ .requesting)
    (same : client.lastId = following.client.lastId)
    (owes : client.remaining = following.client.remaining)
    (quiescent : client.quiescentReceived = true → phase = .emitted)
    (goes : client.position = .requesting) :
    Reads query first due printed { following with client := client } phase := by
  have kept := reads.client same owes quiescent (goes ▸ nofun)
  rw [← reads.resting elsewhere] at kept
  exact kept

theorem fails {failure : StreamFailure} (connected : failure ≠ .disconnected)
    (proper : failure ≠ .other) (loaded : failure ≠ .error "Config not loaded") :
    Reads query first due printed
      (following.step (followLogsUntilQuiescent services raw startAfterId) query chunkSize
        (.client (.failed failure))) phase := by
  unfold Following.step
  dsimp only
  rw [step_failed]
  split
  · rename_i place
    cases failure with
    | permissionDenied => exact reads.client rfl rfl reads.signalled nofun
    | error =>
      rw [fail, if_neg fun same => loaded (congrArg _ same)]
      exact reads.client rfl rfl reads.signalled nofun
    | other => exact absurd rfl proper
    | disconnected => exact absurd rfl connected
    | timedOut =>
      refine reads.client rfl rfl reads.signalled ?_
      rw [fail, place]
      exact nofun
  · rename_i elsewhere
    rw [← reads.resting elsewhere]
    exact reads

theorem event {event : StreamEvent}
    (undisturbed : (ForegroundEvent.follow (.client event)).Undisturbed reply)
    (signal : event = .quiescence → phase = .emitted) :
    Reads query first due printed
      (following.step (followLogsUntilQuiescent services raw startAfterId) query chunkSize
        (.client event)) phase := by
  cases event with
  | data data => exact reads
  | shutdown => exact undisturbed.elim
  | failed => exact reads.fails undisturbed.1 undisturbed.2.1 undisturbed.2.2
  | quiescence =>
    unfold Following.step
    dsimp only
    rw [step_quiescence]
    split
    · rename_i waits
      refine reads.goesOn (fun place => ?_) rfl rfl (fun _ => signal rfl) rfl
      rw [place] at waits
      rcases waits.1 with same | same <;> cases same
    · exact reads
  | resume =>
    unfold Following.step
    dsimp only
    rw [step_resume]
    split
    · rename_i pauses
      refine reads.goesOn (fun place => ?_) rfl rfl reads.signalled rfl
      rw [place] at pauses
      rcases pauses with same | same | same | same <;> cases same
    · exact reads

end

end Reads

/-! ### The drain -/

/-- What holds in every state of a run, with the lines sent before the signal and the entries
printed. -/
structure Drains (reply : Nat) (start : LogTable) (query : LogQuery) (first : Int)
    (sent : List InsertEntry) (printed : List StreamLogEntry) (foreground : Foreground) : Prop where
  delivers : Delivers reply start sent foreground.following.store foreground.phase
  reads : Reads query first (start.insertAll sent).rows printed foreground.following
    foreground.phase

theorem Following.store_step {params : StreamParams} {query : LogQuery} {chunkSize : Nat}
    (following : Following) {event : FollowEvent} (other : ∀ inner, event ≠ .store inner) :
    (following.step params query chunkSize event).store = following.store := by
  unfold step
  split
  · exact absurd rfl (other _)
  all_goals first | rfl | (split <;> rfl)

namespace Drains

variable {services : List String} {raw : Bool} {startAfterId : Option Int} {chunkSize reply : Nat}
  {start : LogTable} {query : LogQuery} {first : Int} {sent : List InsertEntry}
  {printed : List StreamLogEntry} {foreground : Foreground}

section

variable (drains : Drains reply start query first sent printed foreground)

include drains

theorem store {event : LogEvent} (appending : event.Appending)
    (other : event ≠ .request (.flushSync reply))
    (quiet : ∀ index, event = .enqueue index → foreground.phase ≠ .flushing) :
    Drains reply start query first (sent ++ foreground.sent (.follow (.store event))) printed
      { foreground with
        following := { foreground.following with
          store := foreground.following.store.step event } } where
  delivers := drains.delivers.step appending other quiet
  reads := by
    refine drains.reads.store (drains.delivers.growing.step appending).2 fun emitted => ?_
    rw [Foreground.sent, if_pos emitted, append_nil]

theorem client
    {event : FollowEvent} (other : ∀ inner, event ≠ .store inner)
    {more : List StreamLogEntry}
    (reads : Reads query first (start.insertAll sent).rows more
      (foreground.following.step (followLogsUntilQuiescent services raw startAfterId) query chunkSize
        event) foreground.phase) :
    Drains reply start query first (sent ++ []) more
      { foreground with
        following := foreground.following.step (followLogsUntilQuiescent services raw startAfterId)
          query chunkSize event } := by
  rw [append_nil]
  refine ⟨?_, reads⟩
  show Delivers reply start sent (foreground.following.step _ query chunkSize event).store
    foreground.phase
  rw [foreground.following.store_step other]
  exact drains.delivers

theorem step (positive : 0 < chunkSize) {event : ForegroundEvent}
    (undisturbed : event.Undisturbed reply) (quiet : foreground.Quiet event) :
    Drains reply start query first (sent ++ foreground.sent event)
      (printed ++ foreground.printed event)
      (foreground.step (followLogsUntilQuiescent services raw startAfterId) query chunkSize reply
        event) := by
  have silent : ∀ {more : List InsertEntry} {next : Foreground}, foreground.printed event = [] →
      Drains reply start query first more printed next →
      Drains reply start query first more (printed ++ foreground.printed event) next := by
    intro more next none kept
    rwa [none, append_nil]
  have unsent : ∀ {next : Foreground}, foreground.sent event = [] →
      Drains reply start query first sent printed next →
      Drains reply start query first (sent ++ foreground.sent event) printed next := by
    intro next none kept
    rwa [none, append_nil]
  cases event with
  | follow event =>
    cases event with
    | store event =>
      refine silent rfl (drains.store undisturbed.1 undisturbed.2 fun index same => ?_)
      subst same
      exact quiet
    | look => exact silent rfl (drains.client (fun _ same => by cases same) drains.reads.look)
    | anchor => exact silent rfl (drains.client (fun _ same => by cases same) drains.reads.anchor)
    | read =>
      refine silent rfl (drains.client (fun _ same => by cases same)
        (drains.reads.read positive fun emitted row member => ?_))
      have delivers := drains.delivers
      rw [emitted] at delivers
      exact delivers.subset.subset member
    | receive => exact drains.client (fun _ same => by cases same) drains.reads.receive
    | client event =>
      cases event with
      | quiescence =>
        unfold Foreground.step
        dsimp only
        split
        · rename_i emitted
          exact silent rfl (drains.client (fun _ same => by cases same)
            (drains.reads.event undisturbed fun _ => emitted))
        · exact silent rfl (unsent rfl drains)
      | data | failed | shutdown | resume =>
        exact silent rfl (drains.client (fun _ same => by cases same)
          (drains.reads.event undisturbed nofun))
  | flush =>
    refine silent rfl (unsent rfl ?_)
    unfold Foreground.step
    dsimp only
    split
    · rename_i idle
      have delivers := drains.delivers
      rw [idle] at delivers
      refine ⟨delivers.flushing, ?_⟩
      have appending : (LogEvent.request (.flushSync reply)).Appending := ⟨⟨rfl, rfl⟩, rfl⟩
      have grown := (delivers.growing.step appending).2
      refine (drains.reads.store grown fun _ => rfl).signal fun emitted => ?_
      rw [idle] at emitted
      cases emitted
    · exact drains
  | emit =>
    refine silent rfl (unsent rfl ?_)
    unfold Foreground.step
    dsimp only
    split
    · rename_i replied
      have delivers := drains.delivers
      rw [replied.1] at delivers
      exact ⟨delivers.emitted replied.2, drains.reads.signal fun _ => rfl⟩
    · exact drains
  | abort =>
    have calm : (ForegroundEvent.follow (.client .quiescence)).Undisturbed reply := trivial
    exact silent rfl (drains.client (fun _ same => by cases same)
      (drains.reads.event calm fun _ => quiet))

end

end Drains

theorem drains_start (services : List String) (raw : Bool) (startAfterId : Option Int)
    (logs : LogTable) (batchSize reply : Nat) :
    Drains reply logs (foregroundQuery services) (startAfterId.getD 0) [] []
      ⟨⟨.spawn logs batchSize none, (followLogsUntilQuiescent services raw startAfterId).start, .none⟩,
        .idle⟩ where
  delivers := by
    refine ⟨growing_spawn logs batchSize, ⟨[], rfl, fun _ => prefix_rfl, fun _ => rfl⟩,
      nofun, nofun⟩
  reads := {
    unlimited := rfl
    resting := fun elsewhere => absurd rfl elsewhere
    lower := le_rfl
    upper := .inr le_rfl
    printed := by
      show [] = ((foregroundQuery services).between logs (startAfterId.getD 0)
        (startAfterId.getD 0)).map _
      rw [between_eq_nil le_rfl]
      rfl
    anchored := nofun
    answered := nofun
    signalled := nofun
    complete := nofun
    done := nofun }

/-- A client that nothing disturbs, in a run in which no line comes between the flush and the signal
and the client does not give up before the signal. When its stream is done, it has printed every
line that came before the signal and that it asks for, above the id at which it began, each once and
in the order of the ids. What it prints always has increasing ids. -/
theorem foreground_prints_before_signal (services : List String) (raw : Bool)
    (startAfterId : Option Int) (logs : LogTable) (batchSize reply : Nat)
    (events : List ForegroundEvent) :
    let params := followLogsUntilQuiescent services raw startAfterId
    let query := foregroundQuery services
    let start : Foreground := ⟨⟨.spawn logs batchSize none, params.start, .none⟩, .idle⟩
    let step := Foreground.step params query streamChunkSize reply
    let reached := run step start events
    let printed := outputs step Foreground.printed start events
    let table := logs.insertAll (outputs step Foreground.sent start events)
    Meets step (fun foreground event => event.Undisturbed reply ∧ foreground.Quiet event) start
      events →
    (printed.map StreamLogEntry.id).Pairwise (· < ·) ∧
      (reached.following.client.position = .exited .done →
        table.rows <+: reached.following.store.logs.rows ∧
        (query.rest table (startAfterId.getD 0)).map (fun row => (row.id, row.content.line)) <+:
          printed.map fun entry => (entry.id, entry.line)) := by
  intro params query start step reached printed table meets
  have keeps : ∀ sent printed (foreground : Foreground) (event : ForegroundEvent),
      Drains reply logs query (startAfterId.getD 0) sent printed foreground →
      event.Undisturbed reply ∧ foreground.Quiet event →
      Drains reply logs query (startAfterId.getD 0) (sent ++ foreground.sent event)
        (printed ++ foreground.printed event) (step ..) :=
    fun _ _ _ _ drains meets => drains.step (by decide) meets.1 meets.2
  have drains := histories keeps meets
    (drains_start ..)
  rw [nil_append, nil_append] at drains
  refine ⟨?_, fun exited => ?_⟩
  · have ids := congrArg (map Prod.fst) drains.reads.printed
    rw [map_map, map_map] at ids
    rw [show printed.map StreamLogEntry.id = _ from ids]
    exact pairwise_map.mpr (between_ordered ..)
  · obtain ⟨emitted, all⟩ := drains.reads.done exited
    have delivers := drains.delivers
    rw [emitted] at delivers
    refine ⟨delivers.subset, ?_⟩
    rw [drains.reads.printed]
    refine List.IsPrefix.map _ (rest_prefix_between delivers.subset fun row member => ?_)
    obtain ⟨inside, asked, -⟩ := mem_rest.mp member
    exact all row inside asked

/-- A line between the flush and the signal is lost: the answer says that entries are pending, and
the client ends because it has no rows. -/
theorem line_after_flush_is_lost :
    ∃ (line : InsertEntry) (events : List ForegroundEvent),
      let params := followLogsUntilQuiescent [] false none
      let query := foregroundQuery []
      let start : Foreground := ⟨⟨.spawn default 2 none, params.start, .none⟩, .idle⟩
      let step := Foreground.step params query streamChunkSize 0
      (∀ event ∈ events, event.Undisturbed 0) ∧
      outputs step Foreground.sent start events = [line] ∧
      (run step start events).phase = .emitted ∧
      (run step start events).following.client.position = .exited .done ∧
      outputs step Foreground.printed start events = [] :=
  ⟨⟨0, "web", none, "info", "late", none⟩,
    [.follow .look, .follow .anchor, .follow .read, .follow .receive, .flush] ++
      replicate 10 (.follow (.store (.actor {}))) ++
      [.follow (.store (.announce ⟨0, "web", none, "info", "late", none⟩)),
        .follow (.store (.enqueue 0)), .emit, .follow (.client .quiescence), .follow .look,
        .follow .anchor, .follow .read, .follow .receive],
    by decide +kernel, by decide +kernel, by decide +kernel, by decide +kernel, by decide +kernel⟩

theorem foreground_prints_before_signal_of_line :
    ∃ (line : InsertEntry) (events : List ForegroundEvent),
      let params := followLogsUntilQuiescent [] false none
      let query := foregroundQuery []
      let start : Foreground := ⟨⟨.spawn default 2 none, params.start, .none⟩, .idle⟩
      let step := Foreground.step params query streamChunkSize 0
      outputs step Foreground.sent start events = [line] ∧
      (run step start events).following.client.position = .exited .done ∧
      (query.rest ((default : LogTable).insertAll (outputs step Foreground.sent start events)) 0).map
          (fun row => (row.id, row.content.line)) <+:
        (outputs step Foreground.printed start events).map fun entry => (entry.id, entry.line) := by
  let line : InsertEntry := ⟨0, "web", none, "info", "early", none⟩
  let events : List ForegroundEvent :=
    [.follow .look, .follow .anchor, .follow .read, .follow .receive,
      .follow (.store (.announce line)), .follow (.store (.enqueue 0)), .flush] ++
    replicate 16 (.follow (.store (.actor {}))) ++
    [.emit, .follow (.client .quiescence), .follow .look, .follow .anchor, .follow .read,
      .follow .receive, .follow (.client .resume), .follow .look, .follow .anchor, .follow .read,
      .follow .receive]
  have drained := foreground_prints_before_signal [] false none default 2 0 events
    (by decide +kernel)
  refine ⟨line, events, by decide +kernel, by decide +kernel, ?_⟩
  exact (drained.2 (by decide +kernel)).2

end Kepler
