/-
This file models the log store of a config, `store.rs`.

Senders count an entry as pending and then put it into the channel. One thread, the actor, takes the
commands out of the channel, gathers the writes in a batch and writes the batch to the table `logs`
in one transaction. Every other command that touches the table writes the batch first.

The actor is a machine whose position is the place in its code. A step of it goes up to the next
access to something that others can see: the discard flag, the channel, the table or the counter.
The nested calls that a startup cleanup makes are a stack of the cutoffs of the calls that are
suspended. What the machine does not decide comes with the step: whether a statement succeeds,
whether a timer has run out and what the clock shows.

The counter is an integer here, so that a subtraction that takes it below zero would be seen.
-/

import Kepler.Library.RowTable
import Kepler.Library.Runs

namespace Kepler

/-! ### Entries, commands and the table -/

structure InsertEntry where
  timestamp : Int
  service : String
  hook : Option String
  level : String
  line : String
  attributes : Option String
deriving DecidableEq, Repr

/-- The commands in the channel. The caller that waits for a `FlushSync` has a number. -/
inductive LogCommand where
  | write (entry : InsertEntry)
  | clear
  | clearService (service : String)
  | clearServiceHooks (service : String)
  | cleanupBefore (cutoffMs : Int)
  | flushSync (reply : Nat)
  | setLogNotify
  | shutdown
deriving DecidableEq, Repr

/-- The table `logs`, whose column `id` is `INTEGER PRIMARY KEY`. -/
abbrev LogTable := RowTable InsertEntry

/-- The rows that the `DELETE` statement of a command selects. -/
def LogCommand.doomed : LogCommand → Option (Row InsertEntry → Bool)
  | .clear => some fun _ => true
  | .clearService service => some fun row => row.content.service == service
  | .clearServiceHooks service =>
    some fun row => row.content.service == service && row.content.hook.isSome
  | _ => none

/-- The rows that `LOG_DELETE_SQL` selects: the oldest ones before the cutoff. -/
def LogTable.expired (logs : LogTable) (cutoff : Int) (limit : Nat) : List (Row InsertEntry) :=
  ((logs.rows.filter fun row => row.content.timestamp < cutoff).insertionSort
    fun first second => first.content.timestamp ≤ second.content.timestamp).take limit

def maxFlushReopenAttempts : Nat := 3

/-! ### The state of the store -/

inductive Received where
  | command (command : LogCommand)
  | timeout
  | disconnected
deriving DecidableEq, Repr

inductive FlushCaller where
  /-- in `handle_non_write`, at the start of what the command does -/
  | command (command : LogCommand)
  /-- in `run`, when the batch is full or the interval has elapsed -/
  | loopEnd
  /-- in `run`, when the channel is disconnected -/
  | disconnected
  /-- in `run_cleanup_pass` -/
  | cleanupPass (cutoff : Int)
  /-- in the loop of `drain_and_flush_writes` -/
  | drainFull
  /-- at the end of `drain_and_flush_writes` -/
  | drainEnd
deriving DecidableEq, Repr

inductive FlushResult where
  | stored
  | discarding
  | gaveUp
deriving DecidableEq, Repr

/-- Who called `run_cleanup_batches`: `run_cleanup_pass` or `run_batched_delete`. -/
inductive CleanupCaller where
  | periodic
  | startup
deriving DecidableEq, Repr

/-- `PERIODIC_CLEANUP_BATCH` and `STARTUP_CLEANUP_BATCH` -/
def CleanupCaller.batch : CleanupCaller → Nat
  | .periodic => 5000
  | .startup => 50000

inductive CleanupResult where
  | complete
  | timeBudgetExceeded
  | discarded
  | failed
deriving DecidableEq, Repr

/-- The access that the actor makes next. -/
inductive Position where
  /-- `run`: the discard flag at the top of the loop -/
  | loopTop
  /-- `run`: the message -/
  | receiving
  /-- `run`: the discard flag after the message -/
  | received (message : Received)
  /-- `run`: the discard flag once more, when the channel is disconnected -/
  | hungUp
  /-- `run`: the discard flag in the loop that drains the channel into the batch -/
  | collecting
  /-- `run`: the next message of that loop -/
  | collectingNext
  /-- `run`: the flush interval -/
  | flushCheck
  /-- `run`: the cleanup interval -/
  | cleanupCheck
  /-- `flush_batch`: its start -/
  | flushBatch (caller : FlushCaller)
  /-- `flush_batch`: the discard flag before an attempt -/
  | flushAttempt (attempt : Nat) (caller : FlushCaller)
  /-- `flush_batch`: the transaction of an attempt -/
  | writing (attempt : Nat) (caller : FlushCaller)
  /-- `flush_batch`: the counter -/
  | settling (result : FlushResult) (caller : FlushCaller)
  /-- what the caller of `flush_batch` does next -/
  | flushed (caller : FlushCaller)
  /-- `run_cleanup_batches`: the discard flag -/
  | deleting (caller : CleanupCaller) (cutoff : Int)
  /-- `run_cleanup_batches`: the `DELETE` statement -/
  | deletingBatch (caller : CleanupCaller) (cutoff : Int)
  /-- `drain_and_flush_writes`: the next message -/
  | draining
  /-- `discard`: the next message -/
  | discarding
  /-- `discard`: the counter -/
  | zeroing
  /-- the thread has ended and the channel is closed -/
  | returned
deriving DecidableEq, Repr

structure LogStore where
  logs : LogTable
  /-- the channel -/
  queue : List LogCommand
  /-- the entries that are counted and not in the channel yet -/
  sending : List InsertEntry
  pendingCount : Int
  discardFlag : Bool
  degraded : Bool
  /-- the callers of `FlushSync` that have their reply -/
  replies : List Nat
  batch : List InsertEntry
  batchSize : Nat
  retentionPeriod : Option Int
  cleanupHasMore : Bool
  position : Position
  /-- the cutoffs of the calls of `run_batched_delete` that drain the channel, innermost first -/
  calls : List Int
deriving DecidableEq

namespace LogStore

/-- `LogStoreHandle::spawn` on a database with the given rows. -/
def spawn (logs : LogTable) (batchSize : Nat) (retentionPeriod : Option Int) : LogStore where
  logs := logs
  queue := []
  sending := []
  pendingCount := 0
  discardFlag := false
  degraded := false
  replies := []
  batch := []
  batchSize := batchSize
  retentionPeriod := retentionPeriod
  cleanupHasMore := false
  position := .loopTop
  calls := []

def hasPending (store : LogStore) : Bool := 0 < store.pendingCount

/-! ### The steps of the actor -/

end LogStore

/-- How a statement ends. A failed one may have changed the table, when the error comes after the
change was made durable. -/
inductive SqlOutcome where
  | done
  | failed
  | failedDurable
deriving DecidableEq, Repr

def SqlOutcome.applied : SqlOutcome → Bool
  | .done => true
  | .failed => false
  | .failedDurable => true

/-- How a receive ends while the channel is empty. -/
inductive Idle where
  | blocked
  | timeout
  | disconnected
deriving DecidableEq, Repr

/-- What a step of the actor takes from its surroundings. -/
structure Answer where
  idle : Idle := .blocked
  outcome : SqlOutcome := .done
  /-- the interval or the time budget that the step looks at has run out -/
  elapsed : Bool := false
  /-- the connection can be opened again -/
  reopened : Bool := false
  now : Int := 0
deriving DecidableEq, Repr

namespace LogStore

variable (store : LogStore)

/-- `discard`, up to its first message -/
def discard : LogStore := { store with batch := [], position := .discarding }

/-- `run_batched_delete`, after it has drained the channel -/
def resumeCleanup : LogStore :=
  match store.calls with
  | [] => { store with position := .flushCheck }
  | cutoff :: calls => { store with calls := calls, position := .deleting .startup cutoff }

/-- `drain_and_flush_writes`, after its loop -/
def drainEnd : LogStore :=
  if store.batch.isEmpty then store.resumeCleanup
  else { store with position := .flushBatch .drainEnd }

/-- What comes after `handle_non_write`: the loop that called it is left. -/
def commandDone : LogStore :=
  if store.calls.isEmpty then { store with position := .flushCheck } else store.drainEnd

def handleNonWrite (command : LogCommand) : LogStore :=
  if command = .setLogNotify then store.commandDone
  else { store with position := .flushBatch (.command command) }

/-- What follows the call of `flush_batch`. -/
def afterFlush (answer : Answer) : FlushCaller → LogStore
  | .command command =>
    match command.doomed with
    | some doomed =>
      { store with
        logs := if answer.outcome.applied then store.logs.delete doomed
          else store.logs }.commandDone
    | none =>
      match command with
      | .cleanupBefore cutoff => { store with position := .deleting .startup cutoff }
      | .flushSync reply => { store with replies := store.replies ++ [reply] }.commandDone
      | .shutdown => { store with position := .returned }
      | _ => store.commandDone
  | .loopEnd => { store with position := .cleanupCheck }
  | .disconnected => { store with position := .returned }
  | .cleanupPass cutoff => { store with position := .deleting .periodic cutoff }
  | .drainFull => { store with position := .draining }
  | .drainEnd => store.resumeCleanup

/-- What the callers of `run_cleanup_batches` do with its result. -/
def afterCleanup (caller : CleanupCaller) (cutoff : Int) (result : CleanupResult) : LogStore :=
  match caller with
  | .periodic =>
    { store with cleanupHasMore := result == .timeBudgetExceeded, position := .loopTop }
  | .startup =>
    if result = .timeBudgetExceeded then
      { store with calls := cutoff :: store.calls, position := .draining }
    else store.commandDone

def expire (answer : Answer) (doomed : List (Row InsertEntry)) : LogStore :=
  { store with
    logs := if answer.outcome.applied then store.logs.delete fun row => doomed.contains row
      else store.logs }

/-- One `DELETE` statement of `run_cleanup_batches`. -/
def deleteExpired (answer : Answer) (caller : CleanupCaller) (cutoff : Int) : LogStore :=
  let doomed := store.logs.expired cutoff caller.batch
  let expired := store.expire answer doomed
  if answer.outcome ≠ .done then expired.afterCleanup caller cutoff .failed
  else if doomed.length < caller.batch then expired.afterCleanup caller cutoff .complete
  else if answer.elapsed then expired.afterCleanup caller cutoff .timeBudgetExceeded
  else { expired with position := .deleting caller cutoff }

/-- The transaction of an attempt of `flush_batch`. After a failure the connection is opened again
and the batch is tried again. -/
def tryWriteBatch (answer : Answer) (attempt : Nat) (caller : FlushCaller) : LogStore :=
  { store with
    logs := if answer.outcome.applied then store.logs.insertAll store.batch else store.logs
    position := if answer.outcome = .done then .settling .stored caller
      else if attempt < maxFlushReopenAttempts then .flushAttempt (attempt + 1) caller
      else .settling .gaveUp caller }

/-- `flush_batch`, after its attempts -/
def settle (result : FlushResult) (caller : FlushCaller) : LogStore :=
  { store with
    batch := []
    pendingCount := store.pendingCount - store.batch.length
    degraded := match result with
      | .stored => false
      | .discarding => store.degraded
      | .gaveUp => true
    position := .flushed caller }

def actorStep (answer : Answer) : LogStore :=
  match store.position with
  | .loopTop => if store.discardFlag then store.discard else { store with position := .receiving }
  | .receiving =>
    match store.queue with
    | command :: queue =>
      { store with queue := queue, position := .received (.command command) }
    | [] =>
      match answer.idle with
      | .blocked => store
      | .timeout =>
        -- without a batch and without retention the receive has no timeout
        if store.batch.isEmpty && store.retentionPeriod.isNone then store
        else { store with position := .received .timeout }
      | .disconnected => { store with position := .received .disconnected }
  | .received message =>
    if store.discardFlag then store.discard else
      match message with
      | .command (.write entry) =>
        { store with batch := store.batch ++ [entry], position := .collecting }
      | .command command => store.handleNonWrite command
      | .timeout => { store with position := .flushCheck }
      | .disconnected => { store with position := .hungUp }
  | .hungUp =>
    if store.discardFlag then store.discard
    else { store with position := .flushBatch .disconnected }
  | .collecting =>
    if store.batch.length < store.batchSize then
      if store.discardFlag then store.discard else { store with position := .collectingNext }
    else { store with position := .flushCheck }
  | .collectingNext =>
    match store.queue with
    | .write entry :: queue =>
      { store with queue := queue, batch := store.batch ++ [entry], position := .collecting }
    | command :: queue => { store with queue := queue }.handleNonWrite command
    | [] => { store with position := .flushCheck }
  | .flushCheck =>
    if !store.batch.isEmpty && (decide (store.batchSize ≤ store.batch.length) || answer.elapsed)
    then { store with position := .flushBatch .loopEnd }
    else { store with position := .cleanupCheck }
  | .cleanupCheck =>
    match store.retentionPeriod with
    | some retention =>
      if store.cleanupHasMore || answer.elapsed then
        { store with position := .flushBatch (.cleanupPass (answer.now - retention)) }
      else { store with position := .loopTop }
    | none => { store with position := .loopTop }
  | .flushBatch caller =>
    if store.batch.isEmpty then
      { store with
        degraded := store.degraded && (store.discardFlag || !answer.reopened)
        position := .flushed caller }
    else { store with position := .flushAttempt 0 caller }
  | .flushAttempt attempt caller =>
    if store.discardFlag then { store with position := .settling .discarding caller }
    else { store with position := .writing attempt caller }
  | .writing attempt caller => store.tryWriteBatch answer attempt caller
  | .settling result caller => store.settle result caller
  | .flushed caller => store.afterFlush answer caller
  | .deleting caller cutoff =>
    if store.discardFlag then store.afterCleanup caller cutoff .discarded
    else { store with position := .deletingBatch caller cutoff }
  | .deletingBatch caller cutoff => store.deleteExpired answer caller cutoff
  | .draining =>
    match store.queue with
    | .write entry :: queue =>
      { store with
        queue := queue
        batch := store.batch ++ [entry]
        position := if store.batchSize ≤ store.batch.length + 1 then .flushBatch .drainFull
          else .draining }
    | command :: queue => { store with queue := queue }.handleNonWrite command
    | [] => store.drainEnd
  | .discarding =>
    match store.queue with
    | _ :: queue => { store with queue := queue }
    | [] => { store with position := .zeroing }
  | .zeroing => { store with pendingCount := 0, position := .returned }
  | .returned => store

end LogStore

/-! ### The system -/

inductive LogEvent where
  /-- `send` of an entry: the counter -/
  | announce (entry : InsertEntry)
  /-- `send` of an entry: the channel, for one of the entries that are counted -/
  | enqueue (index : Nat)
  /-- `send` of another command -/
  | request (command : LogCommand)
  /-- `shutdown_discard` -/
  | shutdownDiscard
  /-- the next step of the actor -/
  | actor (answer : Answer)
deriving DecidableEq, Repr

namespace LogStore

/-- A command is put into the channel, and dropped if the channel is closed. -/
def push (store : LogStore) (command : LogCommand) : LogStore :=
  if store.position = .returned then store else { store with queue := store.queue ++ [command] }

def step (store : LogStore) : LogEvent → LogStore
  | .announce entry =>
    { store with sending := store.sending ++ [entry], pendingCount := store.pendingCount + 1 }
  | .enqueue index =>
    match store.sending[index]? with
    | some entry => { store with sending := store.sending.eraseIdx index }.push (.write entry)
    | none => store
  | .request (.write _) => store
  | .request command => store.push command
  | .shutdownDiscard => { store with discardFlag := true }
  | .actor answer => store.actorStep answer

end LogStore

end Kepler
