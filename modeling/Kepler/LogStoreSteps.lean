/-
This file says once what a step of the log store actor can do to the entries and to the table.

The command that the actor holds between two accesses and the question whether the batch is in the
table already can be read off its position. With these two the steps fall into a few kinds, and what
holds in every run of the store is shown kind by kind.
-/

import Kepler.LogStore

namespace Kepler

/-! ### What can be read off a position -/

/-- The command, never a write, whose work is still to be done after the flush. -/
def FlushCaller.held : FlushCaller → List LogCommand
  | .command (.write _) => []
  | .command other => [other]
  | _ => []

theorem FlushCaller.held_command {command : LogCommand} (other : ∀ entry, command ≠ .write entry) :
    FlushCaller.held (.command command) = [command] := by
  cases command with
  | write entry => exact absurd rfl (other entry)
  | _ => rfl

namespace Position

/-- The command that is out of the channel and not done yet. -/
def held : Position → List LogCommand
  | .received (.command command) => [command]
  | .flushBatch caller => caller.held
  | .flushAttempt _ caller => caller.held
  | .writing _ caller => caller.held
  | .settling _ caller => caller.held
  | .flushed caller => caller.held
  | _ => []

def stored : Position → Bool
  | .settling .stored _ => true
  | _ => false

def running : Position → Bool
  | .discarding => false
  | .zeroing => false
  | .returned => false
  | _ => true

def inserting : Position → Bool
  | .writing _ _ => true
  | _ => false

def busy : Position → Bool
  | .writing _ _ => true
  | .settling _ _ => true
  | _ => false

variable {position : Position}

theorem stored_of_not_busy (idle : position.busy = false) : position.stored = false := by
  cases position with
  | settling => cases idle
  | _ => rfl

theorem inserting_of_not_busy (idle : position.busy = false) : position.inserting = false := by
  cases position with
  | writing => cases idle
  | _ => rfl

/-- No command is held and the batch is left alone. -/
structure Free (position : Position) : Prop where
  held : position.held = []
  running : position.running = true
  busy : position.busy = false

/-- A position outside of `flush_batch` with no command and an open channel. -/
def resting : Position → Bool
  | .received (.command _) => false
  | .received .disconnected => false
  | .hungUp => false
  | .flushBatch (.command _) => false
  | .flushBatch .disconnected => false
  | .flushAttempt _ _ => false
  | .writing _ _ => false
  | .settling _ _ => false
  | .flushed _ => false
  | .discarding => false
  | .zeroing => false
  | .returned => false
  | _ => true

theorem free_of_resting (resting : position.resting = true) : position.Free := by
  cases position with
  | received message => cases message with
    | command _ | disconnected => cases resting
    | timeout => exact ⟨rfl, rfl, rfl⟩
  | flushBatch caller => cases caller with
    | command _ | disconnected => cases resting
    | _ => exact ⟨rfl, rfl, rfl⟩
  | flushAttempt | writing | settling | flushed | hungUp | discarding | zeroing | returned =>
    cases resting
  | _ => exact ⟨rfl, rfl, rfl⟩

/-- The positions at which the channel is found disconnected and nothing is flushed yet. -/
def hanging : List Position := [.received .disconnected, .hungUp, .flushBatch .disconnected]

theorem free_of_hanging (hanging : position ∈ hanging) : position.Free := by
  simp only [Position.hanging, List.mem_cons, List.not_mem_nil, or_false] at hanging
  rcases hanging with rfl | rfl | rfl <;> exact ⟨rfl, rfl, rfl⟩

end Position

def FlushCaller.cleaning : FlushCaller → Bool
  | .cleanupPass _ => true
  | .drainFull => true
  | .drainEnd => true
  | _ => false

/-- The actor is inside a cleanup, as far as its position shows. -/
def Position.cleaning : Position → Bool
  | .flushBatch caller => caller.cleaning
  | .flushAttempt _ caller => caller.cleaning
  | .writing _ caller => caller.cleaning
  | .settling _ caller => caller.cleaning
  | .flushed caller => caller.cleaning
  | .deleting _ _ => true
  | .deletingBatch _ _ => true
  | .draining => true
  | _ => false

def Position.leaving : Position → Bool
  | .received .disconnected => true
  | .hungUp => true
  | .flushBatch caller => caller == .disconnected
  | .flushAttempt _ caller => caller == .disconnected
  | .writing _ caller => caller == .disconnected
  | .settling _ caller => caller == .disconnected
  | .flushed caller => caller == .disconnected
  | _ => false

namespace LogStore

def Cleaning (store : LogStore) : Prop := store.calls ≠ [] ∨ store.position.cleaning = true

/-! ### The kinds of steps -/

/-- The actor goes on with nothing in its hands, and begins no cleanup. -/
def Resumes (store next : LogStore) : Prop :=
  ∃ position calls cleanupHasMore, position.resting = true ∧
    next = { store with
      position := position, calls := calls, cleanupHasMore := cleanupHasMore } ∧
    (next.Cleaning → store.Cleaning)

inductive ActorStep (store : LogStore) (answer : Answer) : LogStore → Prop
  | idle (idle : store.position.busy = false) : ActorStep store answer store
  /-- the actor moves on with nothing in its hands -/
  | resumed {next : LogStore} (free : store.position.Free) (resumes : store.Resumes next) :
    ActorStep store answer next
  /-- the channel is disconnected, and the actor is about to end -/
  | hanging (position : Position) (free : store.position.Free)
    (cause : answer.idle = .disconnected ∨ store.position.leaving = true)
    (hanging : position ∈ Position.hanging) :
    ActorStep store answer { store with position := position }
  | taken {command : LogCommand} {queue : List LogCommand} (position : Position)
    (found : store.queue = command :: queue) (free : store.position.Free)
    (places : position = .received (.command command) ∨
      position = .flushBatch (.command command) ∧ ∀ entry, command ≠ .write entry) :
    ActorStep store answer { store with queue := queue, position := position }
  /-- a command without effect is taken out of the channel and done -/
  | skipped {queue : List LogCommand} {next : LogStore}
    (found : store.queue = .setLogNotify :: queue) (free : store.position.Free)
    (resumes : { store with queue := queue }.Resumes next) : ActorStep store answer next
  | noted {next : LogStore}
    (places : store.position = .received (.command .setLogNotify) ∨
      store.position = .flushed (.command .setLogNotify)) (resumes : store.Resumes next) :
    ActorStep store answer next
  /-- a write goes from the channel to the batch -/
  | collected {entry : InsertEntry} {queue : List LogCommand} (position : Position)
    (found : store.queue = .write entry :: queue) (before : store.position.Free)
    (resting : position.resting = true)
    (cleaning : position.cleaning = true → store.position.cleaning = true) :
    ActorStep store answer
      { store with queue := queue, batch := store.batch ++ [entry], position := position }
  /-- a write that is held goes to the batch -/
  | pushed {entry : InsertEntry}
    (received : store.position = .received (.command (.write entry))) :
    ActorStep store answer
      { store with batch := store.batch ++ [entry], position := .collecting }
  /-- a command needs the batch to be flushed -/
  | handled {command : LogCommand} (received : store.position = .received (.command command))
    (other : ∀ entry, command ≠ .write entry) :
    ActorStep store answer { store with position := .flushBatch (.command command) }
  | clean {caller : FlushCaller} (degraded : Bool) (flushing : store.position = .flushBatch caller)
    (empty : store.batch = []) :
    ActorStep store answer { store with degraded := degraded, position := .flushed caller }
  | begun {caller : FlushCaller} (flushing : store.position = .flushBatch caller) :
    ActorStep store answer { store with position := .flushAttempt 0 caller }
  /-- an attempt finds the discard flag -/
  | refused {attempt : Nat} {caller : FlushCaller}
    (attempting : store.position = .flushAttempt attempt caller)
    (flagged : store.discardFlag = true) :
    ActorStep store answer { store with position := .settling .discarding caller }
  | attempted {attempt : Nat} {caller : FlushCaller}
    (attempting : store.position = .flushAttempt attempt caller) :
    ActorStep store answer { store with position := .writing attempt caller }
  /-- the transaction of an attempt -/
  | written {attempt : Nat} {caller : FlushCaller}
    (writing : store.position = .writing attempt caller) :
    ActorStep store answer (store.tryWriteBatch answer attempt caller)
  | settled {result : FlushResult} {caller : FlushCaller}
    (settling : store.position = .settling result caller) :
    ActorStep store answer (store.settle result caller)
  | cleared {command : LogCommand} {doomed : Row InsertEntry → Bool} {next : LogStore}
    (flushed : store.position = .flushed (.command command))
    (selects : command.doomed = some doomed)
    (resumes : { store with
      logs := if answer.outcome.applied then store.logs.delete doomed
        else store.logs }.Resumes next) : ActorStep store answer next
  | replied {reply : Nat} {next : LogStore}
    (flushed : store.position = .flushed (.command (.flushSync reply)))
    (resumes : { store with replies := store.replies ++ [reply] }.Resumes next) :
    ActorStep store answer next
  | cleanupDue {retention : Int} (checking : store.position = .cleanupCheck)
    (retains : store.retentionPeriod = some retention) :
    ActorStep store answer
      { store with position := .flushBatch (.cleanupPass (answer.now - retention)) }
  | cleanupAsked {cutoff : Int}
    (flushed : store.position = .flushed (.command (.cleanupBefore cutoff))) :
    ActorStep store answer { store with position := .deleting .startup cutoff }
  | expired {caller : CleanupCaller} {cutoff : Int} {next : LogStore}
    (deleting : store.position = .deletingBatch caller cutoff)
    (resumes : (store.expire answer (store.logs.expired cutoff caller.batch)).Resumes next) :
    ActorStep store answer next
  | ended {caller : FlushCaller} (flushed : store.position = .flushed caller)
    (last : caller = .disconnected ∨ caller = .command .shutdown) :
    ActorStep store answer { store with position := .returned }
  | discarded (running : store.position.running = true) (idle : store.position.busy = false)
    (flagged : store.discardFlag = true) : ActorStep store answer store.discard
  | drained {command : LogCommand} {queue : List LogCommand}
    (discarding : store.position = .discarding) (found : store.queue = command :: queue) :
    ActorStep store answer { store with queue := queue, position := .discarding }
  /-- the channel is empty at last -/
  | emptied (discarding : store.position = .discarding) :
    ActorStep store answer { store with position := .zeroing }
  /-- the counter is set to zero and the thread ends -/
  | zeroed (zeroing : store.position = .zeroing) :
    ActorStep store answer { store with pendingCount := 0, position := .returned }

/-! ### Every step is of one of these kinds -/

variable {store : LogStore} {position : Position} {answer : Answer}

theorem Resumes.to (resting : position.resting = true)
    (cleaning : position.cleaning = true → store.Cleaning) :
    store.Resumes { store with position := position } :=
  ⟨position, store.calls, store.cleanupHasMore, resting, rfl,
    fun inside => inside.elim Or.inl cleaning⟩

theorem Resumes.plainly (resting : position.resting = true) (outside : position.cleaning = false) :
    store.Resumes { store with position := position } :=
  .to resting fun inside => by rw [outside] at inside; cases inside

theorem resumes_resumeCleanup (store : LogStore) : store.Resumes store.resumeCleanup := by
  unfold resumeCleanup
  split
  · exact .plainly rfl rfl
  · rename_i cutoff calls suspended
    exact ⟨_, _, _, rfl, rfl, fun _ => .inl (by rw [suspended]; exact List.cons_ne_nil _ _)⟩

theorem resumes_drainEnd (cleaning : store.Cleaning) : store.Resumes store.drainEnd := by
  unfold drainEnd
  split
  · exact store.resumes_resumeCleanup
  · exact .to rfl fun _ => cleaning

theorem resumes_commandDone (store : LogStore) : store.Resumes store.commandDone := by
  unfold commandDone
  split
  · exact .plainly rfl rfl
  · rename_i suspended
    exact resumes_drainEnd (.inl fun none => suspended (by rw [none]; rfl))

theorem resumes_afterCleanup (cleaning : store.Cleaning) (caller : CleanupCaller) (cutoff : Int)
    (result : CleanupResult) : store.Resumes (store.afterCleanup caller cutoff result) := by
  unfold afterCleanup
  split
  · exact ⟨_, _, _, rfl, rfl, fun _ => cleaning⟩
  · split
    · exact ⟨_, _, _, rfl, rfl, fun _ => cleaning⟩
    · exact store.resumes_commandDone

theorem actorStep_handleNonWrite {command : LogCommand} {queue : List LogCommand}
    (found : store.queue = command :: queue) (free : store.position.Free)
    (other : ∀ entry, command ≠ .write entry) :
    ActorStep store answer ({ store with queue := queue }.handleNonWrite command) := by
  unfold handleNonWrite
  split
  · rename_i same
    exact .skipped (same ▸ found) free (resumes_commandDone _)
  · exact .taken _ found free (.inr ⟨rfl, other⟩)

theorem actorStep_received {message : Received} (received : store.position = .received message) :
    ActorStep store answer (store.actorStep answer) := by
  simp only [actorStep, received]
  split
  · rename_i flagged
    refine .discarded ?_ ?_ flagged <;> rw [received] <;> rfl
  · split
    · exact .pushed received
    · rename_i command other
      have notWrite : ∀ entry, command ≠ .write entry := fun entry same => other entry (same ▸ rfl)
      unfold handleNonWrite
      split
      · rename_i same
        subst same
        exact .noted (.inl received) store.resumes_commandDone
      · exact .handled received notWrite
    · exact .resumed (received ▸ ⟨rfl, rfl, rfl⟩) (.plainly rfl rfl)
    · exact .hanging _ (received ▸ ⟨rfl, rfl, rfl⟩) (.inr (received ▸ rfl)) (by decide)

theorem actorStep_afterFlush {caller : FlushCaller} (flushed : store.position = .flushed caller) :
    ActorStep store answer (store.afterFlush answer caller) := by
  have resumed : ∀ {next : LogStore}, caller.held = [] → store.Resumes next →
      ActorStep store answer next := by
    intro next none resumes
    exact .resumed (flushed ▸ ⟨none, rfl, rfl⟩) resumes
  have cleaning : caller.cleaning = true → store.Cleaning := by
    intro inside
    exact .inr (flushed ▸ inside)
  cases caller with
  | loopEnd => exact resumed rfl (.plainly rfl rfl)
  | disconnected => exact .ended flushed (.inl rfl)
  | cleanupPass | drainFull => exact resumed rfl (.to rfl fun _ => cleaning rfl)
  | drainEnd => exact resumed rfl store.resumes_resumeCleanup
  | command command => ?_
  cases command with
  | write entry => exact resumed rfl store.resumes_commandDone
  | clear => exact .cleared flushed rfl (resumes_commandDone _)
  | clearService => exact .cleared flushed rfl (resumes_commandDone _)
  | clearServiceHooks => exact .cleared flushed rfl (resumes_commandDone _)
  | cleanupBefore cutoff => exact .cleanupAsked flushed
  | flushSync reply => exact .replied flushed (resumes_commandDone _)
  | setLogNotify => exact .noted (.inr flushed) store.resumes_commandDone
  | shutdown => exact .ended flushed (.inr rfl)

theorem actorStep_deleteExpired {caller : CleanupCaller} {cutoff : Int}
    (deleting : store.position = .deletingBatch caller cutoff) :
    ActorStep store answer (store.deleteExpired answer caller cutoff) := by
  have cleaning : ∀ doomed, (store.expire answer doomed).Cleaning :=
    fun _ => .inr (show store.position.cleaning = true by rw [deleting]; rfl)
  refine .expired deleting ?_
  dsimp only [deleteExpired]
  split_ifs
  · exact resumes_afterCleanup (cleaning _) caller cutoff .failed
  · exact resumes_afterCleanup (cleaning _) caller cutoff .complete
  · exact resumes_afterCleanup (cleaning _) caller cutoff .timeBudgetExceeded
  · exact .to rfl fun _ => cleaning _

theorem actorStep_cases (store : LogStore) (answer : Answer) :
    ActorStep store answer (store.actorStep answer) := by
  cases place : store.position
  case received message => exact actorStep_received place
  all_goals simp only [actorStep, place]
  case' loopTop | hungUp | receiving | collecting | collectingNext | flushCheck | cleanupCheck |
      deleting | draining =>
    have free : store.position.Free := place ▸ ⟨rfl, rfl, rfl⟩
  case writing attempt caller => exact .written place
  case settling result caller => exact .settled place
  case flushed caller => exact actorStep_afterFlush place
  case deletingBatch caller cutoff => exact actorStep_deleteExpired place
  case zeroing => exact .zeroed place
  case returned => exact .idle (place ▸ rfl)
  case flushBatch caller =>
    split
    · rename_i empty
      exact .clean _ place (List.isEmpty_iff.mp empty)
    · exact .begun place
  case flushAttempt attempt caller =>
    split
    · rename_i flagged
      exact .refused place flagged
    · exact .attempted place
  case discarding =>
    split
    · rename_i command queue found
      exact .drained place found
    · exact .emptied place
  case loopTop =>
    split
    · rename_i flagged
      exact .discarded free.running free.busy flagged
    · exact .resumed free (.plainly rfl rfl)
  case hungUp =>
    split
    · rename_i flagged
      exact .discarded free.running free.busy flagged
    · exact .hanging _ free (.inr (place ▸ rfl)) (by decide)
  case receiving =>
    split
    · rename_i command queue found
      exact .taken _ found free (.inl rfl)
    · split
      · exact .idle free.busy
      · split
        · exact .idle free.busy
        · exact .resumed free (.plainly rfl rfl)
      · rename_i disconnected
        exact .hanging _ free (.inl disconnected) (by decide)
  case collecting =>
    split
    · split
      · rename_i flagged
        exact .discarded free.running free.busy flagged
      · exact .resumed free (.plainly rfl rfl)
    · exact .resumed free (.plainly rfl rfl)
  case collectingNext =>
    split
    · rename_i entry queue found
      exact .collected _ found free rfl nofun
    · rename_i command queue other found
      exact actorStep_handleNonWrite found free other
    · exact .resumed free (.plainly rfl rfl)
  case flushCheck =>
    split <;> exact .resumed free (.plainly rfl rfl)
  case cleanupCheck =>
    split
    · rename_i retention retains
      split
      · exact .cleanupDue place retains
      · exact .resumed free (.plainly rfl rfl)
    · exact .resumed free (.plainly rfl rfl)
  case deleting caller cutoff =>
    have cleaning : store.Cleaning := .inr (place ▸ rfl)
    split
    · exact .resumed free (resumes_afterCleanup cleaning caller cutoff .discarded)
    · exact .resumed free (.to rfl fun _ => cleaning)
  case draining =>
    have cleaning : store.position.cleaning = true := place ▸ rfl
    split
    · rename_i entry queue found
      refine .collected _ found free ?_ fun _ => cleaning
      split
      · rfl
      · rfl
    · rename_i command queue other found
      exact actorStep_handleNonWrite found free other
    · exact .resumed free (resumes_drainEnd (.inr cleaning))

end LogStore

end Kepler
