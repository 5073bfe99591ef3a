/-
This file proves that batching the writes of a log store cannot be seen.

Without discards and cleanups, and as long as SQLite does what it is asked, the actor with its batch
refines a store that applies one command after the other in the order of the channel. In every state
the commands that were put into the channel split into earlier ones and those that are not done. The
table together with the entries of the batch that are not in it is the table of the sequential store
after the earlier ones.
-/

import Kepler.LogStoreSteps

namespace Kepler

open Runs List Position

/-! ### The sequential store -/

def LogCommand.apply (logs : LogTable) : LogCommand → LogTable
  | .write entry => logs.insert entry
  | .clear => logs.delete fun _ => true
  | .clearService service => logs.delete fun row => row.content.service == service
  | .clearServiceHooks service =>
    logs.delete fun row => row.content.service == service && row.content.hook.isSome
  | _ => logs

def LogCommand.entry : LogCommand → Option InsertEntry
  | .write entry => some entry
  | _ => none

def writes (commands : List LogCommand) : List InsertEntry := commands.filterMap LogCommand.entry

/-- A command that is no cleanup. -/
def LogCommand.batched : LogCommand → Bool
  | .cleanupBefore _ => false
  | _ => true

/-- The store gets no cleanups, its statements succeed, and it discards nothing. -/
def LogEvent.Plain : LogEvent → Prop
  | .request command => command.batched = true
  | .shutdownDiscard => False
  | .actor answer => answer.outcome = .done
  | _ => True

instance : (event : LogEvent) → Decidable event.Plain
  | .announce _ => .isTrue trivial
  | .enqueue _ => .isTrue trivial
  | .request command => inferInstanceAs (Decidable (command.batched = true))
  | .shutdownDiscard => .isFalse id
  | .actor answer => inferInstanceAs (Decidable (answer.outcome = .done))

variable {command : LogCommand} {doomed : Row InsertEntry → Bool}

theorem LogCommand.apply_of_doomed (selects : command.doomed = some doomed) (logs : LogTable) :
    command.apply logs = logs.delete doomed := by
  cases command with
  | clear | clearService | clearServiceHooks => cases selects; rfl
  | _ => cases selects

theorem LogCommand.entry_of_doomed (selects : command.doomed = some doomed) :
    command.entry = none := by
  cases command with
  | write => cases selects
  | _ => rfl

/-! ### From the channel to the table -/

/-- What is on its way from the channel to the table. -/
structure Pipeline where
  logs : LogTable
  unwritten : List InsertEntry
  undone : List LogCommand

namespace Pipeline

/-- What a step of an undisturbed actor does, with the entries that it inserts. -/
inductive Step (pipeline : Pipeline) : List InsertEntry → Pipeline → Prop
  | same : Step pipeline [] pipeline
  | gathered {entry : InsertEntry} {rest : List LogCommand}
    (next : pipeline.undone = .write entry :: rest) :
    Step pipeline [] ⟨pipeline.logs, pipeline.unwritten ++ [entry], rest⟩
  | written : Step pipeline pipeline.unwritten
    ⟨pipeline.logs.insertAll pipeline.unwritten, [], pipeline.undone⟩
  /-- another command is done after the batch was written -/
  | executed {command : LogCommand} {rest : List LogCommand}
    (next : pipeline.undone = command :: rest) (flushed : pipeline.unwritten = [])
    (other : command.entry = none) :
    Step pipeline [] ⟨command.apply pipeline.logs, [], rest⟩
  | noted {rest : List LogCommand} (next : pipeline.undone = .setLogNotify :: rest) :
    Step pipeline [] ⟨pipeline.logs, pipeline.unwritten, rest⟩

/-- The sequential store after the earlier commands has the rows of the table and of the batch. -/
def Accounts (start : LogTable) (commands : List LogCommand) (inserted : List InsertEntry)
    (pipeline : Pipeline) : Prop :=
  ∃ earlier, commands = earlier ++ pipeline.undone ∧
    earlier.foldl LogCommand.apply start = pipeline.logs.insertAll pipeline.unwritten ∧
    inserted ++ pipeline.unwritten = writes earlier

variable {start : LogTable} {commands : List LogCommand} {entries inserted : List InsertEntry}
  {pipeline next : Pipeline}

theorem Accounts.step (accounts : Accounts start commands inserted pipeline)
    (step : Step pipeline entries next) :
    Accounts start commands (inserted ++ entries) next := by
  obtain ⟨earlier, sent, rows, order⟩ := accounts
  cases step with
  | same => exact ⟨earlier, sent, rows, by rw [append_nil, order]⟩
  | @gathered entry rest first =>
    refine ⟨earlier ++ [.write entry], ?_, ?_, ?_⟩
    · rw [sent, first, append_assoc, singleton_append]
    · rw [foldl_append, rows, RowTable.insertAll_append]
      rfl
    · rw [append_nil, ← append_assoc, order, writes, writes, filterMap_append]
      rfl
  | written =>
    refine ⟨earlier, sent, rows, ?_⟩
    rw [append_nil, order]
  | @executed command rest first flushed other =>
    refine ⟨earlier ++ [command], ?_, ?_, ?_⟩
    · rw [sent, first, append_assoc, singleton_append]
    · rw [foldl_append, rows, flushed]
      rfl
    · rw [append_nil, append_nil, writes, filterMap_append,
        filterMap_cons_none other, filterMap_nil, append_nil, ← writes, ← order,
        flushed, append_nil]
  | @noted rest first =>
    refine ⟨earlier ++ [.setLogNotify], ?_, ?_, ?_⟩
    · rw [sent, first, append_assoc, singleton_append]
    · rw [foldl_append, rows]
      rfl
    · rw [append_nil, order, writes, writes, filterMap_append]
      exact (append_nil _).symm

theorem Accounts.enqueue (accounts : Accounts start commands inserted pipeline)
    (new : List LogCommand) : Accounts start (commands ++ new) inserted
      ⟨pipeline.logs, pipeline.unwritten, pipeline.undone ++ new⟩ := by
  obtain ⟨earlier, sent, rows, order⟩ := accounts
  exact ⟨earlier, by rw [sent, append_assoc], rows, order⟩

end Pipeline

namespace LogStore

def offered (store : LogStore) : LogEvent → List LogCommand
  | .enqueue index => (store.sending[index]?.map LogCommand.write).toList
  | .request (.write _) => []
  | .request command => [command]
  | _ => []

def enqueued (store : LogStore) (event : LogEvent) : List LogCommand :=
  if store.position = .returned then [] else store.offered event

def inserted (store : LogStore) (event : LogEvent) : List InsertEntry :=
  match event with
  | .actor answer =>
    if store.position.inserting && answer.outcome.applied then store.batch else []
  | _ => []

def unwritten (store : LogStore) : List InsertEntry :=
  if store.position.stored then [] else store.batch

def undone (store : LogStore) : List LogCommand := store.position.held ++ store.queue

def pipeline (store : LogStore) : Pipeline := ⟨store.logs, store.unwritten, store.undone⟩

/-! ### The state of an undisturbed store -/

/-- What holds in every state of a store whose events are plain. -/
structure Steady (store : LogStore) : Prop where
  unflagged : store.discardFlag = false
  unlimited : store.retentionPeriod = none
  outside : ¬ store.Cleaning
  commands : ∀ command ∈ store.undone, command.batched = true
  flushed : ∀ caller, store.position = .flushed caller → store.batch = []
  stores : ∀ result caller, store.position = .settling result caller → result = .stored
  alive : store.position ≠ .discarding ∧ store.position ≠ .zeroing

variable {store next : LogStore} {answer : Answer} {logs : LogTable} {queue : List LogCommand}
  {position : Position} {batch : List InsertEntry} {degraded : Bool} {pendingCount : Int}
  {event : LogEvent}

theorem pipeline_of_free (free : store.position.Free) :
    store.pipeline = ⟨store.logs, store.batch, store.queue⟩ := by
  rw [pipeline, unwritten, undone, free.held, stored_of_not_busy free.busy]
  rfl

theorem Resumes.pipeline_eq (resumes : store.Resumes next) :
    next.pipeline = ⟨store.logs, store.batch, store.queue⟩ := by
  obtain ⟨position, calls, cleanupHasMore, resting, rfl, cleaning⟩ := resumes
  exact pipeline_of_free (free_of_resting resting)

theorem steady_of_resting (resting : store.position.resting = true)
    (unflagged : store.discardFlag = false) (unlimited : store.retentionPeriod = none)
    (outside : ¬ store.Cleaning) (commands : ∀ command ∈ store.queue, command.batched = true) :
    store.Steady where
  unflagged := unflagged
  unlimited := unlimited
  outside := outside
  commands := by
    rw [undone, (free_of_resting resting).held]
    exact commands
  flushed caller place := by rw [place] at resting; cases resting
  stores result caller place := by rw [place] at resting; cases resting
  alive := by
    constructor <;>
    · intro place
      rw [place] at resting
      cases resting

theorem Resumes.steady (steady : store.Steady) {replies : List Nat}
    (queued : ∀ command ∈ queue, command.batched = true)
    (resumes : { store with logs := logs, queue := queue, replies := replies }.Resumes next) :
    next.Steady := by
  obtain ⟨position, calls, cleanupHasMore, resting, rfl, cleaning⟩ := resumes
  exact steady_of_resting resting steady.unflagged steady.unlimited
    (fun inside => steady.outside (cleaning inside)) queued

theorem Steady.queued (steady : store.Steady) : ∀ command ∈ store.queue, command.batched = true :=
  fun command member => steady.commands command (mem_append_right _ member)

theorem Steady.held (steady : store.Steady) (place : store.position = position)
    {command : LogCommand} (holds : command ∈ position.held) : command.batched = true :=
  steady.commands command (mem_append_left _ (place ▸ holds))

theorem Steady.move (steady : store.Steady) (undone : position.held ++ queue ⊆ store.undone)
    (cleaning : position.cleaning = true → store.position.cleaning = true)
    (flushed : ∀ caller, position = .flushed caller → batch = [])
    (stores : ∀ result caller, position = .settling result caller → result = .stored)
    (alive : position ≠ .discarding ∧ position ≠ .zeroing) :
    { store with
      logs := logs, queue := queue, batch := batch, pendingCount := pendingCount
      degraded := degraded, position := position }.Steady where
  unflagged := steady.unflagged
  unlimited := steady.unlimited
  outside := by
    rintro (suspended | inside)
    · exact steady.outside (.inl suspended)
    · exact steady.outside (.inr (cleaning inside))
  commands := fun command member => steady.commands command (undone member)
  flushed := flushed
  stores := stores
  alive := alive

theorem Steady.flush (steady : store.Steady) {caller : FlushCaller}
    (before : store.position.held = caller.held ∧ store.position.cleaning = caller.cleaning)
    (after : position.held = caller.held ∧ position.cleaning = caller.cleaning)
    (flushed : ∀ caller, position = .flushed caller → batch = [])
    (stores : ∀ result caller, position = .settling result caller → result = .stored)
    (alive : position ≠ .discarding ∧ position ≠ .zeroing) :
    { store with
      logs := logs, batch := batch, pendingCount := pendingCount, degraded := degraded
      position := position }.Steady := by
  refine steady.move ?_ ?_ flushed stores alive
  · rw [after.1, undone, before.1]
    exact List.Subset.refl _
  · rw [after.2, before.2]
    exact id

theorem Steady.actorStep (steady : store.Steady) (done : answer.outcome = .done)
    (step : ActorStep store answer next) : next.Steady := by
  cases step with
  | idle idle => exact steady
  | resumed _ resumes | noted _ resumes | cleared _ _ resumes | replied _ resumes =>
    exact resumes.steady steady steady.queued
  | skipped found free resumes =>
    refine resumes.steady steady fun command member => steady.queued command ?_
    rw [found]
    exact mem_cons_of_mem _ member
  | hanging position free cause hanging =>
    refine steady.move ?_ ?_ ?_ ?_ ?_
    · rw [(free_of_hanging hanging).held]
      exact subset_append_right _ _
    all_goals
      simp only [Position.hanging, mem_cons, not_mem_nil, or_false] at hanging
      rcases hanging with rfl | rfl | rfl <;> simp [Position.cleaning, FlushCaller.cleaning]
  | @taken command queue position found free places =>
    have undone : [command] ++ queue ⊆ store.undone := by
      rw [singleton_append, ← found]
      exact subset_append_right _ _
    rcases places with rfl | ⟨rfl, other⟩
    · refine steady.move undone ?_ ?_ ?_ ?_ <;> simp [cleaning]
    · rw [← FlushCaller.held_command other] at undone
      refine steady.move undone ?_ ?_ ?_ ?_ <;> simp [cleaning, FlushCaller.cleaning]
  | @collected entry queue position found before resting cleaning =>
    refine steady_of_resting resting steady.unflagged steady.unlimited ?_ ?_
    · rintro (suspended | inside)
      · exact steady.outside (.inl suspended)
      · exact steady.outside (.inr (cleaning inside))
    · intro command member
      refine steady.queued command ?_
      rw [found]
      exact mem_cons_of_mem _ member
  | pushed | @ended _ _ _ =>
    refine steady.move ?_ ?_ ?_ ?_ ?_
    · exact subset_append_right _ _
    all_goals simp [cleaning]
  | @handled command received other =>
    refine steady.move ?_ ?_ ?_ ?_ ?_
    · show FlushCaller.held (.command command) ++ store.queue ⊆ store.undone
      rw [FlushCaller.held_command other, undone, received]
      exact List.Subset.refl _
    all_goals simp [cleaning, FlushCaller.cleaning]
  | clean degraded flushing empty =>
    refine steady.flush (flushing ▸ ⟨rfl, rfl⟩) ⟨rfl, rfl⟩ (fun _ _ => empty) ?_ ?_ <;> simp
  | begun flushing | attempted flushing | settled flushing =>
    refine steady.flush (flushing ▸ ⟨rfl, rfl⟩) ⟨rfl, rfl⟩ ?_ ?_ ?_ <;> simp
  | refused _ flagged | discarded _ _ flagged =>
    rw [steady.unflagged] at flagged
    cases flagged
  | written writing =>
    rw [tryWriteBatch, if_pos done]
    refine steady.flush (writing ▸ ⟨rfl, rfl⟩) ⟨rfl, rfl⟩ ?_ ?_ ?_ <;> simp
  | cleanupDue checking retains =>
    rw [steady.unlimited] at retains
    cases retains
  | cleanupAsked flushed => cases steady.held flushed mem_cons_self
  | expired deleting => exact absurd (.inr (deleting ▸ rfl)) steady.outside
  | drained discarding | emptied discarding => exact absurd discarding steady.alive.1
  | zeroed zeroing => exact absurd zeroing steady.alive.2

theorem pipeline_at (place : store.position = position) (stored : position.stored = false) :
    store.pipeline = ⟨store.logs, store.batch, position.held ++ store.queue⟩ := by
  subst place
  rw [pipeline, unwritten, undone, stored]
  rfl

theorem pipeline_move {before position : Position} (place : store.position = before)
    (stored : before.stored = false ∧ position.stored = false) (held : position.held = before.held) :
    { store with position := position, degraded := degraded }.pipeline = store.pipeline := by
  rw [pipeline_at place stored.1, ← held]
  exact pipeline_at rfl stored.2

theorem inserted_of_not_busy (idle : store.position.busy = false) (answer : Answer) :
    store.inserted (.actor answer) = [] := by
  rw [inserted, inserting_of_not_busy idle]
  rfl

theorem Steady.pipeline_actorStep (steady : store.Steady) (done : answer.outcome = .done)
    (step : ActorStep store answer next) :
    Pipeline.Step store.pipeline (store.inserted (.actor answer)) next.pipeline := by
  have unchanged : store.position.busy = false → next.pipeline = store.pipeline →
      Pipeline.Step store.pipeline (store.inserted (.actor answer)) next.pipeline := by
    intro idle same
    rw [inserted_of_not_busy idle, same]
    exact .same
  cases step with
  | idle idle => exact unchanged idle rfl
  | resumed free resumes =>
    exact unchanged free.busy (by rw [resumes.pipeline_eq, pipeline_of_free free])
  | skipped found free resumes =>
    rw [inserted_of_not_busy free.busy, resumes.pipeline_eq, pipeline_of_free free]
    exact .noted found
  | noted places resumes =>
    have idle : store.position.busy = false ∧
        store.pipeline = ⟨store.logs, store.batch, .setLogNotify :: store.queue⟩ := by
      rcases places with place | place <;> exact ⟨place ▸ rfl, pipeline_at place rfl⟩
    rw [inserted_of_not_busy idle.1, resumes.pipeline_eq, idle.2]
    exact .noted rfl
  | @cleared command doomed _ flushed selects resumes =>
    have other : ∀ entry, command ≠ .write entry := by
      intro entry same
      rw [same] at selects
      cases selects
    have contents : store.pipeline = ⟨store.logs, [], command :: store.queue⟩ := by
      rw [pipeline_at flushed rfl, steady.flushed _ flushed, Position.held,
        FlushCaller.held_command other]
      rfl
    rw [inserted_of_not_busy (flushed ▸ rfl), resumes.pipeline_eq, contents, done]
    show Pipeline.Step _ [] ⟨store.logs.delete doomed, store.batch, store.queue⟩
    rw [steady.flushed _ flushed, ← LogCommand.apply_of_doomed selects]
    exact .executed rfl rfl (LogCommand.entry_of_doomed selects)
  | @replied reply _ flushed resumes =>
    have contents : store.pipeline = ⟨store.logs, [], .flushSync reply :: store.queue⟩ := by
      rw [pipeline_at flushed rfl, steady.flushed _ flushed]
      rfl
    rw [inserted_of_not_busy (flushed ▸ rfl), resumes.pipeline_eq, contents]
    show Pipeline.Step _ [] ⟨store.logs, store.batch, store.queue⟩
    rw [steady.flushed _ flushed]
    have other : (LogCommand.flushSync reply).entry = none := rfl
    exact .executed rfl rfl other
  | hanging position free cause hanging =>
    refine unchanged free.busy ?_
    rw [pipeline_of_free free]
    exact pipeline_of_free (free_of_hanging hanging)
  | @taken command queue position found free places =>
    refine unchanged free.busy ?_
    rw [pipeline_of_free free, found]
    rcases places with rfl | ⟨rfl, other⟩
    · exact pipeline_at rfl rfl
    · rw [pipeline_at rfl rfl]
      show Pipeline.mk _ _ (FlushCaller.held (.command command) ++ queue) = _
      rw [FlushCaller.held_command other]
      rfl
  | @collected entry queue position found before resting cleaning =>
    rw [inserted_of_not_busy before.busy, pipeline_of_free before,
      pipeline_of_free (free_of_resting resting)]
    exact .gathered found
  | @pushed entry received =>
    rw [inserted_of_not_busy (received ▸ rfl), pipeline_at received rfl]
    exact .gathered rfl
  | @handled command received other =>
    exact unchanged (received ▸ rfl)
      (pipeline_move received ⟨rfl, rfl⟩ (FlushCaller.held_command other))
  | clean _ flushing | begun flushing | attempted flushing =>
    exact unchanged (flushing ▸ rfl) (pipeline_move flushing ⟨rfl, rfl⟩ rfl)
  | refused _ flagged | discarded _ _ flagged =>
    rw [steady.unflagged] at flagged
    cases flagged
  | @written attempt caller writing =>
    have entries : store.inserted (.actor answer) = store.batch := by
      rw [inserted, writing, done]
      rfl
    have after : (store.tryWriteBatch answer attempt caller).pipeline =
        ⟨store.logs.insertAll store.batch, [], caller.held ++ store.queue⟩ := by
      rw [tryWriteBatch, if_pos done, done]
      rfl
    rw [pipeline_at writing rfl, entries, after]
    exact .written
  | @settled result caller settling =>
    obtain rfl := steady.stores result caller settling
    have entries : store.inserted (.actor answer) = [] := by
      rw [inserted, settling]
      rfl
    have same : (store.settle .stored caller).pipeline = store.pipeline := by
      rw [pipeline, pipeline, unwritten, unwritten, undone, undone, settling]
      rfl
    rw [entries, same]
    exact .same
  | cleanupDue checking retains =>
    rw [steady.unlimited] at retains
    cases retains
  | cleanupAsked flushed => cases steady.held flushed mem_cons_self
  | expired deleting => exact absurd (.inr (deleting ▸ rfl)) steady.outside
  | @ended caller flushed last =>
    rcases last with rfl | rfl
    · exact unchanged (flushed ▸ rfl) (pipeline_move flushed ⟨rfl, rfl⟩ rfl)
    · have contents : store.pipeline = ⟨store.logs, [], .shutdown :: store.queue⟩ := by
        rw [pipeline_at flushed rfl, steady.flushed _ flushed]
        rfl
      rw [inserted_of_not_busy (flushed ▸ rfl), contents]
      show Pipeline.Step _ [] ⟨store.logs, store.batch, store.queue⟩
      rw [steady.flushed _ flushed]
      have other : LogCommand.shutdown.entry = none := rfl
      exact .executed rfl rfl other
  | drained discarding | emptied discarding => exact absurd discarding steady.alive.1
  | zeroed zeroing => exact absurd zeroing steady.alive.2

/-! ### Runs -/

theorem Steady.push (steady : store.Steady) {sending : List InsertEntry}
    (batched : command.batched = true) :
    ({ store with sending := sending }.push command).Steady := by
  unfold LogStore.push
  split
  · exact ⟨steady.unflagged, steady.unlimited, steady.outside, steady.commands, steady.flushed,
      steady.stores, steady.alive⟩
  · refine ⟨steady.unflagged, steady.unlimited, steady.outside, ?_, steady.flushed,
      steady.stores, steady.alive⟩
    intro other member
    rcases mem_append.mp member with held | member
    · exact steady.commands other (mem_append_left _ held)
    · rcases mem_append.mp member with queued | new
      · exact steady.commands other (mem_append_right _ queued)
      · rw [mem_singleton.mp new]
        exact batched

theorem Steady.step (steady : store.Steady) (plain : event.Plain) : (store.step event).Steady := by
  cases event with
  | announce entry =>
    exact ⟨steady.unflagged, steady.unlimited, steady.outside, steady.commands, steady.flushed,
      steady.stores, steady.alive⟩
  | enqueue index =>
    simp only [LogStore.step]
    split
    · exact steady.push rfl
    · exact steady
  | request command =>
    cases command with
    | write entry => exact steady
    | _ => exact steady.push plain
  | shutdownDiscard => exact plain.elim
  | actor answer => exact steady.actorStep plain (store.actorStep_cases answer)

theorem pipeline_push (sending : List InsertEntry) (command : LogCommand) :
    ({ store with sending := sending }.push command).pipeline =
      ⟨store.logs, store.unwritten,
        store.undone ++ if store.position = .returned then [] else [command]⟩ := by
  by_cases closed : store.position = .returned
  · rw [if_pos closed, append_nil, push, if_pos closed]
    rfl
  · rw [if_neg closed, push, if_neg closed]
    show Pipeline.mk _ _ (store.position.held ++ (store.queue ++ [command])) = _
    rw [← append_assoc]
    rfl

theorem enqueued_of_offered_nil (none : store.offered event = []) : store.enqueued event = [] := by
  rw [enqueued, none, ite_self]

theorem Steady.accounts_step (steady : store.Steady) (plain : event.Plain) {start : LogTable}
    {commands : List LogCommand} {entries : List InsertEntry}
    (accounts : Pipeline.Accounts start commands entries store.pipeline) :
    Pipeline.Accounts start (commands ++ store.enqueued event) (entries ++ store.inserted event)
      (store.step event).pipeline := by
  have pushed : ∀ sending command, Pipeline.Accounts start
      (commands ++ if store.position = .returned then [] else [command]) (entries ++ [])
      ({ store with sending := sending }.push command).pipeline := by
    intro sending command
    rw [pipeline_push, append_nil]
    exact accounts.enqueue _
  have unchanged : Pipeline.Accounts start (commands ++ []) (entries ++ []) store.pipeline := by
    rw [append_nil, append_nil]
    exact accounts
  cases event with
  | announce entry =>
    rw [enqueued_of_offered_nil rfl]
    exact unchanged
  | enqueue index =>
    cases found : store.sending[index]? with
    | none =>
      rw [enqueued_of_offered_nil (by rw [offered, found]; rfl), LogStore.step, found]
      exact unchanged
    | some entry =>
      rw [enqueued, offered, LogStore.step, found]
      exact pushed _ _
  | request command =>
    cases command with
    | write entry =>
      rw [enqueued_of_offered_nil rfl]
      exact unchanged
    | _ => exact pushed store.sending _
  | shutdownDiscard => exact plain.elim
  | actor answer =>
    rw [enqueued_of_offered_nil rfl, append_nil]
    exact accounts.step (steady.pipeline_actorStep plain (store.actorStep_cases answer))

theorem steady_spawn (logs : LogTable) (batchSize : Nat) : (spawn logs batchSize none).Steady :=
  steady_of_resting rfl rfl rfl (fun inside => inside.elim (absurd rfl) fun cleaning => by
    cases cleaning) nofun

theorem accounts_run (logs : LogTable) (batchSize : Nat) {events : List LogEvent}
    (plain : ∀ event ∈ events, event.Plain) :
    let start := spawn logs batchSize none
    (run step start events).Steady ∧
      Pipeline.Accounts logs (outputs step enqueued start events)
        (outputs step inserted start events) (run step start events).pipeline := by
  have keeps : ∀ (commands : List LogCommand) (entries : List InsertEntry) (store : LogStore)
      (event : LogEvent),
      store.Steady ∧ Pipeline.Accounts logs commands entries store.pipeline → event.Plain →
      (store.step event).Steady ∧ Pipeline.Accounts logs (commands ++ store.enqueued event)
        (entries ++ store.inserted event) (store.step event).pipeline := by
    intro commands entries store event holds plain
    exact ⟨holds.1.step plain, holds.1.accounts_step plain holds.2⟩
  have initially : (spawn ..).Steady ∧
      Pipeline.Accounts logs [] [] (spawn logs batchSize none).pipeline :=
    ⟨steady_spawn logs batchSize, [], rfl, rfl, rfl⟩
  exact histories keeps (meets_of_forall _ plain) initially

theorem unwritten_of_empty (empty : store.batch = []) : store.unwritten = [] := by
  rw [unwritten, empty, ite_self]

theorem Resumes.keeps (resumes : store.Resumes next) : next.replies = store.replies ∧
    next.pendingCount = store.pendingCount ∧ next.discardFlag = store.discardFlag := by
  obtain ⟨position, calls, cleanupHasMore, resting, rfl, cleaning⟩ := resumes
  exact ⟨rfl, rfl, rfl⟩

theorem replies_actorStep (step : ActorStep store answer next) :
    next.replies = store.replies ∨ ∃ reply,
      store.position = .flushed (.command (.flushSync reply)) ∧
      next.replies = store.replies ++ [reply] := by
  cases step with
  | replied flushed resumes => exact .inr ⟨_, flushed, resumes.keeps.1⟩
  | resumed _ resumes | skipped _ _ resumes | noted _ resumes | cleared _ _ resumes
  | expired _ resumes => exact .inl resumes.keeps.1
  | _ => exact .inl rfl

/-- The store with its batch refines the one that applies the commands one by one. Once nothing is
left to do the rows are those of the commands in the order of the channel. The entries were inserted
in this order, up to those that are still in the batch, with the actor or in the channel. When the
reply to a `FlushSync` is sent, the table is the one of all the commands before it, and the entries
of all writes before it are inserted. -/
theorem logStore_refines_sequential (logs : LogTable) (batchSize : Nat) (events : List LogEvent)
    (plain : ∀ event ∈ events, event.Plain) :
    let start := spawn logs batchSize none
    let store := run step start events
    let commands := outputs step enqueued start events
    (store.batch = [] → store.undone = [] →
      store.logs = commands.foldl LogCommand.apply logs) ∧
    outputs step inserted start events ++ store.unwritten ++ writes store.undone =
      writes commands ∧
    ∀ answer reply, (store.actorStep answer).replies = store.replies ++ [reply] →
      ∃ earlier, commands = earlier ++ .flushSync reply :: store.queue ∧
        store.logs = earlier.foldl LogCommand.apply logs ∧
        outputs step inserted start events = writes earlier := by
  intro start store commands
  obtain ⟨steady, earlier, sent, rows, order⟩ := accounts_run logs batchSize plain
  refine ⟨?_, ?_, ?_⟩
  · intro empty idle
    have all : commands = earlier ++ store.undone := sent
    rw [all, idle, append_nil, rows]
    show store.logs = store.logs.insertAll store.unwritten
    rw [unwritten_of_empty empty]
    rfl
  · have all : commands = earlier ++ store.undone := sent
    rw [all, writes, writes, filterMap_append]
    exact congrArg (· ++ writes store.undone) order
  · intro answer reply replied
    have flushed : store.position = .flushed (.command (.flushSync reply)) := by
      rcases replies_actorStep (store.actorStep_cases answer) with same | ⟨other, flushed, added⟩
      · rw [same] at replied
        exact absurd (self_eq_append_right.mp replied) (cons_ne_nil _ _)
      · rw [replied, append_cancel_left_eq, singleton_inj] at added
        rw [flushed, added]
    have written : store.unwritten = [] := unwritten_of_empty (steady.flushed _ flushed)
    refine ⟨earlier, ?_, ?_, ?_⟩
    · have all : commands = earlier ++ store.undone := sent
      rw [all, undone, flushed]
      rfl
    · rw [rows]
      show store.logs = store.logs.insertAll store.unwritten
      rw [written]
      rfl
    · rw [← order]
      show _ = _ ++ store.unwritten
      rw [written, append_nil]

/-- Two lines, a clear of the service of the first and a flush, with a full batch in between. -/
theorem logStore_refines_sequential_of_clear :
    let first : InsertEntry := ⟨0, "web", none, "info", "ready", none⟩
    let second : InsertEntry := ⟨1, "db", none, "info", "ready", none⟩
    let start := spawn default 2 none
    let events := [.announce first, .announce second, .enqueue 0, .enqueue 0,
      .request (.clearService "web"), .request (.flushSync 7)] ++ List.replicate 28 (.actor {})
    let store := run step start events
    (∀ event ∈ events, event.Plain) ∧ store.batch = [] ∧ store.undone = [] ∧
      store.logs.rows = [⟨2, second⟩] ∧ store.replies = [7] ∧
      store.logs = (outputs step enqueued start events).foldl LogCommand.apply default := by
  intro first second start events store
  have plain : ∀ event ∈ events, event.Plain := by decide +kernel
  have empty : store.batch = [] := by decide +kernel
  have idle : store.undone = [] := by decide +kernel
  exact ⟨plain, empty, idle, by decide +kernel, by decide +kernel,
    (logStore_refines_sequential default 2 events plain).1 empty idle⟩

end LogStore

end Kepler
