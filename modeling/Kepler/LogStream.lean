/-
This file models the client side of log streaming: `stream_logs` of the command line client.

The client asks for rows, prints what it gets, and asks again after the last id that it got. A
one-shot stream ends when the daemon has no more rows, and waits for a while if the daemon still
holds back rows that it has not written yet. The other modes wait for new rows, until all services
are quiescent.
-/

import Kepler.LogReader

namespace Kepler

/-! ### Parameters and state -/

inductive StreamMode where
  | all
  | follow
  | untilQuiescent
deriving DecidableEq, Repr

inductive StreamExitReason where
  | done
  | shutdownRequested
  | serverError
  | permissionDenied
deriving DecidableEq, Repr

structure StreamParams where
  services : List String
  noHooks : Bool
  mode : StreamMode
  limit : Nat
  filter : Option String
  sql : Bool
  raw : Bool
  tail : Bool
  maxTotal : Option Nat
  startAfterId : Option Int
deriving DecidableEq, Repr

def maxFlushWaits : Nat := 80

def maxStreamBatchSize : Nat := 50000

inductive StreamPosition where
  | requesting
  /-- the pause of a one-shot stream before it asks for held back rows again -/
  | sleeping
  /-- there is more to read: a last look at the interrupt -/
  | continuing
  /-- nothing to read: a new row, quiescence or two seconds -/
  | waiting
  /-- the config is not loaded yet: quiescence or a short pause -/
  | retrying
  | exited (reason : StreamExitReason)
deriving DecidableEq, Repr

structure StreamState where
  lastId : Option Int
  quiescentReceived : Bool
  remaining : Option Nat
  flushWaits : Nat
  position : StreamPosition
deriving DecidableEq, Repr

/-- What may come back from a request other than rows. -/
inductive StreamFailure where
  | permissionDenied
  | error (message : String)
  /-- an answer of another kind -/
  | other
  | disconnected
  | timedOut
deriving DecidableEq, Repr

inductive StreamEvent where
  | data (data : LogStreamData)
  | failed (failure : StreamFailure)
  | shutdown
  | quiescence
  /-- a pause is over, or there are new rows -/
  | resume
deriving DecidableEq, Repr

/-! ### The loop -/

/-- The entries of an answer that the client still owes. -/
def StreamState.owed (state : StreamState) (data : LogStreamData) : List StreamLogEntry :=
  match state.remaining with
  | some remaining => data.entries.take remaining
  | none => data.entries

def StreamState.exhausted (state : StreamState) (data : LogStreamData) : Bool :=
  match state.remaining with
  | some remaining => (state.owed data).length == remaining
  | none => false

def StreamState.exit (state : StreamState) (reason : StreamExitReason) : StreamState :=
  { state with position := .exited reason }

namespace StreamParams

variable (params : StreamParams)

def start : StreamState where
  lastId := params.startAfterId
  quiescentReceived := false
  remaining := params.maxTotal
  flushWaits := 0
  position := .requesting

def tailRequest (state : StreamState) : Bool := params.tail && state.lastId.isNone

def requestLimit (state : StreamState) : Nat :=
  match state.remaining with
  | some remaining =>
    if params.tailRequest state then params.limit else min remaining params.limit
  | none => params.limit

def request (state : StreamState) : LogsStream where
  services := params.services
  afterId := state.lastId
  fromEnd := (params.mode == .follow) && state.lastId.isNone
  limit := params.requestLimit state
  noHooks := params.noHooks
  filter := params.filter
  sql := params.sql
  raw := params.raw
  tail := params.tailRequest state
  afterTs := none
  beforeTs := none

/-- The end of a turn of the loop. -/
def proceed (state : StreamState) (hasMoreData pendingFlush : Bool) : StreamState :=
  match params.mode with
  | .all =>
    if hasMoreData then { state with flushWaits := 0, position := .requesting }
    else if pendingFlush && state.flushWaits < maxFlushWaits then
      { state with flushWaits := state.flushWaits + 1, position := .sleeping }
    else state.exit .done
  | .follow | .untilQuiescent =>
    if state.quiescentReceived && !hasMoreData then state.exit .done
    else if hasMoreData then { state with position := .continuing }
    else { state with position := .waiting }

def receive (state : StreamState) (data : LogStreamData) : StreamState :=
  let entries := state.owed data
  let next := { state with
    lastId := some data.lastId
    remaining := state.remaining.map (· - entries.length) }
  if state.exhausted data then next.exit .done
  else params.proceed next (data.hasMore && !entries.isEmpty) (data.hasMore && entries.isEmpty)

def fail (state : StreamState) : StreamFailure → StreamState
  | .permissionDenied => state.exit .permissionDenied
  | .error message =>
    if message = "Config not loaded" then
      match params.mode with
      | .untilQuiescent =>
        if state.quiescentReceived then state.exit .done else { state with position := .retrying }
      | .all | .follow => state.exit .done
    else state.exit .serverError
  | .other => params.proceed state false false
  | .disconnected => state.exit .done
  | .timedOut => state

def step (state : StreamState) (event : StreamEvent) : StreamState :=
  match state.position, event with
  | .exited _, _ => state
  | _, .shutdown => state.exit .shutdownRequested
  | .requesting, .data data => params.receive state data
  | .requesting, .failed failure => params.fail state failure
  | .waiting, .quiescence | .retrying, .quiescence =>
    if state.quiescentReceived then state
    else { state with quiescentReceived := true, position := .requesting }
  | .sleeping, .resume | .continuing, .resume | .waiting, .resume | .retrying, .resume =>
    { state with position := .requesting }
  | _, _ => state

end StreamParams

/-! ### What is printed -/

inductive PrintedLine where
  | raw (line : String)
  /-- the name is `none` where the client would read past the end of its table -/
  | labelled (service : Option String) (id timestamp : Int) (level : String)
      (hook attributes : Option String) (line : String)
deriving DecidableEq, Repr

/-- `write_log_batch`, `write_log_batch_json` and `write_log_batch_raw`: the first two label an
entry with the name at its index. -/
def writeLogBatch (raw : Bool) (serviceTable : List String) (entries : List StreamLogEntry) :
    List PrintedLine :=
  entries.map fun entry =>
    if raw then .raw entry.line
    else .labelled serviceTable[entry.serviceId.toNat]? entry.id entry.timestamp entry.level
      entry.hook entry.attributes entry.line

namespace StreamParams

variable (params : StreamParams)

def printed (state : StreamState) (data : LogStreamData) : List PrintedLine :=
  writeLogBatch params.raw data.serviceTable (state.owed data)

/-- A stream that nobody interrupts, to a daemon that answers: what is printed and the state after
at most the given number of turns. -/
def streamLogs (serve : LogsStream → Except String LogStreamData) :
    Nat → StreamState → List PrintedLine × StreamState
  | 0, state => ([], state)
  | turns + 1, state =>
    match state.position with
    | .exited _ => ([], state)
    | .requesting =>
      match serve (params.request state) with
      | .ok data =>
        let rest := streamLogs serve turns (params.step state (.data data))
        (params.printed state data ++ rest.1, rest.2)
      | .error message => streamLogs serve turns (params.step state (.failed (.error message)))
    | _ => streamLogs serve turns (params.step state .resume)

end StreamParams

/-! ### Requests after an id -/

namespace StreamParams

variable {params : StreamParams} {state : StreamState} {id : Int}

theorem tailRequest_of_lastId (known : state.lastId = some id) :
    params.tailRequest state = false := by
  rw [tailRequest, known]
  exact Bool.and_false _

theorem effectiveAfterId_of_lastId (known : state.lastId = some id) (query : LogQuery)
    (logs : LogTable) : (params.request state).effectiveAfterId query logs = id := by
  have ordinary : (params.request state).tail = false := tailRequest_of_lastId known
  have after : (params.request state).afterId = some id := known
  rw [LogsStream.effectiveAfterId, if_neg (Bool.eq_false_iff.mp ordinary), after]

variable (state : StreamState)

theorem lastId_proceed (hasMoreData pendingFlush : Bool) :
    (params.proceed state hasMoreData pendingFlush).lastId = state.lastId := by
  unfold proceed
  split <;> split_ifs <;> rfl

theorem remaining_proceed (hasMoreData pendingFlush : Bool) :
    (params.proceed state hasMoreData pendingFlush).remaining = state.remaining := by
  unfold proceed
  split <;> split_ifs <;> rfl

theorem lastId_receive (data : LogStreamData) :
    (params.receive state data).lastId = some data.lastId := by
  unfold receive
  split
  · rfl
  · exact lastId_proceed ..

theorem remaining_receive (data : LogStreamData) :
    (params.receive state data).remaining =
      state.remaining.map (· - (state.owed data).length) := by
  unfold receive
  split
  · rfl
  · exact remaining_proceed ..

theorem fail_keeps (failure : StreamFailure) :
    (params.fail state failure).lastId = state.lastId ∧
      (params.fail state failure).remaining = state.remaining := by
  unfold fail
  split
  · exact ⟨rfl, rfl⟩
  · split
    · split
      · split <;> exact ⟨rfl, rfl⟩
      · exact ⟨rfl, rfl⟩
      · exact ⟨rfl, rfl⟩
    · exact ⟨rfl, rfl⟩
  · exact ⟨lastId_proceed .., remaining_proceed ..⟩
  · exact ⟨rfl, rfl⟩
  · exact ⟨rfl, rfl⟩

theorem step_of_no_data {event : StreamEvent} (other : ∀ data, event ≠ .data data) :
    (params.step state event).lastId = state.lastId ∧
      (params.step state event).remaining = state.remaining := by
  unfold step
  split
  case h_3 => exact absurd rfl (other _)
  case h_4 => exact fail_keeps ..
  all_goals first | exact ⟨rfl, rfl⟩ | (split_ifs <;> exact ⟨rfl, rfl⟩)

theorem step_data (data : LogStreamData) :
    params.step state (.data data) =
      if state.position = .requesting then params.receive state data else state := by
  unfold step
  cases place : state.position <;> rfl

theorem step_failed (failure : StreamFailure) :
    params.step state (.failed failure) =
      if state.position = .requesting then params.fail state failure else state := by
  unfold step
  cases place : state.position <;> rfl

theorem step_quiescence :
    params.step state .quiescence =
      if (state.position = .waiting ∨ state.position = .retrying) ∧
          state.quiescentReceived = false then
        { state with quiescentReceived := true, position := .requesting }
      else state := by
  unfold step
  cases place : state.position <;> cases received : state.quiescentReceived <;> rfl

theorem step_resume :
    params.step state .resume =
      if state.position = .sleeping ∨ state.position = .continuing ∨ state.position = .waiting ∨
          state.position = .retrying then
        { state with position := .requesting }
      else state := by
  unfold step
  cases place : state.position <;> rfl

end StreamParams

/-! ### The command `kepler logs` -/

/-- The arguments of `kepler logs`; the number of lines is a `usize`. -/
structure LogsCommand where
  services : List String
  follow : Bool
  head : Option UInt64
  tail : Option UInt64
  noHook : Bool
  raw : Bool
  filter : Option String
  sql : Bool
deriving DecidableEq, Repr

namespace LogsCommand

variable (command : LogsCommand)

/-- The number of lines, if it is given: `--head` goes before `--tail`. -/
def lines : Option Nat := (command.head.orElse fun _ => command.tail).map UInt64.toNat

def isTail : Bool := command.head.isNone && command.tail.isSome

def handleLogs : StreamParams where
  services := command.services
  noHooks := command.noHook
  mode := if command.follow then .untilQuiescent else .all
  limit := command.lines.getD maxStreamBatchSize
  filter := command.filter
  sql := command.sql
  raw := command.raw
  tail := command.isTail
  maxTotal := if command.follow then none else command.lines
  startAfterId := none

end LogsCommand

end Kepler
