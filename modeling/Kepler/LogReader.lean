/-
This file models how logs are read: the queries of `log_reader.rs` and the request `LogsStream` of
the daemon.

What a filter means is left to SQLite and to the parser of the query language: here a filter that is
accepted is a condition on rows.

The request looks at the counter of pending entries first, then finds the row after which it reads,
and reads a chunk of rows from there. Each of the three is a look at the store at its own time. The
service names of a chunk are sent once, as a table, and every entry has the index of its service.
-/

import Kepler.LogStore
import Mathlib.Algebra.Group.Nat.Defs

namespace Kepler

/-! ### Queries -/

def asI64 (count : Nat) : Int :=
  if count % UInt64.size < 2 ^ 63 then (count % UInt64.size : Nat)
  else (count % UInt64.size : Nat) - (UInt64.size : Int)

structure LogQuery where
  services : List String
  noHooks : Bool
  afterTs : Option Int
  beforeTs : Option Int
  filter : Option (Row InsertEntry → Bool)

namespace LogQuery

def buildFilter (query : LogQuery) (row : Row InsertEntry) : Bool :=
  (match query.services with
    | [] => true
    | [service] => row.content.service == service
    | services => services.contains row.content.service) &&
  (!query.noHooks || row.content.hook.isNone) &&
  query.afterTs.all (· ≤ row.content.timestamp) &&
  query.beforeTs.all (row.content.timestamp ≤ ·) &&
  query.filter.all (· row)

/-- The rows of the table that a query asks for, in the order of their ids. -/
def select (query : LogQuery) (logs : LogTable) : List (Row InsertEntry) :=
  logs.rows.filter query.buildFilter

/-- `tail_start_id`: a negative `OFFSET` counts as 0. -/
def tailStartId (query : LogQuery) (logs : LogTable) (count : Nat) : Option Int :=
  if count = 0 then none
  else ((query.select logs).reverse[(asI64 (count - 1)).toNat]?).map Row.id

/-- `after`: one row more than asked for tells whether there are more. -/
def after (query : LogQuery) (logs : LogTable) (afterId : Int) (limit : Nat) :
    List (Row InsertEntry) × Bool :=
  let found := ((query.select logs).filter fun row => afterId < row.id).take (limit + 1)
  (found.take limit, limit < found.length)

end LogQuery

/-! ### The request `LogsStream` -/

/-- What the query language makes of a filter, and SQLite of a raw one. -/
structure FilterLanguage where
  parse : String → Except String (Row InsertEntry → Bool)
  raw : String → Except String (Row InsertEntry → Bool)

structure LogsStream where
  services : List String
  afterId : Option Int
  fromEnd : Bool
  limit : Nat
  noHooks : Bool
  filter : Option String
  sql : Bool
  raw : Bool
  tail : Bool
  afterTs : Option Int
  beforeTs : Option Int
deriving DecidableEq, Repr

structure StreamLogEntry where
  id : Int
  serviceId : UInt16
  line : String
  timestamp : Int
  level : String
  hook : Option String
  attributes : Option String
deriving DecidableEq, Repr

structure LogStreamData where
  serviceTable : List String
  entries : List StreamLogEntry
  lastId : Int
  hasMore : Bool
deriving DecidableEq, Repr

inductive LogSource where
  /-- the config is loaded, and its store has entries pending or not -/
  | store (hasPending : Bool)
  /-- the config is not loaded and has a state directory -/
  | disk
  | missing
deriving DecidableEq, Repr

def LogSource.hasPending : LogSource → Except String Bool
  | .store hasPending => .ok hasPending
  | .disk => .ok false
  | .missing => .error "Config not loaded"

/-- The entry of a row in the answer to a request for raw lines. -/
def StreamLogEntry.bare (row : Row InsertEntry) : StreamLogEntry where
  id := row.id
  serviceId := 0
  line := row.content.line
  timestamp := 0
  level := ""
  hook := none
  attributes := none

def StreamLogEntry.compact (row : Row InsertEntry) (serviceId : UInt16) : StreamLogEntry where
  id := row.id
  serviceId := serviceId
  line := row.content.line
  timestamp := row.content.timestamp
  level := row.content.level
  hook := row.content.hook
  attributes := row.content.attributes

def compactEntries (serviceTable : List String) (serviceMap : List (String × UInt16)) :
    List (Row InsertEntry) → List String × List StreamLogEntry
  | [] => (serviceTable, [])
  | row :: rest =>
    match serviceMap.lookup row.content.service with
    | some serviceId =>
      let result := compactEntries serviceTable serviceMap rest
      (result.1, .compact row serviceId :: result.2)
    | none =>
      let serviceId := UInt16.ofNat serviceTable.length
      let result := compactEntries (serviceTable ++ [row.content.service])
        ((row.content.service, serviceId) :: serviceMap) rest
      (result.1, .compact row serviceId :: result.2)

namespace LogsStream

variable (request : LogsStream)

def invalidFilter (message : String) : String := "invalid filter: " ++ message

def parsedFilter (language : FilterLanguage) : Except String (Option (Row InsertEntry → Bool)) :=
  match request.filter, request.sql with
  | some text, false => ((language.parse text).map some).mapError invalidFilter
  | _, _ => .ok none

/-- The filter that the reader uses, which checks a raw one. -/
def checkedFilter (language : FilterLanguage) (parsed : Option (Row InsertEntry → Bool)) :
    Except String (Option (Row InsertEntry → Bool)) :=
  match request.filter, request.sql with
  | some text, true => ((language.raw text).map some).mapError invalidFilter
  | _, _ => .ok parsed

/-- The first part of the request: its filter and the look at the counter. -/
def prepare (language : FilterLanguage) (source : LogSource) : Except String (LogQuery × Bool) := do
  let parsed ← request.parsedFilter language
  let hasPending ← source.hasPending
  let filter ← request.checkedFilter language parsed
  pure (⟨request.services, request.noHooks, request.afterTs, request.beforeTs, filter⟩, hasPending)

def effectiveAfterId (query : LogQuery) (logs : LogTable) : Int :=
  if request.tail then
    match query.tailStartId logs request.limit with
    | some startId => startId - 1
    | none => 0
  else
    match request.afterId with
    | some id => id
    | none => if request.fromEnd then logs.lastId else 0

/-- The answer to the request. `chunkSize` is `STREAM_CHUNK_SIZE`. -/
def respond (chunkSize : Nat) (query : LogQuery) (hasPending : Bool) (effectiveAfterId : Int)
    (logs : LogTable) : LogStreamData :=
  let (rows, hasMore) := query.after logs effectiveAfterId (min request.limit chunkSize)
  let (serviceTable, entries) :=
    if request.raw then ([], rows.map StreamLogEntry.bare) else compactEntries [] [] rows
  { serviceTable := serviceTable
    entries := entries
    lastId := (rows.getLast?.map Row.id).getD effectiveAfterId
    hasMore := hasMore || hasPending }

/-- The answer to a request that finds its start in one state of the table and reads another. -/
def answer (chunkSize : Nat) (query : LogQuery) (hasPending : Bool) (anchored queried : LogTable) :
    LogStreamData :=
  request.respond chunkSize query hasPending (request.effectiveAfterId query anchored) queried

def handle (language : FilterLanguage) (chunkSize : Nat) (source : LogSource) (logs : LogTable) :
    Except String LogStreamData := do
  let (query, hasPending) ← request.prepare language source
  pure (request.answer chunkSize query hasPending logs logs)

end LogsStream

def streamChunkSize : Nat := 5000

/-! ### What a query returns -/

namespace LogQuery

variable {query : LogQuery} {logs : LogTable} {afterId : Int} {limit : Nat}

def rest (query : LogQuery) (logs : LogTable) (afterId : Int) : List (Row InsertEntry) :=
  (query.select logs).filter fun row => afterId < row.id

theorem after_fst : (query.after logs afterId limit).1 = (query.rest logs afterId).take limit := by
  show ((query.rest ..).take (limit + 1)).take limit = _
  rw [List.take_take, Nat.min_eq_left (Nat.le_succ limit)]

theorem after_snd :
    (query.after logs afterId limit).2 = decide (limit < (query.rest logs afterId).length) := by
  show decide (limit < ((query.rest ..).take (limit + 1)).length) = _
  rw [List.length_take]
  exact decide_eq_decide.mpr (by omega)

theorem mem_rest {row : Row InsertEntry} :
    row ∈ query.rest logs afterId ↔
      row ∈ logs.rows ∧ query.buildFilter row = true ∧ afterId < row.id := by
  rw [rest, select, List.mem_filter, List.mem_filter, decide_eq_true_eq, and_assoc]

end LogQuery

end Kepler
