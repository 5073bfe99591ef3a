/-
This file is about one-shot streams: `kepler logs`, with or without a number of lines.

The client reads a window of the rows page by page. The daemon finds where the window begins, the
client counts what it still owes, and each page ends at most where the daemon ends its answers.
-/

import Kepler.LogCursors
import Kepler.LogStream
import Mathlib.Data.List.Dedup

namespace Kepler

open List PrintedLine LogsStream StreamParams LogQuery LogsCommand

/-! ### The service table of a page -/

namespace PrintedLine

def ofRow (raw : Bool) (row : Row InsertEntry) : PrintedLine :=
  if raw then .raw row.content.line
  else .labelled (some row.content.service) row.id row.content.timestamp row.content.level
    row.content.hook row.content.attributes row.content.line

end PrintedLine

/-- The services of the rows in the order of their first rows, after those that are known. -/
def serviceTable (known : List String) : List (Row InsertEntry) → List String
  | [] => known
  | row :: rest =>
    if row.content.service ∈ known then serviceTable known rest
    else serviceTable (known ++ [row.content.service]) rest

theorem known_prefix_serviceTable (known : List String) (rows : List (Row InsertEntry)) :
    known <+: serviceTable known rows := by
  induction rows generalizing known with
  | nil => exact prefix_rfl
  | cons row rest inductionHypothesis =>
    rw [serviceTable]
    split
    · exact inductionHypothesis known
    · exact (prefix_append known _).trans (inductionHypothesis _)

variable {known : List String} {rows : List (Row InsertEntry)} {name : String}
  {serviceMap : List (String × UInt16)}

theorem mem_serviceTable :
    name ∈ serviceTable known rows ↔ name ∈ known ∨ name ∈ rows.map (·.content.service) := by
  induction rows generalizing known with
  | nil => exact (or_iff_left not_mem_nil).symm
  | cons row rest inductionHypothesis =>
    rw [serviceTable, map_cons, mem_cons]
    split
    · rename_i present
      rw [inductionHypothesis]
      refine or_congr_right' fun absent => (or_iff_right ?_).symm
      rintro rfl
      exact absent present
    · rw [inductionHypothesis, mem_append, mem_singleton, or_assoc]

theorem nodup_serviceTable (distinct : known.Nodup) (rows : List (Row InsertEntry)) :
    (serviceTable known rows).Nodup := by
  induction rows generalizing known with
  | nil => exact distinct
  | cons row rest inductionHypothesis =>
    rw [serviceTable]
    split
    · exact inductionHypothesis distinct
    · rename_i absent
      exact inductionHypothesis (concat_eq_append ▸ distinct.concat absent)

theorem length_serviceTable (rows : List (Row InsertEntry)) :
    (serviceTable [] rows).length = (rows.map (·.content.service)).dedup.length := by
  refine ((perm_ext_iff_of_nodup (nodup_serviceTable .nil rows) (nodup_dedup _)).mpr
    fun name => ?_).length_eq
  rw [mem_serviceTable, mem_dedup, or_iff_right not_mem_nil]

/-- The indices that the daemon has noted are those of the table. -/
def Indexes (known : List String) (serviceMap : List (String × UInt16)) : Prop :=
  ∀ name, serviceMap.lookup name =
    if name ∈ known then some (UInt16.ofNat (known.idxOf name)) else none

theorem Indexes.concat (indexes : Indexes known serviceMap) {new : String} (absent : new ∉ known) :
    Indexes (known ++ [new]) ((new, UInt16.ofNat known.length) :: serviceMap) := by
  intro name
  rw [lookup_cons]
  by_cases same : name = new
  · subst same
    simp [idxOf_append, absent]
  · have differ : (name == new) = false := beq_false_of_ne same
    rw [differ, indexes name]
    by_cases present : name ∈ known
    · simp [idxOf_append, present]
    · simp [present, same]

theorem compactEntries_eq (indexes : Indexes known serviceMap) (rows : List (Row InsertEntry)) :
    compactEntries known serviceMap rows =
      (serviceTable known rows, rows.map fun row =>
        .compact row (UInt16.ofNat ((serviceTable known rows).idxOf row.content.service))) := by
  have same : ∀ {known table : List String} {name : String}, known <+: table → name ∈ known →
      table.idxOf name = known.idxOf name := by
    rintro known _ name ⟨rest, rfl⟩ present
    rw [idxOf_append, if_pos present]
  induction rows generalizing known serviceMap with
  | nil => rfl
  | cons row rest inductionHypothesis =>
    rw [compactEntries, indexes row.content.service, serviceTable]
    by_cases present : row.content.service ∈ known
    · rw [if_pos present, if_pos present]
      rw [inductionHypothesis indexes, map_cons,
        same (known_prefix_serviceTable ..) present]
    · rw [if_neg present, if_neg present]
      dsimp only
      have index : (serviceTable (known ++ [row.content.service]) rest).idxOf row.content.service =
          known.length := by
        rw [same (known_prefix_serviceTable _ rest) (mem_append_right _ (mem_singleton_self _))]
        simp [idxOf_append, present]
      rw [inductionHypothesis (indexes.concat present), map_cons, index]

def printPage (raw : Bool) (rows : List (Row InsertEntry)) : List PrintedLine :=
  let (serviceTable, entries) :=
    if raw then ([], rows.map StreamLogEntry.bare) else compactEntries [] [] rows
  writeLogBatch raw serviceTable entries

/-- A page has so few services that each has its own 16-bit index. -/
def Labels (raw : Bool) (rows : List (Row InsertEntry)) : Prop :=
  raw = true ∨ (rows.map (·.content.service)).dedup.length ≤ UInt16.size

theorem getElem?_idxOf_mod {table : List String} (distinct : table.Nodup) (member : name ∈ table) :
    table[table.idxOf name % UInt16.size]? = some name ↔ table.idxOf name < UInt16.size := by
  have bound : table.idxOf name < table.length := idxOf_lt_length_iff.mpr member
  constructor
  · intro found
    obtain ⟨inside, same⟩ := List.getElem?_eq_some_iff.mp found
    have place := distinct.idxOf_getElem _ inside
    rw [same] at place
    rw [place]
    exact Nat.mod_lt _ (by decide)
  · intro small
    rw [Nat.mod_eq_of_lt small, getElem?_eq_getElem bound, getElem_idxOf bound]

theorem printPage_eq_iff (raw : Bool) (rows : List (Row InsertEntry)) :
    printPage raw rows = rows.map (PrintedLine.ofRow raw) ↔ Labels raw rows := by
  unfold printPage Labels
  cases raw with
  | true =>
    refine ⟨fun _ => .inl rfl, fun _ => ?_⟩
    simp only [if_true, writeLogBatch, map_map]
    rfl
  | false =>
    have distinct : (serviceTable [] rows).Nodup := nodup_serviceTable .nil rows
    have known : Indexes [] [] := fun _ => rfl
    have eachRow : ∀ row ∈ rows,
        ((serviceTable [] rows)[(serviceTable [] rows).idxOf row.content.service % UInt16.size]? =
          some row.content.service ↔
        (serviceTable [] rows).idxOf row.content.service < UInt16.size) := fun row member =>
      getElem?_idxOf_mod distinct (mem_serviceTable.mpr (.inr (mem_map_of_mem member)))
    rw [if_neg Bool.false_ne_true, compactEntries_eq known, ← length_serviceTable]
    simp only [writeLogBatch, map_map, map_inj_left, Bool.false_eq_true, if_false,
      Function.comp_apply, StreamLogEntry.compact, ofRow, UInt16.toNat_ofNat',
      labelled.injEq, and_true, false_or]
    constructor
    · intro right
      by_contra many
      have inside : UInt16.size < (serviceTable [] rows).length := not_le.mp many
      obtain ⟨row, member, service⟩ := mem_map.mp
        ((mem_serviceTable.mp (getElem_mem inside)).resolve_left not_mem_nil)
      have small := (eachRow row member).mp (right row member)
      rw [service, distinct.idxOf_getElem] at small
      exact absurd small (lt_irrefl _)
    · intro few row member
      refine (eachRow row member).mpr (lt_of_lt_of_le (idxOf_lt_length_iff.mpr ?_) few)
      exact mem_serviceTable.mpr (.inr (mem_map_of_mem member))

/-! ### Pages of a window -/

/-- The lines are those of the rows, and right exactly if every page has labels for its services. -/
structure Prints (raw : Bool) (size : Nat) (rows : List (Row InsertEntry))
    (lines : List PrintedLine) : Prop where
  length : lines.length = rows.length
  right : lines = rows.map (PrintedLine.ofRow raw) ↔
    ∀ index, Labels raw ((rows.drop (index * size)).take size)

theorem length_printPage (raw : Bool) (rows : List (Row InsertEntry)) :
    (printPage raw rows).length = rows.length := by
  unfold printPage
  cases raw with
  | true => simp [writeLogBatch]
  | false =>
    have known : Indexes [] [] := fun _ => rfl
    simp [writeLogBatch, compactEntries_eq known]

theorem prints_nil (raw : Bool) (size : Nat) : Prints raw size [] [] :=
  ⟨rfl, fun _ index => by simp [Labels], fun _ => rfl⟩

theorem Prints.page {raw : Bool} {size : Nat} {lines : List PrintedLine}
    (others : Prints raw size (rows.drop size) lines) :
    Prints raw size rows (printPage raw (rows.take size) ++ lines) := by
  have split := take_append_drop size rows
  refine ⟨?_, ?_⟩
  · rw [length_append, length_printPage, others.length, ← length_append, split]
  · have pages : (∀ index, Labels raw ((rows.drop (index * size)).take size)) ↔
        Labels raw (rows.take size) ∧
          ∀ index, Labels raw (((rows.drop size).drop (index * size)).take size) := by
      simp only [drop_drop]
      constructor
      · intro all
        refine ⟨?_, fun index => ?_⟩
        · have first := all 0
          rwa [Nat.zero_mul] at first
        · have next := all (index + 1)
          rwa [Nat.succ_mul, Nat.add_comm] at next
      · rintro ⟨first, next⟩ index
        cases index with
        | zero => rwa [Nat.zero_mul]
        | succ index =>
          rw [Nat.succ_mul, Nat.add_comm]
          exact next index
    have whole : rows.map (ofRow raw) =
        (rows.take size).map (ofRow raw) ++
          (rows.drop size).map (ofRow raw) := by
      rw [← map_append, split]
    rw [pages, ← printPage_eq_iff, ← others.right, whole]
    constructor
    · intro same
      exact append_inj same (by rw [length_printPage, length_map])
    · rintro ⟨first, next⟩
      rw [first, next]

/-! ### Rows after a row -/

namespace LogQuery

variable {query : LogQuery} {logs : LogTable}

variable {front back : List (Row InsertEntry)}

theorem filter_of_split {bound : Int} (below : ∀ row ∈ front, row.id ≤ bound)
    (above : ∀ row ∈ back, bound < row.id) :
    ((front ++ back).filter fun row => bound < row.id) = back := by
  rw [filter_append, filter_eq_nil_iff.mpr, filter_eq_self.mpr, nil_append]
  · exact fun row member => decide_eq_true (above row member)
  · intro row member
    rw [decide_eq_true_eq, not_lt]
    exact below row member

theorem rest_zero : query.rest logs 0 = query.select logs := by
  refine filter_eq_self.mpr fun row member => decide_eq_true ?_
  exact logs.positive row (mem_of_mem_filter member)

theorem rest_last {afterId : Int} {last : Row InsertEntry}
    (split : query.rest logs afterId = front ++ [last] ++ back) :
    query.rest logs last.id = back := by
  have ordered : (front ++ [last] ++ back).Pairwise fun earlier later => earlier.id < later.id :=
    split ▸ (logs.ordered.filter _).filter _
  have later : afterId < last.id := by
    refine (mem_rest.mp (?_ : last ∈ query.rest logs afterId)).2.2
    rw [split]
    exact mem_append_left _ (mem_append_right _ (mem_singleton_self last))
  have narrower : query.rest logs last.id =
      (query.rest logs afterId).filter fun row => last.id < row.id := by
    rw [rest, rest, filter_filter]
    refine filter_congr fun row _ => ?_
    rw [← Bool.decide_and, decide_eq_decide]
    exact ⟨fun above => ⟨above, later.trans above⟩, And.left⟩
  rw [narrower, split]
  rw [pairwise_append] at ordered
  refine filter_of_split (fun row member => ?_) fun row member => ?_
  · rcases mem_append.mp member with member | member
    · exact ((pairwise_append.mp ordered.1).2.2 row member last
        (mem_singleton_self last)).le
    · rw [mem_singleton.mp member]
  · exact ordered.2.2 last (mem_append_right _ (mem_singleton_self last)) row member

theorem rest_pred {first : Row InsertEntry} (split : query.select logs = front ++ first :: back) :
    query.rest logs (first.id - 1) = first :: back := by
  have ordered : (front ++ first :: back).Pairwise fun earlier later => earlier.id < later.id :=
    split ▸ logs.ordered.filter _
  rw [pairwise_append, pairwise_cons] at ordered
  rw [rest, split]
  refine filter_of_split (fun row member => ?_) fun row member => ?_
  · exact Int.le_sub_one_of_lt (ordered.2.2 row member first mem_cons_self)
  · rcases mem_cons.mp member with rfl | member
    · exact Int.sub_one_lt_of_le le_rfl
    · exact (Int.sub_one_lt_of_le le_rfl).trans (ordered.2.1.1 row member)

theorem rest_tailStartId {count : Nat} (counts : count ≠ 0) :
    query.rest logs
        (match query.tailStartId logs count with
          | some startId => startId - 1
          | none => 0) =
      (query.select logs).drop
        ((query.select logs).length - ((asI64 (count - 1)).toNat + 1)) := by
  rw [tailStartId, if_neg counts]
  generalize (asI64 (count - 1)).toNat = offset
  rcases lt_or_ge offset (query.select logs).length with inside | outside
  · have place : (query.select logs).length - 1 - offset < (query.select logs).length := by omega
    rw [getElem?_reverse inside, getElem?_eq_getElem place, Option.map_some]
    have split := take_append_drop ((query.select logs).length - 1 - offset)
      (query.select logs)
    rw [drop_eq_getElem_cons place] at split
    refine (rest_pred split.symm).trans ?_
    rw [← drop_eq_getElem_cons place, Nat.sub_sub, Nat.add_comm]
  · rw [getElem?_eq_none (by rwa [length_reverse]), Option.map_none]
    rw [rest_zero, Nat.sub_eq_zero_of_le (outside.trans (Nat.le_succ offset)), drop_zero]

end LogQuery

/-! ### The turns of a one-shot stream -/

def owedOf (remaining : Option Nat) (rows : List (Row InsertEntry)) : List (Row InsertEntry) :=
  match remaining with
  | some remaining => rows.take remaining
  | none => rows

namespace StreamParams

variable (params : StreamParams) (language : FilterLanguage) (chunkSize : Nat) (source : LogSource)
  (logs : LogTable) (query : LogQuery)

/-- The number of rows of a page that is not the last one. -/
def pageSize : Nat := if params.maxTotal.isSome then chunkSize else min params.limit chunkSize

/-- The client asks for the rows, and for as many as it owes. -/
structure Asks (state : StreamState) (rows : List (Row InsertEntry)) : Prop where
  position : state.position = .requesting
  rows : query.rest logs ((params.request state).effectiveAfterId query logs) = rows
  limited : state.remaining.isSome = params.maxTotal.isSome
  limit : ∀ remaining, state.remaining = some remaining →
    params.requestLimit state = remaining ∧ remaining ≤ params.limit

variable {params language chunkSize source logs query} {state : StreamState}
  {rows : List (Row InsertEntry)}

theorem handle_request
    (accepted : (params.request params.start).prepare language source = .ok (query, false))
    (state : StreamState) :
    (params.request state).handle language chunkSize source logs =
      .ok ((params.request state).answer chunkSize query false logs logs) := by
  have same : (params.request state).prepare language source = .ok (query, false) := accepted
  rw [handle, same]
  rfl

/-- The page that is read is the next one of those that are owed. -/
theorem Asks.chunk (asks : params.Asks logs query state rows) :
    rows.take (min (params.requestLimit state) chunkSize) =
      (owedOf state.remaining rows).take (params.pageSize chunkSize) := by
  have limited := asks.limited
  unfold owedOf pageSize
  cases owed : state.remaining with
  | some remaining =>
    rw [owed] at limited
    rw [← limited, (asks.limit remaining owed).1]
    simp [take_take, Nat.min_comm]
  | none =>
    rw [owed] at limited
    rw [← limited, requestLimit, owed]
    rfl

def reply (params : StreamParams) (chunkSize : Nat) (logs : LogTable) (query : LogQuery)
    (state : StreamState) : LogStreamData :=
  (params.request state).answer chunkSize query false logs logs

section

variable (asks : params.Asks logs query state rows)

include asks

theorem Asks.length_entries :
    (params.reply chunkSize logs query state).entries.length =
      (rows.take (min (params.requestLimit state) chunkSize)).length := by
  rw [← asks.rows]
  exact (length_map _).symm.trans
    ((congrArg length (lines_respond ..)).trans (length_map _))

theorem Asks.owed :
    state.owed (params.reply chunkSize logs query state) =
      (params.reply chunkSize logs query state).entries := by
  unfold StreamState.owed
  cases owed : state.remaining with
  | none => rfl
  | some remaining =>
    refine take_of_length_le ?_
    rw [asks.length_entries, length_take, (asks.limit remaining owed).1]
    exact (min_le_left _ _).trans (min_le_left _ _)

theorem Asks.printed :
    params.printed state (params.reply chunkSize logs query state) =
      printPage params.raw (rows.take (min (params.requestLimit state) chunkSize)) := by
  rw [StreamParams.printed, asks.owed, ← asks.rows, ← after_fst]
  rfl

theorem Asks.hasMore :
    (params.reply chunkSize logs query state).hasMore =
      decide (min (params.requestLimit state) chunkSize < rows.length) := by
  rw [← asks.rows]
  exact (hasMore_respond ..).trans (Bool.or_false _)

theorem Asks.exhausted :
    state.exhausted (params.reply chunkSize logs query state) = true ↔
      state.remaining = some (rows.take (min (params.requestLimit state) chunkSize)).length := by
  unfold StreamState.exhausted
  rw [asks.owed, asks.length_entries]
  cases state.remaining with
  | none => exact iff_of_false Bool.false_ne_true nofun
  | some => rw [beq_iff_eq, Option.some_inj, eq_comm]

theorem Asks.receive_last (oneShot : params.mode = .all)
    (last : rows.length ≤ min (params.requestLimit state) chunkSize ∨
      state.remaining = some (rows.take (min (params.requestLimit state) chunkSize)).length) :
    (params.receive state (params.reply chunkSize logs query state)).position = .exited .done := by
  unfold receive
  split
  · rfl
  · rename_i more
    rw [asks.exhausted] at more
    have ends : (params.reply chunkSize logs query state).hasMore = false := by
      rw [asks.hasMore, decide_eq_false_iff_not, not_lt]
      exact last.resolve_right more
    rw [ends, proceed, oneShot]
    rfl

theorem Asks.owed_last (last : rows.length ≤ min (params.requestLimit state) chunkSize ∨
      state.remaining = some (rows.take (min (params.requestLimit state) chunkSize)).length) :
    (owedOf state.remaining rows).drop (params.pageSize chunkSize) = [] := by
  have limited := asks.limited
  refine drop_eq_nil_of_le ?_
  unfold owedOf pageSize
  cases owed : state.remaining with
  | some remaining =>
    rw [owed] at limited last
    rw [← limited, Option.isSome_some, if_pos rfl]
    rw [(asks.limit remaining owed).1, length_take, Option.some_inj] at last
    rw [length_take]
    omega
  | none =>
    rw [owed] at limited last
    rw [← limited, Option.isSome_none, if_neg Bool.false_ne_true]
    rw [requestLimit, owed] at last
    exact last.resolve_right nofun

section

variable (owes : state.remaining ≠ some (min (params.requestLimit state) chunkSize))

include owes

theorem Asks.first (positive : 0 < params.pageSize chunkSize) :
    0 < min (params.requestLimit state) chunkSize := by
  have limited := asks.limited
  unfold pageSize at positive
  cases owed : state.remaining with
  | some remaining =>
    rw [owed] at limited owes
    rw [← limited, Option.isSome_some, if_pos rfl] at positive
    rw [(asks.limit remaining owed).1] at owes ⊢
    rcases Nat.eq_zero_or_pos remaining with rfl | some
    · exact absurd (congrArg _ (Nat.zero_min chunkSize).symm) owes
    · exact lt_min some positive
  | none =>
    rw [owed] at limited
    rw [← limited, Option.isSome_none, if_neg Bool.false_ne_true] at positive
    rw [requestLimit, owed]
    exact positive

theorem Asks.owed_next :
    owedOf (state.remaining.map (· - min (params.requestLimit state) chunkSize))
        (rows.drop (min (params.requestLimit state) chunkSize)) =
      (owedOf state.remaining rows).drop (params.pageSize chunkSize) := by
  have limited := asks.limited
  unfold owedOf pageSize
  cases owed : state.remaining with
  | some remaining =>
    rw [owed] at limited owes
    rw [← limited, (asks.limit remaining owed).1] at *
    have full : min remaining chunkSize = chunkSize := by
      rcases le_total remaining chunkSize with short | full
      · exact absurd (congrArg some (Nat.min_eq_left short).symm) owes
      · exact Nat.min_eq_right full
    rw [full, Option.isSome_some, if_pos rfl, drop_take]
    rfl
  | none =>
    rw [owed] at limited
    rw [← limited, requestLimit, owed]
    rfl

end

section

variable (positive : 0 < min (params.requestLimit state) chunkSize)
  (more : min (params.requestLimit state) chunkSize < rows.length)

include positive more

theorem Asks.rest_lastId :
    query.rest logs (params.reply chunkSize logs query state).lastId =
      rows.drop (min (params.requestLimit state) chunkSize) := by
  have nonempty : rows.take (min (params.requestLimit state) chunkSize) ≠ [] :=
    ne_nil_of_length_pos (by rwa [length_take_of_le more.le])
  obtain ⟨front, last, page⟩ := (eq_nil_or_concat' _).resolve_left nonempty
  have ends : (params.reply chunkSize logs query state).lastId = last.id := by
    refine (lastId_respond ..).trans ?_
    have chunk : (params.request state).chunk chunkSize query
        ((params.request state).effectiveAfterId query logs) logs = front ++ [last] := by
      rw [LogsStream.chunk, asks.rows]
      exact page
    rw [chunk, getLast?_concat, Option.map_some, Option.getD_some]
  have split : query.rest logs ((params.request state).effectiveAfterId query logs) =
      front ++ [last] ++ rows.drop (min (params.requestLimit state) chunkSize) := by
    rw [asks.rows, ← page, take_append_drop]
  rw [ends, rest_last split]

variable (oneShot : params.mode = .all)
  (owes : state.remaining ≠ some (min (params.requestLimit state) chunkSize))

include oneShot owes

theorem Asks.receive_next :
    params.receive state (params.reply chunkSize logs query state) =
      { state with
        lastId := some (params.reply chunkSize logs query state).lastId
        remaining := state.remaining.map (· - min (params.requestLimit state) chunkSize)
        flushWaits := 0
        position := .requesting } := by
  have length : (rows.take (min (params.requestLimit state) chunkSize)).length =
      min (params.requestLimit state) chunkSize := length_take_of_le more.le
  have unfinished : ¬state.exhausted (params.reply chunkSize logs query state) = true := by
    rw [asks.exhausted, length]
    exact owes
  have nonempty : (params.reply chunkSize logs query state).entries.isEmpty = false := by
    rw [isEmpty_eq_false_iff_exists_mem]
    refine exists_mem_of_length_pos ?_
    rw [asks.length_entries, length]
    exact positive
  have follows : (params.reply chunkSize logs query state).hasMore = true := by
    rw [asks.hasMore]
    exact decide_eq_true more
  unfold receive
  rw [if_neg unfinished, asks.owed, nonempty, follows, asks.length_entries, length, proceed,
    oneShot]
  rfl

theorem Asks.next :
    params.Asks logs query (params.receive state (params.reply chunkSize logs query state))
      (rows.drop (min (params.requestLimit state) chunkSize)) := by
  rw [asks.receive_next positive more oneShot owes]
  refine ⟨rfl, ?_, ?_, ?_⟩
  · rw [← asks.rest_lastId positive more, effectiveAfterId_of_lastId rfl]
  · rw [Option.isSome_map]
    exact asks.limited
  · intro left same
    obtain ⟨remaining, owed, rfl⟩ := Option.map_eq_some_iff.mp same
    have bound : remaining - min (params.requestLimit state) chunkSize ≤ params.limit :=
      (Nat.sub_le _ _).trans (asks.limit remaining owed).2
    refine ⟨?_, bound⟩
    rw [requestLimit, tailRequest_of_lastId rfl, same]
    exact Nat.min_eq_left bound

end

end

theorem Asks.streamLogs (positive : 0 < params.pageSize chunkSize) (oneShot : params.mode = .all)
    (accepted : (params.request params.start).prepare language source = .ok (query, false))
    (asks : params.Asks logs query state rows) :
    ∃ turns lines final,
      params.streamLogs (fun request => request.handle language chunkSize source logs) turns state =
        (lines, final) ∧
      final.position = .exited .done ∧
      Prints params.raw (params.pageSize chunkSize) (owedOf state.remaining rows) lines := by
  induction size : rows.length using Nat.strong_induction_on generalizing state rows with
  | _ size inductionHypothesis =>
    have turn : ∀ turns,
        params.streamLogs (fun request => request.handle language chunkSize source logs) (turns + 1)
          state =
        (printPage params.raw ((owedOf state.remaining rows).take (params.pageSize chunkSize)) ++
          (params.streamLogs (fun request => request.handle language chunkSize source logs) turns
            (params.receive state (params.reply chunkSize logs query state))).1,
          (params.streamLogs (fun request => request.handle language chunkSize source logs) turns
            (params.receive state (params.reply chunkSize logs query state))).2) := by
      intro turns
      have stepped : params.step state (.data (params.reply chunkSize logs query state)) =
          params.receive state (params.reply chunkSize logs query state) := by
        simp only [step, asks.position]
      rw [streamLogs, asks.position]
      rw [handle_request accepted, ← asks.chunk, ← asks.printed, ← stepped]
      rfl
    by_cases last : rows.length ≤ min (params.requestLimit state) chunkSize ∨
      state.remaining = some (rows.take (min (params.requestLimit state) chunkSize)).length
    · refine ⟨1, _, _, turn 0, asks.receive_last oneShot last, ?_⟩
      refine Prints.page ?_
      rw [asks.owed_last last]
      exact prints_nil ..
    · obtain ⟨more, owes⟩ := not_or.mp last
      rw [not_le] at more
      rw [length_take_of_le more.le] at owes
      have first := asks.first owes positive
      obtain ⟨turns, lines, final, run, done, prints⟩ := inductionHypothesis _ (by
        rw [← size, length_drop]
        omega) (asks.next first more oneShot owes) rfl
      refine ⟨turns + 1, _, _, turn turns, ?_, ?_⟩
      · rw [run]
        exact done
      · rw [run]
        refine Prints.page ?_
        rw [← asks.owed_next owes]
        rw [asks.receive_next first more oneShot owes] at prints
        exact prints

end StreamParams

/-! ### The window of a command -/

namespace LogsCommand

variable (command : LogsCommand)

/-- The rows that a command is to print of those that its query selects. -/
def window (rows : List (Row InsertEntry)) : List (Row InsertEntry) :=
  match command.head, command.tail with
  | some count, _ => rows.take count.toNat
  | none, some count => rows.drop (rows.length - count.toNat)
  | none, none => rows

/-- The offset of the first row from the end is a signed number. A larger one counts as 0, which is
only right if there is nothing before the last row. -/
def Countable (rows : List (Row InsertEntry)) : Prop :=
  command.isTail = true → ∀ count ∈ command.lines, count ≤ 2 ^ 63 ∨ rows.length ≤ 1

instance (rows : List (Row InsertEntry)) : Decidable (command.Countable rows) := by
  unfold Countable
  infer_instance

def Labelled (chunkSize : Nat) (rows : List (Row InsertEntry)) : Prop :=
  ∀ index, Labels command.raw (((command.window rows).drop
    (index * command.handleLogs.pageSize chunkSize)).take (command.handleLogs.pageSize chunkSize))

theorem labelled_of_le {chunkSize : Nat} (short : chunkSize ≤ UInt16.size)
    (rows : List (Row InsertEntry)) : command.Labelled chunkSize rows := by
  intro index
  have page : command.handleLogs.pageSize chunkSize ≤ chunkSize := by
    unfold pageSize
    split
    · exact le_rfl
    · exact min_le_right _ _
  refine .inr ((dedup_sublist _).length_le.trans ?_)
  rw [length_map]
  exact (length_take_le _ _).trans (page.trans short)

theorem toNat_asI64 {count : Nat} (small : count < UInt64.size) :
    (asI64 count).toNat = if count < 2 ^ 63 then count else 0 := by
  unfold asI64
  rw [Nat.mod_eq_of_lt small]
  split
  · rfl
  · rw [UInt64.size] at *
    omega

variable {command} (query : LogQuery) (logs : LogTable) {count : UInt64}

theorem countable_tail {services : List String} {follow noHook raw sql : Bool}
    {filter : Option String} :
    (LogsCommand.mk services follow none (some count) noHook raw filter sql).Countable rows ↔
      count.toNat ≤ 2 ^ 63 ∨ rows.length ≤ 1 := by
  refine ⟨fun countable => countable rfl count.toNat rfl, fun fits _ number same => ?_⟩
  cases same
  exact fits

theorem tail_window (rows : List (Row InsertEntry)) (counts : count.toNat ≠ 0) :
    ((rows.drop (rows.length - ((asI64 (count.toNat - 1)).toNat + 1))).take count.toNat =
        rows.drop (rows.length - count.toNat) ∨ 2 ^ 63 < count.toNat ∧ 1 < rows.length) ∧
      (2 ^ 63 < count.toNat ∧ 1 < rows.length →
        ((rows.drop (rows.length - ((asI64 (count.toNat - 1)).toNat + 1))).take
          count.toNat).length ≠ (rows.drop (rows.length - count.toNat)).length) := by
  have bound : count.toNat < UInt64.size := count.toNat_lt_size
  rw [toNat_asI64 (lt_of_le_of_lt (Nat.sub_le _ _) bound)]
  split
  · rename_i fits
    have same : count.toNat - 1 + 1 = count.toNat := Nat.succ_pred_eq_of_ne_zero counts
    rw [same]
    refine ⟨.inl (take_of_length_le ?_), fun large => ?_⟩
    · rw [length_drop]
      omega
    · omega
  · rename_i large
    refine ⟨?_, fun many => ?_⟩
    · rcases le_or_gt rows.length 1 with few | many
      · refine .inl ?_
        have start : rows.length - (0 + 1) = rows.length - count.toNat := by omega
        rw [start]
        exact take_of_length_le (by rw [length_drop]; omega)
      · exact .inr ⟨by omega, many⟩
    · rw [length_take, length_drop, length_drop]
      omega

theorem asks_start (oneShot : command.follow = false) :
    ∃ rows, command.handleLogs.Asks logs query command.handleLogs.start rows ∧
      (command.Countable (query.select logs) →
        owedOf command.lines rows = command.window (query.select logs)) ∧
      (¬command.Countable (query.select logs) →
        (owedOf command.lines rows).length ≠ (command.window (query.select logs)).length) := by
  obtain ⟨services, follow, head, tail, noHook, raw, filter, sql⟩ := command
  cases oneShot
  cases head with
  | some count =>
    refine ⟨query.select logs, ⟨rfl, rest_zero, rfl, ?_⟩, fun _ => rfl, fun never => ?_⟩
    · rintro _ ⟨⟩
      exact ⟨Nat.min_self _, le_rfl⟩
    · exact absurd nofun never
  | none =>
    cases tail with
    | none =>
      refine ⟨query.select logs, ⟨rfl, rest_zero, rfl, ?_⟩, fun _ => rfl, fun never => ?_⟩
      · rintro _ ⟨⟩
      · exact absurd nofun never
    | some count =>
      refine ⟨query.rest logs
        (match query.tailStartId logs count.toNat with
          | some startId => startId - 1
          | none => 0), ⟨rfl, rfl, rfl, ?_⟩, ?_⟩
      · rintro _ ⟨⟩
        exact ⟨rfl, le_rfl⟩
      · rw [countable_tail]
        refine show (_ → take count.toNat _ = drop _ _) ∧
          (_ → (take count.toNat _).length ≠ (drop _ _).length) from ?_
        rcases eq_or_ne count.toNat 0 with zero | counts
        · rw [zero, Nat.sub_zero, drop_length]
          exact ⟨fun _ => take_zero, fun large => absurd (.inl (Nat.zero_le _)) large⟩
        · rw [rest_tailStartId counts]
          obtain ⟨right, wrong⟩ := tail_window (query.select logs) counts
          refine ⟨fun fits => right.resolve_right ?_, fun large => wrong ?_⟩
          · rintro ⟨large, many⟩
            exact fits.elim (not_le.mpr large) (not_le.mpr many)
          · exact (not_or.mp large).imp not_le.mp not_le.mp

end LogsCommand

/-- `kepler logs` on a log that does not change ends. It prints the window of its rows, page by
page, with the services as labels, exactly if the number of lines fits the offset of the query and
the pages have an index for each service. -/
theorem logs_prints_window (language : FilterLanguage) (source : LogSource) (logs : LogTable)
    (command : LogsCommand) (chunkSize : Nat) (filter : Option (Row InsertEntry → Bool))
    (oneShot : command.follow = false) (positive : 0 < chunkSize)
    (accepted : (command.handleLogs.request command.handleLogs.start).prepare language source =
      .ok (⟨command.services, command.noHook, none, none, filter⟩, false)) :
    let query : LogQuery := ⟨command.services, command.noHook, none, none, filter⟩
    ∃ turns,
      let result := command.handleLogs.streamLogs
        (fun request => request.handle language chunkSize source logs) turns
        command.handleLogs.start
      result.2.position = .exited .done ∧
      (result.1 = (command.window (query.select logs)).map (PrintedLine.ofRow command.raw) ↔
        command.Countable (query.select logs) ∧
          command.Labelled chunkSize (query.select logs)) := by
  intro query
  have mode : command.handleLogs.mode = .all := by
    rw [handleLogs, oneShot]
    rfl
  have total : command.handleLogs.maxTotal = command.lines := by
    rw [handleLogs, oneShot]
    rfl
  have size : 0 < command.handleLogs.pageSize chunkSize := by
    unfold pageSize
    rw [total]
    split
    · exact positive
    · rename_i unlimited
      rw [Option.not_isSome_iff_eq_none] at unlimited
      have limit : command.handleLogs.limit = maxStreamBatchSize := by
        rw [handleLogs, unlimited]
        rfl
      rw [limit]
      exact lt_min (by decide) positive
  obtain ⟨rows, asks, fits, misses⟩ := asks_start query logs oneShot
  obtain ⟨turns, lines, final, run, done, prints⟩ := asks.streamLogs size mode accepted
  rw [show command.handleLogs.start.remaining = command.lines from total] at prints
  refine ⟨turns, ?_⟩
  rw [run]
  refine ⟨done, ?_⟩
  by_cases countable : command.Countable (query.select logs)
  · rw [fits countable] at prints
    rw [and_iff_right countable]
    exact prints.right
  · refine iff_of_false (fun same => misses countable ?_) fun both => countable both.1
    rw [← prints.length, show lines = _ from same, length_map]

/-- A number of lines above the range of the offset gives the last row only. -/
theorem large_tail_prints_last_row :
    ∃ (logs : LogTable) (command : LogsCommand) (turns : Nat),
      command.tail = some 9223372036854775809 ∧
      (command.handleLogs.streamLogs
        (fun request => request.handle ⟨fun _ => .error "", fun _ => .error ""⟩ streamChunkSize
          (.store false) logs) turns command.handleLogs.start).2.position = .exited .done ∧
      (command.handleLogs.streamLogs
        (fun request => request.handle ⟨fun _ => .error "", fun _ => .error ""⟩ streamChunkSize
          (.store false) logs) turns command.handleLogs.start).1 = [.raw "second"] ∧
      (command.window ((⟨[], false, none, none, none⟩ : LogQuery).select logs)).map
        (PrintedLine.ofRow command.raw) = [.raw "first", .raw "second"] :=
  ⟨(default : LogTable).insertAll
      [⟨0, "web", none, "info", "first", none⟩, ⟨1, "web", none, "info", "second", none⟩],
    ⟨[], false, none, some 9223372036854775809, false, true, none, false⟩, 2,
    by decide +kernel, by decide +kernel, by decide +kernel, by decide +kernel⟩

/-- The last two of three rows, one row in an answer. -/
theorem logs_prints_window_of_tail :
    ∃ (logs : LogTable) (command : LogsCommand) (turns : Nat),
      command.tail = some 2 ∧
      (command.handleLogs.streamLogs
        (fun request => request.handle ⟨fun _ => .error "", fun _ => .error ""⟩ 1 (.store false) logs)
        turns command.handleLogs.start).1 =
        [.labelled (some "web") 2 1 "info" none none "second",
          .labelled (some "db") 3 2 "info" none none "third"] := by
  let logs : LogTable := (default : LogTable).insertAll
    [⟨0, "web", none, "info", "first", none⟩, ⟨1, "web", none, "info", "second", none⟩,
      ⟨2, "db", none, "info", "third", none⟩]
  let command : LogsCommand := ⟨[], false, none, some 2, false, false, none, false⟩
  obtain ⟨turns, -, right⟩ := logs_prints_window ⟨fun _ => .error "", fun _ => .error ""⟩
    (.store false) logs command 1 none rfl Nat.one_pos rfl
  refine ⟨logs, command, turns, rfl, ?_⟩
  rw [right.mpr ⟨by decide +kernel, command.labelled_of_le (by decide) _⟩]
  decide +kernel

end Kepler
