/-
This file is about tables that number their rows themselves.

The rule for a new number is that of SQLite for a column `INTEGER PRIMARY KEY`: one more than the
largest number in the table, so that the number of a deleted row may be given again. A table that
already has the largest 64-bit number, for which SQLite tries numbers at random, is left out.
-/

import Mathlib.Data.List.Basic
import Mathlib.Data.List.Nodup
import Mathlib.Data.List.Sort

namespace Kepler

open List

structure Row (Content : Type) where
  id : Int
  content : Content
deriving DecidableEq, Repr

/-- A table of rows in the order of their ids. -/
@[ext] structure RowTable (Content : Type) where
  rows : List (Row Content)
  ordered : rows.Pairwise fun earlier later => earlier.id < later.id
  positive : ∀ row ∈ rows, 0 < row.id
deriving DecidableEq

section Ordered

variable {Content : Type} {rows others : List (Row Content)}

theorem id_le_getLast (ordered : rows.Pairwise fun earlier later => earlier.id < later.id)
    {row : Row Content} (member : row ∈ rows) (otherwise : Int) :
    row.id ≤ (rows.getLast?.map Row.id).getD otherwise := by
  obtain ⟨front, last, rfl⟩ : ∃ front last, rows = front ++ [last] :=
    (eq_nil_or_concat' rows).resolve_left (ne_nil_of_mem member)
  rw [getLast?_concat, Option.map_some, Option.getD_some]
  rw [pairwise_append] at ordered
  rw [mem_append, mem_singleton] at member
  rcases member with member | rfl
  · exact (ordered.2.2 row member last (mem_singleton_self last)).le
  · exact le_rfl

theorem eq_of_ordered (ordered : rows.Pairwise fun earlier later => earlier.id < later.id)
    (othersOrdered : others.Pairwise fun earlier later => earlier.id < later.id)
    (same : ∀ row, row ∈ rows ↔ row ∈ others) : rows = others := by
  have distinct : ∀ {rows : List (Row Content)},
      (rows.Pairwise fun earlier later => earlier.id < later.id) → rows.Nodup := fun ordered =>
    ordered.imp fun before equal => absurd (equal ▸ before) (lt_irrefl _)
  refine List.Perm.eq_of_pairwise (fun first second _ _ before after => ?_) ordered othersOrdered
    ((perm_ext_iff_of_nodup (distinct ordered) (distinct othersOrdered)).mpr same)
  exact absurd (before.trans after) (lt_irrefl _)

end Ordered

namespace RowTable

variable {Content : Type}

instance : Inhabited (RowTable Content) := ⟨⟨[], .nil, nofun⟩⟩

/-- The largest id of the table, 0 if there is none: `COALESCE(MAX(id), 0)`. -/
def lastId (table : RowTable Content) : Int := (table.rows.getLast?.map Row.id).getD 0

variable (table : RowTable Content) {contents : List Content} {doomed : Row Content → Bool}

theorem lastId_nonneg : 0 ≤ table.lastId := by
  unfold lastId
  cases found : table.rows.getLast? with
  | none => exact le_refl 0
  | some row => exact (table.positive row (mem_of_getLast? found)).le

theorem id_le_lastId {table : RowTable Content} {row : Row Content} (member : row ∈ table.rows) :
    row.id ≤ table.lastId := id_le_getLast table.ordered member 0

def insert (table : RowTable Content) (content : Content) : RowTable Content where
  rows := table.rows ++ [⟨table.lastId + 1, content⟩]
  ordered := pairwise_append.mpr ⟨table.ordered, pairwise_singleton _ _,
    fun row member new same => by
      rw [mem_singleton.mp same]
      exact Int.lt_add_one_of_le (id_le_lastId member)⟩
  positive := fun row member => by
    rcases mem_append.mp member with member | member
    · exact table.positive row member
    · rw [mem_singleton.mp member]
      exact Int.lt_add_one_of_le table.lastId_nonneg

def insertAll (table : RowTable Content) (contents : List Content) : RowTable Content :=
  contents.foldl insert table

def delete (table : RowTable Content) (doomed : Row Content → Bool) : RowTable Content where
  rows := table.rows.filter fun row => !doomed row
  ordered := table.ordered.filter _
  positive := fun row member => table.positive row (mem_of_mem_filter member)

@[simp] theorem insertAll_nil : table.insertAll [] = table := rfl

@[simp] theorem insertAll_cons (content : Content) (contents : List Content) :
    table.insertAll (content :: contents) = (table.insert content).insertAll contents := rfl

theorem insertAll_append (first second : List Content) :
    table.insertAll (first ++ second) = (table.insertAll first).insertAll second :=
  foldl_append

@[simp] theorem lastId_insert (content : Content) :
    (table.insert content).lastId = table.lastId + 1 := by
  simp only [lastId, insert, getLast?_concat, Option.map_some, Option.getD_some]

def numbered (last : Int) : List Content → List (Row Content)
  | [] => []
  | content :: contents => ⟨last + 1, content⟩ :: numbered (last + 1) contents

theorem rows_insertAll (contents : List Content) :
    (table.insertAll contents).rows = table.rows ++ numbered table.lastId contents := by
  induction contents generalizing table with
  | nil => rw [insertAll_nil, numbered, append_nil]
  | cons content contents inductionHypothesis =>
    rw [insertAll_cons, inductionHypothesis, lastId_insert, numbered, insert, append_assoc,
      singleton_append]

theorem lt_id_of_mem_numbered {last : Int} {row : Row Content}
    (member : row ∈ numbered last contents) : last < row.id := by
  induction contents generalizing last with
  | nil => cases member
  | cons content contents inductionHypothesis =>
    rcases mem_cons.mp member with rfl | member
    · exact Int.lt_add_one_of_le le_rfl
    · exact lt_trans (Int.lt_add_one_of_le le_rfl) (inductionHypothesis member)

theorem mem_insertAll {table : RowTable Content} {row : Row Content} (member : row ∈ table.rows) :
    row ∈ (table.insertAll contents).rows := by
  rw [rows_insertAll]
  exact mem_append_left _ member

theorem lastId_le_insertAll (contents : List Content) :
    table.lastId ≤ (table.insertAll contents).lastId := by
  induction contents generalizing table with
  | nil => exact le_rfl
  | cons content contents inductionHypothesis =>
    refine le_trans ?_ (inductionHypothesis (table.insert content))
    rw [lastId_insert]
    exact Int.le_add_one le_rfl

theorem delete_of_none (none : ∀ row, doomed row = false) : table.delete doomed = table := by
  refine RowTable.ext ?_
  show table.rows.filter _ = table.rows
  rw [filter_eq_self]
  intro row _
  rw [none row]
  rfl

/-- A table whose deleted rows leave one at or after an id does not end before it. -/
theorem le_lastId_delete {table : RowTable Content} {id : Int}
    (kept : 0 < id → ∃ row ∈ table.rows, id ≤ row.id ∧ doomed row = false) :
    id ≤ ((table.insertAll contents).delete doomed).lastId := by
  rcases le_or_gt id 0 with small | positive
  · exact small.trans (lastId_nonneg _)
  · obtain ⟨row, member, bound, spared⟩ := kept positive
    refine bound.trans (id_le_lastId (mem_filter.mpr ⟨mem_insertAll member, ?_⟩))
    rw [spared]
    rfl

end RowTable

end Kepler
