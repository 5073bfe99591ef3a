/-
This file describes hash maps whose iteration order is left open.

A map is an association list with distinct keys, in the order in which a loop over the map visits
it. A loop that builds a map performs one update per visited entry. What it leaves under a key is
the fold of the updates at that key, so the result does not depend on the visiting order exactly
when the updates at each key commute.
-/

import Mathlib.Data.List.AList
import Mathlib.Data.List.Induction

namespace Kepler

open List AList

/-- A hash map: an association list with distinct keys, in iteration order. -/
abbrev HashMap (Key Value : Type) : Type := AList fun _ : Key => Value

namespace HashMap

variable {Key Value : Type} [DecidableEq Key]

/-! ### Same contents, other order -/

def Same (left right : HashMap Key Value) : Prop :=
  ∀ key, left.lookup key = right.lookup key

omit [DecidableEq Key] in
/-- Two maps hold the same entries in a possibly different iteration order. -/
def Reordering (left right : HashMap Key Value) : Prop :=
  left.entries.Perm right.entries

variable (map : HashMap Key Value)

theorem Same.refl : Same map map := fun _ => rfl

theorem Same.symm {left right : HashMap Key Value} (same : Same left right) :
    Same right left := fun key => (same key).symm

/-- The map that visits the given entries, a permutation of its own. -/
def reorder (map : HashMap Key Value) (entries : List ((_ : Key) × Value))
    (permuted : entries.Perm map.entries) : HashMap Key Value :=
  ⟨entries, (perm_nodupKeys permuted).mpr map.nodupKeys⟩

def mapValues {Changed : Type} (change : Value → Changed) (map : HashMap Key Value) :
    HashMap Key Changed :=
  ⟨map.entries.map fun entry => ⟨entry.1, change entry.2⟩, by
    have keys : (map.entries.map fun entry =>
        (⟨entry.1, change entry.2⟩ : (_ : Key) × Changed)).keys = map.entries.keys := by
      simp [List.keys, Function.comp_def]
    exact (congrArg List.Nodup keys).mpr map.nodupKeys⟩

theorem lookup_mapValues {Changed : Type} (change : Value → Changed) (map : HashMap Key Value)
    (asked : Key) : (map.mapValues change).lookup asked = (map.lookup asked).map change :=
  dlookup_map₂ (f := fun _ => change) asked

def filterKeys (keep : Key → Bool) (map : HashMap Key Value) : HashMap Key Value :=
  ⟨map.entries.filter fun entry => keep entry.1, map.nodupKeys.sublist filter_sublist⟩

theorem lookup_filterKeys (keep : Key → Bool) (map : HashMap Key Value) (asked : Key) :
    (map.filterKeys keep).lookup asked = if keep asked then map.lookup asked else none := by
  refine Option.ext fun value => ?_
  rw [← Option.mem_def, mem_lookup_iff]
  refine mem_filter.trans ?_
  split
  · rename_i kept
    exact (and_iff_left kept).trans mem_lookup_iff.symm
  · rename_i dropped
    exact iff_of_false (fun both => dropped both.2) (Option.some_ne_none value).symm

/-- How the iteration order of a newly built map comes out. -/
structure Arrangement (Key Value : Type) [DecidableEq Key] where
  arrange : HashMap Key Value → HashMap Key Value
  same : ∀ map, Same (arrange map) map

/-! ### Unions, insertions and removals seen from one key -/

theorem lookup_union (left right : HashMap Key Value) (asked : Key) :
    (left ∪ right).lookup asked = (left.lookup asked).or (right.lookup asked) := by
  cases found : left.lookup asked with
  | none => exact lookup_union_right (lookup_eq_none.mp found)
  | some value =>
    rw [lookup_union_left (lookup_isSome.mp (by rw [found]; rfl)), found]
    rfl

theorem lookup_insert_eq (key : Key) (value : Value) (asked : Key) :
    (map.insert key value).lookup asked =
      if key = asked then some value else map.lookup asked := by
  by_cases equal : key = asked
  · subst equal
    rw [if_pos rfl, lookup_insert]
  · rw [if_neg equal, lookup_insert_ne (Ne.symm equal)]

theorem lookup_erase_eq (key asked : Key) :
    (map.erase key).lookup asked = if key = asked then none else map.lookup asked := by
  by_cases equal : key = asked
  · subst equal
    rw [if_pos rfl, lookup_erase]
  · rw [if_neg equal, lookup_erase_ne (Ne.symm equal)]

/-! ### Updates -/

def update (map : HashMap Key Value) (key : Key) (change : Option Value → Value) :
    HashMap Key Value :=
  map.insert key (change (map.lookup key))

theorem lookup_update (key : Key) (change : Option Value → Value) (asked : Key) :
    (map.update key change).lookup asked =
      if key = asked then some (change (map.lookup asked)) else map.lookup asked := by
  rw [update, lookup_insert_eq]
  by_cases equal : key = asked
  · subst equal
    rfl
  · rw [if_neg equal, if_neg equal]

abbrev Update (Key Value : Type) : Type := Key × (Option Value → Value)

def updateAll (map : HashMap Key Value) (updates : List (Update Key Value)) :
    HashMap Key Value :=
  updates.foldl (fun current step => current.update step.1 step.2) map

def observe (asked : Key) (found : Option Value) (step : Update Key Value) : Option Value :=
  if step.1 = asked then some (step.2 found) else found

theorem lookup_updateAll (updates : List (Update Key Value)) (asked : Key) :
    (map.updateAll updates).lookup asked =
      updates.foldl (observe asked) (map.lookup asked) := by
  induction updates generalizing map with
  | nil => rfl
  | cons step rest inductionHypothesis =>
    have tail := inductionHypothesis (map.update step.1 step.2)
    rw [lookup_update] at tail
    exact tail

/-- Updates at one key commute when their order does not matter. -/
def Commute (first second : Update Key Value) : Prop :=
  first.1 = second.1 → ∀ found, second.2 (some (first.2 found)) = first.2 (some (second.2 found))

theorem observe_comm (asked : Key) (first second : Update Key Value)
    (commute : Commute first second) (found : Option Value) :
    observe asked (observe asked found first) second =
      observe asked (observe asked found second) first := by
  unfold observe
  by_cases left : first.1 = asked <;> by_cases right : second.1 = asked
  · simp only [if_pos left, if_pos right]
    rw [commute (left.trans right.symm) found]
  · simp only [if_pos left, if_neg right]
  · simp only [if_neg left, if_pos right]
  · simp only [if_neg left, if_neg right]

theorem updateAll_perm {updates reordered : List (Update Key Value)}
    (permuted : updates.Perm reordered)
    (commute : ∀ first ∈ updates, ∀ second ∈ updates, Commute first second) :
    Same (map.updateAll updates) (map.updateAll reordered) := by
  intro asked
  rw [lookup_updateAll, lookup_updateAll]
  exact permuted.foldl_eq' (fun first left second right found =>
    observe_comm asked first second (commute first left second right) found) _

theorem lookup_updateAll_last (updates : List (Update Key Value)) (last : Update Key Value) :
    (map.updateAll (updates ++ [last])).lookup last.1 =
      some (last.2 ((map.updateAll updates).lookup last.1)) := by
  rw [lookup_updateAll, lookup_updateAll, foldl_append]
  simp [observe]

/-! ### Insertions made by a loop -/

def inserting (entry : Key × Value) : Update Key Value := (entry.1, fun _ => entry.2)

def Functional (pairs : List (Key × Value)) : Prop :=
  ∀ first ∈ pairs, ∀ second ∈ pairs, first.1 = second.1 → first.2 = second.2

/-- The insertions of a loop in which an element inserts at most one pair. -/
def insertions {Visited : Type} (pair : Visited → Option (Key × Value)) (visited : List Visited) :
    List (Update Key Value) :=
  (visited.filterMap pair).map inserting

/-- The map that such a loop builds from an empty one. -/
def collect {Visited : Type} (pair : Visited → Option (Key × Value)) (visited : List Visited) :
    HashMap Key Value :=
  updateAll ∅ (insertions pair visited)

section

variable {Visited : Type} (pair : Visited → Option (Key × Value))

variable (visited : List Visited)

theorem lookup_collect_last (last : Visited) (inserted : Key × Value)
    (made : pair last = some inserted) :
    (collect pair (visited ++ [last])).lookup inserted.1 = some inserted.2 := by
  have split : insertions pair (visited ++ [last]) =
      insertions pair visited ++ [inserting inserted] := by
    simp [insertions, made]
  rw [collect, split]
  exact lookup_updateAll_last ∅ _ (inserting inserted)

theorem mem_of_lookup_collect (key : Key) (value : Value)
    (found : (collect pair visited).lookup key = some value) :
    (key, value) ∈ visited.filterMap pair := by
  rw [collect, lookup_updateAll, insertions] at found
  generalize visited.filterMap pair = pairs at found ⊢
  induction pairs using List.reverseRecOn with
  | nil => simp [lookup_empty] at found
  | append_singleton rest last inductionHypothesis =>
    rw [map_append, foldl_append] at found
    by_cases equal : last.1 = key
    · have value_eq : last.2 = value := by simpa [observe, inserting, equal] using found
      rw [← equal, ← value_eq]
      simp
    · have earlier := inductionHypothesis (by simpa [observe, inserting, equal] using found)
      exact mem_append_left _ earlier

theorem exists_lookup_updateAll (key : Key) (value : Value)
    (member : (key, value) ∈ visited.filterMap pair) :
    ∃ kept, (map.updateAll (insertions pair visited)).lookup key = some kept ∧
      (key, kept) ∈ visited.filterMap pair := by
  rw [lookup_updateAll, insertions]
  generalize visited.filterMap pair = pairs at member ⊢
  induction pairs using List.reverseRecOn with
  | nil => simp at member
  | append_singleton rest last inductionHypothesis =>
    rw [map_append, foldl_append]
    by_cases equal : last.1 = key
    · exact ⟨last.2, by simp [observe, inserting, equal], by simp [← equal]⟩
    · have earlier : (key, value) ∈ rest := by
        rcases mem_append.mp member with inRest | inLast
        · exact inRest
        · simp only [mem_singleton] at inLast
          exact absurd (by rw [← inLast]) equal
      obtain ⟨kept, found, inserted⟩ := inductionHypothesis earlier
      exact ⟨kept, by simpa [observe, inserting, equal] using found,
        mem_append_left _ inserted⟩

theorem lookup_collect_eq_some_iff (functional : Functional (visited.filterMap pair)) (key : Key)
    (value : Value) :
    (collect pair visited).lookup key = some value ↔ (key, value) ∈ visited.filterMap pair := by
  refine ⟨mem_of_lookup_collect pair visited key value, fun member => ?_⟩
  obtain ⟨kept, found, keptMember⟩ := exists_lookup_updateAll ∅ pair visited key value member
  have equal : kept = value := functional (key, kept) keptMember (key, value) member rfl
  rw [collect, found, equal]

omit [DecidableEq Key] in
theorem commute_inserting {pairs : List (Key × Value)} (functional : Functional pairs)
    (first : Update Key Value) (left : first ∈ pairs.map inserting) (second : Update Key Value)
    (right : second ∈ pairs.map inserting) : Commute first second := by
  obtain ⟨firstPair, firstMember, rfl⟩ := mem_map.mp left
  obtain ⟨secondPair, secondMember, rfl⟩ := mem_map.mp right
  intro sameKey found
  exact (functional firstPair firstMember secondPair secondMember sameKey).symm

/-- A loop of insertions leaves the same contents in every order exactly when it inserts no key with
two different values. -/
theorem collect_orderIndependent_iff :
    (∀ reordered : List Visited, reordered.Perm visited →
        Same (collect pair reordered) (collect pair visited)) ↔
      Functional (visited.filterMap pair) := by
  constructor
  · intro independent first firstMember second secondMember sameKey
    -- visit the element that makes a given pair last: its value is the one that is left
    have decided : ∀ inserted ∈ visited.filterMap pair,
        (collect pair visited).lookup inserted.1 = some inserted.2 := by
      intro inserted member
      obtain ⟨element, elementMember, made⟩ := mem_filterMap.mp member
      obtain ⟨before, after, rfl⟩ := append_of_mem elementMember
      have permuted : ((before ++ after) ++ [element]).Perm (before ++ element :: after) := by
        rw [append_assoc]
        exact List.Perm.append_left before (perm_append_singleton ..)
      rw [← independent _ permuted inserted.1]
      exact lookup_collect_last pair (before ++ after) element inserted made
    have left := decided first firstMember
    have right := decided second secondMember
    rw [sameKey, right] at left
    exact (Option.some.inj left).symm
  · intro functional reordered permuted
    have permutedPairs : (insertions ..).Perm (insertions ..) :=
      (permuted.filterMap pair).map inserting
    exact (updateAll_perm ∅ permutedPairs.symm (commute_inserting functional)).symm

end

end HashMap

end Kepler
