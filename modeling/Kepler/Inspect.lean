/-
This file is about the outputs in the response to `Inspect` (`build_inspect_service` in `main.rs`).

A long value is cut after a fixed number of bytes. A slice of a text panics when it does not end
between two characters. The result says for which stored values the response is built.
-/

import Kepler.HookOutputs
import Mathlib.Algebra.Ring.Nat

namespace Kepler.Inspect

open List Option

def len (characters : List Char) : Nat := (characters.map Char.utf8Size).sum

/-- `&text[..end]`: none when it panics, because no character ends there. -/
def sliceTo (bytes : Nat) (characters : List Char) : Option (List Char) :=
  characters.inits.find? fun kept => len kept = bytes

def maxOutputValueLen : Nat := 512

def truncationMark : String := "... (truncated)"

/-- What `truncate_output_map` does with a value. -/
def truncateValue (value : String) : Option String :=
  if len value.toList > maxOutputValueLen then
    (sliceTo maxOutputValueLen value.toList).map fun kept => String.ofList kept ++ truncationMark
  else some value

def toObject {Value Shown : Type} (convert : Value → Option Shown) (map : HashMap String Value) :
    Option (List (String × Shown)) :=
  map.entries.mapM fun entry => (convert entry.2).map (entry.1, ·)

def truncateOutputMap : Bindings → Option (List (String × String)) := toObject truncateValue

/-- `read_service_outputs`: `process.json` and `outputs.json`, if they can be read. -/
def readServiceOutputs (process resolved : Option Bindings) : Bindings :=
  resolved.getD ∅ ∪ process.getD ∅

structure Outputs where
  process : List (String × String)
  hooks : List (String × List (String × List (String × String)))

/-- The part of `build_inspect_service` that reads the outputs. -/
def inspectOutputs (process resolved : Option Bindings) (hooks : HashMap String StepOutputs) :
    Option Outputs := do
  let process ← truncateOutputMap (readServiceOutputs process resolved)
  let hooks ← toObject (toObject truncateOutputMap) hooks
  return ⟨process, hooks⟩

/-! ### The values that are shown -/

def ShowsValue (value shown : String) : Prop :=
  shown = value ∨ ∃ kept, kept <+: value.toList ∧ shown = String.ofList kept ++ truncationMark

def ShowsMap {Value Shown : Type} (Shows : Value → Shown → Prop) (map : HashMap String Value)
    (object : List (String × Shown)) : Prop :=
  Forall₂ (fun entry shown => entry.1 = shown.1 ∧ Shows entry.2 shown.2) map.entries object

/-- A value is short, or a character ends where it is cut. -/
def CanBeCut (value : String) : Prop :=
  len value.toList ≤ maxOutputValueLen ∨
    ∃ kept, kept <+: value.toList ∧ len kept = maxOutputValueLen

theorem truncateValue_shows_iff (value : String) :
    (∃ shown, truncateValue value = some shown ∧ ShowsValue value shown) ↔ CanBeCut value := by
  unfold truncateValue CanBeCut
  split_ifs with long
  · rw [or_iff_right (Nat.not_le.mpr long)]
    constructor
    · rintro ⟨shown, cut, _⟩
      obtain ⟨kept, slice, _⟩ := map_eq_some_iff.mp cut
      exact ⟨kept, (mem_inits ..).mp (mem_of_find?_eq_some slice), by simpa using find?_some slice⟩
    · rintro ⟨kept, isPrefix, ends⟩
      have found : (sliceTo maxOutputValueLen value.toList).isSome :=
        find?_isSome.mpr ⟨kept, (mem_inits ..).mpr isPrefix, by simpa using ends⟩
      obtain ⟨cut, slice⟩ := isSome_iff_exists.mp found
      have isPrefix : cut <+: value.toList := (mem_inits ..).mp (mem_of_find?_eq_some slice)
      exact ⟨_, by rw [slice]; rfl, .inr ⟨cut, isPrefix, rfl⟩⟩
  · exact iff_of_true ⟨value, rfl, .inl rfl⟩ (.inl (Nat.not_lt.mp long))

theorem toObject_shows_iff {Value Shown : Type} {convert : Value → Option Shown}
    {Shows : Value → Shown → Prop} {Possible : Value → Prop}
    (converts : ∀ value, (∃ shown, convert value = some shown ∧ Shows value shown) ↔ Possible value)
    (map : HashMap String Value) :
    (∃ object, toObject convert map = some object ∧ ShowsMap Shows map object) ↔
      ∀ entry ∈ map.entries, Possible entry.2 := by
  unfold toObject ShowsMap
  induction map.entries with
  | nil => exact iff_of_true ⟨[], rfl, .nil⟩ nofun
  | cons entry rest inductionHypothesis =>
    rw [forall_mem_cons, ← inductionHypothesis, ← converts]
    constructor
    · rintro ⟨object, made, shows⟩
      rw [mapM_cons] at made
      obtain ⟨first, convertsFirst, made⟩ := bind_eq_some_iff.mp made
      obtain ⟨others, madeOthers, same⟩ := bind_eq_some_iff.mp made
      obtain ⟨shown, converted, rfl⟩ := map_eq_some_iff.mp convertsFirst
      cases same
      cases shows with
      | cons first rest => exact ⟨⟨shown, converted, first.2⟩, others, madeOthers, rest⟩
    · rintro ⟨⟨shown, converted, showsFirst⟩, object, made, shows⟩
      refine ⟨(entry.1, shown) :: object, ?_, .cons ⟨rfl, showsFirst⟩ shows⟩
      rw [mapM_cons, converted, made]
      rfl

/-- The response has every value as it should be exactly when all stored values can be cut. -/
theorem inspectOutputs_shows_iff (process resolved : Option Bindings)
    (hooks : HashMap String StepOutputs) :
    (∃ outputs, inspectOutputs process resolved hooks = some outputs ∧
      ShowsMap ShowsValue (readServiceOutputs process resolved) outputs.process ∧
      ShowsMap (ShowsMap (ShowsMap ShowsValue)) hooks outputs.hooks) ↔
    (∀ entry ∈ (readServiceOutputs process resolved).entries, CanBeCut entry.2) ∧
      ∀ hook ∈ hooks.entries, ∀ step ∈ hook.2.entries, ∀ entry ∈ step.2.entries,
        CanBeCut entry.2 := by
  have showsOutputs := toObject_shows_iff truncateValue_shows_iff
  rw [← showsOutputs, ← toObject_shows_iff (toObject_shows_iff showsOutputs)]
  constructor
  · rintro ⟨outputs, built, showsProcess, showsHooks⟩
    obtain ⟨process, ofProcess, built⟩ := bind_eq_some_iff.mp built
    obtain ⟨hooks, ofHooks, same⟩ := bind_eq_some_iff.mp built
    cases same
    exact ⟨⟨process, ofProcess, showsProcess⟩, hooks, ofHooks, showsHooks⟩
  · rintro ⟨⟨process, ofProcess, showsProcess⟩, hooks, ofHooks, showsHooks⟩
    refine ⟨⟨process, hooks⟩, ?_, showsProcess, showsHooks⟩
    rw [inspectOutputs, truncateOutputMap, ofProcess, ofHooks]
    rfl

theorem truncateValue_euros {count : Nat} (long : 170 < count) :
    truncateValue (String.ofList (replicate count '€')) = none := by
  have bytes : ∀ count, len (replicate count '€') = count * 3 := by
    intro count
    rw [len, map_replicate, sum_replicate_nat]
    rfl
  have uncut : sliceTo maxOutputValueLen (replicate count '€') = none := by
    refine find?_eq_none.mpr fun kept member => ?_
    rw [(prefix_replicate_iff.mp ((mem_inits ..).mp member)).2, bytes, decide_eq_true_iff,
      maxOutputValueLen]
    omega
  rw [truncateValue, String.toList_ofList, if_pos (by rw [bytes, maxOutputValueLen]; omega), uncut]
  rfl

/-- Characters of three bytes do not end where the value is cut. -/
theorem inspectOutputs_panics :
    inspectOutputs (some (AList.singleton "price" (String.ofList (replicate 171 '€')))) none ∅ =
      none := by
  have panics := @truncateValue_euros 171 (by decide)
  generalize String.ofList (replicate 171 '€') = value at panics ⊢
  change Option.bind (Option.bind (Option.map _ (truncateValue value)) _) _ = _
  rw [panics]
  rfl

end Kepler.Inspect
