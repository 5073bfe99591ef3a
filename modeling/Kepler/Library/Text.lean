/-
This file collects the text operations that a command line or a configuration reader performs:
splitting at a separator, joining, trimming and reading an unsigned decimal number with a width
bound.

All operations work on the characters of a `String`, by structural recursion, so that they can be
evaluated by the kernel.
-/

import Mathlib.Algebra.Group.Int.Defs
import Mathlib.Algebra.Group.Nat.Defs
import Mathlib.Data.List.Basic
import Mathlib.Tactic.SplitIfs

namespace Kepler.Text

open List

/-! ### Splitting and joining -/

def splitOnceChars (separator : Char) : List Char → Option (List Char × List Char)
  | [] => none
  | head :: rest =>
    if head = separator then some ([], rest)
    else (splitOnceChars separator rest).map fun (left, right) => (head :: left, right)

/-- Cut a text at the first separator; `none` when the text has no separator. -/
def splitOnce (separator : Char) (text : String) : Option (String × String) :=
  (splitOnceChars separator text.toList).map fun (left, right) =>
    (String.ofList left, String.ofList right)

def split (separator : Char) (text : String) : List String :=
  (text.toList.splitOn separator).map String.ofList

/-- The parts written one after the other with a separator between them. -/
def join (separator : Char) (parts : List String) : String :=
  String.ofList ([separator].intercalate (parts.map String.toList))

variable (separator : Char)

theorem splitOn_intercalate_flatMap (parts : List (List Char)) (nonempty : parts ≠ []) :
    ([separator].intercalate parts).splitOn separator =
      parts.flatMap fun part => part.splitOn separator := by
  induction parts with
  | nil => exact absurd rfl nonempty
  | cons first rest inductionHypothesis =>
    cases rest with
    | nil => simp
    | cons second others => ?_
    have unfolded : [separator].intercalate (first :: second :: others) =
        first ++ separator :: [separator].intercalate (second :: others) := by
      simp [List.intercalate]
    rw [unfolded, splitOn_append_cons_self, inductionHypothesis (cons_ne_nil _ _)]
    rfl

/-- Splitting a joined list splits every part that holds the separator itself. -/
theorem split_join (parts : List String) (nonempty : parts ≠ []) :
    split separator (join separator parts) = parts.flatMap (split separator) := by
  have mapped : parts.map String.toList ≠ [] := by simpa using nonempty
  rw [split, join, String.toList_ofList, splitOn_intercalate_flatMap _ _ mapped,
    map_flatMap, flatMap_map]
  rfl

theorem not_mem_of_mem_splitOn (characters part : List Char)
    (member : part ∈ characters.splitOn separator) : separator ∉ part := by
  induction characters generalizing part with
  | nil =>
    rw [splitOn_nil, mem_singleton] at member
    rw [member]
    exact not_mem_nil
  | cons head rest inductionHypothesis =>
    rw [splitOn_cons_eq_if_modifyHead] at member
    split_ifs at member with isSeparator
    · rcases mem_cons.mp member with rfl | later
      · exact not_mem_nil
      · exact inductionHypothesis part later
    · obtain ⟨first, others, parts⟩ := exists_cons_of_ne_nil
        (splitOn_ne_nil separator rest)
      rw [parts] at member inductionHypothesis
      rcases mem_cons.mp member with rfl | later
      · have differs : head ≠ separator := by simpa using isSeparator
        have absent := inductionHypothesis first mem_cons_self
        simp [Ne.symm differs, absent]
      · exact inductionHypothesis part (mem_cons_of_mem _ later)

theorem not_mem_of_mem_split {separator : Char} {text part : String}
    (member : part ∈ split separator text) : separator ∉ part.toList := by
  obtain ⟨characters, inParts, rfl⟩ := mem_map.mp member
  rw [String.toList_ofList]
  exact not_mem_of_mem_splitOn separator _ characters inParts

theorem split_join_of_not_mem (parts : List String) (nonempty : parts ≠ [])
    (absent : ∀ part ∈ parts, separator ∉ part.toList) :
    split separator (join separator parts) = parts := by
  have single : ∀ part ∈ parts, split separator part = [part] := by
    intro part member
    rw [split, splitOn_eq_singleton (absent part member)]
    simp
  rw [split_join separator parts nonempty, flatMap_congr single]
  exact flatMap_pure_eq_map id parts |>.trans (map_id parts)

theorem split_append_separator (left right : String) :
    split separator (left ++ String.singleton separator ++ right) =
      split separator left ++ split separator right := by
  have joined : left ++ String.singleton separator ++ right = join separator [left, right] := by
    apply String.toList_inj.mp
    simp [join, List.intercalate]
  rw [joined, split_join separator _ (cons_ne_nil _ _)]
  simp

/-! ### Trimming -/

/-- The characters with the Unicode property `White_Space`. -/
def isWhitespace (character : Char) : Bool :=
  let code := character.toNat
  (9 ≤ code && code ≤ 13) || code == 32 || code == 133 || code == 160 || code == 5760 ||
    (8192 ≤ code && code ≤ 8202) || code == 8232 || code == 8233 || code == 8239 ||
    code == 8287 || code == 12288

def trim (text : String) : String :=
  String.ofList
    (((text.toList.dropWhile isWhitespace).reverse.dropWhile isWhitespace).reverse)

/-! ### Unsigned decimal numbers -/

def decimalFrom : Nat → List Char → Option Nat
  | value, [] => some value
  | value, digit :: rest =>
    if digit.isDigit then decimalFrom (10 * value + (digit.toNat - '0'.toNat)) rest else none

/-- An unsigned decimal number below a bound: an optional plus sign and at least one digit. -/
def parseUnsigned (bound : Nat) (text : String) : Option Nat :=
  let digits := match text.toList with
    | '+' :: rest => rest
    | characters => characters
  if digits = [] then none
  else (decimalFrom 0 digits).filter fun value => value < bound

def parseU32 (text : String) : Option UInt32 :=
  (parseUnsigned UInt32.size text).map UInt32.ofNat

def parseU64 (text : String) : Option UInt64 :=
  (parseUnsigned UInt64.size text).map UInt64.ofNat

def parseI64 (text : String) : Option Int :=
  match text.toList with
  | '-' :: rest =>
    if rest = [] then none
    else ((decimalFrom 0 rest).filter fun value => value ≤ 2 ^ 63).map fun value => -(value : Int)
  | _ => (parseUnsigned (2 ^ 63) text).map Int.ofNat

theorem decimalFrom_digits (digits : List Char) (value : Nat)
    (decimal : ∀ digit ∈ digits, digit.isDigit) :
    decimalFrom value digits = some (Nat.ofDigitChars 10 digits value) := by
  induction digits generalizing value with
  | nil => simp [decimalFrom]
  | cons digit rest inductionHypothesis =>
    have tail : ∀ character ∈ rest, character.isDigit := fun character member =>
      decimal character (mem_cons_of_mem _ member)
    rw [decimalFrom, if_pos (decimal digit mem_cons_self), inductionHypothesis _ tail,
      Nat.ofDigitChars_cons]

theorem isDigit_of_mem_toString {value : Nat} {character : Char}
    (member : character ∈ (toString value).toList) : character.isDigit := by
  rw [Nat.toString_eq_repr, Nat.toList_repr] at member
  exact Nat.isDigit_of_mem_toDigits (by decide) (by decide) member

theorem parseUnsigned_toString (bound value : Nat) (bounded : value < bound) :
    parseUnsigned bound (toString value) = some value := by
  have nonempty : Nat.toDigits 10 value ≠ [] := Nat.toDigits_ne_nil
  have characters : (toString value).toList = Nat.toDigits 10 value := by
    rw [Nat.toString_eq_repr, Nat.toList_repr]
  have decimal : ∀ digit ∈ Nat.toDigits 10 value, digit.isDigit := fun digit member =>
    isDigit_of_mem_toString (by rw [characters]; exact member)
  have number : decimalFrom 0 (Nat.toDigits 10 value) = some value := by
    rw [decimalFrom_digits _ _ decimal, Nat.ofDigitChars_toDigits (by decide) (by decide)]
  -- a printed number starts with a digit, so no plus sign is taken off
  have unsigned : (match Nat.toDigits 10 value with
      | '+' :: rest => rest
      | characters => characters) = Nat.toDigits 10 value := by
    split
    · rename_i rest equal
      have plus : '+'.isDigit := decimal '+' (by rw [equal]; exact mem_cons_self)
      exact absurd plus (by decide)
    · rfl
  simp only [parseUnsigned, characters, unsigned, if_neg nonempty, number]
  simp [bounded]

theorem parseU32_toString (value : UInt32) : parseU32 (toString value) = some value := by
  have printed : toString value = toString value.toNat := rfl
  rw [parseU32, printed, parseUnsigned_toString _ _ (UInt32.toNat_lt value), Option.map_some,
    UInt32.ofNat_toNat]

theorem parseU64_toString (value : UInt64) : parseU64 (toString value) = some value := by
  have printed : toString value = toString value.toNat := rfl
  rw [parseU64, printed, parseUnsigned_toString _ _ (UInt64.toNat_lt value), Option.map_some,
    UInt64.ofNat_toNat]

theorem split_toString (notDigit : separator.isDigit = false) (value : UInt32) :
    split separator (toString value) = [toString value] := by
  have absent : separator ∉ (toString value).toList := by
    intro member
    have digit : separator.isDigit := @isDigit_of_mem_toString value.toNat _ member
    rw [notDigit] at digit
    exact absurd digit (by decide)
  rw [split, splitOn_eq_singleton absent]
  simp

theorem isWhitespace_of_isDigit {character : Char} (digit : character.isDigit) :
    isWhitespace character = false := by
  rw [Char.isDigit, Bool.and_eq_true, decide_eq_true_eq, decide_eq_true_eq] at digit
  have bounds : 48 ≤ character.toNat ∧ character.toNat ≤ 57 :=
    ⟨UInt32.le_iff_toNat_le.mp digit.1, UInt32.le_iff_toNat_le.mp digit.2⟩
  simp only [isWhitespace, Bool.or_eq_false_iff, Bool.and_eq_false_iff, decide_eq_false_iff_not,
    beq_eq_false_iff_ne]
  omega

theorem dropWhile_of_forall {Value : Type} (test : Value → Bool) (values : List Value)
    (none : ∀ value ∈ values, test value = false) : values.dropWhile test = values := by
  cases values with
  | nil => rfl
  | cons head rest => rw [dropWhile_cons_of_neg (by simp [none head mem_cons_self])]

theorem trim_of_forall {text : String}
    (plain : ∀ character ∈ text.toList, isWhitespace character = false) : trim text = text := by
  rw [trim, dropWhile_of_forall _ _ plain, dropWhile_of_forall _ _ (by simpa using plain),
    reverse_reverse, String.ofList_toList]

theorem trim_toString (value : UInt32) : trim (toString value) = toString value :=
  trim_of_forall fun _ member =>
    isWhitespace_of_isDigit (@isDigit_of_mem_toString value.toNat _ member)

end Kepler.Text
