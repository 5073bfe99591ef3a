/-
This file says what the search values of a query match.

A value with wildcards is a glob, and a value without them is looked for in a text. Both become a
pattern of the SQL operator `LIKE`, which has other wildcards: those that stand in the value are
escaped. The pattern matches what the value means.
-/

import Kepler.QueryDsl
import Kepler.Library.Result
import Mathlib.Data.List.Infix

namespace Kepler.Query

/-- `LIKE` with the escape character `\`: `%` stands for any text, `_` for one character, an escaped
character and every other one for itself. ASCII letters match in either case. -/
def like : List Char → List Char → Bool
  | [], subject => subject.isEmpty
  | '%' :: pattern, subject => subject.tails.any (like pattern)
  | '_' :: pattern, _ :: subject => like pattern subject
  | '\\' :: literal :: pattern, character :: subject =>
    literal.toLower = character.toLower && like pattern subject
  | literal :: pattern, character :: subject =>
    literal ≠ '\\' && literal.toLower = character.toLower && like pattern subject
  | _ :: _, [] => false

def Glob : List Char → List Char → Prop
  | [], subject => subject = []
  | '*' :: value, subject => ∃ left, left <:+ subject ∧ Glob value left
  | '?' :: value, subject => ∃ character left, subject = character :: left ∧ Glob value left
  | literal :: value, subject => ∃ character left, subject = character :: left ∧
      literal.toLower = character.toLower ∧ Glob value left

def Contains (value subject : List Char) : Prop :=
  value.map Char.toLower <:+: subject.map Char.toLower

def Matches (hasWildcards : Bool) (value subject : String) : Prop :=
  if hasWildcards then Glob value.toList subject.toList
  else Contains value.toList subject.toList

/-- A character of a pattern that stands for itself. -/
def escaped (literal : Char) : List Char :=
  if literal ∈ ['\\', '%', '_'] then ['\\', literal] else [literal]

variable {pattern subject : List Char}

theorem like_percent :
    like ('%' :: pattern) subject ↔ ∃ left, left <:+ subject ∧ like pattern left := by
  simp [like]

theorem like_underscore :
    like ('_' :: pattern) subject ↔
      ∃ character left, subject = character :: left ∧ like pattern left := by
  cases subject <;> simp [like]

theorem like_escaped {literal : Char} :
    like (escaped literal ++ pattern) subject ↔ ∃ character left, subject = character :: left ∧
      literal.toLower = character.toLower ∧ like pattern left := by
  unfold escaped
  split
  · cases subject <;> simp [like]
  · next plain =>
    simp only [List.mem_cons, List.not_mem_nil, or_false, not_or] at plain
    cases subject <;> simp [like, plain]

theorem toList_wildcardToLike (value : String) : (wildcardToLike value).toList =
    value.toList.flatMap fun character =>
      if character = '*' then ['%'] else if character = '?' then ['_'] else escaped character := by
  rw [wildcardToLike, String.toList_ofList]
  refine congrArg (List.flatMap · value.toList) (funext fun character => ?_)
  unfold escaped
  split <;> simp_all

theorem like_wildcardToLike (value : String) (subject : List Char) :
    like (wildcardToLike value).toList subject ↔ Glob value.toList subject := by
  rw [toList_wildcardToLike]
  generalize value.toList = value
  induction value generalizing subject with
  | nil => cases subject <;> simp [like, Glob]
  | cons first rest inductionHypothesis =>
    rw [List.flatMap_cons]
    split_ifs with isStar isQuestion
    · subst isStar
      simp [like_percent, Glob, inductionHypothesis]
    · subst isQuestion
      simp [like_underscore, Glob, inductionHypothesis]
    · rw [like_escaped, Glob.eq_4 _ _ _ isStar isQuestion]
      simp [inductionHypothesis]

theorem toList_containing (value : String) :
    (containing value).toList = '%' :: (value.toList.flatMap escaped ++ ['%']) := by
  simp only [containing, replaceCharacter, String.toList_append, String.toList_ofList,
    List.flatMap_assoc]
  refine congrArg ('%' :: List.flatMap · value.toList ++ ['%']) (funext fun character => ?_)
  by_cases isBackslash : character = '\\'
  · simp [escaped, isBackslash]
  by_cases isPercent : character = '%'
  · simp [escaped, isPercent]
  by_cases isUnderscore : character = '_' <;>
    simp [escaped, isBackslash, isPercent, isUnderscore]

theorem like_escaped_percent (value subject : List Char) :
    like (value.flatMap escaped ++ ['%']) subject ↔
      value.map Char.toLower <+: subject.map Char.toLower := by
  induction value generalizing subject with
  | nil => simp [like]
  | cons first rest inductionHypothesis =>
    rw [List.flatMap_cons, List.append_assoc, like_escaped]
    simp only [inductionHypothesis]
    cases subject <;> simp [List.cons_prefix_cons]

theorem like_containing (value : String) (subject : List Char) :
    like (containing value).toList subject ↔ Contains value.toList subject := by
  rw [toList_containing, like_percent, Contains, List.infix_iff_prefix_suffix]
  simp only [like_escaped_percent]
  constructor
  · rintro ⟨left, ⟨skipped, rfl⟩, isPrefix⟩
    exact ⟨left.map Char.toLower, isPrefix, skipped.map Char.toLower, by simp⟩
  · rintro ⟨_, isPrefix, skipped, same⟩
    obtain ⟨before, left, rfl, _, rfl⟩ := List.map_eq_append_iff.mp same.symm
    exact ⟨left, List.suffix_append before left, isPrefix⟩

/-- The pattern that a query hands to `LIKE` matches what the search value stands for, for texts and
patterns without NUL (where SQLite ends them) and patterns of at most 100 bytes, the limit that the
daemon sets (`SQLITE_LIMIT_LIKE_PATTERN_LENGTH`). -/
theorem like_generated (dsl : QueryDsl) (value : String) (counter : Nat) :
    (∀ hasWildcards fragment next,
      dsl.exprToSql (.fullText value hasWildcards) counter = .ok (fragment, next) →
      ∃ column pattern, fragment = ⟨likeSql column (counter + 1), [.text pattern]⟩ ∧
        ∀ subject : String, like pattern.toList subject.toList ↔
          Matches hasWildcards value subject) ∧
    ∀ field fragment next,
      dsl.exprToSql (.fieldMatch field value true) counter = .ok (fragment, next) →
      ∃ column pattern, fragment = ⟨likeSql column (counter + 1), [.text pattern]⟩ ∧
        ∀ subject : String, like pattern.toList subject.toList ↔ Matches true value subject := by
  constructor
  · intro hasWildcards fragment next generated
    rw [QueryDsl.exprToSql] at generated
    split at generated
    · cases generated
    · cases generated
      refine ⟨_, _, rfl, fun subject => ?_⟩
      cases hasWildcards with
      | true => exact like_wildcardToLike value subject.toList
      | false => exact like_containing value subject.toList
  · intro field fragment next generated
    obtain ⟨resolved, _, generated⟩ := Result.bind_eq_ok.mp generated
    cases generated
    exact ⟨_, _, rfl, fun subject => like_wildcardToLike value subject.toList⟩

theorem like_generated_of_line :
    Matches true "a_b%*" "A_b% done" ∧ ¬ Matches true "a_b%*" "acb done" := by
  obtain ⟨_, pattern, same, matching⟩ :=
    (like_generated (.build [(Field.text "line").forFullText] none) "a_b%*" 0).1 true _ _ rfl
  obtain rfl : "a\\_b\\%%" = pattern := by
    injection congrArg SqlFragment.params same with text
    exact SqlValue.text.inj text
  exact ⟨(matching _).mp (by decide +kernel),
    fun matched => absurd ((matching _).mpr matched) (by decide +kernel)⟩

end Kepler.Query
