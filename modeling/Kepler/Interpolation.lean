/-
This file models how expressions in the strings of a config are found and replaced: the scanner of
`expand.rs` and the interpolation of its tokens.

In every round the scanner looks for the next opening marker and for the closing marker behind it.
When there is none, the opening marker is text, but the scanner emits once more what it has already
emitted before the marker. What a string should evaluate to is said without the scanner, by a
reading of its complete expressions.
-/

import Kepler.Library.Text
import Mathlib.Algebra.BigOperators.Group.List.Basic
import Mathlib.Data.List.Infix

namespace Kepler.Interpolation

/-! ### Scanning -/

def find (marker : List Char) : List Char → Option (List Char × List Char)
  | [] => none
  | first :: rest =>
    if marker <+: first :: rest then some ([], (first :: rest).drop marker.length)
    else (find marker rest).map fun (before, after) => (first :: before, after)

theorem find_eq_some {marker text before after : List Char}
    (found : find marker text = some (before, after)) : text = before ++ marker ++ after := by
  induction text generalizing before with
  | nil => cases found
  | cons first rest inductionHypothesis =>
    rw [find] at found
    split at found
    · next isPrefix =>
      cases found
      obtain ⟨after, same⟩ := isPrefix
      simp [← same]
    · obtain ⟨⟨before, after⟩, found, same⟩ := Option.map_eq_some_iff.mp found
      cases same
      rw [inductionHypothesis found]
      rfl

def opening : List Char := ['$', '{', '{']

def closing : List Char := ['}', '}', '$']

inductive ExprToken where
  | string (text : List Char)
  | expression (text : String)

/-- What a round of `parse_expr_tokens` finds: an expression or an unclosed opening marker with the
text before it, or the text that is left. -/
inductive Round where
  | complete (before inside : List Char)
  | opened (before : List Char)
  | trailing (text : List Char)

def rounds (text : List Char) : List Round :=
  match _opens : find opening text with
  | none => [.trailing text]
  | some (before, after) =>
    match _closes : find closing after with
    | some (inside, rest) => .complete before inside :: rounds rest
    | none => .opened before :: rounds after
termination_by text.length
decreasing_by
  · simp [find_eq_some _opens, find_eq_some _closes, opening]
    omega
  · simp [find_eq_some _opens, opening]
    omega

def literal (text : List Char) : List ExprToken := if text = [] then [] else [.string text]

namespace Round

def tokens : Round → List ExprToken
  | complete before inside =>
    literal before ++ [.expression (Text.trim (String.ofList inside))]
  | opened before => literal before ++ [.string (before ++ opening)]
  | trailing text => literal text

/-- The part that the round covers, with a complete expression replaced by its result. -/
def replaced (results : String → String) : Round → List Char
  | complete before inside => before ++ (results (Text.trim (String.ofList inside))).toList
  | opened before => before ++ opening
  | trailing text => text

def repeated : Round → List Char
  | opened before => before
  | _ => []

end Round

def parseExprTokens (text : String) : List ExprToken := (rounds text.toList).flatMap Round.tokens

def evaluateTokensToString (evaluate : String → Except String String) (text : String) :
    Except String (List Char) :=
  (parseExprTokens text).foldlM (fun result token => match token with
    | .string text => .ok (result ++ text)
    | .expression expr =>
      match evaluate expr with
      | .ok value => .ok (result ++ value.toList)
      | .error e => .error ("Error evaluating $\x7b\x7b " ++ expr ++ " \x7d\x7d$: " ++ e)) []

/-! ### Complete expressions -/

/-- The marker between the two texts is the first one. -/
def IsFirst (marker before after : List Char) : Prop :=
  ∀ earlier later, before ++ marker ++ after = earlier ++ marker ++ later →
    before.length ≤ earlier.length

/-- A closing marker stands somewhere behind an opening one. -/
def HasExpression (text : List Char) : Prop :=
  ∃ before inside rest, text = before ++ opening ++ inside ++ closing ++ rest

/-- A string, what it gives up to its last complete expression, and the text behind that. An
expression goes from the first opening marker to the next closing one. -/
inductive Reading (results : String → String) : List Char → List Char → List Char → Prop
  | rest {text : List Char} (incomplete : ¬ HasExpression text) : Reading results text [] text
  | expression {before inside after value tail : List Char}
      (opens : IsFirst opening before (inside ++ closing ++ after))
      (closes : IsFirst closing inside after) (later : Reading results after value tail) :
      Reading results (before ++ opening ++ (inside ++ closing ++ after))
        (before ++ (results (Text.trim (String.ofList inside))).toList ++ value) tail

/-- Only markers stand before the markers in the text. -/
def MarkersLead (text : List Char) : Prop :=
  ∃ count plain, text = (List.replicate count opening).flatten ++ plain ∧ ¬ opening <:+: plain

variable {marker text before after : List Char}

theorem isFirst_of_find (found : find marker text = some (before, after)) :
    IsFirst marker before after := by
  rintro earlier later same
  rw [← find_eq_some found] at same
  induction text generalizing before earlier with
  | nil => cases found
  | cons first rest inductionHypothesis =>
    rw [find] at found
    split at found
    · cases found
      exact Nat.zero_le _
    · next notPrefix =>
      obtain ⟨⟨before, after⟩, found, equal⟩ := Option.map_eq_some_iff.mp found
      cases equal
      cases earlier with
      | nil => exact absurd ⟨later, same.symm⟩ notPrefix
      | cons character earlier =>
        exact Nat.succ_le_succ (inductionHypothesis found earlier (List.cons.inj same).2)

theorem not_infix_of_find (nonempty : marker ≠ []) (found : find marker text = none) :
    ¬ marker <:+: text := by
  induction text with
  | nil => simpa using nonempty
  | cons first rest inductionHypothesis =>
    rw [find] at found
    split at found
    · cases found
    · next notPrefix =>
      rw [List.infix_cons_iff, not_or]
      exact ⟨notPrefix, inductionHypothesis (Option.map_eq_none_iff.mp found)⟩

theorem find_of_isFirst (nonempty : marker ≠ []) (first : IsFirst marker before after) :
    find marker (before ++ marker ++ after) = some (before, after) := by
  cases found : find marker (before ++ marker ++ after) with
  | none => exact absurd ⟨before, after, rfl⟩ (not_infix_of_find nonempty found)
  | some parts =>
    have same := find_eq_some found
    have lengths := (first _ _ same).antisymm (isFirst_of_find found _ _ same.symm)
    rw [List.append_assoc, List.append_assoc] at same
    obtain ⟨sameBefore, rest⟩ := List.append_inj same lengths
    rw [sameBefore, List.append_cancel_left rest]

theorem rounds_expression {inside : List Char}
    (opens : IsFirst opening before (inside ++ closing ++ after))
    (closes : IsFirst closing inside after) :
    rounds (before ++ opening ++ (inside ++ closing ++ after)) =
      .complete before inside :: rounds after := by
  have opening := find_of_isFirst (by decide) opens
  have closing := find_of_isFirst (by decide) closes
  rw [rounds.eq_def]
  split
  · next none => cases opening.symm.trans none
  · next found =>
    cases opening.symm.trans found
    split
    · next ended => cases closing.symm.trans ended; rfl
    · next none => cases closing.symm.trans none

theorem not_hasExpression_of_find (opens : find opening text = some (before, after))
    (closes : find closing after = none) : ¬ HasExpression text := by
  rintro ⟨earlier, inside, rest, rfl⟩
  have same := find_eq_some opens
  have first := isFirst_of_find opens earlier (inside ++ closing ++ rest)
    (by rw [← same]; simp only [List.append_assoc])
  have lengths := congrArg List.length same
  simp only [List.length_append] at lengths
  have behind : inside ++ closing ++ rest <:+ after :=
    List.suffix_of_suffix_length_le ⟨earlier ++ opening, by simp only [List.append_assoc]⟩
      ⟨before ++ opening, same.symm⟩ (by simp only [List.length_append]; omega)
  exact not_infix_of_find (by decide) closes (.trans ⟨inside, rest, rfl⟩ behind.isInfix)

theorem exists_reading (results : String → String) (text : List Char) :
    ∃ value tail, Reading results text value tail := by
  fun_induction rounds text with
  | case1 text opens =>
    refine ⟨[], text, .rest ?_⟩
    rintro ⟨before, inside, rest, rfl⟩
    exact not_infix_of_find (by decide) opens ⟨before, inside ++ closing ++ rest, by simp⟩
  | case2 text before after opens inside rest closes inductionHypothesis =>
    obtain ⟨value, tail, later⟩ := inductionHypothesis
    have first := isFirst_of_find opens
    rw [find_eq_some opens]
    rw [find_eq_some closes] at first ⊢
    exact ⟨_, tail, .expression first (isFirst_of_find closes) later⟩
  | case3 text before after opens closes =>
    exact ⟨[], text, .rest (not_hasExpression_of_find opens closes)⟩

/-! ### What the interpolation gives -/

def ExprToken.value (results : String → String) : ExprToken → List Char
  | string text => text
  | expression text => (results text).toList

variable {results : String → String}

theorem flatMap_value_literal (text : List Char) :
    (literal text).flatMap (ExprToken.value results) = text := by
  unfold literal
  split
  · next empty => rw [empty, List.flatMap_nil]
  · exact List.append_nil text

theorem flatMap_value_tokens (round : Round) :
    round.tokens.flatMap (ExprToken.value results) = round.repeated ++ round.replaced results := by
  cases round with
  | complete | opened =>
    rw [Round.tokens, List.flatMap_append, flatMap_value_literal, List.flatMap_singleton]
    rfl
  | trailing text => exact flatMap_value_literal text

theorem evaluateTokensToString_eq (text : String) :
    evaluateTokensToString (fun expr => .ok (results expr)) text =
      .ok ((rounds text.toList).flatMap fun round => round.repeated ++ round.replaced results) := by
  have folded : ∀ (tokens : List ExprToken) (result : List Char), tokens.foldlM
      (fun result token => match token with
        | .string text => .ok (result ++ text)
        | .expression expr => .ok (result ++ (results expr).toList)) result =
      (.ok (result ++ tokens.flatMap (ExprToken.value results)) : Except String _) := by
    intro tokens
    induction tokens with
    | nil => exact fun result => congrArg Except.ok (List.append_nil result).symm
    | cons token rest inductionHypothesis =>
      intro result
      cases token <;> simp [bind, Except.bind, inductionHypothesis, ExprToken.value]
  refine (folded (parseExprTokens text) []).trans (congrArg Except.ok ?_)
  simp only [parseExprTokens, List.flatMap_assoc, flatMap_value_tokens, List.nil_append]

theorem flatMap_append_eq_iff {Item Value : Type} {items : List Item}
    {more parts : Item → List Value} :
    (items.flatMap fun item => more item ++ parts item) = items.flatMap parts ↔
      ∀ item ∈ items, more item = [] := by
  constructor
  · intro same
    have lengths := congrArg List.length same
    simp only [List.length_flatMap, List.length_append, List.sum_map_add] at lengths
    have none : (items.map fun item => (more item).length).sum = 0 := by omega
    intro item member
    exact List.eq_nil_of_length_eq_zero
      (List.sum_eq_zero_iff_forall_eq_nat.mp none _ (List.mem_map_of_mem member))
  · intro none
    refine List.flatMap_congr fun item member => ?_
    rw [none item member, List.nil_append]

theorem rounds_rest (incomplete : ¬ HasExpression text) :
    (rounds text).flatMap (Round.replaced results) = text ∧
      ((∀ round ∈ rounds text, round.repeated = []) ↔ MarkersLead text) := by
  fun_induction rounds text with
  | case1 text opens =>
    refine ⟨by simp [Round.replaced], iff_of_true (by simp [Round.repeated]) ?_⟩
    exact ⟨0, text, rfl, not_infix_of_find (by decide) opens⟩
  | case2 text before after opens inside rest closes =>
    refine absurd ⟨before, inside, rest, ?_⟩ incomplete
    rw [find_eq_some opens, find_eq_some closes]
    simp only [List.append_assoc]
  | case3 text before after opens closes inductionHypothesis =>
    obtain ⟨covered, tight⟩ := inductionHypothesis fun ⟨earlier, inside, rest, same⟩ =>
      incomplete ⟨before ++ opening ++ earlier, inside, rest, by
        rw [find_eq_some opens, same]; simp only [List.append_assoc]⟩
    have first := isFirst_of_find opens
    rw [List.flatMap_cons, covered, List.forall_mem_cons, tight, find_eq_some opens]
    refine ⟨rfl, ?_, ?_⟩
    · rintro ⟨empty, count, plain, same, bare⟩
      refine ⟨count + 1, plain, ?_, bare⟩
      rw [show before = [] from empty, same]
      rfl
    · rintro ⟨_ | count, plain, same, bare⟩
      · exact absurd ⟨before, after, same⟩ bare
      · obtain rfl : before = [] :=
          List.eq_nil_of_length_eq_zero (Nat.le_zero.mp (first [] _ same))
        exact ⟨rfl, count, plain, List.append_cancel_left same, bare⟩

/-- Every string has a reading, and it evaluates to its text with every complete expression replaced
by its result exactly if only markers stand before the opening markers behind the last of them. -/
theorem evaluateTokensToString_lossless_iff (results : String → String) (text : String) :
    (∃ value tail, Reading results text.toList value tail) ∧
      ∀ value tail, Reading results text.toList value tail →
        (evaluateTokensToString (fun expr => .ok (results expr)) text = .ok (value ++ tail) ↔
          MarkersLead tail) := by
  refine ⟨exists_reading results _, fun value tail reading => ?_⟩
  rw [evaluateTokensToString_eq, Except.ok.injEq]
  generalize text.toList = characters at reading
  induction reading with
  | rest incomplete =>
    obtain ⟨covered, tight⟩ := @rounds_rest _ results incomplete
    rw [List.nil_append, ← tight, ← flatMap_append_eq_iff, covered]
  | expression opens closes later inductionHypothesis =>
    rw [← inductionHypothesis, rounds_expression opens closes, List.flatMap_cons]
    simp [Round.repeated, Round.replaced]

/-- Without a complete expression, the text before the opening marker appears twice. -/
theorem unclosed_marker_repeats :
    Reading id "abc $\x7b\x7b def".toList [] "abc $\x7b\x7b def".toList ∧
      evaluateTokensToString (fun expr => .ok expr) "abc $\x7b\x7b def" =
        .ok "abc abc $\x7b\x7b def".toList := by
  have last : rounds " def".toList = [.trailing " def".toList] := by
    rw [rounds.eq_def]
    rfl
  have found : rounds "abc $\x7b\x7b def".toList =
      [.opened "abc ".toList, .trailing " def".toList] := by
    rw [rounds.eq_def, ← last]
    rfl
  refine ⟨.rest (not_hasExpression_of_find rfl rfl), (@evaluateTokensToString_eq id _).trans ?_⟩
  rw [found]
  rfl

end Kepler.Interpolation
