/-
This file takes apart the SQL of a query.

The SQL of an expression is put together from pieces, and only the numbers of the placeholders
depend on where the count starts. A term becomes a test, or two of them when a number may be stored
as a text or as a number. Every test has one placeholder and one value. From the pieces come the
tokens of the text: the placeholders outside of strings, and where the names of fields can stand.
-/

import Kepler.QueryDsl
import Kepler.Library.Result
import Kepler.Library.SqlText

namespace Kepler.Query

open SqlText QueryDsl Result Option Bool

/-! ### Schemas -/

/-- The columns that the SQL of a query can name. A query that needs a missing one is not accepted.
-/
def QueryDsl.columns (dsl : QueryDsl) : List String :=
  dsl.ftsColumn.getD "none" :: dsl.attributesColumn.getD "none" ::
    dsl.fields.entries.map fun entry => entry.2.column

/-- A column is an ASCII name that needs no quotes, and it is no operator. -/
def isColumn (name : String) : Bool :=
  (Piece.word name.toList).Valid && toAsciiLowercase name ∉ ["and", "or", "not"] &&
    name.toList.all fun character => character.toNat < 128

structure Schema extends QueryDsl where
  plain : ∀ column ∈ toQueryDsl.columns, isColumn column

def logQueryDsl : Schema where
  toQueryDsl := QueryDsl.build [.text "service", .text "level",
    ((Field.text "message").withColumn "line").forFullText, .text "hook", .int "timestamp",
    .int "id"] (some "attributes")
  plain := by decide +kernel

/-! ### The pieces of the SQL -/

def keyword (text : String) : Piece := .word text.toList

def castPieces (column : List Piece) : List Piece :=
  keyword "CAST" :: .symbol '(' ::
    (column ++ [.blank, keyword "AS", .blank, keyword "REAL", .symbol ')'])

def likePieces (column : List Piece) : List Piece :=
  column ++ [.blank, keyword "LIKE", .blank, .hole, .blank, keyword "ESCAPE", .blank, .quoted ['\\']]

def comparePieces (op : String) (column : List Piece) : List Piece :=
  column ++ .blank :: (op.toList.map .symbol ++ [.blank, .hole])

def joinPieces (connective : String) (left right : List Piece) : List Piece :=
  .symbol '(' :: (left ++ .blank :: keyword connective :: .blank :: (right ++ [.symbol ')']))

def notPieces (inner : List Piece) : List Piece :=
  keyword "NOT" :: .blank :: .symbol '(' :: (inner ++ [.symbol ')'])

def pathPieces (column field : String) : List Piece :=
  [keyword "json_extract", .symbol '(', keyword column, .symbol ',', .blank,
    .quoted ("$." ++ field).toList, .symbol ')']

/-- A term becomes its test, or two tests of which one must hold. -/
def termPieces : List (List Piece × SqlValue) → List Piece
  | [test] => test.1
  | [first, second] => joinPieces "OR" first.1 second.1
  | _ => []

namespace QueryDsl

variable (dsl : QueryDsl)

/-- A field of the schema becomes its column, any other a path in the JSON column. -/
def fieldPieces (name : String) : List Piece :=
  match dsl.fields.lookup (toAsciiLowercase name) with
  | some field => [keyword field.column]
  | none => pathPieces (dsl.attributesColumn.getD "none") name

def castsField (name : String) : Bool :=
  (dsl.fields.lookup (toAsciiLowercase name)).all fun field => field.columnType = .text

def tests : Expr → List (List Piece × SqlValue)
  | .fullText text hasWildcards =>
    [(likePieces [keyword (dsl.ftsColumn.getD "none")],
      .text (if hasWildcards then wildcardToLike text else containing text))]
  | .fieldMatch field value hasWildcards =>
    let equals := comparePieces "=" (dsl.fieldPieces field)
    if hasWildcards then [(likePieces (dsl.fieldPieces field), .text (wildcardToLike value))]
    else match dsl.fields.lookup (toAsciiLowercase field) with
      | some known => [(equals, known.columnType.parameter value)]
      | none => (equals, .text value) ::
          ((finiteNumber value).map fun number => (equals, SqlValue.real number)).toList
  | .comparison field op value =>
    let column := dsl.fieldPieces field
    match finiteNumber value with
    | some number =>
      [(comparePieces op.asSql (if dsl.castsField field then castPieces column else column),
        .real number)]
    | none => [(comparePieces op.asSql column, .text value)]
  | _ => []

def pieces : Expr → List Piece
  | .and left right => joinPieces "AND" (pieces left) (pieces right)
  | .or left right => joinPieces "OR" (pieces left) (pieces right)
  | .not inner => notPieces (pieces inner)
  | term => termPieces (dsl.tests term)

/-- The values of an expression: those of its terms, from left to right. -/
def values : Expr → List SqlValue
  | .and left right | .or left right => values left ++ values right
  | .not inner => values inner
  | term => (dsl.tests term).map Prod.snd

end QueryDsl

/-! ### The text of the pieces -/

theorem template_keyword (text : String) : template [keyword text] = text.toList.map some :=
  List.flatMap_singleton ..

theorem template_joinPieces (connective : String) (left right : List Piece) :
    template (joinPieces connective left right) =
      some '(' :: (template left ++ ((" " ++ connective ++ " ").toList.map some ++
        (template right ++ [some ')']))) := by
  simp [joinPieces, template, keyword, Piece.template]

theorem template_pathPieces (column field : String) : template (pathPieces column field) =
    ("json_extract(" ++ column ++ ", '$." ++ sqlEscape field ++ "')").toList.map some := by
  simp [template, pathPieces, keyword, Piece.template, sqlEscape, replaceCharacter, doubled]

theorem holes_joinPieces (connective : String) (left right : List Piece) :
    holes (joinPieces connective left right) = holes left + holes right := by
  rw [holes, template_joinPieces]
  simp [holes]

theorem render_joinPieces (connective : String) (left right : List Piece) (number : Nat) :
    String.ofList (render number (joinPieces connective left right)) =
      "(" ++ String.ofList (render number left) ++ (" " ++ connective ++ " ") ++
        String.ofList (render (number + holes left) right) ++ ")" := by
  rw [render, template_joinPieces, fill, fill_append, fill_map_some, fill_append]
  refine String.toList_inj.mp ?_
  simp [render, holes, fill]

theorem template_notPieces (inner : List Piece) :
    template (notPieces inner) = "NOT (".toList.map some ++ (template inner ++ [some ')']) := by
  simp [notPieces, template, keyword, Piece.template]

theorem holes_notPieces (inner : List Piece) : holes (notPieces inner) = holes inner := by
  rw [holes, template_notPieces]
  simp [holes]

theorem render_notPieces (inner : List Piece) (number : Nat) :
    String.ofList (render number (notPieces inner)) =
      "NOT (" ++ String.ofList (render number inner) ++ ")" := by
  rw [render, template_notPieces, fill_map_some, fill_append]
  refine String.toList_inj.mp ?_
  simp [render, fill]

section

variable {column : List Piece} {text : String}
  (written : template column = text.toList.map some)

include written

theorem template_castPieces :
    template (castPieces column) = ("CAST(" ++ text ++ " AS REAL)").toList.map some := by
  simp [castPieces, template, keyword, Piece.template, ← written]

theorem template_likePieces : template (likePieces column) =
    (text ++ " LIKE ").toList.map some ++ none :: " ESCAPE '\\'".toList.map some := by
  rw [likePieces, template_append, written]
  simp [template, keyword, Piece.template, doubled]

theorem holes_likePieces : holes (likePieces column) = 1 := by
  rw [holes, template_likePieces written]
  simp

theorem render_likePieces (number : Nat) :
    String.ofList (render number (likePieces column)) = likeSql text (number + 1) := by
  rw [render, template_likePieces written, fill_map_some]
  refine String.toList_inj.mp ?_
  simp [likeSql, fill, digits]

theorem template_comparePieces (op : String) : template (comparePieces op column) =
    (text ++ " " ++ op ++ " ").toList.map some ++ [none] := by
  rw [comparePieces, template_append, written]
  simp [template, Piece.template, List.flatMap_map]
  exact (List.map_eq_flatMap ..).symm

theorem holes_comparePieces (op : String) : holes (comparePieces op column) = 1 := by
  rw [holes, template_comparePieces written]
  simp

theorem render_comparePieces (op : String) (number : Nat) :
    String.ofList (render number (comparePieces op column)) = compareSql text op (number + 1) := by
  rw [render, template_comparePieces written, fill_map_some]
  refine String.toList_inj.mp ?_
  simp [compareSql, fill, digits]

end

namespace QueryDsl

variable {dsl : QueryDsl} {resolved : ResolvedField}

theorem resolveField_eq_ok {name : String} (resolves : dsl.resolveField name = .ok resolved) :
    (∃ field, dsl.fields.lookup (toAsciiLowercase name) = some field ∧
      resolved = .known field.column field.columnType) ∨
    (dsl.fields.lookup (toAsciiLowercase name) = none ∧ ∃ column,
      dsl.attributesColumn = some column ∧
      resolved = .json ("json_extract(" ++ column ++ ", '$." ++ sqlEscape name ++ "')")) := by
  unfold resolveField at resolves
  split at resolves
  · rename_i field found
    cases resolves
    exact .inl ⟨field, found, rfl⟩
  · rename_i missing
    split at resolves
    · rename_i column attributes
      cases resolves
      exact .inr ⟨missing, column, attributes, rfl⟩
    · cases resolves

theorem template_fieldPieces {name : String} (resolves : dsl.resolveField name = .ok resolved) :
    template (dsl.fieldPieces name) = resolved.column.toList.map some := by
  obtain ⟨field, found, rfl⟩ | ⟨missing, column, attributes, rfl⟩ := resolveField_eq_ok resolves
  · rw [fieldPieces, found]
    exact template_keyword field.column
  · rw [fieldPieces, missing, attributes]
    exact template_pathPieces ..

theorem exprToSql_of_ok {expr : Expr} {start : Nat} {result : SqlFragment × Nat}
    (accepted : dsl.exprToSql expr start = .ok result) (number : Nat) :
    dsl.exprToSql expr number = .ok (⟨String.ofList (render number (dsl.pieces expr)),
      dsl.values expr⟩, number + holes (dsl.pieces expr)) := by
  induction expr generalizing start result number with
  | fullText =>
    unfold exprToSql at accepted ⊢
    cases found : dsl.ftsColumn with
    | none =>
      rw [found] at accepted
      cases accepted
    | some column =>
      have written := template_keyword column
      simp only [pieces, values, tests, termPieces, found, getD_some,
        render_likePieces written, holes_likePieces written, List.map_singleton]
  | fieldMatch field value hasWildcards =>
    obtain ⟨resolved, resolves, _⟩ := bind_eq_ok.mp accepted
    have written := template_fieldPieces resolves
    simp only [exprToSql, resolves, bind, Except.bind, pieces, values, tests, termPieces]
    cases hasWildcards with
    | true =>
      simp only [if_true, render_likePieces written, holes_likePieces written, List.map_singleton]
      rfl
    | false =>
      obtain ⟨known, found, rfl⟩ | ⟨missing, column, _, rfl⟩ := resolveField_eq_ok resolves
      · simp only [found, false_eq_true, if_false, render_comparePieces written,
          holes_comparePieces written, List.map_singleton]
        rfl
      · cases finiteNumber value with
        | none =>
          simp only [missing, false_eq_true, if_false, map_none, toList_none,
            render_comparePieces written, holes_comparePieces written, List.map_singleton]
          rfl
        | some number =>
          simp only [missing, false_eq_true, if_false, map_some, toList_some,
            render_joinPieces, holes_joinPieces, render_comparePieces written,
            holes_comparePieces written]
          rfl
  | comparison field op value =>
    obtain ⟨resolved, resolves, _⟩ := bind_eq_ok.mp accepted
    have written := template_fieldPieces resolves
    have casts : dsl.castsField field = resolved.needsCast := by
      obtain ⟨known, found, rfl⟩ | ⟨missing, column, _, rfl⟩ := resolveField_eq_ok resolves
      · rw [castsField, found]
        rfl
      · rw [castsField, missing]
        rfl
    simp only [exprToSql, resolves, bind, Except.bind, pieces, values, tests, termPieces, casts]
    cases finiteNumber value with
    | none =>
      simp only [render_comparePieces written, holes_comparePieces written, List.map_singleton]
      rfl
    | some number =>
      cases resolved.needsCast with
      | true =>
        have written := template_castPieces written
        simp only [if_true, render_comparePieces written, holes_comparePieces written,
          List.map_singleton]
        rfl
      | false =>
        simp only [false_eq_true, if_false, render_comparePieces written,
          holes_comparePieces written, List.map_singleton]
        rfl
  | and left right leftHypothesis rightHypothesis | or left right leftHypothesis rightHypothesis =>
    obtain ⟨first, leftAccepted, rest⟩ := bind_eq_ok.mp accepted
    obtain ⟨second, rightAccepted, _⟩ := bind_eq_ok.mp rest
    simp only [exprToSql, leftHypothesis leftAccepted number, bind, Except.bind,
      rightHypothesis rightAccepted, pieces, values, render_joinPieces, holes_joinPieces,
      Nat.add_assoc]
    rfl
  | not inner inductionHypothesis =>
    obtain ⟨fragment, innerAccepted, _⟩ := bind_eq_ok.mp accepted
    simp only [exprToSql, inductionHypothesis innerAccepted number, bind, Except.bind, pieces,
      values, render_notPieces, holes_notPieces]
    rfl

end QueryDsl

/-! ### The tests of a term -/

/-- The fields that an expression looks up in the JSON column. -/
def QueryDsl.paths (dsl : QueryDsl) : Expr → List String
  | .fullText _ _ => []
  | .fieldMatch field _ _ | .comparison field _ _ =>
    if dsl.fields.lookup (toAsciiLowercase field) = none then [field] else []
  | .and left right | .or left right => paths dsl left ++ paths dsl right
  | .not inner => paths dsl inner

def Expr.isTerm : Expr → Bool
  | and _ _ | or _ _ | not _ => false
  | _ => true

/-- A column of the schema, a field in the JSON column, or the number in it. -/
inductive Schema.Tested (schema : Schema) : List String → List Piece → Prop where
  | column {name : String} (isColumn : name ∈ schema.columns) : Tested schema [] [keyword name]
  | path (field : String) :
      Tested schema [field] (pathPieces (schema.attributesColumn.getD "none") field)
  | cast {paths : List String} {column : List Piece} (tested : Tested schema paths column) :
      Tested schema paths (castPieces column)

inductive Schema.Test (schema : Schema) (paths : List String) : List Piece → Prop where
  | like {column : List Piece} (tested : schema.Tested paths column) :
      Test schema paths (likePieces column)
  | compare {column : List Piece} (tested : schema.Tested paths column) {op : String}
      (isOp : op ∈ ["=", ">", ">=", "<", "<="]) : Test schema paths (comparePieces op column)

inductive Schema.Tests (schema : Schema) (paths : List String) :
    List (List Piece × SqlValue) → Prop where
  | one {pieces : List Piece} (test : schema.Test paths pieces) (value : SqlValue) :
      Tests schema paths [(pieces, value)]
  | two {first second : List Piece} (test : schema.Test paths first)
      (other : schema.Test paths second) (value otherValue : SqlValue) :
      Tests schema paths [(first, value), (second, otherValue)]

namespace Schema

variable (schema : Schema)

theorem tested_fieldPieces (field : String) : schema.Tested
    (if schema.fields.lookup (toAsciiLowercase field) = none then [field] else [])
    (schema.fieldPieces field) := by
  unfold fieldPieces
  cases found : schema.fields.lookup (toAsciiLowercase field) with
  | none => exact .path field
  | some known =>
    refine .column (List.mem_cons_of_mem _ (List.mem_cons_of_mem _ ?_))
    exact List.mem_map.mpr ⟨_, AList.mem_lookup_iff.mp found, rfl⟩

theorem tests_term {term : Expr} (isTerm : term.isTerm) :
    schema.Tests (schema.paths term) (schema.tests term) := by
  cases term with
  | fullText => exact .one (.like (.column List.mem_cons_self)) _
  | fieldMatch field value =>
    have tested := schema.tested_fieldPieces field
    have equals := Test.compare tested (List.mem_cons_self : "=" ∈ _)
    rw [tests]
    split
    · exact .one (.like tested) _
    · split
      · exact .one equals _
      · cases finiteNumber value with
        | none => exact .one equals _
        | some number => exact .two equals equals _ _
  | comparison field op value =>
    have tested := schema.tested_fieldPieces field
    have isOp : op.asSql ∈ ["=", ">", ">=", "<", "<="] := by cases op <;> decide
    rw [tests]
    split
    · split
      · exact .one (.compare (.cast tested) isOp) _
      · exact .one (.compare tested isOp) _
    · exact .one (.compare tested isOp) _
  | _ => cases isTerm

end Schema

/-! ### The tokens of the SQL -/

section

variable {left right : List Piece}

theorem sound_castPieces (sound : Sound left) : Sound (castPieces left) :=
  (show Sound [keyword "CAST"] by decide).join (sound.join (by decide) rfl rfl) rfl rfl

theorem sound_likePieces (sound : Sound left) : Sound (likePieces left) :=
  sound.join (by decide) rfl rfl

theorem sound_comparePieces {op : String} (isOp : op ∈ ["=", ">", ">=", "<", "<="])
    (sound : Sound left) : Sound (comparePieces op left) := by
  have rest : ∀ op ∈ ["=", ">", ">=", "<", "<="],
      Sound (op.toList.map Piece.symbol ++ [.blank, .hole]) := by decide
  exact sound.join (rest op isOp) rfl rfl

theorem sound_joinPieces {connective : String} (isName : (keyword connective).Valid)
    (first : Sound left) (second : Sound right) : Sound (joinPieces connective left right) := by
  have none : Sound [] := by decide
  exact none.join (first.join ((sound_singleton isName).join (second.join none rfl rfl) rfl rfl)
    rfl rfl) rfl rfl

theorem sound_notPieces (sound : Sound left) : Sound (notPieces left) := by
  have none : Sound [] := by decide
  exact (show Sound [keyword "NOT", .blank] by decide).join (sound.join none rfl rfl) rfl rfl

end

variable {column : List Piece} {pieces : List Piece}

namespace Schema

variable {schema : Schema} {paths : List String}

theorem Tested.sound (tested : schema.Tested paths column) : Sound column := by
  have none : Sound [] := by decide
  have keywords : ∀ name ∈ schema.columns, Sound [keyword name] := fun name isColumn =>
    sound_singleton (and_eq_true_iff.mp (and_eq_true_iff.mp
      (schema.plain name isColumn)).1).1
  induction tested with
  | column isColumn => exact keywords _ isColumn
  | path field =>
    have path := sound_singleton (rfl : (Piece.quoted ("$." ++ field).toList).Valid)
    have name := keywords _ (List.mem_cons_of_mem _ List.mem_cons_self)
    exact (show Sound [keyword "json_extract"] by decide).join
      (name.join (none.join (path.join none rfl rfl) rfl rfl) rfl rfl) rfl rfl
  | cast _ inductionHypothesis => exact sound_castPieces inductionHypothesis

theorem Test.sound (test : schema.Test paths pieces) : Sound pieces := by
  cases test with
  | like tested => exact sound_likePieces tested.sound
  | compare tested isOp => exact sound_comparePieces isOp tested.sound

/-- What holds for the terms, and for what is made of conditions for which it holds, holds for the
SQL of every expression. -/
theorem pieces_induction {property : Expr → List Piece → Prop}
    (terms : ∀ term : Expr, term.isTerm → schema.Tests (schema.paths term) (schema.tests term) →
      property term (termPieces (schema.tests term)))
    (joins : ∀ left right, property left (schema.pieces left) → property right (schema.pieces right) →
      property (.and left right) (joinPieces "AND" (schema.pieces left) (schema.pieces right)) ∧
      property (.or left right) (joinPieces "OR" (schema.pieces left) (schema.pieces right)))
    (negates : ∀ inner, property inner (schema.pieces inner) →
      property (.not inner) (notPieces (schema.pieces inner))) (expr : Expr) :
    property expr (schema.pieces expr) := by
  induction expr with
  | and left right leftHypothesis rightHypothesis =>
    exact (joins left right leftHypothesis rightHypothesis).1
  | or left right leftHypothesis rightHypothesis =>
    exact (joins left right leftHypothesis rightHypothesis).2
  | not inner inductionHypothesis => exact negates inner inductionHypothesis
  | _ => exact terms _ rfl (schema.tests_term rfl)

theorem sound_pieces : ∀ expr, Sound (schema.pieces expr) := by
  refine @pieces_induction schema (fun _ pieces => Sound pieces) (fun term _ tests => ?_)
    (fun left right first second =>
      ⟨sound_joinPieces rfl first second, sound_joinPieces rfl first second⟩) fun _ => sound_notPieces
  generalize schema.tests term = found at tests
  cases tests with
  | one test _ => exact test.sound
  | two test other _ _ => exact sound_joinPieces rfl test.sound other.sound

theorem Tested.template_eq (tested : schema.Tested paths column) :
    ∃ text : String, template column = text.toList.map some := by
  induction tested with
  | column => exact ⟨_, template_keyword _⟩
  | path field => exact ⟨_, template_pathPieces _ _⟩
  | cast _ inductionHypothesis =>
    obtain ⟨text, written⟩ := inductionHypothesis
    exact ⟨_, template_castPieces written⟩

theorem Test.holes_eq_one (test : schema.Test paths pieces) : holes pieces = 1 := by
  cases test with
  | like tested =>
    obtain ⟨text, written⟩ := tested.template_eq
    exact holes_likePieces written
  | compare tested isOp =>
    obtain ⟨text, written⟩ := tested.template_eq
    exact holes_comparePieces written _

theorem holes_pieces : ∀ expr, holes (schema.pieces expr) = (schema.values expr).length ∧
    0 < (schema.values expr).length := by
  refine @pieces_induction schema (fun expr pieces => holes pieces = (schema.values expr).length ∧
    0 < (schema.values expr).length) (fun term isTerm tests => ?_)
    (fun left right first second => ?_) fun inner sameInner => ?_
  · have values : schema.values term = (schema.tests term).map Prod.snd := by
      cases term <;> first | rfl | cases isTerm
    rw [values]
    generalize schema.tests term = found at tests
    cases tests with
    | one test _ => exact ⟨test.holes_eq_one, Nat.one_pos⟩
    | two test other _ _ =>
      rw [termPieces, holes_joinPieces, test.holes_eq_one, other.holes_eq_one]
      exact ⟨rfl, Nat.two_pos⟩
  · simp only [holes_joinPieces, values, List.length_append]
    omega
  · rwa [holes_notPieces]

end Schema

/-! ### Accepted queries -/

theorem parse_eq_ok {dsl : QueryDsl} {input : String} {offset : Nat} {fragment : SqlFragment}
    (accepted : dsl.parse input offset = .ok fragment) :
    ∃ tree, parseQuery input = .ok tree ∧
      fragment = ⟨String.ofList (render offset (dsl.pieces tree)), dsl.values tree⟩ ∧
      ∀ number, dsl.parse input number =
        .ok ⟨String.ofList (render number (dsl.pieces tree)), dsl.values tree⟩ := by
  obtain ⟨tree, parsed, rest⟩ := bind_eq_ok.mp accepted
  obtain ⟨result, translated, _⟩ := bind_eq_ok.mp rest
  have always : ∀ number, dsl.parse input number =
      .ok ⟨String.ofList (render number (dsl.pieces tree)), dsl.values tree⟩ := fun number => by
    rw [parse, parsed]
    simp only [bind, Except.bind, exprToSql_of_ok translated number]
    rfl
  exact ⟨tree, parsed, Except.ok.inj (accepted.symm.trans (always offset)), always⟩

/-- The SQL of a query has one placeholder for each of its values, numbered from left to right, and
the values are those of its terms. -/
theorem placeholders_numbered (schema : Schema) {input : String} {offset : Nat}
    {fragment : SqlFragment} (accepted : schema.parse input offset = .ok fragment) :
    ∃ tree, parseQuery input = .ok tree ∧
      lex fragment.sql.toList = some (tokensOf offset (schema.pieces tree)) ∧
      (tokensOf offset (schema.pieces tree)).filterMap SqlToken.placeholder? =
        (List.range' (offset + 1) fragment.params.length).map digits ∧
      1 ≤ fragment.params.length ∧ fragment.params = schema.values tree := by
  obtain ⟨tree, parsed, rfl, _⟩ := parse_eq_ok accepted
  obtain ⟨count, positive⟩ := schema.holes_pieces tree
  refine ⟨tree, parsed, ?_, ?_, positive, rfl⟩
  · rw [String.toList_ofList]
    exact lex_render (Schema.sound_pieces tree) offset
  · rw [placeholders_tokensOf, count]

def wordsOf (service word : String) : Expr :=
  .and (.fieldMatch "service" service false) (.fullText word true)

def wordsOfSql (service pattern : String) : SqlFragment :=
  ⟨"(service = ?2 AND line LIKE ?3 ESCAPE '\\')", [.text service, .text pattern]⟩

theorem webErrors_accepted :
    logQueryDsl.parse "@service:web err*" 1 = .ok (wordsOfSql "web" "err%") := by decide +kernel

theorem webErrors_placeholders : ∃ tree, parseQuery "@service:web err*" = .ok tree ∧
    [.text "web", .text "err%"] = logQueryDsl.values tree := by
  obtain ⟨tree, parsed, _, _, _, values⟩ := placeholders_numbered logQueryDsl webErrors_accepted
  exact ⟨tree, parsed, values⟩

/-! ### Names and values -/

/-- The words of the SQL that no query can choose. -/
def fixedWords : List String :=
  ["json_extract", "CAST", "AS", "REAL", "LIKE", "ESCAPE", "AND", "OR", "NOT"]

def fixedSymbols : List Char := ['(', ')', ',', '=', '<', '>']

/-- No word and no symbol comes from the query, and in strings there are only paths. -/
def Schema.AllowsToken (schema : Schema) (paths : List String) : SqlToken → Prop
  | .word text => text ∈ (fixedWords ++ schema.columns).map String.toList
  | .quoted text => text = ['\\'] ∨ ∃ field ∈ paths, text = ("$." ++ field).toList
  | .symbol character => character ∈ fixedSymbols
  | .placeholder _ => True

def Schema.Allows (schema : Schema) (paths : List String) (piece : Piece) : Prop :=
  ∀ number, ∀ token ∈ (piece.reading number).tokens, schema.AllowsToken paths token

namespace Schema

variable {schema : Schema} {paths : List String}

theorem allows_fixed {word : String} (isFixed : word ∈ fixedWords) :
    schema.Allows paths (keyword word) := fun _ => by
  simpa [keyword, Piece.reading, Reading.tokens, AllowsToken] using .inl ⟨word, isFixed, rfl⟩

theorem allows_column {name : String} (isColumn : name ∈ schema.columns) :
    schema.Allows paths (keyword name) := fun _ => by
  simpa [keyword, Piece.reading, Reading.tokens, AllowsToken] using .inr ⟨name, isColumn, rfl⟩

theorem allows_quoted {text : List Char} (allowed : schema.AllowsToken paths (.quoted text)) :
    schema.Allows paths (.quoted text) := fun _ token isToken => by
  cases List.mem_singleton.mp isToken
  exact allowed

theorem allows_symbol {character : Char} (isFixed : character ∈ fixedSymbols) :
    schema.Allows paths (.symbol character) := fun _ token isToken => by
  cases List.mem_singleton.mp isToken
  exact isFixed

theorem allows_hole : schema.Allows paths .hole := fun _ token isToken => by
  cases List.mem_singleton.mp isToken
  trivial

theorem allows_blank : schema.Allows paths .blank := nofun

theorem Allows.mono {more : List String} {piece : Piece} (allowed : schema.Allows paths piece)
    (subset : paths ⊆ more) : schema.Allows more piece := fun number token isToken => by
  have allowedToken := allowed number token isToken
  cases token with
  | quoted text =>
    exact allowedToken.imp_right fun ⟨field, isPath, same⟩ => ⟨field, subset isPath, same⟩
  | _ => exact allowedToken

theorem Tested.allows (tested : schema.Tested paths column) :
    ∀ piece ∈ column, schema.Allows paths piece := by
  induction tested with
  | column isColumn => simpa using allows_column isColumn
  | path field =>
    have path := @allows_quoted schema [field] ("$." ++ field).toList
      (.inr ⟨field, List.mem_cons_self, rfl⟩)
    have column := @allows_column schema [field] (schema.attributesColumn.getD "none")
      (List.mem_cons_of_mem _ List.mem_cons_self)
    simpa (disch := decide) [pathPieces, allows_fixed, allows_blank, allows_symbol] using
      And.intro column path
  | cast _ inductionHypothesis =>
    simpa (disch := decide) [castPieces, or_imp, forall_and, allows_fixed, allows_blank,
      allows_symbol] using inductionHypothesis

theorem Test.allows (test : schema.Test paths pieces) :
    ∀ piece ∈ pieces, schema.Allows paths piece := by
  have escape := @allows_quoted schema paths ['\\'] (.inl rfl)
  cases test with
  | like tested =>
    simpa (disch := decide) [likePieces, or_imp, forall_and, allows_fixed, allows_blank,
      allows_hole, escape] using tested.allows
  | @compare _ tested op isOp =>
    have operator : ∀ character ∈ op.toList, character ∈ fixedSymbols := by
      change op.toList ⊆ fixedSymbols
      revert op
      decide
    simpa +contextual [comparePieces, or_imp, forall_and, allows_blank, allows_symbol, operator,
      allows_hole] using tested.allows

/-- Nothing but the paths in strings comes from the query. -/
theorem allows_pieces : ∀ expr, ∀ piece ∈ schema.pieces expr,
    schema.Allows (schema.paths expr) piece := by
  refine @pieces_induction schema (fun expr pieces =>
    ∀ piece ∈ pieces, schema.Allows (schema.paths expr) piece) (fun term _ tests => ?_)
    (fun left right first second => ?_) fun inner allowed => ?_
  · generalize schema.tests term = found at tests
    cases tests with
    | one test _ => exact test.allows
    | two test other _ _ =>
      simpa (disch := decide) [termPieces, joinPieces, or_imp, forall_and, allows_fixed,
        allows_blank, allows_symbol] using ⟨test.allows, other.allows⟩
  · have fromLeft := fun piece member => (first piece member).mono
      (List.subset_append_left _ (schema.paths right))
    have fromRight := fun piece member => (second piece member).mono
      (List.subset_append_right (schema.paths left) _)
    constructor <;> simpa (disch := decide) [joinPieces, or_imp, forall_and, allows_fixed,
      allows_blank, allows_symbol] using ⟨fromLeft, fromRight⟩
  · simpa (disch := decide) [notPieces, or_imp, forall_and, allows_fixed, allows_blank,
      allows_symbol, paths] using allowed

end Schema

/-- Two expressions that differ only in the texts of their values. -/
def SameShape : Expr → Expr → Prop
  | .fullText _ wildcards, .fullText _ others => wildcards = others
  | .fieldMatch field value wildcards, .fieldMatch other otherValue others =>
    field = other ∧ wildcards = others ∧
      (finiteNumber value).isSome = (finiteNumber otherValue).isSome
  | .comparison field op value, .comparison other otherOp otherValue =>
    field = other ∧ op = otherOp ∧ (finiteNumber value).isSome = (finiteNumber otherValue).isSome
  | .and left right, .and otherLeft otherRight | .or left right, .or otherLeft otherRight =>
    SameShape left otherLeft ∧ SameShape right otherRight
  | .not inner, .not other => SameShape inner other
  | _, _ => False

theorem pieces_eq_of_sameShape {dsl : QueryDsl} {expr other : Expr} (same : SameShape expr other) :
    dsl.pieces expr = dsl.pieces other := by
  induction expr generalizing other with
  | fullText =>
    cases other with
    | fullText => rfl
    | _ => cases same
  | fieldMatch field value =>
    cases other with
    | fieldMatch field otherValue =>
      obtain ⟨rfl, rfl, numeric⟩ := same
      simp only [pieces, tests]
      split
      · rfl
      · split
        · rfl
        · cases number : finiteNumber value <;> cases otherNumber : finiteNumber otherValue <;>
            simp_all [termPieces]
    | _ => cases same
  | comparison field op value =>
    cases other with
    | comparison field op otherValue =>
      obtain ⟨rfl, rfl, numeric⟩ := same
      simp only [pieces, tests]
      cases number : finiteNumber value <;> cases otherNumber : finiteNumber otherValue <;>
        simp_all [termPieces]
    | _ => cases same
  | and left right leftHypothesis rightHypothesis =>
    cases other with
    | and => exact congrArg₂ (joinPieces "AND") (leftHypothesis same.1) (rightHypothesis same.2)
    | _ => cases same
  | or left right leftHypothesis rightHypothesis =>
    cases other with
    | or => exact congrArg₂ (joinPieces "OR") (leftHypothesis same.1) (rightHypothesis same.2)
    | _ => cases same
  | not inner inductionHypothesis =>
    cases other with
    | not => exact congrArg notPieces (inductionHypothesis same)
    | _ => cases same

/-- The values of a query have no part in the text of the SQL, and the names of its fields only as
columns of the schema and in strings of their own. The text has no comment. -/
theorem values_and_names_confined (schema : Schema) {input : String} {offset : Nat}
    {fragment : SqlFragment} {tree : Expr} (parsed : parseQuery input = .ok tree)
    (accepted : schema.parse input offset = .ok fragment) :
    (∀ {other : String} {otherFragment : SqlFragment} {otherTree : Expr},
      parseQuery other = .ok otherTree → schema.parse other offset = .ok otherFragment →
      SameShape tree otherTree → otherFragment.sql = fragment.sql) ∧
    ∃ tokens, lex fragment.sql.toList = some tokens ∧
      ∀ token ∈ tokens, schema.AllowsToken (schema.paths tree) token := by
  obtain ⟨sameTree, sameParsed, rfl, _⟩ := parse_eq_ok accepted
  cases parsed.symm.trans sameParsed
  refine ⟨fun otherParsed otherAccepted same => ?_, tokensOf offset (schema.pieces tree), ?_,
    fun token member => ?_⟩
  · obtain ⟨sameTree, sameParsed, rfl, _⟩ := parse_eq_ok otherAccepted
    cases otherParsed.symm.trans sameParsed
    rw [pieces_eq_of_sameShape same]
  · rw [String.toList_ofList]
    exact lex_render (Schema.sound_pieces tree) offset
  · obtain ⟨piece, isPiece, number, isToken⟩ := mem_tokensOf member
    exact Schema.allows_pieces tree piece isPiece number token isToken

theorem webErrors_confined :
    (wordsOfSql "api" "warn%").sql = (wordsOfSql "web" "err%").sql ∧
      ∃ tokens, lex (wordsOfSql "web" "err%").sql.toList = some tokens ∧
        ∀ token ∈ tokens, logQueryDsl.AllowsToken [] token := by
  have parsed : parseQuery "@service:web err*" = .ok (wordsOf "web" "err*") := by decide +kernel
  have otherParsed : parseQuery "@service:api warn*" = .ok (wordsOf "api" "warn*") := by
    decide +kernel
  have otherAccepted : logQueryDsl.parse "@service:api warn*" 1 =
      .ok (wordsOfSql "api" "warn%") := by decide +kernel
  have same : SameShape (wordsOf "web" "err*") (wordsOf "api" "warn*") :=
    ⟨⟨rfl, rfl, by decide +kernel⟩, rfl⟩
  obtain ⟨sameText, names⟩ := values_and_names_confined logQueryDsl parsed webErrors_accepted
  exact ⟨sameText otherParsed otherAccepted same, names⟩

end Kepler.Query
