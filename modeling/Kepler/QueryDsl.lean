/-
This file models the query language of `query/dsl.rs`: the tokens of a query, the parser, and the
SQL that is made from a query.

A term searches the text column, or compares a field. The values go into bind parameters. A field of
the schema becomes its column, and any other field is looked up in a JSON column, by a path that
stands in the SQL as a string.

The messages of the errors say what was expected and what was found. The counter of the parameters
starts with the number of parameters that are already bound.
-/

import Kepler.Library.Binary64
import Kepler.Library.HashMap

namespace Kepler.Query

/-! ### Fields and values -/

inductive ColumnType where
  | text
  | int
  | real
  deriving DecidableEq, Repr

structure Field where
  name : String
  column : String
  columnType : ColumnType
  fts : Bool := false
  deriving DecidableEq, Repr

def Field.text (name : String) : Field := { name, column := name, columnType := .text }

def Field.int (name : String) : Field := { name, column := name, columnType := .int }

/-- `alias`. -/
def Field.withColumn (field : Field) (column : String) : Field := { field with column }

/-- `fts`. -/
def Field.forFullText (field : Field) : Field := { field with fts := true }

inductive SqlValue where
  | text (value : String)
  | integer (value : Int)
  | real (value : Binary64)
  deriving DecidableEq, Repr

structure SqlFragment where
  sql : String
  params : List SqlValue := []
  deriving DecidableEq, Repr

structure QueryDsl where
  fields : HashMap String Field
  ftsColumn : Option String
  attributesColumn : Option String

def toAsciiLowercase (text : String) : String := String.ofList (text.toList.map Char.toLower)

def QueryDsl.build (fields : List Field) (attributesColumn : Option String) : QueryDsl where
  fields := fields.foldl (fun map field => map.insert (toAsciiLowercase field.name) field) ∅
  ftsColumn := fields.foldl (fun column field => if field.fts then some field.column else column)
    none
  attributesColumn

/-! ### Tokens -/

inductive Token where
  | word (text : String)
  | quotedString (text : String)
  | colon
  | at
  | leftParen
  | rightParen
  | and
  | or
  | not
  | minus
  | bang
  | gt
  | gte
  | lt
  | lte
  deriving DecidableEq, Repr

/-- What is wrong with a query. The tokens are those that the message shows. -/
inductive QueryError where
  | emptyQuery
  | unterminatedString
  | expected (token : Token) (found : Option Token)
  | unexpectedAt (position : Nat) (token : Token)
  | bareField (word : String)
  | unexpected (token : Token)
  | endOfInput
  | expectedFieldName (found : Option Token)
  | expectedValueAfterMinus (found : Option Token)
  | expectedValue (found : Option Token)
  | unknownField (name : String)
  | fullTextUnsupported
  /-- The parser was given too few steps. -/
  | unfinished
  deriving DecidableEq, Repr

def punctuation : Char → Option Token
  | ':' => some .colon
  | '@' => some .at
  | '(' => some .leftParen
  | ')' => some .rightParen
  | '-' => some .minus
  | '!' => some .bang
  | _ => none

def isBlank (character : Char) : Bool := character ∈ [' ', '\t', '\n', '\r']

def isWordCharacter (character : Char) : Bool :=
  !isBlank character && character ∉ [':', '@', '(', ')', '>', '<', '"', '\'', '!']

/-- The text up to the closing quote, and what follows it. -/
def quotedSpan (quote : Char) : List Char → Option (List Char × List Char)
  | [] => none
  | '\\' :: rest =>
    match rest with
    | [] => none
    | escaped :: rest => (quotedSpan quote rest).map fun (raw, rest) =>
        ('\\' :: escaped :: raw, rest)
  | character :: rest =>
    if character = quote then some ([], rest)
    else (quotedSpan quote rest).map fun (raw, rest) => (character :: raw, rest)

/-- The text of a quoted string without its backslashes. -/
def unescape : List Char → List Char
  | '\\' :: escaped :: rest => escaped :: unescape rest
  | ['\\'] => []
  | character :: rest => character :: unescape rest
  | [] => []

def readQuotedString (quote : Char) (text : List Char) : Except QueryError (Token × List Char) :=
  match quotedSpan quote text with
  | none => .error .unterminatedString
  | some (raw, rest) => .ok (.quotedString (String.ofList (unescape raw)), rest)

/-- The token of a word: an operator in any case, or the word itself. -/
def wordToken (word : String) : Token :=
  if toAsciiLowercase word = "and" then .and
  else if toAsciiLowercase word = "or" then .or
  else if toAsciiLowercase word = "not" then .not
  else .word word

/-- `>` or `<`, and whether `=` follows. -/
def readComparison (strict loose : Token) : List Char → Token × List Char
  | '=' :: rest => (loose, rest)
  | rest => (strict, rest)

/-- The first token of a text that does not begin with white space. -/
def readToken (first : Char) (rest : List Char) : Except QueryError (Token × List Char) :=
  match punctuation first with
  | some token => .ok (token, rest)
  | none =>
    if first = '>' then .ok (readComparison .gt .gte rest)
    else if first = '<' then .ok (readComparison .lt .lte rest)
    else if first = '"' || first = '\'' then readQuotedString first rest
    else .ok (wordToken (String.ofList ((first :: rest).takeWhile isWordCharacter)),
      (first :: rest).dropWhile isWordCharacter)

/-- `tokenize`. Every step takes at least one character. -/
def tokenize : Nat → List Char → Except QueryError (List Token)
  | _, [] => .ok []
  | 0, _ :: _ => .error .unfinished
  | steps + 1, first :: rest =>
    if isBlank first then tokenize steps rest
    else do
      let (token, rest) ← readToken first rest
      let tokens ← tokenize steps rest
      return token :: tokens

/-! ### Expressions -/

inductive CompOp where
  | gt
  | gte
  | lt
  | lte
  deriving DecidableEq, Repr

def CompOp.asSql : CompOp → String
  | gt => ">"
  | gte => ">="
  | lt => "<"
  | lte => "<="

inductive Expr where
  | fullText (text : String) (hasWildcards : Bool)
  | fieldMatch (field value : String) (hasWildcards : Bool)
  | comparison (field : String) (op : CompOp) (value : String)
  | and (left right : Expr)
  | or (left right : Expr)
  | not (inner : Expr)
  deriving DecidableEq, Repr

def hasWildcards (text : String) : Bool := text.toList.contains '*' || text.toList.contains '?'

namespace QueryParser

/-- A parser takes a part of the query from the tokens, and leaves the rest. -/
abbrev Parses (Result : Type) := List Token → Except QueryError (Result × List Token)

def expect (expected : Token) : List Token → Except QueryError (List Token)
  | token :: rest => if token = expected then .ok rest else .error (.expected expected (some token))
  | [] => .error (.expected expected none)

/-- `read_value_with_wildcards`. A quoted value has no wildcards. -/
def readValueWithWildcards : Parses (String × Bool)
  | .minus :: .word word :: rest => .ok (("-" ++ word, hasWildcards ("-" ++ word)), rest)
  | .minus :: .quotedString text :: rest => .ok (("-" ++ text, false), rest)
  | .minus :: rest => .error (.expectedValueAfterMinus rest.head?)
  | .word word :: rest => .ok ((word, hasWildcards word), rest)
  | .quotedString text :: rest => .ok ((text, false), rest)
  | tokens => .error (.expectedValue tokens.head?)

/-- `read_value`: the same, but wildcards are not looked for. -/
def readValue : Parses String := fun tokens => do
  let ((value, _), rest) ← readValueWithWildcards tokens
  return (value, rest)

/-- A comparison operator in front of a value. -/
def comparison? : Token → Option CompOp
  | .gt => some .gt
  | .gte => some .gte
  | .lt => some .lt
  | .lte => some .lte
  | _ => none

def parseFieldValue (field : String) : Parses Expr := fun tokens =>
  match tokens.head?.bind comparison? with
  | some op => do
    let (value, rest) ← readValue tokens.tail
    return (.comparison field op value, rest)
  | none => do
    let ((value, hasWildcards), rest) ← readValueWithWildcards tokens
    return (.fieldMatch field value hasWildcards, rest)

def parseFieldExpr : Parses Expr
  | .word field :: rest => do
    let rest ← expect .colon rest
    parseFieldValue field rest
  | tokens => .error (.expectedFieldName tokens.head?)

def startsTerm : Token → Bool
  | .at | .word _ | .quotedString _ | .leftParen | .not | .minus | .bang => true
  | _ => false

def isNegation : Token → Bool
  | .not | .minus | .bang => true
  | _ => false

/-- A bare word, which must not be meant as a field. -/
def parseWord (word : String) : Parses Expr := fun rest =>
  if rest.head? = some .colon then .error (.bareField word)
  else .ok (.fullText word (hasWildcards word), rest)

/-- `parse_unary`, with the parser for what follows a negation. -/
def parseUnary (parsePrimary : Parses Expr) : Parses Expr
  | token :: rest =>
    if isNegation token then do
      let (inner, rest) ← parsePrimary rest
      return (.not inner, rest)
    else parsePrimary (token :: rest)
  | [] => parsePrimary []

/-- A loop that joins operands as long as another one follows. -/
def joinLoop (operand : List Token → Option (List Token)) (parseOperand : Parses Expr)
    (join : Expr → Expr → Expr) : Nat → Expr → Parses Expr
  | 0, _, _ => .error .unfinished
  | steps + 1, left, tokens =>
    match operand tokens with
    | none => .ok (left, tokens)
    | some rest => do
      let (right, rest) ← parseOperand rest
      joinLoop operand parseOperand join steps (join left right) rest

def parseJoined (operand : List Token → Option (List Token)) (parseOperand : Parses Expr)
    (join : Expr → Expr → Expr) : Parses Expr := fun tokens => do
  let (left, rest) ← parseOperand tokens
  joinLoop operand parseOperand join (rest.length + 1) left rest

/-- What follows an `AND`. Without one, a token that begins a term belongs to the next operand. -/
def afterAnd : List Token → Option (List Token)
  | .and :: rest => some rest
  | token :: rest => if startsTerm token then some (token :: rest) else none
  | [] => none

def afterOr : List Token → Option (List Token)
  | .or :: rest => some rest
  | _ => none

def parseAnd (parsePrimary : Parses Expr) : Parses Expr :=
  parseJoined afterAnd (parseUnary parsePrimary) .and

def parseOr (parsePrimary : Parses Expr) : Parses Expr :=
  parseJoined afterOr (parseAnd parsePrimary) .or

/-- The body of `parse_primary`, with the parser for what stands in parentheses. -/
def parseTerm (parseGroup : Parses Expr) : Parses Expr
  | .leftParen :: rest => do
    let (inner, rest) ← parseGroup rest
    let rest ← expect .rightParen rest
    return (inner, rest)
  | .at :: rest => parseFieldExpr rest
  | .word word :: rest => parseWord word rest
  | .quotedString text :: rest => .ok (.fullText text false, rest)
  | token :: _ => .error (.unexpected token)
  | [] => .error .endOfInput

/-- `parse_primary`. The number limits how deep groups are nested. -/
def parsePrimary : Nat → Parses Expr
  | 0 => fun _ => .error .unfinished
  | depth + 1 => parseTerm (parseOr (parsePrimary depth))

def parse (tokens : List Token) : Except QueryError Expr := do
  let (expr, rest) ← parseOr (parsePrimary (tokens.length + 1)) tokens
  match rest with
  | [] => return expr
  | token :: _ => .error (.unexpectedAt (tokens.length - rest.length) token)

end QueryParser

/-! ### Patterns and parameters -/

def replaceCharacter (old : Char) (new : List Char) (text : String) : String :=
  String.ofList (text.toList.flatMap fun character => if character = old then new else [character])

def sqlEscape (text : String) : String := replaceCharacter '\'' ['\'', '\''] text

def wildcardToLike (text : String) : String :=
  String.ofList (text.toList.flatMap fun character => match character with
    | '*' => ['%']
    | '?' => ['_']
    | '\\' => ['\\', '\\']
    | '%' => ['\\', '%']
    | '_' => ['\\', '_']
    | _ => [character])

def containing (text : String) : String :=
  let escaped := replaceCharacter '_' ['\\', '_'] (replaceCharacter '%' ['\\', '%']
    (replaceCharacter '\\' ['\\', '\\'] text))
  "%" ++ escaped ++ "%"

def finiteNumber (value : String) : Option Binary64 :=
  (Binary64.parse value).filter Binary64.isFinite

def ColumnType.parameter (value : String) : ColumnType → SqlValue
  | text => .text value
  | int => ((Text.parseI64 value).map SqlValue.integer).getD (.text value)
  | real => ((finiteNumber value).map SqlValue.real).getD (.text value)

/-! ### SQL -/

inductive ResolvedField where
  | known (column : String) (columnType : ColumnType)
  | json (expr : String)
  deriving DecidableEq, Repr

/-- `resolved_col`. -/
def ResolvedField.column : ResolvedField → String
  | known column _ => column
  | json expr => expr

/-- Whether a number is compared with text. -/
def ResolvedField.needsCast : ResolvedField → Bool
  | known _ columnType => columnType = .text
  | json _ => true

def likeSql (column : String) (index : Nat) : String :=
  column ++ " LIKE ?" ++ toString index ++ " ESCAPE '\\'"

def compareSql (column op : String) (index : Nat) : String :=
  column ++ " " ++ op ++ " ?" ++ toString index

namespace QueryDsl

variable (dsl : QueryDsl)

def resolveField (name : String) : Except QueryError ResolvedField :=
  match dsl.fields.lookup (toAsciiLowercase name) with
  | some field => .ok (.known field.column field.columnType)
  | none =>
    match dsl.attributesColumn with
    | some column => .ok (.json ("json_extract(" ++ column ++ ", '$." ++ sqlEscape name ++ "')"))
    | none => .error (.unknownField name)

/-- `expr_to_sql`, with the counter of the parameters. -/
def exprToSql : Expr → Nat → Except QueryError (SqlFragment × Nat)
  | .fullText text hasWildcards, counter =>
    match dsl.ftsColumn with
    | none => .error .fullTextUnsupported
    | some column =>
      let pattern := if hasWildcards then wildcardToLike text else containing text
      .ok (⟨likeSql column (counter + 1), [.text pattern]⟩, counter + 1)
  | .fieldMatch field value hasWildcards, counter => do
    let resolved ← dsl.resolveField field
    if hasWildcards then
      return (⟨likeSql resolved.column (counter + 1), [.text (wildcardToLike value)]⟩, counter + 1)
    else match resolved with
      | .known column columnType =>
        return (⟨compareSql column "=" (counter + 1), [columnType.parameter value]⟩, counter + 1)
      | .json expr =>
        match finiteNumber value with
        | some number =>
          return (⟨"(" ++ compareSql expr "=" (counter + 1) ++ " OR " ++
            compareSql expr "=" (counter + 2) ++ ")", [.text value, .real number]⟩, counter + 2)
        | none => return (⟨compareSql expr "=" (counter + 1), [.text value]⟩, counter + 1)
  | .comparison field op value, counter => do
    let resolved ← dsl.resolveField field
    match finiteNumber value with
    | some number =>
      let column := if resolved.needsCast then "CAST(" ++ resolved.column ++ " AS REAL)"
        else resolved.column
      return (⟨compareSql column op.asSql (counter + 1), [.real number]⟩, counter + 1)
    | none =>
      return (⟨compareSql resolved.column op.asSql (counter + 1), [.text value]⟩, counter + 1)
  | .and left right, counter => do
    let (l, counter) ← exprToSql left counter
    let (r, counter) ← exprToSql right counter
    return (⟨"(" ++ l.sql ++ " AND " ++ r.sql ++ ")", l.params ++ r.params⟩, counter)
  | .or left right, counter => do
    let (l, counter) ← exprToSql left counter
    let (r, counter) ← exprToSql right counter
    return (⟨"(" ++ l.sql ++ " OR " ++ r.sql ++ ")", l.params ++ r.params⟩, counter)
  | .not inner, counter => do
    let (fragment, counter) ← exprToSql inner counter
    return (⟨"NOT (" ++ fragment.sql ++ ")", fragment.params⟩, counter)

end QueryDsl

def parseQuery (input : String) : Except QueryError Expr :=
  let input := Text.trim input
  if input = "" then .error .emptyQuery
  else do
    let tokens ← tokenize input.toList.length input.toList
    if tokens = [] then .error .emptyQuery else QueryParser.parse tokens

def QueryDsl.parse (dsl : QueryDsl) (input : String) (paramOffset : Nat) :
    Except QueryError SqlFragment := do
  let ast ← parseQuery input
  let (fragment, _) ← dsl.exprToSql ast paramOffset
  return fragment

end Kepler.Query
