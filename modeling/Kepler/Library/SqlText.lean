/-
This file reads the tokens of the text of SQL conditions, character by character. Quotes hide what
stands in them. A text with a comment is not read.

A writer of SQL puts its text together from pieces. When no piece runs into the one before it, the
tokens of the text are those of the pieces, in their order.
-/

import Mathlib.Data.Bool.AllAny
import Mathlib.Data.List.Chain
import Kepler.Library.Text

namespace Kepler.SqlText

open List

/-! ### Tokens -/

inductive SqlToken where
  /-- A name, a keyword or a number. -/
  | word (text : List Char)
  | placeholder (digits : List Char)
  | quoted (text : List Char)
  | symbol (character : Char)
  deriving DecidableEq, Repr

inductive Reading where
  | blank
  | word (text : List Char)
  | placeholder (digits : List Char)
  | inside (quote : Char) (text : List Char)
  /-- The closing quote was read, unless it is the first of two. -/
  | closed (quote : Char) (text : List Char)
  | symbol (character : Char)
  | comment
  deriving DecidableEq, Repr

def isNameCharacter (character : Char) : Bool :=
  character.isAlphanum || character = '_' || character = '$' || 128 ≤ character.toNat

def closingQuote (character : Char) : Option Char :=
  if character ∈ "'\"\x60".toList then some character
  else if character = '[' then some ']' else none

namespace Reading

def start (character : Char) : Reading :=
  if character ∈ [' ', '\t', '\n', '\r', '\x0c'] then blank
  else if isNameCharacter character then word [character]
  else if character = '?' then placeholder []
  else match closingQuote character with
    | some quote => inside quote []
    | none => symbol character

/-- The reading goes on with a character that belongs to the same token. -/
def next : Reading → Char → Option Reading
  | blank, _ => none
  | word text, character =>
    if isNameCharacter character then some (word (text ++ [character])) else none
  | placeholder digits, character =>
    if character.isDigit then some (placeholder (digits ++ [character])) else none
  | inside quote text, character =>
    some (if character = quote then closed quote text else inside quote (text ++ [character]))
  | closed quote text, character =>
    if character = quote && quote ≠ ']' then some (inside quote (text ++ [character])) else none
  | symbol first, character =>
    if first = '-' && character = '-' || first = '/' && character = '*' then some comment else none
  | comment, _ => some comment

/-- The token that was read, when it ends here. -/
def tokens : Reading → List SqlToken
  | word text => [.word text]
  | placeholder digits => [.placeholder digits]
  | closed _ text => [.quoted text]
  | symbol character => [.symbol character]
  | _ => []

end Reading

/-- The tokens of a text, unless a quote is not closed or there is a comment. -/
def scan : Reading → List Char → Option (List SqlToken)
  | .inside _ _, [] | .comment, [] => none
  | reading, [] => some reading.tokens
  | reading, character :: rest =>
    match reading.next character with
    | some further => scan further rest
    | none => (scan (.start character) rest).map (reading.tokens ++ ·)

def lex (text : List Char) : Option (List SqlToken) := scan .blank text

theorem scan_of_next {reading further : Reading} {character : Char}
    (goesOn : reading.next character = some further) (rest : List Char) :
    scan reading (character :: rest) = scan further rest := by
  rw [scan.eq_def]
  simp only [goesOn]

theorem scan_of_end {reading : Reading} {character : Char} (ends : reading.next character = none)
    (rest : List Char) :
    scan reading (character :: rest) =
      (scan (.start character) rest).map (reading.tokens ++ ·) := by
  rw [scan.eq_def]
  simp only [ends]

/-! ### Pieces of a text -/

/-- A piece of a text. A hole is filled with a numbered placeholder. -/
inductive Piece where
  | blank
  | word (text : List Char)
  | symbol (character : Char)
  | quoted (text : List Char)
  | hole
  deriving DecidableEq, Repr

def doubled (text : List Char) : List Char :=
  text.flatMap fun character => if character = '\'' then ['\'', '\''] else [character]

/-- The characters of a piece, where a hole stands for a placeholder. -/
def Piece.template : Piece → List (Option Char)
  | blank => [some ' ']
  | word text => text.map some
  | symbol character => [some character]
  | quoted text => some '\'' :: ((doubled text).map some ++ [some '\''])
  | hole => [none]

def digits (number : Nat) : List Char := (toString number).toList

/-- The holes are filled with placeholders that are numbered after a number. -/
def fill : Nat → List (Option Char) → List Char
  | _, [] => []
  | number, some character :: rest => character :: fill number rest
  | number, none :: rest => '?' :: (digits (number + 1) ++ fill (number + 1) rest)

theorem fill_append (number : Nat) (first second : List (Option Char)) :
    fill number (first ++ second) =
      fill number first ++ fill (number + first.count none) second := by
  induction first generalizing number with
  | nil => rfl
  | cons head rest inductionHypothesis =>
    cases head with
    | some => simp [fill, inductionHypothesis]
    | none => simp [fill, inductionHypothesis, Nat.add_assoc, Nat.add_comm 1]

theorem fill_map_some (number : Nat) (text : List Char) (rest : List (Option Char)) :
    fill number (text.map some ++ rest) = text ++ fill number rest := by
  induction text with
  | nil => rfl
  | cons head others inductionHypothesis => exact congrArg (head :: ·) inductionHypothesis

def template (pieces : List Piece) : List (Option Char) := pieces.flatMap Piece.template

def holes (pieces : List Piece) : Nat := (template pieces).count none

def render (number : Nat) (pieces : List Piece) : List Char := fill number (template pieces)

theorem template_append (left right : List Piece) :
    template (left ++ right) = template left ++ template right :=
  flatMap_append

def Piece.reading (number : Nat) : Piece → Reading
  | blank => .blank
  | word text => .word text
  | symbol character => .symbol character
  | quoted text => .closed '\'' text
  | hole => .placeholder (digits (number + 1))

def tokensOf : Nat → List Piece → List SqlToken
  | _, [] => []
  | number, piece :: rest =>
    (piece.reading number).tokens ++ tokensOf (number + piece.template.count none) rest

def Piece.Valid : Piece → Bool
  | word text => text ≠ [] && text.all isNameCharacter
  | symbol character => character ∈ "(),=<>".toList
  | _ => true

/-- A piece that keeps its neighbours apart. -/
def Piece.separates : Piece → Bool
  | blank | symbol _ => true
  | _ => false

structure Sound (pieces : List Piece) : Prop where
  valid : ∀ piece ∈ pieces, piece.Valid
  apart : pieces.IsChain fun first second => first.separates ∨ second.separates

instance (pieces : List Piece) : Decidable (Sound pieces) :=
  decidable_of_iff (_ ∧ _) ⟨fun both => ⟨both.1, both.2⟩, fun sound => ⟨sound.valid, sound.apart⟩⟩

theorem sound_singleton {piece : Piece} (valid : piece.Valid) : Sound [piece] :=
  ⟨by simpa using valid, isChain_singleton _⟩

theorem Sound.join {left right : List Piece} {piece : Piece} (first : Sound left)
    (second : Sound right) (valid : piece.Valid) (separates : piece.separates) :
    Sound (left ++ piece :: right) where
  valid := by
    simp only [mem_append, mem_cons]
    rintro other (inLeft | rfl | inRight)
    · exact first.valid other inLeft
    · exact valid
    · exact second.valid other inRight
  apart := isChain_append.mpr ⟨first.apart,
    isChain_cons.mpr ⟨fun _ _ => .inl separates, second.apart⟩,
    fun _ _ next isNext => by
      cases isNext
      exact .inr separates⟩

/-! ### The tokens of the pieces -/

theorem scan_grow (grow : List Char → Reading) {further : List Char}
    (goesOn : ∀ text, ∀ character ∈ further,
      (grow text).next character = some (grow (text ++ [character])))
    (text rest : List Char) :
    scan (grow text) (further ++ rest) = scan (grow (text ++ further)) rest := by
  induction further generalizing text with
  | nil => rw [append_nil, nil_append]
  | cons character others inductionHypothesis =>
    rw [cons_append, scan_of_next (goesOn text character mem_cons_self),
      inductionHypothesis (fun text other member => goesOn text other (mem_cons_of_mem _ member)),
      append_assoc]
    rfl

theorem scan_doubled (before text rest : List Char) :
    scan (.inside '\'' before) (doubled text ++ '\'' :: rest) =
      scan (.closed '\'' (before ++ text)) rest := by
  induction text generalizing before with
  | nil => rw [append_nil]; rfl
  | cons character others inductionHypothesis =>
    have appended : before ++ character :: others = before ++ [character] ++ others := by simp
    rw [appended, ← inductionHypothesis]
    by_cases isQuote : character = '\''
    · subst isQuote
      rfl
    · rw [doubled, flatMap_cons, if_neg isQuote]
      exact scan_of_next (by rw [Reading.next, if_neg isQuote]) _

theorem isDigit_of_mem_digits {number : Nat} {character : Char}
    (member : character ∈ digits number) : character.isDigit :=
  Text.isDigit_of_mem_toString member

theorem symbol_facts : ∀ symbol ∈ "(),=<>".toList, isNameCharacter symbol = false ∧
    symbol.isDigit = false ∧ symbol ≠ '\'' ∧ symbol ≠ '-' ∧ symbol ≠ '/' ∧
    Reading.start symbol = .symbol symbol := all_iff_forall_prop.mp (by decide)

theorem start_name {character : Char} (isName : isNameCharacter character) :
    Reading.start character = .word [character] := by
  have blanks : ∀ blank ∈ [' ', '\t', '\n', '\r', '\x0c'], isNameCharacter blank = false :=
    all_iff_forall_prop.mp (by decide)
  have noBlank : character ∉ [' ', '\t', '\n', '\r', '\x0c'] := fun isBlank =>
    Bool.false_ne_true ((blanks character isBlank).symm.trans isName)
  rw [Reading.start, if_neg noBlank, if_pos isName]

@[simp] theorem count_none_map_some (text : List Char) : (text.map some).count none = 0 := by
  simp [count_eq_zero]

theorem next_eq_none {first second : Piece} {number after : Nat} (valid : first.Valid)
    (nextValid : second.Valid) (apart : first.separates ∨ second.separates) {character : Char}
    {rest : List Char} (begins : fill after second.template = character :: rest) :
    (first.reading number).next character = none := by
  cases first with
  | blank => rfl
  | symbol first =>
    obtain ⟨_, _, _, noDash, noSlash, _⟩ := symbol_facts first (of_decide_eq_true valid)
    simp [Piece.reading, Reading.next, noDash, noSlash]
  | _ =>
    have separates := apart.resolve_left Bool.false_ne_true
    cases second with
    | blank => cases begins; rfl
    | symbol second =>
      obtain ⟨noName, noDigit, noQuote, _⟩ := symbol_facts second (of_decide_eq_true nextValid)
      cases begins
      simp [Piece.reading, Reading.next, noName, noDigit, noQuote]
    | _ => cases separates

theorem scan_piece {first second : Piece} {number after : Nat} (valid : first.Valid)
    (nextValid : second.Valid) (apart : first.separates ∨ second.separates)
    (rest : List (Option Char)) :
    scan (first.reading number) (fill after (second.template ++ rest)) =
      (scan (second.reading after) (fill (after + second.template.count none) rest)).map
        ((first.reading number).tokens ++ ·) := by
  have ends := @next_eq_none first second number after valid nextValid apart
  cases second with
  | blank => exact scan_of_end (ends rfl) _
  | symbol second =>
    have starts := (symbol_facts second (of_decide_eq_true nextValid)).2.2.2.2.2
    refine (scan_of_end (ends rfl) _).trans ?_
    rw [starts]
    rfl
  | word text =>
    obtain ⟨nonempty, names⟩ := Bool.and_eq_true_iff.mp nextValid
    rw [all_eq_true] at names
    cases text with
    | nil => cases nonempty
    | cons character others => ?_
    rw [Piece.template, fill_map_some, count_none_map_some]
    refine (scan_of_end (ends rfl) _).trans ?_
    rw [start_name (names character mem_cons_self)]
    exact congrArg _ (scan_grow .word (fun text other member =>
      if_pos (names other (mem_cons_of_mem _ member))) [character] _)
  | quoted text =>
    rw [Piece.template, cons_append, append_assoc, fill, fill_map_some,
      count_cons_of_ne (by simp), count_append, count_none_map_some]
    refine (scan_of_end (ends rfl) _).trans ?_
    exact congrArg _ (scan_doubled [] text _)
  | hole =>
    refine (scan_of_end (ends rfl) _).trans ?_
    exact congrArg _ (scan_grow .placeholder (fun text other member =>
      if_pos (isDigit_of_mem_digits member)) [] _)

/-- The tokens of a text are those of the pieces that it is made of. -/
theorem lex_render {pieces : List Piece} (sound : Sound pieces) (number : Nat) :
    lex (render number pieces) = some (tokensOf number pieces) := by
  suffices further : ∀ (first : Piece) (before number : Nat), first.Valid →
      (first :: pieces).IsChain (fun first second => first.separates ∨ second.separates) →
      scan (first.reading before) (render number pieces) =
        some ((first.reading before).tokens ++ tokensOf number pieces) from
    further .blank 0 number rfl (isChain_cons.mpr ⟨fun _ _ => .inl rfl, sound.apart⟩)
  have allValid := sound.valid
  clear sound
  induction pieces with
  | nil =>
    intro first before number valid _
    cases first <;> rfl
  | cons second rest inductionHypothesis =>
    intro first before number valid apart
    obtain ⟨apart, restApart⟩ := isChain_cons_cons.mp apart
    have nextValid := allValid second mem_cons_self
    rw [render, template, flatMap_cons, scan_piece valid nextValid apart]
    have rest := inductionHypothesis (fun piece member => allValid piece
      (mem_cons_of_mem _ member)) second number (number + second.template.count none)
      nextValid restApart
    rw [render, template] at rest
    rw [rest]
    rfl

theorem mem_tokensOf {number : Nat} {pieces : List Piece} {token : SqlToken}
    (member : token ∈ tokensOf number pieces) :
    ∃ piece ∈ pieces, ∃ number, token ∈ (piece.reading number).tokens := by
  induction pieces generalizing number with
  | nil => cases member
  | cons piece rest inductionHypothesis =>
    obtain here | later := mem_append.mp member
    · exact ⟨piece, mem_cons_self, number, here⟩
    · obtain ⟨other, isOther, found⟩ := inductionHypothesis later
      exact ⟨other, mem_cons_of_mem _ isOther, found⟩

def SqlToken.placeholder? : SqlToken → Option (List Char)
  | placeholder digits => some digits
  | _ => none

theorem placeholders_tokensOf (number : Nat) (pieces : List Piece) :
    (tokensOf number pieces).filterMap SqlToken.placeholder? =
      (List.range' (number + 1) (holes pieces)).map digits := by
  induction pieces generalizing number with
  | nil => rfl
  | cons piece rest inductionHypothesis =>
    have both : holes (piece :: rest) = piece.template.count none + holes rest :=
      count_append
    rw [tokensOf, filterMap_append, inductionHypothesis, both]
    cases piece with
    | hole =>
      have one : Piece.hole.template.count none = 1 := rfl
      rw [one, Nat.add_comm 1, range'_succ]
      rfl
    | _ => simp [Piece.template, Piece.reading, Reading.tokens, SqlToken.placeholder?]

end Kepler.SqlText
