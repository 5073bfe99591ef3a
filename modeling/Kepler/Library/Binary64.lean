/-
This file reads a decimal number as a number of the format binary64.

The text is read exactly, as a fraction, which is rounded to the nearest number of the format, to
the one with an even significand when there are two. A number that is too large is read as infinite.
The grammar is that of `f64::from_str`.
-/

import Kepler.Library.Text

namespace Kepler

/-- A binary64 number. A finite one is its significand times a power of two. -/
inductive Binary64 where
  | finite (negative : Bool) (significand : Nat) (exponent : Int)
  | infinite (negative : Bool)
  | nan
  deriving DecidableEq, Repr

namespace Binary64

def isFinite : Binary64 → Bool
  | finite _ _ _ => true
  | _ => false

/-! ### Rounding -/

/-- A fraction rounded to the nearest integer, to the even one when there are two. -/
def roundQuotient (numerator denominator : Nat) : Nat :=
  let quotient := numerator / denominator
  let rest := 2 * (numerator % denominator)
  if denominator < rest || (rest == denominator && quotient % 2 == 1) then quotient + 1
  else quotient

def scale (numerator denominator : Nat) (exponent : Int) : Nat × Nat :=
  if 0 ≤ exponent then (numerator, denominator * 2 ^ exponent.toNat)
  else (numerator * 2 ^ (-exponent).toNat, denominator)

/-- The largest power of two that is not above a positive fraction. -/
def magnitude (numerator denominator : Nat) : Int :=
  let guess : Int := Nat.log2 numerator - Nat.log2 denominator
  let scaled := scale numerator denominator guess
  if scaled.2 ≤ scaled.1 then guess else guess - 1

/-- A fraction in the format: 53 bits, exponents from -1074 to 971. -/
def round (negative : Bool) (numerator denominator : Nat) : Binary64 :=
  if numerator = 0 then finite negative 0 (-1074)
  else
    let exponent := max (magnitude numerator denominator - 52) (-1074)
    let scaled := scale numerator denominator exponent
    let significand := roundQuotient scaled.1 scaled.2
    -- Rounding up may need one more bit.
    let rounded := if significand = 2 ^ 53 then (2 ^ 52, exponent + 1) else (significand, exponent)
    if 971 < rounded.2 then infinite negative else finite negative rounded.1 rounded.2

/-! ### Decimal numbers -/

def readSign : List Char → Bool × List Char
  | '-' :: rest => (true, rest)
  | '+' :: rest => (false, rest)
  | text => (false, text)

def readExponent : List Char → Option Int
  | [] => some 0
  | mark :: rest =>
    let (negative, digits) := readSign rest
    if (mark = 'e' || mark = 'E') && digits != [] then
      (Text.decimalFrom 0 digits).map fun value => if negative then -(value : Int) else value
    else none

def readFraction : List Char → List Char × List Char
  | '.' :: rest => (rest.takeWhile Char.isDigit, rest.dropWhile Char.isDigit)
  | rest => ([], rest)

def readNumber (negative : Bool) (text : List Char) : Option Binary64 :=
  let whole := text.takeWhile Char.isDigit
  let (fraction, rest) := readFraction (text.dropWhile Char.isDigit)
  let digits := whole ++ fraction
  if digits = [] then none
  else do
    let value ← Text.decimalFrom 0 digits
    let exponent ← readExponent rest
    let power := exponent - fraction.length
    return if 0 ≤ power then round negative (value * 10 ^ power.toNat) 1
      else round negative value (10 ^ (-power).toNat)

/-- `f64::from_str`. -/
def parse (text : String) : Option Binary64 :=
  let (negative, rest) := readSign text.toList
  let name := String.ofList (rest.map Char.toLower)
  if name = "inf" || name = "infinity" then some (infinite negative)
  else if name = "nan" then some nan
  else readNumber negative rest

example : parse "0.1" = some (finite false 7205759403792794 (-56)) := by decide +kernel

example : parse "-1e309" = some (infinite true) := by decide +kernel

end Binary64

end Kepler
