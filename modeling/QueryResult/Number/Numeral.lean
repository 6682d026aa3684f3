import QueryResult.Text.Digits

/-!
# Decimal numerals

The grammar that exact decimals and binary floating point numbers share: an optional sign, digits
with at most one point among them, an optional exponent, and nothing around them. At least one
digit stands before or after the point; an exponent has at least one digit of its own.

A `Numeral` keeps the digits as they were written. Its value is `coefficient * 10 ^ unit`, negated
if it is `negative`; no digit is dropped or rounded here.
-/

namespace QueryResult.Number
open QueryResult.Text

/-- The parts of a decimal numeral. -/
structure Numeral where
  negative : Bool
  /-- The digits before the point. -/
  whole : List Char
  /-- The digits after the point. -/
  fraction : List Char
  exponent : Int
deriving DecidableEq

namespace Numeral

/-- The digits of the numeral without its point, as a number. -/
def coefficient (n : Numeral) : Nat :=
  digitsValue (n.whole ++ n.fraction)

/-- The power of ten that one unit of the coefficient stands for. -/
def unit (n : Numeral) : Int :=
  n.exponent - n.fraction.length

/-- The exponent that ends a numeral; no text at all is the exponent zero. -/
def exponent? : List Char → Option Int
  | [] => some 0
  | c :: r =>
    if c = 'e' ∨ c = 'E' then
      let (negative, ds) := splitSign r
      (natural? ds).map (withSign negative)
    else none

/-- The digits after a point, and what follows them. -/
def splitFraction : List Char → List Char × List Char
  | '.' :: r => (r.takeWhile Char.isDigit, r.dropWhile Char.isDigit)
  | r => ([], r)

/-- The numeral of the given sign that a text without a sign spells. -/
def scanUnsigned? (negative : Bool) (body : List Char) : Option Numeral :=
  let whole := body.takeWhile Char.isDigit
  let (fraction, rest) := splitFraction (body.dropWhile Char.isDigit)
  if whole.isEmpty && fraction.isEmpty then none
  else (exponent? rest).map fun exponent => { negative, whole, fraction, exponent }

/-- The numeral that a text spells, if it spells one. -/
def scan? (cs : List Char) : Option Numeral :=
  let (negative, body) := splitSign cs
  scanUnsigned? negative body

end Numeral
end QueryResult.Number
