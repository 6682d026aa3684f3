import QueryResult.DecodeError
import QueryResult.Number.Numeral
import QueryResult.Number.Power

/-!
# Exact decimals

A decimal is a sign, a coefficient of at most 39 digits and a power of ten. Zero keeps its sign and
its exponent, so that `-0.00` is written back as it came.

`Decimal.decode` takes a numeral as it stands and refuses what it could only take by rounding.
`rescale?` is the one place that rounds, to the nearest multiple of the new unit with a tie away
from zero, and it fails rather than keep more than 39 digits.
-/

namespace QueryResult.Number
open QueryResult.Text

/-- An exact decimal number. -/
structure Decimal where
  negative : Bool
  coefficient : Nat
  exponent : Int
deriving DecidableEq

namespace Decimal

/-- The digits that a coefficient may have. -/
def maxDigits : Nat := 39

/-- The greatest power of ten of a leading digit; the least one is its negative. -/
def maxExponent : Int := 999999999

/-- The least exponent of a zero, below which even a subnormal unit does not reach. -/
def minZeroExponent : Int := -1000000037

/-- The number of digits of the coefficient. -/
def digits (d : Decimal) : Nat :=
  digitCount d.coefficient

/-- The power of ten of the leading digit. -/
def adjusted (d : Decimal) : Int :=
  d.exponent + d.digits - 1

/-- Whether a decimal can be kept as it stands. -/
def Fits (d : Decimal) : Prop :=
  if d.coefficient = 0 then minZeroExponent ≤ d.exponent ∧ d.exponent ≤ maxExponent
  else d.digits ≤ maxDigits ∧ -maxExponent ≤ d.adjusted ∧ d.adjusted ≤ maxExponent

instance (d : Decimal) : Decidable d.Fits := by
  unfold Fits; infer_instance

/-- The decimal that a numeral denotes, digit for digit. -/
def ofNumeral (n : Numeral) : Decimal :=
  { negative := n.negative, coefficient := n.coefficient, exponent := n.unit }

/-- The decimal that a text spells, when it can be kept as it stands. -/
def parse? (cs : List Char) : Option Decimal :=
  ((Numeral.scan? cs).map ofNumeral).filter fun d => decide d.Fits

/-- Reads a token as a decimal. -/
def decode (token : String) : Except DecodeError Decimal :=
  match parse? token.toList with
  | some d => .ok d
  | none => .error ⟨.numeric, token⟩

/-- The number of digits after the point that a decimal keeps. -/
def scale (d : Decimal) : Nat :=
  (-d.exponent).toNat

/-- A coefficient without its last `k` digits, rounded to nearest with a tie away from zero. -/
def dropRounded (c k : Nat) : Nat :=
  if digitCount c < k then 0 else (2 * c + tenTo k) / (2 * tenTo k)

/-- A coefficient without its last `k` digits, rounded toward zero. -/
def dropTruncated (c k : Nat) : Nat :=
  if digitCount c ≤ k then 0 else c / tenTo k

/-- A coefficient with `k` zeros appended, if it stays within `maxDigits`. -/
def appendZeros? (c k : Nat) : Option Nat :=
  if c = 0 then some 0
  else if digitCount c + k ≤ maxDigits then some (c * tenTo k) else none

/-- The coefficient of a decimal in units of `10 ^ -places`, with `drop` for the digits that such
a unit cannot show. -/
def coefficientAt? (drop : Nat → Nat → Nat) (d : Decimal) (places : Nat) : Option Nat :=
  let shift := d.exponent + places
  if 0 ≤ shift then appendZeros? d.coefficient shift.toNat
  else some (drop d.coefficient (-shift).toNat)

/-- The nearest decimal with exactly `places` digits after the point, a tie going away from zero. -/
def rescale? (d : Decimal) (places : Nat) : Option Decimal :=
  (coefficientAt? dropRounded d places).map fun c =>
    { negative := d.negative, coefficient := c, exponent := -(places : Int) }

/-- A decimal in units of `10 ^ -places`, rounded toward zero to an integer. -/
def truncate? (d : Decimal) (places : Nat) : Option Int :=
  (coefficientAt? dropTruncated d places).map (withSign d.negative)

/-- The digits of a coefficient with a point before the last `places` of them. -/
def withPoint (c places : Nat) : List Char :=
  if places = 0 then natText c
  else
    let ds := padded (places + 1) c
    ds.take (ds.length - places) ++ '.' :: ds.drop (ds.length - places)

/-- A minus sign for a negative decimal, zero included. -/
def signText (d : Decimal) : List Char :=
  if d.negative then ['-'] else []

/-- The decimal without exponent notation. The zeros of its scale are kept; a zero with a positive
exponent is the single digit. -/
def plain (d : Decimal) : String :=
  String.ofList <| d.signText ++
    if d.coefficient = 0 ∧ 0 < d.exponent then ['0']
    else if 0 < d.exponent then natText (d.coefficient * tenTo d.exponent.toNat)
    else withPoint d.coefficient d.scale

/-- The decimal with its exponent shown. Positional notation serves while the exponent is not
positive and the leading digit stands at most six places after the point. -/
def scientific (d : Decimal) : String :=
  String.ofList <| d.signText ++
    if d.exponent ≤ 0 ∧ -6 ≤ d.adjusted then withPoint d.coefficient d.scale
    else
      withPoint d.coefficient (d.digits - 1) ++
        'E' :: (if d.adjusted < 0 then '-' else '+') :: natText d.adjusted.natAbs

end Decimal
end QueryResult.Number
