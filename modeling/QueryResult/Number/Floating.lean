import QueryResult.Number.Numeral
import QueryResult.Number.Power

/-!
# Binary floating point numbers

Reading a token as a number of the IEEE 754 formats `binary32` and `binary64`. The value of the
token is rounded once, from the exact fraction to the nearest number of the format, with a tie to
the even neighbour; what lies beyond the greatest number becomes infinite.

A number is its bit pattern: a sign bit, a biased exponent and a fraction.
-/

namespace QueryResult.Number
open QueryResult.Text

/-- The widths of the fields of a binary format. -/
structure FloatFormat where
  fractionBits : Nat
  exponentBits : Nat

namespace FloatFormat

/-- Single precision. -/
def binary32 : FloatFormat := ⟨23, 8⟩

/-- Double precision. -/
def binary64 : FloatFormat := ⟨52, 11⟩

/-- The bits of positive infinity. -/
def infinity (f : FloatFormat) : Nat :=
  (twoTo f.exponentBits - 1) * twoTo f.fractionBits

/-- The bits of a value that is not a number. -/
def notANumber (f : FloatFormat) : Nat :=
  f.infinity + twoTo (f.fractionBits - 1)

/-- The exponent of the least normal number. -/
def minExponent (f : FloatFormat) : Int :=
  2 - twoTo (f.exponentBits - 1)

/-- A quotient rounded to the nearest integer, a tie to the even one. -/
def nearestEven (num den : Nat) : Nat :=
  let q := num / den
  let r := num % den
  if 2 * r < den ∨ (2 * r = den ∧ q % 2 = 0) then q else q + 1

/-- The exponent `e` of a positive fraction, `2 ^ e ≤ num / den < 2 ^ (e + 1)`. -/
def binaryExponent (num den : Nat) : Int :=
  let e : Int := (num.log2 : Int) - den.log2
  if den * twoTo e.toNat ≤ num * twoTo (-e).toNat then e else e - 1

/-- The bits of the number nearest to a positive fraction. Numbers of one sign are in the order of
their bits, so a fraction that rounds up to a power of two needs no case of its own. -/
def nearest (f : FloatFormat) (num den : Nat) : Nat :=
  let e := max (binaryExponent num den) f.minExponent
  let unit := e - f.fractionBits
  let m := nearestEven (num * twoTo (-unit).toNat) (den * twoTo unit.toNat)
  min ((e - f.minExponent).toNat * twoTo f.fractionBits + m) f.infinity

/-- The bits of the number nearest to `c * 10 ^ e`. Beyond a thousand places every format of 64 bits
or less is zero or infinite. -/
def nearestDecimal (f : FloatFormat) (c : Nat) (e : Int) : Nat :=
  let leading := e + digitCount c
  if c = 0 ∨ leading < -1000 then 0
  else if 1000 < leading then f.infinity
  else f.nearest (c * tenTo e.toNat) (tenTo (-e).toNat)

/-- The bits of the magnitude that a text without a sign spells. -/
def magnitude? (f : FloatFormat) (cs : List Char) : Option Nat :=
  let word := String.ofList (cs.map Char.toLower)
  if word = "inf" ∨ word = "infinity" then some f.infinity
  else if word = "nan" then some f.notANumber
  else (Numeral.scanUnsigned? false cs).map fun n => f.nearestDecimal n.coefficient n.unit

/-- The bits of the number that a text spells. -/
def parse? (f : FloatFormat) (cs : List Char) : Option Nat :=
  let (negative, body) := splitSign cs
  (f.magnitude? body).map fun bits =>
    if negative then bits + twoTo (f.fractionBits + f.exponentBits) else bits

/-- Whether bits of the format are of a value that is not a number. -/
def isNotANumber (f : FloatFormat) (bits : Nat) : Bool :=
  decide (f.infinity < bits % twoTo (f.fractionBits + f.exponentBits))

end FloatFormat

/-- A number of single precision, by its bits. -/
structure Binary32 where
  bits : UInt32
deriving DecidableEq

/-- A number of double precision, by its bits. -/
structure Binary64 where
  bits : UInt64
deriving DecidableEq

/-- The single precision number nearest to what a text spells. -/
def Binary32.parse? (cs : List Char) : Option Binary32 :=
  (FloatFormat.binary32.parse? cs).map fun bits => ⟨UInt32.ofNat bits⟩

/-- The double precision number nearest to what a text spells. -/
def Binary64.parse? (cs : List Char) : Option Binary64 :=
  (FloatFormat.binary64.parse? cs).map fun bits => ⟨UInt64.ofNat bits⟩

/-- Positive zero. -/
def Binary32.zero : Binary32 := ⟨0⟩

/-- Positive zero. -/
def Binary64.zero : Binary64 := ⟨0⟩

/-- Whether a number of single precision is none. -/
def Binary32.isNotANumber (x : Binary32) : Bool :=
  FloatFormat.binary32.isNotANumber x.bits.toNat

/-- Whether a number of double precision is none. -/
def Binary64.isNotANumber (x : Binary64) : Bool :=
  FloatFormat.binary64.isNotANumber x.bits.toNat

end QueryResult.Number
