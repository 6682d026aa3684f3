import QueryResult.Number.Decimal
import QueryResult.Number.Integer

/-!
# Fixed point values

Times and timestamps travel as seconds with a fraction. A `FixedPoint` holds such a value as a whole
number of `10 ^ -scale` units within 128 bits, so that no digit is lost.

`FixedPoint.decode` multiplies the token out and drops further digits toward zero. `split` floors,
so that the part below a second is never negative, and `encode` writes the value with exactly
`scale` digits after the point.
-/

namespace QueryResult.Number
open QueryResult.Text

/-- The number of digits of a second that a temporal value keeps. Values that are made by `ofNat`
have at most nine of them. -/
structure Scale where
  digits : Nat
deriving DecidableEq

/-- A scale beyond nanoseconds. -/
structure ScaleError where
  digits : Nat
deriving DecidableEq

/-- The error in words. -/
def ScaleError.message (e : ScaleError) : String :=
  "scale " ++ toString e.digits ++ " for temporal type must be between 0 and 9"

namespace Scale

/-- Whole seconds. -/
def seconds : Scale := ⟨0⟩

/-- Nanoseconds, the finest scale. -/
def nanos : Scale := ⟨9⟩

/-- Whether a scale is no finer than nanoseconds. -/
def Valid (s : Scale) : Prop :=
  s.digits ≤ nanos.digits

instance (s : Scale) : Decidable s.Valid :=
  inferInstanceAs (Decidable (_ ≤ _))

/-- The scale with a number of digits, if that is at most nine. -/
def ofNat (digits : Nat) : Except ScaleError Scale :=
  if digits ≤ nanos.digits then .ok ⟨digits⟩ else .error ⟨digits⟩

/-- The units in one second. -/
def perSecond (s : Scale) : Nat :=
  tenTo s.digits

/-- The nanoseconds in one unit. -/
def nanosPerUnit (s : Scale) : Nat :=
  tenTo (nanos.digits - s.digits)

theorem perSecond_pos (s : Scale) : 0 < s.perSecond :=
  tenTo_pos s.digits

theorem ofNat_eq_ok_iff {n : Nat} {s : Scale} : ofNat n = .ok s ↔ s.digits = n ∧ s.Valid := by
  unfold ofNat Valid
  split <;> rename_i h
  · simp only [Except.ok.injEq]
    constructor
    · rintro rfl; exact ⟨rfl, h⟩
    · rintro ⟨rfl, -⟩; rfl
  · simp only [reduceCtorEq, false_iff]
    rintro ⟨rfl, hs⟩; exact h hs

end Scale

/-- The width in bits of a fixed point value. -/
def fixedPointBits : Nat := 128

/-- A whole number of `10 ^ -scale` units. -/
structure FixedPoint where
  fractions : Int
  scale : Scale
  fits : FitsSigned fixedPointBits fractions := by decide
deriving DecidableEq

namespace FixedPoint

/-- The fixed point value with a number of units, if it fits. -/
def ofInt? (fractions : Int) (scale : Scale) : Option FixedPoint :=
  if h : FitsSigned fixedPointBits fractions then some ⟨fractions, scale, h⟩ else none

/-- Whole seconds, rounded down. -/
def wholeSeconds (v : FixedPoint) : Int :=
  v.fractions / v.scale.perSecond

/-- The nanoseconds above the whole seconds. -/
def nanos (v : FixedPoint) : Nat :=
  (v.fractions % v.scale.perSecond).toNat * v.scale.nanosPerUnit

/-- Whole seconds rounded down, and the nanoseconds above them. -/
def split (v : FixedPoint) : Int × Nat :=
  (v.wholeSeconds, v.nanos)

/-- A natural number of units as digits with a point, without a point at scale zero. -/
def encodeUnits (s : Scale) (units : Nat) : List Char :=
  natText (units / s.perSecond) ++
    if s.digits = 0 then [] else '.' :: padded s.digits (units % s.perSecond)

/-- The value as text, with exactly `scale` digits after the point. -/
def encode (v : FixedPoint) : String :=
  String.ofList <|
    (if v.fractions < 0 then ['-'] else []) ++ encodeUnits v.scale v.fractions.natAbs

/-- The fixed point value that a text spells, without the digits beyond the scale. -/
def parse? (cs : List Char) (scale : Scale) : Option FixedPoint := do
  let d ← Decimal.parse? cs
  let fractions ← d.truncate? scale.digits
  ofInt? fractions scale

/-- Reads a token as a fixed point value; an error names the kind of value asked for. -/
def decode (kind : TokenKind) (token : String) (scale : Scale) : Except DecodeError FixedPoint :=
  match parse? token.toList scale with
  | some v => .ok v
  | none => .error ⟨kind, token⟩

theorem ofInt?_eq_some_iff {n : Int} {s : Scale} {v : FixedPoint} :
    ofInt? n s = some v ↔ v.fractions = n ∧ v.scale = s := by
  unfold ofInt?
  split <;> rename_i h
  · simp only [Option.some.injEq]
    constructor
    · rintro rfl; exact ⟨rfl, rfl⟩
    · obtain ⟨f, t, hf⟩ := v
      rintro ⟨rfl, rfl⟩; rfl
  · simp only [reduceCtorEq, false_iff]
    rintro ⟨rfl, -⟩; exact h v.fits

/-- The two parts of `split` make up the value. -/
theorem split_units (v : FixedPoint) :
    v.wholeSeconds * v.scale.perSecond + v.fractions % v.scale.perSecond = v.fractions := by
  rw [wholeSeconds, Int.mul_comm]
  exact Int.mul_ediv_add_emod v.fractions v.scale.perSecond

end FixedPoint
end QueryResult.Number
