import Mathlib.Data.Rat.Floor
import Mathlib.Algebra.Order.Field.Power
import Mathlib.Tactic.FieldSimp
import Mathlib.Tactic.Ring
import QueryResult.Number.FixedPoint
import QueryResult.Proofs.NumberGrammar

/-!
# The value of decimals

The rational number that a numeral denotes, read off its digits, its point and its exponent, and
the rounding toward zero of rational numbers. Against these the arithmetic on decimals is stated:
moving a decimal to units of `10 ^ -places` and cutting it to an integer is the rounding toward zero
of its value in those units (`towardZero_value_of_truncate?`), and it fails only for a number of
forty digits or more (`tenTo_le_of_truncate?_eq_none`).
-/

namespace QueryResult.Number
open QueryResult.Text

/-- The sign of a number as a factor. -/
def signFactor (negative : Bool) : ℚ :=
  if negative then -1 else 1

/-- A rational number rounded toward zero. -/
def towardZero (q : ℚ) : ℤ :=
  if q < 0 then ⌈q⌉ else ⌊q⌋

/-- The number that a numeral denotes: the digits before the point as a whole number, those after it
as a fraction, moved by the exponent. -/
def Numeral.value (n : Numeral) : ℚ :=
  signFactor n.negative *
    (digitsValue n.whole + digitsValue n.fraction / 10 ^ n.fraction.length) * 10 ^ n.exponent

/-- A decimal without its sign. -/
def Decimal.magnitude (d : Decimal) : ℚ :=
  d.coefficient * 10 ^ d.exponent

/-- The number that a decimal stands for. -/
def Decimal.value (d : Decimal) : ℚ :=
  signFactor d.negative * d.magnitude

theorem cast_tenTo (k : Nat) : (tenTo k : ℚ) = 10 ^ k := by
  unfold tenTo
  exact_mod_cast rfl

theorem tenTo_le_tenTo {j k : Nat} (h : j ≤ k) : tenTo j ≤ tenTo k :=
  Nat.pow_le_pow_right (by decide) h

theorem signFactor_mul_natCast (negative : Bool) (c : Nat) :
    signFactor negative * c = (withSign negative c : ℚ) := by
  unfold signFactor withSign
  cases negative <;> simp

theorem towardZero_intCast (n : ℤ) : towardZero (n : ℚ) = n := by
  unfold towardZero
  split
  · exact Int.ceil_intCast n
  · exact Int.floor_intCast n

/-- Rounding toward zero drops what a sign stands before. -/
theorem towardZero_signed {x : ℚ} {c : Nat} (negative : Bool) (nonneg : 0 ≤ x)
    (floor : ⌊x⌋ = (c : ℤ)) : towardZero (signFactor negative * x) = withSign negative c := by
  unfold towardZero signFactor withSign
  cases negative with
  | false =>
    simp only [Bool.false_eq_true, if_false, one_mul]
    rw [if_neg (not_lt.2 nonneg), floor]
  | true =>
    simp only [if_true, neg_one_mul]
    rcases nonneg.eq_or_lt with rfl | pos
    · rw [Int.floor_zero] at floor
      rw [neg_zero, if_neg (lt_irrefl 0), Int.floor_zero, ← floor, neg_zero]
    · rw [if_pos (neg_lt_zero.2 pos), Int.ceil_neg, floor]

namespace Decimal

theorem magnitude_nonneg (d : Decimal) : 0 ≤ d.magnitude :=
  mul_nonneg (Nat.cast_nonneg _) (zpow_nonneg (by norm_num) _)

/-- A numeral and its decimal denote the same number. -/
theorem value_ofNumeral (n : Numeral) : (ofNumeral n).value = n.value := by
  have ten : (10 : ℚ) ≠ 0 := by norm_num
  have split : ((ofNumeral n).coefficient : ℚ) =
      digitsValue n.whole * 10 ^ n.fraction.length + digitsValue n.fraction := by
    rw [ofNumeral, Numeral.coefficient, digitsValue_append, Nat.cast_add, Nat.cast_mul, cast_tenTo]
  have unit : (10 : ℚ) ^ (ofNumeral n).exponent = 10 ^ n.exponent / 10 ^ n.fraction.length := by
    rw [ofNumeral, Numeral.unit, zpow_sub₀ ten, zpow_natCast]
  rw [value, magnitude, Numeral.value, split, unit]
  have : (10 : ℚ) ^ n.fraction.length ≠ 0 := pow_ne_zero _ ten
  field_simp
  exact mul_comm _ _

/-- A decimal in units that its exponent does not reach below. -/
theorem magnitude_mul_of_nonneg {d : Decimal} {places k : Nat} (h : d.exponent + places = k) :
    d.magnitude * 10 ^ places = (d.coefficient * tenTo k : Nat) := by
  have ten : (10 : ℚ) ≠ 0 := by norm_num
  rw [magnitude, mul_assoc, ← zpow_natCast, ← zpow_add₀ ten, h, zpow_natCast, Nat.cast_mul,
    cast_tenTo]

/-- A decimal in units that its last digits do not reach. -/
theorem magnitude_mul_of_neg {d : Decimal} {places k : Nat} (h : d.exponent + places = -k) :
    d.magnitude * 10 ^ places = (d.coefficient : ℚ) / (tenTo k : Nat) := by
  have ten : (10 : ℚ) ≠ 0 := by norm_num
  rw [magnitude, mul_assoc, ← zpow_natCast, ← zpow_add₀ ten, h, zpow_neg, zpow_natCast, cast_tenTo,
    div_eq_mul_inv]

theorem dropTruncated_eq (c k : Nat) : dropTruncated c k = c / tenTo k := by
  unfold dropTruncated
  split <;> rename_i short
  · have : c < tenTo k := (lt_tenTo_digitCount c).trans_le (tenTo_le_tenTo short)
    rw [Nat.div_eq_of_lt this]
  · rfl

theorem appendZeros?_eq_some {c k n : Nat} (h : appendZeros? c k = some n) : n = c * tenTo k := by
  unfold appendZeros? at h
  split at h <;> rename_i zero
  · rw [zero, Nat.zero_mul]
    exact (Option.some.inj h).symm
  · split at h
    · exact (Option.some.inj h).symm
    · exact absurd h (by simp)

/-- Zeros are refused only where forty digits would be needed. -/
theorem tenTo_le_of_appendZeros?_eq_none {c k : Nat} (h : appendZeros? c k = none) :
    tenTo maxDigits ≤ c * tenTo k := by
  unfold appendZeros? at h
  split at h <;> rename_i zero
  · exact absurd h (by simp)
  · split at h <;> rename_i long
    · exact absurd h (by simp)
    · have count := digitCount_pos c
      have lead : tenTo (digitCount c - 1) ≤ c :=
        tenTo_le_of_digitCount (Nat.pos_of_ne_zero zero) (by omega)
      calc tenTo maxDigits ≤ tenTo (digitCount c - 1 + k) := tenTo_le_tenTo (by omega)
        _ = tenTo (digitCount c - 1) * tenTo k := tenTo_add _ _
        _ ≤ c * tenTo k := Nat.mul_le_mul_right _ lead

/-- The coefficient of a truncated decimal is the whole part of its magnitude. -/
theorem floor_of_coefficientAt? {d : Decimal} {places c : Nat}
    (h : coefficientAt? dropTruncated d places = some c) :
    ⌊d.magnitude * 10 ^ places⌋ = (c : ℤ) := by
  unfold coefficientAt? at h
  simp only at h
  split at h <;> rename_i sign
  · obtain ⟨k, shift⟩ := Int.eq_ofNat_of_zero_le sign
    have scaled : d.magnitude * 10 ^ places = (d.coefficient * tenTo k : Nat) :=
      magnitude_mul_of_nonneg shift
    rw [shift] at h
    rw [scaled, Int.floor_natCast, appendZeros?_eq_some h]
    rfl
  · obtain ⟨k, shift⟩ := Int.eq_ofNat_of_zero_le (a := -(d.exponent + places)) (by omega)
    have scaled : d.magnitude * 10 ^ places = (d.coefficient : ℚ) / (tenTo k : Nat) :=
      magnitude_mul_of_neg (by omega)
    rw [shift, dropTruncated_eq, Option.some.injEq] at h
    rw [scaled, Rat.floor_natCast_div_natCast, ← h]
    rfl

/-- Where a decimal cannot be had in the units, its magnitude is a number of them with forty digits or
more. -/
theorem magnitude_of_coefficientAt?_eq_none {drop : Nat → Nat → Nat} {d : Decimal} {places : Nat}
    (h : coefficientAt? drop d places = none) :
    ∃ c : Nat, d.magnitude * 10 ^ places = c ∧ tenTo maxDigits ≤ c := by
  unfold coefficientAt? at h
  simp only at h
  split at h <;> rename_i sign
  · obtain ⟨k, shift⟩ := Int.eq_ofNat_of_zero_le sign
    rw [shift] at h
    exact ⟨_, magnitude_mul_of_nonneg shift, tenTo_le_of_appendZeros?_eq_none h⟩
  · exact absurd h (by simp)

theorem tenTo_le_of_coefficientAt?_eq_none {drop : Nat → Nat → Nat} {d : Decimal} {places : Nat}
    (h : coefficientAt? drop d places = none) :
    (tenTo maxDigits : ℤ) ≤ ⌊d.magnitude * 10 ^ places⌋ := by
  obtain ⟨c, scaled, large⟩ := magnitude_of_coefficientAt?_eq_none h
  rw [scaled, Int.floor_natCast]
  exact_mod_cast large

theorem value_mul (d : Decimal) (places : Nat) :
    d.value * 10 ^ places = signFactor d.negative * (d.magnitude * 10 ^ places) :=
  mul_assoc _ _ _

theorem magnitude_mul_nonneg (d : Decimal) (places : Nat) : 0 ≤ d.magnitude * 10 ^ places :=
  mul_nonneg d.magnitude_nonneg (pow_nonneg (by norm_num) _)

/-- The digits of a numeral are its value in units of the last of them. -/
theorem value_mul_of_unit {n : Numeral} {k : Nat} (unit : n.unit = -(k : Int)) :
    n.value * 10 ^ k = (withSign n.negative n.coefficient : ℚ) := by
  have shift : (ofNumeral n).exponent + k = (0 : Nat) := by
    show n.unit + k = (0 : Nat)
    omega
  rw [← value_ofNumeral, value_mul, magnitude_mul_of_nonneg shift, tenTo_zero, Nat.mul_one]
  exact signFactor_mul_natCast n.negative n.coefficient

/-- Truncation is the rounding toward zero of the value in the new units. -/
theorem towardZero_value_of_truncate? {d : Decimal} {places : Nat} {f : Int}
    (h : d.truncate? places = some f) : towardZero (d.value * 10 ^ places) = f := by
  obtain ⟨c, cut, rfl⟩ := Option.map_eq_some_iff.1 h
  rw [value_mul]
  exact towardZero_signed d.negative (d.magnitude_mul_nonneg places) (floor_of_coefficientAt? cut)

/-- Truncation fails only where the result has forty digits or more. -/
theorem tenTo_le_of_truncate?_eq_none {d : Decimal} {places : Nat}
    (h : d.truncate? places = none) :
    tenTo maxDigits ≤ (towardZero (d.value * 10 ^ places)).natAbs := by
  have large := tenTo_le_of_coefficientAt?_eq_none (Option.map_eq_none_iff.1 h)
  obtain ⟨c, floor⟩ := Int.eq_ofNat_of_zero_le (Int.floor_nonneg.2 (d.magnitude_mul_nonneg places))
  rw [value_mul, towardZero_signed d.negative (d.magnitude_mul_nonneg places) floor]
  rw [floor] at large
  unfold withSign
  split <;> omega

/-- No integer of 128 bits has forty digits. -/
theorem natAbs_lt_of_fits {f : Int} (h : FitsSigned fixedPointBits f) :
    f.natAbs < tenTo maxDigits := by
  have bound : twoTo (fixedPointBits - 1) < tenTo maxDigits := by decide
  have low := h.1
  have high := h.2
  omega

end Decimal
end QueryResult.Number
