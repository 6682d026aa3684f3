import QueryResult.Proofs.DecimalValue

/-!
# Fixed point values and their tokens

A token is read as a fixed point value exactly if it spells a numeral that an exact decimal can hold
and whose value, in the units of the scale and rounded toward zero, is an integer of 128 bits
(`decode_truncates_exactly`). The other way round, the text of a value spells a numeral of that very
value, so that it is read back unchanged (`parse?_encode`).
-/

namespace QueryResult.Number
open QueryResult.Text

namespace Numeral

/-- Whether an exact decimal can hold a numeral: it has at most 39 digits after the zeros in front,
and the power of ten of its leading digit is within range. A zero has no leading digit; for it the
power of ten of its last place counts. -/
structure Admitted (n : Numeral) : Prop where
  digits : (significant (n.whole ++ n.fraction)).length ≤ Decimal.maxDigits
  zero : significant (n.whole ++ n.fraction) = [] →
    Decimal.minZeroExponent ≤ n.unit ∧ n.unit ≤ Decimal.maxExponent
  nonzero : significant (n.whole ++ n.fraction) ≠ [] →
    -Decimal.maxExponent ≤ n.unit + (significant (n.whole ++ n.fraction)).length - 1 ∧
      n.unit + (significant (n.whole ++ n.fraction)).length - 1 ≤ Decimal.maxExponent

end Numeral

namespace Decimal

theorem fits_ofNumeral_iff {n : Numeral} (h : IsDigits (n.whole ++ n.fraction)) :
    (ofNumeral n).Fits ↔ n.Admitted := by
  have zero_iff : (ofNumeral n).coefficient = 0 ↔ significant (n.whole ++ n.fraction) = [] :=
    digitsValue_eq_zero_iff h
  unfold Fits
  split <;> rename_i zero
  · have none := zero_iff.1 zero
    constructor
    · intro range
      refine ⟨?_, fun _ => range, fun ne => absurd none ne⟩
      rw [none]
      exact Nat.zero_le _
    · intro admitted
      exact admitted.zero none
  · have some : significant (n.whole ++ n.fraction) ≠ [] := fun none => zero (zero_iff.2 none)
    have count : (ofNumeral n).digits = (significant (n.whole ++ n.fraction)).length :=
      digitCount_digitsValue h some
    rw [adjusted, count]
    constructor
    · intro range
      exact ⟨range.1, fun none => absurd none some, fun _ => range.2⟩
    · intro admitted
      exact ⟨admitted.digits, admitted.nonzero some⟩

/-- The decimals that are read are the admitted numerals, digit for digit. -/
theorem parse?_eq_some_iff_spells {cs : List Char} {d : Decimal} :
    parse? cs = some d ↔ ∃ n, n.Spells cs ∧ n.Admitted ∧ d = ofNumeral n := by
  simp only [parse?, Option.filter_eq_some_iff, Option.map_eq_some_iff, decide_eq_true_eq]
  constructor
  · rintro ⟨⟨n, scanned, rfl⟩, fits⟩
    have spells := Numeral.scan?_eq_some_iff.1 scanned
    exact ⟨n, spells, (fits_ofNumeral_iff spells.isDigits).1 fits, rfl⟩
  · rintro ⟨n, spells, admitted, rfl⟩
    exact ⟨⟨n, Numeral.scan?_eq_some_iff.2 spells, rfl⟩,
      (fits_ofNumeral_iff spells.isDigits).2 admitted⟩

/-- Truncation to an integer of 128 bits gives the value rounded toward zero, whenever that is such
an integer. -/
theorem truncate?_eq_some_iff_of_fits {d : Decimal} {places : Nat} {f : Int}
    (fits : FitsSigned fixedPointBits f) :
    d.truncate? places = some f ↔ f = towardZero (d.value * 10 ^ places) := by
  constructor
  · intro h
    exact (towardZero_value_of_truncate? h).symm
  · intro value
    cases cut : d.truncate? places with
    | none =>
      have large := tenTo_le_of_truncate?_eq_none cut
      have small := natAbs_lt_of_fits fits
      rw [← value] at large
      omega
    | some g => rw [value, towardZero_value_of_truncate? cut]

end Decimal

namespace FixedPoint

/-- What a text denotes in units of `10 ^ -scale`. -/
def Denotes (cs : List Char) (s : Scale) (f : Int) : Prop :=
  ∃ n : Numeral, n.Spells cs ∧ n.Admitted ∧ f = towardZero (n.value * 10 ^ s.digits) ∧
    FitsSigned fixedPointBits f

/-- A text denotes at most one number of units. -/
theorem Denotes.unique {cs : List Char} {s : Scale} {f g : Int} (hf : Denotes cs s f)
    (hg : Denotes cs s g) : f = g := by
  obtain ⟨n, spells, -, rfl, -⟩ := hf
  obtain ⟨k, spells', -, rfl, -⟩ := hg
  rw [spells.unique spells']

theorem parse?_eq_some_iff_denotes {cs : List Char} {s : Scale} {v : FixedPoint} :
    parse? cs s = some v ↔ v.scale = s ∧ Denotes cs s v.fractions := by
  have shape : parse? cs s = some v ↔
      ∃ d, Decimal.parse? cs = some d ∧ d.truncate? s.digits = some v.fractions ∧ v.scale = s := by
    simp only [parse?, Option.bind_eq_bind, Option.bind_eq_some_iff, ofInt?_eq_some_iff]
    constructor
    · rintro ⟨d, read, f, cut, rfl, scale⟩
      exact ⟨d, read, cut, scale⟩
    · rintro ⟨d, read, cut, scale⟩
      exact ⟨d, read, v.fractions, cut, rfl, scale⟩
  rw [shape]
  constructor
  · rintro ⟨d, read, cut, scale⟩
    obtain ⟨n, spells, admitted, rfl⟩ := Decimal.parse?_eq_some_iff_spells.1 read
    refine ⟨scale, n, spells, admitted, ?_, v.fits⟩
    rw [← Decimal.value_ofNumeral]
    exact (Decimal.truncate?_eq_some_iff_of_fits v.fits).1 cut
  · rintro ⟨scale, n, spells, admitted, value, fits⟩
    rw [← Decimal.value_ofNumeral] at value
    exact ⟨Decimal.ofNumeral n, Decimal.parse?_eq_some_iff_spells.2 ⟨n, spells, admitted, rfl⟩,
      (Decimal.truncate?_eq_some_iff_of_fits fits).2 value, scale⟩

theorem decode_eq_ok_iff {kind : TokenKind} {token : String} {s : Scale} {v : FixedPoint} :
    decode kind token s = .ok v ↔ parse? token.toList s = some v := by
  unfold decode
  split <;> rename_i read <;> simp [read]

theorem decode_eq_error_iff {kind : TokenKind} {token : String} {s : Scale} {e : DecodeError} :
    decode kind token s = .error e ↔ e = ⟨kind, token⟩ ∧ parse? token.toList s = none := by
  unfold decode
  split <;> rename_i read <;> simp [read, eq_comm]

/-- **Reading fixed point tokens.** A token is taken exactly if it denotes a number of units, and is
read as that number at the scale asked for. Every other token is handed back unchanged in the
error, with the kind of value that was asked for. -/
theorem decode_truncates_exactly (kind : TokenKind) (token : String) (s : Scale) :
    (∀ v, decode kind token s = .ok v ↔ v.scale = s ∧ Denotes token.toList s v.fractions) ∧
    (∀ e, decode kind token s = .error e ↔
      e = ⟨kind, token⟩ ∧ ∀ f, ¬ Denotes token.toList s f) := by
  refine ⟨fun v => decode_eq_ok_iff.trans parse?_eq_some_iff_denotes, fun e => ?_⟩
  rw [decode_eq_error_iff]
  refine and_congr_right fun _ => ?_
  constructor
  · intro refused f denotes
    obtain ⟨n, spells, admitted, value, fits⟩ := denotes
    have read := parse?_eq_some_iff_denotes (v := ⟨f, s, fits⟩).2
      ⟨rfl, n, spells, admitted, value, fits⟩
    exact absurd (refused.symm.trans read) (by simp)
  · intro nothing
    cases read : parse? token.toList s with
    | none => rfl
    | some v => exact absurd (parse?_eq_some_iff_denotes.1 read).2 (nothing v.fractions)

/-- Digits beyond the scale are cut off on either side of zero. -/
example : (parse? "-1.999".toList ⟨1⟩).map fractions = some (-19) := by decide

/-! ## The text of a value -/

/-- The numeral that a value is written as. -/
def numeral (v : FixedPoint) : Numeral where
  negative := decide (v.fractions < 0)
  whole := natText (v.fractions.natAbs / v.scale.perSecond)
  fraction :=
    if v.scale.digits = 0 then []
    else padded v.scale.digits (v.fractions.natAbs % v.scale.perSecond)
  exponent := 0

theorem isDigits_numeral (v : FixedPoint) : IsDigits (v.numeral.whole ++ v.numeral.fraction) := by
  refine IsDigits.append (isDigits_natText _) ?_
  unfold numeral
  simp only
  split
  · intro c hc
    exact absurd hc List.not_mem_nil
  · exact isDigits_padded _ _

theorem spells_encode (v : FixedPoint) : v.numeral.Spells v.encode.toList := by
  have sign : SignText v.numeral.negative (if v.fractions < 0 then ['-'] else []) :=
    signText_of_int v.fractions
  have digits := v.isDigits_numeral
  have mantissa : MantissaText v.numeral.whole v.numeral.fraction
      (encodeUnits v.scale v.fractions.natAbs) := by
    unfold numeral encodeUnits at *
    simp only at digits ⊢
    split <;> rename_i h
    · rw [List.append_nil]
      exact .plain (isDigits_natText _) (natText_ne_nil _)
    · rw [if_neg h] at digits
      exact .pointed digits fun empty => natText_ne_nil _ (List.append_eq_nil_iff.1 empty).1
  have spells := Numeral.Spells.mk sign mantissa .absent
  rw [List.append_nil] at spells
  rw [encode, String.toList_ofList]
  exact spells

theorem length_fraction_numeral (v : FixedPoint) :
    v.numeral.fraction.length = v.scale.digits := by
  unfold numeral
  simp only
  split <;> rename_i h
  · rw [h, List.length_nil]
  · exact length_padded (Nat.pos_of_ne_zero h) (Nat.mod_lt _ v.scale.perSecond_pos)

/-- The digits of a value, taken without the point, are its number of units. -/
theorem coefficient_numeral (v : FixedPoint) : v.numeral.coefficient = v.fractions.natAbs := by
  have fraction : digitsValue v.numeral.fraction = v.fractions.natAbs % v.scale.perSecond := by
    unfold numeral
    simp only
    split <;> rename_i h
    · rw [digitsValue_nil, Scale.perSecond, h, tenTo_zero, Nat.mod_one]
    · exact digitsValue_padded _ _
  have whole : digitsValue v.numeral.whole = v.fractions.natAbs / v.scale.perSecond :=
    digitsValue_natText _
  rw [Numeral.coefficient, digitsValue_append, length_fraction_numeral, fraction, whole]
  exact Nat.div_add_mod' _ _

theorem unit_numeral (v : FixedPoint) : v.numeral.unit = -(v.scale.digits : Int) := by
  rw [Numeral.unit, length_fraction_numeral]
  simp [numeral]

/-- A value is written with its exact value. -/
theorem value_numeral (v : FixedPoint) : v.numeral.value * 10 ^ v.scale.digits = v.fractions := by
  have sign : v.numeral.negative = decide (v.fractions < 0) := rfl
  rw [Decimal.value_mul_of_unit v.unit_numeral, coefficient_numeral, sign, withSign_natAbs]

theorem admitted_numeral {v : FixedPoint} (valid : v.scale.Valid) : v.numeral.Admitted := by
  rw [← Decimal.fits_ofNumeral_iff v.isDigits_numeral]
  have coefficient : (Decimal.ofNumeral v.numeral).coefficient = v.fractions.natAbs :=
    v.coefficient_numeral
  have exponent : (Decimal.ofNumeral v.numeral).exponent = -(v.scale.digits : Int) :=
    v.unit_numeral
  have nine : v.scale.digits ≤ 9 := valid
  have short : digitCount v.fractions.natAbs ≤ Decimal.maxDigits :=
    (digitCount_le_iff (by decide)).2 (Decimal.natAbs_lt_of_fits v.fits)
  have some := digitCount_pos v.fractions.natAbs
  unfold Decimal.Fits Decimal.adjusted Decimal.digits
  rw [coefficient, exponent]
  unfold Decimal.maxDigits Decimal.maxExponent Decimal.minZeroExponent at *
  split <;> omega

/-- What is written at a scale is read back at it. -/
theorem parse?_encode {v : FixedPoint} (valid : v.scale.Valid) :
    parse? v.encode.toList v.scale = some v := by
  rw [parse?_eq_some_iff_denotes]
  refine ⟨rfl, v.numeral, v.spells_encode, admitted_numeral valid, ?_, v.fits⟩
  rw [value_numeral, towardZero_intCast]

end FixedPoint
end QueryResult.Number
