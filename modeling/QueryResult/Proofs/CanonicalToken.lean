import QueryResult.Proofs.FixedPointToken

/-!
# Canonical tokens

Many texts are read as one fixed point value: a plus sign, zeros in front, an exponent, digits
beyond the scale and a minus sign before zero make no difference to it. One of them is canonical,
and it is the one that the value is written as (`toList_encode_of_canonical`, `canonical_encode`).
So reading a token and writing it again brings it to its canonical form, and changes nothing exactly
if it was in it before. The main statement is `encoding_normalizes`.
-/

namespace QueryResult.Number.FixedPoint
open QueryResult.Text

/-- The canonical texts at a scale: a minus sign only before a value that is not zero, no
superfluous zeros in front, and after a point exactly the digits of the scale, without a point if it
has none. -/
inductive Canonical (s : Scale) : List Char → Prop
  | mk {negative : Bool} {whole fraction : List Char} (digits : IsDigits (whole ++ fraction))
      (some : whole ≠ []) (leading : NoLeadingZero whole) (length : fraction.length = s.digits)
      (sign : negative = true → digitsValue (whole ++ fraction) ≠ 0) :
      Canonical s ((if negative then ['-'] else []) ++
        (whole ++ if s.digits = 0 then [] else '.' :: fraction))

/-! ## What is written is canonical -/

/-- The text of a value is its numeral with a sign and a point. -/
theorem toList_encode (v : FixedPoint) :
    v.encode.toList = (if v.numeral.negative then ['-'] else []) ++
      (v.numeral.whole ++ if v.scale.digits = 0 then [] else '.' :: v.numeral.fraction) := by
  rw [encode, String.toList_ofList, encodeUnits]
  simp only [numeral, decide_eq_true_eq]
  by_cases seconds : v.scale.digits = 0
  · simp only [seconds, if_true]
  · simp only [seconds, if_false]

theorem canonical_encode (v : FixedPoint) : Canonical v.scale v.encode.toList := by
  rw [toList_encode]
  refine .mk v.isDigits_numeral (natText_ne_nil _) (noLeadingZero_natText _)
    v.length_fraction_numeral fun negative zero => ?_
  have units : v.fractions.natAbs = 0 := v.coefficient_numeral.symm.trans zero
  have below : v.fractions < 0 := of_decide_eq_true negative
  omega

/-! ## What is canonical is written -/

section Parts

variable {s : Scale} {negative : Bool} {whole fraction : List Char}

/-- The whole part and the fraction of a run of digits that is cut at a scale. -/
theorem digitsValue_parts (digits : IsDigits (whole ++ fraction))
    (length : fraction.length = s.digits) :
    digitsValue (whole ++ fraction) / s.perSecond = digitsValue whole ∧
      digitsValue (whole ++ fraction) % s.perSecond = digitsValue fraction := by
  have low : digitsValue fraction < s.perSecond := by
    have := digitsValue_lt digits.right
    rwa [length] at this
  have value : digitsValue (whole ++ fraction) =
      s.perSecond * digitsValue whole + digitsValue fraction := by
    rw [digitsValue_append, length, Nat.mul_comm]
    rfl
  rw [value]
  constructor
  · rw [Nat.mul_add_div s.perSecond_pos, Nat.div_eq_of_lt low, Nat.add_zero]
  · rw [Nat.mul_add_mod, Nat.mod_eq_of_lt low]

/-- The digits of a canonical text are written for the number that they spell. -/
theorem encodeUnits_digitsValue (digits : IsDigits (whole ++ fraction)) (some : whole ≠ [])
    (leading : NoLeadingZero whole) (length : fraction.length = s.digits) :
    encodeUnits s (digitsValue (whole ++ fraction)) =
      whole ++ if s.digits = 0 then [] else '.' :: fraction := by
  obtain ⟨upper, lower⟩ := digitsValue_parts digits length
  rw [encodeUnits, upper, lower, natText_digitsValue digits.left some leading]
  split <;> rename_i h
  · rfl
  · have long : fraction ≠ [] := by
      rintro rfl
      exact h length.symm
    rw [← length, padded_digitsValue digits.right long]

/-- A minus sign that stands before a number other than zero is written again. -/
theorem withSign_neg_iff {n : Nat} (sign : negative = true → n ≠ 0) :
    withSign negative n < 0 ↔ negative = true := by
  unfold withSign
  cases negative with
  | false => simp
  | true =>
    have := sign rfl
    simp only [if_true, iff_true]
    omega

/-- The numeral of a canonical text. -/
theorem spells_canonical (digits : IsDigits (whole ++ fraction)) (some : whole ≠ [])
    (length : fraction.length = s.digits) :
    Numeral.Spells ⟨negative, whole, fraction, 0⟩ ((if negative then ['-'] else []) ++
      (whole ++ if s.digits = 0 then [] else '.' :: fraction)) := by
  have sign : SignText negative (if negative then ['-'] else []) := by
    cases negative with
    | false => exact .absent
    | true => exact .minus
  have mantissa : MantissaText whole fraction
      (whole ++ if s.digits = 0 then [] else '.' :: fraction) := by
    split <;> rename_i h
    · obtain rfl : fraction = [] := List.length_eq_zero_iff.1 (length.trans h)
      rw [List.append_nil]
      exact .plain digits.left some
    · exact .pointed digits fun empty => some (List.append_eq_nil_iff.1 empty).1
  have spells := Numeral.Spells.mk (n := ⟨negative, whole, fraction, 0⟩) sign mantissa .absent
  rwa [List.append_nil] at spells

end Parts

/-- A canonical text is what the value that it denotes is written as. -/
theorem toList_encode_of_canonical {cs : List Char} {v : FixedPoint}
    (canonical : Canonical v.scale cs) (denotes : Denotes cs v.scale v.fractions) :
    v.encode.toList = cs := by
  obtain ⟨digits, some, leading, length, sign⟩ := canonical
  rename_i negative whole fraction
  obtain ⟨n, spells, -, value, -⟩ := denotes
  obtain rfl : n = ⟨negative, whole, fraction, 0⟩ :=
    spells.unique (spells_canonical digits some length)
  have units : v.fractions = withSign negative (digitsValue (whole ++ fraction)) := by
    have unit : Numeral.unit ⟨negative, whole, fraction, 0⟩ = -(v.scale.digits : Int) := by
      rw [Numeral.unit, length]
      exact Int.zero_sub _
    rw [value, Decimal.value_mul_of_unit unit, towardZero_intCast]
    rfl
  rw [encode, String.toList_ofList, units, natAbs_withSign,
    encodeUnits_digitsValue digits some leading length]
  simp only [withSign_neg_iff sign]

/-! ## Reading and writing again -/

/-- **Writing what was read brings a token to its canonical form**, and leaves it as it is exactly
if it is canonical. The canonical form denotes the same value. -/
theorem encoding_normalizes {kind : TokenKind} {token : String} {s : Scale} {v : FixedPoint}
    (valid : s.Valid) (read : decode kind token s = .ok v) :
    (v.encode = token ↔ Canonical s token.toList) ∧ Canonical s v.encode.toList ∧
      ∀ kind, decode kind v.encode s = .ok v := by
  obtain ⟨rfl, denotes⟩ := parse?_eq_some_iff_denotes.1 (decode_eq_ok_iff.1 read)
  refine ⟨⟨?_, fun canonical => ?_⟩, v.canonical_encode, fun kind => ?_⟩
  · rintro rfl
    exact v.canonical_encode
  · exact String.toList_inj.1 (toList_encode_of_canonical canonical denotes)
  · exact decode_eq_ok_iff.2 (parse?_encode valid)

/-- A value that is cut to zero loses its minus sign, its exponent and the zeros in front. -/
theorem encoding_normalizes_negativeZero :
    (⟨1⟩ : Scale).Valid ∧ decode .time "-00.5e-1" ⟨1⟩ = .ok ⟨0, ⟨1⟩, by decide⟩ ∧
      ¬ Canonical ⟨1⟩ "-00.5e-1".toList ∧ Canonical ⟨1⟩ "0.0".toList := by
  have read : decode .time "-00.5e-1" ⟨1⟩ = .ok ⟨0, ⟨1⟩, by decide⟩ := by decide
  have written : encode ⟨0, ⟨1⟩, by decide⟩ = "0.0" := by decide
  obtain ⟨unchanged, canonical, -⟩ := encoding_normalizes (by decide) read
  rw [written] at unchanged canonical
  exact ⟨by decide, read, fun h => absurd (unchanged.2 h) (by decide), canonical⟩

end QueryResult.Number.FixedPoint
