import Mathlib.Tactic.Linarith
import QueryResult.Proofs.FixedPointToken
import QueryResult.Value.Decode

/-!
# Rounding to a number of places

`Nearest` says what rounding half up is without saying how it is done: the multiple of a unit that
is nearest to a number, and of two that are equally near the one farther from zero. There is at most
one such multiple (`Nearest.unique`). Dropping digits from a coefficient finds it, and appending
zeros keeps the number itself; only the latter can need too many digits (`rescale?_eq_some_iff`).

So reading a token at a number of places is rounding its exact value (`half_up_rounding`). Nothing
is rounded twice, as the token is read with all its digits or not at all.
-/

namespace QueryResult.Number
open QueryResult.Text

/-- That `r` is the multiple of a unit nearest to `q`, a tie going away from zero. -/
structure Nearest (unit q r : ℚ) : Prop where
  multiple : ∃ k : ℤ, r = k * unit
  near : ∀ k : ℤ, |q - r| ≤ |q - k * unit|
  away : ∀ k : ℤ, |q - k * unit| = |q - r| → |k * unit| ≤ |r|

namespace Nearest

variable {unit q r r' : ℚ}

/-- Two multiples that are equally near and equally far from zero are the same, since of a number
and its negative one is nearer, unless both are zero. -/
theorem unique (h : Nearest unit q r) (h' : Nearest unit q r') : r = r' := by
  obtain ⟨k, rfl⟩ := h.multiple
  obtain ⟨k', rfl⟩ := h'.multiple
  have near : |q - k * unit| = |q - k' * unit| := le_antisymm (h.near k') (h'.near k)
  have size : |k * unit| = |k' * unit| := le_antisymm (h'.away k near) (h.away k' near.symm)
  rcases abs_eq_abs.1 size with same | opposite
  · exact same
  · rw [opposite] at near
    have zero : (k' : ℚ) * unit = 0 := by
      rcases abs_eq_abs.1 near with left | right
      · linarith
      · obtain rfl : q = 0 := by linarith
        have near := h'.near 0
        rw [zero_sub, abs_neg, Int.cast_zero, zero_mul, sub_zero, abs_zero] at near
        exact abs_nonpos_iff.1 near
    rw [opposite, zero, neg_zero]

theorem neg (h : Nearest unit q r) : Nearest unit (-q) (-r) := by
  have mirror : ∀ k : ℤ, |-q - k * unit| = |q - (-k : ℤ) * unit| := by
    intro k
    rw [← abs_neg, Int.cast_neg]
    congr 1
    ring
  have mirror' : |-q - -r| = |q - r| := by
    rw [← abs_neg]
    congr 1
    ring
  constructor
  · obtain ⟨k, rfl⟩ := h.multiple
    exact ⟨-k, by rw [Int.cast_neg, neg_mul]⟩
  · intro k
    rw [mirror, mirror']
    exact h.near (-k)
  · intro k tie
    rw [mirror, mirror'] at tie
    have size := h.away (-k) tie
    rwa [Int.cast_neg, neg_mul, abs_neg, ← abs_neg r] at size

/-- A multiple of the unit is kept. -/
theorem eq_of_multiple (h : Nearest unit q r) {k : ℤ} (exact_ : q = k * unit) : r = q := by
  have near := h.near k
  rw [← exact_, sub_self, abs_zero] at near
  exact (sub_eq_zero.1 (abs_nonpos_iff.1 near)).symm

theorem of_multiple (k : ℤ) : Nearest unit (k * unit) (k * unit) := by
  refine ⟨⟨k, rfl⟩, fun j => ?_, fun j tie => ?_⟩
  · rw [sub_self, abs_zero]
    exact abs_nonneg _
  · rw [sub_self, abs_zero] at tie
    rw [sub_eq_zero.1 (abs_eq_zero.1 tie)]

/-- The whole part of a number and a half is nearest to it, if the number is not negative. -/
theorem of_half {c : ℕ} (pos : 0 < unit) (nonneg : 0 ≤ q) (low : c * unit ≤ q + unit / 2)
    (high : q + unit / 2 < (c + 1) * unit) : Nearest unit q (c * unit) := by
  have within : |q - c * unit| ≤ unit / 2 := abs_le.2 ⟨by linarith, by linarith⟩
  have below : ∀ k : ℤ, k < c → unit / 2 ≤ q - k * unit := by
    intro k lt
    have step : (k : ℚ) ≤ c - 1 := by exact_mod_cast Int.le_sub_one_of_lt lt
    have := mul_le_mul_of_nonneg_right step pos.le
    linarith
  have above : ∀ k : ℤ, (c : ℤ) < k → unit / 2 < k * unit - q := by
    intro k lt
    have step : (c : ℚ) + 1 ≤ k := by exact_mod_cast Int.add_one_le_of_lt lt
    have := mul_le_mul_of_nonneg_right step pos.le
    linarith
  constructor
  case multiple => exact ⟨c, by rw [Int.cast_natCast]⟩
  case near =>
    intro k
    rcases lt_trichotomy k c with lt | rfl | gt
    · exact within.trans (le_abs.2 (.inl (below k lt)))
    · rw [Int.cast_natCast]
    · exact within.trans (le_abs.2 (.inr (by linarith [above k gt])))
  case away =>
    intro k tie
    have size : |(c : ℚ) * unit| = c * unit :=
      abs_of_nonneg (mul_nonneg (Nat.cast_nonneg c) pos.le)
    rw [size]
    rcases lt_trichotomy k c with lt | rfl | gt
    · have near := below k lt
      rw [abs_of_nonneg (a := q - k * unit) (by linarith)] at tie
      refine abs_le.2 ⟨?_, by linarith⟩
      rcases abs_choice (q - c * unit) with side | side
      · rw [side] at tie
        linarith
      · rw [side] at tie
        linarith
    · rw [Int.cast_natCast, size]
    · have far : unit / 2 < |q - k * unit| := lt_abs.2 (.inr (by linarith [above k gt]))
      linarith

end Nearest

namespace Decimal

/-! ## The coefficient -/

theorem dropRounded_eq (c k : Nat) : dropRounded c k = (2 * c + tenTo k) / (2 * tenTo k) := by
  unfold dropRounded
  split <;> rename_i short
  · have small : 10 * c < tenTo k := by
      have lt := (lt_tenTo_digitCount c).trans_le (tenTo_le_tenTo (Nat.le_sub_one_of_lt short))
      have ten : tenTo k = tenTo (k - 1) * 10 := by
        rw [← tenTo_succ, Nat.sub_add_cancel (Nat.zero_lt_of_lt short)]
      omega
    rw [Nat.div_eq_of_lt (by omega)]
  · rfl

/-- Without its last digits a coefficient is not larger. -/
theorem dropRounded_le (c : Nat) {k : Nat} (pos : 0 < k) : dropRounded c k ≤ c := by
  have ten : 10 ≤ tenTo k := tenTo_le_tenTo (j := 1) pos
  rw [dropRounded_eq]
  refine Nat.le_of_lt_succ ((Nat.div_lt_iff_lt_mul (by omega)).2 ?_)
  have : 2 * c ≤ c * (2 * tenTo k) := by
    rw [Nat.mul_comm 2 c]
    exact Nat.mul_le_mul_left c (by omega)
  have next := Nat.succ_mul c (2 * tenTo k)
  omega

/-- Dropping digits takes the whole part of the quotient and a half. -/
theorem dropRounded_bounds (c k : Nat) :
    (dropRounded c k : ℚ) ≤ c / (tenTo k : Nat) + 1 / 2 ∧
      (c : ℚ) / (tenTo k : Nat) + 1 / 2 < dropRounded c k + 1 := by
  have pos := tenTo_pos k
  have pos' : (0 : ℚ) < (tenTo k : Nat) := by exact_mod_cast pos
  have low : dropRounded c k * (2 * tenTo k) ≤ 2 * c + tenTo k := by
    rw [dropRounded_eq]
    exact Nat.div_mul_le_self _ _
  have high : 2 * c + tenTo k < (dropRounded c k + 1) * (2 * tenTo k) := by
    rw [dropRounded_eq]
    exact (Nat.div_lt_iff_lt_mul (by omega)).1 (Nat.lt_succ_self _)
  have low : (dropRounded c k : ℚ) * (2 * (tenTo k : Nat)) ≤ 2 * c + (tenTo k : Nat) := by
    exact_mod_cast low
  have high : (2 * c + (tenTo k : Nat) : ℚ) < (dropRounded c k + 1) * (2 * (tenTo k : Nat)) := by
    exact_mod_cast high
  constructor
  · rw [← sub_le_iff_le_add, le_div_iff₀ pos']
    linarith
  · rw [← lt_sub_iff_add_lt, div_lt_iff₀ pos']
    linarith

/-- The unit that a number of places after the point ends with. -/
def unitOf (places : Nat) : ℚ :=
  10 ^ (-(places : ℤ))

theorem unitOf_pos (places : Nat) : 0 < unitOf places :=
  zpow_pos (by norm_num) _

/-- A magnitude in terms of the unit. -/
theorem magnitude_eq_mul_unitOf (d : Decimal) (places : Nat) :
    d.magnitude = d.magnitude * 10 ^ places * unitOf places := by
  have ten : (10 : ℚ) ^ places ≠ 0 := pow_ne_zero _ (by norm_num)
  rw [unitOf, zpow_neg, zpow_natCast, mul_assoc, mul_inv_cancel₀ ten, mul_one]

/-- The rounded coefficient counts the units nearest to the magnitude. -/
theorem nearest_of_coefficientAt? {d : Decimal} {places c : Nat}
    (h : coefficientAt? dropRounded d places = some c) :
    Nearest (unitOf places) d.magnitude (c * unitOf places) := by
  unfold coefficientAt? at h
  simp only at h
  split at h <;> rename_i sign
  · obtain ⟨k, shift⟩ := Int.eq_ofNat_of_zero_le sign
    rw [shift] at h
    rw [magnitude_eq_mul_unitOf d places, magnitude_mul_of_nonneg shift, appendZeros?_eq_some h]
    exact Nearest.of_multiple (d.coefficient * tenTo k : Nat)
  · obtain ⟨k, shift⟩ := Int.eq_ofNat_of_zero_le (a := -(d.exponent + places)) (by omega)
    have scaled : d.magnitude * 10 ^ places = (d.coefficient : ℚ) / (tenTo k : Nat) :=
      magnitude_mul_of_neg (by omega)
    rw [shift, Option.some.injEq] at h
    obtain ⟨low, high⟩ := h ▸ dropRounded_bounds d.coefficient k
    have unit := unitOf_pos places
    refine Nearest.of_half unit d.magnitude_nonneg ?_ ?_ <;>
      rw [magnitude_eq_mul_unitOf d places, scaled]
    · have := mul_le_mul_of_nonneg_right low unit.le
      linarith
    · have := mul_lt_mul_of_pos_right high unit
      linarith

/-- The rounded coefficient has no more digits than a decimal may have, if the given one has not. -/
theorem lt_of_coefficientAt? {d : Decimal} {places c : Nat}
    (small : d.coefficient < tenTo maxDigits) (h : coefficientAt? dropRounded d places = some c) :
    c < tenTo maxDigits := by
  unfold coefficientAt? at h
  simp only at h
  split at h <;> rename_i sign
  · unfold appendZeros? at h
    split at h
    · obtain rfl := Option.some.inj h
      exact tenTo_pos maxDigits
    · split at h <;> rename_i fits
      · obtain rfl := Option.some.inj h
        calc d.coefficient * tenTo _
            < tenTo (digitCount d.coefficient) * tenTo (d.exponent + places).toNat :=
              Nat.mul_lt_mul_of_pos_right (lt_tenTo_digitCount _) (tenTo_pos _)
          _ = tenTo (digitCount d.coefficient + (d.exponent + places).toNat) :=
              (tenTo_add _ _).symm
          _ ≤ tenTo maxDigits := tenTo_le_tenTo fits
      · nomatch h
  · obtain rfl := Option.some.inj h
    exact (dropRounded_le _ (by omega)).trans_lt small

/-! ## The decimal -/

/-- A decimal with the other sign. -/
def negated (d : Decimal) : Decimal :=
  { d with negative := !d.negative }

theorem signFactor_not (negative : Bool) : signFactor (!negative) = -signFactor negative := by
  cases negative <;> simp [signFactor]

theorem value_negated (d : Decimal) : d.negated.value = -d.value := by
  rw [value, negated, signFactor_not, neg_mul]
  rfl

/-- A decimal is told by its sign, its exponent and its value. -/
theorem eq_of_value {d e : Decimal} (sign : d.negative = e.negative)
    (exponent : d.exponent = e.exponent) (value : d.value = e.value) : d = e := by
  obtain ⟨negative, c, x⟩ := d
  obtain ⟨negative', c', x'⟩ := e
  simp only at sign exponent
  subst sign exponent
  have factor : signFactor negative ≠ 0 := by
    cases negative <;> simp [signFactor]
  have ten : (10 : ℚ) ^ x ≠ 0 := zpow_ne_zero _ (by norm_num)
  have same : (c : ℚ) = c' := mul_right_cancel₀ ten (mul_left_cancel₀ factor value)
  rw [Nat.cast_inj.1 same]

/-- What a number becomes at a number of places. -/
structure RoundedTo (places : Nat) (negative : Bool) (q : ℚ) (d : Decimal) : Prop where
  /-- The decimal has exactly the places after the point. -/
  exponent : d.exponent = -(places : ℤ)
  /-- The sign stays, also on a zero. -/
  sign : d.negative = negative
  /-- The value is rounded half up. -/
  nearest : Nearest (unitOf places) q d.value
  /-- And it does not need too many digits. -/
  digits : d.digits ≤ maxDigits

theorem RoundedTo.unique {places : Nat} {negative : Bool} {q : ℚ} {d e : Decimal}
    (hd : RoundedTo places negative q d) (he : RoundedTo places negative q e) : d = e :=
  eq_of_value (hd.sign.trans he.sign.symm) (hd.exponent.trans he.exponent.symm)
    (hd.nearest.unique he.nearest)

theorem RoundedTo.negated {places : Nat} {negative : Bool} {q : ℚ} {d : Decimal}
    (h : RoundedTo places negative q d) : RoundedTo places (!negative) (-q) d.negated where
  exponent := h.exponent
  sign := congrArg Bool.not h.sign
  nearest := by
    rw [value_negated]
    exact h.nearest.neg
  digits := h.digits

theorem negated_negated (d : Decimal) : d.negated.negated = d := by
  simp [negated]

theorem Nearest.signed {unit q r : ℚ} (negative : Bool) (h : Nearest unit q r) :
    Nearest unit (signFactor negative * q) (signFactor negative * r) := by
  cases negative with
  | false => simpa [signFactor] using h
  | true => simpa [signFactor] using h.neg

/-- Rescaling rounds half up and keeps the sign. It fails exactly if the result needs too many
digits. -/
theorem rescale?_eq_some_iff {d e : Decimal} {places : Nat}
    (small : d.coefficient < tenTo maxDigits) :
    d.rescale? places = some e ↔ RoundedTo places d.negative d.value e := by
  have rounded : ∀ e, d.rescale? places = some e → RoundedTo places d.negative d.value e := by
    intro e found
    obtain ⟨c, at_, rfl⟩ := Option.map_eq_some_iff.1 found
    refine ⟨rfl, rfl, Nearest.signed d.negative (nearest_of_coefficientAt? at_), ?_⟩
    exact (digitCount_le_iff (by decide)).2 (lt_of_coefficientAt? small at_)
  refine ⟨rounded e, fun h => ?_⟩
  cases found : d.rescale? places with
  | some e' => rw [(rounded e' found).unique h]
  | none =>
    -- The magnitude is a number of units, so that nothing would be rounded.
    obtain ⟨c, scaled, large⟩ :=
      magnitude_of_coefficientAt?_eq_none (Option.map_eq_none_iff.1 found)
    have multiple : d.value = (withSign d.negative c : ℤ) * unitOf places := by
      rw [value, magnitude_eq_mul_unitOf d places, scaled, ← mul_assoc, signFactor_mul_natCast]
    have kept := h.nearest.eq_of_multiple multiple
    have same : e = ⟨d.negative, c, -(places : ℤ)⟩ := by
      refine eq_of_value h.sign h.exponent ?_
      rw [kept, multiple, ← signFactor_mul_natCast, mul_assoc]
      rfl
    have digits : digitCount c ≤ maxDigits := by
      have := h.digits
      rwa [same] at this
    have := (digitCount_le_iff (by decide)).1 digits
    omega

theorem coefficient_lt_of_admitted {n : Numeral} (digits : IsDigits (n.whole ++ n.fraction))
    (admitted : n.Admitted) : (ofNumeral n).coefficient < tenTo maxDigits := by
  have value : (ofNumeral n).coefficient = digitsValue (significant (n.whole ++ n.fraction)) :=
    (digitsValue_significant _).symm
  rw [value]
  exact (digitsValue_lt (isDigits_significant digits)).trans_le (tenTo_le_tenTo admitted.digits)

end Decimal

/-! ## Signs in front of numerals -/

namespace Numeral

/-- A numeral with the other sign. -/
def negated (n : Numeral) : Numeral :=
  { n with negative := !n.negative }

theorem value_negated (n : Numeral) : n.negated.value = -n.value := by
  rw [value, negated, Decimal.signFactor_not, neg_mul, neg_mul]
  rfl

theorem Admitted.negated {n : Numeral} (h : n.Admitted) : n.negated.Admitted :=
  ⟨h.digits, h.zero, h.nonzero⟩

/-- Another sign in front of the same digits makes another sign. -/
theorem Spells.negated {n : Numeral} {negative : Bool} {s s' body : List Char}
    (sign : SignText negative s) (sign' : SignText (!negative) s') (bare : NoSign body)
    (spells : n.Spells (s ++ body)) : n.negative = negative ∧ n.negated.Spells (s' ++ body) := by
  have scanned := scan?_eq_some_iff.2 spells
  rw [scan?, splitSign_append sign bare] at scanned
  obtain ⟨m, x, rfl, rfl, mantissa, exponent⟩ := mantissa_of_scanUnsigned? scanned
  exact ⟨rfl, .mk sign' mantissa exponent⟩

end Numeral
end QueryResult.Number

namespace QueryResult.Value
open QueryResult.Number QueryResult.Text

/-! ## Tokens -/

/-- What a token is read as at a number of places. -/
def Rounds (places : Nat) (token : String) (d : Decimal) : Prop :=
  ∃ n : Numeral, n.Spells token.toList ∧ n.Admitted ∧ Decimal.RoundedTo places n.negative n.value d

theorem readDecimalAt_eq {type : ColumnType} (textual : type.scalarType.isTextualNumber = true)
    (places : Nat) (token : String) :
    readDecimalAt places token type =
      match (Decimal.parse? token.toList).bind (Decimal.rescale? · places) with
      | some d => .ok d
      | none => .error (.decoding none ⟨.numeric, token⟩) := by
  rw [readDecimalAt, readDecimal, if_pos textual, Decimal.decode]
  cases Decimal.parse? token.toList with
  | none => rfl
  | some d =>
    show (match d.rescale? places with
      | some d => Except.ok d
      | none => .error (ReadError.decoding none ⟨.numeric, token⟩)) = _
    rw [Option.bind_some]

theorem rounds_iff {places : Nat} {token : String} {d : Decimal} :
    (Decimal.parse? token.toList).bind (Decimal.rescale? · places) = some d ↔
      Rounds places token d := by
  simp only [Option.bind_eq_some_iff, Decimal.parse?_eq_some_iff_spells]
  constructor
  · rintro ⟨_, ⟨n, spells, admitted, rfl⟩, found⟩
    have small := Decimal.coefficient_lt_of_admitted spells.isDigits admitted
    refine ⟨n, spells, admitted, ?_⟩
    rw [← Decimal.value_ofNumeral]
    exact (Decimal.rescale?_eq_some_iff small).1 found
  · rintro ⟨n, spells, admitted, rounded⟩
    have small := Decimal.coefficient_lt_of_admitted spells.isDigits admitted
    refine ⟨_, ⟨n, spells, admitted, rfl⟩, (Decimal.rescale?_eq_some_iff small).2 ?_⟩
    rw [Decimal.value_ofNumeral]
    exact rounded

theorem Rounds.negated {places : Nat} {negative : Bool} {s s' body : List Char} {d : Decimal}
    (sign : SignText negative s) (sign' : SignText (!negative) s') (bare : NoSign body)
    (h : Rounds places (String.ofList (s ++ body)) d) :
    Rounds places (String.ofList (s' ++ body)) d.negated := by
  obtain ⟨n, spells, admitted, rounded⟩ := h
  rw [String.toList_ofList] at spells
  obtain ⟨-, spells'⟩ := spells.negated sign sign' bare
  refine ⟨n.negated, ?_, admitted.negated, ?_⟩
  · rw [String.toList_ofList]
    exact spells'
  · rw [Numeral.value_negated]
    exact rounded.negated

/-- What reading tokens at a number of places does. -/
structure RoundsHalfUp (places : Nat) (type : ColumnType) : Prop where
  /-- A token is taken exactly if it spells a number that a decimal holds and whose rounded value
  has digits enough, and is read as that. -/
  accepted : ∀ token d, readDecimalAt places token type = .ok d ↔ Rounds places token d
  /-- Every other token is handed back. -/
  refused : ∀ token e, readDecimalAt places token type = .error e ↔
    e = .decoding none ⟨.numeric, token⟩ ∧ ∀ d, ¬ Rounds places token d
  /-- A token without digits beyond the places keeps its value. -/
  kept : ∀ token d, readDecimalAt places token type = .ok d →
    ∀ n : Numeral, n.Spells token.toList → -(places : ℤ) ≤ n.unit → d.value = n.value
  /-- The other sign in front of a number is the other sign of the result. -/
  negated : ∀ negative s s' body d, SignText negative s → SignText (!negative) s' → NoSign body →
    (readDecimalAt places (String.ofList (s ++ body)) type = .ok d ↔
      readDecimalAt places (String.ofList (s' ++ body)) type = .ok d.negated)

/-- **Reading at a number of places rounds the exact value half up.** -/
theorem half_up_rounding (places : Nat) (type : ColumnType)
    (textual : type.scalarType.isTextualNumber = true) : RoundsHalfUp places type := by
  have accepted : ∀ token d, readDecimalAt places token type = .ok d ↔ Rounds places token d := by
    intro token d
    rw [readDecimalAt_eq textual, ← rounds_iff]
    split <;> rename_i found <;> simp [found]
  constructor
  case accepted => exact accepted
  case refused =>
    intro token e
    simp only [readDecimalAt_eq textual, ← rounds_iff]
    split <;> rename_i found <;> simp [found, eq_comm]
  case kept =>
    intro token d read n spells short
    obtain ⟨m, spells', -, rounded⟩ := (accepted token d).1 read
    obtain rfl := spells'.unique spells
    obtain ⟨k, shift⟩ := Int.eq_ofNat_of_zero_le (a := m.unit + places) (by omega)
    refine rounded.nearest.eq_of_multiple (k := withSign m.negative (m.coefficient * tenTo k)) ?_
    have scaled := Decimal.magnitude_mul_of_nonneg (d := .ofNumeral m) shift
    rw [← Decimal.value_ofNumeral, Decimal.value,
      Decimal.magnitude_eq_mul_unitOf (.ofNumeral m) places, scaled, ← mul_assoc,
      signFactor_mul_natCast]
    rfl
  case negated =>
    intro negative s s' body d sign sign' bare
    rw [accepted, accepted]
    constructor
    · exact Rounds.negated sign sign' bare
    · intro h
      have back := Rounds.negated sign' (by rwa [Bool.not_not]) bare h
      rwa [Decimal.negated_negated] at back

/-- Two places of a column of decimals. -/
theorem half_up_rounding_cents :
    ScalarType.decimal.isTextualNumber = true ∧ RoundsHalfUp 2 ⟨.decimal, 0, true⟩ :=
  ⟨by decide, half_up_rounding 2 ⟨.decimal, 0, true⟩ (by decide)⟩

/-- A tie goes away from zero, and a zero keeps its sign. -/
example : readDecimalAt 2 "-0.125" ⟨.decimal, 0, true⟩ = .ok ⟨true, 13, -2⟩ ∧
    readDecimalAt 2 "-0.001" ⟨.decimal, 0, true⟩ = .ok ⟨true, 0, -2⟩ := by decide

end QueryResult.Value
