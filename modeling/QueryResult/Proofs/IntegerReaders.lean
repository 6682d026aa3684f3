import QueryResult.Proofs.FixedPointToken
import QueryResult.Proofs.ScaleBounds
import QueryResult.Value.Decode

/-!
# One integer through several readers

The text of an integer is also a decimal numeral without a point and an exponent (`ofDigits`), so that
the readers of integers and the reader of decimals see the same digits. An integer of 64 bits has few
enough of them for a decimal, however many zeros stand in front.

Each width is read digit by digit with a check at every step (`integerIn?`). As a number only grows
by the digits behind it, no step fails unless the whole of it does not fit (`integerIn?_eq`), which
also holds for the least number of a width. So a narrower reader takes what the widest one takes and
its width holds. The main statement is `integer_readers_agree`.
-/

namespace QueryResult.Number
open QueryResult.Text

variable {bits a b : Nat} {negative : Bool} {ds cs : List Char} {n : Int}

/-! ## Digit by digit -/

/-- A number that fits a width has only such numbers between itself and zero. -/
theorem FitsSigned.mono (le : a ≤ b) (h : FitsSigned bits (withSign negative b)) :
    FitsSigned bits (withSign negative a) := by
  have width := twoTo_pos (bits - 1)
  unfold FitsSigned withSign at *
  cases negative <;> simp only [Bool.false_eq_true, if_false, if_true] at * <;> omega

/-- A number with one more digit behind it, each step at a width. The digits of a negative number
count downwards, so that the least number of the width can be reached. -/
def pushDigit? (bits : Nat) (negative : Bool) (acc : Int) (c : Char) : Option Int := do
  let digit ← natural? [c]
  let shifted ← signed? bits (acc * 10)
  signed? bits (if negative then shifted - digit else shifted + digit)

/-- The integer that a text spells, read digit by digit at a width. -/
def integerIn? (bits : Nat) (cs : List Char) : Option Int :=
  let (negative, ds) := splitSign cs
  if ds.isEmpty then none else ds.foldlM (pushDigit? bits negative) 0

theorem pushDigit?_eq_some_iff {c : Char} :
    pushDigit? bits negative (withSign negative a) c = some n ↔
      c.isDigit = true ∧ n = withSign negative (a * 10 + digitsValue [c]) ∧ FitsSigned bits n := by
  have shifted : withSign negative a * 10 = withSign negative (a * 10) := by
    unfold withSign
    split <;> omega
  have pushed : (if negative then withSign negative (a * 10) - digitsValue [c]
      else withSign negative (a * 10) + digitsValue [c]) =
      withSign negative (a * 10 + digitsValue [c]) := by
    unfold withSign
    split <;> omega
  have single : IsDigits [c] ↔ c.isDigit = true := by simp [IsDigits]
  simp only [pushDigit?, Option.bind_eq_bind, Option.bind_eq_some_iff, natural?_eq_some_iff,
    signed?_eq_some_iff, single, shifted]
  constructor
  · rintro ⟨_, ⟨digit, -, rfl⟩, _, ⟨rfl, -⟩, rfl, fits⟩
    rw [pushed] at fits ⊢
    exact ⟨digit, rfl, fits⟩
  · rintro ⟨digit, rfl, fits⟩
    refine ⟨_, ⟨digit, List.cons_ne_nil _ _, rfl⟩, _, ⟨rfl, fits.mono (Nat.le_add_right _ _)⟩, ?_⟩
    rw [pushed]
    exact ⟨rfl, fits⟩

/-- From a number on, digits are taken exactly if what they make together fits. -/
theorem foldlM_pushDigit?_eq_some_iff (fits : FitsSigned bits (withSign negative a)) :
    ds.foldlM (pushDigit? bits negative) (withSign negative a) = some n ↔
      IsDigits ds ∧ n = withSign negative (a * tenTo ds.length + digitsValue ds) ∧
        FitsSigned bits n := by
  induction ds generalizing a with
  | nil =>
    have none_ : IsDigits [] := fun c hc => absurd hc List.not_mem_nil
    rw [List.foldlM_nil, Option.pure_def, Option.some.injEq, List.length_nil, tenTo_zero,
      Nat.mul_one, digitsValue_nil, Nat.add_zero]
    constructor
    · rintro rfl
      exact ⟨none_, rfl, fits⟩
    · rintro ⟨-, rfl, -⟩
      rfl
  | cons c ds ih =>
    have whole : (a * 10 + digitsValue [c]) * tenTo ds.length + digitsValue ds =
        a * tenTo (c :: ds).length + digitsValue (c :: ds) := by
      rw [digitsValue_cons c ds, List.length_cons, tenTo_succ]
      ring
    rw [List.foldlM_cons, Option.bind_eq_bind, Option.bind_eq_some_iff, ← whole]
    constructor
    · rintro ⟨_, pushed, rest⟩
      obtain ⟨digit, rfl, fits'⟩ := pushDigit?_eq_some_iff.1 pushed
      obtain ⟨digits, total⟩ := (ih fits').1 rest
      exact ⟨List.forall_mem_cons.2 ⟨digit, digits⟩, total⟩
    · rintro ⟨digits, value, total⟩
      obtain ⟨digit, digits⟩ := List.forall_mem_cons.1 digits
      have grown : a * 10 + digitsValue [c] ≤
          (a * 10 + digitsValue [c]) * tenTo ds.length + digitsValue ds :=
        Nat.le_add_right_of_le (Nat.le_mul_of_pos_right _ (tenTo_pos _))
      have fits' := FitsSigned.mono grown (value ▸ total)
      exact ⟨_, pushDigit?_eq_some_iff.2 ⟨digit, rfl, fits'⟩, (ih fits').2 ⟨digits, value, total⟩⟩

/-- Checking every step refuses no integer that fits as a whole, and takes no other. -/
theorem integerIn?_eq (bits : Nat) (cs : List Char) :
    integerIn? bits cs = integerOfWidth? bits cs := by
  have zero : FitsSigned bits 0 := by
    have width := twoTo_pos (bits - 1)
    unfold FitsSigned
    omega
  cases parts : splitSign cs with
  | mk negative ds =>
    have start : withSign negative 0 = 0 := by cases negative <;> rfl
    ext n
    have checked : ds.foldlM (pushDigit? bits negative) (withSign negative 0) = some n ↔ _ :=
      foldlM_pushDigit?_eq_some_iff (start.symm ▸ zero)
    rw [start, Nat.zero_mul, Nat.zero_add] at checked
    rw [integerOfWidth?_eq_some_iff, integer?, integerIn?, parts]
    simp only [Option.map_eq_some_iff, natural?_eq_some_iff]
    split <;> rename_i empty
    · rw [List.isEmpty_iff] at empty
      simp [empty]
    · rw [List.isEmpty_iff] at empty
      rw [checked]
      constructor
      · rintro ⟨digits, rfl, fits⟩
        exact ⟨⟨_, ⟨digits, empty, rfl⟩, rfl⟩, fits⟩
      · rintro ⟨⟨_, ⟨digits, -, rfl⟩, rfl⟩, fits⟩
        exact ⟨digits, rfl, fits⟩

/-! ## Integers as numerals -/

/-- A text of a sign and digits, of which there may be none. -/
def SignedDigits (cs : List Char) : Prop :=
  ∃ negative s ds, SignText negative s ∧ IsDigits ds ∧ cs = s ++ ds

namespace Numeral

/-- The numeral of a sign and digits alone. -/
def ofDigits (negative : Bool) (ds : List Char) : Numeral :=
  ⟨negative, ds, [], 0⟩

theorem spells_ofDigits {s : List Char} (sign : SignText negative s) (digits : IsDigits ds)
    (some : ds ≠ []) : (ofDigits negative ds).Spells (s ++ ds) := by
  have spells := Spells.mk (n := ofDigits negative ds) sign (.plain digits some) .absent
  rwa [List.append_nil] at spells

theorem ofNumeral_ofDigits (negative : Bool) (ds : List Char) :
    Decimal.ofNumeral (ofDigits negative ds) = ⟨negative, digitsValue ds, 0⟩ := by
  unfold Decimal.ofNumeral coefficient unit ofDigits
  rw [List.append_nil]
  rfl

end Numeral

namespace Decimal

/-- A decimal without digits after the point and zeros before it is its coefficient. -/
theorem value_of_exponent_zero (negative : Bool) (c : Nat) :
    (⟨negative, c, 0⟩ : Decimal).value = (withSign negative c : ℚ) := by
  rw [value, magnitude, zpow_zero, mul_one, signFactor_mul_natCast]

/-- An integer of 64 bits has at most nineteen digits. -/
theorem fits_of_fitsSigned (fits : FitsSigned 64 (withSign negative a)) :
    (⟨negative, a, 0⟩ : Decimal).Fits := by
  have width : twoTo (64 - 1) < tenTo 19 := by decide
  have below : a < tenTo 19 := by
    have size := natAbs_withSign negative a
    obtain ⟨low, high⟩ := fits
    omega
  have short : digitCount a ≤ 19 := (digitCount_le_iff (by decide)).2 below
  have pos := digitCount_pos a
  unfold Fits adjusted digits maxDigits maxExponent minZeroExponent
  simp only
  split <;> omega

theorem parse?_of_integerText (text : IntegerText n cs) (fits : FitsSigned 64 n) :
    ∃ d, parse? cs = some d ∧ d.value = n ∧ d.scale = 0 := by
  obtain ⟨sign, digits, some_⟩ := text
  rename_i negative s ds
  refine ⟨⟨negative, digitsValue ds, 0⟩, ?_, value_of_exponent_zero negative _, rfl⟩
  have scanned := Numeral.scan?_eq_some_iff.2 (Numeral.spells_ofDigits sign digits some_)
  rw [parse?, scanned, Option.map_some, Numeral.ofNumeral_ofDigits]
  exact Option.filter_some_pos (by simpa using fits_of_fitsSigned fits)

/-- Where there are only digits, the value of a decimal is that of the digits. -/
theorem integerText_of_parse? {d : Decimal} (signed : SignedDigits cs)
    (read : parse? cs = some d) (value : d.value = n) : IntegerText n cs := by
  obtain ⟨negative, s, ds, sign, digits, rfl⟩ := signed
  obtain ⟨m, spells, -, rfl⟩ := parse?_eq_some_iff_spells.1 read
  have some_ : ds ≠ [] := by
    rintro rfl
    -- A sign alone is no numeral.
    have scanned := Numeral.scan?_eq_some_iff.2 spells
    cases sign <;> nomatch scanned
  obtain rfl := spells.unique (Numeral.spells_ofDigits sign digits some_)
  rw [Numeral.ofNumeral_ofDigits, value_of_exponent_zero, Int.cast_inj] at value
  exact value ▸ .mk sign digits some_

end Decimal
end QueryResult.Number

namespace QueryResult.Value
open QueryResult.Number

variable {token : String} {type : ColumnType} {n : Int}

/-! ## Readers -/

theorem readInteger_eq_ok_iff {bits : Nat} {kind : TokenKind} {as : Representation} :
    readInteger bits kind as token type = .ok n ↔
      type.scalarType.isTextualNumber = true ∧ IntegerText n token.toList ∧ FitsSigned bits n := by
  rw [← integer?_eq_some_iff, ← integerOfWidth?_eq_some_iff]
  unfold readInteger
  split <;> rename_i textual
  · split <;> rename_i read <;> simp [read, textual]
  · simp [notRead, textual]

theorem readDecimal_eq_ok_iff {d : Decimal} : readDecimal token type = .ok d ↔
    type.scalarType.isTextualNumber = true ∧ Decimal.parse? token.toList = some d := by
  unfold readDecimal Decimal.decode
  split <;> rename_i textual
  · split <;> rename_i read <;> simp [read, textual, decoded]
  · simp [notRead, textual]

/-- What the readers of numbers make of a token. -/
structure NumbersAgree (token : String) (type : ColumnType) : Prop where
  /-- The widest integers are read from the texts of integers that fit. -/
  long : ∀ n, readLong token type = .ok n ↔ IntegerText n token.toList ∧ FitsSigned 64 n
  /-- With a check at every digit no other integers come out, at any width. -/
  steps : ∀ bits, integerIn? bits token.toList = integerOfWidth? bits token.toList
  /-- The narrower readers take what the widest takes and their width holds. -/
  short : ∀ n, readShort token type = .ok n ↔ readLong token type = .ok n ∧ FitsSigned 16 n
  int : ∀ n, readInt token type = .ok n ↔ readLong token type = .ok n ∧ FitsSigned 32 n
  /-- An integer is read as the decimal of the same value without digits after the point. -/
  decimal : ∀ n, readLong token type = .ok n →
    ∃ d, readDecimal token type = .ok d ∧ d.value = n ∧ d.scale = 0
  /-- A decimal that is written as an integer is read as one, if 64 bits hold it. -/
  integer : SignedDigits token.toList → ∀ (d : Decimal) (n : Int),
    readDecimal token type = .ok d → d.value = n → FitsSigned 64 n → readLong token type = .ok n

/-- A narrower width lies within a wider one. -/
theorem readInteger_eq_ok_iff_readLong {bits : Nat} {kind : TokenKind} {as : Representation}
    (narrow : twoTo (bits - 1) ≤ twoTo (64 - 1)) :
    readInteger bits kind as token type = .ok n ↔
      readLong token type = .ok n ∧ FitsSigned bits n := by
  rw [readLong, readInteger_eq_ok_iff, readInteger_eq_ok_iff]
  have wider : FitsSigned bits n → FitsSigned 64 n := by
    unfold FitsSigned
    omega
  constructor
  · rintro ⟨textual, text, fits⟩
    exact ⟨⟨textual, text, wider fits⟩, fits⟩
  · rintro ⟨⟨textual, text, -⟩, fits⟩
    exact ⟨textual, text, fits⟩

/-- **The readers of integers and decimals agree** on every token of a column of numbers. -/
theorem integer_readers_agree (token : String) (type : ColumnType)
    (textual : type.scalarType.isTextualNumber = true) : NumbersAgree token type := by
  have long : ∀ n, readLong token type = .ok n ↔
      IntegerText n token.toList ∧ FitsSigned 64 n := by
    intro n
    rw [readLong, readInteger_eq_ok_iff]
    exact and_iff_right textual
  constructor
  case long => exact long
  case steps => exact fun bits => integerIn?_eq bits token.toList
  case short => exact fun n => readInteger_eq_ok_iff_readLong (by decide)
  case int => exact fun n => readInteger_eq_ok_iff_readLong (by decide)
  case decimal =>
    intro n read
    obtain ⟨text, fits⟩ := (long n).1 read
    obtain ⟨d, parsed, value, scale⟩ := Decimal.parse?_of_integerText text fits
    exact ⟨d, readDecimal_eq_ok_iff.2 ⟨textual, parsed⟩, value, scale⟩
  case integer =>
    intro signed d n read value fits
    obtain ⟨-, parsed⟩ := readDecimal_eq_ok_iff.1 read
    exact (long n).2 ⟨Decimal.integerText_of_parse? signed parsed value, fits⟩

/-- The least integer of 64 bits behind more zeros than a decimal has digits. -/
def leastToken : String :=
  "-00000000000000000000000000000000000000009223372036854775808"

theorem integer_readers_agree_least :
    ScalarType.decimal.isTextualNumber = true ∧ NumbersAgree leastToken ⟨.decimal, 0, false⟩ ∧
      readLong leastToken ⟨.decimal, 0, false⟩ = .ok (-9223372036854775808) ∧
      ∃ d, readDecimal leastToken ⟨.decimal, 0, false⟩ = .ok d ∧
        d.value = ((-9223372036854775808 : Int) : ℚ) := by
  have agree := integer_readers_agree leastToken ⟨.decimal, 0, false⟩ (by decide)
  have read : readLong leastToken ⟨.decimal, 0, false⟩ = .ok (-9223372036854775808) := by
    decide +kernel
  obtain ⟨d, decimal, value, -⟩ := agree.decimal _ read
  exact ⟨by decide, agree, read, d, decimal, value⟩

end QueryResult.Value
