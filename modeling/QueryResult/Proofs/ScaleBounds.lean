import QueryResult.Column.Metadata
import QueryResult.Proofs.Outcome
import QueryResult.Proofs.TimestampToken
import QueryResult.Value.Decode

/-!
# Scales and the width of numbers

A fixed point value is worked on with numbers of bounded width: the units in a second and the whole
seconds are signed and have 128 bits, the nanoseconds have 32 bits without a sign, and the digits of
a scale are taken from nine without going below zero. `splitIn?` and `encodeIn?` are `split` and
`encode` with a check of each step. The steps succeed, and give the results of the unbounded ones,
exactly at the scales of at most nine digits (`inRegisters_iff`).

Those are the scales that the constructor lets through and that tokens are read at. What JSON brings
in is not checked: any scale of a byte is taken from it. `scale_bounded` has the whole account.
-/

namespace QueryResult.Number
open QueryResult.Text

/-- The natural numbers without a sign at a width. -/
def FitsUnsigned (bits : Nat) (n : Nat) : Prop :=
  n < twoTo bits

instance (bits n : Nat) : Decidable (FitsUnsigned bits n) :=
  inferInstanceAs (Decidable (_ < _))

/-- A result at a width with a sign, if it fits. -/
def signed? (bits : Nat) (n : Int) : Option Int :=
  if FitsSigned bits n then some n else none

/-- A result at a width without a sign, if it fits. -/
def unsigned? (bits n : Nat) : Option Nat :=
  if FitsUnsigned bits n then some n else none

theorem signed?_eq_some {bits : Nat} {n : Int} (h : FitsSigned bits n) : signed? bits n = some n :=
  if_pos h

theorem signed?_eq_some_iff {bits : Nat} {n m : Int} :
    signed? bits n = some m ↔ m = n ∧ FitsSigned bits m := by
  unfold signed?
  split <;> rename_i fits
  · rw [Option.some.injEq]
    constructor
    · rintro rfl
      exact ⟨rfl, fits⟩
    · rintro ⟨rfl, -⟩
      rfl
  · simp only [reduceCtorEq, false_iff]
    rintro ⟨rfl, fits'⟩
    exact fits fits'

theorem unsigned?_eq_some {bits n : Nat} (h : FitsUnsigned bits n) : unsigned? bits n = some n :=
  if_pos h

/-! ## The steps with their widths -/

namespace Scale

/-- The units in one second, in 128 bits. -/
def perSecondIn? (s : Scale) : Option Int :=
  signed? fixedPointBits s.perSecond

/-- The nanoseconds in one unit, in 32 bits. -/
def nanosPerUnitIn? (s : Scale) : Option Nat :=
  if s.digits ≤ nanos.digits then unsigned? 32 (tenTo (nanos.digits - s.digits)) else none

end Scale

namespace FixedPoint

/-- Whole seconds rounded down and the nanoseconds above them, each step at its width. -/
def splitIn? (v : FixedPoint) : Option (Int × Nat) := do
  let per ← v.scale.perSecondIn?
  let whole ← signed? fixedPointBits (v.fractions / per)
  let rest ← unsigned? 32 (v.fractions % per).toNat
  let unit ← v.scale.nanosPerUnitIn?
  let nanos ← unsigned? 32 (rest * unit)
  return (whole, nanos)

/-- The value as text, each step at its width. -/
def encodeIn? (v : FixedPoint) : Option String := do
  let per ← v.scale.perSecondIn?
  let units ← unsigned? fixedPointBits v.fractions.natAbs
  return String.ofList <|
    (if v.fractions < 0 then ['-'] else []) ++ natText (units / per.natAbs) ++
      if v.scale.digits = 0 then [] else '.' :: padded v.scale.digits (units % per.natAbs)

end FixedPoint

theorem tenTo_lt_width {k : Nat} (h : k ≤ 38) : (tenTo k : Int) < twoTo (fixedPointBits - 1) := by
  have le : tenTo k ≤ tenTo 38 := tenTo_le_tenTo h
  have lt : tenTo 38 < twoTo (fixedPointBits - 1) := by decide +kernel
  omega

namespace Scale

variable {s : Scale}

theorem perSecondIn?_eq_some (h : s.digits ≤ 38) : s.perSecondIn? = some (s.perSecond : Int) := by
  refine signed?_eq_some ⟨?_, tenTo_lt_width h⟩
  have := twoTo_pos (fixedPointBits - 1)
  omega

theorem nanosPerUnitIn?_eq_some (valid : s.Valid) : s.nanosPerUnitIn? = some s.nanosPerUnit := by
  have le : tenTo (nanos.digits - s.digits) ≤ tenTo 9 := tenTo_le_tenTo (Nat.sub_le _ _)
  have lt : tenTo 9 < twoTo 32 := by decide
  rw [nanosPerUnitIn?, if_pos (show s.digits ≤ nanos.digits from valid)]
  exact unsigned?_eq_some (Nat.lt_of_le_of_lt le lt)

theorem nanosPerUnitIn?_eq_none (invalid : ¬ s.Valid) : s.nanosPerUnitIn? = none :=
  if_neg invalid

theorem perSecond_le (valid : s.Valid) : s.perSecond ≤ tenTo 9 :=
  tenTo_le_tenTo valid

end Scale

namespace FixedPoint

variable {v : FixedPoint}

/-- A quotient is no larger than the number that is divided. -/
theorem fitsSigned_wholeSeconds : FitsSigned fixedPointBits v.wholeSeconds := by
  obtain ⟨low, high⟩ := v.fits
  have pos := v.zero_lt_perSecond
  have width := twoTo_pos (fixedPointBits - 1)
  constructor
  · refine (Int.le_ediv_iff_mul_le pos).2 ?_
    nlinarith
  · refine (Int.ediv_lt_iff_lt_mul pos).2 ?_
    nlinarith

theorem splitIn?_eq_some (valid : v.scale.Valid) : v.splitIn? = some v.split := by
  have nine : v.scale.digits ≤ 9 := valid
  have least : v.scale.perSecond ≤ tenTo 9 := Scale.perSecond_le valid
  have width : tenTo 9 < twoTo 32 := by decide
  obtain ⟨-, rest_lt⟩ := v.rest_range
  have rest : FitsUnsigned 32 (v.fractions % v.scale.perSecond).toNat := by
    unfold FitsUnsigned
    omega
  have second : FitsUnsigned 32 v.nanos :=
    Nat.lt_trans (nanos_lt valid) (by decide)
  simp only [splitIn?, Scale.perSecondIn?_eq_some (Nat.le_trans nine (by decide)),
    Scale.nanosPerUnitIn?_eq_some valid, unsigned?_eq_some rest, Option.bind_eq_bind,
    Option.bind_some]
  rw [show v.fractions / v.scale.perSecond = v.wholeSeconds from rfl,
    show (v.fractions % v.scale.perSecond).toNat * v.scale.nanosPerUnit = v.nanos from rfl,
    signed?_eq_some fitsSigned_wholeSeconds, unsigned?_eq_some second]
  rfl

/-- Beyond nine digits there is no number of nanoseconds in a unit. -/
theorem splitIn?_eq_none (invalid : ¬ v.scale.Valid) : v.splitIn? = none := by
  simp [splitIn?, Scale.nanosPerUnitIn?_eq_none invalid]

/-- Writing a value asks less of the scale than splitting it. -/
theorem encodeIn?_eq_some (h : v.scale.digits ≤ 38) : v.encodeIn? = some v.encode := by
  have units : FitsUnsigned fixedPointBits v.fractions.natAbs := by
    obtain ⟨low, high⟩ := v.fits
    have double : twoTo fixedPointBits = twoTo (fixedPointBits - 1) * 2 := twoTo_succ _
    unfold FitsUnsigned
    omega
  simp only [encodeIn?, Scale.perSecondIn?_eq_some h, unsigned?_eq_some units, encode, encodeUnits,
    Option.bind_eq_bind, Option.bind_some, Int.natAbs_natCast, List.append_assoc]
  rfl

/-- That all that is computed from a value stays within its width and is what it should be. -/
structure InRegisters (v : FixedPoint) : Prop where
  perSecond : v.scale.perSecondIn? = some (v.scale.perSecond : Int)
  nanosPerUnit : v.scale.nanosPerUnitIn? = some v.scale.nanosPerUnit
  split : v.splitIn? = some v.split
  encode : v.encodeIn? = some v.encode

theorem inRegisters_iff : v.InRegisters ↔ v.scale.Valid := by
  constructor
  · intro within
    by_contra invalid
    have split := within.split
    rw [splitIn?_eq_none invalid] at split
    nomatch split
  · intro valid
    have fits : v.scale.digits ≤ 38 := Nat.le_trans valid (by decide)
    exact ⟨Scale.perSecondIn?_eq_some fits, Scale.nanosPerUnitIn?_eq_some valid,
      splitIn?_eq_some valid, encodeIn?_eq_some fits⟩

/-! ## Fixed point values in JSON -/

/-- A fixed point value is read from a record of two numbers, of which the second is any byte. -/
theorem ofJson?_eq_some_iff {value : Json} :
    ofJson? value = some v ↔ ∃ fractions scale,
      Json.record? ["fractions", "scale"] value = some [some fractions, some scale] ∧
        fractions.int? = some v.fractions ∧ scale.natBelow? byteBound = some v.scale.digits := by
  unfold ofJson?
  split <;> rename_i read
  · rename_i fractions scale
    simp only [Option.bind_eq_bind, Option.bind_eq_some_iff, ofInt?_eq_some_iff, read,
      Option.some.injEq, List.cons.injEq, and_true]
    constructor
    · rintro ⟨n, int, digits, byte, rfl, same⟩
      exact ⟨fractions, scale, ⟨rfl, rfl⟩, int, by rw [byte, same]⟩
    · rintro ⟨_, _, ⟨rfl, rfl⟩, int, byte⟩
      exact ⟨v.fractions, int, v.scale.digits, byte, rfl, rfl⟩
  · simp only [reduceCtorEq, false_iff]
    rintro ⟨fractions, scale, fields, -⟩
    exact read fractions scale fields

theorem lt_of_natBelow? {bound n : Nat} {value : Json} (h : value.natBelow? bound = some n) :
    n < bound := by
  simp only [Json.natBelow?, Option.map_eq_some_iff, Option.filter_eq_some_iff,
    decide_eq_true_eq] at h
  obtain ⟨m, ⟨-, range⟩, rfl⟩ := h
  omega

theorem natBelow?_ofInt {bound n : Nat} (h : n < bound) :
    (Json.ofInt n).natBelow? bound = some n := by
  have range : 0 ≤ (n : Int) ∧ (n : Int) < bound := by omega
  simp [Json.natBelow?, Json.strictInt?_ofInt, Option.filter, range]

/-- What is written of a value with a scale of a byte is read back. -/
theorem ofJson?_toJson (h : v.scale.digits < byteBound) : ofJson? v.toJson = some v :=
  ofJson?_eq_some_iff.2
    ⟨.ofInt v.fractions, .ofInt v.scale.digits, rfl, Json.int?_ofInt _, natBelow?_ofInt h⟩

end FixedPoint

/-! ## Where scales come from -/

/-- Whether a JSON text brings in a scale. -/
def Scale.FromJson (s : Scale) : Prop :=
  ∃ text value v, Json.parse? text = some value ∧ FixedPoint.ofJson? value = some v ∧ v.scale = s

/-- The scales that can be had from the library. Of those that a JSON text brings in, the ones that
are admitted count. -/
inductive Scale.Obtained (admitted : Scale → Prop) : Scale → Prop
  | seconds : Obtained admitted .seconds
  | nanos : Obtained admitted .nanos
  | checked {n : Nat} {s : Scale} (made : Scale.ofNat n = .ok s) : Obtained admitted s
  | fixedPoint {kind : TokenKind} {token : String} {s : Scale} {v : FixedPoint}
      (given : Obtained admitted s) (read : FixedPoint.decode kind token s = .ok v) :
      Obtained admitted v.scale
  | time {token : String} {s : Scale} {t : TimeValue} (given : Obtained admitted s)
      (read : TimeValue.decode token s = .ok t) : Obtained admitted t.value.scale
  | timestamp {token : String} {kind : TimestampKind} {s : Scale} {session : Zone}
      {encoding : ZoneEncoding} {t : Timestamp} (given : Obtained admitted s)
      (read : Timestamp.decode token kind s session encoding = .ok t) :
      Obtained admitted t.value.scale
  | timeColumn {token : String} {type : ColumnType} {t : TimeValue}
      (read : Value.readTimeValue token type = .ok t) : Obtained admitted t.value.scale
  | timestampColumn {token : String} {type : ColumnType} {cx : Session.Context} {t : Timestamp}
      (read : Value.readTimestamp token type cx = .ok t) : Obtained admitted t.value.scale
  | json {s : Scale} (brought : s.FromJson) (admits : admitted s) : Obtained admitted s

/-- Reading a value keeps the scale that it is read at. -/
theorem FixedPoint.scale_of_parse? {cs : List Char} {s : Scale} {v : FixedPoint}
    (read : FixedPoint.parse? cs s = some v) : v.scale = s :=
  (FixedPoint.parse?_eq_some_iff_denotes.1 read).1

end Number

open Number

theorem TimeValue.scale_of_decode {token : String} {s : Scale} {t : TimeValue}
    (read : TimeValue.decode token s = .ok t) : t.value.scale = s := by
  unfold TimeValue.decode at read
  split at read
  · rename_i found
    obtain rfl := Except.ok.inj read
    obtain ⟨v, parsed, made⟩ := Option.bind_eq_some_iff.1 found
    unfold TimeValue.ofFixedPoint? at made
    split at made
    · obtain ⟨time, -, rfl⟩ := Option.map_eq_some_iff.1 made
      exact FixedPoint.scale_of_parse? parsed
    · nomatch made
  · nomatch read

theorem Timestamp.scale_of_decode {token : String} {kind : TimestampKind} {s : Scale}
    {session : Zone} {encoding : ZoneEncoding} {t : Timestamp}
    (read : Timestamp.decode token kind s session encoding = .ok t) : t.value.scale = s := by
  rw [Timestamp.decode_eq_ok_iff, Timestamp.parse?] at read
  split at read
  · unfold Timestamp.parseIndexed? at read
    split at read
    · nomatch read
    · obtain ⟨v, parsed, rest⟩ := Option.bind_eq_some_iff.1 read
      obtain ⟨offset, -, same⟩ := Option.bind_eq_some_iff.1 rest
      obtain rfl := Option.some.inj same
      exact FixedPoint.scale_of_parse? parsed
  · obtain ⟨v, parsed, rfl⟩ := Option.map_eq_some_iff.1 read
    exact FixedPoint.scale_of_parse? parsed

namespace Value

variable {token : String} {type : ColumnType}

theorem eq_ok_of_decoded {α : Type} {answer : Except DecodeError α} {a : α}
    (h : decoded answer = .ok a) : answer = .ok a := by
  cases answer with
  | error e => nomatch h
  | ok b =>
    obtain rfl := Except.ok.inj h
    rfl

theorem ofNat_of_columnScale {s : Scale} (h : columnScale type = .ok s) :
    Scale.ofNat type.scale = .ok s := by
  unfold columnScale at h
  split at h
  · rename_i made
    obtain rfl := Except.ok.inj h
    exact made
  · nomatch h

/-- The scale of a time that is read is the one of its column, which has been checked. -/
theorem ofNat_of_readTimeValue {t : TimeValue} (h : readTimeValue token type = .ok t) :
    Scale.ofNat type.scale = .ok t.value.scale := by
  unfold readTimeValue at h
  split at h
  · obtain ⟨s, column, read⟩ := eq_ok_of_bind h
    rw [TimeValue.scale_of_decode (eq_ok_of_decoded read)]
    exact ofNat_of_columnScale column
  · nomatch h

/-- So is the scale of a timestamp. -/
theorem ofNat_of_readTimestamp {cx : Session.Context} {t : Timestamp}
    (h : readTimestamp token type cx = .ok t) :
    Scale.ofNat type.scale = .ok t.value.scale := by
  unfold readTimestamp at h
  split at h
  · nomatch h
  · obtain ⟨s, column, read⟩ := eq_ok_of_bind h
    rw [Timestamp.scale_of_decode (eq_ok_of_decoded read)]
    exact ofNat_of_columnScale column

end Value

namespace Number

/-- Only JSON brings in a scale of more than nine digits, and only one that is admitted. -/
theorem Scale.Obtained.valid_or_fromJson {admitted : Scale → Prop} {s : Scale}
    (obtained : Scale.Obtained admitted s) : s.Valid ∨ (s.FromJson ∧ admitted s) := by
  induction obtained with
  | seconds => exact .inl (by decide)
  | nanos => exact .inl (by decide)
  | checked made => exact .inl (Scale.ofNat_eq_ok_iff.1 made).2
  | fixedPoint given read ih =>
    rw [FixedPoint.scale_of_parse? (FixedPoint.decode_eq_ok_iff.1 read)]
    exact ih
  | time given read ih =>
    rw [TimeValue.scale_of_decode read]
    exact ih
  | timestamp given read ih =>
    rw [Timestamp.scale_of_decode read]
    exact ih
  | timeColumn read => exact .inl (Scale.ofNat_eq_ok_iff.1 (Value.ofNat_of_readTimeValue read)).2
  | timestampColumn read =>
    exact .inl (Scale.ofNat_eq_ok_iff.1 (Value.ofNat_of_readTimestamp read)).2
  | json brought admits => exact .inr ⟨brought, admits⟩

/-- What holds of a scale and of the computations that rest on it. -/
structure Scale.Bounded (s : Scale) : Prop where
  /-- Wherever the scale is had from, it is no finer than nanoseconds, as long as JSON brings in no
  finer one. -/
  obtained : Scale.Obtained Scale.Valid s → s.Valid
  /-- A finer scale was brought in by JSON. -/
  blame : Scale.Obtained (fun _ => True) s → ¬ s.Valid → s.FromJson
  /-- A value is read from JSON at the scale exactly if the scale is one of a byte. -/
  unchecked : ∀ v : FixedPoint, v.scale = s →
    ((∃ value, FixedPoint.ofJson? value = some v) ↔ s.digits < byteBound)
  /-- The computations stay within their widths exactly at the scales up to nanoseconds. -/
  registers : ∀ v : FixedPoint, v.scale = s → (v.InRegisters ↔ s.Valid)
  /-- At a finer one no value can be split. -/
  split : ∀ v : FixedPoint, v.scale = s → ¬ s.Valid → v.splitIn? = none

/-- **Scales are bounded by nanoseconds** except for those that are read from JSON, and where the
bound holds nothing overflows. -/
theorem scale_bounded (s : Scale) : s.Bounded where
  obtained h := h.valid_or_fromJson.elim id And.right
  blame h invalid := (h.valid_or_fromJson.resolve_left invalid).1
  unchecked := by
    rintro v rfl
    constructor
    · rintro ⟨value, read⟩
      obtain ⟨_, scale, -, -, byte⟩ := FixedPoint.ofJson?_eq_some_iff.1 read
      exact FixedPoint.lt_of_natBelow? byte
    · intro byte
      exact ⟨v.toJson, FixedPoint.ofJson?_toJson byte⟩
  registers := by
    rintro v rfl
    exact FixedPoint.inRegisters_iff
  split := by
    rintro v rfl
    exact FixedPoint.splitIn?_eq_none

/-- The text of a zero with ten digits after the point. -/
def tenDigitsText : String :=
  "\x7b\"fractions\":0,\"scale\":10\x7d"

/-- It is read, although its scale is out of bounds, as a value that cannot be split. -/
theorem json_brings_in_ten_digits :
    (Json.parse? tenDigitsText).bind FixedPoint.ofJson? = some ⟨0, ⟨10⟩, by decide⟩ ∧
      (⟨0, ⟨10⟩, by decide⟩ : FixedPoint).splitIn? = none ∧
      ¬ ∀ s, Scale.Obtained (fun _ => True) s → s.Valid := by
  have read : (Json.parse? tenDigitsText).bind FixedPoint.ofJson? =
      some ⟨0, ⟨10⟩, by decide⟩ := by
    decide +kernel
  refine ⟨read, FixedPoint.splitIn?_eq_none (by decide), fun bounded => ?_⟩
  obtain ⟨value, parsed, read⟩ := Option.bind_eq_some_iff.1 read
  have valid := bounded ⟨10⟩ (.json ⟨_, value, _, parsed, read, rfl⟩ trivial)
  exact absurd valid (by decide)

end Number
end QueryResult
