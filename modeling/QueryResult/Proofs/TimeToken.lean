import QueryResult.Proofs.InstantOrder
import QueryResult.Proofs.TimestampText

/-!
# Times of day from the token to the text

A token is read as a time exactly if it is read as a fixed point value between midnight and the next
one. Behind that check nothing else can go wrong: the value splits into a second of the day and less
than a second of nanoseconds, which a clock shows (`ofFixedPoint?_eq_some_iff`), and each step stays
within its width (`ofFixedPointIn?_eq_some`). The clock holds all of the value, so that its
milliseconds and the digits of its text are those of the value at every scale. The main statement is
`times_exact`.
-/

namespace QueryResult
open QueryResult.Calendar QueryResult.Number QueryResult.Text

/-! ## Clocks -/

namespace Calendar.TimeOfDay

theorem ofSeconds?_eq_some_iff {second nano : Nat} {t : TimeOfDay} :
    ofSeconds? second nano = some t ↔
      nano < nanosPerSecond ∧ t.secondOfDay = second ∧ t.nano = nano := by
  unfold ofSeconds?
  split <;> rename_i h
  · rw [Option.some.injEq]
    constructor
    · rintro rfl
      exact ⟨h.2, rfl, rfl⟩
    · rintro ⟨-, rfl, rfl⟩
      rfl
  · simp only [reduceCtorEq, false_iff]
    rintro ⟨below, rfl, -⟩
    exact h ⟨t.secondOfDay_lt, below⟩

/-- The nanoseconds since midnight. -/
def dayNanos (t : TimeOfDay) : Nat :=
  t.secondOfDay * nanosPerSecond + t.nano

theorem millis_eq (t : TimeOfDay) : t.millis = t.dayNanos / 1000000 := by
  unfold millis dayNanos nanosPerSecond
  omega

/-- The milliseconds since midnight, each step in 32 bits. -/
def millisIn? (t : TimeOfDay) : Option Nat := do
  let whole ← unsigned? 32 (t.secondOfDay * 1000)
  unsigned? 32 (whole + t.nano / 1000000)

/-- Not even a leap second at the end of the day leads beyond 32 bits. -/
theorem millisIn?_eq_some (t : TimeOfDay) : t.millisIn? = some t.millis := by
  have day := t.secondOfDay_lt
  have leap := t.nano_lt
  have width : twoTo 32 = 4294967296 := by decide
  unfold secondsPerDay at day
  unfold nanosPerSecond at leap
  have whole : FitsUnsigned 32 (t.secondOfDay * 1000) := by
    unfold FitsUnsigned
    omega
  have sum : FitsUnsigned 32 (t.secondOfDay * 1000 + t.nano / 1000000) := by
    unfold FitsUnsigned
    omega
  simp only [millisIn?, unsigned?_eq_some whole, Option.bind_eq_bind, Option.bind_some]
  exact unsigned?_eq_some sum

end Calendar.TimeOfDay

namespace TimeValue

variable {token : String} {s : Scale} {v : FixedPoint} {t : TimeValue}

/-! ## From values to clocks -/

/-- Within the day the whole seconds are those of a day. -/
theorem WithinDay.wholeSeconds (within : WithinDay v) :
    0 ≤ v.wholeSeconds ∧ v.wholeSeconds < secondsPerDay := by
  obtain ⟨low, high⟩ := within
  have pos := v.zero_lt_perSecond
  constructor
  · exact Int.ediv_nonneg low pos.le
  · exact Int.ediv_lt_of_lt_mul pos high

/-- What a time has to do with the value that it is made of. -/
structure ClockOf (t : TimeValue) (v : FixedPoint) : Prop where
  value : t.value = v
  second : (t.time.secondOfDay : Int) = v.wholeSeconds
  nano : t.time.nano = v.nanos

/-- The values within the day are those that a time is made of. -/
theorem ofFixedPoint?_eq_some_iff (valid : v.scale.Valid) :
    ofFixedPoint? v = some t ↔ WithinDay v ∧ ClockOf t v := by
  unfold ofFixedPoint?
  split <;> rename_i within
  · have seconds := within.wholeSeconds
    simp only [Option.map_eq_some_iff, TimeOfDay.ofSeconds?_eq_some_iff]
    constructor
    · rintro ⟨time, ⟨-, second, nano⟩, rfl⟩
      refine ⟨within, rfl, ?_, nano⟩
      simp only
      omega
    · rintro ⟨-, rfl, second, nano⟩
      exact ⟨t.time, ⟨FixedPoint.nanos_lt valid, by omega, nano⟩, rfl⟩
  · simp [within]

/-- A clock shows every value within the day. -/
theorem WithinDay.exists_clockOf (within : WithinDay v) (valid : v.scale.Valid) :
    ∃ t, ClockOf t v := by
  have seconds := within.wholeSeconds
  have below := FixedPoint.nanos_lt valid
  let time : TimeOfDay := ⟨v.wholeSeconds.toNat, v.nanos, by omega, by omega⟩
  refine ⟨⟨v, time⟩, rfl, ?_, rfl⟩
  simp only [time]
  omega

/-- The time of a value, each step at its width. There is no answer if a step overflows, nor if a
value within the day fails at one of the steps that follow. -/
def ofFixedPointIn? (v : FixedPoint) : Option (Option TimeValue) := do
  let per ← v.scale.perSecondIn?
  let bound ← signed? fixedPointBits (secondsPerDay * per)
  if 0 ≤ v.fractions ∧ v.fractions < bound then
    let parts ← v.splitIn?
    let second ← if 0 ≤ parts.1 then unsigned? 32 parts.1.toNat else none
    let time ← TimeOfDay.ofSeconds? second parts.2
    return some ⟨v, time⟩
  else
    return none

/-- The end of the day is far from the width of a value. -/
theorem fitsSigned_dayEnd (valid : s.Valid) :
    FitsSigned fixedPointBits (secondsPerDay * (s.perSecond : Int)) := by
  have least : secondsPerDay * s.perSecond ≤ tenTo 14 :=
    Nat.le_trans (Nat.mul_le_mul_left _ (Scale.perSecond_le valid)) (by decide)
  have below : (tenTo 14 : Int) < twoTo (fixedPointBits - 1) := tenTo_lt_width (by decide)
  have least : (secondsPerDay * s.perSecond : Int) ≤ tenTo 14 := by exact_mod_cast least
  unfold FitsSigned
  omega

theorem ofFixedPointIn?_eq_some (valid : v.scale.Valid) :
    ofFixedPointIn? v = some (ofFixedPoint? v) := by
  have fits : v.scale.digits ≤ 38 := Nat.le_trans valid (by decide)
  rw [ofFixedPointIn?, Scale.perSecondIn?_eq_some fits, Option.bind_eq_bind, Option.bind_some,
    signed?_eq_some (fitsSigned_dayEnd valid), Option.bind_eq_bind, Option.bind_some]
  by_cases within : WithinDay v
  · obtain ⟨low, high⟩ := within.wholeSeconds
    have narrow : FitsUnsigned 32 v.wholeSeconds.toNat := by
      have width : secondsPerDay < twoTo 32 := by decide
      unfold FitsUnsigned
      omega
    obtain ⟨t, clock⟩ := within.exists_clockOf valid
    have made : ofFixedPoint? v = some t := (ofFixedPoint?_eq_some_iff valid).2 ⟨within, clock⟩
    obtain ⟨rfl, second, nano⟩ := clock
    have shown : TimeOfDay.ofSeconds? t.value.wholeSeconds.toNat t.value.nanos = some t.time := by
      rw [TimeOfDay.ofSeconds?_eq_some_iff]
      exact ⟨FixedPoint.nanos_lt valid, by omega, nano⟩
    have range : 0 ≤ t.value.fractions ∧
        t.value.fractions < secondsPerDay * (t.value.scale.perSecond : Int) := within
    rw [if_pos range, made, FixedPoint.splitIn?_eq_some valid, Option.bind_eq_bind,
      Option.bind_some, FixedPoint.split, if_pos low, unsigned?_eq_some narrow]
    simp only [Option.bind_eq_bind, Option.bind_some, shown]
    rfl
  · have range : ¬ (0 ≤ v.fractions ∧
        v.fractions < secondsPerDay * (v.scale.perSecond : Int)) := within
    rw [if_neg range, ofFixedPoint?, if_neg within]
    rfl

/-! ## Tokens -/

theorem decode_eq_ok_iff (valid : s.Valid) : decode token s = .ok t ↔
    FixedPoint.decode .time token s = .ok t.value ∧ WithinDay t.value ∧ ClockOf t t.value := by
  have read : decode token s = .ok t ↔
      (FixedPoint.parse? token.toList s).bind ofFixedPoint? = some t := by
    unfold decode
    split <;> rename_i found <;> simp [found]
  rw [read, Option.bind_eq_some_iff, FixedPoint.decode_eq_ok_iff]
  constructor
  · rintro ⟨v, parsed, made⟩
    have valid : v.scale.Valid := by rwa [FixedPoint.scale_of_parse? parsed]
    obtain ⟨within, clock⟩ := (ofFixedPoint?_eq_some_iff valid).1 made
    obtain rfl := clock.value
    exact ⟨parsed, within, clock⟩
  · rintro ⟨parsed, within, clock⟩
    have valid : t.value.scale.Valid := by rwa [FixedPoint.scale_of_parse? parsed]
    exact ⟨t.value, parsed, (ofFixedPoint?_eq_some_iff valid).2 ⟨within, clock⟩⟩

/-- The tokens of times are the tokens of the values within the day. -/
theorem exists_decode_iff (valid : s.Valid) : (∃ t, decode token s = .ok t) ↔
    ∃ v, FixedPoint.decode .time token s = .ok v ∧ WithinDay v := by
  constructor
  · rintro ⟨t, read⟩
    obtain ⟨value, within, -⟩ := (decode_eq_ok_iff valid).1 read
    exact ⟨t.value, value, within⟩
  · rintro ⟨v, value, within⟩
    have same := FixedPoint.scale_of_parse? (FixedPoint.decode_eq_ok_iff.1 value)
    obtain ⟨t, clock⟩ := within.exists_clockOf (by rwa [same])
    obtain rfl := clock.value
    exact ⟨t, (decode_eq_ok_iff valid).2 ⟨value, within, clock⟩⟩

/-- A token that is not read is handed back in the error. -/
theorem decode_eq_error_iff {e : DecodeError} : decode token s = .error e ↔
    e = ⟨.time, token⟩ ∧ ¬ ∃ t, decode token s = .ok t := by
  unfold decode
  split <;> simp [eq_comm]

/-! ## What a clock holds of its value -/

namespace ClockOf

/-- The clock loses nothing of the value. -/
theorem dayNanos (clock : ClockOf t v) (valid : v.scale.Valid) :
    (t.time.dayNanos : Int) = v.epochNanos := by
  have whole := FixedPoint.split_epochNanos valid
  rw [← clock.second, ← clock.nano] at whole
  rw [← whole, TimeOfDay.dayNanos]
  push_cast
  rfl

/-- What the milliseconds leave out is less than one of them. -/
theorem millis (clock : ClockOf t v) (valid : v.scale.Valid) :
    (t.millis : Int) = v.fractions * 1000 / v.scale.perSecond := by
  have unit : (0 : Int) < v.scale.nanosPerUnit := by exact_mod_cast tenTo_pos _
  have second : (v.scale.perSecond * v.scale.nanosPerUnit : Int) = 1000000 * 1000 := by
    exact_mod_cast FixedPoint.perSecond_mul_nanosPerUnit valid
  calc (t.millis : Int)
      = v.epochNanos / 1000000 := by
        rw [TimeValue.millis, TimeOfDay.millis_eq, ← clock.dayNanos valid]
        rfl
    _ = v.epochNanos * 1000 / (1000000 * 1000) :=
        (Int.mul_ediv_mul_of_pos_left _ _ (by decide)).symm
    _ = v.fractions * 1000 * v.scale.nanosPerUnit /
          (v.scale.perSecond * v.scale.nanosPerUnit) := by
        rw [second, FixedPoint.epochNanos]
        ring_nf
    _ = v.fractions * 1000 / v.scale.perSecond := Int.mul_ediv_mul_of_pos_left _ _ unit

end ClockOf

/-! ## The text of a time -/

/-- A pattern that shows all there is to a time. -/
def clockText : String := "HH24:MI:SS.FF"

/-- What the pattern is made of. -/
def clockItems : List Pattern.Item :=
  [.element .hour24, .literal [':'], .element .minute, .literal [':'], .element .second,
   .literal ['.'], .element (.fraction none)]

theorem compile_clockText : Pattern.compile clockText = .ok ⟨clockText, clockItems⟩ := by
  decide +kernel

/-- That a text shows an hour, a minute and a second of two digits each and the fraction of the
second in the digits of the scale, and that they add up to a value. -/
structure Tells (text : String) (v : FixedPoint) (hour minute second fraction : List Char) :
    Prop where
  text : text.toList = hour ++ ':' :: (minute ++ ':' :: (second ++ '.' :: fraction))
  digits : IsDigits hour ∧ IsDigits minute ∧ IsDigits second ∧ IsDigits fraction
  widths : hour.length = 2 ∧ minute.length = 2 ∧ second.length = 2 ∧
    fraction.length = v.scale.digits
  ranges : digitsValue hour < 24 ∧ digitsValue minute < 60 ∧ digitsValue second < 60
  total : (3600 * digitsValue hour + 60 * digitsValue minute + digitsValue second) *
    tenTo v.scale.digits + digitsValue fraction = v.fractions

theorem toList_formatTime_clock (t : TimeValue) :
    (Pattern.formatTime ⟨clockText, clockItems⟩ t).toList =
      padded 2 t.time.hour ++ ':' :: (padded 2 t.time.minute ++ ':' :: (padded 2 t.time.second ++
        '.' :: Pattern.fractionText t.time.nano t.value.scale.digits)) := by
  simp [Pattern.formatTime, Pattern.render, clockItems, Pattern.Item.render,
    Pattern.Element.render]

/-- The text shows the value to its last digit. -/
theorem ClockOf.tells (clock : ClockOf t v) (valid : v.scale.Valid) :
    ∃ hour minute second fraction,
      Tells (Pattern.formatTime ⟨clockText, clockItems⟩ t) v hour minute second fraction := by
  obtain ⟨rfl, whole, nano⟩ := clock
  have nine : t.value.scale.digits ≤ 9 := valid
  have hour := t.time.hour_lt
  have minute := t.time.minute_lt
  have second := t.time.second_lt
  have two : ∀ n < 60, (padded 2 n).length = 2 := by
    intro n small
    exact length_padded (by decide) (Nat.lt_trans small (by decide))
  refine ⟨_, _, _, _, toList_formatTime_clock t, ?_, ?_, ?_, ?_⟩
  · exact ⟨isDigits_padded _ _, isDigits_padded _ _, isDigits_padded _ _,
      Pattern.isDigits_fractionText _ _⟩
  · refine ⟨two _ (by omega), two _ minute, two _ second, ?_⟩
    rw [Pattern.length_fractionText, Nat.min_eq_left nine]
  · simp only [digitsValue_padded]
    exact ⟨hour, minute, second⟩
  · have parts : (3600 * t.time.hour + 60 * t.time.minute + t.time.second : Int) =
        t.value.wholeSeconds := by
      rw [← whole]
      exact_mod_cast t.time.parts
    simp only [digitsValue_padded]
    rw [parts, nano, Pattern.digitsValue_fractionText_nanos (FixedPoint.nanos_lt valid)]
    exact t.value.split_units

/-! ## Times as they are read -/

/-- What a time holds of the value that its token denotes. -/
structure Exact (t : TimeValue) : Prop where
  /-- The clock reads the value in nanoseconds since midnight; it is not inside a leap second. -/
  nanos : ((t.time.secondOfDay * nanosPerSecond + t.time.nano : Nat) : Int) =
    t.value.fractions * tenTo (Scale.nanos.digits - t.value.scale.digits) ∧
      t.time.nano < nanosPerSecond
  /-- The milliseconds are the value in them, rounded down. -/
  millis : (t.millis : Int) = t.value.fractions * 1000 / tenTo t.value.scale.digits
  /-- None of the steps to the milliseconds leaves 32 bits. -/
  register : t.time.millisIn? = some t.millis
  /-- The text tells the value. -/
  text : ∃ p, Pattern.compile clockText = .ok p ∧ ∃ hour minute second fraction,
    Tells (p.formatTime t) t.value hour minute second fraction

/-- How a token is read as a time at a scale. -/
structure ReadsExactly (token : String) (s : Scale) : Prop where
  /-- The tokens that are taken are those of the values within the day. -/
  accepted : (∃ t, decode token s = .ok t) ↔ ∃ v, FixedPoint.decode .time token s = .ok v ∧
    0 ≤ v.fractions ∧ v.fractions < 86400 * tenTo s.digits
  /-- Every other token is handed back. -/
  refused : ∀ e, decode token s = .error e ↔ e = ⟨.time, token⟩ ∧
    ¬ ∃ v, FixedPoint.decode .time token s = .ok v ∧
      0 ≤ v.fractions ∧ v.fractions < 86400 * tenTo s.digits
  /-- No step overflows, and behind the check of the range none fails. -/
  steps : ∀ v, v.scale = s → ofFixedPointIn? v = some (ofFixedPoint? v)
  /-- A time keeps the value that its token denotes. -/
  value : ∀ t, decode token s = .ok t →
    FixedPoint.decode .time token s = .ok t.value ∧ t.value.scale = s
  /-- The clock, the milliseconds and the text of a time are those of the value. -/
  holds : ∀ t, decode token s = .ok t → t.Exact

theorem exact_of_decode (valid : s.Valid) (read : decode token s = .ok t) : t.Exact := by
  obtain ⟨-, -, clock⟩ := (decode_eq_ok_iff valid).1 read
  have valid : t.value.scale.Valid := by rwa [scale_of_decode read]
  exact
    { nanos := ⟨clock.dayNanos valid, clock.nano ▸ FixedPoint.nanos_lt valid⟩
      millis := clock.millis valid
      register := t.time.millisIn?_eq_some
      text := ⟨_, compile_clockText, clock.tells valid⟩ }

/-- At the scale that it is read at, a value is within the day by its number of units. -/
theorem exists_withinDay_iff : (∃ v, FixedPoint.decode .time token s = .ok v ∧ WithinDay v) ↔
    ∃ v, FixedPoint.decode .time token s = .ok v ∧
      0 ≤ v.fractions ∧ v.fractions < 86400 * tenTo s.digits := by
  refine exists_congr fun v => and_congr_right fun read => ?_
  rw [← FixedPoint.scale_of_parse? (FixedPoint.decode_eq_ok_iff.1 read)]
  rfl

/-- **Times of day are exact** from the token to the text, at every scale. -/
theorem times_exact (token : String) (s : Scale) (valid : s.Valid) : ReadsExactly token s where
  accepted := (exists_decode_iff valid).trans exists_withinDay_iff
  refused e := by
    rw [decode_eq_error_iff, exists_decode_iff valid, exists_withinDay_iff]
  steps := by
    rintro v rfl
    exact ofFixedPointIn?_eq_some valid
  value t read := ⟨((decode_eq_ok_iff valid).1 read).1, scale_of_decode read⟩
  holds t read := exact_of_decode valid read

/-- The last nanosecond of a day. -/
theorem times_exact_lastNano : (⟨9⟩ : Scale).Valid ∧ ReadsExactly "86399.999999999" ⟨9⟩ ∧
    (decode "86399.999999999" ⟨9⟩).toOption.map millis = some 86399999 :=
  ⟨by decide, times_exact _ _ (by decide), by decide +kernel⟩

/-- A token below zero may still be cut to midnight; without digits of the second the text ends at
the point. -/
example : ((Pattern.compile clockText).toOption.bind fun p =>
    (decode "-0.9" ⟨0⟩).toOption.map p.formatTime) = some "00:00:00." := by
  decide +kernel

end TimeValue
end QueryResult
