import QueryResult.Proofs.DayNumber
import QueryResult.Proofs.ZonedToken
import QueryResult.Zone.Database

/-!
# What the text of a timestamp tells

The pattern of `fullText` shows a clock reading, the fraction of the second and the offset of the
clock. Each part of the text tells the number that it was written from and where it ends: all but the
year have a fixed width, and the year ends at its dash (`yearText_append_inj`). So the text tells the
reading as it is shown, the fraction and the offset (`sameText_of_full`). After the calendar reform a
reading is shown as it is, and with the offset it tells the instant. The main statement,
`rendering_loses_nothing`, is that two such timestamps of one scale have the same text only if they
are the same point of time on the same offset; the fraction is shown to its last digit.
-/

namespace QueryResult
open QueryResult.Calendar QueryResult.Number QueryResult.Text

namespace Calendar

/-! ## Readings by their parts -/

theorem Date.day_le_31 (d : Date) : d.day ≤ 31 := by
  have within := d.day_le
  unfold daysInMonth at within
  split at within
  · split at within <;> omega
  · split at within <;> omega

theorem TimeOfDay.minute_lt (t : TimeOfDay) : t.minute < 60 := by
  unfold minute
  omega

theorem TimeOfDay.second_lt (t : TimeOfDay) : t.second < 60 := by
  unfold second
  omega

/-- The second of a day is told by the hour, the minute and the second that a clock shows. -/
theorem TimeOfDay.secondOfDay_of_parts {t u : TimeOfDay} (hour : t.hour = u.hour)
    (minute : t.minute = u.minute) (second : t.second = u.second) :
    t.secondOfDay = u.secondOfDay := by
  rw [← t.parts, ← u.parts, hour, minute, second]

theorem Instant.ofEpoch?_eq_some {seconds : Int} {nano : Nat} {i : Instant}
    (h : Instant.ofEpoch? seconds nano = some i) :
    nano < nanosPerSecond ∧ i.seconds = seconds ∧ i.nano = nano := by
  unfold ofEpoch? at h
  split at h
  · rename_i reached
    obtain rfl := Option.some.inj h
    exact ⟨reached.1, rfl, rfl⟩
  · simp at h

theorem Offset.sign_eq_minus_iff {o : Offset} : o.sign = '-' ↔ o.seconds < 0 := by
  unfold sign
  split <;> simp_all

theorem Offset.hours_lt (o : Offset) : o.hours < 24 := by
  have low := o.lower
  have high := o.upper
  unfold hours
  omega

theorem Offset.minutes_lt (o : Offset) : o.minutes < 60 := by
  unfold minutes
  omega

/-- An offset of whole minutes is told by its sign, its hours and its minutes. -/
theorem Offset.eq_of_parts {o p : Offset} (wholeO : o.seconds % 60 = 0)
    (wholeP : p.seconds % 60 = 0) (sign : o.sign = p.sign) (hours : o.hours = p.hours)
    (minutes : o.minutes = p.minutes) : o = p := by
  have seconds : o.seconds = p.seconds := by
    have side : o.seconds < 0 ↔ p.seconds < 0 := by
      rw [← sign_eq_minus_iff, sign, sign_eq_minus_iff]
    unfold Offset.hours at hours
    unfold Offset.minutes at minutes
    omega
  obtain ⟨s, _, _⟩ := o
  obtain ⟨s', _, _⟩ := p
  obtain rfl : s = s' := seconds
  rfl

end Calendar

namespace Pattern

/-! ## The parts of a text -/

theorem yearText_append_inj {y z : Int} {xs ys : List Char}
    (h : yearText y ++ '-' :: xs = yearText z ++ '-' :: ys) : y = z ∧ xs = ys := by
  have positive : ∀ {n m : Nat} {xs ys : List Char},
      padded 4 n ++ '-' :: xs = padded 4 m ++ '-' :: ys → n = m ∧ xs = ys := by
    intro n m xs ys h
    obtain ⟨runs, rest⟩ := digits_append_inj (isDigits_padded 4 n) (isDigits_padded 4 m) (by decide) h
    refine ⟨?_, rest⟩
    rw [← digitsValue_padded 4 n, runs, digitsValue_padded]
  -- A text that begins with a digit does not begin with a dash.
  have mixed : ∀ {m : Nat} {xs ys : List Char}, '-' :: xs ≠ padded 4 m ++ ys := by
    intro m xs ys h
    have some : padded 4 m ≠ [] := List.append_ne_nil_of_right_ne_nil _ (natText_ne_nil m)
    have noSign := noSign_of_isDigits (r := ys) (isDigits_padded 4 m) some
    rw [← h] at noSign
    exact (noSign '-' rfl).2 rfl
  unfold yearText at h
  by_cases before : y < 0
  · by_cases before' : z < 0
    · rw [if_pos before, if_pos before'] at h
      obtain ⟨same, rest⟩ := positive (List.cons.inj h).2
      exact ⟨by omega, rest⟩
    · rw [if_pos before, if_neg before'] at h
      exact absurd h mixed
  · by_cases before' : z < 0
    · rw [if_neg before, if_pos before'] at h
      exact absurd h.symm mixed
    · rw [if_neg before, if_neg before'] at h
      obtain ⟨same, rest⟩ := positive h
      exact ⟨by omega, rest⟩

theorem length_nineDigits (nano : Nat) : (padded 9 (nano % nanosPerSecond)).length = 9 := by
  apply length_padded (by decide)
  exact Nat.mod_lt nano (by decide)

theorem length_fractionText (nano digits : Nat) :
    (fractionText nano digits).length = min digits 9 := by
  rw [fractionText, List.length_take, length_nineDigits]

theorem isDigits_fractionText (nano digits : Nat) : IsDigits (fractionText nano digits) :=
  fun c hc => isDigits_padded 9 _ c (List.mem_of_mem_take hc)

/-- The digits of the fraction are cut off, not rounded. -/
theorem digitsValue_fractionText (nano digits : Nat) :
    digitsValue (fractionText nano digits) =
      nano % nanosPerSecond / tenTo (Scale.nanos.digits - digits) := by
  rw [fractionText, digitsValue_take (isDigits_padded 9 _), length_nineDigits, digitsValue_padded]
  rfl

/-- At the scale of a value the digits are the units above its whole seconds. -/
theorem digitsValue_fractionText_nanos {v : FixedPoint} (below : v.nanos < nanosPerSecond) :
    (digitsValue (fractionText v.nanos v.scale.digits) : Int) =
      v.fractions % v.scale.perSecond := by
  obtain ⟨nonneg, -⟩ := v.rest_range
  rw [digitsValue_fractionText, Nat.mod_eq_of_lt below, FixedPoint.nanos, Scale.nanosPerUnit,
    Nat.mul_div_cancel _ (tenTo_pos _)]
  omega

/-- Two digits tell their number and what follows the character behind them. -/
theorem two_append_inj {m n : Nat} {c : Char} {xs ys : List Char} (hm : m < 100) (hn : n < 100)
    (h : padded 2 m ++ c :: xs = padded 2 n ++ c :: ys) : m = n ∧ xs = ys := by
  obtain ⟨same, rest⟩ := padded_append_inj (by decide) hm hn h
  exact ⟨same, (List.cons.inj rest).2⟩

/-! ## The full pattern -/

/-- A pattern that shows all there is to a timestamp. -/
def fullText : String := "YYYY-MM-DD HH24:MI:SS.FF TZHTZM"

/-- What the pattern is made of. -/
def fullItems : List Item :=
  [.element .year4, .literal ['-'], .element .month, .literal ['-'], .element .day,
   .literal [' '], .element .hour24, .literal [':'], .element .minute, .literal [':'],
   .element .second, .literal ['.'], .element (.fraction none), .literal [' '],
   .element .offsetHours, .element .offsetMinutes]

theorem compile_fullText : compile fullText = .ok ⟨fullText, fullItems⟩ := by
  decide +kernel

theorem compile_fraction : compile "FF" = .ok ⟨"FF", [.element (.fraction none)]⟩ := by
  decide +kernel

theorem full_text (x : Shown) : fullItems.flatMap (·.render x) =
    yearText x.wall.date.year ++ '-' :: (padded 2 x.wall.date.month ++ '-' ::
      (padded 2 x.wall.date.day ++ ' ' :: (padded 2 x.wall.time.hour ++ ':' ::
        (padded 2 x.wall.time.minute ++ ':' :: (padded 2 x.wall.time.second ++ '.' ::
          (fractionText x.wall.time.nano x.scale.digits ++ ' ' ::
            x.offset.sign :: (padded 2 x.offset.hours ++ (padded 2 x.offset.minutes ++ [])))))))) := by
  simp [fullItems, Item.render, Element.render]

/-- What two readings have in common that are shown alike. -/
structure SameText (x y : Shown) : Prop where
  date : x.wall.date = y.wall.date
  second : x.wall.time.secondOfDay = y.wall.time.secondOfDay
  fraction : fractionText x.wall.time.nano x.scale.digits =
    fractionText y.wall.time.nano y.scale.digits
  sign : x.offset.sign = y.offset.sign
  hours : x.offset.hours = y.offset.hours
  minutes : x.offset.minutes = y.offset.minutes

theorem sameText_of_full {x y : Shown} (scale : x.scale = y.scale)
    (h : fullItems.flatMap (·.render x) = fullItems.flatMap (·.render y)) : SameText x y := by
  rw [full_text, full_text] at h
  have month_lt : ∀ d : Date, d.month < 100 := fun d => by have := d.month_le; omega
  have day_lt : ∀ d : Date, d.day < 100 := fun d => by have := d.day_le_31; omega
  have hour_lt : ∀ t : TimeOfDay, t.hour < 100 := fun t => by have := t.hour_lt; omega
  have minute_lt : ∀ t : TimeOfDay, t.minute < 100 := fun t => by have := t.minute_lt; omega
  have second_lt : ∀ t : TimeOfDay, t.second < 100 := fun t => by have := t.second_lt; omega
  have hours_lt : ∀ o : Offset, o.hours < 100 := fun o => by have := o.hours_lt; omega
  have minutes_lt : ∀ o : Offset, o.minutes < 100 := fun o => by have := o.minutes_lt; omega
  obtain ⟨year, h⟩ := yearText_append_inj h
  obtain ⟨month, h⟩ := two_append_inj (month_lt _) (month_lt _) h
  obtain ⟨day, h⟩ := two_append_inj (day_lt _) (day_lt _) h
  obtain ⟨hour, h⟩ := two_append_inj (hour_lt _) (hour_lt _) h
  obtain ⟨minute, h⟩ := two_append_inj (minute_lt _) (minute_lt _) h
  obtain ⟨second, h⟩ := two_append_inj (second_lt _) (second_lt _) h
  obtain ⟨fraction, h⟩ := List.append_inj h (by rw [length_fractionText, length_fractionText, scale])
  obtain ⟨sign, h⟩ := List.cons.inj (List.cons.inj h).2
  obtain ⟨hours, h⟩ := padded_append_inj (by decide) (hours_lt _) (hours_lt _) h
  obtain ⟨minutes, -⟩ := padded_append_inj (by decide) (minutes_lt _) (minutes_lt _) h
  exact ⟨Date.ext_iff.2 ⟨year, month, day⟩, TimeOfDay.secondOfDay_of_parts hour minute second,
    fraction, sign, hours, minutes⟩

/-! ## Timestamps -/

/-- What a clock shows of a timestamp after the calendar reform, at an offset of whole minutes. -/
structure Dated (t : Timestamp) (z : Zoned) : Prop where
  /-- The zone is known and the calendar reaches the instant. -/
  zoned : t.zoned = .ok z
  inRange : z.wallClock.InRange
  reformed : Date.lastJulianDay < z.wallClock.date.dayNumber
  minutes : z.offset.seconds % 60 = 0

/-- The instant of a timestamp is its value, cut at the whole seconds. -/
theorem cut_of_zoned {t : Timestamp} {z : Zoned} (h : t.zoned = .ok z) :
    t.value.nanos < nanosPerSecond ∧ z.instant.seconds = t.value.wholeSeconds ∧
      z.instant.nano = t.value.nanos := by
  obtain ⟨found, -⟩ := Timestamp.zoned_eq_ok_iff.1 h
  unfold Timestamp.instant at found
  split at found
  · nomatch found
  · split at found
    · rename_i i reached
      obtain rfl := Except.ok.inj found
      exact Instant.ofEpoch?_eq_some reached
    · nomatch found

/-- The fraction of a timestamp is shown unit by unit. -/
theorem digitsValue_fraction_of_zoned {t : Timestamp} {z : Zoned} (h : t.zoned = .ok z) :
    (digitsValue (fractionText z.wallClock.time.nano t.value.scale.digits) : Int) =
      t.value.fractions % t.value.scale.perSecond := by
  obtain ⟨below, -, nano⟩ := cut_of_zoned h
  have shown : z.wallClock.time.nano = t.value.nanos := nano
  rw [shown]
  exact digitsValue_fractionText_nanos below

/-- The second of a timestamp is told by the reading and the offset. -/
theorem wholeSeconds_of_zoned {t : Timestamp} {z : Zoned} (h : t.zoned = .ok z) :
    t.value.wholeSeconds = z.wallClock.epochSeconds - z.offset.seconds := by
  obtain ⟨-, seconds, -⟩ := cut_of_zoned h
  have shown : z.wallClock.epochSeconds = z.instant.seconds + z.offset.seconds :=
    WallClock.epochSeconds_ofEpoch _ _ _
  omega

theorem formatTimestamp_of_zoned {t : Timestamp} {z : Zoned} (h : t.zoned = .ok z) (p : Pattern) :
    p.formatTimestamp t = .ok (p.render ⟨z.wallClock.shown, z.offset, t.value.scale⟩) := by
  rw [formatTimestamp, h]
  rfl

/-- After the reform a timestamp is shown as the clock reads. -/
theorem Dated.formatTimestamp {t : Timestamp} {z : Zoned} (dated : Dated t z) (p : Pattern) :
    p.formatTimestamp t = .ok (p.render ⟨z.wallClock, z.offset, t.value.scale⟩) := by
  have unmoved : z.wallClock.shown = z.wallClock := by
    rw [WallClock.shown, Date.shown_eq_self_of_after dated.reformed]
  rw [formatTimestamp_of_zoned dated.zoned, unmoved]

/-- That a pattern shows different timestamps in different ways. -/
structure TellsApart (p : Pattern) : Prop where
  shows : ∀ t z, Dated t z → ∃ text, p.formatTimestamp t = .ok text
  /-- Timestamps of one scale that are shown alike are one point of time, at one offset. -/
  apart : ∀ a b y z text, a.value.scale = b.value.scale → Dated a y → Dated b z →
    p.formatTimestamp a = .ok text → p.formatTimestamp b = .ok text →
      a.value.fractions = b.value.fractions ∧ y.offset = z.offset

/-- That a pattern shows the fraction of the second and nothing else. -/
structure ShowsFraction (p : Pattern) : Prop where
  /-- There are as many digits as the scale has. -/
  digits : ∀ x : Shown, x.scale.Valid →
    IsDigits (p.render x).toList ∧ (p.render x).toList.length = x.scale.digits
  /-- Of a finer reading the further digits are left out. -/
  cut : ∀ x : Shown, digitsValue (p.render x).toList =
    x.wall.time.nano % nanosPerSecond / tenTo (Scale.nanos.digits - x.scale.digits)
  /-- Of a timestamp the digits are all there are. -/
  lossless : ∀ t z, t.zoned = .ok z → ∃ text, p.formatTimestamp t = .ok text ∧
    (digitsValue text.toList : Int) = t.value.fractions % t.value.scale.perSecond

theorem tellsApart_full : TellsApart ⟨fullText, fullItems⟩ where
  shows t z dated := ⟨_, dated.formatTimestamp _⟩
  apart a b y z text scale datedA datedB shownA shownB := by
    rw [datedA.formatTimestamp] at shownA
    rw [datedB.formatTimestamp, ← shownA] at shownB
    have same : SameText ⟨y.wallClock, y.offset, a.value.scale⟩
        ⟨z.wallClock, z.offset, b.value.scale⟩ :=
      sameText_of_full scale (String.ofList_injective (Except.ok.inj shownB)).symm
    have offset : y.offset = z.offset :=
      Offset.eq_of_parts datedA.minutes datedB.minutes same.sign same.hours same.minutes
    have reading : y.wallClock.epochSeconds = z.wallClock.epochSeconds := by
      have date := same.date
      have second := same.second
      simp only at date second
      rw [WallClock.epochSeconds, WallClock.epochSeconds, date, second]
    have seconds : a.value.wholeSeconds = b.value.wholeSeconds := by
      rw [wholeSeconds_of_zoned datedA.zoned, wholeSeconds_of_zoned datedB.zoned, reading, offset]
    have fraction : a.value.fractions % a.value.scale.perSecond =
        b.value.fractions % b.value.scale.perSecond := by
      have text := same.fraction
      simp only at text
      rw [← digitsValue_fraction_of_zoned datedA.zoned, text,
        digitsValue_fraction_of_zoned datedB.zoned]
    refine ⟨?_, offset⟩
    calc a.value.fractions
        = a.value.wholeSeconds * a.value.scale.perSecond +
            a.value.fractions % a.value.scale.perSecond := a.value.split_units.symm
      _ = b.value.wholeSeconds * b.value.scale.perSecond +
            b.value.fractions % b.value.scale.perSecond := by rw [seconds, fraction, scale]
      _ = b.value.fractions := b.value.split_units

theorem render_fraction (x : Shown) :
    (render ⟨"FF", [.element (.fraction none)]⟩ x).toList =
      fractionText x.wall.time.nano x.scale.digits := by
  simp [render, Item.render, Element.render]

theorem showsFraction_fraction : ShowsFraction ⟨"FF", [.element (.fraction none)]⟩ where
  digits x valid := by
    have nine : x.scale.digits ≤ 9 := valid
    rw [render_fraction]
    refine ⟨isDigits_fractionText _ _, ?_⟩
    rw [length_fractionText, Nat.min_eq_left nine]
  cut x := by
    rw [render_fraction]
    exact digitsValue_fractionText _ _
  lossless t z zoned := by
    refine ⟨_, formatTimestamp_of_zoned zoned _, ?_⟩
    rw [render_fraction]
    exact digitsValue_fraction_of_zoned zoned

/-- **Rendering loses nothing** of a timestamp after the calendar reform, and no digit of a fraction
is rounded. -/
theorem rendering_loses_nothing :
    (∃ p, compile fullText = .ok p ∧ TellsApart p) ∧
      ∃ p, compile "FF" = .ok p ∧ ShowsFraction p :=
  ⟨⟨_, compile_fullText, tellsApart_full⟩, ⟨_, compile_fraction, showsFraction_fraction⟩⟩

/-- A zone and the offset that is in force there are shown alike. -/
example : ((compile fullText).toOption.bind fun p =>
    (p.formatTimestamp ⟨⟨-125, ⟨2⟩, by decide⟩, .named .est⟩).toOption) =
      some "1969-12-31 18:59:58.75 -0500" := by
  decide +kernel

end Pattern
end QueryResult
