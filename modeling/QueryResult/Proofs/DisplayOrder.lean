import QueryResult.Calendar.Reform
import QueryResult.Proofs.DayNumber

/-!
# Dates in order as they are shown

Up to the calendar reform a date is shown as many days later as its century lags, or earlier where
that is negative. The lag never falls from one century to the next, on either side of the year 0
(`lag_mono`), so that the days by which dates move are in the order of the dates (`julianShift_mono`)
and two dates that stay in range are shown in their order, never as one day. The main statement is
`shown_keeps_order`.

The order goes no further than that. The last day before the reform is shown as a day after it, and
a date that would leave the range is shown where it is.
-/

namespace QueryResult.Calendar.Date

variable {d e : Date}

/-! ## The lag of a century -/

/-- The days by which the two calendars have drifted apart in a century, given by its hundreds. -/
def lag (hundreds : Int) : Int :=
  hundreds - hundreds.tdiv 4 - 2

/-- From one century to the next the lag grows by a day or stays. -/
theorem lag_mono {h k : Int} (le : h ≤ k) : lag h ≤ lag k := by
  -- Toward zero, a negative number is divided as its opposite.
  have quarter : ∀ n : Int, n.tdiv 4 = if n < 0 then -(-n / 4) else n / 4 := by
    intro n
    split
    · rw [← Int.tdiv_eq_ediv_of_nonneg (by omega), Int.neg_tdiv, Int.neg_neg]
    · exact Int.tdiv_eq_ediv_of_nonneg (by omega)
  unfold lag
  rw [quarter, quarter]
  split <;> split <;> omega

/-- The last day of the Julian calendar. -/
def lastJulianDate : Date :=
  ⟨1582, 10, 4, by decide, by decide, by decide, by decide⟩

theorem lastJulianDate_lt_iff : lastJulianDate < d ↔ lastJulianDay < d.dayNumber := by
  have number : lastJulianDate.dayNumber = lastJulianDay := by decide
  rw [lt_iff_dayNumber_lt, number]

theorem julianShift_eq_lag (before : ¬ lastJulianDate < d) :
    d.julianShift = lag (d.year.tdiv 100) := by
  rw [lastJulianDate_lt_iff] at before
  exact if_neg before

theorem year_le_of_lt (h : d < e) : d.year ≤ e.year := by
  rcases h with earlier | ⟨same, -⟩
  · exact earlier.le
  · exact same.le

/-- Of two dates up to the reform, the later one moves at least as far. -/
theorem julianShift_mono (h : d < e) (before : ¬ lastJulianDate < e) :
    d.julianShift ≤ e.julianShift := by
  have before' : ¬ lastJulianDate < d := by
    rw [lt_iff_dayNumber_lt] at *
    omega
  rw [julianShift_eq_lag before, julianShift_eq_lag before']
  apply lag_mono
  apply Int.tdiv_le_tdiv (by decide)
  exact year_le_of_lt h

/-! ## The day that is shown -/

/-- Whether the day that a date moves to is in range. -/
def MovesInRange (d : Date) : Prop :=
  (ofDayNumber (d.dayNumber + d.julianShift)).InRange

instance (d : Date) : Decidable d.MovesInRange :=
  inferInstanceAs (Decidable (InRange _))

theorem dayNumber_shown (inRange : d.MovesInRange) :
    d.shown.dayNumber = d.dayNumber + d.julianShift := by
  unfold shown
  split
  · omega
  · have moved : d.addDays? d.julianShift = some (ofDayNumber (d.dayNumber + d.julianShift)) :=
      if_pos inRange
    rw [moved, Option.getD_some, dayNumber_ofDayNumber]

theorem shown_eq_self_of_not_movesInRange (beyond : ¬ d.MovesInRange) : d.shown = d := by
  have unmoved : d.addDays? d.julianShift = none := if_neg beyond
  rw [shown, unmoved]
  simp

/-- From the seventh year of the range on every date has room to move. -/
theorem movesInRange_of_year (inRange : d.InRange) (room : minYear + 6 ≤ d.year) :
    d.MovesInRange := by
  have first : marchStart (minYear + 6 - 1) + 306 - epochOffset = firstDay + 2191 := by decide
  have days := le_year_iff.1 room
  rw [first] at days
  rw [inRange_iff] at inRange
  rw [MovesInRange, inRange_iff, dayNumber_ofDayNumber]
  by_cases reformed : lastJulianDate < d
  · rw [julianShift, if_pos (lastJulianDate_lt_iff.1 reformed)]
    omega
  · have century : (minYear + 6).tdiv 100 ≤ d.year.tdiv 100 ∧
        d.year.tdiv 100 ≤ (1582 : Int).tdiv 100 := by
      constructor
      · exact Int.tdiv_le_tdiv (by decide) room
      · apply Int.tdiv_le_tdiv (by decide)
        by_contra later
        exact reformed (.inl (Int.not_le.1 later))
    have low := lag_mono century.1
    have high := lag_mono century.2
    have least : lag ((minYear + 6).tdiv 100) = -1968 := by decide
    have greatest : lag ((1582 : Int).tdiv 100) = 10 := by decide
    rw [julianShift_eq_lag reformed]
    rw [lastJulianDate_lt_iff] at reformed
    unfold lastJulianDay lastDay at *
    omega

/-- How a date is shown among the others. -/
structure ShownInOrder (d : Date) : Prop where
  /-- After the reform a date is shown as it is. -/
  reformed : lastJulianDate < d → d.shown = d
  /-- Up to the reform it moves by the lag of its century, the hundreds of a negative year being cut
  toward zero like those of any other. -/
  moved : ¬ lastJulianDate < d → d.MovesInRange →
    d.shown.dayNumber = d.dayNumber + lag (d.year.tdiv 100)
  /-- It stays where it is if it would leave the range. -/
  kept : ¬ d.MovesInRange → d.shown = d
  /-- None does but in the first six years of the range. -/
  room : d.InRange → minYear + 6 ≤ d.year → d.MovesInRange
  /-- Up to the reform, dates that stay in range are shown in their order. -/
  order : ∀ e : Date, d < e → ¬ lastJulianDate < e → d.MovesInRange → e.MovesInRange →
    d.shown < e.shown
  /-- Of a clock reading only the date moves. -/
  clock : ∀ time : TimeOfDay, WallClock.shown ⟨d, time⟩ = ⟨d.shown, time⟩

/-- **Showing keeps the order of dates** up to the calendar reform, and after it all there is to
them. -/
theorem shown_keeps_order (d : Date) : ShownInOrder d := by
  constructor
  case reformed =>
    intro after
    exact shown_eq_self_of_after (lastJulianDate_lt_iff.1 after)
  case moved =>
    intro before inRange
    rw [dayNumber_shown inRange, julianShift_eq_lag before]
  case kept => exact shown_eq_self_of_not_movesInRange
  case room => exact movesInRange_of_year
  case order =>
    intro e earlier before inRange inRange'
    have shift := julianShift_mono earlier before
    rw [lt_iff_dayNumber_lt] at earlier ⊢
    rw [dayNumber_shown inRange, dayNumber_shown inRange']
    omega
  case clock => exact fun _ => rfl

/-- Where the lag grows, at the end of the year -100, a day of the calendar is not shown. -/
example : ((ofCivil? (-100) 12 31).map shown, (ofCivil? (-99) 1 1).map shown) =
    (ofCivil? (-100) 12 28, ofCivil? (-100) 12 30) := by
  decide

end QueryResult.Calendar.Date
