import Mathlib.Tactic.IntervalCases
import QueryResult.Calendar.Instant

/-!
# Dates and their day numbers

Every integer is the day number of exactly one date (`dayNumber_ofDayNumber`,
`ofDayNumber_dayNumber`), dates are in the order of their day numbers (`lt_iff_dayNumber_lt`), and
those that values may denote are those of an interval of day numbers (`inRange_iff`). Clock readings
follow: a reading is the seconds that it counts and the nanoseconds beside them, and it is in range
exactly if the seconds are.

The arithmetic is that of years which begin in March. `marchStart` counts the days in front of such
a year; a date lies fewer days after that start than the year is long, and fewer days after the
start of its month than the month is long.
-/

namespace QueryResult.Calendar

namespace Date

/-- The year that a date belongs to when years begin in March. -/
def marchYear (d : Date) : Int :=
  if d.month ≤ 2 then d.year - 1 else d.year

/-- The month of a date, counted from March as zero. -/
def marchMonth (d : Date) : Nat :=
  if d.month ≤ 2 then d.month + 9 else d.month - 3

/-- The day of a date in its March year, counted from zero. -/
def dayOfMarchYear (d : Date) : Nat :=
  (153 * d.marchMonth + 2) / 5 + d.day - 1

/-- The days from 0000-03-01 to the start of a March year. -/
def marchStart (year : Int) : Int :=
  365 * year + year / 4 - year / 100 + year / 400

theorem dayNumber_eq (d : Date) :
    d.dayNumber = marchStart d.marchYear + d.dayOfMarchYear - epochOffset :=
  rfl

theorem marchStart_mono {y z : Int} (h : y ≤ z) : marchStart y ≤ marchStart z := by
  unfold marchStart
  omega

theorem marchMonth_le (d : Date) : d.marchMonth ≤ 11 := by
  have := d.month_le
  unfold marchMonth
  split <;> omega

/-- February ends the March year. -/
theorem marchMonth_eq_iff (d : Date) : d.marchMonth = 11 ↔ d.month = 2 := by
  have := d.month_pos
  have := d.month_le
  unfold marchMonth
  split <;> omega

/-- A date lies within its month. -/
theorem dayOfMarchYear_lt_month (d : Date) (h : d.month ≠ 2) :
    d.dayOfMarchYear < (153 * (d.marchMonth + 1) + 2) / 5 := by
  have low := d.month_pos
  have high := d.month_le
  have pos := d.day_pos
  have le := d.day_le
  unfold daysInMonth at le
  rw [if_neg h] at le
  unfold dayOfMarchYear marchMonth
  generalize d.month = m at *
  interval_cases m <;> simp at le h ⊢ <;> omega

/-- A date lies within its March year. -/
theorem dayOfMarchYear_lt_year (d : Date) :
    marchStart d.marchYear + d.dayOfMarchYear < marchStart (d.marchYear + 1) := by
  by_cases february : d.month = 2
  · have pos := d.day_pos
    have le := d.day_le
    unfold daysInMonth at le
    unfold marchStart dayOfMarchYear marchYear marchMonth
    rw [february] at le ⊢
    simp only [if_true, le_refl] at le ⊢
    split at le
    · rename_i leap
      simp only [isLeap, Bool.and_eq_true, Bool.or_eq_true, decide_eq_true_eq] at leap
      omega
    · omega
  · have inMonth := d.dayOfMarchYear_lt_month february
    have last := d.marchMonth_le
    have ne : d.marchMonth ≠ 11 := fun h => february (d.marchMonth_eq_iff.1 h)
    unfold marchStart
    omega

/-- The day number of a date tells its March year. -/
theorem marchYear_le_of_dayNumber {d e : Date} (h : d.dayNumber ≤ e.dayNumber) :
    d.marchYear ≤ e.marchYear := by
  by_contra later
  have next : marchStart (e.marchYear + 1) ≤ marchStart d.marchYear :=
    marchStart_mono (by omega)
  have within := e.dayOfMarchYear_lt_year
  rw [dayNumber_eq, dayNumber_eq] at h
  omega

/-- A date is the year, the month and the day that it is made of. -/
theorem ext_iff {d e : Date} : d = e ↔ d.year = e.year ∧ d.month = e.month ∧ d.day = e.day := by
  obtain ⟨y, m, n, _, _, _, _⟩ := d
  obtain ⟨y', m', n', _, _, _, _⟩ := e
  simp

/-- A date is told by its March year and its day in it. -/
theorem eq_of_march {d e : Date} (year : d.marchYear = e.marchYear)
    (day : d.dayOfMarchYear = e.dayOfMarchYear) : d = e := by
  have pos := d.day_pos
  have pos' := e.day_pos
  have month : d.marchMonth = e.marchMonth := by
    have last := d.marchMonth_le
    have last' := e.marchMonth_le
    have within : d.marchMonth ≠ 11 → _ := fun h =>
      d.dayOfMarchYear_lt_month fun february => h (d.marchMonth_eq_iff.2 february)
    have within' : e.marchMonth ≠ 11 → _ := fun h =>
      e.dayOfMarchYear_lt_month fun february => h (e.marchMonth_eq_iff.2 february)
    unfold dayOfMarchYear at day within within'
    omega
  have months : d.month = e.month := by
    have := d.month_pos
    have := d.month_le
    have := e.month_pos
    have := e.month_le
    unfold marchMonth at month
    split at month <;> split at month <;> omega
  refine ext_iff.2 ⟨?_, months, ?_⟩
  · unfold marchYear at year
    rw [months] at year
    split at year <;> omega
  · unfold dayOfMarchYear at day
    rw [month] at day
    omega

/-- Different dates have different day numbers. -/
theorem dayNumber_inj {d e : Date} (h : d.dayNumber = e.dayNumber) : d = e := by
  have year : d.marchYear = e.marchYear :=
    Int.le_antisymm (marchYear_le_of_dayNumber h.le) (marchYear_le_of_dayNumber h.ge)
  refine eq_of_march year ?_
  rw [dayNumber_eq, dayNumber_eq, year] at h
  omega

end Date

namespace CycleDay

/-- A day of the cycle lies as many days after the start of the cycle as its index says. -/
theorem index_eq (n : Nat) (h : n < 146097) :
    Date.marchStart (ofIndex n h).yearOfCycle + (ofIndex n h).dayOfYear = n := by
  simp only [ofIndex]
  have centuries : n - 36524 * min (n / 36524) 3 ≤ 36524 ∧
      (min (n / 36524) 3 < 3 → n - 36524 * min (n / 36524) 3 < 36524) ∧
      36524 * min (n / 36524) 3 ≤ n ∧ min (n / 36524) 3 ≤ 3 := by omega
  generalize min (n / 36524) 3 = century at *
  generalize inCentury_eq : n - 36524 * century = inCentury at *
  have quads : inCentury / 1461 ≤ 24 := by omega
  generalize quad_eq : inCentury / 1461 = quad at *
  generalize inQuad_eq : inCentury - 1461 * quad = inQuad at *
  have years : min (inQuad / 365) 3 ≤ 3 ∧ 365 * min (inQuad / 365) 3 ≤ inQuad := by omega
  generalize min (inQuad / 365) 3 = year at *
  have four : ((100 * century + 4 * quad + year : Nat) : Int) / 4 = 25 * century + quad := by omega
  have hundred : ((100 * century + 4 * quad + year : Nat) : Int) / 100 = century := by omega
  have all : ((100 * century + 4 * quad + year : Nat) : Int) / 400 = 0 := by omega
  unfold Date.marchStart
  omega

end CycleDay

namespace Date

/-- Four hundred years are a whole number of days. -/
theorem marchStart_cycle (cycle year : Int) :
    marchStart (400 * cycle + year) = 146097 * cycle + marchStart year := by
  have quads : (400 * cycle + year) / 4 = 100 * cycle + year / 4 := by omega
  have centuries : (400 * cycle + year) / 100 = 4 * cycle + year / 100 := by omega
  have cycles : (400 * cycle + year) / 400 = cycle + year / 400 := by omega
  unfold marchStart
  omega

theorem marchYear_ofDayNumber (n : Int) (h : ((n + epochOffset) % 146097).toNat < 146097) :
    (ofDayNumber n).marchYear = 400 * ((n + epochOffset) / 146097) +
      (CycleDay.ofIndex ((n + epochOffset) % 146097).toNat h).yearOfCycle := by
  unfold marchYear ofDayNumber CycleDay.year
  simp only
  split <;> omega

theorem dayOfMarchYear_ofDayNumber (n : Int) (h : ((n + epochOffset) % 146097).toNat < 146097) :
    (ofDayNumber n).dayOfMarchYear =
      (CycleDay.ofIndex ((n + epochOffset) % 146097).toNat h).dayOfYear := by
  unfold dayOfMarchYear marchMonth ofDayNumber
  simp only
  generalize CycleDay.ofIndex _ _ = d
  have last := d.dayOfYear_le
  unfold CycleDay.day CycleDay.month CycleDay.marchMonth
  split <;> split at * <;> omega

theorem dayNumber_ofDayNumber (n : Int) : (ofDayNumber n).dayNumber = n := by
  have within : ((n + epochOffset) % 146097).toNat < 146097 := by omega
  have index := CycleDay.index_eq ((n + epochOffset) % 146097).toNat within
  rw [dayNumber_eq, marchYear_ofDayNumber n within, dayOfMarchYear_ofDayNumber n within,
    marchStart_cycle]
  omega

theorem ofDayNumber_dayNumber (d : Date) : ofDayNumber d.dayNumber = d :=
  dayNumber_inj (dayNumber_ofDayNumber d.dayNumber)

/-! ## The order of dates -/

/-- Dates are ordered by the year, then by the month, then by the day. -/
instance : LT Date where
  lt d e := d.year < e.year ∨
    (d.year = e.year ∧ (d.month < e.month ∨ (d.month = e.month ∧ d.day < e.day)))

instance (d e : Date) : Decidable (d < e) :=
  inferInstanceAs (Decidable (_ ∨ _))

theorem dayNumber_lt_of_marchYear_lt {d e : Date} (h : d.marchYear < e.marchYear) :
    d.dayNumber < e.dayNumber := by
  have within := d.dayOfMarchYear_lt_year
  have next : marchStart (d.marchYear + 1) ≤ marchStart e.marchYear := marchStart_mono (by omega)
  rw [dayNumber_eq, dayNumber_eq]
  omega

theorem dayNumber_lt_of_marchMonth_lt {d e : Date} (year : d.marchYear = e.marchYear)
    (h : d.marchMonth < e.marchMonth) : d.dayNumber < e.dayNumber := by
  have last := e.marchMonth_le
  have within : d.dayOfMarchYear < (153 * (d.marchMonth + 1) + 2) / 5 := by
    apply d.dayOfMarchYear_lt_month
    intro february
    have := d.marchMonth_eq_iff.2 february
    omega
  have start : (153 * e.marchMonth + 2) / 5 ≤ e.dayOfMarchYear := by
    have := e.day_pos
    unfold dayOfMarchYear
    omega
  rw [dayNumber_eq, dayNumber_eq, year]
  omega

/-- A later date has a greater day number. -/
theorem dayNumber_lt_of_lt {d e : Date} (h : d < e) : d.dayNumber < e.dayNumber := by
  have low := d.month_pos
  have low' := e.month_pos
  have high := d.month_le
  rcases h with year | ⟨year, month | ⟨month, day⟩⟩
  · by_cases march : d.marchYear < e.marchYear
    · exact dayNumber_lt_of_marchYear_lt march
    · -- From March to the end of the next February the March year stays the same.
      have same : d.marchYear = e.marchYear ∧ 2 < d.month ∧ e.month ≤ 2 := by
        unfold marchYear at *
        split at march <;> split at march <;> omega
      apply dayNumber_lt_of_marchMonth_lt same.1
      unfold marchMonth
      rw [if_neg (by omega), if_pos same.2.2]
      omega
  · by_cases march : d.marchYear < e.marchYear
    · exact dayNumber_lt_of_marchYear_lt march
    · have same : d.marchYear = e.marchYear ∧ (d.month ≤ 2 ↔ e.month ≤ 2) := by
        unfold marchYear at *
        split at march <;> split at march <;> omega
      apply dayNumber_lt_of_marchMonth_lt same.1
      unfold marchMonth
      split <;> split <;> omega
  · have pos := d.day_pos
    have march : d.marchYear = e.marchYear := by
      unfold marchYear
      rw [year, month]
    rw [dayNumber_eq, dayNumber_eq, march]
    unfold dayOfMarchYear marchMonth
    rw [month]
    omega

/-- Dates are in the order of their day numbers. -/
theorem lt_iff_dayNumber_lt {d e : Date} : d < e ↔ d.dayNumber < e.dayNumber := by
  constructor
  · exact dayNumber_lt_of_lt
  · intro before
    by_contra notBefore
    have apart : d = e ∨ e < d := by
      have : ¬ (d.year < e.year ∨
        (d.year = e.year ∧ (d.month < e.month ∨ (d.month = e.month ∧ d.day < e.day)))) := notBefore
      have turned : e < d ↔ e.year < d.year ∨
        (e.year = d.year ∧ (e.month < d.month ∨ (e.month = d.month ∧ e.day < d.day))) := Iff.rfl
      rw [ext_iff, turned]
      omega
    rcases apart with rfl | after
    · exact Int.lt_irrefl _ before
    · exact Int.lt_asymm before (dayNumber_lt_of_lt after)

/-! ## The range of values -/

/-- The day number of the first date that a value may denote. -/
def firstDay : Int := -96465292

/-- The day number of the last date that a value may denote. -/
def lastDay : Int := 95026236

/-- January and February follow the tenth month of the March year. -/
theorem le_dayOfMarchYear_iff (d : Date) : 306 ≤ d.dayOfMarchYear ↔ d.month ≤ 2 := by
  have pos := d.day_pos
  constructor
  · intro late
    by_contra early
    have within := d.dayOfMarchYear_lt_month (by omega)
    have high := d.month_le
    unfold marchMonth at within
    split at within <;> omega
  · intro early
    have low := d.month_pos
    unfold dayOfMarchYear marchMonth
    split <;> omega

/-- A year begins 306 days after the March year in front of it. -/
theorem le_year_iff {d : Date} {y : Int} :
    y ≤ d.year ↔ marchStart (y - 1) + 306 - epochOffset ≤ d.dayNumber := by
  have late := d.le_dayOfMarchYear_iff
  have within := d.dayOfMarchYear_lt_year
  have year : d.marchYear = if d.month ≤ 2 then d.year - 1 else d.year := rfl
  rw [dayNumber_eq]
  rcases Int.lt_trichotomy d.marchYear (y - 1) with before | same | behind
  · have next : marchStart (d.marchYear + 1) ≤ marchStart (y - 1) := marchStart_mono (by omega)
    split at year <;> omega
  · rw [← same]
    split at year <;> omega
  · have next : marchStart y ≤ marchStart d.marchYear := marchStart_mono (by omega)
    have long : marchStart (y - 1) + 365 ≤ marchStart y := by
      unfold marchStart
      omega
    split at year <;> omega

/-- The dates that values may denote, by their day numbers. -/
theorem inRange_iff {d : Date} : d.InRange ↔ firstDay ≤ d.dayNumber ∧ d.dayNumber ≤ lastDay := by
  have first : firstDay = marchStart (minYear - 1) + 306 - epochOffset := by decide
  have last : lastDay + 1 = marchStart (maxYear + 1 - 1) + 306 - epochOffset := by decide
  have low := le_year_iff (d := d) (y := minYear)
  have high := le_year_iff (d := d) (y := maxYear + 1)
  rw [← first] at low
  rw [← last] at high
  rw [InRange, low]
  omega

end Date

namespace WallClock

/-! ## Clock readings -/

theorem epochSeconds_ofEpoch (seconds : Int) (nano : Nat) (h : nano < 2 * nanosPerSecond) :
    (ofEpoch seconds nano h).epochSeconds = seconds := by
  unfold epochSeconds ofEpoch secondsPerDay
  simp only [Date.dayNumber_ofDayNumber]
  omega

/-- A reading is the seconds that it counts and the nanoseconds beside them. -/
theorem ofEpoch_epochSeconds (w : WallClock) :
    ofEpoch w.epochSeconds w.time.nano w.nano_lt = w := by
  obtain ⟨d, ⟨second, nano, second_lt, nano_lt⟩⟩ := w
  unfold secondsPerDay at second_lt
  have date : (d.dayNumber * secondsPerDay + second) / secondsPerDay = d.dayNumber := by
    unfold secondsPerDay
    omega
  have time : ((d.dayNumber * secondsPerDay + second) % secondsPerDay).toNat = second := by
    unfold secondsPerDay
    omega
  simp only [ofEpoch, epochSeconds, date, time, Date.ofDayNumber_dayNumber]

theorem inRange_iff {w : WallClock} :
    w.InRange ↔ Instant.minSeconds ≤ w.epochSeconds ∧ w.epochSeconds ≤ Instant.maxSeconds := by
  have second := w.time.secondOfDay_lt
  rw [InRange, Date.inRange_iff]
  unfold epochSeconds Date.firstDay Date.lastDay Instant.minSeconds Instant.maxSeconds
  unfold secondsPerDay at *
  omega

end WallClock
end QueryResult.Calendar
