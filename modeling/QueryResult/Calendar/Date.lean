/-!
# Calendar dates

Dates of the proleptic Gregorian calendar with astronomical years, so that year 0 precedes year 1.
A `Date` is always a day of the calendar. `ofDayNumber` and `dayNumber` count days from 1970-01-01;
both work in years that begin in March, which puts the leap day at the end of a year.

The calendar itself has no end. `InRange` marks the dates that values may denote.
-/

namespace QueryResult.Calendar

/-- Whether a year has a 29th of February. -/
def isLeap (year : Int) : Bool :=
  decide (year % 4 = 0) && (decide (year % 100 ≠ 0) || decide (year % 400 = 0))

/-- The number of days in a month. -/
def daysInMonth (year : Int) (month : Nat) : Nat :=
  if month = 2 then (if isLeap year then 29 else 28)
  else if month = 4 ∨ month = 6 ∨ month = 9 ∨ month = 11 then 30
  else 31

/-- A day of the calendar. -/
structure Date where
  year : Int
  month : Nat
  day : Nat
  month_pos : 1 ≤ month
  month_le : month ≤ 12
  day_pos : 1 ≤ day
  day_le : day ≤ daysInMonth year month
deriving DecidableEq

/-- A day of a 400-year cycle, by its March year in the cycle and its day in that year. -/
structure CycleDay where
  yearOfCycle : Nat
  dayOfYear : Nat
  dayOfYear_le : dayOfYear ≤ 365
  leap_of_last : dayOfYear = 365 → isLeap (yearOfCycle + 1) = true

namespace CycleDay

/-- The day number `n` of a 400-year cycle that begins on a 1st of March. A century holds 36524
days, four years hold 1461 and a year 365, and each leap day falls to the last of its part. -/
def ofIndex (n : Nat) (h : n < 146097) : CycleDay :=
  let century := min (n / 36524) 3
  let inCentury := n - 36524 * century
  let quad := inCentury / 1461
  let inQuad := inCentury - 1461 * quad
  let year := min (inQuad / 365) 3
  { yearOfCycle := 100 * century + 4 * quad + year
    dayOfYear := inQuad - 365 * year
    dayOfYear_le := by omega
    leap_of_last := by
      intro last
      simp only [isLeap, Bool.and_eq_true, Bool.or_eq_true, decide_eq_true_eq]
      omega }

/-- The month of a day, counted from March as zero. -/
def marchMonth (d : CycleDay) : Nat :=
  (5 * d.dayOfYear + 2) / 153

/-- The month of a day, January being 1. -/
def month (d : CycleDay) : Nat :=
  if d.marchMonth < 10 then d.marchMonth + 3 else d.marchMonth - 9

/-- The day of its month. -/
def day (d : CycleDay) : Nat :=
  d.dayOfYear - (153 * d.marchMonth + 2) / 5 + 1

/-- The year of a day; January and February belong to the year after their March year. -/
def year (cycle : Int) (d : CycleDay) : Int :=
  400 * cycle + d.yearOfCycle + if d.month ≤ 2 then 1 else 0

theorem month_pos (d : CycleDay) : 1 ≤ d.month := by
  unfold month marchMonth
  split <;> omega

theorem month_le (d : CycleDay) : d.month ≤ 12 := by
  have := d.dayOfYear_le
  unfold month marchMonth
  split <;> omega

theorem isLeap_add_cycles (y cycle : Int) : isLeap (400 * cycle + y) = isLeap y := by
  have h4 : (400 * cycle + y) % 4 = y % 4 := by omega
  have h100 : (400 * cycle + y) % 100 = y % 100 := by omega
  have h400 : (400 * cycle + y) % 400 = y % 400 := by omega
  simp only [isLeap, h4, h100, h400]

theorem day_le (cycle : Int) (d : CycleDay) : d.day ≤ daysInMonth (d.year cycle) d.month := by
  have hle := d.dayOfYear_le
  have hlast : d.month = 2 → d.day = 29 → isLeap (d.year cycle) = true := by
    intro hm hd
    have h365 : d.dayOfYear = 365 := by
      unfold day marchMonth at hd
      unfold month marchMonth at hm
      split at hm <;> omega
    have : d.year cycle = 400 * cycle + ((d.yearOfCycle : Int) + 1) := by
      simp [year, hm]; omega
    rw [this, isLeap_add_cycles]
    exact d.leap_of_last h365
  by_cases hm : d.month = 2
  · have h29 : d.day ≤ 29 := by
      unfold day marchMonth
      unfold month marchMonth at hm
      split at hm <;> omega
    simp only [daysInMonth, hm, if_true]
    split
    · exact h29
    · rename_i hl
      have : d.day ≠ 29 := fun h => hl (hlast hm h)
      omega
  · simp only [daysInMonth, hm, if_false]
    split
    · rename_i h30
      unfold day marchMonth
      unfold month marchMonth at h30
      split at h30 <;> omega
    · unfold day marchMonth
      omega

end CycleDay

namespace Date

/-- The days from 0000-03-01 to 1970-01-01. -/
def epochOffset : Int := 719468

/-- The date with a number of days since 1970-01-01. -/
def ofDayNumber (n : Int) : Date :=
  let shifted := n + epochOffset
  let cycle := shifted / 146097
  let d := CycleDay.ofIndex (shifted % 146097).toNat (by omega)
  { year := d.year cycle
    month := d.month
    day := d.day
    month_pos := d.month_pos
    month_le := d.month_le
    day_pos := by unfold CycleDay.day; omega
    day_le := d.day_le cycle }

/-- The days since 1970-01-01, negative before it. -/
def dayNumber (d : Date) : Int :=
  let year := if d.month ≤ 2 then d.year - 1 else d.year
  let marchMonth := if d.month ≤ 2 then d.month + 9 else d.month - 3
  365 * year + year / 4 - year / 100 + year / 400 +
    ((153 * marchMonth + 2) / 5 + d.day - 1 : Nat) - epochOffset

/-- The date with a year, a month and a day of the month, if there is one. -/
def ofCivil? (year : Int) (month day : Nat) : Option Date :=
  if h : 1 ≤ month ∧ month ≤ 12 ∧ 1 ≤ day ∧ day ≤ daysInMonth year month then
    some ⟨year, month, day, h.1, h.2.1, h.2.2.1, h.2.2.2⟩
  else none

/-- The day of the week, Monday being 0. -/
def weekday (d : Date) : Nat :=
  ((d.dayNumber + 3) % 7).toNat

theorem weekday_lt (d : Date) : d.weekday < 7 := by
  unfold weekday; omega

/-- The first year that a value may denote. -/
def minYear : Int := -262143

/-- The last year that a value may denote. -/
def maxYear : Int := 262142

/-- Whether a value may denote the date. -/
def InRange (d : Date) : Prop :=
  minYear ≤ d.year ∧ d.year ≤ maxYear

instance (d : Date) : Decidable d.InRange :=
  inferInstanceAs (Decidable (_ ∧ _))

/-- The date some days later, or earlier for a negative number, if it is in range. -/
def addDays? (d : Date) (n : Int) : Option Date :=
  let later := ofDayNumber (d.dayNumber + n)
  if later.InRange then some later else none

end Date
end QueryResult.Calendar
