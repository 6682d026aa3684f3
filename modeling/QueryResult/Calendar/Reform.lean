import QueryResult.Calendar.Clock

/-!
# The calendar reform of 1582

Values are decoded in the Gregorian calendar throughout. When a date before the reform is shown, it
is moved by the days that the two calendars had drifted apart in its century, so that text agrees
with systems that print such dates in the Julian calendar. Only text is moved, never a value.
-/

namespace QueryResult.Calendar.Date

/-- The day number of 1582-10-04, the last day of the Julian calendar. -/
def lastJulianDay : Int := -141438

/-- The days by which a date moves when it is shown: with `h` the hundreds of its year, cut toward
zero, it is `h - h / 4 - 2` up to the reform and zero after it. -/
def julianShift (d : Date) : Int :=
  if lastJulianDay < d.dayNumber then 0
  else
    let hundreds := d.year.tdiv 100
    hundreds - hundreds.tdiv 4 - 2

/-- The date as it is shown. A date that would leave the range stays as it is. -/
def shown (d : Date) : Date :=
  if d.julianShift = 0 then d else (d.addDays? d.julianShift).getD d

theorem shown_eq_self_of_after {d : Date} (h : lastJulianDay < d.dayNumber) : d.shown = d := by
  simp [shown, julianShift, h]

end QueryResult.Calendar.Date

namespace QueryResult.Calendar.WallClock

/-- A reading as it is shown: its date moves, its time does not. -/
def shown (w : WallClock) : WallClock :=
  { w with date := w.date.shown }

end QueryResult.Calendar.WallClock
