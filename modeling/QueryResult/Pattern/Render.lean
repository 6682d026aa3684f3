import QueryResult.Calendar.Reform
import QueryResult.Pattern.Basic
import QueryResult.Temporal.TimeValue
import QueryResult.Temporal.Timestamp
import QueryResult.Text.Digits

/-!
# Rendering by a pattern

A pattern renders what a clock reads, the offset of the clock and the scale of the value; the scale
tells how many digits of the second `FF` shows. Months and days of the week are written in English.

Dates before the calendar reform are moved when they are shown. A date alone is shown at its
midnight, a time alone on 1970-01-01, both at the offset of UTC.
-/

namespace QueryResult.Pattern
open QueryResult.Calendar QueryResult.Number QueryResult.Text

/-- The names of the months from January on. -/
def monthNames : List String :=
  ["January", "February", "March", "April", "May", "June", "July", "August", "September",
   "October", "November", "December"]

/-- The short names of the months. -/
def monthAbbreviations : List String :=
  ["Jan", "Feb", "Mar", "Apr", "May", "Jun", "Jul", "Aug", "Sep", "Oct", "Nov", "Dec"]

/-- The short names of the days of the week from Monday on. -/
def weekdayAbbreviations : List String :=
  ["Mon", "Tue", "Wed", "Thu", "Fri", "Sat", "Sun"]

/-- What is rendered: a clock reading, the offset of the clock and the scale of the value. -/
structure Shown where
  wall : WallClock
  offset : Offset
  scale : Scale
deriving DecidableEq

/-- A year with at least four digits, behind a minus sign before the year 0. -/
def yearText (year : Int) : List Char :=
  (if year < 0 then ['-'] else []) ++ padded 4 year.natAbs

/-- The first digits of the fraction of the second; a leap second shows the fraction beyond it. -/
def fractionText (nano digits : Nat) : List Char :=
  (padded 9 (nano % nanosPerSecond)).take digits

/-- An element as text. -/
def Element.render (x : Shown) : Element → List Char
  | .year4 => yearText x.wall.date.year
  | .year2 => padded 2 (x.wall.date.year % 100).toNat
  | .monthName => (monthNames[x.wall.date.month - 1]?.getD "").toList
  | .monthAbbreviation => (monthAbbreviations[x.wall.date.month - 1]?.getD "").toList
  | .month => padded 2 x.wall.date.month
  | .minute => padded 2 x.wall.time.minute
  | .day => padded 2 x.wall.date.day
  | .weekdayAbbreviation => (weekdayAbbreviations[x.wall.date.weekday]?.getD "").toList
  | .hour24 => padded 2 x.wall.time.hour
  | .hour12 => padded 2 x.wall.time.hour12
  | .halfDay => if x.wall.time.isAfternoon then ['P', 'M'] else ['A', 'M']
  | .second => padded 2 x.wall.time.second
  | .fraction digits => fractionText x.wall.time.nano (digits.getD x.scale.digits)
  | .offsetHours => x.offset.sign :: padded 2 x.offset.hours
  | .offsetMinutes => padded 2 x.offset.minutes

/-- An item as text. -/
def Item.render (x : Shown) : Item → List Char
  | .literal text => text
  | .element e => e.render x

/-- The text of a reading under the pattern. -/
def render (p : Pattern) (x : Shown) : String :=
  String.ofList (p.items.flatMap (·.render x))

/-- The text of a timestamp, shown in its own zone at its own scale. Within a day of the ends of what
an instant may denote, the offset can take the reading past the last year of the calendar or before
the first one. That is no error here: the reading is shown with that year. A calendar whose dates are
bounded has no such reading, and formatting breaks off there without an answer. -/
def formatTimestamp (p : Pattern) (t : Timestamp) : Except TimestampError String :=
  t.zoned.map fun z => p.render ⟨z.wallClock.shown, z.offset, t.value.scale⟩

/-- The text of a date. -/
def formatDate (p : Pattern) (d : Date) : String :=
  p.render ⟨.startOf d.shown, .utc, .seconds⟩

/-- The first day of the epoch, on which a time alone is shown. -/
def epochDate : Date := ⟨1970, 1, 1, by decide, by decide, by decide, by decide⟩

/-- The text of a time of day at its own scale. -/
def formatTime (p : Pattern) (t : TimeValue) : String :=
  p.render ⟨⟨epochDate, t.time⟩, .utc, t.value.scale⟩

/-- Every month has a name and a short name. -/
theorem month_isSome (d : Date) :
    (monthNames[d.month - 1]?).isSome = true ∧ (monthAbbreviations[d.month - 1]?).isSome = true := by
  have := d.month_pos
  have := d.month_le
  simp [monthNames, monthAbbreviations]
  omega

/-- Every day of the week has a short name. -/
theorem weekday_isSome (d : Date) : (weekdayAbbreviations[d.weekday]?).isSome = true := by
  have := d.weekday_lt
  simp [weekdayAbbreviations]
  omega

end QueryResult.Pattern
