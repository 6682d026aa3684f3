import QueryResult.Calendar.Date

/-!
# Clock readings

A `TimeOfDay` is what a clock shows within a day, a `WallClock` adds the date. Neither says where
the clock hangs. Readings are ordered along the seconds since 1970-01-01 00:00 that the clock would
count if it had always shown UTC.

A reading may stand inside a leap second: its nanoseconds then count on from 10^9, and the second
they follow is the last one of its minute.
-/

namespace QueryResult.Calendar

/-- The seconds of a day. -/
def secondsPerDay : Nat := 86400

/-- The nanoseconds of a second. -/
def nanosPerSecond : Nat := 1000000000

/-- A time within a day. -/
structure TimeOfDay where
  /-- The seconds since midnight. -/
  secondOfDay : Nat
  /-- The nanoseconds of the second, beyond `nanosPerSecond` inside a leap second. -/
  nano : Nat
  secondOfDay_lt : secondOfDay < secondsPerDay
  nano_lt : nano < 2 * nanosPerSecond
deriving DecidableEq

namespace TimeOfDay

/-- The start of the day. -/
def midnight : TimeOfDay := ⟨0, 0, by decide, by decide⟩

/-- The time a number of seconds and nanoseconds after midnight, within the day. -/
def ofSeconds? (second nano : Nat) : Option TimeOfDay :=
  if h : second < secondsPerDay ∧ nano < nanosPerSecond then
    some ⟨second, nano, h.1, by have := h.2; omega⟩
  else none

/-- The time that shows an hour, a minute, a second and nanoseconds; only the 59th second of a
minute is followed by a leap second. -/
def ofParts? (hour minute second nano : Nat) : Option TimeOfDay :=
  if h : hour < 24 ∧ minute < 60 ∧ second < 60 ∧ nano < 2 * nanosPerSecond then
    if nanosPerSecond ≤ nano ∧ second ≠ 59 then none
    else some ⟨3600 * hour + 60 * minute + second, nano, by unfold secondsPerDay; omega, h.2.2.2⟩
  else none

/-- The hour, 0 to 23. -/
def hour (t : TimeOfDay) : Nat := t.secondOfDay / 3600

/-- The minute of the hour. -/
def minute (t : TimeOfDay) : Nat := t.secondOfDay / 60 % 60

/-- The second of the minute. -/
def second (t : TimeOfDay) : Nat := t.secondOfDay % 60

/-- The hour of a twelve-hour clock, 1 to 12. -/
def hour12 (t : TimeOfDay) : Nat :=
  if t.hour % 12 = 0 then 12 else t.hour % 12

/-- Whether the time is noon or later. -/
def isAfternoon (t : TimeOfDay) : Bool :=
  decide (12 ≤ t.hour)

/-- The whole milliseconds since midnight. -/
def millis (t : TimeOfDay) : Nat :=
  t.secondOfDay * 1000 + t.nano / 1000000

theorem hour_lt (t : TimeOfDay) : t.hour < 24 := by
  have := t.secondOfDay_lt
  unfold secondsPerDay at this
  unfold hour
  omega

theorem parts (t : TimeOfDay) : 3600 * t.hour + 60 * t.minute + t.second = t.secondOfDay := by
  unfold hour minute second
  omega

end TimeOfDay

/-- A date with a time. -/
structure WallClock where
  date : Date
  time : TimeOfDay
deriving DecidableEq

namespace WallClock

theorem nano_lt (w : WallClock) : w.time.nano < 2 * nanosPerSecond := w.time.nano_lt

/-- The reading of 1970-01-01 00:00 plus a number of seconds, and nanoseconds beside them. -/
def ofEpoch (seconds : Int) (nano : Nat) (h : nano < 2 * nanosPerSecond) : WallClock :=
  { date := Date.ofDayNumber (seconds / secondsPerDay)
    time := ⟨(seconds % secondsPerDay).toNat, nano, by unfold secondsPerDay; omega, h⟩ }

/-- The whole seconds of the reading since 1970-01-01 00:00. -/
def epochSeconds (w : WallClock) : Int :=
  w.date.dayNumber * secondsPerDay + w.time.secondOfDay

/-- The start of a date. -/
def startOf (d : Date) : WallClock := ⟨d, .midnight⟩

/-- Whether a value may denote the reading. -/
def InRange (w : WallClock) : Prop := w.date.InRange

instance (w : WallClock) : Decidable w.InRange :=
  inferInstanceAs (Decidable w.date.InRange)

/-- The reading some seconds later, or earlier for a negative number. A move out of a leap second
leaves it at the end that the move goes through, so that the leap second has no length of its own
forwards and a whole second backwards. -/
def addSeconds (w : WallClock) (n : Int) : WallClock :=
  if n = 0 ∨ w.time.nano < nanosPerSecond then
    ofEpoch (w.epochSeconds + n) w.time.nano w.nano_lt
  else
    let second := if n < 0 then w.epochSeconds + 1 else w.epochSeconds
    ofEpoch (second + n) (w.time.nano - nanosPerSecond)
      (by have := w.nano_lt; unfold nanosPerSecond at *; omega)

end WallClock
end QueryResult.Calendar
