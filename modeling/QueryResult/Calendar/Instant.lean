import QueryResult.Calendar.Clock
import QueryResult.Text.Digits

/-!
# Instants and offsets

An `Instant` is a point of time as seconds and nanoseconds from the Unix epoch. An `Offset` is how
far a clock is ahead of UTC, always less than a day. A `Zoned` instant carries the offset of the
clock it is shown on, and `Zoned.wallClock` is what that clock reads.
-/

namespace QueryResult.Calendar
open QueryResult.Text

/-- The seconds by which a clock is ahead of UTC; behind it for a negative number. -/
structure Offset where
  seconds : Int
  lower : -86400 < seconds
  upper : seconds < 86400
deriving DecidableEq

namespace Offset

/-- No offset. -/
def utc : Offset := ⟨0, by decide, by decide⟩

/-- The offset of a number of seconds, when it is less than a day. -/
def ofSeconds? (s : Int) : Option Offset :=
  if h : -86400 < s ∧ s < 86400 then some ⟨s, h.1, h.2⟩ else none

/-- The offset nearest to a number of seconds. -/
def clamp (s : Int) : Offset :=
  ⟨max (-86399) (min 86399 s), by omega, by omega⟩

/-- The whole hours of the offset without its sign. -/
def hours (o : Offset) : Nat := o.seconds.natAbs / 3600

/-- The whole minutes beyond the hours, without the sign. -/
def minutes (o : Offset) : Nat := o.seconds.natAbs % 3600 / 60

/-- The sign of the offset as a character; UTC itself counts as ahead. -/
def sign (o : Offset) : Char := if o.seconds < 0 then '-' else '+'

/-- The offset as a sign, hours and minutes, and seconds when there are any. -/
def text (o : Offset) : String :=
  let seconds := o.seconds.natAbs % 60
  String.ofList <|
    o.sign :: padded 2 o.hours ++ ':' :: padded 2 o.minutes ++
      if seconds = 0 then [] else ':' :: padded 2 seconds

theorem ofSeconds?_eq_some_iff {s : Int} {o : Offset} : ofSeconds? s = some o ↔ o.seconds = s := by
  unfold ofSeconds?
  split <;> rename_i h
  · simp only [Option.some.injEq]
    constructor
    · rintro rfl; rfl
    · rintro rfl; rfl
  · simp only [reduceCtorEq, false_iff]
    rintro rfl; exact h ⟨o.lower, o.upper⟩

theorem clamp_eq {o : Offset} : clamp o.seconds = o := by
  obtain ⟨s, hl, hu⟩ := o
  simp only [clamp, Offset.mk.injEq]
  omega

end Offset

/-- A point of time. -/
@[ext] structure Instant where
  /-- The whole seconds since 1970-01-01 00:00 UTC. -/
  seconds : Int
  /-- The nanoseconds of the second, beyond `nanosPerSecond` inside a leap second. -/
  nano : Nat
  nano_lt : nano < 2 * nanosPerSecond

instance : DecidableEq Instant := fun _ _ => decidable_of_iff _ Instant.ext_iff.symm

namespace Instant

/-- The first second that a value may denote. -/
def minSeconds : Int := -8334601228800

/-- The last second that a value may denote. -/
def maxSeconds : Int := 8210266876799

/-- Whether a value may denote the instant. -/
def InRange (i : Instant) : Prop :=
  minSeconds ≤ i.seconds ∧ i.seconds ≤ maxSeconds

instance (i : Instant) : Decidable i.InRange :=
  inferInstanceAs (Decidable (_ ∧ _))

/-- The instant some seconds and less than a second of nanoseconds after the epoch, if it is in
range. -/
def ofEpoch? (seconds : Int) (nano : Nat) : Option Instant :=
  if h : nano < nanosPerSecond ∧ minSeconds ≤ seconds ∧ seconds ≤ maxSeconds then
    some ⟨seconds, nano, by have := h.1; omega⟩
  else none

/-- What a clock that is ahead of UTC by an offset reads at the instant. -/
def wallClock (i : Instant) (o : Offset) : WallClock :=
  WallClock.ofEpoch (i.seconds + o.seconds) i.nano i.nano_lt

/-- What a clock on UTC reads at the instant. -/
def utc (i : Instant) : WallClock :=
  WallClock.ofEpoch i.seconds i.nano i.nano_lt

/-- The instant at which a clock on UTC shows the reading. -/
def ofUtc (w : WallClock) : Instant :=
  ⟨w.epochSeconds, w.time.nano, w.nano_lt⟩

/-- Instants are ordered by their seconds, then by the nanoseconds. -/
instance : LE Instant where
  le a b := a.seconds < b.seconds ∨ (a.seconds = b.seconds ∧ a.nano ≤ b.nano)

instance (a b : Instant) : Decidable (a ≤ b) :=
  inferInstanceAs (Decidable (_ ∨ _))

end Instant

/-- An instant with the offset of a clock that shows it. -/
structure Zoned where
  instant : Instant
  offset : Offset
deriving DecidableEq

/-- What the clock of a zoned instant reads. -/
def Zoned.wallClock (z : Zoned) : WallClock :=
  z.instant.wallClock z.offset

/-- The instant at which a clock ahead of UTC by an offset shows a reading, if it is in range. -/
def WallClock.withOffset? (w : WallClock) (o : Offset) : Option Zoned :=
  let utc := w.addSeconds (-o.seconds)
  if utc.InRange then some ⟨Instant.ofUtc utc, o⟩ else none

end QueryResult.Calendar
