import QueryResult.Calendar.Clock
import QueryResult.Number.FixedPoint

/-!
# Times of day as fixed point seconds

A time travels as the seconds since midnight with the fraction that its scale allows. `TimeValue`
keeps the value as it came beside the clock reading; the scale decides how many digits of the
second are shown.
-/

namespace QueryResult
open QueryResult.Calendar QueryResult.Number

/-- A time of day at the scale of its column. -/
structure TimeValue where
  /-- The seconds since midnight. -/
  value : FixedPoint
  time : TimeOfDay
deriving DecidableEq

namespace TimeValue

/-- Whether a fixed point value lies between midnight and the next one. -/
def WithinDay (v : FixedPoint) : Prop :=
  0 ≤ v.fractions ∧ v.fractions < secondsPerDay * v.scale.perSecond

instance (v : FixedPoint) : Decidable (WithinDay v) :=
  inferInstanceAs (Decidable (_ ∧ _))

/-- The time a fixed point number of seconds after midnight, within the day. -/
def ofFixedPoint? (v : FixedPoint) : Option TimeValue :=
  if WithinDay v then (TimeOfDay.ofSeconds? v.wholeSeconds.toNat v.nanos).map (⟨v, ·⟩) else none

/-- Reads a token as a time of day. -/
def decode (token : String) (scale : Scale) : Except DecodeError TimeValue :=
  match (FixedPoint.parse? token.toList scale).bind ofFixedPoint? with
  | some t => .ok t
  | none => .error ⟨.time, token⟩

/-- The whole milliseconds since midnight. -/
def millis (t : TimeValue) : Nat := t.time.millis

end TimeValue
end QueryResult
