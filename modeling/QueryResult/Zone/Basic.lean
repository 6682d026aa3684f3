import QueryResult.Calendar.Instant

/-!
# Time zones

A zone is a history of offsets: one that holds from the beginning and then, at each transition, a
new one from that second of UTC on. Reading a clock in the zone is `offsetAt`. Going back is
`localize?`: given what a clock in the zone shows, it finds an instant at which it does. Where the
clock is set back, the earlier of two such instants is meant; where it is set forward past a
reading, the offset in force when UTC shows the reading stands in.
-/

namespace QueryResult
open QueryResult.Calendar

/-- A change of a zone's clocks. -/
structure Transition where
  /-- The second of UTC from which the offset is in force. -/
  since : Int
  offset : Offset
deriving DecidableEq

/-- The change to an offset of some seconds from a second of UTC on. -/
def Transition.of (since offset : Int) : Transition :=
  ⟨since, .clamp offset⟩

/-- A named zone with its history, the transitions in rising order. -/
structure Zone where
  name : String
  /-- The offset before the first transition. -/
  initial : Offset
  transitions : List Transition
deriving DecidableEq

/-- A stretch of time between two transitions, the later one excluded. -/
structure Span where
  start : Option Int
  stop : Option Int
  offset : Offset
deriving DecidableEq

namespace Span

/-- Where a clock reading, in seconds, lies with respect to what the clock shows in the span. -/
def locate (s : Span) (reading : Int) : Ordering :=
  if s.start.any fun a => decide (reading < a + s.offset.seconds) then .lt
  else if s.stop.any fun b => decide (b + s.offset.seconds ≤ reading) then .gt
  else .eq

/-- Whether the clock shows a reading within the span. -/
def shows (s : Span) (reading : Int) : Bool :=
  s.locate reading == .eq

end Span

namespace Zone

/-- A zone by its name, the seconds of its first offset and its transitions. -/
def ofTable (name : String) (initial : Int) (transitions : List Transition) : Zone :=
  { name, initial := .clamp initial, transitions }

/-- The zone of UTC. -/
def utc : Zone := .ofTable "UTC" 0 []

/-- The offset in force at a second of UTC, given the one before the transitions. -/
def inForce (t : Int) : Offset → List Transition → Offset
  | current, [] => current
  | current, x :: rest => if x.since ≤ t then inForce t x.offset rest else current

/-- The offset of the last transition that is not after a second of UTC. -/
def offsetAt (z : Zone) (t : Int) : Offset :=
  inForce t z.initial z.transitions

/-- An instant with the offset of the zone at it. -/
def zoned (z : Zone) (i : Instant) : Zoned :=
  ⟨i, z.offsetAt i.seconds⟩

/-- The spans that begin with one that is in force already. -/
def spansFrom (start : Option Int) (current : Offset) : List Transition → List Span
  | [] => [⟨start, none, current⟩]
  | x :: rest => ⟨start, some x.since, current⟩ :: spansFrom (some x.since) x.offset rest

/-- The history of the zone, cut at its transitions. -/
def spans (z : Zone) : Array Span :=
  (spansFrom none z.initial z.transitions).toArray

/-- Binary search for a span that shows a reading, between two indices. -/
def findSpan (spans : Array Span) (reading : Int) (low high : Nat) : Option Nat :=
  if low < high then
    let middle := low + (high - low) / 2
    match spans[middle]? with
    | none => none
    | some s =>
      match s.locate reading with
      | .lt => findSpan spans reading low middle
      | .eq => some middle
      | .gt => findSpan spans reading (middle + 1) high
  else none
termination_by high - low

/-- Whether the clock shows a reading within the span of an index. -/
def showsAt (spans : Array Span) (reading : Int) (i : Nat) : Bool :=
  spans[i]?.any (·.shows reading)

/-- The offset of the earliest instant found at which a clock in the zone shows a reading, in
seconds; of two spans that overlap in the reading, the search may find the later one. -/
def offsetOfReading? (z : Zone) (reading : Int) : Option Offset := do
  let spans := z.spans
  let i ← findSpan spans reading 0 spans.size
  let earliest := if 0 < i ∧ showsAt spans reading (i - 1) then i - 1 else i
  return (← spans[earliest]?).offset

/-- The offset that a clock reading in the zone is taken to have. -/
def readingOffset (z : Zone) (w : WallClock) : Offset :=
  (z.offsetOfReading? w.epochSeconds).getD (z.offsetAt w.epochSeconds)

/-- The instant that a clock reading in the zone denotes, if it is in range. -/
def localize? (z : Zone) (w : WallClock) : Option Zoned :=
  w.withOffset? (z.readingOffset w)

/-- The instant at which a date begins in the zone. -/
def startOf? (z : Zone) (d : Date) : Option Zoned :=
  z.localize? (.startOf d)

end Zone
end QueryResult
