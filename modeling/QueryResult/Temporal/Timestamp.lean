import QueryResult.Number.FixedPoint
import QueryResult.Zone.Basic
import QueryResult.Zone.Index

/-!
# Timestamps

Every timestamp travels as fixed point seconds since 1970-01-01 00:00 UTC. The three kinds differ in
the zone that they are shown in: one without a zone is shown in UTC, one of the session in the
session's zone, and one with a zone of its own in that zone, which follows the seconds as an index
in the current encoding. The legacy encoding folds the zone into the value, so that the text alone
cannot tell it; such a timestamp stays unresolved until `resolveZone` supplies its offset.

The seconds are never adjusted for the zone. A timestamp may hold more seconds than the calendar
has; only a request for its instant or its clock reading then fails.
-/

namespace QueryResult
open QueryResult.Calendar QueryResult.Number QueryResult.Text

/-- The kinds of timestamp: without a zone, in the zone of the session, with a zone of its own. -/
inductive TimestampKind where
  | ntz | ltz | tz
deriving DecidableEq

/-- How a timestamp with a zone of its own is written. -/
inductive ZoneEncoding where
  | legacy | current
deriving DecidableEq

/-- The encoding of results of a version. -/
def ZoneEncoding.ofResultVersion (version : Int) : ZoneEncoding :=
  if 0 < version then .current else .legacy

/-- The zone that a timestamp is shown in. -/
inductive DisplayZone where
  | named (zone : Zone)
  | fixed (offset : Offset)
  /-- The zone is not known from the text. -/
  | unresolved
deriving DecidableEq

namespace DisplayZone

/-- The zone as text. -/
def text : DisplayZone → String
  | named z => z.name
  | fixed o => o.text
  | unresolved => "<unresolved>"

/-- The offset in force in the zone at a second of UTC, if the zone is known. -/
def offsetAt? : DisplayZone → Int → Option Offset
  | named z, t => some (z.offsetAt t)
  | fixed o, _ => some o
  | unresolved, _ => none

end DisplayZone

/-- A point of time at the scale of its column, with the zone that it is shown in. -/
structure Timestamp where
  /-- The seconds since 1970-01-01 00:00 UTC. -/
  value : FixedPoint
  zone : DisplayZone
deriving DecidableEq

/-- Why a timestamp has no instant or no clock reading. -/
inductive TimestampError where
  | unresolvedZone
  | outOfRange (value : FixedPoint)
deriving DecidableEq

/-- The error in words. -/
def TimestampError.message : TimestampError → String
  | unresolvedZone =>
    "the time zone of a TIMESTAMP_TZ value in the legacy encoding must be resolved " ++
      "from its binary value"
  | outOfRange value => "timestamp out of range: " ++ value.encode

namespace Timestamp

/-- The timestamp that is shown at an offset from now on. -/
def resolveZone (t : Timestamp) (o : Offset) : Timestamp :=
  { t with zone := .fixed o }

/-- The instant that a timestamp denotes. -/
def instant (t : Timestamp) : Except TimestampError Instant :=
  if t.zone = .unresolved then .error .unresolvedZone
  else
    match Instant.ofEpoch? t.value.wholeSeconds t.value.nanos with
    | some i => .ok i
    | none => .error (.outOfRange t.value)

/-- What a clock on UTC reads at the instant. -/
def utcClock (t : Timestamp) : Except TimestampError WallClock :=
  t.instant.map Instant.utc

/-- The instant with the offset of the timestamp's own zone. -/
def zoned (t : Timestamp) : Except TimestampError Zoned := do
  let i ← t.instant
  match t.zone.offsetAt? i.seconds with
  | some o => .ok ⟨i, o⟩
  | none => .error .unresolvedZone

/-- The instant at which a clock in another zone shows what a clock on UTC shows at this one. -/
def reinterpretIn (t : Timestamp) (zone : Zone) : Except TimestampError Instant := do
  let w ← t.utcClock
  match zone.localize? w with
  | some z => .ok z.instant
  | none => .error (.outOfRange t.value)

/-- The index of the offset that the timestamp is shown at. -/
def zoneIndex? (t : Timestamp) : Option Int :=
  match t.zoned with
  | .ok z => z.offset.index?
  | .error _ => none

/-- The token of the timestamp as one of a kind, in the current encoding. There is none with a zone
of its own unless the offset is of whole minutes. -/
def encode (t : Timestamp) : TimestampKind → Option String
  | .ntz | .ltz => some t.value.encode
  | .tz => t.zoneIndex?.map fun index =>
      t.value.encode ++ " " ++ String.ofList (intText index)

/-- The zone of a token that does not name one. -/
def zoneOfKind (session : Zone) : TimestampKind → DisplayZone
  | .ntz => .named .utc
  | .ltz => .named session
  | .tz => .unresolved

/-- The timestamp of a token that is seconds, one space and the index of a zone. -/
def parseIndexed? (cs : List Char) (scale : Scale) : Option Timestamp :=
  match cs.dropWhile (· ≠ ' ') with
  | [] => none
  | _ :: index => do
    let value ← FixedPoint.parse? (cs.takeWhile (· ≠ ' ')) scale
    let offset ← (integerOfWidth? 64 index).bind Offset.ofIndex?
    return ⟨value, .fixed offset⟩

/-- The timestamp that a token spells. -/
def parse? (cs : List Char) (kind : TimestampKind) (scale : Scale) (session : Zone)
    (encoding : ZoneEncoding) : Option Timestamp :=
  if kind = .tz ∧ encoding = .current then parseIndexed? cs scale
  else (FixedPoint.parse? cs scale).map (⟨·, zoneOfKind session kind⟩)

/-- Reads a token as a timestamp of a kind. -/
def decode (token : String) (kind : TimestampKind) (scale : Scale) (session : Zone)
    (encoding : ZoneEncoding) : Except DecodeError Timestamp :=
  match parse? token.toList kind scale session encoding with
  | some t => .ok t
  | none => .error ⟨.timestamp, token⟩

end Timestamp
end QueryResult
