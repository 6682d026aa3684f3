import QueryResult.Binary
import QueryResult.Pattern.Basic
import QueryResult.Session.Parameters
import QueryResult.Temporal.Timestamp
import QueryResult.Zone.Database

/-!
# Decoding contexts

A context holds all that decoding needs to know of a session: the zone of the client, how zones and
bytes are written and the patterns of dates, times and timestamps. Without parameters it is UTC,
legacy zones, hexadecimal bytes and no patterns; a value whose pattern is missing can be decoded but
not shown. Zones are those of a database that the caller brings; without one, the zones whose tables
are part of the library are taken.

`Context.ofParameters` fails on the first parameter that cannot be taken, in the order zone, binary
format, shared timestamp pattern, patterns of the three kinds, date, time. A pattern of a kind takes
the place of the shared one, which must be good all the same.
-/

namespace QueryResult.Session
open QueryResult.Text

/-- A use of a pattern. -/
inductive PatternUse where
  | timestamp | date | time
deriving DecidableEq

/-- What is wrong with the settings of a session. -/
inductive ConfigurationFault where
  | parameters (e : ParametersError)
  | unknownZone (name : String)
  | binaryFormat (e : BinaryFormatError)
  | pattern (e : PatternError)
  /-- The scale of a column is beyond nanoseconds. -/
  | scale (e : Number.ScaleError)
  | missingPattern (use : PatternUse)
deriving DecidableEq

/-- The fault in words, with those of the reader of JSON. -/
def ConfigurationFault.message (fault : ConfigurationFault) (w : Wording := {}) : String :=
  match fault with
  | parameters e => e.message w
  | unknownZone name => "unknown time zone: " ++ name
  | binaryFormat e => e.message
  | pattern e => e.message
  | scale e => e.message
  | missingPattern .timestamp => "missing timestamp formatter"
  | missingPattern .date => "missing date formatter"
  | missingPattern .time => "missing time formatter"

/-- The settings of a session that govern decoding. -/
structure Context where
  /-- The zone of the client. -/
  zone : Zone := .utc
  /-- Whether timestamps without a zone are placed in the zone of the client. -/
  honorsZone : Bool := true
  encoding : ZoneEncoding := .legacy
  binaryFormat : BinaryFormat := .hex
  ntz : Option Pattern := none
  ltz : Option Pattern := none
  tz : Option Pattern := none
  date : Option Pattern := none
  time : Option Pattern := none
deriving DecidableEq

/-- A parameter without the white space around it, absent if nothing is left. -/
def present (parameter : Option String) : Option String :=
  (parameter.map fun s => String.ofList (trim s.toList)).filter fun s => !s.isEmpty

/-- The pattern of a parameter. -/
def compilePresent (parameter : Option String) :
    Except ConfigurationFault (Option Pattern) :=
  match present parameter with
  | none => .ok none
  | some text =>
    match Pattern.compile text with
    | .ok p => .ok (some p)
    | .error e => .error (.pattern e)

/-- The zone of a parameter in a database, UTC if it is absent. -/
def zoneOf (db : Zone.Database) (parameter : Option String) : Except ConfigurationFault Zone :=
  match present parameter with
  | none => .ok .utc
  | some name =>
    match db.find? name with
    | some z => .ok z
    | none => .error (.unknownZone name)

/-- The binary format of a parameter, hexadecimal if it is absent. -/
def binaryFormatOf (parameter : Option String) : Except ConfigurationFault BinaryFormat :=
  match present parameter with
  | none => .ok .hex
  | some name =>
    match BinaryFormat.ofName name with
    | .ok f => .ok f
    | .error e => .error (.binaryFormat e)

namespace Context

/-- The context that parameters describe, with the zones of a database. -/
def ofParameters (p : Parameters) (db : Zone.Database := .tabulated) :
    Except ConfigurationFault Context := do
  let zone ← zoneOf db p.timezone
  let binaryFormat ← binaryFormatOf p.binaryFormat
  let shared ← compilePresent p.timestampPattern
  let ntz ← compilePresent p.ntzPattern
  let ltz ← compilePresent p.ltzPattern
  let tz ← compilePresent p.tzPattern
  let date ← compilePresent p.datePattern
  let time ← compilePresent p.timePattern
  return {
    zone, binaryFormat, date, time
    honorsZone := p.honorsZone.getD true
    encoding := (p.resultVersion.map ZoneEncoding.ofResultVersion).getD .legacy
    ntz := ntz <|> shared
    ltz := ltz <|> shared
    tz := tz <|> shared }

/-- The context that parameters in JSON describe, with the zones of a database. -/
def ofJson (text : String) (db : Zone.Database := .tabulated) :
    Except ConfigurationFault Context :=
  match Parameters.ofJson text with
  | .ok p => ofParameters p db
  | .error e => .error (.parameters e)

/-- A pattern that may be missing. -/
def required (use : PatternUse) : Option Pattern → Except ConfigurationFault Pattern
  | some p => .ok p
  | none => .error (.missingPattern use)

/-- The pattern of a kind of timestamp. -/
def timestampPattern (cx : Context) : TimestampKind → Except ConfigurationFault Pattern
  | .ntz => required .timestamp cx.ntz
  | .ltz => required .timestamp cx.ltz
  | .tz => required .timestamp cx.tz

/-- The pattern of dates. -/
def datePattern (cx : Context) : Except ConfigurationFault Pattern :=
  required .date cx.date

/-- The pattern of times of day. -/
def timePattern (cx : Context) : Except ConfigurationFault Pattern :=
  required .time cx.time

end Context
end QueryResult.Session
