import QueryResult.Column.Relation
import QueryResult.Pattern.Render
import QueryResult.ReadError
import QueryResult.Temporal.DayCount
import QueryResult.Value.Basic

/-!
# Reading tokens in representations

Each function reads one token of a column, which is not null, in one representation. Whether a type
can be read so at all is decided before the token is looked at. Numbers are read from columns whose
tokens are plain text; bytes from binary columns and from text.

Dates, times and instants convert into one another where a zone makes that meaningful. A timestamp
without a zone is read as a clock in the zone asked for, if the session wants that, and otherwise as
UTC; its date and its time are those that a clock in the zone of the client shows.
-/

namespace QueryResult
open QueryResult.Calendar QueryResult.Number QueryResult.Session

namespace Value

/-- The error of a type that is not read in a representation. -/
def notRead {α : Type} (type : ColumnType) (as : Representation) : Except ReadError α :=
  .error (.unsupported (.readingType type.scalarType as))

/-- A decoded token as a result, without a column so far. -/
def decoded {α : Type} : Except DecodeError α → Except ReadError α
  | .ok a => .ok a
  | .error e => .error (.decoding none e)

/-- A setting of the session as a result. -/
def configured {α : Type} : Except ConfigurationFault α → Except ReadError α
  | .ok a => .ok a
  | .error e => .error (.configuration e)

/-- What a timestamp gives, as a result. -/
def converted {α : Type} : Except TimestampError α → Except ReadError α
  | .ok a => .ok a
  | .error e => .error (.ofTimestamp e)

/-- The scale of a column of dates or times. -/
def columnScale (type : ColumnType) : Except ReadError Scale :=
  match Scale.ofNat type.scale with
  | .ok s => .ok s
  | .error e => .error (.configuration (.scale e))

/-- Reads a token as a boolean. Every token but `1` is false. -/
def readBoolean (token : String) (type : ColumnType) : Except ReadError Bool :=
  if type.scalarType.isTextualNumber then .ok (token == "1") else notRead type .boolean

/-- Reads a token as an integer of a width; digits after a point and exponents are refused. -/
def readInteger (bits : Nat) (kind : TokenKind) (as : Representation) (token : String)
    (type : ColumnType) : Except ReadError Int :=
  if type.scalarType.isTextualNumber then
    match integerOfWidth? bits token.toList with
    | some n => .ok n
    | none => .error (.decoding none ⟨kind, token⟩)
  else notRead type as

/-- Reads a token as an integer of 16 bits. -/
def readShort (token : String) (type : ColumnType) : Except ReadError Int :=
  readInteger 16 .short .short token type

/-- Reads a token as an integer of 32 bits. -/
def readInt (token : String) (type : ColumnType) : Except ReadError Int :=
  readInteger 32 .int .int token type

/-- Reads a token as an integer of 64 bits. -/
def readLong (token : String) (type : ColumnType) : Except ReadError Int :=
  readInteger 64 .long .long token type

/-- Reads a token as a number of single precision. -/
def readFloat (token : String) (type : ColumnType) : Except ReadError Binary32 :=
  if type.scalarType.isTextualNumber then
    match Binary32.parse? token.toList with
    | some x => .ok x
    | none => .error (.decoding none ⟨.float, token⟩)
  else notRead type .float

/-- Reads a token as a number of double precision. -/
def readDouble (token : String) (type : ColumnType) : Except ReadError Binary64 :=
  if type.scalarType.isTextualNumber then
    match Binary64.parse? token.toList with
    | some x => .ok x
    | none => .error (.decoding none ⟨.double, token⟩)
  else notRead type .double

/-- Reads a token as an exact decimal at its own scale. -/
def readDecimal (token : String) (type : ColumnType) : Except ReadError Decimal :=
  if type.scalarType.isTextualNumber then decoded (Decimal.decode token)
  else notRead type .decimal

/-- Reads a token as a decimal with exactly `places` digits after the point. -/
def readDecimalAt (places : Nat) (token : String) (type : ColumnType) :
    Except ReadError Decimal := do
  let d ← readDecimal token type
  match d.rescale? places with
  | some d => return d
  | none => .error (.decoding none ⟨.numeric, token⟩)

/-- Reads a token as bytes. -/
def readBytes (token : String) (type : ColumnType) : Except ReadError (List UInt8) :=
  match type.scalarType with
  | .binary | .string => decoded (Binary.decode token)
  | _ => notRead type .bytes

/-- Reads a token as a timestamp, as it was sent. -/
def readTimestamp (token : String) (type : ColumnType) (cx : Context) :
    Except ReadError Timestamp :=
  match type.scalarType.timestampKind? with
  | none => notRead type .timestamp
  | some kind => do
    let scale ← columnScale type
    decoded (Timestamp.decode token kind scale cx.zone cx.encoding)

/-- The instant of a timestamp. One without a zone is placed in `zone` if the session wants that. -/
def instantOf (t : Timestamp) (type : ColumnType) (cx : Context) (zone : Zone) :
    Except ReadError Instant :=
  if type.scalarType = .timestampNtz ∧ cx.honorsZone = true then converted (t.reinterpretIn zone)
  else converted t.instant

/-- Reads the token of a timestamp column as an instant. -/
def readTimestampInstant (token : String) (type : ColumnType) (cx : Context) (zone : Zone) :
    Except ReadError Instant := do
  instantOf (← readTimestamp token type cx) type cx zone

/-- What a clock in a zone shows at the instant of a timestamp column. At an instant within a day of
the ends of the calendar the reading may lie outside of it; it is given all the same, where a
calendar whose dates are bounded has none and breaks off without an answer. -/
def readTimestampClock (token : String) (type : ColumnType) (cx : Context) (zone : Zone) :
    Except ReadError WallClock :=
  (readTimestampInstant token type cx zone).map fun i => (zone.zoned i).wallClock

/-- Reads a token as a date: of a timestamp, the date in a zone. -/
def readDateFor (zone : Zone) (token : String) (type : ColumnType) (cx : Context) :
    Except ReadError Date :=
  match type.scalarType with
  | .date => decoded (Date.decode token)
  | .timestampNtz | .timestampLtz | .timestampTz =>
    (readTimestampClock token type cx zone).map WallClock.date
  | _ => notRead type .date

/-- Reads a token as a date, in the zone of the client. -/
def readDate (token : String) (type : ColumnType) (cx : Context) : Except ReadError Date :=
  readDateFor cx.zone token type cx

/-- Reads a token as the instant at which its date begins in a zone. -/
def readDateIn (zone : Zone) (token : String) (type : ColumnType) (cx : Context) :
    Except ReadError Zoned := do
  let d ← readDateFor zone token type cx
  match zone.startOf? d with
  | some z => return z
  | none => .error (.decoding none ⟨.date, token⟩)

/-- Reads a token as a time of day with its scale. -/
def readTimeValue (token : String) (type : ColumnType) : Except ReadError TimeValue :=
  match type.scalarType with
  | .time => do
    let scale ← columnScale type
    decoded (TimeValue.decode token scale)
  | _ => notRead type .time

/-- Reads a token as a time of day: of a timestamp, what a clock in the zone of the client shows. -/
def readTime (token : String) (type : ColumnType) (cx : Context) : Except ReadError TimeOfDay :=
  match type.scalarType with
  | .time => (readTimeValue token type).map TimeValue.time
  | .timestampNtz | .timestampLtz | .timestampTz =>
    (readTimestampClock token type cx cx.zone).map WallClock.time
  | _ => notRead type .time

/-- Reads a token as an instant, with `zone` for dates and for timestamps without a zone. -/
def readInstantIn (zone : Zone) (token : String) (type : ColumnType) (cx : Context) :
    Except ReadError Instant :=
  match type.scalarType with
  | .timestampNtz | .timestampLtz | .timestampTz => readTimestampInstant token type cx zone
  | .date => (readDateIn zone token type cx).map Zoned.instant
  | _ => notRead type .timestamp

/-- Reads a token as an instant in the zone of the client. -/
def readInstant (token : String) (type : ColumnType) (cx : Context) : Except ReadError Instant :=
  readInstantIn cx.zone token type cx

/-- Reads the token of a timestamp column as text. -/
def readTimestampText (kind : TimestampKind) (token : String) (type : ColumnType) (cx : Context) :
    Except ReadError String := do
  let t ← readTimestamp token type cx
  let p ← configured (cx.timestampPattern kind)
  converted (p.formatTimestamp t)

/-- Reads a token as text. Dates, times and timestamps need the pattern of the session; booleans are
`TRUE` and `FALSE`; hexadecimal bytes and all that is text already stay as they are. -/
def readText (token : String) (type : ColumnType) (cx : Context) : Except ReadError String :=
  match type.scalarType with
  | .boolean => .ok (if token == "1" then "TRUE" else if token == "0" then "FALSE" else token)
  | .timestampNtz => readTimestampText .ntz token type cx
  | .timestampLtz => readTimestampText .ltz token type cx
  | .timestampTz => readTimestampText .tz token type cx
  | .date => do
    let p ← configured cx.datePattern
    return p.formatDate (← decoded (Date.decode token))
  | .time => do
    let p ← configured cx.timePattern
    let scale ← columnScale type
    return p.formatTime (← decoded (TimeValue.decode token scale))
  | .binary =>
    match cx.binaryFormat with
    | .hex => .ok token
    | .base64 => (decoded (Binary.decode token)).map BinaryFormat.base64.encode
  | .string | .smallInt | .integer | .bigInt | .decimal | .double => .ok token

/-- Reads a token in the representation that suits its column. -/
def readObject (token : String) (type : ColumnType) (cx : Context) : Except ReadError Value :=
  match type.scalarType with
  | .string => .ok (.text token)
  | .boolean => (readBoolean token type).map .bool
  | .smallInt | .integer => (readInt token type).map .int
  | .bigInt => (readLong token type).map .long
  | .decimal => (readDecimal token type).map .decimal
  | .double => (readDouble token type).map .double
  | .binary => (readBytes token type).map .bytes
  | .date => (readDate token type cx).map .date
  | .time => (readTime token type cx).map .time
  | .timestampNtz | .timestampLtz | .timestampTz => (readInstant token type cx).map .instant

/-- Reads a token in a representation. -/
def readAs (as : Representation) (token : String) (type : ColumnType) (cx : Context) :
    Except ReadError Value :=
  match as with
  | .string => (readText token type cx).map .text
  | .boolean => (readBoolean token type).map .bool
  | .short => (readShort token type).map .short
  | .int => (readInt token type).map .int
  | .long => (readLong token type).map .long
  | .float => (readFloat token type).map .float
  | .double => (readDouble token type).map .double
  | .decimal => (readDecimal token type).map .decimal
  | .bytes => (readBytes token type).map .bytes
  | .date => (readDate token type cx).map .date
  | .time => (readTime token type cx).map .time
  | .timestamp => (readInstant token type cx).map .instant
  | .object => readObject token type cx
  | _ => notRead type as

end Value
end QueryResult
