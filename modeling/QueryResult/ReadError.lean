import QueryResult.Column.ScalarType
import QueryResult.Cursor.Refused
import QueryResult.DecodeError
import QueryResult.Representation
import QueryResult.Session.Context

/-!
# Errors of reading a result

Every failure is of one of four kinds: a token does not decode, the session lacks a setting, the
cursor is in no state to answer, or the request is one that nothing supports. An error keeps its
cause; `message` and `hint` put it into words.

A decoding error starts without a column, and the cursor adds the one that it read.
-/

namespace QueryResult
open QueryResult.Session QueryResult.Cursor

/-- A kind of failure. -/
inductive ErrorKind where
  | decoding | configuration | state | unsupported
deriving DecidableEq

/-- The kind in words. -/
def ErrorKind.name : ErrorKind → String
  | decoding => "decoding error"
  | configuration => "configuration error"
  | state => "state error"
  | unsupported => "unsupported operation"

/-- Why a cursor cannot answer. -/
inductive StateFault where
  | closed
  | noRow
  /-- A row was delivered whose width is not that of the relation. -/
  | rowWidth (values columns : Nat)
deriving DecidableEq

/-- The fault in words. -/
def StateFault.message : StateFault → String
  | closed => "result set closed"
  | noRow => "no row found"
  | rowWidth values columns =>
    "row has " ++ toString values ++ " values but the result has " ++ toString columns ++ " columns"

/-- What is not supported. -/
inductive Limitation where
  /-- A column of a type is not read in a representation. -/
  | readingType (type : ScalarType) (as : Representation)
  /-- No column is read in a representation. -/
  | reading (as : Representation)
  /-- The zone of a timestamp in the legacy encoding is not known. -/
  | legacyZone
  | direction (d : FetchDirection)
  | request (r : RefusedRequest)
deriving DecidableEq

/-- What is not supported, in words. -/
def Limitation.name : Limitation → String
  | readingType type as => "reading a " ++ type.name ++ " column as " ++ as.name
  | reading as => "reading a column as " ++ as.name
  | legacyZone => "resolving the time zone of a legacy-encoded TIMESTAMP_TZ value"
  | direction d => "fetch direction " ++ d.name
  | request r => r.name

/-- A failure to read a result. -/
inductive ReadError where
  /-- A token does not decode; the column counts from 1. -/
  | decoding (column : Option Nat) (source : DecodeError)
  | configuration (fault : ConfigurationFault)
  | state (fault : StateFault)
  | columnIndexOutOfRange (index arity : Nat)
  | columnNotFound (name : String)
  | unsupported (what : Limitation)
deriving DecidableEq

namespace ReadError

/-- The kind of the failure. -/
def kind : ReadError → ErrorKind
  | decoding .. => .decoding
  | configuration _ => .configuration
  | state _ | columnIndexOutOfRange .. | columnNotFound _ => .state
  | unsupported _ => .unsupported

/-- The error in words, with those of the reader of JSON. -/
def message (e : ReadError) (w : Wording := {}) : String :=
  match e with
  | decoding none source => source.message
  | decoding (some column) source => source.message ++ " (column " ++ toString column ++ ")"
  | configuration fault => fault.message w
  | state fault => fault.message
  | columnIndexOutOfRange index arity =>
    "invalid column index " ++ toString index ++ ": the result has " ++ toString arity ++ " columns"
  | columnNotFound name => "column not found: " ++ name
  | unsupported what => what.name ++ " is not supported"

/-- What the caller can do about it. -/
def hint : ReadError → Option String
  | configuration _ =>
    some ("Set the corresponding *_OUTPUT_FORMAT session parameter, " ++
      "or read the column with a typed accessor.")
  | columnIndexOutOfRange .. => some "Column indexes start at 1."
  | _ => none

/-- The error with the column that was read, if it is a decoding error without one. -/
def inColumn (index : Nat) : ReadError → ReadError
  | decoding none source => decoding (some index) source
  | e => e

/-- The error of a timestamp that has no instant. One that the calendar does not reach counts as a
token that does not decode, and shows the value in place of the token. -/
def ofTimestamp : TimestampError → ReadError
  | .unresolvedZone => unsupported .legacyZone
  | .outOfRange value => decoding none ⟨.timestamp, value.encode⟩

theorem kind_inColumn (index : Nat) (e : ReadError) : (e.inColumn index).kind = e.kind := by
  unfold inColumn
  split <;> rfl

end ReadError
end QueryResult
