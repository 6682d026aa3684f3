import QueryResult.Calendar.Instant
import QueryResult.Number.Decimal
import QueryResult.Number.Floating
import QueryResult.Temporal.TimeValue
import QueryResult.Temporal.Timestamp

/-!
# Values

A `Value` is what a token becomes when it is read in a representation. A `Reading` is what an
accessor answers: nothing for a null, a value, or one of the forms that keep more of the token than
a value does, namely the offset of a zone or the scale of the column.
-/

namespace QueryResult
open QueryResult.Calendar QueryResult.Number

/-- A decoded token. -/
inductive Value where
  | text (s : String)
  | bool (b : Bool)
  /-- An integer of 16 bits. -/
  | short (n : Int)
  /-- An integer of 32 bits. -/
  | int (n : Int)
  /-- An integer of 64 bits. -/
  | long (n : Int)
  | float (x : Binary32)
  | double (x : Binary64)
  | decimal (d : Decimal)
  | bytes (bs : List UInt8)
  | date (d : Date)
  | time (t : TimeOfDay)
  | instant (i : Instant)
deriving DecidableEq

/-- The answer of an accessor. -/
inductive Reading where
  /-- The column holds no value. -/
  | absent
  | value (v : Value)
  | zoned (z : Zoned)
  | timeValue (t : TimeValue)
  | timestamp (t : Timestamp)
deriving DecidableEq

end QueryResult
