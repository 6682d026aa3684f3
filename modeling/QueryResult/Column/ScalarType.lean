import QueryResult.Temporal.Timestamp
import QueryResult.Text.Ascii

/-!
# Types of columns

The engine reports a type by a name of its own, of which several may mean one type, and a scale. A
`FIXED` column without digits after the point is a column of integers.
-/

namespace QueryResult
open QueryResult.Text

/-- The type of the values of a column. -/
inductive ScalarType where
  | string | boolean | smallInt | integer | bigInt | decimal | double | binary
  | date | time | timestampNtz | timestampLtz | timestampTz
deriving DecidableEq

/-- A type name that the engine is not known to report. -/
structure TypeNameError where
  name : String
deriving DecidableEq

/-- The error in words. -/
def TypeNameError.message (e : TypeNameError) : String :=
  "unrecognized column type: " ++ e.name

namespace ScalarType

/-- The type in the words of SQL. -/
def name : ScalarType → String
  | string => "TEXT"
  | boolean => "BOOLEAN"
  | smallInt => "SMALLINT"
  | integer => "INTEGER"
  | bigInt => "BIGINT"
  | decimal => "DECIMAL"
  | double => "DOUBLE"
  | binary => "BINARY"
  | date => "DATE"
  | time => "TIME"
  | timestampNtz => "TIMESTAMP_NTZ"
  | timestampLtz => "TIMESTAMP_LTZ"
  | timestampTz => "TIMESTAMP_TZ"

/-- The types whose engine name does not depend on the scale. -/
def engineNames : List (String × ScalarType) :=
  [("TEXT", string), ("VARCHAR", string), ("STRING", string), ("CHAR", string),
   ("VARIANT", string), ("OBJECT", string), ("ARRAY", string),
   ("BOOLEAN", boolean), ("SMALLINT", smallInt), ("INTEGER", integer), ("INT", integer),
   ("BIGINT", bigInt), ("REAL", double), ("FLOAT", double), ("DOUBLE", double),
   ("BINARY", binary), ("DATE", date), ("TIME", time),
   ("TIMESTAMP_NTZ", timestampNtz), ("DATETIME", timestampNtz),
   ("TIMESTAMP_LTZ", timestampLtz), ("TIMESTAMP_TZ", timestampTz)]

/-- The engine names of exact numbers, which are integers at the scale zero. -/
def fixedNames : List String := ["FIXED", "NUMBER", "DECIMAL"]

/-- The type that the engine reports by a name, in any case, and a scale. -/
def ofEngineName (name : String) (scale : Nat) : Except TypeNameError ScalarType :=
  if fixedNames.any (sameIgnoringCase name) then .ok (if scale = 0 then bigInt else decimal)
  else
    match engineNames.find? fun row => sameIgnoringCase name row.1 with
    | some row => .ok row.2
    | none => .error ⟨name⟩

/-- The kind of timestamp of a type. -/
def timestampKind? : ScalarType → Option TimestampKind
  | timestampNtz => some .ntz
  | timestampLtz => some .ltz
  | timestampTz => some .tz
  | _ => none

/-- Whether values are dates, times or timestamps. -/
def isTemporal : ScalarType → Bool
  | date | time | timestampNtz | timestampLtz | timestampTz => true
  | _ => false

/-- Whether values are numbers. -/
def isNumeric : ScalarType → Bool
  | smallInt | integer | bigInt | decimal | double => true
  | _ => false

/-- Whether tokens are plain text that may be read as a number. -/
def isTextualNumber : ScalarType → Bool
  | string | boolean => true
  | t => t.isNumeric

theorem isTemporal_of_timestampKind? {t : ScalarType} {k : TimestampKind}
    (h : t.timestampKind? = some k) : t.isTemporal = true := by
  cases t <;> simp_all [timestampKind?, isTemporal]

end ScalarType
end QueryResult
