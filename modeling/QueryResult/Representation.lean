/-!
# Representations

What a caller may ask a column to be read as. Ten of the representations are known by name only: no
column can be read so.
-/

namespace QueryResult

/-- A form in which a column may be asked for. -/
inductive Representation where
  | string | boolean | short | int | long | float | double | decimal | bytes
  | date | time | timestamp
  /-- Whatever suits the type of the column. -/
  | object
  | array | struct | ref | blob | clob | characterStream | binaryStream | url | rowId | xml
deriving DecidableEq

namespace Representation

/-- The representation in messages. -/
def name : Representation → String
  | string => "string"
  | boolean => "boolean"
  | short => "short"
  | int => "int"
  | long => "long"
  | float => "float"
  | double => "double"
  | decimal => "decimal"
  | bytes => "bytes"
  | date => "date"
  | time => "time"
  | timestamp => "timestamp"
  | object => "object"
  | array => "array"
  | struct => "struct"
  | ref => "ref"
  | blob => "blob"
  | clob => "clob"
  | characterStream => "character stream"
  | binaryStream => "binary stream"
  | url => "url"
  | rowId => "row id"
  | xml => "xml"

/-- Whether some column can be read so. -/
def isSupported : Representation → Bool
  | array | struct | ref | blob | clob | characterStream | binaryStream | url | rowId | xml => false
  | _ => true

end Representation
end QueryResult
