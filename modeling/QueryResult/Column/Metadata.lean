import QueryResult.Binary
import QueryResult.Column.Relation
import QueryResult.Json.Record
import QueryResult.Json.Writer
import QueryResult.Number.FixedPoint

/-!
# Metadata as JSON

How types, columns, relations and fixed point values are written as JSON and read back. A type is
written by its name; a column type and a relation are records, of which a scale that is left out is
zero and a nullability that is left out is true.

A fixed point value is read with any scale of a byte.
-/

namespace QueryResult
open QueryResult.Json QueryResult.Number

/-- The numbers below this fit into a byte. -/
def byteBound : Nat := 256

namespace ScalarType

/-- The name of a type in metadata. -/
def key : ScalarType → String
  | string => "String"
  | boolean => "Boolean"
  | smallInt => "SmallInt"
  | integer => "Integer"
  | bigInt => "BigInt"
  | decimal => "Decimal"
  | double => "Double"
  | binary => "Binary"
  | date => "Date"
  | time => "Time"
  | timestampNtz => "TimestampNtz"
  | timestampLtz => "TimestampLtz"
  | timestampTz => "TimestampTz"

/-- Every type. -/
def all : List ScalarType :=
  [string, boolean, smallInt, integer, bigInt, decimal, double, binary, date, time,
   timestampNtz, timestampLtz, timestampTz]

/-- Reads a type. -/
def ofJson? (v : Json) : Option ScalarType :=
  (choice? v).bind fun name => all.find? fun t => t.key == name

/-- Writes a type. -/
def toJson (t : ScalarType) : Json := .text t.key

theorem ofJson?_toJson (t : ScalarType) : ofJson? t.toJson = some t := by
  cases t <;> decide

end ScalarType

namespace ColumnType

/-- Reads the type of a column. -/
def ofJson? (v : Json) : Option ColumnType :=
  match record? ["scalar_type", "scale", "nullable"] v with
  | some [some t, scale, nullable] => do
    let scalarType ← ScalarType.ofJson? t
    let scale ← match scale with
      | none => some 0
      | some v => v.natBelow? byteBound
    let nullable ← match nullable with
      | none => some true
      | some v => v.bool?
    return { scalarType, scale, nullable }
  | _ => none

/-- Writes the type of a column. -/
def toJson (t : ColumnType) : Json :=
  .object [("scalar_type", t.scalarType.toJson), ("scale", .ofInt t.scale),
    ("nullable", .bool t.nullable)]

end ColumnType

namespace Column

/-- Reads a column: its name and its type. -/
def ofJson? : Json → Option Column
  | .array [.text name, t] => (ColumnType.ofJson? t).map fun type => { name, type }
  | _ => none

/-- Writes a column. -/
def toJson (c : Column) : Json := .array [.text c.name, c.type.toJson]

end Column

namespace Relation

/-- Reads a relation. -/
def ofJson? (v : Json) : Option Relation :=
  match record? ["columns"] v with
  | some [some columns] => do
    let cs ← (← columns.array?).mapM Column.ofJson?
    return { columns := cs }
  | _ => none

/-- Writes a relation. -/
def toJson (r : Relation) : Json :=
  .object [("columns", .array (r.columns.map Column.toJson))]

end Relation

namespace BinaryFormat

/-- Reads a binary format by its exact name. -/
def ofJson? (v : Json) : Option BinaryFormat :=
  (choice? v).bind fun name => [hex, base64].find? fun f => f.name == name

/-- Writes a binary format. -/
def toJson (f : BinaryFormat) : Json := .text f.name

end BinaryFormat

namespace Number.FixedPoint

/-- Reads a fixed point value; its scale is taken as it stands. -/
def ofJson? (v : Json) : Option FixedPoint :=
  match record? ["fractions", "scale"] v with
  | some [some fractions, some scale] => do
    let n ← fractions.int?
    let digits ← scale.natBelow? byteBound
    ofInt? n ⟨digits⟩
  | _ => none

/-- Writes a fixed point value. -/
def toJson (v : FixedPoint) : Json :=
  .object [("fractions", .ofInt v.fractions), ("scale", .ofInt v.scale.digits)]

end Number.FixedPoint
end QueryResult
