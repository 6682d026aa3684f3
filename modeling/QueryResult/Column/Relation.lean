import QueryResult.Column.ScalarType

/-!
# Relations

A relation is the list of the columns of a result, each with a name and a type. Names may repeat.
`Relation.find?` looks one up: a column of exactly the name comes first, and only if there is none
does a column count whose name differs in the case of ASCII letters, since the engine reports names
in capitals that were not quoted.
-/

namespace QueryResult
open QueryResult.Text

/-- The type of a column. -/
structure ColumnType where
  scalarType : ScalarType
  /-- The digits after the point of a decimal, or of the second of a time. -/
  scale : Nat
  nullable : Bool
deriving DecidableEq

/-- A named column. -/
structure Column where
  name : String
  type : ColumnType
deriving DecidableEq

/-- The columns of a result. -/
structure Relation where
  columns : List Column
deriving DecidableEq

namespace Relation

/-- The relation without columns. -/
def empty : Relation := ⟨[]⟩

/-- The number of columns. -/
def arity (r : Relation) : Nat := r.columns.length

/-- The position of the column that a name refers to, the first being 0. -/
def find? (r : Relation) (name : String) : Option Nat :=
  (r.columns.findIdx? fun c => c.name == name) <|>
    r.columns.findIdx? fun c => sameIgnoringCase c.name name

theorem find?_lt {r : Relation} {name : String} {i : Nat} (h : r.find? name = some i) :
    i < r.arity := by
  rw [find?, Option.orElse_eq_orElse, Option.orElse_eq_or, Option.or_eq_some_iff] at h
  rcases h with h | ⟨-, h⟩
  all_goals
    rw [List.findIdx?_eq_some_iff_findIdx_eq] at h
    exact h.1

end Relation
end QueryResult
