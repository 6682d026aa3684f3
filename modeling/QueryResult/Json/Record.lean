import QueryResult.Json.Basic

/-!
# Records

A structure of named fields travels as an object or, without the names, as an array of the fields
in their order. In an object, members of other names are ignored and a field may stand only once; an
array may leave out fields at its end and may not have more.
-/

namespace QueryResult.Json

/-- The fields of a record in the order of their names, none for a field that is left out. -/
def record? (names : List String) : Json → Option (List (Option Json))
  | .object ms =>
    if (ms.map Prod.fst).filter (names.contains ·) |>.Nodup then
      some (names.map fun name => ms.lookup name)
    else none
  | .array es =>
    if es.length ≤ names.length then some ((List.range names.length).map fun i => es[i]?) else none
  | _ => none

/-- The name of a choice without content: a string, or an object with the name as its only member
and `null` as its value. -/
def choice? : Json → Option String
  | .text name => some name
  | .object [(name, .null)] => some name
  | _ => none

end QueryResult.Json
