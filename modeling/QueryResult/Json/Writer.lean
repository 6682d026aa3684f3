import QueryResult.Json.Literal

/-!
# Writing JSON

A value is written without any blank, its members and elements in their order.
-/

namespace QueryResult.Json
open QueryResult.Text

mutual

/-- A value as text. -/
def render : Json → List Char
  | .null => ['n', 'u', 'l', 'l']
  | .bool true => ['t', 'r', 'u', 'e']
  | .bool false => ['f', 'a', 'l', 's', 'e']
  | .integer negative n => (if negative then ['-'] else []) ++ natText n
  | .fractional spelling => spelling.toList
  | .text s => literal s.toList
  | .unpaired codes => codeLiteral codes
  | .array es => '[' :: renderElements es ++ [']']
  | .object ms => '{' :: renderMembers ms ++ ['}']
  | .unpairedNames ms => '{' :: renderCoded ms ++ ['}']

/-- Elements with commas between them. -/
def renderElements : List Json → List Char
  | [] => []
  | [v] => v.render
  | v :: rest => v.render ++ ',' :: renderElements rest

/-- Members with commas between them. -/
def renderMembers : List (String × Json) → List Char
  | [] => []
  | [(name, v)] => literal name.toList ++ ':' :: v.render
  | (name, v) :: rest => literal name.toList ++ ':' :: v.render ++ ',' :: renderMembers rest

/-- Members whose names are given by codes, with commas between them. -/
def renderCoded : List (List Nat × Json) → List Char
  | [] => []
  | [(codes, v)] => codeLiteral codes ++ ':' :: v.render
  | (codes, v) :: rest => codeLiteral codes ++ ':' :: v.render ++ ',' :: renderCoded rest

end

/-- A value as a text. -/
def toText (v : Json) : String :=
  String.ofList v.render

end QueryResult.Json
