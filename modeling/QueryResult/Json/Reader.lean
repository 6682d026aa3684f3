import QueryResult.Json.Literal

/-!
# Reading JSON

The grammar of RFC 8259: blanks are spaces, tabs, line feeds and carriage returns; a number has no
leading zero; nothing but blanks may follow the value. There is no limit to the depth.

A reader that acts on members one by one sees the good ones before it sees where a text breaks off.
`outline` gives it that: the members or elements of the outermost level as far as they can be read,
up to a name that is no text, and whether the text was complete. `parse?` takes complete texts only.
-/

namespace QueryResult.Json
open QueryResult.Text

/-- Whether a character may stand between tokens. -/
def isSpace (c : Char) : Bool :=
  c == ' ' || c == '\t' || c == '\n' || c == '\r'

/-- A text without the blanks in front of it. -/
def skipSpace (cs : List Char) : List Char :=
  cs.dropWhile isSpace

/-- Splits the fraction off a text: the spelling of the fraction and what follows it. -/
def fraction? : List Char → Option (List Char × List Char)
  | '.' :: rest =>
    let ds := rest.takeWhile Char.isDigit
    if ds.isEmpty then none else some ('.' :: ds, rest.dropWhile Char.isDigit)
  | rest => some ([], rest)

/-- The sign of an exponent, if there is one, and what follows it. -/
def exponentSign : List Char → List Char × List Char
  | '+' :: rest => (['+'], rest)
  | '-' :: rest => (['-'], rest)
  | rest => ([], rest)

/-- Splits the exponent off a text: the spelling of the exponent and what follows it. -/
def exponent? : List Char → Option (List Char × List Char)
  | [] => some ([], [])
  | c :: rest =>
    if c = 'e' ∨ c = 'E' then
      let (sign, rest) := exponentSign rest
      let ds := rest.takeWhile Char.isDigit
      if ds.isEmpty then none else some (c :: sign ++ ds, rest.dropWhile Char.isDigit)
    else some ([], c :: rest)

/-- The number without a sign that a text begins with, and what follows it. -/
def unsigned? (negative : Bool) (cs : List Char) : Option (Json × List Char) := do
  let whole := cs.takeWhile Char.isDigit
  if whole.isEmpty || (whole.head? == some '0' && whole.length != 1) then none
  else
    let (fraction, rest) ← fraction? (cs.dropWhile Char.isDigit)
    let (exponent, rest) ← exponent? rest
    let sign := if negative then ['-'] else []
    if fraction.isEmpty && exponent.isEmpty then
      return (.integer negative (digitsValue whole), rest)
    else return (.fractional (String.ofList (sign ++ whole ++ fraction ++ exponent)), rest)

/-- The number that a text begins with, and what follows it. -/
def number? : List Char → Option (Json × List Char)
  | '-' :: rest => unsigned? true rest
  | rest => unsigned? false rest

mutual

/-- The value that a text begins with, and what follows it. The first argument bounds the depth of
the recursion. -/
def value? : Nat → List Char → Option (Json × List Char)
  | 0, _ => none
  | depth + 1, cs =>
    match cs with
    | '"' :: rest => (codes? rest).map fun (codes, rest) => (ofCodes codes, rest)
    | '[' :: rest =>
      match arrayTail depth rest with
      | (es, some rest) => some (.array es, rest)
      | (_, none) => none
    | '{' :: rest =>
      match objectTail depth rest with
      | (ms, some rest) => some (ofMembers ms, rest)
      | (_, none) => none
    | 'n' :: 'u' :: 'l' :: 'l' :: rest => some (.null, rest)
    | 't' :: 'r' :: 'u' :: 'e' :: rest => some (.bool true, rest)
    | 'f' :: 'a' :: 'l' :: 's' :: 'e' :: rest => some (.bool false, rest)
    | rest => number? rest

/-- The elements after an opening bracket as far as they can be read, and what follows the closing
bracket. -/
def arrayTail : Nat → List Char → List Json × Option (List Char)
  | 0, _ => ([], none)
  | depth + 1, cs =>
    match skipSpace cs with
    | ']' :: rest => ([], some rest)
    | rest => elements depth rest

/-- One element or more, and what follows the closing bracket. -/
def elements : Nat → List Char → List Json × Option (List Char)
  | 0, _ => ([], none)
  | depth + 1, cs =>
    match value? depth (skipSpace cs) with
    | none => ([], none)
    | some (v, rest) =>
      match skipSpace rest with
      | ']' :: rest => ([v], some rest)
      | ',' :: rest =>
        let (vs, rest) := elements depth rest
        (v :: vs, rest)
      | _ => ([v], none)

/-- The members after an opening brace as far as they can be read, and what follows the closing
brace. -/
def objectTail : Nat → List Char → List (List Nat × Json) × Option (List Char)
  | 0, _ => ([], none)
  | depth + 1, cs =>
    match skipSpace cs with
    | '\x7d' :: rest => ([], some rest)
    | rest => members depth rest

/-- One member or more, and what follows the closing brace. -/
def members : Nat → List Char → List (List Nat × Json) × Option (List Char)
  | 0, _ => ([], none)
  | depth + 1, cs =>
    match member? depth (skipSpace cs) with
    | none => ([], none)
    | some (m, rest) =>
      match skipSpace rest with
      | '\x7d' :: rest => ([m], some rest)
      | ',' :: rest =>
        let (ms, rest) := members depth rest
        (m :: ms, rest)
      | _ => ([m], none)

/-- The member that a text begins with, and what follows it. -/
def member? : Nat → List Char → Option ((List Nat × Json) × List Char)
  | 0, _ => none
  | depth + 1, cs =>
    match cs with
    | '"' :: rest =>
      match codes? rest with
      | none => none
      | some (codes, rest) =>
        match skipSpace rest with
        | ':' :: rest => (value? depth (skipSpace rest)).map fun (v, rest) => ((codes, v), rest)
        | _ => none
    | _ => none

end

/-- A bound of the depth of the recursion that no text of a length reaches. -/
def depthOf (cs : List Char) : Nat :=
  4 * cs.length + 4

/-- The outermost level of a text. -/
inductive Outline where
  /-- An object, its members as far as they can be read, and whether those are all of them in a
  complete text. -/
  | object (members : List (String × Json)) (complete : Bool)
  /-- An array, its elements as far as they can be read, and whether the text is complete. -/
  | array (elements : List Json) (complete : Bool)
  /-- A complete text of any other value. -/
  | scalar (v : Json)
  | malformed

/-- Whether nothing but blanks is left of a text. -/
def isDone (rest : Option (List Char)) : Bool :=
  rest.any fun cs => (skipSpace cs).isEmpty

/-- The outermost level of a text. -/
def outline (cs : List Char) : Outline :=
  match skipSpace cs with
  | '{' :: rest =>
    let (ms, rest) := objectTail (depthOf cs) rest
    let (named, all) := namedMembers ms
    .object named (all && isDone rest)
  | '[' :: rest =>
    let (es, rest) := arrayTail (depthOf cs) rest
    .array es (isDone rest)
  | rest =>
    match value? (depthOf cs) rest with
    | some (v, rest) => if isDone (some rest) then .scalar v else .malformed
    | none => .malformed

/-- The value of a complete text. -/
def parse? (s : String) : Option Json :=
  match outline s.toList with
  | .object ms true => some (.object ms)
  | .array es true => some (.array es)
  | .scalar v => some v
  | _ => none

end QueryResult.Json
