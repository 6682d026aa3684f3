import QueryResult.Json.Basic
import QueryResult.Text.Hexadecimal

/-!
# JSON strings

A string is read as a list of codes: the code point of a character that stands for itself, or the
16-bit unit of a `\u` escape. Units that form a surrogate pair are one character; a lone half makes
the string no text. A control character may not stand for itself.

A string is written with the shortest escapes, and only quotes, backslashes and controls escaped.
-/

namespace QueryResult.Json
open QueryResult.Text

/-- The number of a run of hexadecimal digits, begun at a number. -/
def hexNumber? : Nat → List Char → Option Nat
  | n, [] => some n
  | n, c :: rest => (hexValue? c).bind fun d => hexNumber? (16 * n + d) rest

/-- The character of an escape with one letter. -/
def escaped? (c : Char) : Option Char :=
  if c = '"' ∨ c = '\\' ∨ c = '/' then some c
  else if c = 'b' then some '\x08'
  else if c = 'f' then some '\x0c'
  else if c = 'n' then some '\n'
  else if c = 'r' then some '\r'
  else if c = 't' then some '\t'
  else none

/-- The codes of a string up to its closing quote, and what follows the quote. -/
def codes? : List Char → Option (List Nat × List Char)
  | [] => none
  | '"' :: rest => some ([], rest)
  | '\\' :: 'u' :: a :: b :: c :: d :: rest => do
    let n ← hexNumber? 0 [a, b, c, d]
    let (codes, rest) ← codes? rest
    return (n :: codes, rest)
  | '\\' :: c :: rest => do
    let e ← escaped? c
    let (codes, rest) ← codes? rest
    return (e.toNat :: codes, rest)
  | c :: rest =>
    if c.toNat < 0x20 ∨ c = '\\' then none
    else do
      let (codes, rest) ← codes? rest
      return (c.toNat :: codes, rest)

/-- Whether a code is the first half of a surrogate pair. -/
def isLeading (n : Nat) : Bool := decide (0xD800 ≤ n) && decide (n < 0xDC00)

/-- Whether a code is the second half of a surrogate pair. -/
def isTrailing (n : Nat) : Bool := decide (0xDC00 ≤ n) && decide (n < 0xE000)

/-- The character of a surrogate pair. -/
def ofPair (leading trailing : Nat) : Char :=
  Char.ofNat (0x10000 + (leading - 0xD800) * 0x400 + (trailing - 0xDC00))

/-- The characters of codes, none if half of a pair stands alone. -/
def charactersOf? : List Nat → Option (List Char)
  | [] => some []
  | n :: rest =>
    if isLeading n then
      match rest with
      | m :: rest =>
        if isTrailing m then (charactersOf? rest).map (ofPair n m :: ·) else none
      | [] => none
    else if isTrailing n then none
    else (charactersOf? rest).map (Char.ofNat n :: ·)

/-- The string of codes. -/
def ofCodes (codes : List Nat) : Json :=
  match charactersOf? codes with
  | some cs => .text (String.ofList cs)
  | none => .unpaired codes

/-- The members up to the first whose name is no text, and whether there is no such name. -/
def namedMembers : List (List Nat × Json) → List (String × Json) × Bool
  | [] => ([], true)
  | (codes, v) :: rest =>
    match charactersOf? codes with
    | none => ([], false)
    | some name =>
      let (members, all) := namedMembers rest
      ((String.ofList name, v) :: members, all)

/-- The object of members. -/
def ofMembers (members : List (List Nat × Json)) : Json :=
  match namedMembers members with
  | (named, true) => .object named
  | (_, false) => .unpairedNames members

/-- A code as an escape of four hexadecimal digits. -/
def unitEscape (n : Nat) : List Char :=
  let ds := Nat.toDigits 16 n
  ['\\', 'u'] ++ List.replicate (4 - ds.length) '0' ++ ds

/-- A character as it is written in a string. -/
def escapeChar (c : Char) : List Char :=
  if c = '"' then ['\\', '"']
  else if c = '\\' then ['\\', '\\']
  else if c = '\x08' then ['\\', 'b']
  else if c = '\x0c' then ['\\', 'f']
  else if c = '\n' then ['\\', 'n']
  else if c = '\r' then ['\\', 'r']
  else if c = '\t' then ['\\', 't']
  else if c.toNat < 0x20 then unitEscape c.toNat
  else [c]

/-- A text as a string with its quotes. -/
def literal (cs : List Char) : List Char :=
  '"' :: cs.flatMap escapeChar ++ ['"']

/-- Codes as a string with its quotes; the half of a pair is escaped. -/
def codeLiteral (codes : List Nat) : List Char :=
  '"' :: codes.flatMap (fun n =>
    if isLeading n || isTrailing n then unitEscape n else escapeChar (Char.ofNat n)) ++ ['"']

end QueryResult.Json
