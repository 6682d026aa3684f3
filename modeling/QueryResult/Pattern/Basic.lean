import QueryResult.Pattern.Element
import QueryResult.Text.Quoted

/-!
# Output patterns

The server says how dates and times are shown by patterns such as `YYYY-MM-DD HH24:MI:SS.FF3
TZHTZM`. A pattern is cut into pieces from left to right: a run between double quotes, which is
copied; the longest element that begins here; or else a single character, which is copied too. An
odd number of quotes leaves the last one open, and that is the only way to write a bad pattern.

`Pattern.compile` cuts once and joins neighbouring copied text. The result is a list of items in
which no two literals stand side by side and none is empty.
-/

namespace QueryResult
open QueryResult.Pattern

namespace Pattern

/-- A piece of a pattern. -/
inductive Piece where
  /-- What stands between two double quotes. -/
  | quoted (content : List Char)
  | element (e : Element)
  /-- A character that begins neither. -/
  | plain (c : Char)
deriving DecidableEq

/-- The pieces of a text, none if a quote is left open. -/
def pieces? : List Char → Option (List Piece)
  | [] => some []
  | c :: rest =>
    if c = '"' then
      let content := rest.takeWhile (· ≠ '"')
      if content.length = rest.length then none
      else (pieces? (rest.drop (content.length + 1))).map (.quoted content :: ·)
    else
      match Element.leading? (c :: rest) with
      | some (e, width) => (pieces? (rest.drop (width - 1))).map (.element e :: ·)
      | none => (pieces? rest).map (.plain c :: ·)
termination_by cs => cs.length

/-- What a pattern has rendered: text to copy, or an element. -/
inductive Item where
  | literal (text : List Char)
  | element (e : Element)
deriving DecidableEq

/-- Items with a text in front of them. -/
def copyBefore (text : List Char) : List Item → List Item
  | .literal t :: rest => .literal (text ++ t) :: rest
  | rest => if text.isEmpty then rest else .literal text :: rest

/-- A piece in front of items. -/
def Piece.before : Piece → List Item → List Item
  | .quoted content, items => copyBefore content items
  | .element e, items => .element e :: items
  | .plain c, items => copyBefore [c] items

/-- The items of some pieces, neighbouring text joined. -/
def itemsOf (pieces : List Piece) : List Item :=
  pieces.foldr Piece.before []

end Pattern

/-- A pattern that leaves a quote open. -/
structure PatternError where
  pattern : String
deriving DecidableEq

namespace PatternError

/-- What is wrong with the pattern. -/
def reason (_ : PatternError) : String := "unterminated quote"

/-- The error in words. -/
def message (e : PatternError) : String :=
  "invalid format pattern " ++ Text.quoted e.pattern ++ ": " ++ e.reason

end PatternError

/-- A pattern with the items that it is made of. -/
structure Pattern where
  text : String
  items : List Item
deriving DecidableEq

namespace Pattern

/-- The pattern that a text spells. -/
def compile (text : String) : Except PatternError Pattern :=
  match pieces? text.toList with
  | some pieces => .ok ⟨text, itemsOf pieces⟩
  | none => .error ⟨text⟩

end Pattern
end QueryResult
