/-!
# Tokens that cannot be decoded

Every value of a result arrives as a text token. A decoder that refuses a token says what it was
asked to read it as and hands the token back unchanged.
-/

namespace QueryResult

/-- What a token was read as. -/
inductive TokenKind where
  | value | timestamp | time | date | binary | numeric | short | int | long | float | double
deriving DecidableEq

/-- The name of a kind in messages. -/
def TokenKind.name : TokenKind → String
  | .value => "value"
  | .timestamp => "timestamp"
  | .time => "time"
  | .date => "date"
  | .binary => "binary"
  | .numeric => "numeric"
  | .short => "short"
  | .int => "int"
  | .long => "long"
  | .float => "float"
  | .double => "double"

/-- A token that is no value of the kind it was read as. -/
structure DecodeError where
  kind : TokenKind
  token : String
deriving DecidableEq

/-- The error in words. -/
def DecodeError.message (e : DecodeError) : String :=
  "invalid " ++ e.kind.name ++ " value: " ++ e.token

end QueryResult
