import QueryResult.DecodeError
import QueryResult.Text.Ascii
import QueryResult.Text.Hexadecimal

/-!
# Binary strings

Bytes travel as pairs of hexadecimal digits. A session shows them so, with small letters, or as
base64 with padding: three bytes become four digits of six bits, and one or two bytes at the end
become two or three digits, filled up with `=` to four.
-/

namespace QueryResult
open QueryResult.Text

/-- How bytes are shown. -/
inductive BinaryFormat where
  | hex | base64
deriving DecidableEq

/-- A name that is none of a binary format. -/
structure BinaryFormatError where
  name : String
deriving DecidableEq

/-- The error in words. -/
def BinaryFormatError.message (e : BinaryFormatError) : String :=
  "invalid binary format: " ++ e.name

namespace Binary

/-- The two digits of a byte. -/
def hexPair (b : UInt8) : List Char :=
  [hexDigit (b.toNat / 16), hexDigit (b.toNat % 16)]

/-- Bytes as pairs of hexadecimal digits. -/
def hexText (bytes : List UInt8) : List Char :=
  bytes.flatMap hexPair

/-- The bytes of pairs of hexadecimal digits. -/
def parseHex? : List Char → Option (List UInt8)
  | [] => some []
  | [_] => none
  | a :: b :: rest => do
    let high ← hexValue? a
    let low ← hexValue? b
    let bytes ← parseHex? rest
    return UInt8.ofNat (16 * high + low) :: bytes

/-- Reads a token as bytes. -/
def decode (token : String) : Except DecodeError (List UInt8) :=
  match parseHex? token.toList with
  | some bytes => .ok bytes
  | none => .error ⟨.binary, token⟩

/-- The digit of six bits. -/
def base64Digit (n : Nat) : Char :=
  if n < 26 then Char.ofNat ('A'.toNat + n)
  else if n < 52 then Char.ofNat ('a'.toNat + (n - 26))
  else if n < 62 then Char.ofNat ('0'.toNat + (n - 52))
  else if n = 62 then '+'
  else '/'

/-- The last digits of six bits of a number, so many of them, the most significant first. -/
def base64Digits : Nat → Nat → List Char
  | 0, _ => []
  | count + 1, n => base64Digits count (n / 64) ++ [base64Digit (n % 64)]

/-- Bytes as base64 with padding. -/
def base64Text : List UInt8 → List Char
  | [] => []
  | [a] => base64Digits 2 (a.toNat * 16) ++ ['=', '=']
  | [a, b] => base64Digits 3 ((a.toNat * 256 + b.toNat) * 4) ++ ['=']
  | a :: b :: c :: rest =>
    base64Digits 4 ((a.toNat * 256 + b.toNat) * 256 + c.toNat) ++ base64Text rest

end Binary

namespace BinaryFormat

/-- The name of a format. -/
def name : BinaryFormat → String
  | hex => "HEX"
  | base64 => "BASE64"

/-- The format of a name in any case. -/
def ofName (name : String) : Except BinaryFormatError BinaryFormat :=
  if sameIgnoringCase name "HEX" then .ok .hex
  else if sameIgnoringCase name "BASE64" then .ok .base64
  else .error ⟨name⟩

/-- Bytes as they are shown. -/
def encode (f : BinaryFormat) (bytes : List UInt8) : String :=
  String.ofList <|
    match f with
    | hex => Binary.hexText bytes
    | base64 => Binary.base64Text bytes

theorem ofName_name (f : BinaryFormat) : ofName f.name = .ok f := by
  cases f <;> rfl

end BinaryFormat
end QueryResult
