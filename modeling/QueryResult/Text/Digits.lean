/-!
# Runs of decimal digits

Reading and writing natural numbers in base ten, the common part of every number format of the
library. Only the ASCII digits `0` to `9` are digits.
-/

namespace QueryResult.Text

/-- The number that a run of digits spells; the empty run spells zero. -/
def digitsValue (ds : List Char) : Nat :=
  Nat.ofDigitChars 10 ds 0

/-- The shortest run of digits for a number. -/
def natText (n : Nat) : List Char :=
  Nat.toDigits 10 n

/-- The digits of a number, filled up with zeros on the left to a width. -/
def padded (width n : Nat) : List Char :=
  List.replicate (width - (natText n).length) '0' ++ natText n

/-- The digits of an integer behind a minus sign when it is negative. -/
def intText (n : Int) : List Char :=
  if n < 0 then '-' :: natText n.natAbs else natText n.natAbs

/-- The number of digits of a number in base ten; zero has one. -/
def digitCount (n : Nat) : Nat :=
  (natText n).length

/-- A nonempty run of digits as a number. -/
def natural? (ds : List Char) : Option Nat :=
  if ds.isEmpty || !ds.all Char.isDigit then none else some (digitsValue ds)

/-- The sign in front of a number, absent or `+` or `-`, and what follows it. -/
def splitSign : List Char → Bool × List Char
  | '-' :: r => (true, r)
  | '+' :: r => (false, r)
  | r => (false, r)

/-- A number with the sign that stood in front of it. -/
def withSign (negative : Bool) (n : Nat) : Int :=
  if negative then -(n : Int) else n

theorem digitsValue_natText (n : Nat) : digitsValue (natText n) = n :=
  Nat.ofDigitChars_toDigits (by decide) (by decide)

theorem isDigit_of_mem_natText {n : Nat} {c : Char} (h : c ∈ natText n) : c.isDigit = true :=
  Nat.isDigit_of_mem_toDigits (by decide) (by decide) h

end QueryResult.Text
