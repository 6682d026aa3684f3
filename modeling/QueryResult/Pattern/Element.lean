import QueryResult.Text.Ascii

/-!
# Elements of output patterns

The words of a pattern that stand for parts of a date or a time. They are found without regard to
the case of ASCII letters. Where one word is the beginning of another, as `HH` is of `HH24`, the
longer one stands first in the table, so that the first word found is the longest.
-/

namespace QueryResult.Pattern
open QueryResult.Text

/-- A part of a date or a time. -/
inductive Element where
  /-- The year with at least four digits. -/
  | year4
  /-- The last two digits of the year. -/
  | year2
  | monthName | monthAbbreviation | month
  | minute
  | day | weekdayAbbreviation
  | hour24 | hour12
  /-- `AM` or `PM`. -/
  | halfDay
  | second
  /-- The fraction of the second, at a number of digits or else at the scale of the value. -/
  | fraction (digits : Option Nat)
  /-- The hours of the offset with its sign. -/
  | offsetHours
  | offsetMinutes
deriving DecidableEq

namespace Element

/-- The words of the pattern language in capital letters. -/
def table : List (String × Element) :=
  [("FF0", .fraction (some 0)), ("FF1", .fraction (some 1)), ("FF2", .fraction (some 2)),
   ("FF3", .fraction (some 3)), ("FF4", .fraction (some 4)), ("FF5", .fraction (some 5)),
   ("FF6", .fraction (some 6)), ("FF7", .fraction (some 7)), ("FF8", .fraction (some 8)),
   ("FF9", .fraction (some 9)), ("FF", .fraction none),
   ("YYYY", .year4), ("YY", .year2), ("MMMM", .monthName), ("MON", .monthAbbreviation),
   ("MM", .month), ("MI", .minute), ("DD", .day), ("DY", .weekdayAbbreviation),
   ("HH24", .hour24), ("HH12", .hour12), ("HH", .hour12), ("AM", .halfDay), ("PM", .halfDay),
   ("SS", .second), ("TZH", .offsetHours), ("TZM", .offsetMinutes)]

/-- Whether a text begins with a word in capital letters, in any case. -/
def beginsWith (word : String) (cs : List Char) : Bool :=
  word.toList == upperAscii (cs.take word.length)

/-- The element whose word a text begins with, and the length of the word. -/
def leading? (cs : List Char) : Option (Element × Nat) :=
  (table.find? fun row => beginsWith row.1 cs).map fun row => (row.2, row.1.length)

end Element
end QueryResult.Pattern
