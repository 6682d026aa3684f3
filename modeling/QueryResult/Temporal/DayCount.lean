import QueryResult.Calendar.Date
import QueryResult.DecodeError
import QueryResult.Number.Integer

/-!
# Dates as day counts

A date travels as the number of days since 1970-01-01, an integer of 64 bits. A count whose day lies
outside the range of dates is refused; it never wraps around into it.
-/

namespace QueryResult.Calendar.Date
open QueryResult.Number

/-- The date that a day count spells, if it is in range. -/
def parse? (cs : List Char) : Option Date :=
  ((integerOfWidth? 64 cs).map ofDayNumber).filter fun d => decide d.InRange

/-- Reads a token as a date. -/
def decode (token : String) : Except DecodeError Date :=
  match parse? token.toList with
  | some d => .ok d
  | none => .error ⟨.date, token⟩

theorem parse?_eq_some_iff {cs : List Char} {d : Date} :
    parse? cs = some d ↔
      d.InRange ∧ ∃ n, integerOfWidth? 64 cs = some n ∧ ofDayNumber n = d := by
  simp only [parse?, Option.filter_eq_some_iff, Option.map_eq_some_iff, decide_eq_true_eq]
  exact and_comm

end QueryResult.Calendar.Date
