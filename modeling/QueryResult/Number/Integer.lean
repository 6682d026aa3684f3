import QueryResult.Number.Power
import QueryResult.Text.Digits

/-!
# Integers of a fixed width

An integer token is an optional sign and at least one digit, nothing around it. A column of a
given width takes those whose value fits the width; nothing wraps around.
-/

namespace QueryResult.Number
open QueryResult.Text

/-- The integers of two's complement at a width. -/
def FitsSigned (bits : Nat) (n : Int) : Prop :=
  -(twoTo (bits - 1) : Int) ≤ n ∧ n < (twoTo (bits - 1) : Int)

instance (bits : Nat) (n : Int) : Decidable (FitsSigned bits n) :=
  inferInstanceAs (Decidable (_ ∧ _))

/-- The integer that a token spells. -/
def integer? (cs : List Char) : Option Int :=
  let (negative, ds) := splitSign cs
  (natural? ds).map (withSign negative)

/-- The integer that a token spells, when it fits the width. -/
def integerOfWidth? (bits : Nat) (cs : List Char) : Option Int :=
  (integer? cs).filter fun n => decide (FitsSigned bits n)

theorem integerOfWidth?_eq_some_iff {bits : Nat} {cs : List Char} {n : Int} :
    integerOfWidth? bits cs = some n ↔ integer? cs = some n ∧ FitsSigned bits n := by
  simp [integerOfWidth?, Option.filter_eq_some_iff]

end QueryResult.Number
