import QueryResult.Text.Digits

/-!
# JSON values

Session parameters and relation metadata travel as JSON. A `Json` value keeps what the text says and
nothing that a reader would have to guess: members stand in their order with their repetitions, an
integer is exact, a number with a fraction or an exponent keeps its spelling, and a string or a name
that holds half a surrogate pair is told apart from text.
-/

namespace QueryResult
open QueryResult.Text

/-- A value of a JSON text. -/
inductive Json where
  | null
  | bool (b : Bool)
  /-- A number without fraction and exponent; the sign is kept apart because of `-0`. -/
  | integer (negative : Bool) (magnitude : Nat)
  /-- A number with a fraction or an exponent, as it is spelled. -/
  | fractional (spelling : String)
  | text (s : String)
  /-- A string that is no text, since half of a surrogate pair stands alone in it. -/
  | unpaired (codes : List Nat)
  | array (elements : List Json)
  | object (members : List (String × Json))
  /-- An object of which some name is no text; the names are given by their codes. -/
  | unpairedNames (members : List (List Nat × Json))

namespace Json

/-- The text of a string. -/
def text? : Json → Option String
  | text s => some s
  | _ => none

/-- The value of `true` or `false`. -/
def bool? : Json → Option Bool
  | bool b => some b
  | _ => none

/-- The elements of an array. -/
def array? : Json → Option (List Json)
  | array es => some es
  | _ => none

/-- The members of an object. -/
def object? : Json → Option (List (String × Json))
  | object ms => some ms
  | _ => none

/-- The integer that a number spells, `-0` included. -/
def int? : Json → Option Int
  | integer negative n => some (if negative then -(n : Int) else n)
  | _ => none

/-- The integer that a number spells; a minus sign before zero makes it no integer. -/
def strictInt? : Json → Option Int
  | integer true 0 => none
  | v => v.int?

/-- The natural number below a bound that a number spells. -/
def natBelow? (bound : Nat) (v : Json) : Option Nat :=
  (v.strictInt?.filter fun n => decide (0 ≤ n ∧ n < (bound : Int))).map Int.toNat

/-- The first member of a name; what is no object has none. -/
def get? (v : Json) (name : String) : Option Json :=
  v.object?.bind (·.lookup name)

/-- An integer as a value. -/
def ofInt (n : Int) : Json :=
  integer (decide (n < 0)) n.natAbs

theorem int?_ofInt (n : Int) : (ofInt n).int? = some n := by
  simp only [ofInt, int?, decide_eq_true_eq, Option.some.injEq]
  split <;> omega

theorem strictInt?_ofInt (n : Int) : (ofInt n).strictInt? = some n := by
  by_cases h : n < 0
  · have hn : n.natAbs ≠ 0 := by omega
    obtain ⟨k, hk⟩ := Nat.exists_eq_succ_of_ne_zero hn
    have : (ofInt n).strictInt? = (ofInt n).int? := by simp [ofInt, h, hk, strictInt?]
    rw [this, int?_ofInt]
  · have : (ofInt n).strictInt? = (ofInt n).int? := by simp [ofInt, h, strictInt?]
    rw [this, int?_ofInt]

end Json
end QueryResult
