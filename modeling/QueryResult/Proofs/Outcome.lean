/-!
# Computations that may fail

A sequence of steps succeeds if every step does, and fails as the first step that fails. The lemmas
here say so of two steps; they are about nothing of the library in particular.
-/

namespace QueryResult

variable {ε α β : Type} {x : Except ε α} {f : α → Except ε β} {e : ε}

theorem eq_ok_of_bind {b : β} (h : x >>= f = .ok b) : ∃ a, x = .ok a ∧ f a = .ok b := by
  cases x with
  | error e => nomatch h
  | ok a => exact ⟨a, rfl, h⟩

/-- What a computation fails with, if it does. -/
def error? : Except ε α → Option ε
  | .ok _ => none
  | .error e => some e

theorem error?_eq_some_iff : error? x = some e ↔ x = .error e := by
  cases x <;> simp [error?]

theorem error?_eq_none_iff : error? x = none ↔ ∃ a, x = .ok a := by
  cases x <;> simp [error?]

/-- If what a second step fails with does not depend on the first, two steps fail with the first
error there is. -/
theorem error?_bind {rest : Option ε} (next : ∀ a, error? (f a) = rest) :
    error? (x >>= f) = (error? x).or rest := by
  cases x with
  | error e => rfl
  | ok a => exact next a

end QueryResult
