import QueryResult.Text.Digits

/-!
# Powers of two and of ten

The scales of decimal numbers are powers of ten, the widths of binary ones powers of two. Both are
natural numbers here; a negative exponent is a division where it occurs.
-/

namespace QueryResult.Number
open QueryResult.Text

/-- Two to a power. -/
def twoTo (k : Nat) : Nat := Nat.pow 2 k

/-- Ten to a power. -/
def tenTo (k : Nat) : Nat := Nat.pow 10 k

@[simp] theorem twoTo_zero : twoTo 0 = 1 := rfl

theorem twoTo_succ (k : Nat) : twoTo (k + 1) = twoTo k * 2 := rfl

theorem twoTo_pos (k : Nat) : 0 < twoTo k :=
  Nat.pow_pos (by decide)

@[simp] theorem tenTo_zero : tenTo 0 = 1 := rfl

theorem tenTo_succ (k : Nat) : tenTo (k + 1) = tenTo k * 10 := rfl

theorem tenTo_pos (k : Nat) : 0 < tenTo k :=
  Nat.pow_pos (by decide)

theorem tenTo_add (j k : Nat) : tenTo (j + k) = tenTo j * tenTo k :=
  Nat.pow_add 10 j k

/-- A number has at most `k` digits exactly if it lies below the power of ten of `k`. -/
theorem natText_length_le_iff {n k : Nat} (hk : 0 < k) :
    (natText n).length ≤ k ↔ n < tenTo k :=
  Nat.length_toDigits_le_iff (by decide) hk

end QueryResult.Number
