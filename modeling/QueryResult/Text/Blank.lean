/-!
# Blank characters

A parameter or a stage field that holds nothing but white space counts as absent. White space is
the Unicode property `White_Space`: a zero-width space or a byte order mark is not blank.
-/

namespace QueryResult.Text

/-- The code points of the property `White_Space`, as closed ranges. -/
def blankRanges : List (Nat × Nat) :=
  [(0x09, 0x0D), (0x20, 0x20), (0x85, 0x85), (0xA0, 0xA0), (0x1680, 0x1680), (0x2000, 0x200A),
   (0x2028, 0x2029), (0x202F, 0x202F), (0x205F, 0x205F), (0x3000, 0x3000)]

/-- Whether a character is white space. -/
def isBlank (c : Char) : Bool :=
  blankRanges.any fun r => decide (r.1 ≤ c.toNat) && decide (c.toNat ≤ r.2)

/-- Text without the white space at its two ends. -/
def trim (cs : List Char) : List Char :=
  ((cs.dropWhile isBlank).reverse.dropWhile isBlank).reverse

/-- Every character that core counts as white space is blank. -/
theorem isBlank_of_isWhitespace {c : Char} (h : c.isWhitespace = true) : isBlank c = true := by
  simp only [Char.isWhitespace, Bool.or_eq_true, decide_eq_true_eq] at h
  rcases h with ((rfl | rfl) | rfl) | rfl <;> decide

/-- Trimming leaves nothing exactly of text that is blank throughout. -/
theorem trim_eq_nil_iff {cs : List Char} : trim cs = [] ↔ ∀ c ∈ cs, isBlank c = true := by
  have key : ∀ l : List Char, l.dropWhile isBlank = [] ↔ ∀ c ∈ l, isBlank c = true := by
    intro l
    induction l with
    | nil => simp
    | cons c r ih => by_cases h : isBlank c = true <;> simp [h, ih]
  rw [trim, List.reverse_eq_nil_iff, key, ← key cs]
  constructor
  · intro h
    cases hd : cs.dropWhile isBlank with
    | nil => rfl
    | cons c r =>
      have hne : cs.dropWhile isBlank ≠ [] := by simp [hd]
      have hc : isBlank c = false := by
        have := List.head_dropWhile_not isBlank hne
        simpa [hd] using this
      have := h c (by simp [hd])
      simp [hc] at this
  · intro h
    simp [h]

end QueryResult.Text
