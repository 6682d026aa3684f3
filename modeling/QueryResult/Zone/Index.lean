import QueryResult.Calendar.Instant

/-!
# Zone indices

A timestamp that carries its own zone names it by a small number: 1440 is UTC, and each step of one
is a minute of offset to the east. The indices 1 to 2879 cover every offset of whole minutes that is
less than a day.
-/

namespace QueryResult.Calendar.Offset

/-- The index of UTC. -/
def utcIndex : Int := 1440

/-- The least index, a minute less than a day behind UTC. -/
def minIndex : Int := 1

/-- The greatest index, a minute less than a day ahead of UTC. -/
def maxIndex : Int := 2879

/-- The offset that an index names. -/
def ofIndex? (index : Int) : Option Offset :=
  if minIndex ≤ index ∧ index ≤ maxIndex then ofSeconds? (60 * (index - utcIndex)) else none

/-- The index of an offset of whole minutes. -/
def index? (o : Offset) : Option Int :=
  if o.seconds % 60 = 0 then some (utcIndex + o.seconds / 60) else none

theorem ofIndex?_eq_some_iff {index : Int} {o : Offset} :
    ofIndex? index = some o ↔
      minIndex ≤ index ∧ index ≤ maxIndex ∧ o.seconds = 60 * (index - utcIndex) := by
  unfold ofIndex?
  split <;> rename_i h
  · rw [ofSeconds?_eq_some_iff]
    exact ⟨fun e => ⟨h.1, h.2, e⟩, fun e => e.2.2⟩
  · simp only [reduceCtorEq, false_iff]
    rintro ⟨h1, h2, -⟩; exact h ⟨h1, h2⟩

theorem index?_eq_some_iff {o : Offset} {index : Int} :
    o.index? = some index ↔ o.seconds = 60 * (index - utcIndex) := by
  unfold index? utcIndex
  split
  · simp only [Option.some.injEq]; omega
  · simp only [reduceCtorEq, false_iff]; omega

/-- The indices are exactly the offsets of whole minutes. -/
theorem index?_eq_some_iff_ofIndex? {o : Offset} {index : Int} :
    o.index? = some index ↔ ofIndex? index = some o := by
  rw [index?_eq_some_iff, ofIndex?_eq_some_iff]
  have hl := o.lower
  have hu := o.upper
  unfold minIndex maxIndex utcIndex
  omega

end QueryResult.Calendar.Offset
