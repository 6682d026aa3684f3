/-!
# Letter case of ASCII text

Names that the server sends are compared without regard to the case of `A` to `Z`. No other
character has a case here, so `ſ` never equals `s` and `K` (the kelvin sign) never equals `k`.
-/

namespace QueryResult.Text

/-- Text with the letters `A` to `Z` made small. -/
def lowerAscii (cs : List Char) : List Char :=
  cs.map Char.toLower

/-- Text with the letters `a` to `z` made capital. -/
def upperAscii (cs : List Char) : List Char :=
  cs.map Char.toUpper

/-- Two texts that differ at most in the case of ASCII letters. -/
def sameIgnoringCase (a b : String) : Bool :=
  lowerAscii a.toList == lowerAscii b.toList

theorem sameIgnoringCase_iff {a b : String} :
    sameIgnoringCase a b = true ↔ lowerAscii a.toList = lowerAscii b.toList := by
  simp [sameIgnoringCase]

@[simp] theorem sameIgnoringCase_self (a : String) : sameIgnoringCase a a = true := by
  simp [sameIgnoringCase]

end QueryResult.Text
