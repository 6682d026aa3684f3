import QueryResult.Text.Hidden

/-!
# Quoted text

How a message or a log line shows text that it cannot trust: between double quotes, with quotes and
backslashes escaped, the four usual controls by letter and every other hidden character by number.
A quote inside never ends the quoted form early.
-/

namespace QueryResult.Text

/-- A character as it stands between the quotes. -/
def quotedChar (c : Char) : List Char :=
  if c = '"' then ['\\', '"']
  else if c = '\\' then ['\\', '\\']
  else if c = '\n' then ['\\', 'n']
  else if c = '\r' then ['\\', 'r']
  else if c = '\t' then ['\\', 't']
  else if c = Char.ofNat 0 then ['\\', '0']
  else if isHidden c then ['\\', 'u', '{'] ++ Nat.toDigits 16 c.toNat ++ ['}']
  else [c]

/-- Text between double quotes, safe to show. -/
def quoted (s : String) : String :=
  String.ofList (['"'] ++ s.toList.flatMap quotedChar ++ ['"'])

/-- A list of quoted texts between brackets. -/
def quotedList (ss : List String) : String :=
  "[" ++ String.intercalate ", " (ss.map quoted) ++ "]"

theorem quotedChar_ne_nil (c : Char) : quotedChar c ≠ [] := by
  unfold quotedChar
  repeat' split
  all_goals simp

/-- A character that is neither escaped nor hidden stands for itself. -/
theorem quotedChar_eq_self {c : Char} (hq : c ≠ '"') (hb : c ≠ '\\') (hh : isHidden c = false) :
    quotedChar c = [c] := by
  have hn : c ≠ '\n' := by rintro rfl; simp [isHidden] at hh
  have hr : c ≠ '\r' := by rintro rfl; simp [isHidden] at hh
  have ht : c ≠ '\t' := by rintro rfl; simp [isHidden] at hh
  have h0 : c ≠ Char.ofNat 0 := by rintro rfl; simp [isHidden] at hh
  simp [quotedChar, hq, hb, hn, hr, ht, h0, hh]

end QueryResult.Text
