import QueryResult.Proofs.PatternCut
import QueryResult.Text.Digits

/-!
# Patterns scanned along their bytes

A compiler that does not take a pattern apart first walks along its UTF-8 form with an index. What
begins there it finds in a copy in capital letters, and what it copies it takes from the pattern
itself; the text that it has copied becomes a literal when an element or the end comes. `Scan.step`
is one turn of that loop, with everything in it that may go wrong: a slice that cuts a character
apart, an index behind the last character, a quote that is left open.

In truth only the last does (`Scan.Scanned.step`): the index stands between two characters, in front
of what is still to be cut, and each turn moves it on past one piece. So the walk ends, with the
items that the cut has (`Scan.outcome_iff`).
-/

namespace QueryResult.Pattern
open QueryResult.Text

/-! ## Bytes -/

/-- The number of bytes of a text. -/
def byteLength (cs : List Char) : Nat :=
  (cs.map Char.utf8Size).sum

/-- A text from a byte on, unless the byte is inside of a character. -/
def fromByte? : List Char → Nat → Option (List Char)
  | cs, 0 => some cs
  | [], _ + 1 => none
  | c :: cs, n + 1 => if c.utf8Size ≤ n + 1 then fromByte? cs (n + 1 - c.utf8Size) else none

/-- A text up to a byte, unless the byte is inside of a character. -/
def toByte? : List Char → Nat → Option (List Char)
  | _, 0 => some []
  | [], _ + 1 => none
  | c :: cs, n + 1 =>
    if c.utf8Size ≤ n + 1 then (toByte? cs (n + 1 - c.utf8Size)).map (c :: ·) else none

/-- A text between two bytes. -/
def slice? (cs : List Char) (first last : Nat) : Option (List Char) :=
  (fromByte? cs first).bind fun rest => toByte? rest (last - first)

/-- The byte at which a character stands for the first time. -/
def findByte? (c : Char) : List Char → Option Nat
  | [] => none
  | d :: cs => if d = c then some 0 else (findByte? c cs).map (· + d.utf8Size)

@[simp] theorem byteLength_nil : byteLength [] = 0 := rfl

@[simp] theorem byteLength_cons (c : Char) (cs : List Char) :
    byteLength (c :: cs) = c.utf8Size + byteLength cs :=
  rfl

@[simp] theorem byteLength_append (cs ds : List Char) :
    byteLength (cs ++ ds) = byteLength cs + byteLength ds := by
  simp [byteLength]

theorem length_le_byteLength (cs : List Char) : cs.length ≤ byteLength cs := by
  induction cs with
  | nil => exact Nat.le_refl 0
  | cons c cs ih =>
    have := c.utf8Size_pos
    rw [List.length_cons, byteLength_cons]
    omega

theorem fromByte?_append (front back : List Char) :
    fromByte? (front ++ back) (byteLength front) = some back := by
  induction front with
  | nil => cases back <;> rfl
  | cons c front ih =>
    obtain ⟨n, size⟩ : ∃ n, c.utf8Size + byteLength front = n + 1 :=
      Nat.exists_eq_succ_of_ne_zero (by have := c.utf8Size_pos; omega)
    rw [List.cons_append, byteLength_cons, size, fromByte?, if_pos (by omega), ← size,
      Nat.add_sub_cancel_left, ih]

theorem toByte?_append (front back : List Char) :
    toByte? (front ++ back) (byteLength front) = some front := by
  induction front with
  | nil => cases back <;> rfl
  | cons c front ih =>
    obtain ⟨n, size⟩ : ∃ n, c.utf8Size + byteLength front = n + 1 :=
      Nat.exists_eq_succ_of_ne_zero (by have := c.utf8Size_pos; omega)
    rw [List.cons_append, byteLength_cons, size, toByte?, if_pos (by omega), ← size,
      Nat.add_sub_cancel_left, ih, Option.map_some]

theorem slice?_append (front middle back : List Char) :
    slice? (front ++ (middle ++ back)) (byteLength front) (byteLength front + byteLength middle) =
      some middle := by
  rw [slice?, fromByte?_append, Option.bind_some, Nat.add_sub_cancel_left, toByte?_append]

theorem findByte?_append {c : Char} {front : List Char} (absent : c ∉ front) (back : List Char) :
    findByte? c (front ++ c :: back) = some (byteLength front) := by
  induction front with
  | nil => exact if_pos rfl
  | cons d front ih =>
    rw [List.mem_cons, not_or] at absent
    rw [List.cons_append, findByte?, if_neg fun same => absent.1 same.symm, ih absent.2,
      Option.map_some, byteLength_cons, Nat.add_comm]

theorem findByte?_eq_none {c : Char} {cs : List Char} (absent : c ∉ cs) :
    findByte? c cs = none := by
  induction cs with
  | nil => rfl
  | cons d cs ih =>
    rw [List.mem_cons, not_or] at absent
    rw [findByte?, if_neg fun same => absent.1 same.symm, ih absent.2, Option.map_none]

/-! ## Capital letters -/

/-- A letter that is made a capital moves by 32 within ASCII. -/
theorem toUpper_cases (c : Char) :
    c.toUpper = c ∨
      97 ≤ c.toNat ∧ c.toNat ≤ 122 ∧ c.toUpper.toNat = c.toNat - 32 := by
  by_cases lower : 'a'.val ≤ c.val ∧ c.val ≤ 'z'.val
  · right
    have low : 97 ≤ c.toNat := lower.1
    have high : c.toNat ≤ 122 := lower.2
    refine ⟨low, high, ?_⟩
    have value : c.toUpper.toNat = (c.val + ('A'.val - 'a'.val)).toNat := by
      delta Char.toUpper
      rw [dif_pos lower]
      rfl
    have shift : ('A'.val - 'a'.val).toNat = 4294967264 := by decide
    rw [value, UInt32.toNat_add, shift]
    show (c.toNat + 4294967264) % 4294967296 = c.toNat - 32
    omega
  · exact .inl (dif_neg lower)

/-- Making a letter a capital keeps its width. -/
theorem utf8Size_toUpper (c : Char) : c.toUpper.utf8Size = c.utf8Size := by
  rcases toUpper_cases c with same | ⟨low, high, value⟩
  · rw [same]
  · have size : c.utf8Size = 1 := Char.utf8Size_eq_one_iff.2 (show c.toNat ≤ 127 by omega)
    rw [size, Char.utf8Size_eq_one_iff]
    show c.toUpper.toNat ≤ 127
    omega

theorem toUpper_eq_quote_iff {c : Char} : c.toUpper = '"' ↔ c = '"' := by
  constructor
  · intro quote
    rcases toUpper_cases c with same | ⟨low, high, value⟩
    · rw [← same, quote]
    · rw [quote] at value
      have : '"'.toNat = 34 := rfl
      omega
  · rintro rfl
    rfl

theorem byteLength_upperAscii (cs : List Char) : byteLength (upperAscii cs) = byteLength cs := by
  induction cs with
  | nil => rfl
  | cons c cs ih =>
    show c.toUpper.utf8Size + byteLength (upperAscii cs) = _
    rw [utf8Size_toUpper, ih, byteLength_cons]

theorem upperAscii_append (cs ds : List Char) :
    upperAscii (cs ++ ds) = upperAscii cs ++ upperAscii ds :=
  List.map_append

theorem quote_mem_upperAscii_iff {cs : List Char} : '"' ∈ upperAscii cs ↔ '"' ∈ cs := by
  rw [upperAscii, List.mem_map]
  constructor
  · rintro ⟨c, mem, quote⟩
    rwa [← toUpper_eq_quote_iff.1 quote]
  · intro mem
    exact ⟨'"', mem, rfl⟩

/-! ## Elements in capital letters -/

/-- The words of the table that are spelled out; `FF` and the digit behind it are read apart. -/
def spelledOut : List (String × Element) :=
  [("YYYY", .year4), ("YY", .year2), ("MMMM", .monthName), ("MON", .monthAbbreviation),
   ("MM", .month), ("MI", .minute), ("DD", .day), ("DY", .weekdayAbbreviation),
   ("HH24", .hour24), ("HH12", .hour12), ("HH", .hour12), ("AM", .halfDay), ("PM", .halfDay),
   ("SS", .second), ("TZH", .offsetHours), ("TZM", .offsetMinutes)]

/-- The digit that a text begins with. -/
def leadingDigit? : List Char → Option Nat
  | [] => none
  | c :: _ => if c.isDigit then some (digitsValue [c]) else none

/-- The element that a text in capital letters begins with, and the bytes of its word. -/
def element? : List Char → Option (Element × Nat)
  | 'F' :: 'F' :: after =>
    match leadingDigit? after with
    | some digit => some (.fraction (some digit), 3)
    | none => some (.fraction none, 2)
  | cs =>
    (spelledOut.find? fun row => row.1.toList.isPrefixOf cs).map fun row =>
      (row.2, row.1.utf8ByteSize)

theorem beginsWith_eq (word : String) (cs : List Char) :
    Element.beginsWith word cs = word.toList.isPrefixOf (upperAscii cs) := by
  rw [Bool.eq_iff_iff, Element.beginsWith, beq_iff_eq, List.isPrefixOf_iff_prefix,
    List.prefix_iff_eq_take, String.length_toList, upperAscii, upperAscii, List.map_take]

theorem leading?_eq (cs : List Char) :
    Element.leading? cs = (Element.table.find? fun row => row.1.toList.isPrefixOf (upperAscii cs)).map
      fun row => (row.2, row.1.length) := by
  simp only [Element.leading?, beginsWith_eq]

theorem eq_digit {c : Char} (h : c.isDigit = true) :
    c ∈ ['0', '1', '2', '3', '4', '5', '6', '7', '8', '9'] := by
  simp only [Char.isDigit, Bool.and_eq_true, decide_eq_true_eq] at h
  have low : 48 ≤ c.toNat := UInt32.le_iff_toNat_le.1 h.1
  have high : c.toNat ≤ 57 := UInt32.le_iff_toNat_le.1 h.2
  rw [← Char.ofNat_toNat c]
  generalize c.toNat = n at low high
  interval_cases n <;> decide

/-- The rows of the table for `FF`, with a digit behind it or without. -/
def fractionRows : List (String × Element) :=
  Element.table.take 11

theorem find?_of_not_prefix {capital : List Char} (h : ¬ ['F', 'F'] <+: capital) :
    fractionRows.find? (fun row => row.1.toList.isPrefixOf capital) = none := by
  have all : ∀ row ∈ fractionRows, ['F', 'F'] <+: row.1.toList := by decide
  rw [List.find?_eq_none]
  intro row mem begins
  exact h ((all row mem).trans (List.isPrefixOf_iff_prefix.1 begins))

theorem find?_of_digit {c : Char} (digit : c.isDigit = true) (rest : List Char) :
    (Element.table.find? fun row => row.1.toList.isPrefixOf ('F' :: 'F' :: c :: rest)).map
      (fun row => (row.2, row.1.length)) = some (.fraction (some (digitsValue [c])), 3) := by
  have mem := eq_digit digit
  simp only [List.mem_cons, List.not_mem_nil, or_false] at mem
  rcases mem with rfl | rfl | rfl | rfl | rfl | rfl | rfl | rfl | rfl | rfl <;> rfl

theorem find?_of_no_digit {after : List Char} (h : leadingDigit? after = none) :
    (Element.table.find? fun row => row.1.toList.isPrefixOf ('F' :: 'F' :: after)).map
      (fun row => (row.2, row.1.length)) = some (.fraction none, 2) := by
  cases after with
  | nil => rfl
  | cons c rest =>
    have other : ∀ d : Char, d.isDigit = true → (d == c) = false := by
      intro d digit
      rw [beq_eq_false_iff_ne]
      rintro rfl
      rw [leadingDigit?, if_pos digit] at h
      cases h
    have two : "FF".length = 2 := rfl
    simp [Element.table, List.isPrefixOf, other, two]

/-- The element in the capital copy is the one that the table has. -/
theorem element?_upperAscii (cs : List Char) :
    element? (upperAscii cs) = Element.leading? cs := by
  rw [leading?_eq]
  generalize upperAscii cs = capital
  unfold element?
  split
  · rename_i after
    cases digit : leadingDigit? after with
    | none => exact (find?_of_no_digit digit).symm
    | some n =>
      cases after with
      | nil => cases digit
      | cons c rest =>
        rw [leadingDigit?] at digit
        split at digit <;> rename_i isDigit
        · obtain rfl := Option.some.inj digit
          exact (find?_of_digit isDigit rest).symm
        · cases digit
  · rename_i other
    have bytes : ∀ row ∈ spelledOut, row.1.utf8ByteSize = row.1.length := by decide
    have table : Element.table = fractionRows ++ spelledOut := rfl
    have first : ¬ ['F', 'F'] <+: capital := by
      rintro ⟨after, rfl⟩
      exact other after rfl
    rw [table, List.find?_append, find?_of_not_prefix first, Option.none_or]
    apply Option.map_congr
    intro row found
    rw [bytes row (List.mem_of_find?_eq_some found)]

theorem byteLength_word {e : Element} {word rest : List Char}
    (longest : e.Longest word.length (word ++ rest)) : byteLength word = word.length := by
  obtain ⟨w, mem, length, same⟩ := longest.begins
  rw [List.take_left] at same
  have ascii : ∀ row ∈ Element.table, byteLength row.1.toList = row.1.length := by decide
  rw [← byteLength_upperAscii, same, ascii _ (Element.mem_table_of_mem_words mem), length]

/-! ## The walk -/

/-- What can go wrong on the walk. -/
inductive Fault where
  | unterminatedQuote
  /-- There is no character at the index. -/
  | noCharacter
  /-- A slice begins or ends inside of a character. -/
  | splitCharacter
deriving DecidableEq

/-- What the error says that a fault leads to. A character that is cut apart leads to none: the walk
itself breaks off. -/
def Fault.reason? : Fault → Option String
  | unterminatedQuote => some "unterminated quote"
  | noCharacter => some "invalid utf-8 boundary"
  | splitCharacter => none

/-- The walk along a pattern. -/
structure Scan where
  /-- The bytes that lie behind. -/
  index : Nat
  /-- The text that has been copied and is no item yet. -/
  literal : List Char
  items : List Item

namespace Scan

/-- The walk before the first byte. -/
def start : Scan := ⟨0, [], []⟩

/-- The items with the text that has been copied behind them. -/
def flush (s : Scan) : List Item :=
  if s.literal.isEmpty then s.items else s.items ++ [.literal s.literal]

/-- Copies the run behind an opening quote. -/
def copyRun (s : Scan) (text after : List Char) : Except Fault Scan :=
  match findByte? '"' after with
  | none => .error .unterminatedQuote
  | some last =>
    match slice? text (s.index + 1) (s.index + 1 + last) with
    | none => .error .splitCharacter
    | some content =>
      .ok { s with index := s.index + last + 2, literal := s.literal ++ content }

/-- Copies the character at the index. -/
def copyCharacter (s : Scan) (text : List Char) : Except Fault Scan :=
  match fromByte? text s.index with
  | none => .error .splitCharacter
  | some [] => .error .noCharacter
  | some (c :: _) =>
    .ok { s with index := s.index + c.utf8Size, literal := s.literal ++ [c] }

/-- One turn. -/
def step (s : Scan) (text : List Char) : Except Fault Scan :=
  match fromByte? (upperAscii text) s.index with
  | none => .error .splitCharacter
  | some rest =>
    if rest.head? = some '"' then s.copyRun text rest.tail
    else
      match element? rest with
      | some (e, width) =>
        .ok { index := s.index + width, literal := [], items := s.flush ++ [.element e] }
      | none => s.copyCharacter text

/-- What the walk comes to before it has reached the end. -/
inductive Reaches (text : List Char) : Scan → Prop
  | start : Reaches text .start
  | next {s s' : Scan} (reached : Reaches text s) (within : s.index < byteLength text)
      (stepped : s.step text = .ok s') : Reaches text s'

/-- How the walk ends: at the last byte with its items, or where a turn goes wrong. -/
inductive Outcome (text : List Char) : Except Fault (List Item) → Prop
  | finished {s : Scan} (reached : Reaches text s) (beyond : byteLength text ≤ s.index) :
      Outcome text (.ok s.flush)
  | failed {s : Scan} {f : Fault} (reached : Reaches text s) (within : s.index < byteLength text)
      (stepped : s.step text = .error f) : Outcome text (.error f)

/-! ## One turn -/

section Turns

variable {s : Scan} {front : List Char}

theorem fromByte?_upperAscii (index : s.index = byteLength front) (back : List Char) :
    fromByte? (upperAscii (front ++ back)) s.index = some (upperAscii back) := by
  rw [upperAscii_append, index, ← byteLength_upperAscii, fromByte?_append]

theorem step_unclosed (index : s.index = byteLength front) {rest : List Char}
    (bare : '"' ∉ rest) : s.step (front ++ '"' :: rest) = .error .unterminatedQuote := by
  have absent : '"' ∉ upperAscii rest := fun mem => bare (quote_mem_upperAscii_iff.1 mem)
  simp only [step, fromByte?_upperAscii index]
  show (if some '"' = some '"' then s.copyRun _ (upperAscii rest) else _) = _
  rw [if_pos rfl, copyRun, findByte?_eq_none absent]

theorem step_quoted (index : s.index = byteLength front) {content : List Char}
    (closed : '"' ∉ content) (rest : List Char) :
    s.step (front ++ ('"' :: content ++ '"' :: rest)) =
      .ok { s with index := s.index + byteLength content + 2, literal := s.literal ++ content } := by
  have absent : '"' ∉ upperAscii content := fun mem => closed (quote_mem_upperAscii_iff.1 mem)
  have copied : slice? (front ++ ('"' :: content ++ '"' :: rest)) (s.index + 1)
      (s.index + 1 + byteLength content) = some content := by
    have behind := slice?_append (front ++ ['"']) content ('"' :: rest)
    have one : byteLength (front ++ ['"']) = s.index + 1 := by
      rw [byteLength_append, index]
      rfl
    rw [one] at behind
    simpa using behind
  have capital : upperAscii ('"' :: content ++ '"' :: rest) =
      '"' :: (upperAscii content ++ '"' :: upperAscii rest) := by
    simp [upperAscii]
  simp only [step, fromByte?_upperAscii index, capital]
  show (if some '"' = some '"' then
    s.copyRun _ (upperAscii content ++ '"' :: upperAscii rest) else _) = _
  rw [if_pos rfl, copyRun, findByte?_append absent, byteLength_upperAscii]
  simp only [copied]

theorem step_element (index : s.index = byteLength front) {e : Element} {word rest : List Char}
    (longest : e.Longest word.length (word ++ rest)) :
    s.step (front ++ (word ++ rest)) =
      .ok { index := s.index + byteLength word, literal := [],
            items := s.flush ++ [.element e] } := by
  have found := Element.leading?_eq_some_iff.2 longest
  rw [← element?_upperAscii] at found
  have bare : (upperAscii (word ++ rest)).head? ≠ some '"' := by
    obtain ⟨c, tail, rfl, bare, -⟩ := longest.exists_cons
    intro quote
    exact bare (toUpper_eq_quote_iff.1 (Option.some.inj quote))
  simp only [step, fromByte?_upperAscii index, if_neg bare, found, byteLength_word longest]

theorem step_plain (index : s.index = byteLength front) {c : Char} {rest : List Char}
    (bare : c ≠ '"') (nothing : ∀ e width, ¬ Element.Begins e width (c :: rest)) :
    s.step (front ++ c :: rest) =
      .ok { s with index := s.index + c.utf8Size, literal := s.literal ++ [c] } := by
  have found := Element.leading?_eq_none_iff.2 nothing
  rw [← element?_upperAscii] at found
  have bare : (upperAscii (c :: rest)).head? ≠ some '"' := by
    intro quote
    exact bare (toUpper_eq_quote_iff.1 (Option.some.inj quote))
  have here : fromByte? (front ++ c :: rest) s.index = some (c :: rest) := by
    rw [index, fromByte?_append]
  simp only [step, fromByte?_upperAscii index, if_neg bare, found, copyCharacter, here]

end Turns

/-- Where the walk stands: behind `front`, of which it has the pieces `done`, and before `back`. -/
structure Scanned (text : List Char) (s : Scan) (front back : List Char) (done : List Piece) :
    Prop where
  whole : text = front ++ back
  index : s.index = byteLength front
  pieces : pieces? text = (pieces? back).map (done ++ ·)
  items : ∀ rest, itemsOf (done ++ rest) = s.items ++ copyBefore s.literal (itemsOf rest)

namespace Scanned

variable {text : List Char} {s : Scan} {front back : List Char} {done : List Piece}

theorem start (text : List Char) : Scanned text .start [] text [] where
  whole := rfl
  index := rfl
  pieces := by simp
  items rest := (copyBefore_nil _).symm

/-- Text that is copied makes the literal longer. -/
theorem copy (scanned : Scanned text s front back done) (piece : Piece)
    (copied passed rest : List Char) (content : ∀ items, piece.before items = copyBefore copied items)
    (parts : back = passed ++ rest) (cut : pieces? back = (pieces? rest).map (piece :: ·))
    {index : Nat} (moved : index = s.index + byteLength passed) :
    Scanned text ⟨index, s.literal ++ copied, s.items⟩ (front ++ passed) rest
      (done ++ [piece]) where
  whole := by rw [scanned.whole, parts, List.append_assoc]
  index := by rw [moved, byteLength_append, scanned.index]
  pieces := by
    rw [scanned.pieces, cut, Option.map_map]
    simp [Function.comp_def]
  items := by
    intro tail
    rw [List.append_assoc, scanned.items, copyBefore_append, ← content]
    rfl

/-- An element ends the literal. -/
theorem add (scanned : Scanned text s front back done) {e : Element} {word rest : List Char}
    (parts : back = word ++ rest) (cut : pieces? back = (pieces? rest).map (.element e :: ·)) :
    Scanned text ⟨s.index + byteLength word, [], s.flush ++ [.element e]⟩ (front ++ word) rest
      (done ++ [.element e]) where
  whole := by rw [scanned.whole, parts, List.append_assoc]
  index := by rw [byteLength_append, scanned.index]
  pieces := by
    rw [scanned.pieces, cut, Option.map_map]
    simp [Function.comp_def]
  items := by
    intro tail
    have element : itemsOf ([.element e] ++ tail) = .element e :: itemsOf tail := rfl
    rw [List.append_assoc, scanned.items, element, copyBefore_nil, flush]
    cases s.literal <;> simp [copyBefore]

theorem within_iff (scanned : Scanned text s front back done) :
    s.index < byteLength text ↔ back ≠ [] := by
  rw [scanned.whole, byteLength_append, scanned.index]
  constructor
  · rintro lt rfl
    exact absurd lt (by simp)
  · intro some
    have := length_le_byteLength back
    have := List.length_pos_iff.2 some
    omega

/-- A turn leads past one piece, or to a quote that has no partner. -/
theorem step (scanned : Scanned text s front back done) (within : s.index < byteLength text) :
    (s.step text = .error .unterminatedQuote ∧ pieces? text = none) ∨
      ∃ s' front' back' done', s.step text = .ok s' ∧ s.index < s'.index ∧
        Scanned text s' front' back' done' := by
  have some := scanned.within_iff.1 within
  have whole := scanned.whole
  cases Pattern.front back with
  | done => exact absurd rfl some
  | unclosed bare =>
    left
    constructor
    · rw [whole]
      exact step_unclosed scanned.index bare
    · rw [scanned.pieces, pieces?_unclosed bare, Option.map_none]
  | @quoted content rest closed =>
    have quotes : byteLength ('"' :: content ++ ['"']) = byteLength content + 2 := by
      rw [byteLength_append, byteLength_cons]
      show 1 + byteLength content + 1 = _
      omega
    have moved : s.index + byteLength content + 2 =
        s.index + byteLength ('"' :: content ++ ['"']) := by
      rw [quotes]
      rfl
    right
    refine ⟨_, _, _, _, ?_, ?_, scanned.copy (.quoted content) content _ rest (fun _ => rfl)
      (by simp) (pieces?_quoted closed) moved⟩
    · rw [whole]
      exact step_quoted scanned.index closed rest
    · show s.index < s.index + byteLength content + 2
      omega
  | @element e word rest longest =>
    right
    refine ⟨_, _, _, _, ?_, ?_, scanned.add rfl (pieces?_element longest)⟩
    · rw [whole]
      exact step_element scanned.index longest
    · have := length_le_byteLength word
      have := longest.begins.le_length.1
      show s.index < s.index + byteLength word
      omega
  | @plain c rest bare nothing =>
    right
    refine ⟨_, _, _, _, ?_, ?_, scanned.copy (.plain c) [c] [c] rest (fun _ => rfl) rfl
      (pieces?_plain bare nothing) rfl⟩
    · rw [whole]
      exact step_plain scanned.index bare nothing
    · have := c.utf8Size_pos
      show s.index < s.index + byteLength [c]
      simp
      omega

end Scanned

/-! ## The whole walk -/

variable {text : List Char}

theorem Reaches.scanned {s : Scan} (reached : Reaches text s) :
    ∃ front back done, Scanned text s front back done := by
  induction reached with
  | start => exact ⟨_, _, _, .start text⟩
  | next _ within stepped ih =>
    obtain ⟨front, back, done, scanned⟩ := ih
    rcases scanned.step within with ⟨failed, -⟩ | ⟨s', front', back', done', stepped', -, scanned'⟩
    · rw [failed] at stepped
      cases stepped
    · rw [stepped'] at stepped
      obtain rfl := Except.ok.inj stepped
      exact ⟨front', back', done', scanned'⟩

/-- A turn that succeeds moves the index on. -/
theorem Reaches.lt_of_step {s s' : Scan} (reached : Reaches text s)
    (within : s.index < byteLength text) (stepped : s.step text = .ok s') :
    s.index < s'.index := by
  obtain ⟨front, back, done, scanned⟩ := reached.scanned
  rcases scanned.step within with ⟨failed, -⟩ | ⟨t, _, _, _, stepped', lt, -⟩
  · rw [failed] at stepped
    cases stepped
  · rw [stepped'] at stepped
    obtain rfl := Except.ok.inj stepped
    exact lt

/-- What the cut of a text makes of the walk along it. -/
def ending (text : List Char) : Except Fault (List Item) :=
  match pieces? text with
  | some pieces => .ok (itemsOf pieces)
  | none => .error .unterminatedQuote

theorem Outcome.eq_ending {r : Except Fault (List Item)} (outcome : Outcome text r) :
    r = ending text := by
  cases outcome with
  | @finished s reached beyond =>
    obtain ⟨front, back, done, scanned⟩ := reached.scanned
    have empty : back = [] := by
      by_contra some
      exact absurd (scanned.within_iff.2 some) (Nat.not_lt.2 beyond)
    subst empty
    have flushed : s.flush = itemsOf (done ++ []) := by
      rw [scanned.items, flush]
      cases s.literal <;> simp [itemsOf, copyBefore]
    rw [flushed, ending, scanned.pieces, pieces?_nil]
    rfl
  | failed reached within stepped =>
    obtain ⟨front, back, done, scanned⟩ := reached.scanned
    rcases scanned.step within with ⟨failed, uncut⟩ | ⟨_, _, _, _, stepped', -, -⟩
    · rw [failed] at stepped
      obtain rfl := Except.error.inj stepped
      rw [ending, uncut]
    · rw [stepped'] at stepped
      cases stepped

/-- The walk ends, since the index grows. -/
theorem exists_outcome (text : List Char) : ∃ r, Outcome text r := by
  suffices ends : ∀ n s, Reaches text s → byteLength text - s.index = n → ∃ r, Outcome text r from
    ends _ _ .start rfl
  intro n
  induction n using Nat.strongRecOn with
  | ind n shorter =>
    intro s reached left
    by_cases within : s.index < byteLength text
    · cases stepped : s.step text with
      | error f => exact ⟨_, .failed reached within stepped⟩
      | ok s' =>
        have lt := reached.lt_of_step within stepped
        exact shorter _ (by omega) s' (.next reached within stepped) rfl
    · exact ⟨_, .finished reached (Nat.not_lt.1 within)⟩

/-- The walk has one end, which is told by the cut of the text. -/
theorem outcome_iff {r : Except Fault (List Item)} : Outcome text r ↔ r = ending text := by
  constructor
  · exact Outcome.eq_ending
  · rintro rfl
    obtain ⟨r, outcome⟩ := exists_outcome text
    rwa [← outcome.eq_ending]

theorem outcome_ok_iff {items : List Item} :
    Outcome text (.ok items) ↔ ∃ pieces, pieces? text = some pieces ∧ items = itemsOf pieces := by
  rw [outcome_iff, ending]
  cases pieces? text with
  | none => simp
  | some pieces => simp

theorem outcome_error_iff {f : Fault} :
    Outcome text (.error f) ↔ f = .unterminatedQuote ∧ pieces? text = none := by
  rw [outcome_iff, ending]
  cases pieces? text with
  | none => simp
  | some pieces => simp

end Scan

/-! ## Compiling -/

/-- What compiling makes of a text. -/
structure Tokenizes (text : String) : Prop where
  /-- A pattern is refused for an odd number of quotes and nothing else. -/
  refused : (∃ e, compile text = .error e) ↔ text.toList.count '"' % 2 = 1
  /-- The error has the pattern as it is and names the quote that is left open. -/
  blamed : ∀ e, compile text = .error e → e.pattern = text ∧ e.reason = "unterminated quote"
  /-- The items hold what the pieces of a cut hold, neighbouring text joined. -/
  cut : ∀ q, compile text = .ok q ↔ q.text = text ∧ ∃ pieces, Cut pieces text.toList ∧
    Joined q.items ∧ q.items.flatMap Item.content = pieces.flatMap Piece.content
  /-- There is one cut at most. -/
  unique : ∀ pieces pieces', Cut pieces text.toList → Cut pieces' text.toList → pieces = pieces'
  /-- On the walk along the bytes, the index stands between two characters. -/
  boundary : ∀ s, Scan.Reaches text.toList s →
    ∃ front back, text.toList = front ++ back ∧ s.index = byteLength front
  /-- Each turn of the walk moves the index on. -/
  onward : ∀ s s', Scan.Reaches text.toList s → s.index < byteLength text.toList →
    s.step text.toList = .ok s' → s.index < s'.index
  /-- The walk comes to nothing but the items or an open quote. -/
  ends : ∃ r, Scan.Outcome text.toList r ∧ ∀ f, r = .error f → f = .unterminatedQuote
  /-- It comes to the items exactly if these are what the pattern is compiled to. -/
  walked : ∀ q, compile text = .ok q ↔ q.text = text ∧ Scan.Outcome text.toList (.ok q.items)
  /-- And to a fault exactly if the pattern is refused, for the reason of the fault. -/
  stopped : ∀ e, compile text = .error e ↔ e.pattern = text ∧
    ∃ f, Scan.Outcome text.toList (.error f) ∧ f.reason? = some e.reason

/-- **Patterns are cut at the longest element from left to right**, whatever the text is. -/
theorem compile_tokenizes (text : String) : Tokenizes text where
  refused := by
    rw [← pieces?_eq_none_iff]
    constructor
    · rintro ⟨e, failed⟩
      exact (compile_eq_error_iff.1 failed).2
    · intro uncut
      exact ⟨⟨text⟩, compile_eq_error_iff.2 ⟨rfl, uncut⟩⟩
  blamed e failed := by
    obtain ⟨rfl, -⟩ := compile_eq_error_iff.1 failed
    exact ⟨rfl, rfl⟩
  cut q := by
    rw [compile_eq_ok_iff]
    simp only [pieces?_eq_some_iff, eq_itemsOf_iff]
  unique pieces pieces' cut cut' :=
    Option.some.inj ((pieces?_of_cut cut).symm.trans (pieces?_of_cut cut'))
  boundary s reached := by
    obtain ⟨front, back, done, scanned⟩ := reached.scanned
    exact ⟨front, back, scanned.whole, scanned.index⟩
  onward s s' reached within stepped := reached.lt_of_step within stepped
  ends := by
    obtain ⟨r, outcome⟩ := Scan.exists_outcome text.toList
    refine ⟨r, outcome, ?_⟩
    rintro f rfl
    exact (Scan.outcome_error_iff.1 outcome).1
  walked q := by
    rw [compile_eq_ok_iff, Scan.outcome_ok_iff]
  stopped e := by
    obtain ⟨pattern⟩ := e
    rw [compile_eq_error_iff, PatternError.mk.injEq]
    refine and_congr_right fun _ => ?_
    constructor
    · intro uncut
      exact ⟨.unterminatedQuote, Scan.outcome_error_iff.2 ⟨rfl, uncut⟩, rfl⟩
    · rintro ⟨f, outcome, -⟩
      exact (Scan.outcome_error_iff.1 outcome).2

/-- Small letters, and an element right behind a quote. -/
example : (compile "yyyy\"é \"MON").toOption.map Pattern.items =
    some [.element .year4, .literal ['é', ' '], .element .monthAbbreviation] := by
  decide +kernel

end QueryResult.Pattern
