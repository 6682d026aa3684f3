import Mathlib.Data.List.TakeWhile
import Mathlib.Tactic.IntervalCases
import QueryResult.Pattern.Basic

/-!
# How patterns are cut

`Cut` says what it means for pieces to cut a text: each character belongs to one piece, a quoted run
is closed by the next quote, an element is the longest that begins where it stands, and a character
stands alone only where nothing begins. A text has such a cut exactly if its quotes come in pairs,
and then it has one (`pieces?_eq_some_iff`, `pieces?_eq_none_iff`).

The items of a pattern are those of its pieces with neighbouring text joined. `Joined` lists, in
which no literal is empty and no two stand side by side, are told by the text and the elements that
they hold in order (`Joined.eq_join`), so that the items are settled by the cut.
-/

namespace QueryResult.Pattern
open QueryResult.Text

/-! ## The words of the pattern language -/

namespace Element

/-- The words that stand for an element. -/
def words : Element → List String
  | year4 => ["YYYY"]
  | year2 => ["YY"]
  | month => ["MM"]
  | monthAbbreviation => ["MON"]
  | monthName => ["MMMM"]
  | day => ["DD"]
  | weekdayAbbreviation => ["DY"]
  | hour24 => ["HH24"]
  | hour12 => ["HH12", "HH"]
  | halfDay => ["AM", "PM"]
  | minute => ["MI"]
  | second => ["SS"]
  | fraction none => ["FF"]
  | fraction (some n) => if n ≤ 9 then ["FF" ++ toString n] else []
  | offsetHours => ["TZH"]
  | offsetMinutes => ["TZM"]

theorem mem_words_of_mem_table : ∀ row ∈ table, row.1 ∈ row.2.words := by
  decide

theorem mem_table_of_mem_words {e : Element} {word : String} (h : word ∈ e.words) :
    (word, e) ∈ table := by
  cases e with
  | fraction digits =>
    cases digits with
    | none =>
      obtain rfl := List.mem_singleton.1 h
      decide
    | some n =>
      simp only [words] at h
      split at h <;> rename_i le
      · obtain rfl := List.mem_singleton.1 h
        interval_cases n <;> decide
      · nomatch h
  | _ =>
    simp only [words, List.mem_cons, List.not_mem_nil, or_false] at h
    rcases h with rfl | rfl <;> decide

/-- No word of the table is the beginning of a later one. -/
theorem pairwise_table :
    table.Pairwise fun row later => ¬ row.1.toList <+: later.1.toList := by
  decide

/-- Whether a text begins with a word of the element, in any case of its letters. -/
def Begins (e : Element) (width : Nat) (cs : List Char) : Prop :=
  ∃ word ∈ e.words, word.length = width ∧ upperAscii (cs.take width) = word.toList

/-- Whether the element is the longest that a text begins with. -/
structure Longest (e : Element) (width : Nat) (cs : List Char) : Prop where
  begins : Begins e width cs
  longest : ∀ e' width', Begins e' width' cs → width' ≤ width

theorem begins_iff {e : Element} {width : Nat} {cs : List Char} :
    Begins e width cs ↔
      ∃ row ∈ table, row.2 = e ∧ row.1.length = width ∧ beginsWith row.1 cs = true := by
  simp only [Begins, beginsWith, beq_iff_eq]
  constructor
  · rintro ⟨word, mem, rfl, same⟩
    exact ⟨(word, e), mem_table_of_mem_words mem, rfl, rfl, same.symm⟩
  · rintro ⟨row, mem, rfl, rfl, same⟩
    exact ⟨row.1, mem_words_of_mem_table row mem, rfl, same.symm⟩

/-- Of two words that a text begins with, the shorter is the beginning of the other. -/
theorem isPrefix_of_beginsWith {short long : String} {cs : List Char}
    (le : short.length ≤ long.length) (hs : beginsWith short cs = true)
    (hl : beginsWith long cs = true) : short.toList <+: long.toList := by
  rw [eq_of_beq hs, eq_of_beq hl, upperAscii, upperAscii]
  exact (List.take_prefix_take_left le).map _

theorem leading?_eq_none_iff {cs : List Char} :
    leading? cs = none ↔ ∀ e width, ¬ Begins e width cs := by
  simp only [leading?, Option.map_eq_none_iff, List.find?_eq_none]
  constructor
  · intro silent e width begins
    obtain ⟨row, mem, -, -, here⟩ := begins_iff.1 begins
    exact silent row mem here
  · intro nothing row mem here
    exact nothing row.2 row.1.length (begins_iff.2 ⟨row, mem, rfl, rfl, here⟩)

theorem longest_of_leading? {e : Element} {width : Nat} {cs : List Char}
    (found : leading? cs = some (e, width)) : Longest e width cs := by
  obtain ⟨row, first, same⟩ := Option.map_eq_some_iff.1 found
  obtain ⟨rfl, rfl⟩ := Prod.mk.inj same
  obtain ⟨here, before, behind, parts, silent⟩ := List.find?_eq_some_iff_append.1 first
  have mem : row ∈ table := parts ▸ List.mem_append_right before List.mem_cons_self
  refine ⟨begins_iff.2 ⟨row, mem, rfl, rfl, here⟩, ?_⟩
  intro e' width' begins
  obtain ⟨row', mem', -, rfl, here'⟩ := begins_iff.1 begins
  rw [parts] at mem'
  rcases List.mem_append.1 mem' with inFront | rest
  · exact absurd here' (by simpa using silent row' inFront)
  · rcases List.mem_cons.1 rest with rfl | later
    · exact Nat.le_refl _
    · -- A longer word behind this one would begin with it.
      have apart := pairwise_table
      rw [parts] at apart
      have := (List.pairwise_cons.1 (List.pairwise_append.1 apart).2.1).1 row' later
      exact Nat.not_lt.1 fun longer => this (isPrefix_of_beginsWith longer.le here here')

/-- A word stands for one element. -/
theorem eq_of_words_eq :
    ∀ row ∈ table, ∀ row' ∈ table, row.1 = row'.1 → row.2 = row'.2 := by
  decide +kernel

/-- There is at most one longest element. -/
theorem Longest.unique {e e' : Element} {width width' : Nat} {cs : List Char}
    (h : Longest e width cs) (h' : Longest e' width' cs) : e = e' ∧ width = width' := by
  have same : width = width' :=
    Nat.le_antisymm (h'.longest e width h.begins) (h.longest e' width' h'.begins)
  obtain ⟨row, mem, rfl, length, here⟩ := begins_iff.1 h.begins
  obtain ⟨row', mem', rfl, length', here'⟩ := begins_iff.1 h'.begins
  refine ⟨eq_of_words_eq row mem row' mem' (String.toList_injective ?_), same⟩
  rw [eq_of_beq here, eq_of_beq here', length, length', same]

/-- The element that is found is the longest. -/
theorem leading?_eq_some_iff {e : Element} {width : Nat} {cs : List Char} :
    leading? cs = some (e, width) ↔ Longest e width cs := by
  refine ⟨longest_of_leading?, fun longest => ?_⟩
  cases found : leading? cs with
  | none => exact absurd longest.begins (leading?_eq_none_iff.1 found e width)
  | some row =>
    obtain ⟨rfl, rfl⟩ := longest.unique (longest_of_leading? found)
    rfl

/-- A word has at least two characters. -/
theorem two_le_of_mem_words {e : Element} {word : String} (h : word ∈ e.words) :
    2 ≤ word.length := by
  have : ∀ row ∈ table, 2 ≤ row.1.length := by decide
  exact this _ (mem_table_of_mem_words h)

/-- There is no quote in what stands for an element. -/
theorem Begins.quote_not_mem {e : Element} {width : Nat} {cs : List Char}
    (begins : Begins e width cs) : '"' ∉ cs.take width := by
  obtain ⟨word, mem, -, same⟩ := begins
  have bare : ∀ row ∈ table, '"' ∉ row.1.toList := by decide
  intro quote
  refine bare _ (mem_table_of_mem_words mem) ?_
  rw [← same]
  exact List.mem_map.2 ⟨'"', quote, rfl⟩

theorem Begins.le_length {e : Element} {width : Nat} {cs : List Char}
    (begins : Begins e width cs) : 2 ≤ width ∧ width ≤ cs.length := by
  obtain ⟨word, mem, rfl, same⟩ := begins
  have length := congrArg List.length same
  simp only [upperAscii, List.length_map, List.length_take, String.length_toList] at length
  exact ⟨two_le_of_mem_words mem, by omega⟩

end Element

/-! ## What a text begins with -/

/-- What stands at the front of a text. -/
inductive Front : List Char → Prop
  | done : Front []
  | unclosed {rest : List Char} (bare : '"' ∉ rest) : Front ('"' :: rest)
  | quoted {content rest : List Char} (closed : '"' ∉ content) :
      Front ('"' :: content ++ '"' :: rest)
  | element {e : Element} {word rest : List Char}
      (longest : e.Longest word.length (word ++ rest)) : Front (word ++ rest)
  | plain {c : Char} {rest : List Char} (bare : c ≠ '"')
      (nothing : ∀ e width, ¬ Element.Begins e width (c :: rest)) : Front (c :: rest)

theorem front (cs : List Char) : Front cs := by
  cases cs with
  | nil => exact .done
  | cons c rest =>
    by_cases quote : c = '"'
    · subst quote
      by_cases more : '"' ∈ rest
      · obtain ⟨content, rest, rfl, closed⟩ := List.eq_append_cons_of_mem more
        exact .quoted closed
      · exact .unclosed more
    · cases found : Element.leading? (c :: rest) with
      | none => exact .plain quote (Element.leading?_eq_none_iff.1 found)
      | some row =>
        obtain ⟨e, width⟩ := row
        have longest := Element.leading?_eq_some_iff.1 found
        have length : ((c :: rest).take width).length = width :=
          List.length_take_of_le longest.begins.le_length.2
        rw [← List.take_append_drop width (c :: rest)] at longest ⊢
        exact .element (e := e) (by rw [length]; exact longest)

/-- The word of an element has a first character, which is no quote. -/
theorem Element.Longest.exists_cons {e : Element} {word rest : List Char}
    (longest : e.Longest word.length (word ++ rest)) :
    ∃ c tail, word = c :: tail ∧ c ≠ '"' ∧ '"' ∉ tail := by
  have two := longest.begins.le_length.1
  have bare := longest.begins.quote_not_mem
  rw [List.take_left] at bare
  cases word with
  | nil => nomatch two
  | cons c tail =>
    rw [List.mem_cons, not_or] at bare
    exact ⟨c, tail, rfl, fun quote => bare.1 quote.symm, bare.2⟩

/-- Induction along the front of a text. -/
theorem front_induction {motive : List Char → Prop} (done : motive [])
    (unclosed : ∀ rest, '"' ∉ rest → motive ('"' :: rest))
    (quoted : ∀ content rest, '"' ∉ content → motive rest →
      motive ('"' :: content ++ '"' :: rest))
    (element : ∀ (e : Element) (word rest), e.Longest word.length (word ++ rest) → motive rest →
      motive (word ++ rest))
    (plain : ∀ (c : Char) (rest), c ≠ '"' → (∀ e width, ¬ Element.Begins e width (c :: rest)) →
      motive rest → motive (c :: rest)) (cs : List Char) : motive cs := by
  induction h : cs.length using Nat.strongRecOn generalizing cs with
  | ind n shorter =>
    cases front cs with
    | done => exact done
    | unclosed bare => exact unclosed _ bare
    | quoted closed =>
      refine quoted _ _ closed (shorter _ ?_ _ rfl)
      simp only [List.length_append, List.length_cons] at h
      omega
    | element longest =>
      refine element _ _ _ longest (shorter _ ?_ _ rfl)
      have := longest.begins.le_length.1
      simp only [List.length_append] at h
      omega
    | plain bare nothing =>
      refine plain _ _ bare nothing (shorter _ ?_ _ rfl)
      simp only [List.length_cons] at h
      omega

/-! ## Cutting -/

/-- How pieces cut a text. -/
inductive Cut : List Piece → List Char → Prop
  | done : Cut [] []
  | quoted {content rest : List Char} {pieces : List Piece} (closed : '"' ∉ content)
      (tail : Cut pieces rest) : Cut (.quoted content :: pieces) ('"' :: content ++ '"' :: rest)
  | element {e : Element} {word rest : List Char} {pieces : List Piece}
      (longest : e.Longest word.length (word ++ rest)) (tail : Cut pieces rest) :
      Cut (.element e :: pieces) (word ++ rest)
  | plain {c : Char} {rest : List Char} {pieces : List Piece} (bare : c ≠ '"')
      (nothing : ∀ e width, ¬ Element.Begins e width (c :: rest)) (tail : Cut pieces rest) :
      Cut (.plain c :: pieces) (c :: rest)

theorem pieces?_nil : pieces? [] = some [] :=
  pieces?.eq_1

theorem pieces?_unclosed {rest : List Char} (bare : '"' ∉ rest) : pieces? ('"' :: rest) = none := by
  have whole : rest.takeWhile (· ≠ '"') = rest := by
    rw [List.takeWhile_eq_self_iff]
    intro c mem
    exact decide_eq_true fun e => bare (e ▸ mem)
  rw [pieces?.eq_2, if_pos rfl, whole]
  exact if_pos rfl

theorem pieces?_quoted {content rest : List Char} (closed : '"' ∉ content) :
    pieces? ('"' :: content ++ '"' :: rest) = (pieces? rest).map (.quoted content :: ·) := by
  have bare : ∀ c ∈ content, decide (c ≠ '"') = true := by
    intro c mem
    exact decide_eq_true fun e => closed (e ▸ mem)
  have run : (content ++ '"' :: rest).takeWhile (· ≠ '"') = content := by
    rw [List.takeWhile_append_of_pos bare]
    simp
  have left : (content ++ '"' :: rest).drop (content.length + 1) = rest := by
    simp
  rw [List.cons_append, pieces?.eq_2, if_pos rfl, run]
  simp only [left]
  exact if_neg (by simp)

theorem pieces?_element {e : Element} {word rest : List Char}
    (longest : e.Longest word.length (word ++ rest)) :
    pieces? (word ++ rest) = (pieces? rest).map (.element e :: ·) := by
  have found := Element.leading?_eq_some_iff.2 longest
  obtain ⟨c, tail, rfl, bare, -⟩ := longest.exists_cons
  rw [List.cons_append] at found ⊢
  rw [pieces?.eq_2, if_neg bare, found]
  simp

theorem pieces?_plain {c : Char} {rest : List Char} (bare : c ≠ '"')
    (nothing : ∀ e width, ¬ Element.Begins e width (c :: rest)) :
    pieces? (c :: rest) = (pieces? rest).map (.plain c :: ·) := by
  rw [pieces?.eq_2, if_neg bare, Element.leading?_eq_none_iff.2 nothing]

theorem pieces?_of_cut {pieces : List Piece} {cs : List Char} (cut : Cut pieces cs) :
    pieces? cs = some pieces := by
  induction cut with
  | done => exact pieces?_nil
  | quoted closed tail ih => rw [pieces?_quoted closed, ih, Option.map_some]
  | element longest tail ih => rw [pieces?_element longest, ih, Option.map_some]
  | plain bare nothing tail ih => rw [pieces?_plain bare nothing, ih, Option.map_some]

theorem cut_of_pieces? {cs : List Char} {pieces : List Piece} (h : pieces? cs = some pieces) :
    Cut pieces cs := by
  induction cs using front_induction generalizing pieces with
  | done =>
    rw [pieces?_nil] at h
    obtain rfl := Option.some.inj h
    exact .done
  | unclosed rest bare =>
    rw [pieces?_unclosed bare] at h
    nomatch h
  | quoted content rest closed ih =>
    rw [pieces?_quoted closed] at h
    obtain ⟨tail, cut, rfl⟩ := Option.map_eq_some_iff.1 h
    exact .quoted closed (ih cut)
  | element e word rest longest ih =>
    rw [pieces?_element longest] at h
    obtain ⟨tail, cut, rfl⟩ := Option.map_eq_some_iff.1 h
    exact .element longest (ih cut)
  | plain c rest bare nothing ih =>
    rw [pieces?_plain bare nothing] at h
    obtain ⟨tail, cut, rfl⟩ := Option.map_eq_some_iff.1 h
    exact .plain bare nothing (ih cut)

/-- The pieces of a text are the one way to cut it. -/
theorem pieces?_eq_some_iff {cs : List Char} {pieces : List Piece} :
    pieces? cs = some pieces ↔ Cut pieces cs :=
  ⟨cut_of_pieces?, pieces?_of_cut⟩

/-- A text cannot be cut exactly if one of its quotes has no partner. -/
theorem pieces?_eq_none_iff {cs : List Char} : pieces? cs = none ↔ cs.count '"' % 2 = 1 := by
  induction cs using front_induction with
  | done => simp [pieces?_nil]
  | unclosed rest bare => simp [pieces?_unclosed bare, List.count_eq_zero_of_not_mem bare]
  | quoted content rest closed ih =>
    rw [pieces?_quoted closed, Option.map_eq_none_iff, ih, List.cons_append, List.count_cons_self,
      List.count_append, List.count_eq_zero_of_not_mem closed, List.count_cons_self]
    omega
  | element e word rest longest ih =>
    have bare := longest.begins.quote_not_mem
    rw [List.take_left] at bare
    rw [pieces?_element longest, Option.map_eq_none_iff, ih, List.count_append,
      List.count_eq_zero_of_not_mem bare, Nat.zero_add]
  | plain c rest bare nothing ih =>
    rw [pieces?_plain bare nothing, Option.map_eq_none_iff, ih, List.count_cons_of_ne bare]

/-! ## Joining -/

/-- What an item holds, character by character. -/
def Item.content : Item → List (Char ⊕ Element)
  | .literal text => text.map .inl
  | .element e => [.inr e]

/-- What a piece holds: the quotes around a run are left out. -/
def Piece.content : Piece → List (Char ⊕ Element)
  | .quoted content => content.map .inl
  | .element e => [.inr e]
  | .plain c => [.inl c]

/-- Items in which no literal is empty and none stands next to another. -/
inductive Joined : List Item → Prop
  | nil : Joined []
  | element {e : Element} {rest : List Item} (tail : Joined rest) : Joined (.element e :: rest)
  | literal {text : List Char} {rest : List Item} (nonempty : text ≠ [])
      (apart : ∀ text', rest.head? ≠ some (.literal text')) (tail : Joined rest) :
      Joined (.literal text :: rest)

/-- The items that hold some text and elements. -/
def join : List (Char ⊕ Element) → List Item
  | [] => []
  | .inl c :: rest => copyBefore [c] (join rest)
  | .inr e :: rest => .element e :: join rest

@[simp] theorem copyBefore_nil (items : List Item) : copyBefore [] items = items := by
  cases items with
  | nil => rfl
  | cons item rest => cases item <;> rfl

theorem copyBefore_append (text text' : List Char) (items : List Item) :
    copyBefore (text ++ text') items = copyBefore text (copyBefore text' items) := by
  cases text' with
  | nil => rw [List.append_nil, copyBefore_nil]
  | cons c text' =>
    cases items with
    | nil => simp [copyBefore]
    | cons item rest => cases item <;> simp [copyBefore]

theorem join_append_text (text : List Char) (rest : List (Char ⊕ Element)) :
    join (text.map .inl ++ rest) = copyBefore text (join rest) := by
  induction text with
  | nil => exact (copyBefore_nil _).symm
  | cons c text ih =>
    rw [List.map_cons, List.cons_append, join, ih, ← copyBefore_append]
    rfl

theorem itemsOf_eq_join (pieces : List Piece) :
    itemsOf pieces = join (pieces.flatMap Piece.content) := by
  induction pieces with
  | nil => rfl
  | cons piece pieces ih =>
    rw [List.flatMap_cons, itemsOf, List.foldr_cons, ← itemsOf, ih]
    cases piece with
    | quoted content => exact (join_append_text content _).symm
    | element e => rfl
    | plain c => rfl

theorem Joined.copyBefore {items : List Item} (joined : Joined items) (text : List Char) :
    Joined (copyBefore text items) := by
  cases text with
  | nil => rwa [copyBefore_nil]
  | cons c text =>
    cases joined with
    | nil => exact .literal (List.cons_ne_nil _ _) nofun .nil
    | element tail => exact .literal (List.cons_ne_nil _ _) nofun (.element tail)
    | literal nonempty apart tail => exact .literal (List.cons_ne_nil _ _) apart tail

theorem joined_join (content : List (Char ⊕ Element)) : Joined (join content) := by
  induction content with
  | nil => exact .nil
  | cons symbol rest ih =>
    cases symbol with
    | inl c => exact ih.copyBefore [c]
    | inr e => exact .element ih

theorem content_copyBefore (text : List Char) (items : List Item) :
    (copyBefore text items).flatMap Item.content =
      text.map .inl ++ items.flatMap Item.content := by
  cases text with
  | nil => rw [copyBefore_nil, List.map_nil, List.nil_append]
  | cons c text =>
    cases items with
    | nil => rfl
    | cons item rest => cases item <;> simp [copyBefore, Item.content]

/-- What is joined is what was there. -/
theorem content_join (content : List (Char ⊕ Element)) :
    (join content).flatMap Item.content = content := by
  induction content with
  | nil => rfl
  | cons symbol rest ih =>
    cases symbol with
    | inl c =>
      rw [join, content_copyBefore, ih]
      rfl
    | inr e =>
      rw [join, List.flatMap_cons, ih]
      rfl

/-- Joined items are told by what they hold. -/
theorem Joined.eq_join {items : List Item} (joined : Joined items) :
    items = join (items.flatMap Item.content) := by
  induction joined with
  | nil => rfl
  | @element e rest tail ih => exact congrArg (Item.element e :: ·) ih
  | @literal text rest nonempty apart tail ih =>
    rw [List.flatMap_cons, Item.content, join_append_text, ← ih]
    obtain ⟨c, text, rfl⟩ := List.exists_cons_of_ne_nil nonempty
    cases tail with
    | nil => rfl
    | element tail => rfl
    | literal _ _ _ => exact absurd rfl (apart _)

/-- The items of pieces are what the pieces hold, joined. -/
theorem eq_itemsOf_iff {items : List Item} {pieces : List Piece} :
    items = itemsOf pieces ↔
      Joined items ∧ items.flatMap Item.content = pieces.flatMap Piece.content := by
  rw [itemsOf_eq_join]
  constructor
  · rintro rfl
    exact ⟨joined_join _, content_join _⟩
  · rintro ⟨joined, content⟩
    rw [← content]
    exact joined.eq_join

theorem compile_eq_ok_iff {text : String} {q : Pattern} :
    compile text = .ok q ↔ q.text = text ∧
      ∃ pieces, pieces? text.toList = some pieces ∧ q.items = itemsOf pieces := by
  obtain ⟨t, items⟩ := q
  unfold compile
  split <;> rename_i cut
  · simp only [Except.ok.injEq, Pattern.mk.injEq, cut, Option.some.injEq, exists_eq_left']
    exact and_congr eq_comm eq_comm
  · simp [cut]

theorem compile_eq_error_iff {text : String} {e : PatternError} :
    compile text = .error e ↔ e = ⟨text⟩ ∧ pieces? text.toList = none := by
  unfold compile
  split <;> rename_i cut <;> simp [cut, eq_comm]

end QueryResult.Pattern
