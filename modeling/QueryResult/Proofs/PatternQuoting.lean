import QueryResult.Pattern.Render
import QueryResult.Proofs.PatternCut

/-!
# Patterns around quoted text

No word of the pattern language has a quote in it. So what a pattern is cut into does not reach
across a quote that follows it (`Cut.append_quote`), and behind the quoted run cutting begins anew,
as at the start of a pattern. What is rendered is told by the text and the elements that the items
hold, whichever way the text is joined (`toList_render`). Together, two patterns with quoted text
between them render as the one, the text and the other. The main statement is
`quoting_is_transparent`. Without the quotes it would not hold: `HH` and `24` make up one element.
-/

namespace QueryResult.Pattern
open QueryResult.Text

/-! ## Elements in front of a quote -/

namespace Element

/-- A quote that follows takes no part in an element. -/
theorem begins_append_quote_iff {e : Element} {width : Nat} {cs rest : List Char} :
    Begins e width (cs ++ '"' :: rest) ↔ Begins e width cs := by
  constructor
  · intro begins
    have bare := begins.quote_not_mem
    have short : width ≤ cs.length := by
      by_contra long
      apply bare
      rw [List.take_append, List.take_of_length_le (by omega)]
      obtain ⟨k, more⟩ : ∃ k, width - cs.length = k + 1 := ⟨width - cs.length - 1, by omega⟩
      rw [more, List.take_succ_cons]
      simp
    obtain ⟨word, mem, length, same⟩ := begins
    rw [List.take_append_of_le_length short] at same
    exact ⟨word, mem, length, same⟩
  · intro begins
    have short := begins.le_length.2
    obtain ⟨word, mem, length, same⟩ := begins
    refine ⟨word, mem, length, ?_⟩
    rw [List.take_append_of_le_length short]
    exact same

theorem longest_append_quote_iff {e : Element} {width : Nat} {cs rest : List Char} :
    Longest e width (cs ++ '"' :: rest) ↔ Longest e width cs := by
  constructor
  · rintro ⟨begins, longest⟩
    refine ⟨begins_append_quote_iff.1 begins, ?_⟩
    intro e' width' begins'
    exact longest e' width' (begins_append_quote_iff.2 begins')
  · rintro ⟨begins, longest⟩
    refine ⟨begins_append_quote_iff.2 begins, ?_⟩
    intro e' width' begins'
    exact longest e' width' (begins_append_quote_iff.1 begins')

end Element

/-! ## Cutting across a quote -/

/-- A text in front of a quote is cut as it is alone. -/
theorem Cut.append_quote {front back : List Piece} {cs rest : List Char} (cut : Cut front cs)
    (behind : Cut back ('"' :: rest)) : Cut (front ++ back) (cs ++ '"' :: rest) := by
  induction cut with
  | done => exact behind
  | @quoted content tail pieces closed _ ih =>
    rw [List.cons_append, List.append_assoc, List.cons_append]
    exact .quoted closed ih
  | @element e word tail pieces longest _ ih =>
    rw [List.append_assoc]
    apply Cut.element _ ih
    rw [← List.append_assoc]
    exact Element.longest_append_quote_iff.2 longest
  | @plain c tail pieces bare nothing _ ih =>
    apply Cut.plain bare _ ih
    intro e width begins
    exact nothing e width (Element.begins_append_quote_iff.1 begins)

/-- Two texts with a quoted run between them are cut as they are alone. -/
theorem Cut.around_quoted {front back : List Piece} {cs ds content : List Char}
    (left : Cut front cs) (closed : '"' ∉ content) (right : Cut back ds) :
    Cut (front ++ .quoted content :: back) (cs ++ ('"' :: content ++ '"' :: ds)) :=
  left.append_quote (.quoted closed right)

/-! ## Rendering what is held -/

/-- What items hold, character by character, as text. -/
def symbolText (x : Shown) : Char ⊕ Element → List Char
  | .inl c => [c]
  | .inr e => e.render x

theorem flatMap_symbolText_map_inl (x : Shown) (text : List Char) :
    (text.map Sum.inl).flatMap (symbolText x) = text := by
  induction text with
  | nil => rfl
  | cons c text ih => simp [symbolText, ih]

theorem Item.render_eq_content (x : Shown) (item : Item) :
    item.render x = item.content.flatMap (symbolText x) := by
  cases item with
  | literal text => exact (flatMap_symbolText_map_inl x text).symm
  | element e => simp [Item.render, Item.content, symbolText]

/-- The text of a pattern is that of the characters and the elements it holds, in order. -/
theorem toList_render (p : Pattern) (x : Shown) :
    (p.render x).toList = (p.items.flatMap Item.content).flatMap (symbolText x) := by
  have items : Item.render x = fun item => item.content.flatMap (symbolText x) :=
    funext (Item.render_eq_content x)
  rw [render, String.toList_ofList, List.flatMap_assoc, items]

/-- What a pattern holds is what the pieces of its text hold. -/
theorem exists_cut_of_compile {text : String} {p : Pattern} (compiled : compile text = .ok p) :
    ∃ pieces, Cut pieces text.toList ∧
      p.items.flatMap Item.content = pieces.flatMap Piece.content := by
  obtain ⟨-, pieces, cut, items⟩ := compile_eq_ok_iff.1 compiled
  exact ⟨pieces, cut_of_pieces? cut, (eq_itemsOf_iff.1 items).2⟩

theorem compile_of_cut {text : String} {pieces : List Piece} (cut : Cut pieces text.toList) :
    compile text = .ok ⟨text, itemsOf pieces⟩ :=
  compile_eq_ok_iff.2 ⟨rfl, pieces, pieces?_of_cut cut, rfl⟩

/-! ## Quoted text between patterns -/

/-- **Quoting is transparent**: between two patterns, quoted text is copied as it is, and the
patterns render what they render alone. -/
theorem quoting_is_transparent {p q w : String} {left right : Pattern}
    (compiled : compile p = .ok left) (compiled' : compile q = .ok right) (bare : '"' ∉ w.toList) :
    ∃ whole, compile (p ++ "\"" ++ w ++ "\"" ++ q) = .ok whole ∧
      ∀ x : Shown, whole.render x = left.render x ++ w ++ right.render x := by
  obtain ⟨front, cut, holds⟩ := exists_cut_of_compile compiled
  obtain ⟨back, cut', holds'⟩ := exists_cut_of_compile compiled'
  have text : (p ++ "\"" ++ w ++ "\"" ++ q).toList =
      p.toList ++ ('"' :: w.toList ++ '"' :: q.toList) := by
    simp
  have around : Cut (front ++ .quoted w.toList :: back) (p ++ "\"" ++ w ++ "\"" ++ q).toList := by
    rw [text]
    exact cut.around_quoted bare cut'
  have content : (itemsOf (front ++ .quoted w.toList :: back)).flatMap Item.content =
      left.items.flatMap Item.content ++ (w.toList.map .inl ++
        right.items.flatMap Item.content) := by
    rw [(eq_itemsOf_iff.1 rfl).2, List.flatMap_append, List.flatMap_cons, holds, holds']
    rfl
  refine ⟨_, compile_of_cut around, fun x => String.toList_injective ?_⟩
  rw [toList_render, content, List.flatMap_append, List.flatMap_append, flatMap_symbolText_map_inl,
    String.toList_append, String.toList_append, toList_render, toList_render, List.append_assoc]

/-- Text that spells elements, between patterns that would make up others without the quotes. -/
theorem quoting_is_transparent_hours :
    compile "HH" = .ok ⟨"HH", [.element .hour12]⟩ ∧
      compile "24FF3" = .ok ⟨"24FF3", [.literal ['2', '4'], .element (.fraction (some 3))]⟩ ∧
      '"' ∉ "24:MI".toList ∧
      ∃ whole, compile ("HH" ++ "\"" ++ "24:MI" ++ "\"" ++ "24FF3") = .ok whole ∧
        ∀ x : Shown, whole.render x =
          render ⟨"HH", [.element .hour12]⟩ x ++ "24:MI" ++
            render ⟨"24FF3", [.literal ['2', '4'], .element (.fraction (some 3))]⟩ x := by
  have left : compile "HH" = .ok ⟨"HH", [.element .hour12]⟩ := by decide +kernel
  have right : compile "24FF3" =
      .ok ⟨"24FF3", [.literal ['2', '4'], .element (.fraction (some 3))]⟩ := by
    decide +kernel
  exact ⟨left, right, by decide, quoting_is_transparent left right (by decide)⟩

/-- Without the quotes an element may reach from one pattern into the next. -/
example : compile ("HH" ++ "24") = .ok ⟨"HH24", [.element .hour24]⟩ := by
  decide +kernel

end QueryResult.Pattern
