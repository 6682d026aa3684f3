import Mathlib.Data.List.ReduceOption
import QueryResult.Proofs.CursorStep

/-!
# The rows that a cursor delivers

`arrivals` collects the rows that some requests make current. After every run they are the answers
of the supply so far that are rows as wide as the relation, in the order of the answers, and the
row that is current, if there is one, is the last of them. `Delivered` says so of one cursor; every
request keeps it. The main statement, `rows_in_order`, reads off what a caller sees. A run asks for
finitely many answers, so that a list of them stands for any supply.
-/

namespace QueryResult.Cursor
open QueryResult.Session

/-! ## Supplies -/

namespace Supply

/-- The supply that is left after it was asked `polls` times. -/
def after (s : Supply) (polls : Nat) : Supply := ⟨s.answers.drop polls, s.polls + polls⟩

/-- The answers of a supply that is asked `polls` times. -/
def given (s : Supply) (polls : Nat) : List (Option Row) :=
  (List.range polls).map fun i => s.answers[i]?.join

theorem next_after (s : Supply) (polls : Nat) :
    (s.after polls).next = (s.answers[polls]?.join, s.after (polls + 1)) := by
  simp only [next, after, List.head?_drop, List.tail_drop, Nat.add_assoc]

theorem given_succ (s : Supply) (polls : Nat) :
    s.given (polls + 1) = s.given polls ++ [(s.after polls).next.1] := by
  rw [next_after, given, List.range_succ, List.map_append]
  rfl

end Supply

/-- The rows of a width among some answers. -/
def rowsOfWidth (width : Nat) (answers : List (Option Row)) : List Row :=
  answers.reduceOption.filter (·.length = width)

theorem rowsOfWidth_concat (width : Nat) (answers : List (Option Row)) (answer : Option Row) :
    rowsOfWidth width (answers ++ [answer]) =
      rowsOfWidth width answers ++ (answer.filter (·.length = width)).toList := by
  rw [rowsOfWidth, List.reduceOption_append, List.filter_append]
  cases answer with
  | none => rfl
  | some row => by_cases fits : row.length = width <;>
      simp [rowsOfWidth, fits, Option.filter_some]

/-! ## Arrivals -/

/-- The row that a request makes current, if it does. -/
def arrived (c : Cursor) (r : Request) : List Row :=
  if r = .advance then (c.step r).2.row.toList else []

/-- The rows that some requests make current, in order. -/
def arrivals (c : Cursor) : List Request → List Row
  | [] => []
  | r :: rest => c.arrived r ++ (c.step r).2.arrivals rest

theorem arrived_of_ne {c : Cursor} {r : Request} (ne : r ≠ .advance) : c.arrived r = [] :=
  if_neg ne

theorem arrived_advance (c : Cursor) : c.arrived .advance = c.advance.2.row.toList :=
  if_pos rfl

/-- What holds of a cursor that walks the rows of `supply`, when `rows` have been current. -/
structure Delivered (relation : Relation) (supply : Supply) (c : Cursor) (rows : List Row) : Prop
    where
  /-- The rows are those that fit among the answers so far. -/
  accounted : ∃ polls, c.supply = supply.after polls ∧
    rows = rowsOfWidth relation.arity (supply.given polls)
  columns : c.phase ≠ .closed → c.relation = relation
  counted : c.delivered = rows.length
  current : ∀ row, c.row = some row →
    c.phase = .ready ∧ row.length = relation.arity ∧ rows.getLast? = some row

namespace Delivered

variable {relation : Relation} {supply : Supply} {c : Cursor} {rows : List Row}

theorem start (relation : Relation) (context : Context) (supply : Supply) :
    Delivered relation supply (Cursor.start relation context supply) [] where
  accounted := ⟨0, rfl, rfl⟩
  columns _ := rfl
  counted := rfl
  current _ held := nomatch held

theorem samePlace {d : Cursor} (h : Delivered relation supply c rows) (same : SamePlace c d) :
    Delivered relation supply d rows where
  accounted := by rw [same.supply]; exact h.accounted
  columns := by rw [same.phase, same.relation]; exact h.columns
  counted := by rw [same.delivered]; exact h.counted
  current := by rw [same.row, same.phase]; exact h.current

/-- Nothing is lost when the current row is let go of. -/
theorem withoutRow (h : Delivered relation supply c rows) :
    Delivered relation supply { c with row := none } rows where
  accounted := h.accounted
  columns := h.columns
  counted := h.counted
  current _ held := nomatch held

theorem close (h : Delivered relation supply c rows) : Delivered relation supply c.close rows := by
  by_cases closed : c.phase = .closed
  · rw [close_of_closed closed]
    exact h
  · rw [close_of_not_closed closed]
    exact ⟨h.accounted, fun ne => absurd rfl ne, h.counted, fun _ held => nomatch held⟩

/-- The supply was asked once more, and its answer joins the account if it fits. -/
theorem accounted_next (h : Delivered relation supply c rows) :
    ∃ polls, c.supply.next.2 = supply.after polls ∧
      rows ++ (c.supply.next.1.filter (·.length = relation.arity)).toList =
        rowsOfWidth relation.arity (supply.given polls) := by
  obtain ⟨polls, left, rows_eq⟩ := h.accounted
  refine ⟨polls + 1, ?_, ?_⟩
  · rw [left, Supply.next_after]
  · rw [Supply.given_succ, rowsOfWidth_concat, left, rows_eq]

theorem advance (h : Delivered relation supply c rows) :
    Delivered relation supply c.advance.2 (rows ++ c.advance.2.row.toList) := by
  cases phase : c.phase with
  | closed =>
    rw [advance_of_closed phase, Option.toList_none, List.append_nil]
    exact h.withoutRow
  | exhausted =>
    rw [advance_of_exhausted phase, Option.toList_none, List.append_nil]
    exact h.withoutRow
  | ready =>
    have same : c.relation = relation := h.columns (by simp [phase])
    obtain ⟨polls, left, account⟩ := h.accounted_next
    cases answer : c.supply.next.1 with
    | none =>
      rw [answer, Option.filter_none, Option.toList_none, List.append_nil] at account
      rw [advance_of_none phase answer, Option.toList_none, List.append_nil]
      exact ⟨⟨polls, left, account⟩, fun _ => same, h.counted, fun _ held => nomatch held⟩
    | some row =>
      by_cases width : row.length = c.relation.arity
      · rw [answer, ← same, Option.filter_some, if_pos (decide_eq_true width)] at account
        rw [advance_of_row phase answer width]
        refine ⟨⟨polls, left, same ▸ account⟩, fun _ => same, ?_, ?_⟩
        · simp [h.counted]
        · rintro _ ⟨⟩
          exact ⟨phase, same ▸ width, List.getLast?_concat⟩
      · rw [answer, ← same, Option.filter_some, if_neg (by simpa using width), Option.toList_none,
          List.append_nil] at account
        rw [advance_of_misfit phase answer width, Option.toList_none, List.append_nil]
        exact ⟨⟨polls, left, same ▸ account⟩, fun _ => same, h.counted, fun _ held => nomatch held⟩

/-- Every request keeps the account. -/
theorem step (h : Delivered relation supply c rows) (r : Request) :
    Delivered relation supply (c.step r).2 (rows ++ c.arrived r) := by
  by_cases advance : r = .advance
  · subst advance
    rw [arrived_advance]
    exact h.advance
  · rw [arrived_of_ne advance, List.append_nil]
    by_cases close : r = .close
    · subst close
      exact h.close
    · exact h.samePlace (samePlace_step c advance close)

theorem run (h : Delivered relation supply c rows) (rs : List Request) :
    Delivered relation supply (c.run rs) (rows ++ c.arrivals rs) := by
  -- The rest of the walk starts from another cursor, with more rows behind it.
  induction rs generalizing c rows with
  | nil =>
    rw [arrivals, List.append_nil]
    exact h
  | cons r rest ih =>
    rw [run_cons, arrivals, ← List.append_assoc]
    exact ih (h.step r)

theorem rowNumber_of_row (h : Delivered relation supply c rows) {row : Row}
    (held : c.row = some row) : c.rowNumber = rows.length := by
  rw [rowNumber, held, Option.isSome_some, if_pos rfl, h.counted]

/-- Every column of the current row has its own token. -/
theorem slot_of_row (h : Delivered relation supply c rows) {row : Row} (held : c.row = some row)
    {index : Nat} (positive : 1 ≤ index) (within : index ≤ relation.arity) :
    ∃ column token, c.slot index = .ok (column, token) ∧
      relation.columns[index - 1]? = some column ∧ row[index - 1]? = some token := by
  obtain ⟨ready, width, -⟩ := h.current row held
  have notClosed : c.phase ≠ .closed := by simp [ready]
  have below : index - 1 < relation.columns.length := by
    unfold Relation.arity at within
    omega
  have inRow : index - 1 < row.length := by omega
  refine ⟨relation.columns[index - 1], row[index - 1], ?_, List.getElem?_eq_getElem below,
    List.getElem?_eq_getElem inRow⟩
  have column : c.column? index = some relation.columns[index - 1] := by
    rw [column?, if_neg (by omega), h.columns notClosed, List.getElem?_eq_getElem below]
  rw [slot, ifNotClosed, if_neg notClosed, held]
  simp only [column, List.getElem?_eq_getElem inRow, Option.join_some]

/-- The first row is current exactly while it is the only one that has been. -/
theorem isFirst_iff (h : Delivered relation supply c rows) :
    c.isFirst = true ↔ ∃ row, c.row = some row ∧ rows = [row] := by
  rw [isFirst, beq_iff_eq]
  constructor
  · intro one
    cases held : c.row with
    | none => simp [rowNumber, held] at one
    | some row =>
      rw [h.rowNumber_of_row held, List.length_eq_one_iff] at one
      obtain ⟨first, rfl⟩ := one
      obtain ⟨-, -, last⟩ := h.current row held
      obtain rfl : first = row := by simpa using last
      exact ⟨first, rfl, rfl⟩
  · rintro ⟨row, held, rfl⟩
    exact h.rowNumber_of_row held

end Delivered

/-! ## What a caller sees -/

/-- How a cursor in the middle of a walk stands to the supply and to the rows so far, and what the
next request does. -/
structure RowsInOrder (relation : Relation) (supply : Supply) (c : Cursor) (rows : List Row) : Prop
    where
  /-- To advance asks the supply once, unless the cursor is exhausted or closed; nothing else asks. -/
  asks : ∀ r, (c.step r).2.supply =
    if r = .advance ∧ c.phase = .ready then c.supply.next.2 else c.supply
  /-- Only to advance makes a row current. -/
  keeps : ∀ r, r ≠ .advance → (c.step r).2.row = c.row ∨ (c.step r).2.row = none
  finds_iff : c.phase = .ready → ((c.step .advance).1 = .ok (.flag true) ↔
    ∃ row, c.supply.next.1 = some row ∧ row.length = relation.arity)
  fails_iff : c.phase = .ready → ((∃ fault, (c.step .advance).1 = .error (.state fault)) ↔
    ∃ row, c.supply.next.1 = some row ∧ row.length ≠ relation.arity)
  /-- A row of another width leaves no row, counts for nothing, and the walk can go on. -/
  fails_softly : c.phase = .ready → ∀ row, c.supply.next.1 = some row →
    row.length ≠ relation.arity → (c.step .advance).2.row = none ∧
      (c.step .advance).2.delivered = c.delivered ∧ (c.step .advance).2.phase = .ready
  ends_iff : c.phase = .ready →
    ((c.step .advance).1 = .ok (.flag false) ↔ c.supply.next.1 = none)
  /-- The rows so far are the answers so far of the width of the relation. -/
  accounted : ∃ polls, c.supply = supply.after polls ∧
    rows = rowsOfWidth relation.arity (supply.given polls)
  current : ∀ row, c.row = some row → c.phase = .ready ∧ row.length = relation.arity ∧
    rows.getLast? = some row ∧ c.rowNumber = rows.length
  /-- Every index in range reaches a token of the current row. -/
  complete : ∀ row, c.row = some row → ∀ index, 1 ≤ index → index ≤ relation.arity →
    ∃ column token, c.slot index = .ok (column, token) ∧
      relation.columns[index - 1]? = some column ∧ row[index - 1]? = some token
  without : c.row = none → c.rowNumber = 0
  isFirst_iff : c.isFirst = true ↔ ∃ row, c.row = some row ∧ rows = [row]

theorem supply_step (c : Cursor) (r : Request) : (c.step r).2.supply =
    if r = .advance ∧ c.phase = .ready then c.supply.next.2 else c.supply := by
  by_cases advance : r = .advance
  · subst advance
    show c.advance.2.supply = _
    cases phase : c.phase with
    | closed => simp [advance_of_closed phase]
    | exhausted => simp [advance_of_exhausted phase]
    | ready =>
      rw [if_pos ⟨rfl, rfl⟩]
      cases answer : c.supply.next.1 with
      | none => rw [advance_of_none phase answer]
      | some row =>
        by_cases width : row.length = c.relation.arity
        · rw [advance_of_row phase answer width]
        · rw [advance_of_misfit phase answer width]
  · rw [if_neg fun h => advance h.1]
    by_cases close : r = .close
    · subst close
      show c.close.supply = _
      unfold Cursor.close
      split <;> rfl
    · exact (samePlace_step c advance close).supply

theorem row_step_of_ne (c : Cursor) {r : Request} (advance : r ≠ .advance) :
    (c.step r).2.row = c.row ∨ (c.step r).2.row = none := by
  by_cases close : r = .close
  · subst close
    show c.close.row = _ ∨ c.close.row = _
    unfold Cursor.close
    split
    · exact .inl rfl
    · exact .inr rfl
  · exact .inl (samePlace_step c advance close).row

/-- What comes of advancing a cursor whose supply may have rows. -/
inductive Advance (c : Cursor) : Prop where
  | ended (answer : c.supply.next.1 = none) (reply : (c.step .advance).1 = .ok (.flag false))
  | found (row : Row) (answer : c.supply.next.1 = some row)
      (width : row.length = c.relation.arity) (reply : (c.step .advance).1 = .ok (.flag true))
  | failed (row : Row) (answer : c.supply.next.1 = some row)
      (width : row.length ≠ c.relation.arity) (fault : StateFault)
      (reply : (c.step .advance).1 = .error (.state fault))
      (left : (c.step .advance).2.row = none ∧ (c.step .advance).2.delivered = c.delivered ∧
        (c.step .advance).2.phase = .ready)

theorem advance_of_ready {c : Cursor} (ready : c.phase = .ready) : Advance c := by
  cases answer : c.supply.next.1 with
  | none =>
    refine .ended answer ?_
    rw [step, advance_of_none ready answer]
    rfl
  | some row =>
    by_cases width : row.length = c.relation.arity
    · refine .found row answer width ?_
      rw [step, advance_of_row ready answer width]
      rfl
    · refine .failed row answer width (.rowWidth row.length c.relation.arity) ?_ ?_ <;>
        rw [step, advance_of_misfit ready answer width]
      · rfl
      · exact ⟨rfl, rfl, ready⟩

theorem Delivered.rowsInOrder {relation : Relation} {supply : Supply} {c : Cursor} {rows : List Row}
    (h : Delivered relation supply c rows) : RowsInOrder relation supply c rows where
  asks := supply_step c
  keeps _ ne := row_step_of_ne c ne
  finds_iff ready := by
    rw [← h.columns (by simp [ready])]
    cases advance_of_ready ready with
    | ended answer reply => simp [answer, reply]
    | found row answer width reply => simp [answer, reply, width]
    | failed row answer width fault reply => simp [answer, reply, width]
  fails_iff ready := by
    rw [← h.columns (by simp [ready])]
    cases advance_of_ready ready with
    | ended answer reply => simp [answer, reply]
    | found row answer width reply => simp [answer, reply, width]
    | failed row answer width fault reply => simp [answer, reply, width]
  fails_softly ready row answer misfit := by
    rw [← h.columns (by simp [ready])] at misfit
    cases advance_of_ready ready with
    | ended noAnswer _ => exact nomatch noAnswer.symm.trans answer
    | found _ found width _ =>
      obtain rfl := Option.some.inj (found.symm.trans answer)
      exact absurd width misfit
    | failed _ _ _ _ _ left => exact left
  ends_iff ready := by
    cases advance_of_ready ready with
    | ended answer reply => simp [answer, reply]
    | found row answer width reply => simp [answer, reply]
    | failed row answer width fault reply => simp [answer, reply]
  accounted := h.accounted
  current row held := by
    obtain ⟨ready, width, last⟩ := h.current row held
    exact ⟨ready, width, last, h.rowNumber_of_row held⟩
  complete _ held _ positive within := h.slot_of_row held positive within
  without held := by rw [rowNumber, held]; rfl
  isFirst_iff := h.isFirst_iff

/-- **Rows are delivered in order**, none is lost and none comes twice, whatever the supply answers
and whatever is asked of the cursor. -/
theorem rows_in_order (relation : Relation) (context : Context) (supply : Supply)
    (requests : List Request) :
    RowsInOrder relation supply ((start relation context supply).run requests)
      ((start relation context supply).arrivals requests) :=
  ((Delivered.start relation context supply).run requests).rowsInOrder

/-- A row that is too short does not end the walk. -/
example : (start ⟨[⟨"A", ⟨.string, 0, true⟩⟩]⟩ {}
    ⟨[some [some "x"], some [], some [none]], 0⟩).arrivals [.advance, .advance, .advance, .advance] =
      [[some "x"], [none]] := by rfl

end QueryResult.Cursor
