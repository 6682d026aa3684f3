import QueryResult.Cursor.Basic

/-!
# What a request does to a cursor

Of all requests only `advance` and `close` move a cursor. The others keep it where it is
(`samePlace_step`): one of them sets the fetch size, the rest change nothing but whether the last
column read was null (`step_of_looks`). What `advance` does is told by the phase and by the answer of
the supply, case by case; what a read does, by the column that its index or its name leads to.
-/

namespace QueryResult.Cursor
open QueryResult.Session

/-- Two cursors at the same place of the same walk. -/
structure SamePlace (c d : Cursor) : Prop where
  supply : d.supply = c.supply
  relation : d.relation = c.relation
  context : d.context = c.context
  phase : d.phase = c.phase
  row : d.row = c.row
  delivered : d.delivered = c.delivered

theorem SamePlace.refl (c : Cursor) : SamePlace c c :=
  ⟨rfl, rfl, rfl, rfl, rfl, rfl⟩

/-- Whether a request only looks at the cursor. All others move it, close it or set its fetch
size. -/
def Request.looks : Request → Bool
  | .advance | .close | .setFetchSize _ => false
  | .relation | .context | .findColumn _ | .fetchDirection | .setFetchDirection _ | .warnings
  | .clearWarnings | .read .. | .readNamed .. | .refused _ => true

theorem read_eq_wasNull (c : Cursor) (a : Accessor) (index : Nat) :
    (c.read a index).2 = { c with wasNull := (c.read a index).2.wasNull } := by
  unfold read
  split <;> rfl

theorem readNamed_eq_wasNull (c : Cursor) (a : Accessor) (name : String) :
    (c.readNamed a name).2 = { c with wasNull := (c.readNamed a name).2.wasNull } := by
  unfold readNamed
  split
  · rfl
  · exact read_eq_wasNull c a _

/-- A request that looks touches the null flag at most. -/
theorem step_of_looks (c : Cursor) {r : Request} (looks : r.looks = true) :
    (c.step r).2 = { c with wasNull := (c.step r).2.wasNull } := by
  cases r with
  | advance => nomatch looks
  | close => nomatch looks
  | setFetchSize rows => nomatch looks
  | read a index => exact read_eq_wasNull c a index
  | readNamed a name => exact readNamed_eq_wasNull c a name
  | _ => rfl

/-- Every request but those to advance and to close leaves the cursor where it is. -/
theorem samePlace_step (c : Cursor) {r : Request} (advance : r ≠ .advance) (close : r ≠ .close) :
    SamePlace c (c.step r).2 := by
  cases looks : r.looks with
  | true =>
    rw [step_of_looks c looks]
    exact ⟨rfl, rfl, rfl, rfl, rfl, rfl⟩
  | false =>
    cases r with
    | advance => exact absurd rfl advance
    | close => exact absurd rfl close
    | setFetchSize rows =>
      simp only [step]
      split
      · exact .refl c
      · exact ⟨rfl, rfl, rfl, rfl, rfl, rfl⟩
    | _ => nomatch looks

/-! ## Closing -/

theorem close_of_closed {c : Cursor} (closed : c.phase = .closed) : c.close = c :=
  if_pos closed

theorem close_of_not_closed {c : Cursor} (open_ : c.phase ≠ .closed) :
    c.close = { c with phase := .closed, row := none, relation := .empty } :=
  if_neg open_

theorem phase_close (c : Cursor) : c.close.phase = .closed := by
  by_cases closed : c.phase = .closed
  · rw [close_of_closed closed]
    exact closed
  · rw [close_of_not_closed closed]

/-- To close a cursor asks no supply and touches neither the null flag nor the fetch size. -/
theorem close_keeps (c : Cursor) : c.close.supply = c.supply ∧ c.close.wasNull = c.wasNull ∧
    c.close.fetchSize = c.fetchSize := by
  unfold close
  split <;> exact ⟨rfl, rfl, rfl⟩

/-! ## Advancing -/

theorem advance_of_closed {c : Cursor} (closed : c.phase = .closed) :
    c.advance = (.error (.state .closed), { c with row := none }) := by
  rw [advance, closed]

theorem advance_of_exhausted {c : Cursor} (exhausted : c.phase = .exhausted) :
    c.advance = (.ok false, { c with row := none }) := by
  rw [advance, exhausted]

section Ready

variable {c : Cursor} (ready : c.phase = .ready)
include ready

/-- The supply has no more rows. -/
theorem advance_of_none (answer : c.supply.next.1 = none) :
    c.advance =
      (.ok false, { c with supply := c.supply.next.2, phase := .exhausted, row := none }) := by
  rw [advance, ready]
  simp only [answer, deliver]

/-- The supply gives a row of the width of the relation. -/
theorem advance_of_row {row : Row} (answer : c.supply.next.1 = some row)
    (width : row.length = c.relation.arity) :
    c.advance = (.ok true, { c with
      supply := c.supply.next.2, row := some row, delivered := c.delivered + 1 }) := by
  rw [advance, ready]
  simp only [answer, deliver, if_pos width]

/-- The supply gives a row of another width. -/
theorem advance_of_misfit {row : Row} (answer : c.supply.next.1 = some row)
    (width : row.length ≠ c.relation.arity) :
    c.advance = (.error (.state (.rowWidth row.length c.relation.arity)),
      { c with supply := c.supply.next.2, row := none }) := by
  rw [advance, ready]
  simp only [answer, deliver, if_neg width]

end Ready

/-! ## Reading -/

section Reading

variable {c : Cursor} {index : Nat} {name : String}

theorem slot_of_closed (closed : c.phase = .closed) : c.slot index = .error (.state .closed) :=
  if_pos closed

theorem slot_of_no_row (open_ : c.phase ≠ .closed) (none : c.row = none) :
    c.slot index = .error (.state .noRow) := by
  simp [slot, ifNotClosed, open_, none]

theorem slot_of_out_of_range (open_ : c.phase ≠ .closed) {row : Row} (held : c.row = some row)
    (outside : index = 0 ∨ c.relation.arity < index) :
    c.slot index = .error (.columnIndexOutOfRange index c.relation.arity) := by
  have missing : c.column? index = none := by
    rcases outside with rfl | beyond
    · rfl
    · unfold Relation.arity at beyond
      unfold column?
      split
      · rfl
      · rw [List.getElem?_eq_none]
        omega
  simp [slot, ifNotClosed, open_, held, missing]

theorem read_of_slot_error (a : Accessor) {e : ReadError} (fails : c.slot index = .error e) :
    c.read a index = (.error e, c) := by
  rw [read, fails]

theorem findColumn_of_closed (closed : c.phase = .closed) :
    c.findColumn name = .error (.state .closed) :=
  if_pos closed

theorem findColumn_of_found (open_ : c.phase ≠ .closed) {i : Nat}
    (found : c.relation.find? name = some i) : c.findColumn name = .ok (i + 1) := by
  simp [findColumn, ifNotClosed, open_, found]

theorem findColumn_of_missing (open_ : c.phase ≠ .closed) (missing : c.relation.find? name = none) :
    c.findColumn name = .error (.columnNotFound name) := by
  simp [findColumn, ifNotClosed, open_, missing]

theorem readNamed_of_found (a : Accessor) {i : Nat} (found : c.findColumn name = .ok i) :
    c.readNamed a name = c.read a i := by
  rw [readNamed, found]

theorem readNamed_of_error (a : Accessor) {e : ReadError} (fails : c.findColumn name = .error e) :
    c.readNamed a name = (.error e, c) := by
  rw [readNamed, fails]

end Reading

end QueryResult.Cursor
