import QueryResult.Proofs.CursorDelivery

/-!
# The end of a walk

A cursor that has told that there are no more rows never holds one again and never asks its supply
again; until it is closed, it tells the same whenever it is told to advance (`Ended`). A cursor that
has been closed stays as it is, whatever is asked of it: no request changes it any more
(`run_of_shut`), and all that need an open cursor fail alike (`ClosedForGood`). The main statement,
`end_is_final`, says so of every cursor that a walk leads to.
-/

namespace QueryResult.Cursor
open QueryResult.Session

/-! ## Closed cursors -/

/-- A cursor that has been closed and let go of its row. -/
structure Shut (c : Cursor) : Prop where
  closed : c.phase = .closed
  row : c.row = none

section Shut

variable {c : Cursor} (shut : c.Shut)
include shut

/-- No request changes a closed cursor. -/
theorem step_of_shut (r : Request) : (c.step r).2 = c := by
  cases r with
  | advance =>
    show c.advance.2 = c
    rw [advance_of_closed shut.closed, ← shut.row]
  | close => exact close_of_closed shut.closed
  | read a index =>
    show (c.read a index).2 = c
    rw [read_of_slot_error a (slot_of_closed shut.closed)]
  | readNamed a name =>
    show (c.readNamed a name).2 = c
    rw [readNamed_of_error a (findColumn_of_closed shut.closed)]
  | setFetchSize rows =>
    simp [step, shut.closed]
  | relation => rfl
  | context => rfl
  | findColumn name => rfl
  | fetchDirection => rfl
  | setFetchDirection d => rfl
  | warnings => rfl
  | clearWarnings => rfl
  | refused r => rfl

theorem run_of_shut (rs : List Request) : c.run rs = c := by
  induction rs with
  | nil => rfl
  | cons r rest ih => rw [run_cons, step_of_shut shut, ih]

end Shut

/-- Whether a request is one for cursors that have not been closed. -/
def Request.needsOpen : Request → Bool
  | .advance | .read .. | .readNamed .. | .findColumn _ | .relation | .warnings
  | .setFetchSize _ | .setFetchDirection _ => true
  | .close | .context | .fetchDirection | .clearWarnings | .refused _ => false

/-- All of those fail alike once the cursor is closed. -/
theorem step_of_needsOpen {c : Cursor} (closed : c.phase = .closed) {r : Request}
    (needs : r.needsOpen = true) : (c.step r).1 = .error (.state .closed) := by
  cases r with
  | advance =>
    simp only [step, advance_of_closed closed]
    rfl
  | read a index =>
    simp only [step, read_of_slot_error a (slot_of_closed closed)]
    rfl
  | readNamed a name =>
    simp only [step, readNamed_of_error a (findColumn_of_closed closed)]
    rfl
  | findColumn name =>
    simp only [step, findColumn_of_closed closed]
    rfl
  | relation => exact if_pos closed
  | warnings => exact if_pos closed
  | setFetchSize rows => exact if_pos closed
  | setFetchDirection d => exact if_pos closed
  | _ => simp [Request.needsOpen] at needs

/-! ## Cursors without further rows -/

/-- A cursor that has stopped asking its supply. -/
structure Stopped (relation : Relation) (supply : Supply) (c : Cursor) : Prop where
  stopped : c.phase ≠ .ready
  row : c.row = none
  supply : c.supply = supply
  columns : c.phase ≠ .closed → c.relation = relation

namespace Stopped

variable {relation : Relation} {supply : Supply} {c : Cursor}

theorem advance (h : Stopped relation supply c) : Stopped relation supply c.advance.2 := by
  cases phase : c.phase with
  | ready => exact absurd phase h.stopped
  | closed =>
    rw [advance_of_closed phase]
    exact ⟨h.stopped, rfl, h.supply, h.columns⟩
  | exhausted =>
    rw [advance_of_exhausted phase]
    exact ⟨h.stopped, rfl, h.supply, h.columns⟩

theorem close (h : Stopped relation supply c) : Stopped relation supply c.close := by
  by_cases closed : c.phase = .closed
  · rw [close_of_closed closed]
    exact h
  · rw [close_of_not_closed closed]
    exact ⟨nofun, rfl, h.supply, fun open_ => absurd rfl open_⟩

theorem samePlace {d : Cursor} (h : Stopped relation supply c) (same : SamePlace c d) :
    Stopped relation supply d where
  stopped := by rw [same.phase]; exact h.stopped
  row := by rw [same.row]; exact h.row
  supply := by rw [same.supply]; exact h.supply
  columns := by rw [same.phase, same.relation]; exact h.columns

theorem step (h : Stopped relation supply c) (r : Request) :
    Stopped relation supply (c.step r).2 := by
  by_cases advance : r = .advance
  · subst advance
    exact h.advance
  · by_cases close : r = .close
    · subst close
      exact h.close
    · exact h.samePlace (samePlace_step c advance close)

theorem run (h : Stopped relation supply c) (rs : List Request) :
    Stopped relation supply (c.run rs) := by
  induction rs generalizing c with
  | nil => exact h
  | cons r rest ih => exact ih (h.step r)

theorem phase_advance (h : Stopped relation supply c) : c.advance.2.phase = c.phase := by
  cases phase : c.phase with
  | ready => exact absurd phase h.stopped
  | closed => rw [advance_of_closed phase, phase]
  | exhausted => rw [advance_of_exhausted phase, phase]

/-- Only to close changes how far a stopped cursor has come. -/
theorem phase_step (h : Stopped relation supply c) (r : Request) :
    (c.step r).2.phase = if r = .close then .closed else c.phase := by
  by_cases close : r = .close
  · subst close
    exact phase_close c
  · rw [if_neg close]
    by_cases advance : r = .advance
    · subst advance
      exact h.phase_advance
    · exact (samePlace_step c advance close).phase

theorem phase_run (h : Stopped relation supply c) (rs : List Request) :
    (c.run rs).phase = if .close ∈ rs then .closed else c.phase := by
  induction rs generalizing c with
  | nil => rfl
  | cons r rest ih =>
    rw [run_cons, ih (h.step r), h.phase_step r]
    by_cases close : r = .close
    · simp [close]
    · simp [close, Ne.symm close]

/-- Nothing can be read any more. -/
theorem slot_eq (h : Stopped relation supply c) (index : Nat) :
    c.slot index = .error (.state (if c.phase = .closed then .closed else .noRow)) := by
  by_cases closed : c.phase = .closed
  · rw [slot_of_closed closed, if_pos closed]
  · rw [slot_of_no_row closed h.row, if_neg closed]

theorem step_read (h : Stopped relation supply c) (a : Accessor) (index : Nat) :
    (c.step (.read a index)).1 =
      .error (.state (if c.phase = .closed then .closed else .noRow)) := by
  simp only [Cursor.step, read_of_slot_error a (h.slot_eq index)]
  rfl

/-- Nor by the name of a column, whether the cursor still knows it or not. -/
theorem step_readNamed (h : Stopped relation supply c) (a : Accessor) {name : String} {i : Nat}
    (found : relation.find? name = some i) :
    (c.step (.readNamed a name)).1 =
      .error (.state (if c.phase = .closed then .closed else .noRow)) := by
  by_cases closed : c.phase = .closed
  · rw [if_pos closed]
    exact step_of_needsOpen closed rfl
  · have known : c.findColumn name = .ok (i + 1) :=
      findColumn_of_found closed (by rw [h.columns closed]; exact found)
    have same : c.step (.readNamed a name) = c.step (.read a (i + 1)) := by
      simp only [Cursor.step, readNamed_of_found a known]
    rw [same]
    exact h.step_read a (i + 1)

end Stopped

/-- A cursor that tells that there are no more rows has stopped, and is not closed. -/
theorem stopped_of_ended {relation : Relation} {c : Cursor}
    (columns : c.phase ≠ .closed → c.relation = relation)
    (ended : (c.step .advance).1 = .ok (.flag false)) :
    (c.step .advance).2.phase = .exhausted ∧
      Stopped relation (c.step .advance).2.supply (c.step .advance).2 := by
  have answer : c.advance.1 = .ok false := by
    cases given : c.advance.1 with
    | error e => simp [step, given, Except.map] at ended
    | ok found => simpa [step, given, Except.map] using ended
  show c.advance.2.phase = .exhausted ∧ Stopped relation c.advance.2.supply c.advance.2
  cases phase : c.phase with
  | closed =>
    rw [advance_of_closed phase] at answer
    simp at answer
  | exhausted =>
    rw [advance_of_exhausted phase]
    exact ⟨phase, by simp [phase], rfl, rfl, columns⟩
  | ready =>
    cases given : c.supply.next.1 with
    | none =>
      rw [advance_of_none phase given]
      exact ⟨rfl, by simp, rfl, rfl, fun _ => columns (by simp [phase])⟩
    | some row =>
      by_cases width : row.length = c.relation.arity
      · rw [advance_of_row phase given width] at answer
        simp at answer
      · rw [advance_of_misfit phase given width] at answer
        simp at answer

/-! ## Finality -/

/-- What becomes of a cursor that has told that there are no more rows, when more is asked of it. -/
structure Ended (relation : Relation) (c : Cursor) (later : List Request) : Prop where
  /-- The supply is not asked again. -/
  supply : (c.run later).supply = c.supply
  row : (c.run later).row = none
  /-- No column can be read, by whatever index. -/
  read : ∀ a index, ((c.run later).step (.read a index)).1 =
    .error (.state (if .close ∈ later then .closed else .noRow))
  /-- Nor by the name of a column. -/
  readNamed : ∀ a name i, relation.find? name = some i →
    ((c.run later).step (.readNamed a name)).1 =
      .error (.state (if .close ∈ later then .closed else .noRow))
  /-- Until the cursor is closed, there are no more rows. -/
  advance : .close ∉ later → ((c.run later).step .advance).1 = .ok (.flag false)

/-- What becomes of a cursor that is closed. -/
structure ClosedForGood (c : Cursor) : Prop where
  /-- To close it again changes nothing, and nor does any other request. -/
  fixed : ∀ times later, (c.run (List.replicate (times + 1) .close)).run later = c.close
  isClosed : c.close.isClosed = true
  /-- The supply has not been asked. -/
  supply : c.close.supply = c.supply
  rowNumber : c.close.rowNumber = 0
  fetchSize : c.close.fetchSize = c.fetchSize
  wasNull : c.close.wasNull = c.wasNull
  /-- All requests for cursors that have not been closed fail alike. -/
  fails : ∀ r : Request, r.needsOpen = true → (c.close.step r).1 = .error (.state .closed)
  /-- Requests that are always refused still are, for their own reason. -/
  refuses : ∀ r, (c.close.step (.refused r)).1 = .error (.unsupported (.request r))

/-- That a cursor is done for good once its rows are exhausted, and once it is closed. -/
structure EndIsFinal (relation : Relation) (c : Cursor) : Prop where
  exhausted : (c.step .advance).1 = .ok (.flag false) →
    ∀ later, Ended relation (c.step .advance).2 later
  closed : c.ClosedForGood

theorem Stopped.ended {relation : Relation} {c : Cursor} (h : Stopped relation c.supply c)
    (exhausted : c.phase = .exhausted) (later : List Request) : Ended relation c later := by
  have after := h.run later
  have phase := h.phase_run later
  have closed_iff : (c.run later).phase = .closed ↔ .close ∈ later := by
    rw [phase, exhausted]
    split <;> simp_all
  constructor
  case supply => exact after.supply
  case row => exact after.row
  case read =>
    intro a index
    rw [after.step_read]
    simp only [closed_iff]
  case readNamed =>
    intro a name i found
    rw [after.step_readNamed a found]
    simp only [closed_iff]
  case advance =>
    intro open_
    rw [if_neg open_, exhausted] at phase
    simp only [Cursor.step, advance_of_exhausted phase]
    rfl

/-- A cursor whose row is gone if it is closed already is closed for good. -/
theorem closedForGood {c : Cursor} (row : c.phase = .closed → c.row = none) :
    c.ClosedForGood := by
  have shut : c.close.Shut := by
    by_cases closed : c.phase = .closed
    · rw [close_of_closed closed]
      exact ⟨closed, row closed⟩
    · rw [close_of_not_closed closed]
      exact ⟨rfl, rfl⟩
  obtain ⟨supply, wasNull, fetchSize⟩ := close_keeps c
  constructor
  case fixed =>
    intro times later
    rw [List.replicate_succ, run_cons]
    show (c.close.run _).run later = c.close
    rw [run_of_shut shut, run_of_shut shut]
  case isClosed => simp [isClosed, shut.closed]
  case supply => exact supply
  case rowNumber => simp [rowNumber, shut.row]
  case fetchSize => exact fetchSize
  case wasNull => exact wasNull
  case fails => exact fun r needs => step_of_needsOpen shut.closed needs
  case refuses => exact fun r => rfl

/-- **The end of a walk is final**, whatever has been asked of the cursor before and is asked after. -/
theorem end_is_final (relation : Relation) (context : Context) (supply : Supply)
    (requests : List Request) :
    EndIsFinal relation ((start relation context supply).run requests) := by
  have h := (Delivered.start relation context supply).run requests
  constructor
  case exhausted =>
    intro ended
    obtain ⟨phase, stopped⟩ := stopped_of_ended h.columns ended
    exact stopped.ended phase
  case closed =>
    apply closedForGood
    intro closed
    by_contra held
    obtain ⟨row, held⟩ := Option.ne_none_iff_exists'.1 held
    obtain ⟨ready, -, -⟩ := h.current row held
    rw [ready] at closed
    nomatch closed

/-- A supply that would go on giving rows is not asked for them. -/
example : ((start ⟨[⟨"A", ⟨.string, 0, true⟩⟩]⟩ {} ⟨[none, some [some "x"]], 0⟩).run
    [.advance, .advance, .read .string 1, .close, .advance, .setFetchSize 5]).supply =
      ⟨[some [some "x"]], 1⟩ := by rfl

end QueryResult.Cursor
