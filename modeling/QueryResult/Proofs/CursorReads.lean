import QueryResult.Proofs.NullTracking

/-!
# Looking at a cursor

Most requests only look: they read a column or ask for something else that the cursor knows, or they
are refused. Such a request leaves everything about the cursor as it was but for the null flag, and
the flag too unless it reaches a token. What a request is answered depends only on the place of the
cursor (`SamePlace.answer`), which no such request changes, so that of a list of them each gets the
answer that it would get alone: their order does not matter, and to repeat one changes nothing. The
main statement is `looking_leaves_cursor`.
-/

namespace QueryResult.Cursor
open QueryResult.Session

/-- That a request leaves the cursor on its row. -/
def Request.Stays (r : Request) : Prop :=
  r ≠ .advance ∧ r ≠ .close

theorem Request.stays_of_looks {r : Request} (looks : r.looks = true) : r.Stays := by
  constructor <;> rintro rfl <;> nomatch looks

/-! ## One request -/

/-- A request that looks without reading a column leaves no trace at all. -/
theorem step_of_looks_of_no_accessor (c : Cursor) {r : Request} (looks : r.looks = true)
    (reads : r.accessor? = none) : (c.step r).2 = c := by
  cases r with
  | advance => nomatch looks
  | close => nomatch looks
  | setFetchSize rows => nomatch looks
  | read a index => nomatch reads
  | readNamed a name => nomatch reads
  | _ => rfl

/-- Only an open cursor takes a fetch size. -/
theorem step_setFetchSize_of_error {c : Cursor} {rows : Nat} {e : ReadError}
    (fails : (c.step (.setFetchSize rows)).1 = .error e) : (c.step (.setFetchSize rows)).2 = c := by
  by_cases closed : c.phase = .closed
  · exact if_pos closed
  · simp [step, ifNotClosed, closed] at fails

/-- A failed request that reached no token leaves the cursor as it was. -/
theorem Delivered.step_of_error {relation : Relation} {supply : Supply} {c : Cursor}
    {rows : List Row} (h : Delivered relation supply c rows) {r : Request} {e : ReadError}
    (advance : r ≠ .advance) (fails : (c.step r).1 = .error e) (missing : c.reached? r = none) :
    (c.step r).2 = c := by
  cases r with
  | advance => exact absurd rfl advance
  | close => nomatch fails
  | setFetchSize rows => exact step_setFetchSize_of_error fails
  | read a index => exact h.read_of_missing a missing
  | readNamed a name => exact h.readNamed_of_missing a missing
  | _ => rfl

/-! ## The place of a cursor -/

namespace SamePlace

variable {c d : Cursor} (same : SamePlace c d)
include same

theorem ifNotClosed {α : Type} (answer : Except ReadError α) :
    d.ifNotClosed answer = c.ifNotClosed answer := by
  rw [Cursor.ifNotClosed, Cursor.ifNotClosed, same.phase]

theorem findColumn (name : String) : d.findColumn name = c.findColumn name := by
  rw [Cursor.findColumn, Cursor.findColumn, same.relation, same.ifNotClosed]

theorem slot (index : Nat) : d.slot index = c.slot index := by
  rw [Cursor.slot, Cursor.slot, Cursor.column?, Cursor.column?, same.relation, same.row,
    same.ifNotClosed]

theorem read (a : Accessor) (index : Nat) : (d.read a index).1 = (c.read a index).1 := by
  rw [Cursor.read, Cursor.read, same.slot, same.context]
  cases c.slot index <;> rfl

theorem readNamed (a : Accessor) (name : String) :
    (d.readNamed a name).1 = (c.readNamed a name).1 := by
  rw [Cursor.readNamed, Cursor.readNamed, same.findColumn]
  cases c.findColumn name with
  | error e => rfl
  | ok index => exact same.read a index

theorem advance : d.advance.1 = c.advance.1 := by
  rw [Cursor.advance, Cursor.advance, same.phase, same.supply]
  cases c.phase with
  | closed => rfl
  | exhausted => rfl
  | ready =>
    cases answer : c.supply.next.1 with
    | none => simp only [answer, deliver]
    | some row =>
      simp only [answer, deliver, same.relation]
      split <;> rfl

/-- The answer to a request depends on the place of the cursor alone. -/
theorem answer (r : Request) : (d.step r).1 = (c.step r).1 := by
  cases r with
  | advance => exact congrArg (Except.map Reply.flag) same.advance
  | close => rfl
  | relation =>
    show d.ifNotClosed (.ok (Reply.relation d.relation)) =
      c.ifNotClosed (.ok (Reply.relation c.relation))
    rw [same.relation, same.ifNotClosed]
  | context => exact congrArg (fun cx => Except.ok (Reply.context cx)) same.context
  | findColumn name => exact congrArg (Except.map Reply.index) (same.findColumn name)
  | fetchDirection => rfl
  | setFetchDirection direction => exact same.ifNotClosed _
  | setFetchSize rows => exact same.ifNotClosed _
  | warnings => exact same.ifNotClosed _
  | clearWarnings => rfl
  | read a index => exact congrArg (Except.map Reply.reading) (same.read a index)
  | readNamed a name => exact congrArg (Except.map Reply.reading) (same.readNamed a name)
  | refused r => rfl

end SamePlace

/-! ## Lists of requests -/

/-- Of requests that stay on a row, each gets the answer that it would get alone. -/
theorem answers_of_stays (c : Cursor) (calls : List Request) (stay : ∀ r ∈ calls, r.Stays) :
    (c.answers calls).map Prod.fst = calls.map fun r => (c.step r).1 := by
  induction calls generalizing c with
  | nil => rfl
  | cons r rest ih =>
    obtain ⟨first, others⟩ := List.forall_mem_cons.1 stay
    have same : SamePlace c (c.step r).2 := samePlace_step c first.1 first.2
    rw [answers, List.map_cons, List.map_cons, ih (c.step r).2 others]
    congr 1
    exact List.map_congr_left fun q _ => same.answer q

/-- The answer to a call does not depend on where it stands in a list of calls, nor on the others. -/
theorem getElem?_answers_of_stays (c : Cursor) {calls calls' : List Request}
    (stay : ∀ r ∈ calls, r.Stays) (stay' : ∀ r ∈ calls', r.Stays) {i j : Nat}
    (same : calls[i]? = calls'[j]?) :
    ((c.answers calls)[i]?).map Prod.fst = ((c.answers calls')[j]?).map Prod.fst := by
  rw [← List.getElem?_map, ← List.getElem?_map, answers_of_stays c calls stay,
    answers_of_stays c calls' stay', List.getElem?_map, List.getElem?_map, same]

theorem run_of_looks (c : Cursor) (calls : List Request) (look : ∀ r ∈ calls, r.looks = true) :
    c.run calls = { c with wasNull := (c.run calls).wasNull } := by
  induction calls generalizing c with
  | nil => rfl
  | cons r rest ih =>
    obtain ⟨first, others⟩ := List.forall_mem_cons.1 look
    calc c.run (r :: rest)
        = (c.step r).2.run rest := run_cons c r rest
      _ = { (c.step r).2 with wasNull := ((c.step r).2.run rest).wasNull } := ih _ others
      _ = { c with wasNull := ((c.step r).2.run rest).wasNull } := by rw [step_of_looks c first]

/-- That a cursor is as before after it has been looked at. -/
structure Undisturbed (c : Cursor) : Prop where
  /-- A request that looks leaves all but the null flag as it was, whatever its answer. -/
  frame : ∀ r, r.looks = true → (c.step r).2 = { c with wasNull := (c.step r).2.wasNull }
  /-- The flag is left too, unless a column is read. -/
  idle : ∀ r, r.looks = true → r.accessor? = none → (c.step r).2 = c
  /-- Any request but one to advance that fails before it reaches a token changes nothing. -/
  failed : ∀ r e, r ≠ .advance → (c.step r).1 = .error e → c.reached? r = none →
    (c.step r).2 = c
  /-- Requests that stay on the row get the answers that they would get alone. -/
  alone : ∀ calls, (∀ r ∈ calls, r.Stays) →
    (c.answers calls).map Prod.fst = calls.map fun r => (c.step r).1
  /-- So neither their order nor that one is repeated matters to any of them. -/
  anyOrder : ∀ calls calls', (∀ r ∈ calls, r.Stays) → (∀ r ∈ calls', r.Stays) →
    ∀ i j : Nat, calls[i]? = calls'[j]? →
      ((c.answers calls)[i]?).map Prod.fst = ((c.answers calls')[j]?).map Prod.fst
  /-- All reading of a column is a matter of such requests. -/
  accessors : ∀ (r : Request) a, r.accessor? = some a → r.looks = true ∧ r.Stays
  /-- What is left of any number of looks is whether the last token reached was a null. -/
  left : ∀ calls, (∀ r ∈ calls, r.looks = true) → c.run calls =
    { c with wasNull := (c.tokensReached calls).getLast?.elim c.wasNull Option.isNone }

/-- **Looking at a cursor leaves it as it was**, wherever a walk has led. -/
theorem looking_leaves_cursor (relation : Relation) (context : Context) (supply : Supply)
    (requests : List Request) : Undisturbed ((start relation context supply).run requests) := by
  have h := (Delivered.start relation context supply).run requests
  constructor
  case frame => exact fun r looks => step_of_looks _ looks
  case idle => exact fun r looks reads => step_of_looks_of_no_accessor _ looks reads
  case failed => exact fun r e advance fails missing => h.step_of_error advance fails missing
  case alone => exact fun calls stay => answers_of_stays _ calls stay
  case anyOrder =>
    exact fun calls calls' stay stay' i j same => getElem?_answers_of_stays _ stay stay' same
  case accessors =>
    intro r a reads
    have looks : r.looks = true := by
      cases r with
      | read a index => rfl
      | readNamed a name => rfl
      | _ => nomatch reads
    exact ⟨looks, Request.stays_of_looks looks⟩
  case left =>
    intro calls look
    rw [run_of_looks _ calls look, h.wasNull_run calls]

end QueryResult.Cursor
