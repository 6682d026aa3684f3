import QueryResult.Cursor.Accessor

/-!
# Cursors

A cursor walks the rows of a result forwards and holds one of them at a time. It asks its supply for
a row only when it is told to advance, and never again once the supply has reported that there are
no more rows or the cursor has been closed.

Columns are read from the current row by an index, which counts from 1, or by a name. After a read
`wasNull` tells whether the column held a null; a request that reaches no column leaves it alone.

`step` answers one request and gives the cursor that is left; `run` does so for a list of them.
-/

namespace QueryResult
open QueryResult.Session

namespace Cursor

/-- A row as the server delivers it: a token for each column, or none for a null. -/
abbrev Row := List (Option String)

/-- Where rows come from. -/
structure Supply where
  /-- The answers to come. One that is no row reports that there are no more rows; so does the end
  of the list. -/
  answers : List (Option Row)
  /-- How often the supply was asked. -/
  polls : Nat := 0
deriving DecidableEq

/-- Asks for a row. -/
def Supply.next (s : Supply) : Option Row × Supply :=
  (s.answers.head?.join, ⟨s.answers.tail, s.polls + 1⟩)

/-- How far a cursor has come. -/
inductive Phase where
  | ready
  /-- The supply has reported that there are no more rows. -/
  | exhausted
  | closed
deriving DecidableEq

end Cursor

open QueryResult.Cursor

/-- A walk over the rows of a result. -/
structure Cursor where
  supply : Supply
  relation : Relation
  context : Context
  phase : Phase := .ready
  /-- The current row. -/
  row : Option Row := none
  /-- The number of rows that have been current. -/
  delivered : Nat := 0
  /-- Whether the column that was read last held a null. -/
  wasNull : Bool := false
  /-- The fetch size that was asked for, which has no effect. -/
  fetchSize : Nat := 0
deriving DecidableEq

namespace Cursor

/-- A cursor before its first row. -/
def start (relation : Relation) (context : Context) (supply : Supply) : Cursor :=
  { supply, relation, context }

/-- The number of the current row, counted from 1; 0 without one. -/
def rowNumber (c : Cursor) : Nat :=
  if c.row.isSome then c.delivered else 0

/-- Whether the current row is the first one. -/
def isFirst (c : Cursor) : Bool := c.rowNumber == 1

/-- Whether the cursor has been closed. -/
def isClosed (c : Cursor) : Bool := c.phase == .closed

/-- An answer that only a cursor gives that has not been closed. -/
def ifNotClosed {α : Type} (c : Cursor) (answer : Except ReadError α) : Except ReadError α :=
  if c.phase = .closed then .error (.state .closed) else answer

/-- What a cursor does with the answer of its supply. -/
def deliver (c : Cursor) : Option Row → Except ReadError Bool × Cursor
  | none => (.ok false, { c with phase := .exhausted, row := none })
  | some row =>
    if row.length = c.relation.arity then
      (.ok true, { c with row := some row, delivered := c.delivered + 1 })
    else (.error (.state (.rowWidth row.length c.relation.arity)), { c with row := none })

/-- Moves to the next row and tells whether there is one. -/
def advance (c : Cursor) : Except ReadError Bool × Cursor :=
  match c.phase with
  | .closed => (.error (.state .closed), { c with row := none })
  | .exhausted => (.ok false, { c with row := none })
  | .ready =>
    let (row, supply) := c.supply.next
    { c with supply }.deliver row

/-- Lets go of the current row and the columns. -/
def close (c : Cursor) : Cursor :=
  if c.phase = .closed then c
  else { c with phase := .closed, row := none, relation := .empty }

/-- The index of the column that a name refers to, counted from 1. -/
def findColumn (c : Cursor) (name : String) : Except ReadError Nat :=
  c.ifNotClosed <|
    match c.relation.find? name with
    | some i => .ok (i + 1)
    | none => .error (.columnNotFound name)

/-- The column at an index, counted from 1. -/
def column? (c : Cursor) (index : Nat) : Option Column :=
  if index = 0 then none else c.relation.columns[index - 1]?

/-- The column at an index and its token in the current row. -/
def slot (c : Cursor) (index : Nat) : Except ReadError (Column × Option String) :=
  c.ifNotClosed <|
    match c.row with
    | none => .error (.state .noRow)
    | some row =>
      match c.column? index with
      | none => .error (.columnIndexOutOfRange index c.relation.arity)
      | some column => .ok (column, row[index - 1]?.join)

/-- Reads the column at an index. A decoding error gets the index. -/
def read (c : Cursor) (a : Accessor) (index : Nat) : Except ReadError Reading × Cursor :=
  match c.slot index with
  | .error e => (.error e, c)
  | .ok (column, token) =>
    ((a.readSlot token column.type c.context).mapError (ReadError.inColumn index),
      { c with wasNull := token.isNone })

/-- Reads the column that a name refers to. -/
def readNamed (c : Cursor) (a : Accessor) (name : String) : Except ReadError Reading × Cursor :=
  match c.findColumn name with
  | .error e => (.error e, c)
  | .ok index => c.read a index

/-- A request to a cursor. -/
inductive Request where
  | advance
  | close
  | relation
  | context
  | findColumn (name : String)
  | fetchDirection
  | setFetchDirection (d : FetchDirection)
  | setFetchSize (rows : Nat)
  | warnings
  | clearWarnings
  | read (a : Accessor) (index : Nat)
  | readNamed (a : Accessor) (name : String)
  | refused (r : RefusedRequest)
deriving DecidableEq

/-- The answer to a request. -/
inductive Reply where
  | done
  | flag (b : Bool)
  | index (n : Nat)
  | relation (r : Relation)
  | context (cx : Context)
  | direction (d : FetchDirection)
  | warnings (ws : List String)
  | reading (r : Reading)
deriving DecidableEq

/-- Accepts a direction; rows are fetched forwards only. -/
def acceptDirection : FetchDirection → Except ReadError Reply
  | .forward => .ok .done
  | d => .error (.unsupported (.direction d))

/-- Answers a request. -/
def step (c : Cursor) : Request → Except ReadError Reply × Cursor
  | .advance =>
    let (answer, c) := c.advance
    (answer.map .flag, c)
  | .close => (.ok .done, c.close)
  | .relation => (c.ifNotClosed (.ok (.relation c.relation)), c)
  | .context => (.ok (.context c.context), c)
  | .findColumn name => ((c.findColumn name).map .index, c)
  | .fetchDirection => (.ok (.direction .forward), c)
  | .setFetchDirection d => (c.ifNotClosed (acceptDirection d), c)
  | .setFetchSize rows =>
    (c.ifNotClosed (.ok .done), if c.phase = .closed then c else { c with fetchSize := rows })
  | .warnings => (c.ifNotClosed (.ok (.warnings [])), c)
  | .clearWarnings => (.ok .done, c)
  | .read a index =>
    let (answer, c) := c.read a index
    (answer.map .reading, c)
  | .readNamed a name =>
    let (answer, c) := c.readNamed a name
    (answer.map .reading, c)
  | .refused r => (.error (.unsupported (.request r)), c)

/-- The cursor that some requests leave. -/
def run (c : Cursor) (requests : List Request) : Cursor :=
  requests.foldl (fun c r => (c.step r).2) c

/-- The answers to some requests, each with the cursor that it leaves. -/
def answers (c : Cursor) : List Request → List (Except ReadError Reply × Cursor)
  | [] => []
  | r :: rest => c.step r :: (c.step r).2.answers rest

@[simp] theorem run_nil (c : Cursor) : c.run [] = c := rfl

@[simp] theorem run_cons (c : Cursor) (r : Request) (rs : List Request) :
    c.run (r :: rs) = (c.step r).2.run rs := rfl

theorem run_append (c : Cursor) (rs ss : List Request) :
    c.run (rs ++ ss) = (c.run rs).run ss := by
  simp [run]

end Cursor
end QueryResult
