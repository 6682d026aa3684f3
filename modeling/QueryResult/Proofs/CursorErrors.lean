import QueryResult.Cursor.Basic
import QueryResult.Proofs.DecodingErrors

/-!
# What the decoding errors of a cursor say

Whatever is asked of a cursor, an answer that is a decoding error names the column that was read,
counted from 1, and comes from a token of the current row (`read_eq_decoding`). The error carries
that token unless the token was read as a timestamp without an instant, and even then if the token
is what the timestamp is written as. The main statement is `decoding_error_blames_token`.
-/

namespace QueryResult.Cursor
open QueryResult.Value

/-! ## Answers without decoding errors -/

theorem eq_error_of_map {α β : Type} {answer : Except ReadError α} {f : α → β} {e : ReadError}
    (h : answer.map f = .error e) : answer = .error e := by
  cases answer with
  | ok a => nomatch h
  | error e' => exact congrArg Except.error (Except.error.inj h)

/-- Whether an answer is no decoding error. -/
def NotDecoding {α : Type} (answer : Except ReadError α) : Prop :=
  ∀ column source, answer ≠ .error (.decoding column source)

namespace NotDecoding

variable {α β : Type}

theorem ok (a : α) : NotDecoding (.ok a) := nofun

theorem map {answer : Except ReadError α} (h : NotDecoding answer) (f : α → β) :
    NotDecoding (answer.map f) :=
  fun column source failed => h column source (eq_error_of_map failed)

theorem ifNotClosed {answer : Except ReadError α} (h : NotDecoding answer) (c : Cursor) :
    NotDecoding (c.ifNotClosed answer) := by
  unfold Cursor.ifNotClosed
  split
  · nofun
  · exact h

end NotDecoding

theorem notDecoding_advance (c : Cursor) : NotDecoding c.advance.1 := by
  unfold advance
  split
  · nofun
  · nofun
  · simp only [deliver]
    split
    · nofun
    · split <;> nofun

theorem notDecoding_findColumn (c : Cursor) (name : String) : NotDecoding (c.findColumn name) := by
  refine .ifNotClosed ?_ c
  split <;> nofun

theorem notDecoding_slot (c : Cursor) (index : Nat) : NotDecoding (c.slot index) := by
  refine .ifNotClosed ?_ c
  split
  · nofun
  · split <;> nofun

theorem notDecoding_acceptDirection (d : FetchDirection) : NotDecoding (acceptDirection d) := by
  unfold acceptDirection
  split <;> nofun

/-! ## Reading a column -/

/-- A slot that holds a token is a slot of the current row. -/
theorem row_of_slot {c : Cursor} {index : Nat} {column : Column} {token : String}
    (h : c.slot index = .ok (column, some token)) :
    ∃ row, c.row = some row ∧ c.column? index = some column ∧
      row[index - 1]? = some (some token) := by
  unfold slot ifNotClosed at h
  split at h
  · nomatch h
  · split at h
    · nomatch h
    · rename_i row held
      split at h
      · nomatch h
      · rename_i found column_eq
        obtain ⟨rfl, token_eq⟩ := Prod.mk.inj (Except.ok.inj h)
        exact ⟨row, held, column_eq, Option.join_eq_some_iff.1 token_eq⟩

/-- The index is added to a decoding error that names no column. -/
theorem eq_decoding_of_inColumn {α : Type} {answer : Except ReadError α} {index : Nat}
    {column : Option Nat} {source : DecodeError}
    (h : answer.mapError (ReadError.inColumn index) = .error (.decoding column source)) :
    ∃ named, answer = .error (.decoding named source) ∧ column = named.or (some index) := by
  cases answer with
  | ok a => nomatch h
  | error e =>
    have renamed := Except.error.inj h
    unfold ReadError.inColumn at renamed
    split at renamed
    · cases renamed
      exact ⟨none, rfl, rfl⟩
    · rename_i unchanged
      subst renamed
      cases column with
      | none => exact absurd rfl (unchanged source)
      | some named => exact ⟨some named, rfl, rfl⟩

/-- The decoding error of a read names the column and blames the token of the current row. -/
theorem read_eq_decoding {c : Cursor} {a : Accessor} {index : Nat} {column : Option Nat}
    {source : DecodeError} (h : (c.read a index).1 = .error (.decoding column source)) :
    column = some index ∧ ∃ row col token, c.row = some row ∧ c.column? index = some col ∧
      row[index - 1]? = some (some token) ∧ Blame token col.type c.context source := by
  unfold read at h
  cases slot : c.slot index with
  | error e =>
    rw [slot] at h
    obtain rfl := Except.error.inj h
    exact absurd slot (c.notDecoding_slot index column source)
  | ok held =>
    obtain ⟨col, token⟩ := held
    rw [slot] at h
    obtain ⟨named, failed, rfl⟩ := eq_decoding_of_inColumn h
    cases token with
    | none => exact absurd failed (a.ofNull_ne_decoding named source)
    | some token =>
      obtain ⟨rfl, blame⟩ := a.blames_read named source failed
      obtain ⟨row, held, column_eq, token_eq⟩ := row_of_slot slot
      exact ⟨rfl, row, col, token, held, column_eq, token_eq, blame⟩

/-- Only the requests that read a column are answered by decoding errors. -/
theorem step_eq_decoding {c : Cursor} {r : Request} {column : Option Nat} {source : DecodeError}
    (h : (c.step r).1 = .error (.decoding column source)) :
    ∃ a index, (r = .read a index ∨ ∃ name, r = .readNamed a name ∧ c.findColumn name = .ok index) ∧
      (c.read a index).1 = .error (.decoding column source) := by
  cases r with
  | read a index => exact ⟨a, index, .inl rfl, eq_error_of_map h⟩
  | readNamed a name =>
    have failed : (c.readNamed a name).1 = .error (.decoding column source) := eq_error_of_map h
    unfold readNamed at failed
    cases found : c.findColumn name with
    | error e =>
      rw [found] at failed
      obtain rfl := Except.error.inj failed
      exact absurd found (c.notDecoding_findColumn name column source)
    | ok index =>
      rw [found] at failed
      exact ⟨a, index, .inr ⟨name, rfl, found⟩, failed⟩
  | advance => exact absurd h ((notDecoding_advance c).map _ column source)
  | close => nomatch h
  | relation => exact absurd h ((NotDecoding.ok _).ifNotClosed c column source)
  | context => nomatch h
  | findColumn name => exact absurd h ((notDecoding_findColumn c name).map _ column source)
  | fetchDirection => nomatch h
  | setFetchDirection d =>
    exact absurd h ((notDecoding_acceptDirection d).ifNotClosed c column source)
  | setFetchSize rows => exact absurd h ((NotDecoding.ok _).ifNotClosed c column source)
  | warnings => exact absurd h ((NotDecoding.ok _).ifNotClosed c column source)
  | clearWarnings => nomatch h
  | refused r => nomatch h


/-- Where a decoding error of a cursor comes from and what it says of the token there. -/
structure Blamed (c : Cursor) (r : Request) (index : Nat) (type : ColumnType) (token : String)
    (source : DecodeError) : Prop where
  /-- The request reads the column at the index. -/
  asked : ∃ a, r = .read a index ∨ ∃ name, r = .readNamed a name ∧ c.findColumn name = .ok index
  typed : (c.column? index).map Column.type = some type
  held : ∃ row, c.row = some row ∧ row[index - 1]? = some (some token)
  /-- The error has the token as it was sent, unless it is that of a token which was read as a
  timestamp that is written in another way. -/
  token_iff : source.token = token ↔ ∀ t, readTimestamp token type c.context = .ok t →
    source.kind = .timestamp → t.value.encode = token
  /-- Otherwise it has what the timestamp is written as, and the calendar does not reach that. -/
  rewritten : source.token ≠ token → ∃ t, readTimestamp token type c.context = .ok t ∧
    t.Unreached ∧ source = ⟨.timestamp, t.value.encode⟩

/-- **Decoding errors name the column and blame its token**, whatever the cursor has gone through and
whatever is asked of it. -/
theorem decoding_error_blames_token (c : Cursor) (r : Request) (column : Option Nat)
    (source : DecodeError) (h : (c.step r).1 = .error (.decoding column source)) :
    ∃ index type token, column = some index ∧ Blamed c r index type token source := by
  obtain ⟨a, index, asked, failed⟩ := step_eq_decoding h
  obtain ⟨rfl, row, col, token, held, column_eq, token_eq, blame⟩ := read_eq_decoding failed
  refine ⟨index, col.type, token, rfl, ⟨a, asked⟩, ?_, ⟨row, held, token_eq⟩, blame.token_eq_iff, ?_⟩
  · rw [column_eq]
    rfl
  · intro ne
    cases blame with
    | verbatim => exact absurd rfl ne
    | rewritten read unreached => exact ⟨_, read, unreached, rfl⟩

/-- A walk over one timestamp of whole seconds, in a column of milliseconds, that is beyond the
calendar. -/
def beyondCalendar : Cursor :=
  start ⟨[⟨"TS", ⟨.timestampNtz, 3, true⟩⟩]⟩ {} ⟨[some [some "99999999999999"]], 0⟩

theorem decoding_error_blames_token_beyondCalendar :
    ((beyondCalendar.run [.advance]).step (.read .instant 1)).1 =
        .error (.decoding (some 1) ⟨.timestamp, "99999999999999.000"⟩) ∧
      ∃ index type token, some 1 = some index ∧
        Blamed (beyondCalendar.run [.advance]) (.read .instant 1) index type token
          ⟨.timestamp, "99999999999999.000"⟩ :=
  ⟨rfl, decoding_error_blames_token _ _ _ _ rfl⟩

/-- Not every decoding error has the token as it was sent. -/
theorem not_forall_decoding_error_token_eq :
    ¬ ∀ (relation : Relation) (context : Session.Context) (supply : Supply)
      (requests : List Request) (a : Accessor) (index : Nat) (column : Option Nat)
      (source : DecodeError) (row : Row) (token : String),
      ((start relation context supply).run requests).row = some row →
      row[index - 1]? = some (some token) →
      (((start relation context supply).run requests).read a index).1 =
        .error (.decoding column source) → source.token = token := by
  intro h
  have same : "99999999999999.000" = "99999999999999" :=
    h _ _ _ [.advance] .instant 1 (some 1) ⟨.timestamp, "99999999999999.000"⟩ _ _
      (show (beyondCalendar.run [.advance]).row = some [some "99999999999999"] from rfl) rfl rfl
  exact absurd same (by decide)

end QueryResult.Cursor
