import QueryResult.Proofs.CursorDelivery

/-!
# The null flag of a cursor

A request reaches a column if it reads one that exists, by its index or by its name, while there is
a current row. `reached?` gives the token found there, and `tokensReached` collects the tokens that
some requests reach. The flag of a cursor is decided by the last of them, whatever came of decoding
it, and nothing else moves the flag. A null that is reached reads as zero, as false or as nothing;
only a representation in which no column is read has no answer for it. The main statement is
`null_flag_of_last_token`.
-/

namespace QueryResult.Cursor
open QueryResult.Session

/-! ## The tokens that are reached -/

/-- The token of the current row in the column of an index. -/
def tokenAt? (c : Cursor) (index : Nat) : Option (Option String) :=
  if 1 ≤ index ∧ index ≤ c.relation.arity then c.row.bind fun row => row[index - 1]? else none

/-- The token that a request reaches, if it reads a column that is there. -/
def reached? (c : Cursor) : Request → Option (Option String)
  | .read _ index => c.tokenAt? index
  | .readNamed _ name => (c.relation.find? name).bind fun i => c.tokenAt? (i + 1)
  | _ => none

/-- The tokens that some requests reach, in order. -/
def tokensReached (c : Cursor) : List Request → List (Option String)
  | [] => []
  | r :: rest => (c.reached? r).toList ++ (c.step r).2.tokensReached rest

/-- The accessor of a request that reads a column. -/
def Request.accessor? : Request → Option Accessor
  | .read a _ => some a
  | .readNamed a _ => some a
  | _ => none

/-- What a null reads as: false or zero where the answer is a boolean or a plain number, and
nothing elsewhere. -/
def Accessor.blank : Accessor → Reading
  | .boolean => .value (.bool false)
  | .short => .value (.short 0)
  | .int => .value (.int 0)
  | .long => .value (.long 0)
  | .float => .value (.float .zero)
  | .double => .value (.double .zero)
  | _ => .absent

theorem Accessor.ofNull_representation (as : Representation) :
    (Accessor.representation as).ofNull =
      if as.isSupported then .ok .absent else .error (.unsupported (.reading as)) :=
  rfl

/-- A null has no answer only in a representation that is not supported. -/
theorem Accessor.ofNull_eq_blank {a : Accessor}
    (supported : ∀ as, a = .representation as → as.isSupported = true) :
    a.ofNull = .ok a.blank := by
  cases a with
  | representation as =>
    rw [ofNull_representation, if_pos (supported as rfl)]
    rfl
  | _ => rfl

/-! ## One request -/

/-- Only requests that read a column reach a token. -/
theorem accessor?_of_reached {c : Cursor} {r : Request} {token : Option String}
    (there : c.reached? r = some token) : ∃ a, r.accessor? = some a := by
  cases r with
  | read a index => exact ⟨a, rfl⟩
  | readNamed a name => exact ⟨a, rfl⟩
  | _ => nomatch there

theorem wasNull_advance (c : Cursor) : c.advance.2.wasNull = c.wasNull := by
  cases phase : c.phase with
  | closed => rw [advance_of_closed phase]
  | exhausted => rw [advance_of_exhausted phase]
  | ready =>
    cases answer : c.supply.next.1 with
    | none => rw [advance_of_none phase answer]
    | some row =>
      by_cases width : row.length = c.relation.arity
      · rw [advance_of_row phase answer width]
      · rw [advance_of_misfit phase answer width]

namespace Delivered

variable {relation : Relation} {supply : Supply} {c : Cursor} {rows : List Row}

/-- There is a current row only while the columns are those of the walk. -/
theorem relation_of_row (h : Delivered relation supply c rows) {row : Row}
    (held : c.row = some row) : c.phase ≠ .closed ∧ c.relation = relation := by
  obtain ⟨ready, -, -⟩ := h.current row held
  have open_ : c.phase ≠ .closed := by simp [ready]
  exact ⟨open_, h.columns open_⟩

/-- A token that is reached is the one in the slot. -/
theorem slot_of_tokenAt? (h : Delivered relation supply c rows) {index : Nat}
    {token : Option String} (there : c.tokenAt? index = some token) :
    c.phase ≠ .closed ∧ ∃ column, c.slot index = .ok (column, token) := by
  unfold tokenAt? at there
  split at there
  · rename_i range
    obtain ⟨row, held, token_eq⟩ := Option.bind_eq_some_iff.1 there
    obtain ⟨open_, same⟩ := h.relation_of_row held
    rw [same] at range
    obtain ⟨column, token', slot, -, token_eq'⟩ := h.slot_of_row held range.1 range.2
    obtain rfl := Option.some.inj (token_eq.symm.trans token_eq')
    exact ⟨open_, column, slot⟩
  · nomatch there

/-- A column is reached exactly if there is a current row and the index is in range. -/
theorem tokenAt?_isSome_iff (h : Delivered relation supply c rows) (index : Nat) :
    (∃ token, c.tokenAt? index = some token) ↔
      c.row ≠ none ∧ 1 ≤ index ∧ index ≤ relation.arity := by
  cases held : c.row with
  | none => simp [tokenAt?, held]
  | some row =>
    obtain ⟨-, same⟩ := h.relation_of_row held
    obtain ⟨-, width, -⟩ := h.current row held
    by_cases range : 1 ≤ index ∧ index ≤ relation.arity
    · have inRow : index - 1 < row.length := by omega
      simp [tokenAt?, held, same, range, List.getElem?_eq_getElem inRow]
    · simp [tokenAt?, same, range]

/-- What cannot be reached cannot be read either. -/
theorem slot_of_tokenAt?_eq_none (h : Delivered relation supply c rows) {index : Nat}
    (missing : c.tokenAt? index = none) : ∃ e, c.slot index = .error e := by
  by_cases closed : c.phase = .closed
  · exact ⟨_, slot_of_closed closed⟩
  · cases held : c.row with
    | none => exact ⟨_, slot_of_no_row closed held⟩
    | some row =>
      obtain ⟨-, same⟩ := h.relation_of_row held
      refine ⟨_, slot_of_out_of_range closed held ?_⟩
      by_contra inside
      have range : 1 ≤ index ∧ index ≤ relation.arity := by
        rw [same] at inside
        omega
      obtain ⟨token, there⟩ := (h.tokenAt?_isSome_iff index).2 ⟨by simp [held], range⟩
      rw [missing] at there
      nomatch there

/-- A read that reaches a token answers by it and sets the flag by it. -/
theorem read_of_tokenAt? (h : Delivered relation supply c rows) (a : Accessor) {index : Nat}
    {token : Option String} (there : c.tokenAt? index = some token) :
    ∃ type : ColumnType, c.read a index =
      ((a.readSlot token type c.context).mapError (ReadError.inColumn index),
        { c with wasNull := token.isNone }) := by
  obtain ⟨-, column, slot⟩ := h.slot_of_tokenAt? there
  refine ⟨column.type, ?_⟩
  rw [read, slot]

/-- A read by name that reaches a token is the read by the index of the column. -/
theorem readNamed_of_reached (h : Delivered relation supply c rows) (a : Accessor) {name : String}
    {token : Option String} (there : c.reached? (.readNamed a name) = some token) :
    ∃ index, c.readNamed a name = c.read a index ∧ c.tokenAt? index = some token := by
  obtain ⟨i, found, there⟩ := Option.bind_eq_some_iff.1 there
  obtain ⟨open_, -⟩ := h.slot_of_tokenAt? there
  exact ⟨i + 1, readNamed_of_found a (findColumn_of_found open_ found), there⟩

/-- A request that reads and reaches a token comes down to the read of a slot. -/
theorem step_of_reached (h : Delivered relation supply c rows) {r : Request} {a : Accessor}
    (asks : r.accessor? = some a) {token : Option String} (there : c.reached? r = some token) :
    ∃ index type, c.step r =
      (((a.readSlot token type c.context).mapError (ReadError.inColumn index)).map .reading,
        { c with wasNull := token.isNone }) := by
  cases r with
  | read b index =>
    obtain rfl := Option.some.inj asks
    obtain ⟨type, read⟩ := h.read_of_tokenAt? b there
    refine ⟨index, type, ?_⟩
    simp only [Cursor.step, read]
  | readNamed b name =>
    obtain rfl := Option.some.inj asks
    obtain ⟨index, named, there⟩ := h.readNamed_of_reached b there
    obtain ⟨type, read⟩ := h.read_of_tokenAt? b there
    refine ⟨index, type, ?_⟩
    simp only [Cursor.step, named, read]
  | _ => simp [Request.accessor?] at asks

/-- A read that reaches nothing leaves the cursor alone. -/
theorem read_of_missing (h : Delivered relation supply c rows) (a : Accessor) {index : Nat}
    (missing : c.tokenAt? index = none) : (c.read a index).2 = c := by
  obtain ⟨e, fails⟩ := h.slot_of_tokenAt?_eq_none missing
  rw [read_of_slot_error a fails]

theorem readNamed_of_missing (h : Delivered relation supply c rows) (a : Accessor) {name : String}
    (missing : c.reached? (.readNamed a name) = none) : (c.readNamed a name).2 = c := by
  cases named : c.findColumn name with
  | error e => rw [readNamed_of_error a named]
  | ok index =>
    rw [readNamed_of_found a named]
    apply h.read_of_missing
    by_cases closed : c.phase = .closed
    · rw [findColumn_of_closed closed] at named
      nomatch named
    · cases found : c.relation.find? name with
      | none =>
        rw [findColumn_of_missing closed found] at named
        nomatch named
      | some i =>
        obtain rfl := Except.ok.inj ((findColumn_of_found closed found).symm.trans named)
        simpa [reached?, found] using missing

/-- The flag after a request: by the token reached, or as it was. -/
theorem wasNull_step (h : Delivered relation supply c rows) (r : Request) :
    (c.step r).2.wasNull = (c.reached? r).elim c.wasNull Option.isNone := by
  cases there : c.reached? r with
  | some token =>
    obtain ⟨a, asks⟩ := accessor?_of_reached there
    obtain ⟨index, type, step⟩ := h.step_of_reached asks there
    rw [step]
    rfl
  | none =>
    show (c.step r).2.wasNull = c.wasNull
    cases r with
    | read a index => exact congrArg wasNull (h.read_of_missing a there)
    | readNamed a name => exact congrArg wasNull (h.readNamed_of_missing a there)
    | advance => exact wasNull_advance c
    | close => exact (close_keeps c).2.1
    | setFetchSize rows =>
      simp only [Cursor.step]
      split <;> rfl
    | relation => rfl
    | context => rfl
    | findColumn name => rfl
    | fetchDirection => rfl
    | setFetchDirection d => rfl
    | warnings => rfl
    | clearWarnings => rfl
    | refused r => rfl

/-! ## Runs -/

/-- After a run the flag is that of the last token reached, or as it was if there is none. -/
theorem wasNull_run (h : Delivered relation supply c rows) (rs : List Request) :
    (c.run rs).wasNull = (c.tokensReached rs).getLast?.elim c.wasNull Option.isNone := by
  induction rs generalizing c rows with
  | nil => rfl
  | cons r rest ih =>
    -- What the rest of the run reaches comes behind what the first request does.
    rw [run_cons, ih (h.step r), h.wasNull_step r, tokensReached, List.getLast?_append]
    cases ((c.step r).2.tokensReached rest).getLast? with
    | some token => rfl
    | none => cases c.reached? r <;> rfl

end Delivered

/-- How the null flag of a cursor stands to the tokens that were reached so far, and what the next
request does to it. -/
structure NullFlag (relation : Relation) (c : Cursor) (tokens : List (Option String)) : Prop where
  /-- The flag tells whether the last token reached was a null, and is down if there was none. -/
  last : c.wasNull = tokens.getLast?.any Option.isNone
  /-- Whatever the answer, a request that reaches a token sets the flag by it. -/
  sets : ∀ r token, c.reached? r = some token → (c.step r).2.wasNull = token.isNone
  /-- All others leave it alone. -/
  keeps : ∀ r, c.reached? r = none → (c.step r).2.wasNull = c.wasNull
  /-- Only requests that read a column reach a token. -/
  reads : ∀ r, r.accessor? = none → c.reached? r = none
  /-- A read by an index does if there is a current row and the index is in range. -/
  index_iff : ∀ a index, (∃ token, c.reached? (.read a index) = some token) ↔
    c.row ≠ none ∧ 1 ≤ index ∧ index ≤ relation.arity
  /-- A read by a name does if there is a current row and a column goes by the name. -/
  name_iff : ∀ a name, (∃ token, c.reached? (.readNamed a name) = some token) ↔
    c.row ≠ none ∧ ∃ i, relation.find? name = some i
  /-- A null that is reached reads as zero, as false or as nothing, whatever the column. -/
  blank : ∀ r a, r.accessor? = some a → c.reached? r = some none →
    (∀ as, a = .representation as → as.isSupported = true) → (c.step r).1 = .ok (.reading a.blank)
  /-- Only a representation that is not supported has no answer, and the flag is up all the same. -/
  unsupported : ∀ r as, r.accessor? = some (.representation as) → c.reached? r = some none →
    as.isSupported = false →
      (c.step r).1 = .error (.unsupported (.reading as)) ∧ (c.step r).2.wasNull = true

namespace Delivered

variable {relation : Relation} {supply : Supply} {c : Cursor} {rows : List Row}

/-- A name reaches a column exactly if there is a current row and a column goes by it. -/
theorem reached?_readNamed_isSome_iff (h : Delivered relation supply c rows) (a : Accessor)
    (name : String) : (∃ token, c.reached? (.readNamed a name) = some token) ↔
      c.row ≠ none ∧ ∃ i, relation.find? name = some i := by
  constructor
  · rintro ⟨token, there⟩
    obtain ⟨i, found, there⟩ := Option.bind_eq_some_iff.1 there
    obtain ⟨held, -, -⟩ := (h.tokenAt?_isSome_iff (i + 1)).1 ⟨token, there⟩
    obtain ⟨row, row_eq⟩ := Option.ne_none_iff_exists'.1 held
    obtain ⟨-, same⟩ := h.relation_of_row row_eq
    exact ⟨held, i, same ▸ found⟩
  · rintro ⟨held, i, found⟩
    obtain ⟨row, row_eq⟩ := Option.ne_none_iff_exists'.1 held
    obtain ⟨-, same⟩ := h.relation_of_row row_eq
    have below := Relation.find?_lt found
    obtain ⟨token, there⟩ := (h.tokenAt?_isSome_iff (i + 1)).2 ⟨held, by omega, below⟩
    exact ⟨token, Option.bind_eq_some_iff.2 ⟨i, same ▸ found, there⟩⟩

/-- The answer to a request that reaches a null. -/
theorem step_of_null (h : Delivered relation supply c rows) {r : Request} {a : Accessor}
    (asks : r.accessor? = some a) (there : c.reached? r = some none) :
    ∃ index, (c.step r).1 = (a.ofNull.mapError (ReadError.inColumn index)).map .reading := by
  obtain ⟨index, type, step⟩ := h.step_of_reached asks there
  exact ⟨index, by rw [step]; rfl⟩

end Delivered

/-- **The null flag is that of the last token reached**, after every run. -/
theorem null_flag_of_last_token (relation : Relation) (context : Context) (supply : Supply)
    (requests : List Request) :
    NullFlag relation ((start relation context supply).run requests)
      ((start relation context supply).tokensReached requests) := by
  have begun := Delivered.start relation context supply
  have h := begun.run requests
  constructor
  case last =>
    rw [begun.wasNull_run requests]
    cases (tokensReached _ requests).getLast? <;> rfl
  case sets =>
    intro r token there
    rw [h.wasNull_step, there]
    rfl
  case keeps =>
    intro r missing
    rw [h.wasNull_step, missing]
    rfl
  case reads =>
    intro r asks
    cases there : reached? _ r with
    | none => rfl
    | some token =>
      obtain ⟨a, reads⟩ := accessor?_of_reached there
      rw [asks] at reads
      nomatch reads
  case index_iff => exact fun a index => h.tokenAt?_isSome_iff index
  case name_iff => exact fun a name => h.reached?_readNamed_isSome_iff a name
  case blank =>
    intro r a asks there supported
    obtain ⟨index, answer⟩ := h.step_of_null asks there
    rw [answer, Accessor.ofNull_eq_blank supported]
    rfl
  case unsupported =>
    intro r as asks there unsupported
    obtain ⟨index, answer⟩ := h.step_of_null asks there
    constructor
    · rw [answer, Accessor.ofNull_representation, unsupported]
      rfl
    · rw [h.wasNull_step, there]
      rfl

/-- The flag is up after a null, and a token that does not decode takes it down again. -/
example : ((start ⟨[⟨"A", ⟨.date, 0, true⟩⟩, ⟨"B", ⟨.date, 0, true⟩⟩]⟩ {}
      ⟨[some [none, some "x"]], 0⟩).answers
    [.advance, .read .date 1, .read .date 3, .readNamed .date "b"]).map (·.2.wasNull) =
      [false, true, true, false] := by rfl

end QueryResult.Cursor
