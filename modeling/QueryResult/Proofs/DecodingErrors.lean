import QueryResult.Cursor.Accessor

/-!
# What decoding errors say of the token

A decoding error that comes out of a read carries the token as it was sent, with one exception: the
calendar does not reach the instant of a timestamp. Then the token did decode, and the error shows
the value of the timestamp written out anew, at the scale of its column. `Blame` tells the two apart
and `Blames` says that every decoding error of an answer is one of them; each reader is shown to do
so, and from the readers every accessor.
-/

namespace QueryResult
open QueryResult.Calendar QueryResult.Number QueryResult.Session

namespace Timestamp

/-! ## Timestamps without an instant -/

/-- Whether a timestamp has no instant in the calendar, as it stands or as a clock in some zone. -/
def Unreached (t : Timestamp) : Prop :=
  t.instant = .error (.outOfRange t.value) ∨
    ∃ zone, t.reinterpretIn zone = .error (.outOfRange t.value)

theorem eq_value_of_instant {t : Timestamp} {v : FixedPoint}
    (h : t.instant = .error (.outOfRange v)) : v = t.value := by
  unfold instant at h
  split at h
  · nomatch h
  · split at h
    · nomatch h
    · cases h
      rfl

theorem eq_value_of_reinterpretIn {t : Timestamp} {zone : Zone} {v : FixedPoint}
    (h : t.reinterpretIn zone = .error (.outOfRange v)) : v = t.value := by
  unfold reinterpretIn utcClock at h
  cases found : t.instant with
  | error e =>
    rw [found] at h
    obtain rfl := Except.error.inj h
    exact eq_value_of_instant found
  | ok i =>
    rw [found] at h
    simp only [Except.map, bind, Except.bind] at h
    split at h
    · nomatch h
    · cases h
      rfl

/-- A clock reading is missing for the same reason as the instant. -/
theorem instant_of_zoned {t : Timestamp} {v : FixedPoint}
    (h : t.zoned = .error (.outOfRange v)) : t.instant = .error (.outOfRange v) := by
  unfold zoned at h
  cases found : t.instant with
  | error e =>
    rw [found] at h
    obtain rfl := Except.error.inj h
    rfl
  | ok i =>
    rw [found] at h
    simp only [bind, Except.bind] at h
    split at h <;> nomatch h

end Timestamp

namespace Value

/-! ## Blame -/

/-- What a decoding error says of the token that was read. -/
inductive Blame (token : String) (type : ColumnType) (cx : Context) : DecodeError → Prop where
  /-- The token as it was sent, which is no timestamp if the error says so. -/
  | verbatim {kind : TokenKind}
      (refused : ∀ t, readTimestamp token type cx = .ok t → kind ≠ .timestamp) :
      Blame token type cx ⟨kind, token⟩
  /-- The value of a timestamp without an instant. -/
  | rewritten {t : Timestamp} (read : readTimestamp token type cx = .ok t)
      (unreached : t.Unreached) : Blame token type cx ⟨.timestamp, t.value.encode⟩

/-- The token of an error is the one that was sent, unless that was read as a timestamp which is
written in another way. -/
theorem Blame.token_eq_iff {token : String} {type : ColumnType} {cx : Context} {source : DecodeError}
    (blame : Blame token type cx source) :
    source.token = token ↔ ∀ t, readTimestamp token type cx = .ok t →
      source.kind = .timestamp → t.value.encode = token := by
  cases blame with
  | verbatim refused => exact ⟨fun _ t read kind => absurd kind (refused t read), fun _ => rfl⟩
  | @rewritten t read unreached =>
    constructor
    · intro same u reread _
      obtain rfl := Except.ok.inj (read.symm.trans reread)
      exact same
    · intro h
      exact h t read rfl

/-- Whether every decoding error of an answer blames the token, and names no column so far. -/
def Blames (token : String) (type : ColumnType) (cx : Context) {α : Type}
    (answer : Except ReadError α) : Prop :=
  ∀ column source, answer = .error (.decoding column source) →
    column = none ∧ Blame token type cx source

section Readers

variable {token : String} {type : ColumnType} {cx : Context} {α β : Type}

namespace Blames

theorem ok (a : α) : Blames token type cx (.ok a) := nofun

/-- Only decoding errors count. -/
theorem other {e : ReadError} (kind : e.kind ≠ .decoding) :
    Blames token type cx (.error e : Except ReadError α) := by
  rintro column source ⟨⟩
  exact absurd rfl kind

theorem own {kind : TokenKind} (ne : kind ≠ .timestamp) :
    Blames token type cx (.error (.decoding none ⟨kind, token⟩) : Except ReadError α) := by
  rintro column source ⟨⟩
  exact ⟨rfl, .verbatim fun _ _ => ne⟩

theorem map {answer : Except ReadError α} (h : Blames token type cx answer) (f : α → β) :
    Blames token type cx (answer.map f) := by
  cases answer with
  | ok a => exact ok (f a)
  | error e =>
    rintro column source ⟨⟩
    exact h column source rfl

theorem bind {answer : Except ReadError α} {next : α → Except ReadError β}
    (h : Blames token type cx answer)
    (rest : ∀ a, answer = .ok a → Blames token type cx (next a)) :
    Blames token type cx (answer >>= next) := by
  cases answer with
  | ok a => exact rest a rfl
  | error e =>
    rintro column source ⟨⟩
    exact h column source rfl

theorem notRead (as : Representation) :
    Blames token type cx (notRead type as : Except ReadError α) :=
  other nofun

theorem configured (setting : Except ConfigurationFault α) :
    Blames token type cx (configured setting) := by
  cases setting with
  | ok a => exact ok a
  | error e => exact other nofun

theorem columnScale : Blames token type cx (columnScale type) := by
  unfold Value.columnScale
  split
  · exact ok _
  · exact other nofun

/-- A timestamp that has to have an instant. -/
theorem converted {t : Timestamp} (read : readTimestamp token type cx = .ok t)
    {result : Except TimestampError α}
    (unreached : ∀ v, result = .error (.outOfRange v) → v = t.value ∧ t.Unreached) :
    Blames token type cx (converted result) := by
  cases result with
  | ok a => exact ok a
  | error e =>
    cases e with
    | unresolvedZone => exact other nofun
    | outOfRange v =>
      obtain ⟨rfl, none_⟩ := unreached v rfl
      rintro column source ⟨⟩
      exact ⟨rfl, .rewritten read none_⟩

end Blames

/-! ## Readers -/

theorem blames_decimal : Blames token type cx (decoded (Decimal.decode token)) := by
  unfold Decimal.decode
  split
  · exact .ok _
  · exact .own nofun

theorem blames_binary : Blames token type cx (decoded (Binary.decode token)) := by
  unfold Binary.decode
  split
  · exact .ok _
  · exact .own nofun

theorem blames_date : Blames token type cx (decoded (Date.decode token)) := by
  unfold Date.decode
  split
  · exact .ok _
  · exact .own nofun

theorem blames_time (s : Scale) : Blames token type cx (decoded (TimeValue.decode token s)) := by
  unfold TimeValue.decode
  split
  · exact .ok _
  · exact .own nofun

theorem blames_readBoolean : Blames token type cx (readBoolean token type) := by
  unfold readBoolean
  split
  · exact .ok _
  · exact .notRead _

theorem blames_readInteger (bits : Nat) (kind : TokenKind) (ne : kind ≠ .timestamp)
    (as : Representation) : Blames token type cx (readInteger bits kind as token type) := by
  unfold readInteger
  split
  · split
    · exact .ok _
    · exact .own ne
  · exact .notRead as

theorem blames_readShort : Blames token type cx (readShort token type) :=
  blames_readInteger 16 .short nofun .short

theorem blames_readInt : Blames token type cx (readInt token type) :=
  blames_readInteger 32 .int nofun .int

theorem blames_readLong : Blames token type cx (readLong token type) :=
  blames_readInteger 64 .long nofun .long

theorem blames_readFloat : Blames token type cx (readFloat token type) := by
  unfold readFloat
  split
  · split
    · exact .ok _
    · exact .own nofun
  · exact .notRead _

theorem blames_readDouble : Blames token type cx (readDouble token type) := by
  unfold readDouble
  split
  · split
    · exact .ok _
    · exact .own nofun
  · exact .notRead _

theorem blames_readDecimal : Blames token type cx (readDecimal token type) := by
  unfold readDecimal
  split
  · exact blames_decimal
  · exact .notRead _

theorem blames_readDecimalAt (places : Nat) :
    Blames token type cx (readDecimalAt places token type) := by
  refine blames_readDecimal.bind fun d _ => ?_
  split
  · exact .ok _
  · exact .own nofun

theorem blames_readBytes : Blames token type cx (readBytes token type) := by
  unfold readBytes
  cases type.scalarType with
  | binary | string => exact blames_binary
  | _ => exact .notRead _

/-- The error of a token that is no timestamp is about timestamps, so that it is the failure to read
one that keeps the token in it. -/
theorem eq_of_readTimestamp_eq_error {column : Option Nat} {source : DecodeError}
    (h : readTimestamp token type cx = .error (.decoding column source)) :
    column = none ∧ source = ⟨.timestamp, token⟩ := by
  unfold readTimestamp at h
  -- A column of another type and a scale beyond nanoseconds fail otherwise, before the token counts.
  split at h
  · nomatch h
  · cases scale : columnScale type with
    | error e =>
      rw [scale] at h
      obtain rfl := Except.error.inj h
      unfold columnScale at scale
      split at scale <;> nomatch scale
    | ok s =>
      rw [scale] at h
      simp only [bind, Except.bind] at h
      unfold Timestamp.decode at h
      split at h
      · nomatch h
      · cases h
        exact ⟨rfl, rfl⟩

theorem blames_readTimestamp : Blames token type cx (readTimestamp token type cx) := by
  intro column source h
  obtain ⟨rfl, rfl⟩ := eq_of_readTimestamp_eq_error h
  exact ⟨rfl, .verbatim fun t read => nomatch h.symm.trans read⟩

theorem blames_instantOf {t : Timestamp} (read : readTimestamp token type cx = .ok t)
    (zone : Zone) : Blames token type cx (instantOf t type cx zone) := by
  unfold instantOf
  split
  · refine .converted read fun v h => ?_
    obtain rfl := Timestamp.eq_value_of_reinterpretIn h
    exact ⟨rfl, .inr ⟨zone, h⟩⟩
  · refine .converted read fun v h => ?_
    obtain rfl := Timestamp.eq_value_of_instant h
    exact ⟨rfl, .inl h⟩

theorem blames_readTimestampInstant (zone : Zone) :
    Blames token type cx (readTimestampInstant token type cx zone) :=
  blames_readTimestamp.bind fun _ read => blames_instantOf read zone

theorem blames_readTimestampClock (zone : Zone) :
    Blames token type cx (readTimestampClock token type cx zone) :=
  (blames_readTimestampInstant zone).map _

theorem blames_readDateFor (zone : Zone) :
    Blames token type cx (readDateFor zone token type cx) := by
  unfold readDateFor
  cases type.scalarType with
  | date => exact blames_date
  | timestampNtz | timestampLtz | timestampTz => exact (blames_readTimestampClock zone).map _
  | _ => exact .notRead _

theorem blames_readDateIn (zone : Zone) : Blames token type cx (readDateIn zone token type cx) := by
  refine (blames_readDateFor zone).bind fun d _ => ?_
  split
  · exact .ok _
  · exact .own nofun

theorem blames_readTimeValue : Blames token type cx (readTimeValue token type) := by
  unfold readTimeValue
  cases type.scalarType with
  | time => exact Blames.columnScale.bind fun s _ => blames_time s
  | _ => exact .notRead _

theorem blames_readTime : Blames token type cx (readTime token type cx) := by
  unfold readTime
  cases type.scalarType with
  | time => exact blames_readTimeValue.map _
  | timestampNtz | timestampLtz | timestampTz => exact (blames_readTimestampClock cx.zone).map _
  | _ => exact .notRead _

theorem blames_readInstantIn (zone : Zone) :
    Blames token type cx (readInstantIn zone token type cx) := by
  unfold readInstantIn
  cases type.scalarType with
  | timestampNtz | timestampLtz | timestampTz => exact blames_readTimestampInstant zone
  | date => exact (blames_readDateIn zone).map _
  | _ => exact .notRead _

theorem blames_readTimestampText (kind : TimestampKind) :
    Blames token type cx (readTimestampText kind token type cx) := by
  refine blames_readTimestamp.bind fun t read => (Blames.configured _).bind fun p _ => ?_
  refine .converted read fun v h => ?_
  unfold Pattern.formatTimestamp at h
  cases zoned : t.zoned with
  | ok z => rw [zoned] at h; nomatch h
  | error e =>
    rw [zoned] at h
    obtain rfl := Except.error.inj h
    have missing := Timestamp.instant_of_zoned zoned
    obtain rfl := Timestamp.eq_value_of_instant missing
    exact ⟨rfl, .inl missing⟩

theorem blames_readText : Blames token type cx (readText token type cx) := by
  unfold readText
  cases type.scalarType with
  | timestampNtz => exact blames_readTimestampText .ntz
  | timestampLtz => exact blames_readTimestampText .ltz
  | timestampTz => exact blames_readTimestampText .tz
  | date => exact (Blames.configured _).bind fun p _ => blames_date.bind fun d _ => .ok _
  | time =>
    exact (Blames.configured _).bind fun p _ => Blames.columnScale.bind fun s _ =>
      (blames_time s).bind fun t _ => .ok _
  | binary =>
    cases cx.binaryFormat with
    | hex => exact .ok _
    | base64 => exact blames_binary.map _
  | _ => exact .ok _

theorem blames_readObject : Blames token type cx (readObject token type cx) := by
  unfold readObject
  cases type.scalarType with
  | string => exact .ok _
  | boolean => exact blames_readBoolean.map _
  | smallInt | integer => exact blames_readInt.map _
  | bigInt => exact blames_readLong.map _
  | decimal => exact blames_readDecimal.map _
  | double => exact blames_readDouble.map _
  | binary => exact blames_readBytes.map _
  | date => exact (blames_readDateFor _).map _
  | time => exact blames_readTime.map _
  | timestampNtz | timestampLtz | timestampTz => exact (blames_readInstantIn _).map _

theorem blames_readAs (as : Representation) : Blames token type cx (readAs as token type cx) := by
  unfold readAs
  cases as with
  | string => exact blames_readText.map _
  | boolean => exact blames_readBoolean.map _
  | short => exact blames_readShort.map _
  | int => exact blames_readInt.map _
  | long => exact blames_readLong.map _
  | float => exact blames_readFloat.map _
  | double => exact blames_readDouble.map _
  | decimal => exact blames_readDecimal.map _
  | bytes => exact blames_readBytes.map _
  | date => exact (blames_readDateFor _).map _
  | time => exact blames_readTime.map _
  | timestamp => exact (blames_readInstantIn _).map _
  | object => exact blames_readObject
  | _ => exact .notRead _

end Readers
end Value

namespace Cursor.Accessor
open Value

variable {token : String} {type : ColumnType} {cx : Context}

theorem blames_read (a : Accessor) : Blames token type cx (a.read token type cx) := by
  cases a with
  | raw => exact .ok _
  | string => exact blames_readText.map _
  | boolean => exact blames_readBoolean.map _
  | short => exact blames_readShort.map _
  | int => exact blames_readInt.map _
  | long => exact blames_readLong.map _
  | float => exact blames_readFloat.map _
  | double => exact blames_readDouble.map _
  | decimal => exact blames_readDecimal.map _
  | decimalAt places => exact (blames_readDecimalAt places).map _
  | bytes => exact blames_readBytes.map _
  | date => exact (blames_readDateFor _).map _
  | dateIn zone => exact (blames_readDateIn zone).map _
  | time => exact blames_readTime.map _
  | timeValue => exact blames_readTimeValue.map _
  | instant => exact (blames_readInstantIn _).map _
  | instantIn zone => exact (blames_readInstantIn zone).map _
  | timestamp => exact blames_readTimestamp.map _
  | object => exact blames_readObject.map _
  | representation as => exact (blames_readAs as).map _

/-- A null is never blamed. -/
theorem ofNull_ne_decoding (a : Accessor) (column : Option Nat) (source : DecodeError) :
    a.ofNull ≠ .error (.decoding column source) := by
  unfold ofNull
  cases a with
  | representation as => simp only; split <;> nofun
  | _ => nofun

end Cursor.Accessor
end QueryResult
