import QueryResult.Proofs.LegacyToken
import QueryResult.Proofs.ScaleBounds

/-!
# What is not supported

That a reading is not supported is said of the column, not of what is in it. `ScalarType.reads` is
the table of what each type is read as. Where it says no, the token is not looked at, and where it
says yes, the answer may fail for the token, the scale or the session, but it is not that the reading
is unsupported (`ReadsAs`).

One limitation is left. A timestamp in the legacy encoding does not say what its zone is, and a
reading that needs the zone is unsupported for each token that is seconds; any other token is handed
back first (`ReadWithoutZone`). The main statement is `unsupported_by_type`.
-/

namespace QueryResult
open QueryResult.Calendar QueryResult.Number QueryResult.Session

/-- Whether columns of a type are read in a representation. -/
def ScalarType.reads (t : ScalarType) : Representation → Bool
  | .string | .object => true
  | .boolean | .short | .int | .long | .float | .double | .decimal => t.isTextualNumber
  | .bytes => t = .binary || t = .string
  | .date | .timestamp => t = .date || t.timestampKind?.isSome
  | .time => t = .time || t.timestampKind?.isSome
  | .array | .struct | .ref | .blob | .clob | .characterStream | .binaryStream | .url | .rowId
  | .xml => false

/-- One type alone has timestamps with a zone of their own. -/
theorem ScalarType.eq_timestampTz_iff {t : ScalarType} {kind : TimestampKind}
    (timestamp : t.timestampKind? = some kind) : t = .timestampTz ↔ kind = .tz := by
  cases t <;> simp_all [timestampKind?, eq_comm]

namespace Timestamp

variable {token : String} {kind : TimestampKind} {s : Scale} {session zone : Zone}
  {encoding : ZoneEncoding} {t : Timestamp}

/-! ## Timestamps that lack their zone -/

theorem instant_eq_unresolvedZone_iff :
    t.instant = .error .unresolvedZone ↔ t.zone = .unresolved := by
  refine ⟨fun h => ?_, fun unresolved => (withheld_of_unresolved unresolved).instant⟩
  unfold instant at h
  split at h
  · assumption
  · split at h <;> nomatch h

theorem reinterpretIn_eq_unresolvedZone_iff :
    t.reinterpretIn zone = .error .unresolvedZone ↔ t.zone = .unresolved := by
  refine ⟨fun h => ?_, fun unresolved => (withheld_of_unresolved unresolved).reinterpretIn zone⟩
  rw [← instant_eq_unresolvedZone_iff]
  unfold reinterpretIn utcClock at h
  cases found : t.instant with
  | error e =>
    rw [found] at h
    exact congrArg Except.error (Except.error.inj h)
  | ok i =>
    rw [found] at h
    simp only [Except.map, bind, Except.bind] at h
    split at h <;> nomatch h

theorem zoned_eq_unresolvedZone_iff :
    t.zoned = .error .unresolvedZone ↔ t.zone = .unresolved := by
  refine ⟨fun h => ?_, fun unresolved => (withheld_of_unresolved unresolved).zoned⟩
  unfold zoned at h
  cases found : t.instant with
  | error e =>
    rw [← instant_eq_unresolvedZone_iff, found]
    rw [found] at h
    exact congrArg Except.error (Except.error.inj h)
  | ok i =>
    -- Only a zone that is not known has no offset.
    cases shown : t.zone with
    | unresolved => rfl
    | named z => rw [found, shown] at h; nomatch h
    | fixed o => rw [found, shown] at h; nomatch h

theorem formatTimestamp_eq_unresolvedZone_iff {p : Pattern} :
    p.formatTimestamp t = .error .unresolvedZone ↔ t.zone = .unresolved := by
  rw [← zoned_eq_unresolvedZone_iff, Pattern.formatTimestamp]
  cases t.zoned <;> simp [Except.map]

/-- A token is read without its zone only if the zone is its own and the encoding folds it in. -/
theorem unresolved_iff_of_decode (read : decode token kind s session encoding = .ok t) :
    t.zone = .unresolved ↔ kind = .tz ∧ encoding = .legacy := by
  rw [decode_eq_ok_iff, parse?] at read
  split at read
  · rename_i current
    unfold parseIndexed? at read
    split at read
    · nomatch read
    · simp only [Option.bind_eq_bind, Option.bind_eq_some_iff, Option.pure_def,
        Option.some.injEq] at read
      obtain ⟨v, -, o, -, rfl⟩ := read
      simp [current]
  · rename_i unindexed
    obtain ⟨v, -, rfl⟩ := Option.map_eq_some_iff.1 read
    cases kind with
    | ntz => simp [zoneOfKind]
    | ltz => simp [zoneOfKind]
    | tz => cases encoding <;> simp_all [zoneOfKind]

end Timestamp

namespace Value

variable {token : String} {type : ColumnType} {cx : Context} {as : Representation} {α β : Type}
  {withheld : Prop} {answer : Except ReadError α}

/-! ## Unsupported answers -/

/-- Whether an answer is that something is not supported. -/
def Unsupported (answer : Except ReadError α) : Prop :=
  ∃ what, answer = .error (.unsupported what)

@[simp] theorem not_unsupported_ok (a : α) : ¬ Unsupported (.ok a) := nofun

@[simp] theorem not_unsupported_decoding (column : Option Nat) (source : DecodeError) :
    ¬ Unsupported (.error (.decoding column source) : Except ReadError α) := nofun

@[simp] theorem unsupported_notRead (type : ColumnType) (as : Representation) :
    Unsupported (notRead type as : Except ReadError α) :=
  ⟨_, rfl⟩

@[simp] theorem not_unsupported_decoded (result : Except DecodeError α) :
    ¬ Unsupported (decoded result) := by
  cases result <;> nofun

@[simp] theorem not_unsupported_configured (setting : Except ConfigurationFault α) :
    ¬ Unsupported (configured setting) := by
  cases setting <;> nofun

@[simp] theorem not_unsupported_columnScale : ¬ Unsupported (columnScale type) := by
  unfold columnScale
  split <;> nofun

theorem configured_eq_ok_iff {setting : Except ConfigurationFault α} {a : α} :
    configured setting = .ok a ↔ setting = .ok a := by
  cases setting <;> simp [configured]

theorem unsupported_converted_iff {result : Except TimestampError α} :
    Unsupported (converted result) ↔ result = .error .unresolvedZone := by
  rcases result with (_ | v) | a
  · exact ⟨fun _ => rfl, fun _ => ⟨.legacyZone, rfl⟩⟩
  · simp [converted, ReadError.ofTimestamp]
  · simp [converted]

@[simp] theorem unsupported_map_iff {f : α → β} :
    Unsupported (answer.map f) ↔ Unsupported answer := by
  cases answer <;> simp [Unsupported, Except.map]

@[simp] theorem unsupported_fmap_iff {f : α → β} :
    Unsupported (f <$> answer) ↔ Unsupported answer :=
  unsupported_map_iff

theorem unsupported_bind_iff {next : α → Except ReadError β} : Unsupported (answer >>= next) ↔
    Unsupported answer ∨ ∃ a, answer = .ok a ∧ Unsupported (next a) := by
  cases answer <;> simp [Unsupported, bind, Except.bind]

/-! ## Columns without zones -/

/-- Whether the timestamps of a column have zones of their own that its session does not know. -/
def WithoutZone (type : ColumnType) (cx : Context) : Prop :=
  type.scalarType = .timestampTz ∧ cx.encoding = .legacy

/-- Whether a token is read as a timestamp of which only the zone is missing. -/
def ZoneMissing (token : String) (type : ColumnType) (cx : Context) : Prop :=
  WithoutZone type cx ∧ ∃ t, readTimestamp token type cx = .ok t

theorem not_zoneMissing {t : ScalarType} (h : type.scalarType = t) (other : t ≠ .timestampTz) :
    ¬ ZoneMissing token type cx :=
  fun missing => other (h.symm.trans missing.1.1)

theorem unresolved_iff_of_readTimestamp {t : Timestamp}
    (read : readTimestamp token type cx = .ok t) :
    t.zone = .unresolved ↔ WithoutZone type cx := by
  unfold readTimestamp at read
  split at read
  · nomatch read
  · rename_i kind timestamp
    obtain ⟨s, -, spelled⟩ := eq_ok_of_bind read
    rw [Timestamp.unresolved_iff_of_decode (eq_ok_of_decoded spelled), WithoutZone,
      ScalarType.eq_timestampTz_iff timestamp]

theorem exists_unresolved_iff :
    (∃ t, readTimestamp token type cx = .ok t ∧ t.zone = .unresolved) ↔
      ZoneMissing token type cx := by
  constructor
  · rintro ⟨t, read, unresolved⟩
    exact ⟨(unresolved_iff_of_readTimestamp read).1 unresolved, t, read⟩
  · rintro ⟨without, t, read⟩
    exact ⟨t, read, (unresolved_iff_of_readTimestamp read).2 without⟩

/-! ## Readers -/

theorem reads_eq {t : ScalarType} {entry : Bool} (scalar : type.scalarType = t)
    (table : t.reads as = entry) : type.scalarType.reads as = entry := by
  rw [scalar, table]

/-- What a reader says of a representation: that it is not supported if the table has no entry, and
otherwise only if the answer is withheld. -/
structure ReadsAs (type : ColumnType) (as : Representation) (withheld : Prop)
    (answer : Except ReadError α) : Prop where
  refused : type.scalarType.reads as = false → answer = notRead type as
  able : type.scalarType.reads as = true → (Unsupported answer ↔ withheld)

namespace ReadsAs

theorem map (h : ReadsAs type as withheld answer) (f : α → β) :
    ReadsAs type as withheld (answer.map f) where
  refused := fun unread => by rw [h.refused unread]; rfl
  able := fun reads => unsupported_map_iff.trans (h.able reads)

theorem notRead (unread : type.scalarType.reads as = false) :
    ReadsAs type as withheld (notRead type as : Except ReadError α) where
  refused := fun _ => rfl
  able := fun reads => nomatch unread.symm.trans reads

theorem of_reads (reads : type.scalarType.reads as = true) (able : Unsupported answer ↔ withheld) :
    ReadsAs type as withheld answer where
  refused := fun unread => nomatch unread.symm.trans reads
  able := fun _ => able

/-- Where columns have no zones, a reader that never needs one never misses it. -/
theorem map_iff_zoneMissing {t : ScalarType} (h : ReadsAs type as False answer)
    (scalar : type.scalarType = t) (table : t.reads as = true) (other : t ≠ .timestampTz)
    (f : α → β) : Unsupported (answer.map f) ↔ ZoneMissing token type cx := by
  rw [unsupported_map_iff, h.able (reads_eq scalar table), false_iff]
  exact not_zoneMissing scalar other

/-- The readers of numbers differ only in what they make of the text. -/
theorem number (number : type.scalarType.reads as = type.scalarType.isTextualNumber)
    (able : ¬ Unsupported answer) : ReadsAs type as False
      (if type.scalarType.isTextualNumber then answer else Value.notRead type as) := by
  split <;> rename_i textual
  · exact .of_reads (number.trans textual) (iff_false_intro able)
  · exact .notRead (number.trans (Bool.eq_false_iff.2 textual))

end ReadsAs

theorem readsAs_readBoolean : ReadsAs type .boolean False (readBoolean token type) :=
  .number rfl (not_unsupported_ok _)

theorem readsAs_readInteger (bits : Nat) (kind : TokenKind)
    (number : type.scalarType.reads as = type.scalarType.isTextualNumber) :
    ReadsAs type as False (readInteger bits kind as token type) := by
  refine .number number ?_
  split <;> simp

theorem readsAs_readFloat : ReadsAs type .float False (readFloat token type) := by
  refine .number rfl ?_
  split <;> simp

theorem readsAs_readDouble : ReadsAs type .double False (readDouble token type) := by
  refine .number rfl ?_
  split <;> simp

theorem readsAs_readDecimal : ReadsAs type .decimal False (readDecimal token type) :=
  .number rfl (not_unsupported_decoded _)

theorem readsAs_readBytes : ReadsAs type .bytes False (readBytes token type) := by
  unfold readBytes
  cases scalar : type.scalarType with
  | binary | string => exact .of_reads (reads_eq scalar rfl) (by simp)
  | _ => exact .notRead (reads_eq scalar rfl)

theorem not_unsupported_readTimestamp (timestamp : type.scalarType.timestampKind? ≠ none) :
    ¬ Unsupported (readTimestamp token type cx) := by
  unfold readTimestamp
  split
  · contradiction
  · simp [unsupported_bind_iff]

theorem unsupported_instantOf_iff {t : Timestamp} {zone : Zone} :
    Unsupported (instantOf t type cx zone) ↔ t.zone = .unresolved := by
  unfold instantOf
  split
  · rw [unsupported_converted_iff, Timestamp.reinterpretIn_eq_unresolvedZone_iff]
  · rw [unsupported_converted_iff, Timestamp.instant_eq_unresolvedZone_iff]

theorem unsupported_readTimestampInstant_iff
    (timestamp : type.scalarType.timestampKind? ≠ none) (zone : Zone) :
    Unsupported (readTimestampInstant token type cx zone) ↔ ZoneMissing token type cx := by
  rw [readTimestampInstant, unsupported_bind_iff, ← exists_unresolved_iff]
  simp only [not_unsupported_readTimestamp timestamp, unsupported_instantOf_iff, false_or]

theorem unsupported_readTimestampClock_iff
    (timestamp : type.scalarType.timestampKind? ≠ none) (zone : Zone) :
    Unsupported (readTimestampClock token type cx zone) ↔ ZoneMissing token type cx := by
  rw [readTimestampClock, unsupported_map_iff, unsupported_readTimestampInstant_iff timestamp]

theorem readsAs_readDateFor (zone : Zone) :
    ReadsAs type .date (ZoneMissing token type cx) (readDateFor zone token type cx) := by
  unfold readDateFor
  cases scalar : type.scalarType with
  | date => exact .of_reads (reads_eq scalar rfl) (by simp [not_zoneMissing scalar])
  | timestampNtz | timestampLtz | timestampTz =>
    have timestamp : type.scalarType.timestampKind? ≠ none := by rw [scalar]; nofun
    refine .of_reads (reads_eq scalar rfl) ?_
    rw [unsupported_map_iff, unsupported_readTimestampClock_iff timestamp]
  | _ => exact .notRead (reads_eq scalar rfl)

theorem readsAs_readTime :
    ReadsAs type .time (ZoneMissing token type cx) (readTime token type cx) := by
  unfold readTime
  cases scalar : type.scalarType with
  | time =>
    refine .of_reads (reads_eq scalar rfl) ?_
    simp [not_zoneMissing scalar, readTimeValue, scalar, unsupported_bind_iff]
  | timestampNtz | timestampLtz | timestampTz =>
    have timestamp : type.scalarType.timestampKind? ≠ none := by rw [scalar]; nofun
    refine .of_reads (reads_eq scalar rfl) ?_
    rw [unsupported_map_iff, unsupported_readTimestampClock_iff timestamp]
  | _ => exact .notRead (reads_eq scalar rfl)

theorem readsAs_readInstantIn (zone : Zone) :
    ReadsAs type .timestamp (ZoneMissing token type cx) (readInstantIn zone token type cx) := by
  unfold readInstantIn
  cases scalar : type.scalarType with
  | date =>
    refine .of_reads (reads_eq scalar rfl) ?_
    rw [unsupported_map_iff, readDateIn, unsupported_bind_iff,
      (readsAs_readDateFor zone).able (reads_eq scalar rfl)]
    -- A date that begins nowhere in the zone is a token that does not decode.
    refine or_iff_left ?_
    rintro ⟨d, -, unsupported⟩
    split at unsupported
    · exact not_unsupported_ok _ unsupported
    · exact not_unsupported_decoding _ _ unsupported
  | timestampNtz | timestampLtz | timestampTz =>
    have timestamp : type.scalarType.timestampKind? ≠ none := by rw [scalar]; nofun
    exact .of_reads (reads_eq scalar rfl) (unsupported_readTimestampInstant_iff timestamp zone)
  | _ => exact .notRead (reads_eq scalar rfl)

/-- A text needs the zone only when there is a pattern to write it with. -/
theorem unsupported_readTimestampText_iff {kind : TimestampKind}
    (timestamp : type.scalarType.timestampKind? = some kind) :
    Unsupported (readTimestampText kind token type cx) ↔
      ZoneMissing token type cx ∧ ∃ p, cx.timestampPattern .tz = .ok p := by
  have own : ZoneMissing token type cx → kind = .tz := fun missing =>
    (ScalarType.eq_timestampTz_iff timestamp).1 missing.1.1
  have present : type.scalarType.timestampKind? ≠ none := by
    rw [timestamp]
    nofun
  simp only [readTimestampText, unsupported_bind_iff, not_unsupported_readTimestamp present,
    not_unsupported_configured, configured_eq_ok_iff, unsupported_converted_iff,
    Timestamp.formatTimestamp_eq_unresolvedZone_iff, false_or]
  constructor
  · rintro ⟨t, read, p, pattern, unresolved⟩
    have missing := exists_unresolved_iff.1 ⟨t, read, unresolved⟩
    obtain rfl := own missing
    exact ⟨missing, p, pattern⟩
  · rintro ⟨missing, p, pattern⟩
    obtain rfl := own missing
    obtain ⟨t, read, unresolved⟩ := exists_unresolved_iff.2 missing
    exact ⟨t, read, p, pattern, unresolved⟩

theorem readsAs_readText : ReadsAs type .string
    (ZoneMissing token type cx ∧ ∃ p, cx.timestampPattern .tz = .ok p)
    (readText token type cx) := by
  refine .of_reads rfl ?_
  unfold readText
  cases scalar : type.scalarType with
  | timestampNtz | timestampLtz | timestampTz =>
    exact unsupported_readTimestampText_iff (by rw [scalar]; rfl)
  | date | time => simp [not_zoneMissing scalar, unsupported_bind_iff]
  | binary => cases cx.binaryFormat <;> simp [not_zoneMissing scalar]
  | _ => simp [not_zoneMissing scalar]

theorem readsAs_readObject :
    ReadsAs type .object (ZoneMissing token type cx) (readObject token type cx) := by
  refine .of_reads rfl ?_
  unfold readObject
  cases scalar : type.scalarType with
  | string => simp [not_zoneMissing scalar]
  | boolean => exact readsAs_readBoolean.map_iff_zoneMissing scalar rfl nofun _
  | smallInt | integer =>
    exact (readsAs_readInteger 32 .int rfl).map_iff_zoneMissing scalar rfl nofun _
  | bigInt => exact (readsAs_readInteger 64 .long rfl).map_iff_zoneMissing scalar rfl nofun _
  | decimal => exact readsAs_readDecimal.map_iff_zoneMissing scalar rfl nofun _
  | double => exact readsAs_readDouble.map_iff_zoneMissing scalar rfl nofun _
  | binary => exact readsAs_readBytes.map_iff_zoneMissing scalar rfl nofun _
  | date =>
    rw [unsupported_map_iff, readDate]
    exact (readsAs_readDateFor cx.zone).able (reads_eq scalar rfl)
  | time =>
    rw [unsupported_map_iff]
    exact readsAs_readTime.able (reads_eq scalar rfl)
  | timestampNtz | timestampLtz | timestampTz =>
    rw [unsupported_map_iff, readInstant]
    exact (readsAs_readInstantIn cx.zone).able (reads_eq scalar rfl)

/-- Whether a reading is withheld for a zone that it needs. -/
def WithheldReading (token : String) (type : ColumnType) (cx : Context) : Representation → Prop
  | .string => ZoneMissing token type cx ∧ ∃ p, cx.timestampPattern .tz = .ok p
  | .date | .time | .timestamp | .object => ZoneMissing token type cx
  | _ => False

theorem WithheldReading.zoneMissing (withheld : WithheldReading token type cx as) :
    ZoneMissing token type cx := by
  cases as with
  | string => exact withheld.1
  | date | time | timestamp | object => exact withheld
  | _ => nomatch withheld

theorem readsAs_readAs (as : Representation) :
    ReadsAs type as (WithheldReading token type cx as) (readAs as token type cx) := by
  cases as with
  | string => exact readsAs_readText.map _
  | boolean => exact readsAs_readBoolean.map _
  | short => exact (readsAs_readInteger 16 .short rfl).map _
  | int => exact (readsAs_readInteger 32 .int rfl).map _
  | long => exact (readsAs_readInteger 64 .long rfl).map _
  | float => exact readsAs_readFloat.map _
  | double => exact readsAs_readDouble.map _
  | decimal => exact readsAs_readDecimal.map _
  | bytes => exact readsAs_readBytes.map _
  | date => exact (readsAs_readDateFor cx.zone).map _
  | time => exact readsAs_readTime.map _
  | timestamp => exact (readsAs_readInstantIn cx.zone).map _
  | object => exact readsAs_readObject
  | _ => exact .notRead rfl

/-- Outside the legacy encoding the table alone decides. -/
theorem unsupported_readAs_iff (zoned : ¬ WithoutZone type cx) (as : Representation) :
    Unsupported (readAs as token type cx) ↔ type.scalarType.reads as = false := by
  have reader : ReadsAs type as (WithheldReading token type cx as) (readAs as token type cx) :=
    readsAs_readAs as
  cases reads : type.scalarType.reads as with
  | false => simp [reader.refused reads]
  | true =>
    rw [reader.able reads]
    exact iff_of_false (fun withheld => zoned withheld.zoneMissing.1) nofun

/-! ## Tokens of the legacy encoding -/

/-- The readings of a timestamp for which its zone has to be known, whatever the session. -/
def zoneReadings : List Representation := [.date, .time, .timestamp, .object]

/-- A timestamp whose zone is not known is read as its seconds, at a scale that there is. -/
theorem readTimestamp_withoutZone (without : WithoutZone type cx)
    (small : type.scale ≤ Scale.nanos.digits) : readTimestamp token type cx =
      decoded ((FixedPoint.decode .timestamp token ⟨type.scale⟩).map (⟨·, .unresolved⟩)) := by
  have scale : columnScale type = .ok ⟨type.scale⟩ := by
    rw [columnScale, Scale.ofNat, if_pos small]
  rw [readTimestamp, without.1]
  show (columnScale type >>= fun s => decoded (Timestamp.decode token .tz s cx.zone cx.encoding)) = _
  rw [scale, without.2, ← Timestamp.decode_legacy]
  rfl

theorem zoneMissing_iff (without : WithoutZone type cx)
    (small : type.scale ≤ Scale.nanos.digits) : ZoneMissing token type cx ↔
      ∃ v, FixedPoint.decode .timestamp token ⟨type.scale⟩ = .ok v := by
  rw [ZoneMissing, and_iff_right without, readTimestamp_withoutZone without small]
  cases FixedPoint.decode .timestamp token ⟨type.scale⟩ <;> simp [decoded, Except.map]

/-- What is no timestamp is read as nothing else. -/
theorem readAs_of_readTimestamp_eq_error {e : ReadError} (own : type.scalarType = .timestampTz)
    (failed : readTimestamp token type cx = .error e) (reading : as ∈ zoneReadings) :
    readAs as token type cx = .error e := by
  have instant : ∀ zone, readTimestampInstant token type cx zone = .error e := by
    intro zone
    rw [readTimestampInstant, failed]
    rfl
  have clock : ∀ zone, readTimestampClock token type cx zone = .error e := by
    intro zone
    rw [readTimestampClock, instant]
    rfl
  simp only [zoneReadings, List.mem_cons, List.not_mem_nil, or_false] at reading
  rcases reading with rfl | rfl | rfl | rfl
  · simp [readAs, readDate, readDateFor, own, clock, Except.map]
  · simp [readAs, readTime, own, clock, Except.map]
  · simp [readAs, readInstant, readInstantIn, own, instant, Except.map]
  · simp [readAs, readObject, readInstant, readInstantIn, own, instant, Except.map]

/-- What becomes of a token of a column whose timestamps are sent without their zone. -/
structure ReadWithoutZone (token : String) (type : ColumnType) (cx : Context) : Prop where
  /-- The zone is missed for every token that is seconds at the scale of the column. -/
  unsupported : ∀ as ∈ zoneReadings, Unsupported (readAs as token type cx) ↔
    ∃ v, FixedPoint.decode .timestamp token ⟨type.scale⟩ = .ok v
  /-- Any other token does not decode, and is handed back. -/
  undecoded : ∀ as ∈ zoneReadings,
    (∀ v, FixedPoint.decode .timestamp token ⟨type.scale⟩ ≠ .ok v) →
      readAs as token type cx = .error (.decoding none ⟨.timestamp, token⟩)
  /-- For a text there has to be a pattern too before the zone is looked for. -/
  text : Unsupported (readAs .string token type cx) ↔
    (∃ v, FixedPoint.decode .timestamp token ⟨type.scale⟩ = .ok v) ∧
      ∃ p, cx.timestampPattern .tz = .ok p

theorem readWithoutZone (without : WithoutZone type cx)
    (small : type.scale ≤ Scale.nanos.digits) : ReadWithoutZone token type cx := by
  constructor
  case unsupported =>
    intro as reading
    have reads : type.scalarType.reads as = true := by
      rw [without.1]
      revert as
      decide
    rw [(readsAs_readAs as).able reads, ← zoneMissing_iff without small]
    simp only [zoneReadings, List.mem_cons, List.not_mem_nil, or_false] at reading
    rcases reading with rfl | rfl | rfl | rfl <;> rfl
  case undecoded =>
    intro as reading refused
    apply readAs_of_readTimestamp_eq_error without.1 _ reading
    rw [readTimestamp_withoutZone without small]
    cases decode : FixedPoint.decode .timestamp token ⟨type.scale⟩ with
    | ok v => exact absurd decode (refused v)
    | error e =>
      obtain ⟨rfl, -⟩ := FixedPoint.decode_eq_error_iff.1 decode
      rfl
  case text =>
    rw [(readsAs_readAs .string).able rfl, ← zoneMissing_iff without small]
    rfl

/-- When a reading is unsupported. -/
structure UnsupportedByType (token : String) (type : ColumnType) (cx : Context) : Prop where
  /-- What the type is not read as is refused, with the type and the representation in the error. -/
  refused : ∀ as, type.scalarType.reads as = false →
    readAs as token type cx = .error (.unsupported (.readingType type.scalarType as))
  /-- Nothing else is unsupported, unless timestamps come without their zone. -/
  alone : ¬ WithoutZone type cx → ∀ as,
    Unsupported (readAs as token type cx) ↔ type.scalarType.reads as = false
  /-- So no two tokens differ in it, nor two scales or two sessions. -/
  same : ¬ WithoutZone type cx → ∀ as token' type' cx', type'.scalarType = type.scalarType →
    ¬ WithoutZone type' cx' →
      (Unsupported (readAs as token' type' cx') ↔ Unsupported (readAs as token type cx))
  withoutZone : WithoutZone type cx → type.scale ≤ Scale.nanos.digits →
    ReadWithoutZone token type cx

/-- **A reading is unsupported for the type of the column**, never for what is in it, but for the
zone that the legacy encoding leaves out. -/
theorem unsupported_by_type (token : String) (type : ColumnType) (cx : Context) :
    UnsupportedByType token type cx := by
  constructor
  case refused => exact fun as => (readsAs_readAs as).refused
  case alone => exact unsupported_readAs_iff
  case same =>
    intro zoned as token' type' cx' alike zoned'
    rw [unsupported_readAs_iff zoned', unsupported_readAs_iff zoned, alike]
  case withoutZone => exact readWithoutZone

/-- A token that is no seconds is handed back before its zone is missed. -/
example :
    readDate "1700000000.5" ⟨.timestampTz, 3, false⟩ {} = .error (.unsupported .legacyZone) ∧
      readDate "1700000000.5 1440" ⟨.timestampTz, 3, false⟩ {} =
        .error (.decoding none ⟨.timestamp, "1700000000.5 1440"⟩) := by
  decide +kernel

end Value
end QueryResult
