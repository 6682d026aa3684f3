import QueryResult.Proofs.ClockReading
import QueryResult.Proofs.ScaleBounds
import QueryResult.Proofs.TimestampText

/-!
# Timestamps without a zone, as values and as text

A timestamp without a zone means what a clock on UTC reads at its instant. Text shows that reading
as it is. A value is an instant, so that the reading is taken to the zone of the client, if the
session wants that, and read off a clock there again for a date or a time of day. Where some instant
has the reading in that zone, values and text agree (`AsClock`), whether the clocks there show it
once or twice. The main statement is `clock_views_agree`.
-/

namespace QueryResult
open QueryResult.Calendar QueryResult.Number QueryResult.Session

namespace Timestamp

variable {t : Timestamp} {w : WallClock}

theorem exists_instant_of_utcClock (clock : t.utcClock = .ok w) :
    ∃ i, t.instant = .ok i ∧ i.utc = w := by
  unfold utcClock at clock
  cases found : t.instant with
  | error e =>
    rw [found] at clock
    nomatch clock
  | ok i =>
    rw [found] at clock
    exact ⟨i, rfl, Except.ok.inj clock⟩

/-- In UTC a timestamp is shown as a clock on UTC reads, ahead of it by nothing. -/
theorem zoned_of_utcClock (utc : t.zone = .named .utc) (clock : t.utcClock = .ok w) :
    ∃ z, t.zoned = .ok z ∧ z.wallClock = w ∧ z.offset = .utc := by
  obtain ⟨i, found, reads⟩ := exists_instant_of_utcClock clock
  refine ⟨⟨i, .utc⟩, ?_, ?_, rfl⟩
  · rw [zoned_eq_ok_iff, utc]
    exact ⟨found, rfl⟩
  · rw [← reads]
    simp only [Zoned.wallClock, Instant.wallClock, Instant.utc, Offset.utc, Int.add_zero]

theorem reinterpretIn_of_localize? {zone : Zone} {dt : Zoned} (clock : t.utcClock = .ok w)
    (found : dt ∈ zone.localize? w) : t.reinterpretIn zone = .ok dt.instant := by
  have located : zone.localize? w = some dt := found
  rw [reinterpretIn, clock]
  simp only [bind, Except.bind, located]

/-- A reading that a clock in a zone can show is kept when the timestamp is placed there. -/
theorem exists_reinterpretIn {zone : Zone} (orderly : zone.Orderly) (clock : t.utcClock = .ok w)
    (whole : w.time.nano < nanosPerSecond) {i : Instant} (inRange : i.InRange)
    (reads : zone.Reads w i) : ∃ j, t.reinterpretIn zone = .ok j ∧ zone.Reads w j := by
  -- Only a leap second would be lost on the way to UTC.
  have inverts : zone.Inverts w := orderly.inverts (.inl whole)
  obtain ⟨dt, found, shows, -, -⟩ := inverts.again i inRange reads
  obtain ⟨-, inForce, -⟩ := inverts.earliest dt found i inRange reads
  refine ⟨dt.instant, reinterpretIn_of_localize? clock found, ?_⟩
  rw [Zone.Reads, ← inForce]
  exact shows

end Timestamp

namespace Value

variable {token : String} {type : ColumnType} {cx : Context} {t : Timestamp} {w : WallClock}

/-! ## Tokens without a zone -/

theorem readTimestamp_ntz (ntz : type.scalarType = .timestampNtz) :
    readTimestamp token type cx = (do
      let scale ← columnScale type
      decoded (Timestamp.decode token .ntz scale cx.zone cx.encoding)) := by
  rw [readTimestamp, ntz]
  rfl

/-- Nothing of the session goes into a timestamp without a zone. -/
theorem readTimestamp_ntz_congr (ntz : type.scalarType = .timestampNtz) (cx' : Context) :
    readTimestamp token type cx' = readTimestamp token type cx := by
  have same : ∀ s, Timestamp.decode token .ntz s cx'.zone cx'.encoding =
      Timestamp.decode token .ntz s cx.zone cx.encoding := fun s => rfl
  simp only [readTimestamp_ntz ntz, same]

theorem zone_of_readTimestamp_ntz (ntz : type.scalarType = .timestampNtz)
    (read : readTimestamp token type cx = .ok t) : t.zone = .named .utc := by
  rw [readTimestamp_ntz ntz] at read
  obtain ⟨s, -, read⟩ := eq_ok_of_bind read
  have parsed := Timestamp.decode_eq_ok_iff.1 (eq_ok_of_decoded read)
  obtain ⟨v, -, rfl⟩ := Option.map_eq_some_iff.1 parsed
  rfl

/-! ## Values -/

/-- That the values read from a token are those of what a clock in the zone of the client shows. -/
structure AsClock (token : String) (type : ColumnType) (cx : Context) (w : WallClock) : Prop where
  instant : ∃ i, readInstant token type cx = .ok i ∧ cx.zone.Reads w i
  date : readDate token type cx = .ok w.date
  /-- The time is exact to the nanosecond. -/
  time : readTime token type cx = .ok w.time

theorem readTimestampInstant_ntz (ntz : type.scalarType = .timestampNtz)
    (honors : cx.honorsZone = true) (read : readTimestamp token type cx = .ok t) (zone : Zone) :
    readTimestampInstant token type cx zone = converted (t.reinterpretIn zone) := by
  rw [readTimestampInstant, read]
  exact if_pos ⟨ntz, honors⟩

/-- The values follow from the instant. -/
theorem asClock_of_instant {i : Instant} (ntz : type.scalarType = .timestampNtz)
    (read : readTimestampInstant token type cx cx.zone = .ok i) (reads : cx.zone.Reads w i) :
    AsClock token type cx w := by
  have clock : readTimestampClock token type cx cx.zone = .ok w := by
    rw [readTimestampClock, read, ← reads]
    rfl
  constructor
  · refine ⟨i, ?_, reads⟩
    rw [readInstant, readInstantIn, ntz]
    exact read
  · rw [readDate, readDateFor, ntz]
    show (readTimestampClock token type cx cx.zone).map WallClock.date = .ok w.date
    rw [clock]
    rfl
  · rw [readTime, ntz]
    show (readTimestampClock token type cx cx.zone).map WallClock.time = .ok w.time
    rw [clock]
    rfl

/-! ## Text -/

theorem readText_ntz (ntz : type.scalarType = .timestampNtz) :
    readText token type cx = readTimestampText .ntz token type cx := by
  rw [readText, ntz]

/-- The text depends on the pattern alone. -/
theorem readText_ntz_congr (ntz : type.scalarType = .timestampNtz) {cx' : Context}
    (pattern : cx'.ntz = cx.ntz) : readText token type cx' = readText token type cx := by
  have same : cx'.timestampPattern .ntz = cx.timestampPattern .ntz := by
    rw [Context.timestampPattern, Context.timestampPattern, pattern]
  rw [readText_ntz ntz, readText_ntz ntz, readTimestampText, readTimestampText,
    readTimestamp_ntz_congr ntz cx', same]

theorem readText_of_zoned {p : Pattern} {z : Zoned} (ntz : type.scalarType = .timestampNtz)
    (read : readTimestamp token type cx = .ok t) (pattern : cx.ntz = some p)
    (zoned : t.zoned = .ok z) :
    readText token type cx = .ok (p.render ⟨z.wallClock.shown, z.offset, t.value.scale⟩) := by
  have required : cx.timestampPattern .ntz = .ok p := by
    rw [Context.timestampPattern, pattern]
    rfl
  rw [readText_ntz ntz, readTimestampText, read, required]
  show converted (p.formatTimestamp t) = _
  rw [Pattern.formatTimestamp_of_zoned zoned]
  rfl

/-! ## Values and text -/

/-- That values and text are views of one reading of a clock. -/
structure ViewsAgree (token : String) (type : ColumnType) (cx : Context) (s : Scale)
    (w : WallClock) : Prop where
  orderly : cx.zone ∈ Zone.tabulated → cx.zone.Orderly
  /-- Values have the reading in every zone in which some instant has it. -/
  typed : cx.honorsZone = true → cx.zone.Orderly →
    (∃ i : Instant, i.InRange ∧ cx.zone.Reads w i) → AsClock token type cx w
  /-- Text shows it with an offset of zero. -/
  shown : ∀ p, cx.ntz = some p → readText token type cx = .ok (p.render ⟨w.shown, .utc, s⟩)
  /-- The text is the same wherever the client is. -/
  anyClient : ∀ zone honors,
    readText token type { cx with zone := zone, honorsZone := honors } = readText token type cx

/-- **Values and text agree** on what a clock shows at a timestamp without a zone. -/
theorem clock_views_agree (ntz : type.scalarType = .timestampNtz)
    (read : readTimestamp token type cx = .ok t) (clock : t.utcClock = .ok w) :
    ViewsAgree token type cx t.value.scale w := by
  obtain ⟨z, zoned, reading, offset⟩ :=
    Timestamp.zoned_of_utcClock (zone_of_readTimestamp_ntz ntz read) clock
  have whole : w.time.nano < nanosPerSecond := by
    obtain ⟨below, -, nano⟩ := Pattern.cut_of_zoned zoned
    rw [← reading]
    exact nano.trans_lt below
  constructor
  case orderly => exact Zone.orderly_of_mem_tabulated cx.zone
  case typed =>
    rintro honors orderly ⟨i, inRange, reads⟩
    obtain ⟨j, placed, again⟩ := Timestamp.exists_reinterpretIn orderly clock whole inRange reads
    apply asClock_of_instant ntz _ again
    rw [readTimestampInstant_ntz ntz honors read, placed]
    rfl
  case shown =>
    intro p pattern
    rw [readText_of_zoned ntz read pattern zoned, reading, offset]
  case anyClient =>
    intro zone honors
    exact readText_ntz_congr ntz rfl

/-- A quarter of a second past half past one on the night of November 3, 2024, which the clocks in
New York show twice. -/
def foldReading : WallClock :=
  .ofEpoch 1730597400 250000000 (by decide)

/-- A token with that reading, for a client in New York. -/
theorem clock_views_agree_newYork :
    ∃ t, readTimestamp "1730597400.25" ⟨.timestampNtz, 3, false⟩ { zone := .newYork } = .ok t ∧
      t.utcClock = .ok foldReading ∧
      ViewsAgree "1730597400.25" ⟨.timestampNtz, 3, false⟩ { zone := .newYork } t.value.scale
        foldReading ∧
      AsClock "1730597400.25" ⟨.timestampNtz, 3, false⟩ { zone := .newYork } foldReading := by
  have read : readTimestamp "1730597400.25" ⟨.timestampNtz, 3, false⟩ { zone := .newYork } =
      .ok ⟨⟨1730597400250, ⟨3⟩, by decide⟩, .named .utc⟩ := by
    decide +kernel
  have clock : Timestamp.utcClock ⟨⟨1730597400250, ⟨3⟩, by decide⟩, .named .utc⟩ =
      .ok foldReading := by
    decide +kernel
  have views := clock_views_agree rfl read clock
  refine ⟨_, read, clock, views, ?_⟩
  -- The second of the two times.
  have shown : Zone.newYork.Reads foldReading ⟨1730615400, 250000000, by decide⟩ := by
    decide +kernel
  exact views.typed rfl (views.orderly (by simp [Zone.tabulated])) ⟨_, by decide, shown⟩

end Value
end QueryResult
