import QueryResult.Proofs.ZonedToken
import QueryResult.Value.Decode

/-!
# Instants and the session

The zone of the session goes into how a timestamp is shown, the zone of a request into where a clock
reading is placed, and the index in a token into the offset of its clock. None of them goes into the
instant. Two readings of one token may differ in the zone of the timestamp, but they have one value
and know or do not know its zone together (`Together`), which is all that an instant is made of. So
a column of instants (`HoldsInstants`) gives the same answer in every session, the errors included,
and in every zone that it is read for. The main statement is `instants_never_shifted`.
-/

namespace QueryResult
open QueryResult.Calendar QueryResult.Number QueryResult.Session QueryResult.Text

namespace Timestamp

/-! ## Timestamps with one instant -/

/-- Timestamps of one value whose zones are both known or both not. They may be shown apart. -/
structure Together (t u : Timestamp) : Prop where
  value : t.value = u.value
  known : t.zone = .unresolved ↔ u.zone = .unresolved

theorem Together.refl (t : Timestamp) : Together t t :=
  ⟨rfl, Iff.rfl⟩

theorem Together.instant {t u : Timestamp} (h : Together t u) : t.instant = u.instant := by
  obtain ⟨value, known⟩ := h
  by_cases unresolved : t.zone = .unresolved
  · rw [Timestamp.instant, Timestamp.instant, if_pos unresolved, if_pos (known.1 unresolved)]
  · apply instant_congr value unresolved
    intro unresolved'
    exact unresolved (known.2 unresolved')

/-- What two readings of a token may come to: the same failure, or timestamps of one instant. -/
inductive Alike {ε : Type} : Except ε Timestamp → Except ε Timestamp → Prop
  | failed (e : ε) : Alike (.error e) (.error e)
  | read {t u : Timestamp} (together : Together t u) : Alike (.ok t) (.ok u)

/-- The zone of a token that does not name one is known or not by the kind alone. -/
theorem zoneOfKind_eq_unresolved_iff {session : Zone} {kind : TimestampKind} :
    zoneOfKind session kind = .unresolved ↔ kind = .tz := by
  cases kind <;> simp [zoneOfKind]

/-- The session only chooses how a token is shown. -/
theorem alike_decode (token : String) (kind : TimestampKind) (s : Scale) (session session' : Zone)
    {encoding encoding' : ZoneEncoding} (same : kind = .tz → encoding = encoding') :
    Alike (decode token kind s session encoding) (decode token kind s session' encoding') := by
  have indexed : (kind = .tz ∧ encoding = .current) ↔ (kind = .tz ∧ encoding' = .current) := by
    refine and_congr_right fun tz => ?_
    rw [same tz]
  unfold decode parse?
  by_cases current : kind = .tz ∧ encoding = .current
  · -- The zone is in the token.
    rw [if_pos current, if_pos (indexed.1 current)]
    cases parseIndexed? token.toList s with
    | none => exact .failed _
    | some t => exact .read (.refl t)
  · rw [if_neg current, if_neg fun h => current (indexed.2 h)]
    cases FixedPoint.parse? token.toList s with
    | none => exact .failed _
    | some v =>
      apply Alike.read
      constructor
      · rfl
      · simp only [zoneOfKind_eq_unresolved_iff]

/-- The index of a token only chooses the offset that it is shown at. -/
theorem alike_decode_of_indexedToken {s : Scale} {token token' seconds : String} {v : FixedPoint}
    {i i' : Int} (indexed : IndexedToken s token seconds v i)
    (indexed' : IndexedToken s token' seconds v i') (session session' : Zone) :
    Alike (decode token .tz s session .current) (decode token' .tz s session' .current) := by
  obtain ⟨o, -, read⟩ := decode_of_indexedToken indexed session
  obtain ⟨o', -, read'⟩ := decode_of_indexedToken indexed' session'
  rw [read, read']
  apply Alike.read
  constructor
  · rfl
  · simp

end Timestamp

namespace Value
open Timestamp

variable {token : String} {type : ColumnType} {cx cx' : Context}

/-! ## Columns of instants -/

/-- Whether a column holds instants in two sessions: its timestamps are of the zone of the session,
or they have a zone of their own, which both sessions look for in the token alike, or they have none
and neither session places them in a zone. -/
inductive HoldsInstants (type : ColumnType) (cx cx' : Context) : Prop
  | ltz (is_ltz : type.scalarType = .timestampLtz)
  | tz (is_tz : type.scalarType = .timestampTz) (alike : cx.encoding = cx'.encoding)
  | ntz (is_ntz : type.scalarType = .timestampNtz) (asUtc : cx.honorsZone = false)
      (asUtc' : cx'.honorsZone = false)

theorem HoldsInstants.symm (holds : HoldsInstants type cx cx') : HoldsInstants type cx' cx := by
  cases holds with
  | ltz is_ltz => exact .ltz is_ltz
  | tz is_tz alike => exact .tz is_tz alike.symm
  | ntz is_ntz asUtc asUtc' => exact .ntz is_ntz asUtc' asUtc

theorem HoldsInstants.exists_kind (holds : HoldsInstants type cx cx') :
    ∃ kind, type.scalarType.timestampKind? = some kind ∧
      (kind = .tz → cx.encoding = cx'.encoding) := by
  cases holds with
  | ltz is_ltz => exact ⟨.ltz, by rw [is_ltz]; rfl, nofun⟩
  | tz is_tz alike => exact ⟨.tz, by rw [is_tz]; rfl, fun _ => alike⟩
  | ntz is_ntz _ _ => exact ⟨.ntz, by rw [is_ntz]; rfl, nofun⟩

/-- The instant of a timestamp column, as it was sent. -/
def sentInstant (token : String) (type : ColumnType) (cx : Context) : Except ReadError Instant := do
  converted (← readTimestamp token type cx).instant

/-- No zone goes into what is read from a column of instants. -/
theorem HoldsInstants.readInstantIn_eq (holds : HoldsInstants type cx cx') (zone : Zone) :
    readInstantIn zone token type cx = sentInstant token type cx := by
  have unplaced : ¬ (type.scalarType = .timestampNtz ∧ cx.honorsZone = true) := by
    rintro ⟨is_ntz, placed⟩
    cases holds with
    | ltz is_ltz => rw [is_ltz] at is_ntz; nomatch is_ntz
    | tz is_tz _ => rw [is_tz] at is_ntz; nomatch is_ntz
    | ntz _ asUtc _ => rw [asUtc] at placed; nomatch placed
  have timestamp : readInstantIn zone token type cx = readTimestampInstant token type cx zone := by
    unfold readInstantIn
    cases holds with
    | ltz is_ltz => rw [is_ltz]
    | tz is_tz _ => rw [is_tz]
    | ntz is_ntz _ _ => rw [is_ntz]
  rw [timestamp, readTimestampInstant, sentInstant]
  refine congrArg (readTimestamp token type cx >>= ·) (funext fun t => ?_)
  exact if_neg unplaced

/-! ## Two readings -/

/-- Readings that are alike have the same instant, or the same reason to have none. -/
theorem sentInstant_congr {token' : String}
    (alike : Alike (readTimestamp token type cx) (readTimestamp token' type cx')) :
    sentInstant token type cx = sentInstant token' type cx' := by
  unfold sentInstant
  generalize readTimestamp token type cx = result at alike
  generalize readTimestamp token' type cx' = result' at alike
  cases alike with
  | failed e => rfl
  | read together =>
    show converted _ = converted _
    rw [together.instant]

/-- Columns are read alike if their tokens are, at the scale of the column. -/
theorem alike_readTimestamp {token' : String} {kind : TimestampKind}
    (timestamp : type.scalarType.timestampKind? = some kind)
    (alike : ∀ s, columnScale type = .ok s →
      Alike (Timestamp.decode token kind s cx.zone cx.encoding)
        (Timestamp.decode token' kind s cx'.zone cx'.encoding)) :
    Alike (readTimestamp token type cx) (readTimestamp token' type cx') := by
  unfold readTimestamp
  rw [timestamp]
  cases scale : columnScale type with
  | error e => exact .failed e
  | ok s =>
    have alike := alike s scale
    show Alike (decoded _) (decoded _)
    generalize Timestamp.decode token kind s cx.zone cx.encoding = result at alike
    generalize Timestamp.decode token' kind s cx'.zone cx'.encoding = result' at alike
    cases alike with
    | failed e => exact .failed _
    | read together => exact .read together

/-- Two sessions, each for a zone of its own, read instants alike from tokens that are alike. -/
theorem HoldsInstants.readInstantIn_congr (holds : HoldsInstants type cx cx') {token' : String}
    {kind : TimestampKind} (timestamp : type.scalarType.timestampKind? = some kind)
    (alike : ∀ s, columnScale type = .ok s →
      Alike (Timestamp.decode token kind s cx.zone cx.encoding)
        (Timestamp.decode token' kind s cx'.zone cx'.encoding)) (zone zone' : Zone) :
    readInstantIn zone token type cx = readInstantIn zone' token' type cx' := by
  rw [holds.readInstantIn_eq, holds.symm.readInstantIn_eq]
  apply sentInstant_congr
  exact alike_readTimestamp timestamp alike

/-! ## Never shifted -/

/-- Whether two tokens have the same seconds in front of their zone indices. -/
def Reindexed (s : Scale) (token token' : String) : Prop :=
  ∃ seconds v i i', IndexedToken s token seconds v i ∧ IndexedToken s token' seconds v i'

/-- A token that is not seconds and an index is handed back whole. -/
theorem readTimestamp_of_not_indexed {s : Scale} (is_tz : type.scalarType = .timestampTz)
    (current : cx.encoding = .current) (scale : columnScale type = .ok s)
    (shapeless : ∀ seconds v i, ¬ IndexedToken s token seconds v i) :
    readTimestamp token type cx = .error (.decoding none ⟨.timestamp, token⟩) := by
  have refused : Timestamp.decode token .tz s cx.zone cx.encoding = .error ⟨.timestamp, token⟩ := by
    rw [current, Timestamp.decode_eq_error_iff]
    refine ⟨rfl, fun t read => ?_⟩
    obtain ⟨seconds, v, i, -, indexed, -⟩ := decode_tz_eq_ok_iff.1 read
    exact shapeless seconds v i indexed
  rw [readTimestamp, is_tz]
  show (columnScale type >>= fun scale => decoded (Timestamp.decode token .tz scale _ _)) = _
  rw [scale]
  show decoded (Timestamp.decode token .tz s cx.zone cx.encoding) = _
  rw [refused]
  rfl

/-- That nothing but the seconds of a token goes into the instant that is read from it. -/
structure NeverShifted (token : String) (type : ColumnType) (cx cx' : Context) : Prop where
  /-- Neither the session nor the zone asked for changes the answer, be it an instant or an error. -/
  anywhere : ∀ zone zone',
    readInstantIn zone token type cx = readInstantIn zone' token type cx'
  /-- The answer is what the timestamp gives as it was sent. -/
  sent : ∀ zone, readInstantIn zone token type cx = do
    converted (← readTimestamp token type cx).instant
  /-- With another zone index it stays the same. -/
  reindexed : type.scalarType = .timestampTz → cx.encoding = .current → ∀ token',
    (∀ s, columnScale type = .ok s → Reindexed s token token') → ∀ zone zone',
      readInstantIn zone token type cx = readInstantIn zone' token' type cx'
  /-- Only where there are no seconds and index to be told apart does the index come back, with the
  whole token. -/
  whole : type.scalarType = .timestampTz → cx.encoding = .current → ∀ s,
    columnScale type = .ok s → (∀ seconds v i, ¬ IndexedToken s token seconds v i) → ∀ zone,
      readInstantIn zone token type cx = .error (.decoding none ⟨.timestamp, token⟩)

/-- **Instants are never shifted** by a session, by the zone they are read for or by that which they
are sent with. -/
theorem instants_never_shifted (token : String) (holds : HoldsInstants type cx cx') :
    NeverShifted token type cx cx' := by
  constructor
  case anywhere =>
    intro zone zone'
    obtain ⟨kind, timestamp, same⟩ := holds.exists_kind
    apply holds.readInstantIn_congr timestamp
    intro s _
    exact alike_decode token kind s cx.zone cx'.zone same
  case sent => exact holds.readInstantIn_eq
  case reindexed =>
    intro is_tz current token' indexed zone zone'
    have current' : cx'.encoding = .current := by
      cases holds with
      | tz _ alike => exact alike.symm.trans current
      | ltz is_ltz => rw [is_ltz] at is_tz; nomatch is_tz
      | ntz is_ntz => rw [is_ntz] at is_tz; nomatch is_tz
    have timestamp : type.scalarType.timestampKind? = some .tz := by
      rw [is_tz]
      rfl
    apply holds.readInstantIn_congr timestamp
    intro s scale
    obtain ⟨seconds, v, i, i', here, there⟩ := indexed s scale
    rw [current, current']
    exact alike_decode_of_indexedToken here there _ _
  case whole =>
    intro is_tz current s scale shapeless zone
    rw [holds.readInstantIn_eq, sentInstant,
      readTimestamp_of_not_indexed is_tz current scale shapeless]
    rfl

/-- Half a second past noon on New Year's Day of 2024 in UTC, on a clock in India. -/
def newYearToken : String := "1704110400.5 1770"

/-- The same on a clock almost a day behind UTC. -/
def newYearTokenWest : String := "1704110400.5 1"

theorem reindexed_newYear : Reindexed ⟨1⟩ newYearToken newYearTokenWest := by
  have value : FixedPoint.decode .timestamp "1704110400.5" ⟨1⟩ =
      .ok ⟨17041104005, ⟨1⟩, by decide⟩ := by
    decide +kernel
  have indexed : ∀ i, Offset.minIndex ≤ i → i ≤ Offset.maxIndex →
      IndexedToken ⟨1⟩ ("1704110400.5" ++ " " ++ String.ofList (intText i)) "1704110400.5"
        ⟨17041104005, ⟨1⟩, by decide⟩ i := by
    intro i low high
    apply IndexedToken.mk (by decide) value _ low high
    simpa using integerText_intText i
  have here : newYearToken = "1704110400.5" ++ " " ++ String.ofList (intText 1770) := by
    decide +kernel
  have there : newYearTokenWest = "1704110400.5" ++ " " ++ String.ofList (intText 1) := by
    decide +kernel
  rw [here, there]
  exact ⟨_, _, _, _, indexed 1770 (by decide) (by decide), indexed 1 (by decide) (by decide)⟩

/-- A session in New York. -/
def newYorkSession : Context := { zone := .newYork, encoding := .current }

/-- A session in Kathmandu, which reads timestamps without a zone as UTC. -/
def kathmanduSession : Context :=
  { zone := .kathmandu, encoding := .current, honorsZone := false }

/-- The token is read for New York and for Kathmandu by the sessions there, and with either index, as
the same instant. -/
theorem instants_never_shifted_newYear :
    HoldsInstants ⟨.timestampTz, 1, false⟩ newYorkSession kathmanduSession ∧
      NeverShifted newYearToken ⟨.timestampTz, 1, false⟩ newYorkSession kathmanduSession ∧
      readInstantIn .newYork newYearToken ⟨.timestampTz, 1, false⟩ newYorkSession =
        .ok ⟨1704110400, 500000000, by decide⟩ ∧
      readInstantIn .newYork newYearToken ⟨.timestampTz, 1, false⟩ newYorkSession =
        readInstantIn .kathmandu newYearTokenWest ⟨.timestampTz, 1, false⟩ kathmanduSession := by
  have holds : HoldsInstants ⟨.timestampTz, 1, false⟩ newYorkSession kathmanduSession :=
    .tz rfl rfl
  have never := instants_never_shifted newYearToken holds
  refine ⟨holds, never, by decide +kernel, never.reindexed rfl rfl _ ?_ _ _⟩
  intro s scale
  obtain rfl : (⟨1⟩ : Scale) = s := Except.ok.inj scale
  exact reindexed_newYear

end Value
end QueryResult
