import QueryResult.Proofs.FixedPointToken
import QueryResult.Temporal.Timestamp

/-!
# Timestamps and their tokens

A timestamp without a zone of its own always has a token. One with a zone has a token exactly if the
calendar reaches its instant and its offset there is of whole minutes (`exists_encode_tz_iff`). Every
token is read back as the value that it was made of; a named zone comes back as the offset that was
in force. The main statement, `tokens_read_back`, gathers the kinds and the forms of zones.
-/

namespace QueryResult
open QueryResult.Calendar QueryResult.Number QueryResult.Text

namespace Number.FixedPoint

/-- Whether the calendar reaches the second that a value falls in. -/
def InCalendar (v : FixedPoint) : Prop :=
  Instant.minSeconds ≤ v.wholeSeconds ∧ v.wholeSeconds ≤ Instant.maxSeconds

theorem perSecond_mul_nanosPerUnit {s : Scale} (valid : s.Valid) :
    s.perSecond * s.nanosPerUnit = nanosPerSecond := by
  have nine : s.digits + (Scale.nanos.digits - s.digits) = 9 := by
    have : s.digits ≤ 9 := valid
    have : Scale.nanos.digits = 9 := rfl
    omega
  rw [Scale.perSecond, Scale.nanosPerUnit, ← tenTo_add, nine]
  rfl

theorem zero_lt_perSecond (v : FixedPoint) : (0 : Int) < v.scale.perSecond := by
  exact_mod_cast v.scale.perSecond_pos

/-- The units above the whole seconds are fewer than those of a second. -/
theorem rest_range (v : FixedPoint) :
    0 ≤ v.fractions % v.scale.perSecond ∧ v.fractions % v.scale.perSecond < v.scale.perSecond :=
  ⟨Int.emod_nonneg _ v.zero_lt_perSecond.ne', Int.emod_lt_of_pos _ v.zero_lt_perSecond⟩

/-- What is above the whole seconds is less than a second. -/
theorem nanos_lt {v : FixedPoint} (valid : v.scale.Valid) : v.nanos < nanosPerSecond := by
  obtain ⟨nonneg, below⟩ := v.rest_range
  have unit : 0 < v.scale.nanosPerUnit := tenTo_pos _
  rw [nanos, ← perSecond_mul_nanosPerUnit valid]
  exact Nat.mul_lt_mul_of_pos_right (by omega) unit

end Number.FixedPoint

namespace Calendar.Offset

/-- The index that a text spells, as an offset. -/
theorem ofIndexText_eq_some_iff {cs : List Char} {o : Offset} :
    (integerOfWidth? 64 cs).bind ofIndex? = some o ↔
      ∃ i, IntegerText i cs ∧ minIndex ≤ i ∧ i ≤ maxIndex ∧ o.seconds = 60 * (i - utcIndex) := by
  simp only [Option.bind_eq_some_iff, integerOfWidth?_eq_some_iff, integer?_eq_some_iff,
    ofIndex?_eq_some_iff]
  constructor
  · rintro ⟨i, ⟨text, -⟩, range⟩
    exact ⟨i, text, range⟩
  · rintro ⟨i, text, low, high, seconds⟩
    have width : twoTo (64 - 1) = 9223372036854775808 := by decide
    refine ⟨i, ⟨text, ?_⟩, low, high, seconds⟩
    unfold minIndex maxIndex at *
    unfold FitsSigned
    omega

end Calendar.Offset

namespace Timestamp
open Number.FixedPoint

/-! ## Instants -/

/-- The instant of a timestamp, which is there exactly if the calendar reaches it. -/
theorem instant_eq_ok_iff {t : Timestamp} (valid : t.value.scale.Valid)
    (resolved : t.zone ≠ .unresolved) {i : Instant} :
    t.instant = .ok i ↔
      t.value.InCalendar ∧ i.seconds = t.value.wholeSeconds ∧ i.nano = t.value.nanos := by
  unfold instant
  rw [if_neg resolved]
  by_cases reached : t.value.InCalendar
  · have found : Instant.ofEpoch? t.value.wholeSeconds t.value.nanos =
        some ⟨t.value.wholeSeconds, t.value.nanos, by have := nanos_lt valid; omega⟩ := by
      rw [Instant.ofEpoch?, dif_pos ⟨nanos_lt valid, reached⟩]
    simp only [found, Except.ok.injEq, Instant.ext_iff]
    exact ⟨fun h => ⟨reached, h.1.symm, h.2.symm⟩, fun h => ⟨h.2.1.symm, h.2.2.symm⟩⟩
  · have missing : Instant.ofEpoch? t.value.wholeSeconds t.value.nanos = none := by
      rw [Instant.ofEpoch?, dif_neg fun h => reached h.2]
    simp [missing, reached]

theorem exists_instant_iff {t : Timestamp} (valid : t.value.scale.Valid)
    (resolved : t.zone ≠ .unresolved) : (∃ i, t.instant = .ok i) ↔ t.value.InCalendar := by
  constructor
  · rintro ⟨i, h⟩
    exact ((instant_eq_ok_iff valid resolved).1 h).1
  · intro reached
    exact ⟨⟨t.value.wholeSeconds, t.value.nanos, by have := nanos_lt valid; omega⟩,
      (instant_eq_ok_iff valid resolved).2 ⟨reached, rfl, rfl⟩⟩

/-- The instant does not depend on the zone, as long as there is one. -/
theorem instant_congr {t u : Timestamp} (value : t.value = u.value) (ht : t.zone ≠ .unresolved)
    (hu : u.zone ≠ .unresolved) : t.instant = u.instant := by
  rw [instant, instant, if_neg ht, if_neg hu, value]

theorem zoned_eq_ok_iff {t : Timestamp} {z : Zoned} :
    t.zoned = .ok z ↔ t.instant = .ok z.instant ∧ t.zone.offsetAt? z.instant.seconds = some z.offset := by
  unfold zoned
  cases t.instant with
  | error e => simp [bind, Except.bind]
  | ok i =>
    simp only [bind, Except.bind]
    cases at_ : t.zone.offsetAt? i.seconds with
    | none =>
      simp only [reduceCtorEq, Except.ok.injEq, false_iff, not_and]
      rintro rfl
      simp [at_]
    | some o =>
      obtain ⟨j, p⟩ := z
      simp only [Except.ok.injEq, Zoned.mk.injEq]
      constructor
      · rintro ⟨rfl, rfl⟩
        exact ⟨rfl, at_⟩
      · rintro ⟨rfl, found⟩
        exact ⟨rfl, Option.some.inj (at_.symm.trans found)⟩

/-! ## Writing -/

theorem zoneIndex?_eq_some_iff {t : Timestamp} {index : Int} :
    t.zoneIndex? = some index ↔ ∃ z, t.zoned = .ok z ∧ z.offset.index? = some index := by
  unfold zoneIndex?
  cases t.zoned with
  | error e => simp
  | ok z => simp

theorem encode_tz_eq_some_iff {t : Timestamp} {s : String} :
    t.encode .tz = some s ↔ ∃ i o index, t.instant = .ok i ∧ t.zone.offsetAt? i.seconds = some o ∧
      o.index? = some index ∧ s = t.value.encode ++ " " ++ String.ofList (intText index) := by
  simp only [encode, Option.map_eq_some_iff, zoneIndex?_eq_some_iff, zoned_eq_ok_iff]
  constructor
  · rintro ⟨index, ⟨z, ⟨found, offset⟩, named⟩, rfl⟩
    exact ⟨z.instant, z.offset, index, found, offset, named, rfl⟩
  · rintro ⟨i, o, index, found, offset, named, rfl⟩
    exact ⟨index, ⟨⟨i, o⟩, ⟨found, offset⟩, named⟩, rfl⟩

theorem offsetAt?_ne_none {zone : DisplayZone} {second : Int} {o : Offset}
    (h : zone.offsetAt? second = some o) : zone ≠ .unresolved := by
  rintro rfl
  exact absurd h (by simp [DisplayZone.offsetAt?])

/-- An offset has an index exactly if it is of whole minutes. -/
theorem exists_index?_iff {o : Offset} : (∃ index, o.index? = some index) ↔ o.seconds % 60 = 0 := by
  unfold Offset.index?
  split <;> rename_i h <;> simp [h]

/-- A timestamp has a token with its zone exactly if the calendar reaches its instant and its offset
there is of whole minutes. -/
theorem exists_encode_tz_iff {t : Timestamp} (valid : t.value.scale.Valid) :
    (∃ s, t.encode .tz = some s) ↔
      t.value.InCalendar ∧
        ∃ o, t.zone.offsetAt? t.value.wholeSeconds = some o ∧ o.seconds % 60 = 0 := by
  constructor
  · rintro ⟨s, h⟩
    obtain ⟨i, o, index, found, offset, named, -⟩ := encode_tz_eq_some_iff.1 h
    obtain ⟨reached, seconds, -⟩ := (instant_eq_ok_iff valid (offsetAt?_ne_none offset)).1 found
    rw [seconds] at offset
    exact ⟨reached, o, offset, exists_index?_iff.1 ⟨index, named⟩⟩
  · rintro ⟨reached, o, offset, minutes⟩
    obtain ⟨i, found⟩ := (exists_instant_iff valid (offsetAt?_ne_none offset)).2 reached
    obtain ⟨index, named⟩ := exists_index?_iff.2 minutes
    obtain ⟨-, seconds, -⟩ := (instant_eq_ok_iff valid (offsetAt?_ne_none offset)).1 found
    rw [← seconds] at offset
    exact ⟨_, encode_tz_eq_some_iff.2 ⟨i, o, index, found, offset, named, rfl⟩⟩

/-! ## Reading back -/

theorem decode_eq_ok_iff {token : String} {kind : TimestampKind} {s : Scale} {session : Zone}
    {encoding : ZoneEncoding} {t : Timestamp} :
    decode token kind s session encoding = .ok t ↔
      parse? token.toList kind s session encoding = some t := by
  unfold decode
  split <;> rename_i read <;> simp [read]

/-- A token is split at its first space. -/
theorem parseIndexed?_append {seconds index : List Char} (unbroken : ' ' ∉ seconds) (s : Scale) :
    parseIndexed? (seconds ++ ' ' :: index) s =
      (FixedPoint.parse? seconds s).bind fun value =>
        ((integerOfWidth? 64 index).bind Offset.ofIndex?).map fun o => ⟨value, .fixed o⟩ := by
  have before : ∀ c ∈ seconds, decide (c ≠ ' ') = true := by
    intro c hc
    exact decide_eq_true fun e => unbroken (e ▸ hc)
  have taken : (seconds ++ ' ' :: index).takeWhile (· ≠ ' ') = seconds := by
    rw [List.takeWhile_append_of_pos before]
    simp
  have left : (seconds ++ ' ' :: index).dropWhile (· ≠ ' ') = ' ' :: index := by
    rw [List.dropWhile_append_of_pos before]
    simp
  rw [parseIndexed?, left, taken]
  simp only [Option.bind_eq_bind, Option.pure_def, Option.map_eq_bind, Function.comp_def]

/-- The index of an offset is read back as the offset. -/
theorem ofIndex?_of_intText {o : Offset} {index : Int} (named : o.index? = some index) :
    (integerOfWidth? 64 (intText index)).bind Offset.ofIndex? = some o := by
  obtain ⟨low, high, whole⟩ :=
    Offset.ofIndex?_eq_some_iff.1 (Offset.index?_eq_some_iff_ofIndex?.1 named)
  exact Offset.ofIndexText_eq_some_iff.2 ⟨index, integerText_intText index, low, high, whole⟩

/-- A token with a zone is read back with the value it was made of, at the offset that was in force
at its instant. -/
theorem decode_of_encode_tz {t : Timestamp} (valid : t.value.scale.Valid) {s : String}
    (h : t.encode .tz = some s) (session : Zone) :
    ∃ o, t.zone.offsetAt? t.value.wholeSeconds = some o ∧
      decode s .tz t.value.scale session .current = .ok ⟨t.value, .fixed o⟩ := by
  obtain ⟨i, o, index, found, offset, named, rfl⟩ := encode_tz_eq_some_iff.1 h
  obtain ⟨-, seconds, -⟩ := (instant_eq_ok_iff valid (offsetAt?_ne_none offset)).1 found
  rw [seconds] at offset
  refine ⟨o, offset, decode_eq_ok_iff.2 ?_⟩
  have text : (t.value.encode ++ " " ++ String.ofList (intText index)).toList =
      t.value.encode.toList ++ ' ' :: intText index := by
    simp
  have unbroken : ' ' ∉ t.value.encode.toList := t.value.spells_encode.not_mem_space
  rw [parse?, if_pos ⟨rfl, rfl⟩, text, parseIndexed?_append unbroken, parse?_encode valid,
    ofIndex?_of_intText named]
  rfl

/-- A token without a zone of its own is read back with the value it was made of. -/
theorem decode_encode_of_ne_tz {v : FixedPoint} (valid : v.scale.Valid) {kind : TimestampKind}
    (ne : kind ≠ .tz) (session : Zone) :
    decode v.encode kind v.scale session .current = .ok ⟨v, zoneOfKind session kind⟩ := by
  rw [decode_eq_ok_iff, parse?, if_neg fun h => ne h.1, parse?_encode valid]
  rfl

/-- How the timestamps of a value are written and read back, kind by kind and zone by zone. -/
structure TokensReadBack (v : FixedPoint) : Prop where
  /-- Without a zone there is always a token, whatever the session. -/
  ntz : ∀ session, ∃ s, encode ⟨v, .named .utc⟩ .ntz = some s ∧
    decode s .ntz v.scale session .current = .ok ⟨v, .named .utc⟩
  /-- In the zone of the session there is always a token. -/
  ltz : ∀ session, ∃ s, encode ⟨v, .named session⟩ .ltz = some s ∧
    decode s .ltz v.scale session .current = .ok ⟨v, .named session⟩
  /-- At a fixed offset, when that is of whole minutes. -/
  fixed : ∀ o, (∃ s, encode ⟨v, .fixed o⟩ .tz = some s) ↔ o.seconds % 60 = 0 ∧ v.InCalendar
  fixed_back : ∀ o s session, encode ⟨v, .fixed o⟩ .tz = some s →
    decode s .tz v.scale session .current = .ok ⟨v, .fixed o⟩
  /-- In a named zone, when its offset at the instant is of whole minutes. -/
  named : ∀ z : Zone, (∃ s, encode ⟨v, .named z⟩ .tz = some s) ↔
    v.InCalendar ∧ (z.offsetAt v.wholeSeconds).seconds % 60 = 0
  /-- The zone comes back as an offset, under which the instant and the clock stay the same. -/
  named_back : ∀ (z : Zone) s session, encode ⟨v, .named z⟩ .tz = some s →
    ∃ u i, decode s .tz v.scale session .current = .ok u ∧ u.value = v ∧
      u.zone = .fixed (z.offsetAt v.wholeSeconds) ∧
      u.instant = .ok i ∧ instant ⟨v, .named z⟩ = .ok i ∧
      u.zoned = .ok (z.zoned i) ∧ zoned ⟨v, .named z⟩ = .ok (z.zoned i)
  /-- While the zone is not known there is no token that carries it. -/
  unresolved : encode ⟨v, .unresolved⟩ .tz = none

/-- **Timestamps are read back from their tokens**, for every value and every zone. -/
theorem tokens_read_back (v : FixedPoint) (valid : v.scale.Valid) : TokensReadBack v where
  ntz session := ⟨v.encode, rfl, decode_encode_of_ne_tz valid (by decide) session⟩
  ltz session := ⟨v.encode, rfl, decode_encode_of_ne_tz valid (by decide) session⟩
  fixed o := by
    rw [exists_encode_tz_iff (t := ⟨v, .fixed o⟩) valid, and_comm]
    simp [DisplayZone.offsetAt?]
  fixed_back o s session h := by
    obtain ⟨p, offset, read⟩ := decode_of_encode_tz (t := ⟨v, .fixed o⟩) valid h session
    obtain rfl := Option.some.inj offset
    exact read
  named z := by
    rw [exists_encode_tz_iff (t := ⟨v, .named z⟩) valid]
    simp [DisplayZone.offsetAt?]
  named_back z s session h := by
    obtain ⟨o, offset, read⟩ := decode_of_encode_tz (t := ⟨v, .named z⟩) valid h session
    obtain rfl := Option.some.inj offset
    have reached := ((exists_encode_tz_iff (t := ⟨v, .named z⟩) valid).1 ⟨s, h⟩).1
    obtain ⟨i, found⟩ := (exists_instant_iff (t := ⟨v, .named z⟩) valid (by simp)).2 reached
    obtain ⟨-, seconds, -⟩ := (instant_eq_ok_iff (t := ⟨v, .named z⟩) valid (by simp)).1 found
    have same : instant ⟨v, .fixed (z.offsetAt v.wholeSeconds)⟩ = .ok i := by
      rw [← found]
      exact instant_congr rfl (by simp) (by simp)
    have offset_eq : z.zoned i = ⟨i, z.offsetAt v.wholeSeconds⟩ := by
      rw [Zone.zoned, seconds]
    refine ⟨_, i, read, rfl, rfl, same, found, ?_, ?_⟩
    · rw [offset_eq]
      exact zoned_eq_ok_iff.2 ⟨same, rfl⟩
    · exact zoned_eq_ok_iff.2 ⟨found, rfl⟩
  unresolved := by
    rw [Option.eq_none_iff_forall_ne_some]
    intro s h
    obtain ⟨o, offset, -⟩ := decode_of_encode_tz (t := ⟨v, .unresolved⟩) valid h .utc
    exact absurd offset (by simp [DisplayZone.offsetAt?])

/-- The least value of 128 bits at nanoseconds, whose tokens have 39 digits. -/
theorem tokens_read_back_least :
    Scale.nanos.Valid ∧
      TokensReadBack ⟨-170141183460469231731687303715884105728, .nanos, by decide⟩ :=
  ⟨by decide, tokens_read_back _ (by decide)⟩

end Timestamp
end QueryResult
