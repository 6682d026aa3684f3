import QueryResult.Pattern.Render
import QueryResult.Proofs.PatternCut
import QueryResult.Proofs.TimestampToken

/-!
# Tokens of timestamps with their zone

In the current encoding, a timestamp that has a zone of its own is seconds, one space and an index.
`IndexedToken` is that grammar. A token that has this form is read as its seconds, at the offset of
as many minutes as the index is above 1440 (`Means`); the instant is that of the seconds alone, and
the offset shows as a sign, two digits of hours and two of minutes, which make up the index again.
Any other token is handed back whole in the error. The main statement is `zoned_tokens_read`.
-/

namespace QueryResult
open QueryResult.Calendar QueryResult.Number QueryResult.Text

namespace Calendar.Offset

/-- The hours and minutes that are shown of an offset of whole minutes make it up. -/
theorem hours_minutes {o : Offset} {m : Int} (minutes : o.seconds = 60 * m) :
    withSign (decide (m < 0)) (60 * o.hours + o.minutes) = m ∧ o.hours < 24 ∧ o.minutes < 60 := by
  have low := o.lower
  have high := o.upper
  unfold hours Offset.minutes withSign
  rw [minutes] at low high ⊢
  by_cases negative : m < 0
  · rw [if_pos (decide_eq_true negative)]
    omega
  · rw [if_neg (by simpa using negative)]
    omega

end Calendar.Offset

namespace Timestamp

/-! ## The grammar -/

/-- A token that is seconds, one space and the index of a zone: the text of the seconds, their value
at a scale, and the index. -/
inductive IndexedToken (s : Scale) : String → String → FixedPoint → Int → Prop
  | mk {seconds index : String} {v : FixedPoint} {i : Int} (unbroken : ' ' ∉ seconds.toList)
      (value : FixedPoint.decode .timestamp seconds s = .ok v)
      (integer : IntegerText i index.toList) (low : Offset.minIndex ≤ i)
      (high : i ≤ Offset.maxIndex) : IndexedToken s (seconds ++ " " ++ index) seconds v i

/-- Only a text with a space in it is seconds and an index. -/
theorem exists_space_of_parseIndexed? {cs : List Char} {s : Scale} {t : Timestamp}
    (read : parseIndexed? cs s = some t) : ' ' ∈ cs := by
  by_contra unbroken
  have whole : cs.dropWhile (· ≠ ' ') = [] := by
    rw [List.dropWhile_eq_nil_iff]
    intro c mem
    exact decide_eq_true fun space => unbroken (space ▸ mem)
  rw [parseIndexed?, whole] at read
  cases read

theorem decode_tz_eq_ok_iff {token : String} {s : Scale} {session : Zone} {t : Timestamp} :
    decode token .tz s session .current = .ok t ↔
      ∃ seconds v i o, IndexedToken s token seconds v i ∧ o.seconds = 60 * (i - Offset.utcIndex) ∧
        t = ⟨v, .fixed o⟩ := by
  rw [decode_eq_ok_iff, parse?, if_pos ⟨rfl, rfl⟩]
  constructor
  · intro read
    obtain ⟨seconds, index, parts, unbroken⟩ :=
      List.eq_append_cons_of_mem (exists_space_of_parseIndexed? read)
    rw [parts, parseIndexed?_append unbroken] at read
    obtain ⟨v, value, read⟩ := Option.bind_eq_some_iff.1 read
    obtain ⟨o, offset, rfl⟩ := Option.map_eq_some_iff.1 read
    obtain ⟨i, integer, low, high, whole⟩ := Offset.ofIndexText_eq_some_iff.1 offset
    have joined : token = String.ofList seconds ++ " " ++ String.ofList index := by
      apply String.toList_injective
      simp [parts]
    refine ⟨String.ofList seconds, v, i, o, ?_, whole, rfl⟩
    rw [joined]
    apply IndexedToken.mk (by simpa using unbroken) _ (by simpa using integer) low high
    rw [FixedPoint.decode_eq_ok_iff, String.toList_ofList]
    exact value
  · rintro ⟨seconds, v, i, o, ⟨unbroken, value, integer, low, high⟩, whole, rfl⟩
    rename_i index
    have parts : (seconds ++ " " ++ index).toList = seconds.toList ++ ' ' :: index.toList := by
      simp
    rw [parts, parseIndexed?_append unbroken, FixedPoint.decode_eq_ok_iff.1 value,
      Offset.ofIndexText_eq_some_iff.2 ⟨i, integer, low, high, whole⟩]
    rfl

/-! ## The meaning -/

/-- A number of minutes as a sign, two digits of hours and two of minutes. -/
inductive OffsetText (m : Int) : String → Prop
  | mk {hours minutes : List Char} (digits : IsDigits (hours ++ minutes))
      (hours_two : hours.length = 2) (minutes_two : minutes.length = 2)
      (within : digitsValue minutes < 60)
      (total : withSign (decide (m < 0)) (60 * digitsValue hours + digitsValue minutes) = m) :
      OffsetText m (String.ofList ((if m < 0 then '-' else '+') :: hours ++ minutes))

theorem offsetText_of_seconds {o : Offset} {m : Int} (minutes : o.seconds = 60 * m) :
    OffsetText m (String.ofList (o.sign :: padded 2 o.hours ++ padded 2 o.minutes)) := by
  obtain ⟨total, hours_lt, minutes_lt⟩ := Offset.hours_minutes minutes
  have hundred : tenTo 2 = 100 := rfl
  have sign : o.sign = if m < 0 then '-' else '+' := by
    unfold Offset.sign
    rw [minutes]
    split <;> split <;> first | rfl | omega
  rw [sign]
  apply OffsetText.mk
  · exact (isDigits_padded 2 _).append (isDigits_padded 2 _)
  · exact length_padded (by decide) (by omega)
  · exact length_padded (by decide) (by omega)
  · rw [digitsValue_padded]
    exact minutes_lt
  · rw [digitsValue_padded, digitsValue_padded]
    exact total

/-- The pattern of an offset: its hours with the sign and its minutes. -/
theorem compile_offset :
    Pattern.compile "TZHTZM" =
      .ok ⟨"TZHTZM", [.element .offsetHours, .element .offsetMinutes]⟩ := by
  have hours : Pattern.Element.offsetHours.Longest 3 "TZHTZM".toList :=
    Pattern.Element.leading?_eq_some_iff.1 (by decide)
  have minutes : Pattern.Element.offsetMinutes.Longest 3 "TZM".toList :=
    Pattern.Element.leading?_eq_some_iff.1 (by decide)
  have tail : Pattern.Cut [.element .offsetMinutes] (['T', 'Z', 'M'] ++ []) :=
    .element minutes .done
  have cut : Pattern.Cut [.element .offsetHours, .element .offsetMinutes]
      (['T', 'Z', 'H'] ++ (['T', 'Z', 'M'] ++ [])) :=
    .element hours tail
  exact Pattern.compile_eq_ok_iff.2 ⟨rfl, _, Pattern.pieces?_of_cut cut, rfl⟩

/-- What a timestamp is that was read from seconds and an index. -/
structure Means (t : Timestamp) (seconds : String) (s : Scale) (v : FixedPoint) (i : Int) :
    Prop where
  value : t.value = v
  /-- The zone is the offset of as many minutes as the index is above that of UTC. -/
  zone : ∃ o, t.zone = .fixed o ∧ o.seconds = 60 * (i - Offset.utcIndex)
  /-- The instant is the one that the seconds alone have. -/
  alone : ∀ session, ∃ u, decode seconds .ntz s session .current = .ok u ∧ u.value = t.value ∧
    u.instant = t.instant
  /-- If there is one, the clock is at that offset then. -/
  zoned : ∀ x, t.instant = .ok x → ∃ z, t.zoned = .ok z ∧ z.instant = x ∧
    z.offset.seconds = 60 * (i - Offset.utcIndex)
  /-- The offset is shown with the number of its minutes. -/
  shown : ∀ z, t.zoned = .ok z → z.wallClock.InRange → ∃ p text,
    Pattern.compile "TZHTZM" = .ok p ∧ p.formatTimestamp t = .ok text ∧
      OffsetText (i - Offset.utcIndex) text

theorem means_of_indexedToken {token seconds : String} {s : Scale} {v : FixedPoint} {i : Int}
    (indexed : IndexedToken s token seconds v i) {o : Offset}
    (whole : o.seconds = 60 * (i - Offset.utcIndex)) : Means ⟨v, .fixed o⟩ seconds s v i where
  value := rfl
  zone := ⟨o, rfl, whole⟩
  alone session := by
    obtain ⟨-, value, -, -, -⟩ := indexed
    refine ⟨⟨v, .named .utc⟩, ?_, rfl, instant_congr rfl (by simp) (by simp)⟩
    rw [decode_eq_ok_iff, parse?, if_neg (by decide), FixedPoint.decode_eq_ok_iff.1 value]
    rfl
  zoned x found := ⟨⟨x, o⟩, zoned_eq_ok_iff.2 ⟨found, rfl⟩, rfl, whole⟩
  shown z zoned _ := by
    obtain ⟨-, offset⟩ := zoned_eq_ok_iff.1 zoned
    obtain rfl := Option.some.inj offset
    refine ⟨_, _, compile_offset, ?_, offsetText_of_seconds whole⟩
    rw [Pattern.formatTimestamp, zoned]
    simp [Except.map, Pattern.render, Pattern.Item.render, Pattern.Element.render]

/-- How tokens of timestamps with their zone are read. -/
structure ZonedTokensRead (token : String) (s : Scale) (session : Zone) : Prop where
  /-- Those are taken that are seconds, one space and an index. -/
  accepted : (∃ t, decode token .tz s session .current = .ok t) ↔
    ∃ seconds v i, IndexedToken s token seconds v i
  /-- They are read as what they say. -/
  meaning : ∀ t seconds v i, decode token .tz s session .current = .ok t →
    IndexedToken s token seconds v i → Means t seconds s v i
  /-- All others are handed back whole. -/
  refused : ∀ e, decode token .tz s session .current = .error e ↔
    e = ⟨.timestamp, token⟩ ∧ ∀ seconds v i, ¬ IndexedToken s token seconds v i

theorem exists_offset {i : Int} (low : Offset.minIndex ≤ i) (high : i ≤ Offset.maxIndex) :
    ∃ o : Offset, o.seconds = 60 * (i - Offset.utcIndex) := by
  unfold Offset.minIndex Offset.maxIndex at *
  refine ⟨⟨60 * (i - Offset.utcIndex), ?_, ?_⟩, rfl⟩ <;> unfold Offset.utcIndex <;> omega

/-- An indexed token is read, and as nothing but its seconds at the offset of its index. -/
theorem decode_of_indexedToken {token seconds : String} {s : Scale} {v : FixedPoint} {i : Int}
    (indexed : IndexedToken s token seconds v i) (session : Zone) :
    ∃ o : Offset, o.seconds = 60 * (i - Offset.utcIndex) ∧
      decode token .tz s session .current = .ok ⟨v, .fixed o⟩ := by
  obtain ⟨o, whole⟩ : ∃ o : Offset, o.seconds = 60 * (i - Offset.utcIndex) := by
    obtain ⟨-, -, -, low, high⟩ := indexed
    exact exists_offset low high
  exact ⟨o, whole, decode_tz_eq_ok_iff.2 ⟨seconds, v, i, o, indexed, whole, rfl⟩⟩

theorem decode_eq_error_iff {token : String} {kind : TimestampKind} {s : Scale} {session : Zone}
    {encoding : ZoneEncoding} {e : DecodeError} :
    decode token kind s session encoding = .error e ↔
      e = ⟨.timestamp, token⟩ ∧ ∀ t, decode token kind s session encoding ≠ .ok t := by
  unfold decode
  split <;> simp [eq_comm]

/-- **Timestamps with their zone are read by the grammar of their tokens.** -/
theorem zoned_tokens_read (token : String) (s : Scale) (session : Zone) :
    ZonedTokensRead token s session where
  accepted := by
    constructor
    · rintro ⟨t, read⟩
      obtain ⟨seconds, v, i, o, indexed, -, -⟩ := decode_tz_eq_ok_iff.1 read
      exact ⟨seconds, v, i, indexed⟩
    · rintro ⟨seconds, v, i, indexed⟩
      obtain ⟨o, -, read⟩ := decode_of_indexedToken indexed session
      exact ⟨_, read⟩
  meaning t seconds v i read indexed := by
    obtain ⟨o, whole, read'⟩ := decode_of_indexedToken indexed session
    rw [read] at read'
    obtain rfl := Except.ok.inj read'
    exact means_of_indexedToken indexed whole
  refused e := by
    rw [decode_eq_error_iff]
    refine and_congr_right fun _ => ?_
    constructor
    · intro unread seconds v i indexed
      obtain ⟨o, -, read⟩ := decode_of_indexedToken indexed session
      exact unread _ read
    · intro ungrammatical t read
      obtain ⟨seconds, v, i, o, indexed, -, -⟩ := decode_tz_eq_ok_iff.1 read
      exact ungrammatical seconds v i indexed

/-- Half an hour behind UTC there are no hours, and the sign stays. -/
example : ((Pattern.compile "TZHTZM").toOption.bind fun p =>
    (decode "0 1410" .tz .seconds .utc .current).toOption.bind fun t =>
      (p.formatTimestamp t).toOption) = some "-0030" := by
  decide +kernel

end Timestamp
end QueryResult
