import QueryResult.Pattern.Render
import QueryResult.Proofs.TimestampToken

/-!
# Tokens of the legacy encoding

In the legacy encoding a timestamp with a zone of its own is seconds alone. Which zone it is cannot
be told from them, and until it is supplied nothing is guessed (`Withheld`): there is no instant, no
clock reading, no text and no token with a zone, whether the calendar reaches the seconds or not.
Once the offset is supplied, the timestamp is the one that the current encoding spells with the index
of that offset behind the same seconds, for every token, also for those that neither encoding takes.
The main statement is `legacy_tokens_completed`.
-/

namespace QueryResult
open QueryResult.Calendar QueryResult.Number QueryResult.Text

/-- No text with a space in it spells a fixed point value. -/
theorem Number.FixedPoint.parse?_eq_none_of_space {cs : List Char} (space : ' ' ∈ cs) (s : Scale) :
    parse? cs s = none := by
  rw [Option.eq_none_iff_forall_ne_some]
  intro v read
  obtain ⟨-, n, spells, -⟩ := parse?_eq_some_iff_denotes.1 read
  exact spells.not_mem_space space

/-- Nor an offset. -/
theorem Calendar.Offset.ofIndexText_eq_none_of_space {cs : List Char} (space : ' ' ∈ cs) :
    (integerOfWidth? 64 cs).bind ofIndex? = none := by
  rw [Option.eq_none_iff_forall_ne_some]
  intro o read
  obtain ⟨i, text, -⟩ := ofIndexText_eq_some_iff.1 read
  exact text.not_mem_space space

namespace Timestamp

variable {token : String} {s : Scale} {session : Zone} {t : Timestamp} {o : Offset} {i : Int}

/-! ## Two encodings -/

/-- Behind an index, a text is read as it is without one, also where the space in front of the index
is not the first. -/
theorem parseIndexed?_append_index (cs : List Char) (s : Scale) (named : o.index? = some i) :
    parseIndexed? (cs ++ ' ' :: intText i) s =
      (FixedPoint.parse? cs s).map fun v => ⟨v, .fixed o⟩ := by
  by_cases space : ' ' ∈ cs
  · -- The text is cut within, so that the index has a space in it; as a whole it is no seconds.
    obtain ⟨seconds, rest, rfl, unbroken⟩ := List.eq_append_cons_of_mem space
    have inIndex : ' ' ∈ rest ++ ' ' :: intText i := by simp
    rw [List.append_assoc, List.cons_append, parseIndexed?_append unbroken,
      Offset.ofIndexText_eq_none_of_space inIndex, FixedPoint.parse?_eq_none_of_space space]
    cases FixedPoint.parse? seconds s <;> rfl
  · rw [parseIndexed?_append space, ofIndex?_of_intText named]
    cases FixedPoint.parse? cs s <;> rfl

theorem toOption_decode (token : String) (kind : TimestampKind) (s : Scale) (session : Zone)
    (encoding : ZoneEncoding) :
    (decode token kind s session encoding).toOption =
      parse? token.toList kind s session encoding := by
  unfold decode
  split <;> rename_i read <;> rw [read] <;> rfl

/-- A token of the legacy encoding is read as its seconds, whatever the session. -/
theorem decode_legacy (token : String) (s : Scale) (session : Zone) :
    decode token .tz s session .legacy =
      (FixedPoint.decode .timestamp token s).map (⟨·, .unresolved⟩) := by
  rw [decode, FixedPoint.decode, parse?, if_neg (by simp)]
  cases FixedPoint.parse? token.toList s <;> rfl

theorem decode_legacy_eq_ok_iff : decode token .tz s session .legacy = .ok t ↔
    ∃ v, FixedPoint.decode .timestamp token s = .ok v ∧ t = ⟨v, .unresolved⟩ := by
  rw [decode_legacy]
  cases FixedPoint.decode .timestamp token s <;> simp [Except.map, eq_comm]

/-- The index of an offset behind a token makes it one of the current encoding. -/
theorem resolve_decode_legacy (token : String) (s : Scale) (session session' : Zone)
    (named : o.index? = some i) :
    (decode token .tz s session .legacy).toOption.map (·.resolveZone o) =
      (decode (token ++ " " ++ String.ofList (intText i)) .tz s session' .current).toOption := by
  have text : (token ++ " " ++ String.ofList (intText i)).toList =
      token.toList ++ ' ' :: intText i := by
    simp
  rw [toOption_decode, toOption_decode, parse?, if_neg (by simp), parse?, if_pos ⟨rfl, rfl⟩, text,
    parseIndexed?_append_index _ s named, Option.map_map]
  rfl

/-! ## Timestamps without a known zone -/

/-- That a timestamp gives away nothing for which its zone would have to be known. -/
structure Withheld (t : Timestamp) : Prop where
  instant : t.instant = .error .unresolvedZone
  utcClock : t.utcClock = .error .unresolvedZone
  zoned : t.zoned = .error .unresolvedZone
  reinterpretIn : ∀ zone, t.reinterpretIn zone = .error .unresolvedZone
  text : ∀ p : Pattern, p.formatTimestamp t = .error .unresolvedZone
  encode : t.encode .tz = none

theorem withheld_of_unresolved (unresolved : t.zone = .unresolved) : Withheld t := by
  have instant : t.instant = .error .unresolvedZone := if_pos unresolved
  have utcClock : t.utcClock = .error .unresolvedZone := by
    rw [Timestamp.utcClock, instant]
    rfl
  have zoned : t.zoned = .error .unresolvedZone := by
    rw [Timestamp.zoned, instant]
    rfl
  constructor
  case instant => exact instant
  case utcClock => exact utcClock
  case zoned => exact zoned
  case reinterpretIn =>
    intro zone
    rw [Timestamp.reinterpretIn, utcClock]
    rfl
  case text =>
    intro p
    rw [Pattern.formatTimestamp, zoned]
    rfl
  case encode =>
    rw [Timestamp.encode, zoneIndex?, zoned]
    rfl

/-- Beyond the calendar there is no instant, but only a known zone lets that be told. -/
theorem instant_of_beyond (resolved : t.zone ≠ .unresolved) (beyond : ¬ t.value.InCalendar) :
    t.instant = .error (.outOfRange t.value) := by
  rw [instant, if_neg resolved, Instant.ofEpoch?, dif_neg fun h => beyond h.2]

/-! ## Completion -/

/-- What is known of a timestamp from the text of its seconds at a scale. -/
structure OfSeconds (token : String) (s : Scale) (t : Timestamp) : Prop where
  scale : t.value.scale = s
  fractions : FixedPoint.Denotes token.toList s t.value.fractions
  /-- As timestamps of the other kinds, the seconds are written as those that the text spells. -/
  encode : ∀ kind, kind ≠ .tz → ∀ session encoding, ∃ u,
    decode token kind s session encoding = .ok u ∧ u.value = t.value ∧
      t.encode kind = u.encode kind ∧ t.encode kind = some t.value.encode

theorem ofSeconds_of_decode {v : FixedPoint}
    (spelled : FixedPoint.decode .timestamp token s = .ok v) (zone : DisplayZone) :
    OfSeconds token s ⟨v, zone⟩ := by
  rw [FixedPoint.decode_eq_ok_iff] at spelled
  obtain ⟨scale, fractions⟩ := FixedPoint.parse?_eq_some_iff_denotes.1 spelled
  constructor
  case scale => exact scale
  case fractions => exact fractions
  case encode =>
    intro kind ne session encoding
    refine ⟨⟨v, zoneOfKind session kind⟩, ?_, rfl, ?_⟩
    · rw [decode_eq_ok_iff, parse?, if_neg fun h => ne h.1, spelled]
      rfl
    · cases kind with
      | ntz => exact ⟨rfl, rfl⟩
      | ltz => exact ⟨rfl, rfl⟩
      | tz => exact absurd rfl ne

/-- How a token of the legacy encoding is read, before and after its zone is known. -/
structure LegacyTokenCompleted (token : String) (s : Scale) : Prop where
  /-- It is taken exactly if it is the text of seconds, and handed back in the error if not. -/
  accepted : ∀ session, decode token .tz s session .legacy =
    (FixedPoint.decode .timestamp token s).map (⟨·, .unresolved⟩)
  /-- With an offset it is what the current encoding spells with the index of the offset; what the
  one encoding refuses, the other refuses too. -/
  completed : ∀ session session' o i, o.index? = some i →
    (decode token .tz s session .legacy).toOption.map (·.resolveZone o) =
      (decode (token ++ " " ++ String.ofList (intText i)) .tz s session' .current).toOption
  /-- Without one, nothing is said that depends on it. -/
  withheld : ∀ session t, decode token .tz s session .legacy = .ok t → Withheld t
  /-- Only then is it told whether the calendar reaches the timestamp. -/
  beyond : ∀ session t, decode token .tz s session .legacy = .ok t → ¬ t.value.InCalendar →
    ∀ o, (t.resolveZone o).instant = .error (.outOfRange t.value)
  seconds : ∀ session t, decode token .tz s session .legacy = .ok t → OfSeconds token s t

/-- **Legacy tokens are completed to current ones**, and tell nothing of a zone before. -/
theorem legacy_tokens_completed (token : String) (s : Scale) : LegacyTokenCompleted token s := by
  constructor
  case accepted => exact decode_legacy token s
  case completed =>
    exact fun session session' o i named => resolve_decode_legacy token s session session' named
  case withheld =>
    intro session t read
    obtain ⟨v, -, rfl⟩ := decode_legacy_eq_ok_iff.1 read
    exact withheld_of_unresolved rfl
  case beyond =>
    intro session t read beyond o
    exact instant_of_beyond (t := t.resolveZone o) nofun beyond
  case seconds =>
    intro session t read
    obtain ⟨v, spelled, rfl⟩ := decode_legacy_eq_ok_iff.1 read
    exact ofSeconds_of_decode spelled .unresolved

/-- What the calendar does not reach is refused for its zone as long as that is not known. -/
example : (decode "99999999999999" .tz ⟨3⟩ .utc .legacy).toOption.map instant =
    some (.error .unresolvedZone) := by
  decide +kernel

end Timestamp
end QueryResult
