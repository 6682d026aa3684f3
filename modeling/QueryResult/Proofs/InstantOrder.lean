import QueryResult.Proofs.ScaleBounds

/-!
# Instants in the order of their values

The values of timestamps of different scales are compared in nanoseconds, the common unit of all
scales. A value splits into whole seconds and less than a second of nanoseconds without losing any
of them (`split_epochNanos`), so that the instant of a timestamp is exactly its value, and instants
are in the order of the values whatever the scales and the zones are. None of the steps leaves its
width on the way: the whole seconds are narrowed to 64 bits only where the calendar reaches
(`instantIn?_eq_some`). The main statement is `instant_exact_and_ordered`.
-/

namespace QueryResult
open QueryResult.Calendar QueryResult.Number

/-! ## Nanoseconds since the epoch -/

namespace Number.FixedPoint

/-- The nanoseconds that a value stands for. -/
def epochNanos (v : FixedPoint) : Int :=
  v.fractions * v.scale.nanosPerUnit

/-- The whole seconds and the nanoseconds above them make up the value. -/
theorem split_epochNanos {v : FixedPoint} (valid : v.scale.Valid) :
    v.wholeSeconds * nanosPerSecond + v.nanos = v.epochNanos := by
  have rest : ((v.fractions % v.scale.perSecond).toNat : Int) = v.fractions % v.scale.perSecond :=
    Int.toNat_of_nonneg v.rest_range.1
  have second : (nanosPerSecond : Int) = v.scale.perSecond * v.scale.nanosPerUnit := by
    exact_mod_cast (perSecond_mul_nanosPerUnit valid).symm
  calc v.wholeSeconds * nanosPerSecond + v.nanos
      = (v.wholeSeconds * v.scale.perSecond + v.fractions % v.scale.perSecond) *
          v.scale.nanosPerUnit := by
        rw [second, nanos, Nat.cast_mul, rest]
        ring
    _ = v.epochNanos := by rw [split_units, epochNanos]

/-- A quarter of a second before the epoch lies in the second before it. -/
example : (⟨-250, ⟨3⟩, by decide⟩ : FixedPoint).split = (-1, 750000000) := by decide

end Number.FixedPoint

namespace Calendar.Instant

/-- The nanoseconds from the epoch to an instant. -/
def epochNanos (i : Instant) : Int :=
  i.seconds * nanosPerSecond + i.nano

/-- Outside of leap seconds instants are in the order of their nanoseconds. -/
theorem le_iff_epochNanos_le {i j : Instant} (hi : i.nano < nanosPerSecond)
    (hj : j.nano < nanosPerSecond) : i ≤ j ↔ i.epochNanos ≤ j.epochNanos := by
  show i.seconds < j.seconds ∨ (i.seconds = j.seconds ∧ i.nano ≤ j.nano) ↔ _
  unfold epochNanos
  unfold nanosPerSecond at *
  omega

/-- An instant that the calendar reaches has its seconds in 64 bits. -/
theorem fitsSigned_of_ofEpoch? {seconds : Int} {nano : Nat} {i : Instant}
    (found : ofEpoch? seconds nano = some i) : FitsSigned 64 seconds := by
  have width : twoTo (64 - 1) = 9223372036854775808 := by decide
  unfold ofEpoch? at found
  split at found
  · rename_i range
    obtain ⟨-, low, high⟩ := range
    unfold minSeconds maxSeconds at *
    unfold FitsSigned
    omega
  · cases found

end Calendar.Instant

namespace Timestamp
open Number.FixedPoint

/-! ## The steps with their widths -/

/-- The instant of a timestamp, each step at its width. Whole seconds beyond 64 bits count as out of
range, like those that the calendar does not reach; there is no answer if a step overflows. -/
def instantIn? (t : Timestamp) : Option (Except TimestampError Instant) :=
  if t.zone = .unresolved then some (.error .unresolvedZone)
  else
    t.value.splitIn?.map fun parts =>
      match (signed? 64 parts.1).bind fun seconds => Instant.ofEpoch? seconds parts.2 with
      | some i => .ok i
      | none => .error (.outOfRange t.value)

/-- Narrowing the seconds loses no instant. -/
theorem narrowed_eq (seconds : Int) (nano : Nat) :
    ((signed? 64 seconds).bind fun seconds => Instant.ofEpoch? seconds nano) =
      Instant.ofEpoch? seconds nano := by
  cases found : Instant.ofEpoch? seconds nano with
  | some i =>
    rw [signed?_eq_some (Instant.fitsSigned_of_ofEpoch? found)]
    exact found
  | none =>
    rw [Option.bind_eq_none_iff]
    intro narrow mem
    obtain ⟨rfl, -⟩ := signed?_eq_some_iff.1 mem
    exact found

theorem instantIn?_eq_some {t : Timestamp} (valid : t.value.scale.Valid) :
    t.instantIn? = some t.instant := by
  unfold instantIn? instant
  rw [splitIn?_eq_some valid]
  split
  · rfl
  · simp only [Option.map_some, narrowed_eq]
    rfl

/-! ## Values and instants -/

theorem instant_eq_error_iff {t : Timestamp} (valid : t.value.scale.Valid)
    (resolved : t.zone ≠ .unresolved) {e : TimestampError} :
    t.instant = .error e ↔ ¬ t.value.InCalendar ∧ e = .outOfRange t.value := by
  rw [← exists_instant_iff valid resolved]
  unfold instant
  rw [if_neg resolved]
  split <;> simp [eq_comm]

/-- An instant is its value in nanoseconds, with less than a second of them beside the seconds. -/
theorem epochNanos_of_instant {t : Timestamp} {i : Instant} (valid : t.value.scale.Valid)
    (found : t.instant = .ok i) :
    i.nano < nanosPerSecond ∧ i.epochNanos = t.value.epochNanos := by
  have resolved : t.zone ≠ .unresolved := by
    intro unresolved
    rw [instant, if_pos unresolved] at found
    cases found
  obtain ⟨-, seconds, nano⟩ := (instant_eq_ok_iff valid resolved).1 found
  refine ⟨nano ▸ nanos_lt valid, ?_⟩
  rw [Instant.epochNanos, seconds, nano]
  exact split_epochNanos valid

/-- What the instant of a timestamp has to do with its value. -/
structure Exact (t : Timestamp) : Prop where
  /-- No step on the way leaves its width. -/
  widths : t.value.splitIn? = some t.value.split ∧ t.instantIn? = some t.instant
  /-- The part beside the whole seconds is less than a second. -/
  below : t.value.split.2 < nanosPerSecond
  /-- The two parts make up the value, on either side of the epoch. -/
  parts : t.value.split.1 * nanosPerSecond + t.value.split.2 =
    t.value.fractions * tenTo (Scale.nanos.digits - t.value.scale.digits)
  /-- They are the instant where the calendar reaches their seconds. -/
  instant : ∀ i, t.instant = .ok i ↔ t.value.InCalendar ∧ (i.seconds, i.nano) = t.value.split
  /-- The only other answer is that the value is out of range. -/
  beyond : ∀ e, t.instant = .error e ↔ ¬ t.value.InCalendar ∧ e = .outOfRange t.value
  /-- Instants are in the order of the values, at whatever scales and in whatever zones. -/
  order : ∀ u : Timestamp, u.value.scale.Valid → ∀ i j, t.instant = .ok i → u.instant = .ok j →
    (t.value.fractions * tenTo (Scale.nanos.digits - t.value.scale.digits) ≤
      u.value.fractions * tenTo (Scale.nanos.digits - u.value.scale.digits) ↔ i ≤ j)

/-- **The instant of a timestamp is its exact value**, and instants are in the order of the
values. -/
theorem instant_exact_and_ordered (t : Timestamp) (valid : t.value.scale.Valid)
    (resolved : t.zone ≠ .unresolved) : t.Exact where
  widths := ⟨splitIn?_eq_some valid, instantIn?_eq_some valid⟩
  below := nanos_lt valid
  parts := split_epochNanos valid
  instant i := by
    rw [instant_eq_ok_iff valid resolved, split, Prod.mk.injEq]
  beyond e := instant_eq_error_iff valid resolved
  order u valid' i j found found' := by
    obtain ⟨below, value⟩ := epochNanos_of_instant valid found
    obtain ⟨below', value'⟩ := epochNanos_of_instant valid' found'
    rw [Instant.le_iff_epochNanos_le below below', value, value']
    rfl

/-- A quarter of a second before the epoch, at milliseconds. -/
theorem instant_exact_and_ordered_quarter :
    (⟨3⟩ : Scale).Valid ∧ DisplayZone.named .utc ≠ .unresolved ∧
      Exact ⟨⟨-250, ⟨3⟩, by decide⟩, .named .utc⟩ :=
  ⟨by decide, by decide, instant_exact_and_ordered _ (by decide) (by decide)⟩

end Timestamp
end QueryResult
