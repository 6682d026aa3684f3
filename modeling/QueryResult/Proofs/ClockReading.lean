import QueryResult.Proofs.DayNumber
import QueryResult.Proofs.SpanSearch
import QueryResult.Zone.Database

/-!
# From a clock reading back to an instant

An instant at which a clock shows a reading is told by the offset in force there: it lies that
offset before the second at which UTC shows the reading. In an orderly table the search finds the
offset of the earliest such instant, or the one in force when UTC shows the reading if there is no
such instant (`meant_readingOffset`). So `localize?` undoes the reading of a clock, for every zone
with an orderly table, as all that are tabulated have, and every reading whose nanoseconds survive
the move to UTC. Those of a leap second do not, unless the clock is on UTC: `localize?` then names an
instant at which the clock shows another reading.
-/

namespace QueryResult
open QueryResult.Calendar

namespace Calendar

theorem WallClock.ofEpoch_eq_iff {seconds : Int} {nano : Nat} {h : nano < 2 * nanosPerSecond}
    {w : WallClock} :
    WallClock.ofEpoch seconds nano h = w ↔ seconds = w.epochSeconds ∧ nano = w.time.nano := by
  constructor
  · rintro rfl
    exact ⟨(WallClock.epochSeconds_ofEpoch seconds nano h).symm, rfl⟩
  · rintro ⟨rfl, rfl⟩
    exact w.ofEpoch_epochSeconds

/-- The instant that lies an offset before the second at which UTC shows a reading. -/
def Instant.ofReading (w : WallClock) (o : Offset) : Instant :=
  ⟨w.epochSeconds - o.seconds, w.time.nano, w.nano_lt⟩

theorem Instant.wallClock_ofReading (w : WallClock) (o : Offset) :
    (Instant.ofReading w o).wallClock o = w :=
  WallClock.ofEpoch_eq_iff.2 ⟨Int.sub_add_cancel _ _, rfl⟩

/-- Away from leap seconds, and on UTC, a reading is moved to UTC as it stands. -/
theorem WallClock.withOffset?_eq {w : WallClock} {o : Offset}
    (keeps : w.time.nano < nanosPerSecond ∨ o.seconds = 0) :
    w.withOffset? o =
      if (Instant.ofReading w o).InRange then some ⟨Instant.ofReading w o, o⟩ else none := by
  have moved : w.addSeconds (-o.seconds) =
      WallClock.ofEpoch (w.epochSeconds - o.seconds) w.time.nano w.nano_lt :=
    if_pos (keeps.symm.imp_left fun h => by rw [h]; rfl)
  have inRange : (w.addSeconds (-o.seconds)).InRange ↔ (Instant.ofReading w o).InRange := by
    rw [moved, WallClock.inRange_iff, WallClock.epochSeconds_ofEpoch]
    rfl
  have same : Instant.ofUtc (w.addSeconds (-o.seconds)) = Instant.ofReading w o := by
    rw [moved]
    exact Instant.ext (WallClock.epochSeconds_ofEpoch _ _ _) rfl
  simp only [WallClock.withOffset?, inRange, same]

theorem WallClock.mem_withOffset?_iff {w : WallClock} {o : Offset} {dt : Zoned} :
    dt ∈ w.withOffset? o ↔ (w.addSeconds (-o.seconds)).InRange ∧
      dt = ⟨Instant.ofUtc (w.addSeconds (-o.seconds)), o⟩ := by
  simp [WallClock.withOffset?, eq_comm]

/-- A leap second is lost in a move to UTC. -/
theorem WallClock.wallClock_ne_of_withOffset? {w : WallClock} {o : Offset} {dt : Zoned}
    (leap : nanosPerSecond ≤ w.time.nano) (moves : o.seconds ≠ 0)
    (found : dt ∈ w.withOffset? o) : dt.wallClock ≠ w := by
  obtain ⟨-, rfl⟩ := WallClock.mem_withOffset?_iff.1 found
  have moved : (w.addSeconds (-o.seconds)).time.nano = w.time.nano - nanosPerSecond := by
    rw [WallClock.addSeconds, if_neg (by omega)]
    rfl
  intro same
  have nano : (w.addSeconds (-o.seconds)).time.nano = w.time.nano :=
    (WallClock.ofEpoch_eq_iff.1 same).2
  unfold nanosPerSecond at *
  omega

end Calendar

namespace Zone

/-! ## Orderly tables -/

/-- What going back from readings rests on in the table of a zone. -/
structure Orderly (z : Zone) : Prop where
  paced : Paced z.initial z.transitions
  /-- No change lies within two days of the ends of what values may denote. -/
  settled : ∀ x ∈ z.transitions,
    Instant.minSeconds + 2 * secondsPerDay ≤ x.since ∧
      x.since + 2 * secondsPerDay ≤ Instant.maxSeconds

instance (z : Zone) : Decidable z.Orderly :=
  decidable_of_iff (Paced z.initial z.transitions ∧ ∀ x ∈ z.transitions,
      Instant.minSeconds + 2 * secondsPerDay ≤ x.since ∧
        x.since + 2 * secondsPerDay ≤ Instant.maxSeconds)
    ⟨fun h => ⟨h.1, h.2⟩, fun h => ⟨h.paced, h.settled⟩⟩

theorem orderly_of_mem_tabulated : ∀ z ∈ tabulated, z.Orderly := by
  decide +kernel

theorem inForce_of_lt {t : Int} {current : Offset} {transitions : List Transition}
    (before : ∀ x ∈ transitions, t < x.since) : inForce t current transitions = current := by
  cases transitions with
  | nil => rfl
  | cons x rest =>
    have := before x List.mem_cons_self
    exact if_neg (by omega)

theorem inForce_eq_of_le {t t' : Int} {current : Offset} {transitions : List Transition}
    (behind : ∀ x ∈ transitions, x.since ≤ t) (behind' : ∀ x ∈ transitions, x.since ≤ t') :
    inForce t current transitions = inForce t' current transitions := by
  induction transitions generalizing current with
  | nil => rfl
  | cons x rest ih =>
    rw [inForce, inForce, if_pos (behind x List.mem_cons_self),
      if_pos (behind' x List.mem_cons_self)]
    exact ih (fun y mem => behind y (List.mem_cons_of_mem x mem))
      fun y mem => behind' y (List.mem_cons_of_mem x mem)

variable {z : Zone} {w : WallClock}

/-- The clock is on one offset at the beginning of time. -/
theorem Orderly.offsetAt_of_lt (orderly : z.Orderly) {t : Int}
    (early : t < Instant.minSeconds + 2 * secondsPerDay) : z.offsetAt t = z.initial := by
  refine inForce_of_lt fun x mem => ?_
  have := (orderly.settled x mem).1
  omega

/-- And on one at its end. -/
theorem Orderly.offsetAt_of_le (orderly : z.Orderly) {t t' : Int}
    (late : Instant.maxSeconds - 2 * secondsPerDay ≤ t)
    (late' : Instant.maxSeconds - 2 * secondsPerDay ≤ t') : z.offsetAt t = z.offsetAt t' := by
  refine inForce_eq_of_le (fun x mem => ?_) fun x mem => ?_
  · have := (orderly.settled x mem).2
    omega
  · have := (orderly.settled x mem).2
    omega

/-! ## The offset that is meant -/

/-- Whether a clock in the zone shows a reading at an instant. -/
def Reads (z : Zone) (w : WallClock) (i : Instant) : Prop :=
  (z.zoned i).wallClock = w

instance (z : Zone) (w : WallClock) (i : Instant) : Decidable (z.Reads w i) :=
  inferInstanceAs (Decidable (_ = _))

theorem reads_iff {i : Instant} :
    z.Reads w i ↔ z.ReadsAt w.epochSeconds i.seconds ∧ i.nano = w.time.nano :=
  WallClock.ofEpoch_eq_iff

theorem Reads.eq_ofReading {i : Instant} (reads : z.Reads w i) :
    i = Instant.ofReading w (z.offsetAt i.seconds) := by
  obtain ⟨seconds, nano⟩ := reads_iff.1 reads
  refine Instant.ext ?_ nano
  show i.seconds = w.epochSeconds - (z.offsetAt i.seconds).seconds
  unfold ReadsAt at seconds
  omega

/-- The offset that a reading has: the one of the zone at the earliest instant at which a clock
shows it, or when UTC does if there is no such instant. -/
inductive Meant (z : Zone) (w : WallClock) : Offset → Prop
  | shown {i : Instant} (inRange : i.InRange) (reads : z.Reads w i)
      (earliest : ∀ j, j.InRange → z.Reads w j → i ≤ j) : Meant z w (z.offsetAt i.seconds)
  | skipped (never : ∀ i, i.InRange → ¬ z.Reads w i) : Meant z w (z.offsetAt w.epochSeconds)

/-- A second outside of what values may denote tells that no instant in range shows what it shows,
if it is the earliest to show it, and that the offset there is in force when UTC shows it. -/
theorem Orderly.never_of_earliest (orderly : z.Orderly) {t : Int}
    (reads : z.ReadsAt w.epochSeconds t) (earliest : ∀ u, z.ReadsAt w.epochSeconds u → t ≤ u)
    (outside : ¬ (Instant.minSeconds ≤ t ∧ t ≤ Instant.maxSeconds)) :
    (∀ i, i.InRange → ¬ z.Reads w i) ∧ z.offsetAt w.epochSeconds = z.offsetAt t := by
  have lower := (z.offsetAt t).lower
  have upper := (z.offsetAt t).upper
  unfold ReadsAt at reads
  rcases Int.lt_or_le t Instant.minSeconds with below | within
  · have here := orderly.offsetAt_of_lt (t := t) (by unfold secondsPerDay; omega)
    constructor
    · intro i inRange shown
      have again := (reads_iff.1 shown).1
      have lower' := (z.offsetAt i.seconds).lower
      have there := orderly.offsetAt_of_lt (t := i.seconds) (by
        unfold ReadsAt at again
        unfold secondsPerDay
        omega)
      rw [ReadsAt, there, ← here] at again
      have := inRange.1
      omega
    · rw [here]
      refine orderly.offsetAt_of_lt ?_
      unfold secondsPerDay
      omega
  · constructor
    · intro i inRange shown
      have := earliest i.seconds (reads_iff.1 shown).1
      have := inRange.2
      omega
    · refine orderly.offsetAt_of_le ?_ ?_ <;> unfold secondsPerDay <;> omega

/-- The offset that a reading is taken to have is the one that is meant. -/
theorem Orderly.meant_readingOffset (orderly : z.Orderly) (w : WallClock) :
    z.Meant w (z.readingOffset w) := by
  have rising := orderly.paced.rising
  rw [readingOffset_eq orderly.paced]
  cases found : z.history.find? (·.shows w.epochSeconds) with
  | none =>
    refine .skipped fun i _ reads => ?_
    exact not_readsAt_of_find? rising found i.seconds (reads_iff.1 reads).1
  | some s =>
    show z.Meant w s.offset
    have shows : s.shows w.epochSeconds = true := by simpa using List.find?_some found
    obtain ⟨offset, reads⟩ := readsAt_of_shows rising (List.mem_of_find?_eq_some found) shows
    have earliest : ∀ u, z.ReadsAt w.epochSeconds u → w.epochSeconds - s.offset.seconds ≤ u :=
      fun u => earliest_of_find? rising found
    by_cases inRange : (Instant.ofReading w s.offset).InRange
    · rw [← offset]
      refine .shown (i := Instant.ofReading w s.offset) inRange (reads_iff.2 ⟨reads, rfl⟩) ?_
      intro j _ shown
      obtain ⟨seconds, nano⟩ := reads_iff.1 shown
      rcases Int.lt_or_eq_of_le (earliest j.seconds seconds) with before | same
      · exact .inl before
      · exact .inr ⟨same, nano.ge⟩
    · obtain ⟨never, same⟩ := orderly.never_of_earliest reads earliest inRange
      rw [← offset, ← same]
      exact .skipped never

/-! ## Going back -/

/-- Whether the nanoseconds of a reading survive the move of a clock in the zone to UTC. -/
def Keeps (z : Zone) (w : WallClock) : Prop :=
  w.time.nano < nanosPerSecond ∨ (z.readingOffset w).seconds = 0

instance (z : Zone) (w : WallClock) : Decidable (z.Keeps w) :=
  inferInstanceAs (Decidable (_ ∨ _))

/-- That `localize?` undoes the reading of a clock, for one reading. -/
structure Inverts (z : Zone) (w : WallClock) : Prop where
  /-- What is found shows the reading. -/
  reads : ∀ dt ∈ z.localize? w, dt.wallClock = w
  /-- If a clock in the zone shows it at all, what is found is the earliest time. -/
  earliest : ∀ dt ∈ z.localize? w, ∀ i : Instant, i.InRange → z.Reads w i →
    dt.instant.InRange ∧ dt = z.zoned dt.instant ∧ dt.instant ≤ i
  /-- If none does, the offset is the one in force when UTC shows the reading. -/
  skipped : ∀ dt ∈ z.localize? w, (∀ i : Instant, i.InRange → ¬ z.Reads w i) →
    dt.offset = z.offsetAt w.epochSeconds
  /-- Nothing is found only if the instant meant is out of range. -/
  missing : z.localize? w = none → ∃ o, z.Meant w o ∧ ¬ (Instant.ofReading w o).InRange
  /-- The instant that a reading was taken at is found again unless there is an earlier one. -/
  again : ∀ i : Instant, i.InRange → z.Reads w i → ∃ dt ∈ z.localize? w,
    dt.wallClock = w ∧ dt.instant ≤ i ∧
      ((∀ j : Instant, j.InRange → z.Reads w j → j = i) → dt = z.zoned i)

theorem Orderly.inverts (orderly : z.Orderly) (keeps : z.Keeps w) : z.Inverts w := by
  have meant := orderly.meant_readingOffset w
  have located : z.localize? w = _ := WallClock.withOffset?_eq keeps
  revert meant located
  generalize z.readingOffset w = o
  intro meant located
  have found : ∀ dt ∈ z.localize? w, (Instant.ofReading w o).InRange ∧
      dt = ⟨Instant.ofReading w o, o⟩ := by
    intro dt mem
    rw [located] at mem
    split at mem
    · rename_i inRange
      exact ⟨inRange, (Option.some.inj mem).symm⟩
    · nomatch mem
  constructor
  case reads =>
    intro dt mem
    obtain ⟨-, rfl⟩ := found dt mem
    exact Instant.wallClock_ofReading w o
  case earliest =>
    intro dt mem i inRange reads
    obtain ⟨within, rfl⟩ := found dt mem
    refine ⟨within, ?_⟩
    cases meant with
    | shown _ first earliest =>
      rw [← first.eq_ofReading]
      exact ⟨rfl, earliest i inRange reads⟩
    | skipped never => exact absurd reads (never i inRange)
  case skipped =>
    intro dt mem never
    obtain ⟨-, rfl⟩ := found dt mem
    cases meant with
    | shown within first _ => exact absurd first (never _ within)
    | skipped _ => rfl
  case missing =>
    intro missing
    refine ⟨o, meant, fun inRange => ?_⟩
    rw [located, if_pos inRange] at missing
    nomatch missing
  case again =>
    intro i inRange reads
    cases meant with
    | shown within first earliest =>
      rename_i j
      refine ⟨z.zoned j, ?_, first, earliest i inRange reads, fun only => ?_⟩
      · rw [located, ← first.eq_ofReading]
        exact if_pos within
      · rw [only j within first]
    | skipped never => exact absurd reads (never i inRange)

/-- **Reading a clock can be undone** wherever the table of a zone is orderly, as in every zone that
is tabulated. The exception are the leap seconds of clocks that are not on UTC, which are lost. -/
theorem localize?_inverts_reading (z : Zone) (w : WallClock) :
    (z ∈ tabulated → z.Orderly) ∧
      (z.Orderly → (z.Keeps w → z.Inverts w) ∧
        (¬ z.Keeps w → ∀ dt ∈ z.localize? w, z.Meant w dt.offset ∧ dt.wallClock ≠ w)) := by
  refine ⟨orderly_of_mem_tabulated z, fun orderly => ⟨orderly.inverts, fun lost dt found => ?_⟩⟩
  rw [Keeps, not_or] at lost
  constructor
  · obtain ⟨-, rfl⟩ := WallClock.mem_withOffset?_iff.1 found
    exact orderly.meant_readingOffset w
  · exact WallClock.wallClock_ne_of_withOffset? (Nat.not_lt.1 lost.1) lost.2 found

/-- Half past one in New York on the night of November 3, 2024, which the clocks show twice. -/
theorem localize?_inverts_reading_newYork :
    newYork.Inverts ⟨⟨2024, 11, 3, by decide, by decide, by decide, by decide⟩,
      ⟨5400, 0, by decide, by decide⟩⟩ := by
  obtain ⟨orderly, inverts⟩ := localize?_inverts_reading newYork
    ⟨⟨2024, 11, 3, by decide, by decide, by decide, by decide⟩, ⟨5400, 0, by decide, by decide⟩⟩
  exact (inverts (orderly (by simp [tabulated]))).1 (.inl (by decide))

/-- The middle of the leap second at the end of the year 2016, as clocks on EST show it. -/
def leapReading : WallClock :=
  .ofEpoch (1483228799 - 18000) 1500000000 (by decide)

/-- A clock on EST shows the reading, but not at the instant that is found for it. -/
theorem est_loses_leap_second :
    ¬ est.Inverts leapReading ∧
      est.Reads leapReading ⟨1483228799, 1500000000, by decide⟩ ∧
      est.localize? leapReading =
        some ⟨⟨1483228799, 500000000, by decide⟩, est.offsetAt 1483228799⟩ := by
  have offset : est.readingOffset leapReading = est.offsetAt 1483228799 := by
    rw [readingOffset_eq (by decide)]
    rfl
  have found : est.localize? leapReading =
      some ⟨⟨1483228799, 500000000, by decide⟩, est.offsetAt 1483228799⟩ := by
    rw [localize?, offset]
    decide +kernel
  have other : ¬ est.Reads leapReading ⟨1483228799, 500000000, by decide⟩ := by
    decide +kernel
  exact ⟨fun inverts => other (inverts.reads _ found), by decide +kernel, found⟩

end Zone
end QueryResult
