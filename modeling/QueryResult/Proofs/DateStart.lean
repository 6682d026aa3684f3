import Mathlib.Data.Int.LeastGreatest
import Mathlib.Data.List.Chain
import QueryResult.Proofs.ClockReading
import QueryResult.Value.Decode

/-!
# Where a date begins

A date begins in a zone at the first instant at which a clock there shows it (`Begins`). If a clock
shows the midnight of the date, `startOf?` finds the earliest time that it does, and in a steady
zone, as all that are tabulated are, the date begins there. Where the clocks are set forward past
midnight the date begins with that change. The offset in force when UTC shows midnight then stands
in, and it leads to the change only if the clocks were on it and stood at midnight: in a zone ahead
of UTC, where UTC shows midnight after the change, it leads into the day before.
-/

namespace QueryResult
open QueryResult.Calendar

namespace Calendar

theorem Instant.le_antisymm {i j : Instant} (h : i ≤ j) (h' : j ≤ i) : i = j := by
  have h : i.seconds < j.seconds ∨ (i.seconds = j.seconds ∧ i.nano ≤ j.nano) := h
  have h' : j.seconds < i.seconds ∨ (j.seconds = i.seconds ∧ j.nano ≤ i.nano) := h'
  refine Instant.ext ?_ ?_ <;> omega

namespace Date

/-- The second at which UTC shows the midnight that starts a date. -/
def midnight (d : Date) : Int :=
  d.dayNumber * secondsPerDay

/-- Whether the days before and after a date are in range as well. -/
def Interior (d : Date) : Prop :=
  firstDay < d.dayNumber ∧ d.dayNumber < lastDay

instance (d : Date) : Decidable d.Interior :=
  inferInstanceAs (Decidable (_ ∧ _))

/-- An instant less than a day away from the date as UTC shows it is in range. -/
theorem Interior.inRange {d : Date} (interior : d.Interior) {i : Instant}
    (after : d.midnight - secondsPerDay < i.seconds)
    (before : i.seconds < d.midnight + 2 * secondsPerDay) : i.InRange := by
  obtain ⟨low, high⟩ := interior
  unfold midnight at after before
  unfold firstDay at low
  unfold lastDay at high
  unfold Instant.InRange Instant.minSeconds Instant.maxSeconds
  unfold secondsPerDay at *
  omega

end Date

namespace WallClock

theorem epochSeconds_startOf (d : Date) : (startOf d).epochSeconds = d.midnight :=
  Int.add_zero _

/-- The seconds at which a clock shows a date. -/
theorem date_ofEpoch_eq_iff {seconds : Int} {nano : Nat} {h : nano < 2 * nanosPerSecond}
    {d : Date} : (ofEpoch seconds nano h).date = d ↔
      d.midnight ≤ seconds ∧ seconds < d.midnight + secondsPerDay := by
  have day : (ofEpoch seconds nano h).date = d ↔ seconds / secondsPerDay = d.dayNumber := by
    constructor
    · rintro rfl
      exact (Date.dayNumber_ofDayNumber _).symm
    · intro same
      rw [ofEpoch, same]
      exact Date.ofDayNumber_dayNumber d
  rw [day]
  unfold Date.midnight secondsPerDay
  omega

end WallClock

theorem Instant.ofReading_startOf (d : Date) (o : Offset) :
    Instant.ofReading (.startOf d) o = ⟨d.midnight - o.seconds, 0, by decide⟩ :=
  Instant.ext (by rw [Instant.ofReading, WallClock.epochSeconds_startOf]) rfl

theorem Date.Interior.inRange_ofReading {d : Date} (interior : d.Interior) (o : Offset) :
    (Instant.ofReading (.startOf d) o).InRange := by
  have lower := o.lower
  have upper := o.upper
  rw [Instant.ofReading_startOf]
  apply interior.inRange <;> unfold secondsPerDay <;> simp only <;> omega

end Calendar

namespace Zone

variable {z : Zone} {d : Date}

/-! ## The first instant of a date -/

/-- Whether a clock in the zone shows a date at an instant. -/
def ShowsDate (z : Zone) (d : Date) (i : Instant) : Prop :=
  (z.zoned i).wallClock.date = d

instance (z : Zone) (d : Date) (i : Instant) : Decidable (z.ShowsDate d i) :=
  inferInstanceAs (Decidable (_ = _))

theorem showsDate_iff {i : Instant} : z.ShowsDate d i ↔
    d.midnight ≤ i.seconds + (z.offsetAt i.seconds).seconds ∧
      i.seconds + (z.offsetAt i.seconds).seconds < d.midnight + secondsPerDay :=
  WallClock.date_ofEpoch_eq_iff

theorem reads_startOf_iff {i : Instant} :
    z.Reads (.startOf d) i ↔ z.ReadsAt d.midnight i.seconds ∧ i.nano = 0 := by
  rw [reads_iff, WallClock.epochSeconds_startOf]
  rfl

theorem Reads.showsDate {i : Instant} (reads : z.Reads (.startOf d) i) : z.ShowsDate d i :=
  congrArg WallClock.date reads

/-- A clock shows a date less than a day before or after UTC does. -/
theorem ShowsDate.near {i : Instant} (shows : z.ShowsDate d i) :
    d.midnight - secondsPerDay < i.seconds ∧ i.seconds < d.midnight + 2 * secondsPerDay := by
  have lower := (z.offsetAt i.seconds).lower
  have upper := (z.offsetAt i.seconds).upper
  have := showsDate_iff.1 shows
  unfold secondsPerDay at *
  omega

theorem ShowsDate.inRange {i : Instant} (shows : z.ShowsDate d i) (interior : d.Interior) :
    i.InRange :=
  interior.inRange shows.near.1 shows.near.2

/-- A clock that shows a date shows it throughout the second. -/
theorem ShowsDate.wholeSecond {i : Instant} (shows : z.ShowsDate d i) :
    z.ShowsDate d ⟨i.seconds, 0, by decide⟩ :=
  showsDate_iff.2 (showsDate_iff.1 shows)

/-- That a date begins at an instant: no earlier one in range has a clock in the zone show it. -/
structure Begins (z : Zone) (d : Date) (i : Instant) : Prop where
  inRange : i.InRange
  shows : z.ShowsDate d i
  first : ∀ j : Instant, j.InRange → z.ShowsDate d j → i ≤ j

theorem Begins.unique {i j : Instant} (hi : z.Begins d i) (hj : z.Begins d j) : i = j :=
  Instant.le_antisymm (hi.first j hj.inRange hj.shows) (hj.first i hi.inRange hi.shows)

/-- A date that a clock shows begins at some instant, the seconds at which it does being bounded. -/
theorem exists_begins (interior : d.Interior) {i : Instant} (shows : z.ShowsDate d i) :
    ∃ first, z.Begins d first := by
  obtain ⟨t, shows, least⟩ :=
    Int.exists_least_of_bdd (P := fun t => z.ShowsDate d ⟨t, 0, by decide⟩)
      ⟨d.midnight - secondsPerDay, fun t shows => shows.near.1.le⟩ ⟨i.seconds, shows.wholeSecond⟩
  refine ⟨⟨t, 0, by decide⟩, shows.inRange interior, shows, fun j _ again => ?_⟩
  rcases Int.lt_or_eq_of_le (least j.seconds again.wholeSecond) with later | same
  · exact .inl later
  · exact .inr ⟨same, Nat.zero_le _⟩

theorem Begins.seconds_le {i j : Instant} (begins : z.Begins d i) (inRange : j.InRange)
    (shows : z.ShowsDate d j) : i.seconds ≤ j.seconds := by
  rcases begins.first j inRange shows with later | ⟨same, -⟩
  · exact later.le
  · exact same.le

/-- It begins on a whole second. -/
theorem Begins.nano_eq_zero {i : Instant} (begins : z.Begins d i) : i.nano = 0 := by
  rcases begins.first ⟨i.seconds, 0, by decide⟩ begins.inRange begins.shows.wholeSecond
    with earlier | ⟨-, nano⟩
  · exact absurd earlier (Int.lt_irrefl _)
  · exact Nat.le_zero.1 nano

/-! ## Dates that do not begin at midnight -/

/-- Whether no clock in the zone shows the midnight that starts a date. -/
def SkipsMidnight (z : Zone) (d : Date) : Prop :=
  ∀ i : Instant, i.InRange → ¬ z.Reads (.startOf d) i

/-- Such a date begins past its midnight. -/
theorem Begins.midnight_lt {i : Instant} (begins : z.Begins d i) (skips : z.SkipsMidnight d) :
    d.midnight < i.seconds + (z.offsetAt i.seconds).seconds := by
  have silent : ¬ z.ReadsAt d.midnight i.seconds := fun reads =>
    skips i begins.inRange (reads_startOf_iff.2 ⟨reads, begins.nano_eq_zero⟩)
  have := (showsDate_iff.1 begins.shows).1
  unfold ReadsAt at silent
  omega

/-- It begins with a change of the clocks. -/
theorem Begins.changes {i : Instant} (begins : z.Begins d i) (interior : d.Interior)
    (skips : z.SkipsMidnight d) : z.offsetAt (i.seconds - 1) ≠ z.offsetAt i.seconds := by
  intro same
  have past := begins.midnight_lt skips
  have within := (showsDate_iff.1 begins.shows).2
  have shows : z.ShowsDate d ⟨i.seconds - 1, 0, by decide⟩ := by
    rw [showsDate_iff]
    simp only [same]
    omega
  have : i.seconds ≤ i.seconds - 1 := begins.seconds_le (shows.inRange interior) shows
  omega

end Zone

/-! ## Steady zones -/

/-- The last day whose midnight a clock is past when a change has set it. -/
def Transition.passedDay (x : Transition) : Int :=
  (x.since + x.offset.seconds - 1) / secondsPerDay

theorem Transition.midnight_lt_iff {x : Transition} {d : Date} :
    d.midnight < x.since + x.offset.seconds ↔ d.dayNumber ≤ x.passedDay := by
  unfold passedDay Date.midnight secondsPerDay
  omega

namespace Zone

/-- That no change sets the clocks back to a midnight that an earlier one has set them past. -/
def Steady (z : Zone) : Prop :=
  (z.transitions.map Transition.passedDay).IsChain (· ≤ ·)

instance (z : Zone) : Decidable z.Steady :=
  inferInstanceAs (Decidable (List.IsChain _ _))

theorem steady_of_mem_tabulated : ∀ z ∈ tabulated, z.Steady := by
  decide +kernel

variable {z : Zone} {d : Date} {first : Instant}

theorem Steady.pairwise (steady : z.Steady) :
    z.transitions.Pairwise fun x y => x.passedDay ≤ y.passedDay :=
  List.pairwise_map.1 (List.isChain_iff_pairwise.1 steady)

/-- From a change on a clock is past what every change from there on sets it past. -/
theorem lt_inForce {reading t : Int} {current : Offset} {x : Transition} {rest : List Transition}
    (since : x.since ≤ t) (past : ∀ y ∈ x :: rest, reading < y.since + y.offset.seconds) :
    reading < t + (inForce t current (x :: rest)).seconds := by
  have here := past x List.mem_cons_self
  induction rest generalizing current x with
  | nil =>
    rw [inForce, if_pos since, inForce]
    omega
  | cons y rest ih =>
    have behind : ∀ w ∈ y :: rest, reading < w.since + w.offset.seconds := fun w mem =>
      past w (List.mem_cons_of_mem x mem)
    rw [inForce, if_pos since]
    by_cases next : y.since ≤ t
    · exact ih next behind (behind y List.mem_cons_self)
    · rw [inForce, if_neg next]
      omega

/-- If a clock that is past a midnight shows it later on, it has shown it before. -/
theorem exists_readsAt_lt {t r : Int} {current : Offset} {transitions : List Transition}
    (rising : Rising transitions)
    (steady : transitions.Pairwise fun x y => x.passedDay ≤ y.passedDay) (order : t ≤ r)
    (past : d.midnight < t + (inForce t current transitions).seconds)
    (reads : r + (inForce r current transitions).seconds = d.midnight) :
    ∃ u < t, u + (inForce u current transitions).seconds = d.midnight := by
  induction transitions generalizing current with
  | nil =>
    rw [inForce] at past reads
    omega
  | cons x rest ih =>
    by_cases since : x.since ≤ t
    · have since' : x.since ≤ r := since.trans order
      rw [inForce, if_pos since] at past
      have reads' := reads
      rw [inForce, if_pos since'] at reads'
      obtain ⟨behind, rising⟩ := List.pairwise_cons.1 rising
      obtain ⟨steady_x, steady⟩ := List.pairwise_cons.1 steady
      obtain ⟨u, lt, shown⟩ := ih rising steady past reads'
      refine ⟨u, lt, ?_⟩
      by_cases within : x.since ≤ u
      · rw [inForce, if_pos within]
        exact shown
      · -- The change itself would set the clock past the midnight, and so would all behind it.
        rw [inForce_of_lt fun y mem => by have := behind y mem; omega] at shown
        have here : d.midnight < x.since + x.offset.seconds := by omega
        have all_past : ∀ y ∈ x :: rest, d.midnight < y.since + y.offset.seconds := by
          intro y mem
          rcases List.mem_cons.1 mem with rfl | later
          · exact here
          · rw [Transition.midnight_lt_iff] at here ⊢
            exact here.trans (steady_x y later)
        have : d.midnight < r + (inForce r current (x :: rest)).seconds :=
          lt_inForce since' all_past
        omega
    · rw [inForce, if_neg since] at past
      refine ⟨d.midnight - current.seconds, by omega, ?_⟩
      rw [inForce, if_neg (by omega)]
      omega

/-- In a steady zone a date whose midnight a clock shows begins there. -/
theorem Begins.reads (begins : z.Begins d first) (rising : Rising z.transitions)
    (steady : z.Steady) (interior : d.Interior) {i : Instant} (inRange : i.InRange)
    (reads : z.Reads (.startOf d) i) : z.Reads (.startOf d) first := by
  refine reads_startOf_iff.2 ⟨?_, begins.nano_eq_zero⟩
  by_contra silent
  have past : d.midnight < first.seconds + (z.offsetAt first.seconds).seconds :=
    lt_of_le_of_ne (showsDate_iff.1 begins.shows).1 (Ne.symm silent)
  obtain ⟨u, lt, again⟩ := exists_readsAt_lt rising steady.pairwise
    (begins.seconds_le inRange reads.showsDate) past (reads_startOf_iff.1 reads).1
  have shows : z.ShowsDate d ⟨u, 0, by decide⟩ :=
    Reads.showsDate (reads_startOf_iff.2 ⟨again, rfl⟩)
  have : first.seconds ≤ u := begins.seconds_le (shows.inRange interior) shows
  omega

/-! ## What is found for a date -/

theorem startOf?_eq_some (z : Zone) (interior : d.Interior) :
    z.startOf? d = some ⟨Instant.ofReading (.startOf d) (z.readingOffset (.startOf d)),
      z.readingOffset (.startOf d)⟩ := by
  rw [startOf?, localize?, WallClock.withOffset?_eq (.inl (show 0 < nanosPerSecond by decide)),
    if_pos (interior.inRange_ofReading _)]

/-- That what is found for a date is an instant at which a clock shows its midnight. -/
structure MidnightFound (z : Zone) (d : Date) (first : Instant) (dt : Zoned) : Prop where
  zoned : dt = z.zoned dt.instant
  reads : z.Reads (.startOf d) dt.instant
  /-- The date begins there if it begins at midnight. -/
  begins_iff : z.Begins d dt.instant ↔ z.Reads (.startOf d) first
  /-- In a steady zone it does. -/
  begins : z.Steady → z.Begins d dt.instant

/-- What is found for a date whose midnight no clock shows. -/
structure MidnightSkipped (z : Zone) (d : Date) (first : Instant) (dt : Zoned) : Prop where
  /-- The date begins with a change of the clocks. -/
  changes : z.offsetAt (first.seconds - 1) ≠ z.offsetAt first.seconds
  /-- The offset is the one in force when UTC shows midnight. -/
  offset : dt.offset = z.offsetAt d.midnight
  /-- The date begins at what is found if a clock on it would show midnight at the change. -/
  begins_iff : z.Begins d dt.instant ↔ first.seconds + dt.offset.seconds = d.midnight
  /-- What is found is too early, and on another day, if such a clock would be past midnight. -/
  early : d.midnight < first.seconds + dt.offset.seconds →
    dt.instant.seconds < first.seconds ∧ ¬ z.ShowsDate d dt.instant
  /-- It is too late if such a clock would still be in front of midnight. -/
  late : first.seconds + dt.offset.seconds < d.midnight → first.seconds < dt.instant.seconds
  /-- It is too early if UTC shows midnight on the offset that comes with the change. -/
  ahead : z.offsetAt d.midnight = z.offsetAt first.seconds →
    d.midnight < first.seconds + dt.offset.seconds

theorem Begins.midnightFound (begins : z.Begins d first) (rising : Rising z.transitions)
    (interior : d.Interior) {i : Instant} (inRange : i.InRange) (reads : z.Reads (.startOf d) i)
    (earliest : ∀ j : Instant, j.InRange → z.Reads (.startOf d) j → i ≤ j) :
    z.MidnightFound d first (z.zoned i) := by
  have begins_iff : z.Begins d i ↔ z.Reads (.startOf d) first := by
    constructor
    · intro there
      rwa [begins.unique there]
    · intro there
      have same : i = first := Instant.le_antisymm (earliest first begins.inRange there)
        (begins.first i inRange reads.showsDate)
      rwa [same]
  exact ⟨rfl, reads, begins_iff, fun steady =>
    begins_iff.2 (begins.reads rising steady interior inRange reads)⟩

theorem Begins.midnightSkipped (begins : z.Begins d first) (interior : d.Interior)
    (skips : z.SkipsMidnight d) {o : Offset} (offset : o = z.offsetAt d.midnight) :
    z.MidnightSkipped d first ⟨Instant.ofReading (.startOf d) o, o⟩ := by
  have second : (Instant.ofReading (.startOf d) o).seconds = d.midnight - o.seconds := by
    rw [Instant.ofReading_startOf]
  constructor
  case changes => exact begins.changes interior skips
  case offset => exact offset
  case begins_iff =>
    show z.Begins d (Instant.ofReading (.startOf d) o) ↔ first.seconds + o.seconds = d.midnight
    constructor
    · intro there
      rw [begins.unique there, second]
      omega
    · intro at_midnight
      have same : Instant.ofReading (.startOf d) o = first := by
        refine Instant.ext ?_ begins.nano_eq_zero.symm
        rw [second]
        omega
      rwa [same]
  case early =>
    intro past
    have before : (Instant.ofReading (.startOf d) o).seconds < first.seconds := by
      rw [second]
      simp only at past
      omega
    refine ⟨before, fun shows => ?_⟩
    have := begins.seconds_le (interior.inRange_ofReading o) shows
    omega
  case late =>
    intro ahead
    simp only at ahead ⊢
    omega
  case ahead =>
    intro same
    have past := begins.midnight_lt skips
    rwa [← same, ← offset] at past

/-- What `startOf?` finds for a date that begins at an instant. -/
theorem Orderly.startOf?_of_begins (orderly : z.Orderly) (interior : d.Interior)
    (begins : z.Begins d first) : ∃ dt, z.startOf? d = some dt ∧
      (¬ z.SkipsMidnight d → z.MidnightFound d first dt) ∧
      (z.SkipsMidnight d → z.MidnightSkipped d first dt) := by
  have meant := orderly.meant_readingOffset (.startOf d)
  have found := startOf?_eq_some z interior
  refine ⟨_, found, ?_⟩
  revert meant
  generalize z.readingOffset (.startOf d) = o
  intro meant
  cases meant with
  | shown inRange reads earliest =>
    rename_i i
    rw [← reads.eq_ofReading]
    exact ⟨fun _ => begins.midnightFound orderly.paced.rising interior inRange reads earliest,
      fun skips => absurd reads (skips i inRange)⟩
  | skipped never =>
    rw [WallClock.epochSeconds_startOf]
    exact ⟨fun shown => absurd never shown, fun skips => begins.midnightSkipped interior skips rfl⟩

end Zone

/-! ## Tokens of dates -/

namespace Value
open QueryResult.Session

variable {z : Zone} {d : Date} {dt : Zoned} {token : String} {type : ColumnType}

theorem readDateIn_eq_ok (column : type.scalarType = .date) (decodes : Date.decode token = .ok d)
    (found : z.startOf? d = some dt) (cx : Context) : readDateIn z token type cx = .ok dt := by
  have date : readDateFor z token type cx = .ok d := by
    rw [readDateFor, column, decodes]
    rfl
  simp only [readDateIn, date, found, bind, Except.bind, pure, Except.pure]

theorem readInstantIn_eq_ok (column : type.scalarType = .date) (decodes : Date.decode token = .ok d)
    (found : z.startOf? d = some dt) (cx : Context) :
    readInstantIn z token type cx = .ok dt.instant := by
  rw [readInstantIn, column]
  show (readDateIn z token type cx).map Zoned.instant = .ok dt.instant
  rw [readDateIn_eq_ok column decodes found]
  rfl

end Value

namespace Zone

/-- **Where a date begins is found** wherever the table of a zone is orderly and steady, as in every
zone that is tabulated, if a clock shows the midnight of the date. If none does, what is found
depends on the offset in force when UTC shows it, and may lie on another day. -/
theorem startOf?_begins (z : Zone) (d : Date) (interior : d.Interior) :
    (z ∈ tabulated → z.Orderly ∧ z.Steady) ∧
      (z.Orderly → (∃ i : Instant, i.InRange ∧ z.ShowsDate d i) →
        ∃ first dt, z.Begins d first ∧ z.startOf? d = some dt ∧
          (¬ z.SkipsMidnight d → z.MidnightFound d first dt) ∧
          (z.SkipsMidnight d → z.MidnightSkipped d first dt) ∧
          ∀ token type cx, type.scalarType = .date → Date.decode token = .ok d →
            Value.readDateIn z token type cx = .ok dt ∧
              Value.readInstantIn z token type cx = .ok dt.instant) := by
  refine ⟨fun mem => ⟨orderly_of_mem_tabulated z mem, steady_of_mem_tabulated z mem⟩, ?_⟩
  rintro orderly ⟨i, -, shows⟩
  obtain ⟨first, begins⟩ := exists_begins interior shows
  obtain ⟨dt, found, shown, skipped⟩ := orderly.startOf?_of_begins interior begins
  refine ⟨first, dt, begins, found, shown, skipped, fun token type cx column decodes => ?_⟩
  exact ⟨Value.readDateIn_eq_ok column decodes found cx,
    Value.readInstantIn_eq_ok column decodes found cx⟩

/-- November 4, 2018, when clocks in São Paulo went from midnight to one o'clock. -/
def saoPauloSummer : Date :=
  .ofDayNumber 17839

/-- There UTC showed midnight before the change, and the date is found to begin with it. -/
theorem startOf?_begins_saoPaulo :
    saoPaulo.SkipsMidnight saoPauloSummer ∧
      ∃ dt, saoPaulo.startOf? saoPauloSummer = some dt ∧
        dt.instant = ⟨1541300400, 0, by decide⟩ ∧ saoPaulo.Begins saoPauloSummer dt.instant := by
  obtain ⟨orderly, start⟩ := startOf?_begins saoPaulo saoPauloSummer (by decide)
  have orderly := (orderly (by simp [tabulated])).1
  have shows : saoPaulo.ShowsDate saoPauloSummer ⟨1541300400, 0, by decide⟩ := by decide +kernel
  have skips : saoPaulo.SkipsMidnight saoPauloSummer := fun i _ reads =>
    not_readsAt_of_find? orderly.paced.rising (by decide +kernel) i.seconds
      (reads_startOf_iff.1 reads).1
  obtain ⟨first, dt, begins, found, -, skipped, -⟩ := start orderly ⟨_, by decide, shows⟩
  have skipped := skipped skips
  have midnight : saoPauloSummer.midnight = 1541289600 := by decide
  have second : first.seconds = 1541300400 := by
    refine Int.le_antisymm (begins.seconds_le (by decide) shows) (Int.not_lt.1 fun before => ?_)
    -- Before the change the clock is on the offset of the winter and not yet at midnight.
    have winter : saoPaulo.offsetAt first.seconds = .clamp (-10800) := by
      have near := begins.shows.near.1
      rw [midnight] at near
      unfold secondsPerDay at near
      have span : ⟨some 1518919200, some 1541300400, .clamp (-10800)⟩ ∈ saoPaulo.history := by
        decide +kernel
      refine inForce_of_covers orderly.paced.rising span ⟨?_, ?_⟩
      · intro a ha
        obtain rfl := Option.some.inj ha
        omega
      · intro b hb
        obtain rfl := Option.some.inj hb
        exact before
    have past := begins.midnight_lt skips
    rw [midnight, winter] at past
    have : (Offset.clamp (-10800)).seconds = -10800 := by decide
    omega
  have there : saoPaulo.Begins saoPauloSummer dt.instant := by
    refine skipped.begins_iff.2 ?_
    rw [skipped.offset, second, midnight]
    decide +kernel
  refine ⟨skips, dt, found, ?_, there⟩
  rw [there.unique begins]
  exact Instant.ext second begins.nano_eq_zero

/-- The new year of 1986, when clocks in Kathmandu went from midnight to a quarter past it. -/
def kathmanduNewYear : Date :=
  .ofDayNumber 5844

/-- There UTC showed midnight after the change, and the date is found to begin in the old year. -/
theorem not_forall_startOf?_begins :
    kathmandu.ShowsDate kathmanduNewYear ⟨504901800, 0, by decide⟩ ∧
      kathmandu.startOf? kathmanduNewYear =
        some ⟨⟨504900900, 0, by decide⟩, kathmandu.offsetAt 504901800⟩ ∧
      ¬ kathmandu.ShowsDate kathmanduNewYear ⟨504900900, 0, by decide⟩ ∧
      ¬ ∀ z ∈ tabulated, ∀ d : Date, d.Interior → (∃ i : Instant, i.InRange ∧ z.ShowsDate d i) →
        ∃ dt, z.startOf? d = some dt ∧ z.Begins d dt.instant := by
  have shows : kathmandu.ShowsDate kathmanduNewYear ⟨504901800, 0, by decide⟩ := by decide +kernel
  have other : ¬ kathmandu.ShowsDate kathmanduNewYear ⟨504900900, 0, by decide⟩ := by
    decide +kernel
  have offset : kathmandu.readingOffset (.startOf kathmanduNewYear) =
      kathmandu.offsetAt 504901800 := by
    rw [readingOffset_eq (by decide)]
    decide +kernel
  have found : kathmandu.startOf? kathmanduNewYear =
      some ⟨⟨504900900, 0, by decide⟩, kathmandu.offsetAt 504901800⟩ := by
    rw [startOf?, localize?, offset]
    decide +kernel
  refine ⟨shows, found, other, fun h => ?_⟩
  obtain ⟨dt, found', begins⟩ :=
    h kathmandu (by simp [tabulated]) kathmanduNewYear (by decide) ⟨_, by decide, shows⟩
  obtain rfl := Option.some.inj (found.symm.trans found')
  exact other begins.shows

end Zone
end QueryResult
