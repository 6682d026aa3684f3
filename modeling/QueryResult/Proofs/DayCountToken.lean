import QueryResult.Proofs.DayNumber
import QueryResult.Proofs.NumberGrammar
import QueryResult.Proofs.ScaleBounds
import QueryResult.Temporal.DayCount

/-!
# Tokens of dates

Counting days is counting along the calendar. `next` turns a leaf of the calendar: no date lies
between a date and the next one (`next_le_of_lt`), so that their day numbers are one apart
(`dayNumber_next`), across the ends of months and years, in leap years and before the year 0.

A token is read as a date exactly if it spells the day number of one in range. The way there leads
through milliseconds in 64 bits and an instant of the calendar (`ofCountIn?`); it ends early for
every count outside of the range, and never at another date. The main statement is
`day_counts_are_dates`.
-/

namespace QueryResult.Calendar.Date
open QueryResult.Number QueryResult.Text

variable {d e : Date} {n : Int}

/-! ## One day after another -/

theorem daysInMonth_pos (year : Int) (month : Nat) : 1 ≤ daysInMonth year month := by
  unfold daysInMonth
  split
  · split <;> decide
  · split <;> decide

/-- The date after a date: the next day of its month, else the first of the next month, else the
first of the next year. -/
def next (d : Date) : Date :=
  if day : d.day < daysInMonth d.year d.month then
    ⟨d.year, d.month, d.day + 1, d.month_pos, d.month_le, Nat.le_add_left 1 d.day, day⟩
  else if month : d.month < 12 then
    ⟨d.year, d.month + 1, 1, Nat.le_add_left 1 d.month, month, Nat.one_pos, daysInMonth_pos _ _⟩
  else
    ⟨d.year + 1, 1, 1, Nat.one_pos, Nat.le_trans d.month_pos d.month_le, Nat.one_pos,
      daysInMonth_pos _ _⟩

theorem lt_iff : d < e ↔ d.year < e.year ∨
    (d.year = e.year ∧ (d.month < e.month ∨ (d.month = e.month ∧ d.day < e.day))) :=
  Iff.rfl

theorem lt_next (d : Date) : d < d.next := by
  rw [lt_iff, next]
  split
  · simp
  · split
    · simp
    · simp

/-- No date lies between a date and the next one. -/
theorem next_le_of_lt (h : d < e) : d.next = e ∨ d.next < e := by
  have day := e.day_pos
  have month := e.month_pos
  have month' := e.month_le
  have last := e.day_le
  rw [lt_iff] at h ⊢
  rw [ext_iff, next]
  split <;> rename_i inMonth
  · simp only
    omega
  · -- The month is over, so that a later date is not in it.
    have ended : ¬ (d.year = e.year ∧ d.month = e.month) := by
      rintro ⟨year, month⟩
      rw [year, month] at inMonth
      omega
    split <;> simp only <;> omega

theorem dayNumber_next (d : Date) : d.next.dayNumber = d.dayNumber + 1 := by
  have after := lt_iff_dayNumber_lt.1 d.lt_next
  have following : d < ofDayNumber (d.dayNumber + 1) := by
    rw [lt_iff_dayNumber_lt, dayNumber_ofDayNumber]
    omega
  rcases next_le_of_lt following with same | between
  · rw [same, dayNumber_ofDayNumber]
  · rw [lt_iff_dayNumber_lt, dayNumber_ofDayNumber] at between
    omega

theorem ofDayNumber_succ (n : Int) : ofDayNumber (n + 1) = (ofDayNumber n).next := by
  apply dayNumber_inj
  rw [dayNumber_next, dayNumber_ofDayNumber, dayNumber_ofDayNumber]

theorem ofDayNumber_lt_iff {m n : Int} : ofDayNumber m < ofDayNumber n ↔ m < n := by
  rw [lt_iff_dayNumber_lt, dayNumber_ofDayNumber, dayNumber_ofDayNumber]

theorem ofDayNumber_eq_iff : ofDayNumber n = d ↔ n = d.dayNumber := by
  constructor
  · rintro rfl
    exact (dayNumber_ofDayNumber n).symm
  · rintro rfl
    exact ofDayNumber_dayNumber d

theorem inRange_ofDayNumber_iff : (ofDayNumber n).InRange ↔ firstDay ≤ n ∧ n ≤ lastDay := by
  rw [inRange_iff, dayNumber_ofDayNumber]

/-! ## By way of milliseconds -/

/-- The milliseconds of a day. -/
def millisPerDay : Int := 86400000

/-- The instant some milliseconds after the epoch, if the calendar reaches it. -/
def instantOfMillis? (millis : Int) : Option Instant :=
  Instant.ofEpoch? (millis / 1000) ((millis % 1000).toNat * 1000000)

/-- The date of a day count by way of the instant at which it begins: its milliseconds are kept in 64
bits, and the calendar has to reach them. -/
def ofCountIn? (n : Int) : Option Date := do
  let millis ← signed? 64 (n * millisPerDay)
  let i ← instantOfMillis? millis
  return i.utc.date

/-- A day in range has its milliseconds in 64 bits. -/
theorem fitsSigned_millis (low : firstDay ≤ n) (high : n ≤ lastDay) :
    FitsSigned 64 (n * millisPerDay) := by
  have width : twoTo (64 - 1) = 9223372036854775808 := by decide
  unfold firstDay lastDay at *
  unfold FitsSigned millisPerDay
  omega

theorem instantOfMillis?_day (low : firstDay ≤ n) (high : n ≤ lastDay) :
    instantOfMillis? (n * millisPerDay) = some ⟨n * secondsPerDay, 0, by decide⟩ := by
  have seconds : n * millisPerDay / 1000 = n * secondsPerDay := by
    unfold millisPerDay secondsPerDay
    omega
  have rest : (n * millisPerDay % 1000).toNat * 1000000 = 0 := by
    unfold millisPerDay
    omega
  have within : 0 < nanosPerSecond ∧ Instant.minSeconds ≤ n * secondsPerDay ∧
      n * secondsPerDay ≤ Instant.maxSeconds := by
    unfold firstDay lastDay at *
    unfold Instant.minSeconds Instant.maxSeconds secondsPerDay nanosPerSecond
    omega
  rw [instantOfMillis?, seconds, rest, Instant.ofEpoch?, dif_pos within]

/-- No other count comes out within the calendar. -/
theorem instantOfMillis?_beyond (beyond : ¬ (firstDay ≤ n ∧ n ≤ lastDay)) :
    instantOfMillis? (n * millisPerDay) = none := by
  rw [instantOfMillis?, Instant.ofEpoch?, dif_neg]
  rintro ⟨-, low, high⟩
  unfold Instant.minSeconds Instant.maxSeconds millisPerDay at *
  unfold firstDay lastDay at beyond
  omega

/-- At the start of a day a clock on UTC shows its date. -/
theorem date_utc_day (n : Int) (h : 0 < 2 * nanosPerSecond) :
    (⟨n * secondsPerDay, 0, h⟩ : Instant).utc.date = ofDayNumber n := by
  have day : n * secondsPerDay / secondsPerDay = n := Int.mul_ediv_cancel n (by decide)
  simp only [Instant.utc, WallClock.ofEpoch, day]

theorem ofCountIn?_of_range (low : firstDay ≤ n) (high : n ≤ lastDay) :
    ofCountIn? n = some (ofDayNumber n) := by
  rw [ofCountIn?, signed?_eq_some (fitsSigned_millis low high), Option.bind_eq_bind,
    Option.bind_some, instantOfMillis?_day low high, Option.bind_eq_bind, Option.bind_some,
    date_utc_day]
  rfl

theorem ofCountIn?_of_beyond (beyond : ¬ (firstDay ≤ n ∧ n ≤ lastDay)) : ofCountIn? n = none := by
  rw [ofCountIn?, Option.bind_eq_bind, Option.bind_eq_none_iff]
  intro millis narrow
  obtain ⟨rfl, -⟩ := signed?_eq_some_iff.1 narrow
  rw [instantOfMillis?_beyond beyond, Option.bind_eq_bind, Option.bind_none]

/-- By way of milliseconds a count leads to its date, or nowhere if that is not in range. -/
theorem ofCountIn?_eq (n : Int) :
    ofCountIn? n = if firstDay ≤ n ∧ n ≤ lastDay then some (ofDayNumber n) else none := by
  split <;> rename_i range
  · exact ofCountIn?_of_range range.1 range.2
  · exact ofCountIn?_of_beyond range

/-! ## Tokens -/

theorem parse?_eq_bind (cs : List Char) :
    parse? cs = (integerOfWidth? 64 cs).bind ofCountIn? := by
  unfold parse?
  cases integerOfWidth? 64 cs with
  | none => rfl
  | some n =>
    rw [Option.bind_some, ofCountIn?_eq]
    simp only [Option.map_some, Option.filter_some, decide_eq_true_eq, inRange_ofDayNumber_iff]

theorem decode_eq_ok_iff {token : String} : decode token = .ok d ↔ parse? token.toList = some d := by
  unfold decode
  split <;> rename_i read <;> simp [read]

theorem decode_eq_error_iff {token : String} {e : DecodeError} :
    decode token = .error e ↔ e = ⟨.date, token⟩ ∧ parse? token.toList = none := by
  unfold decode
  split <;> rename_i read <;> simp [read, eq_comm]

/-- A text that spells the number of a day in range, in 64 bits like every count. -/
structure SpellsDay (n : Int) (cs : List Char) : Prop where
  text : IntegerText n cs
  width : FitsSigned 64 n
  low : firstDay ≤ n
  high : n ≤ lastDay

theorem fitsSigned_day (low : firstDay ≤ n) (high : n ≤ lastDay) : FitsSigned 64 n := by
  have width : twoTo (64 - 1) = 9223372036854775808 := by decide
  unfold firstDay lastDay at *
  unfold FitsSigned
  omega

theorem parse?_eq_some_iff_spellsDay {cs : List Char} :
    parse? cs = some d ↔ ∃ n, SpellsDay n cs ∧ ofDayNumber n = d := by
  rw [parse?_eq_some_iff]
  constructor
  · rintro ⟨inRange, n, read, rfl⟩
    obtain ⟨integer, width⟩ := integerOfWidth?_eq_some_iff.1 read
    obtain ⟨low, high⟩ := inRange_ofDayNumber_iff.1 inRange
    exact ⟨n, ⟨integer?_eq_some_iff.1 integer, width, low, high⟩, rfl⟩
  · rintro ⟨n, ⟨text, width, low, high⟩, rfl⟩
    refine ⟨inRange_ofDayNumber_iff.2 ⟨low, high⟩, n, ?_, rfl⟩
    exact integerOfWidth?_eq_some_iff.2 ⟨integer?_eq_some_iff.2 text, width⟩

/-- The tokens of a date in range are the texts of its day number. -/
theorem decode_eq_ok_iff_integerText {token : String} (inRange : d.InRange) :
    decode token = .ok d ↔ IntegerText d.dayNumber token.toList := by
  obtain ⟨low, high⟩ := inRange_iff.1 inRange
  rw [decode_eq_ok_iff, parse?_eq_some_iff_spellsDay]
  constructor
  · rintro ⟨n, spells, date⟩
    rw [← ofDayNumber_eq_iff.1 date]
    exact spells.text
  · intro text
    exact ⟨d.dayNumber, ⟨text, fitsSigned_day low high, low, high⟩, ofDayNumber_dayNumber d⟩

/-! ## Counts and dates -/

/-- How day numbers stand for dates. -/
structure NumbersDays : Prop where
  epoch : ofCivil? 1970 1 1 = some (ofDayNumber 0)
  first : ofCivil? (-262143) 1 1 = some (ofDayNumber firstDay)
  last : ofCivil? 262142 12 31 = some (ofDayNumber lastDay)
  /-- From one number to the next, the calendar goes on by one day. -/
  successor : ∀ n, ofDayNumber (n + 1) = (ofDayNumber n).next
  /-- Dates are in the order of their numbers. -/
  order : ∀ m n, ofDayNumber m < ofDayNumber n ↔ m < n
  /-- The dates that values may denote are those from the first to the last. -/
  range : ∀ n, (ofDayNumber n).InRange ↔ firstDay ≤ n ∧ n ≤ lastDay
  /-- Each of them is what the texts of exactly one number are read as. -/
  onto : ∀ d : Date, d.InRange → ∃! n, ∀ token : String,
    IntegerText n token.toList → decode token = .ok d

/-- How a token is read as a date. -/
structure ReadAsDay (token : String) : Prop where
  /-- The tokens that are taken spell a day in range, and are read as its date. -/
  accepted : ∀ d, decode token = .ok d ↔ ∃ n, SpellsDay n token.toList ∧ ofDayNumber n = d
  /-- Every other token is handed back. -/
  refused : ∀ e, decode token = .error e ↔
    e = ⟨.date, token⟩ ∧ ¬ ∃ n, SpellsDay n token.toList
  /-- Whatever the count, its milliseconds overflow, lie beyond the calendar or lead to its date. -/
  steps : (decode token).toOption = (integerOfWidth? 64 token.toList).bind ofCountIn?

theorem numbersDays : NumbersDays where
  epoch := by decide +kernel
  first := by decide +kernel
  last := by decide +kernel
  successor := ofDayNumber_succ
  order _ _ := ofDayNumber_lt_iff
  range _ := inRange_ofDayNumber_iff
  onto d inRange := by
    refine ⟨d.dayNumber, fun token => (decode_eq_ok_iff_integerText inRange).2, ?_⟩
    intro n reads
    have text : IntegerText n (String.ofList (intText n)).toList := by
      rw [String.toList_ofList]
      exact integerText_intText n
    have text' := (decode_eq_ok_iff_integerText inRange).1 (reads _ text)
    exact Option.some.inj
      ((integer?_eq_some_iff.2 text).symm.trans (integer?_eq_some_iff.2 text'))

/-- **Day counts are dates**: each count in range is one date, in the order of the calendar and with
no date left out, and no other token is read as one. -/
theorem day_counts_are_dates : NumbersDays ∧ ∀ token : String, ReadAsDay token := by
  refine ⟨numbersDays, fun token => ?_⟩
  constructor
  case accepted =>
    intro d
    rw [decode_eq_ok_iff, parse?_eq_some_iff_spellsDay]
  case refused =>
    intro e
    rw [decode_eq_error_iff]
    refine and_congr_right fun _ => ?_
    simp only [Option.eq_none_iff_forall_ne_some, ne_eq, parse?_eq_some_iff_spellsDay]
    constructor
    · rintro nothing ⟨n, spells⟩
      exact nothing (ofDayNumber n) ⟨n, spells, rfl⟩
    · rintro nothing d ⟨n, spells, -⟩
      exact nothing ⟨n, spells⟩
  case steps =>
    rw [← parse?_eq_bind]
    unfold decode
    split <;> rename_i read <;> rw [read] <;> rfl

/-- The leap day ends the second month of the year 0, as of every fourth century. -/
example : (ofCivil? 0 2 28).map next = ofCivil? 0 2 29 ∧
    (ofCivil? (-100) 2 28).map next = ofCivil? (-100) 3 1 := by
  decide

end QueryResult.Calendar.Date
