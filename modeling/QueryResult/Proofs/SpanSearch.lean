import QueryResult.Proofs.ZoneHistory

/-!
# The search for a span

Spans that follow one another in time need not do so on the clock, which the changes set forward and
back. `Paced` says how far the clock may be set back for the search by halves to do its work: what
it showed before a change is not shown again after the next one, and a span that the clock passes
over on its way back is made good by the offset in force when UTC shows the reading. The main
statement, `readingOffset_eq`, is that the offset of a reading is then that of the first span that
shows it, and the offset in force when UTC shows it if there is no such span.
-/

namespace QueryResult
open QueryResult.Calendar

namespace Zone

/-- How a change of the clocks follows the one in front of it. The offset `before` is the one that
the first of the two puts an end to, and `next` is the change behind them. -/
structure Follows (before : Offset) (x y : Transition) (next : Option Transition) : Prop where
  later : x.since < y.since
  /-- The clock has caught up, when the second change comes, with what it showed at the first. -/
  closing : x.since + before.seconds ≤ y.since + x.offset.seconds
  /-- The second change does not set the clock back behind what it showed at the first. -/
  apart : x.since + before.seconds ≤ y.since + y.offset.seconds
  /-- Nor behind where the first had set it, except that UTC may show what it passes over while the
  offset is the one that it goes to. -/
  opening : x.since + x.offset.seconds ≤ y.since + y.offset.seconds ∨
    0 ≤ y.offset.seconds ∧ ∀ z ∈ next, x.since + x.offset.seconds ≤ z.since

theorem follows_iff {before : Offset} {x y : Transition} {next : Option Transition} :
    Follows before x y next ↔ x.since < y.since ∧
      x.since + before.seconds ≤ y.since + x.offset.seconds ∧
      x.since + before.seconds ≤ y.since + y.offset.seconds ∧
      (x.since + x.offset.seconds ≤ y.since + y.offset.seconds ∨
        0 ≤ y.offset.seconds ∧ ∀ z ∈ next, x.since + x.offset.seconds ≤ z.since) :=
  ⟨fun h => ⟨h.later, h.closing, h.apart, h.opening⟩, fun h => ⟨h.1, h.2.1, h.2.2.1, h.2.2.2⟩⟩

instance (before : Offset) (x y : Transition) (next : Option Transition) :
    Decidable (Follows before x y next) :=
  decidable_of_iff _ follows_iff.symm

/-- Whether each change of a history follows the one in front of it. -/
def Paced : Offset → List Transition → Prop
  | before, x :: y :: rest => Follows before x y rest.head? ∧ Paced x.offset (y :: rest)
  | _, [_] => True
  | _, [] => True

instance decidablePaced : ∀ (before : Offset) (transitions : List Transition),
    Decidable (Paced before transitions)
  | _, [] => .isTrue trivial
  | _, [_] => .isTrue trivial
  | before, x :: y :: rest =>
    have := decidablePaced x.offset (y :: rest)
    inferInstanceAs (Decidable (Follows before x y rest.head? ∧ Paced x.offset (y :: rest)))

namespace Paced

variable {before : Offset} {x : Transition} {transitions rest : List Transition}

theorem tail (paced : Paced before (x :: rest)) : Paced x.offset rest := by
  cases rest with
  | nil => trivial
  | cons y rest => exact paced.2

theorem rising (paced : Paced before transitions) : Rising transitions := by
  induction transitions generalizing before with
  | nil => exact List.Pairwise.nil
  | cons x rest ih =>
    have rising := ih paced.tail
    refine List.pairwise_cons.2 ⟨?_, rising⟩
    cases rest with
    | nil => exact fun w mem => absurd mem List.not_mem_nil
    | cons y rest =>
      intro w mem
      have first := paced.1.later
      rcases List.mem_cons.1 mem with rfl | behind
      · exact first
      · have := (List.pairwise_cons.1 rising).1 w behind
        omega

/-- From a change on, the clock does not close a span earlier than it did at the change. -/
theorem le_closing (paced : Paced before (x :: rest)) {s : Span}
    (mem : s ∈ spansFrom (some x.since) x.offset rest) {c : Int} (hc : c ∈ s.closing?) :
    x.since + before.seconds ≤ c := by
  induction rest generalizing before x with
  | nil =>
    obtain rfl := List.mem_singleton.1 mem
    nomatch hc
  | cons y rest ih =>
    have closing := paced.1.closing
    rcases List.mem_cons.1 mem with rfl | behind
    · obtain rfl := Option.some.inj hc
      exact closing
    · have := ih paced.tail behind
      omega

/-- From the change behind it on, the clock does not open a span earlier either. -/
theorem le_opening {y : Transition} (paced : Paced before (x :: y :: rest)) {s : Span}
    (mem : s ∈ spansFrom (some y.since) y.offset rest) {a : Int} (ha : a ∈ s.opening?) :
    x.since + before.seconds ≤ a := by
  induction rest generalizing before x y with
  | nil =>
    obtain rfl := List.mem_singleton.1 mem
    obtain rfl := Option.some.inj ha
    exact paced.1.apart
  | cons w rest ih =>
    rcases List.mem_cons.1 mem with rfl | behind
    · obtain rfl := Option.some.inj ha
      exact paced.1.apart
    · have := ih paced.tail behind
      have := paced.1.closing
      omega

end Paced

/-! ## Spans by their number -/

section Numbered

variable {start : Option Int} {before : Offset} {transitions : List Transition}

theorem spansFrom_eq_cons (start : Option Int) (before : Offset) (transitions : List Transition) :
    ∃ rest, spansFrom start before transitions =
      ⟨start, transitions.head?.map Transition.since, before⟩ :: rest := by
  cases transitions with
  | nil => exact ⟨[], rfl⟩
  | cons x rest => exact ⟨_, rfl⟩

theorem opening_lt_closing (rising : Rising transitions)
    (after : ∀ a ∈ start, ∀ x ∈ transitions, a < x.since) {s : Span}
    (mem : s ∈ spansFrom start before transitions) {a b : Int} (ha : a ∈ s.opening?)
    (hb : b ∈ s.closing?) : a < b := by
  induction transitions generalizing start before with
  | nil =>
    obtain rfl := List.mem_singleton.1 mem
    nomatch hb
  | cons x rest ih =>
    obtain ⟨behind, rising⟩ := List.pairwise_cons.1 rising
    rcases List.mem_cons.1 mem with rfl | later
    · obtain ⟨begin_, start_eq, rfl⟩ := Option.map_eq_some_iff.1 ha
      obtain rfl := Option.some.inj hb
      have := after begin_ start_eq x List.mem_cons_self
      show begin_ + before.seconds < x.since + before.seconds
      omega
    · refine ih rising ?_ later
      intro a' ha' w hw
      obtain rfl := Option.some.inj ha'
      exact behind w hw

/-- Every span but the last has an end. -/
theorem exists_closing {i j : Nat} {s t : Span} (lt : i < j)
    (hi : (spansFrom start before transitions)[i]? = some s)
    (hj : (spansFrom start before transitions)[j]? = some t) : ∃ b, b ∈ s.closing? := by
  induction transitions generalizing start before i j with
  | nil =>
    obtain ⟨j, rfl⟩ : ∃ k, j = k + 1 := ⟨j - 1, by omega⟩
    nomatch hj
  | cons x rest ih =>
    obtain ⟨j, rfl⟩ : ∃ k, j = k + 1 := ⟨j - 1, by omega⟩
    rw [spansFrom, List.getElem?_cons_succ] at hj
    cases i with
    | zero =>
      obtain rfl := Option.some.inj hi
      exact ⟨_, rfl⟩
    | succ i =>
      rw [spansFrom, List.getElem?_cons_succ] at hi
      exact ih (by omega) hi hj

/-- Every span but the first has a beginning. -/
theorem exists_opening {i : Nat} {s : Span} (pos : 0 < i)
    (hi : (spansFrom start before transitions)[i]? = some s) : ∃ a, a ∈ s.opening? := by
  induction transitions generalizing start before i with
  | nil =>
    obtain ⟨i, rfl⟩ : ∃ k, i = k + 1 := ⟨i - 1, by omega⟩
    nomatch hi
  | cons x rest ih =>
    obtain ⟨i, rfl⟩ : ∃ k, i = k + 1 := ⟨i - 1, by omega⟩
    rw [spansFrom, List.getElem?_cons_succ] at hi
    cases i with
    | zero =>
      obtain ⟨tail, head⟩ := spansFrom_eq_cons (some x.since) x.offset rest
      rw [head] at hi
      obtain rfl := Option.some.inj hi
      exact ⟨_, rfl⟩
    | succ i => exact ih (by omega) hi

theorem closing_le_closing (paced : Paced before transitions) {i j : Nat} {s t : Span} (lt : i < j)
    (hi : (spansFrom start before transitions)[i]? = some s)
    (hj : (spansFrom start before transitions)[j]? = some t) {b c : Int} (hb : b ∈ s.closing?)
    (hc : c ∈ t.closing?) : b ≤ c := by
  induction transitions generalizing start before i j with
  | nil =>
    obtain rfl := List.mem_singleton.1 (List.mem_of_getElem? hi)
    nomatch hb
  | cons x rest ih =>
    obtain ⟨j, rfl⟩ : ∃ k, j = k + 1 := ⟨j - 1, by omega⟩
    rw [spansFrom, List.getElem?_cons_succ] at hj
    cases i with
    | zero =>
      obtain rfl := Option.some.inj hi
      obtain rfl := Option.some.inj hb
      exact paced.le_closing (List.mem_of_getElem? hj) hc
    | succ i =>
      rw [spansFrom, List.getElem?_cons_succ] at hi
      exact ih paced.tail (by omega) hi hj

theorem closing_le_opening (paced : Paced before transitions) {i j : Nat} {s t : Span}
    (apart : i + 2 ≤ j) (hi : (spansFrom start before transitions)[i]? = some s)
    (hj : (spansFrom start before transitions)[j]? = some t) {b a : Int} (hb : b ∈ s.closing?)
    (ha : a ∈ t.opening?) : b ≤ a := by
  induction transitions generalizing start before i j with
  | nil =>
    obtain rfl := List.mem_singleton.1 (List.mem_of_getElem? hi)
    nomatch hb
  | cons x rest ih =>
    obtain ⟨j, rfl⟩ : ∃ k, j = k + 2 := ⟨j - 2, by omega⟩
    rw [spansFrom, List.getElem?_cons_succ] at hj
    cases i with
    | zero =>
      obtain rfl := Option.some.inj hi
      obtain rfl := Option.some.inj hb
      cases rest with
      | nil => nomatch hj
      | cons y rest =>
        rw [spansFrom, List.getElem?_cons_succ] at hj
        exact paced.le_opening (List.mem_of_getElem? hj) ha
    | succ i =>
      rw [spansFrom, List.getElem?_cons_succ] at hi
      exact ih paced.tail (by omega) hi hj

/-- A reading that the clock passes over on its way back is shown by UTC within the span that it
goes to. -/
theorem covers_of_passed (paced : Paced before transitions) {i : Nat} {s t : Span}
    (hi : (spansFrom start before transitions)[i + 1]? = some s)
    (hj : (spansFrom start before transitions)[i + 2]? = some t) {a reading : Int}
    (ha : a ∈ s.opening?) (passed : reading < a) (shows : t.shows reading = true) :
    t.Covers reading := by
  induction transitions generalizing start before i with
  | nil => nomatch hi
  | cons x rest ih =>
    rw [spansFrom, List.getElem?_cons_succ] at hi hj
    cases i with
    | zero =>
      cases rest with
      | nil => nomatch hj
      | cons y rest =>
        obtain rfl := Option.some.inj hi
        obtain rfl := Option.some.inj ha
        obtain ⟨tail, head⟩ := spansFrom_eq_cons (some y.since) y.offset rest
        rw [spansFrom, List.getElem?_cons_succ, head] at hj
        obtain rfl := Option.some.inj hj
        have opened : y.since + y.offset.seconds ≤ reading := (Span.shows_iff.1 shows).1 _ rfl
        have passed : reading < x.since + x.offset.seconds := passed
        rcases paced.1.opening with forward | ⟨ahead, before_next⟩
        · omega
        · constructor
          · intro b hb
            obtain rfl := Option.some.inj hb
            omega
          · intro b hb
            obtain ⟨z, next, rfl⟩ := Option.map_eq_some_iff.1 hb
            have := before_next z next
            omega
    | succ i => exact ih paced.tail hi hj

end Numbered

/-! ## The search by halves -/

/-- What the search finds shows the reading. -/
theorem shows_of_findSpan {spans : List Span} {reading : Int} {low high i : Nat}
    (found : findSpan spans.toArray reading low high = some i) :
    ∃ s, spans[i]? = some s ∧ s.shows reading = true := by
  fun_induction findSpan spans.toArray reading low high with
  | case1 low high lt middle none => nomatch found
  | case2 low high lt middle s at_ early ih => exact ih found
  | case3 low high lt middle s at_ here =>
    obtain rfl := Option.some.inj found
    refine ⟨s, by simpa using at_, ?_⟩
    rw [Span.shows, here]
    rfl
  | case4 low high lt middle s at_ late ih => exact ih found
  | case5 low high empty => nomatch found

section Search

variable {start : Option Int} {before : Offset} {transitions : List Transition}

/-- A span that the search misses is one that the clock was set back to, with the reading passed
over on the way. -/
theorem passed_of_findSpan (paced : Paced before transitions) (first : start = none)
    {reading : Int} {low high : Nat} (high_le : high ≤ (spansFrom start before transitions).length)
    (missing : findSpan (spansFrom start before transitions).toArray reading low high = none)
    {i : Nat} {s : Span} (low_le : low ≤ i) (lt_high : i < high)
    (hi : (spansFrom start before transitions)[i]? = some s) (shows : s.shows reading = true) :
    ∃ k t a, i = k + 1 ∧ (spansFrom start before transitions)[k]? = some t ∧ a ∈ t.opening? ∧
      reading < a := by
  fun_induction findSpan (spansFrom start before transitions).toArray reading low high with
  | case1 low high lt middle none =>
    simp at none
    omega
  | case2 low high lt middle t at_ early ih =>
    simp only [List.getElem?_toArray] at at_
    obtain ⟨a, opening, lt_a⟩ := Span.exists_opening_of_locate early
    obtain ⟨opened, -⟩ := Span.shows_iff.1 shows
    rcases Nat.lt_trichotomy i middle with left | rfl | right
    · exact ih (by omega) missing low_le left
    · obtain rfl := Option.some.inj (at_.symm.trans hi)
      exact absurd (opened a opening) (by omega)
    · by_cases next : i = middle + 1
      · exact ⟨middle, t, a, next, at_, opening, lt_a⟩
      · -- Farther on the clock has caught up with the end of the middle span.
        obtain ⟨b, closing⟩ := exists_closing right at_ hi
        obtain ⟨c, opening'⟩ := exists_opening (by omega) hi
        have := closing_le_opening paced (by omega) at_ hi closing opening'
        have := opened c opening'
        have := opening_lt_closing paced.rising (by simp [first]) (List.mem_of_getElem? at_)
          opening closing
        omega
  | case3 low high lt middle t at_ here => nomatch missing
  | case4 low high lt middle t at_ late ih =>
    simp only [List.getElem?_toArray] at at_
    obtain ⟨b, closing, b_le⟩ := Span.exists_closing_of_locate late
    obtain ⟨-, open_⟩ := Span.shows_iff.1 shows
    rcases Nat.lt_trichotomy i middle with left | rfl | right
    · obtain ⟨c, closing'⟩ := exists_closing left hi at_
      have := closing_le_closing paced left hi at_ closing' closing
      exact absurd (open_ c closing') (by omega)
    · obtain rfl := Option.some.inj (at_.symm.trans hi)
      exact absurd (open_ b closing) (by omega)
    · exact ih high_le missing (by omega) lt_high
  | case5 low high empty => omega

end Search

/-! ## The offset of a reading -/

section Offsets

variable {z : Zone} {reading : Int}

/-- The first span that shows a reading is the one that the search finds or the one before it. -/
theorem first_of_findSpan (paced : Paced z.initial z.transitions) {i j : Nat} {s t : Span}
    (hi : z.history[i]? = some s) (shows : s.shows reading = true)
    (hj : z.history[j]? = some t) (shows' : t.shows reading = true)
    (first : ∀ k < i, ∀ r, z.history[k]? = some r → r.shows reading = false) :
    i = j ∨ i + 1 = j := by
  rcases Nat.lt_trichotomy i j with before | same | behind
  · by_cases next : i + 1 = j
    · exact .inr next
    · obtain ⟨b, closing⟩ := exists_closing before hi hj
      obtain ⟨a, opening⟩ := exists_opening (by omega) hj
      have := closing_le_opening paced (by omega) hi hj closing opening
      have := (Span.shows_iff.1 shows).2 b closing
      have := (Span.shows_iff.1 shows').1 a opening
      omega
  · exact .inl same
  · exact absurd ((first j behind t hj).symm.trans shows') Bool.false_ne_true

theorem offsetOfReading?_eq_some (paced : Paced z.initial z.transitions) {i : Nat} {s : Span}
    (hi : z.history[i]? = some s) (shows : s.shows reading = true)
    (first : ∀ k < i, ∀ r, z.history[k]? = some r → r.shows reading = false) {j : Nat}
    (found : findSpan z.spans reading 0 z.spans.size = some j) :
    z.offsetOfReading? reading = some s.offset := by
  have at_ : ∀ k, z.spans[k]? = z.history[k]? := fun k => List.getElem?_toArray
  obtain ⟨t, hj, shows'⟩ := shows_of_findSpan found
  have earliest : (if 0 < j ∧ showsAt z.spans reading (j - 1) then j - 1 else j) = i := by
    rcases first_of_findSpan paced hi shows hj shows' first with rfl | rfl
    · refine if_neg fun before => ?_
      have lt : i - 1 < i := by omega
      have shown := before.2
      rw [showsAt, at_] at shown
      obtain ⟨r, hr, shown⟩ := (Option.any_eq_true _ _).1 shown
      exact Bool.false_ne_true ((first (i - 1) lt r hr).symm.trans shown)
    · rw [if_pos]
      · rfl
      · refine ⟨Nat.succ_pos i, ?_⟩
        rw [showsAt, at_, Nat.add_sub_cancel, hi]
        exact shows
  simp only [offsetOfReading?, found, Option.bind_eq_bind, Option.bind_some, earliest, at_, hi]
  rfl

/-- The offset of a reading is that of the first span that shows it, or else the one in force when
UTC shows it. -/
theorem readingOffset_eq (paced : Paced z.initial z.transitions) (w : WallClock) :
    z.readingOffset w =
      ((z.history.find? (·.shows w.epochSeconds)).map Span.offset).getD
        (z.offsetAt w.epochSeconds) := by
  rw [readingOffset]
  generalize w.epochSeconds = reading
  cases found : findSpan z.spans reading 0 z.spans.size with
  | none =>
    have missing : z.offsetOfReading? reading = none := by
      simp only [offsetOfReading?, found, Option.bind_eq_bind, Option.bind_none]
    rw [missing]
    cases earliest : z.history.find? (·.shows reading) with
    | none => rfl
    | some s =>
      obtain ⟨shows, i, lt, rfl, -⟩ := List.find?_eq_some_iff_getElem.1 earliest
      have hi := List.getElem?_eq_getElem lt
      obtain ⟨k, t, a, rfl, hk, opening, passed⟩ := passed_of_findSpan paced rfl
        (Nat.le_of_eq List.size_toArray) found (Nat.zero_le i)
        (by simpa [spans, history] using lt) hi shows
      cases k with
      | zero =>
        -- The first span has no opening that the clock could be set back behind.
        obtain ⟨tail, head⟩ := spansFrom_eq_cons none z.initial z.transitions
        rw [head] at hk
        obtain rfl := Option.some.inj hk
        simp [Span.opening?] at opening
      | succ k =>
        exact inForce_of_covers paced.rising (List.mem_of_getElem? hi)
          (covers_of_passed paced hk hi opening passed shows)
  | some j =>
    obtain ⟨t, hj, shows'⟩ := shows_of_findSpan found
    have some_ : (z.history.find? (·.shows reading)).isSome :=
      List.find?_isSome.2 ⟨t, List.mem_of_getElem? hj, shows'⟩
    obtain ⟨s, earliest⟩ := Option.isSome_iff_exists.1 some_
    obtain ⟨shows, i, lt, rfl, silent⟩ := List.find?_eq_some_iff_getElem.1 earliest
    rw [earliest, offsetOfReading?_eq_some paced (List.getElem?_eq_getElem lt) shows ?_ found]
    · rfl
    · intro k before r hr
      obtain ⟨_, rfl⟩ := List.getElem?_eq_some_iff.1 hr
      simpa using silent k before

end Offsets

end Zone
end QueryResult
