import QueryResult.Zone.Basic

/-!
# The history of a zone in spans

The spans of a zone lie one behind the other and leave nothing out: each second of UTC is covered by
a span, whose offset is the one in force (`exists_covers`, `inForce_of_covers`), and what an earlier
span covers is earlier. So the seconds at which a clock shows a reading are found among the spans
that show it, and the first such span holds the earliest of them (`earliest_of_find?`).
-/

namespace QueryResult
open QueryResult.Calendar

namespace Span

/-- Whether a second of UTC lies within the span. -/
def Covers (s : Span) (t : Int) : Prop :=
  (∀ a ∈ s.start, a ≤ t) ∧ ∀ b ∈ s.stop, t < b

/-- What the clock shows when the span begins. -/
def opening? (s : Span) : Option Int :=
  s.start.map (· + s.offset.seconds)

/-- What the clock shows when the span is over. -/
def closing? (s : Span) : Option Int :=
  s.stop.map (· + s.offset.seconds)

variable {s : Span} {reading : Int}

theorem any_start_iff :
    (s.start.any fun a => decide (reading < a + s.offset.seconds)) = true ↔
      ∃ a ∈ s.opening?, reading < a := by
  unfold opening?
  cases s.start <;> simp

theorem any_stop_iff :
    (s.stop.any fun b => decide (b + s.offset.seconds ≤ reading)) = true ↔
      ∃ b ∈ s.closing?, b ≤ reading := by
  unfold closing?
  cases s.stop <;> simp

theorem exists_opening_of_locate (h : s.locate reading = .lt) : ∃ a ∈ s.opening?, reading < a := by
  unfold locate at h
  split at h
  · rename_i early
    exact any_start_iff.1 early
  · split at h <;> nomatch h

theorem exists_closing_of_locate (h : s.locate reading = .gt) :
    ∃ b ∈ s.closing?, b ≤ reading := by
  unfold locate at h
  split at h
  · nomatch h
  · split at h
    · rename_i late
      exact any_stop_iff.1 late
    · nomatch h

/-- A clock shows the readings from the opening of the span to its closing. -/
theorem shows_iff : s.shows reading = true ↔
    (∀ a ∈ s.opening?, a ≤ reading) ∧ ∀ b ∈ s.closing?, reading < b := by
  rw [shows, beq_iff_eq, locate]
  split
  · rename_i early
    obtain ⟨a, ha, lt⟩ := any_start_iff.1 early
    simp only [reduceCtorEq, false_iff]
    intro h
    exact absurd (h.1 a ha) (by omega)
  · rename_i early
    rw [any_start_iff] at early
    split
    · rename_i late
      obtain ⟨b, hb, le⟩ := any_stop_iff.1 late
      simp only [reduceCtorEq, false_iff]
      intro h
      exact absurd (h.2 b hb) (by omega)
    · rename_i late
      rw [any_stop_iff] at late
      simp only [true_iff]
      constructor
      · intro a ha
        exact Int.not_lt.1 fun lt => early ⟨a, ha, lt⟩
      · intro b hb
        exact Int.not_le.1 fun le => late ⟨b, hb, le⟩

/-- A clock shows a reading within the span at the second that lies the offset before the reading. -/
theorem shows_iff_covers :
    s.shows reading = true ↔ s.Covers (reading - s.offset.seconds) := by
  rw [shows_iff]
  unfold opening? closing? Covers
  simp only [Option.mem_def, Option.map_eq_some_iff, forall_exists_index, and_imp,
    forall_apply_eq_imp_iff₂]
  constructor
  · intro h
    exact ⟨fun a ha => by have := h.1 a ha; omega, fun b hb => by have := h.2 b hb; omega⟩
  · intro h
    exact ⟨fun a ha => by have := h.1 a ha; omega, fun b hb => by have := h.2 b hb; omega⟩

end Span

namespace Zone

/-- Transitions in the order of time. -/
def Rising (transitions : List Transition) : Prop :=
  transitions.Pairwise fun x y => x.since < y.since

/-- A span begins no earlier than the history that it is part of. -/
theorem le_of_covers {a t : Int} {current : Offset} {transitions : List Transition} {s : Span}
    (after : ∀ x ∈ transitions, a < x.since) (rising : Rising transitions)
    (mem : s ∈ spansFrom (some a) current transitions) (covers : s.Covers t) : a ≤ t := by
  induction transitions generalizing a current with
  | nil =>
    obtain rfl := List.mem_singleton.1 mem
    exact covers.1 a rfl
  | cons x rest ih =>
    rcases List.mem_cons.1 mem with rfl | later
    · exact covers.1 a rfl
    · obtain ⟨behind, rising⟩ := List.pairwise_cons.1 rising
      have : x.since ≤ t := ih behind rising later
      have := after x List.mem_cons_self
      omega

/-- The offset of a span is in force throughout it. -/
theorem inForce_of_covers {start : Option Int} {t : Int} {current : Offset}
    {transitions : List Transition} {s : Span} (rising : Rising transitions)
    (mem : s ∈ spansFrom start current transitions) (covers : s.Covers t) :
    inForce t current transitions = s.offset := by
  induction transitions generalizing start current with
  | nil =>
    obtain rfl := List.mem_singleton.1 mem
    rfl
  | cons x rest ih =>
    obtain ⟨behind, rising⟩ := List.pairwise_cons.1 rising
    rw [inForce]
    rcases List.mem_cons.1 mem with rfl | later
    · have before : t < x.since := covers.2 x.since rfl
      rw [if_neg (by omega)]
    · rw [if_pos (le_of_covers behind rising later covers)]
      exact ih rising later

/-- Every second from the start of a history on is covered. -/
theorem exists_covers {t : Int} (start : Option Int) (current : Offset)
    (transitions : List Transition) (after : ∀ a ∈ start, a ≤ t) :
    ∃ s ∈ spansFrom start current transitions, s.Covers t := by
  induction transitions generalizing start current with
  | nil => exact ⟨_, List.mem_singleton.2 rfl, after, nofun⟩
  | cons x rest ih =>
    by_cases h : x.since ≤ t
    · obtain ⟨s, mem, covers⟩ := ih (some x.since) x.offset fun a ha => by
        obtain rfl := Option.some.inj ha
        exact h
      exact ⟨s, List.mem_cons_of_mem _ mem, covers⟩
    · refine ⟨_, List.mem_cons_self, after, fun b hb => ?_⟩
      obtain rfl := Option.some.inj hb
      omega

/-- What a span covers comes before what the spans behind it cover. -/
theorem pairwise_covers (start : Option Int) (current : Offset) {transitions : List Transition}
    (rising : Rising transitions) :
    (spansFrom start current transitions).Pairwise
      fun s s' => ∀ t t', s.Covers t → s'.Covers t' → t < t' := by
  induction transitions generalizing start current with
  | nil => exact List.pairwise_singleton _ _
  | cons x rest ih =>
    obtain ⟨behind, rising⟩ := List.pairwise_cons.1 rising
    refine List.pairwise_cons.2 ⟨?_, ih (some x.since) x.offset rising⟩
    intro s' mem t t' covers covers'
    have := covers.2 x.since rfl
    have := le_of_covers behind rising mem covers'
    omega

/-- The spans of the zone, the earliest first. -/
def history (z : Zone) : List Span :=
  spansFrom none z.initial z.transitions

/-- Whether a clock in the zone shows a reading, in seconds, at a second of UTC. -/
def ReadsAt (z : Zone) (reading t : Int) : Prop :=
  t + (z.offsetAt t).seconds = reading

variable {z : Zone} {reading t : Int}

/-- A clock shows a reading within a span that shows it. -/
theorem exists_shows_of_readsAt (rising : Rising z.transitions) (h : z.ReadsAt reading t) :
    ∃ s ∈ z.history, s.Covers t ∧ s.shows reading = true ∧ t = reading - s.offset.seconds := by
  obtain ⟨s, mem, covers⟩ := exists_covers (t := t) none z.initial z.transitions nofun
  have offset : z.offsetAt t = s.offset := inForce_of_covers rising mem covers
  have second : t = reading - s.offset.seconds := by
    rw [ReadsAt, offset] at h
    omega
  refine ⟨s, mem, covers, Span.shows_iff_covers.2 ?_, second⟩
  rw [← second]
  exact covers

theorem readsAt_of_shows (rising : Rising z.transitions) {s : Span} (mem : s ∈ z.history)
    (shows : s.shows reading = true) :
    z.offsetAt (reading - s.offset.seconds) = s.offset ∧
      z.ReadsAt reading (reading - s.offset.seconds) := by
  have offset : z.offsetAt (reading - s.offset.seconds) = s.offset :=
    inForce_of_covers rising mem (Span.shows_iff_covers.1 shows)
  refine ⟨offset, ?_⟩
  rw [ReadsAt, offset]
  omega

/-- The first span that shows a reading holds the earliest second at which a clock shows it. -/
theorem earliest_of_find? (rising : Rising z.transitions) {s : Span}
    (found : z.history.find? (·.shows reading) = some s) (h : z.ReadsAt reading t) :
    reading - s.offset.seconds ≤ t := by
  obtain ⟨shows, before, behind, parts, silent⟩ := List.find?_eq_some_iff_append.1 found
  obtain ⟨s', mem, covers, shows', second⟩ := exists_shows_of_readsAt rising h
  rw [parts] at mem
  rcases List.mem_append.1 mem with inFront | rest
  · exact absurd shows' (by simpa using silent s' inFront)
  · rcases List.mem_cons.1 rest with rfl | later
    · exact Int.le_of_eq second.symm
    · have ordered := pairwise_covers none z.initial rising
      rw [← history, parts] at ordered
      have order := (List.pairwise_cons.1 (List.pairwise_append.1 ordered).2.1).1 s' later
      exact Int.le_of_lt (order _ _ (Span.shows_iff_covers.1 shows) covers)

/-- A reading that no span shows is shown at no second. -/
theorem not_readsAt_of_find? (rising : Rising z.transitions)
    (missing : z.history.find? (·.shows reading) = none) (t : Int) : ¬ z.ReadsAt reading t := by
  intro h
  obtain ⟨s, mem, -, shows, -⟩ := exists_shows_of_readsAt rising h
  exact List.find?_eq_none.1 missing s mem shows

end Zone
end QueryResult
