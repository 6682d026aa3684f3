import Mathlib.Data.List.TakeWhile
import QueryResult.Number.Power

/-!
# The value of a run of digits

What the readers and the writers of numbers need to know of runs of decimal digits: the value of
two runs written one after the other, the width of a padded number, and how many digits a value
has. `significant` drops the zeros in front of a run; what is left is as long as the shortest run
for the same value (`digitCount_digitsValue`). A value has one run of each length, so that what is
written for the value of a run is the run again (`padded_digitsValue`, `natText_digitsValue`).
-/

namespace QueryResult.Text
open QueryResult.Number

/-- A text of digits only. -/
def IsDigits (ds : List Char) : Prop :=
  ∀ c ∈ ds, c.isDigit = true

/-- A run of digits without the zeros in front of it. -/
def significant (ds : List Char) : List Char :=
  ds.dropWhile (· == '0')

theorem IsDigits.append {xs ys : List Char} (hx : IsDigits xs) (hy : IsDigits ys) :
    IsDigits (xs ++ ys) := by
  intro c hc
  rcases List.mem_append.1 hc with h | h
  · exact hx c h
  · exact hy c h

theorem IsDigits.left {xs ys : List Char} (h : IsDigits (xs ++ ys)) : IsDigits xs :=
  fun c hc => h c (List.mem_append_left _ hc)

theorem IsDigits.right {xs ys : List Char} (h : IsDigits (xs ++ ys)) : IsDigits ys :=
  fun c hc => h c (List.mem_append_right _ hc)

theorem isDigits_natText (n : Nat) : IsDigits (natText n) :=
  fun _ hc => isDigit_of_mem_natText hc

theorem isDigits_padded (width n : Nat) : IsDigits (padded width n) := by
  refine IsDigits.append ?_ (isDigits_natText n)
  intro c hc
  rw [List.eq_of_mem_replicate hc]
  decide

theorem natText_ne_nil (n : Nat) : natText n ≠ [] :=
  Nat.toDigits_ne_nil

@[simp] theorem digitsValue_nil : digitsValue [] = 0 := rfl

/-- Digits in front count for as many more places as there are digits behind them. -/
theorem digitsValue_append (xs ys : List Char) :
    digitsValue (xs ++ ys) = digitsValue xs * tenTo ys.length + digitsValue ys := by
  rw [digitsValue, Nat.ofDigitChars_append, Nat.ofDigitChars_eq_ofDigitChars_zero, Nat.mul_comm]
  rfl

theorem digitsValue_cons (c : Char) (ds : List Char) :
    digitsValue (c :: ds) = digitsValue [c] * tenTo ds.length + digitsValue ds :=
  digitsValue_append [c] ds

theorem digitsValue_padded (width n : Nat) : digitsValue (padded width n) = n := by
  have zeros : ∀ k, digitsValue (List.replicate k '0') = 0 := by
    intro k
    rw [digitsValue, Nat.ofDigitChars_replicate_zero, Nat.mul_zero]
  rw [padded, digitsValue_append, zeros, digitsValue_natText, Nat.zero_mul, Nat.zero_add]

/-- A number below the power of ten of a width fills exactly that width. -/
theorem length_padded {width n : Nat} (pos : 0 < width) (h : n < tenTo width) :
    (padded width n).length = width := by
  have short := (natText_length_le_iff pos).2 h
  rw [padded, List.length_append, List.length_replicate]
  omega

/-- The value of a single digit, which lies between zero and nine. -/
theorem digitsValue_digit_lt {c : Char} (h : c.isDigit = true) : digitsValue [c] < 10 := by
  have range := Char.isDigit_iff_toNat.1 h
  simp only [digitsValue, Nat.ofDigitChars_cons, Nat.ofDigitChars_nil]
  have : '9'.toNat = 57 := rfl
  have : '0'.toNat = 48 := rfl
  omega

theorem digitsValue_digit_pos {c : Char} (h : c.isDigit = true) (ne : c ≠ '0') :
    0 < digitsValue [c] := by
  have range := Char.isDigit_iff_toNat.1 h
  have : c.toNat ≠ '0'.toNat := fun e => ne (Char.toNat_inj.1 e)
  simp only [digitsValue, Nat.ofDigitChars_cons, Nat.ofDigitChars_nil]
  omega

theorem digitsValue_lt {ds : List Char} (h : IsDigits ds) :
    digitsValue ds < tenTo ds.length := by
  induction ds with
  | nil => decide
  | cons c ds ih =>
    have head := digitsValue_digit_lt (h c List.mem_cons_self)
    have rest := ih fun d hd => h d (List.mem_cons_of_mem _ hd)
    have shift : digitsValue [c] * tenTo ds.length ≤ 9 * tenTo ds.length :=
      Nat.mul_le_mul_right _ (by omega)
    rw [digitsValue_cons, List.length_cons, tenTo_succ]
    omega

/-- The leading digits of a run are worth its value without the places of the others. -/
theorem digitsValue_take {ds : List Char} (h : IsDigits ds) (k : Nat) :
    digitsValue (ds.take k) = digitsValue ds / tenTo (ds.length - k) := by
  have parts : ds.take k ++ ds.drop k = ds := List.take_append_drop k ds
  have value := digitsValue_append (ds.take k) (ds.drop k)
  have low : digitsValue (ds.drop k) < tenTo (ds.drop k).length := by
    apply digitsValue_lt
    rw [← parts] at h
    exact h.right
  rw [parts, List.length_drop] at value
  rw [List.length_drop] at low
  rw [value, Nat.mul_comm, Nat.mul_add_div (tenTo_pos _), Nat.div_eq_of_lt low, Nat.add_zero]

/-! ## Runs in front of other text -/

/-- A run ends where a character comes that is no digit. -/
theorem digits_append_inj {ds es xs ys : List Char} {c : Char} (hd : IsDigits ds)
    (he : IsDigits es) (stop : c.isDigit = false) (h : ds ++ c :: xs = es ++ c :: ys) :
    ds = es ∧ xs = ys := by
  have front : ∀ run rest : List Char, IsDigits run →
      (run ++ c :: rest).takeWhile Char.isDigit = run := by
    intro run rest digits
    rw [List.takeWhile_append_of_pos digits, List.takeWhile_cons_of_neg (by simp [stop]),
      List.append_nil]
  have same : ds = es := by
    rw [← front ds xs hd, h, front es ys he]
  subst same
  exact ⟨rfl, (List.cons.inj (List.append_cancel_left h)).2⟩

/-- A run of a fixed width tells its number and what follows. -/
theorem padded_append_inj {width m n : Nat} {xs ys : List Char} (pos : 0 < width)
    (hm : m < tenTo width) (hn : n < tenTo width)
    (h : padded width m ++ xs = padded width n ++ ys) : m = n ∧ xs = ys := by
  have long : (padded width m).length = (padded width n).length := by
    rw [length_padded pos hm, length_padded pos hn]
  obtain ⟨runs, rest⟩ := List.append_inj h long
  refine ⟨?_, rest⟩
  rw [← digitsValue_padded width m, runs, digitsValue_padded]

/-- Zeros in front of a run do not count. -/
theorem digitsValue_significant (ds : List Char) :
    digitsValue (significant ds) = digitsValue ds := by
  induction ds with
  | nil => rfl
  | cons c ds ih =>
    unfold significant at ih ⊢
    by_cases zero : c = '0'
    · subst zero
      have none : digitsValue ['0'] = 0 := rfl
      rw [List.dropWhile_cons_of_pos (by decide), ih, digitsValue_cons, none, Nat.zero_mul,
        Nat.zero_add]
    · rw [List.dropWhile_cons_of_neg (by simpa using zero)]

theorem isDigits_significant {ds : List Char} (h : IsDigits ds) : IsDigits (significant ds) :=
  fun c hc => h c ((List.dropWhile_sublist _).subset hc)

/-- A run that does not begin with a zero is worth at least a one in its first place. -/
theorem tenTo_le_digitsValue {c : Char} {ds : List Char} (h : c.isDigit = true) (ne : c ≠ '0') :
    tenTo ds.length ≤ digitsValue (c :: ds) := by
  have head := digitsValue_digit_pos h ne
  have : 1 * tenTo ds.length ≤ digitsValue [c] * tenTo ds.length := Nat.mul_le_mul_right _ head
  rw [digitsValue_cons]
  omega

/-- What is left of a run without its zeros in front begins with another digit. -/
theorem head_significant {ds r : List Char} {c : Char} (h : significant ds = c :: r) : c ≠ '0' := by
  have ne : significant ds ≠ [] := by rw [h]; exact List.cons_ne_nil c r
  have head := List.head_dropWhile_not (· == '0') ne
  simp only [significant] at h
  simpa [h] using head

theorem digitsValue_eq_zero_iff {ds : List Char} (h : IsDigits ds) :
    digitsValue ds = 0 ↔ significant ds = [] := by
  rw [← digitsValue_significant]
  constructor
  · intro zero
    cases hs : significant ds with
    | nil => rfl
    | cons c r =>
      have digit := isDigits_significant h c (by rw [hs]; exact List.mem_cons_self)
      have low : tenTo r.length ≤ digitsValue (c :: r) :=
        tenTo_le_digitsValue digit (head_significant hs)
      have := tenTo_pos r.length
      rw [hs] at zero
      omega
  · intro none
    rw [none, digitsValue_nil]

theorem digitCount_pos (n : Nat) : 0 < digitCount n :=
  Nat.length_toDigits_pos

theorem digitCount_le_iff {n k : Nat} (pos : 0 < k) : digitCount n ≤ k ↔ n < tenTo k :=
  natText_length_le_iff pos

theorem lt_tenTo_digitCount (n : Nat) : n < tenTo (digitCount n) :=
  (digitCount_le_iff (digitCount_pos n)).1 (Nat.le_refl _)

/-- A number that is not zero reaches the power of ten of its leading digit. -/
theorem tenTo_le_of_digitCount {n k : Nat} (pos : 0 < n) (h : k < digitCount n) :
    tenTo k ≤ n := by
  rcases Nat.eq_zero_or_pos k with rfl | hk
  · exact pos
  · by_contra small
    have := (digitCount_le_iff hk).2 (Nat.not_le.1 small)
    omega

/-- A value has as many digits as its run has without the zeros in front. -/
theorem digitCount_digitsValue {ds : List Char} (h : IsDigits ds) (ne : significant ds ≠ []) :
    digitCount (digitsValue ds) = (significant ds).length := by
  cases hs : significant ds with
  | nil => exact absurd hs ne
  | cons c r =>
    have digits := isDigits_significant h
    rw [hs] at digits
    have low : tenTo r.length ≤ digitsValue (c :: r) :=
      tenTo_le_digitsValue (digits c List.mem_cons_self) (head_significant hs)
    have high := digitsValue_lt digits
    rw [← digitsValue_significant, hs]
    have upper := (digitCount_le_iff (n := digitsValue (c :: r)) (Nat.succ_pos r.length)).2 high
    have lower : r.length < digitCount (digitsValue (c :: r)) := by
      by_contra short
      rcases Nat.eq_zero_or_pos r.length with zero | pos
      · have := digitCount_pos (digitsValue (c :: r))
        omega
      · have := (digitCount_le_iff pos).1 (Nat.not_lt.1 short)
        omega
    rw [List.length_cons]
    omega

/-! ## The run of a value -/

theorem digitsValue_digit_inj {c d : Char} (hc : c.isDigit = true) (hd : d.isDigit = true)
    (h : digitsValue [c] = digitsValue [d]) : c = d := by
  have range := Char.isDigit_iff_toNat.1 hc
  have range' := Char.isDigit_iff_toNat.1 hd
  simp only [digitsValue, Nat.ofDigitChars_cons, Nat.ofDigitChars_nil] at h
  have : '0'.toNat = 48 := rfl
  exact Char.toNat_inj.1 (by omega)

/-- A value has one run of each length. -/
theorem eq_of_digitsValue {xs ys : List Char} (hx : IsDigits xs) (hy : IsDigits ys)
    (length : xs.length = ys.length) (value : digitsValue xs = digitsValue ys) : xs = ys := by
  induction xs generalizing ys with
  | nil => exact (List.length_eq_zero_iff.1 length.symm).symm
  | cons c xs ih =>
    cases ys with
    | nil => nomatch length
    | cons d ys =>
      have tails : xs.length = ys.length := Nat.succ.inj length
      have hx' : IsDigits xs := fun e he => hx e (List.mem_cons_of_mem c he)
      have hy' : IsDigits ys := fun e he => hy e (List.mem_cons_of_mem d he)
      have low : digitsValue xs < tenTo ys.length := tails ▸ digitsValue_lt hx'
      have low' : digitsValue ys < tenTo ys.length := digitsValue_lt hy'
      rw [digitsValue_cons, digitsValue_cons d, tails] at value
      have rest : digitsValue xs = digitsValue ys := by
        have low_parts := congrArg (· % tenTo ys.length) value
        simpa only [Nat.mul_add_mod_self_right, Nat.mod_eq_of_lt low, Nat.mod_eq_of_lt low']
          using low_parts
      have head : digitsValue [c] = digitsValue [d] := by
        rw [rest] at value
        exact Nat.eq_of_mul_eq_mul_right (tenTo_pos _) (Nat.add_right_cancel value)
      rw [digitsValue_digit_inj (hx c List.mem_cons_self) (hy d List.mem_cons_self) head,
        ih hx' hy' tails rest]

/-- A run is what its value is filled up to at its width. -/
theorem padded_digitsValue {ds : List Char} (h : IsDigits ds) (ne : ds ≠ []) :
    padded ds.length (digitsValue ds) = ds := by
  have pos : 0 < ds.length := List.length_pos_iff.2 ne
  exact eq_of_digitsValue (isDigits_padded _ _) h (length_padded pos (digitsValue_lt h))
    (digitsValue_padded _ _)

/-- A run without a zero in front of other digits. -/
def NoLeadingZero (ds : List Char) : Prop :=
  ∀ r, ds = '0' :: r → r = []

/-- The shortest run for a number has no zero in front of other digits. -/
theorem noLeadingZero_natText (n : Nat) : NoLeadingZero (natText n) := by
  intro r front
  by_contra some
  have run : IsDigits ('0' :: r) := front ▸ isDigits_natText n
  have digits : IsDigits r := fun c hc => run c (List.mem_cons_of_mem _ hc)
  have value : n = digitsValue r := by
    have zero : digitsValue ['0'] = 0 := rfl
    rw [← digitsValue_natText n, front, digitsValue_cons, zero, Nat.zero_mul, Nat.zero_add]
  have short : digitCount n ≤ r.length :=
    (digitCount_le_iff (List.length_pos_iff.2 some)).2 (value ▸ digitsValue_lt digits)
  have long : digitCount n = r.length + 1 := congrArg List.length front
  omega

/-- And it is the only one for the number. -/
theorem natText_digitsValue {ds : List Char} (h : IsDigits ds) (ne : ds ≠ [])
    (leading : NoLeadingZero ds) : natText (digitsValue ds) = ds := by
  refine eq_of_digitsValue (isDigits_natText _) h ?_ (digitsValue_natText _)
  cases ds with
  | nil => exact absurd rfl ne
  | cons c r =>
    by_cases zero : c = '0'
    · subst zero
      rw [leading r rfl]
      rfl
    · have kept : significant (c :: r) = c :: r :=
        List.dropWhile_cons_of_neg (by simpa using zero)
      have count := digitCount_digitsValue h (by rw [kept]; exact List.cons_ne_nil c r)
      rw [kept] at count
      exact count

end QueryResult.Text
