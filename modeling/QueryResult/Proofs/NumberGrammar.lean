import QueryResult.Number.Integer
import QueryResult.Number.Numeral
import QueryResult.Proofs.Digits

/-!
# The grammar of number tokens

Integers and decimal numerals as relations between a text and what it denotes. The relations say
how a text is put together from signs, digits, a point and an exponent; they do not mention how it
is scanned. The main statements are that the two readers accept exactly the texts of the grammar,
each with the one meaning that the grammar gives it: `integer?_eq_some_iff` and
`Numeral.scan?_eq_some_iff`.
-/

namespace QueryResult.Number
open QueryResult.Text

/-- The text of a sign. -/
inductive SignText : Bool → List Char → Prop where
  | absent : SignText false []
  | plus : SignText false ['+']
  | minus : SignText true ['-']

/-- An integer is a sign and at least one digit. -/
inductive IntegerText : Int → List Char → Prop where
  | mk {negative : Bool} {s ds : List Char} (sign : SignText negative s) (digits : IsDigits ds)
      (some : ds ≠ []) : IntegerText (withSign negative (digitsValue ds)) (s ++ ds)

/-- Digits with at most one point among them, by the digits before the point and those after it. -/
inductive MantissaText : List Char → List Char → List Char → Prop where
  | plain {whole : List Char} (digits : IsDigits whole) (some : whole ≠ []) :
      MantissaText whole [] whole
  | pointed {whole fraction : List Char} (digits : IsDigits (whole ++ fraction))
      (some : whole ++ fraction ≠ []) : MantissaText whole fraction (whole ++ '.' :: fraction)

/-- An exponent is a letter and an integer; where there is none, it counts as zero. -/
inductive ExponentText : Int → List Char → Prop where
  | absent : ExponentText 0 []
  | present {letter : Char} {e : Int} {cs : List Char} (isLetter : letter = 'e' ∨ letter = 'E')
      (integer : IntegerText e cs) : ExponentText e (letter :: cs)

/-- A numeral is a sign, digits and an exponent, with nothing around them. -/
inductive Numeral.Spells : Numeral → List Char → Prop where
  | mk {n : Numeral} {s m x : List Char} (sign : SignText n.negative s)
      (mantissa : MantissaText n.whole n.fraction m) (exponent : ExponentText n.exponent x) :
      Numeral.Spells n (s ++ (m ++ x))

/-- A text that does not begin with a sign. -/
def NoSign (cs : List Char) : Prop :=
  ∀ c ∈ cs.head?, c ≠ '+' ∧ c ≠ '-'

/-- A text that does not begin with a digit. -/
def NoDigit (cs : List Char) : Prop :=
  ∀ c ∈ cs.head?, c.isDigit = false

/-! ## Signs -/

theorem signText_of_splitSign {cs r : List Char} {negative : Bool}
    (h : splitSign cs = (negative, r)) : ∃ s, SignText negative s ∧ cs = s ++ r := by
  unfold splitSign at h
  split at h <;> cases h
  · exact ⟨['-'], .minus, rfl⟩
  · exact ⟨['+'], .plus, rfl⟩
  · exact ⟨[], .absent, rfl⟩

theorem splitSign_append {negative : Bool} {s r : List Char} (h : SignText negative s)
    (noSign : NoSign r) : splitSign (s ++ r) = (negative, r) := by
  cases h with
  | absent =>
    cases r with
    | nil => rfl
    | cons c r =>
      obtain ⟨plus, minus⟩ := noSign c rfl
      simp [splitSign, plus, minus]
  | plus => rfl
  | minus => rfl

theorem noSign_of_isDigits {ds r : List Char} (h : IsDigits ds) (ne : ds ≠ []) :
    NoSign (ds ++ r) := by
  cases ds with
  | nil => exact absurd rfl ne
  | cons c ds =>
    intro x hx
    obtain rfl : c = x := by simpa using hx
    have digit := h c List.mem_cons_self
    constructor
    · rintro rfl
      exact absurd digit (by decide)
    · rintro rfl
      exact absurd digit (by decide)

/-- The sign that an integer is written with. -/
theorem signText_of_int (n : Int) :
    SignText (decide (n < 0)) (if n < 0 then ['-'] else []) := by
  by_cases h : n < 0
  · rw [if_pos h, decide_eq_true h]
    exact .minus
  · rw [if_neg h, decide_eq_false h]
    exact .absent

theorem withSign_natAbs (n : Int) : withSign (decide (n < 0)) n.natAbs = n := by
  unfold withSign
  by_cases h : n < 0
  · rw [if_pos (decide_eq_true h)]
    omega
  · rw [if_neg (by simpa using h)]
    omega

theorem natAbs_withSign (negative : Bool) (n : Nat) : (withSign negative n).natAbs = n := by
  unfold withSign
  cases negative <;> simp

/-! ## Integers -/

theorem natural?_eq_some_iff {ds : List Char} {n : Nat} :
    natural? ds = some n ↔ IsDigits ds ∧ ds ≠ [] ∧ n = digitsValue ds := by
  unfold natural? IsDigits
  split <;> rename_i h
  · simp only [Bool.or_eq_true, List.isEmpty_iff, Bool.not_eq_true', List.all_eq_false] at h
    simp only [reduceCtorEq, false_iff, not_and]
    intro digits ne
    rcases h with empty | ⟨c, hc, no⟩
    · exact absurd empty ne
    · exact absurd (digits c hc) no
  · simp only [Bool.or_eq_true, List.isEmpty_iff, Bool.not_eq_true', not_or, Bool.not_eq_false,
      List.all_eq_true] at h
    simp only [Option.some.injEq]
    exact ⟨fun e => ⟨h.2, h.1, e.symm⟩, fun e => e.2.2.symm⟩

/-- The integers that are read are those of the grammar. -/
theorem integer?_eq_some_iff {cs : List Char} {n : Int} :
    integer? cs = some n ↔ IntegerText n cs := by
  constructor
  · intro h
    cases parts : splitSign cs with
    | mk negative ds =>
      obtain ⟨s, sign, rfl⟩ := signText_of_splitSign parts
      simp only [integer?, parts, Option.map_eq_some_iff] at h
      obtain ⟨v, read, rfl⟩ := h
      obtain ⟨digits, ne, rfl⟩ := natural?_eq_some_iff.1 read
      exact .mk sign digits ne
  · rintro ⟨sign, digits, ne⟩
    have noSign := noSign_of_isDigits (r := []) digits ne
    rw [List.append_nil] at noSign
    rw [integer?, splitSign_append sign noSign]
    simp only [natural?_eq_some_iff.2 ⟨digits, ne, rfl⟩, Option.map_some]

theorem integerText_intText (n : Int) : IntegerText n (intText n) := by
  have text := IntegerText.mk (signText_of_int n) (isDigits_natText n.natAbs) (natText_ne_nil _)
  rw [digitsValue_natText, withSign_natAbs] at text
  have shape : intText n = (if n < 0 then ['-'] else []) ++ natText n.natAbs := by
    unfold intText
    split <;> rfl
  rw [shape]
  exact text

/-! ## Exponents -/

theorem exponent?_eq_some_iff {cs : List Char} {e : Int} :
    Numeral.exponent? cs = some e ↔ ExponentText e cs := by
  cases cs with
  | nil =>
    rw [Numeral.exponent?, Option.some.injEq]
    constructor
    · rintro rfl
      exact .absent
    · intro h
      cases h
      rfl
  | cons c r =>
    have shape : Numeral.exponent? (c :: r) = if c = 'e' ∨ c = 'E' then integer? r else none := rfl
    rw [shape]
    constructor
    · intro h
      split at h <;> rename_i letter
      · exact .present letter (integer?_eq_some_iff.1 h)
      · exact absurd h (by simp)
    · intro h
      cases h with
      | present letter integer =>
        rw [if_pos letter]
        exact integer?_eq_some_iff.2 integer

/-- What stands in an exponent's place begins with its letter, if with anything. -/
theorem ExponentText.head {e : Int} {x : List Char} (h : ExponentText e x) :
    ∀ c ∈ x.head?, c = 'e' ∨ c = 'E' := by
  cases h with
  | absent => simp
  | present letter integer =>
    intro c hc
    obtain rfl := Option.some.inj hc
    exact letter

theorem ExponentText.noDigit {e : Int} {x : List Char} (h : ExponentText e x) : NoDigit x := by
  intro c hc
  rcases h.head c hc with rfl | rfl <;> decide

theorem IsDigits.not_mem_space {ds : List Char} (h : IsDigits ds) : ' ' ∉ ds :=
  fun hc => absurd (h ' ' hc) (by decide)

theorem SignText.not_mem_space {negative : Bool} {s : List Char} (h : SignText negative s) :
    ' ' ∉ s := by
  cases h <;> decide

theorem IntegerText.not_mem_space {i : Int} {cs : List Char} (h : IntegerText i cs) : ' ' ∉ cs := by
  obtain ⟨sign, digits, -⟩ := h
  rw [List.mem_append, not_or]
  exact ⟨sign.not_mem_space, IsDigits.not_mem_space digits⟩

theorem ExponentText.not_mem_space {e : Int} {x : List Char} (h : ExponentText e x) : ' ' ∉ x := by
  cases h with
  | absent => exact List.not_mem_nil
  | present letter integer =>
    rw [List.mem_cons, not_or]
    refine ⟨?_, integer.not_mem_space⟩
    rintro rfl
    exact absurd letter (by decide)

theorem MantissaText.not_mem_space {whole fraction m : List Char}
    (h : MantissaText whole fraction m) : ' ' ∉ m := by
  cases h with
  | plain digits some => exact IsDigits.not_mem_space digits
  | pointed digits some =>
    simp only [List.mem_append, List.mem_cons, not_or]
    exact ⟨IsDigits.not_mem_space digits.left, by decide, IsDigits.not_mem_space digits.right⟩

/-! ## Numerals -/

theorem takeWhile_digits {ds r : List Char} (h : IsDigits ds) (stop : NoDigit r) :
    (ds ++ r).takeWhile Char.isDigit = ds := by
  rw [List.takeWhile_append_of_pos h]
  cases r with
  | nil => simp
  | cons c r => simp [stop c rfl]

theorem dropWhile_digits {ds r : List Char} (h : IsDigits ds) (stop : NoDigit r) :
    (ds ++ r).dropWhile Char.isDigit = r := by
  rw [List.dropWhile_append_of_pos h]
  cases r with
  | nil => rfl
  | cons c r => simp [stop c rfl]

theorem isDigits_takeWhile (cs : List Char) : IsDigits (cs.takeWhile Char.isDigit) :=
  fun _ hc => List.mem_takeWhile_imp hc

namespace Numeral

theorem splitFraction_of_exponent {e : Int} {x : List Char} (h : ExponentText e x) :
    splitFraction x = ([], x) := by
  cases h with
  | absent => rfl
  | present letter integer => rcases letter with rfl | rfl <;> rfl

theorem scanUnsigned?_mantissa {n : Numeral} {m x : List Char}
    (mantissa : MantissaText n.whole n.fraction m) (exponent : ExponentText n.exponent x) :
    scanUnsigned? n.negative (m ++ x) = some n := by
  obtain ⟨negative, whole, fraction, e⟩ := n
  simp only at mantissa exponent ⊢
  have read := exponent?_eq_some_iff.2 exponent
  cases mantissa with
  | plain digits some =>
    simp only [scanUnsigned?, takeWhile_digits digits exponent.noDigit,
      dropWhile_digits digits exponent.noDigit, splitFraction_of_exponent exponent, read]
    simp [some]
  | pointed digits some =>
    have stop : NoDigit ('.' :: (fraction ++ x)) := by
      intro c hc
      obtain rfl := Option.some.inj hc
      decide
    simp only [List.append_assoc, List.cons_append]
    simp only [scanUnsigned?, takeWhile_digits digits.left stop, dropWhile_digits digits.left stop,
      splitFraction, takeWhile_digits digits.right exponent.noDigit,
      dropWhile_digits digits.right exponent.noDigit, read]
    have ne : ¬ (whole.isEmpty && fraction.isEmpty) = true := by
      intro empty
      simp only [Bool.and_eq_true, List.isEmpty_iff] at empty
      exact some (by rw [empty.1, empty.2]; rfl)
    rw [if_neg ne]
    rfl

/-- A body that is read is digits with at most one point, and an exponent. -/
theorem mantissa_of_scanUnsigned? {negative : Bool} {body : List Char} {n : Numeral}
    (h : scanUnsigned? negative body = some n) :
    ∃ m x, body = m ++ x ∧ n.negative = negative ∧ MantissaText n.whole n.fraction m ∧
      ExponentText n.exponent x := by
  have body_eq := List.takeWhile_append_dropWhile (p := Char.isDigit) (l := body)
  have digits := isDigits_takeWhile body
  -- Only what the two pieces make together matters from here on, not how they were cut.
  revert body_eq digits
  unfold scanUnsigned? at h
  generalize body.takeWhile Char.isDigit = whole at h ⊢
  generalize body.dropWhile Char.isDigit = rest at h ⊢
  intro body_eq digits
  simp only at h
  split at h
  · exact absurd h (by simp)
  · rename_i ne
    simp only [Bool.and_eq_true, List.isEmpty_iff, not_and] at ne
    obtain ⟨e, read, rfl⟩ := Option.map_eq_some_iff.1 h
    have exponent := exponent?_eq_some_iff.1 read
    revert ne exponent
    unfold splitFraction
    split
    · rename_i r
      intro ne exponent
      have fraction_eq := List.takeWhile_append_dropWhile (p := Char.isDigit) (l := r)
      refine ⟨_, _, ?_, rfl, .pointed (digits.append (isDigits_takeWhile r)) ?_, exponent⟩
      · rw [← body_eq, List.append_assoc, List.cons_append, fraction_eq]
      · intro empty
        obtain ⟨left, right⟩ := List.append_eq_nil_iff.1 empty
        exact ne left right
    · intro ne exponent
      refine ⟨_, _, body_eq.symm, rfl, .plain digits ?_, exponent⟩
      intro empty
      exact ne empty rfl

theorem noSign_mantissa {whole fraction m x : List Char} (h : MantissaText whole fraction m) :
    NoSign (m ++ x) := by
  cases h with
  | plain digits some => exact noSign_of_isDigits digits some
  | pointed digits some =>
    cases whole with
    | nil =>
      intro c hc
      obtain rfl := Option.some.inj hc
      decide
    | cons c whole =>
      rw [List.append_assoc]
      exact noSign_of_isDigits digits.left (List.cons_ne_nil c whole)

/-- The numerals that are read are those of the grammar, and each text spells at most one. -/
theorem scan?_eq_some_iff {cs : List Char} {n : Numeral} :
    scan? cs = some n ↔ n.Spells cs := by
  constructor
  · intro h
    cases parts : splitSign cs with
    | mk negative body =>
      obtain ⟨s, sign, rfl⟩ := signText_of_splitSign parts
      rw [scan?, parts] at h
      obtain ⟨m, x, rfl, rfl, mantissa, exponent⟩ := mantissa_of_scanUnsigned? h
      exact .mk sign mantissa exponent
  · rintro ⟨sign, mantissa, exponent⟩
    rw [scan?, splitSign_append sign (noSign_mantissa mantissa)]
    exact scanUnsigned?_mantissa mantissa exponent

theorem Spells.unique {cs : List Char} {n k : Numeral} (hn : n.Spells cs) (hk : k.Spells cs) :
    n = k :=
  Option.some.inj ((scan?_eq_some_iff.2 hn).symm.trans (scan?_eq_some_iff.2 hk))

theorem Spells.isDigits {cs : List Char} {n : Numeral} (h : n.Spells cs) :
    IsDigits (n.whole ++ n.fraction) := by
  obtain ⟨-, mantissa, -⟩ := h
  revert mantissa
  generalize n.whole = whole
  generalize n.fraction = fraction
  intro mantissa
  cases mantissa with
  | plain digits some => rwa [List.append_nil]
  | pointed digits some => exact digits

/-- A numeral has no space in it. -/
theorem Spells.not_mem_space {cs : List Char} {n : Numeral} (h : n.Spells cs) : ' ' ∉ cs := by
  obtain ⟨sign, mantissa, exponent⟩ := h
  simp only [List.mem_append, not_or]
  exact ⟨sign.not_mem_space, mantissa.not_mem_space, exponent.not_mem_space⟩

end Numeral
end QueryResult.Number
