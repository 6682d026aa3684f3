import Mathlib.Data.List.Forall2
import QueryResult.Text.Ascii
import QueryResult.Text.Blank

/-!
# Spellings of a word

Names and settings are compared without regard to the case of ASCII letters and to the white space
around them. Two texts that differ in nothing but case are the same letter by letter
(`sameIgnoringCase_iff_forall₂`), and what trimming leaves of a text is the one word that it holds
with nothing but white space around it (`trim_eq_iff`).
-/

namespace QueryResult.Text

/-! ## Letter case -/

/-- That a character is a capital of ASCII and another one the same letter in small. -/
def IsCapitalOf (c d : Char) : Prop :=
  65 ≤ c.toNat ∧ c.toNat ≤ 90 ∧ d.toNat = c.toNat + 32

/-- That two characters are the same but for the case of an ASCII letter. -/
def SameLetter (c d : Char) : Prop :=
  c = d ∨ IsCapitalOf c d ∨ IsCapitalOf d c

/-- Making a letter small takes a capital to its small form and leaves all else alone. -/
theorem toLower_cases (c : Char) :
    (c.toNat < 65 ∨ 90 < c.toNat) ∧ c.toLower = c ∨ IsCapitalOf c c.toLower := by
  by_cases capital : c.val ≥ 'A'.val ∧ c.val ≤ 'Z'.val
  · right
    have low : 65 ≤ c.toNat := capital.1
    have high : c.toNat ≤ 90 := capital.2
    refine ⟨low, high, ?_⟩
    have value : c.toLower.toNat = (c.val + ('a'.val - 'A'.val)).toNat := by
      delta Char.toLower
      rw [dif_pos capital]
      rfl
    have shift : ('a'.val - 'A'.val).toNat = 32 := by decide
    rw [value, UInt32.toNat_add, shift]
    show (c.toNat + 32) % 4294967296 = c.toNat + 32
    omega
  · left
    refine ⟨?_, dif_neg capital⟩
    by_contra inside
    have low : 65 ≤ c.toNat := by omega
    have high : c.toNat ≤ 90 := by omega
    exact capital ⟨low, high⟩

theorem toLower_eq_toLower_iff {c d : Char} : c.toLower = d.toLower ↔ SameLetter c d := by
  have eq_iff {a b : Char} : a = b ↔ a.toNat = b.toNat := Char.toNat_inj.symm
  unfold SameLetter IsCapitalOf
  rw [eq_iff, eq_iff]
  rcases toLower_cases c with ⟨outC, sameC⟩ | ⟨lowC, highC, smallC⟩ <;>
    rcases toLower_cases d with ⟨outD, sameD⟩ | ⟨lowD, highD, smallD⟩
  · rw [sameC, sameD]
    omega
  · rw [sameC, smallD]
    omega
  · rw [smallC, sameD]
    omega
  · rw [smallC, smallD]
    omega

/-- Texts that are compared without regard to case are the same letter by letter. -/
theorem sameIgnoringCase_iff_forall₂ {a b : String} :
    sameIgnoringCase a b = true ↔ List.Forall₂ SameLetter a.toList b.toList := by
  rw [sameIgnoringCase_iff, lowerAscii, lowerAscii, ← List.forall₂_eq_eq_eq,
    List.forall₂_map_left_iff, List.forall₂_map_right_iff]
  simp only [toLower_eq_toLower_iff]

/-- A text without capitals is in small letters as it is. -/
theorem lowerAscii_eq_self {cs : List Char} (small : ∀ c ∈ cs, c.toNat < 65 ∨ 90 < c.toNat) :
    lowerAscii cs = cs := by
  have each : ∀ c ∈ cs, c.toLower = c := by
    intro c hc
    rcases toLower_cases c with ⟨-, same⟩ | ⟨low, high, -⟩
    · exact same
    · have := small c hc
      omega
  exact (List.map_congr_left each).trans (List.map_id' cs)

/-! ## White space -/

/-- That a text is white space throughout. -/
def AllBlank (cs : List Char) : Prop :=
  ∀ c ∈ cs, isBlank c = true

/-- That a text neither begins nor ends with white space. -/
structure Bare (cs : List Char) : Prop where
  head : ∀ c ∈ cs.head?, isBlank c = false
  last : ∀ c ∈ cs.getLast?, isBlank c = false

/-- That a text is a word with white space around it. -/
inductive Padded (word : List Char) : List Char → Prop where
  | mk {left right : List Char} (before : AllBlank left) (after : AllBlank right) :
      Padded word (left ++ word ++ right)

theorem dropWhile_append_of_allBlank {left : List Char} (blank : AllBlank left) (cs : List Char) :
    (left ++ cs).dropWhile isBlank = cs.dropWhile isBlank :=
  List.dropWhile_append_of_pos blank

theorem dropWhile_of_head {cs : List Char} (head : ∀ c ∈ cs.head?, isBlank c = false) :
    cs.dropWhile isBlank = cs := by
  cases cs with
  | nil => rfl
  | cons c rest => exact List.dropWhile_cons_of_neg (by simp [head c rfl])

theorem Padded.trim_eq {word cs : List Char} (padded : Padded word cs) (bare : Bare word) :
    trim cs = word := by
  obtain ⟨before, after⟩ := padded
  rename_i left right
  by_cases empty : word = []
  · subst empty
    rw [trim_eq_nil_iff]
    intro c hc
    rcases List.mem_append.1 hc with hc | hc
    · exact before c (by simpa using hc)
    · exact after c hc
  · have front : (left ++ word ++ right).dropWhile isBlank = word ++ right := by
      rw [List.append_assoc, dropWhile_append_of_allBlank before]
      exact dropWhile_of_head (by rw [List.head?_append_of_ne_nil _ empty]; exact bare.head)
    have after' : AllBlank right.reverse := fun c hc => after c (List.mem_reverse.1 hc)
    have back : word.reverse.dropWhile isBlank = word.reverse :=
      dropWhile_of_head (by rw [List.head?_reverse]; exact bare.last)
    rw [trim, front, List.reverse_append, dropWhile_append_of_allBlank after', back,
      List.reverse_reverse]

/-- What is dropped at the front is white space, and what is left begins with something else. -/
theorem exists_blank_dropWhile (cs : List Char) :
    (∃ left, AllBlank left ∧ cs = left ++ cs.dropWhile isBlank) ∧
      ∀ c ∈ (cs.dropWhile isBlank).head?, isBlank c = false := by
  constructor
  · exact ⟨cs.takeWhile isBlank, List.all_eq_true.1 List.all_takeWhile,
      List.takeWhile_append_dropWhile.symm⟩
  · intro c hc
    have other := List.head?_dropWhile_not isBlank cs
    rw [Option.mem_def.1 hc] at other
    simpa using other

/-- Trimming takes off the white space at both ends, and all of it. -/
theorem padded_trim (cs : List Char) : Padded (trim cs) cs ∧ Bare (trim cs) := by
  obtain ⟨⟨left, before, front⟩, head⟩ := exists_blank_dropWhile cs
  obtain ⟨⟨right, after, back⟩, last⟩ := exists_blank_dropWhile (cs.dropWhile isBlank).reverse
  have split : cs.dropWhile isBlank = trim cs ++ right.reverse := by
    rw [← List.reverse_inj, List.reverse_append, List.reverse_reverse, trim, List.reverse_reverse]
    exact back
  refine ⟨?_, ?_, ?_⟩
  · have whole : cs = left ++ trim cs ++ right.reverse := by
      rw [List.append_assoc, ← split]
      exact front
    have after' : AllBlank right.reverse := fun c hc => after c (List.mem_reverse.1 hc)
    have padded : Padded (trim cs) (left ++ trim cs ++ right.reverse) := .mk before after'
    rwa [← whole] at padded
  · by_cases empty : trim cs = []
    · simp [empty]
    · rw [split, List.head?_append_of_ne_nil _ empty] at head
      exact head
  · rw [trim, List.getLast?_reverse]
    exact last

/-- That a character of ASCII is seen in print. -/
def IsGraphic (c : Char) : Prop :=
  33 ≤ c.toNat ∧ c.toNat ≤ 126

instance : DecidablePred IsGraphic :=
  fun c => inferInstanceAs (Decidable (33 ≤ c.toNat ∧ c.toNat ≤ 126))

theorem IsGraphic.not_blank {c : Char} (graphic : IsGraphic c) : isBlank c = false := by
  obtain ⟨low, high⟩ := graphic
  have apart : ∀ r ∈ blankRanges, r.2 < 33 ∨ 126 < r.1 := by decide
  rw [isBlank, List.any_eq_false]
  intro r hr
  have := apart r hr
  rw [Bool.and_eq_true, decide_eq_true_eq, decide_eq_true_eq]
  omega

theorem IsGraphic.of_toLower {c : Char} (graphic : IsGraphic c.toLower) : IsGraphic c := by
  rcases toLower_cases c with ⟨-, same⟩ | ⟨low, high, -⟩
  · rwa [same] at graphic
  · exact ⟨by omega, by omega⟩

theorem bare_of_graphic {cs : List Char} (graphic : ∀ c ∈ cs, IsGraphic c) : Bare cs where
  head c hc := (graphic c (List.mem_of_mem_head? hc)).not_blank
  last c hc := (graphic c (List.mem_of_getLast? hc)).not_blank

/-- What trimming leaves is the word that a text holds. -/
theorem trim_eq_iff {cs word : List Char} : trim cs = word ↔ Padded word cs ∧ Bare word := by
  constructor
  · rintro rfl
    exact padded_trim cs
  · rintro ⟨padded, bare⟩
    exact padded.trim_eq bare

end QueryResult.Text
