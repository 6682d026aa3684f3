import QueryResult.Proofs.NumberGrammar
import QueryResult.Proofs.SessionContext

/-!
# What objects of parameters convey

What a value says of a parameter (`Says`) is a word, a truth value or a version, or nothing if it is
`null` or blank; truth values and versions may be sent as strings. An object conveys what its
members say (`Conveys`): no known name stands in it twice, every known member says something, and
the parameters that are left out stay as before. In what order the members stand plays no part in
that. The main statement is that members are read if and only if they convey something, and as what
they convey: `exists_addMembers_iff`.
-/

namespace QueryResult
open QueryResult.Text

namespace Json

/-! ## Objects -/

theorem strictInt?_eq_some_iff {v : Json} {n : Int} : v.strictInt? = some n ↔ v = ofInt n := by
  constructor
  · intro read
    cases v with
    | integer negative magnitude =>
      cases negative with
      | false =>
        obtain rfl : (magnitude : Int) = n := by simpa [strictInt?, int?] using read
        have positive : ¬ (magnitude : Int) < 0 := by omega
        simp [ofInt, positive]
      | true =>
        cases magnitude with
        | zero => simp [strictInt?] at read
        | succ m =>
          obtain rfl : -((m + 1 : Nat) : Int) = n := by simpa [strictInt?, int?] using read
          have negative : -((m + 1 : Nat) : Int) < 0 := by omega
          rw [ofInt, decide_eq_true negative, Int.natAbs_neg, Int.natAbs_natCast]
    | _ => simp [strictInt?, int?] at read
  · rintro rfl
    exact strictInt?_ofInt n

theorem unsigned?_ne_object {negative : Bool} {cs rest : List Char} {ms : List (String × Json)} :
    unsigned? negative cs ≠ some (.object ms, rest) := by
  intro read
  unfold unsigned? at read
  generalize (if negative then ['-'] else []) = sign at read
  dsimp only at read
  split at read
  · nomatch read
  · obtain ⟨fraction, -, read⟩ := Option.bind_eq_some_iff.1 read
    obtain ⟨exponent, -, read⟩ := Option.bind_eq_some_iff.1 read
    split at read <;> nomatch read

/-- An object begins with a brace. -/
theorem value?_ne_object {depth : Nat} {cs rest : List Char} {ms : List (String × Json)}
    (noBrace : ∀ r, cs ≠ '\x7b' :: r) : value? depth cs ≠ some (.object ms, rest) := by
  intro read
  cases depth with
  | zero => nomatch read
  | succ depth =>
    unfold value? at read
    split at read
    · obtain ⟨⟨codes, after⟩, -, made⟩ := Option.map_eq_some_iff.1 read
      have string : ofCodes codes = .object ms := congrArg Prod.fst made
      unfold ofCodes at string
      split at string <;> nomatch string
    · split at read <;> nomatch read
    · exact noBrace _ rfl
    · nomatch read
    · nomatch read
    · nomatch read
    · unfold number? at read
      split at read
      · exact unsigned?_ne_object read
      · exact unsigned?_ne_object read

/-- A text that is an object is seen as one from the outside. -/
theorem outline_of_parse? {text : String} {ms : List (String × Json)}
    (object : parse? text = some (.object ms)) : outline text.toList = .object ms true := by
  have notScalar : outline text.toList ≠ .scalar (.object ms) := by
    intro scalar
    unfold outline at scalar
    split at scalar
    · nomatch scalar
    · nomatch scalar
    · rename_i noBrace _
      split at scalar
      · rename_i v after read
        split at scalar
        · obtain rfl := Outline.scalar.inj scalar
          exact value?_ne_object (fun r same => noBrace r same) read
        · nomatch scalar
      · nomatch scalar
  unfold parse? at object
  split at object
  · rename_i members seen
    obtain rfl : members = ms := by simpa using object
    exact seen
  · nomatch object
  · rename_i v seen
    obtain rfl := Option.some.inj object
    exact absurd seen notScalar
  · nomatch object

end Json

namespace Number

/-- An integer is written without letters and white space. -/
theorem IntegerText.low {n : Int} {cs : List Char} (text : IntegerText n cs) :
    ∀ c ∈ cs, 43 ≤ c.toNat ∧ c.toNat ≤ 57 := by
  obtain ⟨sign, digits, -⟩ := text
  intro c hc
  rcases List.mem_append.1 hc with hc | hc
  · cases sign with
    | absent => nomatch hc
    | plus =>
      obtain rfl := List.mem_singleton.1 hc
      decide
    | minus =>
      obtain rfl := List.mem_singleton.1 hc
      decide
  · have digit := digits c hc
    simp only [Char.isDigit, Bool.and_eq_true, decide_eq_true_eq] at digit
    have low : 48 ≤ c.toNat := digit.1
    have high : c.toNat ≤ 57 := digit.2
    omega

/-- Letter case plays no part in integers. -/
theorem integerText_lowerAscii_iff {n : Int} {cs : List Char} :
    IntegerText n (lowerAscii cs) ↔ IntegerText n cs := by
  constructor
  · intro text
    have small : ∀ c ∈ cs, c.toNat < 65 ∨ 90 < c.toNat := by
      intro c hc
      have low := text.low c.toLower (List.mem_map_of_mem hc)
      rcases toLower_cases c with ⟨outside, -⟩ | ⟨_, _, shift⟩
      · exact outside
      · omega
    rwa [lowerAscii_eq_self small] at text
  · intro text
    have small : ∀ c ∈ cs, c.toNat < 65 ∨ 90 < c.toNat := fun c hc => by
      have := text.low c hc
      omega
    rwa [lowerAscii_eq_self small]

end Number

namespace Session
open QueryResult.Json QueryResult.Number

/-! ## What values say -/

/-- What a parameter can be told to be. -/
inductive Said where
  | word (s : String)
  | truth (b : Bool)
  | version (n : Int)

/-- What parameters say of each of them. -/
def Parameters.said (p : Parameters) : Parameter → Option Said
  | .timezone => (present p.timezone).map .word
  | .binaryFormat => (present p.binaryFormat).map .word
  | .honorsZone => p.honorsZone.map .truth
  | .resultVersion => p.resultVersion.map .version
  | k => (present (p.pattern? k)).map .word

/-- The parameters that are sent as strings only. -/
def Parameter.IsWord (k : Parameter) : Prop :=
  k ≠ .honorsZone ∧ k ≠ .resultVersion

/-- That a value is `null` or a string of nothing but white space. -/
inductive Silent : Json → Prop where
  | null : Silent .null
  | text {s : String} (blank : AllBlank s.toList) : Silent (.text s)

/-- The name of a truth value. -/
def truthName : Bool → String
  | true => "true"
  | false => "false"

/-- What a value says of a parameter. A truth value can be sent as its name in any case and a
version as the text of an integer, each with any white space around. -/
inductive Says : Parameter → Json → Option Said → Prop where
  | nothing {k : Parameter} {v : Json} (silent : Silent v) : Says k v none
  | word {k : Parameter} {s word : String} (isWord : k.IsWord) (held : Holds (some s) word) :
      Says k (.text s) (some (.word word))
  | truth {b : Bool} : Says .honorsZone (.bool b) (some (.truth b))
  | truthText {b : Bool} {s name : String} (padded : Padded name.toList s.toList)
      (same : sameIgnoringCase name (truthName b) = true) :
      Says .honorsZone (.text s) (some (.truth b))
  | version {n : Int} (fits : FitsSigned 64 n) :
      Says .resultVersion (.ofInt n) (some (.version n))
  | versionText {n : Int} {s : String} {numeral : List Char} (padded : Padded numeral s.toList)
      (integer : IntegerText n numeral) (fits : FitsSigned 64 n) :
      Says .resultVersion (.text s) (some (.version n))

theorem boolOfText?_eq_some_iff {cs : List Char} {b : Bool} :
    boolOfText? cs = some b ↔ cs = (truthName b).toList := by
  unfold boolOfText?
  split
  · subst cs
    cases b <;> decide
  · split
    · subst cs
      cases b <;> decide
    · cases b <;> simp_all [truthName]

theorem holds_truthName {b : Bool} {s name : String} (padded : Padded name.toList s.toList)
    (same : sameIgnoringCase name (truthName b) = true) : Holds (some s) name := by
  rw [sameIgnoringCase_iff] at same
  have named : (lowerAscii (truthName b).toList).all (fun c => decide (IsGraphic c)) = true := by
    cases b <;> decide
  rw [List.all_eq_true] at named
  have graphic : ∀ c ∈ name.toList, IsGraphic c := fun c hc =>
    IsGraphic.of_toLower (of_decide_eq_true (named _ (same ▸ List.mem_map_of_mem hc)))
  refine .mk padded (bare_of_graphic graphic) ?_
  rintro rfl
  cases b <;> nomatch same

theorem holds_integer {n : Int} {s : String} {numeral : List Char}
    (padded : Padded numeral s.toList) (integer : IntegerText n numeral) :
    Holds (some s) (String.ofList numeral) := by
  have graphic : ∀ c ∈ numeral, IsGraphic c := fun c hc => by
    have := integer.low c hc
    exact ⟨by omega, by omega⟩
  refine .mk ?_ ?_ ?_
  · rwa [String.toList_ofList]
  · rw [String.toList_ofList]
    exact bare_of_graphic graphic
  · obtain ⟨-, -, some⟩ := integer
    simp [some]

theorem saysNothing_iff {s : String} : SaysNothing (some s) ↔ AllBlank s.toList := by
  simp [SaysNothing, AllBlank]

section Reading

variable {k : Parameter} {v : Json} {x : Option Said}

theorem says_word_iff (isWord : k.IsWord) :
    Says k v x ↔ ∃ t, readText v = .ok t ∧ (present t).map .word = x := by
  constructor
  · intro told
    cases told with
    | nothing silent =>
      cases silent with
      | null => exact ⟨none, rfl, rfl⟩
      | text blank => exact ⟨_, rfl, by rw [present_eq_none_iff.2 (saysNothing_iff.2 blank)]; rfl⟩
    | word _ held => exact ⟨_, rfl, by rw [present_eq_some_iff.2 held]; rfl⟩
    | truth => exact absurd rfl isWord.1
    | truthText => exact absurd rfl isWord.1
    | version => exact absurd rfl isWord.2
    | versionText => exact absurd rfl isWord.2
  · rintro ⟨t, read, rfl⟩
    cases v with
    | null =>
      obtain rfl := Except.ok.inj read
      exact .nothing .null
    | text s =>
      obtain rfl := Except.ok.inj read
      rcases holds_cases (some s) with nothing | ⟨word, held⟩
      · rw [present_eq_none_iff.2 nothing]
        exact .nothing (.text (saysNothing_iff.1 nothing))
      · rw [present_eq_some_iff.2 held]
        exact .word isWord held
    | _ => nomatch read

/-- What a value is read as that may stand for itself or be spelled by a string. -/
inductive Reads {α : Type} (native : Json → Option α) (ofText : List Char → Option α) :
    Json → Option α → Prop where
  | nothing {v : Json} (silent : Silent v) : Reads native ofText v none
  | native {v : Json} {a : α} (is : native v = some a) : Reads native ofText v (some a)
  | text {s word : String} {a : α} (held : Holds (some s) word)
      (spelled : ofText (lowerAscii word.toList) = some a) : Reads native ofText (.text s) (some a)

theorem readLenient_text {α : Type} (native : Json → Option α) (ofText : List Char → Option α)
    (s : String) : readLenient native ofText (.text s) =
      (present (some s)).elim (.ok none) fun word =>
        (ofText (lowerAscii word.toList)).elim (.error (.badValue s)) fun a => .ok (some a) := by
  rcases holds_cases (some s) with nothing | ⟨word, held⟩
  · have empty : trim s.toList = [] := trim_eq_nil_iff.2 (saysNothing_iff.1 nothing)
    rw [present_eq_none_iff.2 nothing, readLenient, empty]
    rfl
  · rw [present_eq_some_iff.2 held]
    obtain ⟨padded, bare, written⟩ := held
    have trimmed : trim s.toList = word.toList := trim_eq_iff.2 ⟨padded, bare⟩
    have some : word.toList.isEmpty = false := by simpa using written
    simp only [readLenient, trimmed, some, Bool.false_eq_true, if_false, Option.elim_some]
    cases ofText (lowerAscii word.toList) <;> rfl

/-- A value that is neither `null` nor a string stands for itself or for nothing at all. -/
theorem readLenient_eq_ok_iff {α : Type} {native : Json → Option α}
    {ofText : List Char → Option α} (notNull : native .null = none)
    (notText : ∀ s, native (.text s) = none) {x : Option α} :
    readLenient native ofText v = .ok x ↔ Reads native ofText v x := by
  constructor
  · intro read
    cases v with
    | null =>
      obtain rfl := Except.ok.inj read
      exact .nothing .null
    | text s =>
      rw [readLenient_text, elim_present_eq_iff] at read
      rcases read with ⟨nothing, ⟨⟩⟩ | ⟨word, held, read⟩
      · exact .nothing (.text (saysNothing_iff.1 nothing))
      · cases spelled : ofText (lowerAscii word.toList) with
        | none => simp [spelled] at read
        | some a =>
          obtain rfl : some a = x := by simpa [spelled] using read
          exact .text held spelled
    | _ =>
      simp only [readLenient] at read
      split at read
      · obtain rfl := Except.ok.inj read
        exact .native ‹_›
      · nomatch read
  · intro reads
    cases reads with
    | nothing silent =>
      cases silent with
      | null => rfl
      | text blank =>
        rw [readLenient_text, elim_present_eq_iff]
        exact .inl ⟨saysNothing_iff.2 blank, rfl⟩
    | native is =>
      cases v with
      | null => simp [notNull] at is
      | text s => simp [notText] at is
      | _ => simp only [readLenient, is]
    | text held spelled =>
      rw [readLenient_text, elim_present_eq_iff]
      exact .inr ⟨_, held, by rw [spelled]; rfl⟩

/-- A text is read as something, or it is blamed. -/
theorem readLenient_text_cases {α : Type} (native : Json → Option α)
    (ofText : List Char → Option α) (s : String) :
    (∃ x, readLenient native ofText (.text s) = .ok x) ∨
      readLenient native ofText (.text s) = .error (.badValue s) := by
  rw [readLenient_text]
  cases present (some s) with
  | none => exact .inl ⟨none, rfl⟩
  | some word =>
    cases spelled : ofText (lowerAscii word.toList) with
    | none => exact .inr (by rw [Option.elim_some, spelled]; rfl)
    | some a => exact .inl ⟨some a, by rw [Option.elim_some, spelled]; rfl⟩

theorem says_honorsZone_iff : Says .honorsZone v x ↔
    ∃ t, readLenient Json.bool? boolOfText? v = .ok t ∧ t.map .truth = x := by
  have reads {t : Option Bool} : readLenient Json.bool? boolOfText? v = .ok t ↔
      Reads Json.bool? boolOfText? v t := readLenient_eq_ok_iff rfl fun _ => rfl
  simp only [reads]
  constructor
  · intro told
    cases told with
    | nothing silent => exact ⟨none, .nothing silent, rfl⟩
    | word isWord => exact absurd rfl isWord.1
    | truth => exact ⟨_, .native rfl, rfl⟩
    | truthText padded same =>
      refine ⟨_, .text (holds_truthName padded same) (boolOfText?_eq_some_iff.2 ?_), rfl⟩
      rw [sameIgnoringCase_iff.1 same]
      cases ‹Bool› <;> rfl
  · rintro ⟨t, reads, rfl⟩
    cases reads with
    | nothing silent => exact .nothing silent
    | native is =>
      cases v with
      | bool b =>
        obtain rfl := Option.some.inj is
        exact .truth
      | _ => nomatch is
    | @text s word b held spelled =>
      obtain ⟨padded, -, -⟩ := held
      refine .truthText padded (sameIgnoringCase_iff.2 ?_)
      rw [boolOfText?_eq_some_iff.1 spelled]
      cases b <;> rfl

theorem longOfJson?_eq_some_iff {n : Int} :
    longOfJson? v = some n ↔ v = .ofInt n ∧ FitsSigned 64 n := by
  rw [longOfJson?, Option.filter_eq_some_iff, strictInt?_eq_some_iff, decide_eq_true_iff]

theorem says_resultVersion_iff : Says .resultVersion v x ↔
    ∃ t, readLenient longOfJson? (integerOfWidth? 64) v = .ok t ∧ t.map .version = x := by
  have reads {t : Option Int} : readLenient longOfJson? (integerOfWidth? 64) v = .ok t ↔
      Reads longOfJson? (integerOfWidth? 64) v t := readLenient_eq_ok_iff rfl fun _ => rfl
  simp only [reads]
  constructor
  · intro told
    cases told with
    | nothing silent => exact ⟨none, .nothing silent, rfl⟩
    | word isWord => exact absurd rfl isWord.2
    | version fits => exact ⟨_, .native (longOfJson?_eq_some_iff.2 ⟨rfl, fits⟩), rfl⟩
    | versionText padded integer fits =>
      have spelled := integerOfWidth?_eq_some_iff.2
        ⟨integer?_eq_some_iff.2 (integerText_lowerAscii_iff.2 integer), fits⟩
      exact ⟨_, .text (holds_integer padded integer) (by rwa [String.toList_ofList]), rfl⟩
  · rintro ⟨t, reads, rfl⟩
    cases reads with
    | nothing silent => exact .nothing silent
    | native is =>
      obtain ⟨rfl, fits⟩ := longOfJson?_eq_some_iff.1 is
      exact .version fits
    | text held spelled =>
      obtain ⟨padded, -, -⟩ := held
      obtain ⟨integer, fits⟩ := integerOfWidth?_eq_some_iff.1 spelled
      rw [integer?_eq_some_iff, integerText_lowerAscii_iff] at integer
      exact .versionText padded integer fits

end Reading

/-! ## What objects convey -/

section Setting

variable {p : Parameters} {k : Parameter} {v : Json} {x y : Option Said}
  {said : Parameter → Option Said}

/-- To read a value and to put it in its place changes what is said of one parameter. -/
theorem exists_put_iff {α : Type} {read : Except ParametersError α} {put : α → Parameters}
    {tell : α → Option Said} (told : ∀ x, Says k v x ↔ ∃ t, read = .ok t ∧ tell t = x)
    (update : ∀ t, (put t).said = Function.update p.said k (tell t)) :
    (∃ q, (do let t ← read; return put t) = Except.ok q ∧ q.said = said) ↔
      ∃ x, Says k v x ∧ said = Function.update p.said k x := by
  constructor
  · rintro ⟨q, made, rfl⟩
    obtain ⟨t, taken, made⟩ := eq_ok_of_bind made
    obtain rfl := Except.ok.inj made
    exact ⟨tell t, (told _).2 ⟨t, taken, rfl⟩, update t⟩
  · rintro ⟨x, meant, rfl⟩
    obtain ⟨t, rfl, rfl⟩ := (told x).1 meant
    exact ⟨put t, rfl, update t⟩

/-- A parameter is taken from a value if and only if the value says something of it. -/
theorem exists_set_iff (p : Parameters) : (∃ q, p.set k v = .ok q ∧ q.said = said) ↔
    ∃ x, Says k v x ∧ said = Function.update p.said k x := by
  cases k with
  | honorsZone =>
    exact exists_put_iff (fun _ => says_honorsZone_iff) fun t => by funext j; cases j <;> rfl
  | resultVersion =>
    exact exists_put_iff (fun _ => says_resultVersion_iff) fun t => by funext j; cases j <;> rfl
  | _ =>
    exact exists_put_iff (fun _ => says_word_iff ⟨nofun, nofun⟩) fun t => by
      funext j
      cases j <;> rfl

/-- A value says one thing. -/
theorem Says.unique (first : Says k v x) (second : Says k v y) : x = y := by
  obtain ⟨q, set, one⟩ := (exists_set_iff {}).2 ⟨x, first, rfl⟩
  obtain ⟨q', set', other⟩ := (exists_set_iff {}).2 ⟨y, second, rfl⟩
  obtain rfl := Except.ok.inj (set.symm.trans set')
  simpa using congrFun (one.symm.trans other) k

/-- A text that says nothing of a truth value or of a version, not even that it is absent, is
blamed. -/
theorem set_eq_error {s : String} (lenient : k = .honorsZone ∨ k = .resultVersion)
    (nonsense : ∀ x, ¬ Says k (.text s) x) (p : Parameters) :
    p.set k (.text s) = .error (.badValue s) := by
  rcases lenient with rfl | rfl
  · rcases readLenient_text_cases Json.bool? boolOfText? s with ⟨x, read⟩ | blamed
    · exact absurd (says_honorsZone_iff.2 ⟨x, read, rfl⟩) (nonsense _)
    · rw [Parameters.set, blamed]
      rfl
  · rcases readLenient_text_cases longOfJson? (integerOfWidth? 64) s with ⟨x, read⟩ | blamed
    · exact absurd (says_resultVersion_iff.2 ⟨x, read, rfl⟩) (nonsense _)
    · rw [Parameters.set, blamed]
      rfl

end Setting

theorem Parameter.find?_eq_some_iff {name : String} {k : Parameter} :
    find? name = some k ↔ name = k.name := by
  constructor
  · intro found
    have same := List.find?_some found
    exact (beq_iff_eq.1 same).symm
  · rintro rfl
    exact find?_name k

theorem Parameter.name_inj {j k : Parameter} : j.name = k.name ↔ j = k := by
  rw [← find?_eq_some_iff, find?_name, Option.some.injEq]

/-- The parameters that stand among members. -/
def known (ms : List (String × Json)) : List Parameter :=
  ms.filterMap fun m => Parameter.find? m.1

/-- That members convey `said` of the parameters, those that are left out staying as before. -/
structure Conveys (before : Parameter → Option Said) (ms : List (String × Json))
    (said : Parameter → Option Said) : Prop where
  /-- No known name stands twice. -/
  distinct : (known ms).Nodup
  given : ∀ k v, (k.name, v) ∈ ms → Says k v (said k)
  others : ∀ k, k ∉ known ms → said k = before k

section Members

variable {before said : Parameter → Option Said} {ms ns : List (String × Json)} {k : Parameter}
  {v w : Json}

theorem mem_known_iff : k ∈ known ms ↔ ∃ v, (k.name, v) ∈ ms := by
  simp only [known, List.mem_filterMap, Parameter.find?_eq_some_iff]
  constructor
  · rintro ⟨⟨_, v⟩, there, rfl⟩
    exact ⟨v, there⟩
  · rintro ⟨v, there⟩
    exact ⟨_, there, rfl⟩

theorem known_cons : known ((k.name, v) :: ms) = k :: known ms :=
  List.filterMap_cons_some (Parameter.find?_name k)

theorem known_cons_of_foreign {name : String} (foreign : Parameter.find? name = none) :
    known ((name, v) :: ms) = known ms :=
  List.filterMap_cons_none foreign

theorem conveys_nil_iff : Conveys before [] said ↔ said = before := by
  constructor
  · intro conveys
    exact funext fun k => conveys.others k List.not_mem_nil
  · rintro rfl
    exact ⟨List.nodup_nil, fun _ _ there => absurd there List.not_mem_nil, fun _ _ => rfl⟩

/-- A member of an unknown name conveys nothing. -/
theorem conveys_cons_of_foreign {name : String} (foreign : Parameter.find? name = none) :
    Conveys before ((name, v) :: ms) said ↔ Conveys before ms said := by
  have other (k : Parameter) : k.name ≠ name := by
    rintro rfl
    simp [Parameter.find?_name] at foreign
  constructor
  · rintro ⟨distinct, given, others⟩
    rw [known_cons_of_foreign foreign] at distinct others
    exact ⟨distinct, fun k w there => given k w (List.mem_cons_of_mem _ there), others⟩
  · rintro ⟨distinct, given, others⟩
    refine ⟨?_, ?_, ?_⟩
    · rwa [known_cons_of_foreign foreign]
    · intro k w there
      rcases List.mem_cons.1 there with same | there
      · exact absurd (congrArg Prod.fst same) (other k)
      · exact given k w there
    · rwa [known_cons_of_foreign foreign]

/-- A member of a known name conveys what it says, and the rest is about the other parameters. -/
theorem conveys_cons_iff : Conveys before ((k.name, v) :: ms) said ↔
    k ∉ known ms ∧ ∃ x, Says k v x ∧ Conveys (Function.update before k x) ms said := by
  constructor
  · rintro ⟨distinct, given, others⟩
    rw [known_cons, List.nodup_cons] at distinct
    refine ⟨distinct.1, said k, given k v List.mem_cons_self, distinct.2, ?_, ?_⟩
    · exact fun j w there => given j w (List.mem_cons_of_mem _ there)
    · intro j missing
      by_cases same : j = k
      · rw [same, Function.update_self]
      · rw [Function.update_of_ne same]
        refine others j ?_
        rw [known_cons]
        exact List.not_mem_cons_of_ne_of_not_mem same missing
  · rintro ⟨fresh, x, meant, distinct, given, others⟩
    have told : said k = x := by rw [others k fresh, Function.update_self]
    refine ⟨?_, ?_, ?_⟩
    · rw [known_cons]
      exact List.nodup_cons.2 ⟨fresh, distinct⟩
    · intro j w there
      rcases List.mem_cons.1 there with same | there
      · obtain ⟨names, rfl⟩ := Prod.mk.inj same
        obtain rfl := Parameter.name_inj.1 names
        rwa [told]
      · exact given j w there
    · intro j missing
      rw [known_cons] at missing
      obtain ⟨ne, missing⟩ := List.ne_and_not_mem_of_not_mem_cons missing
      rw [others j missing, Function.update_of_ne ne]

theorem addMembers_cons_of_foreign {name : String} (foreign : Parameter.find? name = none)
    (p : Parameters) (seen : List Parameter) :
    p.addMembers seen ((name, v) :: ms) = p.addMembers seen ms := by
  simp only [Parameters.addMembers, foreign]

/-- A parameter is not taken twice. -/
theorem addMembers_cons_of_seen {seen : List Parameter} (again : k ∈ seen) (p : Parameters) :
    p.addMembers seen ((k.name, v) :: ms) = .error .malformed := by
  simp only [Parameters.addMembers, Parameter.find?_name, again, if_true]

theorem addMembers_cons_of_unseen {seen : List Parameter} (fresh : k ∉ seen) (p : Parameters) :
    p.addMembers seen ((k.name, v) :: ms) =
      p.set k v >>= fun p' => p'.addMembers (k :: seen) ms := by
  simp only [Parameters.addMembers, Parameter.find?_name, fresh, if_false]

/-- Members are read if and only if they convey something, and as what they convey. -/
theorem exists_addMembers_iff (ms : List (String × Json)) (p : Parameters)
    (seen : List Parameter) : (∃ q, p.addMembers seen ms = .ok q ∧ q.said = said) ↔
      (∀ k ∈ known ms, k ∉ seen) ∧ Conveys p.said ms said := by
  induction ms generalizing p seen with
  | nil =>
    rw [conveys_nil_iff]
    constructor
    · rintro ⟨q, read, rfl⟩
      obtain rfl := Except.ok.inj read
      exact ⟨fun _ there => absurd there List.not_mem_nil, rfl⟩
    · rintro ⟨-, rfl⟩
      exact ⟨p, rfl, rfl⟩
  | cons m ms ih =>
    obtain ⟨name, v⟩ := m
    cases found : Parameter.find? name with
    | none =>
      rw [conveys_cons_of_foreign found, known_cons_of_foreign found, ← ih,
        addMembers_cons_of_foreign found]
    | some k =>
      obtain rfl := Parameter.find?_eq_some_iff.1 found
      rw [conveys_cons_iff, known_cons]
      by_cases again : k ∈ seen
      · rw [addMembers_cons_of_seen again]
        constructor
        · rintro ⟨q, read, -⟩
          nomatch read
        · rintro ⟨unseen, -⟩
          exact absurd again (unseen k List.mem_cons_self)
      · rw [addMembers_cons_of_unseen again]
        constructor
        · rintro ⟨q, read, rfl⟩
          obtain ⟨p', set, read⟩ := eq_ok_of_bind read
          obtain ⟨unseen, conveys⟩ := (ih p' (k :: seen)).1 ⟨q, read, rfl⟩
          obtain ⟨x, meant, same⟩ := (exists_set_iff p).1 ⟨p', set, rfl⟩
          rw [same] at conveys
          refine ⟨?_, fun there => unseen k there List.mem_cons_self, x, meant, conveys⟩
          intro j there
          rcases List.mem_cons.1 there with rfl | there
          · exact again
          · exact fun old => unseen j there (List.mem_cons_of_mem _ old)
        · rintro ⟨unseen, fresh, x, meant, conveys⟩
          obtain ⟨p', set, same⟩ := (exists_set_iff p).2 ⟨x, meant, rfl⟩
          rw [← same] at conveys
          have later : ∀ j ∈ known ms, j ∉ k :: seen := by
            intro j there old
            rcases List.mem_cons.1 old with rfl | old
            · exact fresh there
            · exact unseen j (List.mem_cons_of_mem _ there) old
          obtain ⟨q, read, told⟩ := (ih p' (k :: seen)).2 ⟨later, conveys⟩
          exact ⟨q, by rw [set]; exact read, told⟩

end Members

end Session
end QueryResult
