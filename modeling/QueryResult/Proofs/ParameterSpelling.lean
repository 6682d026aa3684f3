import QueryResult.Proofs.ParameterReading

/-!
# Spellings of session parameters

The same settings can be sent in many ways: with members in another order and members of unknown
names among them, with `null`, a blank string or nothing at all for a parameter that is not set, and
with a truth value or a version as a string (`Respelled`). None of that makes a difference to what
an object conveys, and a context depends on nothing else. A string that spells no value of its
parameter is refused and quoted as it was sent, in whatever words the reader of JSON reports it
(`Quotes`). The main statement is `context_of_respelled`, for whatever zones a database has.
-/

namespace QueryResult.Session
open QueryResult.Json QueryResult.Number QueryResult.Text

/-! ## What a context depends on -/

section Context

variable {db : Zone.Database} {p q : Parameters} {cx : Context} {text : String}
variable {ms ns : List (String × Json)}

/-- A context depends on nothing but what is said. -/
theorem ofParameters_congr (db : Zone.Database) (same : p.said = q.said) :
    Context.ofParameters p db = Context.ofParameters q db := by
  have said (k : Parameter) : p.said k = q.said k := congrFun same k
  have word : Function.Injective Said.word := fun _ _ => Said.word.inj
  have timezone : present p.timezone = present q.timezone :=
    Option.map_injective word (said .timezone)
  have binaryFormat : present p.binaryFormat = present q.binaryFormat :=
    Option.map_injective word (said .binaryFormat)
  have pattern (k : Parameter) : compilePresent (p.pattern? k) = compilePresent (q.pattern? k) := by
    have words : present (p.pattern? k) = present (q.pattern? k) := by
      have told := said k
      cases k with
      | timezone | binaryFormat | honorsZone | resultVersion => rfl
      | _ => exact Option.map_injective word told
    rw [compilePresent_eq, compilePresent_eq, words]
  have honorsZone : p.honorsZone = q.honorsZone :=
    Option.map_injective (fun _ _ => Said.truth.inj) (said .honorsZone)
  have resultVersion : p.resultVersion = q.resultVersion :=
    Option.map_injective (fun _ _ => Said.version.inj) (said .resultVersion)
  simp only [Context.ofParameters, zoneOf_eq, binaryFormatOf_eq, timezone, binaryFormat, honorsZone,
    resultVersion]
  rw [show compilePresent p.timestampPattern = _ from pattern .timestampPattern,
    show compilePresent p.ntzPattern = _ from pattern .ntzPattern,
    show compilePresent p.ltzPattern = _ from pattern .ltzPattern,
    show compilePresent p.tzPattern = _ from pattern .tzPattern,
    show compilePresent p.datePattern = _ from pattern .datePattern,
    show compilePresent p.timePattern = _ from pattern .timePattern]
  rfl

theorem ofJson_of_object (object : Json.parse? text = some (.object ms)) :
    Parameters.ofJson text = ({} : Parameters).addMembers [] ms := by
  rw [Parameters.ofJson, outline_of_parse? object, Parameters.ofOutline]
  cases ({} : Parameters).addMembers [] ms <;> rfl

theorem said_default : ({} : Parameters).said = fun _ => none := by
  funext k
  cases k <;> rfl

/-- An object makes a context if and only if it conveys parameters that make it. -/
theorem ofJson_eq_ok_iff (object : Json.parse? text = some (.object ms)) :
    Context.ofJson text db = .ok cx ↔
      ∃ p, Conveys (fun _ => none) ms p.said ∧ Context.ofParameters p db = .ok cx := by
  have read {said : Parameter → Option Said} :
      (∃ q, ({} : Parameters).addMembers [] ms = .ok q ∧ q.said = said) ↔
        Conveys (fun _ => none) ms said := by
    rw [exists_addMembers_iff, said_default]
    exact and_iff_right fun _ _ => List.not_mem_nil
  rw [Context.ofJson, ofJson_of_object object]
  constructor
  · intro made
    cases taken : ({} : Parameters).addMembers [] ms with
    | error e => simp [taken] at made
    | ok p =>
      rw [taken] at made
      exact ⟨p, read.1 ⟨p, taken, rfl⟩, made⟩
  · rintro ⟨p, conveys, made⟩
    obtain ⟨q, taken, same⟩ := read.2 conveys
    rw [taken]
    exact (ofParameters_congr db same).trans made

/-! ## Spellings -/

/-- That two objects of parameters are alike but for the order of their members, for members of
unknown names, for the ways in which values are spelled, and for members that say nothing. Each
change may be made at the front, since members can be moved there. -/
inductive Respelled : List (String × Json) → List (String × Json) → Prop where
  | perm {ms ns : List (String × Json)} (same : ms.Perm ns) : Respelled ms ns
  | foreign {name : String} {v : Json} {ms : List (String × Json)}
      (unknown : ∀ k : Parameter, k.name ≠ name) : Respelled ((name, v) :: ms) ms
  /-- A truth value or an integer may give way to its text, and one blank value to another. -/
  | value {k : Parameter} {v w : Json} {x : Option Said} {ms : List (String × Json)}
      (first : Says k v x) (second : Says k w x) : Respelled ((k.name, v) :: ms) ((k.name, w) :: ms)
  | absent {k : Parameter} {v : Json} {ms : List (String × Json)} (silent : Silent v)
      (once : ∀ w, (k.name, w) ∉ ms) : Respelled ((k.name, v) :: ms) ms
  | symm {ms ns : List (String × Json)} (back : Respelled ns ms) : Respelled ms ns
  | trans {ms ns os : List (String × Json)} (first : Respelled ms ns) (second : Respelled ns os) :
      Respelled ms os

/-- That in place of the truth value or the version among members there stands a text that spells
none and is not blank either. -/
inductive Spoiled (s : String) : List (String × Json) → List (String × Json) → Prop where
  | mk {k : Parameter} {v : Json} {front back : List (String × Json)}
      (lenient : k = .honorsZone ∨ k = .resultVersion) (nonsense : ∀ x, ¬ Says k (.text s) x) :
      Spoiled s (front ++ (k.name, v) :: back) (front ++ (k.name, .text s) :: back)

/-- That a reader of JSON shows a message whole, with the place in the text behind it or nothing. One
that itself ends as with a place it may write anew. -/
def Wording.Keeps (w : Wording) (message : String) : Prop :=
  ∃ place, w.refused message = message ++ place

/-- How a fault quotes a text that stands for a parameter. -/
structure Quotes (fault : ConfigurationFault) (s : String) : Prop where
  /-- The reader of JSON is told the text as it was sent, and words the rest. -/
  worded : ∀ w : Wording, fault.message w =
    "invalid session parameters: " ++ w.refused ("invalid parameter value: " ++ s)
  /-- Where it keeps what it is told, the text is quoted with the white space around it. -/
  kept : ∀ w : Wording, w.Keeps ("invalid parameter value: " ++ s) → ∃ place,
    fault.message w = "invalid session parameters: invalid parameter value: " ++ s ++ place

theorem quotes_badValue (s : String) : Quotes (.parameters (.badValue s)) s where
  worded _ := rfl
  kept w := by
    rintro ⟨place, kept⟩
    refine ⟨place, ?_⟩
    show "invalid session parameters: " ++ w.refused ("invalid parameter value: " ++ s) = _
    rw [kept, ← String.append_assoc, ← String.append_assoc]
    rfl

/-- The order of members plays no part in what they convey. -/
theorem Conveys.perm {before said : Parameter → Option Said} (conveys : Conveys before ms said)
    (same : ms.Perm ns) : Conveys before ns said := by
  have names : (known ms).Perm (known ns) := same.filterMap _
  obtain ⟨distinct, given, others⟩ := conveys
  exact ⟨names.nodup_iff.1 distinct, fun k v there => given k v (same.mem_iff.2 there),
    fun k missing => others k fun there => missing (names.mem_iff.1 there)⟩

/-- Objects that differ in spelling only convey the same. -/
theorem Respelled.conveys_iff {said : Parameter → Option Said} (respelled : Respelled ms ns) :
    Conveys (fun _ => none) ms said ↔ Conveys (fun _ => none) ns said := by
  induction respelled with
  | perm same => exact ⟨fun conveys => conveys.perm same, fun conveys => conveys.perm same.symm⟩
  | @foreign name v ms unknown =>
    refine conveys_cons_of_foreign ?_
    cases found : Parameter.find? name with
    | none => rfl
    | some k => exact absurd (Parameter.find?_eq_some_iff.1 found).symm (unknown k)
  | @value k v w x ms first second =>
    have alike (y : Option Said) : Says k v y ↔ Says k w y := by
      constructor
      · intro told
        rwa [told.unique first]
      · intro told
        rwa [told.unique second]
    simp only [conveys_cons_iff, alike]
  | @absent k v ms silent once =>
    have fresh : k ∉ known ms := fun there =>
      let ⟨w, there⟩ := mem_known_iff.1 there
      once w there
    have unchanged : Function.update (fun _ : Parameter => (none : Option Said)) k none =
        fun _ => none := Function.update_eq_self k _
    rw [conveys_cons_iff]
    constructor
    · rintro ⟨-, x, told, conveys⟩
      rwa [told.unique (.nothing silent), unchanged] at conveys
    · intro conveys
      exact ⟨fresh, none, .nothing silent, by rwa [unchanged]⟩
  | symm _ ih => exact ih.symm
  | trans _ _ ih ih' => exact ih.trans ih'

/-- Where all was well, the first fault is the text that has been put in. -/
theorem Spoiled.addMembers_eq_error {s : String} (spoiled : Spoiled s ms ns) {seen : List Parameter}
    (read : p.addMembers seen ms = .ok q) : p.addMembers seen ns = .error (.badValue s) := by
  obtain @⟨k, v, front, back, lenient, nonsense⟩ := spoiled
  induction front generalizing p seen with
  | nil =>
    rw [List.nil_append] at read ⊢
    by_cases again : k ∈ seen
    · rw [addMembers_cons_of_seen again] at read
      nomatch read
    · rw [addMembers_cons_of_unseen again, set_eq_error lenient nonsense]
      rfl
  | cons m front ih =>
    obtain ⟨name, w⟩ := m
    rw [List.cons_append] at read ⊢
    cases found : Parameter.find? name with
    | none =>
      rw [addMembers_cons_of_foreign found] at read ⊢
      exact ih read
    | some j =>
      obtain rfl := Parameter.find?_eq_some_iff.1 found
      by_cases again : j ∈ seen
      · rw [addMembers_cons_of_seen again] at read
        nomatch read
      · rw [addMembers_cons_of_unseen again] at read ⊢
        obtain ⟨p', set, read⟩ := eq_ok_of_bind read
        rw [set]
        exact ih read

end Context

/-- **A context does not depend on how its parameters are spelled.** Where an object makes a
context, an object that differs from it in spelling only makes the same one, and one in which a text
spells no truth value or no version fails with that text as it was sent. -/
theorem context_of_respelled {db : Zone.Database} {sent resent : String}
    {ms ns : List (String × Json)} {cx : Context} (object : Json.parse? sent = some (.object ms))
    (made : Context.ofJson sent db = .ok cx) (object' : Json.parse? resent = some (.object ns)) :
    (Respelled ms ns → Context.ofJson resent db = .ok cx) ∧
      ∀ s, Spoiled s ms ns → ∃ fault, Context.ofJson resent db = .error fault ∧
        Quotes fault s := by
  constructor
  · intro respelled
    obtain ⟨p, conveys, described⟩ := (ofJson_eq_ok_iff object).1 made
    exact (ofJson_eq_ok_iff object').2 ⟨p, respelled.conveys_iff.1 conveys, described⟩
  · intro s spoiled
    refine ⟨.parameters (.badValue s), ?_, quotes_badValue s⟩
    rw [Context.ofJson, ofJson_of_object object] at made
    cases read : ({} : Parameters).addMembers [] ms with
    | error e => simp [read] at made
    | ok p => rw [Context.ofJson, ofJson_of_object object', spoiled.addMembers_eq_error read]

/-- A version as a number, no pattern of dates and a zone. -/
def plainText : String :=
  "\x7b\"RESULT_VERSION\": 1, \"DATE_OUTPUT_FORMAT\": null, \"TIMEZONE\": \"Asia/Tokyo\"\x7d"

/-- The same after a member of an unknown name, with a blank pattern and the version as a string. -/
def spelledText : String :=
  "\x7b\"TAG\":[],\"DATE_OUTPUT_FORMAT\":\" \",\"RESULT_VERSION\":\" 1\",\"TIMEZONE\":\"Asia/Tokyo\"\x7d"

/-- A word that is no version. -/
def spoiledText : String :=
  "\x7b\"RESULT_VERSION\": \" One\", \"DATE_OUTPUT_FORMAT\": null, \"TIMEZONE\": \"Asia/Tokyo\"\x7d"

/-- The words of a reader that tells where a text was given up, on the word that is no version. -/
def placed : Wording where
  refused message := message ++ " at line 1 column 25"

/-- The space in front of the word is quoted with it. -/
theorem plain_spelled_and_spoiled :
    Context.ofJson spelledText .tabulated = .ok { zone := .tokyo, encoding := .current } ∧
      ∃ fault, Context.ofJson spoiledText .tabulated = .error fault ∧
        placed.Keeps ("invalid parameter value: " ++ " One") ∧
        fault.message placed =
          "invalid session parameters: invalid parameter value:  One at line 1 column 25" := by
  have plain : Json.parse? plainText = some (.object
      [(Parameter.resultVersion.name, .ofInt 1), (Parameter.datePattern.name, .null),
        (Parameter.timezone.name, .text "Asia/Tokyo")]) := by
    simp only [Json.parse?, plainText, String.reduceToList]
    rfl
  have spelled : Json.parse? spelledText = some (.object
      [("TAG", .array []), (Parameter.datePattern.name, .text " "),
        (Parameter.resultVersion.name, .text " 1"),
        (Parameter.timezone.name, .text "Asia/Tokyo")]) := by
    simp only [Json.parse?, spelledText, String.reduceToList]
    rfl
  have spoiled : Json.parse? spoiledText = some (.object
      [(Parameter.resultVersion.name, .text " One"), (Parameter.datePattern.name, .null),
        (Parameter.timezone.name, .text "Asia/Tokyo")]) := by
    simp only [Json.parse?, spoiledText, String.reduceToList]
    rfl
  have made : Context.ofJson plainText .tabulated =
      .ok { zone := .tokyo, encoding := .current } := by
    decide +kernel
  have version : Says .resultVersion (.text " 1") (some (.version 1)) := by
    have padded : Padded (intText 1) " 1".toList := (trim_eq_iff.1 (by decide)).1
    exact .versionText padded (integerText_intText 1) (by decide)
  have blank : AllBlank " ".toList := List.all_eq_true.1 (by decide)
  have unknown (k : Parameter) : k.name ≠ "TAG" := by
    cases k <;> decide
  have respelled : Respelled
      [(Parameter.resultVersion.name, .ofInt 1), (Parameter.datePattern.name, .null),
        (Parameter.timezone.name, .text "Asia/Tokyo")]
      [("TAG", .array []), (Parameter.datePattern.name, .text " "),
        (Parameter.resultVersion.name, .text " 1"),
        (Parameter.timezone.name, .text "Asia/Tokyo")] :=
    (Respelled.value (.version (by decide)) version).trans <|
      (Respelled.perm (.swap _ _ _)).trans <|
      (Respelled.value (.nothing .null) (.nothing (.text blank))).trans <|
      .symm (.foreign unknown)
  have nonsense (x : Option Said) : ¬ Says .resultVersion (.text " One") x := by
    intro told
    have blamed : readLenient longOfJson? (integerOfWidth? 64) (.text " One") =
        .error (.badValue " One") := by
      decide
    obtain ⟨t, read, -⟩ := says_resultVersion_iff.1 told
    cases blamed.symm.trans read
  obtain ⟨fault, failed, quotes⟩ := (context_of_respelled plain made spoiled).2 " One"
    (@Spoiled.mk _ .resultVersion (.ofInt 1) [] _ (.inr rfl) nonsense)
  exact ⟨(context_of_respelled plain made spelled).1 respelled, fault, failed, ⟨_, rfl⟩,
    (quotes.worded placed).trans (by decide)⟩

end QueryResult.Session
