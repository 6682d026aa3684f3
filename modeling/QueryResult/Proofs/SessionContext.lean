import QueryResult.Proofs.Outcome
import QueryResult.Proofs.PatternCut
import QueryResult.Proofs.Spelling
import QueryResult.Proofs.StageFields
import QueryResult.Session.Context

/-!
# The context that parameters describe

Of a parameter that is a string, only the word between white space counts (`Holds`); one that is
blank says nothing, as if it were absent. Parameters are good if a zone of the database goes by the
name of theirs, their binary format is known and no pattern leaves a quote open (`Acceptable`); a
shared pattern must be good even where every kind of timestamp has a pattern of its own. Good
parameters describe one context (`Describes`), in which what is not said is as by default. Of
parameters that are not good, the first one to offend, in the order in which they are looked at, is
blamed. The main statement is `parameters_describe_context`, for whatever zones a database has.
-/

namespace QueryResult
open QueryResult.Text

/-! ## Names of zones and formats -/

namespace Zone.Database

variable {db : Database} {name : String}

/-- A name finds the zone of the database that goes by it. -/
theorem find?_eq_some_iff {z : Zone} :
    db.find? name = some z ↔ z ∈ db.zones ∧ z.name = name := by
  have sound {w : Zone} (found : db.find? name = some w) : w ∈ db.zones ∧ w.name = name :=
    ⟨List.mem_of_find?_eq_some found, by simpa using List.find?_some found⟩
  constructor
  · exact sound
  · rintro ⟨mem, goesBy⟩
    have there : (db.find? name).isSome = true := List.find?_isSome.2 ⟨z, mem, by simpa⟩
    obtain ⟨w, found⟩ := Option.isSome_iff_exists.1 there
    obtain ⟨mem', goesBy'⟩ := sound found
    rw [found, List.inj_on_of_nodup_map db.distinct mem' mem (goesBy'.trans goesBy.symm)]

theorem find?_eq_none_iff : db.find? name = none ↔ ∀ z ∈ db.zones, z.name ≠ name := by
  rw [find?, List.find?_eq_none]
  simp only [beq_iff_eq, ne_eq]

end Zone.Database

namespace BinaryFormat

variable {word : String}

/-- No word names two formats. -/
theorem not_base64_of_hex (hex : sameIgnoringCase word "HEX" = true) :
    sameIgnoringCase word "BASE64" = false := by
  rw [sameIgnoringCase_iff] at hex
  rw [sameIgnoringCase, hex]
  decide

theorem ofName_eq_ok_iff {f : BinaryFormat} :
    ofName word = .ok f ↔ sameIgnoringCase word f.name = true := by
  cases hex : sameIgnoringCase word "HEX" with
  | true => cases f <;> simp [ofName, name, hex, not_base64_of_hex hex]
  | false =>
    cases base64 : sameIgnoringCase word "BASE64" <;> cases f <;> simp [ofName, name, hex, base64]

theorem ofName_eq_error_iff {e : BinaryFormatError} : ofName word = .error e ↔
    (∀ f : BinaryFormat, sameIgnoringCase word f.name = false) ∧ e = ⟨word⟩ := by
  have every : (∀ f : BinaryFormat, sameIgnoringCase word f.name = false) ↔
      sameIgnoringCase word "HEX" = false ∧ sameIgnoringCase word "BASE64" = false := by
    constructor
    · exact fun h => ⟨h .hex, h .base64⟩
    · rintro ⟨hex, base64⟩ (_ | _)
      · exact hex
      · exact base64
  rw [every, ofName]
  cases sameIgnoringCase word "HEX" <;> cases sameIgnoringCase word "BASE64" <;> simp [eq_comm]

end BinaryFormat

namespace Session

/-! ## Parameters that say something -/

/-- The word that a parameter holds: what stands between white space, if anything does. -/
inductive Holds : Option String → String → Prop where
  | mk {sent word : String} (padded : Padded word.toList sent.toList) (bare : Bare word.toList)
      (written : word ≠ "") : Holds (some sent) word

theorem present_eq_some_iff {parameter : Option String} {word : String} :
    present parameter = some word ↔ Holds parameter word := by
  cases parameter with
  | none =>
    constructor
    · intro h
      nomatch h
    · intro h
      nomatch h
  | some sent =>
    rw [present, Option.map_some, Option.filter_eq_some_iff, Option.some.injEq,
      ← String.toList_inj, String.toList_ofList, trim_eq_iff]
    constructor
    · rintro ⟨⟨padded, bare⟩, written⟩
      exact .mk padded bare (by simpa using written)
    · rintro ⟨padded, bare, written⟩
      exact ⟨⟨padded, bare⟩, by simpa using written⟩

theorem present_eq_none_iff {parameter : Option String} :
    present parameter = none ↔ SaysNothing parameter := by
  cases parameter with
  | none => exact ⟨fun _ => nofun, fun _ => rfl⟩
  | some sent =>
    rw [present, Option.map_some, Option.filter_eq_none_iff, SaysNothing]
    simp [trim_eq_nil_iff]

theorem Holds.unique {parameter : Option String} {word word' : String} (h : Holds parameter word)
    (h' : Holds parameter word') : word = word' :=
  Option.some.inj ((present_eq_some_iff.2 h).symm.trans (present_eq_some_iff.2 h'))

theorem not_holds_of_nothing {parameter : Option String} {word : String}
    (nothing : SaysNothing parameter) : ¬ Holds parameter word := by
  intro held
  have there := present_eq_some_iff.2 held
  rw [present_eq_none_iff.2 nothing] at there
  nomatch there

/-- A parameter holds a word or says nothing. -/
theorem holds_cases (parameter : Option String) :
    SaysNothing parameter ∨ ∃ word, Holds parameter word := by
  cases there : present parameter with
  | none => exact .inl (present_eq_none_iff.1 there)
  | some word => exact .inr ⟨word, present_eq_some_iff.1 there⟩

/-! ## What single parameters come to -/

/-- The zone of a database that a parameter says, UTC if it says nothing. -/
inductive ZoneSaid (db : Zone.Database) (parameter : Option String) : Zone → Prop where
  | default (nothing : SaysNothing parameter) : ZoneSaid db parameter .utc
  | named {name : String} {z : Zone} (held : Holds parameter name) (known : z ∈ db.zones)
      (goesBy : z.name = name) : ZoneSaid db parameter z

/-- The binary format that a parameter says in any case, hexadecimal if it says nothing. -/
inductive FormatSaid (parameter : Option String) : BinaryFormat → Prop where
  | default (nothing : SaysNothing parameter) : FormatSaid parameter .hex
  | named {word : String} {f : BinaryFormat} (held : Holds parameter word)
      (same : sameIgnoringCase word f.name = true) : FormatSaid parameter f

/-- The pattern that the first of some parameters says that says anything. Without one, the pattern
is missing, and to ask for it fails. -/
inductive Chosen (use : PatternUse) :
    List (Option String) → Except ConfigurationFault Pattern → Prop where
  | missing : Chosen use [] (.error (.missingPattern use))
  | first {parameter : Option String} {later : List (Option String)} {text : String} {p : Pattern}
      (held : Holds parameter text) (compiled : Pattern.compile text = .ok p) :
      Chosen use (parameter :: later) (.ok p)
  | later {parameter : Option String} {later : List (Option String)}
      {answer : Except ConfigurationFault Pattern} (nothing : SaysNothing parameter)
      (chosen : Chosen use later answer) : Chosen use (parameter :: later) answer

section Single

variable {db : Zone.Database} {parameter : Option String} {fault : ConfigurationFault}

/-- What is made of a parameter comes from its word, or is the default if it says nothing. -/
theorem elim_present_eq_iff {ε β : Type} {default : β} {make : String → Except ε β}
    {answer : Except ε β} :
    (present parameter).elim (.ok default) make = answer ↔
      SaysNothing parameter ∧ .ok default = answer ∨
        ∃ word, Holds parameter word ∧ make word = answer := by
  rcases holds_cases parameter with nothing | ⟨word, held⟩
  · rw [present_eq_none_iff.2 nothing]
    constructor
    · exact fun same => .inl ⟨nothing, same⟩
    · rintro (⟨-, same⟩ | ⟨word, held, -⟩)
      · exact same
      · exact absurd held (not_holds_of_nothing nothing)
  · rw [present_eq_some_iff.2 held]
    constructor
    · exact fun same => .inr ⟨word, held, same⟩
    · rintro (⟨nothing, -⟩ | ⟨word', held', same⟩)
      · exact absurd held (not_holds_of_nothing nothing)
      · rwa [held.unique held']

theorem zoneOf_eq (db : Zone.Database) (parameter : Option String) : zoneOf db parameter =
    (present parameter).elim (.ok .utc) fun name =>
      (db.find? name).elim (.error (.unknownZone name)) .ok := by
  unfold zoneOf
  split
  · simp [*]
  · rename_i name there
    rw [there]
    cases found : db.find? name <;> simp [found]

theorem binaryFormatOf_eq (parameter : Option String) : binaryFormatOf parameter =
    (present parameter).elim (.ok .hex) fun word =>
      (BinaryFormat.ofName word).mapError .binaryFormat := by
  unfold binaryFormatOf
  split
  · simp [*]
  · rename_i word there
    rw [there]
    cases read : BinaryFormat.ofName word <;> simp [read, Except.mapError]

theorem compilePresent_eq (parameter : Option String) : compilePresent parameter =
    (present parameter).elim (.ok none) fun text =>
      ((Pattern.compile text).map some).mapError .pattern := by
  unfold compilePresent
  split
  · simp [*]
  · rename_i text there
    rw [there]
    cases compiled : Pattern.compile text <;> simp [compiled, Except.map, Except.mapError]

theorem zoneOf_eq_ok_iff {z : Zone} :
    zoneOf db parameter = .ok z ↔ ZoneSaid db parameter z := by
  rw [zoneOf_eq, elim_present_eq_iff]
  constructor
  · rintro (⟨nothing, ⟨⟩⟩ | ⟨name, held, made⟩)
    · exact .default nothing
    · cases found : db.find? name with
      | none => simp [found] at made
      | some w =>
        obtain rfl : w = z := by simpa [found] using made
        obtain ⟨known, goesBy⟩ := Zone.Database.find?_eq_some_iff.1 found
        exact .named held known goesBy
  · rintro (nothing | ⟨held, known, goesBy⟩)
    · exact .inl ⟨nothing, rfl⟩
    · exact .inr ⟨_, held, by rw [Zone.Database.find?_eq_some_iff.2 ⟨known, goesBy⟩]; rfl⟩

theorem zoneOf_eq_error_iff : zoneOf db parameter = .error fault ↔
    ∃ name, Holds parameter name ∧ (∀ z ∈ db.zones, z.name ≠ name) ∧
      fault = .unknownZone name := by
  rw [zoneOf_eq, elim_present_eq_iff]
  constructor
  · rintro (⟨-, made⟩ | ⟨name, held, made⟩)
    · nomatch made
    · cases found : db.find? name with
      | none =>
        refine ⟨name, held, Zone.Database.find?_eq_none_iff.1 found, ?_⟩
        simpa [found, eq_comm] using made
      | some w => simp [found] at made
  · rintro ⟨name, held, unknown, rfl⟩
    exact .inr ⟨name, held, by rw [Zone.Database.find?_eq_none_iff.2 unknown]; rfl⟩

theorem binaryFormatOf_eq_ok_iff {f : BinaryFormat} :
    binaryFormatOf parameter = .ok f ↔ FormatSaid parameter f := by
  rw [binaryFormatOf_eq, elim_present_eq_iff]
  constructor
  · rintro (⟨nothing, ⟨⟩⟩ | ⟨word, held, made⟩)
    · exact .default nothing
    · cases read : BinaryFormat.ofName word with
      | error e => simp [read, Except.mapError] at made
      | ok g =>
        obtain rfl : g = f := by simpa [read, Except.mapError] using made
        exact .named held (BinaryFormat.ofName_eq_ok_iff.1 read)
  · rintro (nothing | ⟨held, same⟩)
    · exact .inl ⟨nothing, rfl⟩
    · exact .inr ⟨_, held, by rw [BinaryFormat.ofName_eq_ok_iff.2 same]; rfl⟩

theorem binaryFormatOf_eq_error_iff : binaryFormatOf parameter = .error fault ↔
    ∃ word, Holds parameter word ∧
      (∀ f : BinaryFormat, sameIgnoringCase word f.name = false) ∧ fault = .binaryFormat ⟨word⟩ := by
  rw [binaryFormatOf_eq, elim_present_eq_iff]
  constructor
  · rintro (⟨-, made⟩ | ⟨word, held, made⟩)
    · nomatch made
    · cases read : BinaryFormat.ofName word with
      | error e =>
        obtain ⟨other, rfl⟩ := BinaryFormat.ofName_eq_error_iff.1 read
        refine ⟨word, held, other, ?_⟩
        simpa [read, Except.mapError, eq_comm] using made
      | ok g => simp [read, Except.mapError] at made
  · rintro ⟨word, held, other, rfl⟩
    exact .inr ⟨word, held, by rw [BinaryFormat.ofName_eq_error_iff.2 ⟨other, rfl⟩]; rfl⟩

/-- A pattern is refused if and only if one of its quotes has no partner. -/
theorem compile_eq_error_iff {text : String} {e : PatternError} :
    Pattern.compile text = .error e ↔ text.toList.count '"' % 2 = 1 ∧ e = ⟨text⟩ := by
  rw [Pattern.compile_eq_error_iff, Pattern.pieces?_eq_none_iff, and_comm]

theorem compilePresent_eq_error_iff : compilePresent parameter = .error fault ↔
    ∃ text, Holds parameter text ∧ text.toList.count '"' % 2 = 1 ∧ fault = .pattern ⟨text⟩ := by
  rw [compilePresent_eq, elim_present_eq_iff]
  constructor
  · rintro (⟨-, made⟩ | ⟨text, held, made⟩)
    · nomatch made
    · cases compiled : Pattern.compile text with
      | error e =>
        obtain ⟨odd, rfl⟩ := compile_eq_error_iff.1 compiled
        refine ⟨text, held, odd, ?_⟩
        simpa [compiled, Except.map, Except.mapError, eq_comm] using made
      | ok p => simp [compiled, Except.map, Except.mapError] at made
  · rintro ⟨text, held, odd, rfl⟩
    exact .inr ⟨text, held, by rw [compile_eq_error_iff.2 ⟨odd, rfl⟩]; rfl⟩

/-- What is compiled of a parameter goes before what later ones give. -/
theorem Chosen.cons {use : PatternUse} {later : List (Option String)} {own rest : Option Pattern}
    (compiled : compilePresent parameter = .ok own)
    (chosen : Chosen use later (Context.required use rest)) :
    Chosen use (parameter :: later) (Context.required use (own <|> rest)) := by
  rw [compilePresent_eq, elim_present_eq_iff] at compiled
  rcases compiled with ⟨nothing, ⟨⟩⟩ | ⟨text, held, made⟩
  · exact .later nothing chosen
  · cases compiled : Pattern.compile text with
    | error e => simp [compiled, Except.map, Except.mapError] at made
    | ok p =>
      obtain rfl : some p = own := by simpa [compiled, Except.map, Except.mapError] using made
      exact .first held compiled

theorem Chosen.single {use : PatternUse} {own : Option Pattern}
    (compiled : compilePresent parameter = .ok own) :
    Chosen use [parameter] (Context.required use own) := by
  have later : Chosen use [] (Context.required use none) := .missing
  have chosen := later.cons compiled
  rwa [Option.orElse_eq_orElse, Option.orElse_eq_or, Option.or_none] at chosen

theorem ZoneSaid.unique {z w : Zone} (h : ZoneSaid db parameter z)
    (h' : ZoneSaid db parameter w) : z = w :=
  Except.ok.inj ((zoneOf_eq_ok_iff.2 h).symm.trans (zoneOf_eq_ok_iff.2 h'))

theorem FormatSaid.unique {f g : BinaryFormat} (h : FormatSaid parameter f)
    (h' : FormatSaid parameter g) : f = g :=
  Except.ok.inj ((binaryFormatOf_eq_ok_iff.2 h).symm.trans (binaryFormatOf_eq_ok_iff.2 h'))

theorem Chosen.unique {use : PatternUse} {parameters : List (Option String)}
    {a b : Except ConfigurationFault Pattern} (h : Chosen use parameters a)
    (h' : Chosen use parameters b) : a = b := by
  induction h with
  | missing =>
    cases h'
    rfl
  | first held compiled =>
    cases h' with
    | first held' compiled' =>
      obtain rfl := held.unique held'
      exact congrArg Except.ok (Except.ok.inj (compiled.symm.trans compiled'))
    | later nothing _ => exact absurd held (not_holds_of_nothing nothing)
  | later nothing _ ih =>
    cases h' with
    | first held _ => exact absurd held (not_holds_of_nothing nothing)
    | later _ chosen => exact ih chosen

theorem required_inj {use : PatternUse} {a b : Option Pattern}
    (same : Context.required use a = Context.required use b) : a = b := by
  cases a <;> cases b <;> simp_all [Context.required]

end Single

/-! ## Contexts -/

namespace Parameters

/-- The parameter with the pattern of one kind of timestamp. -/
def kindPattern (p : Parameters) : TimestampKind → Option String
  | .ntz => p.ntzPattern
  | .ltz => p.ltzPattern
  | .tz => p.tzPattern

/-- The parameters that hold patterns. -/
def pattern? (p : Parameters) : Parameter → Option String
  | .timestampPattern => p.timestampPattern
  | .ntzPattern => p.ntzPattern
  | .ltzPattern => p.ltzPattern
  | .tzPattern => p.tzPattern
  | .datePattern => p.datePattern
  | .timePattern => p.timePattern
  | .timezone | .binaryFormat | .honorsZone | .resultVersion => none

end Parameters

/-- The parameters that can offend, in the order in which they are looked at. -/
def Parameter.checked : List Parameter :=
  [.timezone, .binaryFormat, .timestampPattern, .ntzPattern, .ltzPattern, .tzPattern, .datePattern,
   .timePattern]

/-- That a parameter offends, and how: it names no zone of a database or no binary format, or it
leaves a quote open. -/
inductive Offends (db : Zone.Database) (p : Parameters) :
    Parameter → ConfigurationFault → Prop where
  | timezone {name : String} (held : Holds p.timezone name)
      (unknown : ∀ z ∈ db.zones, z.name ≠ name) : Offends db p .timezone (.unknownZone name)
  | binaryFormat {word : String} (held : Holds p.binaryFormat word)
      (other : ∀ f : BinaryFormat, sameIgnoringCase word f.name = false) :
      Offends db p .binaryFormat (.binaryFormat ⟨word⟩)
  | pattern {k : Parameter} {text : String} (held : Holds (p.pattern? k) text)
      (odd : text.toList.count '"' % 2 = 1) : Offends db p k (.pattern ⟨text⟩)

/-- That parameters are good with the zones of a database, in so far as they say anything. -/
structure Acceptable (db : Zone.Database) (p : Parameters) : Prop where
  timezone : ∀ name, Holds p.timezone name → ∃ z ∈ db.zones, z.name = name
  binaryFormat : ∀ word, Holds p.binaryFormat word →
    sameIgnoringCase word "HEX" = true ∨ sameIgnoringCase word "BASE64" = true
  /-- Every quote has a partner, in the shared pattern as in all others. -/
  patterns : ∀ k text, Holds (p.pattern? k) text → text.toList.count '"' % 2 = 0

/-- That a context is the one that parameters describe. -/
structure Describes (db : Zone.Database) (p : Parameters) (cx : Context) : Prop where
  zone : ZoneSaid db p.timezone cx.zone
  binaryFormat : FormatSaid p.binaryFormat cx.binaryFormat
  honorsZone : cx.honorsZone = p.honorsZone.getD true
  /-- The current encoding comes with a result of a version above zero. -/
  encoding : cx.encoding = .current ↔ ∃ version, p.resultVersion = some version ∧ 0 < version
  /-- A pattern of a kind takes the place of the shared one. -/
  timestampPattern : ∀ kind,
    Chosen .timestamp [p.kindPattern kind, p.timestampPattern] (cx.timestampPattern kind)
  datePattern : Chosen .date [p.datePattern] cx.datePattern
  timePattern : Chosen .time [p.timePattern] cx.timePattern

section Whole

variable {db : Zone.Database} {p : Parameters} {cx : Context}

/-- What is wrong with a parameter, if it offends. -/
def fault? (db : Zone.Database) (p : Parameters) : Parameter → Option ConfigurationFault
  | .timezone => error? (zoneOf db p.timezone)
  | .binaryFormat => error? (binaryFormatOf p.binaryFormat)
  | k => error? (compilePresent (p.pattern? k))

theorem fault?_eq_some_iff {k : Parameter} {fault : ConfigurationFault} :
    fault? db p k = some fault ↔ Offends db p k fault := by
  cases k with
  | timezone =>
    rw [fault?, error?_eq_some_iff, zoneOf_eq_error_iff]
    constructor
    · rintro ⟨name, held, unknown, rfl⟩
      exact .timezone held unknown
    · rintro (⟨held, unknown⟩ | _ | ⟨held, _⟩)
      · exact ⟨_, held, unknown, rfl⟩
      · nomatch held
  | binaryFormat =>
    rw [fault?, error?_eq_some_iff, binaryFormatOf_eq_error_iff]
    constructor
    · rintro ⟨word, held, other, rfl⟩
      exact .binaryFormat held other
    · rintro (_ | ⟨held, other⟩ | ⟨held, _⟩)
      · exact ⟨_, held, other, rfl⟩
      · nomatch held
  | _ =>
    -- The others are looked at as patterns, if at all.
    simp only [fault?]
    rw [error?_eq_some_iff, compilePresent_eq_error_iff]
    constructor
    · rintro ⟨text, held, odd, rfl⟩
      exact .pattern held odd
    · rintro (_ | _ | ⟨held, odd⟩)
      exact ⟨_, held, odd, rfl⟩

theorem findSome?_cons_eq_or {α β : Type} (f : α → Option β) (a : α) (l : List α) :
    (a :: l).findSome? f = (f a).or (l.findSome? f) := by
  rw [List.findSome?_cons]
  cases f a <;> rfl

/-- A context fails to be built by the first parameter that offends. -/
theorem error?_ofParameters (db : Zone.Database) (p : Parameters) :
    error? (Context.ofParameters p db) = Parameter.checked.findSome? (fault? db p) := by
  simp only [Parameter.checked, findSome?_cons_eq_or, List.findSome?_nil]
  exact error?_bind fun zone => error?_bind fun binaryFormat => error?_bind fun shared =>
    error?_bind fun ntz => error?_bind fun ltz => error?_bind fun tz => error?_bind fun date =>
    error?_bind fun time => rfl

theorem describes_of_ofParameters (built : Context.ofParameters p db = .ok cx) :
    Describes db p cx := by
  obtain ⟨zone, zoneMade, built⟩ := eq_ok_of_bind built
  obtain ⟨binaryFormat, formatMade, built⟩ := eq_ok_of_bind built
  obtain ⟨shared, sharedMade, built⟩ := eq_ok_of_bind built
  obtain ⟨ntz, ntzMade, built⟩ := eq_ok_of_bind built
  obtain ⟨ltz, ltzMade, built⟩ := eq_ok_of_bind built
  obtain ⟨tz, tzMade, built⟩ := eq_ok_of_bind built
  obtain ⟨date, dateMade, built⟩ := eq_ok_of_bind built
  obtain ⟨time, timeMade, built⟩ := eq_ok_of_bind built
  obtain rfl := Except.ok.inj built
  have sharedChosen : Chosen .timestamp _ _ := .single sharedMade
  constructor
  case zone => exact zoneOf_eq_ok_iff.1 zoneMade
  case binaryFormat => exact binaryFormatOf_eq_ok_iff.1 formatMade
  case honorsZone => rfl
  case encoding =>
    cases p.resultVersion with
    | none => simp
    | some version => simp [ZoneEncoding.ofResultVersion]
  case timestampPattern =>
    intro kind
    cases kind with
    | ntz => exact sharedChosen.cons ntzMade
    | ltz => exact sharedChosen.cons ltzMade
    | tz => exact sharedChosen.cons tzMade
  case datePattern => exact .single dateMade
  case timePattern => exact .single timeMade

/-- Parameters describe one context. -/
theorem Describes.unique {cx' : Context} (h : Describes db p cx)
    (h' : Describes db p cx') : cx = cx' := by
  have pattern (kind : TimestampKind) := (h.timestampPattern kind).unique (h'.timestampPattern kind)
  have encoding : cx.encoding = cx'.encoding := by
    have same := h.encoding.trans h'.encoding.symm
    cases first : cx.encoding <;> cases second : cx'.encoding <;> simp_all
  have honorsZone := h.honorsZone.trans h'.honorsZone.symm
  obtain ⟨zone, honors, enc, format, ntz, ltz, tz, date, time⟩ := cx
  obtain ⟨zone', honors', enc', format', ntz', ltz', tz', date', time'⟩ := cx'
  rw [Context.mk.injEq]
  exact ⟨h.zone.unique h'.zone, honorsZone, encoding, h.binaryFormat.unique h'.binaryFormat,
    required_inj (pattern .ntz), required_inj (pattern .ltz), required_inj (pattern .tz),
    required_inj (h.datePattern.unique h'.datePattern),
    required_inj (h.timePattern.unique h'.timePattern)⟩

/-- Parameters are good if none of them offends. -/
theorem acceptable_iff :
    Acceptable db p ↔ ∀ k ∈ Parameter.checked, ∀ fault, ¬ Offends db p k fault := by
  constructor
  · intro good k _ fault offends
    cases offends with
    | timezone held unknown =>
      obtain ⟨z, known, goesBy⟩ := good.timezone _ held
      exact unknown z known goesBy
    | binaryFormat held other =>
      rcases good.binaryFormat _ held with hex | base64
      · exact Bool.noConfusion (hex.symm.trans (other .hex))
      · exact Bool.noConfusion (base64.symm.trans (other .base64))
    | pattern held odd =>
      have even := good.patterns k _ held
      omega
  · intro none
    constructor
    case timezone =>
      intro name held
      by_contra unknown
      refine none .timezone (by decide) _ (.timezone held fun z known goesBy => ?_)
      exact unknown ⟨z, known, goesBy⟩
    case binaryFormat =>
      intro word held
      by_contra other
      rw [not_or, Bool.not_eq_true, Bool.not_eq_true] at other
      refine none .binaryFormat (by decide) _ (.binaryFormat held fun f => ?_)
      cases f with
      | hex => exact other.1
      | base64 => exact other.2
    case patterns =>
      intro k text held
      have looked : k ∈ Parameter.checked := by
        cases k with
        | honorsZone => nomatch held
        | resultVersion => nomatch held
        | _ => decide
      by_contra odd
      exact none k looked _ (.pattern held (by omega))

end Whole

/-- How a context comes of parameters and the zones of a database. -/
structure ContextOf (db : Zone.Database) (p : Parameters) : Prop where
  /-- Good parameters, and no others, make a context. -/
  succeeds_iff : (∃ cx, Context.ofParameters p db = .ok cx) ↔ Acceptable db p
  /-- It is the one that they describe. -/
  built_iff : ∀ cx,
    Context.ofParameters p db = .ok cx ↔ Acceptable db p ∧ Describes db p cx
  /-- Of others, the first to offend is blamed, in a fixed order. -/
  fails_iff : ∀ fault, Context.ofParameters p db = .error fault ↔
    ∃ before k after, Parameter.checked = before ++ k :: after ∧ Offends db p k fault ∧
      ∀ j ∈ before, ∀ earlier, ¬ Offends db p j earlier

/-- **Parameters make the context that they describe**, or the first that offends is blamed. -/
theorem parameters_describe_context (db : Zone.Database) (p : Parameters) :
    ContextOf db p := by
  have fault?_eq_none_iff (k : Parameter) :
      fault? db p k = none ↔ ∀ fault, ¬ Offends db p k fault := by
    simp only [← fault?_eq_some_iff, Option.eq_none_iff_forall_ne_some]
  have succeeds_iff : (∃ cx, Context.ofParameters p db = .ok cx) ↔ Acceptable db p := by
    rw [← error?_eq_none_iff, error?_ofParameters, List.findSome?_eq_none_iff, acceptable_iff]
    simp only [fault?_eq_none_iff]
  constructor
  case succeeds_iff => exact succeeds_iff
  case built_iff =>
    intro cx
    constructor
    · intro built
      exact ⟨succeeds_iff.1 ⟨cx, built⟩, describes_of_ofParameters built⟩
    · rintro ⟨good, described⟩
      obtain ⟨cx', built⟩ := succeeds_iff.2 good
      rw [built, described.unique (describes_of_ofParameters built)]
  case fails_iff =>
    intro fault
    rw [← error?_eq_some_iff, error?_ofParameters, List.findSome?_eq_some_iff]
    simp only [fault?_eq_some_iff, fault?_eq_none_iff]

/-- A shared pattern has to be good where nothing uses it, and is blamed before a later one. -/
example : Context.ofParameters
    { timestampPattern := some " YYYY\" ", ntzPattern := some "YYYY", ltzPattern := some "YYYY",
      tzPattern := some "YYYY", timePattern := some "\"" } =
    .error (.pattern ⟨"YYYY\""⟩) := by
  decide +kernel

end Session

end QueryResult
