import Mathlib.Data.List.Nodup
import QueryResult.Stage.Basic

/-!
# Complete and incomplete stages

A field of a stage says something if it is there and is more than white space, and credentials do if
there are any. A description is complete for a provider if all fields that the provider requires say
something (`StageDescription.Complete`). Exactly then it becomes a stage, which keeps all that was
said as it was said (`Stage.Keeps`). Otherwise it is refused with the fields that are lacking, each
once and in a fixed order, whatever the order in which the provider lists them; and before all that,
the provider must be known by its name. The main statement is `create_validates`.
-/

namespace QueryResult
open QueryResult.Text

/-! ## Fields that say something -/

/-- That a text field says nothing: it is absent or holds nothing but white space. -/
def SaysNothing (field : Option String) : Prop :=
  ∀ text, field = some text → ∀ c ∈ text.toList, isBlank c = true

/-- A field that says something is taken as it stands. -/
theorem specified_eq_some_iff {field : Option String} {text : String} :
    specified field = some text ↔ field = some text ∧ ¬ SaysNothing field := by
  rw [specified, Option.filter_eq_some_iff]
  refine and_congr_right fun there => ?_
  rw [there, SaysNothing, Bool.not_eq_true', ← Bool.not_eq_true, List.isEmpty_iff, trim_eq_nil_iff]
  simp

theorem isSome_specified {field : Option String} :
    (specified field).isSome = true ↔ ¬ SaysNothing field := by
  rw [Option.isSome_iff_exists]
  constructor
  · rintro ⟨text, said⟩
    exact (specified_eq_some_iff.1 said).2
  · intro said
    cases field with
    | none => exact absurd nofun said
    | some text => exact ⟨text, specified_eq_some_iff.2 ⟨rfl, said⟩⟩

/-- The place of a field in the order in which missing ones are named. -/
def StageField.place (f : StageField) : Nat :=
  StageField.all.idxOf f

theorem StageField.place_inj {f g : StageField} (same : f.place = g.place) : f = g := by
  revert same
  cases f <;> cases g <;> decide

namespace StageDescription

variable {d : StageDescription} {type : StageType} {f : StageField}

/-- That a field of a description says nothing. -/
def Lacks (d : StageDescription) : StageField → Prop
  | .location => SaysNothing d.location
  | .credentials => ∀ cs, d.credentials = some cs → cs.entries = []
  | .region => SaysNothing d.region
  | .endpoint => SaysNothing d.endpoint
  | .account => SaysNothing d.account

/-- That a description lacks nothing that a provider requires. -/
def Complete (d : StageDescription) (type : StageType) : Prop :=
  ∀ f ∈ type.required, ¬ d.Lacks f

theorem credentials_specified_eq_some_iff {cs : Credentials} :
    d.specified.credentials = some cs ↔ d.credentials = some cs ∧ cs.entries ≠ [] := by
  simp [specified, Option.filter_eq_some_iff, Credentials.isEmpty]

/-- What is left without the blank fields is what says something. -/
theorem has_specified_iff : d.specified.has f = true ↔ ¬ d.Lacks f := by
  cases f with
  | location => exact isSome_specified
  | region => exact isSome_specified
  | endpoint => exact isSome_specified
  | account => exact isSome_specified
  | credentials =>
    show d.specified.credentials.isSome = true ↔ _
    simp only [Option.isSome_iff_exists, credentials_specified_eq_some_iff, Lacks, not_forall,
      exists_prop]

theorem mem_missing_iff : f ∈ d.missing type ↔ f ∈ type.required ∧ d.has f = false := by
  have every : f ∈ StageField.all := by cases f <;> decide
  rw [missing, List.mem_filter, Bool.and_eq_true, decide_eq_true_eq, Bool.not_eq_true']
  exact and_iff_right every

theorem mem_missing_specified_iff :
    f ∈ d.specified.missing type ↔ f ∈ type.required ∧ d.Lacks f := by
  rw [mem_missing_iff, ← Bool.not_eq_true, has_specified_iff, not_not]

theorem missing_sublist (d : StageDescription) (type : StageType) :
    (d.missing type).Sublist [.location, .credentials, .region, .endpoint, .account] :=
  List.filter_sublist

theorem missing_eq_nil_iff : d.specified.missing type = [] ↔ d.Complete type := by
  rw [List.eq_nil_iff_forall_not_mem, Complete]
  simp only [mem_missing_specified_iff, not_and]

/-- The fields that are missing are those of the provider's own list that are not there, put in the
order in which they are named. -/
theorem missing_eq_mergeSort (d : StageDescription) (type : StageType) :
    d.missing type = (type.required.filter fun f => !d.has f).mergeSort
      fun f g => decide (f.place ≤ g.place) := by
  have sorted : (d.missing type).Pairwise fun f g => decide (f.place ≤ g.place) = true :=
    List.Pairwise.sublist (d.missing_sublist type) (by decide)
  have distinct : (d.missing type).Nodup := (d.missing_sublist type).nodup (by decide)
  have listed : (type.required.filter fun f => !d.has f).Nodup :=
    List.Nodup.filter _ (by cases type <;> decide)
  have same : (d.missing type).Perm (type.required.filter fun f => !d.has f) := by
    rw [List.perm_ext_iff_of_nodup distinct listed]
    intro f
    rw [mem_missing_iff, List.mem_filter, Bool.not_eq_true']
  -- Two lists of the same fields, both in order, are equal, as no two fields have one place.
  have antisymm : ∀ f g : StageField, decide (f.place ≤ g.place) = true →
      decide (g.place ≤ f.place) = true → f = g := by
    intro f g before after
    exact StageField.place_inj
      (Nat.le_antisymm (of_decide_eq_true before) (of_decide_eq_true after))
  have trans : ∀ f g h : StageField, decide (f.place ≤ g.place) = true →
      decide (g.place ≤ h.place) = true → decide (f.place ≤ h.place) = true := by
    simp only [decide_eq_true_eq]
    exact fun f g h => Nat.le_trans
  have total : ∀ f g : StageField,
      (decide (f.place ≤ g.place) || decide (g.place ≤ f.place)) = true := by
    simp only [Bool.or_eq_true, decide_eq_true_eq]
    exact fun f g => Nat.le_total _ _
  exact List.Perm.eq_of_pairwise (fun f g _ _ => antisymm f g) sorted
    (List.pairwise_mergeSort trans total _) (same.trans (List.mergeSort_perm _ _).symm)

end StageDescription

namespace StageType

variable {name : String} {type : StageType}

/-- The names that a provider goes by. -/
inductive Spelled : String → StageType → Prop
  | s3 : Spelled "S3" .s3
  | azure : Spelled "AZURE" .azure
  | localFs : Spelled "LOCAL_FS" .localDirectory
  | localFilesystem : Spelled "LOCAL_FILESYSTEM" .localDirectory

theorem ofName?_eq_some_iff : ofName? name = some type ↔ Spelled name type := by
  constructor
  · intro known
    unfold ofName? at known
    split at known
    case isTrue spelled =>
      obtain rfl := spelled
      obtain rfl := Option.some.inj known
      exact .s3
    split at known
    case isTrue spelled =>
      obtain rfl := spelled
      obtain rfl := Option.some.inj known
      exact .azure
    split at known
    case isTrue spelled =>
      obtain rfl := Option.some.inj known
      rcases spelled with rfl | rfl
      · exact .localFs
      · exact .localFilesystem
    case isFalse => nomatch known
  · rintro (_ | _ | _ | _) <;> rfl

/-- No provider does without a location. -/
theorem location_mem_required (type : StageType) : .location ∈ type.required := by
  cases type <;> decide

end StageType

namespace Stage

variable {name : String} {d : StageDescription} {type : StageType} {stage : Stage}

/-! ## Creation -/

/-- A stage as a description. -/
def description (s : Stage) : StageDescription where
  location := some s.location
  credentials := s.credentials
  region := s.region
  endpoint := s.endpoint
  account := s.account

/-- That a stage of a provider keeps what a description says, word for word, and nothing of the
fields that say nothing. -/
structure Keeps (stage : Stage) (type : StageType) (d : StageDescription) : Prop where
  provider : stage.type = type
  location : d.location = some stage.location
  credentials : ∀ cs, stage.credentials = some cs ↔ d.credentials = some cs ∧ cs.entries ≠ []
  region : ∀ text, stage.region = some text ↔ d.region = some text ∧ ¬ SaysNothing d.region
  endpoint : ∀ text, stage.endpoint = some text ↔ d.endpoint = some text ∧ ¬ SaysNothing d.endpoint
  account : ∀ text, stage.account = some text ↔ d.account = some text ∧ ¬ SaysNothing d.account
  /-- The stage has all that its provider requires. -/
  required : ∀ f ∈ type.required, stage.description.has f = true

theorem Keeps.unique {other : Stage} (keeps : stage.Keeps type d) (keeps' : other.Keeps type d) :
    other = stage := by
  obtain ⟨type', location, credentials, region, endpoint, account⟩ := stage
  obtain ⟨type'', location', credentials', region', endpoint', account'⟩ := other
  rw [Stage.mk.injEq]
  refine ⟨keeps'.provider.trans keeps.provider.symm,
    Option.some.inj (keeps'.location.symm.trans keeps.location), ?_, ?_, ?_, ?_⟩
  · exact Option.ext fun cs => (keeps'.credentials cs).trans (keeps.credentials cs).symm
  · exact Option.ext fun text => (keeps'.region text).trans (keeps.region text).symm
  · exact Option.ext fun text => (keeps'.endpoint text).trans (keeps.endpoint text).symm
  · exact Option.ext fun text => (keeps'.account text).trans (keeps.account text).symm

theorem create_of_unknown (unknown : ∀ type, ¬ StageType.Spelled name type) :
    create name d = .error (.unknownType name) := by
  have none : StageType.ofName? name = none := by
    rw [Option.eq_none_iff_forall_ne_some]
    exact fun type known => unknown type (StageType.ofName?_eq_some_iff.1 known)
  rw [create, none]

theorem create_of_incomplete (spelled : StageType.Spelled name type)
    (incomplete : ¬ d.Complete type) :
    create name d = .error (.incomplete type (d.specified.missing type)) := by
  rw [create, StageType.ofName?_eq_some_iff.2 spelled]
  have missing := mt StageDescription.missing_eq_nil_iff.1 incomplete
  cases fields : d.specified.missing type with
  | nil => exact absurd fields missing
  | cons f rest => simp only [fields]

/-- A complete description has a location, so that nothing more stands in the way of the stage. -/
theorem create_of_complete (spelled : StageType.Spelled name type) (complete : d.Complete type) :
    ∃ stage, create name d = .ok stage ∧ stage.Keeps type d := by
  have said : d.specified.location.isSome = true :=
    StageDescription.has_specified_iff.2 (complete .location type.location_mem_required)
  obtain ⟨location, located⟩ := Option.isSome_iff_exists.1 said
  refine ⟨{ d.specified with type, location }, ?_, ?_⟩
  · rw [create, StageType.ofName?_eq_some_iff.2 spelled]
    simp only [StageDescription.missing_eq_nil_iff.2 complete, located]
  · constructor
    case provider => rfl
    case location => exact (specified_eq_some_iff.1 located).1
    case credentials => exact fun cs => StageDescription.credentials_specified_eq_some_iff
    case region => exact fun text => specified_eq_some_iff
    case endpoint => exact fun text => specified_eq_some_iff
    case account => exact fun text => specified_eq_some_iff
    case required =>
      intro f needed
      have has := StageDescription.has_specified_iff.2 (complete f needed)
      cases f with
      | location => rfl
      | credentials => exact has
      | region => exact has
      | endpoint => exact has
      | account => exact has

/-- What becomes of a description, by the name of its provider and the fields that it lacks. -/
inductive Outcome (name : String) (d : StageDescription) : Except StageError Stage → Prop
  | unknown (unknown : ∀ type, ¬ StageType.Spelled name type) :
      Outcome name d (.error (.unknownType name))
  | incomplete {type : StageType} (spelled : StageType.Spelled name type)
      (incomplete : ¬ d.Complete type) :
      Outcome name d (.error (.incomplete type (d.specified.missing type)))
  | created {type : StageType} {stage : Stage} (spelled : StageType.Spelled name type)
      (complete : d.Complete type) (keeps : stage.Keeps type d) : Outcome name d (.ok stage)

theorem outcome_create (name : String) (d : StageDescription) :
    Outcome name d (create name d) := by
  by_cases known : ∃ type, StageType.Spelled name type
  · obtain ⟨type, spelled⟩ := known
    by_cases complete : d.Complete type
    · obtain ⟨stage, created, keeps⟩ := create_of_complete spelled complete
      rw [created]
      exact .created spelled complete keeps
    · rw [create_of_incomplete spelled complete]
      exact .incomplete spelled complete
  · have unknown := not_exists.1 known
    rw [create_of_unknown unknown]
    exact .unknown unknown

/-! ## Validation -/

/-- When a description becomes a stage, and why it does not. -/
structure Validates (name : String) (d : StageDescription) : Prop where
  /-- The name must be one that a provider goes by. -/
  unknown : ∀ given, create name d = .error (.unknownType given) ↔
    given = name ∧ ∀ type, ¬ StageType.Spelled name type
  /-- Nothing may be lacking of what the provider requires. -/
  incomplete : ∀ type, (∃ missing, create name d = .error (.incomplete type missing)) ↔
    StageType.Spelled name type ∧ ∃ f ∈ type.required, d.Lacks f
  /-- All that is lacking is listed, in order and without repetition. -/
  listed : ∀ type missing, create name d = .error (.incomplete type missing) →
    missing ≠ [] ∧ missing.Sublist [.location, .credentials, .region, .endpoint, .account] ∧
      ∀ f, f ∈ missing ↔ f ∈ type.required ∧ d.Lacks f
  /-- It is what is left of the provider's own list of fields, sorted by their places. -/
  sorted : ∀ type missing, create name d = .error (.incomplete type missing) →
    missing = (type.required.filter fun f => !d.specified.has f).mergeSort
      fun f g => decide (f.place ≤ g.place)
  /-- All else becomes the stage that keeps what is said. -/
  created : ∀ stage, create name d = .ok stage ↔
    ∃ type, StageType.Spelled name type ∧ d.Complete type ∧ stage.Keeps type d

/-- **A stage is created of all that its provider requires**, and of nothing less. -/
theorem create_validates (name : String) (d : StageDescription) : Validates name d := by
  have outcome := outcome_create name d
  constructor
  case unknown =>
    intro given
    constructor
    · intro refused
      rw [refused] at outcome
      cases outcome with
      | unknown unknown => exact ⟨rfl, unknown⟩
    · rintro ⟨rfl, unknown⟩
      exact create_of_unknown unknown
  case incomplete =>
    intro type
    constructor
    · rintro ⟨missing, refused⟩
      rw [refused] at outcome
      cases outcome with
      | incomplete spelled incomplete =>
        refine ⟨spelled, ?_⟩
        simpa [StageDescription.Complete] using incomplete
    · rintro ⟨spelled, f, needed, lacks⟩
      exact ⟨_, create_of_incomplete spelled fun complete => complete f needed lacks⟩
  case listed =>
    intro type missing refused
    rw [refused] at outcome
    cases outcome with
    | incomplete spelled incomplete =>
      exact ⟨mt StageDescription.missing_eq_nil_iff.1 incomplete, d.specified.missing_sublist type,
        fun f => StageDescription.mem_missing_specified_iff⟩
  case sorted =>
    intro type missing refused
    rw [refused] at outcome
    cases outcome with
    | incomplete spelled incomplete => exact d.specified.missing_eq_mergeSort type
  case created =>
    intro stage
    constructor
    · intro created
      rw [created] at outcome
      cases outcome with
      | created spelled complete keeps => exact ⟨_, spelled, complete, keeps⟩
    · rintro ⟨type, spelled, complete, keeps⟩
      obtain ⟨other, created, keeps'⟩ := create_of_complete spelled complete
      rw [created, keeps.unique keeps']

/-- White space is not a region, and no credentials at all are none. -/
example : create "S3" { location := some "bucket", region := some " ", credentials := some .empty } =
    .error (.incomplete .s3 [.credentials, .region]) := by
  decide +kernel

end Stage
end QueryResult
