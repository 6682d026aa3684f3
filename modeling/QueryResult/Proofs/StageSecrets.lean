import Mathlib.Data.List.Forall2
import QueryResult.Stage.Basic

/-!
# Secrets of a stage

Of its credentials a stage shows the names. Two descriptions that differ in nothing but secrets
(`SameButSecrets`) are refused alike, in the same words, or become stages that differ in nothing but
secrets; so do stages to which credentials with the same names are given (`SameButSecrets.rotate`).
What a stage shows without being asked for its credentials (`Stage.view`) does not depend on them, so
that the two cannot be told apart however often their credentials are replaced. The main statement is
`secrets_never_show`.
-/

namespace QueryResult

/-- That two sets of credentials have the same names; the secrets may differ. -/
def Credentials.SameNames (a b : Credentials) : Prop :=
  a.names = b.names

/-! ## Descriptions -/

namespace StageDescription

/-- That two descriptions differ in the secrets of their credentials at most. -/
structure SameButSecrets (d e : StageDescription) : Prop where
  location : d.location = e.location
  names : d.credentials.map Credentials.names = e.credentials.map Credentials.names
  region : d.region = e.region
  endpoint : d.endpoint = e.endpoint
  account : d.account = e.account

/-- Whether credentials are empty is told by their names. -/
theorem map_names_filter (credentials : Option Credentials) :
    (credentials.filter fun cs => !cs.isEmpty).map Credentials.names =
      (credentials.map Credentials.names).filter fun ns => !ns.isEmpty := by
  cases credentials with
  | none => rfl
  | some cs =>
    rw [Option.map_some, Option.filter_some, Option.filter_some, Credentials.isEmpty_names]
    split <;> rfl

namespace SameButSecrets

variable {d e : StageDescription} (same : d.SameButSecrets e)
include same

theorem specified : d.specified.SameButSecrets e.specified where
  location := congrArg QueryResult.specified same.location
  names := by
    show (d.credentials.filter _).map _ = (e.credentials.filter _).map _
    rw [map_names_filter, map_names_filter, same.names]
  region := congrArg QueryResult.specified same.region
  endpoint := congrArg QueryResult.specified same.endpoint
  account := congrArg QueryResult.specified same.account

theorem has (f : StageField) : d.has f = e.has f := by
  cases f with
  | location => exact congrArg Option.isSome same.location
  | credentials => simpa [StageDescription.has] using congrArg Option.isSome same.names
  | region => exact congrArg Option.isSome same.region
  | endpoint => exact congrArg Option.isSome same.endpoint
  | account => exact congrArg Option.isSome same.account

theorem missing (type : StageType) : d.missing type = e.missing type := by
  simp only [StageDescription.missing, same.has]

end SameButSecrets

end StageDescription

namespace Stage

/-! ## Stages -/

/-- That two stages differ in the secrets of their credentials at most. -/
structure SameButSecrets (s t : Stage) : Prop where
  type : s.type = t.type
  location : s.location = t.location
  names : s.credentials.map Credentials.names = t.credentials.map Credentials.names
  region : s.region = t.region
  endpoint : s.endpoint = t.endpoint
  account : s.account = t.account

/-- That two attempts to create a stage come to the same but for secrets. -/
inductive SameOutcome : Except StageError Stage → Except StageError Stage → Prop
  | refused (e : StageError) : SameOutcome (.error e) (.error e)
  | created {s t : Stage} (same : s.SameButSecrets t) : SameOutcome (.ok s) (.ok t)

theorem sameOutcome_create (name : String) {d e : StageDescription} (same : d.SameButSecrets e) :
    SameOutcome (create name d) (create name e) := by
  unfold create
  cases StageType.ofName? name with
  | none => exact .refused _
  | some type =>
    have said := same.specified
    simp only [said.missing type, said.location]
    split
    · exact .created ⟨rfl, rfl, said.names, said.region, said.endpoint, said.account⟩
    · exact .refused _

/-- All that a stage shows without being asked for its credentials. -/
structure View where
  type : StageType
  location : String
  region : Option String
  endpoint : Option String
  account : Option String
  required : List StageField
  /-- The stage described in a log line. -/
  text : String
deriving DecidableEq

/-- What a stage shows. -/
def view (s : Stage) : View where
  type := s.type
  location := s.location
  region := s.region
  endpoint := s.endpoint
  account := s.account
  required := s.type.required
  text := s.describe

/-- The stages that are there from the beginning and after each replacement of the credentials. -/
def history (s : Stage) : List Credentials → List Stage
  | [] => [s]
  | cs :: rest => s :: (s.rotate cs).history rest

namespace SameButSecrets

variable {s t : Stage} (same : s.SameButSecrets t)
include same

theorem describe : s.describe = t.describe := by
  have credentials : (s.credentials.map fun cs => Text.quotedList cs.names) =
      t.credentials.map fun cs => Text.quotedList cs.names := by
    have listed := congrArg (Option.map Text.quotedList) same.names
    rw [Option.map_map, Option.map_map] at listed
    exact listed
  unfold Stage.describe
  rw [same.type, same.location, credentials, same.region, same.endpoint, same.account]

theorem view : s.view = t.view := by
  rw [Stage.view, Stage.view, same.type, same.location, same.region, same.endpoint, same.account,
    same.describe]

/-- New credentials with the same names keep the difference to secrets. -/
theorem rotate {a b : Credentials} (names : a.SameNames b) :
    (s.rotate a).SameButSecrets (t.rotate b) where
  type := same.type
  location := same.location
  names := congrArg some names
  region := same.region
  endpoint := same.endpoint
  account := same.account

end SameButSecrets

/-- The stages of two histories in which credentials with the same names are given show the same. -/
theorem map_view_history {s t : Stage} {given given' : List Credentials}
    (same : s.SameButSecrets t) (names : List.Forall₂ Credentials.SameNames given given') :
    (s.history given).map view = (t.history given').map view := by
  induction names generalizing s t with
  | nil => rw [history, history, List.map_singleton, List.map_singleton, same.view]
  | cons first _ ih =>
    rw [history, history, List.map_cons, List.map_cons, same.view, ih (same.rotate first)]

/-! ## Replacing credentials -/

/-- After some replacements a stage is the one that was created, but for the last credentials that
were given. -/
theorem getElem?_history (s : Stage) {given : List Credentials} {n : Nat}
    (within : n ≤ given.length) : (s.history given)[n]? =
      some { s with credentials := (given.take n).getLast?.or s.credentials } := by
  induction given generalizing s n with
  | nil =>
    obtain rfl : n = 0 := by simpa using within
    rfl
  | cons cs rest ih =>
    cases n with
    | zero => rfl
    | succ n =>
      have last : ((cs :: rest).take (n + 1)).getLast?.or s.credentials =
          (rest.take n).getLast?.or (some cs) := by
        rw [List.take_succ_cons, List.getLast?_cons]
        cases (rest.take n).getLast? <;> rfl
      rw [history, List.getElem?_cons_succ, ih (s.rotate cs) (Nat.le_of_succ_le_succ within), last]
      rfl

theorem length_history (s : Stage) (given : List Credentials) :
    (s.history given).length = given.length + 1 := by
  induction given generalizing s with
  | nil => rfl
  | cons cs rest ih => rw [history, List.length_cons, ih, List.length_cons]

/-- That only the credentials of a stage change, to those that are given. -/
structure RotatesOnly (s : Stage) (given : List Credentials) : Prop where
  length : (s.history given).length = given.length + 1
  /-- All but the credentials stays what it was at first. -/
  fixed : ∀ u ∈ s.history given, { u with credentials := s.credentials } = s
  created : (s.history given)[0]? = some s
  /-- After each replacement the credentials are those that were given last. -/
  last : ∀ (n : Nat) u, (s.history given)[n + 1]? = some u →
    ∃ cs, given[n]? = some cs ∧ u.credentials = some cs

theorem rotatesOnly (s : Stage) (given : List Credentials) : s.RotatesOnly given := by
  have within : ∀ {n : Nat} {u : Stage}, (s.history given)[n]? = some u → n ≤ given.length := by
    intro n u found
    have := (List.getElem?_eq_some_iff.1 found).1
    rw [length_history] at this
    omega
  constructor
  case length => exact s.length_history given
  case fixed =>
    intro u mem
    obtain ⟨n, found⟩ := List.mem_iff_getElem?.1 mem
    rw [getElem?_history s (within found)] at found
    obtain rfl := Option.some.inj found
    rfl
  case created => exact getElem?_history s (Nat.zero_le _)
  case last =>
    intro n u found
    have below : n < given.length := within found
    rw [getElem?_history s (within found)] at found
    obtain rfl := Option.some.inj found
    have given_last : (given.take (n + 1)).getLast? = some given[n] := by
      rw [← List.take_append_getElem below, List.getLast?_concat]
    refine ⟨given[n], List.getElem?_eq_getElem below, ?_⟩
    simp only [given_last, Option.some_or]

/-! ## Two runs -/

/-- That two runs in which a stage is described and its credentials are replaced cannot be told
apart without asking for the credentials. -/
structure SecretsHidden (name : String) (d e : StageDescription) (given given' : List Credentials) :
    Prop where
  /-- Both are refused alike, or neither is. -/
  refused : ∀ x, create name d = .error x ↔ create name e = .error x
  /-- The words of the refusal are the same too. -/
  words : ∀ x y, create name d = .error x → create name e = .error y →
    x.message = y.message ∧ x.detail = y.detail
  /-- At the beginning and after each replacement, the stages show the same. -/
  views : ∀ s t, create name d = .ok s → create name e = .ok t →
    (s.history given).map view = (t.history given').map view
  /-- In either run nothing but the credentials changes, and they are those that were given. -/
  rotates : ∀ s, create name d = .ok s → s.RotatesOnly given
  rotates' : ∀ t, create name e = .ok t → t.RotatesOnly given'

/-- **Secrets never show** in what becomes of a description, nor in what a stage shows later. -/
theorem secrets_never_show (name : String) {d e : StageDescription} (same : d.SameButSecrets e)
    {given given' : List Credentials} (names : List.Forall₂ Credentials.SameNames given given') :
    SecretsHidden name d e given given' := by
  have outcome := sameOutcome_create name same
  constructor
  case refused =>
    intro x
    cases first : create name d <;> cases second : create name e <;>
      rw [first, second] at outcome <;> cases outcome <;> simp
  case words =>
    intro x y first second
    rw [first, second] at outcome
    cases outcome with
    | refused => exact ⟨rfl, rfl⟩
  case views =>
    intro s t first second
    rw [first, second] at outcome
    cases outcome with
    | created same => exact map_view_history same names
  case rotates => exact fun s _ => s.rotatesOnly given
  case rotates' => exact fun t _ => t.rotatesOnly given'

/-- The description of a bucket, with a key whose secret is left open. -/
def bucket (secret : String) : StageDescription where
  location := some "bucket"
  credentials := some (.ofList [("AWS_KEY_ID", secret)])
  region := some "us-west-2"

/-- Two keys of a bucket, each replaced by a token of its own. -/
theorem secrets_never_show_bucket :
    bucket "key" ≠ bucket "other" ∧
      create "S3" (bucket "key") = .ok ⟨.s3, "bucket", some (.ofList [("AWS_KEY_ID", "key")]),
        some "us-west-2", none, none⟩ ∧
      (bucket "key").SameButSecrets (bucket "other") ∧
      SecretsHidden "S3" (bucket "key") (bucket "other") [.ofList [("AWS_TOKEN", "secret")]]
        [.ofList [("AWS_TOKEN", "hidden")]] := by
  have same : (bucket "key").SameButSecrets (bucket "other") :=
    ⟨rfl, by decide +kernel, rfl, rfl, rfl⟩
  have names : Credentials.SameNames (.ofList [("AWS_TOKEN", "secret")])
      (.ofList [("AWS_TOKEN", "hidden")]) := by
    unfold Credentials.SameNames
    decide +kernel
  exact ⟨by decide +kernel, by decide +kernel, same,
    secrets_never_show "S3" same (.cons names .nil)⟩

end Stage
end QueryResult
