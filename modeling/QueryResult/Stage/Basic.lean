import QueryResult.Stage.Credentials
import QueryResult.Stage.Provider
import QueryResult.Text.Blank
import QueryResult.Text.Quoted

/-!
# Stages

A stage is where files lie that are loaded in bulk or have been unloaded. Its provider needs certain
fields, and a field that is blank counts as absent. A description that lacks some is refused with
all of them named.

Text that describes a stage shows the names of its credentials and never a secret.
-/

namespace QueryResult
open QueryResult.Text

/-- Why a description is no stage. -/
inductive StageError where
  | unknownType (name : String)
  | incomplete (type : StageType) (missing : List StageField)
deriving DecidableEq

namespace StageError

/-- The error in words. -/
def message : StageError → String
  | unknownType name => "invalid stage type: " ++ name
  | incomplete type missing =>
    "incomplete " ++ type.name ++ " stage: missing " ++ StageField.listing missing

/-- What would have been right. -/
def detail : StageError → String
  | unknownType _ => "Supported stage types are S3, AZURE and LOCAL_FS."
  | incomplete type _ => type.name ++ " stages require " ++ StageField.listing type.required ++ "."

end StageError

/-- The fields of a stage as the server describes it. -/
structure StageDescription where
  location : Option String := none
  credentials : Option Credentials := none
  region : Option String := none
  endpoint : Option String := none
  account : Option String := none
deriving DecidableEq

/-- A stage with all that its provider needs. -/
structure Stage where
  type : StageType
  location : String
  credentials : Option Credentials
  region : Option String
  endpoint : Option String
  account : Option String
deriving DecidableEq

/-- A field unless it is blank. -/
def specified (field : Option String) : Option String :=
  field.filter fun s => !(trim s.toList).isEmpty

namespace StageDescription

/-- The description without blank fields and empty credentials. -/
def specified (d : StageDescription) : StageDescription :=
  { location := QueryResult.specified d.location
    credentials := d.credentials.filter fun cs => !cs.isEmpty
    region := QueryResult.specified d.region
    endpoint := QueryResult.specified d.endpoint
    account := QueryResult.specified d.account }

/-- Whether a field is there. -/
def has (d : StageDescription) : StageField → Bool
  | .location => d.location.isSome
  | .credentials => d.credentials.isSome
  | .region => d.region.isSome
  | .endpoint => d.endpoint.isSome
  | .account => d.account.isSome

/-- The required fields that are not there, in the order of `StageField.all`. -/
def missing (d : StageDescription) (type : StageType) : List StageField :=
  StageField.all.filter fun f => decide (f ∈ type.required) && !d.has f

end StageDescription

namespace Stage

/-- The stage of a provider's name and a description. -/
def create (typeName : String) (description : StageDescription) : Except StageError Stage :=
  match StageType.ofName? typeName with
  | none => .error (.unknownType typeName)
  | some type =>
    let d := description.specified
    match d.missing type, d.location with
    | [], some location =>
      .ok {
        type, location
        credentials := d.credentials
        region := d.region
        endpoint := d.endpoint
        account := d.account }
    | missing, _ => .error (.incomplete type missing)

/-- The stage with other credentials, which are not checked. -/
def rotate (s : Stage) (credentials : Credentials) : Stage :=
  { s with credentials := some credentials }

/-- An optional part of a description as text. -/
def optional (part : Option String) : String :=
  match part with
  | none => "None"
  | some text => "Some(" ++ text ++ ")"

/-- A stage described without its secrets. -/
def describe (s : Stage) : String :=
  "StageDescriptor \x7b stage_type: " ++ s.type.key ++
    ", location: " ++ quoted s.location ++
    ", credentials: " ++ optional (s.credentials.map fun cs => quotedList cs.names) ++
    ", region: " ++ optional (s.region.map quoted) ++
    ", endpoint: " ++ optional (s.endpoint.map quoted) ++
    ", account: " ++ optional (s.account.map quoted) ++ " \x7d"

end Stage
end QueryResult
