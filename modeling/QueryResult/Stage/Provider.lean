import QueryResult.Json.Record

/-!
# Providers of stages

Files are loaded in bulk from a bucket, a container or a local directory, and unloaded to one. Each
of the three providers has a name that the server uses, a name in metadata, and fields that a stage
of it cannot do without.
-/

namespace QueryResult

/-- The provider of a stage. -/
inductive StageType where
  | s3 | azure | localDirectory
deriving DecidableEq

/-- A field of a stage. -/
inductive StageField where
  | location | credentials | region | endpoint | account
deriving DecidableEq

namespace StageField

/-- The field in messages. -/
def name : StageField → String
  | location => "location"
  | credentials => "credentials"
  | region => "region"
  | endpoint => "endpoint"
  | account => "account"

/-- Every field, in the order in which missing ones are named. -/
def all : List StageField := [location, credentials, region, endpoint, account]

/-- Fields with commas between them. -/
def listing (fields : List StageField) : String :=
  String.intercalate ", " (fields.map name)

end StageField

namespace StageType

/-- The name of a provider in messages. -/
def name : StageType → String
  | s3 => "S3"
  | azure => "AZURE"
  | localDirectory => "LOCAL_FS"

/-- The provider of a name that the server uses. -/
def ofName? (name : String) : Option StageType :=
  if name = "S3" then some s3
  else if name = "AZURE" then some azure
  else if name = "LOCAL_FS" ∨ name = "LOCAL_FILESYSTEM" then some localDirectory
  else none

/-- The name of a provider in metadata and in the description of a stage. -/
def key : StageType → String
  | s3 => "S3"
  | azure => "Azure"
  | localDirectory => "LocalFs"

/-- Reads a provider. -/
def ofJson? (v : Json) : Option StageType :=
  (Json.choice? v).bind fun name => [s3, azure, localDirectory].find? fun t => t.key == name

/-- Writes a provider. -/
def toJson (t : StageType) : Json := .text t.key

/-- The fields that a stage of a provider cannot do without. -/
def required : StageType → List StageField
  | s3 => [.location, .region, .credentials]
  | azure => [.location, .endpoint, .account, .credentials]
  | localDirectory => [.location]

end StageType

end QueryResult
