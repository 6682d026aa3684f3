import QueryResult.Json.Reader
import QueryResult.Number.Integer
import QueryResult.Text.Ascii
import QueryResult.Text.Blank

/-!
# Session parameters

The server sends the settings of a session beside a result, as a JSON object of parameters by name
or as an array of them in the order of `Parameter.all`. A parameter may be `null`, and parameters of
unknown names are ignored, but a known one may stand only once.

Patterns and names are strings. The boolean and the integer parameter may also be sent as strings,
in any case and with white space around; a blank string means that the parameter is absent. Such a
string that spells neither is named by the error as it was sent.

Parameters are taken in the order of the text, so that of two faults the first one is reported, be
it in a parameter or in the JSON itself.
-/

namespace QueryResult.Session
open QueryResult.Json QueryResult.Number QueryResult.Text

/-- A parameter that governs decoding. -/
inductive Parameter where
  | timezone
  /-- The pattern of all kinds of timestamp that have none of their own. -/
  | timestampPattern
  | ntzPattern | ltzPattern | tzPattern
  | datePattern | timePattern
  | binaryFormat
  /-- Whether timestamps without a zone are placed in the zone of the client. -/
  | honorsZone
  /-- The version of the result, which tells how zones are encoded. -/
  | resultVersion
deriving DecidableEq

namespace Parameter

/-- The name that the server uses. -/
def name : Parameter → String
  | timezone => "TIMEZONE"
  | timestampPattern => "TIMESTAMP_OUTPUT_FORMAT"
  | ntzPattern => "TIMESTAMP_NTZ_OUTPUT_FORMAT"
  | ltzPattern => "TIMESTAMP_LTZ_OUTPUT_FORMAT"
  | tzPattern => "TIMESTAMP_TZ_OUTPUT_FORMAT"
  | datePattern => "DATE_OUTPUT_FORMAT"
  | timePattern => "TIME_OUTPUT_FORMAT"
  | binaryFormat => "BINARY_OUTPUT_FORMAT"
  | honorsZone => "CLIENT_HONOR_CLIENT_TZ_FOR_TIMESTAMP_NTZ"
  | resultVersion => "RESULT_VERSION"

/-- The parameters in the order of the array form. -/
def all : List Parameter :=
  [timezone, timestampPattern, ntzPattern, ltzPattern, tzPattern, datePattern, timePattern,
   binaryFormat, honorsZone, resultVersion]

/-- The parameter of a name. -/
def find? (name : String) : Option Parameter :=
  all.find? fun p => p.name == name

theorem find?_name (p : Parameter) : find? p.name = some p := by
  cases p <;> decide

end Parameter

/-- The parameters of a session, as they were sent. -/
structure Parameters where
  timezone : Option String := none
  timestampPattern : Option String := none
  ntzPattern : Option String := none
  ltzPattern : Option String := none
  tzPattern : Option String := none
  datePattern : Option String := none
  timePattern : Option String := none
  binaryFormat : Option String := none
  honorsZone : Option Bool := none
  resultVersion : Option Int := none
deriving DecidableEq

/-- Why parameters cannot be read. -/
inductive ParametersError where
  /-- The text is no JSON, or a parameter is of a wrong type, repeated or one too many. -/
  | malformed
  /-- A string spells no value of its parameter. -/
  | badValue (sent : String)
deriving DecidableEq

/-- The words of a reader of JSON on a text that it cannot take, which are its own: what it says of
one that is malformed, if that is told, and what it makes of the message with which a value is
refused, such as the message with the place in the text behind it. -/
structure Wording where
  malformed : Option String := none
  refused : String → String := id

/-- The error in words, with those of the reader of JSON. -/
def ParametersError.message (e : ParametersError) (w : Wording := {}) : String :=
  match e with
  | malformed =>
    match w.malformed with
    | none => "invalid session parameters"
    | some words => "invalid session parameters: " ++ words
  | badValue sent =>
    "invalid session parameters: " ++ w.refused ("invalid parameter value: " ++ sent)

/-- A string parameter. -/
def readText : Json → Except ParametersError (Option String)
  | .null => .ok none
  | .text s => .ok (some s)
  | _ => .error .malformed

/-- A parameter of a type of its own, by what makes such a value of JSON and of text. Text is taken
in small letters and without the white space around it. -/
def readLenient {α : Type} (native : Json → Option α) (ofText : List Char → Option α) :
    Json → Except ParametersError (Option α)
  | .null => .ok none
  | .text s =>
    let word := trim s.toList
    if word.isEmpty then .ok none
    else
      match ofText (lowerAscii word) with
      | some a => .ok (some a)
      | none => .error (.badValue s)
  | v =>
    match native v with
    | some a => .ok (some a)
    | none => .error .malformed

/-- The truth value that a word spells. -/
def boolOfText? (cs : List Char) : Option Bool :=
  if cs = ['t', 'r', 'u', 'e'] then some true
  else if cs = ['f', 'a', 'l', 's', 'e'] then some false
  else none

/-- The integer of 64 bits that a number spells. -/
def longOfJson? (v : Json) : Option Int :=
  v.strictInt?.filter fun n => decide (FitsSigned 64 n)

namespace Parameters

/-- The parameters with one of them read from JSON. -/
def set (p : Parameters) (k : Parameter) (v : Json) : Except ParametersError Parameters :=
  match k with
  | .timezone => return { p with timezone := ← readText v }
  | .timestampPattern => return { p with timestampPattern := ← readText v }
  | .ntzPattern => return { p with ntzPattern := ← readText v }
  | .ltzPattern => return { p with ltzPattern := ← readText v }
  | .tzPattern => return { p with tzPattern := ← readText v }
  | .datePattern => return { p with datePattern := ← readText v }
  | .timePattern => return { p with timePattern := ← readText v }
  | .binaryFormat => return { p with binaryFormat := ← readText v }
  | .honorsZone => return { p with honorsZone := ← readLenient Json.bool? boolOfText? v }
  | .resultVersion =>
    return { p with resultVersion := ← readLenient longOfJson? (integerOfWidth? 64) v }

/-- Reads members one after the other; `seen` are the parameters that have been read. -/
def addMembers (p : Parameters) (seen : List Parameter) :
    List (String × Json) → Except ParametersError Parameters
  | [] => .ok p
  | (name, v) :: rest =>
    match Parameter.find? name with
    | none => addMembers p seen rest
    | some k =>
      if k ∈ seen then .error .malformed
      else do
        let p ← p.set k v
        addMembers p (k :: seen) rest

/-- Reads elements one after the other, each as the parameter in its place. -/
def addElements (p : Parameters) :
    List Parameter → List Json → Except ParametersError Parameters
  | _, [] => .ok p
  | [], _ :: _ => .error .malformed
  | k :: ks, v :: vs => do
    let p ← p.set k v
    addElements p ks vs

/-- Fails unless the text was complete. -/
def ifComplete (complete : Bool) (p : Parameters) : Except ParametersError Parameters :=
  if complete then .ok p else .error .malformed

/-- The parameters of the outermost level of a text. -/
def ofOutline : Outline → Except ParametersError Parameters
  | .object ms complete => do ifComplete complete (← addMembers {} [] ms)
  | .array es complete => do ifComplete complete (← addElements {} Parameter.all es)
  | .scalar _ | .malformed => .error .malformed

/-- The parameters of a JSON text. -/
def ofJson (text : String) : Except ParametersError Parameters :=
  ofOutline (outline text.toList)

end Parameters
end QueryResult.Session
