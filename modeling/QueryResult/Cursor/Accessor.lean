import QueryResult.Value.Decode

/-!
# Accessors

An accessor is a way to ask for a column: as it stands, as one type, in a zone, at a scale, or in a
representation named by the caller. `read` answers for a token and `ofNull` for a null, which
reads as zero or false where the answer is a plain number or boolean and as nothing elsewhere. Only
a representation that no column is read in has no answer for a null either.
-/

namespace QueryResult.Cursor
open QueryResult.Calendar QueryResult.Number QueryResult.Session

/-- A way to ask for a column. -/
inductive Accessor where
  /-- The token as it stands. -/
  | raw
  | string | boolean | short | int | long | float | double | decimal
  | decimalAt (places : Nat)
  | bytes
  | date
  /-- The instant at which the date begins in a zone. -/
  | dateIn (zone : Zone)
  | time
  /-- The time of day with its scale. -/
  | timeValue
  | instant
  | instantIn (zone : Zone)
  /-- The timestamp as it was sent. -/
  | timestamp
  | object
  | representation (as : Representation)
deriving DecidableEq

namespace Accessor

/-- The answer for a token. -/
def read (a : Accessor) (token : String) (type : ColumnType) (cx : Context) :
    Except ReadError Reading :=
  match a with
  | raw => .ok (.value (.text token))
  | string => (Value.readText token type cx).map fun s => .value (.text s)
  | boolean => (Value.readBoolean token type).map fun b => .value (.bool b)
  | short => (Value.readShort token type).map fun n => .value (.short n)
  | int => (Value.readInt token type).map fun n => .value (.int n)
  | long => (Value.readLong token type).map fun n => .value (.long n)
  | float => (Value.readFloat token type).map fun x => .value (.float x)
  | double => (Value.readDouble token type).map fun x => .value (.double x)
  | decimal => (Value.readDecimal token type).map fun d => .value (.decimal d)
  | decimalAt places => (Value.readDecimalAt places token type).map fun d => .value (.decimal d)
  | bytes => (Value.readBytes token type).map fun bs => .value (.bytes bs)
  | date => (Value.readDate token type cx).map fun d => .value (.date d)
  | dateIn zone => (Value.readDateIn zone token type cx).map .zoned
  | time => (Value.readTime token type cx).map fun t => .value (.time t)
  | timeValue => (Value.readTimeValue token type).map .timeValue
  | instant => (Value.readInstant token type cx).map fun i => .value (.instant i)
  | instantIn zone => (Value.readInstantIn zone token type cx).map fun i => .value (.instant i)
  | timestamp => (Value.readTimestamp token type cx).map .timestamp
  | object => (Value.readObject token type cx).map .value
  | representation as => (Value.readAs as token type cx).map .value

/-- The answer for a null. -/
def ofNull : Accessor → Except ReadError Reading
  | boolean => .ok (.value (.bool false))
  | short => .ok (.value (.short 0))
  | int => .ok (.value (.int 0))
  | long => .ok (.value (.long 0))
  | float => .ok (.value (.float .zero))
  | double => .ok (.value (.double .zero))
  | representation as => if as.isSupported then .ok .absent else .error (.unsupported (.reading as))
  | _ => .ok .absent

/-- The answer for the token of a column, if it has one. -/
def readSlot (a : Accessor) (token : Option String) (type : ColumnType) (cx : Context) :
    Except ReadError Reading :=
  match token with
  | none => a.ofNull
  | some token => a.read token type cx

end Accessor
end QueryResult.Cursor
