import QueryResult.Proofs.Base64
import QueryResult.Value.Decode

/-!
# Bytes and what is shown of them

Bytes travel as pairs of hexadecimal digits, and a session may show them as they came. That is the
same as to read the bytes and to write them anew (`readText_hexText`), since what is written is read
back (`parseHex?_hexText`). A token that came from elsewhere may have capital letters, which reading
and writing makes small (`hexText_of_parseHex?`); a token that is no pairs of digits is refused
wherever its bytes are needed. The main statement is `binary_views_agree`.
-/

namespace QueryResult
open QueryResult.Text QueryResult.Session

namespace Text

/-- A digit of base sixteen, of either case. -/
def IsHexDigit (c : Char) : Prop :=
  c.isDigit = true ∨ ('a' ≤ c ∧ c ≤ 'f') ∨ ('A' ≤ c ∧ c ≤ 'F')

theorem exists_hexValue?_iff {c : Char} : (∃ v, hexValue? c = some v) ↔ IsHexDigit c := by
  unfold hexValue? IsHexDigit
  split
  · simp [*]
  · split
    · simp [*]
    · split <;> simp [*]

theorem IsHexDigit.toNat_lt {c : Char} (h : IsHexDigit c) : c.toNat < 128 := by
  have below : ∀ {d : Char}, c ≤ d → c.toNat ≤ d.toNat := fun le =>
    UInt32.le_iff_toNat_le.1 (Char.le_def.1 le)
  rcases h with digit | ⟨-, small⟩ | ⟨-, capital⟩
  · exact Nat.lt_of_le_of_lt (Char.isDigit_iff_toNat.1 digit).2 (by decide)
  · exact Nat.lt_of_le_of_lt (below small) (by decide)
  · exact Nat.lt_of_le_of_lt (below capital) (by decide)

/-- The digit of a value is the one that was read, with a small letter. -/
theorem hexDigit_of_hexValue? {c : Char} {v : Nat} (h : hexValue? c = some v) :
    v < 16 ∧ hexDigit v = c.toLower := by
  have digits : ∀ n < 128, ∀ v ∈ hexValue? (Char.ofNat n),
      v < 16 ∧ hexDigit v = (Char.ofNat n).toLower := by
    decide +kernel
  have found := digits c.toNat (exists_hexValue?_iff.1 ⟨v, h⟩).toNat_lt v
  rw [Char.ofNat_toNat] at found
  exact found h

end Text

namespace Binary

variable {cs : List Char} {bytes : List UInt8}

/-! ## Pairs of digits -/

/-- A text of pairs of hexadecimal digits. -/
def HexPairs (cs : List Char) : Prop :=
  cs.length % 2 = 0 ∧ ∀ c ∈ cs, IsHexDigit c

theorem parseHex?_hexText (bytes : List UInt8) : parseHex? (hexText bytes) = some bytes := by
  induction bytes with
  | nil => rfl
  | cons b bytes ih =>
    have low := b.toNat_lt
    have high : hexValue? (hexDigit (b.toNat / 16)) = some (b.toNat / 16) :=
      hexValue?_hexDigit (by omega)
    have last : hexValue? (hexDigit (b.toNat % 16)) = some (b.toNat % 16) :=
      hexValue?_hexDigit (by omega)
    have whole : UInt8.ofNat (16 * (b.toNat / 16) + b.toNat % 16) = b := by
      rw [Nat.div_add_mod, UInt8.ofNat_toNat]
    show parseHex? (hexDigit (b.toNat / 16) :: hexDigit (b.toNat % 16) :: hexText bytes) = _
    simp only [parseHex?, high, last, ih, Option.bind_eq_bind, Option.bind_some, Option.pure_def,
      whole]

/-- What is read is written again with small letters. -/
theorem hexText_of_parseHex? (h : parseHex? cs = some bytes) : hexText bytes = lowerAscii cs := by
  fun_induction parseHex? cs generalizing bytes with
  | case1 =>
    obtain rfl := Option.some.inj h
    rfl
  | case2 => nomatch h
  | case3 a b rest ih =>
    simp only [Option.bind_eq_bind, Option.bind_eq_some_iff, Option.pure_def, Option.some.injEq] at h
    obtain ⟨high, first, low, second, bytes, read, rfl⟩ := h
    obtain ⟨high_lt, digit⟩ := hexDigit_of_hexValue? first
    obtain ⟨low_lt, digit'⟩ := hexDigit_of_hexValue? second
    have front : (UInt8.ofNat (16 * high + low)).toNat / 16 = high := by
      rw [UInt8.toNat_ofNat']
      omega
    have back : (UInt8.ofNat (16 * high + low)).toNat % 16 = low := by
      rw [UInt8.toNat_ofNat']
      omega
    show hexDigit _ :: hexDigit _ :: hexText bytes = a.toLower :: b.toLower :: lowerAscii rest
    rw [front, back, digit, digit', ih read]

/-- The texts that are read are those of pairs of digits. -/
theorem exists_parseHex?_iff : (∃ bytes, parseHex? cs = some bytes) ↔ HexPairs cs := by
  fun_induction parseHex? cs with
  | case1 => simp [HexPairs]
  | case2 => simp [HexPairs]
  | case3 a b rest ih =>
    have even : HexPairs (a :: b :: rest) ↔ IsHexDigit a ∧ IsHexDigit b ∧ HexPairs rest := by
      have length : (a :: b :: rest).length % 2 = rest.length % 2 := Nat.add_mod_right _ 2
      unfold HexPairs
      rw [length, List.forall_mem_cons, List.forall_mem_cons]
      tauto
    rw [even, ← ih, ← exists_hexValue?_iff, ← exists_hexValue?_iff]
    simp only [Option.bind_eq_bind, Option.bind_eq_some_iff, Option.pure_def, Option.some.injEq]
    constructor
    · rintro ⟨_, high, first, low, second, bytes, read, -⟩
      exact ⟨⟨high, first⟩, ⟨low, second⟩, bytes, read⟩
    · rintro ⟨⟨high, first⟩, ⟨low, second⟩, bytes, read⟩
      exact ⟨_, high, first, low, second, bytes, read, rfl⟩

theorem decode_eq_ok_iff {token : String} :
    decode token = .ok bytes ↔ parseHex? token.toList = some bytes := by
  unfold decode
  split <;> rename_i read <;> simp [read]

theorem decode_eq_error_iff {token : String} {e : DecodeError} :
    decode token = .error e ↔ e = ⟨.binary, token⟩ ∧ ¬ HexPairs token.toList := by
  rw [← exists_parseHex?_iff]
  unfold decode
  split <;> rename_i read <;> simp [read, eq_comm]

end Binary

/-- In either format bytes are told by what is shown of them. -/
theorem BinaryFormat.encode_inj {f : BinaryFormat} {bytes other : List UInt8}
    (h : f.encode bytes = f.encode other) : bytes = other := by
  have texts := String.ofList_injective h
  cases f with
  | hex =>
    have read := Binary.parseHex?_hexText bytes
    rw [show Binary.hexText bytes = Binary.hexText other from texts,
      Binary.parseHex?_hexText] at read
    exact (Option.some.inj read).symm
  | base64 =>
    have read := Binary.readBase64?_base64Text bytes
    rw [show Binary.base64Text bytes = Binary.base64Text other from texts,
      Binary.readBase64?_base64Text] at read
    exact (Option.some.inj read).symm

namespace Value

variable {token : String} {type : ColumnType} {cx : Context} {bytes : List UInt8}

/-! ## Columns of bytes -/

theorem readBytes_binary (binary : type.scalarType = .binary) (token : String) :
    readBytes token type = decoded (Binary.decode token) := by
  rw [readBytes, binary]

theorem readBytes_string (string : type.scalarType = .string) (token : String) :
    readBytes token type = decoded (Binary.decode token) := by
  rw [readBytes, string]

theorem readBytes_eq_ok_iff (binary : type.scalarType = .binary) :
    readBytes token type = .ok bytes ↔ Binary.parseHex? token.toList = some bytes := by
  rw [readBytes_binary binary, ← Binary.decode_eq_ok_iff]
  cases Binary.decode token <;> simp [decoded]

theorem readBytes_eq_error_iff (binary : type.scalarType = .binary) {e : ReadError} :
    readBytes token type = .error e ↔
      e = .decoding none ⟨.binary, token⟩ ∧ ¬ Binary.HexPairs token.toList := by
  rw [readBytes_binary binary]
  cases decode : Binary.decode token with
  | error cause =>
    obtain ⟨rfl, unpaired⟩ := Binary.decode_eq_error_iff.1 decode
    simp [decoded, unpaired, eq_comm]
  | ok read =>
    have pairs := Binary.exists_parseHex?_iff.1 ⟨read, Binary.decode_eq_ok_iff.1 decode⟩
    simp [decoded, pairs]

theorem readBytes_hex (binary : type.scalarType = .binary) (bytes : List UInt8) :
    readBytes (BinaryFormat.hex.encode bytes) type = .ok bytes := by
  rw [readBytes_eq_ok_iff binary, BinaryFormat.encode, String.toList_ofList]
  exact Binary.parseHex?_hexText bytes

theorem readText_hex (binary : type.scalarType = .binary) (hex : cx.binaryFormat = .hex)
    (token : String) : readText token type cx = .ok token := by
  rw [readText, binary]
  simp only [hex]

theorem readText_base64 (binary : type.scalarType = .binary) (base64 : cx.binaryFormat = .base64)
    (token : String) :
    readText token type cx = (readBytes token type).map BinaryFormat.base64.encode := by
  rw [readBytes_binary binary, readText, binary]
  simp only [base64]

/-- Bytes are shown as they are written anew, whether they are read for that or not. -/
theorem readText_hexText (binary : type.scalarType = .binary) (cx : Context)
    (bytes : List UInt8) : readText (BinaryFormat.hex.encode bytes) type cx =
      (readBytes (BinaryFormat.hex.encode bytes) type).map cx.binaryFormat.encode := by
  cases format : cx.binaryFormat with
  | hex =>
    rw [readText_hex binary format, readBytes_hex binary]
    rfl
  | base64 => exact readText_base64 binary format _

/-- How bytes are had back from the token that they travel as, and from what is shown of it. -/
structure BytesKept (type : ColumnType) (bytes : List UInt8) : Prop where
  read : readBytes (BinaryFormat.hex.encode bytes) type = .ok bytes
  /-- What is shown of the token is what writing the bytes anew gives, in either format. -/
  shown : ∀ cx, readText (BinaryFormat.hex.encode bytes) type cx =
    (readBytes (BinaryFormat.hex.encode bytes) type).map cx.binaryFormat.encode
  /-- In base64 that is what the standard says. -/
  standard : ∃ values zeros pads,
    Binary.IsBase64 bytes (BinaryFormat.base64.encode bytes).toList values zeros pads
  /-- A reader of base64 has the bytes back from it, and from no other text. -/
  recovered : ∀ text, Binary.readBase64? text = some bytes ↔
    text = (BinaryFormat.base64.encode bytes).toList
  /-- Other bytes look different, in either format. -/
  apart : ∀ other cx, readText (BinaryFormat.hex.encode other) type cx =
    readText (BinaryFormat.hex.encode bytes) type cx → other = bytes

/-- What becomes of a token in a column of bytes. -/
structure ReadAsHex (type : ColumnType) (token : String) : Prop where
  accepted : (∃ bytes, readBytes token type = .ok bytes) ↔ Binary.HexPairs token.toList
  /-- Written anew, a token has small letters. -/
  lowered : ∀ bytes, readBytes token type = .ok bytes →
    BinaryFormat.hex.encode bytes = String.ofList (lowerAscii token.toList)
  /-- Every other token is handed back. -/
  refused : ∀ e, readBytes token type = .error e ↔
    e = .decoding none ⟨.binary, token⟩ ∧ ¬ Binary.HexPairs token.toList
  /-- For base64 the bytes are needed, so that the same tokens are refused with the same error. -/
  base64 : ∀ cx : Context, cx.binaryFormat = .base64 →
    readText token type cx = (readBytes token type).map BinaryFormat.base64.encode
  /-- For hexadecimal digits they are not. -/
  hex : ∀ cx : Context, cx.binaryFormat = .hex → readText token type cx = .ok token
  /-- A column of text is read in the same way. -/
  string : ∀ other : ColumnType, other.scalarType = .string →
    readBytes token other = readBytes token type

/-- **Bytes and text agree** on every token of a column of bytes. -/
theorem binary_views_agree (type : ColumnType) (binary : type.scalarType = .binary) :
    (∀ bytes, BytesKept type bytes) ∧ ∀ token, ReadAsHex type token := by
  constructor
  · intro bytes
    constructor
    case read => exact readBytes_hex binary bytes
    case shown => exact fun cx => readText_hexText binary cx bytes
    case standard =>
      rw [BinaryFormat.encode, String.toList_ofList]
      exact Binary.isBase64_base64Text bytes
    case recovered =>
      intro text
      rw [BinaryFormat.encode, String.toList_ofList]
      exact Binary.readBase64?_eq_some_iff
    case apart =>
      intro other cx same
      rw [readText_hexText binary, readText_hexText binary, readBytes_hex binary,
        readBytes_hex binary] at same
      exact BinaryFormat.encode_inj (Except.ok.inj same)
  · intro token
    constructor
    case accepted =>
      simp only [readBytes_eq_ok_iff binary]
      exact Binary.exists_parseHex?_iff
    case lowered =>
      intro bytes read
      rw [readBytes_eq_ok_iff binary] at read
      exact congrArg String.ofList (Binary.hexText_of_parseHex? read)
    case refused => exact fun e => readBytes_eq_error_iff binary
    case base64 => exact fun cx format => readText_base64 binary format token
    case hex => exact fun cx format => readText_hex binary format token
    case string =>
      intro other string
      rw [readBytes_string string, readBytes_binary binary]

/-- Four bytes, the last of which fills a group of its own. -/
theorem binary_views_agree_deadbeef :
    (⟨.binary, 0, true⟩ : ColumnType).scalarType = .binary ∧
      (∀ token, ReadAsHex ⟨.binary, 0, true⟩ token) ∧
      readBytes "DeadBeef" ⟨.binary, 0, true⟩ = .ok [0xde, 0xad, 0xbe, 0xef] ∧
      readText "DeadBeef" ⟨.binary, 0, true⟩ { binaryFormat := .base64 } = .ok "3q2+7w==" :=
  ⟨rfl, (binary_views_agree ⟨.binary, 0, true⟩ rfl).2, by decide +kernel, by decide +kernel⟩

end Value
end QueryResult
