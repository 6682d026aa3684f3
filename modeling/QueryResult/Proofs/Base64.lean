import Mathlib.Algebra.Group.Nat.Defs
import Mathlib.Data.List.Forall2
import Mathlib.Data.List.Induction
import QueryResult.Binary

/-!
# Base64 with padding

`IsBase64` is the standard in its own words: the bits of the bytes, six at a time and with zeros behind
the last of them, are the places of digits in an alphabet, and `=` fills up the last group of four
digits. `base64Text` writes by groups of three bytes and agrees with that (`isBase64_base64Text`), as
a number has the same bits however they are cut.

`readBase64?` is a reader of such text, which takes no digit too many, no group that is not full and
no bits that were not written. It takes exactly what is written (`readBase64?_eq_some_iff`), so that
bytes of any number are had back and different bytes have different texts.
-/

namespace QueryResult.Binary

variable {a m n : Nat} {bytes : List UInt8} {cs : List Char}

/-! ## Bits -/

/-- The last bits of a number, so many of them, the most significant first. -/
def bits : Nat → Nat → List Bool
  | 0, _ => []
  | width + 1, n => bits width (n / 2) ++ [n % 2 == 1]

theorem bits_mod (k n : Nat) : bits k (n % 2 ^ k) = bits k n := by
  induction k generalizing n with
  | zero => rfl
  | succ k ih =>
    have half : n % 2 ^ (k + 1) / 2 = n / 2 % 2 ^ k := by
      rw [Nat.pow_succ', Nat.mod_mul_right_div_self]
    have last : n % 2 ^ (k + 1) % 2 = n % 2 := Nat.mod_mod_of_dvd n ⟨2 ^ k, Nat.pow_succ'⟩
    rw [bits, bits, half, last, ih]

/-- The bits of a number are those of its front and those of its end. -/
theorem bits_add (m k n : Nat) : bits (m + k) n = bits m (n / 2 ^ k) ++ bits k n := by
  induction k generalizing n with
  | zero => simp [bits]
  | succ k ih =>
    rw [← Nat.add_assoc, bits, bits, ih, Nat.div_div_eq_div_mul, ← Nat.pow_succ', List.append_assoc]

/-- A number with another one written behind it. -/
theorem bits_append (k : Nat) (h : m < 2 ^ k) :
    bits (n + k) (a * 2 ^ k + m) = bits n a ++ bits k m := by
  have front : (a * 2 ^ k + m) / 2 ^ k = a := by
    rw [Nat.mul_comm, Nat.mul_add_div (Nat.two_pow_pos k), Nat.div_eq_of_lt h, Nat.add_zero]
  have back : (a * 2 ^ k + m) % 2 ^ k = m := by
    rw [Nat.mul_add_mod_self_right, Nat.mod_eq_of_lt h]
  rw [bits_add, front, ← bits_mod k, back]

/-- A number with zeros behind it. -/
theorem bits_shift (width k n : Nat) :
    bits (width + k) (n * 2 ^ k) = bits width n ++ List.replicate k false := by
  have zeros : ∀ k, bits k 0 = List.replicate k false := by
    intro k
    induction k with
    | zero => rfl
    | succ k ih => rw [bits, Nat.zero_div, ih, List.replicate_succ']; rfl
  have shifted := bits_append (n := width) (a := n) k (Nat.two_pow_pos k)
  rwa [Nat.add_zero, zeros] at shifted

/-! ## Digits -/

/-- The digits of base64 in the order of their values. -/
def base64Alphabet : List Char :=
  "ABCDEFGHIJKLMNOPQRSTUVWXYZabcdefghijklmnopqrstuvwxyz0123456789+/".toList

theorem getElem?_base64Alphabet : ∀ v < 64, base64Alphabet[v]? = some (base64Digit v) := by
  decide +kernel

/-- The value of a digit. -/
def base64Value? (c : Char) : Option Nat :=
  base64Alphabet.idxOf? c

theorem base64Value?_base64Digit : ∀ v < 64, base64Value? (base64Digit v) = some v := by
  decide +kernel

theorem base64Value?_eq_some_iff {c : Char} {v : Nat} :
    base64Value? c = some v ↔ v < 64 ∧ base64Digit v = c := by
  constructor
  · intro h
    obtain ⟨within, found, -⟩ := List.idxOf?_eq_some_iff.1 h
    have count : base64Alphabet.length = 64 := by decide +kernel
    have small : v < 64 := count ▸ within
    have place := getElem?_base64Alphabet v small
    rw [List.getElem?_eq_getElem within, found] at place
    exact ⟨small, (Option.some.inj place).symm⟩
  · rintro ⟨small, rfl⟩
    exact base64Value?_base64Digit v small

theorem base64Value?_pad : base64Value? '=' = none := by
  decide +kernel

theorem base64Digit_ne_pad (v : Nat) (small : v < 64) : base64Digit v ≠ '=' := by
  intro pad
  have value := base64Value?_base64Digit v small
  rw [pad, base64Value?_pad] at value
  nomatch value

/-- The values of the last digits of a number, so many of them, the most significant first. -/
def sextets : Nat → Nat → List Nat
  | 0, _ => []
  | count + 1, n => sextets count (n / 64) ++ [n % 64]

theorem lt_of_mem_sextets {count v : Nat} (h : v ∈ sextets count n) : v < 64 := by
  induction count generalizing n with
  | zero => exact absurd h List.not_mem_nil
  | succ count ih =>
    rcases List.mem_append.1 h with front | last
    · exact ih front
    · rw [List.eq_of_mem_singleton last]
      exact Nat.mod_lt n (by decide)

theorem base64Digits_eq (count n : Nat) :
    base64Digits count n = (sextets count n).map base64Digit := by
  induction count generalizing n with
  | zero => rfl
  | succ count ih => rw [base64Digits, sextets, ih, List.map_append, List.map_singleton]

theorem length_base64Digits (count n : Nat) : (base64Digits count n).length = count := by
  induction count generalizing n with
  | zero => rfl
  | succ count ih => rw [base64Digits, List.length_append, ih, List.length_singleton]

/-- Cut into digits, a number keeps its bits. -/
theorem flatMap_sextets (count n : Nat) : (sextets count n).flatMap (bits 6) = bits (6 * count) n := by
  induction count generalizing n with
  | zero => rfl
  | succ count ih =>
    have cut : bits (6 * count + 6) n = bits (6 * count) (n / 64) ++ bits 6 (n % 64) := by
      rw [bits_add, ← bits_mod 6 n]
      rfl
    rw [sextets, List.flatMap_append, ih, List.flatMap_singleton, Nat.mul_succ, cut]

/-! ## Bytes as numbers -/

/-- Two bytes as a number, the first one in front. -/
def pair (a b : UInt8) : Nat :=
  a.toNat * 256 + b.toNat

/-- Three bytes as a number. -/
def triple (a b c : UInt8) : Nat :=
  pair a b * 256 + c.toNat

theorem pair_lt (a b : UInt8) : pair a b < 2 ^ 16 := by
  have := a.toNat_lt
  have := b.toNat_lt
  unfold pair
  omega

theorem triple_lt (a b c : UInt8) : triple a b c < 2 ^ 24 := by
  have := pair_lt a b
  have := c.toNat_lt
  unfold triple
  omega

theorem ofNat_eq_of_mod {b : UInt8} (h : n % 256 = b.toNat) : UInt8.ofNat n = b := by
  apply UInt8.toNat_inj.1
  rw [UInt8.toNat_ofNat']
  exact h

theorem ofNat_pair (a b : UInt8) :
    UInt8.ofNat (pair a b / 256) = a ∧ UInt8.ofNat (pair a b) = b := by
  have := a.toNat_lt
  have := b.toNat_lt
  unfold pair
  exact ⟨ofNat_eq_of_mod (by omega), ofNat_eq_of_mod (by omega)⟩

theorem ofNat_triple (a b c : UInt8) : UInt8.ofNat (triple a b c / 65536) = a ∧
    UInt8.ofNat (triple a b c / 256) = b ∧ UInt8.ofNat (triple a b c) = c := by
  obtain ⟨first, second⟩ := ofNat_pair a b
  have low := c.toNat_lt
  have front : triple a b c / 256 = pair a b := by
    unfold triple
    omega
  have front' : triple a b c / 65536 = pair a b / 256 := by
    rw [← front]
    omega
  rw [front, front']
  refine ⟨first, second, ofNat_eq_of_mod ?_⟩
  unfold triple
  omega

theorem pair_ofNat (h : n < 2 ^ 16) : pair (UInt8.ofNat (n / 256)) (UInt8.ofNat n) = n := by
  rw [pair, UInt8.toNat_ofNat', UInt8.toNat_ofNat']
  omega

theorem triple_ofNat (h : n < 2 ^ 24) :
    triple (UInt8.ofNat (n / 65536)) (UInt8.ofNat (n / 256)) (UInt8.ofNat n) = n := by
  have front := pair_ofNat (n := n / 256) (by omega)
  rw [Nat.div_div_eq_div_mul] at front
  rw [triple, front, UInt8.toNat_ofNat']
  omega

theorem base64Text_pair (a b : UInt8) :
    base64Text [a, b] = base64Digits 3 (pair a b * 4) ++ ['='] := by
  rw [base64Text, pair]

theorem base64Text_triple (a b c : UInt8) (rest : List UInt8) :
    base64Text (a :: b :: c :: rest) = base64Digits 4 (triple a b c) ++ base64Text rest := by
  rw [base64Text, triple, pair]

/-! ## The standard -/

/-- The bits of bytes in their order. -/
def byteBits (bytes : List UInt8) : List Bool :=
  bytes.flatMap fun b => bits 8 b.toNat

theorem byteBits_pair (a b : UInt8) : byteBits [a, b] = bits 16 (pair a b) := by
  have joined := bits_append (n := 8) (a := a.toNat) 8 b.toNat_lt
  simpa [byteBits, pair] using joined.symm

theorem byteBits_triple (a b c : UInt8) : byteBits [a, b, c] = bits 24 (triple a b c) := by
  have joined := bits_append (n := 16) (a := pair a b) 8 c.toNat_lt
  rw [← byteBits_pair] at joined
  simpa [byteBits, triple] using joined.symm

/-- That a text is the base64 of bytes, with the values of its digits, the zeros behind the bits of
the bytes and the signs that fill up the last group. -/
structure IsBase64 (bytes : List UInt8) (text : List Char) (values : List Nat) (zeros pads : Nat) :
    Prop where
  /-- Six bits at a time, the values hold the bits of the bytes, and no whole digit of zeros. -/
  carried : values.flatMap (bits 6) = byteBits bytes ++ List.replicate zeros false
  zeros_lt : zeros < 6
  /-- A digit stands for its place in the alphabet. -/
  digits : ∃ digits, text = digits ++ List.replicate pads '=' ∧
    List.Forall₂ (fun c v => base64Alphabet[v]? = some c) digits values
  /-- The text is filled up to whole groups and no further. -/
  groups : text.length % 4 = 0
  pads_lt : pads < 4

theorem forall₂_sextets (count n : Nat) :
    List.Forall₂ (fun c v => base64Alphabet[v]? = some c) (base64Digits count n)
      (sextets count n) := by
  rw [base64Digits_eq, List.forall₂_map_left_iff, List.forall₂_same]
  exact fun v mem => getElem?_base64Alphabet v (lt_of_mem_sextets mem)

/-- A group that is not full: bits of bytes with zeros behind them. -/
theorem IsBase64.last (count zeros pads : Nat) (zeros_lt : zeros < 6) (pads_lt : pads < 4)
    (filled : bits (6 * count) n = byteBits bytes ++ List.replicate zeros false)
    (groups : (count + pads) % 4 = 0) :
    IsBase64 bytes (base64Digits count n ++ List.replicate pads '=') (sextets count n) zeros pads where
  carried := (flatMap_sextets count n).trans filled
  zeros_lt := zeros_lt
  digits := ⟨_, rfl, forall₂_sextets count n⟩
  groups := by rw [List.length_append, length_base64Digits, List.length_replicate, groups]
  pads_lt := pads_lt

/-- A whole group in front of a text in base64. -/
theorem IsBase64.group {text : List Char} {values : List Nat} {zeros pads : Nat}
    (h : IsBase64 bytes text values zeros pads) (a b c : UInt8) :
    IsBase64 (a :: b :: c :: bytes) (base64Digits 4 (triple a b c) ++ text)
      (sextets 4 (triple a b c) ++ values) zeros pads := by
  obtain ⟨digits, rfl, places⟩ := h.digits
  constructor
  case carried =>
    have rest : byteBits (a :: b :: c :: bytes) = byteBits [a, b, c] ++ byteBits bytes := by
      show byteBits ([a, b, c] ++ bytes) = _
      exact List.flatMap_append
    rw [List.flatMap_append, flatMap_sextets, h.carried, rest, byteBits_triple, List.append_assoc]
  case zeros_lt => exact h.zeros_lt
  case digits =>
    exact ⟨_, (List.append_assoc _ _ _).symm, List.rel_append (forall₂_sextets _ _) places⟩
  case groups =>
    rw [List.length_append, length_base64Digits, Nat.add_mod_left]
    exact h.groups
  case pads_lt => exact h.pads_lt

/-- The text of bytes is their base64. -/
theorem isBase64_base64Text (bytes : List UInt8) :
    ∃ values zeros pads, IsBase64 bytes (base64Text bytes) values zeros pads := by
  fun_induction base64Text bytes with
  | case1 => exact ⟨[], 0, 0, rfl, by decide, ⟨[], rfl, .nil⟩, rfl, by decide⟩
  | case2 a =>
    have filled : bits (6 * 2) (a.toNat * 16) = byteBits [a] ++ List.replicate 4 false := by
      rw [byteBits, List.flatMap_singleton]
      exact bits_shift 8 4 a.toNat
    exact ⟨_, 4, 2, .last 2 4 2 (by decide) (by decide) filled rfl⟩
  | case3 a b =>
    have filled : bits (6 * 3) (pair a b * 4) = byteBits [a, b] ++ List.replicate 2 false := by
      rw [byteBits_pair]
      exact bits_shift 16 2 (pair a b)
    exact ⟨_, 2, 1, .last 3 2 1 (by decide) (by decide) filled rfl⟩
  | case4 a b c rest ih =>
    obtain ⟨values, zeros, pads, h⟩ := ih
    exact ⟨_, zeros, pads, h.group a b c⟩

/-! ## Reading -/

/-- The number that digits spell. -/
def base64Number? (cs : List Char) : Option Nat :=
  cs.foldlM (fun n c => (base64Value? c).map (64 * n + ·)) 0

/-- The bytes of a text in base64, read by groups of four digits. Only the last group may be filled up,
and the bits of its last digit that belong to no byte are zero. -/
def readBase64? : List Char → Option (List UInt8)
  | [] => some []
  | a :: b :: c :: d :: rest =>
    if d ≠ '=' then do
      let n ← base64Number? [a, b, c, d]
      let bytes ← readBase64? rest
      return UInt8.ofNat (n / 65536) :: UInt8.ofNat (n / 256) :: UInt8.ofNat n :: bytes
    else if rest ≠ [] then none
    else if c ≠ '=' then do
      let n ← base64Number? [a, b, c]
      if n % 4 = 0 then return [UInt8.ofNat (n / 1024), UInt8.ofNat (n / 4)] else none
    else do
      let n ← base64Number? [a, b]
      if n % 16 = 0 then return [UInt8.ofNat (n / 16)] else none
  | _ => none

theorem base64Number?_concat (cs : List Char) (c : Char) : base64Number? (cs ++ [c]) =
    (base64Number? cs).bind fun n => (base64Value? c).map (64 * n + ·) := by
  rw [base64Number?, List.foldlM_append, base64Number?]
  simp

/-- The digits of a number spell it. -/
theorem base64Number?_eq_some_iff :
    base64Number? cs = some n ↔ n < 64 ^ cs.length ∧ cs = base64Digits cs.length n := by
  induction cs using List.reverseRec generalizing n with
  | nil =>
    rw [base64Number?, List.foldlM_nil, Option.pure_def, Option.some.injEq]
    simp [base64Digits, eq_comm]
  | append_singleton cs c ih =>
    rw [base64Number?_concat, Option.bind_eq_some_iff, List.length_append, List.length_singleton,
      base64Digits]
    simp only [Option.map_eq_some_iff, base64Value?_eq_some_iff, ih]
    constructor
    · rintro ⟨m, ⟨small, front⟩, v, ⟨low, rfl⟩, rfl⟩
      have quotient : (64 * m + v) / 64 = m := by omega
      have rest : (64 * m + v) % 64 = v := by omega
      rw [quotient, rest, ← front, Nat.pow_succ]
      exact ⟨by omega, rfl⟩
    · rintro ⟨small, whole⟩
      obtain ⟨front, last⟩ := List.append_inj' whole rfl
      rw [Nat.pow_succ] at small
      exact ⟨n / 64, ⟨by omega, front⟩, n % 64, ⟨Nat.mod_lt n (by decide), by simpa using last.symm⟩,
        Nat.div_add_mod n 64⟩

theorem digits_of_base64Number? (count : Nat) (length : cs.length = count)
    (h : base64Number? cs = some n) : n < 64 ^ count ∧ cs = base64Digits count n := by
  rw [base64Number?_eq_some_iff, length] at h
  exact h

theorem base64Number?_base64Digits (count : Nat) (h : n < 64 ^ count) :
    base64Number? (base64Digits count n) = some n := by
  rw [base64Number?_eq_some_iff, length_base64Digits]
  exact ⟨h, rfl⟩

/-- What is written is read back. -/
theorem readBase64?_base64Text (bytes : List UInt8) :
    readBase64? (base64Text bytes) = some bytes := by
  fun_induction base64Text bytes with
  | case1 => rfl
  | case2 a =>
    have small := a.toNat_lt
    have number := base64Number?_base64Digits (n := a.toNat * 16) 2 (by omega)
    obtain ⟨x, y, two⟩ : ∃ x y, base64Digits 2 (a.toNat * 16) = [x, y] := ⟨_, _, rfl⟩
    rw [two] at number ⊢
    simp [readBase64?, number]
  | case3 a b =>
    have small := pair_lt a b
    have number := base64Number?_base64Digits (n := pair a b * 4) 3 (by omega)
    have digit := base64Digit_ne_pad _ (Nat.mod_lt (pair a b * 4) (by decide))
    obtain ⟨x, y, three⟩ : ∃ x y, base64Digits 3 (pair a b * 4) =
        [x, y, base64Digit (pair a b * 4 % 64)] := ⟨_, _, rfl⟩
    have quarter : pair a b * 4 / 1024 = pair a b / 256 := by omega
    rw [← pair, three]
    rw [three] at number
    simp [readBase64?, number, digit, quarter, ofNat_pair]
  | case4 a b c rest ih =>
    have number := base64Number?_base64Digits 4 (triple_lt a b c)
    have digit := base64Digit_ne_pad _ (Nat.mod_lt (triple a b c) (by decide))
    obtain ⟨x, y, z, four⟩ : ∃ x y z, base64Digits 4 (triple a b c) =
        [x, y, z, base64Digit (triple a b c % 64)] := ⟨_, _, _, rfl⟩
    rw [← pair, ← triple, four]
    rw [four] at number
    simp [readBase64?, number, digit, ih, ofNat_triple]

/-- And nothing else is read. -/
theorem eq_base64Text_of_readBase64? (h : readBase64? cs = some bytes) : cs = base64Text bytes := by
  fun_induction readBase64? cs generalizing bytes with
  | case1 =>
    obtain rfl := Option.some.inj h
    rfl
  | case2 a b c d rest digit ih =>
    simp only [Option.bind_eq_bind, Option.bind_eq_some_iff, Option.pure_def, Option.some.injEq] at h
    obtain ⟨n, number, bytes, read, rfl⟩ := h
    obtain ⟨small, digits⟩ := digits_of_base64Number? 4 rfl number
    rw [base64Text_triple, triple_ofNat (by omega), ← digits, ← ih read]
    rfl
  | case3 => nomatch h
  | case4 a b c d rest pad last digit =>
    obtain rfl := not_not.1 pad
    obtain rfl := not_not.1 last
    obtain ⟨n, number, h⟩ := Option.bind_eq_some_iff.1 h
    obtain ⟨small, digits⟩ := digits_of_base64Number? 3 rfl number
    split at h <;> rename_i zeros
    · obtain rfl := Option.some.inj h
      have front : n / 1024 = n / 4 / 256 := by omega
      have whole : n / 4 * 4 = n := by omega
      rw [base64Text_pair, front, pair_ofNat (by omega), whole, ← digits]
      rfl
    · nomatch h
  | case5 a b c d rest pad last digit =>
    obtain rfl := not_not.1 pad
    obtain rfl := not_not.1 last
    obtain rfl := not_not.1 digit
    obtain ⟨n, number, h⟩ := Option.bind_eq_some_iff.1 h
    obtain ⟨small, digits⟩ := digits_of_base64Number? 2 rfl number
    split at h <;> rename_i zeros
    · obtain rfl := Option.some.inj h
      have whole : n / 16 % 256 * 16 = n := by omega
      rw [base64Text, UInt8.toNat_ofNat', whole, ← digits]
      rfl
    · nomatch h
  | case6 => nomatch h

theorem readBase64?_eq_some_iff : readBase64? cs = some bytes ↔ cs = base64Text bytes := by
  constructor
  · exact eq_base64Text_of_readBase64?
  · rintro rfl
    exact readBase64?_base64Text bytes

end QueryResult.Binary
