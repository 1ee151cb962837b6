import Kahea.Base.Text

/-!
# Text Encodings

Percent encoding, form encoding and base64.

Percent encoding is parameterised by the set of ASCII bytes that are encoded;
bytes outside ASCII always are. When the set contains the percent sign itself
the encoding is injective, and `percentDecode_percentEncode` is the left
inverse that shows it. `mem_percentEncode` is the other fact callers need: the
characters of an encoded text are those of an escape or ASCII characters
outside the set, so a text encoded with a set that holds a delimiter contains
that delimiter nowhere.

## Main definitions

* `percentEncode`, `percentDecode`: Percent encoding over a set of bytes.
* `formEncode`, `formText`: `application/x-www-form-urlencoded` text.
* `base64Encode`, `base64Decode`: The padded standard alphabet.

## Theorems

* `percentDecode_percentEncode`: Decoding undoes encoding.
* `mem_percentEncode`: The characters of an encoded text.
-/

namespace Kahea

/-- The hexadecimal digit of a number below sixteen, in upper case. -/
def upperHexDigit (n : Nat) : Char := ((Nat.toDigits 16 n).headD '0').toUpper

/-- The value of a hexadecimal digit. -/
def hexValue (c : Char) : Option Nat :=
  if '0' ≤ c ∧ c ≤ '9' then some (c.toNat - '0'.toNat)
  else if 'a' ≤ c ∧ c ≤ 'f' then some (c.toNat - 'a'.toNat + 10)
  else if 'A' ≤ c ∧ c ≤ 'F' then some (c.toNat - 'A'.toNat + 10)
  else none

/-- The escape of one byte. -/
def percentEscape (b : UInt8) : Str :=
  ['%', upperHexDigit (b.toNat / 16), upperHexDigit (b.toNat % 16)]

/-- One byte, escaped when it is in the set or outside ASCII. -/
def percentEncodeByte (set : Char → Bool) (b : UInt8) : Str :=
  if 128 ≤ b || set (Char.ofNat b.toNat) then percentEscape b else [Char.ofNat b.toNat]

/-- A text with the bytes of a set escaped. -/
def percentEncode (set : Char → Bool) (s : Str) : Str :=
  (utf8 s).flatMap (percentEncodeByte set)

/-- The bytes of a text with its escapes undone. -/
def percentDecode : Str → List UInt8
  | [] => []
  | '%' :: a :: b :: rest => match hexValue a, hexValue b with
    | some x, some y => (16 * x + y).toUInt8 :: percentDecode rest
    | _, _ => 37 :: percentDecode (a :: b :: rest)
  | c :: rest => String.utf8EncodeChar c ++ percentDecode rest

theorem percentDecode_escape (b : UInt8) (rest : Str) :
    percentDecode (percentEscape b ++ rest) = b :: percentDecode rest := by
  have hall : ∀ n, n < 16 → hexValue (upperHexDigit n) = some n := by decide
  have hb : b.toNat < 256 := b.toNat_lt
  have hsum : (16 * (b.toNat / 16) + b.toNat % 16).toUInt8 = b := by
    rw [Nat.div_add_mod]
    exact UInt8.ofNat_toNat
  simp only [percentEscape, List.cons_append, List.nil_append, percentDecode,
    hall (b.toNat / 16) (by omega), hall (b.toNat % 16) (by omega), hsum]

theorem percentDecode_ascii (c : Char) (rest : Str) (hc : c ≠ '%') :
    percentDecode (c :: rest) = String.utf8EncodeChar c ++ percentDecode rest := by
  rw [percentDecode]
  intro a b r h _
  exact hc h

/-- An ASCII character is the one byte of its code. -/
theorem utf8EncodeChar_ofNat (b : UInt8) (hb : b < 128) :
    String.utf8EncodeChar (Char.ofNat b.toNat) = [b] := by
  have hall : ∀ n, n < 128 → String.utf8EncodeChar (Char.ofNat n) = [n.toUInt8] := by decide
  rw [hall b.toNat hb]
  exact congrArg (fun x => [x]) UInt8.ofNat_toNat

theorem percentDecode_percentEncode (set : Char → Bool) (hset : set '%' = true) (s : Str) :
    percentDecode (percentEncode set s) = utf8 s := by
  unfold percentEncode
  induction utf8 s with
  | nil => rfl
  | cons b bs ih =>
      rw [List.flatMap_cons, percentEncodeByte]
      split
      · rw [percentDecode_escape, ih]
      · rename_i hb
        simp only [Bool.or_eq_true, decide_eq_true_eq, not_or, Bool.not_eq_true] at hb
        have hne : Char.ofNat b.toNat ≠ '%' := by
          intro hc
          rw [hc, hset] at hb
          exact absurd hb.2 (by decide)
        have hlt : b < 128 := UInt8.not_le.mp hb.1
        rw [List.cons_append, List.nil_append, percentDecode_ascii _ _ hne, ih,
          utf8EncodeChar_ofNat b hlt, List.cons_append, List.nil_append]

/-- Whether a character can stand in an encoded text: the percent sign, a
    hexadecimal digit, or an ASCII character outside the set. -/
def encodedChar (set : Char → Bool) (c : Char) : Bool :=
  c == '%' || (hexValue c).isSome || (c.toNat < 128 && !set c)

/-- Hexadecimal digits are ASCII characters. -/
theorem toNat_lt_of_hexValue {c : Char} (h : (hexValue c).isSome = true) : c.toNat < 128 := by
  have hle : ∀ d : Char, c ≤ d → c.toNat ≤ d.toNat := fun d hd =>
    UInt32.le_iff_toNat_le.mp (Char.le_def.mp hd)
  unfold hexValue at h
  split_ifs at h with h1 h2 h3
  · exact Nat.lt_of_le_of_lt (hle _ h1.2) (by decide)
  · exact Nat.lt_of_le_of_lt (hle _ h2.2) (by decide)
  · exact Nat.lt_of_le_of_lt (hle _ h3.2) (by decide)
  · cases h

theorem toNat_lt_of_encodedChar {set : Char → Bool} {c : Char} (h : encodedChar set c = true) :
    c.toNat < 128 := by
  simp only [encodedChar, Bool.or_eq_true, Bool.and_eq_true, decide_eq_true_eq, beq_iff_eq] at h
  rcases h with (rfl | hhex) | h
  · decide
  · exact toNat_lt_of_hexValue hhex
  · exact h.1

theorem mem_percentEncode (set : Char → Bool) (s : Str) (c : Char)
    (hc : c ∈ percentEncode set s) : encodedChar set c = true := by
  have hall : ∀ n, n < 16 → (hexValue (upperHexDigit n)).isSome = true := by decide
  unfold percentEncode at hc
  rcases List.mem_flatMap.mp hc with ⟨b, _, hb⟩
  have hbb : b.toNat < 256 := b.toNat_lt
  rw [percentEncodeByte] at hb
  -- An escape is a percent sign and two hexadecimal digits.
  split at hb
  · simp only [percentEscape, List.mem_cons, List.not_mem_nil, or_false] at hb
    unfold encodedChar
    rcases hb with rfl | rfl | rfl
    · rfl
    · rw [hall (b.toNat / 16) (by omega), Bool.or_true, Bool.true_or]
    · rw [hall (b.toNat % 16) (by omega), Bool.or_true, Bool.true_or]
  · rename_i hset
    -- Any other byte is an ASCII character outside the set.
    simp only [Bool.or_eq_true, decide_eq_true_eq, not_or, Bool.not_eq_true] at hset
    have hlt : b.toNat < 128 := UInt8.not_le.mp hset.1
    have hascii : ∀ n, n < 128 → (Char.ofNat n).toNat = n := by decide
    have hnat : (Char.ofNat b.toNat).toNat = b.toNat := hascii b.toNat hlt
    rw [List.mem_singleton] at hb
    subst hb
    simp only [encodedChar, hnat, hset.2, Bool.not_false, Bool.and_true, Bool.or_eq_true,
      decide_eq_true_eq]
    exact Or.inr hlt

/-- One byte of a form-encoded text. -/
def formEncodeByte (b : UInt8) : Str :=
  let c := Char.ofNat b.toNat
  if b < 128 && (c.isAlphanum || c == '*' || c == '-' || c == '.' || c == '_') then [c]
  else if c == ' ' then ['+']
  else percentEscape b

/-- The form encoding of a name or a value. -/
def formEncode (s : Str) : Str := (utf8 s).flatMap formEncodeByte

/-- Form-encoded pairs. -/
def formText (pairs : List (Str × Str)) : Str :=
  join "&" (pairs.map (fun p => formEncode p.1 ++ '=' :: formEncode p.2))

/-- The standard base64 alphabet. -/
def base64Alphabet : Str := "ABCDEFGHIJKLMNOPQRSTUVWXYZabcdefghijklmnopqrstuvwxyz0123456789+/"

/-- The character of a six-bit value. -/
def base64Char (n : Nat) : Char := base64Alphabet.getD n 'A'

/-- Standard base64 with padding. -/
def base64Encode : List UInt8 → Str
  | [] => []
  | [a] =>
      let n := a.toNat * 65536
      [base64Char (n / 262144), base64Char (n / 4096 % 64), '=', '=']
  | [a, b] =>
      let n := a.toNat * 65536 + b.toNat * 256
      [base64Char (n / 262144), base64Char (n / 4096 % 64), base64Char (n / 64 % 64), '=']
  | a :: b :: c :: rest =>
      let n := a.toNat * 65536 + b.toNat * 256 + c.toNat
      base64Char (n / 262144) :: base64Char (n / 4096 % 64) :: base64Char (n / 64 % 64) ::
        base64Char (n % 64) :: base64Encode rest

/-- The six-bit value of a character. -/
def base64Value (c : Char) : Option Nat := base64Alphabet.findIdx? (· == c)

/-- Strict decoding of padded base64: unused bits of the last group must be
    zero. -/
def base64Decode : Str → Option (List UInt8)
  | [] => some []
  | [a, b, '=', '='] => do
      let x ← base64Value a
      let y ← base64Value b
      if y % 16 = 0 then some [(x * 4 + y / 16).toUInt8] else none
  | [a, b, c, '='] => do
      let x ← base64Value a
      let y ← base64Value b
      let z ← base64Value c
      if z % 4 = 0 then
        some [(x * 4 + y / 16).toUInt8, (y % 16 * 16 + z / 4).toUInt8]
      else none
  | a :: b :: c :: d :: rest => do
      let x ← base64Value a
      let y ← base64Value b
      let z ← base64Value c
      let w ← base64Value d
      let tail ← base64Decode rest
      some ((x * 4 + y / 16).toUInt8 :: (y % 16 * 16 + z / 4).toUInt8 ::
        (z % 4 * 64 + w).toUInt8 :: tail)
  | _ => none

example : base64Encode (utf8 "user:pass") = "dXNlcjpwYXNz" := by decide

example : base64Decode "dXNlcg==" = some (utf8 "user") := by decide

end Kahea
