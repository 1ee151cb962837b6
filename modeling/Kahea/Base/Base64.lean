import Kahea.Base.Encode

/-!
# Base64 Round Trip

What `base64Encode` writes is what `base64Decode` reads. The bytes are written
in groups of three, each as four six-bit values, and a shorter last group is
padded; the decoder takes the same groups apart again.

## Theorems

* `base64Value_char`: A six-bit value is read from its character.
* `base64Decode_encode`: Decoding undoes encoding.
-/

namespace Kahea

/-- A character of the alphabet gives back its value. -/
theorem base64Value_char {n : Nat} (h : n < 64) : base64Value (base64Char n) = some n := by
  have hall : ∀ n : Fin 64, base64Value (base64Char n) = some n.val := by decide +kernel
  exact hall ⟨n, h⟩

/-- The alphabet leaves the padding character out. -/
theorem base64Char_ne_pad {n : Nat} (h : n < 64) : base64Char n ≠ '=' := by
  have hall : ∀ n : Fin 64, base64Char n ≠ '=' := by decide +kernel
  exact hall ⟨n, h⟩

/-- A group of four characters none of which is a pad. -/
theorem base64Decode_group {a b c d : Char} (hd : d ≠ '=') (rest : Str) :
    base64Decode (a :: b :: c :: d :: rest) = (do
      let x ← base64Value a
      let y ← base64Value b
      let z ← base64Value c
      let w ← base64Value d
      let tail ← base64Decode rest
      some ((x * 4 + y / 16).toUInt8 :: (y % 16 * 16 + z / 4).toUInt8 ::
        (z % 4 * 64 + w).toUInt8 :: tail)) := by
  rw [base64Decode]
  · intro _ hpad
    exact absurd hpad hd
  · intro hpad
    exact absurd hpad hd

theorem toUInt8_eq {n : Nat} {b : UInt8} (h : n = b.toNat) : n.toUInt8 = b := by
  rw [h]
  exact UInt8.ofNat_toNat

/-- Base64 round trip, over the three lengths of a last group. -/
theorem base64Decode_encode (data : List UInt8) : base64Decode (base64Encode data) = some data := by
  -- By the groups of the encoder: none, one, two or three bytes and more.
  induction data using base64Encode.induct with
  | case1 => rfl
  -- One byte leaves two characters and two pads.
  | case2 a =>
      have ha := a.toNat_lt
      rw [base64Encode, base64Decode]
      simp only [base64Value_char (by omega : a.toNat * 65536 / 262144 < 64),
        base64Value_char (by omega : a.toNat * 65536 / 4096 % 64 < 64), Option.bind_eq_bind,
        Option.bind_some]
      rw [if_pos (by omega), toUInt8_eq (b := a) (by omega)]
  | case3 a b =>
      have ha := a.toNat_lt
      have hb := b.toNat_lt
      generalize hn : a.toNat * 65536 + b.toNat * 256 = n
      have hlast : n / 64 % 64 < 64 := by omega
      rw [base64Encode, hn, base64Decode]
      · simp only [base64Value_char (by omega : n / 262144 < 64),
          base64Value_char (by omega : n / 4096 % 64 < 64), base64Value_char hlast,
          Option.bind_eq_bind, Option.bind_some]
        rw [if_pos (by omega), toUInt8_eq (b := a) (by omega), toUInt8_eq (b := b) (by omega)]
      -- The last character is a digit of the alphabet, so it is not taken for a pad.
      · exact base64Char_ne_pad hlast
  | case4 a b c rest ih =>
      have ha := a.toNat_lt
      have hb := b.toNat_lt
      have hc := c.toNat_lt
      generalize hn : a.toNat * 65536 + b.toNat * 256 + c.toNat = n
      have hlast : n % 64 < 64 := by omega
      rw [base64Encode, hn, base64Decode_group (base64Char_ne_pad hlast)]
      simp only [base64Value_char (by omega : n / 262144 < 64),
        base64Value_char (by omega : n / 4096 % 64 < 64),
        base64Value_char (by omega : n / 64 % 64 < 64), base64Value_char hlast,
        Option.bind_eq_bind, Option.bind_some, ih]
      rw [toUInt8_eq (b := a) (by omega), toUInt8_eq (b := b) (by omega),
        toUInt8_eq (b := c) (by omega)]

end Kahea
