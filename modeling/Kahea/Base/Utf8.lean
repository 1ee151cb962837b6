import Kahea.Base.Text

/-!
# UTF-8

What the encoding of strings preserves, and the decoder that never fails.

UTF-8 is self-synchronising: the first byte of a character is no continuation
byte and the others are. So a string occurs in another one exactly where its
bytes do.

## Main definitions

* `fromUtf8Lossy`: Decoding with U+FFFD for what is not UTF-8.
* `fromUtf8`: Decoding of valid UTF-8.

## Theorems

* `utf8_isPrefixOf`, `utf8_isInfix`: Occurrences of strings and of their bytes.
* `fromUtf8Lossy_utf8`: Decoding what was encoded.
-/

namespace Kahea

/-- The bytes of one character. -/
abbrev encodeChar (c : Char) : List UInt8 := String.utf8EncodeChar c

@[simp] theorem utf8_nil : utf8 [] = [] := rfl

@[simp] theorem utf8_cons (c : Char) (s : Str) : utf8 (c :: s) = encodeChar c ++ utf8 s := rfl

theorem encodeChar_ne_nil (c : Char) : encodeChar c ≠ [] := by
  intro h
  have hlength := String.length_utf8EncodeChar c
  rw [show String.utf8EncodeChar c = [] from h, List.length_nil] at hlength
  exact absurd c.utf8Size_pos (by omega)

/-- Of the bytes of a character only the first is a first byte. -/
theorem encodeChar_eq_cons (c : Char) :
    ∃ b rest, encodeChar c = b :: rest ∧ b.IsUTF8FirstByte ∧
      ∀ x ∈ rest, ¬ x.IsUTF8FirstByte := by
  have hfirst (i : Nat) (hi : i < (encodeChar c).length) :
      (encodeChar c)[i].IsUTF8FirstByte ↔ i = 0 := UInt8.isUTF8FirstByte_getElem_utf8EncodeChar
  cases henc : encodeChar c with
  | nil => exact absurd henc (encodeChar_ne_nil c)
  | cons b rest =>
      simp only [henc] at hfirst
      refine ⟨b, rest, rfl, (hfirst 0 (Nat.succ_pos _)).mpr rfl, fun x hx hbyte => ?_⟩
      rcases List.getElem_of_mem hx with ⟨i, hi, rfl⟩
      exact Nat.succ_ne_zero i ((hfirst (i + 1) (Nat.succ_lt_succ hi)).mp hbyte)

/-- The first character is read back from its bytes, whatever follows. -/
theorem decode_encodeChar (c : Char) (x : List UInt8) :
    ByteArray.utf8DecodeChar? (encodeChar c ++ x).toByteArray 0 = some c := by
  rw [List.toByteArray_append]
  exact ByteArray.utf8DecodeChar?_utf8EncodeChar_append

/-- The encoding of characters is prefix-free. -/
theorem encodeChar_append_inj {c d : Char} {x y : List UInt8}
    (h : encodeChar c ++ x = encodeChar d ++ y) : c = d ∧ x = y := by
  have hc := decode_encodeChar c x
  rw [h, decode_encodeChar d y, Option.some.injEq] at hc
  subst hc
  exact ⟨rfl, List.append_cancel_left h⟩

theorem utf8_append_eq {s t : Str} {x : List UInt8} (h : utf8 s ++ x = utf8 t) :
    ∃ r, t = s ++ r ∧ x = utf8 r := by
  induction s generalizing t with
  | nil => exact ⟨t, rfl, h⟩
  | cons c s ih =>
      rw [utf8_cons, List.append_assoc] at h
      cases t with
      | nil => exact absurd (List.append_eq_nil_iff.mp h).1 (encodeChar_ne_nil c)
      | cons d t =>
          rcases encodeChar_append_inj h with ⟨rfl, hrest⟩
          rcases ih hrest with ⟨r, rfl, hr⟩
          exact ⟨r, rfl, hr⟩

theorem utf8_injective : Function.Injective utf8 := by
  intro s t h
  rcases utf8_append_eq (s := s) (t := t) (x := []) (by rw [List.append_nil, h]) with ⟨r, ht, hr⟩
  cases r with
  | nil => rw [ht, List.append_nil]
  | cons c r => exact absurd (List.append_eq_nil_iff.mp hr.symm).1 (encodeChar_ne_nil c)

/-- A string begins with another exactly when its bytes do. -/
theorem utf8_isPrefixOf {s t : Str} : utf8 s <+: utf8 t ↔ s <+: t := by
  constructor
  · rintro ⟨x, hx⟩
    rcases utf8_append_eq hx with ⟨r, rfl, _⟩
    exact List.prefix_append s r
  · rintro ⟨r, rfl⟩
    rw [utf8_append]
    exact List.prefix_append _ _

/-- A string that is not empty begins with a first byte. -/
theorem utf8_eq_cons {s : Str} (h : s ≠ []) :
    ∃ b rest, utf8 s = b :: rest ∧ b.IsUTF8FirstByte := by
  cases s with
  | nil => exact absurd rfl h
  | cons c s =>
      rcases encodeChar_eq_cons c with ⟨b, rest, henc, hb, _⟩
      refine ⟨b, rest ++ utf8 s, ?_, hb⟩
      rw [utf8_cons, henc, List.cons_append]

/-- No string begins inside the bytes of a character. -/
theorem not_utf8_begins {s : Str} (h : s ≠ []) {b : UInt8} (hb : ¬ b.IsUTF8FirstByte)
    (x : List UInt8) : ¬ utf8 s <+: b :: x := by
  rcases utf8_eq_cons h with ⟨a, rest, hs, ha⟩
  rintro ⟨y, hy⟩
  rw [hs, List.cons_append, List.cons.injEq] at hy
  exact hb (hy.1 ▸ ha)

/-- An occurrence that starts among continuation bytes starts after them. -/
theorem utf8_isInfix_continuation {s : Str} (h : s ≠ []) {rest x : List UInt8}
    (hrest : ∀ b ∈ rest, ¬ b.IsUTF8FirstByte) (hs : utf8 s <:+: rest ++ x) : utf8 s <:+: x := by
  induction rest with
  | nil => exact hs
  | cons b rest ih =>
      rw [List.cons_append, List.infix_cons_iff] at hs
      rcases hs with hs | hs
      · exact absurd hs (not_utf8_begins h (hrest b List.mem_cons_self) _)
      · exact ih (fun c hc => hrest c (List.mem_cons_of_mem b hc)) hs

/-- A string occurs in another exactly where its bytes do. -/
theorem utf8_isInfix {s t : Str} (h : s ≠ []) : utf8 s <:+: utf8 t ↔ s <:+: t := by
  constructor
  · intro hs
    induction t with
    | nil =>
        rcases utf8_eq_cons h with ⟨b, rest, hb, _⟩
        rw [utf8_nil, List.infix_nil, hb] at hs
        cases hs
    | cons c t ih =>
        rcases encodeChar_eq_cons c with ⟨b, rest, henc, _, hrest⟩
        rw [List.infix_cons_iff]
        rw [utf8_cons, henc, List.cons_append, List.infix_cons_iff] at hs
        rcases hs with hs | hs
        · -- At the front of the text the two prefixes agree.
          rw [← List.cons_append, ← henc, ← utf8_cons, utf8_isPrefixOf] at hs
          exact Or.inl hs
        · exact Or.inr (ih (utf8_isInfix_continuation h hrest hs))
  · rintro ⟨a, b, rfl⟩
    rw [utf8_append, utf8_append]
    exact ⟨utf8 a, utf8 b, rfl⟩

/-! ### Replacing -/

/-! ### Decoding -/

/-- Whether a byte continues a character. -/
def isContinuation (b : UInt8) : Bool := 0x80 ≤ b && b ≤ 0xBF

/-- Whether a byte may come second after a first byte. -/
def isSecond (first second : UInt8) : Bool :=
  if first = 0xE0 then 0xA0 ≤ second && second ≤ 0xBF
  else if first = 0xED then 0x80 ≤ second && second ≤ 0x9F
  else if first = 0xF0 then 0x90 ≤ second && second ≤ 0xBF
  else if first = 0xF4 then 0x80 ≤ second && second ≤ 0x8F
  else isContinuation second

/-- The number of bytes that one U+FFFD stands for: the longest part that could
    begin a character, and at least one byte. -/
def invalidLength : List UInt8 → Nat
  | first :: second :: rest =>
      if 0xE0 ≤ first && first ≤ 0xF4 && isSecond first second then
        if 0xF0 ≤ first && rest.head?.any isContinuation then 3 else 2
      else 1
  | _ => 1

/-- The decoder; the first argument bounds the number of characters. -/
def fromUtf8LossyFrom : Nat → List UInt8 → Str
  | 0, _ => []
  | _, [] => []
  | n + 1, b :: bytes => match ByteArray.utf8DecodeChar? (b :: bytes).toByteArray 0 with
    | some c => c :: fromUtf8LossyFrom n ((b :: bytes).drop c.utf8Size)
    | none => Char.ofNat 0xFFFD :: fromUtf8LossyFrom n ((b :: bytes).drop (invalidLength (b :: bytes)))

/-- `String::from_utf8_lossy`. -/
def fromUtf8Lossy (bytes : List UInt8) : Str := fromUtf8LossyFrom bytes.length bytes

/-- The string of valid UTF-8. -/
def fromUtf8 (bytes : List UInt8) : Option Str :=
  if utf8 (fromUtf8Lossy bytes) = bytes then some (fromUtf8Lossy bytes) else none

theorem length_le_utf8 (s : Str) : s.length ≤ (utf8 s).length := by
  induction s with
  | nil => exact Nat.le_refl 0
  | cons c s ih =>
      have hc := List.length_pos_iff.mpr (encodeChar_ne_nil c)
      rw [utf8_cons, List.length_append, List.length_cons]
      omega

theorem fromUtf8LossyFrom_utf8 (s : Str) (n : Nat) (h : s.length ≤ n) :
    fromUtf8LossyFrom n (utf8 s) = s := by
  induction s generalizing n with
  | nil => cases n <;> rfl
  | cons c s ih =>
      cases n with
      | zero => exact absurd h (Nat.not_succ_le_zero _)
      | succ n =>
          have hdecode := decode_encodeChar c (utf8 s)
          have hdrop : (encodeChar c ++ utf8 s).drop c.utf8Size = utf8 s := by
            rw [← String.length_utf8EncodeChar c, List.drop_left]
          rcases encodeChar_eq_cons c with ⟨b, rest, henc, _, _⟩
          rw [henc, List.cons_append] at hdecode hdrop
          rw [utf8_cons, henc, List.cons_append, fromUtf8LossyFrom, hdecode]
          dsimp only
          rw [hdrop, ih n (Nat.le_of_succ_le_succ h)]

/-- Decoding what was encoded. -/
@[simp] theorem fromUtf8Lossy_utf8 (s : Str) : fromUtf8Lossy (utf8 s) = s :=
  fromUtf8LossyFrom_utf8 s _ (length_le_utf8 s)

theorem fromUtf8_utf8 (s : Str) : fromUtf8 (utf8 s) = some s := by
  rw [fromUtf8, fromUtf8Lossy_utf8, if_pos rfl]

/-- A character of one byte is in a text exactly when its byte is in the bytes
    of the text. -/
theorem mem_utf8_iff {c : Char} {b : UInt8} (hb : utf8 [c] = [b]) {s : Str} : b ∈ utf8 s ↔ c ∈ s := by
  rw [← List.singleton_infix_iff, ← hb, utf8_isInfix (List.cons_ne_nil c []),
    List.singleton_infix_iff]

example : fromUtf8Lossy [0x61, 0xE2, 0x82, 0x62, 0xC3, 0xA9] = "a\uFFFDbé".toList := by
  decide +kernel

end Kahea
