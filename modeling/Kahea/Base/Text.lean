import Mathlib.Data.List.Basic
import Mathlib.Data.List.Infix
import Mathlib.Data.List.DropRight
import Mathlib.Data.List.Sort
import Mathlib.Data.List.Destutter
import Kahea.Base.Unicode

/-!
# Text

Strings and byte strings as lists, with the operations of a standard string
library that the programs of this development are written in: stripping a
prefix, splitting at the first occurrence of a separator, replacing every
occurrence of a pattern, trimming, and comparing without regard to ASCII case.

A string is the list of its characters. That keeps every operation a
structural recursion, so a closed term evaluates, and every fact about
substrings is a fact about `List.IsInfix`.

`replaceAll` is the left-to-right, non-overlapping replacement: once a match is
found the replacement text is emitted and never scanned again. The scan
carries the number of characters still to be skipped, which makes it
structural in the text instead of well-founded in its length.

## Main definitions

* `Str`: A string, as the list of its characters.
* `stripPrefix`, `stripSuffix`: Removing an expected end of a list.
* `splitOnce`: Splitting at the first occurrence of a separator.
* `replaceAll`: Replacing every non-overlapping occurrence of a pattern.
* `lower`, `upper`, `eqIgnoreCase`: ASCII case.
* `trim`: Removing white space at both ends.
* `utf8`: The bytes of a string.
* `decimal`, `debugQuote`: Numbers and quoted text as they are printed.
* `sortBy`, `sortStrings`, `dedup`: Sorting and removing repetitions.

## Theorems

* `stripPrefix_eq_some`: What stripping a prefix returns.
* `splitOnce_eq_some`: What splitting returns puts the text back together.
* `splitOnce_append`: The first occurrence stays the first.
* `replaceAll_of_not_infix`: Without an occurrence nothing is replaced.
* `utf8_append`: The bytes of a concatenation.
* `decimal_injective`: Distinct numbers print differently.
* `isDigit_of_mem_decimal`: Only digits are printed.
-/

namespace Kahea

/-- A string, as the list of its characters. -/
abbrev Str := List Char

instance : Coe String Str := ⟨String.toList⟩

variable {α : Type} [DecidableEq α]

/-- The rest of the list after an expected prefix. -/
def stripPrefix : List α → List α → Option (List α)
  | [], s => some s
  | _ :: _, [] => none
  | p :: ps, c :: cs => if p = c then stripPrefix ps cs else none

theorem stripPrefix_eq_some (p s r : List α) :
    stripPrefix p s = some r ↔ s = p ++ r := by
  induction p generalizing s with
  | nil => simp only [stripPrefix, Option.some.injEq, List.nil_append]
  | cons a ps ih =>
      cases s with
      | nil => simp only [stripPrefix, reduceCtorEq, List.cons_append]
      | cons c cs =>
          by_cases hac : a = c
          · subst hac
            rw [stripPrefix, if_pos rfl, ih, List.cons_append, List.cons.injEq, and_iff_right rfl]
          · rw [stripPrefix, if_neg hac, List.cons_append, List.cons.injEq]
            simp only [reduceCtorEq, false_iff, not_and]
            exact fun h => absurd h.symm hac

@[simp] theorem stripPrefix_append (p r : List α) : stripPrefix p (p ++ r) = some r :=
  (stripPrefix_eq_some p _ r).mpr rfl

/-- The rest of the list before an expected suffix. -/
def stripSuffix (p s : List α) : Option (List α) :=
  (stripPrefix p.reverse s.reverse).map List.reverse

/-- Whether a list begins with a given one. -/
def startsWith (p s : List α) : Bool := p.isPrefixOf s

/-- Whether a list ends with a given one. -/
def endsWith (p s : List α) : Bool := p.isSuffixOf s

/-- The text before and after the first occurrence of a separator. -/
def splitOnce (p : List α) : List α → Option (List α × List α)
  | [] => (stripPrefix p []).map (fun r => ([], r))
  | c :: cs => match stripPrefix p (c :: cs) with
    | some r => some ([], r)
    | none => (splitOnce p cs).map (fun ab => (c :: ab.1, ab.2))

theorem splitOnce_eq_some (p s a b : List α) (h : splitOnce p s = some (a, b)) :
    s = a ++ p ++ b := by
  induction s generalizing a with
  | nil =>
      simp only [splitOnce, Option.map_eq_some_iff, Prod.mk.injEq] at h
      rcases h with ⟨r, hr, rfl, rfl⟩
      exact (stripPrefix_eq_some p _ r).mp hr
  | cons c cs ih =>
      simp only [splitOnce] at h
      cases hr : stripPrefix p (c :: cs) with
      | some r =>
          rw [hr, Option.some.injEq, Prod.mk.injEq] at h
          rw [← h.1, ← h.2]
          exact (stripPrefix_eq_some p _ r).mp hr
      | none =>
          rw [hr] at h
          simp only [Option.map_eq_some_iff, Prod.mk.injEq, Prod.exists] at h
          rcases h with ⟨a', b', hab, rfl, rfl⟩
          rw [ih a' hab, List.cons_append, List.cons_append]

theorem splitOnce_length {p s a b : List α} (h : splitOnce p s = some (a, b)) :
    p.length ≤ s.length := by
  rw [splitOnce_eq_some p s a b h]
  simp only [List.length_append]
  omega

/-- The first occurrence stays the first when text is appended. -/
theorem splitOnce_append {p s a b : List α} (h : splitOnce p s = some (a, b)) (t : List α) :
    splitOnce p (s ++ t) = some (a, b ++ t) := by
  induction s generalizing a with
  | nil =>
      simp only [splitOnce, Option.map_eq_some_iff, Prod.mk.injEq] at h
      rcases h with ⟨r, hr, rfl, rfl⟩
      have hp : p = [] := by
        rcases List.append_eq_nil_iff.mp ((stripPrefix_eq_some p _ r).mp hr).symm with ⟨hp, _⟩
        exact hp
      rw [hp, stripPrefix, Option.some.injEq] at hr
      subst hp hr
      cases t <;> rfl
  | cons c cs ih =>
      simp only [splitOnce] at h
      rw [List.cons_append, splitOnce]
      cases hr : stripPrefix p (c :: cs) with
      | some r =>
          rw [hr, Option.some.injEq, Prod.mk.injEq] at h
          have hs : c :: (cs ++ t) = p ++ (r ++ t) := by
            rw [← List.append_assoc, ← (stripPrefix_eq_some p _ r).mp hr, List.cons_append]
          rw [hs, stripPrefix_append, ← h.1, ← h.2]
      | none =>
          rw [hr] at h
          simp only [Option.map_eq_some_iff, Prod.mk.injEq, Prod.exists] at h
          rcases h with ⟨a', b', hab, rfl, rfl⟩
          -- A new match could only start here if it fitted into the old text.
          have hnone : stripPrefix p (c :: (cs ++ t)) = none := by
            rcases hm : stripPrefix p (c :: (cs ++ t)) with _ | r
            · rfl
            · have hpre : p <+: c :: cs := by
                refine List.prefix_of_prefix_length_le ⟨r, ?_⟩ (List.prefix_append (c :: cs) t) ?_
                · exact ((stripPrefix_eq_some p _ r).mp hm).symm
                · exact Nat.le_succ_of_le (splitOnce_length hab)
              rcases hpre with ⟨q, hq⟩
              rw [← hq, stripPrefix_append] at hr
              cases hr
          rw [hnone, ih hab]
          rfl

/-- The first separator of one character is the first occurrence of it. -/
theorem splitOnce_singleton {c : α} {s : List α} (h : c ∉ s)
    (t : List α) : splitOnce [c] (s ++ c :: t) = some (s, t) := by
  induction s with
  | nil =>
      rw [List.nil_append, splitOnce]
      simp only [stripPrefix, if_true]
  | cons d s ih =>
      rw [List.mem_cons, not_or] at h
      rw [List.cons_append, splitOnce]
      simp only [stripPrefix, if_neg h.1, ih h.2, Option.map_some]

theorem stripSuffix_append (s p : List α) :
    stripSuffix p (s ++ p) = some s := by
  rw [stripSuffix, List.reverse_append, stripPrefix_append, Option.map_some, List.reverse_reverse]

/-- The scan of `replaceAll`: `skip` characters of the last match are still to
    be passed over. -/
def replaceFrom (p w : List α) : Nat → List α → List α
  | _, [] => []
  | skip + 1, _ :: cs => replaceFrom p w skip cs
  | 0, c :: cs =>
      if startsWith p (c :: cs) then w ++ replaceFrom p w (p.length - 1) cs
      else c :: replaceFrom p w 0 cs

/-- Replace every non-overlapping occurrence of a non-empty pattern, left to
    right. An empty pattern is never passed in. -/
def replaceAll (p w s : List α) : List α :=
  if p = [] then s else replaceFrom p w 0 s

theorem replaceFrom_skip (p w : List α) (n : Nat) (s : List α) :
    replaceFrom p w n s = replaceFrom p w 0 (s.drop n) := by
  induction n generalizing s with
  | zero => rw [List.drop_zero]
  | succ k ih =>
      cases s with
      | nil => simp only [replaceFrom, List.drop_nil]
      | cons c cs => rw [replaceFrom, List.drop_succ_cons, ih]

/-- Where the pattern does not match, the scan moves on by one character. -/
theorem replaceFrom_cons (p w : List α) (c : α) (cs : List α)
    (h : startsWith p (c :: cs) = false) :
    replaceFrom p w 0 (c :: cs) = c :: replaceFrom p w 0 cs := by
  rw [replaceFrom, h, if_neg Bool.false_ne_true]

/-- Where the pattern matches, it is replaced and passed over. -/
theorem replaceFrom_append (p w s : List α) (h : p ≠ []) :
    replaceFrom p w 0 (p ++ s) = w ++ replaceFrom p w 0 s := by
  cases p with
  | nil => exact absurd rfl h
  | cons a ps =>
      have hpre : startsWith (a :: ps) (a :: (ps ++ s)) = true :=
        List.isPrefixOf_iff_prefix.mpr ⟨s, rfl⟩
      rw [List.cons_append, replaceFrom, if_pos hpre, replaceFrom_skip, List.length_cons,
        Nat.add_sub_cancel, List.drop_left]

theorem replaceAll_of_not_infix (p w s : List α) (h : ¬ p <:+: s) : replaceAll p w s = s := by
  unfold replaceAll
  split
  · rfl
  induction s with
  | nil => rfl
  | cons c cs ih =>
      have hpre : startsWith p (c :: cs) = false := by
        rw [startsWith, Bool.eq_false_iff, Ne, List.isPrefixOf_iff_prefix]
        exact fun hp => h hp.isInfix
      rw [replaceFrom_cons p w c cs hpre, ih (fun hi => h (List.IsInfix.trans hi (List.suffix_cons c cs).isInfix))]

/-- Whether a text is one of some names. -/
def oneOf (names : List String) (s : Str) : Bool := names.any (fun n => n.toList == s)

/-- ASCII lower case. -/
def lower (s : Str) : Str := s.map Char.toLower

/-- ASCII upper case. -/
def upper (s : Str) : Str := s.map Char.toUpper

/-- Equality up to ASCII case. -/
def eqIgnoreCase (a b : Str) : Bool := lower a = lower b

/-- The characters with the Unicode property `White_Space`. -/
def isWhiteSpace (c : Char) : Bool :=
  let n := c.toNat
  (9 ≤ n && n ≤ 13) || n = 0x20 || n = 0x85 || n = 0xA0 || n = 0x1680 ||
    (0x2000 ≤ n && n ≤ 0x200A) || n = 0x2028 || n = 0x2029 || n = 0x202F || n = 0x205F ||
    n = 0x3000

/-- Remove white space at both ends. -/
def trim (s : Str) : Str := (s.dropWhile isWhiteSpace).rdropWhile isWhiteSpace

/-- Remove a character repeated at the end. -/
def trimEndMatches (c : Char) (s : Str) : Str := s.rdropWhile (· == c)

/-- The control characters: C0, delete and C1. -/
def isControl (c : Char) : Bool :=
  c.toNat < 0x20 || (0x7F ≤ c.toNat && c.toNat < 0xA0)

/-- The UTF-8 bytes of a string. -/
def utf8 (s : Str) : List UInt8 := s.flatMap String.utf8EncodeChar

@[simp] theorem utf8_append (s t : Str) : utf8 (s ++ t) = utf8 s ++ utf8 t :=
  List.flatMap_append

/-- The number of unsigned 64-bit integers. -/
def u64Bound : Nat := 18446744073709551616

/-- A natural number in decimal. -/
def decimal (n : Nat) : Str := Nat.toDigits 10 n

theorem decimal_injective : Function.Injective decimal := by
  intro m n h
  rw [← Nat.ofDigitChars_ten_toDigits (n := m), ← Nat.ofDigitChars_ten_toDigits (n := n)]
  exact congrArg (Nat.ofDigitChars 10 · 0) h

theorem isDigit_of_mem_decimal {c : Char} {n : Nat} (h : c ∈ decimal n) : c.isDigit :=
  Nat.isDigit_of_mem_toDigits (by omega) (by omega) h

/-- A hexadecimal digit in lower case. -/
def hexDigit (n : Nat) : Char := (Nat.toDigits 16 n).headD '0'

/-- A text as the debug format prints it. -/
def debugQuote (s : Str) : Str :=
  '"' :: (s.flatMap (fun c =>
    if c = '"' then "\\\"".toList else if c = '\\' then "\\\\".toList
    else if c = '\n' then "\\n".toList else if c = '\r' then "\\r".toList
    else if c = '\t' then "\\t".toList else if c.toNat = 0 then "\\0".toList
    else if isPrinted c then [c]
    else "\\u\x7b".toList ++ Nat.toDigits 16 c.toNat ++ ['\x7d']) ++ ['"'])

/-- The separator between each two of the parts. -/
def join (sep : Str) (parts : List Str) : Str := List.intercalate sep parts

/-! ### Order -/

/-- The order of strings by code point, which is the order of their bytes. -/
def strLt : Str → Str → Bool
  | _, [] => false
  | [], _ :: _ => true
  | a :: as, b :: bs => a < b || (a = b && strLt as bs)

/-- The reflexive order of strings. -/
def strLe (a b : Str) : Bool := !strLt b a

/-- Stable sort by a key, in the order of strings. -/
def sortBy {β : Type} (key : β → Str) (l : List β) : List β :=
  l.insertionSort (fun a b => strLe (key a) (key b))

/-- Sorted strings. -/
def sortStrings (l : List Str) : List Str := sortBy id l

/-- Of each run of equal neighbours only the first. -/
def dedup {β : Type} [DecidableEq β] (l : List β) : List β := l.destutter (· ≠ ·)

theorem dedup_of_nodup {β : Type} [DecidableEq β] {l : List β} (h : l.Nodup) : dedup l = l :=
  List.destutter_of_isChain _ l h.isChain

@[simp] theorem mem_sortBy {β : Type} (key : β → Str) (l : List β) (x : β) :
    x ∈ sortBy key l ↔ x ∈ l := List.mem_insertionSort _

@[simp] theorem mem_sortStrings (l : List Str) (x : Str) : x ∈ sortStrings l ↔ x ∈ l :=
  mem_sortBy id l x

theorem mem_destutter' {β : Type} [DecidableEq β] (a : β) (l : List β) (x : β) :
    x ∈ l.destutter' (· ≠ ·) a ↔ x = a ∨ x ∈ l := by
  induction l generalizing a with
  | nil => simp only [List.destutter'_nil, List.mem_singleton, List.not_mem_nil, or_false]
  | cons b rest ih =>
      by_cases hab : a = b
      · rw [List.destutter'_cons_neg _ (not_not.mpr hab), ih, hab]
        simp only [List.mem_cons, or_self_left]
      · rw [List.destutter'_cons_pos _ hab, List.mem_cons, ih, List.mem_cons]

@[simp] theorem mem_dedup {β : Type} [DecidableEq β] (l : List β) (x : β) :
    x ∈ dedup l ↔ x ∈ l := by
  cases l with
  | nil => rfl
  | cons a rest =>
      rw [dedup, List.destutter_cons', mem_destutter', List.mem_cons]

end Kahea
