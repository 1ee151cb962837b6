import Kahea.Base.Json
import Kahea.Base.Search
import Mathlib.Data.Nat.Digits.Lemmas
import Mathlib.Data.List.Perm.Basic

/-!
# Overwriting at JSON Pointers

`Value.overwrite` puts a value at a location, if the location exists.
`replaceAt` is the partial form of it that the programs use: it fails where
there is no such location.

Overwriting at one location after another is an unordered thing as long as the
same value is written everywhere, and that value has no children: an overwrite
under an earlier one finds nothing, and an overwrite above an earlier one
removes it. `overwrite_comm` is that fact, and the two orders of a pair are all
that sorting a list of locations needs.

## Main definitions

* `Value.onChild`: A value with the child of one token rewritten.
* `Value.overwrite`: A value with the part at a location replaced.
* `Value.Leaf`: A value no token leads into.
* `escapeTokenChar`: One character of an escaped token.

## Theorems

* `parseIndex_inj`: An array index has one spelling.
* `overwrite_comm`: Two overwrites commute.
* `descend_overwrite_stable`: A location that is overwritten or missing stays so.
* `descend_overwrite_apart`: An overwrite elsewhere is not seen.
* `unescapeToken_escaped`: An escaped token is read back.
-/

namespace Kahea

/-! ### Array indices -/

/-- The decimal digits a text is read as, the last one first. -/
def digitValues (s : Str) : List Nat := (s.map (fun c => c.toNat - '0'.toNat)).reverse

theorem ofDigits_digitValues (s : Str) :
    s.foldl (fun acc c => acc * 10 + (c.toNat - '0'.toNat)) 0 = Nat.ofDigits 10 (digitValues s) := by
  induction s using List.reverseRecOn with
  | nil => rfl
  | append_singleton s c ih =>
      rw [List.foldl_append, ih]
      simp only [digitValues, List.foldl_cons, List.foldl_nil, List.map_append, List.map_cons,
        List.map_nil, List.reverse_append, List.reverse_cons, List.reverse_nil, List.nil_append,
        List.cons_append, Nat.ofDigits_cons]
      omega

/-- What an accepted index text is. -/
theorem parseIndex_digits {s : Str} {n : Nat} (h : parseIndex s = some n) :
    (∀ c ∈ s, c.isDigit) ∧ (∀ rest, s = '0' :: rest → rest = []) ∧ s ≠ [] ∧
      Nat.ofDigits 10 (digitValues s) = n := by
  unfold parseIndex at h
  split_ifs at h with hfront
  simp only [Bool.or_eq_true, Bool.and_eq_true, decide_eq_true_eq, not_or, not_and, not_not] at hfront
  rcases hfront with ⟨hplus, hzero⟩
  -- Without a sign in front the text itself is the digits.
  have hself : (stripPrefix "+" s).getD s = s := by
    cases hstrip : stripPrefix "+" s with
    | none => rfl
    | some rest =>
        rw [stripPrefix_eq_some] at hstrip
        refine absurd ?_ hplus
        rw [hstrip, startsWith, List.isPrefixOf_iff_prefix]
        exact List.prefix_append _ _
  rw [parseUnsigned, hself] at h
  dsimp only at h
  split_ifs at h with hdigits hbound
  rw [List.all_eq_true] at hdigits
  refine ⟨hdigits.2, fun rest hrest => ?_, hdigits.1, ?_⟩
  · have hlength : s.length = 1 := by
      refine hzero ?_
      rw [hrest, startsWith, List.isPrefixOf_iff_prefix]
      exact List.prefix_append ['0'] rest
    rw [hrest, List.length_cons] at hlength
    exact List.length_eq_zero_iff.mp (by omega)
  · rw [← ofDigits_digitValues]
    exact Option.some.inj h

/-- Digits are told from their values. -/
theorem digitValues_inj {s t : Str} (hs : ∀ c ∈ s, c.isDigit) (ht : ∀ c ∈ t, c.isDigit)
    (h : digitValues s = digitValues t) : s = t := by
  have hmap := List.reverse_injective h
  clear h
  induction s generalizing t with
  | nil =>
      rw [List.map_nil] at hmap
      exact (List.map_eq_nil_iff.mp hmap.symm).symm
  | cons c s ih =>
      cases t with
      | nil => exact absurd hmap (List.cons_ne_nil _ _)
      | cons d t =>
          rw [List.map_cons, List.map_cons, List.cons.injEq] at hmap
          rw [List.forall_mem_cons] at hs ht
          -- Digits with the same value are the same character.
          have hhead : c = d := by
            have hc := hs.1
            have hd := ht.1
            simp only [Char.isDigit, Bool.and_eq_true, decide_eq_true_eq, ge_iff_le,
              UInt32.le_iff_toNat_le] at hc hd
            have hcd : c.toNat - '0'.toNat = d.toNat - '0'.toNat := hmap.1
            refine Char.ext (UInt32.toNat_inj.mp ?_)
            simp only [Char.toNat] at hcd
            omega
          rw [hhead, ih hs.2 ht.2 hmap.2]

/-- The digits of an index other than zero are the digits of the number. -/
theorem digits_of_parseIndex {s : Str} {n : Nat} (h : parseIndex s = some n) (hs : s ≠ ['0']) :
    digitValues s = Nat.digits 10 n := by
  rcases parseIndex_digits h with ⟨hdigits, hzero, hne, hvalue⟩
  rw [← hvalue]
  refine (Nat.digits_ofDigits 10 (by omega) _ (fun l hl => ?_) (fun hnil => ?_)).symm
  · rw [digitValues, List.mem_reverse, List.mem_map] at hl
    rcases hl with ⟨c, hc, rfl⟩
    have hdigit := hdigits c hc
    simp only [Char.isDigit, Bool.and_eq_true, decide_eq_true_eq, ge_iff_le,
      UInt32.le_iff_toNat_le] at hdigit
    simp only [Char.toNat]
    have h9 : '9'.val.toNat = 57 := rfl
    have h0 : '0'.val.toNat = 48 := rfl
    omega
  · -- The last of the reversed digits is the first of the text.
    rcases List.exists_cons_of_ne_nil hne with ⟨c, rest, rfl⟩
    simp only [digitValues, List.map_cons, List.reverse_cons, List.getLast_append_singleton]
    intro hc
    have hdigit := hdigits c List.mem_cons_self
    simp only [Char.isDigit, Bool.and_eq_true, decide_eq_true_eq, ge_iff_le,
      UInt32.le_iff_toNat_le] at hdigit
    have hc0 : c = '0' := by
      refine Char.ext (UInt32.toNat_inj.mp ?_)
      simp only [Char.toNat] at hc
      omega
    subst hc0
    exact hs (by rw [hzero rest rfl])

/-- One index has one spelling. -/
theorem parseIndex_inj {s t : Str} {n : Nat} (hs : parseIndex s = some n)
    (ht : parseIndex t = some n) : s = t := by
  have hsd := parseIndex_digits hs
  have htd := parseIndex_digits ht
  -- Zero has no digits, so a text of digits cannot stand for it unless it is "0".
  have hzero {u : Str} (hu : parseIndex u = some 0) : u = ['0'] := by
    by_contra hne
    have hnil := digits_of_parseIndex hu hne
    rw [Nat.digits_zero, digitValues, List.reverse_eq_nil_iff, List.map_eq_nil_iff] at hnil
    exact (parseIndex_digits hu).2.2.1 hnil
  by_cases hn : n = 0
  · subst hn
    rw [hzero hs, hzero ht]
  · have hother {u : Str} (hu : parseIndex u = some n) : u ≠ ['0'] := by
      rintro rfl
      exact hn (Option.some.inj (hu.symm.trans (by decide)))
    refine digitValues_inj hsd.1 htd.1 ?_
    rw [digits_of_parseIndex hs (hother hs), digits_of_parseIndex ht (hother ht)]

/-! ### One child -/

/-- The first member of a name rewritten. -/
def modifyMember {β : Type} (k : Str) (f : β → β) : List (Str × β) → List (Str × β)
  | [] => []
  | (l, v) :: rest => if l = k then (l, f v) :: rest else (l, v) :: modifyMember k f rest

/-- A member after a change of one of them. -/
theorem lookup_modifyMember {β : Type} (k l : Str) (f : β → β) (m : List (Str × β)) :
    lookup l (modifyMember k f m) = if l = k then (lookup l m).map f else lookup l m := by
  induction m with
  | nil => by_cases h : l = k <;> simp [modifyMember, lookup]
  | cons e m ih =>
      rcases e with ⟨name, v⟩
      unfold modifyMember
      by_cases hname : name = k
      · rw [if_pos hname]
        by_cases hl : l = k
        · simp [lookup, hname, hl]
        · rw [if_neg hl, lookup, lookup, if_neg (hname ▸ Ne.symm hl), if_neg (hname ▸ Ne.symm hl)]
      · rw [if_neg hname]
        by_cases hl : name = l
        · simp [lookup, hl, hl ▸ hname]
        · simp only [lookup, if_neg hl, ih]

/-- Setting a member that is there changes it. -/
theorem setMember_eq_modify {β : Type} {k : Str} {v : β} {m : List (Str × β)} (f : β → β)
    (h : lookup k m = some v) : setMember k (f v) m = modifyMember k f m := by
  induction m with
  | nil => exact absurd h (Option.some_ne_none v).symm
  | cons e m ih =>
      rcases e with ⟨name, w⟩
      unfold setMember modifyMember
      by_cases hname : name = k
      · rw [lookup, if_pos hname, Option.some.injEq] at h
        rw [if_pos hname, if_pos hname, h]
      · rw [lookup, if_neg hname] at h
        rw [if_neg hname, if_neg hname, ih h]

theorem modifyMember_eq_self {β : Type} {k : Str} {f : β → β} {m : List (Str × β)}
    (h : ∀ v, lookup k m = some v → f v = v) : modifyMember k f m = m := by
  induction m with
  | nil => rfl
  | cons e m ih =>
      rcases e with ⟨name, w⟩
      unfold modifyMember
      by_cases hname : name = k
      · rw [if_pos hname, h w (if_pos hname)]
      · rw [if_neg hname, ih (fun v hv => h v ((if_neg hname).trans hv))]

/-- Changes that commute may be made in either order, also of one member. -/
theorem modifyMember_comm {β : Type} (k l : Str) {f g : β → β} (h : ∀ v, f (g v) = g (f v))
    (m : List (Str × β)) :
    modifyMember k f (modifyMember l g m) = modifyMember l g (modifyMember k f m) := by
  induction m with
  | nil => rfl
  | cons e m ih =>
      rcases e with ⟨name, v⟩
      by_cases hk : name = k <;> by_cases hl : name = l <;> simp [modifyMember, hk, hl, h, ih] <;>
        simp_all [modifyMember]

/-- A value with the child of a token rewritten, if it has one. -/
def Value.onChild (token : Str) (f : Value → Value) : Value → Value
  | .object m => .object (modifyMember token f m)
  | .array xs => .array ((parseIndex token).elim xs (fun i => xs.modify i f))
  | v => v

/-- The child changed. -/
theorem Value.child_onChild_self (token : Str) (f : Value → Value) (v : Value) :
    (v.onChild token f).child token = (v.child token).map f := by
  cases v with
  | object m => simp only [onChild, child, lookup_modifyMember, if_pos]
  | array xs =>
      simp only [onChild, child]
      cases parseIndex token with
      | none => rfl
      | some i => simp
  | null => rfl
  | bool b => rfl
  | number n => rfl
  | string s => rfl

/-- Every other child is left as it was. -/
theorem Value.child_onChild_ne {token other : Str} (h : other ≠ token) (f : Value → Value)
    (v : Value) : (v.onChild token f).child other = v.child other := by
  cases v with
  | object m => simp only [onChild, child, lookup_modifyMember, if_neg h]
  | array xs =>
      simp only [onChild, child]
      cases hi : parseIndex token with
      | none => rfl
      | some i =>
          cases hj : parseIndex other with
          | none => rfl
          | some j =>
              -- Distinct tokens are distinct indices.
              have hij : i ≠ j := by
                rintro rfl
                exact h (parseIndex_inj hj hi)
              simp [List.getElem?_modify_ne _ _ hij]
  | null => rfl
  | bool b => rfl
  | number n => rfl
  | string s => rfl

/-- Changes of children that commute may be made in either order. -/
theorem Value.onChild_comm (token other : Str) {f g : Value → Value} (h : ∀ v, f (g v) = g (f v))
    (v : Value) :
    (v.onChild other g).onChild token f = (v.onChild token f).onChild other g := by
  cases v with
  | object m => exact congrArg Value.object (modifyMember_comm token other h m)
  | array xs =>
      simp only [onChild]
      cases parseIndex token with
      | none => rfl
      | some i =>
          cases parseIndex other with
          | none => rfl
          | some j =>
              refine congrArg Value.array (List.ext_getElem? (fun n => ?_))
              simp only [Option.elim, List.getElem?_modify]
              by_cases hi : i = n <;> by_cases hj : j = n <;> simp [hi, hj, h, Function.comp_def]
  | null => rfl
  | bool b => rfl
  | number n => rfl
  | string s => rfl

/-- A change that does nothing to the child does nothing. -/
theorem Value.onChild_eq_self {token : Str} {f : Value → Value} {v : Value}
    (h : ∀ c, v.child token = some c → f c = c) : v.onChild token f = v := by
  cases v with
  | object m => exact congrArg Value.object (modifyMember_eq_self h)
  | array xs =>
      simp only [child] at h
      simp only [onChild]
      cases hi : parseIndex token with
      | none => rfl
      | some i =>
          -- An array changes at one index only, and there by nothing.
          refine congrArg Value.array (List.ext_getElem? (fun n => ?_))
          rw [hi, Option.bind_some] at h
          simp only [Option.elim, List.getElem?_modify]
          by_cases hn : i = n
          · subst hn
            cases hc : xs[i]? with
            | none => rfl
            | some c => simp [h c hc]
          · simp [hn]
  | null => rfl
  | bool b => rfl
  | number n => rfl
  | string s => rfl

/-! ### One location -/

/-- A value with the part at a location replaced, if it has such a part. -/
def Value.overwrite (w : Value) : List Str → Value → Value
  | [], _ => w
  | token :: rest, v => v.onChild token (Value.overwrite w rest)

/-- A value no token leads into. -/
def Value.Leaf (w : Value) : Prop := ∀ token, w.child token = none

theorem Value.descend_cons (v : Value) (token : Str) (rest : List Str) :
    v.descend (token :: rest) = (v.child token).bind (fun c => c.descend rest) := rfl

/-- Replacing fails exactly where there is no such location, and is the
    overwrite elsewhere. -/
theorem Value.replaceAt_eq (w : Value) (tokens : List Str) (v : Value) :
    Value.replaceAt w tokens v = (v.descend tokens).map (fun _ => w.overwrite tokens v) := by
  induction tokens generalizing v with
  | nil => rfl
  -- By the tokens; an object and an array are the two values that have children.
  | cons token rest ih =>
      rw [descend_cons]
      cases v with
      | object m =>
          rw [replaceAt, child]
          cases hm : lookup token m with
          | none => rfl
          | some c =>
              rw [Option.bind_some, Option.bind_some, ih, Option.map_map]
              congr 1
              ext _
              simp only [Function.comp, overwrite, onChild, setMember_eq_modify _ hm]
      | array xs =>
          rw [replaceAt, child]
          cases hi : parseIndex token with
          | none => rfl
          | some i =>
              rw [Option.bind_some, Option.bind_some]
              cases hc : xs[i]? with
              | none => rfl
              | some c =>
                  rw [Option.bind_some, Option.bind_some, ih, Option.map_map]
                  congr 1
                  ext _
                  simp only [Function.comp, overwrite, onChild, hi, Option.elim,
                    List.modify_eq_set_getElem?, hc, Option.map_some, Option.getD_some,
                    Option.map_eq_map]
      | null => rfl
      | bool b => rfl
      | number n => rfl
      | string s => rfl

/-- An overwrite of a location that does not exist does nothing. -/
theorem Value.overwrite_of_descend {w : Value} {tokens : List Str} {v : Value}
    (h : v.descend tokens = none) : w.overwrite tokens v = v := by
  induction tokens generalizing v with
  | nil => exact absurd h (Option.some_ne_none v)
  | cons token rest ih =>
      refine onChild_eq_self (fun c hc => ih ?_)
      rw [descend_cons, hc] at h
      exact h

/-- A leaf overwritten by itself stays. -/
theorem Value.Leaf.overwrite {w : Value} (hw : w.Leaf) (tokens : List Str) :
    w.overwrite tokens w = w := by
  cases tokens with
  | nil => rfl
  | cons token rest => exact onChild_eq_self (fun c hc => by rw [hw token] at hc; exact absurd hc (Option.some_ne_none c).symm)

/-- Two overwrites commute: under the other one there is nothing left to find,
    and above it nothing left of it. -/
theorem Value.overwrite_comm {w : Value} (hw : w.Leaf) (p q : List Str) (v : Value) :
    w.overwrite p (w.overwrite q v) = w.overwrite q (w.overwrite p v) := by
  induction p generalizing q v with
  | nil => exact (hw.overwrite q).symm
  | cons token p ih =>
      cases q with
      | nil => exact hw.overwrite (token :: p)
      | cons other q => exact onChild_comm token other (ih q) v

/-- A location that holds the written value, or is missing, stays so. -/
theorem Value.descend_overwrite_stable {w : Value} (hw : w.Leaf) {p : List Str} (q : List Str)
    {v : Value} (h : v.descend p = none ∨ v.descend p = some w) :
    (w.overwrite q v).descend p = none ∨ (w.overwrite q v).descend p = some w := by
  induction p generalizing q v with
  | nil =>
      rcases h with h | h
      · exact absurd h (Option.some_ne_none v)
      · right
        rw [Option.some.inj h]
        exact congrArg some (hw.overwrite q)
  | cons token p ih =>
      rw [descend_cons] at h ⊢
      cases q with
      -- The value put in is a leaf, so nothing is below it.
      | nil =>
          left
          show (w.child token).bind _ = none
          rw [hw token]
          rfl
      | cons other q =>
          unfold Value.overwrite
          -- The same child is overwritten further down; another one is untouched.
          by_cases hother : token = other
          · subst hother
            rw [child_onChild_self]
            cases hc : v.child token with
            | none => exact Or.inl rfl
            | some c =>
                rw [hc] at h
                exact ih q h
          · rw [child_onChild_ne hother]
            exact h

/-- What was just written is there, if the location is. -/
theorem Value.descend_overwrite_self (w : Value) (p : List Str) (v : Value) :
    (w.overwrite p v).descend p = none ∨ (w.overwrite p v).descend p = some w := by
  induction p generalizing v with
  | nil => exact Or.inr rfl
  | cons token p ih =>
      rw [descend_cons, overwrite, child_onChild_self]
      cases v.child token with
      | none => exact Or.inl rfl
      | some c => exact ih c

/-- An overwrite is not seen from a location neither under nor above it. -/
theorem Value.descend_overwrite_apart (w : Value) {p q : List Str} (hpq : ¬ p <+: q)
    (hqp : ¬ q <+: p) (v : Value) : (w.overwrite q v).descend p = v.descend p := by
  induction p generalizing q v with
  | nil => exact absurd List.nil_prefix hpq
  | cons token p ih =>
      cases q with
      | nil => exact absurd List.nil_prefix hqp
      | cons other q =>
          rw [overwrite, descend_cons, descend_cons]
          by_cases hother : token = other
          · subst hother
            rw [List.prefix_cons_inj] at hpq hqp
            rw [child_onChild_self]
            cases v.child token with
            | none => rfl
            | some c => exact ih hpq hqp c
          · rw [child_onChild_ne hother]

theorem Value.leaf_string (s : Str) : (Value.string s).Leaf := fun _ => rfl

/-! ### Escaped tokens -/

/-- One character of an escaped token. -/
def escapeTokenChar (c : Char) : Str :=
  if c = '~' then "~0" else if c = '/' then "~1" else [c]

/-- The escaping of a path segment, letter by letter. -/
theorem escapeSegment_eq (k : Str) :
    replaceAll "/" "~1" (replaceAll "~" "~0" k) = k.flatMap escapeTokenChar := by
  have hslash := replaceAll_singleton '/' "~1".toList
  have htilde := replaceAll_singleton '~' "~0".toList
  change replaceAll ['/'] "~1".toList (replaceAll ['~'] "~0".toList k) = _
  rw [htilde, hslash, List.flatMap_assoc]
  congr 1
  ext c
  unfold escapeTokenChar
  by_cases hc : c = '~'
  · simp [hc]
  · by_cases hs : c = '/'
    · simp [hs]
    · simp [hc, hs]

/-- A token is read back from how it is escaped. -/
theorem unescapeToken_escaped (k : Str) : unescapeToken (k.flatMap escapeTokenChar) = k := by
  -- First `~1` is read back: no other escape begins with it.
  have hslash : replaceAll "~1" "/" (k.flatMap escapeTokenChar) =
      k.flatMap (fun c => if c = '~' then "~0".toList else [c]) := by
    refine replaceAll_flatMap (by decide) (fun c rest => ?_) k
    unfold escapeTokenChar
    by_cases hc : c = '~'
    · have htilde : startsWith "~1" ('~' :: '0' :: rest) = false := by
        rw [startsWith, Bool.eq_false_iff, Ne, List.isPrefixOf_iff_prefix]
        intro hpre
        have hsecond := (List.cons_prefix_cons.mp (List.cons_prefix_cons.mp hpre).2).1
        exact absurd hsecond (by decide)
      rw [if_pos hc, if_pos hc]
      change replaceFrom "~1".toList "/".toList 0 ('~' :: '0' :: rest) = '~' :: '0' :: _
      have hzero : startsWith ['~', '1'] ('0' :: rest) = false := startsWith_eq_false (by decide)
      rw [replaceFrom_cons _ _ _ _ htilde]
      exact congrArg (List.cons '~') (replaceFrom_cons _ _ _ _ hzero)
    · rw [if_neg hc, if_neg hc]
      by_cases hs : c = '/'
      · rw [if_pos hs, hs]
        exact replaceFrom_append "~1".toList _ rest (by decide)
      · rw [if_neg hs]
        exact replaceFrom_cons _ _ _ _ (startsWith_eq_false (Ne.symm hc))
  -- Then `~0`, in what has no other escape left.
  have htilde : replaceAll "~0" "~" (k.flatMap (fun c => if c = '~' then "~0".toList else [c])) =
      k.flatMap (fun c => [c]) := by
    refine replaceAll_flatMap (by decide) (fun c rest => ?_) k
    by_cases hc : c = '~'
    · rw [if_pos hc, hc]
      exact replaceFrom_append "~0".toList _ rest (by decide)
    · rw [if_neg hc]
      exact replaceFrom_cons _ _ _ _ (startsWith_eq_false (Ne.symm hc))
  unfold unescapeToken
  rw [hslash, htilde, List.flatMap_singleton']

theorem slash_not_mem_escaped (k : Str) : '/' ∉ k.flatMap escapeTokenChar := by
  intro h
  rcases List.mem_flatMap.mp h with ⟨c, _, hc⟩
  unfold escapeTokenChar at hc
  by_cases ht : c = '~'
  · rw [if_pos ht] at hc
    exact absurd hc (by decide)
  · rw [if_neg ht] at hc
    by_cases hs : c = '/'
    · rw [if_pos hs] at hc
      exact absurd hc (by decide)
    · rw [if_neg hs, List.mem_singleton] at hc
      exact hs hc.symm

end Kahea
