import Kahea.Base.Text

/-!
# Searching and Replacing

What splitting at a pattern and replacing a pattern do, over any alphabet.

The first occurrence of a pattern splits a list in two, and it is the first one
exactly when the pattern does not occur earlier, not even with its last letter
at the split (`splitOnce_iff`). A replacement by something shorter shortens the
list exactly when it finds something (`replaceAll_length`).

## Main definitions

* `Trimmed`: No white space at the ends.
* `trimStartMatches`: Taking a prefix off as often as it is there.

## Theorems

* `splitOnce_eq_none`: When there is nothing to split at.
* `splitOnce_iff`: What the two parts are.
* `infix_append_cons_iff`: An occurrence without a letter is on one side of it.
* `replaceAll_length`: When a shortening replacement shortens.
* `Trimmed.trim_eq`, `trimmed_trim`: What trimming leaves.
-/

namespace Kahea

/-- A list without a letter occurs on one side of it. -/
theorem infix_append_cons_iff {α : Type} {c : α} {s a b : List α} (h : c ∉ s) :
    s <:+: a ++ c :: b ↔ s <:+: a ∨ s <:+: b := by
  constructor
  · intro hs
    -- A list without the element cannot lie across it.
    rcases List.infix_append_iff.mp hs with hs | hs | ⟨u, v, rfl, hu, hv⟩
    · exact Or.inl hs
    · rcases List.infix_cons_iff.mp hs with hs | hs
      · cases s with
        | nil => exact Or.inl (List.nil_infix)
        | cons d s => exact absurd (by rw [(List.cons_prefix_cons.mp hs).1]; exact List.mem_cons_self) h
      · exact Or.inr hs
    · cases v with
      | nil =>
          rw [List.append_nil]
          exact Or.inl hu.isInfix
      | cons d v =>
          refine absurd ?_ h
          rw [← (List.cons_prefix_cons.mp hv).1]
          exact List.mem_append_right u List.mem_cons_self
  · rintro (hs | hs)
    · exact hs.trans (List.prefix_append a (c :: b)).isInfix
    · exact hs.trans ((List.suffix_cons c b).trans (List.suffix_append a (c :: b))).isInfix

variable {α : Type} [DecidableEq α]

/-- Nothing is stripped where the text does not start so. -/
theorem stripPrefix_eq_none {p s : List α} : stripPrefix p s = none ↔ ¬ p <+: s := by
  constructor
  · rintro h ⟨t, rfl⟩
    rw [(stripPrefix_eq_some p _ t).mpr rfl] at h
    exact Option.some_ne_none t h
  · intro h
    cases hs : stripPrefix p s with
    | none => rfl
    | some t =>
        rw [stripPrefix_eq_some] at hs
        exact absurd ⟨t, hs.symm⟩ h

/-! ### Splitting -/

/-- Nothing is split where the separator does not occur. -/
theorem splitOnce_eq_none {p s : List α} : splitOnce p s = none ↔ ¬ p <:+: s := by
  induction s with
  | nil => rw [splitOnce, Option.map_eq_none_iff, stripPrefix_eq_none, List.infix_nil, List.prefix_nil]
  | cons c s ih =>
      rw [splitOnce, List.infix_cons_iff, not_or]
      cases hstrip : stripPrefix p (c :: s) with
      | none =>
          rw [stripPrefix_eq_none] at hstrip
          rw [Option.map_eq_none_iff, ih, and_iff_right hstrip]
      | some t =>
          have hpre : p <+: c :: s := ⟨t, ((stripPrefix_eq_some p _ t).mp hstrip).symm⟩
          exact iff_of_false (Option.some_ne_none _) (fun h => h.1 hpre)

/-- The parts are those around the first occurrence: with its last letter cut
    off, the pattern does not occur up to the end of it. -/
theorem splitOnce_iff {p s a b : List α} (hp : p ≠ []) :
    splitOnce p s = some (a, b) ↔ s = a ++ p ++ b ∧ ¬ p <:+: a ++ p.dropLast := by
  have hpos : 0 < p.length := List.length_pos_iff.mpr hp
  induction s generalizing a with
  | nil =>
      refine iff_of_false (fun h => ?_) (fun h => ?_)
      · exact hp (List.infix_nil.mp (by
          by_contra hnone
          rw [splitOnce_eq_none.mpr hnone] at h
          exact Option.some_ne_none _ h.symm))
      · have hlength := congrArg List.length h.1
        rw [List.length_append, List.length_append, List.length_nil] at hlength
        omega
  | cons c s ih =>
      rw [splitOnce]
      cases hstrip : stripPrefix p (c :: s) with
      | some t =>
          have ht := (stripPrefix_eq_some p _ t).mp hstrip
          dsimp only
          rw [Option.some.injEq, Prod.mk.injEq]
          constructor
          · rintro ⟨rfl, rfl⟩
            refine ⟨ht, fun h => ?_⟩
            have hlength := h.length_le
            rw [List.nil_append, List.length_dropLast] at hlength
            omega
          · rintro ⟨hs, hfirst⟩
            cases a with
            | nil => exact ⟨rfl, List.append_cancel_left (ht.symm.trans hs)⟩
            | cons d a =>
                -- The pattern is in front, so it occurs before the end of a later one.
                refine absurd (List.IsPrefix.isInfix ?_) hfirst
                refine @List.prefix_of_prefix_length_le _ _ (d :: a ++ p.dropLast) _ ⟨t, ht.symm⟩ ?_ ?_
                · rw [hs, List.append_assoc]
                  exact List.prefix_append_right_inj (d :: a) |>.mpr
                    ((List.dropLast_prefix p).trans (List.prefix_append p b))
                · rw [List.length_append, List.length_dropLast, List.length_cons]
                  omega
      | none =>
          rw [stripPrefix_eq_none] at hstrip
          dsimp only
          rw [Option.map_eq_some_iff]
          constructor
          · rintro ⟨⟨a', b'⟩, hsplit, heq⟩
            cases heq
            rcases (ih).mp hsplit with ⟨rfl, hfirst⟩
            refine ⟨rfl, fun h => ?_⟩
            rw [List.cons_append, List.infix_cons_iff] at h
            rcases h with h | h
            · refine hstrip (h.trans ?_)
              rw [List.prefix_cons_inj, List.append_assoc]
              exact List.prefix_append_right_inj a' |>.mpr
                ((List.dropLast_prefix p).trans (List.prefix_append p b'))
            · exact hfirst h
          · rintro ⟨hs, hfirst⟩
            cases a with
            | nil =>
                refine absurd ?_ hstrip
                rw [hs]
                exact List.prefix_append p b
            | cons d a =>
                rw [List.cons_append, List.cons_append, List.cons.injEq] at hs
                rcases hs with ⟨rfl, hs⟩
                refine ⟨(a, b), ih.mpr ⟨hs, fun h => hfirst ?_⟩, rfl⟩
                rw [List.cons_append]
                exact h.trans (List.suffix_cons _ _).isInfix

/-! ### Replacing -/

/-- A replacement by something shorter never lengthens a list, and shortens it
    where it finds something. -/
theorem replaceAll_length {p w : List α} (hw : w.length < p.length) (s : List α) :
    (replaceAll p w s).length ≤ s.length ∧
      (p <:+: s → (replaceAll p w s).length < s.length) := by
  have hp : p ≠ [] := List.ne_nil_of_length_pos (by omega)
  unfold replaceAll
  rw [if_neg hp]
  -- By the length, since a match is stepped over at once.
  induction hn : s.length using Nat.strong_induction_on generalizing s with
  | _ n ih =>
      cases s with
      | nil =>
          refine ⟨Nat.zero_le _, fun h => ?_⟩
          exact absurd (List.infix_nil.mp h) hp
      | cons c s =>
          rw [List.length_cons] at hn
          -- A match gets shorter; elsewhere one character is copied.
          by_cases hstart : startsWith p (c :: s) = true
          · rw [startsWith, List.isPrefixOf_iff_prefix] at hstart
            rcases hstart with ⟨t, ht⟩
            have hlength := congrArg List.length ht
            rw [List.length_append, List.length_cons] at hlength
            have hrest := (ih t.length (by omega) t rfl).1
            rw [← ht, replaceFrom_append p w t hp, List.length_append]
            exact ⟨by omega, fun _ => by omega⟩
          · rw [Bool.not_eq_true] at hstart
            have hrest := ih s.length (by omega) s rfl
            rw [replaceFrom_cons p w c s hstart, List.length_cons]
            refine ⟨by omega, fun h => ?_⟩
            have htail : p <:+: s := by
              refine (List.infix_cons_iff.mp h).resolve_left (fun hpre => ?_)
              rw [startsWith, Bool.eq_false_iff, Ne, List.isPrefixOf_iff_prefix] at hstart
              exact hstart hpre
            have := hrest.2 htail
            omega

/-- Replacing a letter goes letter by letter. -/
theorem replaceAll_singleton (c : α) (w s : List α) :
    replaceAll [c] w s = s.flatMap (fun d => if d = c then w else [d]) := by
  unfold replaceAll
  rw [if_neg (List.cons_ne_nil c [])]
  induction s with
  | nil => rfl
  | cons d s ih =>
      rw [List.flatMap_cons]
      by_cases hd : d = c
      · rw [if_pos hd, hd, ← ih]
        exact replaceFrom_append [c] w s (List.cons_ne_nil c [])
      · have hstart : startsWith [c] (d :: s) = false := by
          rw [startsWith, Bool.eq_false_iff, Ne, List.isPrefixOf_iff_prefix, List.cons_prefix_cons]
          exact fun h => hd h.1.symm
        rw [if_neg hd, replaceFrom_cons [c] w d s hstart, ih]
        rfl

/-! ### Trimming -/

/-- No white space at the ends of a text. -/
def Trimmed (s : Str) : Prop :=
  (∀ c, s.head? = some c → isWhiteSpace c = false) ∧
    ∀ c, s.getLast? = some c → isWhiteSpace c = false

/-- Trimming leaves no blank at either end. -/
theorem trimmed_trim (s : Str) : Trimmed (trim s) := by
  constructor
  · intro c hc
    -- The first character of a prefix is that of the text.
    have hhead : (s.dropWhile isWhiteSpace).head? = some c := by
      rcases List.rdropWhile_prefix isWhiteSpace (s.dropWhile isWhiteSpace) with ⟨t, ht⟩
      rw [← ht, List.head?_append, ← trim, hc, Option.some_or]
    have hnot := List.head?_dropWhile_not isWhiteSpace s
    rw [hhead] at hnot
    exact hnot
  · intro c hc
    have hne : trim s ≠ [] := List.ne_nil_of_mem (List.mem_of_getLast? hc)
    have hnot := List.rdropWhile_last_not isWhiteSpace (s.dropWhile isWhiteSpace) hne
    have hlast : (trim s).getLast hne = c := by
      rw [List.getLast?_eq_some_getLast hne, Option.some.injEq] at hc
      exact hc
    rw [← hlast]
    exact Bool.eq_false_iff.mpr hnot

theorem Trimmed.trim_eq {s : Str} (h : Trimmed s) : trim s = s := by
  have hhead : s.dropWhile isWhiteSpace = s := by
    cases s with
    | nil => rfl
    | cons c s => rw [List.dropWhile_cons_of_neg (Bool.eq_false_iff.mp (h.1 c rfl))]
  rw [trim, hhead, List.rdropWhile_eq_self_iff]
  intro hne
  exact Bool.eq_false_iff.mp (h.2 _ (List.getLast?_eq_some_getLast hne))

/-- A blank in front is trimmed. -/
theorem trim_space (s : Str) : trim (' ' :: s) = trim s := by
  rw [trim, List.dropWhile_cons_of_pos (by decide), ← trim]

/-- Trimming takes white space off, so what it keeps is trimmed already. -/
theorem trim_eq_self_iff {s : Str} : trim s = s ↔ Trimmed s := by
  constructor
  · intro h
    rw [← h]
    exact trimmed_trim s
  · exact Trimmed.trim_eq

/-- White space behind a text is trimmed off. -/
theorem trim_append_blank (s : Str) {w : Str} (hw : ∀ c ∈ w, isWhiteSpace c = true) :
    trim (s ++ w) = trim s := by
  unfold trim
  by_cases h : ∀ c ∈ s, isWhiteSpace c = true
  · have hnil : s.dropWhile isWhiteSpace = [] := List.dropWhile_eq_nil_iff.mpr h
    have hblank : (s ++ w).dropWhile isWhiteSpace = [] := by
      rw [List.dropWhile_eq_nil_iff]
      intro c hc
      rcases List.mem_append.mp hc with hc | hc
      · exact h c hc
      · exact hw c hc
    rw [hnil, hblank]
  · have hfront : (s ++ w).dropWhile isWhiteSpace = s.dropWhile isWhiteSpace ++ w := by
      rw [List.dropWhile_append, if_neg]
      rw [List.isEmpty_iff, List.dropWhile_eq_nil_iff]
      exact h
    rw [hfront, List.rdropWhile, List.reverse_append, List.dropWhile_append_of_pos, ← List.rdropWhile]
    intro c hc
    exact hw c (List.mem_reverse.mp hc)

/-- A blank at the end is trimmed. -/
theorem trim_append_space (s : Str) : trim (s ++ [' ']) = trim s := by
  refine trim_append_blank s (fun c hc => ?_)
  rw [List.mem_singleton.mp hc]
  decide

/-! ### Taking prefixes off -/

/-- Take a prefix off as often as it is there. -/
def trimStartMatchesFrom (p : Str) : Nat → Str → Str
  | 0, s => s
  | n + 1, s => match stripPrefix p s with
    | some rest => trimStartMatchesFrom p n rest
    | none => s

/-- `str::trim_start_matches`; the length of the text bounds the rounds. -/
def trimStartMatches (p s : Str) : Str := trimStartMatchesFrom p s.length s

/-- Any number of rounds that covers the text gives the same. -/
theorem trimStartMatchesFrom_stable {p : Str} (hp : p ≠ []) {n m : Nat} {s : Str}
    (hn : s.length ≤ n) (hm : s.length ≤ m) :
    trimStartMatchesFrom p n s = trimStartMatchesFrom p m s := by
  have hempty (k : Nat) : trimStartMatchesFrom p k [] = [] := by
    cases k with
    | zero => rfl
    | succ k =>
        cases p with
        | nil => exact absurd rfl hp
        | cons c p => rfl
  -- By the smaller bound; what is stripped makes the text shorter.
  induction n generalizing m s with
  | zero =>
      rw [List.length_eq_zero_iff.mp (Nat.le_zero.mp hn), hempty, hempty]
  | succ n ih =>
      cases m with
      | zero => rw [List.length_eq_zero_iff.mp (Nat.le_zero.mp hm), hempty, hempty]
      | succ m =>
          unfold trimStartMatchesFrom
          cases hstrip : stripPrefix p s with
          | none => rfl
          | some rest =>
              have hlength := congrArg List.length ((stripPrefix_eq_some p s rest).mp hstrip)
              have hpos : 0 < p.length := List.length_pos_iff.mpr hp
              rw [List.length_append] at hlength
              exact ih (by omega) (by omega)

theorem trimStartMatches_append {p : Str} (hp : p ≠ []) (s : Str) :
    trimStartMatches p (p ++ s) = trimStartMatches p s := by
  have hpos : 0 < p.length := List.length_pos_iff.mpr hp
  unfold trimStartMatches
  rw [List.length_append]
  obtain ⟨n, hn⟩ : ∃ n, p.length + s.length = n + 1 := ⟨p.length + s.length - 1, by omega⟩
  rw [hn, trimStartMatchesFrom, (stripPrefix_eq_some p (p ++ s) s).mpr rfl]
  exact trimStartMatchesFrom_stable hp (by omega) (Nat.le_refl _)

theorem trimStartMatches_eq_self {p s : Str} (h : ¬ p <+: s) : trimStartMatches p s = s := by
  unfold trimStartMatches
  cases hs : s.length with
  | zero => rfl
  | succ n => rw [trimStartMatchesFrom, stripPrefix_eq_none.mpr h]

/-- What is left does not begin with the prefix. -/
theorem not_prefix_trimStartMatches {p : Str} (hp : p ≠ []) (s : Str) :
    ¬ p <+: trimStartMatches p s := by
  induction hn : s.length using Nat.strong_induction_on generalizing s with
  | _ n ih =>
      by_cases h : p <+: s
      · rcases h with ⟨t, rfl⟩
        have hpos : 0 < p.length := List.length_pos_iff.mpr hp
        rw [trimStartMatches_append hp]
        rw [List.length_append] at hn
        exact ih t.length (by omega) t rfl
      · rwa [trimStartMatches_eq_self h]

/-- Replacing in a text written letter by letter goes letter by letter when no
    occurrence crosses from one letter to the next. -/
theorem replaceAll_flatMap {p w : Str} (hp : p ≠ []) {f g : Char → Str}
    (h : ∀ c rest, replaceFrom p w 0 (f c ++ rest) = g c ++ replaceFrom p w 0 rest) (s : Str) :
    replaceAll p w (s.flatMap f) = s.flatMap g := by
  unfold replaceAll
  rw [if_neg hp]
  induction s with
  | nil => rfl
  | cons c s ih => rw [List.flatMap_cons, List.flatMap_cons, h, ih]

theorem startsWith_eq_false {p s : Str} {a b : Char} (h : a ≠ b) :
    startsWith (a :: p) (b :: s) = false := by
  rw [startsWith, Bool.eq_false_iff, Ne, List.isPrefixOf_iff_prefix, List.cons_prefix_cons]
  exact fun hpre => h hpre.1

end Kahea
