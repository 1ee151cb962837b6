import Kahea.Base.Text

/-!
# Redaction

Replacing secrets by a marker, one secret after the other, and what is left of
them.

A replacement can bring a secret back: a secret may begin with the end of the
marker or end with its beginning, or occur inside it, and then text next to a
marker completes it. `Clear` says that a secret and the marker do not touch in
this way. Of a clear secret nothing is left by its own replacement, and no later
replacement of another secret can make it up again, because an occurrence that
cannot touch a marker lies in a piece of the text between two markers
(`infix_glue`), and those pieces are pieces of the text before.

## Main definitions

* `glue`: Pieces of text with the marker between each two.
* `Clear`: A secret that cannot touch the marker.
* `redact`: The replacement of several secrets.

## Theorems

* `replaceAll_pieces`: A text and its replacement have the same pieces.
* `not_infix_redact`: Nothing is left of a clear secret.
-/

namespace Kahea

variable {α : Type}

/-- Pieces with a separator between each two. -/
def glue (m : List α) : List α → List (List α) → List α
  | p, [] => p
  | p, q :: qs => p ++ (m ++ glue m q qs)

/-- A list with no end in common with the marker: it does not end with a
    beginning of the marker, nor begin with an end of it, nor lie in it, nor
    contain it. -/
def Clear (m s : List α) : Prop :=
  (∀ x ∈ s.tails, x ≠ [] → ¬ x <+: m) ∧ (∀ x ∈ s.inits, x ≠ [] → ¬ x <:+ m) ∧
    ¬ s <:+: m ∧ ¬ m <:+: s

instance [DecidableEq α] (m s : List α) : Decidable (Clear m s) := inferInstanceAs (Decidable (_ ∧ _ ∧ _ ∧ _))

/-- An occurrence of a clear list next to a marker lies on one side of it. -/
theorem Clear.infix_append {m s l r : List α} (h : Clear m s) (hs : s <:+: l ++ (m ++ r)) :
    s <:+: l ∨ s <:+: r := by
  rcases h with ⟨htails, hinits, hinside, hcontains⟩
  rcases hs with ⟨x, y, hxy⟩
  rw [List.append_assoc] at hxy
  rcases List.append_eq_append_iff.mp hxy with ⟨u, hl, hu⟩ | ⟨u, hx, hu⟩
  · -- The occurrence starts in `l`.
    rcases List.append_eq_append_iff.mp hu with ⟨v, hv, _⟩ | ⟨v, hv, hm⟩
    · exact Or.inl ⟨x, v, by rw [hl, hv, List.append_assoc]⟩
    · rcases List.append_eq_append_iff.mp hm with ⟨w, hw, _⟩ | ⟨w, hw, _⟩
      · exact absurd ⟨u, w, by rw [hv, hw, List.append_assoc]⟩ hcontains
      · by_cases hnil : v = []
        · rw [hnil, List.append_nil] at hv
          exact Or.inl ⟨x, [], by rw [List.append_nil, hl, hv]⟩
        · exact absurd ⟨w, hw.symm⟩ (htails v ((List.mem_tails _ _).mpr ⟨u, hv.symm⟩) hnil)
  · -- The occurrence starts in the marker or in `r`.
    rcases List.append_eq_append_iff.mp hu with ⟨v, _, hv⟩ | ⟨v, hv, hm⟩
    · exact Or.inr ⟨v, y, by rw [hv, List.append_assoc]⟩
    · rcases List.append_eq_append_iff.mp hm with ⟨w, hw, _⟩ | ⟨w, hw, hr⟩
      · exact absurd ⟨u, w, by rw [hv, hw, List.append_assoc]⟩ hinside
      · by_cases hnil : v = []
        · rw [hnil, List.nil_append] at hw
          exact Or.inr ⟨[], y, by rw [List.nil_append, hw, hr]⟩
        · exact absurd ⟨u, hv.symm⟩ (hinits v ((List.mem_inits _ _).mpr ⟨w, hw.symm⟩) hnil)

/-- An occurrence of a clear list lies in one of the pieces. -/
theorem Clear.infix_glue {m s p : List α} {ps : List (List α)} (h : Clear m s)
    (hs : s <:+: glue m p ps) : ∃ q ∈ p :: ps, s <:+: q := by
  induction ps generalizing p with
  | nil => exact ⟨p, List.mem_cons_self, hs⟩
  | cons q qs ih =>
      rcases h.infix_append hs with hp | hrest
      · exact ⟨p, List.mem_cons_self, hp⟩
      · rcases ih hrest with ⟨t, ht, hst⟩
        exact ⟨t, List.mem_cons_of_mem p ht, hst⟩

theorem mem_infix_glue {m p q : List α} {ps : List (List α)} (h : q ∈ p :: ps) :
    q <:+: glue m p ps := by
  induction ps generalizing p with
  | nil =>
      rw [List.mem_singleton.mp h]
      exact List.infix_rfl
  | cons a qs ih =>
      rcases List.mem_cons.mp h with rfl | h
      · exact (List.prefix_append _ _).isInfix
      · exact ((ih h).trans (List.suffix_append m _).isInfix).trans
          (List.suffix_append p _).isInfix

variable [DecidableEq α]

/-- A text and its replacement are the same pieces, with the pattern in the one
    and the marker in the other between them, and the pattern in no piece. -/
theorem replaceAll_pieces {t : List α} (m d : List α) (ht : t ≠ []) :
    ∃ p ps, glue t p ps = d ∧ glue m p ps = replaceFrom t m 0 d ∧ ∀ q ∈ p :: ps, ¬ t <:+: q := by
  -- The text gets shorter by a match or by one character.
  induction hn : d.length using Nat.strong_induction_on generalizing d with
  | _ n ih =>
      by_cases hp : t <+: d
      · rcases hp with ⟨r, rfl⟩
        have hlt : r.length < n := by
          rw [← hn, List.length_append]
          have := List.length_pos_iff.mpr ht
          omega
        rcases ih r.length hlt r rfl with ⟨p, ps, hd, hr, hfree⟩
        refine ⟨[], p :: ps, ?_, ?_, fun q hq => ?_⟩
        · rw [glue, hd, List.nil_append]
        · rw [glue, hr, List.nil_append, replaceFrom_append t m r ht]
        · rcases List.mem_cons.mp hq with rfl | hq
          · rw [List.infix_nil]
            exact ht
          · exact hfree q hq
      · cases d with
        | nil =>
            refine ⟨[], [], rfl, rfl, fun q hq => ?_⟩
            rw [List.mem_singleton.mp hq, List.infix_nil]
            exact ht
        | cons c d =>
            have hstart : startsWith t (c :: d) = false := by
              rw [startsWith, Bool.eq_false_iff, Ne, List.isPrefixOf_iff_prefix]
              exact hp
            rcases ih d.length (by rw [← hn, List.length_cons]; omega) d rfl with
              ⟨p, ps, hd, hr, hfree⟩
            have hglue (x : List α) : glue x (c :: p) ps = c :: glue x p ps := by
              cases ps <;> rfl
            refine ⟨c :: p, ps, by rw [hglue, hd], by
              rw [hglue, hr, replaceFrom_cons t m c d hstart], fun q hq => ?_⟩
            rcases List.mem_cons.mp hq with rfl | hq
            · rw [List.infix_cons_iff]
              rintro (hpre | hin)
              · -- A match at the front of the piece is one at the front of the text.
                refine hp (hpre.trans ?_)
                rw [← hd, ← hglue]
                cases ps with
                | nil => exact List.prefix_rfl
                | cons q qs => exact List.prefix_append _ _
              · exact hfree p List.mem_cons_self hin
            · exact hfree q (List.mem_cons_of_mem p hq)

/-- Replacing a clear pattern leaves nothing of it. -/
theorem not_infix_replaceAll_self {m t d : List α} (ht : t ≠ []) (h : Clear m t) :
    ¬ t <:+: replaceAll t m d := by
  rw [replaceAll, if_neg ht]
  rcases replaceAll_pieces m d ht with ⟨p, ps, _, hr, hfree⟩
  rw [← hr]
  intro hs
  rcases h.infix_glue hs with ⟨q, hq, hin⟩
  exact hfree q hq hin

/-- Replacing another pattern does not make up a clear list. -/
theorem not_infix_replaceAll {m s t d : List α} (h : Clear m s) (hs : ¬ s <:+: d) :
    ¬ s <:+: replaceAll t m d := by
  unfold replaceAll
  split_ifs with ht
  · exact hs
  · rcases replaceAll_pieces m d ht with ⟨p, ps, hd, hr, _⟩
    rw [← hr]
    intro hin
    rcases h.infix_glue hin with ⟨q, hq, hsq⟩
    exact hs (hd ▸ hsq.trans (mem_infix_glue hq))

/-- Replace each of several secrets, one after the other; empty ones are passed
    over. -/
def redact (m data : List α) (secrets : List (List α)) : List α :=
  secrets.foldl (fun d s => replaceAll s m d) data

/-- What a text does not contain is not made up by redaction. -/
theorem not_infix_redact_of_not_infix {m s data : List α} {secrets : List (List α)}
    (h : Clear m s) (hs : ¬ s <:+: data) : ¬ s <:+: redact m data secrets := by
  induction secrets generalizing data with
  | nil => exact hs
  | cons t rest ih => exact ih (not_infix_replaceAll h hs)

/-- Nothing is left of a clear secret. -/
theorem not_infix_redact {m s data : List α} {secrets : List (List α)} (hne : s ≠ [])
    (h : Clear m s) (hs : s ∈ secrets) : ¬ s <:+: redact m data secrets := by
  induction secrets generalizing data with
  | nil => exact absurd hs List.not_mem_nil
  | cons t rest ih =>
      by_cases hst : s = t
      · subst hst
        change ¬ s <:+: redact m (replaceAll s m data) rest
        exact not_infix_redact_of_not_infix h (not_infix_replaceAll_self hne h)
      · exact ih ((List.mem_cons.mp hs).resolve_left hst)

end Kahea
