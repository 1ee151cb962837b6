import Kahea.Base.Redact
import Kahea.Base.Search

/-!
# Splitting at a Delimiter

What is between the occurrences of a delimiter, over any alphabet.

Pieces that are joined by a delimiter come back exactly when the delimiter
occurs in none of them. That is so for a delimiter whose first letter does not
come again in it: an occurrence then cannot begin in a piece and end in the
delimiter behind it, and text without that letter in front of an occurrence can
be passed over.

## Main definitions

* `splitAll`: The pieces between the occurrences of a delimiter.

## Theorems

* `infix_of_infix_append`: Text without the first letter is passed over.
* `splitAll_free`: The delimiter is in no piece.
* `splitAll_glue`: Joined pieces come back.
-/

namespace Kahea

variable {α : Type}

/-- An occurrence does not begin in a text without its first letter. -/
theorem infix_of_infix_append {c : α} {t x r : List α} (hx : c ∉ x) (h : c :: t <:+: x ++ r) :
    c :: t <:+: r := by
  induction x with
  | nil => exact h
  | cons d x ih =>
      rw [List.cons_append, List.infix_cons_iff] at h
      rcases h with h | h
      · exact absurd ((List.cons_prefix_cons.mp h).1 ▸ List.mem_cons_self) hx
      · exact ih (fun hc => hx (List.mem_cons_of_mem d hc)) h

/-- A delimiter does not begin in a piece and end in the delimiter behind it. -/
theorem not_infix_append_dropLast {c : α} {t p : List α} (hc : c ∉ t) (h : ¬ c :: t <:+: p) :
    ¬ c :: t <:+: p ++ (c :: t).dropLast := by
  have hshort {x : List α} (hx : c :: t <:+: x) (hle : x <+: (c :: t).dropLast) : False := by
    have hlength := hx.length_le.trans hle.length_le
    rw [List.length_dropLast, List.length_cons] at hlength
    omega
  intro hin
  rcases List.infix_append_iff.mp hin with hin | hin | ⟨u, v, huv, hu, hv⟩
  · exact h hin
  · exact hshort hin List.prefix_rfl
  · cases u with
    | nil =>
        rw [List.nil_append] at huv
        exact hshort (huv ▸ List.infix_rfl) hv
    | cons d u =>
        rw [List.cons_append, List.cons.injEq] at huv
        cases v with
        | nil =>
            rw [List.append_nil] at huv
            exact h (huv.1 ▸ huv.2 ▸ hu.isInfix)
        | cons e v =>
            -- The part in the delimiter begins with its first letter.
            rcases hv.trans (List.dropLast_prefix (c :: t)) with ⟨w, hw⟩
            have he : e = c := (List.cons.inj hw).1
            refine hc ?_
            rw [huv.2, he]
            exact List.mem_append_right u List.mem_cons_self

variable [DecidableEq α]

theorem splitOnce_of_notMem {c : α} {t p : List α} (hc : c ∉ t) (hp : ¬ c :: t <:+: p) (r : List α) :
    splitOnce (c :: t) (p ++ (c :: t ++ r)) = some (p, r) := by
  rw [splitOnce_iff (List.cons_ne_nil c t)]
  exact ⟨(List.append_assoc _ _ _).symm, not_infix_append_dropLast hc hp⟩

/-- The pieces between the occurrences of a delimiter, left to right; the first
    argument bounds their number. -/
def splitAll (d : List α) : Nat → List α → List (List α)
  | 0, s => [s]
  | fuel + 1, s => match splitOnce d s with
    | none => [s]
    | some (piece, rest) => piece :: splitAll d fuel rest

theorem splitAll_free {d : List α} (hd : d ≠ []) {fuel : Nat} {s : List α} (hfuel : s.length < fuel) :
    ∀ piece ∈ splitAll d fuel s, ¬ d <:+: piece := by
  induction fuel generalizing s with
  | zero => exact absurd hfuel (Nat.not_lt_zero _)
  | succ fuel ih =>
      intro piece hpiece
      rw [splitAll] at hpiece
      cases hsplit : splitOnce d s with
      | none =>
          rw [hsplit] at hpiece
          rw [List.mem_singleton.mp hpiece]
          exact splitOnce_eq_none.mp hsplit
      | some parts =>
          rcases parts with ⟨first, rest⟩
          rw [hsplit] at hpiece
          rcases (splitOnce_iff hd).mp hsplit with ⟨rfl, hfirst⟩
          -- The first piece ends before the first delimiter, the others come from the rest.
          rcases List.mem_cons.mp hpiece with rfl | hpiece
          · exact fun hin => hfirst (hin.trans (List.prefix_append _ _).isInfix)
          · have hpos := List.length_pos_iff.mpr hd
            rw [List.length_append, List.length_append] at hfuel
            exact ih (by omega) piece hpiece

/-- Pieces without the delimiter come back from what they are joined to. -/
theorem splitAll_glue {c : α} {t : List α} (hc : c ∉ t) {fuel : Nat} {p : List α}
    {ps : List (List α)} (hfree : ∀ q ∈ p :: ps, ¬ c :: t <:+: q) (hfuel : ps.length < fuel) :
    splitAll (c :: t) fuel (glue (c :: t) p ps) = p :: ps := by
  induction ps generalizing p fuel with
  | nil =>
      rcases Nat.exists_eq_succ_of_ne_zero (Nat.ne_of_gt hfuel) with ⟨n, rfl⟩
      rw [glue, splitAll, splitOnce_eq_none.mpr (hfree p List.mem_cons_self)]
  | cons q qs ih =>
      rcases Nat.exists_eq_succ_of_ne_zero (Nat.ne_of_gt (Nat.lt_of_le_of_lt (Nat.zero_le _) hfuel))
        with ⟨n, rfl⟩
      rw [glue, splitAll, splitOnce_of_notMem hc (hfree p List.mem_cons_self)]
      exact congrArg (p :: ·) (ih (fun x hx => hfree x (List.mem_cons_of_mem p hx))
        (Nat.lt_of_succ_lt_succ hfuel))

omit [DecidableEq α] in
theorem length_le_glue {d p : List α} (hd : d ≠ []) (ps : List (List α)) :
    ps.length ≤ (glue d p ps).length := by
  induction ps generalizing p with
  | nil => exact Nat.zero_le _
  | cons q qs ih =>
      have hpos := List.length_pos_iff.mpr hd
      have hrest := @ih q
      rw [glue, List.length_append, List.length_append, List.length_cons]
      omega

end Kahea
