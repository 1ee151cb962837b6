import Kahea.Conformance.Campaign
import Kahea.Conformance.Generation

/-!
# Selecting Cases

How a mixed campaign picks its cases. The loop takes a positive and a negative
case in each round, checks the limit between the two, and stops when a round
has picked nothing; `interleave` is that loop with the rounds written out as
patterns on the two lists.

## Main definitions

* `Picking`, `Picking.round`, `pickMixed`: The loop, a round at a time.

## Theorems

* `pickMixed_eq`: The loop picks what `interleave` lists.
* `selectCases_mixed`: The cases of a mixed campaign.
-/

namespace Kahea

/-! ### The loop -/

/-- The two iterators and what was picked from them. -/
structure Picking where
  positive : List Strategic
  negative : List Strategic
  selected : List Selected

namespace Picking

def pickPositive (s : Picking) : Picking :=
  match s.positive with
  | [] => s
  | p :: rest => { s with positive := rest, selected := s.selected ++ [(.positive, p)] }

def pickNegative (s : Picking) : Picking :=
  match s.negative with
  | [] => s
  | q :: rest => { s with negative := rest, selected := s.selected ++ [(.negative, q)] }

/-- One round of the loop, with the limit checked between the two picks. -/
def round (limit : Nat) (s : Picking) : Picking :=
  let s := s.pickPositive
  if s.selected.length < limit then s.pickNegative else s

theorem length_pickPositive (s : Picking) : s.selected.length ≤ s.pickPositive.selected.length := by
  unfold pickPositive
  cases s.positive with
  | nil => exact Nat.le_refl _
  | cons p rest =>
      rw [List.length_append]
      exact Nat.le_add_right _ _

theorem length_pickNegative (s : Picking) : s.selected.length ≤ s.pickNegative.selected.length := by
  unfold pickNegative
  cases s.negative with
  | nil => exact Nat.le_refl _
  | cons q rest =>
      rw [List.length_append]
      exact Nat.le_add_right _ _

/-- A round never drops a picked case. -/
theorem length_round (limit : Nat) (s : Picking) :
    s.selected.length ≤ (s.round limit).selected.length := by
  have hfirst := length_pickPositive s
  unfold round
  dsimp only
  by_cases hroom : s.pickPositive.selected.length < limit
  · rw [if_pos hroom]
    exact Nat.le_trans hfirst (length_pickNegative _)
  · rw [if_neg hroom]
    exact hfirst

end Picking

/-- The loop over the rounds. It breaks off when a round has picked nothing. -/
def pickMixed (limit : Nat) (s : Picking) : List Selected :=
  if s.selected.length < limit then
    if (s.round limit).selected.length = s.selected.length then (s.round limit).selected
    else pickMixed limit (s.round limit)
  else s.selected
termination_by limit - s.selected.length
decreasing_by
  have hgrown := s.length_round limit
  omega

/-- A round that picks nothing has nothing left to pick from. -/
theorem round_idle {limit : Nat} {s : Picking} (hroom : s.selected.length < limit)
    (hidle : (s.round limit).selected.length = s.selected.length) :
    s.positive = [] ∧ s.negative = [] ∧ s.round limit = s := by
  rcases s with ⟨positive, negative, selected⟩
  -- Whatever is left of either kind is picked while there is room.
  cases positive with
  | cons p ps =>
      exfalso
      have hfirst : (Picking.mk (p :: ps) negative selected).pickPositive.selected.length =
          selected.length + 1 := by
        simp [Picking.pickPositive]
      unfold Picking.round at hidle
      dsimp only at hidle
      split at hidle
      · have hmore := Picking.length_pickNegative
          (Picking.mk (p :: ps) negative selected).pickPositive
        omega
      · omega
  | nil =>
      cases negative with
      | nil =>
          exact ⟨rfl, rfl, if_pos hroom⟩
      | cons q qs =>
          exfalso
          simp [Picking.round, Picking.pickPositive, Picking.pickNegative, hroom] at hidle

/-- One round of the loop is one unfolding of `interleave`. -/
theorem round_interleave {limit : Nat} {s : Picking} (hroom : s.selected.length < limit) :
    (s.round limit).selected ++ interleave (limit - (s.round limit).selected.length)
        (s.round limit).positive (s.round limit).negative =
      s.selected ++ interleave (limit - s.selected.length) s.positive s.negative := by
  rcases s with ⟨positive, negative, selected⟩
  dsimp only at hroom ⊢
  rcases hleft : limit - selected.length with _ | _ | left
  · omega
  · -- One more case fits, so the limit is reached within the round.
    have hlimit : limit = selected.length + 1 := by omega
    cases positive <;> cases negative <;>
      simp [Picking.round, Picking.pickPositive, Picking.pickNegative, interleave, hlimit]
  · have hone : limit - (selected.length + 1) = left + 1 := by omega
    have htwo : limit - (selected.length + 2) = left := by omega
    have hsecond : selected.length + 1 < limit := by omega
    cases positive <;> cases negative <;>
      simp [Picking.round, Picking.pickPositive, Picking.pickNegative, interleave, hroom, hsecond,
        hleft, hone, htwo]

/-- The loop picks what `interleave` lists. -/
theorem pickMixed_eq (limit : Nat) (s : Picking) :
    pickMixed limit s =
      s.selected ++ interleave (limit - s.selected.length) s.positive s.negative := by
  fun_induction pickMixed limit s with
  | case1 s hroom hidle =>
      rcases round_idle hroom hidle with ⟨hp, hn, hsame⟩
      rcases hleft : limit - s.selected.length with _ | left
      · omega
      · rw [hsame, hp, hn, interleave, List.append_nil]
  | case2 s hroom hmoved ih => rw [ih, round_interleave hroom]
  | case3 s hfull =>
      have hleft : limit - s.selected.length = 0 := by omega
      rw [hleft, interleave, List.append_nil]

/-! ### What it picks -/

/-- The cases of one kind among the selected ones. -/
def ofKind (generation : ConformanceGeneration) (selected : List Selected) : List Strategic :=
  (selected.filter (fun s => decide (s.1 = generation))).map Prod.snd

section

variable (limit : Nat) (positive negative : List Strategic)

theorem length_interleave :
    (interleave limit positive negative).length =
      min limit (positive.length + negative.length) := by
  fun_induction interleave limit positive negative with
  | case1 => simp
  | case2 p ps negative =>
      rw [List.length_singleton, List.length_cons]
      omega
  | case3 limit p ps q qs ih =>
      simp only [List.length_cons, ih]
      omega
  | case4 limit p ps _ ih =>
      simp only [List.length_cons, List.length_nil, ih]
      omega
  | case5 limit q qs ih =>
      simp only [List.length_cons, List.length_nil, ih]
      omega
  | case6 => simp

/-- The cases of each kind are picked from the front of their list. -/
theorem kinds_interleave :
    ∃ k j, ofKind .positive (interleave limit positive negative) = positive.take k ∧
      ofKind .negative (interleave limit positive negative) = negative.take j := by
  fun_induction interleave limit positive negative with
  | case1 => exact ⟨0, 0, rfl, rfl⟩
  | case2 p ps negative => exact ⟨1, 0, by simp [ofKind], by simp [ofKind]⟩
  | case3 limit p ps q qs ih =>
      rcases ih with ⟨k, j, hk, hj⟩
      refine ⟨k + 1, j + 1, ?_, ?_⟩
      · rw [List.take_succ_cons, ← hk]
        simp [ofKind]
      · rw [List.take_succ_cons, ← hj]
        simp [ofKind]
  | case4 limit p ps _ ih =>
      rcases ih with ⟨k, j, hk, hj⟩
      exact ⟨k + 1, j, by rw [List.take_succ_cons, ← hk]; simp [ofKind], by rw [← hj]; simp [ofKind]⟩
  | case5 limit q qs ih =>
      rcases ih with ⟨k, j, hk, hj⟩
      exact ⟨k, j + 1, by rw [← hk]; simp [ofKind], by rw [List.take_succ_cons, ← hj]; simp [ofKind]⟩
  | case6 => exact ⟨0, 0, rfl, rfl⟩

/-- While both lists last, the cases of the even places are the positive ones
    in turn, and those of the odd places the negative ones. -/
theorem getElem?_interleave (i : Nat) (hi : i < min positive.length negative.length) :
    (2 * i < limit →
        (interleave limit positive negative)[2 * i]? = positive[i]?.map (.positive, ·)) ∧
      (2 * i + 1 < limit →
        (interleave limit positive negative)[2 * i + 1]? = negative[i]?.map (.negative, ·)) := by
  fun_induction interleave limit positive negative generalizing i with
  | case1 => exact ⟨nofun, nofun⟩
  | case2 p ps negative =>
      constructor
      · intro hroom
        have hzero : i = 0 := by omega
        subst hzero
        rfl
      · intro hroom
        omega
  | case3 limit p ps q qs ih =>
      cases i with
      | zero => exact ⟨fun _ => rfl, fun _ => rfl⟩
      | succ i =>
          simp only [List.length_cons] at hi
          have hrest := ih i (by omega)
          -- Two places on is the same place of the rest.
          constructor
          · intro hroom
            have heven : 2 * (i + 1) = 2 * i + 1 + 1 := by omega
            rw [heven]
            exact hrest.1 (by omega)
          · intro hroom
            have hodd : 2 * (i + 1) + 1 = 2 * i + 1 + 1 + 1 := by omega
            rw [hodd]
            exact hrest.2 (by omega)
  | case4 limit p ps _ ih => simp at hi
  | case5 limit q qs ih => simp at hi
  | case6 => simp at hi

end

/-- The picked cases differ when the cases of each kind do. -/
theorem nodup_of_ofKind {selected : List Selected} (hp : (ofKind .positive selected).Nodup)
    (hn : (ofKind .negative selected).Nodup) : selected.Nodup := by
  induction selected with
  | nil => exact List.nodup_nil
  | cons s rest ih =>
      rcases s with ⟨generation, case⟩
      have hin : (generation, case) ∈ rest → case ∈ ofKind generation rest := fun h =>
        List.mem_map.mpr ⟨_, List.mem_filter.mpr ⟨h, decide_eq_true rfl⟩, rfl⟩
      rw [List.nodup_cons]
      cases generation with
      | positive =>
          simp only [ofKind, List.filter_cons, decide_true, if_true, List.map_cons,
            List.nodup_cons] at hp
          exact ⟨fun h => hp.1 (hin h), ih hp.2 (by simpa [ofKind] using hn)⟩
      | negative =>
          simp only [ofKind, List.filter_cons, decide_true, if_true, List.map_cons,
            List.nodup_cons] at hn
          exact ⟨fun h => hn.1 (hin h), ih (by simpa [ofKind] using hp) hn.2⟩

/-! ### Mixed campaigns -/

/-- A mixed selection has as many cases as the limit and the two lists allow,
    and is refused when that is none. The cases of each kind come in the order
    of their list, none comes twice, and while both lists last they take
    turns, a positive case first. -/
theorem selectCases_mixed (limit : Nat) (positive negative : List Strategic)
    (hp : positive.Nodup) (hn : negative.Nodup) :
    (min limit (positive.length + negative.length) = 0 →
        selectCases .mixed limit positive negative = .error (.noCases "requested")) ∧
      (0 < min limit (positive.length + negative.length) →
        ∃ selected, selectCases .mixed limit positive negative = .ok selected ∧
          selected = pickMixed limit ⟨positive, negative, []⟩ ∧
          selected.length = min limit (positive.length + negative.length) ∧
          (∃ k, ofKind .positive selected = positive.take k) ∧
          (∃ k, ofKind .negative selected = negative.take k) ∧
          selected.Nodup ∧
          ∀ i < min positive.length negative.length,
            (2 * i < limit → selected[2 * i]? = positive[i]?.map (.positive, ·)) ∧
            (2 * i + 1 < limit → selected[2 * i + 1]? = negative[i]?.map (.negative, ·))) := by
  have hlength := length_interleave limit positive negative
  have hselect : selectCases .mixed limit positive negative =
      (ensure (!(interleave limit positive negative).isEmpty) (.noCases "requested")).bind
        (fun _ => .ok (interleave limit positive negative)) := rfl
  constructor
  -- Nothing to select, or a limit of none, is an error.
  · intro hnone
    have hempty : interleave limit positive negative = [] := by
      rw [← List.length_eq_zero_iff, hlength]
      exact hnone
    rw [hselect, hempty]
    rfl
  · intro hsome
    have hfull : (interleave limit positive negative).isEmpty = false := by
      rw [List.isEmpty_eq_false_iff, ← List.length_pos_iff, hlength]
      exact hsome
    -- Of each kind the first ones are taken, in order.
    rcases kinds_interleave limit positive negative with ⟨k, j, hk, hj⟩
    refine ⟨interleave limit positive negative, ?_, ?_, hlength, ⟨k, hk⟩, ⟨j, hj⟩, ?_,
      getElem?_interleave limit positive negative⟩
    · rw [hselect, hfull]
      rfl
    · rw [pickMixed_eq]
      rfl
    -- Both lists are without repetition, and no case is of both kinds.
    · apply nodup_of_ofKind
      · rw [hk]
        exact hp.sublist (List.take_sublist k positive)
      · rw [hj]
        exact hn.sublist (List.take_sublist j negative)

/-- Two positive cases and a negative one, under a limit of two. -/
theorem selectCases_two :
    ∃ selected, selectCases .mixed 2 [("a".toList, campaignRequest), ("b".toList, campaignRequest)]
        [("c".toList, campaignRequest)] = .ok selected ∧ selected.length = 2 ∧
      (selected[1]?).map Prod.fst = some .negative := by
  rcases (selectCases_mixed 2 [("a".toList, campaignRequest), ("b".toList, campaignRequest)]
    [("c".toList, campaignRequest)] (by simp) (by simp)).2 (by decide) with
    ⟨selected, hok, _, hlength, _, _, _, hturns⟩
  refine ⟨selected, hok, hlength, ?_⟩
  rw [(hturns 0 (by decide)).2 (by decide)]
  rfl

/-- A limit of no cases is refused, not met with an empty selection. -/
theorem selectCases_refuses_none :
    ¬ ∀ (limit : Nat) (positive negative : List Strategic), positive.Nodup → negative.Nodup →
      ∃ selected, selectCases .mixed limit positive negative = .ok selected ∧
        selected.length = min limit (positive.length + negative.length) := by
  intro h
  rcases h 0 [("a".toList, campaignRequest)] [] (by simp) (by simp) with ⟨selected, hok, _⟩
  cases hok

end Kahea
