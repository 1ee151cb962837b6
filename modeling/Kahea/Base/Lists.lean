import Mathlib.Data.List.Forall2

/-!
# Lists and Options

General facts on filters, related lists and related options.

## Theorems

* `length_filter_eq_one`, `filter_eq_singleton_iff`: Filters that keep one item.
* `join_eq_iff`: When two joined pairs are the same.
* `forall_mem_iff_of_forall₂`, `exists_mem_iff_of_forall₂`, `split_iff_of_forall₂`:
  What is asked of the items of related lists.
* `option_rel_bind`, `option_rel_cases`: Related options.
-/

namespace Kahea

/-! ### Filters -/

/-- Exactly one item passes a test exactly when the list splits around one. -/
theorem length_filter_eq_one {α : Type} {p : α → Bool} {xs : List α} :
    (xs.filter p).length = 1 ↔ ∃ before x after, xs = before ++ x :: after ∧ p x = true ∧
      ∀ y ∈ before ++ after, ¬ p y = true := by
  constructor
  · intro h
    rcases List.length_eq_one_iff.mp h with ⟨x, hx⟩
    rcases List.filter_eq_cons_iff.mp hx with ⟨before, after, hxs, hbefore, hpx, hafter⟩
    refine ⟨before, x, after, hxs, hpx, fun y hy => ?_⟩
    rcases List.mem_append.mp hy with hy | hy
    · exact hbefore y hy
    · exact List.filter_eq_nil_iff.mp hafter y hy
  · rintro ⟨before, x, after, rfl, hpx, hothers⟩
    have hbefore : before.filter p = [] := List.filter_eq_nil_iff.mpr
      (fun y hy => hothers y (List.mem_append_left _ hy))
    have hafter : after.filter p = [] := List.filter_eq_nil_iff.mpr
      (fun y hy => hothers y (List.mem_append_right _ hy))
    rw [List.filter_append, List.filter_cons_of_pos hpx, hbefore, hafter]
    rfl

/-- A filter keeps one place only when it rejects all the others. -/
theorem filter_eq_singleton_iff {α : Type} {p : α → Bool} {l : List α} {i : Nat} {a : α}
    (hi : l[i]? = some a) (hp : p a = true) :
    (∃ b, l.filter p = [b]) ↔ ∀ j b, l[j]? = some b → j ≠ i → p b = false := by
  induction l generalizing i with
  | nil => cases hi
  | cons x rest ih =>
      cases i with
      | zero =>
          cases hi
          have hfilter : (a :: rest).filter p = a :: rest.filter p := List.filter_cons_of_pos hp
          constructor
          · rintro ⟨b, hb⟩ j c hc hj
            rw [hfilter] at hb
            have hrest : rest.filter p = [] := (List.cons.inj hb).2
            cases j with
            | zero => exact absurd rfl hj
            | succ j =>
                rw [List.filter_eq_nil_iff] at hrest
                exact Bool.eq_false_iff.mpr (hrest c (List.mem_of_getElem? hc))
          · intro hothers
            refine ⟨a, ?_⟩
            have hrest : rest.filter p = [] := by
              refine List.filter_eq_nil_iff.mpr (fun c hc => ?_)
              rcases List.mem_iff_getElem?.mp hc with ⟨j, hj⟩
              exact Bool.eq_false_iff.mp (hothers (j + 1) c hj (Nat.succ_ne_zero j))
            rw [hfilter, hrest]
      | succ i =>
          have hmem : a ∈ rest.filter p :=
            List.mem_filter.mpr ⟨List.mem_of_getElem? hi, hp⟩
          constructor
          · rintro ⟨b, hb⟩ j c hc hj
            cases hx : p x with
            | true =>
                -- Then the filter keeps this place and that of `a`.
                rw [List.filter_cons_of_pos hx] at hb
                rw [(List.cons.inj hb).2] at hmem
                cases hmem
            | false =>
                rw [List.filter_cons_of_neg (Bool.eq_false_iff.mp hx)] at hb
                cases j with
                | zero =>
                    cases hc
                    exact hx
                | succ j =>
                    exact (ih hi).mp ⟨b, hb⟩ j c hc (fun h => hj (congrArg Nat.succ h))
          · intro hothers
            have hx : p x = false := hothers 0 x rfl (Nat.succ_ne_zero i).symm
            rw [List.filter_cons_of_neg (Bool.eq_false_iff.mp hx)]
            exact (ih hi).mpr (fun j c hc hj =>
              hothers (j + 1) c hc (fun h => hj (Nat.succ.inj h)))

/-- What a filter keeps as its only element. -/
theorem filter_eq_singleton {α : Type} {p : α → Bool} {l : List α} {i : Nat} {a b : α}
    (hi : l[i]? = some a) (hp : p a = true) (h : l.filter p = [b]) : b = a := by
  have hmem : a ∈ l.filter p := List.mem_filter.mpr ⟨List.mem_of_getElem? hi, hp⟩
  rw [h] at hmem
  exact (List.mem_singleton.mp hmem).symm

/-! ### Joined lists -/

/-- Two joined pairs are the same when the parts are, or when one first part
    goes on with what the other second part begins with. -/
theorem join_eq_iff {α : Type} (c : α) (s n t m : List α) :
    s ++ c :: n = t ++ c :: m ↔ (s = t ∧ n = m) ∨ (∃ x, t = s ++ c :: x ∧ n = x ++ c :: m) ∨
      ∃ x, s = t ++ c :: x ∧ m = x ++ c :: n := by
  constructor
  · intro h
    rw [List.append_eq_append_iff] at h
    -- One of the two starts is a part of the other.
    rcases h with ⟨x, ht, hn⟩ | ⟨x, hs, hm⟩
    · cases x with
      | nil =>
          rw [List.append_nil] at ht
          exact Or.inl ⟨ht.symm, (List.cons.inj hn).2⟩
      | cons d x =>
          rcases List.cons.inj hn with ⟨rfl, htail⟩
          exact Or.inr (Or.inl ⟨x, ht, htail⟩)
    · cases x with
      | nil =>
          rw [List.append_nil] at hs
          exact Or.inl ⟨hs, (List.cons.inj hm).2.symm⟩
      | cons d x =>
          rcases List.cons.inj hm with ⟨rfl, htail⟩
          exact Or.inr (Or.inr ⟨x, hs, htail⟩)
  · rintro (⟨rfl, rfl⟩ | ⟨x, rfl, rfl⟩ | ⟨x, rfl, rfl⟩)
    · rfl
    · rw [List.append_assoc, List.cons_append]
    · rw [List.append_assoc, List.cons_append]

/-! ### Related options -/

/-- Related options stay related under related continuations. -/
theorem option_rel_bind {α β γ δ : Type} {R : α → β → Prop} {S : γ → δ → Prop}
    {o : Option α} {o' : Option β} (h : Option.Rel R o o') {f : α → Option γ}
    {g : β → Option δ}
    (hfg : ∀ x y, o = some x → R x y → Option.Rel S (f x) (g y)) :
    Option.Rel S (o.bind f) (o'.bind g) := by
  cases h with
  | none => exact Option.Rel.none
  | some hxy => exact hfg _ _ rfl hxy

/-- Related options are both missing or both there. -/
theorem option_rel_cases {α β : Type} {R : α → β → Prop} {o : Option α} {o' : Option β}
    (h : Option.Rel R o o') :
    (o = none ∧ o' = none) ∨ ∃ x y, o = some x ∧ o' = some y ∧ R x y := by
  cases h with
  | none => exact Or.inl ⟨rfl, rfl⟩
  | some hxy => exact Or.inr ⟨_, _, rfl, rfl, hxy⟩

/-! ### Related lists -/

section

variable {α β : Type} {R S : α → β → Prop} {P : α → Prop} {Q : β → Prop} {xs : List α}
  {ys : List β}

theorem forall₂_imp_mem (h : List.Forall₂ R xs ys) (himp : ∀ x ∈ xs, ∀ y, R x y → S x y) :
    List.Forall₂ S xs ys := by
  induction h with
  | nil => exact .nil
  | @cons x y xs ys hxy _ ih =>
      refine .cons (himp x List.mem_cons_self y hxy) (ih fun z hz => ?_)
      exact himp z (List.mem_cons_of_mem x hz)

theorem forall_mem_iff_of_forall₂ (h : List.Forall₂ (fun x y => Q y ↔ P x) xs ys) :
    (∀ y ∈ ys, Q y) ↔ ∀ x ∈ xs, P x := by
  induction h with
  | nil => simp only [List.not_mem_nil, false_imp_iff, implies_true]
  | cons hxy _ ih => rw [List.forall_mem_cons, List.forall_mem_cons, hxy, ih]

theorem exists_mem_iff_of_forall₂ (h : List.Forall₂ (fun x y => Q y ↔ P x) xs ys) :
    (∃ y ∈ ys, Q y) ↔ ∃ x ∈ xs, P x := by
  induction h with
  | nil => simp only [List.not_mem_nil, false_and, exists_false]
  | cons hxy _ ih => rw [List.exists_mem_cons_iff, List.exists_mem_cons_iff, hxy, ih]

open Classical in
/-- Lists that pass a test in the same places pass it once together. -/
theorem split_iff_of_forall₂ (h : List.Forall₂ (fun x y => Q y ↔ P x) xs ys) :
    (∃ before y after, ys = before ++ y :: after ∧ Q y ∧ ∀ z ∈ before ++ after, ¬ Q z) ↔
      ∃ before x after, xs = before ++ x :: after ∧ P x ∧ ∀ z ∈ before ++ after, ¬ P z := by
  have hlength : (ys.filter (fun y => decide (Q y))).length =
      (xs.filter (fun x => decide (P x))).length := by
    induction h with
    | nil => rfl
    | @cons x y xs ys hxy _ ih =>
        rw [List.filter_cons, List.filter_cons, decide_eq_decide.mpr hxy]
        by_cases hx : P x
        · rw [if_pos (decide_eq_true hx), if_pos (decide_eq_true hx), List.length_cons,
            List.length_cons, ih]
        · rw [if_neg (by simpa using hx), if_neg (by simpa using hx), ih]
  have hone : (ys.filter (fun y => decide (Q y))).length = 1 ↔
      (xs.filter (fun x => decide (P x))).length = 1 := by rw [hlength]
  simpa only [length_filter_eq_one, decide_eq_true_eq] using hone

/-- What is asked of a value that may be missing. -/
theorem forall_some_iff_of_rel {o : Option α} {o' : Option β} (h : Option.Rel R o o')
    (hpq : ∀ x y, o = some x → R x y → (Q y ↔ P x)) :
    (∀ y, o' = some y → Q y) ↔ ∀ x, o = some x → P x := by
  cases h with
  | none => exact iff_of_true nofun nofun
  | some hxy => simpa only [Option.some.injEq, forall_eq'] using hpq _ _ rfl hxy

end

end Kahea
