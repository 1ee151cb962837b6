import Mathlib.Data.Char
import Mathlib.Data.List.Lex
import Kahea.Base.Text

/-!
# Sorted Sets of Strings

Sorting a list and dropping repetitions keeps only what is in the list.

The order of strings is that of the lists of their characters, which is linear.
In a linear order the sorted list without repetitions is the only strictly
increasing list of its elements, so it does not change when it is sorted again
and does not depend on the order or the number of the elements.

## Theorems

* `strLt_iff`, `strLe_iff`: The order of strings.
* `dedup_sort_congr`: What is sorted depends on the elements only.
* `insertionSort_congr`: The sort by another name of the same relation.
-/

namespace Kahea

/-- The boolean order is the order of lists of characters. -/
theorem strLt_iff (a b : Str) : strLt a b = true ↔ a < b := by
  induction a generalizing b with
  | nil => cases b <;> simp [strLt]
  | cons x a ih =>
      cases b with
      | nil => simp [strLt]
      | cons y b =>
          rw [strLt, List.cons_lt_cons_iff, Bool.or_eq_true, Bool.and_eq_true, decide_eq_true_eq,
            decide_eq_true_eq, ih]

theorem strLe_iff (a b : Str) : strLe a b = true ↔ a ≤ b := by
  rw [strLe, Bool.not_eq_true', ← Bool.not_eq_true, strLt_iff, not_lt]

theorem strLt_irrefl (s : Str) : strLt s s = false := by
  rw [← Bool.not_eq_true, strLt_iff]
  exact lt_irrefl s

/-- The boolean order is transitive. -/
theorem strLt_trans {a b c : Str} (hab : strLt a b = true) (hbc : strLt b c = true) :
    strLt a c = true := by
  rw [strLt_iff] at hab hbc ⊢
  exact hab.trans hbc

section

variable {β : Type}

/-- The sort by another name of the same relation. -/
theorem insertionSort_congr {r s : β → β → Prop} [DecidableRel r] [DecidableRel s]
    (h : ∀ a b, r a b ↔ s a b) (l : List β) : l.insertionSort r = l.insertionSort s := by
  have hrs : r = s := funext (fun a => funext (fun b => propext (h a b)))
  subst hrs
  congr

variable [LinearOrder β] [DecidableEq β]

omit [DecidableEq β] in
/-- A sorted list whose neighbours differ is strictly sorted. -/
theorem isChain_lt {l : List β} (hle : l.IsChain (· ≤ ·)) (hne : l.IsChain (· ≠ ·)) :
    l.IsChain (· < ·) := by
  induction l with
  | nil => exact List.IsChain.nil
  | cons a l ih =>
      cases l with
      | nil => exact List.IsChain.singleton a
      | cons b l =>
          rw [List.isChain_cons_cons] at hle hne ⊢
          exact ⟨lt_of_le_of_ne hle.1 hne.1, ih hle.2 hne.2⟩

/-- In a sorted list equal elements are neighbours. -/
theorem sortedLT_dedup {l : List β} (h : l.SortedLE) : (dedup l).SortedLT := by
  have hle : (dedup l).Pairwise (· ≤ ·) := h.pairwise.sublist (l.destutter_sublist (· ≠ ·))
  have hne : (dedup l).IsChain (· ≠ ·) := l.isChain_destutter (· ≠ ·)
  exact (isChain_lt hle.isChain hne).sortedLT

/-- What is sorted depends on the elements only. -/
theorem dedup_sort_congr {l l' : List β} (h : ∀ x, x ∈ l ↔ x ∈ l') :
    dedup (l.insertionSort (· ≤ ·)) = dedup (l'.insertionSort (· ≤ ·)) := by
  refine (sortedLT_dedup List.sortedLE_insertionSort).eq_of_mem_iff
    (sortedLT_dedup List.sortedLE_insertionSort) (fun x => ?_)
  rw [mem_dedup, mem_dedup, List.mem_insertionSort, List.mem_insertionSort, h]

end

/-- Sorting is insertion sort of Mathlib. -/
theorem sortStrings_eq (l : List Str) : sortStrings l = l.insertionSort (· ≤ ·) :=
  insertionSort_congr strLe_iff l

theorem toLower_toLower (c : Char) : c.toLower.toLower = c.toLower := by
  by_cases h : c.val ≥ 'A'.val ∧ c.val ≤ 'Z'.val
  · have hval : c.toLower.val = c.val + ('a'.val - 'A'.val) := congrArg Char.val (dif_pos h)
    have hlower : ¬ (c.toLower.val ≥ 'A'.val ∧ c.toLower.val ≤ 'Z'.val) := by
      rw [hval]
      grind
    exact dif_neg hlower
  · have hself : c.toLower = c := dif_neg h
    rw [hself, hself]

/-- Lowering letters twice changes nothing more. -/
theorem lower_lower (s : Str) : lower (lower s) = lower s := by
  rw [lower, lower, List.map_map]
  exact List.map_congr_left (fun c _ => toLower_toLower c)

end Kahea
