import Kahea.Base.Json
import Kahea.Base.Order

/-!
# Tables

What is found in a table after a run of writes.

A write keeps what a key already has (`addNew`, an insertion that ignores
conflicts) or replaces it (`insert`). After a run the first write of a key
counts in the one case and the last one in the other.

A table that is built by insertions is in the order of its keys, each key once.
Insertions of keys that are all different only rearrange the entries.

## Main definitions

* `Ordered`: The entries in the order of their keys, each key once.
* `addNew`: Adding an entry whose key is new.
* `writeAll`: A run of writes.

## Theorems

* `lookup_addNew`: What one write leaves that ignores conflicts.
* `lookup_writeAll`: The last write of a key counts.
* `writeAll_perm`: Writes of different keys rearrange the entries.
* `length_writeAll_iff`: No entry is overwritten exactly when all keys are different.
-/

namespace Kahea

section

variable {β : Type}

/-- The members are in the order of their names, each name once. -/
def Ordered (members : List (Str × β)) : Prop :=
  members.Pairwise (fun a b => strLt a.1 b.1 = true)

theorem Ordered.nodup {members : List (Str × β)} (h : Ordered members) :
    (members.map Prod.fst).Nodup := by
  refine List.pairwise_map.mpr (h.imp (fun {a b} hlt heq => ?_))
  rw [heq, strLt_irrefl] at hlt
  cases hlt

theorem ordered_insert {m : List (Str × β)} (h : Ordered m) (k : Str) (v : β) :
    Ordered (insert k v m) := by
  induction m with
  | nil => exact List.pairwise_singleton _ _
  | cons e rest ih =>
      rcases e with ⟨l, w⟩
      rcases List.pairwise_cons.mp h with ⟨hafter, hrest⟩
      unfold insert
      split_ifs with hkl hlt
      · subst hkl
        exact List.pairwise_cons.mpr ⟨hafter, hrest⟩
      · refine List.pairwise_cons.mpr ⟨fun e he => ?_, h⟩
        rcases List.mem_cons.mp he with rfl | he
        · exact hlt
        · exact strLt_trans hlt (hafter e he)
      · refine List.pairwise_cons.mpr ⟨fun e he => ?_, ih hrest⟩
        rcases mem_of_mem_insert he with rfl | he
        · -- Neither equal nor smaller, so greater.
          rw [strLt_iff] at hlt ⊢
          exact lt_of_le_of_ne (not_lt.mp hlt) (Ne.symm hkl)
        · exact hafter e he

theorem lookup_eq_none_of_notMem {k : Str} {m : List (Str × β)}
    (h : ∀ e ∈ m, e.1 ≠ k) : lookup k m = none := by
  cases hfound : lookup k m with
  | none => rfl
  | some v => exact absurd rfl (h _ (lookup_mem hfound))

/-- A name that stands in a list is found there, with its first value. -/
theorem lookup_isSome_of_mem {e : Str × β} {m : List (Str × β)} (h : e ∈ m) :
    (lookup e.1 m).isSome := by
  induction m with
  | nil => cases h
  | cons f rest ih =>
      rw [lookup]
      split_ifs with hname
      · rfl
      · rcases List.mem_cons.mp h with rfl | h
        · exact absurd rfl hname
        · exact ih h

/-- Add an entry unless its key is there. -/
def addNew (k : Str) (v : β) (m : List (Str × β)) : List (Str × β) :=
  if (lookup k m).isSome then m else m ++ [(k, v)]

/-- What is there stays, and the new entry is there if nothing was. -/
theorem lookup_addNew (k l : Str) (v : β) (m : List (Str × β)) :
    lookup l (addNew k v m) = (lookup l m).or (if k = l then some v else none) := by
  unfold addNew
  by_cases hthere : (lookup k m).isSome
  · rw [if_pos hthere]
    by_cases hkl : k = l
    · subst hkl
      rcases Option.isSome_iff_exists.mp hthere with ⟨w, hw⟩
      rw [hw, Option.some_or]
    · rw [if_neg hkl, Option.or_none]
  · rw [if_neg hthere, lookup_append]
    rfl

/-- Write entries one after the other. -/
def writeAll (entries m : List (Str × β)) : List (Str × β) :=
  entries.foldl (fun m e => insert e.1 e.2 m) m

/-- The last write of a key counts. -/
theorem lookup_writeAll (l : Str) (entries m : List (Str × β)) :
    lookup l (writeAll entries m) = (lookup l entries.reverse).or (lookup l m) := by
  unfold writeAll
  induction entries generalizing m with
  | nil => rfl
  | cons e rest ih =>
      rw [List.foldl_cons, ih, List.reverse_cons, lookup_append, Option.or_assoc]
      congr 1
      rw [lookup]
      by_cases hkey : e.1 = l
      · rw [if_pos hkey, Option.some_or, ← hkey, lookup_insert_self]
      · rw [if_neg hkey, lookup_insert_of_ne (Ne.symm hkey)]
        rfl

theorem ordered_writeAll {entries m : List (Str × β)} (h : Ordered m) :
    Ordered (writeAll entries m) := by
  unfold writeAll
  induction entries generalizing m with
  | nil => exact h
  | cons e rest ih =>
      rw [List.foldl_cons]
      exact ih (ordered_insert h e.1 e.2)

/-- A new key only adds its entry. -/
theorem insert_perm {k : Str} {m : List (Str × β)} (v : β) (h : k ∉ m.map Prod.fst) :
    (insert k v m).Perm ((k, v) :: m) := by
  induction m with
  | nil => exact List.Perm.refl _
  | cons e rest ih =>
      rcases e with ⟨l, w⟩
      rw [List.map_cons, List.mem_cons, not_or] at h
      rcases h with ⟨hkl, hrest⟩
      rw [insert, if_neg hkl]
      by_cases hlt : strLt k l = true
      · rw [if_pos hlt]
      · rw [if_neg hlt]
        exact ((ih hrest).cons _).trans (List.Perm.swap _ _ _)

/-- Writes of keys that are different and new rearrange the entries. -/
theorem writeAll_perm {entries m : List (Str × β)} (hnodup : (entries.map Prod.fst).Nodup)
    (hnew : ∀ e ∈ entries, e.1 ∉ m.map Prod.fst) : (writeAll entries m).Perm (entries ++ m) := by
  unfold writeAll
  induction entries generalizing m with
  | nil => exact List.Perm.refl _
  | cons e rest ih =>
      rw [List.map_cons, List.nodup_cons] at hnodup
      have hinsert := insert_perm e.2 (hnew e List.mem_cons_self)
      have hlater : ∀ f ∈ rest, f.1 ∉ (insert e.1 e.2 m).map Prod.fst := by
        intro f hf hmem
        rw [(hinsert.map Prod.fst).mem_iff, List.map_cons, List.mem_cons] at hmem
        rcases hmem with heq | hmem
        · exact hnodup.1 (heq ▸ List.mem_map_of_mem hf)
        · exact hnew f (List.mem_cons_of_mem e hf) hmem
      rw [List.foldl_cons]
      have hmoved : (rest ++ insert e.1 e.2 m).Perm (rest ++ e :: m) := hinsert.append_left rest
      exact ((ih hnodup.2 hlater).trans hmoved).trans List.perm_middle

/-- No write replaces another one exactly when all keys are different. -/
theorem length_writeAll_iff (entries : List (Str × β)) :
    (writeAll entries []).length = entries.length ↔ (entries.map Prod.fst).Nodup := by
  constructor
  · intro hlength
    have hnodup : ((writeAll entries []).map Prod.fst).Nodup :=
      (ordered_writeAll List.Pairwise.nil).nodup
    have hsubset : (writeAll entries []).map Prod.fst ⊆ entries.map Prod.fst := by
      intro key hkey
      rcases List.mem_map.mp hkey with ⟨e, he, rfl⟩
      have hfound := (lookup_eq_some_iff_mem hnodup).mpr he
      rw [lookup_writeAll, lookup, Option.or_none] at hfound
      exact List.mem_map_of_mem (List.mem_reverse.mp (lookup_mem hfound))
    have hperm := (List.subperm_of_subset hnodup hsubset).perm_of_length_le
      (by rw [List.length_map, List.length_map, hlength])
    exact hperm.nodup_iff.mp hnodup
  · intro hnodup
    have hperm := writeAll_perm (m := []) hnodup (fun _ _ => List.not_mem_nil)
    rw [hperm.length_eq, List.append_nil]

end

end Kahea
