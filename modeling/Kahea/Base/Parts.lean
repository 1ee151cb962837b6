import Kahea.Base.Json

/-!
# Parts of Values

A value and everything inside it. Members, items and what a pointer selects
are parts, and the parts of a part are parts.

## Main definitions

* `Value.parts`: A value and everything inside it.

## Theorems

* `Value.parts_trans`: A part of a part is a part.
* `mem_parts_of_pointer`: What a pointer selects is a part.
-/

namespace Kahea


mutual

/-- The value and everything inside it. -/
def Value.parts : Value → List Value
  | .array items => .array items :: partsItems items
  | .object members => .object members :: partsMembers members
  | v => [v]

/-- The parts of the items. -/
def partsItems : List Value → List Value
  | [] => []
  | item :: rest => item.parts ++ partsItems rest

/-- The parts of the members. -/
def partsMembers : List (Str × Value) → List Value
  | [] => []
  | (_, member) :: rest => member.parts ++ partsMembers rest

end

/-- The parts of a list are those of its items. -/
theorem mem_partsItems {items : List Value} {w : Value} :
    w ∈ partsItems items ↔ ∃ item ∈ items, w ∈ item.parts := by
  induction items with
  | nil => simp [partsItems]
  | cons item rest ih => simp [partsItems, ih]

/-- The parts of an object are those of its members. -/
theorem mem_partsMembers {members : List (Str × Value)} {w : Value} :
    w ∈ partsMembers members ↔ ∃ m ∈ members, w ∈ m.2.parts := by
  induction members with
  | nil => simp [partsMembers]
  | cons m rest ih => simp [partsMembers, ih]

theorem Value.mem_parts_self (v : Value) : v ∈ v.parts := by
  cases v <;> simp [Value.parts]

mutual

/-- A part of a part is a part. The recursion is that of the parts. -/
theorem Value.parts_trans : ∀ (u : Value) {v w : Value}, v ∈ u.parts → w ∈ v.parts → w ∈ u.parts
  | .null, v, w, hv, hw => by
      rw [Value.parts, List.mem_singleton] at hv
      rwa [hv] at hw
      all_goals nofun
  | .bool b, v, w, hv, hw => by
      rw [Value.parts, List.mem_singleton] at hv
      rwa [hv] at hw
      all_goals nofun
  | .number n, v, w, hv, hw => by
      rw [Value.parts, List.mem_singleton] at hv
      rwa [hv] at hw
      all_goals nofun
  | .string s, v, w, hv, hw => by
      rw [Value.parts, List.mem_singleton] at hv
      rwa [hv] at hw
      all_goals nofun
  -- The part is the array itself, or lies in one of its items.
  | .array items, v, w, hv, hw => by
      rw [Value.parts, List.mem_cons] at hv
      rcases hv with rfl | hv
      · exact hw
      · rw [Value.parts]
        exact List.mem_cons_of_mem _ (partsItems_trans items hv hw)
  | .object members, v, w, hv, hw => by
      rw [Value.parts, List.mem_cons] at hv
      rcases hv with rfl | hv
      · exact hw
      · rw [Value.parts]
        exact List.mem_cons_of_mem _ (partsMembers_trans members hv hw)

theorem partsItems_trans : ∀ (items : List Value) {v w : Value}, v ∈ partsItems items →
    w ∈ v.parts → w ∈ partsItems items
  | [], v, w, hv, _ => absurd hv List.not_mem_nil
  | item :: rest, v, w, hv, hw => by
      rw [partsItems, List.mem_append] at hv ⊢
      rcases hv with hv | hv
      · exact Or.inl (item.parts_trans hv hw)
      · exact Or.inr (partsItems_trans rest hv hw)

theorem partsMembers_trans : ∀ (members : List (Str × Value)) {v w : Value},
    v ∈ partsMembers members → w ∈ v.parts → w ∈ partsMembers members
  | [], v, w, hv, _ => absurd hv List.not_mem_nil
  | (_, member) :: rest, v, w, hv, hw => by
      rw [partsMembers, List.mem_append] at hv ⊢
      rcases hv with hv | hv
      · exact Or.inl (member.parts_trans hv hw)
      · exact Or.inr (partsMembers_trans rest hv hw)

end

section

variable {v w : Value}

/-- An item is a part, and smaller. -/
theorem mem_parts_of_item {items : List Value} (hitems : v.asArray = some items) (hw : w ∈ items) :
    w ∈ v.parts ∧ sizeOf w < sizeOf v := by
  cases v with
  | array list =>
      cases hitems
      refine ⟨List.mem_cons_of_mem _ (mem_partsItems.mpr ⟨w, hw, w.mem_parts_self⟩), ?_⟩
      have hlt := List.sizeOf_lt_of_mem hw
      simp only [Value.array.sizeOf_spec]
      omega
  | _ => exact nomatch hitems

/-- A member is a part, and smaller. -/
theorem mem_parts_of_member {members : List (Str × Value)} {name : Str}
    (hmembers : v.asObject = some members) (hw : (name, w) ∈ members) :
    w ∈ v.parts ∧ sizeOf w < sizeOf v := by
  cases v with
  | object list =>
      cases hmembers
      refine ⟨List.mem_cons_of_mem _ (mem_partsMembers.mpr ⟨_, hw, w.mem_parts_self⟩), ?_⟩
      have hlt := List.sizeOf_lt_of_mem hw
      simp only [Value.object.sizeOf_spec, Prod.mk.sizeOf_spec] at hlt ⊢
      omega
  | _ => exact nomatch hmembers

/-- What a name selects is a part. -/
theorem mem_parts_of_get {k : Str} (h : v.get k = some w) : w ∈ v.parts := by
  rcases Option.bind_eq_some_iff.mp h with ⟨members, hmembers, hlookup⟩
  exact (mem_parts_of_member hmembers (lookup_mem hlookup)).1

/-- What a token selects is a part. -/
theorem mem_parts_of_child {token : Str} (h : v.child token = some w) : w ∈ v.parts := by
  cases v with
  | object members => exact (mem_parts_of_member rfl (lookup_mem h)).1
  | array items =>
      rcases Option.bind_eq_some_iff.mp h with ⟨i, _, hi⟩
      exact (mem_parts_of_item rfl (List.mem_of_getElem? hi)).1
  | _ => exact nomatch h

/-- What tokens select, one after the other, is a part. -/
theorem mem_parts_of_descend {tokens : List Str} (h : v.descend tokens = some w) : w ∈ v.parts := by
  induction tokens generalizing v with
  | nil =>
      cases h
      exact w.mem_parts_self
  | cons token rest ih =>
      rcases Option.bind_eq_some_iff.mp h with ⟨u, hu, hrest⟩
      exact v.parts_trans (mem_parts_of_child hu) (ih hrest)

theorem mem_parts_of_pointer {p : Str} (h : v.pointer p = some w) : w ∈ v.parts := by
  rcases Option.bind_eq_some_iff.mp h with ⟨tokens, _, htokens⟩
  exact mem_parts_of_descend htokens

end

end Kahea
