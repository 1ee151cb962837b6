import Kahea.Base.Json

/-!
# Values inside Values

Putting values at paths of member names, with the objects on the way created,
and what a value keeps of another one.

A run of writes decides what is found at a path without looking at the value it
starts from, or leaves the path as it was (`edited_putAll`). What the writes
made of a smaller value is therefore still there after the same writes to a
larger one: `contains_putAll`.

## Main definitions

* `Value.walk`: The part at a path of member names.
* `putAt`, `putAll`: One write, and a run of writes.
* `Contains`: A value has all parts of another one.

## Theorems

* `walk_putAt_below`, `walk_putAt_above`, `walk_putAt_apart`: What one write
  leaves at a path.
* `edited_putAll`: A run of writes to two values.
* `contains_putAll`: The same writes keep what they made of a smaller value.
-/

namespace Kahea

/-- The part of a value at a path of member names. -/
def Value.walk (v : Value) : List Str → Option Value
  | [] => some v
  | name :: path => (v.get name).bind (fun child => child.walk path)

/-- Put a value at a path, creating the objects on the way. -/
def putAt (value : Value) : List Str → Value → Option Value
  | [], _ => some value
  | name :: path, .object members =>
      (putAt value path ((lookup name members).getD (.object []))).map
        (fun child => .object (insert name child members))
  | _ :: _, _ => none

/-- Put values at paths, one after the other. -/
def putAll (fields : List (List Str × Value)) (v : Value) : Option Value :=
  fields.foldlM (fun v field => putAt field.2 field.1 v) v

/-- A value is an object. -/
def Value.IsObject (v : Value) : Prop := v.asObject.isSome

/-- A value has all parts of another one; an object may have more members. -/
def Contains (pinned actual : Value) : Prop :=
  ∀ path w, pinned.walk path = some w →
    ∃ w', actual.walk path = some w' ∧ (w' = w ∨ w.IsObject ∧ w'.IsObject)

theorem contains_refl (v : Value) : Contains v v := fun _ w h => ⟨w, h, Or.inl rfl⟩

/-! ### One write -/

theorem Value.get_object (members : List (Str × Value)) (name : Str) :
    (Value.object members).get name = lookup name members := rfl

theorem putAt_cons {value v r : Value} {name : Str} {path : List Str}
    (h : putAt value (name :: path) v = some r) :
    ∃ members child, v = .object members ∧
      putAt value path ((lookup name members).getD (.object [])) = some child ∧
      r = .object (insert name child members) := by
  cases v with
  | object members =>
      rcases Option.map_eq_some_iff.mp h with ⟨child, hchild, rfl⟩
      exact ⟨members, child, rfl, hchild, rfl⟩
  | null => cases h
  | bool b => cases h
  | number n => cases h
  | string s => cases h
  | array items => cases h

/-- At the path and under it, the written value is found. -/
theorem walk_putAt_below {value : Value} {path : List Str} {v r : Value}
    (h : putAt value path v = some r) (rest : List Str) :
    r.walk (path ++ rest) = value.walk rest := by
  induction path generalizing v r with
  | nil =>
      cases h
      rfl
  | cons name path ih =>
      rcases putAt_cons h with ⟨members, child, rfl, hchild, rfl⟩
      rw [List.cons_append, Value.walk, Value.get_object, lookup_insert_self, Option.bind_some,
        ih hchild]

/-- Above the path there are objects. -/
theorem walk_putAt_above {value : Value} {above rest : List Str} {v r : Value}
    (h : putAt value (above ++ rest) v = some r) (hrest : rest ≠ []) :
    ∃ w, r.walk above = some w ∧ w.IsObject := by
  induction above generalizing v r with
  | nil =>
      rcases List.exists_cons_of_ne_nil hrest with ⟨name, path, rfl⟩
      rcases putAt_cons h with ⟨members, child, rfl, _, rfl⟩
      exact ⟨_, rfl, rfl⟩
  | cons name above ih =>
      rcases putAt_cons h with ⟨members, child, rfl, hchild, rfl⟩
      rcases ih hchild with ⟨w, hw, hobject⟩
      refine ⟨w, ?_, hobject⟩
      rw [Value.walk, Value.get_object, lookup_insert_self, Option.bind_some, hw]

/-- Elsewhere nothing changes. -/
theorem walk_putAt_apart {value : Value} {path other : List Str} {v r : Value}
    (h : putAt value path v = some r) (hbelow : ¬ path <+: other) (habove : ¬ other <+: path) :
    r.walk other = v.walk other := by
  induction path generalizing other v r with
  | nil => exact absurd List.nil_prefix hbelow
  | cons name path ih =>
      cases other with
      | nil => exact absurd List.nil_prefix habove
      | cons first other =>
          rcases putAt_cons h with ⟨members, child, rfl, hchild, rfl⟩
          rw [Value.walk, Value.walk, Value.get_object, Value.get_object]
          by_cases hfirst : first = name
          · subst hfirst
            rw [List.prefix_cons_inj] at hbelow habove
            rw [lookup_insert_self, Option.bind_some, ih hchild hbelow habove]
            cases hmember : lookup first members with
            | some c => rfl
            | none =>
                -- The object that was created has no members of its own.
                cases other with
                | nil => exact absurd List.nil_prefix habove
                | cons second other => rfl
          · rw [lookup_insert_of_ne hfirst]

/-! ### Runs of writes -/

/-- What two values became at a path: the same, objects both, or what they
    were. -/
def EditedAlike (path : List Str) (a b a' b' : Value) : Prop :=
  a'.walk path = b'.walk path ∨
    (∃ w w', a'.walk path = some w ∧ b'.walk path = some w' ∧ w.IsObject ∧ w'.IsObject) ∨
    a'.walk path = a.walk path ∧ b'.walk path = b.walk path

theorem edited_putAt {field : List Str} {value a b a' b' : Value} (ha : putAt value field a = some a')
    (hb : putAt value field b = some b') (path : List Str) : EditedAlike path a b a' b' := by
  by_cases hbelow : field <+: path
  · rcases hbelow with ⟨rest, rfl⟩
    left
    rw [walk_putAt_below ha, walk_putAt_below hb]
  · by_cases habove : path <+: field
    · rcases habove with ⟨rest, rfl⟩
      have hrest : rest ≠ [] := by
        rintro rfl
        exact hbelow (by rw [List.append_nil])
      rcases walk_putAt_above ha hrest with ⟨w, hw, hobject⟩
      rcases walk_putAt_above hb hrest with ⟨w', hw', hobject'⟩
      exact Or.inr (Or.inl ⟨w, w', hw, hw', hobject, hobject'⟩)
    · exact Or.inr (Or.inr ⟨walk_putAt_apart ha hbelow habove, walk_putAt_apart hb hbelow habove⟩)

theorem EditedAlike.trans {path : List Str} {a b a' b' a'' b'' : Value} (h : EditedAlike path a b a' b')
    (h' : EditedAlike path a' b' a'' b'') : EditedAlike path a b a'' b'' := by
  rcases h' with hsame | hobjects | ⟨ha, hb⟩
  · exact Or.inl hsame
  · exact Or.inr (Or.inl hobjects)
  · unfold EditedAlike
    rw [ha, hb]
    exact h

/-- What a run of writes leaves at a path does not depend on the value it
    starts from, unless it leaves the path alone. -/
theorem edited_putAll {fields : List (List Str × Value)} {a b a' b' : Value}
    (ha : putAll fields a = some a') (hb : putAll fields b = some b') (path : List Str) :
    EditedAlike path a b a' b' := by
  unfold putAll at ha hb
  induction fields generalizing a b with
  | nil =>
      cases ha
      cases hb
      exact Or.inr (Or.inr ⟨rfl, rfl⟩)
  | cons field fields ih =>
      rw [List.foldlM_cons] at ha hb
      rcases Option.bind_eq_some_iff.mp ha with ⟨a₁, ha₁, ha⟩
      rcases Option.bind_eq_some_iff.mp hb with ⟨b₁, hb₁, hb⟩
      exact (edited_putAt ha₁ hb₁ path).trans (ih ha hb)

/-- A larger value keeps, under the same writes, what they made of a smaller
    one, if it had that before. -/
theorem contains_putAll {fields : List (List Str × Value)} {a b a' b' : Value}
    (ha : putAll fields a = some a') (hb : putAll fields b = some b') (hcontains : Contains a' b) :
    Contains a' b' := by
  intro path w hw
  rcases edited_putAll ha hb path with hsame | ⟨w₁, w₂, h₁, h₂, hobject₁, hobject₂⟩ | ⟨_, hunchanged⟩
  · exact ⟨w, hsame ▸ hw, Or.inl rfl⟩
  · rw [hw, Option.some.injEq] at h₁
    exact ⟨w₂, h₂, Or.inr ⟨h₁ ▸ hobject₁, hobject₂⟩⟩
  · rw [hunchanged]
    exact hcontains path w hw

/-! ### Members -/

/-- An object contains another one whose members it contains. -/
theorem contains_object {pinned actual : List (Str × Value)}
    (h : ∀ name w, lookup name pinned = some w →
      ∃ w', lookup name actual = some w' ∧ Contains w w') :
    Contains (.object pinned) (.object actual) := by
  intro path w hw
  cases path with
  | nil =>
      cases hw
      exact ⟨.object actual, rfl, Or.inr ⟨rfl, rfl⟩⟩
  | cons name path =>
      rcases Option.bind_eq_some_iff.mp hw with ⟨child, hchild, hw⟩
      rcases h name child hchild with ⟨child', hchild', hcontains⟩
      rcases hcontains path w hw with ⟨w', hw', hkept⟩
      refine ⟨w', ?_, hkept⟩
      rw [Value.walk, Value.get_object, hchild', Option.bind_some, hw']

end Kahea
