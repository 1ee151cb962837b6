import Kahea.Conformance.Campaign
import Kahea.Exec.Schema

/-!
# Negative Values

The values a campaign sends to be rejected: the mutations of a JSON body and
the texts for a parameter.

A mutation is made from one keyword at one place and put back into the value
around it. `Mutation` is the relation between a valid value and such a
mutation. Its flag tells the mutations that need not be invalid: those made
under a schema that is itself a reference, whose other keywords the validator
does not read, an unknown property whose name is declared, and `false` for a
text whose schema names no single known type, which a union with `boolean`
admits. The others break the keyword they were made from, and a value with an
invalid part is invalid (`Mutation.rejected`).

## Main definitions

* `invalidValue`, `invalidJsonValues`: The mutations of a body.
* `invalidScalar`: The text for a parameter.
* `Mutation`, `ScalarMutation`: The same, with their flags.
* `Known`, `ScalarKnown`: No mutation has a flag.
* `NegativesInvalid`: Every mutation is rejected.

## Theorems

* `mem_invalidJsonValues`: The mutations are those of the relation.
* `Mutation.rejected`: One without a flag is rejected.
* `negatives_invalid_flagged`: Every mutation is rejected when the flagged are.
* `negatives_invalid`: Where no mutation has a flag, every one is rejected.
* `negatives_invalid_object`, `negatives_valid_union`: Two schemas.
-/

namespace Kahea

/-! ### The generator -/

/-- The text no enumeration is expected to have. -/
def outsideEnum : Str := "__kahea_outside_enum__"

/-- The name no schema is expected to declare. -/
def unknownName : Str := "__kahea_unknown"

/-- The types the generator knows a wrong value for. -/
def mutableTypes : List Str :=
  ["string", "integer", "number", "boolean", "array", "object", "null"].map String.toList

/-- The type of a schema that names a single one. -/
def singleType (schema : Value) : Option Str := (schema.get "type").bind Value.asStr

/-- The schema has an enumeration without the outside text. -/
def enumExcludes (schema : Value) : Bool :=
  ((schema.get "enum").bind Value.asArray).any (fun values => !(values.contains (.string outsideEnum)))

/-- A value that is not one of the strings a schema admits. -/
def invalidText (schema : Value) : Value :=
  if ((schema.get "minLength").bind Value.asU64).any (fun n => 0 < n) then .string []
  else match (schema.get "maxLength").bind Value.asU64 with
    | some n => if n < 1024 then .string (List.replicate (n + 1) 'x') else .bool false
    | none => .bool false

/-- A value that is not one of a type. -/
def invalidOfType (schema : Value) (kind : Str) : Value :=
  if kind = "string" then invalidText schema
  else if kind = "boolean" then .string "not-a-boolean"
  else if kind = "array" then jsonObject [("not", .string "an-array")]
  else if kind = "object" then .array [.string "not-an-object"]
  else if kind = "null" then .bool true
  else .string "not-a-number"

/-- The function `invalid_value`. -/
def invalidValue (schema value : Value) : Option Value :=
  if enumExcludes schema then some (.string outsideEnum)
  else match (singleType schema).filter (fun kind => mutableTypes.contains kind) with
    | some kind => some (invalidOfType schema kind)
    | none => if value.asStr.isSome then some (.bool false) else none

/-- The function `resolve`: a value, or what its reference selects. -/
def resolveLocal (root value : Value) (path : Str) : Except ConformanceError Value :=
  match (value.get "$ref").bind Value.asStr with
  | none => .ok value
  | some reference => match resolveContractRef root value with
    | some target => .ok target
    | none => .error (.generation path ("unresolved local reference " ++ debugQuote reference))

/-- The names of the required properties an object has. -/
def presentRequired (schema : Value) (object : List (Str × Value)) : List Str :=
  ((((schema.get "required").bind Value.asArray).getD []).filterMap Value.asStr).filter
    (fun name => (lookup name object).isSome)

/-- An object without a member. -/
def without (name : Str) (object : List (Str × Value)) : List (Str × Value) :=
  object.filter (fun m => m.1 ≠ name)

/-- The mutations that leave a required property out. -/
def omittedMutations (schema value : Value) (path : Str) : List (Str × Value) :=
  (value.asObject.map (fun object => (presentRequired schema object).map (fun name =>
    ("omit-required-body:" ++ path ++ '.' :: name, .object (without name object))))).getD []

/-- The mutation that adds an unknown property where none is allowed. -/
def unknownMutations (schema value : Value) (path : Str) : List (Str × Value) :=
  if schema.get "additionalProperties" = some (.bool false) then
    (value.asObject.map (fun object => [("unknown-body-property:" ++ path,
      .object (insert unknownName (.bool true) object))])).getD []
  else []

section

variable (recurse : Value → Value → Str → Except ConformanceError (List (Str × Value)))

/-- The mutations of one property, put back into the object. -/
def propertyMutations (object : List (Str × Value)) (path : Str) (property : Str × Value) :
    Except ConformanceError (List (Str × Value)) :=
  match lookup property.1 object with
  | none => .ok []
  | some child => (recurse property.2 child (path ++ '.' :: property.1)).map
      (fun found => found.map (fun m => (m.1, .object (insert property.1 m.2 object))))

/-- The mutations of one item, put back into the array. -/
def itemMutations (items : Value) (values : List Value) (path : Str) (child : Value × Nat) :
    Except ConformanceError (List (Str × Value)) :=
  (recurse items child.1 (path ++ '[' :: decimal child.2 ++ [']'])).map
    (fun found => found.map (fun m => (m.1, .array (values.set child.2 m.2))))

/-- The mutations of the properties and the items of a value. -/
def childMutations (schema value : Value) (path : Str) :
    Except ConformanceError (List (Str × Value)) := do
  let properties ← (((schema.get "properties").bind Value.asObject).getD []).mapM
    (fun property => propertyMutations recurse (value.asObject.getD []) path property)
  let items ← (((schema.get "items").bind (fun _ => value.asArray)).getD []).zipIdx.mapM
    (itemMutations recurse ((schema.get "items").getD .null) (value.asArray.getD []) path)
  pure (properties.flatten ++ items.flatten)

end

/-- The function `invalid_json_values`; the first argument is the number of
    levels left. -/
def invalidJsonValues (root : Value) : Nat → Value → Value → Str →
    Except ConformanceError (List (Str × Value))
  | 0, _, _, _ => .ok []
  | levels + 1, schema, value, path => do
      let schema ← resolveLocal root schema path
      let children ← childMutations (invalidJsonValues root levels) schema value path
      pure (omittedMutations schema value path ++ unknownMutations schema value path ++ children ++
        (invalidValue schema value).toList.map (fun m => ("invalid-body-value:" ++ path, m)))

/-- The function `invalid_scalar`. -/
def invalidScalar (schema : Value) : Option Str :=
  if ((schema.get "enum").bind Value.asArray).isSome then some outsideEnum
  else match singleType schema with
    | none => none
    | some kind =>
        if kind = "integer" || kind = "number" then some "not-a-number"
        else if kind = "boolean" then some "not-a-boolean"
        else if kind = "string" && 0 < ((schema.get "minLength").bind Value.asU64).getD 0 then
          some []
        else none

/-! ### The mutations as a relation -/

/-- The schema declares the name that is expected to be unknown. -/
def declaresUnknown (schema : Value) : Bool :=
  ((schema.get "properties").bind Value.asObject).any (fun ps => (lookup unknownName ps).isSome)

/-- Nothing in the schema tells the generator what a wrong value is. -/
def untyped (schema : Value) : Bool :=
  !enumExcludes schema && !((singleType schema).any (fun kind => mutableTypes.contains kind))

/-- A mutation of a value that is valid for a schema. The flag is `true` when
    the mutation may be valid too. -/
inductive Mutation (root : Value) : Nat → Value → Value → Bool → Value → Prop
  | omitted {levels : Nat} {schema value target : Value} {object : List (Str × Value)} {name : Str}
      (ht : refTarget root schema = some target) (ho : value.asObject = some object)
      (hn : name ∈ presentRequired target object) :
      Mutation root (levels + 1) schema value (isReference target) (.object (without name object))
  | unknown {levels : Nat} {schema value target : Value} {object : List (Str × Value)}
      (ht : refTarget root schema = some target) (ho : value.asObject = some object)
      (hd : target.get "additionalProperties" = some (.bool false)) :
      Mutation root (levels + 1) schema value (isReference target || declaresUnknown target)
        (.object (insert unknownName (.bool true) object))
  | property {levels : Nat} {schema value target : Value} {object properties : List (Str × Value)}
      {property : Str × Value} {child bad : Value} {flag : Bool}
      (ht : refTarget root schema = some target) (ho : value.asObject = some object)
      (hp : (target.get "properties").bind Value.asObject = some properties)
      (hmem : property ∈ properties) (hc : lookup property.1 object = some child)
      (h : Mutation root levels property.2 child flag bad) :
      Mutation root (levels + 1) schema value (isReference target || flag)
        (.object (insert property.1 bad object))
  | item {levels : Nat} {schema value target items : Value} {values : List Value} {index : Nat}
      {child bad : Value} {flag : Bool}
      (ht : refTarget root schema = some target) (hi : target.get "items" = some items)
      (hv : value.asArray = some values) (hc : values[index]? = some child)
      (h : Mutation root levels items child flag bad) :
      Mutation root (levels + 1) schema value (isReference target || flag)
        (.array (values.set index bad))
  | wrong {levels : Nat} {schema value target bad : Value}
      (ht : refTarget root schema = some target) (hw : invalidValue target value = some bad) :
      Mutation root (levels + 1) schema value (isReference target || untyped target) bad

/-- The text for a parameter, with a flag when it may be valid. -/
inductive ScalarMutation (schema : Value) : Bool → Str → Prop
  | enum (h : ((schema.get "enum").bind Value.asArray).isSome) :
      ScalarMutation schema (isReference schema || !enumExcludes schema) outsideEnum
  | type {text : Str} (henum : (schema.get "enum").bind Value.asArray = none)
      (h : invalidScalar schema = some text) : ScalarMutation schema (isReference schema) text

/-- The schema tells what a wrong value is wherever a mutation of the value is
    made: no mutation has a flag. -/
def Known (root schema value : Value) : Prop := ∀ bad, ¬ Mutation root 32 schema value true bad

/-- The schema of a parameter tells what a wrong text is, if one is made. -/
def ScalarKnown (schema : Value) : Prop := ∀ text, ¬ ScalarMutation schema true text

theorem resolveLocal_ok {root schema target : Value} {path : Str} :
    resolveLocal root schema path = .ok target ↔ refTarget root schema = some target := by
  unfold resolveLocal refTarget isReference
  cases (schema.get "$ref").bind Value.asStr with
  | none =>
      simp only [Except.ok.injEq, Option.isSome_none, Bool.false_eq_true, if_false,
        Option.some.injEq]
  | some reference =>
      simp only [Option.isSome_some, if_true]
      cases resolveContractRef root schema with
      | none => exact iff_of_false nofun nofun
      | some found => simp only [Except.ok.injEq, Option.some.injEq]

/-- A generator of mutations follows a relation: where it returns, its values
    are the ones related. -/
def Generates (recurse : Value → Value → Str → Except ConformanceError (List (Str × Value)))
    (related : Value → Value → Value → Prop) : Prop :=
  ∀ schema value path found, recurse schema value path = .ok found →
    ∀ bad, bad ∈ found.map Prod.snd ↔ related schema value bad

section

variable {recurse : Value → Value → Str → Except ConformanceError (List (Str × Value))}
  {related : Value → Value → Value → Prop} {found : List (Str × Value)}

theorem mem_propertyMutations (hrec : Generates recurse related) {object : List (Str × Value)}
    {path : Str} {property : Str × Value}
    (h : propertyMutations recurse object path property = .ok found) (bad : Value) :
    bad ∈ found.map Prod.snd ↔ ∃ child, lookup property.1 object = some child ∧
      ∃ inner, related property.2 child inner ∧ bad = .object (insert property.1 inner object) := by
  unfold propertyMutations at h
  cases hchild : lookup property.1 object with
  | none =>
      rw [hchild] at h
      cases h
      exact iff_of_false List.not_mem_nil (fun ⟨_, hc, _⟩ => nomatch hc)
  | some child =>
      rw [hchild] at h
      dsimp only at h
      cases hfound : recurse property.2 child (path ++ '.' :: property.1) with
      | error e =>
          rw [hfound] at h
          cases h
      | ok inner =>
          rw [hfound] at h
          cases h
          -- What the recursion finds for the member, put back in its place.
          simp only [Option.some.injEq, exists_eq_left', ← hrec _ _ _ _ hfound, List.map_map,
            List.mem_map, Function.comp_apply]
          constructor
          · rintro ⟨m, hm, rfl⟩
            exact ⟨m.2, ⟨m, hm, rfl⟩, rfl⟩
          · rintro ⟨_, ⟨m, hm, rfl⟩, rfl⟩
            exact ⟨m, hm, rfl⟩

theorem mem_itemMutations (hrec : Generates recurse related) {items : Value} {values : List Value}
    {path : Str} {child : Value × Nat}
    (h : itemMutations recurse items values path child = .ok found) (bad : Value) :
    bad ∈ found.map Prod.snd ↔
      ∃ inner, related items child.1 inner ∧ bad = .array (values.set child.2 inner) := by
  unfold itemMutations at h
  cases hfound : recurse items child.1 (path ++ '[' :: decimal child.2 ++ [']']) with
  | error e =>
      rw [hfound] at h
      cases h
  | ok inner =>
      rw [hfound] at h
      cases h
      simp only [← hrec _ _ _ _ hfound, List.map_map, List.mem_map, Function.comp_apply]
      constructor
      · rintro ⟨m, hm, rfl⟩
        exact ⟨m.2, ⟨m, hm, rfl⟩, rfl⟩
      · rintro ⟨_, ⟨m, hm, rfl⟩, rfl⟩
        exact ⟨m, hm, rfl⟩

theorem mem_childMutations (hrec : Generates recurse related) {schema value : Value} {path : Str}
    (h : childMutations recurse schema value path = .ok found) (bad : Value) :
    bad ∈ found.map Prod.snd ↔
      (∃ object properties, value.asObject = some object ∧
        (schema.get "properties").bind Value.asObject = some properties ∧
        ∃ property ∈ properties, ∃ child, lookup property.1 object = some child ∧
          ∃ inner, related property.2 child inner ∧
            bad = .object (insert property.1 inner object)) ∨
      ∃ items values, schema.get "items" = some items ∧ value.asArray = some values ∧
        ∃ index child, values[index]? = some child ∧
          ∃ inner, related items child inner ∧ bad = .array (values.set index inner) := by
  unfold childMutations at h
  rcases except_bind_ok.mp h with ⟨properties, hproperties, h⟩
  rcases except_bind_ok.mp h with ⟨items, hitems, h⟩
  rw [except_pure_ok] at h
  subst h
  rw [List.map_append, List.mem_append]
  refine or_congr ?_ ?_
  -- Members of an object, each property in turn.
  · constructor
    · intro hbad
      rcases List.mem_map.mp hbad with ⟨m, hm, rfl⟩
      rcases (mem_flatten_of_mapM hproperties).mp hm with ⟨property, hmem, ys, hys, hm⟩
      rcases (mem_propertyMutations hrec hys m.2).mp (List.mem_map_of_mem hm)
        with ⟨child, hchild, inner, hinner, heq⟩
      cases hobject : value.asObject with
      | none =>
          rw [hobject] at hchild
          cases hchild
      | some object =>
          rw [hobject] at hchild heq
          cases hdeclared : (schema.get "properties").bind Value.asObject with
          | none =>
              rw [hdeclared] at hmem
              cases hmem
          | some declared =>
              rw [hdeclared] at hmem
              exact ⟨object, declared, rfl, rfl, property, hmem, child, hchild, inner, hinner, heq⟩
    · rintro ⟨object, declared, hobject, hdeclared, property, hmem, child, hchild, inner, hinner, rfl⟩
      simp only [hobject, hdeclared, Option.getD_some] at hproperties
      rcases ok_of_mapM hproperties hmem with ⟨ys, hys⟩
      rcases List.mem_map.mp ((mem_propertyMutations hrec hys _).mpr
        ⟨child, hchild, inner, hinner, rfl⟩) with ⟨m, hm, heq⟩
      rw [← heq]
      exact List.mem_map_of_mem ((mem_flatten_of_mapM hproperties).mpr ⟨property, hmem, ys, hys, hm⟩)
  -- Items of an array, each in turn.
  · constructor
    · intro hbad
      rcases List.mem_map.mp hbad with ⟨m, hm, rfl⟩
      rcases (mem_flatten_of_mapM hitems).mp hm with ⟨⟨child, index⟩, hmem, ys, hys, hm⟩
      rcases (mem_itemMutations hrec hys m.2).mp (List.mem_map_of_mem hm) with ⟨inner, hinner, heq⟩
      cases hdeclared : schema.get "items" with
      | none =>
          rw [hdeclared] at hmem
          cases hmem
      | some declared =>
          rw [hdeclared] at hmem hinner
          cases hvalues : value.asArray with
          | none =>
              rw [hvalues] at hmem
              cases hmem
          | some values =>
              rw [hvalues] at hmem heq
              have hchild : values[index]? = some child :=
                List.mem_zipIdx_iff_getElem?.mp hmem
              exact ⟨declared, values, rfl, rfl, index, child, hchild, inner, hinner, heq⟩
    · rintro ⟨declared, values, hdeclared, hvalues, index, child, hchild, inner, hinner, rfl⟩
      simp only [hdeclared, hvalues, Option.bind_some, Option.getD_some] at hitems
      have hmem : (child, index) ∈ values.zipIdx := List.mem_zipIdx_iff_getElem?.mpr hchild
      rcases ok_of_mapM hitems hmem with ⟨ys, hys⟩
      rcases List.mem_map.mp ((mem_itemMutations hrec hys _).mpr ⟨inner, hinner, rfl⟩)
        with ⟨m, hm, heq⟩
      rw [← heq]
      exact List.mem_map_of_mem ((mem_flatten_of_mapM hitems).mpr ⟨(child, index), hmem, ys, hys, hm⟩)

end

/-- The generator finds the mutations of the relation and no others. -/
theorem mem_invalidJsonValues (root : Value) (levels : Nat) :
    Generates (invalidJsonValues root levels)
      (fun schema value bad => ∃ flag, Mutation root levels schema value flag bad) := by
  induction levels with
  | zero =>
      intro schema value path found h bad
      cases h
      exact iff_of_false List.not_mem_nil (fun ⟨_, h⟩ => nomatch h)
  | succ levels ih =>
      intro schema value path found h bad
      unfold invalidJsonValues at h
      rcases except_bind_ok.mp h with ⟨target, htarget, h⟩
      rcases except_bind_ok.mp h with ⟨children, hchildren, h⟩
      rw [except_pure_ok] at h
      subst h
      rw [resolveLocal_ok] at htarget
      -- The four kinds of mutation, in the order they are listed.
      have hchild := mem_childMutations ih hchildren bad
      rw [List.map_append, List.map_append, List.map_append, List.mem_append, List.mem_append,
        List.mem_append, hchild]
      constructor
      · rintro (((h | h) | h) | h)
        · -- A required property left out.
          cases hobject : value.asObject with
          | none =>
              rw [omittedMutations, hobject] at h
              cases h
          | some object =>
              rw [omittedMutations, hobject, Option.map_some, Option.getD_some, List.map_map] at h
              rcases List.mem_map.mp h with ⟨name, hname, rfl⟩
              exact ⟨_, .omitted htarget hobject hname⟩
        · unfold unknownMutations at h
          split_ifs at h with hdenied
          · cases hobject : value.asObject with
            | none =>
                rw [hobject] at h
                cases h
            | some object =>
                rw [hobject] at h
                rw [List.mem_singleton.mp h]
                exact ⟨_, .unknown htarget hobject hdenied⟩
          · cases h
        · rcases h with ⟨object, properties, ho, hp, property, hmem, child, hc, inner, ⟨flag, hm⟩, rfl⟩ |
            ⟨items, values, hi, hv, index, child, hc, inner, ⟨flag, hm⟩, rfl⟩
          · exact ⟨_, .property htarget ho hp hmem hc hm⟩
          · exact ⟨_, .item htarget hi hv hc hm⟩
        · rw [List.map_map] at h
          rcases List.mem_map.mp h with ⟨wrong, hwrong, rfl⟩
          exact ⟨_, .wrong htarget (Option.mem_toList.mp hwrong)⟩
      -- Each constructor is found in its part of the list.
      · rintro ⟨flag, hmutation⟩
        cases hmutation with
        | omitted ht ho hn =>
            rw [htarget, Option.some.injEq] at ht
            subst ht
            refine Or.inl (Or.inl (Or.inl ?_))
            rw [omittedMutations, ho, Option.map_some, Option.getD_some, List.map_map]
            exact List.mem_map.mpr ⟨_, hn, rfl⟩
        | unknown ht ho hd =>
            rw [htarget, Option.some.injEq] at ht
            subst ht
            refine Or.inl (Or.inl (Or.inr ?_))
            rw [unknownMutations, if_pos hd, ho]
            exact List.mem_singleton.mpr rfl
        | property ht ho hp hmem hc hm =>
            rw [htarget, Option.some.injEq] at ht
            subst ht
            exact Or.inl (Or.inr (Or.inl ⟨_, _, ho, hp, _, hmem, _, hc, _, ⟨_, hm⟩, rfl⟩))
        | item ht hi hv hc hm =>
            rw [htarget, Option.some.injEq] at ht
            subst ht
            exact Or.inl (Or.inr (Or.inr ⟨_, _, hi, hv, _, _, hc, _, ⟨_, hm⟩, rfl⟩))
        | wrong ht hw =>
            rw [htarget, Option.some.injEq] at ht
            subst ht
            refine Or.inr ?_
            rw [hw]
            exact List.mem_singleton.mpr rfl

/-! ### What is rejected -/

theorem lookup_without (name : Str) (object : List (Str × Value)) :
    lookup name (without name object) = none := by
  induction object with
  | nil => rfl
  | cons e rest ih =>
      rcases e with ⟨k, v⟩
      unfold without at ih ⊢
      by_cases hk : k = name
      · rw [List.filter_cons_of_neg (by simpa using hk), ih]
      · rw [List.filter_cons_of_pos (by simpa using hk), lookup, if_neg hk, ih]

section

variable {lib : Crates} {root : Value}

/-- No depth of the validator takes the value for valid. -/
def Rejected (lib : Crates) (root schema value : Value) : Prop :=
  ∀ levels, ¬ Satisfies lib root levels schema value

/-- What the target of a schema rejects the schema does, and a schema that is
    no reference rejects what breaks one of its keywords. -/
theorem rejected_of_target {schema target value : Value}
    (ht : refTarget root schema = some target) (hplain : isReference target = false)
    (h : ∀ levels, ¬ LevelSatisfied lib (Satisfies lib root levels) target value) :
    Rejected lib root schema value := by
  -- A plain target is judged by its own keywords at every level.
  have htarget : Rejected lib root target value := by
    intro levels hsat
    cases levels with
    | zero => exact hsat
    | succ levels =>
        unfold Satisfies at hsat
        have hno : ¬ ((target.get "$ref").bind Value.asStr).isSome = true :=
          Bool.eq_false_iff.mp hplain
        rw [if_neg hno] at hsat
        exact h levels hsat
  intro levels hsat
  unfold refTarget at ht
  split_ifs at ht with href
  -- A reference costs one level more.
  · cases levels with
    | zero => exact hsat
    | succ levels =>
        unfold Satisfies at hsat
        have hyes : ((schema.get "$ref").bind Value.asStr).isSome = true := href
        rw [if_pos hyes] at hsat
        rcases hsat with ⟨resolved, hresolved, hsat⟩
        rw [ht, Option.some.injEq] at hresolved
        subst hresolved
        exact htarget levels hsat
  · cases ht
    exact htarget levels hsat

/-- A value of the wrong type is rejected. -/
theorem not_level_of_type {schema value : Value} {kind : Str}
    {sat : Value → Value → Prop} (htype : singleType schema = some kind)
    (hvalue : hasType value kind = false) : ¬ LevelSatisfied lib sat schema value := by
  intro h
  have htypes : contractTypes schema = [kind] := by
    unfold singleType at htype
    rcases Option.bind_eq_some_iff.mp htype with ⟨declared, hdeclared, hkind⟩
    unfold contractTypes
    rw [hdeclared]
    cases declared <;> cases hkind
    rfl
  rcases h.type with hnone | ⟨kind', hmem, hhas⟩
  · rw [htypes] at hnone
    cases hnone
  · rw [htypes, List.mem_singleton] at hmem
    rw [hmem, hvalue] at hhas
    cases hhas

/-- A text the generator makes for a schema of texts is outside its bounds, or
    is no text. -/
theorem not_level_invalidText {schema : Value} {sat : Value → Value → Prop}
    (htype : singleType schema = some "string".toList) :
    ¬ LevelSatisfied lib sat schema (invalidText schema) := by
  unfold invalidText
  split_ifs with hmin
  -- The empty text is too short.
  · intro h
    rcases Option.any_eq_true _ _ |>.mp hmin with ⟨n, hn, hpositive⟩
    have hlength := h.minLength [] n rfl hn
    have hpositive := of_decide_eq_true hpositive
    rw [List.length_nil] at hlength
    omega
  -- Or the text is made too long, where that is possible.
  · cases hmax : (schema.get "maxLength").bind Value.asU64 with
    | none => exact not_level_of_type htype rfl
    | some n =>
        dsimp only
        split_ifs with hsmall
        · intro h
          have hlength := h.maxLength _ n rfl hmax
          rw [List.length_replicate] at hlength
          omega
        -- Else it is a value of another type.
        · exact not_level_of_type htype rfl

/-- What the generator takes for a wrong value is one where the schema says
    what a right value is. -/
theorem not_level_invalidValue {schema value bad : Value} {sat : Value → Value → Prop}
    (h : invalidValue schema value = some bad) (huntyped : untyped schema = false) :
    ¬ LevelSatisfied lib sat schema bad := by
  unfold invalidValue at h
  by_cases henum : enumExcludes schema = true
  · -- The outside text of an enumeration.
    rw [if_pos henum] at h
    cases h
    intro hs
    rcases Option.any_eq_true _ _ |>.mp henum with ⟨values, hvalues, hout⟩
    have hmem := hs.enum values hvalues
    rw [← List.contains_iff_mem] at hmem
    rw [hmem] at hout
    cases hout
  · rw [if_neg henum] at h
    cases hkind : (singleType schema).filter (fun kind => mutableTypes.contains kind) with
    | none =>
        -- Then the schema would be untyped.
        have hnone : (singleType schema).any (fun kind => mutableTypes.contains kind) = false := by
          cases htype : singleType schema with
          | none => rfl
          | some kind =>
              rw [htype, Option.filter_some] at hkind
              split_ifs at hkind with hc
              exact Bool.eq_false_iff.mpr hc
        rw [untyped, hnone, Bool.eq_false_iff.mpr henum] at huntyped
        cases huntyped
    | some kind =>
        rw [hkind] at h
        cases h
        rcases Option.filter_eq_some_iff.mp hkind with ⟨htype, hmutable⟩
        have hkinds : kind ∈ mutableTypes := List.contains_iff_mem.mp hmutable
        unfold mutableTypes at hkinds
        simp only [List.map_cons, List.map_nil, List.mem_cons, List.not_mem_nil, or_false] at hkinds
        rcases hkinds with rfl | rfl | rfl | rfl | rfl | rfl | rfl
        · exact not_level_invalidText htype
        · exact not_level_of_type htype rfl
        · exact not_level_of_type htype rfl
        · exact not_level_of_type htype rfl
        · exact not_level_of_type htype rfl
        · exact not_level_of_type htype rfl
        · exact not_level_of_type htype rfl

/-- A mutation without a flag is rejected by the schema it was made for. -/
theorem Mutation.rejected {levels : Nat} {schema value bad : Value} {flag : Bool}
    (h : Mutation root levels schema value flag bad) (hflag : flag = false) :
    Rejected lib root schema bad := by
  induction h with
  -- The name left out is required.
  | @omitted levels schema value target object name ht ho hn =>
      refine rejected_of_target ht hflag (fun _ hs => ?_)
      rw [presentRequired, List.mem_filter] at hn
      cases hrequired : (target.get "required").bind Value.asArray with
      | none =>
          rw [hrequired] at hn
          cases hn.1
      | some names =>
          rw [hrequired, Option.getD_some] at hn
          have hsome := hs.required names (without name object) hrequired rfl name hn.1
          rw [lookup_without] at hsome
          cases hsome
  -- The unknown name is declared by no property.
  | @unknown levels schema value target object ht ho hd =>
      rw [Bool.or_eq_false_iff] at hflag
      refine rejected_of_target ht hflag.1 (fun _ hs => ?_)
      rcases hs.additional hd _ rfl unknownName
        (List.mem_map.mpr ⟨_, mem_insert_self unknownName (.bool true) object, rfl⟩)
        with ⟨properties, hproperties, hsome⟩
      have hdeclares : declaresUnknown target = true := by
        rw [declaresUnknown, hproperties, Option.any_some]
        exact hsome
      rw [hflag.2] at hdeclares
      cases hdeclares
  -- An object is rejected with its member, an array with its item.
  | @property levels schema value target object properties property child bad flag ht ho hp hmem hc hm ih =>
      rw [Bool.or_eq_false_iff] at hflag
      refine rejected_of_target ht hflag.1 (fun levels hs => ?_)
      exact ih hflag.2 levels
        (hs.properties properties _ hp rfl property hmem bad (lookup_insert_self _ _ _))
  | @item levels schema value target items values index child bad flag ht hi hv hc hm ih =>
      rw [Bool.or_eq_false_iff] at hflag
      refine rejected_of_target ht hflag.1 (fun levels hs => ?_)
      have hindex : index < values.length := (List.getElem?_eq_some_iff.mp hc).1
      exact ih hflag.2 levels
        (hs.items items (values.set index bad) hi rfl bad (List.mem_set hindex bad))
  -- The wrong value has another type, or is not among the listed ones.
  | @wrong levels schema value target bad ht hw =>
      rw [Bool.or_eq_false_iff] at hflag
      exact rejected_of_target ht hflag.1 (fun _ => not_level_invalidValue hw hflag.2)

/-- The text for a parameter without a flag is rejected. -/
theorem ScalarMutation.rejected {schema : Value} {text : Str} {flag : Bool}
    (h : ScalarMutation schema flag text) (hflag : flag = false) :
    Rejected lib root schema (.string text) := by
  cases h with
  | enum henum =>
      rw [Bool.or_eq_false_iff, Bool.not_eq_false'] at hflag
      refine rejected_of_target (if_neg (Bool.eq_false_iff.mp hflag.1)) hflag.1 (fun _ hs => ?_)
      -- The text is none of the listed ones.
      rcases Option.any_eq_true _ _ |>.mp hflag.2 with ⟨values, hvalues, hout⟩
      have hmem := hs.enum values hvalues
      rw [← List.contains_iff_mem] at hmem
      rw [hmem] at hout
      cases hout
  | type henum h =>
      refine rejected_of_target (if_neg (Bool.eq_false_iff.mp hflag)) hflag (fun levels hs => ?_)
      unfold invalidScalar at h
      rw [henum, Option.isSome_none, if_neg Bool.false_ne_true] at h
      -- Without a list the text is not of the single type.
      cases htype : singleType schema with
      | none =>
          rw [htype] at h
          cases h
      | some kind =>
          rw [htype] at h
          dsimp only at h
          split_ifs at h with hnumber hboolean hstring
          · rw [Bool.or_eq_true, decide_eq_true_eq, decide_eq_true_eq] at hnumber
            rcases hnumber with rfl | rfl
            · exact not_level_of_type htype rfl hs
            · exact not_level_of_type htype rfl hs
          · rw [hboolean] at htype
            exact not_level_of_type htype rfl hs
          · -- The empty text is too short.
            cases h
            rw [Bool.and_eq_true, decide_eq_true_eq, decide_eq_true_eq] at hstring
            cases hmin : (schema.get "minLength").bind Value.asU64 with
            | none =>
                rw [hmin] at hstring
                exact absurd hstring.2 (Nat.lt_irrefl 0)
            | some n =>
                rw [hmin, Option.getD_some] at hstring
                have hlength := hs.minLength [] n rfl hmin
                rw [List.length_nil] at hlength
                omega

end

theorem invalidScalar_iff {schema : Value} {text : Str} :
    invalidScalar schema = some text ↔ ∃ flag, ScalarMutation schema flag text := by
  constructor
  · intro h
    cases henum : (schema.get "enum").bind Value.asArray with
    | none => exact ⟨_, .type henum h⟩
    | some values =>
        have hsome : ((schema.get "enum").bind Value.asArray).isSome := by
          rw [henum]
          rfl
        rw [invalidScalar, if_pos hsome, Option.some.injEq] at h
        rw [← h]
        exact ⟨_, .enum hsome⟩
  · rintro ⟨flag, h⟩
    cases h with
    | enum hsome => rw [invalidScalar, if_pos hsome]
    | type henum h => exact h

section

variable (lib : Crates) (root : Value)

/-- The validator takes a value for valid. -/
def Accepted (schema value : Value) : Prop :=
  validateSchemaValue lib root 64 schema value "$".toList [] = []

instance (schema value : Value) : Decidable (Accepted lib root schema value) :=
  inferInstanceAs (Decidable (_ = _))

theorem accepted_iff {schema value : Value} :
    Accepted lib root schema value ↔ Satisfies lib root 64 schema value :=
  validateSchemaValue_eq_self (by decide)

/-- What a campaign sends to be rejected is invalid: the mutations of a body
    and the text for a parameter. -/
def NegativesInvalid (schema parameter : Value) (mutations : List (Str × Value)) : Prop :=
  (∀ m ∈ mutations, ¬ Accepted lib root schema m.2) ∧
    ∀ text, invalidScalar parameter = some text → ¬ Accepted lib root parameter (.string text)

/-- The negative values are all invalid exactly when those with a flag are. -/
theorem negatives_invalid_flagged {schema value parameter : Value} {path : Str}
    {mutations : List (Str × Value)}
    (h : invalidJsonValues root 32 schema value path = .ok mutations) :
    NegativesInvalid lib root schema parameter mutations ↔
      (∀ bad, Mutation root 32 schema value true bad → ¬ Accepted lib root schema bad) ∧
        ∀ text, ScalarMutation parameter true text →
          ¬ Accepted lib root parameter (.string text) := by
  have hmem := mem_invalidJsonValues root 32 schema value path mutations h
  refine and_congr ?_ ?_
  · constructor
    · intro hall bad hbad
      rcases List.mem_map.mp ((hmem bad).mpr ⟨true, hbad⟩) with ⟨m, hm, rfl⟩
      exact hall m hm
    · intro hall m hm
      rcases (hmem m.2).mp (List.mem_map_of_mem hm) with ⟨flag, hmutation⟩
      -- Of the mutations those without the flag are always rejected.
      cases flag with
      | true => exact hall m.2 hmutation
      | false =>
          rw [accepted_iff]
          exact hmutation.rejected rfl 64
  · constructor
    · intro hall text htext
      exact hall text (invalidScalar_iff.mpr ⟨true, htext⟩)
    · intro hall text htext
      rcases invalidScalar_iff.mp htext with ⟨flag, hmutation⟩
      cases flag with
      | true => exact hall text hmutation
      | false =>
          rw [accepted_iff]
          exact hmutation.rejected rfl 64

/-- The negative values are all invalid where the generator knows a wrong value
    at every place it makes one at. -/
theorem negatives_invalid {schema value parameter : Value} {path : Str}
    {mutations : List (Str × Value)}
    (h : invalidJsonValues root 32 schema value path = .ok mutations)
    (hvalue : Known root schema value) (hparameter : ScalarKnown parameter) :
    NegativesInvalid lib root schema parameter mutations :=
  (negatives_invalid_flagged lib root h).mpr
    ⟨fun bad hbad => absurd hbad (hvalue bad), fun text htext => absurd htext (hparameter text)⟩

end

/-- An object with one property, a text. -/
def namedSchema : Value :=
  jsonObject [("type", .string "object"), ("required", .array [.string "name"]),
    ("additionalProperties", .bool false),
    ("properties", jsonObject [("name", jsonObject [("type", .string "string")])])]

/-- A text or a truth value. -/
def unionSchema : Value := jsonObject [("type", .array [.string "string", .string "boolean"])]

/-- No mutation of the object has a flag: nothing is a reference and every
    place is typed. -/
theorem namedSchema_mutation {levels : Nat} {schema value bad : Value} {flag : Bool}
    (h : Mutation .null levels schema value flag bad)
    (hschema : schema = namedSchema ∨ schema = jsonObject [("type", .string "string".toList)]) :
    flag = false := by
  -- There is no reference, so the target is the schema itself.
  have htarget {schema target : Value}
      (hschema : schema = namedSchema ∨ schema = jsonObject [("type", .string "string".toList)])
      (ht : refTarget .null schema = some target) : schema = target := by
    have hplain : isReference schema = false := by
      rcases hschema with rfl | rfl
      · decide +kernel
      · decide +kernel
    rw [refTarget, if_neg (Bool.eq_false_iff.mp hplain), Option.some.injEq] at ht
    exact ht
  -- By the mutation; each flag is a test of the target that is false here.
  induction h with
  | omitted ht ho hn =>
      rw [← htarget hschema ht]
      rcases hschema with rfl | rfl
      · decide +kernel
      · decide +kernel
  | unknown ht ho hd =>
      rw [← htarget hschema ht]
      rcases hschema with rfl | rfl
      · decide +kernel
      · decide +kernel
  | property ht ho hp hmem hc h ih =>
      rw [← htarget hschema ht] at hp ⊢
      rcases hschema with rfl | rfl
      -- The only property is a text.
      · have hdeclared : (namedSchema.get "properties").bind Value.asObject =
            some [("name".toList, jsonObject [("type", .string "string".toList)])] := by
          decide +kernel
        rw [hdeclared, Option.some.injEq] at hp
        rw [← hp, List.mem_singleton] at hmem
        rw [ih (Or.inr (by rw [hmem]))]
        decide +kernel
      · cases hp
  | item ht hi hv hc h ih =>
      rw [← htarget hschema ht] at hi
      rcases hschema with rfl | rfl
      · have hnone : namedSchema.get "items" = none := by decide +kernel
        rw [hnone] at hi
        cases hi
      · cases hi
  | wrong ht hw =>
      rw [← htarget hschema ht]
      rcases hschema with rfl | rfl
      · decide +kernel
      · decide +kernel

/-- The mutations of an object with typed properties are all invalid. -/
theorem negatives_invalid_object :
    Accepted referenceCrates .null namedSchema (jsonObject [("name", .string "a")]) ∧
    ∃ mutations, invalidJsonValues .null 32 namedSchema (jsonObject [("name", .string "a")])
        "body".toList = .ok mutations ∧ mutations.length = 4 ∧
      NegativesInvalid referenceCrates .null namedSchema (jsonObject [("type", .string "integer")])
        mutations := by
  have hlength : (invalidJsonValues .null 32 namedSchema (jsonObject [("name", .string "a")])
      "body".toList).toOption.map List.length = some 4 := by decide +kernel
  rcases exists_ok_of_toOption hlength with ⟨mutations, h, hfour⟩
  refine ⟨by decide +kernel, mutations, h, hfour, negatives_invalid _ _ h ?_ ?_⟩
  · intro bad hbad
    cases namedSchema_mutation hbad (Or.inl rfl)
  · intro text htext
    generalize hflag : true = flag at htext
    cases htext with
    | enum henum => exact absurd henum (by decide +kernel)
    | type henum h => exact absurd hflag (by decide +kernel)

/-- A union of a text and a truth value has a mutation that is valid. -/
theorem negatives_valid_union :
    Accepted referenceCrates .null unionSchema (.string "a".toList) ∧
    ∃ mutations, invalidJsonValues .null 32 unionSchema (.string "a".toList) "body".toList =
        .ok mutations ∧
      ¬ NegativesInvalid referenceCrates .null unionSchema unionSchema mutations := by
  refine ⟨by decide +kernel, [("invalid-body-value:body".toList, .bool false)], by decide +kernel,
    fun h => ?_⟩
  exact h.1 _ (List.mem_singleton.mpr rfl) (by decide +kernel)

end Kahea
