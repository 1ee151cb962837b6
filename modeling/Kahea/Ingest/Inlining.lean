import Kahea.Ingest.Resolve
import Kahea.Base.Lists
import Kahea.Exec.Schema
import Kahea.Plan.References
import Kahea.Core.Reference
import Mathlib.Logic.Relation

/-!
# Inlining References

How `inline_local_refs` makes a message schema stand on its own, and when the
schema it seals means what the declared one does.

The pass walks the whole tree. It does not know which members of a schema are
schemas and which are data, so that an object with a textual `$ref` inside
`const` or `enum`, or one that stands in place of a keyword's own list, is
replaced like any other. The validator reads such a member as it is. Where no
data is touched (`Plain`), a schema and its inlined form accept the same
values: a reference costs the validator a level, so the inlined form needs no
more levels than the declared one.

The pass has 65 levels and passes one on with every step. A cycle has steps
without end, so that a schema that reaches one is refused.

## Main definitions

* `inlineLocalRefs`: The pass.
* `Inlined`: A value and what the pass makes of it.
* `SubSchema`, `Plain`: The schemas below a schema, and schemas whose data has
  no references.
* `Finishes`: A check that does not run out of levels.

## Theorems

* `Inlined.get`, `Inlined.items`, `Inlined.members`: What the pass does to one
  level.
* `satisfies_inlined_iff`: A schema and its inlined form are satisfied by the
  same values.
* `inlineLocalRefs_cyclic`: A cycle is refused.
* `inlined_accepts_iff`: The pass keeps the meaning of a plain schema.
-/

namespace Kahea

/-! ### The pass -/

/-- The members or the items of a value inlined, and any other value as it is. -/
def inlineChildren (inline : Value → Except IngestError Value) : Value → Except IngestError Value
  | .object members => do
      let members ← members.mapM (fun member => do
        let child ← inline member.2
        pure (member.1, child))
      pure (.object members)
  | .array items => do
      let items ← items.mapM inline
      pure (.array items)
  | value => .ok value

/-- The pass, with the number of levels left and the references it is inside. -/
def inlineLocalRefs (root : Value) : Nat → List Str → Value → Except IngestError Value
  | 0, _, _ => .error (.invalidAsyncApi "schema reference expansion exceeded 64 levels")
  | levels + 1, stack, value => match referenceOf value with
    | some reference => match stripPrefix "#" reference with
      | none => .error (.invalidAsyncApi
          ("remote schema reference " ++ debugQuote reference ++ " is denied"))
      | some pointer =>
          if stack.contains reference then
            .error (.invalidAsyncApi
              ("cyclic schema reference " ++ debugQuote reference ++ " cannot be sealed"))
          else match root.pointer pointer with
            | none => .error (.invalidAsyncApi
                ("unresolved schema reference " ++ debugQuote reference))
            | some resolved => inlineLocalRefs root levels (reference :: stack) resolved
    | none => inlineChildren (inlineLocalRefs root levels stack) value

/-- The schema of a received message, as it is sealed. -/
def inlineSchema (root schema : Value) : Except IngestError Value :=
  inlineLocalRefs root 65 [] schema

/-! ### What the pass does to one level -/

/-- A value and what the pass makes of it. -/
def Inlined (root value result : Value) : Prop :=
  ∃ levels stack, inlineLocalRefs root levels stack value = .ok result

section

variable {root value result : Value} {levels : Nat} {stack : List Str}

/-- A reference is replaced by what its target is inlined to. -/
theorem inlineLocalRefs_reference {reference : Str} (href : referenceOf value = some reference)
    (h : inlineLocalRefs root (levels + 1) stack value = .ok result) :
    ∃ resolved, Points root value resolved ∧
      inlineLocalRefs root levels (reference :: stack) resolved = .ok result := by
  rw [inlineLocalRefs, href] at h
  dsimp only at h
  -- The reference is local, new and leads somewhere, or the run has failed.
  cases hp : stripPrefix "#" reference with
  | none =>
      rw [hp] at h
      cases h
  | some pointer =>
      rw [hp] at h
      dsimp only at h
      by_cases hin : stack.contains reference = true
      · rw [if_pos hin] at h
        cases h
      · rw [if_neg hin] at h
        cases hv : root.pointer pointer with
        | none =>
            rw [hv] at h
            cases h
        | some resolved =>
            rw [hv] at h
            exact ⟨resolved, ⟨reference, pointer, href, hp, hv⟩, h⟩

/-- The members of an object that is no reference are inlined one by one. -/
theorem inlineLocalRefs_object {members : List (Str × Value)}
    (href : referenceOf (.object members) = none)
    (h : inlineLocalRefs root (levels + 1) stack (.object members) = .ok result) :
    ∃ inlined, result = .object inlined ∧ List.Forall₂ (fun member child => child.1 = member.1 ∧
      inlineLocalRefs root levels stack member.2 = .ok child.2) members inlined := by
  rw [inlineLocalRefs, href] at h
  rcases except_bind_ok.mp h with ⟨inlined, hinlined, hresult⟩
  cases hresult
  refine ⟨inlined, rfl, (mapM_ok hinlined).imp (fun member child hchild => ?_)⟩
  rcases except_bind_ok.mp hchild with ⟨value, hvalue, hpair⟩
  cases hpair
  exact ⟨rfl, hvalue⟩

/-- So are the items of an array. -/
theorem inlineLocalRefs_array {items : List Value}
    (h : inlineLocalRefs root (levels + 1) stack (.array items) = .ok result) :
    ∃ inlined, result = .array inlined ∧ List.Forall₂ (fun item child =>
      inlineLocalRefs root levels stack item = .ok child) items inlined := by
  rw [inlineLocalRefs] at h
  rcases except_bind_ok.mp h with ⟨inlined, hinlined, hresult⟩
  cases hresult
  exact ⟨inlined, rfl, mapM_ok hinlined⟩

/-- Everything else is kept. -/
theorem inlineLocalRefs_scalar (hobject : value.asObject = none) (harray : value.asArray = none)
    (h : inlineLocalRefs root (levels + 1) stack value = .ok result) : result = value := by
  cases value with
  | object members => cases hobject
  | array items => cases harray
  | _ =>
      cases h
      rfl

end

namespace Inlined

variable {root value result : Value}

/-- The pass had a level for the value. -/
theorem exists_levels (h : Inlined root value result) :
    ∃ levels stack, inlineLocalRefs root (levels + 1) stack value = .ok result := by
  rcases h with ⟨levels, stack, h⟩
  cases levels with
  | zero => cases h
  | succ levels => exact ⟨levels, stack, h⟩

theorem reference {reference : Str} (h : Inlined root value result)
    (href : referenceOf value = some reference) :
    ∃ resolved, Points root value resolved ∧ Inlined root resolved result := by
  rcases h.exists_levels with ⟨levels, stack, h⟩
  rcases inlineLocalRefs_reference href h with ⟨resolved, hpoints, h⟩
  exact ⟨resolved, hpoints, levels, _, h⟩

/-- The members of a value that is no reference keep their names. -/
theorem members (h : Inlined root value result) (href : referenceOf value = none) :
    Option.Rel (List.Forall₂ (fun member child : Str × Value => child.1 = member.1 ∧
      Inlined root member.2 child.2)) value.asObject result.asObject := by
  rcases h.exists_levels with ⟨levels, stack, h⟩
  cases value with
  | object members =>
      rcases inlineLocalRefs_object href h with ⟨inlined, rfl, hall⟩
      exact Option.Rel.some (hall.imp fun member child hchild =>
        ⟨hchild.1, levels, stack, hchild.2⟩)
  | array items =>
      rcases inlineLocalRefs_array h with ⟨inlined, rfl, _⟩
      exact Option.Rel.none
  | _ =>
      rw [inlineLocalRefs_scalar rfl rfl h]
      exact Option.Rel.none

/-- The items of a value that is no reference keep their places. -/
theorem items (h : Inlined root value result) (href : referenceOf value = none) :
    Option.Rel (List.Forall₂ (Inlined root)) value.asArray result.asArray := by
  rcases h.exists_levels with ⟨levels, stack, h⟩
  cases value with
  | object members =>
      rcases inlineLocalRefs_object href h with ⟨inlined, rfl, _⟩
      exact Option.Rel.none
  | array items =>
      rcases inlineLocalRefs_array h with ⟨inlined, rfl, hall⟩
      exact Option.Rel.some (hall.imp fun item child hchild => ⟨levels, stack, hchild⟩)
  | _ =>
      rw [inlineLocalRefs_scalar rfl rfl h]
      exact Option.Rel.none

end Inlined

/-- Lists of members with the same names find the same names. -/
theorem lookup_rel {R : Value → Value → Prop} {members inlined : List (Str × Value)}
    (h : List.Forall₂ (fun member child => child.1 = member.1 ∧ R member.2 child.2)
      members inlined) (name : Str) :
    Option.Rel R (lookup name members) (lookup name inlined) := by
  induction h with
  | nil => exact Option.Rel.none
  | @cons member child members inlined hpair _ ih =>
      rcases member with ⟨k, v⟩
      rcases child with ⟨k', v'⟩
      rcases hpair with ⟨rfl, hv⟩
      by_cases hname : name = k'
      · subst hname
        rw [lookup, lookup, if_pos rfl, if_pos rfl]
        exact Option.Rel.some hv
      · have hother : k' ≠ name := fun heq => hname heq.symm
        rw [lookup, lookup, if_neg hother, if_neg hother]
        exact ih

namespace Inlined

variable {root value result : Value}

/-- A member of a value that is no reference is inlined. -/
theorem get (h : Inlined root value result) (href : referenceOf value = none) (name : Str) :
    Option.Rel (Inlined root) (value.get name) (result.get name) :=
  option_rel_bind (h.members href) fun _ _ _ hall => lookup_rel hall name

/-- The list of a keyword that is given in place is inlined item by item. -/
theorem get_items (h : Inlined root value result) (href : referenceOf value = none) {name : Str}
    (hmember : ∀ member, value.get name = some member → referenceOf member = none) :
    Option.Rel (List.Forall₂ (Inlined root)) ((value.get name).bind Value.asArray)
      ((result.get name).bind Value.asArray) :=
  option_rel_bind (h.get href name) fun member _ hv hchild => hchild.items (hmember member hv)

/-- The object of a keyword that is given in place is inlined member by member. -/
theorem get_members (h : Inlined root value result) (href : referenceOf value = none) {name : Str}
    (hmember : ∀ member, value.get name = some member → referenceOf member = none) :
    Option.Rel (List.Forall₂ (fun member child : Str × Value => child.1 = member.1 ∧
        Inlined root member.2 child.2))
      ((value.get name).bind Value.asObject) ((result.get name).bind Value.asObject) :=
  option_rel_bind (h.get href name) fun member _ hv hchild => hchild.members (hmember member hv)

/-- A value without references is kept as it is. -/
theorem eq_of_refFree (h : Inlined root value result) (hfree : refFree value = true) :
    result = value := by
  rcases h with ⟨levels, stack, h⟩
  -- By the levels: without a reference every part is inlined to itself.
  induction levels generalizing stack value result with
  | zero => cases h
  | succ levels ih =>
      cases value with
      | object members =>
          rcases inlineLocalRefs_object (refFree_ref hfree) h with ⟨inlined, rfl, hall⟩
          have hmembers := (refFree_object hfree rfl).2
          have hsame : List.Forall₂ (· = ·) members inlined := by
            refine List.forall₂_iff_zip.mpr ⟨hall.length_eq, fun {member child} hzip => ?_⟩
            rcases List.forall₂_iff_zip.mp hall with ⟨_, hpair⟩
            rcases hpair hzip with ⟨hname, hchild⟩
            have hvalue := ih (hmembers member (List.of_mem_zip hzip).1) stack hchild
            exact Prod.ext hname.symm hvalue.symm
          rw [List.forall₂_eq_eq_eq] at hsame
          rw [hsame]
      | array items =>
          rcases inlineLocalRefs_array h with ⟨inlined, rfl, hall⟩
          have hitems := refFree_array hfree rfl
          have hsame : List.Forall₂ (· = ·) items inlined := by
            refine List.forall₂_iff_zip.mpr ⟨hall.length_eq, fun {item child} hzip => ?_⟩
            rcases List.forall₂_iff_zip.mp hall with ⟨_, hpair⟩
            exact (ih (hitems item (List.of_mem_zip hzip).1) stack (hpair hzip)).symm
          rw [List.forall₂_eq_eq_eq] at hsame
          rw [hsame]
      | _ => exact inlineLocalRefs_scalar rfl rfl h

/-- What is inlined to a truth value is that value, or a reference that leads
    to it. -/
theorem bool_chain {b : Bool} (h : Inlined root value (.bool b)) :
    ∃ n, Chain root n value (.bool b) := by
  rcases h with ⟨levels, stack, h⟩
  -- By the levels: only a reference or the value itself can give a boolean.
  induction levels generalizing stack value with
  | zero => cases h
  | succ levels ih =>
      cases href : referenceOf value with
      | some reference =>
          rcases inlineLocalRefs_reference href h with ⟨resolved, hpoints, h⟩
          rcases ih _ h with ⟨n, hchain⟩
          exact ⟨n + 1, Chain.next hpoints hchain⟩
      | none =>
          cases value with
          | object members =>
              rcases inlineLocalRefs_object href h with ⟨inlined, heq, _⟩
              cases heq
          | array items =>
              rcases inlineLocalRefs_array h with ⟨inlined, heq, _⟩
              cases heq
          | bool b' =>
              cases inlineLocalRefs_scalar rfl rfl h
              exact ⟨0, Chain.here _⟩
          | _ => cases inlineLocalRefs_scalar rfl rfl h

end Inlined

/-! ### Schemas below a schema -/

/-- The keywords with a list of sub-schemas. -/
def combinators : List Str := ["allOf".toList, "anyOf".toList, "oneOf".toList]

/-- The keywords the validator compares a value with. -/
def dataKeywords : List Str := ["const".toList, "enum".toList, "type".toList, "required".toList,
  "minLength".toList, "maxLength".toList, "minimum".toList, "maximum".toList]

/-- A schema the validator may turn to from another one. -/
inductive SubSchema (root : Value) : Value → Value → Prop where
  | target {a b : Value} (hpoints : Points root a b) : SubSchema root a b
  | branch {a b : Value} (hnone : referenceOf a = none) {k : Str} (hk : k ∈ combinators)
      {branches : List Value} (hbranches : (a.get k).bind Value.asArray = some branches)
      (hb : b ∈ branches) : SubSchema root a b
  | property {a b : Value} (hnone : referenceOf a = none) {properties : List (Str × Value)}
      (hproperties : (a.get "properties").bind Value.asObject = some properties) {name : Str}
      (hb : (name, b) ∈ properties) : SubSchema root a b
  | items {a b : Value} (hnone : referenceOf a = none) (hitems : a.get "items" = some b) :
      SubSchema root a b

/-- No reference stands where one level of a schema has data or a keyword's own
    list or object. -/
structure LevelPlain (root schema : Value) : Prop where
  /-- What values are compared with has no reference inside. -/
  data : ∀ k ∈ dataKeywords, ∀ member, schema.get k = some member → refFree member = true
  /-- The lists and the object of sub-schemas are given in place. -/
  inPlace : ∀ k ∈ "properties".toList :: combinators, ∀ member, schema.get k = some member →
    referenceOf member = none
  /-- A `$ref` that is no text does not become one. -/
  reference : ∀ member, schema.get "$ref" = some member → referenceOf member = none
  /-- The denial of other members is given in place. -/
  additional : ∀ member, schema.get "additionalProperties" = some member →
    referenceOf member ≠ none → ∀ n, ¬ Chain root n member (.bool false)

/-- A schema whose data has no references, at any depth. -/
def Plain (root schema : Value) : Prop :=
  ∀ part, Relation.ReflTransGen (SubSchema root) schema part → referenceOf part = none →
    LevelPlain root part

theorem Plain.sub {root schema part : Value} (h : Plain root schema)
    (hpart : SubSchema root schema part) : Plain root part :=
  fun other hother => h other (Relation.ReflTransGen.head hpart hother)

/-! ### Enough levels -/

/-- Whether the type is one the schema names, if it names any. -/
def OfType (schema value : Value) : Prop :=
  contractTypes schema = [] ∨ ∃ kind ∈ contractTypes schema, hasType value kind = true

/-- The checks one level makes with the level below. -/
structure LevelFinishes (finish : Value → Value → Prop) (schema value : Value) : Prop where
  branches : ∀ k ∈ combinators, ∀ branches, (schema.get k).bind Value.asArray = some branches →
    ∀ branch ∈ branches, finish branch value
  properties : OfType schema value → ∀ properties object,
    (schema.get "properties").bind Value.asObject = some properties →
    value.asObject = some object → ∀ property ∈ properties,
      ∀ child, lookup property.1 object = some child → finish property.2 child
  items : OfType schema value → ∀ items values, schema.get "items" = some items →
    value.asArray = some values → ∀ child ∈ values, finish items child

/-- The check of a value against a schema ends before its levels do. -/
def Finishes (root : Value) : Nat → Value → Value → Prop
  | 0, _, _ => False
  | levels + 1, schema, value =>
      if (referenceOf schema).isSome then
        ∀ resolved, resolveContractRef root schema = some resolved →
          Finishes root levels resolved value
      else LevelFinishes (Finishes root levels) schema value

/-! ### The meaning of the inlined schema -/

/-- A name is found in both lists or in neither. -/
theorem isSome_lookup_iff {R : Value → Value → Prop} {members inlined : List (Str × Value)}
    (h : List.Forall₂ (fun member child => child.1 = member.1 ∧ R member.2 child.2)
      members inlined) (name : Str) :
    (lookup name inlined).isSome ↔ (lookup name members).isSome := by
  rcases option_rel_cases (lookup_rel h name) with ⟨hm, hi⟩ | ⟨member, child, hm, hi, _⟩
  · rw [hm, hi]
  · rw [hm, hi]
    exact iff_of_true rfl rfl

section

variable {lib : Crates} {root schema inlined value : Value}

/-- Data is kept. -/
theorem Inlined.data (h : Inlined root schema inlined) (hnone : referenceOf schema = none)
    (hplain : LevelPlain root schema) {k : Str} (hk : k ∈ dataKeywords) :
    inlined.get k = schema.get k := by
  rcases option_rel_cases (h.get hnone k) with ⟨hs, hi⟩ | ⟨member, child, hs, hi, hchild⟩
  · rw [hs, hi]
  · rw [hs, hi, hchild.eq_of_refFree (hplain.data k hk member hs)]

/-- A value that is no reference is inlined to a text only if it is that text. -/
theorem Inlined.asStr_eq_none (h : Inlined root schema inlined) (hnone : referenceOf schema = none)
    (htext : schema.asStr = none) : inlined.asStr = none := by
  rcases h.exists_levels with ⟨levels, stack, hrun⟩
  cases schema with
  | string s => cases htext
  | object members =>
      rcases inlineLocalRefs_object hnone hrun with ⟨_, rfl, _⟩
      rfl
  | array items =>
      rcases inlineLocalRefs_array hrun with ⟨_, rfl, _⟩
      rfl
  | _ =>
      rw [inlineLocalRefs_scalar rfl rfl hrun]
      rfl

/-- A schema that is no reference does not become one. -/
theorem Inlined.referenceOf_eq_none (h : Inlined root schema inlined)
    (hnone : referenceOf schema = none) (hplain : LevelPlain root schema) :
    referenceOf inlined = none := by
  unfold referenceOf
  rcases option_rel_cases (h.get hnone "$ref") with ⟨_, hi⟩ | ⟨member, child, hs, hi, hchild⟩
  · rw [hi, Option.bind_none]
  · have htext : member.asStr = none := by
      unfold referenceOf at hnone
      rwa [hs] at hnone
    rw [hi, Option.bind_some]
    exact hchild.asStr_eq_none (hplain.reference member hs) htext

/-- Whether other members are denied is kept. -/
theorem Inlined.additional (h : Inlined root schema inlined) (hnone : referenceOf schema = none)
    (hplain : LevelPlain root schema) :
    inlined.get "additionalProperties" = some (.bool false) ↔
      schema.get "additionalProperties" = some (.bool false) := by
  rcases option_rel_cases (h.get hnone "additionalProperties") with
    ⟨hs, hi⟩ | ⟨member, child, hs, hi, hchild⟩
  · rw [hs, hi]
  · rw [hs, hi, Option.some.injEq, Option.some.injEq]
    constructor
    -- A denial that was not written stands behind a reference, which is excluded.
    · rintro rfl
      rcases hchild.bool_chain with ⟨n, hchain⟩
      by_cases hmember : referenceOf member = none
      · cases hchain with
        | here => rfl
        | next hpoints _ =>
            rcases hpoints with ⟨reference, _, href, _⟩
            rw [hmember] at href
            cases href
      · exact absurd hchain (hplain.additional member hs hmember n)
    · rintro rfl
      exact hchild.eq_of_refFree rfl

/-- One level: what satisfies the sub-schemas satisfies their inlined forms. -/
theorem levelSatisfied_inlined_iff {sat sat' finish : Value → Value → Prop}
    (h : Inlined root schema inlined) (hnone : referenceOf schema = none)
    (hplain : LevelPlain root schema) (hfinish : LevelFinishes finish schema value)
    (hsat : ∀ {child child' v : Value}, SubSchema root schema child → Inlined root child child' →
      finish child v → (sat' child' v ↔ sat child v)) :
    LevelSatisfied lib sat' inlined value ↔ LevelSatisfied lib sat schema value := by
  have hdata {k : Str} (hk : k ∈ dataKeywords) : inlined.get k = schema.get k :=
    h.data hnone hplain hk
  have htypes : contractTypes inlined = contractTypes schema := by
    unfold contractTypes
    rw [hdata (by decide)]
  by_cases htype : OfType schema value
  · -- The lists of sub-schemas agree on the value item by item.
    have hbranch {k : Str} (hk : k ∈ combinators) (branches inlinedBranches : List Value)
        (hbranches : (schema.get k).bind Value.asArray = some branches)
        (hall : List.Forall₂ (Inlined root) branches inlinedBranches) :
        List.Forall₂ (fun branch child => sat' child value ↔ sat branch value) branches
          inlinedBranches :=
      forall₂_imp_mem hall fun branch hmem child hchild =>
        hsat (.branch hnone hk hbranches hmem) hchild
          (hfinish.branches k hk branches hbranches branch hmem)
    have hlist {k : Str} (hk : k ∈ combinators) := h.get_items hnone
      (hplain.inPlace k (List.mem_cons_of_mem _ hk))
    have hall := forall_some_iff_of_rel (hlist (k := "allOf") (by decide))
      (fun xs ys hxs hrel => forall_mem_iff_of_forall₂ (hbranch (by decide) xs ys hxs hrel))
    have hany := forall_some_iff_of_rel (hlist (k := "anyOf") (by decide))
      (fun xs ys hxs hrel => exists_mem_iff_of_forall₂ (hbranch (by decide) xs ys hxs hrel))
    have hone := forall_some_iff_of_rel (hlist (k := "oneOf") (by decide))
      (fun xs ys hxs hrel => split_iff_of_forall₂ (hbranch (by decide) xs ys hxs hrel))
    have hobject := h.get_members hnone (hplain.inPlace "properties" List.mem_cons_self)
    have hproperty (object : List (Str × Value)) (hvalue : value.asObject = some object) :=
      forall_some_iff_of_rel hobject (fun properties children hproperties hrel =>
        forall_mem_iff_of_forall₂ (forall₂_imp_mem hrel fun property hmem child hchild =>
          show (∀ v, lookup child.1 object = some v → sat' child.2 v) ↔
              ∀ v, lookup property.1 object = some v → sat property.2 v by
            rw [hchild.1]
            refine forall_congr' fun v => imp_congr_right fun hv => ?_
            have hmember : (property.1, property.2) ∈ properties := hmem
            exact hsat (.property hnone hproperties hmember) hchild.2
              (hfinish.properties htype properties object hproperties hvalue property hmem v hv)))
    have hitem (values : List Value) (hvalue : value.asArray = some values) :=
      forall_some_iff_of_rel (h.get hnone "items") (fun items child hitems hchild =>
        show (∀ v ∈ values, sat' child v) ↔ ∀ v ∈ values, sat items v from
          forall_congr' fun v => imp_congr_right fun hv => hsat (.items hnone hitems) hchild
            (hfinish.items htype items values hitems hvalue v hv))
    -- A name that is declared is declared in both.
    have hdeclared (name : Str) : (∃ properties, (inlined.get "properties").bind Value.asObject =
        some properties ∧ (lookup name properties).isSome) ↔
          ∃ properties, (schema.get "properties").bind Value.asObject = some properties ∧
            (lookup name properties).isSome := by
      rcases option_rel_cases hobject with ⟨hs, hi⟩ | ⟨properties, children, hs, hi, hrel⟩
      · rw [hs, hi]
      · rw [hs, hi]
        simp only [Option.some.injEq, exists_eq_left']
        exact isSome_lookup_iff hrel name
    constructor
    · intro hs
      exact
        { const := by rw [← hdata (by decide)]; exact hs.const
          enum := by rw [← hdata (by decide)]; exact hs.enum
          allOf := hall.mp hs.allOf
          anyOf := hany.mp hs.anyOf
          oneOf := hone.mp hs.oneOf
          type := htype
          minLength := by rw [← hdata (by decide)]; exact hs.minLength
          maxLength := by rw [← hdata (by decide)]; exact hs.maxLength
          minimum := by rw [← hdata (by decide)]; exact hs.minimum
          maximum := by rw [← hdata (by decide)]; exact hs.maximum
          required := by rw [← hdata (by decide)]; exact hs.required
          properties := fun properties object hproperties hvalue =>
            (hproperty object hvalue).mp
              (fun children hchildren => hs.properties children object hchildren hvalue)
              properties hproperties
          additional := fun hdenied object hvalue name hname =>
            (hdeclared name).mp
              (hs.additional ((h.additional hnone hplain).mpr hdenied) object hvalue name hname)
          items := fun items values hitems hvalue =>
            (hitem values hvalue).mp (fun child hchild => hs.items child values hchild hvalue)
              items hitems }
    · intro hs
      exact
        { const := by rw [hdata (by decide)]; exact hs.const
          enum := by rw [hdata (by decide)]; exact hs.enum
          allOf := hall.mpr hs.allOf
          anyOf := hany.mpr hs.anyOf
          oneOf := hone.mpr hs.oneOf
          type := by rw [htypes]; exact htype
          minLength := by rw [hdata (by decide)]; exact hs.minLength
          maxLength := by rw [hdata (by decide)]; exact hs.maxLength
          minimum := by rw [hdata (by decide)]; exact hs.minimum
          maximum := by rw [hdata (by decide)]; exact hs.maximum
          required := by rw [hdata (by decide)]; exact hs.required
          properties := fun children object hchildren hvalue =>
            (hproperty object hvalue).mpr
              (fun properties hproperties => hs.properties properties object hproperties hvalue)
              children hchildren
          additional := fun hdenied object hvalue name hname =>
            (hdeclared name).mpr
              (hs.additional ((h.additional hnone hplain).mp hdenied) object hvalue name hname)
          items := fun child values hchild hvalue =>
            (hitem values hvalue).mpr (fun items hitems => hs.items items values hitems hvalue)
              child hchild }
  · -- A value of another type satisfies neither.
    refine iff_of_false (fun hs => htype ?_) (fun hs => htype hs.type)
    have hkind := hs.type
    rwa [htypes] at hkind

/-- The judgements of a schema and of its inlined form agree, whatever document
    the inlined form is read in and however many levels it is given beyond those
    of the schema. -/
theorem satisfies_inlined_iff (document : Value) {levels more : Nat} (hmore : levels ≤ more)
    (h : Inlined root schema inlined) (hplain : Plain root schema)
    (hfinish : Finishes root levels schema value) :
    Satisfies lib document more inlined value ↔ Satisfies lib root levels schema value := by
  -- By the levels of the original, which follows references the inlined one has not.
  induction levels generalizing schema inlined value more with
  | zero => exact hfinish.elim
  | succ levels ih =>
      cases href : referenceOf schema with
      | some reference =>
          rcases h.reference href with ⟨resolved, hpoints, hresolved⟩
          -- Both follow the same pointer, and the target was inlined in its place.
          have hresolve : resolveContractRef root schema = some resolved := by
            rcases hpoints with ⟨r, pointer, hr, hp, hv⟩
            unfold referenceOf at hr
            rw [resolveContractRef, hr, Option.bind_some, hp, Option.bind_some, hv]
          rw [Finishes, href, Option.isSome_some, if_pos rfl] at hfinish
          have hrest : Satisfies lib document more inlined value ↔
              Satisfies lib root levels resolved value :=
            ih (by omega) hresolved (hplain.sub (.target hpoints)) (hfinish resolved hresolve)
          rw [hrest, Satisfies]
          unfold referenceOf at href
          rw [href, Option.isSome_some, if_pos rfl, hresolve]
          simp only [Option.some.injEq, exists_eq_left']
      | none =>
          -- A plain schema keeps its keywords, so the levels correspond.
          have hlevel := hplain schema Relation.ReflTransGen.refl href
          have hinlined := h.referenceOf_eq_none href hlevel
          rw [Finishes, href, Option.isSome_none, if_neg Bool.false_ne_true] at hfinish
          cases more with
          | zero => omega
          | succ more =>
              unfold referenceOf at hinlined
              have hnone := href
              unfold referenceOf at href
              rw [Satisfies, Satisfies, href, hinlined, Option.isSome_none,
                if_neg Bool.false_ne_true, if_neg Bool.false_ne_true]
              exact levelSatisfied_inlined_iff h hnone hlevel hfinish
                (fun hsub hchild hv => ih (by omega) hchild (hplain.sub hsub) hv)

end

/-! ### Cycles -/

/-- A step of the pass: to the target of a reference, or into a value that is
    none. -/
inductive Expands (root : Value) : Value → Value → Prop where
  | target {a b : Value} (hpoints : Points root a b) : Expands root a b
  | member {a b : Value} (hnone : referenceOf a = none) {members : List (Str × Value)}
      (hmembers : a.asObject = some members) {name : Str} (hb : (name, b) ∈ members) :
      Expands root a b
  | item {a b : Value} {items : List Value} (hitems : a.asArray = some items) (hb : b ∈ items) :
      Expands root a b

section

variable {root value result : Value} {levels : Nat} {stack : List Str}

/-- A pass that succeeds had a level for each step it could take. -/
theorem inlineLocalRefs_expands {next : Value} (hstep : Expands root value next)
    (h : inlineLocalRefs root (levels + 1) stack value = .ok result) :
    ∃ stack' result', inlineLocalRefs root levels stack' next = .ok result' := by
  -- A step to the target, to a member or to an item, each of which is inlined on the way.
  cases hstep with
  | target hpoints =>
      rcases hpoints with ⟨reference, pointer, href, hp, hv⟩
      rcases inlineLocalRefs_reference href h with ⟨resolved, ⟨r, p, hr, hp', hv'⟩, hrest⟩
      rw [href] at hr
      cases hr
      rw [hp] at hp'
      cases hp'
      rw [hv] at hv'
      cases hv'
      exact ⟨_, _, hrest⟩
  | member hnone hmembers hb =>
      cases value <;> cases hmembers
      rcases inlineLocalRefs_object hnone h with ⟨inlined, _, hall⟩
      rcases List.forall₂_iff_get.mp hall with ⟨hlength, hget⟩
      rcases List.get_of_mem hb with ⟨i, hi⟩
      have hpair := hget i.val i.isLt (by rw [← hlength]; exact i.isLt)
      rw [show List.get _ ⟨i.val, i.isLt⟩ = _ from hi] at hpair
      exact ⟨stack, _, hpair.2⟩
  | item hitems hb =>
      cases value <;> cases hitems
      rcases inlineLocalRefs_array h with ⟨inlined, _, hall⟩
      rcases List.forall₂_iff_get.mp hall with ⟨hlength, hget⟩
      rcases List.get_of_mem hb with ⟨i, hi⟩
      have hchild := hget i.val i.isLt (by rw [← hlength]; exact i.isLt)
      rw [show List.get _ ⟨i.val, i.isLt⟩ = _ from hi] at hchild
      exact ⟨stack, _, hchild⟩

/-- A path of any length takes a level for each of its steps. -/
theorem inlineLocalRefs_cyclic {a : Value} (hreach : Relation.ReflTransGen (Expands root) value a)
    (hcycle : Relation.TransGen (Expands root) a a) :
    ∃ e, inlineLocalRefs root levels stack value = .error e := by
  -- From anywhere on the way there is a step to somewhere on the way.
  have hnext {v : Value} (hv : Relation.ReflTransGen (Expands root) v a) :
      ∃ w, Expands root v w ∧ Relation.ReflTransGen (Expands root) w a := by
    rcases hv.cases_head with rfl | ⟨w, hw, hrest⟩
    · rcases Relation.TransGen.head'_iff.mp hcycle with ⟨w, hw, hrest⟩
      exact ⟨w, hw, hrest⟩
    · exact ⟨w, hw, hrest⟩
  induction levels generalizing value stack with
  | zero => exact ⟨_, rfl⟩
  | succ levels ih =>
      cases hrun : inlineLocalRefs root (levels + 1) stack value with
      | error e => exact ⟨e, rfl⟩
      | ok result =>
          rcases hnext hreach with ⟨next, hstep, hrest⟩
          rcases inlineLocalRefs_expands hstep hrun with ⟨stack', result', hnextRun⟩
          have hfail : ∃ e, inlineLocalRefs root levels stack' next = .error e := ih hrest
          rcases hfail with ⟨e, he⟩
          rw [hnextRun] at he
          cases he

/-- A schema that is inlined with as many levels as the validator has is always
    checked to the end. -/
theorem finishes_of_inlineLocalRefs {schema v : Value} {more : Nat} (hmore : levels ≤ more)
    (hplain : Plain root schema) (h : inlineLocalRefs root levels stack schema = .ok result) :
    Finishes root more schema v := by
  induction levels using Nat.strong_induction_on generalizing schema v more stack result with
  | _ levels ih =>
      cases levels with
      | zero => cases h
      | succ levels =>
          cases more with
          | zero => omega
          | succ more =>
              have hone {a w : Value} (hsub : SubSchema root schema a) (ha : Expands root schema a) :
                  Finishes root more a w := by
                rcases inlineLocalRefs_expands ha h with ⟨stack', result', ha⟩
                exact ih levels (by omega) (by omega) (hplain.sub hsub) ha
              -- A schema two steps away has two levels less.
              have htwo {a b w : Value} (hsub : SubSchema root schema b) (ha : Expands root schema a)
                  (hb : Expands root a b) : Finishes root more b w := by
                rcases inlineLocalRefs_expands ha h with ⟨stack', result', ha⟩
                cases levels with
                | zero => cases ha
                | succ levels =>
                    rcases inlineLocalRefs_expands hb ha with ⟨stack'', result'', hb⟩
                    exact ih levels (by omega) (by omega) (hplain.sub hsub) hb
              rw [Finishes]
              cases href : referenceOf schema with
              | some reference =>
                  rw [Option.isSome_some, if_pos rfl]
                  intro resolved hresolved
                  unfold resolveContractRef at hresolved
                  have htext := href
                  unfold referenceOf at htext
                  rw [htext, Option.bind_some] at hresolved
                  rcases Option.bind_eq_some_iff.mp hresolved with ⟨pointer, hp, hv⟩
                  have hpoints : Points root schema resolved := ⟨reference, pointer, href, hp, hv⟩
                  exact hone (.target hpoints) (.target hpoints)
              | none =>
                  rw [Option.isSome_none, if_neg Bool.false_ne_true]
                  have hlevel := hplain schema Relation.ReflTransGen.refl href
                  have hmember {k : Str} {member : Value} (hget : schema.get k = some member) :
                      Expands root schema member := by
                    rcases Option.bind_eq_some_iff.mp hget with ⟨members, hmembers, hlookup⟩
                    exact .member href hmembers (lookup_mem hlookup)
                  exact
                    { branches := fun k hk branches hbranches branch hbranch => by
                        rcases Option.bind_eq_some_iff.mp hbranches with ⟨member, hget, hitems⟩
                        exact htwo (.branch href hk hbranches hbranch) (hmember hget)
                          (.item hitems hbranch)
                      properties := fun _ properties object hproperties _ property hproperty _ _ => by
                        rcases Option.bind_eq_some_iff.mp hproperties with ⟨member, hget, hmembers⟩
                        have hnone := hlevel.inPlace "properties" List.mem_cons_self member hget
                        exact htwo (.property href hproperties hproperty) (hmember hget)
                          (.member hnone hmembers hproperty)
                      items := fun _ items values hitems _ child _ =>
                        hone (.items href hitems) (hmember hitems) }

end

/-! ### The sealed schema -/

/-- Whether the validator finds nothing wrong with a value. -/
def schemaAccepts (lib : Crates) (root schema value : Value) : Bool :=
  (validateSchemaValue lib root 64 schema value "$" []).isEmpty

theorem schemaAccepts_iff {lib : Crates} {root schema value : Value} :
    schemaAccepts lib root schema value = true ↔ Satisfies lib root 64 schema value := by
  rw [schemaAccepts, List.isEmpty_iff]
  exact validateSchemaValue_eq_self (by decide)

/-- The sealed schema is checked on its own and accepts what the declared one
    accepts in its document, where no data of the schema looks like a reference.
    A schema with a cycle is not sealed, whatever its data. -/
theorem inlined_accepts_iff (lib : Crates) (root schema : Value) :
    (Plain root schema → ∀ inlined, inlineSchema root schema = .ok inlined →
      ∀ value, Finishes root 64 schema value →
        (schemaAccepts lib inlined inlined value = true ↔
          schemaAccepts lib root schema value = true)) ∧
    ∀ a, Relation.ReflTransGen (Expands root) schema a → Relation.TransGen (Expands root) a a →
      ∃ e, inlineSchema root schema = .error e := by
  constructor
  · intro hplain inlined hinlined value hfinish
    rw [schemaAccepts_iff, schemaAccepts_iff]
    exact satisfies_inlined_iff inlined (Nat.le_refl 64) ⟨65, [], hinlined⟩ hplain hfinish
  · intro a hreach hcycle
    exact inlineLocalRefs_cyclic hreach hcycle

/-! ### A schema that is inlined, and one that is rewritten -/

section

variable {root schema target : Value}

theorem levelPlain_of_refFree (h : refFree schema = true) : LevelPlain root schema where
  data := fun _ _ _ hget => refFree_get h hget
  inPlace := fun _ _ _ hget => refFree_ref (refFree_get h hget)
  reference := fun _ hget => refFree_ref (refFree_get h hget)
  additional := fun _ hget href => absurd (refFree_ref (refFree_get h hget)) href

/-- The schemas below a schema without references have none. -/
theorem refFree_of_subSchema (h : refFree schema = true) (hsub : SubSchema root schema target) :
    refFree target = true := by
  cases hsub with
  | target hpoints =>
      rcases hpoints with ⟨reference, _, href, _⟩
      have hnone : referenceOf schema = none := refFree_ref h
      rw [hnone] at href
      cases href
  | branch _ _ hbranches hb =>
      rcases Option.bind_eq_some_iff.mp hbranches with ⟨member, hget, hitems⟩
      exact refFree_array (refFree_get h hget) hitems _ hb
  | property _ hproperties hb =>
      rcases Option.bind_eq_some_iff.mp hproperties with ⟨member, hget, hmembers⟩
      exact (refFree_object (refFree_get h hget) hmembers).2 _ hb
  | items _ hitems => exact refFree_get h hitems

/-- A schema without references is plain. -/
theorem plain_of_refFree (h : refFree schema = true) : Plain root schema := by
  intro part hpart hnone
  refine levelPlain_of_refFree ?_
  clear hnone
  induction hpart with
  | refl => exact h
  | tail _ hsub ih => exact refFree_of_subSchema ih hsub

/-- So is a reference to a plain schema. -/
theorem Plain.of_points (hpoints : Points root schema target) (h : Plain root target) :
    Plain root schema := by
  rcases hpoints with ⟨reference, pointer, href, hp, hv⟩
  intro part hpart hnone
  rcases hpart.cases_head with rfl | ⟨next, hsub, hrest⟩
  · rw [href] at hnone
    cases hnone
  · cases hsub with
    | target hpoints' =>
        rcases hpoints' with ⟨reference', pointer', href', hp', hv'⟩
        rw [href] at href'
        cases href'
        rw [hp] at hp'
        cases hp'
        rw [hv] at hv'
        cases hv'
        exact h part hrest hnone
    | branch hno _ _ _ | property hno _ _ | items hno _ =>
        rw [href] at hno
        cases hno

end

/-- The schema of a kind, which is a text. -/
def kindSchema : Value := .object [("type".toList, .string "string".toList)]

/-- A document with one schema. -/
def kindDocument : Value :=
  .object [("components".toList, .object [("schemas".toList, .object [("kind".toList, kindSchema)])])]

/-- A reference to it. -/
def kindReference : Value := .object [("$ref".toList, .string "#/components/schemas/kind".toList)]

/-- A schema for a message that is a reference. -/
def referenceSchema : Value := .object [("const".toList, kindReference)]

theorem plain_kindReference : Plain kindDocument kindReference := by
  have hpoints : Points kindDocument kindReference kindSchema :=
    ⟨"#/components/schemas/kind", "/components/schemas/kind", rfl, by decide +kernel,
      by decide +kernel⟩
  exact Plain.of_points hpoints (plain_of_refFree rfl)

/-- A list of lists of lists, without end. -/
def nodeSchema : Value :=
  .object [("items".toList, .object [("$ref".toList, .string "#/components/schemas/node".toList)])]

/-- A reference to it. -/
def nodeReference : Value := .object [("$ref".toList, .string "#/components/schemas/node".toList)]

/-- A document with a schema that leads back to itself. -/
def nodeDocument : Value :=
  .object [("components".toList, .object [("schemas".toList, .object [("node".toList, nodeSchema)])])]

/-- The items of a node are nodes. -/
theorem node_expands_self : Relation.TransGen (Expands nodeDocument) nodeReference nodeReference := by
  have htarget : Expands nodeDocument nodeReference nodeSchema :=
    .target ⟨"#/components/schemas/node", "/components/schemas/node", rfl, by decide +kernel,
      by decide +kernel⟩
  have hmember : Expands nodeDocument nodeSchema nodeReference :=
    .member (by decide +kernel) rfl (List.mem_cons_self)
  exact .tail (.single htarget) hmember

/-- A reference is sealed as the schema it leads to, which admits a text and no
    number, on its own as in the document; a reference that leads back to itself
    is not sealed. -/
theorem inlined_accepts_kind :
    (inlineSchema kindDocument kindReference = .ok kindSchema ∧
      schemaAccepts referenceCrates kindDocument kindReference (.string "a") = true ∧
      schemaAccepts referenceCrates kindSchema kindSchema (.string "a") = true ∧
      schemaAccepts referenceCrates kindDocument kindReference (jsonNat 1) = false ∧
      schemaAccepts referenceCrates kindSchema kindSchema (jsonNat 1) = false) ∧
    ∃ e, inlineSchema nodeDocument nodeReference = .error e := by
  have hsealed : inlineSchema kindDocument kindReference = .ok kindSchema :=
    toOption_eq_some.mp (by decide +kernel)
  have hrun : inlineLocalRefs kindDocument 64 [] kindReference = .ok kindSchema :=
    toOption_eq_some.mp (by decide +kernel)
  -- Both sides are evaluated in the original, and carried over.
  have hsame (value : Value) : schemaAccepts referenceCrates kindSchema kindSchema value = true ↔
      schemaAccepts referenceCrates kindDocument kindReference value = true :=
    (inlined_accepts_iff referenceCrates kindDocument kindReference).1 plain_kindReference
      kindSchema hsealed value
      (finishes_of_inlineLocalRefs (Nat.le_refl 64) plain_kindReference hrun)
  have htext : schemaAccepts referenceCrates kindDocument kindReference (.string "a") = true := by
    decide +kernel
  have hnumber : schemaAccepts referenceCrates kindDocument kindReference (jsonNat 1) = false := by
    decide +kernel
  have hother := Bool.eq_false_iff.mpr fun h =>
    Bool.eq_false_iff.mp hnumber ((hsame (jsonNat 1)).mp h)
  exact ⟨⟨hsealed, htext, (hsame (.string "a")).mpr htext, hnumber, hother⟩,
    (inlined_accepts_iff referenceCrates nodeDocument nodeReference).2 nodeReference .refl
      node_expands_self⟩

/-- A constant that looks like a reference is replaced by what it points at, so
    that the constant itself is no longer accepted. -/
theorem inlining_rewrites_data : ¬ ∀ root schema inlined : Value,
    inlineSchema root schema = .ok inlined → ∀ value, Finishes root 64 schema value →
      (schemaAccepts referenceCrates inlined inlined value = true ↔
        schemaAccepts referenceCrates root schema value = true) := by
  intro hall
  -- The reference stands in `const`, which is data.
  have hsealed : inlineSchema kindDocument referenceSchema =
      .ok (.object [("const".toList, kindSchema)]) := toOption_eq_some.mp (by decide +kernel)
  -- The schema has no part that would be followed further.
  have hfinish : Finishes kindDocument 64 referenceSchema kindReference := by
    rw [Finishes, show (referenceOf referenceSchema).isSome = false by decide +kernel,
      if_neg Bool.false_ne_true]
    have hbranches : ∀ k ∈ combinators, referenceSchema.get k = none := by decide +kernel
    have hproperties : referenceSchema.get "properties" = none := by decide +kernel
    have hitems : referenceSchema.get "items" = none := by decide +kernel
    refine ⟨fun k hk branches hget => ?_, fun _ properties object hget => ?_,
      fun _ items values hget => ?_⟩
    · rw [hbranches k hk] at hget
      cases hget
    · rw [hproperties] at hget
      cases hget
    · rw [hitems] at hget
      cases hget
  have hsame := hall _ _ _ hsealed kindReference hfinish
  -- The original accepts the reference as a value, the inlined schema its target.
  have haccepted : schemaAccepts referenceCrates kindDocument referenceSchema kindReference = true :=
    by decide +kernel
  have hrefused : schemaAccepts referenceCrates (.object [("const".toList, kindSchema)])
      (.object [("const".toList, kindSchema)]) kindReference = false := by decide +kernel
  rw [hsame.mpr haccepted] at hrefused
  cases hrefused

end Kahea
