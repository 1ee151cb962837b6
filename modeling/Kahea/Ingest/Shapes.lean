import Kahea.Core.Reference
import Kahea.Exec.Schema
import Kahea.Ingest.Growth

/-!
# Inferred Shapes

Which samples the schema inferred from them accepts.

A capture keeps the shape of a response and not its values: `shapeSchema` turns
a sample into the schema that later responses are checked with. The schema of
an array describes its first item only, while the validator holds every item
against it. `Alike` says when a value has the shape of a sample, so that the
sample passes its own schema exactly when it is like itself, which an array
with items of two shapes is not.

The validator gives up after 64 levels, and a sample may be nested deeper than
that. `reach` counts the levels that holding a value against a sample takes.
Both are recursions over the sample, and `satisfies_shapeSchema` connects them
to the validator by induction over it.

## Main definitions

* `Alike`: A value has the shape of a sample.
* `reach`: The levels it takes to see that.

## Theorems

* `satisfies_shape_level`: What one level of an inferred schema asks for.
* `satisfies_shapeSchema`: The inferred schema decides `Alike`.
* `shape_accepts_iff`: When a sample passes its own schema.
-/

namespace Kahea

/-! ### Shapes -/

mutual

/-- The value has the shape of the sample: the type of the sample, items like
    the first item of the sample, and a member like each member of the sample. -/
def Alike : Value → Value → Prop
  | .null, value => value = .null
  | .bool _, value => value.asBool.isSome
  | .number n, value =>
      if (Value.number n).isInteger then value.isInteger = true else (asNumber value).isSome
  | .string _, value => value.asStr.isSome
  | .array items, value => ∃ values, value = .array values ∧ AlikeFirst items values
  | .object members, value => ∃ object, value = .object object ∧ AlikeMembers members object

/-- All values have the shape of the first item, if there is one. -/
def AlikeFirst : List Value → List Value → Prop
  | [], _ => True
  | item :: _, values => ∀ value ∈ values, Alike item value

/-- Each member is there, with its shape. -/
def AlikeMembers : List (Str × Value) → List (Str × Value) → Prop
  | [], _ => True
  | (name, member) :: rest, object =>
      (∃ child, lookup name object = some child ∧ Alike member child) ∧ AlikeMembers rest object

end

mutual

/-- The levels the validator enters when it holds the value against the schema
    of the sample. -/
def reach : Value → Value → Nat
  | .array items, .array values => reachFirst items values + 1
  | .object members, .object object => reachMembers members object + 1
  | _, _ => 1

/-- The levels of the items; a sample without items has a schema for them that
    asks for nothing, and is still a level. -/
def reachFirst : List Value → List Value → Nat
  | [], values => if values = [] then 0 else 1
  | item :: _, values => values.foldr (fun value most => max (reach item value) most) 0

/-- The levels of the members. -/
def reachMembers : List (Str × Value) → List (Str × Value) → Nat
  | [], _ => 0
  | (name, member) :: rest, object =>
      max ((lookup name object).elim 0 (reach member)) (reachMembers rest object)

end

theorem foldr_max_le {α : Type} {f : α → Nat} {n : Nat} {xs : List α} :
    xs.foldr (fun x most => max (f x) most) 0 ≤ n ↔ ∀ x ∈ xs, f x ≤ n := by
  induction xs with
  | nil => simp
  | cons x xs ih => rw [List.foldr_cons, Nat.max_le, ih, List.forall_mem_cons]

theorem reach_pos (sample value : Value) : 0 < reach sample value := by
  cases sample <;> cases value <;> simp [reach]

theorem reach_scalar {sample : Value} (harray : sample.asArray = none)
    (hobject : sample.asObject = none) (value : Value) : reach sample value = 1 := by
  cases sample with
  | array items => exact nomatch harray
  | object members => exact nomatch hobject
  | _ => simp [reach]

/-! ### One level -/

theorem jsonObject_get_tail {name : String} {v : Value} {rest : List (String × Value)} {key : Str}
    (h : name.toList ≠ key) : (jsonObject ((name, v) :: rest)).get key = (jsonObject rest).get key :=
  if_neg h

theorem hasType_null {value : Value} : hasType value "null" = true ↔ value = .null := by
  unfold hasType
  rw [if_neg (by decide), if_neg (by decide), if_neg (by decide), if_neg (by decide),
    if_neg (by decide), if_neg (by decide), if_pos rfl, decide_eq_true_iff]

theorem hasType_boolean {value : Value} : hasType value "boolean" = value.asBool.isSome := by
  unfold hasType
  rw [if_neg (by decide), if_neg (by decide), if_neg (by decide), if_neg (by decide),
    if_neg (by decide), if_pos rfl]

theorem hasType_integer {value : Value} : hasType value "integer" = value.isInteger := by
  unfold hasType
  rw [if_neg (by decide), if_neg (by decide), if_neg (by decide), if_neg (by decide), if_pos rfl]

theorem hasType_number {value : Value} : hasType value "number" = (asNumber value).isSome := by
  unfold hasType
  rw [if_neg (by decide), if_neg (by decide), if_neg (by decide), if_pos rfl]
  cases value <;> rfl

theorem hasType_string {value : Value} : hasType value "string" = value.asStr.isSome := by
  unfold hasType
  rw [if_neg (by decide), if_neg (by decide), if_pos rfl]

theorem hasType_array {value : Value} : hasType value "array" = value.asArray.isSome := by
  unfold hasType
  rw [if_neg (by decide), if_pos rfl]

theorem hasType_object {value : Value} : hasType value "object" = value.asObject.isSome := by
  unfold hasType
  rw [if_pos rfl]

/-- The keywords of an inferred schema. -/
def shapeKeywords : List Str :=
  ["items".toList, "properties".toList, "required".toList, "type".toList]

section

variable {lib : Crates} {root : Value} {levels : Nat}

/-- A level without the other keywords asks for a type, for required members
    and for what holds of members and items. -/
theorem satisfies_shape_level {members : List (String × Value)} {value : Value}
    (hkeys : ∀ m ∈ members, m.1.toList ∈ shapeKeywords) :
    Satisfies lib root (levels + 1) (jsonObject members) value ↔
      (contractTypes (jsonObject members) = [] ∨
        ∃ kind ∈ contractTypes (jsonObject members), hasType value kind = true) ∧
      (∀ names object, ((jsonObject members).get "required").bind Value.asArray = some names →
        value.asObject = some object → ∀ name ∈ names.filterMap Value.asStr,
          (lookup name object).isSome) ∧
      (∀ properties object, ((jsonObject members).get "properties").bind Value.asObject =
          some properties → value.asObject = some object →
        ∀ property ∈ properties, ∀ child, lookup property.1 object = some child →
          Satisfies lib root levels property.2 child) ∧
      ∀ items values, (jsonObject members).get "items" = some items →
        value.asArray = some values → ∀ child ∈ values, Satisfies lib root levels items child := by
  have hother (keyword : Str) (h : keyword ∉ shapeKeywords) :
      (jsonObject members).get keyword = none := by
    refine jsonObject_get_none (fun hmem => h ?_)
    rcases List.mem_map.mp hmem with ⟨m, hm, rfl⟩
    exact hkeys m hm
  have habsent {keyword : Str} (h : keyword ∉ shapeKeywords) {α : Type} {f : Value → Option α}
      {x : α} (hx : ((jsonObject members).get keyword).bind f = some x) : False := by
    rw [hother keyword h] at hx
    exact nomatch hx
  have hreference : (((jsonObject members).get "$ref").bind Value.asStr).isSome = false := by
    rw [hother "$ref" (by decide)]
    rfl
  rw [Satisfies, if_neg (Bool.eq_false_iff.mp hreference)]
  constructor
  · intro h
    exact ⟨h.type, h.required, h.properties, h.items⟩
  · rintro ⟨htype, hrequired, hproperties, hitems⟩
    -- The other keywords are absent, so that nothing is asked for by them.
    exact
      { const := fun _ h => nomatch (hother "const" (by decide)).symm.trans h
        enum := fun _ h => (habsent (by decide) h).elim
        allOf := fun _ h => (habsent (by decide) h).elim
        anyOf := fun _ h => (habsent (by decide) h).elim
        oneOf := fun _ h => (habsent (by decide) h).elim
        type := htype
        minLength := fun _ _ _ h => (habsent (by decide) h).elim
        maxLength := fun _ _ _ h => (habsent (by decide) h).elim
        minimum := fun _ _ _ h => (habsent (by decide) h).elim
        maximum := fun _ _ _ h => (habsent (by decide) h).elim
        required := hrequired
        properties := hproperties
        additional := fun h => nomatch (hother "additionalProperties" (by decide)).symm.trans h
        items := hitems }

/-- A schema that names a type and nothing else. -/
theorem satisfies_type {kind : String} {value : Value} :
    Satisfies lib root levels (jsonObject [("type", .string kind.toList)]) value ↔
      hasType value kind.toList = true ∧ 1 ≤ levels := by
  cases levels with
  | zero => exact iff_of_false id (fun h => absurd h.2 (by decide))
  | succ levels =>
      have htype := jsonObject_get_head "type" (.string kind.toList) []
      have hother (key : Str) (h : key ≠ "type".toList) :
          (jsonObject [("type", .string kind.toList)]).get key = none :=
        jsonObject_get_none (by simpa using h)
      rw [satisfies_shape_level (by simp [shapeKeywords]), contractTypes, htype,
        hother "required" (by decide), hother "properties" (by decide), hother "items" (by decide)]
      simp

/-- A schema that asks for nothing. -/
theorem satisfies_nothing {value : Value} :
    Satisfies lib root levels (jsonObject []) value ↔ 1 ≤ levels := by
  cases levels with
  | zero => exact iff_of_false id (by decide)
  | succ levels =>
      rw [satisfies_shape_level (by simp)]
      exact iff_of_true ⟨.inl rfl, nofun, nofun, nofun⟩ (Nat.succ_pos levels)

/-- The schema of an array asks for an array, and of each item what the schema
    of the items asks for. -/
theorem satisfies_array {items value : Value} :
    Satisfies lib root (levels + 1)
        (jsonObject [("items", items), ("type", .string "array")]) value ↔
      ∃ values, value = .array values ∧ ∀ child ∈ values, Satisfies lib root levels items child := by
  have htype : (jsonObject [("items", items), ("type", .string "array")]).get "type" =
      some (.string "array") :=
    (jsonObject_get_tail (by decide)).trans (jsonObject_get_head "type" _ [])
  have hitems := jsonObject_get_head "items" items [("type", .string "array")]
  have hother (key : Str) (hi : key ≠ "items".toList) (ht : key ≠ "type".toList) :
      (jsonObject [("items", items), ("type", .string "array")]).get key = none :=
    jsonObject_get_none (by simpa using ⟨hi, ht⟩)
  rw [satisfies_shape_level (by simp [shapeKeywords]), contractTypes, htype, hitems,
    hother "required" (by decide) (by decide), hother "properties" (by decide) (by decide)]
  simp only [List.mem_singleton, exists_eq_left, hasType_array]
  cases value <;> simp [Value.asArray]

/-- The schema of an object asks for an object, for the required members, and of
    each member what the schema of its name asks for. -/
theorem satisfies_object {properties : List (Str × Value)} {names : List Str} {value : Value} :
    Satisfies lib root (levels + 1) (jsonObject [("properties", .object properties),
        ("required", .array (names.map .string)), ("type", .string "object")]) value ↔
      ∃ object, value = .object object ∧ (∀ name ∈ names, (lookup name object).isSome) ∧
        ∀ property ∈ properties, ∀ child, lookup property.1 object = some child →
          Satisfies lib root levels property.2 child := by
  generalize hmembers : [("properties", Value.object properties),
    ("required", .array (names.map .string)), ("type", .string "object")] = members
  -- The three keywords are the only ones of the schema.
  have hproperties : (jsonObject members).get "properties" = some (.object properties) := by
    rw [← hmembers, jsonObject_get_head]
  have hrequired : (jsonObject members).get "required" = some (.array (names.map .string)) := by
    rw [← hmembers, jsonObject_get_tail (by decide), jsonObject_get_head]
  have htype : (jsonObject members).get "type" = some (.string "object") := by
    rw [← hmembers, jsonObject_get_tail (by decide), jsonObject_get_tail (by decide),
      jsonObject_get_head]
  have hitems : (jsonObject members).get "items" = none := by
    rw [← hmembers]
    exact jsonObject_get_none (by simp)
  have hnames : (names.map Value.string).filterMap Value.asStr = names := by
    rw [List.filterMap_map]
    exact List.filterMap_some
  rw [satisfies_shape_level (by simp [← hmembers, shapeKeywords]), contractTypes, htype, hitems,
    hproperties, hrequired]
  constructor
  -- The type makes it an object, the others say what it has.
  · rintro ⟨hkind, hrequired, hproperties, _⟩
    rcases hkind with hkind | ⟨kind, hkind, hvalue⟩
    · exact absurd hkind (List.cons_ne_nil _ _)
    · rw [List.mem_singleton.mp hkind, hasType_object] at hvalue
      rcases Option.isSome_iff_exists.mp hvalue with ⟨object, hobject⟩
      have hvalue : value = .object object := by
        cases value with
        | object members => exact congrArg Value.object (Option.some.inj hobject)
        | _ => exact nomatch hobject
      refine ⟨object, hvalue, ?_, hproperties properties object rfl hobject⟩
      exact hnames ▸ hrequired _ object rfl hobject
  · rintro ⟨object, rfl, hrequired, hproperties⟩
    refine ⟨.inr ⟨_, List.mem_singleton_self _, hasType_object⟩, ?_, ?_, nofun⟩
    · rintro _ _ ⟨⟩ ⟨⟩
      exact hnames.symm ▸ hrequired
    · rintro _ _ ⟨⟩ ⟨⟩
      exact hproperties

/-! ### All levels -/

mutual

/-- The inferred schema decides whether a value has the shape of the sample, as
    long as there are levels enough. -/
theorem satisfies_shapeSchema : ∀ (sample value : Value) (levels : Nat),
    Satisfies lib root levels (shapeSchema sample) value ↔
      Alike sample value ∧ reach sample value ≤ levels
  | .null, value, levels => by
      rw [shapeSchema, satisfies_type, hasType_null, Alike, reach_scalar rfl rfl]
  | .bool _, value, levels => by
      rw [shapeSchema, satisfies_type, hasType_boolean, Alike, reach_scalar rfl rfl]
  -- An integer is captured as one, any other number as a number.
  | .number n, value, levels => by
      rw [shapeSchema, Alike, reach_scalar rfl rfl]
      split_ifs with hint
      · exact satisfies_type.trans (and_congr_left' (by rw [hasType_integer]))
      · exact satisfies_type.trans (and_congr_left' (by rw [hasType_number]))
  | .string _, value, levels => by
      rw [shapeSchema, satisfies_type, hasType_string, Alike, reach_scalar rfl rfl]
  -- A level is used for each array and each object on the way.
  | .array items, value, 0 =>
      iff_of_false id (fun h => absurd h.2 (Nat.not_le_of_lt (reach_pos _ _)))
  | .array items, value, levels + 1 => by
      rw [shapeSchema, satisfies_array, Alike]
      constructor
      · rintro ⟨values, rfl, hvalues⟩
        have hfirst := (satisfies_first items values levels).mp hvalues
        exact ⟨⟨values, rfl, hfirst.1⟩, Nat.succ_le_succ hfirst.2⟩
      · rintro ⟨⟨values, rfl, halike⟩, hreach⟩
        exact ⟨values, rfl,
          (satisfies_first items values levels).mpr ⟨halike, Nat.le_of_succ_le_succ hreach⟩⟩
  | .object members, value, 0 =>
      iff_of_false id (fun h => absurd h.2 (Nat.not_le_of_lt (reach_pos _ _)))
  | .object members, value, levels + 1 => by
      -- Every name of the sample is required.
      have hnames : members.map (fun m => Value.string m.1) = (members.map Prod.fst).map .string :=
        (List.map_map).symm
      rw [shapeSchema, hnames, satisfies_object, Alike]
      constructor
      · rintro ⟨object, rfl, hobject⟩
        have hmembers := (satisfies_members members object levels).mp hobject
        exact ⟨⟨object, rfl, hmembers.1⟩, Nat.succ_le_succ hmembers.2⟩
      · rintro ⟨⟨object, rfl, halike⟩, hreach⟩
        exact ⟨object, rfl,
          (satisfies_members members object levels).mpr ⟨halike, Nat.le_of_succ_le_succ hreach⟩⟩

/-- The schema of the first item, asked of every value. -/
theorem satisfies_first : ∀ (items values : List Value) (levels : Nat),
    (∀ child ∈ values, Satisfies lib root levels (shapeFirst items) child) ↔
      AlikeFirst items values ∧ reachFirst items values ≤ levels
  | [], values, levels => by
      rw [shapeFirst, AlikeFirst, reachFirst, true_and]
      simp only [satisfies_nothing]
      cases values with
      | nil => simp
      | cons value rest => exact ⟨fun h => h value List.mem_cons_self, fun h _ _ => h⟩
  | item :: _, values, levels => by
      rw [shapeFirst, AlikeFirst, reachFirst, foldr_max_le, ← forall₂_and]
      exact forall₂_congr (fun value _ => satisfies_shapeSchema item value levels)

/-- The schemas of the members, asked of the members of the value. -/
theorem satisfies_members : ∀ (members object : List (Str × Value)) (levels : Nat),
    ((∀ name ∈ members.map Prod.fst, (lookup name object).isSome) ∧
      ∀ property ∈ shapeMembers members, ∀ child, lookup property.1 object = some child →
        Satisfies lib root levels property.2 child) ↔
      AlikeMembers members object ∧ reachMembers members object ≤ levels
  | [], object, levels => by simp [AlikeMembers, reachMembers, shapeMembers]
  | (name, member) :: rest, object, levels => by
      rw [shapeMembers, AlikeMembers, reachMembers, List.map_cons, List.forall_mem_cons,
        List.forall_mem_cons, Nat.max_le, and_and_and_comm, satisfies_members rest object levels,
        and_and_and_comm (b := AlikeMembers rest object)]
      refine and_congr_left' ?_
      cases lookup name object with
      | none => simp
      | some child => simp [satisfies_shapeSchema member child levels]

end

/-- A sample passes the schema inferred from it exactly when the items of each
    of its arrays are like the first one, and the validator can go as deep. A
    captured text that parses is such a sample. -/
theorem shape_accepts_iff (sample : Value) :
    (validateSchemaValue lib root 64 (shapeSchema sample) sample "$" [] = [] ↔
      Alike sample sample ∧ reach sample sample ≤ 64) ∧
    ∀ text, lib.parseJson (utf8 text) = .ok sample →
      (validateSchemaValue lib root 64 (capturedSchema lib (some (.string text))) sample "$" [] =
        [] ↔ Alike sample sample ∧ reach sample sample ≤ 64) := by
  have hiff : validateSchemaValue lib root 64 (shapeSchema sample) sample "$" [] = [] ↔
      Alike sample sample ∧ reach sample sample ≤ 64 := by
    rw [validateSchemaValue_eq_self (by decide)]
    exact satisfies_shapeSchema sample sample 64
  refine ⟨hiff, fun text hparse => ?_⟩
  have hschema : capturedSchema lib (some (.string text)) = shapeSchema sample := by
    unfold capturedSchema
    rw [Option.bind_some, Value.asStr, Option.bind_some, hparse]
    rfl
  rw [hschema]
  exact hiff

end

/-- A list of names, as it was captured. -/
def namesText : Str := "\x7b\"names\":[\"a\",\"b\"]\x7d".toList

/-- The list itself. -/
def namesSample : Value := jsonObject [("names", .array [.string "a", .string "b"])]

/-- The captured text gives a schema that its value passes. -/
theorem shape_accepts_names : referenceCrates.parseJson (utf8 namesText) = .ok namesSample ∧
    validateSchemaValue referenceCrates .null 64
      (capturedSchema referenceCrates (some (.string namesText))) namesSample "$" [] = [] := by
  have hparse : referenceCrates.parseJson (utf8 namesText) = .ok namesSample :=
    toOption_eq_some.mp (by decide +kernel)
  have halike : Alike namesSample namesSample := by
    refine ⟨_, rfl, ⟨_, rfl, _, rfl, fun value hvalue => ?_⟩, trivial⟩
    rcases List.mem_pair.mp hvalue with rfl | rfl
    · rfl
    · rfl
  exact ⟨hparse, ((shape_accepts_iff namesSample).2 namesText hparse).mpr
    ⟨halike, by decide +kernel⟩⟩

/-- A number and a text in one array. -/
def mixedSample : Value := .array [jsonNat 1, .string "a"]

/-- The second item is held against the schema of the first one. -/
theorem mixed_rejected : ¬ ∀ (lib : Crates) (root sample : Value),
    validateSchemaValue lib root 64 (shapeSchema sample) sample "$" [] = [] := by
  intro h
  have hmixed := h referenceCrates .null mixedSample
  revert hmixed
  decide +kernel

end Kahea
