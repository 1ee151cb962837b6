import Kahea.Core.Reference
import Kahea.Exec.Schema
import Kahea.Plan.Inputs

/-!
# The Two Schema Validators

The planner judges a value before it is sent and the executor judges a value
that came back, each with a validator of its own. Both walk the same schema
language, so a value that one of them lets through should pass the other.

Where the schema has only keywords that both of them know, a level comes to the
same checks of its own (`OwnChecks`) and the same sub-schemas (`Child`) in
either validator. What is left is how they follow references and when they stop
early. The planner takes one step along a reference and reads the keywords it
finds there, even if those are another reference; the executor goes on to the
end. The planner accepts null wherever a schema is nullable; the executor does
not know the keyword.

Every shared keyword is a condition more, so either validator accepts exactly
when nothing on its way objects. On the way that is common to them
(`MeetsBoth`) they make the same objections, and from there on only the
executor can make one, at what the planner passes over. `validators_agree_iff`
says when that changes the answer: nothing on the common way objects, and
something that is passed over does.

## Main definitions

* `OwnChecks`, `Child`: What a level checks and what it leaves to others.
* `Meets`: The schemas and values judged on the way.
* `Accepts`: What the validator of the planner decides.
* `MeetsBoth`, `PassedOver`: The common way, and where the planner leaves it.
* `Objected`, `Complies`: A check that fails, and a value with which none does.

## Theorems

* `validateValue_ok`: The validator of the planner decides `Accepts`.
* `satisfies_level`: The validator of the executor, for shared keywords.
* `accepts_iff`, `satisfies_iff`: The two judgements on their ways.
* `validators_agree_iff`: When the validators agree.
-/

namespace Kahea

/-! ### One level -/

/-- The schema accepts null whatever else it says. -/
def isNullable (schema : Value) : Bool := ((schema.get "nullable").bind Value.asBool).getD false

/-- What a level checks itself. -/
structure OwnChecks (schema value : Value) : Prop where
  enum : ∀ values, (schema.get "enum").bind Value.asArray = some values → value ∈ values
  type : contractTypes schema = [] ∨ ∃ kind ∈ contractTypes schema, hasType value kind = true
  required : ∀ names object, (schema.get "required").bind Value.asArray = some names →
    value.asObject = some object → ∀ name ∈ names.filterMap Value.asStr,
      (lookup name object).isSome
  additional : schema.get "additionalProperties" = some (.bool false) →
    ∀ object, value.asObject = some object → ∀ name ∈ object.map Prod.fst,
      ∃ properties, (schema.get "properties").bind Value.asObject = some properties ∧
        (lookup name properties).isSome

/-- The sub-schemas of a level and the parts of the value they are for. -/
inductive Child (schema value : Value) : Value → Value → Prop
  | branch {branches : List Value} {child : Value}
      (hbranches : (schema.get "allOf").bind Value.asArray = some branches)
      (hchild : child ∈ branches) : Child schema value child value
  | member {properties object : List (Str × Value)} {name : Str} {child part : Value}
      (hproperties : (schema.get "properties").bind Value.asObject = some properties)
      (hobject : value.asObject = some object) (hchild : lookup name properties = some child)
      (hpart : lookup name object = some part) : Child schema value child part
  | item {values : List Value} {child part : Value} (hitems : schema.get "items" = some child)
      (hvalues : value.asArray = some values) (hpart : part ∈ values) :
      Child schema value child part

/-- The keywords of which only the executor knows the meaning. -/
def responseKeywords : List Str :=
  ["const", "anyOf", "oneOf", "minLength", "maxLength", "minimum", "maximum"].map String.toList

/-- A schema whose keywords mean something to both validators: it has none that
    only the executor knows, and neither the upload descriptors nor the
    read-only properties of the planner. -/
structure SharedKeywords (schema : Value) : Prop where
  response : ∀ keyword ∈ responseKeywords, schema.get keyword = none
  upload : (schema.get "format").bind Value.asStr ≠ some "binary".toList
  writable : ∀ name, isReadOnly ((schema.get "properties").bind Value.asObject) name = false

/-- The keywords the planner would read beside a reference. -/
def linkKeywords : List Str :=
  ["allOf", "enum", "type", "required", "properties", "additionalProperties", "items",
    "nullable"].map String.toList

/-- A link of a chain of references is a reference alone: the executor reads
    nothing beside one. -/
def IsLink (schema : Value) : Prop := ∀ keyword ∈ linkKeywords, schema.get keyword = none

/-- The members of the value and the properties of the schema are those of a
    map. -/
structure Keyed (schema value : Value) : Prop where
  properties : ∀ properties, (schema.get "properties").bind Value.asObject = some properties →
    (properties.map Prod.fst).Nodup
  members : ∀ object, value.asObject = some object → (object.map Prod.fst).Nodup

section

variable {schema value : Value}

/-- The two validators read types alike. -/
theorem typeMatches_eq (kind : Str) (value : Value) : typeMatches kind value = hasType value kind := by
  -- The one asks for the kinds from the last to the first, the other the other way.
  have hkind (name : Str) (hname : typeMatches name value = hasType value name)
      (hrest : kind ≠ name → typeMatches kind value = hasType value kind) :
      typeMatches kind value = hasType value kind := by
    by_cases h : kind = name
    · rw [h]
      exact hname
    · exact hrest h
  refine hkind "null" rfl fun h1 => hkind "boolean" rfl fun h2 => hkind "integer" rfl fun h3 =>
    hkind "number" rfl fun h4 => hkind "string" rfl fun h5 => hkind "array" rfl fun h6 =>
    hkind "object" rfl fun h7 => ?_
  unfold typeMatches hasType
  rw [if_neg h1, if_neg h2, if_neg h3, if_neg h4, if_neg h5, if_neg h6, if_neg h7, if_neg h7,
    if_neg h6, if_neg h5, if_neg h4, if_neg h3, if_neg h2, if_neg h1]

theorem validateType_ok {field : Str} : validateType schema value field = .ok () ↔
    contractTypes schema = [] ∨ ∃ kind ∈ contractTypes schema, hasType value kind = true := by
  have htypes : declaredTypes schema = contractTypes schema := rfl
  unfold validateType
  rw [ensure_ok, htypes, Bool.or_eq_true, List.isEmpty_iff, List.any_eq_true]
  simp only [typeMatches_eq]

theorem validateEnum_ok {field : Str} : validateEnum schema value field = .ok () ↔
    ∀ values, (schema.get "enum").bind Value.asArray = some values → value ∈ values := by
  unfold validateEnum
  cases (schema.get "enum").bind Value.asArray with
  | none => exact iff_of_true rfl nofun
  | some values =>
      dsimp only
      rw [ensure_ok, List.contains_iff_mem]
      simp only [Option.some.injEq, forall_eq']

theorem validateRequired_ok {object : List (Str × Value)} {field : Str} (h : SharedKeywords schema) :
    validateRequired schema object field = .ok () ↔
      ∀ names, (schema.get "required").bind Value.asArray = some names →
        ∀ name ∈ names.filterMap Value.asStr, (lookup name object).isSome := by
  have hfind : validateRequired schema object field = .ok () ↔
      ((((schema.get "required").bind Value.asArray).getD []).filterMap Value.asStr).find?
        (fun name => !(isReadOnly ((schema.get "properties").bind Value.asObject) name) &&
          (lookup name object).isNone) = none := by
    unfold validateRequired
    dsimp only
    cases ((((schema.get "required").bind Value.asArray).getD []).filterMap Value.asStr).find? _ with
    | none => exact iff_of_true rfl rfl
    | some name => exact iff_of_false nofun nofun
  rw [hfind, List.find?_eq_none]
  simp only [h.writable, Bool.not_false, Bool.true_and, Option.isNone_iff_eq_none,
    ← Option.isSome_iff_ne_none]
  cases (schema.get "required").bind Value.asArray with
  | none => exact iff_of_true nofun nofun
  | some names => simp only [Option.getD_some, Option.some.injEq, forall_eq']

/-- The planner finds nothing to check in a link. -/
theorem IsLink.accepts (h : IsLink schema) : isNullable schema = false ∧ OwnChecks schema value ∧
    ∀ child part, ¬ Child schema value child part := by
  -- None of the keywords is there, so every check is empty.
  have hunused (keyword : String) (hkeyword : keyword.toList ∈ linkKeywords) {α : Type}
      {f : Value → Option α} {x : α} : (schema.get keyword).bind f ≠ some x := by
    rw [h _ hkeyword]
    exact nofun
  have htypes : contractTypes schema = [] := by
    unfold contractTypes
    rw [h "type".toList (by decide)]
  refine ⟨?_, ⟨fun _ hv => absurd hv (hunused "enum" (by decide)), Or.inl htypes,
    fun _ _ hn => absurd hn (hunused "required" (by decide)), fun hdenied => ?_⟩, ?_⟩
  · unfold isNullable
    rw [h "nullable".toList (by decide)]
    rfl
  · rw [h "additionalProperties".toList (by decide)] at hdenied
    cases hdenied
  · intro child part hchild
    cases hchild with
    | branch hbranches => exact hunused "allOf" (by decide) hbranches
    | member hproperties => exact hunused "properties" (by decide) hproperties
    | item hitems =>
        rw [h "items".toList (by decide)] at hitems
        cases hitems

theorem uploadDescriptor_none (h : SharedKeywords schema) : uploadDescriptor schema value = none :=
  if_neg (fun hupload => h.upload hupload.2)

/-- A level of the executor with shared keywords. -/
theorem satisfies_level {lib : Crates} {sat : Value → Value → Prop} (h : SharedKeywords schema)
    (hkeyed : Keyed schema value) : LevelSatisfied lib sat schema value ↔
      OwnChecks schema value ∧ ∀ child part, Child schema value child part → sat child part := by
  -- The keywords only the response validator reads are absent, so their clauses are empty.
  have hnone (keyword : String) (hkeyword : keyword.toList ∈ responseKeywords) :
      schema.get keyword = none := h.response _ hkeyword
  constructor
  · intro hlevel
    refine ⟨⟨hlevel.enum, hlevel.type, hlevel.required, hlevel.additional⟩, ?_⟩
    intro child part hpart
    -- The children are reached by three keywords, one clause of the level each.
    cases hpart with
    | branch hbranches hchild => exact hlevel.allOf _ hbranches child hchild
    | member hproperties hobject hchild hmember =>
        exact hlevel.properties _ _ hproperties hobject _ (lookup_mem hchild) part hmember
    | item hitems hvalues hmember => exact hlevel.items child _ hitems hvalues part hmember
  · rintro ⟨hown, hchildren⟩
    have hunused (keyword : String) (hkeyword : keyword.toList ∈ responseKeywords) {α : Type}
        {f : Value → Option α} {x : α} {P : Prop} (hx : (schema.get keyword).bind f = some x) : P := by
      rw [hnone keyword hkeyword] at hx
      cases hx
    refine
      { const := fun constant hconstant => ?_
        enum := hown.enum
        allOf := fun branches hbranches branch hbranch => hchildren _ _ (.branch hbranches hbranch)
        anyOf := fun branches hbranches => hunused "anyOf" (by decide) hbranches
        oneOf := fun branches hbranches => hunused "oneOf" (by decide) hbranches
        type := hown.type
        minLength := fun _ _ _ hn => hunused "minLength" (by decide) hn
        maxLength := fun _ _ _ hn => hunused "maxLength" (by decide) hn
        minimum := fun _ _ _ hn => hunused "minimum" (by decide) hn
        maximum := fun _ _ _ hn => hunused "maximum" (by decide) hn
        required := hown.required
        properties := fun properties object hproperties hobject property hproperty part hpart => ?_
        additional := hown.additional
        items := fun items values hitems hvalues part hpart => hchildren _ _ (.item hitems hvalues hpart) }
    · rw [hnone "const" (by decide)] at hconstant
      cases hconstant
    -- `properties` is looked up by the members of the value, which are keyed.
    · have hchild := (lookup_eq_some_iff_mem (hkeyed.properties _ hproperties)).mpr hproperty
      exact hchildren _ _ (.member hproperties hobject hchild hpart)

end

/-! ### Walks -/

/-- What the validator of the planner decides, with the given number of levels. -/
def Accepts (root : Value) : Nat → Value → Value → Prop
  | 0, _, _ => False
  | levels + 1, schema, value => ∃ target, refTarget root schema = some target ∧
      ((value = .null ∧ isNullable target = true) ∨ (OwnChecks target value ∧
        ∀ child part, Child target value child part → Accepts root levels child part))

/-- The schemas that are judged on the way and the parts they judge, as the
    executor goes. -/
inductive Meets (root : Value) : Value → Value → Value → Value → Prop
  | refl (schema value : Value) : Meets root schema value schema value
  | ref {schema value target schema' value' : Value} (hreference : isReference schema = true)
      (htarget : resolveContractRef root schema = some target)
      (h : Meets root target value schema' value') : Meets root schema value schema' value'
  | child {schema value child part schema' value' : Value} (hreference : isReference schema = false)
      (hchild : Child schema value child part) (h : Meets root child part schema' value') :
      Meets root schema value schema' value'

/-- The judgement stays within a number of levels of the executor. -/
def Within (root : Value) : Nat → Value → Value → Prop
  | 0, _, _ => False
  | levels + 1, schema, value =>
      if isReference schema then
        ∀ target, resolveContractRef root schema = some target → Within root levels target value
      else ∀ child part, Child schema value child part → Within root levels child part

/-- The schemas on the way have shared keywords, judge maps, and are nothing but
    references where they are links of a chain. -/
structure Comparable (root schema value : Value) : Prop where
  shared : ∀ schema' value', Meets root schema value schema' value' → SharedKeywords schema'
  keyed : ∀ schema' value', Meets root schema value schema' value' → Keyed schema' value'
  links : ∀ schema' value', Meets root schema value schema' value' → isReference schema' = true →
    ∀ target, resolveContractRef root schema' = some target → isReference target = true →
      IsLink target

section

variable {root schema value target child part : Value}

theorem Comparable.of_ref (h : Comparable root schema value) (hreference : isReference schema = true)
    (htarget : resolveContractRef root schema = some target) : Comparable root target value :=
  ⟨fun _ _ hmeets => h.shared _ _ (.ref hreference htarget hmeets),
    fun _ _ hmeets => h.keyed _ _ (.ref hreference htarget hmeets),
    fun _ _ hmeets => h.links _ _ (.ref hreference htarget hmeets)⟩

theorem Comparable.of_child (h : Comparable root schema value) (hreference : isReference schema = false)
    (hchild : Child schema value child part) : Comparable root child part :=
  ⟨fun _ _ hmeets => h.shared _ _ (.child hreference hchild hmeets),
    fun _ _ hmeets => h.keyed _ _ (.child hreference hchild hmeets),
    fun _ _ hmeets => h.links _ _ (.child hreference hchild hmeets)⟩

/-- The schema the planner reads is comparable, and what it goes on to. -/
theorem Comparable.of_target (h : Comparable root schema value)
    (htarget : refTarget root schema = some target) :
    Comparable root target value ∧
      ∀ child part, Child target value child part → Comparable root child part := by
  unfold refTarget at htarget
  cases hreference : isReference schema with
  | true =>
      rw [hreference, if_pos rfl] at htarget
      have hcomparable := h.of_ref hreference htarget
      refine ⟨hcomparable, fun child part hchild => ?_⟩
      cases hlink : isReference target with
      | true =>
          exact absurd hchild ((h.links _ _ (.refl _ _) hreference _ htarget hlink).accepts.2.2 _ _)
      | false => exact hcomparable.of_child hlink hchild
  | false =>
      rw [hreference, if_neg Bool.false_ne_true] at htarget
      cases htarget
      exact ⟨h, fun child part hchild => h.of_child hreference hchild⟩

theorem resolveSchema_ok {source : OpenApiSource} {field : Str} :
    resolveSchema source schema field = .ok target ↔ refTarget source.document schema = some target := by
  unfold resolveSchema refTarget isReference resolveContractRef
  cases (schema.get "$ref").bind Value.asStr with
  | none => exact ⟨fun h => congrArg some (Except.ok.inj h), fun h => congrArg Except.ok (Option.some.inj h)⟩
  | some reference =>
      rw [Option.isSome_some, if_pos rfl, Option.bind_some]
      unfold resolveRef
      dsimp only
      cases (stripPrefix "#" reference).bind source.document.pointer with
      | none => exact iff_of_false (fun h => by cases h) (fun h => by cases h)
      | some v => exact ⟨fun h => congrArg some (Except.ok.inj h), fun h => congrArg Except.ok (Option.some.inj h)⟩

/-- One member of a value, as the planner judges it. -/
def memberStep (schema : Value) (validate : Value → Value → Str → Except PlanError Unit) (field : Str)
    (entry : Str × Value) : Except PlanError Unit :=
  match ((schema.get "properties").bind Value.asObject).bind (lookup entry.1) with
  | some child => validate child entry.2 (field ++ '.' :: entry.1)
  | none => ensure (schema.get "additionalProperties" ≠ some (Value.bool false))
      (.unknownInput (field ++ '.' :: entry.1))

/-- The items of a value, as the planner judges them. -/
def itemSteps (validate : Value → Value → Str → Except PlanError Unit) (schema value : Value)
    (field : Str) : Except PlanError Unit :=
  match value.asArray, schema.get "items" with
  | some values, some items => values.zipIdx.forM (fun entry =>
      validate items entry.1 (field ++ '[' :: decimal entry.2 ++ "]".toList))
  | _, _ => .ok ()

/-- The members of a value, as the planner judges them. -/
theorem memberStep_ok {validate : Value → Value → Str → Except PlanError Unit}
    {sat : Value → Value → Prop} {object : List (Str × Value)} {field : Str}
    (hkeyed : (object.map Prod.fst).Nodup)
    (hsat : ∀ properties, (schema.get "properties").bind Value.asObject = some properties →
      ∀ name child part, lookup name properties = some child → lookup name object = some part →
        (validate child part (field ++ '.' :: name) = .ok () ↔ sat child part)) :
    object.forM (memberStep schema validate field) = .ok () ↔
      (schema.get "additionalProperties" = some (Value.bool false) →
        ∀ name ∈ object.map Prod.fst, ∃ properties,
          (schema.get "properties").bind Value.asObject = some properties ∧
            (lookup name properties).isSome) ∧
      ∀ properties, (schema.get "properties").bind Value.asObject = some properties →
        ∀ name child part, lookup name properties = some child → lookup name object = some part →
          sat child part := by
  rw [forM_ok]
  constructor
  · intro h
    refine ⟨fun hdenied name hname => ?_, fun properties hproperties name child part hchild hpart => ?_⟩
    -- A member that no property names passes only where additional ones are allowed.
    · rcases List.mem_map.mp hname with ⟨entry, hentry, rfl⟩
      have hstep := h entry hentry
      unfold memberStep at hstep
      cases hlookup : ((schema.get "properties").bind Value.asObject).bind (lookup entry.1) with
      | none =>
          rw [hlookup] at hstep
          exact absurd hdenied (of_decide_eq_true (ensure_ok.mp hstep))
      | some child =>
          rcases Option.bind_eq_some_iff.mp hlookup with ⟨properties, hproperties, hchild⟩
          exact ⟨properties, hproperties, Option.isSome_of_eq_some hchild⟩
    -- A named member was checked against its property.
    · have hstep := h (name, part) (lookup_mem hpart)
      unfold memberStep at hstep
      rw [hproperties, Option.bind_some, hchild] at hstep
      exact (hsat properties hproperties name child part hchild hpart).mp hstep
  · rintro ⟨hadditional, hmembers⟩ ⟨name, part⟩ hentry
    -- A member is the one that is looked up, since no name occurs twice.
    have hpart := (lookup_eq_some_iff_mem hkeyed).mpr hentry
    unfold memberStep
    cases hlookup : ((schema.get "properties").bind Value.asObject).bind (lookup name) with
    | none =>
        refine ensure_ok.mpr (decide_eq_true (fun hdenied => ?_))
        rcases hadditional hdenied name (List.mem_map_of_mem hentry) with ⟨properties, hproperties, hsome⟩
        rw [hproperties, Option.bind_some] at hlookup
        rw [hlookup] at hsome
        cases hsome
    | some child =>
        rcases Option.bind_eq_some_iff.mp hlookup with ⟨properties, hproperties, hchild⟩
        exact (hsat properties hproperties name child part hchild hpart).mpr
          (hmembers properties hproperties name child part hchild hpart)

/-- The validator of the planner decides `Accepts`. -/
theorem validateValue_ok {source : OpenApiSource} (levels : Nat) {schema value : Value}
    (h : Comparable source.document schema value) (field : Str) :
    validateValue source levels schema value field = .ok () ↔
      Accepts source.document levels schema value := by
  induction levels generalizing schema value field with
  -- Without a level left the validator fails and nothing is accepted.
  | zero => exact iff_of_false (fun h => by cases h) id
  | succ levels ih =>
      unfold validateValue Accepts
      rw [except_bind_ok]
      refine exists_congr (fun target => ?_)
      rw [resolveSchema_ok]
      refine and_congr_right (fun htarget => ?_)
      rcases h.of_target htarget with ⟨hcomparable, hchildren⟩
      have hshared := hcomparable.shared _ _ (.refl _ _)
      have hkeyed := hcomparable.keyed _ _ (.refl _ _)
      have hchild {child part : Value} (hc : Child target value child part) (field : Str) :
          validateValue source levels child part field = .ok () ↔
            Accepts source.document levels child part := ih (hchildren child part hc) field
      rw [uploadDescriptor_none hshared]
      dsimp only
      -- A nullable null passes before anything else is read.
      by_cases hnull : value = .null ∧ ((target.get "nullable").bind Value.asBool).getD false = true
      · rw [if_pos hnull]
        exact iff_of_true rfl (Or.inl hnull)
      · rw [if_neg hnull, or_iff_right (show ¬(value = .null ∧ isNullable target = true) from hnull)]
        -- From here each check of the validator is matched with its clause of `Accepts`.
        have hbranches : (((target.get "allOf").bind Value.asArray).getD []).forM (fun child =>
            validateValue source levels child value field) = .ok () ↔
              ∀ branches, (target.get "allOf").bind Value.asArray = some branches →
                ∀ branch ∈ branches, Accepts source.document levels branch value := by
          rw [forM_ok]
          cases hall : (target.get "allOf").bind Value.asArray with
          | none => exact iff_of_true (fun _ h => by cases h) (fun _ h => by cases h)
          | some branches =>
              simp only [Option.getD_some, Option.some.injEq, forall_eq']
              exact forall₂_congr (fun branch hbranch => hchild (.branch hall hbranch) field)
        -- What the children must satisfy, keyword by keyword.
        have hchildren : (∀ child part, Child target value child part →
              Accepts source.document levels child part) ↔
            (∀ branches, (target.get "allOf").bind Value.asArray = some branches →
              ∀ branch ∈ branches, Accepts source.document levels branch value) ∧
            (∀ object, value.asObject = some object → ∀ properties,
              (target.get "properties").bind Value.asObject = some properties →
                ∀ name child part, lookup name properties = some child → lookup name object = some part →
                  Accepts source.document levels child part) ∧
            ∀ values, value.asArray = some values → ∀ items, target.get "items" = some items →
              ∀ part ∈ values, Accepts source.document levels items part := by
          constructor
          · intro hall
            exact ⟨fun _ hb _ hm => hall _ _ (.branch hb hm),
              fun _ ho _ hp _ _ _ hc hw => hall _ _ (.member hp ho hc hw),
              fun _ hv _ hi _ hm => hall _ _ (.item hi hv hm)⟩
          · rintro ⟨hb, hm, hi⟩ child part hpart
            cases hpart with
            | branch hbranches hmem => exact hb _ hbranches _ hmem
            | member hproperties hobject hlookup hmember =>
                exact hm _ hobject _ hproperties _ _ _ hlookup hmember
            | item hitems hvalues hmem => exact hi _ hvalues _ hitems _ hmem
        -- Items are numbered for the field of an error; the number decides nothing.
        have hitems : itemSteps (validateValue source levels) target value field = .ok () ↔
              ∀ values, value.asArray = some values → ∀ items, target.get "items" = some items →
                ∀ part ∈ values, Accepts source.document levels items part := by
          unfold itemSteps
          cases harray : value.asArray with
          | none => exact iff_of_true rfl (fun _ h => by cases h)
          | some values =>
              cases hget : target.get "items" with
              | none => exact iff_of_true rfl (fun _ _ _ h => by cases h)
              | some items =>
                  simp only [Option.some.injEq, forall_eq', forM_ok]
                  constructor
                  · intro hall part hpart
                    rw [← List.zipIdx_map_fst 0 values] at hpart
                    rcases List.mem_map.mp hpart with ⟨entry, hentry, rfl⟩
                    have hmem := List.fst_mem_of_mem_zipIdx hentry
                    exact (hchild (.item hget harray hmem) _).mp (hall entry hentry)
                  · intro hall entry hentry
                    have hmem := List.fst_mem_of_mem_zipIdx hentry
                    exact (hchild (.item hget harray hmem) _).mpr (hall entry.1 hmem)
        rw [unit_bind_ok, hbranches, unit_bind_ok, validateEnum_ok, unit_bind_ok, validateType_ok,
          hchildren]
        -- The members are checked on an object only.
        cases hobject : value.asObject with
        | none =>
            dsimp only
            rw [unit_bind_ok]
            refine (and_congr_right' (and_congr_right' (and_congr_right'
              (and_congr_right' hitems)))).trans ?_
            constructor
            · rintro ⟨hall, henum, htype, -, hvalues⟩
              have hnothing : ∀ o, value.asObject ≠ some o := by
                intro o ho
                cases hobject.symm.trans ho
              rw [hobject] at hnothing
              exact ⟨⟨henum, htype, fun _ o _ ho => absurd (hobject.symm.trans ho) (hnothing o),
                fun _ o ho => absurd (hobject.symm.trans ho) (hnothing o)⟩, hall,
                fun o ho => absurd ho (hnothing o), hvalues⟩
            · rintro ⟨hown, hall, -, hvalues⟩
              exact ⟨hall, hown.enum, hown.type, rfl, hvalues⟩
        | some object =>
            have hmembers := @memberStep_ok target (validateValue source levels)
              (Accepts source.document levels) object field
              (hkeyed.members object hobject) (fun properties hproperties name child part hlookup hpart =>
                hchild (.member hproperties hobject hlookup hpart) _)
            dsimp only
            rw [unit_bind_ok, validateRequired_ok hshared, unit_bind_ok]
            refine (and_congr_right' (and_congr_right' (and_congr_right' (and_congr_right'
              (and_congr hmembers hitems))))).trans ?_
            constructor
            -- What the clauses say of any object they say of this one.
            · rintro ⟨hall, henum, htype, hrequired, ⟨hadditional, hmembers⟩, hvalues⟩
              refine ⟨⟨henum, htype, fun names o hnames ho => ?_, fun hdenied o ho => ?_⟩, hall,
                fun o ho properties hproperties => ?_, hvalues⟩
              · rw [hobject] at ho
                cases ho
                exact hrequired names hnames
              · rw [hobject] at ho
                cases ho
                exact hadditional hdenied
              · cases ho
                exact hmembers properties hproperties
            · rintro ⟨hown, hall, hmembers, hvalues⟩
              exact ⟨hall, hown.enum, hown.type, fun names hnames => hown.required names object hnames hobject,
                ⟨fun hdenied => hown.additional hdenied object hobject,
                  fun properties hproperties => hmembers object rfl properties hproperties⟩, hvalues⟩

end

/-! ### The ways of the validators -/

/-- The schemas that both validators judge, and the parts they judge. -/
inductive MeetsBoth (root : Value) : Value → Value → Value → Value → Prop
  | refl (schema value : Value) : MeetsBoth root schema value schema value
  | ref {schema value target schema' value' : Value} (hreference : isReference schema = true)
      (htarget : resolveContractRef root schema = some target) (hend : isReference target = false)
      (h : MeetsBoth root target value schema' value') : MeetsBoth root schema value schema' value'
  | child {schema value child part schema' value' : Value} (hreference : isReference schema = false)
      (hnull : ¬ (value = .null ∧ isNullable schema = true)) (hchild : Child schema value child part)
      (h : MeetsBoth root child part schema' value') : MeetsBoth root schema value schema' value'

/-- The planner looks no further: the value is null under a nullable schema, or
    the reference leads to another reference. -/
def PassedOver (root schema value : Value) : Prop :=
  (isReference schema = false ∧ value = .null ∧ isNullable schema = true) ∨
    (isReference schema = true ∧
      ∃ target, resolveContractRef root schema = some target ∧ isReference target = true)

/-- A check that both validators make fails. -/
def Objected (root schema value : Value) : Prop :=
  (isReference schema = true ∧ resolveContractRef root schema = none) ∨
    (isReference schema = false ∧ ¬ (value = .null ∧ isNullable schema = true) ∧
      ¬ OwnChecks schema value)

/-- No check fails on the way of the executor. -/
def Complies (root schema value : Value) : Prop :=
  ∀ schema' value', Meets root schema value schema' value' →
    (isReference schema' = true → (resolveContractRef root schema').isSome) ∧
      (isReference schema' = false → OwnChecks schema' value')

section

variable {lib : Crates} {root schema value target child part schema' value' : Value}

theorem Meets.trans {schema'' value'' : Value} (h : Meets root schema value schema' value')
    (h' : Meets root schema' value' schema'' value'') : Meets root schema value schema'' value'' := by
  induction h with
  | refl => exact h'
  | ref hreference htarget _ ih => exact .ref hreference htarget (ih h')
  | child hreference hchild _ ih => exact .child hreference hchild (ih h')

theorem MeetsBoth.meets (h : MeetsBoth root schema value schema' value') :
    Meets root schema value schema' value' := by
  induction h with
  | refl schema value => exact .refl schema value
  | ref hreference htarget _ _ ih => exact .ref hreference htarget ih
  | child hreference _ hchild _ ih => exact .child hreference hchild ih

theorem Comparable.of_meets (h : Comparable root schema value)
    (hmeets : Meets root schema value schema' value') : Comparable root schema' value' :=
  ⟨fun _ _ h' => h.shared _ _ (hmeets.trans h'), fun _ _ h' => h.keyed _ _ (hmeets.trans h'),
    fun _ _ h' => h.links _ _ (hmeets.trans h')⟩

theorem Complies.of_meets (h : Complies root schema value)
    (hmeets : Meets root schema value schema' value') : Complies root schema' value' :=
  fun _ _ h' => h _ _ (hmeets.trans h')

theorem satisfies_reference {levels : Nat} (hreference : isReference schema = true) :
    Satisfies lib root (levels + 1) schema value ↔
      ∃ target, resolveContractRef root schema = some target ∧ Satisfies lib root levels target value :=
  iff_of_eq (if_pos hreference)

/-- A level of the executor, for schemas on the way. -/
theorem satisfies_succ {levels : Nat} (h : Comparable root schema value)
    (hreference : isReference schema = false) : Satisfies lib root (levels + 1) schema value ↔
      OwnChecks schema value ∧
        ∀ child part, Child schema value child part → Satisfies lib root levels child part := by
  have hnot : ¬ isReference schema = true := by
    rw [hreference]
    exact Bool.false_ne_true
  exact (iff_of_eq (if_neg hnot)).trans
    (satisfies_level (h.shared _ _ (.refl _ _)) (h.keyed _ _ (.refl _ _)))

/-- Within its levels the executor accepts exactly when no check fails on its
    way. -/
theorem satisfies_iff {levels : Nat} (h : Comparable root schema value)
    (hwithin : Within root levels schema value) :
    Satisfies lib root levels schema value ↔ Complies root schema value := by
  -- By the levels: `Within` says there is one for each step down.
  induction levels generalizing schema value with
  | zero => cases hwithin
  | succ levels ih =>
      unfold Within at hwithin
      cases hreference : isReference schema with
      | true =>
          rw [hreference, if_pos rfl] at hwithin
          -- A reference is judged as its target, with one level less.
          rw [satisfies_reference hreference]
          constructor
          · rintro ⟨target, htarget, hsat⟩ schema' value' hmeets
            cases hmeets with
            | refl =>
                refine ⟨fun _ => Option.isSome_of_eq_some htarget, fun hplain => ?_⟩
                rw [hreference] at hplain
                cases hplain
            | ref _ htarget' hrest =>
                rw [htarget] at htarget'
                cases htarget'
                exact (ih (h.of_ref hreference htarget) (hwithin _ htarget)).mp hsat _ _ hrest
            | child hplain =>
                rw [hreference] at hplain
                cases hplain
          · intro hcomplies
            rcases Option.isSome_iff_exists.mp ((hcomplies _ _ (.refl _ _)).1 hreference) with
              ⟨target, htarget⟩
            exact ⟨target, htarget, (ih (h.of_ref hreference htarget) (hwithin _ htarget)).mpr
              (hcomplies.of_meets (.ref hreference htarget (.refl _ _)))⟩
      | false =>
          rw [hreference, if_neg Bool.false_ne_true] at hwithin
          -- A plain schema has its own checks and those of its children.
          rw [satisfies_succ h hreference]
          constructor
          · rintro ⟨hown, hchildren⟩ schema' value' hmeets
            cases hmeets with
            | refl =>
                refine ⟨fun href => ?_, fun _ => hown⟩
                rw [hreference] at href
                cases href
            | ref href =>
                rw [hreference] at href
                cases href
            | child _ hchild hrest =>
                exact (ih (h.of_child hreference hchild) (hwithin _ _ hchild)).mp
                  (hchildren _ _ hchild) _ _ hrest
          · intro hcomplies
            refine ⟨(hcomplies _ _ (.refl _ _)).2 hreference, fun child part hchild => ?_⟩
            exact (ih (h.of_child hreference hchild) (hwithin _ _ hchild)).mpr
              (hcomplies.of_meets (.child hreference hchild (.refl _ _)))

/-- Nothing objects on the common way of a reference exactly when nothing does
    on that of the schema it leads to. -/
theorem unobjected_ref (hreference : isReference schema = true)
    (htarget : resolveContractRef root schema = some target) (hend : isReference target = false) :
    (∀ s v, MeetsBoth root schema value s v → ¬ Objected root s v) ↔
      ∀ s v, MeetsBoth root target value s v → ¬ Objected root s v := by
  refine ⟨fun h s v hmeets => h s v (.ref hreference htarget hend hmeets), fun h s v hmeets => ?_⟩
  cases hmeets with
  | refl =>
      rintro (⟨_, hnone⟩ | ⟨hplain, _⟩)
      · rw [htarget] at hnone
        cases hnone
      · rw [hreference] at hplain
        cases hplain
  | ref _ htarget' _ hrest =>
      rw [htarget] at htarget'
      cases htarget'
      exact h s v hrest
  | child hplain =>
      rw [hreference] at hplain
      cases hplain

/-- Nothing objects on the common way of a level exactly when null is let
    through, or its own checks pass and nothing objects to its parts. -/
theorem unobjected_level (hreference : isReference schema = false) :
    (∀ s v, MeetsBoth root schema value s v → ¬ Objected root s v) ↔
      (value = .null ∧ isNullable schema = true) ∨ (OwnChecks schema value ∧
        ∀ child part, Child schema value child part →
          ∀ s v, MeetsBoth root child part s v → ¬ Objected root s v) := by
  by_cases hnull : value = .null ∧ isNullable schema = true
  -- A nullable null is where both validators stop, so nothing is reached below it.
  · refine iff_of_true (fun s v hmeets => ?_) (Or.inl hnull)
    cases hmeets with
    | refl =>
        rintro (⟨href, _⟩ | ⟨_, hjudged, _⟩)
        · rw [hreference] at href
          cases href
        · exact hjudged hnull
    | ref href =>
        rw [hreference] at href
        cases href
    | child _ hjudged => exact absurd hnull hjudged
  · rw [or_iff_right hnull]
    constructor
    · intro h
      -- The node itself meets both, so that its own checks not failing is part of the left
      -- side.
      refine ⟨?_, fun child part hchild s v hmeets => h s v (.child hreference hnull hchild hmeets)⟩
      by_contra hown
      exact h _ _ (.refl _ _) (Or.inr ⟨hreference, hnull, hown⟩)
    · rintro ⟨hown, hchildren⟩ s v hmeets
      cases hmeets with
      | refl =>
          rintro (⟨href, _⟩ | ⟨_, _, hfails⟩)
          · rw [hreference] at href
            cases href
          · exact hfails hown
      | ref href =>
          rw [hreference] at href
          cases href
      | child _ _ hchild hrest => exact hchildren _ _ hchild s v hrest

/-- The planner accepts exactly when nothing objects on the common way. -/
theorem accepts_iff {levels : Nat} (h : Comparable root schema value)
    (hwithin : Within root levels schema value) {levels' : Nat} (hle : levels ≤ levels') :
    Accepts root levels' schema value ↔
      ∀ s v, MeetsBoth root schema value s v → ¬ Objected root s v := by
  induction levels using Nat.strong_induction_on generalizing schema value levels' with
  | _ levels ih =>
  rcases levels with _ | levels
  · cases hwithin
  rcases levels' with _ | levels'
  · omega
  -- A level is judged alike, whether it is met itself or through a reference.
  have hlevel {schema : Value} (h : Comparable root schema value)
      (hreference : isReference schema = false) (below : Nat) (hlt : below < levels + 1)
      (hwithin : Within root (below + 1) schema value) :
      ((value = .null ∧ isNullable schema = true) ∨ (OwnChecks schema value ∧
        ∀ child part, Child schema value child part → Accepts root levels' child part)) ↔
          ∀ s v, MeetsBoth root schema value s v → ¬ Objected root s v := by
    rw [unobjected_level hreference]
    refine or_congr_right (and_congr_right' (forall₃_congr (fun child part hchild => ?_)))
    unfold Within at hwithin
    rw [hreference, if_neg Bool.false_ne_true] at hwithin
    exact ih below hlt (h.of_child hreference hchild) (hwithin child part hchild) (by omega)
  unfold Accepts refTarget
  cases hreference : isReference schema with
  | false =>
      rw [if_neg Bool.false_ne_true]
      simp only [Option.some.injEq, exists_eq_left']
      exact hlevel h hreference levels (by omega) hwithin
  | true =>
      rw [if_pos rfl]
      unfold Within at hwithin
      rw [hreference, if_pos rfl] at hwithin
      cases htarget : resolveContractRef root schema with
      | none =>
          refine iff_of_false (fun haccepts => ?_) (fun hall => ?_)
          · rcases haccepts with ⟨_, hnone, _⟩
            cases hnone
          · exact hall _ _ (.refl _ _) (Or.inl ⟨hreference, htarget⟩)
      | some target =>
          simp only [Option.some.injEq, exists_eq_left']
          have hrest := hwithin target htarget
          cases hend : isReference target with
          | true =>
              -- The planner reads a link of a chain and finds nothing in it.
              rcases (h.links _ _ (.refl _ _) hreference _ htarget hend).accepts with
                ⟨_, hown, hchild⟩
              refine iff_of_true (Or.inr ⟨hown, fun _ _ hc => absurd hc (hchild _ _)⟩)
                (fun s v hmeets => ?_)
              cases hmeets with
              | refl =>
                  rintro (⟨_, hnone⟩ | ⟨hplain, _⟩)
                  · rw [htarget] at hnone
                    cases hnone
                  · rw [hreference] at hplain
                    cases hplain
              | ref _ htarget' hplain =>
                  rw [htarget] at htarget'
                  cases htarget'
                  rw [hend] at hplain
                  cases hplain
              | child hplain =>
                  rw [hreference] at hplain
                  cases hplain
          | false =>
              rw [unobjected_ref hreference htarget hend]
              rcases levels with _ | below
              · cases hrest
              · exact hlevel (h.of_ref hreference htarget) hend below (by omega) hrest

/-- No check fails on the way of the executor exactly when none does on the
    common way and none does beyond it. -/
theorem complies_iff : Complies root schema value ↔
    (∀ s v, MeetsBoth root schema value s v → ¬ Objected root s v) ∧
      ∀ s v, MeetsBoth root schema value s v → PassedOver root s v → Complies root s v := by
  constructor
  · intro h
    refine ⟨fun s v hmeets hobjected => ?_, fun s v hmeets _ => h.of_meets hmeets.meets⟩
    rcases hobjected with ⟨hreference, hnone⟩ | ⟨hreference, _, hfails⟩
    · have hsome := (h s v hmeets.meets).1 hreference
      rw [hnone] at hsome
      cases hsome
    · exact hfails ((h s v hmeets.meets).2 hreference)
  · rintro ⟨hcommon, hbeyond⟩ s v hmeets
    -- Along the path to the node: until one is passed over, both validators walk it alike.
    induction hmeets with
    | refl schema value =>
        by_cases hover : PassedOver root schema value
        · exact hbeyond _ _ (.refl _ _) hover _ _ (.refl _ _)
        · have hnone := hcommon _ _ (.refl schema value)
          refine ⟨fun hreference => ?_, fun hreference => ?_⟩
          · rw [Option.isSome_iff_ne_none]
            exact fun h => hnone (Or.inl ⟨hreference, h⟩)
          · by_contra hfails
            exact hnone (Or.inr ⟨hreference, fun hnull => hover (Or.inl ⟨hreference, hnull⟩), hfails⟩)
    | @ref schema value target s v hreference htarget hrest ih =>
        -- The request validator follows one reference; a chain is passed over.
        cases hend : isReference target with
        | true =>
            exact hbeyond _ _ (.refl _ _) (Or.inr ⟨hreference, target, htarget, hend⟩) _ _
              (.ref hreference htarget hrest)
        | false =>
            exact ih (fun s v h => hcommon s v (.ref hreference htarget hend h))
              (fun s v h => hbeyond s v (.ref hreference htarget hend h))
    | @child schema value child part s v hreference hchild hrest ih =>
        -- It returns at a nullable null, so what is below is passed over.
        by_cases hnull : value = .null ∧ isNullable schema = true
        · exact hbeyond _ _ (.refl _ _) (Or.inl ⟨hreference, hnull⟩) _ _
            (.child hreference hchild hrest)
        · exact ih (fun s v h => hcommon s v (.child hreference hnull hchild h))
            (fun s v h => hbeyond s v (.child hreference hnull hchild h))

/-- The validators agree on a value exactly when a check that both of them make
    fails, or no check fails where the planner passes it over: at a null under a
    nullable schema, and behind a reference to a reference. -/
theorem validators_agree_iff {source : OpenApiSource} {stack : Nat} {schema value : Value}
    (h : Comparable source.document schema value) (hwithin : Within source.document 64 schema value)
    (hstack : 64 ≤ stack) (field path : Str) :
    (validateValue source stack schema value field = .ok () ↔
        validateSchemaValue lib source.document 64 schema value path [] = []) ↔
      (∃ s v, MeetsBoth source.document schema value s v ∧ Objected source.document s v) ∨
        ∀ s v, MeetsBoth source.document schema value s v → PassedOver source.document s v →
          Complies source.document s v := by
  have hempty : ([] : List Str).length < 64 := by decide
  rw [validateValue_ok stack h field, validateSchemaValue_eq_self hempty,
    accepts_iff h hwithin hstack, satisfies_iff h hwithin, complies_iff]
  -- Where both object, both refuse.
  by_cases hobjected : ∃ s v, MeetsBoth source.document schema value s v ∧
      Objected source.document s v
  · rcases hobjected with ⟨s, v, hmeets, hobjected⟩
    exact iff_of_true (iff_of_false (fun hall => hall s v hmeets hobjected)
      (fun hall => hall.1 s v hmeets hobjected)) (Or.inl ⟨s, v, hmeets, hobjected⟩)
  -- Otherwise they differ only on what the first one passes over.
  · have hnone : ∀ s v, MeetsBoth source.document schema value s v → ¬ Objected source.document s v :=
      fun s v hmeets hfails => hobjected ⟨s, v, hmeets, hfails⟩
    rw [or_iff_right hobjected]
    exact ⟨fun hagree => (hagree.mp hnone).2, fun hbeyond =>
      iff_of_true hnone ⟨hnone, hbeyond⟩⟩

end

/-! ### Evaluating the ways -/

/-- The sub-schemas of a level with their parts, as a list. -/
def childList (schema value : Value) : List (Value × Value) :=
  (((schema.get "allOf").bind Value.asArray).getD []).map (fun branch => (branch, value)) ++
    (value.asObject.getD []).filterMap (fun entry =>
      (((schema.get "properties").bind Value.asObject).bind (lookup entry.1)).map
        (fun child => (child, entry.2))) ++
    ((schema.get "items").toList.flatMap (fun items =>
      (value.asArray.getD []).map (fun part => (items, part))))

/-- The schemas on the way of the executor with their parts, if it stays within
    the levels. -/
def judgedNodes (root : Value) : Nat → Value → Value → Option (List (Value × Value))
  | 0, _, _ => none
  | levels + 1, schema, value =>
      if isReference schema then
        match resolveContractRef root schema with
        | some target => (judgedNodes root levels target value).map ((schema, value) :: ·)
        | none => some [(schema, value)]
      else ((childList schema value).mapM (fun c => judgedNodes root levels c.1 c.2)).map
        (fun below => (schema, value) :: below.flatten)

section

variable {root schema value child part schema' value' : Value}

theorem Child.mem_childList (h : Child schema value child part) :
    (child, part) ∈ childList schema value := by
  unfold childList
  rw [List.mem_append, List.mem_append]
  cases h with
  | branch hbranches hchild =>
      rw [hbranches, Option.getD_some]
      exact Or.inl (Or.inl (List.mem_map_of_mem hchild))
  | @member properties object name _ _ hproperties hobject hchild hpart =>
      refine Or.inl (Or.inr (List.mem_filterMap.mpr ⟨(name, part), ?_, ?_⟩))
      · rw [hobject]
        exact lookup_mem hpart
      · rw [hproperties, Option.bind_some, hchild]
        rfl
  | item hitems hvalues hpart =>
      rw [hitems, hvalues]
      refine Or.inr (List.mem_flatMap.mpr ⟨child, List.mem_singleton_self child, ?_⟩)
      exact List.mem_map_of_mem hpart

theorem mapM_some_forall₂ {α β : Type} {f : α → Option β} {xs : List α} {ys : List β}
    (h : xs.mapM f = some ys) : ∀ x ∈ xs, ∃ y ∈ ys, f x = some y := by
  induction xs generalizing ys with
  | nil => exact fun x hx => absurd hx List.not_mem_nil
  | cons x xs ih =>
      rw [List.mapM_cons] at h
      rcases Option.bind_eq_some_iff.mp h with ⟨y, hy, h⟩
      rcases Option.bind_eq_some_iff.mp h with ⟨rest, hrest, h⟩
      cases h
      intro x' hx'
      rcases List.mem_cons.mp hx' with rfl | hx'
      · exact ⟨y, List.mem_cons_self, hy⟩
      · rcases ih hrest x' hx' with ⟨y', hy', hf⟩
        exact ⟨y', List.mem_cons_of_mem y hy', hf⟩

/-- The way of the executor is within the levels, and its schemas are those of
    the list. -/
theorem within_of_judgedNodes {levels : Nat} {nodes : List (Value × Value)}
    (h : judgedNodes root levels schema value = some nodes) :
    Within root levels schema value ∧
      ∀ s v, Meets root schema value s v → (s, v) ∈ nodes := by
  -- The list is made by the same recursion as `Within`.
  induction levels generalizing schema value nodes with
  | zero => cases h
  | succ levels ih =>
      unfold judgedNodes at h
      unfold Within
      cases hreference : isReference schema with
      | true =>
          rw [hreference, if_pos rfl] at h
          rw [if_pos rfl]
          cases htarget : resolveContractRef root schema with
          -- A reference that leads nowhere is a node without others below.
          | none =>
              rw [htarget] at h
              cases h
              refine ⟨fun _ h => (by cases h), fun s v hmeets => ?_⟩
              cases hmeets with
              | refl => exact List.mem_cons_self
              | ref _ htarget' =>
                  rw [htarget] at htarget'
                  cases htarget'
              | child hplain =>
                  rw [hreference] at hplain
                  cases hplain
          | some target =>
              rw [htarget] at h
              rcases Option.map_eq_some_iff.mp h with ⟨below, hbelow, rfl⟩
              rcases ih hbelow with ⟨hwithin, hmem⟩
              refine ⟨fun target' h => ?_, fun s v hmeets => ?_⟩
              · cases h
                exact hwithin
              · cases hmeets with
                | refl => exact List.mem_cons_self
                | ref _ htarget' hrest =>
                    rw [htarget] at htarget'
                    cases htarget'
                    exact List.mem_cons_of_mem _ (hmem s v hrest)
                | child hplain =>
                    rw [hreference] at hplain
                    cases hplain
      | false =>
          rw [hreference, if_neg Bool.false_ne_true] at h
          rw [if_neg Bool.false_ne_true]
          rcases Option.map_eq_some_iff.mp h with ⟨below, hbelow, rfl⟩
          -- Below a plain schema there is a list of nodes for each child.
          have hpart {child part : Value} (hchild : Child schema value child part) :
              ∃ nodes ∈ below, judgedNodes root levels child part = some nodes :=
            mapM_some_forall₂ hbelow _ hchild.mem_childList
          refine ⟨fun child part hchild => ?_, fun s v hmeets => ?_⟩
          · rcases hpart hchild with ⟨nodes, _, hnodes⟩
            exact (ih hnodes).1
          · cases hmeets with
            | refl => exact List.mem_cons_self
            | ref href =>
                rw [hreference] at href
                cases href
            | child _ hchild hrest =>
                rcases hpart hchild with ⟨nodes, hmem, hnodes⟩
                exact List.mem_cons_of_mem _
                  (List.mem_flatten.mpr ⟨nodes, hmem, (ih hnodes).2 s v hrest⟩)

/-- What is asked of a schema on the way and of its part, evaluated. -/
def comparableNode (root schema value : Value) : Bool :=
  let properties := (schema.get "properties").bind Value.asObject
  responseKeywords.all (fun keyword => (schema.get keyword).isNone) &&
    decide ((schema.get "format").bind Value.asStr ≠ some "binary".toList) &&
    (properties.getD []).all (fun property => !isReadOnly properties property.1) &&
    decide ((properties.getD []).map Prod.fst).Nodup &&
    decide ((value.asObject.getD []).map Prod.fst).Nodup &&
    (!isReference schema || (resolveContractRef root schema).all (fun target =>
      !isReference target || linkKeywords.all (fun keyword => (target.get keyword).isNone)))

theorem comparable_of_judgedNodes {levels : Nat} {nodes : List (Value × Value)}
    (h : judgedNodes root levels schema value = some nodes)
    (hnodes : nodes.all (fun c => comparableNode root c.1 c.2) = true) :
    Comparable root schema value := by
  -- Every node that is met is in the list, so the check of the list covers it.
  have hnode {s v : Value} (hmeets : Meets root schema value s v) : comparableNode root s v = true :=
    List.all_eq_true.mp hnodes (s, v) ((within_of_judgedNodes h).2 s v hmeets)
  unfold comparableNode at hnode
  simp only [Bool.and_eq_true, decide_eq_true_eq, List.all_eq_true, Option.isNone_iff_eq_none,
    Bool.not_eq_true', Bool.or_eq_true] at hnode
  refine ⟨fun s v hmeets => ?_, fun s v hmeets => ?_, fun s v hmeets href target htarget hlink => ?_⟩
  -- The schema shares its keywords.
  · rcases hnode hmeets with ⟨⟨⟨⟨⟨hresponse, hupload⟩, hwritable⟩, _⟩, _⟩, _⟩
    refine ⟨hresponse, hupload, fun name => ?_⟩
    cases hproperties : (s.get "properties").bind Value.asObject with
    | none => rfl
    | some properties =>
        rw [hproperties, Option.getD_some] at hwritable
        cases hlookup : lookup name properties with
        | none =>
            unfold isReadOnly
            rw [Option.bind_some, hlookup]
            rfl
        | some property => exact hwritable (name, property) (lookup_mem hlookup)
  -- Both the properties and the members are keyed.
  · rcases hnode hmeets with ⟨⟨⟨_, hproperties⟩, hmembers⟩, _⟩
    refine ⟨fun properties h => ?_, fun object h => ?_⟩
    · rwa [h, Option.getD_some] at hproperties
    · rwa [h, Option.getD_some] at hmembers
  -- A reference to another one has no keywords beside it.
  · rcases (hnode hmeets).2 with hplain | hall
    · rw [href] at hplain
      cases hplain
    · rw [htarget, Option.all_some, Bool.or_eq_true, hlink, Bool.not_true,
        or_iff_right Bool.false_ne_true, List.all_eq_true] at hall
      exact fun keyword hkeyword => Option.isNone_iff_eq_none.mp (hall keyword hkeyword)

/-- What a level checks itself, evaluated. -/
def ownCheck (schema value : Value) : Bool :=
  let object := value.asObject.getD []
  ((schema.get "enum").bind Value.asArray).all (fun values => values.contains value) &&
    ((contractTypes schema).isEmpty || (contractTypes schema).any (hasType value)) &&
    (value.asObject.isNone ||
      ((((schema.get "required").bind Value.asArray).getD []).filterMap Value.asStr).all
        (fun name => (lookup name object).isSome)) &&
    (decide (schema.get "additionalProperties" ≠ some (.bool false)) ||
      object.all (fun entry => ((schema.get "properties").bind Value.asObject).any
        (fun properties => (lookup entry.1 properties).isSome)))

theorem ownChecks_of_ownCheck (h : ownCheck schema value = true) : OwnChecks schema value := by
  unfold ownCheck at h
  simp only [Bool.and_eq_true, Bool.or_eq_true, decide_eq_true_eq, List.all_eq_true,
    List.isEmpty_iff, List.any_eq_true] at h
  rcases h with ⟨⟨⟨henum, htype⟩, hrequired⟩, hadditional⟩
  refine ⟨fun values hvalues => ?_, htype, fun names object hnames hobject name hname => ?_,
    fun hdenied object hobject name hname => ?_⟩
  · rw [hvalues, Option.all_some] at henum
    exact List.contains_iff_mem.mp henum
  · rw [hobject, hnames] at hrequired
    exact (hrequired.resolve_left Bool.false_ne_true) name hname
  · rcases List.mem_map.mp hname with ⟨entry, hentry, rfl⟩
    rw [hobject] at hadditional
    rcases (Option.any_eq_true _ _).mp ((hadditional.resolve_left (fun h => h hdenied)) entry hentry) with
      ⟨properties, hproperties, hsome⟩
    exact ⟨properties, hproperties, hsome⟩

theorem complies_of_judgedNodes {levels : Nat} {nodes : List (Value × Value)}
    (h : judgedNodes root levels schema value = some nodes)
    (hnodes : nodes.all (fun c => if isReference c.1 then (resolveContractRef root c.1).isSome
      else ownCheck c.1 c.2) = true) : Complies root schema value := by
  intro s v hmeets
  have hnode := List.all_eq_true.mp hnodes (s, v) ((within_of_judgedNodes h).2 s v hmeets)
  dsimp only at hnode
  constructor
  · intro href
    rwa [if_pos href] at hnode
  · intro hplain
    rw [hplain, if_neg Bool.false_ne_true] at hnode
    exact ownChecks_of_ownCheck hnode

end

/-- Two schemas of which the first is a reference to the second. -/
def chainedDocument : Value :=
  jsonObject [("components", jsonObject [("schemas", jsonObject [
    ("Alias", jsonObject [("$ref", .string "#/components/schemas/Text")]),
    ("Text", jsonObject [("type", .string "string")])])])]

/-- A person with a name behind a chain of references, and a note that may be
    null. -/
def personSchema : Value :=
  jsonObject [("properties", jsonObject [
      ("name", jsonObject [("$ref", .string "#/components/schemas/Alias")]),
      ("note", jsonObject [("nullable", .bool true),
        ("type", .array [.string "string", .string "null"])])]),
    ("required", .array [.string "name"]), ("type", .string "object")]

def person : Value := jsonObject [("name", .string "Ada"), ("note", .null)]

/-- A text, and a text that may be null. -/
def textBranches : Value :=
  jsonObject [("allOf", .array [jsonObject [("type", .string "string")],
    jsonObject [("nullable", .bool true), ("type", .string "string")]])]

/-- The validators agree on a person, of whom they accept every part, and on
    null for a text, which the first branch refuses in both. -/
theorem person_agrees :
    (validateValue ⟨chainedDocument, [], []⟩ 64 personSchema person "body" = .ok () ↔
      validateSchemaValue referenceCrates chainedDocument 64 personSchema person "$" [] = []) ∧
    (validateValue ⟨chainedDocument, [], []⟩ 64 textBranches .null "body" = .ok () ↔
      validateSchemaValue referenceCrates chainedDocument 64 textBranches .null "$" [] = []) := by
  constructor
  · have hnodes : (judgedNodes chainedDocument 64 personSchema person).any (fun nodes =>
        nodes.all (fun c => comparableNode chainedDocument c.1 c.2) &&
          nodes.all (fun c => if isReference c.1 then (resolveContractRef chainedDocument c.1).isSome
            else ownCheck c.1 c.2)) = true := by decide +kernel
    rcases (Option.any_eq_true _ _).mp hnodes with ⟨nodes, hjudged, hall⟩
    rw [Bool.and_eq_true] at hall
    have hcomparable : Comparable chainedDocument personSchema person :=
      comparable_of_judgedNodes hjudged hall.1
    have hwithin : Within chainedDocument 64 personSchema person := (within_of_judgedNodes hjudged).1
    have hcomplies : Complies chainedDocument personSchema person :=
      complies_of_judgedNodes hjudged hall.2
    -- No check fails anywhere, so none fails where the planner passes it over.
    have hiff := @validators_agree_iff referenceCrates ⟨chainedDocument, [], []⟩ 64 personSchema
      person hcomparable hwithin (Nat.le_refl 64) "body" "$"
    exact hiff.mpr (Or.inr (complies_iff.mp hcomplies).2)
  · have hnodes : (judgedNodes chainedDocument 64 textBranches .null).any (fun nodes =>
        nodes.all (fun c => comparableNode chainedDocument c.1 c.2)) = true := by decide +kernel
    rcases (Option.any_eq_true _ _).mp hnodes with ⟨nodes, hjudged, hall⟩
    have hbranches : (textBranches.get "allOf").bind Value.asArray =
        some [jsonObject [("type", .string "string")],
          jsonObject [("nullable", .bool true), ("type", .string "string")]] := rfl
    have hcomparable : Comparable chainedDocument textBranches .null :=
      comparable_of_judgedNodes hjudged hall
    have hwithin : Within chainedDocument 64 textBranches .null := (within_of_judgedNodes hjudged).1
    have hiff := @validators_agree_iff referenceCrates ⟨chainedDocument, [], []⟩ 64 textBranches
      .null hcomparable hwithin (Nat.le_refl 64) "body" "$"
    -- The branch that both of them judge refuses null.
    refine hiff.mpr (Or.inl ⟨jsonObject [("type", .string "string")], .null, ?_, Or.inr ⟨rfl, ?_, ?_⟩⟩)
    · exact .child rfl (by decide) (.branch hbranches List.mem_cons_self) (.refl _ _)
    · decide
    · intro hown
      rcases hown.type with hnone | ⟨kind, hkind, htype⟩
      · cases hnone
      · rcases List.mem_singleton.mp hkind
        cases htype

/-- The planner lets a boolean pass through a chain of references to a text, and
    null pass for a nullable text; the executor objects to both. -/
theorem validators_differ :
    (validateValue ⟨chainedDocument, [], []⟩ 64
        (jsonObject [("$ref", .string "#/components/schemas/Alias")]) (.bool true) "body" = .ok () ∧
      validateSchemaValue referenceCrates chainedDocument 64
        (jsonObject [("$ref", .string "#/components/schemas/Alias")]) (.bool true) "$" [] ≠ []) ∧
    validateValue ⟨chainedDocument, [], []⟩ 64
        (jsonObject [("nullable", .bool true), ("type", .string "string")]) .null "body" = .ok () ∧
      validateSchemaValue referenceCrates chainedDocument 64
        (jsonObject [("nullable", .bool true), ("type", .string "string")]) .null "$" [] ≠ [] := by
  refine ⟨⟨rfl, ?_⟩, rfl, ?_⟩
  · decide +kernel
  · decide +kernel

end Kahea
