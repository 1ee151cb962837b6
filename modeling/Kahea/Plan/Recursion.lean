import Mathlib.Data.List.ProdSigma
import Kahea.Base.Calls
import Kahea.Base.Parts
import Kahea.Plan.Inputs

/-!
# Recursion of the Schema Check

When the schema check of the planner returns.

The planner checks a value against a schema by calling itself on the members
and items of the value, and on the same value for the branches of an `allOf`.
References are followed in between and nothing counts the calls, so that a
schema that is a branch of itself is checked without end. `validationSteps`
lists what one activation does, and `outcome_validateValue` identifies the
check with the sequential calls of these steps. Only parts of the schema, of
the document and of the value are ever met, which are finitely many, so that
the check returns exactly when nothing it meets leads back to itself
(`validation_terminates_iff`). Such a way back cannot pass a member or an item,
because the value gets smaller there.

## Main definitions

* `validationSteps`: What one activation of the check does.
* `CallsItself`: A schema that leads back to itself for one value.

## Theorems

* `outcome_validateValue`: The check is a sequence of calls.
* `validation_terminates_iff`: When it returns.
-/

namespace Kahea

/-! ### The steps of the check -/

/-- The branches of an `allOf`, checked on the same value. -/
def branchCalls (schema value : Value) : List (Step (Value × Value)) :=
  (((schema.get "allOf").bind Value.asArray).getD []).map (fun child => .call (child, value))

/-- The members of an object, each checked against its property. -/
def memberSteps (schema value : Value) : List (Step (Value × Value)) :=
  match value.asObject with
  | some object => [.check (validateRequired schema object []).isOk] ++ object.map (fun entry =>
      match ((schema.get "properties").bind Value.asObject).bind (lookup entry.1) with
      | some child => .call (child, entry.2)
      | none => .check (schema.get "additionalProperties" ≠ some (.bool false)))
  | none => []

/-- The items of an array. -/
def itemCalls (schema value : Value) : List (Step (Value × Value)) :=
  match value.asArray, schema.get "items" with
  | some values, some items => values.map (fun item => .call (items, item))
  | _, _ => []

/-- What the check of a schema and a value does, given what the schema refers
    to. -/
def schemaSteps (schema value : Value) : List (Step (Value × Value)) :=
  match uploadDescriptor schema value with
  | some file => [.check (validateUpload file []).isOk]
  | none =>
    if value = .null ∧ ((schema.get "nullable").bind Value.asBool).getD false = true then []
    else branchCalls schema value ++ ([.check (validateEnum schema value []).isOk] ++
      ([.check (validateType schema value []).isOk] ++
        (memberSteps schema value ++ itemCalls schema value)))

/-- What one activation of the check does. -/
def validationSteps (source : OpenApiSource) (c : Value × Value) : List (Step (Value × Value)) :=
  match resolveSchema source c.1 [] with
  | .ok schema => schemaSteps schema c.2
  | .error _ => [.check false]

/-! ### The check as a sequence of calls -/

/-- How a check ends: it passes, it fails, or the stack is too short. -/
def outcome : Except PlanError Unit → Option Bool
  | .ok _ => some true
  | .error .stackOverflow => none
  | .error _ => some false

/-- A check, then another one. -/
theorem outcome_bind (a b : Except PlanError Unit) :
    outcome (do a; b) = (outcome a).bind (fun passes => if passes then outcome b else some false) := by
  cases a with
  | ok _ => rfl
  | error e => cases e <;> rfl

theorem isOk_ensure {condition : Bool} {e : PlanError} :
    (ensure condition e).isOk = condition := by
  cases condition <;> rfl

/-- A test has no result only when it fails for want of a stack. -/
theorem outcome_ensure {condition : Bool} {e e' : PlanError} (h : e ≠ .stackOverflow) :
    outcome (ensure condition e) = some (ensure condition e').isOk := by
  cases condition with
  | true => rfl
  | false => cases e <;> first | rfl | exact absurd rfl h

section

variable {call : Value × Value → Option Bool}

/-- Checks in two parts. -/
theorem outcome_append {a b : Except PlanError Unit} {before after : List (Step (Value × Value))}
    (ha : outcome a = runSteps call before) (hb : outcome b = runSteps call after) :
    outcome (do a; b) = runSteps call (before ++ after) := by
  rw [outcome_bind, ha, hb, runSteps_append]

/-- A loop of checks. -/
theorem outcome_forM {α : Type} {f : α → Except PlanError Unit} {g : α → Step (Value × Value)}
    {xs : List α} (h : ∀ x ∈ xs, outcome (f x) = runSteps call [g x]) :
    outcome (xs.forM f) = runSteps call (xs.map g) := by
  induction xs with
  | nil => rfl
  | cons x xs ih =>
      exact outcome_append (h x List.mem_cons_self) (ih (fun y hy => h y (List.mem_cons_of_mem x hy)))

end

theorem outcome_validateUpload {file : List (Str × Value)} {field : Str} :
    outcome (validateUpload file field) = some (validateUpload file []).isOk := by
  unfold validateUpload
  split
  · rfl
  · exact outcome_ensure (fun h => by cases h)

theorem outcome_validateEnum {schema value : Value} {field : Str} :
    outcome (validateEnum schema value field) = some (validateEnum schema value []).isOk := by
  unfold validateEnum
  split
  · exact outcome_ensure (fun h => by cases h)
  · rfl

theorem outcome_validateType {schema value : Value} {field : Str} :
    outcome (validateType schema value field) = some (validateType schema value []).isOk :=
  outcome_ensure (fun h => by cases h)

theorem outcome_validateRequired {schema : Value} {object : List (Str × Value)} {field : Str} :
    outcome (validateRequired schema object field) =
      some (validateRequired schema object []).isOk := by
  unfold validateRequired
  dsimp only
  split <;> rfl

/-- The field only names the error. -/
theorem resolveSchema_cases (source : OpenApiSource) (schema : Value) (field : Str) :
    (∃ target, resolveSchema source schema field = .ok target ∧
      resolveSchema source schema [] = .ok target) ∨
    ∃ e e', resolveSchema source schema field = .error e ∧ outcome (.error e) = some false ∧
      resolveSchema source schema [] = .error e' := by
  unfold resolveSchema
  cases (schema.get "$ref").bind Value.asStr with
  | none => exact Or.inl ⟨schema, rfl, rfl⟩
  | some reference =>
      dsimp only
      cases resolveRef source reference with
      | none => exact Or.inr ⟨_, _, rfl, rfl, rfl⟩
      | some target => exact Or.inl ⟨target, rfl, rfl⟩

/-- The check of the planner is the sequence of calls its steps describe. -/
theorem outcome_validateValue (source : OpenApiSource) (stack : Nat) (schema value : Value)
    (field : Str) : outcome (validateValue source stack schema value field) =
      runCalls (validationSteps source) stack (schema, value) := by
  -- By the levels; what is compared are the calls one level makes.
  induction stack generalizing schema value field with
  | zero => rfl
  | succ stack ih =>
      have hcall (child part : Value) (path : Str) :
          outcome (validateValue source stack child part path) =
            runSteps (runCalls (validationSteps source) stack) [.call (child, part)] :=
        (ih child part path).trans (runSteps_call _).symm
      unfold validateValue
      change _ = runSteps (runCalls (validationSteps source) stack)
        (match resolveSchema source schema [] with
          | .ok schema => schemaSteps schema value
          | .error _ => [.check false])
      rcases resolveSchema_cases source schema field with
        ⟨target, htarget, htarget'⟩ | ⟨e, e', he, hfails, he'⟩
      · rw [htarget, htarget']
        change outcome (match uploadDescriptor target value with
          | some file => validateUpload file field
          | none => _) = runSteps _ (schemaSteps target value)
        unfold schemaSteps
        -- An upload and a nullable null make none.
        cases uploadDescriptor target value with
        | some file => exact outcome_validateUpload.trans (runSteps_check _).symm
        | none =>
            dsimp only
            by_cases hnull : value = .null ∧ ((target.get "nullable").bind Value.asBool).getD false = true
            · rw [if_pos hnull, if_pos hnull]
              rfl
            · rw [if_neg hnull, if_neg hnull]
              have hitems : outcome (match value.asArray, target.get "items" with
                  | some values, some items => values.zipIdx.forM (fun entry =>
                      validateValue source stack items entry.1
                        (field ++ '[' :: decimal entry.2 ++ "]".toList))
                  | _, _ => .ok ()) =
                    runSteps (runCalls (validationSteps source) stack) (itemCalls target value) := by
                unfold itemCalls
                cases value.asArray with
                | none => rfl
                | some values =>
                    cases target.get "items" with
                    | none => rfl
                    | some items =>
                        have hvalues : values.map (fun item => Step.call (items, item)) =
                            values.zipIdx.map (fun entry => Step.call (items, entry.1)) := by
                          conv_lhs => rw [← List.zipIdx_map_fst 0 values, List.map_map]
                          rfl
                        dsimp only
                        rw [hvalues]
                        exact outcome_forM (fun entry _ => hcall items entry.1 _)
              -- The branches first, then the checks, the members and the items.
              refine outcome_append (outcome_forM (fun child _ => hcall child value field))
                (outcome_append (outcome_validateEnum.trans (runSteps_check _).symm)
                  (outcome_append (outcome_validateType.trans (runSteps_check _).symm) ?_))
              unfold memberSteps
              cases value.asObject with
              | none => exact @outcome_append _ (.ok ()) _ [] _ rfl hitems
              | some object =>
                  dsimp only
                  rw [List.append_assoc]
                  refine outcome_append (outcome_validateRequired.trans (runSteps_check _).symm)
                    (outcome_append (outcome_forM (fun entry _ => ?_)) hitems)
                  cases ((target.get "properties").bind Value.asObject).bind (lookup entry.1) with
                  | none =>
                      rw [runSteps_check]
                      exact (@outcome_ensure _ (.unknownInput _) (.unknownInput [])
                        (fun h => by cases h)).trans (congrArg some isOk_ensure)
                  | some child => exact hcall child entry.2 _
      · rw [he, he']
        exact hfails

/-- An outcome is known unless the stack ran out. -/
theorem outcome_isSome {r : Except PlanError Unit} :
    (outcome r).isSome ↔ r ≠ .error .stackOverflow := by
  cases r with
  | ok _ => simp [outcome]
  | error e => cases e <;> simp [outcome]

/-! ### What the check meets -/

section

variable {source : OpenApiSource} {schema target value child part : Value}

/-- A branch is asked of the same value. -/
theorem call_mem_branchCalls (h : .call (child, part) ∈ branchCalls target value) :
    child ∈ target.parts ∧ part = value := by
  rcases List.mem_map.mp h with ⟨branch, hbranch, heq⟩
  cases heq
  refine ⟨?_, rfl⟩
  cases hall : (target.get "allOf").bind Value.asArray with
  | none =>
      rw [hall] at hbranch
      exact absurd hbranch List.not_mem_nil
  | some branches =>
      rw [hall] at hbranch
      rcases Option.bind_eq_some_iff.mp hall with ⟨list, hget, harray⟩
      exact target.parts_trans (mem_parts_of_get hget) (mem_parts_of_item harray hbranch).1

/-- A property is asked of a smaller value. -/
theorem call_mem_memberSteps (h : .call (child, part) ∈ memberSteps target value) :
    child ∈ target.parts ∧ part ∈ value.parts ∧ sizeOf part < sizeOf value := by
  unfold memberSteps at h
  cases hobject : value.asObject with
  | none =>
      rw [hobject] at h
      exact absurd h List.not_mem_nil
  | some object =>
      rw [hobject] at h
      rcases List.mem_append.mp h with h | h
      · exact nomatch List.mem_singleton.mp h
      · rcases List.mem_map.mp h with ⟨entry, hentry, heq⟩
        -- Only a member with a declared property is validated.
        cases hchild : ((target.get "properties").bind Value.asObject).bind (lookup entry.1) with
        | none =>
            rw [hchild] at heq
            exact nomatch heq
        | some found =>
            rw [hchild] at heq
            cases heq
            rcases Option.bind_eq_some_iff.mp hchild with ⟨properties, hproperties, hlookup⟩
            rcases Option.bind_eq_some_iff.mp hproperties with ⟨list, hget, hlist⟩
            exact ⟨target.parts_trans (mem_parts_of_get hget)
              (mem_parts_of_member hlist (lookup_mem hlookup)).1, mem_parts_of_member hobject hentry⟩

/-- An item is a smaller value. -/
theorem call_mem_itemCalls (h : .call (child, part) ∈ itemCalls target value) :
    child ∈ target.parts ∧ part ∈ value.parts ∧ sizeOf part < sizeOf value := by
  unfold itemCalls at h
  cases harray : value.asArray with
  | none =>
      rw [harray] at h
      exact absurd h List.not_mem_nil
  | some values =>
      cases hget : target.get "items" with
      | none =>
          rw [harray, hget] at h
          exact absurd h List.not_mem_nil
      | some items =>
          rw [harray, hget] at h
          rcases List.mem_map.mp h with ⟨item, hitem, heq⟩
          cases heq
          exact ⟨mem_parts_of_get hget, mem_parts_of_item harray hitem⟩

/-- A call is about a part of the schema, and about the value or something
    smaller inside it. -/
theorem call_mem_schemaSteps (h : .call (child, part) ∈ schemaSteps target value) :
    child ∈ target.parts ∧ (part = value ∨ part ∈ value.parts ∧ sizeOf part < sizeOf value) := by
  unfold schemaSteps at h
  cases hupload : uploadDescriptor target value with
  | some file =>
      rw [hupload] at h
      exact nomatch List.mem_singleton.mp h
  | none =>
      rw [hupload] at h
      dsimp only at h
      split_ifs at h
      · exact absurd h List.not_mem_nil
      -- The call is of a branch, a member or an item.
      · rcases List.mem_append.mp h with h | h
        · rcases call_mem_branchCalls h with ⟨hchild, hpart⟩
          exact ⟨hchild, Or.inl hpart⟩
        · rcases List.mem_append.mp h with h | h
          · exact nomatch List.mem_singleton.mp h
          · rcases List.mem_append.mp h with h | h
            · exact nomatch List.mem_singleton.mp h
            · rcases List.mem_append.mp h with h | h
              · rcases call_mem_memberSteps h with ⟨hchild, hpart⟩
                exact ⟨hchild, Or.inr hpart⟩
              · rcases call_mem_itemCalls h with ⟨hchild, hpart⟩
                exact ⟨hchild, Or.inr hpart⟩

/-- Every call stays among the parts of the schema, the document and the value. -/
theorem calls_parts (h : Calls (validationSteps source) (schema, value) (child, part)) :
    (child ∈ schema.parts ∨ child ∈ source.document.parts) ∧
      (part = value ∨ part ∈ value.parts ∧ sizeOf part < sizeOf value) := by
  -- The call is one of the steps of the target.
  rcases h with ⟨before, after, hsteps, _⟩
  have hmem : .call (child, part) ∈ validationSteps source (schema, value) := by
    rw [hsteps]
    exact List.mem_append_right before List.mem_cons_self
  unfold validationSteps at hmem
  cases hresolve : resolveSchema source schema [] with
  | error e => simp [hresolve] at hmem
  | ok target =>
      rw [hresolve] at hmem
      rcases call_mem_schemaSteps hmem with ⟨hchild, hpart⟩
      refine ⟨?_, hpart⟩
      unfold resolveSchema at hresolve
      -- A reference leads into the document, otherwise the schema is its own target.
      cases hreference : (schema.get "$ref").bind Value.asStr with
      | none =>
          rw [hreference] at hresolve
          cases hresolve
          exact Or.inl hchild
      | some reference =>
          rw [hreference] at hresolve
          dsimp only at hresolve
          cases hfound : resolveRef source reference with
          | none => simp [hfound] at hresolve
          | some found =>
              rw [hfound] at hresolve
              cases hresolve
              rcases Option.bind_eq_some_iff.mp hfound with ⟨pointer, _, hpointer⟩
              exact Or.inr (Value.parts_trans _ (mem_parts_of_pointer hpointer) hchild)

/-- Only parts of the schema, of the document and of the value are met. -/
theorem met_finite (source : OpenApiSource) (schema value : Value) :
    {c | Relation.ReflTransGen (Calls (validationSteps source)) (schema, value) c}.Finite := by
  -- All that is met are parts of the schema, the document and the value.
  refine Set.Finite.subset (((schema.parts ++ source.document.parts).product
    value.parts).finite_toSet) (fun c hc => ?_)
  induction hc with
  | refl =>
      exact List.mem_product.mpr ⟨List.mem_append_left _ schema.mem_parts_self, value.mem_parts_self⟩
  | @tail c d _ hcall ih =>
      rcases c with ⟨s, v⟩
      rcases d with ⟨t, w⟩
      rcases List.mem_product.mp ih with ⟨hs, hv⟩
      rcases calls_parts hcall with ⟨ht, hw⟩
      refine List.mem_product.mpr ⟨?_, ?_⟩
      · rcases ht with ht | ht
        · rcases List.mem_append.mp hs with hs | hs
          · exact List.mem_append_left _ (schema.parts_trans hs ht)
          · exact List.mem_append_right _ (Value.parts_trans _ hs ht)
        · exact List.mem_append_right _ ht
      · rcases hw with rfl | ⟨hw, _⟩
        · exact hv
        · exact value.parts_trans hv hw

/-- The check of the schema on a value leads back to itself on the same value,
    which it can through `allOf` and references alone. -/
def CallsItself (source : OpenApiSource) (value schema : Value) : Prop :=
  Relation.TransGen (fun s t => Calls (validationSteps source) (s, value) (t, value)) schema schema

/-- A chain of calls ends with something smaller, or stays on the same value all
    the way. -/
theorem transGen_calls {c d : Value × Value}
    (h : Relation.TransGen (Calls (validationSteps source)) c d) : sizeOf d.2 < sizeOf c.2 ∨
      d.2 = c.2 ∧ Relation.TransGen
        (fun s t => Calls (validationSteps source) (s, c.2) (t, c.2)) c.1 d.1 := by
  -- Along the calls: the value gets smaller, or it stays and the schema moves on.
  induction h with
  | @single d hcall =>
      rcases d with ⟨t, w⟩
      rcases (calls_parts hcall).2 with rfl | ⟨_, hlt⟩
      · exact Or.inr ⟨rfl, Relation.TransGen.single hcall⟩
      · exact Or.inl hlt
  | @tail d e _ hcall ih =>
      rcases d with ⟨t, w⟩
      rcases e with ⟨u, x⟩
      rcases (calls_parts hcall).2 with rfl | ⟨_, hlt⟩
      · rcases ih with ih | ⟨heq, ih⟩
        · exact Or.inl ih
        · dsimp only at heq
          subst heq
          exact Or.inr ⟨rfl, ih.tail hcall⟩
      · refine Or.inl ?_
        rcases ih with ih | ⟨heq, _⟩
        · exact Nat.lt_trans hlt ih
        · dsimp only at heq hlt ⊢
          rwa [← heq]

end

/-- The schema check of the planner returns exactly when no schema it meets
    leads back to itself on the value it is checked with. -/
theorem validation_terminates_iff (source : OpenApiSource) (schema value : Value) (field : Str) :
    (∃ stack, validateValue source stack schema value field ≠ .error .stackOverflow) ↔
      ¬ ∃ s v, Relation.ReflTransGen (Calls (validationSteps source)) (schema, value) (s, v) ∧
        CallsItself source v s := by
  have hends (stack : Nat) : validateValue source stack schema value field ≠ .error .stackOverflow ↔
      (runCalls (validationSteps source) stack (schema, value)).isSome := by
    rw [← outcome_isSome, outcome_validateValue]
  simp only [hends]
  rw [runCalls_isSome_iff_acyclic (met_finite source schema value)]
  refine not_congr ?_
  constructor
  · rintro ⟨⟨s, v⟩, hmet, hcycle⟩
    rcases transGen_calls hcycle with hlt | ⟨_, hsame⟩
    · exact absurd hlt (Nat.lt_irrefl _)
    · exact ⟨s, v, hmet, hsame⟩
  · rintro ⟨s, v, hmet, hcycle⟩
    refine ⟨(s, v), hmet, ?_⟩
    exact hcycle.lift (fun s => (s, v)) (fun _ _ hcall => hcall)

/-- A schema that is a branch of itself. -/
def selfBranch : Value :=
  jsonObject [("allOf", .array [jsonObject [("$ref", .string "#/components/schemas/Node")]])]

/-- A document with that schema as a component. -/
def selfBranchSource : OpenApiSource :=
  ⟨jsonObject [("components", jsonObject [("schemas", jsonObject [("Node", selfBranch)])])], [], []⟩

/-- Whatever the stack, checking null against the schema overflows it. -/
theorem validation_endless : ¬ ∀ (source : OpenApiSource) (schema value : Value) (field : Str),
    ∃ stack, validateValue source stack schema value field ≠ .error .stackOverflow := by
  intro h
  rcases h selfBranchSource (jsonObject [("$ref", .string "#/components/schemas/Node")]) .null "body"
    with ⟨stack, hstack⟩
  have hsteps : validationSteps selfBranchSource
      (jsonObject [("$ref", .string "#/components/schemas/Node")], .null) =
        [.call (jsonObject [("$ref", .string "#/components/schemas/Node")], .null), .check true,
          .check true] := by
    decide +kernel
  have hcall := (⟨[], _, hsteps, fun _ hstep => absurd hstep List.not_mem_nil⟩ :
    Calls (validationSteps selfBranchSource)
      (jsonObject [("$ref", .string "#/components/schemas/Node")], .null)
      (jsonObject [("$ref", .string "#/components/schemas/Node")], .null))
  have hends := (outcome_isSome.mpr hstack)
  rw [outcome_validateValue] at hends
  exact not_transGen_self_of_acc (runCalls_isSome_iff.mp ⟨stack, hends⟩)
    (Relation.TransGen.single hcall)

end Kahea
