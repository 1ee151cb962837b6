import Kahea.Plan.Request

/-!
# Planning without References

What a plan depends on besides the operation it is for.

The planner reads the document around an operation in four places: the absences
of the document, its default servers and security requirements, its security
schemes, and the targets of references. An operation that has no references can
therefore be planned wherever a like one could, in a document that has its
default servers, offers the authentication that is asked for, and blocks nothing
that the first does not.

## Main definitions

* `Eff.Extends`: A program that succeeds wherever another does, and as it does.
* `Eff.Follows`: A program that succeeds wherever another does.
* `refFree`: A value without references.
* `Carries`: A document carries over the planning of an operation.

## Theorems

* `validateValue_refFree`: Such a schema is read without the document.
* `planParts_follows`, `plan_of_carries`: Planning carries over.
-/

namespace Kahea

/-! ### Programs that extend others -/

namespace Eff

variable {ω ε α β γ : Type} {m m' : Eff ω ε α} {f f' : α → Eff ω ε β}

/-- Where the first program succeeds the second does the same. -/
def Extends (m m' : Eff ω ε α) : Prop := ∀ h a, (m h).1 = .ok a → m' h = m h

/-- A run extends itself. -/
theorem Extends.refl (m : Eff ω ε α) : Extends m m := fun _ _ _ => rfl

/-- Pure steps, by what they return. -/
theorem Extends.ofExcept {x x' : Except ε α} (h : ∀ a, x = .ok a → x' = .ok a) :
    Extends (ofExcept x : Eff ω ε α) (ofExcept x') := by
  intro past a ha
  have hx : x = .ok a := ha
  rw [hx, h a hx]

/-- Where the first program succeeds the second succeeds as well. -/
def Follows (m m' : Eff ω ε α) : Prop :=
  ∀ past, (∃ a, (m past).1 = .ok a) → ∃ a, (m' past).1 = .ok a

/-- The second parts matter only where the first returns. -/
theorem Follows.bind (hm : Extends m m') (hf : ∀ a, Follows (f a) (f' a)) :
    Follows (m >>= f) (m' >>= f') := by
  rintro past ⟨b, hb⟩
  rcases bind_ok hb with ⟨a, ha, hnext⟩
  have hsame := hm past a ha
  have ha' : (m' past).1 = .ok a := by rw [hsame, ha]
  rcases hf a _ ⟨b, hnext⟩ with ⟨b', hb'⟩
  rw [bind_of_ok ha', hsame]
  exact ⟨b', hb'⟩

/-- Two pure steps may succeed with different values. -/
theorem Follows.ofExcept_bind {x : Except ε α} {x' : Except ε γ} {g : γ → Eff ω ε β}
    (h : ∀ a, x = .ok a → ∃ a', x' = .ok a' ∧ Follows (f a) (g a')) :
    Follows (ofExcept x >>= f) (ofExcept x' >>= g) := by
  rintro past ⟨b, hb⟩
  rcases ofExcept_bind_ok hb with ⟨a, ha, hnext⟩
  rcases h a ha with ⟨a', ha', hfollows⟩
  rcases hfollows past ⟨b, hnext⟩ with ⟨b', hb'⟩
  rw [Eff.ofExcept_bind, ha']
  exact ⟨b', hb'⟩

theorem Follows.pure (a a' : α) : Follows (Pure.pure a : Eff ω ε α) (Pure.pure a') :=
  fun _ _ => ⟨a', rfl⟩

end Eff

/-! ### Values without references -/

mutual

/-- No object inside the value has a textual reference. -/
def refFree : Value → Bool
  | .null | .bool _ | .number _ | .string _ => true
  | .array items => refFreeItems items
  | .object members => ((lookup "$ref" members).bind Value.asStr).isNone && refFreeMembers members

/-- No item has a reference. -/
def refFreeItems : List Value → Bool
  | [] => true
  | item :: rest => refFree item && refFreeItems rest

/-- No member has a reference. -/
def refFreeMembers : List (Str × Value) → Bool
  | [] => true
  | (_, value) :: rest => refFree value && refFreeMembers rest

end

/-- An item of a value without references has none. -/
theorem refFree_of_mem_items {items : List Value} (h : refFreeItems items = true) {v : Value}
    (hv : v ∈ items) : refFree v = true := by
  induction items with
  | nil => cases hv
  | cons item rest ih =>
      rw [refFreeItems, Bool.and_eq_true] at h
      rcases List.mem_cons.mp hv with rfl | hv
      · exact h.1
      · exact ih h.2 hv

/-- A member of a value without references has none. -/
theorem refFree_of_mem_members {members : List (Str × Value)} (h : refFreeMembers members = true)
    {e : Str × Value} (he : e ∈ members) : refFree e.2 = true := by
  induction members with
  | nil => cases he
  | cons m rest ih =>
      rcases m with ⟨k, v⟩
      rw [refFreeMembers, Bool.and_eq_true] at h
      rcases List.mem_cons.mp he with rfl | he
      · exact h.1
      · exact ih h.2 he

section

variable {v w : Value} {members : List (Str × Value)}

/-- An object without references: no `$ref` of its own, none in its members. -/
theorem refFree_object (h : refFree v = true) (hobject : v.asObject = some members) :
    (lookup "$ref" members).bind Value.asStr = none ∧ ∀ e ∈ members, refFree e.2 = true := by
  cases v <;> cases hobject
  rw [refFree, Bool.and_eq_true, Option.isNone_iff_eq_none] at h
  exact ⟨h.1, fun e he => refFree_of_mem_members h.2 he⟩

/-- The same, for the member a name selects. -/
theorem refFree_get {k : Str} (h : refFree v = true) (hget : v.get k = some w) :
    refFree w = true := by
  rcases Option.bind_eq_some_iff.mp hget with ⟨members, hobject, hlookup⟩
  exact (refFree_object h hobject).2 _ (lookup_mem hlookup)

/-- The same, for an array. -/
theorem refFree_array {items : List Value} (h : refFree v = true) (harray : v.asArray = some items) :
    ∀ item ∈ items, refFree item = true := by
  cases v <;> cases harray
  exact fun item hitem => refFree_of_mem_items h hitem

/-- A value without references is none. -/
theorem refFree_ref (h : refFree v = true) : (v.get "$ref").bind Value.asStr = none := by
  cases hobject : v.asObject with
  | none => rw [Value.get, hobject, Option.bind_none, Option.bind_none]
  | some members => rw [Value.get, hobject, Option.bind_some, (refFree_object h hobject).1]

end

section

variable {source source' : OpenApiSource}

/-- A schema without references resolves to itself. -/
theorem resolveSchema_refFree {schema : Value} {field : Str} (h : refFree schema = true) :
    resolveSchema source schema field = .ok schema := by
  unfold resolveSchema
  rw [refFree_ref h]

/-- An object without references resolves alike in every source. -/
theorem resolveObject_refFree {value : Value} {field : Str} (h : refFree value = true) :
    resolveObject source value field = resolveObject source' value field := by
  unfold resolveObject
  rw [refFree_ref h]

/-- A schema without references is read without the document. -/
theorem validateValue_refFree (stack : Nat) {schema : Value} (h : refFree schema = true)
    (value : Value) (field : Str) :
    validateValue source stack schema value field =
      validateValue source' stack schema value field := by
  -- By the levels: without references the source is never read.
  induction stack generalizing schema value field with
  | zero => rfl
  | succ stack ih =>
      -- Every child of the schema is free of references as well.
      have hallOf : (((schema.get "allOf").bind Value.asArray).getD []).forM (fun child =>
            validateValue source stack child value field) =
          (((schema.get "allOf").bind Value.asArray).getD []).forM (fun child =>
            validateValue source' stack child value field) := by
        refine forM_congr (fun child hchild => ih ?_ value field)
        cases hget : schema.get "allOf" with
        | none =>
            rw [hget] at hchild
            cases hchild
        | some branches =>
            rw [hget, Option.bind_some] at hchild
            cases harray : branches.asArray with
            | none =>
                rw [harray] at hchild
                cases hchild
            | some items =>
                rw [harray, Option.getD_some] at hchild
                exact refFree_array (refFree_get h hget) harray child hchild
      have hproperty : ∀ entry : Str × Value, ∀ child,
          ((schema.get "properties").bind Value.asObject).bind (lookup entry.1) = some child →
            refFree child = true := by
        intro entry child hchild
        rcases Option.bind_eq_some_iff.mp hchild with ⟨properties, hproperties, hlookup⟩
        rcases Option.bind_eq_some_iff.mp hproperties with ⟨object, hget, hobject⟩
        exact (refFree_object (refFree_get h hget) hobject).2 _ (lookup_mem hlookup)
      have hitems (values : List Value) (items : Value) (hget : schema.get "items" = some items) :
          values.zipIdx.forM (fun entry => validateValue source stack items entry.1
              (field ++ '[' :: decimal entry.2 ++ "]".toList)) =
            values.zipIdx.forM (fun entry => validateValue source' stack items entry.1
              (field ++ '[' :: decimal entry.2 ++ "]".toList)) :=
        forM_congr (fun entry _ => ih (refFree_get h hget) entry.1 _)
      unfold validateValue
      rw [resolveSchema_refFree h, resolveSchema_refFree h]
      dsimp only [bind, Except.bind]
      rw [hallOf]
      cases uploadDescriptor schema value with
      | some file => rfl
      | none =>
          dsimp only
          split_ifs
          · rfl
          refine congrArg (Except.bind _) (funext fun _ => congrArg (Except.bind _) (funext fun _ =>
            congrArg (Except.bind _) (funext fun _ => ?_)))
          -- The two runs make the same checks in the same order.
          cases value.asObject with
          | none =>
              dsimp only
              cases value.asArray with
              | none => rfl
              | some values =>
                  cases hget : schema.get "items" with
                  | none => rfl
                  | some items => exact hitems values items hget
          | some object =>
              dsimp only
              refine congrArg (Except.bind _) (funext fun _ => ?_)
              refine congrArg₂ Except.bind (forM_congr fun entry _ => ?_) (funext fun _ => ?_)
              · cases hchild : ((schema.get "properties").bind Value.asObject).bind (lookup entry.1) with
                | none => rfl
                | some child => exact ih (hproperty entry child hchild) _ _
              · cases value.asArray with
                | none => rfl
                | some values =>
                    cases hget : schema.get "items" with
                    | none => rfl
                    | some items => exact hitems values items hget

/-- The parameters an operation declares, with those of its path item. -/
def declaredParameters (operation : OperationDefinition) : List Value :=
  [operation.pathItem, operation.operation].flatMap (fun object =>
    ((lookup "parameters" object).bind Value.asArray).getD [])

/-- Planning an operation of one document, with an authentication that is asked
    for, carries over to an operation of another: both declare the same, nothing
    in them is a reference, and the other document offers the authentication and
    blocks nothing that the first does not. -/
structure Carries (lib : Crates) (source : OpenApiSource) (operation : OperationDefinition)
    (source' : OpenApiSource) (operation' : OperationDefinition) (requested : Option Str) :
    Prop where
  method : operation'.method = operation.method
  path : operation'.path = operation.path
  risk : operation'.risk = operation.risk
  parameters : lookup "parameters" operation'.operation = lookup "parameters" operation.operation
  requestBody : lookup "requestBody" operation'.operation = lookup "requestBody" operation.operation
  capturedBody : lookup "x-kahea-captured-body" operation'.operation =
    lookup "x-kahea-captured-body" operation.operation
  servers : lookup "servers" operation'.operation = lookup "servers" operation.operation
  itemParameters : lookup "parameters" operation'.pathItem = lookup "parameters" operation.pathItem
  itemServers : lookup "servers" operation'.pathItem = lookup "servers" operation.pathItem
  documentServers : source'.document.get "servers" = source.document.get "servers"
  /-- The authentication is bound, and its grants are known. -/
  auth : ∀ r, bindAuth source operation requested = .ok r →
    ∃ r', bindAuth source' operation' requested = .ok r' ∧
      ∃ grants, authGrants lib r'.1 = .ok grants
  absences : checkAbsence source operation = .ok () → checkAbsence source' operation' = .ok ()
  parametersFree : ∀ value ∈ declaredParameters operation, refFree value = true
  bodyFree : ∀ value, lookup "requestBody" operation.operation = some value → refFree value = true

/-- Without references, what is resolved is the object itself. -/
theorem resolveObject_mem {value : Value} {field : Str} {object : List (Str × Value)}
    (h : refFree value = true) (hobject : resolveObject source value field = .ok object) :
    value.asObject = some object := by
  unfold resolveObject at hobject
  rw [refFree_ref h] at hobject
  dsimp only [bind, Except.bind] at hobject
  cases hvalue : value.asObject with
  | none =>
      rw [hvalue] at hobject
      cases hobject
  | some members =>
      rw [hvalue] at hobject
      cases hobject
      rfl

theorem mem_insertParameter {stored : List (List (Str × Value))} {parameter p : List (Str × Value)}
    (h : p ∈ insertParameter stored parameter) : p ∈ stored ∨ p = parameter := by
  unfold insertParameter at h
  split_ifs at h
  · rcases List.mem_map.mp h with ⟨q, hq, rfl⟩
    split_ifs
    · exact Or.inr rfl
    · exact Or.inl hq
  · rcases List.mem_append.mp h with h | h
    · exact Or.inl h
    · exact Or.inr (List.mem_singleton.mp h)

/-- A merged parameter is one of those merged. -/
theorem mem_foldl_insertParameter {l stored : List (List (Str × Value))} {p : List (Str × Value)}
    (h : p ∈ l.foldl insertParameter stored) : p ∈ stored ∨ p ∈ l := by
  induction l generalizing stored with
  | nil => exact Or.inl h
  | cons q l ih =>
      rcases ih h with h | h
      · rcases mem_insertParameter h with h | rfl
        · exact Or.inl h
        · exact Or.inr List.mem_cons_self
      · exact Or.inr (List.mem_cons_of_mem q h)

/-- The schema of the body is part of its declaration. -/
theorem bodyMedia_refFree {value : Value} {requestBody : List (Str × Value)} {contentType : Option Str}
    {media : Str × Option Value} {schema : Value} (h : refFree value = true)
    (hobject : value.asObject = some requestBody) (hmedia : bodyMedia requestBody contentType = .ok media)
    (hschema : media.2 = some schema) : refFree schema = true := by
  unfold bodyMedia at hmedia
  cases hcontent : (lookup "content" requestBody).bind Value.asObject with
  | none =>
      rw [hcontent] at hmedia
      cases hmedia
  | some content =>
      rw [hcontent] at hmedia
      rcases except_bind_ok.mp hmedia with ⟨content', hsame, hmedia⟩
      cases hsame
      rcases except_bind_ok.mp hmedia with ⟨mediaType, _, hmedia⟩
      cases hentry : (lookup mediaType content).bind Value.asObject with
      | none =>
          rw [hentry] at hmedia
          cases hmedia
      | some entry =>
          rw [hentry] at hmedia
          cases hmedia
          -- The schema is a part of the declaration.
          rcases Option.bind_eq_some_iff.mp hcontent with ⟨c, hc, hcobject⟩
          rcases Option.bind_eq_some_iff.mp hentry with ⟨m, hm, hmobject⟩
          have hcfree := (refFree_object h hobject).2 _ (lookup_mem hc)
          have hmfree := (refFree_object hcfree hcobject).2 _ (lookup_mem hm)
          exact (refFree_object hmfree hmobject).2 _ (lookup_mem hschema)

namespace Carries

variable {lib : Crates} {operation operation' : OperationDefinition} {requested : Option Str}
  (h : Carries lib source operation source' operation' requested)

include h

/-- Both operations declare the same parameters. -/
theorem declaredParameters_eq : declaredParameters operation' = declaredParameters operation := by
  simp only [declaredParameters, List.flatMap_cons, List.flatMap_nil, h.itemParameters, h.parameters]

/-- The parameters of an operation, in both sources. -/
theorem parameters_eq : Kahea.parameters source' operation' = Kahea.parameters source operation := by
  have hmap : (declaredParameters operation').mapM
      (fun value => resolveObject source' value "parameter") =
        (declaredParameters operation).mapM (fun value => resolveObject source value "parameter") := by
    rw [h.declaredParameters_eq]
    exact mapM_congr (fun value hvalue => resolveObject_refFree (h.parametersFree value hvalue))
  unfold Kahea.parameters
  exact congrArg (· >>= _) hmap

/-- The schemas of the declared parameters have no references. -/
theorem schemaFree {declared : List (List (Str × Value))}
    (hdeclared : Kahea.parameters source operation = .ok declared) {parameter : List (Str × Value)}
    (hmem : parameter ∈ declared) {schema : Value} (hschema : lookup "schema" parameter = some schema) :
    refFree schema = true := by
  unfold Kahea.parameters at hdeclared
  simp only [except_bind_ok, except_pure_ok] at hdeclared
  rcases hdeclared with ⟨resolved, hresolved, rfl⟩
  rw [List.mem_insertionSort] at hmem
  rcases mem_foldl_insertParameter hmem with hmem | hmem
  · cases hmem
  · -- A resolved parameter is a declared object.
    rcases List.forall₂_iff_get.mp (mapM_ok hresolved) with ⟨hlength, hget⟩
    rcases List.get_of_mem hmem with ⟨i, hi⟩
    have hlt : i.val < (declaredParameters operation).length := by
      have hi := i.isLt
      unfold declaredParameters
      omega
    have hobject := hget i hlt i.isLt
    have hfree := h.parametersFree _ (List.get_mem (declaredParameters operation) ⟨i, hlt⟩)
    have hmembers := resolveObject_mem hfree hobject
    rw [hi] at hmembers
    exact (refFree_object hfree hmembers).2 _ (lookup_mem hschema)

/-- One declared parameter is bound alike. -/
theorem bindParameter_eq {stack : Nat} {declared : List (List (Str × Value))}
    (hdeclared : Kahea.parameters source operation = .ok declared) (b : Bindings)
    {parameter : List (Str × Value)} (hmem : parameter ∈ declared) :
    bindParameter source' stack b parameter = bindParameter source stack b parameter := by
  have hvalidate (value : Value) (field : Str) :
      validateDeclared source' stack (lookup "schema" parameter) value field =
        validateDeclared source stack (lookup "schema" parameter) value field := by
    cases hschema : lookup "schema" parameter with
    | none => rfl
    | some schema => exact validateValue_refFree stack (h.schemaFree hdeclared hmem hschema) value field
  unfold bindParameter
  simp only [hvalidate]

/-- The parameters are bound alike. The induction is on those declared. -/
theorem bindParameters_eq (stack : Nat) (inputs : Inputs) :
    bindParameters source' operation' stack inputs = bindParameters source operation stack inputs := by
  unfold bindParameters
  rw [h.parameters_eq, h.path]
  cases hdeclared : Kahea.parameters source operation with
  | error e => rfl
  | ok declared => exact foldlM_congr (fun b _ hmem => h.bindParameter_eq hdeclared b hmem) _

/-- The body is bound alike. -/
theorem bindBody_eq (world : World) (inputs : Inputs) (options : PlanOptions) :
    bindBody lib world source' operation' inputs options =
      bindBody lib world source operation inputs options := by
  unfold bindBody
  rw [h.requestBody]
  cases hbody : lookup "requestBody" operation.operation with
  | none => rfl
  | some value =>
      have hfree := h.bodyFree value hbody
      have hvalue : bodyValue operation' inputs = bodyValue operation inputs := by
        unfold bodyValue
        rw [h.capturedBody]
      -- The declaration and the schema in it are free of references.
      have hresolve : resolveObject source' value "requestBody" =
          resolveObject source value "requestBody" := resolveObject_refFree hfree
      funext past
      dsimp only
      rw [hresolve, hvalue, Eff.ofExcept_bind, Eff.ofExcept_bind]
      cases hobject : resolveObject source value "requestBody" with
      | error e => rfl
      | ok requestBody =>
          dsimp only
          rcases bodyValue operation inputs with ⟨_ | ⟨body, provenance⟩, inputs'⟩
          · rfl
          dsimp only
          rw [Eff.ofExcept_bind, Eff.ofExcept_bind]
          cases hmedia : bodyMedia requestBody options.contentType with
          | error e => rfl
          | ok media =>
              -- So is what the value is validated against.
              have hvalidate : validateDeclared source' world.stack media.2 body "body" =
                  validateDeclared source world.stack media.2 body "body" := by
                cases hschema : media.2 with
                | none => rfl
                | some schema =>
                    exact validateValue_refFree _ (bodyMedia_refFree hfree
                      (resolveObject_mem hfree hobject) hmedia hschema) _ _
              dsimp only
              rw [hvalidate]

/-- The server is selected alike. -/
theorem selectServer_eq (selector : Option Str) (configuration : ProjectConfiguration) :
    selectServer lib source' operation' selector configuration =
      selectServer lib source operation selector configuration := by
  have hservers : declaredServers source' operation' = declaredServers source operation := by
    unfold declaredServers
    rw [h.servers, h.itemServers, h.documentServers]
  unfold selectServer
  rw [hservers]

omit h in
/-- The grants of a plan are known where those of its authentication are. -/
theorem requiredGrants_ok {configuration : ProjectConfiguration} {target : Url} {host : Str}
    {port : Nat} {auth : Option PlannedAuth} {grants : List Str}
    (hgrants : authGrants lib auth = .ok grants) :
    ∃ required, requiredGrants lib configuration operation target host port auth = .ok required := by
  unfold requiredGrants
  rw [hgrants]
  exact ⟨_, rfl⟩

/-- The parts of a plan are found where those of the first operation are. They
    may differ in the authentication alone. -/
theorem planParts_follows (world : World) (options : PlanOptions)
    (configuration : ProjectConfiguration)
    (hrequested : (options.withDefaults configuration).auth = requested) :
    Eff.Follows (planParts lib world source operation options configuration)
      (planParts lib world source' operation' options configuration) := by
  unfold planParts
  simp only [h.selectServer_eq, h.bindParameters_eq, h.bindBody_eq, hrequested]
  refine .bind (.ofExcept fun _ hok => h.absences hok) (fun _ => .bind (.refl _) (fun inputs => ?_))
  refine .bind (.refl _) (fun server => .bind (.refl _) (fun bindings => .bind (.refl _) (fun _ => ?_)))
  refine .bind (.refl _) (fun base => .bind (.refl _) (fun body => ?_))
  -- From here on the authentication of the second document is used.
  refine .ofExcept_bind (fun auth hauth => ?_)
  rcases h.auth auth hauth with ⟨auth', hauth', tokens, htokens⟩
  refine ⟨auth', hauth', .bind (.refl _) (fun _ => .bind (.refl _) (fun host =>
    .bind (.refl _) (fun _ => .ofExcept_bind (fun _ _ => ?_))))⟩
  rcases requiredGrants_ok htokens with ⟨required, hrequired⟩
  refine ⟨required, hrequired, .bind (.refl _) (fun _ => .bind (.refl _) (fun _ =>
    .bind (.refl _) (fun _ => .pure _ _)))⟩

/-- Where the first operation can be planned, so can the second. -/
theorem plan_of_carries {world : World} {options : PlanOptions}
    {configuration : ProjectConfiguration} {past : List Event}
    (hrequested : (options.withDefaults configuration).auth = requested)
    (hplan : ∃ plan, (buildPlanWithConfiguration lib world source operation options
      configuration past).1 = .ok plan) :
    ∃ plan, (buildPlanWithConfiguration lib world source' operation' options
      configuration past).1 = .ok plan := by
  rcases hplan with ⟨plan, hplan⟩
  rcases Eff.bind_ok hplan with ⟨parts, hparts, _⟩
  rcases h.planParts_follows world options configuration hrequested past ⟨parts, hparts⟩ with
    ⟨parts', hparts'⟩
  unfold buildPlanWithConfiguration
  rw [Eff.bind_of_ok hparts']
  exact ⟨_, rfl⟩

end Carries

end

end Kahea
