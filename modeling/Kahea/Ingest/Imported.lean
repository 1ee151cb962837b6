import Kahea.Base.Pointer
import Kahea.Ingest.Growth

/-!
# Planning Imported Operations

What the planner sees of an imported document.

An imported operation has no references, its path item holds operations only,
and its document has neither servers nor security requirements of its own. What
is left of the document is what it blocks and the security schemes it offers:
`AuthOffered` says which authentication can be asked for, and it is all a change
of the rest of the document can do to the planning of an operation
(`carries_of_beside`).

## Main definitions

* `ImportDocument.definition`: The operation at a place, as it is planned.
* `ImportDocument.Plannable`: The operation at a place can be planned.
* `ImportDocument.AuthOffered`: The authentication that can be asked for.

## Theorems

* `bindAuth_of_offered`, `offered_of_bindAuth`: When the authentication is bound.
* `checkAbsence_imported`: What blocks an operation.
* `carries_of_beside`: An operation beside a new request is planned as before.
-/

namespace Kahea

/-- The source of an imported document, as `imported_source` returns it. -/
def importedSource (lib : Crates) (document : ImportDocument) (bytes : List UInt8) : OpenApiSource :=
  ⟨document.toValue, digest lib bytes, shortHandle lib "src" [bytes]⟩

/-- The definition of the operation at a place of a document. -/
def ImportDocument.definition (lib : Crates) (document : ImportDocument) (bytes : List UInt8)
    (path method : Str) (o : ImportedOperation) : OperationDefinition :=
  { handle := operationHandle lib (digest lib bytes) (upper method) path o.operationId
    method := upper method
    path := normalizePath path
    operationId := o.operationId
    risk := .forHttpMethod (upper method)
    pathItem := pathItemValue ((lookup path document.paths).getD [])
    operation := o.members
    path_slash := normalizePath_slash path }

/-- The operation at a place of a document can be planned. -/
def ImportDocument.Plannable (lib : Crates) (world : World) (document : ImportDocument)
    (bytes : List UInt8) (options : PlanOptions) (configuration : ProjectConfiguration)
    (past : List Event) (path method : Str) : Prop :=
  ∃ o, document.operationAt path method = some o ∧ ∃ plan,
    (buildPlanWithConfiguration lib world (importedSource lib document bytes)
      (document.definition lib bytes path method o) options configuration past).1 = .ok plan

instance (lib : Crates) (world : World) (document : ImportDocument) (bytes : List UInt8)
    (options : PlanOptions) (configuration : ProjectConfiguration) (past : List Event)
    (path method : Str) :
    Decidable (document.Plannable lib world bytes options configuration past path method) :=
  decidable_of_iff (((document.operationAt path method).bind (fun o =>
    (buildPlanWithConfiguration lib world (importedSource lib document bytes)
      (document.definition lib bytes path method o) options configuration past).1.toOption)).isSome =
        true) (by
    rw [Option.isSome_iff_exists]
    constructor
    · rintro ⟨plan, hplan⟩
      rcases Option.bind_eq_some_iff.mp hplan with ⟨o, ho, hplan⟩
      exact ⟨o, ho, plan, toOption_eq_some.mp hplan⟩
    · rintro ⟨o, ho, plan, hplan⟩
      exact ⟨plan, Option.bind_eq_some_iff.mpr ⟨o, ho, toOption_eq_some.mpr hplan⟩⟩)

section

variable {document document' : ImportDocument}

theorem lookup_pathItemValue (key : Str) (item : List (Str × ImportedOperation)) :
    lookup key (pathItemValue item) = (lookup key item).map (fun o => .object o.members) := by
  induction item with
  | nil => rfl
  | cons e item ih =>
      rcases e with ⟨k, o⟩
      unfold pathItemValue at ih ⊢
      rw [List.map_cons, lookup, lookup]
      split_ifs
      · rfl
      · exact ih

/-- A path item has operations only. -/
theorem ImportDocument.Sound.lookup_pathItem (h : document.Sound) (path : Str) {key : Str}
    (hkey : key ∉ HTTP_METHODS) :
    lookup key (pathItemValue ((lookup path document.paths).getD [])) = none := by
  rw [lookup_pathItemValue]
  cases hitem : lookup path document.paths with
  | none => rfl
  | some item =>
      rw [Option.getD_some]
      cases hlookup : lookup key item with
      | none => rfl
      | some o =>
          have hat : document.operationAt path key = some o := by
            unfold ImportDocument.operationAt
            rw [hitem]
            exact hlookup
          exact absurd (h.operations path key o hat).2.1 hkey

/-- The pointer to a security scheme starts at the schemes of the document. -/
theorem toValue_pointer (document : ImportDocument) (token : Str) :
    document.toValue.pointer ("/components/securitySchemes/" ++ token) =
      (Value.object document.securitySchemes).descend ((token.splitOn '/').map unescapeToken) := by
  -- The pointer begins with the two tokens that lead to the schemes.
  have hsplit : List.splitOn '/' ("components/securitySchemes/" ++ token) =
      "components".toList :: "securitySchemes".toList :: List.splitOn '/' token := by
    have htext : "components/securitySchemes/" ++ token =
        "components".toList ++ '/' :: ("securitySchemes".toList ++ '/' :: token) := rfl
    have hcomponents : List.splitOn '/' "components".toList = ["components".toList] := by decide
    have hschemes : List.splitOn '/' "securitySchemes".toList = ["securitySchemes".toList] := by decide
    rw [htext, List.splitOn_append_cons_self, List.splitOn_append_cons_self, hcomponents, hschemes]
    rfl
  have htokens : pointerTokens ("/components/securitySchemes/" ++ token) =
      some ("components".toList :: "securitySchemes".toList ::
        (List.splitOn '/' token).map unescapeToken) := by
    have hpointer : pointerTokens ("/components/securitySchemes/" ++ token) =
        some ((List.splitOn '/' ("components/securitySchemes/" ++ token)).map unescapeToken) := rfl
    rw [hpointer, hsplit, List.map_cons, List.map_cons]
    rfl
  unfold Value.pointer
  -- Both members are found in the document as it is written.
  have hchild : document.toValue.child "components" =
      some (jsonObject [("securitySchemes", .object document.securitySchemes)]) := by
    simp [ImportDocument.toValue, jsonObject, Value.child, lookup]
  have hschild : (jsonObject [("securitySchemes", .object document.securitySchemes)]).child
      "securitySchemes" = some (.object document.securitySchemes) := by
    simp [jsonObject, Value.child, lookup]
  rw [htokens, Option.bind_some, Value.descend, List.foldlM_cons, hchild]
  simp only [Option.bind_eq_bind, Option.bind_some]
  rw [List.foldlM_cons, hschild]
  rfl

end

/-! ### The members of an imported operation -/

theorem lookup_memberWhen {condition : Bool} {name : String} {value : Value} {key : Str}
    (h : key ≠ name.toList) : lookup key (memberWhen condition name value) = none := by
  unfold memberWhen
  split_ifs
  · exact if_neg (Ne.symm h)
  · rfl

section

variable (o : ImportedOperation)

theorem lookup_parameters : lookup "parameters" o.members = some (.array o.parameters) := rfl

theorem lookup_servers : lookup "servers" o.members =
    some (.array [jsonObject [("url", .string o.origin)]]) := by
  unfold ImportedOperation.members
  simp (disch := decide) only [lookup_append, lookup_memberWhen, Option.or_none]
  rfl

theorem lookup_memberWhen_self (condition : Bool) (name : String) (value : Value) :
    lookup name.toList (memberWhen condition name value) = if condition then some value else none := by
  unfold memberWhen
  split_ifs
  · exact if_pos rfl
  · rfl

theorem lookup_security : lookup "security" o.members =
    o.security.map (fun name => .array [.object [(name, .array [])]]) := by
  unfold ImportedOperation.members
  simp (disch := decide) only [lookup_append, lookup_memberWhen, lookup_cons_ne, lookup_nil,
    Option.or_none, Option.none_or]
  rw [lookup_memberWhen_self]
  cases o.security <;> rfl

/-- The declaration of a captured body. -/
def bodyDeclaration (mediaType : Str) : Value :=
  jsonObject [("content", .object [(mediaType, jsonObject [("schema", jsonObject [])])]),
    ("required", .bool true)]

theorem lookup_requestBody : lookup "requestBody" o.members =
    o.body.map (fun body => bodyDeclaration body.1) := by
  unfold ImportedOperation.members bodyDeclaration
  simp (disch := decide) only [lookup_append, lookup_memberWhen, lookup_cons_ne, lookup_nil,
    Option.or_none, Option.none_or]
  rw [lookup_memberWhen_self]
  cases o.body <;> rfl

theorem lookup_capturedBody : lookup "x-kahea-captured-body" o.members = o.body.map Prod.snd := by
  unfold ImportedOperation.members
  simp (disch := decide) only [lookup_append, lookup_memberWhen, lookup_cons_ne, lookup_nil,
    Option.or_none, Option.none_or]
  rw [lookup_memberWhen_self]
  cases o.body <;> rfl

theorem lookup_absent : ((lookup "x-kahea-absent" o.members).bind Value.asArray).getD [] =
    o.absent.map CapturedAbsence.toValue := by
  unfold ImportedOperation.members
  simp (disch := decide) only [lookup_append, lookup_memberWhen, lookup_cons_ne, lookup_nil,
    Option.or_none, Option.none_or]
  rw [lookup_memberWhen_self]
  cases o.absent <;> rfl

/-- The body of an imported operation has no references. -/
theorem requestBody_refFree {value : Value} (h : lookup "requestBody" o.members = some value) :
    refFree value = true := by
  rw [lookup_requestBody] at h
  rcases Option.map_eq_some_iff.mp h with ⟨body, _, rfl⟩
  simp [bodyDeclaration, jsonObject, refFree, refFreeMembers, lookup, Value.asStr]

end

/-! ### What is absent -/

section

variable {document document' : ImportDocument}

/-- The absences planning sees at a place. -/
theorem checkAbsence_ok {source : OpenApiSource} {operation : OperationDefinition} :
    checkAbsence source operation = .ok () ↔
      (∀ v ∈ ((source.document.get "x-kahea-absent").bind Value.asArray).getD [], blocks v = false) ∧
        ∀ v ∈ ((lookup "x-kahea-absent" operation.operation).bind Value.asArray).getD [],
          blocks v = false := by
  have hall : blockingAbsence source operation = none ↔
      ∀ v ∈ [source.document.get "x-kahea-absent", lookup "x-kahea-absent" operation.operation].flatMap
        (fun value => (value.bind Value.asArray).getD []), ¬ blocks v = true := List.find?_eq_none
  have hcheck : checkAbsence source operation = .ok () ↔ blockingAbsence source operation = none := by
    unfold checkAbsence
    cases blockingAbsence source operation with
    | none => exact ⟨fun _ => rfl, fun _ => rfl⟩
    | some absence => exact ⟨nofun, nofun⟩
  rw [hcheck, hall]
  simp only [List.flatMap_cons, List.flatMap_nil, List.append_nil, List.mem_append,
    Bool.not_eq_true]
  exact ⟨fun h => ⟨fun v hv => h v (Or.inl hv), fun v hv => h v (Or.inr hv)⟩,
    fun h v hv => hv.elim (h.1 v) (h.2 v)⟩

theorem documentAbsences (lib : Crates) (document : ImportDocument) (bytes : List UInt8) :
    (((importedSource lib document bytes).document.get "x-kahea-absent").bind Value.asArray).getD [] =
      document.absent := by
  simp [importedSource, ImportDocument.toValue, jsonObject, Value.get, Value.asObject,
    Value.asArray, lookup]

/-- An imported document has neither servers nor security of its own. -/
theorem toValue_get_none (document : ImportDocument) {key : Str}
    (hkey : key ∉ ["components", "info", "openapi", "paths", "x-kahea-absent"].map String.toList) :
    document.toValue.get key = none := by
  unfold ImportDocument.toValue
  refine jsonObject_get_none ?_
  simpa only [List.map_cons, List.map_nil] using hkey

/-- The absences of the document and those of the operation block it. -/
theorem checkAbsence_imported (lib : Crates) (bytes : List UInt8) (path method : Str)
    (o : ImportedOperation) :
    checkAbsence (importedSource lib document bytes) (document.definition lib bytes path method o) =
        .ok () ↔
      (∀ v ∈ document.absent, blocks v = false) ∧ ∀ a ∈ o.absent, a.blocking = false := by
  have habsent : ((lookup "x-kahea-absent" (document.definition lib bytes path method o).operation).bind
      Value.asArray).getD [] = o.absent.map CapturedAbsence.toValue := lookup_absent o
  rw [checkAbsence_ok, documentAbsences, habsent, List.forall_mem_map]
  simp only [toValue_blocks]

/-! ### Authentication -/

/-- An operation asks for its scheme. -/
theorem requiredSchemes_imported (lib : Crates) (bytes : List UInt8) (path method : Str)
    (o : ImportedOperation) :
    requiredSchemes (importedSource lib document bytes) (document.definition lib bytes path method o) =
      o.security.toList := by
  have hoperation : lookup "security" (document.definition lib bytes path method o).operation =
      o.security.map (fun name => .array [.object [(name, .array [])]]) := lookup_security o
  have hdocument : (importedSource lib document bytes).document.get "security" = none :=
    toValue_get_none document (by decide)
  unfold requiredSchemes securityRequirements
  rw [hoperation, hdocument]
  cases o.security <;> rfl

/-- A scheme is found by its name. -/
theorem securityScheme_imported (lib : Crates) (bytes : List UInt8) (scheme : Str) :
    securityScheme (importedSource lib document bytes) scheme =
      ((lookup scheme document.securitySchemes).map (fun value =>
        resolveObject (importedSource lib document bytes) value "securityScheme")).getD
          (.error (.unknownSecurityScheme scheme)) := by
  have htoken : (List.splitOn '/' (escapePointer scheme)).map unescapeToken = [scheme] := by
    unfold escapePointer
    rw [escapeSegment_eq, List.splitOn_eq_singleton (slash_not_mem_escaped scheme), List.map_singleton,
      unescapeToken_escaped]
  have hpointer : (importedSource lib document bytes).document.pointer
      ("/components/securitySchemes/" ++ escapePointer scheme) =
        lookup scheme document.securitySchemes := by
    refine (toValue_pointer document (escapePointer scheme)).trans ?_
    rw [htoken, Value.descend, List.foldlM_cons]
    simp only [List.foldlM_nil, bind, pure, Option.bind_fun_some]
    rfl
  unfold securityScheme
  rw [hpointer]
  cases lookup scheme document.securitySchemes <;> rfl

/-- The scheme of a captured authentication has a placement and no token URL. -/
theorem CapturedAuth.placement (auth : CapturedAuth) (scheme : Str) :
    ∃ object placement, auth.scheme.asObject = some object ∧
      authPlacement scheme object = .ok (placement, none) := by
  unfold CapturedAuth.scheme
  cases auth.kind with
  | apikey =>
      refine ⟨_, auth.location.getD "header" ++ ':' :: auth.name.getD "X-API-Key", rfl, ?_⟩
      simp [authPlacement, stringField, lookup, Value.asStr]
  | basic =>
      refine ⟨_, "header:Authorization:" ++ "basic", rfl, ?_⟩
      rfl
  | bearer | oauth2 =>
      refine ⟨_, "header:Authorization:" ++ "bearer", rfl, ?_⟩
      rfl

/-- The authentication that can be asked for: none where the operation has none,
    its own by the name of a profile, and by the name of a scheme that of the
    operation or any where it has none. -/
def ImportDocument.AuthOffered (document : ImportDocument) (o : ImportedOperation)
    (requested : Option Str) : Prop :=
  match requested with
  | none => o.security = none
  | some requested => match splitOnce "=" requested with
    | some (scheme, _) => (∀ name, o.security = some name → name = scheme) ∧
        (lookup scheme document.securitySchemes).isSome
    | none => o.security.isSome

/-- A scheme of a sound document is bound to a profile. -/
theorem bindScheme_imported (lib : Crates) (bytes : List UInt8) (hsound : document.Sound) {scheme : Str}
    (h : (lookup scheme document.securitySchemes).isSome) :
    ∃ object placement, securityScheme (importedSource lib document bytes) scheme = .ok object ∧
      authPlacement scheme object = .ok (placement, none) := by
  rcases Option.isSome_iff_exists.mp h with ⟨value, hvalue⟩
  rcases hsound.schemes _ (lookup_mem hvalue) with ⟨index, auth, heq⟩
  cases heq
  rcases auth.placement (schemeName index) with ⟨object, placement, hobject, hplacement⟩
  refine ⟨object, placement, ?_, hplacement⟩
  rw [securityScheme_imported, hvalue, Option.map_some, Option.getD_some]
  unfold resolveObject
  rw [refFree_ref auth.scheme_refFree]
  dsimp only [bind, Except.bind]
  rw [hobject]

theorem bindAuth_of_offered (lib : Crates) (bytes : List UInt8) (hsound : document.Sound)
    {path method : Str} {o : ImportedOperation} (hat : document.operationAt path method = some o)
    {requested : Option Str} (h : document.AuthOffered o requested) :
    ∃ r, bindAuth (importedSource lib document bytes) (document.definition lib bytes path method o)
      requested = .ok r ∧ ∃ grants, authGrants lib r.1 = .ok grants := by
  -- In each case the scheme is known, and is the required one if there is one.
  have hbind {text : Str} (scheme profile : Str) (hrequested : requestedAuth o.security.toList text = (scheme, profile))
      (hrequired : ∀ name, o.security = some name → name = scheme)
      (hknown : (lookup scheme document.securitySchemes).isSome) :
      ∃ r, bindAuth (importedSource lib document bytes) (document.definition lib bytes path method o)
        (some text) = .ok r ∧ ∃ grants, authGrants lib r.1 = .ok grants := by
    rcases bindScheme_imported lib bytes hsound hknown with ⟨object, placement, hobject, hplacement⟩
    have hensure : (o.security.toList.isEmpty || o.security.toList.contains scheme) = true := by
      cases hsecurity : o.security with
      | none => rfl
      | some name => simp [hrequired name hsecurity]
    unfold bindAuth
    rw [requiredSchemes_imported]
    dsimp only
    rw [hrequested]
    dsimp only
    rw [hensure, hobject]
    dsimp only [ensure, if_true, bind, Except.bind, pure, Except.pure]
    rw [hplacement]
    exact ⟨_, rfl, _, rfl⟩
  cases requested with
  | none =>
      have hnone : o.security = none := h
      unfold bindAuth
      rw [requiredSchemes_imported, hnone]
      exact ⟨_, rfl, _, rfl⟩
  | some text =>
      unfold ImportDocument.AuthOffered at h
      dsimp only at h
      cases hsplit : splitOnce "=" text with
      | some parts =>
          rw [hsplit] at h
          refine hbind parts.1 parts.2 ?_ h.1 h.2
          unfold requestedAuth
          rw [hsplit]
      | none =>
          rw [hsplit] at h
          rcases Option.isSome_iff_exists.mp h with ⟨name, hname⟩
          refine hbind name text ?_ (fun other hother => ?_)
            (hsound.secured path method o name hat hname)
          · unfold requestedAuth
            rw [hsplit, hname]
            rfl
          · rw [hname] at hother
            exact (Option.some.inj hother).symm

theorem offered_of_bindAuth {lib : Crates} {bytes : List UInt8} (hsound : document.Sound)
    {path method : Str} {o : ImportedOperation} {requested : Option Str}
    {r : Option PlannedAuth × List Str} (h : bindAuth (importedSource lib document bytes)
      (document.definition lib bytes path method o) requested = .ok r) :
    document.AuthOffered o requested := by
  unfold bindAuth at h
  rw [requiredSchemes_imported] at h
  cases requested with
  | none =>
      dsimp only at h
      split_ifs at h with hempty
      unfold ImportDocument.AuthOffered
      cases hsecurity : o.security with
      | none => rfl
      | some name =>
          rw [hsecurity] at hempty
          cases hempty
  | some text =>
      dsimp only at h
      rcases hparts : requestedAuth o.security.toList text with ⟨scheme, profile⟩
      rw [hparts] at h
      rcases except_bind_ok.mp h with ⟨_, hrequired, h⟩
      rcases except_bind_ok.mp h with ⟨object, hobject, _⟩
      have hknown : (lookup scheme document.securitySchemes).isSome := by
        rw [securityScheme_imported] at hobject
        cases hlookup : lookup scheme document.securitySchemes with
        | some value => rfl
        | none =>
            rw [hlookup] at hobject
            cases hobject
      have hname : ∀ name, o.security = some name → name = scheme := by
        intro name hsecurity
        have hmem := ensure_ok.mp hrequired
        rw [hsecurity] at hmem
        have hsame : scheme = name := by simpa using hmem
        exact hsame.symm
      unfold requestedAuth at hparts
      unfold ImportDocument.AuthOffered
      dsimp only
      cases hsplit : splitOnce "=" text with
      | some parts =>
          rw [hsplit] at hparts
          cases hparts
          exact ⟨hname, hknown⟩
      | none =>
          rw [hsplit] at hparts
          cases hparts
          cases hsecurity : o.security with
          | some name => rfl
          | none =>
              -- No scheme of an import has the default name.
              rw [hsecurity] at hknown
              rcases Option.isSome_iff_exists.mp hknown with ⟨value, hvalue⟩
              rcases hsound.schemes _ (lookup_mem hvalue) with ⟨index, auth, heq⟩
              have hhead : (schemeName index).head? = some 'i' := rfl
              have hdefault := (Prod.ext_iff.mp heq).1
              dsimp only [Option.toList_none, List.head?_nil, Option.getD_none] at hdefault
              rw [← hdefault] at hhead
              exact absurd hhead (by decide)

/-- The authentication of an operation that can be planned is offered. -/
theorem offered_of_plan {lib : Crates} {world : World} {bytes : List UInt8} {options : PlanOptions}
    {configuration : ProjectConfiguration} {past : List Event} (hsound : document.Sound)
    {path method : Str} {o : ImportedOperation} (hplan : ∃ plan, (buildPlanWithConfiguration lib world
      (importedSource lib document bytes) (document.definition lib bytes path method o) options
        configuration past).1 = .ok plan) :
    document.AuthOffered o (options.withDefaults configuration).auth := by
  rcases hplan with ⟨plan, hplan⟩
  rcases buildPlanWithConfiguration_ok hplan with ⟨parts, _, hparts, _⟩
  exact offered_of_bindAuth hsound hparts.auth

/-! ### Documents with one more request -/

/-- An operation beside a new request is planned as before, with an
    authentication that is still offered. -/
theorem carries_of_beside (lib : Crates) {bytes bytes' : List UInt8} {place : Option (Str × Str)}
    (hsound : document.Sound) (hsound' : document'.Sound) (h : Beside place document document')
    {path method : Str} {o o' : ImportedOperation} (hat : document.operationAt path method = some o)
    (hat' : document'.operationAt path method = some o') (halike : o.Alike o')
    {requested : Option Str} (hoffered : document'.AuthOffered o' requested) :
    Carries lib (importedSource lib document bytes) (document.definition lib bytes path method o)
      (importedSource lib document' bytes') (document'.definition lib bytes' path method o')
      requested := by
  have hparameters : "parameters".toList ∉ HTTP_METHODS := by decide
  have hservers : "servers".toList ∉ HTTP_METHODS := by decide
  have hown : lookup "parameters" (document.definition lib bytes path method o).operation =
      some (.array o.parameters) := lookup_parameters o
  have hown' : lookup "parameters" (document'.definition lib bytes' path method o').operation =
      some (.array o'.parameters) := lookup_parameters o'
  refine
    { method := rfl
      path := rfl
      risk := rfl
      parameters := ?_
      requestBody := ?_
      capturedBody := ?_
      servers := ?_
      itemParameters := ?_
      itemServers := ?_
      documentServers := ?_
      auth := fun r _ => bindAuth_of_offered lib bytes' hsound' hat' hoffered
      absences := ?_
      parametersFree := ?_
      bodyFree := fun value hvalue => requestBody_refFree o hvalue }
  · rw [hown, hown', halike.parameters]
  · refine (lookup_requestBody o').trans ?_
    rw [halike.body]
    exact (lookup_requestBody o).symm
  · refine (lookup_capturedBody o').trans ?_
    rw [halike.body]
    exact (lookup_capturedBody o).symm
  · refine (lookup_servers o').trans ?_
    rw [halike.origin]
    exact (lookup_servers o).symm
  · exact (hsound'.lookup_pathItem path hparameters).trans (hsound.lookup_pathItem path hparameters).symm
  · exact (hsound'.lookup_pathItem path hservers).trans (hsound.lookup_pathItem path hservers).symm
  · exact (toValue_get_none document' (by decide)).trans (toValue_get_none document (by decide)).symm
  · intro hok
    rw [checkAbsence_imported] at hok ⊢
    refine ⟨h.absent hok.1, fun a ha => ?_⟩
    have hmem := List.mem_map_of_mem (f := CapturedAbsence.blocking) ha
    rw [halike.absent] at hmem
    rcases List.mem_map.mp hmem with ⟨b, hb, hsame⟩
    rw [← hsame]
    exact hok.2 b hb
  · -- A path item has no parameters, so they are those of the operation.
    intro value hvalue
    have hitem : lookup "parameters" (document.definition lib bytes path method o).pathItem = none :=
      hsound.lookup_pathItem path hparameters
    unfold declaredParameters at hvalue
    rw [List.flatMap_cons, List.flatMap_cons, List.flatMap_nil, hitem, hown, Option.bind_none,
      Option.bind_some, Value.asArray, Option.getD_none, Option.getD_some, List.nil_append,
      List.append_nil] at hvalue
    exact (hsound.operations path method o hat).2.2 value hvalue

end

end Kahea
