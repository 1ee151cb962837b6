import Kahea.Base.Template
import Kahea.Plan.Body
import Kahea.Plan.Target

/-!
# Request Plans

The HTTP planner, `build_plan_with_configuration`, as the sequence of its
stages: the blocking-absence check, the supplied inputs, the server, the loop
over the declared parameters, the target URL, the body, the authentication,
the host policy, the grants and the seal.

A stage is a definition of its own. `PlanParts` holds what the stages produced
and `PlanParts.Sound` says which stage each part comes from; every result about
a returned plan starts from `buildPlanWithConfiguration_ok`, which hands it the
parts, so that no later proof takes the planner apart again.

## Main definitions

* `bindAuth`: The authentication of an operation.
* `Bindings`, `bindParameter`: The state and the step of the parameter loop.
* `PATH_SEGMENT`: The characters a path value is encoded over.
* `requiredGrants`: The grants of a plan.
* `buildPlanWithConfiguration`: The planner.

## Theorems

* `buildPlanWithConfiguration_ok`: What a returned plan is made of.
* `buildPlanWithConfiguration_ensures`: The files planning reads.
-/

namespace Kahea

/-! ### Authentication -/

/-- The security requirements of an operation, or those of the document. -/
def securityRequirements (source : OpenApiSource) (operation : OperationDefinition) :
    List (List (Str × Value)) :=
  ((((lookup "security" operation.operation).or (source.document.get "security")).bind
    Value.asArray).getD []).filterMap Value.asObject

/-- The names of the required schemes, in order. -/
def requiredSchemes (source : OpenApiSource) (operation : OperationDefinition) : List Str :=
  (securityRequirements source operation).flatMap (fun r => r.map Prod.fst)

/-- The scheme and the profile of a requested authentication. Without a
    scheme the first required one is meant. -/
def requestedAuth (required : List Str) (requested : Str) : Str × Str :=
  match splitOnce "=" requested with
  | some parts => parts
  | none => (required.head?.getD "bearer", requested)

/-- The security scheme of a name. -/
def securityScheme (source : OpenApiSource) (scheme : Str) :
    Except PlanError (List (Str × Value)) :=
  match source.document.pointer ("/components/securitySchemes/" ++ escapePointer scheme) with
  | some value => resolveObject source value "securityScheme"
  | none => .error (.unknownSecurityScheme scheme)

/-- The placement and the token URL of a scheme. -/
def authPlacement (scheme : Str) (object : List (Str × Value)) :
    Except PlanError (Str × Option Str) :=
  let kind := (stringField object "type").getD []
  let tokenUrl (flow : List (Str × Value)) (placement : Str) :
      Except PlanError (Str × Option Str) :=
    match stringField flow "tokenUrl" with
    | some url => .ok (placement, some url)
    | none => .error (.unsupportedSecurityScheme scheme)
  if kind = "apiKey" then
    .ok ((stringField object "in").getD [] ++ ':' :: (stringField object "name").getD [], none)
  else if kind = "http" then
    .ok ("header:Authorization:" ++ (stringField object "scheme").getD [], none)
  else if kind = "oauth2" then
    match (lookup "flows" object).bind Value.asObject with
    | none => .error (.unsupportedSecurityScheme scheme)
    | some flows => match (lookup "clientCredentials" flows).bind Value.asObject with
      | some flow => tokenUrl flow "oauth2-client-credentials"
      | none => match (lookup "authorizationCode" flows).bind Value.asObject with
        | some flow => tokenUrl flow "oauth2-refresh-token"
        | none => .error (.unsupportedSecurityScheme scheme)
  else if kind = "openIdConnect" then .ok ("header:Authorization:bearer", none)
  else if kind = "mutualTLS" then .ok ("tls-client-certificate", none)
  else .error (.unsupportedSecurityScheme scheme)

/-- The scopes of a scheme, from the first requirement that names it. -/
def authScopes (requirements : List (List (Str × Value))) (scheme : Str) : List Str :=
  (((requirements.findSome? (lookup scheme)).bind Value.asArray).getD []).filterMap Value.asStr

def bindAuth (source : OpenApiSource) (operation : OperationDefinition)
    (requested : Option Str) : Except PlanError (Option PlannedAuth × List Str) :=
  let required := requiredSchemes source operation
  match requested with
  | none => if required.isEmpty then .ok (none, []) else .error .missingAuth
  | some requested => do
      let (scheme, profile) := requestedAuth required requested
      ensure (required.isEmpty || required.contains scheme) (.unknownSecurityScheme scheme)
      let object ← securityScheme source scheme
      let (placement, tokenUrl) ← authPlacement scheme object
      pure (some
        { scheme := scheme
          kind := (stringField object "type").getD []
          profile := profile
          placement := placement
          tokenUrl := tokenUrl
          scopes := authScopes (securityRequirements source operation) scheme },
        ["secret://" ++ profile])

/-! ### Parameters -/

/-- The characters encoded in a path value: the controls, the delimiters of a
    URL and the percent sign. -/
def PATH_SEGMENT (c : Char) : Bool :=
  c.toNat < 0x20 || c.toNat = 0x7F || " \"#%/<>?[\\]^`\x7b|\x7d".toList.contains c

/-- The state of the parameter loop. -/
structure Bindings where
  inputs : Inputs
  targetPath : Str
  queryPairs : List (Str × Str)
  headers : List PlannedHeader
  cookies : List (Str × Str)
  derivations : List FieldDerivation

/-- Send a value in its location. -/
def placeParameter (b : Bindings) (location name : Str) (value : Value) (provenance : Str)
    (wires : List Str) : Except PlanError Bindings :=
  let key := location ++ '.' :: name
  if location = "path" then
    let encoded := percentEncode PATH_SEGMENT (wires.headD [])
    .ok { b with
      targetPath := replaceAll (placeholder name) encoded b.targetPath
      derivations :=
        b.derivations ++ [derivation key value provenance (some encoded) "path-segment"] }
  else if location = "query" then
    .ok { b with
      queryPairs := b.queryPairs ++ wires.map (fun w => (name, w))
      derivations :=
        b.derivations ++ [derivation key value provenance (some (join "," wires)) "query-form"] }
  else if location = "header" then
    .ok { b with
      headers := b.headers ++ [⟨name, join "," wires⟩]
      derivations :=
        b.derivations ++ [derivation key value provenance (some (join "," wires)) "header"] }
  else if location = "cookie" then
    .ok { b with
      cookies := b.cookies ++ [(name, join "," wires)]
      derivations :=
        b.derivations ++ [derivation key value provenance (some (join "," wires)) "cookie"] }
  else .error (.invalidInput key ("unsupported parameter location " ++ debugQuote location))

/-- The value of a parameter and where it comes from: the supplied one, else
    the default of its schema. -/
def parameterValue (inputs : Inputs) (parameter : List (Str × Value)) (location name : Str) :
    Option (Value × Str) × Inputs :=
  let (taken, inputs) := inputs.take location name
  (taken.or (((lookup "schema" parameter).bind (fun s => s.get "default")).map
    (fun value => (value, "schema-default".toList))), inputs)

/-- The step of the parameter loop. -/
def bindParameter (source : OpenApiSource) (stack : Nat) (b : Bindings)
    (parameter : List (Str × Value)) : Except PlanError Bindings :=
  let (location, name) := parameterKey parameter
  if name = [] ∨ location = [] then .ok b
  else
    let required := ((lookup "required" parameter).bind Value.asBool).getD false ||
      location = "path"
    match parameterValue b.inputs parameter location name with
    | (none, inputs) =>
        if required then .error (.missingParameter location name) else .ok { b with inputs := inputs }
    | (some (value, provenance), inputs) => do
        validateDeclared source stack (lookup "schema" parameter) value (location ++ '.' :: name)
        let wires ← wireValues value parameter
        placeParameter { b with inputs := inputs } location name value provenance wires

/-- The parameter loop. -/
def bindParameters (source : OpenApiSource) (operation : OperationDefinition) (stack : Nat)
    (inputs : Inputs) : Except PlanError Bindings := do
  let declared ← parameters source operation
  declared.foldlM (bindParameter source stack) ⟨inputs, operation.path, [], [], [], []⟩

/-- The cookie header, when there are cookies. -/
def cookieHeader (cookies : List (Str × Str)) : List PlannedHeader :=
  if cookies.isEmpty then []
  else
    let ordered := cookies.insertionSort (fun a b => keyLe a b)
    [⟨"Cookie", join "; " (ordered.map (fun c => c.1 ++ '=' :: c.2))⟩]

/-! ### Grants and checks -/

/-- The first blocking absence of the source or the operation. -/
def blockingAbsence (source : OpenApiSource) (operation : OperationDefinition) : Option Value :=
  ([source.document.get "x-kahea-absent", lookup "x-kahea-absent" operation.operation].flatMap
    (fun value => (value.bind Value.asArray).getD [])).find? (fun absence =>
      ((absence.get "blocking").bind Value.asBool).getD false)

def checkAbsence (source : OpenApiSource) (operation : OperationDefinition) :
    Except PlanError Unit :=
  match blockingAbsence source operation with
  | some absence =>
      .error (.blockingAbsence (((absence.get "location").bind Value.asStr).getD "unknown")
        (((absence.get "reason").bind Value.asStr).getD "unsupported imported behavior"))
  | none => .ok ()

def riskKey (operation : OperationDefinition) : Str :=
  operation.method ++ ' ' :: operation.path

/-- The risk of an operation under the configuration. -/
def effectiveRisk (operation : OperationDefinition) (configuration : ProjectConfiguration) :
    RiskClass :=
  (lookup (riskKey operation) configuration.risk).getD operation.risk

/-- The grants for what the operation does. -/
def approvalGrants (configuration : ProjectConfiguration) (risk : RiskClass) (production : Bool) :
    List Str :=
  (if risk = .destructive then ["approve:destructive".toList] else []) ++
    (if production && configuration.policy.requireProductionWriteApproval && risk.writes then
      ["approve:production-write".toList] else [])

/-- The grants for the credential. -/
def credentialGrants (auth : PlannedAuth) : List Str :=
  ("secret:" ++ auth.profile) ::
    (if auth.placement = "tls-client-certificate" then ["tls-client-cert:" ++ auth.profile] else [])

/-- The grant for a plaintext scheme. -/
def insecureGrants (scheme : Str) : List Str :=
  if scheme = "http" then ["net-insecure-http".toList] else []

/-- The host and the port of a URL, under the errors of the caller. -/
def hostAndPort (url : Url) (noHost noPort : PlanError) : Except PlanError (Str × Nat) :=
  match url.host, url.portOrKnownDefault with
  | none, _ => .error noHost
  | some _, none => .error noPort
  | some host, some port => .ok (host, port)

/-- The grants for a token URL. -/
def tokenGrants (lib : Crates) (tokenUrl : Option Str) : Except PlanError (List Str) :=
  match tokenUrl with
  | none => .ok []
  | some text => match lib.parseUrl text with
    | .error e => .error (.invalidServer ("OAuth token URL: " ++ e))
    | .ok url => do
        let (host, port) ← hostAndPort url (.invalidServer "OAuth token URL has no host")
          (.invalidServer "OAuth token URL has no known port")
        pure ([networkGrant host port, "http:POST".toList] ++ insecureGrants url.scheme)

/-- The grants for the authentication. -/
def authGrants (lib : Crates) (auth : Option PlannedAuth) : Except PlanError (List Str) :=
  match auth with
  | none => .ok []
  | some auth => do
      let token ← tokenGrants lib auth.tokenUrl
      pure (credentialGrants auth ++ token)

/-- The grants for the target. -/
def targetGrants (target : Url) (host : Str) (port : Nat) (method : Str) : List Str :=
  [networkGrant host port, "http:" ++ method] ++ insecureGrants target.scheme ++ literalGrants host

/-- Whether a server configured as production serves the target. -/
def targetsProduction (configuration : ProjectConfiguration) (target : Url) : Bool :=
  configuration.servers.any (fun e => servesOrigin e.2 target && isProduction e.2)

/-- The sorted grants of a plan. -/
def requiredGrants (lib : Crates) (configuration : ProjectConfiguration)
    (operation : OperationDefinition) (target : Url) (host : Str) (port : Nat)
    (auth : Option PlannedAuth) : Except PlanError (List Str) := do
  let credentials ← authGrants lib auth
  pure (sortStrings (targetGrants target host port operation.method ++
    approvalGrants configuration (effectiveRisk operation configuration)
      (targetsProduction configuration target) ++ credentials))

/-- Where a grant of a plan comes from. -/
theorem mem_requiredGrants {lib : Crates} {configuration : ProjectConfiguration}
    {operation : OperationDefinition} {target : Url} {host : Str} {port : Nat}
    {auth : Option PlannedAuth} {grants : List Str}
    (h : requiredGrants lib configuration operation target host port auth = .ok grants) :
    ∃ credentials, authGrants lib auth = .ok credentials ∧ ∀ g, g ∈ grants ↔
      (g ∈ targetGrants target host port operation.method ∨
        g ∈ approvalGrants configuration (effectiveRisk operation configuration)
          (targetsProduction configuration target)) ∨ g ∈ credentials := by
  unfold requiredGrants at h
  simp only [except_bind_ok, except_pure_ok] at h
  rcases h with ⟨credentials, hcredentials, rfl⟩
  refine ⟨credentials, hcredentials, fun g => ?_⟩
  rw [mem_sortStrings, List.mem_append, List.mem_append]

def defaultChecks (operation : OperationDefinition) : List Str :=
  let statuses := sortStrings ((((lookup "responses" operation.operation).bind
    Value.asObject).getD []).map Prod.fst |>.filter (fun s => s.all Char.isDigit))
  let declared := (((lookup "x-kahea-checks" operation.operation).bind
    Value.asArray).getD []).filterMap Value.asStr
  dedup (sortStrings ((if statuses.isEmpty then []
    else ["status:any(" ++ join "," statuses ++ [')']]) ++
      "response-schema:openapi".toList :: declared))

/-- The part of the document responses are checked against. -/
def responseContract (source : OpenApiSource) (operation : OperationDefinition) : Value :=
  jsonObject [("components", (source.document.get "components").getD (.object [])),
    ("responses", (lookup "responses" operation.operation).getD (.object []))]

/-! ### The planner -/

/-- What the stages of the planner produced. -/
structure PlanParts where
  server : Str
  bindings : Bindings
  /-- The target before the query is appended. -/
  base : Url
  body : BoundBody
  auth : Option PlannedAuth
  secretRefs : List Str
  host : Str
  port : Nat
  grants : List Str
  configFingerprint : Str

namespace PlanParts

/-- The target URL of the plan. -/
def target (p : PlanParts) : Url := p.base.appendPairs p.bindings.queryPairs

/-- The plan before it is sealed. -/
def assemble (lib : Crates) (source : OpenApiSource) (operation : OperationDefinition)
    (checks : List Str) (configuration : ProjectConfiguration) (p : PlanParts) : RequestPlan :=
  { protocol := PROTOCOL
    kind := "plan"
    version := VERSION
    configFingerprint := p.configFingerprint
    policyFingerprint := configuration.policyFingerprint lib
    sourceFingerprints := [source.sourceFingerprint]
    id := []
    operation := operation.handle
    target := p.target.serialize
    method := operation.method
    risk := effectiveRisk operation configuration
    requiredGrants := p.grants
    secretRefs := p.secretRefs
    headers := sortBy (fun h => lower h.name)
      (p.bindings.headers ++ cookieHeader p.bindings.cookies ++ p.body.headers)
    auth := p.auth
    body := p.body.body
    checks := if checks.isEmpty then defaultChecks operation else checks
    responseContract := responseContract source operation
    sensitiveHeaders := configuration.policy.sensitiveHeaders
    redactResponseJsonPointers := configuration.policy.redactResponseJsonPointers
    derivations := p.bindings.derivations ++ p.body.derivations
    valid := true
    fingerprint := []
    exit := 0 }

end PlanParts

/-- The selections of the caller, completed by the configured defaults. -/
def PlanOptions.withDefaults (options : PlanOptions) (configuration : ProjectConfiguration) :
    PlanOptions :=
  { options with
    server := options.server.or configuration.defaults.server
    auth := options.auth.or configuration.defaults.auth }

/-- The text of a size limit in the policy error. -/
def sizeError (limit : Nat) : PlanError :=
  .policyDenied ("request body exceeds the " ++ decimal limit ++ " byte policy limit")

section

variable (lib : Crates) (world : World)

/-- The stages of the planner. -/
def planParts (source : OpenApiSource) (operation : OperationDefinition)
    (options : PlanOptions) (configuration : ProjectConfiguration) :
    Eff Event PlanError PlanParts := do
  Eff.ofExcept (checkAbsence source operation)
  let inputs ← Eff.ofExcept (Inputs.fromOptions options.input options.explicit)
  let options := options.withDefaults configuration
  let server ← Eff.ofExcept (selectServer lib source operation options.server configuration)
  let bindings ← Eff.ofExcept (bindParameters source operation world.stack inputs)
  Eff.ofExcept (ensure (!(bindings.targetPath.contains '\x7b'))
    (.invalidInput "target.path" "one or more path variables remain unresolved"))
  let base ← Eff.ofExcept (buildTarget lib server bindings.targetPath)
  let body ← bindBody lib world source operation bindings.inputs options
  let (auth, secretRefs) ← Eff.ofExcept (bindAuth source operation options.auth)
  Eff.ofExcept body.inputs.rejectUnused
  let (host, port) ← Eff.ofExcept (hostAndPort (base.appendPairs bindings.queryPairs)
    (.invalidServer "target has no host") (.invalidServer "target has no port"))
  Eff.ofExcept (enforceHostPolicy host configuration)
  let grants ← Eff.ofExcept (requiredGrants lib configuration operation
    (base.appendPairs bindings.queryPairs) host port auth)
  Eff.ofExcept (ensure (body.body.all (fun b => b.bytes ≤ configuration.policy.maxRequestBytes))
    (sizeError configuration.policy.maxRequestBytes))
  Eff.ofExcept (validateRedactionPolicy configuration)
  let configFingerprint ← Eff.ofExcept (configuration.configFingerprint lib)
  pure ⟨server, bindings, base, body, auth, secretRefs, host, port, grants, configFingerprint⟩

def buildPlanWithConfiguration (source : OpenApiSource) (operation : OperationDefinition)
    (options : PlanOptions) (configuration : ProjectConfiguration) :
    Eff Event PlanError RequestPlan := do
  let parts ← planParts lib world source operation options configuration
  pure ((parts.assemble lib source operation options.checks configuration).sealed lib)

def buildPlan (source : OpenApiSource) (operation : OperationDefinition)
    (options : PlanOptions) : Eff Event PlanError RequestPlan :=
  buildPlanWithConfiguration lib world source operation options .default

end

/-! ### What a returned plan is made of -/

section

variable {lib : Crates} {world : World} {source : OpenApiSource} {operation : OperationDefinition}
  {options : PlanOptions} {configuration : ProjectConfiguration}

/-- Where the parts of a plan come from. -/
structure PlanParts.Sound (lib : Crates) (world : World) (source : OpenApiSource)
    (operation : OperationDefinition) (options : PlanOptions)
    (configuration : ProjectConfiguration) (p : PlanParts) : Prop where
  server : selectServer lib source operation (options.withDefaults configuration).server
    configuration = .ok p.server
  bindings : ∃ inputs, Inputs.fromOptions options.input options.explicit = .ok inputs ∧
    bindParameters source operation world.stack inputs = .ok p.bindings
  resolved : '\x7b' ∉ p.bindings.targetPath
  base : buildTarget lib p.server p.bindings.targetPath = .ok p.base
  auth : bindAuth source operation (options.withDefaults configuration).auth
    = .ok (p.auth, p.secretRefs)
  host : p.target.host = some p.host
  port : p.target.portOrKnownDefault = some p.port
  policy : hostPermitted configuration.policy p.host = true
  grants : requiredGrants lib configuration operation p.target p.host p.port p.auth = .ok p.grants

theorem hostAndPort_ok {url : Url} {noHost noPort : PlanError} {host : Str} {port : Nat} :
    hostAndPort url noHost noPort = .ok (host, port) ↔
      url.host = some host ∧ url.portOrKnownDefault = some port := by
  unfold hostAndPort
  rcases url.host with _ | h <;> rcases url.portOrKnownDefault with _ | p <;>
    simp only [reduceCtorEq, false_and, and_false, Except.ok.injEq, Prod.mk.injEq,
      Option.some.injEq]

theorem placeParameter_inputs {b b' : Bindings} {location name provenance : Str} {value : Value}
    {wires : List Str} (h : placeParameter b location name value provenance wires = .ok b') :
    b'.inputs = b.inputs := by
  unfold placeParameter at h
  split_ifs at h <;> cases h <;> rfl

theorem parameterValue_inputs (inputs : Inputs) (parameter : List (Str × Value))
    (location name : Str) :
    ∃ used, (parameterValue inputs parameter location name).2 = { inputs with used := used } :=
  inputs.take_inputs location name

/-- The step of the parameter loop only marks inputs as used. -/
theorem bindParameter_inputs {stack : Nat} {b b' : Bindings} {parameter : List (Str × Value)}
    (h : bindParameter source stack b parameter = .ok b') :
    ∃ used, b'.inputs = { b.inputs with used := used } := by
  unfold bindParameter at h
  split at h
  rename_i location name hkey
  split at h
  · cases h
    exact ⟨b.inputs.used, rfl⟩
  have hused := parameterValue_inputs b.inputs parameter location name
  -- Only the keys taken are added to the inputs.
  split at h
  · rename_i inputs hvalue
    rw [hvalue] at hused
    dsimp only at h
    split at h
    · cases h
    · cases h
      exact hused
  · rename_i value provenance inputs hvalue
    rw [hvalue] at hused
    simp only [except_bind_ok] at h
    rcases h with ⟨_, _, wires, _, hplace⟩
    rw [placeParameter_inputs hplace]
    exact hused

theorem bindParameters_body {stack : Nat} {inputs : Inputs} {b : Bindings}
    (h : bindParameters source operation stack inputs = .ok b) : b.inputs.body = inputs.body := by
  unfold bindParameters at h
  rw [except_bind_ok] at h
  rcases h with ⟨declared, _, hfold⟩
  exact except_foldlM_invariant (fun b => b.inputs.body = inputs.body) hfold rfl
    (fun _ _ _ _ hstep ht => by
      rcases bindParameter_inputs hstep with ⟨used, hused⟩
      rw [hused]
      exact ht)

/-- The body value a plan is built with. -/
def suppliedBody (operation : OperationDefinition) (options : PlanOptions) : Option Value :=
  (Inputs.fromOptions options.input options.explicit).toOption.bind (fun inputs =>
    (bodyValue operation inputs).1.map Prod.fst)

/-- The files a plan may read: those the fields of its body name. -/
def plannedFiles (operation : OperationDefinition) (options : PlanOptions) : List Str :=
  ((suppliedBody operation options).map bodyFiles).getD []

theorem bodyValue_congr (operation : OperationDefinition) {inputs inputs' : Inputs}
    (h : inputs.body = inputs'.body) :
    (bodyValue operation inputs).1 = (bodyValue operation inputs').1 := by
  unfold bodyValue
  rw [h]
  cases inputs'.body <;> rfl

theorem planParts_ensures (source : OpenApiSource) (operation : OperationDefinition)
    (options : PlanOptions) (configuration : ProjectConfiguration) :
    Ensures (planParts lib world source operation options configuration)
      (PlanParts.Sound lib world source operation options configuration)
      (ReadsOnly (plannedFiles operation options)) := by
  unfold planParts
  -- Each stage of the planner adds its clause; only the body reads a file.
  refine .bind (.ofExcept fun _ _ => trivial) (fun _ _ => ?_)
  refine .bind (.ofExcept fun _ h => h) (fun inputs hinputs => ?_)
  refine .bind (.ofExcept fun _ h => h) (fun server hserver => ?_)
  refine .bind (.ofExcept fun _ h => h) (fun bindings hbindings => ?_)
  refine .bind (.ofExcept fun _ h => h) (fun _ hresolved => ?_)
  refine .bind (.ofExcept fun _ h => h) (fun base hbase => ?_)
  refine .bind ((bindBody_ensures source operation bindings.inputs
    (options.withDefaults configuration)).mono (fun _ _ => trivial) ?_) (fun body _ => ?_)
  · intro e he
    rw [bodyValue_congr operation (bindParameters_body hbindings)] at he
    simpa only [plannedFiles, suppliedBody, hinputs, Except.toOption, Option.bind_some,
      Option.map_map, Function.comp_def] using he
  refine .bind (.ofExcept fun _ h => h) (fun auth hauth => ?_)
  refine .bind (.ofExcept fun _ _ => trivial) (fun _ _ => ?_)
  refine .bind (.ofExcept fun _ h => h) (fun hostPort hhost => ?_)
  refine .bind (.ofExcept fun _ h => h) (fun _ hpolicy => ?_)
  refine .bind (.ofExcept fun _ h => h) (fun grants hgrants => ?_)
  refine .bind (.ofExcept fun _ _ => trivial) (fun _ _ => ?_)
  refine .bind (.ofExcept fun _ _ => trivial) (fun _ _ => ?_)
  refine .bind (.ofExcept fun _ _ => trivial) (fun fingerprint _ => ?_)
  rw [ensure_ok, Bool.not_eq_true', List.contains_eq_mem, decide_eq_false_iff_not] at hresolved
  rw [hostAndPort_ok] at hhost
  exact .pure
    { server := hserver
      bindings := ⟨inputs, hinputs, hbindings⟩
      resolved := hresolved
      base := hbase
      auth := hauth
      host := hhost.1
      port := hhost.2
      policy := (enforceHostPolicy_ok _ _ _).mp hpolicy
      grants := hgrants }

/-- A returned plan is assembled from parts each of which comes from its
    stage. -/
theorem buildPlanWithConfiguration_ok {past : List Event} {plan : RequestPlan}
    (h : (buildPlanWithConfiguration lib world source operation options configuration past).1
      = .ok plan) :
    ∃ parts, (planParts lib world source operation options configuration past).1 = .ok parts ∧
      PlanParts.Sound lib world source operation options configuration parts ∧
      plan = (parts.assemble lib source operation options.checks configuration).sealed lib := by
  rcases Eff.bind_ok h with ⟨parts, hparts, hplan⟩
  cases hplan
  exact ⟨parts, hparts,
    (planParts_ensures source operation options configuration past).1 parts hparts, rfl⟩

/-- Planning reads only files named by the body value it is given. -/
theorem buildPlanWithConfiguration_ensures :
    Ensures (buildPlanWithConfiguration lib world source operation options configuration)
      (fun _ => True) (ReadsOnly (plannedFiles operation options)) :=
  .bind (planParts_ensures source operation options configuration) (fun _ _ => .pure trivial)

end

end Kahea
