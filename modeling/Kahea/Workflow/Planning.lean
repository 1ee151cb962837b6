import Kahea.Mcp.Inspect
import Kahea.Plan.Request
import Kahea.Workflow.Pointing

/-!
# Planning a Workflow

The planner of workflows: the sources a document describes, the steps in their
order and the plan they are sealed into.

A step is planned against the steps before it. It must have a new name and
depend on earlier steps only, so the order of the document is an order in which
the steps can run. The planner does not build the requests of the steps, it
only looks ahead at the grants they will need (`previewGrants`). A session is
built, and its sealed plan is a part of the plan of the workflow.

The files beside the document are a parameter, with what the parser and the
loader of sources make of them.

## Main definitions

* `LocalSources`, `loadSources`: The sources of a document.
* `previewGrants`: The grants of a request step.
* `parseWebsocketBindings`: The bindings of a session step.
* `planStep`: One step.
* `buildWorkflowPlan`: The planner.
-/

namespace Kahea

/-! ### Sources -/

def WEBSOCKET_SOURCE_EXTENSION : Str := "x-kahea-source-kind"

def WEBSOCKET_SOURCE_KIND : Str := "websocket-session"

/-- The files beside a document: where a relative URL leads, what is read there
    and what the functions `parse_data_document` and `load_source` make of it. -/
structure LocalSources where
  beside : Str → Str
  read : Str → Except Str (List UInt8)
  parse : Str → List UInt8 → Except IngestError Value
  load : Str → List UInt8 → Except IngestError OpenApiSource

namespace WorkflowSource

def document : WorkflowSource → Value
  | http source => source.document
  | websocket _ _ document _ => document

def sourceFingerprint : WorkflowSource → Str
  | http source => source.sourceFingerprint
  | websocket _ _ _ sourceFingerprint => sourceFingerprint

end WorkflowSource

/-- A text that is there, as it is shown in an error. -/
def someQuote (text : Str) : Str := "Some(" ++ debugQuote text ++ ")"

section

variable (lib : Crates) (files : LocalSources)

/-- Whether a description is one of a session. A session has no source type,
    and the only other sources are OpenAPI documents. -/
def describesSession (name : Str) (description : Value) : Except WorkflowError Bool := do
  let sourceType := description.text "type"
  let extensionKind := description.text WEBSOCKET_SOURCE_EXTENSION
  ensure (extensionKind.all (fun kind => kind = WEBSOCKET_SOURCE_KIND)) (.invalid
    ("source " ++ debugQuote name ++ " has unsupported " ++ WEBSOCKET_SOURCE_EXTENSION ++
      " value " ++ someQuote (extensionKind.getD [])))
  ensure (extensionKind.isNone || sourceType.isNone) (.invalid
    ("WebSocket source " ++ debugQuote name ++ " uses " ++ WEBSOCKET_SOURCE_EXTENSION ++
      " and must not mislabel the direct session as an Arazzo source type"))
  ensure (extensionKind.isSome || sourceType.all (fun kind => kind = "openapi".toList)) (.invalid
    ("source " ++ debugQuote name ++ " has unsupported type " ++ someQuote (sourceType.getD [])))
  pure extensionKind.isSome

/-- The source of a file. -/
def fileSource (name path : Str) (bytes : List UInt8) (isSession : Bool) :
    Except WorkflowError WorkflowSource :=
  if isSession then do
    let document ← (files.parse path bytes).mapError (fun e => .source e.text)
    ensure (isWebsocketSession document) (.invalid
      ("source " ++ debugQuote name ++ " must be a websocket-session document"))
    pure (.websocket path bytes document (digest lib bytes))
  else do
    let source ← (files.load path bytes).mapError (fun e => WorkflowError.source e.text)
    pure (.http source)

/-- One description. What parses as a URL of its own is not read. -/
def loadDescription (description : Value) : Except WorkflowError (Str × WorkflowSource) := do
  let name ← okOr (.invalid "source description requires name") (description.text "name")
  let isSession ← describesSession name description
  let url ← okOr (.invalid ("source " ++ debugQuote name ++ " requires url"))
    (description.text "url")
  ensure (!parsesAsUrl lib url) (.invalid ("remote workflow source " ++ debugQuote url ++
    " is denied during no-network planning; use a local relative path"))
  let path := files.beside url
  let bytes ← (files.read path).mapError (fun reason =>
    .source ("could not read " ++ path ++ ": " ++ reason))
  let source ← fileSource lib files name path bytes isSession
  pure (name, source)

/-- The sources of a document, by name. Of two under one name the last one
    stays. -/
def loadSources (document : Value) : Except WorkflowError (List (Str × WorkflowSource)) := do
  let descriptions ← okOr (.invalid "sourceDescriptions must be an array")
    (document.list "sourceDescriptions")
  descriptions.foldlM (fun sources description => do
    let (name, source) ← loadDescription lib files description
    pure (insert name source sources)) []

end

/-- The required inputs are there. -/
def validateWorkflowInputs (schema : Option Value) (input : Value) : Except WorkflowError Unit :=
  match schema with
  | none => .ok ()
  | some schema => do
      let object ← okOr (.invalid "workflow input must be an object") input.asObject
      (((schema.list "required").getD []).filterMap Value.asStr).forM (fun name =>
        ensure (lookup name object).isSome
          (.invalid ("workflow input " ++ debugQuote name ++ " is required")))

/-! ### The grants of a request step -/

/-- The addresses the function `preview_grants` calls unsafe. -/
def previewUnsafe (address : IpAddr) : Bool :=
  address.isLoopback || isPrivate address || isLinkLocal address

/-- The grants for a host and its port, under the scheme of the URL. -/
def previewHostGrants (url : Url) (host : Str) (port : Nat) : List Str :=
  networkGrant host port :: (insecureGrants url.scheme ++ (match parseIpAddr host with
    | some address => if previewUnsafe address then [cidrGrant address] else []
    | none => []))

section

variable (source : OpenApiSource) (operation : OperationDefinition)

/-- The list of servers nearest to an operation. -/
def nearestServers : Option (List Value) :=
  ((((lookup "servers" operation.operation).or (lookup "servers" operation.pathItem)).or
    (source.document.get "servers")).bind Value.asArray)

/-- The server a step will be sent to: the requested one, which may be
    configured, or the only one that is declared. -/
def previewServer (requestedServer : Option Str) (configuration : ProjectConfiguration) :
    Except WorkflowError Str :=
  match requestedServer with
  | some requested => .ok (match lookup requested configuration.servers with
      | some configured => configured.url
      | none => requested)
  | none => match nearestServers source operation with
    | none => .error (.invalid
        ("operation " ++ debugQuote operation.operationId ++ " has no server"))
    | some [server] => okOr (.invalid "server URL is missing") (server.text "url")
    | some _ => .error (.invalid ("operation " ++ debugQuote operation.operationId ++
        " requires explicit server selection"))

/-- The variables of a server, replaced by their defaults. -/
def resolvePreviewServerVariables (server : Str) : Except WorkflowError Str :=
  if !server.contains '\x7b' then .ok server
  else do
    let object ← okOr (.invalid "server variables cannot be resolved")
      (((nearestServers source operation).getD []).find? (fun candidate =>
        candidate.text "url" = some server))
    let resolved ← (((object.get "variables").bind Value.asObject).getD []).foldlM
      (fun resolved entry => do
        let default ← okOr (.invalid ("server variable " ++ debugQuote entry.1 ++
          " has no default")) (entry.2.text "default")
        pure (replaceAll ('\x7b' :: entry.1 ++ ['\x7d']) default resolved)) server
    ensure (!resolved.contains '\x7b')
      (.invalid "not all workflow server variables have defaults")
    pure resolved

end

/-- A security scheme, through one reference. -/
def resolveSecurityScheme (document : Value) (name : Str) : Option Value :=
  (document.pointer ("/components/securitySchemes/" ++ escapePointer name)).bind (fun scheme =>
    match scheme.text "$ref" with
    | some reference => (stripPrefix "#" reference).bind document.pointer
    | none => some scheme)

section

variable (lib : Crates)

def previewUrlGrants (url : Str) : Except WorkflowError (List Str) :=
  match lib.parseUrl url with
  | .error e => .error (.invalid e)
  | .ok url => do
      let host ← okOr (.invalid "OAuth token URL has no host") url.host
      let port ← okOr (.invalid "OAuth token URL has no port") url.portOrKnownDefault
      pure (previewHostGrants url host port)

/-- The grants for the credential of a step. -/
def previewAuthGrants (document : Value) (auth : Str) : Except WorkflowError (List Str) := do
  let (schemeName, profile) := (splitOnce "=" auth).getD (auth, auth)
  let secret := "secret:" ++ profile
  match resolveSecurityScheme document schemeName with
  | none => pure [secret]
  | some scheme => do
      let certificate := if scheme.text "type" = some "mutualTLS".toList
        then ["tls-client-cert:" ++ profile] else []
      match ((scheme.pointer "/flows/clientCredentials/tokenUrl").or
          (scheme.pointer "/flows/authorizationCode/tokenUrl")).bind Value.asStr with
      | none => pure (secret :: certificate)
      | some tokenUrl => do
          let token ← previewUrlGrants lib tokenUrl
          pure (secret :: certificate ++ token ++ ["http:POST".toList])

/-- The grants a request step will need, as far as they are known before it is
    planned. -/
def previewGrants (source : OpenApiSource) (operation : OperationDefinition)
    (requestedServer auth : Option Str) (configuration : ProjectConfiguration) :
    Except WorkflowError (List Str) := do
  let server ← previewServer source operation requestedServer configuration
  let server ← resolvePreviewServerVariables source operation server
  let url ← (lib.parseUrl server).mapError WorkflowError.invalid
  let host ← okOr (.invalid "server host is missing") url.host
  let port ← okOr (.invalid "server port is missing") url.portOrKnownDefault
  ensure (!(configuration.policy.deniedHosts.any (eqIgnoreCase · host)))
    (.invalid ("host " ++ debugQuote host ++ " is denied by project policy"))
  ensure (configuration.policy.allowedHosts.isEmpty ||
      configuration.policy.allowedHosts.any (eqIgnoreCase · host))
    (.invalid ("host " ++ debugQuote host ++ " is outside the configured allowlist"))
  let risk := effectiveRisk operation configuration
  let production := configuration.servers.any (fun e => servesOrigin e.2 url && isProduction e.2)
  let credential ← match auth with
    | some auth => previewAuthGrants lib source.document auth
    | none => pure []
  pure (previewHostGrants url host port ++ ["http:" ++ operation.method] ++
    approvalGrants configuration risk production ++ credential)

end

/-! ### Risk -/

/-- The function `rank`. -/
def RiskClass.rank : RiskClass → Nat
  | read => 0
  | write => 1
  | destructive => 2
  | unknown => 3

def maximumRisk (left right : RiskClass) : RiskClass :=
  if right.rank ≤ left.rank then left else right

/-! ### The parts of a step -/

mutual

/-- The texts of a value that begin with a dollar sign. -/
def collectRuntimeExpressions : Value → List Str
  | .string text => if startsWith "$" text then [text] else []
  | .array values => collectItemExpressions values
  | .object members => collectMemberExpressions members
  | _ => []

def collectItemExpressions : List Value → List Str
  | [] => []
  | value :: rest => collectRuntimeExpressions value ++ collectItemExpressions rest

def collectMemberExpressions : List (Str × Value) → List Str
  | [] => []
  | (_, value) :: rest => collectRuntimeExpressions value ++ collectMemberExpressions rest

end

/-- A binding selects a payload or an expectation of an action. -/
def validateWebsocketBindingPointer (pointer : Str) : Except WorkflowError Unit :=
  ensure (match pointer.splitOn '/' with
    | [first, actions, index, field] => first.isEmpty && decide (actions = "actions".toList) &&
        (parseUnsigned u64Bound index).isSome &&
        oneOf ["text", "payload_base64", "equals", "reason"] field
    | _ => false)
    (.invalid ("WebSocket binding pointer " ++ debugQuote pointer ++
      " must select a bounded action payload or expectation field"))

/-- The loop over the bindings; `pointers` are those seen before. -/
def websocketBindingsFrom (source : Value) (pointers : List Str) :
    List Value → Except WorkflowError (List WorkflowWebSocketBinding)
  | [] => .ok []
  | binding :: rest => do
      let pointer ← okOr (.invalid "WebSocket binding requires pointer") (binding.text "pointer")
      validateWebsocketBindingPointer pointer
      ensure (source.pointer pointer).isSome (.invalid ("WebSocket binding pointer " ++
        debugQuote pointer ++ " does not select an existing value"))
      ensure (!pointers.contains pointer) (.invalid ("duplicate WebSocket binding pointer " ++
        debugQuote pointer))
      let value ← okOr (.invalid ("WebSocket binding " ++ debugQuote pointer ++
        " requires a value")) (binding.get "value")
      let rest ← websocketBindingsFrom source (pointer :: pointers) rest
      pure (⟨pointer, value⟩ :: rest)

def parseWebsocketBindings (step source : Value) :
    Except WorkflowError (List WorkflowWebSocketBinding) :=
  match step.get "x-kahea-websocket-bindings" with
  | none => .ok []
  | some bindings => do
      let bindings ← okOr (.invalid "x-kahea-websocket-bindings must be an array") bindings.asArray
      ensure (bindings.length ≤ 64)
        (.invalid "a WebSocket workflow step supports at most 64 explicit bindings")
      websocketBindingsFrom source [] bindings

section

variable (stepId : Str) (step : Value)

/-- The steps a step depends on, each of which is an earlier one. -/
def stepDependencies (earlier : List Str) : Except WorkflowError (List Str) := do
  let dependsOn ← ((step.list "dependsOn").getD []).mapM (fun dependency =>
    okOr (.invalid ("step " ++ debugQuote stepId ++ " dependsOn values must be strings"))
      dependency.asStr)
  dependsOn.forM (fun dependency => ensure (earlier.contains dependency)
    (.invalid ("step " ++ debugQuote stepId ++ " dependency " ++ debugQuote dependency ++
      " must reference an earlier step")))
  pure dependsOn

/-- The parameters of a step, as they are declared. -/
def stepBindings : Except WorkflowError (List WorkflowParameterBinding) :=
  ((step.list "parameters").getD []).mapM (fun parameter => do
    let name ← okOr (.invalid ("step " ++ debugQuote stepId ++ " parameter has no name"))
      (parameter.text "name")
    let value ← okOr (.invalid ("step " ++ debugQuote stepId ++ " parameter has no value"))
      (parameter.get "value")
    pure { name := name, location := parameter.text "in", value := value })

/-- The body of a step. -/
def stepRequestBody : Option Value :=
  (step.get "requestBody").bind (fun body => (body.get "payload").or (body.get "content"))

/-- The bindings of a step: a session has no parameters and no body, and a
    request has no bindings. -/
def stepWebsocketBindings (transport : WorkflowStepTransport)
    (parameters : List WorkflowParameterBinding) (source : Value) :
    Except WorkflowError (List WorkflowWebSocketBinding) :=
  match transport with
  | .webSocket => do
      ensure (parameters.isEmpty && (stepRequestBody step).isNone) (.invalid ("WebSocket step " ++
        debugQuote stepId ++
        " uses x-kahea-websocket-bindings, not HTTP parameters or requestBody"))
      parseWebsocketBindings step source
  | .http => do
      ensure (step.get "x-kahea-websocket-bindings").isNone (.invalid ("HTTP step " ++
        debugQuote stepId ++ " cannot declare x-kahea-websocket-bindings"))
      pure []

/-- The outputs of a step. -/
def stepOutputs : List (Str × Value) := ((step.get "outputs").bind Value.asObject).getD []

/-- The checks of the outputs, the criteria and the actions of a step. A session
    has no criteria. -/
def validateStep (lib : Crates) (transport : WorkflowStepTransport) : Except WorkflowError Unit := do
  let successCriteria := valueArray step "successCriteria"
  let actions := valueArray step "onSuccess" ++ valueArray step "onFailure"
  match transport with
  | .webSocket => do
      (stepOutputs step).forM (fun output => validateWebsocketOutputExpression output.2)
      ensure successCriteria.isEmpty (.invalid ("WebSocket step " ++ debugQuote stepId ++
        " expresses success through its sealed expect actions"))
  | .http => successCriteria.forM (fun criterion => (criterionToCheck lib criterion).map (fun _ => ()))
  validateActions lib stepId (valueArray step "onSuccess") true
  validateActions lib stepId (valueArray step "onFailure") false
  ensure (transport = .http || actions.all (fun action => (actionCriteria action).isEmpty))
    (.invalid ("WebSocket step " ++ debugQuote stepId ++
      " supports deterministic retry/end actions without HTTP response criteria"))

end

/-! ### The planner -/

/-- What a step is sent with: its transport, the sealed child plan of a session,
    its risk and the grants it needs. -/
structure StepTransport where
  transport : WorkflowStepTransport
  websocketPlan : Option WebSocketPlan
  risk : RiskClass
  grants : List Str

/-- What the steps before have come to. -/
structure PlannedSteps where
  stepIds : List Str
  requiredGrants : List Str
  risk : RiskClass
  steps : List WorkflowStepTemplate

section

variable (lib : Crates) (describe : Value → Str) (configuration : ProjectConfiguration)

/-- The function `build_websocket_plan_with_configuration` for bytes that were
    parsed before. -/
def sessionDocumentPlan (bytes : List UInt8) (document : Value) : Except PlanError WebSocketPlan :=
  match WebSocketSessionSource.fromJson document with
  | none => .error (.invalidWebSocketSource (describe document))
  | some source => do
      validateWebsocketSourceIdentity source
      let sourceFingerprint := digest lib bytes
      let operation := shortHandle lib "op" [utf8 sourceFingerprint, utf8 source.operationId]
      sealWebsocketSource lib source [sourceFingerprint] operation configuration

/-- The transport of a step whose operation was selected. -/
def stepTransport (server auth : Option Str) (stepId sourceName selector : Str) :
    WorkflowSource → Except WorkflowError StepTransport
  | .http source => do
      let operation ← (resolveOperation lib source selector).mapError (fun e => .source e.text)
      let grants ← previewGrants lib source operation server auth configuration
      pure ⟨.http, none, effectiveRisk operation configuration, grants⟩
  | .websocket _ bytes document _ => do
      let plan ← (sessionDocumentPlan lib describe configuration bytes document).mapError (fun e =>
        .stepPlan stepId e.text)
      let operationId ← okOr (.invalid ("WebSocket source " ++ debugQuote sourceName ++
        " has no operationId")) (document.text "operationId")
      ensure (selector = operationId || selector = plan.operation) (.invalid
        ("WebSocket step " ++ debugQuote stepId ++ " selects unknown operation " ++
          debugQuote selector))
      pure ⟨.webSocket, some plan, plan.risk, plan.requiredGrants⟩

/-- One step, after the steps before it. -/
def planStep (sources : List (Str × WorkflowSource)) (server auth : Option Str)
    (before : PlannedSteps) (step : Value) : Except WorkflowError PlannedSteps := do
  let stepId ← okOr (.invalid "every step requires stepId") (step.text "stepId")
  ensure (!before.stepIds.contains stepId) (.invalid ("duplicate stepId " ++ debugQuote stepId))
  let dependsOn ← stepDependencies stepId step before.stepIds
  let (sourceName, selector) ← stepOperation sources step
  let source ← okOr (.invalid "internal error: step source was resolved") (lookup sourceName sources)
  let sent ← stepTransport lib describe configuration server auth stepId sourceName selector source
  let parameters ← stepBindings stepId step
  let websocketBindings ← stepWebsocketBindings stepId step sent.transport parameters source.document
  validateStep stepId step lib sent.transport
  pure
    { stepIds := stepId :: before.stepIds
      requiredGrants := before.requiredGrants ++ sent.grants
      risk := maximumRisk before.risk sent.risk
      steps := before.steps ++ [
        { stepId := stepId
          sourceName := sourceName
          sourceDocument := source.document
          sourceFingerprint := source.sourceFingerprint
          operation := selector
          parameters := parameters
          requestBody := stepRequestBody step
          outputs := stepOutputs step
          deferredBindings := dedup (sortStrings (collectRuntimeExpressions step))
          dependsOn := dependsOn
          successCriteria := valueArray step "successCriteria"
          onSuccess := valueArray step "onSuccess"
          onFailure := valueArray step "onFailure"
          timeoutMs := (step.get "timeout").bind Value.asU64
          transport := sent.transport
          websocketPlan := sent.websocketPlan
          websocketBindings := websocketBindings }] }

/-- The workflow of a document. -/
def selectWorkflow (document : Value) (workflowId : Str) : Except WorkflowError Value := do
  let workflows ← okOr (.invalid "workflows must be a non-empty array") (document.list "workflows")
  okOr (.unknownWorkflow workflowId)
    (workflows.find? (fun workflow => workflow.text "workflowId" = some workflowId))

/-- The steps of a workflow. -/
def workflowSteps (workflow : Value) : Except WorkflowError (List Value) := do
  let steps ← okOr (.invalid "workflow steps must be a non-empty array") (workflow.list "steps")
  ensure (1 ≤ steps.length && steps.length ≤ 100)
    (.invalid "workflow must contain between 1 and 100 steps")
  pure steps

/-- The plan of planned steps, before it is sealed. -/
def assembleWorkflow (document : Value) (sources : List (Str × WorkflowSource)) (workflowId : Str)
    (input : Value) (auth server : Option Str) (checks : List Str) (planned : PlannedSteps)
    (configFingerprint : Str) : WorkflowPlan :=
  { protocol := PROTOCOL
    kind := "workflow-plan"
    version := VERSION
    configFingerprint := configFingerprint
    policyFingerprint := configuration.policyFingerprint lib
    sourceFingerprints := sortStrings (sources.map (fun e => e.2.sourceFingerprint) ++
      [digest lib (utf8 document.render)])
    id := []
    workflow := workflowId
    input := input
    steps := planned.steps
    risk := planned.risk
    requiredGrants := dedup (sortStrings planned.requiredGrants)
    auth := auth
    server := server
    checks := checks
    websocketPolicyFingerprint :=
      if planned.steps.any (fun step => decide (step.transport = .webSocket)) then
        some (configuration.websocketPolicyFingerprint lib) else none
    fingerprint := []
    exit := 0 }

def buildWorkflowPlan (files : LocalSources) (document : Value) (workflowId : Str) (input : Value)
    (auth server : Option Str) (checks : List Str) : Except WorkflowError WorkflowPlan := do
  ensure (isArazzo document) (.invalid "expected an Arazzo 1.1.x document")
  let workflow ← selectWorkflow document workflowId
  validateWorkflowInputs (workflow.get "inputs") input
  let sources ← loadSources lib files document
  let stepValues ← workflowSteps workflow
  let planned ← stepValues.foldlM (planStep lib describe configuration sources server auth)
    ⟨[], [], .read, []⟩
  let configFingerprint ← (configuration.configFingerprint lib).mapError (fun e =>
    WorkflowError.invalid e.text)
  pure ((assembleWorkflow lib configuration document sources workflowId input auth server checks
    planned configFingerprint).sealed lib)

end

end Kahea
