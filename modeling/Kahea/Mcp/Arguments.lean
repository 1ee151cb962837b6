import Kahea.Conformance.Campaign
import Kahea.Conformance.Generation
import Kahea.Core.Survival
import Kahea.Ingest.Addressing
import Kahea.Ingest.Shapes
import Kahea.Mcp.Inspect

/-!
# Tool Calls

The call of a tool: its arguments, the schema they are declared with, and the
readers that take them apart.

The declaration of a tool is a schema (`tools`), and what a schema admits is
decided by recursion over it (`ArgumentSchema.admits`). The call itself looks at
one level of it: an argument that is not declared is refused, and everything
else is up to the readers, of which most take an argument of the wrong type for
an argument that is not there. What the tools call is a parameter (`Backend`),
so that the results hold of every source, store and policy.

## Main definitions

* `ArgumentSchema`: The schemas arguments are declared with.
* `callTool`: A call, with what it does to the outside as a trace.
* `SchemaConforms`: The arguments satisfy the declared schema.
* `Refused`: The arguments fail one of the checks that are made.
* `Enforced`: A call enforces the declaration.

## Theorems

* `rejects_of_refused`: Arguments that fail a check have no effect.
* `not_rejects`: All others reach what the tool calls.
* `not_replaced`: No argument of a conforming call is replaced.
* `callTool_enforced_iff`: When the declaration is enforced.
-/

namespace Kahea

/-! ### Declared schemas -/

/-- The JSON schemas the arguments of the tools are declared with. -/
inductive ArgumentSchema where
  | any
  | string
  | integer (minimum : Nat) (maximum : Option Nat)
  | choice (names : List Str)
  | array (items : ArgumentSchema)
  | object (properties : List (Str × ArgumentSchema)) (required : List Str)
      (additional : Option ArgumentSchema)

namespace ArgumentSchema

mutual

/-- A schema admits a value. An integer below zero is below every minimum. -/
def admits : ArgumentSchema → Value → Bool
  | any, _ => true
  | string, value => value.asStr.isSome
  | integer minimum maximum, value =>
      value.asU64.any (fun n => decide (minimum ≤ n) && maximum.all (fun m => decide (n ≤ m)))
  | choice names, value => value.asStr.any (fun name => names.contains name)
  | array items, value => value.asArray.any (fun values => values.all (fun v => items.admits v))
  | object properties required additional, value =>
      value.asObject.any (fun members => required.all (fun key => (lookup key members).isSome) &&
        members.all (fun e => (admitsProperty properties e.1 e.2).getD
          (admitsOther additional e.2)))

/-- Whether a property admits a value, if there is the property. -/
def admitsProperty : List (Str × ArgumentSchema) → Str → Value → Option Bool
  | [], _, _ => none
  | (name, schema) :: rest, key, value =>
      if key = name then some (schema.admits value) else admitsProperty rest key value

/-- Whether a value is admitted under a name that is no property. -/
def admitsOther : Option ArgumentSchema → Value → Bool
  | none, _ => false
  | some schema, value => schema.admits value

end

/-- The names of the properties. -/
def properties : ArgumentSchema → List Str
  | object properties _ _ => properties.map Prod.fst
  | _ => []

end ArgumentSchema

open ArgumentSchema in
/-- An object with declared properties and no others. -/
def objectSchema (properties : List (String × ArgumentSchema)) (required : List String) :
    ArgumentSchema :=
  object (properties.map (fun p => (p.1.toList, p.2))) (required.map String.toList) none

open ArgumentSchema in
/-- The options of a campaign. -/
def conformanceSchema : ArgumentSchema :=
  objectSchema [("cases", integer 1 (some 256)), ("seed", integer 0 none),
    ("mode", choice ["positive".toList, "negative".toList, "mixed".toList]),
    ("delay_ms", integer 0 (some 60000)), ("max_failures", integer 1 (some 256))] []

open ArgumentSchema in
/-- The tools, each with the schema of its arguments. -/
def tools : List (Str × ArgumentSchema) :=
  [("kahea_inspect".toList, objectSchema [("source", string), ("match", string),
      ("limit", integer 1 (some 1000)), ("cursor", integer 0 none)] ["source"]),
   ("kahea_plan".toList, objectSchema [("source", string), ("operation", string), ("input", any),
      ("set", array string), ("server", string), ("auth", string), ("content_type", string),
      ("checks", array string), ("conformance", conformanceSchema)] ["source", "operation"]),
   ("kahea_invoke".toList, objectSchema [("plan", string), ("grants", array string),
      ("secret_env", object [] [] (some string)), ("timeout_ms", integer 1 none),
      ("max_response_bytes", integer 1 none)] ["plan", "grants"]),
   ("kahea_explain".toList, objectSchema [("handle", string), ("select", string)] ["handle"])]

/-! ### Readers -/

/-- The function `optional_string`. -/
def optionalString (value : Value) (key : Str) : Option Str := value.text key

/-- A member that is a 64-bit integer, or a default. -/
def numberOr (value : Value) (key : Str) (default : Nat) : Nat :=
  ((value.get key).bind Value.asU64).getD default

/-- The function `string_array`. -/
def stringValues (value : Value) (key : Str) : Except McpError (List Str) :=
  ((value.list key).getD []).mapM (fun item =>
    okOr (.invalid (key ++ " values must be strings")) item.asStr)

/-- A text that is split at its last colon. -/
def rsplitColon (s : Str) : Option (Str × Str) :=
  (splitOnce [':'] s.reverse).map (fun parts => (parts.2.reverse, parts.1.reverse))

def validateHandle (handle : Str) : Except McpError Unit := do
  let (kind, suffix) ← okOr (.invalid "resource handle is malformed") (rsplitColon handle)
  ensure (!kind.isEmpty && suffix.length == 12 &&
      kind.all (fun c => ('a' ≤ c && c ≤ 'z') || c == '-') &&
      suffix.all (fun c => c.isDigit || ('a' ≤ c && c ≤ 'f') || ('A' ≤ c && c ≤ 'F')))
    (.invalid "resource handle is malformed")

def PLAN_KINDS : List Str :=
  ["plan".toList, "workflow-plan".toList, "conformance-plan".toList]

def planReferenceError : McpError :=
  .invalid "plan must be a sealed plan handle stored by this server, not a filesystem path"

def planLoadError : McpError :=
  .invalid "plan handle does not resolve to a sealed plan in this store"

def validatePlanReference (reference : Str) : Except McpError Unit := do
  (validateHandle reference).mapError (fun _ => planReferenceError)
  ensure (((rsplitColon reference).map Prod.fst).any (fun kind => PLAN_KINDS.contains kind))
    planReferenceError

/-- The path of an explicit field, if the text is one. -/
def explicitKey (text : Str) : Option (Str × Str) :=
  (splitOnce ['='] text).bind (fun parts =>
    if '.' ∉ parts.1 ∨ endsWith ['.'] parts.1 then none else some parts)

/-- The function `parse_explicit_field`, over a reader of JSON. -/
def parseExplicitField (parse : Str → Option Value) (text : Str) :
    Except PlanError (Str × Value) :=
  (okOr (.invalidExplicitField text) (explicitKey text)).map (fun parts =>
    (parts.1, (parse parts.2).getD (.string parts.2)))

/-- Whether a text names a plan of a store. -/
def isPlanReference (text : Str) : Bool := (validatePlanReference text).toOption.isSome

/-! ### Calls -/

/-- What a call does to the outside. -/
inductive ToolEvent where
  | openedEvidence
  | storedPlan (plan : StoredPlan) (requests : List RequestPlan)
  | executed (plan : StoredPlan)

/-- The text of an error. -/
def ConformanceError.text : ConformanceError → Str
  | invalidOption reason => "conformance option error: " ++ reason
  | generation path reason => "schema generation error at " ++ path ++ ": " ++ reason
  | noCases kind => "no distinct " ++ kind ++ " conformance cases could be generated"
  | plan reason => "request planning failed: " ++ reason
  | invalidSeal => "conformance plan seal is invalid"
  | invalidCase name =>
      "stored case plan " ++ debugQuote name ++ " does not match the campaign"
  | evidence reason => "conformance evidence error: " ++ reason

/-- What the tools call: the files, the configuration, the planners, the store
    and the executors. None of them is handed the arguments, only what the
    readers made of them. -/
structure Backend where
  lib : Crates
  lowercase : Str → Str
  describe : Value → Str
  parse : Str → Option Value
  read : Str → Except Str SourceFile
  parseError : Str → Str
  configuration : Except Str ProjectConfiguration
  environment : Str → Option Str
  resolveOperation : OpenApiSource → Str → Except Str OperationDefinition
  websocketPlan : Str → List UInt8 → ProjectConfiguration → Except Str WebSocketPlan
  asyncapiPlan : Str → List UInt8 → Str → PlanOptions → ProjectConfiguration →
    Except Str WebSocketPlan
  workflowPlan : Str → Value → Str → Value → Option Str → Option Str → List Str →
    ProjectConfiguration → Except Str WorkflowPlan
  conformancePlan : OpenApiSource → OperationDefinition → ConformanceOptions →
    ProjectConfiguration → Except Str (ConformancePlan × List RequestPlan)
  requestPlan : OpenApiSource → OperationDefinition → PlanOptions → ProjectConfiguration →
    Except Str RequestPlan
  store : StoredPlan → List RequestPlan → Eff ToolEvent Str Unit
  planPath : Str → Option Str
  planKind : Str → Option Str
  evidence : Except Str Unit
  load : PlanKind → Str → Option StoredPlan
  execute : StoredPlan → InvokeOptions → ProjectConfiguration → Eff ToolEvent Str Value
  explain : Str → Option Str → Except Str Value

def AbsentCapability.toJson (a : AbsentCapability) : Value :=
  jsonObject [("blocking", .bool a.blocking), ("capability", .string a.capability),
    ("location", .string a.location), ("reason", .string a.reason),
    ("severity", .string a.severity.text)]

/-- A summary is a tuple. -/
def OperationSummary.toJson (o : OperationSummary) : Value :=
  .array [.string o.handle, .string o.method, .string o.path, .string o.operationId,
    .string o.risk.text]

def OperationIndexEnvelope.toJson (index : OperationIndexEnvelope) : Value :=
  jsonObject [("absent", .array (index.absent.map AbsentCapability.toJson)),
    ("config_fingerprint", .string index.configFingerprint), ("exit", jsonNat index.exit),
    ("kind", .string index.kind), ("next", optional Value.string index.next),
    ("operations", .array (index.operations.map OperationSummary.toJson)),
    ("protocol", .string index.protocol), ("source", .string index.source),
    ("source_fingerprints", stringArray index.sourceFingerprints),
    ("version", .string index.version)]

section

variable (b : Backend)

/-- The explicit fields of a call. -/
def explicitFields (arguments : Value) : Except McpError (List (Str × Value)) :=
  ((arguments.list "set").getD []).mapM (fun item => do
    let text ← okOr (.invalid "set values must be strings") item.asStr
    (parseExplicitField b.parse text).mapError (fun e => .operation e.text))

/-- The plan of a session. -/
def planSession (path : Str) (file : SourceFile) (raw arguments : Value)
    (explicit : List (Str × Value)) (configuration : ProjectConfiguration) :
    Except McpError StoredPlan := do
  let overridden := McpError.invalid ("WebSocket sessions seal target, auth, actions, checks, and " ++
    "payloads in the source; HTTP and conformance plan overrides are not accepted")
  ensure (!((arguments.get "input").isSome || !explicit.isEmpty ||
    (optionalString arguments "server").isSome || (optionalString arguments "auth").isSome ||
    (optionalString arguments "content_type").isSome)) overridden
  let checks ← stringValues arguments "checks"
  ensure (checks.isEmpty && (arguments.get "conformance").isNone) overridden
  let plan ← (b.websocketPlan path file.bytes configuration).mapError .operation
  let operation ← requiredString arguments "operation"
  ensure (operation == (raw.text "operationId").getD [] || operation == plan.operation)
    (.invalid ("WebSocket operation " ++ debugQuote operation ++ " was not found"))
  pure (.webSocket plan)

/-- The plan of an operation of an AsyncAPI document. -/
def planAsyncapi (path : Str) (file : SourceFile) (arguments : Value)
    (explicit : List (Str × Value)) (configuration : ProjectConfiguration) :
    Except McpError StoredPlan := do
  let overridden := McpError.invalid ("AsyncAPI WebSocket plans accept only server, auth " ++
    "SCHEME=PROFILE, and set server.NAME/channel.NAME inputs")
  ensure (!((arguments.get "input").isSome || (optionalString arguments "content_type").isSome))
    overridden
  let checks ← stringValues arguments "checks"
  ensure (checks.isEmpty && (arguments.get "conformance").isNone) overridden
  let operation ← requiredString arguments "operation"
  let plan ← (b.asyncapiPlan path file.bytes operation
    { PlanOptions.default with
      server := optionalString arguments "server"
      auth := optionalString arguments "auth"
      explicit := explicit } configuration).mapError .operation
  pure (.webSocket plan)

/-- The plan of a workflow. -/
def planWorkflow (path : Str) (raw arguments : Value) (explicit : List (Str × Value))
    (configuration : ProjectConfiguration) : Except McpError StoredPlan := do
  ensure (arguments.get "conformance").isNone
    (.invalid "conformance campaigns require an OpenAPI operation, not Arazzo")
  ensure explicit.isEmpty (.invalid "workflow inputs must use input, not set")
  let operation ← requiredString arguments "operation"
  let checks ← stringValues arguments "checks"
  let plan ← (b.workflowPlan path raw operation ((arguments.get "input").getD (.object []))
    (optionalString arguments "auth") (optionalString arguments "server") checks
    configuration).mapError .operation
  pure (.workflow plan)

/-- The mode of a campaign. -/
def conformanceMode (name : Str) : Except McpError ConformanceMode :=
  if name = "positive" then .ok .positive
  else if name = "negative" then .ok .negative
  else if name = "mixed" then .ok .mixed
  else .error (.invalid ("unknown conformance mode " ++ debugQuote name))

/-- The plan of a campaign, with the plans of its requests. Building it starts
    with a check of the options. -/
def planCampaign (source : OpenApiSource) (operation : OperationDefinition)
    (arguments conformance : Value) (explicit : List (Str × Value))
    (configuration : ProjectConfiguration) :
    Except McpError (StoredPlan × List RequestPlan) := do
  ensure conformance.asObject.isSome (.invalid "conformance must be an options object")
  let mode ← conformanceMode ((conformance.text "mode").getD "mixed")
  let checks ← stringValues arguments "checks"
  let options : ConformanceOptions :=
    { cases := numberOr conformance "cases" 32
      seed := numberOr conformance "seed" 0
      mode := mode
      delayMs := numberOr conformance "delay_ms" 0
      maxFailures := numberOr conformance "max_failures" 10
      input := arguments.get "input"
      plan :=
        { server := optionalString arguments "server"
          auth := optionalString arguments "auth"
          contentType := optionalString arguments "content_type"
          input := none
          explicit := explicit
          checks := checks } }
  (validateOptions options).mapError (fun e => .operation e.text)
  let (campaign, requests) ← (b.conformancePlan source operation options
    configuration).mapError .operation
  pure (.conformance campaign, requests)

/-- The plan of one request. -/
def planRequest (source : OpenApiSource) (operation : OperationDefinition) (arguments : Value)
    (explicit : List (Str × Value)) (configuration : ProjectConfiguration) :
    Except McpError (StoredPlan × List RequestPlan) := do
  let checks ← stringValues arguments "checks"
  let plan ← (b.requestPlan source operation
    { server := optionalString arguments "server"
      auth := optionalString arguments "auth"
      contentType := optionalString arguments "content_type"
      input := arguments.get "input"
      explicit := explicit
      checks := checks } configuration).mapError .operation
  pure (.request plan, [])

/-- The plan of an operation of an OpenAPI document. -/
def planOperation (file : SourceFile) (arguments : Value) (explicit : List (Str × Value))
    (configuration : ProjectConfiguration) :
    Except McpError (StoredPlan × List RequestPlan) := do
  let source ← file.loaded.mapError (fun e => .operation e.text)
  let selector ← requiredString arguments "operation"
  let operation ← (b.resolveOperation source selector).mapError .operation
  match arguments.get "conformance" with
  | some conformance =>
      planCampaign b source operation arguments conformance explicit configuration
  | none => planRequest b source operation arguments explicit configuration

/-- The plan a call of `tool_plan` stores. -/
def builtPlan (arguments : Value) : Except McpError (StoredPlan × List RequestPlan) := do
  let path ← requiredString arguments "source"
  let file ← (b.read path).mapError .operation
  let raw ← okOr (.operation (b.parseError path)) file.raw
  let explicit ← explicitFields b arguments
  let configuration ← b.configuration.mapError .operation
  if isWebsocketSession raw then
    (planSession b path file raw arguments explicit configuration).map (fun plan => (plan, []))
  else if isAsyncapi raw then
    (planAsyncapi b path file arguments explicit configuration).map (fun plan => (plan, []))
  else if isArazzo raw then
    (planWorkflow b path raw arguments explicit configuration).map (fun plan => (plan, []))
  else planOperation b file arguments explicit configuration

/-- The function `tool_plan`. -/
def toolPlan (arguments : Value) : Eff ToolEvent McpError Value := do
  let (plan, requests) ← Eff.ofExcept (builtPlan b arguments)
  (b.store plan requests).mapError .operation
  pure plan.toJson

def resolveSecretEnv (value : Option Value) : Except McpError (List (Str × Str)) :=
  ((value.bind Value.asObject).getD []).foldlM (fun secrets entry => do
    let source ← okOr (.invalid "secret_env values must be environment variable names")
      entry.2.asStr
    let secret ← okOr (.operation ("secret environment variable " ++ debugQuote source ++
      " is unavailable")) (b.environment source)
    pure (insert entry.1 secret secrets)) []

/-- The checks of an invocation that come before the evidence is opened. -/
def invocationInputs (arguments : Value) :
    Except McpError (Str × List (Str × Str) × ProjectConfiguration) := do
  let reference ← requiredString arguments "plan"
  validatePlanReference reference
  let path ← okOr planLoadError (b.planPath reference)
  let secrets ← resolveSecretEnv b (arguments.get "secret_env")
  let configuration ← b.configuration.mapError .operation
  pure (path, secrets, configuration)

/-- Opening the evidence creates its directories and its index. -/
def openEvidence : Eff ToolEvent McpError Unit := do
  Eff.emit .openedEvidence
  Eff.ofExcept (b.evidence.mapError .operation)

/-- The options of an invocation; the timeout is in nanoseconds. -/
def invocationOptions (arguments : Value) (kind : Option Str) (secrets : List (Str × Str))
    (configuration : ProjectConfiguration) : Except McpError InvokeOptions := do
  let policyFingerprint := if kind = some "websocket-plan".toList
    then configuration.websocketPolicyFingerprint b.lib else configuration.policyFingerprint b.lib
  let grants ← stringValues arguments "grants"
  let configFingerprint ← (configuration.configFingerprint b.lib).mapError
    (fun e => .operation e.text)
  pure
    { grants := nameSet grants
      secrets := secrets
      timeout := numberOr arguments "timeout_ms" 30000 * 1000000
      maxResponseBytes := numberOr arguments "max_response_bytes" (16 * 1024 * 1024)
      expectedConfigFingerprint := some configFingerprint
      expectedPolicyFingerprint := some policyFingerprint
      additionalRootCertificatesPem := [] }

/-- The kind of plan an invocation loads. -/
def invokedKind (kind : Option Str) : PlanKind :=
  if kind = some "websocket-plan".toList then .webSocket
  else if kind = some "conformance-plan".toList then .conformance
  else if kind = some "workflow-plan".toList then .workflow
  else .request

/-- The function `tool_invoke`. -/
def toolInvoke (arguments : Value) : Eff ToolEvent McpError Value := do
  let (path, secrets, configuration) ← Eff.ofExcept (invocationInputs b arguments)
  openEvidence b
  let options ← Eff.ofExcept
    (invocationOptions b arguments (b.planKind path) secrets configuration)
  let plan ← Eff.ofExcept (okOr planLoadError (b.load (invokedKind (b.planKind path)) path))
  (b.execute plan options configuration).mapError .operation

/-- The function `tool_explain`. -/
def toolExplain (arguments : Value) : Eff ToolEvent McpError Value := do
  openEvidence b
  let handle ← Eff.ofExcept (requiredString arguments "handle")
  Eff.ofExcept ((b.explain handle (arguments.text "select")).mapError .operation)

def rejectUndeclaredArguments (name : Str) (arguments : Value) : Except McpError Unit :=
  match arguments.asObject, lookup name tools with
  | some members, some schema => members.forM (fun e =>
      ensure (schema.properties.contains e.1)
        (.invalid (name ++ " does not accept the argument " ++ debugQuote e.1)))
  | _, _ => .ok ()

/-- The tool of a name. -/
def runTool (name : Str) (arguments : Value) : Eff ToolEvent McpError Value :=
  if name = "kahea_inspect" then
    Eff.ofExcept ((toolInspect b.lib b.lowercase b.describe b.read arguments).map
      OperationIndexEnvelope.toJson)
  else if name = "kahea_plan" then toolPlan b arguments
  else if name = "kahea_invoke" then toolInvoke b arguments
  else if name = "kahea_explain" then toolExplain b arguments
  else Eff.fail (.invalid ("unknown tool " ++ debugQuote name))

/-- The arguments of a call. -/
def callArguments (params : Value) : Value := (params.get "arguments").getD .null

def callTool (params : Value) : Eff ToolEvent McpError Value := do
  let name ← Eff.ofExcept (okOr (.invalid "tool name is missing") (params.text "name"))
  let arguments := callArguments params
  Eff.ofExcept (rejectUndeclaredArguments name arguments)
  let envelope ← runTool b name arguments
  let exit := ((envelope.get "exit").bind Value.asU64).getD 2
  pure (jsonObject [("content", .array [jsonObject [("text", .string envelope.render),
      ("type", .string "text")]]), ("isError", .bool (exit == 2 || exit == 3)),
    ("structuredContent", envelope)])

end

/-! ### What is declared and what is checked -/

/-- The arguments satisfy the schema that is declared for the tool. -/
def SchemaConforms (params : Value) : Prop :=
  ∀ name schema, params.text "name" = some name → lookup name tools = some schema →
    schema.admits (callArguments params) = true

/-- A program fails and has done nothing. -/
def Idle {ω ε α : Type} (m : Eff ω ε α) (past : List ω) : Prop := ∃ e, m past = (.error e, [])

/-- A call fails and has no effect. -/
def Rejects (b : Backend) (params : Value) : Prop := ∀ past, Idle (callTool b params) past

/-- The arguments a tool has a default for, each with what its reader reads. -/
def defaultedArguments (name : Str) : List (String × (Value → Bool)) :=
  let text (value : Value) := value.asStr.isSome
  let number (value : Value) := value.asU64.isSome
  let items (value : Value) := value.asArray.isSome
  if name = "kahea_inspect" then [("match", text), ("limit", number), ("cursor", number)]
  else if name = "kahea_plan" then [("set", items), ("server", text), ("auth", text),
    ("content_type", text), ("checks", items)]
  else if name = "kahea_invoke" then [("grants", items),
    ("secret_env", fun value => value.asObject.isSome), ("timeout_ms", number),
    ("max_response_bytes", number)]
  else if name = "kahea_explain" then [("select", text)]
  else []

/-- The options of a campaign that have a default. -/
def defaultedOptions : List (String × (Value → Bool)) :=
  let number (value : Value) := value.asU64.isSome
  [("mode", fun value => value.asStr.isSome), ("cases", number), ("seed", number),
    ("delay_ms", number), ("max_failures", number)]

/-- A member is there and its reader makes nothing of it. -/
def Ignored (readers : List (String × (Value → Bool))) (value : Value) : Prop :=
  ∃ reader ∈ readers, ∃ member, value.get reader.1 = some member ∧ reader.2 member = false

/-- An argument is supplied and a default is used in its place. -/
def Replaced (params : Value) : Prop :=
  ∃ name, params.text "name" = some name ∧
    (Ignored (defaultedArguments name) (callArguments params) ∨
      name = "kahea_plan" ∧ ∃ conformance, (callArguments params).get "conformance" =
        some conformance ∧ Ignored defaultedOptions conformance)

/-- The declaration is enforced. -/
def Enforced (b : Backend) (params : Value) : Prop :=
  (¬ SchemaConforms params → Rejects b params) ∧ (¬ Rejects b params → ¬ Replaced params)

/-- There is an argument that the declaration has no property for. -/
def Undeclared (name : Str) (arguments : Value) : Prop :=
  ∃ schema members, lookup name tools = some schema ∧ arguments.asObject = some members ∧
    ∃ e ∈ members, e.1 ∉ schema.properties

/-- A list has an item that is no text. -/
def HasNonText (arguments : Value) (key : Str) : Prop :=
  ∃ item ∈ (arguments.list key).getD [], item.asStr = none

/-- A count is there and outside its range. -/
def OutOfRange (value : Value) (key : Str) (low high : Nat) : Prop :=
  ∃ n, (value.get key).bind Value.asU64 = some n ∧ ¬ (low ≤ n ∧ n ≤ high)

/-- The options of a campaign fail a check: they are no object, or the mode is
    an unknown text, or a count is outside its range. -/
def OptionsRefused (conformance : Value) : Prop :=
  conformance.asObject = none ∨
    (∃ mode, conformance.text "mode" = some mode ∧
      mode ∉ ["positive".toList, "negative".toList, "mixed".toList]) ∨
    OutOfRange conformance "cases" 1 256 ∨ OutOfRange conformance "max_failures" 1 256 ∨
    OutOfRange conformance "delay_ms" 0 60000

def PlanRefused (arguments : Value) : Prop :=
  arguments.text "source" = none ∨ arguments.text "operation" = none ∨
    (∃ item ∈ (arguments.list "set").getD [], item.asStr.bind explicitKey = none) ∨
    HasNonText arguments "checks" ∨
    ∃ conformance, arguments.get "conformance" = some conformance ∧ OptionsRefused conformance

def InvokeRefused (arguments : Value) : Prop :=
  (∀ reference, arguments.text "plan" = some reference → isPlanReference reference = false) ∨
    ∃ entry ∈ ((arguments.get "secret_env").bind Value.asObject).getD [], entry.2.asStr = none

/-- The arguments of a tool fail one of its checks. -/
def ArgumentsRefused (name : Str) (arguments : Value) : Prop :=
  if name = "kahea_inspect" then arguments.text "source" = none
  else if name = "kahea_plan" then PlanRefused arguments
  else if name = "kahea_invoke" then InvokeRefused arguments
  else name ≠ "kahea_explain"

/-- A call fails one of the checks that are made. -/
def Refused (params : Value) : Prop :=
  ∀ name, params.text "name" = some name →
    Undeclared name (callArguments params) ∨ ArgumentsRefused name (callArguments params)

/-! ### Idle programs -/

section

variable {ω ε α β : Type} {past : List ω}

theorem idle_ofExcept {x : Except ε α} : Idle (Eff.ofExcept x) past ↔ ∃ e, x = .error e := by
  unfold Idle Eff.ofExcept
  constructor
  · rintro ⟨e, he⟩
    exact ⟨e, congrArg Prod.fst he⟩
  · rintro ⟨e, rfl⟩
    exact ⟨e, rfl⟩

/-- A check without effects, and what comes after it. -/
theorem idle_ofExcept_bind {x : Except ε α} {f : α → Eff ω ε β} :
    Idle (Eff.ofExcept x >>= f) past ↔ (∃ e, x = .error e) ∨ ∃ a, x = .ok a ∧ Idle (f a) past := by
  unfold Idle
  rw [Eff.ofExcept_bind]
  cases x with
  | error e =>
      refine iff_of_true ⟨e, rfl⟩ (Or.inl ⟨e, rfl⟩)
  | ok a =>
      constructor
      · exact fun h => Or.inr ⟨a, rfl, h⟩
      · rintro (⟨e, he⟩ | ⟨a', ha, h⟩)
        · cases he
        · cases ha
          exact h

/-- What only makes an answer of a result does not fail. -/
theorem idle_bind_pure {m : Eff ω ε α} {f : α → β} :
    Idle (m >>= fun a => pure (f a)) past ↔ Idle m past := by
  change Idle (Eff.bind m (fun a => Eff.pure (f a))) past ↔ _
  unfold Idle Eff.bind Eff.pure
  rcases m past with ⟨result, added⟩
  cases result with
  | error e =>
      constructor
      · rintro ⟨e', he⟩
        cases he
        exact ⟨e, rfl⟩
      · rintro ⟨e', he⟩
        cases he
        exact ⟨e, rfl⟩
  | ok a =>
      refine iff_of_false ?_ ?_
      · rintro ⟨e, he⟩
        cases congrArg Prod.fst he
      · rintro ⟨e, he⟩
        cases congrArg Prod.fst he

theorem not_idle_emit {event : ω} {f : Unit → Eff ω ε β} :
    ¬ Idle (Eff.emit event >>= f) past := by
  rintro ⟨e, he⟩
  have hmem : event ∈ ((Eff.emit event >>= f) past).2 :=
    Eff.mem_bind.mpr (Or.inl List.mem_cons_self)
  rw [he] at hmem
  cases hmem

end

/-! ### Checks -/

theorem requiredString_error {value : Value} {key : Str} :
    (∃ e, requiredString value key = .error e) ↔ value.text key = none := by
  unfold requiredString
  cases value.text key with
  | none => exact iff_of_true ⟨_, rfl⟩ rfl
  | some text =>
      refine iff_of_false ?_ (by nofun)
      rintro ⟨e, he⟩
      cases he

theorem stringValues_ok {value : Value} {key : Str} :
    (∃ texts, stringValues value key = .ok texts) ↔ ¬ HasNonText value key := by
  unfold stringValues HasNonText
  rw [exists_mapM_ok]
  push Not
  refine forall₂_congr (fun item _ => ?_)
  simp only [okOr_ok]
  exact Option.ne_none_iff_exists'.symm

theorem parseExplicitField_ok {parse : Str → Option Value} {text : Str} :
    (∃ field, parseExplicitField parse text = .ok field) ↔ explicitKey text ≠ none := by
  unfold parseExplicitField
  cases explicitKey text with
  | none =>
      refine iff_of_false ?_ (fun h => h rfl)
      rintro ⟨field, h⟩
      cases h
  | some parts => exact iff_of_true ⟨_, rfl⟩ (by nofun)

theorem explicitFields_ok {b : Backend} {arguments : Value} :
    (∃ fields, explicitFields b arguments = .ok fields) ↔
      ∀ item ∈ (arguments.list "set").getD [], item.asStr.bind explicitKey ≠ none := by
  unfold explicitFields
  rw [exists_mapM_ok]
  refine forall₂_congr (fun item _ => ?_)
  cases item.asStr with
  | none =>
      refine iff_of_false ?_ (fun h => h rfl)
      rintro ⟨field, h⟩
      cases h
  | some text =>
      change (∃ field, (parseExplicitField b.parse text).mapError _ = .ok field) ↔ _
      simp only [except_mapError_ok]
      exact parseExplicitField_ok

theorem rejectUndeclaredArguments_ok {name : Str} {arguments : Value} :
    rejectUndeclaredArguments name arguments = .ok () ↔ ¬ Undeclared name arguments := by
  unfold rejectUndeclaredArguments Undeclared
  cases hmembers : arguments.asObject with
  | none =>
      refine iff_of_true rfl ?_
      rintro ⟨schema, members, _, h, _⟩
      cases h
  | some members =>
      cases hschema : lookup name tools with
      | none =>
          refine iff_of_true rfl ?_
          rintro ⟨schema, _, h, _⟩
          cases h
      | some schema =>
          dsimp only
          rw [forM_ok]
          -- Every member must be declared.
          simp only [ensure_ok, List.contains_eq_mem, decide_eq_true_eq]
          constructor
          · rintro h ⟨_, _, ⟨⟩, ⟨⟩, e, he, hno⟩
            exact hno (h e he)
          · intro h e he
            by_contra hno
            exact h ⟨schema, members, rfl, rfl, e, he, hno⟩

/-- The modes that are known. -/
theorem conformanceMode_ok {name : Str} : (∃ mode, conformanceMode name = .ok mode) ↔
    name ∈ ["positive".toList, "negative".toList, "mixed".toList] := by
  simp only [List.mem_cons, List.not_mem_nil, or_false]
  unfold conformanceMode
  split_ifs with hpositive hnegative hmixed
  · exact iff_of_true ⟨_, rfl⟩ (Or.inl hpositive)
  · exact iff_of_true ⟨_, rfl⟩ (Or.inr (Or.inl hnegative))
  · exact iff_of_true ⟨_, rfl⟩ (Or.inr (Or.inr hmixed))
  · refine iff_of_false ?_ ?_
    · rintro ⟨mode, h⟩
      cases h
    · rintro (h | h | h)
      · exact hpositive h
      · exact hnegative h
      · exact hmixed h

/-- A count with a default in its range is in its range. -/
theorem numberOr_mem {value : Value} {key : Str} {default low high : Nat}
    (hdefault : low ≤ default ∧ default ≤ high) :
    ¬ OutOfRange value key low high ↔
      low ≤ numberOr value key default ∧ numberOr value key default ≤ high := by
  unfold OutOfRange numberOr
  cases (value.get key).bind Value.asU64 with
  | none =>
      refine iff_of_true ?_ hdefault
      rintro ⟨n, h, _⟩
      cases h
  | some n =>
      constructor
      · intro h
        by_contra hno
        exact h ⟨n, rfl, hno⟩
      · rintro h ⟨_, ⟨⟩, hno⟩
        exact hno h

theorem validateOptions_ok {options : ConformanceOptions} : validateOptions options = .ok () ↔
    (1 ≤ options.cases ∧ options.cases ≤ 256) ∧
      (1 ≤ options.maxFailures ∧ options.maxFailures ≤ 256) ∧ options.delayMs ≤ 60000 ∧
      options.plan.input = none := by
  unfold validateOptions
  rw [unit_bind_ok, unit_bind_ok, unit_bind_ok, ensure_ok, ensure_ok, ensure_ok, ensure_ok,
    Bool.and_eq_true, Bool.and_eq_true, Option.isNone_iff_eq_none, decide_eq_true_iff,
    decide_eq_true_iff, decide_eq_true_iff, decide_eq_true_iff, decide_eq_true_iff]
  exact Iff.rfl

/-! ### Calls that fail a check -/

/-- The checks that are left when the explicit fields have been read. -/
structure Passed (arguments : Value) : Prop where
  operation : arguments.text "operation" ≠ none
  checks : ¬ HasNonText arguments "checks"
  options : ∀ conformance, arguments.get "conformance" = some conformance →
    ¬ OptionsRefused conformance

section

variable {b : Backend} {path : Str} {file : SourceFile} {raw arguments : Value}
  {explicit : List (Str × Value)} {configuration : ProjectConfiguration}

/-- A text that is required is there. -/
theorem text_of_requiredString {key text : Str} (h : requiredString arguments key = .ok text) :
    arguments.text key = some text := okOr_ok.mp h

/-- Without options there are none to refuse. -/
theorem Passed.of_none (hoperation : arguments.text "operation" ≠ none)
    (hchecks : ¬ HasNonText arguments "checks") (hnone : arguments.get "conformance" = none) :
    Passed arguments where
  operation := hoperation
  checks := hchecks
  options conformance hsome := by
    rw [hnone] at hsome
    cases hsome

theorem passed_of_planSession {plan : StoredPlan}
    (h : planSession b path file raw arguments explicit configuration = .ok plan) :
    Passed arguments := by
  unfold planSession at h
  rcases unit_bind_ok.mp h with ⟨_, h⟩
  rcases except_bind_ok.mp h with ⟨checks, hchecks, h⟩
  rcases unit_bind_ok.mp h with ⟨hnone, h⟩
  rcases except_bind_ok.mp h with ⟨plan, _, h⟩
  rcases except_bind_ok.mp h with ⟨operation, hoperation, _⟩
  rw [ensure_ok, Bool.and_eq_true, Option.isNone_iff_eq_none] at hnone
  have htext := text_of_requiredString hoperation
  exact Passed.of_none (by rw [htext]; nofun) (stringValues_ok.mp ⟨checks, hchecks⟩) hnone.2

theorem passed_of_planAsyncapi {plan : StoredPlan}
    (h : planAsyncapi b path file arguments explicit configuration = .ok plan) :
    Passed arguments := by
  unfold planAsyncapi at h
  rcases unit_bind_ok.mp h with ⟨_, h⟩
  rcases except_bind_ok.mp h with ⟨checks, hchecks, h⟩
  rcases unit_bind_ok.mp h with ⟨hnone, h⟩
  rcases except_bind_ok.mp h with ⟨operation, hoperation, _⟩
  rw [ensure_ok, Bool.and_eq_true, Option.isNone_iff_eq_none] at hnone
  have htext := text_of_requiredString hoperation
  exact Passed.of_none (by rw [htext]; nofun) (stringValues_ok.mp ⟨checks, hchecks⟩) hnone.2

theorem passed_of_planWorkflow {plan : StoredPlan}
    (h : planWorkflow b path raw arguments explicit configuration = .ok plan) :
    Passed arguments := by
  unfold planWorkflow at h
  rcases unit_bind_ok.mp h with ⟨hnone, h⟩
  rcases unit_bind_ok.mp h with ⟨_, h⟩
  rcases except_bind_ok.mp h with ⟨operation, hoperation, h⟩
  rcases except_bind_ok.mp h with ⟨checks, hchecks, _⟩
  rw [ensure_ok, Option.isNone_iff_eq_none] at hnone
  have htext := text_of_requiredString hoperation
  exact Passed.of_none (by rw [htext]; nofun) (stringValues_ok.mp ⟨checks, hchecks⟩) hnone

/-- The options of a campaign that is planned pass their checks. -/
theorem options_of_planCampaign {source : OpenApiSource} {operation : OperationDefinition}
    {conformance : Value} {planned : StoredPlan × List RequestPlan}
    (h : planCampaign b source operation arguments conformance explicit configuration =
      .ok planned) : ¬ OptionsRefused conformance ∧ ¬ HasNonText arguments "checks" := by
  unfold planCampaign at h
  rcases unit_bind_ok.mp h with ⟨hobject, h⟩
  rcases except_bind_ok.mp h with ⟨mode, hmode, h⟩
  rcases except_bind_ok.mp h with ⟨checks, hchecks, h⟩
  rcases unit_bind_ok.mp h with ⟨hoptions, _⟩
  rcases validateOptions_ok.mp (except_mapError_ok.mp hoptions) with
    ⟨hcases, hfailures, hdelay, _⟩
  refine ⟨?_, stringValues_ok.mp ⟨checks, hchecks⟩⟩
  rintro (hnone | ⟨name, hname, hunknown⟩ | hrange | hrange | hrange)
  · rw [ensure_ok, hnone] at hobject
    cases hobject
  · rw [hname] at hmode
    exact hunknown (conformanceMode_ok.mp ⟨mode, hmode⟩)
  · exact (numberOr_mem (by decide)).mpr hcases hrange
  · exact (numberOr_mem (by decide)).mpr hfailures hrange
  · exact (numberOr_mem (by decide)).mpr ⟨Nat.zero_le _, hdelay⟩ hrange

theorem passed_of_planOperation {planned : StoredPlan × List RequestPlan}
    (h : planOperation b file arguments explicit configuration = .ok planned) :
    Passed arguments := by
  unfold planOperation at h
  rcases except_bind_ok.mp h with ⟨source, _, h⟩
  rcases except_bind_ok.mp h with ⟨selector, hselector, h⟩
  rcases except_bind_ok.mp h with ⟨operation, _, h⟩
  have htext := text_of_requiredString hselector
  have hoperation : arguments.text "operation" ≠ none := by
    rw [htext]
    nofun
  -- A request reads the checks, a campaign its options as well.
  cases hconformance : arguments.get "conformance" with
  | none =>
      rw [hconformance] at h
      unfold planRequest at h
      rcases except_bind_ok.mp h with ⟨checks, hchecks, _⟩
      exact Passed.of_none hoperation (stringValues_ok.mp ⟨checks, hchecks⟩) hconformance
  | some conformance =>
      rw [hconformance] at h
      rcases options_of_planCampaign h with ⟨hoptions, hchecks⟩
      refine ⟨hoperation, hchecks, fun c hc => ?_⟩
      rw [hconformance] at hc
      cases hc
      exact hoptions

/-- A plan is built of arguments that pass every check. -/
theorem not_planRefused {planned : StoredPlan × List RequestPlan}
    (h : builtPlan b arguments = .ok planned) : ¬ PlanRefused arguments := by
  unfold builtPlan at h
  rcases except_bind_ok.mp h with ⟨path, hpath, h⟩
  rcases except_bind_ok.mp h with ⟨file, _, h⟩
  rcases except_bind_ok.mp h with ⟨raw, _, h⟩
  rcases except_bind_ok.mp h with ⟨explicit, hexplicit, h⟩
  rcases except_bind_ok.mp h with ⟨configuration, _, h⟩
  -- Whatever the source is, its checks were read.
  have hpassed : Passed arguments := by
    split_ifs at h with hsession hasyncapi harazzo
    · rcases except_map_ok.mp h with ⟨plan, hplan, _⟩
      exact passed_of_planSession hplan
    · rcases except_map_ok.mp h with ⟨plan, hplan, _⟩
      exact passed_of_planAsyncapi hplan
    · rcases except_map_ok.mp h with ⟨plan, hplan, _⟩
      exact passed_of_planWorkflow hplan
    · exact passed_of_planOperation h
  have htext := text_of_requiredString hpath
  -- Each way to be refused contradicts a stage that passed.
  rintro (hsource | hoperation | ⟨item, hitem, hfield⟩ | hchecks | ⟨conformance, hsome, hoptions⟩)
  · rw [htext] at hsource
    cases hsource
  · exact hpassed.operation hoperation
  · exact explicitFields_ok.mp ⟨explicit, hexplicit⟩ item hitem hfield
  · exact hpassed.checks hchecks
  · exact hpassed.options conformance hsome hoptions

theorem not_invokeRefused {inputs : Str × List (Str × Str) × ProjectConfiguration}
    (h : invocationInputs b arguments = .ok inputs) : ¬ InvokeRefused arguments := by
  unfold invocationInputs at h
  rcases except_bind_ok.mp h with ⟨reference, hreference, h⟩
  rcases unit_bind_ok.mp h with ⟨hvalid, h⟩
  rcases except_bind_ok.mp h with ⟨path, _, h⟩
  rcases except_bind_ok.mp h with ⟨secrets, hsecrets, _⟩
  rintro (hno | ⟨entry, hentry, hvalue⟩)
  · have hfalse := hno reference (text_of_requiredString hreference)
    unfold isPlanReference at hfalse
    rw [hvalid] at hfalse
    cases hfalse
  · -- The entry was read as the name of a variable.
    rcases step_of_foldlM hsecrets hentry with ⟨before, after, hstep⟩
    rw [hvalue] at hstep
    cases hstep

theorem rejects_of_refused {params : Value} (h : Refused params) : Rejects b params := by
  intro past
  unfold callTool
  rw [idle_ofExcept_bind]
  cases hname : params.text "name" with
  | none => exact Or.inl ⟨_, rfl⟩
  | some name =>
      refine Or.inr ⟨name, rfl, ?_⟩
      dsimp only
      rw [idle_ofExcept_bind]
      cases hdeclared : rejectUndeclaredArguments name (callArguments params) with
      -- An argument nobody declared is rejected before the tool is looked up.
      | error e => exact Or.inl ⟨e, rfl⟩
      | ok u =>
          have hdeclared := rejectUndeclaredArguments_ok.mp hdeclared
          refine Or.inr ⟨u, rfl, ?_⟩
          rw [idle_bind_pure]
          have hrefused := (h name hname).resolve_left hdeclared
          unfold ArgumentsRefused at hrefused
          unfold runTool
          -- Each tool reads its required arguments before it does anything.
          by_cases hinspect : name = "kahea_inspect"
          · rw [if_pos hinspect] at hrefused ⊢
            unfold toolInspect
            rcases requiredString_error.mpr hrefused with ⟨e, he⟩
            rw [he]
            exact idle_ofExcept.mpr ⟨e, rfl⟩
          rw [if_neg hinspect] at hrefused ⊢
          by_cases hplan : name = "kahea_plan"
          · rw [if_pos hplan] at hrefused ⊢
            refine idle_ofExcept_bind.mpr (Or.inl ?_)
            cases hbuilt : builtPlan b (callArguments params) with
            | error e => exact ⟨e, rfl⟩
            | ok planned => exact absurd hrefused (not_planRefused hbuilt)
          rw [if_neg hplan] at hrefused ⊢
          by_cases hinvoke : name = "kahea_invoke"
          · rw [if_pos hinvoke] at hrefused ⊢
            refine idle_ofExcept_bind.mpr (Or.inl ?_)
            cases hinputs : invocationInputs b (callArguments params) with
            | error e => exact ⟨e, rfl⟩
            | ok inputs => exact absurd hrefused (not_invokeRefused hinputs)
          rw [if_neg hinvoke] at hrefused ⊢
          -- What is left of the tools asks for a handle only.
          rw [if_neg hrefused]
          exact ⟨_, rfl⟩

end

/-! ### Calls that pass every check -/

/-- An operation everything resolves to. -/
def anyOperation : OperationDefinition :=
  { handle := []
    method := "GET"
    path := "/"
    operationId := []
    risk := .read
    pathItem := []
    operation := []
    path_slash := rfl }

/-- Everything succeeds and every source is the same file. -/
def openBackend (file : SourceFile) : Backend :=
  { lib := referenceCrates
    lowercase := id
    describe := Value.render
    parse := fun _ => none
    read := fun _ => .ok file
    parseError := fun _ => []
    configuration := .ok .default
    environment := fun _ => some []
    resolveOperation := fun _ _ => .ok anyOperation
    websocketPlan := fun _ _ _ => .error []
    asyncapiPlan := fun _ _ _ _ _ => .error []
    workflowPlan := fun _ _ _ _ _ _ _ _ => .error []
    conformancePlan := fun _ _ _ _ => .ok (smallCampaign 1, [])
    requestPlan := fun _ _ _ _ => .ok campaignRequest
    store := fun plan requests => Eff.emit (.storedPlan plan requests)
    planPath := some
    planKind := fun _ => none
    evidence := .ok ()
    load := fun _ _ => none
    execute := fun _ _ _ => Eff.fail []
    explain := fun _ _ => .error [] }

/-- An OpenAPI document. -/
def openFile : SourceFile :=
  { bytes := []
    raw := some (.object [])
    loaded := .ok ⟨.object [], [], []⟩ }

/-- A workflow with a summary. -/
def summarizedWorkflow (summary : Str) : Value :=
  jsonObject [("summary", .string summary), ("workflowId", .string "w")]

/-- A document of workflows with one summary. -/
def workflowsDocument (count : Nat) (summary : Str) : Value :=
  jsonObject [("arazzo", .string "1.1.0"),
    ("workflows", .array (List.replicate count (summarizedWorkflow summary)))]

def workflowsFile (count : Nat) (summary : Str) : SourceFile :=
  { bytes := []
    raw := some (workflowsDocument count summary)
    loaded := .error .missingPaths }

theorem get_workflows_workflowsDocument (count : Nat) (summary : Str) :
    (workflowsDocument count summary).get "workflows" =
      some (.array (List.replicate count (summarizedWorkflow summary))) := by
  unfold workflowsDocument
  rw [jsonObject_get_tail (by decide), jsonObject_get_head]

theorem get_other_workflowsDocument {count : Nat} {summary key : Str}
    (harazzo : "arazzo".toList ≠ key) (hworkflows : "workflows".toList ≠ key) :
    (workflowsDocument count summary).get key = none := by
  unfold workflowsDocument
  rw [jsonObject_get_tail harazzo, jsonObject_get_tail hworkflows]
  rfl

/-- The file is listed as workflows. -/
theorem kind_workflowsFile (count : Nat) (summary : Str) :
    (workflowsFile count summary).kind = .arazzo (workflowsDocument count summary) := by
  have hsession : isWebsocketSession (workflowsDocument count summary) = false := by
    unfold isWebsocketSession Value.text
    rw [get_other_workflowsDocument (by decide) (by decide)]
    rfl
  have hasyncapi : isAsyncapi (workflowsDocument count summary) = false := by
    unfold isAsyncapi Value.text
    rw [get_other_workflowsDocument (by decide) (by decide)]
    rfl
  have harazzo : isArazzo (workflowsDocument count summary) = true := by
    have htext : (workflowsDocument count summary).text "arazzo" = some "1.1.0".toList := rfl
    unfold isArazzo
    rw [htext]
    decide
  unfold SourceFile.kind workflowsFile
  dsimp only
  rw [hsession, hasyncapi, harazzo]
  rfl

/-- A workflow is listed for a query that its summary has in it. -/
theorem workflowSummary_summarizedWorkflow (summary : Str) :
    ∃ entry, workflowSummary referenceCrates (digest referenceCrates []) (lower summary)
      (summarizedWorkflow summary) = some entry := by
  have hid : (summarizedWorkflow summary).get "workflowId" = some (.string "w") := by
    unfold summarizedWorkflow
    rw [jsonObject_get_tail (by decide), jsonObject_get_head]
  have htext : (summarizedWorkflow summary).get "summary" = some (.string summary) :=
    jsonObject_get_head _ _ _
  unfold workflowSummary Value.text
  rw [hid, htext]
  refine ⟨_, if_neg ?_⟩
  rintro ⟨_, _, hno⟩
  exact hno (List.infix_refl _)

/-- All workflows are listed that have the text of a query as their summary. -/
theorem listWorkflows_workflowsDocument (count : Nat) (query : Option Str) :
    ∃ listed, listWorkflows referenceCrates (workflowsDocument count (trim (query.getD []))) []
      query = .ok listed ∧ listed.length = count := by
  rcases workflowSummary_summarizedWorkflow (trim (query.getD [])) with ⟨entry, hentry⟩
  have hworkflows : valueArray (workflowsDocument count (trim (query.getD []))) "workflows" =
      List.replicate count (summarizedWorkflow (trim (query.getD []))) := by
    unfold valueArray
    rw [get_workflows_workflowsDocument]
    rfl
  refine ⟨_, rfl, ?_⟩
  rw [hworkflows, List.filterMap_replicate_of_some hentry]
  unfold sortBy
  rw [List.length_insertionSort, List.length_replicate]

/-- There is a source that an inspection is answered of, whatever it asks for. -/
theorem toolInspect_answered {arguments : Value} (hsource : arguments.text "source" ≠ none) :
    ∃ file index, toolInspect (openBackend file).lib (openBackend file).lowercase
      (openBackend file).describe (openBackend file).read arguments = .ok index := by
  rcases Option.ne_none_iff_exists'.mp hsource with ⟨source, hsource⟩
  have hrequired : requiredString arguments "source" = .ok source := okOr_ok.mpr hsource
  -- A document with just enough workflows for the page that is asked for.
  rcases listWorkflows_workflowsDocument
    (((arguments.get "cursor").bind Value.asU64).getD 0) (arguments.text "match") with
    ⟨listed, hlisted, hlength⟩
  have hpage : (inspectWorkflows referenceCrates (workflowsDocument
      (((arguments.get "cursor").bind Value.asU64).getD 0)
      (trim ((arguments.text "match").getD []))) [] (arguments.text "match")
      (((arguments.get "limit").bind Value.asU64).getD 50)
      (((arguments.get "cursor").bind Value.asU64).getD 0)).map OperationIndexEnvelope.page = _ :=
    inspectWorkflows_page hlisted (le_of_eq hlength.symm)
  rcases except_map_ok.mp hpage with ⟨index, hindex, _⟩
  refine ⟨workflowsFile (((arguments.get "cursor").bind Value.asU64).getD 0)
    (trim ((arguments.text "match").getD [])), index, ?_⟩
  -- The file is recognised as a workflow document, so the page is one of workflows.
  have hfile : inspectFile referenceCrates id Value.render
      (workflowsFile (((arguments.get "cursor").bind Value.asU64).getD 0)
        (trim ((arguments.text "match").getD []))) (arguments.text "match")
      (((arguments.get "limit").bind Value.asU64).getD 50)
      (((arguments.get "cursor").bind Value.asU64).getD 0) = .ok index := by
    unfold inspectFile
    rw [kind_workflowsFile]
    exact except_mapError_ok.mpr hindex
  unfold toolInspect
  rw [hrequired]
  change (inspectFile _ _ _ _ _ _ _).mapError _ = _
  exact except_mapError_ok.mpr hfile

/-- Options that pass their checks are planned with. -/
theorem planCampaign_open (source : OpenApiSource) {arguments conformance : Value}
    (hoptions : ¬ OptionsRefused conformance) (hchecks : ¬ HasNonText arguments "checks")
    (explicit : List (Str × Value)) :
    ∃ planned, planCampaign (openBackend openFile) source anyOperation arguments conformance
      explicit .default = .ok planned := by
  unfold OptionsRefused at hoptions
  push Not at hoptions
  rcases hoptions with ⟨hobject, hmode, hcases, hfailures, hdelay⟩
  -- The mode, the checks and the three numbers are accepted.
  have hname : (conformance.text "mode").getD "mixed" ∈
      ["positive".toList, "negative".toList, "mixed".toList] := by
    cases hname : conformance.text "mode" with
    | none => decide
    | some name => exact hmode name hname
  rcases conformanceMode_ok.mpr hname with ⟨mode, hmode⟩
  rcases stringValues_ok.mpr hchecks with ⟨checks, hchecks⟩
  have hisSome : conformance.asObject.isSome = true := Option.isSome_iff_ne_none.mpr hobject
  have hdelay : 0 ≤ numberOr conformance "delay_ms" 0 ∧ numberOr conformance "delay_ms" 0 ≤ 60000 :=
    (numberOr_mem (by decide)).mp hdelay
  refine ⟨(.conformance (smallCampaign 1), []), unit_bind_ok.mpr ⟨ensure_ok.mpr hisSome,
    except_bind_ok.mpr ⟨mode, hmode, except_bind_ok.mpr ⟨checks, hchecks,
      unit_bind_ok.mpr ⟨except_mapError_ok.mpr (validateOptions_ok.mpr ⟨?_, ?_, ?_, rfl⟩), rfl⟩⟩⟩⟩⟩
  · exact (numberOr_mem (by decide)).mp hcases
  · exact (numberOr_mem (by decide)).mp hfailures
  · exact hdelay.2

/-- Arguments that pass every check are planned with, from an OpenAPI document. -/
theorem builtPlan_open {arguments : Value} (h : ¬ PlanRefused arguments) :
    ∃ planned, builtPlan (openBackend openFile) arguments = .ok planned := by
  unfold PlanRefused at h
  push Not at h
  rcases h with ⟨hsource, hoperation, hfields, hchecks, hoptions⟩
  rcases Option.ne_none_iff_exists'.mp hsource with ⟨path, hpath⟩
  rcases Option.ne_none_iff_exists'.mp hoperation with ⟨selector, hselector⟩
  rcases (explicitFields_ok (b := openBackend openFile)).mpr hfields with ⟨explicit, hexplicit⟩
  -- With a `conformance` object it is a campaign, without one a request.
  have hplanned : ∃ planned, planOperation (openBackend openFile) openFile arguments explicit
      .default = .ok planned := by
    unfold planOperation
    cases hconformance : arguments.get "conformance" with
    | none =>
        -- Only a request reads the checks.
        rcases stringValues_ok.mpr hchecks with ⟨checks, hchecks⟩
        refine ⟨(.request campaignRequest, []), except_bind_ok.mpr ⟨_, rfl,
          except_bind_ok.mpr ⟨selector, okOr_ok.mpr hselector,
            except_bind_ok.mpr ⟨anyOperation, rfl, ?_⟩⟩⟩⟩
        exact except_bind_ok.mpr ⟨checks, hchecks, rfl⟩
    | some conformance =>
        rcases planCampaign_open ⟨.object [], [], []⟩
          (hoptions conformance hconformance) hchecks explicit with ⟨planned, hplanned⟩
        exact ⟨planned, except_bind_ok.mpr ⟨_, rfl, except_bind_ok.mpr ⟨selector,
          okOr_ok.mpr hselector, except_bind_ok.mpr ⟨anyOperation, rfl, hplanned⟩⟩⟩⟩
  rcases hplanned with ⟨planned, hplanned⟩
  exact ⟨planned, except_bind_ok.mpr ⟨path, okOr_ok.mpr hpath, except_bind_ok.mpr ⟨openFile, rfl,
    except_bind_ok.mpr ⟨.object [], rfl, except_bind_ok.mpr ⟨explicit, hexplicit,
      except_bind_ok.mpr ⟨.default, rfl, hplanned⟩⟩⟩⟩⟩⟩

/-- The checks before the evidence is opened are passed. -/
theorem invocationInputs_open (file : SourceFile) {arguments : Value}
    (h : ¬ InvokeRefused arguments) :
    ∃ inputs, invocationInputs (openBackend file) arguments = .ok inputs := by
  unfold InvokeRefused at h
  push Not at h
  rcases h with ⟨⟨reference, hreference, hvalid⟩, hentries⟩
  -- Every entry names a variable that is set.
  have hsecrets : ∃ secrets, resolveSecretEnv (openBackend file) (arguments.get "secret_env") =
      .ok secrets := by
    refine exists_foldlM_ok (fun entry hentry secrets => ?_) []
    rcases Option.ne_none_iff_exists'.mp (hentries entry hentry) with ⟨name, hname⟩
    exact ⟨insert entry.1 [] secrets, except_bind_ok.mpr ⟨name, okOr_ok.mpr hname, rfl⟩⟩
  rcases hsecrets with ⟨secrets, hsecrets⟩
  -- The handle is a reference.
  have hreference' : validatePlanReference reference = .ok () := by
    cases hresult : validatePlanReference reference with
    | ok u => rfl
    | error e =>
        unfold isPlanReference at hvalid
        rw [hresult] at hvalid
        exact absurd rfl hvalid
  exact ⟨(reference, secrets, .default), except_bind_ok.mpr ⟨reference, okOr_ok.mpr hreference,
    unit_bind_ok.mpr ⟨hreference', except_bind_ok.mpr ⟨reference, rfl,
      except_bind_ok.mpr ⟨secrets, hsecrets, rfl⟩⟩⟩⟩⟩

theorem not_idle_openEvidence {b : Backend} {α : Type} {f : Unit → Eff ToolEvent McpError α}
    {past : List ToolEvent} : ¬ Idle (openEvidence b >>= f) past := by
  rintro ⟨e, he⟩
  have hmem : ToolEvent.openedEvidence ∈ ((openEvidence b >>= f) past).2 :=
    Eff.mem_bind.mpr (Or.inl (Eff.mem_bind.mpr (Or.inl List.mem_cons_self)))
  rw [he] at hmem
  cases hmem

/-- A tool whose arguments pass its checks does something, for some source. -/
theorem runTool_open {name : Str} {arguments : Value} (h : ¬ ArgumentsRefused name arguments)
    (past : List ToolEvent) : ∃ b, ¬ Idle (runTool b name arguments) past := by
  unfold ArgumentsRefused at h
  unfold runTool
  by_cases hinspect : name = "kahea_inspect"
  -- The page exists as soon as there is a source.
  · rw [if_pos hinspect] at h
    rcases toolInspect_answered h with ⟨file, index, hindex⟩
    refine ⟨openBackend file, ?_⟩
    rw [if_pos hinspect, idle_ofExcept, hindex]
    rintro ⟨e, he⟩
    cases he
  rw [if_neg hinspect] at h
  by_cases hplan : name = "kahea_plan"
  · rw [if_pos hplan] at h
    rcases builtPlan_open h with ⟨planned, hplanned⟩
    refine ⟨openBackend openFile, ?_⟩
    rw [if_neg hinspect, if_pos hplan]
    unfold toolPlan
    rw [idle_ofExcept_bind, hplanned]
    -- A plan that is built is written down, which is an effect.
    rintro (⟨e, he⟩ | ⟨_, ⟨⟩, hidle⟩)
    · cases he
    · exact not_idle_emit hidle
  rw [if_neg hplan] at h
  by_cases hinvoke : name = "kahea_invoke"
  · rw [if_pos hinvoke] at h
    rcases invocationInputs_open openFile h with ⟨inputs, hinputs⟩
    refine ⟨openBackend openFile, ?_⟩
    rw [if_neg hinspect, if_neg hplan, if_pos hinvoke]
    unfold toolInvoke
    rw [idle_ofExcept_bind, hinputs]
    -- The store is opened before the plan is invoked.
    rintro (⟨e, he⟩ | ⟨_, ⟨⟩, hidle⟩)
    · cases he
    · exact not_idle_openEvidence hidle
  rw [if_neg hinvoke] at h
  -- The last tool opens the store whatever its arguments are.
  have hexplain : name = "kahea_explain" := not_not.mp h
  refine ⟨openBackend openFile, ?_⟩
  rw [if_neg hinspect, if_neg hplan, if_neg hinvoke, if_pos hexplain]
  exact not_idle_openEvidence

/-- A call that passes every check is not refused by every backend. -/
theorem not_rejects {params : Value} (h : ¬ Refused params) : ∃ b, ¬ Rejects b params := by
  unfold Refused at h
  push Not at h
  rcases h with ⟨name, hname, hdeclared, harguments⟩
  rcases runTool_open harguments [] with ⟨b, hb⟩
  refine ⟨b, fun hrejects => hb ?_⟩
  have hidle := hrejects []
  unfold callTool at hidle
  rw [idle_ofExcept_bind, hname] at hidle
  rcases hidle with ⟨e, he⟩ | ⟨_, ⟨⟩, hidle⟩
  · cases he
  dsimp only at hidle
  rw [idle_ofExcept_bind, rejectUndeclaredArguments_ok.mpr hdeclared] at hidle
  rcases hidle with ⟨e, he⟩ | ⟨_, ⟨⟩, hidle⟩
  · cases he
  exact idle_bind_pure.mp hidle

/-! ### What conforming arguments are read as -/

namespace ArgumentSchema

theorem isSome_of_any {α : Type} {o : Option α} {p : α → Bool} (h : o.any p = true) :
    o.isSome = true := by
  cases o with
  | none => cases h
  | some a => rfl

theorem admits_text {value : Value} (h : string.admits value = true) :
    value.asStr.isSome = true := by
  rw [admits] at h
  exact h

theorem admits_integer {minimum : Nat} {maximum : Option Nat} {value : Value}
    (h : (integer minimum maximum).admits value = true) : value.asU64.isSome = true := by
  rw [admits] at h
  exact isSome_of_any h

theorem admits_choice {names : List Str} {value : Value} (h : (choice names).admits value = true) :
    value.asStr.isSome = true := by
  rw [admits] at h
  exact isSome_of_any h

theorem admits_array {items : ArgumentSchema} {value : Value}
    (h : (array items).admits value = true) : value.asArray.isSome = true := by
  rw [admits] at h
  exact isSome_of_any h

theorem admits_object {declared : List (Str × ArgumentSchema)} {required : List Str}
    {additional : Option ArgumentSchema} {value : Value}
    (h : (object declared required additional).admits value = true) :
    value.asObject.isSome = true := by
  rw [admits] at h
  exact isSome_of_any h

theorem admitsProperty_eq (declared : List (Str × ArgumentSchema)) (key : Str) (value : Value) :
    admitsProperty declared key value = (lookup key declared).map (fun s => s.admits value) := by
  induction declared with
  | nil => rfl
  | cons p rest ih =>
      rcases p with ⟨name, schema⟩
      rw [admitsProperty, lookup]
      by_cases hkey : key = name
      · rw [if_pos hkey, if_pos hkey.symm]
        rfl
      · rw [if_neg hkey, if_neg (Ne.symm hkey), ih]

/-- A member of an admitted object is admitted by its property. -/
theorem admits_member {declared : List (String × ArgumentSchema)} {required : List String}
    (hnames : (declared.map (fun p => p.1.toList)).Nodup) {value member : Value} {name : String}
    (schema : ArgumentSchema) (hdeclared : (name, schema) ∈ declared)
    (h : (objectSchema declared required).admits value = true)
    (hmember : value.get name = some member) : schema.admits member = true := by
  unfold objectSchema at h
  rw [admits] at h
  unfold Value.get at hmember
  cases hobject : value.asObject with
  | none =>
      rw [hobject] at hmember
      cases hmember
  | some members =>
      rw [hobject] at h hmember
      -- Every member of the object is admitted by the schema declared for it.
      have hboth := Bool.and_eq_true_iff.mp h
      have hall := List.all_eq_true.mp hboth.2 (name.toList, member) (lookup_mem hmember)
      have hproperty : lookup name.toList (declared.map (fun p => (p.1.toList, p.2))) =
          some schema := by
        refine (lookup_eq_some_iff_mem ?_).mpr (List.mem_map.mpr ⟨(name, schema), hdeclared, rfl⟩)
        rw [List.map_map]
        exact hnames
      rw [admitsProperty_eq, hproperty] at hall
      exact hall

/-- Readers that read what their properties admit read every member. -/
theorem not_unread {declared : List (String × ArgumentSchema)} {required : List String}
    (hnames : (declared.map (fun p => p.1.toList)).Nodup)
    {readers : List (String × (Value → Bool))}
    (hreaders : ∀ reader ∈ readers, ∃ schema, (reader.1, schema) ∈ declared ∧
      ∀ member, schema.admits member = true → reader.2 member = true) {value : Value}
    (h : (objectSchema declared required).admits value = true) : ¬ Ignored readers value := by
  rintro ⟨reader, hreader, member, hmember, hunread⟩
  rcases hreaders reader hreader with ⟨schema, hdeclared, hreads⟩
  have hread := hreads member (admits_member hnames schema hdeclared h hmember)
  rw [hunread] at hread
  cases hread

end ArgumentSchema

open ArgumentSchema

/-- Options that the schema admits are all read. -/
theorem not_unread_options {conformance : Value}
    (h : conformanceSchema.admits conformance = true) : ¬ Ignored defaultedOptions conformance := by
  refine not_unread (by decide) ?_ h
  intro reader hreader
  unfold defaultedOptions at hreader
  simp only [List.mem_cons, List.not_mem_nil, or_false] at hreader
  rcases hreader with rfl | rfl | rfl | rfl | rfl
  · exact ⟨choice ["positive".toList, "negative".toList, "mixed".toList],
      .tail _ (.tail _ (.head _)), fun _ => admits_choice⟩
  · exact ⟨integer 1 (some 256), by simp, fun _ => admits_integer⟩
  · exact ⟨integer 0 none, by simp, fun _ => admits_integer⟩
  · exact ⟨integer 0 (some 60000), by simp, fun _ => admits_integer⟩
  · exact ⟨integer 1 (some 256), by simp, fun _ => admits_integer⟩

/-- The schemas of the tools. -/
theorem tools_inspect : lookup "kahea_inspect" tools = some (objectSchema [("source", string),
    ("match", string), ("limit", integer 1 (some 1000)), ("cursor", integer 0 none)]
    ["source"]) := if_pos rfl

theorem tools_plan : lookup "kahea_plan" tools = some (objectSchema [("source", string),
    ("operation", string), ("input", any), ("set", array string), ("server", string),
    ("auth", string), ("content_type", string), ("checks", array string),
    ("conformance", conformanceSchema)] ["source", "operation"]) :=
  (if_neg (by decide)).trans (if_pos rfl)

theorem tools_invoke : lookup "kahea_invoke" tools = some (objectSchema [("plan", string),
    ("grants", array string), ("secret_env", object [] [] (some string)),
    ("timeout_ms", integer 1 none), ("max_response_bytes", integer 1 none)]
    ["plan", "grants"]) :=
  (if_neg (by decide)).trans ((if_neg (by decide)).trans (if_pos rfl))

theorem tools_explain : lookup "kahea_explain" tools = some (objectSchema [("handle", string),
    ("select", string)] ["handle"]) :=
  (if_neg (by decide)).trans ((if_neg (by decide)).trans ((if_neg (by decide)).trans (if_pos rfl)))

/-- Arguments that the schema of a tool admits are all read. -/
theorem not_unread_arguments {name : Str} {arguments : Value}
    (h : ∀ schema, lookup name tools = some schema → schema.admits arguments = true) :
    ¬ Ignored (defaultedArguments name) arguments := by
  unfold defaultedArguments
  by_cases hinspect : name = "kahea_inspect"
  · rw [if_pos hinspect]
    -- Every reader with a default reads what the declared schema admits.
    refine not_unread (by decide) ?_ (h _ (hinspect ▸ tools_inspect))
    intro reader hreader
    simp only [List.mem_cons, List.not_mem_nil, or_false] at hreader
    rcases hreader with rfl | rfl | rfl
    · exact ⟨string, by simp, fun _ => admits_text⟩
    · exact ⟨integer 1 (some 1000), by simp, fun _ => admits_integer⟩
    · exact ⟨integer 0 none, by simp, fun _ => admits_integer⟩
  rw [if_neg hinspect]
  by_cases hplan : name = "kahea_plan"
  · rw [if_pos hplan]
    refine not_unread (by decide) ?_ (h _ (hplan ▸ tools_plan))
    intro reader hreader
    simp only [List.mem_cons, List.not_mem_nil, or_false] at hreader
    rcases hreader with rfl | rfl | rfl | rfl | rfl
    · exact ⟨array string, by simp, fun _ => admits_array⟩
    · exact ⟨string, by simp, fun _ => admits_text⟩
    · exact ⟨string, by simp, fun _ => admits_text⟩
    · exact ⟨string, by simp, fun _ => admits_text⟩
    · exact ⟨array string, by simp, fun _ => admits_array⟩
  rw [if_neg hplan]
  by_cases hinvoke : name = "kahea_invoke"
  · rw [if_pos hinvoke]
    refine not_unread (by decide) ?_ (h _ (hinvoke ▸ tools_invoke))
    intro reader hreader
    simp only [List.mem_cons, List.not_mem_nil, or_false] at hreader
    rcases hreader with rfl | rfl | rfl | rfl
    · exact ⟨array string, by simp, fun _ => admits_array⟩
    · exact ⟨object [] [] (some string), by simp, fun _ => admits_object⟩
    · exact ⟨integer 1 none, by simp, fun _ => admits_integer⟩
    · exact ⟨integer 1 none, by simp, fun _ => admits_integer⟩
  rw [if_neg hinvoke]
  by_cases hexplain : name = "kahea_explain"
  · rw [if_pos hexplain]
    refine not_unread (by decide) ?_ (h _ (hexplain ▸ tools_explain))
    intro reader hreader
    rw [List.mem_singleton] at hreader
    subst hreader
    exact ⟨string, by simp, fun _ => admits_text⟩
  rw [if_neg hexplain]
  -- The tool that explains a handle has no default to fall back on.
  rintro ⟨reader, hreader, _⟩
  cases hreader

/-- No argument of a conforming call is replaced. -/
theorem not_replaced {params : Value} (h : SchemaConforms params) : ¬ Replaced params := by
  rintro ⟨name, hname, hunread | ⟨rfl, conformance, hconformance, hunread⟩⟩
  · exact not_unread_arguments (fun schema => h name schema hname) hunread
  · have hplan := h _ _ hname tools_plan
    have hoptions := admits_member (by decide) conformanceSchema (by simp) hplan
      hconformance
    exact not_unread_options hoptions hunread

/-- A call enforces the declaration for every backend exactly when its
    arguments conform to it or fail one of the checks that are made. -/
theorem callTool_enforced_iff (params : Value) :
    (∀ b, Enforced b params) ↔ SchemaConforms params ∨ Refused params := by
  constructor
  · intro h
    by_contra hneither
    rw [not_or] at hneither
    rcases not_rejects hneither.2 with ⟨b, hb⟩
    exact hb ((h b).1 hneither.1)
  · rintro (hconforms | hrefused) b
    · exact ⟨fun hno => absurd hconforms hno, fun _ => not_replaced hconforms⟩
    · exact ⟨fun _ => rejects_of_refused hrefused,
        fun hno => absurd (rejects_of_refused hrefused) hno⟩

/-- A call for the operations of a document, with a limit above the declared
    maximum. -/
def overlongCall : Value :=
  jsonObject [("name", .string "kahea_inspect"), ("arguments",
    jsonObject [("limit", jsonNat 5000), ("source", .string "status.json")])]

/-- The call is answered, although its limit is above the maximum. -/
theorem callTool_unenforced : ¬ ∀ (b : Backend) (params : Value), Enforced b params := by
  intro h
  have hnot : ¬ SchemaConforms overlongCall := by
    intro hconforms
    have hadmits := hconforms "kahea_inspect" _ (by decide) tools_inspect
    exact absurd hadmits (by decide +kernel)
  rcases (h (openBackend statusFile) overlongCall).1 hnot [] with ⟨e, he⟩
  have hanswered : (callTool (openBackend statusFile) overlongCall []).1.toOption.isSome = true := by
    decide +kernel
  rw [he] at hanswered
  cases hanswered

end Kahea
