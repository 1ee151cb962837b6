import Kahea.Core.Conformance
import Kahea.Core.Workflow

/-!
# Reading Plans Back

The deserialisation that is derived for the plans of `kahea-core`.

A stored plan is read from its text into the fields of a record, without a
value in between. The reader hands over what the text says (`Value`, with the
members in the order they stand in), and each record takes the members it
knows; a second member of a name is an error. A record may also be written as
an array of its fields. A field that is a JSON value itself is sorted, as maps
are.

An optional field is left out or null when it is absent, so an optional JSON
value that is null is read back as absent.

## Main definitions

* `structMember`, `required`, `nullable`, `defaulted`: The members of a record.
* `Value.canonical`: A value with its maps sorted.
* `RequestPlan.fromJson`, `WebSocketPlan.fromJson`, `WorkflowPlan.fromJson`,
  `ConformancePlan.fromJson`: The plans.
-/

namespace Kahea

/-! ### Values and records -/

mutual

/-- A value with the members of its objects in key order; of two members of a
    name the last one counts. -/
def Value.canonical : Value → Value
  | .array items => .array (canonicalItems items)
  | .object members => .object (canonicalMembers [] members)
  | v => v

/-- The items of a list, each canonical. -/
def canonicalItems : List Value → List Value
  | [] => []
  | v :: rest => v.canonical :: canonicalItems rest

/-- Members in order, the last of each name kept. -/
def canonicalMembers (done : List (Str × Value)) : List (Str × Value) → List (Str × Value)
  | [] => done
  | (k, v) :: rest => canonicalMembers (insert k v.canonical done) rest

end

/-- The members of a record: those of an object, or the items of an array under
    the names of the fields, of which the last ones may be left out. -/
def structMembers (names : List String) (minimum : Nat) : Value → Option (List (Str × Value))
  | .object members => some members
  | .array items =>
      if minimum ≤ items.length ∧ items.length ≤ names.length then
        some ((names.map String.toList).zip items)
      else none
  | _ => none

/-- The member of a record under a name; a second one of it is an error. -/
def structMember (members : List (Str × Value)) (name : String) : Option (Option Value) :=
  match members.filter (fun e => e.1 = name.toList) with
  | [] => some none
  | [e] => some (some e.2)
  | _ => none

section

variable {α : Type}

/-- A field that must be there. -/
def required (decode : Value → Option α) (members : List (Str × Value)) (name : String) : Option α :=
  (structMember members name).bind (fun member => member.bind decode)

/-- A value that may be null. -/
def decodeOptional (decode : Value → Option α) : Value → Option (Option α)
  | .null => some none
  | v => (decode v).map some

/-- An optional field. -/
def nullable (decode : Value → Option α) (members : List (Str × Value)) (name : String) :
    Option (Option α) :=
  (structMember members name).bind (fun member => (member.map (decodeOptional decode)).getD (some none))

/-- A field with a default. -/
def defaulted (default : α) (decode : Value → Option α) (members : List (Str × Value))
    (name : String) : Option α :=
  (structMember members name).bind (fun member => (member.map decode).getD (some default))

/-- A sequence. -/
def decodeList (decode : Value → Option α) (v : Value) : Option (List α) :=
  v.asArray.bind (fun items => items.mapM decode)

end

/-- An unsigned integer below a bound. -/
def decodeUnsigned (bound : Nat) : Value → Option Nat
  | .number (.posInt n) => if n < bound then some n else none
  | _ => none

def u8Bound : Nat := 256

def u16Bound : Nat := 65536

/-- A list of strings. -/
def decodeStrings : Value → Option (List Str) := decodeList Value.asStr

/-- A JSON value. -/
def decodeValue (v : Value) : Option Value := some v.canonical

/-- A map of JSON values. -/
def decodeMap (v : Value) : Option (List (Str × Value)) := v.asObject.map (canonicalMembers [])

/-- A unit variant: its text, or an object of its text and nothing. -/
def decodeVariant {α : Type} (text : α → Str) (variants : List α) : Value → Option α
  | .string s | .object [(s, .null)] => variants.find? (fun x => text x = s)
  | _ => none

/-- Derived `Deserialize` of `RiskClass`. -/
def RiskClass.fromJson : Value → Option RiskClass :=
  decodeVariant RiskClass.text [.read, .write, .destructive, .unknown]

/-! ### Parts of plans -/

/-- Derived `Deserialize` of `PlannedBody`. -/
def PlannedBody.fromJson (v : Value) : Option PlannedBody := do
  let m ← structMembers ["media_type", "bytes", "blake3", "encoding", "inline"] 5 v
  let mediaType ← required Value.asStr m "media_type"
  let bytes ← required (decodeUnsigned u64Bound) m "bytes"
  let blake3 ← required Value.asStr m "blake3"
  let encoding ← required Value.asStr m "encoding"
  let inline ← required Value.asStr m "inline"
  pure ⟨mediaType, bytes, blake3, encoding, inline⟩

def PlannedHeader.fromJson (v : Value) : Option PlannedHeader := do
  let m ← structMembers ["name", "value"] 2 v
  let name ← required Value.asStr m "name"
  let value ← required Value.asStr m "value"
  pure ⟨name, value⟩

/-- Derived `Deserialize` of `PlannedAuth`. -/
def PlannedAuth.fromJson (v : Value) : Option PlannedAuth := do
  let m ← structMembers ["scheme", "kind", "profile", "placement", "token_url", "scopes"] 6 v
  let scheme ← required Value.asStr m "scheme"
  let kind ← required Value.asStr m "kind"
  let profile ← required Value.asStr m "profile"
  let placement ← required Value.asStr m "placement"
  let tokenUrl ← nullable Value.asStr m "token_url"
  let scopes ← required decodeStrings m "scopes"
  pure ⟨scheme, kind, profile, placement, tokenUrl, scopes⟩

def FieldDerivation.fromJson (v : Value) : Option FieldDerivation := do
  let m ← structMembers ["field", "source", "source_location", "logical_value", "wire_value",
    "transformations"] 6 v
  let field ← required Value.asStr m "field"
  let source ← required Value.asStr m "source"
  let sourceLocation ← required Value.asStr m "source_location"
  let logicalValue ← required decodeValue m "logical_value"
  let wireValue ← nullable Value.asStr m "wire_value"
  let transformations ← required decodeStrings m "transformations"
  pure ⟨field, source, sourceLocation, logicalValue, wireValue, transformations⟩

/-! ### Request plans -/

/-- The members a request plan may have. -/
def RequestPlan.fields : List String :=
  ["protocol", "kind", "version", "config_fingerprint", "policy_fingerprint",
    "source_fingerprints", "id", "operation", "target", "method", "risk", "required_grants",
    "secret_refs", "headers", "auth", "body", "checks", "response_contract", "sensitive_headers",
    "redact_response_json_pointers", "derivations", "valid", "fingerprint", "exit"]

/-- `deny_unknown_fields`, then field by field. -/
def RequestPlan.fromJson (v : Value) : Option RequestPlan := do
  let m ← structMembers RequestPlan.fields 24 v
  let protocol ← required Value.asStr m "protocol"
  let kind ← required Value.asStr m "kind"
  let version ← required Value.asStr m "version"
  let configFingerprint ← required Value.asStr m "config_fingerprint"
  let policyFingerprint ← required Value.asStr m "policy_fingerprint"
  let sourceFingerprints ← required decodeStrings m "source_fingerprints"
  let id ← required Value.asStr m "id"
  let operation ← required Value.asStr m "operation"
  let target ← required Value.asStr m "target"
  let method ← required Value.asStr m "method"
  let risk ← required RiskClass.fromJson m "risk"
  let requiredGrants ← required decodeStrings m "required_grants"
  let secretRefs ← required decodeStrings m "secret_refs"
  let headers ← required (decodeList PlannedHeader.fromJson) m "headers"
  let auth ← nullable PlannedAuth.fromJson m "auth"
  let body ← nullable PlannedBody.fromJson m "body"
  let checks ← required decodeStrings m "checks"
  let responseContract ← required decodeValue m "response_contract"
  let sensitiveHeaders ← required decodeStrings m "sensitive_headers"
  let redactResponseJsonPointers ← required decodeStrings m "redact_response_json_pointers"
  let derivations ← required (decodeList FieldDerivation.fromJson) m "derivations"
  let valid ← required Value.asBool m "valid"
  let fingerprint ← required Value.asStr m "fingerprint"
  let exit ← required (decodeUnsigned u8Bound) m "exit"
  pure { protocol, kind, version, configFingerprint, policyFingerprint, sourceFingerprints, id,
         operation, target, method, risk, requiredGrants, secretRefs, headers, auth, body, checks,
         responseContract, sensitiveHeaders, redactResponseJsonPointers, derivations, valid,
         fingerprint, exit }

/-! ### WebSocket plans -/

/-- Only the named members may stand. -/
def denyUnknown (names : List String) (members : List (Str × Value)) : Option Unit :=
  if members.all (fun e => (names.map String.toList).contains e.1) then some () else none

def WebSocketLimits.fields : List String :=
  ["connect_timeout_ms", "action_timeout_ms", "idle_timeout_ms", "close_timeout_ms",
    "total_timeout_ms", "max_frame_bytes", "max_message_bytes", "max_inbound_frames",
    "max_outbound_frames", "max_inbound_messages", "max_outbound_messages", "max_inbound_bytes",
    "max_outbound_bytes"]

/-- Derived `Deserialize` of `WebSocketLimits`. -/
def WebSocketLimits.fromJson (v : Value) : Option WebSocketLimits := do
  let m ← structMembers WebSocketLimits.fields 13 v
  denyUnknown WebSocketLimits.fields m
  let connectTimeoutMs ← required (decodeUnsigned u64Bound) m "connect_timeout_ms"
  let actionTimeoutMs ← required (decodeUnsigned u64Bound) m "action_timeout_ms"
  let idleTimeoutMs ← required (decodeUnsigned u64Bound) m "idle_timeout_ms"
  let closeTimeoutMs ← required (decodeUnsigned u64Bound) m "close_timeout_ms"
  let totalTimeoutMs ← required (decodeUnsigned u64Bound) m "total_timeout_ms"
  let maxFrameBytes ← required (decodeUnsigned u64Bound) m "max_frame_bytes"
  let maxMessageBytes ← required (decodeUnsigned u64Bound) m "max_message_bytes"
  let maxInboundFrames ← required (decodeUnsigned u64Bound) m "max_inbound_frames"
  let maxOutboundFrames ← required (decodeUnsigned u64Bound) m "max_outbound_frames"
  let maxInboundMessages ← required (decodeUnsigned u64Bound) m "max_inbound_messages"
  let maxOutboundMessages ← required (decodeUnsigned u64Bound) m "max_outbound_messages"
  let maxInboundBytes ← required (decodeUnsigned u64Bound) m "max_inbound_bytes"
  let maxOutboundBytes ← required (decodeUnsigned u64Bound) m "max_outbound_bytes"
  pure { connectTimeoutMs, actionTimeoutMs, idleTimeoutMs, closeTimeoutMs, totalTimeoutMs,
         maxFrameBytes, maxMessageBytes, maxInboundFrames, maxOutboundFrames, maxInboundMessages,
         maxOutboundMessages, maxInboundBytes, maxOutboundBytes }

/-- The tag of an action and its other members, or the items after the tag. -/
def actionTag : Value → Option (Str × Value)
  | .object members =>
      match structMember members "type" with
      | some (some (.string tag)) =>
          some (tag, .object (members.filter (fun e => e.1 ≠ "type".toList)))
      | _ => none
  | .array (.string tag :: items) => some (tag, .array items)
  | _ => none

/-- The members of an action of the given fields, and no others. -/
def actionMembers (names : List String) (v : Value) : Option (List (Str × Value)) := do
  let m ← structMembers names names.length v
  denyUnknown names m
  pure m

/-- The fields of an action after its tag. -/
def WebSocketAction.decode (tag : Str) (v : Value) : Option WebSocketAction :=
  if tag = "send-text" then do
    let m ← actionMembers ["text"] v
    let text ← required Value.asStr m "text"
    pure (.sendText text)
  else if tag = "send-binary" then do
    let m ← actionMembers ["payload_base64"] v
    let payload ← required Value.asStr m "payload_base64"
    pure (.sendBinary payload)
  else if tag = "expect-text" then do
    let m ← actionMembers ["equals", "timeout_ms"] v
    let equals ← required Value.asStr m "equals"
    let timeout ← nullable (decodeUnsigned u64Bound) m "timeout_ms"
    pure (.expectText equals timeout)
  else if tag = "expect-binary" then do
    let m ← actionMembers ["payload_base64", "timeout_ms"] v
    let payload ← required Value.asStr m "payload_base64"
    let timeout ← nullable (decodeUnsigned u64Bound) m "timeout_ms"
    pure (.expectBinary payload timeout)
  else if tag = "expect-json" then do
    let m ← actionMembers ["pointer", "equals", "schema", "timeout_ms"] v
    let pointer ← nullable Value.asStr m "pointer"
    let equals ← nullable decodeValue m "equals"
    let schema ← nullable decodeValue m "schema"
    let timeout ← nullable (decodeUnsigned u64Bound) m "timeout_ms"
    pure (.expectJson pointer equals schema timeout)
  else if tag = "ping" then do
    let m ← actionMembers ["payload_base64"] v
    let payload ← required Value.asStr m "payload_base64"
    pure (.ping payload)
  else if tag = "expect-pong" then do
    let m ← actionMembers ["payload_base64", "timeout_ms"] v
    let payload ← required Value.asStr m "payload_base64"
    let timeout ← nullable (decodeUnsigned u64Bound) m "timeout_ms"
    pure (.expectPong payload timeout)
  else if tag = "close" then do
    let m ← actionMembers ["code", "reason"] v
    let code ← required (decodeUnsigned u16Bound) m "code"
    let reason ← required Value.asStr m "reason"
    pure (.close code reason)
  else if tag = "expect-close" then do
    let m ← actionMembers ["codes", "reason", "timeout_ms"] v
    let codes ← required (decodeList (decodeUnsigned u16Bound)) m "codes"
    let reason ← nullable Value.asStr m "reason"
    let timeout ← nullable (decodeUnsigned u64Bound) m "timeout_ms"
    pure (.expectClose codes reason timeout)
  else none

/-- The tag `type` selects the variant. -/
def WebSocketAction.fromJson (v : Value) : Option WebSocketAction := do
  let (tag, fields) ← actionTag v
  WebSocketAction.decode tag fields

/-- The members a session plan may have. -/
def WebSocketPlan.fields : List String :=
  ["protocol", "kind", "version", "config_fingerprint", "policy_fingerprint",
    "source_fingerprints", "id", "operation", "target", "risk", "required_grants", "secret_refs",
    "headers", "auth", "origin", "subprotocols", "handshake_checks", "limits", "actions",
    "sensitive_headers", "redact_response_json_pointers", "valid", "fingerprint", "exit"]

/-- Derived `Deserialize` of `WebSocketPlan`. -/
def WebSocketPlan.fromJson (v : Value) : Option WebSocketPlan := do
  let m ← structMembers WebSocketPlan.fields 24 v
  let protocol ← required Value.asStr m "protocol"
  let kind ← required Value.asStr m "kind"
  let version ← required Value.asStr m "version"
  let configFingerprint ← required Value.asStr m "config_fingerprint"
  let policyFingerprint ← required Value.asStr m "policy_fingerprint"
  let sourceFingerprints ← required decodeStrings m "source_fingerprints"
  let id ← required Value.asStr m "id"
  let operation ← required Value.asStr m "operation"
  let target ← required Value.asStr m "target"
  let risk ← required RiskClass.fromJson m "risk"
  let requiredGrants ← required decodeStrings m "required_grants"
  let secretRefs ← required decodeStrings m "secret_refs"
  let headers ← required (decodeList PlannedHeader.fromJson) m "headers"
  let auth ← nullable PlannedAuth.fromJson m "auth"
  let origin ← nullable Value.asStr m "origin"
  let subprotocols ← required decodeStrings m "subprotocols"
  let handshakeChecks ← required decodeStrings m "handshake_checks"
  let limits ← required WebSocketLimits.fromJson m "limits"
  let actions ← required (decodeList WebSocketAction.fromJson) m "actions"
  let sensitiveHeaders ← required decodeStrings m "sensitive_headers"
  let redactResponseJsonPointers ← required decodeStrings m "redact_response_json_pointers"
  let valid ← required Value.asBool m "valid"
  let fingerprint ← required Value.asStr m "fingerprint"
  let exit ← required (decodeUnsigned u8Bound) m "exit"
  pure { protocol, kind, version, configFingerprint, policyFingerprint, sourceFingerprints, id,
         operation, target, risk, requiredGrants, secretRefs, headers, auth, origin, subprotocols,
         handshakeChecks, limits, actions, sensitiveHeaders, redactResponseJsonPointers, valid,
         fingerprint, exit }

/-! ### Workflow plans -/

def WorkflowParameterBinding.fromJson (v : Value) : Option WorkflowParameterBinding := do
  let m ← structMembers ["name", "location", "value"] 3 v
  let name ← required Value.asStr m "name"
  let location ← nullable Value.asStr m "location"
  let value ← required decodeValue m "value"
  pure ⟨name, location, value⟩

def WorkflowStepTransport.fromJson : Value → Option WorkflowStepTransport :=
  decodeVariant WorkflowStepTransport.text [.http, .webSocket]

def WorkflowWebSocketBinding.fromJson (v : Value) : Option WorkflowWebSocketBinding := do
  let m ← structMembers ["pointer", "value"] 2 v
  let pointer ← required Value.asStr m "pointer"
  let value ← required decodeValue m "value"
  pure ⟨pointer, value⟩

def WorkflowStepTemplate.fields : List String :=
  ["step_id", "source_name", "source_document", "source_fingerprint", "operation", "parameters",
    "request_body", "outputs", "deferred_bindings", "depends_on", "success_criteria", "on_success",
    "on_failure", "timeout_ms", "transport", "websocket_plan", "websocket_bindings"]

def WorkflowStepTemplate.fromJson (v : Value) : Option WorkflowStepTemplate := do
  let m ← structMembers WorkflowStepTemplate.fields 14 v
  let stepId ← required Value.asStr m "step_id"
  let sourceName ← required Value.asStr m "source_name"
  let sourceDocument ← required decodeValue m "source_document"
  let sourceFingerprint ← required Value.asStr m "source_fingerprint"
  let operation ← required Value.asStr m "operation"
  let parameters ← required (decodeList WorkflowParameterBinding.fromJson) m "parameters"
  let requestBody ← nullable decodeValue m "request_body"
  let outputs ← required decodeMap m "outputs"
  let deferredBindings ← required decodeStrings m "deferred_bindings"
  let dependsOn ← required decodeStrings m "depends_on"
  let successCriteria ← required (decodeList decodeValue) m "success_criteria"
  let onSuccess ← required (decodeList decodeValue) m "on_success"
  let onFailure ← required (decodeList decodeValue) m "on_failure"
  let timeoutMs ← nullable (decodeUnsigned u64Bound) m "timeout_ms"
  let transport ← defaulted .http WorkflowStepTransport.fromJson m "transport"
  let websocketPlan ← nullable WebSocketPlan.fromJson m "websocket_plan"
  let websocketBindings ← defaulted [] (decodeList WorkflowWebSocketBinding.fromJson) m
    "websocket_bindings"
  pure { stepId, sourceName, sourceDocument, sourceFingerprint, operation, parameters, requestBody,
         outputs, deferredBindings, dependsOn, successCriteria, onSuccess, onFailure, timeoutMs,
         transport, websocketPlan, websocketBindings }

/-- The members a workflow plan may have. -/
def WorkflowPlan.fields : List String :=
  ["protocol", "kind", "version", "config_fingerprint", "policy_fingerprint",
    "source_fingerprints", "id", "workflow", "input", "steps", "risk", "required_grants", "auth",
    "server", "checks", "websocket_policy_fingerprint", "fingerprint", "exit"]

/-- Derived `Deserialize` of `WorkflowPlan`. -/
def WorkflowPlan.fromJson (v : Value) : Option WorkflowPlan := do
  let m ← structMembers WorkflowPlan.fields 18 v
  let protocol ← required Value.asStr m "protocol"
  let kind ← required Value.asStr m "kind"
  let version ← required Value.asStr m "version"
  let configFingerprint ← required Value.asStr m "config_fingerprint"
  let policyFingerprint ← required Value.asStr m "policy_fingerprint"
  let sourceFingerprints ← required decodeStrings m "source_fingerprints"
  let id ← required Value.asStr m "id"
  let workflow ← required Value.asStr m "workflow"
  let input ← required decodeValue m "input"
  let steps ← required (decodeList WorkflowStepTemplate.fromJson) m "steps"
  let risk ← required RiskClass.fromJson m "risk"
  let requiredGrants ← required decodeStrings m "required_grants"
  let auth ← nullable Value.asStr m "auth"
  let server ← nullable Value.asStr m "server"
  let checks ← required decodeStrings m "checks"
  let websocketPolicyFingerprint ← nullable Value.asStr m "websocket_policy_fingerprint"
  let fingerprint ← required Value.asStr m "fingerprint"
  let exit ← required (decodeUnsigned u8Bound) m "exit"
  pure { protocol, kind, version, configFingerprint, policyFingerprint, sourceFingerprints, id,
         workflow, input, steps, risk, requiredGrants, auth, server, checks,
         websocketPolicyFingerprint, fingerprint, exit }

/-! ### Conformance plans -/

def ConformanceCasePlan.fromJson (v : Value) : Option ConformanceCasePlan := do
  let m ← structMembers ["case_id", "generation", "strategy", "plan", "plan_fingerprint",
    "request_digest"] 6 v
  let caseId ← required Value.asStr m "case_id"
  let generation ← required (decodeVariant ConformanceGeneration.text [.positive, .negative]) m
    "generation"
  let strategy ← required Value.asStr m "strategy"
  let plan ← required Value.asStr m "plan"
  let planFingerprint ← required Value.asStr m "plan_fingerprint"
  let requestDigest ← required Value.asStr m "request_digest"
  pure ⟨caseId, generation, strategy, plan, planFingerprint, requestDigest⟩

/-- The members a conformance plan may have. -/
def ConformancePlan.fields : List String :=
  ["protocol", "kind", "version", "config_fingerprint", "policy_fingerprint",
    "source_fingerprints", "id", "operation", "seed", "requested_cases", "delay_ms",
    "max_failures", "cases", "risk", "required_grants", "fingerprint", "exit"]

/-- Derived `Deserialize` of `ConformancePlan`. -/
def ConformancePlan.fromJson (v : Value) : Option ConformancePlan := do
  let m ← structMembers ConformancePlan.fields 17 v
  let protocol ← required Value.asStr m "protocol"
  let kind ← required Value.asStr m "kind"
  let version ← required Value.asStr m "version"
  let configFingerprint ← required Value.asStr m "config_fingerprint"
  let policyFingerprint ← required Value.asStr m "policy_fingerprint"
  let sourceFingerprints ← required decodeStrings m "source_fingerprints"
  let id ← required Value.asStr m "id"
  let operation ← required Value.asStr m "operation"
  let seed ← required (decodeUnsigned u64Bound) m "seed"
  let requestedCases ← required (decodeUnsigned u64Bound) m "requested_cases"
  let delayMs ← required (decodeUnsigned u64Bound) m "delay_ms"
  let maxFailures ← required (decodeUnsigned u64Bound) m "max_failures"
  let cases ← required (decodeList ConformanceCasePlan.fromJson) m "cases"
  let risk ← required RiskClass.fromJson m "risk"
  let requiredGrants ← required decodeStrings m "required_grants"
  let fingerprint ← required Value.asStr m "fingerprint"
  let exit ← required (decodeUnsigned u8Bound) m "exit"
  pure { protocol, kind, version, configFingerprint, policyFingerprint, sourceFingerprints, id,
         operation, seed, requestedCases, delayMs, maxFailures, cases, risk, requiredGrants,
         fingerprint, exit }

end Kahea
