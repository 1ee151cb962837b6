import Kahea.Core.Observation
import Kahea.Core.WebSocket

/-!
# Workflow Plans

The workflow half of `kahea-core`: the templates of the steps, the sealed plan
that holds them and the observation a run ends with.

A template keeps the whole document of its source and, for a session, the
sealed child plan. What a step is sent is made when the step runs, from the
template, the input and the outputs of the steps before it. The seal is the
keyless digest of the other plans; loading a plan does not validate it again.

## Main definitions

* `WorkflowStepTemplate`: One step of a plan.
* `WorkflowPlan`, `WorkflowPlan.sealed`, `WorkflowPlan.verifySeal`: The plan.
* `WorkflowStepObservation`, `WorkflowObservation`: What a run reports.

## Theorems

* `WorkflowPlan.verifySeal_sealed`: A sealed plan verifies.
-/

namespace Kahea

/-- A parameter of a step, bound to an expression. -/
structure WorkflowParameterBinding where
  name : Str
  location : Option Str
  value : Value
  deriving DecidableEq, Repr

/-- A request or a session. -/
inductive WorkflowStepTransport where
  | http
  | webSocket
  deriving DecidableEq, Repr

def WorkflowStepTransport.text : WorkflowStepTransport → Str
  | http => "http"
  | webSocket => "websocket"

/-- A part of a session that is filled in when the step runs. -/
structure WorkflowWebSocketBinding where
  pointer : Str
  value : Value
  deriving DecidableEq, Repr

/-- One step of a plan. -/
structure WorkflowStepTemplate where
  stepId : Str
  sourceName : Str
  sourceDocument : Value
  sourceFingerprint : Str
  operation : Str
  parameters : List WorkflowParameterBinding
  requestBody : Option Value
  outputs : List (Str × Value)
  deferredBindings : List Str
  dependsOn : List Str
  successCriteria : List Value
  onSuccess : List Value
  onFailure : List Value
  timeoutMs : Option Nat
  transport : WorkflowStepTransport
  websocketPlan : Option WebSocketPlan
  websocketBindings : List WorkflowWebSocketBinding
  deriving DecidableEq, Repr

/-- A planned workflow. -/
structure WorkflowPlan where
  protocol : Str
  kind : Str
  version : Str
  configFingerprint : Str
  policyFingerprint : Str
  sourceFingerprints : List Str
  id : Str
  workflow : Str
  input : Value
  steps : List WorkflowStepTemplate
  risk : RiskClass
  requiredGrants : List Str
  auth : Option Str
  server : Option Str
  checks : List Str
  websocketPolicyFingerprint : Option Str
  fingerprint : Str
  exit : Nat
  deriving DecidableEq, Repr

/-! ### Serialisation -/

def WorkflowParameterBinding.toJson (b : WorkflowParameterBinding) : Value :=
  jsonObject [("name", .string b.name), ("location", optional .string b.location),
    ("value", b.value)]

def WorkflowWebSocketBinding.toJson (b : WorkflowWebSocketBinding) : Value :=
  jsonObject [("pointer", .string b.pointer), ("value", b.value)]

/-- The members that are left out when they have their default. -/
def WorkflowStepTemplate.websocketMembers (t : WorkflowStepTemplate) : List (String × Value) :=
  (if t.transport = .http then [] else [("transport", .string t.transport.text)]) ++
    (t.websocketPlan.toList.map (fun p => ("websocket_plan", p.toJson))) ++
    (if t.websocketBindings.isEmpty then []
      else [("websocket_bindings", .array (t.websocketBindings.map WorkflowWebSocketBinding.toJson))])

/-- A step as it is written. -/
def WorkflowStepTemplate.toJson (t : WorkflowStepTemplate) : Value :=
  jsonObject ([("step_id", .string t.stepId), ("source_name", .string t.sourceName),
    ("source_document", t.sourceDocument), ("source_fingerprint", .string t.sourceFingerprint),
    ("operation", .string t.operation),
    ("parameters", .array (t.parameters.map WorkflowParameterBinding.toJson)),
    ("request_body", optional id t.requestBody), ("outputs", .object t.outputs),
    ("deferred_bindings", stringArray t.deferredBindings),
    ("depends_on", stringArray t.dependsOn), ("success_criteria", .array t.successCriteria),
    ("on_success", .array t.onSuccess), ("on_failure", .array t.onFailure),
    ("timeout_ms", optional jsonNat t.timeoutMs)] ++ t.websocketMembers)

namespace WorkflowPlan

/-- A workflow plan as it is written. -/
def toJson (p : WorkflowPlan) : Value :=
  jsonObject ([("protocol", .string p.protocol), ("kind", .string p.kind),
    ("version", .string p.version), ("config_fingerprint", .string p.configFingerprint),
    ("policy_fingerprint", .string p.policyFingerprint),
    ("source_fingerprints", stringArray p.sourceFingerprints), ("id", .string p.id),
    ("workflow", .string p.workflow), ("input", p.input),
    ("steps", .array (p.steps.map WorkflowStepTemplate.toJson)), ("risk", .string p.risk.text),
    ("required_grants", stringArray p.requiredGrants), ("auth", optional .string p.auth),
    ("server", optional .string p.server), ("checks", stringArray p.checks)] ++
    p.websocketPolicyFingerprint.toList.map (fun f => ("websocket_policy_fingerprint", .string f)) ++
    [("fingerprint", .string p.fingerprint), ("exit", jsonNat p.exit)])

variable (lib : Crates)

/-- The bytes the seal is the digest of. -/
def material (p : WorkflowPlan) : List UInt8 :=
  utf8 ({ p with id := [], fingerprint := [] }).toJson.render

/-- The handle that belongs to a fingerprint. -/
def handleOf (fingerprint : Str) : Str := shortHandle lib "workflow-plan" [utf8 fingerprint]

/-- The method `seal`. -/
def sealed (p : WorkflowPlan) : WorkflowPlan :=
  let fingerprint := digest lib p.material
  { p with fingerprint := fingerprint, id := handleOf lib fingerprint }

/-- Whether the fingerprint and the handle are those of the content. -/
def verifySeal (p : WorkflowPlan) : Bool :=
  digest lib p.material = p.fingerprint && p.id = handleOf lib p.fingerprint

@[simp] theorem material_sealed (p : WorkflowPlan) : (p.sealed lib).material = p.material := rfl

@[simp] theorem verifySeal_sealed (p : WorkflowPlan) : (p.sealed lib).verifySeal lib = true := by
  rw [verifySeal, material_sealed]
  simp only [sealed, decide_true, Bool.and_self]

end WorkflowPlan

/-! ### Observations -/

/-- What a run reports of one step. -/
structure WorkflowStepObservation where
  stepId : Str
  plan : Option Str
  attempts : List Value
  result : Value
  deriving DecidableEq, Repr

/-- What a run reports. -/
structure WorkflowObservation where
  protocol : Str
  kind : Str
  version : Str
  configFingerprint : Str
  policyFingerprint : Str
  sourceFingerprints : List Str
  workflowPlan : Str
  outcome : Outcome
  steps : List WorkflowStepObservation
  outputs : List (Str × Value)
  exit : Nat
  deriving DecidableEq, Repr

end Kahea
