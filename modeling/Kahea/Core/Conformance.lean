import Kahea.Core.Observation

/-!
# Conformance Plans

The conformance half of `kahea-core`: the cases of a campaign, the sealed plan
that names them and the observation a campaign ends with.

A campaign names its request plans by handle and fingerprint. The bounds that
planning checks are plain numbers of the plan, and loading one does not check
them again.

## Main definitions

* `ConformanceCasePlan`, `ConformancePlan`: A campaign.
* `ConformancePlan.sealed`, `ConformancePlan.verifySeal`: The seal.
* `ConformanceCaseObservation`, `ConformanceObservation`: What it reports.

## Theorems

* `ConformancePlan.verifySeal_sealed`: A sealed campaign verifies.
-/

namespace Kahea

inductive ConformanceGeneration where
  | positive
  | negative
  deriving DecidableEq, Repr

def ConformanceGeneration.text : ConformanceGeneration → Str
  | positive => "positive"
  | negative => "negative"

/-- One case of a campaign. -/
structure ConformanceCasePlan where
  caseId : Str
  generation : ConformanceGeneration
  strategy : Str
  plan : Str
  planFingerprint : Str
  requestDigest : Str
  deriving DecidableEq, Repr

/-- A planned campaign. -/
structure ConformancePlan where
  protocol : Str
  kind : Str
  version : Str
  configFingerprint : Str
  policyFingerprint : Str
  sourceFingerprints : List Str
  id : Str
  operation : Str
  seed : Nat
  requestedCases : Nat
  delayMs : Nat
  maxFailures : Nat
  cases : List ConformanceCasePlan
  risk : RiskClass
  requiredGrants : List Str
  fingerprint : Str
  exit : Nat
  deriving DecidableEq, Repr

def ConformanceCasePlan.toJson (c : ConformanceCasePlan) : Value :=
  jsonObject [("case_id", .string c.caseId), ("generation", .string c.generation.text),
    ("strategy", .string c.strategy), ("plan", .string c.plan),
    ("plan_fingerprint", .string c.planFingerprint), ("request_digest", .string c.requestDigest)]

namespace ConformancePlan

def toJson (p : ConformancePlan) : Value :=
  jsonObject [("protocol", .string p.protocol), ("kind", .string p.kind),
    ("version", .string p.version), ("config_fingerprint", .string p.configFingerprint),
    ("policy_fingerprint", .string p.policyFingerprint),
    ("source_fingerprints", stringArray p.sourceFingerprints), ("id", .string p.id),
    ("operation", .string p.operation), ("seed", jsonNat p.seed),
    ("requested_cases", jsonNat p.requestedCases), ("delay_ms", jsonNat p.delayMs),
    ("max_failures", jsonNat p.maxFailures),
    ("cases", .array (p.cases.map ConformanceCasePlan.toJson)), ("risk", .string p.risk.text),
    ("required_grants", stringArray p.requiredGrants), ("fingerprint", .string p.fingerprint),
    ("exit", jsonNat p.exit)]

variable (lib : Crates)

/-- The bytes the seal is the digest of. -/
def material (p : ConformancePlan) : List UInt8 :=
  utf8 ({ p with id := [], fingerprint := [] }).toJson.render

/-- The handle that belongs to a fingerprint. -/
def handleOf (fingerprint : Str) : Str := shortHandle lib "conformance-plan" [utf8 fingerprint]

/-- The method `seal`. -/
def sealed (p : ConformancePlan) : ConformancePlan :=
  let fingerprint := digest lib p.material
  { p with fingerprint := fingerprint, id := handleOf lib fingerprint }

/-- Whether the fingerprint and the handle are those of the content. -/
def verifySeal (p : ConformancePlan) : Bool :=
  digest lib p.material = p.fingerprint && p.id = handleOf lib p.fingerprint

@[simp] theorem material_sealed (p : ConformancePlan) : (p.sealed lib).material = p.material := rfl

@[simp] theorem verifySeal_sealed (p : ConformancePlan) : (p.sealed lib).verifySeal lib = true := by
  rw [verifySeal, material_sealed]
  simp only [sealed, decide_true, Bool.and_self]

end ConformancePlan

/-! ### Observations -/

/-- What a campaign reports of one case. -/
structure ConformanceCaseObservation where
  caseId : Str
  generation : ConformanceGeneration
  strategy : Str
  plan : Str
  passed : Bool
  status : Option Nat
  reason : Str
  evidence : Str
  deriving DecidableEq, Repr

/-- What a campaign reports. -/
structure ConformanceObservation where
  protocol : Str
  kind : Str
  version : Str
  configFingerprint : Str
  policyFingerprint : Str
  sourceFingerprints : List Str
  conformancePlan : Str
  outcome : Outcome
  generated : Nat
  executed : Nat
  passed : Nat
  failed : Nat
  transportErrors : Nat
  cases : List ConformanceCaseObservation
  required : Option Str
  exit : Nat
  deriving DecidableEq, Repr

end Kahea
