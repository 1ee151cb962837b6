import Kahea.Base.Json
import Kahea.Base.Url

/-!
# Domain Types

The records of `kahea-core`: risk classes, sealed request plans and their
parts, and the digests and handles they are sealed with.

Code that is not part of the repository enters through `Crates`, one field for
each library function that is called. A plan is serialised in the order its
fields are declared in, and the seal is the digest of that text with `id` and
`fingerprint` cleared. It is keyless: anybody can seal any plan.

## Main definitions

* `Crates`: The library functions the program calls.
* `digest`, `shortHandle`: Content digests and handles.
* `RiskClass`: What an operation may do to the remote side.
* `RequestPlan`: A planned HTTP request.
* `RequestPlan.sealed`, `RequestPlan.verifySeal`: The seal.

## Theorems

* `RequestPlan.verifySeal_sealed`: A sealed plan verifies.
-/

namespace Kahea

/-- What an XPath evaluates to. -/
inductive XPathResult where
  | emptyNodeset
  | boolean (b : Bool)
  deriving DecidableEq, Repr

/-- The library functions the program calls. Errors are the texts the
    libraries report. -/
structure Crates where
  /-- `Url::parse`. -/
  parseUrl : Str → Except Str Url
  /-- `blake3::hash`, in lower-case hexadecimal. -/
  blake3 : List UInt8 → Str
  /-- `serde_json::from_slice`. -/
  parseJson : List UInt8 → Except Str Value
  /-- `toml::to_string` followed by `toml::from_str`. -/
  tomlRoundTrip : Value → Except Str Value
  /-- The error of a base64 text that does not decode. -/
  base64Error : Str → Str
  /-- `HeaderName::from_str`: the name in lower case. -/
  headerName : Str → Except Str Str
  /-- `HeaderValue::from_str`. -/
  headerValue : Str → Except Str (List UInt8)
  /-- `Method::from_bytes`. -/
  method : Str → Except Str Str
  /-- Whether `Identity::from_pem` accepts a text. -/
  clientIdentity : Str → Bool
  /-- `JsonPath::parse`: whether the query selects anything of a value. -/
  jsonPath : Str → Except Str (Value → Bool)
  /-- The evaluation of XPath expressions over an XML text, if it is one. -/
  xpath : Str → Option (Str → Except Str XPathResult)
  /-- The order of two numbers as floating point. -/
  floatLt : Number → Number → Bool
  /-- A number of nanoseconds against a maximum in milliseconds: nothing when
      the maximum is no number, and both as they are printed when it is
      exceeded. -/
  latencyCheck : Nat → Str → Option (Option (Str × Str))
  /-- A number of nanoseconds, printed in milliseconds. -/
  milliseconds : Nat → Str
  /-- `Duration::from_secs_f64`, in nanoseconds. -/
  seconds : Number → Nat
  /-- The SHA-1 digest. -/
  sha1 : List UInt8 → List UInt8
  /-- The path and query of a WebSocket client request to a URL, and the
      headers it starts with, for a nonce. -/
  clientRequest : Str → Str → Option (Str × List (Str × Str))
  /-- Whether `ServerName::try_from` accepts a host. -/
  serverName : Str → Bool
  /-- `shell_words::split`. -/
  splitWords : Str → Except Str (List Str)
  /-- The operating system and the architecture, joined by a hyphen. -/
  runtime : Str

def PROTOCOL : Str := "kahea/k1"

def VERSION : Str := "0.3.1"

section Digest

variable (lib : Crates)

/-- The digest of a byte string. -/
def digest (bytes : List UInt8) : Str := "b3:" ++ lib.blake3 bytes

/-- The eight big-endian bytes of a length. -/
def beBytes (n : Nat) : List UInt8 :=
  (List.range 8).map (fun i => (n >>> (8 * (7 - i))).toUInt8)

/-- The bytes a handle is the hash of. -/
def handlePreimage (kind : Str) (parts : List (List UInt8)) : List UInt8 :=
  utf8 "kahea/k1" ++ 0 :: (utf8 kind ++ parts.flatMap (fun p => beBytes p.length ++ p))

/-- A short content handle, `kind:` and twelve hexadecimal digits. -/
def shortHandle (kind : Str) (parts : List (List UInt8)) : Str :=
  kind ++ ':' :: (lib.blake3 (handlePreimage kind parts)).take 12

def defaultConfigFingerprint : Str := digest lib (utf8 "kahea/default-config/v1")

end Digest

/-- What an operation may do to the remote side. -/
inductive RiskClass where
  | read
  | write
  | destructive
  | unknown
  deriving DecidableEq, Repr

namespace RiskClass

/-- The risk of a method, before any configuration. -/
def forHttpMethod (method : Str) : RiskClass :=
  if oneOf ["GET", "HEAD", "OPTIONS", "QUERY"] method then .read
  else if oneOf ["POST", "PUT", "PATCH"] method then .write
  else if method = "DELETE" then .destructive
  else .unknown

/-- The serialised name. -/
def text : RiskClass → Str
  | read => "read"
  | write => "write"
  | destructive => "destructive"
  | unknown => "unknown"

/-- Whether a request of this risk needs an approval in production. -/
def writes : RiskClass → Bool
  | write | destructive => true
  | read | unknown => false

end RiskClass

structure PlannedBody where
  mediaType : Str
  bytes : Nat
  blake3 : Str
  encoding : Str
  inline : Str
  deriving DecidableEq, Repr

structure PlannedHeader where
  name : Str
  value : Str
  deriving DecidableEq, Repr

structure PlannedAuth where
  scheme : Str
  kind : Str
  profile : Str
  placement : Str
  tokenUrl : Option Str
  scopes : List Str
  deriving DecidableEq, Repr

structure FieldDerivation where
  field : Str
  source : Str
  sourceLocation : Str
  logicalValue : Value
  wireValue : Option Str
  transformations : List Str
  deriving DecidableEq, Repr

/-- A planned HTTP request. -/
structure RequestPlan where
  protocol : Str
  kind : Str
  version : Str
  configFingerprint : Str
  policyFingerprint : Str
  sourceFingerprints : List Str
  id : Str
  operation : Str
  target : Str
  method : Str
  risk : RiskClass
  requiredGrants : List Str
  secretRefs : List Str
  headers : List PlannedHeader
  auth : Option PlannedAuth
  body : Option PlannedBody
  checks : List Str
  responseContract : Value
  sensitiveHeaders : List Str
  redactResponseJsonPointers : List Str
  derivations : List FieldDerivation
  valid : Bool
  fingerprint : Str
  exit : Nat
  deriving DecidableEq, Repr

/-! ### Serialisation -/

/-- A JSON object with the members in the order given. -/
def jsonObject (members : List (String × Value)) : Value :=
  .object (members.map (fun m => (m.1.toList, m.2)))

/-- A JSON object with sorted members. -/
def jsonSorted (members : List (String × Value)) : Value :=
  .object (members.foldl (fun m e => insert e.1.toList e.2 m) [])

/-- A JSON unsigned integer. -/
def jsonNat (n : Nat) : Value := .number (.posInt n)

def PlannedBody.toJson (b : PlannedBody) : Value :=
  jsonObject [("media_type", .string b.mediaType), ("bytes", jsonNat b.bytes),
    ("blake3", .string b.blake3), ("encoding", .string b.encoding), ("inline", .string b.inline)]

def PlannedHeader.toJson (h : PlannedHeader) : Value :=
  jsonObject [("name", .string h.name), ("value", .string h.value)]

def PlannedAuth.toJson (a : PlannedAuth) : Value :=
  jsonObject [("scheme", .string a.scheme), ("kind", .string a.kind),
    ("profile", .string a.profile), ("placement", .string a.placement),
    ("token_url", optional .string a.tokenUrl), ("scopes", stringArray a.scopes)]

def FieldDerivation.toJson (d : FieldDerivation) : Value :=
  jsonObject [("field", .string d.field), ("source", .string d.source),
    ("source_location", .string d.sourceLocation), ("logical_value", d.logicalValue),
    ("wire_value", optional .string d.wireValue),
    ("transformations", stringArray d.transformations)]

namespace RequestPlan

def toJson (p : RequestPlan) : Value :=
  jsonObject [("protocol", .string p.protocol), ("kind", .string p.kind),
    ("version", .string p.version), ("config_fingerprint", .string p.configFingerprint),
    ("policy_fingerprint", .string p.policyFingerprint),
    ("source_fingerprints", stringArray p.sourceFingerprints), ("id", .string p.id),
    ("operation", .string p.operation), ("target", .string p.target),
    ("method", .string p.method), ("risk", .string p.risk.text),
    ("required_grants", stringArray p.requiredGrants), ("secret_refs", stringArray p.secretRefs),
    ("headers", .array (p.headers.map PlannedHeader.toJson)),
    ("auth", optional PlannedAuth.toJson p.auth), ("body", optional PlannedBody.toJson p.body),
    ("checks", stringArray p.checks), ("response_contract", p.responseContract),
    ("sensitive_headers", stringArray p.sensitiveHeaders),
    ("redact_response_json_pointers", stringArray p.redactResponseJsonPointers),
    ("derivations", .array (p.derivations.map FieldDerivation.toJson)), ("valid", .bool p.valid),
    ("fingerprint", .string p.fingerprint), ("exit", jsonNat p.exit)]

variable (lib : Crates)

/-- The bytes the seal is the digest of. -/
def material (p : RequestPlan) : List UInt8 :=
  utf8 ({ p with id := [], fingerprint := [] }).toJson.render

/-- The handle that belongs to a fingerprint. -/
def handleOf (fingerprint : Str) : Str := shortHandle lib "plan" [utf8 fingerprint]

/-- The method `seal`: the fingerprint and the handle are filled in. -/
def sealed (p : RequestPlan) : RequestPlan :=
  let fingerprint := digest lib p.material
  { p with fingerprint := fingerprint, id := handleOf lib fingerprint }

/-- Whether the fingerprint and the handle are those of the content. -/
def verifySeal (p : RequestPlan) : Bool :=
  digest lib p.material = p.fingerprint && p.id = handleOf lib p.fingerprint

@[simp] theorem material_sealed (p : RequestPlan) : (p.sealed lib).material = p.material := rfl

@[simp] theorem verifySeal_sealed (p : RequestPlan) : (p.sealed lib).verifySeal lib = true := by
  rw [verifySeal, material_sealed]
  simp only [sealed, decide_true, Bool.and_self]

end RequestPlan

end Kahea
