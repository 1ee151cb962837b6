import Kahea.Core.WebSocket
import Kahea.Core.World

/-!
# Project Configuration

Plan errors, plan options and the project configuration with its policy.

`PlanError.stackOverflow` is no error the code reports: it stands for the abort
of a validation whose references never end.

The configuration is what the planner is handed; reading it from its file is
not modelled. Its fingerprint is taken over what a round trip through the
configuration format makes of it, and version 0 stands for the absent file and
has a fixed fingerprint.

## Main definitions

* `PlanError`: How planning fails.
* `PlanOptions`: What the caller selects.
* `ProjectConfiguration`: Servers, profiles, risks and the policy.
* `ProjectConfiguration.configFingerprint`,
  `ProjectConfiguration.policyFingerprint`: The fingerprints a plan carries.
* `validateRedactionPolicy`: The check of the redaction policy.
-/

namespace Kahea

/-- Why nothing is planned. -/
inductive PlanError where
  | missingServer
  | ambiguousServer
  | unknownServer (selector : Str)
  | invalidServer (reason : Str)
  | unsafeTarget (reason : Str)
  | missingParameter (location name : Str)
  | unknownInput (key : Str)
  | invalidInput (field reason : Str)
  | missingBody
  | unexpectedBody
  | unknownContentType (mediaType : Str)
  | missingAuth
  | unknownSecurityScheme (scheme : Str)
  | unsupportedSecurityScheme (scheme : Str)
  | invalidExplicitField (key : Str)
  | serialization (reason : Str)
  | store (reason : Str)
  | invalidSeal
  | blockingAbsence (location reason : Str)
  | configuration (reason : Str)
  | policyDenied (reason : Str)
  | invalidWebSocketSource (reason : Str)
  | stackOverflow
  deriving DecidableEq, Repr

/-- The text of an error. -/
def PlanError.text : PlanError → Str
  | missingServer => "no server is declared; provide --server with an absolute URL"
  | ambiguousServer => "multiple servers are available; select one with --server"
  | unknownServer s => "server selector " ++ debugQuote s ++ " did not match a declared server"
  | invalidServer r => "server URL is invalid: " ++ r
  | unsafeTarget r => "target URL is not permitted: " ++ r
  | missingParameter l n => "missing required " ++ l ++ " parameter " ++ debugQuote n
  | unknownInput k => "unknown input " ++ debugQuote k
  | invalidInput f r => "invalid input for " ++ f ++ ": " ++ r
  | missingBody => "request body is required"
  | unexpectedBody => "request body is not declared for this operation"
  | unknownContentType t => "content type " ++ debugQuote t ++ " is not declared for this operation"
  | missingAuth => "authentication is required; provide --auth PROFILE or --auth SCHEME=PROFILE"
  | unknownSecurityScheme s => "security scheme " ++ debugQuote s ++ " was not found"
  | unsupportedSecurityScheme s => "unsupported security scheme " ++ debugQuote s
  | invalidExplicitField k =>
      "invalid explicit field " ++ debugQuote k ++ "; expected LOCATION.NAME=VALUE"
  | serialization r => "could not serialize plan: " ++ r
  | store r => "plan store error: " ++ r
  | invalidSeal => "plan fingerprint does not match its canonical bytes"
  | blockingAbsence l r => "source has material unsupported behavior at " ++ l ++ ": " ++ r
  | configuration r => "configuration error: " ++ r
  | policyDenied r => "policy denied planning: " ++ r
  | invalidWebSocketSource r => "invalid WebSocket session source: " ++ r
  | stackOverflow => []

/-- What the caller selects for one plan. -/
structure PlanOptions where
  server : Option Str
  auth : Option Str
  contentType : Option Str
  input : Option Value
  explicit : List (Str × Value)
  checks : List Str

/-- `PlanOptions::default()`. -/
def PlanOptions.default : PlanOptions := ⟨none, none, none, none, [], []⟩

/-- `[defaults]` of a project file. -/
structure ConfigurationDefaults where
  source : Option Str
  server : Option Str
  auth : Option Str
  policy : Option Str

def ConfigurationDefaults.default : ConfigurationDefaults := ⟨none, none, none, none⟩

/-- One server of a project file. -/
structure ConfiguredServer where
  url : Str
  classification : Option Str
  deriving DecidableEq, Repr

/-- One credential of a project file. -/
structure ConfiguredAuth where
  type : Str
  token : Option Str
  username : Option Str
  password : Option Str
  clientId : Option Str
  clientSecret : Option Str
  refreshToken : Option Str
  certificate : Option Str
  deriving DecidableEq, Repr

/-- The references to secrets in a profile. -/
def ConfiguredAuth.references (a : ConfiguredAuth) : List Str :=
  [a.token, a.username, a.password, a.clientId, a.clientSecret, a.refreshToken,
    a.certificate].reduceOption

/-- What a project allows its sessions. -/
structure WebSocketPolicy where
  allowedOrigins : List Str
  allowedSubprotocols : List Str
  maxLimits : WebSocketLimits
  deriving DecidableEq, Repr

/-- `WebSocketPolicyLimits::default()`; the record has the fields of session
    limits. -/
def WebSocketPolicyLimits.default : WebSocketLimits :=
  { connectTimeoutMs := 30000
    actionTimeoutMs := 30000
    idleTimeoutMs := 30000
    closeTimeoutMs := 10000
    totalTimeoutMs := 120000
    maxFrameBytes := 4 * 1024 * 1024
    maxMessageBytes := 16 * 1024 * 1024
    maxInboundFrames := 4096
    maxOutboundFrames := 4096
    maxInboundMessages := 2048
    maxOutboundMessages := 2048
    maxInboundBytes := 64 * 1024 * 1024
    maxOutboundBytes := 64 * 1024 * 1024 }

def WebSocketPolicy.default : WebSocketPolicy := ⟨[], [], WebSocketPolicyLimits.default⟩

/-- `[policy]` of a project file. -/
structure ConfigurationPolicy where
  deniedHosts : List Str
  allowedHosts : List Str
  maxRequestBytes : Nat
  requireProductionWriteApproval : Bool
  sensitiveHeaders : List Str
  redactResponseJsonPointers : List Str
  websocket : WebSocketPolicy

def ConfigurationPolicy.default : ConfigurationPolicy :=
  { deniedHosts := []
    allowedHosts := []
    maxRequestBytes := 16 * 1024 * 1024
    requireProductionWriteApproval := true
    sensitiveHeaders := []
    redactResponseJsonPointers := []
    websocket := .default }

/-- Project configuration. Maps are lists sorted by key. -/
structure ProjectConfiguration where
  version : Nat
  defaults : ConfigurationDefaults
  servers : List (Str × ConfiguredServer)
  auth : List (Str × ConfiguredAuth)
  risk : List (Str × RiskClass)
  policy : ConfigurationPolicy

/-- No project file. -/
def ProjectConfiguration.default : ProjectConfiguration := ⟨0, .default, [], [], [], .default⟩

/-! ### Fingerprints -/

def ConfigurationDefaults.toJson (d : ConfigurationDefaults) : Value :=
  jsonObject [("source", optional .string d.source), ("server", optional .string d.server),
    ("auth", optional .string d.auth), ("policy", optional .string d.policy)]

def ConfiguredServer.toJson (s : ConfiguredServer) : Value :=
  jsonObject [("url", .string s.url), ("classification", optional .string s.classification)]

def ConfiguredAuth.toJson (a : ConfiguredAuth) : Value :=
  jsonObject [("type", .string a.type), ("token", optional .string a.token),
    ("username", optional .string a.username), ("password", optional .string a.password),
    ("client_id", optional .string a.clientId), ("client_secret", optional .string a.clientSecret),
    ("refresh_token", optional .string a.refreshToken),
    ("certificate", optional .string a.certificate)]

def WebSocketPolicy.toJson (w : WebSocketPolicy) : Value :=
  jsonObject [("allowed_origins", stringArray w.allowedOrigins),
    ("allowed_subprotocols", stringArray w.allowedSubprotocols),
    ("max_limits", w.maxLimits.toJson)]

/-- The default WebSocket policy is left out. -/
def ConfigurationPolicy.toJson (p : ConfigurationPolicy) : Value :=
  jsonObject ([("denied_hosts", stringArray p.deniedHosts),
    ("allowed_hosts", stringArray p.allowedHosts), ("max_request_bytes", jsonNat p.maxRequestBytes),
    ("require_production_write_approval", .bool p.requireProductionWriteApproval),
    ("sensitive_headers", stringArray p.sensitiveHeaders),
    ("redact_response_json_pointers", stringArray p.redactResponseJsonPointers)] ++
    if p.websocket = .default then [] else [("websocket", p.websocket.toJson)])

/-- A map as a JSON object. -/
def jsonMap {β : Type} (f : β → Value) (m : List (Str × β)) : Value :=
  .object (m.map (fun e => (e.1, f e.2)))

namespace ProjectConfiguration

/-- A configuration as its fingerprint is taken of it. -/
def toJson (c : ProjectConfiguration) : Value :=
  jsonObject [("version", jsonNat c.version), ("defaults", c.defaults.toJson),
    ("servers", jsonMap ConfiguredServer.toJson c.servers),
    ("auth", jsonMap ConfiguredAuth.toJson c.auth),
    ("risk", jsonMap (fun r => .string r.text) c.risk), ("policy", c.policy.toJson)]

variable (lib : Crates)

/-- The fingerprint of the whole configuration. -/
def configFingerprint (c : ProjectConfiguration) : Except PlanError Str :=
  if c.version = 0 then .ok (defaultConfigFingerprint lib)
  else match lib.tomlRoundTrip c.toJson with
    | .ok v => .ok (digest lib (utf8 v.render))
    | .error e => .error (.configuration e)

/-- The fingerprint of the policy of requests. -/
def policyFingerprint (c : ProjectConfiguration) : Str :=
  digest lib (utf8 (jsonObject [("builtin", .string "kahea/builtin-policy/v1"),
    ("policy", jsonObject [("allowed_hosts", stringArray c.policy.allowedHosts),
      ("denied_hosts", stringArray c.policy.deniedHosts),
      ("max_request_bytes", jsonNat c.policy.maxRequestBytes),
      ("redact_response_json_pointers", stringArray c.policy.redactResponseJsonPointers),
      ("require_production_write_approval", .bool c.policy.requireProductionWriteApproval),
      ("sensitive_headers", stringArray c.policy.sensitiveHeaders)])]).render)

/-- The WebSocket policy as a value, its members sorted by key. -/
def websocketPolicyValue (w : WebSocketPolicy) : Value :=
  jsonObject [("allowed_origins", stringArray w.allowedOrigins),
    ("allowed_subprotocols", stringArray w.allowedSubprotocols),
    ("max_limits", .object (sortBy Prod.fst (w.maxLimits.toJson.asObject.getD [])))]

/-- The fingerprint of the policy of sessions. -/
def websocketPolicyFingerprint (c : ProjectConfiguration) : Str :=
  digest lib (utf8 (jsonObject [("builtin", .string "kahea/builtin-websocket-policy/v1"),
    ("policy", jsonObject [("allowed_hosts", stringArray c.policy.allowedHosts),
      ("denied_hosts", stringArray c.policy.deniedHosts),
      ("redact_response_json_pointers", stringArray c.policy.redactResponseJsonPointers),
      ("require_production_write_approval", .bool c.policy.requireProductionWriteApproval),
      ("sensitive_headers", stringArray c.policy.sensitiveHeaders),
      ("websocket", websocketPolicyValue c.policy.websocket)])]).render)

end ProjectConfiguration

/-! ### Policy checks -/

/-- The check of the redaction policy, made by both planners. -/
def validateRedactionPolicy (c : ProjectConfiguration) : Except PlanError Unit := do
  match c.policy.redactResponseJsonPointers.find? (fun p =>
      !(startsWith "/" p) || 2048 < (utf8 p).length) with
  | some pointer =>
      .error (.configuration
        ("response redaction pointer " ++ debugQuote pointer ++ " must be a bounded JSON Pointer"))
  | none => .ok ()
  ensure (!(c.policy.sensitiveHeaders.any (fun h =>
      h = [] || h.any (fun x => x == '\r' || x == '\n'))))
    (.configuration
      "sensitive header names must be non-empty and contain no line breaks")

/-- Whether the host policy admits a host. -/
def hostPermitted (policy : ConfigurationPolicy) (host : Str) : Bool :=
  !(policy.deniedHosts.any (eqIgnoreCase · host)) &&
    (policy.allowedHosts.isEmpty || policy.allowedHosts.any (eqIgnoreCase · host))

/-- Deny list first, then allow list. -/
def enforceHostPolicy (host : Str) (c : ProjectConfiguration) : Except PlanError Unit := do
  ensure (!(c.policy.deniedHosts.any (eqIgnoreCase · host)))
    (.policyDenied ("host " ++ debugQuote host ++ " is explicitly denied"))
  ensure (c.policy.allowedHosts.isEmpty || c.policy.allowedHosts.any (eqIgnoreCase · host))
    (.policyDenied ("host " ++ debugQuote host ++ " is outside the configured allowlist"))

/-- The checks of `enforceHostPolicy` are the host policy. -/
theorem enforceHostPolicy_ok (host : Str) (c : ProjectConfiguration) (u : Unit) :
    enforceHostPolicy host c = .ok u ↔ hostPermitted c.policy host = true := by
  simp only [enforceHostPolicy, hostPermitted, except_bind_ok, ensure_ok, exists_const,
    Bool.and_eq_true]

end Kahea
