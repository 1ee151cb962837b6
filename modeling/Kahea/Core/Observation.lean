import Kahea.Core.Domain

/-!
# Observations

The summaries an executor returns and persists: one of an HTTP request, one of
a WebSocket session. Both are serialised in the order their fields are declared
in. A duration is a floating-point number of milliseconds, kept as the text it
is printed with.

## Main definitions

* `Outcome`: How an execution ended.
* `Observation`: The summary of a request.
* `WebSocketTerminalCause`, `WebSocketObservation`: The summary of a session.
-/

namespace Kahea

/-- How an invocation ended. -/
inductive Outcome where
  | passed
  | failed
  | denied
  | error
  deriving DecidableEq, Repr

/-- An outcome as serde writes it. -/
def Outcome.text : Outcome → Str
  | passed => "passed"
  | failed => "failed"
  | denied => "denied"
  | error => "error"

/-- The summary of a request. -/
structure Observation where
  protocol : Str
  kind : Str
  version : Str
  configFingerprint : Str
  policyFingerprint : Str
  sourceFingerprints : List Str
  toolVersion : Str
  plan : Str
  outcome : Outcome
  status : Option Nat
  responseSchema : Option Str
  latencyMs : Option Str
  responseBytes : Option Nat
  body : Option Str
  trace : Option Str
  resolvedOrigin : Option Str
  httpVersion : Option Str
  secretRefs : List Str
  runtime : Str
  exit : Nat
  deriving DecidableEq, Repr

/-- A number of milliseconds. -/
def jsonMilliseconds (text : Str) : Value := .number (.float text)

/-- An observation as it is written. -/
def Observation.toJson (o : Observation) : Value :=
  jsonObject [("protocol", .string o.protocol), ("kind", .string o.kind),
    ("version", .string o.version), ("config_fingerprint", .string o.configFingerprint),
    ("policy_fingerprint", .string o.policyFingerprint),
    ("source_fingerprints", stringArray o.sourceFingerprints),
    ("tool_version", .string o.toolVersion), ("plan", .string o.plan),
    ("outcome", .string o.outcome.text), ("status", optional jsonNat o.status),
    ("response_schema", optional .string o.responseSchema),
    ("latency_ms", optional jsonMilliseconds o.latencyMs),
    ("response_bytes", optional jsonNat o.responseBytes), ("body", optional .string o.body),
    ("trace", optional .string o.trace), ("resolved_origin", optional .string o.resolvedOrigin),
    ("http_version", optional .string o.httpVersion), ("secret_refs", stringArray o.secretRefs),
    ("runtime", .string o.runtime), ("exit", jsonNat o.exit)]

/-! ### Sessions -/

/-- Who closed a session first. -/
inductive WebSocketCloseInitiator where
  | client
  | server
  deriving DecidableEq, Repr

def WebSocketCloseInitiator.text : WebSocketCloseInitiator → Str
  | client => "client"
  | server => "server"

/-- The close of a session, as it is recorded. -/
structure WebSocketCloseObservation where
  initiator : WebSocketCloseInitiator
  code : Nat
  reason : Str
  deriving DecidableEq, Repr

/-- Why a session ended. -/
inductive WebSocketTerminalCause where
  | completed
  | handshakeCheckFailed
  | expectationFailed
  | budgetExhausted
  | dnsFailure
  | connectionFailure
  | tlsFailure
  | ioFailure
  | protocolViolation
  | unexpectedEof
  | connectTimeout
  | actionTimeout
  | idleTimeout
  | closeTimeout
  | totalTimeout
  | cancelled
  deriving DecidableEq, Repr

def WebSocketTerminalCause.text : WebSocketTerminalCause → Str
  | completed => "completed"
  | handshakeCheckFailed => "handshake-check-failed"
  | expectationFailed => "expectation-failed"
  | budgetExhausted => "budget-exhausted"
  | dnsFailure => "dns-failure"
  | connectionFailure => "connection-failure"
  | tlsFailure => "tls-failure"
  | ioFailure => "io-failure"
  | protocolViolation => "protocol-violation"
  | unexpectedEof => "unexpected-eof"
  | connectTimeout => "connect-timeout"
  | actionTimeout => "action-timeout"
  | idleTimeout => "idle-timeout"
  | closeTimeout => "close-timeout"
  | totalTimeout => "total-timeout"
  | cancelled => "cancelled"

/-- What a session moved in each direction. -/
structure WebSocketCounters where
  inboundFrames : Nat
  outboundFrames : Nat
  inboundMessages : Nat
  outboundMessages : Nat
  inboundBytes : Nat
  outboundBytes : Nat
  deriving DecidableEq, Repr

def WebSocketCounters.default : WebSocketCounters := ⟨0, 0, 0, 0, 0, 0⟩

/-- The summary of a session. -/
structure WebSocketObservation where
  protocol : Str
  kind : Str
  version : Str
  configFingerprint : Str
  policyFingerprint : Str
  sourceFingerprints : List Str
  toolVersion : Str
  plan : Str
  outcome : Outcome
  handshakeStatus : Option Nat
  negotiatedSubprotocol : Option Str
  handshakeLatencyMs : Option Str
  sessionDurationMs : Option Str
  transcript : Option Str
  handshake : Option Str
  trace : Option Str
  close : Option WebSocketCloseObservation
  terminalCause : WebSocketTerminalCause
  counters : WebSocketCounters
  resolvedOrigin : Option Str
  httpVersion : Option Str
  secretRefs : List Str
  runtime : Str
  exit : Nat
  deriving DecidableEq, Repr

def WebSocketCloseObservation.toJson (c : WebSocketCloseObservation) : Value :=
  jsonObject [("initiator", .string c.initiator.text), ("code", jsonNat c.code),
    ("reason", .string c.reason)]

def WebSocketCounters.toJson (c : WebSocketCounters) : Value :=
  jsonObject [("inbound_frames", jsonNat c.inboundFrames),
    ("outbound_frames", jsonNat c.outboundFrames),
    ("inbound_messages", jsonNat c.inboundMessages),
    ("outbound_messages", jsonNat c.outboundMessages),
    ("inbound_bytes", jsonNat c.inboundBytes), ("outbound_bytes", jsonNat c.outboundBytes)]

/-- An observation of a session as it is written. -/
def WebSocketObservation.toJson (o : WebSocketObservation) : Value :=
  jsonObject [("protocol", .string o.protocol), ("kind", .string o.kind),
    ("version", .string o.version), ("config_fingerprint", .string o.configFingerprint),
    ("policy_fingerprint", .string o.policyFingerprint),
    ("source_fingerprints", stringArray o.sourceFingerprints),
    ("tool_version", .string o.toolVersion), ("plan", .string o.plan),
    ("outcome", .string o.outcome.text), ("handshake_status", optional jsonNat o.handshakeStatus),
    ("negotiated_subprotocol", optional .string o.negotiatedSubprotocol),
    ("handshake_latency_ms", optional jsonMilliseconds o.handshakeLatencyMs),
    ("session_duration_ms", optional jsonMilliseconds o.sessionDurationMs),
    ("transcript", optional .string o.transcript), ("handshake", optional .string o.handshake),
    ("trace", optional .string o.trace),
    ("close", optional WebSocketCloseObservation.toJson o.close),
    ("terminal_cause", .string o.terminalCause.text), ("counters", o.counters.toJson),
    ("resolved_origin", optional .string o.resolvedOrigin),
    ("http_version", optional .string o.httpVersion), ("secret_refs", stringArray o.secretRefs),
    ("runtime", .string o.runtime), ("exit", jsonNat o.exit)]

end Kahea
