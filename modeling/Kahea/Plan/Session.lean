import Kahea.Plan.Request

/-!
# WebSocket Session Plans

The WebSocket planner: identity, target, origin and subprotocol policy,
handshake headers, the configured authentication, the effective limits, the
grants and the seal.

The planner shares the host policy, the address test and the redaction policy
with the HTTP planner. Its own are the treatment of a bracketed literal, whose
brackets are taken off before the address is parsed, and the comparison with
configured servers, which parses both URLs.

## Main definitions

* `websocketHeaders`: The handshake headers of a source.
* `bindWebsocketConfiguredAuth`: The authentication of a session.
* `effectiveWebsocketLimits`: The limits under the policy.
* `websocketGrants`: The grants of a session.
* `sealWebsocketSource`: The planner.

## Theorems

* `sealWebsocketSource_ok`: What a returned plan is made of.
-/

namespace Kahea

def validateWebsocketSourceIdentity (source : WebSocketSessionSource) : Except PlanError Unit := do
  ensure (source.kind = "websocket-session" && source.version = 1)
    (.invalidWebSocketSource "kind must be websocket-session and version must be 1")
  ensure (!(source.operationId.isEmpty || 256 < (utf8 source.operationId).length ||
      source.operationId.any isControl))
    (.invalidWebSocketSource
      "operationId must be a non-empty bounded string without control characters")

/-! ### Policy -/

section

variable (lib : Crates)

def normalizeOrigin (value : Str) : Except PlanError Str :=
  match lib.parseUrl value with
  | .error e => .error (.invalidWebSocketSource ("invalid Origin URL: " ++ e))
  | .ok origin => do
      ensure ((origin.scheme = "http" || origin.scheme = "https") && origin.host.isSome &&
          origin.username = [] && origin.password.isNone && origin.path = "/" &&
          origin.query.isNone && origin.fragment.isNone)
        (.invalidWebSocketSource
          "Origin must be an http(s) origin without credentials, path, query, or fragment")
      -- For these schemes the ASCII serialisation of the origin is this text.
      pure (serverOrigin origin)

/-- An entry of the allowlist, under the error of the configuration. -/
def normalizeAllowedOrigin (configured : Str) : Except PlanError Str :=
  (normalizeOrigin lib configured).mapError (fun e => .configuration
    ("invalid WebSocket origin allowlist entry " ++ debugQuote configured ++ ": " ++ e.text))

def enforceWebsocketOriginPolicy (origin : Option Str) (c : ProjectConfiguration) :
    Except PlanError Unit := do
  let allowed ← c.policy.websocket.allowedOrigins.mapM (normalizeAllowedOrigin lib)
  match origin with
  | none => pure ()
  | some origin =>
      ensure (allowed.isEmpty || allowed.contains origin)
        (.policyDenied ("Origin " ++ debugQuote origin ++
          " is outside the configured WebSocket allowlist"))

end

def validWebsocketToken (value : Str) : Bool := validToken value

def enforceWebsocketSubprotocolPolicy (subprotocols : List Str) (c : ProjectConfiguration) :
    Except PlanError Unit := do
  let configured := c.policy.websocket.allowedSubprotocols
  ensure (configured.all validWebsocketToken && decide configured.Nodup)
    (.configuration "WebSocket subprotocol allowlist entries must be unique RFC tokens")
  ensure (subprotocols.all validWebsocketToken && decide subprotocols.Nodup)
    (.invalidWebSocketSource "requested WebSocket subprotocols must be unique RFC tokens")
  ensure (configured.isEmpty || subprotocols.all (fun p => configured.contains p))
    (.policyDenied
      "one or more requested WebSocket subprotocols are outside the configured allowlist")

/-- The headers a source may not set. -/
def forbiddenWebsocketHeaders : List Str :=
  ["authorization", "proxy-authorization", "cookie", "set-cookie", "host", "upgrade",
    "connection", "sec-websocket-key", "sec-websocket-version", "sec-websocket-protocol",
    "sec-websocket-extensions", "content-length", "transfer-encoding"].map String.toList

/-- The loop over the headers; `names` are those seen before. -/
def websocketHeadersFrom (c : ProjectConfiguration) (names : List Str) :
    List (Str × Str) → Except PlanError (List PlannedHeader)
  | [] => .ok []
  | (name, value) :: rest => do
      let normalized := lower name
      ensure (validWebsocketToken name)
        (.invalidWebSocketSource ("header name " ++ debugQuote name ++ " is not a valid HTTP token"))
      ensure (!(value.any (fun x => x == '\r' || x == '\n')))
        (.invalidWebSocketSource ("header " ++ debugQuote name ++ " value contains a line break"))
      ensure (!(forbiddenWebsocketHeaders.contains normalized ||
          c.policy.sensitiveHeaders.any (eqIgnoreCase · name)))
        (.invalidWebSocketSource ("header " ++ debugQuote name ++
          " must be supplied by the transport or a secret profile"))
      ensure (!(names.contains normalized))
        (.invalidWebSocketSource "handshake header names must be unique case-insensitively")
      let rest ← websocketHeadersFrom c (normalized :: names) rest
      pure (⟨name, value⟩ :: rest)

def websocketHeaders (source : List (Str × Str)) (c : ProjectConfiguration) :
    Except PlanError (List PlannedHeader) :=
  websocketHeadersFrom c [] source

/-- The scheme, the kind and the placement of a configured type. -/
def websocketPlacement (type : Str) : Except PlanError (Str × Str × Str) :=
  if type = "bearer" then .ok ("bearer", "http", "header:Authorization:bearer")
  else if type = "basic" then .ok ("basic", "http", "header:Authorization:basic")
  else if type = "mtls" then .ok ("mtls", "mutualTLS", "tls-client-certificate")
  else .error (.unsupportedSecurityScheme type)

def bindWebsocketConfiguredAuth (requested : Option Str) (c : ProjectConfiguration) :
    Except PlanError (Option PlannedAuth × List Str) :=
  match requested with
  | none => .ok (none, [])
  | some profile => match lookup profile c.auth with
    | none => .error (.unknownSecurityScheme profile)
    | some configured => do
        ensure (configured.references.all (startsWith "secret://".toList))
          (.configuration ("auth profile " ++ debugQuote profile ++
            " contains an inline credential; use secret:// references"))
        let (scheme, kind, placement) ← websocketPlacement configured.type
        pure (some ⟨scheme, kind, profile, placement, none, []⟩, ["secret://" ++ profile])

/-! ### Limits -/

/-- The values of limits, in the order of the record. -/
def WebSocketLimits.values (l : WebSocketLimits) : List Nat :=
  [l.connectTimeoutMs, l.actionTimeoutMs, l.idleTimeoutMs, l.closeTimeoutMs, l.totalTimeoutMs,
    l.maxFrameBytes, l.maxMessageBytes, l.maxInboundFrames, l.maxOutboundFrames,
    l.maxInboundMessages, l.maxOutboundMessages, l.maxInboundBytes, l.maxOutboundBytes]

/-- Whether the limits contradict their own total or frame bound. -/
def WebSocketLimits.contradict (l : WebSocketLimits) : Bool :=
  l.maxMessageBytes < l.maxFrameBytes || l.totalTimeoutMs < l.connectTimeoutMs ||
    l.totalTimeoutMs < l.actionTimeoutMs || l.totalTimeoutMs < l.idleTimeoutMs ||
    l.totalTimeoutMs < l.closeTimeoutMs

/-- The smaller value of each field. -/
def WebSocketLimits.min (a b : WebSocketLimits) : WebSocketLimits :=
  { connectTimeoutMs := Nat.min a.connectTimeoutMs b.connectTimeoutMs
    actionTimeoutMs := Nat.min a.actionTimeoutMs b.actionTimeoutMs
    idleTimeoutMs := Nat.min a.idleTimeoutMs b.idleTimeoutMs
    closeTimeoutMs := Nat.min a.closeTimeoutMs b.closeTimeoutMs
    totalTimeoutMs := Nat.min a.totalTimeoutMs b.totalTimeoutMs
    maxFrameBytes := Nat.min a.maxFrameBytes b.maxFrameBytes
    maxMessageBytes := Nat.min a.maxMessageBytes b.maxMessageBytes
    maxInboundFrames := Nat.min a.maxInboundFrames b.maxInboundFrames
    maxOutboundFrames := Nat.min a.maxOutboundFrames b.maxOutboundFrames
    maxInboundMessages := Nat.min a.maxInboundMessages b.maxInboundMessages
    maxOutboundMessages := Nat.min a.maxOutboundMessages b.maxOutboundMessages
    maxInboundBytes := Nat.min a.maxInboundBytes b.maxInboundBytes
    maxOutboundBytes := Nat.min a.maxOutboundBytes b.maxOutboundBytes }

def effectiveWebsocketLimits (requested : WebSocketLimits) (c : ProjectConfiguration) :
    Except PlanError WebSocketLimits := do
  let maximum := c.policy.websocket.maxLimits
  ensure (!(maximum.values.contains 0))
    (.configuration "WebSocket policy maxima must all be positive")
  ensure (!maximum.contradict)
    (.configuration "WebSocket policy maxima contradict their total or frame bounds")
  ensure (!(requested.values.contains 0))
    (.invalidWebSocketSource "requested WebSocket limits must all be positive")
  ensure (!requested.contradict)
    (.invalidWebSocketSource "requested WebSocket limits contradict their total or frame bounds")
  pure (requested.min maximum)

/-- The timeout of an expectation, bounded and filled in. -/
def tightenTimeout (maximum : Nat) (timeout : Option Nat) : Option Nat :=
  some (match timeout with
    | some value => Nat.min value maximum
    | none => maximum)

def tightenWebsocketActionTimeout (maximum : Nat) : WebSocketAction → WebSocketAction
  | .expectText equals timeout => .expectText equals (tightenTimeout maximum timeout)
  | .expectBinary payload timeout => .expectBinary payload (tightenTimeout maximum timeout)
  | .expectJson pointer equals schema timeout =>
      .expectJson pointer equals schema (tightenTimeout maximum timeout)
  | .expectPong payload timeout => .expectPong payload (tightenTimeout maximum timeout)
  | .expectClose codes reason timeout => .expectClose codes reason (tightenTimeout maximum timeout)
  | action => action

def tightenWebsocketActionTimeouts (actions : List WebSocketAction) (maximum : Nat) :
    List WebSocketAction :=
  actions.map (tightenWebsocketActionTimeout maximum)

/-! ### Risk and grants -/

/-- The risk of a session: a configured one, else the declared one, and at
    least a write when the session sends data. -/
def websocketRisk (source : WebSocketSessionSource) (c : ProjectConfiguration) : RiskClass :=
  let sendsData := source.actions.any WebSocketAction.sendsData
  ((lookup ("WEBSOCKET " ++ source.operationId) c.risk).or
    (lookup source.operationId c.risk)).getD (match source.risk with
      | some .read => if sendsData then .write else .read
      | some .unknown => if sendsData then .write else .unknown
      | some risk => risk
      | none => if sendsData then .write else .unknown)

/-- A host without the brackets of an IPv6 literal. -/
def stripBrackets (host : Str) : Str :=
  match stripPrefix "[" host with
  | some inner => (stripSuffix "]" inner).getD host
  | none => host

/-- Whether a server configured as production has the origin of the target. -/
def matchesProduction (lib : Crates) (c : ProjectConfiguration) (target : Url) : Bool :=
  c.servers.any (fun e => configuredServerMatchesTarget lib e.2 target)

/-- The grants of a session, sorted and without repetitions. -/
def websocketGrants (lib : Crates) (c : ProjectConfiguration) (target : Url) (host : Str)
    (port : Nat) (risk : RiskClass) (auth : Option PlannedAuth) : List Str :=
  dedup (sortStrings ([networkGrant host port, "websocket:connect".toList] ++
    (if target.scheme = "ws" then ["net-insecure-websocket".toList] else []) ++
    literalGrants (stripBrackets host) ++
    approvalGrants c risk (matchesProduction lib c target) ++
    ((auth.map credentialGrants).getD [])))

/-- The checks of the handshake. -/
def handshakeChecks (subprotocols : List Str) : List Str :=
  ["extensions:none".toList, "status:101".toList] ++ (match subprotocols with
    | [] => []
    | [protocol] => ["subprotocol:" ++ protocol]
    | protocols => ["subprotocol:any(" ++ join "," protocols ++ ")"])

/-- The headers every session keeps out of its evidence. -/
def alwaysSensitiveHeaders : List Str :=
  ["authorization", "cookie", "proxy-authorization", "set-cookie"].map String.toList

/-! ### The planner -/

/-- What the stages of the planner produced. -/
structure SessionParts where
  target : Url
  host : Str
  port : Nat
  origin : Option Str
  headers : List PlannedHeader
  auth : Option PlannedAuth
  secretRefs : List Str
  limits : WebSocketLimits
  configFingerprint : Str

namespace SessionParts

variable (lib : Crates) (source : WebSocketSessionSource) (c : ProjectConfiguration)
  (p : SessionParts)

/-- The grants of the session. -/
def grants : List Str :=
  websocketGrants lib c p.target p.host p.port (websocketRisk source c) p.auth

/-- The plan before it is sealed. -/
def assemble (sourceFingerprints : List Str) (operation : Str) : WebSocketPlan :=
  { protocol := PROTOCOL
    kind := "websocket-plan"
    version := VERSION
    configFingerprint := p.configFingerprint
    policyFingerprint := c.websocketPolicyFingerprint lib
    sourceFingerprints := sourceFingerprints
    id := []
    operation := operation
    target := p.target.serialize
    risk := websocketRisk source c
    requiredGrants := p.grants lib source c
    secretRefs := p.secretRefs
    headers := p.headers
    auth := p.auth
    origin := p.origin
    subprotocols := source.subprotocols
    handshakeChecks := handshakeChecks source.subprotocols
    limits := p.limits
    actions := tightenWebsocketActionTimeouts source.actions p.limits.actionTimeoutMs
    sensitiveHeaders := alwaysSensitiveHeaders ++ c.policy.sensitiveHeaders
    redactResponseJsonPointers := c.policy.redactResponseJsonPointers
    valid := true
    fingerprint := []
    exit := 0 }

end SessionParts

section

variable (lib : Crates)

/-- The stages of the planner. -/
def sessionParts (source : WebSocketSessionSource) (c : ProjectConfiguration) :
    Except PlanError SessionParts := do
  validateWebsocketSourceIdentity source
  let target ← websocketTarget lib source.url
  let (host, port) ← hostAndPort target (.invalidWebSocketSource "target URL has no host")
    (.invalidWebSocketSource "target URL has no effective port")
  enforceHostPolicy host c
  let origin ← source.origin.mapM (normalizeOrigin lib)
  enforceWebsocketOriginPolicy lib origin c
  enforceWebsocketSubprotocolPolicy source.subprotocols c
  let headers ← websocketHeaders source.headers c
  let (auth, secretRefs) ← bindWebsocketConfiguredAuth (source.auth.or c.defaults.auth) c
  let limits ← effectiveWebsocketLimits source.limits c
  validateRedactionPolicy c
  let configFingerprint ← c.configFingerprint lib
  pure ⟨target, host, port, origin, headers, auth, secretRefs, limits, configFingerprint⟩

def sealWebsocketSource (source : WebSocketSessionSource) (sourceFingerprints : List Str)
    (operation : Str) (c : ProjectConfiguration) : Except PlanError WebSocketPlan := do
  let parts ← sessionParts lib source c
  ((parts.assemble lib source c sourceFingerprints operation).sealed lib).mapError
    (fun e => .invalidWebSocketSource e.text)

end

/-! ### What a returned plan is made of -/

/-- Where the parts of a session plan come from. -/
structure SessionParts.Sound (lib : Crates) (source : WebSocketSessionSource)
    (c : ProjectConfiguration) (p : SessionParts) : Prop where
  target : websocketTarget lib source.url = .ok p.target
  host : p.target.host = some p.host
  port : p.target.portOrKnownDefault = some p.port
  policy : hostPermitted c.policy p.host = true
  auth : bindWebsocketConfiguredAuth (source.auth.or c.defaults.auth) c
    = .ok (p.auth, p.secretRefs)

section

variable {lib : Crates} {source : WebSocketSessionSource} {c : ProjectConfiguration}

theorem sessionParts_ok {p : SessionParts} (h : sessionParts lib source c = .ok p) :
    SessionParts.Sound lib source c p := by
  simp only [sessionParts, except_bind_ok, except_pure_ok, Prod.exists] at h
  rcases h with ⟨_, _, target, htarget, host, port, hhost, _, hpolicy, origin, _, _, _, _, _, headers,
    _, auth, refs, hauth, limits, _, _, _, fingerprint, _, rfl⟩
  rw [hostAndPort_ok] at hhost
  exact
    { target := htarget
      host := hhost.1
      port := hhost.2
      policy := (enforceHostPolicy_ok _ _ _).mp hpolicy
      auth := hauth }

/-- A returned plan is the sealed form of what the stages produced. -/
theorem sealWebsocketSource_parts {sourceFingerprints : List Str} {operation : Str}
    {plan : WebSocketPlan}
    (h : sealWebsocketSource lib source sourceFingerprints operation c = .ok plan) :
    ∃ parts, sessionParts lib source c = .ok parts ∧
      (parts.assemble lib source c sourceFingerprints operation).sealed lib = .ok plan := by
  rw [sealWebsocketSource, except_bind_ok] at h
  rcases h with ⟨parts, hparts, h⟩
  exact ⟨parts, hparts, except_mapError_ok.mp h⟩

/-- A returned plan is the sealed form of parts each of which comes from its
    stage. -/
theorem sealWebsocketSource_ok {sourceFingerprints : List Str} {operation : Str}
    {plan : WebSocketPlan}
    (h : sealWebsocketSource lib source sourceFingerprints operation c = .ok plan) :
    ∃ parts, SessionParts.Sound lib source c parts ∧
      (parts.assemble lib source c sourceFingerprints operation).sealed lib = .ok plan := by
  rcases sealWebsocketSource_parts h with ⟨parts, hparts, hsealed⟩
  exact ⟨parts, sessionParts_ok hparts, hsealed⟩

/-- The fields of a returned plan that the executor reads first. -/
theorem sealed_fields {p q : WebSocketPlan} (h : p.sealed lib = .ok q) :
    q.target = p.target ∧ q.auth = p.auth ∧ q.secretRefs = dedup (sortStrings p.secretRefs) ∧
      q.requiredGrants = dedup (sortStrings p.requiredGrants) := by
  rcases WebSocketPlan.sealed_ok lib p q h with ⟨_, rfl⟩
  exact ⟨rfl, rfl, rfl, rfl⟩

end

end Kahea
