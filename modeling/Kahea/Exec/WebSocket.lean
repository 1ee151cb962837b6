import Kahea.Exec.Invoke
import Kahea.Exec.Transcript

/-!
# The WebSocket Executor

`connect_websocket` and `execute_websocket`: from the seal of a plan through
the gate, the handshake and the actions to the persisted observation.

Nothing is resolved before the seal, the validation of the plan, the
fingerprints and the grants that name no address; the binding of the transport
compares what the plan requires with its own target and credential. The TCP and
TLS connections are opened after every grant has been checked.

## Main definitions

* `websocketAdmitted`: The tests before anything is resolved.
* `validateTransportBinding`: The plan's grants against its target.
* `websocketRequest`: The request of the handshake.
* `performUpgrade`: The handshake.
* `connectWebsocket`, `executeWebsocket`: The executor.
* `Executes`: What an execution does to the outside.

## Theorems

* `prepareHandshake_ensures`: What is known before the connection is opened.
* `executeWebsocket_ensures`: The effects of an execution.
-/

namespace Kahea

section

variable (lib : Crates) (world : World)

/-! ### Before the connection -/

/-- The seal, the fingerprints and the grants that name no address. -/
def websocketAdmitted (plan : WebSocketPlan) (options : InvokeOptions) :
    Except ExecError (Except DenialEnvelope Unit) := do
  ensure (plan.verifySeal lib && plan.validate.toOption.isSome) .invalidSeal
  ensure (options.expectedConfigFingerprint.all (fun f => f = plan.configFingerprint))
    .configurationMismatch
  ensure (options.expectedPolicyFingerprint.all (fun f => f = plan.policyFingerprint))
    .policyMismatch
  match missingGrant options.grants
      (plan.requiredGrants.filter (fun g => !isAddressDependentGrant g)) with
  | some missing =>
      .ok (.error (websocketDenial plan "invocation is missing a required capability" missing))
  | none => .ok (.ok ())

/-- The grants a plan must list for its target and its credential. -/
def boundGrants (plan : WebSocketPlan) (target : Url) (host : Str) (port : Nat) : List Str :=
  [networkGrant host port, "websocket:connect"] ++
    (if target.scheme = "ws" then ["net-insecure-websocket".toList] else []) ++
    match plan.auth with
    | none => []
    | some auth => ("secret:" ++ auth.profile) ::
        (if auth.placement = "tls-client-certificate" then ["tls-client-cert:" ++ auth.profile]
        else [])

def validateTransportBinding (plan : WebSocketPlan) (target : Url) : Except ExecError Unit :=
  match target.host, target.portOrKnownDefault with
  | some host, some port => do
      ensure (plan.auth.all (fun auth => plan.secretRefs.contains ("secret://" ++ auth.profile)))
        .invalidSeal
      ensure ((boundGrants plan target host port).all plan.requiredGrants.contains) .invalidSeal
      ensure (plan.handshakeChecks = sortStrings (handshakeChecks plan.subprotocols)) .invalidSeal
  | _, _ => .error .invalidSeal

/-! ### The request -/

/-- The headers the transport sets itself. -/
def handshakeControlledHeaders : List Str := protocolOwned

/-- The function `insert_header`. -/
def insertHeader (headers : HeaderMap) (name value : Str) (sensitive : Bool) :
    Except ExecError HeaderMap := do
  ensure (!(name ++ value).any (fun c => c = '\r' || c = '\n')) (.invalidHeader "CR/LF is denied")
  let name ← (lib.headerName name).mapError
    (fun _ => ExecError.invalidHeader "invalid WebSocket header name")
  let value ← (lib.headerValue value).mapError
    (fun _ => ExecError.invalidHeader "invalid WebSocket header value")
  pure (headers ++ [⟨name, value, sensitive⟩])

/-- One planned header. -/
def insertPlannedHeader (headers : HeaderMap) (planned : PlannedHeader) :
    Except ExecError HeaderMap := do
  ensure (!(handshakeControlledHeaders.any (fun owned => eqIgnoreCase planned.name owned)))
    (.invalidHeader "planned header collides with a handshake-controlled header")
  insertHeader lib headers planned.name planned.value false

/-- The value of the authorization header of a placement. -/
def authorizationValue (auth : PlannedAuth) (secret : Str) : Except ExecError Str :=
  if auth.placement = "header:Authorization:basic" then
    .ok ("Basic " ++ base64Encode (utf8 secret))
  else if auth.placement = "header:Authorization:bearer" then .ok ("Bearer " ++ secret)
  else .error (.unsupportedAuth auth.placement)

/-- The credential of the handshake, when it is a header. -/
def insertAuthorization (plan : WebSocketPlan) (options : InvokeOptions) (headers : HeaderMap) :
    Except ExecError HeaderMap :=
  match plan.auth with
  | none => .ok headers
  | some auth =>
      if auth.placement = "tls-client-certificate" then .ok headers
      else do
        let secret ← resolveSecret options auth.profile
        let value ← authorizationValue auth secret
        insertHeader lib headers "authorization" value true

/-- The headers of the handshake, from those the library starts with. -/
def websocketHeaderMap (plan : WebSocketPlan) (options : InvokeOptions)
    (initial : List (Str × Str)) : Except ExecError HeaderMap := do
  let headers := initial.map (fun h => (⟨h.1, utf8 h.2, false⟩ : Header))
  let headers ← plan.headers.foldlM (insertPlannedHeader lib) headers
  let headers ← match plan.origin with
    | none => .ok headers
    | some origin => insertHeader lib headers "origin" origin false
  let headers ←
    if plan.subprotocols = [] then .ok headers
    else insertHeader lib headers "sec-websocket-protocol" (join ", " plan.subprotocols) false
  insertAuthorization lib plan options headers

/-- What is replaced in the evidence of a session: the supplied secrets, long
    ones first. -/
def sessionRedactions (options : InvokeOptions) : List (List UInt8) :=
  dedup ((secretRedactions lib options).insertionSort (fun a b => b.length ≤ a.length))

/-- The function `websocket_request`: the path and the headers. -/
def websocketRequest (plan : WebSocketPlan) (options : InvokeOptions) (key : Str) :
    Except ExecError (Str × HeaderMap) :=
  match lib.clientRequest key plan.target with
  | none => .error (.invalidTarget "WebSocket request URI is invalid")
  | some (path, initial) => do
      let headers ← websocketHeaderMap lib plan options initial
      pure (path, headers)

/-! ### The connection -/

/-- The client identity of the TLS configuration. -/
def tlsIdentity (plan : WebSocketPlan) (options : InvokeOptions) : Except ExecError (Option Str) :=
  match plan.auth with
  | none => .ok none
  | some auth =>
      if auth.placement = "tls-client-certificate" then do
        let pem ← resolveSecret options auth.profile
        ensure (lib.clientIdentity pem) .invalidClientIdentity
        pure (some pem)
      else .ok none

/-- The function `build_tls_config`, for a target that is secured. -/
def buildTlsConfig (plan : WebSocketPlan) (options : InvokeOptions) (target : Url) :
    Eff Event ExecError (Option Str) :=
  if target.scheme = "wss" then do
    let past ← Eff.past
    Eff.ofExcept ((world.trustStore past options.additionalRootCertificatesPem).mapError
      ExecError.transport)
    Eff.ofExcept (tlsIdentity lib plan options)
  else pure none

/-- The function `connect_pinned`: the first address that accepts, or whether
    the deadline has passed. -/
def connectPinned (past : List Event) : Bool → List SocketAddr → Except Bool SocketAddr
  | timedOut, [] => .error timedOut
  | timedOut, address :: rest => match world.tcp past address with
    | .connected => .ok address
    | .deadlinePassed => .error true
    | .unusable => .error false
    | .timedOut => connectPinned past true rest
    -- The clock is compared once more after the last address.
    | .refused late =>
        if rest.isEmpty then .error (timedOut || late) else connectPinned past timedOut rest

/-- The function `websocket_config`. -/
def websocketConfig (limits : WebSocketLimits) : Except ExecError Unit :=
  ensure (limits.maxFrameBytes < u64Bound && limits.maxMessageBytes < u64Bound) .invalidSeal

/-- Whether the secured stream can be set up; a plain one always can. -/
def websocketStream (past : List Event) (target : Url) : Bool :=
  target.scheme ≠ "wss" ||
    target.host.any (fun host =>
      lib.serverName (stripBrackets host) && world.tls past (stripBrackets host))

/-! ### The handshake -/

/-- Why a handshake fails. -/
structure HandshakeFailure where
  terminal : SessionTerminal
  response : Option HandshakeResponse
  counters : WebSocketCounters

def handshakeCheckFailure : HandshakeFailure :=
  ⟨.failed .handshakeCheckFailed, none, WebSocketCounters.default⟩

/-- The function `io_handshake_failure`; bytes that are no response fail the
    handshake check. -/
def ioHandshakeFailure (tls : Bool) : UpgradeError → HandshakeFailure
  | .interrupted => ⟨.error .cancelled, none, WebSocketCounters.default⟩
  | .timedOut => ⟨.error .connectTimeout, none, WebSocketCounters.default⟩
  | .invalidData =>
      ⟨.error (if tls then .tlsFailure else .ioFailure), none, WebSocketCounters.default⟩
  | .endOfFile => ⟨.error .unexpectedEof, none, WebSocketCounters.default⟩
  | .malformed => handshakeCheckFailure
  | .other => ⟨.error .ioFailure, none, WebSocketCounters.default⟩

/-- The longest head of a handshake, in either direction. -/
def maxHandshakeBytes : Nat := 64 * 1024

/-- Whether the head of the request can be written. -/
def requestHead (path : Str) (headers : HeaderMap) : Bool :=
  headers.all (fun h => (headerText h.value).isSome) &&
    (utf8 path).length + 15 + headers.foldl (fun n h => n + (h.name.length + h.value.length + 4)) 0
      + 2 ≤ maxHandshakeBytes

/-- The value of `sec-websocket-accept` for a nonce. -/
def expectedAccept (key : Str) : Str :=
  base64Encode (lib.sha1 (utf8 (key ++ "258EAFA5-E914-47DA-95CA-C5AB0DC85B11")))

/-- The values of a header as texts; a value that is none has one no check
    accepts. -/
def shownTexts (headers : HeaderMap) (name : Str) : List Str :=
  (headers.getAll name).map (fun v => (headerText v).getD "\x00invalid")

/-- The subprotocol of a response, among those offered. -/
def subprotocolValid (offered : List Str) (headers : HeaderMap) : Bool :=
  match shownTexts headers "sec-websocket-protocol" with
  | [] => offered.isEmpty
  | [selected] => !(selected.contains ',') && offered.contains selected
  | _ => false

/-- The checks on the response of a handshake. -/
def upgradeValid (offered : List Str) (key : Str) (response : HandshakeResponse) : Bool :=
  response.status = 101 && response.version = .http11 &&
    (headerTexts response.headers "upgrade").any (eqIgnoreCase "websocket") &&
    (headerTexts response.headers "connection").any (fun value =>
      (value.splitOn ',').any (fun token => eqIgnoreCase (trim token) "upgrade")) &&
    shownTexts response.headers "sec-websocket-accept" = [expectedAccept lib key] &&
    (response.headers.getAll "sec-websocket-extensions").isEmpty &&
    subprotocolValid offered response.headers

/-- The subprotocols a request offers. -/
def offeredSubprotocols (headers : HeaderMap) : List Str :=
  (((headers.get "sec-websocket-protocol").bind headerText).map
    (fun value => (value.splitOn ',').map trim)).getD []

/-- A response that passes the checks, and the wire after the bytes that came
    with it. -/
def acceptUpgrade (limits : WebSocketLimits) (offered : List Str) (key : Str)
    (response : HandshakeResponse) :
    Except HandshakeFailure (HandshakeResponse × WireParser × WireAccounting) :=
  if !upgradeValid lib offered key response then
    .error ⟨.failed .handshakeCheckFailed, some response, WebSocketCounters.default⟩
  else
    let wire := observe limits (WireParser.new, WireAccounting.default) response.buffered
    match wire.2.failure with
    | some cause => .error ⟨.ofFailure cause, some response, wire.2.counters⟩
    | none => .ok (response, wire)

/-- The function `perform_upgrade`. -/
def performUpgrade (limits : WebSocketLimits) (path : Str) (request : HttpRequest) (tls : Bool) :
    Eff Event ExecError
      (Except HandshakeFailure (HandshakeResponse × WireParser × WireAccounting)) :=
  match (request.headers.get "sec-websocket-key").bind headerText with
  | none => pure (.error handshakeCheckFailure)
  | some key =>
      if !requestHead path request.headers then pure (.error handshakeCheckFailure)
      else do
        Eff.emit (.send request)
        let past ← Eff.past
        match world.upgrade past request with
        | .error e => pure (.error (ioHandshakeFailure tls e))
        | .ok response =>
            pure (acceptUpgrade lib limits (offeredSubprotocols request.headers) key response)

/-- The function `selected_subprotocol`. -/
def selectedSubprotocol (response : HandshakeResponse) : Option Str :=
  (response.headers.get "sec-websocket-protocol").bind headerText

/-! ### The executor -/

/-- A request that is ready for the handshake, with the record of it. -/
structure Handshake where
  target : Url
  path : Str
  headers : HeaderMap
  identity : Option Str
  addresses : List SocketAddr
  redactions : List (List UInt8)
  trace : Str

/-- The profiles whose credential a handshake carries. -/
def Handshake.credentials (plan : WebSocketPlan) (h : Handshake) : List Str :=
  match plan.auth with
  | none => []
  | some auth =>
      if auth.placement = "tls-client-certificate" ∧ h.identity = none then [] else [auth.profile]

/-- The request as it leaves the process. -/
def Handshake.request (plan : WebSocketPlan) (h : Handshake) : HttpRequest :=
  { method := "GET"
    url := h.target
    headers := h.headers
    body := []
    identity := h.identity
    credentials := h.credentials plan }

/-- What a stage of the executor comes to: it may be the end of the attempt. -/
abbrev Staged (α : Type) := Except WebSocketConnectResult α

/-- The observation of an attempt that fails here. -/
def failAttempt {α : Type} (plan : WebSocketPlan) (terminal : SessionTerminal)
    (details : FailureDetails) : Eff Event ExecError (Staged α) := do
  let result ← failedObservation lib world plan terminal details
  pure (.error result)

/-- The gate and the grants, once the target is known. -/
def prepareAddresses (plan : WebSocketPlan) (options : InvokeOptions) (target : Url) :
    Eff Event ExecError (Staged (List SocketAddr)) := do
  let gate ← (evaluateWebsocketTarget world plan target options).attempt
  match gate with
  | .error .dns => failAttempt lib world plan (.error .dnsFailure) FailureDetails.default
  | .ok (.error denial) => pure (.error (.denied denial))
  | .ok (.ok addresses) =>
      match missingGrant options.grants plan.requiredGrants with
      | some missing =>
          pure (.error (.denied
            (websocketDenial plan "invocation is missing a required capability" missing)))
      | none => pure (.ok addresses)

/-- The request, its trace and the TLS configuration. -/
def prepareRequest (plan : WebSocketPlan) (options : InvokeOptions) (target : Url)
    (addresses : List SocketAddr) : Eff Event ExecError Handshake := do
  let past ← Eff.past
  let (path, headers) ← Eff.ofExcept
    (websocketRequest lib plan options (world.websocketKey past))
  let redactions := sessionRedactions lib options
  let trace ← storeWebsocketTrace lib world plan headers redactions
  let identity ← buildTlsConfig lib world plan options target
  pure ⟨target, path, headers, identity, addresses, redactions, trace⟩

/-- Everything before the connection is opened. -/
def prepareHandshake (plan : WebSocketPlan) (options : InvokeOptions) :
    Eff Event ExecError (Staged Handshake) := do
  let verdict ← Eff.ofExcept (websocketAdmitted lib plan options)
  match verdict with
  | .error denial => pure (.error (.denied denial))
  | .ok () => do
      let past ← Eff.past
      if world.cancelled past then
        failAttempt lib world plan (.error .cancelled) FailureDetails.default
      else do
        let target ← Eff.ofExcept ((lib.parseUrl plan.target).mapError ExecError.invalidTarget)
        Eff.ofExcept (validateTransportBinding plan target)
        let addresses ← prepareAddresses lib world plan options target
        match addresses with
        | .error result => pure (.error result)
        | .ok addresses => do
            let handshake ← prepareRequest lib world plan options target addresses
            pure (.ok handshake)

/-- Open the connection: the address it is open to. -/
def openConnection (plan : WebSocketPlan) (h : Handshake) : Eff Event ExecError (Staged SocketAddr) := do
  Eff.emit (.connect h.target.scheme (h.target.host.getD [])
    (h.target.portOrKnownDefault.getD 0) h.addresses)
  let past ← Eff.past
  match connectPinned world past false h.addresses with
  | .error late =>
      failAttempt lib world plan (.error (if late then .connectTimeout else .connectionFailure))
        { FailureDetails.default with trace := some h.trace }
  | .ok address => do
      Eff.ofExcept (websocketConfig plan.limits)
      if websocketStream lib world past h.target then pure (.ok address)
      else
        failAttempt lib world plan (.error .tlsFailure)
          { FailureDetails.default with resolved := some address, trace := some h.trace }

/-- Store the response of a failed handshake, if there is one. -/
def storeFailedHandshake (plan : WebSocketPlan) (h : Handshake)
    (response : Option HandshakeResponse) : Eff Event ExecError (Option Str) :=
  match response with
  | none => pure none
  | some response => do
      let handle ← storeHandshake lib world plan response h.redactions
      pure (some handle)

/-- The observation of a failed handshake. -/
def failHandshake (plan : WebSocketPlan) (h : Handshake) (address : SocketAddr)
    (failure : HandshakeFailure) : Eff Event ExecError (Staged WebSocketConnection) := do
  let handle ← storeFailedHandshake lib world plan h failure.response
  failAttempt lib world plan failure.terminal
    { status := failure.response.map HandshakeResponse.status
      subprotocol := failure.response.bind selectedSubprotocol
      resolved := some address
      handshake := handle
      trace := some h.trace
      httpVersion := failure.response.map (fun r => r.version.number)
      counters := failure.counters }

/-- The handshake over an open connection. -/
def openSession (plan : WebSocketPlan) (h : Handshake) (address : SocketAddr) :
    Eff Event ExecError (Staged WebSocketConnection) := do
  let outcome ← performUpgrade lib world plan.limits h.path (h.request plan)
    (h.target.scheme = "wss")
  match outcome with
  | .error failure => failHandshake lib world plan h address failure
  | .ok (response, parser, accounting) => do
      let handle ← storeHandshake lib world plan response h.redactions
      let past ← Eff.past
      pure (.ok
        { metadata :=
            { status := response.status
              negotiatedSubprotocol := selectedSubprotocol response
              latency := world.elapsed past
              resolvedOrigin := address
              httpVersion := response.version.number
              handshake := handle
              trace := h.trace }
          parser := parser
          accounting := accounting
          redactions := h.redactions })

/-- The function `connect_websocket`. -/
def connectWebsocket (plan : WebSocketPlan) (options : InvokeOptions) :
    Eff Event ExecError (Staged WebSocketConnection) := do
  let prepared ← prepareHandshake lib world plan options
  match prepared with
  | .error result => pure (.error result)
  | .ok handshake => do
      let address ← openConnection lib world plan handshake
      match address with
      | .error result => pure (.error result)
      | .ok address => openSession lib world plan handshake address

/-- The state a session starts in. -/
def WebSocketConnection.start (connection : WebSocketConnection) (script : SessionScript) :
    SessionState :=
  { script := script
    parser := connection.parser
    accounting := connection.accounting
    counters := WebSocketCounters.default
    transcript := []
    calls := [] }

/-- The function `execute_connected_websocket`. -/
def executeConnectedWebsocket (plan : WebSocketPlan) (connection : WebSocketConnection) :
    Eff Event ExecError WebSocketConnectResult := do
  let past ← Eff.past
  let (terminal, state) ← Eff.ofExcept
    (runActions lib plan.limits 0 plan.actions (connection.start (world.session past)))
  finishSession lib world plan connection state terminal

/-- The function `execute_websocket`. -/
def executeWebsocket (plan : WebSocketPlan) (options : InvokeOptions) :
    Eff Event ExecError WebSocketConnectResult := do
  let outcome ← connectWebsocket lib world plan options
  match outcome with
  | .error result => pure result
  | .ok connection => executeConnectedWebsocket lib world plan connection

end

section

variable {lib : Crates} {world : World} {plan : WebSocketPlan} {options : InvokeOptions}

/-! ### Before the connection -/

def WebSocketPlan.standing (lib : Crates) (plan : WebSocketPlan) : Standing :=
  ⟨plan.verifySeal lib, plan.configFingerprint, plan.policyFingerprint, plan.requiredGrants⟩

theorem websocketAdmitted_ok (h : websocketAdmitted lib plan options = .ok (.ok ())) :
    (plan.standing lib).Cleared options ∧ plan.validate.toOption.isSome = true := by
  simp only [websocketAdmitted, except_bind_ok, ensure_ok, exists_const, Bool.and_eq_true] at h
  rcases h with ⟨⟨hseal, hvalid⟩, hconfig, hpolicy, h⟩
  split at h
  · cases h
  rename_i hgrants
  rw [missingGrant_eq_none] at hgrants
  refine ⟨⟨hseal, fun f hf => ?_, fun f hf => ?_, fun g hg hdependent => ?_⟩, hvalid⟩
  · rw [hf] at hconfig
    exact of_decide_eq_true hconfig
  · rw [hf] at hpolicy
    exact of_decide_eq_true hpolicy
  · refine hgrants g (List.mem_filter.mpr ⟨hg, ?_⟩)
    rw [hdependent]
    rfl

/-- A plan that is bound to its target requires the grant of its credential. -/
theorem secret_mem_requiredGrants {target : Url} {auth : PlannedAuth} {u : Unit}
    (h : validateTransportBinding plan target = .ok u) (hauth : plan.auth = some auth) :
    "secret:" ++ auth.profile ∈ plan.requiredGrants := by
  unfold validateTransportBinding at h
  split at h
  swap
  · cases h
  simp only [except_bind_ok, ensure_ok, exists_const, List.all_eq_true, List.contains_eq_mem,
    decide_eq_true_eq] at h
  refine h.2.1 _ ?_
  simp only [boundGrants, hauth]
  exact List.mem_append_right _ List.mem_cons_self

/-- What is known of a request that is ready for the handshake. -/
structure Handshake.Sound (lib : Crates) (plan : WebSocketPlan) (options : InvokeOptions)
    (h : Handshake) : Prop where
  cleared : (plan.standing lib).Cleared options
  valid : plan.validate.toOption.isSome = true
  granted : ∀ g ∈ plan.requiredGrants, g ∈ options.grants
  target : lib.parseUrl plan.target = .ok h.target
  bound : validateTransportBinding plan h.target = .ok ()
  admitted : ∃ host port, h.target.host = some host ∧ h.target.portOrKnownDefault = some port ∧
    Admitted options.grants h.target.scheme host port h.addresses
  request : ∃ key, websocketRequest lib plan options key = .ok (h.path, h.headers)
  redactions : h.redactions = sessionRedactions lib options
  trace : ∃ parts, h.trace = shortHandle lib "websocket-trace" parts

/-- What an execution does to the outside. The observation is not looked
    into. -/
inductive Executes (lib : Crates) (plan : WebSocketPlan) (options : InvokeOptions) : Event → Prop where
  | resolve (cleared : (plan.standing lib).Cleared options) (host : Str) (port : Nat) :
      Executes lib plan options (.resolve host port)
  | connect {h : Handshake} (sound : h.Sound lib plan options) :
      Executes lib plan options (.connect h.target.scheme (h.target.host.getD [])
        (h.target.portOrKnownDefault.getD 0) h.addresses)
  | send {h : Handshake} (sound : h.Sound lib plan options) :
      Executes lib plan options (.send (h.request plan))
  | trace {path : Str} {headers : HeaderMap} (key : Str)
      (request : websocketRequest lib plan options key = .ok (path, headers)) :
      Executes lib plan options (.store ⟨"websocket-trace", "application/json",
        .json (websocketTrace plan headers (sessionRedactions lib options)), true⟩)
  | handshake (response : HandshakeResponse) :
      Executes lib plan options (.store ⟨"websocket-handshake", "application/json",
        .json (handshakeRecord plan response (sessionRedactions lib options)), true⟩)
  | payload (direction : Str) (kind : TranscriptPayloadKind) (payload : List UInt8) :
      Executes lib plan options (.store
        (payloadRecord lib plan (sessionRedactions lib options) direction kind payload))
  | transcript {transcript : List TranscriptEntry} {entries : List Value}
      (recorded : ∀ entry ∈ transcript, Recorded entry)
      (shown : ∀ v ∈ entries, Shown lib transcript v) (terminal : SessionTerminal) :
      Executes lib plan options (.store ⟨"transcript", "application/json",
        .json (transcriptRecord entries terminal), true⟩)
  | observation (value : Value) :
      Executes lib plan options (.store ⟨"websocket-observation", "application/json",
        .json value, true⟩)

/-- An attempt that ends early ends without a close. -/
def EndsOpenless {α : Type} (r : Staged α) : Prop :=
  ∀ observation, r = .error (.observation observation) → observation.close = none

theorem endsOpenless_ok {α : Type} {a : α} : EndsOpenless (.ok a : Staged α) := by
  intro observation h
  cases h

theorem endsOpenless_denied {α : Type} {denial : DenialEnvelope} :
    EndsOpenless (.error (.denied denial) : Staged α) := by
  intro observation h
  cases h

theorem failAttempt_ensures {α : Type} {terminal : SessionTerminal} {details : FailureDetails}
    {Q : α → Prop} :
    Ensures (failAttempt (α := α) lib world plan terminal details)
      (fun r => EndsOpenless r ∧ ∀ a, r = .ok a → Q a) (Executes lib plan options) := by
  refine .bind (failedObservation_ensures ?_ (fun _ _ => .observation _)) (fun r hr => .pure ?_)
  · have hnone : ∀ entry ∈ ([] : List TranscriptEntry), Recorded entry :=
      fun _ h => absurd h List.not_mem_nil
    exact .transcript hnone (fun _ h => absurd h List.not_mem_nil) _
  · rcases hr with ⟨elapsed, transcript, rfl⟩
    refine ⟨?_, nofun⟩
    rintro _ ⟨⟩
    rfl

theorem prepareAddresses_ensures {target : Url} (hcleared : (plan.standing lib).Cleared options) :
    Ensures (prepareAddresses lib world plan options target)
      (fun r => EndsOpenless r ∧ ∀ addresses, r = .ok addresses →
        (∀ g ∈ plan.requiredGrants, g ∈ options.grants) ∧
        ∃ host port, target.host = some host ∧ target.portOrKnownDefault = some port ∧
          Admitted options.grants target.scheme host port addresses)
      (Executes lib plan options) := by
  unfold prepareAddresses
  -- The gate may fail, deny or pass.
  refine .bind (.attempt (evaluateWebsocketTarget_ensures (.resolve hcleared)))
    (fun gate hgate => ?_)
  split
  · exact failAttempt_ensures
  · exact .pure ⟨endsOpenless_denied, nofun⟩
  · rename_i addresses
    -- The grants of the plan are asked for after it.
    split
    · exact .pure ⟨endsOpenless_denied, nofun⟩
    · rename_i hgrants
      rw [missingGrant_eq_none] at hgrants
      refine .pure ⟨endsOpenless_ok, ?_⟩
      rintro _ ⟨⟩
      exact ⟨hgrants, hgate _ rfl addresses rfl⟩

theorem prepareRequest_ensures {target : Url} {addresses : List SocketAddr}
    (hcleared : (plan.standing lib).Cleared options) (hvalid : plan.validate.toOption.isSome = true)
    (hparse : lib.parseUrl plan.target = .ok target)
    (hbound : validateTransportBinding plan target = .ok ())
    (hgranted : ∀ g ∈ plan.requiredGrants, g ∈ options.grants)
    (hadmitted : ∃ host port, target.host = some host ∧ target.portOrKnownDefault = some port ∧
      Admitted options.grants target.scheme host port addresses) :
    Ensures (prepareRequest lib world plan options target addresses)
      (Handshake.Sound lib plan options) (Executes lib plan options) := by
  unfold prepareRequest
  -- The clock, the request, the trace that is stored and the identity, in this order.
  refine .bind .past (fun past _ => ?_)
  refine .bind (.ofExcept fun _ h => h) (fun request hrequest => ?_)
  rcases request with ⟨path, headers⟩
  refine .bind (.mapError (put_ensures world (.trace _ hrequest))) (fun trace htrace => ?_)
  refine .bind (Q := fun _ => True) ?_ (fun identity _ => .pure ?_)
  · unfold buildTlsConfig
    split
    · exact .bind .past (fun _ _ => .bind (.ofExcept fun _ _ => trivial)
        (fun _ _ => .ofExcept fun _ _ => trivial))
    · exact .pure trivial
  · exact
      { cleared := hcleared
        valid := hvalid
        granted := hgranted
        target := hparse
        bound := hbound
        admitted := hadmitted
        request := ⟨_, hrequest⟩
        redactions := rfl
        trace := ⟨_, htrace⟩ }

theorem prepareHandshake_ensures :
    Ensures (prepareHandshake lib world plan options)
      (fun r => EndsOpenless r ∧ ∀ h, r = .ok h → h.Sound lib plan options)
      (Executes lib plan options) := by
  unfold prepareHandshake
  refine .bind (.ofExcept fun _ h => h) (fun verdict hverdict => ?_)
  -- The stages before anything is connected, each of which may end the run.
  split
  · exact .pure ⟨endsOpenless_denied, nofun⟩
  rcases websocketAdmitted_ok hverdict with ⟨hcleared, hvalid⟩
  refine .bind .past (fun past _ => ?_)
  split
  · exact failAttempt_ensures
  refine .bind (.ofExcept fun _ h => except_mapError_ok.mp h) (fun target hparse => ?_)
  refine .bind (.ofExcept fun _ h => h) (fun _ hbound => ?_)
  refine .bind (prepareAddresses_ensures hcleared) (fun addresses haddresses => ?_)
  cases addresses with
  | error result =>
      refine .pure ⟨?_, nofun⟩
      rintro observation ⟨⟩
      exact haddresses.1 observation rfl
  | ok addresses =>
      rcases haddresses.2 addresses rfl with ⟨hgranted, hadmitted⟩
      refine .bind (prepareRequest_ensures hcleared hvalid hparse hbound hgranted hadmitted)
        (fun handshake hsound => .pure ⟨endsOpenless_ok, ?_⟩)
      rintro _ ⟨⟩
      exact hsound

/-! ### The connection and the session -/

theorem openConnection_ensures {h : Handshake} (hsound : h.Sound lib plan options) :
    Ensures (openConnection lib world plan h) (fun r => EndsOpenless r)
      (Executes lib plan options) := by
  have hfail : ∀ terminal details, Ensures (failAttempt (α := SocketAddr) lib world plan terminal
      details) (fun r => EndsOpenless r) (Executes lib plan options) :=
    fun terminal details => (failAttempt_ensures (Q := fun _ => True)).mono (fun _ hr => hr.1)
      (fun _ h => h)
  unfold openConnection
  refine .bind (.emit (.connect hsound)) (fun _ _ => .bind .past (fun past _ => ?_))
  split
  · exact hfail _ _
  · refine .bind (.ofExcept fun _ _ => trivial) (fun _ _ => ?_)
    split
    · exact .pure endsOpenless_ok
    · exact hfail _ _

theorem performUpgrade_ensures {h : Handshake} (hsound : h.Sound lib plan options) {tls : Bool} :
    Ensures (performUpgrade lib world plan.limits h.path (h.request plan) tls) (fun _ => True)
      (Executes lib plan options) := by
  unfold performUpgrade
  split
  · exact .pure trivial
  · split
    · exact .pure trivial
    · refine .bind (.emit (.send hsound)) (fun _ _ => .bind .past (fun past _ => ?_))
      split <;> exact .pure trivial

theorem storeHandshake_ensures {response : HandshakeResponse} {redactions : List (List UInt8)}
    (h : redactions = sessionRedactions lib options) :
    Ensures (storeHandshake lib world plan response redactions) (fun _ => True)
      (Executes lib plan options) := by
  rw [h]
  exact (Ensures.mapError (put_ensures world (.handshake response))).mono (fun _ _ => trivial)
    (fun _ h => h)

/-- What is known of a session that has been opened. -/
def OpenedWith (lib : Crates) (options : InvokeOptions) (r : Staged WebSocketConnection) : Prop :=
  EndsOpenless r ∧ ∀ connection, r = .ok connection →
    connection.redactions = sessionRedactions lib options

theorem failHandshake_ensures {h : Handshake} (hsound : h.Sound lib plan options)
    {address : SocketAddr} {failure : HandshakeFailure} :
    Ensures (failHandshake lib world plan h address failure) (OpenedWith lib options)
      (Executes lib plan options) := by
  unfold failHandshake
  refine .bind (Q := fun _ => True) ?_ (fun handle _ => failAttempt_ensures)
  unfold storeFailedHandshake
  split
  · exact .pure trivial
  · exact .bind (storeHandshake_ensures hsound.redactions) (fun _ _ => .pure trivial)

theorem openSession_ensures {h : Handshake} (hsound : h.Sound lib plan options)
    {address : SocketAddr} :
    Ensures (openSession lib world plan h address) (OpenedWith lib options)
      (Executes lib plan options) := by
  unfold openSession
  refine .bind (performUpgrade_ensures hsound) (fun outcome _ => ?_)
  split
  · exact failHandshake_ensures hsound
  · refine .bind (storeHandshake_ensures hsound.redactions) (fun handle _ =>
      .bind .past (fun past _ => .pure ⟨endsOpenless_ok, ?_⟩))
    rintro _ ⟨⟩
    exact hsound.redactions

theorem connectWebsocket_ensures :
    Ensures (connectWebsocket lib world plan options) (OpenedWith lib options)
      (Executes lib plan options) := by
  have hended : ∀ {α : Type} {result : WebSocketConnectResult},
      EndsOpenless (.error result : Staged α) →
        OpenedWith lib options (.error result) := by
    intro α result h
    refine ⟨?_, nofun⟩
    rintro observation ⟨⟩
    exact h observation rfl
  unfold connectWebsocket
  refine .bind prepareHandshake_ensures (fun prepared hprepared => ?_)
  cases prepared with
  | error result => exact .pure (hended hprepared.1)
  | ok h =>
      have hsound := hprepared.2 h rfl
      refine .bind (openConnection_ensures hsound) (fun address haddress => ?_)
      cases address with
      | error result => exact .pure (hended haddress)
      | ok address => exact openSession_ensures hsound

/-- What a session stores is redacted like its request. -/
theorem executeConnectedWebsocket_ensures {connection : WebSocketConnection}
    (hredactions : connection.redactions = sessionRedactions lib options) :
    Ensures (executeConnectedWebsocket lib world plan connection)
      (fun r => ∃ script terminal state, runActions lib plan.limits 0 plan.actions
        (connection.start script) = .ok (terminal, state) ∧
        ∃ duration transcript, r = .observation
          (sessionObservation lib plan connection state terminal duration transcript))
      (Executes lib plan options) := by
  unfold executeConnectedWebsocket
  refine .bind .past (fun past _ => ?_)
  refine .bind (.ofExcept fun _ h => h) (fun ended hended => ?_)
  rcases ended with ⟨terminal, state⟩
  have hrecorded := (runActions_recorded hended (fun entry h => absurd h List.not_mem_nil)).1
  refine (finishSession_ensures ?_ (fun entries hshown => .transcript hrecorded hshown _)
    (fun _ _ => .observation _)).mono (fun r hr => ⟨_, terminal, state, hended, hr⟩) (fun _ h => h)
  intro entry _ payload kind _ _
  rw [hredactions]
  exact .payload _ _ _

/-- An open session that is executed ends as its actions do. -/
theorem executeConnectedWebsocket_ok {connection : WebSocketConnection} {past : List Event}
    {observation : WebSocketObservation}
    (h : (executeConnectedWebsocket lib world plan connection past).1 =
      .ok (.observation observation)) :
    ∃ terminal state, runActions lib plan.limits 0 plan.actions
        (connection.start (world.session past)) = .ok (terminal, state) ∧
      ∃ duration transcript, observation =
        sessionObservation lib plan connection state terminal duration transcript := by
  unfold executeConnectedWebsocket at h
  rw [Eff.past_bind, Eff.ofExcept_bind] at h
  split at h
  · rename_i ended hrun
    rcases (finishSession_ensures (P := fun _ => True) (fun _ _ _ _ _ _ => trivial)
      (fun _ _ => trivial) (fun _ _ => trivial) past).1 _ h with ⟨duration, transcript, heq⟩
    cases heq
    exact ⟨ended.1, ended.2, hrun, duration, transcript, rfl⟩
  · cases h

/-- What an execution does to the outside, and the sessions it ends with. -/
theorem executeWebsocket_ensures :
    Ensures (executeWebsocket lib world plan options)
      (fun r => ∀ observation, r = .observation observation → observation.close = none ∨
        ∃ connection script terminal state,
          connection.redactions = sessionRedactions lib options ∧
          runActions lib plan.limits 0 plan.actions (connection.start script) =
            .ok (terminal, state) ∧
          ∃ duration transcript, observation =
            sessionObservation lib plan connection state terminal duration transcript)
      (Executes lib plan options) := by
  unfold executeWebsocket
  refine .bind connectWebsocket_ensures (fun outcome houtcome => ?_)
  -- The connection failed or was denied, or the session was run.
  cases outcome with
  | error result =>
      refine .pure (fun observation h => Or.inl (houtcome.1 observation ?_))
      rw [h]
  | ok connection =>
      have hredactions := houtcome.2 connection rfl
      refine (executeConnectedWebsocket_ensures hredactions).mono ?_ (fun _ h => h)
      rintro _ ⟨script, terminal, state, hrun, duration, transcript, rfl⟩ _ ⟨⟩
      exact Or.inr ⟨connection, script, terminal, state, hredactions, hrun, duration, transcript, rfl⟩

end

end Kahea
