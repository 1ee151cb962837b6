import Kahea.Exec.Redaction
import Kahea.Exec.Session

/-!
# Evidence of a Session

What the WebSocket executor writes to the evidence store: the trace of the
request, the handshake, the payload of every transcript entry, the transcript
and the observation a session ends with.

## Main definitions

* `safeHeaders`: Headers as a record shows them.
* `storeTranscriptPayload`, `storeTranscript`: The transcript.
* `finishSession`, `failedObservation`: The observation of a session, and of
  one that never began.

## Theorems

* `storeTranscript_ensures`: The records of a transcript.
* `finishSession_ensures`, `failedObservation_ensures`: The records of an end.
-/

namespace Kahea

/-- The HTTP version as an observation of a session names it. -/
def HttpVersion.number : HttpVersion → Str
  | http09 => "0.9"
  | http10 => "1.0"
  | http11 => "1.1"
  | http2 => "2"
  | http3 => "3"

/-! ### Headers -/

/-- What a record of a session shows of a header's value. -/
def safeValue (configured : List Str) (redactions : List (List UInt8)) (request : Bool)
    (h : Header) : Str :=
  if (request && h.name = "sec-websocket-key") || (!request && h.name = "sec-websocket-accept") then
    "[GENERATED]"
  else if isSensitive configured h then marker
  else redactText ((headerText h.value).getD "[NON-UTF8]") redactions

/-- The function `safe_headers`: of several values of a name the last. -/
def safeHeaders (headers : HeaderMap) (configured : List Str) (redactions : List (List UInt8))
    (request : Bool) : Value :=
  .object (headers.foldl (fun shown h =>
    insert h.name (.string (safeValue configured redactions request h)) shown) [])

section

variable (lib : Crates) (world : World)

def websocketTrace (plan : WebSocketPlan) (headers : HeaderMap) (redactions : List (List UInt8)) :
    Value :=
  jsonSorted [("request", jsonSorted [("method", .string "GET"),
    ("target", .string (redactText plan.target redactions)),
    ("headers", safeHeaders headers plan.sensitiveHeaders redactions true)])]

def storeWebsocketTrace (plan : WebSocketPlan) (headers : HeaderMap)
    (redactions : List (List UInt8)) : Eff Event ExecError Str :=
  (putJson world lib "websocket-trace" (websocketTrace plan headers redactions) true).mapError
    ExecError.evidence

def handshakeRecord (plan : WebSocketPlan) (response : HandshakeResponse)
    (redactions : List (List UInt8)) : Value :=
  jsonSorted [("response", jsonSorted [("status", jsonNat response.status),
    ("http_version", .string response.version.number),
    ("headers", safeHeaders response.headers plan.sensitiveHeaders redactions false)])]

def storeHandshake (plan : WebSocketPlan) (response : HandshakeResponse)
    (redactions : List (List UInt8)) : Eff Event ExecError Str :=
  (putJson world lib "websocket-handshake" (handshakeRecord plan response redactions) true).mapError
    ExecError.evidence

/-! ### The transcript -/

/-- The payload of an entry as it is stored. -/
def transcriptPayload (plan : WebSocketPlan) (redactions : List (List UInt8)) (direction : Str)
    (kind : TranscriptPayloadKind) (payload : List UInt8) : List UInt8 :=
  redactBytes
    (if direction = inbound ∧ kind = .text then
      redactJsonPointers lib payload plan.redactResponseJsonPointers
    else payload) redactions

/-- The kind and the media type of a stored payload. -/
def payloadMedia (kind : TranscriptPayloadKind) (redacted : List UInt8) : Str × Str :=
  match kind with
  | .text => match lib.parseJson redacted with
    | .ok _ => ("websocket-json", "application/json")
    | .error _ => ("websocket-text", "text/plain; charset=utf-8")
  | .binary => ("websocket-binary", "application/octet-stream")
  | .control => ("websocket-control", "application/octet-stream")

/-- The record of a payload. -/
def payloadRecord (plan : WebSocketPlan) (redactions : List (List UInt8)) (direction : Str)
    (kind : TranscriptPayloadKind) (payload : List UInt8) : Record :=
  let redacted := transcriptPayload lib plan redactions direction kind payload
  let media := payloadMedia lib kind redacted
  ⟨media.1, media.2, .bytes redacted, true⟩

def storeTranscriptPayload (plan : WebSocketPlan) (redactions : List (List UInt8))
    (direction : Str) (kind : TranscriptPayloadKind) (payload : List UInt8) :
    Eff Event ExecError Str :=
  (put world lib (payloadRecord lib plan redactions direction kind payload)).mapError
    ExecError.evidence

/-- The JSON of an entry, with the handle of its payload. -/
def TranscriptEntry.toJson (entry : TranscriptEntry) (sequence : Nat) (payload : Option Str) :
    Value :=
  jsonSorted [("sequence", jsonNat sequence), ("direction", .string entry.direction),
    ("kind", .string entry.kind), ("bytes", jsonNat entry.bytes),
    ("action_index", optional jsonNat entry.actionIndex), ("check", .string entry.check),
    ("code", optional jsonNat entry.code), ("payload", optional .string payload)]

/-- Store the payload of an entry, if it has one, and return its handle. -/
def storeEntryPayload (plan : WebSocketPlan) (redactions : List (List UInt8))
    (entry : TranscriptEntry) : Eff Event ExecError (Option Str) :=
  match entry.payload, entry.payloadKind with
  | some payload, some kind => do
      let handle ← storeTranscriptPayload lib world plan redactions entry.direction kind payload
      pure (some handle)
  | _, _ => pure none

/-- One pass of the loop of `store_transcript`. -/
def storeEntry (plan : WebSocketPlan) (redactions : List (List UInt8)) (entries : List Value)
    (entry : TranscriptEntry) : Eff Event ExecError (List Value) := do
  let payload ← storeEntryPayload lib world plan redactions entry
  pure (entries ++ [entry.toJson entries.length payload])

def transcriptRecord (entries : List Value) (terminal : SessionTerminal) : Value :=
  jsonSorted [("version", jsonNat 1), ("entries", .array entries),
    ("terminal", jsonSorted [("outcome", .string terminal.outcome.text),
      ("cause", .string terminal.cause.text), ("exit", jsonNat terminal.exit)])]

def storeTranscript (plan : WebSocketPlan) (transcript : List TranscriptEntry)
    (redactions : List (List UInt8)) (terminal : SessionTerminal) : Eff Event ExecError Str := do
  let entries ← transcript.foldlM (storeEntry lib world plan redactions) []
  (putJson world lib "transcript" (transcriptRecord entries terminal) true).mapError
    ExecError.evidence

/-! ### The end of a session -/

/-- The text cut off at the last character that ends within the bound. -/
def boundedText (value : Str) (maxBytes : Nat) : Str :=
  match value with
  | [] => []
  | c :: rest =>
      let size := (String.utf8EncodeChar c).length
      if maxBytes < size then [] else c :: boundedText rest (maxBytes - size)

def sanitizeClose (redactions : List (List UInt8)) (close : WebSocketCloseObservation) :
    WebSocketCloseObservation :=
  { close with reason := boundedText (redactText close.reason redactions) 256 }

structure WebSocketHandshakeMetadata where
  status : Nat
  negotiatedSubprotocol : Option Str
  latency : Nat
  resolvedOrigin : SocketAddr
  httpVersion : Str
  handshake : Str
  trace : Str
  deriving DecidableEq, Repr

/-- An open session: what the executor keeps of the handshake, and the wire
    after the bytes that came with it. -/
structure WebSocketConnection where
  metadata : WebSocketHandshakeMetadata
  parser : WireParser
  accounting : WireAccounting
  redactions : List (List UInt8)

/-- An address with its port, as it is printed. -/
def SocketAddr.text (address : SocketAddr) : Str :=
  match address.ip with
  | .v4 a => a.text ++ ':' :: decimal address.port
  | .v6 a => '[' :: a.text ++ ']' :: ':' :: decimal address.port

/-- The observation of a session that has ended. -/
def sessionObservation (plan : WebSocketPlan) (connection : WebSocketConnection)
    (state : SessionState) (terminal : SessionTerminal) (duration : Nat) (transcript : Str) :
    WebSocketObservation :=
  { protocol := PROTOCOL
    kind := "websocket-observation"
    version := VERSION
    configFingerprint := plan.configFingerprint
    policyFingerprint := plan.policyFingerprint
    sourceFingerprints := plan.sourceFingerprints
    toolVersion := VERSION
    plan := plan.id
    outcome := terminal.outcome
    handshakeStatus := some connection.metadata.status
    negotiatedSubprotocol := connection.metadata.negotiatedSubprotocol
    handshakeLatencyMs := some (lib.milliseconds connection.metadata.latency)
    sessionDurationMs := some (lib.milliseconds duration)
    transcript := some transcript
    handshake := some connection.metadata.handshake
    trace := some connection.metadata.trace
    close := terminal.close.map (sanitizeClose connection.redactions)
    terminalCause := terminal.cause
    counters := state.synced.counters
    resolvedOrigin := some connection.metadata.resolvedOrigin.text
    httpVersion := some connection.metadata.httpVersion
    secretRefs := plan.secretRefs
    runtime := lib.runtime
    exit := terminal.exit }

inductive WebSocketConnectResult where
  | connected (connection : WebSocketConnection)
  | observation (observation : WebSocketObservation)
  | denied (denial : DenialEnvelope)

/-- Persist the observation a session ends with. -/
def persistSession (observation : WebSocketObservation) : Eff Event ExecError WebSocketConnectResult := do
  let _ ← (persistJsonObservation world lib "websocket-observation" observation.toJson).mapError
    ExecError.evidence
  pure (.observation observation)

def finishSession (plan : WebSocketPlan) (connection : WebSocketConnection) (state : SessionState)
    (terminal : SessionTerminal) : Eff Event ExecError WebSocketConnectResult := do
  let transcript ← storeTranscript lib world plan state.transcript connection.redactions terminal
  let past ← Eff.past
  persistSession lib world
    (sessionObservation lib plan connection state terminal (world.elapsed past) transcript)

/-- What is known of a session that has failed before its first action. -/
structure FailureDetails where
  status : Option Nat
  subprotocol : Option Str
  resolved : Option SocketAddr
  handshake : Option Str
  trace : Option Str
  httpVersion : Option Str
  counters : WebSocketCounters

def FailureDetails.default : FailureDetails :=
  ⟨none, none, none, none, none, none, WebSocketCounters.default⟩

def failureObservation (plan : WebSocketPlan) (terminal : SessionTerminal) (elapsed : Nat)
    (transcript : Str) (details : FailureDetails) : WebSocketObservation :=
  { protocol := PROTOCOL
    kind := "websocket-observation"
    version := VERSION
    configFingerprint := plan.configFingerprint
    policyFingerprint := plan.policyFingerprint
    sourceFingerprints := plan.sourceFingerprints
    toolVersion := VERSION
    plan := plan.id
    outcome := terminal.outcome
    handshakeStatus := details.status
    negotiatedSubprotocol := details.subprotocol
    handshakeLatencyMs := some (lib.milliseconds elapsed)
    sessionDurationMs := some (lib.milliseconds elapsed)
    transcript := some transcript
    handshake := details.handshake
    trace := details.trace
    close := none
    terminalCause := terminal.cause
    counters := details.counters
    resolvedOrigin := details.resolved.map SocketAddr.text
    httpVersion := details.httpVersion
    secretRefs := plan.secretRefs
    runtime := lib.runtime
    exit := terminal.exit }

def failedObservation (plan : WebSocketPlan) (terminal : SessionTerminal)
    (details : FailureDetails) : Eff Event ExecError WebSocketConnectResult := do
  let past ← Eff.past
  let transcript ← storeTranscript lib world plan [] [] terminal
  persistSession lib world
    (failureObservation lib plan terminal (world.elapsed past) transcript details)

end

/-! ### What is stored -/

section

variable {lib : Crates} {world : World} {plan : WebSocketPlan} {redactions : List (List UInt8)}
  {terminal : SessionTerminal} {P : Event → Prop}

/-- The kinds of the payload records. -/
def payloadKinds : List Str :=
  ["websocket-json", "websocket-text", "websocket-binary", "websocket-control"].map String.toList

theorem payloadRecord_kind (direction : Str) (kind : TranscriptPayloadKind) (payload : List UInt8) :
    (payloadRecord lib plan redactions direction kind payload).kind ∈ payloadKinds := by
  unfold payloadRecord payloadMedia
  cases kind with
  | text =>
      dsimp only
      split <;> decide
  | binary =>
      dsimp only
      decide
  | control =>
      dsimp only
      decide

/-- A JSON value is that of an entry of the transcript, its payload given by
    the handle of a record. -/
def Shown (lib : Crates) (transcript : List TranscriptEntry) (v : Value) : Prop :=
  ∃ entry ∈ transcript, ∃ sequence handle, v = entry.toJson sequence handle ∧
    ∀ h, handle = some h → ∃ kind ∈ payloadKinds, ∃ parts, h = shortHandle lib kind parts

theorem storeEntryPayload_ensures {entry : TranscriptEntry}
    (hpayload : ∀ payload kind, entry.payload = some payload → entry.payloadKind = some kind →
      P (.store (payloadRecord lib plan redactions entry.direction kind payload))) :
    Ensures (storeEntryPayload lib world plan redactions entry)
      (fun handle => ∀ h, handle = some h →
        ∃ kind ∈ payloadKinds, ∃ parts, h = shortHandle lib kind parts) P := by
  unfold storeEntryPayload
  split
  · rename_i payload kind hpay hkind
    refine .bind (.mapError (put_ensures world (hpayload payload kind hpay hkind)))
      (fun handle hhandle => .pure ?_)
    rintro _ ⟨⟩
    exact ⟨_, payloadRecord_kind _ _ _, _, hhandle⟩
  · exact .pure (fun _ h => by cases h)

/-- Storing a transcript stores its payloads and its entries. -/
theorem storeTranscript_ensures {transcript : List TranscriptEntry}
    (hpayload : ∀ entry ∈ transcript, ∀ payload kind, entry.payload = some payload →
      entry.payloadKind = some kind →
      P (.store (payloadRecord lib plan redactions entry.direction kind payload)))
    (htranscript : ∀ entries, (∀ v ∈ entries, Shown lib transcript v) →
      P (.store ⟨"transcript", "application/json", .json (transcriptRecord entries terminal), true⟩)) :
    Ensures (storeTranscript lib world plan transcript redactions terminal)
      (fun handle => ∃ parts, handle = shortHandle lib "transcript" parts) P := by
  unfold storeTranscript
  refine .bind (.foldlM (I := fun entries => ∀ v ∈ entries, Shown lib transcript v) transcript ?_
    (fun v hv => absurd hv List.not_mem_nil)) (fun entries hentries => ?_)
  · intro entries entry hentry hinv
    refine .bind (storeEntryPayload_ensures (hpayload entry hentry)) (fun handle hhandle => .pure ?_)
    intro v hv
    rcases List.mem_append.mp hv with hv | hv
    · exact hinv v hv
    · rw [List.mem_singleton.mp hv]
      exact ⟨entry, hentry, _, handle, rfl, hhandle⟩
  · exact (Ensures.mapError (put_ensures world (htranscript entries hentries))).mono
      (fun _ h => ⟨_, h⟩) (fun _ h => h)

theorem persistSession_ensures {observation : WebSocketObservation}
    (h : P (.store ⟨"websocket-observation", "application/json", .json observation.toJson, true⟩)) :
    Ensures (persistSession lib world observation) (fun r => r = .observation observation) P :=
  .bind (.mapError (persistJsonObservation_ensures world h)) (fun _ _ => .pure rfl)

theorem finishSession_ensures {connection : WebSocketConnection} {state : SessionState}
    (hpayload : ∀ entry ∈ state.transcript, ∀ payload kind, entry.payload = some payload →
      entry.payloadKind = some kind →
      P (.store (payloadRecord lib plan connection.redactions entry.direction kind payload)))
    (htranscript : ∀ entries, (∀ v ∈ entries, Shown lib state.transcript v) →
      P (.store ⟨"transcript", "application/json", .json (transcriptRecord entries terminal), true⟩))
    (hobservation : ∀ duration parts,
      P (.store ⟨"websocket-observation", "application/json", .json (sessionObservation lib plan
        connection state terminal duration (shortHandle lib "transcript" parts)).toJson, true⟩)) :
    Ensures (finishSession lib world plan connection state terminal)
      (fun r => ∃ duration transcript, r = .observation
        (sessionObservation lib plan connection state terminal duration transcript)) P := by
  unfold finishSession
  refine .bind (storeTranscript_ensures hpayload htranscript) (fun transcript htranscript' => ?_)
  rcases htranscript' with ⟨parts, rfl⟩
  refine .bind .past (fun past _ => ?_)
  exact (persistSession_ensures (hobservation _ parts)).mono (fun r hr => ⟨_, _, hr⟩) (fun _ h => h)

theorem failedObservation_ensures {details : FailureDetails}
    (htranscript : P (.store ⟨"transcript", "application/json",
      .json (transcriptRecord [] terminal), true⟩))
    (hobservation : ∀ elapsed parts,
      P (.store ⟨"websocket-observation", "application/json", .json (failureObservation lib plan
        terminal elapsed (shortHandle lib "transcript" parts) details).toJson, true⟩)) :
    Ensures (failedObservation lib world plan terminal details)
      (fun r => ∃ elapsed transcript, r = .observation
        (failureObservation lib plan terminal elapsed transcript details)) P := by
  unfold failedObservation
  refine .bind .past (fun past _ => ?_)
  refine .bind (storeTranscript_ensures (fun entry h => absurd h List.not_mem_nil) ?_)
    (fun transcript htranscript' => ?_)
  · intro entries hentries
    -- An empty transcript shows no entry.
    have hnil : entries = [] := by
      refine List.eq_nil_iff_forall_not_mem.mpr (fun v hv => ?_)
      rcases hentries v hv with ⟨entry, hentry, _⟩
      exact absurd hentry List.not_mem_nil
    rw [hnil]
    exact htranscript
  · rcases htranscript' with ⟨parts, rfl⟩
    exact (persistSession_ensures (hobservation _ parts)).mono (fun r hr => ⟨_, _, hr⟩) (fun _ h => h)

end

end Kahea
