import Kahea.Base.Stateful
import Kahea.Core.World
import Kahea.Exec.Checks
import Kahea.Exec.Wire

/-!
# WebSocket Sessions

The session half of the WebSocket executor: what the actions of a plan do with
an open socket.

The socket is the library's. Its reads and writes are answered by a script, and
every byte of it goes through the accounting of the wire. A read that brings
nothing more within the session is a read on which the total deadline passes,
so a script is a list and each loop of the source is a recursion over what is
left of it.

A session keeps the list of the calls it has made on the socket, with their
answers. That list is for the statements only; nothing reads it.

## Main definitions

* `SessionState`: The socket, the counters and the transcript.
* `receive`, `socketSend`, `socketReply`: The calls on the socket.
* `sendMessage`, `readLoop`: The two things an action does with it.
* `expectationStep`, `closeStep`: One message, while an action waits.
* `runActions`: The actions of a plan.
-/

namespace Kahea

/-! ### Records of a session -/

/-- How a payload is stored. -/
inductive TranscriptPayloadKind where
  | text
  | binary
  | control
  deriving DecidableEq, Repr

/-- One line of the transcript. -/
structure TranscriptEntry where
  direction : Str
  kind : Str
  bytes : Nat
  actionIndex : Option Nat
  check : Str
  code : Option Nat
  payloadKind : Option TranscriptPayloadKind
  payload : Option (List UInt8)
  deriving DecidableEq, Repr

/-- How a session ends. -/
structure SessionTerminal where
  outcome : Outcome
  cause : WebSocketTerminalCause
  exit : Nat
  close : Option WebSocketCloseObservation
  deriving DecidableEq, Repr

namespace SessionTerminal

/-- All actions are done. -/
def passed (close : Option WebSocketCloseObservation) : SessionTerminal :=
  ⟨.passed, .completed, 0, close⟩

/-- The server broke an expectation. -/
def failed (cause : WebSocketTerminalCause) : SessionTerminal := ⟨.failed, cause, 1, none⟩

/-- The session itself broke. -/
def error (cause : WebSocketTerminalCause) : SessionTerminal := ⟨.error, cause, 3, none⟩

/-- What a failure of the accounting is reported as. -/
def ofFailure (cause : WebSocketTerminalCause) : SessionTerminal :=
  if cause = .budgetExhausted then failed cause else error cause

end SessionTerminal

/-- A call on the socket with its answer; `reply` is the flush that sends an
    automatic answer. -/
inductive SocketCall where
  | send (message : Message) (failure : Option SocketError)
  | read (answer : Except SocketError Message)
  | reply (failure : Option SocketError)

/-- The state of a session. -/
structure SessionState where
  script : SessionScript
  parser : WireParser
  accounting : WireAccounting
  counters : WebSocketCounters
  transcript : List TranscriptEntry
  calls : List SocketCall

/-- A part of a session, which may end it. -/
abbrev SessionM := EStateM SessionTerminal SessionState

namespace SessionState

/-- One more call on the socket. -/
def called (s : SessionState) (call : SocketCall) : SessionState :=
  { s with calls := s.calls ++ [call] }

/-- One more entry of the transcript. -/
def recorded (s : SessionState) (entry : TranscriptEntry) : SessionState :=
  { s with transcript := s.transcript ++ [entry] }

/-- The counters of the wire are taken over. -/
def synced (s : SessionState) : SessionState :=
  { s with counters :=
    { s.counters with
      inboundFrames := s.accounting.counters.inboundFrames
      outboundFrames := s.accounting.counters.outboundFrames
      inboundBytes := s.accounting.counters.inboundBytes
      outboundBytes := s.accounting.counters.outboundBytes } }

end SessionState

/-! ### Sizes -/

/-- The function `close_payload_bytes`. -/
def closePayloadBytes (frame : Option (Nat × Str)) : Nat :=
  match frame with
  | none => 0
  | some frame => (utf8 frame.2).length + 2

/-- The payload bytes of a message. -/
def Message.bytes : Message → Nat
  | .text t => (utf8 t).length
  | .binary data | .ping data | .pong data | .frame data => data.length
  | .close f => closePayloadBytes f

/-- Whether a message carries data. -/
def Message.isData : Message → Bool
  | .text _ | .binary _ => true
  | _ => false

/-- The size of a masked frame with this payload. -/
def frameSize (payload : Nat) : Nat :=
  payload + (if payload < 126 then 6 else if payload < 65536 then 8 else 14)

/-- The write buffer the socket is configured with. -/
def maxWriteBufferSize (limits : WebSocketLimits) : Nat :=
  max (saturatingAdd limits.maxFrameBytes 32) 33

/-! ### Calls on the socket -/

section

variable (limits : WebSocketLimits)

/-- How the stream answers the next write or flush. -/
def SessionState.nextFailure (s : SessionState) : Option SocketError :=
  (s.script.sends.head?.join).map SocketError.stream

/-- One answer of the stream is used up. -/
def SessionState.answered (s : SessionState) : SessionState :=
  { s with script := { s.script with sends := s.script.sends.tail } }

/-- A frame leaves the socket: it must fit the write buffer, is charged to the
    accounting and is written to the stream. -/
def writeSocket (payload : Nat) (s : SessionState) : Option SocketError × SessionState :=
  if maxWriteBufferSize limits < frameSize payload then (some .capacity, s)
  else
    let accounting := s.accounting.writeFrame limits payload
    if accounting.failure.isSome then (some (.stream .other), { s with accounting := accounting })
    else (s.nextFailure, { s.answered with accounting := accounting })

/-- The call `socket.send`. -/
def socketSend (message : Message) : SessionM (Option SocketError) := fun s =>
  let r := writeSocket limits message.bytes s
  .ok r.1 (r.2.called (.send message r.1))

/-- The call `socket.flush` after a message the library answers by itself, with
    the payload of its answer. -/
def socketReply (payload : Nat) : SessionM (Option SocketError) := fun s =>
  let r := writeSocket limits payload s
  .ok r.1 (r.2.called (.reply r.1))

/-- The call `socket.flush` with nothing to send: once the closing frame is out
    the library answers no ping. -/
def socketFlush : SessionM (Option SocketError) := fun s =>
  .ok s.nextFailure (s.answered.called (.reply s.nextFailure))

/-- The bytes of a read go through the accounting. -/
def SessionState.observed (s : SessionState) (arrival : Arrival) (rest : List Arrival) :
    SessionState :=
  let wire := observe limits (s.parser, s.accounting) arrival.pieces.flatten
  { s with
    script := { s.script with arrivals := rest }
    parser := wire.1
    accounting := wire.2 }

/-- The call `socket.read` when this is what it meets. A failure of the
    accounting is a failure of the read. -/
def receive (arrival : Arrival) (rest : List Arrival) :
    SessionM (Except SocketError Message) := fun s =>
  let t := s.observed limits arrival rest
  let answer := if t.accounting.failure.isSome then .error (.stream .other) else arrival.result
  .ok answer (t.called (.read answer))

/-- The call `socket.read` when nothing more arrives before the total
    deadline. -/
def expire : SessionM SocketError := fun s =>
  let e := SocketError.stream (.timedOut .total)
  .ok e ((s.observed limits ⟨[], .error e⟩ []).called (.read (.error e)))

end

/-! ### Helpers of the executor -/

/-- The cause an expired deadline is reported as. -/
def Deadline.cause (phase : WebSocketTerminalCause) : Deadline → WebSocketTerminalCause
  | total => .totalTimeout
  | idle => .idleTimeout
  | .phase => phase

/-- `socket_error`: a failure of the wire goes first. -/
def socketError (phase : WebSocketTerminalCause) (s : SessionState) (e : SocketError) :
    SessionTerminal :=
  match s.accounting.failure with
  | some cause => .ofFailure cause
  | none => match e with
    | .capacity => .failed .budgetExhausted
    | .stream (.interrupted requested) => .error (if requested then .cancelled else .ioFailure)
    | .stream (.timedOut deadline) => .error (deadline.cause phase)
    | .stream .endOfFile | .stream .connectionClosed | .stream .alreadyClosed =>
        .error .unexpectedEof
    | .stream .protocol => .error .protocolViolation
    | .stream .other => .error .ioFailure

/-- Fail when a call on the socket has failed. -/
def checkSocket (phase : WebSocketTerminalCause) (failure : Option SocketError) : SessionM Unit := do
  let s ← get
  match failure with
  | some e => throw (socketError phase s e)
  | none => pure ()

/-- The counters of the wire, copied into those of the session. -/
def syncWireCounters : SessionM Unit := do
  modify SessionState.synced
  let s ← get
  match s.accounting.failure with
  | some cause => throw (.ofFailure cause)
  | none => pure ()

/-- The method `push` of the transcript. -/
def push (entry : TranscriptEntry) : SessionM Unit :=
  modify (fun s => s.recorded entry)

/-- A further message would exceed a bound. -/
def exceedsOutbound (limits : WebSocketLimits) (counters : WebSocketCounters) (dataMessage : Bool)
    (bytes : Nat) : Bool :=
  limits.maxOutboundFrames ≤ counters.outboundFrames ||
    limits.maxOutboundBytes < saturatingAdd counters.outboundBytes bytes ||
    (dataMessage && limits.maxOutboundMessages ≤ counters.outboundMessages) ||
    limits.maxFrameBytes < bytes

/-- A data message read is counted. -/
def SessionState.countedInbound (s : SessionState) (message : Message) : SessionState :=
  if message.isData then
    { s with counters :=
      { s.counters with inboundMessages := saturatingAdd s.counters.inboundMessages 1 } }
  else s

/-- A data message sent is counted. -/
def SessionState.countedOutbound (s : SessionState) (message : Message) : SessionState :=
  if message.isData then
    { s with counters :=
      { s.counters with outboundMessages := s.counters.outboundMessages + 1 } }
  else s

/-- A message that arrived, against its bounds. -/
def accountInbound (limits : WebSocketLimits) (message : Message) : SessionM Unit := do
  modify (fun s => s.countedInbound message)
  let s ← get
  demand (!(limits.maxInboundMessages < s.counters.inboundMessages ||
    limits.maxMessageBytes < message.bytes)) (.failed .budgetExhausted)

def accountAutomaticControl (limits : WebSocketLimits) (bytes : Nat) : SessionM Unit := do
  let s ← get
  demand (!exceedsOutbound limits s.counters false bytes) (.failed .budgetExhausted)

/-- The cause of a timeout while a message is sent. -/
def sendPhase : Message → WebSocketTerminalCause
  | .close _ => .closeTimeout
  | _ => .actionTimeout

/-- Checked against the bounds before it is sent. -/
def sendMessage (limits : WebSocketLimits) (message : Message) : SessionM Unit := do
  let s ← get
  demand (!exceedsOutbound limits s.counters message.isData message.bytes) (.failed .budgetExhausted)
  let failure ← socketSend limits message
  checkSocket (sendPhase message) failure
  syncWireCounters
  modify (fun s => s.countedOutbound message)

/-- The entry of a message, read or sent, as the transcript shows it. -/
def Message.entry (direction : Str) (index : Nat) (check : Str) (m : Message) : TranscriptEntry :=
  let entry (kind : Str) (payloadKind : TranscriptPayloadKind) (payload : List UInt8)
      (code : Option Nat) : TranscriptEntry :=
    { direction := direction
      kind := kind
      bytes := m.bytes
      actionIndex := some index
      check := check
      code := code
      payloadKind := some payloadKind
      payload := some payload }
  match m with
  | .text t => entry "text" .text (utf8 t) none
  | .binary data => entry "binary" .binary data none
  | .ping data => entry "ping" .control data none
  | .pong data => entry "pong" .control data none
  | .close f => entry "close" .text (f.elim [] (fun f => utf8 f.2)) (f.map Prod.fst)
  | .frame data => entry "frame" .binary data none

def inbound : Str := "inbound"

def outbound : Str := "outbound"

/-- The function `send_recorded`. -/
def sendRecorded (limits : WebSocketLimits) (index : Nat) (message : Message) : SessionM Unit := do
  sendMessage limits message
  push (message.entry outbound index "sent")

/-! ### Waiting -/

/-- What a message means to a waiting action: it waits on, or it is done. -/
abbrev Verdict := Option (Option WebSocketCloseObservation)

/-- A loop over the reads of the socket. -/
def readLoop (limits : WebSocketLimits)
    (onError : SocketError → SessionM (Option WebSocketCloseObservation))
    (step : Message → SessionM Verdict) :
    List Arrival → SessionM (Option WebSocketCloseObservation)
  | [] => do
      let e ← expire limits
      onError e
  | arrival :: rest => do
      let answer ← receive limits arrival rest
      match answer with
      | .error e => onError e
      | .ok message => do
          syncWireCounters
          accountInbound limits message
          let verdict ← step message
          match verdict with
          | some close => pure close
          | none => readLoop limits onError step rest

section

variable (lib : Crates)

/-- The test `expectation_matches_text`. -/
def expectationMatchesText (action : WebSocketAction) (text : Str) : Bool :=
  match action with
  | .expectText equals _ => text = equals
  | .expectJson pointer equals schema _ =>
      match lib.parseJson (utf8 text) with
      | .error _ => false
      | .ok document =>
          match pointer.elim (some document) document.pointer with
          | none => false
          | some value =>
              !(equals.any (fun expected => expected ≠ value)) &&
                schema.all (fun schema =>
                  (validateSchemaValue lib schema 64 schema value "$" []).isEmpty)
  | _ => false

/-- Whether a binary message is the one expected. -/
def expectationMatchesBinary (action : WebSocketAction) (expected : Option (List UInt8))
    (data : List UInt8) : Bool :=
  match action with
  | .expectBinary _ _ => expected = some data
  | _ => false

/-- Whether a pong is the one expected. -/
def expectationMatchesPong (action : WebSocketAction) (expected : Option (List UInt8))
    (data : List UInt8) : Bool :=
  match action with
  | .expectPong _ _ => expected = some data
  | _ => false

/-- The close is one of those expected. -/
def closeMatches (frame : Option (Nat × Str)) (codes : List Nat) (reason : Option Str) : Bool :=
  codes.contains (frame.elim 1005 Prod.fst) &&
    reason.all (fun reason => frame.any (fun f => f.2 = reason))

/-- Whether a close is the one expected. -/
def expectationMatchesClose (action : WebSocketAction) (frame : Option (Nat × Str)) : Bool :=
  match action with
  | .expectClose codes reason _ => closeMatches frame codes reason
  | _ => false

def closeObservation (initiator : WebSocketCloseInitiator) (frame : Option (Nat × Str)) :
    WebSocketCloseObservation :=
  ⟨initiator, frame.elim 1005 Prod.fst, frame.elim [] Prod.snd⟩

/-- The acknowledgement of a close. Whether it goes out decides nothing but the
    transcript. -/
def acknowledge (limits : WebSocketLimits) (index : Nat) (message : Message) : SessionM Unit := do
  let failure ← socketReply limits message.bytes
  match failure with
  | some _ => pure ()
  | none => do
      syncWireCounters
      push (message.entry outbound index "automatic")

/-- The end of a session whose expectation is not met. -/
def expectationFailed : SessionTerminal := .failed .expectationFailed

/-- One pass of the loop of `read_expectation`. -/
def expectationStep (limits : WebSocketLimits) (action : WebSocketAction)
    (expected : Option (List UInt8)) (index : Nat) (message : Message) : SessionM Verdict :=
  match message with
  | .ping payload => do
      push (message.entry inbound index "automatic")
      accountAutomaticControl limits payload.length
      let failure ← socketReply limits payload.length
      checkSocket .actionTimeout failure
      syncWireCounters
      push ((Message.pong payload).entry outbound index "automatic")
      pure none
  | .pong payload => do
      let matched := expectationMatchesPong action expected payload
      push (message.entry inbound index (if matched then "matched" else "ignored"))
      pure (if matched then some none else none)
  | .text text => do
      let matched := expectationMatchesText lib action text
      push (message.entry inbound index (if matched then "matched" else "mismatched"))
      demand matched expectationFailed
      pure (some none)
  | .binary data => do
      let matched := expectationMatchesBinary action expected data
      push (message.entry inbound index (if matched then "matched" else "mismatched"))
      demand matched expectationFailed
      pure (some none)
  | .close frame => do
      let close := closeObservation .server frame
      let matched := expectationMatchesClose action frame
      push (message.entry inbound index (if matched then "matched" else "mismatched"))
      accountAutomaticControl limits (closePayloadBytes frame)
      acknowledge limits index message
      demand matched { expectationFailed with close := some close }
      pure (some (some close))
  | .frame _ => do
      push (message.entry inbound index "protocol-error")
      throw (.error .protocolViolation)

/-- The function `read_expectation`. -/
def readExpectation (limits : WebSocketLimits) (action : WebSocketAction)
    (expected : Option (List UInt8)) (index : Nat) : SessionM (Option WebSocketCloseObservation) := do
  let s ← get
  readLoop limits (fun e => do throw (socketError .actionTimeout (← get) e))
    (expectationStep lib limits action expected index) s.script.arrivals

/-- One pass of the loop of `execute_client_close`. -/
def closeStep (limits : WebSocketLimits) (index : Nat) (message : Message) : SessionM Verdict :=
  match message with
  | .ping payload => do
      push (message.entry inbound index "automatic")
      accountAutomaticControl limits payload.length
      let failure ← socketFlush
      checkSocket .closeTimeout failure
      syncWireCounters
      push ((Message.pong payload).entry outbound index "automatic")
      pure none
  | .close _ => do
      push (message.entry inbound index "acknowledged")
      pure (some none)
  | .pong _ => do
      push (message.entry inbound index "ignored")
      pure none
  | .text _ | .binary _ => do
      push (message.entry inbound index "unexpected")
      throw expectationFailed
  | .frame _ => do
      push (message.entry inbound index "protocol-error")
      throw expectationFailed

/-- The function `execute_client_close`. The peer may also have closed the
    connection already. -/
def executeClientClose (limits : WebSocketLimits) (code : Nat) (reason : Str) (index : Nat) :
    SessionM (Option WebSocketCloseObservation) := do
  sendRecorded limits index (.close (some (code, reason)))
  let s ← get
  let _ ← readLoop limits
    (fun e => do
      match e with
      | .stream .connectionClosed => pure none
      | e => throw (socketError .closeTimeout (← get) e))
    (closeStep limits index) s.script.arrivals
  pure (some ⟨.client, code, reason⟩)

/-! ### The actions of a plan -/

/-- The function `decode_sealed_base64`. -/
def decodeSealedBase64 (value : Str) : Except ExecError (List UInt8) :=
  match base64Decode value with
  | some payload => .ok payload
  | none => .error .invalidSeal

/-- Send a message and go on with the next action. -/
def sendAction (limits : WebSocketLimits) (index : Nat) (message : Message) :
    SessionM (Option WebSocketCloseObservation) := do
  sendRecorded limits index message
  pure none

/-- What an action does with the session; its payload must decode. -/
def actionProgram (limits : WebSocketLimits) (index : Nat) (action : WebSocketAction) :
    Except ExecError (SessionM (Option WebSocketCloseObservation)) :=
  match action with
  | .sendText text => .ok (sendAction limits index (.text text))
  | .sendBinary payload => do
      let data ← decodeSealedBase64 payload
      pure (sendAction limits index (.binary data))
  | .ping payload => do
      let data ← decodeSealedBase64 payload
      pure (sendAction limits index (.ping data))
  | .close code reason => .ok (executeClientClose limits code reason index)
  | .expectBinary payload _ | .expectPong payload _ => do
      let data ← decodeSealedBase64 payload
      pure (readExpectation lib limits action (some data) index)
  | .expectText _ _ | .expectJson _ _ _ _ | .expectClose _ _ _ =>
      .ok (readExpectation lib limits action none index)

/-- The loop over the actions, from an index on. -/
def runActions (limits : WebSocketLimits) :
    Nat → List WebSocketAction → SessionState → Except ExecError (SessionTerminal × SessionState)
  | _, [], s => .ok (.passed none, s)
  | index, action :: rest, s => do
      let program ← actionProgram lib limits index action
      match program s with
      | .ok (some close) t => .ok (.passed (some close), t)
      | .ok none t => runActions limits (index + 1) rest t
      | .error terminal t => .ok (terminal, t)

end

/-! ### What a call does to the session -/

section

variable {limits : WebSocketLimits} {s t : SessionState} {u : Unit}

/-- A reading that returns. -/
theorem receive_ok {arrival : Arrival} {rest : List Arrival} {answer : Except SocketError Message} :
    receive limits arrival rest s = .ok answer t ↔
      answer = (if (s.observed limits arrival rest).accounting.failure.isSome then
        .error (.stream .other) else arrival.result) ∧
      t = (s.observed limits arrival rest).called (.read answer) := by
  unfold receive
  dsimp only
  rw [EStateM.Result.ok.injEq]
  constructor
  · rintro ⟨rfl, rfl⟩
    exact ⟨rfl, rfl⟩
  · rintro ⟨rfl, rfl⟩
    exact ⟨rfl, rfl⟩

/-- A message that is read has been observed without failure. -/
theorem receive_message {arrival : Arrival} {rest : List Arrival} {message : Message} :
    receive limits arrival rest s = .ok (.ok message) t ↔
      (s.observed limits arrival rest).accounting.failure = none ∧ arrival.result = .ok message ∧
        t = (s.observed limits arrival rest).called (.read (.ok message)) := by
  rw [receive_ok, ← and_assoc]
  refine and_congr_left fun _ => ?_
  cases (s.observed limits arrival rest).accounting.failure with
  | none => simp only [Option.isSome_none, Bool.false_eq_true, if_false, true_and, eq_comm]
  | some cause => simp only [Option.isSome_some, if_true, reduceCtorEq, false_and]

theorem push_ok {entry : TranscriptEntry} : push entry s = .ok u t ↔ t = s.recorded entry := by
  constructor
  · intro h
    cases h
    rfl
  · rintro rfl
    rfl

theorem syncWireCounters_ok :
    syncWireCounters s = .ok u t ↔ s.accounting.failure = none ∧ t = s.synced := by
  unfold syncWireCounters
  rw [state_modify_bind, state_get_bind]
  change (match s.accounting.failure with
    | some cause => throw (SessionTerminal.ofFailure cause)
    | none => pure () : SessionM Unit) s.synced = _ ↔ _
  cases s.accounting.failure with
  | some cause => simp only [state_throw_ok, reduceCtorEq, false_and]
  | none =>
      simp only [state_pure_ok, true_and]
      exact eq_comm

/-- A message within its bounds. -/
theorem accountInbound_ok {message : Message} :
    accountInbound limits message s = .ok u t ↔
      t = s.countedInbound message ∧
        (s.countedInbound message).counters.inboundMessages ≤ limits.maxInboundMessages ∧
        message.bytes ≤ limits.maxMessageBytes := by
  unfold accountInbound
  rw [state_modify_bind, state_get_bind, demand_ok]
  simp only [Bool.not_eq_true', Bool.or_eq_false_iff, decide_eq_false_iff_not, Nat.not_lt]
  rw [eq_comm (a := t), and_comm]

theorem accountAutomaticControl_ok {bytes : Nat} :
    accountAutomaticControl limits bytes s = .ok u t ↔
      exceedsOutbound limits s.counters false bytes = false ∧ t = s := by
  unfold accountAutomaticControl
  rw [state_get_bind, demand_ok, Bool.not_eq_true', eq_comm (a := t)]

theorem checkSocket_ok {phase : WebSocketTerminalCause} {failure : Option SocketError} :
    checkSocket phase failure s = .ok u t ↔ failure = none ∧ t = s := by
  unfold checkSocket
  rw [state_get_bind]
  cases failure with
  | some e => simp only [state_throw_ok, reduceCtorEq, false_and]
  | none =>
      simp only [state_pure_ok, true_and]
      exact eq_comm

theorem decodeSealedBase64_ok {payload : Str} {data : List UInt8}
    (h : decodeSealedBase64 payload = .ok data) : base64Decode payload = some data := by
  unfold decodeSealedBase64 at h
  split at h
  · rename_i hdecode
    rw [hdecode, Except.ok.inj h]
  · cases h

/-- A frame that is written is charged and uses up one answer of the stream. -/
theorem writeSocket_none {payload : Nat} (h : (writeSocket limits payload s).1 = none) :
    (s.accounting.writeFrame limits payload).failure = none ∧
      (writeSocket limits payload s).2 =
        { s.answered with accounting := s.accounting.writeFrame limits payload } := by
  unfold writeSocket at h ⊢
  split at h
  · cases h
  · rename_i hsize
    rw [if_neg hsize]
    dsimp only at h ⊢
    split at h
    · cases h
    · rename_i hfailure
      rw [if_neg hfailure]
      rw [Bool.not_eq_true, Option.isSome_eq_false_iff, Option.isNone_iff_eq_none] at hfailure
      exact ⟨hfailure, rfl⟩

/-- A message that is sent, taken apart. -/
theorem sendMessage_ok {message : Message} :
    sendMessage limits message s = .ok u t ↔
      exceedsOutbound limits s.counters message.isData message.bytes = false ∧
      (writeSocket limits message.bytes s).1 = none ∧
      (writeSocket limits message.bytes s).2.accounting.failure = none ∧
      t = (((writeSocket limits message.bytes s).2.called
        (.send message none)).synced).countedOutbound message := by
  unfold sendMessage
  simp only [state_get_bind, state_bind_ok, demand_ok, checkSocket_ok, syncWireCounters_ok,
    Bool.not_eq_true']
  constructor
  -- The budget, the write and the accounting have all passed.
  · rintro ⟨_, _, ⟨hexceeds, rfl⟩, failure, _, hsend, _, _, ⟨rfl, rfl⟩, _, _, ⟨hfailure, rfl⟩, hmodify⟩
    cases hmodify
    simp only [socketSend, EStateM.Result.ok.injEq] at hsend
    rcases hsend with ⟨hnone, rfl⟩
    refine ⟨hexceeds, hnone, hfailure, ?_⟩
    rw [hnone]
  · rintro ⟨hexceeds, hnone, hfailure, rfl⟩
    refine ⟨(), s, ⟨hexceeds, rfl⟩, none, (writeSocket limits message.bytes s).2.called
      (.send message none), ?_, (), _, ⟨rfl, rfl⟩, (), _, ⟨hfailure, rfl⟩, rfl⟩
    simp only [socketSend, hnone]

end

/-! ### The calls so far -/

section

variable {limits : WebSocketLimits} (s : SessionState)

@[simp] theorem calls_called (call : SocketCall) : (s.called call).calls = s.calls ++ [call] := rfl

@[simp] theorem calls_recorded (entry : TranscriptEntry) : (s.recorded entry).calls = s.calls := rfl

@[simp] theorem calls_synced : s.synced.calls = s.calls := rfl

@[simp] theorem calls_answered : s.answered.calls = s.calls := rfl

@[simp] theorem calls_observed (arrival : Arrival) (rest : List Arrival) :
    (s.observed limits arrival rest).calls = s.calls := rfl

@[simp] theorem calls_countedInbound (message : Message) :
    (s.countedInbound message).calls = s.calls := by
  unfold SessionState.countedInbound
  split <;> rfl

@[simp] theorem calls_countedOutbound (message : Message) :
    (s.countedOutbound message).calls = s.calls := by
  unfold SessionState.countedOutbound
  split <;> rfl

@[simp] theorem calls_writeSocket (payload : Nat) :
    (writeSocket limits payload s).2.calls = s.calls := by
  unfold writeSocket
  dsimp only
  split
  · rfl
  · split <;> rfl

end

/-! ### The entries of a transcript -/

/-- What a transcript says of its entries. -/
def transcriptChecks : List Str :=
  ["sent", "automatic", "matched", "ignored", "mismatched", "acknowledged", "unexpected",
    "protocol-error"].map String.toList

/-- An entry is that of a message. -/
def Recorded (entry : TranscriptEntry) : Prop :=
  ∃ message direction index check, (direction = inbound ∨ direction = outbound) ∧
    check ∈ transcriptChecks ∧ entry = Message.entry direction index check message

/-- An end that is no pass, with the exit of its outcome. -/
def Failing (terminal : SessionTerminal) : Prop :=
  (terminal.outcome = .failed ∧ terminal.exit = 1) ∨ (terminal.outcome = .error ∧ terminal.exit = 3)

theorem failing_failed {cause : WebSocketTerminalCause} : Failing (.failed cause) :=
  Or.inl ⟨rfl, rfl⟩

theorem failing_error {cause : WebSocketTerminalCause} : Failing (.error cause) :=
  Or.inr ⟨rfl, rfl⟩

/-- No failing end passes. -/
theorem Failing.not_passed {terminal : SessionTerminal} (h : Failing terminal) :
    terminal.outcome ≠ .passed ∧ terminal.exit ≠ 0 := by
  rcases h with ⟨houtcome, hexit⟩ | ⟨houtcome, hexit⟩
  · rw [houtcome, hexit]
    exact ⟨nofun, nofun⟩
  · rw [houtcome, hexit]
    exact ⟨nofun, nofun⟩

theorem failing_ofFailure {cause : WebSocketTerminalCause} : Failing (.ofFailure cause) := by
  unfold SessionTerminal.ofFailure
  split
  · exact failing_failed
  · exact failing_error

theorem failing_socketError {phase : WebSocketTerminalCause} {s : SessionState} {e : SocketError} :
    Failing (socketError phase s e) := by
  unfold socketError
  split
  · exact failing_ofFailure
  · split
    · exact failing_failed
    all_goals exact failing_error

/-- Every entry so far is that of a message. -/
def AllRecorded (s : SessionState) : Prop := ∀ entry ∈ s.transcript, Recorded entry

section

variable {lib : Crates} {limits : WebSocketLimits}

theorem keeps_push {direction check : Str} {index : Nat} {message : Message}
    (hdirection : direction = inbound ∨ direction = outbound) (hcheck : check ∈ transcriptChecks) :
    Keeps AllRecorded Failing (push (message.entry direction index check)) := by
  refine .modify (fun s hs entry hentry => ?_)
  rcases List.mem_append.mp hentry with hentry | hentry
  · exact hs entry hentry
  · rw [List.mem_singleton.mp hentry]
    exact ⟨message, direction, index, check, hdirection, hcheck, rfl⟩

theorem transcript_writeSocket (payload : Nat) (s : SessionState) :
    (writeSocket limits payload s).2.transcript = s.transcript := by
  unfold writeSocket
  dsimp only
  split
  · rfl
  · split <;> rfl

theorem keeps_socketSend {message : Message} : Keeps AllRecorded Failing (socketSend limits message) := by
  intro s hs entry hentry
  change entry ∈ (writeSocket limits message.bytes s).2.transcript at hentry
  rw [transcript_writeSocket] at hentry
  exact hs entry hentry

theorem keeps_socketReply {payload : Nat} : Keeps AllRecorded Failing (socketReply limits payload) := by
  intro s hs entry hentry
  change entry ∈ (writeSocket limits payload s).2.transcript at hentry
  rw [transcript_writeSocket] at hentry
  exact hs entry hentry

theorem keeps_checkSocket {phase : WebSocketTerminalCause} {failure : Option SocketError} :
    Keeps AllRecorded Failing (checkSocket phase failure) := by
  refine .bind .get (fun s => ?_)
  cases failure with
  | some e => exact .throw failing_socketError
  | none => exact .pure

theorem keeps_syncWireCounters : Keeps AllRecorded Failing syncWireCounters := by
  refine .bind (.modify (fun s hs => hs)) (fun _ => .bind .get (fun s => ?_))
  cases s.accounting.failure with
  | some cause => exact .throw failing_ofFailure
  | none => exact .pure

theorem keeps_accountInbound {message : Message} :
    Keeps AllRecorded Failing (accountInbound limits message) := by
  refine .bind (.modify (fun s hs => ?_)) (fun _ => .bind .get (fun s => .demand failing_failed))
  unfold SessionState.countedInbound
  split <;> exact hs

theorem keeps_accountAutomaticControl {bytes : Nat} :
    Keeps AllRecorded Failing (accountAutomaticControl limits bytes) :=
  .bind .get (fun _ => .demand failing_failed)

/-- An own message. -/
theorem keeps_sendMessage {message : Message} : Keeps AllRecorded Failing (sendMessage limits message) := by
  refine .bind .get (fun s => .bind (.demand failing_failed) (fun _ => .bind keeps_socketSend (fun _ =>
    .bind keeps_checkSocket (fun _ => .bind keeps_syncWireCounters (fun _ => .modify ?_)))))
  intro t ht
  unfold SessionState.countedOutbound
  split <;> exact ht

theorem keeps_sendRecorded {index : Nat} {message : Message} :
    Keeps AllRecorded Failing (sendRecorded limits index message) :=
  .bind keeps_sendMessage (fun _ => keeps_push (Or.inr rfl) (by decide))

/-- The loop of readings, by its rounds. -/
theorem keeps_readLoop {onError : SocketError → SessionM (Option WebSocketCloseObservation)}
    {step : Message → SessionM Verdict} {arrivals : List Arrival}
    (herror : ∀ e, Keeps AllRecorded Failing (onError e)) (hstep : ∀ m, Keeps AllRecorded Failing (step m)) :
    Keeps AllRecorded Failing (readLoop limits onError step arrivals) := by
  have hreceive : ∀ arrival rest, Keeps AllRecorded Failing (receive limits arrival rest) :=
    fun arrival rest s hs => hs
  induction arrivals with
  | nil => exact .bind (fun s hs => hs) (fun _ => herror _)
  | cons arrival rest ih =>
      refine .bind (hreceive _ _) (fun answer => ?_)
      cases answer with
      | error e => exact herror e
      | ok message =>
          refine .bind keeps_syncWireCounters (fun _ => .bind keeps_accountInbound (fun _ =>
            .bind (hstep message) (fun verdict => ?_)))
          cases verdict with
          | some close => exact .pure
          | none => exact ih

theorem keeps_acknowledge {index : Nat} {message : Message} :
    Keeps AllRecorded Failing (acknowledge limits index message) := by
  refine .bind keeps_socketReply (fun failure => ?_)
  cases failure with
  | some e => exact .pure
  | none => exact .bind keeps_syncWireCounters (fun _ => keeps_push (Or.inr rfl) (by decide))

theorem keeps_expectationStep {action : WebSocketAction} {expected : Option (List UInt8)}
    {index : Nat} {message : Message} :
    Keeps AllRecorded Failing (expectationStep lib limits action expected index message) := by
  -- The word of an entry is one of those of a transcript.
  have hmatched : ∀ b : Bool, (if b then "matched".toList else "mismatched".toList) ∈
      transcriptChecks := by decide
  have hignored : ∀ b : Bool, (if b then "matched".toList else "ignored".toList) ∈
      transcriptChecks := by decide
  cases message with
  | ping payload =>
      exact .bind (keeps_push (Or.inl rfl) (by decide)) (fun _ =>
        .bind keeps_accountAutomaticControl (fun _ => .bind keeps_socketReply (fun _ =>
          .bind keeps_checkSocket (fun _ => .bind keeps_syncWireCounters (fun _ =>
            .bind (keeps_push (Or.inr rfl) (by decide)) (fun _ => .pure))))))
  | pong payload => exact .bind (keeps_push (Or.inl rfl) (hignored _)) (fun _ => .pure)
  | text _ | binary _ =>
      exact .bind (keeps_push (Or.inl rfl) (hmatched _)) (fun _ =>
        .bind (.demand failing_failed) (fun _ => .pure))
  | close frame =>
      exact .bind (keeps_push (Or.inl rfl) (hmatched _)) (fun _ =>
        .bind keeps_accountAutomaticControl (fun _ => .bind keeps_acknowledge (fun _ =>
          .bind (.demand (Or.inl ⟨rfl, rfl⟩)) (fun _ => .pure))))
  | frame payload =>
      exact .bind (keeps_push (Or.inl rfl) (by decide)) (fun _ => .throw failing_error)

theorem keeps_closeStep {index : Nat} {message : Message} :
    Keeps AllRecorded Failing (closeStep limits index message) := by
  cases message with
  | ping payload =>
      exact .bind (keeps_push (Or.inl rfl) (by decide)) (fun _ =>
        .bind keeps_accountAutomaticControl (fun _ => .bind (fun s hs => hs) (fun _ =>
          .bind keeps_checkSocket (fun _ => .bind keeps_syncWireCounters (fun _ =>
            .bind (keeps_push (Or.inr rfl) (by decide)) (fun _ => .pure))))))
  | pong payload => exact .bind (keeps_push (Or.inl rfl) (by decide)) (fun _ => .pure)
  | text _ | binary _ =>
      exact .bind (keeps_push (Or.inl rfl) (by decide)) (fun _ => .throw failing_failed)
  | close frame => exact .bind (keeps_push (Or.inl rfl) (by decide)) (fun _ => .pure)
  | frame payload => exact .bind (keeps_push (Or.inl rfl) (by decide)) (fun _ => .throw failing_failed)

theorem keeps_readExpectation {action : WebSocketAction} {expected : Option (List UInt8)}
    {index : Nat} : Keeps AllRecorded Failing (readExpectation lib limits action expected index) :=
  .bind .get (fun _ => keeps_readLoop (fun _ => .bind .get (fun _ => .throw failing_socketError))
    (fun _ => keeps_expectationStep))

theorem keeps_executeClientClose {code index : Nat} {reason : Str} :
    Keeps AllRecorded Failing (executeClientClose limits code reason index) := by
  refine .bind keeps_sendRecorded (fun _ => .bind .get (fun s => .bind (keeps_readLoop ?_
    (fun _ => keeps_closeStep)) (fun _ => .pure)))
  intro e
  split
  · exact .pure
  · exact .bind .get (fun _ => .throw failing_socketError)

/-- Every action. -/
theorem keeps_actionProgram {action : WebSocketAction} {index : Nat}
    {program : SessionM (Option WebSocketCloseObservation)}
    (h : actionProgram lib limits index action = .ok program) : Keeps AllRecorded Failing program := by
  have hsend : ∀ message, Keeps AllRecorded Failing (sendAction limits index message) :=
    fun message => .bind keeps_sendRecorded (fun _ => .pure)
  -- An action sends, expects or closes.
  cases action with
  | sendText text =>
      cases h
      exact hsend _
  | sendBinary payload | ping payload =>
      simp only [actionProgram, except_bind_ok, except_pure_ok] at h
      rcases h with ⟨data, _, rfl⟩
      exact hsend _
  | expectBinary payload timeout | expectPong payload timeout =>
      simp only [actionProgram, except_bind_ok, except_pure_ok] at h
      rcases h with ⟨data, _, rfl⟩
      exact keeps_readExpectation
  | close code reason =>
      cases h
      exact keeps_executeClientClose
  | expectText equals timeout | expectJson pointer equals schema timeout
  | expectClose codes reason timeout =>
      cases h
      exact keeps_readExpectation

/-- A run of a first action and the rest, taken apart: the action ends the
    session, goes on with the rest, or fails. -/
theorem runActions_cons {action : WebSocketAction} {rest : List WebSocketAction} {index : Nat}
    {s t : SessionState} {terminal : SessionTerminal} :
    runActions lib limits index (action :: rest) s = .ok (terminal, t) ↔
      ∃ program, actionProgram lib limits index action = .ok program ∧
        ((∃ close, program s = .ok (some close) t ∧ terminal = .passed (some close)) ∨
          (∃ u, program s = .ok none u ∧
            runActions lib limits (index + 1) rest u = .ok (terminal, t)) ∨
          program s = .error terminal t) := by
  simp only [runActions, except_bind_ok]
  refine exists_congr fun program => and_congr_right fun _ => ?_
  -- The action closed the session, passed, or failed.
  cases program s with
  | ok close u =>
      cases close with
      | some close =>
          simp only [Except.ok.injEq, Prod.mk.injEq, EStateM.Result.ok.injEq, Option.some.injEq,
            reduceCtorEq, false_and, exists_false, or_false]
          constructor
          · rintro ⟨rfl, rfl⟩
            exact ⟨close, ⟨rfl, rfl⟩, rfl⟩
          · rintro ⟨_, ⟨rfl, rfl⟩, rfl⟩
            exact ⟨rfl, rfl⟩
      | none =>
          simp only [EStateM.Result.ok.injEq, true_and, reduceCtorEq, false_and, exists_false,
            or_false, false_or, exists_eq_left']
  | error e u =>
      simp only [Except.ok.injEq, Prod.mk.injEq, reduceCtorEq, false_and, exists_false, false_or,
        EStateM.Result.error.injEq]

/-- Every entry of a session's transcript is that of a message, and a session
    that does not pass fails. -/
theorem runActions_recorded {actions : List WebSocketAction} {index : Nat} {s t : SessionState}
    {terminal : SessionTerminal} (h : runActions lib limits index actions s = .ok (terminal, t))
    (hs : AllRecorded s) :
    AllRecorded t ∧ ((∃ close, terminal = .passed close) ∨ Failing terminal) := by
  induction actions generalizing index s with
  | nil =>
      cases h
      exact ⟨hs, Or.inl ⟨none, rfl⟩⟩
  | cons action rest ih =>
      rcases runActions_cons.mp h with ⟨program, hprogram, hrun⟩
      have hkeeps := keeps_actionProgram hprogram
      rcases hrun with ⟨close, hclose, rfl⟩ | ⟨u, hu, hrest⟩ | herror
      · exact ⟨hkeeps.ok hclose hs, Or.inl ⟨_, rfl⟩⟩
      · exact ih hrest (hkeeps.ok hu hs)
      · rcases hkeeps.error herror hs with ⟨hrecorded, hfailing⟩
        exact ⟨hrecorded, Or.inr hfailing⟩

end

end Kahea
