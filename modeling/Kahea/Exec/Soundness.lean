import Kahea.Core.Reference
import Kahea.Exec.HostPolicy
import Kahea.Exec.Waiting
import Kahea.Exec.WebSocket

/-!
# Soundness of Sessions

What a session that passes has done, stated over its calls on the socket.

`Completes` says for each kind of action which calls make it succeed, in terms
of the messages read and sent alone: a data expectation ends in the first data
message, a pong expectation in a pong with no data before it, and the last
action in a close. A session passes only if its calls are those of its actions
one after the other, and a session that does not pass has an exit that is not
zero.

## Main definitions

* `Waited`: Calls of an action that waits on.
* `Completes`: The calls of an action that succeeds.

## Theorems

* `actionProgram_completes`: An action that succeeds completes.
* `passed_completes`: A session that passes completes every action in order.
-/

namespace Kahea

/-! ### What success means -/

/-- A call while an action waits: a ping or a pong is read, or an automatic
    answer has gone out. -/
def SocketCall.IsControl : SocketCall → Prop
  | .read (.ok (.ping _)) | .read (.ok (.pong _)) | .reply none => True
  | _ => False

/-- The calls of an action that waits on: no data, no close and no error. -/
def Waited (calls : List SocketCall) : Prop := ∀ call ∈ calls, call.IsControl

/-- A text is a JSON document whose value at the pointer is the expected one and
    fits the schema. -/
def JsonExpected (lib : Crates) (pointer : Option Str) (equals schema : Option Value) (text : Str) :
    Prop :=
  ∃ document value, lib.parseJson (utf8 text) = .ok document ∧
    pointer.elim (some document) document.pointer = some value ∧
    (∀ expected, equals = some expected → expected = value) ∧
    ∀ s, schema = some s → validateSchemaValue lib s 64 s value "$" [] = []

/-- A close with an allowed code, 1005 when it has none, and the expected
    reason. -/
def CloseAllowed (codes : List Nat) (reason : Option Str) (frame : Option (Nat × Str)) : Prop :=
  frame.elim 1005 Prod.fst ∈ codes ∧
    ∀ r, reason = some r → ∃ f, frame = some f ∧ f.2 = r

/-- The calls with which an action succeeds. -/
inductive Completes (lib : Crates) : WebSocketAction → List SocketCall → Prop where
  | sendText (text : Str) : Completes lib (.sendText text) [.send (.text text) none]
  | sendBinary {payload : Str} {data : List UInt8} (decodes : base64Decode payload = some data) :
      Completes lib (.sendBinary payload) [.send (.binary data) none]
  | ping {payload : Str} {data : List UInt8} (decodes : base64Decode payload = some data) :
      Completes lib (.ping payload) [.send (.ping data) none]
  | expectText {waiting : List SocketCall} (waited : Waited waiting) (equals : Str)
      (timeout : Option Nat) :
      Completes lib (.expectText equals timeout) (waiting ++ [.read (.ok (.text equals))])
  | expectBinary {waiting : List SocketCall} (waited : Waited waiting) {payload : Str}
      {data : List UInt8} (decodes : base64Decode payload = some data) (timeout : Option Nat) :
      Completes lib (.expectBinary payload timeout) (waiting ++ [.read (.ok (.binary data))])
  | expectJson {waiting : List SocketCall} (waited : Waited waiting) {pointer : Option Str}
      {equals schema : Option Value} {text : Str}
      (expected : JsonExpected lib pointer equals schema text) (timeout : Option Nat) :
      Completes lib (.expectJson pointer equals schema timeout)
        (waiting ++ [.read (.ok (.text text))])
  | expectPong {waiting : List SocketCall} (waited : Waited waiting) {payload : Str}
      {data : List UInt8} (decodes : base64Decode payload = some data) (timeout : Option Nat) :
      Completes lib (.expectPong payload timeout) (waiting ++ [.read (.ok (.pong data))])
  | expectClose {waiting : List SocketCall} (waited : Waited waiting) {codes : List Nat}
      {reason : Option Str} {frame : Option (Nat × Str)} (allowed : CloseAllowed codes reason frame)
      (timeout : Option Nat) (acknowledgement : Option SocketError) :
      Completes lib (.expectClose codes reason timeout)
        (waiting ++ [.read (.ok (.close frame)), .reply acknowledgement])
  | closeFrame {waiting : List SocketCall} (waited : Waited waiting) (code : Nat) (reason : Str)
      (frame : Option (Nat × Str)) :
      Completes lib (.close code reason)
        (.send (.close (some (code, reason))) none :: (waiting ++ [.read (.ok (.close frame))]))
  | closed {waiting : List SocketCall} (waited : Waited waiting) (code : Nat) (reason : Str) :
      Completes lib (.close code reason)
        (.send (.close (some (code, reason))) none ::
          (waiting ++ [.read (.error (.stream .connectionClosed))]))

section

variable {lib : Crates} {limits : WebSocketLimits} {s t : SessionState}

theorem waited_nil : Waited [] := fun _ h => absurd h List.not_mem_nil

/-- The calls while an action waits, one message longer. -/
theorem Waited.append {waiting calls : List SocketCall} (h : Waited waiting) (h' : Waited calls) :
    Waited (waiting ++ calls) := by
  intro call hcall
  rcases List.mem_append.mp hcall with hcall | hcall
  · exact h call hcall
  · exact h' call hcall

/-! ### Expectations -/

theorem jsonExpected_of_matches {pointer : Option Str} {equals schema : Option Value} {text : Str}
    (timeout : Option Nat)
    (h : expectationMatchesText lib (.expectJson pointer equals schema timeout) text = true) :
    JsonExpected lib pointer equals schema text := by
  simp only [expectationMatchesText] at h
  split at h
  · cases h
  rename_i document hdocument
  split at h
  · cases h
  rename_i value hvalue
  simp only [Bool.and_eq_true, Bool.not_eq_true'] at h
  refine ⟨document, value, hdocument, hvalue, ?_, ?_⟩
  · rintro expected rfl
    have hequal := h.1
    simp only [Option.any_some, decide_eq_false_iff_not, ne_eq, not_not] at hequal
    exact hequal
  · rintro schema rfl
    exact List.isEmpty_iff.mp h.2

theorem closeAllowed_of_matches {codes : List Nat} {reason : Option Str}
    {frame : Option (Nat × Str)} (h : closeMatches frame codes reason = true) :
    CloseAllowed codes reason frame := by
  simp only [closeMatches, Bool.and_eq_true, List.contains_eq_mem, decide_eq_true_eq] at h
  refine ⟨h.1, ?_⟩
  rintro r rfl
  have hreason := h.2
  simp only [Option.all_some, Option.any_eq_true] at hreason
  rcases hreason with ⟨f, hf, heq⟩
  exact ⟨f, hf, of_decide_eq_true heq⟩

/-- The payload an expectation compares with is the decoded one of its action. -/
def ExpectedPayload (action : WebSocketAction) (expected : Option (List UInt8)) : Prop :=
  match action with
  | .expectBinary payload _ | .expectPong payload _ => base64Decode payload = expected
  | _ => True

/-- A message an expectation matches completes it, unless it is a close. -/
theorem completes_of_matches {action : WebSocketAction} {expected : Option (List UInt8)}
    {message : Message} {waiting : List SocketCall} (hexpected : ExpectedPayload action expected)
    (hopen : ∀ frame, message ≠ .close frame)
    (h : expectationMatches lib action expected message = true) (hwaited : Waited waiting) :
    action.isTerminal = false ∧ Completes lib action (waiting ++ [.read (.ok message)]) := by
  -- A message matches the action of its own kind only.
  cases message with
  | ping data | frame data => cases h
  | close frame => exact absurd rfl (hopen frame)
  | text text =>
      cases action <;> try cases h
      case expectText equals timeout =>
        have htext : text = equals := of_decide_eq_true h
        rw [htext]
        exact ⟨rfl, .expectText hwaited equals timeout⟩
      case expectJson pointer equals schema timeout =>
        exact ⟨rfl, .expectJson hwaited (jsonExpected_of_matches timeout h) timeout⟩
  | binary data =>
      cases action <;> try cases h
      case expectBinary payload timeout =>
        have hdata : expected = some data := of_decide_eq_true h
        exact ⟨rfl, .expectBinary hwaited (hexpected.trans hdata) timeout⟩
  | pong data =>
      cases action <;> try cases h
      case expectPong payload timeout =>
        have hdata : expected = some data := of_decide_eq_true h
        exact ⟨rfl, .expectPong hwaited (hexpected.trans hdata) timeout⟩

theorem acknowledge_calls {index : Nat} {message : Message} {u : Unit}
    (h : acknowledge limits index message s = .ok u t) :
    ∃ failure, t.calls = s.calls ++ [.reply failure] := by
  simp only [acknowledge, state_bind_ok] at h
  rcases h with ⟨failure, v, hreply, h⟩
  have hv : v.calls = s.calls ++ [.reply failure] := by
    cases hreply
    rw [calls_called, calls_writeSocket]
  refine ⟨failure, ?_⟩
  cases failure with
  | some e =>
      cases h
      exact hv
  | none =>
      simp only [state_bind_ok, syncWireCounters_ok, push_ok] at h
      rcases h with ⟨_, _, ⟨_, rfl⟩, rfl⟩
      rw [calls_recorded, calls_synced, hv]

/-- An expectation that is met completes, and only an expected close ends the
    session. -/
theorem readExpectation_completes {action : WebSocketAction} {expected : Option (List UInt8)}
    {index : Nat} {close : Option WebSocketCloseObservation}
    (hexpected : ExpectedPayload action expected)
    (h : readExpectation lib limits action expected index s = .ok close t) :
    ∃ calls, t.calls = s.calls ++ calls ∧ Completes lib action calls ∧
      close.isSome = action.isTerminal := by
  unfold readExpectation at h
  rw [state_get_bind] at h
  -- The invariant of the loop: only waiting has been added to the calls.
  refine readLoop_ok (I := fun u => ∃ waiting, Waited waiting ∧ u.calls = s.calls ++ waiting)
    (Q := fun close t => ∃ calls, t.calls = s.calls ++ calls ∧ Completes lib action calls ∧
      close.isSome = action.isTerminal)
    ?_ ?_ ?_ h ⟨[], waited_nil, (List.append_nil _).symm⟩
  · rintro arrival rest message u v w ⟨waiting, hwaited, hcalls⟩ ⟨_, _, _, _, rfl⟩ hstep
    cases expectationStep_ok hstep with
    -- A ping is answered, which is still waiting.
    | @ping payload _ fits sent =>
        refine ⟨waiting ++ [.read (.ok (.ping payload)), .reply none], hwaited.append ?_, ?_⟩
        · intro call hcall
          simp only [List.mem_cons, List.not_mem_nil, or_false] at hcall
          rcases hcall with rfl | rfl <;> trivial
        · simp only [calls_recorded, calls_replied, calls_took, hcalls, List.append_assoc,
            List.cons_append, List.nil_append]
    | @ignored payload _ other =>
        refine ⟨waiting ++ [.read (.ok (.pong payload))], hwaited.append ?_, ?_⟩
        · intro call hcall
          rw [List.mem_singleton.mp hcall]
          trivial
        · rw [calls_recorded, calls_took, hcalls, List.append_assoc]
  · rintro arrival rest message close u v w ⟨waiting, hwaited, hcalls⟩ ⟨_, _, _, _, rfl⟩ hstep
    cases expectationStep_ok hstep with
    -- The message that matched, or the close that did, ends it.
    | matched goes matching =>
        rcases completes_of_matches hexpected goes matching hwaited with ⟨hterminal, hcompletes⟩
        refine ⟨_, ?_, hcompletes, by rw [hterminal]; rfl⟩
        rw [calls_recorded, calls_took, hcalls, List.append_assoc]
    | closed matching fits acknowledged =>
        rcases acknowledge_calls acknowledged with ⟨failure, hfailure⟩
        cases action <;> try cases matching
        case expectClose codes reason timeout =>
          refine ⟨_, ?_, .expectClose hwaited (closeAllowed_of_matches matching) timeout failure, rfl⟩
          rw [hfailure, calls_recorded, calls_took, hcalls, List.append_assoc, List.append_assoc]
          rfl
  -- An error of the socket never completes an expectation.
  · intro arrival rest e close u v _ hgone
    simp only [state_get_bind, state_throw_ok] at hgone

/-! ### Actions -/

theorem sendMessage_calls {message : Message} {u : Unit}
    (h : sendMessage limits message s = .ok u t) :
    t.calls = s.calls ++ [.send message none] := by
  rcases sendMessage_ok.mp h with ⟨_, _, _, rfl⟩
  rw [calls_countedOutbound, calls_synced, calls_called, calls_writeSocket]

theorem sendAction_calls {index : Nat} {message : Message}
    {close : Option WebSocketCloseObservation}
    (h : sendAction limits index message s = .ok close t) :
    close = none ∧ t.calls = s.calls ++ [.send message none] := by
  simp only [sendAction, sendRecorded, state_bind_ok, push_ok, state_pure_ok] at h
  rcases h with ⟨_, _, ⟨_, v, hsend, rfl⟩, rfl, rfl⟩
  exact ⟨rfl, (calls_recorded v _).trans (sendMessage_calls hsend)⟩

/-- A client close that succeeds completes. -/
theorem executeClientClose_completes {code index : Nat} {reason : Str}
    {close : Option WebSocketCloseObservation}
    (h : executeClientClose limits code reason index s = .ok close t) :
    ∃ calls, t.calls = s.calls ++ calls ∧ Completes lib (.close code reason) calls ∧
      close.isSome = true := by
  simp only [executeClientClose, sendRecorded, state_bind_ok, push_ok, state_get_bind,
    state_pure_ok] at h
  rcases h with ⟨_, _, ⟨_, v, hsend, rfl⟩, result, w, hloop, rfl, rfl⟩
  have hsent := sendMessage_calls hsend
  -- After the close is sent, the loop waits for the frame of the server or the end.
  suffices hwaits : ∃ waiting last, Waited waiting ∧
      (last = .error (.stream .connectionClosed) ∨ ∃ frame, last = .ok (.close frame)) ∧
      w.calls = v.calls ++ (waiting ++ [.read last]) by
    rcases hwaits with ⟨waiting, last, hwaited, hlast, hcalls⟩
    rw [hsent, List.append_assoc] at hcalls
    rcases hlast with rfl | ⟨frame, rfl⟩
    · exact ⟨_, hcalls, .closed hwaited code reason, rfl⟩
    · exact ⟨_, hcalls, .closeFrame hwaited code reason frame, rfl⟩
  -- The same invariant as for an expectation.
  refine readLoop_ok (I := fun u => ∃ waiting, Waited waiting ∧ u.calls = v.calls ++ waiting)
    (Q := fun _ t => ∃ waiting last, Waited waiting ∧
      (last = .error (.stream .connectionClosed) ∨ ∃ frame, last = .ok (.close frame)) ∧
      t.calls = v.calls ++ (waiting ++ [.read last]))
    ?_ ?_ ?_ hloop ⟨[], waited_nil, (List.append_nil _).symm⟩
  · rintro arrival rest message u v' w' ⟨waiting, hwaited, hcalls⟩ ⟨_, _, _, _, rfl⟩ hstep
    cases closeStep_ok hstep with
    | @ping payload _ fits flushed =>
        refine ⟨waiting ++ [.read (.ok (.ping payload)), .reply none], hwaited.append ?_, ?_⟩
        · intro call hcall
          simp only [List.mem_cons, List.not_mem_nil, or_false] at hcall
          rcases hcall with rfl | rfl <;> trivial
        · simp only [calls_recorded, calls_synced, calls_called, calls_answered, calls_took, hcalls,
            List.append_assoc, List.cons_append, List.nil_append]
    | @ignored payload _ =>
        refine ⟨waiting ++ [.read (.ok (.pong payload))], hwaited.append ?_, ?_⟩
        · intro call hcall
          rw [List.mem_singleton.mp hcall]
          trivial
        · rw [calls_recorded, calls_took, hcalls, List.append_assoc]
  · rintro arrival rest message close u v' w' ⟨waiting, hwaited, hcalls⟩ ⟨_, _, _, _, rfl⟩ hstep
    cases closeStep_ok hstep with
    | @closed frame _ =>
        refine ⟨waiting, .ok (.close frame), hwaited, Or.inr ⟨frame, rfl⟩, ?_⟩
        rw [calls_recorded, calls_took, hcalls, List.append_assoc]
  -- A connection closed by the server counts as the end, other errors do not.
  · rintro arrival rest e close u v' ⟨waiting, hwaited, hcalls⟩ hgone
    split at hgone
    · cases hgone
      refine ⟨waiting, _, hwaited, Or.inl rfl, ?_⟩
      rw [calls_called, calls_observed, hcalls, List.append_assoc]
    · simp only [state_get_bind, state_throw_ok] at hgone

/-- An action that succeeds completes, and it ends the session just when it is
    the kind that does. -/
theorem actionProgram_completes {action : WebSocketAction} {index : Nat}
    {program : SessionM (Option WebSocketCloseObservation)}
    {close : Option WebSocketCloseObservation}
    (hprogram : actionProgram lib limits index action = .ok program)
    (h : program s = .ok close t) :
    ∃ calls, t.calls = s.calls ++ calls ∧ Completes lib action calls ∧
      close.isSome = action.isTerminal := by
  -- Three kinds of action: those that send, those that expect, and the close.
  cases action with
  | sendText text =>
      cases hprogram
      rcases sendAction_calls h with ⟨rfl, hcalls⟩
      exact ⟨_, hcalls, .sendText text, rfl⟩
  | sendBinary payload =>
      simp only [actionProgram, except_bind_ok, except_pure_ok] at hprogram
      rcases hprogram with ⟨data, hdata, rfl⟩
      rcases sendAction_calls h with ⟨rfl, hcalls⟩
      exact ⟨_, hcalls, .sendBinary (decodeSealedBase64_ok hdata), rfl⟩
  | ping payload =>
      simp only [actionProgram, except_bind_ok, except_pure_ok] at hprogram
      rcases hprogram with ⟨data, hdata, rfl⟩
      rcases sendAction_calls h with ⟨rfl, hcalls⟩
      exact ⟨_, hcalls, .ping (decodeSealedBase64_ok hdata), rfl⟩
  | expectBinary payload timeout | expectPong payload timeout =>
      simp only [actionProgram, except_bind_ok, except_pure_ok] at hprogram
      rcases hprogram with ⟨data, hdata, rfl⟩
      exact readExpectation_completes (decodeSealedBase64_ok hdata) h
  | close code reason =>
      cases hprogram
      exact executeClientClose_completes h
  | expectText equals timeout | expectJson pointer equals schema timeout
  | expectClose codes reason timeout =>
      cases hprogram
      exact readExpectation_completes trivial h

/-- The calls of a run that passes are those of its actions in order. -/
theorem runActions_completes {first : List WebSocketAction} {last : WebSocketAction} {index : Nat}
    {terminal : SessionTerminal} (hfirst : ∀ action ∈ first, action.isTerminal = false)
    (hlast : last.isTerminal = true) (hs : AllRecorded s)
    (h : runActions lib limits index (first ++ [last]) s = .ok (terminal, t))
    (hpassed : terminal.outcome = .passed) :
    ∃ segments, t.calls = s.calls ++ segments.flatten ∧
      List.Forall₂ (Completes lib) (first ++ [last]) segments := by
  induction first generalizing index s with
  | nil =>
      rcases runActions_cons.mp h with ⟨program, hprogram, ⟨close, hu, rfl⟩ | ⟨u, hu, _⟩ | herror⟩
      · rcases actionProgram_completes hprogram hu with ⟨calls, hcalls, hcompletes, _⟩
        refine ⟨[calls], ?_, .cons hcompletes .nil⟩
        rw [hcalls, List.flatten_singleton]
      · -- The last action does not succeed without a close.
        rcases actionProgram_completes hprogram hu with ⟨_, _, _, hclose⟩
        rw [hlast] at hclose
        cases hclose
      · exact absurd hpassed ((keeps_actionProgram hprogram).error herror hs).2.not_passed.1
  | cons action rest ih =>
      have haction := hfirst action List.mem_cons_self
      rcases runActions_cons.mp h with ⟨program, hprogram, ⟨close, hu, rfl⟩ | ⟨u, hu, hrest⟩ | herror⟩
      · -- No action but the last one ends the session.
        rcases actionProgram_completes hprogram hu with ⟨_, _, _, hclose⟩
        rw [haction] at hclose
        cases hclose
      · rcases actionProgram_completes hprogram hu with ⟨calls, hcalls, hcompletes, _⟩
        rcases ih (fun a ha => hfirst a (List.mem_cons_of_mem _ ha))
          ((keeps_actionProgram hprogram).ok hu hs) hrest with ⟨segments, hsegments, hall⟩
        refine ⟨calls :: segments, ?_, .cons hcompletes hall⟩
        rw [hsegments, hcalls, List.flatten_cons, List.append_assoc]
      · exact absurd hpassed ((keeps_actionProgram hprogram).error herror hs).2.not_passed.1

/-- A session of a valid plan reports a pass only if its calls are those of the
    plan's actions one after the other, and a session that does not pass has an
    exit that is not zero. -/
theorem passed_completes {world : World} {plan : WebSocketPlan} {connection : WebSocketConnection}
    {past : List Event} {observation : WebSocketObservation} {u : Unit}
    (hvalid : plan.validate = .ok u)
    (h : (executeConnectedWebsocket lib world plan connection past).1 =
      .ok (.observation observation)) :
    ∃ terminal state, runActions lib plan.limits 0 plan.actions
        (connection.start (world.session past)) = .ok (terminal, state) ∧
      (observation.outcome = .passed → ∃ segments, state.calls = segments.flatten ∧
        List.Forall₂ (Completes lib) plan.actions segments) ∧
      (observation.outcome ≠ .passed → observation.exit ≠ 0) := by
  rcases executeConnectedWebsocket_ok h with ⟨terminal, state, hrun, duration, transcript, rfl⟩
  have hs : AllRecorded (connection.start (world.session past)) :=
    fun entry hentry => absurd hentry List.not_mem_nil
  rcases WebSocketPlan.validate_ok hvalid with ⟨totals, htotals, hcount, _⟩
  -- A valid plan ends with the one action that closes.
  rcases outboundTotals_terminal htotals hcount with ⟨first, last, hactions, hlast, hfirst⟩
  refine ⟨terminal, state, hrun, fun hpassed => ?_, fun hnot => ?_⟩
  · rw [hactions] at hrun ⊢
    exact runActions_completes hfirst hlast hs hrun hpassed
  -- A session that did not pass was ended by a failure.
  · rcases (runActions_recorded hrun hs).2 with ⟨close, rfl⟩ | hfailing
    · exact absurd rfl hnot
    · exact hfailing.not_passed.2

end

/-! ### A greeting and a close -/

/-- A plan with some limits and actions. -/
def sessionPlan (bounds : WebSocketLimits) (script : List WebSocketAction) : WebSocketPlan :=
  { protocol := PROTOCOL
    kind := "websocket-plan"
    version := VERSION
    configFingerprint := "b3:configuration"
    policyFingerprint := "b3:policy"
    sourceFingerprints := []
    id := "plan:session"
    operation := "op:session"
    target := "wss://feed.example.com/"
    risk := .read
    requiredGrants := ["net:feed.example.com:443".toList, "websocket:connect".toList]
    secretRefs := []
    headers := []
    auth := none
    origin := none
    subprotocols := []
    handshakeChecks := handshakeChecks []
    limits := bounds
    actions := script
    sensitiveHeaders := []
    redactResponseJsonPointers := []
    valid := true
    fingerprint := []
    exit := 0 }

/-- Limits with some frames and frame bytes. -/
def sessionLimits (frames frameBytes : Nat) : WebSocketLimits :=
  { connectTimeoutMs := 1000
    actionTimeoutMs := 1000
    idleTimeoutMs := 1000
    closeTimeoutMs := 1000
    totalTimeoutMs := 5000
    maxFrameBytes := frameBytes
    maxMessageBytes := 1024
    maxInboundFrames := frames
    maxOutboundFrames := frames
    maxInboundMessages := 8
    maxOutboundMessages := 8
    maxInboundBytes := 1024
    maxOutboundBytes := 1024 }

def sessionConnection : WebSocketConnection :=
  { metadata :=
      { status := 101
        negotiatedSubprotocol := none
        latency := 0
        resolvedOrigin := ⟨publicAddress, 443⟩
        httpVersion := "1.1"
        handshake := "websocket-handshake:000000000000"
        trace := "websocket-trace:000000000000" }
    parser := WireParser.new
    accounting := WireAccounting.default
    redactions := [] }

/-- An outside in which a session meets one script. -/
def World.meeting (world : World) (script : SessionScript) : World :=
  { world with session := fun _ => script }

/-- The outcome a session has reported. -/
def WebSocketConnectResult.outcome : WebSocketConnectResult → Option Outcome
  | .observation o => some o.outcome
  | .connected _ | .denied _ => none

theorem WebSocketConnectResult.outcome_some {result : WebSocketConnectResult} {outcome : Outcome}
    (h : result.outcome = some outcome) :
    ∃ observation, result = .observation observation ∧ observation.outcome = outcome := by
  cases result with
  | observation observation => exact ⟨observation, rfl, Option.some.inj h⟩
  | connected connection | denied denial => cases h

/-- A server that says hello and closes. -/
def greetingScript : SessionScript :=
  { arrivals := [⟨[[0x81, 0x02, 0x68, 0x69]], .ok (.text "hi")⟩,
      ⟨[[0x88, 0x02, 0x03, 0xe8]], .ok (.close (some (1000, [])))⟩]
    sends := [] }

def greetingActions : List WebSocketAction := [.expectText "hi" none, .expectClose [1000] none none]

/-- The greeting session passes, and its calls are those of its two actions. -/
theorem passed_completes_greeting :
    ∃ observation, (executeConnectedWebsocket referenceCrates (referenceWorld.meeting greetingScript)
        (sessionPlan (sessionLimits 8 125) greetingActions) sessionConnection []).1 =
          .ok (.observation observation) ∧
      observation.outcome = .passed ∧ ∃ terminal state,
        runActions referenceCrates (sessionLimits 8 125) 0 greetingActions
          (sessionConnection.start greetingScript) = .ok (terminal, state) ∧
        ∃ segments, state.calls = segments.flatten ∧
          List.Forall₂ (Completes referenceCrates) greetingActions segments := by
  have hrun : ((executeConnectedWebsocket referenceCrates (referenceWorld.meeting greetingScript)
      (sessionPlan (sessionLimits 8 125) greetingActions) sessionConnection []).1.toOption.map
        WebSocketConnectResult.outcome) = some (some .passed) := by
    decide +kernel
  rcases exists_ok_of_toOption hrun with ⟨result, hok, houtcome⟩
  rcases WebSocketConnectResult.outcome_some houtcome with ⟨observation, rfl, hpassed⟩
  rcases passed_completes (u := ()) (by decide +kernel) hok with ⟨terminal, state, hstate, hcompletes, _⟩
  exact ⟨observation, hok, hpassed, terminal, state, hstate, hcompletes hpassed⟩

end Kahea
