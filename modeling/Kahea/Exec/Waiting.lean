import Kahea.Exec.Session

/-!
# Waiting Actions

What one message does to an action that waits for it, and the rule of the loop
that reads messages until the action is done.

A pass of the loop that succeeds is a `Reads`, what the read itself does, and
then a `Stepped` or a `CloseStepped`, what the action makes of the message. The
rule carries an invariant over the passes that wait on.

## Main definitions

* `expectationMatches`: A message is what an expectation waits for.
* `Reads`: A read that brings a message.
* `Stepped`, `CloseStepped`: A message handled without failure.

## Theorems

* `expectationStep_ok`, `closeStep_ok`: What a pass that succeeds has done.
* `readLoop_ok`: The rule of the loop.
-/

namespace Kahea

section

variable {lib : Crates} {limits : WebSocketLimits} {s t : SessionState} {u : Unit}

/-- A message is the one an expectation waits for. -/
def expectationMatches (lib : Crates) (action : WebSocketAction) (expected : Option (List UInt8)) :
    Message → Bool
  | .text text => expectationMatchesText lib action text
  | .binary data => expectationMatchesBinary action expected data
  | .pong data => expectationMatchesPong action expected data
  | .close frame => expectationMatchesClose action frame
  | .ping _ | .frame _ => false

/-- The state after an automatic answer that has gone out. -/
def SessionState.replied (limits : WebSocketLimits) (payload : Nat) (s : SessionState) :
    SessionState :=
  ((writeSocket limits payload s).2.called (.reply none)).synced

@[simp] theorem calls_replied (payload : Nat) :
    (s.replied limits payload).calls = s.calls ++ [.reply none] := by
  rw [SessionState.replied, calls_synced, calls_called, calls_writeSocket]

/-- A message an expectation handles without failure. -/
inductive Stepped (lib : Crates) (limits : WebSocketLimits) (action : WebSocketAction)
    (expected : Option (List UInt8)) (index : Nat) :
    Message → SessionState → Verdict → SessionState → Prop where
  | ping {payload : List UInt8} {s : SessionState}
      (fits : exceedsOutbound limits s.counters false payload.length = false)
      (sent : (writeSocket limits payload.length
        (s.recorded ((Message.ping payload).entry inbound index "automatic"))).1 = none) :
      Stepped lib limits action expected index (.ping payload) s none
        (((s.recorded ((Message.ping payload).entry inbound index "automatic")).replied limits
          payload.length).recorded ((Message.pong payload).entry outbound index "automatic"))
  | ignored {payload : List UInt8} {s : SessionState}
      (other : expectationMatchesPong action expected payload = false) :
      Stepped lib limits action expected index (.pong payload) s none
        (s.recorded ((Message.pong payload).entry inbound index "ignored"))
  | matched {message : Message} {s : SessionState} (goes : ∀ frame, message ≠ .close frame)
      (matching : expectationMatches lib action expected message = true) :
      Stepped lib limits action expected index message s (some none)
        (s.recorded (message.entry inbound index "matched"))
  | closed {frame : Option (Nat × Str)} {s t : SessionState}
      (matching : expectationMatchesClose action frame = true)
      (fits : exceedsOutbound limits s.counters false (closePayloadBytes frame) = false)
      (acknowledged : acknowledge limits index (.close frame)
        (s.recorded ((Message.close frame).entry inbound index "matched")) = .ok () t) :
      Stepped lib limits action expected index (.close frame) s
        (some (some (closeObservation .server frame))) t

/-- A reply that goes out and is counted. -/
theorem reply_ok {payload : Nat} {failure : Option SocketError} {v w : SessionState}
    {phase : WebSocketTerminalCause} (hreply : socketReply limits payload s = .ok failure v)
    (hcheck : checkSocket phase failure v = .ok u w) {w' : SessionState} {u' : Unit}
    (hsync : syncWireCounters w = .ok u' w') :
    (writeSocket limits payload s).1 = none ∧ w' = s.replied limits payload := by
  rcases checkSocket_ok.mp hcheck with ⟨rfl, rfl⟩
  rcases syncWireCounters_ok.mp hsync with ⟨_, rfl⟩
  simp only [socketReply, EStateM.Result.ok.injEq] at hreply
  rcases hreply with ⟨hnone, rfl⟩
  refine ⟨hnone, ?_⟩
  rw [SessionState.replied, hnone]

theorem expectationStep_ok {action : WebSocketAction} {expected : Option (List UInt8)}
    {index : Nat} {message : Message} {verdict : Verdict}
    (h : expectationStep lib limits action expected index message s = .ok verdict t) :
    Stepped lib limits action expected index message s verdict t := by
  -- By the message: a ping is answered, a pong that is not expected is left, and the others
  -- must match.
  cases message with
  | ping payload =>
      simp only [expectationStep, state_bind_ok, push_ok, accountAutomaticControl_ok,
        state_pure_ok] at h
      rcases h with ⟨_, _, rfl, _, _, ⟨hfits, rfl⟩, failure, v, hreply, _, w, hcheck, _, w', hsync,
        _, _, rfl, rfl, rfl⟩
      rcases reply_ok hreply hcheck hsync with ⟨hsent, rfl⟩
      exact .ping hfits hsent
  | pong payload =>
      simp only [expectationStep, state_bind_ok, push_ok, state_pure_ok] at h
      rcases h with ⟨_, _, rfl, rfl, rfl⟩
      cases hmatch : expectationMatchesPong action expected payload with
      | true =>
          refine .matched nofun ?_
          exact hmatch
      | false => exact .ignored hmatch
  | text _ | binary _ =>
      simp only [expectationStep, state_bind_ok, push_ok, demand_ok, state_pure_ok] at h
      rcases h with ⟨_, _, rfl, _, _, ⟨hmatch, rfl⟩, rfl, rfl⟩
      rw [hmatch]
      refine .matched nofun ?_
      exact hmatch
  -- A close is acknowledged whether it matches or not.
  | close frame =>
      simp only [expectationStep, state_bind_ok, push_ok, accountAutomaticControl_ok, demand_ok,
        state_pure_ok] at h
      rcases h with ⟨_, _, rfl, _, _, ⟨hfits, rfl⟩, _, _, hacknowledge, _, _, ⟨hmatch, rfl⟩, rfl, rfl⟩
      rw [hmatch] at hacknowledge
      exact .closed hmatch hfits hacknowledge
  | frame payload =>
      simp only [expectationStep, state_bind_ok, state_throw_ok, and_false, exists_false] at h

/-- A message a closing action handles without failure. -/
inductive CloseStepped (limits : WebSocketLimits) (index : Nat) :
    Message → SessionState → Verdict → SessionState → Prop where
  | ping {payload : List UInt8} {s : SessionState}
      (fits : exceedsOutbound limits s.counters false payload.length = false)
      (flushed : s.nextFailure = none) :
      CloseStepped limits index (.ping payload) s none
        ((((s.recorded ((Message.ping payload).entry inbound index "automatic")).answered.called
          (.reply none)).synced).recorded ((Message.pong payload).entry outbound index "automatic"))
  | ignored {payload : List UInt8} {s : SessionState} :
      CloseStepped limits index (.pong payload) s none
        (s.recorded ((Message.pong payload).entry inbound index "ignored"))
  | closed {frame : Option (Nat × Str)} {s : SessionState} :
      CloseStepped limits index (.close frame) s (some none)
        (s.recorded ((Message.close frame).entry inbound index "acknowledged"))

theorem closeStep_ok {index : Nat} {message : Message} {verdict : Verdict}
    (h : closeStep limits index message s = .ok verdict t) :
    CloseStepped limits index message s verdict t := by
  -- By the message: a ping is answered, a pong is left, a close ends the wait.
  cases message with
  | ping payload =>
      simp only [closeStep, state_bind_ok, push_ok, accountAutomaticControl_ok, checkSocket_ok,
        syncWireCounters_ok, state_pure_ok] at h
      rcases h with ⟨_, _, rfl, _, _, ⟨hfits, rfl⟩, failure, v, hflush, _, _, ⟨rfl, rfl⟩, _, _,
        ⟨_, rfl⟩, _, _, rfl, rfl, rfl⟩
      simp only [socketFlush, EStateM.Result.ok.injEq] at hflush
      rcases hflush with ⟨hnone, rfl⟩
      rw [hnone]
      exact .ping hfits hnone
  | pong payload =>
      simp only [closeStep, state_bind_ok, push_ok, state_pure_ok] at h
      rcases h with ⟨_, _, rfl, rfl, rfl⟩
      exact .ignored
  | close frame =>
      simp only [closeStep, state_bind_ok, push_ok, state_pure_ok] at h
      rcases h with ⟨_, _, rfl, rfl, rfl⟩
      exact .closed
  | text text | binary data | frame payload =>
      simp only [closeStep, state_bind_ok, state_throw_ok, and_false, exists_false] at h

/-! ### The loop -/

/-- The state after a read that brings a message, as the step is handed it. -/
def SessionState.took (limits : WebSocketLimits) (s : SessionState) (arrival : Arrival)
    (rest : List Arrival) (message : Message) : SessionState :=
  (((s.observed limits arrival rest).called (.read (.ok message))).synced).countedInbound message

@[simp] theorem calls_took (arrival : Arrival) (rest : List Arrival) (message : Message) :
    (s.took limits arrival rest message).calls = s.calls ++ [.read (.ok message)] := by
  rw [SessionState.took, calls_countedInbound, calls_synced, calls_called, calls_observed]

/-- A read that brings a message within the inbound limits. -/
structure Reads (limits : WebSocketLimits) (s : SessionState) (arrival : Arrival)
    (rest : List Arrival) (message : Message) (t : SessionState) : Prop where
  clean : (s.observed limits arrival rest).accounting.failure = none
  result : arrival.result = .ok message
  messages : t.counters.inboundMessages ≤ limits.maxInboundMessages
  bytes : message.bytes ≤ limits.maxMessageBytes
  after : t = s.took limits arrival rest message

/-- The rule of the loop: an invariant of the passes that wait on, and what the
    last pass makes of it, be it a message or an error. -/
theorem readLoop_ok {onError : SocketError → SessionM (Option WebSocketCloseObservation)}
    {step : Message → SessionM Verdict} {I : SessionState → Prop}
    {Q : Option WebSocketCloseObservation → SessionState → Prop}
    (hwait : ∀ arrival rest message s t v, I s → Reads limits s arrival rest message t →
      step message t = .ok none v → I v)
    (hdone : ∀ arrival rest message close s t v, I s → Reads limits s arrival rest message t →
      step message t = .ok (some close) v → Q close v)
    (hgone : ∀ arrival rest e close s v, I s →
      onError e ((s.observed limits arrival rest).called (.read (.error e))) = .ok close v →
        Q close v)
    {arrivals : List Arrival} {close : Option WebSocketCloseObservation}
    (h : readLoop limits onError step arrivals s = .ok close t) (hs : I s) : Q close t := by
  -- By the arrivals, with the invariant at the start of each turn.
  induction arrivals generalizing s with
  | nil =>
      simp only [readLoop, state_bind_ok] at h
      rcases h with ⟨e, v, hexpire, h⟩
      cases hexpire
      exact hgone _ _ _ close s t hs h
  | cons arrival rest ih =>
      simp only [readLoop, state_bind_ok] at h
      rcases h with ⟨answer, v, hreceive, h⟩
      -- The read failed, and the loop ends with what the error decides.
      cases answer with
      | error e =>
          rcases receive_ok.mp hreceive with ⟨_, rfl⟩
          exact hgone arrival rest e close s t hs h
      | ok message =>
          rcases receive_message.mp hreceive with ⟨hclean, hresult, rfl⟩
          simp only [state_bind_ok, syncWireCounters_ok, accountInbound_ok] at h
          rcases h with ⟨_, _, ⟨_, rfl⟩, _, _, ⟨rfl, hmessages, hbytes⟩, verdict, w, hstep, h⟩
          have hreads : Reads limits s arrival rest message (s.took limits arrival rest message) :=
            ⟨hclean, hresult, hmessages, hbytes, rfl⟩
          -- The message ended the wait, or the loop goes on.
          cases verdict with
          | some result =>
              cases h
              exact hdone arrival rest message _ s _ _ hs hreads hstep
          | none => exact ih h (hwait arrival rest message s _ _ hs hreads hstep)

end

end Kahea
