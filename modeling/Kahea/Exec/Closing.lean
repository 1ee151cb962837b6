import Kahea.Exec.Budget

/-!
# Expected Closes

What a close from the server decides while an expect-close is pending.

The executor means the close frame alone to decide: whether the acknowledgement
goes out changes nothing but the transcript (`acknowledge_total`). Before it
compares anything, though, it charges the acknowledgement to the outbound
budget, and a budget that is used up ends the session before the close is
looked at.

## Main definitions

* `CloseFits`: The acknowledgement fits the outbound budget left.

## Theorems

* `acknowledge_total`: Acknowledging never fails.
* `expectClose_passes_iff`: When an expected close makes the session pass.
-/

namespace Kahea

/-- A frame with this payload fits the outbound budget a state has left. -/
def CloseFits (limits : WebSocketLimits) (s : SessionState) (payload : Nat) : Prop :=
  s.accounting.counters.outboundFrames < limits.maxOutboundFrames ∧
    saturatingAdd s.accounting.counters.outboundBytes payload ≤ limits.maxOutboundBytes ∧
    payload ≤ limits.maxFrameBytes

section

variable {lib : Crates} {limits : WebSocketLimits} {s v : SessionState} {index : Nat}

/-- Acknowledging a close never fails. -/
theorem acknowledge_total {message : Message} :
    ∃ t, acknowledge limits index message s = .ok () t := by
  -- The acknowledgement is courtesy: a failed write is recorded, never raised.
  cases hwrite : (writeSocket limits message.bytes s).1 with
  | some e =>
      refine ⟨(writeSocket limits message.bytes s).2.called (.reply (some e)), ?_⟩
      have hreply : socketReply limits message.bytes s =
          .ok (some e) ((writeSocket limits message.bytes s).2.called (.reply (some e))) := by
        unfold socketReply
        simp only [hwrite]
      unfold acknowledge
      rw [state_bind_of_ok hreply]
      rfl
  | none =>
      have hreply : socketReply limits message.bytes s =
          .ok none ((writeSocket limits message.bytes s).2.called (.reply none)) := by
        unfold socketReply
        simp only [hwrite]
      have hclean : ((writeSocket limits message.bytes s).2.called (.reply none)).accounting.failure =
          none := by
        change (writeSocket limits message.bytes s).2.accounting.failure = none
        rw [(writeSocket_none hwrite).2]
        exact (writeSocket_none hwrite).1
      have hsync : syncWireCounters ((writeSocket limits message.bytes s).2.called (.reply none)) =
          .ok () ((writeSocket limits message.bytes s).2.called (.reply none)).synced :=
        syncWireCounters_ok.mpr ⟨hclean, rfl⟩
      refine ⟨(((writeSocket limits message.bytes s).2.called (.reply none)).synced).recorded
        (message.entry outbound index "automatic"), ?_⟩
      unfold acknowledge
      rw [state_bind_of_ok hreply]
      exact state_bind_of_ok hsync

/-- The step of an expect-close on a close it allows. -/
theorem expectationStep_close {codes : List Nat} {reason : Option Str} {timeout : Option Nat}
    {frame : Option (Nat × Str)} (hmatches : closeMatches frame codes reason = true) :
    (exceedsOutbound limits s.counters false (closePayloadBytes frame) = false →
      ∃ t, expectationStep lib limits (.expectClose codes reason timeout) none index (.close frame) s =
        .ok (some (some (closeObservation .server frame))) t) ∧
    (exceedsOutbound limits s.counters false (closePayloadBytes frame) = true →
      ∃ t, expectationStep lib limits (.expectClose codes reason timeout) none index (.close frame) s =
        .error (.failed .budgetExhausted) t) := by
  -- The frame matches, so all that is left is the budget for the reply.
  have hmatch : expectationMatchesClose (.expectClose codes reason timeout) frame = true := hmatches
  let u := s.recorded ((Message.close frame).entry inbound index "matched")
  have hpush : push ((Message.close frame).entry inbound index "matched") s = .ok () u :=
    push_ok.mpr rfl
  simp only [expectationStep, hmatch, if_true, state_bind_of_ok hpush]
  constructor
  -- It fits, so the reply is written and the close returned.
  · intro hfits
    have hbudget : accountAutomaticControl limits (closePayloadBytes frame) u = .ok () u :=
      accountAutomaticControl_ok.mpr ⟨hfits, rfl⟩
    have hacknowledge : ∃ t, acknowledge limits index (.close frame) u = .ok () t := acknowledge_total
    rcases hacknowledge with ⟨t, ht⟩
    refine ⟨t, ?_⟩
    rw [state_bind_of_ok hbudget, state_bind_of_ok ht]
    rfl
  -- It does not, so the session fails although the frame was the expected one.
  · intro hexceeds
    have hbudget : (!exceedsOutbound limits u.counters false (closePayloadBytes frame)) = false :=
      congrArg Bool.not hexceeds
    refine ⟨u, state_bind_error.mpr (Or.inl ?_)⟩
    unfold accountAutomaticControl
    rw [state_get_bind]
    exact demand_error.mpr ⟨hbudget, rfl, rfl⟩

/-- What the executor charges the acknowledgement to is the budget a state has
    left before the close is read. -/
theorem exceedsOutbound_took {arrival : Arrival} {rest : List Arrival} {frame : Option (Nat × Str)} :
    exceedsOutbound limits (s.took limits arrival rest (.close frame)).counters false
      (closePayloadBytes frame) = false ↔ CloseFits limits s (closePayloadBytes frame) := by
  have houtbound : (s.observed limits arrival rest).accounting.outbound = s.accounting.outbound :=
    observe_outbound _ _
  simp only [WireAccounting.outbound, Prod.mk.injEq] at houtbound
  rcases houtbound with ⟨hframes, hbytes, _⟩
  have hcounters : (s.took limits arrival rest (.close frame)).counters =
      ((s.observed limits arrival rest).called (.read (.ok (.close frame)))).synced.counters := rfl
  have hf : (s.took limits arrival rest (.close frame)).counters.outboundFrames =
      s.accounting.counters.outboundFrames := by
    rw [hcounters]
    exact hframes
  have hb : (s.took limits arrival rest (.close frame)).counters.outboundBytes =
      s.accounting.counters.outboundBytes := by
    rw [hcounters]
    exact hbytes
  simp only [exceedsOutbound, hf, hb, Bool.false_and, Bool.or_false, Bool.or_eq_false_iff,
    decide_eq_false_iff_not, Nat.not_le, Nat.not_lt, CloseFits, and_assoc]

/-- The loop of an expect-close on a close it allows, in a state whose inbound
    messages are within their limit. -/
theorem readLoop_close {onError : SocketError → SessionM (Option WebSocketCloseObservation)}
    {codes : List Nat} {reason : Option Str} {timeout : Option Nat} {frame : Option (Nat × Str)}
    {arrival : Arrival} {rest : List Arrival} (hsizes : limits.maxFrameBytes ≤ limits.maxMessageBytes)
    (hmatches : closeMatches frame codes reason = true) (hmessages : WithinMessages limits s)
    (hread : receive limits arrival rest s = .ok (.ok (.close frame)) v) :
    (CloseFits limits s (closePayloadBytes frame) →
      ∃ t, readLoop limits onError
        (expectationStep lib limits (.expectClose codes reason timeout) none index)
          (arrival :: rest) s = .ok (some (closeObservation .server frame)) t) ∧
    (¬ CloseFits limits s (closePayloadBytes frame) →
      ∃ t, readLoop limits onError
        (expectationStep lib limits (.expectClose codes reason timeout) none index)
          (arrival :: rest) s = .error (.failed .budgetExhausted) t) := by
  rcases receive_message.mp hread with ⟨hclean, hresult, rfl⟩
  let w := ((s.observed limits arrival rest).called (.read (.ok (.close frame)))).synced
  let t := s.took limits arrival rest (.close frame)
  have hsync : syncWireCounters
      ((s.observed limits arrival rest).called (.read (.ok (.close frame)))) = .ok () w :=
    syncWireCounters_ok.mpr ⟨hclean, rfl⟩
  have hcounted : t.counters.inboundMessages ≤ limits.maxInboundMessages := hmessages
  have hstep : _ ∧ _ := @expectationStep_close lib limits t index codes reason timeout frame hmatches
  simp only [readLoop, state_bind_of_ok hread, state_bind_of_ok hsync]
  constructor
  · intro hfits
    have haccount : accountInbound limits (.close frame) w = .ok () t :=
      accountInbound_ok.mpr ⟨rfl, hcounted, hfits.2.2.trans hsizes⟩
    rcases hstep.1 (exceedsOutbound_took.mpr hfits) with ⟨z, hz⟩
    refine ⟨z, ?_⟩
    simp only [state_bind_of_ok haccount, state_bind_of_ok hz]
    rfl
  · intro hbeyond
    by_cases hbytes : (Message.close frame).bytes ≤ limits.maxMessageBytes
    · have haccount : accountInbound limits (.close frame) w = .ok () t :=
        accountInbound_ok.mpr ⟨rfl, hcounted, hbytes⟩
      have hexceeds : exceedsOutbound limits t.counters false (closePayloadBytes frame) = true := by
        by_contra hne
        rw [Bool.not_eq_true] at hne
        exact hbeyond (exceedsOutbound_took.mp hne)
      rcases hstep.2 hexceeds with ⟨z, hz⟩
      refine ⟨z, ?_⟩
      simp only [state_bind_of_ok haccount]
      exact state_bind_error.mpr (Or.inl hz)
    · -- A close beyond the message limit is refused for that already.
      refine ⟨t, state_bind_error.mpr (Or.inl ?_)⟩
      unfold accountInbound
      rw [state_modify_bind, state_get_bind]
      refine demand_error.mpr ⟨?_, rfl, rfl⟩
      rw [decide_eq_true (Nat.not_le.mp hbytes), Bool.or_true]
      rfl

/-- In every reached state of a valid plan's session that waits for a close, a
    close with an allowed code and reason makes the session pass if and only if
    its acknowledgement fits the outbound budget left. -/
theorem expectClose_passes_iff {plan : WebSocketPlan} {u : Unit} (hvalid : plan.validate = .ok u)
    {connection : WebSocketConnection} {script : SessionScript} {codes : List Nat}
    {reason : Option Str} {timeout : Option Nat}
    (hpending : plan.actions[index]? = some (.expectClose codes reason timeout)) {s₀ : SessionState}
    (hreached : Reached lib plan.limits plan.actions (connection.start script) index s₀)
    (hawaits : Awaits lib plan.limits (.expectClose codes reason timeout) none index s₀ s)
    {arrival : Arrival} {rest : List Arrival} (harrivals : s.script.arrivals = arrival :: rest)
    {frame : Option (Nat × Str)}
    (hread : receive plan.limits arrival rest s = .ok (.ok (.close frame)) v)
    (hmatches : closeMatches frame codes reason = true) :
    (∃ t, runActions lib plan.limits 0 plan.actions (connection.start script) =
      .ok (.passed (some (closeObservation .server frame)), t)) ↔
      CloseFits plan.limits s (closePayloadBytes frame) := by
  rcases WebSocketPlan.validate_ok hvalid with ⟨_, _, _, _, _, _, hlimits⟩
  -- The limits of a valid plan bound a message by what a frame can carry.
  have hsizes : plan.limits.maxFrameBytes ≤ plan.limits.maxMessageBytes := by
    simp only [validateWebsocketLimits, except_bind_ok, ensure_ok, Bool.not_eq_true',
      Bool.or_eq_false_iff, decide_eq_false_iff_not, Nat.not_lt] at hlimits
    rcases hlimits with ⟨_, _, ⟨⟨⟨⟨h, _⟩, _⟩, _⟩, _⟩⟩
    exact h
  have hmessages : WithinMessages plan.limits s :=
    hawaits.messages (hreached.messages (Nat.zero_le _))
  -- From here the loop reads this close and nothing else.
  have hloop := hawaits.run
  rw [harrivals] at hloop
  have hrun := hreached.run
  rw [getElem?_drop_cons hpending] at hrun
  rw [hrun]
  have hcases : _ ∧ _ := @readLoop_close lib plan.limits s v index
    (fun e => do throw (socketError .actionTimeout (← get) e)) codes reason timeout frame arrival rest
    hsizes hmatches hmessages hread
  constructor
  · rintro ⟨t, ht⟩
    -- Beyond the budget the action fails, so the run does not pass.
    by_contra hbeyond
    rcases hcases.2 hbeyond with ⟨z, hz⟩
    rw [← hloop] at hz
    rcases runActions_cons.mp ht with ⟨program, hprogram, hends⟩
    cases hprogram
    rw [hz] at hends
    rcases hends with ⟨_, h, _⟩ | ⟨_, h, _⟩ | h <;> cases h
  · intro hfits
    rcases hcases.1 hfits with ⟨z, hz⟩
    rw [← hloop] at hz
    exact ⟨z, runActions_cons.mpr ⟨_, rfl, Or.inl ⟨_, hz, rfl⟩⟩⟩

end

/-! ### A close without a budget -/

/-- A server that closes with code 1000. -/
def closingArrival : Arrival := ⟨[[0x88, 0x02, 0x03, 0xe8]], .ok (.close (some (1000, [])))⟩

/-- A ping without payload. -/
def emptyPing : Arrival := ⟨[[0x89, 0x00]], .ok (.ping [])⟩

/-- A session that says something and waits for a close. -/
def partingActions : List WebSocketAction := [.sendText "hi", .expectClose [1000] none none]

/-- A server that pings before it closes. -/
def partingStart : SessionState := sessionConnection.start ⟨[emptyPing, closingArrival], []⟩

/-- The session after its text. -/
def partingState : SessionState := partingStart.sentOut (sessionLimits 3 125) 0 (.text "hi")

/-- The ping has been read. -/
def pingReadState : SessionState :=
  partingState.took (sessionLimits 3 125) emptyPing [closingArrival] (.ping [])

/-- The ping has been answered. -/
def pongedState : SessionState :=
  match expectationStep referenceCrates (sessionLimits 3 125) (.expectClose [1000] none none) none 1
      (.ping []) pingReadState with
  | .ok _ t => t
  | .error _ t => t

theorem reached_parting : Reached referenceCrates (sessionLimits 3 125) partingActions partingStart 1
    partingState := by
  have hsent : sendAction (sessionLimits 3 125) 0 (.text "hi") partingStart = .ok none partingState := by
    rfl
  exact .next .start rfl rfl hsent

theorem awaits_ponged : Awaits referenceCrates (sessionLimits 3 125) (.expectClose [1000] none none)
    none 1 partingState pongedState := by
  have hreads : Reads (sessionLimits 3 125) partingState emptyPing [closingArrival] (.ping [])
      pingReadState :=
    ⟨by decide +kernel, rfl, by decide +kernel, by decide +kernel, rfl⟩
  have hstep : expectationStep referenceCrates (sessionLimits 3 125) (.expectClose [1000] none none)
      none 1 (.ping []) pingReadState = .ok none pongedState := by rfl
  exact .wait .start rfl hreads hstep

/-- A text and a pong have gone out, the acknowledgement is the last frame there
    is, and the close makes the session pass. -/
theorem expectClose_passes_ponged :
    pongedState.accounting.counters.outboundFrames = 2 ∧
      ∃ t, runActions referenceCrates (sessionLimits 3 125) 0 partingActions partingStart =
        .ok (.passed (some (closeObservation .server (some (1000, [])))), t) := by
  have hvalid : (sessionPlan (sessionLimits 3 125) partingActions).validate = .ok () := by
    decide +kernel
  have hread : receive (sessionLimits 3 125) closingArrival [] pongedState =
      .ok (.ok (.close (some (1000, [])))) _ :=
    receive_message.mpr ⟨by decide +kernel, rfl, rfl⟩
  have hfits : CloseFits (sessionLimits 3 125) pongedState 2 :=
    ⟨by decide +kernel, by decide +kernel, by decide +kernel⟩
  have hiff := expectClose_passes_iff hvalid rfl reached_parting awaits_ponged rfl hread (by decide)
  exact ⟨by decide +kernel, hiff.mpr hfits⟩

/-- The same close fails a session whose plan has used up its one frame. -/
theorem expectClose_without_budget :
    (sessionPlan (sessionLimits 1 125) [.sendText "hi", .expectClose [1000] none none]).validate =
        .ok () ∧
      closeMatches (some (1000, [])) [1000] none = true ∧
      (runActions referenceCrates (sessionLimits 1 125) 0
        [.sendText "hi", .expectClose [1000] none none]
        (sessionConnection.start ⟨[closingArrival], []⟩)).toOption.map (fun r => (r.1,
          r.2.transcript.map (fun entry => (entry.kind, entry.check)))) =
        some (.failed .budgetExhausted,
          [("text".toList, "sent".toList), ("close".toList, "matched".toList)]) := by
  decide +kernel

end Kahea
