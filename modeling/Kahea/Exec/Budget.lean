import Kahea.Exec.Reached
import Kahea.Exec.Soundness

/-!
# Outbound Budgets

What a valid plan says of the limits its own messages meet at run time.

The validator adds up the frames, the data messages and the payload bytes of
the plan's actions, and the executor counts them again as they are sent. The
two agree on all three (`Spent`), as long as nothing is answered automatically.
The size of one frame is compared by the validator for data messages only: a
ping or a close beyond `max_frame_bytes` is sealed and fails when it is sent.

## Main definitions

* `WebSocketConnection.Opened`: What a handshake leaves of the wire.
* `Spent`: What a session has sent is within the totals of the validator.
* `Message.Fits`: A frame that fits the limits of one frame.

## Theorems

* `connectWebsocket_opened`: A connection is opened.
* `reached_spent`: The totals at a reached state.
* `sendMessage_budget_iff`: When a message of the plan exhausts no budget.
-/

namespace Kahea

/-! ### Open connections -/

/-- The wire has seen only what came with the handshake, without failure. -/
def WebSocketConnection.Opened (limits : WebSocketLimits) (connection : WebSocketConnection) : Prop :=
  connection.accounting.failure = none ∧ ∃ buffered,
    (connection.parser, connection.accounting) =
      observe limits (WireParser.new, WireAccounting.default) buffered

section

variable {lib : Crates} {world : World} {plan : WebSocketPlan} {options : InvokeOptions}

theorem acceptUpgrade_opened {limits : WebSocketLimits} {offered : List Str} {key : Str}
    {response response' : HandshakeResponse} {parser : WireParser} {accounting : WireAccounting}
    (h : acceptUpgrade lib limits offered key response = .ok (response', parser, accounting)) :
    accounting.failure = none ∧ ∃ buffered,
      (parser, accounting) = observe limits (WireParser.new, WireAccounting.default) buffered := by
  unfold acceptUpgrade at h
  split at h
  · cases h
  · dsimp only at h
    split at h
    · cases h
    · rename_i hfailure
      rw [Except.ok.injEq, Prod.mk.injEq] at h
      rw [h.2] at hfailure
      exact ⟨hfailure, _, h.2.symm⟩

theorem performUpgrade_opened {limits : WebSocketLimits} {path : Str} {request : HttpRequest}
    {tls : Bool} :
    Ensures (performUpgrade lib world limits path request tls)
      (fun r => ∀ response parser accounting, r = .ok (response, parser, accounting) →
        accounting.failure = none ∧ ∃ buffered,
          (parser, accounting) = observe limits (WireParser.new, WireAccounting.default) buffered)
      (fun _ => True) := by
  unfold performUpgrade
  split
  · exact .pure nofun
  · split
    · exact .pure nofun
    · refine .bind (.emit trivial) (fun _ _ => .bind .past (fun past _ => ?_))
      split
      · exact .pure nofun
      · exact .pure (fun _ _ _ h => acceptUpgrade_opened h)

/-- A connection is opened by its handshake. -/
theorem connectWebsocket_opened :
    Ensures (connectWebsocket lib world plan options)
      (fun r => ∀ connection, r = .ok connection → connection.Opened plan.limits)
      (fun _ => True) := by
  unfold connectWebsocket
  refine .bind .any (fun prepared _ => ?_)
  cases prepared with
  | error result => exact .pure nofun
  | ok h =>
      refine .bind .any (fun address _ => ?_)
      cases address with
      | error result => exact .pure nofun
      | ok address =>
          refine .bind performUpgrade_opened (fun outcome houtcome => ?_)
          split
          · refine .bind .any (fun handle _ => .bind .any (fun result _ => .pure nofun))
          · refine .bind .any (fun handle _ => .bind .past (fun past _ => .pure ?_))
            rintro _ ⟨⟩
            exact houtcome _ _ _ rfl

end

/-! ### What has been sent -/

/-- No message has been answered automatically. -/
def Unanswered (calls : List SocketCall) : Prop := ∀ failure, .reply failure ∉ calls

/-- A frame that fits the limits of one frame. The second half follows from the
    first for every payload that memory can hold. -/
def Message.Fits (limits : WebSocketLimits) (message : Message) : Prop :=
  message.bytes ≤ limits.maxFrameBytes ∧ frameSize message.bytes ≤ maxWriteBufferSize limits

/-- What a session has sent is within totals. -/
structure Spent (s : SessionState) (t : OutboundTotals) : Prop where
  failure : s.accounting.failure = none
  frames : s.accounting.counters.outboundFrames ≤ t.frames
  bytes : s.accounting.counters.outboundBytes ≤ t.bytes
  reserved : s.accounting.outboundReservedBytes ≤ t.bytes
  countedFrames : s.counters.outboundFrames ≤ t.frames
  countedBytes : s.counters.outboundBytes ≤ t.bytes
  countedMessages : s.counters.outboundMessages ≤ t.messages

section

variable {lib : Crates} {limits : WebSocketLimits} {s v : SessionState} {t : OutboundTotals}

theorem saturatingAdd_le_add (a b : Nat) : saturatingAdd a b ≤ a + b := min_le_left _ _

/-- The totals of the validator only grow. -/
theorem outboundTotals_le {actions : List WebSocketAction} {t' : OutboundTotals}
    (h : outboundTotals limits t actions = .ok t') :
    t.frames ≤ t'.frames ∧ t.messages ≤ t'.messages ∧ t.bytes ≤ t'.bytes := by
  induction actions generalizing t with
  | nil =>
      cases h
      exact ⟨le_rfl, le_rfl, le_rfl⟩
  | cons action rest ih =>
      rcases outboundTotals_cons h with ⟨cost, u, _, hframes, hmessages, hbytes, _, _, hrest⟩
      have := ih hrest
      omega

/-- What the validator charges for an action is what its message costs. -/
theorem validateWebsocketAction_outbound {action : WebSocketAction} {cost : Nat × Nat × Nat × Bool}
    {message : Message} (h : validateWebsocketAction action limits = .ok cost)
    (hmessage : action.outbound = some message) :
    cost.1 = 1 ∧ cost.2.1 = (if message.isData then 1 else 0) ∧ cost.2.2.1 = message.bytes := by
  -- The check of a length returns the length.
  have hlimit : ∀ {n m : Nat}, messageLimit limits n = .ok m → m = n := by
    intro n m hlimit
    unfold messageLimit at hlimit
    split at hlimit
    · cases hlimit
    · exact (Except.ok.inj hlimit).symm
  -- What the action decodes is what its message carries.
  have hdecode : ∀ {payload : Str} {decoded : List UInt8},
      decodeCanonicalBase64 payload = .ok decoded → base64Decode payload = some decoded := by
    intro payload decoded hdecode
    unfold decodeCanonicalBase64 at hdecode
    split at hdecode
    · cases hdecode
    · rename_i hd
      split at hdecode
      · rw [hd, Except.ok.inj hdecode]
      · cases hdecode
  -- Only the actions that send have an outbound message.
  cases action with
  | sendText text =>
      cases hmessage
      simp only [validateWebsocketAction, except_bind_ok, except_pure_ok] at h
      rcases h with ⟨bytes, hbytes, rfl⟩
      exact ⟨rfl, rfl, hlimit hbytes⟩
  | sendBinary payload =>
      simp only [validateWebsocketAction, except_bind_ok, except_pure_ok] at h
      rcases h with ⟨decoded, hdecoded, bytes, hbytes, rfl⟩
      simp only [WebSocketAction.outbound, hdecode hdecoded, Option.map_some, Option.some.injEq]
        at hmessage
      rw [← hmessage]
      exact ⟨rfl, rfl, hlimit hbytes⟩
  | ping payload =>
      simp only [validateWebsocketAction, except_bind_ok, except_pure_ok] at h
      rcases h with ⟨decoded, hdecoded, _, _, rfl⟩
      simp only [WebSocketAction.outbound, hdecode hdecoded, Option.map_some, Option.some.injEq]
        at hmessage
      rw [← hmessage]
      exact ⟨rfl, rfl, rfl⟩
  | close code reason =>
      cases hmessage
      simp only [validateWebsocketAction, except_bind_ok, except_pure_ok] at h
      rcases h with ⟨_, _, rfl⟩
      exact ⟨rfl, rfl, rfl⟩
  | expectText equals timeout | expectBinary payload timeout | expectJson pointer equals schema timeout
  | expectPong payload timeout | expectClose codes reason timeout => cases hmessage

theorem spent_mono {t' : OutboundTotals} (h : Spent s t) (hframes : t.frames ≤ t'.frames)
    (hmessages : t.messages ≤ t'.messages) (hbytes : t.bytes ≤ t'.bytes) : Spent s t' :=
  { failure := h.failure
    frames := h.frames.trans hframes
    bytes := h.bytes.trans hbytes
    reserved := h.reserved.trans hbytes
    countedFrames := h.countedFrames.trans hframes
    countedBytes := h.countedBytes.trans hbytes
    countedMessages := h.countedMessages.trans hmessages }

/-- The transcript costs nothing. -/
theorem spent_recorded (entry : TranscriptEntry) (h : Spent s t) : Spent (s.recorded entry) t :=
  ⟨h.1, h.2, h.3, h.4, h.5, h.6, h.7⟩

/-- A read costs nothing. -/
theorem spent_took {arrival : Arrival} {rest : List Arrival} {message : Message}
    (hreads : Reads limits s arrival rest message v) (h : Spent s t) : Spent v t := by
  rcases hreads with ⟨hclean, _, _, _, rfl⟩
  have houtbound : (s.observed limits arrival rest).accounting.outbound = s.accounting.outbound :=
    observe_outbound _ _
  simp only [WireAccounting.outbound, Prod.mk.injEq] at houtbound
  rcases houtbound with ⟨hframes, hbytes, hreserved⟩
  have hsynced : Spent ((s.observed limits arrival rest).called (.read (.ok message))).synced t :=
    { failure := hclean
      frames := hframes.trans_le h.frames
      bytes := hbytes.trans_le h.bytes
      reserved := hreserved.trans_le h.reserved
      countedFrames := hframes.trans_le h.frames
      countedBytes := hbytes.trans_le h.bytes
      countedMessages := h.countedMessages }
  unfold SessionState.took SessionState.countedInbound
  split
  · exact ⟨hsynced.1, hsynced.2, hsynced.3, hsynced.4, hsynced.5, hsynced.6, hsynced.7⟩
  · exact hsynced

/-! ### Sending -/

/-- The totals with one more message. -/
def OutboundTotals.plus (t : OutboundTotals) (message : Message) : OutboundTotals :=
  { t with
    frames := t.frames + 1
    messages := t.messages + (if message.isData then 1 else 0)
    bytes := t.bytes + message.bytes }

/-- Totals are within the limits of a session. -/
def OutboundTotals.Within (t : OutboundTotals) (limits : WebSocketLimits) : Prop :=
  t.frames ≤ limits.maxOutboundFrames ∧ t.messages ≤ limits.maxOutboundMessages ∧
    t.bytes ≤ limits.maxOutboundBytes

/-- Within the totals only the size of the frame is left to exceed. -/
theorem exceedsOutbound_eq {message : Message} (h : Spent s t)
    (hwithin : (t.plus message).Within limits) :
    exceedsOutbound limits s.counters message.isData message.bytes =
      decide (limits.maxFrameBytes < message.bytes) := by
  rcases hwithin with ⟨hframes, hmessages, hbytes⟩
  simp only [OutboundTotals.plus] at hframes hmessages hbytes
  have hcount := h.countedFrames
  have hsum := (saturatingAdd_le_add s.counters.outboundBytes message.bytes).trans
    (Nat.add_le_add_right h.countedBytes _)
  have hdata := h.countedMessages
  -- Of the four tests three are met by what validation counted.
  have hno : (decide (limits.maxOutboundFrames ≤ s.counters.outboundFrames) ||
      decide (limits.maxOutboundBytes < saturatingAdd s.counters.outboundBytes message.bytes) ||
      (message.isData && decide (limits.maxOutboundMessages ≤ s.counters.outboundMessages))) =
        false := by
    simp only [Bool.or_eq_false_iff, decide_eq_false_iff_not, Bool.and_eq_false_iff]
    refine ⟨⟨by omega, by omega⟩, ?_⟩
    cases hisData : message.isData with
    | false => exact Or.inl rfl
    | true =>
        simp only [hisData, if_true] at hmessages
        exact Or.inr (by omega)
  rw [exceedsOutbound, hno, Bool.false_or]

/-- A frame that fits is charged and written, and the stream answers. -/
theorem writeSocket_fits {message : Message} (h : Spent s t)
    (hwithin : (t.plus message).Within limits) (hfits : message.Fits limits) :
    (s.accounting.writeFrame limits message.bytes).failure = none ∧
      writeSocket limits message.bytes s = (s.nextFailure,
        { s.answered with accounting := s.accounting.writeFrame limits message.bytes }) := by
  -- The frame fits, so the accounting lets it through.
  have hexceeds : WireAccounting.exceeds limits s.accounting.counters.outboundFrames
      s.accounting.outboundReservedBytes limits.maxOutboundFrames limits.maxOutboundBytes
        message.bytes = false := by
    rcases hwithin with ⟨hframes, _, hbytes⟩
    simp only [OutboundTotals.plus] at hframes hbytes
    have hcount := h.frames
    have hsum := (saturatingAdd_le_add s.accounting.outboundReservedBytes message.bytes).trans
      (Nat.add_le_add_right h.reserved _)
    have hsize := hfits.1
    simp only [WireAccounting.exceeds, Bool.or_eq_false_iff, decide_eq_false_iff_not]
    omega
  have hwritten : (s.accounting.writeFrame limits message.bytes).failure = none := by
    rw [WireAccounting.failure_writeFrame h.failure, hexceeds]
    rfl
  refine ⟨hwritten, ?_⟩
  -- And the socket writes unless the script fails.
  unfold writeSocket
  rw [if_neg (Nat.not_lt.mpr hfits.2)]
  simp only [hwritten, Option.isSome_none, Bool.false_eq_true, if_false]

/-- A message that is sent is within the totals with it. -/
theorem spent_sent {message : Message} {u : Unit} (h : Spent s t)
    (hsent : sendMessage limits message s = .ok u v) : Spent v (t.plus message) := by
  rcases sendMessage_ok.mp hsent with ⟨_, hnone, hclean, rfl⟩
  have hwritten := (writeSocket_none hnone).1
  rw [WireAccounting.failure_writeFrame h.failure] at hwritten
  -- The write went through, so the accounting had not exceeded.
  have hexceeds : WireAccounting.exceeds limits s.accounting.counters.outboundFrames
      s.accounting.outboundReservedBytes limits.maxOutboundFrames limits.maxOutboundBytes
        message.bytes = false := by
    by_contra hne
    rw [Bool.not_eq_false] at hne
    rw [if_pos hne] at hwritten
    cases hwritten
  -- Each count goes up by the message.
  have hframes : s.accounting.counters.outboundFrames + 1 ≤ t.frames + 1 :=
    Nat.add_le_add_right h.frames 1
  have hbytes : saturatingAdd s.accounting.counters.outboundBytes message.bytes ≤
      t.bytes + message.bytes :=
    (saturatingAdd_le_add _ _).trans (Nat.add_le_add_right h.bytes _)
  have hreserved : s.accounting.outboundReservedBytes + message.bytes ≤ t.bytes + message.bytes :=
    Nat.add_le_add_right h.reserved _
  have hmessages := h.countedMessages
  rw [(writeSocket_none hnone).2, WireAccounting.writeFrame_of_not_exceeds h.failure hexceeds]
  unfold SessionState.countedOutbound OutboundTotals.plus
  split
  · exact ⟨h.failure, hframes, hbytes, hreserved, hframes, hbytes, Nat.add_le_add_right hmessages 1⟩
  · exact ⟨h.failure, hframes, hbytes, hreserved, hframes, hbytes, hmessages⟩

/-- A message that is not sent: it is beyond the budget, the socket fails, or
    the accounting does. -/
theorem sendMessage_error {message : Message} {e : SessionTerminal}
    (h : sendMessage limits message s = .error e v) :
    (exceedsOutbound limits s.counters message.isData message.bytes = true ∧
      e = .failed .budgetExhausted) ∨
    (∃ failure, (writeSocket limits message.bytes s).1 = some failure ∧
      e = socketError (sendPhase message)
        ((writeSocket limits message.bytes s).2.called (.send message (some failure))) failure) ∨
    ∃ cause, (writeSocket limits message.bytes s).1 = none ∧
      (writeSocket limits message.bytes s).2.accounting.failure = some cause := by
  unfold sendMessage at h
  rw [state_get_bind, state_bind_error, demand_error] at h
  -- The budget is asked first, then the socket writes, then the counters are read.
  rcases h with ⟨hexceeds, rfl, _⟩ | ⟨_, u, hdemand, h⟩
  · rw [Bool.not_eq_false'] at hexceeds
    exact Or.inl ⟨hexceeds, rfl⟩
  cases (demand_ok.mp hdemand).2
  rw [state_bind_error] at h
  rcases h with h | ⟨failure, w, hsend, h⟩
  · cases h
  simp only [socketSend, EStateM.Result.ok.injEq] at hsend
  rcases hsend with ⟨hfailure, rfl⟩
  rw [state_bind_error] at h
  unfold checkSocket at h
  rw [state_get_bind] at h
  -- The socket reports a failure of its own.
  cases failure with
  | some e =>
      rcases h with h | ⟨_, _, h, _⟩
      · rw [hfailure] at h
        rw [(state_throw_error.mp h).1.symm]
        exact Or.inr (Or.inl ⟨e, hfailure, rfl⟩)
      · cases h
  -- It reports none, so the accounting has recorded one.
  | none =>
      rcases h with h | ⟨_, w, hw, h⟩
      · cases h
      cases hw
      rw [state_bind_error] at h
      rcases h with h | ⟨_, _, _, h⟩
      · cases hcause : (writeSocket limits message.bytes s).2.accounting.failure with
        | some cause => exact Or.inr (Or.inr ⟨cause, hfailure, rfl⟩)
        | none =>
            have hsync : syncWireCounters ((writeSocket limits message.bytes s).2.called
                (.send message (writeSocket limits message.bytes s).1)) = .ok () _ :=
              syncWireCounters_ok.mpr ⟨hcause, rfl⟩
            rw [hsync] at h
            cases h
      · cases h

/-- No failure of the stream is reported as an exhausted budget. -/
theorem socketError_stream {phase : WebSocketTerminalCause} {failure : StreamError}
    (h : s.accounting.failure = none) (hphase : phase ≠ .budgetExhausted) :
    (socketError phase s (.stream failure)).cause ≠ .budgetExhausted := by
  unfold socketError
  rw [h]
  cases failure with
  | interrupted requested =>
      dsimp only [SessionTerminal.error]
      cases requested <;> nofun
  | timedOut deadline =>
      dsimp only [SessionTerminal.error]
      cases deadline with
      | total | idle => nofun
      | phase => exact hphase
  | endOfFile | connectionClosed | alreadyClosed | protocol | other => nofun

/-- Within the totals a message exhausts no budget just when its frame fits. -/
theorem spent_budget_iff {message : Message} (h : Spent s t)
    (hwithin : (t.plus message).Within limits) :
    (∀ e v, sendMessage limits message s = .error e v → e.cause ≠ .budgetExhausted) ↔
      message.Fits limits := by
  have hexceeds := exceedsOutbound_eq h hwithin
  constructor
  · intro hnever
    by_contra hfits
    by_cases hsize : message.bytes ≤ limits.maxFrameBytes
    · -- The frame is too large for the write buffer alone.
      have hbuffer : maxWriteBufferSize limits < frameSize message.bytes :=
        Nat.not_le.mp (fun hle => hfits ⟨hsize, hle⟩)
      have hwrite : writeSocket limits message.bytes s = (some .capacity, s) := by
        unfold writeSocket
        rw [if_pos hbuffer]
      have hsend : socketSend limits message s =
          .ok (some .capacity) (s.called (.send message (some .capacity))) := by
        unfold socketSend
        simp only [hwrite]
      have hcheck : checkSocket (sendPhase message) (some .capacity)
          (s.called (.send message (some .capacity))) =
            .error (.failed .budgetExhausted) (s.called (.send message (some .capacity))) := by
        unfold checkSocket
        rw [state_get_bind, state_throw_error, socketError,
          show (s.called _).accounting.failure = none from h.failure]
        exact ⟨rfl, rfl⟩
      refine hnever (.failed .budgetExhausted) (s.called (.send message (some .capacity))) ?_ rfl
      rw [decide_eq_false (Nat.not_lt.mpr hsize)] at hexceeds
      unfold sendMessage
      rw [state_get_bind, hexceeds, Bool.not_false,
        state_bind_of_ok ((demand_ok (u := ())).mpr ⟨rfl, rfl⟩),
        state_bind_of_ok hsend]
      exact state_bind_error.mpr (Or.inl hcheck)
    · rw [decide_eq_true (Nat.not_le.mp hsize)] at hexceeds
      refine hnever (.failed .budgetExhausted) s ?_ rfl
      unfold sendMessage
      rw [state_get_bind, hexceeds]
      rfl
  · intro hfits e v herror
    rcases writeSocket_fits h hwithin hfits with ⟨hwritten, hwrite⟩
    rcases sendMessage_error herror with ⟨hbudget, _⟩ | ⟨failure, hfailure, rfl⟩ | ⟨cause, _, hcause⟩
    · rw [hexceeds, decide_eq_true_eq] at hbudget
      exact absurd hfits.1 (Nat.not_le.mpr hbudget)
    · rw [hwrite] at hfailure ⊢
      simp only [SessionState.nextFailure, Option.map_eq_some_iff] at hfailure
      rcases hfailure with ⟨failure, _, rfl⟩
      refine socketError_stream hwritten ?_
      cases message <;> nofun
    · rw [hwrite] at hcause
      cases hwritten.symm.trans hcause

/-! ### Reached states -/

theorem unanswered_of_earlier {xs ys : List SocketCall} (h : Unanswered ys) (hearlier : xs <+: ys) : Unanswered xs :=
  fun failure hmem => h failure (hearlier.subset hmem)

theorem not_unanswered_replied (payload : Nat) : ¬ Unanswered (s.replied limits payload).calls := by
  intro h
  rw [calls_replied] at h
  exact h none (List.mem_append_right _ (List.mem_singleton.mpr rfl))

theorem calls_reads {arrival : Arrival} {rest : List Arrival} {message : Message}
    (h : Reads limits s arrival rest message v) : v.calls = s.calls ++ [.read (.ok message)] := by
  rw [h.after, calls_took]

/-- The calls of an expectation come after those before it. -/
theorem readExpectation_calls {action : WebSocketAction} {expected : Option (List UInt8)}
    {index : Nat} (h : readExpectation lib limits action expected index s = .ok none v) :
    s.calls <+: v.calls := by
  refine readExpectation_invariant (I := fun w => s.calls <+: w.calls) ?_ (fun _ _ hw => hw) ?_ h
    List.prefix_rfl
  · intro arrival rest message w w' hw hreads
    rw [calls_reads hreads]
    exact hw.trans (List.prefix_append _ _)
  · intro w payload hw _
    rw [calls_replied]
    exact hw.trans (List.prefix_append _ _)

/-- An expectation that answers nothing costs nothing. -/
theorem spent_readExpectation {action : WebSocketAction} {expected : Option (List UInt8)}
    {index : Nat} (h : readExpectation lib limits action expected index s = .ok none v)
    (hs : Spent s t) (hunanswered : Unanswered v.calls) : Spent v t := by
  refine readExpectation_invariant (I := fun w => Unanswered w.calls → Spent w t) ?_ ?_ ?_ h
    (fun _ => hs) hunanswered
  · intro arrival rest message w w' hw hreads hunanswered
    rw [calls_reads hreads] at hunanswered
    exact spent_took hreads (hw (unanswered_of_earlier hunanswered (List.prefix_append _ _)))
  · exact fun w entry hw hunanswered => spent_recorded entry (hw hunanswered)
  · intro w payload _ _ hunanswered
    exact absurd hunanswered (not_unanswered_replied payload)

/-- While nothing is answered automatically, what a session has sent is within
    the totals of the actions before the pending one. -/
theorem reached_spent {actions : List WebSocketAction} {start : SessionState} {index : Nat}
    {total : OutboundTotals} (hstart : Spent start t)
    (htotal : outboundTotals limits t actions = .ok total)
    (h : Reached lib limits actions start index s) (hunanswered : Unanswered s.calls) :
    ∃ t', Spent s t' ∧ outboundTotals limits t' (actions.drop index) = .ok total := by
  -- Along the actions done: what was spent is what validation counted for them.
  induction h with
  | start => exact ⟨t, hstart, htotal⟩
  | @next index u v action program _ pending decodes went ih =>
      rcases actionProgram_went decodes went with
        ⟨message, w, hmessage, hsent, rfl⟩ | ⟨_, expected, hread⟩
      -- An action that sends adds its message to both.
      · have hcalls : u.calls <+: w.calls := by
          rcases sendMessage_ok.mp hsent with ⟨_, _, _, rfl⟩
          rw [calls_countedOutbound, calls_synced, calls_called, calls_writeSocket]
          exact List.prefix_append _ _
        rcases ih (unanswered_of_earlier hunanswered hcalls) with ⟨t', hspent, hrest⟩
        rw [getElem?_drop_cons pending] at hrest
        rcases outboundTotals_cons hrest with
          ⟨cost, t'', hcost, hframes, hmessages, hbytes, _, _, hleft⟩
        rcases validateWebsocketAction_outbound hcost hmessage with ⟨hframe, hdata, hpayload⟩
        have hsum := spent_sent hspent hsent
        refine ⟨t'', spent_recorded _ (spent_mono hsum ?_ ?_ ?_), hleft⟩
        · rw [hframes, hframe]
          rfl
        · rw [hmessages, hdata]
          rfl
        · rw [hbytes, hpayload]
          rfl
      -- One that expects adds nothing, no ping having been answered.
      · rcases ih (unanswered_of_earlier hunanswered (readExpectation_calls hread)) with ⟨t', hspent, hrest⟩
        rw [getElem?_drop_cons pending] at hrest
        rcases outboundTotals_cons hrest with
          ⟨cost, t'', _, hframes, hmessages, hbytes, _, _, hleft⟩
        exact ⟨t'', spent_mono (spent_readExpectation hread hspent hunanswered) (by omega) (by omega)
          (by omega), hleft⟩

/-- What the next action of a reached state sends is within the limits of the
    plan, but for the size of its frame. -/
theorem reached_within {plan : WebSocketPlan} {u : Unit} (hvalid : plan.validate = .ok u)
    {connection : WebSocketConnection} (hopened : connection.Opened plan.limits)
    {script : SessionScript} {index : Nat}
    (h : Reached lib plan.limits plan.actions (connection.start script) index s)
    (hunanswered : Unanswered s.calls) {action : WebSocketAction} (hpending : plan.actions[index]? = some action)
    {message : Message} (hmessage : action.outbound = some message) :
    ∃ t', Spent s t' ∧ (t'.plus message).Within plan.limits := by
  -- Validation counted all the actions, this one with them.
  rcases WebSocketPlan.validate_ok hvalid with ⟨total, htotal, _, hframes, hmessages, hbytes, _⟩
  rcases hopened with ⟨hclean, buffered, hwire⟩
  -- Nothing was sent before the first action.
  have houtbound : connection.accounting.outbound = (0, 0, 0) := by
    have h := congrArg (fun wire => wire.2.outbound) hwire
    simp only [observe_outbound] at h
    exact h
  simp only [WireAccounting.outbound, Prod.mk.injEq] at houtbound
  rcases houtbound with ⟨hframe, hbyte, hreserved⟩
  have hstart : Spent (connection.start script) ⟨0, 0, 0, 0⟩ :=
    { failure := hclean
      frames := hframe.le
      bytes := hbyte.le
      reserved := hreserved.le
      countedFrames := le_rfl
      countedBytes := le_rfl
      countedMessages := le_rfl }
  rcases reached_spent hstart htotal h hunanswered with ⟨t', hspent, hrest⟩
  rw [getElem?_drop_cons hpending] at hrest
  rcases outboundTotals_cons hrest with ⟨cost, t'', hcost, hf, hm, hb, _, _, hleft⟩
  rcases validateWebsocketAction_outbound hcost hmessage with ⟨hone, hdata, hpayload⟩
  have hle := outboundTotals_le hleft
  -- The three totals, each at most what validation let through.
  refine ⟨t', hspent, ?_, ?_, ?_⟩
  · change t'.frames + 1 ≤ _
    omega
  · change t'.messages + (if message.isData then 1 else 0) ≤ _
    omega
  · change t'.bytes + message.bytes ≤ _
    omega

/-- In every reached state of a valid plan's session that has answered nothing
    automatically, the next message of the plan exhausts no budget if and only
    if its frame fits the limits of one frame. -/
theorem sendMessage_budget_iff {plan : WebSocketPlan} {u : Unit} (hvalid : plan.validate = .ok u)
    {connection : WebSocketConnection} (hopened : connection.Opened plan.limits)
    {script : SessionScript} {index : Nat}
    (h : Reached lib plan.limits plan.actions (connection.start script) index s)
    (hunanswered : Unanswered s.calls) {action : WebSocketAction} (hpending : plan.actions[index]? = some action)
    {message : Message} (hmessage : action.outbound = some message) :
    (∀ e v, sendMessage plan.limits message s = .error e v → e.cause ≠ .budgetExhausted) ↔
      message.Fits plan.limits := by
  rcases reached_within hvalid hopened h hunanswered hpending hmessage with ⟨t', hspent, hwithin⟩
  exact spent_budget_iff hspent hwithin

end

/-! ### A ping and its frame -/

/-- A ping of five bytes and a close. -/
def pingActions : List WebSocketAction := [.ping "aGVsbG8=", .close 1000 []]

theorem sessionConnection_opened (limits : WebSocketLimits) : sessionConnection.Opened limits :=
  ⟨rfl, [], rfl⟩

/-- The state after a message went out. -/
def SessionState.sentOut (s : SessionState) (limits : WebSocketLimits) (index : Nat)
    (message : Message) : SessionState :=
  ((((writeSocket limits message.bytes s).2.called (.send message none)).synced).countedOutbound
    message).recorded (message.entry outbound index "sent")

/-- The session after its ping, when a frame may have 125 bytes. -/
def pingedState : SessionState :=
  (sessionConnection.start ⟨[], []⟩).sentOut (sessionLimits 8 125) 0 (.ping (utf8 "hello"))

theorem reached_pinged : Reached referenceCrates (sessionLimits 8 125) pingActions
    (sessionConnection.start ⟨[], []⟩) 1 pingedState := by
  have hdecodes : actionProgram referenceCrates (sessionLimits 8 125) 0 (.ping "aGVsbG8=") =
      .ok (sendAction (sessionLimits 8 125) 0 (.ping (utf8 "hello"))) := by rfl
  have hsent : sendAction (sessionLimits 8 125) 0 (.ping (utf8 "hello"))
      (sessionConnection.start ⟨[], []⟩) = .ok none pingedState := by rfl
  exact .next .start rfl hdecodes hsent

/-- After the ping the session has sent a frame, and the close of the plan
    exhausts no budget. -/
theorem sendMessage_budget_pinged :
    Reached referenceCrates (sessionLimits 8 125) pingActions (sessionConnection.start ⟨[], []⟩) 1
        pingedState ∧
      pingedState.accounting.counters.outboundFrames = 1 ∧
      ∀ e v, sendMessage (sessionLimits 8 125) (.close (some (1000, []))) pingedState = .error e v →
        e.cause ≠ .budgetExhausted := by
  have hvalid : (sessionPlan (sessionLimits 8 125) pingActions).validate = .ok () := by
    decide +kernel
  have hunanswered : Unanswered pingedState.calls := by
    intro failure h
    change .reply failure ∈ [SocketCall.send _ _] at h
    cases List.mem_singleton.mp h
  have hmessage : WebSocketAction.outbound (.close 1000 []) = some (.close (some (1000, []))) := by
    rfl
  have hfits : (Message.close (some (1000, []))).Fits (sessionLimits 8 125) :=
    ⟨by decide, by decide⟩
  have hiff := sendMessage_budget_iff hvalid (sessionConnection_opened _) reached_pinged
    hunanswered rfl hmessage
  exact ⟨reached_pinged, by decide +kernel, hiff.mpr hfits⟩

/-- A plan with the ping is valid when a frame may have four bytes, and its
    session ends on the ping before it has called the socket. -/
theorem sendMessage_budget_small_frame :
    (sessionPlan (sessionLimits 8 4) pingActions).validate = .ok () ∧
      (runActions referenceCrates (sessionLimits 8 4) 0 pingActions
        (sessionConnection.start ⟨[], []⟩)).toOption.map (fun r => (r.1, r.2.calls.isEmpty)) =
          some (.failed .budgetExhausted, true) := by
  decide +kernel

end Kahea
