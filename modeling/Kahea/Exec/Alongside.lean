import Kahea.Exec.Reached

/-!
# Sessions Side by Side

Two sessions that are to read the same messages run alike.

What a session is going to read is its `outlook`: the results of its reads up
to the one on which the wire fails. The messages of a session decide its end
through the outlook alone. How many bytes a read takes from the stream shows in
the inbound counters, and those decide nothing.

The comparison goes up to a number of reads; beyond it a session has escaped,
and nothing more is said of it.

## Main definitions

* `outlook`: What a session is going to read.
* `Alongside`: Two states with the same outlook, up to a number of reads.

## Theorems

* `readLoop_agrees`: The loop over the reads.
* `runActions_alongside`: Sessions with the same outlook end alike.
-/

namespace Kahea

/-! ### The wire -/

/-- Two accountings agree on what decides the fate of inbound bytes. -/
structure SameInbound (a b : WireAccounting) : Prop where
  frames : a.counters.inboundFrames = b.counters.inboundFrames
  reserved : a.inboundReservedBytes = b.inboundReservedBytes
  failure : a.failure = b.failure

section

variable {limits : WebSocketLimits} {a b : WireAccounting}

theorem sameInbound_reserveInbound (h : SameInbound a b) (payload : Nat) :
    SameInbound (a.reserveInbound limits payload) (b.reserveInbound limits payload) := by
  rcases h with ⟨hframes, hreserved, hfailure⟩
  unfold WireAccounting.reserveInbound
  rw [hframes, hreserved]
  split
  · exact ⟨hframes, rfl, rfl⟩
  · exact ⟨rfl, rfl, hfailure⟩

/-- A byte that arrives is seen alike. -/
theorem sameInbound_observeByte (h : SameInbound a b) (parser : WireParser) (byte : UInt8) :
    (observeByte limits (parser, a) byte).1 = (observeByte limits (parser, b) byte).1 ∧
      SameInbound (observeByte limits (parser, a) byte).2 (observeByte limits (parser, b) byte).2 := by
  -- Every test of the observer reads the counters both have.
  unfold observeByte
  dsimp only
  rw [h.failure]
  split
  · exact ⟨rfl, h⟩
  · split
    · exact ⟨rfl, h.frames, h.reserved, h.failure⟩
    · split
      · exact ⟨rfl, h⟩
      · split
        · exact ⟨rfl, h.frames, h.reserved, rfl⟩
        · rename_i payload _
          have hsame : SameInbound (a.reserveInbound limits payload)
              (b.reserveInbound limits payload) := sameInbound_reserveInbound h payload
          rw [hsame.failure]
          split
          · exact ⟨rfl, hsame⟩
          · exact ⟨rfl, hsame⟩

/-- What becomes of inbound bytes does not depend on the outbound direction. -/
theorem sameInbound_observe (h : SameInbound a b) (parser : WireParser) (bytes : List UInt8) :
    (observe limits (parser, a) bytes).1 = (observe limits (parser, b) bytes).1 ∧
      SameInbound (observe limits (parser, a) bytes).2 (observe limits (parser, b) bytes).2 := by
  induction bytes generalizing parser a b with
  | nil => exact ⟨rfl, h⟩
  | cons byte rest ih =>
      rcases sameInbound_observeByte h parser byte with ⟨hparser, hsame⟩
      have hrest := ih hsame (observeByte limits (parser, a) byte).1
      have hpair : (observeByte limits (parser, b) byte) =
          ((observeByte limits (parser, a) byte).1, (observeByte limits (parser, b) byte).2) := by
        rw [hparser]
      unfold observe at hrest ⊢
      rw [List.foldl_cons, List.foldl_cons, hpair]
      exact hrest

/-! ### The outlook -/

/-- What a session is going to read: results of the socket, and the failure of
    the wire they end with, if there is one. -/
def outlook (limits : WebSocketLimits) :
    WireParser × WireAccounting → List Arrival →
      List (Except WebSocketTerminalCause (Except SocketError Message))
  | wire, [] => wire.2.failure.toList.map .error
  | wire, arrival :: rest =>
      match wire.2.failure with
      | some cause => [.error cause]
      | none =>
          let next := observe limits wire arrival.pieces.flatten
          (if next.2.failure.isSome then [] else [.ok arrival.result]) ++ outlook limits next rest

/-- After a failure of the wire only that failure can be read. -/
theorem outlook_of_failure {wire : WireParser × WireAccounting} {cause : WebSocketTerminalCause}
    (h : wire.2.failure = some cause) (arrivals : List Arrival) :
    outlook limits wire arrivals = [.error cause] := by
  cases arrivals with
  | nil =>
      rw [outlook, h]
      rfl
  | cons arrival rest => simp only [outlook, h]

/-- The first reading of what is to come. -/
theorem outlook_cons {wire : WireParser × WireAccounting} (h : wire.2.failure = none)
    (arrival : Arrival) (rest : List Arrival) :
    outlook limits wire (arrival :: rest) =
      (if (observe limits wire arrival.pieces.flatten).2.failure.isSome then []
        else [.ok arrival.result]) ++
        outlook limits (observe limits wire arrival.pieces.flatten) rest := by
  simp only [outlook, h]

/-- The outlook does not depend on the outbound direction. -/
theorem outlook_sameInbound (h : SameInbound a b) (parser : WireParser) (arrivals : List Arrival) :
    outlook limits (parser, a) arrivals = outlook limits (parser, b) arrivals := by
  -- By the arrivals, the inbound half of the accounting being all that is read.
  induction arrivals generalizing parser a b with
  | nil => simp only [outlook, h.failure]
  | cons arrival rest ih =>
      cases hfailure : b.failure with
      | some cause =>
          have ha : a.failure = some cause := h.failure.trans hfailure
          rw [outlook_of_failure ha, outlook_of_failure hfailure]
      | none =>
          have ha : a.failure = none := h.failure.trans hfailure
          rw [outlook_cons ha, outlook_cons hfailure]
          have hwire : _ ∧ SameInbound (observe limits (parser, a) arrival.pieces.flatten).2
              (observe limits (parser, b) arrival.pieces.flatten).2 :=
            sameInbound_observe h parser arrival.pieces.flatten
          rcases hwire with ⟨hparser, hsame⟩
          have hpair : observe limits (parser, b) arrival.pieces.flatten =
              ((observe limits (parser, a) arrival.pieces.flatten).1,
                (observe limits (parser, b) arrival.pieces.flatten).2) := by
            rw [hparser]
          have hrest := ih hsame (observe limits (parser, a) arrival.pieces.flatten).1
          rw [hpair, ← hrest, hsame.failure]

end

/-! ### Two sessions -/

/-- A call that reads. -/
def SocketCall.isRead : SocketCall → Bool
  | .read _ => true
  | .send _ _ | .reply _ => false

namespace SessionState

/-- The reads so far. -/
def reads (s : SessionState) : Nat := s.calls.countP SocketCall.isRead

/-- What a state is going to read. -/
def outlook (limits : WebSocketLimits) (s : SessionState) :
    List (Except WebSocketTerminalCause (Except SocketError Message)) :=
  Kahea.outlook limits (s.parser, s.accounting) s.script.arrivals

end SessionState

/-- A session has read more often than it is followed. -/
def Escaped (bound : Nat) (s : SessionState) : Prop := bound < s.reads

/-- Two states that decide alike, up to a number of reads. -/
structure Alongside (limits : WebSocketLimits) (bound : Nat) (s t : SessionState) : Prop where
  sends : s.script.sends = t.script.sends
  failure : s.accounting.failure = t.accounting.failure
  outbound : s.accounting.outbound = t.accounting.outbound
  outboundFrames : s.counters.outboundFrames = t.counters.outboundFrames
  outboundBytes : s.counters.outboundBytes = t.counters.outboundBytes
  outboundMessages : s.counters.outboundMessages = t.counters.outboundMessages
  inboundMessages : s.counters.inboundMessages = t.counters.inboundMessages
  outlook : (s.outlook limits).take (bound - s.reads) = (t.outlook limits).take (bound - s.reads)

section

variable {lib : Crates} {limits : WebSocketLimits} {bound : Nat} {s t : SessionState}

theorem reads_called_read (answer : Except SocketError Message) :
    (s.called (.read answer)).reads = s.reads + 1 := by
  unfold SessionState.reads SessionState.called
  rw [List.countP_append]
  rfl

/-- Only readings count as readings. -/
theorem reads_called {call : SocketCall} (h : call.isRead = false) :
    (s.called call).reads = s.reads := by
  unfold SessionState.reads SessionState.called
  rw [List.countP_append, List.countP_singleton, h]
  rfl

theorem reads_writeSocket (payload : Nat) : (writeSocket limits payload s).2.reads = s.reads := by
  unfold SessionState.reads
  rw [calls_writeSocket]

theorem reads_countedInbound (message : Message) : (s.countedInbound message).reads = s.reads := by
  unfold SessionState.reads
  rw [calls_countedInbound]

theorem reads_countedOutbound (message : Message) : (s.countedOutbound message).reads = s.reads := by
  unfold SessionState.reads
  rw [calls_countedOutbound]

/-- A call that reads nothing. -/
theorem alongside_called {call call' : SocketCall} (h : Alongside limits bound s t)
    (hcall : call.isRead = false) : Alongside limits bound (s.called call) (t.called call') := by
  refine ⟨h.1, h.2, h.3, h.4, h.5, h.6, h.7, ?_⟩
  rw [reads_called hcall]
  exact h.8

theorem alongside_synced (h : Alongside limits bound s t) :
    Alongside limits bound s.synced t.synced := by
  have houtbound := h.outbound
  simp only [WireAccounting.outbound, Prod.mk.injEq] at houtbound
  exact ⟨h.1, h.2, h.3, houtbound.1, houtbound.2.1, h.6, h.7, h.8⟩

theorem alongside_countedInbound (h : Alongside limits bound s t) (message : Message) :
    Alongside limits bound (s.countedInbound message) (t.countedInbound message) := by
  unfold SessionState.countedInbound
  split
  · exact ⟨h.1, h.2, h.3, h.4, h.5, h.6, congrArg (saturatingAdd · 1) h.7, h.8⟩
  · exact h

theorem alongside_countedOutbound (h : Alongside limits bound s t) (message : Message) :
    Alongside limits bound (s.countedOutbound message) (t.countedOutbound message) := by
  unfold SessionState.countedOutbound
  split
  · exact ⟨h.1, h.2, h.3, h.4, h.5, congrArg (· + 1) h.6, h.7, h.8⟩
  · exact h

/-- Budgets are exceeded alike. -/
theorem exceedsOutbound_alongside (h : Alongside limits bound s t) (dataMessage : Bool)
    (payload : Nat) : exceedsOutbound limits s.counters dataMessage payload =
      exceedsOutbound limits t.counters dataMessage payload := by
  simp only [exceedsOutbound, h.outboundFrames, h.outboundBytes, h.outboundMessages]

/-- Errors of the socket are reported alike. -/
theorem socketError_alongside (h : Alongside limits bound s t) (phase : WebSocketTerminalCause)
    (e : SocketError) : socketError phase s e = socketError phase t e := by
  simp only [socketError, h.failure]

/-! ### Frames going out -/

/-- What becomes of an outbound frame depends on the outbound direction. -/
theorem writeFrame_outbound {a b : WireAccounting} (hfailure : a.failure = b.failure)
    (houtbound : a.outbound = b.outbound) (payload : Nat) :
    (a.writeFrame limits payload).failure = (b.writeFrame limits payload).failure ∧
      (a.writeFrame limits payload).outbound = (b.writeFrame limits payload).outbound := by
  simp only [WireAccounting.outbound, Prod.mk.injEq] at houtbound
  rcases houtbound with ⟨hframes, hbytes, hreserved⟩
  unfold WireAccounting.writeFrame WireAccounting.reserveOutbound WireAccounting.consumeOutbound
    WireAccounting.outbound
  rw [hframes, hreserved]
  dsimp only
  split
  · simp only [Option.isSome_some, if_true, hframes, hbytes, and_self]
  · simp only [hfailure, hbytes]
    split <;> exact ⟨rfl, rfl⟩

/-- An outbound frame leaves the inbound direction alone. -/
theorem sameInbound_writeFrame {a : WireAccounting} {payload : Nat}
    (h : (a.writeFrame limits payload).failure = none) :
    SameInbound (a.writeFrame limits payload) a := by
  unfold WireAccounting.writeFrame WireAccounting.reserveOutbound
    WireAccounting.consumeOutbound at h ⊢
  dsimp only at h ⊢
  split at h
  · simp only [Option.isSome_some, if_true, reduceCtorEq] at h
  · rename_i hwithin
    rw [if_neg hwithin]
    split <;> exact ⟨rfl, rfl, rfl⟩

/-- A frame that is charged alike on both sides. -/
theorem alongside_written (h : Alongside limits bound s t) (payload : Nat) :
    Alongside limits bound { s with accounting := s.accounting.writeFrame limits payload }
      { t with accounting := t.accounting.writeFrame limits payload } := by
  have hboth : _ ∧ (s.accounting.writeFrame limits payload).outbound =
      (t.accounting.writeFrame limits payload).outbound :=
    writeFrame_outbound h.failure h.outbound payload
  refine ⟨h.1, hboth.1, hboth.2, h.4, h.5, h.6, h.7, ?_⟩
  -- A write that fails ends both outlooks alike, any other leaves them.
  cases hfailure : (s.accounting.writeFrame limits payload).failure with
  | some cause =>
      have hs : outlook limits (s.parser, s.accounting.writeFrame limits payload) s.script.arrivals =
          [.error cause] := outlook_of_failure hfailure _
      have ht : outlook limits (t.parser, t.accounting.writeFrame limits payload) t.script.arrivals =
          [.error cause] := outlook_of_failure (hboth.1.symm.trans hfailure) _
      unfold SessionState.outlook
      rw [hs, ht]
  | none =>
      have hs := sameInbound_writeFrame hfailure
      have ht := sameInbound_writeFrame (hboth.1.symm.trans hfailure)
      have hlook := h.outlook
      unfold SessionState.outlook at hlook ⊢
      rw [outlook_sameInbound hs, outlook_sameInbound ht]
      exact hlook

theorem alongside_answered (h : Alongside limits bound s t) :
    Alongside limits bound s.answered t.answered :=
  ⟨congrArg List.tail h.1, h.2, h.3, h.4, h.5, h.6, h.7, h.8⟩

theorem nextFailure_alongside (h : Alongside limits bound s t) : s.nextFailure = t.nextFailure := by
  simp only [SessionState.nextFailure, h.sends]

/-- A write ends alike in both. -/
theorem alongside_writeSocket (h : Alongside limits bound s t) (payload : Nat) :
    (writeSocket limits payload s).1 = (writeSocket limits payload t).1 ∧
      Alongside limits bound (writeSocket limits payload s).2 (writeSocket limits payload t).2 := by
  have hwritten := alongside_written h payload
  unfold writeSocket
  dsimp only
  split
  · exact ⟨rfl, h⟩
  · rw [hwritten.failure]
    split
    · exact ⟨rfl, hwritten⟩
    · exact ⟨nextFailure_alongside h, alongside_answered hwritten⟩

/-! ### Steps -/

/-- A program that ends alike in two sessions side by side. -/
abbrev Tracks (limits : WebSocketLimits) (bound : Nat) {α : Type} (m : SessionM α) : Prop :=
  Follows (Alongside limits bound) (Escaped bound) m

/-- A part that looks at the state only through what both share. -/
theorem tracks_reading {α β : Type} (g : SessionState → β) (f : β → SessionM α)
    (hg : ∀ s t, Alongside limits bound s t → g s = g t) (hf : ∀ b, Tracks limits bound (f b)) :
    Tracks limits bound (get >>= fun s => f (g s)) :=
  .reading hg hf

theorem tracks_push {entry : TranscriptEntry} :
    Tracks limits bound (push entry) :=
  .modify (fun _ h => h) (fun _ _ h => ⟨h.1, h.2, h.3, h.4, h.5, h.6, h.7, h.8⟩)

theorem tracks_socketSend {message : Message} :
    Tracks limits bound (socketSend limits message) := by
  refine .step (fun _ => rfl) (fun s hs => ?_) (fun s t h => ?_)
  · unfold Escaped
    rw [reads_called rfl, reads_writeSocket]
    exact hs
  · rcases alongside_writeSocket h message.bytes with ⟨hanswer, hstate⟩
    exact ⟨hanswer, alongside_called hstate rfl⟩

theorem tracks_socketReply {payload : Nat} :
    Tracks limits bound (socketReply limits payload) := by
  refine .step (fun _ => rfl) (fun s hs => ?_) (fun s t h => ?_)
  · unfold Escaped
    rw [reads_called rfl, reads_writeSocket]
    exact hs
  · rcases alongside_writeSocket h payload with ⟨hanswer, hstate⟩
    exact ⟨hanswer, alongside_called hstate rfl⟩

theorem tracks_socketFlush : Tracks limits bound socketFlush := by
  refine .step (fun _ => rfl) (fun s hs => ?_) (fun s t h => ?_)
  · unfold Escaped
    rw [reads_called rfl]
    exact hs
  · exact ⟨nextFailure_alongside h, alongside_called (alongside_answered h) rfl⟩

theorem tracks_throwSocket {α : Type} {phase : WebSocketTerminalCause} {e : SocketError} :
    Tracks limits bound
      (get >>= fun s => throw (socketError phase s e) : SessionM α) :=
  tracks_reading (fun s => socketError phase s e) throw
    (fun _ _ h => socketError_alongside h phase e) (fun _ => .throw)

theorem tracks_checkSocket {phase : WebSocketTerminalCause} {failure : Option SocketError} :
    Tracks limits bound (checkSocket phase failure) := by
  cases failure with
  | some e => exact tracks_throwSocket
  | none =>
      exact tracks_reading (fun _ => ()) pure (fun _ _ _ => rfl) (fun _ => .pure)

theorem tracks_syncWireCounters :
    Tracks limits bound syncWireCounters := by
  refine .bind (.modify (fun _ h => h) (fun _ _ => alongside_synced)) (fun _ => ?_)
  refine tracks_reading (fun s => s.accounting.failure)
    (fun failure => match failure with
      | some cause => throw (SessionTerminal.ofFailure cause)
      | none => pure ()) (fun _ _ h => h.failure) (fun failure => ?_)
  cases failure with
  | some cause => exact .throw
  | none => exact .pure

theorem tracks_accountInbound {message : Message} :
    Tracks limits bound (accountInbound limits message) := by
  refine .bind (.modify (fun s hs => ?_) (fun _ _ h => alongside_countedInbound h message)) (fun _ => ?_)
  · unfold Escaped
    rw [reads_countedInbound]
    exact hs
  · exact tracks_reading (fun s => s.counters.inboundMessages)
      (fun messages => demand (!(limits.maxInboundMessages < messages ||
        limits.maxMessageBytes < message.bytes)) (SessionTerminal.failed .budgetExhausted))
      (fun _ _ h => h.inboundMessages) (fun _ => .demand)

theorem tracks_accountAutomaticControl {payload : Nat} :
    Tracks limits bound (accountAutomaticControl limits payload) :=
  tracks_reading (fun s => exceedsOutbound limits s.counters false payload)
    (fun exceeds => demand (!exceeds) (SessionTerminal.failed .budgetExhausted))
    (fun _ _ h => exceedsOutbound_alongside h false payload) (fun _ => .demand)

/-- An own message. -/
theorem tracks_sendMessage {message : Message} :
    Tracks limits bound (sendMessage limits message) := by
  have hcount : Tracks limits bound
      (modify (fun s => s.countedOutbound message) : SessionM Unit) := by
    refine .modify (fun s hs => ?_) (fun _ _ h => alongside_countedOutbound h message)
    unfold Escaped
    rw [reads_countedOutbound]
    exact hs
  exact tracks_reading
    (fun s => exceedsOutbound limits s.counters message.isData message.bytes)
    (fun exceeds => do
      demand (!exceeds) (SessionTerminal.failed .budgetExhausted)
      let failure ← socketSend limits message
      checkSocket (sendPhase message) failure
      syncWireCounters
      modify (fun s => s.countedOutbound message))
    (fun _ _ h => exceedsOutbound_alongside h message.isData message.bytes) (fun exceeds =>
      .bind .demand (fun _ => .bind tracks_socketSend (fun failure => .bind tracks_checkSocket
        (fun _ => .bind tracks_syncWireCounters (fun _ => hcount)))))

theorem tracks_sendRecorded {index : Nat} {message : Message} :
    Tracks limits bound (sendRecorded limits index message) :=
  .bind tracks_sendMessage (fun _ => tracks_push)

/-- An answer to the server. -/
theorem tracks_acknowledge {index : Nat} {message : Message} :
    Tracks limits bound (acknowledge limits index message) := by
  refine .bind tracks_socketReply (fun failure => ?_)
  cases failure with
  | some e => exact .pure
  | none => exact .bind tracks_syncWireCounters (fun _ => tracks_push)

/-- One round of an expectation. -/
theorem tracks_expectationStep {action : WebSocketAction} {expected : Option (List UInt8)}
    {index : Nat} {message : Message} :
    Tracks limits bound
      (expectationStep lib limits action expected index message) := by
  cases message with
  | ping payload =>
      exact .bind tracks_push (fun _ => .bind tracks_accountAutomaticControl (fun _ =>
        .bind tracks_socketReply (fun _ => .bind tracks_checkSocket (fun _ =>
          .bind tracks_syncWireCounters (fun _ => .bind tracks_push (fun _ => .pure))))))
  | pong payload => exact .bind tracks_push (fun _ => .pure)
  | text _ | binary _ => exact .bind tracks_push (fun _ => .bind .demand (fun _ => .pure))
  | close frame =>
      exact .bind tracks_push (fun _ => .bind tracks_accountAutomaticControl (fun _ =>
        .bind tracks_acknowledge (fun _ => .bind .demand (fun _ => .pure))))
  | frame payload => exact .bind tracks_push (fun _ => .throw)

/-- One round of the wait for a close. -/
theorem tracks_closeStep {index : Nat} {message : Message} :
    Tracks limits bound (closeStep limits index message) := by
  cases message with
  | ping payload =>
      exact .bind tracks_push (fun _ => .bind tracks_accountAutomaticControl (fun _ =>
        .bind tracks_socketFlush (fun _ => .bind tracks_checkSocket (fun _ =>
          .bind tracks_syncWireCounters (fun _ => .bind tracks_push (fun _ => .pure))))))
  | pong payload | close frame => exact .bind tracks_push (fun _ => .pure)
  | text text | binary data | frame payload => exact .bind tracks_push (fun _ => .throw)

/-! ### The loop over the reads -/

/-- A read beyond the bound escapes. -/
theorem escaped_read (hs : bound ≤ s.reads) (arrival : Arrival) (rest : List Arrival)
    (answer : Except SocketError Message) :
    Escaped bound ((s.observed limits arrival rest).called (.read answer)) := by
  unfold Escaped
  rw [reads_called_read]
  exact Nat.lt_succ_of_le hs

/-- What a pass of the loop does with a message it has read. -/
def handled (limits : WebSocketLimits) (step : Message → SessionM Verdict) (message : Message)
    (loop : SessionM (Option WebSocketCloseObservation)) :
    SessionM (Option WebSocketCloseObservation) := do
  syncWireCounters
  accountInbound limits message
  let verdict ← step message
  match verdict with
  | some close => pure close
  | none => loop

/-- A handled message leaves an escaped state escaped. -/
theorem handled_stays {step : Message → SessionM Verdict} (hstep : ∀ m, Tracks limits bound (step m))
    {message : Message} {loop : SessionM (Option WebSocketCloseObservation)}
    (hloop : ∀ s, Escaped bound s → Escaped bound (finalState (loop s))) (hs : Escaped bound s) :
    Escaped bound (finalState (handled limits step message loop s)) := by
  have hsync : Tracks limits bound syncWireCounters := tracks_syncWireCounters
  have hcount : Tracks limits bound (accountInbound limits message) := tracks_accountInbound
  refine stays_bind (hsync.stays s hs) (fun _ u hu => stays_bind (hcount.stays u hu)
    (fun _ v hv => stays_bind ((hstep message).stays v hv) (fun verdict w hw => ?_)))
  cases verdict with
  | some close => exact hw
  | none => exact hloop w hw

/-- A loop that has escaped stays escaped, and so does one whose next read is
    beyond the bound. -/
theorem readLoop_stays {onError : SocketError → SessionM (Option WebSocketCloseObservation)}
    {step : Message → SessionM Verdict}
    (herror : ∀ e, Tracks limits bound (onError e)) (hstep : ∀ m, Tracks limits bound (step m))
    (arrivals : List Arrival) (hs : bound ≤ s.reads) :
    Escaped bound (finalState (readLoop limits onError step arrivals s)) := by
  induction arrivals generalizing s with
  | nil => exact stays_bind (escaped_read hs _ _ _) (fun e => (herror e).stays)
  | cons arrival rest ih =>
      refine stays_bind (escaped_read hs _ _ _) (fun answer u hu => ?_)
      cases answer with
      | error e => exact (herror e).stays u hu
      | ok message => exact handled_stays hstep (fun v hv => ih (Nat.le_of_lt hv)) hu

theorem outbound_observed (arrival : Arrival) (rest : List Arrival) :
    (s.observed limits arrival rest).accounting.outbound = s.accounting.outbound :=
  observe_outbound _ _

/-- A read of two sessions side by side: the wire fails alike, and if it does
    not, the results are the same. -/
theorem alongside_read (h : Alongside limits bound s t) (hclean : s.accounting.failure = none)
    (hreads : s.reads < bound) {arrival arrival' : Arrival} {rest rest' : List Arrival}
    (hs : s.script.arrivals = arrival :: rest) (ht : t.script.arrivals = arrival' :: rest') :
    (s.observed limits arrival rest).accounting.failure =
        (t.observed limits arrival' rest').accounting.failure ∧
      ((s.observed limits arrival rest).accounting.failure = none →
        arrival.result = arrival'.result) ∧
      ∀ answer answer', Alongside limits bound
        ((s.observed limits arrival rest).called (.read answer))
        ((t.observed limits arrival' rest').called (.read answer')) := by
  have hleft : bound - s.reads = (bound - (s.reads + 1)) + 1 := by omega
  have hlook := h.outlook
  unfold SessionState.outlook at hlook
  rw [hs, ht, hleft, outlook_cons hclean, outlook_cons (h.failure.symm.trans hclean)] at hlook
  -- What is left of the outlook decides the states after the read.
  suffices hrest : (s.observed limits arrival rest).accounting.failure =
        (t.observed limits arrival' rest').accounting.failure ∧
      ((s.observed limits arrival rest).accounting.failure = none →
        arrival.result = arrival'.result) ∧
      ((s.observed limits arrival rest).outlook limits).take (bound - (s.reads + 1)) =
        ((t.observed limits arrival' rest').outlook limits).take (bound - (s.reads + 1)) by
    refine ⟨hrest.1, hrest.2.1, fun answer answer' => ⟨h.sends, hrest.1, ?_, h.4, h.5, h.6, h.7, ?_⟩⟩
    · change (s.observed limits arrival rest).accounting.outbound =
        (t.observed limits arrival' rest').accounting.outbound
      rw [outbound_observed, outbound_observed]
      exact h.outbound
    · rw [reads_called_read]
      exact hrest.2.2
  have hsame : (s.observed limits arrival rest).outlook limits =
      outlook limits (observe limits (s.parser, s.accounting) arrival.pieces.flatten) rest := rfl
  have hsame' : (t.observed limits arrival' rest').outlook limits =
      outlook limits (observe limits (t.parser, t.accounting) arrival'.pieces.flatten) rest' := rfl
  have hfail : (s.observed limits arrival rest).accounting.failure =
      (observe limits (s.parser, s.accounting) arrival.pieces.flatten).2.failure := rfl
  have hfail' : (t.observed limits arrival' rest').accounting.failure =
      (observe limits (t.parser, t.accounting) arrival'.pieces.flatten).2.failure := rfl
  rw [hsame, hsame', hfail, hfail']
  cases hf : (observe limits (s.parser, s.accounting) arrival.pieces.flatten).2.failure with
  | some cause =>
      cases hf' : (observe limits (t.parser, t.accounting) arrival'.pieces.flatten).2.failure with
      | some cause' =>
          rw [hf, hf', outlook_of_failure hf, outlook_of_failure hf'] at hlook
          simp only [Option.isSome_some, if_true, List.nil_append, List.take_succ_cons,
            List.cons.injEq, Except.error.injEq] at hlook
          rw [outlook_of_failure hf, outlook_of_failure hf', hlook.1]
          exact ⟨rfl, nofun, rfl⟩
      | none =>
          rw [hf, hf', outlook_of_failure hf] at hlook
          simp only [Option.isSome_some, if_true, List.nil_append, Option.isSome_none,
            Bool.false_eq_true, if_false, List.cons_append, List.take_succ_cons, List.cons.injEq,
            reduceCtorEq, false_and] at hlook
  | none =>
      cases hf' : (observe limits (t.parser, t.accounting) arrival'.pieces.flatten).2.failure with
      | some cause' =>
          rw [hf, hf', outlook_of_failure hf'] at hlook
          simp only [Option.isSome_some, if_true, List.nil_append, Option.isSome_none,
            Bool.false_eq_true, if_false, List.cons_append, List.take_succ_cons, List.cons.injEq,
            reduceCtorEq, false_and] at hlook
      | none =>
          rw [hf, hf'] at hlook
          simp only [Option.isSome_none, Bool.false_eq_true, if_false, List.cons_append,
            List.nil_append, List.take_succ_cons, List.cons.injEq, Except.ok.injEq] at hlook
          exact ⟨rfl, fun _ => hlook.1, hlook.2⟩

/-- On a wire that has failed nothing more is observed. -/
theorem alongside_failed (h : Alongside limits bound s t) {cause : WebSocketTerminalCause}
    (hfailure : s.accounting.failure = some cause) (arrival arrival' : Arrival)
    (rest rest' : List Arrival) (answer answer' : Except SocketError Message) :
    Alongside limits bound ((s.observed limits arrival rest).called (.read answer))
      ((t.observed limits arrival' rest').called (.read answer')) := by
  have ht : t.accounting.failure = some cause := h.failure.symm.trans hfailure
  -- After a failure nothing is observed, so the bytes do not matter.
  have hs' : observe limits (s.parser, s.accounting) arrival.pieces.flatten =
      (s.parser, s.accounting) := observe_of_failure (by rw [hfailure]; rfl) _
  have ht' : observe limits (t.parser, t.accounting) arrival'.pieces.flatten =
      (t.parser, t.accounting) := observe_of_failure (by rw [ht]; rfl) _
  have hlook : ((s.observed limits arrival rest).called (.read answer)).outlook limits =
      ((t.observed limits arrival' rest').called (.read answer')).outlook limits := by
    change outlook limits (observe limits (s.parser, s.accounting) arrival.pieces.flatten) rest =
      outlook limits (observe limits (t.parser, t.accounting) arrival'.pieces.flatten) rest'
    rw [hs', ht', outlook_of_failure hfailure, outlook_of_failure ht]
  refine ⟨h.sends, ?_, ?_, h.4, h.5, h.6, h.7, ?_⟩
  · change (observe limits (s.parser, s.accounting) arrival.pieces.flatten).2.failure =
      (observe limits (t.parser, t.accounting) arrival'.pieces.flatten).2.failure
    rw [hs', ht']
    exact h.failure
  · change (s.observed limits arrival rest).accounting.outbound =
      (t.observed limits arrival' rest').accounting.outbound
    rw [outbound_observed, outbound_observed]
    exact h.outbound
  · rw [hlook]

/-- The first read on a wire that has failed fails. -/
theorem readLoop_failed {onError : SocketError → SessionM (Option WebSocketCloseObservation)}
    {step : Message → SessionM Verdict} (hfailure : s.accounting.failure.isSome)
    (arrivals : List Arrival) :
    ∃ e arrival rest, e ≠ .stream .connectionClosed ∧ readLoop limits onError step arrivals s =
      onError e ((s.observed limits arrival rest).called (.read (.error e))) := by
  cases arrivals with
  | nil => exact ⟨.stream (.timedOut .total), ⟨[], _⟩, [], nofun, rfl⟩
  | cons arrival rest =>
      refine ⟨.stream .other, arrival, rest, nofun, ?_⟩
      have hobserved : (s.observed limits arrival rest).accounting.failure.isSome := by
        change (observe limits (s.parser, s.accounting) arrival.pieces.flatten).2.failure.isSome
        rw [observe_of_failure hfailure]
        exact hfailure
      have hreceive : receive limits arrival rest s = .ok (.error (.stream .other))
          ((s.observed limits arrival rest).called (.read (.error (.stream .other)))) := by
        rw [receive_ok, if_pos hobserved]
        exact ⟨rfl, rfl⟩
      rw [readLoop, state_bind_of_ok hreceive]

theorem outlook_ne_nil {wire : WireParser × WireAccounting} (h : wire.2.failure = none)
    (arrival : Arrival) (rest : List Arrival) : outlook limits wire (arrival :: rest) ≠ [] := by
  rw [outlook_cons h]
  cases hfailure : (observe limits wire arrival.pieces.flatten).2.failure with
  | some cause =>
      rw [outlook_of_failure hfailure]
      nofun
  | none => nofun

/-- Two sessions side by side have both something left to read, or neither. -/
theorem arrivals_alongside (h : Alongside limits bound s t) (hclean : s.accounting.failure = none)
    (hreads : s.reads < bound) : s.script.arrivals = [] ↔ t.script.arrivals = [] := by
  have hclean' := h.failure.symm.trans hclean
  have hlook := h.outlook
  have hleft : bound - s.reads = (bound - (s.reads + 1)) + 1 := by omega
  have hempty : ∀ {u : SessionState}, u.accounting.failure = none →
      (u.script.arrivals = [] ↔ (u.outlook limits).take (bound - s.reads) = []) := by
    intro u hu
    unfold SessionState.outlook
    rw [hleft, List.take_eq_nil_iff]
    cases u.script.arrivals with
    | nil => simp only [outlook, hu, Option.toList_none, List.map_nil, or_true]
    | cons arrival rest =>
        simp only [reduceCtorEq, Nat.add_one_ne_zero, false_or, false_iff]
        exact outlook_ne_nil hu arrival rest
  rw [hempty hclean, hempty hclean', hlook]

/-- Two sessions side by side on which the deadline passes. -/
theorem alongside_expire (h : Alongside limits bound s t) (hclean : s.accounting.failure = none)
    (result : Except SocketError Message) (answer answer' : Except SocketError Message) :
    Alongside limits bound ((s.observed limits ⟨[], result⟩ []).called (.read answer))
      ((t.observed limits ⟨[], result⟩ []).called (.read answer')) := by
  have hlook : ∀ {u : SessionState} {answer : Except SocketError Message},
      u.accounting.failure = none →
        ((u.observed limits ⟨[], result⟩ []).called (.read answer)).outlook limits = [] := by
    intro u answer hu
    change outlook limits (u.parser, u.accounting) [] = []
    simp only [outlook, hu, Option.toList_none, List.map_nil]
  refine ⟨h.sends, h.failure, h.outbound, h.4, h.5, h.6, h.7, ?_⟩
  rw [hlook hclean, hlook (h.failure.symm.trans hclean)]

section

variable {onError : SocketError → SessionM (Option WebSocketCloseObservation)}
  {step : Message → SessionM Verdict}

/-- Two loops on a wire that has failed end alike. -/
theorem readLoop_agrees_failed
    (hfailed : ∀ e e' s t, Alongside limits bound s t → s.accounting.failure.isSome →
      e ≠ .stream .connectionClosed → e' ≠ .stream .connectionClosed →
        Agree (Alongside limits bound) (Escaped bound) (onError e s) (onError e' t))
    (h : Alongside limits bound s t) {cause : WebSocketTerminalCause}
    (hfailure : s.accounting.failure = some cause) (arrivals arrivals' : List Arrival) :
    Agree (Alongside limits bound) (Escaped bound) (readLoop limits onError step arrivals s)
      (readLoop limits onError step arrivals' t) := by
  have hs : s.accounting.failure.isSome := by
    rw [hfailure]
    rfl
  have ht : t.accounting.failure.isSome := by
    rw [← h.failure]
    exact hs
  -- Both loops read once more, and both get the recorded failure.
  have hrun : ∃ e arrival rest, e ≠ .stream .connectionClosed ∧
      readLoop limits onError step arrivals s =
        onError e ((s.observed limits arrival rest).called (.read (.error e))) := readLoop_failed hs _
  have hrun' : ∃ e arrival rest, e ≠ .stream .connectionClosed ∧
      readLoop limits onError step arrivals' t =
        onError e ((t.observed limits arrival rest).called (.read (.error e))) := readLoop_failed ht _
  rcases hrun with ⟨e, arrival, rest, he, hrun⟩
  rcases hrun' with ⟨e', arrival', rest', he', hrun'⟩
  rw [hrun, hrun']
  refine hfailed e e' _ _ (alongside_failed h hfailure _ _ _ _ _ _) ?_ he he'
  change (observe limits (s.parser, s.accounting) arrival.pieces.flatten).2.failure.isSome
  rw [observe_of_failure hs]
  exact hs

/-- A message is handled alike in two sessions side by side. -/
theorem handled_agrees (hstep : ∀ m, Tracks limits bound (step m))
    (hkeeps : ∀ m s u, step m s = .ok none u → u.script.arrivals = s.script.arrivals)
    {message : Message} {loop loop' : SessionM (Option WebSocketCloseObservation)}
    (hstays : ∀ s, Escaped bound s → Escaped bound (finalState (loop s)))
    (hloop : ∀ u v, u.script.arrivals = s.script.arrivals → v.script.arrivals = t.script.arrivals →
      Alongside limits bound u v → Agree (Alongside limits bound) (Escaped bound) (loop u) (loop' v))
    (h : Alongside limits bound s t) :
    Agree (Alongside limits bound) (Escaped bound) (handled limits step message loop s)
      (handled limits step message loop' t) := by
  have hsync : Tracks limits bound syncWireCounters := tracks_syncWireCounters
  have hcount : Tracks limits bound (accountInbound limits message) := tracks_accountInbound
  -- A session that escaped the bound stays escaped, whatever it goes on with.
  have hend : ∀ (verdict : Verdict) (u : SessionState), Escaped bound u →
      Escaped bound (finalState ((match verdict with
        | some close => pure close
        | none => loop : SessionM (Option WebSocketCloseObservation)) u)) := by
    intro verdict u hu
    cases verdict with
    | some close => exact hu
    | none => exact hstays u hu
  -- Counting a message takes nothing off the script.
  have hcounted : ∀ {u v : SessionState} {a : Unit}, accountInbound limits message u = .ok a v →
      v.script.arrivals = u.script.arrivals := by
    intro u v a hok
    rw [(accountInbound_ok.mp hok).1]
    unfold SessionState.countedInbound
    split <;> rfl
  -- Counters, budget and action in turn: both sides do the same while they agree.
  refine agree_bind (hsync.agrees s t h)
    (fun _ u hu => stays_bind (hcount.stays u hu) (fun _ v hv =>
      stays_bind ((hstep message).stays v hv) hend)) (fun _ u u' hu hu' huu => ?_)
  refine agree_bind (hcount.agrees u u' huu)
    (fun _ v hv => stays_bind ((hstep message).stays v hv) hend) (fun _ v v' hv hv' hvv => ?_)
  refine agree_bind ((hstep message).agrees v v' hvv) hend (fun verdict w w' hw hw' hww => ?_)
  -- The action ended, or both go on with the next arrival.
  cases verdict with
  | some close => exact Or.inr ⟨rfl, hww⟩
  | none =>
      refine hloop w w' ?_ ?_ hww
      · rw [hkeeps _ _ _ hw, hcounted hv, (syncWireCounters_ok.mp hu).2]
        rfl
      · rw [hkeeps _ _ _ hw', hcounted hv', (syncWireCounters_ok.mp hu').2]
        rfl

/-- The loops over the reads of two sessions side by side end alike. -/
theorem readLoop_agrees (herror : ∀ e, Tracks limits bound (onError e))
    (hfailed : ∀ e e' s t, Alongside limits bound s t → s.accounting.failure.isSome →
      e ≠ .stream .connectionClosed → e' ≠ .stream .connectionClosed →
        Agree (Alongside limits bound) (Escaped bound) (onError e s) (onError e' t))
    (hstep : ∀ m, Tracks limits bound (step m))
    (hkeeps : ∀ m s u, step m s = .ok none u → u.script.arrivals = s.script.arrivals)
    (arrivals : List Arrival) (hs : s.script.arrivals = arrivals) (h : Alongside limits bound s t) :
    Agree (Alongside limits bound) (Escaped bound)
      (readLoop limits onError step s.script.arrivals s)
      (readLoop limits onError step t.script.arrivals t) := by
  induction arrivals generalizing s t with
  | nil =>
      by_cases hreads : s.reads < bound
      swap
      · exact Or.inl (readLoop_stays herror hstep _ (Nat.not_lt.mp hreads))
      cases hclean : s.accounting.failure with
      | some cause => exact readLoop_agrees_failed hfailed h hclean _ _
      | none =>
          rw [hs, (arrivals_alongside h hclean hreads).mp hs]
          exact (herror _).agrees _ _ (alongside_expire h hclean _ _ _)
  | cons arrival rest ih =>
      by_cases hreads : s.reads < bound
      swap
      · exact Or.inl (readLoop_stays herror hstep _ (Nat.not_lt.mp hreads))
      cases hclean : s.accounting.failure with
      | some cause => exact readLoop_agrees_failed hfailed h hclean _ _
      | none =>
          cases ht : t.script.arrivals with
          | nil =>
              rw [(arrivals_alongside h hclean hreads).mpr ht] at hs
              cases hs
          | cons arrival' rest' =>
              rcases alongside_read h hclean hreads hs ht with ⟨hfailure, hresult, hstate⟩
              rw [hs]
              simp only [readLoop]
              refine agree_bind (Or.inr ⟨?_, hstate _ _⟩) (fun answer u hu => ?_)
                (fun answer u v hu hv huv => ?_)
              · -- The two answers are the same.
                rw [← hfailure]
                split
                · rfl
                · rename_i hnone
                  rw [Bool.not_eq_true, Option.isSome_eq_false_iff, Option.isNone_iff_eq_none] at hnone
                  exact hresult hnone
              · cases answer with
                | error e => exact (herror e).stays u hu
                | ok message =>
                    exact handled_stays hstep
                      (fun v hv => readLoop_stays herror hstep rest (Nat.le_of_lt hv)) hu
              · cases answer with
                | error e => exact (herror e).agrees u v huv
                | ok message =>
                    have hrest : u.script.arrivals = rest := by
                      rw [(receive_ok.mp hu).2]
                      rfl
                    have hrest' : v.script.arrivals = rest' := by
                      rw [(receive_ok.mp hv).2]
                      rfl
                    refine handled_agrees hstep hkeeps
                      (fun w hw => readLoop_stays herror hstep rest (Nat.le_of_lt hw))
                      (fun w w' hw hw' hww => ?_) huv
                    have hnext := ih (hw.trans hrest) hww
                    rw [hw.trans hrest, hw'.trans hrest'] at hnext
                    exact hnext

end

/-! ### Actions -/

/-- On a wire that has failed every error of a read is reported alike. -/
theorem throwSocket_agrees {α : Type} {phase : WebSocketTerminalCause} {e e' : SocketError}
    (h : Alongside limits bound s t) (hfailure : s.accounting.failure.isSome) :
    Agree (Alongside limits bound) (Escaped bound)
      ((get >>= fun s => throw (socketError phase s e) : SessionM α) s)
      ((get >>= fun s => throw (socketError phase s e') : SessionM α) t) := by
  refine Or.inr ?_
  change socketError phase s e = socketError phase t e'
  rcases Option.isSome_iff_exists.mp hfailure with ⟨cause, hcause⟩
  simp only [socketError, ← h.failure, hcause]

/-- The loop of an expectation. -/
theorem tracks_readExpectation {action : WebSocketAction} {expected : Option (List UInt8)}
    {index : Nat} : Tracks limits bound (readExpectation lib limits action expected index) := by
  have hstep : ∀ m, Tracks limits bound (expectationStep lib limits action expected index m) :=
    fun m => tracks_expectationStep
  refine ⟨fun s hs => ?_, fun s t h => ?_⟩
  · exact readLoop_stays (fun e => tracks_throwSocket) hstep _ (Nat.le_of_lt hs)
  · exact readLoop_agrees (fun e => tracks_throwSocket)
      (fun e e' u v huv hfailure _ _ => throwSocket_agrees huv hfailure) hstep
      (fun m u v hstep => arrivals_expectationStep hstep) _ rfl h

/-- The step of a closing action that waits on leaves the reads alone. -/
theorem arrivals_closeStep {index : Nat} {message : Message}
    (h : closeStep limits index message s = .ok none t) : t.script.arrivals = s.script.arrivals := by
  cases closeStep_ok h with
  | ping fits flushed => rfl
  | ignored => rfl

/-- The close of the client. -/
theorem tracks_executeClientClose {code index : Nat} {reason : Str} :
    Tracks limits bound (executeClientClose limits code reason index) := by
  have hstep : ∀ m, Tracks limits bound (closeStep limits index m) := fun m => tracks_closeStep
  refine .bind tracks_sendRecorded (fun _ => ?_)
  refine ⟨fun s hs => ?_, fun s t h => ?_⟩
  · rw [state_get_bind]
    refine stays_bind (readLoop_stays (fun e => ?_) hstep _ (Nat.le_of_lt hs)) (fun _ u hu => hu)
    split
    · exact .pure
    · exact tracks_throwSocket
  · rw [state_get_bind, state_get_bind]
    refine agree_bind ?_ (fun _ u hu => hu) (fun _ u v _ _ huv => Or.inr ⟨rfl, huv⟩)
    refine readLoop_agrees (fun e => ?_) (fun e e' u v huv hfailure he he' => ?_) hstep
      (fun m u v hstep => arrivals_closeStep hstep) _ rfl h
    · split
      · exact .pure
      · exact tracks_throwSocket
    · split
      · exact absurd rfl he
      · exact throwSocket_agrees huv hfailure

/-- Every action. -/
theorem tracks_actionProgram {action : WebSocketAction} {index : Nat}
    {program : SessionM (Option WebSocketCloseObservation)}
    (h : actionProgram lib limits index action = .ok program) : Tracks limits bound program := by
  have hsend : ∀ message, Tracks limits bound (sendAction limits index message) :=
    fun message => .bind tracks_sendRecorded (fun _ => .pure)
  -- An action sends, expects or closes.
  cases action with
  | sendText text =>
      cases h
      exact hsend _
  | sendBinary payload | ping payload =>
      simp only [actionProgram, except_bind_ok, except_pure_ok] at h
      rcases h with ⟨data, _, rfl⟩
      exact hsend _
  | expectBinary payload timeout | expectPong payload timeout =>
      simp only [actionProgram, except_bind_ok, except_pure_ok] at h
      rcases h with ⟨data, _, rfl⟩
      exact tracks_readExpectation
  | close code reason =>
      cases h
      exact tracks_executeClientClose
  | expectText equals timeout | expectJson pointer equals schema timeout
  | expectClose codes reason timeout =>
      cases h
      exact tracks_readExpectation

/-- A session that has escaped stays escaped. -/
theorem runActions_stays {actions : List WebSocketAction} {index : Nat} {terminal : SessionTerminal}
    {u : SessionState} (hs : Escaped bound s)
    (h : runActions lib limits index actions s = .ok (terminal, u)) : Escaped bound u := by
  induction actions generalizing index s with
  | nil =>
      cases h
      exact hs
  | cons action rest ih =>
      rcases runActions_cons.mp h with ⟨program, hprogram, hrun⟩
      have htracks : Tracks limits bound program := tracks_actionProgram hprogram
      have hstays := htracks.stays s hs
      rcases hrun with ⟨close, hclose, _⟩ | ⟨v, hv, hrest⟩ | herror
      · rw [hclose] at hstays
        exact hstays
      · rw [hv] at hstays
        exact ih hstays hrest
      · rw [herror] at hstays
        exact hstays

/-- Two sessions with the same outlook end alike, unless the first has read
    more often than the outlooks are compared. -/
theorem runActions_alongside {actions : List WebSocketAction} {index : Nat}
    {terminal : SessionTerminal} {u : SessionState} (h : Alongside limits bound s t)
    (hrun : runActions lib limits index actions s = .ok (terminal, u)) (hbound : u.reads ≤ bound) :
    ∃ v, runActions lib limits index actions t = .ok (terminal, v) := by
  induction actions generalizing index s t with
  | nil =>
      cases hrun
      exact ⟨t, rfl⟩
  | cons action rest ih =>
      rcases runActions_cons.mp hrun with ⟨program, hprogram, hends⟩
      have htracks : Tracks limits bound program := tracks_actionProgram hprogram
      rcases htracks.agrees s t h with hescaped | hagree
      · -- A session that has escaped has read more often.
        have hfinal : Escaped bound u := by
          rcases hends with ⟨close, hclose, _⟩ | ⟨v, hv, hrest⟩ | herror
          · rw [hclose] at hescaped
            exact hescaped
          · rw [hv] at hescaped
            exact runActions_stays hescaped hrest
          · rw [herror] at hescaped
            exact hescaped
        exact absurd hbound (Nat.not_le.mpr hfinal)
      · rcases hends with ⟨close, hclose, rfl⟩ | ⟨v, hv, hrest⟩ | herror
        · rw [hclose] at hagree
          cases ht : program t with
          | ok close' v =>
              rw [ht] at hagree
              rw [← hagree.1] at ht
              exact ⟨v, runActions_cons.mpr ⟨program, hprogram, Or.inl ⟨close, ht, rfl⟩⟩⟩
          | error e v =>
              rw [ht] at hagree
              exact hagree.elim
        · rw [hv] at hagree
          cases ht : program t with
          | ok close' w =>
              rw [ht] at hagree
              rw [← hagree.1] at ht
              rcases ih hagree.2 hrest with ⟨z, hz⟩
              exact ⟨z, runActions_cons.mpr ⟨program, hprogram, Or.inr (Or.inl ⟨w, ht, hz⟩)⟩⟩
          | error e w =>
              rw [ht] at hagree
              exact hagree.elim
        · rw [herror] at hagree
          cases ht : program t with
          | ok close' v =>
              rw [ht] at hagree
              exact hagree.elim
          | error e v =>
              rw [ht] at hagree
              rw [show e = terminal from hagree.symm] at ht
              exact ⟨v, runActions_cons.mpr ⟨program, hprogram, Or.inr (Or.inr ht)⟩⟩

end

end Kahea
