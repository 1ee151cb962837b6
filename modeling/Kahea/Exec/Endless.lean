import Kahea.Exec.Alongside
import Kahea.Exec.Budget

/-!
# Endless Servers

A session with a server that never stops sending.

The loops of a session go on with pings and pongs, and nothing they look at
counts them. What ends them is the accounting of the wire: a frame beyond the
limit fails the read that brings it. The bound needs one thing from the socket:
a message it hands over has come in a frame of its own (`FrameBacked`).

A server is a sequence of arrivals without end. A session is followed through
its first arrivals; when those are more than it can read, it ends without
meeting the end of them, and further arrivals change nothing.

## Main definitions

* `arriving`: The first arrivals of a server.
* `FrameBacked`: No more messages than frames.
* `Led`: What a session has read without failure.
* `Counted`: The reads and messages of a session.

## Theorems

* `frames_observe`: The frames of the wire stay within their limit.
* `runActions_bounded`: The reads of a session.
* `session_bounded`: A session reads boundedly often, and ends.
-/

namespace Kahea

/-! ### Servers -/

/-- The first `n` arrivals of a server. -/
def arriving (server : Nat → Arrival) (n : Nat) : List Arrival := (List.range n).map server

/-- The bytes of some arrivals. -/
def arrivedBytes (arrivals : List Arrival) : List UInt8 :=
  (arrivals.map (fun arrival => arrival.pieces.flatten)).flatten

/-- Whether an arrival brings a message. -/
def Arrival.brings (arrival : Arrival) : Bool := arrival.result.toOption.isSome

/-- As long as the wire has not failed, there are no more messages than
    accounted frames. -/
def FrameBacked (limits : WebSocketLimits) (wire : WireParser × WireAccounting)
    (arrivals : List Arrival) : Prop :=
  (observe limits wire (arrivedBytes arrivals)).2.failure = none →
    arrivals.countP Arrival.brings ≤
      (observe limits wire (arrivedBytes arrivals)).2.counters.inboundFrames

/-- A call that reads a message. -/
def SocketCall.brings : SocketCall → Bool
  | .read (.ok _) => true
  | .read (.error _) | .send _ _ | .reply _ => false

/-- The messages a session has read so far. -/
def SessionState.messages (s : SessionState) : Nat := s.calls.countP SocketCall.brings

section

variable {lib : Crates} {limits : WebSocketLimits} {s t : SessionState}

/-! ### The frames of the wire -/

theorem frames_observeByte {wire : WireParser × WireAccounting} {byte : UInt8}
    (h : wire.2.counters.inboundFrames ≤ limits.maxInboundFrames) :
    (observeByte limits wire byte).2.counters.inboundFrames ≤ limits.maxInboundFrames := by
  rcases wire with ⟨parser, accounting⟩
  have hreserve : ∀ payload, (accounting.reserveInbound limits payload).counters.inboundFrames ≤
      limits.maxInboundFrames := by
    intro payload
    unfold WireAccounting.reserveInbound
    split
    · exact h
    · -- A frame that is charged was below the limit.
      rename_i hexceeds
      simp only [WireAccounting.exceeds, Bool.or_eq_true, decide_eq_true_eq, not_or] at hexceeds
      exact Nat.not_le.mp hexceeds.1.1
  unfold observeByte
  dsimp only
  split
  · exact h
  · split
    · exact h
    · split
      · exact h
      · split
        · exact h
        · split <;> exact hreserve _

/-- The accounting admits no frame beyond the limit. -/
theorem frames_observe {wire : WireParser × WireAccounting} (bytes : List UInt8)
    (h : wire.2.counters.inboundFrames ≤ limits.maxInboundFrames) :
    (observe limits wire bytes).2.counters.inboundFrames ≤ limits.maxInboundFrames := by
  induction bytes generalizing wire with
  | nil => exact h
  | cons byte rest ih => exact ih (frames_observeByte h)

theorem arrivedBytes_concat (arrivals : List Arrival) (arrival : Arrival) :
    arrivedBytes (arrivals ++ [arrival]) = arrivedBytes arrivals ++ arrival.pieces.flatten := by
  simp only [arrivedBytes, List.map_append, List.map_cons, List.map_nil, List.flatten_append,
    List.flatten_cons, List.flatten_nil, List.append_nil]

/-! ### Reads and messages -/

/-- A session has read this often, and this many messages. -/
def Counted (messages reads : Nat) (s : SessionState) : Prop :=
  s.messages = messages ∧ s.reads = reads

/-- A program that reads nothing. -/
abbrev Unread {α : Type} (m : SessionM α) : Prop :=
  ∀ messages reads, Keeps (Counted messages reads) (fun _ => True) m

theorem messages_called (call : SocketCall) :
    (s.called call).messages = s.messages + if call.brings then 1 else 0 := by
  unfold SessionState.messages SessionState.called
  rw [List.countP_append, List.countP_singleton]

variable {messages reads : Nat}

theorem counted_called {call : SocketCall} (hread : call.isRead = false)
    (h : Counted messages reads s) : Counted messages reads (s.called call) := by
  have hbrings : call.brings = false := by
    cases call with
    | read answer => cases hread
    | send message failure | reply failure => rfl
  refine ⟨?_, (reads_called hread).trans h.2⟩
  rw [messages_called, hbrings]
  exact h.1

theorem counted_of_calls (hcalls : t.calls = s.calls) (h : Counted messages reads s) :
    Counted messages reads t := by
  unfold Counted SessionState.messages SessionState.reads at h ⊢
  rw [hcalls]
  exact h

theorem unread_push {entry : TranscriptEntry} : Unread (push entry) :=
  fun _ _ => .modify (fun _ hs => hs)

theorem unread_socketSend {message : Message} : Unread (socketSend limits message) :=
  fun _ _ _ hs => counted_called rfl (counted_of_calls (calls_writeSocket _ _) hs)

theorem unread_socketReply {payload : Nat} : Unread (socketReply limits payload) :=
  fun _ _ _ hs => counted_called rfl (counted_of_calls (calls_writeSocket _ _) hs)

theorem unread_socketFlush : Unread socketFlush :=
  fun _ _ _ hs => counted_called rfl hs

theorem unread_throwSocket {α : Type} {phase : WebSocketTerminalCause} {e : SocketError} :
    Unread (get >>= fun s => throw (socketError phase s e) : SessionM α) :=
  fun _ _ => .bind .get (fun _ => .throw trivial)

theorem unread_checkSocket {phase : WebSocketTerminalCause} {failure : Option SocketError} :
    Unread (checkSocket phase failure) := by
  intro messages reads
  refine .bind .get (fun s => ?_)
  cases failure with
  | some e => exact .throw trivial
  | none => exact .pure

theorem unread_syncWireCounters : Unread syncWireCounters := by
  intro messages reads
  refine .bind (.modify (fun s hs => hs)) (fun _ => .bind .get (fun s => ?_))
  cases s.accounting.failure with
  | some cause => exact .throw trivial
  | none => exact .pure

theorem unread_accountInbound {message : Message} : Unread (accountInbound limits message) :=
  fun _ _ => .bind (.modify (fun _ hs => counted_of_calls (calls_countedInbound _ _) hs))
    (fun _ => .bind .get (fun _ => .demand trivial))

theorem unread_accountAutomaticControl {bytes : Nat} :
    Unread (accountAutomaticControl limits bytes) :=
  fun _ _ => .bind .get (fun _ => .demand trivial)

theorem unread_sendRecorded {index : Nat} {message : Message} :
    Unread (sendRecorded limits index message) := by
  intro messages reads
  have hsend : Keeps (Counted messages reads) (fun _ => True) (sendMessage limits message) := by
    refine .bind .get (fun s => .bind (.demand trivial) (fun _ =>
      .bind (unread_socketSend messages reads) (fun _ => .bind (unread_checkSocket messages reads)
        (fun _ => .bind (unread_syncWireCounters messages reads) (fun _ => .modify ?_)))))
    exact fun _ hs => counted_of_calls (calls_countedOutbound _ _) hs
  exact .bind hsend (fun _ => unread_push messages reads)

theorem unread_acknowledge {index : Nat} {message : Message} :
    Unread (acknowledge limits index message) := by
  intro messages reads
  refine .bind (unread_socketReply messages reads) (fun failure => ?_)
  cases failure with
  | some e => exact .pure
  | none =>
      exact .bind (unread_syncWireCounters messages reads) (fun _ => unread_push messages reads)

/-- A pass of the loop of an expectation reads nothing beyond its message. -/
theorem unread_expectationStep {action : WebSocketAction} {expected : Option (List UInt8)}
    {index : Nat} {message : Message} :
    Unread (expectationStep lib limits action expected index message) := by
  intro messages reads
  -- By the message: each step writes or records, none reads.
  cases message with
  | ping payload =>
      exact .bind (unread_push messages reads) (fun _ =>
        .bind (unread_accountAutomaticControl messages reads) (fun _ =>
          .bind (unread_socketReply messages reads) (fun _ =>
            .bind (unread_checkSocket messages reads) (fun _ =>
              .bind (unread_syncWireCounters messages reads) (fun _ =>
                .bind (unread_push messages reads) (fun _ => .pure))))))
  | pong payload => exact .bind (unread_push messages reads) (fun _ => .pure)
  | text text | binary data =>
      exact .bind (unread_push messages reads) (fun _ => .bind (.demand trivial) (fun _ => .pure))
  | close frame =>
      exact .bind (unread_push messages reads) (fun _ =>
        .bind (unread_accountAutomaticControl messages reads) (fun _ =>
          .bind (unread_acknowledge messages reads) (fun _ =>
            .bind (.demand trivial) (fun _ => .pure))))
  | frame payload => exact .bind (unread_push messages reads) (fun _ => .throw trivial)

theorem unread_closeStep {index : Nat} {message : Message} :
    Unread (closeStep limits index message) := by
  intro messages reads
  cases message with
  | ping payload =>
      exact .bind (unread_push messages reads) (fun _ =>
        .bind (unread_accountAutomaticControl messages reads) (fun _ =>
          .bind (unread_socketFlush messages reads) (fun _ =>
            .bind (unread_checkSocket messages reads) (fun _ =>
              .bind (unread_syncWireCounters messages reads) (fun _ =>
                .bind (unread_push messages reads) (fun _ => .pure))))))
  | pong payload | close frame => exact .bind (unread_push messages reads) (fun _ => .pure)
  | text text | binary data | frame payload =>
      exact .bind (unread_push messages reads) (fun _ => .throw trivial)


/-! ### What has come -/

/-- A session has read these arrivals, each with its message, and the wire has
    not failed. -/
structure Led (limits : WebSocketLimits) (start : SessionState) (before : List Arrival)
    (s : SessionState) : Prop where
  clean : s.accounting.failure = none
  came : start.script.arrivals = before ++ s.script.arrivals
  counted : Counted before.length before.length s
  brings : before.countP Arrival.brings = before.length
  parser : s.parser =
    (observe limits (start.parser, start.accounting) (arrivedBytes before)).1
  accounting : SameInbound s.accounting
    (observe limits (start.parser, start.accounting) (arrivedBytes before)).2

variable {start : SessionState} {before : List Arrival}

theorem SameInbound.trans {a b c : WireAccounting} (h : SameInbound a b) (h' : SameInbound b c) :
    SameInbound a c :=
  ⟨h.frames.trans h'.frames, h.reserved.trans h'.reserved, h.failure.trans h'.failure⟩

/-- A session that begins has read nothing. -/
theorem led_start (hclean : s.accounting.failure = none) (hcalls : s.calls = []) :
    Led limits s [] s := by
  refine ⟨hclean, rfl, ?_, rfl, rfl, rfl, rfl, rfl⟩
  unfold Counted SessionState.messages SessionState.reads
  rw [hcalls]
  exact ⟨rfl, rfl⟩

/-- What leaves the reads and the inbound direction alone. -/
theorem led_of_same (h : Led limits start before s) (hscript : t.script.arrivals = s.script.arrivals)
    (hcounted : Counted before.length before.length t) (hparser : t.parser = s.parser)
    (hsame : SameInbound t.accounting s.accounting) : Led limits start before t :=
  { clean := hsame.failure.trans h.clean
    came := h.came.trans (congrArg (before ++ ·) hscript.symm)
    counted := hcounted
    brings := h.brings
    parser := hparser.trans h.parser
    accounting := hsame.trans h.accounting }

theorem led_recorded (h : Led limits start before s) (entry : TranscriptEntry) :
    Led limits start before (s.recorded entry) :=
  led_of_same h rfl h.counted rfl ⟨rfl, rfl, rfl⟩

/-- A frame that goes out. -/
theorem led_written (h : Led limits start before s) {payload : Nat} (call : SocketCall)
    (hread : call.isRead = false) (hsent : (writeSocket limits payload s).1 = none) :
    Led limits start before ((writeSocket limits payload s).2.called call).synced := by
  have hcounted : Counted before.length before.length (writeSocket limits payload s).2 :=
    counted_of_calls (calls_writeSocket _ _) h.counted
  rcases writeSocket_none hsent with ⟨hclean, hstate⟩
  have hcalled : Counted before.length before.length
      ((writeSocket limits payload s).2.called call).synced := counted_called hread hcounted
  refine led_of_same h ?_ hcalled ?_ ?_
  · rw [hstate]
    rfl
  · rw [hstate]
    rfl
  · rw [hstate]
    exact sameInbound_writeFrame hclean

theorem led_sent {message : Message} {u : Unit} (h : Led limits start before s)
    (hsend : sendMessage limits message s = .ok u t) : Led limits start before t := by
  rcases sendMessage_ok.mp hsend with ⟨_, hsent, _, rfl⟩
  have hwritten := led_written h (.send message none) rfl hsent
  unfold SessionState.countedOutbound
  split
  · exact led_of_same hwritten rfl hwritten.counted rfl ⟨rfl, rfl, rfl⟩
  · exact hwritten

/-- A read that brings a message. -/
theorem led_read (h : Led limits start before s) {arrival : Arrival} {rest : List Arrival}
    {message : Message} (harrivals : s.script.arrivals = arrival :: rest)
    (hclean : (s.observed limits arrival rest).accounting.failure = none)
    (hresult : arrival.result = .ok message) :
    Led limits start (before ++ [arrival])
      ((s.observed limits arrival rest).called (.read (.ok message))) := by
  have hsame : (observe limits (s.parser, s.accounting) arrival.pieces.flatten).1 = _ ∧
      SameInbound _ _ := sameInbound_observe h.accounting s.parser arrival.pieces.flatten
  rw [h.parser] at hsame
  -- The wire has seen the bytes of one arrival more.
  have hwire : observe limits (start.parser, start.accounting) (arrivedBytes (before ++ [arrival])) =
      observe limits ((observe limits (start.parser, start.accounting) (arrivedBytes before)).1,
        (observe limits (start.parser, start.accounting) (arrivedBytes before)).2)
        arrival.pieces.flatten := by
    rw [arrivedBytes_concat, observe_append]
  have hbrings : arrival.brings = true := by
    unfold Arrival.brings
    rw [hresult]
    rfl
  have hlength : (before ++ [arrival]).length = before.length + 1 := List.length_append
  -- Each count goes up by one: arrivals, messages, reads and frames.
  refine ⟨hclean, ?_, ⟨?_, ?_⟩, ?_, ?_, ?_⟩
  · rw [h.came, harrivals, List.append_assoc]
    rfl
  · rw [messages_called, hlength]
    exact congrArg (· + 1) h.counted.1
  · rw [reads_called_read, hlength]
    exact congrArg (· + 1) h.counted.2
  · rw [List.countP_append, h.brings, hlength, List.countP_singleton, hbrings]
    rfl
  · rw [hwire, ← hsame.1, ← h.parser]
    rfl
  · rw [hwire, ← h.parser]
    rw [← h.parser] at hsame
    exact hsame.2

/-! ### The bound -/

/-- A server whose messages come in frames, on a wire within the limits. -/
structure ServedInFrames (limits : WebSocketLimits) (start : SessionState) : Prop where
  frames : start.accounting.counters.inboundFrames ≤ limits.maxInboundFrames
  backed : ∀ before after, start.script.arrivals = before ++ after →
    FrameBacked limits (start.parser, start.accounting) before

/-- A session has read no more messages than there may be frames, and at most
    one error. -/
def Bounded (limits : WebSocketLimits) (s : SessionState) : Prop :=
  s.messages ≤ limits.maxInboundFrames ∧ s.reads ≤ limits.maxInboundFrames + 1

/-- While the wire has not failed, every read has brought a message in a frame
    of its own. -/
theorem led_length (hframed : ServedInFrames limits start) (h : Led limits start before s) :
    before.length ≤ limits.maxInboundFrames := by
  have hclean : (observe limits (start.parser, start.accounting) (arrivedBytes before)).2.failure =
      none := h.accounting.failure.symm.trans h.clean
  have hbacked := hframed.backed before s.script.arrivals h.came hclean
  rw [h.brings] at hbacked
  exact hbacked.trans (frames_observe _ hframed.frames)

theorem bounded_of_counted (hframed : ServedInFrames limits start) (h : Led limits start before s)
    (hcounted : Counted before.length before.length t) : Bounded limits t := by
  have hlength := led_length hframed h
  have hmessages := hcounted.1
  have hreads := hcounted.2
  unfold Bounded
  omega

/-- A read that fails is the last one. -/
theorem counted_error {u : SessionState} {e : SocketError} (hcounted : Counted messages reads s)
    (hcalls : u.calls = s.calls) :
    Counted messages (reads + 1) (u.called (.read (.error e))) := by
  have hsame : Counted messages reads u := counted_of_calls hcalls hcounted
  refine ⟨?_, ?_⟩
  · rw [messages_called]
    exact hsame.1
  · rw [reads_called_read, hsame.2]

theorem bounded_of_error (hframed : ServedInFrames limits start) (h : Led limits start before s)
    (hcounted : Counted before.length (before.length + 1) t) : Bounded limits t := by
  have hlength := led_length hframed h
  have hmessages := hcounted.1
  have hreads := hcounted.2
  unfold Bounded
  omega

section

variable {onError : SocketError → SessionM (Option WebSocketCloseObservation)}
  {step : Message → SessionM Verdict}

/-- A message that has been read and counted is handed to the step. -/
theorem led_took (h : Led limits start before s) {v w : SessionState} {message : Message} {u u' : Unit}
    (hsync : syncWireCounters s = .ok u v) (hcount : accountInbound limits message v = .ok u' w) :
    Led limits start before w ∧ w.script.arrivals = s.script.arrivals := by
  rcases syncWireCounters_ok.mp hsync with ⟨_, rfl⟩
  rcases accountInbound_ok.mp hcount with ⟨rfl, _, _⟩
  unfold SessionState.countedInbound
  split
  · exact ⟨led_of_same h rfl h.counted rfl ⟨rfl, rfl, rfl⟩, rfl⟩
  · exact ⟨led_of_same h rfl h.counted rfl ⟨rfl, rfl, rfl⟩, rfl⟩

/-- The loop over the reads is bounded: the induction is on the arrivals left,
    and the frames of those read bound their number. -/
theorem readLoop_bounded (hframed : ServedInFrames limits start) (herror : ∀ e, Unread (onError e))
    (hstep : ∀ m, Unread (step m))
    (hwait : ∀ before m u v, Led limits start before u → step m u = .ok none v →
      Led limits start before v ∧ v.script.arrivals = u.script.arrivals)
    {arrivals : List Arrival} (harrivals : s.script.arrivals = arrivals)
    (h : Led limits start before s) :
    Bounded limits (finalState (readLoop limits onError step arrivals s)) := by
  induction arrivals generalizing s before with
  | nil =>
      have hexpire : expire limits s = .ok (.stream (.timedOut .total))
          ((s.observed limits ⟨[], .error (.stream (.timedOut .total))⟩ []).called
            (.read (.error (.stream (.timedOut .total))))) := rfl
      rw [readLoop, state_bind_of_ok hexpire]
      exact bounded_of_error hframed h
        ((herror _ _ _).final (counted_error h.counted (calls_observed _ _ _)))
  | cons arrival rest ih =>
      rw [readLoop]
      refine final_bind (P := Bounded limits) (fun e u hu => by cases hu) (fun answer u hu => ?_)
      cases answer with
      | error e =>
          rw [(receive_ok.mp hu).2]
          exact bounded_of_error hframed h
            ((herror _ _ _).final (counted_error h.counted (calls_observed _ _ _)))
      | ok message =>
          rcases receive_message.mp hu with ⟨hclean, hresult, rfl⟩
          have hread := led_read h harrivals hclean hresult
          -- From here on either the session is over or the step waits on.
          have hover : ∀ v, Counted _ _ v → Bounded limits v :=
            fun v hv => bounded_of_counted hframed hread hv
          refine final_bind (P := Bounded limits)
            (fun e v hv => hover v ((unread_syncWireCounters _ _).error hv hread.counted).1)
            (fun _ v hv => ?_)
          have hsynced := (unread_syncWireCounters _ _).ok hv hread.counted
          refine final_bind (P := Bounded limits)
            (fun e w hw => hover w ((unread_accountInbound _ _).error hw hsynced).1)
            (fun _ w hw => ?_)
          rcases led_took hread hv hw with ⟨htook, hleft⟩
          refine final_bind (P := Bounded limits)
            (fun e x hx => hover x ((hstep _ _ _).error hx htook.counted).1)
            (fun verdict x hx => ?_)
          cases verdict with
          | some close => exact hover x ((hstep _ _ _).ok hx htook.counted)
          | none =>
              rcases hwait _ _ _ _ htook hx with ⟨hled, hscript⟩
              exact ih (hscript.trans hleft) hled

/-- A loop that is done without an error has read messages only. -/
theorem readLoop_led (hgone : ∀ e u close v, onError e u ≠ .ok close v)
    (hwait : ∀ before m verdict u v, Led limits start before u → step m u = .ok verdict v →
      (∀ close, verdict ≠ some (some close)) →
        Led limits start before v ∧ v.script.arrivals = u.script.arrivals)
    {arrivals : List Arrival} (harrivals : s.script.arrivals = arrivals)
    (h : Led limits start before s) (hrun : readLoop limits onError step arrivals s = .ok none t) :
    ∃ after, Led limits start after t := by
  -- By the arrivals; the loop goes on only after a message.
  induction arrivals generalizing s before with
  | nil =>
      rcases state_bind_ok.mp hrun with ⟨e, v, _, hend⟩
      exact absurd hend (hgone _ _ _ _)
  | cons arrival rest ih =>
      rcases state_bind_ok.mp hrun with ⟨answer, v, hv, hend⟩
      cases answer with
      | error e => exact absurd hend (hgone _ _ _ _)
      | ok message =>
          rcases receive_message.mp hv with ⟨hclean, hresult, rfl⟩
          have hread := led_read h harrivals hclean hresult
          rcases state_bind_ok.mp hend with ⟨_, w, hsync, hend⟩
          rcases state_bind_ok.mp hend with ⟨_, x, hcount, hend⟩
          rcases state_bind_ok.mp hend with ⟨verdict, y, hy, hend⟩
          rcases led_took hread hsync hcount with ⟨htook, hleft⟩
          -- An action that closed the session does not go on to the next one.
          cases verdict with
          | some close =>
              rcases state_pure_ok.mp hend with ⟨rfl, rfl⟩
              exact ⟨_, (hwait _ _ _ _ _ htook hy nofun).1⟩
          | none =>
              rcases hwait _ _ _ _ _ htook hy nofun with ⟨hled, hscript⟩
              exact ih (hscript.trans hleft) hled hend

end

/-! ### Actions -/

/-- A message an expectation handles, without closing the session. -/
theorem led_expectationStep {action : WebSocketAction} {expected : Option (List UInt8)} {index : Nat}
    {message : Message} {verdict : Verdict} (h : Led limits start before s)
    (hstep : expectationStep lib limits action expected index message s = .ok verdict t)
    (hverdict : ∀ close, verdict ≠ some (some close)) :
    Led limits start before t ∧ t.script.arrivals = s.script.arrivals := by
  cases expectationStep_ok hstep with
  | @ping payload _ fits sent =>
      have hwritten := led_written (led_recorded h
        ((Message.ping payload).entry inbound index "automatic")) (.reply none) rfl sent
      have hscript : (writeSocket limits payload.length
          (s.recorded ((Message.ping payload).entry inbound index "automatic"))).2.script.arrivals =
          s.script.arrivals := arrivals_writeSocket _
      exact ⟨led_recorded hwritten _, hscript⟩
  | ignored other => exact ⟨led_recorded h _, rfl⟩
  | matched goes matching => exact ⟨led_recorded h _, rfl⟩
  | closed matching fits acknowledged => exact absurd rfl (hverdict _)

/-- A message a closing action waits on after. -/
theorem led_closeStep {index : Nat} {message : Message} (h : Led limits start before s)
    (hstep : closeStep limits index message s = .ok none t) :
    Led limits start before t ∧ t.script.arrivals = s.script.arrivals := by
  cases closeStep_ok hstep with
  | @ping payload _ fits flushed =>
      refine ⟨led_recorded ?_ _, rfl⟩
      have hrecorded := led_recorded h ((Message.ping payload).entry inbound index "automatic")
      have hcalled : Counted before.length before.length
          ((s.recorded ((Message.ping payload).entry inbound index "automatic")).answered.called
            (.reply none)) := counted_called rfl h.counted
      exact led_of_same hrecorded rfl hcalled rfl ⟨rfl, rfl, rfl⟩
  | ignored => exact ⟨led_recorded h _, rfl⟩

theorem bounded_readExpectation (hframed : ServedInFrames limits start) {action : WebSocketAction}
    {expected : Option (List UInt8)} {index : Nat} (h : Led limits start before s) :
    Bounded limits (finalState (readExpectation lib limits action expected index s)) :=
  readLoop_bounded hframed (fun _ => unread_throwSocket) (fun _ => unread_expectationStep)
    (fun _ _ _ _ hu hstep => led_expectationStep hu hstep nofun) rfl h

theorem bounded_executeClientClose (hframed : ServedInFrames limits start) {code index : Nat}
    {reason : Str} (h : Led limits start before s) :
    Bounded limits (finalState (executeClientClose limits code reason index s)) := by
  refine final_bind (fun e u hu => ?_) (fun _ u hu => ?_)
  · exact bounded_of_counted hframed h ((unread_sendRecorded _ _).error hu h.counted).1
  · rw [state_get_bind]
    have hsent : Led limits start before u := by
      rcases state_bind_ok.mp hu with ⟨_, v, hsend, hpush⟩
      rw [push_ok.mp hpush]
      exact led_recorded (led_sent h hsend) _
    have hstep : ∀ m, Unread (closeStep limits index m) := fun _ => unread_closeStep
    refine stays_bind (readLoop_bounded hframed (fun e => ?_) hstep
      (fun _ _ _ _ hv hstepped => led_closeStep hv hstepped) rfl hsent) (fun _ _ hv => hv)
    split
    · exact fun _ _ => .pure
    · exact unread_throwSocket

/-- An action of the plan. -/
theorem actionProgram_bounded (hframed : ServedInFrames limits start) {action : WebSocketAction}
    {index : Nat} {program : SessionM (Option WebSocketCloseObservation)}
    (hprogram : actionProgram lib limits index action = .ok program) (h : Led limits start before s) :
    Bounded limits (finalState (program s)) := by
  -- Sending reads nothing.
  have hsend : ∀ message, Bounded limits (finalState (sendAction limits index message s)) := by
    intro message
    have hunread : Unread (sendAction limits index message) :=
      fun _ _ => .bind (unread_sendRecorded _ _) (fun _ => .pure)
    exact bounded_of_counted hframed h ((hunread _ _).final h.counted)
  -- The remaining actions wait, which `awaiting` bounds.
  cases action with
  | sendText text =>
      cases hprogram
      exact hsend _
  | sendBinary payload | ping payload =>
      simp only [actionProgram, except_bind_ok, except_pure_ok] at hprogram
      rcases hprogram with ⟨data, _, rfl⟩
      exact hsend _
  | expectBinary payload timeout | expectPong payload timeout =>
      simp only [actionProgram, except_bind_ok, except_pure_ok] at hprogram
      rcases hprogram with ⟨data, _, rfl⟩
      exact bounded_readExpectation hframed h
  | close code reason =>
      cases hprogram
      exact bounded_executeClientClose hframed h
  | expectText equals timeout | expectJson pointer equals schema timeout
  | expectClose codes reason timeout =>
      cases hprogram
      exact bounded_readExpectation hframed h

/-- An action after which the session goes on has read messages only. -/
theorem actionProgram_led {action : WebSocketAction} {index : Nat}
    {program : SessionM (Option WebSocketCloseObservation)}
    (hprogram : actionProgram lib limits index action = .ok program) (h : Led limits start before s)
    (hwent : program s = .ok none t) : ∃ after, Led limits start after t := by
  rcases actionProgram_went hprogram hwent with ⟨message, v, _, hsend, rfl⟩ | ⟨_, expected, hread⟩
  · exact ⟨before, led_recorded (led_sent h hsend) _⟩
  · have hgone : ∀ e u close v, (get >>= fun s => throw (socketError .actionTimeout s e) :
        SessionM (Option WebSocketCloseObservation)) u ≠ .ok close v := by
      intro e u close v hok
      simp only [state_get_bind, state_throw_ok] at hok
    exact readLoop_led hgone
      (fun _ _ _ _ _ hu hstep hverdict => led_expectationStep hu hstep hverdict) rfl h hread

/-- A session reads boundedly often, whatever its actions are. -/
theorem runActions_bounded (hframed : ServedInFrames limits start) {actions : List WebSocketAction}
    {index : Nat} {terminal : SessionTerminal} (h : Led limits start before s)
    (hrun : runActions lib limits index actions s = .ok (terminal, t)) : Bounded limits t := by
  induction actions generalizing index s before with
  | nil =>
      cases hrun
      exact bounded_of_counted hframed h h.counted
  | cons action rest ih =>
      rcases runActions_cons.mp hrun with ⟨program, hprogram, hends⟩
      have hfinal := actionProgram_bounded hframed hprogram h
      rcases hends with ⟨close, hclose, _⟩ | ⟨u, hu, hrest⟩ | herror
      · rw [hclose] at hfinal
        exact hfinal
      · rcases actionProgram_led hprogram h hu with ⟨after, hled⟩
        exact ih hled hrest
      · rw [herror] at hfinal
        exact hfinal

/-- The only error of the actions is a payload that does not decode. -/
theorem runActions_error {actions : List WebSocketAction} {index : Nat} {e : ExecError}
    (h : runActions lib limits index actions s = .error e) : e = .invalidSeal := by
  induction actions generalizing index s with
  | nil => cases h
  | cons action rest ih =>
      -- The payload of an action is the only thing that can fail to decode.
      have hdecode : ∀ payload (f : List UInt8 → SessionM (Option WebSocketCloseObservation))
          (e : ExecError),
          (decodeSealedBase64 payload >>= fun data => pure (f data) : Except ExecError _) = .error e →
            e = .invalidSeal := by
        intro payload f e he
        unfold decodeSealedBase64 at he
        cases hdecoded : base64Decode payload with
        | some data => simp only [hdecoded, bind, Except.bind, pure, Except.pure, reduceCtorEq] at he
        | none =>
            simp only [hdecoded, bind, Except.bind, Except.error.injEq] at he
            exact he.symm
      cases hprogram : actionProgram lib limits index action with
      | error e' =>
          simp only [runActions, hprogram, bind, Except.bind, Except.error.injEq] at h
          rw [← h]
          cases action with
          | sendBinary payload | ping payload | expectBinary payload timeout
          | expectPong payload timeout => exact hdecode _ _ _ hprogram
          | sendText text | close code reason | expectText equals timeout
          | expectJson pointer equals schema timeout | expectClose codes reason timeout =>
              cases hprogram
      -- Any other end is a terminal, not an error.
      | ok program =>
          simp only [runActions, hprogram, bind, Except.bind] at h
          split at h
          · cases h
          · exact ih h
          · cases h

/-! ### Servers that never stop -/

theorem arriving_length (server : Nat → Arrival) (n : Nat) : (arriving server n).length = n := by
  rw [arriving, List.length_map, List.length_range]

theorem arriving_take {server : Nat → Arrival} {m n : Nat} (h : m ≤ n) :
    (arriving server n).take m = arriving server m := by
  rw [arriving, ← List.map_take, List.take_range, Nat.min_eq_left h]
  rfl

/-- The arrivals a session has met are the first of the server. -/
theorem arriving_before {server : Nat → Arrival} {n : Nat} {before after : List Arrival}
    (h : arriving server n = before ++ after) : arriving server before.length = before := by
  have hlengths := congrArg List.length h
  rw [arriving_length, List.length_append] at hlengths
  have hlength : before.length ≤ n := by omega
  rw [← arriving_take hlength, h, List.take_left]

/-- What a session is going to read within some arrivals does not depend on
    those behind them. -/
theorem outlook_take (wire : WireParser × WireAccounting) (first rest rest' : List Arrival) :
    (outlook limits wire (first ++ rest)).take first.length =
      (outlook limits wire (first ++ rest')).take first.length := by
  induction first generalizing wire with
  | nil => rfl
  | cons arrival first ih =>
      cases hfailure : wire.2.failure with
      | some cause => rw [outlook_of_failure hfailure, outlook_of_failure hfailure]
      | none =>
          rw [List.cons_append, List.cons_append, outlook_cons hfailure, outlook_cons hfailure]
          cases hnext : (observe limits wire arrival.pieces.flatten).2.failure with
          | some cause => rw [outlook_of_failure hnext, outlook_of_failure hnext]
          | none =>
              simp only [Option.isSome_none, Bool.false_eq_true, if_false, List.cons_append,
                List.nil_append, List.length_cons, List.take_succ_cons]
              rw [ih]

end

/-- For every plan and every server, endless or not, that hands over a message
    for a frame at least, the loops of a session read no more than
    `max_inbound_frames` messages, and with more arrivals than that the session
    ends without reading further. -/
theorem session_bounded {lib : Crates} {plan : WebSocketPlan} {connection : WebSocketConnection}
    (hopened : connection.Opened plan.limits) {server : Nat → Arrival}
    {sends : List (Option StreamError)}
    (hbacked : ∀ n, FrameBacked plan.limits (connection.parser, connection.accounting)
      (arriving server n)) :
    (∀ n terminal t, runActions lib plan.limits 0 plan.actions
        (connection.start ⟨arriving server n, sends⟩) = .ok (terminal, t) →
      t.messages ≤ plan.limits.maxInboundFrames ∧ t.reads ≤ plan.limits.maxInboundFrames + 1) ∧
    ∃ ending, ∀ n, plan.limits.maxInboundFrames < n →
      (runActions lib plan.limits 0 plan.actions
        (connection.start ⟨arriving server n, sends⟩)).map Prod.fst = ending := by
  have hframed : ∀ n, ServedInFrames plan.limits (connection.start ⟨arriving server n, sends⟩) := by
    intro n
    refine ⟨?_, fun before after hcame => ?_⟩
    · rcases hopened with ⟨_, buffered, hwire⟩
      have haccounting : connection.accounting =
          (observe plan.limits (WireParser.new, WireAccounting.default) buffered).2 :=
        congrArg Prod.snd hwire
      change connection.accounting.counters.inboundFrames ≤ _
      rw [haccounting]
      exact frames_observe _ (Nat.zero_le _)
    · rw [← arriving_before hcame]
      exact hbacked before.length
  have hstart : ∀ n, Led plan.limits (connection.start ⟨arriving server n, sends⟩) []
      (connection.start ⟨arriving server n, sends⟩) := fun n => led_start hopened.1 rfl
  have hbounded : ∀ n terminal t, runActions lib plan.limits 0 plan.actions
      (connection.start ⟨arriving server n, sends⟩) = .ok (terminal, t) →
        Bounded plan.limits t :=
    fun n terminal t hrun => runActions_bounded (hframed n) (hstart n) hrun
  refine ⟨hbounded, (runActions lib plan.limits 0 plan.actions (connection.start
    ⟨arriving server (plan.limits.maxInboundFrames + 1), sends⟩)).map Prod.fst, fun n hn => ?_⟩
  -- Two sessions with more arrivals than they can read are going to read the same.
  have halongside : ∀ m, plan.limits.maxInboundFrames < m → ∀ k, plan.limits.maxInboundFrames < k →
      Alongside plan.limits (plan.limits.maxInboundFrames + 1)
        (connection.start ⟨arriving server m, sends⟩)
        (connection.start ⟨arriving server k, sends⟩) := by
    intro m hm k hk
    refine ⟨rfl, rfl, rfl, rfl, rfl, rfl, rfl, ?_⟩
    have hfirst : ∀ n, plan.limits.maxInboundFrames < n → arriving server n =
        arriving server (plan.limits.maxInboundFrames + 1) ++
          (arriving server n).drop (plan.limits.maxInboundFrames + 1) := by
      intro n hn
      rw [← arriving_take (Nat.succ_le_of_lt hn), List.take_append_drop]
    have hlook := @outlook_take plan.limits (connection.parser, connection.accounting)
      (arriving server (plan.limits.maxInboundFrames + 1))
      ((arriving server m).drop (plan.limits.maxInboundFrames + 1))
      ((arriving server k).drop (plan.limits.maxInboundFrames + 1))
    rw [← hfirst m hm, ← hfirst k hk, arriving_length] at hlook
    exact hlook
  have hsame : ∀ m, plan.limits.maxInboundFrames < m → ∀ k, plan.limits.maxInboundFrames < k →
      ∀ terminal t, runActions lib plan.limits 0 plan.actions
        (connection.start ⟨arriving server m, sends⟩) = .ok (terminal, t) →
      ∃ v, runActions lib plan.limits 0 plan.actions
        (connection.start ⟨arriving server k, sends⟩) = .ok (terminal, v) :=
    fun m hm k hk terminal t hrun =>
      runActions_alongside (halongside m hm k hk) hrun (hbounded m terminal t hrun).2
  have hlast := Nat.lt_succ_self plan.limits.maxInboundFrames
  cases hrun : runActions lib plan.limits 0 plan.actions
      (connection.start ⟨arriving server n, sends⟩) with
  | ok r =>
      rcases hsame n hn _ hlast r.1 r.2 hrun with ⟨v, hv⟩
      rw [hv]
      rfl
  | error e =>
      cases hrun' : runActions lib plan.limits 0 plan.actions
          (connection.start ⟨arriving server (plan.limits.maxInboundFrames + 1), sends⟩) with
      | ok r =>
          rcases hsame _ hlast n hn r.1 r.2 hrun' with ⟨v, hv⟩
          rw [hrun] at hv
          cases hv
      | error e' => rw [runActions_error hrun, runActions_error hrun']

/-! ### A server that pings -/

/-- A server that sends empty pings for ever. -/
def pinging (_ : Nat) : Arrival := ⟨[[0x89, 0x00]], .ok (.ping [])⟩

/-- A ping is a frame of two bytes. -/
theorem observe_ping {limits : WebSocketLimits} {accounting : WireAccounting}
    (h : (observe limits (WireParser.new, accounting) [0x89, 0x00]).2.failure = none) :
    (observe limits (WireParser.new, accounting) [0x89, 0x00]).1 = WireParser.new ∧
      (observe limits (WireParser.new, accounting) [0x89, 0x00]).2.counters.inboundFrames =
        accounting.counters.inboundFrames + 1 := by
  -- An earlier failure would have stayed.
  have hclean : accounting.failure = none := by
    by_contra hfailure
    rw [observe_of_failure (Option.isSome_iff_ne_none.mpr hfailure)] at h
    exact hfailure h
  -- The first byte waits for the second, which completes a header without payload.
  have hfirst : observeByte limits (WireParser.new, accounting) 0x89 = (⟨[0x89], 0⟩, accounting) := by
    rw [observeByte, hclean]
    rfl
  have hsecond : observeByte limits (⟨[0x89], 0⟩, accounting) 0x00 =
      if (accounting.reserveInbound limits 0).failure.isSome then
        (⟨[0x89, 0x00], 0⟩, accounting.reserveInbound limits 0)
      else (⟨[], 0⟩, accounting.reserveInbound limits 0) := by
    rw [observeByte, hclean]
    rfl
  have hboth : observe limits (WireParser.new, accounting) [0x89, 0x00] =
      observeByte limits (⟨[0x89], 0⟩, accounting) 0x00 := by
    rw [← hfirst]
    rfl
  rw [hboth, hsecond] at h ⊢
  unfold WireAccounting.reserveInbound at h ⊢
  -- The frame is counted where the limit allows it.
  by_cases hexceeds : WireAccounting.exceeds limits accounting.counters.inboundFrames
      accounting.inboundReservedBytes limits.maxInboundFrames limits.maxInboundBytes 0 = true
  · rw [if_pos hexceeds] at h
    cases h
  · rw [if_neg hexceeds]
    simp only [hclean, Option.isSome_none, Bool.false_eq_true, if_false]
    exact ⟨rfl, trivial⟩

/-- The pings are as many as their frames. -/
theorem pinging_backed (limits : WebSocketLimits) (n : Nat) :
    FrameBacked limits (WireParser.new, WireAccounting.default) (arriving pinging n) := by
  -- As many frames are counted as arrivals came, one ping each.
  have hframes : ∀ n, (observe limits (WireParser.new, WireAccounting.default)
      (arrivedBytes (arriving pinging n))).2.failure = none →
      (observe limits (WireParser.new, WireAccounting.default)
        (arrivedBytes (arriving pinging n))).1 = WireParser.new ∧
      (observe limits (WireParser.new, WireAccounting.default)
        (arrivedBytes (arriving pinging n))).2.counters.inboundFrames = n := by
    intro n
    induction n with
    | zero => exact fun _ => ⟨rfl, rfl⟩
    | succ n ih =>
        have hmore : arrivedBytes (arriving pinging (n + 1)) =
            arrivedBytes (arriving pinging n) ++ [0x89, 0x00] := by
          rw [arriving, List.range_succ, List.map_append]
          exact arrivedBytes_concat _ _
        intro hclean
        rw [hmore] at hclean ⊢
        rcases ih ( observe_failure_prefix hclean) with ⟨hparser, hcount⟩
        rw [observe_append] at hclean ⊢
        have hwire : observe limits (WireParser.new, WireAccounting.default)
            (arrivedBytes (arriving pinging n)) = (WireParser.new,
              (observe limits (WireParser.new, WireAccounting.default)
                (arrivedBytes (arriving pinging n))).2) := Prod.ext hparser rfl
        rw [hwire] at hclean ⊢
        rcases observe_ping hclean with ⟨hdone, hcounted⟩
        exact ⟨hdone, hcounted.trans (congrArg (· + 1) hcount)⟩
  intro hclean
  rw [(hframes n hclean).2]
  exact List.countP_le_length.trans (arriving_length pinging n).le

/-- A session with this server ends, although the server does not. -/
theorem session_bounded_pinging : ∃ ending, ∀ n, 3 < n →
    (runActions referenceCrates (sessionLimits 3 125) 0 pingActions
      (sessionConnection.start ⟨arriving pinging n, []⟩)).map Prod.fst = ending :=
  (@session_bounded referenceCrates (sessionPlan (sessionLimits 3 125) pingActions) sessionConnection
    (sessionConnection_opened _) pinging [] (pinging_backed _)).2

end Kahea
