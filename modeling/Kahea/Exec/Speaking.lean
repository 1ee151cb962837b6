import Kahea.Base.Triples
import Kahea.Exec.Soundness

/-!
# What a Session Says

What the client sends in a session that returns an observation, whether it
passed or failed and whatever the server does.

`passed_completes` tells the calls of a session that passes. A session that fails
or breaks off has sent something too, and that cannot be undone, so what matters
of it is that nothing was sent that the plan does not have. Here every run is taken
apart: the actions before the one it stopped at have completed, and that one has
sent its own message or nothing. It follows that the messages are those of the
plan in order up to some point (`Says.messages`), that none is sent before the
expectations ahead of it were met, and that the client answers nothing but a ping
or a close it has just read.

## Main definitions

* `WebSocketAction.message`: The message of an action that sends.
* `sentMessages`: The messages of a run that were sent for an action.
* `Prompt`: Every automatic answer follows what it answers.
* `Says`: The calls of a run over some actions.

## Theorems

* `actionProgram_triple`: What one action adds to the calls.
* `runActions_says`: What all actions add.
* `session_says`: What a session says.
-/

namespace Kahea

/-! ### Messages and answers -/

/-- The message an action sends, if it is one that sends. -/
def WebSocketAction.message : WebSocketAction → Option Message
  | sendText text => some (.text text)
  | sendBinary payload => (base64Decode payload).map .binary
  | ping payload => (base64Decode payload).map .ping
  | close code reason => some (.close (some (code, reason)))
  | expectText _ _ | expectBinary _ _ | expectJson _ _ _ _ | expectPong _ _ | expectClose _ _ _ =>
      none

/-- The message of a call that sends one for an action. -/
def SocketCall.message : SocketCall → Option Message
  | send message _ => some message
  | read _ | reply _ => none

/-- The messages sent for actions. -/
def sentMessages (calls : List SocketCall) : List Message := calls.filterMap SocketCall.message

/-- What is sent in two parts of a session. -/
theorem sentMessages_append (first second : List SocketCall) :
    sentMessages (first ++ second) = sentMessages first ++ sentMessages second :=
  List.filterMap_append

/-- The message asks for an automatic answer. -/
def Message.AsksAnswer (message : Message) : Prop :=
  (∃ payload, message = .ping payload) ∨ ∃ frame, message = .close frame

/-- Every automatic answer follows the message it answers. -/
def Prompt (calls : List SocketCall) : Prop :=
  ∀ before failure after, calls = before ++ .reply failure :: after →
    ∃ earlier message, before = earlier ++ [.read (.ok message)] ∧ message.AsksAnswer

theorem prompt_nil : Prompt [] := fun before failure after h => by cases before <;> cases h

/-- One more call that is no answer, or one that follows what it answers. -/
theorem Prompt.snoc {calls : List SocketCall} (h : Prompt calls) {call : SocketCall}
    (hcall : ∀ failure, call = .reply failure →
      ∃ earlier message, calls = earlier ++ [.read (.ok message)] ∧ message.AsksAnswer) :
    Prompt (calls ++ [call]) := by
  intro before failure after heq
  rcases List.eq_nil_or_concat after with rfl | ⟨rest, last, rfl⟩
  · have hsplit : calls = before ∧ [call] = [.reply failure] :=
      List.append_inj' heq rfl
    rcases hsplit with ⟨rfl, hlast⟩
    exact hcall failure (List.cons.inj hlast).1
  · rw [List.concat_eq_append, ← List.cons_append, ← List.append_assoc] at heq
    exact h before failure rest (List.append_inj' heq rfl).1

/-! ### One action -/

/-- The calls after some that were there before: what was sent since, and that all
    answers are prompt. -/
structure Since (earlier : List SocketCall) (sent : List Message) (calls : List SocketCall) :
    Prop where
  added : ∃ own, calls = earlier ++ own ∧ sentMessages own = sent
  prompt : Prompt calls

namespace Since

variable {earlier calls : List SocketCall} {sent : List Message}

/-- Nothing is sent yet. -/
theorem start (h : Prompt earlier) : Since earlier [] earlier :=
  ⟨⟨[], (List.append_nil _).symm, rfl⟩, h⟩

/-- A reading sends nothing. -/
theorem read (h : Since earlier sent calls) (answer : Except SocketError Message) :
    Since earlier sent (calls ++ [.read answer]) := by
  rcases h with ⟨⟨own, rfl, hsent⟩, hprompt⟩
  refine ⟨⟨own ++ [.read answer], List.append_assoc _ _ _, ?_⟩, hprompt.snoc (fun _ h => nomatch h)⟩
  rw [sentMessages_append, hsent]
  exact List.append_nil _

/-- An own message. -/
theorem send (h : Since earlier sent calls) (message : Message) (failure : Option SocketError) :
    Since earlier (sent ++ [message]) (calls ++ [.send message failure]) := by
  rcases h with ⟨⟨own, rfl, hsent⟩, hprompt⟩
  refine ⟨⟨own ++ [.send message failure], List.append_assoc _ _ _, ?_⟩,
    hprompt.snoc (fun _ h => nomatch h)⟩
  rw [sentMessages_append, hsent]
  rfl

/-- The answer to the message that was read last. -/
theorem reply {message : Message} (h : Since earlier sent (calls ++ [.read (.ok message)]))
    (hmessage : message.AsksAnswer) (failure : Option SocketError) :
    Since earlier sent (calls ++ [.read (.ok message)] ++ [.reply failure]) := by
  rcases h with ⟨⟨own, hown, hsent⟩, hprompt⟩
  refine ⟨⟨own ++ [.reply failure], by rw [hown, List.append_assoc], ?_⟩,
    hprompt.snoc (fun _ _ => ⟨calls, message, rfl, hmessage⟩)⟩
  rw [sentMessages_append, hsent]
  exact List.append_nil _

end Since

section

variable {lib : Crates} {limits : WebSocketLimits}

/-- A condition on the calls of a session. -/
abbrev OnCalls (C : List SocketCall → Prop) (s : SessionState) : Prop := C s.calls

section

variable {C : List SocketCall → Prop}

theorem quiet_push {entry : TranscriptEntry} :
    Keeps (OnCalls C) (fun _ => True) (push entry) := .modify (fun _ h => h)

/-- The counters are no calls. -/
theorem quiet_syncWireCounters : Keeps (OnCalls C) (fun _ => True) syncWireCounters := by
  refine .bind (.modify (fun _ h => h)) (fun _ => .bind .get (fun s => ?_))
  cases s.accounting.failure with
  | some cause => exact .throw trivial
  | none => exact .pure

theorem quiet_checkSocket {phase : WebSocketTerminalCause} {failure : Option SocketError} :
    Keeps (OnCalls C) (fun _ => True) (checkSocket phase failure) := by
  refine .bind .get (fun s => ?_)
  cases failure with
  | some e => exact .throw trivial
  | none => exact .pure

/-- Accounting is no call. -/
theorem quiet_accountInbound {message : Message} :
    Keeps (OnCalls C) (fun _ => True) (accountInbound limits message) := by
  refine .bind (.modify (fun s h => ?_)) (fun _ => .bind .get (fun s => .demand trivial))
  rw [OnCalls, calls_countedInbound]
  exact h

theorem quiet_accountAutomaticControl {bytes : Nat} :
    Keeps (OnCalls C) (fun _ => True) (accountAutomaticControl limits bytes) :=
  .bind .get (fun _ => .demand trivial)

end

variable {earlier : List SocketCall} {sent : List Message}

/-- The last call has read a message. -/
structure JustRead (earlier : List SocketCall) (sent : List Message) (message : Message)
    (calls : List SocketCall) : Prop where
  since : Since earlier sent calls
  last : ∃ before, calls = before ++ [.read (.ok message)]

/-- An answer to what was just read. -/
theorem JustRead.reply {message : Message} {calls : List SocketCall}
    (h : JustRead earlier sent message calls) (hmessage : message.AsksAnswer)
    (failure : Option SocketError) : Since earlier sent (calls ++ [.reply failure]) := by
  rcases h with ⟨hsince, before, rfl⟩
  exact hsince.reply hmessage failure

/-- The socket answers what was read last. -/
theorem triple_socketReply {message : Message} {payload : Nat} (hmessage : message.AsksAnswer) :
    Triple (OnCalls (JustRead earlier sent message)) (socketReply limits payload)
      (fun _ => OnCalls (Since earlier sent)) (OnCalls (Since earlier sent)) := by
  intro s hs
  refine ⟨fun failure t hrun => ?_, fun e t hrun => by cases hrun⟩
  cases hrun
  rw [OnCalls, calls_called, calls_writeSocket]
  exact hs.reply hmessage _

/-- The answer the library writes on a flush. -/
theorem triple_socketFlush {message : Message} (hmessage : message.AsksAnswer) :
    Triple (OnCalls (JustRead earlier sent message)) socketFlush
      (fun _ => OnCalls (Since earlier sent)) (OnCalls (Since earlier sent)) := by
  intro s hs
  refine ⟨fun failure t hrun => ?_, fun e t hrun => by cases hrun⟩
  cases hrun
  rw [OnCalls, calls_called, calls_answered]
  exact hs.reply hmessage _

/-- An acknowledged message was one that asks for an answer. -/
theorem triple_acknowledge {message : Message} {index : Nat} (hmessage : message.AsksAnswer) :
    Triple (OnCalls (JustRead earlier sent message)) (acknowledge limits index message)
      (fun _ => OnCalls (Since earlier sent)) (OnCalls (Since earlier sent)) := by
  refine .bind (triple_socketReply hmessage) (fun failure => ?_)
  cases failure with
  | some e => exact .pure (fun _ h => h)
  | none =>
      exact .keep quiet_syncWireCounters (fun _ h => h) (fun _ => .of_keeps quiet_push)

/-- A pass over a message sends nothing but its answer. -/
theorem triple_expectationStep {action : WebSocketAction} {expected : Option (List UInt8)}
    {index : Nat} {message : Message} :
    Triple (OnCalls (JustRead earlier sent message))
      (expectationStep lib limits action expected index message)
      (fun _ => OnCalls (Since earlier sent)) (OnCalls (Since earlier sent)) := by
  -- What was just read is part of what came since.
  have hsince : ∀ s, OnCalls (JustRead earlier sent message) s → OnCalls (Since earlier sent) s :=
    fun _ h => h.since
  -- By the message: a ping and a close are answered.
  cases message with
  | ping payload =>
      refine .keep quiet_push hsince (fun _ => .keep quiet_accountAutomaticControl hsince (fun _ => ?_))
      refine .bind (triple_socketReply (Or.inl ⟨payload, rfl⟩)) (fun _ => ?_)
      exact .keep quiet_checkSocket (fun _ h => h) (fun _ =>
        .keep quiet_syncWireCounters (fun _ h => h) (fun _ =>
          .keep quiet_push (fun _ h => h) (fun _ => .pure (fun _ h => h))))
  | pong payload => exact .keep quiet_push hsince (fun _ => .pure hsince)
  | text _ | binary _ =>
      exact .keep quiet_push hsince (fun _ => .bind (.demand hsince hsince) (fun _ =>
        .pure (fun _ h => h)))
  | close frame =>
      refine .keep quiet_push hsince (fun _ => .keep quiet_accountAutomaticControl hsince (fun _ => ?_))
      exact .bind (triple_acknowledge (Or.inr ⟨frame, rfl⟩)) (fun _ =>
        .bind (.demand (fun _ h => h) (fun _ h => h)) (fun _ => .pure (fun _ h => h)))
  | frame payload => exact .keep quiet_push hsince (fun _ => .throw hsince)

/-- One round of the wait for a close. -/
theorem triple_closeStep {index : Nat} {message : Message} :
    Triple (OnCalls (JustRead earlier sent message)) (closeStep limits index message)
      (fun _ => OnCalls (Since earlier sent)) (OnCalls (Since earlier sent)) := by
  have hsince : ∀ s, OnCalls (JustRead earlier sent message) s → OnCalls (Since earlier sent) s :=
    fun _ h => h.since
  cases message with
  | ping payload =>
      refine .keep quiet_push hsince (fun _ => .keep quiet_accountAutomaticControl hsince (fun _ => ?_))
      refine .bind (triple_socketFlush (Or.inl ⟨payload, rfl⟩)) (fun _ => ?_)
      exact .keep quiet_checkSocket (fun _ h => h) (fun _ =>
        .keep quiet_syncWireCounters (fun _ h => h) (fun _ =>
          .keep quiet_push (fun _ h => h) (fun _ => .pure (fun _ h => h))))
  | pong payload => exact .keep quiet_push hsince (fun _ => .pure hsince)
  | text text => exact .keep quiet_push hsince (fun _ => .throw hsince)
  | binary data => exact .keep quiet_push hsince (fun _ => .throw hsince)
  | close frame => exact .keep quiet_push hsince (fun _ => .pure hsince)
  | frame payload => exact .keep quiet_push hsince (fun _ => .throw hsince)

/-- What is known after a read: of one that succeeds, that it was the last call. -/
def AfterRead (earlier : List SocketCall) (sent : List Message) :
    Except SocketError Message → List SocketCall → Prop
  | .ok message => JustRead earlier sent message
  | .error _ => Since earlier sent

/-- A reading, whatever it gives. -/
theorem triple_receive {arrival : Arrival} {rest : List Arrival} :
    Triple (OnCalls (Since earlier sent)) (receive limits arrival rest)
      (fun answer => OnCalls (AfterRead earlier sent answer)) (OnCalls (Since earlier sent)) := by
  intro s hs
  refine ⟨fun answer t hrun => ?_, fun e t hrun => by cases hrun⟩
  have hcalls : t.calls = s.calls ++ [.read answer] := by
    cases hrun
    rw [calls_called, calls_observed]
  have hread := hs.read answer
  rw [← hcalls] at hread
  cases answer with
  | ok message => exact ⟨hread, s.calls, hcalls⟩
  | error e => exact hread

/-- A loop over the reads sends nothing but answers when its passes do not. -/
theorem triple_readLoop {onError : SocketError → SessionM (Option WebSocketCloseObservation)}
    {step : Message → SessionM Verdict} {arrivals : List Arrival}
    (herror : ∀ e, Keeps (OnCalls (Since earlier sent)) (fun _ => True) (onError e))
    (hstep : ∀ message, Triple (OnCalls (JustRead earlier sent message)) (step message)
      (fun _ => OnCalls (Since earlier sent)) (OnCalls (Since earlier sent))) :
    Triple (OnCalls (Since earlier sent)) (readLoop limits onError step arrivals)
      (fun _ => OnCalls (Since earlier sent)) (OnCalls (Since earlier sent)) := by
  -- By the arrivals, the invariant being what came since the last own message.
  induction arrivals with
  | nil =>
      have hexpire : Keeps (OnCalls (Since earlier sent)) (fun _ => True) (expire limits) :=
        fun s hs => hs.read _
      exact .keep hexpire (fun _ h => h) (fun e => .of_keeps (herror e))
  | cons arrival rest ih =>
      refine .bind triple_receive (fun answer => ?_)
      cases answer with
      | error e => exact .of_keeps (herror e)
      | ok message =>
          refine .keep quiet_syncWireCounters (fun _ h => h.since) (fun _ =>
            .keep quiet_accountInbound (fun _ h => h.since) (fun _ =>
              .bind (hstep message) (fun verdict => ?_)))
          cases verdict with
          | some close => exact .pure (fun _ h => h)
          | none => exact ih

theorem quiet_socketError {phase : WebSocketTerminalCause} {e : SocketError}
    {C : List SocketCall → Prop} :
    Keeps (OnCalls C) (fun _ => True)
      (do throw (socketError phase (← get) e) : SessionM (Option WebSocketCloseObservation)) :=
  .bind .get (fun _ => .throw trivial)

/-- The loop of an expectation sends nothing of its own. -/
theorem triple_readExpectation {action : WebSocketAction} {expected : Option (List UInt8)}
    {index : Nat} :
    Triple (OnCalls (Since earlier sent)) (readExpectation lib limits action expected index)
      (fun _ => OnCalls (Since earlier sent)) (OnCalls (Since earlier sent)) :=
  .keep .get (fun _ h => h) (fun _ =>
    triple_readLoop (fun _ => quiet_socketError) (fun _ => triple_expectationStep))

/-! ### Actions -/

/-- The calls of an action that may have failed: it has sent its own message, or
    nothing. -/
def Attempted (earlier : List SocketCall) (own : Option Message) (calls : List SocketCall) : Prop :=
  ∃ sent, sent <+: own.toList ∧ Since earlier sent calls

theorem attempted_none {own : Option Message} {calls : List SocketCall}
    (h : Since earlier [] calls) : Attempted earlier own calls :=
  ⟨[], List.nil_prefix, h⟩

theorem attempted_some {message : Message} {calls : List SocketCall}
    (h : Since earlier [message] calls) : Attempted earlier (some message) calls :=
  ⟨[message], List.prefix_refl _, h⟩

/-- An own message, also where it fails. -/
theorem triple_sendMessage {message : Message} :
    Triple (OnCalls (Since earlier [])) (sendMessage limits message)
      (fun _ => OnCalls (Since earlier [message]))
      (OnCalls (Attempted earlier (some message))) := by
  have hsend : Triple (OnCalls (Since earlier [])) (socketSend limits message)
      (fun _ => OnCalls (Since earlier [message])) (OnCalls (Attempted earlier (some message))) := by
    intro s hs
    refine ⟨fun failure t hrun => ?_, fun e t hrun => by cases hrun⟩
    cases hrun
    rw [OnCalls, calls_called, calls_writeSocket]
    exact hs.send message _
  have hsent : ∀ s, OnCalls (Since earlier [message]) s →
      OnCalls (Attempted earlier (some message)) s := fun _ h => attempted_some h
  refine .keep .get (fun _ h => attempted_none h) (fun _ => .bind (.demand (fun _ h => h)
    (fun _ h => attempted_none h)) (fun _ => .bind hsend (fun _ => ?_)))
  refine .keep quiet_checkSocket hsent (fun _ => .keep quiet_syncWireCounters hsent (fun _ => ?_))
  refine .modify (fun s h => ?_)
  rw [OnCalls, calls_countedOutbound]
  exact h

theorem triple_sendRecorded {index : Nat} {message : Message} :
    Triple (OnCalls (Since earlier [])) (sendRecorded limits index message)
      (fun _ => OnCalls (Since earlier [message]))
      (OnCalls (Attempted earlier (some message))) :=
  .bind triple_sendMessage (fun _ => .weaken_error (.of_keeps quiet_push) (fun _ h => attempted_some h))

/-- What one action adds to the calls, whether it succeeds or fails. -/
theorem actionProgram_triple {action : WebSocketAction} {index : Nat}
    {program : SessionM (Option WebSocketCloseObservation)}
    (h : actionProgram lib limits index action = .ok program) :
    Triple (OnCalls (Since earlier [])) program
      (fun _ => OnCalls (Attempted earlier action.message))
      (OnCalls (Attempted earlier action.message)) := by
  have hsend : ∀ message, Triple (OnCalls (Since earlier [])) (sendAction limits index message)
      (fun _ => OnCalls (Attempted earlier (some message)))
      (OnCalls (Attempted earlier (some message))) :=
    fun message => .bind triple_sendRecorded (fun _ => .pure (fun _ hs => attempted_some hs))
  have hread : ∀ expected, Triple (OnCalls (Since earlier []))
      (readExpectation lib limits action expected index)
      (fun _ => OnCalls (Attempted earlier action.message))
      (OnCalls (Attempted earlier action.message)) :=
    fun expected => (triple_readExpectation.weaken_error (fun _ hs => attempted_none hs)).weaken_ok
      (fun _ _ hs => attempted_none hs)
  cases action with
  | sendText text =>
      cases h
      exact hsend _
  | sendBinary payload | ping payload =>
      simp only [actionProgram, except_bind_ok, except_pure_ok] at h
      rcases h with ⟨data, hdata, rfl⟩
      rw [WebSocketAction.message, decodeSealedBase64_ok hdata]
      exact hsend _
  | expectBinary payload timeout | expectPong payload timeout =>
      simp only [actionProgram, except_bind_ok, except_pure_ok] at h
      rcases h with ⟨data, _, rfl⟩
      exact hread _
  | close code reason =>
      cases h
      have hsent : ∀ t, OnCalls (Since earlier [.close (some (code, reason))]) t →
          OnCalls (Attempted earlier (some (.close (some (code, reason))))) t :=
        fun _ hs => attempted_some hs
      -- A peer that is gone ends the wait for its close.
      refine .bind triple_sendRecorded (fun _ => .keep .get hsent (fun s => .bind
        ((triple_readLoop (fun e => ?_) (fun _ => triple_closeStep)).weaken_error hsent)
        (fun _ => .pure hsent)))
      split
      · exact .pure
      · exact quiet_socketError
  | expectText equals timeout | expectJson pointer equals schema timeout
  | expectClose codes reason timeout =>
      cases h
      exact hread _

/-! ### All actions -/

theorem sentMessages_waited {calls : List SocketCall} (h : Waited calls) :
    sentMessages calls = [] := by
  refine List.filterMap_eq_nil_iff.mpr (fun call hcall => ?_)
  have hcontrol := h call hcall
  cases call with
  | send message failure => exact hcontrol.elim
  | read answer | reply failure => rfl

/-- An action that succeeds has sent its own message. -/
theorem completes_sent {action : WebSocketAction} {calls : List SocketCall}
    (h : Completes lib action calls) : sentMessages calls = action.message.toList := by
  have hread : ∀ waiting last, Waited waiting → sentMessages last = [] →
      sentMessages (waiting ++ last) = [] := by
    intro waiting last hwaited hlast
    rw [sentMessages_append, sentMessages_waited hwaited, hlast, List.append_nil]
  cases h with
  | sendText text => rfl
  | sendBinary decodes | ping decodes =>
      rw [WebSocketAction.message, decodes]
      rfl
  | expectText hwaited | expectBinary hwaited | expectJson hwaited | expectPong hwaited
  | expectClose hwaited => exact hread _ _ hwaited rfl
  | closeFrame hwaited | closed hwaited =>
      exact congrArg (List.cons _) (hread _ _ hwaited rfl)

/-- The calls of a run over some actions: those before the one it stopped at have
    completed in order, and that one has sent its own message or nothing. -/
def Says (lib : Crates) (actions : List WebSocketAction) (calls : List SocketCall) : Prop :=
  ∃ done rest segments last, actions = done ++ rest ∧ calls = segments.flatten ++ last ∧
    List.Forall₂ (Completes lib) done segments ∧
    sentMessages last <+: (rest.head?.bind WebSocketAction.message).toList

theorem says_nil {actions : List WebSocketAction} : Says lib actions [] :=
  ⟨[], actions, [], [], rfl, rfl, .nil, List.nil_prefix⟩

theorem Says.cons {action : WebSocketAction} {actions : List WebSocketAction}
    {first calls : List SocketCall} (h : Says lib actions calls) (hfirst : Completes lib action first) :
    Says lib (action :: actions) (first ++ calls) := by
  rcases h with ⟨done, rest, segments, last, rfl, rfl, hdone, hlast⟩
  exact ⟨action :: done, rest, first :: segments, last, rfl, (List.append_assoc _ _ _).symm,
    .cons hfirst hdone, hlast⟩

theorem sentMessages_completed {actions : List WebSocketAction} {segments : List (List SocketCall)}
    (h : List.Forall₂ (Completes lib) actions segments) :
    sentMessages segments.flatten = actions.filterMap WebSocketAction.message := by
  induction h with
  | nil => rfl
  | @cons action first actions segments hfirst hrest ih =>
      rw [List.flatten_cons, sentMessages_append, completes_sent hfirst, ih, List.filterMap_cons]
      cases action.message <;> rfl

/-- The messages are those of the actions in order, up to some point. -/
theorem Says.messages {actions : List WebSocketAction} {calls : List SocketCall}
    (h : Says lib actions calls) :
    sentMessages calls <+: actions.filterMap WebSocketAction.message := by
  rcases h with ⟨done, rest, segments, last, rfl, rfl, hdone, hlast⟩
  rw [sentMessages_append, sentMessages_completed hdone, List.filterMap_append,
    List.prefix_append_right_inj]
  cases rest with
  | nil => exact hlast
  | cons action rest =>
      refine hlast.trans ?_
      rw [List.head?_cons, Option.bind_some, List.filterMap_cons]
      cases action.message with
      | none => exact List.nil_prefix
      | some message => exact ⟨_, rfl⟩

/-- A run over some actions adds the calls of these and answers at once. -/
theorem runActions_says {actions : List WebSocketAction} {index : Nat} {s t : SessionState}
    {terminal : SessionTerminal} (hs : Prompt s.calls)
    (h : runActions lib limits index actions s = .ok (terminal, t)) :
    (∃ own, t.calls = s.calls ++ own ∧ Says lib actions own) ∧ Prompt t.calls := by
  induction actions generalizing index s with
  | nil =>
      cases h
      exact ⟨⟨[], (List.append_nil _).symm, says_nil⟩, hs⟩
  | cons action rest ih =>
      rcases runActions_cons.mp h with ⟨program, hprogram, hended | ⟨u, hu, hrest⟩ | hfailed⟩
      -- The action closed the session, so it is the last.
      · rcases hended with ⟨close, hok, _⟩
        rcases actionProgram_completes hprogram hok with ⟨own, hown, hcompletes, _⟩
        rcases (actionProgram_triple hprogram).ok hok (.start hs) with ⟨_, _, hsince⟩
        refine ⟨⟨own, hown, ?_⟩, hsince.prompt⟩
        rw [← List.append_nil own]
        exact says_nil.cons hcompletes
      -- It passed, and the rest says what remains.
      · rcases actionProgram_completes hprogram hu with ⟨own, hown, hcompletes, _⟩
        rcases (actionProgram_triple hprogram).ok hu (.start hs) with ⟨_, _, hsince⟩
        rcases ih hsince.prompt hrest with ⟨⟨later, hlater, hsays⟩, hprompt⟩
        refine ⟨⟨own ++ later, ?_, hsays.cons hcompletes⟩, hprompt⟩
        rw [hlater, hown, List.append_assoc]
      -- It failed, and what it said is a part of it.
      · rcases (actionProgram_triple hprogram).error hfailed (.start hs) with ⟨sent, hsent, hsince⟩
        rcases hsince.added with ⟨own, hown, howned⟩
        refine ⟨⟨own, hown, [], action :: rest, [], own, rfl, rfl, .nil, ?_⟩, hsince.prompt⟩
        rw [howned]
        exact hsent

/-- What a session that returns an observation says: its calls are those of the
    actions before the one it stopped at, each completed, and after them that one has
    sent its own message or nothing; so the messages are those of the plan in order up
    to some point, and everything else that goes out answers the ping or close just
    read. -/
theorem session_says {world : World} {plan : WebSocketPlan} {connection : WebSocketConnection}
    {past : List Event} {observation : WebSocketObservation}
    (h : (executeConnectedWebsocket lib world plan connection past).1 =
      .ok (.observation observation)) :
    ∃ terminal state, runActions lib plan.limits 0 plan.actions
        (connection.start (world.session past)) = .ok (terminal, state) ∧
      Says lib plan.actions state.calls ∧
      sentMessages state.calls <+: plan.actions.filterMap WebSocketAction.message ∧
      Prompt state.calls := by
  rcases executeConnectedWebsocket_ok h with ⟨terminal, state, hrun, _⟩
  have hstart : Prompt (connection.start (world.session past)).calls := prompt_nil
  rcases runActions_says hstart hrun with ⟨⟨own, hown, hsays⟩, hprompt⟩
  have hcalls : state.calls = own := hown
  rw [← hcalls] at hsays
  exact ⟨terminal, state, hrun, hsays, hsays.messages, hprompt⟩

end

/-- A session that asks, is pinged and is answered with another text. -/
def misheardScript : SessionScript :=
  { arrivals := [⟨[[0x89, 0x00]], .ok (.ping [])⟩, ⟨[[0x81, 0x02, 0x68, 0x69]], .ok (.text "hi")⟩]
    sends := [] }

def askingActions : List WebSocketAction :=
  [.sendText "who", .expectText "me" none, .sendText "and", .close 1000 "done"]

/-- The session fails, and what it has sent is the first of its plan's messages. -/
theorem session_says_misheard :
    ∃ observation, (executeConnectedWebsocket referenceCrates (referenceWorld.meeting misheardScript)
        (sessionPlan (sessionLimits 8 125) askingActions) sessionConnection []).1 =
          .ok (.observation observation) ∧
      observation.outcome = .failed ∧ ∃ terminal state,
        runActions referenceCrates (sessionLimits 8 125) 0 askingActions
          (sessionConnection.start misheardScript) = .ok (terminal, state) ∧
        Says referenceCrates askingActions state.calls ∧
        sentMessages state.calls <+: askingActions.filterMap WebSocketAction.message ∧
        Prompt state.calls := by
  have hrun : ((executeConnectedWebsocket referenceCrates (referenceWorld.meeting misheardScript)
      (sessionPlan (sessionLimits 8 125) askingActions) sessionConnection []).1.toOption.map
        WebSocketConnectResult.outcome) = some (some .failed) := by
    decide +kernel
  rcases exists_ok_of_toOption hrun with ⟨result, hok, houtcome⟩
  rcases WebSocketConnectResult.outcome_some houtcome with ⟨observation, rfl, hfailed⟩
  exact ⟨observation, hok, hfailed, session_says hok⟩

end Kahea
