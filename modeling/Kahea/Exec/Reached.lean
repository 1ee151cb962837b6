import Kahea.Exec.Waiting

/-!
# Reached States

The states of a session between two of its steps.

`Reached` are the states in which every action before an index has succeeded,
and `Awaits` those in which an expectation has read messages and waits on. A
run of the whole session goes through both: it is the run of the actions left,
and the loop over the reads left.

## Main definitions

* `Reached`: The actions before an index have succeeded.
* `Awaits`: An expectation waits.

## Theorems

* `Reached.run`, `Awaits.run`: What is left of a run.
* `Reached.messages`: The inbound messages stay within their limit.
-/

namespace Kahea

section

variable (lib : Crates) (limits : WebSocketLimits)

/-- The states in which the actions before an index have succeeded. -/
inductive Reached (actions : List WebSocketAction) (start : SessionState) :
    Nat → SessionState → Prop where
  | start : Reached actions start 0 start
  | next {index : Nat} {s t : SessionState} {action : WebSocketAction}
      {program : SessionM (Option WebSocketCloseObservation)}
      (reached : Reached actions start index s) (pending : actions[index]? = some action)
      (decodes : actionProgram lib limits index action = .ok program)
      (went : program s = .ok none t) : Reached actions start (index + 1) t

/-- The states in which an expectation waits, from the one it begins in. -/
inductive Awaits (action : WebSocketAction) (expected : Option (List UInt8)) (index : Nat)
    (start : SessionState) : SessionState → Prop where
  | start : Awaits action expected index start start
  | wait {arrival : Arrival} {rest : List Arrival} {message : Message} {s t u : SessionState}
      (awaits : Awaits action expected index start s)
      (arrivals : s.script.arrivals = arrival :: rest) (reads : Reads limits s arrival rest message t)
      (stepped : expectationStep lib limits action expected index message t = .ok none u) :
      Awaits action expected index start u

end

section

variable {lib : Crates} {limits : WebSocketLimits} {actions : List WebSocketAction}
  {start s t : SessionState} {index : Nat}

/-! ### What is left of a run -/

theorem getElem?_drop_cons {actions : List WebSocketAction} {action : WebSocketAction} {index : Nat}
    (h : actions[index]? = some action) :
    actions.drop index = action :: actions.drop (index + 1) := by
  rcases List.getElem?_eq_some_iff.mp h with ⟨hlt, rfl⟩
  exact List.drop_eq_getElem_cons hlt

/-- A run that has reached a state goes on with the actions left. -/
theorem Reached.run (h : Reached lib limits actions start index s) :
    runActions lib limits 0 actions start = runActions lib limits index (actions.drop index) s := by
  induction h with
  | start => rfl
  | next _ pending decodes went ih =>
      rw [ih, getElem?_drop_cons pending]
      simp only [runActions, decodes, bind, Except.bind, went]

/-- A pass of the loop that waits on. -/
theorem readLoop_wait {onError : SocketError → SessionM (Option WebSocketCloseObservation)}
    {step : Message → SessionM Verdict} {arrival : Arrival} {rest : List Arrival} {message : Message}
    {u : SessionState} (hreads : Reads limits s arrival rest message t)
    (hstep : step message t = .ok none u) :
    readLoop limits onError step (arrival :: rest) s = readLoop limits onError step rest u := by
  rcases hreads with ⟨hclean, hresult, hmessages, hbytes, rfl⟩
  have hsync : syncWireCounters ((s.observed limits arrival rest).called (.read (.ok message))) =
      .ok () ((s.observed limits arrival rest).called (.read (.ok message))).synced :=
    syncWireCounters_ok.mpr ⟨hclean, rfl⟩
  have hcount : accountInbound limits message
      ((s.observed limits arrival rest).called (.read (.ok message))).synced =
        .ok () (s.took limits arrival rest message) :=
    accountInbound_ok.mpr ⟨rfl, hmessages, hbytes⟩
  simp only [readLoop, state_bind_of_ok (receive_message.mpr ⟨hclean, hresult, rfl⟩),
    state_bind_of_ok hsync, state_bind_of_ok hcount, state_bind_of_ok hstep]

theorem arrivals_took (arrival : Arrival) (rest : List Arrival) (message : Message) :
    (s.took limits arrival rest message).script.arrivals = rest := by
  unfold SessionState.took SessionState.countedInbound
  split <;> rfl

theorem arrivals_writeSocket (payload : Nat) :
    (writeSocket limits payload s).2.script.arrivals = s.script.arrivals := by
  unfold writeSocket
  dsimp only
  split
  · rfl
  · split <;> rfl

/-- The step of an expectation that waits on leaves the reads alone. -/
theorem arrivals_expectationStep {action : WebSocketAction} {expected : Option (List UInt8)}
    {message : Message} {u : SessionState}
    (h : expectationStep lib limits action expected index message s = .ok none u) :
    u.script.arrivals = s.script.arrivals := by
  cases expectationStep_ok h with
  | @ping payload _ fits sent =>
      change (writeSocket limits payload.length _).2.script.arrivals = _
      rw [arrivals_writeSocket]
      rfl
  | ignored other => rfl

/-- An expectation that waits has the loop over the reads left before it. -/
theorem Awaits.run {action : WebSocketAction} {expected : Option (List UInt8)}
    (h : Awaits lib limits action expected index start s) :
    readExpectation lib limits action expected index start =
      readLoop limits (fun e => do throw (socketError .actionTimeout (← get) e))
        (expectationStep lib limits action expected index) s.script.arrivals s := by
  induction h with
  | start => rfl
  | wait _ arrivals reads stepped ih =>
      rw [ih, arrivals, readLoop_wait reads stepped, arrivals_expectationStep stepped, reads.after,
        arrivals_took]

/-! ### Invariants -/

/-- The message an action sends by itself. -/
def WebSocketAction.outbound : WebSocketAction → Option Message
  | .sendText text => some (.text text)
  | .sendBinary payload => (base64Decode payload).map Message.binary
  | .ping payload => (base64Decode payload).map Message.ping
  | .close code reason => some (.close (some (code, reason)))
  | .expectText _ _ | .expectBinary _ _ | .expectJson _ _ _ _ | .expectPong _ _
  | .expectClose _ _ _ => none

/-- An action after which the session goes on has sent its message, or its
    expectation is met. -/
theorem actionProgram_went {action : WebSocketAction}
    {program : SessionM (Option WebSocketCloseObservation)}
    (hprogram : actionProgram lib limits index action = .ok program)
    (h : program s = .ok none t) :
    (∃ message v, action.outbound = some message ∧ sendMessage limits message s = .ok () v ∧
      t = v.recorded (message.entry Kahea.outbound index "sent")) ∨
    (action.outbound = none ∧
      ∃ expected, readExpectation lib limits action expected index s = .ok none t) := by
  have hsent : ∀ {message : Message}, sendAction limits index message s = .ok none t →
      ∃ v, sendMessage limits message s = .ok () v ∧
        t = v.recorded (message.entry Kahea.outbound index "sent") := by
    intro message hsend
    simp only [sendAction, sendRecorded, state_bind_ok, push_ok, state_pure_ok, true_and] at hsend
    rcases hsend with ⟨_, _, ⟨_, v, hv, rfl⟩, rfl⟩
    exact ⟨v, hv, rfl⟩
  cases action with
  | sendText text =>
      cases hprogram
      rcases hsent h with ⟨v, hv, ht⟩
      exact Or.inl ⟨_, v, rfl, hv, ht⟩
  | sendBinary payload | ping payload =>
      simp only [actionProgram, except_bind_ok, except_pure_ok] at hprogram
      rcases hprogram with ⟨data, hdata, rfl⟩
      rcases hsent h with ⟨v, hv, ht⟩
      refine Or.inl ⟨_, v, ?_, hv, ht⟩
      rw [WebSocketAction.outbound, decodeSealedBase64_ok hdata]
      rfl
  | close code reason =>
      -- A client close never goes on.
      cases hprogram
      simp only [executeClientClose, state_bind_ok, state_pure_ok, reduceCtorEq, false_and,
        and_false, exists_false] at h
  | expectBinary payload timeout | expectPong payload timeout =>
      simp only [actionProgram, except_bind_ok, except_pure_ok] at hprogram
      rcases hprogram with ⟨data, _, rfl⟩
      exact Or.inr ⟨rfl, _, h⟩
  | expectText equals timeout | expectJson pointer equals schema timeout
  | expectClose codes reason timeout =>
      cases hprogram
      exact Or.inr ⟨rfl, _, h⟩

/-- An invariant of the steps of an expectation that leave the session open. -/
theorem stepped_invariant {I : SessionState → Prop} (hrecord : ∀ v entry, I v → I (v.recorded entry))
    (hreply : ∀ v payload, I v → (writeSocket limits payload v).1 = none →
      I (v.replied limits payload))
    {action : WebSocketAction} {expected : Option (List UInt8)} {message : Message}
    {verdict : Verdict} (h : Stepped lib limits action expected index message s verdict t)
    (hverdict : ∀ close, verdict ≠ some (some close)) (hs : I s) : I t := by
  cases h with
  | ping fits sent => exact hrecord _ _ (hreply _ _ (hrecord _ _ hs) sent)
  | ignored other => exact hrecord _ _ hs
  | matched goes matching => exact hrecord _ _ hs
  | closed matching fits acknowledged => exact absurd rfl (hverdict _)

/-- An invariant of an expectation that is met without a close. -/
theorem readExpectation_invariant {I : SessionState → Prop}
    (hread : ∀ arrival rest message v w, I v → Reads limits v arrival rest message w → I w)
    (hrecord : ∀ v entry, I v → I (v.recorded entry))
    (hreply : ∀ v payload, I v → (writeSocket limits payload v).1 = none →
      I (v.replied limits payload))
    {action : WebSocketAction} {expected : Option (List UInt8)}
    (h : readExpectation lib limits action expected index s = .ok none t) (hs : I s) : I t := by
  unfold readExpectation at h
  rw [state_get_bind] at h
  refine readLoop_ok (I := I) (Q := fun close t => close = none → I t) ?_ ?_ ?_ h hs rfl
  · intro arrival rest message u v w hu hreads hstep
    exact stepped_invariant hrecord hreply (expectationStep_ok hstep) nofun
      (hread _ _ _ _ _ hu hreads)
  · rintro arrival rest message close u v w hu hreads hstep rfl
    exact stepped_invariant hrecord hreply (expectationStep_ok hstep) nofun
      (hread _ _ _ _ _ hu hreads)
  · intro arrival rest e close u v _ hgone
    simp only [state_get_bind, state_throw_ok] at hgone

/-! ### Inbound messages -/

/-- The inbound messages are within their limit. -/
def WithinMessages (limits : WebSocketLimits) (s : SessionState) : Prop :=
  s.counters.inboundMessages ≤ limits.maxInboundMessages

theorem withinMessages_sent {message : Message} {u : Unit} (h : sendMessage limits message s = .ok u t)
    (hs : WithinMessages limits s) : WithinMessages limits t := by
  rcases sendMessage_ok.mp h with ⟨_, hsent, _, rfl⟩
  unfold WithinMessages SessionState.countedOutbound
  rw [(writeSocket_none hsent).2]
  split <;> exact hs

theorem withinMessages_replied (payload : Nat) (hs : WithinMessages limits s)
    (hsent : (writeSocket limits payload s).1 = none) :
    WithinMessages limits (s.replied limits payload) := by
  unfold SessionState.replied
  rw [(writeSocket_none hsent).2]
  exact hs

/-- The inbound messages stay within their limit while actions succeed. -/
theorem Reached.messages (h : Reached lib limits actions start index s)
    (hstart : WithinMessages limits start) : WithinMessages limits s := by
  induction h with
  | start => exact hstart
  | next _ pending decodes went ih =>
      rcases actionProgram_went decodes went with ⟨message, v, _, hv, rfl⟩ | ⟨_, expected, hread⟩
      · have hsent : WithinMessages limits v := withinMessages_sent hv ih
        exact hsent
      · exact readExpectation_invariant (fun _ _ _ _ _ _ hreads => hreads.messages)
          (fun _ _ hv => hv) (fun _ payload hv hsent => withinMessages_replied payload hv hsent)
          hread ih

/-- The inbound messages stay within their limit while an expectation waits. -/
theorem Awaits.messages {action : WebSocketAction} {expected : Option (List UInt8)}
    (h : Awaits lib limits action expected index start s) (hstart : WithinMessages limits start) :
    WithinMessages limits s := by
  induction h with
  | start => exact hstart
  | wait _ _ reads stepped ih =>
      exact stepped_invariant (I := WithinMessages limits) (fun _ _ hv => hv)
        (fun _ payload hv hsent => withinMessages_replied payload hv hsent)
        (expectationStep_ok stepped) nofun reads.messages

end

end Kahea
