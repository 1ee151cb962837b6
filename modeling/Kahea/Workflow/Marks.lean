import Kahea.Base.Along
import Kahea.Workflow.Invoke

/-!
# Marks of Attempts

Where a run marks the start and the end of an attempt, and where it does not.

Only the loops over the attempts of a step leave marks. Planning a step, asking
which action applies, pausing and evaluating outputs leave none, so between two
marks of a run there is nothing a statement about attempts has to look at.

## Main definitions

* `WorkflowEvent.isMark`: Whether an event is a mark.
* `Pausing`: A program that only pauses.
* `Unmarked`: A program that leaves no marks.
* `attemptResult`: What an attempt is marked to have ended with.

## Theorems

* `markedAttempt_run`: An attempt is its two marks and its effects.
* `pausing_goesOn`, `pausing_finishHttpStep`: The parts of a step around its
  attempts.
* `unmarked_planHttpStep`: Planning leaves no marks.
* `along_retryLoop`: What holds along every attempt holds along a step.
-/

namespace Kahea

/-- Whether an event marks the start or the end of an attempt. -/
def WorkflowEvent.isMark : WorkflowEvent → Bool
  | .started _ | .ended _ _ => true
  | .effect _ | .slept _ => false

/-- A program that leaves no marks. -/
def Unmarked {ε α : Type} (m : Eff WorkflowEvent ε α) : Prop :=
  Ensures m (fun _ => True) (fun e => e.isMark = false)

/-- A program that has no effect on the outside and leaves no marks: it may only
    pause. -/
def Pausing {ε α : Type} (m : Eff WorkflowEvent ε α) : Prop :=
  Ensures m (fun _ => True) (fun e => ∃ delay, e = .slept delay)

/-- What holds of delays holds of the events of such a program. -/
theorem Pausing.ensures {ε α : Type} {m : Eff WorkflowEvent ε α} {P : WorkflowEvent → Prop}
    (h : Pausing m) (hslept : ∀ delay, P (.slept delay)) : Ensures m (fun _ => True) P :=
  h.mono (fun _ _ => trivial) (fun e he => by
    rcases he with ⟨delay, rfl⟩
    exact hslept delay)

/-- A delay is no mark. -/
theorem Pausing.unmarked {ε α : Type} {m : Eff WorkflowEvent ε α} (h : Pausing m) : Unmarked m :=
  h.ensures (fun _ => rfl)

namespace Unmarked

variable {ε ε' α β : Type}

theorem pure (a : α) : Unmarked (Pure.pure a : Eff WorkflowEvent ε α) := Ensures.pure trivial

theorem fail (e : ε) : Unmarked (Eff.fail e : Eff WorkflowEvent ε α) := Ensures.fail

theorem ofExcept (x : Except ε α) : Unmarked (Eff.ofExcept x : Eff WorkflowEvent ε α) :=
  Ensures.ofExcept (fun _ _ => trivial)

theorem bind {m : Eff WorkflowEvent ε α} {f : α → Eff WorkflowEvent ε β} (hm : Unmarked m)
    (hf : ∀ a, Unmarked (f a)) : Unmarked (m >>= f) :=
  Ensures.bind hm (fun a _ => hf a)

theorem mapError {m : Eff WorkflowEvent ε α} {f : ε → ε'} (hm : Unmarked m) :
    Unmarked (m.mapError f) := Ensures.mapError hm

end Unmarked

namespace Pausing

variable {ε ε' α β : Type}

theorem pure (a : α) : Pausing (Pure.pure a : Eff WorkflowEvent ε α) := Ensures.pure trivial

theorem fail (e : ε) : Pausing (Eff.fail e : Eff WorkflowEvent ε α) := Ensures.fail

theorem past : Pausing (Eff.past : Eff WorkflowEvent ε (List WorkflowEvent)) := Ensures.past

theorem ofExcept (x : Except ε α) : Pausing (Eff.ofExcept x : Eff WorkflowEvent ε α) :=
  Ensures.ofExcept (fun _ _ => trivial)

theorem bind {m : Eff WorkflowEvent ε α} {f : α → Eff WorkflowEvent ε β} (hm : Pausing m)
    (hf : ∀ a, Pausing (f a)) : Pausing (m >>= f) :=
  Ensures.bind hm (fun a _ => hf a)

theorem mapError {m : Eff WorkflowEvent ε α} {f : ε → ε'} (hm : Pausing m) :
    Pausing (m.mapError f) := Ensures.mapError hm

end Pausing

section

variable {lib : Crates} {world : WorkflowWorld} {ε α : Type}

/-! ### Around the attempts -/

/-- Reading the clock has no effect. -/
theorem pausing_elapsed : Pausing (elapsed world : Eff WorkflowEvent ε Nat) :=
  Pausing.past.bind (fun _ => .pure _)

/-- Reading the clock adds no event. -/
theorem elapsed_run (past : List WorkflowEvent) :
    (elapsed world : Eff WorkflowEvent ε Nat) past = (.ok (world.clock past), []) :=
  Eff.past_bind

/-- A program that reads the clock first goes on with the time. -/
theorem elapsed_bind (f : Nat → Eff WorkflowEvent ε α) (past : List WorkflowEvent) :
    (elapsed world >>= f) past = f (world.clock past) past := by
  change Eff.bind (elapsed world) f past = _
  unfold Eff.bind
  rw [elapsed_run]
  simp only [List.append_nil, List.nil_append]

/-- Reading a record back has no effect. -/
theorem pausing_evidenceGet (handle : Str) : Pausing (evidenceGet lib world handle) := by
  refine Pausing.past.bind (fun past => (Pausing.ofExcept _).bind (fun _ => ?_))
  cases (world.earlier ++ storedRecords past).find? (fun r =>
      shortHandle lib r.kind [r.content.data] = handle) with
  | none => exact .fail _
  | some record => exact .pure _

/-- Nor has reading the body of an observation. -/
theorem pausing_storedBody (observation : Observation) :
    Pausing (storedBody lib world observation) := by
  unfold storedBody
  cases observation.body with
  | none => exact .pure _
  | some handle => exact ((pausing_evidenceGet handle).mapError).bind (fun _ => .pure _)

/-- The delay before a retry is the one event that is let through. -/
theorem pausing_sleepRetryDelay (timeout delay : Nat) :
    Pausing (sleepRetryDelay world timeout delay) := by
  refine pausing_elapsed.bind (fun now => (Pausing.ofExcept _).bind (fun _ =>
    (Pausing.ofExcept _).bind (fun _ => ?_)))
  exact Ensures.emit ⟨_, rfl⟩

/-- It is made when the time budget allows it. -/
theorem pausing_pauseBeforeRetry (timeout : Nat) (action : Value) :
    Pausing (pauseBeforeRetry lib world timeout action) := by
  unfold pauseBeforeRetry
  split_ifs
  · exact .pure _
  · exact pausing_sleepRetryDelay _ _

/-- Deciding on another attempt may include the delay. -/
theorem pausing_goesOn (timeout retries : Nat) (action : Option Value) :
    Pausing (goesOn lib world timeout retries action) := by
  unfold goesOn
  cases action with
  | none => exact .pure _
  | some action =>
      dsimp only
      split_ifs
      · exact (pausing_pauseBeforeRetry timeout action).bind (fun _ => .pure _)
      · exact .pure _

/-- Criteria read the response, and have no effect. -/
theorem pausing_criteriaMatch (criteria : List Value) (result : InvocationResult) :
    Pausing (criteriaMatch lib world criteria result) := by
  cases result with
  | denied denial => exact .pure _
  | observation observation =>
      exact (pausing_storedBody observation).bind (fun _ => .ofExcept _)

/-- So does the test of an action. -/
theorem pausing_actionApplies (result : InvocationResult) (action : Value) :
    Pausing (actionApplies lib world result action) := by
  unfold actionApplies
  split_ifs
  · exact .pure _
  · exact pausing_criteriaMatch _ _

/-- So does the choice of the first action that applies. -/
theorem pausing_selectAction (result : InvocationResult) (actions : List Value) :
    Pausing (selectAction lib world result actions) := by
  induction actions with
  | nil => exact .pure _
  | cons action rest ih =>
      refine (pausing_actionApplies result action).bind (fun applies => ?_)
      cases applies with
      | true => exact .pure _
      | false => exact ih

/-- So does the action a failed result calls for. -/
theorem pausing_failureAction (actions : List Value) (result : InvocationResult) :
    Pausing (failureAction lib world actions result) := by
  unfold failureAction
  split_ifs
  · exact pausing_selectAction result actions
  · exact .pure _

theorem pausing_storeStepPlan (step : WorkflowStepTemplate) (isSealed : Bool) :
    Pausing (storeStepPlan world step isSealed) :=
  (Pausing.ofExcept _).bind (fun _ => Pausing.past.bind (fun _ => .ofExcept _))

/-- The outputs of a request step are read from its response. -/
theorem pausing_finishHttpStep (step : WorkflowStepTemplate) (requestPlan : RequestPlan)
    (attempts : List Value) (result : InvocationResult) :
    Pausing (finishHttpStep lib world step requestPlan attempts result) := by
  unfold finishHttpStep
  split_ifs
  · exact .pure _
  · cases result with
    | denied denial => exact .fail _
    | observation observation =>
        refine (pausing_storedBody observation).bind (fun body =>
          (Pausing.ofExcept _).bind (fun outputs => ?_))
        exact (pausing_selectAction _ _).bind (fun _ => .pure _)

/-- An output of a message is read from its record. -/
theorem pausing_evaluateMessageOutput (expression : Str) (observation : WebSocketObservation) :
    Pausing (evaluateMessageOutput lib world expression observation) := by
  refine (Pausing.ofExcept _).bind (fun selected => ?_)
  cases observation.transcript with
  | none => exact .fail _
  | some handle =>
      refine ((pausing_evidenceGet handle).mapError).bind (fun data =>
        (Pausing.ofExcept _).bind (fun transcript => ?_))
      cases inboundPayload transcript selected.1 with
      | none => exact .fail _
      | some payloadHandle =>
          dsimp only
          split_ifs
          · exact .pure _
          · exact ((pausing_evidenceGet payloadHandle).mapError).bind (fun _ => .ofExcept _)

/-- So are all outputs of a session. -/
theorem pausing_websocketOutputs (observation : WebSocketObservation)
    (declared outputs : List (Str × Value)) :
    Pausing (websocketOutputs lib world observation declared outputs) := by
  induction declared generalizing outputs with
  | nil => exact .pure _
  | cons entry rest ih =>
      refine Pausing.bind ?_ (fun value => ih _)
      unfold evaluateWebsocketOutput
      cases entry.2.asStr with
      | none => exact .pure _
      | some text =>
          dsimp only
          cases lookup text (websocketSummary observation) with
          | some value => exact .pure _
          | none => exact pausing_evaluateMessageOutput text observation

/-- Finishing a session step has no effect. -/
theorem pausing_finishWebsocketStep (step : WorkflowStepTemplate) (websocketPlan : WebSocketPlan)
    (attempts : List Value) (result : WebSocketConnectResult) :
    Pausing (finishWebsocketStep lib world step websocketPlan attempts result) := by
  cases result with
  | observation observation =>
      refine Pausing.bind ?_ (fun outputs => .pure _)
      unfold sessionOutputs
      split_ifs
      · exact pausing_websocketOutputs _ _ _
      · exact .pure _
  | denied denial => exact .pure _
  | connected connection => exact .fail _

/-! ### Programs without marks -/

/-- The effects of an execution are no marks. -/
theorem unmarked_executes (program : World → Eff Event ε α) :
    Unmarked (executes world program) := by
  intro past
  refine ⟨fun _ _ => trivial, fun e he => ?_⟩
  rcases List.mem_map.mp he with ⟨event, _, rfl⟩
  rfl

/-- Planning a step reads files, and marks nothing. -/
theorem unmarked_planHttpStep (plan : WorkflowPlan) (configuration : ProjectConfiguration)
    (step : WorkflowStepTemplate) (outputs : StepOutputs) :
    Unmarked (planHttpStep lib world plan configuration step outputs) := by
  refine (Unmarked.ofExcept _).bind (fun operation => (Unmarked.ofExcept _).bind (fun explicit =>
    (Unmarked.ofExcept _).bind (fun input => (Unmarked.ofExcept _).bind (fun checks => ?_))))
  refine ((unmarked_executes _).mapError).bind (fun requestPlan => ?_)
  exact (pausing_storeStepPlan step _).unmarked.bind (fun _ => .pure _)

/-! ### Attempts -/

/-- What an attempt is marked to have ended with. -/
def attemptResult (result : α → AttemptResult) : Except ExecError α → AttemptResult
  | .ok a => result a
  | .error e => .error e.text

/-- An attempt is its two marks with its effects between them. -/
theorem markedAttempt_run (attempt : Attempt) (result : α → AttemptResult)
    (program : World → Eff Event ExecError α) (past : List WorkflowEvent) :
    ∃ (outcome : Except ExecError α) (middle : List WorkflowEvent),
      (∀ e ∈ middle, e.isMark = false) ∧ markedAttempt world attempt result program past =
        (.ok outcome, .started attempt :: (middle ++ [.ended attempt (attemptResult result outcome)])) := by
  refine ⟨(executes world program (past ++ [.started attempt])).1,
    (executes world program (past ++ [.started attempt])).2,
    fun e he => (unmarked_executes program _).2 e he, ?_⟩
  rfl

/-- What holds along every attempt of a step holds along all of them. -/
theorem along_retryLoop {P : List WorkflowEvent → WorkflowEvent → Prop}
    {once : Nat → Run (Value × Option α)} {retries : Nat}
    (hlater : ∀ later, retries < later → ∀ past, Along P past (once later past).2) (left : Nat)
    (attempts : List Value) {past : List WorkflowEvent} (hfirst : Along P past (once retries past).2) :
    Along P past (retryLoop once left retries attempts past).2 := by
  induction left generalizing retries attempts past with
  | zero => exact trivial
  | succ left ih =>
      rw [retryLoop]
      refine Eff.along_bind.mpr ⟨hfirst, fun pair _ => ?_⟩
      rcases pair with ⟨record, outcome⟩
      cases outcome with
      | some a => exact trivial
      | none =>
          exact ih (fun later hlt => hlater later (by omega)) _
            (hlater (retries + 1) (Nat.lt_succ_self retries) _)

end

end Kahea
