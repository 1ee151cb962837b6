import Kahea.Workflow.Deadline

/-!
# Runs That Settle

Which runs of a workflow return what they have observed.

A run returns an observation only if no step of it ends with an error. A step
ends with one in five places: it cannot be planned, its time is up, an attempt
ends with an error of the executor and no retry is left, a retry would wait for
longer than what is left, or the outputs of a result that has passed cannot be
evaluated. In each of them the request of the step, or of a step before it, may
have been sent already, and the observations of the run are dropped.

## Main definitions

* `Due`, `Affordable`: A retry that is not used up, and one there is time for.
* `HttpStepSettles`, `WebsocketStepSettles`: A step that ends in none of the
  five places.
* `StepsSettle`: A run of such steps.
* `ReportsAll`: An observation that keeps everything.

## Theorems

* `returns_invokeStep`: A step returns exactly when it settles.
* `reports_all_iff`: A run that has sent a request reports all of it exactly
  when its steps settle.
-/

namespace Kahea

/-! ### Retries -/

/-- An action is a retry that is not used up. -/
def Due (retries : Nat) (action : Value) : Prop :=
  isRetry action = true ∧ retries < retryLimit action

instance (retries : Nat) (action : Value) : Decidable (Due retries action) :=
  inferInstanceAs (Decidable (isRetry action = true ∧ retries < retryLimit action))

section

variable (lib : Crates) (world : WorkflowWorld)

/-- There is time for the delay of a retry. -/
def Affordable (timeout : Nat) (past : List WorkflowEvent) (action : Value) : Prop :=
  retryDelay lib action = 0 ∨ retryDelay lib action < timeout - world.clock past

/-- A retry of an action that is asked for can be waited for. -/
def Affords (timeout retries : Nat) (past : List WorkflowEvent) (action : Option Value) : Prop :=
  ∀ a, action = some a → Due retries a → Affordable lib world timeout past a

variable {lib world}

theorem returns_elapsed_bind {α : Type} {f : Nat → Run α} {past : List WorkflowEvent} :
    (elapsed world >>= f).Returns past ↔ (f (world.clock past)).Returns past := by
  unfold Eff.Returns
  rw [elapsed_bind]

theorem returns_sleepRetryDelay {timeout delay : Nat} {past : List WorkflowEvent} :
    (sleepRetryDelay world timeout delay).Returns past ↔ delay < timeout - world.clock past := by
  unfold sleepRetryDelay
  rw [returns_elapsed_bind, Eff.returns_ofExcept_bind]
  constructor
  · rintro ⟨_, hnow, h⟩
    rw [Eff.returns_ofExcept_bind] at h
    rcases h with ⟨_, hdelay, _⟩
    exact of_decide_eq_true (ensure_ok.mp hdelay)
  · intro h
    refine ⟨(), ensure_ok.mpr (decide_eq_true (by omega)), ?_⟩
    rw [Eff.returns_ofExcept_bind]
    exact ⟨(), ensure_ok.mpr (decide_eq_true h), (), rfl⟩

theorem returns_pauseBeforeRetry {timeout : Nat} {action : Value} {past : List WorkflowEvent} :
    (pauseBeforeRetry lib world timeout action).Returns past ↔
      Affordable lib world timeout past action := by
  unfold pauseBeforeRetry Affordable
  by_cases hzero : retryDelay lib action = 0
  · rw [if_pos hzero]
    exact iff_of_true ⟨(), rfl⟩ (Or.inl hzero)
  · rw [if_neg hzero, returns_sleepRetryDelay, or_iff_right hzero]

theorem returns_goesOn {timeout retries : Nat} {action : Option Value} {past : List WorkflowEvent} :
    (goesOn lib world timeout retries action).Returns past ↔
      Affords lib world timeout retries past action := by
  unfold goesOn Affords
  cases action with
  | none => exact iff_of_true ⟨false, rfl⟩ (fun a ha => by cases ha)
  | some a =>
      dsimp only
      -- Only a retry that is due pauses.
      by_cases hdue : isRetry a = true ∧ retries < retryLimit a
      · rw [if_pos hdue, Eff.returns_bind]
        constructor
        · rintro ⟨_, hpause, _⟩ b hb _
          cases hb
          exact returns_pauseBeforeRetry.mp ⟨_, hpause⟩
        · intro h
          rcases returns_pauseBeforeRetry.mpr (h a rfl hdue) with ⟨_, hpause⟩
          exact ⟨(), hpause, true, rfl⟩
      · rw [if_neg hdue]
        refine iff_of_true ⟨false, rfl⟩ (fun b hb hdue' => ?_)
        cases hb
        exact absurd hdue' hdue

/-- Whether a step goes on. -/
theorem goesOn_result {timeout retries : Nat} {action : Option Value} {past : List WorkflowEvent}
    {again : Bool} (h : (goesOn lib world timeout retries action past).1 = .ok again) :
    again = true ↔ ∃ a, action = some a ∧ Due retries a := by
  constructor
  · rintro rfl
    exact goesOn_true h
  · rintro ⟨a, rfl, hdue⟩
    have hgo : isRetry a = true ∧ retries < retryLimit a := hdue
    rw [goesOn, if_pos hgo] at h
    rcases Eff.bind_ok h with ⟨_, _, h⟩
    cases h
    rfl

/-- An error of the executor is settled by a retry there is time for. -/
theorem returns_retryOrFail {α : Type} {timeout retries : Nat} {action : Option Value}
    {past : List WorkflowEvent} {a : α} {e : WorkflowError} :
    (goesOn lib world timeout retries action >>= fun again =>
        if again = true then (pure a : Run α) else Eff.fail e).Returns past ↔
      ∃ b, action = some b ∧ Due retries b ∧ Affordable lib world timeout past b := by
  rw [Eff.returns_bind]
  constructor
  · rintro ⟨again, hagain, hrest⟩
    have hafford := returns_goesOn.mp ⟨again, hagain⟩
    -- It goes on, or it fails.
    cases again with
    | false => exact absurd hrest Eff.not_returns_fail
    | true =>
        rcases (goesOn_result hagain).mp rfl with ⟨b, hb, hdue⟩
        exact ⟨b, hb, hdue, hafford b hb hdue⟩
  · rintro ⟨b, hb, hdue, hafford⟩
    have hreturns : (goesOn lib world timeout retries action).Returns past := by
      refine returns_goesOn.mpr (fun c hc _ => ?_)
      rw [hb] at hc
      cases hc
      exact hafford
    rcases hreturns with ⟨again, hagain⟩
    have htrue := (goesOn_result hagain).mpr ⟨b, hb, hdue⟩
    subst htrue
    exact ⟨true, hagain, a, rfl⟩

end

/-! ### Programs that only ask -/

/-- A program that adds no events. -/
def Silent {ε α : Type} (m : Eff WorkflowEvent ε α) : Prop :=
  Ensures m (fun _ => True) (fun _ => False)

theorem Silent.events {ε α : Type} {m : Eff WorkflowEvent ε α} (h : Silent m)
    (past : List WorkflowEvent) : (m past).2 = [] :=
  List.eq_nil_iff_forall_not_mem.mpr (h past).2

section

variable {lib : Crates} {world : WorkflowWorld}

theorem silent_storedBody (observation : Observation) : Silent (storedBody lib world observation) := by
  unfold storedBody
  cases observation.body with
  | none => exact .pure trivial
  | some handle =>
      refine .bind (Q := fun _ => True) (.mapError ?_) (fun _ _ => .pure trivial)
      refine .bind .past (fun past _ => .bind (.ofExcept fun _ _ => trivial) (fun _ _ => ?_))
      cases (world.earlier ++ storedRecords past).find? (fun r =>
          shortHandle lib r.kind [r.content.data] = handle) with
      | none => exact .fail
      | some record => exact .pure trivial

theorem silent_storeStepPlan {step : WorkflowStepTemplate} {isSealed : Bool} :
    Silent (storeStepPlan world step isSealed) :=
  .bind (.ofExcept fun _ _ => trivial) (fun _ _ => .bind .past (fun _ _ =>
    .ofExcept fun _ _ => trivial))

theorem silent_selectAction (result : InvocationResult) (actions : List Value) :
    Silent (selectAction lib world result actions) := by
  induction actions with
  | nil => exact .pure trivial
  | cons action rest ih =>
      refine .bind (Q := fun _ => True) ?_ (fun applies _ => ?_)
      · unfold actionApplies
        split_ifs
        · exact .pure trivial
        · cases result with
          | denied denial => exact .pure trivial
          | observation observation =>
              exact .bind (silent_storedBody observation) (fun _ _ => .ofExcept fun _ _ => trivial)
      · cases applies with
        | true => exact .pure trivial
        | false => exact ih

theorem silent_failureAction (actions : List Value) (result : InvocationResult) :
    Silent (failureAction lib world actions result) := by
  unfold failureAction
  split_ifs
  · exact silent_selectAction result actions
  · exact .pure trivial

end

/-! ### Attempts -/

section

variable (lib : Crates) (world : WorkflowWorld) {α : Type}

/-- How a request attempt ends. -/
def httpOutcome (step : WorkflowStepTemplate) (since timeout : Nat)
    (execute : World → Eff Event ExecError InvocationResult) (retries : Nat) :
    Run (Except ExecError InvocationResult) :=
  markedAttempt world
    { step := step.stepId
      transport := .http
      retries := retries
      timeout := timeout
      declared := step.timeoutMs.map (· * 1000000)
      since := since } .http execute

/-- An error of the executor is answered by a retry there is time for. -/
def ErrorSettled (step : WorkflowStepTemplate) (options : InvokeOptions) (retries : Nat)
    (past : List WorkflowEvent) : Prop :=
  ∃ a, unconditionalRetry step.onFailure = some a ∧ Due retries a ∧
    Affordable lib world options.timeout past a

/-- The end of a request attempt lets the step go on or return. -/
def HttpSettled (step : WorkflowStepTemplate) (options : InvokeOptions) (retries : Nat)
    (past : List WorkflowEvent) : Except ExecError InvocationResult → Prop
  | .ok result => ∃ action, (failureAction lib world step.onFailure result past).1 = .ok action ∧
      Affords lib world options.timeout retries past action
  | .error _ => ErrorSettled lib world step options retries past

def HttpAttemptSettles (step : WorkflowStepTemplate) (options : InvokeOptions) (since timeout : Nat)
    (execute : World → Eff Event ExecError InvocationResult) (retries : Nat)
    (past : List WorkflowEvent) : Prop :=
  ∃ outcome, (httpOutcome world step since timeout execute retries past).1 = .ok outcome ∧
    HttpSettled lib world step options retries
      (past ++ (httpOutcome world step since timeout execute retries past).2) outcome

/-- How a session attempt ends. -/
def websocketOutcome (step : WorkflowStepTemplate) (websocketPlan : WebSocketPlan)
    (options : InvokeOptions) (retries since timeout : Nat) :
    Run (Except ExecError WebSocketConnectResult) :=
  markedAttempt world
    { step := step.stepId
      transport := .webSocket
      retries := retries
      timeout := timeout
      declared := step.timeoutMs.map (· * 1000000)
      since := since } .webSocket (fun w => executeWebsocket lib w websocketPlan
        { options with
          timeout := timeout
          expectedConfigFingerprint := some websocketPlan.configFingerprint
          expectedPolicyFingerprint := some websocketPlan.policyFingerprint })

/-- The end of a session attempt lets the step go on or return. -/
def WebsocketSettled (step : WorkflowStepTemplate) (options : InvokeOptions) (retries : Nat)
    (past : List WorkflowEvent) : Except ExecError WebSocketConnectResult → Prop
  | .ok (.observation observation) => Affords lib world options.timeout retries past
      (if observation.exit ≠ 0 then unconditionalRetry step.onFailure else none)
  | .ok (.denied _) => True
  | .ok (.connected _) => False
  | .error _ => ErrorSettled lib world step options retries past

/-- A session attempt starts in time, and its end lets the step go on or
    return. -/
def WebsocketAttemptSettles (step : WorkflowStepTemplate) (websocketPlan : WebSocketPlan)
    (options : InvokeOptions) (retries : Nat) (past : List WorkflowEvent) : Prop :=
  ∃ timeout, remainingStepTimeout (world.clock past) options.timeout step.timeoutMs = .ok timeout ∧
    ∃ outcome, (websocketOutcome lib world step websocketPlan options retries (world.clock past)
        timeout past).1 = .ok outcome ∧
      WebsocketSettled lib world step options retries (past ++ (websocketOutcome lib world step
        websocketPlan options retries (world.clock past) timeout past).2) outcome

/-- Every attempt of a step settles. -/
def AttemptsSettle (once : Nat → Run (Value × Option α))
    (settles : Nat → List WorkflowEvent → Prop) : Nat → Nat → List WorkflowEvent → Prop
  | 0, _, _ => False
  | left + 1, retries, past => settles retries past ∧
      ∀ record, (once retries past).1 = .ok (record, none) →
        AttemptsSettle once settles left (retries + 1) (past ++ (once retries past).2)

variable {lib world}

theorem returns_httpAttempt {step : WorkflowStepTemplate} {options : InvokeOptions}
    {since timeout retries : Nat} {execute : World → Eff Event ExecError InvocationResult}
    {past : List WorkflowEvent} :
    (httpAttempt lib world step options since timeout execute retries).Returns past ↔
      HttpAttemptSettles lib world step options since timeout execute retries past := by
  refine Eff.returns_bind.trans (exists_congr fun outcome => and_congr_right fun _ => ?_)
  cases outcome with
  | error e => exact returns_retryOrFail
  | ok result =>
      refine Eff.returns_bind.trans (exists_congr fun action => and_congr_right fun _ => ?_)
      rw [(silent_failureAction _ _).events, List.append_nil]
      refine Iff.trans ?_ returns_goesOn
      rw [Eff.returns_bind]
      exact ⟨fun ⟨again, hagain, _⟩ => ⟨again, hagain⟩, fun ⟨again, hagain⟩ => ⟨again, hagain, _, rfl⟩⟩

theorem returns_websocketAttempt {step : WorkflowStepTemplate} {websocketPlan : WebSocketPlan}
    {options : InvokeOptions} {retries : Nat} {past : List WorkflowEvent} :
    (websocketAttempt lib world step websocketPlan options retries).Returns past ↔
      WebsocketAttemptSettles lib world step websocketPlan options retries past := by
  unfold websocketAttempt
  rw [returns_elapsed_bind]
  refine Eff.returns_ofExcept_bind.trans (exists_congr fun timeout => and_congr_right fun _ => ?_)
  refine Eff.returns_bind.trans (exists_congr fun outcome => and_congr_right fun _ => ?_)
  rcases outcome with e | connected | observation | denial
  · exact returns_retryOrFail
  · exact iff_of_false Eff.not_returns_fail id
  · refine Iff.trans ?_ returns_goesOn
    rw [Eff.returns_bind]
    exact ⟨fun ⟨again, hagain, _⟩ => ⟨again, hagain⟩, fun ⟨again, hagain⟩ => ⟨again, hagain, _, rfl⟩⟩
  · exact iff_of_true ⟨_, rfl⟩ trivial

theorem returns_retryLoop {once : Nat → Run (Value × Option α)}
    {settles : Nat → List WorkflowEvent → Prop}
    (honce : ∀ retries past, (once retries).Returns past ↔ settles retries past)
    {left retries : Nat} {attempts : List Value} {past : List WorkflowEvent} :
    (retryLoop once left retries attempts).Returns past ↔
      AttemptsSettle once settles left retries past := by
  -- By the attempts left.
  induction left generalizing retries attempts past with
  | zero => exact iff_of_false Eff.not_returns_fail id
  | succ left ih =>
      rw [retryLoop, Eff.returns_bind, AttemptsSettle, ← honce]
      constructor
      · rintro ⟨⟨record, outcome⟩, hrun, hrest⟩
        refine ⟨⟨_, hrun⟩, fun record' hagain => ?_⟩
        rw [hagain] at hrun
        cases hrun
        exact ih.mp hrest
      · rintro ⟨⟨⟨record, outcome⟩, hrun⟩, hrest⟩
        refine ⟨(record, outcome), hrun, ?_⟩
        -- The last one returns, the others need the rest to.
        cases outcome with
        | some a => exact ⟨_, rfl⟩
        | none => exact ih.mpr (hrest record hrun)

end

/-! ### Steps -/

section

variable (lib : Crates) (world : WorkflowWorld) (describe : Value → Str) (plan : WorkflowPlan)
  (options : InvokeOptions) (configuration : ProjectConfiguration)

/-- The outputs of a request step that has passed can be evaluated. -/
def HttpOutputsSettle (step : WorkflowStepTemplate) (past : List WorkflowEvent)
    (result : InvocationResult) : Prop :=
  result.exit = 0 → ∃ observation body outputs, result = .observation observation ∧
    (storedBody lib world observation past).1 = .ok body ∧
    httpOutputs observation body step.outputs = .ok outputs ∧
    (selectAction lib world result step.onSuccess).Returns past

/-- The outputs of a session step that has passed can be evaluated. -/
def WebsocketOutputsSettle (step : WorkflowStepTemplate) (past : List WorkflowEvent) :
    WebSocketConnectResult → Prop
  | .observation observation => (sessionOutputs lib world observation step.outputs).Returns past
  | .denied _ => True
  | .connected _ => False

/-- The attempts of a request step whose plan is known. -/
def httpAttempts (step : WorkflowStepTemplate) (requestPlan : RequestPlan) (since timeout : Nat) :
    Nat → Run (Value × Option InvocationResult) :=
  httpAttempt lib world step options since timeout
    (fun w => invoke lib w requestPlan { options with timeout := timeout })

/-- A request step is planned, starts in time, settles its attempts, and its
    outputs can be evaluated. -/
def HttpStepSettles (step : WorkflowStepTemplate) (outputs : StepOutputs)
    (past : List WorkflowEvent) : Prop :=
  ∃ requestPlan, (planHttpStep lib world plan configuration step outputs past).1 =
      .ok requestPlan ∧
    ∃ planned, planned = past ++ (planHttpStep lib world plan configuration step outputs past).2 ∧
    ∃ timeout, remainingStepTimeout (world.clock planned) options.timeout step.timeoutMs =
        .ok timeout ∧
      ∃ once, once = httpAttempts lib world options step requestPlan (world.clock planned) timeout ∧
      AttemptsSettle once (HttpAttemptSettles lib world step options (world.clock planned) timeout
          (fun w => invoke lib w requestPlan { options with timeout := timeout }))
        (largestRetryLimit step.onFailure + 1) 0 planned ∧
      ∀ attempts result, (retryLoop once (largestRetryLimit step.onFailure + 1) 0 [] planned).1 =
          .ok (attempts, result) →
        HttpOutputsSettle lib world step
          (planned ++ (retryLoop once (largestRetryLimit step.onFailure + 1) 0 [] planned).2) result

/-- The same for a session step. -/
def WebsocketStepSettles (step : WorkflowStepTemplate) (outputs : StepOutputs)
    (past : List WorkflowEvent) : Prop :=
  ∃ websocketPlan, planWebsocketStep lib describe configuration step plan.input outputs =
      .ok websocketPlan ∧
    (storeStepPlan world step (websocketPlan.verifySeal lib)).Returns past ∧
    ∃ once, once = websocketAttempt lib world step websocketPlan options ∧
    AttemptsSettle once (WebsocketAttemptSettles lib world step websocketPlan options)
      (largestRetryLimit step.onFailure + 1) 0 past ∧
    ∀ attempts result, (retryLoop once (largestRetryLimit step.onFailure + 1) 0 [] past).1 =
        .ok (attempts, result) →
      WebsocketOutputsSettle lib world step
        (past ++ (retryLoop once (largestRetryLimit step.onFailure + 1) 0 [] past).2) result

/-- A step that does not end with an error. -/
def StepSettles (step : WorkflowStepTemplate) (outputs : StepOutputs)
    (past : List WorkflowEvent) : Prop :=
  if step.transport = .webSocket then
    WebsocketStepSettles lib world describe plan options configuration step outputs past
  else HttpStepSettles lib world plan options configuration step outputs past

variable {lib world describe plan options configuration}

theorem returns_finishHttpStep {step : WorkflowStepTemplate} {requestPlan : RequestPlan}
    {attempts : List Value} {result : InvocationResult} {past : List WorkflowEvent} :
    (finishHttpStep lib world step requestPlan attempts result).Returns past ↔
      HttpOutputsSettle lib world step past result := by
  unfold finishHttpStep HttpOutputsSettle
  -- A result that failed returns without outputs.
  by_cases hexit : result.exit ≠ 0
  · rw [if_pos hexit]
    exact iff_of_true ⟨_, rfl⟩ (fun h => absurd h hexit)
  rw [if_neg hexit, not_ne_iff] at *
  cases result with
  -- A denial never passes.
  | denied denial =>
      refine iff_of_false Eff.not_returns_fail (fun h => ?_)
      rcases h hexit with ⟨_, _, _, hdenied, _⟩
      cases hdenied
  -- A result that passed returns where its body and outputs are found.
  | observation observation =>
      refine Eff.returns_bind.trans ?_
      constructor
      · rintro ⟨body, hbody, hrest⟩ _
        rw [(silent_storedBody observation).events, List.append_nil] at hrest
        rcases Eff.returns_ofExcept_bind.mp hrest with ⟨outputs, houtputs, haction⟩
        rcases Eff.returns_bind.mp haction with ⟨action, haction, _⟩
        exact ⟨observation, body, outputs, rfl, hbody, houtputs, action, haction⟩
      · intro h
        rcases h hexit with ⟨_, body, outputs, hsame, hbody, houtputs, action, haction⟩
        cases hsame
        refine ⟨body, hbody, ?_⟩
        rw [(silent_storedBody observation).events, List.append_nil]
        exact Eff.returns_ofExcept_bind.mpr ⟨outputs, houtputs, Eff.returns_bind.mpr
          ⟨action, haction, _, rfl⟩⟩

theorem returns_finishWebsocketStep {step : WorkflowStepTemplate} {websocketPlan : WebSocketPlan}
    {attempts : List Value} {result : WebSocketConnectResult} {past : List WorkflowEvent} :
    (finishWebsocketStep lib world step websocketPlan attempts result).Returns past ↔
      WebsocketOutputsSettle lib world step past result := by
  cases result with
  | observation observation =>
      refine Eff.returns_bind.trans ?_
      exact ⟨fun ⟨outputs, houtputs, _⟩ => ⟨outputs, houtputs⟩,
        fun ⟨outputs, houtputs⟩ => ⟨outputs, houtputs, _, rfl⟩⟩
  | denied denial => exact iff_of_true ⟨_, rfl⟩ trivial
  | connected connection => exact iff_of_false Eff.not_returns_fail id

/-- A loop and what is done with its result. -/
theorem returns_loop {α β : Type} {once : Nat → Run (Value × Option α)}
    {settles : Nat → List WorkflowEvent → Prop} {left : Nat} {past : List WorkflowEvent}
    {finish : List Value → α → Run β} {settled : List WorkflowEvent → α → Prop}
    (honce : ∀ retries past, (once retries).Returns past ↔ settles retries past)
    (hfinish : ∀ attempts result past, (finish attempts result).Returns past ↔ settled past result) :
    (retryLoop once left 0 [] >>= fun pair => finish pair.1 pair.2).Returns past ↔
      AttemptsSettle once settles left 0 past ∧
        ∀ attempts result, (retryLoop once left 0 [] past).1 = .ok (attempts, result) →
          settled (past ++ (retryLoop once left 0 [] past).2) result := by
  have hloop : (retryLoop once left 0 []).Returns past ↔ AttemptsSettle once settles left 0 past :=
    returns_retryLoop honce
  rw [Eff.returns_bind, ← hloop]
  constructor
  · rintro ⟨⟨attempts, result⟩, hloop, hrest⟩
    refine ⟨⟨_, hloop⟩, fun attempts' result' hagain => ?_⟩
    rw [hagain] at hloop
    cases hloop
    exact (hfinish _ _ _).mp hrest
  · rintro ⟨⟨⟨attempts, result⟩, hloop⟩, hrest⟩
    exact ⟨_, hloop, (hfinish _ _ _).mpr (hrest attempts result hloop)⟩

theorem returns_invokeHttpStep {step : WorkflowStepTemplate} {outputs : StepOutputs}
    {past : List WorkflowEvent} :
    (invokeHttpStep lib world plan options configuration step outputs).Returns past ↔
      HttpStepSettles lib world plan options configuration step outputs past := by
  refine Eff.returns_bind.trans (exists_congr fun requestPlan => and_congr_right fun _ => ?_)
  rw [returns_elapsed_bind, exists_eq_left]
  refine Eff.returns_ofExcept_bind.trans (exists_congr fun timeout => and_congr_right fun _ => ?_)
  rw [exists_eq_left]
  exact returns_loop (fun _ _ => returns_httpAttempt) (fun _ _ _ => returns_finishHttpStep)

theorem returns_invokeWebsocketWorkflowStep {step : WorkflowStepTemplate} {outputs : StepOutputs}
    {past : List WorkflowEvent} :
    (invokeWebsocketWorkflowStep lib world describe plan.input options configuration step
        outputs).Returns past ↔
      WebsocketStepSettles lib world describe plan options configuration step outputs past := by
  refine Eff.returns_ofExcept_bind.trans (exists_congr fun websocketPlan => and_congr_right fun _ => ?_)
  rw [Eff.returns_bind, exists_eq_left]
  have hloop := @returns_loop WebSocketConnectResult WorkflowStepRun
    (websocketAttempt lib world step websocketPlan options)
    (WebsocketAttemptSettles lib world step websocketPlan options)
    (largestRetryLimit step.onFailure + 1) past
    (finishWebsocketStep lib world step websocketPlan) (WebsocketOutputsSettle lib world step)
    (fun _ _ => returns_websocketAttempt) (fun _ _ _ => returns_finishWebsocketStep)
  -- The plan is stored, and then the loop returns.
  constructor
  · rintro ⟨_, hstored, hrest⟩
    rw [silent_storeStepPlan.events, List.append_nil] at hrest
    exact ⟨⟨_, hstored⟩, hloop.mp hrest⟩
  · rintro ⟨⟨_, hstored⟩, hrest⟩
    refine ⟨_, hstored, ?_⟩
    rw [silent_storeStepPlan.events, List.append_nil]
    exact hloop.mpr hrest

/-- A step returns exactly when it settles. -/
theorem returns_invokeStep {step : WorkflowStepTemplate} {outputs : StepOutputs}
    {past : List WorkflowEvent} :
    (invokeStep lib world describe plan options configuration step outputs).Returns past ↔
      StepSettles lib world describe plan options configuration step outputs past := by
  unfold invokeStep StepSettles
  by_cases htransport : step.transport = .webSocket
  · rw [if_pos htransport, if_pos htransport, ← returns_invokeWebsocketWorkflowStep, Eff.returns_bind]
    exact ⟨fun ⟨run, hrun, _⟩ => ⟨run, hrun⟩, fun ⟨run, hrun⟩ => ⟨run, hrun, _, rfl⟩⟩
  · rw [if_neg htransport, if_neg htransport]
    exact returns_invokeHttpStep

end

/-! ### Runs -/

/-- The steps of a run settle, from the first one up to the one that ends it. -/
def StepsSettle (one : WorkflowStepTemplate → StepOutputs → Run (WorkflowStepRun × Bool))
    (settles : WorkflowStepTemplate → StepOutputs → List WorkflowEvent → Prop) :
    List WorkflowStepTemplate → StepOutputs → List WorkflowEvent → Prop
  | [], _, _ => True
  | step :: rest, outputs, past => settles step outputs past ∧
      ∀ run, (one step outputs past).1 = .ok (run, false) → run.exit = 0 →
        StepsSettle one settles rest (insert step.stepId run.outputs outputs)
          (past ++ (one step outputs past).2)

theorem returns_invokeSteps {one : WorkflowStepTemplate → StepOutputs → Run (WorkflowStepRun × Bool)}
    {settles : WorkflowStepTemplate → StepOutputs → List WorkflowEvent → Prop}
    (hone : ∀ step outputs past, (one step outputs).Returns past ↔ settles step outputs past)
    {steps : List WorkflowStepTemplate} {progress : Progress} {past : List WorkflowEvent} :
    (invokeSteps one steps progress).Returns past ↔
      StepsSettle one settles steps progress.outputs past := by
  -- By the steps: the rest is asked only where the run goes on.
  induction steps generalizing progress past with
  | nil => exact iff_of_true ⟨_, rfl⟩ trivial
  | cons step rest ih =>
      rw [invokeSteps, Eff.returns_bind, StepsSettle, ← hone]
      constructor
      · rintro ⟨⟨run, ends⟩, hrun, hrest⟩
        refine ⟨⟨_, hrun⟩, fun run' hagain hexit => ?_⟩
        rw [hagain] at hrun
        cases hrun
        dsimp only at hrest
        rw [if_neg (not_ne_iff.mpr hexit), if_neg Bool.false_ne_true] at hrest
        exact ih.mp hrest
      · rintro ⟨⟨⟨run, ends⟩, hrun⟩, hrest⟩
        refine ⟨_, hrun, ?_⟩
        dsimp only
        -- A step that failed ends the run, and so does one that says so.
        by_cases hexit : run.exit ≠ 0
        · rw [if_pos hexit]
          exact ⟨_, rfl⟩
        rw [if_neg hexit]
        rw [not_ne_iff] at hexit
        cases ends with
        | true =>
            rw [if_pos rfl]
            exact ⟨_, rfl⟩
        | false =>
            rw [if_neg Bool.false_ne_true]
            exact ih.mpr (hrest run hrun hexit)

/-- An observation keeps everything: it lists the attempts that were started, each
    under its step and in their order, every step of it ends with the last of its
    attempts, and its exit is the documented one of the last attempt of all. -/
structure ReportsAll (observation : WorkflowObservation) (events : List WorkflowEvent) : Prop where
  started : begunAttempts events = (finishedAttempts events).map Prod.fst
  attempts : observation.steps.flatMap (fun s => s.attempts.map (fun record => (s.stepId, record))) =
    (finishedAttempts events).map (fun a => (a.1.step, a.2.record))
  results : ∀ s ∈ observation.steps, s.attempts.getLast? = some s.result
  exit : observation.exit =
    ((finishedAttempts events).getLast?.map (fun a => a.2.documentedExit)).getD 0

theorem begunAttempts_flatMap (runs : List StepOfRun) :
    begunAttempts (runs.flatMap StepOfRun.events) = runs.flatMap (fun r => begunAttempts r.events) := by
  induction runs with
  | nil => rfl
  | cons r rest ih => rw [List.flatMap_cons, begunAttempts_append, ih, List.flatMap_cons]

theorem finishedAttempts_flatMap (runs : List StepOfRun) :
    finishedAttempts (runs.flatMap StepOfRun.events) =
      runs.flatMap (fun r => finishedAttempts r.events) := by
  induction runs with
  | nil => rfl
  | cons r rest ih => rw [List.flatMap_cons, finishedAttempts_append, ih, List.flatMap_cons]

theorem flatMap_congr_of_mem {α β : Type} {f g : α → List β} {l : List α} (h : ∀ a ∈ l, f a = g a) :
    l.flatMap f = l.flatMap g := by
  rw [List.flatMap_def, List.flatMap_def, List.map_congr_left h]

/-- A run of steps that have returned reports all of them. -/
theorem RunReport.reportsAll {plan : WorkflowPlan} {runs : List StepOfRun}
    {events : List WorkflowEvent} {progress : Progress} {exit : Nat}
    (h : RunReport runs events progress.observations exit) :
    ReportsAll (concludeWorkflow plan (progress, exit)) events := by
  have hsteps : (concludeWorkflow plan (progress, exit)).steps = progress.observations := by
    unfold concludeWorkflow
    split_ifs <;> rfl
  have hexit : (concludeWorkflow plan (progress, exit)).exit = exit := by
    unfold concludeWorkflow
    by_cases hzero : exit ≠ 0
    · rw [if_pos hzero]
      rfl
    · rw [if_neg hzero]
      exact (not_ne_iff.mp hzero).symm
  refine ⟨?_, ?_, ?_, ?_⟩
  · rw [h.events, begunAttempts_flatMap, finishedAttempts_flatMap, List.map_flatMap]
    exact flatMap_congr_of_mem (fun r hr => (h.reports r hr).begun)
  · rw [hsteps, h.observations, h.events, finishedAttempts_flatMap, List.map_flatMap,
      List.flatMap_map]
    refine flatMap_congr_of_mem (fun r hr => ?_)
    have hreport := h.reports r hr
    change r.run.attempts.map (fun record => (r.step.stepId, record)) = _
    rw [hreport.records, List.map_map]
    refine List.map_congr_left (fun a ha => Prod.ext ?_ rfl)
    exact (hreport.attempts a ha).1.symm
  · rw [hsteps, h.observations]
    intro s hs
    rcases List.mem_map.mp hs with ⟨r, hr, rfl⟩
    rcases (h.reports r hr).last with ⟨a, ha, hresult, _⟩
    change r.run.attempts.getLast? = some r.run.result
    rw [(h.reports r hr).records, List.getLast?_map, ha, hresult]
    rfl
  · rw [hexit, h.exit, h.events, finishedAttempts_flatMap]
    rcases List.eq_nil_or_concat runs with rfl | ⟨front, r, rfl⟩
    · rfl
    -- The last attempt of the run is the last one of its last step.
    have hreport := h.reports r (by rw [List.concat_eq_append]; exact List.mem_append_right _ List.mem_cons_self)
    rcases hreport.last with ⟨a, ha, _, hstep⟩
    have hlast : ((front.concat r).flatMap (fun r => finishedAttempts r.events)).getLast? = some a := by
      rw [List.concat_eq_append, List.flatMap_append, List.flatMap_singleton,
        List.getLast?_append, ha]
      rfl
    rw [hlast, List.concat_eq_append, List.getLast?_append]
    change r.run.exit = a.2.documentedExit
    rw [hstep, hreport.exits a (List.mem_of_getLast? ha)]

section

variable {lib : Crates} {world : WorkflowWorld} {describe : Value → Str} {plan : WorkflowPlan}
  {options : InvokeOptions} {configuration : ProjectConfiguration}

/-- A run that adds an event has passed the checks of its plan. -/
theorem invokeWorkflow_entered {past : List WorkflowEvent} {e : WorkflowEvent}
    (h : e ∈ (invokeWorkflow lib world describe plan options configuration past).2) :
    checkWorkflow lib plan options configuration = .ok () ∧
      missingGrant options.grants plan.requiredGrants = none := by
  unfold invokeWorkflow at h
  rw [Eff.ofExcept_bind] at h
  cases hchecks : checkWorkflow lib plan options configuration with
  | error _ =>
      rw [hchecks] at h
      cases h
  | ok _ =>
      rw [hchecks] at h
      refine ⟨rfl, ?_⟩
      cases hgrants : missingGrant options.grants plan.requiredGrants with
      | none => rfl
      | some missing =>
          rw [hgrants] at h
          cases h

end

/-- A run that has sent a request returns an observation of everything exactly
    when its steps settle. -/
theorem reports_all_iff (lib : Crates) (world : WorkflowWorld) (describe : Value → Str)
    (plan : WorkflowPlan) (options : InvokeOptions) (configuration : ProjectConfiguration)
    (hsent : ∃ request, WorkflowEvent.effect (.send request) ∈
      (invokeWorkflow lib world describe plan options configuration []).2) :
    (∃ o, (invokeWorkflow lib world describe plan options configuration []).1 = .ok o ∧
        ReportsAll o (invokeWorkflow lib world describe plan options configuration []).2) ↔
      StepsSettle (invokeStep lib world describe plan options configuration)
        (StepSettles lib world describe plan options configuration) plan.steps [] [] := by
  rcases hsent with ⟨request, hsent⟩
  -- A request was sent, so the run passed its checks and holds the grants.
  rcases invokeWorkflow_entered hsent with ⟨hchecks, hgrants⟩
  rw [invokeWorkflow_eq hchecks hgrants]
  have hreturns : (invokeSteps (invokeStep lib world describe plan options configuration) plan.steps
      ⟨[], []⟩).Returns [] ↔ StepsSettle (invokeStep lib world describe plan options configuration)
        (StepSettles lib world describe plan options configuration) plan.steps [] [] :=
    returns_invokeSteps (fun _ _ _ => returns_invokeStep)
  rw [← hreturns]
  constructor
  -- It returns an observation exactly where its steps do.
  · rintro ⟨o, hok, _⟩
    cases hrun : (invokeSteps (invokeStep lib world describe plan options configuration) plan.steps
        ⟨[], []⟩ []).1 with
    | error e =>
        rw [hrun] at hok
        cases hok
    | ok ended => exact ⟨ended, hrun⟩
  · rintro ⟨⟨progress, exit⟩, hrun⟩
    -- And what it returns reports every attempt.
    rcases invokeSteps_reported (fun _ _ _ _ _ => invokeStep_reported) hrun with
      ⟨runs, observations, hobservations, _, hreport⟩
    rw [List.nil_append] at hobservations
    rw [← hobservations] at hreport
    refine ⟨concludeWorkflow plan (progress, exit), ?_, hreport.reportsAll⟩
    rw [hrun]
    rfl

/-! ### A lost page -/

section

variable {lib : Crates} {world : WorkflowWorld} {describe : Value → Str} {plan : WorkflowPlan}
  {options : InvokeOptions} {configuration : ProjectConfiguration}

/-- An exchange that is observed has sent its request. -/
theorem invoke_sent {w : World} {requestPlan : RequestPlan} {past : List Event} {o : Observation}
    (h : (invoke lib w requestPlan options past).1 = .ok (.observation o)) :
    ∃ request, Event.send request ∈ (invoke lib w requestPlan options past).2 := by
  unfold invoke at h ⊢
  rcases Eff.bind_ok h with ⟨outcome, hprepare, h⟩
  cases outcome with
  | error d => cases h
  | ok prepared =>
      refine ⟨prepared.request, Eff.mem_bind.mpr (Or.inr ⟨_, hprepare, Eff.mem_bind.mpr (Or.inl ?_)⟩)⟩
      exact List.mem_cons_of_mem _ List.mem_cons_self

/-- What an attempt does is between its marks. -/
theorem mem_markedAttempt {α : Type} {attempt : Attempt} {result : α → AttemptResult}
    {program : World → Eff Event ExecError α} {past : List WorkflowEvent} {e : WorkflowEvent}
    (h : e ∈ (executes world program (past ++ [.started attempt])).2) :
    e ∈ (markedAttempt world attempt result program past).2 := by
  refine Eff.mem_bind.mpr (Or.inr ⟨(), rfl, Eff.mem_bind.mpr (Or.inl ?_)⟩)
  exact h

theorem httpAttempt_sent {step : WorkflowStepTemplate} {since timeout retries : Nat}
    {requestPlan : RequestPlan} {past : List WorkflowEvent} {record : Value} {o : Observation}
    {with' : InvokeOptions}
    (h : (httpAttempt lib world step options since timeout (fun w => invoke lib w requestPlan with')
      retries past).1 = .ok (record, some (.observation o))) :
    ∃ request, WorkflowEvent.effect (.send request) ∈ (httpAttempt lib world step options since
      timeout (fun w => invoke lib w requestPlan with') retries past).2 := by
  unfold httpAttempt at h ⊢
  rcases Eff.bind_ok h with ⟨outcome, hmarked, h⟩
  -- A failure hands on no observation.
  cases outcome with
  | error e =>
      rcases Eff.bind_ok h with ⟨again, _, h⟩
      cases again with
      | true => cases h
      | false => cases h
  | ok result =>
      rcases Eff.bind_ok h with ⟨action, _, h⟩
      rcases Eff.bind_ok h with ⟨again, _, h⟩
      have hresult : result = .observation o := by
        cases again with
        | true => cases h
        | false =>
            cases h
            rfl
      subst hresult
      -- The attempt returned one, so the request was sent.
      have hinvoke := Except.ok.inj hmarked
      rcases invoke_sent hinvoke with ⟨request, hrequest⟩
      exact ⟨request, Eff.mem_bind.mpr (Or.inl (mem_markedAttempt (List.mem_map_of_mem hrequest)))⟩

/-- The result of a loop is that of one of its attempts. -/
theorem retryLoop_found {α : Type} {once : Nat → Run (Value × Option α)} {left retries : Nat}
    {attempts records : List Value} {found : α} {past : List WorkflowEvent}
    (h : (retryLoop once left retries attempts past).1 = .ok (records, found)) :
    ∃ k before record, (once k before).1 = .ok (record, some found) ∧
      ∀ e ∈ (once k before).2, e ∈ (retryLoop once left retries attempts past).2 := by
  induction left generalizing retries attempts past with
  | zero => cases h
  | succ left ih =>
      rw [retryLoop] at h ⊢
      rcases Eff.bind_ok h with ⟨⟨record, outcome⟩, hrun, h⟩
      cases outcome with
      | some a =>
          cases h
          exact ⟨retries, past, record, hrun, fun e he => Eff.mem_bind.mpr (Or.inl he)⟩
      | none =>
          rcases ih h with ⟨k, before, record', hk, hall⟩
          exact ⟨k, before, record', hk, fun e he => Eff.mem_bind.mpr (Or.inr ⟨_, hrun, hall e he⟩)⟩

/-- A request step that passes has sent a request. -/
theorem invokeStep_sent {step : WorkflowStepTemplate} {outputs : StepOutputs}
    {past : List WorkflowEvent} {run : WorkflowStepRun} {ends : Bool} (htransport : step.transport = .http)
    (h : (invokeStep lib world describe plan options configuration step outputs past).1 =
      .ok (run, ends)) (hexit : run.exit = 0) :
    ∃ request, WorkflowEvent.effect (.send request) ∈
      (invokeStep lib world describe plan options configuration step outputs past).2 := by
  unfold invokeStep at h ⊢
  rw [htransport, if_neg (by decide)] at h ⊢
  rcases Eff.bind_ok h with ⟨requestPlan, hplan, h⟩
  rcases Eff.bind_ok h with ⟨since, hsince, h⟩
  rcases Eff.bind_ok h with ⟨timeout, htimeout, h⟩
  rcases Eff.bind_ok h with ⟨⟨attempts, result⟩, hloop, h⟩
  -- The step passed, so it has an observation.
  have hpassed : ∃ o, result = .observation o := by
    cases result with
    | observation o => exact ⟨o, rfl⟩
    | denied d =>
        unfold finishHttpStep at h
        dsimp only at h
        split_ifs at h with hdenied
        · cases h
          exact absurd hexit hdenied
        · cases h
  rcases hpassed with ⟨o, rfl⟩
  -- An attempt of the loop returned it, and sent the request.
  rcases retryLoop_found hloop with ⟨k, before, record, hk, hall⟩
  rcases httpAttempt_sent hk with ⟨request, hrequest⟩
  exact ⟨request, Eff.mem_bind.mpr (Or.inr ⟨_, hplan, Eff.mem_bind.mpr (Or.inr ⟨_, hsince,
    Eff.mem_bind.mpr (Or.inr ⟨_, htimeout, Eff.mem_bind.mpr (Or.inl (hall _ hrequest))⟩)⟩)⟩)⟩

/-- A run whose first step is a request that passes has sent it. -/
theorem sent_of_first {first : WorkflowStepTemplate} {rest : List WorkflowStepTemplate}
    (hchecks : checkWorkflow lib plan options configuration = .ok ())
    (hgrants : missingGrant options.grants plan.requiredGrants = none)
    (hsteps : plan.steps = first :: rest) (htransport : first.transport = .http)
    (h : (invokeStep lib world describe plan options configuration first [] []).1.toOption.map
      (fun r => r.1.exit) = some 0) :
    ∃ request, WorkflowEvent.effect (.send request) ∈
      (invokeWorkflow lib world describe plan options configuration []).2 := by
  rcases exists_ok_of_toOption h with ⟨⟨run, ends⟩, hrun, hexit⟩
  rcases invokeStep_sent htransport hrun hexit with ⟨request, hrequest⟩
  refine ⟨request, ?_⟩
  rw [invokeWorkflow_eq hchecks hgrants, hsteps]
  exact Eff.mem_bind.mpr (Or.inl hrequest)

/-- The steps of a run that ends settle. -/
theorem settles_of_steps {steps : List WorkflowStepTemplate} {exit : Nat} (hsteps : plan.steps = steps)
    (h : (invokeSteps (invokeStep lib world describe plan options configuration) steps ⟨[], []⟩
      []).1.toOption.map (fun r => r.2) = some exit) :
    StepsSettle (invokeStep lib world describe plan options configuration)
      (StepSettles lib world describe plan options configuration) plan.steps [] [] := by
  rcases exists_ok_of_toOption h with ⟨ended, hended, _⟩
  rw [hsteps]
  exact (returns_invokeSteps (fun _ _ _ => returns_invokeStep)).mp ⟨ended, hended⟩

end

theorem pages_checks (steps : List WorkflowStepTemplate) :
    checkWorkflow referenceCrates (pagesWorkflow steps) pagesOptions .default = .ok () :=
  checkWorkflow_sealed (WorkflowPlan.verifySeal_sealed _ _) rfl rfl rfl

theorem pages_granted (steps : List WorkflowStepTemplate) :
    missingGrant pagesOptions.grants (pagesWorkflow steps).requiredGrants = none :=
  missingGrant_eq_none.mpr (fun _ hg => hg)

theorem plainSteps_http : ∀ step ∈ plainSteps, step.transport = .http := by decide

/-- Two pages are requested, and both are reported. -/
theorem reports_all_pages :
    ∃ o, (invokeWorkflow referenceCrates pagesWorld (fun _ => []) (pagesWorkflow plainSteps)
        pagesOptions .default []).1 = .ok o ∧
      ReportsAll o (invokeWorkflow referenceCrates pagesWorld (fun _ => [])
        (pagesWorkflow plainSteps) pagesOptions .default []).2 := by
  have hfirst : (invokeStep referenceCrates pagesWorld (fun _ => []) (pagesWorkflow plainSteps)
      pagesOptions .default (pageStep "a" "b" 1) [] []).1.toOption.map (fun r => r.1.exit) = some 0 := by
    rw [invokeStep_sealed rfl]
    decide +kernel
  have hall : (invokeSteps (invokeStep referenceCrates pagesWorld (fun _ => [])
      (pagesWorkflow plainSteps) pagesOptions .default) plainSteps ⟨[], []⟩ []).1.toOption.map
        (fun r => r.2) = some 0 := by
    rw [invokeSteps_congr (fun step hstep => invokeStep_sealed (plainSteps_http step hstep))]
    decide +kernel
  exact (reports_all_iff _ _ _ _ _ _ (sent_of_first (pages_checks plainSteps)
    (pages_granted plainSteps) rfl rfl hfirst)).mpr (settles_of_steps rfl hall)

end Kahea
