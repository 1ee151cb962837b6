import Kahea.Workflow.Attempts

/-!
# The Reports of a Run

What the observation of a workflow run lists, against the marks of the run.

A step that returns lists every attempt it has made and stands for the last one
of them, and a run lists the steps that have returned. So an observation is as
complete as the marks of the run (`invokeSteps_reported`). What is not in it is
lost with an error: a step that ends in one ends the run, and an error carries
no observations.

## Main definitions

* `StepReport`: What a step that returned says of its marks.
* `RunReport`: What the steps of a run say of its marks.

## Theorems

* `invokeStep_reported`: The report of a step.
* `invokeSteps_reported`: The report of a run.
-/

namespace Kahea

/-! ### Steps -/

/-- What a step that returned says of its marks: its attempts, and the result
    and the exit of the last one. -/
structure StepReport (step : WorkflowStepTemplate) (events : List WorkflowEvent)
    (run : WorkflowStepRun) : Prop extends Reported step events run.attempts where
  last : ∃ a, (finishedAttempts events).getLast? = some a ∧ run.result = a.2.record ∧
    run.exit = a.2.exit

section

variable {lib : Crates} {world : WorkflowWorld} {describe : Value → Str} {plan : WorkflowPlan}
  {options : InvokeOptions} {configuration : ProjectConfiguration} {α : Type}

/-- The report of a loop, with what is done before it and behind it. -/
theorem stepReport_of_loop {step : WorkflowStepTemplate} {result : α → AttemptResult}
    {once : Nat → Run (Value × Option α)} {left : Nat} {records : List Value} {found : α}
    {before after past : List WorkflowEvent} {run : WorkflowStepRun}
    (honce : ∀ retries past, Attempting step retries result (once retries past))
    (hloop : (retryLoop once left 0 [] past).1 = .ok (records, found))
    (hbefore : ∀ e ∈ before, e.isMark = false) (hafter : ∀ e ∈ after, e.isMark = false)
    (hattempts : run.attempts = records) (hresult : run.result = (result found).record)
    (hexit : run.exit = (result found).exit) :
    StepReport step (before ++ ((retryLoop once left 0 [] past).2 ++ after)) run := by
  rcases retryLoop_reported honce hloop with ⟨hbegun, hsteps, hnumbers, hrecords, hlast⟩
  -- Around the loop there is no mark, so its attempts are all of them.
  have hfinished : finishedAttempts (before ++ ((retryLoop once left 0 [] past).2 ++ after)) =
      finishedAttempts (retryLoop once left 0 [] past).2 := by
    rw [finishedAttempts_append, finishedAttempts_append, finishedAttempts_unmarked hbefore,
      finishedAttempts_unmarked hafter, List.append_nil, List.nil_append]
  have hstarted : begunAttempts (before ++ ((retryLoop once left 0 [] past).2 ++ after)) =
      begunAttempts (retryLoop once left 0 [] past).2 := by
    rw [begunAttempts_append, begunAttempts_append, begunAttempts_unmarked hbefore,
      begunAttempts_unmarked hafter, List.append_nil, List.nil_append]
  refine ⟨⟨?_, ?_, ?_, ?_, ?_⟩, ?_⟩
  · rw [hstarted, hfinished]
    exact hbegun
  · rw [hfinished]
    exact fun a ha => (hsteps a ha).1
  · rw [hfinished]
    exact fun a ha => (hsteps a ha).2
  · rw [hfinished, hnumbers, List.range_eq_range']
  · rw [hattempts, hfinished, hrecords, List.nil_append]
  -- The last one made the result.
  · rw [Option.map_eq_some_iff] at hlast
    rcases hlast with ⟨a, ha, hfound⟩
    refine ⟨a, ?_, ?_, ?_⟩
    · rw [hfinished]
      exact ha
    · rw [hresult, hfound]
    · rw [hexit, hfound]

theorem finishHttpStep_returns {step : WorkflowStepTemplate} {requestPlan : RequestPlan}
    {attempts : List Value} {result : InvocationResult} {past : List WorkflowEvent}
    {run : WorkflowStepRun} {ends : Bool}
    (h : (finishHttpStep lib world step requestPlan attempts result past).1 = .ok (run, ends)) :
    run.attempts = attempts ∧ run.result = result.toJson ∧ run.exit = result.exit := by
  unfold finishHttpStep at h
  by_cases hexit : result.exit ≠ 0
  · rw [if_pos hexit] at h
    cases h
    exact ⟨rfl, rfl, rfl⟩
  · rw [if_neg hexit] at h
    cases result with
    | denied denial => cases h
    | observation observation =>
        rcases Eff.bind_ok h with ⟨body, _, h⟩
        rcases Eff.bind_ok h with ⟨outputs, _, h⟩
        rcases Eff.bind_ok h with ⟨action, _, h⟩
        cases h
        exact ⟨rfl, rfl, (not_ne_iff.mp hexit).symm⟩

theorem finishWebsocketStep_returns {step : WorkflowStepTemplate} {websocketPlan : WebSocketPlan}
    {attempts : List Value} {result : WebSocketConnectResult} {past : List WorkflowEvent}
    {run : WorkflowStepRun}
    (h : (finishWebsocketStep lib world step websocketPlan attempts result past).1 = .ok run) :
    run.attempts = attempts ∧ run.result = (AttemptResult.webSocket result).record ∧
      run.exit = (AttemptResult.webSocket result).exit := by
  cases result with
  | observation observation =>
      rcases Eff.bind_ok h with ⟨outputs, _, h⟩
      cases h
      exact ⟨rfl, rfl, rfl⟩
  | denied denial =>
      cases h
      exact ⟨rfl, rfl, rfl⟩
  | connected connection => cases h

/-- The report of a request step. -/
theorem invokeHttpStep_reported {step : WorkflowStepTemplate} {outputs : StepOutputs}
    {past : List WorkflowEvent} {run : WorkflowStepRun} {ends : Bool}
    (h : (invokeHttpStep lib world plan options configuration step outputs past).1 =
      .ok (run, ends)) :
    StepReport step (invokeHttpStep lib world plan options configuration step outputs past).2 run := by
  unfold invokeHttpStep at h ⊢
  rcases Eff.bind_ok h with ⟨requestPlan, hplan, h⟩
  rw [elapsed_bind] at h
  rcases Eff.ofExcept_bind_ok h with ⟨timeout, htimeout, h⟩
  rcases Eff.bind_ok h with ⟨⟨attempts, result⟩, hloop, h⟩
  rw [Eff.bind_of_ok hplan, elapsed_bind, Eff.ofExcept_bind, htimeout]
  dsimp only
  rw [Eff.bind_of_ok hloop]
  rcases finishHttpStep_returns h with ⟨hattempts, hresult, hexit⟩
  exact stepReport_of_loop (fun retries => httpAttempt_attempting step options _ timeout retries _
    (fun _ => invoke_contracted)) hloop
    ((unmarked_planHttpStep _ _ _ _ past).2) ((pausing_finishHttpStep _ _ _ _).unmarked _).2 hattempts hresult
    hexit

/-- The report of a session step. -/
theorem invokeWebsocketWorkflowStep_reported {step : WorkflowStepTemplate} {outputs : StepOutputs}
    {inputs : Value} {past : List WorkflowEvent} {run : WorkflowStepRun}
    (h : (invokeWebsocketWorkflowStep lib world describe inputs options configuration step outputs
      past).1 = .ok run) :
    StepReport step (invokeWebsocketWorkflowStep lib world describe inputs options configuration step
      outputs past).2 run := by
  unfold invokeWebsocketWorkflowStep at h ⊢
  rcases Eff.ofExcept_bind_ok h with ⟨websocketPlan, hplan, h⟩
  rcases Eff.bind_ok h with ⟨_, hstored, h⟩
  rcases Eff.bind_ok h with ⟨⟨attempts, result⟩, hloop, h⟩
  rw [Eff.ofExcept_bind, hplan]
  dsimp only
  rw [Eff.bind_of_ok hstored]
  dsimp only
  rw [Eff.bind_of_ok hloop]
  rcases finishWebsocketStep_returns h with ⟨hattempts, hresult, hexit⟩
  exact stepReport_of_loop (fun retries => websocketAttempt_attempting step websocketPlan options retries) hloop
    ((pausing_storeStepPlan _ _).unmarked _).2 ((pausing_finishWebsocketStep _ _ _ _).unmarked _).2 hattempts hresult
    hexit

/-- The report of a step of either transport. -/
theorem invokeStep_reported {step : WorkflowStepTemplate} {outputs : StepOutputs}
    {past : List WorkflowEvent} {run : WorkflowStepRun} {ends : Bool}
    (h : (invokeStep lib world describe plan options configuration step outputs past).1 =
      .ok (run, ends)) :
    StepReport step (invokeStep lib world describe plan options configuration step outputs past).2
      run := by
  unfold invokeStep at h ⊢
  by_cases htransport : step.transport = .webSocket
  · rw [if_pos htransport] at h ⊢
    rcases Eff.bind_ok h with ⟨_, hrun, h⟩
    cases h
    rw [Eff.bind_of_ok hrun]
    change StepReport step (_ ++ []) run
    rw [List.append_nil]
    exact invokeWebsocketWorkflowStep_reported hrun
  · rw [if_neg htransport] at h ⊢
    exact invokeHttpStep_reported h

end

/-! ### Runs -/

/-- A step of a run that has returned, with its events. -/
structure StepOfRun where
  step : WorkflowStepTemplate
  events : List WorkflowEvent
  run : WorkflowStepRun

/-- What the steps of a run say of its marks. Every step but the last one has
    passed, and the run stands for the last one. -/
structure RunReport (runs : List StepOfRun) (events : List WorkflowEvent)
    (observations : List WorkflowStepObservation) (exit : Nat) : Prop where
  events : events = runs.flatMap StepOfRun.events
  reports : ∀ r ∈ runs, StepReport r.step r.events r.run
  observations : observations = runs.map (fun r => r.run.observation r.step.stepId)
  exit : exit = (runs.getLast?.map (fun r => r.run.exit)).getD 0

/-- The report of a run that ends with its first step. -/
theorem RunReport.single {step : WorkflowStepTemplate} {events : List WorkflowEvent}
    {run : WorkflowStepRun} {exit : Nat} (h : StepReport step events run) (hexit : exit = run.exit) :
    RunReport [⟨step, events, run⟩] (events ++ []) [run.observation step.stepId] exit := by
  refine ⟨rfl, fun r hr => ?_, rfl, hexit⟩
  cases List.mem_singleton.mp hr
  exact h

/-- The report of a run. -/
theorem invokeSteps_reported {one : WorkflowStepTemplate → StepOutputs → Run (WorkflowStepRun × Bool)}
    (hone : ∀ step outputs past run ends, (one step outputs past).1 = .ok (run, ends) →
      StepReport step (one step outputs past).2 run)
    {steps : List WorkflowStepTemplate} {progress last : Progress} {exit : Nat}
    {past : List WorkflowEvent} (h : (invokeSteps one steps progress past).1 = .ok (last, exit)) :
    ∃ runs observations, last.observations = progress.observations ++ observations ∧
      runs.map StepOfRun.step <+: steps ∧
      RunReport runs (invokeSteps one steps progress past).2 observations exit := by
  -- By the steps, each with the report of its own run.
  induction steps generalizing progress past with
  | nil =>
      cases h
      exact ⟨[], [], (List.append_nil _).symm, List.prefix_rfl, rfl, fun r hr => absurd hr List.not_mem_nil,
        rfl, rfl⟩
  | cons step rest ih =>
      rw [invokeSteps] at h ⊢
      rcases Eff.bind_ok h with ⟨⟨run, ends⟩, hrun, hrest⟩
      rw [Eff.bind_of_ok hrun]
      have hreport := hone step progress.outputs past run ends hrun
      generalize (one step progress.outputs past).2 = added at hreport hrest ⊢
      dsimp only at hrest ⊢
      -- A step that failed, or one that ends the workflow, is the last one.
      by_cases hexit : run.exit ≠ 0
      · rw [if_pos hexit] at hrest ⊢
        cases hrest
        exact ⟨[⟨step, added, run⟩], _, rfl, List.prefix_append [step] rest, .single hreport rfl⟩
      rw [if_neg hexit] at hrest ⊢
      rw [not_ne_iff] at hexit
      by_cases hends : ends = true
      · rw [if_pos hends] at hrest ⊢
        cases hrest
        exact ⟨[⟨step, added, run⟩], _, rfl, List.prefix_append [step] rest, .single hreport hexit.symm⟩
      · rw [if_neg hends] at hrest ⊢
        rcases ih hrest with ⟨runs, observations, hlast, hfront, hreports⟩
        refine ⟨⟨step, added, run⟩ :: runs, run.observation step.stepId :: observations, ?_, ?_, ?_,
          fun r hr => ?_, ?_, ?_⟩
        · rw [hlast, List.append_assoc]
          rfl
        · exact (List.cons_prefix_cons).mpr ⟨rfl, hfront⟩
        · rw [hreports.events]
          rfl
        · rcases List.mem_cons.mp hr with rfl | hr
          · exact hreport
          · exact hreports.reports r hr
        · rw [hreports.observations]
          rfl
        -- The exit is the one of the last step.
        · rw [hreports.exit]
          cases runs with
          | nil => exact hexit.symm
          | cons r rest => rfl

end Kahea
