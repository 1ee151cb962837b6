import Kahea.Exec.Authority
import Kahea.Exec.Exits
import Kahea.Workflow.Marks
import Kahea.Workflow.Ordering
import Kahea.Workflow.Settling

/-!
# The Authority of a Run

What a workflow run may do, whatever is planned while it is under way.

A run plans its request steps from the outputs of the steps before, so the plans
its executors are given are not in the workflow plan anyone has approved. But an
event of a run has one of few origins (`invokeWorkflow_occurs`): planning a
request reads files, and everything else is done by an executor for a plan that
the planner has made, or that comes with the workflow. What the executors check
is therefore checked by every run, and a request plan of the planner lists the
grant of its credential.

## Main definitions

* `Requested`, `Connected`: The plans of a run.
* `Occurs`: Where an event of a run comes from.
* `Event.Confined`: What holds of the effects of a run.

## Theorems

* `invokeWorkflow_occurs`: The origins of the events of a run.
* `run_confined`: The effects of every run.
-/

namespace Kahea

/-! ### Where the events of a run come from -/

/-- A request plan that the planner has made. -/
def Requested (lib : Crates) (configuration : ProjectConfiguration) (requestPlan : RequestPlan) :
    Prop :=
  ∃ w source operation planOptions past, (buildPlanWithConfiguration lib w source operation
    planOptions configuration past).1 = .ok requestPlan

/-- A session plan of a step. -/
def Connected (lib : Crates) (describe : Value → Str) (plan : WorkflowPlan)
    (configuration : ProjectConfiguration) (websocketPlan : WebSocketPlan) : Prop :=
  ∃ step ∈ plan.steps, step.transport = .webSocket ∧ ∃ outputs,
    planWebsocketStep lib describe configuration step plan.input outputs = .ok websocketPlan

/-- Where an event of a run comes from. -/
inductive Occurs (lib : Crates) (describe : Value → Str) (plan : WorkflowPlan)
    (options : InvokeOptions) (configuration : ProjectConfiguration) : WorkflowEvent → Prop
  | slept (nanoseconds : Nat) : Occurs lib describe plan options configuration (.slept nanoseconds)
  | started (attempt : Attempt) : Occurs lib describe plan options configuration (.started attempt)
  | failed (attempt : Attempt) (text : Str) :
      Occurs lib describe plan options configuration (.ended attempt (.error text))
  | readFile (path : Str) : Occurs lib describe plan options configuration (.effect (.readFile path))
  | request {requestPlan : RequestPlan} {w : World} {given : InvokeOptions} {past : List Event}
      {e : Event} (planned : Requested lib configuration requestPlan)
      (grants : given.grants = options.grants) (mem : e ∈ (invoke lib w requestPlan given past).2) :
      Occurs lib describe plan options configuration (.effect e)
  | response {requestPlan : RequestPlan} {w : World} {given : InvokeOptions} {past : List Event}
      {result : InvocationResult} (attempt : Attempt)
      (planned : Requested lib configuration requestPlan) (grants : given.grants = options.grants)
      (returned : (invoke lib w requestPlan given past).1 = .ok result) :
      Occurs lib describe plan options configuration (.ended attempt (.http result))
  | session {websocketPlan : WebSocketPlan} {w : World} {given : InvokeOptions} {past : List Event}
      {e : Event} (planned : Connected lib describe plan configuration websocketPlan)
      (grants : given.grants = options.grants)
      (mem : e ∈ (executeWebsocket lib w websocketPlan given past).2) :
      Occurs lib describe plan options configuration (.effect e)
  | closed {websocketPlan : WebSocketPlan} {w : World} {given : InvokeOptions} {past : List Event}
      {result : WebSocketConnectResult} (attempt : Attempt)
      (planned : Connected lib describe plan configuration websocketPlan)
      (grants : given.grants = options.grants)
      (returned : (executeWebsocket lib w websocketPlan given past).1 = .ok result) :
      Occurs lib describe plan options configuration (.ended attempt (.webSocket result))

section

variable {lib : Crates} {world : WorkflowWorld} {describe : Value → Str} {plan : WorkflowPlan}
  {options : InvokeOptions} {configuration : ProjectConfiguration}

theorem Pausing.occurs {ε α : Type} {m : Eff WorkflowEvent ε α} (h : Pausing m) :
    Ensures m (fun _ => True) (Occurs lib describe plan options configuration) :=
  h.ensures (fun delay => .slept delay)

/-- The events of a program inside a run. -/
theorem executes_of {ε α : Type} {program : World → Eff Event ε α} {P : WorkflowEvent → Prop}
    (h : ∀ w past, ∀ e ∈ (program w past).2, P (.effect e)) :
    Ensures (executes world program) (fun a => ∃ w past, (program w past).1 = .ok a) P := by
  intro past
  refine ⟨fun a ha => ⟨_, _, ha⟩, fun e he => ?_⟩
  rcases List.mem_map.mp he with ⟨event, hevent, rfl⟩
  exact h _ _ event hevent

/-- An attempt is its marks, and its program between them. -/
theorem markedAttempt_of {α : Type} {attempt : Attempt} {result : α → AttemptResult}
    {program : World → Eff Event ExecError α} {P : WorkflowEvent → Prop}
    (hstarted : P (.started attempt)) (hfailed : ∀ text, P (.ended attempt (.error text)))
    (hadded : ∀ w past, ∀ e ∈ (program w past).2, P (.effect e))
    (hended : ∀ w past a, (program w past).1 = .ok a → P (.ended attempt (result a))) :
    Ensures (markedAttempt world attempt result program) (fun _ => True) P := by
  refine .bind (.emit hstarted) (fun _ _ => ?_)
  refine .bind (.attempt (executes_of hadded)) (fun outcome houtcome => ?_)
  refine .bind (.emit ?_) (fun _ _ => .pure trivial)
  cases outcome with
  | error e => exact hfailed _
  | ok a =>
      rcases houtcome a rfl with ⟨w, past, hrun⟩
      exact hended w past a hrun

/-- What holds of the events of every attempt holds of those of all of them. -/
theorem retryLoop_of {α : Type} {once : Nat → Run (Value × Option α)} {P : WorkflowEvent → Prop}
    (h : ∀ retries, Ensures (once retries) (fun _ => True) P) (left retries : Nat)
    (records : List Value) :
    Ensures (retryLoop once left retries records) (fun _ => True) P := by
  induction left generalizing retries records with
  | zero => exact .fail
  | succ left ih =>
      refine .bind (h retries) (fun pair _ => ?_)
      rcases pair with ⟨record, outcome⟩
      cases outcome with
      | some a => exact .pure trivial
      | none => exact ih (retries + 1) _

/-- Planning a request step. -/
theorem planHttpStep_occurs (step : WorkflowStepTemplate) (outputs : StepOutputs) :
    Ensures (planHttpStep lib world plan configuration step outputs) (Requested lib configuration)
      (Occurs lib describe plan options configuration) := by
  refine .bind (.ofExcept (fun _ h => h)) (fun operation _ => .bind (.ofExcept (fun _ h => h))
    (fun explicit _ => .bind (.ofExcept (fun _ h => h)) (fun input _ =>
      .bind (.ofExcept (fun _ h => h)) (fun checks _ => ?_))))
  refine .bind (.mapError (executes_of (fun w past e he => ?_))) (fun requestPlan hplanned => ?_)
  · rcases (buildPlanWithConfiguration_ensures past).2 e he with ⟨path, _, rfl⟩
    exact .readFile path
  · rcases hplanned with ⟨w, past, hplanned⟩
    exact .bind (pausing_storeStepPlan step _).occurs
      (fun _ _ => .pure ⟨w, _, _, _, past, hplanned⟩)

theorem invokeHttpStep_occurs (step : WorkflowStepTemplate) (outputs : StepOutputs) :
    Ensures (invokeHttpStep lib world plan options configuration step outputs) (fun _ => True)
      (Occurs lib describe plan options configuration) := by
  refine .bind (planHttpStep_occurs step outputs) (fun requestPlan hplanned => ?_)
  refine .bind pausing_elapsed.occurs (fun since _ => .bind (.ofExcept (fun _ h => h))
    (fun timeout _ => .bind (retryLoop_of (fun retries => ?_) _ _ _) (fun pair _ =>
      (pausing_finishHttpStep step requestPlan pair.1 pair.2).occurs)))
  refine .bind (markedAttempt_of (.started _) (.failed _)
    (fun w past e he => .request hplanned (by rfl) he) (fun w past result hresult =>
      .response _ hplanned (by rfl) hresult)) (fun outcome _ => Pausing.occurs ?_)
  cases outcome with
  | ok result =>
      exact (pausing_failureAction _ result).bind (fun action =>
        (pausing_goesOn _ _ action).bind (fun _ => .pure _))
  | error e =>
      refine (pausing_goesOn _ _ _).bind (fun again => ?_)
      cases again with
      | true => exact .pure _
      | false => exact .fail _

theorem invokeWebsocketStep_occurs {step : WorkflowStepTemplate} (outputs : StepOutputs)
    (hstep : step ∈ plan.steps) (htransport : step.transport = .webSocket) :
    Ensures (invokeWebsocketWorkflowStep lib world describe plan.input options configuration step
      outputs) (fun _ => True) (Occurs lib describe plan options configuration) := by
  refine .bind (.ofExcept (fun _ h => h)) (fun websocketPlan hplanned => ?_)
  have hconnected : Connected lib describe plan configuration websocketPlan :=
    ⟨step, hstep, htransport, outputs, hplanned⟩
  -- The plan is stored, the clock read, and then the attempts are made.
  refine .bind (pausing_storeStepPlan step _).occurs (fun _ _ =>
    .bind (retryLoop_of (fun retries => ?_) _ _ _) (fun pair _ =>
      (pausing_finishWebsocketStep step websocketPlan pair.1 pair.2).occurs))
  refine .bind pausing_elapsed.occurs (fun since _ => .bind (.ofExcept (fun _ h => h))
    (fun timeout _ => .bind (markedAttempt_of (.started _) (.failed _) (fun w past e he =>
      .session hconnected (by rfl) he) (fun w past result hresult => .closed _ hconnected (by rfl) hresult))
      (fun outcome _ => Pausing.occurs ?_)))
  -- After an attempt there may be a pause.
  rcases outcome with e | connected | observation | denial
  · refine (pausing_goesOn _ _ _).bind (fun again => ?_)
    cases again with
    | true => exact .pure _
    | false => exact .fail _
  · exact .fail _
  · exact (pausing_goesOn _ _ _).bind (fun _ => .pure _)
  · exact .pure _

theorem invokeSteps_of {one : WorkflowStepTemplate → StepOutputs → Run (WorkflowStepRun × Bool)}
    {P : WorkflowEvent → Prop} {steps : List WorkflowStepTemplate}
    (h : ∀ step ∈ steps, ∀ outputs, Ensures (one step outputs) (fun _ => True) P)
    (progress : Progress) : Ensures (invokeSteps one steps progress) (fun _ => True) P := by
  induction steps generalizing progress with
  | nil => exact .pure trivial
  | cons step rest ih =>
      refine .bind (h step List.mem_cons_self progress.outputs) (fun pair _ => ?_)
      rcases pair with ⟨run, ends⟩
      dsimp only
      split_ifs
      · exact .pure trivial
      · exact .pure trivial
      · exact ih (fun other hother => h other (List.mem_cons_of_mem step hother)) _

/-- The origins of the events of a run. -/
theorem invokeWorkflow_occurs {past : List WorkflowEvent} {e : WorkflowEvent}
    (he : e ∈ (invokeWorkflow lib world describe plan options configuration past).2) :
    Occurs lib describe plan options configuration e := by
  have hrun : Ensures (invokeWorkflow lib world describe plan options configuration)
      (fun _ => True) (Occurs lib describe plan options configuration) := by
    refine .bind (.ofExcept (fun _ h => h)) (fun _ _ => ?_)
    -- A denied run has no event.
    cases missingGrant options.grants plan.requiredGrants with
    | some missing => exact .pure trivial
    | none =>
        refine .bind (invokeSteps_of (fun step hstep outputs => ?_) _) (fun last _ => ?_)
        -- An event of a step is one of its transport.
        · unfold invokeStep
          by_cases htransport : step.transport = .webSocket
          · rw [if_pos htransport]
            exact .bind (invokeWebsocketStep_occurs outputs hstep htransport)
              (fun _ _ => .pure trivial)
          · rw [if_neg htransport]
            exact invokeHttpStep_occurs step outputs
        · rcases last with ⟨progress, exit⟩
          dsimp only
          split_ifs
          · exact .pure trivial
          · exact .pure trivial
  exact (hrun past).2 e he

end

/-! ### What a run may do -/

/-- What holds of the effects of a run: a connection goes to addresses that are
    granted, and a credential leaves with its grant. -/
def Event.Confined (options : InvokeOptions) : Event → Prop
  | .connect scheme host port addresses => Admitted options.grants scheme host port addresses
  | .send request => ∀ profile ∈ request.credentials, "secret:" ++ profile ∈ options.grants
  | _ => True

/-- A result has the exit of its outcome, and a denial names what is missing. -/
def AttemptResult.Founded (options : InvokeOptions) : AttemptResult → Prop
  | .http result => result.Contracted ∧ result.Founded options
  | .webSocket result => result.Contracted ∧ result.Founded options
  | .error _ => True

/-- What holds of a run: it has no event unless the plan is sealed and its grants
    are held, its effects are confined and its results are founded. -/
structure ConfinedRun (lib : Crates) (plan : WorkflowPlan) (options : InvokeOptions)
    (events : List WorkflowEvent) : Prop where
  sealed : events ≠ [] → plan.verifySeal lib = true
  granted : events ≠ [] → ∀ g ∈ plan.requiredGrants, g ∈ options.grants
  effects : ∀ e ∈ effects events, e.Confined options
  results : ∀ attempt result, .ended attempt result ∈ events → result.Founded options

section

variable {lib : Crates} {world : WorkflowWorld} {describe : Value → Str} {plan : WorkflowPlan}
  {options given : InvokeOptions} {configuration : ProjectConfiguration}

theorem Event.Authorized.confined {s : Standing} {e : Event} (h : e.Authorized s given)
    (hgrants : given.grants = options.grants) : e.Confined options := by
  cases e with
  | connect scheme host port addresses =>
      have hadmitted := h.2.2
      rw [hgrants] at hadmitted
      exact hadmitted
  | send request =>
      intro profile hprofile
      rw [← hgrants]
      exact h profile hprofile
  | readFile | resolve | store => trivial

/-- The planner lists the grant of the credential. -/
theorem Requested.secret_mem {requestPlan : RequestPlan} {auth : PlannedAuth}
    (h : Requested lib configuration requestPlan) (hauth : requestPlan.auth = some auth) :
    "secret:" ++ auth.profile ∈ requestPlan.requiredGrants := by
  rcases h with ⟨w, source, operation, planOptions, past, hplan⟩
  rcases buildPlanWithConfiguration_ok hplan with ⟨parts, _, hsound, rfl⟩
  rcases mem_requiredGrants hsound.grants with ⟨credentials, hcredentials, hmem⟩
  have hparts : parts.auth = some auth := hauth
  rw [hparts] at hcredentials
  simp only [authGrants, except_bind_ok, except_pure_ok] at hcredentials
  rcases hcredentials with ⟨token, _, rfl⟩
  exact (hmem _).mpr (Or.inr List.mem_cons_self)

theorem Requested.confined {requestPlan : RequestPlan} {w : World} {past : List Event} {e : Event}
    (h : Requested lib configuration requestPlan) (hgrants : given.grants = options.grants)
    (he : e ∈ (invoke lib w requestPlan given past).2) : e.Confined options := by
  by_cases hsend : ∃ request, e = .send request
  · rcases hsend with ⟨request, rfl⟩
    rcases send_mem_invoke he with ⟨hlisted, hcredentials⟩
    intro profile hprofile
    rcases hcredentials profile hprofile with ⟨auth, hauth, rfl⟩
    rw [← hgrants]
    exact hlisted _ (h.secret_mem hauth)
  · exact (invoke_authorized he (fun request heq => hsend ⟨request, heq⟩)).confined hgrants

/-- Denials are founded on the grants alone. -/
theorem DenialEnvelope.Founded.congr {d : DenialEnvelope} (h : d.Founded given)
    (hgrants : given.grants = options.grants) : d.Founded options := by
  unfold DenialEnvelope.Founded at h ⊢
  rw [← hgrants]
  exact h

theorem InvocationResult.Founded.congr {result : InvocationResult} (h : result.Founded given)
    (hgrants : given.grants = options.grants) : result.Founded options := by
  cases result with
  | observation o => trivial
  | denied d => exact DenialEnvelope.Founded.congr h hgrants

theorem WebSocketConnectResult.Founded.congr {result : WebSocketConnectResult}
    (h : result.Founded given) (hgrants : given.grants = options.grants) :
    result.Founded options := by
  cases result with
  | denied d => exact DenialEnvelope.Founded.congr h hgrants
  | observation o => trivial
  | connected c => trivial

/-- Whatever a run plans on its way, it does nothing its options do not grant,
    and is denied nothing they do. -/
theorem run_confined (lib : Crates) (world : WorkflowWorld) (describe : Value → Str)
    (plan : WorkflowPlan) (options : InvokeOptions) (configuration : ProjectConfiguration)
    (past : List WorkflowEvent) :
    ConfinedRun lib plan options
      (invokeWorkflow lib world describe plan options configuration past).2 := by
  -- A run with an event has passed the checks and holds the grants.
  have hentered : (invokeWorkflow lib world describe plan options configuration past).2 ≠ [] →
      checkWorkflow lib plan options configuration = .ok () ∧
        missingGrant options.grants plan.requiredGrants = none := by
    intro hne
    rcases List.exists_mem_of_ne_nil _ hne with ⟨e, he⟩
    exact invokeWorkflow_entered he
  refine ⟨fun hne => ?_, fun hne => ?_, fun e he => ?_, fun attempt result hended => ?_⟩
  · have hchecks := (hentered hne).1
    simp only [checkWorkflow, unit_bind_ok, ensure_ok] at hchecks
    exact hchecks.1
  · exact missingGrant_eq_none.mp (hentered hne).2
  -- An event is one of the planner, of a request or of a session.
  · cases invokeWorkflow_occurs (mem_effects.mp he) with
    | readFile path => trivial
    | request planned grants mem => exact planned.confined grants mem
    | session planned grants mem => exact (executeWebsocket_authorized mem).confined grants
  -- Likewise the end of an attempt.
  · cases invokeWorkflow_occurs hended with
    | failed => trivial
    | response _ planned grants returned =>
        have hresult := (invoke_concluded _).1 _ returned
        exact ⟨hresult.1, hresult.2.congr grants⟩
    | closed _ planned grants returned =>
        have hresult := (executeWebsocket_concluded _).1 _ returned
        exact ⟨hresult.1, hresult.2.congr grants⟩

end

end Kahea
