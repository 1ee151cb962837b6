import Kahea.Workflow.Invoke

/-!
# Seals in a Workflow Run

A request step plans its request when it runs, and the planner seals what it
returns. The seal is tested when the plan is stored and again when it is
executed, and it holds both times: a run does the same without these tests.

This is what a run is evaluated with, since testing a seal hashes the whole
plan.

## Main definitions

* `invokeSealed`: The executor without the test of the seal.
* `sealedHttpStep`: A request step without the tests.

## Theorems

* `invoke_of_sealed`: The executor of a sealed plan.
* `invokeHttpStep_sealed`: A request step passes the tests.
* `invokeWorkflow_eq`: A run that passes the checks does what its steps do.
* `invokeWorkflow_sealed`: A run of request steps passes the tests.
-/

namespace Kahea

section

variable (lib : Crates)

/-! ### The executor -/

/-- The fingerprints, the grants and the target of a plan. -/
def admittedSealed (plan : RequestPlan) (options : InvokeOptions) :
    Except ExecError (Except DenialEnvelope Url) := do
  ensure (options.expectedConfigFingerprint.all (fun f => f = plan.configFingerprint))
    .configurationMismatch
  ensure (options.expectedPolicyFingerprint.all (fun f => f = plan.policyFingerprint))
    .policyMismatch
  match missingGrant options.grants plan.requiredGrants with
  | some missing =>
      .ok (.error (denial lib plan "invocation is missing a required capability" missing))
  | none => do
      let target ← (lib.parseUrl plan.target).mapError ExecError.invalidTarget
      pure (.ok target)

def prepareSealed (world : World) (plan : RequestPlan) (options : InvokeOptions) :
    Eff Event ExecError (Except DenialEnvelope Prepared) := do
  let verdict ← Eff.ofExcept (admittedSealed lib plan options)
  match verdict with
  | .error denial => pure (.error denial)
  | .ok target => prepareTarget lib world plan options target

def invokeSealed (world : World) (plan : RequestPlan) (options : InvokeOptions) :
    Eff Event ExecError InvocationResult := do
  let outcome ← prepareSealed lib world plan options
  match outcome with
  | .error denial => pure (.denied denial)
  | .ok prepared => dispatch lib world plan options prepared

variable {lib}

theorem invoke_of_sealed {plan : RequestPlan} (h : plan.verifySeal lib = true) (world : World)
    (options : InvokeOptions) :
    invoke lib world plan options = invokeSealed lib world plan options := by
  have hadmitted : admitted lib plan options = admittedSealed lib plan options := by
    unfold admitted
    rw [h]
    rfl
  have hprepare : prepare lib world plan options = prepareSealed lib world plan options := by
    unfold prepare
    rw [hadmitted]
    rfl
  unfold invoke
  rw [hprepare]
  rfl

/-! ### Request steps -/

variable (lib) (world : WorkflowWorld) (plan : WorkflowPlan) (options : InvokeOptions)
  (configuration : ProjectConfiguration)

/-- The plan of a request step, stored without a test. -/
def planSealedStep (step : WorkflowStepTemplate) (outputs : StepOutputs) : Run RequestPlan := do
  let source := stepSource lib step
  let operation ← Eff.ofExcept ((resolveOperation lib source step.operation).mapError
    (fun e => WorkflowError.source e.text))
  let explicit ← Eff.ofExcept (step.parameters.mapM
    (stepParameter step operation source plan.input outputs))
  let input ← Eff.ofExcept (stepInput step plan.input outputs)
  let checks ← Eff.ofExcept (step.successCriteria.mapM (criterionToCheck lib))
  let requestPlan ← (executes world (fun w => buildPlanWithConfiguration lib w source operation
    { server := plan.server
      auth := plan.auth
      contentType := none
      input := input
      explicit := explicit
      checks := plan.checks ++ checks } configuration)).mapError
        (fun e => WorkflowError.stepPlan step.stepId e.text)
  storeStepPlan world step true
  pure requestPlan

def sealedHttpStep (step : WorkflowStepTemplate) (outputs : StepOutputs) :
    Run (WorkflowStepRun × Bool) := do
  let requestPlan ← planSealedStep lib world plan configuration step outputs
  let since ← elapsed world
  let timeout ← Eff.ofExcept (remainingStepTimeout since options.timeout step.timeoutMs)
  let (attempts, result) ← retryLoop
    (httpAttempt lib world step options since timeout
      (fun w => invokeSealed lib w requestPlan { options with timeout := timeout }))
    (largestRetryLimit step.onFailure + 1) 0 []
  finishHttpStep lib world step requestPlan attempts result

variable {lib world plan options configuration}

/-- The planner seals what it returns. -/
theorem buildPlan_sealed {program : World → Eff Event PlanError RequestPlan}
    (hbuild : ∀ w past p, (program w past).1 = .ok p → p.verifySeal lib = true)
    {f : PlanError → WorkflowError} {past : List WorkflowEvent} {p : RequestPlan}
    (h : (((executes world program).mapError f) past).1 = .ok p) : p.verifySeal lib = true := by
  change ((executes world program past).1.mapError f) = .ok p at h
  rw [except_mapError_ok] at h
  exact hbuild _ _ _ h

theorem planHttpStep_eq (step : WorkflowStepTemplate) (outputs : StepOutputs) :
    planHttpStep lib world plan configuration step outputs =
      planSealedStep lib world plan configuration step outputs := by
  unfold planHttpStep planSealedStep
  refine Eff.bind_congr (fun _ operation _ => ?_)
  refine Eff.bind_congr (fun _ explicit _ => ?_)
  refine Eff.bind_congr (fun _ input _ => ?_)
  refine Eff.bind_congr (fun _ checks _ => ?_)
  refine Eff.bind_congr (fun _ requestPlan hplan => ?_)
  have hseal : requestPlan.verifySeal lib = true := by
    refine buildPlan_sealed (fun w past p hp => ?_) hplan
    rcases buildPlanWithConfiguration_ok hp with ⟨_, _, _, rfl⟩
    exact RequestPlan.verifySeal_sealed _ _
  rw [hseal]

theorem planSealedStep_sealed {step : WorkflowStepTemplate} {outputs : StepOutputs}
    {past : List WorkflowEvent} {p : RequestPlan}
    (h : (planSealedStep lib world plan configuration step outputs past).1 = .ok p) :
    p.verifySeal lib = true := by
  unfold planSealedStep at h
  rcases Eff.bind_ok h with ⟨operation, _, h⟩
  rcases Eff.bind_ok h with ⟨explicit, _, h⟩
  rcases Eff.bind_ok h with ⟨input, _, h⟩
  rcases Eff.bind_ok h with ⟨checks, _, h⟩
  rcases Eff.bind_ok h with ⟨requestPlan, hplan, h⟩
  rcases Eff.bind_ok h with ⟨_, _, h⟩
  cases h
  refine buildPlan_sealed (fun w past p hp => ?_) hplan
  rcases buildPlanWithConfiguration_ok hp with ⟨_, _, _, rfl⟩
  exact RequestPlan.verifySeal_sealed _ _

/-- A request step passes the tests of its seal. -/
theorem invokeHttpStep_sealed (step : WorkflowStepTemplate) (outputs : StepOutputs) :
    invokeHttpStep lib world plan options configuration step outputs =
      sealedHttpStep lib world plan options configuration step outputs := by
  unfold invokeHttpStep sealedHttpStep
  rw [planHttpStep_eq]
  refine Eff.bind_congr (fun _ requestPlan hplan => ?_)
  simp only [invoke_of_sealed (planSealedStep_sealed hplan)]

/-! ### Runs -/

theorem invokeStep_sealed {describe : Value → Str} {step : WorkflowStepTemplate}
    (h : step.transport = .http) :
    invokeStep lib world describe plan options configuration step =
      sealedHttpStep lib world plan options configuration step := by
  funext outputs
  unfold invokeStep
  rw [h, if_neg nofun]
  exact invokeHttpStep_sealed step outputs

/-- A loop over the steps only uses the step function on them. -/
theorem invokeSteps_congr {one two : WorkflowStepTemplate → StepOutputs → Run (WorkflowStepRun × Bool)}
    {steps : List WorkflowStepTemplate} (h : ∀ step ∈ steps, one step = two step)
    (progress : Progress) : invokeSteps one steps progress = invokeSteps two steps progress := by
  induction steps generalizing progress with
  | nil => rfl
  | cons step rest ih =>
      have hrest : ∀ p, invokeSteps one rest p = invokeSteps two rest p :=
        ih (fun s hs => h s (List.mem_cons_of_mem step hs))
      rw [invokeSteps, invokeSteps, h step List.mem_cons_self]
      simp only [hrest]

/-- A sealed plan whose fingerprints nobody asks for passes the checks. -/
theorem checkWorkflow_sealed (hseal : plan.verifySeal lib = true)
    (hconfig : options.expectedConfigFingerprint = none)
    (hpolicy : options.expectedPolicyFingerprint = none)
    (hwebsocket : plan.websocketPolicyFingerprint = none) :
    checkWorkflow lib plan options configuration = .ok () := by
  unfold checkWorkflow
  rw [hseal, hconfig, hpolicy, hwebsocket]
  rfl

/-- What a run makes of its steps. -/
def concludeWorkflow (plan : WorkflowPlan) (ended : Progress × Nat) : WorkflowObservation :=
  if ended.2 ≠ 0 then failedWorkflowObservation plan ended.1.observations ended.2
  else passedWorkflowObservation plan ended.1.observations ended.1.outputs

/-- A run that passes the checks does what its steps do. -/
theorem invokeWorkflow_eq {describe : Value → Str}
    (hchecks : checkWorkflow lib plan options configuration = .ok ())
    (hgrants : missingGrant options.grants plan.requiredGrants = none) (past : List WorkflowEvent) :
    invokeWorkflow lib world describe plan options configuration past =
      (((invokeSteps (invokeStep lib world describe plan options configuration) plan.steps ⟨[], []⟩
          past).1.map (concludeWorkflow plan)),
        (invokeSteps (invokeStep lib world describe plan options configuration) plan.steps ⟨[], []⟩
          past).2) := by
  unfold invokeWorkflow
  rw [Eff.ofExcept_bind, hchecks]
  dsimp only
  rw [hgrants]
  change Eff.bind _ _ past = _
  unfold Eff.bind
  -- After the steps no event is added.
  rcases invokeSteps (invokeStep lib world describe plan options configuration) plan.steps ⟨[], []⟩
    past with ⟨result, added⟩
  cases result with
  | error e => rfl
  | ok ended =>
      dsimp only [Except.map, concludeWorkflow]
      split_ifs
      · exact Prod.ext rfl (List.append_nil added)
      · exact Prod.ext rfl (List.append_nil added)

/-- A run of a sealed plan of request steps does what the steps do. -/
theorem invokeWorkflow_sealed {describe : Value → Str} (hseal : plan.verifySeal lib = true)
    (hsteps : ∀ step ∈ plan.steps, step.transport = .http)
    (hconfig : options.expectedConfigFingerprint = none)
    (hpolicy : options.expectedPolicyFingerprint = none)
    (hwebsocket : plan.websocketPolicyFingerprint = none)
    (hgrants : ∀ g ∈ plan.requiredGrants, g ∈ options.grants) (past : List WorkflowEvent) :
    (invokeWorkflow lib world describe plan options configuration past).1 =
        (invokeSteps (sealedHttpStep lib world plan options configuration) plan.steps ⟨[], []⟩
          past).1.map (concludeWorkflow plan) ∧
      (invokeWorkflow lib world describe plan options configuration past).2 =
        (invokeSteps (sealedHttpStep lib world plan options configuration) plan.steps ⟨[], []⟩
          past).2 := by
  have hone : ∀ step ∈ plan.steps, invokeStep lib world describe plan options configuration step =
      sealedHttpStep lib world plan options configuration step :=
    fun step hstep => invokeStep_sealed (hsteps step hstep)
  rw [invokeWorkflow_eq (checkWorkflow_sealed hseal hconfig hpolicy hwebsocket)
    (missingGrant_eq_none.mpr hgrants), invokeSteps_congr hone]
  exact ⟨rfl, rfl⟩

end

end Kahea
