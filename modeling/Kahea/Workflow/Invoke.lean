import Kahea.Base.Table
import Kahea.Workflow.Steps

/-!
# Running a Workflow

The executor of workflow plans: the checks of the plan, its steps in their
order, and the observation of the run.

A step that fails ends the run with the observations so far. A step that passes
hands its outputs to the steps after it, and ends the run when an action says
so. An error of a step ends the run without any observation.

## Main definitions

* `invokeStep`: One step, of either transport.
* `invokeSteps`: The steps of a plan.
* `flattenOutputs`: The outputs of a run under `step.name`.
* `invokeWorkflow`: The executor.
-/

namespace Kahea

/-! ### The ends of a run -/

/-- The observation of a run that lacks a grant. -/
def workflowDenial (plan : WorkflowPlan) (missing : Str) : WorkflowObservation :=
  { protocol := PROTOCOL
    kind := "workflow-observation"
    version := VERSION
    configFingerprint := plan.configFingerprint
    policyFingerprint := plan.policyFingerprint
    sourceFingerprints := plan.sourceFingerprints
    workflowPlan := plan.id
    outcome := .denied
    steps := [
      { stepId := "policy"
        plan := none
        attempts := []
        result := jsonSorted [
          ("reason", .string "workflow invocation is missing a required capability"),
          ("required", .string missing), ("exit", jsonNat 4)] }]
    outputs := []
    exit := 4 }

/-- The observation of a run whose last step failed. -/
def failedWorkflowObservation (plan : WorkflowPlan) (steps : List WorkflowStepObservation)
    (exit : Nat) : WorkflowObservation :=
  { protocol := PROTOCOL
    kind := "workflow-observation"
    version := VERSION
    configFingerprint := plan.configFingerprint
    policyFingerprint := plan.policyFingerprint
    sourceFingerprints := plan.sourceFingerprints
    workflowPlan := plan.id
    outcome := if exit = 4 then .denied else .failed
    steps := steps
    outputs := []
    exit := exit }

/-- The name of an output in the observation of a run. -/
def outputKey (step name : Str) : Str := step ++ '.' :: name

/-- The outputs of a run in one table; of two entries under one name the last
    one stays. -/
def flattenOutputs (outputs : StepOutputs) : List (Str × Value) :=
  writeAll (outputs.flatMap (fun entry =>
    entry.2.map (fun output => (outputKey entry.1 output.1, output.2)))) []

/-- The observation of a run whose steps passed. -/
def passedWorkflowObservation (plan : WorkflowPlan) (steps : List WorkflowStepObservation)
    (outputs : StepOutputs) : WorkflowObservation :=
  { protocol := PROTOCOL
    kind := "workflow-observation"
    version := VERSION
    configFingerprint := plan.configFingerprint
    policyFingerprint := plan.policyFingerprint
    sourceFingerprints := plan.sourceFingerprints
    workflowPlan := plan.id
    outcome := .passed
    steps := steps
    outputs := flattenOutputs outputs
    exit := 0 }

/-! ### The steps -/

/-- What has run so far. -/
structure Progress where
  observations : List WorkflowStepObservation
  outputs : StepOutputs

/-- What a step adds to the observations. -/
def WorkflowStepRun.observation (run : WorkflowStepRun) (stepId : Str) : WorkflowStepObservation :=
  { stepId := stepId
    plan := some run.plan
    attempts := run.attempts
    result := run.result }

/-- The steps of a plan, with the exit of the step that failed or zero. -/
def invokeSteps (one : WorkflowStepTemplate → StepOutputs → Run (WorkflowStepRun × Bool)) :
    List WorkflowStepTemplate → Progress → Run (Progress × Nat)
  | [], progress => pure (progress, 0)
  | step :: rest, progress => do
      let (run, ends) ← one step progress.outputs
      let observations := progress.observations ++ [run.observation step.stepId]
      if run.exit ≠ 0 then pure (⟨observations, progress.outputs⟩, run.exit)
      else if ends then pure (⟨observations, insert step.stepId run.outputs progress.outputs⟩, 0)
      else invokeSteps one rest ⟨observations, insert step.stepId run.outputs progress.outputs⟩

section

variable (lib : Crates) (world : WorkflowWorld) (describe : Value → Str) (plan : WorkflowPlan)
  (options : InvokeOptions) (configuration : ProjectConfiguration)

/-- One step, and whether the workflow ends after it. -/
def invokeStep (step : WorkflowStepTemplate) (outputs : StepOutputs) :
    Run (WorkflowStepRun × Bool) :=
  if step.transport = .webSocket then do
    let run ← invokeWebsocketWorkflowStep lib world describe plan.input options configuration step
      outputs
    pure (run, step.onSuccess.any isEnd)
  else invokeHttpStep lib world plan options configuration step outputs

/-- The checks of a plan before its first step. -/
def checkWorkflow : Except WorkflowError Unit := do
  ensure (plan.verifySeal lib) .invalidSeal
  ensure (options.expectedConfigFingerprint.all (fun f => f = plan.configFingerprint) &&
      options.expectedPolicyFingerprint.all (fun f => f = plan.policyFingerprint))
    (.invalid "workflow configuration or policy fingerprint mismatch")
  ensure (plan.websocketPolicyFingerprint.all
      (fun f => configuration.websocketPolicyFingerprint lib = f))
    (.invalid "workflow WebSocket policy fingerprint mismatch")

def invokeWorkflow : Run WorkflowObservation := do
  Eff.ofExcept (checkWorkflow lib plan options configuration)
  match missingGrant options.grants plan.requiredGrants with
  | some missing => pure (workflowDenial plan missing)
  | none => do
      let (progress, exit) ← invokeSteps (invokeStep lib world describe plan options configuration)
        plan.steps ⟨[], []⟩
      if exit ≠ 0 then pure (failedWorkflowObservation plan progress.observations exit)
      else pure (passedWorkflowObservation plan progress.observations progress.outputs)

end

end Kahea
