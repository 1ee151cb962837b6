import Kahea.Plan.Document
import Kahea.Workflow.Outside

/-!
# Running a Workflow Step

What one step of a workflow run does, for both transports.

A request step is planned from its template, the input and the outputs so far,
the plan is stored, and the executor is called until an attempt passes or no
retry is left. A session step starts from its sealed child plan, or from the
plan of its patched source when it has bindings. The two loops share their
shape, which is `retryLoop`; they differ in when the time budget is read and in
which action they ask for.

The retry limits of a step bound its attempts, so the loop is given one more
attempt than the largest of them allows, and no run uses up all of them
(`around_retryLoop`).

## Main definitions

* `selectAction`, `unconditionalRetry`: The actions a result calls for.
* `evaluateWebsocketOutput`: An output of a session step.
* `retryLoop`: The attempts of a step.
* `invokeHttpStep`, `invokeWebsocketWorkflowStep`: The steps of the transports.
-/

namespace Kahea

/-! ### Attempts -/

def attemptsExhausted : WorkflowError := .invalid "the attempts of the step are exhausted"

/-- The attempts of a step. The records of the attempts are collected; an
    attempt that returns no result asks for another one. -/
def retryLoop {α : Type} (once : Nat → Run (Value × Option α)) :
    Nat → Nat → List Value → Run (List Value × α)
  | 0, _, _ => Eff.fail attemptsExhausted
  | left + 1, retries, attempts => do
      let (record, outcome) ← once retries
      match outcome with
      | some a => pure (attempts ++ [record], a)
      | none => retryLoop once left (retries + 1) (attempts ++ [record])

/-- The largest limit among the actions of a step. -/
def largestRetryLimit (actions : List Value) : Nat :=
  actions.foldr (fun action limit => max (retryLimit action) limit) 0

/-- The action the function `unconditional_retry` finds. -/
def unconditionalRetry (actions : List Value) : Option Value :=
  actions.find? (fun action => isRetry action && (actionCriteria action).isEmpty)

/-- The result of a step. -/
structure WorkflowStepRun where
  plan : Str
  attempts : List Value
  result : Value
  outputs : List (Str × Value)
  exit : Nat
  deriving DecidableEq, Repr

section

variable (lib : Crates) (world : WorkflowWorld)

/-- An attempt between its marks. -/
def markedAttempt {α : Type} (attempt : Attempt) (result : α → AttemptResult)
    (program : World → Eff Event ExecError α) : Run (Except ExecError α) := do
  Eff.emit (.started attempt)
  let outcome ← (executes world program).attempt
  Eff.emit (.ended attempt (match outcome with
    | .ok a => result a
    | .error e => .error e.text))
  pure outcome

/-- The delay of a retry. -/
def pauseBeforeRetry (timeout : Nat) (action : Value) : Run Unit :=
  if retryDelay lib action = 0 then pure ()
  else sleepRetryDelay world timeout (retryDelay lib action)

/-- Whether an action lets the step be attempted again: it is a retry, its
    limit is not used up and its delay fits the time that is left. -/
def goesOn (timeout retries : Nat) (action : Option Value) : Run Bool :=
  match action with
  | none => pure false
  | some action =>
      if isRetry action ∧ retries < retryLimit action then do
        pauseBeforeRetry lib world timeout action
        pure true
      else pure false

/-! ### Actions -/

/-- The function `criteria_match`. -/
def criteriaMatch (criteria : List Value) : InvocationResult → Run Bool
  | .denied _ => pure false
  | .observation observation => do
      let body ← storedBody lib world observation
      Eff.ofExcept (criteriaHold lib observation.status body criteria)

/-- Whether an action applies to a result: it has no criteria, or they hold. -/
def actionApplies (result : InvocationResult) (action : Value) : Run Bool :=
  if (actionCriteria action).isEmpty then pure true
  else criteriaMatch lib world (actionCriteria action) result

/-- The first action that applies. -/
def selectAction (result : InvocationResult) : List Value → Run (Option Value)
  | [] => pure none
  | action :: rest => do
      let applies ← actionApplies lib world result action
      if applies then pure (some action) else selectAction result rest

/-- The action a failed result of a request step calls for. -/
def failureAction (actions : List Value) (result : InvocationResult) : Run (Option Value) :=
  if result.exit ≠ 0 then selectAction lib world result actions else pure none

/-! ### Planning a request step -/

/-- The source of a step. -/
def stepSource (step : WorkflowStepTemplate) : OpenApiSource :=
  { document := step.sourceDocument
    sourceFingerprint := step.sourceFingerprint
    sourceHandle := shortHandle lib "src" [utf8 step.sourceDocument.render] }

/-- The declared location of a parameter. -/
def parameterLocation (operation : OperationDefinition) (source : OpenApiSource) (name : Str) :
    Option Str :=
  let declared := [lookup "parameters" operation.pathItem,
    lookup "parameters" operation.operation].filterMap id
  let parameters := (declared.filterMap Value.asArray).flatten
  let resolved := parameters.filterMap (fun parameter =>
    match (parameter.get "$ref").bind Value.asStr with
    | some reference => resolveRef source reference
    | none => some parameter)
  (resolved.find? (fun parameter => (parameter.get "name").bind Value.asStr = some name)).bind
    (fun parameter => (parameter.get "in").bind Value.asStr)

/-- The key and the value of one bound parameter. -/
def stepParameter (step : WorkflowStepTemplate) (operation : OperationDefinition)
    (source : OpenApiSource) (inputs : Value) (outputs : StepOutputs)
    (parameter : WorkflowParameterBinding) : Except WorkflowError (Str × Value) := do
  let location ← match parameter.location.or (parameterLocation operation source parameter.name) with
    | some location => .ok location
    | none => .error (.invalid ("step " ++ debugQuote step.stepId ++ " parameter " ++
        debugQuote parameter.name ++ " has ambiguous location"))
  let value ← materialize inputs outputs parameter.value
  pure (location ++ '.' :: parameter.name, value)

/-- The structured input of a step: its body. -/
def stepInput (step : WorkflowStepTemplate) (inputs : Value) (outputs : StepOutputs) :
    Except WorkflowError (Option Value) :=
  match step.requestBody with
  | none => .ok none
  | some body => do
      let body ← materialize inputs outputs body
      pure (some (jsonObject [("body", body)]))

/-- The functions `store_plan` and `store_websocket_plan`, for a plan with or
    without its seal. -/
def storeStepPlan (step : WorkflowStepTemplate) (isSealed : Bool) : Run Unit := do
  Eff.ofExcept (ensure isSealed (.stepPlan step.stepId PlanError.invalidSeal.text))
  let past ← Eff.past
  Eff.ofExcept ((world.storePlan past).mapError
    (fun reason => .stepPlan step.stepId (PlanError.store reason).text))

/-- The plan of a request step. -/
def planHttpStep (plan : WorkflowPlan) (configuration : ProjectConfiguration)
    (step : WorkflowStepTemplate) (outputs : StepOutputs) : Run RequestPlan := do
  let source := stepSource lib step
  let operation ← Eff.ofExcept ((resolveOperation lib source step.operation).mapError
    (fun e => WorkflowError.source e.text))
  let explicit ← Eff.ofExcept (step.parameters.mapM
    (stepParameter step operation source plan.input outputs))
  let input ← Eff.ofExcept (stepInput step plan.input outputs)
  let checks ← Eff.ofExcept (step.successCriteria.mapM (criterionToCheck lib))
  let requestPlan ← (executes world (fun w => buildPlanWithConfiguration lib w source operation
    { server := plan.server
      auth := plan.auth
      contentType := none
      input := input
      explicit := explicit
      checks := plan.checks ++ checks } configuration)).mapError
        (fun e => WorkflowError.stepPlan step.stepId e.text)
  storeStepPlan world step (requestPlan.verifySeal lib)
  pure requestPlan

/-! ### Request steps -/

/-- One attempt of a request step, under the timeout that was read before the
    first one. -/
def httpAttempt (step : WorkflowStepTemplate) (options : InvokeOptions) (since timeout : Nat)
    (execute : World → Eff Event ExecError InvocationResult) (retries : Nat) :
    Run (Value × Option InvocationResult) := do
  let outcome ← markedAttempt world
    { step := step.stepId
      transport := .http
      retries := retries
      timeout := timeout
      declared := step.timeoutMs.map (· * 1000000)
      since := since } .http execute
  match outcome with
  | .ok result => do
      let action ← failureAction lib world step.onFailure result
      let again ← goesOn lib world options.timeout retries action
      pure (result.toJson, if again then none else some result)
  | .error e => do
      let again ← goesOn lib world options.timeout retries (unconditionalRetry step.onFailure)
      if again then pure (attemptError e.text, none)
      else Eff.fail (.stepPlan step.stepId e.text)

/-- The outputs of a request step. -/
def httpOutputs (observation : Observation) (body : Option Value) (declared : List (Str × Value)) :
    Except WorkflowError (List (Str × Value)) :=
  declared.foldlM (fun outputs entry => do
    let value ← evaluateOutput entry.2 observation body
    pure (insert entry.1 value outputs)) []

/-- What a request step does with the result of its last attempt: the outputs,
    and whether the workflow ends here. -/
def finishHttpStep (step : WorkflowStepTemplate) (requestPlan : RequestPlan)
    (attempts : List Value) (result : InvocationResult) : Run (WorkflowStepRun × Bool) :=
  if result.exit ≠ 0 then pure (⟨requestPlan.id, attempts, result.toJson, [], result.exit⟩, false)
  else match result with
    | .denied _ => Eff.fail (.invalid
        "internal error: entered unreachable code: nonzero denial returned above")
    | .observation observation => do
        let body ← storedBody lib world observation
        let outputs ← Eff.ofExcept (httpOutputs observation body step.outputs)
        let action ← selectAction lib world result step.onSuccess
        pure (⟨requestPlan.id, attempts, result.toJson, outputs, 0⟩, action.any isEnd)

def invokeHttpStep (plan : WorkflowPlan) (options : InvokeOptions)
    (configuration : ProjectConfiguration) (step : WorkflowStepTemplate) (outputs : StepOutputs) :
    Run (WorkflowStepRun × Bool) := do
  let requestPlan ← planHttpStep lib world plan configuration step outputs
  let since ← elapsed world
  let timeout ← Eff.ofExcept (remainingStepTimeout since options.timeout step.timeoutMs)
  let (attempts, result) ← retryLoop
    (httpAttempt lib world step options since timeout
      (fun w => invoke lib w requestPlan { options with timeout := timeout }))
    (largestRetryLimit step.onFailure + 1) 0 []
  finishHttpStep lib world step requestPlan attempts result

/-! ### Session steps -/

/-- The source of a session step with its bindings filled in. -/
def patchSource (inputs : Value) (outputs : StepOutputs) (source : Value) :
    List WorkflowWebSocketBinding → Except WorkflowError Value
  | [] => .ok source
  | binding :: rest => do
      let value ← materialize inputs outputs binding.value
      match (pointerTokens binding.pointer).bind (fun tokens => Value.replaceAt value tokens source) with
      | none => .error (.invalid ("WebSocket binding pointer " ++ debugQuote binding.pointer ++
          " no longer resolves"))
      | some patched => patchSource inputs outputs patched rest

def validateRebuiltWebsocketPlan (stepId operation : Str) (source : Value)
    (sealed rebuilt : WebSocketPlan) : Except WorkflowError Unit := do
  ensure (rebuilt.operation = operation ||
      (source.get "operationId").bind Value.asStr = some operation)
    (.stepPlan stepId "runtime binding changed the WebSocket operation identity")
  ensure (rebuilt.risk = sealed.risk)
    (.stepPlan stepId "runtime binding changed the sealed WebSocket risk")
  ensure (rebuilt.requiredGrants = sealed.requiredGrants)
    (.stepPlan stepId "runtime binding changed the sealed WebSocket required capabilities")

/-- The plan of a session step. -/
def planWebsocketStep (describe : Value → Str) (configuration : ProjectConfiguration)
    (step : WorkflowStepTemplate) (inputs : Value) (outputs : StepOutputs) :
    Except WorkflowError WebSocketPlan :=
  match step.websocketPlan with
  | none => .error (.invalid ("WebSocket step " ++ debugQuote step.stepId ++
      " has no sealed child plan"))
  | some sealed =>
      if step.websocketBindings.isEmpty then .ok sealed
      else do
        let source ← patchSource inputs outputs step.sourceDocument step.websocketBindings
        let rebuilt ← (buildWebsocketPlanWithConfiguration lib describe (utf8 source.render)
          configuration).mapError (fun e => WorkflowError.stepPlan step.stepId e.text)
        validateRebuiltWebsocketPlan step.stepId step.operation source sealed rebuilt
        pure rebuilt

/-- One attempt of a session step, under a timeout of its own. -/
def websocketAttempt (step : WorkflowStepTemplate) (websocketPlan : WebSocketPlan)
    (options : InvokeOptions) (retries : Nat) : Run (Value × Option WebSocketConnectResult) := do
  let since ← elapsed world
  let timeout ← Eff.ofExcept (remainingStepTimeout since options.timeout step.timeoutMs)
  let stepOptions := { options with
    timeout := timeout
    expectedConfigFingerprint := some websocketPlan.configFingerprint
    expectedPolicyFingerprint := some websocketPlan.policyFingerprint }
  let outcome ← markedAttempt world
    { step := step.stepId
      transport := .webSocket
      retries := retries
      timeout := timeout
      declared := step.timeoutMs.map (· * 1000000)
      since := since } .webSocket (fun w => executeWebsocket lib w websocketPlan stepOptions)
  match outcome with
  | .ok (.observation observation) => do
      let again ← goesOn lib world options.timeout retries
        (if observation.exit ≠ 0 then unconditionalRetry step.onFailure else none)
      pure (observation.toJson, if again then none else some (.observation observation))
  | .ok (.denied denial) => pure (denial.toJson, some (.denied denial))
  | .ok (.connected _) => Eff.fail (.stepPlan step.stepId
      "WebSocket executor returned a non-terminal connection")
  | .error e => do
      let again ← goesOn lib world options.timeout retries (unconditionalRetry step.onFailure)
      if again then pure (attemptError e.text, none)
      else Eff.fail (.stepPlan step.stepId e.text)

/-- The outputs of a session that name no message, with their values. -/
def websocketSummary (o : WebSocketObservation) : List (Str × Value) :=
  [("$websocket.handshake.status".toList, optional jsonNat o.handshakeStatus),
    ("$websocket.handshake.subprotocol".toList, optional .string o.negotiatedSubprotocol),
    ("$websocket.close.code".toList, optional (fun close => jsonNat close.code) o.close),
    ("$websocket.close.reason".toList, optional (fun close => .string close.reason) o.close),
    ("$websocket.close.initiator".toList,
      optional (fun close => (close.toJson.get "initiator").getD .null) o.close),
    ("$websocket.evidence.transcript".toList, optional .string o.transcript),
    ("$websocket.evidence.handshake".toList, optional .string o.handshake),
    ("$websocket.evidence.trace".toList, optional .string o.trace)]

/-- The handle of the payload the transcript lists first for an action. -/
def inboundPayload (transcript : Value) (index : Nat) : Option Str :=
  (((valueArray transcript "entries").find? (fun entry =>
    (entry.get "direction").bind Value.asStr = some "inbound".toList ∧
      (entry.get "action_index").bind Value.asU64 = some index)).bind
    (fun entry => entry.get "payload")).bind Value.asStr

/-- The part of a payload a selector other than `evidence` names. -/
def selectPayload (expression selector : Str) (index : Nat) (payload : List UInt8) :
    Except WorkflowError Value :=
  if selector = "base64" then .ok (.string (base64Encode payload))
  else match fromUtf8 payload with
    | none => .error (.invalid ("WebSocket action " ++ decimal index ++
        " payload is not UTF-8; select evidence or base64"))
    | some text =>
        if selector = "text" then .ok (.string text)
        else match lib.parseJson payload with
          | .error _ => .error (.invalid ("WebSocket action " ++ decimal index ++
              " payload is not JSON"))
          | .ok json =>
              if selector = "json" then .ok json
              else match stripPrefix "json#" selector with
                | none => .error (.invalid ("unsupported WebSocket selector " ++
                    debugQuote selector))
                | some pointer => match json.pointer pointer with
                  | some value => .ok value
                  | none => .error (.invalid ("WebSocket message selector " ++
                      debugQuote expression ++ " did not match"))

/-- The action and the selector of a message output. -/
def messageSelector (expression : Str) : Except WorkflowError (Nat × Str) :=
  match stripPrefix "$websocket.message." expression with
  | none => .error (.invalid ("unsupported WebSocket workflow output expression " ++
      debugQuote expression))
  | some rest => match splitOnce "." rest with
    | none => .error (.invalid ("invalid WebSocket message selector " ++ debugQuote expression))
    | some (index, selector) => match parseUnsigned u64Bound index with
      | none => .error (.invalid ("invalid WebSocket action index in " ++ debugQuote expression))
      | some index => .ok (index, selector)

/-- A message output, read from the transcript of the session. -/
def evaluateMessageOutput (expression : Str) (observation : WebSocketObservation) : Run Value := do
  let (index, selector) ← Eff.ofExcept (messageSelector expression)
  match observation.transcript with
  | none => Eff.fail (.invalid "WebSocket transcript evidence is absent")
  | some handle => do
      let data ← (evidenceGet lib world handle).mapError WorkflowError.evidence
      let transcript ← Eff.ofExcept ((lib.parseJson data).mapError WorkflowError.serialization)
      match inboundPayload transcript index with
      | none => Eff.fail (.invalid ("WebSocket action " ++ decimal index ++
          " has no bounded inbound payload evidence"))
      | some payloadHandle =>
          if selector = "evidence" then pure (.string payloadHandle)
          else do
            let payload ← (evidenceGet lib world payloadHandle).mapError WorkflowError.evidence
            Eff.ofExcept (selectPayload lib expression selector index payload)

/-- The function `evaluate_websocket_output`. -/
def evaluateWebsocketOutput (expression : Value) (observation : WebSocketObservation) : Run Value :=
  match expression.asStr with
  | none => pure expression
  | some text => match lookup text (websocketSummary observation) with
    | some value => pure value
    | none => evaluateMessageOutput lib world text observation

/-- The outputs of a session step. -/
def websocketOutputs (observation : WebSocketObservation) :
    List (Str × Value) → List (Str × Value) → Run (List (Str × Value))
  | [], outputs => pure outputs
  | entry :: rest, outputs => do
      let value ← evaluateWebsocketOutput lib world entry.2 observation
      websocketOutputs observation rest (insert entry.1 value outputs)

/-- The outputs of a session step; a session that failed has none. -/
def sessionOutputs (observation : WebSocketObservation) (declared : List (Str × Value)) :
    Run (List (Str × Value)) :=
  if observation.exit = 0 then websocketOutputs lib world observation declared [] else pure []

/-- What a session step does with the result of its last attempt. -/
def finishWebsocketStep (step : WorkflowStepTemplate) (websocketPlan : WebSocketPlan)
    (attempts : List Value) : WebSocketConnectResult → Run WorkflowStepRun
  | .observation observation => do
      let outputs ← sessionOutputs lib world observation step.outputs
      pure ⟨websocketPlan.id, attempts, observation.toJson, outputs, observation.exit⟩
  | .denied denial => pure ⟨websocketPlan.id, attempts, denial.toJson, [], denial.exit⟩
  | .connected _ => Eff.fail (.invalid "internal error: entered unreachable code: handled above")

def invokeWebsocketWorkflowStep (describe : Value → Str) (inputs : Value) (options : InvokeOptions)
    (configuration : ProjectConfiguration) (step : WorkflowStepTemplate) (outputs : StepOutputs) :
    Run WorkflowStepRun := do
  let websocketPlan ← Eff.ofExcept (planWebsocketStep lib describe configuration step inputs outputs)
  storeStepPlan world step (websocketPlan.verifySeal lib)
  let (attempts, result) ← retryLoop (websocketAttempt lib world step websocketPlan options)
    (largestRetryLimit step.onFailure + 1) 0 []
  finishWebsocketStep lib world step websocketPlan attempts result

end

/-! ### The limits of the actions -/

theorem retryLimit_le_largest {action : Value} {actions : List Value} (h : action ∈ actions) :
    retryLimit action ≤ largestRetryLimit actions := by
  unfold largestRetryLimit
  induction actions with
  | nil => exact absurd h List.not_mem_nil
  | cons first rest ih =>
      rw [List.foldr_cons]
      rcases List.mem_cons.mp h with rfl | hrest
      · exact Nat.le_max_left _ _
      · exact le_trans (ih hrest) (Nat.le_max_right _ _)

theorem unconditionalRetry_mem {actions : List Value} {action : Value}
    (h : unconditionalRetry actions = some action) : action ∈ actions :=
  List.mem_of_find?_eq_some h

section

variable {lib : Crates} {world : WorkflowWorld}

/-- An action that lets a step go on is a retry below its limit. -/
theorem goesOn_true {timeout retries : Nat} {action : Option Value} {past : List WorkflowEvent}
    (h : (goesOn lib world timeout retries action past).1 = .ok true) :
    ∃ a, action = some a ∧ isRetry a = true ∧ retries < retryLimit a := by
  cases action with
  | none => cases h
  | some a =>
      by_cases hgo : isRetry a = true ∧ retries < retryLimit a
      · exact ⟨a, rfl, hgo⟩
      · rw [goesOn, if_neg hgo] at h
        cases h

theorem selectAction_mem {result : InvocationResult} {actions : List Value} {action : Value}
    {past : List WorkflowEvent}
    (h : (selectAction lib world result actions past).1 = .ok (some action)) : action ∈ actions := by
  induction actions generalizing past with
  | nil => cases h
  | cons first rest ih =>
      rw [selectAction] at h
      rcases Eff.bind_ok h with ⟨selected, _, h⟩
      cases selected with
      | true =>
          cases h
          exact List.mem_cons_self
      | false => exact List.mem_cons_of_mem _ (ih h)

/-- An attempt of a request step asks for another one for a retry that is not
    used up. -/
theorem httpAttempt_retries {step : WorkflowStepTemplate} {options : InvokeOptions}
    {since timeout retries : Nat} {execute : World → Eff Event ExecError InvocationResult}
    {past : List WorkflowEvent} {record : Value}
    (h : (httpAttempt lib world step options since timeout execute retries past).1 =
      .ok (record, none)) :
    ∃ a ∈ step.onFailure, isRetry a = true ∧ retries < retryLimit a := by
  unfold httpAttempt at h
  rcases Eff.bind_ok h with ⟨outcome, _, h⟩
  -- The retry is one the result selects, or one the error does.
  cases outcome with
  | ok result =>
      rcases Eff.bind_ok h with ⟨action, haction, h⟩
      rcases Eff.bind_ok h with ⟨again, hagain, h⟩
      cases again with
      | false => cases h
      | true =>
          rcases goesOn_true hagain with ⟨a, rfl, hdue⟩
          unfold failureAction at haction
          split_ifs at haction with hexit
          · exact ⟨a, selectAction_mem haction, hdue⟩
          · cases haction
  | error e =>
      rcases Eff.bind_ok h with ⟨again, hagain, h⟩
      cases again with
      | false => cases h
      | true =>
          rcases goesOn_true hagain with ⟨a, ha, hdue⟩
          exact ⟨a, unconditionalRetry_mem ha, hdue⟩

/-- So does an attempt of a session step. -/
theorem websocketAttempt_retries {step : WorkflowStepTemplate} {websocketPlan : WebSocketPlan}
    {options : InvokeOptions} {retries : Nat} {past : List WorkflowEvent} {record : Value}
    (h : (websocketAttempt lib world step websocketPlan options retries past).1 =
      .ok (record, none)) :
    ∃ a ∈ step.onFailure, isRetry a = true ∧ retries < retryLimit a := by
  unfold websocketAttempt at h
  rcases Eff.bind_ok h with ⟨since, _, h⟩
  rcases Eff.bind_ok h with ⟨timeout, _, h⟩
  rcases Eff.bind_ok h with ⟨outcome, _, h⟩
  -- An error and a failed observation may be retried.
  rcases outcome with e | connected | observation | denial
  · rcases Eff.bind_ok h with ⟨again, hagain, h⟩
    cases again with
    | false => cases h
    | true =>
        rcases goesOn_true hagain with ⟨a, ha, hdue⟩
        exact ⟨a, unconditionalRetry_mem ha, hdue⟩
  · cases h
  · rcases Eff.bind_ok h with ⟨again, hagain, h⟩
    cases again with
    | false => cases h
    | true =>
        rcases goesOn_true hagain with ⟨a, ha, hdue⟩
        split_ifs at ha with hexit
        exact ⟨a, unconditionalRetry_mem ha, hdue⟩
  · cases h

end

end Kahea
