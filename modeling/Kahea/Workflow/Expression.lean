import Kahea.Base.Search
import Kahea.Core.Observation
import Kahea.Core.Workflow

/-!
# Workflow Expressions

The expressions of a workflow step: what it is sent, what it hands on and the
conditions its success and its actions depend on.

Planning looks at an expression with one function and running evaluates it with
another. A template is any JSON value; only its strings that begin with
`$inputs.` or `$steps.` are expressions, and `materialize` puts in their place
whatever value they select.

## Main definitions

* `WorkflowError`: How a workflow fails.
* `materialize`: A template with its expressions replaced.
* `evaluateOutput`: An output of a request step.
* `parseSimpleCondition`, `criterionToCheck`: Conditions.
* `criteriaHold`: Whether the criteria of an action hold.
* `validateActions`, `validateWebsocketOutputExpression`: The checks of a plan.
-/

namespace Kahea

inductive WorkflowError where
  | invalid (reason : Str)
  | unknownWorkflow (id : Str)
  | source (reason : Str)
  | stepPlan (step reason : Str)
  | invalidSeal
  | store (reason : Str)
  | serialization (reason : Str)
  | evidence (reason : Str)
  deriving DecidableEq, Repr

/-- The text of an error. -/
def WorkflowError.text : WorkflowError → Str
  | invalid r => "Arazzo document error: " ++ r
  | unknownWorkflow id => "workflow " ++ debugQuote id ++ " was not found"
  | source r => "workflow source error: " ++ r
  | stepPlan s r => "workflow step " ++ debugQuote s ++ " failed to plan: " ++ r
  | invalidSeal => "workflow plan seal is invalid"
  | store r => "workflow store error: " ++ r
  | serialization r => "workflow serialization error: " ++ r
  | evidence r => "workflow evidence error: " ++ r

/-- The function `value_array`. -/
def valueArray (value : Value) (key : Str) : List Value :=
  ((value.get key).bind Value.asArray).getD []

/-! ### Templates -/

/-- The outputs of the steps that have run. -/
abbrev StepOutputs := List (Str × List (Str × Value))

/-- The value an expression over the input selects. -/
def resolveInputExpression (expression : Str) (inputs : Value) : Except WorkflowError Value :=
  let pointer := '/' :: replaceAll "." "/" (trimStartMatches "$inputs." expression)
  match inputs.pointer pointer with
  | some value => .ok value
  | none => .error (.invalid ("runtime expression " ++ debugQuote expression ++
      " did not resolve"))

/-- The step, the output and the pointer of an expression over a step. -/
def stepReference (expression : Str) : Option (Str × Str × Str) :=
  (splitOnce ".outputs." (trimStartMatches "$steps." expression)).map (fun parts =>
    let (output, pointer) := (splitOnce "#" parts.2).getD (parts.2, [])
    (parts.1, output, pointer))

def resolveStepExpression (expression : Str) (steps : StepOutputs) :
    Except WorkflowError Value :=
  match stepReference expression with
  | none => .error (.invalid ("unsupported runtime expression " ++ debugQuote expression))
  | some (step, output, pointer) =>
      match (lookup step steps).bind (lookup output) with
      | none => .error (.invalid ("runtime expression " ++ debugQuote expression ++
          " references unavailable output"))
      | some value =>
          if pointer = [] then .ok value
          else match value.pointer pointer with
            | some selected => .ok selected
            | none => .error (.invalid ("runtime expression " ++ debugQuote expression ++
                " pointer did not match"))

mutual

/-- A template with its expressions replaced by what they select. -/
def materialize (inputs : Value) (steps : StepOutputs) : Value → Except WorkflowError Value
  | .string expression =>
      if startsWith "$inputs." expression then resolveInputExpression expression inputs
      else if startsWith "$steps." expression then resolveStepExpression expression steps
      else .ok (.string expression)
  | .array values => (materializeItems inputs steps values).map .array
  | .object members => (materializeMembers inputs steps members).map .object
  | value => .ok value

def materializeItems (inputs : Value) (steps : StepOutputs) :
    List Value → Except WorkflowError (List Value)
  | [] => .ok []
  | value :: rest => do
      let value ← materialize inputs steps value
      let rest ← materializeItems inputs steps rest
      pure (value :: rest)

def materializeMembers (inputs : Value) (steps : StepOutputs) :
    List (Str × Value) → Except WorkflowError (List (Str × Value))
  | [] => .ok []
  | (key, value) :: rest => do
      let value ← materialize inputs steps value
      let rest ← materializeMembers inputs steps rest
      pure ((key, value) :: rest)

end

/-! ### Outputs -/

/-- An output of a request step, over the body of the response when it is
    JSON. -/
def evaluateOutput (expression : Value) (observation : Observation) (body : Option Value) :
    Except WorkflowError Value :=
  match expression.asStr with
  | none => .ok expression
  | some text =>
      if text = "$statusCode" then .ok (jsonNat (observation.status.getD 0))
      else match stripPrefix "$response.body#" text with
        | some pointer => match body with
          | none => .error (.invalid "workflow output requires a JSON response body")
          | some body => match body.pointer pointer with
            | some value => .ok value
            | none => .error (.invalid ("workflow output pointer " ++ debugQuote pointer ++
                " did not match"))
        | none =>
            if text = "$response.body" then .ok (body.getD .null)
            else .error (.invalid ("unsupported workflow output expression " ++ debugQuote text))

/-- The outputs of a session that name no message. -/
def websocketSummaryOutputs : List Str :=
  ["$websocket.handshake.status", "$websocket.handshake.subprotocol", "$websocket.close.code",
    "$websocket.close.reason", "$websocket.close.initiator", "$websocket.evidence.transcript",
    "$websocket.evidence.handshake", "$websocket.evidence.trace"].map String.toList

/-- Whether a message output selects something planning knows. -/
def supportedSelector (selector : Str) : Bool :=
  oneOf ["text", "json", "evidence", "base64"] selector || startsWith "json#/" selector

def validateWebsocketOutputExpression (expression : Value) : Except WorkflowError Unit :=
  match expression.asStr with
  | none => .ok ()
  | some text =>
      if websocketSummaryOutputs.contains text then .ok ()
      else match stripPrefix "$websocket.message." text with
        | none => .error (.invalid ("unsupported WebSocket workflow output expression " ++
            debugQuote text))
        | some rest => match splitOnce "." rest with
          | none => .error (.invalid ("WebSocket message output " ++ debugQuote text ++
              " requires an action index and selector"))
          | some (index, selector) => do
              ensure (parseUnsigned u64Bound index).isSome
                (.invalid ("WebSocket message output " ++ debugQuote text ++
                  " has an invalid action index"))
              ensure (supportedSelector selector)
                (.invalid ("WebSocket message output " ++ debugQuote text ++
                  " has an unsupported selector"))

/-! ### Conditions -/

/-- The operators of a simple condition, in the order they are looked for. -/
def conditionOperators : List Str := ["<=", ">=", "==", "!=", "<", ">"].map String.toList

/-- The sides of a condition at the first operator it contains. -/
def splitCondition (condition : Str) : List Str → Option (Str × Str × Str)
  | [] => none
  | operator :: rest => match splitOnce operator condition with
    | some (left, right) =>
        if trim left = [] ∨ trim right = [] then none
        else some (trim left, operator, trim right)
    | none => splitCondition condition rest

def parseSimpleCondition (condition : Str) : Except WorkflowError (Str × Str × Str) :=
  match splitCondition condition conditionOperators with
  | some parts => .ok parts
  | none => .error (.invalid ("unsupported simple condition " ++ debugQuote condition))

/-- The pointer of an operand that selects a part of the response body. -/
def responseBodyPointer (expression : Str) : Option Str :=
  match stripPrefix "$response.body#" expression with
  | some pointer => some pointer
  | none => (stripPrefix "$response.body." expression).map (fun path =>
      '/' :: join "/" ((path.splitOn '.').map (fun segment =>
        replaceAll "/" "~1" (replaceAll "~" "~0" segment))))

section

variable (lib : Crates)

def parseLiteral (literal : Str) : Except WorkflowError Value :=
  if startsWith "'" literal ∧ endsWith "'" literal ∧ 2 ≤ (utf8 literal).length then
    .ok (.string (replaceAll "''" "'" ((literal.drop 1).dropLast)))
  else match lib.parseJson (utf8 literal) with
    | .ok value => .ok value
    | .error _ => .error (.invalid ("condition literal " ++ debugQuote literal ++ " is invalid"))

/-- A simple success criterion as a check of the planner. -/
def simpleCheck (condition : Str) : Except WorkflowError Str := do
  let (left, operator, right) ← parseSimpleCondition condition
  ensure (operator = "==") (.invalid ("success criterion " ++ debugQuote condition ++
    " cannot be represented by a v1 declarative check"))
  let expected ← parseLiteral lib right
  if left = "$statusCode" then
    match expected.asU64 with
    | some status =>
        if status ≤ 65535 then .ok ("status:" ++ decimal status)
        else .error (.invalid "status criterion requires an integer status")
    | none => .error (.invalid "status criterion requires an integer status")
  else match responseBodyPointer left with
    | some pointer => .ok ("json-pointer:" ++ pointer ++ '=' :: expected.render)
    | none => .error (.invalid ("unsupported success criterion operand " ++ debugQuote left))

/-- A success criterion as a check of the planner. -/
def criterionToCheck (criterion : Value) : Except WorkflowError Str :=
  match (criterion.get "condition").bind Value.asStr with
  | none => .error (.invalid "success criterion requires condition")
  | some condition =>
      let kind := ((criterion.get "type").bind Value.asStr).getD "simple"
      let onBody := (criterion.get "context").bind Value.asStr = some "$response.body".toList
      if kind = "simple" then simpleCheck lib condition
      else if kind = "jsonpath" ∧ onBody then .ok ("jsonpath:" ++ condition ++ ":exists")
      else if kind = "xpath" ∧ onBody then .ok ("xpath:" ++ condition ++ ":exists")
      else .error (.invalid ("unsupported success criterion type/context " ++ debugQuote kind))

/-- Equality of a value and a literal; texts are compared without regard to
    case. -/
def sameValue (actual expected : Value) : Bool :=
  match actual.asStr, expected.asStr with
  | some left, some right => eqIgnoreCase left right
  | _, _ => actual = expected

/-- A comparison of two numbers. -/
def compareNumbers (operator : Str) (left right : Number) : Bool :=
  if operator = "<" then lib.floatLt left right
  else if operator = "<=" then !lib.floatLt right left
  else if operator = ">" then lib.floatLt right left
  else if operator = ">=" then !lib.floatLt left right
  else false

def compareValues (actual : Value) (operator : Str) (expected : Value) : Bool :=
  if operator = "==" then sameValue actual expected
  else if operator = "!=" then !sameValue actual expected
  else match actual, expected with
    | .number left, .number right => compareNumbers lib operator left right
    | _, _ => false

/-! ### Actions -/

/-- What the operand of a criterion is for a response. -/
def criterionOperand (left : Str) (status : Option Nat) (body : Option Value) :
    Except WorkflowError Value :=
  if left = "$statusCode" then .ok (jsonNat (status.getD 0))
  else match responseBodyPointer left with
    | some pointer => .ok ((body.bind (fun b => b.pointer pointer)).getD .null)
    | none => .error (.invalid ("unsupported action criterion operand " ++ debugQuote left))

/-- Whether one criterion holds for a response. -/
def criterionHolds (status : Option Nat) (body : Option Value) (criterion : Value) :
    Except WorkflowError Bool :=
  match (criterion.get "condition").bind Value.asStr with
  | none => .error (.invalid "action criterion requires condition")
  | some condition => do
      let (left, operator, right) ← parseSimpleCondition condition
      let expected ← parseLiteral lib right
      let actual ← criterionOperand left status body
      pure (compareValues lib actual operator expected)

/-- The loop of `criteria_match`: criteria after one that does not hold are not
    looked at. -/
def criteriaHold (status : Option Nat) (body : Option Value) :
    List Value → Except WorkflowError Bool
  | [] => .ok true
  | criterion :: rest => do
      let holds ← criterionHolds lib status body criterion
      if holds then criteriaHold status body rest else pure false

end

def actionType (action : Value) : Option Str := (action.get "type").bind Value.asStr

def actionCriteria (action : Value) : List Value := valueArray action "criteria"

def retryLimit (action : Value) : Nat := ((action.get "retryLimit").bind Value.asU64).getD 1

/-- The number `retryAfter` of an action. -/
def retryAfter (action : Value) : Number :=
  match action.get "retryAfter" with
  | some (.number n) => n
  | _ => .posInt 0

/-- The delay before a retry, in nanoseconds. -/
def retryDelay (lib : Crates) (action : Value) : Nat := lib.seconds (retryAfter action)

/-- Whether an action is a retry. -/
def isRetry (action : Value) : Bool := actionType action = some "retry".toList

/-- Whether an action ends the workflow. -/
def isEnd (action : Value) : Bool := actionType action = some "end".toList

/-- The check of one criterion of an action. -/
def validateActionCriterion (criterion : Value) : Except WorkflowError Unit := do
  ensure (((criterion.get "type").bind Value.asStr).all (fun kind => kind = "simple".toList))
    (.invalid "v1 action criteria support only simple conditions")
  match (criterion.get "condition").bind Value.asStr with
  | none => .error (.invalid "action criterion requires condition")
  | some condition => do
      let _ ← parseSimpleCondition condition
      pure ()

/-- The check of the numbers of a retry. -/
def validateRetry (lib : Crates) (stepId : Str) (action : Value) : Except WorkflowError Unit := do
  ensure (retryLimit action ≤ 10)
    (.invalid ("step " ++ debugQuote stepId ++ " retryLimit exceeds the v1 maximum of 10"))
  ensure (!(lib.floatLt (retryAfter action) (.posInt 0) ||
      lib.floatLt (.posInt 60) (retryAfter action)))
    (.invalid ("step " ++ debugQuote stepId ++ " retryAfter must be between 0 and 60 seconds"))

/-- The check of one action of a step. -/
def validateAction (lib : Crates) (stepId : Str) (success : Bool) (action : Value) :
    Except WorkflowError Unit := do
  ensure (action.get "reference").isNone (.invalid ("step " ++ debugQuote stepId ++
    " uses a reusable action; inline retry/end actions are required"))
  match actionType action with
  | none => .error (.invalid ("step " ++ debugQuote stepId ++ " action requires type"))
  | some kind => do
      ensure (kind = "end" || (!success && kind = "retry")) (.invalid ("step " ++
        debugQuote stepId ++ " action type " ++ debugQuote kind ++ " is not supported in v1"))
      if kind = "retry" then validateRetry lib stepId action
      (actionCriteria action).forM validateActionCriterion

def validateActions (lib : Crates) (stepId : Str) (actions : List Value) (success : Bool) :
    Except WorkflowError Unit :=
  actions.forM (validateAction lib stepId success)

end Kahea
