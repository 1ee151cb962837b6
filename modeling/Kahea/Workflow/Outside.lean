import Kahea.Exec.WebSocket
import Kahea.Workflow.Expression

/-!
# The Outside of a Workflow

What a workflow run does besides the effects of its planners and executors, and
what answers it.

A run is a program over `WorkflowEvent`. The effects of planning a request and
of executing it are run under `executes`, which hands them the effects of the
past and records the new ones; how the outside answers them may change from one
point of a run to the next, so a server may react to what it has been sent.
Time is a function of the past as well: the clock of a run may advance with
every event. An attempt is marked where it starts and where it ends, with what
it ended with. The marks are for the statements only; nothing reads them.

The evidence store returns the first record that was stored under a handle,
which is how its index keeps them.

## Main definitions

* `Attempt`, `AttemptResult`: One attempt of a step.
* `WorkflowEvent`, `WorkflowWorld`: The events of a run and their answers.
* `executes`: Planning and executing as a part of a run.
* `remainingStepTimeout`, `sleepRetryDelay`: The time budget.
* `evidenceGet`, `storedBody`: Reading records back.

## Theorems

* `remainingStepTimeout_ok`: The timeout of an attempt.
-/

namespace Kahea

/-! ### Attempts -/

/-- One attempt of a step, with the timeout the executor is given. -/
structure Attempt where
  step : Str
  transport : WorkflowStepTransport
  /-- The attempts of the step before this one. -/
  retries : Nat
  timeout : Nat
  /-- The timeout the step declares, in nanoseconds. -/
  declared : Option Nat
  /-- The time at which the timeout was computed. -/
  since : Nat
  deriving DecidableEq, Repr

/-- What an attempt ends with. -/
inductive AttemptResult where
  | http (result : InvocationResult)
  | webSocket (result : WebSocketConnectResult)
  | error (message : Str)

namespace InvocationResult

def toJson : InvocationResult → Value
  | observation o => o.toJson
  | denied d => d.toJson

def exit : InvocationResult → Nat
  | observation o => o.exit
  | denied d => d.exit

end InvocationResult

/-- The record of an attempt that ended with an error of the executor. -/
def attemptError (message : Str) : Value :=
  jsonSorted [("protocol", .string PROTOCOL), ("kind", .string "workflow-attempt-error"),
    ("message", .string message), ("exit", jsonNat 3)]

namespace AttemptResult

/-- What a step lists of an attempt. An open session is never listed. -/
def record : AttemptResult → Value
  | http result => result.toJson
  | webSocket (.observation o) => o.toJson
  | webSocket (.denied d) => d.toJson
  | webSocket (.connected _) => .null
  | error message => attemptError message

/-- The exit an attempt stands for. -/
def exit : AttemptResult → Nat
  | http result => result.exit
  | webSocket (.observation o) => o.exit
  | webSocket (.denied d) => d.exit
  | webSocket (.connected _) => 3
  | error _ => 3

/-- Whether the attempt was denied. -/
def isDenied : AttemptResult → Bool
  | http (.denied _) | webSocket (.denied _) => true
  | _ => false

end AttemptResult

/-! ### Events -/

/-- What a run does, and the marks of its attempts. -/
inductive WorkflowEvent where
  | effect (event : Event)
  | slept (nanoseconds : Nat)
  | started (attempt : Attempt)
  | ended (attempt : Attempt) (result : AttemptResult)

/-- The effects among the events. -/
def effects (events : List WorkflowEvent) : List Event :=
  events.filterMap (fun e => match e with
    | .effect event => some event
    | _ => none)

/-- The records among the effects. -/
def storedRecords (events : List WorkflowEvent) : List Record :=
  (effects events).filterMap (fun e => match e with
    | .store record => some record
    | _ => none)

/-- What answers a run. -/
structure WorkflowWorld where
  /-- What answers the planners and the executors from a point of the run on. -/
  executor : List WorkflowEvent → World
  /-- The records in the store when the run starts. -/
  earlier : List Record
  /-- Whether a record can be read. -/
  evidence : List WorkflowEvent → Str → Except Str Unit
  /-- Whether a plan can be stored. -/
  storePlan : List WorkflowEvent → Except Str Unit
  /-- The nanoseconds since the run started. -/
  clock : List WorkflowEvent → Nat

/-- A program of a workflow run. -/
abbrev Run (α : Type) := Eff WorkflowEvent WorkflowError α

section

variable (lib : Crates) (world : WorkflowWorld) {ε α : Type}

/-- A program of a planner or an executor as a part of a run. -/
def executes (program : World → Eff Event ε α) : Eff WorkflowEvent ε α := fun past =>
  let r := program (world.executor past) (effects past)
  (r.1, r.2.map .effect)

/-- The time that has passed. -/
def elapsed : Eff WorkflowEvent ε Nat := do
  let past ← Eff.past
  pure (world.clock past)

/-- The method `get` of the evidence store: the data of a record. -/
def evidenceGet (handle : Str) : Eff WorkflowEvent Str (List UInt8) := do
  let past ← Eff.past
  Eff.ofExcept (world.evidence past handle)
  match (world.earlier ++ storedRecords past).find? (fun r =>
      shortHandle lib r.kind [r.content.data] = handle) with
  | some record => pure record.content.data
  | none => Eff.fail ("evidence handle " ++ debugQuote handle ++ " was not found")

/-- The body of a response as JSON, when it has one that is. -/
def storedBody (observation : Observation) : Run (Option Value) :=
  match observation.body with
  | none => pure none
  | some handle => do
      let data ← (evidenceGet lib world handle).mapError WorkflowError.evidence
      pure (lib.parseJson data).toOption

end

/-! ### Time -/

def budgetExhausted : WorkflowError := .invalid "workflow timeout budget exhausted"

/-- The timeout an attempt is given. -/
def remainingStepTimeout (elapsed timeout : Nat) (stepTimeoutMs : Option Nat) :
    Except WorkflowError Nat :=
  if elapsed < timeout then
    .ok (match stepTimeoutMs with
      | some ms => min (ms * 1000000) (timeout - elapsed)
      | none => timeout - elapsed)
  else .error budgetExhausted

/-- Sleep before a retry, when the budget has room for it. -/
def sleepRetryDelay (world : WorkflowWorld) (timeout delay : Nat) : Run Unit := do
  let now ← elapsed world
  Eff.ofExcept (ensure (now ≤ timeout) budgetExhausted)
  Eff.ofExcept (ensure (delay < timeout - now)
    (.invalid "workflow retry delay exceeds the remaining timeout budget"))
  Eff.emit (.slept delay)

/-- The timeout of an attempt is what is left of the budget, or less. -/
theorem remainingStepTimeout_ok {elapsed timeout result : Nat} {stepTimeoutMs : Option Nat}
    (h : remainingStepTimeout elapsed timeout stepTimeoutMs = .ok result) :
    elapsed < timeout ∧ result ≤ timeout - elapsed ∧
      ∀ ms, stepTimeoutMs = some ms → result ≤ ms * 1000000 := by
  unfold remainingStepTimeout at h
  split_ifs at h with hlt
  cases h
  refine ⟨hlt, ?_, fun ms hms => ?_⟩
  · cases stepTimeoutMs with
    | none => exact Nat.le_refl _
    | some ms => exact Nat.min_le_right _ _
  · subst hms
    exact Nat.min_le_left _ _

/-! ### Planning and executing in a run -/

theorem mem_effects {e : Event} {events : List WorkflowEvent} :
    e ∈ effects events ↔ .effect e ∈ events := by
  unfold effects
  rw [List.mem_filterMap]
  constructor
  · rintro ⟨x, hx, h⟩
    cases x with
    | effect event =>
        cases h
        exact hx
    | slept _ | started _ | ended _ _ => cases h
  · exact fun h => ⟨_, h, rfl⟩

end Kahea
