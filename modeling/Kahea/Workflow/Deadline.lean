import Kahea.Workflow.Outputs
import Kahea.Workflow.Reports

/-!
# The Deadline of a Workflow

The timeout of an attempt against the time that is left when it starts.

A session step reads the clock before every attempt. A request step reads it
once, before its first attempt, and gives the timeout it found then to every
attempt after it. So the timeout of a request that is tried again is what was
left of the budget when the step began, and the attempt may run past the
deadline of the workflow, unless the step declares a timeout that is short
enough for what is left now.

## Main definitions

* `Timed`: What a run knows of the timeout of an attempt.
* `WithinDeadline`: The timeouts of a run are bounded by the time left.
* `RetriesInTime`: The requests of a run that are tried again are in time.

## Theorems

* `timed_workflow`: The timeouts of a run.
* `attempts_within_deadline_iff`: When they keep the deadline.
* `retry_past_deadline`: A run in which they do not.
-/

namespace Kahea

/-- What is left of a budget, or the declared timeout when it is shorter. -/
def tightened (left : Nat) : Option Nat → Nat
  | none => left
  | some declared => min declared left

/-- The timeout of an attempt was computed at its start, except for a request
    that is tried again, and is what was left then or less. -/
def Timed (clock : List WorkflowEvent → Nat) (budget : Nat) (past : List WorkflowEvent) :
    WorkflowEvent → Prop
  | .started attempt =>
      (attempt.transport = .webSocket ∨ attempt.retries = 0 → attempt.since = clock past) ∧
        attempt.since < budget ∧
        attempt.timeout = tightened (budget - attempt.since) attempt.declared
  | _ => True

section

variable {lib : Crates} {world : WorkflowWorld} {describe : Value → Str} {plan : WorkflowPlan}
  {options : InvokeOptions} {configuration : ProjectConfiguration} {α : Type}

theorem timed_of_unmarked {ε α : Type} {m : Eff WorkflowEvent ε α} (h : Unmarked m) {budget : Nat}
    (past : List WorkflowEvent) : Along (Timed world.clock budget) past (m past).2 := by
  refine h.along (fun past e he => ?_) past
  cases e with
  | started attempt => cases he
  | _ => exact trivial

/-- The timeout that is computed for an attempt. -/
theorem tightened_of_remaining {since budget timeout : Nat} {ms : Option Nat}
    (h : remainingStepTimeout since budget ms = .ok timeout) :
    since < budget ∧ timeout = tightened (budget - since) (ms.map (· * 1000000)) := by
  refine ⟨(remainingStepTimeout_ok h).1, ?_⟩
  unfold remainingStepTimeout at h
  rw [if_pos (remainingStepTimeout_ok h).1] at h
  cases h
  cases ms <;> rfl

/-- The events of an attempt are timed when its start is. -/
theorem timed_markedAttempt {attempt : Attempt} {result : α → AttemptResult}
    {program : World → Eff Event ExecError α} {budget : Nat} {past : List WorkflowEvent}
    (h : Timed world.clock budget past (.started attempt)) :
    Along (Timed world.clock budget) past (markedAttempt world attempt result program past).2 := by
  rcases @markedAttempt_run world α attempt result program past with
    ⟨outcome, middle, hmiddle, hrun⟩
  rw [hrun]
  refine ⟨h, (along_append _ _ _).mpr ⟨along_of_mem (fun e he past => ?_), trivial, trivial⟩⟩
  have hmark := hmiddle e he
  cases e with
  | started attempt => cases hmark
  | _ => exact trivial

/-! ### The steps -/

theorem timed_httpAttempt {step : WorkflowStepTemplate} {since timeout retries : Nat}
    {execute : World → Eff Event ExecError InvocationResult} {past : List WorkflowEvent}
    (htimeout : remainingStepTimeout since options.timeout step.timeoutMs = .ok timeout)
    (hsince : retries = 0 → since = world.clock past) :
    Along (Timed world.clock options.timeout) past
      (httpAttempt lib world step options since timeout execute retries past).2 := by
  rcases tightened_of_remaining htimeout with ⟨hlt, htightened⟩
  refine Eff.along_bind.mpr ⟨timed_markedAttempt ⟨?_, hlt, htightened⟩, fun outcome _ => ?_⟩
  · rintro (htransport | hzero)
    · cases htransport
    · exact hsince hzero
  · cases outcome with
    | ok result =>
        exact timed_of_unmarked ((pausing_failureAction _ result).unmarked.bind (fun action =>
          (pausing_goesOn _ _ action).unmarked.bind (fun _ => .pure _))) _
    | error e =>
        refine timed_of_unmarked ((pausing_goesOn _ _ _).unmarked.bind (fun again => ?_)) _
        split_ifs
        · exact .pure _
        · exact .fail _

theorem timed_invokeHttpStep (step : WorkflowStepTemplate) (outputs : StepOutputs)
    (past : List WorkflowEvent) : Along (Timed world.clock options.timeout) past
      (invokeHttpStep lib world plan options configuration step outputs past).2 := by
  refine Eff.along_bind.mpr ⟨timed_of_unmarked (unmarked_planHttpStep _ _ _ _) _, fun requestPlan _ => ?_⟩
  refine Eff.along_bind.mpr ⟨timed_of_unmarked pausing_elapsed.unmarked _, fun since hsince => ?_⟩
  rw [elapsed_run] at hsince ⊢
  refine Eff.along_bind.mpr ⟨trivial, fun timeout htimeout => ?_⟩
  -- Nothing happens between reading the clock and the first attempt.
  cases hsince
  refine Eff.along_bind.mpr ⟨along_retryLoop ?_ _ _ ?_, fun pair _ =>
    timed_of_unmarked (pausing_finishHttpStep _ _ _ _).unmarked _⟩
  · intro later hlater past
    exact timed_httpAttempt htimeout (fun hzero => by omega)
  · refine timed_httpAttempt htimeout (fun _ => ?_)
    simp only [Eff.ofExcept, List.append_nil]

theorem timed_websocketAttempt {step : WorkflowStepTemplate} {websocketPlan : WebSocketPlan}
    {retries : Nat} (past : List WorkflowEvent) : Along (Timed world.clock options.timeout) past
      (websocketAttempt lib world step websocketPlan options retries past).2 := by
  refine Eff.along_bind.mpr ⟨timed_of_unmarked pausing_elapsed.unmarked _, fun since hsince => ?_⟩
  rw [elapsed_run] at hsince ⊢
  refine Eff.along_bind.mpr ⟨trivial, fun timeout htimeout => ?_⟩
  cases hsince
  rcases tightened_of_remaining htimeout with ⟨hlt, htightened⟩
  refine Eff.along_bind.mpr ⟨timed_markedAttempt ⟨fun _ => ?_, hlt, htightened⟩, fun outcome _ => ?_⟩
  · simp only [Eff.ofExcept, List.append_nil]
  · rcases outcome with e | connected | observation | denial
    · refine timed_of_unmarked ((pausing_goesOn _ _ _).unmarked.bind (fun again => ?_)) _
      split_ifs
      · exact .pure _
      · exact .fail _
    · exact trivial
    · exact timed_of_unmarked ((pausing_goesOn _ _ _).unmarked.bind (fun _ => .pure _)) _
    · exact trivial

theorem timed_invokeWebsocketWorkflowStep (step : WorkflowStepTemplate) (outputs : StepOutputs)
    (inputs : Value) (past : List WorkflowEvent) :
    Along (Timed world.clock options.timeout) past
      (invokeWebsocketWorkflowStep lib world describe inputs options configuration step outputs
        past).2 := by
  refine Eff.along_bind.mpr ⟨trivial, fun websocketPlan _ => ?_⟩
  refine Eff.along_bind.mpr ⟨timed_of_unmarked (pausing_storeStepPlan _ _).unmarked _, fun _ _ => ?_⟩
  exact Eff.along_bind.mpr ⟨along_retryLoop (fun _ _ past => timed_websocketAttempt past) _ _
    (timed_websocketAttempt _), fun pair _ =>
      timed_of_unmarked (pausing_finishWebsocketStep _ _ _ _).unmarked _⟩

theorem timed_invokeStep (step : WorkflowStepTemplate) (outputs : StepOutputs)
    (past : List WorkflowEvent) : Along (Timed world.clock options.timeout) past
      (invokeStep lib world describe plan options configuration step outputs past).2 := by
  unfold invokeStep
  split_ifs
  · exact Eff.along_bind.mpr ⟨timed_invokeWebsocketWorkflowStep step outputs _ past,
      fun _ _ => trivial⟩
  · exact timed_invokeHttpStep step outputs past

/-! ### Runs -/

/-- What holds along every step holds along all of them. -/
theorem along_invokeSteps {P : List WorkflowEvent → WorkflowEvent → Prop}
    {one : WorkflowStepTemplate → StepOutputs → Run (WorkflowStepRun × Bool)}
    {steps : List WorkflowStepTemplate}
    (hone : ∀ step ∈ steps, ∀ outputs past, Along P past (one step outputs past).2)
    (progress : Progress) (past : List WorkflowEvent) :
    Along P past (invokeSteps one steps progress past).2 := by
  induction steps generalizing progress past with
  | nil => exact trivial
  | cons step rest ih =>
      refine Eff.along_bind.mpr ⟨hone step List.mem_cons_self progress.outputs past, fun pair _ => ?_⟩
      rcases pair with ⟨run, ends⟩
      dsimp only
      split_ifs
      · exact trivial
      · exact trivial
      · exact ih (fun other hother => hone other (List.mem_cons_of_mem step hother)) _ _

/-- The timeouts of a run. -/
theorem timed_workflow (past : List WorkflowEvent) : Along (Timed world.clock options.timeout) past
    (invokeWorkflow lib world describe plan options configuration past).2 := by
  refine Eff.along_bind.mpr ⟨trivial, fun _ _ => ?_⟩
  cases missingGrant options.grants plan.requiredGrants with
  | some missing => exact trivial
  | none =>
      refine Eff.along_bind.mpr ⟨along_invokeSteps (fun step _ => timed_invokeStep step) _ _, fun pair _ => ?_⟩
      rcases pair with ⟨progress, exit⟩
      dsimp only
      split_ifs
      · exact trivial
      · exact trivial

end

/-! ### The deadline -/

/-- Every attempt of a run gets a timeout that is at most what is left of the
    budget when it starts, and at most what its step declares. -/
def WithinDeadline (clock : List WorkflowEvent → Nat) (budget : Nat) (events : List WorkflowEvent) :
    Prop :=
  ∀ before attempt after, events = before ++ .started attempt :: after →
    attempt.timeout ≤ budget - clock before ∧
      ∀ declared, attempt.declared = some declared → attempt.timeout ≤ declared

/-- Every request of a run that is tried again starts before any time has passed
    since its step began, or its step declares a timeout that fits into what is
    left. -/
def RetriesInTime (clock : List WorkflowEvent → Nat) (budget : Nat) (events : List WorkflowEvent) :
    Prop :=
  ∀ before attempt after, events = before ++ .started attempt :: after →
    attempt.transport = .http → attempt.retries ≠ 0 →
      clock before ≤ attempt.since ∨
        ∃ declared, attempt.declared = some declared ∧ declared ≤ budget - clock before

/-- The attempts of a run keep the deadline of the workflow when the requests
    that are tried again are in time, and only then. -/
theorem attempts_within_deadline_iff (lib : Crates) (world : WorkflowWorld)
    (describe : Value → Str) (plan : WorkflowPlan) (options : InvokeOptions)
    (configuration : ProjectConfiguration) :
    WithinDeadline world.clock options.timeout
        (invokeWorkflow lib world describe plan options configuration []).2 ↔
      RetriesInTime world.clock options.timeout
        (invokeWorkflow lib world describe plan options configuration []).2 := by
  -- What the run says of each attempt: since when its timeout is counted.
  have hrun : Along (Timed world.clock options.timeout) []
      (invokeWorkflow lib world describe plan options configuration []).2 := timed_workflow []
  have htimed := along_iff.mp hrun
  refine forall_congr' fun before => forall_congr' fun attempt => forall_congr' fun after => ?_
  refine imp_congr_right fun hsplit => ?_
  rcases htimed before (.started attempt) after hsplit with ⟨hsince, hlt, htimeout⟩
  rw [List.nil_append] at hsince
  rw [htimeout]
  constructor
  -- An attempt in time has what is left, or what its step declares.
  · rintro ⟨hleft, -⟩ - -
    cases hdeclared : attempt.declared with
    | none =>
        rw [hdeclared] at hleft
        change options.timeout - attempt.since ≤ options.timeout - world.clock before at hleft
        exact Or.inl (by omega)
    | some declared =>
        rw [hdeclared] at hleft
        change min declared (options.timeout - attempt.since) ≤
          options.timeout - world.clock before at hleft
        by_cases hle : declared ≤ options.timeout - world.clock before
        · exact Or.inr ⟨declared, rfl, hle⟩
        · exact Or.inl (by omega)
  · intro hretry
    refine ⟨?_, fun declared hdeclared => ?_⟩
    -- A session and a first attempt are counted from their start, so they are in time.
    · by_cases hfirst : attempt.transport = .webSocket ∨ attempt.retries = 0
      · rw [hsince hfirst]
        cases attempt.declared with
        | none => exact Nat.le_refl _
        | some declared => exact Nat.min_le_right _ _
      · push Not at hfirst
        have htransport : attempt.transport = .http := by
          cases h : attempt.transport with
          | http => rfl
          | webSocket => exact absurd h hfirst.1
        -- A later HTTP attempt is counted from the first one.
        rcases hretry htransport hfirst.2 with hclock | ⟨declared, hdeclared, hfits⟩
        · have hleft : options.timeout - attempt.since ≤ options.timeout - world.clock before := by
            omega
          cases attempt.declared with
          | none => exact hleft
          | some declared => exact (Nat.min_le_right _ _).trans hleft
        · rw [hdeclared]
          exact (Nat.min_le_left _ _).trans hfits
    · rw [hdeclared]
      exact Nat.min_le_left _ _

section

variable {lib : Crates} {world : WorkflowWorld} {describe : Value → Str} {plan : WorkflowPlan}
  {options : InvokeOptions} {configuration : ProjectConfiguration} {step : WorkflowStepTemplate}
  {clock : List WorkflowEvent → Nat} {budget : Nat} {events : List WorkflowEvent}

/-- A request that is tried again when nothing is left breaks the deadline. -/
theorem not_withinDeadline_of_late {run : WorkflowStepRun} (hreport : StepReport step events run)
    (htwice : run.attempts.length = 2) (hdeclared : step.timeoutMs = none)
    (hlate : ∀ past, begunAttempts past ≠ [] → clock past = budget)
    (htimed : Along (Timed clock budget) [] events) : ¬ WithinDeadline clock budget events := by
  intro h
  rw [hreport.records, List.length_map] at htwice
  -- The second attempt begins after the first, when no time is left.
  rcases List.length_eq_two.mp htwice with ⟨first, second, hfinished⟩
  have hbegun : begunAttempts events = [first.1] ++ second.1 :: [] := by
    rw [hreport.begun, hfinished]
    rfl
  rcases begunAttempts_split hbegun with ⟨before, after, hsplit, hbefore⟩
  have hclock : clock before = budget := hlate before (by rw [hbefore]; exact List.cons_ne_nil _ _)
  -- The step declares no timeout of its own.
  have hnone : second.1.declared = none := by
    have hmem : second ∈ finishedAttempts events := by
      rw [hfinished]
      exact List.mem_cons_of_mem _ List.mem_cons_self
    rw [(hreport.attempts second hmem).2, hdeclared]
    rfl
  rcases along_iff.mp htimed before _ after hsplit with ⟨_, hlt, htimeout⟩
  have hbound := (h before _ after hsplit).1
  rw [hclock, htimeout, hnone] at hbound
  change budget - second.1.since ≤ budget - budget at hbound
  omega

/-- So does a run that does nothing else. -/
theorem not_withinDeadline_of_twice (hdeclared : step.timeoutMs = none)
    (hlate : ∀ past, begunAttempts past ≠ [] → world.clock past = options.timeout)
    (htwice : (invokeSteps (invokeStep lib world describe plan options configuration) [step]
      ⟨[], []⟩ []).1.toOption.map (fun r => r.1.observations.map (fun o => o.attempts.length)) =
        some [2]) :
    ¬ WithinDeadline world.clock options.timeout
      (invokeSteps (invokeStep lib world describe plan options configuration) [step] ⟨[], []⟩ []).2 := by
  rcases exists_ok_of_toOption htwice with ⟨⟨progress, exit⟩, hok, hattempts⟩
  rcases invokeSteps_reported (fun _ _ _ _ _ => invokeStep_reported) hok with
    ⟨runs, observations, hobservations, hfront, hreport⟩
  rw [hobservations, List.nil_append, hreport.observations, List.map_map] at hattempts
  rcases List.map_eq_singleton_iff.mp hattempts with ⟨r, rfl, hrecords⟩
  have hstep : r.step = step := (List.cons_prefix_cons.mp hfront).1
  have hevents := hreport.events.trans (List.append_nil r.events)
  have hreported := hreport.reports r List.mem_cons_self
  rw [hstep, ← hevents] at hreported
  exact not_withinDeadline_of_late hreported hrecords hdeclared hlate
    (along_invokeSteps (fun step _ => timed_invokeStep step) _ _)

end

/-- A step that requests the page and may be tried again once. -/
def retriedStep : WorkflowStepTemplate :=
  { pageStep "a" "b" 1 with onFailure := [jsonObject [("type", .string "retry")]] }

/-- The clock of a run whose first attempt takes all the time there is. -/
def lateClock (past : List WorkflowEvent) : Nat :=
  if (begunAttempts past).isEmpty then 0 else pagesOptions.timeout

/-- An outside that fails every request and in which the first one takes all the
    time there is. -/
def lateWorld : WorkflowWorld :=
  { pagesWorld with
    executor := fun _ => referenceWorld.responding
      { status := 503, version := .http11, headers := [], body := .ok (utf8 "\x7b\x7d") }
    clock := lateClock }

/-- The second attempt is given the timeout of the first one, although nothing is
    left of the budget. -/
theorem retry_past_deadline : ¬ WithinDeadline lateWorld.clock pagesOptions.timeout
    (invokeWorkflow referenceCrates lateWorld (fun _ => []) (pagesWorkflow [retriedStep])
      pagesOptions .default []).2 := by
  have hseal : (pagesWorkflow [retriedStep]).verifySeal referenceCrates = true :=
    WorkflowPlan.verifySeal_sealed _ _
  have hplan : (pagesWorkflow [retriedStep]).steps = [retriedStep] := rfl
  have hsealed : ∀ step ∈ [retriedStep], invokeStep referenceCrates lateWorld (fun _ => [])
      (pagesWorkflow [retriedStep]) pagesOptions .default step = sealedHttpStep referenceCrates
        lateWorld (pagesWorkflow [retriedStep]) pagesOptions .default step := by
    intro step hstep
    cases List.mem_singleton.mp hstep
    exact invokeStep_sealed rfl
  have hlate : ∀ past, begunAttempts past ≠ [] → lateWorld.clock past = pagesOptions.timeout :=
    fun past hpast => if_neg (fun h => hpast (List.isEmpty_iff.mp h))
  rw [(invokeWorkflow_sealed hseal (by decide) rfl rfl rfl (fun _ hg => hg) _).2, hplan,
    ← invokeSteps_congr hsealed]
  refine not_withinDeadline_of_twice rfl hlate ?_
  rw [invokeSteps_congr hsealed]
  decide +kernel

end Kahea
