import Kahea.Workflow.Outputs
import Kahea.Workflow.Planned
import Kahea.Workflow.Reports

/-!
# The Order of a Run

In which order the attempts of a planned workflow are made, and how many of them
there are.

A run works through the steps of its plan, and only a step that has passed lets
it go on. So what has happened when a step begins is known from the list of its
steps alone: the steps before it have passed, and none of them is begun again
(`invokeSteps_stages`). The planner has made sure that a step depends on earlier
steps only, so they are among those. The attempts of a step are numbered, and
the number of the last one is at most the limit of a retry; the planner has made
sure of that limit as well.

All of this holds of the runs that end with an error too, whose observations
are lost.

## Main definitions

* `Begins`: The attempts a step begins.
* `PassedIn`: A step has passed.
* `Stages`: A run, taken apart into its steps.

## Theorems

* `invokeStep_begins`: The attempts of a step, whatever it ends with.
* `invokeSteps_stages`: The stages of a run.
* `dependencies_passed`: A step begins after the steps it depends on.
* `attempts_bounded`: The number of attempts of a run.
-/

namespace Kahea

/-! ### The attempts of a step -/

/-- An attempt is the first one of its step, or a retry was left for it. -/
def Allowed (step : WorkflowStepTemplate) (attempt : Attempt) : Prop :=
  attempt.retries = 0 ∨ ∃ a ∈ step.onFailure, isRetry a = true ∧ attempt.retries ≤ retryLimit a

/-- The attempts that are begun are those of a step, numbered from zero. -/
structure Begins (step : WorkflowStepTemplate) (events : List WorkflowEvent) : Prop where
  attempts : ∀ a ∈ begunAttempts events, AttemptOf step a ∧ Allowed step a
  numbers : (begunAttempts events).map Attempt.retries = List.range (begunAttempts events).length

section

variable {step : WorkflowStepTemplate} {events : List WorkflowEvent}

theorem Begins.congr {others : List WorkflowEvent} (h : Begins step events)
    (hsame : begunAttempts others = begunAttempts events) : Begins step others := by
  refine ⟨?_, ?_⟩
  · rw [hsame]
    exact h.attempts
  · rw [hsame]
    exact h.numbers

theorem begins_unmarked (h : ∀ e ∈ events, e.isMark = false) : Begins step events := by
  have hnone := begunAttempts_unmarked h
  refine ⟨?_, ?_⟩
  · rw [hnone]
    exact fun a ha => absurd ha List.not_mem_nil
  · rw [hnone]
    rfl

/-- Behind a program without marks. -/
theorem Unmarked.begins_bind {α β : Type} {m : Run α} {f : α → Run β} {past : List WorkflowEvent}
    (hm : Unmarked m) (hf : ∀ a later, Begins step (f a later).2) :
    Begins step ((m >>= f) past).2 := by
  cases hrun : (m past).1 with
  | error e =>
      rw [Eff.bind_of_error hrun]
      exact begins_unmarked (hm past).2
  | ok a =>
      rw [Eff.bind_of_ok hrun]
      refine (hf a (past ++ (m past).2)).congr ?_
      rw [begunAttempts_append, begunAttempts_unmarked (hm past).2, List.nil_append]

/-- Before programs without marks. -/
theorem Begins.bind_unmarked {α β : Type} {m : Run α} {f : α → Run β} {past : List WorkflowEvent}
    (hm : Begins step (m past).2) (hf : ∀ a, Unmarked (f a)) : Begins step ((m >>= f) past).2 := by
  cases hrun : (m past).1 with
  | error e =>
      rw [Eff.bind_of_error hrun]
      exact hm
  | ok a =>
      rw [Eff.bind_of_ok hrun]
      refine hm.congr ?_
      rw [begunAttempts_append, begunAttempts_unmarked (hf a _).2, List.append_nil]

/-- The attempts of a loop, whatever it ends with. -/
theorem retryLoop_begun {α : Type} {result : α → AttemptResult} {once : Nat → Run (Value × Option α)}
    (honce : ∀ retries past, Attempting step retries result (once retries past))
    (hagain : ∀ retries past record, (once retries past).1 = .ok (record, none) →
      ∃ a ∈ step.onFailure, isRetry a = true ∧ retries < retryLimit a)
    (left retries : Nat) (records : List Value) (past : List WorkflowEvent)
    (hfirst : retries = 0 ∨ ∃ a ∈ step.onFailure, isRetry a = true ∧ retries ≤ retryLimit a) :
    let begun := begunAttempts (retryLoop once left retries records past).2
    (∀ a ∈ begun, AttemptOf step a ∧ Allowed step a) ∧
      begun.map Attempt.retries = List.range' retries begun.length := by
  induction left generalizing retries records past with
  | zero => exact ⟨fun a ha => absurd ha List.not_mem_nil, rfl⟩
  | succ left ih =>
      rw [retryLoop]
      rcases honce retries past with ⟨⟨e, herror⟩, hnone⟩ | ⟨attempt, ended, hone, hstep, hretries, _⟩
      · rw [Eff.bind_of_error herror]
        dsimp only
        rw [begunAttempts_unmarked hnone]
        exact ⟨fun a ha => absurd ha List.not_mem_nil, rfl⟩
      · have hallowed : Allowed step attempt := by
          rw [Allowed, hretries]
          exact hfirst
        cases hrun : (once retries past).1 with
        | error e =>
            rw [Eff.bind_of_error hrun]
            dsimp only
            rw [hone.begun]
            refine ⟨fun a ha => ?_, ?_⟩
            · cases List.mem_singleton.mp ha
              exact ⟨hstep, hallowed⟩
            · rw [List.map_singleton, hretries]
              rfl
        | ok pair =>
            rcases pair with ⟨record, outcome⟩
            rw [Eff.bind_of_ok hrun]
            dsimp only
            rw [begunAttempts_append, hone.begun]
            cases outcome with
            | some a =>
                refine ⟨fun b hb => ?_, ?_⟩
                · cases List.mem_singleton.mp hb
                  exact ⟨hstep, hallowed⟩
                · change [attempt.retries] = [retries]
                  rw [hretries]
            | none =>
                -- The next attempt was asked for below a limit.
                rcases hagain retries past record hrun with ⟨a, ha, hretry, hlimit⟩
                rcases ih (retries + 1) (records ++ [record]) (past ++ (once retries past).2)
                  (Or.inr ⟨a, ha, hretry, hlimit⟩) with ⟨hattempts, hnumbers⟩
                dsimp only at hattempts hnumbers ⊢
                refine ⟨fun b hb => ?_, ?_⟩
                · rcases List.mem_cons.mp hb with rfl | hb
                  · exact ⟨hstep, hallowed⟩
                  · exact hattempts b hb
                · rw [List.singleton_append, List.map_cons, hnumbers, List.length_cons,
                    List.range'_succ, hretries]

theorem begins_retryLoop {α : Type} {result : α → AttemptResult}
    {once : Nat → Run (Value × Option α)} {left : Nat} {past : List WorkflowEvent}
    (honce : ∀ retries past, Attempting step retries result (once retries past))
    (hagain : ∀ retries past record, (once retries past).1 = .ok (record, none) →
      ∃ a ∈ step.onFailure, isRetry a = true ∧ retries < retryLimit a) :
    Begins step (retryLoop once left 0 [] past).2 := by
  rcases retryLoop_begun honce hagain left 0 [] past (Or.inl rfl) with ⟨hattempts, hnumbers⟩
  refine ⟨hattempts, ?_⟩
  rw [List.range_eq_range']
  exact hnumbers

end

section

variable {lib : Crates} {world : WorkflowWorld} {describe : Value → Str} {plan : WorkflowPlan}
  {options : InvokeOptions} {configuration : ProjectConfiguration}

theorem invokeHttpStep_begins (step : WorkflowStepTemplate) (outputs : StepOutputs)
    (past : List WorkflowEvent) :
    Begins step (invokeHttpStep lib world plan options configuration step outputs past).2 := by
  unfold invokeHttpStep
  refine (unmarked_planHttpStep _ _ _ _).begins_bind (fun requestPlan later => ?_)
  refine pausing_elapsed.unmarked.begins_bind (fun since later => ?_)
  refine (Unmarked.ofExcept _).begins_bind (fun timeout later => ?_)
  refine (begins_retryLoop (fun retries => httpAttempt_attempting step options _ timeout retries _
    (fun _ => invoke_contracted)) (fun _ _ _ h => httpAttempt_retries h)).bind_unmarked (fun a => ?_)
  exact (pausing_finishHttpStep _ _ _ _).unmarked

theorem invokeWebsocketWorkflowStep_begins (step : WorkflowStepTemplate) (outputs : StepOutputs)
    (inputs : Value) (past : List WorkflowEvent) :
    Begins step (invokeWebsocketWorkflowStep lib world describe inputs options configuration step
      outputs past).2 := by
  unfold invokeWebsocketWorkflowStep
  refine (Unmarked.ofExcept _).begins_bind (fun websocketPlan later => ?_)
  refine (pausing_storeStepPlan _ _).unmarked.begins_bind (fun _ later => ?_)
  refine (begins_retryLoop (fun retries => websocketAttempt_attempting step websocketPlan options
    retries) (fun _ _ _ h => websocketAttempt_retries h)).bind_unmarked (fun a => ?_)
  exact (pausing_finishWebsocketStep _ _ _ _).unmarked

/-- The attempts a step begins, whatever it ends with. -/
theorem invokeStep_begins (step : WorkflowStepTemplate) (outputs : StepOutputs)
    (past : List WorkflowEvent) :
    Begins step (invokeStep lib world describe plan options configuration step outputs past).2 := by
  unfold invokeStep
  split_ifs
  · exact (invokeWebsocketWorkflowStep_begins step outputs _ past).bind_unmarked (fun _ => .pure _)
  · exact invokeHttpStep_begins step outputs past

end

/-! ### The stages of a run -/

/-- A step has passed: one of its attempts ended with the exit zero. -/
def PassedIn (stepId : Str) (events : List WorkflowEvent) : Prop :=
  ∃ a ∈ finishedAttempts events, a.1.step = stepId ∧ a.2.exit = 0

theorem StepReport.passedIn {step : WorkflowStepTemplate} {events : List WorkflowEvent}
    {run : WorkflowStepRun} (h : StepReport step events run) (hexit : run.exit = 0) :
    PassedIn step.stepId events := by
  rcases h.last with ⟨a, hlast, _, ha⟩
  have hmem := List.mem_of_getLast? hlast
  exact ⟨a, hmem, (h.attempts a hmem).1, ha.symm.trans hexit⟩

/-- The events of one step of a run. -/
structure Stage where
  step : WorkflowStepTemplate
  events : List WorkflowEvent

/-- A run of steps, taken apart: some steps from the front, each with the attempts
    it begins, and all of them but the last one have passed. -/
structure Stages (stages : List Stage) (steps : List WorkflowStepTemplate)
    (events : List WorkflowEvent) : Prop where
  steps : stages.map Stage.step <+: steps
  events : events = stages.flatMap Stage.events
  begins : ∀ s ∈ stages, Begins s.step s.events
  passed : ∀ s ∈ stages.dropLast, PassedIn s.step.stepId s.events

theorem Stages.single {step : WorkflowStepTemplate} {rest : List WorkflowStepTemplate}
    {events : List WorkflowEvent} (h : Begins step events) :
    Stages [⟨step, events⟩] (step :: rest) events := by
  refine ⟨List.prefix_append [step] rest, (List.append_nil _).symm, fun s hs => ?_,
    fun s hs => absurd hs List.not_mem_nil⟩
  cases List.mem_singleton.mp hs
  exact h

theorem Stages.cons {stages : List Stage} {step : WorkflowStepTemplate}
    {rest : List WorkflowStepTemplate} {events added : List WorkflowEvent}
    (h : Stages stages rest events) (hbegins : Begins step added)
    (hpassed : PassedIn step.stepId added) :
    Stages (⟨step, added⟩ :: stages) (step :: rest) (added ++ events) := by
  refine ⟨List.cons_prefix_cons.mpr ⟨rfl, h.steps⟩, ?_, fun s hs => ?_, fun s hs => ?_⟩
  · rw [h.events]
    rfl
  · rcases List.mem_cons.mp hs with rfl | hs
    · exact hbegins
    · exact h.begins s hs
  · cases stages with
    | nil => exact absurd hs List.not_mem_nil
    | cons first others =>
        rw [List.dropLast_cons_cons] at hs
        rcases List.mem_cons.mp hs with rfl | hs
        · exact hpassed
        · exact h.passed s hs

/-- The stages of a run, whatever it ends with. -/
theorem invokeSteps_stages {one : WorkflowStepTemplate → StepOutputs → Run (WorkflowStepRun × Bool)}
    (hbegins : ∀ step outputs past, Begins step (one step outputs past).2)
    (hreport : ∀ step outputs past run ends, (one step outputs past).1 = .ok (run, ends) →
      StepReport step (one step outputs past).2 run)
    (steps : List WorkflowStepTemplate) (progress : Progress) (past : List WorkflowEvent) :
    ∃ stages, Stages stages steps (invokeSteps one steps progress past).2 := by
  -- By the steps: each makes the events of its stage.
  induction steps generalizing progress past with
  | nil => exact ⟨[], List.nil_prefix, rfl, fun s hs => absurd hs List.not_mem_nil,
      fun s hs => absurd hs List.not_mem_nil⟩
  | cons step rest ih =>
      rw [invokeSteps]
      have hbegun := hbegins step progress.outputs past
      cases hrun : (one step progress.outputs past).1 with
      | error e =>
          rw [Eff.bind_of_error hrun]
          exact ⟨_, .single hbegun⟩
      | ok pair =>
          rcases pair with ⟨run, ends⟩
          rw [Eff.bind_of_ok hrun]
          have hpassed := hreport step progress.outputs past run ends hrun
          generalize (one step progress.outputs past).2 = added at hbegun hpassed ⊢
          dsimp only
          -- A step that failed, or one that ends the workflow, is the last stage.
          by_cases hexit : run.exit ≠ 0
          · rw [if_pos hexit]
            refine ⟨_, Stages.single (hbegun.congr ?_)⟩
            exact congrArg begunAttempts (List.append_nil added)
          rw [if_neg hexit]
          by_cases hends : ends = true
          · rw [if_pos hends]
            refine ⟨_, Stages.single (hbegun.congr ?_)⟩
            exact congrArg begunAttempts (List.append_nil added)
          -- Any other is followed by the stages of the rest.
          · rw [if_neg hends]
            rcases ih ⟨progress.observations ++ [run.observation step.stepId],
              insert step.stepId run.outputs progress.outputs⟩ (past ++ added) with ⟨stages, hstages⟩
            exact ⟨_, hstages.cons hbegun (hpassed.passedIn (not_ne_iff.mp hexit))⟩

/-- The stages of a run of a workflow. -/
theorem invokeWorkflow_stages {lib : Crates} {world : WorkflowWorld} {describe : Value → Str}
    {plan : WorkflowPlan} {options : InvokeOptions} {configuration : ProjectConfiguration}
    (past : List WorkflowEvent) :
    ∃ stages, Stages stages plan.steps
      (invokeWorkflow lib world describe plan options configuration past).2 := by
  have hnone : ∃ stages, Stages stages plan.steps ([] : List WorkflowEvent) :=
    ⟨[], List.nil_prefix, rfl, fun s hs => absurd hs List.not_mem_nil,
      fun s hs => absurd hs List.not_mem_nil⟩
  unfold invokeWorkflow
  rw [Eff.ofExcept_bind]
  -- A run that is refused or denied has no stage.
  cases checkWorkflow lib plan options configuration with
  | error e => exact hnone
  | ok _ =>
      dsimp only
      cases missingGrant options.grants plan.requiredGrants with
      | some missing => exact hnone
      | none =>
          dsimp only
          rcases invokeSteps_stages (fun step outputs past => invokeStep_begins step outputs past)
            (fun _ _ _ _ _ => invokeStep_reported) plan.steps ⟨[], []⟩ past with ⟨stages, hstages⟩
          refine ⟨stages, ?_⟩
          -- After the steps no event is added.
          cases hrun : (invokeSteps (invokeStep lib world describe plan options configuration)
              plan.steps ⟨[], []⟩ past).1 with
          | error e =>
              rw [Eff.bind_of_error hrun]
              exact hstages
          | ok last =>
              rw [Eff.bind_of_ok hrun]
              dsimp only
              split_ifs
              · exact (List.append_nil _).symm ▸ hstages
              · exact (List.append_nil _).symm ▸ hstages

/-! ### Planned workflows -/

section

variable {lib : Crates} {plan : WorkflowPlan}

theorem mem_begunAttempts {events : List WorkflowEvent} {attempt : Attempt} :
    attempt ∈ begunAttempts events ↔ .started attempt ∈ events := by
  unfold begunAttempts
  rw [List.mem_filterMap]
  constructor
  · rintro ⟨e, he, hattempt⟩
    cases e with
    | started other =>
        cases hattempt
        exact he
    | _ => cases hattempt
  · exact fun h => ⟨_, h, rfl⟩

theorem PassedIn.mono {stepId : Str} {events more : List WorkflowEvent} (h : PassedIn stepId events)
    (hmore : ∀ e ∈ events, e ∈ more) : PassedIn stepId more := by
  rcases h with ⟨a, ha, hstep⟩
  rcases List.mem_filterMap.mp ha with ⟨e, he, hfinished⟩
  exact ⟨a, List.mem_filterMap.mpr ⟨e, hmore e he, hfinished⟩, hstep⟩

/-- What is known where an attempt starts: it is one of a stage, the stages before
    it have passed, and from there on no attempt is one of theirs. -/
def StartsInOrder (stages : List Stage) (past : List WorkflowEvent) (e : WorkflowEvent)
    (after : List WorkflowEvent) : Prop :=
  ∀ attempt, e = .started attempt → ∃ first stage last, stages = first ++ stage :: last ∧
    AttemptOf stage.step attempt ∧ Allowed stage.step attempt ∧
    (∀ s ∈ first, PassedIn s.step.stepId past) ∧
    ∀ a ∈ begunAttempts (e :: after), ∃ s ∈ stage :: last, AttemptOf s.step a

/-- Stages that begin after others have passed start in order. -/
theorem around_stages {stages : List Stage} {earlier : List Stage} {past : List WorkflowEvent}
    (hbegins : ∀ s ∈ stages, Begins s.step s.events)
    (hpassed : ∀ s ∈ stages.dropLast, PassedIn s.step.stepId s.events)
    (hearlier : ∀ s ∈ earlier, PassedIn s.step.stepId past) :
    Around (StartsInOrder (earlier ++ stages)) past (stages.flatMap Stage.events) := by
  induction stages generalizing earlier past with
  | nil => trivial
  | cons stage rest ih =>
      rw [List.flatMap_cons, around_append]
      constructor
      · rw [around_iff]
        rintro before e after hsplit attempt rfl
        have hlater : ∀ a ∈ begunAttempts (.started attempt :: (after ++ rest.flatMap Stage.events)),
            ∃ s ∈ stage :: rest, AttemptOf s.step a := by
          intro a ha
          rw [← List.cons_append, begunAttempts_append, List.mem_append] at ha
          rcases ha with ha | ha
          · refine ⟨stage, List.mem_cons_self, ?_⟩
            refine ((hbegins stage List.mem_cons_self).attempts a ?_).1
            rw [hsplit, begunAttempts_append]
            exact List.mem_append_right _ ha
          · rw [mem_begunAttempts, List.mem_flatMap] at ha
            rcases ha with ⟨s, hs, ha⟩
            have hmem := List.mem_cons_of_mem stage hs
            exact ⟨s, hmem, ((hbegins s hmem).attempts a (mem_begunAttempts.mpr ha)).1⟩
        have hattempt : attempt ∈ begunAttempts stage.events := by
          rw [mem_begunAttempts, hsplit]
          exact List.mem_append_right _ List.mem_cons_self
        have hbegun := (hbegins stage List.mem_cons_self).attempts attempt hattempt
        exact ⟨earlier, stage, rest, rfl, hbegun.1, hbegun.2,
          fun s hs => (hearlier s hs).mono (fun _ => List.mem_append_left _), hlater⟩
      · cases rest with
        | nil => trivial
        | cons next others =>
            -- There is a stage behind this one, so this one has passed.
            rw [List.dropLast_cons_cons] at hpassed
            have hstage := hpassed stage List.mem_cons_self
            rw [List.append_cons]
            refine ih (fun s hs => hbegins s (List.mem_cons_of_mem _ hs))
              (fun s hs => hpassed s (List.mem_cons_of_mem _ hs)) (fun s hs => ?_)
            rcases List.mem_append.mp hs with hs | hs
            · exact (hearlier s hs).mono (fun _ => List.mem_append_left _)
            · cases List.mem_singleton.mp hs
              exact hstage.mono (fun _ => List.mem_append_right _)

/-- The steps of the stages of a planned workflow. -/
theorem WorkflowPlan.WellPlanned.stage {stages first last : List Stage} {stage : Stage}
    (hplan : plan.WellPlanned lib) (hsteps : stages.map Stage.step <+: plan.steps)
    (hsplit : stages = first ++ stage :: last) :
    StepPlanned lib plan.requiredGrants plan.risk (first.map (fun s => s.step.stepId)).reverse
        stage.step ∧
      ∀ s ∈ first, ∀ t ∈ stage :: last, s.step.stepId ≠ t.step.stepId := by
  rcases hsteps with ⟨tail, htail⟩
  rw [hsplit, List.map_append, List.map_cons, List.append_assoc, List.cons_append] at htail
  have hsound := hplan.steps
  have hnodup := hplan.steps.nodup.1
  rw [← htail] at hsound hnodup
  constructor
  -- The step was planned after those before it.
  · have hstep := hsound.step_at
    rw [List.map_map, List.append_nil] at hstep
    exact hstep
  -- No two steps have one name.
  · intro s hs t ht heq
    rw [List.map_append, List.nodup_append] at hnodup
    refine hnodup.2.2 s.step.stepId ?_ t.step.stepId ?_ heq
    · exact List.mem_map_of_mem (List.mem_map_of_mem hs)
    · rw [← List.cons_append, ← List.map_cons, List.map_append]
      exact List.mem_append_left _ (List.mem_map_of_mem (List.mem_map_of_mem ht))

end

section

variable {lib : Crates} {plan : WorkflowPlan} {world : WorkflowWorld} {describe : Value → Str}
  {options : InvokeOptions} {configuration : ProjectConfiguration}

/-- Where an attempt is begun, every step its step depends on has passed, and
    none of them is begun again. -/
def InOrder (plan : WorkflowPlan) (events : List WorkflowEvent) : Prop :=
  ∀ before attempt after, events = before ++ .started attempt :: after →
    ∃ step ∈ plan.steps, AttemptOf step attempt ∧ ∀ d ∈ step.dependsOn, PassedIn d before ∧
      ∀ a ∈ begunAttempts (.started attempt :: after), a.step ≠ d

/-- In a run of a planned workflow a step is begun after the steps it depends on. -/
theorem dependencies_passed {reports : Value → Str} {planned : ProjectConfiguration}
    {files : LocalSources} {document input : Value} {workflowId : Str} {auth server : Option Str}
    {checks : List Str} {past : List WorkflowEvent}
    (hplan : buildWorkflowPlan lib reports planned files document workflowId input auth server
      checks = .ok plan) :
    InOrder plan (invokeWorkflow lib world describe plan options configuration past).2 := by
  intro before attempt after hrun
  have hwell := wellPlanned_of_build hplan
  -- The attempt belongs to one stage of the run.
  rcases @invokeWorkflow_stages lib world describe plan options configuration past with
    ⟨stages, hstages⟩
  have haround := @around_stages stages [] [] hstages.begins hstages.passed
    (fun s hs => absurd hs List.not_mem_nil)
  rw [← hstages.events, around_iff] at haround
  rcases haround before _ after hrun attempt rfl with
    ⟨first, stage, last, hsplit, hattempt, _, hpassed, hlater⟩
  -- Its dependencies are steps planned before it.
  rcases hwell.stage hstages.steps hsplit with ⟨hstep, happart⟩
  have hmem : stage.step ∈ plan.steps := by
    refine hstages.steps.subset (List.mem_map_of_mem ?_)
    rw [List.nil_append] at hsplit
    rw [hsplit]
    exact List.mem_append_right _ List.mem_cons_self
  -- Those stages have passed, and later ones are of other steps.
  refine ⟨stage.step, hmem, hattempt, fun d hd => ?_⟩
  have hd := hstep.dependsOn d hd
  rw [List.mem_reverse, List.mem_map] at hd
  rcases hd with ⟨s, hs, rfl⟩
  refine ⟨hpassed s hs, fun a ha heq => ?_⟩
  rcases hlater a ha with ⟨t, ht, hat⟩
  exact happart s hs t ht (heq.symm.trans hat.1)

/-- The options of a run that holds the grants of its plan. -/
def WorkflowPlan.heldOptions (plan : WorkflowPlan) : InvokeOptions :=
  { InvokeOptions.default with grants := plan.requiredGrants }

/-- The workflow that announces an item, run with the grants it lists. -/
theorem dependencies_announce : ∃ plan, announcePlan = .ok plan ∧
    InOrder plan (invokeWorkflow referenceCrates pagesWorld (fun _ => []) plan plan.heldOptions
      .default []).2 := by
  rcases announcePlan_ok with ⟨plan, hplan, _⟩
  exact ⟨plan, hplan, dependencies_passed hplan⟩

/-! ### The number of attempts -/

/-- A planned step begins at most eleven attempts. -/
theorem StepPlanned.attempts {grants earlier : List Str} {risk : RiskClass}
    {step : WorkflowStepTemplate} {events : List WorkflowEvent}
    (hstep : StepPlanned lib grants risk earlier step) (h : Begins step events) :
    (begunAttempts events).length ≤ 11 := by
  by_contra hmore
  rw [Nat.not_le] at hmore
  have hlast : (begunAttempts events).length - 1 ∈ (begunAttempts events).map Attempt.retries := by
    rw [h.numbers, List.mem_range]
    omega
  rcases List.mem_map.mp hlast with ⟨attempt, hattempt, hnumber⟩
  rcases (h.attempts attempt hattempt).2 with hzero | ⟨a, ha, hretry, hlimit⟩
  · omega
  · rcases hstep.onFailure a ha with hend | ⟨_, hten⟩
    · have hkinds : some "end".toList = some "retry".toList :=
        (of_decide_eq_true hend).symm.trans (of_decide_eq_true hretry)
      exact absurd hkinds (by decide)
    · omega

/-- Stages of different steps begin few attempts of each. -/
theorem length_stages {stages : List Stage} (hfew : ∀ s ∈ stages, (begunAttempts s.events).length ≤ 11)
    (hbegins : ∀ s ∈ stages, Begins s.step s.events)
    (hnodup : (stages.map (fun s => s.step.stepId)).Nodup) (stepId : Str) :
    ((begunAttempts (stages.flatMap Stage.events)).filter (fun a => decide (a.step = stepId))).length
        ≤ 11 ∧
      (begunAttempts (stages.flatMap Stage.events)).length ≤ 11 * stages.length ∧
      (stepId ∉ stages.map (fun s => s.step.stepId) →
        (begunAttempts (stages.flatMap Stage.events)).filter (fun a => decide (a.step = stepId)) =
          []) := by
  -- By the stages; each step has one.
  induction stages with
  | nil => exact ⟨Nat.zero_le _, Nat.zero_le _, fun _ => rfl⟩
  | cons stage rest ih =>
      rw [List.map_cons, List.nodup_cons] at hnodup
      rcases ih (fun s hs => hfew s (List.mem_cons_of_mem _ hs))
        (fun s hs => hbegins s (List.mem_cons_of_mem _ hs)) hnodup.2 with ⟨hone, hall, hnone⟩
      have hstage := hfew stage List.mem_cons_self
      -- The attempts of a stage are those of its step.
      have hown : ∀ a ∈ begunAttempts stage.events, a.step = stage.step.stepId :=
        fun a ha => ((hbegins stage List.mem_cons_self).attempts a ha).1.1
      rw [List.flatMap_cons, begunAttempts_append, List.filter_append, List.length_append,
        List.length_append, List.length_cons]
      have hother : stage.step.stepId ≠ stepId →
          (begunAttempts stage.events).filter (fun a => decide (a.step = stepId)) = [] := by
        intro hne
        refine List.filter_eq_nil_iff.mpr (fun a ha heq => hne ?_)
        rw [← hown a ha]
        exact of_decide_eq_true heq
      refine ⟨?_, by omega, fun hmem => ?_⟩
      · by_cases heq : stage.step.stepId = stepId
        · rw [hnone (heq ▸ hnodup.1), List.length_nil, Nat.add_zero]
          exact le_trans (List.length_filter_le _ _) hstage
        · rw [hother heq, List.length_nil, Nat.zero_add]
          exact hone
      · rw [List.map_cons, List.mem_cons, not_or] at hmem
        rw [hother (Ne.symm hmem.1), hnone hmem.2]
        rfl

/-- At most eleven attempts of a step are begun, and at most 1100 in all. -/
def FewAttempts (events : List WorkflowEvent) : Prop :=
  (∀ stepId, ((begunAttempts events).filter (fun a => decide (a.step = stepId))).length ≤ 11) ∧
    (begunAttempts events).length ≤ 1100

/-- A run of a planned workflow begins few attempts. -/
theorem attempts_bounded {reports : Value → Str} {planned : ProjectConfiguration}
    {files : LocalSources} {document input : Value} {workflowId : Str} {auth server : Option Str}
    {checks : List Str}
    (hplan : buildWorkflowPlan lib reports planned files document workflowId input auth server
      checks = .ok plan) (past : List WorkflowEvent) :
    FewAttempts (invokeWorkflow lib world describe plan options configuration past).2 := by
  have hwell := wellPlanned_of_build hplan
  rcases @invokeWorkflow_stages lib world describe plan options configuration past with
    ⟨stages, hstages⟩
  -- Each stage makes one attempt and at most ten retries.
  have hfew : ∀ s ∈ stages, (begunAttempts s.events).length ≤ 11 := by
    intro s hs
    rcases List.append_of_mem hs with ⟨first, last, hsplit⟩
    exact (hwell.stage hstages.steps hsplit).1.attempts (hstages.begins s hs)
  -- A step has one stage, and a plan at most a hundred steps.
  have hnodup : (stages.map (fun s => s.step.stepId)).Nodup := by
    have hsub := (hstages.steps.map WorkflowStepTemplate.stepId).sublist
    rw [List.map_map] at hsub
    exact hwell.steps.nodup.1.sublist hsub
  have hlength := hstages.steps.length_le
  rw [List.length_map] at hlength
  have hcount := fun stepId => length_stages hfew hstages.begins hnodup stepId
  unfold FewAttempts
  rw [hstages.events]
  refine ⟨fun stepId => (hcount stepId).1, le_trans (hcount []).2.1 ?_⟩
  have hsteps := hwell.length.2
  omega

theorem attempts_announce : ∃ plan, announcePlan = .ok plan ∧
    FewAttempts (invokeWorkflow referenceCrates pagesWorld (fun _ => []) plan plan.heldOptions
      .default []).2 := by
  rcases announcePlan_ok with ⟨plan, hplan, _⟩
  exact ⟨plan, hplan, attempts_bounded hplan []⟩

end

end Kahea
