import Kahea.Base.Lists
import Kahea.Exec.Secrecy
import Kahea.Workflow.Sealed

/-!
# Outputs of a Workflow

What the table of outputs in an observation has of what the steps produced.

The run keeps the outputs of a step under its id, where nothing is lost. The
observation joins the id and the name of an output with a dot. An id and a name
may have dots of their own, so two outputs can meet under one name, and then the
table has the last of them only. They meet exactly when the id of one step goes
on, after a dot, with what a name in the other step begins with.

## Main definitions

* `completedRuns`: The steps a run completes, with what they produced.
* `OutputsKept`: The table has every output.
* `OutputsOverlap`: Two outputs meet.

## Theorems

* `invokeSteps_completed`: What a run of the steps leaves.
* `flattenOutputs_kept_iff`: The table of a run is complete when no two of its
  names are the same.
* `outputs_kept_iff`: The outputs of passing runs are kept when none overlap.
* `outputs_lost`: Two outputs under one name.
-/

namespace Kahea

/-! ### What the steps produce -/

/-- The steps a run completes, with what each of them produced. -/
def completedRuns (one : WorkflowStepTemplate → StepOutputs → Run (WorkflowStepRun × Bool)) :
    List WorkflowStepTemplate → StepOutputs → List WorkflowEvent →
      List (WorkflowStepTemplate × WorkflowStepRun)
  | [], _, _ => []
  | step :: rest, outputs, past =>
      match one step outputs past with
      | (.error _, _) => []
      | (.ok (run, ends), added) =>
          if run.exit ≠ 0 then []
          else if ends then [(step, run)]
          else (step, run) ::
            completedRuns one rest (insert step.stepId run.outputs outputs) (past ++ added)

/-- The outputs of completed steps, with the ids of the steps. -/
def producedOutputs (runs : List (WorkflowStepTemplate × WorkflowStepRun)) :
    List ((Str × Str) × Value) :=
  runs.flatMap (fun r => r.2.outputs.map (fun output => ((r.1.stepId, output.1), output.2)))

/-- The outputs a plan declares. -/
def declaredOutputs (plan : WorkflowPlan) : List (Str × Str) :=
  plan.steps.flatMap (fun step => step.outputs.map (fun output => (step.stepId, output.1)))

/-- A table has one entry for every output of the completed steps, with its
    value. -/
structure HasOutputs (runs : List (WorkflowStepTemplate × WorkflowStepRun))
    (table : List (Str × Value)) : Prop where
  values : ∀ p ∈ producedOutputs runs, lookup (outputKey p.1.1 p.1.2) table = some p.2
  exact : table.length = (producedOutputs runs).length

/-- The outputs of a run are kept, and no two outputs of its plan share a name
    in the table. -/
structure OutputsKept (plan : WorkflowPlan)
    (runs : List (WorkflowStepTemplate × WorkflowStepRun)) (table : List (Str × Value)) : Prop where
  outputs : HasOutputs runs table
  apart : ∀ p ∈ declaredOutputs plan, ∀ q ∈ declaredOutputs plan,
    outputKey p.1 p.2 = outputKey q.1 q.2 → p = q

/-- The id of one step goes on, after a dot, with what the name of an output of
    another one begins with, and the rest of that name is the name of an output
    of the first one. -/
def OutputsOverlap (steps : List WorkflowStepTemplate) : Prop :=
  ∃ s ∈ steps, ∃ t ∈ steps, ∃ part name, t.stepId = outputKey s.stepId part ∧
    outputKey part name ∈ s.outputs.map Prod.fst ∧ name ∈ t.outputs.map Prod.fst

/-! ### A run of the steps -/

section

variable {one : WorkflowStepTemplate → StepOutputs → Run (WorkflowStepRun × Bool)}

/-- The completed steps come first in the plan. -/
theorem completedRuns_prefix (steps : List WorkflowStepTemplate) (outputs : StepOutputs)
    (past : List WorkflowEvent) : (completedRuns one steps outputs past).map Prod.fst <+: steps := by
  induction steps generalizing outputs past with
  | nil => exact List.prefix_refl _
  | cons step rest ih =>
      unfold completedRuns
      split
      · exact List.nil_prefix
      · split_ifs
        · exact List.nil_prefix
        · exact ⟨rest, rfl⟩
        · exact List.cons_prefix_cons.mpr ⟨rfl, ih _ _⟩

/-- A completed step has returned what is listed for it. -/
theorem completedRuns_run {steps : List WorkflowStepTemplate} {outputs : StepOutputs}
    {past : List WorkflowEvent} {r : WorkflowStepTemplate × WorkflowStepRun}
    (h : r ∈ completedRuns one steps outputs past) :
    ∃ before events ends, (one r.1 before events).1 = .ok (r.2, ends) := by
  induction steps generalizing outputs past with
  | nil => cases h
  | cons step rest ih =>
      unfold completedRuns at h
      split at h
      · cases h
      · rename_i run ends added hone
        split_ifs at h
        · cases h
        · rw [List.mem_singleton.mp h]
          exact ⟨outputs, past, ends, congrArg Prod.fst hone⟩
        · rcases List.mem_cons.mp h with rfl | h
          · exact ⟨outputs, past, ends, congrArg Prod.fst hone⟩
          · exact ih h

/-- A run of the steps without a failure leaves the observations and the
    outputs of the completed ones. -/
theorem invokeSteps_completed {steps : List WorkflowStepTemplate} {progress result : Progress}
    {past : List WorkflowEvent} (h : (invokeSteps one steps progress past).1 = .ok (result, 0)) :
    result.observations = progress.observations ++
        (completedRuns one steps progress.outputs past).map (fun r => r.2.observation r.1.stepId) ∧
      result.outputs = writeAll ((completedRuns one steps progress.outputs past).map
        (fun r => (r.1.stepId, r.2.outputs))) progress.outputs := by
  induction steps generalizing progress past with
  | nil =>
      cases h
      exact ⟨(List.append_nil _).symm, rfl⟩
  | cons step rest ih =>
      rw [invokeSteps] at h
      rcases Eff.bind_ok h with ⟨⟨run, ends⟩, hone, h⟩
      rw [completedRuns]
      rcases hboth : one step progress.outputs past with ⟨outcome, added⟩
      rw [hboth] at hone h
      cases hone
      dsimp only at h ⊢
      by_cases hexit : run.exit ≠ 0
      · -- A failure is reported with its exit.
        rw [if_pos hexit] at h
        exact absurd (congrArg Prod.snd (Except.ok.inj h)) hexit
      · rw [if_neg hexit] at h ⊢
        cases ends with
        | true =>
            cases h
            exact ⟨rfl, rfl⟩
        | false =>
            rcases ih h with ⟨hobservations, houtputs⟩
            refine ⟨?_, houtputs⟩
            rw [hobservations, List.append_assoc]
            rfl

end

/-! ### The table -/

/-- The flattened entries are the produced outputs in another order. -/
theorem flatten_perm {runs : List (WorkflowStepTemplate × WorkflowStepRun)}
    (hids : (runs.map (fun r => r.1.stepId)).Nodup) :
    ((writeAll (runs.map (fun r => (r.1.stepId, r.2.outputs))) []).flatMap (fun entry =>
        entry.2.map (fun output => (outputKey entry.1 output.1, output.2)))).Perm
      ((producedOutputs runs).map (fun p => (outputKey p.1.1 p.1.2, p.2))) := by
  have hkeys : ((runs.map (fun r => (r.1.stepId, r.2.outputs))).map Prod.fst).Nodup := by
    rw [List.map_map]
    exact hids
  have htable := writeAll_perm (m := []) hkeys (fun _ _ => List.not_mem_nil)
  rw [List.append_nil] at htable
  refine (htable.flatMap_right _).trans (List.Perm.of_eq ?_)
  unfold producedOutputs
  rw [List.flatMap_map, List.map_flatMap]
  refine congrArg (fun f => List.flatMap f runs) (funext (fun r => ?_))
  rw [List.map_map]
  rfl

/-- The table of a run is complete exactly when no two outputs of the completed
    steps share a name. -/
theorem flattenOutputs_kept_iff {runs : List (WorkflowStepTemplate × WorkflowStepRun)}
    (hids : (runs.map (fun r => r.1.stepId)).Nodup) :
    HasOutputs runs (flattenOutputs (writeAll (runs.map (fun r => (r.1.stepId, r.2.outputs))) [])) ↔
      ((producedOutputs runs).map (fun p => outputKey p.1.1 p.1.2)).Nodup := by
  have hperm := flatten_perm hids
  have hkeys := (hperm.map Prod.fst).nodup_iff
  rw [List.map_map] at hkeys
  constructor
  -- As many outputs as were produced means that no key was written twice.
  · intro h
    have hlength := h.exact
    rw [← List.length_map (fun p : (Str × Str) × Value => (outputKey p.1.1 p.1.2, p.2)),
      ← hperm.length_eq] at hlength
    exact hkeys.mp ((length_writeAll_iff _).mp hlength)
  · intro h
    -- With distinct keys every output is found.
    have hnodup := hkeys.mpr h
    have hwritten := writeAll_perm (m := []) hnodup (fun _ _ => List.not_mem_nil)
    rw [List.append_nil] at hwritten
    refine ⟨fun p hp => ?_, ?_⟩
    · rw [flattenOutputs, lookup_eq_some_iff_mem (ordered_writeAll List.Pairwise.nil).nodup,
        hwritten.mem_iff, hperm.mem_iff]
      exact List.mem_map_of_mem hp
    · rw [flattenOutputs, hwritten.length_eq, hperm.length_eq, List.length_map]

/-! ### What a step produces -/

/-- The outputs of a step are in order, and all of them are declared. -/
structure Declared (names : List Str) (outputs : List (Str × Value)) : Prop where
  ordered : Ordered outputs
  names : ∀ output ∈ outputs, output.1 ∈ names

theorem Declared.empty (names : List Str) : Declared names [] :=
  ⟨List.Pairwise.nil, fun _ h => absurd h List.not_mem_nil⟩

theorem Declared.insert {names : List Str} {outputs : List (Str × Value)} (h : Declared names outputs)
    {name : Str} (hname : name ∈ names) (value : Value) :
    Declared names (insert name value outputs) := by
  refine ⟨ordered_insert h.ordered name value, fun output houtput => ?_⟩
  rcases mem_of_mem_insert houtput with rfl | houtput
  · exact hname
  · exact h.names output houtput

theorem httpOutputs_declared {observation : Observation} {body : Option Value} {names : List Str}
    {declared outputs result : List (Str × Value)} (hstart : Declared names outputs)
    (hnames : ∀ entry ∈ declared, entry.1 ∈ names)
    (h : declared.foldlM (fun outputs entry => do
      let value ← evaluateOutput entry.2 observation body
      pure (insert entry.1 value outputs)) outputs = .ok result) : Declared names result := by
  induction declared generalizing outputs with
  | nil =>
      cases h
      exact hstart
  | cons entry rest ih =>
      rw [List.foldlM_cons] at h
      rcases except_bind_ok.mp h with ⟨next, hnext, h⟩
      rcases except_bind_ok.mp hnext with ⟨value, _, hnext⟩
      cases hnext
      exact ih (hstart.insert (hnames entry List.mem_cons_self) value)
        (fun e he => hnames e (List.mem_cons_of_mem entry he)) h

section

variable {lib : Crates} {world : WorkflowWorld} {describe : Value → Str} {plan : WorkflowPlan}
  {options : InvokeOptions} {configuration : ProjectConfiguration} {step : WorkflowStepTemplate}
  {past : List WorkflowEvent}

theorem websocketOutputs_declared {observation : WebSocketObservation} {names : List Str}
    {declared outputs result : List (Str × Value)} (hstart : Declared names outputs)
    (hnames : ∀ entry ∈ declared, entry.1 ∈ names)
    (h : (websocketOutputs lib world observation declared outputs past).1 = .ok result) :
    Declared names result := by
  induction declared generalizing outputs past with
  | nil =>
      cases h
      exact hstart
  | cons entry rest ih =>
      rw [websocketOutputs] at h
      rcases Eff.bind_ok h with ⟨value, _, h⟩
      exact ih (hstart.insert (hnames entry List.mem_cons_self) value)
        (fun e he => hnames e (List.mem_cons_of_mem entry he)) h

theorem finishHttpStep_declared {requestPlan : RequestPlan} {attempts : List Value}
    {result : InvocationResult} {run : WorkflowStepRun} {ends : Bool}
    (h : (finishHttpStep lib world step requestPlan attempts result past).1 = .ok (run, ends)) :
    Declared (step.outputs.map Prod.fst) run.outputs := by
  unfold finishHttpStep at h
  by_cases hexit : result.exit ≠ 0
  · rw [if_pos hexit] at h
    cases h
    exact .empty _
  · rw [if_neg hexit] at h
    cases result with
    | denied denial => cases h
    | observation observation =>
        rcases Eff.bind_ok h with ⟨body, _, h⟩
        rcases Eff.bind_ok h with ⟨outputs, houtputs, h⟩
        rcases Eff.bind_ok h with ⟨action, _, h⟩
        cases h
        exact httpOutputs_declared (.empty _) (fun e he => List.mem_map_of_mem he) houtputs

theorem finishWebsocketStep_declared {websocketPlan : WebSocketPlan} {attempts : List Value}
    {result : WebSocketConnectResult} {run : WorkflowStepRun}
    (h : (finishWebsocketStep lib world step websocketPlan attempts result past).1 = .ok run) :
    Declared (step.outputs.map Prod.fst) run.outputs := by
  cases result with
  | connected connection => cases h
  | denied denial =>
      cases h
      exact .empty _
  | observation observation =>
      rcases Eff.bind_ok h with ⟨outputs, houtputs, h⟩
      cases h
      unfold sessionOutputs at houtputs
      split_ifs at houtputs with hexit
      · exact websocketOutputs_declared (.empty _) (fun e he => List.mem_map_of_mem he) houtputs
      · cases houtputs
        exact .empty _

/-- A step of either transport produces what it declares. -/
theorem invokeStep_declared {outputs : StepOutputs} {run : WorkflowStepRun} {ends : Bool}
    (h : (invokeStep lib world describe plan options configuration step outputs past).1 =
      .ok (run, ends)) : Declared (step.outputs.map Prod.fst) run.outputs := by
  unfold invokeStep at h
  split_ifs at h with htransport
  · rcases Eff.bind_ok h with ⟨_, hrun, h⟩
    cases h
    rcases Eff.bind_ok hrun with ⟨websocketPlan, _, hrun⟩
    rcases Eff.bind_ok hrun with ⟨_, _, hrun⟩
    rcases Eff.bind_ok hrun with ⟨⟨attempts, result⟩, _, hrun⟩
    exact finishWebsocketStep_declared hrun
  · rcases Eff.bind_ok h with ⟨requestPlan, _, h⟩
    rcases Eff.bind_ok h with ⟨since, _, h⟩
    rcases Eff.bind_ok h with ⟨timeout, _, h⟩
    rcases Eff.bind_ok h with ⟨⟨attempts, result⟩, _, h⟩
    exact finishHttpStep_declared h

end

/-! ### Outputs that meet -/

theorem mem_declaredOutputs {plan : WorkflowPlan} {p : Str × Str} :
    p ∈ declaredOutputs plan ↔
      ∃ step ∈ plan.steps, step.stepId = p.1 ∧ p.2 ∈ step.outputs.map Prod.fst := by
  unfold declaredOutputs
  rw [List.mem_flatMap]
  refine exists_congr (fun step => and_congr_right (fun _ => ?_))
  rw [List.mem_map]
  constructor
  · rintro ⟨output, houtput, rfl⟩
    exact ⟨rfl, List.mem_map_of_mem houtput⟩
  · rintro ⟨hid, hname⟩
    rcases List.mem_map.mp hname with ⟨output, houtput, hname⟩
    exact ⟨output, houtput, Prod.ext hid hname⟩

/-- Two outputs share a name exactly when they overlap. -/
theorem apart_iff (plan : WorkflowPlan) :
    (∀ p ∈ declaredOutputs plan, ∀ q ∈ declaredOutputs plan,
      outputKey p.1 p.2 = outputKey q.1 q.2 → p = q) ↔ ¬ OutputsOverlap plan.steps := by
  constructor
  -- An overlap gives two outputs with one key.
  · rintro hapart ⟨s, hs, t, ht, part, name, hid, hlong, hname⟩
    have hp : (s.stepId, outputKey part name) ∈ declaredOutputs plan :=
      mem_declaredOutputs.mpr ⟨s, hs, rfl, hlong⟩
    have hq : (t.stepId, name) ∈ declaredOutputs plan := mem_declaredOutputs.mpr ⟨t, ht, rfl, hname⟩
    have hkey : outputKey s.stepId (outputKey part name) = outputKey t.stepId name :=
      (join_eq_iff _ _ _ _ _).mpr (Or.inr (Or.inl ⟨part, hid, rfl⟩))
    have hlength := congrArg List.length (congrArg Prod.snd (hapart _ hp _ hq hkey))
    simp only [outputKey, List.length_append, List.length_cons] at hlength
    omega
  · intro hnone p hp q hq hkey
    rcases mem_declaredOutputs.mp hp with ⟨s, hs, hsid, hsname⟩
    rcases mem_declaredOutputs.mp hq with ⟨t, ht, htid, htname⟩
    -- And two outputs with one key overlap, in one of the two ways round.
    rcases (join_eq_iff _ _ _ _ _).mp hkey with ⟨hid, hname⟩ | ⟨x, hid, hname⟩ | ⟨x, hid, hname⟩
    · exact Prod.ext hid hname
    · refine absurd ⟨s, hs, t, ht, x, q.2, ?_, ?_, htname⟩ hnone
      · rw [htid, hsid]
        exact hid
      · rw [outputKey, ← hname]
        exact hsname
    · refine absurd ⟨t, ht, s, hs, x, p.2, ?_, ?_, hsname⟩ hnone
      · rw [htid, hsid]
        exact hid
      · rw [outputKey, ← hname]
        exact htname

/-! ### Passing runs -/

section

variable {lib : Crates} {world : WorkflowWorld} {describe : Value → Str} {plan : WorkflowPlan}
  {options : InvokeOptions} {configuration : ProjectConfiguration} {past : List WorkflowEvent}
  {observation : WorkflowObservation}

/-- The observation of a passing run lists the completed steps and has their
    outputs. -/
theorem invokeWorkflow_passed
    (h : (invokeWorkflow lib world describe plan options configuration past).1 = .ok observation)
    (hpass : observation.outcome = .passed) :
    ∃ runs, runs = completedRuns (invokeStep lib world describe plan options configuration)
        plan.steps [] past ∧
      observation.steps = runs.map (fun r => r.2.observation r.1.stepId) ∧
      observation.outputs = flattenOutputs (writeAll
        (runs.map (fun r => (r.1.stepId, r.2.outputs))) []) := by
  unfold invokeWorkflow at h
  rcases Eff.ofExcept_bind_ok h with ⟨_, _, h⟩
  -- A denied run has not passed.
  cases hgrants : missingGrant options.grants plan.requiredGrants with
  | some missing =>
      rw [hgrants] at h
      cases h
      cases hpass
  | none =>
      rw [hgrants] at h
      rcases Eff.bind_ok h with ⟨⟨progress, exit⟩, hsteps, h⟩
      dsimp only at h
      -- Nor has one whose last exit is not zero.
      by_cases hexit : exit ≠ 0
      · rw [if_pos hexit] at h
        cases h
        unfold failedWorkflowObservation at hpass
        dsimp only at hpass
        split_ifs at hpass
      · rw [if_neg hexit] at h
        rw [not_ne_iff.mp hexit] at hsteps
        cases h
        -- So every step was completed, and the outputs are written in their order.
        rcases invokeSteps_completed hsteps with ⟨hobservations, houtputs⟩
        refine ⟨_, rfl, hobservations, ?_⟩
        rw [passedWorkflowObservation, houtputs]

/-- The outputs of a plan that declares every name of a step once and has
    distinct ids are distinct pairs. -/
theorem producedOutputs_nodup {runs : List (WorkflowStepTemplate × WorkflowStepRun)}
    (hids : (runs.map (fun r => r.1.stepId)).Nodup)
    (hordered : ∀ r ∈ runs, Ordered r.2.outputs) : ((producedOutputs runs).map Prod.fst).Nodup := by
  induction runs with
  | nil => exact List.nodup_nil
  | cons r rest ih =>
      rw [List.map_cons, List.nodup_cons] at hids
      have hfirst : ((r.2.outputs.map (fun output => ((r.1.stepId, output.1), output.2))).map
          Prod.fst).Nodup := by
        have hnames := (hordered r List.mem_cons_self).nodup
        rw [List.map_map]
        refine List.Nodup.of_map Prod.snd ?_
        rw [List.map_map]
        exact hnames
      change ((_ ++ producedOutputs rest).map Prod.fst).Nodup
      rw [List.map_append, List.nodup_append]
      refine ⟨hfirst, ih hids.2 (fun s hs => hordered s (List.mem_cons_of_mem r hs)), ?_⟩
      -- A pair of a later step has another id.
      intro p hp q hq heq
      subst heq
      rcases List.mem_map.mp hp with ⟨a, ha, rfl⟩
      rcases List.mem_map.mp ha with ⟨output, _, rfl⟩
      rcases List.mem_map.mp hq with ⟨b, hb, hsame⟩
      rcases List.mem_flatMap.mp hb with ⟨s, hs, hb⟩
      rcases List.mem_map.mp hb with ⟨other, _, rfl⟩
      have hid : s.1.stepId = r.1.stepId := congrArg (fun p => p.1) hsame
      refine hids.1 ?_
      rw [← hid]
      exact List.mem_map_of_mem (f := fun r => r.1.stepId) hs

/-- The outputs of a passing run of a plan with distinct step ids are kept
    exactly when no two outputs of the plan overlap. -/
theorem outputs_kept_iff (hids : (plan.steps.map WorkflowStepTemplate.stepId).Nodup)
    (h : (invokeWorkflow lib world describe plan options configuration past).1 = .ok observation)
    (hpass : observation.outcome = .passed) :
    OutputsKept plan (completedRuns (invokeStep lib world describe plan options configuration)
        plan.steps [] past) observation.outputs ↔ ¬ OutputsOverlap plan.steps := by
  refine ⟨fun hkept => (apart_iff plan).mp hkept.apart, fun hnone => ?_⟩
  have hapart := (apart_iff plan).mpr hnone
  refine ⟨?_, hapart⟩
  -- The runs are those of the first steps, whose names are distinct.
  rcases invokeWorkflow_passed h hpass with ⟨runs, hruns, _, houtputs⟩
  rw [← hruns, houtputs]
  have hfront : (completedRuns (invokeStep lib world describe plan options configuration) plan.steps
      [] past).map Prod.fst <+: plan.steps := completedRuns_prefix _ _ _
  rw [← hruns] at hfront
  have hrunIds : (runs.map (fun r => r.1.stepId)).Nodup := by
    have hsub := (hfront.map WorkflowStepTemplate.stepId).sublist
    rw [List.map_map] at hsub
    exact hids.sublist hsub
  -- Each writes outputs its step declares.
  have hdeclared : ∀ r ∈ runs, Declared (r.1.outputs.map Prod.fst) r.2.outputs := by
    intro r hr
    rw [hruns] at hr
    rcases completedRuns_run hr with ⟨before, events, ends, hrun⟩
    exact invokeStep_declared hrun
  have hpairs := producedOutputs_nodup hrunIds (fun r hr => (hdeclared r hr).ordered)
  have hmem : ∀ p ∈ (producedOutputs runs).map Prod.fst, p ∈ declaredOutputs plan := by
    intro p hp
    rcases List.mem_map.mp hp with ⟨a, ha, rfl⟩
    rcases List.mem_flatMap.mp ha with ⟨r, hr, ha⟩
    rcases List.mem_map.mp ha with ⟨output, houtput, rfl⟩
    exact mem_declaredOutputs.mpr ⟨r.1, hfront.subset (List.mem_map_of_mem hr), rfl,
      (hdeclared r hr).names output houtput⟩
  rw [flattenOutputs_kept_iff hrunIds]
  -- Written under different keys, none replaces another.
  have hkeys : ((((producedOutputs runs).map Prod.fst)).map (fun p => outputKey p.1 p.2)).Nodup :=
    hpairs.map_on (fun p hp q hq heq => hapart p (hmem p hp) q (hmem q hq) heq)
  rw [List.map_map] at hkeys
  exact hkeys

end

/-- Ids without dots never overlap. -/
theorem not_overlap_of_ids {steps : List WorkflowStepTemplate}
    (h : ∀ step ∈ steps, '.' ∉ step.stepId) : ¬ OutputsOverlap steps := by
  rintro ⟨s, _, t, ht, part, _, hid, _, _⟩
  refine h t ht ?_
  rw [hid, outputKey]
  exact List.mem_append_right _ List.mem_cons_self

/-! ### Two workflows -/

theorem completedRuns_congr
    {one two : WorkflowStepTemplate → StepOutputs → Run (WorkflowStepRun × Bool)}
    {steps : List WorkflowStepTemplate} (h : ∀ step ∈ steps, one step = two step)
    (outputs : StepOutputs) (past : List WorkflowEvent) :
    completedRuns one steps outputs past = completedRuns two steps outputs past := by
  induction steps generalizing outputs past with
  | nil => rfl
  | cons step rest ih =>
      have hrest := ih (fun s hs => h s (List.mem_cons_of_mem step hs))
      rw [completedRuns, completedRuns, h step List.mem_cons_self]
      simp only [hrest]

/-- A document with one page. -/
def pageDocument : Value :=
  jsonObject [("openapi", .string "3.1.0"),
    ("paths", jsonObject [("/", jsonObject [("get", jsonObject [("operationId", .string "page")])])]),
    ("servers", .array [jsonObject [("url", .string "https://example.com")]])]

/-- A step that requests the page, with one output. -/
def pageStep (id name : Str) (value : Nat) : WorkflowStepTemplate :=
  { stepId := id
    sourceName := "pages"
    sourceDocument := pageDocument
    sourceFingerprint := "b3:pages"
    operation := "page"
    parameters := []
    requestBody := none
    outputs := [(name, jsonNat value)]
    deferredBindings := []
    dependsOn := []
    successCriteria := []
    onSuccess := []
    onFailure := []
    timeoutMs := none
    transport := .http
    websocketPlan := none
    websocketBindings := [] }

/-- The grants of a request for the page. -/
def pageGrants : List Str := ["http:GET".toList, "net:example.com:443"]

/-- A sealed workflow of such steps. -/
def pagesWorkflow (steps : List WorkflowStepTemplate) : WorkflowPlan :=
  ({ protocol := PROTOCOL
     kind := "workflow-plan"
     version := VERSION
     configFingerprint := "b3:configuration"
     policyFingerprint := "b3:policy"
     sourceFingerprints := []
     id := []
     workflow := "pages"
     input := .null
     steps := steps
     risk := .read
     requiredGrants := pageGrants
     auth := none
     server := none
     checks := ["status:200".toList]
     websocketPolicyFingerprint := none
     fingerprint := []
     exit := 0 } : WorkflowPlan).sealed referenceCrates

def pagesOptions : InvokeOptions := { InvokeOptions.default with grants := pageGrants }

/-- An outside that answers every request. -/
def pagesWorld : WorkflowWorld :=
  { executor := fun _ => referenceWorld.responding
      { status := 200, version := .http11, headers := [], body := .ok (utf8 "\x7b\x7d") }
    earlier := []
    evidence := fun _ _ => .ok ()
    storePlan := fun _ => .ok ()
    clock := fun _ => 0 }

/-- The run of a workflow of such steps. -/
def pagesRun (steps : List WorkflowStepTemplate) : Run WorkflowObservation :=
  invokeWorkflow referenceCrates pagesWorld (fun _ => []) (pagesWorkflow steps) pagesOptions .default

/-- What its steps produce. -/
def pagesCompleted (steps : List WorkflowStepTemplate) :
    List (WorkflowStepTemplate × WorkflowStepRun) :=
  completedRuns (invokeStep referenceCrates pagesWorld (fun _ => []) (pagesWorkflow steps)
    pagesOptions .default) (pagesWorkflow steps).steps [] []

/-- A run whose steps pass. -/
theorem pagesRun_passed {steps : List WorkflowStepTemplate} {table : List (Str × Value)}
    (hsteps : ∀ step ∈ steps, step.transport = .http)
    (h : (invokeSteps (sealedHttpStep referenceCrates pagesWorld (pagesWorkflow steps) pagesOptions
      .default) steps ⟨[], []⟩ []).1.toOption.map (fun r => (flattenOutputs r.1.outputs, r.2)) =
        some (table, 0)) :
    ∃ o, (pagesRun steps []).1 = .ok o ∧ o.outcome = .passed ∧ o.outputs = table := by
  rcases exists_ok_of_toOption h with ⟨⟨progress, exit⟩, hok, hresult⟩
  rw [Prod.mk.injEq] at hresult
  rcases hresult with ⟨rfl, rfl⟩
  have hseal : (pagesWorkflow steps).verifySeal referenceCrates = true :=
    WorkflowPlan.verifySeal_sealed _ _
  have hrun : (pagesRun steps []).1 = _ :=
    (invokeWorkflow_sealed hseal hsteps rfl rfl rfl (fun _ hg => hg) []).1
  have hsame : (pagesWorkflow steps).steps = steps := rfl
  refine ⟨passedWorkflowObservation (pagesWorkflow steps) progress.observations progress.outputs,
    ?_, rfl, rfl⟩
  rw [hrun, hsame, hok]
  rfl

/-- What its steps produce, without the tests of their seals. -/
theorem pagesCompleted_eq {steps : List WorkflowStepTemplate}
    (hsteps : ∀ step ∈ steps, step.transport = .http) :
    pagesCompleted steps = completedRuns (sealedHttpStep referenceCrates pagesWorld
      (pagesWorkflow steps) pagesOptions .default) steps [] [] :=
  completedRuns_congr (fun step hstep => invokeStep_sealed (hsteps step hstep)) _ _

/-- Two steps without dots. -/
def plainSteps : List WorkflowStepTemplate := [pageStep "a" "b" 1, pageStep "c" "d" 2]

/-- Such steps keep their outputs. -/
theorem outputs_kept_pages :
    ∃ o, (pagesRun plainSteps []).1 = .ok o ∧
      OutputsKept (pagesWorkflow plainSteps) (pagesCompleted plainSteps) o.outputs := by
  have hpassed : ∃ o, (pagesRun plainSteps []).1 = .ok o ∧ o.outcome = .passed ∧
      o.outputs = [("a.b".toList, jsonNat 1), ("c.d", jsonNat 2)] :=
    pagesRun_passed (by decide) (by decide +kernel)
  rcases hpassed with ⟨o, hrun, hpass, _⟩
  exact ⟨o, hrun, (outputs_kept_iff (by decide) hrun hpass).mpr (not_overlap_of_ids (by decide))⟩

/-- The output `b.c` of the step `a` and the output `c` of the step `a.b`. -/
def dottedSteps : List WorkflowStepTemplate := [pageStep "a" "b.c" 1, pageStep "a.b" "c" 2]

/-- Both steps pass, and only the output of the later one is in the table. -/
theorem outputs_lost :
    ∃ o, (pagesRun dottedSteps []).1 = .ok o ∧ o.outcome = .passed ∧
      ((pagesWorkflow dottedSteps).steps.map WorkflowStepTemplate.stepId).Nodup ∧
      o.outputs = [("a.b.c".toList, jsonNat 2)] ∧
      producedOutputs (pagesCompleted dottedSteps) =
        [(("a".toList, "b.c".toList), jsonNat 1), (("a.b".toList, "c".toList), jsonNat 2)] ∧
      ¬ OutputsKept (pagesWorkflow dottedSteps) (pagesCompleted dottedSteps) o.outputs := by
  have hpassed : ∃ o, (pagesRun dottedSteps []).1 = .ok o ∧ o.outcome = .passed ∧
      o.outputs = [("a.b.c".toList, jsonNat 2)] :=
    pagesRun_passed (by decide) (by decide +kernel)
  rcases hpassed with ⟨o, hrun, hpass, htable⟩
  have hproduced : producedOutputs (pagesCompleted dottedSteps) =
      [(("a".toList, "b.c".toList), jsonNat 1), (("a.b".toList, "c".toList), jsonNat 2)] := by
    rw [pagesCompleted_eq (by decide)]
    decide +kernel
  refine ⟨o, hrun, hpass, by decide, htable, hproduced, fun hkept => ?_⟩
  have hlength := hkept.outputs.exact
  rw [htable, hproduced] at hlength
  exact absurd hlength (by decide)

end Kahea
