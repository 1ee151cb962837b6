import Kahea.Exec.Canonical
import Kahea.Plan.Production
import Kahea.Workflow.Planning

/-!
# Planned Workflows

What every plan of the workflow planner is.

The planner is a loop over the steps of the document, and what it makes sure of
in a step speaks of the steps before it. So the steps are judged along their
list (`PlannedAfter`): each has a new name and depends on names before it, and
each is complete for its transport. The grants and the risk of the plan grow
with every step, and what was said of a step stays true under more of both.

## Main definitions

* `RequestStepPlanned`, `SessionStepPlanned`: What is made sure of for a
  transport.
* `StepPlanned`, `PlannedAfter`: A step, and a list of steps.
* `WorkflowPlan.WellPlanned`: What is made sure of in a plan.

## Theorems

* `planStep_ok`: What one step adds.
* `buildWorkflowPlan_wellPlanned`: Every plan of the planner.
* `wellPlanned_announce`: A plan with a request step and a session step.
-/

namespace Kahea

/-! ### Well-planned steps -/

/-- A request step carries nothing of a session, and its criteria are checks. -/
structure RequestStepPlanned (lib : Crates) (step : WorkflowStepTemplate) : Prop where
  websocketPlan : step.websocketPlan = none
  websocketBindings : step.websocketBindings = []
  criteria : ∀ c ∈ step.successCriteria, ∃ check, criterionToCheck lib c = .ok check

/-- The bindings of a session select different parts of its actions, all of
    which are there. -/
structure BindingsPlanned (source : Value) (bindings : List WorkflowWebSocketBinding) : Prop where
  nodup : (bindings.map WorkflowWebSocketBinding.pointer).Nodup
  selected : ∀ b ∈ bindings, validateWebsocketBindingPointer b.pointer = .ok () ∧
    (source.pointer b.pointer).isSome = true

/-- A session step carries a sealed child plan whose grants and risk are those
    of the plan, and nothing of a request. -/
structure SessionStepPlanned (lib : Crates) (grants : List Str) (risk : RiskClass)
    (step : WorkflowStepTemplate) : Prop where
  child : ∃ child, step.websocketPlan = some child ∧ child.verifySeal lib = true ∧
    (∀ g ∈ child.requiredGrants, g ∈ grants) ∧ child.risk.rank ≤ risk.rank
  parameters : step.parameters = []
  requestBody : step.requestBody = none
  criteria : step.successCriteria = []
  bindings : step.websocketBindings.length ≤ 64 ∧
    BindingsPlanned step.sourceDocument step.websocketBindings
  outputs : ∀ o ∈ step.outputs, validateWebsocketOutputExpression o.2 = .ok ()
  actions : ∀ a ∈ step.onSuccess ++ step.onFailure, actionCriteria a = []

/-- A step after the steps of some names: its own name is new, and it depends on
    names before it. Its actions are of the known types, with few retries. -/
structure StepPlanned (lib : Crates) (grants : List Str) (risk : RiskClass) (earlier : List Str)
    (step : WorkflowStepTemplate) : Prop where
  fresh : step.stepId ∉ earlier
  dependsOn : ∀ d ∈ step.dependsOn, d ∈ earlier
  onSuccess : ∀ a ∈ step.onSuccess, isEnd a = true
  onFailure : ∀ a ∈ step.onFailure, isEnd a = true ∨ isRetry a = true ∧ retryLimit a ≤ 10
  request : step.transport = .http → RequestStepPlanned lib step
  session : step.transport = .webSocket → SessionStepPlanned lib grants risk step

/-- The steps of a plan after the steps of some names. -/
def PlannedAfter (lib : Crates) (grants : List Str) (risk : RiskClass) :
    List Str → List WorkflowStepTemplate → Prop
  | _, [] => True
  | earlier, step :: rest => StepPlanned lib grants risk earlier step ∧
      PlannedAfter lib grants risk (step.stepId :: earlier) rest

section

variable {lib : Crates} {grants more : List Str} {risk greater : RiskClass} {earlier : List Str}
  {step : WorkflowStepTemplate} {steps : List WorkflowStepTemplate}

/-- More grants and a greater risk keep what is planned. -/
theorem StepPlanned.mono (h : StepPlanned lib grants risk earlier step)
    (hgrants : ∀ g ∈ grants, g ∈ more) (hrisk : risk.rank ≤ greater.rank) :
    StepPlanned lib more greater earlier step :=
  { h with
    session := fun htransport => by
      have hsession := h.session htransport
      rcases hsession.child with ⟨child, hchild, hseal, hrequired, hrank⟩
      exact { hsession with
        child := ⟨child, hchild, hseal, fun g hg => hgrants g (hrequired g hg), hrank.trans hrisk⟩ } }

theorem PlannedAfter.mono (h : PlannedAfter lib grants risk earlier steps)
    (hgrants : ∀ g ∈ grants, g ∈ more) (hrisk : risk.rank ≤ greater.rank) :
    PlannedAfter lib more greater earlier steps := by
  induction steps generalizing earlier with
  | nil => trivial
  | cons step rest ih => exact ⟨h.1.mono hgrants hrisk, ih h.2⟩

/-- One more step. -/
theorem PlannedAfter.append (h : PlannedAfter lib grants risk earlier steps)
    (hstep : StepPlanned lib grants risk ((steps.map WorkflowStepTemplate.stepId).reverse ++ earlier)
      step) : PlannedAfter lib grants risk earlier (steps ++ [step]) := by
  induction steps generalizing earlier with
  | nil => exact ⟨hstep, trivial⟩
  | cons first rest ih =>
      refine ⟨h.1, ih h.2 ?_⟩
      rw [List.map_cons, List.reverse_cons, List.append_assoc] at hstep
      exact hstep

/-- The names of planned steps are different. -/
theorem PlannedAfter.nodup (h : PlannedAfter lib grants risk earlier steps) :
    (steps.map WorkflowStepTemplate.stepId).Nodup ∧
      ∀ step ∈ steps, step.stepId ∉ earlier := by
  induction steps generalizing earlier with
  | nil => exact ⟨List.nodup_nil, fun _ h => absurd h List.not_mem_nil⟩
  | cons first rest ih =>
      rcases ih h.2 with ⟨hnodup, hfresh⟩
      refine ⟨List.nodup_cons.mpr ⟨fun hmem => ?_, hnodup⟩, fun step hstep => ?_⟩
      · rcases List.mem_map.mp hmem with ⟨step, hstep, hname⟩
        exact hfresh step hstep (by rw [hname]; exact List.mem_cons_self)
      · rcases List.mem_cons.mp hstep with rfl | hstep
        · exact h.1.fresh
        · exact fun hmem => hfresh step hstep (List.mem_cons_of_mem _ hmem)

/-- A step of a list, with the steps before it. -/
theorem PlannedAfter.step_at {before after : List WorkflowStepTemplate}
    (h : PlannedAfter lib grants risk earlier (before ++ step :: after)) :
    StepPlanned lib grants risk ((before.map WorkflowStepTemplate.stepId).reverse ++ earlier) step := by
  induction before generalizing earlier with
  | nil => exact h.1
  | cons first rest ih =>
      rw [List.map_cons, List.reverse_cons, List.append_assoc]
      exact ih h.2

end

/-- What the planner makes sure of in a plan. -/
structure WorkflowPlan.WellPlanned (lib : Crates) (plan : WorkflowPlan) : Prop where
  sealed : plan.verifySeal lib = true
  length : 1 ≤ plan.steps.length ∧ plan.steps.length ≤ 100
  steps : PlannedAfter lib plan.requiredGrants plan.risk [] plan.steps
  sorted : plan.requiredGrants.SortedLT
  policy : plan.websocketPolicyFingerprint.isSome = true ↔
    ∃ step ∈ plan.steps, step.transport = .webSocket

/-! ### The parts of a step -/

section

variable {lib : Crates} {stepId : Str} {step source : Value}

/-- What is put before a list of bindings keeps them apart. -/
theorem websocketBindingsFrom_ok {pointers : List Str} {values : List Value}
    {bindings : List WorkflowWebSocketBinding}
    (h : websocketBindingsFrom source pointers values = .ok bindings) :
    BindingsPlanned source bindings ∧ bindings.length = values.length ∧
      ∀ b ∈ bindings, b.pointer ∉ pointers := by
  -- By the bindings; each pointer is new.
  induction values generalizing pointers bindings with
  | nil =>
      cases h
      exact ⟨⟨List.nodup_nil, fun _ h => absurd h List.not_mem_nil⟩, rfl,
        fun _ h => absurd h List.not_mem_nil⟩
  | cons binding rest ih =>
      simp only [websocketBindingsFrom, except_bind_ok, except_pure_ok, okOr_ok, ensure_ok,
        exists_const, Bool.not_eq_true', List.contains_eq_mem, decide_eq_false_iff_not] at h
      rcases h with ⟨pointer, _, _, hvalid, hselected, hfresh, value, _, tail, htail, rfl⟩
      rcases ih htail with ⟨hplanned, hlength, hapart⟩
      refine ⟨⟨List.nodup_cons.mpr ⟨fun hmem => ?_, hplanned.nodup⟩, fun b hb => ?_⟩, ?_,
        fun b hb => ?_⟩
      · rcases List.mem_map.mp hmem with ⟨b, hb, hsame⟩
        exact hapart b hb (by rw [hsame]; exact List.mem_cons_self)
      · rcases List.mem_cons.mp hb with rfl | hb
        · exact ⟨hvalid, hselected⟩
        · exact hplanned.selected b hb
      · rw [List.length_cons, List.length_cons, hlength]
      · rcases List.mem_cons.mp hb with rfl | hb
        · exact hfresh
        · exact fun hmem => hapart b hb (List.mem_cons_of_mem _ hmem)

theorem parseWebsocketBindings_ok {bindings : List WorkflowWebSocketBinding}
    (h : parseWebsocketBindings step source = .ok bindings) :
    bindings.length ≤ 64 ∧ BindingsPlanned source bindings := by
  unfold parseWebsocketBindings at h
  cases hdeclared : step.get "x-kahea-websocket-bindings" with
  | none =>
      rw [hdeclared] at h
      cases h
      exact ⟨Nat.zero_le _, List.nodup_nil, fun _ h => absurd h List.not_mem_nil⟩
  | some declared =>
      rw [hdeclared] at h
      simp only [except_bind_ok, ensure_ok, exists_const, decide_eq_true_eq] at h
      rcases h with ⟨values, _, hlength, hbindings⟩
      rcases websocketBindingsFrom_ok hbindings with ⟨hplanned, hsame, _⟩
      exact ⟨by omega, hplanned⟩

theorem stepDependencies_ok {earlier dependsOn : List Str}
    (h : stepDependencies stepId step earlier = .ok dependsOn) : ∀ d ∈ dependsOn, d ∈ earlier := by
  simp only [stepDependencies, except_bind_ok, except_pure_ok] at h
  rcases h with ⟨found, _, _, hearlier, rfl⟩
  intro d hd
  have hd := forM_ok.mp hearlier d hd
  rw [ensure_ok, List.contains_eq_mem, decide_eq_true_eq] at hd
  exact hd

/-- An action that is checked ends the workflow, or is a retry of a failed
    result with few attempts. -/
theorem validateAction_ok {success : Bool} {action : Value} {u : Unit}
    (h : validateAction lib stepId success action = .ok u) :
    isEnd action = true ∨ success = false ∧ isRetry action = true ∧ retryLimit action ≤ 10 := by
  simp only [validateAction, except_bind_ok] at h
  rcases h with ⟨_, _, h⟩
  cases hkind : actionType action with
  | none =>
      rw [hkind] at h
      cases h
  | some kind =>
      rw [hkind] at h
      dsimp only at h
      rw [except_bind_ok] at h
      rcases h with ⟨_, hsupported, h⟩
      rw [ensure_ok, Bool.or_eq_true, decide_eq_true_eq, Bool.and_eq_true, Bool.not_eq_true',
        decide_eq_true_eq] at hsupported
      -- An action ends the workflow, or it is a retry of a failure.
      rcases hsupported with hend | ⟨hsuccess, hretry⟩
      · refine Or.inl (decide_eq_true ?_)
        rw [hkind, hend]
      · refine Or.inr ⟨hsuccess, decide_eq_true ?_, ?_⟩
        · rw [hkind, hretry]
        · rw [if_pos hretry, except_bind_ok] at h
          rcases h with ⟨_, hlimits, _⟩
          simp only [validateRetry, except_bind_ok, ensure_ok, decide_eq_true_eq] at hlimits
          rcases hlimits with ⟨_, hlimit, _⟩
          exact hlimit

/-- The actions of a step that is checked. -/
theorem validateStep_actions {transport : WorkflowStepTransport} {u : Unit}
    (h : validateStep stepId step lib transport = .ok u) :
    (∀ a ∈ valueArray step "onSuccess", isEnd a = true) ∧
      (∀ a ∈ valueArray step "onFailure", isEnd a = true ∨ isRetry a = true ∧ retryLimit a ≤ 10) := by
  have hactions : (∃ x, validateActions lib stepId (valueArray step "onSuccess") true = .ok x) ∧
      ∃ x, validateActions lib stepId (valueArray step "onFailure") false = .ok x := by
    -- Both transports validate the two lists of actions.
    cases transport with
    | http =>
        simp only [validateStep, except_bind_ok] at h
        rcases h with ⟨_, _, _, hsuccess, _, hfailure, _⟩
        exact ⟨⟨_, hsuccess⟩, _, hfailure⟩
    | webSocket =>
        simp only [validateStep, except_bind_ok] at h
        rcases h with ⟨_, _, _, _, _, hsuccess, _, hfailure, _⟩
        exact ⟨⟨_, hsuccess⟩, _, hfailure⟩
  rcases hactions with ⟨⟨_, hsuccess⟩, _, hfailure⟩
  refine ⟨fun a ha => ?_, fun a ha => ?_⟩
  · rcases validateAction_ok (forM_ok.mp hsuccess a ha) with hend | ⟨hfalse, _⟩
    · exact hend
    · cases hfalse
  · rcases validateAction_ok (forM_ok.mp hfailure a ha) with hend | ⟨_, hretry⟩
    · exact Or.inl hend
    · exact Or.inr hretry

theorem validateStep_http {u : Unit} (h : validateStep stepId step lib .http = .ok u) :
    ∀ c ∈ valueArray step "successCriteria", ∃ check, criterionToCheck lib c = .ok check := by
  simp only [validateStep, except_bind_ok] at h
  rcases h with ⟨_, hcriteria, _⟩
  intro c hc
  rcases except_map_ok.mp (forM_ok.mp hcriteria c hc) with ⟨check, hcheck, _⟩
  exact ⟨check, hcheck⟩

theorem validateStep_session {u : Unit} (h : validateStep stepId step lib .webSocket = .ok u) :
    (∀ o ∈ stepOutputs step, validateWebsocketOutputExpression o.2 = .ok ()) ∧
      valueArray step "successCriteria" = [] ∧
      ∀ a ∈ valueArray step "onSuccess" ++ valueArray step "onFailure", actionCriteria a = [] := by
  simp only [validateStep, except_bind_ok, ensure_ok, exists_const] at h
  rcases h with ⟨_, houtputs, hcriteria, _, _, _, _, hactions⟩
  refine ⟨fun o ho => forM_ok.mp houtputs o ho, List.isEmpty_iff.mp hcriteria, fun a ha => ?_⟩
  rw [Bool.or_eq_true, List.all_eq_true] at hactions
  rcases hactions with hhttp | hactions
  · cases of_decide_eq_true hhttp
  · exact List.isEmpty_iff.mp (hactions a ha)

end

/-! ### One step -/

section

variable {lib : Crates} {describe : Value → Str} {configuration : ProjectConfiguration}
  {sources : List (Str × WorkflowSource)} {server auth : Option Str}

/-- The transport of a step, and the child plan of a session. -/
theorem stepTransport_ok {stepId sourceName selector : Str} {source : WorkflowSource}
    {sent : StepTransport}
    (h : stepTransport lib describe configuration server auth stepId sourceName selector source =
      .ok sent) :
    (sent.transport = .http ∧ sent.websocketPlan = none) ∨
      (sent.transport = .webSocket ∧ ∃ child, sent.websocketPlan = some child ∧
        child.verifySeal lib = true ∧ child.requiredGrants = sent.grants ∧ child.risk = sent.risk) := by
  cases source with
  -- A step is planned as a request, or as a session sealed in it.
  | http source =>
      simp only [stepTransport, except_bind_ok, except_pure_ok] at h
      rcases h with ⟨operation, _, grants, _, rfl⟩
      exact Or.inl ⟨rfl, rfl⟩
  | websocket path bytes document sourceFingerprint =>
      simp only [stepTransport, except_bind_ok, except_pure_ok, except_mapError_ok] at h
      rcases h with ⟨child, hchild, _, _, _, _, rfl⟩
      refine Or.inr ⟨rfl, child, rfl, ?_, rfl, rfl⟩
      unfold sessionDocumentPlan at hchild
      cases hsource : WebSocketSessionSource.fromJson document with
      | none =>
          rw [hsource] at hchild
          cases hchild
      | some session =>
          rw [hsource] at hchild
          dsimp only at hchild
          rw [except_bind_ok] at hchild
          rcases hchild with ⟨_, _, hchild⟩
          rcases sealWebsocketSource_parts hchild with ⟨parts, _, hsealed⟩
          exact verifySeal_of_sealed hsealed

theorem rank_maximumRisk (left right : RiskClass) :
    left.rank ≤ (maximumRisk left right).rank ∧ right.rank ≤ (maximumRisk left right).rank := by
  unfold maximumRisk
  split_ifs with h
  · exact ⟨le_refl _, h⟩
  · exact ⟨Nat.le_of_not_le h, le_refl _⟩

/-- What one step adds: a step that is planned after the ones before, with its
    grants and its risk. -/
theorem planStep_ok {before after : PlannedSteps} {value : Value}
    (h : planStep lib describe configuration sources server auth before value = .ok after) :
    ∃ step, value.text "stepId" = some step.stepId ∧ after.steps = before.steps ++ [step] ∧
      after.stepIds = step.stepId :: before.stepIds ∧
      (∀ g ∈ before.requiredGrants, g ∈ after.requiredGrants) ∧
      before.risk.rank ≤ after.risk.rank ∧
      StepPlanned lib after.requiredGrants after.risk before.stepIds step := by
  simp only [planStep, except_bind_ok, except_pure_ok, okOr_ok, ensure_ok, exists_const,
    Bool.not_eq_true', List.contains_eq_mem, decide_eq_false_iff_not, Prod.exists] at h
  -- The checks of the planner in their order, each with what it makes.
  rcases h with ⟨stepId, hstepId, hfresh, dependsOn, hdependsOn, sourceName, selector, _, source, _,
    sent, hsent, parameters, _, bindings, hbindings, _, hvalid, rfl⟩
  rcases validateStep_actions hvalid with ⟨hsuccess, hfailure⟩
  have hrank := rank_maximumRisk before.risk sent.risk
  refine ⟨_, hstepId, rfl, rfl, fun g hg => List.mem_append_left _ hg, hrank.1, hfresh,
    stepDependencies_ok hdependsOn, hsuccess, hfailure, fun htransport => ?_, fun htransport => ?_⟩
  -- A request step has no session in it.
  · dsimp only at htransport
    rcases stepTransport_ok hsent with ⟨_, hplan⟩ | ⟨hother, _⟩
    · rw [htransport] at hbindings hvalid
      simp only [stepWebsocketBindings, except_bind_ok, except_pure_ok] at hbindings
      rcases hbindings with ⟨_, _, rfl⟩
      exact ⟨hplan, rfl, validateStep_http hvalid⟩
    · rw [htransport] at hother
      cases hother
  -- A session step has one, with the grants and the risk the step takes over.
  · dsimp only at htransport
    rcases stepTransport_ok hsent with ⟨hother, _⟩ | ⟨_, child, hplan, hseal, hgrants, hrisk⟩
    · rw [htransport] at hother
      cases hother
    · rw [htransport] at hbindings hvalid
      simp only [stepWebsocketBindings, except_bind_ok, ensure_ok, exists_const,
        Bool.and_eq_true, Option.isNone_iff_eq_none, List.isEmpty_iff] at hbindings
      rcases hbindings with ⟨⟨hparameters, hbody⟩, hbindings⟩
      rcases validateStep_session hvalid with ⟨houtputs, hcriteria, hactions⟩
      exact
        { child := ⟨child, hplan, hseal, fun g hg => List.mem_append_right _ (hgrants ▸ hg),
            hrisk ▸ hrank.2⟩
          parameters := hparameters
          requestBody := hbody
          criteria := hcriteria
          bindings := parseWebsocketBindings_ok hbindings
          outputs := houtputs
          actions := hactions }

/-! ### All steps -/

/-- What the steps before have come to is planned. -/
structure PlannedSteps.Sound (lib : Crates) (planned : PlannedSteps) : Prop where
  stepIds : planned.stepIds = (planned.steps.map WorkflowStepTemplate.stepId).reverse
  steps : PlannedAfter lib planned.requiredGrants planned.risk [] planned.steps

theorem planStep_sound {before after : PlannedSteps} {value : Value} (hbefore : before.Sound lib)
    (h : planStep lib describe configuration sources server auth before value = .ok after) :
    after.Sound lib := by
  rcases planStep_ok h with ⟨step, _, hsteps, hids, hgrants, hrisk, hstep⟩
  refine ⟨?_, ?_⟩
  · rw [hids, hsteps, List.map_append, List.reverse_append, hbefore.stepIds]
    rfl
  · rw [hsteps]
    refine (hbefore.steps.mono hgrants hrisk).append ?_
    rw [List.append_nil, ← hbefore.stepIds]
    exact hstep

/-- The loop adds one step for each value, under its name. -/
theorem names_planSteps {values : List Value} {before after : PlannedSteps}
    (h : values.foldlM (planStep lib describe configuration sources server auth) before = .ok after) :
    after.steps.map (fun step => some step.stepId) =
      before.steps.map (fun step => some step.stepId) ++
        values.map (fun value => value.text "stepId") := by
  induction values generalizing before with
  | nil =>
      cases h
      exact (List.append_nil _).symm
  | cons value rest ih =>
      rw [List.foldlM_cons, except_bind_ok] at h
      rcases h with ⟨middle, hmiddle, hrest⟩
      rcases planStep_ok hmiddle with ⟨step, hname, hsteps, _⟩
      rw [ih hrest, hsteps, List.map_append, List.append_assoc, List.map_cons, List.map_cons, hname]
      rfl

theorem planSteps_sound {values : List Value} {planned : PlannedSteps}
    (h : values.foldlM (planStep lib describe configuration sources server auth)
      ⟨[], [], .read, []⟩ = .ok planned) : planned.Sound lib :=
  except_foldlM_invariant (PlannedSteps.Sound lib) h ⟨rfl, trivial⟩
    (fun _ _ _ _ hstep hsound => planStep_sound hsound hstep)

end

section

variable {lib : Crates} {describe : Value → Str} {configuration : ProjectConfiguration}
  {files : LocalSources} {document input : Value} {workflowId : Str} {auth server : Option Str}
  {checks : List Str} {plan : WorkflowPlan}

/-- The steps of a plan are those of the document, in its order. -/
theorem names_of_build
    (h : buildWorkflowPlan lib describe configuration files document workflowId input auth server
      checks = .ok plan) :
    ∃ workflow values, selectWorkflow document workflowId = .ok workflow ∧
      workflowSteps workflow = .ok values ∧
      plan.steps.map (fun step => some step.stepId) =
        values.map (fun value => value.text "stepId") := by
  simp only [buildWorkflowPlan, except_bind_ok, except_pure_ok] at h
  rcases h with ⟨_, _, workflow, hworkflow, _, _, sources, _, values, hvalues, planned, hplanned,
    configFingerprint, _, rfl⟩
  exact ⟨workflow, values, hworkflow, hvalues, names_planSteps hplanned⟩

theorem wellPlanned_of_build
    (h : buildWorkflowPlan lib describe configuration files document workflowId input auth server
      checks = .ok plan) : plan.WellPlanned lib := by
  simp only [buildWorkflowPlan, workflowSteps, except_bind_ok, except_pure_ok, ensure_ok,
    exists_const, Bool.and_eq_true, decide_eq_true_eq] at h
  rcases h with ⟨_, workflow, _, _, _, sources, _, values, ⟨_, _, hlength, rfl⟩, planned, hplanned,
    configFingerprint, _, rfl⟩
  -- The steps are sound with what was collected so far, and so with what is collected in the
  -- end.
  have hsound := planSteps_sound hplanned
  have hcount := congrArg List.length (names_planSteps hplanned)
  rw [List.length_map, List.map_nil, List.nil_append, List.length_map] at hcount
  refine ⟨WorkflowPlan.verifySeal_sealed _ _, ?_, ?_, ?_, ?_⟩
  · change 1 ≤ planned.steps.length ∧ planned.steps.length ≤ 100
    rw [hcount]
    exact hlength
  · refine hsound.steps.mono (fun g hg => ?_) (le_refl _)
    change g ∈ dedup (sortStrings planned.requiredGrants)
    rw [mem_dedup, mem_sortStrings]
    exact hg
  · change (dedup (sortStrings planned.requiredGrants)).SortedLT
    rw [sortStrings_eq]
    exact sortedLT_dedup List.sortedLE_insertionSort
  -- The policy of sessions is sealed in where a step is one.
  · change (if planned.steps.any (fun step => decide (step.transport = .webSocket)) then
      some (configuration.websocketPolicyFingerprint lib) else none).isSome = true ↔
        ∃ step ∈ planned.steps, step.transport = .webSocket
    by_cases hany : planned.steps.any (fun step => decide (step.transport = .webSocket)) = true
    · rw [if_pos hany]
      rw [List.any_eq_true] at hany
      simpa only [decide_eq_true_eq, Option.isSome_some, true_iff] using hany
    · rw [if_neg hany]
      rw [List.any_eq_true] at hany
      simpa only [decide_eq_true_eq, Option.isSome_none, Bool.false_eq_true, false_iff] using hany

/-- Every plan of the planner: its steps are those of the document, they have
    different names and depend on earlier ones, each is complete for its
    transport, and the plan lists the grants of its sessions. -/
theorem buildWorkflowPlan_wellPlanned
    (h : buildWorkflowPlan lib describe configuration files document workflowId input auth server
      checks = .ok plan) :
    plan.WellPlanned lib ∧
      ∃ workflow values, selectWorkflow document workflowId = .ok workflow ∧
        workflowSteps workflow = .ok values ∧
        plan.steps.map (fun step => some step.stepId) =
          values.map (fun value => value.text "stepId") :=
  ⟨wellPlanned_of_build h, names_of_build h⟩

end

/-! ### A request and a session -/

/-- A session that says that something was created. -/
def noticeDocument : Value :=
  jsonObject [("kind", .string "websocket-session"), ("version", jsonNat 1),
    ("operationId", .string "notice"), ("url", .string "wss://[fd00::1]/"),
    ("limits", WebSocketPolicyLimits.default.toJson),
    ("actions", .array [(WebSocketAction.sendText "created").toJson,
      (WebSocketAction.close 1000 []).toJson])]

def noticeFiles : LocalSources :=
  { beside := id
    read := fun _ => .ok []
    parse := fun _ _ => .ok noticeDocument
    load := fun _ _ => .ok itemsSource }

/-- A workflow that creates an item and announces it. -/
def announceDocument : Value :=
  jsonObject [("arazzo", .string "1.1.0"),
    ("sourceDescriptions", .array [
      jsonObject [("name", .string "items"), ("url", .string "items.json")],
      jsonObject [("name", .string "socket"), ("url", .string "socket.json"),
        ("x-kahea-source-kind", .string "websocket-session")]]),
    ("workflows", .array [jsonObject [("workflowId", .string "announce"), ("steps", .array [
      jsonObject [("stepId", .string "create"),
        ("operationId", .string "$sourceDescriptions.items.POST /items")],
      jsonObject [("stepId", .string "notify"), ("dependsOn", stringArray ["create".toList]),
        ("operationId", .string "$sourceDescriptions.socket.notice"),
        ("x-kahea-websocket-bindings", .array [jsonObject [("pointer", .string "/actions/0/text"),
          ("value", .string "$inputs.text")]])]])]])]

/-- The planner on that document. -/
def announcePlan : Except WorkflowError WorkflowPlan :=
  buildWorkflowPlan referenceCrates (fun _ => "no session") .default noticeFiles announceDocument
    "announce" (jsonObject [("text", .string "created")]) none
    (some "https://api.example.com".toList) []

theorem announcePlan_ok : ∃ plan, announcePlan = .ok plan ∧
    plan.steps.map WorkflowStepTemplate.stepId = ["create", "notify"].map String.toList := by
  have hplan : announcePlan.toOption.map (fun plan =>
      plan.steps.map WorkflowStepTemplate.stepId) =
      some (["create", "notify"].map String.toList) := by decide +kernel
  exact exists_ok_of_toOption hplan

/-- That plan is well planned. -/
theorem wellPlanned_announce : ∃ plan, announcePlan = .ok plan ∧
    plan.WellPlanned referenceCrates := by
  rcases announcePlan_ok with ⟨plan, hplan, _⟩
  exact ⟨plan, hplan, (buildWorkflowPlan_wellPlanned hplan).1⟩

end Kahea
