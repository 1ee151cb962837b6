import Kahea.Conformance.Campaign
import Kahea.Exec.Addresses
import Kahea.Exec.Contract

/-!
# Declared Statuses

The status check planning adds on its own, against the statuses the response
check takes as declared.

The planner lists the keys of the responses object that consist of digits, the
executor looks a status up under its own key, under that of its hundreds and
under `default`. When one key is a code, the list is all the planner's check
accepts, so a status that only a range or the default declares is rejected
(`accepts_declared_iff`), and with it a conformance case that expects it.

## Main definitions

* `statusCodes`, `defaultStatusCheck`: The check of the planner.
* `DefaultAccepts`: The check finds nothing wrong with a response.
* `AcceptsDeclared`: It accepts every declared status.

## Theorems

* `defaultChecks_eq`: The default checks of an operation.
* `defaultAccepts_iff`: The statuses the check accepts.
* `assess_rejected`: A rejection that fails a check fails its case.
* `accepts_declared_iff`: When every declared status is accepted.
* `accepts_declared_range`, `not_accepts_declared_default`: Two operations.
-/

namespace Kahea

/-! ### The check of the planner -/

/-- The keys of the responses object. -/
def declaredKeys (operation : OperationDefinition) : List Str :=
  (((lookup "responses" operation.operation).bind Value.asObject).getD []).map Prod.fst

/-- The keys that consist of digits. -/
def statusCodes (operation : OperationDefinition) : List Str :=
  (declaredKeys operation).filter (fun s => s.all Char.isDigit)

/-- The status check among the default checks. -/
def defaultStatusCheck (operation : OperationDefinition) : Option Str :=
  let statuses := sortStrings (statusCodes operation)
  if statuses.isEmpty then none else some ("status:any(" ++ join "," statuses ++ [')'])

theorem defaultChecks_eq (operation : OperationDefinition) :
    defaultChecks operation = dedup (sortStrings ((defaultStatusCheck operation).toList ++
      "response-schema:openapi".toList :: (((lookup "x-kahea-checks" operation.operation).bind
        Value.asArray).getD []).filterMap Value.asStr)) := by
  have hstatuses : (sortStrings ((((lookup "responses" operation.operation).bind
      Value.asObject).getD []).map Prod.fst |>.filter (fun s => s.all Char.isDigit))) =
        sortStrings (statusCodes operation) := rfl
  unfold defaultChecks defaultStatusCheck
  rw [hstatuses]
  by_cases hnone : (sortStrings (statusCodes operation)).isEmpty = true
  · simp only [if_pos hnone, Option.toList_none]
  · simp only [if_neg hnone, Option.toList_some]

section

variable {lib : Crates} {operation : OperationDefinition} {r : CheckedResponse}

/-- A code has no comma in it, so the list splits into the codes again. -/
theorem splitOn_join_codes (h : statusCodes operation ≠ []) :
    (join "," (sortStrings (statusCodes operation))).splitOn ',' =
      sortStrings (statusCodes operation) := by
  refine List.splitOn_intercalate ',' (fun code hcode hcomma => ?_) (fun hnil => h ?_)
  · rw [mem_sortStrings, statusCodes, List.mem_filter, List.all_eq_true] at hcode
    exact absurd (hcode.2 ',' hcomma) (by decide)
  · rcases hcodes : statusCodes operation with _ | ⟨code, rest⟩
    · rfl
    · have hmem : code ∈ sortStrings (statusCodes operation) :=
        (mem_sortStrings _ _).mpr (by rw [hcodes]; exact List.mem_cons_self)
      rw [hnil] at hmem
      cases hmem

/-- The status check of an operation accepts the numbers of its codes. -/
theorem defaultStatusCheck_accepts {check : Str} (h : defaultStatusCheck operation = some check) :
    checkFailures lib r check = [] ↔ ∃ code ∈ statusCodes operation, parseStatus code = some r.status := by
  unfold defaultStatusCheck at h
  have hnonempty : statusCodes operation ≠ [] := by
    intro hnil
    simp only [hnil] at h
    cases h
  simp only [Option.ite_none_left_eq_some, Option.some.injEq] at h
  rcases h with ⟨_, rfl⟩
  -- The check is read back as the list of the codes.
  have hstrip : (stripPrefix "status:any(" ("status:any(".toList ++
      join "," (sortStrings (statusCodes operation)) ++ [')'])).bind (stripSuffix ")".toList) =
        some (join "," (sortStrings (statusCodes operation))) := by
    rw [List.append_assoc, stripPrefix_append, Option.bind_some]
    exact stripSuffix_append _ _
  unfold checkFailures
  rw [hstrip]
  simp only [validateStatusAny, splitOn_join_codes hnonempty]
  -- It lets a response through exactly when its status is one of them.
  by_cases haccepted : ∃ code ∈ statusCodes operation, parseStatus code = some r.status
  · refine iff_of_true (if_pos ?_) haccepted
    rw [List.contains_iff_mem, List.mem_filterMap]
    simpa only [mem_sortStrings] using haccepted
  · refine iff_of_false (fun hnil => ?_) haccepted
    split_ifs at hnil with hcontains
    rw [List.contains_iff_mem, List.mem_filterMap] at hcontains
    simp only [mem_sortStrings] at hcontains
    exact haccepted hcontains

/-- A check of that form is not the schema check. -/
theorem defaultStatusCheck_ne {check : Str} (h : defaultStatusCheck operation = some check) :
    check ≠ "response-schema:openapi".toList := by
  unfold defaultStatusCheck at h
  simp only [Option.ite_none_left_eq_some, Option.some.injEq] at h
  rcases h with ⟨_, rfl⟩
  intro heq
  have hfirst : some 's' = some 'r' := congrArg (fun s => s.head?) heq
  exact absurd hfirst (by decide)

end

/-! ### Every declared status -/

/-- The numbers of HTTP statuses. -/
def IsStatusCode (status : Nat) : Prop := 100 ≤ status ∧ status < 1000

instance (status : Nat) : Decidable (IsStatusCode status) :=
  inferInstanceAs (Decidable (100 ≤ status ∧ status < 1000))

section

variable (lib : Crates) (operation : OperationDefinition) (plan : RequestPlan)

/-- The default status check of the plan finds nothing wrong with a response. -/
def DefaultAccepts (r : CheckedResponse) : Prop :=
  ∀ check ∈ plan.checks, defaultStatusCheck operation = some check →
    validateCheck lib plan.responseContract r [] check = []

/-- Every other check of the plan finds nothing wrong with a response. -/
def OthersAccept (r : CheckedResponse) : Prop :=
  ∀ check ∈ plan.checks, defaultStatusCheck operation ≠ some check →
    validateCheck lib plan.responseContract r [] check = []

/-- What an invocation observes of a response: its status, and an exit of 0
    when no check has failed. -/
def ObservedAs (r : CheckedResponse) (o : Observation) : Prop :=
  o.status = some r.status ∧ (o.exit = 0 ↔ validateChecks lib plan r = [])

/-- The default status check never fails a declared status, nor a conformance
    case that is rejected with one. -/
structure AcceptsDeclared : Prop where
  statuses : ∀ r : CheckedResponse, IsStatusCode r.status →
    (contractResponse plan.responseContract r.status).isSome → DefaultAccepts lib operation plan r
  rejections : ∀ (r : CheckedResponse) (o : Observation), 400 ≤ r.status → r.status < 500 →
    (contractResponse plan.responseContract r.status).isSome → OthersAccept lib operation plan r →
      ObservedAs lib plan r o → (assess .negative (.observation o)).1 = true

end

section

variable {lib : Crates} {world : World} {source : OpenApiSource} {operation : OperationDefinition}
  {options : PlanOptions} {configuration : ProjectConfiguration} {plan : RequestPlan}

/-- A rejection passes its case exactly when it passes the checks. -/
theorem assess_rejected {r : CheckedResponse} {o : Observation} (h : ObservedAs lib plan r o)
    (hlow : 400 ≤ r.status) (hhigh : r.status < 500) :
    (assess .negative (.observation o)).1 = true ↔ validateChecks lib plan r = [] := by
  rcases h with ⟨hstatus, hexit⟩
  rw [← hexit]
  have hserver : o.status.any (fun s => decide (500 ≤ s)) = false := by
    rw [hstatus, Option.any_some, decide_eq_false_iff_not]
    omega
  have hclient : o.status.any (fun s => decide (400 ≤ s) && decide (s < 500)) = true := by
    rw [hstatus, Option.any_some, Bool.and_eq_true, decide_eq_true_eq, decide_eq_true_eq]
    exact ⟨hlow, hhigh⟩
  have hsuccess : o.status.any (fun s => decide (200 ≤ s) && decide (s < 300)) = false := by
    rw [hstatus, Option.any_some, Bool.and_eq_false_iff, decide_eq_false_iff_not,
      decide_eq_false_iff_not]
    omega
  unfold assess
  simp only [hserver, hclient, hsuccess, Bool.false_eq_true, if_false, Bool.true_and]
  by_cases hzero : o.exit = 0
  · simp only [hzero, decide_true, if_true]
  · simp only [hzero, decide_false, Bool.false_eq_true, if_false]

/-- A plan without explicit checks has the default ones, and its contract
    declares what the operation declares. -/
theorem defaultPlan_ok {past : List Event} {responses : List (Str × Value)}
    (hplan : (buildPlanWithConfiguration lib world source operation options configuration past).1 =
      .ok plan) (hchecks : options.checks = [])
    (hresponses : lookup "responses" operation.operation = some (.object responses)) :
    plan.checks = defaultChecks operation ∧
      ∀ status, contractResponse plan.responseContract status =
        declaredResponse responses status := by
  rcases buildPlanWithConfiguration_ok hplan with ⟨parts, _, _, rfl⟩
  refine ⟨?_, fun status => ?_⟩
  -- No checks were asked for, so the plan has the default ones.
  · change (if options.checks.isEmpty then defaultChecks operation else options.checks) = _
    rw [hchecks]
    rfl
  -- The contract of the plan has the responses of the operation.
  · change contractResponse (responseContract source operation) status = _
    have hmember : (lookup "responses" [("components",
        (source.document.get "components").getD (.object [])),
        ("responses", (lookup "responses" operation.operation).getD (.object []))]) =
          some (.object responses) := by
      rw [hresponses]
      rfl
    unfold responseContract contractResponse contractResponses jsonObject
    simp only [List.map_cons, List.map_nil, Value.asObject, Option.map_some, Option.bind_some,
      hmember, Option.getD_some]

/-- The default status check accepts a response unless there are codes and its
    status is not the number of one. -/
theorem defaultAccepts_iff {r : CheckedResponse} (hchecks : plan.checks = defaultChecks operation) :
    DefaultAccepts lib operation plan r ↔ statusCodes operation = [] ∨
      ∃ code ∈ statusCodes operation, parseStatus code = some r.status := by
  have hsingle {check : Str} (h : defaultStatusCheck operation = some check) :
      validateCheck lib plan.responseContract r [] check = [] ↔
        ∃ code ∈ statusCodes operation, parseStatus code = some r.status := by
    rw [validateCheck, if_neg (defaultStatusCheck_ne h), List.nil_append,
      defaultStatusCheck_accepts h]
  cases hcheck : defaultStatusCheck operation with
  -- Without a numeric key there is no check of its own.
  | none =>
      refine iff_of_true (fun check _ h => ?_) (Or.inl ?_)
      · rw [hcheck] at h
        cases h
      · unfold defaultStatusCheck at hcheck
        simp only [ite_eq_left_iff, reduceCtorEq, imp_false, not_not, List.isEmpty_iff] at hcheck
        rw [List.eq_nil_iff_forall_not_mem] at hcheck ⊢
        exact fun code hcode => hcheck code ((mem_sortStrings _ _).mpr hcode)
  -- With one the check lists exactly those statuses.
  | some check =>
      have hmem : check ∈ plan.checks := by
        rw [hchecks, defaultChecks_eq, mem_dedup, mem_sortStrings, hcheck]
        exact List.mem_cons_self
      have hcodes : statusCodes operation ≠ [] := by
        intro hnil
        simp only [defaultStatusCheck, hnil] at hcheck
        cases hcheck
      rw [or_iff_right hcodes, ← hsingle hcheck]
      constructor
      · exact fun h => h check hmem hcheck
      · intro h check' _ hcheck'
        rw [hcheck, Option.some.injEq] at hcheck'
        rw [← hcheck']
        exact h

/-- Planned without explicit checks, every declared status is accepted exactly
    when no key of the responses is a code, or every declared status is the
    number of one. -/
theorem accepts_declared_iff {past : List Event} {responses : List (Str × Value)}
    (hplan : (buildPlanWithConfiguration lib world source operation options configuration past).1 =
      .ok plan) (hchecks : options.checks = [])
    (hresponses : lookup "responses" operation.operation = some (.object responses)) :
    AcceptsDeclared lib operation plan ↔
      (∀ key ∈ responses.map Prod.fst, key.all Char.isDigit = false) ∨
      ∀ status, IsStatusCode status → (declaredResponse responses status).isSome →
        ∃ key ∈ responses.map Prod.fst, key.all Char.isDigit = true ∧
          parseStatus key = some status := by
  rcases defaultPlan_ok hplan hchecks hresponses with ⟨hdefault, hdeclared⟩
  -- The keys are those of the responses object.
  have hkeys : declaredKeys operation = responses.map Prod.fst := by
    unfold declaredKeys
    rw [hresponses]
    rfl
  -- What the default check accepts, in terms of the keys.
  have haccepts (r : CheckedResponse) : DefaultAccepts lib operation plan r ↔
      (∀ key ∈ responses.map Prod.fst, key.all Char.isDigit = false) ∨
        ∃ key ∈ responses.map Prod.fst, key.all Char.isDigit = true ∧
          parseStatus key = some r.status := by
    rw [defaultAccepts_iff hdefault, statusCodes, hkeys]
    simp only [List.filter_eq_nil_iff, List.mem_filter, and_assoc, Bool.not_eq_true]
  constructor
  · intro h
    by_cases hcodes : ∀ key ∈ responses.map Prod.fst, key.all Char.isDigit = false
    · exact Or.inl hcodes
    · refine Or.inr (fun status hcode hsome => ?_)
      -- A response that was declared is one the check must let through.
      have hr : DefaultAccepts lib operation plan ⟨status, [], [], [], 0⟩ :=
        h.statuses _ hcode (by rw [hdeclared]; exact hsome)
      exact ((haccepts _).mp hr).resolve_left hcodes
  · intro hcondition
    have hall (r : CheckedResponse) (hcode : IsStatusCode r.status)
        (hsome : (contractResponse plan.responseContract r.status).isSome) :
        DefaultAccepts lib operation plan r := by
      rw [hdeclared] at hsome
      exact (haccepts r).mpr (hcondition.imp_right (fun h => h r.status hcode hsome))
    refine ⟨hall, fun r o hlow hhigh hsome hothers hobserved => ?_⟩
    rw [assess_rejected hobserved hlow hhigh, validateChecks_eq_nil]
    -- The other checks are met by hypothesis.
    intro check hcheck
    by_cases hown : defaultStatusCheck operation = some check
    · exact hall r ⟨by omega, by omega⟩ hsome check hcheck hown
    · exact hothers check hcheck hown

end

/-! ### Two operations -/

/-- An operation with the given responses. -/
def respondingOperation (responses : List (Str × Value)) : OperationDefinition :=
  { listItems with operation := [("responses", .object responses)] }

/-- A range and a default are accepted where no code is declared. -/
theorem accepts_declared_range :
    ∃ plan, (buildPlanWithConfiguration referenceCrates referenceWorld itemsSource
        (respondingOperation [("4XX", jsonObject []), ("default", jsonObject [])])
        (serverOptions "https://api.example.com") .default []).1 = .ok plan ∧
      AcceptsDeclared referenceCrates
        (respondingOperation [("4XX", jsonObject []), ("default", jsonObject [])]) plan := by
  have hplan : (buildPlanWithConfiguration referenceCrates referenceWorld itemsSource
      (respondingOperation [("4XX", jsonObject []), ("default", jsonObject [])])
      (serverOptions "https://api.example.com") .default []).1.toOption.map (fun _ => ()) =
        some () := by decide +kernel
  rcases exists_ok_of_toOption hplan with ⟨plan, hok, _⟩
  exact ⟨plan, hok, (accepts_declared_iff hok rfl rfl).mpr (Or.inl (by decide +kernel))⟩

/-- A default is rejected where a code is declared. -/
theorem not_accepts_declared_default :
    ∃ plan, (buildPlanWithConfiguration referenceCrates referenceWorld itemsSource
        (respondingOperation [("200", jsonObject []), ("default", jsonObject [])])
        (serverOptions "https://api.example.com") .default []).1 = .ok plan ∧
      ¬ AcceptsDeclared referenceCrates
        (respondingOperation [("200", jsonObject []), ("default", jsonObject [])]) plan := by
  have hplan : (buildPlanWithConfiguration referenceCrates referenceWorld itemsSource
      (respondingOperation [("200", jsonObject []), ("default", jsonObject [])])
      (serverOptions "https://api.example.com") .default []).1.toOption.map (fun _ => ()) =
        some () := by decide +kernel
  rcases exists_ok_of_toOption hplan with ⟨plan, hok, _⟩
  rcases defaultPlan_ok hok rfl rfl with ⟨hdefault, hdeclared⟩
  have hdeclares : (contractResponse plan.responseContract 404).isSome = true := by
    rw [hdeclared]
    decide +kernel
  refine ⟨plan, hok, fun h => ?_⟩
  have haccepts := h.statuses ⟨404, [], [], [], 0⟩ (by decide) hdeclares
  rw [defaultAccepts_iff hdefault] at haccepts
  exact absurd haccepts (by decide +kernel)

end Kahea
