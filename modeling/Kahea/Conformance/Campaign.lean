import Kahea.Core.Conformance
import Kahea.Core.Reference
import Kahea.Exec.Invoke

/-!
# Campaigns

The executor of conformance campaigns, `invoke_conformance`: the cases of a
sealed plan in order, each executed and judged, until enough of them have
failed.

The counters are carried by `Tally`. A case adds one record and one to either
`passed` or `failed`, so the accounting is an invariant of the loop
(`Tally.Accounts`), kept by one case (`Tally.accounts_add`) and then by all
(`runCases_accounts`). The exit is read off the counters afterwards and says
"passed" of a campaign that stopped before its first case, which a plan with
`max_failures` 0 does: `campaign_accounted_iff`.

## Main definitions

* `CaseResult`, `assess`: What a case ends with, and the verdict.
* `Tally`, `runCases`: The loop over the cases.
* `invokeConformance`: A campaign.
* `Accounted`: What an observation promises of its numbers.

## Theorems

* `campaign_accounted_iff`: When a campaign's numbers are right.
* `campaign_accounted_pair`: A campaign with a case that passes and one that is denied.
* `campaign_unaccounted`: A campaign that stops before its first case.
-/

namespace Kahea

inductive ConformanceError where
  | invalidOption (reason : Str)
  | generation (path reason : Str)
  | noCases (kind : Str)
  | plan (reason : Str)
  | invalidSeal
  | invalidCase (plan : Str)
  | evidence (reason : Str)
  deriving DecidableEq, Repr

/-! ### Verdicts -/

/-- What executing a case ends with. -/
inductive CaseResult where
  | returned (result : InvocationResult)
  | raised (error : ExecError)
  deriving DecidableEq, Repr

/-- The function `assess`: whether a case passed, its status and why. -/
def assess (generation : ConformanceGeneration) : InvocationResult → Bool × Option Nat × Str
  | .denied denial => (false, none, "case was denied at runtime; missing " ++ denial.required)
  | .observation o =>
      if o.status.any (fun s => 500 ≤ s) then
        (false, o.status, "server returned a 5xx response")
      else match generation with
        | .positive =>
            if o.exit = 0 then (true, o.status, "valid generated request conformed")
            else (false, o.status, "valid generated request failed response conformance")
        | .negative =>
            if o.status.any (fun s => 400 ≤ s && s < 500) && o.exit = 0 then
              (true, o.status, "invalid generated request was rejected")
            else if o.status.any (fun s => 200 ≤ s && s < 300) then
              (false, o.status, "schema-invalid request was accepted")
            else (false, o.status,
              "invalid request rejection did not conform to the response contract")

def safeExecReason : ExecError → Str
  | .transport _ => "transport failed"
  | .responseTooLarge limit => "response exceeded the " ++ decimal limit ++ " byte campaign limit"
  | error => error.text

namespace CaseResult

/-- Whether the transport has failed. -/
def isTransport : CaseResult → Bool
  | raised (.transport _) | raised (.responseTooLarge _) => true
  | _ => false

def isDenied : CaseResult → Bool
  | returned (.denied _) => true
  | _ => false

/-- Whether a case passed, its status and why. -/
def verdict (generation : ConformanceGeneration) : CaseResult → Bool × Option Nat × Str
  | returned result => assess generation result
  | raised error => (false, none, safeExecReason error)

end CaseResult

/-- What a campaign reports of a case. -/
def caseRecord (case : ConformanceCasePlan) (result : CaseResult) (evidence : Str) :
    ConformanceCaseObservation :=
  { caseId := case.caseId
    generation := case.generation
    strategy := case.strategy
    plan := case.plan
    passed := (result.verdict case.generation).1
    status := (result.verdict case.generation).2.1
    reason := (result.verdict case.generation).2.2
    evidence := evidence }

/-! ### The loop -/

/-- The counters of the loop. -/
structure Tally where
  cases : List ConformanceCaseObservation
  passed : Nat
  failed : Nat
  transportErrors : Nat
  denied : Bool

def Tally.start : Tally := ⟨[], 0, 0, 0, false⟩

/-- The counters after a case. -/
def Tally.add (t : Tally) (case : ConformanceCasePlan) (result : CaseResult) (evidence : Str) :
    Tally :=
  let passes := (result.verdict case.generation).1
  { cases := t.cases ++ [caseRecord case result evidence]
    passed := if passes then t.passed + 1 else t.passed
    failed := if passes then t.failed else t.failed + 1
    transportErrors := if result.isTransport then t.transportErrors + 1 else t.transportErrors
    denied := t.denied || result.isDenied }

/-- The exit of a campaign. -/
def Tally.exit (t : Tally) : Nat :=
  if t.denied then 4
  else if t.failed = 0 then 0
  else if t.transportErrors = t.failed then 3
  else 1

section

variable (lib : Crates)

/-- The function `request_digest`. -/
def requestDigest (plan : RequestPlan) : Str :=
  digest lib (utf8 (jsonSorted [("method", .string plan.method), ("target", .string plan.target),
    ("headers", .array (plan.headers.map PlannedHeader.toJson)),
    ("body", optional (fun b => .string b.blake3) plan.body)]).render)

/-- The kind and the JSON of the evidence of a case. -/
def caseEvidence (case : ConformanceCasePlan) : CaseResult → Str × Value
  | .returned (.observation o) => ("conformance-case", o.toJson)
  | .returned (.denied d) => ("conformance-case", d.toJson)
  | .raised error => ("conformance-case-error", jsonSorted [("protocol", .string PROTOCOL),
      ("kind", .string "conformance-case-error"), ("case", .string case.caseId),
      ("plan", .string case.plan), ("reason", .string (safeExecReason error)),
      ("exit", jsonNat (if (CaseResult.raised error).isTransport then 3 else 2))])

variable (world : World) (plans : List Event → Str → Option RequestPlan)

/-- The request plan of a case, which must be the one the campaign names.
    `plans` is what the plan store holds under a handle. -/
def loadCase (case : ConformanceCasePlan) : Eff Event ConformanceError RequestPlan := do
  let past ← Eff.past
  match plans past case.plan with
  | none => Eff.fail (.invalidCase case.plan)
  | some request => do
      Eff.ofExcept (ensure (request.verifySeal lib) (.invalidCase case.plan))
      Eff.ofExcept (ensure (request.fingerprint = case.planFingerprint &&
        requestDigest lib request = case.requestDigest) (.invalidCase case.plan))
      pure request

/-- Execute a case and keep what it ended with. -/
def executeCase (options : InvokeOptions) (case : ConformanceCasePlan) :
    Eff Event ConformanceError (CaseResult × Str) := do
  let request ← loadCase lib plans case
  let outcome ← (invoke lib world request options).attempt
  let result := match outcome with
    | .ok result => CaseResult.returned result
    | .error error => .raised error
  let evidence := caseEvidence case result
  let handle ← (putJson world lib evidence.1 evidence.2 true).mapError ConformanceError.evidence
  pure (result, handle)

/-- The loop over the cases. -/
def runCases (maxFailures : Nat) (options : InvokeOptions) :
    List ConformanceCasePlan → Tally → Eff Event ConformanceError Tally
  | [], t => pure t
  | case :: rest, t =>
      if maxFailures ≤ t.failed then pure t
      else do
        let (result, evidence) ← executeCase lib world plans options case
        runCases maxFailures options rest (t.add case result evidence)

/-- The observation of a campaign that has not been denied as a whole. -/
def campaignObservation (plan : ConformancePlan) (t : Tally) : ConformanceObservation :=
  { protocol := PROTOCOL
    kind := "conformance-observation"
    version := VERSION
    configFingerprint := plan.configFingerprint
    policyFingerprint := plan.policyFingerprint
    sourceFingerprints := plan.sourceFingerprints
    conformancePlan := plan.id
    outcome := if t.exit = 0 then .passed else if t.exit = 4 then .denied else .failed
    generated := plan.cases.length
    executed := t.cases.length
    passed := t.passed
    failed := t.failed
    transportErrors := t.transportErrors
    cases := t.cases
    required := none
    exit := t.exit }

/-- The observation of a campaign that lacks a grant. -/
def campaignDenial (plan : ConformancePlan) (missing : Str) : ConformanceObservation :=
  { campaignObservation plan Tally.start with
    outcome := .denied
    required := some missing
    exit := 4 }

/-- A campaign. -/
def invokeConformance (plan : ConformancePlan) (options : InvokeOptions) :
    Eff Event ConformanceError ConformanceObservation := do
  Eff.ofExcept (ensure (plan.verifySeal lib) .invalidSeal)
  Eff.ofExcept (ensure (options.expectedConfigFingerprint.all (fun f => f = plan.configFingerprint) &&
      options.expectedPolicyFingerprint.all (fun f => f = plan.policyFingerprint))
    (.plan "campaign configuration or policy fingerprint mismatch"))
  match missingGrant options.grants plan.requiredGrants with
  | some missing => pure (campaignDenial plan missing)
  | none => do
      let t ← runCases lib world plans plan.maxFailures options plan.cases Tally.start
      pure (campaignObservation plan t)

end

/-! ### The accounting -/

/-- A record is that of a case and what it ended with. -/
def CaseRecorded (x : ConformanceCasePlan × CaseResult) (record : ConformanceCaseObservation) :
    Prop :=
  record = caseRecord x.1 x.2 record.evidence

/-- The counters are those of the cases that have been executed. -/
structure Tally.Accounts (maxFailures : Nat) (executed : List (ConformanceCasePlan × CaseResult))
    (t : Tally) : Prop where
  records : List.Forall₂ CaseRecorded executed t.cases
  total : executed.length = t.passed + t.failed
  transport : t.transportErrors ≤ t.failed
  bounded : t.failed ≤ maxFailures
  denied : ∀ x ∈ executed, x.2.isDenied = true → t.denied = true

/-- What an observation promises of its numbers, given the cases that were
    executed and what each ended with. -/
structure Accounted (plan : ConformancePlan) (executed : List (ConformanceCasePlan × CaseResult))
    (o : ConformanceObservation) : Prop where
  order : executed.map Prod.fst <+: plan.cases
  records : List.Forall₂ CaseRecorded executed o.cases
  count : o.executed = o.cases.length
  total : o.executed = o.passed + o.failed
  transport : o.transportErrors ≤ o.failed
  bounded : o.failed ≤ plan.maxFailures
  within : o.executed ≤ o.generated
  generated : o.generated = plan.cases.length
  complete : o.exit = 0 → o.outcome = .passed → o.executed = o.generated ∧ o.passed = o.generated
  denied : (∃ x ∈ executed, x.2.isDenied = true) → o.exit = 4

/-- Cases with what executing each of them ends with, one after the other. -/
def Ran (lib : Crates) (world : World) (plans : List Event → Str → Option RequestPlan)
    (options : InvokeOptions) : List Event → List (ConformanceCasePlan × CaseResult) → Prop
  | _, [] => True
  | past, (case, result) :: rest =>
      (∃ evidence, (executeCase lib world plans options case past).1 = .ok (result, evidence)) ∧
        Ran lib world plans options
          (past ++ (executeCase lib world plans options case past).2) rest

/-- The numbers of an observation are those of the cases a campaign has
    executed. -/
def CampaignAccounted (lib : Crates) (world : World)
    (plans : List Event → Str → Option RequestPlan) (options : InvokeOptions)
    (plan : ConformancePlan) (past : List Event) (o : ConformanceObservation) : Prop :=
  ∃ executed, Ran lib world plans options past executed ∧ Accounted plan executed o

theorem tally_start_accounts (maxFailures : Nat) : Tally.start.Accounts maxFailures [] :=
  { records := .nil
    total := rfl
    transport := Nat.le_refl 0
    bounded := Nat.zero_le _
    denied := fun _ hx _ => absurd hx List.not_mem_nil }

/-- A transport that fails fails the case. -/
theorem verdict_of_isTransport {generation : ConformanceGeneration} {result : CaseResult}
    (h : result.isTransport = true) : (result.verdict generation).1 = false := by
  cases result with
  | returned result => cases h
  | raised error => rfl

/-- One more case keeps the accounting. -/
theorem Tally.accounts_add {maxFailures : Nat} {executed : List (ConformanceCasePlan × CaseResult)}
    {t : Tally} {case : ConformanceCasePlan} {result : CaseResult} {evidence : Str}
    (h : t.Accounts maxFailures executed) (hroom : t.failed < maxFailures) :
    (t.add case result evidence).Accounts maxFailures (executed ++ [(case, result)]) := by
  -- A transport result is no pass of either kind of case.
  have hverdict : result.isTransport = true → (result.verdict case.generation).1 = false :=
    verdict_of_isTransport
  have htotal := h.total
  have htransport := h.transport
  refine
    { records := List.rel_append h.records (.cons rfl .nil)
      total := ?_
      transport := ?_
      bounded := ?_
      denied := ?_ }
  · simp only [Tally.add, List.length_append, List.length_singleton]
    split_ifs <;> omega
  · simp only [Tally.add]
    by_cases htrans : result.isTransport = true
    · rw [if_pos htrans, hverdict htrans, if_neg Bool.false_ne_true]
      omega
    · rw [if_neg htrans]
      split_ifs <;> omega
  · simp only [Tally.add]
    split_ifs <;> omega
  -- A denial counts whether it came now or before.
  · intro x hx hdenied
    rw [Tally.add, Bool.or_eq_true]
    rcases List.mem_append.mp hx with hx | hx
    · exact Or.inl (h.denied x hx hdenied)
    · rw [List.mem_singleton.mp hx] at hdenied
      exact Or.inr hdenied

section

variable {lib : Crates} {world : World} {plans : List Event → Str → Option RequestPlan}
  {options : InvokeOptions}

/-- The loop keeps the accounting, and it stops early only when enough cases
    have failed. -/
theorem runCases_accounts {maxFailures : Nat} {rest : List ConformanceCasePlan} {t t' : Tally}
    {executed : List (ConformanceCasePlan × CaseResult)} {past : List Event}
    (h : t.Accounts maxFailures executed)
    (hrun : (runCases lib world plans maxFailures options rest t past).1 = .ok t') :
    ∃ more, Ran lib world plans options past more ∧ t'.Accounts maxFailures (executed ++ more) ∧
      more.map Prod.fst <+: rest ∧ (more.map Prod.fst = rest ∨ maxFailures ≤ t'.failed) := by
  -- By the cases still to run, those executed being accounted for.
  induction rest generalizing t executed past with
  | nil =>
      cases hrun
      exact ⟨[], trivial, by rwa [List.append_nil], List.prefix_rfl, Or.inl rfl⟩
  | cons case rest ih =>
      unfold runCases at hrun
      -- The run stops once there are enough failures.
      split_ifs at hrun with hstop
      · cases hrun
        exact ⟨[], trivial, by rwa [List.append_nil], List.nil_prefix, Or.inr hstop⟩
      · rcases Eff.bind_ok hrun with ⟨⟨result, evidence⟩, hexecuted, hrest⟩
        rcases ih (Tally.accounts_add h (Nat.lt_of_not_le hstop)) hrest
          with ⟨more, hran, hmore, hstart, hend⟩
        refine ⟨(case, result) :: more, ⟨⟨evidence, hexecuted⟩, hran⟩, ?_, ?_, ?_⟩
        · rwa [List.append_cons]
        · exact (List.prefix_cons_inj case).mpr hstart
        · exact hend.imp_left (congrArg (case :: ·))

theorem tally_exit_eq_zero {t : Tally} : t.exit = 0 ↔ t.denied = false ∧ t.failed = 0 := by
  unfold Tally.exit
  split_ifs with hdenied hfailed htransport
  · simp [hdenied]
  · simp [hdenied, hfailed]
  · simp [hfailed]
  · simp [hfailed]

/-- An accounted tally without a denial that has stopped before its first case
    is that of a plan which stops there. -/
theorem campaignObservation_accounted {plan : ConformancePlan} {t : Tally}
    {executed : List (ConformanceCasePlan × CaseResult)}
    (h : t.Accounts plan.maxFailures executed) (horder : executed.map Prod.fst <+: plan.cases)
    (hend : executed.map Prod.fst = plan.cases ∨ plan.maxFailures ≤ t.failed)
    (hpositive : 0 < plan.maxFailures ∨ plan.cases = []) :
    Accounted plan executed (campaignObservation plan t) := by
  have hlength : executed.length = t.cases.length := h.records.length_eq
  have hwithin : executed.length ≤ plan.cases.length := by
    have := horder.length_le
    rwa [List.length_map] at this
  refine
    { order := horder
      records := h.records
      count := rfl
      total := hlength.symm.trans h.total
      transport := h.transport
      bounded := h.bounded
      within := hlength.symm.trans_le hwithin
      generated := rfl
      complete := fun hexit _ => ?_
      denied := ?_ }
  -- Exit zero: no failure stopped the run, so every case was executed.
  · rcases tally_exit_eq_zero.mp hexit with ⟨_, hfailed⟩
    have hall : executed.length = plan.cases.length := by
      rcases hend with hall | hstop
      · rw [← hall, List.length_map]
      · rcases hpositive with hpos | hnone
        · omega
        · rw [hnone] at hwithin ⊢
          exact Nat.le_zero.mp hwithin
    have htotal := h.total
    refine ⟨hlength.symm.trans hall, ?_⟩
    simp only [campaignObservation]
    omega
  -- A denial comes before a failure in the exit code.
  · rintro ⟨x, hx, hdenied⟩
    simp only [campaignObservation, Tally.exit, h.denied x hx hdenied, if_true]

/-- What a campaign that returns an observation has done. -/
theorem invokeConformance_ok {plan : ConformancePlan} {past : List Event}
    {o : ConformanceObservation}
    (h : (invokeConformance lib world plans plan options past).1 = .ok o) :
    (∃ missing, missingGrant options.grants plan.requiredGrants = some missing ∧
        o = campaignDenial plan missing) ∨
      missingGrant options.grants plan.requiredGrants = none ∧
        ∃ t, (runCases lib world plans plan.maxFailures options plan.cases Tally.start past).1 =
          .ok t ∧ o = campaignObservation plan t := by
  unfold invokeConformance at h
  rw [Eff.ofExcept_bind] at h
  -- A campaign that is not sealed or not expected is an error.
  split at h
  rotate_left
  · cases h
  rw [Eff.ofExcept_bind] at h
  split at h
  rotate_left
  · cases h
  -- A missing grant is a denial before any case.
  cases hmissing : missingGrant options.grants plan.requiredGrants with
  | some missing =>
      rw [hmissing] at h
      cases h
      exact Or.inl ⟨missing, rfl, rfl⟩
  | none =>
      rw [hmissing] at h
      rcases Eff.bind_ok h with ⟨t, hrun, h⟩
      cases h
      exact Or.inr ⟨rfl, t, hrun, rfl⟩

/-- The numbers of a campaign are those of the cases it has executed exactly
    when it may fail at least once, has no cases, or lacks a grant. -/
theorem campaign_accounted_iff {plan : ConformancePlan} {past : List Event}
    {o : ConformanceObservation}
    (h : (invokeConformance lib world plans plan options past).1 = .ok o) :
    CampaignAccounted lib world plans options plan past o ↔
      0 < plan.maxFailures ∨ plan.cases = [] ∨ ¬ ∀ g ∈ plan.requiredGrants, g ∈ options.grants := by
  rcases invokeConformance_ok h with ⟨missing, hmissing, rfl⟩ | ⟨hgrants, t, hrun, rfl⟩
  · -- A campaign that lacks a grant executes nothing and is denied.
    refine iff_of_true ⟨[], trivial, ?_⟩ (Or.inr (Or.inr (fun hall => ?_)))
    · exact
        { order := List.nil_prefix
          records := .nil
          count := rfl
          total := rfl
          transport := Nat.le_refl 0
          bounded := Nat.zero_le _
          within := Nat.zero_le _
          generated := rfl
          complete := fun hexit _ => nomatch hexit
          denied := fun ⟨_, hx, _⟩ => absurd hx List.not_mem_nil }
    · rw [missingGrant_eq_none.mpr hall] at hmissing
      cases hmissing
  rw [missingGrant_eq_none] at hgrants
  rcases runCases_accounts (tally_start_accounts _) hrun with ⟨executed, hran, hacc, horder, hend⟩
  rw [List.nil_append] at hacc
  constructor
  · rintro ⟨executed', _, haccounted⟩
    by_contra hnone
    simp only [not_or, not_not, Nat.not_lt, Nat.le_zero] at hnone
    rcases hnone with ⟨hzero, hcases, _⟩
    -- The loop stops before the first case, and nothing has failed.
    have hstart : t = Tally.start := by
      rcases hlist : plan.cases with _ | ⟨case, rest⟩
      · exact absurd hlist hcases
      · rw [hlist, hzero] at hrun
        unfold runCases at hrun
        rw [if_pos (Nat.zero_le _)] at hrun
        exact (Except.ok.inj hrun).symm
    subst hstart
    have hcomplete := (haccounted.complete rfl rfl).1
    have hlength : 0 = plan.cases.length := hcomplete
    exact hcases (List.length_eq_zero_iff.mp hlength.symm)
  · intro hcondition
    refine ⟨executed, hran, campaignObservation_accounted hacc horder hend ?_⟩
    exact hcondition.imp_right (fun hrest => hrest.resolve_right (fun hno => hno hgrants))

end

/-- A request that no grant of a campaign lets out. -/
def campaignRequest : RequestPlan :=
  { protocol := PROTOCOL
    kind := "plan"
    version := VERSION
    configFingerprint := "b3:configuration"
    policyFingerprint := "b3:policy"
    sourceFingerprints := []
    id := []
    operation := "op:list-items"
    target := "https://api.example.com/items"
    method := "GET"
    risk := .read
    requiredGrants := ["net:api.example.com:443"]
    secretRefs := []
    headers := []
    auth := none
    body := none
    checks := []
    responseContract := .null
    sensitiveHeaders := []
    redactResponseJsonPointers := []
    derivations := []
    valid := true
    fingerprint := []
    exit := 0 }

/-- The case of that request. -/
def campaignCase : ConformanceCasePlan :=
  { caseId := "case:1"
    generation := .positive
    strategy := "schema-valid:1"
    plan := "plan:1"
    planFingerprint := (campaignRequest.sealed referenceCrates).fingerprint
    requestDigest := requestDigest referenceCrates (campaignRequest.sealed referenceCrates) }

/-- A sealed campaign of one case. -/
def smallCampaign (maxFailures : Nat) : ConformancePlan :=
  ({ protocol := PROTOCOL
     kind := "conformance-plan"
     version := VERSION
     configFingerprint := "b3:configuration"
     policyFingerprint := "b3:policy"
     sourceFingerprints := []
     id := []
     operation := "op:list-items"
     seed := 0
     requestedCases := 1
     delayMs := 0
     maxFailures := maxFailures
     cases := [campaignCase]
     risk := .read
     requiredGrants := ["conformance:execute:1"]
     fingerprint := []
     exit := 0 } : ConformancePlan).sealed referenceCrates

def campaignOptions : InvokeOptions :=
  { InvokeOptions.default with grants := ["conformance:execute:1"] }

/-- A store that holds that request. -/
def campaignStore (_ : List Event) (_ : Str) : Option RequestPlan :=
  some (campaignRequest.sealed referenceCrates)

/-- A sealed campaign whose grants are held goes on to its cases. -/
theorem invokeConformance_of_run {world : World} {plans : List Event → Str → Option RequestPlan}
    {plan : ConformancePlan} {options : InvokeOptions} {past : List Event} {t : Tally}
    (hseal : plan.verifySeal referenceCrates = true)
    (hconfig : options.expectedConfigFingerprint = none)
    (hpolicy : options.expectedPolicyFingerprint = none)
    (hgrants : missingGrant options.grants plan.requiredGrants = none)
    (h : (runCases referenceCrates world plans plan.maxFailures options plan.cases Tally.start
      past).1 = .ok t) :
    (invokeConformance referenceCrates world plans plan options past).1 =
      .ok (campaignObservation plan t) := by
  unfold invokeConformance
  simp only [hseal, hconfig, hpolicy, hgrants, ensure, if_true, Eff.ofExcept_bind, Option.all_none,
    Bool.and_self]
  exact congrArg Prod.fst (Eff.bind_of_ok h)

/-- A campaign that stops before its first case says it has passed. -/
theorem campaign_unaccounted :
    ∃ o, (invokeConformance referenceCrates referenceWorld campaignStore (smallCampaign 0)
        campaignOptions []).1 = .ok o ∧ o.outcome = .passed ∧ o.exit = 0 ∧ o.executed = 0 ∧
      o.generated = 1 ∧ ¬ CampaignAccounted referenceCrates referenceWorld campaignStore
        campaignOptions (smallCampaign 0) [] o := by
  refine ⟨_, invokeConformance_of_run (ConformancePlan.verifySeal_sealed _ _) rfl rfl rfl rfl, rfl, rfl, rfl, rfl, fun haccounted => ?_⟩
  rcases haccounted with ⟨executed, _, haccounted⟩
  exact absurd (haccounted.complete rfl rfl).1 (by decide)

/-! ### A campaign of two cases -/

section

variable {case : ConformanceCasePlan} {request : RequestPlan}
  {plans : List Event → Str → Option RequestPlan} {world : World} {options : InvokeOptions}
  {past : List Event}

/-- The loop goes on with the result of a case. -/
theorem runCases_cons {lib : Crates} {maxFailures : Nat} {rest : List ConformanceCasePlan} {t : Tally}
    {result : CaseResult} {evidence : Str} (hroom : t.failed < maxFailures)
    (hexecuted : (executeCase lib world plans options case past).1 = .ok (result, evidence)) :
    (runCases lib world plans maxFailures options (case :: rest) t past).1 =
      (runCases lib world plans maxFailures options rest (t.add case result evidence)
        (past ++ (executeCase lib world plans options case past).2)).1 := by
  rw [runCases, if_neg (Nat.not_le.mpr hroom), Eff.bind_of_ok hexecuted]

/-- A case whose request is stored as it was sealed is loaded. -/
theorem loadCase_sealed (hstored : plans past case.plan = some (request.sealed referenceCrates))
    (hprint : (request.sealed referenceCrates).fingerprint = case.planFingerprint)
    (hdigest : requestDigest referenceCrates (request.sealed referenceCrates) =
      case.requestDigest) :
    loadCase referenceCrates plans case past = (.ok (request.sealed referenceCrates), []) := by
  have hseal : (request.sealed referenceCrates).verifySeal referenceCrates = true :=
    RequestPlan.verifySeal_sealed _ _
  unfold loadCase
  rw [Eff.past_bind, hstored]
  simp only [hseal, hprint, hdigest, decide_true, Bool.and_self, ensure, if_true,
    Eff.ofExcept_bind]
  rfl

/-- A case that loads is executed, and what it ends with is what its request
    returns. -/
theorem executeCase_loaded {result : InvocationResult}
    (hload : loadCase referenceCrates plans case past = (.ok request, []))
    (hinvoke : (invoke referenceCrates world request options past).1 = .ok result)
    (hwrite : ∀ past record, world.write past record = .ok ()) :
    ∃ evidence, (executeCase referenceCrates world plans options case past).1 =
      .ok (.returned result, evidence) := by
  -- The plan is loaded and invoked, and each record is stored.
  have hattempt : ((invoke referenceCrates world request options).attempt past) =
      ((.ok (.ok result) : Except ConformanceError _),
        (invoke referenceCrates world request options past).2) := by
    unfold Eff.attempt
    rw [hinvoke]
  unfold executeCase
  rw [Eff.bind_of_ok (congrArg Prod.fst hload), hload, List.append_nil,
    Eff.bind_of_ok (congrArg Prod.fst hattempt)]
  have hput (kind : Str) (value : Value) (later : List Event) :
      (((putJson world referenceCrates kind value true).mapError ConformanceError.evidence) later).1 =
        .ok (shortHandle referenceCrates kind
          [(⟨kind, "application/json", .json value, true⟩ : Record).content.data]) := by
    unfold putJson Eff.mapError
    rw [put_of_write world (hwrite _ _)]
    rfl
  dsimp only
  exact ⟨_, congrArg Prod.fst (Eff.bind_of_ok (hput _ _ _))⟩

end

/-- The request of the items of another host. -/
def otherRequest : RequestPlan :=
  { campaignRequest with
    target := "https://other.example.com/items"
    requiredGrants := ["net:other.example.com:443"] }

/-- A case of a request. -/
def caseOf (caseId plan : String) (request : RequestPlan) : ConformanceCasePlan :=
  { campaignCase with
    caseId := caseId
    plan := plan
    planFingerprint := (request.sealed referenceCrates).fingerprint
    requestDigest := requestDigest referenceCrates (request.sealed referenceCrates) }


/-- A campaign of two cases, which may fail twice. -/
def pairCampaign : ConformancePlan :=
  { smallCampaign 2 with
    requestedCases := 2
    cases := [caseOf "case:1" "plan:1" campaignRequest, caseOf "case:2" "plan:2" otherRequest] }

/-- The same campaign, sealed. -/
def sealedPair : ConformancePlan := pairCampaign.sealed referenceCrates

/-- The grants of the campaign and of the first host. -/
def pairOptions : InvokeOptions :=
  { InvokeOptions.default with
    grants := ["conformance:execute:1".toList, "http:GET".toList,
      "net:api.example.com:443".toList] }

/-- A store that holds both requests. -/
def pairStore (_ : List Event) (handle : Str) : Option RequestPlan :=
  if handle = "plan:1".toList then some (campaignRequest.sealed referenceCrates)
  else some (otherRequest.sealed referenceCrates)

/-- An outside where every server answers with an empty list. -/
def listingWorld : World :=
  { referenceWorld with
    resolve := fun _ _ port => .ok [⟨.v4 ⟨93, 184, 216, 34⟩, port⟩]
    exchange := fun _ _ => .ok
      { status := 200
        version := .http11
        headers := []
        body := .ok (utf8 "[]") } }

/-- The first request is answered. -/
theorem invoke_listing : ∃ result, (invoke referenceCrates listingWorld
      (campaignRequest.sealed referenceCrates) pairOptions []).1 = .ok result ∧
    (CaseResult.returned result).isDenied = false ∧
    ((CaseResult.returned result).verdict .positive).1 = true := by
  have hgrants : ∀ g ∈ (campaignRequest.sealed referenceCrates).requiredGrants,
      g ∈ pairOptions.grants := by decide
  have hparsed : (referenceCrates.parseUrl "https://api.example.com/items").toOption.map
      (fun target => ((invokeTarget referenceCrates listingWorld
        (campaignRequest.sealed referenceCrates) pairOptions target []).1.toOption.map
          (fun result => ((CaseResult.returned result).isDenied,
            ((CaseResult.returned result).verdict .positive).1)))) =
        some (some (false, true)) := by
    decide +kernel
  rcases Option.map_eq_some_iff.mp hparsed with ⟨target, hparse, hrun⟩
  rcases exists_ok_of_toOption hrun with ⟨result, hok, hresult⟩
  rw [Prod.mk.injEq] at hresult
  refine ⟨result, ?_, hresult⟩
  rw [invoke_of_admitted (admitted_of_granted (RequestPlan.verifySeal_sealed _ _) rfl rfl hgrants
    (toOption_eq_some.mp hparse))]
  exact hok

/-- The second one is denied, whatever happened before. -/
theorem invoke_other (past : List Event) : ∃ denial,
    (invoke referenceCrates listingWorld (otherRequest.sealed referenceCrates) pairOptions past).1 =
      .ok (.denied denial) := by
  have hseal : (otherRequest.sealed referenceCrates).verifySeal referenceCrates = true :=
    RequestPlan.verifySeal_sealed _ _
  have hmissing : missingGrant pairOptions.grants (otherRequest.sealed referenceCrates).requiredGrants =
      some "net:other.example.com:443".toList := by decide
  have hadmitted : ∃ denial, admitted referenceCrates (otherRequest.sealed referenceCrates) pairOptions =
      .ok (.error denial) := by
    unfold admitted
    rw [hseal, hmissing]
    exact ⟨_, rfl⟩
  rcases hadmitted with ⟨denial, hadmitted⟩
  refine ⟨denial, ?_⟩
  unfold invoke prepare
  rw [hadmitted]
  rfl

/-- The first case passes, the second is denied: two cases are reported, one
    of them failed, and the campaign ends with the exit of a denial. -/
theorem campaign_accounted_pair :
    ∃ o, (invokeConformance referenceCrates listingWorld pairStore sealedPair pairOptions []).1 =
        .ok o ∧
      o.executed = 2 ∧ o.passed = 1 ∧ o.failed = 1 ∧ o.exit = 4 ∧
      CampaignAccounted referenceCrates listingWorld pairStore pairOptions sealedPair [] o := by
  have hwrite : ∀ past record, listingWorld.write past record = .ok () := fun _ _ => rfl
  -- The first case is invoked and passes, the second one is denied.
  rcases invoke_listing with ⟨first, hfirst, hnotDenied, hpassed⟩
  rcases @executeCase_loaded (caseOf "case:1" "plan:1" campaignRequest) _ pairStore listingWorld
    pairOptions [] first (loadCase_sealed rfl rfl rfl) hfirst hwrite with ⟨evidence, hone⟩
  have htwo (past : List Event) : ∃ denial evidence,
      (executeCase referenceCrates listingWorld pairStore pairOptions
        (caseOf "case:2" "plan:2" otherRequest) past).1 = .ok (.returned (.denied denial), evidence) := by
    rcases invoke_other past with ⟨denial, hdenied⟩
    exact ⟨denial, executeCase_loaded (loadCase_sealed rfl rfl rfl) hdenied hwrite⟩
  rcases htwo ([] ++ (executeCase referenceCrates listingWorld pairStore pairOptions
    (caseOf "case:1" "plan:1" campaignRequest) []).2) with ⟨denial, evidence', htwo⟩
  have hadded : Tally.start.add (caseOf "case:1" "plan:1" campaignRequest) (.returned first) evidence =
      ⟨[caseRecord (caseOf "case:1" "plan:1" campaignRequest) (.returned first) evidence], 1, 0, 0,
        false⟩ := by
    have hverdict : ((CaseResult.returned first).verdict
        (caseOf "case:1" "plan:1" campaignRequest).generation).1 = true := hpassed
    unfold Tally.add
    rw [hverdict, hnotDenied]
    rfl
  -- The run is these two steps of the loop.
  have hrun : (runCases referenceCrates listingWorld pairStore sealedPair.maxFailures pairOptions
      sealedPair.cases Tally.start []).1 =
        .ok ((⟨[caseRecord (caseOf "case:1" "plan:1" campaignRequest) (.returned first) evidence], 1,
          0, 0, false⟩ : Tally).add (caseOf "case:2" "plan:2" otherRequest)
            (.returned (.denied denial)) evidence') := by
    change (runCases _ _ _ _ _ [caseOf "case:1" "plan:1" campaignRequest,
      caseOf "case:2" "plan:2" otherRequest] _ _).1 = _
    rw [runCases_cons Nat.two_pos hone, hadded, runCases_cons Nat.two_pos htwo]
    rfl
  have hobserved := @invokeConformance_of_run _ _ sealedPair _ _ _
    (ConformancePlan.verifySeal_sealed _ _) rfl rfl rfl hrun
  exact ⟨_, hobserved, rfl, rfl, rfl, rfl, (campaign_accounted_iff hobserved).mpr
    (Or.inl Nat.two_pos)⟩


end Kahea
