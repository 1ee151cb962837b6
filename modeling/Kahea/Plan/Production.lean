import Kahea.Core.Reference
import Kahea.Plan.Request

/-!
# Production Writes

When a plan for a write to production asks for the approval of production
writes.

The approval is listed for one reason only (`mem_requiredGrants_approval`): a
server configured as production serves the target by the comparison of the
HTTP planner, which compares texts. The comparison of the WebSocket planner
parses the configured URL, and accepts every spelling of it. The two agree
exactly where the configured text, without trailing slashes, is the origin of
the target as the URL parser writes it: a base path, an explicit default port,
an upper-case letter or a WebSocket scheme in the configuration makes the
approval disappear.

## Main definitions

* `plannedTarget`: The target URL of a plan.
* `ApprovesProductionWrites`: Every production server of the target is noticed.
* `SpelledAsOrigin`: Some production server is configured by the target's
  origin.

## Theorems

* `mem_requiredGrants_approval`: When the approval is listed.
* `approvesProductionWrites_iff`: The approval of a write to production.
-/

namespace Kahea

def productionApproval : Str := "approve:production-write"

/-- The target URL a plan is made for. -/
def plannedTarget (lib : Crates) (world : World) (source : OpenApiSource)
    (operation : OperationDefinition) (options : PlanOptions)
    (configuration : ProjectConfiguration) (past : List Event) : Option Url :=
  (planParts lib world source operation options configuration past).1.toOption.map
    PlanParts.target

/-- Every configured production server with the scheme, host and port of the
    target makes the grants ask for the approval. -/
def ApprovesProductionWrites (lib : Crates) (configuration : ProjectConfiguration) (target : Url)
    (grants : List Str) : Prop :=
  ∀ entry ∈ configuration.servers, configuredServerMatchesTarget lib entry.2 target = true →
    productionApproval ∈ grants

/-- When a production server has the scheme, host and port of the target, one
    of the production servers is configured by the text of its origin. -/
def SpelledAsOrigin (lib : Crates) (configuration : ProjectConfiguration) (target : Url) : Prop :=
  (∃ entry ∈ configuration.servers, configuredServerMatchesTarget lib entry.2 target = true) →
    ∃ entry ∈ configuration.servers, servesOrigin entry.2 target = true ∧
      isProduction entry.2 = true

/-! ### The other grants -/

theorem head_targetGrants {target : Url} {host method : Str} {port : Nat} {g : Str}
    (h : g ∈ targetGrants target host port method) : g.head? ≠ some 'a' := by
  unfold targetGrants at h
  simp only [List.mem_append, List.mem_cons, List.not_mem_nil, or_false] at h
  rcases h with ((rfl | rfl) | h) | h
  · exact (by decide : some 'n' ≠ some 'a')
  · exact (by decide : some 'h' ≠ some 'a')
  · unfold insecureGrants at h
    split_ifs at h
    · rw [List.mem_singleton.mp h]
      decide
    · exact absurd h List.not_mem_nil
  · unfold literalGrants at h
    split at h
    · split_ifs at h
      · rw [List.mem_singleton.mp h]
        unfold cidrGrant
        split <;> exact (by decide : some 'n' ≠ some 'a')
      · exact absurd h List.not_mem_nil
    · exact absurd h List.not_mem_nil

theorem head_authGrants {lib : Crates} {auth : Option PlannedAuth} {grants : List Str}
    (hg : authGrants lib auth = .ok grants) {g : Str} (h : g ∈ grants) : g.head? ≠ some 'a' := by
  unfold authGrants at hg
  split at hg
  · cases hg
    exact absurd h List.not_mem_nil
  rename_i auth
  simp only [except_bind_ok, except_pure_ok] at hg
  rcases hg with ⟨token, htoken, rfl⟩
  -- None of the words these grants begin with has the letter of the approval.
  rcases List.mem_append.mp h with h | h
  · unfold credentialGrants at h
    rcases List.mem_cons.mp h with rfl | h
    · exact (by decide : some 's' ≠ some 'a')
    · split_ifs at h
      · rw [List.mem_singleton.mp h]
        exact (by decide : some 't' ≠ some 'a')
      · exact absurd h List.not_mem_nil
  · unfold tokenGrants at htoken
    split at htoken
    · cases htoken
      exact absurd h List.not_mem_nil
    split at htoken
    · cases htoken
    simp only [except_bind_ok, except_pure_ok] at htoken
    rcases htoken with ⟨hostPort, _, rfl⟩
    simp only [List.mem_append, List.mem_cons, List.not_mem_nil, or_false] at h
    rcases h with (rfl | rfl) | h
    · exact (by decide : some 'n' ≠ some 'a')
    · decide
    · unfold insecureGrants at h
      split_ifs at h
      · rw [List.mem_singleton.mp h]
        decide
      · exact absurd h List.not_mem_nil

/-- The approval is listed exactly for a write of a configured production
    server, by the comparison of texts. -/
theorem mem_requiredGrants_approval {lib : Crates} {configuration : ProjectConfiguration}
    {operation : OperationDefinition} {target : Url} {host : Str} {port : Nat}
    {auth : Option PlannedAuth} {grants : List Str}
    (h : requiredGrants lib configuration operation target host port auth = .ok grants) :
    productionApproval ∈ grants ↔ targetsProduction configuration target = true ∧
      configuration.policy.requireProductionWriteApproval = true ∧
      (effectiveRisk operation configuration).writes = true := by
  rcases mem_requiredGrants h with ⟨credentials, hcredentials, hmem⟩
  -- Of the three groups of grants only this one can have it.
  have happroval : productionApproval ∈ approvalGrants configuration
      (effectiveRisk operation configuration) (targetsProduction configuration target) ↔
      (targetsProduction configuration target &&
        configuration.policy.requireProductionWriteApproval &&
        (effectiveRisk operation configuration).writes) = true := by
    unfold approvalGrants
    rw [List.mem_append]
    constructor
    · rintro (h | h)
      · split_ifs at h
        · exact absurd (List.mem_singleton.mp h) (by decide)
        · exact absurd h List.not_mem_nil
      · split_ifs at h with hcond
        · exact hcond
        · exact absurd h List.not_mem_nil
    · intro hcond
      rw [if_pos hcond]
      exact Or.inr (List.mem_singleton_self _)
  rw [hmem, happroval]
  simp only [Bool.and_eq_true]
  -- No other grant begins as the approval does.
  constructor
  · rintro ((h | h) | h)
    · exact absurd rfl (head_targetGrants h)
    · exact ⟨h.1.1, h.1.2, h.2⟩
    · exact absurd rfl (head_authGrants hcredentials h)
  · exact fun h => Or.inl (Or.inr ⟨⟨h.1, h.2.1⟩, h.2.2⟩)

section

variable {lib : Crates} {world : World} {source : OpenApiSource} {operation : OperationDefinition}
  {options : PlanOptions} {configuration : ProjectConfiguration}

/-- A plan for a write asks for the approval of every production server of its
    target exactly when one of them is configured by the text of the target's
    origin. -/
theorem approvesProductionWrites_iff {past : List Event} {plan : RequestPlan} {target : Url}
    (hrequire : configuration.policy.requireProductionWriteApproval = true)
    (hrisk : (effectiveRisk operation configuration).writes = true)
    (hplan : (buildPlanWithConfiguration lib world source operation options configuration past).1
      = .ok plan)
    (htarget : plannedTarget lib world source operation options configuration past = some target) :
    plan.target = target.serialize ∧
      (ApprovesProductionWrites lib configuration target plan.requiredGrants ↔
        SpelledAsOrigin lib configuration target) := by
  rcases buildPlanWithConfiguration_ok hplan with ⟨parts, hparts, hsound, rfl⟩
  -- The target of the statement is the one the plan was made for.
  have heq : parts.target = target := by
    simpa only [plannedTarget, hparts, Except.toOption, Option.map_some, Option.some.injEq]
      using htarget
  subst heq
  refine ⟨rfl, ?_⟩
  have hmem := mem_requiredGrants_approval hsound.grants
  -- The planner compares the text of a production server with the origin of the target.
  have hproduction : targetsProduction configuration parts.target = true ↔
      ∃ entry ∈ configuration.servers, servesOrigin entry.2 parts.target = true ∧
        isProduction entry.2 = true := by
    simp only [targetsProduction, List.any_eq_true, Bool.and_eq_true]
  -- With the flag and the risk given, that comparison decides.
  have hgrants : productionApproval ∈ parts.grants ↔
      ∃ entry ∈ configuration.servers, servesOrigin entry.2 parts.target = true ∧
        isProduction entry.2 = true := by
    rw [hmem, ← hproduction]
    exact ⟨fun h => h.1, fun h => ⟨h, hrequire, hrisk⟩⟩
  constructor
  · rintro happroves ⟨entry, hentry, hmatch⟩
    exact hgrants.mp (happroves entry hentry hmatch)
  · intro hspelled entry hentry hmatch
    exact hgrants.mpr (hspelled ⟨entry, hentry, hmatch⟩)

end

/-! ### A base path in the configuration -/

/-- A source with one operation that creates an item. -/
def itemsSource : OpenApiSource :=
  { document := jsonObject [("openapi", .string "3.1.0"),
      ("paths", jsonObject [("/items", jsonObject [("post", jsonObject [])])])]
    sourceFingerprint := "b3:items"
    sourceHandle := "src:items" }

def createItem : OperationDefinition :=
  { handle := "op:create-item"
    method := "POST"
    path := "/items"
    operationId := []
    risk := .write
    pathItem := [("post", jsonObject [])]
    operation := []
    path_slash := rfl }

/-- A configuration with one production server. -/
def productionConfiguration (url : Str) : ProjectConfiguration :=
  { ProjectConfiguration.default with
    version := 1
    servers := [("prod", ⟨url, some "production".toList⟩)] }

/-- The selection of the production server. -/
def productionOptions : PlanOptions := { PlanOptions.default with server := some "prod".toList }

/-- A write through a production server with a base path is planned without
    the approval. -/
theorem approvesProductionWrites_base_path :
    ∃ plan target, (buildPlanWithConfiguration referenceCrates referenceWorld itemsSource
        createItem productionOptions (productionConfiguration "https://api.example.com/v1") []).1
        = .ok plan ∧
      plannedTarget referenceCrates referenceWorld itemsSource createItem productionOptions
        (productionConfiguration "https://api.example.com/v1") [] = some target ∧
      plan.risk = .write ∧
      ¬ ApprovesProductionWrites referenceCrates
        (productionConfiguration "https://api.example.com/v1") target plan.requiredGrants := by
  -- The plan and its target.
  have hplan : (buildPlanWithConfiguration referenceCrates referenceWorld itemsSource
      createItem productionOptions (productionConfiguration "https://api.example.com/v1")
      []).1.toOption.map (fun p => (p.risk, p.requiredGrants.contains productionApproval))
      = some (.write, false) := by decide +kernel
  have htarget : (plannedTarget referenceCrates referenceWorld itemsSource createItem
      productionOptions (productionConfiguration "https://api.example.com/v1") []).map
      (configuredServerMatchesTarget referenceCrates
        ⟨"https://api.example.com/v1", some "production".toList⟩) = some true := by
    decide +kernel
  rcases exists_ok_of_toOption hplan with ⟨plan, hok, hgrants⟩
  rcases Option.map_eq_some_iff.mp htarget with ⟨target, hsome, hmatch⟩
  rw [Prod.mk.injEq] at hgrants
  refine ⟨plan, target, hok, hsome, hgrants.1, fun happroves => ?_⟩
  -- The approval is required by the claim, and the plan does not have it.
  have hmem := happroves _ List.mem_cons_self hmatch
  rw [← List.contains_iff_mem, hgrants.2] at hmem
  exact Bool.false_ne_true hmem

/-- The server configured by its origin is noticed. -/
theorem approvesProductionWrites_origin :
    ∃ plan target, (buildPlanWithConfiguration referenceCrates referenceWorld itemsSource
        createItem productionOptions (productionConfiguration "https://api.example.com/") []).1
        = .ok plan ∧
      ApprovesProductionWrites referenceCrates
        (productionConfiguration "https://api.example.com/") target plan.requiredGrants := by
  have hplan : (buildPlanWithConfiguration referenceCrates referenceWorld itemsSource
      createItem productionOptions (productionConfiguration "https://api.example.com/")
      []).1.toOption.map (fun _ => ()) = some () := by decide +kernel
  have htarget : (plannedTarget referenceCrates referenceWorld itemsSource createItem
      productionOptions (productionConfiguration "https://api.example.com/") []).map
      (fun t => servesOrigin ⟨"https://api.example.com/", some "production".toList⟩ t)
      = some true := by decide +kernel
  rcases exists_ok_of_toOption hplan with ⟨plan, hok, _⟩
  rcases Option.map_eq_some_iff.mp htarget with ⟨target, hsome, hserves⟩
  exact ⟨plan, target, hok, (approvesProductionWrites_iff rfl rfl hok hsome).2.mpr
    (fun _ => ⟨_, List.mem_cons_self, hserves, rfl⟩)⟩

end Kahea
