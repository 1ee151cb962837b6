import Kahea.Base.Twins
import Kahea.Mcp.Server

/-!
# Plans that Do Not Resolve

What a client learns of the store from a plan handle that resolves to nothing.

A handle may name no file, a file outside the store, a text that is no plan, or a
plan whose seal does not verify. Every load answers all of these with one error,
so that the answer says nothing of the disk. But an invocation looks for the file
first and loads the plan last, and checks its other inputs in between. So a call
whose other inputs are not in order does tell whether there is a file, and no
other call does: `unresolved_iff`.

The run of a server follows: with two stores that differ only in why handles do
not resolve, a client that keeps its other inputs in order sees the same lines,
whatever it asks for (`serveStdio_twins`). Opening the evidence, which a call may
come to for one store and not for the other, is not seen by anyone.

## Main definitions

* `PlanFiles`, `Unresolved`: The plans of a store, and a handle without one.
* `AlikeFiles`: Two stores that differ only in why handles do not resolve.
* `otherInputs`: The checks of an invocation that are not about its plan.
* `AlikeServers`: Two servers with such stores.

## Theorems

* `toolInvoke_unresolved`: What an invocation without a plan is answered.
* `unresolved_iff`: When two such answers are the same.
* `serveStdio_twins`: Two servers with alike stores answer alike.
-/

namespace Kahea

/-- What a backend knows of the plans in the store. -/
structure PlanFiles where
  path : Str → Option Str
  kind : Str → Option Str
  load : PlanKind → Str → Option StoredPlan

/-- What the backend finds of plans. -/
def Backend.files (b : Backend) : PlanFiles := ⟨b.planPath, b.planKind, b.load⟩

/-- The same backend with other plans in the store. -/
def Backend.withFiles (b : Backend) (files : PlanFiles) : Backend :=
  { b with planPath := files.path, planKind := files.kind, load := files.load }

/-- The kind of plan a resource is loaded as, by what the store knows. -/
def PlanFiles.resourceKind (files : PlanFiles) (handle : Str) : PlanKind :=
  if startsWith "workflow-plan:" handle then .workflow
  else if startsWith "conformance-plan:" handle then .conformance
  else if files.kind handle = some "websocket-plan".toList then .webSocket
  else .request

/-- A handle that names no plan, for an invocation and as a resource. -/
structure Unresolved (files : PlanFiles) (handle : Str) : Prop where
  invoked : ∀ path, files.path handle = some path →
    files.load (invokedKind (files.kind path)) path = none
  read : files.load (files.resourceKind handle) handle = none

/-- Two stores have the same file for a handle. -/
structure SameFile (p q : PlanFiles) (handle : Str) : Prop where
  path : p.path handle = q.path handle
  kind : p.kind handle = q.kind handle
  load : ∀ kind, p.load kind handle = q.load kind handle
  invoked : ∀ path, p.path handle = some path →
    p.kind path = q.kind path ∧ ∀ kind, p.load kind path = q.load kind path

/-- Two stores that differ only in why handles do not resolve. -/
def AlikeFiles (p q : PlanFiles) : Prop :=
  ∀ handle, SameFile p q handle ∨ Unresolved p handle ∧ Unresolved q handle

/-! ### One invocation -/

/-- The first error, or that there is no plan. -/
def refusal : Except McpError Unit → McpError
  | .error e => e
  | .ok _ => planLoadError

section

variable (b : Backend)

/-- The last checks of an invocation that are not about its plan. -/
def lateInputs (arguments : Value) (secrets : List (Str × Str))
    (configuration : ProjectConfiguration) : Except McpError Unit := do
  b.evidence.mapError .operation
  let _ ← invocationOptions b arguments none secrets configuration
  pure ()

/-- All these checks, in their order. -/
def otherInputs (arguments : Value) : Except McpError Unit := do
  let secrets ← resolveSecretEnv b (arguments.get "secret_env")
  let configuration ← b.configuration.mapError .operation
  lateInputs b arguments secrets configuration

/-- The error of an invocation whose handle names no plan: without a file the other
    inputs are not looked at. -/
def unresolvedError (files : PlanFiles) (handle : Str) (arguments : Value) : McpError :=
  (files.path handle).elim planLoadError (fun _ => refusal (otherInputs b arguments))

end

/-- Opening the evidence is not seen. -/
def opensEvidence : ToolEvent → Bool
  | .openedEvidence => true
  | _ => false

section

variable {b : Backend}

/-- The kind of the plan decides nothing but a fingerprint. -/
theorem invocationOptions_kind (b : Backend) (arguments : Value) (kind : Option Str)
    (secrets : List (Str × Str)) (configuration : ProjectConfiguration) :
    ∃ policy, invocationOptions b arguments kind secrets configuration =
      (invocationOptions b arguments none secrets configuration).map
        (fun o => { o with expectedPolicyFingerprint := policy }) := by
  refine ⟨some (if kind = some "websocket-plan".toList
    then configuration.websocketPolicyFingerprint b.lib
    else configuration.policyFingerprint b.lib), ?_⟩
  unfold invocationOptions
  cases stringValues arguments "grants" with
  | error e => rfl
  | ok grants =>
      cases configuration.configFingerprint b.lib with
      | error e => rfl
      | ok fingerprint => rfl

theorem openEvidence_run (past : List ToolEvent) :
    openEvidence b past = (b.evidence.mapError .operation, [.openedEvidence]) := rfl

/-- What is left of an invocation after its first inputs are read. -/
def invokeFound (b : Backend) (arguments : Value) (path : Str) (secrets : List (Str × Str))
    (configuration : ProjectConfiguration) : Eff ToolEvent McpError Value := do
  openEvidence b
  let options ← Eff.ofExcept
    (invocationOptions b arguments (b.planKind path) secrets configuration)
  let plan ← Eff.ofExcept (okOr planLoadError (b.load (invokedKind (b.planKind path)) path))
  (b.execute plan options configuration).mapError .operation

theorem toolInvoke_eq {arguments : Value} : toolInvoke b arguments =
    Eff.ofExcept (invocationInputs b arguments) >>= fun inputs =>
      invokeFound b arguments inputs.1 inputs.2.1 inputs.2.2 := rfl

/-- The evidence is opened, the options are read, and then there is no plan. -/
theorem invokeFound_unresolved {files : PlanFiles} {path : Str} (arguments : Value)
    (secrets : List (Str × Str)) (configuration : ProjectConfiguration)
    (h : files.load (invokedKind (files.kind path)) path = none) (past : List ToolEvent) :
    invokeFound (b.withFiles files) arguments path secrets configuration past =
      (.error (refusal (lateInputs b arguments secrets configuration)), [.openedEvidence]) := by
  have hopen := openEvidence_run (b := b.withFiles files) past
  unfold invokeFound lateInputs
  cases hevidence : b.evidence with
  | error e =>
      have herror : (openEvidence (b.withFiles files) past).1 = .error (.operation e) := by
        rw [hopen]
        exact congrArg (Except.mapError McpError.operation) hevidence
      rw [Eff.bind_of_error herror, hopen]
      rfl
  | ok u =>
  have hok : (openEvidence (b.withFiles files) past).1 = .ok u := by
    rw [hopen]
    exact congrArg (Except.mapError McpError.operation) hevidence
  rw [Eff.bind_of_ok hok, hopen]
  -- the options come last, and then the plan that is not there
  rcases invocationOptions_kind b arguments (files.kind path) secrets configuration with
    ⟨policy, hoptions⟩
  have hbackend : invocationOptions (b.withFiles files) arguments
      ((b.withFiles files).planKind path) secrets configuration =
        invocationOptions b arguments (files.kind path) secrets configuration := rfl
  rw [Eff.ofExcept_bind, hbackend, hoptions]
  cases invocationOptions b arguments none secrets configuration with
  | error e => rfl
  | ok options =>
      dsimp only [Except.map]
      have hnone : (b.withFiles files).load (invokedKind ((b.withFiles files).planKind path)) path =
          none := h
      rw [Eff.ofExcept_bind, hnone]
      rfl

/-- The inputs of an invocation begin with the path of its plan. -/
theorem invocationInputs_path {arguments : Value} {handle : Str}
    (hhandle : requiredString arguments "plan" = .ok handle)
    (hvalid : validatePlanReference handle = .ok ()) :
    invocationInputs b arguments = (do
      let path ← okOr planLoadError (b.planPath handle)
      let secrets ← resolveSecretEnv b (arguments.get "secret_env")
      let configuration ← b.configuration.mapError .operation
      pure (path, secrets, configuration)) := by
  unfold invocationInputs
  rw [hhandle]
  change (validatePlanReference handle >>= _) = _
  rw [hvalid]
  rfl

/-- An invocation without a plan ends with an error that the plan has no part in,
    and does nothing that is seen. -/
theorem toolInvoke_unresolved {files : PlanFiles} {arguments : Value} {handle : Str}
    (hhandle : requiredString arguments "plan" = .ok handle)
    (hvalid : validatePlanReference handle = .ok ()) (h : Unresolved files handle)
    (past : List ToolEvent) :
    (toolInvoke (b.withFiles files) arguments past).1 =
        .error (unresolvedError b files handle arguments) ∧
      shown opensEvidence (toolInvoke (b.withFiles files) arguments past).2 = [] := by
  have hinputs := invocationInputs_path (b := b.withFiles files) hhandle hvalid
  unfold unresolvedError
  rw [toolInvoke_eq, Eff.ofExcept_bind, hinputs]
  have hfiles : (b.withFiles files).planPath handle = files.path handle := rfl
  rw [hfiles]
  -- The path, the secrets and the configuration are read in the order of the code.
  cases hpath : files.path handle with
  | none => exact ⟨rfl, rfl⟩
  | some path =>
  have hsecrets : resolveSecretEnv (b.withFiles files) (arguments.get "secret_env") =
      resolveSecretEnv b (arguments.get "secret_env") := rfl
  have hconfiguration : (b.withFiles files).configuration = b.configuration := rfl
  unfold otherInputs
  rw [hsecrets, hconfiguration]
  cases resolveSecretEnv b (arguments.get "secret_env") with
  | error e => exact ⟨rfl, rfl⟩
  | ok secrets =>
  cases b.configuration with
  | error e => exact ⟨rfl, rfl⟩
  | ok configuration =>
  -- With all of them the evidence is opened, and then the plan is missing.
  have hrun := invokeFound_unresolved (b := b) arguments secrets configuration
    (h.invoked path hpath) past
  change (invokeFound (b.withFiles files) arguments path secrets configuration past).1 =
      .error (refusal (lateInputs b arguments secrets configuration)) ∧
    shown opensEvidence (invokeFound (b.withFiles files) arguments path secrets configuration past).2
      = []
  rw [hrun]
  exact ⟨rfl, rfl⟩

theorem spares_mapM {ε α β : Type} {bad : ε → Prop} {f : α → Except ε β}
    (hf : ∀ a, Spares bad (f a)) (l : List α) : Spares bad (l.mapM f) := by
  induction l with
  | nil => exact Spares.ok _
  | cons a rest ih =>
      rw [List.mapM_cons]
      exact Spares.bind (hf a) (fun _ => Spares.bind ih (fun _ => Spares.ok _))

theorem spares_okOr {ε α : Type} {bad : ε → Prop} {e : ε} (h : ¬ bad e) (o : Option α) :
    Spares bad (okOr e o) := by
  cases o with
  | none => exact Spares.error h
  | some a => exact Spares.ok a

/-- The error of every load. -/
def SaysNoPlan (e : McpError) : Prop := e = planLoadError

theorem operation_says {reason : Str} : ¬ SaysNoPlan (.operation reason) := nofun

/-- The secrets say nothing of the plan. -/
theorem spares_secrets (b : Backend) (value : Option Value) :
    Spares SaysNoPlan (resolveSecretEnv b value) := by
  have hnames : ¬ SaysNoPlan (.invalid "secret_env values must be environment variable names") := by
    unfold SaysNoPlan
    decide
  unfold resolveSecretEnv
  refine Spares.foldlM (fun secrets entry => ?_) _ _
  refine Spares.bind (spares_okOr hnames _) (fun source => ?_)
  exact Spares.bind (spares_okOr operation_says _) (fun secret => Spares.ok _)

/-- Neither do the options. -/
theorem spares_options (b : Backend) (arguments : Value) (kind : Option Str)
    (secrets : List (Str × Str)) (configuration : ProjectConfiguration) :
    Spares SaysNoPlan (invocationOptions b arguments kind secrets configuration) := by
  have hgrants : ¬ SaysNoPlan (.invalid ("grants" ++ " values must be strings")) := by
    unfold SaysNoPlan
    decide
  unfold invocationOptions
  refine Spares.bind ?_ (fun grants => Spares.bind (Spares.mapError (fun e => operation_says))
    (fun fingerprint => Spares.ok _))
  exact spares_mapM (fun item => spares_okOr hgrants _) _

/-- No other input fails with the error of a plan that is not there. -/
theorem spares_otherInputs (b : Backend) (arguments : Value) :
    Spares SaysNoPlan (otherInputs b arguments) := by
  unfold otherInputs
  refine Spares.bind (spares_secrets b _) (fun secrets => ?_)
  refine Spares.bind (Spares.mapError (fun e => operation_says)) (fun configuration => ?_)
  unfold lateInputs
  refine Spares.bind (Spares.mapError (fun e => operation_says)) (fun _ => ?_)
  exact Spares.bind (spares_options b arguments none secrets configuration) (fun _ => Spares.ok _)

end

/-! ### A handle without a file and one without a plan -/

/-- A store without files. -/
def missingFiles : PlanFiles := ⟨fun _ => none, fun _ => none, fun _ _ => none⟩

/-- A store whose files are no plans. -/
def brokenFiles : PlanFiles := ⟨some, fun _ => none, fun _ _ => none⟩

theorem unresolved_missing (handle : Str) : Unresolved missingFiles handle :=
  { invoked := fun _ h => by cases h
    read := rfl }

theorem unresolved_broken (handle : Str) : Unresolved brokenFiles handle :=
  { invoked := fun _ _ => rfl
    read := rfl }

/-- An invocation with a secret. -/
def secretArguments : Value :=
  jsonObject [("plan", .string "plan:0123456789ab"),
    ("secret_env", jsonObject [("token", .string "TOKEN")])]

/-- A backend without environment variables. -/
def bareBackend : Backend := { openBackend openFile with environment := fun _ => none }

/-- Two answers to an invocation without a plan are the same unless one store has a
    file for the handle, the other has none, and an input that is looked at in
    between is not in order. -/
theorem unresolved_iff (b : Backend) (p q : PlanFiles) (arguments : Value) (handle : Str)
    (past past' : List ToolEvent) (hhandle : requiredString arguments "plan" = .ok handle)
    (hvalid : validatePlanReference handle = .ok ()) (hp : Unresolved p handle)
    (hq : Unresolved q handle) :
    (toolInvoke (b.withFiles p) arguments past).1 = (toolInvoke (b.withFiles q) arguments past').1 ↔
      (p.path handle).isSome = (q.path handle).isSome ∨ otherInputs b arguments = .ok () := by
  rw [(toolInvoke_unresolved hhandle hvalid hp past).1,
    (toolInvoke_unresolved hhandle hvalid hq past').1, Except.error.injEq, unresolvedError,
    unresolvedError]
  have hspares := spares_otherInputs b arguments
  -- With the other inputs in order both answers are the same.
  cases hinputs : otherInputs b arguments with
  | ok u =>
      refine iff_of_true ?_ (Or.inr rfl)
      cases p.path handle <;> cases q.path handle <;> rfl
  -- Without, they differ by whether the path was found.
  | error e =>
      have hne := hspares e hinputs
      have hor : ¬ (Except.error e : Except McpError Unit) = .ok () := nofun
      rw [or_iff_left hor]
      cases p.path handle <;> cases q.path handle
      · exact iff_of_true rfl rfl
      · exact iff_of_false (fun h => hne h.symm) nofun
      · exact iff_of_false hne nofun
      · exact iff_of_true rfl rfl

/-- The variable of a secret is there, or it is not. -/
theorem unresolved_secret :
    (toolInvoke ((openBackend openFile).withFiles missingFiles) secretArguments []).1 =
      (toolInvoke ((openBackend openFile).withFiles brokenFiles) secretArguments []).1 ∧
    (toolInvoke (bareBackend.withFiles missingFiles) secretArguments []).1 ≠
      (toolInvoke (bareBackend.withFiles brokenFiles) secretArguments []).1 := by
  have hplan : requiredString secretArguments "plan" = .ok "plan:0123456789ab".toList := by
    decide +kernel
  have hvalid : validatePlanReference "plan:0123456789ab" = .ok () := by decide +kernel
  constructor
  · exact (unresolved_iff (openBackend openFile) _ _ secretArguments _ [] [] hplan hvalid
      (unresolved_missing _) (unresolved_broken _)).mpr (Or.inr rfl)
  · intro h
    rcases (unresolved_iff bareBackend _ _ secretArguments _ [] [] hplan hvalid
      (unresolved_missing _) (unresolved_broken _)).mp h with hfiles | hinputs
    · cases hfiles
    · have herror : (otherInputs bareBackend secretArguments).toOption = none := by decide +kernel
      rw [hinputs] at herror
      cases herror

/-! ### Two stores -/

/-- What the tools of a backend do depends on what has been seen only. -/
structure Blind (b : Backend) : Prop where
  store : ∀ plan requests, Twins opensEvidence (b.store plan requests) (b.store plan requests)
  execute : ∀ plan options configuration, Twins opensEvidence
    (b.execute plan options configuration) (b.execute plan options configuration)

section

variable {b : Backend} {q : PlanFiles}

/-- Opening the store shows nothing. -/
theorem openEvidence_twins :
    Twins opensEvidence (openEvidence b) (openEvidence (b.withFiles q)) :=
  .bind (.emit _) (fun _ => .ofExcept _)

/-- The inputs of an invocation are read alike when the file of its handle is found
    alike. -/
theorem invocationInputs_same (arguments : Value)
    (h : ∀ handle, requiredString arguments "plan" = .ok handle →
      validatePlanReference handle = .ok () → b.planPath handle = q.path handle) :
    invocationInputs (b.withFiles q) arguments = invocationInputs b arguments := by
  unfold invocationInputs
  cases hhandle : requiredString arguments "plan" with
  | error e => rfl
  | ok handle =>
      change (validatePlanReference handle >>= _) = (validatePlanReference handle >>= _)
      cases hvalid : validatePlanReference handle with
      | error e => rfl
      | ok u =>
          have hpath : (b.withFiles q).planPath handle = b.planPath handle :=
            (h handle hhandle hvalid).symm
          change (okOr planLoadError ((b.withFiles q).planPath handle) >>= _) =
            (okOr planLoadError (b.planPath handle) >>= _)
          rw [hpath]
          rfl

theorem planPath_of_invocationInputs {arguments : Value}
    {inputs : Str × List (Str × Str) × ProjectConfiguration}
    (h : invocationInputs b arguments = .ok inputs) :
    ∃ handle, requiredString arguments "plan" = .ok handle ∧
      validatePlanReference handle = .ok () ∧ b.planPath handle = some inputs.1 := by
  rcases except_bind_ok.mp h with ⟨handle, hhandle, h⟩
  rcases unit_bind_ok.mp h with ⟨hvalid, h⟩
  rcases except_bind_ok.mp h with ⟨path, hpath, h⟩
  rcases except_bind_ok.mp h with ⟨secrets, _, h⟩
  rcases except_bind_ok.mp h with ⟨configuration, _, h⟩
  cases h
  exact ⟨handle, hhandle, hvalid, okOr_ok.mp hpath⟩

/-- The tool that invokes a plan. -/
theorem toolInvoke_twins (hblind : Blind b) (hfiles : AlikeFiles b.files q) {arguments : Value}
    (hinputs : otherInputs b arguments = .ok ()) :
    Twins opensEvidence (toolInvoke b arguments) (toolInvoke (b.withFiles q) arguments) := by
  by_cases hnone : ∃ handle, requiredString arguments "plan" = .ok handle ∧
      validatePlanReference handle = .ok () ∧ Unresolved b.files handle ∧ Unresolved q handle
  · rcases hnone with ⟨handle, hhandle, hvalid, hb, hq⟩
    have herror : ∀ files : PlanFiles, unresolvedError b files handle arguments = planLoadError := by
      intro files
      unfold unresolvedError
      rw [hinputs]
      cases files.path handle <;> rfl
    intro past past' _
    rcases toolInvoke_unresolved (b := b) hhandle hvalid hb past with ⟨hresult, hevents⟩
    rcases toolInvoke_unresolved (b := b) hhandle hvalid hq past' with ⟨hresult', hevents'⟩
    rw [herror] at hresult hresult'
    exact ⟨hresult.trans hresult'.symm, hevents.trans hevents'.symm⟩
  · -- otherwise the two stores have the same file
    have hsame : ∀ handle, requiredString arguments "plan" = .ok handle →
        validatePlanReference handle = .ok () → SameFile b.files q handle :=
      fun handle hhandle hvalid => (hfiles handle).resolve_right
        (fun hboth => hnone ⟨handle, hhandle, hvalid, hboth⟩)
    have hread := invocationInputs_same (b := b) (q := q) arguments
      (fun handle hhandle hvalid => (hsame handle hhandle hvalid).path)
    rw [toolInvoke_eq, toolInvoke_eq, hread]
    refine .ofExcept_bind (fun inputs hok => ?_)
    rcases planPath_of_invocationInputs hok with ⟨handle, hhandle, hvalid, hpath⟩
    rcases (hsame handle hhandle hvalid).invoked inputs.1 hpath with ⟨hkind, hload⟩
    have hkind' : (b.withFiles q).planKind inputs.1 = b.planKind inputs.1 := hkind.symm
    have hload' : ∀ kind, (b.withFiles q).load kind inputs.1 = b.load kind inputs.1 :=
      fun kind => (hload kind).symm
    unfold invokeFound
    rw [hkind', hload']
    refine .bind openEvidence_twins (fun _ => .ofExcept_bind (fun options _ => ?_))
    exact .ofExcept_bind (fun plan _ => .mapError (hblind.execute plan options inputs.2.2))

/-- The resource of a plan. -/
theorem planResource_same (hfiles : AlikeFiles b.files q) (uri handle : Str) :
    planResource (b.withFiles q) uri handle = planResource b uri handle := by
  have hpath : (b.withFiles q).planPath handle = q.path handle := rfl
  have hload : (b.withFiles q).load (resourceKind (b.withFiles q) handle) handle =
      q.load (q.resourceKind handle) handle := rfl
  have hload' : b.load (resourceKind b handle) handle =
      b.files.load (b.files.resourceKind handle) handle := rfl
  unfold planResource
  rw [hpath, hload, hload']
  -- The files give the same plan, or neither gives one.
  rcases hfiles handle with hsame | ⟨hb, hq⟩
  · have hkind : q.resourceKind handle = b.files.resourceKind handle := by
      unfold PlanFiles.resourceKind
      rw [hsame.kind]
    rw [hkind, ← hsame.load, ← hsame.path]
    rfl
  · rw [hb.read, hq.read]
    have hfails : ∀ o : Option Str, (okOr planLoadError o >>= fun _ =>
        okOr planLoadError (none : Option StoredPlan) >>= fun plan =>
          pure (textResource uri "application/json" plan.toJson.render)) =
        .error planLoadError := by
      intro o
      cases o <;> rfl
    exact congrArg (fun x => validatePlanReference handle >>= fun _ => x)
      ((hfails _).trans (hfails _).symm)

/-- A tool of two backends with alike stores does the same. -/
theorem runTool_twins (hblind : Blind b) (hfiles : AlikeFiles b.files q) {name : Str}
    {arguments : Value} (hinputs : name = "kahea_invoke" → otherInputs b arguments = .ok ()) :
    Twins opensEvidence (runTool b name arguments) (runTool (b.withFiles q) name arguments) := by
  unfold runTool
  -- The four tools, of which only the invocation depends on the files.
  by_cases hinspect : name = "kahea_inspect"
  · rw [if_pos hinspect, if_pos hinspect]
    exact .ofExcept _
  rw [if_neg hinspect, if_neg hinspect]
  by_cases hplan : name = "kahea_plan"
  · rw [if_pos hplan, if_pos hplan]
    exact .bind (.ofExcept _) (fun planned =>
      .bind (.mapError (hblind.store planned.1 planned.2)) (fun _ => .pure _))
  rw [if_neg hplan, if_neg hplan]
  by_cases hinvoke : name = "kahea_invoke"
  · rw [if_pos hinvoke, if_pos hinvoke]
    exact toolInvoke_twins hblind hfiles (hinputs hinvoke)
  rw [if_neg hinvoke, if_neg hinvoke]
  by_cases hexplain : name = "kahea_explain"
  · rw [if_pos hexplain, if_pos hexplain]
    exact .bind openEvidence_twins (fun _ => .bind (.ofExcept _) (fun _ => .ofExcept _))
  · rw [if_neg hexplain, if_neg hexplain]
    exact .ofExcept (.error _)

/-- Every tool. -/
theorem callTool_twins (hblind : Blind b) (hfiles : AlikeFiles b.files q) {params : Value}
    (hinputs : params.text "name" = some "kahea_invoke".toList →
      otherInputs b (callArguments params) = .ok ()) :
    Twins opensEvidence (callTool b params) (callTool (b.withFiles q) params) := by
  unfold callTool
  refine .ofExcept_bind (fun name hname => .bind (.ofExcept _) (fun _ => ?_))
  refine .bind (runTool_twins hblind hfiles (fun hinvoke => hinputs ?_)) (fun _ => .pure _)
  rw [okOr_ok.mp hname, hinvoke]

end

/-! ### Two servers -/

/-- Opening the evidence is not seen in a run of the server either. -/
def serverOpens : ServerEvent → Bool
  | .tool event => opensEvidence event
  | .wrote _ => false

theorem shown_toolEvents {past past' : List ServerEvent}
    (h : shown serverOpens past = shown serverOpens past') :
    shown opensEvidence (toolEvents past) = shown opensEvidence (toolEvents past') := by
  have hsame : ∀ events, shown opensEvidence (toolEvents events) =
      toolEvents (shown serverOpens events) := by
    intro events
    induction events with
    | nil => rfl
    | cons e rest ih =>
        cases e with
        | wrote line => exact ih
        | tool event => cases event <;> simp [shown, toolEvents, serverOpens, opensEvidence] at ih ⊢ <;> exact ih
  rw [hsame, hsame, h]

theorem shown_tools (events : List ToolEvent) :
    shown serverOpens (events.map .tool) = (shown opensEvidence events).map .tool := by
  unfold shown
  rw [List.filter_map]
  rfl

/-- Two servers whose stores differ only in why handles do not resolve, as long as
    the same has been seen of both. -/
structure AlikeServers (s t : Server) : Prop where
  backend : ∀ past past', shown serverOpens past = shown serverOpens past' →
    ∃ q, t.backend past' = (s.backend past).withFiles q ∧ AlikeFiles (s.backend past).files q ∧
      Blind (s.backend past)
  evidence : ∀ past past', shown serverOpens past = shown serverOpens past' →
    s.evidence past = t.evidence past'
  writer : ∀ past past', shown serverOpens past = shown serverOpens past' →
    s.writer past = t.writer past'
  flush : ∀ past past', shown serverOpens past = shown serverOpens past' →
    s.flush past = t.flush past'
  parseMessage : s.parseMessage = t.parseMessage
  declarations : s.declarations = t.declarations
  description : s.description = t.description
  publicSchema : s.publicSchema = t.publicSchema

/-- The parameters of a message. -/
def messageParams (message : Value) : Value := (message.get "params").getD .null

/-- A message calls for an invocation. -/
def Invokes (message : Value) : Prop :=
  message.text "method" = some "tools/call".toList ∧
    (messageParams message).text "name" = some "kahea_invoke".toList

/-- The other inputs of every invocation a client asks for are in order. -/
def InputsInOrder (s : Server) (input : List (Except Str Str)) : Prop :=
  ∀ text message, .ok text ∈ input → s.parseMessage text = .ok message → Invokes message →
    ∀ past, otherInputs (s.backend past) (callArguments (messageParams message)) = .ok ()

namespace Server

section

variable {s t : Server}

theorem onTools_twins {α : Type} {program program' : Backend → Eff ToolEvent McpError α}
    (hprogram : ∀ past past', shown serverOpens past = shown serverOpens past' →
      Twins opensEvidence (program (s.backend past)) (program' (t.backend past'))) :
    Twins serverOpens (s.onTools program) (t.onTools program') := by
  intro past past' hpast
  rcases hprogram past past' hpast _ _ (shown_toolEvents hpast) with ⟨hresult, hevents⟩
  refine ⟨congrArg Except.ok hresult, ?_⟩
  unfold onTools
  rw [shown_tools, shown_tools, hevents]

variable (h : AlikeServers s t)
include h

theorem evidenceResource_twins (uri handle : Str) :
    Twins serverOpens (s.evidenceResource uri handle) (t.evidenceResource uri handle) := by
  refine .bind (onTools_twins (fun past past' hpast => ?_)) (fun opened => ?_)
  · rcases h.backend past past' hpast with ⟨q, hbackend, _, _⟩
    rw [hbackend]
    exact .bind (.ofExcept _) (fun _ => openEvidence_twins)
  · refine .reading (fun past past' hpast => ?_)
    rw [h.evidence past past' hpast]
    exact .pure _

/-- Every resource. -/
theorem readResource_twins (params : Value) :
    Twins serverOpens (s.readResource params) (t.readResource params) := by
  unfold readResource
  cases requiredString params "uri" with
  | error e => exact .pure _
  | ok uri =>
      dsimp only
      rw [h.description, h.publicSchema]
      split_ifs
      · exact .pure _
      -- A schema, a plan or evidence, by the start of the URI.
      cases stripPrefix "kahea://schema/" uri with
      | some name => exact .pure _
      | none =>
      cases stripPrefix "kahea://plan/" uri with
      | some handle =>
          refine onTools_twins (fun past past' hpast => ?_)
          rcases h.backend past past' hpast with ⟨q, hbackend, hfiles, _⟩
          rw [hbackend, planResource_same hfiles]
          exact .ofExcept _
      | none =>
      cases stripPrefix "kahea://evidence/" uri with
      | some handle => exact evidenceResource_twins h uri handle
      | none => exact .pure _

/-- A method is known to both servers or to neither. -/
theorem handler_twins (method : Str) (params : Value)
    (hinputs : method = "tools/call" → params.text "name" = some "kahea_invoke".toList →
      ∀ past, otherInputs (s.backend past) (callArguments params) = .ok ()) :
    (s.handler method params = none ∧ t.handler method params = none) ∨
      ∃ program program', s.handler method params = some program ∧
        t.handler method params = some program' ∧ Twins serverOpens program program' := by
  unfold handler
  rw [h.declarations]
  -- The methods in the order of the dispatch; only two of them use the backend.
  by_cases hinit : method = "initialize"
  · rw [if_pos hinit, if_pos hinit]
    exact Or.inr ⟨_, _, rfl, rfl, .pure _⟩
  rw [if_neg hinit, if_neg hinit]
  by_cases hping : method = "ping"
  · rw [if_pos hping, if_pos hping]
    exact Or.inr ⟨_, _, rfl, rfl, .pure _⟩
  rw [if_neg hping, if_neg hping]
  by_cases htools : method = "tools/list"
  · rw [if_pos htools, if_pos htools]
    exact Or.inr ⟨_, _, rfl, rfl, .pure _⟩
  rw [if_neg htools, if_neg htools]
  by_cases hcall : method = "tools/call"
  · rw [if_pos hcall, if_pos hcall]
    refine Or.inr ⟨_, _, rfl, rfl, .bind (onTools_twins (fun past past' hpast => ?_))
      (fun result => .pure _)⟩
    rcases h.backend past past' hpast with ⟨q, hbackend, hfiles, hblind⟩
    rw [hbackend]
    exact callTool_twins hblind hfiles (fun hname => hinputs hcall hname past)
  rw [if_neg hcall, if_neg hcall]
  by_cases hread : method = "resources/read"
  · rw [hread]
    exact Or.inr ⟨_, _, rfl, rfl, readResource_twins h params⟩
  rw [if_neg hread]
  split_ifs
  · exact Or.inr ⟨_, _, rfl, rfl, .pure _⟩
  · exact Or.inr ⟨_, _, rfl, rfl, .pure _⟩
  · exact Or.inl ⟨rfl, rfl⟩

/-- Every request. -/
theorem dispatch_twins {message : Value} (hinputs : Invokes message →
      ∀ past, otherInputs (s.backend past) (callArguments (messageParams message)) = .ok ()) :
    Twins serverOpens (s.dispatch message) (t.dispatch message) := by
  unfold dispatch
  cases hmethod : message.text "method" with
  | none => exact .pure _
  | some method =>
      cases message.get "id" with
      | none => exact .pure _
      | some id =>
          dsimp only
          rcases handler_twins h method (messageParams message) (fun hcall hname =>
              hinputs ⟨by rw [hmethod, hcall], hname⟩) with
            ⟨hs, ht⟩ | ⟨program, program', hs, ht, htwins⟩
          · rw [messageParams] at hs ht
            rw [hs, ht]
            exact .pure _
          · rw [messageParams] at hs ht
            rw [hs, ht]
            exact .bind htwins (fun result => .pure _)

theorem writeLine_twins (response : Value) :
    Twins serverOpens (s.writeLine response) (t.writeLine response) := by
  refine .reading (fun past past' hpast => ?_)
  rw [h.writer past past' hpast, h.flush past past' hpast]
  exact .bind (.ofExcept _) (fun _ => .bind (.ofExcept _) (fun _ => .emit _))

/-- Every line. -/
theorem serveLine_twins {line : Except Str Str} (hinputs : InputsInOrder s [line]) :
    Twins serverOpens (s.serveLine line) (t.serveLine line) := by
  unfold serveLine
  refine .ofExcept_bind (fun text htext => ?_)
  rw [except_mapError_ok] at htext
  split_ifs
  · exact .pure _
  rw [← h.parseMessage]
  refine .ofExcept_bind (fun message hmessage => ?_)
  rw [except_mapError_ok] at hmessage
  refine .bind (dispatch_twins h (fun hinvokes => ?_)) (fun response => ?_)
  · refine hinputs text message ?_ hmessage hinvokes
    rw [htext]
    exact List.mem_cons_self
  · cases response with
    | none => exact .pure _
    | some response => exact writeLine_twins h response

end

/-- Two servers whose stores differ only in why plan handles do not resolve answer
    alike for as long as they run: they end alike, and what their tools do and the
    lines they write are the same, but for the opening of the evidence. This holds
    for a client whose invocations have their other inputs in order. -/
theorem serveStdio_twins (s t : Server) (input : List (Except Str Str)) (h : AlikeServers s t)
    (hinputs : InputsInOrder s input) :
    Twins serverOpens (s.serveStdio input) (t.serveStdio input) := by
  induction input with
  | nil => exact .pure _
  | cons line rest ih =>
      have hline : InputsInOrder s [line] := fun text message hmem =>
        hinputs text message (by
          rw [List.mem_singleton.mp hmem]
          exact List.mem_cons_self)
      have hrest : InputsInOrder s rest := fun text message hmem =>
        hinputs text message (List.mem_cons_of_mem line hmem)
      exact .bind (serveLine_twins h hline) (fun _ => ih hrest)

/-- A client that invokes a plan over and over. -/
def invokingServer (files : PlanFiles) : Server :=
  { backend := fun _ => (openBackend openFile).withFiles files
    evidence := fun _ _ => .error []
    parseMessage := fun _ => .ok (jsonObject [("id", .number (.posInt 1)),
      ("method", .string "tools/call"), ("params", jsonObject [("arguments", secretArguments),
        ("name", .string "kahea_invoke")])])
    writer := fun _ => .ok ()
    flush := fun _ => .ok ()
    declarations := .null
    description := .null
    publicSchema := fun _ => none }

theorem blind_openBackend (file : SourceFile) (files : PlanFiles) :
    Blind ((openBackend file).withFiles files) :=
  { store := fun _ _ => .emit _
    execute := fun _ _ _ => .ofExcept (.error []) }

theorem alikeServers_invoking : AlikeServers (invokingServer missingFiles) (invokingServer brokenFiles) :=
  { backend := fun _ _ _ => ⟨brokenFiles, rfl,
      fun handle => Or.inr ⟨unresolved_missing handle, unresolved_broken handle⟩,
      blind_openBackend _ _⟩
    evidence := fun _ _ _ => rfl
    writer := fun _ _ _ => rfl
    flush := fun _ _ _ => rfl
    parseMessage := rfl
    declarations := rfl
    description := rfl
    publicSchema := rfl }

theorem serveStdio_twins_invoking : Twins serverOpens
    ((invokingServer missingFiles).serveStdio [.ok "first", .ok "second"])
    ((invokingServer brokenFiles).serveStdio [.ok "first", .ok "second"]) :=
  serveStdio_twins _ _ _ alikeServers_invoking (fun _ _ _ hparse _ _ => by
    cases hparse
    rfl)

end Server

end Kahea
