import Kahea.Workflow.Confined
import Kahea.Workflow.Deadline

/-!
# The Denials of Sessions

Why a session of a planned workflow is denied.

A session is denied where a request never is: its addresses are looked up before
its grants are compared. For a workflow of the planner nothing else is left that
could deny it, since its grants are among those of the workflow. The grant that
is missing is then one for an address, and the run has that address from the
resolver: `ResolvedTo` says so of the history at the end of the attempt, and
`Tells` carries it through the stages of the executor.

## Main definitions

* `ResolvedTo`: An address the host of a target was resolved to.
* `AddressDenied`: A session is denied for such an address.
* `DeniedAt`: The same for the end of an attempt in a run.

## Theorems

* `executeWebsocket_tells`: The denials of the executor.
* `session_denials`: The denials of sessions in a planned workflow.
* `executeWebsocket_refused`: An address without a grant is a denial.
-/

namespace Kahea

/-! ### The executor -/

/-- Since the history `start`, the host of a target was looked up, and the
    address is in the answer. -/
def ResolvedTo (world : World) (start history : List Event) (target : Url) (address : SocketAddr) :
    Prop :=
  ∃ host port before after addresses, target.host = some host ∧
    target.portOrKnownDefault = some port ∧ start <+: before ∧
    history = before ++ .resolve (stripBrackets host) port :: after ∧
    world.resolve before (stripBrackets host) port = .ok addresses ∧ address ∈ addresses

/-- A target that no session goes to: it has another scheme, a credential or a
    fragment. -/
def Url.NoSession (target : Url) : Prop :=
  ¬ ((target.scheme = "ws" ∨ target.scheme = "wss") ∧ target.username = [] ∧
    target.password = none ∧ target.fragment = none)

/-- The denial is for an address the host of the target was resolved to, or for
    the target itself. -/
def TargetDenied (world : World) (start : List Event) (options : InvokeOptions) (target : Url)
    (history : List Event) (d : DenialEnvelope) : Prop :=
  (target.NoSession ∧ d.reason = incompatibleTarget) ∨
    ∃ address, ResolvedTo world start history target address ∧ unsafeAddress address.ip = true ∧
      d.required = cidrGrant address.ip ∧ d.required ∉ options.grants ∧
      d.reason = "resolved address is denied by the network boundary"

/-- A session is denied for an address its name was resolved to, or its target is
    none. -/
def AddressDenied (lib : Crates) (world : World) (start : List Event) (plan : WebSocketPlan)
    (options : InvokeOptions) (history : List Event) (d : DenialEnvelope) : Prop :=
  ∃ target, lib.parseUrl plan.target = .ok target ∧
    TargetDenied world start options target history d

/-- Of the options only the grants matter. -/
theorem AddressDenied.congr {lib : Crates} {world : World} {start history : List Event}
    {plan : WebSocketPlan} {given options : InvokeOptions} {d : DenialEnvelope}
    (h : AddressDenied lib world start plan given history d)
    (hgrants : given.grants = options.grants) :
    AddressDenied lib world start plan options history d := by
  rcases h with ⟨target, htarget, hdenied⟩
  refine ⟨target, htarget, hdenied.imp id ?_⟩
  rintro ⟨address, hresolved, hunsafe, hcidr, hmissing, hreason⟩
  rw [hgrants] at hmissing
  exact ⟨address, hresolved, hunsafe, hcidr, hmissing, hreason⟩

/-- What a stage of the executor may end with: a denial for an address. -/
def StageDenied (lib : Crates) (world : World) (start : List Event) (plan : WebSocketPlan)
    (options : InvokeOptions) {α : Type} (history : List Event) (r : Staged α) : Prop :=
  ∀ d, r = .error (.denied d) → AddressDenied lib world start plan options history d

/-- A result that is no denial. -/
def WebSocketConnectResult.Undenied (r : WebSocketConnectResult) : Prop := ∀ d, r ≠ .denied d

section

variable {lib : Crates} {world : World} {plan : WebSocketPlan} {options : InvokeOptions}
  {start : List Event}

theorem undenied_failed {terminal : SessionTerminal} {details : FailureDetails} {α : Type}
    (h : Failing terminal) : Ensures (failAttempt (α := α) lib world plan terminal details)
      (Concluding WebSocketConnectResult.Undenied) (fun _ => True) :=
  failAttempt_concluding (fun _ _ => nofun) h

section

variable (hgranted : ∀ g ∈ plan.requiredGrants, g ∈ options.grants)

include hgranted

/-- A session whose grants are held is admitted. -/
theorem websocketAdmitted_granted {d : DenialEnvelope} :
    websocketAdmitted lib plan options ≠ .ok (.error d) := by
  intro h
  simp only [websocketAdmitted, except_bind_ok, ensure_ok, exists_const] at h
  rcases h with ⟨_, _, _, h⟩
  rw [missingGrant_eq_none.mpr (fun g hg => hgranted g (List.mem_of_mem_filter hg))] at h
  cases h

/-- The grants of its target are among them. -/
theorem websocketRuntimeTarget_granted {target : Url} {host : Str} {port : Nat}
    (hbound : validateTransportBinding plan target = .ok ()) (hsession : ¬ target.NoSession)
    (hhost : target.host = some host) (hport : target.portOrKnownDefault = some port) :
    websocketRuntimeTarget plan target options = .ok (host, port) := by
  rw [Url.NoSession, not_not] at hsession
  unfold validateTransportBinding at hbound
  rw [hhost, hport] at hbound
  simp only [unit_bind_ok, ensure_ok] at hbound
  have hmem : ∀ g ∈ boundGrants plan target host port, g ∈ options.grants := by
    intro g hg
    have hlisted := List.all_eq_true.mp hbound.2.1 g hg
    rw [List.contains_iff_mem] at hlisted
    exact hgranted g hlisted
  have hconnect : ∀ g ∈ [networkGrant host port, "websocket:connect".toList], g ∈ options.grants :=
    fun g hg => hmem g (List.mem_append_left _ (List.mem_append_left _ hg))
  refine websocketRuntimeTarget_ok.mpr ⟨hsession, hhost, hport, ⟨hconnect _ List.mem_cons_self,
    hconnect _ (List.mem_cons_of_mem _ (List.mem_singleton_self _))⟩, fun hplain => ?_⟩
  -- The planner lists the grant for the plaintext scheme too.
  refine hmem _ (List.mem_append_left _ (List.mem_append_right _ ?_))
  rw [if_pos hplain]
  exact List.mem_singleton_self _

/-- So only a target that is none is denied before its addresses are known. -/
theorem noSession_of_denied {target : Url} {d : DenialEnvelope}
    (hbound : validateTransportBinding plan target = .ok ())
    (h : websocketRuntimeTarget plan target options = .error d) :
    target.NoSession ∧ d.reason = incompatibleTarget := by
  -- The denial is of a URL that is no session.
  by_cases hsession : target.NoSession
  · unfold websocketRuntimeTarget at h
    rw [if_pos] at h
    · cases h
      exact ⟨hsession, rfl⟩
    · simp only [Url.NoSession, not_and_or, not_or] at hsession
      simp only [Bool.or_eq_true, Bool.not_eq_true', Bool.or_eq_false_iff, decide_eq_false_iff_not,
        decide_eq_true_eq, or_assoc]
      simpa [Option.isSome_iff_ne_none] using hsession
  -- Any other denial would be of what the binding excludes.
  have hparts := hbound
  unfold validateTransportBinding at hparts
  cases hhost : target.host with
  | none =>
      rw [hhost] at hparts
      cases hparts
  | some host =>
  cases hport : target.portOrKnownDefault with
  | none =>
      rw [hhost, hport] at hparts
      cases hparts
  | some port =>
  rw [websocketRuntimeTarget_granted hgranted hbound hsession hhost hport] at h
  cases h

/-- The gate denies a session for an address it has just looked up. -/
theorem evaluateWebsocketTarget_tells {target : Url}
    (hbound : validateTransportBinding plan target = .ok ()) :
    Tells start (evaluateWebsocketTarget world plan target options) (fun history r => ∀ d,
      r = .error d → TargetDenied world start options target history d) := by
  intro past r hstart hr d hd
  subst hd
  unfold evaluateWebsocketTarget at hr ⊢
  -- A denial of the URL, before anything is resolved.
  cases hearly : websocketRuntimeTarget plan target options with
  | error early =>
      rw [hearly] at hr
      cases hr
      exact Or.inl (noSession_of_denied hgranted hbound hearly)
  | ok pair =>
      rcases pair with ⟨host, port⟩
      rcases (websocketRuntimeTarget_ok.mp hearly).2 with ⟨hhost, hport, _⟩
      rw [hearly] at hr
      dsimp only at hr ⊢
      rw [resolveHost_bind] at hr ⊢
      -- Or of an address in the answer of the resolver.
      cases hanswer : world.resolve past (stripBrackets host) port with
      | error e =>
          rw [hanswer] at hr
          cases hr
      | ok addresses =>
          rw [hanswer] at hr
          dsimp only at hr
          split_ifs at hr with hports
          · cases hr
          cases hrefused : refusedAddress options.grants addresses with
          | none =>
              rw [hrefused] at hr
              cases hr
          | some required =>
              rw [hrefused] at hr
              cases hr
              rcases not_mem_of_refused hrefused with ⟨address, hmem, hunsafe, hcidr, hmissing⟩
              exact Or.inr ⟨address, ⟨host, port, past, _, addresses, hhost, hport, hstart, rfl,
                hanswer, hmem⟩, hunsafe, hcidr, hmissing, rfl⟩

theorem prepareAddresses_tells {target : Url}
    (hbound : validateTransportBinding plan target = .ok ()) :
    Tells start (prepareAddresses lib world plan options target) (fun history r => ∀ d,
      r = .error (.denied d) → TargetDenied world start options target history d) := by
  -- The denial of the gate is handed up.
  have hgate : Tells (ε := ExecError) start (evaluateWebsocketTarget world plan target options).attempt
      (fun history r => ∀ d, r = .ok (.error d) →
        TargetDenied world start options target history d) := by
    intro past r hstart hr d hd
    subst hd
    refine evaluateWebsocketTarget_tells hgranted hbound past (.error d) hstart ?_ d rfl
    exact Except.ok.inj hr
  refine hgate.bind (fun gate past hstart htold r hr d hd => ?_)
  subst hd
  -- The grants are held, so there is no other one.
  rcases gate with e | early | addresses
  · cases e
    exact absurd rfl ((undenied_failed failing_error past).1 _ hr _ rfl d)
  · cases hr
    rw [show ((pure (.error (.denied d)) : Eff Event ExecError (Staged (List SocketAddr))) past).2 = []
      from rfl, List.append_nil]
    exact htold d rfl
  · dsimp only at hr
    rw [missingGrant_eq_none.mpr hgranted] at hr
    cases hr

theorem prepareHandshake_tells :
    Tells start (prepareHandshake lib world plan options)
      (StageDenied lib world start plan options) := by
  refine Tells.bind (T := fun _ verdict => ∀ d, verdict ≠ .error d) ?_
    (fun verdict past hstart hadmitted r hr d hd => ?_)
  · intro past verdict _ hverdict d hd
    rw [hd] at hverdict
    exact websocketAdmitted_granted hgranted hverdict
  subst hd
  rcases verdict with early | ⟨⟩
  · exact absurd rfl (hadmitted early)
  dsimp only at hr ⊢
  rw [Eff.past_bind] at hr ⊢
  split_ifs at hr ⊢
  · exact absurd rfl ((undenied_failed failing_error past).1 _ hr _ rfl d)
  rw [Eff.ofExcept_bind] at hr ⊢
  cases hparse : lib.parseUrl plan.target with
  | error e =>
      rw [hparse] at hr
      cases hr
  | ok target =>
      rw [hparse] at hr
      simp only [Except.mapError] at hr ⊢
      rw [Eff.ofExcept_bind] at hr ⊢
      cases hbound : validateTransportBinding plan target with
      | error e =>
          rw [hbound] at hr
          cases hr
      | ok u =>
          rw [hbound] at hr
          dsimp only at hr ⊢
          -- What the gate tells of the target it tells of the plan.
          refine Tells.bind (prepareAddresses_tells hgranted hbound)
            (U := StageDenied lib world start plan options)
            (fun addresses past hstart htold r hr d hd => ?_) past _ hstart hr d rfl
          subst hd
          cases addresses with
          | error result =>
              cases hr
              change AddressDenied lib world start plan options (past ++ []) d
              rw [List.append_nil]
              exact ⟨target, hparse, htold d rfl⟩
          | ok addresses =>
              rcases Eff.bind_ok hr with ⟨handshake, _, hrest⟩
              cases hrest

theorem connectWebsocket_tells :
    Tells start (connectWebsocket lib world plan options)
      (StageDenied lib world start plan options) := by
  refine (prepareHandshake_tells hgranted).bind (fun prepared past hstart htold r hr d hd => ?_)
  subst hd
  -- A denial comes from the stages before the connection.
  cases prepared with
  | error result =>
      cases hr
      change AddressDenied lib world start plan options (past ++ []) d
      rw [List.append_nil]
      exact htold d rfl
  | ok h =>
      rcases Eff.bind_ok hr with ⟨address, haddress, hrest⟩
      cases address with
      | error result =>
          cases hrest
          exact absurd rfl ((openConnection_concluding (Q := WebSocketConnectResult.Undenied)
            (fun _ _ => nofun) past).1 _ haddress _ rfl d)
      | ok address =>
          exact absurd rfl ((openSession_concluding (Q := WebSocketConnectResult.Undenied)
            (fun _ _ => nofun) _).1 _ hrest _ rfl d)

/-- A session whose grants are held is denied for an address only, one the run has
    from the resolver. -/
theorem executeWebsocket_tells :
    Tells start (executeWebsocket lib world plan options) (fun history r => ∀ d,
      r = .denied d → AddressDenied lib world start plan options history d) := by
  refine (connectWebsocket_tells hgranted).bind (fun outcome past hstart htold r hr d hd => ?_)
  subst hd
  cases outcome with
  | error result =>
      cases hr
      change AddressDenied lib world start plan options (past ++ []) d
      rw [List.append_nil]
      exact htold d rfl
  | ok connection =>
      rcases (executeConnectedWebsocket_observed past).1 _ hr with ⟨o, ho, _⟩
      cases ho

/-- An address without a grant is a denial: a sealed plan whose grants are held gets
    as far as its addresses, and no further. -/
theorem executeWebsocket_refused {target : Url} {host required : Str} {port : Nat}
    {addresses : List SocketAddr} {past : List Event} (hseal : plan.verifySeal lib = true)
    (hvalid : plan.validate.toOption.isSome = true)
    (hconfig : options.expectedConfigFingerprint.all (fun f => f = plan.configFingerprint) = true)
    (hpolicy : options.expectedPolicyFingerprint.all (fun f => f = plan.policyFingerprint) = true)
    (hrunning : world.cancelled past = false) (htarget : lib.parseUrl plan.target = .ok target)
    (hbound : validateTransportBinding plan target = .ok ()) (hsession : ¬ target.NoSession)
    (hhost : target.host = some host) (hport : target.portOrKnownDefault = some port)
    (hanswer : world.resolve past (stripBrackets host) port = .ok addresses)
    (hports : (addresses.isEmpty || addresses.any (fun address => address.port ≠ port)) = false)
    (hrefused : refusedAddress options.grants addresses = some required) :
    (executeWebsocket lib world plan options past).1 = .ok (.denied
      (websocketDenial plan "resolved address is denied by the network boundary" required)) := by
  -- The plan is admitted, the gate refuses, and the denial is handed up.
  have hadmitted : websocketAdmitted lib plan options = .ok (.ok ()) := by
    simp only [websocketAdmitted, unit_bind_ok, ensure_ok, hseal, hvalid, hconfig, hpolicy,
      Bool.and_self, true_and]
    rw [missingGrant_eq_none.mpr (fun g hg => hgranted g (List.mem_of_mem_filter hg))]
  have hgate : (evaluateWebsocketTarget world plan target options past).1 = .ok (.error
      (websocketDenial plan "resolved address is denied by the network boundary" required)) := by
    unfold evaluateWebsocketTarget
    rw [websocketRuntimeTarget_granted hgranted hbound hsession hhost hport]
    dsimp only
    rw [resolveHost_bind, hanswer]
    dsimp only
    rw [hports, hrefused]
    rfl
  have haddresses : (prepareAddresses lib world plan options target past).1 = .ok (.error (.denied
      (websocketDenial plan "resolved address is denied by the network boundary" required))) := by
    unfold prepareAddresses
    rw [Eff.bind_of_ok (show ((evaluateWebsocketTarget world plan target options).attempt past).1 =
      .ok (.ok (.error _)) from congrArg Except.ok hgate)]
    rfl
  have hhandshake : (prepareHandshake lib world plan options past).1 = .ok (.error (.denied
      (websocketDenial plan "resolved address is denied by the network boundary" required))) := by
    unfold prepareHandshake
    rw [Eff.ofExcept_bind, hadmitted]
    dsimp only
    rw [Eff.past_bind, if_neg (by rw [hrunning]; exact Bool.false_ne_true), Eff.ofExcept_bind, htarget]
    simp only [Except.mapError]
    rw [Eff.ofExcept_bind, hbound]
    dsimp only
    rw [Eff.bind_of_ok haddresses]
    rfl
  have hconnect : (connectWebsocket lib world plan options past).1 = .ok (.error (.denied
      (websocketDenial plan "resolved address is denied by the network boundary" required))) := by
    unfold connectWebsocket
    rw [Eff.bind_of_ok hhandshake]
    rfl
  unfold executeWebsocket
  rw [Eff.bind_of_ok hconnect]
  rfl

end

end

/-! ### The attempts of a run -/

theorem effects_append (first second : List WorkflowEvent) :
    effects (first ++ second) = effects first ++ effects second :=
  List.filterMap_append

/-- The effects at the end of an attempt. -/
theorem effects_attempt (past : List WorkflowEvent) (attempt : Attempt) (events : List Event) :
    effects (past ++ .started attempt :: events.map .effect) = effects past ++ events := by
  rw [effects_append]
  refine congrArg (effects past ++ ·) ?_
  change (events.map WorkflowEvent.effect).filterMap _ = events
  rw [List.filterMap_map]
  exact List.filterMap_some

/-- What a denial that ends a session attempt is for: the plan is the one of a
    step of the workflow, its grants are all held, and what it is denied for was
    looked up after the start of the attempt. -/
structure DeniedFor (lib : Crates) (world : WorkflowWorld) (describe : Value → Str)
    (plan : WorkflowPlan) (options : InvokeOptions) (configuration : ProjectConfiguration)
    (past : List WorkflowEvent) (attempt : Attempt) (d : DenialEnvelope)
    (websocketPlan : WebSocketPlan) : Prop where
  planned : ∃ step ∈ plan.steps, step.transport = .webSocket ∧ step.stepId = attempt.step ∧
    ∃ outputs, planWebsocketStep lib describe configuration step plan.input outputs =
      .ok websocketPlan
  granted : ∀ g ∈ websocketPlan.requiredGrants, g ∈ options.grants
  address : ∃ begun middle, past = begun ++ .started attempt :: middle ∧
    AddressDenied lib (world.executor (begun ++ [.started attempt])) (effects begun) websocketPlan
      options (effects past) d

/-- The same for an event, if it is such an end. -/
def DeniedAt (lib : Crates) (world : WorkflowWorld) (describe : Value → Str) (plan : WorkflowPlan)
    (options : InvokeOptions) (configuration : ProjectConfiguration) (past : List WorkflowEvent)
    (e : WorkflowEvent) : Prop :=
  ∀ attempt d, e = .ended attempt (.webSocket (.denied d)) → ∃ websocketPlan,
    DeniedFor lib world describe plan options configuration past attempt d websocketPlan

section

variable {lib : Crates} {world : WorkflowWorld} {describe : Value → Str} {plan : WorkflowPlan}
  {options : InvokeOptions} {configuration : ProjectConfiguration}

/-- A session of a planned workflow needs no more than the workflow. -/
theorem Connected.granted {websocketPlan : WebSocketPlan} (hplan : plan.WellPlanned lib)
    (h : Connected lib describe plan configuration websocketPlan) :
    ∀ g ∈ websocketPlan.requiredGrants, g ∈ plan.requiredGrants := by
  rcases h with ⟨step, hstep, htransport, outputs, hplanned⟩
  rcases List.append_of_mem hstep with ⟨before, after, hsplit⟩
  have hsteps := hplan.steps
  rw [hsplit] at hsteps
  -- The step has a session sealed in it, with grants of the workflow.
  rcases (hsteps.step_at.session htransport).child with ⟨child, hchild, _, hlisted, _⟩
  suffices hsame : websocketPlan.requiredGrants = child.requiredGrants by
    rw [hsame]
    exact hlisted
  unfold planWebsocketStep at hplanned
  rw [hchild] at hplanned
  dsimp only at hplanned
  -- A step with bindings is planned anew, with the same grants.
  split_ifs at hplanned
  · cases hplanned
    rfl
  · simp only [except_bind_ok, except_pure_ok, validateRebuiltWebsocketPlan, ensure_ok,
      exists_const, decide_eq_true_eq] at hplanned
    rcases hplanned with ⟨source, _, rebuilt, _, ⟨_, _, hsame⟩, rfl⟩
    exact hsame

theorem deniedAt_of_unmarked {ε α : Type} {m : Eff WorkflowEvent ε α} (h : Unmarked m)
    (past : List WorkflowEvent) :
    Along (DeniedAt lib world describe plan options configuration) past (m past).2 := by
  refine h.along (fun past e he => ?_) past
  rintro attempt d rfl
  cases he

/-- The events of an attempt: its marks, and the effects of its program between
    them. -/
theorem markedAttempt_events {α : Type} (attempt : Attempt) (result : α → AttemptResult)
    (program : World → Eff Event ExecError α) (past : List WorkflowEvent) :
    (markedAttempt world attempt result program past).2 = .started attempt ::
      ((program (world.executor (past ++ [.started attempt])) (effects past)).2.map .effect ++
        [.ended attempt (attemptResult result
          (program (world.executor (past ++ [.started attempt])) (effects past)).1)]) := by
  have hbegun : effects (past ++ [.started attempt]) = effects past := by
    rw [effects_append]
    exact List.append_nil _
  rw [← hbegun]
  rfl

/-- Only the last event of an attempt can be a denial. -/
theorem deniedAt_markedAttempt {α : Type} {attempt : Attempt} {result : α → AttemptResult}
    {program : World → Eff Event ExecError α} {past : List WorkflowEvent}
    (h : ∀ a d, result a = .webSocket (.denied d) →
      (program (world.executor (past ++ [.started attempt])) (effects past)).1 = .ok a →
      ∃ websocketPlan, DeniedFor lib world describe plan options configuration
        (past ++ .started attempt ::
          (program (world.executor (past ++ [.started attempt])) (effects past)).2.map .effect)
        attempt d websocketPlan) :
    Along (DeniedAt lib world describe plan options configuration) past
      (markedAttempt world attempt result program past).2 := by
  rw [markedAttempt_events]
  refine ⟨nofun, (along_append _ _ _).mpr ⟨along_of_mem (fun e he past => ?_), ?_, trivial⟩⟩
  -- The events of the program are no ends of attempts.
  · rcases List.mem_map.mp he with ⟨event, _, rfl⟩
    exact nofun
  -- The end is, and then the program returned the denial.
  · intro other d hended
    rw [WorkflowEvent.ended.injEq] at hended
    rcases hended with ⟨rfl, hresult⟩
    cases houtcome : (program (world.executor (past ++ [.started attempt])) (effects past)).1 with
    | error e =>
        rw [houtcome] at hresult
        cases hresult
    | ok a =>
        rw [houtcome] at hresult
        rw [List.append_assoc]
        exact h a d hresult houtcome

theorem deniedAt_invokeHttpStep (step : WorkflowStepTemplate) (outputs : StepOutputs)
    (past : List WorkflowEvent) : Along (DeniedAt lib world describe plan options configuration) past
      (invokeHttpStep lib world plan options configuration step outputs past).2 := by
  refine Eff.along_bind.mpr ⟨deniedAt_of_unmarked (unmarked_planHttpStep _ _ _ _) _,
    fun requestPlan _ => ?_⟩
  refine Eff.along_bind.mpr ⟨deniedAt_of_unmarked pausing_elapsed.unmarked _, fun since _ => ?_⟩
  refine Eff.along_bind.mpr ⟨trivial, fun timeout _ => ?_⟩
  -- An attempt over HTTP ends with no denial of a session.
  have hattempt (retries : Nat) (past : List WorkflowEvent) :
      Along (DeniedAt lib world describe plan options configuration) past
        (httpAttempt lib world step options since timeout
          (fun w => invoke lib w requestPlan { options with timeout := timeout }) retries past).2 := by
    refine Eff.along_bind.mpr ⟨deniedAt_markedAttempt (fun _ _ hdenied => by cases hdenied),
      fun outcome _ => ?_⟩
    cases outcome with
    | ok result =>
        exact deniedAt_of_unmarked ((pausing_failureAction _ result).unmarked.bind (fun action =>
          (pausing_goesOn _ _ action).unmarked.bind (fun _ => .pure _))) _
    | error e =>
        refine deniedAt_of_unmarked ((pausing_goesOn _ _ _).unmarked.bind (fun again => ?_)) _
        split_ifs
        · exact .pure _
        · exact .fail _
  exact Eff.along_bind.mpr ⟨along_retryLoop (fun later _ past => hattempt later past) _ _
    (hattempt _ _), fun pair _ => deniedAt_of_unmarked (pausing_finishHttpStep _ _ _ _).unmarked _⟩

/-- A denial of a session attempt comes from the executor, which has looked the
    address up between the marks of the attempt. -/
theorem deniedAt_websocketAttempt {step : WorkflowStepTemplate} {websocketPlan : WebSocketPlan}
    {outputs : StepOutputs} (hstep : step ∈ plan.steps) (htransport : step.transport = .webSocket)
    (hplanned : planWebsocketStep lib describe configuration step plan.input outputs =
      .ok websocketPlan)
    (hgranted : ∀ g ∈ websocketPlan.requiredGrants, g ∈ options.grants) (retries : Nat)
    (past : List WorkflowEvent) : Along (DeniedAt lib world describe plan options configuration) past
      (websocketAttempt lib world step websocketPlan options retries past).2 := by
  refine Eff.along_bind.mpr ⟨deniedAt_of_unmarked pausing_elapsed.unmarked _, fun since _ => ?_⟩
  refine Eff.along_bind.mpr ⟨trivial, fun timeout _ => ?_⟩
  -- The end of the attempt, and then what decides on a retry.
  refine Eff.along_bind.mpr ⟨deniedAt_markedAttempt (fun a d hdenied hran => ?_), fun outcome _ => ?_⟩
  · rw [AttemptResult.webSocket.injEq] at hdenied
    subst hdenied
    refine ⟨websocketPlan, ⟨step, hstep, htransport, rfl, outputs, hplanned⟩, hgranted, _, _, rfl, ?_⟩
    rw [effects_attempt]
    exact (executeWebsocket_tells (by exact hgranted) _ _ (List.prefix_refl _) hran d rfl).congr rfl
  · rcases outcome with e | connected | observation | denial
    · refine deniedAt_of_unmarked ((pausing_goesOn _ _ _).unmarked.bind (fun again => ?_)) _
      split_ifs
      · exact .pure _
      · exact .fail _
    · exact trivial
    · exact deniedAt_of_unmarked ((pausing_goesOn _ _ _).unmarked.bind (fun _ => .pure _)) _
    · exact trivial

theorem deniedAt_invokeStep {step : WorkflowStepTemplate} (hplan : plan.WellPlanned lib)
    (hheld : ∀ g ∈ plan.requiredGrants, g ∈ options.grants) (hstep : step ∈ plan.steps)
    (outputs : StepOutputs) (past : List WorkflowEvent) :
    Along (DeniedAt lib world describe plan options configuration) past
      (invokeStep lib world describe plan options configuration step outputs past).2 := by
  unfold invokeStep
  split_ifs with htransport
  · refine Eff.along_bind.mpr ⟨?_, fun _ _ => trivial⟩
    refine Eff.along_bind.mpr ⟨trivial, fun websocketPlan hplanned => ?_⟩
    have hconnected : Connected lib describe plan configuration websocketPlan :=
      ⟨step, hstep, htransport, outputs, hplanned⟩
    have hattempt := @deniedAt_websocketAttempt lib world describe plan options configuration step
      websocketPlan outputs hstep htransport hplanned
      (fun g hg => hheld g (hconnected.granted hplan g hg))
    refine Eff.along_bind.mpr ⟨deniedAt_of_unmarked (pausing_storeStepPlan _ _).unmarked _,
      fun _ _ => ?_⟩
    exact Eff.along_bind.mpr ⟨along_retryLoop (fun later _ past => hattempt later past) _ _
      (hattempt _ _), fun pair _ =>
        deniedAt_of_unmarked (pausing_finishWebsocketStep _ _ _ _).unmarked _⟩
  · exact deniedAt_invokeHttpStep step outputs past

/-! ### Runs -/

/-- The sessions of a run are denied for addresses only. -/
def SessionDenials (lib : Crates) (world : WorkflowWorld) (describe : Value → Str)
    (plan : WorkflowPlan) (options : InvokeOptions) (configuration : ProjectConfiguration)
    (past events : List WorkflowEvent) : Prop :=
  Along (DeniedAt lib world describe plan options configuration) past events

/-- A planned workflow is run with all its grants or not at all, so its sessions
    are denied for the addresses their names are resolved to, and for nothing
    else. -/
theorem session_denials {reports : Value → Str} {planned : ProjectConfiguration}
    {files : LocalSources} {document input : Value} {workflowId : Str} {auth server : Option Str}
    {checks : List Str} {past : List WorkflowEvent}
    (hplan : buildWorkflowPlan lib reports planned files document workflowId input auth server
      checks = .ok plan) :
    SessionDenials lib world describe plan options configuration past
      (invokeWorkflow lib world describe plan options configuration past).2 := by
  refine Eff.along_bind.mpr ⟨trivial, fun _ _ => ?_⟩
  cases hgrants : missingGrant options.grants plan.requiredGrants with
  | some missing => exact trivial
  | none =>
      refine Eff.along_bind.mpr ⟨along_invokeSteps (fun step hstep =>
        deniedAt_invokeStep (wellPlanned_of_build hplan) (missingGrant_eq_none.mp hgrants) hstep) _ _,
        fun pair _ => ?_⟩
      rcases pair with ⟨progress, exit⟩
      dsimp only
      split_ifs
      · exact trivial
      · exact trivial

/-- A workflow that has just been planned passes the checks of a run with the same
    configuration. -/
theorem checkWorkflow_of_build {reports : Value → Str} {files : LocalSources}
    {document input : Value} {workflowId : Str} {auth server : Option Str} {checks : List Str}
    (hplan : buildWorkflowPlan lib reports configuration files document workflowId input auth server
      checks = .ok plan) (hconfig : options.expectedConfigFingerprint = none)
    (hpolicy : options.expectedPolicyFingerprint = none) :
    checkWorkflow lib plan options configuration = .ok () := by
  have hsealed := (wellPlanned_of_build hplan).sealed
  simp only [buildWorkflowPlan, workflowSteps, except_bind_ok, except_pure_ok, ensure_ok,
    exists_const, Bool.and_eq_true, decide_eq_true_eq] at hplan
  rcases hplan with ⟨_, workflow, _, _, _, sources, _, values, ⟨_, _, hlength, rfl⟩, planned, _,
    configFingerprint, _, rfl⟩
  simp only [checkWorkflow, unit_bind_ok, ensure_ok]
  refine ⟨hsealed, ?_, ?_⟩
  · rw [hconfig, hpolicy]
    rfl
  · change (if planned.steps.any (fun step => decide (step.transport = .webSocket)) then
      some (configuration.websocketPolicyFingerprint lib) else none).all _ = true
    split_ifs
    · exact decide_eq_true rfl
    · rfl

/-- A first attempt whose session is denied ends its step's events with the
    denial. -/
theorem mem_invokeStep_refused {step : WorkflowStepTemplate} {websocketPlan : WebSocketPlan}
    {outputs : StepOutputs} {past : List WorkflowEvent} {timeout : Nat} {d : DenialEnvelope}
    (htransport : step.transport = .webSocket)
    (hplanned : planWebsocketStep lib describe configuration step plan.input outputs =
      .ok websocketPlan) (hseal : websocketPlan.verifySeal lib = true)
    (hstored : world.storePlan past = .ok ())
    (htimeout : remainingStepTimeout (world.clock past) options.timeout step.timeoutMs = .ok timeout)
    (hdenied : ∀ (given : InvokeOptions) begun, given.grants = options.grants →
      given.expectedConfigFingerprint = some websocketPlan.configFingerprint →
      given.expectedPolicyFingerprint = some websocketPlan.policyFingerprint →
      (executeWebsocket lib (world.executor begun) websocketPlan given (effects past)).1 =
        .ok (.denied d)) :
    ∃ attempt, .ended attempt (.webSocket (.denied d)) ∈
      (invokeStep lib world describe plan options configuration step outputs past).2 := by
  have hstore : storeStepPlan world step (websocketPlan.verifySeal lib) past = (.ok (), []) := by
    unfold storeStepPlan
    rw [Eff.ofExcept_bind, hseal]
    dsimp only [ensure]
    rw [if_pos rfl]
    dsimp only
    rw [Eff.past_bind, hstored]
    rfl
  refine ⟨⟨step.stepId, .webSocket, 0, timeout, step.timeoutMs.map (· * 1000000), world.clock past⟩, ?_⟩
  unfold invokeStep
  rw [if_pos htransport]
  refine Eff.mem_bind.mpr (Or.inl ?_)
  unfold invokeWebsocketWorkflowStep
  rw [Eff.ofExcept_bind, hplanned]
  dsimp only
  refine Eff.mem_bind.mpr (Or.inr ⟨(), congrArg Prod.fst hstore, ?_⟩)
  rw [hstore, List.append_nil]
  refine Eff.mem_bind.mpr (Or.inl ?_)
  rw [retryLoop]
  refine Eff.mem_bind.mpr (Or.inl ?_)
  unfold websocketAttempt
  rw [elapsed_bind, Eff.ofExcept_bind, htimeout]
  dsimp only
  refine Eff.mem_bind.mpr (Or.inl ?_)
  -- The last event of the attempt is its end, with what the executor returns.
  have hended := fun begun => hdenied
    { options with
      timeout := timeout
      expectedConfigFingerprint := some websocketPlan.configFingerprint
      expectedPolicyFingerprint := some websocketPlan.policyFingerprint } begun rfl rfl rfl
  rw [markedAttempt_events, hended]
  exact List.mem_cons_of_mem _ (List.mem_append_right _ (List.mem_singleton_self _))

end

/-! ### A session that is refused -/

/-- A session with a host that has a name. -/
def callDocument : Value :=
  jsonObject [("kind", .string "websocket-session"), ("version", jsonNat 1),
    ("operationId", .string "notice"), ("url", .string "wss://notice.example.com/"),
    ("limits", WebSocketPolicyLimits.default.toJson),
    ("actions", .array [(WebSocketAction.sendText "created").toJson,
      (WebSocketAction.close 1000 []).toJson])]

/-- A workflow of this session. -/
def noticeWorkflow : Value :=
  jsonObject [("arazzo", .string "1.1.0"),
    ("sourceDescriptions", .array [
      jsonObject [("name", .string "socket"), ("url", .string "socket.json"),
        ("x-kahea-source-kind", .string "websocket-session")]]),
    ("workflows", .array [jsonObject [("workflowId", .string "announce"), ("steps", .array [
      jsonObject [("stepId", .string "notify"),
        ("operationId", .string "$sourceDescriptions.socket.notice")]])]])]

/-- The planner on that workflow. -/
def noticePlan : Except WorkflowError WorkflowPlan :=
  buildWorkflowPlan referenceCrates (fun _ => "no session") .default
    { noticeFiles with parse := fun _ _ => .ok callDocument } noticeWorkflow "announce"
    (jsonObject []) none none []

/-- An outside that resolves every name to the machine itself. -/
def loopbackWorld : WorkflowWorld :=
  { pagesWorld with executor := fun _ => { referenceWorld with
      resolve := fun _ _ port => .ok [⟨.v4 ⟨127, 0, 0, 1⟩, port⟩] } }

/-- What the plan has no grant for, and what its step says of the session. -/
theorem noticePlan_facts : noticePlan.toOption.map (fun plan =>
    (plan.requiredGrants.contains "net-cidr:127.0.0.1/32".toList, plan.steps.map (fun step =>
    decide (step.transport = .webSocket) && step.websocketBindings.isEmpty &&
    decide (step.timeoutMs = none) && step.websocketPlan.any (fun child =>
      child.validate.toOption.isSome && (referenceCrates.parseUrl child.target).toOption.any
        (fun target => decide ((target.scheme = "ws".toList ∨ target.scheme = "wss".toList) ∧
            target.username = [] ∧ target.password = none ∧ target.fragment = none) &&
          decide (target.host = some "notice.example.com".toList) &&
          decide (target.portOrKnownDefault = some 443) &&
          (validateTransportBinding child target).toOption.isSome))))) = some (false, [true]) := by
  decide +kernel

/-- The session of that workflow is denied for the address its name is resolved
    to. -/
theorem session_denials_notice : ∃ plan, noticePlan = .ok plan ∧
    (∃ attempt d, d.required = "net-cidr:127.0.0.1/32".toList ∧
      .ended attempt (.webSocket (.denied d)) ∈ (invokeWorkflow referenceCrates loopbackWorld
        (fun _ => []) plan plan.heldOptions .default []).2) ∧
    SessionDenials referenceCrates loopbackWorld (fun _ => []) plan plan.heldOptions .default []
      (invokeWorkflow referenceCrates loopbackWorld (fun _ => []) plan plan.heldOptions .default
        []).2 := by
  rcases exists_ok_of_toOption noticePlan_facts with ⟨plan, hplan, hfacts⟩
  refine ⟨plan, hplan, ?_, session_denials hplan⟩
  rw [Prod.mk.injEq] at hfacts
  -- The plan has one session step.
  rcases List.map_eq_singleton_iff.mp hfacts.2 with ⟨step, hsteps, hstep⟩
  simp only [Bool.and_eq_true, decide_eq_true_eq, Option.any_eq_true, List.isEmpty_iff,
    toOption_eq_some] at hstep
  rcases hstep with ⟨⟨⟨htransport, hbindings⟩, hunbounded⟩, child, hchild, hvalid, target, htarget,
    ⟨⟨hsession, hhost⟩, hport⟩, hbound⟩
  rcases Option.isSome_iff_exists.mp hbound with ⟨⟨⟩, hbound⟩
  have hplanned := (wellPlanned_of_build hplan).steps
  rw [hsteps] at hplanned
  rcases (hplanned.1.session htransport).child with ⟨other, hother, hseal, hgrants, _⟩
  rw [hchild] at hother
  cases hother
  have hheld : missingGrant plan.requiredGrants plan.requiredGrants = none :=
    missingGrant_eq_none.mpr (fun _ hg => hg)
  -- The address the host resolves to is unsafe and its grant is not held.
  have hrefused : refusedAddress plan.requiredGrants [⟨.v4 ⟨127, 0, 0, 1⟩, 443⟩] =
      some "net-cidr:127.0.0.1/32".toList := by
    have hcidr : cidrGrant (.v4 ⟨127, 0, 0, 1⟩) = "net-cidr:127.0.0.1/32".toList := by decide
    have hunsafe : unsafeAddress (.v4 ⟨127, 0, 0, 1⟩) = true := by decide
    simp only [refusedAddress, List.find?_cons, hcidr, hunsafe, hfacts.1, Bool.not_false,
      Bool.and_self, Option.map_some]
  -- The step is planned as it stands, so the attempt is made and denied.
  have hplannedStep : planWebsocketStep referenceCrates (fun _ => []) .default step plan.input [] =
      .ok child := by
    unfold planWebsocketStep
    rw [hchild]
    dsimp only
    rw [hbindings]
    rfl
  rcases @mem_invokeStep_refused referenceCrates loopbackWorld (fun _ => []) plan plan.heldOptions
    .default step child [] [] _ _ htransport hplannedStep hseal rfl (by rw [hunbounded]; rfl)
    (fun given begun hsame hconfig hpolicy =>
      executeWebsocket_refused (by rw [hsame]; exact hgrants) hseal hvalid (by rw [hconfig]; simp)
        (by rw [hpolicy]; simp) rfl htarget (toOption_eq_some.mp hbound) (not_not.mpr hsession)
        hhost hport rfl rfl (by rw [hsame]; exact hrefused)) with ⟨attempt, hended⟩
  refine ⟨attempt, websocketDenial child "resolved address is denied by the network boundary"
    "net-cidr:127.0.0.1/32", rfl, ?_⟩
  rw [invokeWorkflow_eq (checkWorkflow_of_build hplan rfl rfl) hheld, hsteps]
  exact Eff.mem_bind.mpr (Or.inl hended)

end Kahea
