import Kahea.Exec.Addresses
import Kahea.Exec.Invoke

/-!
# The Host Policy at Run Time

Which hosts an invocation connects to, and whether the policy of the
configuration admits them.

The planner applies the policy to the target. The token URL comes from the
document, and no stage of the planner or the executor compares its host with
the policy, so a plan keeps the policy exactly as far as its token URL does.

## Main definitions

* `ObeysHostPolicy`: What the policy asks of a host.
* `TokenHostsObey`: The token URL of a plan obeys the policy.

## Theorems

* `connect_obeys`: Every connection of an invocation obeys the policy.
* `connect_denied_token_host`: A token URL with a denied host.
-/

namespace Kahea

/-- The policy for a host: it is not denied, and where hosts are allowed it is
    one of them, up to ASCII case. -/
def ObeysHostPolicy (policy : ConfigurationPolicy) (host : Str) : Prop :=
  (∀ denied ∈ policy.deniedHosts, eqIgnoreCase denied host = false) ∧
    (policy.allowedHosts ≠ [] → ∃ allowed ∈ policy.allowedHosts, eqIgnoreCase allowed host = true)

theorem hostPermitted_iff (policy : ConfigurationPolicy) (host : Str) :
    hostPermitted policy host = true ↔ ObeysHostPolicy policy host := by
  simp only [hostPermitted, ObeysHostPolicy, Bool.and_eq_true, Bool.not_eq_true', Bool.or_eq_true,
    List.any_eq_false, List.any_eq_true, List.isEmpty_iff, Bool.not_eq_true]
  refine and_congr_right fun _ => ?_
  by_cases hempty : policy.allowedHosts = []
  · simp only [hempty, true_or, ne_eq, not_true_eq_false, false_imp_iff]
  · simp only [hempty, false_or, ne_eq, not_false_eq_true, true_imp_iff]

/-- The host of every token URL obeys the policy. -/
def TokenHostsObey (lib : Crates) (policy : ConfigurationPolicy) (auth : Option PlannedAuth) :
    Prop :=
  ∀ text ∈ tokenUrls auth, ∀ url, lib.parseUrl text = .ok url → ∀ host, url.host = some host →
    ObeysHostPolicy policy host

/-- The test of the token hosts. -/
def tokenHostsPermitted (lib : Crates) (policy : ConfigurationPolicy) (auth : Option PlannedAuth) :
    Bool :=
  (tokenUrls auth).all (fun text => (lib.parseUrl text).toOption.all (fun url =>
    url.host.all (hostPermitted policy)))

theorem tokenHostsObey_of_permitted {lib : Crates} {policy : ConfigurationPolicy}
    {auth : Option PlannedAuth} (h : tokenHostsPermitted lib policy auth = true) :
    TokenHostsObey lib policy auth := by
  intro text htext url hparse host hhost
  have hurl := List.all_eq_true.mp h text htext
  rw [hparse] at hurl
  change url.host.all (hostPermitted policy) = true at hurl
  rw [hhost] at hurl
  exact (hostPermitted_iff policy host).mp hurl

section

variable {lib : Crates} {planner world : World} {source : OpenApiSource}
  {operation : OperationDefinition} {planOptions : PlanOptions}
  {configuration : ProjectConfiguration} {plan : RequestPlan} {options : InvokeOptions}

/-- The two places an invocation connects to. -/
theorem connect_mem_invoke {past : List Event} {scheme host : Str} {port : Nat}
    {addresses : List SocketAddr}
    (h : .connect scheme host port addresses ∈ (invoke lib world plan options past).2) :
    (∃ url, lib.parseUrl plan.target = .ok url ∧ url.host = some host) ∨
      ∃ auth url, TokenContact lib plan auth url ∧ url.host = some host := by
  rcases mem_invoke.mp h with hprepare | ⟨prepared, hok, hdispatch⟩
  · cases (prepare_ensures past).2 _ hprepare with
    | authenticate _ _ hauth =>
        cases hauth with
        | connect contact hhost _ => exact Or.inr ⟨_, _, contact, hhost⟩
  · have hsound := (prepare_ensures past).1 _ hok prepared rfl
    rcases mem_dispatch.mp hdispatch with hcontact | ⟨response, _, hobserve⟩
    · simp only [Prepared.contact, List.mem_cons, reduceCtorEq, List.not_mem_nil, or_false,
        Event.connect.injEq] at hcontact
      rcases hsound.target with ⟨url, headers, hparse, _, hattached⟩
      refine Or.inl ⟨url, hparse, ?_⟩
      rw [← hattached.origin.2.1, hsound.host, hcontact.2.1]
    · -- Recording a response only stores.
      rcases (observeResponse_ensures _).2 _ hobserve with ⟨_, _, _, _, hstore⟩
      cases hstore

/-- An invocation of a planned request only connects to hosts that obey the
    policy, when the token URL of the plan does. -/
theorem connect_obeys {planPast past : List Event} {target : Url}
    (hplan : (buildPlanWithConfiguration lib planner source operation planOptions configuration
      planPast).1 = .ok plan)
    (htarget : plannedTarget lib planner source operation planOptions configuration planPast
      = some target)
    (hreparse : Reparses lib target)
    (htoken : TokenHostsObey lib configuration.policy plan.auth)
    {scheme host : Str} {port : Nat} {addresses : List SocketAddr}
    (hconnect : .connect scheme host port addresses ∈ (invoke lib world plan options past).2) :
    ObeysHostPolicy configuration.policy host := by
  rcases buildPlanWithConfiguration_ok hplan with ⟨parts, hparts, hsound, rfl⟩
  have heq : parts.target = target := by
    simpa only [plannedTarget, hparts, Except.toOption, Option.map_some, Option.some.injEq]
      using htarget
  subst heq
  rcases connect_mem_invoke hconnect with ⟨url, hparse, hhost⟩ | ⟨auth, url, contact, hhost⟩
  · -- The target: its text parses to the URL whose host the planner has checked.
    have hsame : url = parts.target := Except.ok.inj (hparse.symm.trans hreparse)
    rw [hsame, hsound.host, Option.some.injEq] at hhost
    rw [← hhost]
    exact (hostPermitted_iff _ _).mp hsound.policy
  · rcases contact.parsed with ⟨text, htext, hparse⟩
    refine htoken text ?_ url hparse host hhost
    rw [contact.bound, tokenUrls, if_pos contact.placement, htext]
    exact List.mem_singleton_self text

end

/-! ### A denied token host -/

/-- A source whose one operation needs a token from a URL of the document. -/
def oauthSource (tokenUrl : String) : OpenApiSource :=
  { document := jsonObject [("openapi", .string "3.1.0"),
      ("components", jsonObject [("securitySchemes", jsonObject [("idp", jsonObject
        [("type", .string "oauth2"), ("flows", jsonObject [("clientCredentials", jsonObject
          [("tokenUrl", .string tokenUrl)])])])])])]
    sourceFingerprint := "b3:oauth"
    sourceHandle := "src:oauth" }

/-- The operation on the items with the authentication required. -/
def listItemsAuthenticated : OperationDefinition :=
  { listItems with
    operation := [("security", .array [jsonObject [("idp", .array [])]])] }

def oauthOptions : PlanOptions :=
  { PlanOptions.default with
    server := some "https://api.example.com".toList
    auth := some "idp=service".toList }

/-- A configuration that denies one host. -/
def denyingConfiguration (host : Str) : ProjectConfiguration :=
  { ProjectConfiguration.default with
    policy := { ConfigurationPolicy.default with deniedHosts := [host] } }

/-- The options that grant what a plan lists, with a credential document. -/
def oauthInvokeOptions (grants : List Str) : InvokeOptions :=
  { InvokeOptions.default with
    grants := grants
    secrets := [("service", "\x7b\"client_id\":\"kahea\",\"client_secret\":\"k3y\"\x7d")] }

/-- The hosts a run connects to. -/
def connectedHosts (events : List Event) : List Str :=
  events.filterMap (fun e => match e with
    | .connect _ host _ _ => some host
    | _ => none)

def publicAddress : IpAddr := .v4 ⟨93, 184, 216, 34⟩

/-- The hosts connected to after the plan is admitted. -/
def contactedHosts (world : World) (plan : RequestPlan) (options : InvokeOptions) : List Str :=
  match referenceCrates.parseUrl plan.target with
  | .ok target => connectedHosts (invokeTarget referenceCrates world plan options target []).2
  | .error _ => []

theorem connect_of_contactedHosts {world : World} {plan : RequestPlan} {options : InvokeOptions}
    {host : Str} (hseal : plan.verifySeal referenceCrates = true)
    (hconfig : options.expectedConfigFingerprint = none)
    (hpolicy : options.expectedPolicyFingerprint = none)
    (hgrants : ∀ g ∈ plan.requiredGrants, g ∈ options.grants)
    (h : host ∈ contactedHosts world plan options) :
    ∃ scheme port addresses, .connect scheme host port addresses ∈
      (invoke referenceCrates world plan options []).2 := by
  unfold contactedHosts at h
  split at h
  · rename_i target hparse
    rw [connectedHosts, List.mem_filterMap] at h
    rcases h with ⟨e, he, hhost⟩
    rw [invoke_of_admitted (admitted_of_granted hseal hconfig hpolicy hgrants hparse)]
    cases e <;> cases hhost
    exact ⟨_, _, _, he⟩
  · exact absurd h List.not_mem_nil

/-- The plan for a token URL under a configuration that denies a host. -/
def oauthPlan (tokenUrl : String) (denied : Str) : Except PlanError RequestPlan :=
  (buildPlanWithConfiguration referenceCrates referenceWorld (oauthSource tokenUrl)
    listItemsAuthenticated oauthOptions (denyingConfiguration denied) []).1

theorem verifySeal_oauthPlan {tokenUrl : String} {denied : Str} {plan : RequestPlan}
    (h : oauthPlan tokenUrl denied = .ok plan) : plan.verifySeal referenceCrates = true := by
  rcases buildPlanWithConfiguration_ok h with ⟨_, _, _, rfl⟩
  exact RequestPlan.verifySeal_sealed _ _

set_option maxRecDepth 4000 in
/-- The client secret goes to a host the policy denies. -/
theorem connect_denied_token_host :
    ∃ plan options, oauthPlan "https://login.example.net/token" "login.example.net" = .ok plan ∧
      ∃ scheme host port addresses, .connect scheme host port addresses ∈
          (invoke referenceCrates (referenceWorld.answering publicAddress) plan options []).2 ∧
        ¬ ObeysHostPolicy (denyingConfiguration "login.example.net").policy host := by
  have hplan : (oauthPlan "https://login.example.net/token" "login.example.net").toOption.map
      (fun p => (contactedHosts (referenceWorld.answering publicAddress) p
        (oauthInvokeOptions p.requiredGrants))) = some ["login.example.net".toList] := by
    decide +kernel
  rcases exists_ok_of_toOption hplan with ⟨plan, hok, hhosts⟩
  rcases connect_of_contactedHosts (verifySeal_oauthPlan hok) rfl rfl (fun _ hg => hg)
    (hhosts ▸ List.mem_singleton_self _) with ⟨scheme, port, addresses, hconnect⟩
  refine ⟨plan, _, hok, scheme, _, port, addresses, hconnect, fun hobeys => ?_⟩
  have hdenied := hobeys.1 "login.example.net".toList (List.mem_singleton_self _)
  exact absurd hdenied (by decide)

set_option maxRecDepth 4000 in
/-- With another host denied the exchange obeys the policy. -/
theorem connect_permitted_token_host :
    ∃ plan options scheme host port addresses,
      oauthPlan "https://login.example.net/token" "tracker.example.net" = .ok plan ∧
      .connect scheme host port addresses ∈
        (invoke referenceCrates (referenceWorld.answering publicAddress) plan options []).2 ∧
      ObeysHostPolicy (denyingConfiguration "tracker.example.net").policy host := by
  -- The plan is made and its run contacts the token host.
  have hplan : (oauthPlan "https://login.example.net/token" "tracker.example.net").toOption.map
      (fun p => (contactedHosts (referenceWorld.answering publicAddress) p
          (oauthInvokeOptions p.requiredGrants),
        tokenHostsPermitted referenceCrates (denyingConfiguration "tracker.example.net").policy
          p.auth)) = some (["login.example.net".toList], true) := by
    decide +kernel
  have htarget : (plannedTarget referenceCrates referenceWorld
      (oauthSource "https://login.example.net/token") listItemsAuthenticated oauthOptions
      (denyingConfiguration "tracker.example.net") []).map
        (fun t => decide (Reparses referenceCrates t)) = some true := by decide +kernel
  rcases exists_ok_of_toOption hplan with ⟨plan, hok, h⟩
  rw [Prod.mk.injEq] at h
  rcases Option.map_eq_some_iff.mp htarget with ⟨target, hsome, hreparse⟩
  rcases connect_of_contactedHosts (verifySeal_oauthPlan hok) rfl rfl (fun _ hg => hg)
    (h.1 ▸ List.mem_singleton_self _) with ⟨scheme, port, addresses, hconnect⟩
  exact ⟨plan, _, scheme, _, port, addresses, hok, hconnect, connect_obeys hok hsome
    (of_decide_eq_true hreparse) (tokenHostsObey_of_permitted h.2) hconnect⟩

end Kahea
