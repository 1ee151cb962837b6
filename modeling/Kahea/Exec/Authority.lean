import Kahea.Exec.Secrecy
import Kahea.Exec.WebSocket

/-!
# Authority of the Executors

What both executors have checked before each of their effects
(`Event.Authorized`): before a name is resolved, before a connection is opened,
and before a request leaves with the credential of a profile.

The WebSocket executor compares the grants a plan requires with the credential
the plan binds, so it never sends one that is not granted. The HTTP executor
holds the caller to the grants the plan lists and leaves it to the planner that
they include the credential's. A plan sealed by someone else need not list it,
and then the credential is sent without its grant: `authorized_iff` says that
these are the only runs that break the rule.

## Main definitions

* `CredentialGranted`: The grant of the plan's credential is listed or held.

## Theorems

* `executeWebsocket_authorized`: The rule of the WebSocket executor.
* `authorized_iff`: The rule of both.
* `authorized_unlisted_secret`: A credential sent without its grant.
-/

namespace Kahea

section

variable {lib : Crates} {world : World} {options : InvokeOptions} {past : List Event}

/-! ### Sessions -/

/-- A request that is ready for the handshake carries no credential but that of
    the plan, whose grant is held. -/
theorem Handshake.Sound.credential {plan : WebSocketPlan} {h : Handshake}
    (hsound : h.Sound lib plan options) :
    ∀ profile ∈ (h.request plan).credentials, "secret:" ++ profile ∈ options.grants := by
  intro profile hprofile
  simp only [Handshake.request, Handshake.credentials] at hprofile
  split at hprofile
  · exact absurd hprofile List.not_mem_nil
  rename_i auth hauth
  split at hprofile
  · exact absurd hprofile List.not_mem_nil
  · rw [List.mem_singleton.mp hprofile]
    exact hsound.granted _ (secret_mem_requiredGrants hsound.bound hauth)

/-- Every effect of the WebSocket executor is authorized. -/
theorem executeWebsocket_authorized {plan : WebSocketPlan} {e : Event}
    (he : e ∈ (executeWebsocket lib world plan options past).2) :
    e.Authorized (plan.standing lib) options := by
  cases (executeWebsocket_ensures past).2 e he with
  | resolve cleared host port => exact cleared
  | connect sound =>
      rcases sound.admitted with ⟨host, port, hhost, hport, hadmitted⟩
      refine ⟨sound.cleared, sound.granted, ?_⟩
      rw [hhost, hport]
      exact hadmitted
  | send sound => exact sound.credential
  | trace | handshake | payload | transcript | observation => trivial

/-! ### Requests -/

/-- The grant of the plan's credential is listed by the plan or held by the
    caller. -/
def CredentialGranted (plan : RequestPlan) (options : InvokeOptions) : Prop :=
  ∀ auth, plan.auth = some auth → "secret:" ++ auth.profile ∈ plan.requiredGrants ∨
    "secret:" ++ auth.profile ∈ options.grants

/-- What a run sends carries no credential but that of the plan, and the
    grants the plan lists are held. -/
theorem send_mem_invoke {plan : RequestPlan} {request : HttpRequest}
    (h : .send request ∈ (invoke lib world plan options past).2) :
    (∀ g ∈ plan.requiredGrants, g ∈ options.grants) ∧
      ∀ profile ∈ request.credentials, ∃ auth, plan.auth = some auth ∧ auth.profile = profile := by
  rcases mem_invoke.mp h with hprepare | ⟨prepared, hok, hdispatch⟩
  · cases (prepare_ensures past).2 _ hprepare with
    | authenticate _ granted hauth =>
        refine ⟨granted, ?_⟩
        cases hauth with
        | send contact clientId clientSecret form =>
            rename_i auth url
            intro profile hprofile
            simp only [oauthRequest] at hprofile
            split at hprofile
            · rw [List.mem_singleton] at hprofile
              exact ⟨auth, contact.bound, hprofile.symm⟩
            · exact absurd hprofile List.not_mem_nil
  · have hsound := (prepare_ensures past).1 _ hok prepared rfl
    rcases mem_dispatch.mp hdispatch with hcontact | ⟨response, _, hobserve⟩
    · simp only [Prepared.contact, List.mem_cons, reduceCtorEq, List.not_mem_nil, or_false,
        false_or, Event.send.injEq] at hcontact
      refine ⟨hsound.granted, fun profile hprofile => ?_⟩
      rw [hcontact, hsound.credentials, List.mem_map] at hprofile
      rcases hprofile with ⟨auth, hauth, hprofile⟩
      exact ⟨auth, Option.mem_toList.mp hauth, hprofile⟩
    · -- Recording a response only stores.
      rcases (observeResponse_ensures _).2 _ hobserve with ⟨_, _, _, _, hstore⟩
      cases hstore

/-- Every effect of the HTTP executor but the sending of a request is
    authorized whatever the plan lists. -/
theorem invoke_authorized {plan : RequestPlan} {e : Event}
    (he : e ∈ (invoke lib world plan options past).2) (hsend : ∀ request, e ≠ .send request) :
    e.Authorized (plan.standing lib) options := by
  -- An event is one of the preparation, of the contact or of the response.
  rcases mem_invoke.mp he with hprepare | ⟨prepared, hok, hdispatch⟩
  · cases (prepare_ensures past).2 _ hprepare with
    | resolve cleared host port => exact cleared
    | derivation => trivial
    | authenticate cleared granted hauth =>
        cases hauth with
        | resolve host port => exact cleared
        | connect contact hhost admitted => exact ⟨cleared, granted, admitted⟩
        | send contact clientId clientSecret form => exact absurd rfl (hsend _)
        | record contact status data => trivial
  · have hsound := (prepare_ensures past).1 _ hok prepared rfl
    rcases mem_dispatch.mp hdispatch with hcontact | ⟨response, _, hobserve⟩
    · simp only [Prepared.contact, List.mem_cons, List.not_mem_nil, or_false] at hcontact
      rcases hcontact with rfl | rfl
      · exact ⟨hsound.cleared, hsound.granted, hsound.admitted⟩
      · exact absurd rfl (hsend _)
    · rcases (observeResponse_ensures _).2 _ hobserve with ⟨_, _, _, _, hstore⟩
      cases hstore
      trivial

/-- Both executors check every effect, and the HTTP executor breaks the rule in
    those runs only that send a credential whose grant the plan does not list
    and the caller does not hold. -/
theorem authorized_iff {plan : RequestPlan} {session : WebSocketPlan} :
    ((∀ e ∈ (invoke lib world plan options past).2, e.Authorized (plan.standing lib) options) ↔
      ((∃ request, .send request ∈ (invoke lib world plan options past).2 ∧
        request.credentials ≠ []) → CredentialGranted plan options)) ∧
    ∀ e ∈ (executeWebsocket lib world session options past).2,
      e.Authorized (session.standing lib) options := by
  refine ⟨⟨?_, ?_⟩, fun e he => executeWebsocket_authorized he⟩
  -- A request that carries a credential was authorised to.
  · rintro hall ⟨request, hrequest, hne⟩ auth hauth
    rcases List.exists_mem_of_ne_nil _ hne with ⟨profile, hprofile⟩
    rcases (send_mem_invoke hrequest).2 profile hprofile with ⟨auth', hauth', rfl⟩
    rw [hauth, Option.some.injEq] at hauth'
    subst hauth'
    exact Or.inr (hall _ hrequest _ hprofile)
  -- Only the sending of the request depends on the condition.
  · intro hgranted e he
    by_cases hsend : ∃ request, e = .send request
    · rcases hsend with ⟨request, rfl⟩
      rcases send_mem_invoke he with ⟨hlisted, hcredentials⟩
      intro profile hprofile
      rcases hcredentials profile hprofile with ⟨auth, hauth, rfl⟩
      have hne : request.credentials ≠ [] := List.ne_nil_of_mem hprofile
      rcases hgranted ⟨request, he, hne⟩ auth hauth with h | h
      · exact hlisted _ h
      · exact h
    · exact invoke_authorized he (fun request h => hsend ⟨request, h⟩)

end

/-! ### A credential without its grant -/

/-- The grants of a plan that leaves out the one of its credential. -/
def unlistedGrants : List Str := ["http:GET".toList, "net:api.example.com:443".toList]

/-- Whether a run of the plan sends a credential. -/
def sendsCredential (world : World) : Bool :=
  match referenceCrates.parseUrl (bearerPlan unlistedGrants).target with
  | .error _ => false
  | .ok target => (invokeTarget referenceCrates world
      ((bearerPlan unlistedGrants).sealed referenceCrates) (bearerOptions unlistedGrants)
      target []).2.any (fun e => match e with
        | .send request => request.credentials = ["service".toList]
        | _ => false)

/-- A plan sealed without the grant of its credential sends the credential to a
    caller who never granted it. -/
theorem authorized_unlisted_secret :
    ((bearerPlan unlistedGrants).sealed referenceCrates).verifySeal referenceCrates = true ∧
    "secret:service".toList ∉ (bearerOptions unlistedGrants).grants ∧
    ∃ request, .send request ∈ (invoke referenceCrates
        (referenceWorld.responding (echoResponse "text/plain"))
        ((bearerPlan unlistedGrants).sealed referenceCrates) (bearerOptions unlistedGrants) []).2 ∧
      ¬ (Event.send request).Authorized
        (((bearerPlan unlistedGrants).sealed referenceCrates).standing referenceCrates)
        (bearerOptions unlistedGrants) := by
  have hnotgranted : "secret:service".toList ∉ (bearerOptions unlistedGrants).grants := by decide
  refine ⟨RequestPlan.verifySeal_sealed _ _, hnotgranted, ?_⟩
  -- The run does send the credential.
  have hsends : sendsCredential (referenceWorld.responding (echoResponse "text/plain")) = true := by
    decide +kernel
  unfold sendsCredential at hsends
  split at hsends
  · cases hsends
  rename_i target hparse
  rw [invoke_of_admitted (admitted_of_granted (RequestPlan.verifySeal_sealed _ _) rfl rfl
    (fun _ hg => hg) hparse)]
  rw [List.any_eq_true] at hsends
  rcases hsends with ⟨e, he, hcredential⟩
  cases e with
  | readFile | resolve | connect | store => exact absurd hcredential Bool.false_ne_true
  | send request =>
      have hcarried : "service".toList ∈ request.credentials := by
        rw [of_decide_eq_true hcredential]
        exact List.mem_singleton_self _
      -- Were the event authorised, the secret would have been granted.
      refine ⟨request, he, fun hauthorized => ?_⟩
      have hgranted : "secret:" ++ "service".toList ∈ (bearerOptions unlistedGrants).grants :=
        hauthorized _ hcarried
      exact absurd hgranted (by decide)

end Kahea
