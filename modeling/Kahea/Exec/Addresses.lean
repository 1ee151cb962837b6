import Kahea.Core.Reference
import Kahea.Exec.Gate
import Kahea.Plan.Production

/-!
# Addresses at Plan Time and at Run Time

What the two address tests mean for a plan.

A plan whose hosts are address literals can only be denied for an address, and
then for want of a grant the planner did not list: `requiredGrants_suffice_iff`
says for which literals this happens. The two address tests are lists of their
own, and the planner never looks at the token URL. An IPv6 literal of an HTTP
target is handed to the resolver in its brackets, which is no address text, so
that the invocation fails there and is not denied.

A connection that proceeds has grants for every answered address the test
refuses. The mapped form of an unsafe address is not among them
(`boundaryHeld_iff`).

## Main definitions

* `literalAddress`: The address a host text spells.
* `SelfResolving`: An outside that resolves address texts to themselves.
* `NeverDenied`, `WebsocketNeverDenied`: The gate has no reason to deny a plan.
* `MappedUnsafe`: The mapped form of an unsafe address.
* `Proceeds`: A request that passes a gate.

## Theorems

* `cidr_mem_grants`: Where an address grant of a plan comes from.
* `requiredGrants_suffice_iff`: When a plan's own grants are enough.
* `boundaryHeld_iff`: When every address contacted is safe or granted.
-/

namespace Kahea

/-! ### Literals -/

/-- The address a host text spells, with or without brackets. -/
def literalAddress (host : Str) : Option IpAddr := parseIpAddr (stripBrackets host)

/-- What `to_socket_addrs` makes of literals: an address text resolves to its
    address, and an address in brackets is neither an address text nor a name. -/
structure SelfResolving (world : World) : Prop where
  literal : ∀ past host port address, parseIpAddr host = some address →
    world.resolve past host port = .ok [⟨address, port⟩]
  bracketed : ∀ past host port, parseIpAddr host = none → (literalAddress host).isSome = true →
    ∃ reason, world.resolve past host port = .error reason

/-- An outside that answers literals itself. -/
def World.withLiterals (world : World) : World :=
  { world with
    resolve := fun past host port => match parseIpAddr host, literalAddress host with
      | some address, _ => .ok [⟨address, port⟩]
      | none, some _ => .error "failed to lookup address information: Name or service not known"
      | none, none => world.resolve past host port }

theorem selfResolving_withLiterals (world : World) : SelfResolving world.withLiterals := by
  refine ⟨fun past host port address h => ?_, fun past host port h hliteral => ?_⟩
  · simp only [World.withLiterals, h]
  · rcases Option.isSome_iff_exists.mp hliteral with ⟨address, haddress⟩
    simp only [World.withLiterals, h, haddress]
    exact ⟨_, rfl⟩

/-! ### Address grants of a plan -/

theorem not_addressDependent_approval {configuration : ProjectConfiguration} {risk : RiskClass}
    {production : Bool} {g : Str} (h : g ∈ approvalGrants configuration risk production) :
    isAddressDependentGrant g = false := by
  unfold approvalGrants at h
  rcases List.mem_append.mp h with h | h <;> split_ifs at h
  · rw [List.mem_singleton.mp h]
    rfl
  · exact absurd h List.not_mem_nil
  · rw [List.mem_singleton.mp h]
    rfl
  · exact absurd h List.not_mem_nil

theorem not_addressDependent_credential {auth : PlannedAuth} {g : Str}
    (h : g ∈ credentialGrants auth) : isAddressDependentGrant g = false := by
  unfold credentialGrants at h
  rcases List.mem_cons.mp h with rfl | h
  · rfl
  · split_ifs at h
    · rw [List.mem_singleton.mp h]
      rfl
    · exact absurd h List.not_mem_nil

theorem not_addressDependent_insecure {scheme g : Str} (h : g ∈ insecureGrants scheme) :
    isAddressDependentGrant g = false := by
  unfold insecureGrants at h
  split_ifs at h
  · rw [List.mem_singleton.mp h]
    rfl
  · exact absurd h List.not_mem_nil

theorem not_addressDependent_token {lib : Crates} {tokenUrl : Option Str} {grants : List Str}
    (hg : tokenGrants lib tokenUrl = .ok grants) {g : Str} (h : g ∈ grants) :
    isAddressDependentGrant g = false := by
  unfold tokenGrants at hg
  split at hg
  · cases hg
    exact absurd h List.not_mem_nil
  split at hg
  · cases hg
  simp only [except_bind_ok, except_pure_ok] at hg
  rcases hg with ⟨hostPort, _, rfl⟩
  simp only [List.mem_append, List.mem_cons, List.not_mem_nil, or_false] at h
  rcases h with (rfl | rfl) | h
  · rfl
  · rfl
  · exact not_addressDependent_insecure h

theorem not_addressDependent_auth {lib : Crates} {auth : Option PlannedAuth} {grants : List Str}
    (hg : authGrants lib auth = .ok grants) {g : Str} (h : g ∈ grants) :
    isAddressDependentGrant g = false := by
  unfold authGrants at hg
  split at hg
  · cases hg
    exact absurd h List.not_mem_nil
  simp only [except_bind_ok, except_pure_ok] at hg
  rcases hg with ⟨token, htoken, rfl⟩
  rcases List.mem_append.mp h with h | h
  · exact not_addressDependent_credential h
  · exact not_addressDependent_token htoken h

theorem addressDependent_cidr (address : IpAddr) :
    isAddressDependentGrant (cidrGrant address) = true := by
  cases address <;> rfl

/-- The only address grants of a plan are those of its target literal. -/
theorem cidr_mem_grants {lib : Crates} {configuration : ProjectConfiguration}
    {operation : OperationDefinition} {target : Url} {host : Str} {port : Nat}
    {auth : Option PlannedAuth} {grants : List Str}
    (h : requiredGrants lib configuration operation target host port auth = .ok grants)
    (address : IpAddr) :
    cidrGrant address ∈ grants ↔ cidrGrant address ∈ literalGrants host := by
  rcases mem_requiredGrants h with ⟨credentials, hcredentials, hmem⟩
  -- A grant that names an address comes from no other group.
  have hcidr := addressDependent_cidr address
  rw [hmem]
  constructor
  · rintro ((h | h) | h)
    · simp only [targetGrants, List.mem_append, List.mem_cons, List.not_mem_nil, or_false] at h
      rcases h with ((h | h) | h) | h
      · rw [h] at hcidr
        cases hcidr
      · rw [h] at hcidr
        cases hcidr
      · rw [not_addressDependent_insecure h] at hcidr
        cases hcidr
      · exact h
    · rw [not_addressDependent_approval h] at hcidr
      cases hcidr
    · rw [not_addressDependent_auth hcredentials h] at hcidr
      cases hcidr
  · exact fun h => Or.inl (Or.inl (List.mem_append_right _ h))

theorem cidr_mem_literalGrants {host : Str} {address : IpAddr} :
    cidrGrant address ∈ literalGrants host ↔
      ∃ b, parseIpAddr host = some b ∧ isUnsafeAddress b = true ∧ cidrGrant b = cidrGrant address := by
  unfold literalGrants
  cases parseIpAddr host with
  | none => simp only [List.not_mem_nil, reduceCtorEq, false_and, exists_false]
  | some b =>
      cases hb : isUnsafeAddress b with
      | false =>
          simp only [hb, Bool.false_eq_true, if_false, List.not_mem_nil, Option.some.injEq,
            exists_eq_left', false_and]
      | true =>
          simp only [hb, if_true, List.mem_singleton, Option.some.injEq, exists_eq_left', true_and]
          exact eq_comm

/-- For the literal of the target itself the planner's own test decides. -/
theorem cidr_mem_literalGrants_self {host : Str} {address : IpAddr}
    (h : parseIpAddr host = some address) :
    cidrGrant address ∈ literalGrants host ↔ isUnsafeAddress address = true := by
  rw [cidr_mem_literalGrants]
  constructor
  · rintro ⟨b, hb, hunsafe, _⟩
    rw [hb, Option.some.injEq] at h
    rw [← h]
    exact hunsafe
  · intro hunsafe
    exact ⟨address, h, hunsafe, rfl⟩

/-! ### Enough grants -/

/-- The token URLs an invocation contacts. -/
def tokenUrls (auth : Option PlannedAuth) : List Str :=
  match auth with
  | some auth => if startsWith "oauth2-" auth.placement then auth.tokenUrl.toList else []
  | none => []

/-- The URLs an invocation passes through the gate, with the method of each. -/
def contacts (plan : RequestPlan) : List (Str × Str) :=
  (plan.target, plan.method) :: (tokenUrls plan.auth).map (fun url => (url, "POST".toList))

/-- With exactly its own grants, and literals resolving to themselves, the gate
    denies no contact of the plan. -/
def NeverDenied (lib : Crates) (plan : RequestPlan) : Prop :=
  ∀ world options past, SelfResolving world → options.grants = plan.requiredGrants →
    ∀ contact ∈ contacts plan, ∀ url, lib.parseUrl contact.1 = .ok url → ∀ d addresses,
      (evaluateRuntimeTarget lib world plan url contact.2 options past).1 ≠ .ok (some d, addresses)

/-- With exactly its own grants, and literals resolving to themselves, the gate
    does not deny the session. -/
def WebsocketNeverDenied (lib : Crates) (plan : WebSocketPlan) : Prop :=
  ∀ world options past, SelfResolving world → options.grants = plan.requiredGrants →
    ∀ url, lib.parseUrl plan.target = .ok url → ∀ d,
      (evaluateWebsocketTarget world plan url options past).1 ≠ .ok (.error d)

/-- Every contact of the plan is an address literal. -/
def LiteralContacts (lib : Crates) (plan : RequestPlan) : Prop :=
  ∀ contact ∈ contacts plan, ∀ url, lib.parseUrl contact.1 = .ok url →
    ∃ host address, url.host = some host ∧ literalAddress host = some address

/-- The text of a URL parses to it again, as the URL library documents. -/
def Reparses (lib : Crates) (url : Url) : Prop := lib.parseUrl url.serialize = .ok url

instance (lib : Crates) (url : Url) : Decidable (Reparses lib url) :=
  match h : lib.parseUrl url.serialize with
  | .ok u => decidable_of_iff (u = url) (by simp only [Reparses, h, Except.ok.injEq])
  | .error _ => .isFalse (by simp only [Reparses, h, reduceCtorEq, not_false_eq_true])

/-- The planner calls a target unsafe if it is an address text that the executor
    calls unsafe. -/
def LiteralDisclosed (target : Url) : Prop :=
  ∀ host address, target.host = some host → parseIpAddr host = some address →
    unsafeAddress address = true → isUnsafeAddress address = true

/-- A token host that is an address text and that the executor calls unsafe has the
    grant of the target, an address text that the planner calls unsafe. -/
def TokenDisclosed (lib : Crates) (auth : Option PlannedAuth) (target : Url) : Prop :=
  ∀ text ∈ tokenUrls auth, ∀ url, lib.parseUrl text = .ok url →
    (url.scheme = "http" ∨ url.scheme = "https") → url.username = [] ∧ url.password = none →
    ∀ tokenHost address, url.host = some tokenHost → parseIpAddr tokenHost = some address →
      unsafeAddress address = true →
      ∃ host b, target.host = some host ∧ parseIpAddr host = some b ∧
        isUnsafeAddress b = true ∧ cidrGrant b = cidrGrant address

section

variable {lib : Crates} {world : World} {options : InvokeOptions} {past : List Event}

/-- For a granted address text the gate denies exactly an unsafe address without its
    grant. -/
theorem gate_literal_iff {plan : RequestPlan} {target : Url} {method host : Str} {port : Nat}
    {address : IpAddr} (hworld : SelfResolving world)
    (hearly : runtimeTarget lib plan target method options = .ok (.ok (host, port)))
    (hliteral : parseIpAddr host = some address) :
    (∀ d addresses, (evaluateRuntimeTarget lib world plan target method options past).1 ≠
      .ok (some d, addresses)) ↔
      (unsafeAddress address = true → cidrGrant address ∈ options.grants) := by
  have hone := @refusedAddress_singleton options.grants ⟨address, port⟩
  rw [evaluateRuntimeTarget_eq hearly, hworld.literal past host port address hliteral]
  dsimp only at hone ⊢
  cases hrefused : refusedAddress options.grants [⟨address, port⟩] with
  | none =>
      rw [← hone, hrefused]
      exact ⟨fun _ => rfl, fun _ => nofun⟩
  | some g =>
      rw [← hone, hrefused]
      exact ⟨fun h => absurd rfl (h _ _), nofun⟩

/-- A literal in brackets does not resolve, which is an error, no denial. -/
theorem gate_not_denied_of_bracketed {plan : RequestPlan} {target : Url} {method host : Str}
    {port : Nat} (hworld : SelfResolving world)
    (hearly : runtimeTarget lib plan target method options = .ok (.ok (host, port)))
    (hparse : parseIpAddr host = none) (hliteral : (literalAddress host).isSome = true)
    (d : DenialEnvelope) (addresses : List SocketAddr) :
    (evaluateRuntimeTarget lib world plan target method options past).1 ≠
      .ok (some d, addresses) := by
  rcases hworld.bracketed past host port hparse hliteral with ⟨reason, hreason⟩
  rw [evaluateRuntimeTarget_eq hearly, hreason]
  nofun

/-- A contact that passes the early tests is not denied, if an address text it has
    for a host is safe or granted. -/
theorem gate_not_denied {plan : RequestPlan} {target : Url} {method host : Str} {port : Nat}
    (hworld : SelfResolving world)
    (hearly : runtimeTarget lib plan target method options = .ok (.ok (host, port)))
    (hliteral : (literalAddress host).isSome = true)
    (hgranted : ∀ address, parseIpAddr host = some address → unsafeAddress address = true →
      cidrGrant address ∈ options.grants) (d : DenialEnvelope) (addresses : List SocketAddr) :
    (evaluateRuntimeTarget lib world plan target method options past).1 ≠
      .ok (some d, addresses) := by
  cases hparse : parseIpAddr host with
  | none => exact gate_not_denied_of_bracketed hworld hearly hparse hliteral d addresses
  | some address => exact (gate_literal_iff hworld hearly hparse).mpr (hgranted address hparse) d addresses

/-- A target of another scheme or with credentials is an error, no denial. -/
theorem gate_not_denied_of_shape {plan : RequestPlan} {target : Url} {method : Str}
    (h : ¬ ((target.scheme = "http" ∨ target.scheme = "https") ∧ target.username = [] ∧
      target.password = none)) (d : DenialEnvelope) (addresses : List SocketAddr) :
    (evaluateRuntimeTarget lib world plan target method options past).1 ≠
      .ok (some d, addresses) := by
  intro hr
  unfold evaluateRuntimeTarget at hr
  rw [Eff.ofExcept_bind] at hr
  cases hverdict : runtimeTarget lib plan target method options with
  | error e =>
      rw [hverdict] at hr
      cases hr
  | ok verdict =>
      simp only [runtimeTarget, except_bind_ok, ensure_ok, Bool.or_eq_true, Bool.and_eq_true,
        decide_eq_true_eq, Option.isNone_iff_eq_none, exists_const] at hverdict
      exact h ⟨hverdict.1, hverdict.2.1⟩

/-- The grants a planner lists for a target are those the gate asks for. -/
theorem mem_targetGrants (target : Url) (host method : Str) (port : Nat) :
    networkGrant host port ∈ targetGrants target host port method ∧
      "http:" ++ method ∈ targetGrants target host port method ∧
      (target.scheme = "http" →
        "net-insecure-http".toList ∈ targetGrants target host port method) := by
  refine ⟨?_, ?_, fun h => ?_⟩
  · exact List.mem_append_left _ (List.mem_append_left _ List.mem_cons_self)
  · exact List.mem_append_left _ (List.mem_append_left _
      (List.mem_cons_of_mem _ List.mem_cons_self))
  · refine List.mem_append_left _ (List.mem_append_right _ ?_)
    rw [insecureGrants, if_pos h]
    exact List.mem_cons_self

theorem mem_tokenGrants {text : Str} {url : Url} {grants : List Str}
    (h : tokenGrants lib (some text) = .ok grants) (hparse : lib.parseUrl text = .ok url) :
    ∃ host port, url.host = some host ∧ url.portOrKnownDefault = some port ∧
      networkGrant host port ∈ grants ∧ "http:" ++ "POST".toList ∈ grants ∧
      (url.scheme = "http" → "net-insecure-http".toList ∈ grants) := by
  unfold tokenGrants at h
  dsimp only at h
  rw [hparse] at h
  simp only [except_bind_ok, except_pure_ok, Prod.exists] at h
  rcases h with ⟨host, port, hhost, rfl⟩
  rw [hostAndPort_ok] at hhost
  refine ⟨host, port, hhost.1, hhost.2, ?_, ?_, fun h => ?_⟩
  · exact List.mem_append_left _ List.mem_cons_self
  · exact List.mem_append_left _ (List.mem_cons_of_mem _ List.mem_cons_self)
  · refine List.mem_append_right _ ?_
    rw [insecureGrants, if_pos h]
    exact List.mem_cons_self

/-- The early tests admit a target whose grants are held. -/
theorem runtimeTarget_granted {plan : RequestPlan} {target : Url} {method host : Str} {port : Nat}
    (hshape : (target.scheme = "http" ∨ target.scheme = "https") ∧ target.username = [] ∧
      target.password = none)
    (hhost : target.host = some host) (hport : target.portOrKnownDefault = some port)
    (hnetwork : networkGrant host port ∈ options.grants) (hmethod : "http:" ++ method ∈ options.grants)
    (hplain : target.scheme = "http" → "net-insecure-http".toList ∈ options.grants) :
    runtimeTarget lib plan target method options = .ok (.ok (host, port)) :=
  runtimeTarget_ok.mpr ⟨hshape.1, hshape.2, hplain, hhost, hport, hnetwork, hmethod⟩

end

section

variable {lib : Crates} {world : World} {source : OpenApiSource} {operation : OperationDefinition}
  {planOptions : PlanOptions} {configuration : ProjectConfiguration}

/-- The target of sound parts passes the early tests under the plan's grants. -/
theorem PlanParts.Sound.runtimeTarget_target {parts : PlanParts} {plan : RequestPlan}
    {options : InvokeOptions}
    (h : PlanParts.Sound lib world source operation planOptions configuration parts)
    (hgrants : options.grants = parts.grants) :
    runtimeTarget lib plan parts.target operation.method options
      = .ok (.ok (parts.host, parts.port)) := by
  rcases mem_requiredGrants h.grants with ⟨_, _, hmem⟩
  rcases mem_targetGrants parts.target parts.host operation.method parts.port with
    ⟨hnetwork, hmethod, hplain⟩
  rcases buildTarget_ok lib _ _ _ h.base with ⟨_, hscheme, huser, hpassword⟩
  have hin {g : Str} (hg : g ∈ targetGrants parts.target parts.host parts.port operation.method) :
      g ∈ options.grants := by
    rw [hgrants, hmem]
    exact Or.inl (Or.inl hg)
  refine runtimeTarget_granted ⟨?_, ?_, ?_⟩ h.host h.port (hin hnetwork) (hin hmethod)
    (fun hs => hin (hplain hs))
  · simpa only [PlanParts.target, Url.appendPairs_scheme] using hscheme
  · simpa only [PlanParts.target, Url.appendPairs_username] using huser
  · simpa only [PlanParts.target, Url.appendPairs_password] using hpassword

/-- A token URL of sound parts passes the early tests under the plan's grants,
    unless the gate refuses its shape. -/
theorem PlanParts.Sound.runtimeTarget_token {parts : PlanParts} {plan : RequestPlan}
    {options : InvokeOptions} {text : Str} {url : Url}
    (h : PlanParts.Sound lib world source operation planOptions configuration parts)
    (hgrants : options.grants = parts.grants) (htext : text ∈ tokenUrls parts.auth)
    (hparse : lib.parseUrl text = .ok url)
    (hshape : (url.scheme = "http" ∨ url.scheme = "https") ∧ url.username = [] ∧
      url.password = none) :
    ∃ host port, url.host = some host ∧
      runtimeTarget lib plan url "POST" options = .ok (.ok (host, port)) := by
  -- The grants of the credentials are among those required.
  rcases mem_requiredGrants h.grants with ⟨credentials, hcredentials, hmem⟩
  cases hauth : parts.auth with
  | none =>
      rw [hauth] at htext
      exact absurd htext List.not_mem_nil
  | some auth =>
      rw [hauth] at htext hcredentials
      have hurl : auth.tokenUrl = some text := by
        unfold tokenUrls at htext
        dsimp only at htext
        split_ifs at htext
        · exact Option.mem_toList.mp htext
        · exact absurd htext List.not_mem_nil
      simp only [authGrants, hurl, except_bind_ok, except_pure_ok] at hcredentials
      rcases hcredentials with ⟨token, htoken, rfl⟩
      rcases mem_tokenGrants htoken hparse with ⟨host, port, hhost, hport, hnetwork, hmethod, hplain⟩
      -- Those of the token URL are among them, and they are what the gate asks for.
      have hin {g : Str} (hg : g ∈ token) : g ∈ options.grants := by
        rw [hgrants, hmem]
        exact Or.inr (List.mem_append_right _ hg)
      exact ⟨host, port, hhost, runtimeTarget_granted hshape hhost hport (hin hnetwork)
        (hin hmethod) (fun hs => hin (hplain hs))⟩

/-- The HTTP half: which literals a plan's grants are enough for. -/
theorem neverDenied_http {past : List Event} {plan : RequestPlan} {target : Url}
    (hplan : (buildPlanWithConfiguration lib world source operation planOptions configuration
      past).1 = .ok plan)
    (htarget : plannedTarget lib world source operation planOptions configuration past
      = some target)
    (hreparse : Reparses lib target) (hliteral : LiteralContacts lib plan) :
    NeverDenied lib plan ↔ LiteralDisclosed target ∧ TokenDisclosed lib plan.auth target := by
  rcases buildPlanWithConfiguration_ok hplan with ⟨parts, hparts, hsound, rfl⟩
  have heq : parts.target = target := by
    simpa only [plannedTarget, hparts, Except.toOption, Option.map_some, Option.some.injEq]
      using htarget
  subst heq
  have hparse : lib.parseUrl parts.target.serialize = .ok parts.target := hreparse
  set plan := (parts.assemble lib source operation planOptions.checks configuration).sealed lib
  have hcidr (address : IpAddr) : cidrGrant address ∈ plan.requiredGrants ↔
      cidrGrant address ∈ literalGrants parts.host := cidr_mem_grants hsound.grants address
  constructor
  · intro hnever
    -- One outside that answers literals itself is enough to find the missing grant.
    have hgate := hnever world.withLiterals
      { InvokeOptions.default with grants := plan.requiredGrants } [] (selfResolving_withLiterals _) rfl
    refine ⟨fun host address hhost haddress hunsafe => ?_, fun text htext url hurl hscheme huser
      tokenHost address hhost haddress hunsafe => ?_⟩
    · have hsame : host = parts.host := Option.some.inj (hhost.symm.trans hsound.host)
      subst hsame
      have hgrants : ({ InvokeOptions.default with grants := plan.requiredGrants } : InvokeOptions).grants =
          plan.requiredGrants := rfl
      have hearly : runtimeTarget lib plan parts.target operation.method
          { InvokeOptions.default with grants := plan.requiredGrants } =
            .ok (.ok (parts.host, parts.port)) := hsound.runtimeTarget_target hgrants
      have hheld := (gate_literal_iff (selfResolving_withLiterals world) hearly haddress).mp
        (hgate _ List.mem_cons_self _ hparse) hunsafe
      exact (cidr_mem_literalGrants_self haddress).mp ((hcidr address).mp hheld)
    · have hgrants : ({ InvokeOptions.default with grants := plan.requiredGrants } : InvokeOptions).grants =
          plan.requiredGrants := rfl
      have htoken : ∃ host port, url.host = some host ∧ runtimeTarget lib plan url "POST"
          { InvokeOptions.default with grants := plan.requiredGrants } = .ok (.ok (host, port)) :=
        hsound.runtimeTarget_token hgrants htext hurl ⟨hscheme, huser⟩
      rcases htoken with ⟨host, port, hhost', hearly⟩
      have hsame : host = tokenHost := Option.some.inj (hhost'.symm.trans hhost)
      subst hsame
      have hheld := (gate_literal_iff (selfResolving_withLiterals world) hearly haddress).mp
        (hgate (text, "POST") (List.mem_cons_of_mem _ (List.mem_map.mpr ⟨text, htext, rfl⟩)) _ hurl)
        hunsafe
      rcases cidr_mem_literalGrants.mp ((hcidr address).mp hheld) with ⟨b, hb, hb', hsame⟩
      exact ⟨parts.host, b, hsound.host, hb, hb', hsame⟩
  · rintro ⟨htargetDisclosed, htokenDisclosed⟩ runtime options now hworld hgrants contact hcontact
      url hurl
    rcases hliteral contact hcontact url hurl with ⟨host, literal, hhost, hliteralHost⟩
    have hsome : (literalAddress host).isSome = true := Option.isSome_iff_exists.mpr ⟨_, hliteralHost⟩
    rcases List.mem_cons.mp hcontact with rfl | htoken
    · have hsame : url = parts.target := Except.ok.inj (hurl.symm.trans hparse)
      subst hsame
      have hsame : host = parts.host := Option.some.inj (hhost.symm.trans hsound.host)
      subst hsame
      refine gate_not_denied hworld (hsound.runtimeTarget_target hgrants) hsome
        (fun address haddress hunsafe => ?_)
      rw [hgrants, hcidr, cidr_mem_literalGrants_self haddress]
      exact htargetDisclosed parts.host address hhost haddress hunsafe
    · rcases List.mem_map.mp htoken with ⟨text, htext, rfl⟩
      by_cases hshape : (url.scheme = "http" ∨ url.scheme = "https") ∧ url.username = [] ∧
          url.password = none
      swap
      · exact gate_not_denied_of_shape hshape
      have htoken : ∃ host port, url.host = some host ∧
          runtimeTarget lib plan url "POST" options = .ok (.ok (host, port)) :=
        hsound.runtimeTarget_token hgrants htext hurl hshape
      rcases htoken with ⟨host', port, hhost', hearly⟩
      have hsame : host' = host := Option.some.inj (hhost'.symm.trans hhost)
      subst hsame
      refine gate_not_denied hworld hearly hsome (fun address haddress hunsafe => ?_)
      rcases htokenDisclosed text htext url hurl hshape.1 hshape.2 host' address hhost haddress
        hunsafe with ⟨targetHost, b, htargetHost, hb, hb', hsame⟩
      have hsame' : targetHost = parts.host :=
        Option.some.inj (htargetHost.symm.trans hsound.host)
      subst hsame'
      rw [hgrants, hcidr, cidr_mem_literalGrants]
      exact ⟨b, hb, hb', hsame⟩

end

section

variable {lib : Crates} {world : World} {source : WebSocketSessionSource}
  {c : ProjectConfiguration} {options : InvokeOptions} {past : List Event}

theorem websocketGate_literal_iff {plan : WebSocketPlan} {target : Url} {host : Str} {port : Nat}
    {address : IpAddr} (hworld : SelfResolving world)
    (hearly : websocketRuntimeTarget plan target options = .ok (host, port))
    (hliteral : literalAddress host = some address) :
    (∀ d, (evaluateWebsocketTarget world plan target options past).1 ≠ .ok (.error d)) ↔
      (unsafeAddress address = true → cidrGrant address ∈ options.grants) := by
  have hone := @refusedAddress_singleton options.grants ⟨address, port⟩
  rw [evaluateWebsocketTarget_eq hearly,
    hworld.literal past _ port address hliteral]
  dsimp only at hone ⊢
  rw [if_neg (by simp only [List.isEmpty_cons, List.any_cons, List.any_nil, ne_eq, not_true_eq_false,
    decide_false, Bool.or_self, Bool.false_eq_true, not_false_eq_true])]
  cases hrefused : refusedAddress options.grants [⟨address, port⟩] with
  | none =>
      rw [← hone, hrefused]
      exact ⟨fun _ => rfl, fun _ => nofun⟩
  | some g =>
      rw [← hone, hrefused]
      exact ⟨fun h => absurd rfl (h _), nofun⟩

/-- The only address grants of a session are those of its target literal, read
    without brackets. -/
theorem cidr_mem_websocketGrants {target : Url} {host : Str} {port : Nat} {risk : RiskClass}
    {auth : Option PlannedAuth} (address : IpAddr) :
    cidrGrant address ∈ websocketGrants lib c target host port risk auth ↔
      cidrGrant address ∈ literalGrants (stripBrackets host) := by
  -- A grant that names an address comes from no other group.
  have hcidr := addressDependent_cidr address
  rw [websocketGrants, mem_dedup, mem_sortStrings]
  simp only [List.mem_append, List.mem_cons, List.not_mem_nil, or_false]
  constructor
  · rintro (((((h | h) | h) | h) | h) | h)
    · rw [h] at hcidr
      cases hcidr
    · rw [h] at hcidr
      cases hcidr
    · split_ifs at h
      · rw [List.mem_singleton.mp h] at hcidr
        cases hcidr
      · exact absurd h List.not_mem_nil
    · exact h
    · rw [not_addressDependent_approval h] at hcidr
      cases hcidr
    · cases auth with
      | none => exact absurd h List.not_mem_nil
      | some auth =>
          rw [not_addressDependent_credential h] at hcidr
          cases hcidr
  · exact fun h => Or.inl (Or.inl (Or.inr h))

/-- The target of a sealed session passes the early tests under its own
    grants. -/
theorem SessionParts.Sound.websocketRuntimeTarget {parts : SessionParts} {plan : WebSocketPlan}
    (h : SessionParts.Sound lib source c parts)
    (hgrants : ∀ g, g ∈ options.grants ↔ g ∈ parts.grants lib source c) :
    websocketRuntimeTarget plan parts.target options = .ok (parts.host, parts.port) := by
  rcases websocketTarget_ok lib _ _ h.target with ⟨_, hscheme, huser, hpassword, hfragment⟩
  have hmem (g : Str) : g ∈ options.grants ↔ g ∈ [networkGrant parts.host parts.port,
      "websocket:connect".toList] ++ (if parts.target.scheme = "ws" then
        ["net-insecure-websocket".toList] else []) ++ literalGrants (stripBrackets parts.host) ++
      approvalGrants c (websocketRisk source c) (matchesProduction lib c parts.target) ++
      ((parts.auth.map credentialGrants).getD []) := by
    rw [hgrants, SessionParts.grants, websocketGrants, mem_dedup, mem_sortStrings]
  refine websocketRuntimeTarget_ok.mpr
    ⟨⟨hscheme, huser, hpassword, hfragment⟩, h.host, h.port, ⟨?_, ?_⟩, fun hs => ?_⟩
  · rw [hmem]
    simp only [List.append_assoc, List.cons_append, List.mem_cons, true_or]
  · rw [hmem]
    simp only [List.append_assoc, List.cons_append, List.mem_cons, true_or, or_true]
  · rw [hmem, if_pos hs]
    simp only [List.append_assoc, List.cons_append, List.nil_append, List.mem_cons, true_or, or_true]

/-- The WebSocket half: which literals a session's grants are enough for. -/
theorem neverDenied_websocket {sourceFingerprints : List Str} {operation : Str}
    {plan : WebSocketPlan} {target : Url} {host : Str} {address : IpAddr}
    (hplan : sealWebsocketSource lib source sourceFingerprints operation c = .ok plan)
    (htarget : websocketTarget lib source.url = .ok target)
    (hreparse : Reparses lib target)
    (hhost : target.host = some host) (hliteral : literalAddress host = some address) :
    WebsocketNeverDenied lib plan ↔
      (unsafeAddress address = true → isUnsafeAddress address = true) := by
  -- The plan is sealed over the parts, so its target is the one of the source.
  rcases sealWebsocketSource_ok hplan with ⟨parts, hsound, hsealed⟩
  have hsame : parts.target = target := Except.ok.inj (hsound.target.symm.trans htarget)
  subst hsame
  have hsame : parts.host = host := Option.some.inj (hsound.host.symm.trans hhost)
  subst hsame
  rcases sealed_fields hsealed with ⟨htext, _, _, hrequired⟩
  have hparse : lib.parseUrl plan.target = .ok parts.target := by
    rw [htext]
    exact hreparse
  have hmem (g : Str) : g ∈ plan.requiredGrants ↔ g ∈ parts.grants lib source c := by
    rw [hrequired, mem_dedup, mem_sortStrings]
    rfl
  -- The grant of an address is required exactly where the planner recognised it.
  have hcidr : cidrGrant address ∈ plan.requiredGrants ↔ isUnsafeAddress address = true := by
    rw [hmem, SessionParts.grants, cidr_mem_websocketGrants,
      cidr_mem_literalGrants_self hliteral]
  constructor
  · intro hnever hunsafe
    set own : InvokeOptions := { InvokeOptions.default with grants := plan.requiredGrants } with hown
    -- With the required grants the gate reaches the resolution.
    have hearly : websocketRuntimeTarget plan parts.target own = .ok (parts.host, parts.port) :=
      hsound.websocketRuntimeTarget hmem
    have hworld := selfResolving_withLiterals referenceWorld
    have hheld := (websocketGate_literal_iff hworld hearly hliteral).mp
      (hnever _ own [] hworld rfl _ hparse) hunsafe
    exact hcidr.mp hheld
  · intro hdisclosed runtime own now hworld hgrants url hurl
    -- Whatever the runtime, the URL is this one and the host resolves to itself.
    have hsame : url = parts.target := Except.ok.inj (hurl.symm.trans hparse)
    subst hsame
    have hearly : websocketRuntimeTarget plan parts.target own = .ok (parts.host, parts.port) :=
      hsound.websocketRuntimeTarget (fun g => by rw [hgrants, hmem])
    refine (websocketGate_literal_iff hworld hearly hliteral).mpr (fun hunsafe => ?_)
    rw [hgrants]
    exact hcidr.mpr (hdisclosed hunsafe)

end

/-- A plan's own grants are enough for its literals exactly when the planner's
    address test finds what the executor's test finds, on every address text a
    plan resolves. The first half is about HTTP plans, the second about sessions. -/
theorem requiredGrants_suffice_iff (lib : Crates) :
    (∀ (world : World) (source : OpenApiSource) (operation : OperationDefinition)
        (options : PlanOptions) (configuration : ProjectConfiguration) (past : List Event)
        (plan : RequestPlan) (target : Url),
      (buildPlanWithConfiguration lib world source operation options configuration past).1
        = .ok plan →
      plannedTarget lib world source operation options configuration past = some target →
      Reparses lib target → LiteralContacts lib plan →
      (NeverDenied lib plan ↔ LiteralDisclosed target ∧ TokenDisclosed lib plan.auth target)) ∧
    (∀ (source : WebSocketSessionSource) (sourceFingerprints : List Str)
        (operation : Str) (configuration : ProjectConfiguration) (plan : WebSocketPlan)
        (target : Url) (host : Str) (address : IpAddr),
      sealWebsocketSource lib source sourceFingerprints operation configuration = .ok plan →
      websocketTarget lib source.url = .ok target → Reparses lib target →
      target.host = some host → literalAddress host = some address →
      (WebsocketNeverDenied lib plan ↔
        (unsafeAddress address = true → isUnsafeAddress address = true))) :=
  ⟨fun _ _ _ _ _ _ _ _ => neverDenied_http, fun _ _ _ _ _ _ _ _ => neverDenied_websocket⟩

/-! ### A shared address -/

/-- A read-only operation on the items. -/
def listItems : OperationDefinition :=
  { createItem with handle := "op:list-items", method := "GET", risk := .read }

/-- The selection of a server by its URL. -/
def serverOptions (url : Str) : PlanOptions := { PlanOptions.default with server := some url }

/-- Whether the gate denies the target of a plan under the plan's own grants,
    with literals resolving to themselves. -/
def targetDenied (plan : RequestPlan) : Bool :=
  match referenceCrates.parseUrl plan.target with
  | .error _ => false
  | .ok url => match (evaluateRuntimeTarget referenceCrates referenceWorld.withLiterals plan url
      plan.method { InvokeOptions.default with grants := plan.requiredGrants } []).1 with
    | .ok (some _, _) => true
    | _ => false

theorem not_neverDenied_of_targetDenied {plan : RequestPlan} (h : targetDenied plan = true) :
    ¬ NeverDenied referenceCrates plan := by
  intro hnever
  unfold targetDenied at h
  split at h
  · cases h
  · rename_i url hurl
    split at h
    · rename_i d addresses hdenied
      exact hnever _ _ _ (selfResolving_withLiterals referenceWorld) rfl _ List.mem_cons_self url
        hurl d addresses hdenied
    · cases h

/-- A plan without credentials contacts its target only. -/
theorem literalContacts_of_target {plan : RequestPlan} (hauth : plan.auth = none)
    (h : (match referenceCrates.parseUrl plan.target with
      | .ok url => url.host.bind literalAddress
      | .error _ => none).isSome = true) : LiteralContacts referenceCrates plan := by
  intro contact hcontact url hurl
  have hone : contact = (plan.target, plan.method) := by
    simpa only [contacts, hauth, tokenUrls, List.map_nil, List.mem_singleton] using hcontact
  subst hone
  dsimp only at hurl
  rw [hurl, Option.isSome_iff_exists] at h
  rcases h with ⟨address, h⟩
  rcases Option.bind_eq_some_iff.mp h with ⟨host, hhost, hliteral⟩
  exact ⟨host, address, hhost, hliteral⟩

/-- An address shared by carriers is planned without its grant. -/
theorem neverDenied_shared :
    ∃ plan, (buildPlanWithConfiguration referenceCrates referenceWorld itemsSource listItems
        (serverOptions "https://100.64.0.1") .default []).1 = .ok plan ∧
      LiteralContacts referenceCrates plan ∧ ¬ NeverDenied referenceCrates plan := by
  have hplan : (buildPlanWithConfiguration referenceCrates referenceWorld itemsSource listItems
      (serverOptions "https://100.64.0.1") .default []).1.toOption.map (fun p =>
        (p.auth.isNone, (match referenceCrates.parseUrl p.target with
          | .ok url => url.host.bind literalAddress
          | .error _ => none).isSome, targetDenied p)) = some (true, true, true) := by
    decide +kernel
  rcases exists_ok_of_toOption hplan with ⟨plan, hok, h⟩
  simp only [Prod.mk.injEq, Option.isNone_iff_eq_none] at h
  exact ⟨plan, hok, literalContacts_of_target h.1 h.2.1, not_neverDenied_of_targetDenied h.2.2⟩

/-- A session that closes at once. -/
def closeSource (url : Str) : WebSocketSessionSource :=
  { kind := "websocket-session"
    version := 1
    operationId := "close"
    url := url
    risk := none
    headers := []
    auth := none
    origin := none
    subprotocols := []
    limits := WebSocketPolicyLimits.default
    actions := [.close 1000 []] }

/-- For a private IPv4 literal, and for a private IPv6 literal of a session, the
    grants are enough. -/
theorem requiredGrants_suffice_private :
    (∃ plan, (buildPlanWithConfiguration referenceCrates referenceWorld itemsSource listItems
        (serverOptions "https://10.0.0.5") .default []).1 = .ok plan ∧
      NeverDenied referenceCrates plan) ∧
    (∃ plan, sealWebsocketSource referenceCrates (closeSource "wss://[fd00::1]/") [] "op:close"
        .default = .ok plan ∧ WebsocketNeverDenied referenceCrates plan) := by
  constructor
  -- A private IPv4 literal, which the planner recognises.
  · have hplan : (buildPlanWithConfiguration referenceCrates referenceWorld itemsSource listItems
        (serverOptions "https://10.0.0.5") .default []).1.toOption.map (fun p =>
          (p.auth.isNone, (match referenceCrates.parseUrl p.target with
            | .ok url => url.host.bind literalAddress
            | .error _ => none).isSome)) = some (true, true) := by decide +kernel
    have htarget : (plannedTarget referenceCrates referenceWorld itemsSource listItems
        (serverOptions "https://10.0.0.5") .default []).map (fun t =>
          (decide (Reparses referenceCrates t), t.host)) = some (true, some "10.0.0.5".toList) := by
      decide +kernel
    rcases exists_ok_of_toOption hplan with ⟨plan, hok, h⟩
    simp only [Prod.mk.injEq, Option.isNone_iff_eq_none] at h
    rcases Option.map_eq_some_iff.mp htarget with ⟨target, hsome, hsame⟩
    rw [Prod.mk.injEq, decide_eq_true_eq] at hsame
    refine ⟨plan, hok, ((requiredGrants_suffice_iff _).1 _ _ _ _ _ _ _ _ hok hsome hsame.1
      (literalContacts_of_target h.1 h.2)).mpr ⟨?_, ?_⟩⟩
    · intro host address hhost hliteral _
      rw [hsame.2, Option.some.injEq] at hhost
      subst hhost
      have haddress : parseIpAddr "10.0.0.5".toList = some (.v4 ⟨10, 0, 0, 5⟩) := by decide
      rw [hliteral, Option.some.injEq] at haddress
      subst haddress
      decide
    · intro text htext
      rw [h.1] at htext
      exact absurd htext List.not_mem_nil
  -- An IPv6 literal of the local range.
  · have hplan : (sealWebsocketSource referenceCrates (closeSource "wss://[fd00::1]/") [] "op:close"
        .default).toOption.map (fun _ => ()) = some () := by decide +kernel
    have htarget : (websocketTarget referenceCrates "wss://[fd00::1]/").toOption.map (fun t =>
        (decide (Reparses referenceCrates t), t.host)) = some (true, some "[fd00::1]".toList) := by
      decide +kernel
    rcases exists_ok_of_toOption hplan with ⟨plan, hok, _⟩
    rcases exists_ok_of_toOption htarget with ⟨target, hwebsocket, hsame⟩
    rw [Prod.mk.injEq, decide_eq_true_eq] at hsame
    exact ⟨plan, hok, ((requiredGrants_suffice_iff _).2 _ _ _ _ _ _ _
      (.v6 (.ofSegments [0xfd00, 0, 0, 0, 0, 0, 0, 1])) hok hwebsocket hsame.1 hsame.2
      (by decide)).mpr (fun _ => by decide)⟩

/-! ### Mapped addresses -/

/-- The IPv4-mapped form of an unsafe IPv4 address. -/
def MappedUnsafe (address : IpAddr) : Prop :=
  ∃ a : Ipv4Addr, address = .v6 a.toIpv6Mapped ∧ unsafeAddress (.v4 a) = true

/-- A request that passes a gate, with its grants and the answer it was given. -/
inductive Proceeds (lib : Crates) (world : World) (past : List Event) :
    List Str → List SocketAddr → Prop
  | http (plan : RequestPlan) (target : Url) (method : Str) (options : InvokeOptions)
      (answer : List SocketAddr)
      (h : (evaluateRuntimeTarget lib world plan target method options past).1 = .ok (none, answer)) :
      Proceeds lib world past options.grants answer
  | websocket (plan : WebSocketPlan) (target : Url) (options : InvokeOptions)
      (answer : List SocketAddr)
      (h : (evaluateWebsocketTarget world plan target options past).1 = .ok (.ok answer)) :
      Proceeds lib world past options.grants answer

/-- Every answered address that is unsafe, or the mapped form of an unsafe one,
    has its own grant. -/
def BoundaryHeld (grants : List Str) (answer : List SocketAddr) : Prop :=
  ∀ address ∈ answer, unsafeAddress address.ip = true ∨ MappedUnsafe address.ip →
    cidrGrant address.ip ∈ grants

section

variable {lib : Crates} {world : World} {past : List Event} {grants : List Str}
  {answer : List SocketAddr}

/-- The addresses a gate returns are the whole answer of the name server. -/
theorem Proceeds.answered (h : Proceeds lib world past grants answer) :
    ∃ host port, world.resolve past host port = .ok answer := by
  cases h with
  | http plan target method options _ h =>
      rcases evaluateRuntimeTarget_ok.mp h with ⟨host, port, _, hanswer, _⟩
      exact ⟨host, port, hanswer⟩
  | websocket plan target options _ h =>
      rcases evaluateWebsocketTarget_ok.mp h with ⟨host, port, _, hanswer, _⟩
      exact ⟨stripBrackets host, port, hanswer⟩

/-- Whatever a gate lets through, no address its own test refuses is
    uncovered. -/
theorem Proceeds.covered (h : Proceeds lib world past grants answer) :
    ∀ address ∈ answer, unsafeAddress address.ip = true → cidrGrant address.ip ∈ grants := by
  cases h with
  | http plan target method options _ h =>
      rcases evaluateRuntimeTarget_ok.mp h with ⟨_, _, _, _, _, hrefused⟩
      exact refusedAddress_eq_none.mp hrefused
  | websocket plan target options _ h =>
      rcases evaluateWebsocketTarget_ok.mp h with ⟨_, _, _, _, _, _, hrefused⟩
      exact refusedAddress_eq_none.mp hrefused

/-- The boundary holds for what a gate lets through exactly when every mapped
    form of an unsafe address in the answer has its own grant; for the address
    test alone, exactly the safe addresses have a mapped form it treats alike. -/
theorem boundaryHeld_iff (h : Proceeds lib world past grants answer) :
    (BoundaryHeld grants answer ↔
      ∀ address ∈ answer, MappedUnsafe address.ip → cidrGrant address.ip ∈ grants) ∧
    ∀ a : Ipv4Addr, ((unsafeAddress (.v4 a) = true → unsafeAddress (.v6 a.toIpv6Mapped) = true) ↔
      unsafeAddress (.v4 a) = false) := by
  refine ⟨⟨fun hheld address hmem hmapped => hheld address hmem (Or.inr hmapped), ?_⟩, fun a => ?_⟩
  · rintro hmapped address hmem ( hunsafe | hform)
    · exact h.covered address hmem hunsafe
    · exact hmapped address hmem hform
  · rw [unsafeAddress_mapped, ← Bool.not_eq_true]
    exact ⟨fun himp hunsafe => Bool.false_ne_true (himp hunsafe), fun hsafe hunsafe =>
      absurd hunsafe hsafe⟩

end

/-- An outside that answers every name with one address. -/
def World.answering (world : World) (address : IpAddr) : World :=
  { world with resolve := fun _ _ port => .ok [⟨address, port⟩] }

/-- The mapped form of the address of a metadata service. -/
def mappedMetadata : IpAddr := .v6 (Ipv4Addr.toIpv6Mapped ⟨169, 254, 169, 254⟩)

theorem mappedUnsafe_metadata : MappedUnsafe mappedMetadata :=
  ⟨⟨169, 254, 169, 254⟩, rfl, by decide⟩

/-- Whether the gate lets the target of a plan through, and with which
    addresses. -/
def targetAnswer (plan : RequestPlan) (address : IpAddr) (grants : List Str) :
    Option (List SocketAddr) :=
  match referenceCrates.parseUrl plan.target with
  | .error _ => none
  | .ok url => match (evaluateRuntimeTarget referenceCrates (referenceWorld.answering address) plan
      url plan.method { InvokeOptions.default with grants := grants } []).1 with
    | .ok (none, answer) => some answer
    | _ => none

theorem proceeds_of_targetAnswer {plan : RequestPlan} {address : IpAddr} {grants : List Str}
    {answer : List SocketAddr} (h : targetAnswer plan address grants = some answer) :
    Proceeds referenceCrates (referenceWorld.answering address) [] grants answer := by
  unfold targetAnswer at h
  split at h
  · cases h
  · split at h
    · rename_i hallowed
      cases h
      exact .http plan _ _ { InvokeOptions.default with grants := grants } _ hallowed
    · cases h

/-- A name that is answered with the mapped form of a metadata address is
    contacted without a grant for it. -/
theorem boundaryHeld_metadata :
    ∃ plan, (buildPlanWithConfiguration referenceCrates referenceWorld itemsSource listItems
        (serverOptions "https://app.example.com") .default []).1 = .ok plan ∧
      Proceeds referenceCrates (referenceWorld.answering mappedMetadata) [] plan.requiredGrants
        [⟨mappedMetadata, 443⟩] ∧
      ¬ BoundaryHeld plan.requiredGrants [⟨mappedMetadata, 443⟩] := by
  have hplan : (buildPlanWithConfiguration referenceCrates referenceWorld itemsSource listItems
      (serverOptions "https://app.example.com") .default []).1.toOption.map (fun p =>
        (targetAnswer p mappedMetadata p.requiredGrants,
          p.requiredGrants.contains (cidrGrant mappedMetadata)))
      = some (some [⟨mappedMetadata, 443⟩], false) := by decide +kernel
  rcases exists_ok_of_toOption hplan with ⟨plan, hok, h⟩
  rw [Prod.mk.injEq] at h
  refine ⟨plan, hok, proceeds_of_targetAnswer h.1, fun hheld => ?_⟩
  have hgrant := hheld _ List.mem_cons_self (Or.inr mappedUnsafe_metadata)
  rw [← List.contains_iff_mem, h.2] at hgrant
  exact Bool.false_ne_true hgrant

/-- With its own grant the mapped address is covered. -/
theorem boundaryHeld_granted :
    ∃ grants, Proceeds referenceCrates (referenceWorld.answering mappedMetadata) [] grants
        [⟨mappedMetadata, 443⟩] ∧
      BoundaryHeld grants [⟨mappedMetadata, 443⟩] := by
  have hplan : (buildPlanWithConfiguration referenceCrates referenceWorld itemsSource listItems
      (serverOptions "https://app.example.com") .default []).1.toOption.map (fun p =>
        targetAnswer p mappedMetadata (cidrGrant mappedMetadata :: p.requiredGrants))
      = some (some [⟨mappedMetadata, 443⟩]) := by decide +kernel
  rcases exists_ok_of_toOption hplan with ⟨plan, _, h⟩
  have hproceeds := proceeds_of_targetAnswer h
  refine ⟨_, hproceeds, (boundaryHeld_iff hproceeds).1.mpr fun address hmem _ => ?_⟩
  rw [List.mem_singleton.mp hmem]
  exact List.mem_cons_self

end Kahea
