import Kahea.Exec.HostPolicy

/-!
# Authentication Placements

The planner writes where a credential goes as a text, from the free-form fields
of a security scheme, and the executor splits the text at its colons to find
out. `Placement.parse` knows three authorizations, a client certificate, and a
name in a header, in the query or in a cookie.

A plan whose placement the executor can perform never fails with an unsupported
authentication (`invoke_avoids`); one whose placement it cannot perform does, on
a plan that is otherwise in order (`invoke_unsupported`). `performable_iff` says
what this asks of the security scheme.

## Main definitions

* `Performable`: The security schemes the executor can perform.
* `Performed`: The placements it can perform.
* `Unsupported`: The error that says it cannot.

## Theorems

* `parse_supported`: The placements `Placement.parse` knows.
* `performed_iff`: What a placement says about its scheme.
* `invoke_avoids`, `invoke_unsupported`: What the executor does with them.
* `performable_iff`: When a planned authentication can be performed.
-/

namespace Kahea

/-! ### Placements -/

/-- The placements of an authorization. -/
def authorizationPlacements : List Str :=
  ["header:Authorization:basic", "header:Authorization:bearer",
    "header:Authorization:Bearer"].map String.toList

/-- The locations of a key. -/
def keyLocations : List Str := ["header", "query", "cookie"].map String.toList

theorem splitOn_join_colon (s : Str) : [':'].intercalate (s.splitOn ':') = s :=
  List.intercalate_splitOn ':'

theorem splitOn_pair {a b : Str} (ha : ':' ∉ a) (hb : ':' ∉ b) :
    (a ++ ':' :: b).splitOn ':' = [a, b] := by
  have hsplit : ([':'].intercalate [a, b]).splitOn ':' = [a, b] :=
    List.splitOn_intercalate ':' (fun t ht => ?_) (List.cons_ne_nil _ _)
  · rwa [show [':'].intercalate [a, b] = a ++ ':' :: b by simp [List.intercalate, List.intersperse]] at hsplit
  · rcases List.mem_cons.mp ht with rfl | ht
    · exact ha
    · rw [List.mem_singleton.mp ht]
      exact hb

/-- The placements the executor knows. -/
theorem parse_supported {placement : Str} : Placement.parse placement ≠ .unsupported ↔
    placement ∈ authorizationPlacements ∨ placement = "tls-client-certificate".toList ∨
      ∃ location ∈ keyLocations, ∃ name, ':' ∉ name ∧ placement = location ++ ':' :: name := by
  constructor
  · intro h
    have hjoin := splitOn_join_colon placement
    have hcolon : ∀ t ∈ placement.splitOn ':', ':' ∉ t := fun t ht => not_mem_of_mem_splitOn ht
    unfold Placement.parse at h
    split at h
    -- Three parts: an authorization header with one of its schemes.
    · rename_i location name scheme hsplit
      rw [hsplit] at hjoin
      rw [← hjoin]
      refine Or.inl ?_
      split_ifs at h with hbasic hbearer
      · rcases hbasic with ⟨rfl, rfl, rfl⟩
        decide
      · rcases hbearer with ⟨rfl, rfl, rfl | rfl⟩ <;> decide
      · exact absurd rfl h
    -- Two parts: a key in a header, a query or a cookie.
    · rename_i location name hsplit
      rw [hsplit] at hjoin hcolon
      have hname := hcolon name (List.mem_cons_of_mem _ List.mem_cons_self)
      refine Or.inr (Or.inr ⟨location, ?_, name, hname, ?_⟩)
      · split_ifs at h with hheader hquery hcookie
        · rw [hheader]
          decide
        · rw [hquery]
          decide
        · rw [hcookie]
          decide
        · exact absurd rfl h
      · rw [← hjoin]
        simp [List.intercalate, List.intersperse]
    -- One part: the client certificate.
    · rename_i location hsplit
      rw [hsplit] at hjoin
      rw [← hjoin]
      refine Or.inr (Or.inl ?_)
      split_ifs at h with hcertificate
      · rw [hcertificate]
        rfl
      · exact absurd rfl h
    · exact absurd rfl h
  -- Conversely each of these texts is read back by its parts.
  · rintro (hplacement | rfl | ⟨location, hlocation, name, hname, rfl⟩)
    · have hall : ∀ placement ∈ authorizationPlacements, Placement.parse placement ≠ .unsupported := by
        decide
      exact hall placement hplacement
    · decide
    · have hplain : ∀ location ∈ keyLocations, ':' ∉ location := by decide
      unfold Placement.parse
      rw [splitOn_pair (hplain location hlocation) hname]
      dsimp only
      rcases List.mem_cons.mp hlocation with rfl | hlocation
      · rw [if_pos rfl]
        exact nofun
      · rcases List.mem_cons.mp hlocation with rfl | hlocation
        · rw [if_neg (by decide), if_pos rfl]
          exact nofun
        · rw [List.mem_singleton.mp hlocation, if_neg (by decide), if_neg (by decide), if_pos rfl]
          exact nofun

/-- The placements the executor can perform: those of an exchange, and those
    `Placement.parse` knows. -/
def Performed (placement : Str) : Prop :=
  if startsWith "oauth2-" placement then
    placement = "oauth2-client-credentials" ∨ placement = "oauth2-refresh-token"
  else Placement.parse placement ≠ .unsupported

/-! ### What the executor does -/

/-- The error of a placement that cannot be performed. -/
def Unsupported (e : ExecError) : Prop := ∃ placement, e = .unsupportedAuth placement

/-- Only a seal that does not verify, a body that is not its sealed one, or a
    placement that cannot be performed brings the error about. -/
def Rare (bad : ExecError → Prop) : Prop :=
  ∀ e, bad e → e = .invalidSeal ∨ ∃ placement, e = .unsupportedAuth placement

theorem Rare.not {bad : ExecError → Prop} (h : Rare bad) {e : ExecError} (hseal : e ≠ .invalidSeal)
    (hplacement : ∀ placement, e ≠ .unsupportedAuth placement) : ¬ bad e := by
  intro he
  rcases h e he with rfl | ⟨placement, rfl⟩
  · exact hseal rfl
  · exact hplacement placement rfl

theorem rare_unsupported : Rare Unsupported := fun _ ⟨placement, he⟩ => Or.inr ⟨placement, he⟩

section

variable {lib : Crates} {world : World} {plan : RequestPlan} {options : InvokeOptions}
  {bad : ExecError → Prop} (hrare : Rare bad)

theorem resolveHost_avoids {host : Str} {port : Nat} :
    Avoids bad (resolveHost world host port) :=
  .bind .past (fun _ => .bind (.emit _) (fun _ => .pure _))

theorem exchange_avoids {host : Str} {port : Nat} {addresses : List SocketAddr} {request : HttpRequest} :
    Avoids bad (exchange world host port addresses request) :=
  .bind (.emit _) (fun _ => .bind (.emit _) (fun _ => .bind .past (fun _ => .pure _)))

theorem checkedBody_spares (h : (∃ bytes, checkedBody lib plan = .ok bytes) ∨ ¬ bad .invalidSeal) :
    Spares bad (checkedBody lib plan) := by
  rcases h with ⟨bytes, h⟩ | h
  · rw [h]
    exact .ok bytes
  refine .bind ?_ (fun bytes => .bind (.ensure h) (fun _ => .ok _))
  unfold plannedBodyBytes
  split
  · exact .ok _
  · split_ifs
    · exact .ok _
    · split
      · exact .ok _
      · exact .error h
    · exact .error h

include hrare

theorem evidence_avoids {α : Type} {m : Eff Event Str α} :
    Avoids bad (m.mapError ExecError.evidence) :=
  .mapError (fun _ => hrare.not nofun nofun)

theorem transport_spares {α : Type} {x : Except TransportFailure α} :
    Spares bad (x.mapError safeTransportError) :=
  .mapError (fun e => hrare.not (by cases e <;> exact nofun) (by cases e <;> exact nofun))

theorem evaluateRuntimeTarget_avoids {target : Url} {method : Str} :
    Avoids bad (evaluateRuntimeTarget lib world plan target method options) := by
  unfold evaluateRuntimeTarget
  refine .bind (.ofExcept ?_) (fun verdict => ?_)
  · unfold runtimeTarget
    refine .bind (.ensure (hrare.not nofun nofun)) (fun _ => ?_)
    refine .bind (.ensure (hrare.not nofun nofun)) (fun _ => ?_)
    split_ifs
    · exact .ok _
    · split
      · exact .error (hrare.not nofun nofun)
      · exact .error (hrare.not nofun nofun)
      · split <;> exact .ok _
  · split
    · exact .pure _
    · refine .bind resolveHost_avoids (fun answer => ?_)
      split
      · exact .fail (hrare.not nofun nofun)
      · exact .fail (hrare.not nofun nofun)
      · split <;> exact .pure _

theorem insertSensitiveHeader_spares {headers : HeaderMap} {name value : Str} :
    Spares bad (insertSensitiveHeader lib headers name value) :=
  .bind (.mapError (fun _ => hrare.not nofun nofun)) (fun _ =>
    .bind (.mapError (fun _ => hrare.not nofun nofun)) (fun _ => .ok _))

theorem resolveSecret_spares {profile : Str} : Spares bad (resolveSecret options profile) := by
  unfold resolveSecret
  split
  · exact .ok _
  · exact .error (hrare.not nofun nofun)

/-- A credential whose placement is known is attached, or fails for another
    reason. -/
theorem applyAuth_spares {target : Url} {headers : HeaderMap}
    (h : ∀ auth, plan.auth = some auth → Placement.parse auth.placement = .unsupported →
      ¬ bad (.unsupportedAuth auth.placement)) :
    Spares bad (applyAuth lib plan options target headers) := by
  have hheader {name value : Str} : Spares bad (do
      let headers ← insertSensitiveHeader lib headers name value
      pure (target, headers)) := .bind (insertSensitiveHeader_spares hrare) (fun _ => .ok _)
  unfold applyAuth
  cases hauth : plan.auth with
  | none => exact .ok _
  | some auth =>
      refine .bind (resolveSecret_spares hrare) (fun secret => ?_)
      cases hplacement : Placement.parse auth.placement with
      | basic => exact hheader
      | bearer => exact hheader
      | header name => exact hheader
      | query name => exact .ok _
      | cookie name => exact hheader
      | clientCertificate => exact .ok _
      | unsupported => exact .error (h auth hauth hplacement)

theorem oauthForm_spares {auth : PlannedAuth} {members : List (Str × Value)}
    (h : auth.placement = "oauth2-client-credentials" ∨ auth.placement = "oauth2-refresh-token" ∨
      ¬ bad (.unsupportedAuth auth.placement)) :
    Spares bad (oauthForm auth members) := by
  refine .bind ?_ (fun _ => .ok _)
  unfold oauthGrantType
  rcases h with h | h | h
  · rw [h]
    exact .ok _
  · rw [h, if_neg (by decide), if_pos rfl]
    split
    · exact .ok _
    · exact .error (hrare.not nofun nofun)
  · split_ifs
    · exact .ok _
    · split
      · exact .ok _
      · exact .error (hrare.not nofun nofun)
    · exact .error h

theorem exchangeToken_avoids {auth : PlannedAuth} {target : Url} {addresses : List SocketAddr}
    (h : auth.placement = "oauth2-client-credentials" ∨ auth.placement = "oauth2-refresh-token" ∨
      ¬ bad (.unsupportedAuth auth.placement)) :
    Avoids bad (exchangeToken lib world auth options target addresses) := by
  have hprofile {α : Type} : Spares bad (.error .invalidOAuthProfile : Except ExecError α) :=
    .error (hrare.not nofun nofun)
  have hexchange {α : Type} : Spares bad (.error .oauthExchange : Except ExecError α) :=
    .error (hrare.not nofun nofun)
  unfold exchangeToken
  -- The form is made of the secret.
  refine .bind (.ofExcept ?_) (fun members => ?_)
  · refine .bind (resolveSecret_spares hrare) (fun _ => ?_)
    split
    · exact .ok _
    · exact hprofile
  refine .bind (.ofExcept ?_) (fun clientId => ?_)
  · split
    · exact .ok _
    · exact hprofile
  refine .bind (.ofExcept ((oauthForm_spares hrare) h)) (fun form => ?_)
  refine .bind .past (fun _ => ?_)
  -- The exchange itself, which may fail in other ways.
  refine .bind (.ofExcept (transport_spares hrare)) (fun _ => ?_)
  refine .bind exchange_avoids (fun answer => ?_)
  refine .bind (.ofExcept (transport_spares hrare)) (fun response => ?_)
  refine .bind (.ofExcept ?_) (fun data => ?_)
  · unfold oauthBody
    split
    · exact hexchange
    · split_ifs
      · exact .ok _
      · exact hexchange
  -- What comes back must be a token.
  refine .bind (.ofExcept ?_) (fun token => ?_)
  · unfold oauthToken
    split
    · exact .ok _
    · exact hexchange
  exact .bind (evidence_avoids hrare) (fun _ => .pure _)

theorem authenticate_avoids {target : Url} {headers : HeaderMap}
    (h : ∀ auth, plan.auth = some auth → Performed auth.placement ∨
      ¬ bad (.unsupportedAuth auth.placement)) :
    Avoids bad (authenticate lib world plan options target headers) := by
  unfold authenticate
  cases hfilter : plan.auth.filter (fun auth => startsWith "oauth2-" auth.placement) with
  | some auth =>
      -- A credential that is exchanged is performed, or its placement may be named.
      rcases Option.filter_eq_some_iff.mp hfilter with ⟨hauth, hoauth⟩
      have hperformed := h auth hauth
      unfold Performed at hperformed
      rw [if_pos hoauth, or_assoc] at hperformed
      refine .bind ?_ (fun outcome => ?_)
      · unfold obtainOauthToken
        refine .bind (.ofExcept ?_) (fun tokenUrl => ?_)
        · split
          · exact .ok _
          · exact .error (hrare.not nofun nofun)
        refine .bind (.ofExcept (.mapError (fun _ => hrare.not nofun nofun))) (fun target => ?_)
        refine .bind (evaluateRuntimeTarget_avoids hrare) (fun verdict => ?_)
        split
        split
        · exact .pure _
        · exact .bind ((exchangeToken_avoids hrare) hperformed) (fun _ => .pure _)
      · split
        · exact .pure _
        · exact .bind (.ofExcept (insertSensitiveHeader_spares hrare)) (fun _ => .pure _)
  | none =>
      refine .bind (.ofExcept (applyAuth_spares hrare (fun auth hauth hparse => ?_))) (fun _ => .pure _)
      -- One that is attached is performed exactly when its placement is read.
      refine (h auth hauth).resolve_left (fun hperformed => ?_)
      have hoauth : ¬ startsWith "oauth2-" auth.placement = true := fun hoauth => by
        rw [Option.filter_eq_none_iff] at hfilter
        exact hfilter auth hauth hoauth
      unfold Performed at hperformed
      rw [if_neg hoauth] at hperformed
      exact hperformed hparse

theorem admitted_spares (h : plan.verifySeal lib = true ∨ ¬ bad .invalidSeal) :
    Spares bad (admitted lib plan options) := by
  unfold admitted
  refine .bind ?_ (fun _ => ?_)
  · rcases h with h | h
    · rw [h]
      exact .ok ()
    · exact .ensure h
  refine .bind (.ensure (hrare.not nofun nofun)) (fun _ => ?_)
  refine .bind (.ensure (hrare.not nofun nofun)) (fun _ => ?_)
  split
  · exact .ok _
  · exact .bind (.mapError (fun _ => hrare.not nofun nofun)) (fun _ => .ok _)

theorem dispatch_avoids {prepared : Prepared} :
    Avoids bad (dispatch lib world plan options prepared) := by
  unfold dispatch
  -- Each stage of the dispatch fails with an error of its own.
  refine .bind exchange_avoids (fun answer => ?_)
  refine .bind (.ofExcept (transport_spares hrare)) (fun response => ?_)
  refine .bind .past (fun _ => ?_)
  unfold observeResponse
  refine .bind (.ofExcept ?_) (fun data => ?_)
  · unfold responseBody
    split
    · exact .error (hrare.not nofun nofun)
    · dsimp only
      split_ifs
      · exact .error (hrare.not nofun nofun)
      · exact .ok _
  refine .bind (evidence_avoids hrare) (fun body => ?_)
  refine .bind ?_ (fun schemaError => ?_)
  · unfold storeFailures
    split_ifs
    · exact .pure _
    · exact .bind (evidence_avoids hrare) (fun _ => .pure _)
  refine .bind (evidence_avoids hrare) (fun trace => ?_)
  exact .bind (evidence_avoids hrare) (fun _ => .pure _)

/-- An invocation fails with an unsupported authentication only where the
    placement cannot be performed, and with an invalid seal only where the seal
    does not verify or the body is not the sealed one. -/
theorem invoke_avoids
    (hplacement : ∀ auth, plan.auth = some auth → Performed auth.placement ∨
      ¬ bad (.unsupportedAuth auth.placement))
    (hseal : plan.verifySeal lib = true ∧ (∃ bytes, checkedBody lib plan = .ok bytes) ∨
      ¬ bad .invalidSeal) :
    Avoids bad (invoke lib world plan options) := by
  -- A planned header fails in ways of its own only.
  have hheader {headers : HeaderMap} {planned : PlannedHeader} :
      Spares bad (plannedHeader lib headers planned) :=
    .bind (.ensure (hrare.not nofun nofun)) (fun _ =>
      .bind (.mapError (fun _ => hrare.not nofun nofun)) (fun _ =>
        .bind (.mapError (fun _ => hrare.not nofun nofun)) (fun _ => .ok _)))
  unfold invoke
  refine .bind ?_ (fun outcome => ?_)
  -- What comes before the request, step by step.
  · unfold prepare
    refine .bind (.ofExcept (admitted_spares hrare (hseal.imp_left And.left))) (fun verdict => ?_)
    split
    · exact .pure _
    unfold prepareTarget
    refine .bind (evaluateRuntimeTarget_avoids hrare) (fun gate => ?_)
    split
    split
    · exact .pure _
    refine .bind (.ofExcept (.mapError (fun _ => hrare.not nofun nofun))) (fun method => ?_)
    refine .bind (.ofExcept (.foldlM (fun _ _ => hheader) _ _)) (fun headers => ?_)
    refine .bind (.ofExcept ?_) (fun identity => ?_)
    · unfold resolveClientIdentity
      split
      · exact .ok _
      · split_ifs
        · exact .bind (resolveSecret_spares hrare) (fun _ =>
            .bind (.ensure (hrare.not nofun nofun)) (fun _ => .ok _))
        · exact .ok _
    refine .bind (authenticate_avoids hrare hplacement) (fun outcome => ?_)
    split
    · exact .pure _
    refine .bind ?_ (fun _ => .pure _)
    -- The body was checked against its seal.
    unfold complete
    refine .bind (.ofExcept (checkedBody_spares (hseal.imp_left And.right))) (fun body => ?_)
    refine .bind .past (fun _ => ?_)
    refine .bind (.ofExcept (transport_spares hrare)) (fun _ => ?_)
    exact .bind (evidence_avoids hrare) (fun _ => .pure _)
  · split
    · exact .pure _
    · exact (dispatch_avoids hrare)

end

/-! ### A plan that cannot be performed -/

/-- A sealed plan for a page with the given authentication. -/
def pagePlan (auth : PlannedAuth) : RequestPlan :=
  RequestPlan.sealed referenceCrates
    { protocol := PROTOCOL
      kind := "plan"
      version := VERSION
      configFingerprint := []
      policyFingerprint := []
      sourceFingerprints := []
      id := []
      operation := []
      target := "https://example.com/"
      method := "GET"
      risk := .read
      requiredGrants := []
      secretRefs := []
      headers := []
      auth := some auth
      body := none
      checks := []
      responseContract := .null
      sensitiveHeaders := []
      redactResponseJsonPointers := []
      derivations := []
      valid := true
      fingerprint := []
      exit := 0 }

/-- The grants of the page and the secret of the authentication. -/
def pageOptions (auth : PlannedAuth) : InvokeOptions :=
  { InvokeOptions.default with
    grants := ["net:example.com:443", "http:GET"]
    secrets := [(auth.profile, [])] }

/-- The URL of the page. -/
def pageUrl : Url := ⟨"https", [], none, some "example.com".toList, none, "/", none, none⟩

/-- The gate lets the page through. -/
theorem pageGate (plan : RequestPlan) {options : InvokeOptions}
    (hgrants : options.grants = ["net:example.com:443".toList, "http:GET".toList]) :
    (evaluateRuntimeTarget referenceCrates (referenceWorld.answering publicAddress) plan pageUrl "GET"
      options []).1 = .ok (none, [⟨publicAddress, 443⟩]) := by
  have hmissing : missingGrant options.grants [networkGrant "example.com" 443, "http:" ++ "GET".toList] =
      none := by
    rw [hgrants]
    decide
  -- The plain checks on the target.
  have hverdict : runtimeTarget referenceCrates plan pageUrl "GET" options =
      .ok (.ok ("example.com".toList, 443)) := by
    have hplain : ¬ (pageUrl.scheme = "http" && !(options.grants.contains "net-insecure-http".toList)) =
        true := by
      rw [hgrants]
      decide
    have hhost : pageUrl.host = some "example.com".toList := rfl
    have hport : pageUrl.portOrKnownDefault = some 443 := by decide
    unfold runtimeTarget
    rw [unit_bind_ok, unit_bind_ok, if_neg hplain, hhost, hport]
    refine ⟨ensure_ok.mpr (by decide), ensure_ok.mpr (by decide), ?_⟩
    dsimp only
    rw [hmissing]
    rfl
  -- The one address is public.
  have hsafe : refusedAddress options.grants [⟨publicAddress, 443⟩] = none := by
    rw [hgrants]
    decide
  have hanswer (past : List Event) (host : Str) : (referenceWorld.answering publicAddress).resolve past
      host 443 = .ok [⟨publicAddress, 443⟩] := rfl
  -- The name is resolved once, and what it resolves to is let through.
  unfold evaluateRuntimeTarget
  rw [Eff.ofExcept_bind, hverdict]
  dsimp only
  rw [resolveHost_bind, hanswer]
  dsimp only
  rw [hsafe]
  rfl

/-- The page is not requested when its placement is unknown. -/
theorem invoke_unsupported {auth : PlannedAuth} (hoauth : startsWith "oauth2-" auth.placement = false)
    (h : Placement.parse auth.placement = .unsupported) :
    (invoke referenceCrates (referenceWorld.answering publicAddress) (pagePlan auth) (pageOptions auth)
      []).1 = .error (.unsupportedAuth auth.placement) := by
  -- Everything up to the credential succeeds.
  have hparse : referenceCrates.parseUrl (pagePlan auth).target = .ok pageUrl := by
    change referenceCrates.parseUrl "https://example.com/" = _
    decide +kernel
  have hadmitted : admitted referenceCrates (pagePlan auth) (pageOptions auth) = .ok (.ok pageUrl) :=
    admitted_of_granted (RequestPlan.verifySeal_sealed _ _) rfl rfl
      (fun g hg => absurd hg List.not_mem_nil) hparse
  rw [invoke_of_admitted hadmitted]
  have hgate := @pageGate (pagePlan auth) (pageOptions auth) rfl
  have hmethod : referenceCrates.method "GET" = .ok "GET".toList := by decide
  have hidentity : resolveClientIdentity referenceCrates (pagePlan auth) (pageOptions auth) = .ok none := by
    have hne : auth.placement ≠ "tls-client-certificate".toList := by
      intro heq
      rw [heq] at h
      exact absurd h (by decide)
    exact if_neg hne
  have hsecret : resolveSecret (pageOptions auth) auth.profile = .ok [] := by
    unfold resolveSecret
    have hfound : lookup auth.profile (pageOptions auth).secrets = some [] := if_pos rfl
    rw [hfound]
  have hheaders : plannedHeaders referenceCrates (pagePlan auth) = .ok [] := rfl
  -- Then the placement is not one the executor knows.
  have happly : applyAuth referenceCrates (pagePlan auth) (pageOptions auth) pageUrl [] =
      .error (.unsupportedAuth auth.placement) := by
    have hauth : (pagePlan auth).auth = some auth := rfl
    unfold applyAuth
    rw [hauth]
    dsimp only
    rw [hsecret, h]
    rfl
  have hexchange : (pagePlan auth).auth.filter (fun auth => startsWith "oauth2-" auth.placement) =
      none := by
    have hauth : (pagePlan auth).auth = some auth := rfl
    rw [hauth, Option.filter_some, hoauth]
    rfl
  -- It is not one that is exchanged either.
  have hauthenticate (past : List Event) : (authenticate referenceCrates
      (referenceWorld.answering publicAddress) (pagePlan auth) (pageOptions auth) pageUrl [] past).1 =
        .error (.unsupportedAuth auth.placement) := by
    unfold authenticate
    rw [hexchange]
    dsimp only
    rw [Eff.ofExcept_bind, happly]
  have hplanMethod : (pagePlan auth).method = "GET".toList := rfl
  unfold invokeTarget
  -- So the preparation ends there, before a connection.
  have hprepare : (prepareTarget referenceCrates (referenceWorld.answering publicAddress) (pagePlan auth)
      (pageOptions auth) pageUrl []).1 = .error (.unsupportedAuth auth.placement) := by
    unfold prepareTarget
    rw [hplanMethod, Eff.bind_of_ok hgate]
    dsimp only
    rw [Eff.ofExcept_bind, hmethod]
    dsimp only [Except.mapError]
    rw [Eff.ofExcept_bind, hheaders]
    dsimp only
    rw [Eff.ofExcept_bind, hidentity]
    dsimp only
    exact Eff.bind_error (hauthenticate _)
  exact Eff.bind_error hprepare

/-! ### Planned authentication -/

/-- The security schemes the executor can perform: a key must be in a known
    location under a name without colons, or spell an authorization, and the
    scheme of an authorization must be one of three. -/
def Performable (object : List (Str × Value)) : Prop :=
  ((stringField object "type").getD [] = "apiKey".toList →
    ((stringField object "in").getD [] ∈ keyLocations ∧ ':' ∉ (stringField object "name").getD []) ∨
      (stringField object "in").getD [] ++ ':' :: (stringField object "name").getD [] ∈
        authorizationPlacements) ∧
  ((stringField object "type").getD [] = "http".toList →
    (stringField object "scheme").getD [] ∈ ["basic", "bearer", "Bearer"].map String.toList)

section

variable {object : List (Str × Value)} {scheme placement : Str} {tokenUrl : Option Str}

/-- The executor can perform a key's placement exactly when the key is in a
    known location under a name without colons, or spells an authorization. -/
theorem performed_key {location name : Str} :
    (startsWith "oauth2-" (location ++ ':' :: name) = false ∧ Performed (location ++ ':' :: name)) ↔
      (location ∈ keyLocations ∧ ':' ∉ name) ∨ location ++ ':' :: name ∈ authorizationPlacements := by
  have hcolons : ∀ location ∈ keyLocations, ':' ∉ location := by decide
  constructor
  · rintro ⟨hoauth, hperformed⟩
    unfold Performed at hperformed
    rw [hoauth, if_neg Bool.false_ne_true, parse_supported] at hperformed
    -- A key has one colon, which tells it from the other placements.
    rcases hperformed with hperformed | hperformed | ⟨known, hknown, plain, hplain, heq⟩
    · exact Or.inr hperformed
    · have hcolon : ':' ∈ "tls-client-certificate".toList := by
        rw [← hperformed]
        exact List.mem_append_right _ List.mem_cons_self
      exact absurd hcolon (by decide)
    · rcases (List.append_cons_inj_of_notMem (hcolons known hknown) hplain).mp heq.symm with
        ⟨rfl, _, rfl⟩
      exact Or.inl ⟨hknown, hplain⟩
  · intro h
    -- No key looks like an exchange.
    have hoauth : startsWith "oauth2-" (location ++ ':' :: name) = false := by
      rcases h with ⟨hlocation, _⟩ | h
      · have hnone : ∀ location ∈ keyLocations, ∀ rest,
            startsWith "oauth2-" (location ++ ':' :: rest) = false := by
          intro location hlocation rest
          rcases List.mem_cons.mp hlocation with rfl | hlocation
          · rfl
          · rcases List.mem_cons.mp hlocation with rfl | hlocation
            · rfl
            · rw [List.mem_singleton.mp hlocation]
              rfl
        exact hnone location hlocation name
      · have hnone : ∀ placement ∈ authorizationPlacements, startsWith "oauth2-" placement = false := by
          decide
        exact hnone _ h
    refine ⟨hoauth, ?_⟩
    unfold Performed
    rw [hoauth, if_neg Bool.false_ne_true, parse_supported]
    rcases h with ⟨hlocation, hname⟩ | h
    · exact Or.inr (Or.inr ⟨location, hlocation, name, hname, rfl⟩)
    · exact Or.inl h

/-- The executor can perform an authorization exactly when its scheme is one of
    three. -/
theorem performed_http {name : Str} :
    Performed ("header:Authorization:".toList ++ name) ↔ name ∈ ["basic", "bearer", "Bearer"].map String.toList := by
  have hoauth : startsWith "oauth2-" ("header:Authorization:".toList ++ name) = false := rfl
  unfold Performed
  rw [hoauth, if_neg Bool.false_ne_true, parse_supported]
  constructor
  · rintro (h | h | ⟨location, hlocation, plain, hplain, heq⟩)
    -- Only the scheme is left to compare.
    · have hstart : authorizationPlacements =
          (["basic", "bearer", "Bearer"].map String.toList).map (fun s => "header:Authorization:".toList ++ s) := by
        decide
      rw [hstart] at h
      rcases List.mem_map.mp h with ⟨known, hknown, heq⟩
      rw [← List.append_cancel_left heq]
      exact hknown
    · cases h
    · -- After the location there is another colon.
      have hcolons : ∀ location ∈ keyLocations, ':' ∉ location := by decide
      have hsplit : "header:Authorization:".toList ++ name = "header".toList ++ ':' :: ("Authorization:".toList ++ name) :=
        rfl
      rw [hsplit] at heq
      have hname := ((List.append_cons_inj_of_notMem (hcolons location hlocation) hplain).mp heq.symm).2.2
      rw [hname] at hplain
      exact absurd (List.mem_append_left name (by decide)) hplain
  · intro h
    refine Or.inl ?_
    -- Each of the three schemes gives a placement that is known.
    rcases List.mem_cons.mp h with rfl | h
    · decide
    · rcases List.mem_cons.mp h with rfl | h
      · decide
      · rw [List.mem_singleton.mp h]
        decide

/-- What the placement of a scheme says about it: an exchange has a token URL
    and the executor can perform it exactly when the scheme can be performed. -/
theorem performed_iff (h : authPlacement scheme object = .ok (placement, tokenUrl)) :
    ((startsWith "oauth2-" placement = true → tokenUrl.isSome) ∧ Performed placement) ↔
      Performable object := by
  have hknown (placement : Str) (hoauth : startsWith "oauth2-" placement = false)
      (hparse : Placement.parse placement ≠ .unsupported) : Performed placement := by
    unfold Performed
    rw [hoauth, if_neg Bool.false_ne_true]
    exact hparse
  -- The kinds of a scheme, in the order the planner tests them.
  unfold authPlacement at h
  dsimp only at h
  unfold Performable
  split_ifs at h with hkey hhttp hoauth hconnect htls
  · -- A key.
    cases h
    have hhttp : (stringField object "type").getD [] ≠ "http".toList := by
      rw [hkey]
      decide
    rw [forall_prop_of_true hkey, forall_prop_of_false hhttp, and_iff_left trivial, ← performed_key]
    refine and_congr_left' ?_
    cases startsWith "oauth2-" ((stringField object "in").getD [] ++ ':' ::
      (stringField object "name").getD []) with
    | true => exact iff_of_false (fun himp => nomatch himp rfl) nofun
    | false => exact iff_of_true nofun rfl
  · -- An authorization.
    cases h
    rw [forall_prop_of_false hkey, forall_prop_of_true hhttp, and_iff_right trivial, performed_http]
    exact and_iff_right nofun
  · -- An exchange.
    rw [forall_prop_of_false hkey, forall_prop_of_false hhttp]
    refine iff_of_true ?_ ⟨trivial, trivial⟩
    cases hflows : (lookup "flows" object).bind Value.asObject with
    | none =>
        rw [hflows] at h
        cases h
    | some flows =>
        rw [hflows] at h
        dsimp only at h
        cases hcredentials : (lookup "clientCredentials" flows).bind Value.asObject with
        | some flow =>
            rw [hcredentials] at h
            dsimp only at h
            cases hurl : stringField flow "tokenUrl" with
            | none =>
                rw [hurl] at h
                cases h
            | some url =>
                rw [hurl] at h
                cases h
                exact ⟨fun _ => rfl, Or.inl rfl⟩
        | none =>
            rw [hcredentials] at h
            dsimp only at h
            cases hcode : (lookup "authorizationCode" flows).bind Value.asObject with
            | none =>
                rw [hcode] at h
                cases h
            | some flow =>
                rw [hcode] at h
                dsimp only at h
                cases hurl : stringField flow "tokenUrl" with
                | none =>
                    rw [hurl] at h
                    cases h
                | some url =>
                    rw [hurl] at h
                    cases h
                    exact ⟨fun _ => rfl, Or.inr rfl⟩
  -- OpenID Connect is a bearer header.
  · cases h
    rw [forall_prop_of_false hkey, forall_prop_of_false hhttp]
    exact iff_of_true ⟨nofun, hknown _ (by decide) (by decide)⟩ ⟨trivial, trivial⟩
  -- Mutual TLS is the client certificate.
  · cases h
    rw [forall_prop_of_false hkey, forall_prop_of_false hhttp]
    exact iff_of_true ⟨nofun, hknown _ (by decide) (by decide)⟩ ⟨trivial, trivial⟩

theorem performed_of_tokenUrl (h : authPlacement scheme object = .ok (placement, tokenUrl))
    (hsome : tokenUrl.isSome) : Performed placement := by
  refine ((performed_iff h).mpr ⟨fun hkey => ?_, fun hhttp => ?_⟩).2
  · unfold authPlacement at h
    dsimp only at h
    rw [if_pos hkey] at h
    cases h
    cases hsome
  · have hkey : (stringField object "type").getD [] ≠ "apiKey".toList := by
      rw [hhttp]
      decide
    unfold authPlacement at h
    dsimp only at h
    rw [if_neg hkey, if_pos hhttp] at h
    cases h
    cases hsome

/-- Where a planned authentication comes from. -/
theorem bindAuth_some {source : OpenApiSource} {operation : OperationDefinition}
    {requested : Option Str} {auth : PlannedAuth} {refs : List Str}
    (h : bindAuth source operation requested = .ok (some auth, refs)) :
    ∃ object, securityScheme source auth.scheme = .ok object ∧
      authPlacement auth.scheme object = .ok (auth.placement, auth.tokenUrl) := by
  unfold bindAuth at h
  dsimp only at h
  cases requested with
  | none =>
      dsimp only at h
      split_ifs at h
      cases h
  | some requested =>
      simp only [except_bind_ok, except_pure_ok] at h
      rcases h with ⟨_, _, object, hobject, ⟨placement, tokenUrl⟩, hplacement, heq⟩
      cases heq
      exact ⟨object, hobject, hplacement⟩

/-- The executor can perform a planned authentication: an exchange has its
    token URL, and no invocation fails with an unsupported authentication. -/
def Executable (auth : PlannedAuth) : Prop :=
  (startsWith "oauth2-" auth.placement = true → auth.tokenUrl.isSome) ∧
    ∀ (lib : Crates) (world : World) (plan : RequestPlan) (options : InvokeOptions) (past : List Event)
      (placement : Str), plan.auth = some auth →
        (invoke lib world plan options past).1 ≠ .error (.unsupportedAuth placement)

/-- An exchange with a token URL can be performed, so only the other placements
    are in question. -/
theorem executable_iff {auth : PlannedAuth} (hexchange : auth.tokenUrl.isSome → Performed auth.placement) :
    Executable auth ↔ (startsWith "oauth2-" auth.placement = true → auth.tokenUrl.isSome) ∧ Performed auth.placement := by
  refine and_congr_right (fun htoken => ?_)
  constructor
  · intro h
    unfold Performed
    split_ifs with hoauth
    · have hperformed := hexchange (htoken hoauth)
      unfold Performed at hperformed
      rwa [if_pos hoauth] at hperformed
    · rw [Bool.not_eq_true] at hoauth
      exact fun hparse => h _ _ _ _ _ _ rfl (invoke_unsupported hoauth hparse)
  · intro h lib world plan options past placement hauth herror
    refine invoke_avoids rare_unsupported (fun auth' hauth' => Or.inl ?_) (Or.inr ?_) past _ herror
      ⟨placement, rfl⟩
    · rw [hauth] at hauth'
      cases hauth'
      exact h
    · rintro ⟨_, hne⟩
      cases hne

/-- A planned authentication can be performed exactly when its security scheme
    can. -/
theorem performable_iff {source : OpenApiSource} {operation : OperationDefinition}
    {requested : Option Str} {auth : PlannedAuth} {refs : List Str} {object : List (Str × Value)}
    (h : bindAuth source operation requested = .ok (some auth, refs))
    (hobject : securityScheme source auth.scheme = .ok object) :
    Executable auth ↔ Performable object := by
  rcases bindAuth_some h with ⟨object', hobject', hplacement⟩
  rw [hobject] at hobject'
  cases hobject'
  rw [executable_iff (performed_of_tokenUrl hplacement), performed_iff hplacement]

end

/-- A document with one security scheme. -/
def loginSource (object : Value) : OpenApiSource :=
  ⟨jsonObject [("components", jsonObject [("securitySchemes", jsonObject [("login", object)])])], [], []⟩

/-- The operation on the items with the login required. -/
def listItemsLogin : OperationDefinition :=
  { listItems with operation := [("security", .array [jsonObject [("login", .array [])]])] }

/-- The authentication planned for the login. -/
def loginAuth (kind : String) (placement : String) : PlannedAuth :=
  { scheme := "login"
    kind := kind
    profile := "me"
    placement := placement
    tokenUrl := none
    scopes := [] }

/-- A bearer login can be performed. -/
theorem bearer_executable : Executable (loginAuth "http" "header:Authorization:bearer") := by
  have hbind : bindAuth (loginSource (jsonObject [("scheme", .string "bearer"), ("type", .string "http")]))
      listItemsLogin (some "login=me".toList) =
        .ok (some (loginAuth "http" "header:Authorization:bearer"), ["secret://me"]) := by
    decide +kernel
  have hscheme : securityScheme
      (loginSource (jsonObject [("scheme", .string "bearer"), ("type", .string "http")])) "login" =
        .ok [("scheme".toList, .string "bearer"), ("type".toList, .string "http")] := by
    decide +kernel
  exact (performable_iff hbind hscheme).mpr ⟨by decide, by decide⟩

/-- A basic login in capitals and a key with a colon in its name are planned,
    and the executor refuses both. -/
theorem planned_unsupported :
    (bindAuth (loginSource (jsonObject [("scheme", .string "Basic"), ("type", .string "http")]))
        listItemsLogin (some "login=me".toList) =
          .ok (some (loginAuth "http" "header:Authorization:Basic"), ["secret://me".toList]) ∧
      (invoke referenceCrates (referenceWorld.answering publicAddress)
        (pagePlan (loginAuth "http" "header:Authorization:Basic"))
        (pageOptions (loginAuth "http" "header:Authorization:Basic")) []).1 =
          .error (.unsupportedAuth "header:Authorization:Basic")) ∧
    bindAuth (loginSource (jsonObject [("in", .string "query"), ("name", .string "a:b"),
        ("type", .string "apiKey")])) listItemsLogin (some "login=me".toList) =
          .ok (some (loginAuth "apiKey" "query:a:b"), ["secret://me".toList]) ∧
      (invoke referenceCrates (referenceWorld.answering publicAddress)
        (pagePlan (loginAuth "apiKey" "query:a:b")) (pageOptions (loginAuth "apiKey" "query:a:b")) []).1 =
          .error (.unsupportedAuth "query:a:b") := by
  refine ⟨⟨?_, invoke_unsupported (by decide) (by decide)⟩, ?_, invoke_unsupported (by decide) (by decide)⟩
  · decide +kernel
  · decide +kernel

end Kahea
