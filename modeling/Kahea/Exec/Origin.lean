import Kahea.Base.Utf8
import Kahea.Core.Reference
import Kahea.Exec.WebSocket

/-!
# Origins of a Handshake

The `Origin` headers of a handshake under a configuration that lists the
origins a session may claim.

An origin reaches the handshake on two routes. The typed one of a source is
normalised and compared with the list. The header map of a source is filtered
by name, in the planner, in the plan's validation and again where the request
is built, and none of the three lists has `origin` in it: a header of that
name, in any spelling, is sent as it stands beside the typed one.
`origins_allowed_iff` says that this is the only way around the list.

## Main definitions

* `allowedOrigins`: The list, normalised.
* `OriginAllowed`: A header value that is an origin of the list.
* `HeaderLibrary`: What the header functions of the libraries do.

## Theorems

* `websocketHeaderMap_ok`: The headers of a handshake.
* `origins_allowed_iff`: When every origin of a handshake is one of the list.
* `origins_allowed_typed`: A source without such a header.
* `origins_not_allowed`: A source with one.
-/

namespace Kahea

section

variable (lib : Crates)

/-- The origins a configuration allows, normalised. -/
def allowedOrigins (c : ProjectConfiguration) : Except PlanError (List Str) :=
  c.policy.websocket.allowedOrigins.mapM (normalizeAllowedOrigin lib)

/-- After normalisation the value is an origin of the list. -/
def OriginAllowed (c : ProjectConfiguration) (value : List UInt8) : Prop :=
  ∃ text origin allowed, value = utf8 text ∧ normalizeOrigin lib text = .ok origin ∧
    allowedOrigins lib c = .ok allowed ∧ origin ∈ allowed

/-- Header names are lower-cased, header values are the bytes of their text,
    and the library adds no origin of its own. -/
structure HeaderLibrary : Prop where
  name : ∀ s n, lib.headerName s = .ok n → n = lower s
  value : ∀ s v, lib.headerValue s = .ok v → v = utf8 s
  client : ∀ key target path initial, lib.clientRequest key target = some (path, initial) →
    ∀ h ∈ initial, h.1 ≠ "origin".toList

end

section

variable {lib : Crates} {c : ProjectConfiguration} {source : WebSocketSessionSource}
  {options : InvokeOptions}

/-! ### The headers of a handshake -/

theorem insertHeader_ok (hlib : HeaderLibrary lib) {headers result : HeaderMap} {name value : Str}
    {sensitive : Bool} (h : insertHeader lib headers name value sensitive = .ok result) :
    result = headers ++ [⟨lower name, utf8 value, sensitive⟩] := by
  simp only [insertHeader, except_bind_ok, except_mapError_ok, except_pure_ok] at h
  rcases h with ⟨_, _, n, hname, v, hvalue, rfl⟩
  rw [hlib.name _ _ hname, hlib.value _ _ hvalue]

/-- A planned header as it is sent. -/
def PlannedHeader.sent (planned : PlannedHeader) : Header :=
  ⟨lower planned.name, utf8 planned.value, false⟩

/-- The loop over the planned headers sends each of them. -/
theorem insertPlannedHeaders_ok (hlib : HeaderLibrary lib) {planned : List PlannedHeader}
    {headers result : HeaderMap}
    (h : planned.foldlM (insertPlannedHeader lib) headers = .ok result) :
    result = headers ++ planned.map PlannedHeader.sent := by
  induction planned generalizing headers with
  | nil =>
      rw [List.foldlM_nil, except_pure_ok] at h
      rw [← h, List.map_nil, List.append_nil]
  | cons first rest ih =>
      rw [List.foldlM_cons, except_bind_ok] at h
      rcases h with ⟨headers', hfirst, hrest⟩
      simp only [insertPlannedHeader, except_bind_ok] at hfirst
      rcases hfirst with ⟨_, _, hinsert⟩
      rw [ih hrest, insertHeader_ok hlib hinsert, List.append_assoc]
      rfl

/-- The credential of a handshake is in no header but `authorization`. -/
theorem insertAuthorization_ok (hlib : HeaderLibrary lib) {plan : WebSocketPlan}
    {headers result : HeaderMap} (h : insertAuthorization lib plan options headers = .ok result) :
    ∃ added, result = headers ++ added ∧ ∀ x ∈ added, x.name = "authorization".toList := by
  unfold insertAuthorization at h
  split at h
  · cases h
    exact ⟨[], (List.append_nil _).symm, fun _ hx => absurd hx List.not_mem_nil⟩
  · split_ifs at h
    · cases h
      exact ⟨[], (List.append_nil _).symm, fun _ hx => absurd hx List.not_mem_nil⟩
    · simp only [except_bind_ok] at h
      rcases h with ⟨secret, _, value, _, hinsert⟩
      refine ⟨_, insertHeader_ok hlib hinsert, fun x hx => ?_⟩
      rw [List.mem_singleton.mp hx]
      rfl

/-- What is added after the typed origin is no origin. -/
theorem insertOffered_ok (hlib : HeaderLibrary lib) {plan : WebSocketPlan}
    {headers result : HeaderMap}
    (h : (do
      let headers ←
        if plan.subprotocols = [] then Except.ok headers
        else insertHeader lib headers "sec-websocket-protocol" (join ", " plan.subprotocols) false
      insertAuthorization lib plan options headers) = .ok result) :
    ∃ added, result = headers ++ added ∧ ∀ x ∈ added, x.name ≠ "origin".toList := by
  -- The protocols offered, if any, then the credential.
  by_cases hsub : plan.subprotocols = []
  · simp only [if_pos hsub, except_bind_ok] at h
    rcases h with ⟨_, hsame, hauthorization⟩
    cases hsame
    rcases insertAuthorization_ok hlib hauthorization with ⟨credential, rfl, hcredential⟩
    refine ⟨credential, rfl, fun x hx => ?_⟩
    rw [hcredential x hx]
    decide
  · simp only [if_neg hsub, except_bind_ok] at h
    rcases h with ⟨offered, hoffered, hauthorization⟩
    rcases insertAuthorization_ok hlib hauthorization with ⟨credential, rfl, hcredential⟩
    rw [insertHeader_ok hlib hoffered]
    refine ⟨⟨lower "sec-websocket-protocol", utf8 (join ", " plan.subprotocols), false⟩ ::
      credential, ?_, fun x hx => ?_⟩
    · rw [List.append_assoc, List.singleton_append]
    -- Neither of the names is the one of the origin.
    · rcases List.mem_cons.mp hx with rfl | hx
      · change lower "sec-websocket-protocol".toList ≠ _
        decide
      · rw [hcredential x hx]
        decide

/-- The headers of a handshake: those of the library, the planned ones, the
    typed origin and some that are no origin. -/
theorem websocketHeaderMap_ok (hlib : HeaderLibrary lib) {plan : WebSocketPlan}
    {initial : List (Str × Str)} {headers : HeaderMap}
    (h : websocketHeaderMap lib plan options initial = .ok headers) :
    ∃ rest, headers = initial.map (fun e => (⟨e.1, utf8 e.2, false⟩ : Header)) ++
        plan.headers.map PlannedHeader.sent ++
        plan.origin.toList.map (fun o => (⟨"origin", utf8 o, false⟩ : Header)) ++ rest ∧
      ∀ x ∈ rest, x.name ≠ "origin".toList := by
  unfold websocketHeaderMap at h
  rw [except_bind_ok] at h
  rcases h with ⟨planned, hplanned, h⟩
  rw [insertPlannedHeaders_ok hlib hplanned] at h
  -- The origin is added where the plan has one.
  cases horigin : plan.origin with
  | none =>
      rw [horigin] at h
      rcases insertOffered_ok hlib h with ⟨rest, hheaders, hrest⟩
      refine ⟨rest, ?_, hrest⟩
      rw [hheaders, Option.toList_none, List.map_nil, List.append_nil]
  | some origin =>
      rw [horigin] at h
      rcases except_bind_ok.mp h with ⟨typed, htyped, h⟩
      rcases insertOffered_ok hlib h with ⟨rest, hheaders, hrest⟩
      refine ⟨rest, ?_, hrest⟩
      rw [hheaders, insertHeader_ok hlib htyped, Option.toList_some, List.map_singleton]
      rfl

/-! ### The plan -/

/-- The headers of a source are planned as they stand. -/
theorem websocketHeaders_ok {names : List Str} {entries : List (Str × Str)}
    {headers : List PlannedHeader} (h : websocketHeadersFrom c names entries = .ok headers) :
    headers = entries.map (fun e => ⟨e.1, e.2⟩) := by
  induction entries generalizing names headers with
  | nil =>
      cases h
      rfl
  | cons entry rest ih =>
      rcases entry with ⟨name, value⟩
      simp only [websocketHeadersFrom, except_bind_ok, except_pure_ok] at h
      rcases h with ⟨_, _, _, _, _, _, _, _, planned, hplanned, rfl⟩
      rw [ih hplanned]
      rfl

/-- A typed origin has been found in the list, when there is one. -/
theorem enforceWebsocketOriginPolicy_ok {origin : Str} {u : Unit}
    (hlist : c.policy.websocket.allowedOrigins ≠ [])
    (h : enforceWebsocketOriginPolicy lib (some origin) c = .ok u) :
    ∃ allowed, allowedOrigins lib c = .ok allowed ∧ origin ∈ allowed := by
  simp only [enforceWebsocketOriginPolicy, except_bind_ok, ensure_ok, Bool.or_eq_true,
    List.contains_iff_mem] at h
  rcases h with ⟨allowed, hallowed, hempty | hmem⟩
  · -- The normalised list is as long as the configured one.
    rcases hconfigured : c.policy.websocket.allowedOrigins with _ | ⟨first, rest⟩
    · exact absurd hconfigured hlist
    rw [hconfigured, List.mapM_cons] at hallowed
    simp only [except_bind_ok, except_pure_ok] at hallowed
    rcases hallowed with ⟨_, _, _, _, rfl⟩
    cases hempty
  · exact ⟨allowed, hallowed, hmem⟩

/-- What planning makes of the headers and the origin of a source. -/
theorem sealWebsocketSource_origin {sourceFingerprints : List Str} {operation : Str}
    {plan : WebSocketPlan} (hlist : c.policy.websocket.allowedOrigins ≠ [])
    (h : sealWebsocketSource lib source sourceFingerprints operation c = .ok plan) :
    (∀ planned, planned ∈ plan.headers ↔ (planned.name, planned.value) ∈ source.headers) ∧
      ∀ origin, plan.origin = some origin →
        ∃ allowed, allowedOrigins lib c = .ok allowed ∧ origin ∈ allowed := by
  rcases sealWebsocketSource_parts h with ⟨parts, hparts, hsealed⟩
  simp only [sessionParts, except_bind_ok, except_pure_ok, Prod.exists] at hparts
  rcases hparts with ⟨_, _, target, _, host, port, _, _, _, origin, _, _, hpolicy, _, _, headers,
    hheaders, auth, refs, _, limits, _, _, _, fingerprint, _, rfl⟩
  rcases WebSocketPlan.sealed_ok lib _ _ hsealed with ⟨_, rfl⟩
  refine ⟨fun planned => ?_, fun o ho => ?_⟩
  -- The headers of the source are planned as they are.
  · simp only [WebSocketPlan.normalize, SessionParts.assemble, List.mem_insertionSort]
    rw [websocketHeaders_ok hheaders, List.mem_map]
    constructor
    · rintro ⟨entry, hentry, rfl⟩
      exact hentry
    · exact fun hmem => ⟨_, hmem, rfl⟩
  -- The origin of the plan is one the policy allows.
  · have hsome : origin = some o := ho
    subst hsome
    exact enforceWebsocketOriginPolicy_ok hlist hpolicy

/-- With a list of origins, every origin a handshake carries is one of the list
    exactly when the headers of the source that are named like it are. -/
theorem origins_allowed_iff (hlib : HeaderLibrary lib) {sourceFingerprints : List Str}
    {operation key path : Str} {plan : WebSocketPlan} {headers : HeaderMap}
    (hlist : c.policy.websocket.allowedOrigins ≠ [])
    (hplan : sealWebsocketSource lib source sourceFingerprints operation c = .ok plan)
    (hnormal : ∀ origin, plan.origin = some origin → normalizeOrigin lib origin = .ok origin)
    (hrequest : websocketRequest lib plan options key = .ok (path, headers)) :
    (∀ h ∈ headers, h.name = "origin".toList → OriginAllowed lib c h.value) ↔
      ∀ e ∈ source.headers, lower e.1 = "origin".toList → OriginAllowed lib c (utf8 e.2) := by
  rcases sealWebsocketSource_origin hlist hplan with ⟨hheaders, htyped⟩
  unfold websocketRequest at hrequest
  split at hrequest
  · cases hrequest
  rename_i path' initial hclient
  simp only [except_bind_ok, except_pure_ok, Prod.mk.injEq] at hrequest
  rcases hrequest with ⟨_, hmap, rfl, rfl⟩
  rcases websocketHeaderMap_ok hlib hmap with ⟨rest, rfl, hrest⟩
  constructor
  · intro hallowed e he hname
    have hplanned : (⟨e.1, e.2⟩ : PlannedHeader) ∈ plan.headers := (hheaders _).mpr he
    refine hallowed (PlannedHeader.sent ⟨e.1, e.2⟩) ?_ hname
    exact List.mem_append_left _ (List.mem_append_left _ (List.mem_append_right _
      (List.mem_map_of_mem hplanned)))
  · intro hsource h hmem hname
    rcases List.mem_append.mp hmem with hmem | hmem
    rcases List.mem_append.mp hmem with hmem | hmem
    rcases List.mem_append.mp hmem with hmem | hmem
    · -- The library adds no origin.
      rcases List.mem_map.mp hmem with ⟨entry, hentry, rfl⟩
      exact absurd hname (hlib.client _ _ _ _ hclient entry hentry)
    · rcases List.mem_map.mp hmem with ⟨planned, hplanned, rfl⟩
      exact hsource _ ((hheaders planned).mp hplanned) hname
    · rcases List.mem_map.mp hmem with ⟨origin, horigin, rfl⟩
      rw [Option.mem_toList] at horigin
      rcases htyped origin horigin with ⟨allowed, hallowed, hmem⟩
      exact ⟨origin, origin, allowed, rfl, hnormal origin horigin, hallowed, hmem⟩
    · exact absurd hname (hrest h hmem)

end

theorem headerLibrary_reference : HeaderLibrary referenceCrates := by
  refine ⟨fun s n h => ?_, fun s v h => ?_, fun key target path initial h entry hentry => ?_⟩
  · simp only [referenceCrates] at h
    split_ifs at h
    cases h
    rfl
  · simp only [referenceCrates, headerBytes] at h
    split_ifs at h
    cases h
    rfl
  · simp only [referenceCrates, clientHeaders] at h
    split at h
    · cases h
    · rcases Option.map_eq_some_iff.mp h with ⟨host, _, hparts⟩
      cases hparts
      simp only [List.mem_cons, List.not_mem_nil, or_false] at hentry
      rcases hentry with rfl | rfl | rfl | rfl | rfl <;> dsimp only <;> decide

/-- A session with the given headers and a typed origin. -/
def originSource (headers : List (Str × Str)) : WebSocketSessionSource :=
  { kind := "websocket-session"
    version := 1
    operationId := "watch"
    url := "wss://stream.example/"
    risk := none
    headers := headers
    auth := none
    origin := some "https://app.example"
    subprotocols := []
    limits := WebSocketPolicyLimits.default
    actions := [.close 1000 []] }

/-- A configuration that allows one origin. -/
def originConfiguration : ProjectConfiguration :=
  { ProjectConfiguration.default with
    policy := { ProjectConfiguration.default.policy with
      websocket := { ProjectConfiguration.default.policy.websocket with
        allowedOrigins := ["https://app.example"] } } }

/-- The origins of the handshake a source is planned to send. -/
def originsSent (source : WebSocketSessionSource) : Option (Str × List (List UInt8)) :=
  (sealWebsocketSource referenceCrates source [] "op:watch" originConfiguration).toOption.bind
    (fun plan => (websocketRequest referenceCrates plan .default
      "dGhlIHNhbXBsZSBub25jZQ==").toOption.map (fun request =>
        (plan.origin.getD [], (request.2.filter (fun h => h.name = "origin".toList)).map
          Header.value)))

theorem originsSent_eq_some {source : WebSocketSessionSource} {origin : Str}
    {values : List (List UInt8)} (h : originsSent source = some (origin, values)) :
    ∃ plan path headers,
      sealWebsocketSource referenceCrates source [] "op:watch" originConfiguration = .ok plan ∧
      plan.origin.getD [] = origin ∧
      websocketRequest referenceCrates plan .default "dGhlIHNhbXBsZSBub25jZQ==" =
        .ok (path, headers) ∧
      (headers.filter (fun x => x.name = "origin".toList)).map Header.value = values := by
  rcases Option.bind_eq_some_iff.mp h with ⟨plan, hplan, h⟩
  rcases exists_ok_of_toOption h with ⟨⟨path, headers⟩, hrequest, h⟩
  rw [Prod.mk.injEq] at h
  refine ⟨plan, path, headers, ?_, h.1, hrequest, h.2⟩
  cases hsealed : sealWebsocketSource referenceCrates source [] "op:watch" originConfiguration with
  | ok plan' =>
      rw [hsealed] at hplan
      cases hplan
      rfl
  | error e =>
      rw [hsealed] at hplan
      cases hplan

theorem normalizeOrigin_typed :
    normalizeOrigin referenceCrates "https://app.example" = .ok "https://app.example".toList := by
  have hnormal : (normalizeOrigin referenceCrates "https://app.example").toOption.map id =
      some "https://app.example".toList := by decide +kernel
  rcases exists_ok_of_toOption hnormal with ⟨_, hok, rfl⟩
  exact hok

/-- A source without a header of that name sends the typed origin alone. -/
theorem origins_allowed_typed :
    ∃ plan path headers,
      sealWebsocketSource referenceCrates (originSource [("X-Trace", "1")]) [] "op:watch"
        originConfiguration = .ok plan ∧
      websocketRequest referenceCrates plan .default "dGhlIHNhbXBsZSBub25jZQ==" =
        .ok (path, headers) ∧
      ∀ h ∈ headers, h.name = "origin".toList →
        OriginAllowed referenceCrates originConfiguration h.value := by
  have hsent : originsSent (originSource [("X-Trace", "1")]) =
      some ("https://app.example".toList, [utf8 "https://app.example"]) := by decide +kernel
  rcases originsSent_eq_some hsent with ⟨plan, path, headers, hplan, horigin, hrequest, _⟩
  have hlist : originConfiguration.policy.websocket.allowedOrigins ≠ [] := List.cons_ne_nil _ _
  -- The configured origin is written as it is normalised.
  have hnormal : ∀ origin, plan.origin = some origin →
      normalizeOrigin referenceCrates origin = .ok origin := by
    intro origin hsome
    rw [hsome, Option.getD_some] at horigin
    rw [horigin]
    exact normalizeOrigin_typed
  -- The only header of the source has another name.
  have hheaders : ∀ e ∈ (originSource [("X-Trace", "1")]).headers,
      lower e.1 = "origin".toList →
        OriginAllowed referenceCrates originConfiguration (utf8 e.2) := by
    intro e he hname
    have hone : e = ("X-Trace".toList, "1".toList) := List.mem_singleton.mp he
    have hother : lower "X-Trace" ≠ "origin".toList := by decide +kernel
    rw [hone] at hname
    exact absurd hname hother
  exact ⟨plan, path, headers, hplan, hrequest,
    (origins_allowed_iff (c := originConfiguration) headerLibrary_reference hlist hplan hnormal
      hrequest).mpr hheaders⟩

/-- A source whose header map names another origin sends both. -/
theorem origins_not_allowed :
    ∃ plan path headers,
      originConfiguration.policy.websocket.allowedOrigins ≠ [] ∧
      sealWebsocketSource referenceCrates (originSource [("Origin", "https://evil.example")]) []
        "op:watch" originConfiguration = .ok plan ∧
      websocketRequest referenceCrates plan .default "dGhlIHNhbXBsZSBub25jZQ==" =
        .ok (path, headers) ∧
      ¬ ∀ h ∈ headers, h.name = "origin".toList →
        OriginAllowed referenceCrates originConfiguration h.value := by
  have hsent : originsSent (originSource [("Origin", "https://evil.example")]) =
      some ("https://app.example".toList, [utf8 "https://evil.example",
        utf8 "https://app.example"]) := by decide +kernel
  rcases originsSent_eq_some hsent with ⟨plan, path, headers, hplan, _, hrequest, hvalues⟩
  refine ⟨plan, path, headers, by decide, hplan, hrequest, fun hall => ?_⟩
  -- The header of the source is sent.
  have hmem : utf8 "https://evil.example" ∈
      (headers.filter (fun x => x.name = "origin".toList)).map Header.value := by
    rw [hvalues]
    exact List.mem_cons_self
  rcases List.mem_map.mp hmem with ⟨header, hheader, hvalue⟩
  rw [List.mem_filter, decide_eq_true_eq] at hheader
  rcases hall header hheader.1 hheader.2 with ⟨text, origin, allowed, htext, horigin, hallowed, hin⟩
  rw [hvalue] at htext
  -- Its origin and the allowed one are read, and they differ.
  have hevil : (normalizeOrigin referenceCrates "https://evil.example").toOption.map id =
      some "https://evil.example".toList := by decide +kernel
  have hlist : (allowedOrigins referenceCrates originConfiguration).toOption.map id =
      some ["https://app.example".toList] := by decide +kernel
  rw [← utf8_injective htext] at horigin
  rcases exists_ok_of_toOption hevil with ⟨_, hevil, rfl⟩
  rcases exists_ok_of_toOption hlist with ⟨_, hlist, hone⟩
  rw [hevil, Except.ok.injEq] at horigin
  rw [hlist, Except.ok.injEq] at hallowed
  rw [← hallowed, ← horigin] at hin
  change _ = _ at hone
  rw [id_eq] at hone
  rw [hone, List.mem_singleton] at hin
  exact absurd hin (by decide)

end Kahea
