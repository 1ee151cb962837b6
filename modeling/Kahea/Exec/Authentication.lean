import Kahea.Exec.Redaction

/-!
# Authentication of HTTP Requests

The headers a plan carries and how the executor attaches the credential of its
profile: as a header, in the query, as a cookie, as a client certificate, or by
an OAuth exchange with the token URL of the plan.

A header that carries the credential is marked sensitive; a credential in the
query is in the URL. `Attached` says of a request that it carries the
credentials of some profiles only.

## Main definitions

* `plannedHeaders`: The headers of the plan.
* `Placement`, `applyAuth`: Where the credential goes.
* `resolveClientIdentity`: The client certificate.
* `obtainOauthToken`, `authenticate`: The exchange, and both ways together.

## Theorems

* `mem_plannedHeaders`: No planned header is marked sensitive.
* `obtainOauthToken_ensures`: The effects of the exchange.
-/

namespace Kahea

section

variable (lib : Crates)

def plannedHeader (headers : HeaderMap) (planned : PlannedHeader) : Except ExecError HeaderMap := do
  ensure (!((planned.name ++ planned.value).any (fun c => c == '\r' || c == '\n')))
    (.invalidHeader "CR/LF is denied")
  let name ← (lib.headerName planned.name).mapError ExecError.invalidHeader
  let value ← (lib.headerValue planned.value).mapError ExecError.invalidHeader
  pure (headers ++ [⟨name, value, false⟩])

def plannedHeaders (plan : RequestPlan) : Except ExecError HeaderMap :=
  plan.headers.foldlM (plannedHeader lib) []

def insertSensitiveHeader (headers : HeaderMap) (name value : Str) : Except ExecError HeaderMap := do
  let name ← (lib.headerName name).mapError ExecError.invalidHeader
  let value ← (lib.headerValue value).mapError ExecError.invalidHeader
  pure (headers.insert ⟨name, value, true⟩)

end

/-- Where a credential goes. -/
inductive Placement where
  | basic
  | bearer
  | header (name : Str)
  | query (name : Str)
  | cookie (name : Str)
  | clientCertificate
  | unsupported
  deriving DecidableEq, Repr

/-- The placement a text names, by its parts between colons. -/
def Placement.parse (placement : Str) : Placement :=
  match placement.splitOn ':' with
  | [location, name, scheme] =>
      if location = "header" ∧ name = "Authorization" ∧ scheme = "basic" then .basic
      else if location = "header" ∧ name = "Authorization" ∧
          (scheme = "bearer" ∨ scheme = "Bearer") then .bearer
      else .unsupported
  | [location, name] =>
      if location = "header" then .header name
      else if location = "query" then .query name
      else if location = "cookie" then .cookie name
      else .unsupported
  | [location] => if location = "tls-client-certificate" then .clientCertificate else .unsupported
  | _ => .unsupported

/-- The profile's secret. -/
def resolveSecret (options : InvokeOptions) (profile : Str) : Except ExecError Str :=
  match lookup profile options.secrets with
  | some secret => .ok secret
  | none => .error (.missingSecret profile)

section

variable (lib : Crates)

/-- The value of the cookie header with one more cookie. -/
def cookieValue (headers : HeaderMap) (name secret : Str) : Str :=
  let existing := ((headers.get "cookie").bind headerText).getD []
  if existing.isEmpty then name ++ '=' :: secret else existing ++ "; " ++ name ++ '=' :: secret

/-- Attach the credential of a plan that needs no exchange. -/
def applyAuth (plan : RequestPlan) (options : InvokeOptions) (target : Url) (headers : HeaderMap) :
    Except ExecError (Url × HeaderMap) :=
  match plan.auth with
  | none => .ok (target, headers)
  | some auth => do
      let secret ← resolveSecret options auth.profile
      match Placement.parse auth.placement with
      | .basic => do
          let headers ← insertSensitiveHeader lib headers "authorization"
            ("Basic " ++ base64Encode (utf8 secret))
          pure (target, headers)
      | .bearer => do
          let headers ← insertSensitiveHeader lib headers "authorization" ("Bearer " ++ secret)
          pure (target, headers)
      | .header name => do
          let headers ← insertSensitiveHeader lib headers name secret
          pure (target, headers)
      | .query name => .ok (target.appendPair name secret, headers)
      | .cookie name => do
          let headers ← insertSensitiveHeader lib headers "cookie" (cookieValue headers name secret)
          pure (target, headers)
      | .clientCertificate => .ok (target, headers)
      | .unsupported => .error (.unsupportedAuth auth.placement)

/-- The PEM text of the client identity, for a plan that uses one. -/
def resolveClientIdentity (plan : RequestPlan) (options : InvokeOptions) :
    Except ExecError (Option Str) :=
  match plan.auth with
  | none => .ok none
  | some auth =>
      if auth.placement = "tls-client-certificate" then do
        let pem ← resolveSecret options auth.profile
        ensure (lib.clientIdentity pem) .invalidClientIdentity
        pure (some pem)
      else .ok none

/-! ### OAuth -/

/-- The text of a transport failure, nothing of the peer in it. -/
def safeTransportError : TransportFailure → ExecError
  | .timeout => .transport "request timed out"
  | .connect => .transport "connection failed"
  | .other => .transport "HTTP transport failed"

/-- A member of an object that is a string. -/
def stringMember (members : List (Str × Value)) (name : Str) : Option Str :=
  (lookup name members).bind Value.asStr

/-- The credential document of a profile. -/
def oauthCredentials (options : InvokeOptions) (profile : Str) :
    Except ExecError (List (Str × Value)) := do
  let secret ← resolveSecret options profile
  match (lib.parseJson (utf8 secret)).toOption.bind Value.asObject with
  | some members => .ok members
  | none => .error .invalidOAuthProfile

/-- The grant type of the form, with the refresh token where it is one. -/
def oauthGrantType (placement : Str) (members : List (Str × Value)) :
    Except ExecError (List (Str × Str)) :=
  if placement = "oauth2-client-credentials" then
    .ok [("grant_type".toList, "client_credentials".toList)]
  else if placement = "oauth2-refresh-token" then
    match stringMember members "refresh_token" with
    | some token =>
        .ok [("grant_type".toList, "refresh_token".toList), ("refresh_token".toList, token)]
    | none => .error .invalidOAuthProfile
  else .error (.unsupportedAuth placement)

/-- The form of the exchange. -/
def oauthForm (auth : PlannedAuth) (members : List (Str × Value)) : Except ExecError Str := do
  let grant ← oauthGrantType auth.placement members
  pure (formText (grant ++
    if auth.scopes.isEmpty then [] else [("scope".toList, join " " auth.scopes)]))

/-- The request of the exchange. The profile's credential is in it when there
    is a client secret or a refresh token. -/
def oauthRequest (auth : PlannedAuth) (target : Url) (clientId : Str) (clientSecret : Option Str)
    (form : Str) : HttpRequest :=
  { method := "POST"
    url := target
    headers := ⟨"content-type", utf8 "application/x-www-form-urlencoded", false⟩ ::
      (match clientSecret with
        | some secret => [⟨"authorization",
            utf8 ("Basic " ++ base64Encode (utf8 (clientId ++ ':' :: secret))), true⟩]
        | none => [])
    body := utf8 form
    identity := none
    credentials :=
      if clientSecret.isSome || auth.placement = "oauth2-refresh-token" then [auth.profile] else [] }

/-- The bytes of a token response that are read at most. -/
def oauthLimit : Nat := 1024 * 1024

/-- The body of a token response that is a success and not too large. -/
def oauthBody (response : HttpResponse) : Except ExecError (List UInt8) :=
  match response.body with
  | .error _ => .error .oauthExchange
  | .ok data =>
      if (200 ≤ response.status ∧ response.status < 300) ∧ data.length ≤ oauthLimit then .ok data
      else .error .oauthExchange

/-- The token in a response. -/
def oauthToken (data : List UInt8) : Except ExecError Str :=
  match (lib.parseJson data).toOption.bind (fun value =>
      (value.get "access_token").bind Value.asStr) with
  | some token => .ok token
  | none => .error .oauthExchange

/-- What is recorded of an exchange. -/
def oauthRecord (auth : PlannedAuth) (target : Url) (status : Nat) (data : List UInt8) : Value :=
  jsonSorted [("token_url", .string target.serialize), ("status", jsonNat status),
    ("profile", .string ("secret://" ++ auth.profile)),
    ("response_blake3", .string (digest lib data))]

variable (world : World)

/-- The exchange, after the token URL has passed the gate. -/
def exchangeToken (auth : PlannedAuth) (options : InvokeOptions) (target : Url)
    (addresses : List SocketAddr) : Eff Event ExecError Str := do
  let members ← Eff.ofExcept (oauthCredentials lib options auth.profile)
  let clientId ← Eff.ofExcept (match stringMember members "client_id" with
    | some clientId => .ok clientId
    | none => .error ExecError.invalidOAuthProfile)
  let form ← Eff.ofExcept (oauthForm auth members)
  let past ← Eff.past
  Eff.ofExcept ((world.client past).mapError safeTransportError)
  let answer ← exchange world (target.host.getD []) (target.portOrKnownDefault.getD 0) addresses
    (oauthRequest auth target clientId (stringMember members "client_secret") form)
  let response ← Eff.ofExcept (answer.mapError safeTransportError)
  let data ← Eff.ofExcept (oauthBody response)
  let token ← Eff.ofExcept (oauthToken lib data)
  let _ ← (putJson world lib "oauth-refresh" (oauthRecord lib auth target response.status data)
    true).mapError ExecError.evidence
  pure token

/-- The token of a plan whose placement is one of OAuth, or the denial of its
    token URL. -/
def obtainOauthToken (plan : RequestPlan) (auth : PlannedAuth) (options : InvokeOptions) :
    Eff Event ExecError (Except DenialEnvelope Str) := do
  let tokenUrl ← Eff.ofExcept (match auth.tokenUrl with
    | some tokenUrl => .ok tokenUrl
    | none => .error ExecError.invalidOAuthProfile)
  let target ← Eff.ofExcept ((lib.parseUrl tokenUrl).mapError (fun e =>
    ExecError.invalidTarget ("OAuth token URL: " ++ e)))
  let (denied, addresses) ← evaluateRuntimeTarget lib world plan target "POST" options
  match denied with
  | some denial => pure (.error denial)
  | none => do
      let token ← exchangeToken lib world auth options target addresses
      pure (.ok token)

/-- A request's target and headers with the credential attached, and the token
    when there was an exchange. -/
def authenticate (plan : RequestPlan) (options : InvokeOptions) (target : Url)
    (headers : HeaderMap) :
    Eff Event ExecError (Except DenialEnvelope (Option Str × Url × HeaderMap)) :=
  match plan.auth.filter (fun auth => startsWith "oauth2-" auth.placement) with
  | some auth => do
      let outcome ← obtainOauthToken lib world plan auth options
      match outcome with
      | .error denial => pure (.error denial)
      | .ok token => do
          let headers ← Eff.ofExcept
            (insertSensitiveHeader lib headers "authorization" ("Bearer " ++ token))
          pure (.ok (some token, target, headers))
  | none => do
      let (target, headers) ← Eff.ofExcept (applyAuth lib plan options target headers)
      pure (.ok (none, target, headers))

end

/-! ### What is attached -/

section

variable {lib : Crates} {world : World} {plan : RequestPlan} {options : InvokeOptions}

theorem plannedHeader_ok {headers headers' : HeaderMap} {planned : PlannedHeader}
    (h : plannedHeader lib headers planned = .ok headers') :
    ∃ name value, lib.headerName planned.name = .ok name ∧
      lib.headerValue planned.value = .ok value ∧ headers' = headers ++ [⟨name, value, false⟩] := by
  simp only [plannedHeader, except_bind_ok, except_pure_ok, except_mapError_ok] at h
  rcases h with ⟨_, _, name, hname, value, hvalue, rfl⟩
  exact ⟨name, value, hname, hvalue, rfl⟩

/-- Every planned header is one of the plan's, and none is marked. -/
theorem mem_plannedHeaders {headers : HeaderMap} (h : plannedHeaders lib plan = .ok headers)
    {x : Header} (hx : x ∈ headers) :
    x.sensitive = false ∧ ∃ planned ∈ plan.headers, lib.headerName planned.name = .ok x.name ∧
      lib.headerValue planned.value = .ok x.value := by
  refine except_foldlM_invariant (fun headers => ∀ x ∈ headers, x.sensitive = false ∧
    ∃ planned ∈ plan.headers, lib.headerName planned.name = .ok x.name ∧
      lib.headerValue planned.value = .ok x.value) h (fun x hx => absurd hx List.not_mem_nil) ?_ x hx
  intro planned hplanned t t' hstep ht y hy
  rcases plannedHeader_ok hstep with ⟨name, value, hname, hvalue, rfl⟩
  rcases List.mem_append.mp hy with hy | hy
  · exact ht y hy
  · rw [List.mem_singleton.mp hy]
    exact ⟨rfl, planned, hplanned, hname, hvalue⟩

theorem insertSensitiveHeader_ok {headers headers' : HeaderMap} {name value : Str}
    (h : insertSensitiveHeader lib headers name value = .ok headers') :
    ∃ name' value', lib.headerName name = .ok name' ∧ lib.headerValue value = .ok value' ∧
      headers' = headers.insert ⟨name', value', true⟩ := by
  simp only [insertSensitiveHeader, except_bind_ok, except_pure_ok, except_mapError_ok] at h
  rcases h with ⟨name', hname, value', hvalue, rfl⟩
  exact ⟨name', value', hname, hvalue, rfl⟩

/-- The names of the headers a credential may be put in. -/
def credentialHeaders (plan : RequestPlan) : List Str :=
  ["authorization".toList, "cookie".toList] ++
    (plan.auth.map (fun auth => auth.placement.splitOn ':')).getD []

/-- What authentication changes: headers are added for the credential, marked,
    and of the target only the query. -/
structure Attached (lib : Crates) (plan : RequestPlan) (target target' : Url)
    (headers headers' : HeaderMap) : Prop where
  headers : ∀ h ∈ headers', h ∈ headers ∨ h.sensitive = true ∧
    ∃ name ∈ credentialHeaders plan, lib.headerName name = .ok h.name
  target : target' = target ∨ ∃ auth query, plan.auth = some auth ∧
    startsWith "query:" auth.placement = true ∧ target' = { target with query := query }

theorem Attached.refl (target : Url) (headers : HeaderMap) :
    Attached lib plan target target headers headers :=
  ⟨fun _ h => Or.inl h, Or.inl rfl⟩

theorem Attached.insert {target : Url} {headers headers' : HeaderMap} {name value : Str}
    (hname : name ∈ credentialHeaders plan)
    (h : insertSensitiveHeader lib headers name value = .ok headers') :
    Attached lib plan target target headers headers' := by
  rcases insertSensitiveHeader_ok h with ⟨name', value', hname', _, rfl⟩
  refine ⟨fun x hx => ?_, Or.inl rfl⟩
  rcases (HeaderMap.mem_insert headers _ x).mp hx with hx | rfl
  · exact Or.inl hx.1
  · exact Or.inr ⟨rfl, name, hname, hname'⟩

theorem Placement.mem_of_parse_header {placement name : Str}
    (h : Placement.parse placement = .header name) : name ∈ placement.splitOn ':' := by
  unfold Placement.parse at h
  split at h
  · split_ifs at h
  · rename_i location part hparts
    split_ifs at h
    cases h
    rw [hparts]
    exact List.mem_cons_of_mem _ List.mem_cons_self
  · split_ifs at h
  · cases h

theorem Placement.startsWith_of_parse_query {placement name : Str}
    (h : Placement.parse placement = .query name) : startsWith "query:" placement = true := by
  unfold Placement.parse at h
  split at h
  · split_ifs at h
  · rename_i location part hparts
    split_ifs at h with _ hlocation
    have hjoin : List.intercalate [':'] (placement.splitOn ':') = placement :=
      List.intercalate_splitOn ':'
    rw [hparts, hlocation] at hjoin
    rw [← hjoin]
    rfl
  · split_ifs at h
  · cases h

theorem applyAuth_attached {target target' : Url} {headers headers' : HeaderMap}
    (h : applyAuth lib plan options target headers = .ok (target', headers')) :
    Attached lib plan target target' headers headers' := by
  unfold applyAuth at h
  -- Without a credential nothing is attached.
  cases hauth : plan.auth with
  | none =>
      rw [hauth] at h
      cases h
      exact .refl target headers
  | some auth =>
      rw [hauth] at h
      simp only [except_bind_ok] at h
      rcases h with ⟨secret, _, h⟩
      -- Two header names stand for the credential, whatever the plan calls it.
      have hfixed (name : Str) (hname : name ∈ ["authorization".toList, "cookie".toList]) :
          name ∈ credentialHeaders plan := List.mem_append_left _ hname
      -- Each placement adds one header or one query pair.
      cases hplacement : Placement.parse auth.placement <;> rw [hplacement] at h <;>
        simp only [except_bind_ok, except_pure_ok, Prod.mk.injEq, Except.ok.injEq, reduceCtorEq] at h
      case basic | bearer =>
        rcases h with ⟨_, hinsert, rfl, rfl⟩
        exact .insert (hfixed _ List.mem_cons_self) hinsert
      case header name =>
        rcases h with ⟨_, hinsert, rfl, rfl⟩
        refine .insert (List.mem_append_right _ ?_) hinsert
        rw [hauth]
        exact Placement.mem_of_parse_header hplacement
      case query name =>
        rcases h with ⟨rfl, rfl⟩
        exact ⟨fun _ h => Or.inl h,
          Or.inr ⟨auth, _, hauth, Placement.startsWith_of_parse_query hplacement, rfl⟩⟩
      case cookie name =>
        rcases h with ⟨_, hinsert, rfl, rfl⟩
        exact .insert (hfixed _ (List.mem_cons_of_mem _ List.mem_cons_self)) hinsert
      case clientCertificate =>
        rcases h with ⟨rfl, rfl⟩
        exact .refl target headers

/-! ### The effects of an exchange -/

/-- The token URL of a plan whose credential is exchanged for a token. -/
structure TokenContact (lib : Crates) (plan : RequestPlan) (auth : PlannedAuth) (target : Url) :
    Prop where
  bound : plan.auth = some auth
  placement : startsWith "oauth2-" auth.placement = true
  parsed : ∃ tokenUrl, auth.tokenUrl = some tokenUrl ∧ lib.parseUrl tokenUrl = .ok target

/-- What authentication does to the outside. -/
inductive Authenticates (lib : Crates) (plan : RequestPlan) (options : InvokeOptions) :
    Event → Prop where
  | resolve (host : Str) (port : Nat) : Authenticates lib plan options (.resolve host port)
  | connect {auth : PlannedAuth} {target : Url} {host : Str} {port : Nat}
      {addresses : List SocketAddr} (contact : TokenContact lib plan auth target)
      (hhost : target.host = some host)
      (admitted : Admitted options.grants target.scheme host port addresses) :
      Authenticates lib plan options (.connect target.scheme host port addresses)
  | send {auth : PlannedAuth} {target : Url} (contact : TokenContact lib plan auth target)
      (clientId : Str) (clientSecret : Option Str) (form : Str) :
      Authenticates lib plan options (.send (oauthRequest auth target clientId clientSecret form))
  | record {auth : PlannedAuth} {target : Url} (contact : TokenContact lib plan auth target)
      (status : Nat) (data : List UInt8) :
      Authenticates lib plan options (.store ⟨"oauth-refresh", "application/json",
        .json (oauthRecord lib auth target status data), true⟩)

theorem exchangeToken_ensures {auth : PlannedAuth} {target : Url} {host : Str} {port : Nat}
    {addresses : List SocketAddr} (contact : TokenContact lib plan auth target)
    (hhost : target.host = some host) (hport : target.portOrKnownDefault = some port)
    (hadmitted : Admitted options.grants target.scheme host port addresses) :
    Ensures (exchangeToken lib world auth options target addresses) (fun _ => True)
      (Authenticates lib plan options) := by
  unfold exchangeToken
  refine .bind (.ofExcept fun _ _ => trivial) (fun members _ => ?_)
  refine .bind (.ofExcept fun _ _ => trivial) (fun clientId _ => ?_)
  refine .bind (.ofExcept fun _ _ => trivial) (fun form _ => ?_)
  refine .bind .past (fun _ _ => ?_)
  refine .bind (.ofExcept fun _ _ => trivial) (fun _ _ => ?_)
  refine .bind (exchange_ensures (Q := fun _ => True) world ?_ (.send contact clientId _ form)
    (fun _ => trivial)) (fun answer _ => ?_)
  · rw [hhost, hport]
    exact .connect contact hhost hadmitted
  refine .bind (.ofExcept fun _ _ => trivial) (fun response _ => ?_)
  refine .bind (.ofExcept fun _ _ => trivial) (fun data _ => ?_)
  refine .bind (.ofExcept fun _ _ => trivial) (fun token _ => ?_)
  exact .bind (.mapError (put_ensures world (.record contact _ data))) (fun _ _ => .pure trivial)

theorem obtainOauthToken_ensures {auth : PlannedAuth} (hauth : plan.auth = some auth)
    (hplacement : startsWith "oauth2-" auth.placement = true) :
    Ensures (obtainOauthToken lib world plan auth options) (fun _ => True)
      (Authenticates lib plan options) := by
  unfold obtainOauthToken
  refine .bind (.ofExcept fun _ h => h) (fun tokenUrl htoken => ?_)
  refine .bind (.ofExcept fun _ h => h) (fun target hparse => ?_)
  rw [except_mapError_ok] at hparse
  refine .bind (evaluateRuntimeTarget_ensures .resolve) (fun verdict hverdict => ?_)
  rcases verdict with ⟨_ | denial, addresses⟩
  · rcases hverdict rfl with ⟨host, port, hhost, hport, hadmitted⟩
    have hurl : auth.tokenUrl = some tokenUrl := by
      cases hsome : auth.tokenUrl <;> rw [hsome] at htoken <;> cases htoken
      rfl
    exact .bind (exchangeToken_ensures ⟨hauth, hplacement, tokenUrl, hurl, hparse⟩ hhost hport
      hadmitted) (fun _ _ => .pure trivial)
  · exact .pure trivial

theorem authenticate_ensures {target : Url} {headers : HeaderMap} :
    Ensures (authenticate lib world plan options target headers)
      (fun r => ∀ token target' headers', r = .ok (token, target', headers') →
        Attached lib plan target target' headers headers')
      (Authenticates lib plan options) := by
  unfold authenticate
  split
  · rename_i auth hfilter
    rw [Option.filter_eq_some_iff] at hfilter
    refine .bind (obtainOauthToken_ensures hfilter.1 hfilter.2) (fun outcome _ => ?_)
    cases outcome with
    | error denial => exact .pure (fun _ _ _ h => by cases h)
    | ok token =>
        refine .bind (.ofExcept fun _ h => h) (fun _ hinsert => .pure ?_)
        rintro _ _ _ ⟨⟩
        exact .insert (List.mem_append_left _ List.mem_cons_self) hinsert
  · refine .bind (.ofExcept fun _ h => h) (fun attached happly => .pure ?_)
    rintro _ _ _ ⟨⟩
    exact applyAuth_attached happly

end

end Kahea
