import Kahea.Core.Observation
import Kahea.Exec.Authentication
import Kahea.Exec.Checks

/-!
# Invocations

The HTTP executor, `invoke`, from the seal of the plan to the persisted
observation.

`prepare` is everything up to the recorded derivation of the request: the seal,
the fingerprints and the grants (`admitted`), the gate, the credential
(`authenticate`) and the checks on the body. `dispatch` sends the request and
records what came back. No response of the target is seen before `dispatch`.

`mem_invoke` says where the effects of a run come from, and `prepare_ensures`
and `observeResponse_ensures` what they are: what has been checked before a name
is resolved, a connection is opened and a request is sent
(`Event.Authorized`), and which records a response leaves.

## Main definitions

* `admitted`: The tests before anything is resolved.
* `Prepared`, `prepare`: A request ready to be sent.
* `observeResponse`, `dispatch`: The exchange and its records.
* `responseRecords`: The records of a response.
* `invoke`: An invocation.
* `Event.Authorized`: What has been checked before an effect.

## Theorems

* `prepare_ensures`, `observeResponse_ensures`: The effects of the two halves.
* `mem_dispatch`, `mem_invoke`: Where the effects of an invocation come from.
-/

namespace Kahea

/-! ### What has been checked -/

/-- What the executors compare with the options before they resolve a name. -/
structure Standing where
  verified : Bool
  configFingerprint : Str
  policyFingerprint : Str
  requiredGrants : List Str

def RequestPlan.standing (lib : Crates) (plan : RequestPlan) : Standing :=
  ⟨plan.verifySeal lib, plan.configFingerprint, plan.policyFingerprint, plan.requiredGrants⟩

/-- The seal verifies, the fingerprints are those expected, and every required
    grant that names no address is held. -/
structure Standing.Cleared (s : Standing) (options : InvokeOptions) : Prop where
  sealed : s.verified = true
  config : ∀ f, options.expectedConfigFingerprint = some f → f = s.configFingerprint
  policy : ∀ f, options.expectedPolicyFingerprint = some f → f = s.policyFingerprint
  grants : ∀ g ∈ s.requiredGrants, isAddressDependentGrant g = false → g ∈ options.grants

/-- What holds before an effect that needs authority. -/
def Event.Authorized (s : Standing) (options : InvokeOptions) : Event → Prop
  | .resolve _ _ => s.Cleared options
  | .connect scheme host port addresses => s.Cleared options ∧
      (∀ g ∈ s.requiredGrants, g ∈ options.grants) ∧
      Admitted options.grants scheme host port addresses
  | .send request => ∀ profile ∈ request.credentials, "secret:" ++ profile ∈ options.grants
  | _ => True

inductive InvocationResult where
  | observation (observation : Observation)
  | denied (denial : DenialEnvelope)
  deriving DecidableEq, Repr

section

variable (lib : Crates)

/-- The seal, the fingerprints, the grants and the target: a denial or the
    URL. -/
def admitted (plan : RequestPlan) (options : InvokeOptions) :
    Except ExecError (Except DenialEnvelope Url) := do
  ensure (plan.verifySeal lib) .invalidSeal
  ensure (options.expectedConfigFingerprint.all (fun f => f = plan.configFingerprint))
    .configurationMismatch
  ensure (options.expectedPolicyFingerprint.all (fun f => f = plan.policyFingerprint))
    .policyMismatch
  match missingGrant options.grants plan.requiredGrants with
  | some missing =>
      .ok (.error (denial lib plan "invocation is missing a required capability" missing))
  | none => do
      let target ← (lib.parseUrl plan.target).mapError ExecError.invalidTarget
      pure (.ok target)

/-- The bytes of the planned body. -/
def plannedBodyBytes (plan : RequestPlan) : Except ExecError (List UInt8) :=
  match plan.body with
  | none => .ok []
  | some body =>
      if body.encoding = "utf-8" then .ok (utf8 body.inline)
      else if body.encoding = "base64" then match base64Decode body.inline with
        | some bytes => .ok bytes
        | none => .error .invalidSeal
      else .error .invalidSeal

/-- The bytes of the planned body, which must be those of its digest. -/
def checkedBody (plan : RequestPlan) : Except ExecError (List UInt8) := do
  let bytes ← plannedBodyBytes plan
  ensure (plan.body.all (fun planned => planned.bytes = bytes.length &&
    planned.blake3 = digest lib bytes)) .invalidSeal
  pure bytes

/-- What is replaced in a response: the supplied secrets, the token and the
    values of the sensitive headers, long ones first. -/
def responseRedactions (options : InvokeOptions) (token : Option Str) (headers : HeaderMap) :
    List (List UInt8) :=
  dedup ((secretRedactions lib options ++ token.toList.map utf8 ++
    (headers.filter Header.sensitive).map Header.value).insertionSort
      (fun a b => b.length ≤ a.length))

/-- The target as the trace shows it. -/
def safeTarget (plan : RequestPlan) (target : Url) : Url :=
  if plan.auth.any (fun auth => startsWith "query:" auth.placement) then
    { target with query := some marker }
  else target

def redactedRequestTrace (plan : RequestPlan) (target : Url) (headers : HeaderMap) : Value :=
  jsonSorted [("method", .string plan.method), ("target", .string (safeTarget plan target).serialize),
    ("headers", redactedHeaders headers plan.sensitiveHeaders),
    ("body_blake3", optional (fun b => .string b.blake3) plan.body)]

/-- A request that is ready to be sent. -/
structure Prepared where
  request : HttpRequest
  host : Str
  port : Nat
  addresses : List SocketAddr
  /-- The token the executor has obtained for the request. -/
  token : Option Str
  redactions : List (List UInt8)
  requestTrace : Value
  derivation : Str

variable (world : World)

/-- The request of an authenticated plan, with its derivation recorded. -/
def complete (plan : RequestPlan) (options : InvokeOptions) (method : Str)
    (identity : Option Str) (addresses : List SocketAddr) (token : Option Str) (target : Url)
    (headers : HeaderMap) : Eff Event ExecError Prepared := do
  let body ← Eff.ofExcept (checkedBody lib plan)
  let past ← Eff.past
  Eff.ofExcept ((world.client past).mapError safeTransportError)
  let derivation ← (putJson world lib "request-derivation"
    (.array (plan.derivations.map FieldDerivation.toJson)) false).mapError ExecError.evidence
  pure
    { request :=
        { method := method
          url := target
          headers := headers
          body := body
          identity := identity
          credentials := plan.auth.toList.map PlannedAuth.profile }
      host := target.host.getD []
      port := target.portOrKnownDefault.getD 0
      addresses := addresses
      token := token
      redactions := responseRedactions lib options token headers
      requestTrace := redactedRequestTrace plan target headers
      derivation := derivation }

/-- What `prepare` does once the plan is admitted with its target. -/
def prepareTarget (plan : RequestPlan) (options : InvokeOptions) (target : Url) :
    Eff Event ExecError (Except DenialEnvelope Prepared) := do
  let (denied, addresses) ← evaluateRuntimeTarget lib world plan target plan.method options
  match denied with
  | some denial => pure (.error denial)
  | none => do
      let method ← Eff.ofExcept ((lib.method plan.method).mapError ExecError.invalidMethod)
      let headers ← Eff.ofExcept (plannedHeaders lib plan)
      let identity ← Eff.ofExcept (resolveClientIdentity lib plan options)
      let outcome ← authenticate lib world plan options target headers
      match outcome with
      | .error denial => pure (.error denial)
      | .ok (token, target, headers) => do
          let prepared ← complete lib world plan options method identity addresses token target
            headers
          pure (.ok prepared)

/-- Everything before the request is sent. -/
def prepare (plan : RequestPlan) (options : InvokeOptions) :
    Eff Event ExecError (Except DenialEnvelope Prepared) := do
  let verdict ← Eff.ofExcept (admitted lib plan options)
  match verdict with
  | .error denial => pure (.error denial)
  | .ok target => prepareTarget lib world plan options target

/-! ### The response -/

/-- The text of the `content-type` header. -/
def contentTypeOf (headers : HeaderMap) : Str :=
  ((headers.get "content-type").bind headerText).getD "application/octet-stream"

/-- The body of a response within the limit; one byte more than the limit is
    read. -/
def responseBody (options : InvokeOptions) (response : HttpResponse) :
    Except ExecError (List UInt8) :=
  match response.body with
  | .error e => .error (.transport ("response read failed: " ++ e))
  | .ok body =>
      let data := body.take ((options.maxResponseBytes + 1) % u64Bound)
      if options.maxResponseBytes < data.length then
        .error (.responseTooLarge options.maxResponseBytes)
      else .ok data

/-- What the checks look at. -/
def checkedResponse (response : HttpResponse) (data : List UInt8) (elapsed : Nat) :
    CheckedResponse :=
  { status := response.status
    headers := response.headers
    contentType := contentTypeOf response.headers
    data := data
    elapsed := elapsed }

/-- The body as it is stored. -/
def redactedBody (plan : RequestPlan) (redactions : List (List UInt8)) (data : List UInt8) :
    List UInt8 :=
  redactBytes (redactJsonPointers lib data plan.redactResponseJsonPointers) redactions

def responseTrace (plan : RequestPlan) (response : HttpResponse) (size : Nat) (body : Str) : Value :=
  jsonSorted [("status", jsonNat response.status),
    ("headers", redactedHeaders response.headers plan.sensitiveHeaders), ("body", .string body),
    ("bytes", jsonNat size), ("http_version", .string response.version.text)]

def traceRecord (request response : Value) (derivation : Str) (schemaError : Option Str) : Value :=
  jsonSorted [("request", request), ("response", response),
    ("request_derivation", .string derivation), ("schema_error", optional .string schemaError)]

/-- The origin an observation names. -/
def resolvedOrigin (target : Url) : Str :=
  target.scheme ++ "://" ++ target.host.getD [] ++ ':' :: decimal (target.portOrKnownDefault.getD 0)

/-- The summary of an exchange. -/
def summary (plan : RequestPlan) (target : Url) (response : HttpResponse) (size elapsed : Nat)
    (passed : Bool) (body trace : Str) : Observation :=
  { protocol := PROTOCOL
    kind := "observation"
    version := VERSION
    configFingerprint := plan.configFingerprint
    policyFingerprint := plan.policyFingerprint
    sourceFingerprints := plan.sourceFingerprints
    toolVersion := VERSION
    plan := plan.id
    outcome := if passed then .passed else .failed
    status := some response.status
    responseSchema := some (if passed then "passed" else "failed")
    latencyMs := some (lib.milliseconds elapsed)
    responseBytes := some size
    body := some body
    trace := some trace
    resolvedOrigin := some (resolvedOrigin target)
    httpVersion := some response.version.text
    secretRefs := plan.secretRefs
    runtime := lib.runtime
    exit := if passed then 0 else 1 }

/-- Store the messages of the checks, when there are any. -/
def storeFailures (failures : List Str) : Eff Event ExecError (Option Str) :=
  if failures.isEmpty then pure none
  else do
    let handle ← (putJson world lib "schema-error" (stringArray failures) false).mapError
      ExecError.evidence
    pure (some handle)

/-- Record a response: its body, what the checks found, the trace and the
    observation. -/
def observeResponse (plan : RequestPlan) (options : InvokeOptions) (prepared : Prepared)
    (response : HttpResponse) (elapsed : Nat) : Eff Event ExecError InvocationResult := do
  let data ← Eff.ofExcept (responseBody options response)
  let failures := validateChecks lib plan (checkedResponse response data elapsed)
  let redacted := redactedBody lib plan prepared.redactions data
  let body ← (putBlob world lib "body" (contentTypeOf response.headers) redacted
    (redacted ≠ data)).mapError ExecError.evidence
  let schemaError ← storeFailures lib world failures
  let trace ← (putJson world lib "trace" (traceRecord prepared.requestTrace
    (responseTrace plan response data.length body) prepared.derivation schemaError)
    true).mapError ExecError.evidence
  let observation := summary lib plan prepared.request.url response data.length elapsed
    failures.isEmpty body trace
  let _ ← (persistJsonObservation world lib "observation" observation.toJson).mapError
    ExecError.evidence
  pure (.observation observation)

/-- Send the request and record the response. -/
def dispatch (plan : RequestPlan) (options : InvokeOptions) (prepared : Prepared) :
    Eff Event ExecError InvocationResult := do
  let answer ← exchange world prepared.host prepared.port prepared.addresses prepared.request
  let response ← Eff.ofExcept (answer.mapError safeTransportError)
  let past ← Eff.past
  observeResponse lib world plan options prepared response (world.elapsed past)

def invoke (plan : RequestPlan) (options : InvokeOptions) :
    Eff Event ExecError InvocationResult := do
  let outcome ← prepare lib world plan options
  match outcome with
  | .error denial => pure (.denied denial)
  | .ok prepared => dispatch lib world plan options prepared

end

section

variable {lib : Crates} {world : World} {plan : RequestPlan} {options : InvokeOptions}

/-! ### Before the request -/

theorem admitted_ok {target : Url} (h : admitted lib plan options = .ok (.ok target)) :
    (plan.standing lib).Cleared options ∧ (∀ g ∈ plan.requiredGrants, g ∈ options.grants) ∧
      lib.parseUrl plan.target = .ok target := by
  simp only [admitted, except_bind_ok, ensure_ok, exists_const] at h
  rcases h with ⟨hseal, hconfig, hpolicy, h⟩
  split at h
  · cases h
  rename_i hgrants
  simp only [except_bind_ok, except_pure_ok, except_mapError_ok, Except.ok.injEq] at h
  rcases h with ⟨_, hparse, rfl⟩
  rw [missingGrant_eq_none] at hgrants
  refine ⟨⟨hseal, fun f hf => ?_, fun f hf => ?_, fun g hg _ => hgrants g hg⟩, hgrants, hparse⟩
  · rw [hf] at hconfig
    exact of_decide_eq_true hconfig
  · rw [hf] at hpolicy
    exact of_decide_eq_true hpolicy

/-- What is known of a request that is ready to be sent. -/
structure Prepared.Sound (lib : Crates) (plan : RequestPlan) (options : InvokeOptions)
    (p : Prepared) : Prop where
  cleared : (plan.standing lib).Cleared options
  granted : ∀ g ∈ plan.requiredGrants, g ∈ options.grants
  target : ∃ url headers, lib.parseUrl plan.target = .ok url ∧
    plannedHeaders lib plan = .ok headers ∧
    Attached lib plan url p.request.url headers p.request.headers
  host : p.request.url.host = some p.host
  admitted : Admitted options.grants p.request.url.scheme p.host p.port p.addresses
  credentials : p.request.credentials = plan.auth.toList.map PlannedAuth.profile
  redactions : p.redactions = responseRedactions lib options p.token p.request.headers
  trace : p.requestTrace = redactedRequestTrace plan p.request.url p.request.headers
  derivation : ∃ parts, p.derivation = shortHandle lib "request-derivation" parts

/-- What the first half of an invocation does to the outside. -/
inductive Prepares (lib : Crates) (plan : RequestPlan) (options : InvokeOptions) : Event → Prop where
  | resolve (cleared : (plan.standing lib).Cleared options) (host : Str) (port : Nat) :
      Prepares lib plan options (.resolve host port)
  | authenticate {e : Event} (cleared : (plan.standing lib).Cleared options)
      (granted : ∀ g ∈ plan.requiredGrants, g ∈ options.grants)
      (h : Authenticates lib plan options e) : Prepares lib plan options e
  | derivation : Prepares lib plan options (.store ⟨"request-derivation", "application/json",
      .json (.array (plan.derivations.map FieldDerivation.toJson)), false⟩)

/-- An attached credential leaves the origin of the target as it is. -/
theorem Attached.origin {target target' : Url} {headers headers' : HeaderMap}
    (h : Attached lib plan target target' headers headers') :
    target'.scheme = target.scheme ∧ target'.host = target.host ∧
      target'.portOrKnownDefault = target.portOrKnownDefault := by
  rcases h.target with rfl | ⟨_, _, _, _, rfl⟩
  · exact ⟨rfl, rfl, rfl⟩
  · exact ⟨rfl, rfl, rfl⟩

theorem complete_ensures {method : Str} {identity : Option Str} {addresses : List SocketAddr}
    {token : Option Str} {target url : Url} {headers planned : HeaderMap} {host : Str} {port : Nat}
    (hcleared : (plan.standing lib).Cleared options)
    (hgranted : ∀ g ∈ plan.requiredGrants, g ∈ options.grants)
    (hparse : lib.parseUrl plan.target = .ok url) (hplanned : plannedHeaders lib plan = .ok planned)
    (hattached : Attached lib plan url target planned headers)
    (hhost : target.host = some host) (hport : target.portOrKnownDefault = some port)
    (hadmitted : Admitted options.grants target.scheme host port addresses) :
    Ensures (complete lib world plan options method identity addresses token target headers)
      (Prepared.Sound lib plan options) (Prepares lib plan options) := by
  unfold complete
  -- The body is checked and the client built, neither of which is an event.
  refine .bind (.ofExcept fun _ _ => trivial) (fun body _ => ?_)
  refine .bind .past (fun _ _ => ?_)
  refine .bind (.ofExcept fun _ _ => trivial) (fun _ _ => ?_)
  -- The derivation is stored before anything is sent.
  refine .bind (.mapError (put_ensures world .derivation)) (fun derivation hderivation => .pure ?_)
  refine
    { cleared := hcleared
      granted := hgranted
      target := ⟨url, planned, hparse, hplanned, hattached⟩
      host := ?_
      admitted := ?_
      credentials := rfl
      redactions := rfl
      trace := rfl
      derivation := ⟨_, hderivation⟩ }
  · dsimp only
    rw [hhost, Option.getD_some]
  · dsimp only
    rw [hhost, hport, Option.getD_some, Option.getD_some]
    exact hadmitted

theorem prepareTarget_ensures {target : Url} (hcleared : (plan.standing lib).Cleared options)
    (hgranted : ∀ g ∈ plan.requiredGrants, g ∈ options.grants)
    (hparse : lib.parseUrl plan.target = .ok target) :
    Ensures (prepareTarget lib world plan options target)
      (fun r => ∀ p, r = .ok p → Prepared.Sound lib plan options p) (Prepares lib plan options) := by
  unfold prepareTarget
  -- The gate first: a denial ends here.
  refine .bind (evaluateRuntimeTarget_ensures (.resolve hcleared)) (fun gate hgate => ?_)
  rcases gate with ⟨_ | denial, addresses⟩
  swap
  · exact .pure (fun _ h => by cases h)
  rcases hgate rfl with ⟨host, port, hhost, hport, hadmitted⟩
  refine .bind (.ofExcept fun _ _ => trivial) (fun method _ => ?_)
  refine .bind (.ofExcept fun _ h => h) (fun headers hheaders => ?_)
  refine .bind (.ofExcept fun _ _ => trivial) (fun identity _ => ?_)
  -- The credential is attached after the gate has passed.
  refine .bind (authenticate_ensures.mono (fun _ h => h)
    (fun _ => .authenticate hcleared hgranted)) (fun outcome houtcome => ?_)
  cases outcome with
  | error denial => exact .pure (fun _ h => by cases h)
  | ok attached =>
      rcases attached with ⟨token, target', headers'⟩
      have hattached := houtcome token target' headers' rfl
      -- Attaching it leaves the origin of the target as it was.
      rcases hattached.origin with ⟨hscheme, hhost', hport'⟩
      refine .bind (complete_ensures hcleared hgranted hparse hheaders hattached
        (hhost'.trans hhost) (hport'.trans hport) ?_) (fun p hp => .pure ?_)
      · rw [hscheme]
        exact hadmitted
      · rintro _ ⟨⟩
        exact hp

theorem prepare_ensures :
    Ensures (prepare lib world plan options)
      (fun r => ∀ p, r = .ok p → Prepared.Sound lib plan options p) (Prepares lib plan options) := by
  unfold prepare
  refine .bind (.ofExcept fun _ h => h) (fun verdict hverdict => ?_)
  cases verdict with
  | error denial => exact .pure (fun _ h => by cases h)
  | ok target =>
      rcases admitted_ok hverdict with ⟨hcleared, hgranted, hparse⟩
      exact prepareTarget_ensures hcleared hgranted hparse

/-! ### The request and its response -/

/-- The handle a record is stored under. -/
def recordHandle (lib : Crates) (record : Record) : Str :=
  shortHandle lib record.kind [record.content.data]

def bodyRecord (lib : Crates) (plan : RequestPlan) (p : Prepared) (response : HttpResponse)
    (data : List UInt8) : Record :=
  ⟨"body", contentTypeOf response.headers, .bytes (redactedBody lib plan p.redactions data),
    redactedBody lib plan p.redactions data ≠ data⟩

def failuresRecord (failures : List Str) : Record :=
  ⟨"schema-error", "application/json", .json (stringArray failures), false⟩

/-- The record of the messages, when there are any. -/
def failuresRecords (failures : List Str) : List Record :=
  if failures.isEmpty then [] else [failuresRecord failures]

/-- The trace of an exchange, which names the records before it. -/
def exchangeRecord (lib : Crates) (plan : RequestPlan) (p : Prepared) (response : HttpResponse)
    (data : List UInt8) (failures : List Str) : Record :=
  ⟨"trace", "application/json", .json (traceRecord p.requestTrace
    (responseTrace plan response data.length (recordHandle lib (bodyRecord lib plan p response data)))
    p.derivation ((failuresRecords failures).head?.map (recordHandle lib))), true⟩

def observationRecord (lib : Crates) (plan : RequestPlan) (p : Prepared) (response : HttpResponse)
    (data : List UInt8) (elapsed : Nat) (failures : List Str) : Record :=
  ⟨"observation", "application/json", .json (summary lib plan p.request.url response data.length
    elapsed failures.isEmpty (recordHandle lib (bodyRecord lib plan p response data))
    (recordHandle lib (exchangeRecord lib plan p response data failures))).toJson, true⟩

/-- The records of a response, in the order they are stored in. -/
def responseRecords (lib : Crates) (plan : RequestPlan) (p : Prepared) (response : HttpResponse)
    (data : List UInt8) (elapsed : Nat) : List Record :=
  let failures := validateChecks lib plan (checkedResponse response data elapsed)
  bodyRecord lib plan p response data :: failuresRecords failures ++
    [exchangeRecord lib plan p response data failures,
      observationRecord lib plan p response data elapsed failures]

/-- Storing the messages of the checks, when there are any. -/
theorem storeFailures_ensures (failures : List Str) :
    Ensures (storeFailures lib world failures)
      (fun handle => handle = (failuresRecords failures).head?.map (recordHandle lib))
      (fun e => ∃ record ∈ failuresRecords failures, e = .store record) := by
  unfold storeFailures failuresRecords
  by_cases hempty : failures.isEmpty = true
  · rw [if_pos hempty, if_pos hempty]
    exact .pure rfl
  · rw [if_neg hempty, if_neg hempty]
    refine .bind (.mapError (put_ensures world ⟨_, List.mem_singleton_self _, rfl⟩))
      (fun handle hhandle => .pure ?_)
    rw [hhandle]
    rfl

/-- Only the records of a response are stored for it. -/
theorem observeResponse_ensures {p : Prepared} {response : HttpResponse} {elapsed : Nat} :
    Ensures (observeResponse lib world plan options p response elapsed) (fun _ => True)
      (fun e => ∃ data, responseBody options response = .ok data ∧
        ∃ record ∈ responseRecords lib plan p response data elapsed, e = .store record) := by
  unfold observeResponse
  refine .bind (.ofExcept fun _ h => h) (fun data hdata => ?_)
  -- The records are the body, the failures of the checks, the exchange and the observation.
  have hmem {record : Record} (h : record ∈ responseRecords lib plan p response data elapsed) :
      ∃ data, responseBody options response = .ok data ∧
        ∃ r ∈ responseRecords lib plan p response data elapsed, Event.store record = .store r :=
    ⟨data, hdata, record, h, rfl⟩
  have hlast {record : Record} (h : record ∈ [exchangeRecord lib plan p response data
        (validateChecks lib plan (checkedResponse response data elapsed)),
      observationRecord lib plan p response data elapsed
        (validateChecks lib plan (checkedResponse response data elapsed))]) :
      record ∈ responseRecords lib plan p response data elapsed :=
    List.mem_append_right _ h
  -- They are stored one after the other.
  refine .bind (.mapError (put_ensures world (hmem (List.mem_append_left _ List.mem_cons_self))))
    (fun body hbody => ?_)
  refine .bind ((storeFailures_ensures _).mono (fun _ h => h) ?_) (fun schemaError hschema => ?_)
  · rintro _ ⟨record, hrecord, rfl⟩
    exact hmem (List.mem_append_left _ (List.mem_cons_of_mem _ hrecord))
  subst hbody hschema
  refine .bind (.mapError (put_ensures world (hmem (hlast List.mem_cons_self))))
    (fun trace htrace => ?_)
  subst htrace
  exact .bind (.mapError (persistJsonObservation_ensures world
    (hmem (hlast (List.mem_cons_of_mem _ List.mem_cons_self))))) (fun _ _ => .pure trivial)

/-- The connection and the request of the second half of an invocation. -/
def Prepared.contact (p : Prepared) : List Event :=
  [.connect p.request.url.scheme p.host p.port p.addresses, .send p.request]

theorem exchange_eq (p : Prepared) (past : List Event) :
    exchange (ε := ExecError) world p.host p.port p.addresses p.request past =
      (.ok (world.exchange (past ++ p.contact) p.request), p.contact) := by
  have hpast : past ++ [Event.connect p.request.url.scheme p.host p.port p.addresses] ++
      [.send p.request] = past ++ p.contact := by
    rw [List.append_assoc]
    rfl
  change (Except.ok (world.exchange _ p.request), _) = _
  rw [hpast]
  rfl

/-- The second half of an invocation connects, sends the request, and records
    the response it is answered with. -/
theorem mem_dispatch {prepared : Prepared} {past : List Event} {e : Event} :
    e ∈ (dispatch lib world plan options prepared past).2 ↔
      e ∈ prepared.contact ∨ ∃ response,
        world.exchange (past ++ prepared.contact) prepared.request = .ok response ∧
        e ∈ (observeResponse lib world plan options prepared response
          (world.elapsed (past ++ prepared.contact)) (past ++ prepared.contact)).2 := by
  unfold dispatch
  rw [Eff.mem_bind, exchange_eq]
  simp only [Except.ok.injEq, exists_eq_left']
  refine or_congr_right ?_
  cases world.exchange (past ++ prepared.contact) prepared.request with
  | error e' =>
      simp only [reduceCtorEq, false_and, exists_false, iff_false]
      exact List.not_mem_nil
  | ok response =>
      simp only [Except.ok.injEq, exists_eq_left']
      rw [Eff.ofExcept_bind]
      change e ∈ ((Eff.past >>= _) _).2 ↔ _
      rw [Eff.past_bind]

/-- What is left of an invocation once the plan is admitted. -/
def invokeTarget (lib : Crates) (world : World) (plan : RequestPlan) (options : InvokeOptions)
    (target : Url) : Eff Event ExecError InvocationResult := do
  let outcome ← prepareTarget lib world plan options target
  match outcome with
  | .error denial => pure (.denied denial)
  | .ok prepared => dispatch lib world plan options prepared

/-- A sealed plan whose grants are held and whose target parses is admitted. -/
theorem admitted_of_granted {target : Url} (hseal : plan.verifySeal lib = true)
    (hconfig : options.expectedConfigFingerprint = none)
    (hpolicy : options.expectedPolicyFingerprint = none)
    (hgrants : ∀ g ∈ plan.requiredGrants, g ∈ options.grants)
    (hparse : lib.parseUrl plan.target = .ok target) :
    admitted lib plan options = .ok (.ok target) := by
  simp only [admitted, except_bind_ok, ensure_ok, exists_const]
  refine ⟨hseal, ?_, ?_, ?_⟩
  · rw [hconfig]
    rfl
  · rw [hpolicy]
    rfl
  · rw [missingGrant_eq_none.mpr hgrants, hparse]
    rfl

theorem invoke_of_admitted {target : Url} (h : admitted lib plan options = .ok (.ok target))
    (past : List Event) :
    invoke lib world plan options past = invokeTarget lib world plan options target past := by
  unfold invoke
  have hprepare : prepare lib world plan options = prepareTarget lib world plan options target := by
    funext past
    unfold prepare
    rw [Eff.ofExcept_bind, h]
  rw [hprepare]
  rfl

/-- Where the effects of an invocation come from. -/
theorem mem_invoke {past : List Event} {e : Event} :
    e ∈ (invoke lib world plan options past).2 ↔
      e ∈ (prepare lib world plan options past).2 ∨ ∃ prepared,
        (prepare lib world plan options past).1 = .ok (.ok prepared) ∧
        e ∈ (dispatch lib world plan options prepared
          (past ++ (prepare lib world plan options past).2)).2 := by
  unfold invoke
  rw [Eff.mem_bind]
  refine or_congr_right ?_
  constructor
  · rintro ⟨_ | prepared, hok, he⟩
    · exact absurd he List.not_mem_nil
    · exact ⟨prepared, hok, he⟩
  · exact fun ⟨prepared, hok, he⟩ => ⟨_, hok, he⟩

end

end Kahea
