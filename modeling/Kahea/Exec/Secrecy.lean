import Kahea.Exec.HostPolicy
import Kahea.Exec.Remnants

/-!
# Secrets in the Evidence of an Invocation

Whether the records of an invocation contain a credential it used.

The body of a response is stored after the credentials have been replaced in
it. Three parts of a response are stored as they came: the content type is the
media type of the body record, the headers are in the trace with only the
values of some names hidden, and the messages of the checks quote the response.
`Quiet` says that a byte string is in none of the three, nor by chance in a
number or a handle that is written for the response, and `records_free_iff`
that the records of a run are free of a credential exactly when the answers to
the run are quiet about it.

The credential has to be foreign to the plan and to the fixed text of the
executor (`Foreign`). In the body it is removed whatever the response when it
does not touch the marker that is put in its place (`Clear`); otherwise its own
replacement can bring it back.

## Main definitions

* `Credential`: What a run has to keep out of its records.
* `Foreign`: A byte string that is in no text of the plan or the executor.
* `Answered`, `Quiet`: The response of a run, and what it must not repeat.
* `Discreet`: What the answers to a run must not repeat.

## Theorems

* `prepare_free`: What is recorded before the request is sent.
* `responseRecords_free`, `quiet_of_records`: The records of a quiet response.
* `records_free_iff`: The records of an invocation.
-/

namespace Kahea

/-! ### Texts that are written anyway -/

/-- The member names, media types and values the executor writes on its own. -/
def executorTexts : List String :=
  ["application/json", "application/octet-stream", "[REDACTED]", "[NON-UTF8]", "null", "token_url",
    "status", "profile", "response_blake3", "request", "response", "request_derivation",
    "schema_error", "method", "target", "headers", "body_blake3", "body", "bytes", "http_version",
    "HTTP/0.9", "HTTP/1.0", "HTTP/1.1", "HTTP/2.0", "HTTP/3.0", "protocol", "kind", "version",
    "config_fingerprint", "policy_fingerprint", "source_fingerprints", "tool_version", "plan",
    "outcome", "response_schema", "latency_ms", "response_bytes", "trace", "resolved_origin",
    "secret_refs", "runtime", "exit", "kahea/k1", "observation", "0.3.1", "passed", "failed"]

/-- The texts of a URL in evidence. -/
def urlTexts (url : Url) : List Str :=
  [url.serialize, { url with query := some marker }.serialize, resolvedOrigin url]

/-- The texts of a plan as the libraries make them: its URLs, its profile, and
    the names and values of its headers. -/
def requestTexts (lib : Crates) (plan : RequestPlan) : List Str :=
  (plan.target :: tokenUrls plan.auth).flatMap (fun text =>
      (lib.parseUrl text).toOption.toList.flatMap urlTexts) ++
    plan.auth.toList.map (fun auth => "secret://".toList ++ auth.profile) ++
    plan.headers.flatMap (fun h => (lib.headerName h.name).toOption.toList ++
      ((lib.headerValue h.value).toOption.bind headerText).toList) ++
    (credentialHeaders plan).flatMap (fun name => (lib.headerName name).toOption.toList)

/-- A byte string that is in no text of the plan, nor in the fixed text the
    executor writes. -/
structure Foreign (lib : Crates) (plan : RequestPlan) (s : List UInt8) : Prop where
  planned : plan.toJson.Free s
  request : ∀ t ∈ requestTexts lib plan, ¬ s <:+: utf8 t
  fixed : ∀ t ∈ executorTexts, ¬ s <:+: utf8 t
  runtime : ¬ s <:+: utf8 lib.runtime

/-! ### Credentials and responses -/

/-- What a run must not record: a supplied secret, a string inside one, the
    token, and the value of a header that carries a credential. -/
def Credential (lib : Crates) (world : World) (plan : RequestPlan) (options : InvokeOptions)
    (past : List Event) (s : List UInt8) : Prop :=
  s ≠ [] ∧ ((∃ entry ∈ options.secrets, ∃ text ∈ hiddenTexts lib entry.2, s = utf8 text) ∨
    ∃ p, (prepare lib world plan options past).1 = .ok (.ok p) ∧
      ((∃ token, p.token = some token ∧ s = utf8 token) ∨
        ∃ h ∈ p.request.headers, h.sensitive = true ∧ s = h.value))

/-- The handles in the records of a response. -/
def responseHandles (lib : Crates) (plan : RequestPlan) (p : Prepared) (response : HttpResponse)
    (data : List UInt8) (elapsed : Nat) : List Str :=
  let failures := validateChecks lib plan (checkedResponse response data elapsed)
  p.derivation :: recordHandle lib (bodyRecord lib plan p response data) ::
    recordHandle lib (exchangeRecord lib plan p response data failures) ::
    (failuresRecords failures).map (recordHandle lib)

/-- The numbers in the records of a response: its status, its size, and the
    exit status of the run. -/
def responseNumbers (lib : Crates) (plan : RequestPlan) (response : HttpResponse)
    (data : List UInt8) (elapsed : Nat) : List Nat :=
  [response.status, data.length,
    if (validateChecks lib plan (checkedResponse response data elapsed)).isEmpty then 0 else 1]

/-- The record of a token exchange. -/
def tokenRecord (lib : Crates) (auth : PlannedAuth) (target : Url) (status : Nat)
    (data : List UInt8) : Record :=
  ⟨"oauth-refresh", "application/json", .json (oauthRecord lib auth target status data), true⟩

/-- A request that was ready to be sent, its response with the body, and the
    time it took. -/
structure Answered (lib : Crates) (world : World) (plan : RequestPlan) (options : InvokeOptions)
    (past : List Event) (p : Prepared) (response : HttpResponse) (data : List UInt8)
    (elapsed : Nat) : Prop where
  prepared : (prepare lib world plan options past).1 = .ok (.ok p)
  answer : world.exchange (past ++ (prepare lib world plan options past).2 ++ p.contact) p.request
    = .ok response
  body : responseBody options response = .ok data
  elapsed : elapsed = world.elapsed (past ++ (prepare lib world plan options past).2 ++ p.contact)

/-- What a response must not repeat: its content type, its headers as they are
    shown, and the messages the checks of the plan find for it; nor may the
    numbers and handles written for it happen to contain it. -/
structure Quiet (lib : Crates) (plan : RequestPlan) (s : List UInt8) (p : Prepared)
    (response : HttpResponse) (data : List UInt8) (elapsed : Nat) : Prop where
  mediaType : ¬ s <:+: utf8 (contentTypeOf response.headers)
  headers : (redactedHeaders response.headers plan.sensitiveHeaders).Free s
  failures : ∀ message ∈ validateChecks lib plan (checkedResponse response data elapsed),
    ¬ s <:+: utf8 message
  numbers : ∀ n ∈ responseNumbers lib plan response data elapsed, ¬ s <:+: utf8 (decimal n)
  latency : ¬ s <:+: utf8 (lib.milliseconds elapsed)
  handles : ∀ handle ∈ responseHandles lib plan p response data elapsed, ¬ s <:+: utf8 handle

/-- What the answers to a run must not contain outside the body: the status and
    the digest of a token answer that is recorded, and the quiet parts of the
    response. -/
structure Discreet (lib : Crates) (world : World) (plan : RequestPlan) (options : InvokeOptions)
    (past : List Event) (s : List UInt8) : Prop where
  tokens : ∀ auth target status data,
    .store (tokenRecord lib auth target status data) ∈ (prepare lib world plan options past).2 →
      ¬ s <:+: utf8 (decimal status) ∧ ¬ s <:+: utf8 (digest lib data)
  responses : ∀ p response data elapsed,
    Answered lib world plan options past p response data elapsed →
      Quiet lib plan s p response data elapsed

/-! ### Records of values -/

theorem Value.free_jsonObject {s : List UInt8} {members : List (String × Value)} :
    (jsonObject members).Free s ↔ ∀ e ∈ members, ¬ s <:+: utf8 e.1.toList ∧ e.2.Free s := by
  rw [jsonObject, Value.free_object]
  simp only [List.mem_map, forall_exists_index, and_imp, forall_apply_eq_imp_iff₂]

theorem Value.free_jsonSorted {s : List UInt8} {members : List (String × Value)}
    (h : ∀ e ∈ members, ¬ s <:+: utf8 e.1.toList ∧ e.2.Free s) : (jsonSorted members).Free s := by
  -- The members collected so far are some of those passed so far.
  have hloop (rest : List (String × Value)) (sorted : List (Str × Value))
      (hsorted : ∀ e ∈ sorted, ¬ s <:+: utf8 e.1 ∧ e.2.Free s)
      (hrest : ∀ e ∈ rest, ¬ s <:+: utf8 e.1.toList ∧ e.2.Free s) :
      ∀ e ∈ rest.foldl (fun m e => insert e.1.toList e.2 m) sorted,
        ¬ s <:+: utf8 e.1 ∧ e.2.Free s := by
    induction rest generalizing sorted with
    | nil => exact hsorted
    | cons member rest ih =>
        refine ih _ (fun e he => ?_) (fun e he => hrest e (List.mem_cons_of_mem _ he))
        rcases mem_of_mem_insert he with rfl | he
        · exact hrest member List.mem_cons_self
        · exact hsorted e he
  exact Value.free_object.mpr (hloop members [] (fun e he => absurd he List.not_mem_nil) h)

/-- With distinct names every member is kept. -/
theorem Value.free_of_jsonSorted {s : List UInt8} {members : List (String × Value)}
    (h : (jsonSorted members).Free s) (hnames : (members.map (fun e => e.1.toList)).Nodup) :
    ∀ e ∈ members, e.2.Free s := by
  -- By the members, each inserted under a name no other has.
  have hloop (rest : List (String × Value)) (sorted : List (Str × Value))
      (hrest : (rest.map (fun e => e.1.toList)).Nodup) :
      (∀ e ∈ rest, (e.1.toList, e.2) ∈ rest.foldl (fun m e => insert e.1.toList e.2 m) sorted) ∧
        ∀ f ∈ sorted, (∀ e ∈ rest, f.1 ≠ e.1.toList) →
          f ∈ rest.foldl (fun m e => insert e.1.toList e.2 m) sorted := by
    induction rest generalizing sorted with
    | nil => exact ⟨fun e he => absurd he List.not_mem_nil, fun f hf _ => hf⟩
    | cons member rest ih =>
        rw [List.map_cons, List.nodup_cons] at hrest
        rcases ih (insert member.1.toList member.2 sorted) hrest.2 with ⟨hmembers, hkept⟩
        refine ⟨fun e he => ?_, fun f hf hne => ?_⟩
        · rcases List.mem_cons.mp he with rfl | he
          · exact hkept _ (mem_insert_self _ _ _) (fun e' he' heq => hrest.1
              (List.mem_map.mpr ⟨e', he', heq.symm⟩))
          · exact hmembers e he
        · exact hkept f (mem_insert_of_ne hf (hne member List.mem_cons_self))
            (fun e he => hne e (List.mem_cons_of_mem _ he))
  exact fun e he => (Value.free_object.mp h _ ((hloop members [] hnames).1 e he)).2

theorem Value.free_stringArray {s : List UInt8} {xs : List Str} :
    (stringArray xs).Free s ↔ ∀ x ∈ xs, ¬ s <:+: utf8 x := by
  rw [stringArray, Value.free_array]
  simp only [List.mem_map, forall_exists_index, and_imp, forall_apply_eq_imp_iff₂,
    Value.free_string]

theorem Value.free_number {s : List UInt8} {n : Number} :
    (Value.number n).Free s ↔ ¬ s <:+: utf8 n.text := by
  simp only [Value.Free, Value.texts, List.mem_singleton, forall_eq]

theorem Value.free_optional {s : List UInt8} {f : α → Value} {a : Option α}
    (hnull : Value.null.Free s) (h : ∀ x, a = some x → (f x).Free s) : (optional f a).Free s := by
  cases a with
  | none => exact hnull
  | some x => exact h x rfl

section

variable {lib : Crates} {world : World} {plan : RequestPlan} {options : InvokeOptions}
  {s : List UInt8}

namespace Foreign

theorem null (h : Foreign lib plan s) : Value.null.Free s := by
  intro t ht
  rw [List.mem_singleton.mp ht]
  exact h.fixed "null" (by decide)

/-- The texts of a URL the run parses from the plan. -/
theorem url (h : Foreign lib plan s) {text : Str} {url : Url}
    (htext : text ∈ plan.target :: tokenUrls plan.auth) (hparse : lib.parseUrl text = .ok url) :
    ∀ t ∈ urlTexts url, ¬ s <:+: utf8 t := by
  intro t ht
  refine h.request t (List.mem_append_left _ (List.mem_append_left _ (List.mem_append_left _ ?_)))
  refine List.mem_flatMap.mpr ⟨text, htext, ?_⟩
  rw [hparse]
  exact List.mem_flatMap.mpr ⟨url, List.mem_singleton_self url, ht⟩

theorem profile (h : Foreign lib plan s) {auth : PlannedAuth} (hauth : plan.auth = some auth) :
    ¬ s <:+: utf8 ("secret://" ++ auth.profile) := by
  refine h.request _ (List.mem_append_left _ (List.mem_append_left _ (List.mem_append_right _ ?_)))
  rw [hauth]
  exact List.mem_singleton_self _

/-- The parts of the plan that are written again. -/
theorem parts (h : Foreign lib plan s) :
    (¬ s <:+: utf8 plan.method ∧ ¬ s <:+: utf8 plan.configFingerprint ∧
      ¬ s <:+: utf8 plan.policyFingerprint ∧ ¬ s <:+: utf8 plan.id) ∧
    (stringArray plan.sourceFingerprints).Free s ∧ (stringArray plan.secretRefs).Free s ∧
    (optional PlannedBody.toJson plan.body).Free s ∧
    (Value.array (plan.derivations.map FieldDerivation.toJson)).Free s := by
  have hmembers := h.planned
  simp only [RequestPlan.toJson, Value.free_jsonObject, List.mem_cons, List.not_mem_nil, or_false,
    forall_eq_or_imp, forall_eq, Value.free_string] at hmembers
  rcases hmembers with ⟨_, _, _, ⟨_, hconfig⟩, ⟨_, hpolicy⟩, ⟨_, hsources⟩, ⟨_, hid⟩, _, _,
    ⟨_, hmethod⟩, _, _, ⟨_, hrefs⟩, _, _, ⟨_, hbody⟩, _, _, _, _, ⟨_, hderivations⟩, _⟩
  exact ⟨⟨hmethod, hconfig, hpolicy, hid⟩, hsources, hrefs, hbody, hderivations⟩

theorem bodyDigest (h : Foreign lib plan s) :
    (optional (fun b : PlannedBody => .string b.blake3) plan.body).Free s := by
  refine Value.free_optional h.null (fun b hb => ?_)
  have hbody := h.parts.2.2.2.1
  simp only [hb, optional, PlannedBody.toJson, Value.free_jsonObject, List.mem_cons,
    List.not_mem_nil, or_false, forall_eq_or_imp, forall_eq, Value.free_string] at hbody
  exact Value.free_string.mpr hbody.2.2.1.2

/-- The headers of a request, as its trace shows them. -/
theorem headers (h : Foreign lib plan s) {target target' : Url} {headers headers' : HeaderMap}
    (hplanned : plannedHeaders lib plan = .ok headers)
    (hattached : Attached lib plan target target' headers headers') :
    (redactedHeaders headers' plan.sensitiveHeaders).Free s := by
  intro t ht
  rcases mem_texts_redactedHeaders ht with ⟨header, hmem, hshown⟩
  have hmarker : ¬ s <:+: utf8 marker := h.fixed "[REDACTED]" (by decide)
  rcases hattached.headers header hmem with hold | ⟨hsensitive, name, hname, hlib⟩
  · -- A header of the plan, with its name and value as the library has them.
    rcases mem_plannedHeaders hplanned hold with ⟨_, planned, hplan, hname, hvalue⟩
    have htexts : ∀ t ∈ (lib.headerName planned.name).toOption.toList ++
        ((lib.headerValue planned.value).toOption.bind headerText).toList, ¬ s <:+: utf8 t :=
      fun t ht => h.request t (List.mem_append_left _ (List.mem_append_right _
        (List.mem_flatMap.mpr ⟨planned, hplan, ht⟩)))
    rw [hname, hvalue] at htexts
    rcases hshown with rfl | rfl
    · exact htexts _ (List.mem_append_left _ (List.mem_singleton_self _))
    · unfold shownValue
      split_ifs
      · exact hmarker
      · cases htext : headerText header.value with
        | none => exact h.fixed "[NON-UTF8]" (by decide)
        | some text =>
            refine htexts text (List.mem_append_right _ ?_)
            change text ∈ (headerText header.value).toList
            rw [htext]
            exact List.mem_singleton_self text
  · -- A header that carries the credential: its name only.
    rcases hshown with rfl | rfl
    · refine h.request _ (List.mem_append_right _ (List.mem_flatMap.mpr ⟨name, hname, ?_⟩))
      rw [hlib]
      exact List.mem_singleton_self _
    · rw [shownValue, isSensitive, hsensitive, Bool.true_or, Bool.true_or, if_pos rfl]
      exact hmarker

end Foreign

/-! ### Before the request -/

/-- The numbers and digests of the token records. -/
theorem free_of_tokenRecord {auth : PlannedAuth} {target : Url} {status : Nat}
    {data : List UInt8} (hfree : (tokenRecord lib auth target status data).Free s) :
    ¬ s <:+: utf8 (decimal status) ∧ ¬ s <:+: utf8 (digest lib data) := by
  have hnames : (["token_url", "status", "profile", "response_blake3"].map String.toList).Nodup := by
    decide
  have hmembers := Value.free_of_jsonSorted hfree.2 hnames
  simp only [List.mem_cons, List.not_mem_nil, or_false, forall_eq_or_imp, forall_eq,
    Value.free_string] at hmembers
  exact ⟨Value.free_number.mp hmembers.2.1, hmembers.2.2.2⟩

/-- What is stored before the request is sent is free of a foreign string that
    is not in the status or the digest of a token answer. -/
theorem prepare_free (h : Foreign lib plan s) {past : List Event}
    (htokens : ∀ auth target status data,
      .store (tokenRecord lib auth target status data) ∈ (prepare lib world plan options past).2 →
        ¬ s <:+: utf8 (decimal status) ∧ ¬ s <:+: utf8 (digest lib data)) {record : Record}
    (hrecord : .store record ∈ (prepare lib world plan options past).2) : record.Free s := by
  have hjson : ¬ s <:+: utf8 "application/json" := h.fixed "application/json" (by decide)
  -- A record is the derivation or that of a token.
  cases (prepare_ensures past).2 _ hrecord with
  | derivation => exact ⟨hjson, h.parts.2.2.2.2⟩
  | authenticate _ _ hauth =>
      cases hauth with
      | record contact status data =>
          rcases contact.parsed with ⟨text, htext, hparse⟩
          rcases htokens _ _ _ _ hrecord with ⟨hstatus, hdigest⟩
          -- The target of the token is a text of the plan.
          have hmem : text ∈ plan.target :: tokenUrls plan.auth := by
            rw [contact.bound, tokenUrls, if_pos contact.placement, htext]
            exact List.mem_cons_of_mem _ (List.mem_singleton_self text)
          refine ⟨hjson, Value.free_jsonSorted ?_⟩
          simp only [List.mem_cons, List.not_mem_nil, or_false, forall_eq_or_imp, forall_eq,
            Value.free_string]
          exact ⟨⟨h.fixed "token_url" (by decide), h.url hmem hparse _ List.mem_cons_self⟩,
            ⟨h.fixed "status" (by decide), Value.free_number.mpr hstatus⟩,
            ⟨h.fixed "profile" (by decide), h.profile contact.bound⟩,
            h.fixed "response_blake3" (by decide), hdigest⟩

/-! ### The response -/

theorem safeTarget_eq (plan : RequestPlan) (url : Url) :
    safeTarget plan url = url ∨ safeTarget plan url = { url with query := some marker } := by
  unfold safeTarget
  split_ifs
  · exact Or.inr rfl
  · exact Or.inl rfl

/-- The trace shows the target of the plan, with the query hidden where the
    credential is in it. -/
theorem Attached.safeTarget {target target' : Url} {headers headers' : HeaderMap}
    (h : Attached lib plan target target' headers headers') :
    Kahea.safeTarget plan target' = Kahea.safeTarget plan target := by
  rcases h.target with rfl | ⟨auth, query, hauth, hplacement, rfl⟩
  · rfl
  · unfold Kahea.safeTarget
    rw [hauth, Option.any_some, hplacement, if_pos rfl, if_pos rfl]

theorem requestTrace_free (h : Foreign lib plan s) {p : Prepared}
    (hsound : Prepared.Sound lib plan options p) : p.requestTrace.Free s := by
  rcases hsound.target with ⟨url, headers, hparse, hplanned, hattached⟩
  have htexts := h.url List.mem_cons_self hparse
  have htarget : ¬ s <:+: utf8 (safeTarget plan p.request.url).serialize := by
    rw [hattached.safeTarget]
    rcases safeTarget_eq plan url with heq | heq <;> rw [heq]
    · exact htexts _ List.mem_cons_self
    · exact htexts _ (List.mem_cons_of_mem _ List.mem_cons_self)
  rw [hsound.trace]
  refine Value.free_jsonSorted ?_
  simp only [List.mem_cons, List.not_mem_nil, or_false, forall_eq_or_imp, forall_eq,
    Value.free_string]
  exact ⟨⟨h.fixed "method" (by decide), h.parts.1.1⟩, ⟨h.fixed "target" (by decide), htarget⟩,
    ⟨h.fixed "headers" (by decide), h.headers hplanned hattached⟩,
    h.fixed "body_blake3" (by decide), h.bodyDigest⟩

theorem version_free (h : Foreign lib plan s) (version : HttpVersion) :
    ¬ s <:+: utf8 version.text := by
  cases version
  · exact h.fixed "HTTP/0.9" (by decide)
  · exact h.fixed "HTTP/1.0" (by decide)
  · exact h.fixed "HTTP/1.1" (by decide)
  · exact h.fixed "HTTP/2.0" (by decide)
  · exact h.fixed "HTTP/3.0" (by decide)

theorem origin_free (h : Foreign lib plan s) {p : Prepared}
    (hsound : Prepared.Sound lib plan options p) :
    ¬ s <:+: utf8 (resolvedOrigin p.request.url) := by
  rcases hsound.target with ⟨url, headers, hparse, _, hattached⟩
  rcases hattached.origin with ⟨hscheme, hhost, hport⟩
  have heq : resolvedOrigin p.request.url = resolvedOrigin url := by
    rw [resolvedOrigin, resolvedOrigin, hscheme, hhost, hport]
  rw [heq]
  exact h.url List.mem_cons_self hparse _
    (List.mem_cons_of_mem _ (List.mem_cons_of_mem _ List.mem_cons_self))

/-- The observation of a quiet response. -/
theorem observationRecord_free (h : Foreign lib plan s) {p : Prepared}
    (hsound : Prepared.Sound lib plan options p) {response : HttpResponse} {data : List UInt8}
    {elapsed : Nat} (hquiet : Quiet lib plan s p response data elapsed) :
    (observationRecord lib plan p response data elapsed
      (validateChecks lib plan (checkedResponse response data elapsed))).Free s := by
  -- The words, the numbers and the handles of the record are free of the secret, each by its
  -- hypothesis.
  rcases h.parts with ⟨⟨_, hconfig, hpolicy, hid⟩, hsources, hrefs, _, _⟩
  rcases hquiet with ⟨_, _, _, hnumbers, hlatency, hhandles⟩
  simp only [responseNumbers, responseHandles, List.mem_cons, List.not_mem_nil, or_false,
    forall_eq_or_imp, forall_eq] at hnumbers hhandles
  rcases hnumbers with ⟨hstatus, hsize, hexit⟩
  rcases hhandles with ⟨_, hbody, htrace, _⟩
  have hword (word : String) (hw : word ∈ executorTexts) : ¬ s <:+: utf8 word := h.fixed word hw
  refine ⟨hword "application/json" (by decide), ?_⟩
  change (summary _ _ _ _ _ _ _ _ _).toJson.Free s
  simp only [Observation.toJson, summary, Value.free_jsonObject, List.mem_cons, List.not_mem_nil,
    or_false, forall_eq_or_imp, forall_eq, Value.free_string, optional, jsonMilliseconds,
    Value.free_number]
  refine ⟨⟨hword _ (by decide), hword "kahea/k1" (by decide)⟩,
    ⟨hword _ (by decide), hword "observation" (by decide)⟩,
    ⟨hword _ (by decide), hword "0.3.1" (by decide)⟩, ⟨hword _ (by decide), hconfig⟩,
    ⟨hword _ (by decide), hpolicy⟩, ⟨hword _ (by decide), hsources⟩,
    ⟨hword _ (by decide), hword "0.3.1" (by decide)⟩, ⟨hword _ (by decide), hid⟩,
    ⟨hword _ (by decide), ?_⟩, ⟨hword _ (by decide), Value.free_number.mpr hstatus⟩,
    ⟨hword _ (by decide), ?_⟩, ⟨hword _ (by decide), hlatency⟩,
    ⟨hword _ (by decide), Value.free_number.mpr hsize⟩, ⟨hword _ (by decide), hbody⟩,
    ⟨hword _ (by decide), htrace⟩, ⟨hword _ (by decide), origin_free h hsound⟩,
    ⟨hword _ (by decide), version_free h _⟩, ⟨hword _ (by decide), hrefs⟩,
    ⟨hword _ (by decide), h.runtime⟩, hword _ (by decide), Value.free_number.mpr hexit⟩
  -- The outcome is one of two words.
  · split_ifs
    · exact hword "passed" (by decide)
    · exact hword "failed" (by decide)
  · split_ifs
    · exact hword "passed" (by decide)
    · exact hword "failed" (by decide)

/-- The trace of a quiet response. -/
theorem exchangeRecord_free (h : Foreign lib plan s) {p : Prepared}
    (hsound : Prepared.Sound lib plan options p) {response : HttpResponse} {data : List UInt8}
    {elapsed : Nat} (hquiet : Quiet lib plan s p response data elapsed) :
    (exchangeRecord lib plan p response data
      (validateChecks lib plan (checkedResponse response data elapsed))).Free s := by
  rcases hquiet with ⟨_, hheaders, _, hnumbers, _, hhandles⟩
  simp only [responseNumbers, responseHandles, List.mem_cons, List.not_mem_nil, or_false,
    forall_eq_or_imp, forall_eq] at hnumbers hhandles
  rcases hnumbers with ⟨hstatus, hsize, _⟩
  rcases hhandles with ⟨hderivation, hbody, _, hfailures⟩
  have hword (word : String) (hw : word ∈ executorTexts) : ¬ s <:+: utf8 word := h.fixed word hw
  have hresponse : (responseTrace plan response data.length
      (recordHandle lib (bodyRecord lib plan p response data))).Free s := by
    refine Value.free_jsonSorted ?_
    simp only [List.mem_cons, List.not_mem_nil, or_false, forall_eq_or_imp, forall_eq,
      Value.free_string]
    exact ⟨⟨hword _ (by decide), Value.free_number.mpr hstatus⟩, ⟨hword _ (by decide), hheaders⟩,
      ⟨hword _ (by decide), hbody⟩, ⟨hword _ (by decide), Value.free_number.mpr hsize⟩,
      hword _ (by decide), version_free h _⟩
  refine ⟨hword "application/json" (by decide), Value.free_jsonSorted ?_⟩
  simp only [List.mem_cons, List.not_mem_nil, or_false, forall_eq_or_imp, forall_eq,
    Value.free_string]
  refine ⟨⟨hword _ (by decide), requestTrace_free h hsound⟩, ⟨hword _ (by decide), hresponse⟩,
    ⟨hword _ (by decide), hderivation⟩, hword _ (by decide), ?_⟩
  -- The record of the messages is named where there is one.
  refine Value.free_optional h.null (fun handle hhandle => Value.free_string.mpr ?_)
  rcases Option.map_eq_some_iff.mp hhandle with ⟨record, hrecord, rfl⟩
  exact hfailures _ (List.mem_map_of_mem (List.mem_of_mem_head? hrecord))

/-- Every credential of a run is replaced in its response. -/
theorem Credential.mem_redactions {past : List Event} {p : Prepared}
    (h : Credential lib world plan options past s)
    (hok : (prepare lib world plan options past).1 = .ok (.ok p)) : s ∈ p.redactions := by
  have hsound := (prepare_ensures past).1 _ hok p rfl
  rw [hsound.redactions, responseRedactions, mem_dedup, List.mem_insertionSort, List.mem_append,
    List.mem_append]
  rcases h.2 with ⟨entry, hentry, text, htext, rfl⟩ | ⟨p', hok', hp⟩
  · exact Or.inl (Or.inl (mem_secretRedactions.mpr ⟨entry, hentry, text, htext, rfl⟩))
  · have hsame : p' = p := Except.ok.inj (Except.ok.inj (hok'.symm.trans hok))
    subst hsame
    rcases hp with ⟨token, htoken, rfl⟩ | ⟨header, hmem, hsensitive, rfl⟩
    · rw [htoken]
      exact Or.inl (Or.inr (List.mem_singleton_self _))
    · exact Or.inr (List.mem_map_of_mem (List.mem_filter.mpr ⟨hmem, hsensitive⟩))

/-- The records of a quiet response are free of every credential that is
    foreign and does not touch the marker. -/
theorem responseRecords_free (h : Foreign lib plan s) (hclear : Clear (utf8 marker) s) (hne : s ≠ [])
    {p : Prepared} (hsound : Prepared.Sound lib plan options p) (hs : s ∈ p.redactions)
    {response : HttpResponse} {data : List UInt8} {elapsed : Nat}
    (hquiet : Quiet lib plan s p response data elapsed) {record : Record}
    (hrecord : record ∈ responseRecords lib plan p response data elapsed) : record.Free s := by
  rw [responseRecords, List.cons_append, List.mem_cons, List.mem_append, List.mem_pair] at hrecord
  rcases hrecord with rfl | hfailures | rfl | rfl
  · exact ⟨hquiet.mediaType, not_infix_redact hne hclear hs⟩
  · rw [failuresRecords] at hfailures
    split_ifs at hfailures
    · exact absurd hfailures List.not_mem_nil
    · rw [List.mem_singleton.mp hfailures]
      exact ⟨h.fixed "application/json" (by decide), Value.free_stringArray.mpr hquiet.failures⟩
  · exact exchangeRecord_free h hsound hquiet
  · exact observationRecord_free h hsound hquiet

/-! ### What a response leaves behind -/

/-- Writing a record to a store that accepts every record. -/
theorem mem_put_bind {β : Type} {record : Record} {f : Str → Eff Event ExecError β}
    (hwrite : ∀ past r, world.write past r = .ok ()) {past : List Event} {e : Event} :
    e ∈ (((put world lib record).mapError ExecError.evidence >>= f) past).2 ↔
      e = .store record ∨ e ∈ (f (shortHandle lib record.kind [record.content.data])
        (past ++ [.store record])).2 := by
  have hput : ((put world lib record).mapError ExecError.evidence) past =
      (.ok (shortHandle lib record.kind [record.content.data]), [.store record]) := by
    unfold Eff.mapError
    rw [put_of_write world (hwrite past record)]
    rfl
  rw [Eff.mem_bind, hput]
  simp only [List.mem_singleton, Except.ok.injEq, exists_eq_left']

/-- A store that accepts every record. -/
theorem storeFailures_of_write (hwrite : ∀ past r, world.write past r = .ok ())
    (failures : List Str) (past : List Event) :
    storeFailures lib world failures past =
      (.ok ((failuresRecords failures).head?.map (recordHandle lib)),
        (failuresRecords failures).map .store) := by
  unfold storeFailures failuresRecords
  by_cases hempty : failures.isEmpty = true
  · rw [if_pos hempty, if_pos hempty]
    rfl
  · rw [if_neg hempty, if_neg hempty]
    have hput := @put_of_write world lib _ _ (hwrite past (failuresRecord failures))
    change Eff.bind ((put world lib (failuresRecord failures)).mapError ExecError.evidence) _ past = _
    unfold Eff.bind Eff.mapError
    rw [hput]
    rfl

/-- Such a store has every record of a response that is read. -/
theorem observeResponse_stores (hwrite : ∀ past r, world.write past r = .ok ()) {p : Prepared}
    {response : HttpResponse} {data : List UInt8} {elapsed : Nat}
    (hdata : responseBody options response = .ok data) {record : Record}
    (hrecord : record ∈ responseRecords lib plan p response data elapsed) (past : List Event) :
    .store record ∈ (observeResponse lib world plan options p response elapsed past).2 := by
  unfold observeResponse
  rw [Eff.ofExcept_bind, hdata]
  dsimp only [putBlob, putJson, persistJsonObservation]
  rw [responseRecords, List.cons_append, List.mem_cons, List.mem_append, List.mem_pair] at hrecord
  rw [mem_put_bind hwrite]
  -- The records in the order in which they are stored.
  rcases hrecord with rfl | hrecord
  · exact Or.inl rfl
  refine Or.inr (Eff.mem_bind.mpr ?_)
  rw [storeFailures_of_write hwrite]
  rcases hrecord with hfailures | hrecord
  · exact Or.inl (List.mem_map_of_mem hfailures)
  refine Or.inr ⟨_, rfl, ?_⟩
  rw [mem_put_bind hwrite]
  rcases hrecord with rfl | rfl
  · exact Or.inl rfl
  · refine Or.inr (Eff.mem_bind.mpr (Or.inl ?_))
    change _ ∈ ((put world lib _ >>= _) _).2
    rw [Eff.mem_bind, put_of_write world (hwrite _ _)]
    exact Or.inl (List.mem_singleton_self _)

/-- A response whose records are free is quiet. -/
theorem quiet_of_records {p : Prepared} {response : HttpResponse} {data : List UInt8}
    {elapsed : Nat} (hfree : ∀ record ∈ responseRecords lib plan p response data elapsed,
      record.Free s) : Quiet lib plan s p response data elapsed := by
  rw [responseRecords, List.cons_append, List.forall_mem_cons, List.forall_mem_append,
    List.forall_mem_cons, List.forall_mem_singleton] at hfree
  rcases hfree with ⟨hbody, hmessages, htrace, hobservation⟩
  generalize hfailures : validateChecks lib plan (checkedResponse response data elapsed) = failures at *
  -- The response is a member of the trace.
  have houter : (["request", "response", "request_derivation", "schema_error"].map
      String.toList).Nodup := by decide
  have hinner : (["status", "headers", "body", "bytes", "http_version"].map
      String.toList).Nodup := by decide
  have htexts : (traceRecord _ _ _ _).Free s := htrace.2
  have hmembers := Value.free_of_jsonSorted htexts houter
  simp only [List.mem_cons, List.not_mem_nil, or_false, forall_eq_or_imp, forall_eq,
    Value.free_string] at hmembers
  rcases hmembers with ⟨_, hresponse, hderivation, hschema⟩
  have hparts := Value.free_of_jsonSorted hresponse hinner
  simp only [List.mem_cons, List.not_mem_nil, or_false, forall_eq_or_imp, forall_eq,
    Value.free_string] at hparts
  rcases hparts with ⟨hstatus, hheaders, hhandle, hsize, _⟩
  -- The rest is in the observation.
  have hsummary : (summary _ _ _ _ _ _ _ _ _).toJson.Free s := hobservation.2
  simp only [Observation.toJson, summary, Value.free_jsonObject, List.mem_cons, List.not_mem_nil,
    or_false, forall_eq_or_imp, forall_eq, Value.free_string, optional, jsonMilliseconds,
    Value.free_number] at hsummary
  rcases hsummary with ⟨_, _, _, _, _, _, _, _, _, _, _, ⟨_, hlatency⟩, _, _, ⟨_, hnamed⟩, _, _, _, _,
    _, hexit⟩
  have hstored : ∀ record ∈ failuresRecords failures,
      (∀ message ∈ failures, ¬ s <:+: utf8 message) ∧ ¬ s <:+: utf8 (recordHandle lib record) := by
    intro record hrecord
    unfold failuresRecords at hrecord hmessages hschema
    by_cases hempty : failures.isEmpty = true
    · rw [if_pos hempty] at hrecord
      exact absurd hrecord List.not_mem_nil
    · rw [if_neg hempty] at hrecord hmessages hschema
      rw [List.mem_singleton.mp hrecord]
      refine ⟨Value.free_stringArray.mp (hmessages _ (List.mem_singleton_self _)).2, ?_⟩
      exact Value.free_string.mp hschema
  refine
    { mediaType := hbody.1
      headers := hheaders
      failures := ?_
      numbers := ?_
      latency := hlatency
      handles := ?_ }
  · rw [hfailures]
    intro message hmessage
    have hsome : failuresRecord failures ∈ failuresRecords failures := by
      unfold failuresRecords
      rw [if_neg (fun h => List.ne_nil_of_mem hmessage (List.isEmpty_iff.mp h))]
      exact List.mem_singleton_self _
    exact (hstored _ hsome).1 message hmessage
  · rw [responseNumbers, hfailures, List.forall_mem_cons, List.forall_mem_cons,
      List.forall_mem_singleton]
    exact ⟨Value.free_number.mp hstatus, Value.free_number.mp hsize, Value.free_number.mp hexit⟩
  · rw [responseHandles, hfailures, List.forall_mem_cons, List.forall_mem_cons,
      List.forall_mem_cons]
    refine ⟨hderivation, hhandle, hnamed, fun handle hmem => ?_⟩
    rcases List.mem_map.mp hmem with ⟨record, hrecord, rfl⟩
    exact (hstored record hrecord).2

/-- A run stores no record with a credential exactly as far as the answers to
    it are discreet. For a credential that does not touch the marker that is
    enough, and where the store accepts every record it is necessary, whatever
    the credential. That it does not touch the marker cannot be left out:
    beside some secrets that do not, the redaction of some body leaves any
    credential that does. -/
theorem records_free_iff {past : List Event} (hforeign : Foreign lib plan s)
    (hcredential : Credential lib world plan options past s) :
    (Clear (utf8 marker) s → Discreet lib world plan options past s →
      ∀ record, .store record ∈ (invoke lib world plan options past).2 → record.Free s) ∧
    ((∀ past r, world.write past r = .ok ()) →
      (∀ record, .store record ∈ (invoke lib world plan options past).2 → record.Free s) →
      Discreet lib world plan options past s) ∧
    (¬ Clear (utf8 marker) s → ∃ secrets data, s ∈ secrets ∧
      (∀ t ∈ secrets, t ≠ [] ∧ (t ≠ s → Clear (utf8 marker) t)) ∧
      s <:+: redactBytes data (sortedRedactions secrets)) := by
  refine ⟨fun hclear hdiscreet record hrecord => ?_, fun hwrite hfree => ⟨?_, ?_⟩, ?_⟩
  -- A record is stored while the request is prepared, or after the response.
  · rcases mem_invoke.mp hrecord with hprepare | ⟨p, hok, hdispatch⟩
    · exact prepare_free hforeign hdiscreet.tokens hprepare
    have hsound := (prepare_ensures past).1 _ hok p rfl
    rcases mem_dispatch.mp hdispatch with hcontact | ⟨response, hresponse, hobserve⟩
    · simp only [Prepared.contact, List.mem_cons, reduceCtorEq, List.not_mem_nil, or_false] at hcontact
    · rcases (observeResponse_ensures _).2 _ hobserve with ⟨data, hdata, record', hstored, hsame⟩
      cases hsame
      exact responseRecords_free hforeign hclear hcredential.1 hsound
        (hcredential.mem_redactions hok)
        (hdiscreet.responses p response data _ ⟨hok, hresponse, hdata, rfl⟩) hstored
  -- The other way, each record that is stored tells one clause of the condition.
  · exact fun auth target status data hrecord =>
      free_of_tokenRecord (hfree _ (mem_invoke.mpr (Or.inl hrecord)))
  · rintro p response data elapsed ⟨hok, hresponse, hdata, rfl⟩
    refine quiet_of_records (fun record hrecord => hfree record ?_)
    exact mem_invoke.mpr (Or.inr ⟨p, hok, mem_dispatch.mpr (Or.inr ⟨response, hresponse,
      observeResponse_stores hwrite hdata hrecord _⟩)⟩)
  -- A secret that overlaps the marker can be left over.
  · exact exists_remnant hcredential.1

end

/-! ### A secret in the content type -/

/-- A plan that sends a bearer token and lists some grants. -/
def bearerPlan (grants : List Str) : RequestPlan :=
  { protocol := PROTOCOL
    kind := "plan"
    version := VERSION
    configFingerprint := "b3:configuration"
    policyFingerprint := "b3:policy"
    sourceFingerprints := []
    id := []
    operation := "op:list-items"
    target := "https://api.example.com/items"
    method := "GET"
    risk := .read
    requiredGrants := grants
    secretRefs := ["secret://service".toList]
    headers := []
    auth := some ⟨"bearer", "http", "service", "header:Authorization:bearer", none, []⟩
    body := none
    checks := []
    responseContract := .null
    sensitiveHeaders := []
    redactResponseJsonPointers := []
    derivations := []
    valid := true
    fingerprint := []
    exit := 0 }

/-- The grants the executor asks for to reach the target of that plan. -/
def bearerGrants : List Str :=
  ["http:GET".toList, "net:api.example.com:443".toList, "secret:service".toList]

def bearerSecret : Str := "hunter2!"

def bearerOptions (grants : List Str) : InvokeOptions :=
  { InvokeOptions.default with grants := grants, secrets := [("service".toList, bearerSecret)] }

/-- An outside whose server gives one response. -/
def World.responding (world : World) (response : HttpResponse) : World :=
  { world.answering publicAddress with exchange := fun _ _ => .ok response }

/-- A response that repeats the secret in its body, with a content type. -/
def echoResponse (contentType : String) : HttpResponse :=
  { status := 200
    version := .http11
    headers := [⟨"content-type", utf8 contentType, false⟩]
    body := .ok (utf8 "token hunter2!") }

/-- A text without an exclamation mark does not contain a secret with one. -/
theorem secret_not_inside {secret t : Str} (hmark : '!' ∈ secret) (h : '!' ∉ t) :
    ¬ utf8 secret <:+: utf8 t := by
  rw [utf8_isInfix (List.ne_nil_of_mem hmark)]
  exact not_infix_of_not_mem hmark h

/-- Sealing writes a digest and a handle. -/
theorem free_sealed {lib : Crates} {p : RequestPlan} {s : List UInt8} (h : p.toJson.Free s)
    (hdigest : ∀ data, ¬ s <:+: utf8 (digest lib data))
    (hhandle : ∀ parts, ¬ s <:+: utf8 (shortHandle lib "plan" parts)) :
    (p.sealed lib).toJson.Free s := by
  simp only [RequestPlan.toJson, Value.free_jsonObject, List.mem_cons, List.not_mem_nil, or_false,
    forall_eq_or_imp, forall_eq, Value.free_string] at h ⊢
  rcases h with ⟨h1, h2, h3, h4, h5, h6, hid, h8, h9, h10, h11, h12, h13, h14, h15, h16, h17, h18,
    h19, h20, h21, h22, hfingerprint, h24⟩
  exact ⟨h1, h2, h3, h4, h5, h6, ⟨hid.1, hhandle _⟩, h8, h9, h10, h11, h12, h13, h14, h15, h16, h17,
    h18, h19, h20, h21, h22, ⟨hfingerprint.1, hdigest _⟩, h24⟩

theorem not_mem_decimal (n : Nat) : '!' ∉ decimal n :=
  fun h => absurd (isDigit_of_mem_decimal h) (by decide)

/-- A secret with an exclamation mark is in no text of the plan or the
    executor. -/
theorem foreign_bearerPlan {secret : Str} (hmark : '!' ∈ secret) :
    Foreign referenceCrates ((bearerPlan bearerGrants).sealed referenceCrates) (utf8 secret) where
  planned := by
    have hplain : ∀ t ∈ (bearerPlan bearerGrants).toJson.texts, '!' ∉ t := by decide +kernel
    exact free_sealed (fun t ht => secret_not_inside hmark (hplain t ht))
      (fun data => secret_not_inside hmark (not_mem_digest data))
      (fun parts => secret_not_inside hmark (not_mem_shortHandle (by decide) parts))
  request := by
    have hplain : ∀ t ∈ requestTexts referenceCrates (bearerPlan bearerGrants), '!' ∉ t := by
      decide +kernel
    exact fun t ht => secret_not_inside hmark (hplain t ht)
  fixed := by
    have hplain : ∀ t ∈ executorTexts, '!' ∉ t.toList := by decide
    exact fun t ht => secret_not_inside hmark (hplain t ht)
  runtime := secret_not_inside hmark (by decide)

theorem credential_of_secret {lib : Crates} {world : World} {plan : RequestPlan}
    {options : InvokeOptions} {past : List Event} {profile secret : Str} (hne : secret ≠ [])
    (h : (profile, secret) ∈ options.secrets) :
    Credential lib world plan options past (utf8 secret) := by
  refine ⟨fun hnil => hne (utf8_injective hnil), Or.inl ⟨_, h, secret, ?_, rfl⟩⟩
  unfold hiddenTexts
  rw [if_neg hne]
  exact List.mem_append_left _ (List.mem_singleton_self secret)

/-- Whether a run of the plan stores a record whose media type contains the
    secret. -/
def mediaTypeLeaks (world : World) : Bool :=
  match referenceCrates.parseUrl (bearerPlan bearerGrants).target with
  | .error _ => false
  | .ok target => (invokeTarget referenceCrates world
      ((bearerPlan bearerGrants).sealed referenceCrates) (bearerOptions bearerGrants)
      target []).2.any (fun e => match e with
        | .store record => decide (utf8 bearerSecret <:+: utf8 record.mediaType)
        | _ => false)

/-- A server that repeats the token in its content type has it stored, though
    the secret is in no text of the plan or the executor. -/
theorem records_free_content_type :
    Foreign referenceCrates ((bearerPlan bearerGrants).sealed referenceCrates)
        (utf8 bearerSecret) ∧
      Credential referenceCrates
        (referenceWorld.responding (echoResponse "text/plain; token=hunter2!"))
        ((bearerPlan bearerGrants).sealed referenceCrates) (bearerOptions bearerGrants) []
        (utf8 bearerSecret) ∧
    ∃ record, .store record ∈ (invoke referenceCrates
        (referenceWorld.responding (echoResponse "text/plain; token=hunter2!"))
        ((bearerPlan bearerGrants).sealed referenceCrates) (bearerOptions bearerGrants) []).2 ∧
      ¬ record.Free (utf8 bearerSecret) := by
  refine ⟨foreign_bearerPlan (by decide), credential_of_secret (by decide) List.mem_cons_self, ?_⟩
  -- The run stores a record with the media type the server sent.
  have hleak : mediaTypeLeaks (referenceWorld.responding
      (echoResponse "text/plain; token=hunter2!")) = true := by decide +kernel
  unfold mediaTypeLeaks at hleak
  split at hleak
  · cases hleak
  rename_i target hparse
  rw [invoke_of_admitted (admitted_of_granted (RequestPlan.verifySeal_sealed _ _) rfl rfl
    (fun _ hg => hg) hparse)]
  rw [List.any_eq_true] at hleak
  rcases hleak with ⟨e, he, hinfix⟩
  cases e <;> try cases hinfix
  rename_i record
  exact ⟨record, he, fun hfree => hfree.1 (of_decide_eq_true hinfix)⟩

/-- A response that repeats the token in its body only is discreet. -/
theorem discreet_bearerPlan {past : List Event} :
    Discreet referenceCrates (referenceWorld.responding (echoResponse "text/plain"))
      ((bearerPlan bearerGrants).sealed referenceCrates) (bearerOptions bearerGrants) past
      (utf8 bearerSecret) where
  tokens auth target status data _ :=
    ⟨secret_not_inside (by decide) (not_mem_decimal status),
      secret_not_inside (by decide) (not_mem_digest data)⟩
  responses := by
    rintro p response data elapsed ⟨hok, hresponse, _, _⟩
    -- The response is the one the world gives.
    have hsame : response = echoResponse "text/plain" := (Except.ok.inj hresponse).symm
    subst hsame
    rcases ((prepare_ensures past).1 _ hok p rfl).derivation with ⟨parts, hparts⟩
    refine
      { mediaType := by decide +kernel
        headers := by decide +kernel
        failures := fun message h => absurd h List.not_mem_nil
        numbers := fun n _ => secret_not_inside (by decide) (not_mem_decimal n)
        latency := secret_not_inside (by decide) ?_
        handles := fun handle hmem => secret_not_inside (by decide) ?_ }
    -- The secret has a character in it that no number and no handle has.
    · change '!' ∉ decimal (elapsed / 1000000) ++ ".0".toList
      rw [List.mem_append]
      rintro (h | h)
      · exact not_mem_decimal _ h
      · exact absurd h (by decide)
    · rw [responseHandles, List.mem_cons, List.mem_cons, List.mem_cons] at hmem
      rcases hmem with rfl | rfl | rfl | hnone
      · rw [hparts]
        exact not_mem_shortHandle (by decide) parts
      · exact not_mem_shortHandle (show '!' ∉ "body".toList by decide) _
      · exact not_mem_shortHandle (show '!' ∉ "trace".toList by decide) _
      · exact absurd hnone List.not_mem_nil

/-- The store has every record of that run, none contains the token, and the
    records show that the response was discreet. A token that ends with a
    bracket is left by some redaction. -/
theorem records_free_body :
    (∀ record, .store record ∈ (invoke referenceCrates
        (referenceWorld.responding (echoResponse "text/plain"))
        ((bearerPlan bearerGrants).sealed referenceCrates) (bearerOptions bearerGrants) []).2 →
      record.Free (utf8 bearerSecret)) ∧
    Discreet referenceCrates (referenceWorld.responding (echoResponse "text/plain"))
      ((bearerPlan bearerGrants).sealed referenceCrates) (bearerOptions bearerGrants) []
      (utf8 bearerSecret) ∧
    ∃ secrets data, utf8 "hunter2![" ∈ secrets ∧
      (∀ t ∈ secrets, t ≠ [] ∧ (t ≠ utf8 "hunter2![" → Clear (utf8 marker) t)) ∧
      utf8 "hunter2![" <:+: redactBytes data (sortedRedactions secrets) := by
  have hclear : Clear (utf8 marker) (utf8 bearerSecret) := by decide +kernel
  -- Both halves of the equivalence are used at this run.
  have hexact := @records_free_iff _ (referenceWorld.responding (echoResponse "text/plain")) _
    (bearerOptions bearerGrants) _ [] (foreign_bearerPlan (by decide))
    (credential_of_secret (by decide) List.mem_cons_self)
  have hfree := hexact.1 hclear discreet_bearerPlan
  refine ⟨hfree, hexact.2.1 (fun _ _ => rfl) hfree, ?_⟩
  -- The other secret begins as the marker ends.
  have hbracket : ¬ Clear (utf8 marker) (utf8 "hunter2![") := by decide +kernel
  exact (@records_free_iff _ referenceWorld _
    { InvokeOptions.default with secrets := [("service".toList, "hunter2![".toList)] } _ []
    (foreign_bearerPlan (by decide))
    (credential_of_secret (by decide) List.mem_cons_self)).2.2 hbracket

end Kahea
