import Kahea.Core.Reference
import Kahea.Exec.Schema

/-!
# Response Contracts

The check `response-schema:openapi` against what a contract asks of a response.

`Conforms` is the contract's side: the status is declared, the references of
the declared response resolve, the media type of the response is one of those
declared, and a JSON body satisfies the schema of that media type. The check
looks at less. It follows one reference and goes on without it when it does not
resolve, it compares media types as texts and takes the first entry when none
matches, and it judges the body only when the content type has `json` in lower
case. `appliedSchema` is the schema it ends up with, if any.

`failsClosed_aligned` says for which plans, statuses and content types a check
that reports nothing is one the contract would pass: those where the entry of
the response's own media type is the one the check looks at.

## Main definitions

* `contractResponse`: The response a contract declares for a status.
* `appliedSchema`: The schema the check judges a body by.
* `Denotes`: An object, its references followed.
* `Aligned`: The entry of the response's media type is looked at.
* `Admits`, `Conforms`: What a contract asks of a response.
* `FailsClosed`: No failure only for a response that conforms.

## Theorems

* `validateResponseSchema_eq_self`: When the check reports nothing.
* `failsClosed_aligned`: When it fails closed.
* `aligned_of_picked`: The entry of the response's own media type.
* `validateChecks_eq_nil`: The checks of a plan are judged one by one.
* `failsClosed_object`: A contract it fails closed on.
* `not_failsClosed_html`: An HTML page for a JSON response.
-/

namespace Kahea

/-! ### What the check looks at -/

/-- The responses of a contract: its member of that name, else itself. -/
def contractResponses (contract : Value) : Option (List (Str × Value)) :=
  contract.asObject.map (fun object =>
    ((lookup "responses" object).bind Value.asObject).getD object)

/-- The response a contract declares for a status. -/
def contractResponse (contract : Value) (status : Nat) : Option Value :=
  (contractResponses contract).bind (fun responses => declaredResponse responses status)

/-- The declared response as the check reads it: one reference is followed, and
    one that does not resolve is passed over. -/
def readResponse (contract response : Value) : Value :=
  (resolveContractRef contract response).getD response

/-- The entry of the content the check picks. -/
def pickedMedia (contract response : Value) (contentType : Str) : Option (Str × Value) :=
  (((readResponse contract response).get "content").bind Value.asObject).bind
    (fun content => declaredMedia content contentType)

/-- The schema the check judges a body by, when it judges it. -/
def appliedSchema (contract response : Value) (contentType : Str) : Option Value :=
  if "json".toList <:+: contentType then
    (pickedMedia contract response contentType).bind (fun media => media.2.get "schema")
  else none

section

variable {lib : Crates} {contract : Value} {status : Nat} {contentType : Str}
  {data : List UInt8} {failures : List Str}

/-- The check in terms of the response it reads and the schema it applies. -/
theorem validateResponseSchema_declared {response : Value}
    (h : contractResponse contract status = some response) :
    validateResponseSchema lib contract status contentType data failures =
      whenSome (appliedSchema contract response contentType) (fun schema failures =>
        match lib.parseJson data with
        | .ok value => validateSchemaValue lib contract 64 schema value "$" failures
        | .error e => failures ++ ["response is not valid JSON: " ++ e]) failures := by
  unfold contractResponse contractResponses at h
  unfold validateResponseSchema
  -- Each lookup of the code is one of `appliedSchema`.
  cases hobject : contract.asObject with
  | none =>
      rw [hobject] at h
      cases h
  | some object =>
      rw [hobject, Option.map_some, Option.bind_some] at h
      simp only [h]
      unfold appliedSchema pickedMedia readResponse
      cases ((((resolveContractRef contract response).getD response).get "content").bind
          Value.asObject).bind (fun content => declaredMedia content contentType) with
      | none =>
          rw [Option.bind_none, ite_self]
          rfl
      | some media =>
          simp only [Option.bind_some]
          cases media.2.get "schema" with
          | none =>
              rw [ite_self]
              rfl
          | some schema =>
              -- A schema is there; the body is judged only under a JSON media type.
              by_cases hjson : "json".toList <:+: contentType
              · cases lib.parseJson data with
                | ok value => simp only [if_pos hjson, whenSome]
                | error e => simp only [if_pos hjson, whenSome]
              · simp only [if_neg hjson, whenSome]

theorem validateResponseSchema_undeclared (h : contractResponse contract status = none) :
    validateResponseSchema lib contract status contentType data failures = failures ↔
      contract.asObject = none := by
  unfold contractResponse contractResponses at h
  unfold validateResponseSchema
  cases hobject : contract.asObject with
  | none => exact iff_of_true rfl rfl
  | some object =>
      rw [hobject, Option.map_some, Option.bind_some] at h
      simp only [h]
      exact iff_of_false (fun heq => by simpa using congrArg List.length heq) nofun

/-- The check reports nothing exactly when the contract is no object, or
    declares the status and the body satisfies the applied schema, if any. -/
theorem validateResponseSchema_eq_self (hl : failures.length < 64) :
    validateResponseSchema lib contract status contentType data failures = failures ↔
      contract.asObject = none ∨ ∃ response, contractResponse contract status = some response ∧
        ∀ schema, appliedSchema contract response contentType = some schema →
          ∃ value, lib.parseJson data = .ok value ∧ Satisfies lib contract 64 schema value := by
  cases hresponse : contractResponse contract status with
  | none =>
      rw [validateResponseSchema_undeclared hresponse]
      exact ⟨Or.inl, fun h => h.resolve_right (fun ⟨_, hnone, _⟩ => nomatch hnone)⟩
  | some response =>
      -- With a response there is a contract.
      have hobject : contract.asObject ≠ none := by
        intro hnone
        unfold contractResponse contractResponses at hresponse
        rw [hnone] at hresponse
        cases hresponse
      rw [validateResponseSchema_declared hresponse, whenSome_eq_self, or_iff_right hobject]
      simp only [Option.some.injEq, exists_eq_left']
      -- Every schema that applies must be met by the body as JSON.
      refine forall_congr' (fun schema => imp_congr_right (fun _ => ?_))
      cases lib.parseJson data with
      | ok value =>
          simp only [validateSchemaValue_eq_self hl, Except.ok.injEq, exists_eq_left']
      | error e =>
          refine iff_of_false (fun heq => ?_) (fun ⟨_, hok, _⟩ => nomatch hok)
          simpa using congrArg List.length heq

end

/-! ### What a contract asks -/

/-- The type and subtype of a media type, without its parameters. -/
def mediaEssence (s : Str) : Str := lower (trim (s.takeWhile (· ≠ ';')))

/-- A media type whose bodies are JSON. -/
def isJsonMedia (essence : Str) : Bool :=
  essence = "application/json" || endsWith "+json".toList essence

/-- The object a value stands for, its references followed. -/
inductive Denotes (root : Value) : Value → List (Str × Value) → Prop
  | object {value : Value} {members : List (Str × Value)} (h : value.asObject = some members)
      (hplain : value.get "$ref" = none) : Denotes root value members
  | reference {value target : Value} {members : List (Str × Value)}
      (h : resolveContractRef root value = some target) (htarget : Denotes root target members) :
      Denotes root value members

/-- A declared response is one with a content type: its references resolve, and
    where it declares content an entry of it has the media type of the response
    and a value that fits. -/
def ContentDeclared (contract response : Value) (contentType : Str) (fits : Value → Prop) : Prop :=
  ∃ members, Denotes contract response members ∧ ∀ content, lookup "content" members = some content →
    ∃ entries, content.asObject = some entries ∧
      ∃ media ∈ entries, mediaEssence media.1 = mediaEssence contentType ∧ fits media.2

/-- An entry of the content whose schema is the one the check judges a body by,
    when it has a schema and the bodies are JSON. -/
def Judged (contract response : Value) (contentType : Str) (entry : Value) : Prop :=
  isJsonMedia (mediaEssence contentType) = true → ∀ schema, entry.get "schema" = some schema →
    appliedSchema contract response contentType = some schema

/-- The check looks at the entry of the response's own media type. -/
def Aligned (contract response : Value) (contentType : Str) : Prop :=
  ContentDeclared contract response contentType (Judged contract response contentType)

/-- The contract is an object that does not declare the status. -/
def StatusUndeclared (contract : Value) (status : Nat) : Prop :=
  contract.asObject ≠ none ∧ contractResponse contract status = none

section

variable (lib : Crates)

/-- An entry of the content lets a body through: a JSON body satisfies its
    schema. A body that is not JSON is `none`. -/
def EntryAdmits (contract : Value) (contentType : Str) (body : Option Value) (entry : Value) : Prop :=
  isJsonMedia (mediaEssence contentType) = true → ∀ schema, entry.get "schema" = some schema →
    ∃ value, body = some value ∧ Satisfies lib contract 64 schema value

/-- A declared response lets a body through: its references resolve, and where
    it declares content an entry of it does. -/
def Admits (contract response : Value) (contentType : Str) (body : Option Value) : Prop :=
  ContentDeclared contract response contentType (EntryAdmits lib contract contentType body)

/-- The response is one the contract asks for. -/
def Conforms (contract : Value) (r : CheckedResponse) : Prop :=
  ∃ response, contractResponse contract r.status = some response ∧
    Admits lib contract response r.contentType (lib.parseJson r.data).toOption

/-- The schema check adds no message to those of the checks before it. -/
def SchemaCheckPasses (plan : RequestPlan) (r : CheckedResponse) : Prop :=
  ∀ failures : List Str, failures.length < 20 →
    validateCheck lib plan.responseContract r failures "response-schema:openapi" = failures

/-- Of the responses with a status and a content type only those pass the
    schema check that conform. -/
def FailsClosed (plan : RequestPlan) (status : Nat) (contentType : Str) : Prop :=
  ∀ r : CheckedResponse, r.status = status → r.contentType = contentType →
    SchemaCheckPasses lib plan r → Conforms lib plan.responseContract r

end

section

variable {lib : Crates} {plan : RequestPlan} {status : Nat} {contentType : Str}

theorem schemaCheckPasses_iff {r : CheckedResponse} : SchemaCheckPasses lib plan r ↔
    plan.responseContract.asObject = none ∨
      ∃ response, contractResponse plan.responseContract r.status = some response ∧
        ∀ schema, appliedSchema plan.responseContract response r.contentType = some schema →
          ∃ value, lib.parseJson r.data = .ok value ∧
            Satisfies lib plan.responseContract 64 schema value := by
  simp only [SchemaCheckPasses, validateCheck, if_true]
  constructor
  · intro h
    have hnone : ([] : List Str).length < 64 := Nat.zero_lt_succ 63
    exact (validateResponseSchema_eq_self hnone).mp (h [] (Nat.zero_lt_succ 19))
  · exact fun h failures hl => (validateResponseSchema_eq_self (hl.trans (by decide))).mpr h

theorem ContentDeclared.mono {contract response : Value} {fits fits' : Value → Prop}
    (h : ContentDeclared contract response contentType fits) (hfits : ∀ entry, fits entry → fits' entry) :
    ContentDeclared contract response contentType fits' := by
  rcases h with ⟨members, hmembers, hcontent⟩
  refine ⟨members, hmembers, fun content hsome => ?_⟩
  rcases hcontent content hsome with ⟨entries, hentries, media, hmedia, hessence, hfit⟩
  exact ⟨entries, hentries, media, hmedia, hessence, hfits _ hfit⟩

/-- The schema an aligned check applies is the one the contract asks for. -/
theorem Aligned.admits {contract response : Value} {body : Option Value}
    (h : Aligned contract response contentType)
    (hbody : ∀ schema, appliedSchema contract response contentType = some schema →
      ∃ value, body = some value ∧ Satisfies lib contract 64 schema value) :
    Admits lib contract response contentType body :=
  ContentDeclared.mono h (fun _ hjudged hjson schema hschema => hbody schema (hjudged hjson schema hschema))

theorem contractResponse_of_not_object {contract : Value} (h : contract.asObject = none) :
    contractResponse contract status = none := by
  unfold contractResponse contractResponses
  rw [h]
  rfl

/-- A response with a body that a declaring contract lets pass. -/
theorem FailsClosed.admits {response : Value} {data : List UInt8}
    (h : FailsClosed lib plan status contentType)
    (hresponse : contractResponse plan.responseContract status = some response)
    (hbody : ∀ schema, appliedSchema plan.responseContract response contentType = some schema →
      ∃ value, lib.parseJson data = .ok value ∧
        Satisfies lib plan.responseContract 64 schema value) :
    Admits lib plan.responseContract response contentType (lib.parseJson data).toOption := by
  rcases h ⟨status, [], contentType, data, 0⟩ rfl rfl (schemaCheckPasses_iff.mpr
    (Or.inr ⟨response, hresponse, hbody⟩)) with ⟨response', hsame, hadmits⟩
  rw [hresponse, Option.some.injEq] at hsame
  subst hsame
  exact hadmits

/-- The check fails closed where the status is not declared by an object, and
    where the declared response resolves and the schema of the entry of the
    response's media type is the one the check applies. Where it fails closed
    and applies no schema, this is so; and where it applies one that some body
    satisfies, the response resolves and its media type is declared. -/
theorem failsClosed_aligned (hempty : ∀ value, lib.parseJson [] ≠ .ok value) :
    (StatusUndeclared plan.responseContract status ∨
        (∃ response, contractResponse plan.responseContract status = some response ∧
          Aligned plan.responseContract response contentType) →
      FailsClosed lib plan status contentType) ∧
    (FailsClosed lib plan status contentType →
      StatusUndeclared plan.responseContract status ∨
        ∃ response, contractResponse plan.responseContract status = some response ∧
          (appliedSchema plan.responseContract response contentType = none →
            Aligned plan.responseContract response contentType) ∧
          ∀ schema, appliedSchema plan.responseContract response contentType = some schema →
            (∃ data value, lib.parseJson data = .ok value ∧
              Satisfies lib plan.responseContract 64 schema value) →
            ContentDeclared plan.responseContract response contentType (fun _ => True)) := by
  constructor
  · rintro (⟨hobject, hnone⟩ | ⟨response, hresponse, haligned⟩) r rfl rfl hpasses
    · rcases schemaCheckPasses_iff.mp hpasses with hnot | ⟨_, hdeclared, _⟩
      · exact absurd hnot hobject
      · rw [hnone] at hdeclared
        cases hdeclared
    · refine ⟨response, hresponse, haligned.admits ?_⟩
      rcases schemaCheckPasses_iff.mp hpasses with hnot | ⟨response', hdeclared, hbody⟩
      · rw [contractResponse_of_not_object hnot] at hresponse
        cases hresponse
      rw [hresponse, Option.some.injEq] at hdeclared
      subst hdeclared
      intro schema happlied
      rcases hbody schema happlied with ⟨value, hvalue, hsat⟩
      exact ⟨value, toOption_eq_some.mpr hvalue, hsat⟩
  · intro hclosed
    cases hresponse : contractResponse plan.responseContract status with
    | none =>
        refine Or.inl ⟨fun hobject => ?_, hresponse⟩
        -- A contract that is no object lets every response through.
        rcases hclosed ⟨status, [], contentType, [], 0⟩ rfl rfl
          (schemaCheckPasses_iff.mpr (Or.inl hobject)) with ⟨_, hsome, _⟩
        rw [hresponse] at hsome
        cases hsome
    | some response =>
        refine Or.inr ⟨response, rfl, fun hnone => ?_, ?_⟩
        · -- An empty body passes, and no JSON body is asked for.
          have hadmits := @FailsClosed.admits _ _ _ _ _ [] hclosed hresponse (fun schema hsome => by
            rw [hnone] at hsome
            cases hsome)
          refine ContentDeclared.mono hadmits (fun entry hentry hjson schema hschema => ?_)
          rcases hentry hjson schema hschema with ⟨value, hvalue, _⟩
          exact absurd (toOption_eq_some.mp hvalue) (hempty value)
        · rintro schema hschema ⟨data, value, hdata, hsat⟩
          have hadmits := hclosed.admits hresponse (fun schema' hsome => by
            rw [hschema, Option.some.injEq] at hsome
            subst hsome
            exact ⟨value, hdata, hsat⟩)
          exact ContentDeclared.mono hadmits (fun _ _ => trivial)

/-- A response the check reads as an object without references is denoted by
    that object. -/
theorem denotes_readResponse {contract response : Value} {members : List (Str × Value)}
    (hread : (readResponse contract response).asObject = some members)
    (hplain : (readResponse contract response).get "$ref" = none) :
    Denotes contract response members := by
  unfold readResponse at hread hplain
  cases htarget : resolveContractRef contract response with
  | none =>
      rw [htarget] at hread hplain
      exact .object hread hplain
  | some target =>
      rw [htarget] at hread hplain
      exact .reference htarget (.object hread hplain)

/-- The check is aligned where the response is at most one reference away and
    the picked entry has the response's media type, unless a JSON media type is
    spelled without `json` in lower case. -/
theorem aligned_of_picked {contract response content : Value} {members entries : List (Str × Value)}
    {media : Str × Value} (hread : (readResponse contract response).asObject = some members)
    (hplain : (readResponse contract response).get "$ref" = none)
    (hcontent : lookup "content" members = some content) (hentries : content.asObject = some entries)
    (hpicked : declaredMedia entries contentType = some media) (hmedia : media ∈ entries)
    (hessence : mediaEssence media.1 = mediaEssence contentType)
    (hjson : isJsonMedia (mediaEssence contentType) = true → "json".toList <:+: contentType) :
    Aligned contract response contentType := by
  have hmediaOf : pickedMedia contract response contentType = some media := by
    unfold pickedMedia Value.get
    rw [hread, Option.bind_some, hcontent, Option.bind_some, hentries, Option.bind_some, hpicked]
  refine ⟨members, denotes_readResponse hread hplain, fun content' hcontent' => ?_⟩
  rw [hcontent, Option.some.injEq] at hcontent'
  subst hcontent'
  refine ⟨entries, hentries, media, hmedia, hessence, fun hjsonMedia schema hschema => ?_⟩
  rw [appliedSchema, if_pos (hjson hjsonMedia), hmediaOf, Option.bind_some, hschema]

end

/-! ### All checks -/

section

variable {lib : Crates} {contract : Value} {r : CheckedResponse}

theorem validateCheck_appends (check : Str) :
    Appends (fun failures => validateCheck lib contract r failures check) := by
  intro l
  dsimp only
  unfold validateCheck
  -- The check of the schema, or one of those that add a single failure.
  split_ifs
  · cases hresponse : contractResponse contract r.status with
    | none =>
        unfold contractResponse contractResponses at hresponse
        unfold validateResponseSchema
        cases hobject : contract.asObject with
        | none => exact List.prefix_rfl
        | some object =>
            rw [hobject, Option.map_some, Option.bind_some] at hresponse
            simp only [hresponse]
            exact List.prefix_append _ _
    | some response =>
        rw [validateResponseSchema_declared hresponse]
        refine whenSome_appends (fun schema l => ?_) l
        cases lib.parseJson r.data with
        | ok value => exact (validateSchemaValue_judges contract 64).appends schema value _ l
        | error e => exact List.prefix_append _ _
  · exact List.prefix_append _ _

/-- A loop over checks ends without messages exactly when it starts without and
    no check has one of its own. -/
theorem validateChecksFrom_eq_nil {checks failures : List Str} :
    validateChecksFrom lib contract r failures checks = [] ↔
      failures = [] ∧ ∀ check ∈ checks, validateCheck lib contract r [] check = [] := by
  induction checks generalizing failures with
  | nil =>
      rw [validateChecksFrom]
      exact ⟨fun h => ⟨h, fun _ hc => absurd hc List.not_mem_nil⟩, And.left⟩
  | cons check rest ih =>
      rw [validateChecksFrom, List.forall_mem_cons]
      have happends : failures <+: validateCheck lib contract r failures check :=
        validateCheck_appends check failures
      split_ifs with hmany
      · -- Twenty messages are not cut down to none.
        refine iff_of_false (fun h => ?_) ?_
        · have hlength := congrArg List.length h
          rw [List.length_take, List.length_nil] at hlength
          omega
        · rintro ⟨hnil, hcheck, _⟩
          rw [hnil, hcheck] at hmany
          exact absurd hmany (by decide)
      · rw [ih]
        constructor
        · rintro ⟨hcheck, hrest⟩
          rw [hcheck, List.prefix_nil] at happends
          subst happends
          exact ⟨rfl, hcheck, hrest⟩
        · rintro ⟨rfl, hcheck, hrest⟩
          exact ⟨hcheck, hrest⟩

/-- A response passes the checks of a plan exactly when it passes each. -/
theorem validateChecks_eq_nil {plan : RequestPlan} : validateChecks lib plan r = [] ↔
    ∀ check ∈ plan.checks, validateCheck lib plan.responseContract r [] check = [] := by
  rw [validateChecks, validateChecksFrom_eq_nil, and_iff_right rfl]

end

/-! ### A JSON response -/

/-- The content of a response that is a JSON object. -/
def objectContent : List (Str × Value) :=
  [("application/json", jsonObject [("schema", jsonObject [("type", .string "object")])])]

/-- A contract that declares JSON objects for the status 200. -/
def objectContract : Value :=
  jsonObject [("responses", jsonObject [("200", jsonObject [("content", .object objectContent)])])]

/-- A plan that carries the schema check for that contract. -/
def objectPlan : RequestPlan :=
  { protocol := PROTOCOL
    kind := "plan"
    version := VERSION
    configFingerprint := "b3:configuration"
    policyFingerprint := "b3:policy"
    sourceFingerprints := []
    id := []
    operation := "op:list-items"
    target := "https://api.example.com/items"
    method := "GET"
    risk := .read
    requiredGrants := []
    secretRefs := []
    headers := []
    auth := none
    body := none
    checks := ["response-schema:openapi"]
    responseContract := objectContract
    sensitiveHeaders := []
    redactResponseJsonPointers := []
    derivations := []
    valid := true
    fingerprint := []
    exit := 0 }

/-- The declared content has no entry for a page of text. -/
theorem not_contentDeclared_html {fits : Value → Prop} : ¬ ContentDeclared objectContract
    (jsonObject [("content", .object objectContent)]) "text/html" fits := by
  rintro ⟨members, hmembers, hcontent⟩
  cases hmembers with
  | reference htarget _ => cases htarget
  | object hobject _ =>
      cases hobject
      rcases hcontent (.object objectContent) rfl with ⟨entries, hentries, media, hmedia, hessence, _⟩
      cases hentries
      rw [List.mem_singleton.mp hmedia] at hessence
      exact absurd hessence (by decide +kernel)

/-- The check fails closed on a JSON response with a parameter, and does not on
    a page of text. -/
theorem failsClosed_object :
    FailsClosed referenceCrates objectPlan 200 "application/json; charset=utf-8" ∧
      ¬ FailsClosed referenceCrates objectPlan 200 "text/html" := by
  have hempty : ∀ value, referenceCrates.parseJson [] ≠ .ok value := by
    intro value h
    have hnone : (referenceCrates.parseJson []).toOption = none := by decide +kernel
    rw [h] at hnone
    cases hnone
  refine ⟨(failsClosed_aligned hempty).1 (Or.inr ⟨_, rfl, ?_⟩), fun hclosed => ?_⟩
  · exact aligned_of_picked rfl rfl rfl rfl (by rfl) List.mem_cons_self (by decide +kernel)
      (fun _ => by decide +kernel)
  · -- No schema is applied to the page, and no entry has its media type.
    rcases (failsClosed_aligned hempty).2 hclosed with ⟨_, hnone⟩ | ⟨response, hresponse, haligned, _⟩
    · cases hnone
    cases hresponse
    have hnone : appliedSchema objectPlan.responseContract
        (jsonObject [("content", .object objectContent)]) "text/html" = none := by
      rw [appliedSchema, if_neg (by decide +kernel)]
    exact not_contentDeclared_html (haligned hnone)

/-- An HTML page passes the check of a plan that declares JSON objects. -/
theorem not_failsClosed_html :
    "response-schema:openapi".toList ∈ objectPlan.checks ∧
      ∃ r : CheckedResponse, SchemaCheckPasses referenceCrates objectPlan r ∧
        validateChecks referenceCrates objectPlan r = [] ∧
        ¬ Conforms referenceCrates objectPlan.responseContract r := by
  refine ⟨List.mem_singleton.mpr rfl, ⟨200, [], "text/html", utf8 "<html>", 0⟩, ?_, ?_, ?_⟩
  · exact schemaCheckPasses_iff.mpr (Or.inr ⟨_, rfl, fun schema h => by
      rw [appliedSchema, if_neg (by decide +kernel)] at h
      cases h⟩)
  · decide +kernel
  · rintro ⟨response, hresponse, hadmits⟩
    cases hresponse
    exact not_contentDeclared_html hadmits

end Kahea
