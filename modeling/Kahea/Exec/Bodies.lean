import Kahea.Base.Base64
import Kahea.Exec.Placement
import Kahea.Ingest.Fidelity
import Kahea.Plan.Reading

/-!
# Sealed Bodies

A plan carries its body as a text and the name of an encoding, with the length
and the digest of the bytes the planner has seen. The executor decodes the text
and compares. Every branch of `serializeBody` chooses its own text and encoding;
what they share is that the text decodes to the bytes (`serializeBody_sent`), so
a body the planner has sealed is never turned away.

## Main definitions

* `SerializedBody.planned`: What a plan records of a body.

## Theorems

* `serializeBody_sent`: Every branch writes a text that decodes to its bytes.
* `planned_body_agrees`: The executor sends the bytes the planner produced.
-/

namespace Kahea

/-- What a plan records of a serialised body. -/
def SerializedBody.planned (lib : Crates) (wire : SerializedBody) : PlannedBody :=
  { mediaType := wire.mediaType
    bytes := wire.bytes.length
    blake3 := digest lib wire.bytes
    encoding := wire.encoding
    inline := wire.inline }

section

variable {lib : Crates} {world : World}

theorem serializeForm_sent {mediaType : Str} {body : Value} {wire : SerializedBody}
    (h : serializeForm mediaType body = .ok wire) : wire.sent = some wire.bytes := by
  unfold serializeForm at h
  cases hstr : body.asStr with
  | some captured =>
      rw [hstr] at h
      cases h
      rfl
  | none =>
      rw [hstr] at h
      cases hobject : body.asObject with
      | none =>
          rw [hobject] at h
          cases h
      | some object =>
          rw [hobject] at h
          rcases except_bind_ok.mp h with ⟨pairs, _, hwire⟩
          cases hwire
          rfl

theorem serializeMultipart_sent (body : Value) :
    Ensures (serializeMultipart lib world body) (fun wire => wire.sent = some wire.bytes)
      (fun _ => True) := by
  unfold serializeMultipart
  refine .bind .any (fun object _ => ?_)
  refine .bind .any (fun bytes _ => ?_)
  exact .pure (base64Decode_encode _)

/-- Every branch writes a text that decodes to its bytes. -/
theorem serializeBody_sent (mediaType : Str) (body : Value) :
    Ensures (serializeBody lib world mediaType body) (fun wire => wire.sent = some wire.bytes)
      (fun _ => True) := by
  unfold serializeBody
  -- Each branch sends the bytes it makes.
  split
  · exact .pure rfl
  split
  · refine .ofExcept (fun wire hwire => ?_)
    cases hstr : body.asStr with
    | none =>
        rw [hstr] at hwire
        cases hwire
    | some text =>
        rw [hstr] at hwire
        cases hwire
        rfl
  split
  · exact .ofExcept (fun wire hwire => serializeForm_sent hwire)
  split
  · exact serializeMultipart_sent body
  · refine .ofExcept (fun wire hwire => ?_)
    rcases serializeBinary_ok hwire with ⟨_, _, _, _, _, hsent⟩
    exact hsent

end

section

variable {lib : Crates} {world : World} {source : OpenApiSource} {operation : OperationDefinition}

/-- The body a stage has bound is what serialising the supplied value gave. -/
theorem bindBody_planned {inputs : Inputs} {options : PlanOptions} {past : List Event}
    {bound : BoundBody} {planned : PlannedBody}
    (h : (bindBody lib world source operation inputs options past).1 = .ok bound)
    (hplanned : bound.body = some planned) :
    ∃ value mediaType wire, (bodyValue operation inputs).1.map Prod.fst = some value ∧
      (serializeBody lib world mediaType value past).1 = .ok wire ∧ planned = wire.planned lib := by
  unfold bindBody at h
  cases hrequest : lookup "requestBody" operation.operation with
  -- Without a declaration or without a value there is no body.
  | none =>
      rw [hrequest] at h
      dsimp only at h
      split_ifs at h
      · cases h
      · cases h
        exact absurd hplanned (Option.some_ne_none planned).symm
  | some requestBodyValue =>
      rw [hrequest] at h
      rcases Eff.ofExcept_bind_ok h with ⟨requestBody, _, h⟩
      rcases hvalue : bodyValue operation inputs with ⟨_ | ⟨body, provenance⟩, inputs'⟩
      · rw [hvalue] at h
        dsimp only at h
        split_ifs at h
        · cases h
        · cases h
          exact absurd hplanned (Option.some_ne_none planned).symm
      · rw [hvalue] at h
        -- With both, the last stage is the serialisation.
        rcases Eff.ofExcept_bind_ok h with ⟨media, _, h⟩
        rcases Eff.ofExcept_bind_ok h with ⟨_, _, h⟩
        rcases Eff.bind_ok h with ⟨wire, hwire, h⟩
        cases h
        exact ⟨body, media.1, wire, rfl, hwire, (Option.some.inj hplanned).symm⟩

theorem planParts_planned {options : PlanOptions} {configuration : ProjectConfiguration}
    {past : List Event} {parts : PlanParts} {planned : PlannedBody}
    (h : (planParts lib world source operation options configuration past).1 = .ok parts)
    (hplanned : parts.body.body = some planned) :
    ∃ value mediaType wire, suppliedBody operation options = some value ∧
      (serializeBody lib world mediaType value past).1 = .ok wire ∧ planned = wire.planned lib := by
  rcases planParts_reads h with ⟨inputs, hinputs, hbindings, hbody, _⟩
  rcases bindBody_planned hbody hplanned with ⟨value, mediaType, wire, hvalue, hwire, hfrom⟩
  refine ⟨value, mediaType, wire, ?_, hwire, hfrom⟩
  rw [bodyValue_congr operation (bindParameters_body hbindings)] at hvalue
  unfold suppliedBody
  rw [hinputs]
  exact hvalue

/-- What the executor decodes of a recorded body. -/
theorem plannedBodyBytes_planned {plan : RequestPlan} {wire : SerializedBody}
    (hplan : plan.body = some (wire.planned lib)) (hsent : wire.sent = some wire.bytes) :
    plannedBodyBytes plan = .ok wire.bytes := by
  unfold SerializedBody.sent at hsent
  unfold plannedBodyBytes
  rw [hplan]
  dsimp only [SerializedBody.planned]
  split_ifs at hsent ⊢
  · exact congrArg Except.ok (Option.some.inj hsent)
  · rw [hsent]

theorem checkedBody_planned {plan : RequestPlan} {wire : SerializedBody}
    (hplan : plan.body = some (wire.planned lib)) (hsent : wire.sent = some wire.bytes) :
    checkedBody lib plan = .ok wire.bytes := by
  refine except_bind_ok.mpr ⟨wire.bytes, plannedBodyBytes_planned hplan hsent, ?_⟩
  refine except_bind_ok.mpr ⟨(), ensure_ok.mpr ?_, rfl⟩
  rw [hplan]
  simp [SerializedBody.planned]

/-- The body of a plan the planner returns: none, or what `serializeBody` made of
    the supplied value, with its length and digest, and the executor decodes it to
    the same bytes. No invocation of the plan is turned away for its seal. -/
theorem planned_body_agrees {options : PlanOptions} {configuration : ProjectConfiguration}
    {past : List Event} {plan : RequestPlan}
    (h : (buildPlanWithConfiguration lib world source operation options configuration past).1 =
      .ok plan) :
    ((plan.body = none ∧ plannedBodyBytes plan = .ok []) ∨
      ∃ value mediaType wire, suppliedBody operation options = some value ∧
        (serializeBody lib world mediaType value past).1 = .ok wire ∧
        plan.body = some
          { mediaType := wire.mediaType
            bytes := wire.bytes.length
            blake3 := digest lib wire.bytes
            encoding := wire.encoding
            inline := wire.inline } ∧
        plannedBodyBytes plan = .ok wire.bytes) ∧
    ∀ (later : World) (invokeOptions : InvokeOptions) (before : List Event),
      (invoke lib later plan invokeOptions before).1 ≠ .error .invalidSeal := by
  rcases buildPlanWithConfiguration_ok h with ⟨parts, hparts, _, rfl⟩
  have hverify := RequestPlan.verifySeal_sealed lib
    (parts.assemble lib source operation options.checks configuration)
  generalize hplan : (parts.assemble lib source operation options.checks configuration).sealed lib =
    plan at *
  have hbody : plan.body = parts.body.body := by
    rw [← hplan]
    rfl
  -- Either way the checked body exists, which is all an invocation needs.
  have hinvoke (bytes : List UInt8) (hchecked : checkedBody lib plan = .ok bytes) (later : World)
      (invokeOptions : InvokeOptions) (before : List Event) :
      (invoke lib later plan invokeOptions before).1 ≠ .error .invalidSeal := by
    have hrare : Rare (fun e => e = .invalidSeal) := fun e he => Or.inl he
    intro herror
    refine invoke_avoids hrare (fun auth _ => Or.inr ?_) (Or.inl ⟨hverify, bytes, hchecked⟩) before _
      herror rfl
    exact fun hne => ExecError.noConfusion hne
  cases hplanned : parts.body.body with
  | none =>
      rw [hplanned] at hbody
      have hempty : plannedBodyBytes plan = .ok [] := by
        unfold plannedBodyBytes
        rw [hbody]
      refine ⟨Or.inl ⟨hbody, hempty⟩, hinvoke [] ?_⟩
      refine except_bind_ok.mpr ⟨[], hempty, except_bind_ok.mpr ⟨(), ensure_ok.mpr ?_, rfl⟩⟩
      rw [hbody]
      rfl
  | some planned =>
      rw [hplanned] at hbody
      rcases planParts_planned hparts hplanned with ⟨value, mediaType, wire, hvalue, hwire, rfl⟩
      have hsent := (serializeBody_sent mediaType value past).1 wire hwire
      exact ⟨Or.inr ⟨value, mediaType, wire, hvalue, hwire, hbody,
        plannedBodyBytes_planned hbody hsent⟩, hinvoke wire.bytes (checkedBody_planned hbody hsent)⟩

end

/-- The creation of an item from a note. -/
def createNote : OperationDefinition :=
  { createItem with
    operation := [("requestBody", jsonObject [("content",
      jsonObject [("text/plain", jsonObject [])])])] }

def noteOptions : PlanOptions :=
  { PlanOptions.default with
    server := some "https://api.example.com".toList
    input := some (jsonObject [("body", .string "a note")]) }

/-- The note is sent as it was supplied. -/
theorem planned_body_agrees_note : ∃ plan,
    (buildPlanWithConfiguration referenceCrates referenceWorld itemsSource createNote noteOptions
      .default []).1 = .ok plan ∧
    plannedBodyBytes plan = .ok (utf8 "a note") ∧
    ∀ (later : World) (invokeOptions : InvokeOptions) (before : List Event),
      (invoke referenceCrates later plan invokeOptions before).1 ≠ .error .invalidSeal := by
  have hplanned : (buildPlanWithConfiguration referenceCrates referenceWorld itemsSource createNote
      noteOptions .default []).1.toOption.map
        (fun plan => plan.body.map (fun b => (b.encoding, b.inline))) =
          some (some ("utf-8".toList, "a note".toList)) := by
    decide +kernel
  rcases exists_ok_of_toOption hplanned with ⟨plan, hplan, hbody⟩
  refine ⟨plan, hplan, ?_, (planned_body_agrees hplan).2⟩
  rcases Option.map_eq_some_iff.mp hbody with ⟨body, hbody, htext⟩
  rw [Prod.mk.injEq] at htext
  unfold plannedBodyBytes
  rw [hbody]
  dsimp only
  rw [htext.1, htext.2]
  rfl

end Kahea
