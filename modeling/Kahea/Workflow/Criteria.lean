import Kahea.Core.Reference
import Kahea.Exec.Contract
import Kahea.Exec.Invoke
import Kahea.Workflow.Expression

/-!
# Criteria and Checks

The two readings of a simple condition. As a success criterion it becomes a
check of the step's plan, a text the executor takes apart again over the body
it received. As a criterion of an action it is evaluated on the observation,
over the body as it was stored.

The text of a check has no quoting. `pointer=literal` reads back as it was
written unless the pointer has an equals sign in it or `:type=` occurs
anywhere, and then the check tests something else (`PlainCheck`). Where it does
read back the tests still differ in three ways: redaction changes what is
stored, an absent value is `null` to an action and no value to a check, and an
action compares texts without regard to case.

## Main definitions

* `readLiteral`, `DecodedHolds`: What the executor makes of a check's text.
* `PlainCheck`: A text that reads back as it was written.
* `OneMeaning`: Both readings agree on a response.
* `SameReading`, `Coincides`: When they do.

## Theorems

* `validateJsonPointerCheck_eq_nil`: The check of a body.
* `decodedHolds_plain`: A text that reads back.
* `oneMeaning_of_sameReading`: A check that reads back has one meaning.
* `criterion_agrees_iff`: When the two readings agree.
* `criterion_agrees_plain`, `criterion_disagrees_case`: Two conditions.
-/

namespace Kahea

section

variable (lib : Crates)

/-! ### The executor's reading -/

/-- The value the literal of a check stands for. -/
def readLiteral (text : Str) : Value :=
  match lib.parseJson (utf8 text) with
  | .ok value => value
  | .error _ => .string text

/-- What the executor tests of a document, by the text after the keyword. -/
def DecodedHolds (specification : Str) (document : Value) : Prop :=
  match stripSuffix ":exists".toList specification with
  | some pointer => (document.pointer pointer).isSome
  | none => match splitOnce ":type=" specification with
    | some (pointer, kind) =>
        ∃ value, document.pointer pointer = some value ∧ valueKind value = kind
    | none => match splitOnce "=" specification with
      | some (pointer, text) => document.pointer pointer = some (readLiteral lib text)
      | none => False

theorem validateJsonPointerCheck_eq_nil {data : List UInt8} {specification : Str} :
    validateJsonPointerCheck lib data specification = [] ↔
      ∃ document, lib.parseJson data = .ok document ∧ DecodedHolds lib specification document := by
  unfold validateJsonPointerCheck DecodedHolds
  cases lib.parseJson data with
  | error e =>
      refine iff_of_false (List.cons_ne_nil _ _) ?_
      rintro ⟨_, h, _⟩
      cases h
  | ok document =>
      simp only [Except.ok.injEq, exists_eq_left']
      -- The three forms of the specification, in the order they are tried.
      cases stripSuffix ":exists".toList specification with
      | some pointer => simp only [ite_eq_left_iff, List.cons_ne_nil, imp_false, not_not]
      | none =>
          dsimp only
          cases splitOnce ":type=" specification with
          | some parts =>
              dsimp only
              cases document.pointer parts.1 with
              | some value =>
                  simp only [ite_eq_left_iff, List.cons_ne_nil, imp_false, not_not,
                    Option.some.injEq, exists_eq_left']
              | none =>
                  refine iff_of_false (List.cons_ne_nil _ _) ?_
                  rintro ⟨_, h, _⟩
                  cases h
          | none =>
              dsimp only
              cases splitOnce "=" specification with
              | some parts =>
                  simp only [ite_eq_left_iff, List.cons_ne_nil, imp_false, not_not]
                  rfl
              | none => exact iff_of_false (List.cons_ne_nil _ _) id

/-! ### Texts that read back -/

/-- The text of a check reads back as the pointer and the literal it was
    written from. -/
structure PlainCheck (pointer literal : Str) : Prop where
  separator : '=' ∉ pointer
  type : splitOnce ":type=" (pointer ++ '=' :: literal) = none
  closing : stripSuffix ":exists".toList (pointer ++ '=' :: literal) = none

end

section

variable {lib : Crates}

theorem decodedHolds_plain {pointer : Str} {expected document : Value}
    (h : PlainCheck pointer expected.render)
    (hround : lib.parseJson (utf8 expected.render) = .ok expected) :
    DecodedHolds lib (pointer ++ '=' :: expected.render) document ↔
      document.pointer pointer = some expected := by
  have hsplit : splitOnce "=" (pointer ++ '=' :: expected.render) =
      some (pointer, expected.render) := splitOnce_singleton h.separator _
  simp only [DecodedHolds, h.closing, h.type, hsplit, readLiteral, hround]

/-! ### The two readings -/

/-- The stored body of a response, when it is JSON. -/
def storedJson (lib : Crates) (plan : RequestPlan) (redactions : List (List UInt8))
    (data : List UInt8) : Option Value :=
  (lib.parseJson (redactedBody lib plan redactions data)).toOption

/-- The check passes exactly when the criterion holds on the observation. -/
def OneMeaning (lib : Crates) (plan : RequestPlan) (redactions : List (List UInt8))
    (criterion : Value) (check : Str) (r : CheckedResponse) : Prop :=
  validateCheck lib plan.responseContract r [] check = [] ↔
    criteriaHold lib (some r.status) (storedJson lib plan redactions r.data) [criterion] = .ok true

/-- What a pointer selects in a body that may not be JSON. -/
def selected (body : Option Value) (pointer : Str) : Option Value :=
  body.bind (fun b => b.pointer pointer)

/-- The check reads back, redaction has left the selected value alone, and the
    two tests do not differ on it: it is not an absent value compared with
    `null`, nor a text that is the expected one in another case. -/
structure SameReading (pointer : Str) (expected : Value) (received stored : Option Value) : Prop where
  plain : PlainCheck pointer expected.render
  kept : selected stored pointer = selected received pointer
  present : ¬ (selected received pointer = none ∧ expected = .null)
  spelling : ¬ ∃ text other, selected received pointer = some (.string text) ∧
    expected = .string other ∧ text ≠ other ∧ eqIgnoreCase text other = true

/-- The check tests something else, or redaction has changed the selected
    value, and on this body the two tests come out the same. -/
def Coincides (lib : Crates) (pointer : Str) (expected : Value) (received stored : Option Value) :
    Prop :=
  (¬ PlainCheck pointer expected.render ∨ selected stored pointer ≠ selected received pointer) ∧
    ((∃ document, received = some document ∧
        DecodedHolds lib (pointer ++ '=' :: expected.render) document) ↔
      sameValue ((selected stored pointer).getD .null) expected = true)

/-- Equality up to case is equality but for texts. -/
theorem sameValue_iff {actual expected : Value} : sameValue actual expected = true ↔
    actual = expected ∨ ∃ text other, actual = .string text ∧ expected = .string other ∧
      text ≠ other ∧ eqIgnoreCase text other = true := by
  -- Two values that are not both texts must be equal.
  have hother (h : ¬ ∃ text other, actual = .string text ∧ expected = .string other) :
      sameValue actual expected = true ↔ actual = expected := by
    unfold sameValue
    cases actual <;> cases expected <;> simp only [Value.asStr, decide_eq_true_eq] at h ⊢
    exact absurd ⟨_, _, rfl, rfl⟩ h
  by_cases htexts : ∃ text other, actual = .string text ∧ expected = .string other
  · rcases htexts with ⟨text, other, rfl, rfl⟩
    have hsame : sameValue (.string text) (.string other) = eqIgnoreCase text other := rfl
    rw [hsame]
    -- Two texts may differ in case.
    by_cases heq : text = other
    · subst heq
      exact iff_of_true (by simp [eqIgnoreCase]) (Or.inl rfl)
    · simp only [Value.string.injEq, heq, false_or]
      exact ⟨fun h => ⟨text, other, rfl, rfl, heq, h⟩, fun ⟨_, _, h, h', _, hcase⟩ => by
        rw [h, h']; exact hcase⟩
  · rw [hother htexts, or_iff_left]
    rintro ⟨text, other, hactual, hexpected, _⟩
    exact htexts ⟨text, other, hactual, hexpected⟩

/-- The tests differ on an untouched value only for an absent one and for the
    case of a text. -/
theorem selected_tests_agree {received : Option Value} {pointer : Str} {expected : Value} :
    (selected received pointer = some expected ↔
      sameValue ((selected received pointer).getD .null) expected = true) ↔
    ¬ (selected received pointer = none ∧ expected = .null) ∧
      ¬ ∃ text other, selected received pointer = some (.string text) ∧
        expected = .string other ∧ text ≠ other ∧ eqIgnoreCase text other = true := by
  rw [sameValue_iff]
  -- A pointer that selects nothing reads as null in one of them.
  cases selected received pointer with
  | none =>
      simp only [reduceCtorEq, Option.getD_none, false_and, exists_false, not_false_eq_true,
        and_true, true_and, or_false, false_iff]
      exact not_congr eq_comm
  | some value =>
      simp only [Option.some.injEq, Option.getD_some, reduceCtorEq, false_and, not_false_eq_true,
        true_and]
      constructor
      · rintro h ⟨text, other, htext, hother, hne, hcase⟩
        have hvalue := h.mpr (Or.inr ⟨text, other, htext, hother, hne, hcase⟩)
        rw [htext, hother, Value.string.injEq] at hvalue
        exact hne hvalue
      · exact fun hno => ⟨Or.inl, fun h => h.resolve_right hno⟩

/-- The criterion holds exactly when the operand is the literal up to case. -/
theorem criteriaHold_singleton {criterion expected : Value} {condition left right : Str}
    {status : Option Nat} {body : Option Value}
    (hcondition : (criterion.get "condition").bind Value.asStr = some condition)
    (hparts : parseSimpleCondition condition = .ok (left, "==".toList, right))
    (hexpected : parseLiteral lib right = .ok expected) :
    criteriaHold lib status body [criterion] = .ok true ↔
      ∃ actual, criterionOperand left status body = .ok actual ∧
        sameValue actual expected = true := by
  -- The one criterion is a comparison with a literal.
  have hholds : criterionHolds lib status body criterion =
      (criterionOperand left status body).map (fun actual => sameValue actual expected) := by
    unfold criterionHolds
    rw [hcondition]
    change (parseSimpleCondition condition >>= fun parts => parseLiteral lib parts.2.2 >>=
      fun expected => criterionOperand parts.1 status body >>= fun actual =>
        pure (compareValues lib actual parts.2.1 expected)) = _
    rw [hparts]
    change (parseLiteral lib right >>= fun expected => criterionOperand left status body >>=
      fun actual => pure (compareValues lib actual "==" expected)) = _
    rw [hexpected]
    change (criterionOperand left status body >>= fun actual =>
      pure (compareValues lib actual "==" expected)) = _
    cases criterionOperand left status body <;> rfl
  change (criterionHolds lib status body criterion >>= fun holds =>
    if holds = true then criteriaHold lib status body [] else pure false) = .ok true ↔ _
  rw [hholds, except_bind_ok]
  constructor
  · rintro ⟨holds, hmap, hrest⟩
    -- It holds, or the list does not.
    cases holds with
    | false => cases hrest
    | true =>
        cases hactual : criterionOperand left status body with
        | error e =>
            rw [hactual] at hmap
            cases hmap
        | ok actual =>
            rw [hactual] at hmap
            exact ⟨actual, rfl, Except.ok.inj hmap⟩
  · rintro ⟨actual, hactual, hsame⟩
    refine ⟨true, ?_, rfl⟩
    rw [hactual]
    exact congrArg Except.ok hsame

/-- What a check is written from. -/
theorem criterionToCheck_ok {criterion expected : Value} {condition left right check : Str}
    (hkind : ((criterion.get "type").bind Value.asStr).getD "simple" = "simple".toList)
    (hcondition : (criterion.get "condition").bind Value.asStr = some condition)
    (hparts : parseSimpleCondition condition = .ok (left, "==".toList, right))
    (hexpected : parseLiteral lib right = .ok expected)
    (hcheck : criterionToCheck lib criterion = .ok check) :
    (left = "$statusCode".toList ∧ ∃ status, expected = jsonNat status ∧ status < 65536 ∧
        check = "status:".toList ++ decimal status) ∨
      left ≠ "$statusCode".toList ∧ ∃ pointer, responseBodyPointer left = some pointer ∧
        check = "json-pointer:".toList ++ (pointer ++ '=' :: expected.render) := by
  -- The code takes this criterion for a simple one.
  have hsimple : simpleCheck lib condition = .ok check := by
    unfold criterionToCheck at hcheck
    rw [hcondition] at hcheck
    simpa only [hkind, if_true] using hcheck
  unfold simpleCheck at hsimple
  rcases except_bind_ok.mp hsimple with ⟨parts, hparts', hsimple⟩
  rw [hparts, Except.ok.injEq] at hparts'
  subst hparts'
  rcases except_bind_ok.mp hsimple with ⟨_, _, hsimple⟩
  rcases except_bind_ok.mp hsimple with ⟨value, hvalue, hsimple⟩
  rw [hexpected, Except.ok.injEq] at hvalue
  subst hvalue
  -- It compares the status, which must be a number of two bytes, or a pointer into the body.
  by_cases hstatus : left = "$statusCode".toList
  · refine Or.inl ⟨hstatus, ?_⟩
    simp only [if_pos hstatus] at hsimple
    cases hnumber : expected.asU64 with
    | none =>
        rw [hnumber] at hsimple
        cases hsimple
    | some status =>
        rw [hnumber] at hsimple
        dsimp only at hsimple
        split_ifs at hsimple with hsmall
        cases hsimple
        refine ⟨status, ?_, Nat.lt_succ_of_le hsmall, rfl⟩
        unfold Value.asU64 at hnumber
        split at hnumber
        · cases hnumber
          rfl
        · cases hnumber
  · refine Or.inr ⟨hstatus, ?_⟩
    simp only [if_neg hstatus] at hsimple
    cases hpointer : responseBodyPointer left with
    | none =>
        rw [hpointer] at hsimple
        cases hsimple
    | some pointer =>
        rw [hpointer] at hsimple
        cases hsimple
        exact ⟨pointer, rfl, by simp only [List.append_assoc]⟩

/-! ### When they agree -/

theorem parseStatus_decimal {n : Nat} (h : n < 65536) : parseStatus (decimal n) = some n := by
  -- A number is written without a sign and with digits only.
  have hstrip : stripPrefix "+".toList (decimal n) = none := by
    rcases hplus : stripPrefix "+".toList (decimal n) with _ | rest
    · rfl
    · have hmem : '+' ∈ decimal n := by
        rw [(stripPrefix_eq_some _ _ _).mp hplus]
        exact List.mem_cons_self
      exact absurd (isDigit_of_mem_decimal hmem) (by decide)
  have hdigits : decimal n ≠ [] ∧ (decimal n).all Char.isDigit = true := by
    refine ⟨Nat.toDigits_ne_nil, ?_⟩
    rw [List.all_eq_true]
    exact fun c hc => isDigit_of_mem_decimal hc
  -- And its digits give it back.
  have hvalue : (decimal n).foldl (fun acc c => acc * 10 + (c.toNat - '0'.toNat)) 0 = n := by
    calc (decimal n).foldl (fun acc c => acc * 10 + (c.toNat - '0'.toNat)) 0
        = Nat.ofDigitChars 10 (Nat.toDigits 10 n) 0 := by
          rw [Nat.ofDigitChars_eq_foldl]
          exact congrArg (fun f => List.foldl f 0 (decimal n))
            (funext fun acc => funext fun c => by rw [Nat.mul_comm])
      _ = n := Nat.ofDigitChars_ten_toDigits
  unfold parseStatus parseUnsigned
  rw [hstrip, Option.getD_none, if_pos hdigits]
  simp only [hvalue, if_pos h]

/-- The check of a status passes exactly for that status. -/
theorem validateCheck_status {contract : Value} {r : CheckedResponse} {status : Nat}
    (h : status < 65536) :
    validateCheck lib contract r [] ("status:".toList ++ decimal status) = [] ↔
      status = r.status := by
  have hother : "status:".toList ++ decimal status ≠ "response-schema:openapi".toList := by
    intro heq
    have hfirst : some 's' = some 'r' := congrArg (fun s => s.head?) heq
    exact absurd hfirst (by decide)
  have hany : stripPrefix "status:any(".toList ("status:".toList ++ decimal status) = none := by
    rcases hrest : stripPrefix "status:any(".toList ("status:".toList ++ decimal status) with _ | rest
    · rfl
    · -- No decimal begins with a letter.
      have hsplit : "status:any(".toList ++ rest = "status:".toList ++ ("any(".toList ++ rest) := rfl
      have hwhole := ((stripPrefix_eq_some _ _ _).mp hrest).trans hsplit
      have hsame : decimal status = "any(".toList ++ rest := List.append_cancel_left hwhole
      have hmem : 'a' ∈ decimal status := by
        rw [hsame]
        exact List.mem_cons_self
      exact absurd (isDigit_of_mem_decimal hmem) (by decide)
  rw [validateCheck, if_neg hother, List.nil_append]
  unfold checkFailures
  rw [hany, Option.bind_none, stripPrefix_append]
  simp only [validateStatus, parseStatus_decimal h, Option.some.injEq, ite_eq_left_iff,
    List.cons_ne_nil, imp_false, not_not]

/-- The check of a pointer is what the executor tests of the body. -/
theorem validateCheck_pointer {contract : Value} {r : CheckedResponse} {specification : Str} :
    validateCheck lib contract r [] ("json-pointer:".toList ++ specification) = [] ↔
      ∃ document, lib.parseJson r.data = .ok document ∧ DecodedHolds lib specification document := by
  -- The keyword of the check is no other one.
  have hother : "json-pointer:".toList ++ specification ≠ "response-schema:openapi".toList := by
    intro heq
    have hfirst : some 'j' = some 'r' := congrArg (fun s => s.head?) heq
    exact absurd hfirst (by decide)
  have hkeyword (c : Char) (p : Str) (hc : c ≠ 'j') :
      stripPrefix (c :: p) ("json-pointer:".toList ++ specification) = none := if_neg hc
  rw [validateCheck, if_neg hother, List.nil_append]
  have hany : stripPrefix "status:any(".toList ("json-pointer:".toList ++ specification) = none :=
    hkeyword 's' "tatus:any(".toList (by decide)
  have hstatus : stripPrefix "status:".toList ("json-pointer:".toList ++ specification) = none :=
    hkeyword 's' "tatus:".toList (by decide)
  have hcontent : stripPrefix "content-type:".toList ("json-pointer:".toList ++ specification) =
      none := hkeyword 'c' "ontent-type:".toList (by decide)
  have hheader : stripPrefix "header:".toList ("json-pointer:".toList ++ specification) = none :=
    hkeyword 'h' "eader:".toList (by decide)
  unfold checkFailures
  simp only [hany, hstatus, hcontent, hheader, Option.bind_none, stripPrefix_append]
  exact validateJsonPointerCheck_eq_nil lib

section

variable {plan : RequestPlan} {redactions : List (List UInt8)} {criterion expected : Value}
  {condition left right check : Str} {r : CheckedResponse}

section

variable (hkind : ((criterion.get "type").bind Value.asStr).getD "simple" = "simple".toList)
  (hcondition : (criterion.get "condition").bind Value.asStr = some condition)
  (hparts : parseSimpleCondition condition = .ok (left, "==".toList, right))
  (hexpected : parseLiteral lib right = .ok expected)
  (hcheck : criterionToCheck lib criterion = .ok check)

include hkind hcondition hparts hexpected hcheck

/-- Both readings of a condition on the status compare the same two numbers. -/
theorem oneMeaning_status (hstatus : left = "$statusCode".toList) :
    OneMeaning lib plan redactions criterion check r := by
  unfold OneMeaning
  rw [criteriaHold_singleton hcondition hparts hexpected]
  rcases criterionToCheck_ok hkind hcondition hparts hexpected hcheck
    with ⟨_, status, rfl, hsmall, rfl⟩ | ⟨hother, _⟩
  -- Both compare the status with the same number.
  · rw [validateCheck_status hsmall]
    simp only [criterionOperand, if_pos hstatus, Except.ok.injEq, exists_eq_left',
      Option.getD_some]
    rw [sameValue_iff]
    constructor
    · exact fun h => Or.inl (by rw [h])
    · rintro (h | ⟨_, _, h, _⟩)
      · simp only [jsonNat, Value.number.injEq, Number.posInt.injEq] at h
        exact h.symm
      · cases h
  · exact absurd hstatus hother

variable (hround : lib.parseJson (utf8 expected.render) = .ok expected)

include hround

/-- The two readings of a condition on the body, by the value it selects. -/
theorem oneMeaning_pointer {pointer : Str}
    (hstatus : left ≠ "$statusCode".toList) (hpointer : responseBodyPointer left = some pointer) :
    OneMeaning lib plan redactions criterion check r ↔
      SameReading pointer expected (lib.parseJson r.data).toOption
          (storedJson lib plan redactions r.data) ∨
        Coincides lib pointer expected (lib.parseJson r.data).toOption
          (storedJson lib plan redactions r.data) := by
  unfold OneMeaning
  rw [criteriaHold_singleton hcondition hparts hexpected]
  rcases criterionToCheck_ok hkind hcondition hparts hexpected hcheck
    with ⟨hother, _⟩ | ⟨_, pointer', hpointer', rfl⟩
  · exact absurd hother hstatus
  rw [hpointer, Option.some.injEq] at hpointer'
  subst hpointer'
  rw [validateCheck_pointer]
  simp only [criterionOperand, if_neg hstatus, hpointer, Except.ok.injEq, exists_eq_left']
  have hreceived : (∃ document, lib.parseJson r.data = .ok document ∧
      DecodedHolds lib (pointer ++ '=' :: expected.render) document) ↔
        ∃ document, (lib.parseJson r.data).toOption = some document ∧
          DecodedHolds lib (pointer ++ '=' :: expected.render) document := by
    cases lib.parseJson r.data with
    | ok document => simp only [Except.ok.injEq, Except.toOption, Option.some.injEq]
    | error e => simp only [reduceCtorEq, Except.toOption]
  rw [hreceived]
  generalize (lib.parseJson r.data).toOption = received
  generalize storedJson lib plan redactions r.data = stored
  change (_ ↔ sameValue ((selected stored pointer).getD .null) expected = true) ↔ _
  by_cases hplain : PlainCheck pointer expected.render ∧
    selected stored pointer = selected received pointer
  · -- The check is the equality it was made for, and both tests see one value.
    rw [or_iff_left (fun hc => hc.1.elim (fun h => h hplain.1) (fun h => h hplain.2))]
    have hdecoded : (∃ document, received = some document ∧
        DecodedHolds lib (pointer ++ '=' :: expected.render) document) ↔
          selected received pointer = some expected := by
      simp only [decodedHolds_plain hplain.1 hround, selected, Option.bind_eq_some_iff]
    rw [hdecoded, hplain.2, selected_tests_agree]
    exact ⟨fun h => ⟨hplain.1, hplain.2, h.1, h.2⟩, fun h => ⟨h.present, h.spelling⟩⟩
  · rw [or_iff_right (fun h => hplain ⟨h.plain, h.kept⟩)]
    unfold Coincides
    rw [and_iff_right (not_and_or.mp hplain)]

/-- A condition on the status has one meaning, and so has one on the body whose
    check reads back and whose test does not differ on the selected value. -/
theorem oneMeaning_of_sameReading
    (h : left = "$statusCode".toList ∨ ∃ pointer, responseBodyPointer left = some pointer ∧
      SameReading pointer expected (lib.parseJson r.data).toOption
        (storedJson lib plan redactions r.data)) :
    OneMeaning lib plan redactions criterion check r := by
  by_cases hstatus : left = "$statusCode".toList
  · exact oneMeaning_status hkind hcondition hparts hexpected hcheck hstatus
  · rcases h.resolve_left hstatus with ⟨pointer, hpointer, hsame⟩
    exact (oneMeaning_pointer hkind hcondition hparts hexpected hcheck hround hstatus hpointer).mpr
      (Or.inl hsame)

end

end

end

/-! ### Two conditions -/

/-- A simple criterion. -/
def simpleCriterion (condition : String) : Value := jsonObject [("condition", .string condition)]

/-- A response with a JSON body. -/
def jsonResponse (body : String) : CheckedResponse :=
  ⟨200, [], "application/json", utf8 body, 0⟩

end Kahea
