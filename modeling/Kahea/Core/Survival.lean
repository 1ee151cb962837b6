import Kahea.Core.Reference
import Kahea.Core.Roundtrip

/-!
# Survival of Stored Plans

When a sealed plan is the same plan after it was stored.

A stored plan is the text of its JSON. The reader of the library gives back
what was written, but not more than `depthLimit` arrays and objects inside
each other. What is read back has lost the optional values that are null, and
its seal still verifies, since both plans are written alike. So a plan
survives exactly when it has no such value and is not too deep.

## Main definitions

* `ReadsBack`: What the reader makes of a text that was written.
* `StoredPlan`, `PlanKind.read`, `StoredPlan.written`: The four kinds of plans,
  written and read.
* `StoredPlan.Survives`: Read back as it was, with a seal that verifies.
* `StoredPlan.NoNulls`: No optional value is null.

## Theorems

* `StoredPlan.read_written`: What is read back of a plan.
* `StoredPlan.forgetNulls_eq_iff`: When that is the plan itself.
* `survives_iff`: When a plan survives.
* `null_lost`: A sealed session that expects null and comes back expecting
  nothing.
-/

namespace Kahea

/-! ### What is written of a plan with its nulls forgotten -/

/-- What is forgotten is not written. -/
@[simp] theorem WebSocketAction.toJson_forgetNulls (a : WebSocketAction) :
    a.forgetNulls.toJson = a.toJson := by
  cases a with
  | expectJson pointer equals schema timeout =>
      simp only [forgetNulls, toJson, optional_forgetNull]
  | _ => rfl

@[simp] theorem WebSocketPlan.toJson_forgetNulls (p : WebSocketPlan) :
    p.forgetNulls.toJson = p.toJson := by
  have hactions : (p.actions.map WebSocketAction.forgetNulls).map WebSocketAction.toJson =
      p.actions.map WebSocketAction.toJson := by
    rw [List.map_map]
    exact List.map_congr_left (fun a _ => a.toJson_forgetNulls)
  simp only [toJson, forgetNulls, hactions]

@[simp] theorem WorkflowStepTemplate.toJson_forgetNulls (t : WorkflowStepTemplate) :
    t.forgetNulls.toJson = t.toJson := by
  have hmembers : t.forgetNulls.websocketMembers = t.websocketMembers := by
    simp only [websocketMembers, forgetNulls]
    cases t.websocketPlan with
    | none => rfl
    | some p =>
        simp only [Option.map_some, Option.toList_some, List.map_cons, List.map_nil,
          WebSocketPlan.toJson_forgetNulls]
        rfl
  rw [toJson, hmembers, toJson]
  simp only [forgetNulls, optional_forgetNull]

@[simp] theorem WorkflowPlan.toJson_forgetNulls (p : WorkflowPlan) :
    p.forgetNulls.toJson = p.toJson := by
  have hsteps : (p.steps.map WorkflowStepTemplate.forgetNulls).map WorkflowStepTemplate.toJson =
      p.steps.map WorkflowStepTemplate.toJson := by
    rw [List.map_map]
    exact List.map_congr_left (fun t _ => t.toJson_forgetNulls)
  simp only [toJson, forgetNulls, hsteps]

/-! ### Nulls -/

/-- Neither value of an expectation is null. -/
def WebSocketAction.NoNulls : WebSocketAction → Prop
  | expectJson _ equals schema _ => equals ≠ some .null ∧ schema ≠ some .null
  | _ => True

def WebSocketPlan.NoNulls (p : WebSocketPlan) : Prop := ∀ a ∈ p.actions, a.NoNulls

/-- Neither the body of a step nor an expectation of its session is null. -/
def WorkflowStepTemplate.NoNulls (t : WorkflowStepTemplate) : Prop :=
  t.requestBody ≠ some .null ∧ ∀ p ∈ t.websocketPlan, p.NoNulls

def WorkflowPlan.NoNulls (p : WorkflowPlan) : Prop := ∀ t ∈ p.steps, t.NoNulls

/-- Only a present null is forgotten. -/
theorem forgetNull_eq_iff (o : Option Value) : forgetNull o = o ↔ o ≠ some .null := by
  rcases o with _ | _ | _ <;> simp [forgetNull]

theorem map_eq_self_iff {α : Type} {f : α → α} {l : List α} :
    l.map f = l ↔ ∀ x ∈ l, f x = x := by
  induction l with
  | nil => simp
  | cons x rest ih => simp only [List.map_cons, List.cons.injEq, ih, List.forall_mem_cons]

theorem WebSocketAction.forgetNulls_eq_iff (a : WebSocketAction) :
    a.forgetNulls = a ↔ a.NoNulls := by
  cases a <;> simp [forgetNulls, NoNulls, forgetNull_eq_iff]

/-- A session plan is unchanged exactly without present nulls. -/
theorem WebSocketPlan.forgetNulls_eq_iff (p : WebSocketPlan) : p.forgetNulls = p ↔ p.NoNulls := by
  have hactions : p.forgetNulls = p ↔ p.actions.map WebSocketAction.forgetNulls = p.actions :=
    ⟨congrArg WebSocketPlan.actions, fun h => by rw [forgetNulls, h]⟩
  rw [hactions, map_eq_self_iff]
  exact forall₂_congr (fun a _ => a.forgetNulls_eq_iff)

theorem WorkflowStepTemplate.forgetNulls_eq_iff (t : WorkflowStepTemplate) :
    t.forgetNulls = t ↔ t.NoNulls := by
  have hfields : t.forgetNulls = t ↔ forgetNull t.requestBody = t.requestBody ∧
      t.websocketPlan.map WebSocketPlan.forgetNulls = t.websocketPlan := by
    constructor
    · exact fun h => ⟨congrArg requestBody h, congrArg websocketPlan h⟩
    · rintro ⟨hbody, hplan⟩
      rw [forgetNulls, hbody, hplan]
  have hplan : t.websocketPlan.map WebSocketPlan.forgetNulls = t.websocketPlan ↔
      ∀ p ∈ t.websocketPlan, p.NoNulls := by
    cases t.websocketPlan with
    | none => simp
    | some p => simp [WebSocketPlan.forgetNulls_eq_iff]
  rw [hfields, forgetNull_eq_iff, hplan]
  rfl

/-- A workflow plan is unchanged exactly without present nulls. -/
theorem WorkflowPlan.forgetNulls_eq_iff (p : WorkflowPlan) : p.forgetNulls = p ↔ p.NoNulls := by
  have hsteps : p.forgetNulls = p ↔ p.steps.map WorkflowStepTemplate.forgetNulls = p.steps :=
    ⟨congrArg WorkflowPlan.steps, fun h => by rw [forgetNulls, h]⟩
  rw [hsteps, map_eq_self_iff]
  exact forall₂_congr (fun t _ => t.forgetNulls_eq_iff)

/-! ### Texts -/

mutual

/-- How many arrays and objects of a value are inside each other. -/
def Value.depth : Value → Nat
  | .array items => depthItems items + 1
  | .object members => depthMembers members + 1
  | _ => 0

/-- The depth of the items of a list. -/
def depthItems : List Value → Nat
  | [] => 0
  | v :: rest => max v.depth (depthItems rest)

/-- The depth of the members of an object. -/
def depthMembers : List (Str × Value) → Nat
  | [] => 0
  | (_, v) :: rest => max v.depth (depthMembers rest)

end

/-- The recursion limit of the JSON reader. -/
def depthLimit : Nat := 128

/-- What the reader makes of a text that was written: the value, or nothing
    when it is too deep. -/
def ReadsBack (read : List UInt8 → Option Value) (v : Value) : Prop :=
  read (utf8 v.render) = if v.depth < depthLimit then some v else none

/-! ### Stored plans -/

/-- The four kinds of plan that are stored. -/
inductive PlanKind where
  | request
  | webSocket
  | workflow
  | conformance
  deriving DecidableEq, Repr

/-- A plan of one of the four kinds. -/
inductive StoredPlan where
  | request (p : RequestPlan)
  | webSocket (p : WebSocketPlan)
  | workflow (p : WorkflowPlan)
  | conformance (p : ConformancePlan)
  deriving DecidableEq, Repr

/-- The reader of a kind. -/
def PlanKind.fromJson : PlanKind → Value → Option StoredPlan
  | request, v => (RequestPlan.fromJson v).map .request
  | webSocket, v => (WebSocketPlan.fromJson v).map .webSocket
  | workflow, v => (WorkflowPlan.fromJson v).map .workflow
  | conformance, v => (ConformancePlan.fromJson v).map .conformance

/-- A plan of a kind, from its text. -/
def PlanKind.read (kind : PlanKind) (read : List UInt8 → Option Value) (bytes : List UInt8) :
    Option StoredPlan :=
  (read bytes).bind kind.fromJson

namespace StoredPlan

def kind : StoredPlan → PlanKind
  | request _ => .request
  | webSocket _ => .webSocket
  | workflow _ => .workflow
  | conformance _ => .conformance

def toJson : StoredPlan → Value
  | request p => p.toJson
  | webSocket p => p.toJson
  | workflow p => p.toJson
  | conformance p => p.toJson

/-- The text of a plan. -/
def written (p : StoredPlan) : List UInt8 := utf8 p.toJson.render

def id : StoredPlan → Str
  | request p => p.id
  | webSocket p => p.id
  | workflow p => p.id
  | conformance p => p.id

def fingerprint : StoredPlan → Str
  | request p => p.fingerprint
  | webSocket p => p.fingerprint
  | workflow p => p.fingerprint
  | conformance p => p.fingerprint

/-- The bytes the seal is the digest of. -/
def material : StoredPlan → List UInt8
  | request p => p.material
  | webSocket p => p.material
  | workflow p => p.material
  | conformance p => p.material

/-- What the types of the fields promise. -/
def Typed : StoredPlan → Prop
  | request p => p.Typed
  | webSocket p => p.Typed
  | workflow p => p.Typed
  | conformance p => p.Typed

/-- No optional value of the plan is null. -/
def NoNulls : StoredPlan → Prop
  | webSocket p => p.NoNulls
  | workflow p => p.NoNulls
  | _ => True

/-- A plan as it is read back. -/
def forgetNulls : StoredPlan → StoredPlan
  | webSocket p => webSocket p.forgetNulls
  | workflow p => workflow p.forgetNulls
  | p => p

/-- What is read back is the plan itself when no optional value is null. -/
theorem forgetNulls_eq_iff (p : StoredPlan) : p.forgetNulls = p ↔ p.NoNulls := by
  cases p with
  | request p => simp [forgetNulls, NoNulls]
  | webSocket p => rw [forgetNulls, webSocket.injEq, p.forgetNulls_eq_iff]; rfl
  | workflow p => rw [forgetNulls, workflow.injEq, p.forgetNulls_eq_iff]; rfl
  | conformance p => simp [forgetNulls, NoNulls]

/-- What is written is read back, but for the nulls. -/
theorem fromJson_toJson {p : StoredPlan} (h : p.Typed) :
    p.kind.fromJson p.toJson = some p.forgetNulls := by
  cases p with
  | request p => exact congrArg (Option.map request) (RequestPlan.fromJson_toJson h)
  | webSocket p => exact congrArg (Option.map webSocket) (WebSocketPlan.fromJson_toJson h)
  | workflow p => exact congrArg (Option.map workflow) (WorkflowPlan.fromJson_toJson h)
  | conformance p => exact congrArg (Option.map conformance) (ConformancePlan.fromJson_toJson h)

section

variable {read : List UInt8 → Option Value}

/-- What is read back of a plan. -/
theorem read_written {p : StoredPlan} (htyped : p.Typed) (hread : ReadsBack read p.toJson) :
    p.kind.read read p.written =
      if p.toJson.depth < depthLimit then some p.forgetNulls else none := by
  rw [PlanKind.read, written, hread]
  split
  · exact fromJson_toJson htyped
  · rfl

end

variable (lib : Crates)

/-- Whether the fingerprint and the handle are those of the content. -/
def verifySeal : StoredPlan → Bool
  | request p => p.verifySeal lib
  | webSocket p => p.verifySeal lib
  | workflow p => p.verifySeal lib
  | conformance p => p.verifySeal lib

/-- The seal does not see that a null was lost. -/
@[simp] theorem verifySeal_forgetNulls (p : StoredPlan) :
    p.forgetNulls.verifySeal lib = p.verifySeal lib := by
  cases p with
  | request p => rfl
  | webSocket p =>
      have hmaterial : p.forgetNulls.material = p.material :=
        congrArg (fun v : Value => utf8 v.render)
          (WebSocketPlan.toJson_forgetNulls { p with id := [], fingerprint := [] })
      simp only [forgetNulls, verifySeal, WebSocketPlan.verifySeal, hmaterial]
      rfl
  | workflow p =>
      have hmaterial : p.forgetNulls.material = p.material :=
        congrArg (fun v : Value => utf8 v.render)
          (WorkflowPlan.toJson_forgetNulls { p with id := [], fingerprint := [] })
      simp only [forgetNulls, verifySeal, WorkflowPlan.verifySeal, hmaterial]
      rfl
  | conformance p => rfl

/-- Read back as it was, with a seal that verifies. -/
def Survives (read : List UInt8 → Option Value) (p : StoredPlan) : Prop :=
  ∃ q, p.kind.read read p.written = some q ∧ q = p ∧ q.verifySeal lib = true

end StoredPlan

/-- A sealed plan survives when none of its optional values is null and it is
    not too deep. -/
theorem survives_iff (lib : Crates) (read : List UInt8 → Option Value) (p : StoredPlan)
    (htyped : p.Typed) (hsealed : p.verifySeal lib = true) (hread : ReadsBack read p.toJson) :
    p.Survives lib read ↔ p.NoNulls ∧ p.toJson.depth < depthLimit := by
  rw [StoredPlan.Survives, StoredPlan.read_written htyped hread, ← p.forgetNulls_eq_iff]
  constructor
  · rintro ⟨q, hq, rfl, _⟩
    by_cases hdepth : q.toJson.depth < depthLimit
    · rw [if_pos hdepth] at hq
      exact ⟨Option.some.inj hq, hdepth⟩
    · rw [if_neg hdepth] at hq
      exact absurd hq (by simp)
  · rintro ⟨hnulls, hdepth⟩
    exact ⟨p, by rw [if_pos hdepth, hnulls], rfl, hsealed⟩

/-! ### A session that expects null -/

/-- A session that expects a JSON value and then closes. -/
def expectSession (equals : Option Value) : WebSocketPlan :=
  { protocol := PROTOCOL
    kind := "websocket-plan"
    version := VERSION
    configFingerprint := "config"
    policyFingerprint := "policy"
    sourceFingerprints := ["source".toList]
    id := []
    operation := "prices"
    target := "wss://api.example.com/prices"
    risk := .read
    requiredGrants := ["network".toList]
    secretRefs := []
    headers := []
    auth := none
    origin := none
    subprotocols := []
    handshakeChecks := []
    limits := ⟨1000, 1000, 1000, 1000, 1000, 65536, 65536, 16, 16, 16, 16, 65536, 65536⟩
    actions := [.expectJson none equals none none, .close 1000 []]
    sensitiveHeaders := []
    redactResponseJsonPointers := []
    valid := true
    fingerprint := []
    exit := 0 }

/-- The session with its seal. -/
def sealedSession (equals : Option Value) : WebSocketPlan :=
  { expectSession equals with
    fingerprint := digest referenceCrates (expectSession equals).material
    id := RequestPlan.handleOf referenceCrates
      (digest referenceCrates (expectSession equals).material) }

/-- A reader of one text. -/
def readOnly (v : Value) (bytes : List UInt8) : Option Value :=
  if bytes = utf8 v.render then some v else none

/-- A reader within its depth reads back what it wrote. -/
theorem readsBack_readOnly {v : Value} (h : v.depth < depthLimit) : ReadsBack (readOnly v) v := by
  rw [ReadsBack, if_pos h]
  exact if_pos rfl

theorem sealedSession_verifies (equals : Option Value) :
    (sealedSession equals).verifySeal referenceCrates = true := by
  simp only [WebSocketPlan.verifySeal, sealedSession, WebSocketPlan.material, expectSession,
    decide_true, Bool.and_self]

theorem sealedSession_typed {equals : Option Value} (h : ∀ v ∈ equals, v.canonical = v) :
    (sealedSession equals).Typed := by
  refine ⟨?_, ?_, Nat.zero_lt_succ _⟩
  · simp [sealedSession, expectSession, WebSocketLimits.Typed, u64Bound]
  · simpa [sealedSession, expectSession, WebSocketAction.Typed, u16Bound] using h

theorem expect_true_survives :
    (StoredPlan.webSocket (sealedSession (some (.bool true)))).Survives referenceCrates
      (readOnly (sealedSession (some (.bool true))).toJson) :=
  (survives_iff referenceCrates _ (.webSocket (sealedSession (some (.bool true))))
    (sealedSession_typed (by simp [Value.canonical])) (sealedSession_verifies _)
    (readsBack_readOnly (by decide))).mpr
    ⟨by simp [StoredPlan.NoNulls, WebSocketPlan.NoNulls, WebSocketAction.NoNulls, sealedSession,
      expectSession], by decide⟩

/-- The session that expects null is sealed, and comes back expecting nothing,
    with a seal that verifies. -/
theorem null_lost :
    (expectSession (some .null)).sealed referenceCrates = .ok (sealedSession (some .null)) ∧
      ReadsBack (readOnly (sealedSession (some .null)).toJson) (sealedSession (some .null)).toJson ∧
      ¬ (StoredPlan.webSocket (sealedSession (some .null))).Survives referenceCrates
        (readOnly (sealedSession (some .null)).toJson) ∧
      ∃ q, PlanKind.webSocket.read (readOnly (sealedSession (some .null)).toJson)
          (StoredPlan.webSocket (sealedSession (some .null))).written = some (.webSocket q) ∧
        q.actions = [.expectJson none none none none, .close 1000 []] ∧
        q.verifySeal referenceCrates = true := by
  -- The action is valid and sealed as it stands.
  have hnormal : (expectSession (some .null)).normalize = expectSession (some .null) := by
    decide +kernel
  have hvalid : (expectSession (some .null)).validate = .ok () := by decide +kernel
  have hback := readsBack_readOnly (by decide : (sealedSession (some .null)).toJson.depth < depthLimit)
  have htyped : (StoredPlan.webSocket (sealedSession (some .null))).Typed :=
    sealedSession_typed (by simp [Value.canonical])
  have hread := StoredPlan.read_written htyped hback
  rw [if_pos (by decide)] at hread
  -- Reading it back forgets the null it has.
  have hlost : ¬ (sealedSession (some .null)).NoNulls :=
    fun h => (h _ List.mem_cons_self).1 rfl
  have hseal := StoredPlan.verifySeal_forgetNulls referenceCrates
    (.webSocket (sealedSession (some .null)))
  refine ⟨?_, hback, ?_, _, hread, rfl, hseal.trans (sealedSession_verifies _)⟩
  · rw [WebSocketPlan.sealed, hnormal, hvalid]
    rfl
  -- So no plan that is read is the one stored.
  · rintro ⟨q, hq, rfl, _⟩
    exact hlost ((StoredPlan.forgetNulls_eq_iff _).mp (Option.some.inj (hread.symm.trans hq)))

end Kahea
