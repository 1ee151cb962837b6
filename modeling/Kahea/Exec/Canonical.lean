import Mathlib.Data.Prod.Lex
import Kahea.Base.Order
import Kahea.Base.Writing
import Kahea.Core.Survival
import Kahea.Exec.WebSocket

/-!
# The Seal of a Session

What the seal of a WebSocket plan tells apart, and what it does not.

Sealing sorts what is a set, so sessions that differ in the order or the number
of the elements of their sets have one seal. The seal is the digest of what is
written of the session, so a changed field is seen when it is written
otherwise. That is every field but one: an expected value that is null is
written like one that is absent, and these two sessions run differently.

## Main definitions

* `SameAction`, `Regrouped`: Sessions that differ in their sets only.
* `WebSocketPlan.Representable`: The sessions the program can hold.
* `WebSocketPlan.Complete`: Every expectation has both of its values.
* `CanonicalSeal`: What a seal is for.

## Theorems

* `sealed_regrouped`: Sessions that differ in their sets only have one seal.
* `forgetNulls_eq_of_material_eq`: Sessions with one material.
* `canonicalSeal_iff`: When the seal of a session does what it is for.
* `null_unsealed`: Two sessions with one seal, of which one expects null.
-/

namespace Kahea

/-! ### Sessions that differ in their sets -/

/-- Actions that differ in the order or the number of their close codes. -/
def SameAction : WebSocketAction → WebSocketAction → Prop
  | .expectClose codes reason timeout, .expectClose codes' reason' timeout' =>
      (∀ code, code ∈ codes ↔ code ∈ codes') ∧ reason = reason' ∧ timeout = timeout'
  | a, b => a = b

/-- Sessions that differ in the order of their headers, in the order or the
    number of the elements of their sets, in the case of their sensitive headers
    and in the seal they carry. -/
structure Regrouped (p q : WebSocketPlan) : Prop where
  requiredGrants : ∀ x, x ∈ p.requiredGrants ↔ x ∈ q.requiredGrants
  secretRefs : ∀ x, x ∈ p.secretRefs ↔ x ∈ q.secretRefs
  handshakeChecks : ∀ x, x ∈ p.handshakeChecks ↔ x ∈ q.handshakeChecks
  sensitiveHeaders : ∀ x, x ∈ p.sensitiveHeaders.map lower ↔ x ∈ q.sensitiveHeaders.map lower
  redactResponseJsonPointers :
    ∀ x, x ∈ p.redactResponseJsonPointers ↔ x ∈ q.redactResponseJsonPointers
  headers : p.headers.Perm q.headers
  actions : List.Forall₂ SameAction p.actions q.actions
  others : q = { p with
    requiredGrants := q.requiredGrants
    secretRefs := q.secretRefs
    handshakeChecks := q.handshakeChecks
    sensitiveHeaders := q.sensitiveHeaders
    redactResponseJsonPointers := q.redactResponseJsonPointers
    headers := q.headers
    actions := q.actions
    id := q.id
    fingerprint := q.fingerprint }

/-- Actions that differ in order only have one normal form. -/
theorem normalizeAction_eq {a b : WebSocketAction} (h : SameAction a b) :
    WebSocketPlan.normalizeAction a = WebSocketPlan.normalizeAction b := by
  cases a with
  | expectClose codes reason timeout =>
      cases b with
      | expectClose codes' reason' timeout' =>
          rcases h with ⟨hcodes, rfl, rfl⟩
          rw [WebSocketPlan.normalizeAction, WebSocketPlan.normalizeAction,
            dedup_sort_congr hcodes]
      | _ => exact absurd h (by simp [SameAction])
  | _ => exact congrArg WebSocketPlan.normalizeAction h

theorem sameAction_normalizeAction (a : WebSocketAction) :
    SameAction a (WebSocketPlan.normalizeAction a) := by
  cases a with
  | expectClose codes reason timeout =>
      exact ⟨fun code => by rw [mem_dedup, List.mem_insertionSort], rfl, rfl⟩
  | _ => rfl

/-! ### The order of headers -/

/-- The order of headers: by name without case, and then by name. -/
def HeaderLe (a b : PlannedHeader) : Prop :=
  toLex (lower a.name, a.name) ≤ toLex (lower b.name, b.name)

instance : DecidableRel HeaderLe := fun a b =>
  inferInstanceAs (Decidable (toLex (lower a.name, a.name) ≤ toLex (lower b.name, b.name)))

instance : Std.Total HeaderLe := ⟨fun _ _ => le_total _ _⟩

instance : IsTrans PlannedHeader HeaderLe := ⟨fun _ _ _ => le_trans⟩

/-- The headers of the normal form are sorted by name. -/
theorem headers_normalize (p : WebSocketPlan) :
    p.normalize.headers = p.headers.insertionSort HeaderLe := by
  refine insertionSort_congr (fun a b => ?_) p.headers
  rw [HeaderLe, Prod.Lex.toLex_le_toLex, Bool.or_eq_true, Bool.and_eq_true, strLt_iff,
    decide_eq_true_eq, strLe_iff]

/-- The headers of a valid session have different names, also without case. -/
theorem nodup_of_validateHeaders {names : List Str} {headers : List PlannedHeader} {u : Unit}
    (h : validateWebsocketHeadersFrom names headers = .ok u) :
    (headers.map (fun x => lower x.name)).Nodup ∧ ∀ x ∈ headers, lower x.name ∉ names := by
  induction headers generalizing names with
  | nil => exact ⟨List.nodup_nil, fun _ hx => absurd hx List.not_mem_nil⟩
  | cons header rest ih =>
      simp only [validateWebsocketHeadersFrom, except_bind_ok, ensure_ok, exists_const,
        Bool.not_eq_true'] at h
      rcases h with ⟨_, _, hnew, hrest⟩
      rcases ih hrest with ⟨hnodup, hnot⟩
      refine ⟨?_, fun x hx => ?_⟩
      · rw [List.map_cons, List.nodup_cons]
        refine ⟨fun hmem => ?_, hnodup⟩
        rcases List.mem_map.mp hmem with ⟨x, hx, heq⟩
        exact hnot x hx (heq ▸ List.mem_cons_self)
      · rcases List.mem_cons.mp hx with rfl | hx
        · simpa using hnew
        · exact fun hmem => hnot x hx (List.mem_cons_of_mem _ hmem)

/-- Headers of different names are sorted in one way. -/
theorem sort_headers_eq {l l' : List PlannedHeader} (hperm : l.Perm l')
    (hnodup : (l.map (fun x => lower x.name)).Nodup) :
    l.insertionSort HeaderLe = l'.insertionSort HeaderLe := by
  have hsame : (l.insertionSort HeaderLe).Perm (l'.insertionSort HeaderLe) :=
    (List.perm_insertionSort HeaderLe l).trans
      (hperm.trans (List.perm_insertionSort HeaderLe l').symm)
  refine List.Perm.eq_of_pairwise ?_ (List.pairwise_insertionSort HeaderLe l)
    (List.pairwise_insertionSort HeaderLe l') hsame
  intro a b ha hb hab hba
  have hkey : (lower a.name, a.name) = (lower b.name, b.name) := toLex.injective (le_antisymm hab hba)
  rw [List.mem_insertionSort] at ha hb
  exact List.inj_on_of_nodup_map hnodup ha (hperm.mem_iff.mpr hb) (Prod.mk.inj hkey).1

/-! ### Sets -/

theorem dedup_sortStrings_congr {l l' : List Str} (h : ∀ x, x ∈ l ↔ x ∈ l') :
    dedup (sortStrings l) = dedup (sortStrings l') := by
  rw [sortStrings_eq, sortStrings_eq, dedup_sort_congr h]

/-- Sessions that differ in their sets have one normal form. -/
theorem normalize_regrouped {p q : WebSocketPlan} (h : Regrouped p q)
    (hnodup : (p.headers.map (fun x => lower x.name)).Nodup) :
    q.normalize = { p.normalize with id := q.id, fingerprint := q.fingerprint } := by
  have hheaders : q.normalize.headers = p.normalize.headers := by
    rw [headers_normalize, headers_normalize, sort_headers_eq h.headers hnodup]
  have hactions : q.actions.map WebSocketPlan.normalizeAction =
      p.actions.map WebSocketPlan.normalizeAction := by
    rw [← List.forall₂_eq_eq_eq, List.forall₂_map_left_iff, List.forall₂_map_right_iff]
    exact h.actions.flip.imp (fun _ _ hab => (normalizeAction_eq hab).symm)
  have hgrants := dedup_sortStrings_congr h.requiredGrants
  have hsecrets := dedup_sortStrings_congr h.secretRefs
  have hchecks := dedup_sortStrings_congr h.handshakeChecks
  have hsensitive := dedup_sortStrings_congr h.sensitiveHeaders
  have hpointers := dedup_sortStrings_congr h.redactResponseJsonPointers
  have hothers := h.others
  cases p
  cases q
  simp only [WebSocketPlan.mk.injEq, true_and] at hothers
  simp only [WebSocketPlan.normalize] at hheaders hactions hgrants hsecrets hchecks hsensitive hpointers ⊢
  simp only [hheaders, hactions, hgrants, hsecrets, hchecks, hsensitive, hpointers, hothers]

/-- Whether a session is valid does not depend on the seal it carries. -/
theorem validate_reseal (p : WebSocketPlan) (id fingerprint : Str) :
    ({ p with id := id, fingerprint := fingerprint }).validate = p.validate := rfl

theorem material_reseal (p : WebSocketPlan) (id fingerprint : Str) :
    ({ p with id := id, fingerprint := fingerprint }).material = p.material := rfl

/-- A plan that validates names no header twice. -/
theorem nodup_of_validate {p : WebSocketPlan} (h : p.normalize.validate = .ok ()) :
    (p.headers.map (fun x => lower x.name)).Nodup := by
  simp only [WebSocketPlan.validate, except_bind_ok, ensure_ok, exists_const] at h
  rcases h with ⟨_, _, _, _, _, hheaders, _⟩
  have hsorted := (nodup_of_validateHeaders hheaders).1
  rw [headers_normalize] at hsorted
  exact ((List.perm_insertionSort HeaderLe p.headers).map _).nodup_iff.mp hsorted

section

variable {lib : Crates} {p q r : WebSocketPlan}

/-- Sessions that differ in their sets only have one seal. -/
theorem sealed_regrouped (h : Regrouped p r) (hseal : p.sealed lib = .ok q) :
    r.sealed lib = .ok q := by
  rcases WebSocketPlan.sealed_ok lib p q hseal with ⟨hvalid, rfl⟩
  have hnormal := normalize_regrouped h (nodup_of_validate hvalid)
  rw [WebSocketPlan.sealed, hnormal, validate_reseal, hvalid, material_reseal]
  rfl

/-- A session differs from its sealed form in its sets only. -/
theorem regrouped_sealed (hseal : p.sealed lib = .ok q) : Regrouped p q := by
  rcases WebSocketPlan.sealed_ok lib p q hseal with ⟨_, rfl⟩
  refine ⟨?_, ?_, ?_, ?_, ?_, ?_, ?_, rfl⟩
  · exact fun x => by simp only [WebSocketPlan.normalize, mem_dedup, mem_sortStrings]
  · exact fun x => by simp only [WebSocketPlan.normalize, mem_dedup, mem_sortStrings]
  · exact fun x => by simp only [WebSocketPlan.normalize, mem_dedup, mem_sortStrings]
  · intro x
    simp only [WebSocketPlan.normalize, List.mem_map, mem_dedup, mem_sortStrings]
    constructor
    · rintro ⟨a, ha, rfl⟩
      exact ⟨lower a, ⟨a, ha, rfl⟩, lower_lower a⟩
    · rintro ⟨_, ⟨a, ha, rfl⟩, rfl⟩
      exact ⟨a, ha, (lower_lower a).symm⟩
  · exact fun x => by simp only [WebSocketPlan.normalize, mem_dedup, mem_sortStrings]
  · change p.headers.Perm p.normalize.headers
    rw [headers_normalize]
    exact (List.perm_insertionSort HeaderLe p.headers).symm
  · change List.Forall₂ SameAction p.actions (p.actions.map WebSocketPlan.normalizeAction)
    rw [List.forall₂_map_right_iff, List.forall₂_same]
    exact fun a _ => sameAction_normalizeAction a

/-- What is sealed verifies. -/
theorem verifySeal_of_sealed (hseal : p.sealed lib = .ok q) : q.verifySeal lib = true := by
  rcases WebSocketPlan.sealed_ok lib p q hseal with ⟨_, rfl⟩
  rw [WebSocketPlan.verifySeal, material_reseal]
  simp only [decide_true, Bool.and_self]

end

/-! ### What is written of a session -/

/-- The numbers in the values of an action are printed numbers. -/
def WebSocketAction.Printed : WebSocketAction → Prop
  | expectJson _ equals schema _ => (∀ v ∈ equals, v.Printed) ∧ ∀ v ∈ schema, v.Printed
  | _ => True

/-- A session the program can hold. -/
structure WebSocketPlan.Representable (p : WebSocketPlan) : Prop where
  typed : p.Typed
  printed : ∀ a ∈ p.actions, a.Printed

theorem printedItems_iff {items : List Value} : printedItems items ↔ ∀ v ∈ items, v.Printed := by
  induction items with
  | nil => simp [printedItems]
  | cons v rest ih => rw [printedItems, ih, List.forall_mem_cons]

theorem printedMembers_iff {members : List (Str × Value)} :
    printedMembers members ↔ ∀ e ∈ members, e.2.Printed := by
  induction members with
  | nil => simp [printedMembers]
  | cons e rest ih =>
      rcases e with ⟨k, v⟩
      rw [printedMembers, ih, List.forall_mem_cons]

theorem printed_jsonObject {members : List (String × Value)} (h : ∀ e ∈ members, e.2.Printed) :
    (jsonObject members).Printed := by
  refine printedMembers_iff.mpr (fun e he => ?_)
  rcases List.mem_map.mp he with ⟨d, hd, rfl⟩
  exact h d hd

theorem printed_array {α : Type} {encode : α → Value} {l : List α}
    (h : ∀ x ∈ l, (encode x).Printed) : (Value.array (l.map encode)).Printed := by
  refine printedItems_iff.mpr (fun v hv => ?_)
  rcases List.mem_map.mp hv with ⟨x, hx, rfl⟩
  exact h x hx

theorem printed_string (s : Str) : (Value.string s).Printed := trivial

theorem printed_jsonNat (n : Nat) : (jsonNat n).Printed := trivial

theorem printed_stringArray (l : List Str) : (stringArray l).Printed :=
  printed_array (fun x _ => printed_string x)

theorem printed_optional {α : Type} {encode : α → Value} {o : Option α}
    (h : ∀ x ∈ o, (encode x).Printed) : (optional encode o).Printed := by
  cases o with
  | none => trivial
  | some x => exact h x rfl

theorem WebSocketAction.printed_toJson {a : WebSocketAction} (h : a.Printed) : a.toJson.Printed := by
  have hstring : ∀ o, (optional Value.string o).Printed := fun o =>
    printed_optional (fun x _ => printed_string x)
  have hnat : ∀ o, (optional jsonNat o).Printed := fun o =>
    printed_optional (fun x _ => printed_jsonNat x)
  have hcodes : ∀ l : List Nat, (Value.array (l.map jsonNat)).Printed := fun l =>
    printed_array (fun n _ => printed_jsonNat n)
  have hempty : ∀ e ∈ ([] : List (String × Value)), e.2.Printed :=
    fun _ he => absurd he List.not_mem_nil
  -- Only one action has values of its own.
  cases a with
  | expectJson pointer equals schema timeout =>
      have hequals : (optional id equals).Printed := printed_optional h.1
      have hschema : (optional id schema).Printed := printed_optional h.2
      refine printed_jsonObject ?_
      simp only [List.forall_mem_cons, printed_string, hstring, hequals, hschema, hnat, true_and]
      exact hempty
  | _ =>
      refine printed_jsonObject ?_
      simp only [List.forall_mem_cons, printed_string, printed_jsonNat, hstring, hnat, hcodes,
        true_and]
      exact hempty

theorem WebSocketLimits.printed_toJson (l : WebSocketLimits) : l.toJson.Printed := by
  refine printed_jsonObject ?_
  simp only [List.forall_mem_cons, printed_jsonNat, true_and]
  exact fun _ he => absurd he List.not_mem_nil

theorem PlannedHeader.printed_toJson (x : PlannedHeader) : x.toJson.Printed := by
  refine printed_jsonObject ?_
  simp only [List.forall_mem_cons, printed_string, true_and]
  exact fun _ he => absurd he List.not_mem_nil

theorem PlannedAuth.printed_toJson (a : PlannedAuth) : a.toJson.Printed := by
  have hstring : ∀ o, (optional Value.string o).Printed := fun o =>
    printed_optional (fun x _ => printed_string x)
  refine printed_jsonObject ?_
  simp only [List.forall_mem_cons, printed_string, hstring, printed_stringArray, true_and]
  exact fun _ he => absurd he List.not_mem_nil

/-- A plan is written as a value that can be read back. -/
theorem WebSocketPlan.printed_toJson {p : WebSocketPlan} (h : ∀ a ∈ p.actions, a.Printed) :
    p.toJson.Printed := by
  have hstring : ∀ o, (optional Value.string o).Printed := fun o =>
    printed_optional (fun x _ => printed_string x)
  have hheaders : (Value.array (p.headers.map PlannedHeader.toJson)).Printed :=
    printed_array (fun x _ => x.printed_toJson)
  have hauth : (optional PlannedAuth.toJson p.auth).Printed :=
    printed_optional (fun a _ => a.printed_toJson)
  have hactions : (Value.array (p.actions.map WebSocketAction.toJson)).Printed :=
    printed_array (fun a ha => WebSocketAction.printed_toJson (h a ha))
  have hbool : (Value.bool p.valid).Printed := trivial
  refine printed_jsonObject ?_
  simp only [List.forall_mem_cons, printed_string, printed_jsonNat, printed_stringArray, hstring,
    hheaders, hauth, hactions, hbool, p.limits.printed_toJson, true_and]
  exact fun _ he => absurd he List.not_mem_nil

/-- Sessions with one material are written alike, but for the seal. -/
theorem forgetNulls_eq_of_material_eq {p q : WebSocketPlan} (hp : p.Representable)
    (hq : q.Representable) (h : p.material = q.material) :
    ({ p with id := [], fingerprint := [] }).forgetNulls =
      ({ q with id := [], fingerprint := [] }).forgetNulls := by
  have hjson : ({ p with id := [], fingerprint := [] }).toJson =
      ({ q with id := [], fingerprint := [] }).toJson :=
    Value.render_inj (WebSocketPlan.printed_toJson hp.printed)
      (WebSocketPlan.printed_toJson hq.printed) (utf8_injective h)
  have hread := WebSocketPlan.fromJson_toJson
    (⟨hp.typed.limits, hp.typed.actions, hp.typed.exit⟩ :
      ({ p with id := [], fingerprint := [] }).Typed)
  rw [hjson, WebSocketPlan.fromJson_toJson
    (⟨hq.typed.limits, hq.typed.actions, hq.typed.exit⟩ :
      ({ q with id := [], fingerprint := [] }).Typed)] at hread
  exact (Option.some.inj hread).symm

/-! ### Complete expectations -/

/-- An expectation of a JSON value has a value and a schema, and neither is
    null. -/
def WebSocketAction.Complete : WebSocketAction → Prop
  | expectJson _ equals schema _ =>
      (equals ≠ none ∧ equals ≠ some .null) ∧ schema ≠ none ∧ schema ≠ some .null
  | _ => True

/-- Every expectation of a JSON value has both of its values. -/
def WebSocketPlan.Complete (p : WebSocketPlan) : Prop := ∀ a ∈ p.actions, a.Complete

/-- Null for absent and absent for null. -/
def swapNull : Option Value → Option Value
  | none => some .null
  | some .null => none
  | o => o

/-- An action with null for absent and absent for null. -/
def WebSocketAction.swapNulls : WebSocketAction → WebSocketAction
  | expectJson pointer equals schema timeout =>
      expectJson pointer (swapNull equals) (swapNull schema) timeout
  | a => a

/-- A session with null for absent and absent for null. -/
def WebSocketPlan.swapNulls (p : WebSocketPlan) : WebSocketPlan :=
  { p with actions := p.actions.map WebSocketAction.swapNulls }

/-- Absent and null are swapped, everything else stays. -/
theorem swapNull_eq_iff (o : Option Value) : swapNull o = o ↔ o ≠ none ∧ o ≠ some .null := by
  rcases o with _ | _ | _ <;> simp [swapNull]

/-- Both are written alike, which is why the digest cannot tell them. -/
theorem optional_swapNull (o : Option Value) : optional id (swapNull o) = optional id o := by
  rcases o with _ | _ | _ <;> rfl

theorem mem_swapNull {o : Option Value} {v : Value} (h : v ∈ swapNull o) : v = .null ∨ v ∈ o := by
  rcases o with _ | _ | _ <;> simp_all [swapNull]

/-- What forgets its nulls like a value that is there is that value. -/
theorem eq_of_forgetNull {o o' : Option Value} (h : o ≠ none ∧ o ≠ some .null)
    (heq : forgetNull o = forgetNull o') : o = o' := by
  rcases o with _ | _ | _ <;> rcases o' with _ | _ | _ <;> simp_all [forgetNull]

/-- Complete actions are told apart without their nulls. -/
theorem WebSocketAction.eq_of_forgetNulls {a b : WebSocketAction} (h : a.Complete)
    (heq : a.forgetNulls = b.forgetNulls) : a = b := by
  cases a with
  | expectJson pointer equals schema timeout =>
      cases b with
      | expectJson pointer' equals' schema' timeout' =>
          simp only [forgetNulls, expectJson.injEq] at heq
          rcases heq with ⟨rfl, hequals, hschema, rfl⟩
          rw [eq_of_forgetNull h.1 hequals, eq_of_forgetNull h.2 hschema]
      | _ => exact absurd heq (by simp [forgetNulls])
  | _ =>
      cases b with
      | expectJson pointer equals schema timeout => exact absurd heq (by simp [forgetNulls])
      | _ => exact heq

theorem eq_of_map_forgetNulls {l l' : List WebSocketAction} (h : ∀ a ∈ l, a.Complete)
    (heq : l.map WebSocketAction.forgetNulls = l'.map WebSocketAction.forgetNulls) : l = l' := by
  induction l generalizing l' with
  | nil => exact (List.map_eq_nil_iff.mp heq.symm).symm
  | cons a l ih =>
      cases l' with
      | nil => exact absurd heq (by simp)
      | cons b l' =>
          rw [List.map_cons, List.map_cons, List.cons.injEq] at heq
          rw [List.forall_mem_cons] at h
          rw [WebSocketAction.eq_of_forgetNulls h.1 heq.1, ih h.2 heq.2]

theorem WebSocketAction.swapNulls_eq_iff (a : WebSocketAction) : a.swapNulls = a ↔ a.Complete := by
  cases a <;> simp [swapNulls, Complete, swapNull_eq_iff]

/-- A plan is its own swap exactly when it is complete. -/
theorem WebSocketPlan.swapNulls_eq_iff (p : WebSocketPlan) : p.swapNulls = p ↔ p.Complete := by
  have hactions : p.swapNulls = p ↔ p.actions.map WebSocketAction.swapNulls = p.actions :=
    ⟨congrArg WebSocketPlan.actions, fun h => by rw [swapNulls, h]⟩
  rw [hactions, map_eq_self_iff]
  exact forall₂_congr (fun a _ => a.swapNulls_eq_iff)

/-- What is written does not tell null from absent. -/
theorem WebSocketPlan.material_swapNulls (p : WebSocketPlan) : p.swapNulls.material = p.material := by
  have haction : ∀ a : WebSocketAction, a.swapNulls.toJson = a.toJson := by
    intro a
    cases a with
    | expectJson pointer equals schema timeout =>
        simp only [WebSocketAction.swapNulls, WebSocketAction.toJson, optional_swapNull]
    | _ => rfl
  have hactions : (p.actions.map WebSocketAction.swapNulls).map WebSocketAction.toJson =
      p.actions.map WebSocketAction.toJson := by
    rw [List.map_map]
    exact List.map_congr_left (fun a _ => haction a)
  simp only [material, toJson, swapNulls, hactions]

theorem WebSocketPlan.representable_swapNulls {p : WebSocketPlan} (h : p.Representable) :
    p.swapNulls.Representable := by
  refine ⟨⟨h.typed.limits, fun b hb => ?_, h.typed.exit⟩, fun b hb => ?_⟩
  -- Only the two optional values of an expectation are swapped, with a null.
  · rcases List.mem_map.mp hb with ⟨a, ha, rfl⟩
    have htyped := h.typed.actions a ha
    cases a with
    | expectJson pointer equals schema timeout =>
        refine ⟨fun v hv => ?_, fun v hv => ?_, htyped.2.2⟩
        · rcases mem_swapNull hv with rfl | hv
          · rfl
          · exact htyped.1 v hv
        · rcases mem_swapNull hv with rfl | hv
          · rfl
          · exact htyped.2.1 v hv
    | _ => exact htyped
  · rcases List.mem_map.mp hb with ⟨a, ha, rfl⟩
    have hprinted := h.printed a ha
    cases a with
    | expectJson pointer equals schema timeout =>
        refine ⟨fun v hv => ?_, fun v hv => ?_⟩
        · rcases mem_swapNull hv with rfl | hv
          · exact trivial
          · exact hprinted.1 v hv
        · rcases mem_swapNull hv with rfl | hv
          · exact trivial
          · exact hprinted.2 v hv
    | _ => exact hprinted

/-! ### The seal -/

section

variable {lib : Crates} {p q : WebSocketPlan}

/-- Sealing keeps a plan representable. -/
theorem representable_sealed (h : p.Representable) (hseal : p.sealed lib = .ok q) :
    q.Representable := by
  rcases WebSocketPlan.sealed_ok lib p q hseal with ⟨_, rfl⟩
  refine ⟨⟨h.typed.limits, fun b hb => ?_, h.typed.exit⟩, fun b hb => ?_⟩
  · rcases List.mem_map.mp hb with ⟨a, ha, rfl⟩
    have htyped := h.typed.actions a ha
    cases a with
    | expectClose codes reason timeout =>
        refine ⟨fun n hn => htyped.1 n ?_, htyped.2⟩
        rwa [mem_dedup, List.mem_insertionSort] at hn
    | _ => exact htyped
  · rcases List.mem_map.mp hb with ⟨a, ha, rfl⟩
    have hprinted := h.printed a ha
    cases a <;> exact hprinted

/-- Sealing keeps a plan complete. -/
theorem complete_sealed (hseal : p.sealed lib = .ok q) : q.Complete ↔ p.Complete := by
  rcases WebSocketPlan.sealed_ok lib p q hseal with ⟨_, rfl⟩
  have haction : ∀ a, (WebSocketPlan.normalizeAction a).Complete ↔ a.Complete := by
    intro a
    cases a <;> exact Iff.rfl
  change (∀ a ∈ p.actions.map WebSocketPlan.normalizeAction, a.Complete) ↔ _
  rw [List.forall_mem_map]
  exact forall₂_congr (fun a _ => haction a)

/-- Sessions with one fingerprint whose seals verify are the same session, when
    one of them is complete. -/
theorem eq_of_fingerprint_eq {r : WebSocketPlan} (hdigest : Function.Injective (digest lib))
    (hq : q.Representable) (hr : r.Representable) (hcomplete : q.Complete)
    (hqseal : q.verifySeal lib = true) (hrseal : r.verifySeal lib = true)
    (h : r.fingerprint = q.fingerprint) : r = q := by
  simp only [WebSocketPlan.verifySeal, Bool.and_eq_true, decide_eq_true_eq] at hqseal hrseal
  -- Equal digests are of equal material.
  have hmaterial : q.material = r.material := hdigest (hqseal.1.trans (h.symm.trans hrseal.1.symm))
  have hid : r.id = q.id := by rw [hrseal.2, hqseal.2, h]
  -- Equal material makes the plans equal apart from nulls, and the one has none.
  have hforgot := forgetNulls_eq_of_material_eq hq hr hmaterial
  have hactions : q.actions = r.actions :=
    eq_of_map_forgetNulls hcomplete (congrArg WebSocketPlan.actions hforgot)
  have hothers : ({ q with id := [], fingerprint := [] } : WebSocketPlan) =
      { r with id := [], fingerprint := [] } := by
    have h1 : ({ q with id := [], fingerprint := [] } : WebSocketPlan) =
        { ({ q with id := [], fingerprint := [] } : WebSocketPlan).forgetNulls with
          actions := q.actions } := rfl
    rw [h1, hforgot, hactions]
    rfl
  have hback : ∀ x : WebSocketPlan,
      x = { ({ x with id := [], fingerprint := [] } : WebSocketPlan) with
        id := x.id, fingerprint := x.fingerprint } := fun _ => rfl
  rw [hback r, hback q, hothers, hid, h]

variable (lib p q)

/-- What the seal of a session is for: sealing a second time changes nothing,
    the order and the number of the elements of a set do not matter, the result
    verifies, a change that keeps the fingerprint or touches nothing else is
    seen, and a session of the same fingerprint runs in the same way. -/
structure CanonicalSeal : Prop where
  again : q.sealed lib = .ok q
  regrouped : ∀ r, Regrouped p r → r.sealed lib = .ok q
  verifies : q.verifySeal lib = true
  changed : ∀ r : WebSocketPlan, r.Representable → r ≠ q →
    (r.fingerprint = q.fingerprint ∨ r = { q with fingerprint := r.fingerprint }) →
    r.verifySeal lib = false
  behaves : ∀ r : WebSocketPlan, r.Representable → r.verifySeal lib = true →
    r.fingerprint = q.fingerprint → ∀ world options,
    executeWebsocket lib world r options = executeWebsocket lib world q options

end

/-- A seal does what it is for when the session expects no JSON value by halves. -/
theorem canonicalSeal_iff (lib : Crates) (p q : WebSocketPlan)
    (hdigest : Function.Injective (digest lib)) (hp : p.Representable)
    (hseal : p.sealed lib = .ok q) : CanonicalSeal lib p q ↔ p.Complete := by
  have hq := representable_sealed hp hseal
  have hverifies := verifySeal_of_sealed hseal
  rw [← complete_sealed hseal]
  constructor
  · intro hcanonical
    -- The session with null for absent carries the same seal.
    by_contra hcomplete
    have hchanged := hcanonical.changed q.swapNulls (WebSocketPlan.representable_swapNulls hq)
      (fun h => hcomplete ((q.swapNulls_eq_iff).mp h)) (Or.inl rfl)
    have hsame : q.swapNulls.verifySeal lib = q.verifySeal lib := by
      rw [WebSocketPlan.verifySeal, WebSocketPlan.material_swapNulls]
      rfl
    rw [hsame, hverifies] at hchanged
    exact Bool.noConfusion hchanged
  · intro hcomplete
    refine ⟨sealed_regrouped (regrouped_sealed hseal) hseal, fun r hr => sealed_regrouped hr hseal,
      hverifies, fun r hr hne hsome => ?_, fun r hr hrseal hprint world options => ?_⟩
    · by_contra hrseal
      rw [Bool.not_eq_false] at hrseal
      rcases hsome with hprint | hother
      · exact hne (eq_of_fingerprint_eq hdigest hq hr hcomplete hverifies hrseal hprint)
      · -- Only the fingerprint differs, and the material gives it back.
        have hprint : r.fingerprint = q.fingerprint := by
          have hmaterial : r.material = q.material := by rw [hother, material_reseal]
          simp only [WebSocketPlan.verifySeal, Bool.and_eq_true, decide_eq_true_eq]
            at hverifies hrseal
          rw [← hrseal.1, ← hverifies.1, hmaterial]
        exact hne (by rw [hother, hprint])
    · rw [eq_of_fingerprint_eq hdigest hq hr hcomplete hverifies hrseal hprint]

/-! ### Two sessions -/

/-- The reference libraries with a hash that lists the bytes. -/
def listingCrates : Crates :=
  { referenceCrates with
    blake3 := fun bytes => bytes.flatMap (fun b => [hexDigit (b.toNat / 16), hexDigit (b.toNat % 16)]) }

/-- The digest that lists its bytes is injective. -/
theorem digest_listingCrates_injective : Function.Injective (digest listingCrates) := by
  intro a b h
  replace h := List.append_cancel_left h
  -- Two characters for each byte, which give it back.
  induction a generalizing b with
  | nil =>
      cases b with
      | nil => rfl
      | cons y b => exact absurd h.symm (List.cons_ne_nil _ _)
  | cons x a ih =>
      cases b with
      | nil => exact absurd h (List.cons_ne_nil _ _)
      | cons y b =>
          rcases List.cons.inj h with ⟨hhigh, hrest⟩
          rcases List.cons.inj hrest with ⟨hlow, htail⟩
          have hx := x.toNat_lt
          have hy := y.toNat_lt
          have hhigh' := congrArg nibble hhigh
          have hlow' := congrArg nibble hlow
          rw [nibble_hexDigit (by omega), nibble_hexDigit (by omega)] at hhigh' hlow'
          have hbyte : x = y := UInt8.toNat_inj.mp (by omega)
          rw [hbyte, ih htail]

/-- A session that expects true of a value with a schema. -/
def checkedSession : WebSocketPlan :=
  { expectSession none with
    actions := [.expectJson none (some (.bool true)) (some (.object [])) none, .close 1000 []] }

theorem checkedSession_canonical :
    ∃ q, checkedSession.sealed listingCrates = .ok q ∧
      CanonicalSeal listingCrates checkedSession q := by
  have hnormal : checkedSession.normalize = checkedSession := by decide +kernel
  have hvalid : checkedSession.validate = .ok () := by decide +kernel
  have hseal : ∃ q, checkedSession.sealed listingCrates = .ok q := by
    rw [WebSocketPlan.sealed, hnormal, hvalid]
    exact ⟨_, rfl⟩
  rcases hseal with ⟨q, hseal⟩
  refine ⟨q, hseal, (canonicalSeal_iff listingCrates checkedSession q
    digest_listingCrates_injective ⟨⟨?_, ?_, Nat.zero_lt_succ _⟩, ?_⟩ hseal).mpr ?_⟩
  · simp [checkedSession, expectSession, WebSocketLimits.Typed, u64Bound]
  · simp [checkedSession, WebSocketAction.Typed, Value.canonical, canonicalMembers, u16Bound]
  · simp [checkedSession, WebSocketAction.Printed, Value.Printed, printedMembers]
  · simp [checkedSession, WebSocketPlan.Complete, WebSocketAction.Complete]

/-- The session that expects null and the one that expects nothing have one
    seal, and a text that only one of them accepts. -/
theorem null_unsealed :
    (expectSession (some .null)).sealed referenceCrates = .ok (sealedSession (some .null)) ∧
      ∃ r : WebSocketPlan, r ≠ sealedSession (some .null) ∧
        r.fingerprint = (sealedSession (some .null)).fingerprint ∧
        r.verifySeal referenceCrates = true ∧
        (sealedSession (some .null)).actions.head? = some (.expectJson none (some .null) none none) ∧
        r.actions.head? = some (.expectJson none none none none) ∧
        expectationMatchesText referenceCrates (.expectJson none (some .null) none none) "true" =
          false ∧
        expectationMatchesText referenceCrates (.expectJson none none none none) "true" = true := by
  have hnormal : (expectSession (some .null)).normalize = expectSession (some .null) := by
    decide +kernel
  have hvalid : (expectSession (some .null)).validate = .ok () := by decide +kernel
  -- Forgetting the null leaves another plan.
  have hlost : ¬ (sealedSession (some .null)).NoNulls :=
    fun h => (h _ List.mem_cons_self).1 rfl
  -- Its seal is the same.
  have hseal := StoredPlan.verifySeal_forgetNulls referenceCrates
    (.webSocket (sealedSession (some .null)))
  refine ⟨?_, (sealedSession (some .null)).forgetNulls, ?_, rfl,
    hseal.trans (sealedSession_verifies _), rfl, rfl, by decide +kernel, by decide +kernel⟩
  · rw [WebSocketPlan.sealed, hnormal, hvalid]
    rfl
  · exact fun h => hlost ((WebSocketPlan.forgetNulls_eq_iff _).mp h)

end Kahea
