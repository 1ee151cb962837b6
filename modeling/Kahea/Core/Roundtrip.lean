import Kahea.Core.Decode
import Kahea.Core.Reference

/-!
# Round Trips of Plans

What writing a plan as JSON and reading it back leaves of it.

Every field comes back as it was, except an optional JSON value that is null:
it is written like an absent one and read back as absent. The values of a plan
have their members in key order and its integers fit, as their types promise.

## Main definitions

* `forgetNull`: An optional value as it is read back.
* `RequestPlan.Typed`, `WebSocketPlan.Typed`, `WorkflowPlan.Typed`,
  `ConformancePlan.Typed`: What the types of the fields promise of a plan.
* `WebSocketPlan.forgetNulls`, `WorkflowPlan.forgetNulls`: A plan as it is read
  back.

## Theorems

* `jsonObject_members`: What the fields of a record find in what was written.
* `RequestPlan.fromJson_toJson`, `WebSocketPlan.fromJson_toJson`,
  `WorkflowPlan.fromJson_toJson`, `ConformancePlan.fromJson_toJson`: What is
  read back.
-/

namespace Kahea

/-! ### Members of a written record -/

theorem toList_injective {a b : String} (h : a.toList = b.toList) : a = b := String.toList_injective h

/-- The members of a record that was written without a name twice. -/
theorem structMember_jsonObject {members : List (String × Value)} {names : List String}
    (hnames : (members.map Prod.fst).Sublist names) (hnodup : names.Nodup) (name : String) :
    structMember (members.map (fun m => (m.1.toList, m.2))) name = some (members.lookup name) := by
  have hkeys := hnodup.sublist hnames
  clear hnames hnodup
  unfold structMember
  -- By the members, whose names are distinct.
  induction members with
  | nil => rfl
  | cons m rest ih =>
      rcases m with ⟨k, v⟩
      rw [List.map_cons, List.nodup_cons] at hkeys
      rw [List.map_cons, List.lookup_cons]
      -- No later member has the name that was found.
      by_cases hk : k = name
      · subst hk
        have hrest : (rest.map (fun m => (m.1.toList, m.2))).filter
            (fun e => decide (e.1 = k.toList)) = [] := by
          rw [List.filter_eq_nil_iff]
          intro e he
          rcases List.mem_map.mp he with ⟨m, hm, rfl⟩
          rw [decide_eq_true_eq]
          exact fun h => hkeys.1 (List.mem_map.mpr ⟨m, hm, toList_injective h⟩)
        rw [List.filter_cons_of_pos (by simp), hrest]
        simp
      · have hne : ¬ k.toList = name.toList := fun h => hk (toList_injective h)
        rw [List.filter_cons_of_neg (by simpa using hne)]
        simp only [beq_eq_false_iff_ne.mpr (Ne.symm hk)]
        exact ih hkeys.2

/-- A required member is read as it is found. -/
theorem required_eq {α : Type} {decode : Value → Option α} {m : List (Str × Value)} {name : String}
    {v : Value} (h : structMember m name = some (some v)) : required decode m name = decode v := by
  rw [required, h]
  rfl

/-- A nullable member is read as it is found, and null is absent. -/
theorem nullable_eq {α : Type} {decode : Value → Option α} {m : List (Str × Value)} {name : String}
    {v : Value} (h : structMember m name = some (some v)) :
    nullable decode m name = decodeOptional decode v := by
  rw [nullable, h]
  rfl

/-- A member of a record that every kind of field finds under its name. -/
def Finds (m : List (Str × Value)) (e : String × Value) : Prop :=
  ∀ {α : Type} (decode : Value → Option α),
    required decode m e.1 = decode e.2 ∧ nullable decode m e.1 = decodeOptional decode e.2

/-- A name that occurs once is found with its value. -/
theorem lookup_of_mem {members : List (String × Value)} (hkeys : (members.map Prod.fst).Nodup)
    {e : String × Value} (he : e ∈ members) : members.lookup e.1 = some e.2 := by
  induction members with
  | nil => exact absurd he List.not_mem_nil
  | cons d rest ih =>
      rw [List.map_cons, List.nodup_cons] at hkeys
      rw [List.lookup_cons]
      rcases List.mem_cons.mp he with rfl | he
      · rw [beq_self_eq_true]
      · have hne : e.1 ≠ d.1 := fun h => hkeys.1 (h ▸ List.mem_map_of_mem he)
        rw [beq_eq_false_iff_ne.mpr hne]
        exact ih hkeys.2 he

/-- The members of a record that was written without a name twice. -/
theorem jsonObject_members {v : Value} {members : List (String × Value)} {names : List String}
    (hv : v = jsonObject members) (hnames : (members.map Prod.fst).Sublist names)
    (hnodup : names.Nodup) :
    ∃ m, v = .object m ∧ m.map Prod.fst = (members.map Prod.fst).map String.toList ∧
      (∀ name, structMember m name = some (members.lookup name)) ∧
      ∀ e ∈ members, Finds m e := by
  refine ⟨_, hv, ?_, structMember_jsonObject hnames hnodup, fun e he => ?_⟩
  · simp only [List.map_map]
    rfl
  · have hfound := structMember_jsonObject hnames hnodup e.1
    rw [lookup_of_mem (hnodup.sublist hnames) he] at hfound
    intro α decode
    exact ⟨required_eq hfound, nullable_eq hfound⟩

/-! ### Fields -/

@[simp] theorem asStr_string (s : Str) : Value.asStr (.string s) = some s := rfl

@[simp] theorem asBool_bool (b : Bool) : Value.asBool (.bool b) = some b := rfl

/-- An integer that fits is read back. -/
theorem decodeUnsigned_jsonNat {bound n : Nat} (h : n < bound) :
    decodeUnsigned bound (jsonNat n) = some n := if_pos h

/-- A list is read back item by item. -/
theorem decodeList_map {α : Type} {decode : Value → Option α} {encode : α → Value} {f : α → α}
    {l : List α} (h : ∀ x ∈ l, decode (encode x) = some (f x)) :
    decodeList decode (.array (l.map encode)) = some (l.map f) := by
  change (l.map encode).mapM decode = some (l.map f)
  induction l with
  | nil => rfl
  | cons x rest ih =>
      rw [List.map_cons, List.mapM_cons, h x List.mem_cons_self,
        ih (fun y hy => h y (List.mem_cons_of_mem x hy))]
      rfl

/-- Lists whose items come back unchanged. -/
theorem decodeList_eq {α : Type} {decode : Value → Option α} {encode : α → Value} {l : List α}
    (h : ∀ x ∈ l, decode (encode x) = some x) :
    decodeList decode (.array (l.map encode)) = some l := by
  rw [decodeList_map h, List.map_id']

@[simp] theorem decodeStrings_stringArray (l : List Str) : decodeStrings (stringArray l) = some l :=
  decodeList_eq (fun _ _ => rfl)

/-- An optional field is read back, unless its value is written as null. -/
theorem decodeOptional_map {α : Type} {decode : Value → Option α} {encode : α → Value} {f : α → α}
    {o : Option α} (hnull : ∀ x, encode x ≠ .null) (h : ∀ x ∈ o, decode (encode x) = some (f x)) :
    decodeOptional decode (optional encode o) = some (o.map f) := by
  cases o with
  | none => rfl
  | some x =>
      have hsome : decodeOptional decode (encode x) = (decode (encode x)).map some := by
        have hne := hnull x
        unfold decodeOptional
        split
        · rename_i heq
          exact absurd heq hne
        · rfl
      change decodeOptional decode (encode x) = _
      rw [hsome, h x rfl]
      rfl

/-- Optional fields whose values come back unchanged. -/
theorem decodeOptional_eq {α : Type} {decode : Value → Option α} {encode : α → Value} {o : Option α}
    (hnull : ∀ x, encode x ≠ .null) (h : ∀ x ∈ o, decode (encode x) = some x) :
    decodeOptional decode (optional encode o) = some o := by
  rw [decodeOptional_map hnull h, Option.map_id']

@[simp] theorem decodeOptional_string (o : Option Str) :
    decodeOptional Value.asStr (optional .string o) = some o := by
  cases o <;> rfl

/-- An optional integer that fits is read back. -/
theorem decodeOptional_nat {bound : Nat} {o : Option Nat} (h : ∀ n ∈ o, n < bound) :
    decodeOptional (decodeUnsigned bound) (optional jsonNat o) = some o :=
  decodeOptional_eq (fun _ => Value.noConfusion) (fun n hn => decodeUnsigned_jsonNat (h n hn))

/-- An optional value as it is read back: null is absent. -/
def forgetNull : Option Value → Option Value
  | some .null => none
  | v => v

/-- An optional JSON value is read back without its null. -/
theorem decodeOptional_value {o : Option Value} (h : ∀ v ∈ o, v.canonical = v) :
    decodeOptional decodeValue (optional id o) = some (forgetNull o) := by
  cases o with
  | none => rfl
  | some v =>
      have hv := h v rfl
      cases v with
      | null => rfl
      | bool b => rfl
      | number n => rfl
      | string s => rfl
      | array items => exact congrArg (fun w => some (some w)) hv
      | object members => exact congrArg (fun w => some (some w)) hv

/-- A null that is forgotten is not written either. -/
theorem optional_forgetNull (o : Option Value) : optional id (forgetNull o) = optional id o := by
  rcases o with _ | _ | _ <;> rfl

@[simp] theorem riskClass_fromJson (r : RiskClass) : RiskClass.fromJson (.string r.text) = some r := by
  cases r <;> decide

/-! ### Request plans -/

/-- The length of a body fits. -/
def PlannedBody.Typed (b : PlannedBody) : Prop := b.bytes < u64Bound

/-- The value of a derivation is sorted. -/
def FieldDerivation.Typed (d : FieldDerivation) : Prop := d.logicalValue.canonical = d.logicalValue

/-- The values of a plan are sorted and its integers fit. -/
structure RequestPlan.Typed (p : RequestPlan) : Prop where
  body : ∀ b ∈ p.body, b.Typed
  responseContract : p.responseContract.canonical = p.responseContract
  derivations : ∀ d ∈ p.derivations, d.Typed
  exit : p.exit < u8Bound

/-- A planned body is read back. -/
theorem PlannedBody.fromJson_toJson {b : PlannedBody} (h : b.Typed) :
    PlannedBody.fromJson b.toJson = some b := by
  rcases jsonObject_members (rfl : b.toJson = jsonObject _) (List.Sublist.refl _) (by simp)
    with ⟨m, hjson, _, _, hm⟩
  simp only [List.forall_mem_cons, Finds] at hm
  simp only [PlannedBody.fromJson, hjson, structMembers, hm, some_bind, asStr_string,
    decodeUnsigned_jsonNat h, Option.pure_def]

/-- A planned header is read back. -/
theorem PlannedHeader.fromJson_toJson (x : PlannedHeader) :
    PlannedHeader.fromJson x.toJson = some x := by
  rcases jsonObject_members (rfl : x.toJson = jsonObject _) (List.Sublist.refl _) (by simp)
    with ⟨m, hjson, _, _, hm⟩
  simp only [List.forall_mem_cons, Finds] at hm
  simp only [PlannedHeader.fromJson, hjson, structMembers, hm, some_bind, asStr_string,
    Option.pure_def]

/-- A planned authentication is read back. -/
theorem PlannedAuth.fromJson_toJson (a : PlannedAuth) : PlannedAuth.fromJson a.toJson = some a := by
  rcases jsonObject_members (rfl : a.toJson = jsonObject _) (List.Sublist.refl _) (by simp)
    with ⟨m, hjson, _, _, hm⟩
  simp only [List.forall_mem_cons, Finds] at hm
  simp only [PlannedAuth.fromJson, hjson, structMembers, hm,
    some_bind, asStr_string,
    decodeOptional_string, decodeStrings_stringArray, Option.pure_def]

/-- A derivation is read back. -/
theorem FieldDerivation.fromJson_toJson {d : FieldDerivation} (h : d.Typed) :
    FieldDerivation.fromJson d.toJson = some d := by
  rcases jsonObject_members (rfl : d.toJson = jsonObject _) (List.Sublist.refl _) (by simp)
    with ⟨m, hjson, _, _, hm⟩
  simp only [List.forall_mem_cons, Finds] at hm
  have hvalue : decodeValue d.logicalValue = some d.logicalValue := congrArg some h
  simp only [FieldDerivation.fromJson, hjson, structMembers, hm,
    some_bind, asStr_string, decodeOptional_string, hvalue,
    decodeStrings_stringArray, Option.pure_def]

theorem RequestPlan.fields_nodup : RequestPlan.fields.Nodup := by decide +kernel


theorem RequestPlan.fromJson_toJson {p : RequestPlan} (h : p.Typed) :
    RequestPlan.fromJson p.toJson = some p := by
  rcases jsonObject_members (rfl : p.toJson = jsonObject _) (List.Sublist.refl _)
    RequestPlan.fields_nodup with ⟨m, hjson, _, _, hm⟩
  simp only [List.forall_mem_cons, Finds] at hm
  have hheaders := @decodeList_eq _ PlannedHeader.fromJson PlannedHeader.toJson p.headers
    (fun x _ => x.fromJson_toJson)
  have hauth := @decodeOptional_eq _ PlannedAuth.fromJson PlannedAuth.toJson p.auth
    (fun _ => Value.noConfusion) (fun a _ => a.fromJson_toJson)
  have hbody := @decodeOptional_eq _ PlannedBody.fromJson PlannedBody.toJson p.body
    (fun _ => Value.noConfusion) (fun b hb => PlannedBody.fromJson_toJson (h.body b hb))
  have hderivations := @decodeList_eq _ FieldDerivation.fromJson FieldDerivation.toJson
    p.derivations (fun d hd => FieldDerivation.fromJson_toJson (h.derivations d hd))
  have hcontract : decodeValue p.responseContract = some p.responseContract :=
    congrArg some h.responseContract
  simp only [RequestPlan.fromJson, hjson, structMembers, hm, some_bind, asStr_string, asBool_bool, riskClass_fromJson, hheaders,
    hauth, hbody, hderivations, hcontract, decodeStrings_stringArray,
    decodeUnsigned_jsonNat h.exit, Option.pure_def]

/-! ### WebSocket plans -/

/-- The integers of the limits fit. -/
def WebSocketLimits.Typed (l : WebSocketLimits) : Prop :=
  ∀ n ∈ [l.connectTimeoutMs, l.actionTimeoutMs, l.idleTimeoutMs, l.closeTimeoutMs,
    l.totalTimeoutMs, l.maxFrameBytes, l.maxMessageBytes, l.maxInboundFrames, l.maxOutboundFrames,
    l.maxInboundMessages, l.maxOutboundMessages, l.maxInboundBytes, l.maxOutboundBytes],
    n < u64Bound

/-- The values of an action are sorted and its integers fit. -/
def WebSocketAction.Typed : WebSocketAction → Prop
  | expectText _ timeout | expectBinary _ timeout | expectPong _ timeout =>
      ∀ n ∈ timeout, n < u64Bound
  | expectJson _ equals schema timeout =>
      (∀ v ∈ equals, v.canonical = v) ∧ (∀ v ∈ schema, v.canonical = v) ∧
        ∀ n ∈ timeout, n < u64Bound
  | close code _ => code < u16Bound
  | expectClose codes _ timeout => (∀ n ∈ codes, n < u16Bound) ∧ ∀ n ∈ timeout, n < u64Bound
  | _ => True

/-- The values of a session are sorted and its integers fit. -/
structure WebSocketPlan.Typed (p : WebSocketPlan) : Prop where
  limits : p.limits.Typed
  actions : ∀ a ∈ p.actions, a.Typed
  exit : p.exit < u8Bound

/-- An action as it is read back. -/
def WebSocketAction.forgetNulls : WebSocketAction → WebSocketAction
  | expectJson pointer equals schema timeout =>
      expectJson pointer (forgetNull equals) (forgetNull schema) timeout
  | a => a

/-- A session as it is read back. -/
def WebSocketPlan.forgetNulls (p : WebSocketPlan) : WebSocketPlan :=
  { p with actions := p.actions.map WebSocketAction.forgetNulls }

/-- A record with known names only is let through. -/
theorem denyUnknown_eq {names known : List String} {m : List (Str × Value)}
    (h : m.map Prod.fst = names.map String.toList) (hsub : names ⊆ known) :
    denyUnknown known m = some () := by
  have hall : m.all (fun e => (known.map String.toList).contains e.1) = true := by
    rw [List.all_eq_true]
    intro e he
    rw [List.contains_iff_mem]
    exact List.map_subset String.toList hsub (h ▸ List.mem_map_of_mem he)
  rw [denyUnknown, if_pos hall]

theorem WebSocketLimits.fields_nodup : WebSocketLimits.fields.Nodup := by decide +kernel

/-- The limits are read back. -/
theorem WebSocketLimits.fromJson_toJson {l : WebSocketLimits} (h : l.Typed) :
    WebSocketLimits.fromJson l.toJson = some l := by
  rcases jsonObject_members (rfl : l.toJson = jsonObject _) (List.Sublist.refl _)
    WebSocketLimits.fields_nodup with ⟨m, hjson, hkeys, _, hm⟩
  have hknown : denyUnknown WebSocketLimits.fields m = some () :=
    denyUnknown_eq hkeys (List.Subset.refl _)
  simp only [List.forall_mem_cons, Finds] at hm
  -- Every bound of `Typed` is a rewriting rule of its field.
  simp only [Typed, List.forall_mem_cons] at h
  have hnat : ∀ {n}, n < u64Bound → decodeUnsigned u64Bound (jsonNat n) = some n :=
    decodeUnsigned_jsonNat
  simp only [WebSocketLimits.fromJson, hjson, structMembers, hm, hknown, some_bind, hnat, h,
    Option.pure_def]

/-- The tag of an action that was written. -/
theorem actionTag_jsonObject {tag : String} {rest : List (String × Value)}
    (h : "type" ∉ rest.map Prod.fst) :
    actionTag (jsonObject (("type", .string tag) :: rest)) = some (tag.toList, jsonObject rest) := by
  -- The tag is the only member named so, and it is taken out.
  have hrest : ∀ e ∈ rest.map (fun e => (e.1.toList, e.2)), e.1 ≠ "type".toList := by
    intro e he heq
    rcases List.mem_map.mp he with ⟨d, hd, rfl⟩
    exact h (List.mem_map.mpr ⟨d, hd, toList_injective heq⟩)
  have htype : structMember (("type".toList, .string tag) ::
      rest.map (fun e => (e.1.toList, e.2))) "type" = some (some (.string tag)) := by
    rw [structMember, List.filter_cons_of_pos (by simp), List.filter_eq_nil_iff.mpr]
    intro e he
    rw [decide_eq_true_eq]
    exact hrest e he
  have hfilter : (("type".toList, Value.string tag) :: rest.map (fun e => (e.1.toList, e.2))).filter
      (fun e => decide (e.1 ≠ "type".toList)) = rest.map (fun e => (e.1.toList, e.2)) := by
    rw [List.filter_cons_of_neg (by simp), List.filter_eq_self]
    intro e he
    exact decide_eq_true (hrest e he)
  rw [jsonObject, List.map_cons, actionTag, htype]
  simp only [hfilter]
  rfl

/-- The other members of an action that was written. -/
theorem actionMembers_jsonObject {members : List (String × Value)} {names : List String}
    (hnames : members.map Prod.fst = names) (hnodup : names.Nodup) :
    ∃ m, actionMembers names (jsonObject members) = some m ∧
      ∀ e ∈ members, Finds m e := by
  rcases jsonObject_members (rfl : jsonObject members = jsonObject _)
    (hnames ▸ List.Sublist.refl _) hnodup with ⟨m, hjson, hkeys, _, hm⟩
  refine ⟨m, ?_, hm⟩
  rw [actionMembers, hjson, structMembers, some_bind,
    denyUnknown_eq hkeys (hnames ▸ List.Subset.refl _)]
  rfl

/-- An action is read by its tag from its other members. -/
theorem WebSocketAction.fromJson_jsonObject {tag : String} {rest : List (String × Value)}
    (h : "type" ∉ rest.map Prod.fst) :
    WebSocketAction.fromJson (jsonObject (("type", .string tag) :: rest)) =
      WebSocketAction.decode tag.toList (jsonObject rest) := by
  rw [fromJson, actionTag_jsonObject h]
  rfl

/-- An action is read back, without the nulls in it. -/
theorem WebSocketAction.fromJson_toJson {a : WebSocketAction} (h : a.Typed) :
    WebSocketAction.fromJson a.toJson = some a.forgetNulls := by
  -- Each action is read by its tag, and every member is found under its name.
  cases a with
  | sendText text =>
      rcases @actionMembers_jsonObject [("text", .string text)] _ rfl (by simp) with ⟨m, hmem, hm⟩
      simp only [List.forall_mem_cons, List.map_cons, List.map_nil, Finds] at hmem hm
      rw [toJson, fromJson_jsonObject (by simp), decode]
      simp +decide only [reduceIte, hmem, hm, some_bind, asStr_string, Option.pure_def, forgetNulls]
  | sendBinary payload | ping payload =>
      rcases @actionMembers_jsonObject [("payload_base64", .string payload)] _ rfl (by simp)
        with ⟨m, hmem, hm⟩
      simp only [List.forall_mem_cons, List.map_cons, List.map_nil, Finds] at hmem hm
      rw [toJson, fromJson_jsonObject (by simp), decode]
      simp +decide only [reduceIte, hmem, hm, some_bind, asStr_string, Option.pure_def, forgetNulls]
  | expectText equals timeout =>
      rcases @actionMembers_jsonObject [("equals", .string equals),
        ("timeout_ms", optional jsonNat timeout)] _ rfl (by simp) with ⟨m, hmem, hm⟩
      simp only [List.forall_mem_cons, List.map_cons, List.map_nil, Finds] at hmem hm
      rw [toJson, fromJson_jsonObject (by simp), decode]
      simp +decide only [reduceIte, hmem, hm, some_bind, asStr_string, decodeOptional_nat h,
        Option.pure_def, forgetNulls]
  | expectBinary payload timeout | expectPong payload timeout =>
      rcases @actionMembers_jsonObject [("payload_base64", .string payload),
        ("timeout_ms", optional jsonNat timeout)] _ rfl (by simp) with ⟨m, hmem, hm⟩
      simp only [List.forall_mem_cons, List.map_cons, List.map_nil, Finds] at hmem hm
      rw [toJson, fromJson_jsonObject (by simp), decode]
      simp +decide only [reduceIte, hmem, hm, some_bind, asStr_string, decodeOptional_nat h,
        Option.pure_def, forgetNulls]
  | expectJson pointer equals schema timeout =>
      rcases @actionMembers_jsonObject [("pointer", optional .string pointer),
        ("equals", optional id equals), ("schema", optional id schema),
        ("timeout_ms", optional jsonNat timeout)] _ rfl (by simp) with ⟨m, hmem, hm⟩
      simp only [List.forall_mem_cons, List.map_cons, List.map_nil, Finds] at hmem hm
      rw [toJson, fromJson_jsonObject (by simp), decode]
      simp +decide only [reduceIte, hmem, hm, some_bind, decodeOptional_string,
        decodeOptional_value h.1, decodeOptional_value h.2.1, decodeOptional_nat h.2.2,
        Option.pure_def, forgetNulls]
  | close code reason =>
      rcases @actionMembers_jsonObject [("code", jsonNat code), ("reason", .string reason)] _ rfl
        (by simp) with ⟨m, hmem, hm⟩
      simp only [List.forall_mem_cons, List.map_cons, List.map_nil, Finds] at hmem hm
      rw [toJson, fromJson_jsonObject (by simp), decode]
      simp +decide only [reduceIte, hmem, hm, some_bind, asStr_string, decodeUnsigned_jsonNat h,
        Option.pure_def, forgetNulls]
  -- The accepted codes are decoded one by one.
  | expectClose codes reason timeout =>
      have hcodes := @decodeList_eq _ (decodeUnsigned u16Bound) jsonNat codes
        (fun n hn => decodeUnsigned_jsonNat (h.1 n hn))
      rcases @actionMembers_jsonObject [("codes", .array (codes.map jsonNat)),
        ("reason", optional .string reason), ("timeout_ms", optional jsonNat timeout)] _ rfl
        (by simp) with ⟨m, hmem, hm⟩
      simp only [List.forall_mem_cons, List.map_cons, List.map_nil, Finds] at hmem hm
      rw [toJson, fromJson_jsonObject (by simp), decode]
      simp +decide only [reduceIte, hmem, hm, some_bind, hcodes, decodeOptional_string,
        decodeOptional_nat h.2, Option.pure_def, forgetNulls]

theorem WebSocketPlan.fields_nodup : WebSocketPlan.fields.Nodup := by decide +kernel

/-- A session is read back, without the nulls in its actions. -/
theorem WebSocketPlan.fromJson_toJson {p : WebSocketPlan} (h : p.Typed) :
    WebSocketPlan.fromJson p.toJson = some p.forgetNulls := by
  rcases jsonObject_members (rfl : p.toJson = jsonObject _) (List.Sublist.refl _)
    WebSocketPlan.fields_nodup with ⟨m, hjson, _, _, hm⟩
  simp only [List.forall_mem_cons, Finds] at hm
  have hheaders := @decodeList_eq _ PlannedHeader.fromJson PlannedHeader.toJson p.headers
    (fun x _ => x.fromJson_toJson)
  have hauth := @decodeOptional_eq _ PlannedAuth.fromJson PlannedAuth.toJson p.auth
    (fun _ => Value.noConfusion) (fun a _ => a.fromJson_toJson)
  have hactions := @decodeList_map _ WebSocketAction.fromJson WebSocketAction.toJson
    WebSocketAction.forgetNulls p.actions (fun a ha => WebSocketAction.fromJson_toJson (h.actions a ha))
  simp only [WebSocketPlan.fromJson, hjson, structMembers, hm, some_bind, asStr_string, asBool_bool,
    riskClass_fromJson, hheaders, hauth, hactions, WebSocketLimits.fromJson_toJson h.limits,
    decodeOptional_string, decodeStrings_stringArray, decodeUnsigned_jsonNat h.exit,
    Option.pure_def, forgetNulls]

/-! ### Workflow plans -/

/-- The values of a step are sorted and its integers fit. -/
structure WorkflowStepTemplate.Typed (t : WorkflowStepTemplate) : Prop where
  sourceDocument : t.sourceDocument.canonical = t.sourceDocument
  parameters : ∀ b ∈ t.parameters, b.value.canonical = b.value
  requestBody : ∀ v ∈ t.requestBody, v.canonical = v
  outputs : canonicalMembers [] t.outputs = t.outputs
  successCriteria : ∀ v ∈ t.successCriteria, v.canonical = v
  onSuccess : ∀ v ∈ t.onSuccess, v.canonical = v
  onFailure : ∀ v ∈ t.onFailure, v.canonical = v
  timeoutMs : ∀ n ∈ t.timeoutMs, n < u64Bound
  websocketPlan : ∀ p ∈ t.websocketPlan, p.Typed
  websocketBindings : ∀ b ∈ t.websocketBindings, b.value.canonical = b.value

/-- The values of a workflow are sorted and its integers fit. -/
structure WorkflowPlan.Typed (p : WorkflowPlan) : Prop where
  input : p.input.canonical = p.input
  steps : ∀ t ∈ p.steps, t.Typed
  exit : p.exit < u8Bound

/-- A step as it is read back. -/
def WorkflowStepTemplate.forgetNulls (t : WorkflowStepTemplate) : WorkflowStepTemplate :=
  { t with
    requestBody := forgetNull t.requestBody
    websocketPlan := t.websocketPlan.map WebSocketPlan.forgetNulls }

/-- A workflow as it is read back. -/
def WorkflowPlan.forgetNulls (p : WorkflowPlan) : WorkflowPlan :=
  { p with steps := p.steps.map WorkflowStepTemplate.forgetNulls }

/-- The binding of a parameter is read back. -/
theorem WorkflowParameterBinding.fromJson_toJson {b : WorkflowParameterBinding}
    (h : b.value.canonical = b.value) : WorkflowParameterBinding.fromJson b.toJson = some b := by
  rcases jsonObject_members (rfl : b.toJson = jsonObject _) (List.Sublist.refl _) (by simp)
    with ⟨m, hjson, _, _, hm⟩
  simp only [List.forall_mem_cons, Finds] at hm
  have hvalue : decodeValue b.value = some b.value := congrArg some h
  simp only [WorkflowParameterBinding.fromJson, hjson, structMembers, hm, some_bind, asStr_string,
    decodeOptional_string, hvalue, Option.pure_def]

/-- The binding of a session is read back. -/
theorem WorkflowWebSocketBinding.fromJson_toJson {b : WorkflowWebSocketBinding}
    (h : b.value.canonical = b.value) : WorkflowWebSocketBinding.fromJson b.toJson = some b := by
  rcases jsonObject_members (rfl : b.toJson = jsonObject _) (List.Sublist.refl _) (by simp)
    with ⟨m, hjson, _, _, hm⟩
  simp only [List.forall_mem_cons, Finds] at hm
  have hvalue : decodeValue b.value = some b.value := congrArg some h
  simp only [WorkflowWebSocketBinding.fromJson, hjson, structMembers, hm, some_bind, asStr_string,
    hvalue, Option.pure_def]

/-- Sorted values are read back. -/
theorem decodeValues_eq {l : List Value} (h : ∀ v ∈ l, v.canonical = v) :
    decodeList decodeValue (.array l) = some l := by
  have hlist := @decodeList_eq _ decodeValue id l (fun v hv => congrArg some (h v hv))
  rwa [List.map_id] at hlist

@[simp] theorem transport_fromJson (t : WorkflowStepTransport) :
    WorkflowStepTransport.fromJson (.string t.text) = some t := by
  cases t <;> decide

theorem WorkflowStepTemplate.fields_nodup : WorkflowStepTemplate.fields.Nodup := by decide +kernel

/-- The members a session step has besides the others. -/
theorem WorkflowStepTemplate.websocketMembers_names (t : WorkflowStepTemplate) :
    (t.websocketMembers.map Prod.fst).Sublist
      ["transport", "websocket_plan", "websocket_bindings"] := by
  have hwhen : ∀ (c : Prop) [Decidable c] (name : String) (v : Value),
      ((if c then [] else [(name, v)]).map Prod.fst).Sublist [name] := by
    intro c _ name v
    split
    · exact List.nil_sublist _
    · exact List.Sublist.refl _
  have hplan : ((t.websocketPlan.toList.map (fun p => ("websocket_plan", p.toJson))).map
      Prod.fst).Sublist ["websocket_plan"] := by
    cases t.websocketPlan with
    | none => exact List.nil_sublist _
    | some p => exact List.Sublist.refl _
  rw [websocketMembers, List.map_append, List.map_append]
  exact ((hwhen _ _ _).append hplan).append (hwhen _ _ _)

/-- They are found where the step has them. -/
theorem WorkflowStepTemplate.websocketMembers_lookup (t : WorkflowStepTemplate) :
    t.websocketMembers.lookup "transport" =
        (if t.transport = .http then none else some (.string t.transport.text)) ∧
      t.websocketMembers.lookup "websocket_plan" = t.websocketPlan.map WebSocketPlan.toJson ∧
      t.websocketMembers.lookup "websocket_bindings" = (if t.websocketBindings.isEmpty then none
        else some (.array (t.websocketBindings.map WorkflowWebSocketBinding.toJson))) := by
  unfold websocketMembers
  by_cases htransport : t.transport = .http <;> cases t.websocketPlan <;>
    by_cases hbindings : t.websocketBindings.isEmpty <;>
    simp [htransport, hbindings, List.lookup_cons]

/-- A step is read back, without the null of its body. -/
theorem WorkflowStepTemplate.fromJson_toJson {t : WorkflowStepTemplate} (h : t.Typed) :
    WorkflowStepTemplate.fromJson t.toJson = some t.forgetNulls := by
  have hnames := (List.Sublist.refl ["step_id", "source_name", "source_document",
    "source_fingerprint", "operation", "parameters", "request_body", "outputs", "deferred_bindings",
    "depends_on", "success_criteria", "on_success", "on_failure", "timeout_ms"]).append
    t.websocketMembers_names
  rcases jsonObject_members (rfl : t.toJson = jsonObject _) (by rw [List.map_append]; exact hnames)
    fields_nodup with ⟨m, hjson, _, hlookup, hm⟩
  rw [List.forall_mem_append] at hm
  replace hm := hm.1
  simp only [List.forall_mem_cons, Finds] at hm
  rcases t.websocketMembers_lookup with ⟨htransport, hplan, hbindings⟩
  have hparameters := @decodeList_eq _ WorkflowParameterBinding.fromJson
    WorkflowParameterBinding.toJson t.parameters
    (fun b hb => WorkflowParameterBinding.fromJson_toJson (h.parameters b hb))
  have houtputs : decodeMap (.object t.outputs) = some t.outputs := congrArg some h.outputs
  have hdocument : decodeValue t.sourceDocument = some t.sourceDocument :=
    congrArg some h.sourceDocument
  -- The three fields that may be left out.
  have htransport : defaulted .http WorkflowStepTransport.fromJson m "transport" =
      some t.transport := by
    rw [defaulted, hlookup, List.lookup_append]
    simp only [List.lookup_cons, List.lookup_nil, String.reduceBEq, Option.none_or, htransport]
    cases ht : t.transport with
    | http => rfl
    | webSocket => exact transport_fromJson .webSocket
  have hplan : nullable WebSocketPlan.fromJson m "websocket_plan" =
      some (t.websocketPlan.map WebSocketPlan.forgetNulls) := by
    rw [nullable, hlookup, List.lookup_append]
    simp only [List.lookup_cons, List.lookup_nil, String.reduceBEq, Option.none_or, hplan]
    cases ht : t.websocketPlan with
    | none => rfl
    | some p =>
        have hp := WebSocketPlan.fromJson_toJson (h.websocketPlan p ht)
        exact @decodeOptional_map _ WebSocketPlan.fromJson WebSocketPlan.toJson
          WebSocketPlan.forgetNulls (some p) (fun _ => Value.noConfusion)
          (fun q hq => (Option.mem_some_iff.mp hq) ▸ hp)
  have hbindings : defaulted [] (decodeList WorkflowWebSocketBinding.fromJson) m
      "websocket_bindings" = some t.websocketBindings := by
    rw [defaulted, hlookup, List.lookup_append]
    simp only [List.lookup_cons, List.lookup_nil, String.reduceBEq, Option.none_or, hbindings]
    cases ht : t.websocketBindings with
    | nil => rfl
    | cons b rest =>
        exact decodeList_eq (fun b hb => WorkflowWebSocketBinding.fromJson_toJson
          (h.websocketBindings b (ht ▸ hb)))
  simp only [fromJson, hjson, structMembers, hm, some_bind, asStr_string, hparameters, hdocument,
    houtputs, htransport, hplan, hbindings, decodeStrings_stringArray,
    decodeOptional_value h.requestBody, decodeOptional_nat h.timeoutMs,
    decodeValues_eq h.successCriteria, decodeValues_eq h.onSuccess, decodeValues_eq h.onFailure,
    Option.pure_def, forgetNulls]

theorem WorkflowPlan.fields_nodup : WorkflowPlan.fields.Nodup := by decide +kernel

/-- A workflow is read back, without the nulls of its steps. -/
theorem WorkflowPlan.fromJson_toJson {p : WorkflowPlan} (h : p.Typed) :
    WorkflowPlan.fromJson p.toJson = some p.forgetNulls := by
  -- The fingerprint of the WebSocket policy is a member only when it is set.
  have hpolicy : ((p.websocketPolicyFingerprint.toList.map
      (fun f => ("websocket_policy_fingerprint", Value.string f))).map Prod.fst).Sublist
      ["websocket_policy_fingerprint"] := by
    cases p.websocketPolicyFingerprint with
    | none => exact List.nil_sublist _
    | some f => exact List.Sublist.refl _
  have hnames := ((List.Sublist.refl ["protocol", "kind", "version", "config_fingerprint",
    "policy_fingerprint", "source_fingerprints", "id", "workflow", "input", "steps", "risk",
    "required_grants", "auth", "server", "checks"]).append hpolicy).append
    (List.Sublist.refl ["fingerprint", "exit"])
  rcases jsonObject_members (rfl : p.toJson = jsonObject _)
    (by rw [List.map_append, List.map_append]; exact hnames) fields_nodup
    with ⟨m, hjson, _, hlookup, hm⟩
  rw [List.forall_mem_append, List.forall_mem_append] at hm
  rcases hm with ⟨⟨hm, _⟩, hlast⟩
  simp only [List.forall_mem_cons, Finds] at hm hlast
  -- The steps are read back each by its own decoder.
  have hsteps := @decodeList_map _ WorkflowStepTemplate.fromJson WorkflowStepTemplate.toJson
    WorkflowStepTemplate.forgetNulls p.steps
    (fun t ht => WorkflowStepTemplate.fromJson_toJson (h.steps t ht))
  have hinput : decodeValue p.input = some p.input := congrArg some h.input
  have hpolicy : nullable Value.asStr m "websocket_policy_fingerprint" =
      some p.websocketPolicyFingerprint := by
    rw [nullable, hlookup, List.lookup_append, List.lookup_append]
    cases hp : p.websocketPolicyFingerprint <;> simp [List.lookup_cons, decodeOptional]
  simp only [fromJson, hjson, structMembers, hm, hlast, some_bind, asStr_string, riskClass_fromJson,
    hinput, hsteps, hpolicy, decodeOptional_string, decodeStrings_stringArray,
    decodeUnsigned_jsonNat h.exit, Option.pure_def, forgetNulls]

/-! ### Conformance plans -/

/-- The integers of a campaign fit. -/
structure ConformancePlan.Typed (p : ConformancePlan) : Prop where
  seed : p.seed < u64Bound
  requestedCases : p.requestedCases < u64Bound
  delayMs : p.delayMs < u64Bound
  maxFailures : p.maxFailures < u64Bound
  exit : p.exit < u8Bound

@[simp] theorem generation_fromJson (g : ConformanceGeneration) :
    decodeVariant ConformanceGeneration.text [.positive, .negative] (.string g.text) = some g := by
  cases g <;> decide

/-- A case is read back. -/
theorem ConformanceCasePlan.fromJson_toJson (c : ConformanceCasePlan) :
    ConformanceCasePlan.fromJson c.toJson = some c := by
  rcases jsonObject_members (rfl : c.toJson = jsonObject _) (List.Sublist.refl _) (by simp)
    with ⟨m, hjson, _, _, hm⟩
  simp only [List.forall_mem_cons, Finds] at hm
  simp only [ConformanceCasePlan.fromJson, hjson, structMembers, hm, some_bind, asStr_string,
    generation_fromJson, Option.pure_def]

theorem ConformancePlan.fields_nodup : ConformancePlan.fields.Nodup := by decide +kernel

/-- A campaign is read back. -/
theorem ConformancePlan.fromJson_toJson {p : ConformancePlan} (h : p.Typed) :
    ConformancePlan.fromJson p.toJson = some p := by
  rcases jsonObject_members (rfl : p.toJson = jsonObject _) (List.Sublist.refl _) fields_nodup
    with ⟨m, hjson, _, _, hm⟩
  simp only [List.forall_mem_cons, Finds] at hm
  have hcases := @decodeList_eq _ ConformanceCasePlan.fromJson ConformanceCasePlan.toJson p.cases
    (fun c _ => c.fromJson_toJson)
  simp only [fromJson, hjson, structMembers, hm, some_bind, asStr_string, riskClass_fromJson,
    hcases, decodeStrings_stringArray, decodeUnsigned_jsonNat h.seed,
    decodeUnsigned_jsonNat h.requestedCases, decodeUnsigned_jsonNat h.delayMs,
    decodeUnsigned_jsonNat h.maxFailures, decodeUnsigned_jsonNat h.exit, Option.pure_def]

end Kahea
