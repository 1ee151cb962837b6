import Kahea.Plan.Session

/-!
# Effective Limits

What the planner makes of the limits and the timeouts of a session source.

The policy's maxima and the requested limits pass the same two tests as the
limits of a plan, and the tests survive the smaller value of each field. So the
limits of an assembled plan are never what sealing it fails on, and neither is
a timeout, since each is filled in or bounded by the limit it is compared with.

## Main definitions

* `WebSocketLimits.Within`: Limits below limits, field by field.
* `WebSocketAction.timeout`: The timeout of an expectation.

## Theorems

* `validateWebsocketLimits_ok_iff`: When limits pass.
* `effectiveWebsocketLimits_ok`: What effective limits are.
* `assembled_timeouts`: The timeouts of an assembled plan pass.
* `limits_clamped`: The clamping of limits and timeouts is sound.
-/

namespace Kahea

/-- Every limit is at most the other. -/
def WebSocketLimits.Within (a b : WebSocketLimits) : Prop := List.Forall₂ (· ≤ ·) a.values b.values

/-- The timeout of an expectation, if the action is one. -/
def WebSocketAction.timeout : WebSocketAction → Option (Option Nat)
  | expectText _ timeout | expectBinary _ timeout | expectJson _ _ _ timeout
  | expectPong _ timeout | expectClose _ _ timeout => some timeout
  | _ => none

section

variable {limits requested : WebSocketLimits} {c : ProjectConfiguration}

/-! ### Limits -/

/-- Limits pass the tests of a plan when they pass those of the planner. -/
theorem validateWebsocketLimits_ok_iff :
    validateWebsocketLimits limits = .ok () ↔
      0 ∉ limits.values ∧ limits.contradict = false := by
  have hpositive : (limits.values.contains 0) = false ↔ 0 ∉ limits.values := by
    rw [Bool.eq_false_iff, Ne, List.contains_iff_mem]
  rw [← hpositive]
  unfold validateWebsocketLimits
  rw [unit_bind_ok, ensure_ok, ensure_ok, Bool.not_eq_true', Bool.not_eq_true']
  rfl

theorem within_min_left (a b : WebSocketLimits) : (a.min b).Within a := by
  unfold WebSocketLimits.Within WebSocketLimits.values WebSocketLimits.min
  simp only [List.forall₂_cons, List.forall₂_nil_left_iff, and_true]
  exact ⟨Nat.min_le_left _ _, Nat.min_le_left _ _, Nat.min_le_left _ _, Nat.min_le_left _ _,
    Nat.min_le_left _ _, Nat.min_le_left _ _, Nat.min_le_left _ _, Nat.min_le_left _ _,
    Nat.min_le_left _ _, Nat.min_le_left _ _, Nat.min_le_left _ _, Nat.min_le_left _ _,
    Nat.min_le_left _ _⟩

theorem min_comm_limits (a b : WebSocketLimits) : a.min b = b.min a := by
  simp only [WebSocketLimits.min, Nat.min_comm]

theorem within_min_right (a b : WebSocketLimits) : (a.min b).Within b := by
  rw [min_comm_limits]
  exact within_min_left b a

/-- The smaller of two positive values is positive. -/
theorem positive_min {a b : WebSocketLimits} (ha : 0 ∉ a.values) (hb : 0 ∉ b.values) :
    0 ∉ (a.min b).values := by
  have hzip : (a.min b).values = List.zipWith Nat.min a.values b.values := rfl
  rw [hzip]
  intro hmem
  rcases List.mem_iff_getElem.mp hmem with ⟨i, hi, hzero⟩
  rw [List.getElem_zipWith] at hzero
  rcases Nat.min_eq_zero_iff.mp hzero with h | h
  · exact ha (h ▸ List.getElem_mem _)
  · exact hb (h ▸ List.getElem_mem _)

theorem contradict_eq_false_iff (l : WebSocketLimits) :
    l.contradict = false ↔
      l.maxFrameBytes ≤ l.maxMessageBytes ∧ l.connectTimeoutMs ≤ l.totalTimeoutMs ∧
        l.actionTimeoutMs ≤ l.totalTimeoutMs ∧ l.idleTimeoutMs ≤ l.totalTimeoutMs ∧
          l.closeTimeoutMs ≤ l.totalTimeoutMs := by
  simp only [WebSocketLimits.contradict, Bool.or_eq_false_iff, decide_eq_false_iff_not, Nat.not_lt,
    and_assoc]

/-- The relations between the fields survive the smaller value of each. -/
theorem consistent_min {a b : WebSocketLimits} (ha : a.contradict = false)
    (hb : b.contradict = false) : (a.min b).contradict = false := by
  rw [contradict_eq_false_iff] at ha hb ⊢
  have hmono : ∀ {w x y z : Nat}, w ≤ x → y ≤ z → Nat.min w y ≤ Nat.min x z :=
    fun hwx hyz => Nat.le_min.mpr ⟨(Nat.min_le_left _ _).trans hwx, (Nat.min_le_right _ _).trans hyz⟩
  rcases ha with ⟨hframe, hconnect, haction, hidle, hclose⟩
  rcases hb with ⟨hframe', hconnect', haction', hidle', hclose'⟩
  exact ⟨hmono hframe hframe', hmono hconnect hconnect', hmono haction haction',
    hmono hidle hidle', hmono hclose hclose'⟩

/-- Effective limits are within the requested ones and the maxima, and pass. -/
theorem effectiveWebsocketLimits_ok (h : effectiveWebsocketLimits requested c = .ok limits) :
    limits.Within requested ∧ limits.Within c.policy.websocket.maxLimits ∧
      validateWebsocketLimits limits = .ok () := by
  simp only [effectiveWebsocketLimits, except_bind_ok, ensure_ok, except_pure_ok,
    Bool.not_eq_true', Bool.eq_false_iff, Ne, List.contains_iff_mem] at h
  rcases h with ⟨_, hmaximum, _, hconsistent, _, hrequested, _, hagrees, rfl⟩
  refine ⟨within_min_left _ _, within_min_right _ _, validateWebsocketLimits_ok_iff.mpr ?_⟩
  exact ⟨positive_min hrequested hmaximum,
    consistent_min (Bool.eq_false_iff.mpr hagrees) (Bool.eq_false_iff.mpr hconsistent)⟩

/-! ### Timeouts -/

/-- A tightened expectation has a timeout of at most the maximum. -/
theorem timeout_tighten {maximum : Nat} {action : WebSocketAction} {timeout : Option Nat}
    (h : (tightenWebsocketActionTimeout maximum action).timeout = some timeout) :
    ∃ original, action.timeout = some original ∧ timeout = tightenTimeout maximum original := by
  cases action <;> first
    | exact ⟨_, rfl, (Option.some.inj h).symm⟩
    | cases h

theorem tightenTimeout_le (maximum : Nat) (timeout : Option Nat) :
    ∃ value ≤ maximum, tightenTimeout maximum timeout = some value := by
  cases timeout with
  | none => exact ⟨maximum, le_rfl, rfl⟩
  | some value => exact ⟨Nat.min value maximum, Nat.min_le_right _ _, rfl⟩

/-- A positive timeout below a positive maximum stays positive. -/
theorem tightenTimeout_pos {maximum value : Nat} {timeout : Option Nat} (hmaximum : 0 < maximum)
    (hpositive : ∀ v ∈ timeout, 0 < v) (h : tightenTimeout maximum timeout = some value) :
    0 < value := by
  cases timeout with
  | none =>
      cases h
      exact hmaximum
  | some original =>
      cases h
      exact Nat.lt_min.mpr ⟨hpositive original rfl, hmaximum⟩

theorem validateActionTimeout_ok_iff {timeout : Option Nat} :
    validateActionTimeout timeout limits = .ok () ↔
      ∀ v ∈ timeout, 0 < v ∧ v ≤ limits.actionTimeoutMs := by
  rw [validateActionTimeout, ensure_ok]
  cases timeout with
  | none => exact iff_of_true rfl nofun
  | some value =>
      simp only [Option.any_some, Bool.not_eq_true', Bool.or_eq_false_iff, beq_eq_false_iff_ne,
        ne_eq, decide_eq_false_iff_not, Nat.not_lt, Option.mem_def, Option.some.injEq,
        forall_eq', Nat.pos_iff_ne_zero]

@[simp] theorem timeout_normalizeAction (action : WebSocketAction) :
    (WebSocketPlan.normalizeAction action).timeout = action.timeout := by
  cases action <;> rfl

end

/-! ### The clamping -/

section

variable {lib : Crates} {source : WebSocketSessionSource} {c : ProjectConfiguration}

/-- The limits of the planner's parts are the effective ones. -/
theorem sessionParts_limits {p : SessionParts} (h : sessionParts lib source c = .ok p) :
    effectiveWebsocketLimits source.limits c = .ok p.limits := by
  simp only [sessionParts, except_bind_ok, except_pure_ok, Prod.exists] at h
  rcases h with ⟨_, _, _, _, _, _, _, _, _, _, _, _, _, _, _, _, _, _, _, _, limits, hlimits, _, _, _, _,
    rfl⟩
  exact hlimits

/-- The timeouts of a plan that is assembled from positive ones pass. -/
theorem assembled_timeouts {p : SessionParts} (h : sessionParts lib source c = .ok p)
    (hpositive : ∀ action ∈ source.actions, ∀ value, action.timeout = some (some value) → 0 < value)
    {sourceFingerprints : List Str} {operation : Str} {action : WebSocketAction}
    (haction : action ∈ (p.assemble lib source c sourceFingerprints operation).normalize.actions)
    {timeout : Option Nat} (htimeout : action.timeout = some timeout) :
    validateActionTimeout timeout p.limits = .ok () := by
  have hvalid := (effectiveWebsocketLimits_ok (sessionParts_limits h)).2.2
  have hmaximum : 0 < p.limits.actionTimeoutMs := by
    rw [Nat.pos_iff_ne_zero]
    intro hzero
    refine (validateWebsocketLimits_ok_iff.mp hvalid).1 ?_
    rw [WebSocketLimits.values, hzero]
    exact List.mem_cons_of_mem _ List.mem_cons_self
  -- The action is a normalised, tightened action of the source.
  rcases List.mem_map.mp haction with ⟨tightened, htightened, rfl⟩
  rcases List.mem_map.mp htightened with ⟨original, horiginal, rfl⟩
  rw [timeout_normalizeAction] at htimeout
  rcases timeout_tighten htimeout with ⟨requested, hrequested, rfl⟩
  rcases tightenTimeout_le p.limits.actionTimeoutMs requested with ⟨value, hle, hvalue⟩
  refine validateActionTimeout_ok_iff.mpr (fun v hv => ?_)
  have hsame : value = v := Option.some.inj (hvalue.symm.trans hv)
  rw [← hsame]
  refine ⟨tightenTimeout_pos hmaximum (fun w hw => ?_) hvalue, hle⟩
  rw [Option.mem_def] at hw
  exact hpositive original horiginal w (by rw [hrequested, hw])

/-- The clamping is sound: effective limits are within what is requested and
    allowed, and pass; a tightened expectation has a timeout within the limit;
    and when a source with positive timeouts is sealed, its limits and every
    timeout pass the tests of the plan. -/
theorem limits_clamped (lib : Crates) (c : ProjectConfiguration) :
    (∀ requested limits, effectiveWebsocketLimits requested c = .ok limits →
      limits.Within requested ∧ limits.Within c.policy.websocket.maxLimits ∧
        validateWebsocketLimits limits = .ok ()) ∧
    (∀ actions maximum, ∀ action ∈ tightenWebsocketActionTimeouts actions maximum, ∀ timeout,
      action.timeout = some timeout → ∃ value ≤ maximum, timeout = some value) ∧
    (∀ source parts sourceFingerprints operation, sessionParts lib source c = .ok parts →
      (∀ action ∈ source.actions, ∀ value, action.timeout = some (some value) → 0 < value) →
      let plan := (parts.assemble lib source c sourceFingerprints operation).normalize
      validateWebsocketLimits plan.limits = .ok () ∧
        ∀ action ∈ plan.actions, ∀ timeout, action.timeout = some timeout →
          validateActionTimeout timeout plan.limits = .ok ()) := by
  refine ⟨fun _ _ h => effectiveWebsocketLimits_ok h, ?_, ?_⟩
  -- A timeout is lowered to the maximum.
  · intro actions maximum action haction timeout htimeout
    rcases List.mem_map.mp haction with ⟨original, _, rfl⟩
    rcases timeout_tighten htimeout with ⟨requested, _, rfl⟩
    exact tightenTimeout_le maximum requested
  -- The limits of a session are those that were clamped, and its timeouts fit them.
  · intro source parts sourceFingerprints operation hparts hpositive
    refine ⟨(effectiveWebsocketLimits_ok (sessionParts_limits hparts)).2.2, ?_⟩
    intro action haction timeout htimeout
    exact assembled_timeouts hparts hpositive haction htimeout

end

end Kahea
