import Kahea.Base.Order
import Kahea.Exec.Addresses
import Kahea.Exec.WebSocket

/-!
# The Binding of Planned Sessions

What the executor's test of a session plan makes of the plans of the planner.

The planner and the executor derive the grants and the checks of a session each
for itself, the one from the URL of the source, the other from the text of the
sealed target. They agree since the text of a URL is parsed into that URL
again, and since the checks are distinct, so that the normal form of a sealed
plan is just their sorted list.

## Theorems

* `boundGrants_subset`: The grants the executor asks for are planned.
* `handshakeChecks_nodup`: The checks of a session are distinct.
* `planned_session_bound`: The binding of a planned session is accepted.
-/

namespace Kahea

/-- The checks of a session are distinct. -/
theorem handshakeChecks_nodup (subprotocols : List Str) : (handshakeChecks subprotocols).Nodup := by
  -- The check of the subprotocols is told from the others by its second letter.
  have hsecond : ∀ text rest : Str, text = 's' :: 'u' :: rest →
      ["extensions:none".toList, "status:101".toList, text].Nodup := by
    intro text rest h
    refine List.nodup_cons.mpr ⟨?_, List.nodup_cons.mpr ⟨?_, List.nodup_singleton _⟩⟩
    · rw [h, List.mem_pair]
      rintro (heq | heq)
      · exact absurd heq (by decide)
      · exact absurd (List.cons.inj heq).1 (by decide)
    · rw [h, List.mem_singleton]
      intro heq
      exact absurd (List.cons.inj (List.cons.inj heq).2).1 (by decide)
  unfold handshakeChecks
  match subprotocols with
  | [] => exact (by decide : ["extensions:none".toList, "status:101".toList].Nodup)
  | [protocol] => exact hsecond _ _ rfl
  | first :: second :: rest => exact hsecond _ _ rfl

section

variable {lib : Crates} {source : WebSocketSessionSource} {c : ProjectConfiguration}

/-- The grants the executor asks for are among those of the planner. -/
theorem boundGrants_subset {parts : SessionParts} {plan : WebSocketPlan}
    (hauth : plan.auth = parts.auth) {g : Str}
    (hg : g ∈ boundGrants plan parts.target parts.host parts.port) :
    g ∈ parts.grants lib source c := by
  rw [SessionParts.grants, websocketGrants, mem_dedup, mem_sortStrings]
  unfold boundGrants at hg
  rcases List.mem_append.mp hg with hg | hg
  · -- The grants of the connection come first in both lists.
    simp only [List.append_assoc]
    rw [← List.append_assoc]
    exact List.mem_append_left _ hg
  · refine List.mem_append_right _ ?_
    rw [hauth] at hg
    cases hparts : parts.auth with
    | none =>
        rw [hparts] at hg
        exact absurd hg List.not_mem_nil
    | some auth =>
        rw [hparts] at hg
        exact hg

/-- The credential of a planned session is referred to by the plan. -/
theorem secretRefs_of_auth {parts : SessionParts} (h : SessionParts.Sound lib source c parts)
    {auth : PlannedAuth} (hauth : parts.auth = some auth) :
    "secret://" ++ auth.profile ∈ parts.secretRefs := by
  have hbind := h.auth
  unfold bindWebsocketConfiguredAuth at hbind
  split at hbind
  · rw [Except.ok.injEq, Prod.mk.injEq] at hbind
    rw [← hbind.1] at hauth
    cases hauth
  · split at hbind
    · cases hbind
    · simp only [except_bind_ok, except_pure_ok, Prod.exists, Prod.mk.injEq] at hbind
      rcases hbind with ⟨_, _, scheme, kind, placement, _, hsome, hrefs⟩
      rw [← hsome, Option.some.injEq] at hauth
      rw [← hrefs, ← hauth]
      exact List.mem_singleton_self _

/-- The executor accepts the binding of a session that the planner returned,
    over every source and configuration. The URL of the source is one whose
    text is parsed into it again. -/
theorem planned_session_bound {sourceFingerprints : List Str} {operation : Str} {plan : WebSocketPlan}
    (hplan : sealWebsocketSource lib source sourceFingerprints operation c = .ok plan)
    (hreparse : ∀ target, websocketTarget lib source.url = .ok target → Reparses lib target) :
    ∃ target, lib.parseUrl plan.target = .ok target ∧
      validateTransportBinding plan target = .ok () := by
  -- What the planner sealed, field by field.
  rcases sealWebsocketSource_ok hplan with ⟨parts, hsound, hsealed⟩
  rcases sealed_fields hsealed with ⟨htext, hauth, hrefs, hrequired⟩
  rcases WebSocketPlan.sealed_ok lib _ _ hsealed with ⟨_, hform⟩
  have hchecks : plan.handshakeChecks = sortStrings (handshakeChecks plan.subprotocols) := by
    rw [hform]
    exact dedup_of_nodup ((List.perm_insertionSort _ _).nodup_iff.mpr (handshakeChecks_nodup _))
  -- Sorting the grants loses none.
  have hmem : ∀ g, g ∈ plan.requiredGrants ↔ g ∈ parts.grants lib source c := by
    intro g
    rw [hrequired, mem_dedup, mem_sortStrings]
    rfl
  refine ⟨parts.target, ?_, ?_⟩
  · rw [htext]
    exact hreparse _ hsound.target
  · unfold validateTransportBinding
    rw [hsound.host, hsound.port]
    simp only [unit_bind_ok, ensure_ok]
    -- The three checks of the binding: the credential, the grants and the handshake checks.
    refine ⟨?_, ?_, decide_eq_true hchecks⟩
    · cases hsome : plan.auth with
      | none => rfl
      | some auth =>
          rw [Option.all_some, List.contains_iff_mem, hrefs, mem_dedup, mem_sortStrings]
          exact secretRefs_of_auth hsound (hauth.symm.trans hsome)
    · rw [List.all_eq_true]
      intro g hg
      rw [List.contains_iff_mem, hmem]
      exact boundGrants_subset hauth hg

end

/-- A session over an IPv6 literal with two subprotocols. -/
def chatSource : WebSocketSessionSource :=
  { closeSource "wss://[fd00::1]/" with subprotocols := ["chat", "updates"].map String.toList }

theorem planned_session_bound_chat :
    ∃ plan, sealWebsocketSource referenceCrates chatSource [] "op:close" .default = .ok plan ∧
      plan.subprotocols = ["chat", "updates"].map String.toList ∧
      ∃ target, referenceCrates.parseUrl plan.target = .ok target ∧
        validateTransportBinding plan target = .ok () := by
  have hplan : (sealWebsocketSource referenceCrates chatSource [] "op:close"
      .default).toOption.map (fun p => p.subprotocols) = some (["chat", "updates"].map String.toList) := by
    decide +kernel
  have htarget : (websocketTarget referenceCrates "wss://[fd00::1]/").toOption.map (fun t =>
      decide (Reparses referenceCrates t)) = some true := by
    decide +kernel
  rcases exists_ok_of_toOption hplan with ⟨plan, hok, hsubprotocols⟩
  rcases exists_ok_of_toOption htarget with ⟨target, hwebsocket, hsame⟩
  refine ⟨plan, hok, hsubprotocols, planned_session_bound hok (fun t ht => ?_)⟩
  have heq : target = t := Except.ok.inj (hwebsocket.symm.trans ht)
  rw [← heq]
  exact of_decide_eq_true hsame

end Kahea
