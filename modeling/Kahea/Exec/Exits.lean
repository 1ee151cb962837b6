import Kahea.Exec.WebSocket

/-!
# The Exits of the Executors

The exit of what an executor returns: zero for a pass, one for a failed check or
expectation, three for a broken transport or a timeout, four for a denial.

Every denial is built by one function for each transport, and every observation
takes its exit with its outcome, so the two never part. The HTTP executor
returns a broken transport as an error, which has no exit of its own.

A denial names the grant that the caller lacks. The one exception is a session
whose target is none: its denial names the grant for connecting, held or not.

## Main definitions

* `Outcome.exit`: The exit of an outcome.
* `InvocationResult.Contracted`, `WebSocketConnectResult.Contracted`: A result
  has the exit of its outcome.
* `DenialEnvelope.Founded`: A denial names a grant that is not held.

## Theorems

* `invoke_contracted`: The results of the HTTP executor.
* `executeWebsocket_concluding`: The conditions on the results of a session.
* `executeWebsocket_contracted`: The results of the WebSocket executor.
-/

namespace Kahea

/-- The documented exit of an outcome. -/
def Outcome.exit : Outcome → Nat
  | passed => 0
  | failed => 1
  | error => 3
  | denied => 4

/-- An exchange has passed or failed its checks and has the exit of it, and a
    denial has the exit of denials. -/
def InvocationResult.Contracted : InvocationResult → Prop
  | .observation o => (o.outcome = .passed ∨ o.outcome = .failed) ∧ o.exit = o.outcome.exit
  | .denied d => d.exit = Outcome.denied.exit

/-- A session has the exit of its outcome, and a denial that of denials. -/
def WebSocketConnectResult.Contracted : WebSocketConnectResult → Prop
  | .observation o => o.outcome ≠ .denied ∧ o.exit = o.outcome.exit
  | .denied d => d.exit = Outcome.denied.exit
  | .connected _ => True

/-- The reason of a denial that is not for want of a grant. -/
def incompatibleTarget : Str := "runtime WebSocket target is incompatible with the sealed transport"

/-- A denial names a grant that is not held, or the target is none. -/
def DenialEnvelope.Founded (options : InvokeOptions) (d : DenialEnvelope) : Prop :=
  d.required ∉ options.grants ∨ d.reason = incompatibleTarget

/-- A denial names a grant that was not given. -/
def InvocationResult.Founded (options : InvokeOptions) : InvocationResult → Prop
  | .observation _ => True
  | .denied d => d.Founded options

/-- The same, of a session. -/
def WebSocketConnectResult.Founded (options : InvokeOptions) : WebSocketConnectResult → Prop
  | .denied d => d.Founded options
  | _ => True

/-- What a stage may end with instead of a result: a denial. -/
def Denying {α : Type} (options : InvokeOptions) (r : Except DenialEnvelope α) : Prop :=
  ∀ d, r = .error d → d.exit = Outcome.denied.exit ∧ d.Founded options

section

variable {α : Type} {lib : Crates} {options : InvokeOptions} {reason required : Str}

theorem Denying.ok {a : α} : Denying options (.ok a : Except DenialEnvelope α) :=
  fun _ h => by cases h

theorem Denying.error {d : DenialEnvelope}
    (h : d.exit = Outcome.denied.exit ∧ d.Founded options) :
    Denying options (.error d : Except DenialEnvelope α) := by
  rintro _ ⟨⟩
  exact h

/-- A denial that names a missing grant. -/
theorem Denying.denial {plan : RequestPlan} (h : required ∉ options.grants) :
    Denying options (.error (denial lib plan reason required) : Except DenialEnvelope α) :=
  .error ⟨rfl, Or.inl h⟩

theorem Denying.websocketDenial {plan : WebSocketPlan} (h : required ∉ options.grants) :
    Denying options (.error (websocketDenial plan reason required) : Except DenialEnvelope α) :=
  .error ⟨rfl, Or.inl h⟩

/-- The grant that is missing is not held. -/
theorem not_mem_of_missing {grants required : List Str} {missing : Str}
    (h : missingGrant grants required = some missing) : missing ∉ grants := by
  have hfound := List.find?_some h
  simpa only [Bool.not_eq_true', List.contains_eq_mem, decide_eq_false_iff_not] using hfound

/-- The grant a refused address calls for is not held. -/
theorem not_mem_of_refused {grants : List Str} {addresses : List SocketAddr} {required : Str}
    (h : refusedAddress grants addresses = some required) :
    ∃ address ∈ addresses, unsafeAddress address.ip = true ∧ required = cidrGrant address.ip ∧
      required ∉ grants := by
  rcases Option.map_eq_some_iff.mp h with ⟨address, hfound, rfl⟩
  have hrefused := List.find?_some hfound
  simp only [Bool.and_eq_true, Bool.not_eq_true', List.contains_eq_mem,
    decide_eq_false_iff_not] at hrefused
  exact ⟨address, List.mem_of_find?_eq_some hfound, hrefused.1, rfl, hrefused.2⟩

end

/-! ### The HTTP executor -/

section

variable {lib : Crates} {world : World} {plan : RequestPlan} {options : InvokeOptions}

theorem runtimeTarget_denying {target : Url} {method : Str} {r : Except DenialEnvelope (Str × Nat)}
    (h : runtimeTarget lib plan target method options = .ok r) : Denying options r := by
  simp only [runtimeTarget, except_bind_ok, ensure_ok, exists_const] at h
  rcases h with ⟨_, _, h⟩
  -- A plain URL without the grant is a denial, an incomplete one an error.
  split_ifs at h with hinsecure
  · cases h
    rw [Bool.and_eq_true, Bool.not_eq_true', List.contains_eq_mem, decide_eq_false_iff_not] at hinsecure
    exact .denial hinsecure.2
  cases hhost : target.host with
  | none =>
      rw [hhost] at h
      cases h
  | some host =>
  cases hport : target.portOrKnownDefault with
  | none =>
      rw [hhost, hport] at h
      cases h
  | some port =>
  rw [hhost, hport] at h
  dsimp only at h
  -- A missing grant is a denial, and with all of them there is none.
  cases hmissing : missingGrant options.grants [networkGrant host port, "http:" ++ method] with
  | some required =>
      rw [hmissing] at h
      cases h
      exact .denial (not_mem_of_missing hmissing)
  | none =>
      rw [hmissing] at h
      cases h
      exact .ok

/-- The gate on the addresses. -/
theorem evaluateRuntimeTarget_denying {target : Url} {method : Str} :
    Ensures (evaluateRuntimeTarget lib world plan target method options)
      (fun r => ∀ d, r.1 = some d → d.exit = Outcome.denied.exit ∧ d.Founded options)
      (fun _ => True) := by
  refine .bind (.ofExcept (fun _ h => runtimeTarget_denying h)) (fun verdict hverdict => ?_)
  -- A denial of the URL, or of an address.
  rcases verdict with denied | ⟨host, port⟩
  · refine .pure ?_
    rintro _ ⟨⟩
    exact hverdict _ rfl
  · refine .bind .any (fun answer _ => ?_)
    rcases answer with e | addresses
    · exact .fail
    rcases addresses with _ | ⟨address, rest⟩
    · exact .fail
    dsimp only
    -- A refused address lacks the grant that is named.
    cases hrefused : refusedAddress options.grants (address :: rest) with
    | some required =>
        rcases not_mem_of_refused hrefused with ⟨_, _, _, _, hmissing⟩
        refine .pure ?_
        rintro _ ⟨⟩
        exact ⟨rfl, Or.inl hmissing⟩
    | none => exact .pure (fun _ h => by cases h)

/-- The token endpoint passes the same gate. -/
theorem obtainOauthToken_denying {auth : PlannedAuth} :
    Ensures (obtainOauthToken lib world plan auth options) (Denying options) (fun _ => True) := by
  refine .bind .any (fun tokenUrl _ => .bind .any (fun target _ => ?_))
  refine .bind evaluateRuntimeTarget_denying (fun verdict hverdict => ?_)
  rcases verdict with ⟨_ | d, addresses⟩
  · exact .bind .any (fun _ _ => .pure .ok)
  · exact .pure (.error (hverdict _ rfl))

/-- The credentials. -/
theorem authenticate_denying {target : Url} {headers : HeaderMap} :
    Ensures (authenticate lib world plan options target headers) (Denying options)
      (fun _ => True) := by
  unfold authenticate
  cases plan.auth.filter (fun auth => startsWith "oauth2-" auth.placement) with
  | some auth =>
      refine .bind obtainOauthToken_denying (fun outcome houtcome => ?_)
      cases outcome with
      | error d => exact .pure (.error (houtcome _ rfl))
      | ok token => exact .bind .any (fun _ _ => .pure .ok)
  | none => exact .bind .any (fun _ _ => .pure .ok)

theorem admitted_denying {r : Except DenialEnvelope Url} (h : admitted lib plan options = .ok r) :
    Denying options r := by
  simp only [admitted, except_bind_ok, ensure_ok, exists_const] at h
  rcases h with ⟨_, _, _, h⟩
  cases hmissing : missingGrant options.grants plan.requiredGrants with
  | some missing =>
      rw [hmissing] at h
      cases h
      exact .denial (not_mem_of_missing hmissing)
  | none =>
      rw [hmissing] at h
      simp only [except_bind_ok, except_pure_ok] at h
      rcases h with ⟨target, _, rfl⟩
      exact .ok

/-- All that comes before a request. -/
theorem prepare_denying :
    Ensures (prepare lib world plan options) (Denying options) (fun _ => True) := by
  refine .bind (.ofExcept (fun _ h => admitted_denying h)) (fun verdict hverdict => ?_)
  cases verdict with
  | error d => exact .pure (.error (hverdict _ rfl))
  | ok target =>
      refine .bind evaluateRuntimeTarget_denying (fun gate hgate => ?_)
      rcases gate with ⟨_ | d, addresses⟩
      · refine .bind .any (fun method _ => .bind .any (fun headers _ => .bind .any (fun identity _ => ?_)))
        refine .bind authenticate_denying (fun outcome houtcome => ?_)
        rcases outcome with d | ⟨token, target', headers'⟩
        · exact .pure (.error (houtcome _ rfl))
        · exact .bind .any (fun _ _ => .pure .ok)
      · exact .pure (.error (hgate _ rfl))

/-- What is returned of an answer. -/
theorem summary_contracted {target : Url} {response : HttpResponse} {size elapsed : Nat}
    {passed : Bool} {body trace : Str} :
    (InvocationResult.observation (summary lib plan target response size elapsed passed body
      trace)).Contracted := by
  cases passed with
  | true => exact ⟨Or.inl rfl, rfl⟩
  | false => exact ⟨Or.inr rfl, rfl⟩

/-- A request ends in a denial with its grant or in an observation. -/
theorem invoke_concluded :
    Ensures (invoke lib world plan options) (fun r => r.Contracted ∧ r.Founded options)
      (fun _ => True) := by
  refine .bind prepare_denying (fun outcome houtcome => ?_)
  cases outcome with
  | error d => exact .pure (houtcome d rfl)
  | ok prepared =>
      refine .bind .any (fun answer _ => .bind .any (fun response _ => .bind .past (fun past _ => ?_)))
      refine .bind .any (fun data _ => .bind .any (fun body _ => ?_))
      exact .bind .any (fun schemaError _ => .bind .any (fun trace _ => .bind .any (fun _ _ =>
        .pure ⟨summary_contracted, trivial⟩)))

/-- The results of the HTTP executor have the exits of their outcomes. -/
theorem invoke_contracted :
    Ensures (invoke lib world plan options) InvocationResult.Contracted (fun _ => True) :=
  invoke_concluded.mono (fun _ h => h.1) (fun _ h => h)

end

/-! ### The WebSocket executor -/

section

variable {lib : Crates} {world : World} {plan : WebSocketPlan} {options : InvokeOptions}

/-- What a stage may end with instead of a result satisfies a condition. -/
def Concluding {α : Type} (Q : WebSocketConnectResult → Prop) (r : Staged α) : Prop :=
  ∀ result, r = .error result → Q result

theorem Concluding.ok {α : Type} {Q : WebSocketConnectResult → Prop} {a : α} :
    Concluding Q (.ok a : Staged α) :=
  fun _ h => by cases h

theorem Concluding.error {α : Type} {Q : WebSocketConnectResult → Prop}
    {result : WebSocketConnectResult} (h : Q result) : Concluding Q (.error result : Staged α) := by
  rintro _ ⟨⟩
  exact h

/-- The exit of a session that fails. -/
theorem Failing.contracted {terminal : SessionTerminal} (h : Failing terminal) :
    terminal.outcome ≠ .denied ∧ terminal.exit = terminal.outcome.exit := by
  rcases h with ⟨houtcome, hexit⟩ | ⟨houtcome, hexit⟩
  · rw [houtcome, hexit]
    exact ⟨nofun, rfl⟩
  · rw [houtcome, hexit]
    exact ⟨nofun, rfl⟩

theorem websocketAdmitted_denying {r : Except DenialEnvelope Unit}
    (h : websocketAdmitted lib plan options = .ok r) : Denying options r := by
  simp only [websocketAdmitted, except_bind_ok, ensure_ok, exists_const] at h
  rcases h with ⟨_, _, _, h⟩
  cases hmissing : missingGrant options.grants
      (plan.requiredGrants.filter (fun g => !isAddressDependentGrant g)) with
  | some missing =>
      rw [hmissing] at h
      cases h
      exact .websocketDenial (not_mem_of_missing hmissing)
  | none =>
      rw [hmissing] at h
      cases h
      exact .ok

/-- The denials before a name is resolved. The target of the plan has a host and
    a port, since its grants were checked for them. -/
theorem websocketRuntimeTarget_denying {target : Url}
    (hbound : validateTransportBinding plan target = .ok ()) :
    Denying options (websocketRuntimeTarget plan target options) := by
  unfold websocketRuntimeTarget
  unfold validateTransportBinding at hbound
  split
  · exact .error ⟨rfl, Or.inr rfl⟩
  -- The binding has a host and a port, so only a grant can be missing.
  cases hhost : target.host with
  | none =>
      rw [hhost] at hbound
      cases hbound
  | some host =>
  cases hport : target.portOrKnownDefault with
  | none =>
      rw [hhost, hport] at hbound
      cases hbound
  | some port =>
  dsimp only
  cases hmissing : missingGrant options.grants [networkGrant host port, "websocket:connect"] with
  | some required => exact .websocketDenial (not_mem_of_missing hmissing)
  | none =>
      dsimp only
      split_ifs with hinsecure
      · rw [Bool.and_eq_true, Bool.not_eq_true', List.contains_eq_mem,
          decide_eq_false_iff_not] at hinsecure
        exact .websocketDenial hinsecure.2
      · exact .ok

theorem evaluateWebsocketTarget_denying {target : Url}
    (hbound : validateTransportBinding plan target = .ok ()) :
    Ensures (evaluateWebsocketTarget world plan target options) (Denying options)
      (fun _ => True) := by
  unfold evaluateWebsocketTarget
  have hearly := @websocketRuntimeTarget_denying plan options target hbound
  revert hearly
  -- A denial of the URL, or of an address.
  rcases websocketRuntimeTarget plan target options with d | ⟨host, port⟩
  · intro hearly
    exact .pure (.error (hearly _ rfl))
  · intro _
    refine .bind .any (fun answer _ => ?_)
    cases answer with
    | error e => exact .fail
    | ok addresses =>
        dsimp only
        split_ifs
        · exact .fail
        · cases hrefused : refusedAddress options.grants addresses with
          | some required =>
              rcases not_mem_of_refused hrefused with ⟨_, _, _, _, hmissing⟩
              exact .pure (.websocketDenial hmissing)
          | none => exact .pure .ok

/-- The end of a handshake that fails. -/
theorem performUpgrade_failing {limits : WebSocketLimits} {path : Str} {request : HttpRequest}
    {tls : Bool} :
    Ensures (performUpgrade lib world limits path request tls)
      (fun r => ∀ failure, r = .error failure → Failing failure.terminal) (fun _ => True) := by
  have hcheck : ∀ failure, (.error handshakeCheckFailure :
      Except HandshakeFailure (HandshakeResponse × WireParser × WireAccounting)) = .error failure →
        Failing failure.terminal := by
    rintro _ ⟨⟩
    exact failing_failed
  unfold performUpgrade
  -- Without a key the request is not sent.
  cases (request.headers.get "sec-websocket-key").bind headerText with
  | none => exact .pure hcheck
  | some key =>
      dsimp only
      split_ifs
      · exact .pure hcheck
      refine .bind .any (fun _ _ => .bind .past (fun past _ => ?_))
      -- The upgrade fails with an error of the stream.
      cases world.upgrade past request with
      | error e =>
          refine .pure ?_
          rintro _ ⟨⟩
          cases e with
          | malformed => exact failing_failed
          | _ => exact failing_error
      | ok response =>
          refine .pure (fun failure h => ?_)
          -- Or the response is refused, by a check or by the limits.
          unfold acceptUpgrade at h
          split_ifs at h
          · cases h
            exact failing_failed
          dsimp only at h
          cases hfailure : (observe limits (WireParser.new, WireAccounting.default)
              response.buffered).2.failure with
          | some cause =>
              rw [hfailure] at h
              cases h
              exact failing_ofFailure
          | none =>
              rw [hfailure] at h
              cases h

/-! ### Conditions on the results of a session

A result that is no observation is a denial of one of two stages, so a condition
that holds of every observation with its exit is decided by these. -/

section

variable {Q : WebSocketConnectResult → Prop}
  (hobserved : ∀ o, (WebSocketConnectResult.observation o).Contracted → Q (.observation o))

include hobserved

theorem failAttempt_concluding {α : Type} {terminal : SessionTerminal} {details : FailureDetails}
    (h : Failing terminal) :
    Ensures (failAttempt (α := α) lib world plan terminal details) (Concluding Q) (fun _ => True) := by
  refine .bind (Q := Q) ?_ (fun result hresult => .pure (.error hresult))
  exact .bind .past (fun past _ => .bind .any (fun transcript _ => .bind .any (fun _ _ =>
    .pure (hobserved _ h.contracted))))

/-- The gates of a session, in their order. -/
theorem prepareHandshake_concluding
    (hadmitted : ∀ d, websocketAdmitted lib plan options = .ok (.error d) → Q (.denied d))
    (haddresses : ∀ target, validateTransportBinding plan target = .ok () →
      Ensures (prepareAddresses lib world plan options target) (Concluding Q) (fun _ => True)) :
    Ensures (prepareHandshake lib world plan options) (Concluding Q) (fun _ => True) := by
  refine .bind (.ofExcept (fun _ h => h)) (fun verdict hverdict => ?_)
  rcases verdict with d | ⟨⟩
  · exact .pure (.error (hadmitted d hverdict))
  refine .bind .past (fun past _ => ?_)
  split_ifs
  · exact failAttempt_concluding hobserved failing_error
  refine .bind .any (fun target _ => .bind (.ofExcept (fun _ h => h)) (fun _ hbound => ?_))
  refine .bind (haddresses target hbound) (fun addresses hresult => ?_)
  cases addresses with
  | error result => exact .pure (.error (hresult _ rfl))
  | ok addresses => exact .bind .any (fun _ _ => .pure .ok)

theorem openConnection_concluding {h : Handshake} :
    Ensures (openConnection lib world plan h) (Concluding Q) (fun _ => True) := by
  refine .bind .any (fun _ _ => .bind .past (fun past _ => ?_))
  cases connectPinned world past false h.addresses with
  | error late => exact failAttempt_concluding hobserved failing_error
  | ok address =>
      refine .bind .any (fun _ _ => ?_)
      split_ifs
      · exact .pure .ok
      · exact failAttempt_concluding hobserved failing_error

theorem openSession_concluding {h : Handshake} {address : SocketAddr} :
    Ensures (openSession lib world plan h address) (Concluding Q) (fun _ => True) := by
  refine .bind performUpgrade_failing (fun outcome houtcome => ?_)
  rcases outcome with failure | ⟨response, parser, accounting⟩
  · exact .bind .any (fun _ _ => failAttempt_concluding hobserved (houtcome failure rfl))
  · exact .bind .any (fun _ _ => .bind .past (fun past _ => .pure .ok))

omit hobserved in
/-- A connected session always ends in an observation. -/
theorem executeConnectedWebsocket_observed {connection : WebSocketConnection} :
    Ensures (executeConnectedWebsocket lib world plan connection)
      (fun r => ∃ o, r = .observation o ∧ (WebSocketConnectResult.observation o).Contracted)
      (fun _ => True) := by
  refine .bind .past (fun past _ => .bind (.ofExcept (fun _ h => h)) (fun ended hended => ?_))
  rcases ended with ⟨terminal, state⟩
  refine .bind .any (fun transcript _ => .bind .past (fun later _ => .bind .any (fun _ _ =>
    .pure ⟨_, rfl, ?_⟩)))
  have hrecorded := runActions_recorded hended (fun entry h => absurd h List.not_mem_nil)
  rcases hrecorded.2 with ⟨close, rfl⟩ | hfailing
  · exact ⟨nofun, rfl⟩
  · exact hfailing.contracted

/-- What every result of the executor satisfies. -/
theorem executeWebsocket_concluding
    (hadmitted : ∀ d, websocketAdmitted lib plan options = .ok (.error d) → Q (.denied d))
    (haddresses : ∀ target, validateTransportBinding plan target = .ok () →
      Ensures (prepareAddresses lib world plan options target) (Concluding Q) (fun _ => True)) :
    Ensures (executeWebsocket lib world plan options) Q (fun _ => True) := by
  refine .bind (Q := Concluding Q) ?_ (fun outcome houtcome => ?_)
  -- The handshake, the connection and the session, each of which may end the run.
  · refine .bind (prepareHandshake_concluding hobserved hadmitted haddresses)
      (fun prepared hprepared => ?_)
    cases prepared with
    | error result => exact .pure (.error (hprepared _ rfl))
    | ok h =>
        refine .bind (openConnection_concluding hobserved) (fun address haddress => ?_)
        cases address with
        | error result => exact .pure (.error (haddress _ rfl))
        | ok address => exact openSession_concluding hobserved
  · cases outcome with
    | error result => exact .pure (houtcome result rfl)
    | ok connection =>
        refine executeConnectedWebsocket_observed.mono (fun result hresult => ?_) (fun _ h => h)
        rcases hresult with ⟨o, rfl, ho⟩
        exact hobserved o ho

end

/-! ### The exits of a session -/

theorem prepareAddresses_denying {target : Url}
    (hbound : validateTransportBinding plan target = .ok ()) :
    Ensures (prepareAddresses lib world plan options target)
      (Concluding (fun r => r.Contracted ∧ r.Founded options)) (fun _ => True) := by
  refine .bind (.attempt (evaluateWebsocketTarget_denying hbound)) (fun gate hgate => ?_)
  rcases gate with e | d | addresses
  · cases e
    exact failAttempt_concluding (fun _ h => ⟨h, trivial⟩) failing_error
  · exact .pure (.error (hgate _ rfl d rfl))
  · dsimp only
    cases hmissing : missingGrant options.grants plan.requiredGrants with
    | some missing => exact .pure (.error ⟨rfl, Or.inl (not_mem_of_missing hmissing)⟩)
    | none => exact .pure .ok

/-- A session ends in a denial with its grant or in an observation. -/
theorem executeWebsocket_concluded :
    Ensures (executeWebsocket lib world plan options)
      (fun r => r.Contracted ∧ r.Founded options) (fun _ => True) :=
  executeWebsocket_concluding (fun _ h => ⟨h, trivial⟩)
    (fun _ h => websocketAdmitted_denying h _ rfl) (fun _ hbound => prepareAddresses_denying hbound)

/-- The results of the WebSocket executor have the exits of their outcomes. -/
theorem executeWebsocket_contracted :
    Ensures (executeWebsocket lib world plan options) WebSocketConnectResult.Contracted
      (fun _ => True) :=
  executeWebsocket_concluded.mono (fun _ h => h.1) (fun _ h => h)

end

end Kahea
