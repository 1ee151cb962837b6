import Kahea.Exec.Boundary

/-!
# Runtime Targets

The gate every connection of the executors passes: `evaluate_runtime_target`,
once for HTTP and once for WebSocket sessions.

Both gates test the URL and the grants first, resolve the host only then, and
look at every answered address last. The tests before the name is resolved are
a pure function of their own (`runtimeTarget`, `websocketRuntimeTarget`), so
that a gate is that function, one resolution and `refusedAddress`.
`evaluateRuntimeTarget_ok` and `evaluateWebsocketTarget_ok` say what a gate
returns, and `_ensures` what it does on the way; later modules use these and do
not unfold the gates.

## Main definitions

* `ExecError`, `InvokeOptions`, `DenialEnvelope`: What the executors share.
* `evaluateRuntimeTarget`, `evaluateWebsocketTarget`: The two gates.
* `SchemeGranted`, `Covered`: What a request that proceeds has shown.

## Theorems

* `runtimeTarget_ok`, `websocketRuntimeTarget_ok`: What the early tests admit.
* `evaluateRuntimeTarget_ok`, `evaluateWebsocketTarget_ok`: The verdicts.
* `evaluateRuntimeTarget_ensures`, `evaluateWebsocketTarget_ensures`: The
  effects.
-/

namespace Kahea

inductive ExecError where
  | invalidSeal
  | invalidTarget (reason : Str)
  | invalidMethod (reason : Str)
  | invalidHeader (reason : Str)
  | missingSecret (profile : Str)
  | unsupportedAuth (placement : Str)
  | invalidOAuthProfile
  | oauthExchange
  | invalidClientIdentity
  | transport (reason : Str)
  | responseTooLarge (limit : Nat)
  | configurationMismatch
  | policyMismatch
  | evidence (reason : Str)
  deriving DecidableEq, Repr

/-- The text of an error. -/
def ExecError.text : ExecError → Str
  | invalidSeal => "plan fingerprint does not match its canonical bytes"
  | invalidTarget r => "invalid target URL: " ++ r
  | invalidMethod r => "invalid HTTP method: " ++ r
  | invalidHeader r => "invalid planned header: " ++ r
  | missingSecret p => "secret profile " ++ debugQuote p ++ " was not resolved"
  | unsupportedAuth p => "unsupported authentication placement " ++ debugQuote p
  | invalidOAuthProfile => "OAuth credential profile is invalid"
  | oauthExchange => "OAuth token exchange failed"
  | invalidClientIdentity => "mutual TLS identity could not be loaded"
  | transport r => "transport failure: " ++ r
  | responseTooLarge n => "response exceeded the " ++ decimal n ++ " byte limit"
  | configurationMismatch =>
      "plan configuration fingerprint is incompatible with the invocation configuration"
  | policyMismatch => "plan policy fingerprint is incompatible with the invocation policy"
  | evidence r => "evidence failure: " ++ r

/-- What the caller grants and supplies. Maps are lists sorted by key. -/
structure InvokeOptions where
  grants : List Str
  secrets : List (Str × Str)
  timeout : Nat
  maxResponseBytes : Nat
  expectedConfigFingerprint : Option Str
  expectedPolicyFingerprint : Option Str
  additionalRootCertificatesPem : List (List UInt8)

/-- `InvokeOptions::default()`, with the timeout in nanoseconds. -/
def InvokeOptions.default : InvokeOptions :=
  { grants := []
    secrets := []
    timeout := 30000000000
    maxResponseBytes := 16 * 1024 * 1024
    expectedConfigFingerprint := none
    expectedPolicyFingerprint := none
    additionalRootCertificatesPem := [] }

structure DenialEnvelope where
  protocol : Str
  kind : Str
  version : Str
  configFingerprint : Str
  plan : Str
  reason : Str
  required : Str
  policy : Str
  exit : Nat
  deriving DecidableEq, Repr

def DenialEnvelope.toJson (d : DenialEnvelope) : Value :=
  jsonObject [("protocol", .string d.protocol), ("kind", .string d.kind),
    ("version", .string d.version), ("config_fingerprint", .string d.configFingerprint),
    ("plan", .string d.plan), ("reason", .string d.reason), ("required", .string d.required),
    ("policy", .string d.policy), ("exit", jsonNat d.exit)]

/-! ### What a gate has shown -/

/-- The scheme needs no grant for plaintext, or the grant is held. -/
def SchemeGranted (scheme : Str) (grants : List Str) : Prop :=
  (scheme = "http" → "net-insecure-http".toList ∈ grants) ∧
    (scheme = "ws" → "net-insecure-websocket".toList ∈ grants)

/-- The address is safe or has its own grant. -/
def Covered (grants : List Str) (address : SocketAddr) : Prop :=
  unsafeAddress address.ip = true → cidrGrant address.ip ∈ grants

/-- What holds of a connection a gate lets through. -/
structure Admitted (grants : List Str) (scheme host : Str) (port : Nat)
    (addresses : List SocketAddr) : Prop where
  network : networkGrant host port ∈ grants
  scheme : SchemeGranted scheme grants
  nonempty : addresses ≠ []
  covered : ∀ address ∈ addresses, Covered grants address

/-- Whether a grant names an address. -/
def isAddressDependentGrant (grant : Str) : Bool := startsWith "net-cidr:" grant

/-! ### The HTTP gate -/

section

variable (lib : Crates) (world : World)

/-- A denial of the HTTP executor. -/
def denial (plan : RequestPlan) (reason required : Str) : DenialEnvelope :=
  { protocol := PROTOCOL
    kind := "denial"
    version := VERSION
    configFingerprint := defaultConfigFingerprint lib
    plan := plan.id
    reason := reason
    required := required
    policy := plan.policyFingerprint
    exit := 4 }

/-- The first grant that is not held. -/
def missingGrant (grants required : List Str) : Option Str :=
  required.find? (fun grant => !(grants.contains grant))

/-- The tests before the name is resolved: a denial, or the host and port to
    resolve. -/
def runtimeTarget (plan : RequestPlan) (target : Url) (method : Str) (options : InvokeOptions) :
    Except ExecError (Except DenialEnvelope (Str × Nat)) := do
  ensure (target.scheme = "http" || target.scheme = "https")
    (.invalidTarget ("scheme " ++ debugQuote target.scheme ++ " is not supported"))
  ensure (target.username = [] && target.password.isNone)
    (.invalidTarget "userinfo in target URLs is denied")
  if target.scheme = "http" && !(options.grants.contains "net-insecure-http".toList) then
    pure (.error (denial lib plan "plaintext HTTP requires an explicit grant" "net-insecure-http"))
  else match target.host, target.portOrKnownDefault with
    | none, _ => .error (.invalidTarget "host is missing")
    | some _, none => .error (.invalidTarget "port is missing")
    | some host, some port =>
        match missingGrant options.grants [networkGrant host port, "http:" ++ method] with
        | some required => pure (.error
            (denial lib plan "runtime target requires an explicit capability" required))
        | none => pure (.ok (host, port))

/-- The gate of the HTTP executor: a denial, or the addresses to connect to. -/
def evaluateRuntimeTarget (plan : RequestPlan) (target : Url) (method : Str)
    (options : InvokeOptions) : Eff Event ExecError (Option DenialEnvelope × List SocketAddr) := do
  let verdict ← Eff.ofExcept (runtimeTarget lib plan target method options)
  match verdict with
  | .error denial => pure (some denial, [])
  | .ok (host, port) => do
      let answer ← resolveHost world host port
      match answer with
      | .error e => Eff.fail (.transport ("DNS resolution failed: " ++ e))
      | .ok [] => Eff.fail (.transport "DNS returned no addresses")
      | .ok (address :: rest) => match refusedAddress options.grants (address :: rest) with
          | some required =>
              pure (some (denial lib plan "resolved address is denied by the network boundary"
                required), [])
          | none => pure (none, address :: rest)

end

/-! ### The WebSocket gate -/

section

variable (world : World)

/-- A denial of the WebSocket executor. -/
def websocketDenial (plan : WebSocketPlan) (reason required : Str) : DenialEnvelope :=
  { protocol := PROTOCOL
    kind := "denial"
    version := VERSION
    configFingerprint := plan.configFingerprint
    plan := plan.id
    reason := reason
    required := required
    policy := plan.policyFingerprint
    exit := 4 }

/-- The error of the WebSocket gate. -/
inductive RuntimeTargetError where
  | dns
  deriving DecidableEq, Repr

/-- The tests before the name is resolved: a denial, or the host and port to
    resolve. -/
def websocketRuntimeTarget (plan : WebSocketPlan) (target : Url) (options : InvokeOptions) :
    Except DenialEnvelope (Str × Nat) :=
  if !(target.scheme = "ws" || target.scheme = "wss") || target.username ≠ [] ||
      target.password.isSome || target.fragment.isSome then
    .error (websocketDenial plan
      "runtime WebSocket target is incompatible with the sealed transport" "websocket:connect")
  else match target.host, target.portOrKnownDefault with
    | none, _ => .error (websocketDenial plan "runtime WebSocket target has no host"
        "websocket:connect")
    | some _, none => .error (websocketDenial plan "runtime WebSocket target has no port"
        "websocket:connect")
    | some host, some port =>
        match missingGrant options.grants [networkGrant host port, "websocket:connect"] with
        | some required => .error
            (websocketDenial plan "runtime target requires an explicit capability" required)
        | none =>
            if target.scheme = "ws" && !(options.grants.contains "net-insecure-websocket".toList)
            then .error (websocketDenial plan "plaintext WebSocket requires an explicit grant"
              "net-insecure-websocket")
            else .ok (host, port)

/-- The gate of the WebSocket executor: a denial, or the addresses to connect
    to. The brackets of a literal are taken off before it is resolved. -/
def evaluateWebsocketTarget (plan : WebSocketPlan) (target : Url) (options : InvokeOptions) :
    Eff Event RuntimeTargetError (Except DenialEnvelope (List SocketAddr)) :=
  match websocketRuntimeTarget plan target options with
  | .error denial => pure (.error denial)
  | .ok (host, port) => do
      let answer ← resolveHost world (stripBrackets host) port
      match answer with
      | .error _ => Eff.fail .dns
      | .ok addresses =>
          if addresses.isEmpty || addresses.any (fun address => address.port ≠ port) then
            Eff.fail .dns
          else match refusedAddress options.grants addresses with
            | some required => pure (.error
                (websocketDenial plan "resolved address is denied by the network boundary" required))
            | none => pure (.ok addresses)

end

/-! ### The early tests -/

theorem missingGrant_eq_none {grants required : List Str} :
    missingGrant grants required = none ↔ ∀ grant ∈ required, grant ∈ grants := by
  simp only [missingGrant, List.find?_eq_none, Bool.not_eq_true', List.contains_eq_mem,
    decide_eq_false_iff_not, not_not]

section

variable {lib : Crates} {world : World} {options : InvokeOptions}

/-- What the tests of the HTTP gate admit. -/
theorem runtimeTarget_ok {plan : RequestPlan} {target : Url} {method host : Str} {port : Nat} :
    runtimeTarget lib plan target method options = .ok (.ok (host, port)) ↔
      (target.scheme = "http" ∨ target.scheme = "https") ∧
        (target.username = [] ∧ target.password = none) ∧
        (target.scheme = "http" → "net-insecure-http".toList ∈ options.grants) ∧
        target.host = some host ∧ target.portOrKnownDefault = some port ∧
        networkGrant host port ∈ options.grants ∧ "http:" ++ method ∈ options.grants := by
  simp only [runtimeTarget, except_bind_ok, ensure_ok, exists_const, Bool.or_eq_true,
    Bool.and_eq_true, decide_eq_true_eq, Option.isNone_iff_eq_none, Bool.not_eq_true',
    List.contains_eq_mem, decide_eq_false_iff_not]
  refine and_congr_right fun _ => and_congr_right fun _ => ?_
  by_cases hplain : target.scheme = "http" ∧ "net-insecure-http".toList ∉ options.grants
  · rw [if_pos hplain, except_pure_ok]
    refine ⟨nofun, fun h => absurd (h.1 hplain.1) hplain.2⟩
  rw [if_neg hplain, and_iff_right (fun h => not_not.mp (fun hn => hplain ⟨h, hn⟩))]
  rcases target.host with _ | h <;> rcases target.portOrKnownDefault with _ | p <;> dsimp only
  · simp only [reduceCtorEq, false_and]
  · simp only [reduceCtorEq, false_and]
  · simp only [reduceCtorEq, false_and, and_false]
  -- Host and port are known: what is left are the two grants.
  have hgrants := @missingGrant_eq_none options.grants
    [networkGrant h p, "http:" ++ method]
  simp only [List.mem_cons, List.not_mem_nil, or_false, forall_eq_or_imp, forall_eq] at hgrants
  cases hmissing : missingGrant options.grants [networkGrant h p, "http:" ++ method] with
  | none =>
      have hall := hgrants.mp hmissing
      simp only [except_pure_ok, Except.ok.injEq, Prod.mk.injEq, Option.some.injEq]
      constructor
      · rintro ⟨rfl, rfl⟩
        exact ⟨rfl, rfl, hall⟩
      · exact fun h => ⟨h.1, h.2.1⟩
  | some g =>
      simp only [except_pure_ok, reduceCtorEq, false_iff, Option.some.injEq]
      rintro ⟨rfl, rfl, hall⟩
      rw [hgrants.mpr hall] at hmissing
      cases hmissing

/-- What the tests of the WebSocket gate admit. -/
theorem websocketRuntimeTarget_ok {plan : WebSocketPlan} {target : Url} {host : Str} {port : Nat} :
    websocketRuntimeTarget plan target options = .ok (host, port) ↔
      ((target.scheme = "ws" ∨ target.scheme = "wss") ∧ target.username = [] ∧
        target.password = none ∧ target.fragment = none) ∧
        target.host = some host ∧ target.portOrKnownDefault = some port ∧
        (networkGrant host port ∈ options.grants ∧ "websocket:connect".toList ∈ options.grants) ∧
        (target.scheme = "ws" → "net-insecure-websocket".toList ∈ options.grants) := by
  unfold websocketRuntimeTarget
  -- The checks in the order of the code: the shape of the URL, its host and port, the grants.
  by_cases hshape : (target.scheme = "ws" ∨ target.scheme = "wss") ∧ target.username = [] ∧
      target.password = none ∧ target.fragment = none
  swap
  · rw [if_pos, iff_false_right (fun h => hshape h.1)]
    · exact nofun
    · simp only [Bool.or_eq_true, Bool.not_eq_true', Bool.or_eq_false_iff, decide_eq_false_iff_not,
        decide_eq_true_eq, Option.isSome_iff_ne_none]
      tauto
  rw [if_neg, and_iff_right hshape]
  swap
  · rcases hshape with ⟨hscheme, huser, hpassword, hfragment⟩
    simp only [huser, hpassword, hfragment, Bool.or_eq_true, Bool.not_eq_true',
      Bool.or_eq_false_iff, decide_eq_false_iff_not, decide_eq_true_eq, Option.isSome_none,
      Bool.false_eq_true, or_false, ne_eq, not_true_eq_false]
    tauto
  rcases target.host with _ | h <;> rcases target.portOrKnownDefault with _ | p <;> dsimp only
  · simp only [reduceCtorEq, false_and]
  · simp only [reduceCtorEq, false_and]
  · simp only [reduceCtorEq, false_and, and_false]
  have hgrants := @missingGrant_eq_none options.grants
    [networkGrant h p, "websocket:connect"]
  simp only [List.mem_cons, List.not_mem_nil, or_false, forall_eq_or_imp, forall_eq] at hgrants
  -- The missing grant is named where there is one.
  cases hmissing : missingGrant options.grants [networkGrant h p, "websocket:connect"] with
  | some g =>
      simp only [reduceCtorEq, false_iff, Option.some.injEq]
      rintro ⟨rfl, rfl, hall, _⟩
      rw [hgrants.mpr hall] at hmissing
      cases hmissing
  | none =>
      have hall := hgrants.mp hmissing
      -- A plain session needs a further grant.
      by_cases hplain : target.scheme = "ws" ∧ "net-insecure-websocket".toList ∉ options.grants
      · simp only [hplain.1, List.contains_eq_mem, hplain.2, decide_true, decide_false,
          Bool.not_false, Bool.and_self, if_true, reduceCtorEq, false_iff]
        exact fun h => h.2.2.2 trivial
      · have hscheme : target.scheme = "ws" → "net-insecure-websocket".toList ∈ options.grants :=
          fun h => not_not.mp (fun hn => hplain ⟨h, hn⟩)
        rw [if_neg]
        · simp only [Except.ok.injEq, Prod.mk.injEq, Option.some.injEq]
          constructor
          · rintro ⟨rfl, rfl⟩
            exact ⟨rfl, rfl, hall, hscheme⟩
          · exact fun h => ⟨h.1, h.2.1⟩
        · simp only [Bool.and_eq_true, decide_eq_true_eq, Bool.not_eq_true', List.contains_eq_mem,
            decide_eq_false_iff_not]
          exact hplain

/-! ### The verdicts -/

/-- The HTTP gate after its early tests. -/
theorem evaluateRuntimeTarget_eq {plan : RequestPlan} {target : Url} {method host : Str}
    {port : Nat} {past : List Event}
    (h : runtimeTarget lib plan target method options = .ok (.ok (host, port))) :
    (evaluateRuntimeTarget lib world plan target method options past).1 =
      (match world.resolve past host port with
        | .error e => .error (.transport ("DNS resolution failed: " ++ e))
        | .ok [] => .error (.transport "DNS returned no addresses")
        | .ok (address :: rest) => match refusedAddress options.grants (address :: rest) with
          | some required => .ok
              (some (denial lib plan "resolved address is denied by the network boundary" required),
                [])
          | none => .ok (none, address :: rest)) := by
  -- The verdict on the URL is known, so the resolver decides.
  unfold evaluateRuntimeTarget
  rw [Eff.ofExcept_bind, h]
  dsimp only
  rw [resolveHost_bind]
  cases world.resolve past host port with
  | error e => rfl
  | ok addresses =>
      cases addresses with
      | nil => rfl
      | cons address rest =>
          dsimp only
          cases refusedAddress options.grants (address :: rest) <;> rfl

/-- The HTTP gate lets a request through exactly when its early tests admit the
    target and no answered address is refused. -/
theorem evaluateRuntimeTarget_ok {plan : RequestPlan} {target : Url} {method : Str}
    {past : List Event} {addresses : List SocketAddr} :
    (evaluateRuntimeTarget lib world plan target method options past).1 = .ok (none, addresses) ↔
      ∃ host port, runtimeTarget lib plan target method options = .ok (.ok (host, port)) ∧
        world.resolve past host port = .ok addresses ∧ addresses ≠ [] ∧
        refusedAddress options.grants addresses = none := by
  -- Without a verdict on the URL nothing is resolved.
  cases hverdict : runtimeTarget lib plan target method options with
  | error e =>
      unfold evaluateRuntimeTarget
      rw [Eff.ofExcept_bind, hverdict]
      simp only [reduceCtorEq, false_and, exists_false]
  | ok verdict =>
      cases verdict with
      | error d =>
          unfold evaluateRuntimeTarget
          rw [Eff.ofExcept_bind, hverdict]
          simp only [Except.ok.injEq, reduceCtorEq, false_and, exists_false, iff_false]
          intro h
          cases h
      | ok hostPort =>
          rcases hostPort with ⟨host, port⟩
          rw [evaluateRuntimeTarget_eq hverdict]
          simp only [Except.ok.injEq, Prod.mk.injEq]
          constructor
          · intro h
            -- Passing means an answer that is not empty and has no address to refuse.
            refine ⟨host, port, ⟨rfl, rfl⟩, ?_⟩
            split at h
            · cases h
            · cases h
            · rename_i hanswer
              split at h
              · cases h
              · rename_i hnone
                cases h
                exact ⟨hanswer, List.cons_ne_nil _ _, hnone⟩
          · rintro ⟨_, _, ⟨rfl, rfl⟩, hanswer, hne, hnone⟩
            rw [hanswer]
            cases addresses with
            | nil => exact absurd rfl hne
            | cons address rest =>
                dsimp only
                rw [hnone]

/-- The WebSocket gate after its early tests. -/
theorem evaluateWebsocketTarget_eq {plan : WebSocketPlan} {target : Url} {host : Str} {port : Nat}
    {past : List Event} (h : websocketRuntimeTarget plan target options = .ok (host, port)) :
    (evaluateWebsocketTarget world plan target options past).1 =
      (match world.resolve past (stripBrackets host) port with
        | .error _ => .error .dns
        | .ok addresses =>
            if addresses.isEmpty || addresses.any (fun address => address.port ≠ port) then
              .error .dns
            else match refusedAddress options.grants addresses with
              | some required => .ok (.error
                  (websocketDenial plan "resolved address is denied by the network boundary"
                    required))
              | none => .ok (.ok addresses)) := by
  -- The verdict on the URL is known, so the resolver decides.
  unfold evaluateWebsocketTarget
  rw [h]
  dsimp only
  rw [resolveHost_bind]
  cases world.resolve past (stripBrackets host) port with
  | error e => rfl
  | ok addresses =>
      dsimp only
      split
      · rfl
      · cases refusedAddress options.grants addresses <;> rfl

/-- The WebSocket gate lets a request through exactly when its early tests
    admit the target, every answer has the port of the target and no answered
    address is refused. -/
theorem evaluateWebsocketTarget_ok {plan : WebSocketPlan} {target : Url} {past : List Event}
    {addresses : List SocketAddr} :
    (evaluateWebsocketTarget world plan target options past).1 = .ok (.ok addresses) ↔
      ∃ host port, websocketRuntimeTarget plan target options = .ok (host, port) ∧
        world.resolve past (stripBrackets host) port = .ok addresses ∧ addresses ≠ [] ∧
        (∀ address ∈ addresses, address.port = port) ∧
        refusedAddress options.grants addresses = none := by
  -- Without a verdict on the URL nothing is resolved.
  cases hverdict : websocketRuntimeTarget plan target options with
  | error d =>
      unfold evaluateWebsocketTarget
      rw [hverdict]
      simp only [reduceCtorEq, false_and, exists_false, iff_false]
      intro h
      cases h
  | ok hostPort =>
      rcases hostPort with ⟨host, port⟩
      rw [evaluateWebsocketTarget_eq hverdict]
      -- The resolver must answer with addresses of this port.
      have hshape (l : List SocketAddr) :
          (l.isEmpty || l.any (fun address => address.port ≠ port)) = true ↔
            ¬ (l ≠ [] ∧ ∀ address ∈ l, address.port = port) := by
        simp only [Bool.or_eq_true, List.isEmpty_iff, List.any_eq_true, decide_eq_true_eq, not_and,
          not_forall, ne_eq]
        tauto
      simp only [Except.ok.injEq, Prod.mk.injEq]
      constructor
      · intro h
        -- Passing means such an answer without an address to refuse.
        refine ⟨host, port, ⟨rfl, rfl⟩, ?_⟩
        split at h
        · cases h
        · rename_i l hanswer
          split at h
          · cases h
          · rename_i hports
            rw [hshape, not_not] at hports
            split at h
            · cases h
            · rename_i hnone
              cases h
              exact ⟨hanswer, hports.1, hports.2, hnone⟩
      · rintro ⟨_, _, ⟨rfl, rfl⟩, hanswer, hne, hports, hnone⟩
        rw [hanswer]
        dsimp only
        rw [if_neg (fun h => (hshape addresses).mp h ⟨hne, hports⟩), hnone]

/-! ### The effects -/

/-- The HTTP gate only resolves names, and what it lets through is admitted. -/
theorem evaluateRuntimeTarget_ensures {plan : RequestPlan} {target : Url} {method : Str}
    {P : Event → Prop} (hresolve : ∀ host port, P (.resolve host port)) :
    Ensures (evaluateRuntimeTarget lib world plan target method options)
      (fun r => r.1 = none → ∃ host port, target.host = some host ∧
        target.portOrKnownDefault = some port ∧
        Admitted options.grants target.scheme host port r.2) P := by
  -- The one event is the resolution.
  have hevents : Ensures (evaluateRuntimeTarget lib world plan target method options)
      (fun _ => True) P := by
    unfold evaluateRuntimeTarget
    refine .bind (.ofExcept fun _ _ => trivial) (fun verdict _ => ?_)
    cases verdict with
    | error d => exact .pure trivial
    | ok hostPort =>
        refine .bind (resolveHost_ensures world (hresolve hostPort.1 hostPort.2))
          (fun answer _ => ?_)
        split
        · exact .fail
        · exact .fail
        · split <;> exact .pure trivial
  refine hevents.result ?_
  rintro past ⟨verdict, addresses⟩ hr hnone
  dsimp only at hnone
  subst hnone
  -- What the gate let through is what it checked.
  rcases evaluateRuntimeTarget_ok.mp hr with ⟨host, port, hearly, _, hne, hrefused⟩
  rcases runtimeTarget_ok.mp hearly with ⟨hscheme, _, hplain, hhost, hport, hgrant, _⟩
  refine ⟨host, port, hhost, hport, ⟨hgrant, ⟨hplain, ?_⟩, hne, ?_⟩⟩
  · intro hws
    rw [hws] at hscheme
    exact absurd hscheme (by decide)
  · exact refusedAddress_eq_none.mp hrefused

/-- The WebSocket gate only resolves names, and what it lets through is
    admitted. -/
theorem evaluateWebsocketTarget_ensures {plan : WebSocketPlan} {target : Url} {P : Event → Prop}
    (hresolve : ∀ host port, P (.resolve host port)) :
    Ensures (evaluateWebsocketTarget world plan target options)
      (fun r => ∀ addresses, r = .ok addresses → ∃ host port, target.host = some host ∧
        target.portOrKnownDefault = some port ∧
        Admitted options.grants target.scheme host port addresses) P := by
  -- The one event is the resolution.
  have hevents : Ensures (evaluateWebsocketTarget world plan target options) (fun _ => True) P := by
    unfold evaluateWebsocketTarget
    split
    · exact .pure trivial
    · rename_i host port _
      refine .bind (resolveHost_ensures world (hresolve _ _)) (fun answer _ => ?_)
      split
      · exact .fail
      · split
        · exact .fail
        · split <;> exact .pure trivial
  refine hevents.result ?_
  rintro past _ hr addresses rfl
  -- What the gate let through is what it checked.
  rcases evaluateWebsocketTarget_ok.mp hr with ⟨host, port, hearly, _, hne, _, hrefused⟩
  rcases websocketRuntimeTarget_ok.mp hearly with ⟨⟨hscheme, _⟩, hhost, hport, hgrant, hplain⟩
  refine ⟨host, port, hhost, hport, ⟨hgrant.1, ⟨?_, hplain⟩, hne, ?_⟩⟩
  · intro hhttp
    rw [hhttp] at hscheme
    exact absurd hscheme (by decide)
  · exact refusedAddress_eq_none.mp hrefused

end

end Kahea
