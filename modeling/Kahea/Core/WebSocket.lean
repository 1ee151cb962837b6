import Kahea.Base.Effect
import Kahea.Core.Domain

/-!
# WebSocket Plans

The WebSocket half of `kahea-core`: session limits, the actions of a session,
the session source a user writes and the sealed plan made from it.

A plan is normalised and validated before it is sealed, so a sealed plan has
sorted grants and at least one action, and its outbound traffic fits its own
limits. `verifySeal` does not validate again; only the digest is compared.

## Main definitions

* `WebSocketLimits`, `WebSocketAction`: Limits and actions.
* `WebSocketSessionSource`: A session as the user writes it.
* `WebSocketPlan`: The sealed plan.
* `WebSocketPlan.validate`, `WebSocketPlan.sealed`: Validation and the seal.

## Theorems

* `WebSocketPlan.sealed_ok`: What sealing returns.
* `WebSocketPlan.validate_ok`: What a valid plan has passed.
* `outboundTotals_terminal`: The last action of a valid plan ends it.
-/

namespace Kahea

structure WebSocketLimits where
  connectTimeoutMs : Nat
  actionTimeoutMs : Nat
  idleTimeoutMs : Nat
  closeTimeoutMs : Nat
  totalTimeoutMs : Nat
  maxFrameBytes : Nat
  maxMessageBytes : Nat
  maxInboundFrames : Nat
  maxOutboundFrames : Nat
  maxInboundMessages : Nat
  maxOutboundMessages : Nat
  maxInboundBytes : Nat
  maxOutboundBytes : Nat
  deriving DecidableEq, Repr

/-- The actions of a session. -/
inductive WebSocketAction where
  | sendText (text : Str)
  | sendBinary (payloadBase64 : Str)
  | expectText (equals : Str) (timeoutMs : Option Nat)
  | expectBinary (payloadBase64 : Str) (timeoutMs : Option Nat)
  | expectJson (pointer : Option Str) (equals schema : Option Value) (timeoutMs : Option Nat)
  | ping (payloadBase64 : Str)
  | expectPong (payloadBase64 : Str) (timeoutMs : Option Nat)
  | close (code : Nat) (reason : Str)
  | expectClose (codes : List Nat) (reason : Option Str) (timeoutMs : Option Nat)
  deriving DecidableEq, Repr

/-- Whether the action sends a data message. -/
def WebSocketAction.sendsData : WebSocketAction → Bool
  | sendText _ | sendBinary _ => true
  | _ => false

/-- Whether the action ends the session. -/
def WebSocketAction.isTerminal : WebSocketAction → Bool
  | close _ _ | expectClose _ _ _ => true
  | _ => false

/-- A session as the user writes it. -/
structure WebSocketSessionSource where
  kind : Str
  version : Nat
  operationId : Str
  url : Str
  risk : Option RiskClass
  headers : List (Str × Str)
  auth : Option Str
  origin : Option Str
  subprotocols : List Str
  limits : WebSocketLimits
  actions : List WebSocketAction
  deriving DecidableEq, Repr

/-- A sealed WebSocket session. -/
structure WebSocketPlan where
  protocol : Str
  kind : Str
  version : Str
  configFingerprint : Str
  policyFingerprint : Str
  sourceFingerprints : List Str
  id : Str
  operation : Str
  target : Str
  risk : RiskClass
  requiredGrants : List Str
  secretRefs : List Str
  headers : List PlannedHeader
  auth : Option PlannedAuth
  origin : Option Str
  subprotocols : List Str
  handshakeChecks : List Str
  limits : WebSocketLimits
  actions : List WebSocketAction
  sensitiveHeaders : List Str
  redactResponseJsonPointers : List Str
  valid : Bool
  fingerprint : Str
  exit : Nat
  deriving DecidableEq, Repr

/-! ### Serialisation -/

def WebSocketLimits.toJson (l : WebSocketLimits) : Value :=
  jsonObject [("connect_timeout_ms", jsonNat l.connectTimeoutMs),
    ("action_timeout_ms", jsonNat l.actionTimeoutMs), ("idle_timeout_ms", jsonNat l.idleTimeoutMs),
    ("close_timeout_ms", jsonNat l.closeTimeoutMs), ("total_timeout_ms", jsonNat l.totalTimeoutMs),
    ("max_frame_bytes", jsonNat l.maxFrameBytes), ("max_message_bytes", jsonNat l.maxMessageBytes),
    ("max_inbound_frames", jsonNat l.maxInboundFrames),
    ("max_outbound_frames", jsonNat l.maxOutboundFrames),
    ("max_inbound_messages", jsonNat l.maxInboundMessages),
    ("max_outbound_messages", jsonNat l.maxOutboundMessages),
    ("max_inbound_bytes", jsonNat l.maxInboundBytes),
    ("max_outbound_bytes", jsonNat l.maxOutboundBytes)]

def WebSocketAction.toJson : WebSocketAction → Value
  | sendText text => jsonObject [("type", .string "send-text"), ("text", .string text)]
  | sendBinary payload =>
      jsonObject [("type", .string "send-binary"), ("payload_base64", .string payload)]
  | expectText equals timeout =>
      jsonObject [("type", .string "expect-text"), ("equals", .string equals),
        ("timeout_ms", optional jsonNat timeout)]
  | expectBinary payload timeout =>
      jsonObject [("type", .string "expect-binary"), ("payload_base64", .string payload),
        ("timeout_ms", optional jsonNat timeout)]
  | expectJson pointer equals schema timeout =>
      jsonObject [("type", .string "expect-json"), ("pointer", optional .string pointer),
        ("equals", optional id equals), ("schema", optional id schema),
        ("timeout_ms", optional jsonNat timeout)]
  | ping payload => jsonObject [("type", .string "ping"), ("payload_base64", .string payload)]
  | expectPong payload timeout =>
      jsonObject [("type", .string "expect-pong"), ("payload_base64", .string payload),
        ("timeout_ms", optional jsonNat timeout)]
  | close code reason =>
      jsonObject [("type", .string "close"), ("code", jsonNat code), ("reason", .string reason)]
  | expectClose codes reason timeout =>
      jsonObject [("type", .string "expect-close"), ("codes", .array (codes.map jsonNat)),
        ("reason", optional .string reason), ("timeout_ms", optional jsonNat timeout)]

namespace WebSocketPlan

def toJson (p : WebSocketPlan) : Value :=
  jsonObject [("protocol", .string p.protocol), ("kind", .string p.kind),
    ("version", .string p.version), ("config_fingerprint", .string p.configFingerprint),
    ("policy_fingerprint", .string p.policyFingerprint),
    ("source_fingerprints", stringArray p.sourceFingerprints), ("id", .string p.id),
    ("operation", .string p.operation), ("target", .string p.target),
    ("risk", .string p.risk.text), ("required_grants", stringArray p.requiredGrants),
    ("secret_refs", stringArray p.secretRefs),
    ("headers", .array (p.headers.map PlannedHeader.toJson)),
    ("auth", optional PlannedAuth.toJson p.auth), ("origin", optional .string p.origin),
    ("subprotocols", stringArray p.subprotocols),
    ("handshake_checks", stringArray p.handshakeChecks), ("limits", p.limits.toJson),
    ("actions", .array (p.actions.map WebSocketAction.toJson)),
    ("sensitive_headers", stringArray p.sensitiveHeaders),
    ("redact_response_json_pointers", stringArray p.redactResponseJsonPointers),
    ("valid", .bool p.valid), ("fingerprint", .string p.fingerprint), ("exit", jsonNat p.exit)]

end WebSocketPlan

/-! ### Validation -/

/-- The `Invalid` error of a plan, with its reason; serialising one cannot
    fail. -/
structure WebSocketPlanError where
  reason : Str
  deriving DecidableEq, Repr

/-- The text of the error. -/
def WebSocketPlanError.text (e : WebSocketPlanError) : Str := "invalid WebSocket plan: " ++ e.reason

def validateWebsocketLimits (l : WebSocketLimits) : Except WebSocketPlanError Unit := do
  ensure (!([l.connectTimeoutMs, l.actionTimeoutMs, l.idleTimeoutMs, l.closeTimeoutMs,
      l.totalTimeoutMs, l.maxFrameBytes, l.maxMessageBytes, l.maxInboundFrames,
      l.maxOutboundFrames, l.maxInboundMessages, l.maxOutboundMessages, l.maxInboundBytes,
      l.maxOutboundBytes].contains 0)) ⟨"all session limits must be positive"⟩
  ensure (!(l.maxMessageBytes < l.maxFrameBytes || l.totalTimeoutMs < l.connectTimeoutMs ||
      l.totalTimeoutMs < l.actionTimeoutMs || l.totalTimeoutMs < l.idleTimeoutMs ||
      l.totalTimeoutMs < l.closeTimeoutMs))
    ⟨"session limits contradict their total or frame bounds"⟩

/-- A token of the HTTP grammar. -/
def validToken (value : Str) : Bool :=
  value ≠ [] && value.all (fun c => c.isAlphanum || "!#$%&'*+-.^_`|~".toList.contains c)

/-- The headers a caller may not set on a handshake. -/
def protocolOwned : List Str :=
  ["host", "upgrade", "connection", "sec-websocket-key", "sec-websocket-version",
    "sec-websocket-protocol", "sec-websocket-extensions", "content-length",
    "transfer-encoding"].map String.toList

/-- The loop over the headers; `names` are those seen before. -/
def validateWebsocketHeadersFrom (names : List Str) :
    List PlannedHeader → Except WebSocketPlanError Unit
  | [] => .ok ()
  | header :: rest => do
      let name := lower header.name
      ensure (validToken header.name && !(header.name.any (fun c => c == '\r' || c == '\n')) &&
        !(header.value.any (fun c => c == '\r' || c == '\n'))) ⟨"invalid handshake header"⟩
      ensure (!(protocolOwned.contains name))
        ⟨"header " ++ debugQuote header.name ++ " is owned by the WebSocket transport"⟩
      ensure (!(names.contains name)) ⟨"duplicate handshake header"⟩
      validateWebsocketHeadersFrom (name :: names) rest

def validateWebsocketHeaders (headers : List PlannedHeader) : Except WebSocketPlanError Unit :=
  validateWebsocketHeadersFrom [] headers

def validateSubprotocols : List Str → Except WebSocketPlanError Unit
  | subprotocols =>
      ensure (subprotocols.all validToken && decide subprotocols.Nodup)
        ⟨"subprotocols must be unique RFC tokens"⟩

def decodeCanonicalBase64 (value : Str) : Except WebSocketPlanError (List UInt8) :=
  match base64Decode value with
  | none => .error ⟨"payload is not valid base64"⟩
  | some decoded =>
      if base64Encode decoded = value then .ok decoded
      else .error ⟨"payload base64 is not canonical padded RFC 4648"⟩

def validCloseCode (code : Nat) : Bool :=
  (1000 ≤ code && code ≤ 1003) || (1007 ≤ code && code ≤ 1014) || (3000 ≤ code && code ≤ 4999)

def validateActionTimeout (timeoutMs : Option Nat) (limits : WebSocketLimits) :
    Except WebSocketPlanError Unit :=
  ensure (!(timeoutMs.any (fun t => t == 0 || limits.actionTimeoutMs < t)))
    ⟨"action timeout must be positive and cannot loosen the session action timeout"⟩

/-- The closure `message_limit`. -/
def messageLimit (limits : WebSocketLimits) (bytes : Nat) : Except WebSocketPlanError Nat :=
  if limits.maxMessageBytes < bytes ∨ limits.maxFrameBytes < bytes then
    .error ⟨"inline message exceeds the sealed frame or message limit"⟩
  else .ok bytes

/-- The frames, messages and bytes an action sends, and whether it ends the
    session. -/
def validateWebsocketAction (action : WebSocketAction) (limits : WebSocketLimits) :
    Except WebSocketPlanError (Nat × Nat × Nat × Bool) :=
  match action with
  | .sendText text => do
      let bytes ← messageLimit limits (utf8 text).length
      pure (1, 1, bytes, false)
  | .sendBinary payload => do
      let decoded ← decodeCanonicalBase64 payload
      let bytes ← messageLimit limits decoded.length
      pure (1, 1, bytes, false)
  | .expectText equals timeout => do
      validateActionTimeout timeout limits
      let _ ← messageLimit limits (utf8 equals).length
      pure (0, 0, 0, false)
  | .expectBinary payload timeout => do
      validateActionTimeout timeout limits
      let decoded ← decodeCanonicalBase64 payload
      let _ ← messageLimit limits decoded.length
      pure (0, 0, 0, false)
  | .expectJson pointer equals schema timeout => do
      validateActionTimeout timeout limits
      ensure (equals.isSome || schema.isSome) ⟨"expect-json requires equals or schema"⟩
      ensure (!(pointer.any (fun p =>
          2048 < (utf8 p).length || (p ≠ [] && !(startsWith "/" p)))))
        ⟨"expect-json pointer is not a bounded JSON Pointer"⟩
      let _ ← (equals.toList ++ schema.toList).mapM
        (fun v => messageLimit limits (utf8 v.render).length)
      pure (0, 0, 0, false)
  | .ping payload => do
      let decoded ← decodeCanonicalBase64 payload
      ensure (decoded.length ≤ 125) ⟨"ping payload exceeds 125 bytes"⟩
      pure (1, 0, decoded.length, false)
  | .expectPong payload timeout => do
      validateActionTimeout timeout limits
      let decoded ← decodeCanonicalBase64 payload
      ensure (decoded.length ≤ 125) ⟨"pong payload exceeds 125 bytes"⟩
      pure (0, 0, 0, false)
  | .close code reason => do
      ensure (validCloseCode code && (utf8 reason).length ≤ 123) ⟨"invalid close code or reason"⟩
      pure (1, 0, (utf8 reason).length + 2, true)
  | .expectClose codes reason timeout => do
      validateActionTimeout timeout limits
      ensure (codes ≠ [] && codes.all validCloseCode &&
        !(reason.any (fun r => 123 < (utf8 r).length))) ⟨"invalid expected close code or reason"⟩
      pure (0, 0, 0, true)

/-- An addition of unsigned 64-bit integers that must not overflow. -/
def checkedAdd (a b : Nat) (message : Str) : Except WebSocketPlanError Nat :=
  if a + b < u64Bound then .ok (a + b) else .error ⟨message⟩

/-- The totals of the loop in `validate`. -/
structure OutboundTotals where
  terminalCount : Nat
  frames : Nat
  messages : Nat
  bytes : Nat

/-- The loop over the actions of a plan. -/
def outboundTotals (limits : WebSocketLimits) (t : OutboundTotals) :
    List WebSocketAction → Except WebSocketPlanError OutboundTotals
  | [] => .ok t
  | action :: rest => do
      let (frames, messages, bytes, terminal) ← validateWebsocketAction action limits
      let frames ← checkedAdd t.frames frames "outbound frame count overflow"
      let messages ← checkedAdd t.messages messages "outbound message count overflow"
      let bytes ← checkedAdd t.bytes bytes "outbound byte count overflow"
      ensure (!terminal || rest.isEmpty) ⟨"the terminal close action must be last"⟩
      outboundTotals limits
        ⟨if terminal then t.terminalCount + 1 else t.terminalCount, frames, messages, bytes⟩ rest

namespace WebSocketPlan

def validate (p : WebSocketPlan) : Except WebSocketPlanError Unit := do
  ensure (p.protocol = PROTOCOL && p.kind = "websocket-plan" && p.valid && p.exit = 0)
    ⟨"protocol, kind, valid, or exit marker is inconsistent"⟩
  ensure (!p.actions.isEmpty) ⟨"actions are empty"⟩
  validateWebsocketLimits p.limits
  validateWebsocketHeaders p.headers
  validateSubprotocols p.subprotocols
  let t ← outboundTotals p.limits ⟨0, 0, 0, 0⟩ p.actions
  ensure (t.terminalCount = 1) ⟨"exactly one terminal close action is required"⟩
  ensure (t.frames ≤ p.limits.maxOutboundFrames && t.messages ≤ p.limits.maxOutboundMessages &&
      t.bytes ≤ p.limits.maxOutboundBytes)
    ⟨"sealed outbound actions exceed the session limits"⟩

/-- Sorted close codes. -/
def normalizeAction : WebSocketAction → WebSocketAction
  | .expectClose codes reason timeout =>
      .expectClose (dedup (codes.insertionSort (· ≤ ·))) reason timeout
  | action => action

/-- Sort what is a set. Headers are ordered by lower-case name and then by
    name. -/
def normalize (p : WebSocketPlan) : WebSocketPlan :=
  { p with
    requiredGrants := dedup (sortStrings p.requiredGrants)
    secretRefs := dedup (sortStrings p.secretRefs)
    handshakeChecks := dedup (sortStrings p.handshakeChecks)
    sensitiveHeaders := dedup (sortStrings (p.sensitiveHeaders.map lower))
    redactResponseJsonPointers := dedup (sortStrings p.redactResponseJsonPointers)
    headers := p.headers.insertionSort (fun a b =>
      strLt (lower a.name) (lower b.name) ||
        (lower a.name = lower b.name && strLe a.name b.name))
    actions := p.actions.map normalizeAction }

variable (lib : Crates)

/-- The bytes the seal is the digest of. -/
def material (p : WebSocketPlan) : List UInt8 :=
  utf8 ({ p with id := [], fingerprint := [] }).toJson.render

/-- The method `seal`. -/
def sealed (p : WebSocketPlan) : Except WebSocketPlanError WebSocketPlan := do
  let p := p.normalize
  p.validate
  let fingerprint := digest lib p.material
  pure { p with fingerprint := fingerprint, id := RequestPlan.handleOf lib fingerprint }

/-- Whether the fingerprint and the handle are those of the content. -/
def verifySeal (p : WebSocketPlan) : Bool :=
  digest lib p.material = p.fingerprint && p.id = RequestPlan.handleOf lib p.fingerprint

/-- Sealing returns the normalised plan, which is valid. -/
theorem sealed_ok (p q : WebSocketPlan) (h : p.sealed lib = .ok q) :
    p.normalize.validate = .ok () ∧
      q = { p.normalize with
        fingerprint := digest lib p.normalize.material
        id := RequestPlan.handleOf lib (digest lib p.normalize.material) } := by
  simp only [sealed] at h
  cases hv : p.normalize.validate with
  | error e => rw [hv] at h; cases h
  | ok u => rw [hv] at h; cases h; exact ⟨rfl, rfl⟩

@[simp] theorem mem_requiredGrants_normalize (p : WebSocketPlan) (g : Str) :
    g ∈ p.normalize.requiredGrants ↔ g ∈ p.requiredGrants := by
  simp only [normalize, mem_dedup, mem_sortStrings]

end WebSocketPlan

/-! ### The actions of a valid plan -/

section

variable {limits : WebSocketLimits}

theorem validateWebsocketAction_terminal {action : WebSocketAction}
    {cost : Nat × Nat × Nat × Bool} (h : validateWebsocketAction action limits = .ok cost) :
    cost.2.2.2 = action.isTerminal := by
  cases action <;>
    simp only [validateWebsocketAction, except_bind_ok, except_pure_ok] at h <;>
    first
      | (rcases h with ⟨_, _, rfl⟩; rfl)
      | (rcases h with ⟨_, _, _, _, rfl⟩; rfl)
      | (rcases h with ⟨_, _, _, _, _, _, rfl⟩; rfl)
      | (rcases h with ⟨_, _, _, _, _, _, _, _, rfl⟩; rfl)

/-- One pass of the loop of `validate`. -/
theorem outboundTotals_cons {t t' : OutboundTotals} {action : WebSocketAction}
    {rest : List WebSocketAction} (h : outboundTotals limits t (action :: rest) = .ok t') :
    ∃ cost u, validateWebsocketAction action limits = .ok cost ∧
      u.frames = t.frames + cost.1 ∧ u.messages = t.messages + cost.2.1 ∧
      u.bytes = t.bytes + cost.2.2.1 ∧
      u.terminalCount = t.terminalCount + (if action.isTerminal then 1 else 0) ∧
      (action.isTerminal = true → rest = []) ∧ outboundTotals limits u rest = .ok t' := by
  simp only [outboundTotals, except_bind_ok, ensure_ok] at h
  rcases h with ⟨⟨frames, messages, bytes, terminal⟩, hcost, f, hf, m, hm, b, hb, _, hlast, h⟩
  have hterminal := validateWebsocketAction_terminal hcost
  -- A checked sum that succeeds is the sum.
  have hadd : ∀ {x y z : Nat} {message : Str}, checkedAdd x y message = .ok z → z = x + y := by
    intro x y z message hxy
    unfold checkedAdd at hxy
    split at hxy
    · exact (Except.ok.inj hxy).symm
    · cases hxy
  simp only at hterminal
  refine ⟨_, _, hcost, hadd hf, hadd hm, hadd hb, ?_, ?_, h⟩
  · simp only [hterminal]
    split <;> rfl
  -- An action that ends the session has none after it.
  · intro hisTerminal
    rw [hterminal, hisTerminal, Bool.not_true, Bool.false_or] at hlast
    exact List.isEmpty_iff.mp hlast

/-- Of the actions of a valid plan the last one ends the session, and no
    other. -/
theorem outboundTotals_terminal {actions : List WebSocketAction} {t t' : OutboundTotals}
    (h : outboundTotals limits t actions = .ok t') (hcount : t'.terminalCount = t.terminalCount + 1) :
    ∃ first last, actions = first ++ [last] ∧ last.isTerminal = true ∧
      ∀ action ∈ first, action.isTerminal = false := by
  -- By the actions: one that ends the session is the last, and one is counted.
  induction actions generalizing t with
  | nil =>
      cases h
      omega
  | cons action rest ih =>
      rcases outboundTotals_cons h with ⟨cost, u, _, _, _, _, hu, hlast, hrest⟩
      cases hterminal : action.isTerminal with
      | true =>
          refine ⟨[], action, ?_, hterminal, fun _ ha => absurd ha List.not_mem_nil⟩
          rw [hlast hterminal]
          rfl
      | false =>
          simp only [hterminal, Bool.false_eq_true, if_false, Nat.add_zero] at hu
          rcases ih hrest (by omega) with ⟨first, last, rfl, hterm, hfirst⟩
          refine ⟨action :: first, last, rfl, hterm, fun a ha => ?_⟩
          rcases List.mem_cons.mp ha with rfl | ha
          · exact hterminal
          · exact hfirst a ha

/-- What a valid plan has passed. -/
theorem WebSocketPlan.validate_ok {p : WebSocketPlan} {u : Unit} (h : p.validate = .ok u) :
    ∃ t, outboundTotals p.limits ⟨0, 0, 0, 0⟩ p.actions = .ok t ∧ t.terminalCount = 1 ∧
      t.frames ≤ p.limits.maxOutboundFrames ∧ t.messages ≤ p.limits.maxOutboundMessages ∧
      t.bytes ≤ p.limits.maxOutboundBytes ∧ validateWebsocketLimits p.limits = .ok () := by
  simp only [validate, except_bind_ok, ensure_ok, exists_const, Bool.and_eq_true,
    decide_eq_true_eq] at h
  rcases h with ⟨_, _, ⟨⟩, hlimits, _, _, _, _, t, ht, hcount, ⟨hframes, hmessages⟩, hbytes⟩
  exact ⟨t, ht, hcount, hframes, hmessages, hbytes, hlimits⟩

end

end Kahea
