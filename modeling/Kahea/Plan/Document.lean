import Kahea.Core.Decode
import Kahea.Ingest
import Kahea.Plan.Session

/-!
# Session Documents

The WebSocket planner over the bytes of a document: the parser, the record the
document is read as, the identity of the session and the seal.

A workflow step with bindings goes this way when it runs. The document is then
the patched source of the step, written and read back under a name that ends in
`.json`, so only the JSON parser is met.

## Main definitions

* `parseJsonDocument`: The parser of a `.json` document.
* `WebSocketSessionSource.fromJson`: The session a document describes.
* `buildWebsocketPlanWithConfiguration`: From bytes to a sealed plan.
-/

namespace Kahea

def u32Bound : Nat := 4294967296

/-- A map of texts. -/
def decodeTexts (v : Value) : Option (List (Str × Str)) :=
  (decodeMap v).bind (fun members => members.mapM (fun e => e.2.asStr.map (fun s => (e.1, s))))

/-- The members a session document may have. -/
def WebSocketSessionSource.fields : List String :=
  ["kind", "version", "operationId", "url", "risk", "headers", "auth", "origin", "subprotocols",
    "limits", "actions"]

/-- `deny_unknown_fields`, then field by field. -/
def WebSocketSessionSource.fromJson (v : Value) : Option WebSocketSessionSource := do
  let m ← structMembers WebSocketSessionSource.fields 11 v
  denyUnknown WebSocketSessionSource.fields m
  let kind ← required Value.asStr m "kind"
  let version ← required (decodeUnsigned u32Bound) m "version"
  let operationId ← required Value.asStr m "operationId"
  let url ← required Value.asStr m "url"
  let risk ← nullable RiskClass.fromJson m "risk"
  let headers ← defaulted [] decodeTexts m "headers"
  let auth ← nullable Value.asStr m "auth"
  let origin ← nullable Value.asStr m "origin"
  let subprotocols ← defaulted [] decodeStrings m "subprotocols"
  let limits ← required WebSocketLimits.fromJson m "limits"
  let actions ← required (decodeList WebSocketAction.fromJson) m "actions"
  pure { kind, version, operationId, url, risk, headers, auth, origin, subprotocols, limits,
         actions }

section

variable (lib : Crates)

/-- The function `parse_document` for a path that ends in `.json`. -/
def parseJsonDocument (bytes : List UInt8) : Except IngestError Value := do
  ensure (bytes.length ≤ MAX_SOURCE_BYTES)
    (.parse ("source exceeds the " ++ decimal MAX_SOURCE_BYTES ++ " byte parser limit"))
  (lib.parseJson bytes).mapError IngestError.parse

/-- The planner of the bytes of a JSON document. The text `describe` gives is
    what the decoder reports of a value that is no session. -/
def buildWebsocketPlanWithConfiguration (describe : Value → Str) (bytes : List UInt8)
    (configuration : ProjectConfiguration) : Except PlanError WebSocketPlan := do
  let document ← (parseJsonDocument lib bytes).mapError (fun e => .invalidWebSocketSource e.text)
  match WebSocketSessionSource.fromJson document with
  | none => .error (.invalidWebSocketSource (describe document))
  | some source => do
      validateWebsocketSourceIdentity source
      let sourceFingerprint := digest lib bytes
      let operation := shortHandle lib "op" [utf8 sourceFingerprint, utf8 source.operationId]
      sealWebsocketSource lib source [sourceFingerprint] operation configuration

end

end Kahea
