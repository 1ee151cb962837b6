import Kahea.Base.Effect
import Kahea.Ingest.Resolve

/-!
# AsyncAPI Sources

The operations of an AsyncAPI document. A document of version 2.6 lists them
under its channels, one of version 3.0 under its operations, and an operation
with several messages is one operation for each of them, told apart by a
suffix of its id.

What the WebSocket executor cannot carry out is recorded with the operation.

## Main definitions

* `AsyncApiSource`, `AsyncApiOperation`: A source and one operation of it.
* `makeOperation`: An operation with what is absent from it.
* `collectV2`, `collectV3`: The operations of a document.
* `resolveAsyncapiOperation`: The operation a selector means.
* `loadAsyncapi`: A document that is accepted as a source.
-/

namespace Kahea

structure AsyncApiSource where
  document : Value
  sourceFingerprint : Str
  sourceHandle : Str
  version : Str

inductive DiagnosticSeverity where
  | info
  | warning
  | error
  deriving DecidableEq, Repr

structure AbsentCapability where
  capability : Str
  reason : Str
  location : Str
  severity : DiagnosticSeverity
  blocking : Bool
  deriving DecidableEq, Repr

structure AsyncApiOperation where
  handle : Str
  operationId : Str
  action : Str
  channelName : Str
  channelAddress : Str
  serverNames : List Str
  messageName : Str
  message : Value
  operation : Value
  channel : Value
  location : Str
  absent : List AbsentCapability
  deriving DecidableEq

/-! ### Small helpers -/

/-- The text member of a value. -/
def Value.text (value : Value) (key : Str) : Option Str := (value.get key).bind Value.asStr

/-- The list member of a value. -/
def Value.list (value : Value) (key : Str) : Option (List Value) :=
  (value.get key).bind Value.asArray

/-- What comes after the last slash of a reference. -/
def refTail (value : Value) : Option Str :=
  (referenceOf value).map (fun reference => reference.rtakeWhile (fun c => decide (c ≠ '/')))

/-- The id of one of several variants of an operation. -/
def variantId (base name : Str) (index count : Nat) : Str :=
  if count = 1 then base else base ++ '#' :: name ++ '-' :: decimal (index + 1)

def absence (capability reason location : Str) (blocking : Bool) : AbsentCapability :=
  { capability, reason, location
    severity := if blocking then .error else .warning
    blocking }

/-- The absences of a binding other than WebSocket, and of the fields of a
    WebSocket binding that are not supported. -/
def scanBindings (bindings : Option Value) (location : Str) : List AbsentCapability :=
  match bindings.bind Value.asObject with
  | none => []
  | some bindings =>
      ((bindings.map Prod.fst).filter (fun name => decide (name ≠ "ws".toList))).map (fun name =>
        absence "asyncapi-protocol-binding"
          ("binding " ++ debugQuote name ++ " is outside the WebSocket subset")
          (location ++ '/' :: escapePointer name) true) ++
      ((((lookup "ws" bindings).bind Value.asObject).getD []).map Prod.fst).filterMap (fun name =>
        if oneOf ["headers", "bindingVersion"] name then none
        else some (absence "asyncapi-websocket-binding"
          ("WebSocket binding field " ++ debugQuote name ++ " is unsupported")
          (location ++ "/ws/" ++ escapePointer name) true))

/-- The example a message gives of its payload. -/
def concreteExample (message : Value) : Option Value :=
  (((message.list "examples").bind List.head?).bind (fun first => first.get "payload")).or
    ((message.get "payload").bind (fun payload =>
      (payload.get "example").or ((payload.get "default").or (payload.get "const"))))

/-! ### One operation -/

/-- Traits are not applied. -/
def traitsAbsence (owner : Str) (value : Value) (location : Str) : List AbsentCapability :=
  match value.list "traits" with
  | some (_ :: _) => [absence "asyncapi-traits"
      (owner ++ " traits are not applied by the finite WebSocket subset")
      (location ++ "/traits") true]
  | _ => []

/-- What an operation asks for and does not get. -/
def operationAbsences (action : Str) (operation channel message : Value) (location : Str) :
    List AbsentCapability :=
  let actions := (operation.get "x-kahea-actions").isSome
  (if (message.get "headers").isSome then
    [absence "asyncapi-message-headers"
      "message headers are envelope metadata and cannot be represented by a raw WebSocket frame"
      (location ++ "/message/headers") true] else []) ++
  (if (message.get "correlationId").isSome then
    [absence "asyncapi-correlation-id"
      "correlation metadata cannot be enforced by the raw WebSocket executor"
      (location ++ "/message/correlationId") true] else []) ++
  (if (operation.get "reply").isSome then
    [absence "asyncapi-reply" "reply ordering requires explicit x-kahea-actions"
      (location ++ "/reply") (!actions)] else []) ++
  traitsAbsence "operation" operation location ++
  traitsAbsence "message" message (location ++ "/message") ++
  (match message.text "schemaFormat" with
    | some format =>
        if "schema+json".toList <:+: format ∨ "json-schema".toList <:+: format then []
        else [absence "asyncapi-schema-format"
          ("schema format " ++ debugQuote format ++ " is outside the JSON Schema subset")
          (location ++ "/message/schemaFormat") true]
    | none => []) ++
  (if action = "send".toList ∧ (concreteExample message).isNone ∧ !actions then
    [absence "asyncapi-send-payload"
      ("a finite send requires a message example, payload example/default/const, or " ++
        "x-kahea-actions".toList)
      (location ++ "/message/payload") true] else []) ++
  (if action = "receive".toList ∧ (message.get "payload").isNone ∧
      (concreteExample message).isNone ∧ !actions then
    [absence "asyncapi-receive-contract"
      "a finite receive requires a payload schema/example or x-kahea-actions"
      (location ++ "/message/payload") true] else []) ++
  scanBindings (operation.get "bindings") (location ++ "/bindings") ++
  scanBindings (channel.get "bindings") (location ++ "/channel/bindings") ++
  scanBindings (message.get "bindings") (location ++ "/message/bindings")

/-- The servers of an operation: its own, those of its channel, or all. -/
def serverNames (document operation channel : Value) : List Str :=
  match ((operation.get "servers").or (channel.get "servers")).bind Value.asArray with
  | some values => values.filterMap (fun value => value.asStr.or (refTail value))
  | none => (((document.get "servers").bind Value.asObject).getD []).map Prod.fst

/-- What a server of an operation asks for and does not get. -/
def serverAbsences (document : Value) (name : Str) : Except IngestError (List AbsentCapability) :=
  match (document.get "servers").bind (fun servers => servers.get name) with
  | none => .ok []
  | some server => do
      let location := "#/servers/" ++ escapePointer name
      let server ← resolveValue document server location
      let protocol := (server.text "protocol").getD []
      pure ((if oneOf ["ws", "wss"] protocol then [] else
          [absence "asyncapi-server-protocol"
            ("server " ++ debugQuote name ++ " uses protocol " ++ debugQuote protocol ++
              ", outside the WebSocket subset")
            (location ++ "/protocol") false]) ++
        scanBindings (server.get "bindings") (location ++ "/bindings"))

/-- What tells the operations of a source apart. -/
structure OperationKey where
  action : Str
  channelName : Str
  operationId : Str
  messageName : Str
  deriving DecidableEq

section

variable (lib : Crates)

def OperationKey.handle (key : OperationKey) (sourceFingerprint : Str) : Str :=
  shortHandle lib "op" [utf8 sourceFingerprint, utf8 key.action, utf8 key.channelName,
    utf8 key.operationId, utf8 key.messageName]

def makeOperation (source : AsyncApiSource) (key : OperationKey) (channelAddress : Str)
    (operation channel message : Value) (location : Str) :
    Except IngestError AsyncApiOperation := do
  let names := serverNames source.document operation channel
  let servers ← names.mapM (serverAbsences source.document)
  pure
    { handle := key.handle lib source.sourceFingerprint
      operationId := key.operationId
      action := key.action
      channelName := key.channelName
      channelAddress := channelAddress
      serverNames := names
      messageName := key.messageName
      message := message
      operation := operation
      channel := channel
      location := location
      absent := operationAbsences key.action operation channel message location ++
        servers.flatten }

/-! ### Version 2.6 -/

/-- A message under its name, or the place it has among the variants. -/
def messageVariant (root : Value) (location : Str) (entry : Value × Nat) :
    Except IngestError (Str × Value) := do
  let message ← resolveValue root entry.1 (location ++ '/' :: decimal entry.2)
  pure (((message.text "name").or (refTail entry.1)).getD ("message-" ++ decimal (entry.2 + 1)),
    message)

def messageVariants (root raw : Value) (location : Str) :
    Except IngestError (List (Str × Value)) := do
  let resolved ← resolveValue root raw location
  ((resolved.list "oneOf").getD [raw]).zipIdx.mapM (messageVariant root location)

/-- The operations of one verb of a channel. -/
def collectVerb (source : AsyncApiSource) (channelName : Str) (channel : Value)
    (verb action : Str) : Except IngestError (List AsyncApiOperation) :=
  match channel.get verb with
  | none => .ok []
  | some raw => do
      let location := "#/channels/" ++ escapePointer channelName ++ '/' :: verb
      let operation ← resolveValue source.document raw location
      let baseId := (operation.text "operationId").getD (verb ++ ':' :: channelName)
      let message ← okOr (.invalidAsyncApi ("operation " ++ debugQuote baseId ++ " has no message"))
        (operation.get "message")
      let messages ← messageVariants source.document message (location ++ "/message")
      messages.zipIdx.mapM (fun entry =>
        makeOperation lib source
          ⟨action, channelName, variantId baseId entry.1.1 entry.2 messages.length, entry.1.1⟩
          channelName operation channel entry.1.2 location)

/-- The operations of one channel. -/
def collectChannel (source : AsyncApiSource) (entry : Str × Value) :
    Except IngestError (List AsyncApiOperation) := do
  let channel ← resolveValue source.document entry.2 ("#/channels/" ++ escapePointer entry.1)
  let published ← collectVerb lib source entry.1 channel "publish" "send"
  let subscribed ← collectVerb lib source entry.1 channel "subscribe" "receive"
  pure (published ++ subscribed)

def collectV2 (source : AsyncApiSource) : Except IngestError (List AsyncApiOperation) := do
  let channels ← okOr (.invalidAsyncApi "channels must be an object")
    ((source.document.get "channels").bind Value.asObject)
  let result ← channels.mapM (collectChannel lib source)
  pure result.flatten

/-! ### Version 3.0 -/

/-- The operations of one entry. -/
def collectEntry (source : AsyncApiSource) (entry : Str × Value) :
    Except IngestError (List AsyncApiOperation) := do
  let name := entry.1
  let location := "#/operations/" ++ escapePointer name
  let operation ← resolveValue source.document entry.2 location
  let action ← okOr (.invalidAsyncApi ("operation " ++ debugQuote name ++ " has no action"))
    (operation.text "action")
  ensure (oneOf ["send", "receive"] action) (.invalidAsyncApi
    ("operation " ++ debugQuote name ++ " has unsupported action " ++ debugQuote action))
  let rawChannel := (operation.get "channel").getD .null
  let channel ← resolveValue source.document rawChannel (location ++ "/channel")
  let channelName := (refTail rawChannel).getD name
  let address := (channel.text "address").getD channelName
  let messages ← okOr (.invalidAsyncApi
    ("operation " ++ debugQuote name ++ " messages must be a non-empty array"))
    (operation.list "messages")
  ensure (!messages.isEmpty) (.invalidAsyncApi
    ("operation " ++ debugQuote name ++ " has no messages"))
  messages.zipIdx.mapM (fun raw => do
    let message ← resolveValue source.document raw.1
      (location ++ "/messages/" ++ decimal raw.2)
    let messageName := ((message.text "name").or (refTail raw.1)).getD "message"
    makeOperation lib source
      ⟨action, channelName, variantId name messageName raw.2 messages.length, messageName⟩
      address operation channel message location)

def collectV3 (source : AsyncApiSource) : Except IngestError (List AsyncApiOperation) := do
  let operations ← okOr (.invalidAsyncApi "operations must be an object")
    ((source.document.get "operations").bind Value.asObject)
  operations.forM (fun entry => ensure (entry.2.get "channel").isSome
    (.invalidAsyncApi ("operation " ++ debugQuote entry.1 ++ " has no channel")))
  let result ← operations.mapM (collectEntry lib source)
  pure result.flatten

/-! ### Sources -/

def collectAsyncapiOperations (source : AsyncApiSource) :
    Except IngestError (List AsyncApiOperation) :=
  if startsWith "2.6." source.version then collectV2 lib source else collectV3 lib source

/-- Whether a selector means an operation: by its handle, by its id, or by
    what comes before the first `#` of its id. -/
def AsyncApiOperation.selectedBy (operation : AsyncApiOperation) (selector : Str) : Bool :=
  operation.handle = selector || operation.operationId = selector ||
    (splitOnce "#" operation.operationId).any (fun parts => parts.1 = selector)

def resolveAsyncapiOperation (source : AsyncApiSource) (selector : Str) :
    Except IngestError AsyncApiOperation := do
  let operations ← collectAsyncapiOperations lib source
  match operations.filter (fun operation => operation.selectedBy selector) with
  | [] => .error (.unknownOperation selector)
  | [operation] => .ok operation
  | _ => .error (.ambiguousOperation selector)

end

mutual

/-- Every reference of the value is local and selects something, and the value
    is at most 128 levels deep. The number is the depth of the value. -/
def validateReferences (root : Value) (location : Str) (depth : Nat) :
    Value → Except IngestError Unit
  | .object members => do
      ensure (depth ≤ 128) (.invalidAsyncApi ("reference scan exceeded depth at " ++ location))
      match (lookup "$ref" members).bind Value.asStr with
      | some reference => discard (localTarget root reference location)
      | none => pure ()
      validateMembers root location depth members
  | .array items => do
      ensure (depth ≤ 128) (.invalidAsyncApi ("reference scan exceeded depth at " ++ location))
      validateItems root location depth 0 items
  | _ => ensure (depth ≤ 128)
      (.invalidAsyncApi ("reference scan exceeded depth at " ++ location))

/-- The members of an object, one level deeper. -/
def validateMembers (root : Value) (location : Str) (depth : Nat) :
    List (Str × Value) → Except IngestError Unit
  | [] => .ok ()
  | (name, child) :: rest => do
      validateReferences root (location ++ '/' :: escapePointer name) (depth + 1) child
      validateMembers root location depth rest

/-- The items of an array, one level deeper. -/
def validateItems (root : Value) (location : Str) (depth index : Nat) :
    List Value → Except IngestError Unit
  | [] => .ok ()
  | child :: rest => do
      validateReferences root (location ++ '/' :: decimal index) (depth + 1) child
      validateItems root location depth (index + 1) rest

end

/-- A parsed document as a source. -/
def loadAsyncapi (lib : Crates) (document : Value) (bytes : List UInt8) :
    Except IngestError AsyncApiSource := do
  let version ← okOr (.invalidAsyncApi "missing asyncapi version") (document.text "asyncapi")
  ensure (startsWith "2.6." version || startsWith "3.0." version) (.invalidAsyncApi
    ("unsupported version " ++ debugQuote version ++
      "; supported versions are 2.6.x and 3.0.x"))
  validateReferences document "#" 0 document
  pure
    { document := document
      sourceFingerprint := digest lib bytes
      sourceHandle := shortHandle lib "src" [bytes]
      version := version }

end Kahea
