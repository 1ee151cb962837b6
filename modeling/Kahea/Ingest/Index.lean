import Kahea.Base.Paging
import Kahea.Core.Decode
import Kahea.Ingest.AsyncApi

/-!
# Operation Indexes

What inspecting a source lists. The operations of a document are collected,
sorted, filtered by a query and handed out a page at a time.

An OpenAPI document is walked path by path and method by method, an operation
id that was used before and a callback are recorded as absences on the way, and
the operations are sorted by path, method, id and handle. The operations of an
AsyncAPI document are sorted by address, action, id, message and handle.

## Main definitions

* `OperationSummary`, `OperationIndexEnvelope`: What an index is made of.
* `operationEntries`, `collectOperations`: The operations of an OpenAPI document.
* `inspectSource`, `inspectAsyncapi`: A page of an index.

## Theorems

* `inspectSource_page`, `inspectAsyncapi_page`: The pages are those of one listing.
-/

namespace Kahea

/-! ### Indexes -/

/-- An operation as it is listed. -/
structure OperationSummary where
  handle : Str
  method : Str
  path : Str
  operationId : Str
  risk : RiskClass
  deriving DecidableEq, Repr

/-- One page of a listing. -/
structure OperationIndexEnvelope where
  protocol : Str
  kind : Str
  version : Str
  configFingerprint : Str
  sourceFingerprints : List Str
  source : Str
  operations : List OperationSummary
  next : Option Str
  absent : List AbsentCapability
  exit : Nat
  deriving DecidableEq, Repr

/-- The page an index holds. -/
def OperationIndexEnvelope.page (index : OperationIndexEnvelope) : Page OperationSummary :=
  ⟨index.operations, index.next⟩

def operationIndex (lib : Crates) (sourceFingerprint source : Str) (page : Page OperationSummary)
    (absent : List AbsentCapability) : OperationIndexEnvelope :=
  { protocol := PROTOCOL
    kind := "operation-index"
    version := VERSION
    configFingerprint := defaultConfigFingerprint lib
    sourceFingerprints := [sourceFingerprint]
    source := source
    operations := page.items
    next := page.next
    absent := absent
    exit := 0 }

/-- The order of tuples of texts. -/
def tupleLe : List Str → List Str → Bool
  | [], _ => true
  | _ :: _, [] => false
  | a :: as, b :: bs => strLt a b || (decide (a = b) && tupleLe as bs)

/-- Stable sort by a tuple of texts. -/
def sortByTuple {β : Type} (key : β → List Str) (l : List β) : List β :=
  l.insertionSort (fun a b => tupleLe (key a) (key b))

/-! ### OpenAPI -/

def DiagnosticSeverity.text : DiagnosticSeverity → Str
  | info => "info"
  | warning => "warning"
  | error => "error"

/-- Derived `Deserialize` of `AbsentCapability`. -/
def AbsentCapability.fromJson (v : Value) : Option AbsentCapability := do
  let m ← structMembers ["capability", "reason", "location", "severity", "blocking"] 5 v
  let capability ← required Value.asStr m "capability"
  let reason ← required Value.asStr m "reason"
  let location ← required Value.asStr m "location"
  let severity ← required (decodeVariant DiagnosticSeverity.text [.info, .warning, .error]) m
    "severity"
  let blocking ← required Value.asBool m "blocking"
  pure { capability, reason, location, severity, blocking }

/-- The absences a value declares of itself. -/
def declaredAbsences (members : List (Str × Value)) : List AbsentCapability :=
  (((lookup "x-kahea-absent" members).bind Value.asArray).getD []).filterMap
    AbsentCapability.fromJson

/-- What the importer recorded as absent. -/
def collectAbsent (document : Value) : List AbsentCapability :=
  (if (document.get "webhooks").isSome then
    [absence "openapi-webhooks" "webhooks are not indexed in release 0" "#/webhooks" false]
    else []) ++
  declaredAbsences (document.asObject.getD [])

/-- An operation where it stands in the document. -/
structure OperationEntry where
  rawPath : Str
  pathItem : List (Str × Value)
  method : Str
  operation : List (Str × Value)

namespace OperationEntry

def methodUpper (e : OperationEntry) : Str := upper e.method

def path (e : OperationEntry) : Str := normalizePath e.rawPath

/-- `operationId`, or nothing. -/
def operationId (e : OperationEntry) : Str := (stringField e.operation "operationId").getD []

def handle (lib : Crates) (sourceFingerprint : Str) (e : OperationEntry) : Str :=
  operationHandle lib sourceFingerprint e.methodUpper e.rawPath e.operationId

/-- The text `METHOD path`. -/
def methodPath (e : OperationEntry) : Str := e.methodUpper ++ ' ' :: e.path

end OperationEntry

/-- The operations of a table of paths. -/
def operationEntries (paths : List (Str × Value)) : List OperationEntry :=
  paths.flatMap (fun entry => match entry.2.asObject with
    | none => []
    | some item => HTTP_METHODS.filterMap (fun method =>
        ((lookup method item).bind Value.asObject).map (⟨entry.1, item, method, ·⟩)))

/-- An operation with what it is searched by. -/
structure IndexedOperation where
  handle : Str
  method : Str
  path : Str
  operationId : Str
  summary : Str
  tags : List Str
  risk : RiskClass

def IndexedOperation.toSummary (o : IndexedOperation) : OperationSummary :=
  ⟨o.handle, o.method, o.path, o.operationId, o.risk⟩

/-- Whether a query means an operation. The argument `lowercase` is
    `str::to_lowercase`. -/
def IndexedOperation.matches (lowercase : Str → Str) (o : IndexedOperation) (query : Str) : Bool :=
  decide (query = []) || ([o.handle, o.method, o.path, o.operationId, o.summary] ++ o.tags).any
    (fun field => decide (lowercase query <:+: lowercase field))

section

variable (lib : Crates)

/-- An operation as it is listed. -/
def OperationEntry.indexed (sourceFingerprint : Str) (e : OperationEntry) : IndexedOperation :=
  { handle := e.handle lib sourceFingerprint
    method := e.methodUpper
    path := e.path
    operationId := e.operationId
    summary := (stringField e.operation "summary").getD []
    tags := (((lookup "tags" e.operation).bind Value.asArray).getD []).filterMap Value.asStr
    risk := .forHttpMethod e.methodUpper }

/-- What the operations are recorded in: the handles of the operation ids so
    far, and the absences. -/
structure Collecting where
  operationIds : List (Str × Str)
  absent : List AbsentCapability

/-- The record of one operation. -/
def Collecting.entry (sourceFingerprint : Str) (c : Collecting) (e : OperationEntry) :
    Collecting :=
  let handle := e.handle lib sourceFingerprint
  let location := "#/paths/" ++ escapePointer e.rawPath ++ '/' :: e.method
  let first := if e.operationId = [] then none else lookup e.operationId c.operationIds
  { operationIds :=
      if e.operationId = [] then c.operationIds else insert e.operationId handle c.operationIds
    absent := c.absent ++
      (match first with
        | some first => [absence "unique-operation-id"
            ("operationId " ++ debugQuote e.operationId ++ " is also used by " ++ first)
            location true]
        | none => []) ++
      (if (lookup "callbacks" e.operation).isSome then
        [absence "openapi-callbacks" "callbacks are not supported in release 0"
          (location ++ "/callbacks") false] else []) ++
      declaredAbsences e.operation }

/-- All operations, in the order of the document. -/
def collectOperations (document : Value) (sourceFingerprint : Str)
    (absent : List AbsentCapability) :
    Except IngestError (List IndexedOperation × List AbsentCapability) :=
  match (document.get "paths").bind Value.asObject with
  | none =>
      if (document.get "webhooks").isSome || (document.get "components").isSome then
        .ok ([], absent)
      else .error .missingPaths
  | some paths =>
      let entries := operationEntries paths
      .ok (entries.map (OperationEntry.indexed lib sourceFingerprint),
        (entries.foldl (Collecting.entry lib sourceFingerprint) ⟨[], absent⟩).absent)

/-- The operations of a source that a query means, in the order they are
    listed, and what is absent from the source. -/
def listSource (lowercase : Str → Str) (source : OpenApiSource) (query : Option Str) :
    Except IngestError (List OperationSummary × List AbsentCapability) := do
  let (operations, absent) ← collectOperations lib source.document source.sourceFingerprint
    (collectAbsent source.document)
  let sorted := sortByTuple (fun o => [o.path, o.method, o.operationId, o.handle]) operations
  pure ((sorted.filter (fun o => o.matches lowercase (trim (query.getD [])))).map
    IndexedOperation.toSummary, sortByTuple (fun a => [a.location, a.capability]) absent)

/-- One page of an OpenAPI source. -/
def inspectSource (lowercase : Str → Str) (source : OpenApiSource) (query : Option Str)
    (limit cursor : Nat) : Except IngestError OperationIndexEnvelope := do
  let (filtered, absent) ← listSource lib lowercase source query
  ensure (cursor ≤ filtered.length) (.invalidCursor cursor filtered.length)
  pure (operationIndex lib source.sourceFingerprint source.sourceHandle
    (pageAt filtered limit cursor) absent)

/-! ### AsyncAPI -/

def AsyncApiOperation.toSummary (o : AsyncApiOperation) : OperationSummary :=
  ⟨o.handle, upper o.action, o.channelAddress, o.operationId,
    if o.action = "send".toList then .write else .unknown⟩

/-- Whether a query in lower case means an operation. -/
def AsyncApiOperation.matches (o : AsyncApiOperation) (query : Str) : Bool :=
  decide (query = []) || [o.handle, o.operationId, o.channelName, o.channelAddress, o.messageName,
    o.action].any (fun value => decide (query <:+: lower value))

/-- The operations of an AsyncAPI source that a query means, in the order they
    are listed, and what is absent from the source. -/
def listAsyncapi (source : AsyncApiSource) (query : Option Str) :
    Except IngestError (List OperationSummary × List AbsentCapability) := do
  let operations ← collectAsyncapiOperations lib source
  let sorted := sortByTuple
    (fun o => [o.channelAddress, o.action, o.operationId, o.messageName, o.handle]) operations
  let absent := sortByTuple (fun a => [a.location, a.capability, a.reason])
    (sorted.flatMap AsyncApiOperation.absent)
  pure ((sorted.filter (fun o => o.matches (lower (trim (query.getD []))))).map
    AsyncApiOperation.toSummary,
    absent.destutter (fun a b => (a.location, a.capability, a.reason) ≠
      (b.location, b.capability, b.reason)))

/-- One page of an AsyncAPI source. -/
def inspectAsyncapi (source : AsyncApiSource) (query : Option Str) (limit cursor : Nat) :
    Except IngestError OperationIndexEnvelope := do
  let (filtered, absent) ← listAsyncapi lib source query
  ensure (cursor ≤ filtered.length) (.invalidCursor cursor filtered.length)
  pure (operationIndex lib source.sourceFingerprint source.sourceHandle
    (pageAt filtered limit cursor) absent)

end

/-! ### The pages of an index -/

section

variable {lib : Crates} {lowercase : Str → Str} {query : Option Str}
  {listed : List OperationSummary} {absent : List AbsentCapability} {limit cursor : Nat}

/-- The page of a listing within its length. -/
theorem inspectSource_page {source : OpenApiSource}
    (h : listSource lib lowercase source query = .ok (listed, absent))
    (hcursor : cursor ≤ listed.length) :
    (inspectSource lib lowercase source query limit cursor).map OperationIndexEnvelope.page =
      .ok (pageAt listed limit cursor) := by
  have hensure : ensure (decide (cursor ≤ listed.length))
      (IngestError.invalidCursor cursor listed.length) = .ok () :=
    ensure_ok.mpr (decide_eq_true hcursor)
  unfold inspectSource
  rw [h]
  change (((ensure _ _) >>= fun _ => _).map OperationIndexEnvelope.page : Except _ _) = _
  rw [hensure]
  rfl

/-- The same, of sessions. -/
theorem inspectAsyncapi_page {source : AsyncApiSource}
    (h : listAsyncapi lib source query = .ok (listed, absent)) (hcursor : cursor ≤ listed.length) :
    (inspectAsyncapi lib source query limit cursor).map OperationIndexEnvelope.page =
      .ok (pageAt listed limit cursor) := by
  have hensure : ensure (decide (cursor ≤ listed.length))
      (IngestError.invalidCursor cursor listed.length) = .ok () :=
    ensure_ok.mpr (decide_eq_true hcursor)
  unfold inspectAsyncapi
  rw [h]
  change (((ensure _ _) >>= fun _ => _).map OperationIndexEnvelope.page : Except _ _) = _
  rw [hensure]
  rfl

end

end Kahea
