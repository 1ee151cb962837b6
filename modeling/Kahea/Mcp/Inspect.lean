import Kahea.Core.Reference
import Kahea.Ingest.Index
import Kahea.Plan.Document
import Kahea.Workflow.Expression

/-!
# Inspecting a Source

The two ways a source is inspected, by a tool call and from the command line.
Both look at what the document is and ask one of four listings for a page: the
operations of an OpenAPI or an AsyncAPI document, the workflows of an Arazzo
document, or the one operation of a session.

The command line refuses a limit outside 1 to 1000. The tool declares the same
range and does not check it, so that a call with a limit of zero is answered
with an empty page that names itself as the next one.

## Main definitions

* `inspectWorkflows`, `inspectWebsocketSession`: The remaining two listings.
* `toolInspect`, `cliInspect`: The two front ends.
* `InspectRequest.fetch`: The pages a reader of one of them asks for.

## Theorems

* `inspect_pages_iff`: When the pages enumerate the listing.
-/

namespace Kahea

/-! ### Workflows and sessions -/

def isAsyncapi (document : Value) : Bool := (document.text "asyncapi").isSome

def isArazzo (document : Value) : Bool := (document.text "arazzo").any (startsWith "1.1.")

def isWebsocketSession (document : Value) : Bool :=
  decide (document.text "kind" = some "websocket-session".toList)

section

variable (lib : Crates)

/-- A workflow as it is listed, if the query in lower case means it. -/
def workflowSummary (sourceFingerprint query : Str) (workflow : Value) :
    Option OperationSummary := do
  let id ← workflow.text "workflowId"
  let summary :=
    (((workflow.get "summary").or (workflow.get "description")).bind Value.asStr).getD []
  if query ≠ [] ∧ ¬ query <:+: lower id ∧ ¬ query <:+: lower summary then none
  else some ⟨shortHandle lib "workflow" [utf8 sourceFingerprint, utf8 id], "WORKFLOW",
    "workflow/" ++ id, id, .unknown⟩

/-- The workflows of a document that a query means. -/
def listWorkflows (document : Value) (bytes : List UInt8) (query : Option Str) :
    Except WorkflowError (List OperationSummary) := do
  ensure (isArazzo document) (.invalid "expected an Arazzo 1.1.x document")
  pure (sortBy OperationSummary.operationId ((valueArray document "workflows").filterMap
    (workflowSummary lib (digest lib bytes) (lower (trim (query.getD []))))))

def inspectWorkflows (document : Value) (bytes : List UInt8) (query : Option Str)
    (limit cursor : Nat) : Except WorkflowError OperationIndexEnvelope := do
  let operations ← listWorkflows lib document bytes query
  ensure (cursor ≤ operations.length) (.invalid ("cursor " ++ decimal cursor ++
    " is outside the workflow set of " ++ decimal operations.length))
  pure (operationIndex lib (digest lib bytes) (shortHandle lib "src" [bytes])
    (pageAt operations limit cursor) [])

/-- The operation of a session, if the query means it. -/
def listWebsocketSession (describe : Value → Str) (document : Value) (bytes : List UInt8)
    (query : Option Str) : Except PlanError (List OperationSummary) := do
  let source ← okOr (.invalidWebSocketSource (describe document))
    (WebSocketSessionSource.fromJson document)
  validateWebsocketSourceIdentity source
  let target ← websocketTarget lib source.url
  let operation := shortHandle lib "op" [utf8 (digest lib bytes), utf8 source.operationId]
  let sendsData := source.actions.any WebSocketAction.sendsData
  let risk := match source.risk with
    | some .read => if sendsData then .write else .read
    | some .unknown => if sendsData then .write else .unknown
    | some risk => risk
    | none => if sendsData then .write else .unknown
  let query := lower (trim (query.getD []))
  pure (if query = [] ∨ query <:+: lower operation ∨ query <:+: lower source.operationId ∨
      query <:+: lower target.serialize ∨ query <:+: "websocket".toList then
    [⟨operation, "WEBSOCKET", target.serialize, source.operationId, risk⟩] else [])

/-- A session has one page at most, which names no next one. -/
def inspectWebsocketSession (describe : Value → Str) (document : Value) (bytes : List UInt8)
    (query : Option Str) (limit cursor : Nat) : Except PlanError OperationIndexEnvelope := do
  let operations ← listWebsocketSession lib describe document bytes query
  ensure (cursor ≤ operations.length) (.invalidWebSocketSource ("cursor " ++ decimal cursor ++
    " is outside the WebSocket operation set of " ++ decimal operations.length))
  pure (operationIndex lib (digest lib bytes) (shortHandle lib "src" [bytes])
    ⟨(operations.drop cursor).take limit, none⟩ [])

/-! ### The front ends -/

inductive McpError where
  | io (reason : Str)
  | invalid (reason : Str)
  | operation (reason : Str)
  deriving DecidableEq, Repr

def requiredString (value : Value) (key : Str) : Except McpError Str :=
  okOr (.invalid (key ++ " is required and must be a string")) (value.text key)

structure CliError where
  code : Str
  message : Str
  exit : Nat
  deriving DecidableEq, Repr

/-- A source that was read: its bytes, what the data parser makes of them, and
    the OpenAPI source they load as. -/
structure SourceFile where
  bytes : List UInt8
  raw : Option Value
  loaded : Except IngestError OpenApiSource

/-- What decides how a source is listed. -/
inductive SourceKind where
  | websocketSession (document : Value)
  | asyncapi (document : Value)
  | arazzo (document : Value)
  | other

def SourceFile.kind (file : SourceFile) : SourceKind :=
  match file.raw with
  | none => .other
  | some raw =>
      if isWebsocketSession raw then .websocketSession raw
      else if isAsyncapi raw then .asyncapi raw
      else if isArazzo raw then .arazzo raw
      else .other

variable (lowercase : Str → Str) (describe : Value → Str)

/-- A page of the index of a source, or the text of the error. -/
def inspectFile (file : SourceFile) (query : Option Str) (limit cursor : Nat) :
    Except Str OperationIndexEnvelope :=
  match file.kind with
  | .websocketSession document =>
      (inspectWebsocketSession lib describe document file.bytes query limit cursor).mapError
        PlanError.text
  | .asyncapi document => (do
      let source ← loadAsyncapi lib document file.bytes
      inspectAsyncapi lib source query limit cursor : Except IngestError _).mapError
        IngestError.text
  | .arazzo document =>
      (inspectWorkflows lib document file.bytes query limit cursor).mapError WorkflowError.text
  | .other => (do
      let source ← file.loaded
      inspectSource lib lowercase source query limit cursor : Except IngestError _).mapError
        IngestError.text

/-- The operations of a source that a query means. -/
def listFile (file : SourceFile) (query : Option Str) : Except Str (List OperationSummary) :=
  match file.kind with
  | .websocketSession document =>
      (listWebsocketSession lib describe document file.bytes query).mapError PlanError.text
  | .asyncapi document => (do
      let source ← loadAsyncapi lib document file.bytes
      let (listed, _) ← listAsyncapi lib source query
      pure listed : Except IngestError _).mapError IngestError.text
  | .arazzo document => (listWorkflows lib document file.bytes query).mapError WorkflowError.text
  | .other => (do
      let source ← file.loaded
      let (listed, _) ← listSource lib lowercase source query
      pure listed : Except IngestError _).mapError IngestError.text

variable (read : Str → Except Str SourceFile)

/-- The function `tool_inspect`. -/
def toolInspect (arguments : Value) : Except McpError OperationIndexEnvelope := do
  let source ← requiredString arguments "source"
  let file ← (read source).mapError .operation
  let limit := ((arguments.get "limit").bind Value.asU64).getD 50
  let cursor := ((arguments.get "cursor").bind Value.asU64).getD 0
  (inspectFile lib lowercase describe file (arguments.text "match") limit cursor).mapError
    .operation

/-- The command `inspect`. -/
def cliInspect (source : Str) (query : Option Str) (limit cursor : Nat) :
    Except CliError OperationIndexEnvelope := do
  ensure (1 ≤ limit && limit ≤ 1000)
    ⟨"invalid-limit", "--limit must be between 1 and 1000", 2⟩
  let file ← (read source).mapError (fun e => ⟨"source-read-failed", e, 2⟩)
  (inspectFile lib lowercase describe file query limit cursor).mapError
    (fun e => ⟨"invalid-source", e, 2⟩)

/-! ### Readers -/

/-- What a reader asks for again and again, with another cursor each time. -/
inductive InspectRequest where
  | tool (arguments : Value)
  | cli (source : Str) (query : Option Str) (limit : Nat)

namespace InspectRequest

/-- The arguments of a tool call with a cursor. -/
def withCursor (arguments : Value) (cursor : Nat) : Value :=
  .object (insert "cursor" (.number (.posInt cursor)) (arguments.asObject.getD []))

/-- The page at a cursor. -/
def fetch (request : InspectRequest) (cursor : Nat) : Except Unit (Page OperationSummary) :=
  match request with
  | tool arguments =>
      ((toolInspect lib lowercase describe read (withCursor arguments cursor)).map
        OperationIndexEnvelope.page).mapError (fun _ => ())
  | cli source query limit =>
      ((cliInspect lib lowercase describe read source query limit cursor).map
        OperationIndexEnvelope.page).mapError (fun _ => ())

def limit : InspectRequest → Nat
  | tool arguments => ((arguments.get "limit").bind Value.asU64).getD 50
  | cli _ _ limit => limit

def query : InspectRequest → Option Str
  | tool arguments => arguments.text "match"
  | cli _ query _ => query

/-- The source of a request, as far as its front end accepts the request. -/
def file : InspectRequest → Option SourceFile
  | tool arguments => (arguments.text "source").bind (fun source => (read source).toOption)
  | cli source _ limit => if 1 ≤ limit ∧ limit ≤ 1000 then (read source).toOption else none

/-- The operations the query of a request means, in the order of the index. -/
def listed (request : InspectRequest) : Option (List OperationSummary) :=
  (request.file read).bind
    (fun file => (listFile lib lowercase describe file request.query).toOption)

end InspectRequest

end

/-! ### The pages of a request -/

section

variable {lib : Crates} {lowercase : Str → Str} {describe : Value → Str}

/-- An index that is there stays so under another name for errors. -/
theorem map_mapError {ε ε' α β : Type} {x : Except ε α} {g : α → β} {b : β} (f : ε → ε')
    (h : x.map g = .ok b) : (x.mapError f).map g = .ok b := by
  cases x with
  | error e => cases h
  | ok a =>
      cases h
      rfl

/-- A reader that does not tell errors apart sees no difference. -/
theorem forget_mapError {ε ε' α β : Type} (x : Except ε α) (f : ε → ε') (g : α → β) :
    ((x.mapError f).map g).mapError (fun _ => ()) = (x.map g).mapError (fun _ => ()) := by
  cases x with
  | error e => rfl
  | ok a => rfl

theorem inspectWorkflows_page {document : Value} {bytes : List UInt8} {query : Option Str}
    {listed : List OperationSummary} {limit cursor : Nat}
    (h : listWorkflows lib document bytes query = .ok listed) (hcursor : cursor ≤ listed.length) :
    (inspectWorkflows lib document bytes query limit cursor).map OperationIndexEnvelope.page =
      .ok (pageAt listed limit cursor) := by
  unfold inspectWorkflows
  rw [h]
  change (((ensure _ _) >>= fun _ => _).map OperationIndexEnvelope.page : Except _ _) = _
  rw [(ensure_ok (u := ())).mpr (decide_eq_true hcursor)]
  rfl

theorem inspectWebsocketSession_page {document : Value} {bytes : List UInt8} {query : Option Str}
    {listed : List OperationSummary} {limit cursor : Nat}
    (h : listWebsocketSession lib describe document bytes query = .ok listed)
    (hcursor : cursor ≤ listed.length) :
    (inspectWebsocketSession lib describe document bytes query limit cursor).map
      OperationIndexEnvelope.page = .ok ⟨(listed.drop cursor).take limit, none⟩ := by
  unfold inspectWebsocketSession
  rw [h]
  change (((ensure _ _) >>= fun _ => _).map OperationIndexEnvelope.page : Except _ _) = _
  rw [(ensure_ok (u := ())).mpr (decide_eq_true hcursor)]
  rfl

theorem length_listWebsocketSession {document : Value} {bytes : List UInt8} {query : Option Str}
    {listed : List OperationSummary}
    (h : listWebsocketSession lib describe document bytes query = .ok listed) :
    listed.length ≤ 1 := by
  unfold listWebsocketSession at h
  rcases except_bind_ok.mp h with ⟨source, _, h⟩
  rcases except_bind_ok.mp h with ⟨_, _, h⟩
  rcases except_bind_ok.mp h with ⟨target, _, h⟩
  rw [except_pure_ok] at h
  rw [← h]
  split
  · exact Nat.le_refl 1
  · exact Nat.zero_le 1

variable {file : SourceFile} {query : Option Str} {listed : List OperationSummary}

/-- The page of a source at a cursor: a page of what is listed, and for a
    session, which lists one operation at most, a page without a next one. -/
theorem inspectFile_page (h : listFile lib lowercase describe file query = .ok listed)
    (limit : Nat) :
    (∀ cursor ≤ listed.length,
      (inspectFile lib lowercase describe file query limit cursor).map
        OperationIndexEnvelope.page = .ok (pageAt listed limit cursor)) ∨
    (listed.length ≤ 1 ∧ ∀ cursor ≤ listed.length,
      (inspectFile lib lowercase describe file query limit cursor).map
        OperationIndexEnvelope.page = .ok ⟨(listed.drop cursor).take limit, none⟩) := by
  unfold listFile at h
  unfold inspectFile
  -- A session file has one operation at most, and its page names no next one.
  cases hkind : file.kind with
  | websocketSession document =>
      rw [hkind] at h
      have hlisted := except_mapError_ok.mp h
      exact Or.inr ⟨length_listWebsocketSession hlisted, fun cursor hcursor =>
        map_mapError _ (inspectWebsocketSession_page hlisted hcursor)⟩
  -- The other kinds list all their operations and then cut the page.
  | asyncapi document =>
      rw [hkind] at h
      rcases except_bind_ok.mp (except_mapError_ok.mp h) with ⟨source, hsource, h⟩
      rcases except_bind_ok.mp h with ⟨⟨all, absent⟩, hlist, h⟩
      rw [except_pure_ok] at h
      subst h
      refine Or.inl (fun cursor hcursor => map_mapError _ ?_)
      rw [hsource]
      exact inspectAsyncapi_page hlist hcursor
  | arazzo document =>
      rw [hkind] at h
      exact Or.inl (fun cursor hcursor =>
        map_mapError _ (inspectWorkflows_page (except_mapError_ok.mp h) hcursor))
  | other =>
      rw [hkind] at h
      rcases except_bind_ok.mp (except_mapError_ok.mp h) with ⟨source, hsource, h⟩
      rcases except_bind_ok.mp h with ⟨⟨all, absent⟩, hlist, h⟩
      rw [except_pure_ok] at h
      subst h
      refine Or.inl (fun cursor hcursor => map_mapError _ ?_)
      rw [hsource]
      exact inspectSource_page hlist hcursor

namespace InspectRequest

/-- Only the cursor of the arguments is changed. -/
theorem get_withCursor {arguments : Value} {cursor : Nat} {key : Str}
    (hkey : key ≠ "cursor".toList) : (withCursor arguments cursor).get key = arguments.get key := by
  unfold withCursor Value.get
  change lookup key (insert _ _ _) = _
  rw [lookup_insert_of_ne hkey]
  cases arguments.asObject with
  | none => rfl
  | some members => rfl

theorem cursor_withCursor (arguments : Value) (cursor : Nat) :
    (withCursor arguments cursor).get "cursor" = some (.number (.posInt cursor)) :=
  lookup_insert_self _ _ _

variable {read : Str → Except Str SourceFile}

/-- What a request fetches at a cursor is a page of its source. -/
theorem fetch_eq {request : InspectRequest} {file : SourceFile} (h : request.file read = some file)
    (cursor : Nat) : request.fetch lib lowercase describe read cursor =
      ((inspectFile lib lowercase describe file request.query request.limit cursor).map
        OperationIndexEnvelope.page).mapError (fun _ => ()) := by
  cases request with
  -- The tool reads its arguments, which the cursor leaves as they were.
  | tool arguments =>
      rcases Option.bind_eq_some_iff.mp h with ⟨source, hsource, hread⟩
      have hok := toOption_eq_some.mp hread
      have hsource' : requiredString (withCursor arguments cursor) "source" = .ok source := by
        refine okOr_ok.mpr ?_
        rw [Value.text, get_withCursor (by decide)]
        exact hsource
      unfold fetch toolInspect
      dsimp only
      rw [hsource']
      change (((do
        let file ← (read source).mapError McpError.operation
        (inspectFile lib lowercase describe file ((withCursor arguments cursor).text "match")
          ((((withCursor arguments cursor).get "limit").bind Value.asU64).getD 50)
          ((((withCursor arguments cursor).get "cursor").bind Value.asU64).getD 0)).mapError
          McpError.operation).map OperationIndexEnvelope.page).mapError _ : Except Unit _) = _
      rw [hok, Value.text, get_withCursor (by decide), get_withCursor (by decide),
        cursor_withCursor]
      exact forget_mapError _ McpError.operation OperationIndexEnvelope.page
  -- The command line passes them on.
  | cli source query limit =>
      unfold InspectRequest.file at h
      dsimp only at h
      split_ifs at h with haccepted
      have hok := toOption_eq_some.mp h
      have hlimit : ensure (decide (1 ≤ limit) && decide (limit ≤ 1000))
          (CliError.mk "invalid-limit" "--limit must be between 1 and 1000" 2) = .ok () := by
        rw [ensure_ok, Bool.and_eq_true, decide_eq_true_eq, decide_eq_true_eq]
        exact haccepted
      unfold fetch cliInspect
      dsimp only
      rw [hlimit, hok]
      exact forget_mapError _ _ OperationIndexEnvelope.page

/-- The pages a reader asks for enumerate what the query means exactly when
    the limit lets through what there is. -/
theorem enumerates_fetch_iff {request : InspectRequest} {listed : List OperationSummary}
    (h : request.listed lib lowercase describe read = some listed) :
    Enumerates (request.fetch lib lowercase describe read) 0 listed ↔
      0 < request.limit ∨ listed = [] := by
  rcases Option.bind_eq_some_iff.mp h with ⟨file, hfile, hlist⟩
  have hfetch (cursor : Nat) (page : Page OperationSummary)
      (hpage : (inspectFile lib lowercase describe file request.query request.limit cursor).map
        OperationIndexEnvelope.page = .ok page) :
      request.fetch lib lowercase describe read cursor = .ok page := by
    rw [fetch_eq hfile, hpage]
    rfl
  rcases inspectFile_page (toOption_eq_some.mp hlist) request.limit with hpages | ⟨hone, hpages⟩
  · exact enumerates_iff (fun cursor hcursor => hfetch cursor _ (hpages cursor hcursor))
  · -- The only page of a session holds its operation unless the limit is zero.
    have hfirst := hfetch 0 _ (hpages 0 (Nat.zero_le _))
    have hall := Enumerates.last hfirst rfl
    constructor
    · intro henum
      have hsame : listed.take request.limit = listed := hall.unique henum
      rcases Nat.eq_zero_or_pos request.limit with hzero | hpos
      · rw [hzero, List.take_zero] at hsame
        exact Or.inr hsame.symm
      · exact Or.inl hpos
    · intro hcondition
      have hsame : listed.take request.limit = listed := by
        rcases hcondition with hpos | hempty
        · exact List.take_of_length_le (by omega)
        · rw [hempty, List.take_nil]
      rw [← hsame]
      exact hall

end InspectRequest

/-- A reader who starts at the front and follows the cursors collects what the
    query means, in order and once, exactly when the limit is not zero or the
    query means nothing. The command line accepts no limit of zero. -/
theorem inspect_pages_iff (lib : Crates) (lowercase : Str → Str) (describe : Value → Str)
    (read : Str → Except Str SourceFile) (request : InspectRequest)
    (listed : List OperationSummary)
    (h : request.listed lib lowercase describe read = some listed) :
    (Enumerates (request.fetch lib lowercase describe read) 0 listed ↔
      0 < request.limit ∨ listed = []) ∧
    ∀ source query limit, request = .cli source query limit →
      Enumerates (request.fetch lib lowercase describe read) 0 listed := by
  refine ⟨InspectRequest.enumerates_fetch_iff h, ?_⟩
  rintro source query limit rfl
  refine (InspectRequest.enumerates_fetch_iff h).mpr (Or.inl ?_)
  rcases Option.bind_eq_some_iff.mp h with ⟨file, hfile, _⟩
  unfold InspectRequest.file at hfile
  dsimp only at hfile
  split_ifs at hfile with haccepted
  exact haccepted.1

end

/-- A document of one operation. -/
def statusDocument : Value :=
  jsonObject [("openapi", .string "3.1.0"), ("paths", jsonObject [("/status", jsonObject
    [("get", jsonObject [("operationId", .string "getStatus")])])])]

def statusFile : SourceFile :=
  { bytes := []
    raw := some statusDocument
    loaded := .ok ⟨statusDocument, "b3:status", "src:status"⟩ }

/-- A tool call for the operations of that document. -/
def statusRequest (limit : Nat) : InspectRequest :=
  .tool (jsonObject [("limit", jsonNat limit), ("source", .string "status.json")])

/-- The requests of a reader without a query, for the operations of that document. -/
def statusListed (limit : Nat) : Option (List OperationSummary) :=
  (statusRequest limit).listed referenceCrates id Value.render (fun _ => .ok statusFile)

/-- A document of three operations, listed by path and method. -/
def ordersDocument : Value :=
  jsonObject [("openapi", .string "3.1.0"), ("paths", jsonObject [
    ("/orders", jsonObject [("get", jsonObject [("operationId", .string "listOrders")]),
      ("post", jsonObject [("operationId", .string "placeOrder")])]),
    ("/status", jsonObject [("get", jsonObject [("operationId", .string "getStatus")])])])]

def ordersFile : SourceFile :=
  { bytes := []
    raw := some ordersDocument
    loaded := .ok ⟨ordersDocument, "b3:orders", "src:orders"⟩ }

/-- With a limit of two, the three operations are on two pages: the first one
    names the second, where the last operation is. -/
theorem inspect_pages_orders : ∃ a b c,
    [a, b, c].map (fun o => o.operationId) =
      ["listOrders".toList, "placeOrder".toList, "getStatus".toList] ∧
    (statusRequest 2).fetch referenceCrates id Value.render (fun _ => .ok ordersFile) 0 =
      .ok ⟨[a, b], some "2"⟩ ∧
    Enumerates ((statusRequest 2).fetch referenceCrates id Value.render (fun _ => .ok ordersFile)) 0
      [a, b, c] := by
  have hlist : ((statusRequest 2).listed referenceCrates id Value.render
      (fun _ => .ok ordersFile)).map (List.map (fun o => o.operationId)) =
        some ["listOrders".toList, "placeOrder".toList, "getStatus".toList] := by decide +kernel
  rcases Option.map_eq_some_iff.mp hlist with ⟨listed, hlisted, hids⟩
  rcases List.map_eq_cons_iff.mp hids with ⟨a, _, rfl, ha, htail⟩
  rcases List.map_eq_cons_iff.mp htail with ⟨b, _, rfl, hb, hlast⟩
  rcases List.map_eq_singleton_iff.mp hlast with ⟨c, rfl, hc⟩
  refine ⟨a, b, c, hids, ?_, (inspect_pages_iff referenceCrates id Value.render
    (fun _ => .ok ordersFile) (statusRequest 2) [a, b, c] hlisted).1.mpr (Or.inl Nat.two_pos)⟩
  -- Three operations are more than a page without a next one holds.
  rcases Option.bind_eq_some_iff.mp hlisted with ⟨file, hfile, hlist⟩
  have hlimit : (statusRequest 2).limit = 2 := by decide +kernel
  rcases inspectFile_page (toOption_eq_some.mp hlist) 2 with hpages | ⟨hone, _⟩
  · have htwo : decimal 2 = "2".toList := by decide +kernel
    rw [InspectRequest.fetch_eq hfile, hlimit, hpages 0 (Nat.zero_le _), ← htwo]
    rfl
  · simp at hone

/-- A tool call with a limit of zero is answered, and its pages go on for ever
    without the operation. -/
theorem inspect_pages_endless : ¬ ∀ (lib : Crates) (lowercase : Str → Str) (describe : Value → Str)
    (read : Str → Except Str SourceFile) (request : InspectRequest)
    (listed : List OperationSummary), request.listed lib lowercase describe read = some listed →
      ∃ collected, Enumerates (request.fetch lib lowercase describe read) 0 collected ∧
        collected = listed := by
  intro h
  have hone : (statusListed 0).map List.length = some 1 := by decide +kernel
  rcases Option.map_eq_some_iff.mp hone with ⟨listed, hlisted, hlength⟩
  rcases h referenceCrates id Value.render (fun _ => .ok statusFile) (statusRequest 0) listed
    hlisted with ⟨collected, henum, rfl⟩
  rcases (InspectRequest.enumerates_fetch_iff hlisted).mp henum with hpos | hempty
  · exact absurd hpos (Nat.lt_irrefl 0)
  · rw [hempty] at hlength
    cases hlength

end Kahea
