import Kahea.Base.Query
import Kahea.Ingest

/-!
# Captured Requests

How an importer turns captured requests into one OpenAPI document.

Every importer ends in `addRequest`: the parsed URL gives the server, the path
and the query parameters, headers become parameters with the captured value as
their default, and credentials are left out and recorded as absent. What is
absent is recorded in one of two places. The absences of the request itself go
with its operation; those that `addRequest` and the importers find on the way
go with the document.

A document under construction is kept as a record, and `ImportDocument.toValue`
is the JSON it stands for. An importer is a list of captures, each of which
adds a request, records an absence or fails, and `importCaptures` adds them one
after the other.

## Main definitions

* `CapturedRequest`, `CapturedAbsence`, `CapturedAuth`: What is captured.
* `ImportedOperation`, `ImportDocument`: The document under construction.
* `addRequest`: The function all importers end in.
* `shapeSchema`: The schema inferred from a captured body.
* `Capture`, `importCaptures`: A list of captures, added one after the other.
-/

namespace Kahea

/-! ### What is captured -/

structure CapturedAbsence where
  capability : Str
  reason : Str
  location : Str
  blocking : Bool
  deriving DecidableEq, Repr

/-- The record of an absence. -/
def CapturedAbsence.toValue (absence : CapturedAbsence) : Value :=
  jsonObject [("blocking", .bool absence.blocking),
    ("capability", .string absence.capability),
    ("location", .string absence.location),
    ("reason", .string absence.reason),
    ("severity", .string (if absence.blocking then "error" else "warning"))]

/-- The kinds of authentication an importer knows. -/
inductive AuthKind where
  | basic
  | bearer
  | oauth2
  | apikey
  deriving DecidableEq, Repr

structure CapturedAuth where
  kind : AuthKind
  name : Option Str
  location : Option Str
  deriving DecidableEq, Repr

structure CapturedRequest where
  name : Str
  method : Str
  url : Str
  headers : List (Str × Str)
  body : Option Str
  mediaType : Option Str
  auth : Option CapturedAuth
  checks : List Str
  absent : List CapturedAbsence
  deriving DecidableEq, Repr

/-! ### The document -/

/-- An imported operation. -/
structure ImportedOperation where
  operationId : Str
  summary : Str
  /-- The URL of its only server. -/
  origin : Str
  parameters : List Value
  responses : Value
  /-- The name of its security scheme. -/
  security : Option Str
  /-- The media type and the value of its body. -/
  body : Option (Str × Value)
  checks : List Str
  absent : List CapturedAbsence
  exampleNames : Option (List Str)

/-- A member that is written when there is something to write. -/
def memberWhen (condition : Bool) (name : String) (value : Value) : List (Str × Value) :=
  if condition then [(name, value)] else []

/-- The members of an operation object. -/
def ImportedOperation.members (o : ImportedOperation) : List (Str × Value) :=
  [("operationId".toList, .string o.operationId), ("parameters".toList, .array o.parameters)] ++
    memberWhen o.body.isSome "requestBody" (jsonObject
      [("content", .object [((o.body.map Prod.fst).getD [], jsonObject [("schema", jsonObject [])])]),
        ("required", .bool true)]) ++
    [("responses".toList, o.responses)] ++
    memberWhen o.security.isSome "security"
      (.array [.object [(o.security.getD [], .array [])]]) ++
    [("servers".toList, .array [jsonObject [("url", .string o.origin)]]),
      ("summary".toList, .string o.summary)] ++
    memberWhen (!o.absent.isEmpty) "x-kahea-absent"
      (.array (o.absent.map CapturedAbsence.toValue)) ++
    memberWhen o.body.isSome "x-kahea-captured-body" ((o.body.map Prod.snd).getD .null) ++
    memberWhen o.body.isSome "x-kahea-captured-body-media-type"
      (.string ((o.body.map Prod.fst).getD [])) ++
    memberWhen (!o.checks.isEmpty) "x-kahea-checks" (.array (o.checks.map .string)) ++
    memberWhen o.exampleNames.isSome "x-kahea-example-names"
      (.array ((o.exampleNames.getD []).map .string)) ++
    [("x-kahea-imported".toList, .bool true)]

/-- A document under construction: the operations by path and method, and what
    is absent from the document as a whole. -/
structure ImportDocument where
  title : Str
  paths : List (Str × List (Str × ImportedOperation))
  securitySchemes : List (Str × Value)
  absent : List Value

/-- The function `base_document`. -/
def baseDocument (title : Str) : ImportDocument := ⟨title, [], [], []⟩

/-- The path item of some operations. -/
def pathItemValue (item : List (Str × ImportedOperation)) : List (Str × Value) :=
  item.map (fun e => (e.1, .object e.2.members))

/-- The JSON of a document. -/
def ImportDocument.toValue (document : ImportDocument) : Value :=
  jsonObject [("components", jsonObject [("securitySchemes", .object document.securitySchemes)]),
    ("info", jsonObject [("title", .string document.title), ("version", .string "imported")]),
    ("openapi", .string "3.1.0"),
    ("paths", .object (document.paths.map (fun e => (e.1, .object (pathItemValue e.2))))),
    ("x-kahea-absent", .array document.absent)]

namespace ImportDocument

/-- The operation at a path and a method. -/
def operationAt (document : ImportDocument) (path method : Str) : Option ImportedOperation :=
  (lookup path document.paths).bind (lookup method)

/-- The document with an operation put at a path and a method. -/
def setOperation (document : ImportDocument) (path method : Str) (operation : ImportedOperation) :
    ImportDocument :=
  { document with
    paths := insert path (insert method operation ((lookup path document.paths).getD []))
      document.paths }

/-- The function `push_absent`. -/
def pushAbsent (document : ImportDocument) (absence : CapturedAbsence) : ImportDocument :=
  { document with absent := document.absent ++ [absence.toValue] }

end ImportDocument

/-! ### Adding a request -/

/-- The characters of an operation id. -/
def safeChar (c : Char) : Char := if c.isAlphanum then c else '_'

/-- The function `safe_operation_id`. -/
def safeOperationId (name : Str) (index : Nat) : Str :=
  let cleaned := ((name.map safeChar).dropWhile (· == '_')).rdropWhile (· == '_')
  if cleaned = [] then "importedRequest" ++ decimal index else cleaned ++ '_' :: decimal index

def isContentType (name : Str) : Bool := eqIgnoreCase name "content-type"

/-- A header whose value is a credential. -/
def isCredentialHeader (name : Str) : Bool :=
  eqIgnoreCase name "authorization" || eqIgnoreCase name "proxy-authorization" ||
    eqIgnoreCase name "cookie"

/-- A parameter with a captured value as its default. -/
def capturedParameter (location : String) (entry : Str × Str) : Value :=
  jsonObject [("in", .string location), ("name", .string entry.1),
    ("schema", jsonObject [("default", .string entry.2), ("type", .string "string")])]

/-- The parameters of a request: those of the query, then those of the
    headers. -/
def capturedParameters (url : Url) (headers : List (Str × Str)) : List Value :=
  url.queryPairs.map (capturedParameter "query") ++
    (headers.filter (fun h => !isContentType h.1 && !isCredentialHeader h.1)).map
      (capturedParameter "header")

/-- The content type of a request: that of its last header of this name, else
    the captured one. -/
def capturedContentType (request : CapturedRequest) : Option Str :=
  (((request.headers.filter (fun h => isContentType h.1)).getLast?).map Prod.snd).or
    request.mediaType

/-- The absence of a credential. -/
def credentialAbsence (index : Nat) (name : Str) : CapturedAbsence :=
  ⟨"captured-credential",
    "captured credential material is never imported; configure an auth profile",
    "request[" ++ decimal index ++ "].headers." ++ name, true⟩

/-- The absences of the credentials of a request. -/
def credentialAbsences (request : CapturedRequest) (index : Nat) : List CapturedAbsence :=
  (request.headers.filter (fun h => !isContentType h.1 && isCredentialHeader h.1)).map
    (fun h => credentialAbsence index h.1)

/-- The security scheme of a captured authentication. -/
def CapturedAuth.scheme (auth : CapturedAuth) : Value :=
  match auth.kind with
  | .basic => jsonObject [("scheme", .string "basic"), ("type", .string "http")]
  | .bearer | .oauth2 => jsonObject [("scheme", .string "bearer"), ("type", .string "http")]
  | .apikey => jsonObject [("in", .string (auth.location.getD "header")),
      ("name", .string (auth.name.getD "X-API-Key")), ("type", .string "apiKey")]

/-- The name of an imported security scheme. -/
def schemeName (index : Nat) : Str := "importedAuth" ++ decimal index

section

variable (lib : Crates)

/-- The parsed URL of a request and its host. -/
def capturedUrl (request : CapturedRequest) : Except IngestError (Url × Str) :=
  match lib.parseUrl request.url with
  | .error e => .error (.parse ("captured request " ++ request.name ++ " has invalid URL: " ++ e))
  | .ok url =>
      if url.scheme = "http" ∨ url.scheme = "https" then
        match url.host with
        | none => .error (.parse "captured URL has no host")
        | some host => .ok (url, host)
      else .error (.parse ("captured request " ++ request.name ++ " uses unsupported scheme " ++
        debugQuote url.scheme))

/-- The origin of a URL. -/
def capturedOrigin (url : Url) (host : Str) : Str :=
  url.scheme ++ "://" ++ host ++ (match url.port with
    | some port => ':' :: decimal port
    | none => [])

/-- The path of a URL, or a slash. -/
def capturedPath (url : Url) : Str := if url.path = [] then "/" else url.path

/-- The method of a request, in lower case. -/
def capturedMethod (request : CapturedRequest) : Except IngestError Str :=
  if HTTP_METHODS.contains (lower request.method) then .ok (lower request.method)
  else .error (.parse ("captured request has unsupported method " ++ debugQuote request.method))

/-- Whether a text parses as JSON. -/
def parsesAsJson (text : Str) : Bool :=
  match lib.parseJson (utf8 text) with
  | .ok _ => true
  | .error _ => false

/-- The media type of a body. -/
def capturedMediaType (request : CapturedRequest) (body : Str) : Str :=
  (capturedContentType request).getD
    (if parsesAsJson lib body then "application/json" else "text/plain")

/-- The media type and the value of the body of a request. -/
def capturedBody (request : CapturedRequest) : Except IngestError (Option (Str × Value)) :=
  match request.body with
  | none => .ok none
  | some body =>
      let mediaType := capturedMediaType lib request body
      if "json".toList <:+: mediaType then
        match lib.parseJson (utf8 body) with
        | .ok value => .ok (some (mediaType, value))
        | .error e => .error (.parse ("captured JSON body is invalid: " ++ e))
      else .ok (some (mediaType, .string body))

/-- The operation of a request. -/
def capturedOperation (request : CapturedRequest) (index : Nat) (url : Url) (host : Str)
    (body : Option (Str × Value)) : ImportedOperation :=
  { operationId := safeOperationId request.name index
    summary := request.name
    origin := capturedOrigin url host
    parameters := capturedParameters url request.headers
    responses := jsonObject [("default",
      jsonObject [("description", .string "imported capture response")])]
    security := request.auth.map (fun _ => schemeName index)
    body := body
    checks := request.checks
    absent := request.absent
    exampleNames := none }

/-- The function `add_request`. -/
def addRequest (document : ImportDocument) (request : CapturedRequest) (index : Nat) :
    Except IngestError ImportDocument := do
  let (url, host) ← capturedUrl lib request
  let method ← capturedMethod request
  let body ← capturedBody lib request
  if (document.operationAt (capturedPath url) method).isSome then
    .error (.parse ("multiple imported requests collide at " ++ upper method ++ ' ' ::
      capturedPath url))
  else
    .ok ({ document with
        securitySchemes := (request.auth.map (fun (auth : CapturedAuth) =>
          insert (schemeName index) auth.scheme document.securitySchemes)).getD
            document.securitySchemes
        absent := document.absent ++
          (credentialAbsences request index).map CapturedAbsence.toValue
      }.setOperation (capturedPath url) method (capturedOperation request index url host body))

end

/-! ### Inferred schemas -/

mutual

/-- The function `shape_schema`. -/
def shapeSchema : Value → Value
  | .null => jsonObject [("type", .string "null")]
  | .bool _ => jsonObject [("type", .string "boolean")]
  | .number n =>
      jsonObject [("type", .string (if (Value.number n).isInteger then "integer" else "number"))]
  | .string _ => jsonObject [("type", .string "string")]
  | .array items => jsonObject [("items", shapeFirst items), ("type", .string "array")]
  | .object members => jsonObject [("properties", .object (shapeMembers members)),
      ("required", .array (members.map (fun m => .string m.1))), ("type", .string "object")]

/-- The schema of the first item. -/
def shapeFirst : List Value → Value
  | [] => jsonObject []
  | item :: _ => shapeSchema item

/-- The schemas of the members. -/
def shapeMembers : List (Str × Value) → List (Str × Value)
  | [] => []
  | (name, value) :: rest => (name, shapeSchema value) :: shapeMembers rest

end

/-- The status of a captured response. -/
def capturedStatus (status : Option Value) : Str :=
  decimal (((status.bind Value.asU64).filter (fun status => status ≤ 999)).getD 200)

/-- The schema of a captured body text. -/
def capturedSchema (lib : Crates) (text : Option Value) : Value :=
  ((text.bind Value.asStr).bind (fun text => (lib.parseJson (utf8 text)).toOption.map
    shapeSchema)).getD (jsonObject [])

/-- The pair of one entry of a list of headers. -/
def namedValue (entry : Value) : Option (Str × Str) := do
  let name ← ((entry.get "name").or (entry.get "key")).bind Value.asStr
  let value ← (entry.get "value").bind Value.asStr
  pure (name, value)

def isDisabled (entry : Value) : Bool := ((entry.get "disabled").bind Value.asBool).getD false

/-- The function `named_values`. -/
def namedValues (value : Option Value) : List (Str × Str) :=
  match value.bind Value.asObject with
  | some object => object.filterMap (fun e => e.2.asStr.map (fun text => (e.1, text)))
  | none =>
      (((value.bind Value.asArray).getD []).filter (fun entry => !isDisabled entry)).filterMap
        namedValue

/-! ### Captures -/

/-- What an importer knows about the responses of a request. -/
inductive CapturedResponses where
  | unknown
  | har (response : Value)
  | examples (examples : List Value)

/-- One step of an importer. -/
inductive Capture where
  | request (request : CapturedRequest) (index : Nat) (responses : CapturedResponses)
  | absent (absence : CapturedAbsence)
  | failed (error : IngestError)

section

variable (lib : Crates)

/-- The contract of a HAR response. -/
def harResponses (response : Value) : Value :=
  let content := (response.get "content").getD .null
  let mediaType := ((content.get "mimeType").bind Value.asStr).getD "application/octet-stream"
  let headers := ((namedValues (response.get "headers")).filter (fun h =>
      !(eqIgnoreCase h.1 "set-cookie") && !(eqIgnoreCase h.1 "authorization") &&
        !(eqIgnoreCase h.1 "proxy-authorization"))).foldl
    (fun m h => insert h.1 (jsonObject [("schema", jsonObject [("type", .string "string")])]) m) []
  .object [(capturedStatus (response.get "status"), jsonObject
    [("content", .object [(mediaType, jsonObject [("schema",
      capturedSchema lib (content.get "text"))])]),
      ("description", .string "captured HAR response contract"), ("headers", .object headers)])]

/-- The contract of one Postman example. -/
def exampleResponse (example_ : Value) : Str × Value :=
  let contentType := (((namedValues (example_.get "header")).find? (fun h =>
    isContentType h.1)).map Prod.snd).getD "application/octet-stream"
  (capturedStatus (example_.get "code"), jsonObject
    [("content", .object [(contentType, jsonObject [("schema",
      capturedSchema lib (example_.get "body"))])]),
      ("description", .string "Postman example structural contract")])

/-- The operation with what is known about its responses. -/
def withResponses (operation : ImportedOperation) : CapturedResponses → ImportedOperation
  | .unknown => operation
  | .har response => { operation with responses := harResponses lib response }
  | .examples examples => { operation with
      responses := .object ((examples.map (exampleResponse lib)).foldl (fun m e => insert e.1 e.2 m) [])
      exampleNames := some (examples.filterMap (fun e => (e.get "name").bind Value.asStr)) }

/-- The absence of the values of a HAR response. -/
def harBodyAbsence (index : Nat) : CapturedAbsence :=
  ⟨"har-response-body",
    "captured response values are not copied; only their structural contract is imported",
    "#/log/entries/" ++ decimal index ++ "/response/content/text", false⟩

/-- The error when the operation of a response is not in the document. -/
def CapturedResponses.notFound : CapturedResponses → Str
  | .har _ => "HAR response operation was not found"
  | _ => "Postman example operation was not found"

/-- What is absent from a document because of the responses of a request. -/
def responseAbsences (index : Nat) : CapturedResponses → List CapturedAbsence
  | .har _ => [harBodyAbsence index]
  | _ => []

/-- The functions `add_har_response_contract` and `add_postman_examples`: the
    contract goes with the operation at the path and the method of the
    request. -/
def addResponses (document : ImportDocument) (request : CapturedRequest) (index : Nat)
    (responses : CapturedResponses) : Except IngestError ImportDocument :=
  match responses with
  | .unknown => .ok document
  | .examples [] => .ok document
  | responses => match lib.parseUrl request.url with
    | .error e => .error (.parse e)
    | .ok url => match document.operationAt url.path (lower request.method) with
      | none => .error (.parse responses.notFound)
      | some operation => .ok ((responseAbsences index responses).foldl ImportDocument.pushAbsent
          (document.setOperation url.path (lower request.method)
            (withResponses lib operation responses)))

/-- One step of an importer. -/
def Capture.apply (document : ImportDocument) : Capture → Except IngestError ImportDocument
  | .request captured index responses => do
      let document ← addRequest lib document captured index
      addResponses lib document captured index responses
  | .absent absence => .ok (document.pushAbsent absence)
  | .failed error => .error error

/-- The steps of an importer, one after the other. -/
def importCaptures (document : ImportDocument) (captures : List Capture) :
    Except IngestError ImportDocument :=
  captures.foldlM (Capture.apply lib) document

end

end Kahea
