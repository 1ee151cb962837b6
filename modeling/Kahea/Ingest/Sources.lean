import Kahea.Ingest.Capture

/-!
# Captured Sources

The importers for HAR, Postman collections, `.http` files, cURL commands and
direct descriptors, each as the list of captures it reads from its source.

They differ in what they read and agree in what they do with it. A HAR entry and
a section of an `.http` file are one capture each. A Postman collection is a
tree; the walk carries variables, authentication, checks and absences down to
the requests, which it numbers in order. A cURL command and a direct descriptor
are one request.

## Main definitions

* `harCaptures`, `httpCaptures`, `postmanCaptures`: The captures of a source.
* `walkPostmanItems`: The walk over the items of a collection.
* `CapturedSource`, `importSource`: A source with several requests.
* `importCurl`, `importDirect`: The request of a command and of a descriptor.
* `ImportedSource`, `importDocument`: A source of any of the formats.
-/

namespace Kahea

/-! ### HAR -/

/-- The request of a HAR entry. -/
def harRequest (request : List (Str × Value)) (index : Nat) : CapturedRequest :=
  let postData := (lookup "postData" request).bind Value.asObject
  { name := "harRequest" ++ decimal index
    method := (stringField request "method").getD "GET"
    url := (stringField request "url").getD []
    headers := namedValues (lookup "headers" request)
    body := postData.bind (fun data => stringField data "text")
    mediaType := postData.bind (fun data => stringField data "mimeType")
    auth := none
    checks := []
    absent := [] }

/-- The capture of a HAR entry. -/
def harCapture (entry : Value) (index : Nat) : Capture :=
  match (entry.get "request").bind Value.asObject with
  | none => .failed (.parse ("HAR entry " ++ decimal index ++ " has no request object"))
  | some request => .request (harRequest request index) index
      (((entry.get "response").map CapturedResponses.har).getD .unknown)

/-- The captures of a HAR document. -/
def harCaptures (entries : List Value) : List Capture :=
  entries.zipIdx.map (fun e => harCapture e.1 e.2)

/-! ### HTTP files -/

/-- The lines of a text, as `str::lines` returns them. -/
def textLines (text : Str) : List Str :=
  let parts := text.splitOn '\n'
  let ended := parts.dropLast.map (fun line => (stripSuffix "\r" line).getD line)
  match parts.getLast? with
  | some [] | none => ended
  | some last => ended ++ [last]

/-- The words of a text, as `str::split_whitespace` returns them. -/
def textWords (text : Str) : List Str :=
  (text.splitOnP isWhiteSpace).filter (fun word => !word.isEmpty)

/-- One line of an HTTP file: the lines of the section it is in, and the
    sections before. -/
def httpSectionStep (state : List Str × List (List Str)) (line : Str) : List Str × List (List Str) :=
  if startsWith "###" (line.dropWhile isWhiteSpace) then
    if state.1.isEmpty then state else ([], state.2 ++ [state.1])
  else (state.1 ++ [line], state.2)

/-- The sections of an HTTP file: its lines between separators, no section but
    the last being empty. -/
def httpSections (lines : List Str) : List (List Str) :=
  let state := lines.foldl httpSectionStep ([], [])
  state.2 ++ [state.1]

/-- The state of reading the lines after a request line. -/
structure HttpLines where
  headers : List (Str × Str)
  body : List Str
  inBody : Bool

/-- One line after the request line. -/
def httpLine (state : HttpLines) (raw : Str) : HttpLines :=
  if state.inBody then { state with body := state.body ++ [raw] }
  else if trim raw = [] then { state with inBody := true }
  else if startsWith "#" (trim raw) then state
  else match splitOnce ":" (trim raw) with
    | some (name, value) => { state with headers := state.headers ++ [(trim name, trim value)] }
    | none => { state with body := state.body ++ [raw], inBody := true }

/-- The request of a section. -/
def httpRequest (index : Nat) (method url : Str) (lines : List Str) : CapturedRequest :=
  let state := lines.foldl httpLine ⟨[], [], false⟩
  let body := state.body.rdropWhile (fun line => trim line = [])
  { name := "httpRequest" ++ decimal index
    method := method
    url := url
    headers := state.headers
    body := if body.isEmpty then none else some (join "\n" body)
    mediaType := none
    auth := none
    checks := []
    absent := [] }

/-- A line that is neither empty nor a comment. -/
def isRequestLine (line : Str) : Bool := !(trim line).isEmpty && !startsWith "#" (trim line)

/-- The captures of a section: one, or none when it has no request line. -/
def httpCapture (section_ : List Str) (index : Nat) : List Capture :=
  match section_.dropWhile (fun line => !isRequestLine line) with
  | [] => []
  | first :: rest => match textWords first with
    | method :: url :: _ =>
        if "\x7b\x7b".toList <:+: url then
          [.absent ⟨"http-variable", "unresolved HTTP-file variable",
            "request[" ++ decimal index ++ "]", true⟩]
        else [.request (httpRequest index method url rest) index .unknown]
    | _ => [.failed (.parse ("HTTP request " ++ decimal index ++ " has no URL"))]

/-- The captures of an HTTP file. -/
def httpCaptures (text : Str) : List Capture :=
  (httpSections (textLines text)).zipIdx.flatMap (fun s => httpCapture s.1 s.2)

/-! ### Postman variables, events and authentication -/

/-- The variables in scope; a secret has no value. -/
abbrev PostmanVariables := List (Str × Option Str)

/-- The function `secret_like_name`. -/
def secretLikeName (name : Str) : Bool :=
  ["secret", "password", "passwd", "token", "api_key", "apikey", "credential"].any
    (fun marker => marker.toList <:+: lower name)

/-- The value is declared to be a secret. -/
def declaredSecret (entry : Value) : Bool :=
  ((entry.get "type").bind Value.asStr).any (fun (kind : Str) => kind = "secret" || kind = "password")

/-- The variable of one entry of a list. -/
def listedVariable (entry : Value) : Option (Str × Option Str) := do
  let key ← ((entry.get "key").or (entry.get "name")).bind Value.asStr
  pure (key, if declaredSecret entry || secretLikeName key then none
    else (entry.get "value").bind Value.asStr)

/-- The variable of one member of an object. -/
def memberVariable (entry : Str × Value) : Str × Option Str :=
  (entry.1, if secretLikeName entry.1 || declaredSecret entry.2 then none
    else entry.2.asStr.or ((entry.2.get "value").bind Value.asStr))

/-- The function `postman_variables`. -/
def postmanVariables (value : Option Value) : PostmanVariables :=
  match value.bind Value.asArray with
  | some entries => (entries.filterMap listedVariable).foldl (fun m e => insert e.1 e.2 m) []
  | none => (((value.bind Value.asObject).getD []).map memberVariable).foldl
      (fun m e => insert e.1 e.2 m) []

/-- The text of a variable in a template. -/
def postmanPlaceholder (name : Str) : Str := "\x7b\x7b" ++ name ++ "\x7d\x7d"

/-- The function `substitute_postman_variables`. -/
def substituteVariables (text : Str) (vars : PostmanVariables) : Str :=
  vars.foldl (fun resolved v => match v.2 with
    | some value => replaceAll (postmanPlaceholder v.1) value resolved
    | none => resolved) text

/-- The function `postman_status_assertion`. -/
def postmanStatusAssertion (line : Str) : Option Str := do
  let status ← ((stripPrefix "pm.response.to.have.status(" line).bind (stripSuffix ");".toList)).or
    ((stripPrefix "pm.expect(pm.response.code).to.eql(" line).bind (stripSuffix ");".toList))
  let status ← parseUnsigned 65536 (trim status)
  pure ("status:" ++ decimal status)

/-- The function `postman_assertion_wrapper`. -/
def postmanAssertionWrapper (line : Str) : Bool :=
  (startsWith "pm.test(" (trim line) &&
      (endsWith "function () \x7b" (trim line) || endsWith "() => \x7b" (trim line))) ||
    oneOf ["\x7d);", "\x7d", "\x7d;"] (trim line)

/-- The lines of a script that are not empty. -/
def scriptLines (event : Value) : List Str :=
  ((((((event.pointer "/script/exec").bind Value.asArray).getD []).filterMap Value.asStr).flatMap
    textLines).map trim).filter (fun line => !line.isEmpty)

/-- The checks a test script is translated to, when it is. -/
def translatedChecks (lines : List Str) : Option (List Str) :=
  let translated := lines.filterMap postmanStatusAssertion
  if lines.all (fun line => (postmanStatusAssertion line).isSome || postmanAssertionWrapper line) &&
      !translated.isEmpty then some translated
  else none

/-- What one event of an item is: the checks of a test, or an absence. -/
def postmanEvent (location : Str) (event : Value × Nat) : List Str ⊕ CapturedAbsence :=
  let kind := ((event.1.get "listen").bind Value.asStr).getD "script"
  match if kind = "test" then translatedChecks (scriptLines event.1) else none with
  | some checks => .inl checks
  | none => .inr ⟨"postman-script",
      "Postman " ++ kind ++ " JavaScript execution is not supported",
      location ++ "/event/" ++ decimal event.2, true⟩

/-- The function `collect_postman_events`. -/
def collectPostmanEvents (value : Value) (location : Str) : List Str × List CapturedAbsence :=
  let events := (((value.get "event").bind Value.asArray).getD []).zipIdx.map
    (postmanEvent location)
  (dedup (sortStrings (events.filterMap Sum.getLeft?).flatten), events.filterMap Sum.getRight?)

/-- The kind of a Postman authentication, where it is known. -/
def authKind (kind : Str) : Option AuthKind :=
  if kind = "basic" then some .basic
  else if kind = "bearer" then some .bearer
  else if kind = "oauth2" then some .oauth2
  else if kind = "apikey" then some .apikey
  else none

/-- A setting of a Postman authentication. -/
def authSetting (entries : List Value) (key : Str) : Option Str :=
  entries.findSome? (fun entry =>
    if (entry.get "key").bind Value.asStr = some key then (entry.get "value").bind Value.asStr
    else none)

/-- The function `normalize_postman_auth`: the authentication, or what is
    absent from the document. -/
def normalizePostmanAuth (auth : Value) (location : Str) : Option CapturedAuth × List CapturedAbsence :=
  let kind := lower (((auth.get "type").bind Value.asStr).getD "noauth")
  if kind = "noauth" ∨ kind = "inherit" then (none, [])
  else match authKind kind with
    | none => (none, [⟨"postman-auth",
        "Postman authentication type " ++ debugQuote kind ++ " is not supported",
        location ++ "/request/auth", true⟩])
    | some known =>
        let entries := ((auth.get kind).bind Value.asArray).getD []
        let setting (key : Str) := if known = .apikey then authSetting entries key else none
        (some ⟨known, setting "key", (setting "in").map lower⟩, [])

/-! ### Postman requests -/

/-- The function `string_or_segments`. -/
def stringOrSegments (value : Option Value) (separator : Str) : Str :=
  (((value.bind Value.asStr)).or ((value.bind Value.asArray).map (fun segments =>
    join separator (segments.filterMap Value.asStr)))).getD []

/-- The pair of one entry of a structured query. -/
def queryEntry (entry : Value) : Option (Str × Str) :=
  ((entry.get "key").bind Value.asStr).map (fun key =>
    (key, ((entry.get "value").bind Value.asStr).getD []))

/-- The URL of a structured Postman URL, without its query. -/
def structuredUrl (object : List (Str × Value)) (host : Str) : Str :=
  let path := stringOrSegments (lookup "path" object) "/"
  let port := (lookup "port" object).bind (fun value => value.asStr.or (value.asU64.map decimal))
  (stringField object "protocol").getD "https" ++ "://" ++ host ++
    ((port.map (fun port => ':' :: port)).getD []) ++
    (if path = [] then [] else '/' :: path.dropWhile (· == '/'))

section

variable (lib : Crates)

/-- The function `postman_url`. -/
def postmanUrl (value : Value) : Except IngestError Str :=
  match value.asStr.or ((value.get "raw").bind Value.asStr) with
  | some url => .ok url
  | none => match value.asObject with
    | none => .error (.parse "Postman request URL must be a string or object")
    | some object =>
        let host := stringOrSegments (lookup "host" object) "."
        if host = [] then .error (.parse "structured Postman request URL has no host")
        else
          let pairs := ((((lookup "query" object).bind Value.asArray).getD []).filter
            (fun entry => !isDisabled entry)).filterMap queryEntry
          if pairs.isEmpty then .ok (structuredUrl object host)
          else match lib.parseUrl (structuredUrl object host) with
            | .error e => .error (.parse ("structured Postman URL is invalid: " ++ e))
            | .ok url => .ok (url.appendPairs pairs).serialize

/-- What the walk over a collection carries down. -/
structure PostmanContext where
  vars : PostmanVariables
  auth : Option Value
  checks : List Str
  absent : List CapturedAbsence

/-- The function `captured_absence`. -/
def capturedAbsence (value : Value) : Option CapturedAbsence := do
  let capability ← (value.get "capability").bind Value.asStr
  let reason ← (value.get "reason").bind Value.asStr
  let location ← (value.get "location").bind Value.asStr
  let blocking ← (value.get "blocking").bind Value.asBool
  pure ⟨capability, reason, location, blocking⟩

/-- The context of the items below an item, and of its own request. -/
def PostmanContext.below (context : PostmanContext) (item : Value) (location : Str) :
    PostmanContext :=
  let events := collectPostmanEvents item location
  { vars := (postmanVariables (item.get "variable")).foldl (fun m e => insert e.1 e.2 m)
      context.vars
    auth := (item.get "auth").or context.auth
    checks := dedup (sortStrings (context.checks ++ events.1))
    absent := context.absent ++ events.2 ++
      (((item.get "x-kahea-absent").bind Value.asArray).getD []).filterMap capturedAbsence }

/-- The text has a variable that is not resolved. -/
def unresolved (text : Str) : Bool := "\x7b\x7b".toList <:+: text

/-- The text of a Postman body. -/
def postmanBody (body : Value) : Option Str :=
  body.asStr.or (((body.get "raw").or (body.get "data")).bind Value.asStr)

/-- The absence of a body that is not a raw text. -/
def bodyModeAbsences (body : Option Value) (location : Str) : List CapturedAbsence :=
  ((((body.bind (fun b => b.get "mode")).bind Value.asStr).filter (fun (mode : Str) => mode ≠ "raw")).map
    (fun mode => (⟨"postman-body-mode",
      "Postman request body mode " ++ debugQuote mode ++ " is not supported",
      location ++ "/request/body", true⟩ : CapturedAbsence))).toList

/-- The absence of a variable in the body or the headers. -/
def variableAbsences (body : Option Str) (headers : List (Str × Str)) (location : Str) :
    List CapturedAbsence :=
  if body.any unresolved || headers.any (fun h => unresolved h.2) then
    [⟨"postman-variable", "unresolved or secret Postman variables require explicit input",
      location ++ "/request", true⟩]
  else []

/-- The request of an item, in its context. -/
def postmanRequest (context : PostmanContext) (item : Value) (object : Option (List (Str × Value)))
    (location url : Str) (auth : Option CapturedAuth) : CapturedRequest :=
  let bodyValue := object.bind (lookup "body")
  let body := (bodyValue.bind postmanBody).map (fun b => substituteVariables b context.vars)
  let headers := ((object.bind (lookup "header")).map (fun h =>
    (namedValues (some h)).map (fun e => (e.1, substituteVariables e.2 context.vars)))).getD []
  { name := ((item.get "name").bind Value.asStr).getD "request"
    method := (object.bind (fun request => stringField request "method")).getD "GET"
    url := url
    headers := headers
    body := body
    mediaType := ((((((bodyValue.bind (fun b => b.get "options")).bind (fun o => o.get "raw")).bind
      (fun raw => raw.get "language")).bind Value.asStr).filter (fun (language : Str) => language = "json")).map
        (fun _ => "application/json"))
    auth := auth
    checks := context.checks
    absent := context.absent ++ bodyModeAbsences bodyValue location ++
      variableAbsences body headers location }

/-- The URL of a request. -/
def requestUrl (request : Value) : Except IngestError Str :=
  match request.get "url" with
  | some url => postmanUrl lib url
  | none => .ok (request.asStr.getD [])

/-- The captures of an item that is no folder, and whether its request is
    numbered. -/
def postmanItem (context : PostmanContext) (item request : Value) (location : Str) (index : Nat) :
    List Capture × Bool :=
  let object := request.asObject
  let own := (object.bind (lookup "auth")).filter (fun auth =>
    (auth.get "type").bind Value.asStr ≠ some "inherit".toList)
  let (auth, absent) := ((own.or context.auth).map (fun auth =>
    normalizePostmanAuth auth location)).getD (none, [])
  let before := absent.map Capture.absent
  match requestUrl lib request with
  | .error e => (before ++ [.failed e], false)
  | .ok url =>
      let url := substituteVariables url context.vars
      if unresolved url then
        (before ++ [.absent ⟨"postman-variable",
          "unresolved Postman variables require explicit conversion",
          location ++ "/request/url", true⟩], false)
      else
        (before ++ [.request (postmanRequest context item object location url auth) index
          ((((item.get "response").bind Value.asArray).map CapturedResponses.examples).getD .unknown)],
          true)

theorem sizeOf_lookup_lt {k : Str} {v : Value} {m : List (Str × Value)} (h : lookup k m = some v) :
    sizeOf v < sizeOf m := by
  have hmem := List.sizeOf_lt_of_mem (lookup_mem h)
  have hpair : sizeOf ((k, v) : Str × Value) = 1 + sizeOf k + sizeOf v := rfl
  omega

theorem sizeOf_get_lt {v w : Value} {k : Str} (h : v.get k = some w) : sizeOf w < sizeOf v := by
  unfold Value.get at h
  rcases Option.bind_eq_some_iff.mp h with ⟨m, hm, hw⟩
  cases v with
  | object members =>
      cases hm
      have hlt := sizeOf_lookup_lt hw
      rw [Value.object.sizeOf_spec]
      omega
  | _ => cases hm

theorem sizeOf_items_le (v : Value) : sizeOf ((v.asArray).getD []) ≤ sizeOf v := by
  cases v <;> simp [Value.asArray]

/-- The function `walk_postman_items`: the captures of the items from a
    position on, and the number of the next request. -/
def walkPostmanItems (context : PostmanContext) (location : Str) (position index : Nat) :
    List Value → List Capture × Nat
  | [] => ([], index)
  | item :: rest =>
      let here := location ++ '/' :: decimal position
      let inner := context.below item here
      let (captures, next) := match _h : item.get "item" with
        | some nested => walkPostmanItems inner (here ++ "/item") 0 index (nested.asArray.getD [])
        | none => match item.get "request" with
          | none => ([], index)
          | some request =>
              let (captures, numbered) := postmanItem lib inner item request here index
              (captures, if numbered then index + 1 else index)
      let (more, last) := walkPostmanItems context location (position + 1) next rest
      (captures ++ more, last)
  termination_by items => sizeOf items
  decreasing_by
    · have hget := sizeOf_get_lt _h
      have hitems := sizeOf_items_le nested
      rw [List.cons.sizeOf_spec]
      omega
    · rw [List.cons.sizeOf_spec]
      omega

/-- The captures of a Postman collection. -/
def postmanCaptures (collection : Value) : List Capture :=
  (walkPostmanItems lib
    { vars := postmanVariables (collection.get "variable")
      auth := collection.get "auth"
      checks := (collectPostmanEvents collection "#").1
      absent := [] } "#/item" 0 0 (((collection.get "item").bind Value.asArray).getD [])).1

/-- The document of a Postman collection before its items. -/
def postmanBase (collection : Value) : ImportDocument :=
  let title := ((collection.pointer "/info/name").bind Value.asStr).getD "Postman import"
  (collectPostmanEvents collection "#").2.foldl ImportDocument.pushAbsent
    { baseDocument title with
      absent := ((collection.get "x-kahea-absent").bind Value.asArray).getD [] }

/-! ### Sources -/

/-- A source with several captured requests. -/
inductive CapturedSource where
  | har (document : Value)
  | postman (collection : Value)
  | http (text : Str)

/-- A Postman collection of a supported schema. -/
def supportedCollection (collection : Value) : Bool :=
  let schema := ((collection.pointer "/info/schema").bind Value.asStr).getD []
  decide ("/v2.1.0/".toList <:+: schema) || decide ("/v3.0.0/".toList <:+: schema) ||
    ((collection.get "x-kahea-postman-v3").bind Value.asBool).getD false

/-- The document an import starts with and its captures. -/
def CapturedSource.captures : CapturedSource → Except IngestError (ImportDocument × List Capture)
  | .har document =>
      let version := (document.pointer "/log/version").bind Value.asStr
      if version = some "1.2".toList then
        .ok (baseDocument "HAR import",
          harCaptures (((document.pointer "/log/entries").bind Value.asArray).getD []))
      else .error (.parse ("unsupported HAR version " ++ debugQuote (version.getD "missing") ++
        "; expected 1.2"))
  | .postman collection =>
      if supportedCollection collection then
        .ok (postmanBase collection, postmanCaptures lib collection)
      else .error (.parse ("unsupported Postman collection schema " ++
        debugQuote (((collection.pointer "/info/schema").bind Value.asStr).getD [])))
  | .http text => .ok (baseDocument "HTTP file import", httpCaptures text)

/-- The functions `import_har`, `import_postman` and `import_http_file`. -/
def importSource (source : CapturedSource) : Except IngestError ImportDocument := do
  let (document, captures) ← source.captures lib
  importCaptures lib document captures

end

/-! ### Single requests -/

/-- A request that has a name only. -/
def CapturedRequest.named (name : Str) : CapturedRequest :=
  { name := name
    method := "GET"
    url := []
    headers := []
    body := none
    mediaType := none
    auth := none
    checks := []
    absent := [] }

/-- The loop of `import_curl` over the words behind `curl`. -/
def curlWords (request : CapturedRequest) : List Str → Except IngestError CapturedRequest
  | [] => .ok request
  | word :: rest =>
      if oneOf ["-X", "--request"] word then
        match rest with
        | [] => .error (.parse "cURL request method is missing")
        | method :: rest => curlWords { request with method } rest
      else if oneOf ["-H", "--header"] word then
        match rest with
        | [] => .error (.parse "cURL header is missing")
        | header :: rest => match splitOnce ":" header with
          | none => .error (.parse ("invalid cURL header " ++ debugQuote header))
          | some (name, value) =>
              curlWords { request with headers := request.headers ++ [(trim name, trim value)] } rest
      else if oneOf ["-d", "--data", "--data-raw", "--data-binary"] word then
        match rest with
        | [] => .error (.parse "cURL request body is missing")
        | body :: rest => curlWords
            { request with
              body := some body
              method := if request.method = "GET" then "POST" else request.method } rest
      else if oneOf ["-u", "--user", "--oauth2-bearer"] word then
        .error (.parse "inline cURL credentials are denied; use an auth profile")
      else if startsWith "http://" word || startsWith "https://" word then
        curlWords { request with url := word } rest
      else if startsWith "-" word then
        .error (.parse ("unsupported cURL option " ++ debugQuote word))
      else curlWords { request with url := word } rest

/-- The request of a cURL command. -/
def importCurl (lib : Crates) (text : Str) : Except IngestError CapturedRequest := do
  let words ← (lib.splitWords text).mapError .parse
  match words with
  | word :: rest =>
      if word = "curl" then curlWords (.named "curlRequest") rest
      else .error (.parse "cURL input must begin with curl")
  | [] => .error (.parse "cURL input must begin with curl")

/-- The request of a direct descriptor. -/
def importDirect (value : Value) : Except IngestError CapturedRequest :=
  match value.asObject with
  | none => .error (.parse "direct descriptor must be an object")
  | some object => .ok
      { name := (stringField object "operationId").getD "directRequest"
        method := (stringField object "method").getD "GET"
        url := ((stringField object "url").or (stringField object "target")).getD []
        headers := (((lookup "headers" object).bind Value.asObject).getD []).map
          (fun header => (header.1, header.2.asStr.getD []))
        body := (lookup "body" object).map (fun body => body.asStr.getD body.render)
        mediaType := stringField object "content_type"
        auth := none
        checks := []
        absent := [] }

/-- A source of any of the formats. -/
inductive ImportedSource where
  | several (source : CapturedSource)
  | curl (text : Str)
  | direct (descriptor : Value)

section

variable (lib : Crates)

/-- The document an import starts with and its captures. -/
def ImportedSource.captures : ImportedSource → Except IngestError (ImportDocument × List Capture)
  | .several source => source.captures lib
  | .curl text => do
      let request ← importCurl lib text
      pure (baseDocument "cURL import", [.request request 0 .unknown])
  | .direct descriptor => do
      let request ← importDirect descriptor
      pure (baseDocument "Kāhea direct descriptor", [.request request 0 .unknown])

/-- The function of the format of a source: `import_har`, `import_postman`,
    `import_http_file`, `import_curl` or `import_direct`. -/
def importDocument (source : ImportedSource) : Except IngestError ImportDocument := do
  let (document, captures) ← source.captures lib
  importCaptures lib document captures

end

end Kahea
