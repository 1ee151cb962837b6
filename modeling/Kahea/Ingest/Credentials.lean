import Kahea.Base.Effect
import Kahea.Base.Rewriting
import Kahea.Base.Search
import Kahea.Ingest.Sources

/-!
# Credential Values

Imports do not depend on the values of credentials.

Two sources of one structure that differ only in credential values are sources
with the same blank: every value of a credential header, of a credential in an
authentication block and of a secret variable is taken out, everything else is
left (`CapturedSource.blank`). A header value with a template brace is left in,
since whether it is resolved is recorded in the document; it is no value without
template braces.

The proof follows a value from the source to the document. What the importers
read of a source agrees with what they read of its blank up to the values of
credential headers (`Capture.blank`), and adding a request to a document looks
at the names of these headers only (`apply_blank`).

## Main definitions

* `blankHeaders`, `blankVariables`, `blankAuth`: Credentials taken out.
* `blankHar`, `blankItem`, `blankLines`: Sources with their credentials taken out.
* `CapturedSource.blank`: The same for a source of any format.

## Theorems

* `apply_blank`: A document does not depend on the values of credential headers.
* `harCaptures_blank`: The captures of a HAR document and of its blank.
-/

namespace Kahea

/-! ### Blank sources -/

/-- A value without template braces, taken out. -/
def blankText : Value → Value
  | .string text => if unresolved text then .string text else .string []
  | value => value

/-- The name of an entry of a list of headers. -/
def headerName (entry : Value) : Option Str :=
  ((entry.get "name").or (entry.get "key")).bind Value.asStr

/-- An entry `name`, `value` of a list of headers. -/
def blankHeaderEntry (entry : Value) : Value :=
  if (headerName entry).any isCredentialHeader then entry.onMember "value" blankText else entry

/-- Headers with the values of credentials taken out, in a list or by name. -/
def blankHeaders (headers : Value) : Value :=
  (headers.onItems blankHeaderEntry).onMembers
    (fun name value => if isCredentialHeader name then blankText value else value)

/-- The name of an entry of a list of variables. -/
def variableName (entry : Value) : Option Str :=
  ((entry.get "key").or (entry.get "name")).bind Value.asStr

/-- An entry `key`, `value` of a list of variables. -/
def blankVariableEntry (entry : Value) : Value :=
  if declaredSecret entry || (variableName entry).any secretLikeName then
    entry.onMember "value" (fun _ => .null)
  else entry

def blankVariable (name : Str) (value : Value) : Value :=
  if secretLikeName name then .null
  else if declaredSecret value then value.onMember "value" (fun _ => .null)
  else value

/-- Variables with the values of secrets taken out, in a list or by name. -/
def blankVariables (value : Value) : Value :=
  (value.onItems blankVariableEntry).onMembers blankVariable

/-- The settings of a kind of authentication that are no credentials: the name
    and the place of an API key. -/
def isPlainSetting (kind setting : Str) : Bool :=
  decide (kind = "apikey") && oneOf ["key", "in"] setting

/-- One setting of an `auth` object. -/
def blankSetting (kind : Str) (entry : Value) : Value :=
  if ((entry.get "key").bind Value.asStr).any (isPlainSetting kind) then entry
  else entry.onMember "value" (fun _ => .null)

/-- An authentication block with its credentials taken out. -/
def blankAuth (auth : Value) : Value :=
  auth.onMembers (fun kind settings => (settings.onItems (blankSetting kind)).onMembers
    (fun setting value => if isPlainSetting kind setting then value else .null))

/-- A request or a response with the values of its headers taken out. -/
def blankMessage (message : Value) : Value := message.onMember "headers" blankHeaders

/-- An entry of a HAR document with its credentials taken out. -/
def blankEntry (entry : Value) : Value :=
  (entry.onMember "request" blankMessage).onMember "response" blankMessage

/-- A HAR document with its credentials taken out. -/
def blankHar (document : Value) : Value :=
  document.onMember "log" (fun log => log.onMember "entries" (fun entries =>
    entries.onItems blankEntry))

/-- The request of a Postman item with its credentials taken out. -/
def blankPostmanRequest (request : Value) : Value :=
  request.onMembers (fun name value => if name = "auth" then blankAuth value
    else if name = "header" then blankHeaders value else value)

/-- An example of a Postman item with its credentials taken out. -/
def blankExample (example_ : Value) : Value :=
  example_.onMembers (fun name value => if name = "header" then blankHeaders value
    else if name = "originalRequest" then blankPostmanRequest value else value)

mutual

/-- A Postman item or collection with its credentials taken out, at every
    depth. -/
def blankItem : Value → Value
  | .object members => .object (blankMembers members)
  | value => value

/-- The members of a collection. -/
def blankMembers : List (Str × Value) → List (Str × Value)
  | [] => []
  | (name, value) :: rest =>
      (name, if name = "item" then blankItems value
        else if name = "variable" then blankVariables value
        else if name = "auth" then blankAuth value
        else if name = "request" then blankPostmanRequest value
        else if name = "response" then value.onItems blankExample
        else value) :: blankMembers rest

/-- The items of a folder. -/
def blankItems : Value → Value
  | .array items => .array (blankList items)
  | value => value

/-- A list of items. -/
def blankList : List Value → List Value
  | [] => []
  | item :: rest => blankItem item :: blankList rest

end

/-- The lines after a request line with the credentials of the headers taken
    out; `inBody` when the headers have ended. -/
def blankLines (inBody : Bool) : List Str → List Str
  | [] => []
  | raw :: rest =>
      if inBody then raw :: blankLines true rest
      else if trim raw = [] then raw :: blankLines true rest
      else if startsWith "#" (trim raw) then raw :: blankLines false rest
      else match splitOnce ":" (trim raw) with
        | some (name, _) =>
            (if isCredentialHeader (trim name) then name ++ ":" else raw) :: blankLines false rest
        | none => raw :: blankLines true rest

/-- A section of an HTTP file with its credentials taken out. -/
def blankSection (lines : List Str) : List Str :=
  let before := lines.takeWhile (fun line => !isRequestLine line)
  match lines.dropWhile (fun line => !isRequestLine line) with
  | [] => before
  | first :: rest => before ++ first :: blankLines false rest

/-- A source with its credentials taken out. -/
inductive BlankSource where
  | har (document : Value)
  | postman (collection : Value)
  | http (sections : List (List Str))

/-- A source without its credentials. -/
def CapturedSource.blank : CapturedSource → BlankSource
  | .har document => .har (blankHar document)
  | .postman collection => .postman (blankItem collection)
  | .http text => .http ((httpSections (textLines text)).map blankSection)

/-! ### Captures without the values of credential headers -/

/-- A header without its value when it is a credential. -/
def blankHeader (header : Str × Str) : Str × Str :=
  (header.1, if isCredentialHeader header.1 then [] else header.2)

def CapturedRequest.blank (request : CapturedRequest) : CapturedRequest :=
  { request with headers := request.headers.map blankHeader }

def CapturedResponses.blank : CapturedResponses → CapturedResponses
  | .unknown => .unknown
  | .har response => .har (blankMessage response)
  | .examples listed => .examples (listed.map blankExample)

/-- A capture without its credentials. -/
def Capture.blank : Capture → Capture
  | .request captured index responses => .request captured.blank index responses.blank
  | .absent absence => .absent absence
  | .failed error => .failed error

/-! ### Headers -/

/-- A value without template braces, taken out. -/
def softText (text : Str) : Str := if unresolved text then text else []

/-- A header with the value of a credential taken out, unless it has a template
    brace. -/
def softHeader (header : Str × Str) : Str × Str :=
  (header.1, if isCredentialHeader header.1 then softText header.2 else header.2)

theorem asStr_blankText (value : Value) : (blankText value).asStr = value.asStr.map softText := by
  cases value with
  | string text =>
      change (if unresolved text then Value.string text else .string []).asStr = some (softText text)
      unfold softText
      by_cases h : unresolved text = true
      · rw [if_pos h, if_pos h]
        rfl
      · rw [if_neg h, if_neg h]
        rfl
  | _ => rfl

theorem get_blankHeaderEntry {entry : Value} {key : Str} (h : key ≠ "value".toList) :
    (blankHeaderEntry entry).get key = entry.get key := by
  unfold blankHeaderEntry
  split_ifs
  · exact Value.get_onMember_ne _ _ h
  · rfl

/-- The name of a blanked header stays. -/
theorem namedValue_blankHeaderEntry (entry : Value) :
    namedValue (blankHeaderEntry entry) = (namedValue entry).map softHeader := by
  -- Blanking keeps the name, under either of its two keys.
  have hname : ((blankHeaderEntry entry).get "name").or ((blankHeaderEntry entry).get "key") =
      (entry.get "name").or (entry.get "key") := by
    rw [get_blankHeaderEntry (by decide), get_blankHeaderEntry (by decide)]
  unfold namedValue
  rw [hname]
  cases hentry : ((entry.get "name").or (entry.get "key")).bind Value.asStr with
  | none => rfl
  | some name =>
      rw [some_bind, some_bind]
      have hcredential : (headerName entry).any isCredentialHeader = isCredentialHeader name := by
        unfold headerName
        rw [hentry]
        rfl
      unfold blankHeaderEntry softHeader
      rw [hcredential]
      -- Only the value of a credential header is blanked.
      by_cases hcred : isCredentialHeader name = true
      · rw [if_pos hcred, Value.get_onMember_self]
        cases hvalue : entry.get "value" with
        | none => rfl
        | some value =>
            change (do let v ← (blankText value).asStr; pure (name, v)) =
              (do let v ← value.asStr; pure (name, v) : Option (Str × Str)).map _
            rw [asStr_blankText]
            cases value.asStr with
            | none => rfl
            | some text =>
                change some (name, softText text) =
                  some (name, if isCredentialHeader name then softText text else text)
                rw [if_pos hcred]
      · rw [if_neg hcred]
        cases (entry.get "value").bind Value.asStr with
        | none => rfl
        | some text =>
            change some (name, text) =
              some (name, if isCredentialHeader name then softText text else text)
            rw [if_neg hcred]

theorem isDisabled_blankHeaderEntry (entry : Value) :
    isDisabled (blankHeaderEntry entry) = isDisabled entry := by
  unfold isDisabled
  rw [get_blankHeaderEntry (by decide)]

/-- The headers of a blank are those of the source without credentials. -/
theorem namedValues_blankHeaders (value : Option Value) :
    namedValues (value.map blankHeaders) = (namedValues value).map softHeader := by
  cases value with
  | none => rfl
  | some headers =>
      cases headers with
      -- Headers come by name or as a list.
      | object members =>
          change (members.map _).filterMap _ = (members.filterMap _).map softHeader
          rw [List.filterMap_map, List.map_filterMap]
          refine List.filterMap_congr (fun e _ => ?_)
          rcases e with ⟨name, member⟩
          change (if isCredentialHeader name then blankText member else member).asStr.map _ =
            (member.asStr.map _).map softHeader
          by_cases hcred : isCredentialHeader name = true
          · rw [if_pos hcred, asStr_blankText]
            cases member.asStr with
            | none => rfl
            | some text =>
                change some (name, softText text) =
                  some (name, if isCredentialHeader name then softText text else text)
                rw [if_pos hcred]
          · rw [if_neg hcred]
            cases member.asStr with
            | none => rfl
            | some text =>
                change some (name, text) =
                  some (name, if isCredentialHeader name then softText text else text)
                rw [if_neg hcred]
      -- A disabled entry stays disabled when it is blanked.
      | array items =>
          change ((items.map blankHeaderEntry).filter _).filterMap namedValue =
            ((items.filter _).filterMap namedValue).map softHeader
          rw [List.filter_map, List.filterMap_map, List.map_filterMap]
          have hfilter : (fun entry => !isDisabled entry) ∘ blankHeaderEntry =
              fun entry => !isDisabled entry := by
            funext entry
            exact congrArg (!·) (isDisabled_blankHeaderEntry entry)
          rw [hfilter]
          exact List.filterMap_congr (fun entry _ => namedValue_blankHeaderEntry entry)
      | _ => rfl

/-! ### Documents -/

section

variable (lib : Crates)

/-- A credential is no content type. -/
theorem not_isCredentialHeader {name : Str} (h : isContentType name = true) :
    isCredentialHeader name = false := by
  unfold isContentType eqIgnoreCase at h
  unfold isCredentialHeader eqIgnoreCase
  rw [decide_eq_true_eq] at h
  rw [h]
  decide

theorem filter_blankHeader (p : Str → Bool) (headers : List (Str × Str)) :
    (headers.map blankHeader).filter (fun h => p h.1) =
      (headers.filter (fun h => p h.1)).map blankHeader := by
  rw [List.filter_map]
  rfl

/-- Headers that are no credentials are kept. -/
theorem map_blankHeader_filter {p : Str → Bool} (hp : ∀ name, p name = true →
    isCredentialHeader name = false) (headers : List (Str × Str)) :
    (headers.filter (fun h => p h.1)).map blankHeader = headers.filter (fun h => p h.1) := by
  refine (List.map_congr_left fun h hh => ?_).trans (List.map_id _)
  unfold blankHeader
  rw [hp h.1 (List.mem_filter.mp hh).2]
  rfl

/-- Credentials are no parameters. -/
theorem capturedParameters_blank (url : Url) (headers : List (Str × Str)) :
    capturedParameters url (headers.map blankHeader) = capturedParameters url headers := by
  have hplain : ∀ name, (!isContentType name && !isCredentialHeader name) = true →
      isCredentialHeader name = false := by
    intro name hname
    rw [Bool.and_eq_true, Bool.not_eq_true', Bool.not_eq_true'] at hname
    exact hname.2
  unfold capturedParameters
  rw [filter_blankHeader (fun name => !isContentType name && !isCredentialHeader name),
    map_blankHeader_filter hplain]

theorem capturedContentType_blank (request : CapturedRequest) :
    capturedContentType request.blank = capturedContentType request := by
  unfold capturedContentType CapturedRequest.blank
  dsimp only
  rw [filter_blankHeader isContentType,
    map_blankHeader_filter (fun name => not_isCredentialHeader)]

/-- What is recorded as absent names no value. -/
theorem credentialAbsences_blank (request : CapturedRequest) (index : Nat) :
    credentialAbsences request.blank index = credentialAbsences request index := by
  unfold credentialAbsences CapturedRequest.blank
  dsimp only
  rw [filter_blankHeader (fun name => !isContentType name && isCredentialHeader name),
    List.map_map]
  rfl

/-- The body of a request holds no header. -/
theorem capturedBody_blank (request : CapturedRequest) :
    capturedBody lib request.blank = capturedBody lib request := by
  have hmedia (body : Str) : capturedMediaType lib request.blank body =
      capturedMediaType lib request body := by
    unfold capturedMediaType
    rw [capturedContentType_blank]
  unfold capturedBody
  simp only [hmedia]
  rfl

/-- The operation of a blanked request. -/
theorem capturedOperation_blank (request : CapturedRequest) (index : Nat) (url : Url) (host : Str)
    (body : Option (Str × Value)) : capturedOperation request.blank index url host body =
      capturedOperation request index url host body := by
  have hparameters := capturedParameters_blank url request.headers
  unfold capturedOperation
  rw [show request.blank.headers = request.headers.map blankHeader from rfl, hparameters]
  rfl

/-- What is added for a request does not depend on the values of its credential
    headers. -/
theorem addRequest_blank (document : ImportDocument) (request : CapturedRequest) (index : Nat) :
    addRequest lib document request.blank index = addRequest lib document request index := by
  unfold addRequest
  rw [capturedBody_blank, credentialAbsences_blank]
  simp only [capturedOperation_blank]
  rfl

/-! ### Responses -/

/-- The declared headers of a response are those of its blank. -/
theorem harResponses_blank (response : Value) :
    harResponses lib (blankMessage response) = harResponses lib response := by
  have hcontent : (blankMessage response).get "content" = response.get "content" :=
    Value.get_onMember_ne _ _ (by decide)
  have hstatus : (blankMessage response).get "status" = response.get "status" :=
    Value.get_onMember_ne _ _ (by decide)
  have hheaders : (blankMessage response).get "headers" =
      (response.get "headers").map blankHeaders := Value.get_onMember_self _ _ _
  unfold harResponses
  rw [hcontent, hstatus, hheaders, namedValues_blankHeaders, List.filter_map, List.foldl_map]
  rfl

/-- Members of an example that have no headers are left alone. -/
theorem get_blankExample (example_ : Value) {key : Str} (h : key ≠ "header".toList)
    (h' : key ≠ "originalRequest".toList) : (blankExample example_).get key = example_.get key := by
  unfold blankExample
  rw [Value.get_onMembers]
  simp only [if_neg h, if_neg h']
  exact Option.map_id'

theorem exampleResponse_blank (example_ : Value) :
    exampleResponse lib (blankExample example_) = exampleResponse lib example_ := by
  have hheader : (blankExample example_).get "header" =
      (example_.get "header").map blankHeaders := by
    unfold blankExample
    rw [Value.get_onMembers]
    simp only [if_pos]
  -- The content type is no credential, so it is found as before.
  have hfind : (((namedValues (example_.get "header")).map softHeader).find? (fun h =>
      isContentType h.1)).map Prod.snd = ((namedValues (example_.get "header")).find? (fun h =>
      isContentType h.1)).map Prod.snd := by
    rw [List.find?_map]
    cases hfound : (namedValues (example_.get "header")).find?
        ((fun h => isContentType h.1) ∘ softHeader) with
    | none =>
        have hnone : (namedValues (example_.get "header")).find? (fun h => isContentType h.1) =
          none := hfound
        rw [hnone]
        rfl
    | some header =>
        have hsome : (namedValues (example_.get "header")).find? (fun h => isContentType h.1) =
          some header := hfound
        have hcontent : isContentType header.1 = true :=
          List.find?_some (p := fun h : Str × Str => isContentType h.1) hsome
        rw [hsome]
        unfold softHeader
        rw [Option.map_some, Option.map_some, Option.map_some, not_isCredentialHeader hcontent]
        rfl
  -- The status and the body are not touched.
  unfold exampleResponse
  have hcode : (blankExample example_).get "code" = example_.get "code" :=
    get_blankExample example_ (by decide) (by decide)
  have hbody : (blankExample example_).get "body" = example_.get "body" :=
    get_blankExample example_ (by decide) (by decide)
  rw [hheader, namedValues_blankHeaders, hfind, hcode, hbody]

theorem withResponses_blank (operation : ImportedOperation) (responses : CapturedResponses) :
    withResponses lib operation responses.blank = withResponses lib operation responses := by
  cases responses with
  | unknown => rfl
  | har response =>
      unfold CapturedResponses.blank withResponses
      dsimp only
      rw [harResponses_blank]
  -- An example keeps its name and its response.
  | examples listed =>
      have hname (e : Value) : (blankExample e).get "name" = e.get "name" :=
        get_blankExample e (by decide) (by decide)
      unfold CapturedResponses.blank withResponses
      dsimp only
      rw [List.map_map, List.filterMap_map]
      have hresponses : exampleResponse lib ∘ blankExample = exampleResponse lib :=
        funext (exampleResponse_blank lib)
      have hnames : (fun e : Value => (e.get "name").bind Value.asStr) ∘ blankExample =
          fun e : Value => (e.get "name").bind Value.asStr := by
        funext e
        exact congrArg (fun v => Option.bind v Value.asStr) (hname e)
      rw [hresponses, hnames]

/-- The responses of a blanked request. -/
theorem addResponses_blank (document : ImportDocument) (request : CapturedRequest) (index : Nat)
    (responses : CapturedResponses) :
    addResponses lib document request.blank index responses.blank =
      addResponses lib document request index responses := by
  cases responses with
  | unknown => rfl
  | har response =>
      -- The responses added are those of the blanked message.
      have hwith (operation : ImportedOperation) :=
        withResponses_blank lib operation (.har response)
      unfold addResponses CapturedResponses.blank at *
      dsimp only at *
      simp only [hwith]
      rfl
  | examples listed =>
      cases listed with
      | nil => rfl
      | cons first rest =>
          have hwith (operation : ImportedOperation) : withResponses lib operation
              (.examples (blankExample first :: rest.map blankExample)) =
              withResponses lib operation (.examples (first :: rest)) :=
            withResponses_blank lib operation (.examples (first :: rest))
          change addResponses lib document request.blank index
            (.examples (blankExample first :: rest.map blankExample)) = _
          unfold addResponses
          dsimp only
          simp only [hwith]
          rfl

/-- What a capture does to a document does not depend on the values of
    credential headers. -/
theorem apply_blank (document : ImportDocument) (capture : Capture) :
    capture.blank.apply lib document = capture.apply lib document := by
  cases capture with
  | request captured index responses =>
      unfold Capture.blank Capture.apply
      dsimp only
      rw [addRequest_blank]
      simp only [addResponses_blank]
  | absent absence => rfl
  | failed error => rfl

/-- Captures that agree up to the values of credential headers make the same
    document. -/
theorem importCaptures_blank {captures captures' : List Capture}
    (h : captures.map Capture.blank = captures'.map Capture.blank) (document : ImportDocument) :
    importCaptures lib document captures = importCaptures lib document captures' := by
  have hblank (captures : List Capture) : importCaptures lib document (captures.map Capture.blank) =
      importCaptures lib document captures := by
    unfold importCaptures
    rw [List.foldlM_map]
    exact foldlM_congr (fun document capture _ => apply_blank lib document capture) document
  rw [← hblank captures, h, hblank captures']

end

/-! ### HAR -/

theorem blankHeader_softHeader (header : Str × Str) :
    blankHeader (softHeader header) = blankHeader header := by
  unfold blankHeader softHeader
  dsimp only
  by_cases hcred : isCredentialHeader header.1 = true
  · rw [if_pos hcred, if_pos hcred]
  · rw [if_neg hcred, if_neg hcred, if_neg hcred]

/-- What is left of the headers of a blank is what is left of the headers. -/
theorem map_namedValues_blankHeaders (value : Option Value) :
    (namedValues (value.map blankHeaders)).map blankHeader =
      (namedValues value).map blankHeader := by
  rw [namedValues_blankHeaders, List.map_map]
  exact List.map_congr_left (fun header _ => blankHeader_softHeader header)

/-- The members of a message are those of its blank, up to its headers. -/
theorem lookup_blankMessage (members : List (Str × Value)) (key : Str)
    (h : key ≠ "headers".toList) : lookup key (members.map (fun e =>
      (e.1, if e.1 = "headers".toList then blankHeaders e.2 else e.2))) = lookup key members := by
  rw [lookup_map_members (fun name value => if name = "headers".toList then blankHeaders value
    else value)]
  simp only [if_neg h]
  exact Option.map_id'

theorem harRequest_blank (members : List (Str × Value)) (index : Nat) :
    (harRequest (members.map (fun e => (e.1, if e.1 = "headers".toList then blankHeaders e.2
      else e.2))) index).blank = (harRequest members index).blank := by
  have hheaders : lookup "headers" (members.map (fun e =>
      (e.1, if e.1 = "headers".toList then blankHeaders e.2 else e.2))) =
      (lookup "headers" members).map blankHeaders := by
    rw [lookup_map_members (fun name value => if name = "headers".toList then blankHeaders value
      else value)]
    simp only [if_pos]
  unfold harRequest stringField CapturedRequest.blank
  rw [lookup_blankMessage members "postData" (by decide),
    lookup_blankMessage members "method" (by decide),
    lookup_blankMessage members "url" (by decide), hheaders]
  dsimp only
  rw [map_namedValues_blankHeaders]

/-! ### Blanks of blanks -/

theorem blankText_blankText (value : Value) : blankText (blankText value) = blankText value := by
  cases value with
  | string text =>
      by_cases h : unresolved text = true
      · have hblank : blankText (.string text) = .string text := if_pos h
        rw [hblank, hblank]
      · have hblank : blankText (.string text) = .string [] := if_neg h
        rw [hblank]
        rfl
  | _ => rfl

theorem blankHeaderEntry_blankHeaderEntry (entry : Value) :
    blankHeaderEntry (blankHeaderEntry entry) = blankHeaderEntry entry := by
  have hname : headerName (blankHeaderEntry entry) = headerName entry := by
    unfold headerName
    rw [get_blankHeaderEntry (by decide), get_blankHeaderEntry (by decide)]
  by_cases hcred : (headerName entry).any isCredentialHeader = true
  · have hblank : blankHeaderEntry entry = entry.onMember "value" blankText := if_pos hcred
    rw [hblank] at hname ⊢
    unfold blankHeaderEntry
    rw [hname, if_pos hcred, Value.onMember_onMember]
    simp only [blankText_blankText]
  · have hblank : blankHeaderEntry entry = entry := if_neg hcred
    rw [hblank, hblank]

theorem blankHeaders_blankHeaders (headers : Value) :
    blankHeaders (blankHeaders headers) = blankHeaders headers := by
  unfold blankHeaders
  rw [Value.onItems_onMembers, Value.onMembers_onMembers, Value.onItems_onItems]
  simp only [blankHeaderEntry_blankHeaderEntry]
  congr 1
  funext name value
  by_cases hcred : isCredentialHeader name = true
  · rw [if_pos hcred, if_pos hcred, blankText_blankText]
  · rw [if_neg hcred, if_neg hcred]

theorem blankMessage_blankMessage (message : Value) :
    blankMessage (blankMessage message) = blankMessage message := by
  unfold blankMessage
  rw [Value.onMember_onMember]
  simp only [blankHeaders_blankHeaders]

/-! ### HAR entries -/

/-- The capture of an entry does not depend on its credentials, up to the values
    of credential headers. -/
theorem harCapture_blank (entry : Value) (index : Nat) :
    (harCapture (blankEntry entry) index).blank = (harCapture entry index).blank := by
  -- Both messages are blanked, and blanking twice is blanking once.
  have hrequest : (blankEntry entry).get "request" = (entry.get "request").map blankMessage := by
    unfold blankEntry
    rw [Value.get_onMember_ne _ _ (by decide), Value.get_onMember_self]
  have hresponse : (blankEntry entry).get "response" = (entry.get "response").map blankMessage := by
    unfold blankEntry
    rw [Value.get_onMember_self, Value.get_onMember_ne _ _ (by decide)]
  have hresponses : ((((blankEntry entry).get "response").map CapturedResponses.har).getD
      .unknown).blank = (((entry.get "response").map CapturedResponses.har).getD .unknown).blank := by
    rw [hresponse]
    cases entry.get "response" with
    | none => rfl
    | some response => exact congrArg CapturedResponses.har (blankMessage_blankMessage response)
  -- There is a request to capture in the one exactly when there is in the other.
  have hobject : ((blankEntry entry).get "request").bind Value.asObject =
      ((entry.get "request").bind Value.asObject).map (fun members => members.map (fun e =>
        (e.1, if e.1 = "headers".toList then blankHeaders e.2 else e.2))) := by
    rw [hrequest]
    cases entry.get "request" with
    | none => rfl
    | some request =>
        exact Value.asObject_onMembers (fun name value =>
          if name = "headers".toList then blankHeaders value else value) request
  unfold harCapture
  rw [hobject]
  cases (entry.get "request").bind Value.asObject with
  | none => rfl
  | some members =>
      change Capture.request _ _ _ = Capture.request _ _ _
      rw [hresponses, harRequest_blank]

/-- HAR entries, one by one. -/
theorem harCaptures_blank (entries : List Value) :
    (harCaptures (entries.map blankEntry)).map Capture.blank =
      (harCaptures entries).map Capture.blank := by
  unfold harCaptures
  rw [List.zipIdx_map, List.map_map, List.map_map, List.map_map]
  exact List.map_congr_left (fun e _ => harCapture_blank e.1 e.2)

/-- A pointer to the version or the entries of a HAR document. -/
theorem pointer_blankHar (document : Value) :
    (blankHar document).pointer "/log/version" = document.pointer "/log/version" ∧
      (blankHar document).pointer "/log/entries" =
        (document.pointer "/log/entries").map (Value.onItems blankEntry) := by
  have hlog : (blankHar document).get "log" = (document.get "log").map (fun log =>
      log.onMember "entries" (fun entries => entries.onItems blankEntry)) :=
    Value.get_onMember_self _ _ _
  have hversion (v : Value) : v.pointer "/log/version" =
      (v.get "log").bind (fun log => log.get "version") :=
    Value.pointer_two v (by decide) (by decide) (by decide)
  have hentries (v : Value) : v.pointer "/log/entries" =
      (v.get "log").bind (fun log => log.get "entries") :=
    Value.pointer_two v (by decide) (by decide) (by decide)
  rw [hversion, hversion, hentries, hentries, hlog]
  cases document.get "log" with
  | none => exact ⟨rfl, rfl⟩
  | some log => exact ⟨Value.get_onMember_ne _ _ (by decide), Value.get_onMember_self _ _ _⟩

/-! ### HTTP files -/

/-- What has been read of a section, without the values of credential
    headers. -/
def HttpLines.blank (state : HttpLines) : HttpLines :=
  { state with headers := state.headers.map blankHeader }

/-- A line does the same to two states that agree up to credentials. -/
theorem httpLine_blank {state state' : HttpLines} (h : state.blank = state'.blank) (raw : Str) :
    (httpLine state raw).blank = (httpLine state' raw).blank := by
  -- A line adds to what the state has, so it may be blanked after or before.
  have hblank (state : HttpLines) : (httpLine state raw).blank =
      (httpLine state.blank raw).blank := by
    have hmap : (state.headers.map blankHeader).map blankHeader = state.headers.map blankHeader := by
      rw [List.map_map]
      refine List.map_congr_left (fun header _ => ?_)
      change (header.1, if isCredentialHeader header.1 then [] else
        if isCredentialHeader header.1 then [] else header.2) = _
      by_cases hcred : isCredentialHeader header.1 = true
      · unfold blankHeader
        rw [if_pos hcred, if_pos hcred]
      · unfold blankHeader
        rw [if_neg hcred, if_neg hcred]
    unfold httpLine HttpLines.blank
    dsimp only
    -- The body, an empty line, a comment, and then the header.
    split_ifs
    · rw [hmap]
    · rw [hmap]
    · rw [hmap]
    · cases splitOnce ":".toList (trim raw) with
      | none =>
          dsimp only
          rw [hmap]
      | some parts =>
          dsimp only
          rw [List.map_append, List.map_append, hmap]
  rw [hblank, hblank state', h]

/-- The line of a header with its value taken out is read as a header of the
    same name. -/
theorem splitOnce_blankLine {raw name value : Str} (hname : trim name ≠ [])
    (hsplit : splitOnce ":" (trim raw) = some (name, value)) :
    trim (name ++ [':']) = name ++ [':'] ∧ splitOnce [':'] (name ++ [':']) = some (name, []) ∧
      startsWith ['#'] (name ++ [':']) = startsWith ['#'] (trim raw) := by
  rcases (splitOnce_iff (by decide)).mp hsplit with ⟨hraw, hfirst⟩
  have hne : name ≠ [] := by
    rintro rfl
    exact hname rfl
  -- The name begins where the line does, and a colon ends it.
  have htrimmed : Trimmed (name ++ [':']) := by
    constructor
    · intro c hc
      refine (trimmed_trim raw).1 c ?_
      rw [hraw, List.append_assoc, List.head?_append_of_ne_nil _ hne]
      rw [List.head?_append_of_ne_nil _ hne] at hc
      exact hc
    · intro c hc
      rw [List.getLast?_append] at hc
      cases hc
      decide
  refine ⟨htrimmed.trim_eq, (splitOnce_iff (by decide)).mpr ⟨(List.append_nil _).symm, hfirst⟩, ?_⟩
  rw [hraw]
  -- Whether it is a comment is told by the first character.
  cases name with
  | nil => exact absurd rfl hne
  | cons c rest => rfl

/-- One line of a `.http` section: the state of the reader goes on alike. -/
theorem blankLines_cons (state : HttpLines) (raw : Str) (rest : List Str) :
    ∃ raw' : Str, blankLines state.inBody (raw :: rest) =
        raw' :: blankLines (httpLine state raw').inBody rest ∧
      (httpLine state raw').blank = (httpLine state raw).blank := by
  -- The cases in the order the importer reads a line.
  by_cases hbody : state.inBody = true
  · have hline : httpLine state raw = { state with body := state.body ++ [raw] } := if_pos hbody
    refine ⟨raw, ?_, rfl⟩
    rw [hline, blankLines, if_pos hbody, hbody]
  have hheaders : state.inBody = false := Bool.eq_false_iff.mpr hbody
  by_cases hempty : trim raw = []
  · have hline : httpLine state raw = { state with inBody := true } := by
      unfold httpLine
      rw [if_neg hbody, if_pos hempty]
    refine ⟨raw, ?_, rfl⟩
    rw [hline, blankLines, if_neg hbody, if_pos hempty]
  by_cases hcomment : startsWith "#".toList (trim raw) = true
  · have hline : httpLine state raw = state := by
      unfold httpLine
      rw [if_neg hbody, if_neg hempty, if_pos hcomment]
    refine ⟨raw, ?_, rfl⟩
    rw [hline, blankLines, if_neg hbody, if_neg hempty, if_pos hcomment, hheaders]
  -- A line without a colon opens the body.
  cases hsplit : splitOnce ":".toList (trim raw) with
  | none =>
      have hlines : blankLines state.inBody (raw :: rest) = raw :: blankLines true rest := by
        simp only [blankLines, if_neg hbody, if_neg hempty, if_neg hcomment, hsplit]
      have hline : httpLine state raw = { state with body := state.body ++ [raw], inBody := true } := by
        simp only [httpLine, if_neg hbody, if_neg hempty, if_neg hcomment, hsplit]
      refine ⟨raw, ?_, rfl⟩
      rw [hlines, hline]
  | some parts =>
      rcases parts with ⟨name, value⟩
      have hlines : blankLines state.inBody (raw :: rest) =
          (if isCredentialHeader (trim name) then name ++ ":".toList else raw) ::
            blankLines false rest := by
        simp only [blankLines, if_neg hbody, if_neg hempty, if_neg hcomment, hsplit]
      have hline : httpLine state raw =
          { state with headers := state.headers ++ [(trim name, trim value)] } := by
        simp only [httpLine, if_neg hbody, if_neg hempty, if_neg hcomment, hsplit]
      -- Only a credential header is written anew, as its name and a colon.
      by_cases hcred : isCredentialHeader (trim name) = true
      · have hname : trim name ≠ [] := by
          intro hnil
          rw [hnil] at hcred
          revert hcred
          decide
        rcases splitOnce_blankLine hname hsplit with ⟨htrim, hblank, hhash⟩
        -- The blanked line is read as the same header, with an empty value.
        have hblankLine : httpLine state (name ++ ":".toList) =
            { state with headers := state.headers ++ [(trim name, [])] } := by
          have hne : ¬ name ++ [':'] = [] := List.append_ne_nil_of_right_ne_nil _ (List.cons_ne_nil _ _)
          change httpLine state (name ++ [':']) = _
          have hplain : ¬ startsWith "#".toList (name ++ [':']) = true := hhash ▸ hcomment
          have hcolon : splitOnce ":".toList (name ++ [':']) = some (name, []) := hblank
          have hnil : trim [] = [] := rfl
          simp only [httpLine, htrim, if_neg hbody, if_neg hne, if_neg hplain, hcolon, hnil]
        refine ⟨name ++ ":".toList, ?_, ?_⟩
        · rw [hlines, hblankLine, if_pos hcred]
          dsimp only
          rw [hheaders]
        · rw [hline, hblankLine]
          unfold HttpLines.blank
          dsimp only
          rw [List.map_append, List.map_append]
          unfold blankHeader
          simp only [List.map_cons, List.map_nil, if_pos hcred]
      · refine ⟨raw, ?_, rfl⟩
        rw [hlines, hline, if_neg hcred]
        dsimp only
        rw [hheaders]

/-- Reading the lines of a blank section. -/
theorem foldl_blankLines (lines : List Str) : ∀ state state' : HttpLines,
    state.blank = state'.blank →
      ((blankLines state.inBody lines).foldl httpLine state).blank =
        (lines.foldl httpLine state').blank := by
  induction lines with
  | nil => exact fun _ _ h => h
  | cons raw rest ih =>
      intro state state' h
      rcases blankLines_cons state raw rest with ⟨raw', hlines, hraw⟩
      rw [hlines, List.foldl_cons, List.foldl_cons]
      exact ih _ _ (hraw.trans (httpLine_blank h raw))

/-- One section, by its lines. -/
theorem httpRequest_blank (index : Nat) (method url : Str) (lines : List Str) :
    (httpRequest index method url (blankLines false lines)).blank =
      (httpRequest index method url lines).blank := by
  have hfold := foldl_blankLines lines ⟨[], [], false⟩ ⟨[], [], false⟩ rfl
  have hheaders := congrArg HttpLines.headers hfold
  have hbody := congrArg HttpLines.body hfold
  unfold HttpLines.blank at hheaders hbody
  dsimp only at hheaders hbody
  unfold httpRequest CapturedRequest.blank
  dsimp only
  rw [hheaders, hbody]

/-- The lines of a blank section from its request line on. -/
theorem dropWhile_blankSection (lines : List Str) :
    (blankSection lines).dropWhile (fun line => !isRequestLine line) =
      match lines.dropWhile (fun line => !isRequestLine line) with
      | [] => []
      | first :: rest => first :: blankLines false rest := by
  have hbefore : ∀ line ∈ lines.takeWhile (fun line => !isRequestLine line),
      (!isRequestLine line) = true := 
    fun line hline => List.mem_takeWhile_imp (p := fun line => !isRequestLine line) hline
  unfold blankSection
  dsimp only
  have hfirst := List.head?_dropWhile_not (fun line => !isRequestLine line) lines
  cases hdrop : lines.dropWhile (fun line => !isRequestLine line) with
  | nil => exact List.dropWhile_eq_nil_iff.mpr hbefore
  | cons first rest =>
      rw [hdrop] at hfirst
      dsimp only [List.head?_cons] at hfirst ⊢
      rw [List.dropWhile_append_of_pos hbefore, List.dropWhile_cons_of_neg]
      rw [hfirst]
      exact Bool.false_ne_true

theorem httpCapture_blank (lines : List Str) (index : Nat) :
    (httpCapture (blankSection lines) index).map Capture.blank =
      (httpCapture lines index).map Capture.blank := by
  unfold httpCapture
  rw [dropWhile_blankSection]
  cases lines.dropWhile (fun line => !isRequestLine line) with
  | nil => rfl
  | cons first rest =>
      dsimp only
      rcases textWords first with _ | ⟨method, _ | ⟨url, words⟩⟩
      · rfl
      · rfl
      · dsimp only
        split_ifs
        · rfl
        · change [Capture.request _ _ _] = [Capture.request _ _ _]
          rw [httpRequest_blank]

/-- The captures of a file are read from its blank sections, up to the values of
    credential headers. -/
theorem httpCaptures_blank (text : Str) : (httpCaptures text).map Capture.blank =
    ((httpSections (textLines text)).map blankSection).zipIdx.flatMap (fun s =>
      (httpCapture s.1 s.2).map Capture.blank) := by
  unfold httpCaptures
  rw [List.map_flatMap, List.zipIdx_map, List.flatMap_map]
  refine List.flatMap_congr (fun s _ => ?_)
  exact (httpCapture_blank s.1 s.2).symm

end Kahea
