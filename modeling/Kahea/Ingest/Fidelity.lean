import Kahea.Exec.Invoke
import Kahea.Ingest.Defaults

/-!
# Fidelity of Imported Requests

What it takes for an imported request to be planned as it was captured.

The importer translates a request into an operation with captured defaults, and
the planner translates the operation back. `Reproduces` says that a plan is for
the captured request: its method, its path, its query pairs, its headers, its
content type and its body. `Faithful` is the condition on the request under
which planning without input gives such a plan.

## Main definitions

* `isJsonMediaType`, `expectedBytes`: The body a request is expected to have.
* `BodySurvives`: The media types and bodies that come back unchanged.
* `Reproduces`: A plan for a captured request.
* `Faithful`: The requests that are planned as they were captured.

## Theorems

* `serializeBody_survives`, `survives_of_serializeBody`: The body.
* `planParts_imported`, `imported_of_planParts`: When the planner takes an
  imported operation, and what it makes of it.
* `faithful_iff`: When an imported request is planned as it was captured.
-/

namespace Kahea

/-! ### Bodies -/

/-- The media type without its parameters. -/
def capturedEssence (mediaType : Str) : Str := trim (mediaType.takeWhile (fun c => c != ';'))

/-- A JSON media type, with or without parameters. -/
def isJsonMediaType (mediaType : Str) : Bool :=
  capturedEssence mediaType = "application/json" || endsWith "+json" (capturedEssence mediaType)

/-- The bytes a captured body is expected to be sent as: the same JSON value
    for JSON media types and the same bytes otherwise. -/
def expectedBytes (lib : Crates) (mediaType text : Str) : List UInt8 :=
  if isJsonMediaType mediaType then
    match lib.parseJson (utf8 text) with
    | .ok value => utf8 value.render
    | .error _ => utf8 text
  else utf8 text

/-- The media types whose bodies are sent as canonical JSON. -/
def sentAsJson (mediaType : Str) : Prop :=
  mediaType = "application/json" ∨ endsWith "+json" mediaType = true

/-- The media types whose bodies are sent as they are. -/
def sentAsText (mediaType : Str) : Prop :=
  startsWith "text/" mediaType = true ∨ "xml".toList <:+: mediaType ∨
    mediaType = "application/x-www-form-urlencoded"

/-- The media types and bodies that come back unchanged. -/
def BodySurvives (lib : Crates) (mediaType text : Str) : Prop :=
  if "json".toList <:+: mediaType then
    sentAsJson mediaType ∧ (isJsonMediaType mediaType = true ∨
      ∀ value, lib.parseJson (utf8 text) = .ok value → value.render = text)
  else sentAsText mediaType ∨ (text = [] ∧ mediaType ≠ "multipart/form-data")

theorem infix_of_endsWith {s t : Str} (h : endsWith t s = true) : t <:+: s :=
  (List.isSuffixOf_iff_suffix.mp h).isInfix

theorem infix_of_sentAsJson {mediaType : Str} (h : sentAsJson mediaType) :
    "json".toList <:+: mediaType := by
  rcases h with rfl | h
  · decide
  · have hjson : "json".toList <:+: "+json".toList := by decide
    exact hjson.trans (infix_of_endsWith h)

theorem infix_of_isJsonMediaType {mediaType : Str} (h : isJsonMediaType mediaType = true) :
    "json".toList <:+: mediaType := by
  have hessence : capturedEssence mediaType <:+: mediaType := by
    unfold capturedEssence trim
    have hr := List.rdropWhile_prefix isWhiteSpace
      ((mediaType.takeWhile (fun c => c != ';')).dropWhile isWhiteSpace)
    have hd := List.dropWhile_suffix isWhiteSpace (l := mediaType.takeWhile (fun c => c != ';'))
    have ht := List.takeWhile_prefix (l := mediaType) (fun c => c != ';')
    exact hr.isInfix.trans (hd.isInfix.trans ht.isInfix)
  unfold isJsonMediaType at h
  rw [Bool.or_eq_true, decide_eq_true_eq] at h
  exact (infix_of_sentAsJson h).trans hessence

/-- Decoding base64 makes a text shorter. -/
theorem base64Decode_length {s : Str} {bytes : List UInt8} (h : base64Decode s = some bytes) :
    4 * bytes.length ≤ 3 * s.length := by
  -- By the groups of four characters, each of at most three bytes.
  fun_induction base64Decode s generalizing bytes with
  | case1 =>
      cases h
      exact Nat.le_refl _
  | case2 a b =>
      rcases Option.bind_eq_some_iff.mp h with ⟨x, _, h⟩
      rcases Option.bind_eq_some_iff.mp h with ⟨y, _, h⟩
      split_ifs at h
      cases h
      simp only [List.length_cons, List.length_nil]
      omega
  | case3 a b c _ =>
      rcases Option.bind_eq_some_iff.mp h with ⟨x, _, h⟩
      rcases Option.bind_eq_some_iff.mp h with ⟨y, _, h⟩
      rcases Option.bind_eq_some_iff.mp h with ⟨z, _, h⟩
      split_ifs at h
      cases h
      simp only [List.length_cons, List.length_nil]
      omega
  | case4 a b c d rest _ _ ih =>
      rcases Option.bind_eq_some_iff.mp h with ⟨x, _, h⟩
      rcases Option.bind_eq_some_iff.mp h with ⟨y, _, h⟩
      rcases Option.bind_eq_some_iff.mp h with ⟨z, _, h⟩
      rcases Option.bind_eq_some_iff.mp h with ⟨w, _, h⟩
      rcases Option.bind_eq_some_iff.mp h with ⟨tail, htail, h⟩
      cases h
      have hrest := ih htail
      simp only [List.length_cons]
      omega
  | case5 => cases h

/-- A JSON string literal is longer than the string. -/
theorem length_quote (s : Str) : s.length + 2 ≤ (quote s).length := by
  have hchar (c : Char) : 1 ≤ (escapeChar c).length := by
    unfold escapeChar
    split_ifs <;> simp
  have hflat (s : Str) : s.length ≤ (s.flatMap escapeChar).length := by
    induction s with
    | nil => exact Nat.le_refl _
    | cons c s ih =>
        have hc := hchar c
        rw [List.flatMap_cons, List.length_append, List.length_cons]
        omega
  have hs := hflat s
  unfold quote
  rw [List.length_cons, List.length_append, List.length_singleton]
  omega

section

variable {lib : Crates} {request : CapturedRequest} {text mediaType : Str} {value : Value}

/-- The media type and the value a captured body becomes. -/
theorem capturedBody_some (hbody : request.body = some text)
    (h : capturedBody lib request = .ok (some (mediaType, value))) :
    mediaType = capturedMediaType lib request text ∧
      (("json".toList <:+: mediaType ∧ lib.parseJson (utf8 text) = .ok value) ∨
        (¬ "json".toList <:+: mediaType ∧ value = .string text)) := by
  unfold capturedBody at h
  rw [hbody] at h
  dsimp only at h
  -- A JSON media type is parsed, any other is kept as text.
  by_cases hjson : "json".toList <:+: capturedMediaType lib request text
  · rw [if_pos hjson] at h
    cases hparse : lib.parseJson (utf8 text) with
    | error e =>
        rw [hparse] at h
        cases h
    | ok v =>
        rw [hparse] at h
        cases h
        exact ⟨rfl, Or.inl ⟨hjson, rfl⟩⟩
  · rw [if_neg hjson] at h
    cases h
    exact ⟨rfl, Or.inr ⟨hjson, rfl⟩⟩

/-- The bytes the executor reads from a serialised body. -/
def SerializedBody.sent (wire : SerializedBody) : Option (List UInt8) :=
  if wire.encoding = "utf-8" then some (utf8 wire.inline)
  else if wire.encoding = "base64" then base64Decode wire.inline
  else none

/-- A body of a media type that is neither JSON, nor text, nor a form. -/
theorem serializeBinary_ok {wire : SerializedBody} (h : serializeBinary lib mediaType value = .ok wire) :
    ∃ s encoded, value = .string s ∧ encoded.length ≤ s.length ∧
      base64Decode encoded = some wire.bytes ∧ wire.sent = some wire.bytes := by
  unfold serializeBinary at h
  cases hvalue : value.asStr with
  | none =>
      rw [hvalue] at h
      cases h
  | some s =>
      rw [hvalue] at h
      dsimp only at h
      -- Only a text is binary, with or without the marker before it.
      have hstring : value = .string s := by
        cases value <;> cases hvalue
        rfl
      have hlength : ((stripPrefix "base64:" s).getD s).length ≤ s.length := by
        cases hstrip : stripPrefix "base64:" s with
        | none => exact Nat.le_refl _
        | some rest =>
            have hs := (stripPrefix_eq_some _ _ _).mp hstrip
            rw [hs, Option.getD_some, List.length_append]
            omega
      cases hdecode : base64Decode ((stripPrefix "base64:" s).getD s) with
      | none =>
          rw [hdecode] at h
          cases h
      | some bytes =>
          rw [hdecode] at h
          cases h
          exact ⟨s, _, hstring, hlength, hdecode, hdecode⟩

theorem serializeBody_json {world : World} (h : sentAsJson mediaType) :
    serializeBody lib world mediaType value =
      pure (textBody mediaType value.render "canonical-json") := if_pos h

/-- A text is sent as it is under the media types of texts and forms. -/
theorem serializeBody_text {world : World} (hjson : ¬ sentAsJson mediaType)
    (htext : sentAsText mediaType) :
    ∃ transformation, serializeBody lib world mediaType (.string text) =
      pure (textBody mediaType text transformation) := by
  unfold sentAsJson at hjson
  unfold serializeBody
  rw [if_neg hjson]
  by_cases hmedia : startsWith "text/" mediaType = true ∨ "xml".toList <:+: mediaType
  · rw [if_pos hmedia]
    exact ⟨_, rfl⟩
  · have hform : mediaType = "application/x-www-form-urlencoded" := by
      rcases htext with h | h | h
      · exact absurd (Or.inl h) hmedia
      · exact absurd (Or.inr h) hmedia
      · exact h
    rw [if_neg hmedia, if_pos hform]
    exact ⟨_, rfl⟩

/-- A body that survives is sent as it is expected. -/
theorem serializeBody_survives {world : World} (hbody : request.body = some text)
    (h : capturedBody lib request = .ok (some (mediaType, value)))
    (hsurvives : BodySurvives lib mediaType text) :
    ∃ wire, serializeBody lib world mediaType value = pure wire ∧ wire.mediaType = mediaType ∧
      wire.sent = some (expectedBytes lib mediaType text) ∧
      wire.bytes = expectedBytes lib mediaType text := by
  rcases capturedBody_some hbody h with ⟨_, ⟨hjson, hparse⟩ | ⟨hjson, hvalue⟩⟩
  -- A JSON media type: what was captured is the parsed value, rendered again.
  · unfold BodySurvives at hsurvives
    rw [if_pos hjson] at hsurvives
    have hexpected : expectedBytes lib mediaType text = utf8 value.render := by
      unfold expectedBytes
      rw [hparse]
      -- Either it is sent as the text it was, or rendering gives that text back.
      rcases hsurvives.2 with hmedia | hrender
      · rw [if_pos hmedia]
      · dsimp only
        rw [hrender value hparse]
        exact ite_self _
    rw [serializeBody_json hsurvives.1, hexpected]
    exact ⟨_, rfl, rfl, rfl, rfl⟩
  -- Any other media type keeps the text.
  · have hnot : ¬ isJsonMediaType mediaType = true := fun hm => hjson (infix_of_isJsonMediaType hm)
    have hnever : ¬ sentAsJson mediaType := fun hm => hjson (infix_of_sentAsJson hm)
    have hexpected : expectedBytes lib mediaType text = utf8 text := if_neg hnot
    unfold BodySurvives at hsurvives
    rw [if_neg hjson] at hsurvives
    rw [hvalue, hexpected]
    by_cases htext : sentAsText mediaType
    · rcases serializeBody_text hnever htext with
        ⟨transformation, hok⟩
      rw [hok]
      exact ⟨_, rfl, rfl, rfl, rfl⟩
    -- Neither text nor JSON nor a form: only the empty text survives.
    · rcases hsurvives.resolve_left htext with ⟨hempty, hmultipart⟩
      unfold sentAsText at htext
      rw [not_or, not_or] at htext
      unfold sentAsJson at hnever
      unfold serializeBody
      rw [if_neg hnever, if_neg (fun hm => hm.elim htext.1 htext.2.1), if_neg htext.2.2,
        if_neg hmultipart, hempty]
      exact ⟨_, rfl, rfl, rfl, rfl⟩

/-- A body that is sent as it is expected survives. -/
theorem survives_of_serializeBody {world : World} {past : List Event} {wire : SerializedBody}
    (hbody : request.body = some text)
    (h : capturedBody lib request = .ok (some (mediaType, value)))
    (hliteral : ∀ s, lib.parseJson (utf8 text) = .ok (.string s) → s.length < text.length)
    (hok : (serializeBody lib world mediaType value past).1 = .ok wire)
    (hsent : wire.sent = some (expectedBytes lib mediaType text)) :
    BodySurvives lib mediaType text := by
  rcases capturedBody_some hbody h with ⟨_, ⟨hjson, hparse⟩ | ⟨hjson, hvalue⟩⟩
  · unfold BodySurvives
    rw [if_pos hjson]
    by_cases hcanonical : sentAsJson mediaType
    · refine ⟨hcanonical, or_iff_not_imp_left.mpr (fun hmedia v hv => ?_)⟩
      rw [hparse] at hv
      cases hv
      rw [serializeBody_json hcanonical] at hok
      cases hok
      have hexpected : expectedBytes lib mediaType text = utf8 text := if_neg hmedia
      rw [hexpected] at hsent
      exact utf8_injective (Option.some.inj hsent)
    · exfalso
      -- Any other way of sending the value is shorter than expected.
      have hlonger (s : Str) (hs : value = .string s) :
          s.length < (expectedBytes lib mediaType text).length := by
        rw [hs] at hparse
        unfold expectedBytes
        rw [hparse]
        split_ifs
        · have hquote := length_quote s
          have hutf8 := length_le_utf8 (Value.string s).render
          dsimp only
          rw [Value.render] at hutf8 ⊢
          omega
        · have hshorter := hliteral s hparse
          have hutf8 := length_le_utf8 text
          omega
      have hexact (s : Str) (hs : value = .string s) :
          utf8 s ≠ expectedBytes lib mediaType text := by
        intro heq
        rw [hs] at hparse
        unfold expectedBytes at heq
        rw [hparse] at heq
        split_ifs at heq
        · have hquote := length_quote s
          have hsame := congrArg List.length (utf8_injective heq)
          rw [Value.render] at hsame
          omega
        · have hshorter := hliteral s hparse
          have hsame := congrArg List.length (utf8_injective heq)
          omega
      unfold sentAsJson at hcanonical
      unfold serializeBody at hok
      rw [if_neg hcanonical] at hok
      split_ifs at hok with hmedia hform hmultipart
      · cases hs : value.asStr with
        | none =>
            rw [hs] at hok
            cases hok
        | some s =>
            rw [hs] at hok
            cases hok
            have hstring : value = .string s := by
              cases value <;> cases hs
              rfl
            exact hexact s hstring (Option.some.inj hsent)
      · rw [hform] at hjson
        exact absurd hjson (by decide)
      · rw [hmultipart] at hjson
        exact absurd hjson (by decide)
      · rcases serializeBinary_ok hok with ⟨s, encoded, hstring, hlength, hdecode, hread⟩
        rw [hread] at hsent
        have hbytes := Option.some.inj hsent
        have hshort := base64Decode_length hdecode
        have hlong := hlonger s hstring
        rw [← hbytes] at hlong
        omega
  · unfold BodySurvives
    rw [if_neg hjson]
    have hnot : ¬ isJsonMediaType mediaType = true := fun hm => hjson (infix_of_isJsonMediaType hm)
    have hnever : ¬ sentAsJson mediaType := fun hm => hjson (infix_of_sentAsJson hm)
    have hexpected : expectedBytes lib mediaType text = utf8 text := if_neg hnot
    refine or_iff_not_imp_left.mpr (fun htext => ?_)
    unfold sentAsText at htext
    rw [not_or, not_or] at htext
    unfold sentAsJson at hnever
    unfold serializeBody at hok
    rw [if_neg hnever, if_neg (fun hm => hm.elim htext.1 htext.2.1), if_neg htext.2.2] at hok
    split_ifs at hok with hmultipart
    · rw [hvalue] at hok
      cases hok
    · rcases serializeBinary_ok hok with ⟨s, encoded, hstring, hlength, hdecode, hread⟩
      rw [hvalue] at hstring
      cases hstring
      rw [hread, hexpected] at hsent
      have hbytes := Option.some.inj hsent
      have hshort := base64Decode_length hdecode
      have hutf8 := length_le_utf8 text
      rw [← hbytes] at hutf8
      refine ⟨List.length_eq_zero_iff.mp ?_, hmultipart⟩
      omega

end

/-! ### The stages of planning -/

/-- The URL library on the URL of a request: the path of a web URL starts with
    a slash and has neither blanks nor braces, its host is not empty and has no
    slashes, and its origin and path are parsed back to it. -/
structure WebUrl (lib : Crates) (url : Url) (host : Str) : Prop where
  slash : url.path.head? = some '/'
  plain : ∀ c ∈ url.path, isWhiteSpace c = false ∧ c ≠ '\x7b'
  hostPlain : '/' ∉ host
  present : host ≠ []
  reparse : lib.parseUrl (capturedOrigin url host ++ url.path) =
    .ok { url with username := [], password := none, query := none, fragment := none }

/-- The URL of a request without credentials, query and fragment. -/
def servedUrl (url : Url) : Url :=
  { url with username := [], password := none, query := none, fragment := none }

section

variable {lib : Crates} {url : Url} {host : Str} {document : ImportDocument} {bytes : List UInt8}
  {path method : Str} {o : ImportedOperation}

theorem capturedUrl_host {request : CapturedRequest}
    (h : capturedUrl lib request = .ok (url, host)) :
    url.host = some host ∧ (url.scheme = "http" ∨ url.scheme = "https") := by
  have hparse := capturedUrl_ok h
  unfold capturedUrl at h
  rw [hparse] at h
  dsimp only at h
  split_ifs at h with hscheme
  cases hhost : url.host with
  | none =>
      rw [hhost] at h
      cases h
  | some name =>
      rw [hhost] at h
      cases h
      exact ⟨rfl, hscheme⟩

/-- An origin is a scheme, a host and perhaps a port. -/
theorem capturedOrigin_eq (url : Url) (host : Str) : ∃ port : Str,
    capturedOrigin url host = (url.scheme ++ "://") ++ (host ++ port) ∧
      ∀ c ∈ port, c = ':' ∨ c.isDigit := by
  unfold capturedOrigin
  cases url.port with
  | none => exact ⟨[], by rw [List.append_nil, List.append_nil, List.append_assoc], nofun⟩
  | some port =>
      refine ⟨':' :: decimal port, by simp only [List.append_assoc], fun c hc => ?_⟩
      rcases List.mem_cons.mp hc with rfl | hc
      · exact Or.inl rfl
      · exact Or.inr (isDigit_of_mem_decimal hc)

/-- An origin has a brace exactly when its host has one. -/
theorem brace_mem_origin (hscheme : url.scheme = "http" ∨ url.scheme = "https") :
    '\x7b' ∈ capturedOrigin url host ↔ '\x7b' ∈ host := by
  rcases capturedOrigin_eq url host with ⟨port, horigin, hport⟩
  rw [horigin]
  constructor
  · intro hmem
    rcases List.mem_append.mp hmem with hmem | hmem
    · rcases hscheme with hs | hs <;> rw [hs] at hmem <;> exact absurd hmem (by decide)
    · rcases List.mem_append.mp hmem with hmem | hmem
      · exact hmem
      · exact absurd (hport _ hmem) (by decide)
  · exact fun hmem => List.mem_append_right _ (List.mem_append_left _ hmem)

namespace WebUrl

variable (h : WebUrl lib url host)

include h

theorem path_ne_nil : url.path ≠ [] := by
  intro hnil
  have hslash := h.slash
  rw [hnil] at hslash
  cases hslash

theorem capturedPath_eq : capturedPath url = url.path := if_neg h.path_ne_nil

theorem trim_path : trim url.path = url.path := by
  have hdrop : url.path.dropWhile isWhiteSpace = url.path := by
    rw [List.dropWhile_eq_self_iff]
    intro hlength
    rw [(h.plain _ (List.getElem_mem hlength)).1]
    exact Bool.false_ne_true
  unfold trim
  rw [hdrop, List.rdropWhile_eq_self_iff]
  intro hne
  rw [(h.plain _ (List.getLast_mem hne)).1]
  exact Bool.false_ne_true

theorem normalizePath_eq : normalizePath url.path = url.path := by
  unfold normalizePath
  rw [h.trim_path]
  refine if_pos ?_
  have hslash := h.slash
  cases hpath : url.path with
  | nil =>
      rw [hpath] at hslash
      cases hslash
  | cons c rest =>
      rw [hpath] at hslash
      cases hslash
      rfl

/-- An origin does not end with a slash. -/
theorem trimEndMatches_origin : trimEndMatches '/' (capturedOrigin url host) =
    capturedOrigin url host := by
  rcases capturedOrigin_eq url host with ⟨port, horigin, hport⟩
  unfold trimEndMatches
  rw [List.rdropWhile_eq_self_iff, horigin]
  intro hne
  have hparts : host ++ port ≠ [] := fun hnil => h.present (List.append_eq_nil_iff.mp hnil).1
  rw [List.getLast_append_of_ne_nil _ hparts, beq_iff_eq]
  intro hslash
  have hmem := List.getLast_mem hparts
  rw [hslash] at hmem
  rcases List.mem_append.mp hmem with hmem | hmem
  · exact h.hostPlain hmem
  · exact absurd (hport _ hmem) (by decide)

end WebUrl

/-- The server of an imported operation is its origin, which must not look like
    a template. -/
theorem selectServer_imported (configuration : ProjectConfiguration) {server : Str} :
    selectServer lib (importedSource lib document bytes)
      (document.definition lib bytes path method o) none configuration = .ok server ↔
        '\x7b' ∉ o.origin ∧ o.origin = server := by
  have hkey : "variables".toList ∉ ["url".toList] := by decide
  -- The operation declares one server, without variables.
  have hservers : lookup "servers" (document.definition lib bytes path method o).operation =
      some (.array [jsonObject [("url", .string o.origin)]]) := lookup_servers o
  have hdeclared : declaredServers (importedSource lib document bytes)
      (document.definition lib bytes path method o) = [jsonObject [("url", .string o.origin)]] := by
    unfold declaredServers
    rw [hservers, Option.some_or, Option.some_or]
    rfl
  have hurl : (jsonObject [("url", .string o.origin)]).get "url" = some (.string o.origin) :=
    jsonObject_get_head _ _ _
  have hvariables : (jsonObject [("url", .string o.origin)]).get "variables" = none :=
    jsonObject_get_none hkey
  -- Its URL is resolved unless a brace is in it.
  have hresolved : serverUrl (jsonObject [("url", .string o.origin)]) = .ok server ↔
      '\x7b' ∉ o.origin ∧ o.origin = server := by
    unfold serverUrl resolveServerVariables
    rw [hurl, hvariables]
    simp only [Option.bind_some, Option.bind_none, Option.getD_none, List.foldlM_nil, Value.asStr,
      except_bind_ok, except_pure_ok, ensure_ok, Bool.not_eq_true', List.contains_eq_mem,
      decide_eq_false_iff_not, exists_const, exists_eq_left']
  unfold selectServer
  rw [hdeclared]
  exact hresolved

/-- The target of an imported operation is the URL of its request. -/
theorem buildTarget_imported (h : WebUrl lib url host)
    (hscheme : url.scheme = "http" ∨ url.scheme = "https") :
    buildTarget lib (capturedOrigin url host) url.path = .ok (servedUrl url) := by
  have hparse : lib.parseUrl (capturedOrigin url host ++ url.path) = .ok (servedUrl url) := h.reparse
  unfold buildTarget
  rw [h.trimEndMatches_origin, hparse]
  dsimp only
  simp only [except_bind_ok, ensure_ok, except_pure_ok, Bool.or_eq_true, Bool.and_eq_true,
    decide_eq_true_eq, Option.isNone_iff_eq_none, exists_const]
  exact ⟨hscheme, ⟨rfl, rfl⟩, trivial⟩

/-- The parameters of an imported operation. -/
theorem parameters_imported (hsound : document.Sound) {headers : List (Str × Str)}
    (hparameters : o.parameters = capturedParameters url headers) :
    parameters (importedSource lib document bytes) (document.definition lib bytes path method o) =
      .ok (storedParameters url headers) := by
  have hkey : "parameters".toList ∉ HTTP_METHODS := by decide
  -- The path item declares none, the operation its own.
  have hitem : lookup "parameters" (document.definition lib bytes path method o).pathItem = none :=
    hsound.lookup_pathItem path hkey
  have hown : lookup "parameters" (document.definition lib bytes path method o).operation =
      some (.array o.parameters) := lookup_parameters o
  have hresolved : (capturedParameters url headers).mapM
      (fun value => resolveObject (importedSource lib document bytes) value "parameter") =
        .ok (capturedList url headers) := by
    -- None of them is a reference.
    refine mapM_of_forall₂ (List.rel_append ?_ ?_)
    · exact List.forall₂_map_left_iff.mpr (List.forall₂_map_right_iff.mpr
        (List.forall₂_same.mpr (fun entry _ => resolveObject_captured _ "query" entry)))
    · exact List.forall₂_map_left_iff.mpr (List.forall₂_map_right_iff.mpr
        (List.forall₂_same.mpr (fun entry _ => resolveObject_captured _ "header" entry)))
  unfold parameters storedParameters
  rw [List.flatMap_cons, List.flatMap_cons, List.flatMap_nil, hitem, hown, Option.bind_none,
    Option.bind_some, Value.asArray, Option.getD_none, Option.getD_some, List.nil_append,
    List.append_nil, hparameters]
  dsimp only
  rw [hresolved]
  rfl

/-- The bindings of an imported operation without input. -/
theorem bindParameters_imported (hsound : document.Sound) {headers : List (Str × Str)}
    (hparameters : o.parameters = capturedParameters url headers) (stack : Nat) :
    ∃ b, bindParameters (importedSource lib document bytes)
        (document.definition lib bytes path method o) (stack + 1) .default = .ok b ∧
      b.Unsupplied (normalizePath path) ∧
      b.queryPairs = sentQuery (storedParameters url headers) ∧
      b.headers = sentHeaders (storedParameters url headers) := by
  have hcaptured : ∀ p ∈ storedParameters url headers, FromCapture p :=
    fun p hp => fromCapture_of_mem (mem_storedParameters hp)
  rcases foldlM_captured hcaptured
    (b := ⟨.default, normalizePath path, [], [], [], []⟩) ⟨rfl, rfl, rfl⟩ with ⟨b, hfold, hb, hquery, hheaders⟩
  refine ⟨b, ?_, hb, hquery, hheaders⟩
  unfold bindParameters
  rw [parameters_imported hsound hparameters]
  exact hfold

/-- A schema without keywords accepts every value. -/
theorem validateValue_empty (source : OpenApiSource) (stack : Nat) (value : Value) (field : Str) :
    validateValue source (stack + 1) (jsonObject []) value field = .ok () := by
  have hget (key : Str) : (jsonObject []).get key = none := rfl
  have hupload : uploadDescriptor (jsonObject []) value = none := by
    unfold uploadDescriptor
    rw [hget, if_neg (fun h => nomatch h.1)]
  have henum : validateEnum (jsonObject []) value field = .ok () := rfl
  have htype : validateType (jsonObject []) value field = .ok () := rfl
  have hresolve : resolveSchema source (jsonObject []) field = .ok (jsonObject []) := rfl
  have hrequired (object : List (Str × Value)) : validateRequired (jsonObject []) object field = .ok () :=
    rfl
  have hmembers (object : List (Str × Value)) :
      object.forM (fun _ => (.ok () : Except PlanError Unit)) = .ok () := by
    induction object with
    | nil => rfl
    | cons entry object ih => exact ih
  unfold validateValue
  rw [hresolve]
  dsimp only [bind, Except.bind]
  rw [hupload]
  dsimp only
  by_cases hnull : value = .null ∧ ((((jsonObject []).get "nullable").bind Value.asBool).getD false) = true
  · rw [if_pos hnull]
  · rw [if_neg hnull, hget "allOf", henum, htype]
    cases value with
    | object members =>
        -- No member has a schema of its own.
        change (members.forM (fun _ => (.ok () : Except PlanError Unit)) >>= fun _ => .ok ()) = .ok ()
        rw [hmembers]
        rfl
    | array items => rfl
    | _ => rfl

/-- What binding a captured body adds to a plan. -/
def boundBody (lib : Crates) (value : Value) (wire : SerializedBody) : BoundBody :=
  { body := some
      { mediaType := wire.mediaType
        bytes := wire.bytes.length
        blake3 := digest lib wire.bytes
        encoding := wire.encoding
        inline := wire.inline }
    inputs := .default
    headers := [⟨"Content-Type", wire.mediaType⟩]
    derivations := [derivation "body" value "captured-source" (some wire.inline) wire.transformation] }

theorem isContentType_boundBody {value : Value} {wire : SerializedBody} :
    ∀ h ∈ (boundBody lib value wire).headers, isContentType h.name = true := by
  have hcontent : isContentType "Content-Type" = true := by decide
  intro header hheader
  rw [List.mem_singleton.mp hheader]
  exact hcontent

theorem bindBody_none {world : World} (hbody : o.body = none) :
    bindBody lib world (importedSource lib document bytes)
      (document.definition lib bytes path method o) .default .default = pure (.none .default) := by
  have hdeclared : lookup "requestBody" (document.definition lib bytes path method o).operation = none := by
    have hmembers := lookup_requestBody o
    rw [hbody] at hmembers
    exact hmembers
  unfold bindBody
  rw [hdeclared]
  rfl

/-- The captured body is serialised under its captured media type. -/
theorem bindBody_some {world : World} (hstack : 0 < world.stack) {mediaType : Str} {value : Value}
    (hbody : o.body = some (mediaType, value)) (past : List Event) :
    bindBody lib world (importedSource lib document bytes)
      (document.definition lib bytes path method o) .default .default past =
        (serializeBody lib world mediaType value >>= fun wire => pure (boundBody lib value wire)) past := by
  -- The imported operation declares the body and carries the captured value.
  have hdeclared : lookup "requestBody" (document.definition lib bytes path method o).operation =
      some (bodyDeclaration mediaType) := by
    have hmembers := lookup_requestBody o
    rw [hbody] at hmembers
    exact hmembers
  have hcaptured : bodyValue (document.definition lib bytes path method o) .default =
      (some (value, "captured-source".toList), .default) := by
    have hmembers := lookup_capturedBody o
    rw [hbody] at hmembers
    have hmembers : lookup "x-kahea-captured-body"
        (document.definition lib bytes path method o).operation = some value := hmembers
    unfold bodyValue
    rw [hmembers]
    rfl
  have hresolved : resolveObject (importedSource lib document bytes) (bodyDeclaration mediaType)
      "requestBody" = .ok [("content".toList, .object [(mediaType, jsonObject [("schema", jsonObject [])])]),
        ("required".toList, .bool true)] := by
    have hkey : "$ref".toList ∉ ["content".toList, "required".toList] := by decide
    have href : (bodyDeclaration mediaType).get "$ref" = none := jsonObject_get_none hkey
    unfold resolveObject
    rw [href]
    rfl
  -- One media type is declared, whether it is the preferred one or not.
  have hmedia : bodyMedia [("content".toList, .object [(mediaType, jsonObject [("schema", jsonObject [])])]),
      ("required".toList, .bool true)] none = .ok (mediaType, some (jsonObject [])) := by
    have hcontent : lookup "content" [("content".toList,
        Value.object [(mediaType, jsonObject [("schema", jsonObject [])])]),
          ("required".toList, Value.bool true)] =
            some (.object [(mediaType, jsonObject [("schema", jsonObject [])])]) := if_pos rfl
    have hselect : selectContentType [(mediaType, jsonObject [("schema", jsonObject [])])] none =
        .ok mediaType := by
      unfold selectContentType
      by_cases hjson : mediaType = "application/json"
      · have hfound : lookup "application/json" [(mediaType, jsonObject [("schema", jsonObject [])])] =
            some (jsonObject [("schema", jsonObject [])]) := if_pos hjson
        rw [hfound, hjson]
        rfl
      · have hmissing : lookup "application/json" [(mediaType, jsonObject [("schema", jsonObject [])])] =
            none := if_neg hjson
        rw [hmissing]
        rfl
    have hentry : lookup mediaType [(mediaType, jsonObject [("schema", jsonObject [])])] =
        some (jsonObject [("schema", jsonObject [])]) := if_pos rfl
    unfold bodyMedia
    rw [hcontent]
    dsimp only [Option.bind_some, Value.asObject, bind, Except.bind]
    rw [hselect]
    dsimp only
    rw [hentry]
    rfl
  -- The schema is empty, so the captured value is valid.
  have hvalid : validateDeclared (importedSource lib document bytes) world.stack (some (jsonObject []))
      value "body" = .ok () := by
    rcases hframes : world.stack with _ | stack
    · omega
    · exact validateValue_empty _ stack value "body"
  -- What is left is the serialisation.
  unfold bindBody
  rw [hdeclared]
  dsimp only
  rw [Eff.ofExcept_bind, hresolved]
  dsimp only
  rw [hcaptured]
  dsimp only [PlanOptions.default]
  rw [Eff.ofExcept_bind, hmedia]
  dsimp only
  rw [Eff.ofExcept_bind, hvalid]
  rfl

/-- What an imported operation and its request have to do with each other. -/
structure Imported (url : Url) (host : Str) (request : CapturedRequest)
    (body : Option (Str × Value)) (o : ImportedOperation) : Prop where
  origin : o.origin = capturedOrigin url host
  parameters : o.parameters = capturedParameters url request.headers
  body : o.body = body
  security : o.security.isSome = request.auth.isSome
  absent : o.absent = request.absent

/-- The parts of a plan for an imported request. -/
structure PlanParts.ForRequest (url : Url) (request : CapturedRequest) (bound : BoundBody)
    (p : PlanParts) : Prop where
  base : p.base = servedUrl url
  query : p.bindings.queryPairs = sentQuery (storedParameters url request.headers)
  headers : p.bindings.headers = sentHeaders (storedParameters url request.headers)
  cookies : p.bindings.cookies = []
  body : p.body = bound

/-- An imported operation asks for authentication exactly when its request had one. -/
theorem bindAuth_imported {request : CapturedRequest} {body : Option (Str × Value)}
    (himported : Imported url host request body o) {auth : Option PlannedAuth × List Str} :
    bindAuth (importedSource lib document bytes) (document.definition lib bytes path method o) none =
      .ok auth ↔ request.auth = none ∧ (none, []) = auth := by
  have hsecurity := himported.security
  unfold bindAuth
  rw [requiredSchemes_imported]
  cases hauth : request.auth with
  | none =>
      rw [hauth, Option.isSome_none, Option.isSome_eq_false_iff, Option.isNone_iff_eq_none] at hsecurity
      rw [hsecurity]
      exact ⟨fun h => ⟨rfl, Except.ok.inj h⟩, fun h => congrArg Except.ok h.2⟩
  | some credential =>
      rw [hauth, Option.isSome_some, Option.isSome_iff_exists] at hsecurity
      rcases hsecurity with ⟨name, hname⟩
      rw [hname]
      exact ⟨nofun, nofun⟩

/-- Planning an imported operation succeeds when its host is not a template, it
    has no authentication and its body can be sent. -/
theorem planParts_imported {world : World} {request : CapturedRequest} {body : Option (Str × Value)}
    {past : List Event} {bound : BoundBody} (hstack : 0 < world.stack) (hsound : document.Sound)
    (himported : Imported url host request body o) (hurl : WebUrl lib url host)
    (hscheme : url.scheme = "http" ∨ url.scheme = "https") (hhost : url.host = some host)
    (hcheck : checkAbsence (importedSource lib document bytes)
      (document.definition lib bytes url.path method o) = .ok ())
    (hbrace : '\x7b' ∉ host) (hauth : request.auth = none)
    (hbody : (bindBody lib world (importedSource lib document bytes)
      (document.definition lib bytes url.path method o) .default .default past).1 = .ok bound)
    (hinputs : bound.inputs = .default)
    (hsize : bound.body.all (fun b => b.bytes ≤ ConfigurationPolicy.default.maxRequestBytes) = true) :
    ∃ parts, (planParts lib world (importedSource lib document bytes)
      (document.definition lib bytes url.path method o) .default .default past).1 = .ok parts ∧
        parts.ForRequest url request bound := by
  -- Each stage of the planner is evaluated first, then they are put together.
  rcases hframes : world.stack with _ | stack
  · omega
  rcases bindParameters_imported
    hsound himported.parameters stack with ⟨b, hbind, hb, hquery, hheaders⟩
  rw [hurl.normalizePath_eq] at hb
  -- The server is the captured origin, which has no template in it.
  have horigin : '\x7b' ∉ o.origin := by
    rw [himported.origin, brace_mem_origin hscheme]
    exact hbrace
  have hserver : selectServer lib (importedSource lib document bytes)
      (document.definition lib bytes url.path method o)
        PlanOptions.default.server .default = .ok (capturedOrigin url host) :=
    (selectServer_imported .default).mpr ⟨horigin, himported.origin⟩
  have hresolved : ensure (!(b.targetPath.contains '\x7b'))
      (PlanError.invalidInput "target.path" "one or more path variables remain unresolved") = .ok () := by
    rw [ensure_ok, Bool.not_eq_true', List.contains_eq_mem, decide_eq_false_iff_not, hb.targetPath]
    exact fun hmem => (hurl.plain _ hmem).2 rfl
  -- No path parameter is left open, and the target is the captured URL.
  have hbase : buildTarget lib (capturedOrigin url host) b.targetPath = .ok (servedUrl url) := by
    rw [hb.targetPath]
    exact buildTarget_imported hurl hscheme
  have hdefault : Inputs.fromOptions PlanOptions.default.input PlanOptions.default.explicit =
      .ok .default := rfl
  have hoptions : PlanOptions.default.withDefaults .default = .default := rfl
  have hnone : bindAuth (importedSource lib document bytes)
      (document.definition lib bytes url.path method o)
        PlanOptions.default.auth = .ok (none, []) :=
    (bindAuth_imported himported).mpr ⟨hauth, rfl⟩
  -- An `http` or `https` URL has a known port.
  have hport : ∃ port, ((servedUrl url).appendPairs b.queryPairs).portOrKnownDefault = some port := by
    rw [Url.appendPairs_eq]
    unfold Url.portOrKnownDefault servedUrl
    cases url.port with
    | some port => exact ⟨port, rfl⟩
    | none =>
        rcases hscheme with hs | hs <;> rw [hs]
        · exact ⟨80, rfl⟩
        · exact ⟨443, rfl⟩
  rcases hport with ⟨port, hport⟩
  have htarget : hostAndPort ((servedUrl url).appendPairs b.queryPairs)
      (.invalidServer "target has no host") (.invalidServer "target has no port") =
        .ok (host, port) := by
    rw [hostAndPort_ok]
    refine ⟨?_, hport⟩
    rw [Url.appendPairs_eq]
    exact hhost
  -- The default configuration restricts nothing.
  have hpolicy : enforceHostPolicy host .default = .ok () := rfl
  have hgrants : ∃ grants, requiredGrants lib .default (document.definition lib bytes url.path method o)
      ((servedUrl url).appendPairs b.queryPairs) host port none = .ok grants := ⟨_, rfl⟩
  have hunused : bound.inputs.rejectUnused = .ok () := by
    rw [hinputs]
    rfl
  have hsmall : ensure (bound.body.all (fun b =>
      b.bytes ≤ ProjectConfiguration.default.policy.maxRequestBytes))
        (sizeError ProjectConfiguration.default.policy.maxRequestBytes) = .ok () :=
    ensure_ok.mpr hsize
  have hredaction : validateRedactionPolicy .default = .ok () := rfl
  have hfingerprint : ProjectConfiguration.default.configFingerprint lib =
      .ok (defaultConfigFingerprint lib) := rfl
  rcases hgrants with ⟨grants, hgrants⟩
  refine ⟨⟨capturedOrigin url host, b, servedUrl url, bound, none, [], host, port, grants,
    defaultConfigFingerprint lib⟩, ?_, ⟨rfl, hquery, hheaders, hb.cookies, rfl⟩⟩
  -- The stages in the order of the planner.
  unfold planParts
  rw [Eff.ofExcept_bind, hcheck]
  dsimp only
  rw [Eff.ofExcept_bind, hdefault]
  dsimp only
  rw [hoptions, Eff.ofExcept_bind, hserver]
  dsimp only
  rw [Eff.ofExcept_bind, hframes, hbind]
  dsimp only
  rw [Eff.ofExcept_bind, hresolved]
  dsimp only
  rw [Eff.ofExcept_bind, hbase]
  dsimp only
  rw [hb.inputs, Eff.bind_of_ok hbody]
  dsimp only
  rw [Eff.ofExcept_bind, hnone]
  dsimp only
  rw [Eff.ofExcept_bind, hunused]
  dsimp only
  rw [Eff.ofExcept_bind, htarget]
  dsimp only
  rw [Eff.ofExcept_bind, hpolicy]
  dsimp only
  rw [Eff.ofExcept_bind, hgrants]
  dsimp only
  rw [Eff.ofExcept_bind, hsmall]
  dsimp only
  rw [Eff.ofExcept_bind, hredaction]
  dsimp only
  rw [Eff.ofExcept_bind, hfingerprint]
  rfl

/-- What a plan for an imported operation has passed. -/
theorem imported_of_planParts {world : World} {request : CapturedRequest} {body : Option (Str × Value)}
    {past : List Event} {parts : PlanParts} (hstack : 0 < world.stack) (hsound : document.Sound)
    (himported : Imported url host request body o) (hurl : WebUrl lib url host)
    (hscheme : url.scheme = "http" ∨ url.scheme = "https")
    (h : (planParts lib world (importedSource lib document bytes)
      (document.definition lib bytes url.path method o) .default .default past).1 = .ok parts) :
    '\x7b' ∉ host ∧ request.auth = none ∧ ∃ bound,
      (bindBody lib world (importedSource lib document bytes)
        (document.definition lib bytes url.path method o) .default .default past).1 = .ok bound ∧
      bound.body.all (fun b => b.bytes ≤ ConfigurationPolicy.default.maxRequestBytes) = true ∧
      parts.ForRequest url request bound := by
  rcases hframes : world.stack with _ | stack
  · omega
  rcases bindParameters_imported
    hsound himported.parameters stack with ⟨b, hbind, hb, hquery, hheaders⟩
  rw [hurl.normalizePath_eq] at hb
  -- A plan was made, so every stage passed; each one gives back its condition.
  unfold planParts at h
  rcases Eff.ofExcept_bind_ok h with ⟨_, _, h⟩
  rcases Eff.ofExcept_bind_ok h with ⟨inputs, hinputs, h⟩
  cases hinputs
  rcases Eff.ofExcept_bind_ok h with ⟨server, hserver, h⟩
  -- The server selected is the captured one only where its host opens no template.
  rcases (selectServer_imported (o := o) .default).mp hserver with ⟨horigin, hsame⟩
  rw [himported.origin, brace_mem_origin hscheme] at horigin
  rw [himported.origin] at hsame
  rcases Eff.ofExcept_bind_ok h with ⟨b', hbind', h⟩
  rw [hframes, hbind] at hbind'
  cases hbind'
  rcases Eff.ofExcept_bind_ok h with ⟨_, _, h⟩
  rcases Eff.ofExcept_bind_ok h with ⟨base, hbase, h⟩
  rw [← hsame, hb.targetPath, buildTarget_imported hurl hscheme] at hbase
  cases hbase
  rcases Eff.bind_ok h with ⟨bound, hbound, h⟩
  rw [hb.inputs] at hbound
  rcases Eff.ofExcept_bind_ok h with ⟨auth, hauth, h⟩
  -- The stages that read the configuration say nothing here, apart from the size.
  rcases Eff.ofExcept_bind_ok h with ⟨_, _, h⟩
  rcases Eff.ofExcept_bind_ok h with ⟨_, _, h⟩
  rcases Eff.ofExcept_bind_ok h with ⟨_, _, h⟩
  rcases Eff.ofExcept_bind_ok h with ⟨_, _, h⟩
  rcases Eff.ofExcept_bind_ok h with ⟨_, hsize, h⟩
  rcases Eff.ofExcept_bind_ok h with ⟨_, _, h⟩
  rcases Eff.ofExcept_bind_ok h with ⟨_, _, h⟩
  cases h
  exact ⟨horigin, ((bindAuth_imported himported).mp hauth).1, bound, hbound, ensure_ok.mp hsize,
    ⟨rfl, hquery, hheaders, hb.cookies, rfl⟩⟩

/-! ### Fidelity -/

/-- A plan for a captured request: its method, the path of its URL, the pairs
    of its query, its headers, its content type and its body. -/
structure Reproduces (lib : Crates) (request : CapturedRequest) (url : Url) (plan : RequestPlan) :
    Prop where
  method : plan.method = upper request.method
  target : ∃ query, plan.target = { servedUrl url with query := query }.serialize ∧
    (formParse (query.getD [])).Perm url.queryPairs
  headers : ∀ h ∈ plainHeaders request.headers, ⟨h.1, h.2⟩ ∈ plan.headers
  contentType : ∀ mediaType, capturedContentType request = some mediaType →
    ⟨"Content-Type", mediaType⟩ ∈ plan.headers
  bodiless : request.body = none → plan.body = none
  body : ∀ text, request.body = some text →
    plannedBodyBytes plan = .ok (expectedBytes lib (capturedMediaType lib request text) text)

/-- The requests that are planned as they were captured: the host is not a
    template, nothing has to authenticate, no name repeats or is empty, a
    content type has a body and the body comes back unchanged. -/
structure Faithful (lib : Crates) (request : CapturedRequest) (url : Url) (host : Str) : Prop where
  host : '\x7b' ∉ host
  auth : request.auth = none
  distinct : (url.queryPairs.map Prod.fst).Nodup
  named : [] ∉ url.queryPairs.map Prod.fst
  headers : ∀ h ∈ plainHeaders request.headers, h.1 ≠ [] ∧
    ∀ h' ∈ plainHeaders request.headers, h'.1 = h.1 → h'.2 = h.2
  contentType : request.body = none → capturedContentType request = none
  body : ∀ text, request.body = some text →
    BodySurvives lib (capturedMediaType lib request text) text ∧
      (expectedBytes lib (capturedMediaType lib request text) text).length ≤
        ConfigurationPolicy.default.maxRequestBytes

theorem toUpper_toLower (c : Char) : c.toLower.toUpper = c.toUpper := by
  by_cases h : c.val ≥ 'A'.val ∧ c.val ≤ 'Z'.val
  · have hletters : ∀ k < 26, (Char.ofNat ('A'.toNat + k)).toLower.toUpper =
        (Char.ofNat ('A'.toNat + k)).toUpper := by decide
    have hlow : 'A'.toNat ≤ c.toNat := h.1
    have hhigh : c.toNat ≤ 'Z'.toNat := h.2
    have hc : Char.ofNat ('A'.toNat + (c.toNat - 'A'.toNat)) = c := by
      rw [Nat.add_sub_cancel' hlow, Char.ofNat_toNat]
    have hZ : 'Z'.toNat = 'A'.toNat + 25 := rfl
    have hk := hletters (c.toNat - 'A'.toNat) (by omega)
    rw [hc] at hk
    exact hk
  · have hsame : c.toLower = c := dif_neg h
    rw [hsame]

theorem upper_lower (s : Str) : upper (lower s) = upper s := by
  unfold upper lower
  rw [List.map_map]
  exact List.map_congr_left (fun c _ => toUpper_toLower c)

/-- The query is the only part of the target that planning adds. -/
theorem servedUrl_query_inj {query query' : Option Str}
    (h : { servedUrl url with query := query }.serialize =
      { servedUrl url with query := query' }.serialize) : query = query' := by
  unfold Url.serialize at h
  have hparts := List.append_cancel_left (List.append_cancel_right h)
  cases query <;> cases query' <;> cases hparts <;> rfl

section

variable {request : CapturedRequest} {bound : BoundBody} {parts : PlanParts}

/-- The plan that is assembled for an imported request. -/
def requestPlan (lib : Crates) (source : OpenApiSource) (operation : OperationDefinition)
    (parts : PlanParts) : RequestPlan :=
  (parts.assemble lib source operation PlanOptions.default.checks .default).sealed lib

/-- The headers of a plan for an imported request. -/
theorem mem_requestPlan_headers {source : OpenApiSource} {operation : OperationDefinition}
    (hparts : parts.ForRequest url request bound) {header : PlannedHeader} :
    header ∈ (requestPlan lib source operation parts).headers ↔
      header ∈ sentHeaders (storedParameters url request.headers) ∨ header ∈ bound.headers := by
  have hheaders : (requestPlan lib source operation parts).headers = sortBy (fun h => lower h.name)
      (parts.bindings.headers ++ cookieHeader parts.bindings.cookies ++ parts.body.headers) := rfl
  have hcookie : cookieHeader [] = [] := rfl
  rw [hheaders, mem_sortBy, hparts.headers, hparts.cookies, hparts.body, hcookie, List.append_nil,
    List.mem_append]

/-- What it takes for a plan to be for its request. -/
theorem reproduces_iff {source : OpenApiSource} {operation : OperationDefinition}
    (hparts : parts.ForRequest url request bound) (hmethod : operation.method = upper request.method)
    (hnames : ∀ h ∈ bound.headers, isContentType h.name = true) :
    Reproduces lib request url (requestPlan lib source operation parts) ↔
      ((url.queryPairs.map Prod.fst).Nodup ∧ [] ∉ url.queryPairs.map Prod.fst) ∧
      (∀ h ∈ plainHeaders request.headers, h.1 ≠ [] ∧
        ∀ h' ∈ plainHeaders request.headers, h'.1 = h.1 → h'.2 = h.2) ∧
      (∀ mediaType, capturedContentType request = some mediaType →
        ⟨"Content-Type", mediaType⟩ ∈ bound.headers) ∧
      (request.body = none → bound.body = none) ∧
      ∀ text, request.body = some text → plannedBodyBytes (requestPlan lib source operation parts) =
        .ok (expectedBytes lib (capturedMediaType lib request text) text) := by
  have htarget : (requestPlan lib source operation parts).target =
      { servedUrl url with
        query := ((servedUrl url).appendPairs parts.bindings.queryPairs).query }.serialize := by
    rw [← Url.appendPairs_eq, ← hparts.base]
    rfl
  have hpairs : (formParse (((servedUrl url).appendPairs parts.bindings.queryPairs).query.getD [])) =
      sentQuery (storedParameters url request.headers) := by
    rw [← hparts.query]
    exact Url.queryPairs_appendPairs (servedUrl url) parts.bindings.queryPairs
  have hbody : (requestPlan lib source operation parts).body = bound.body := by
    rw [← hparts.body]
    rfl
  rw [← sentQuery_perm, ← sentHeaders_all]
  constructor
  · intro h
    refine ⟨?_, fun header hheader => ?_, fun mediaType hmedia => ?_, fun hnone => ?_, h.body⟩
    · rcases h.target with ⟨query, hquery, hperm⟩
      rw [htarget] at hquery
      rw [← servedUrl_query_inj hquery, hpairs] at hperm
      exact hperm
    · have hsent := (mem_requestPlan_headers hparts).mp (h.headers header hheader)
      refine hsent.resolve_right (fun hbound => ?_)
      -- The header of the body is a content type, which is no plain header.
      have hplain := (List.mem_filter.mp hheader).2
      rw [hnames _ hbound] at hplain
      cases hplain
    · have hsent := (mem_requestPlan_headers hparts).mp (h.contentType mediaType hmedia)
      refine hsent.resolve_left (fun hheader => ?_)
      have hplain := (List.mem_filter.mp (mem_of_mem_sentHeaders hheader).1).2
      have hcontent : isContentType "Content-Type" = true := by decide
      dsimp only at hplain
      rw [hcontent] at hplain
      cases hplain
    · rw [← hbody]
      exact h.bodiless hnone
  · rintro ⟨hperm, hheaders, hmedia, hnone, htext⟩
    refine ⟨hmethod, ⟨_, htarget, ?_⟩, fun header hheader => ?_, fun mediaType hcontent => ?_,
      fun hbodiless => ?_, htext⟩
    · rw [hpairs]
      exact hperm
    · exact (mem_requestPlan_headers hparts).mpr (Or.inl (hheaders header hheader))
    · exact (mem_requestPlan_headers hparts).mpr (Or.inr (hmedia mediaType hcontent))
    · rw [hbody]
      exact hnone hbodiless

/-- The bytes of the body of a plan for an imported request. -/
theorem plannedBodyBytes_ok {source : OpenApiSource} {operation : OperationDefinition}
    {value : Value} {wire : SerializedBody} (hbody : parts.body = boundBody lib value wire)
    {sent : List UInt8} :
    plannedBodyBytes (requestPlan lib source operation parts) = .ok sent ↔ wire.sent = some sent := by
  have hplanned : (requestPlan lib source operation parts).body = (boundBody lib value wire).body := by
    rw [← hbody]
    rfl
  unfold plannedBodyBytes SerializedBody.sent
  rw [hplanned]
  dsimp only [boundBody]
  split_ifs
  · exact ⟨fun h => congrArg some (Except.ok.inj h), fun h => congrArg Except.ok (Option.some.inj h)⟩
  · cases base64Decode wire.inline with
    | none => exact ⟨nofun, nofun⟩
    | some bytes =>
        exact ⟨fun h => congrArg some (Except.ok.inj h), fun h => congrArg Except.ok (Option.some.inj h)⟩
  · exact ⟨nofun, nofun⟩

theorem capturedBody_none (hbody : request.body = none) : capturedBody lib request = .ok none := by
  unfold capturedBody
  rw [hbody]

theorem capturedBody_of_some {text : Str} {body : Option (Str × Value)} (hbody : request.body = some text)
    (h : capturedBody lib request = .ok body) : ∃ mediaType value, body = some (mediaType, value) := by
  unfold capturedBody at h
  rw [hbody] at h
  dsimp only at h
  split_ifs at h
  · cases hparse : lib.parseJson (utf8 text) with
    | error e =>
        rw [hparse] at h
        cases h
    | ok value =>
        rw [hparse] at h
        cases h
        exact ⟨_, _, rfl⟩
  · cases h
    exact ⟨_, _, rfl⟩

/-- What is bound for the body of a captured request. -/
theorem bound_some {world : World} {past : List Event} {mediaType : Str} {value : Value}
    (hstack : 0 < world.stack) (hbody : o.body = some (mediaType, value)) :
    (bindBody lib world (importedSource lib document bytes)
      (document.definition lib bytes path method o) .default .default past).1 = .ok bound ↔
        ∃ wire, (serializeBody lib world mediaType value past).1 = .ok wire ∧
          boundBody lib value wire = bound := by
  rw [bindBody_some hstack hbody]
  constructor
  · intro h
    rcases Eff.bind_ok h with ⟨wire, hwire, hbound⟩
    exact ⟨wire, hwire, Except.ok.inj hbound⟩
  · rintro ⟨wire, hwire, rfl⟩
    rw [Eff.bind_of_ok hwire]
    rfl

/-- The body of a plan for a captured request is the captured one exactly when
    it survives and is not too large. -/
theorem bodySent_iff {world : World} {past : List Event} {text mediaType : Str} {value : Value}
    {wire : SerializedBody} (hbody : request.body = some text)
    (hcaptured : capturedBody lib request = .ok (some (mediaType, value)))
    (hliteral : ∀ s, lib.parseJson (utf8 text) = .ok (.string s) → s.length < text.length)
    (hwire : (serializeBody lib world mediaType value past).1 = .ok wire) :
    (wire.sent = some (expectedBytes lib mediaType text) ∧
      wire.bytes.length ≤ ConfigurationPolicy.default.maxRequestBytes) ↔
        BodySurvives lib mediaType text ∧ (expectedBytes lib mediaType text).length ≤
          ConfigurationPolicy.default.maxRequestBytes := by
  -- Where the text survives, the planner sends what is expected.
  have hsame (hsurvives : BodySurvives lib mediaType text) : wire.mediaType = mediaType ∧
      wire.sent = some (expectedBytes lib mediaType text) ∧
      wire.bytes = expectedBytes lib mediaType text := by
    rcases serializeBody_survives hbody hcaptured hsurvives with ⟨wire', hok, hrest⟩
    rw [hok] at hwire
    cases hwire
    exact hrest
  constructor
  · rintro ⟨hsent, hsize⟩
    -- And what was expected is sent only where it survives.
    have hsurvives := survives_of_serializeBody hbody hcaptured hliteral hwire hsent
    rw [(hsame hsurvives).2.2] at hsize
    exact ⟨hsurvives, hsize⟩
  · rintro ⟨hsurvives, hsize⟩
    rw [(hsame hsurvives).2.2]
    exact ⟨(hsame hsurvives).2.1, hsize⟩

/-- A request that is planned as it was captured is faithful. -/
theorem faithful_of_planned {world : World} {past : List Event} {body : Option (Str × Value)}
    {plan : RequestPlan} (hstack : 0 < world.stack) (hsound : document.Sound)
    (himported : Imported url host request body o) (hurl : WebUrl lib url host)
    (hscheme : url.scheme = "http" ∨ url.scheme = "https")
    (hcaptured : capturedBody lib request = .ok body)
    (hliteral : ∀ text, request.body = some text →
      ∀ s, lib.parseJson (utf8 text) = .ok (.string s) → s.length < text.length)
    (hplan : (buildPlan lib world (importedSource lib document bytes)
      (document.definition lib bytes url.path (lower request.method) o) .default past).1 = .ok plan)
    (h : Reproduces lib request url plan) : Faithful lib request url host := by
  have hmethod : (document.definition lib bytes url.path (lower request.method) o).method =
      upper request.method := upper_lower request.method
  rcases buildPlanWithConfiguration_ok hplan with ⟨parts, hok, _, rfl⟩
  rcases imported_of_planParts hstack hsound himported hurl hscheme hok with
    ⟨hbrace, hauth, bound, hbound, hsize, hparts⟩
  -- The clauses of `Faithful` differ by whether a body was captured.
  cases hbody : request.body with
  | none =>
      rw [capturedBody_none hbody] at hcaptured
      cases hcaptured
      rw [bindBody_none himported.body] at hbound
      cases hbound
      rcases (reproduces_iff hparts hmethod nofun).mp h with ⟨hnames, hheaders, hmedia, _, _⟩
      -- Without one, a content type would have been sent as a plain header.
      refine ⟨hbrace, hauth, hnames.1, hnames.2, hheaders, fun _ => ?_, fun text htext => ?_⟩
      · cases hcontent : capturedContentType request with
        | none => rfl
        | some mediaType => cases hmedia mediaType hcontent
      · rw [hbody] at htext
        cases htext
  | some text =>
      rcases capturedBody_of_some hbody hcaptured with ⟨mediaType, value, rfl⟩
      have hmediaType := (capturedBody_some hbody hcaptured).1
      rcases (bound_some hstack himported.body).mp hbound with ⟨wire, hwire, rfl⟩
      -- With one, the bytes sent are those captured.
      rcases (reproduces_iff hparts hmethod isContentType_boundBody).mp h with ⟨hquery, hheaders, _, _, hbytes⟩
      have hsent := (plannedBodyBytes_ok hparts.body).mp (hbytes text hbody)
      rw [← hmediaType] at hsent
      have hsurvives := (bodySent_iff hbody hcaptured (hliteral text hbody) hwire).mp
        ⟨hsent, of_decide_eq_true hsize⟩
      refine ⟨hbrace, hauth, hquery.1, hquery.2, hheaders, fun hnone => ?_, fun text' htext => ?_⟩
      · rw [hbody] at hnone
        cases hnone
      · rw [hbody] at htext
        cases htext
        rw [← hmediaType]
        exact hsurvives

/-- A faithful request is planned as it was captured. -/
theorem planned_of_faithful {world : World} {past : List Event} {body : Option (Str × Value)}
    (hstack : 0 < world.stack) (hsound : document.Sound)
    (himported : Imported url host request body o) (hurl : WebUrl lib url host)
    (hscheme : url.scheme = "http" ∨ url.scheme = "https") (hhost : url.host = some host)
    (hcaptured : capturedBody lib request = .ok body)
    (hcheck : checkAbsence (importedSource lib document bytes)
      (document.definition lib bytes url.path (lower request.method) o) = .ok ())
    (hliteral : ∀ text, request.body = some text →
      ∀ s, lib.parseJson (utf8 text) = .ok (.string s) → s.length < text.length)
    (h : Faithful lib request url host) :
    ∃ plan, (buildPlan lib world (importedSource lib document bytes)
      (document.definition lib bytes url.path (lower request.method) o) .default past).1 = .ok plan ∧
        Reproduces lib request url plan := by
  have hmethod : (document.definition lib bytes url.path (lower request.method) o).method =
      upper request.method := upper_lower request.method
  -- The plan is what the parts say once these are found.
  have hplanned {parts : PlanParts} (hok : (planParts lib world (importedSource lib document bytes)
      (document.definition lib bytes url.path (lower request.method) o) .default .default past).1 =
        .ok parts) : (buildPlan lib world (importedSource lib document bytes)
      (document.definition lib bytes url.path (lower request.method) o) .default past).1 =
        .ok (requestPlan lib (importedSource lib document bytes)
          (document.definition lib bytes url.path (lower request.method) o) parts) := by
    unfold buildPlan buildPlanWithConfiguration
    rw [Eff.bind_of_ok hok]
    rfl
  -- Without a body the plan has none.
  cases hbody : request.body with
  | none =>
      rw [capturedBody_none hbody] at hcaptured
      cases hcaptured
      have hbound : (bindBody lib world (importedSource lib document bytes)
          (document.definition lib bytes url.path (lower request.method) o) .default .default past).1 =
            .ok (.none .default) := by
        rw [bindBody_none himported.body]
        rfl
      rcases planParts_imported hstack hsound himported hurl hscheme hhost hcheck h.host h.auth hbound
        rfl rfl with ⟨parts, hok, hparts⟩
      refine ⟨_, hplanned hok, (reproduces_iff hparts hmethod nofun).mpr
        ⟨⟨h.distinct, h.named⟩, h.headers, fun mediaType hmedia => ?_, fun _ => rfl, fun text htext => ?_⟩⟩
      · rw [h.contentType hbody] at hmedia
        cases hmedia
      · rw [hbody] at htext
        cases htext
  | some text =>
      rcases capturedBody_of_some hbody hcaptured with ⟨mediaType, value, rfl⟩
      have hmediaType := (capturedBody_some hbody hcaptured).1
      have hsurvives := h.body text hbody
      rw [← hmediaType] at hsurvives
      -- With a body, what survives is what the planner serialises.
      rcases serializeBody_survives hbody hcaptured hsurvives.1 with
        ⟨wire, hserialize, hwireMedia, _⟩
      have hwire : (serializeBody lib world mediaType value past).1 = .ok wire := by
        rw [hserialize]
        rfl
      rcases (bodySent_iff hbody hcaptured (hliteral text hbody) hwire).mpr hsurvives with ⟨hsent, hsize⟩
      have hbound := (@bound_some lib document bytes url.path (lower request.method) o _ world past
        mediaType value hstack himported.body).mpr ⟨wire, hwire, rfl⟩
      rcases planParts_imported hstack hsound himported hurl hscheme hhost hcheck h.host h.auth hbound
        rfl (decide_eq_true hsize) with ⟨parts, hok, hparts⟩
      refine ⟨_, hplanned hok, (reproduces_iff hparts hmethod isContentType_boundBody).mpr
        ⟨⟨h.distinct, h.named⟩, h.headers, fun content hcontent => ?_, fun hnone => ?_, fun text' htext => ?_⟩⟩
      · -- The media type of the body is the captured content type.
        have hsame : mediaType = content := by
          rw [hmediaType]
          unfold capturedMediaType
          rw [hcontent]
          rfl
        rw [← hsame, ← hwireMedia]
        exact List.mem_singleton_self _
      · rw [hbody] at hnone
        cases hnone
      · rw [hbody] at htext
        cases htext
        rw [← hmediaType]
        exact (plannedBodyBytes_ok hparts.body).mpr hsent

end

end

/-! ### Imported requests -/

section

variable {lib : Crates} {base document : ImportDocument} {captures : List Capture}

/-- The document an import starts with has no operations and no schemes. -/
theorem ImportedSource.captures_base (source : ImportedSource)
    (h : source.captures lib = .ok (base, captures)) :
    base.paths = [] ∧ base.securitySchemes = [] := by
  cases source with
  | several source => exact Kahea.captures_base h
  | curl text =>
      rcases except_bind_ok.mp h with ⟨request, _, hsame⟩
      cases hsame
      exact ⟨rfl, rfl⟩
  | direct descriptor =>
      rcases except_bind_ok.mp h with ⟨request, _, hsame⟩
      cases hsame
      exact ⟨rfl, rfl⟩

theorem importDocument_eq {source : ImportedSource} (h : source.captures lib = .ok (base, captures)) :
    importDocument lib source = importCaptures lib base captures := by
  unfold importDocument
  rw [h]
  rfl

/-- The operation of a request has what was captured of it. -/
theorem imported_of_requestOperation {request : CapturedRequest} {index : Nat}
    {responses : CapturedResponses} {path method : Str} {o : ImportedOperation} {url : Url} {host : Str}
    (hurl : capturedUrl lib request = .ok (url, host))
    (ho : (Capture.request request index responses).operation lib = some ((path, method), o)) :
    path = capturedPath url ∧ method = lower request.method ∧
      ∃ body, capturedBody lib request = .ok body ∧ Imported url host request body o := by
  rcases Option.bind_eq_some_iff.mp ho with ⟨⟨url', host'⟩, hurl', ho⟩
  rcases Option.bind_eq_some_iff.mp ho with ⟨verb, hmethod, ho⟩
  rcases Option.bind_eq_some_iff.mp ho with ⟨body, hbody, ho⟩
  rw [toOption_eq_some] at hurl' hmethod hbody
  rw [hurl] at hurl'
  cases hurl'
  have hlower := (capturedMethod_ok hmethod).1
  have hsecurity : (request.auth.map (fun _ => schemeName index)).isSome = request.auth.isSome :=
    Option.isSome_map
  dsimp only at ho
  -- The responses change nothing of what is compared here.
  split_ifs at ho
  · cases ho
    exact ⟨rfl, hlower, body, hbody, ⟨rfl, rfl, rfl, hsecurity, rfl⟩⟩
  · cases ho
    refine ⟨rfl, hlower, body, hbody, ?_⟩
    cases responses <;> exact ⟨rfl, rfl, rfl, hsecurity, rfl⟩

end

/-- The request of a HAR entry of a GET request. -/
def harGetRequest (url : String) : CapturedRequest :=
  { name := "harRequest0"
    method := "GET"
    url := url
    headers := []
    body := none
    mediaType := none
    auth := none
    checks := []
    absent := [] }

/-- The URL of a path and a query at the host of the examples. -/
def exampleUrl (path query : String) : Url :=
  ⟨"https", [], none, some "example.com".toList, none, path, some query.toList, none⟩

theorem exampleUrl_web (query : String) :
    WebUrl referenceCrates (exampleUrl "/a" query) "example.com" where
  slash := rfl
  plain := by
    have hall : "/a".toList.all (fun c => !isWhiteSpace c && c != '\x7b') = true := by decide
    intro c hc
    simpa using List.all_eq_true.mp hall c hc
  hostPlain := by decide
  present := by decide
  reparse := by
    -- The query is not part of what is parsed again.
    have hparse : referenceCrates.parseUrl (capturedOrigin (exampleUrl "/a" "") "example.com" ++ "/a") =
        .ok (servedUrl { exampleUrl "/a" "" with query := none }) := by decide +kernel
    exact hparse

/-- The request of a cURL command with a body. -/
def curlRequest : CapturedRequest :=
  { CapturedRequest.named "curlRequest" with
    method := "POST"
    url := "https://example.com/a?q=1"
    body := some "[1]" }

/-- A direct descriptor with a header and a body. -/
def directDescriptor : Value :=
  jsonObject [("body", .string "hi"), ("content_type", .string "text/plain"),
    ("headers", jsonObject [("X-Kind", .string "k")]), ("method", .string "PUT"),
    ("url", .string "https://example.com/a?q=1")]

/-- The request of the descriptor. -/
def directRequest : CapturedRequest :=
  { CapturedRequest.named "directRequest" with
    method := "PUT"
    url := "https://example.com/a?q=1"
    headers := [("X-Kind", "k")]
    body := some "hi"
    mediaType := some "text/plain" }

/-- The request of a source is planned without input as it was captured. -/
def PlannedAsCaptured (source : ImportedSource) (request : CapturedRequest) (url : Url) : Prop :=
  ∃ document, importDocument referenceCrates source = .ok document ∧
    ∃ o plan, document.operationAt url.path (lower request.method) = some o ∧
      (buildPlan referenceCrates referenceWorld (importedSource referenceCrates document [])
        (document.definition referenceCrates [] url.path (lower request.method) o) .default []).1 =
          .ok plan ∧ Reproduces referenceCrates request url plan

end Kahea
