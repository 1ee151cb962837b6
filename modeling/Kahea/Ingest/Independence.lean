import Kahea.Core.Reference
import Kahea.Ingest.Credentials

/-!
# Independence of Credentials

A Postman collection has credentials at every depth: variables of the
collection and of folders, authentication of items and of requests, headers of
requests and of examples. What a walk carries down is the same for a collection
and for its blank, but for the authentication, of which only the kind and the
name and place of an API key are read (`below_blank`).

## Theorems

* `postmanVariables_blank`: The variables in scope have no secrets.
* `normalizePostmanAuth_blank`: An authentication is read without credentials.
* `walk_blank`: The captures of a collection and of its blank.
* `importSource_credentials`: Imports do not depend on credential values.
-/

namespace Kahea

/-! ### Variables -/

theorem declaredSecret_onMember (entry : Value) (f : Value → Value) :
    declaredSecret (entry.onMember "value" f) = declaredSecret entry := by
  unfold declaredSecret
  rw [Value.get_onMember_ne _ _ (by decide)]

/-- A secret has no value, so its value is not read. -/
theorem listedVariable_blank (entry : Value) :
    listedVariable (blankVariableEntry entry) = listedVariable entry := by
  unfold blankVariableEntry
  split_ifs with hsecret
  · unfold listedVariable
    rw [declaredSecret_onMember, Value.get_onMember_ne _ _ (by decide),
      Value.get_onMember_ne _ _ (by decide)]
    unfold variableName at hsecret
    cases hname : ((entry.get "key").or (entry.get "name")).bind Value.asStr with
    | none => rfl
    | some name =>
        rw [hname] at hsecret
        have hnone : (declaredSecret entry || secretLikeName name) = true := hsecret
        rw [some_bind, some_bind, if_pos hnone, if_pos hnone]
  · rfl

theorem memberVariable_blank (name : Str) (value : Value) :
    memberVariable (name, blankVariable name value) = memberVariable (name, value) := by
  unfold blankVariable memberVariable
  by_cases hname : secretLikeName name = true
  · rw [if_pos hname]
    dsimp only
    rw [hname, Bool.true_or, Bool.true_or, if_pos rfl, if_pos rfl]
  · rw [if_neg hname]
    by_cases hsecret : declaredSecret value = true
    · rw [if_pos hsecret]
      dsimp only
      rw [declaredSecret_onMember, hsecret, Bool.or_true, if_pos rfl, if_pos rfl]
    · rw [if_neg hsecret]

/-- The variables in scope have no secrets. -/
theorem postmanVariables_blank (value : Option Value) :
    postmanVariables (value.map blankVariables) = postmanVariables value := by
  -- Variables come in a list or by name, and blanking keeps which.
  have harray : (value.map blankVariables).bind Value.asArray =
      (value.bind Value.asArray).map (fun items => items.map blankVariableEntry) := by
    cases value with
    | none => rfl
    | some value =>
        change (blankVariables value).asArray = value.asArray.map _
        unfold blankVariables
        rw [Value.asArray_onMembers, Value.asArray_onItems]
  have hobject : (value.map blankVariables).bind Value.asObject =
      (value.bind Value.asObject).map (fun members =>
        members.map (fun e => (e.1, blankVariable e.1 e.2))) := by
    cases value with
    | none => rfl
    | some value =>
        change (blankVariables value).asObject = value.asObject.map _
        unfold blankVariables
        rw [Value.asObject_onMembers, Value.asObject_onItems]
  unfold postmanVariables
  rw [harray, hobject]
  cases value.bind Value.asArray with
  | some entries =>
      rw [Option.map_some]
      dsimp only
      rw [List.filterMap_map]
      -- Blanking leaves a variable as it is read: one that is secret has no value either way.
      have hlisted : listedVariable ∘ blankVariableEntry = listedVariable :=
        funext listedVariable_blank
      rw [hlisted]
  | none =>
      rw [Option.map_none]
      dsimp only
      cases value.bind Value.asObject with
      | none => rfl
      | some members =>
          rw [Option.map_some, Option.getD_some, Option.getD_some, List.map_map]
          -- The same by name.
          have hmember : memberVariable ∘ (fun e : Str × Value => (e.1, blankVariable e.1 e.2)) =
              memberVariable := funext (fun e => memberVariable_blank e.1 e.2)
          rw [hmember]

/-! ### Authentication -/

/-- The kind of an authentication is no credential. -/
theorem authType_blank (auth : Value) : ((blankAuth auth).get "type").bind Value.asStr =
    (auth.get "type").bind Value.asStr := by
  unfold blankAuth
  rw [Value.get_onMembers]
  cases auth.get "type" with
  | none => rfl
  | some kind =>
      change ((Value.onItems _ kind).onMembers _).asStr = kind.asStr
      rw [Value.asStr_onMembers, Value.asStr_onItems]

theorem get_key_blankSetting (kind : Str) (entry : Value) :
    (blankSetting kind entry).get "key" = entry.get "key" := by
  unfold blankSetting
  split_ifs
  · rfl
  · exact Value.get_onMember_ne _ _ (by decide)

/-- A setting that is no credential is read as before. -/
theorem authSetting_blank {kind key : Str} (h : isPlainSetting kind key = true)
    (entries : List Value) :
    authSetting (entries.map (blankSetting kind)) key = authSetting entries key := by
  unfold authSetting
  rw [List.findSome?_map]
  refine congrArg (fun f => entries.findSome? f) (funext (fun entry => ?_))
  change (if ((blankSetting kind entry).get "key").bind Value.asStr = some key then
    ((blankSetting kind entry).get "value").bind Value.asStr else none) = _
  rw [get_key_blankSetting]
  by_cases hkey : (entry.get "key").bind Value.asStr = some key
  · have hplain : blankSetting kind entry = entry := by
      unfold blankSetting
      rw [hkey]
      exact if_pos h
    rw [if_pos hkey, if_pos hkey, hplain]
  · rw [if_neg hkey, if_neg hkey]

theorem authKind_apikey {kind : Str} (h : authKind kind = some .apikey) : kind = "apikey" := by
  unfold authKind at h
  by_cases hkey : kind = "apikey"
  · exact hkey
  · rw [if_neg hkey] at h
    split_ifs at h <;> cases h

/-- An authentication is read without its credentials. -/
theorem normalizePostmanAuth_blank (auth : Value) (location : Str) :
    normalizePostmanAuth (blankAuth auth) location = normalizePostmanAuth auth location := by
  unfold normalizePostmanAuth
  rw [authType_blank]
  dsimp only
  split_ifs with hnone
  · rfl
  · generalize lower ((((auth.get "type").bind Value.asStr)).getD "noauth") = kind
    -- The settings of a kind are blanked one by one.
    have hentries : (((blankAuth auth).get kind).bind Value.asArray).getD [] =
        (((auth.get kind).bind Value.asArray).getD []).map (blankSetting kind) := by
      unfold blankAuth
      rw [Value.get_onMembers]
      cases auth.get kind with
      | none => rfl
      | some settings =>
          change ((((settings.onItems (blankSetting kind)).onMembers _).asArray).getD []) =
            (settings.asArray.getD []).map _
          rw [Value.asArray_onMembers, Value.asArray_onItems]
          cases settings.asArray <;> rfl
    cases hknown : authKind kind with
    | none => rfl
    | some known =>
        dsimp only
        rw [hentries]
        -- Only an API key reads settings, and those two are no credentials.
        by_cases hkey : known = .apikey
        · have hkind : kind = "apikey" := authKind_apikey (hkey ▸ hknown)
          have hplain : isPlainSetting kind "key" = true ∧ isPlainSetting kind "in" = true := by
            rw [hkind]
            decide
          rw [if_pos hkey, if_pos hkey, if_pos hkey, if_pos hkey, authSetting_blank hplain.1,
            authSetting_blank hplain.2]
        · rw [if_neg hkey, if_neg hkey, if_neg hkey, if_neg hkey]

theorem blankSetting_blankSetting (kind : Str) (entry : Value) :
    blankSetting kind (blankSetting kind entry) = blankSetting kind entry := by
  by_cases hplain : ((entry.get "key").bind Value.asStr).any (isPlainSetting kind) = true
  · have hblank : blankSetting kind entry = entry := if_pos hplain
    rw [hblank, hblank]
  · have hblank : blankSetting kind entry = entry.onMember "value" (fun _ => .null) :=
      if_neg hplain
    have hkey := get_key_blankSetting kind entry
    rw [hblank] at hkey ⊢
    unfold blankSetting
    rw [hkey, if_neg hplain, Value.onMember_onMember]

theorem blankAuth_blankAuth (auth : Value) : blankAuth (blankAuth auth) = blankAuth auth := by
  unfold blankAuth
  rw [Value.onMembers_onMembers]
  refine congrArg (fun f => auth.onMembers f) (funext fun kind => funext fun settings => ?_)
  rw [Value.onItems_onMembers, Value.onMembers_onMembers, Value.onItems_onItems]
  simp only [blankSetting_blankSetting]
  refine congrArg (fun f => (settings.onItems (blankSetting kind)).onMembers f)
    (funext fun setting => funext fun value => ?_)
  by_cases hplain : isPlainSetting kind setting = true
  · rw [if_pos hplain, if_pos hplain]
  · rw [if_neg hplain, if_neg hplain]

/-! ### Requests -/

theorem blankPostmanRequest_blankPostmanRequest (request : Value) :
    blankPostmanRequest (blankPostmanRequest request) = blankPostmanRequest request := by
  unfold blankPostmanRequest
  rw [Value.onMembers_onMembers]
  refine congrArg (fun f => request.onMembers f) (funext fun name => funext fun value => ?_)
  by_cases hauth : name = "auth"
  · rw [if_pos hauth, if_pos hauth, blankAuth_blankAuth]
  · rw [if_neg hauth, if_neg hauth]
    by_cases hheader : name = "header"
    · rw [if_pos hheader, if_pos hheader, blankHeaders_blankHeaders]
    · rw [if_neg hheader, if_neg hheader]

theorem blankExample_blankExample (example_ : Value) :
    blankExample (blankExample example_) = blankExample example_ := by
  unfold blankExample
  rw [Value.onMembers_onMembers]
  refine congrArg (fun f => example_.onMembers f) (funext fun name => funext fun value => ?_)
  by_cases hheader : name = "header"
  · rw [if_pos hheader, if_pos hheader, blankHeaders_blankHeaders]
  · rw [if_neg hheader, if_neg hheader]
    by_cases horiginal : name = "originalRequest"
    · rw [if_pos horiginal, if_pos horiginal, blankPostmanRequest_blankPostmanRequest]
    · rw [if_neg horiginal, if_neg horiginal]

/-- A text without template braces has no variables to replace. -/
theorem substituteVariables_resolved {text : Str} (h : unresolved text = false)
    (vars : PostmanVariables) : substituteVariables text vars = text := by
  have hnone : ¬ "\x7b\x7b".toList <:+: text := of_decide_eq_false h
  unfold substituteVariables
  -- By the variables: no placeholder is in a text without open braces.
  induction vars with
  | nil => rfl
  | cons v rest ih =>
      rw [List.foldl_cons]
      cases hvalue : v.2 with
      | none => exact ih
      | some value =>
          have hplaceholder : ¬ postmanPlaceholder v.1 <:+: text := by
            intro hinfix
            refine hnone (List.IsInfix.trans ?_ hinfix)
            unfold postmanPlaceholder
            exact ⟨[], v.1 ++ "\x7d\x7d".toList, by
              rw [List.nil_append, List.append_assoc]⟩
          have hkept : replaceAll (postmanPlaceholder v.1) value text = text :=
            replaceAll_of_not_infix _ _ _ hplaceholder
          dsimp only
          rw [hkept]
          exact ih

/-- The text of a credential that is taken out stays out when variables are
    replaced. -/
theorem unresolved_softText (text : Str) (vars : PostmanVariables) :
    unresolved (substituteVariables (softText text) vars) =
      unresolved (substituteVariables text vars) := by
  unfold softText
  by_cases h : unresolved text = true
  · rw [if_pos h]
  · have hresolved : unresolved text = false := Bool.eq_false_iff.mpr h
    have hempty : unresolved [] = false := by decide
    rw [if_neg h, substituteVariables_resolved hempty, substituteVariables_resolved hresolved,
      hempty, hresolved]

/-- What a walk carries down, without credentials. -/
def PostmanContext.blank (context : PostmanContext) : PostmanContext :=
  { context with auth := context.auth.map blankAuth }

/-- The headers of a request with the variables in scope replaced. -/
theorem substituted_blank (headers : List (Str × Str)) (vars : PostmanVariables) :
    ((headers.map softHeader).map (fun e => (e.1, substituteVariables e.2 vars))).map blankHeader =
        (headers.map (fun e => (e.1, substituteVariables e.2 vars))).map blankHeader ∧
      ((headers.map softHeader).map (fun e => (e.1, substituteVariables e.2 vars))).any
          (fun h => unresolved h.2) =
        (headers.map (fun e => (e.1, substituteVariables e.2 vars))).any
          (fun h => unresolved h.2) := by
  constructor
  · rw [List.map_map, List.map_map, List.map_map]
    refine List.map_congr_left (fun header _ => ?_)
    change blankHeader (header.1, substituteVariables (softHeader header).2 vars) =
      blankHeader (header.1, substituteVariables header.2 vars)
    unfold blankHeader softHeader
    dsimp only
    -- A credential is blanked after the substitution, whatever it was.
    by_cases hcred : isCredentialHeader header.1 = true
    · rw [if_pos hcred, if_pos hcred]
    · rw [if_neg hcred, if_neg hcred, if_neg hcred]
  · rw [List.map_map, List.any_map, List.any_map]
    refine congrArg (fun f => headers.any f) (funext (fun header => ?_))
    change unresolved (substituteVariables (softHeader header).2 vars) =
      unresolved (substituteVariables header.2 vars)
    unfold softHeader
    dsimp only
    -- Whether something is left to substitute does not depend on the value.
    by_cases hcred : isCredentialHeader header.1 = true
    · rw [if_pos hcred]
      exact unresolved_softText header.2 vars
    · rw [if_neg hcred]

/-- The members of a request are those of its blank, up to its authentication
    and its headers. -/
theorem get_blankPostmanRequest (request : Value) {key : Str} (hauth : key ≠ "auth")
    (hheader : key ≠ "header") : (blankPostmanRequest request).get key = request.get key := by
  unfold blankPostmanRequest
  rw [Value.get_onMembers]
  simp only [if_neg hauth, if_neg hheader]
  exact Option.map_id'

/-- A member of an item with its credentials taken out. -/
def blankPart (name : Str) (value : Value) : Value :=
  if name = "item" then value.onItems blankItem
  else if name = "variable" then blankVariables value
  else if name = "auth" then blankAuth value
  else if name = "request" then blankPostmanRequest value
  else if name = "response" then value.onItems blankExample
  else value

/-- The blank of an item has the members of the item, each with its credentials
    taken out. -/
theorem blankItem_eq (item : Value) : blankItem item = item.onMembers blankPart := by
  have hlist (items : List Value) : blankList items = items.map blankItem := by
    induction items with
    | nil => rfl
    | cons item rest ih => rw [blankList, ih, List.map_cons]
  have hitems (value : Value) : blankItems value = value.onItems blankItem := by
    cases value with
    | array items => exact congrArg Value.array (hlist items)
    | _ => rfl
  have hmembers (members : List (Str × Value)) :
      blankMembers members = members.map (fun e => (e.1, blankPart e.1 e.2)) := by
    induction members with
    | nil => rfl
    | cons e rest ih =>
        rcases e with ⟨name, value⟩
        rw [blankMembers, ih, hitems]
        rfl
  cases item with
  | object members => exact congrArg Value.object (hmembers members)
  | _ => rfl

theorem get_blankItem (item : Value) (key : Str) :
    (blankItem item).get key = (item.get key).map (blankPart key) := by
  rw [blankItem_eq, Value.get_onMembers]

/-- The other members of an item are left alone. -/
theorem get_blankItem_other (item : Value) {key : Str}
    (h : key ∉ ["item".toList, "variable".toList, "auth".toList, "request".toList,
      "response".toList]) : (blankItem item).get key = item.get key := by
  simp only [List.mem_cons, List.not_mem_nil, or_false, not_or] at h
  have hid : blankPart key = fun value => value := by
    funext value
    unfold blankPart
    rw [if_neg h.1, if_neg h.2.1, if_neg h.2.2.1, if_neg h.2.2.2.1, if_neg h.2.2.2.2]
  rw [get_blankItem, hid]
  exact Option.map_id'

/-- What is carried down below a blank item. -/
theorem below_blank (context : PostmanContext) (item : Value) (location : Str) :
    context.blank.below (blankItem item) location = (context.below item location).blank := by
  have hevent : (blankItem item).get "event" = item.get "event" :=
    get_blankItem_other item (by decide)
  have habsent : (blankItem item).get "x-kahea-absent" = item.get "x-kahea-absent" :=
    get_blankItem_other item (by decide)
  have hvariable : (blankItem item).get "variable" = (item.get "variable").map blankVariables :=
    get_blankItem item "variable"
  have hauth : (blankItem item).get "auth" = (item.get "auth").map blankAuth :=
    get_blankItem item "auth"
  unfold PostmanContext.below PostmanContext.blank collectPostmanEvents
  rw [hevent, habsent, hvariable, hauth, postmanVariables_blank]
  cases item.get "auth" <;> rfl

theorem postmanRequest_blank (context : PostmanContext) (item request : Value)
    (location url : Str) (auth : Option CapturedAuth) :
    (postmanRequest context.blank (blankItem item) (blankPostmanRequest request).asObject location
      url auth).blank = (postmanRequest context item request.asObject location url auth).blank := by
  -- The name, the body and the method are kept; only the headers are blanked.
  have hname : (blankItem item).get "name" = item.get "name" :=
    get_blankItem_other item (by decide)
  have hbody : (blankPostmanRequest request).asObject.bind (lookup "body") =
      request.asObject.bind (lookup "body") :=
    get_blankPostmanRequest request (by decide) (by decide)
  have hmethod : (blankPostmanRequest request).asObject.bind (lookup "method") =
      request.asObject.bind (lookup "method") :=
    get_blankPostmanRequest request (by decide) (by decide)
  have hfield (object : Option (List (Str × Value))) : object.bind (fun request =>
      stringField request "method") = (object.bind (lookup "method")).bind Value.asStr := by
    cases object <;> rfl
  have hheader : (blankPostmanRequest request).asObject.bind (lookup "header") =
      (request.asObject.bind (lookup "header")).map blankHeaders := by
    change (blankPostmanRequest request).get "header" = (request.get "header").map blankHeaders
    unfold blankPostmanRequest
    rw [Value.get_onMembers]
    rfl
  have hvars : context.blank.vars = context.vars := rfl
  unfold postmanRequest CapturedRequest.blank
  dsimp only
  rw [hname, hbody, hfield, hfield, hmethod, hheader, hvars]
  -- Headers are substituted before they are blanked.
  cases request.asObject.bind (lookup "header") with
  | none => rfl
  | some headers =>
      rcases substituted_blank (namedValues (some headers)) context.vars with ⟨hmap, hany⟩
      have hblank : namedValues (some (blankHeaders headers)) =
          (namedValues (some headers)).map softHeader := namedValues_blankHeaders (some headers)
      simp only [Option.map_some, Option.getD_some]
      rw [hblank]
      unfold variableAbsences
      rw [hany, hmap]
      rfl

section

variable (lib : Crates)

theorem requestUrl_blank (request : Value) :
    requestUrl lib (blankPostmanRequest request) = requestUrl lib request := by
  have hurl : (blankPostmanRequest request).get "url" = request.get "url" :=
    get_blankPostmanRequest request (by decide) (by decide)
  have htext : (blankPostmanRequest request).asStr = request.asStr := Value.asStr_onMembers _ _
  unfold requestUrl
  rw [hurl, htext]

/-- The captures of an item do not depend on its credentials, up to the values
    of credential headers, and neither does whether its request is numbered. -/
theorem postmanItem_blank (context : PostmanContext) (item request : Value) (location : Str)
    (index : Nat) :
    (postmanItem lib context.blank (blankItem item) (blankPostmanRequest request) location
        index).1.map Capture.blank =
      (postmanItem lib context item request location index).1.map Capture.blank ∧
    (postmanItem lib context.blank (blankItem item) (blankPostmanRequest request) location
        index).2 = (postmanItem lib context item request location index).2 := by
  -- Blanking an example twice is blanking it once.
  have hresponse : (((((blankItem item).get "response").bind Value.asArray).map
        CapturedResponses.examples).getD .unknown).blank =
      ((((item.get "response").bind Value.asArray).map CapturedResponses.examples).getD
        .unknown).blank := by
    rw [get_blankItem]
    cases item.get "response" with
    | none => rfl
    | some listed =>
        change ((((listed.onItems blankExample).asArray).map CapturedResponses.examples).getD
          .unknown).blank = ((listed.asArray.map CapturedResponses.examples).getD .unknown).blank
        rw [Value.asArray_onItems]
        cases listed.asArray with
        | none => rfl
        | some examples_ =>
            change CapturedResponses.examples ((examples_.map blankExample).map blankExample) =
              .examples (examples_.map blankExample)
            rw [List.map_map]
            exact congrArg CapturedResponses.examples
              (List.map_congr_left (fun e _ => blankExample_blankExample e))
  -- An item has its own authentication or that of its folder.
  have hauth : ((((blankPostmanRequest request).asObject.bind (lookup "auth")).filter (fun auth =>
        (auth.get "type").bind Value.asStr ≠ some "inherit".toList)).or context.blank.auth).map
        (fun auth => normalizePostmanAuth auth location) =
      (((request.asObject.bind (lookup "auth")).filter (fun auth =>
        (auth.get "type").bind Value.asStr ≠ some "inherit".toList)).or context.auth).map
        (fun auth => normalizePostmanAuth auth location) := by
    have hown : (blankPostmanRequest request).asObject.bind (lookup "auth") =
        (request.asObject.bind (lookup "auth")).map blankAuth := by
      change (blankPostmanRequest request).get "auth" = (request.get "auth").map blankAuth
      unfold blankPostmanRequest
      rw [Value.get_onMembers]
      rfl
    have hnormal : (fun auth => normalizePostmanAuth auth location) ∘ blankAuth =
        fun auth => normalizePostmanAuth auth location :=
      funext (fun auth => normalizePostmanAuth_blank auth location)
    have hcontext : (context.blank.auth).map (fun auth => normalizePostmanAuth auth location) =
        context.auth.map (fun auth => normalizePostmanAuth auth location) := by
      change (context.auth.map blankAuth).map _ = _
      rw [Option.map_map, hnormal]
    rw [hown]
    -- Whether it inherits is told by the type, which is kept.
    cases request.asObject.bind (lookup "auth") with
    | none => exact hcontext
    | some auth =>
        rw [Option.map_some, Option.filter_some, Option.filter_some, authType_blank]
        split_ifs
        · exact congrArg some (normalizePostmanAuth_blank auth location)
        · exact hcontext
  have hvars : context.blank.vars = context.vars := rfl
  unfold postmanItem
  dsimp only
  rw [hauth, requestUrl_blank, hvars]
  -- Without a URL both give the same absence.
  cases requestUrl lib request with
  | error e => exact ⟨rfl, rfl⟩
  | ok url =>
      dsimp only
      split_ifs
      · exact ⟨rfl, rfl⟩
      · refine ⟨?_, rfl⟩
        rw [List.map_append, List.map_append]
        change _ ++ [Capture.request _ _ _] = _ ++ [Capture.request _ _ _]
        rw [hresponse, postmanRequest_blank]

/-! ### Collections -/

/-- The walk over a folder and the items behind it. -/
theorem walk_folder (context : PostmanContext) (location : Str) (position index : Nat)
    {item nested : Value} (hitem : item.get "item" = some nested) (rest : List Value) :
    walkPostmanItems lib context location position index (item :: rest) =
      let here := location ++ '/' :: decimal position
      let first := walkPostmanItems lib (context.below item here) (here ++ "/item") 0 index
        (nested.asArray.getD [])
      let second := walkPostmanItems lib context location (position + 1) first.2 rest
      (first.1 ++ second.1, second.2) := by
  rw [walkPostmanItems]
  dsimp only
  split
  · rename_i found hfound
    rw [hitem] at hfound
    cases hfound
    rfl
  · rename_i hnone
    rw [hitem] at hnone
    cases hnone

/-- The walk over an item that is no folder and the items behind it. -/
theorem walk_leaf (context : PostmanContext) (location : Str) (position index : Nat)
    {item : Value} (hitem : item.get "item" = none) (rest : List Value) :
    walkPostmanItems lib context location position index (item :: rest) =
      let here := location ++ '/' :: decimal position
      let first : List Capture × Nat := match item.get "request" with
        | none => ([], index)
        | some request =>
            let item := postmanItem lib (context.below item here) item request here index
            (item.1, if item.2 then index + 1 else index)
      let second := walkPostmanItems lib context location (position + 1) first.2 rest
      (first.1 ++ second.1, second.2) := by
  rw [walkPostmanItems]
  dsimp only
  split
  · rename_i found hfound
    rw [hitem] at hfound
    cases hfound
  · rfl

/-- The captures of items do not depend on credentials at any depth, up to the
    values of credential headers. -/
theorem walk_blank (context : PostmanContext) (location : Str) (position index : Nat)
    (items : List Value) :
    (walkPostmanItems lib context.blank location position index
        (items.map blankItem)).1.map Capture.blank =
      (walkPostmanItems lib context location position index items).1.map Capture.blank ∧
    (walkPostmanItems lib context.blank location position index (items.map blankItem)).2 =
      (walkPostmanItems lib context location position index items).2 := by
  fun_induction walkPostmanItems lib context location position index items with
  | case1 context location position index =>
      rw [List.map_nil, walkPostmanItems]
      exact ⟨rfl, rfl⟩
  | case2 context location position index item rest here inner captures next hitem more last hrest
      ihnested ihrest =>
      rw [hrest] at ihrest
      rcases ihrest with ⟨hmore, hlast⟩
      rw [List.map_cons]
      cases hfolder : item.get "item" with
      -- A folder: its items are walked in a context of its own.
      | some nested =>
          have hfirst : walkPostmanItems lib inner (here ++ "/item") 0 index
              (nested.asArray.getD []) = (captures, next) := by
            split at hitem
            · rename_i found hfound
              rw [hfolder] at hfound
              cases hfound
              exact hitem
            · rename_i hnone
              rw [hfolder] at hnone
              cases hnone
          -- Blanking an item blanks the items in it.
          have hblank : (blankItem item).get "item" = some (nested.onItems blankItem) := by
            rw [get_blankItem, hfolder]
            rfl
          have hitems : ((nested.onItems blankItem).asArray).getD [] =
              (nested.asArray.getD []).map blankItem := by
            rw [Value.asArray_onItems]
            cases nested.asArray <;> rfl
          rcases ihnested nested hfolder with ⟨hcaptures, hnext⟩
          rw [hfirst] at hcaptures hnext
          have hinner : context.blank.below (blankItem item) (location ++ '/' :: decimal position) =
              inner.blank := below_blank context item here
          rw [walk_folder lib _ _ _ _ hblank, hitems]
          dsimp only
          rw [hinner]
          dsimp only [here] at hcaptures hnext hmore hlast ⊢
          rw [List.map_append, List.map_append, hcaptures, hnext, hmore, hlast]
          exact ⟨rfl, rfl⟩
      -- A leaf, with a request or without one.
      | none =>
          have hblank : (blankItem item).get "item" = none := by
            rw [get_blankItem, hfolder]
            rfl
          have hrequest : (blankItem item).get "request" =
              (item.get "request").map blankPostmanRequest := get_blankItem item "request"
          have hinner : context.blank.below (blankItem item) (location ++ '/' :: decimal position) =
              inner.blank := below_blank context item here
          rw [walk_leaf lib _ _ _ _ hblank, hrequest]
          dsimp only
          rw [hinner]
          split at hitem
          · rename_i found hfound
            rw [hfolder] at hfound
            cases hfound
          cases hleaf : item.get "request" with
          | none =>
              rw [hleaf] at hitem
              cases hitem
              dsimp only [Option.map_none] at hmore hlast ⊢
              rw [List.nil_append, List.nil_append, hmore, hlast]
              exact ⟨rfl, rfl⟩
          | some request =>
              rw [hleaf] at hitem
              -- Both leaves give captures that are equal up to credentials, and the same
              -- number.
              rcases postmanItem_blank lib inner item request here index with ⟨hcaptures, hnumbered⟩
              rcases hpair : postmanItem lib inner item request here index with ⟨found, numbered⟩
              dsimp only at hitem
              rw [hpair] at hitem hcaptures hnumbered
              simp only [dite_eq_ite] at hitem
              cases hitem
              dsimp only [here, Option.map_some] at hcaptures hnumbered hmore hlast ⊢
              rw [List.map_append, List.map_append, hcaptures, hnumbered, hmore, hlast]
              exact ⟨rfl, rfl⟩

/-- The captures of a collection do not depend on credentials, up to the values
    of credential headers. -/
theorem postmanCaptures_blank (collection : Value) :
    (postmanCaptures lib (blankItem collection)).map Capture.blank =
      (postmanCaptures lib collection).map Capture.blank := by
  -- What a collection passes on to its items is kept.
  have hevent : (blankItem collection).get "event" = collection.get "event" :=
    get_blankItem_other collection (by decide)
  have hvariable : (blankItem collection).get "variable" =
      (collection.get "variable").map blankVariables := get_blankItem collection "variable"
  have hauth : (blankItem collection).get "auth" = (collection.get "auth").map blankAuth :=
    get_blankItem collection "auth"
  have hitems : (((blankItem collection).get "item").bind Value.asArray).getD [] =
      (((collection.get "item").bind Value.asArray).getD []).map blankItem := by
    rw [get_blankItem]
    cases collection.get "item" with
    | none => rfl
    | some nested =>
        change ((nested.onItems blankItem).asArray).getD [] = (nested.asArray.getD []).map blankItem
        rw [Value.asArray_onItems]
        cases nested.asArray <;> rfl
  -- The items are blanked one by one.
  have hevents : collectPostmanEvents (blankItem collection) "#" =
      collectPostmanEvents collection "#" := by
    unfold collectPostmanEvents
    rw [hevent]
  unfold postmanCaptures
  rw [hevents, hvariable, hauth, hitems, postmanVariables_blank]
  exact (walk_blank lib ⟨_, collection.get "auth", _, _⟩ _ _ _ _).1

/-- The document a collection starts with and its schema have no credentials. -/
theorem postmanBase_blank (collection : Value) :
    postmanBase (blankItem collection) = postmanBase collection ∧
      supportedCollection (blankItem collection) = supportedCollection collection ∧
      (blankItem collection).pointer "/info/schema" = collection.pointer "/info/schema" := by
  -- Blanking touches none of the members that are read here.
  have hinfo : (blankItem collection).get "info" = collection.get "info" :=
    get_blankItem_other collection (by decide)
  have hevent : (blankItem collection).get "event" = collection.get "event" :=
    get_blankItem_other collection (by decide)
  have habsent : (blankItem collection).get "x-kahea-absent" = collection.get "x-kahea-absent" :=
    get_blankItem_other collection (by decide)
  have hversion : (blankItem collection).get "x-kahea-postman-v3" =
      collection.get "x-kahea-postman-v3" := get_blankItem_other collection (by decide)
  have hnamed (v : Value) : v.pointer "/info/name" =
      (v.get "info").bind (fun info => info.get "name") :=
    Value.pointer_two v (by decide) (by decide) (by decide)
  have hversioned (v : Value) : v.pointer "/info/schema" =
      (v.get "info").bind (fun info => info.get "schema") :=
    Value.pointer_two v (by decide) (by decide) (by decide)
  have hname : (blankItem collection).pointer "/info/name" = collection.pointer "/info/name" := by
    rw [hnamed, hnamed, hinfo]
  have hschema : (blankItem collection).pointer "/info/schema" =
      collection.pointer "/info/schema" := by
    rw [hversioned, hversioned, hinfo]
  unfold postmanBase supportedCollection collectPostmanEvents
  rw [hname, hschema, hevent, habsent, hversion]
  exact ⟨rfl, rfl, rfl⟩

/-! ### Imports -/

/-- The captures of HAR documents with one blank agree up to the values of
    credential headers. -/
theorem harCaptures_of_blank {document document' : Value}
    (h : blankHar document = blankHar document') :
    document.pointer "/log/version" = document'.pointer "/log/version" ∧
      (harCaptures (((document.pointer "/log/entries").bind Value.asArray).getD [])).map
          Capture.blank =
        (harCaptures (((document'.pointer "/log/entries").bind Value.asArray).getD [])).map
          Capture.blank := by
  -- The captures of a blanked document are those of its blanked entries.
  have hentries (document : Value) :
      (harCaptures (((document.pointer "/log/entries").bind Value.asArray).getD [])).map
          Capture.blank =
        (harCaptures (((((blankHar document).pointer "/log/entries").bind
          Value.asArray)).getD [])).map Capture.blank := by
    rw [(pointer_blankHar document).2, ← harCaptures_blank]
    refine congrArg (fun entries => (harCaptures entries).map Capture.blank) ?_
    cases document.pointer "/log/entries" with
    | none => rfl
    | some entries =>
        change (entries.asArray.getD []).map blankEntry =
          ((entries.onItems blankEntry).asArray).getD []
        rw [Value.asArray_onItems]
        cases entries.asArray <;> rfl
  constructor
  · rw [← (pointer_blankHar document).1, h, (pointer_blankHar document').1]
  · rw [hentries document, h, ← hentries document']

/-- Imports do not depend on credential values. -/
theorem importSource_credentials (source source' : CapturedSource)
    (h : source.blank = source'.blank) : importSource lib source = importSource lib source' := by
  cases source with
  | har document =>
      cases source' with
      | har document' =>
          -- HAR: the version and the captures are all that is read.
          unfold CapturedSource.blank at h
          rw [BlankSource.har.injEq] at h
          rcases harCaptures_of_blank h with ⟨hversion, hcaptures⟩
          unfold importSource CapturedSource.captures
          dsimp only
          rw [hversion]
          split_ifs
          · exact importCaptures_blank lib hcaptures _
          · rfl
      | postman collection => cases h
      | http text => cases h
  | postman collection =>
      cases source' with
      | har document => cases h
      | postman collection' =>
          -- Postman: beside the captures, what the document starts from.
          unfold CapturedSource.blank at h
          rw [BlankSource.postman.injEq] at h
          rcases postmanBase_blank collection with ⟨hbase, hsupported, hschema⟩
          rcases postmanBase_blank collection' with ⟨hbase', hsupported', hschema'⟩
          have hcaptures : (postmanCaptures lib collection).map Capture.blank =
              (postmanCaptures lib collection').map Capture.blank := by
            rw [← postmanCaptures_blank lib collection, h, postmanCaptures_blank lib collection']
          rw [h] at hbase hsupported hschema
          unfold importSource CapturedSource.captures
          dsimp only
          rw [← hsupported, hsupported', ← hbase, hbase', ← hschema, hschema']
          split_ifs
          · exact importCaptures_blank lib hcaptures _
          · rfl
      | http text => cases h
  | http text =>
      cases source' with
      | har document => cases h
      | postman collection => cases h
      | http text' =>
          -- A `.http` file: the captures alone.
          unfold CapturedSource.blank at h
          rw [BlankSource.http.injEq] at h
          have hcaptures : (httpCaptures text).map Capture.blank =
              (httpCaptures text').map Capture.blank := by
            rw [httpCaptures_blank, h, httpCaptures_blank]
          exact importCaptures_blank lib hcaptures _

end

/-- A collection with a credential in a header, in an authentication and in a
    secret variable. -/
def secretCollection (secret : String) : Value :=
  jsonObject [
    ("auth", jsonObject [("bearer", .array [jsonObject [("key", .string "token"),
      ("value", .string secret.toList)]]), ("type", .string "bearer")]),
    ("info", jsonObject [("schema", .string "https://schema/v2.1.0/collection.json")]),
    ("item", .array [jsonObject [("request", jsonObject [
      ("header", .array [jsonObject [("key", .string "Cookie"), ("value", .string secret.toList)]]),
      ("url", .string "https://example.com/a")])]]),
    ("variable", .array [jsonObject [("key", .string "api_token"),
      ("value", .string secret.toList)]])]

theorem importSource_secretCollection :
    importSource referenceCrates (.postman (secretCollection "one")) =
      importSource referenceCrates (.postman (secretCollection "two")) :=
  importSource_credentials referenceCrates _ _ (congrArg BlankSource.postman (by decide +kernel))

end Kahea
