import Kahea.Base.Pointer
import Kahea.Ingest.Selecting
import Kahea.Workflow.Expression

/-!
# Pointing at Operations

The operation a workflow step names by a JSON Pointer into its source.

The planner looks at what the pointer selects and then lets go of it: the
method and the path are read again off the last two tokens of the pointer, and
the operation is looked up by the text of the two. So the operation that is
planned is the one pointed at when the pointer leads to a method of a path of
the document, and some other operation of the same method and path when it
leads elsewhere, such as into the reusable path items.

## Main definitions

* `WorkflowSource`: A source of a workflow.
* `stepOperation`: The source and the selector of a step.
* `PointsTo`: The pointer selects the operation.

## Theorems

* `stepOperation_path`: What a step with a pointer is looked up by.
* `operationPath_iff`: When the operation pointed at is the one that is planned.
-/

namespace Kahea

inductive WorkflowSource where
  | http (source : OpenApiSource)
  | websocket (path : Str) (bytes : List UInt8) (document : Value) (sourceFingerprint : Str)

/-- The source and the pointer of an `operationPath`. -/
def splitOperationPath (expression : Str) : Option (Str × Str) :=
  ((stripPrefix "\x7b$sourceDescriptions." expression).bind (splitOnce ".url\x7d#")).or
    ((stripPrefix "$sourceDescriptions." expression).bind (splitOnce ".url#"))

/-- The method and the path the last two tokens of a pointer spell. -/
def pointedMethodPath (pointer : Str) : Str × Str :=
  match (pointer.splitOn '/').reverse with
  | [] => ([], [])
  | method :: rest => (method, unescapeToken (rest.headD []))

section

variable (sources : List (Str × WorkflowSource))

/-- The source and the operation an `operationId` names. Without a source it
    names one only where there is one source. -/
def stepOperationId (step : Value) : Option (Except WorkflowError (Str × Str)) :=
  match step.text "operationId" with
  | none => none
  | some expression => match stripPrefix "$sourceDescriptions." expression with
    | some rest => some (match splitOnce "." rest with
      | none => .error (.invalid ("invalid operationId expression " ++ debugQuote expression))
      | some (source, operation) =>
          if (lookup source sources).isSome then .ok (source, operation)
          else .error (.invalid ("unknown source " ++ debugQuote source)))
    | none => match sources with
      | [(source, _)] => some (.ok (source, expression))
      | _ => none

/-- The source and the selector of the operation an `operationPath` names. -/
def stepOperationPath (expression : Str) : Except WorkflowError (Str × Str) :=
  match splitOperationPath expression with
  | none => .error (.invalid ("invalid operationPath expression " ++ debugQuote expression))
  | some (name, pointer) => match lookup name sources with
    | none => .error (.invalid ("unknown source " ++ debugQuote name))
    | some (.websocket _ _ _ _) => .error (.invalid
        ("WebSocket step source " ++ debugQuote name ++ " must use operationId"))
    | some (.http source) => match source.document.pointer pointer with
      | none => .error (.invalid
          ("operationPath pointer " ++ debugQuote pointer ++ " did not resolve"))
      | some operation =>
          if operation.asObject.isNone then .error (.invalid
            ("operationPath pointer " ++ debugQuote pointer ++ " does not select an operation"))
          else if !HTTP_METHODS.contains (pointedMethodPath pointer).1 then .error (.invalid
            ("operationPath " ++ debugQuote expression ++ " has unsupported method"))
          else .ok (name,
            upper (pointedMethodPath pointer).1 ++ ' ' :: (pointedMethodPath pointer).2)

/-- The source of a step and the selector of its operation. -/
def stepOperation (step : Value) : Except WorkflowError (Str × Str) :=
  match stepOperationId sources step with
  | some result => result
  | none => match step.text "operationPath" with
    | some expression => stepOperationPath sources expression
    | none => .error (.invalid ("each v1 step must identify an HTTP or WebSocket operationId, " ++
        "or an HTTP operationPath".toList))

end

/-- The pointer leads to the operation, as the one of its method under its
    path, and selects its object. -/
def PointsTo (lib : Crates) (source : OpenApiSource) (pointer : Str) (o : OperationDefinition) :
    Prop :=
  ∃ e ∈ source.entries, o = e.definition lib source ∧
    pointerTokens pointer = some ["paths".toList, e.rawPath, e.method] ∧
    source.document.pointer pointer = some (.object e.operation)

/-! ### What a step is looked up by -/

section

variable {sources : List (Str × WorkflowSource)} {step : Value} {expression name selector : Str}

/-- A step with a pointer is looked up by the method and the path the pointer
    spells, and the pointer selects an object. -/
theorem stepOperation_path (hid : stepOperationId sources step = none)
    (hpath : step.text "operationPath" = some expression)
    (h : stepOperation sources step = .ok (name, selector)) :
    ∃ pointer source members, splitOperationPath expression = some (name, pointer) ∧
      lookup name sources = some (.http source) ∧
      source.document.pointer pointer = some (.object members) ∧
      (pointedMethodPath pointer).1 ∈ HTTP_METHODS ∧
      selector = upper (pointedMethodPath pointer).1 ++ ' ' :: (pointedMethodPath pointer).2 := by
  unfold stepOperation at h
  rw [hid, hpath] at h
  dsimp only [stepOperationPath] at h
  -- The lookups in the order of the code, each of which must succeed.
  cases hsplit : splitOperationPath expression with
  | none =>
      rw [hsplit] at h
      cases h
  | some parts =>
      rcases parts with ⟨found, pointer⟩
      rw [hsplit] at h
      dsimp only at h
      cases hsource : lookup found sources with
      | none =>
          rw [hsource] at h
          cases h
      | some workflowSource =>
          rw [hsource] at h
          cases workflowSource with
          | websocket path bytes document sourceFingerprint => cases h
          | http source =>
              dsimp only at h
              cases hvalue : source.document.pointer pointer with
              | none =>
                  rw [hvalue] at h
                  cases h
              | some operation =>
                  rw [hvalue] at h
                  dsimp only at h
                  split_ifs at h with hobject hmethod
                  cases h
                  -- The operation pointed at is an object, and its method is one of HTTP.
                  cases operation with
                  | object members =>
                      have hlisted : (pointedMethodPath pointer).1 ∈ HTTP_METHODS := by
                        simpa using hmethod
                      exact ⟨pointer, source, members, rfl, hsource, hvalue, hlisted, rfl⟩
                  | _ => exact absurd rfl hobject

end

/-! ### Selectors -/

theorem toLower_eq_slash {c : Char} (h : c.toLower = '/') : c = '/' := by
  by_cases hupper : c.val ≥ 'A'.val ∧ c.val ≤ 'Z'.val
  · have hval : c.toLower.val = c.val + ('a'.val - 'A'.val) := congrArg Char.val (dif_pos hupper)
    rw [h] at hval
    exfalso
    revert hval
    grind
  · have hself : c.toLower = c := dif_neg hupper
    rw [← hself, h]

/-- The path of a text, without white space behind it. -/
def bare (path : Str) : Str := path.rdropWhile isWhiteSpace

section

variable {method path : Str}

theorem solid_methods : HTTP_METHODS.all (fun method => decide (upper method ≠ []) &&
    (upper method).all (fun c => !isWhiteSpace c)) = true := by decide

theorem solid_upper (h : method ∈ HTTP_METHODS) :
    upper method ≠ [] ∧ ∀ c ∈ upper method, isWhiteSpace c = false := by
  have hmethod := List.all_eq_true.mp solid_methods method h
  rw [Bool.and_eq_true, decide_eq_true_eq, List.all_eq_true] at hmethod
  refine ⟨hmethod.1, fun c hc => ?_⟩
  have hsolid := hmethod.2 c hc
  rw [Bool.not_eq_true'] at hsolid
  exact hsolid

/-- What a selector of a method and a path is once it is trimmed. -/
theorem trim_selector (h : method ∈ HTTP_METHODS) (path : Str) :
    trim (upper method ++ ' ' :: path) =
      if bare path = [] then upper method else upper method ++ ' ' :: bare path := by
  rcases solid_upper h with ⟨hne, hsolid⟩
  have hblank : ∀ c ∈ path.rtakeWhile isWhiteSpace, isWhiteSpace c = true :=
    fun c hc => List.mem_rtakeWhile_imp hc
  -- What is trimmed is the white space at the end of the path.
  have hparts : upper method ++ ' ' :: path =
      (upper method ++ ' ' :: bare path) ++ path.rtakeWhile isWhiteSpace := by
    rw [List.append_assoc, List.cons_append, bare, List.rdropWhile_append_rtakeWhile]
  have hhead : ∀ c, (upper method).head? = some c → isWhiteSpace c = false :=
    fun c hc => hsolid c (List.mem_of_head? hc)
  rw [hparts, trim_append_blank _ hblank]
  -- Without a path the blank between is trimmed as well.
  by_cases hbare : bare path = []
  · rw [if_pos hbare, hbare, trim_append_space]
    exact Trimmed.trim_eq ⟨hhead, fun c hc => hsolid c (List.mem_of_getLast? hc)⟩
  · rw [if_neg hbare]
    refine Trimmed.trim_eq ⟨fun c hc => ?_, fun c hc => ?_⟩
    · rcases List.exists_cons_of_ne_nil hne with ⟨d, rest, hcons⟩
      rw [hcons] at hc hhead
      exact hhead c hc
    · rw [List.getLast?_append, List.getLast?_cons_of_ne_nil hbare,
        List.getLast?_eq_some_getLast hbare, Option.some_or, Option.some.injEq] at hc
      rw [← hc]
      exact Bool.eq_false_iff.mpr (List.rdropWhile_last_not isWhiteSpace path hbare)

theorem trim_selector_ne_nil (h : method ∈ HTTP_METHODS) (path : Str) :
    trim (upper method ++ ' ' :: path) ≠ [] := by
  rw [trim_selector h]
  split_ifs
  · exact (solid_upper h).1
  · exact List.append_ne_nil_of_left_ne_nil (solid_upper h).1 _

/-- A selector of a method and a path is not a handle. -/
theorem trim_selector_ne_handle (lib : Crates) (source : OpenApiSource) (e : OperationEntry)
    (h : method ∈ HTTP_METHODS) (path : Str) :
    e.handle lib source.sourceFingerprint ≠ trim (upper method ++ ' ' :: path) := by
  have hmethod := List.all_eq_true.mp upper_methods method h
  rw [Bool.and_eq_true, Bool.and_eq_true, decide_eq_true_eq, decide_eq_true_eq] at hmethod
  rcases hmethod.2 with ⟨hlength, hthree⟩
  have htake : (trim (upper method ++ ' ' :: path)).take 3 = (upper method).take 3 := by
    rw [trim_selector h]
    split_ifs
    · rfl
    · exact List.take_append_of_le_length hlength
  intro heq
  apply hthree
  rw [lower, ← List.map_take, ← htake, ← heq]
  rfl

/-- A path that begins with a slash is normalised by taking off the white
    space behind it. -/
theorem normalizePath_of_slash {path : Str} (h : path.head? = some '/') :
    bare path ≠ [] ∧ normalizePath path = bare path := by
  rcases List.head?_eq_some_iff.mp h with ⟨rest, rfl⟩
  have hfront : ('/' :: rest).dropWhile isWhiteSpace = '/' :: rest :=
    List.dropWhile_cons_of_neg (by decide)
  have hne : bare ('/' :: rest) ≠ [] := by
    intro hnil
    have hall := List.rdropWhile_eq_nil_iff.mp hnil '/' List.mem_cons_self
    exact absurd hall (by decide)
  -- A path that begins with a slash is trimmed at its end only.
  have htrim : trim ('/' :: rest) = bare ('/' :: rest) := by rw [trim, hfront, bare]
  refine ⟨hne, ?_⟩
  have hslash : startsWith "/" (trim ('/' :: rest)) = true := by
    rw [htrim, startsWith, List.isPrefixOf_iff_prefix]
    rcases List.exists_cons_of_ne_nil hne with ⟨c, cs, hcons⟩
    rcases List.rdropWhile_prefix isWhiteSpace ('/' :: rest) with ⟨t, ht⟩
    rw [bare] at hcons
    rw [hcons, List.cons_append, List.cons.injEq] at ht
    rw [bare, hcons, ht.1]
    exact List.prefix_append ['/'] cs
  unfold normalizePath
  dsimp only
  rw [if_pos hslash, htrim]

/-- A selector of a method and a path means the operation of the two exactly
    when the path begins with a slash or the operation has the text of the
    selector as its id. -/
theorem selectedBy_selector_iff {lib : Crates} {source : OpenApiSource} {e : OperationEntry}
    (h : e.method ∈ HTTP_METHODS) :
    e.selectedBy lib source (trim (upper e.method ++ ' ' :: e.rawPath)) = true ↔
      e.rawPath.head? = some '/' ∨
        e.operationId = trim (upper e.method ++ ' ' :: e.rawPath) := by
  have hhandle := trim_selector_ne_handle lib source e h e.rawPath
  have htrim := trim_selector h e.rawPath
  have hselector := trim_selector_ne_nil h e.rawPath
  -- The method and path of the operation spell the selector when its path begins with a slash.
  have hcase : eqIgnoreCase e.methodPath (trim (upper e.method ++ ' ' :: e.rawPath)) = true ↔
      e.rawPath.head? = some '/' := by
    rw [eqIgnoreCase, decide_eq_true_eq, htrim]
    constructor
    · intro heq
      split_ifs at heq with hbare
      · have hlength := congrArg List.length heq
        simp only [OperationEntry.methodPath, OperationEntry.methodUpper, lower, List.length_map,
          List.length_append, List.length_cons] at hlength
        omega
      · rw [OperationEntry.methodPath, lower, lower, List.map_append, List.map_append,
          OperationEntry.methodUpper, List.append_cancel_left_eq, List.map_cons, List.map_cons,
          List.cons.injEq] at heq
        rcases List.exists_cons_of_ne_nil hbare with ⟨c, cs, hcons⟩
        rcases List.head?_eq_some_iff.mp (normalizePath_slash e.rawPath) with ⟨rest, hrest⟩
        rw [OperationEntry.path, hrest, hcons, List.map_cons, List.map_cons, List.cons.injEq] at heq
        have hc : c = '/' := toLower_eq_slash heq.2.1.symm
        rcases List.rdropWhile_prefix isWhiteSpace e.rawPath with ⟨t, ht⟩
        rw [← bare, hcons, hc] at ht
        rw [← ht]
        rfl
    · intro hslash
      rcases normalizePath_of_slash hslash with ⟨hbare, hpath⟩
      rw [if_neg hbare, OperationEntry.methodPath, OperationEntry.path, hpath,
        OperationEntry.methodUpper]
  rw [OperationEntry.selectedBy, decide_eq_true_eq, hcase]
  constructor
  · rintro (heq | heq | hslash)
    · exact absurd heq hhandle
    · exact Or.inr heq.2
    · exact Or.inl hslash
  · rintro (hslash | heq)
    · exact Or.inr (Or.inr hslash)
    · exact Or.inr (Or.inl ⟨by rw [heq]; exact hselector, heq⟩)

end

/-! ### Pointers -/

theorem unescape_methods : HTTP_METHODS.all (fun method =>
    decide (unescapeToken method = method)) = true := by decide

/-- The tokens of a pointer end in what it spells. -/
theorem pointedMethodPath_of_tokens {pointer first path method : Str}
    (htokens : pointerTokens pointer = some [first, path, method])
    (hmethod : (pointedMethodPath pointer).1 ∈ HTTP_METHODS) :
    pointedMethodPath pointer = (method, path) := by
  unfold pointerTokens at htokens
  split at htokens
  · cases htokens
  · rename_i rest
    have hsplit : ('/' :: rest).splitOn '/' = [] :: rest.splitOn '/' :=
      List.splitOn_append_cons_self_of_not_mem List.not_mem_nil rest
    rw [Option.some.injEq] at htokens
    -- Of three tokens the last two are the path and the method.
    rcases hparts : rest.splitOn '/' with _ | ⟨a, _ | ⟨b, _ | ⟨c, _ | ⟨d, more⟩⟩⟩⟩
    · rw [hparts] at htokens
      cases htokens
    · rw [hparts] at htokens
      cases htokens
    · rw [hparts] at htokens
      cases htokens
    · rw [hparts] at htokens
      have hpointed : pointedMethodPath ('/' :: rest) = (c, unescapeToken b) := by
        rw [pointedMethodPath, hsplit, hparts]
        rfl
      rw [hpointed] at hmethod ⊢
      have hsame := of_decide_eq_true (List.all_eq_true.mp unescape_methods c hmethod)
      cases htokens
      rw [hsame]
    · rw [hparts] at htokens
      cases htokens
  · cases htokens

/-- A pointer of three tokens into the paths leads to an operation. -/
theorem entry_of_pointer {source : OpenApiSource} {pointer path method : Str}
    {paths members : List (Str × Value)}
    (hpaths : (source.document.get "paths").bind Value.asObject = some paths)
    (htokens : pointerTokens pointer = some ["paths".toList, path, method])
    (hvalue : source.document.pointer pointer = some (.object members))
    (hmethod : method ∈ HTTP_METHODS) :
    ∃ e ∈ source.entries, e.rawPath = path ∧ e.method = method ∧ e.operation = members := by
  rcases Option.bind_eq_some_iff.mp hpaths with ⟨table, htable, hobject⟩
  rcases Option.bind_eq_some_iff.mp htable with ⟨document, hdocument, hlookup⟩
  have hroot : source.document = .object document := by
    cases hd : source.document with
    | object m =>
        rw [hd] at hdocument
        cases hdocument
        rfl
    | _ =>
        rw [hd] at hdocument
        cases hdocument
  have htable' : table = .object paths := by
    cases table with
    | object m =>
        cases hobject
        rfl
    | _ => cases hobject
  unfold Value.pointer at hvalue
  rw [htokens, Option.bind_some, hroot, Value.descend_cons] at hvalue
  have hfirst : (Value.object document).child "paths" = some (.object paths) := by
    rw [← htable']
    exact hlookup
  rw [hfirst, Option.bind_some, Value.descend_cons] at hvalue
  rcases Option.bind_eq_some_iff.mp hvalue with ⟨item, hitem, hvalue⟩
  rw [Value.descend_cons] at hvalue
  rcases Option.bind_eq_some_iff.mp hvalue with ⟨operation, hoperation, hdone⟩
  cases hdone
  -- No method is the index of an array, so the path item is an object.
  have hindex : HTTP_METHODS.all (fun m => decide (parseIndex m = none)) = true := by decide
  have hnot := of_decide_eq_true (List.all_eq_true.mp hindex method hmethod)
  cases item with
  | object itemMembers =>
      refine ⟨⟨path, itemMembers, method, members⟩, ?_, rfl, rfl, rfl⟩
      unfold OpenApiSource.entries
      rw [hpaths]
      refine List.mem_flatMap.mpr ⟨(path, .object itemMembers), lookup_mem hitem, ?_⟩
      refine List.mem_filterMap.mpr ⟨method, hmethod, ?_⟩
      have hmember : lookup method itemMembers = some (.object members) := hoperation
      rw [hmember]
      rfl
  | array items =>
      unfold Value.child at hoperation
      dsimp only at hoperation
      rw [hnot] at hoperation
      cases hoperation
  | _ => cases hoperation

/-! ### The operation of a step -/

/-- A selector means the operations of one definition alike. -/
theorem selectedBy_congr {lib : Crates} {source : OpenApiSource} {a b : OperationEntry}
    (h : a.definition lib source = b.definition lib source) (selector : Str) :
    a.selectedBy lib source selector = b.selectedBy lib source selector := by
  have hhandle := congrArg OperationDefinition.handle h
  have hid := congrArg OperationDefinition.operationId h
  have hmethod := congrArg OperationDefinition.method h
  have hpath := congrArg OperationDefinition.path h
  dsimp only [OperationEntry.definition] at hhandle hid hmethod hpath
  unfold OperationEntry.selectedBy OperationEntry.methodPath
  rw [hhandle, hid, hmethod, hpath]

/-- The id of an operation, where it is not empty. -/
theorem operationId_eq_iff {e : OperationEntry} {text : Str} (h : text ≠ []) :
    e.operationId = text ↔ (Value.object e.operation).text "operationId" = some text := by
  have hfield : (Value.object e.operation).text "operationId" =
      stringField e.operation "operationId" := rfl
  rw [hfield, OperationEntry.operationId]
  cases stringField e.operation "operationId" with
  | none =>
      constructor
      · intro hnil
        exact absurd hnil.symm h
      · nofun
  | some id => rw [Option.getD_some, Option.some.injEq]

/-- A step that points at an operation is planned for the operation it points
    at exactly when the pointer leads to a method of a path of the document,
    and that path begins with a slash or the operation there has the text of
    its selector as its id. -/
theorem operationPath_iff (lib : Crates) (sources : List (Str × WorkflowSource)) (step : Value)
    (expression name selector : Str) (source : OpenApiSource) (o : OperationDefinition)
    (hid : stepOperationId sources step = none)
    (hexpression : step.text "operationPath" = some expression)
    (hstep : stepOperation sources step = .ok (name, selector))
    (hsource : lookup name sources = some (.http source))
    (hresolve : resolveOperation lib source selector = .ok o) :
    ∃ pointer, splitOperationPath expression = some (name, pointer) ∧
      (PointsTo lib source pointer o ↔
        ∃ path method, pointerTokens pointer = some ["paths".toList, path, method] ∧
          (path.head? = some '/' ∨
            (source.document.pointer pointer).bind (fun operation =>
              operation.text "operationId") = some (trim selector))) := by
  rcases stepOperation_path hid hexpression hstep with
    ⟨pointer, found, members, hsplit, hfound, hvalue, hmethod, hselector⟩
  rw [hsource] at hfound
  cases hfound
  refine ⟨pointer, hsplit, ?_⟩
  -- The operation that was resolved is the only one the selector means.
  rcases resolveOperation_ok_iff.mp hresolve with ⟨a, ha, rfl⟩
  have hself : a ∈ [a] := List.mem_singleton_self a
  rw [← ha, List.mem_filter] at hself
  constructor
  · rintro ⟨e, he, ho, htokens, hobject⟩
    refine ⟨e.rawPath, e.method, htokens, ?_⟩
    have hpointed := pointedMethodPath_of_tokens htokens hmethod
    rw [hpointed] at hselector
    have hmeant := hself.2
    rw [selectedBy_congr ho, hselector] at hmeant
    rcases (selectedBy_selector_iff (mem_entries he)).mp hmeant with hslash | hname
    · exact Or.inl hslash
    · refine Or.inr ?_
      rw [hobject, Option.bind_some, hselector]
      exact (operationId_eq_iff (trim_selector_ne_nil (mem_entries he) e.rawPath)).mp hname
  · rintro ⟨path, method, htokens, hcondition⟩
    have hpointed := pointedMethodPath_of_tokens htokens hmethod
    rw [hpointed] at hselector hmethod
    rcases hpaths : (source.document.get "paths").bind Value.asObject with _ | paths
    · rw [OpenApiSource.entries, hpaths] at hself
      cases hself.1
    rcases entry_of_pointer hpaths htokens hvalue hmethod with ⟨e, he, rfl, rfl, hoperation⟩
    have honly (hmeant : e.selectedBy lib source (trim selector) = true) : e = a := by
      have hin := List.mem_filter.mpr ⟨he, hmeant⟩
      rw [ha] at hin
      exact List.mem_singleton.mp hin
    refine ⟨e, he, ?_, htokens, ?_⟩
    · rw [honly]
      rw [hselector]
      refine (selectedBy_selector_iff (mem_entries he)).mpr (hcondition.imp_right fun hname => ?_)
      rw [hvalue, Option.bind_some, ← hoperation, hselector] at hname
      exact (operationId_eq_iff (trim_selector_ne_nil (mem_entries he) e.rawPath)).mpr hname
    · rw [hvalue, hoperation]

/-- A source with one operation under its paths and one among its components. -/
def componentsSource : OpenApiSource :=
  { document := jsonObject [
      ("components", jsonObject [("pathItems", jsonObject [("/items", jsonObject [
        ("get", jsonObject [("summary", .string "reusable")])])])]),
      ("paths", jsonObject [("/items", jsonObject [("get", jsonObject [])])])]
    sourceFingerprint := "b3:components"
    sourceHandle := "src:components" }

/-- An expression for a place of that source. -/
def componentsPath (pointer : String) : Str :=
  "{$sourceDescriptions.api.url}#".toList ++ pointer.toList

def pointingStep (pointer : String) : Value :=
  jsonObject [("operationPath", .string (componentsPath pointer))]

def componentsSources : List (Str × WorkflowSource) := [("api", .http componentsSource)]

theorem resolve_components : ∃ e ∈ componentsSource.entries, e.operation = [] ∧
    resolveOperation referenceCrates componentsSource "GET /items" =
      .ok (e.definition referenceCrates componentsSource) := by
  have hselects : eqIgnoreCase (OperationEntry.mk "/items" [("get".toList, jsonObject [])] "get"
      []).methodPath (trim "GET /items".toList) = true := by decide
  refine ⟨⟨"/items", [("get".toList, jsonObject [])], "get", []⟩, List.mem_singleton_self _, rfl, ?_⟩
  refine (resolveOperation_iff (i := 0) rfl (decide_eq_true (Or.inr (Or.inr hselects)))).mpr ?_
  intro j other hj hne
  have hlt := (List.getElem?_eq_some_iff.mp hj).1
  have hone : componentsSource.entries.length = 1 := rfl
  omega

/-- A step that points at the path of the document is planned for it. -/
theorem operationPath_items : ∃ pointer o, PointsTo referenceCrates componentsSource pointer o := by
  rcases resolve_components with ⟨e, _, _, hresolve⟩
  have hid : stepOperationId componentsSources (pointingStep "/paths/~1items/get") = none := by
    decide
  have hexpression : (pointingStep "/paths/~1items/get").text "operationPath" =
      some (componentsPath "/paths/~1items/get") := by decide
  have hstep : (stepOperation componentsSources (pointingStep "/paths/~1items/get")).toOption =
      some ("api".toList, "GET /items".toList) := by decide +kernel
  have hsplit : splitOperationPath (componentsPath "/paths/~1items/get") =
      some ("api".toList, "/paths/~1items/get".toList) := by decide +kernel
  rcases operationPath_iff referenceCrates componentsSources (pointingStep "/paths/~1items/get")
    (componentsPath "/paths/~1items/get") "api" "GET /items" componentsSource
    (e.definition referenceCrates componentsSource) hid hexpression (toOption_eq_some.mp hstep)
    rfl hresolve with ⟨pointer, hpointer, hiff⟩
  have hsame := hsplit.symm.trans hpointer
  rw [Option.some.injEq, Prod.mk.injEq] at hsame
  refine ⟨pointer, _, hiff.mpr ⟨"/items", "get", ?_, Or.inl rfl⟩⟩
  rw [← hsame.2]
  decide

/-- A step that points at a reusable path item is planned for the operation of
    the same method and path. -/
theorem operationPath_strays :
    ¬ ∀ (lib : Crates) (sources : List (Str × WorkflowSource)) (step : Value)
      (expression name selector : Str) (source : OpenApiSource) (o : OperationDefinition),
      stepOperationId sources step = none → step.text "operationPath" = some expression →
      stepOperation sources step = .ok (name, selector) →
      lookup name sources = some (.http source) →
      resolveOperation lib source selector = .ok o →
      ∃ pointer, splitOperationPath expression = some (name, pointer) ∧
        source.document.pointer pointer = some (.object o.operation) := by
  intro h
  -- The selector of the pointed method and path finds the operation of the path item.
  rcases resolve_components with ⟨e, _, hempty, hresolve⟩
  have hid : stepOperationId componentsSources
      (pointingStep "/components/pathItems/~1items/get") = none := by decide
  have hexpression : (pointingStep "/components/pathItems/~1items/get").text "operationPath" =
      some (componentsPath "/components/pathItems/~1items/get") := by decide
  have hstep : (stepOperation componentsSources
      (pointingStep "/components/pathItems/~1items/get")).toOption =
      some ("api".toList, "GET /items".toList) := by decide +kernel
  have hsplit : splitOperationPath (componentsPath "/components/pathItems/~1items/get") =
      some ("api".toList, "/components/pathItems/~1items/get".toList) := by decide +kernel
  -- The pointer leads elsewhere, into the components.
  rcases h referenceCrates componentsSources (pointingStep "/components/pathItems/~1items/get")
    (componentsPath "/components/pathItems/~1items/get") "api" "GET /items" componentsSource
    (e.definition referenceCrates componentsSource) hid hexpression (toOption_eq_some.mp hstep)
    rfl hresolve with ⟨pointer, hpointer, hobject⟩
  have hsame := hsplit.symm.trans hpointer
  rw [Option.some.injEq, Prod.mk.injEq] at hsame
  have hother : componentsSource.document.pointer "/components/pathItems/~1items/get" ≠
      some (.object []) := by decide +kernel
  have hdefinition : (e.definition referenceCrates componentsSource).operation = e.operation := rfl
  rw [← hsame.2, hdefinition, hempty] at hobject
  exact hother hobject

end Kahea
