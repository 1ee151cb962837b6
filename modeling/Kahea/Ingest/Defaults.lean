import Kahea.Ingest.Isolation

/-!
# Captured Defaults

What planning makes of the parameters of an imported operation.

An importer turns the query pairs and the headers of a request into parameters
whose default is the captured value. Without input the planner sends these
defaults back, one for each location and name: the last of several with the
same key, and none for an empty name.

## Main definitions

* `Captured`: A parameter with a captured value.
* `sentQuery`, `sentHeaders`: What is sent for a list of parameters.

## Theorems

* `foldlM_captured`: Planning without input sends the defaults.
* `sentQuery_perm`: The query is sent as it was exactly when its names differ
  and none is empty.
* `sentHeaders_all`: A header is sent exactly when it has a name and all
  headers of its name have its value.
-/

namespace Kahea

/-! ### Stored parameters -/

/-- Every key of a list of parameters is kept. -/
theorem exists_mem_foldl_insertParameter {l stored : List (List (Str × Value))}
    {p : List (Str × Value)} (h : p ∈ stored ∨ p ∈ l) :
    ∃ q ∈ l.foldl insertParameter stored, parameterKey q = parameterKey p := by
  -- An insertion keeps the key of every parameter, replaced or not.
  have hstep (stored : List (List (Str × Value))) (r p : List (Str × Value))
      (h : p ∈ stored ∨ p = r) : ∃ q ∈ insertParameter stored r, parameterKey q = parameterKey p := by
    unfold insertParameter
    split_ifs with hany
    · by_cases hkey : parameterKey p = parameterKey r
      · rcases List.any_eq_true.mp hany with ⟨q, hq, hqr⟩
        have hqr := of_decide_eq_true hqr
        exact ⟨r, List.mem_map.mpr ⟨q, hq, if_pos hqr⟩, hkey.symm⟩
      · rcases h with h | rfl
        · exact ⟨p, List.mem_map.mpr ⟨p, h, if_neg hkey⟩, rfl⟩
        · exact absurd rfl hkey
    · exact ⟨p, List.mem_append.mpr (h.imp_right (fun h => List.mem_singleton.mpr h)), rfl⟩
  induction l generalizing stored p with
  | nil => exact ⟨p, h.resolve_right (List.not_mem_nil), rfl⟩
  | cons r l ih =>
      rcases h with h | h
      · rcases hstep stored r p (Or.inl h) with ⟨q, hq, hkey⟩
        rcases ih (Or.inl hq) with ⟨q', hq', hkey'⟩
        exact ⟨q', hq', hkey'.trans hkey⟩
      · rcases List.mem_cons.mp h with h | h
        · rcases hstep stored r p (Or.inr h) with ⟨q, hq, hkey⟩
          rcases ih (Or.inl hq) with ⟨q', hq', hkey'⟩
          exact ⟨q', hq', hkey'.trans hkey⟩
        · exact ih (Or.inr h)

/-! ### Parameters with a captured value -/

/-- A parameter with a captured value. -/
structure Captured (location name value : Str) (p : List (Str × Value)) : Prop where
  key : parameterKey p = (location, name)
  schema : lookup "schema" p =
    some (jsonObject [("default", .string value), ("type", .string "string")])

/-- The members of a parameter with a captured value. -/
def capturedMembers (location : String) (entry : Str × Str) : List (Str × Value) :=
  [("in".toList, .string location.toList), ("name".toList, .string entry.1),
    ("schema".toList, jsonObject [("default", .string entry.2), ("type", .string "string")])]

theorem captured_members (location : String) (entry : Str × Str) :
    Captured location.toList entry.1 entry.2 (capturedMembers location entry) := by
  have hname : "in".toList ≠ "name".toList := by decide
  have hin : "in".toList ≠ "schema".toList := by decide
  have hschema : "name".toList ≠ "schema".toList := by decide
  have hlocation : lookup "in" (capturedMembers location entry) = some (.string location.toList) :=
    if_pos rfl
  have hentry : lookup "name" (capturedMembers location entry) = some (.string entry.1) :=
    (if_neg hname).trans (if_pos rfl)
  constructor
  · unfold parameterKey stringField
    rw [hlocation, hentry]
    rfl
  · exact (if_neg hin).trans ((if_neg hschema).trans (if_pos rfl))

theorem resolveObject_captured (source : OpenApiSource) (location : String) (entry : Str × Str) :
    resolveObject source (capturedParameter location entry) "parameter" =
      .ok (capturedMembers location entry) := by
  have hfree := refFree_ref (capturedParameter_refFree location entry)
  unfold resolveObject
  rw [hfree]
  rfl

/-- The text a parameter has as its default. -/
def defaultText (p : List (Str × Value)) : Str :=
  ((((lookup "schema" p).bind (fun s => s.get "default")).bind Value.asStr)).getD []

theorem Captured.default {location name value : Str} {p : List (Str × Value)}
    (h : Captured location name value p) :
    (lookup "schema" p).bind (fun s => s.get "default") = some (.string value) := by
  rw [h.schema]
  exact if_pos rfl

theorem Captured.defaultText {location name value : Str} {p : List (Str × Value)}
    (h : Captured location name value p) : defaultText p = value := by
  unfold Kahea.defaultText
  rw [h.default]
  rfl

/-- The parameters of a location that have a name. -/
def namedIn (location : String) (l : List (List (Str × Value))) : List (List (Str × Value)) :=
  l.filter (fun p => (parameterKey p).1 = location.toList && !(parameterKey p).2.isEmpty)

/-- The query pairs that are sent for some parameters. -/
def sentQuery (l : List (List (Str × Value))) : List (Str × Str) :=
  (namedIn "query" l).map (fun p => ((parameterKey p).2, defaultText p))

/-- The headers that are sent for some parameters. -/
def sentHeaders (l : List (List (Str × Value))) : List PlannedHeader :=
  (namedIn "header" l).map (fun p => ⟨(parameterKey p).2, defaultText p⟩)

/-- A captured value satisfies its schema. -/
theorem validateValue_captured (source : OpenApiSource) (stack : Nat) (value field : Str) :
    validateValue source (stack + 1)
      (jsonObject [("default", .string value), ("type", .string "string")]) (.string value) field =
        .ok () := by
  -- The schema has two keywords, so every other check is empty.
  have hget (key : Str) (h : key ∉ ["default".toList, "type".toList]) :
      (jsonObject [("default", .string value), ("type", .string "string")]).get key = none :=
    jsonObject_get_none h
  have hdefault : "default".toList ≠ "type".toList := by decide
  have htype : (jsonObject [("default", .string value), ("type", .string "string")]).get "type" =
      some (.string "string") := (if_neg hdefault).trans (if_pos rfl)
  have hresolve : resolveSchema source (jsonObject [("default", .string value), ("type", .string "string")])
      field = .ok (jsonObject [("default", .string value), ("type", .string "string")]) := by
    unfold resolveSchema
    rw [hget _ (by decide)]
    rfl
  have hupload : uploadDescriptor (jsonObject [("default", .string value), ("type", .string "string")])
      (.string value) = none := by
    unfold uploadDescriptor
    rw [hget "format" (by decide), if_neg (fun h => nomatch h.2)]
  have henum : validateEnum (jsonObject [("default", .string value), ("type", .string "string")])
      (.string value) field = .ok () := by
    unfold validateEnum
    rw [hget _ (by decide)]
    rfl
  -- The type is the one of a text.
  have hmatches : validateType (jsonObject [("default", .string value), ("type", .string "string")])
      (.string value) field = .ok () := by
    have htypes : declaredTypes (jsonObject [("default", .string value), ("type", .string "string")]) =
        ["string".toList] := by
      unfold declaredTypes
      rw [htype]
    unfold validateType
    rw [htypes]
    rfl
  unfold validateValue
  rw [hresolve]
  dsimp only [bind, Except.bind]
  rw [hupload, hget "allOf" (by decide), henum, hmatches]
  rfl

/-! ### The parameter loop -/

/-- A parameter of an imported operation: a query pair or a header. -/
def FromCapture (p : List (Str × Value)) : Prop :=
  ∃ (location : String) (entry : Str × Str), (location = "query" ∨ location = "header") ∧
    p = capturedMembers location entry

/-- The state of the parameter loop when nothing was supplied. -/
structure Bindings.Unsupplied (b : Bindings) (path : Str) : Prop where
  inputs : b.inputs = .default
  targetPath : b.targetPath = path
  cookies : b.cookies = []

theorem namedIn_cons (location : String) (p : List (Str × Value)) (l : List (List (Str × Value))) :
    namedIn location (p :: l) =
      if (parameterKey p).1 = location.toList ∧ (parameterKey p).2 ≠ [] then p :: namedIn location l
      else namedIn location l := by
  unfold namedIn
  rw [List.filter_cons]
  refine if_congr ?_ rfl rfl
  rw [Bool.and_eq_true, decide_eq_true_eq, Bool.not_eq_true', List.isEmpty_eq_false_iff]

/-- The step of the parameter loop sends the captured value. -/
theorem bindParameter_captured {source : OpenApiSource} {stack : Nat} {b : Bindings} {path : Str}
    (hb : b.Unsupplied path) {p : List (Str × Value)} (hp : FromCapture p) :
    ∃ b', bindParameter source (stack + 1) b p = .ok b' ∧ b'.Unsupplied path ∧
      b'.queryPairs = b.queryPairs ++ sentQuery [p] ∧ b'.headers = b.headers ++ sentHeaders [p] := by
  rcases hp with ⟨location, ⟨name, value⟩, hlocation, rfl⟩
  have hcaptured := captured_members location (name, value)
  have hkey := hcaptured.key
  have hquery : sentQuery [capturedMembers location (name, value)] =
      if location = "query" ∧ name ≠ [] then [(name, value)] else [] := by
    unfold sentQuery
    rw [namedIn_cons, hkey]
    have hiff : location.toList = "query".toList ↔ location = "query" := String.toList_inj
    rw [show namedIn "query" [] = [] from rfl]
    by_cases h : location = "query" ∧ name ≠ []
    · rw [if_pos h, if_pos ⟨hiff.mpr h.1, h.2⟩, List.map_singleton, hkey, hcaptured.defaultText]
    · rw [if_neg h, if_neg (fun h' => h ⟨hiff.mp h'.1, h'.2⟩)]
      rfl
  have hheaders : sentHeaders [capturedMembers location (name, value)] =
      if location = "header" ∧ name ≠ [] then [⟨name, value⟩] else [] := by
    unfold sentHeaders
    rw [namedIn_cons, hkey]
    have hiff : location.toList = "header".toList ↔ location = "header" := String.toList_inj
    rw [show namedIn "header" [] = [] from rfl]
    by_cases h : location = "header" ∧ name ≠ []
    · rw [if_pos h, if_pos ⟨hiff.mpr h.1, h.2⟩, List.map_singleton, hkey, hcaptured.defaultText]
    · rw [if_neg h, if_neg (fun h' => h ⟨hiff.mp h'.1, h'.2⟩)]
      rfl
  rw [hquery, hheaders]
  have hne : location.toList ≠ [] := by
    rcases hlocation with rfl | rfl <;> decide
  unfold bindParameter
  rw [hkey]
  dsimp only
  by_cases hname : name = []
  · rw [if_pos (Or.inl hname), if_neg (fun h => h.2 hname), if_neg (fun h => h.2 hname)]
    exact ⟨b, rfl, hb, (List.append_nil _).symm, (List.append_nil _).symm⟩
  · rw [if_neg (fun h => h.elim hname hne)]
    -- Nothing was supplied, so the value is the default.
    have htake : b.inputs.take location.toList name = (none, b.inputs) := by
      unfold Inputs.take
      rw [hb.inputs]
      rcases hlocation with rfl | rfl <;> rfl
    have hvalue : parameterValue b.inputs (capturedMembers location (name, value)) location.toList name =
        (some (.string value, "schema-default".toList), b.inputs) := by
      unfold parameterValue
      rw [htake, hcaptured.default]
      rfl
    have hvalid : validateDeclared source (stack + 1)
        (lookup "schema" (capturedMembers location (name, value))) (.string value)
          (location.toList ++ '.' :: name) = .ok () := by
      rw [hcaptured.schema]
      exact validateValue_captured source stack value _
    rw [hvalue]
    dsimp only
    rw [hvalid]
    rcases hlocation with rfl | rfl
    · have hother : ¬("query" = "header" ∧ name ≠ []) := fun h => absurd h.1 (by decide)
      rw [if_pos ⟨rfl, hname⟩, if_neg hother]
      exact ⟨_, rfl, ⟨hb.inputs, hb.targetPath, hb.cookies⟩, rfl, (List.append_nil _).symm⟩
    · have hother : ¬("header" = "query" ∧ name ≠ []) := fun h => absurd h.1 (by decide)
      have hjoin : join "," [value] = value := List.intercalate_singleton
      rw [if_neg hother, if_pos ⟨rfl, hname⟩]
      refine ⟨_, rfl, ⟨hb.inputs, hb.targetPath, hb.cookies⟩, (List.append_nil _).symm, ?_⟩
      dsimp only
      rw [hjoin]

/-- The parameter loop sends the captured values. -/
theorem foldlM_captured {source : OpenApiSource} {stack : Nat} {path : Str}
    {l : List (List (Str × Value))} (hl : ∀ p ∈ l, FromCapture p) {b : Bindings}
    (hb : b.Unsupplied path) :
    ∃ b', l.foldlM (bindParameter source (stack + 1)) b = .ok b' ∧ b'.Unsupplied path ∧
      b'.queryPairs = b.queryPairs ++ sentQuery l ∧ b'.headers = b.headers ++ sentHeaders l := by
  -- By the parameters, none of which is supplied by an input.
  induction l generalizing b with
  | nil => exact ⟨b, rfl, hb, (List.append_nil _).symm, (List.append_nil _).symm⟩
  | cons p l ih =>
      rcases bindParameter_captured hb (hl p List.mem_cons_self) with
        ⟨next, hnext, hstate, hquery, hheaders⟩
      rcases ih (fun q hq => hl q (List.mem_cons_of_mem p hq)) hstate with
        ⟨last, hlast, hlastState, hlastQuery, hlastHeaders⟩
      refine ⟨last, ?_, hlastState, ?_, ?_⟩
      · rw [List.foldlM_cons, except_bind_ok]
        exact ⟨next, hnext, hlast⟩
      · have hcons : sentQuery (p :: l) = sentQuery [p] ++ sentQuery l := by
          unfold sentQuery namedIn
          rw [← List.map_append, ← List.filter_append]
          rfl
        rw [hlastQuery, hquery, hcons, List.append_assoc]
      · have hcons : sentHeaders (p :: l) = sentHeaders [p] ++ sentHeaders l := by
          unfold sentHeaders namedIn
          rw [← List.map_append, ← List.filter_append]
          rfl
        rw [hlastHeaders, hheaders, hcons, List.append_assoc]

/-! ### What is sent back -/

/-- The headers of a request that become parameters. -/
def plainHeaders (headers : List (Str × Str)) : List (Str × Str) :=
  headers.filter (fun h => !isContentType h.1 && !isCredentialHeader h.1)

/-- The members of the parameters of a request. -/
def capturedList (url : Url) (headers : List (Str × Str)) : List (List (Str × Value)) :=
  url.queryPairs.map (capturedMembers "query") ++ (plainHeaders headers).map (capturedMembers "header")

/-- The parameters planning binds for a request. -/
def storedParameters (url : Url) (headers : List (Str × Str)) : List (List (Str × Value)) :=
  ((capturedList url headers).foldl insertParameter []).insertionSort (fun p q =>
    keyLe (parameterKey p) (parameterKey q))

section

variable {url : Url} {headers : List (Str × Str)}

theorem mem_storedParameters {p : List (Str × Value)} (h : p ∈ storedParameters url headers) :
    p ∈ capturedList url headers := by
  unfold storedParameters at h
  rw [List.mem_insertionSort] at h
  exact (mem_foldl_insertParameter h).resolve_left (List.not_mem_nil)

theorem storedParameters_nodup : ((storedParameters url headers).map parameterKey).Nodup :=
  ((List.perm_insertionSort _ _).map parameterKey).nodup_iff.mpr
    (foldl_insertParameter_nodup _ List.nodup_nil)

theorem exists_storedParameter {p : List (Str × Value)} (h : p ∈ capturedList url headers) :
    ∃ q ∈ storedParameters url headers, parameterKey q = parameterKey p := by
  rcases exists_mem_foldl_insertParameter (Or.inr h) with ⟨q, hq, hkey⟩
  refine ⟨q, ?_, hkey⟩
  unfold storedParameters
  rw [List.mem_insertionSort]
  exact hq

theorem fromCapture_of_mem {p : List (Str × Value)} (h : p ∈ capturedList url headers) :
    FromCapture p := by
  rcases List.mem_append.mp h with h | h
  · rcases List.mem_map.mp h with ⟨entry, _, rfl⟩
    exact ⟨"query", entry, Or.inl rfl, rfl⟩
  · rcases List.mem_map.mp h with ⟨entry, _, rfl⟩
    exact ⟨"header", entry, Or.inr rfl, rfl⟩

/-- What a stored parameter of a location is. -/
theorem mem_namedIn {location : String} {p : List (Str × Value)} :
    p ∈ namedIn location (storedParameters url headers) ↔
      p ∈ storedParameters url headers ∧ (parameterKey p).1 = location.toList ∧
        (parameterKey p).2 ≠ [] := by
  unfold namedIn
  rw [List.mem_filter, Bool.and_eq_true, decide_eq_true_eq, Bool.not_eq_true',
    List.isEmpty_eq_false_iff]

theorem captured_key (location : String) (entry : Str × Str) :
    parameterKey (capturedMembers location entry) = (location.toList, entry.1) :=
  (captured_members location entry).key

theorem captured_text (location : String) (entry : Str × Str) :
    defaultText (capturedMembers location entry) = entry.2 :=
  (captured_members location entry).defaultText

/-- A query pair that is sent was captured. -/
theorem mem_of_mem_sentQuery {entry : Str × Str}
    (h : entry ∈ sentQuery (storedParameters url headers)) :
    entry ∈ url.queryPairs ∧ entry.1 ≠ [] ∧
      capturedMembers "query" entry ∈ storedParameters url headers := by
  rcases List.mem_map.mp h with ⟨p, hp, rfl⟩
  rcases mem_namedIn.mp hp with ⟨hstored, hlocation, hname⟩
  have hne : "header".toList ≠ "query".toList := by decide
  rcases List.mem_append.mp (mem_storedParameters hstored) with hp' | hp' <;>
    rcases List.mem_map.mp hp' with ⟨e, he, rfl⟩ <;> rw [captured_key] at hlocation hname ⊢
  · rw [captured_text]
    exact ⟨he, hname, hstored⟩
  · exact absurd hlocation hne

/-- A header that is sent was captured. -/
theorem mem_of_mem_sentHeaders {name value : Str}
    (h : ⟨name, value⟩ ∈ sentHeaders (storedParameters url headers)) :
    (name, value) ∈ plainHeaders headers ∧ name ≠ [] ∧
      capturedMembers "header" (name, value) ∈ storedParameters url headers := by
  rcases List.mem_map.mp h with ⟨p, hp, heq⟩
  rcases mem_namedIn.mp hp with ⟨hstored, hlocation, hname⟩
  have hne : "query".toList ≠ "header".toList := by decide
  rcases List.mem_append.mp (mem_storedParameters hstored) with hp' | hp' <;>
    rcases List.mem_map.mp hp' with ⟨e, he, rfl⟩ <;> rw [captured_key] at hlocation hname heq
  · exact absurd hlocation hne
  · rw [captured_text] at heq
    cases heq
    exact ⟨he, hname, hstored⟩

theorem mem_sentQuery {entry : Str × Str}
    (h : capturedMembers "query" entry ∈ storedParameters url headers) (hname : entry.1 ≠ []) :
    entry ∈ sentQuery (storedParameters url headers) := by
  refine List.mem_map.mpr ⟨_, mem_namedIn.mpr ⟨h, ?_, ?_⟩, ?_⟩
  · rw [captured_key]
  · rw [captured_key]
    exact hname
  · rw [captured_key, captured_text]

theorem mem_sentHeaders {entry : Str × Str}
    (h : capturedMembers "header" entry ∈ storedParameters url headers) (hname : entry.1 ≠ []) :
    ⟨entry.1, entry.2⟩ ∈ sentHeaders (storedParameters url headers) := by
  refine List.mem_map.mpr ⟨_, mem_namedIn.mpr ⟨h, ?_, ?_⟩, ?_⟩
  · rw [captured_key]
  · rw [captured_key]
    exact hname
  · rw [captured_key, captured_text]

/-- The query is sent without repeated names. -/
theorem sentQuery_nodup : ((sentQuery (storedParameters url headers)).map Prod.fst).Nodup := by
  have hnodup : ((namedIn "query" (storedParameters url headers)).map parameterKey).Nodup :=
    (storedParameters_nodup).sublist
      (List.filter_sublist.map parameterKey)
  unfold sentQuery
  rw [List.map_map]
  have hsplit : (namedIn "query" (storedParameters url headers)).map parameterKey =
      ((namedIn "query" (storedParameters url headers)).map
        (fun p => (parameterKey p).2)).map (fun name => ("query".toList, name)) := by
    rw [List.map_map]
    refine List.map_congr_left (fun p hp => ?_)
    exact Prod.ext (mem_namedIn.mp hp).2.1 rfl
  rw [hsplit] at hnodup
  exact hnodup.of_map

/-- The query is sent as it was exactly when its names differ and none of them
    is empty. -/
theorem sentQuery_perm :
    (sentQuery (storedParameters url headers)).Perm url.queryPairs ↔
      (url.queryPairs.map Prod.fst).Nodup ∧ [] ∉ url.queryPairs.map Prod.fst := by
  constructor
  · intro hperm
    refine ⟨(hperm.map Prod.fst).nodup_iff.mp sentQuery_nodup, fun hempty => ?_⟩
    rcases List.mem_map.mp hempty with ⟨entry, hentry, hname⟩
    exact (mem_of_mem_sentQuery (hperm.mem_iff.mpr hentry)).2.1 hname
  · rintro ⟨hnodup, hempty⟩
    refine (List.perm_ext_iff_of_nodup sentQuery_nodup.of_map hnodup.of_map).mpr (fun entry => ?_)
    refine ⟨fun h => (mem_of_mem_sentQuery h).1, fun h => ?_⟩
    have hname : entry.1 ≠ [] := fun he => hempty (he ▸ List.mem_map_of_mem h)
    -- The stored parameter of its name is the pair itself.
    rcases exists_storedParameter
      (List.mem_append_left _ (List.mem_map_of_mem h)) with ⟨q, hq, hkey⟩
    rw [captured_key] at hkey
    have hne : "header".toList ≠ "query".toList := by decide
    rcases List.mem_append.mp (mem_storedParameters hq) with hq' | hq' <;>
      rcases List.mem_map.mp hq' with ⟨e, he, rfl⟩ <;> rw [captured_key] at hkey
    · have hsame : e = entry := List.inj_on_of_nodup_map hnodup he h (Prod.ext_iff.mp hkey).2
      rw [← hsame]
      exact mem_sentQuery hq (hsame ▸ hname)
    · exact absurd (Prod.ext_iff.mp hkey).1 hne

/-- All headers are sent exactly when they have names and those of one name
    have one value. -/
theorem sentHeaders_all :
    (∀ h ∈ plainHeaders headers, ⟨h.1, h.2⟩ ∈ sentHeaders (storedParameters url headers)) ↔
      ∀ h ∈ plainHeaders headers, h.1 ≠ [] ∧ ∀ h' ∈ plainHeaders headers, h'.1 = h.1 → h'.2 = h.2 := by
  constructor
  · intro hall h hh
    have hsent := mem_of_mem_sentHeaders (hall h hh)
    refine ⟨hsent.2.1, fun h' hh' hname => ?_⟩
    have hsent' := mem_of_mem_sentHeaders (hall h' hh')
    -- Two stored parameters of one key are the same.
    have hsame := List.inj_on_of_nodup_map (storedParameters_nodup)
      hsent'.2.2 hsent.2.2 (by rw [captured_key, captured_key, hname])
    have htext := congrArg defaultText hsame
    rw [captured_text, captured_text] at htext
    exact htext
  · intro hall h hh
    rcases exists_storedParameter
      (List.mem_append_right _ (List.mem_map_of_mem hh)) with ⟨q, hq, hkey⟩
    rw [captured_key] at hkey
    have hne : "query".toList ≠ "header".toList := by decide
    rcases List.mem_append.mp (mem_storedParameters hq) with hq' | hq' <;>
      rcases List.mem_map.mp hq' with ⟨e, he, rfl⟩ <;> rw [captured_key] at hkey
    · exact absurd (Prod.ext_iff.mp hkey).1 hne
    · have hname := (Prod.ext_iff.mp hkey).2
      have hsame : e = h := Prod.ext hname ((hall h hh).2 e he hname)
      rw [← hsame]
      exact mem_sentHeaders hq (hsame ▸ (hall h hh).1)

end

end Kahea
