import Kahea.Base.Lists
import Kahea.Base.Search
import Kahea.Core.Reference
import Kahea.Ingest.Index

/-!
# Selecting Listed Operations

Whether an operation that is listed can be selected again by what the list says
of it: by its handle, by its method and path, or by its id.

A selector is compared with the handle, the id and the method and path of every
operation, and has to mean exactly one of them. So each listed selector means
its own operation, and the question is whether it means another one as well.
For a list the answer is `filter_eq_singleton_iff`; the conditions are on pairs
of operations of the document.

## Main definitions

* `OperationEntry.Distinct`, `AsyncApiOperation.Distinct`: Two operations that
  are not confused.

## Theorems

* `resolveOperation_iff`, `resolveAsyncapiOperation_iff`: What a selector resolves to.
* `listed_resolves_iff`: When every listed operation is selected by its selectors.
-/

namespace Kahea

/-! ### OpenAPI -/

/-- The operations of a source, in the order of the document. -/
def OpenApiSource.entries (source : OpenApiSource) : List OperationEntry :=
  operationEntries (((source.document.get "paths").bind Value.asObject).getD [])

namespace OperationEntry

variable (lib : Crates) (source : OpenApiSource)

/-- An operation as it is resolved. -/
def definition (e : OperationEntry) : OperationDefinition :=
  { handle := e.handle lib source.sourceFingerprint
    method := e.methodUpper
    path := e.path
    operationId := e.operationId
    risk := .forHttpMethod e.methodUpper
    pathItem := e.pathItem
    operation := e.operation
    path_slash := normalizePath_slash e.rawPath }

/-- Whether a selector means an operation. -/
def selectedBy (selector : Str) (e : OperationEntry) : Bool :=
  decide (e.handle lib source.sourceFingerprint = selector ∨
    (e.operationId ≠ [] ∧ e.operationId = selector) ∨ eqIgnoreCase e.methodPath selector = true)

/-- Two operations that no selector of the first confuses: other handles, the
    id of the second neither the handle nor the method and path of the first,
    and their methods and paths different in more than the case of letters. -/
structure Distinct (a b : OperationEntry) : Prop where
  handle : b.handle lib source.sourceFingerprint ≠ a.handle lib source.sourceFingerprint
  idHandle : b.operationId ≠ a.handle lib source.sourceFingerprint
  idMethodPath : b.operationId ≠ a.methodPath
  methodPath : eqIgnoreCase b.methodPath a.methodPath = false

end OperationEntry

section

variable {lib : Crates} {source : OpenApiSource}

theorem collectOperations_entries {absent : List AbsentCapability}
    {result : List IndexedOperation × List AbsentCapability}
    (h : collectOperations lib source.document source.sourceFingerprint absent = .ok result) :
    result.1 = source.entries.map (OperationEntry.indexed lib source.sourceFingerprint) := by
  unfold collectOperations at h
  unfold OpenApiSource.entries
  cases hpaths : (source.document.get "paths").bind Value.asObject with
  | none =>
      rw [hpaths] at h
      dsimp only at h
      split_ifs at h
      cases h
      rfl
  | some paths =>
      rw [hpaths] at h
      cases h
      rfl

theorem matchOperation_eq (selector path method : Str) (item : List (Str × Value)) :
    matchOperation lib source selector path item method =
      ((((lookup method item).bind Value.asObject).map
        (OperationEntry.mk path item method)).filter
          (OperationEntry.selectedBy lib source selector)).map
            (OperationEntry.definition lib source) := by
  unfold matchOperation
  cases (lookup method item).bind Value.asObject with
  | none => rfl
  | some operation =>
      by_cases hselected : OperationEntry.selectedBy lib source selector
          ⟨path, item, method, operation⟩ = true
      · simp only [Option.map_some, Option.filter_some, if_pos hselected]
        exact if_pos (of_decide_eq_true hselected)
      · simp only [Option.map_some, Option.filter_some, if_neg hselected]
        exact if_neg (fun h => hselected (decide_eq_true h))

/-- What a selector means is a part of the operations of the document. -/
theorem matchingOperations_eq (selector : Str) (paths : List (Str × Value)) :
    matchingOperations lib source selector paths =
      ((operationEntries paths).filter (OperationEntry.selectedBy lib source selector)).map
        (OperationEntry.definition lib source) := by
  unfold matchingOperations operationEntries
  rw [List.filter_flatMap, List.map_flatMap]
  congr 1
  funext entry
  cases entry.2.asObject with
  | none => rfl
  | some item =>
      dsimp only
      rw [List.filter_filterMap, List.map_filterMap]
      congr 1
      funext method
      exact matchOperation_eq selector entry.1 method item

/-- A selector resolves to the only operation it means. -/
theorem resolveOperation_ok_iff {selector : Str} {o : OperationDefinition} :
    resolveOperation lib source selector = .ok o ↔
      ∃ e, source.entries.filter (OperationEntry.selectedBy lib source (trim selector)) = [e] ∧
        e.definition lib source = o := by
  unfold resolveOperation OpenApiSource.entries
  cases (source.document.get "paths").bind Value.asObject with
  | none =>
      constructor
      · nofun
      · rintro ⟨e, he, _⟩
        cases he
  | some paths =>
      dsimp only [Option.getD_some]
      rw [matchingOperations_eq]
      -- The one match is the operation.
      constructor
      · intro h
        split at h
        · cases h
        · rename_i b hb
          cases h
          exact List.map_eq_singleton_iff.mp hb
        · cases h
      · rintro ⟨e, he, rfl⟩
        rw [he]
        rfl

/-- A selector that means an operation resolves to it when it means no other
    one. -/
theorem resolveOperation_iff {selector : Str} {i : Nat} {e : OperationEntry}
    (hi : source.entries[i]? = some e)
    (hself : e.selectedBy lib source (trim selector) = true) :
    resolveOperation lib source selector = .ok (e.definition lib source) ↔
      ∀ j other, source.entries[j]? = some other → j ≠ i →
        other.selectedBy lib source (trim selector) = false := by
  rw [← filter_eq_singleton_iff hi hself, resolveOperation_ok_iff]
  constructor
  · rintro ⟨b, hb, _⟩
    exact ⟨b, hb⟩
  · rintro ⟨b, hb⟩
    exact ⟨b, hb, by rw [filter_eq_singleton hi hself hb]⟩

end

/-! ### The selectors of a listed operation -/

section

variable {lib : Crates} {source : OpenApiSource}

theorem mem_entries {e : OperationEntry} (h : e ∈ source.entries) : e.method ∈ HTTP_METHODS := by
  unfold OpenApiSource.entries operationEntries at h
  rcases List.mem_flatMap.mp h with ⟨entry, _, hin⟩
  cases hitem : entry.2.asObject with
  | none =>
      rw [hitem] at hin
      cases hin
  | some item =>
      rw [hitem] at hin
      rcases List.mem_filterMap.mp hin with ⟨method, hmethod, hmap⟩
      rcases Option.map_eq_some_iff.mp hmap with ⟨operation, _, rfl⟩
      exact hmethod

theorem trimmed_normalizePath (path : Str) : Trimmed (normalizePath path) := by
  have htrimmed := trimmed_trim path
  unfold normalizePath
  dsimp only
  -- A slash is put before a path that has none.
  by_cases hslash : startsWith "/" (trim path) = true
  · rw [if_pos hslash]
    exact htrimmed
  · rw [if_neg hslash]
    constructor
    · intro c hc
      cases hc
      decide
    · intro c hc
      rw [List.getLast?_cons, Option.some.injEq] at hc
      cases hlast : (trim path).getLast? with
      | none =>
          rw [hlast] at hc
          rw [← hc]
          decide
      | some d =>
          rw [hlast] at hc
          rw [← hc]
          exact htrimmed.2 d hlast

/-- The names of the methods begin with a letter, and not as a handle does. -/
theorem upper_methods : HTTP_METHODS.all (fun method =>
    (upper method).head?.any (fun c => !isWhiteSpace c) &&
      (decide (3 ≤ (upper method).length) &&
        decide ((lower (upper method)).take 3 ≠ "op:".toList))) = true := by decide

theorem trimmed_methodPath {e : OperationEntry} (h : e.method ∈ HTTP_METHODS) :
    Trimmed e.methodPath := by
  have hmethod := List.all_eq_true.mp upper_methods e.method h
  rw [Bool.and_eq_true, Option.any_eq_true] at hmethod
  rcases hmethod.1 with ⟨first, hfirst, hletter⟩
  have hpath := normalizePath_slash e.rawPath
  constructor
  -- It begins with a letter of the method and ends as its path does.
  · intro c hc
    rw [OperationEntry.methodPath, List.head?_append, OperationEntry.methodUpper, hfirst,
      Option.some_or, Option.some.injEq] at hc
    rw [← hc]
    simpa using hletter
  · intro c hc
    refine (trimmed_normalizePath e.rawPath).2 c ?_
    have hne : e.path ≠ [] := by
      intro hnil
      rw [OperationEntry.path] at hnil
      rw [hnil] at hpath
      cases hpath
    rw [OperationEntry.methodPath, List.getLast?_append, List.getLast?_cons_of_ne_nil hne] at hc
    rw [← OperationEntry.path]
    rcases List.exists_cons_of_ne_nil hne with ⟨d, rest, hcons⟩
    rw [hcons, List.getLast?_cons, Option.some_or] at hc
    rw [hcons, List.getLast?_cons]
    exact hc

/-- A handle is not the method and path of an operation, in any case of
    letters. -/
theorem methodPath_ne_handle {e : OperationEntry} (h : e.method ∈ HTTP_METHODS)
    (other : OperationEntry) :
    eqIgnoreCase e.methodPath (other.handle lib source.sourceFingerprint) = false := by
  have hmethod := List.all_eq_true.mp upper_methods e.method h
  rw [Bool.and_eq_true, Bool.and_eq_true, decide_eq_true_eq, decide_eq_true_eq] at hmethod
  rcases hmethod.2 with ⟨hlength, hthree⟩
  rw [eqIgnoreCase, decide_eq_false_iff_not]
  intro heq
  have htake := congrArg (List.take 3) heq
  apply hthree
  rw [OperationEntry.methodPath, lower, List.map_append, List.take_append_of_le_length
    (by rw [List.length_map]; exact hlength)] at htake
  rw [lower, ← OperationEntry.methodUpper, htake]
  rfl

/-- The handle of an operation has no white space when hashes have none. -/
theorem trimmed_handle (hhash : ∀ data, ∀ c ∈ lib.blake3 data, isWhiteSpace c = false)
    (e : OperationEntry) : Trimmed (e.handle lib source.sourceFingerprint) := by
  have hall : ∀ c ∈ e.handle lib source.sourceFingerprint, isWhiteSpace c = false := by
    intro c hc
    rcases List.mem_append.mp hc with hc | hc
    · have hkind : ("op".toList).all (fun c => !isWhiteSpace c) = true := by decide
      have hsolid := List.all_eq_true.mp hkind c hc
      rw [Bool.not_eq_true'] at hsolid
      exact hsolid
    · rcases List.mem_cons.mp hc with rfl | hc
      · decide
      · exact hhash _ c (List.mem_of_mem_take hc)
  exact ⟨fun c hc => hall c (List.mem_of_head? hc), fun c hc => hall c (List.mem_of_getLast? hc)⟩

/-- The selectors of one operation mean another one exactly when the two are
    not distinct. -/
theorem distinct_iff {a b : OperationEntry} (ha : a.method ∈ HTTP_METHODS)
    (hb : b.method ∈ HTTP_METHODS) :
    OperationEntry.Distinct lib source a b ↔
      b.selectedBy lib source (a.handle lib source.sourceFingerprint) = false ∧
        b.selectedBy lib source a.methodPath = false := by
  have hhandle : a.handle lib source.sourceFingerprint ≠ [] := List.cons_ne_nil _ _
  -- A handle is no method with a path, and the other way round.
  have hcross : b.handle lib source.sourceFingerprint ≠ a.methodPath := by
    intro heq
    have hsame : eqIgnoreCase a.methodPath (b.handle lib source.sourceFingerprint) = false :=
      methodPath_ne_handle ha b
    rw [heq, eqIgnoreCase, decide_eq_false_iff_not] at hsame
    exact hsame rfl
  have hne : a.methodPath ≠ [] := List.append_ne_nil_of_right_ne_nil _ (List.cons_ne_nil _ _)
  have hcase : eqIgnoreCase b.methodPath (a.handle lib source.sourceFingerprint) = false :=
    methodPath_ne_handle hb a
  simp only [OperationEntry.selectedBy, decide_eq_false_iff_not, not_or, not_and,
    Bool.not_eq_true]
  constructor
  · rintro ⟨h1, h2, h3, h4⟩
    exact ⟨⟨h1, fun _ => h2, hcase⟩, hcross, fun _ => h3, h4⟩
  -- Empty texts are excluded, so the two tests are those of the selector.
  · rintro ⟨⟨h1, h2, _⟩, _, h3, h4⟩
    refine ⟨h1, fun heq => ?_, fun heq => ?_, h4⟩
    · exact h2 (by rw [heq]; exact hhandle) heq
    · exact h3 (by rw [heq]; exact hne) heq

end

/-! ### AsyncAPI -/

/-- Two operations that no selector of the first confuses: neither the handle
    of the second nor its id is one of them, nor what comes before the first
    `#` of that id. -/
structure AsyncApiOperation.Distinct (a b : AsyncApiOperation) : Prop where
  handle : b.handle ≠ a.handle
  idHandle : b.operationId ≠ a.handle
  handleId : b.handle ≠ a.operationId
  id : b.operationId ≠ a.operationId
  base : ∀ base variant, splitOnce "#" b.operationId = some (base, variant) →
    base ≠ a.handle ∧ base ≠ a.operationId

theorem AsyncApiOperation.selectedBy_false_iff {o : AsyncApiOperation} {selector : Str} :
    o.selectedBy selector = false ↔ o.handle ≠ selector ∧ o.operationId ≠ selector ∧
      ∀ base variant, splitOnce "#" o.operationId = some (base, variant) → base ≠ selector := by
  unfold AsyncApiOperation.selectedBy
  cases hsplit : splitOnce "#" o.operationId with
  | none => simp
  | some parts =>
      rcases parts with ⟨base, variant⟩
      simp only [Option.any_some, Bool.or_eq_false_iff, decide_eq_false_iff_not,
        Option.some.injEq, Prod.mk.injEq]
      constructor
      · rintro ⟨⟨h1, h2⟩, h3⟩
        refine ⟨h1, h2, fun b v hb => ?_⟩
        rw [← hb.1]
        exact h3
      · rintro ⟨h1, h2, h3⟩
        exact ⟨⟨h1, h2⟩, h3 base variant ⟨rfl, rfl⟩⟩

theorem AsyncApiOperation.distinct_iff {a b : AsyncApiOperation} :
    a.Distinct b ↔ b.selectedBy a.handle = false ∧ b.selectedBy a.operationId = false := by
  rw [selectedBy_false_iff, selectedBy_false_iff]
  constructor
  · intro h
    exact ⟨⟨h.handle, h.idHandle, fun base variant hsplit => (h.base base variant hsplit).1⟩,
      h.handleId, h.id, fun base variant hsplit => (h.base base variant hsplit).2⟩
  · rintro ⟨⟨h1, h2, h3⟩, h4, h5, h6⟩
    exact ⟨h1, h2, h4, h5, fun base variant hsplit =>
      ⟨h3 base variant hsplit, h6 base variant hsplit⟩⟩

/-- A selector that means an operation resolves to it when it means no other
    one. -/
theorem resolveAsyncapiOperation_iff {lib : Crates} {source : AsyncApiSource}
    {operations : List AsyncApiOperation}
    (hoperations : collectAsyncapiOperations lib source = .ok operations) {selector : Str}
    {i : Nat} {o : AsyncApiOperation} (hi : operations[i]? = some o)
    (hself : o.selectedBy selector = true) :
    resolveAsyncapiOperation lib source selector = .ok o ↔
      ∀ j other, operations[j]? = some other → j ≠ i → other.selectedBy selector = false := by
  rw [← filter_eq_singleton_iff (p := fun o => o.selectedBy selector) hi hself]
  unfold resolveAsyncapiOperation
  rw [hoperations]
  dsimp only [bind, Except.bind]
  constructor
  · intro h
    split at h
    · cases h
    · rename_i b hb
      exact ⟨b, hb⟩
    · cases h
  · rintro ⟨b, hb⟩
    rw [hb, filter_eq_singleton hi hself hb]

/-! ### Listed operations -/

/-- Every two operations of a list at different places are distinct. -/
def AllDistinct {α : Type} (distinct : α → α → Prop) (l : List α) : Prop :=
  ∀ (i j : Nat) (a b : α), l[i]? = some a → l[j]? = some b → j ≠ i → distinct a b

theorem allDistinct_pair {α : Type} {distinct : α → α → Prop} {a b : α} :
    AllDistinct distinct [a, b] ↔ distinct a b ∧ distinct b a := by
  constructor
  · intro h
    exact ⟨h 0 1 a b rfl rfl Nat.one_ne_zero, h 1 0 b a rfl rfl Nat.zero_ne_one⟩
  · rintro ⟨hab, hba⟩ i j c d hc hd hij
    -- Of the four pairs of places, two are of different places.
    match i, j, hc, hd with
    | 0, 0, _, _ => exact absurd rfl hij
    | 0, 1, rfl, rfl => exact hab
    | 1, 0, rfl, rfl => exact hba
    | 1, 1, _, _ => exact absurd rfl hij

/-- What is listed is selected again by what the list says of it exactly when
    no two operations of the document are confused. -/
theorem listed_resolves_iff (lib : Crates)
    (hhash : ∀ data, ∀ c ∈ lib.blake3 data, isWhiteSpace c = false) :
    (∀ (source : OpenApiSource) (operations : List IndexedOperation)
        (absent absent' : List AbsentCapability),
      collectOperations lib source.document source.sourceFingerprint absent =
          .ok (operations, absent') →
        ((∀ (i : Nat) (listed : IndexedOperation), operations[i]? = some listed →
            ∃ e, source.entries[i]? = some e ∧
            listed = e.indexed lib source.sourceFingerprint ∧
            resolveOperation lib source listed.handle = .ok (e.definition lib source) ∧
            resolveOperation lib source (listed.method ++ ' ' :: listed.path) =
              .ok (e.definition lib source)) ↔
          AllDistinct (OperationEntry.Distinct lib source) source.entries)) ∧
    ∀ (source : AsyncApiSource) (operations : List AsyncApiOperation),
      collectAsyncapiOperations lib source = .ok operations →
        ((∀ o ∈ operations, resolveAsyncapiOperation lib source o.handle = .ok o ∧
            resolveAsyncapiOperation lib source o.operationId = .ok o) ↔
          AllDistinct AsyncApiOperation.Distinct operations) := by
  constructor
  · intro source operations absent absent' hcollect
    have hoperations := collectOperations_entries hcollect
    dsimp only at hoperations
    -- Each operation is meant by its own selectors.
    have hhandle (e : OperationEntry) :
        e.selectedBy lib source (trim (e.handle lib source.sourceFingerprint)) = true := by
      rw [(trimmed_handle hhash e).trim_eq]
      exact decide_eq_true (Or.inl rfl)
    have hmethodPath {e : OperationEntry} (he : e ∈ source.entries) :
        e.selectedBy lib source (trim e.methodPath) = true := by
      rw [(trimmed_methodPath (mem_entries he)).trim_eq]
      exact decide_eq_true (Or.inr (Or.inr (decide_eq_true rfl)))
    constructor
    · intro hall i j a b hi hj hij
      have ha := List.mem_of_getElem? hi
      have hlisted : operations[i]? = some (a.indexed lib source.sourceFingerprint) := by
        rw [hoperations, List.getElem?_map, hi]
        rfl
      rcases hall i _ hlisted with ⟨e, he, _, hone, htwo⟩
      rw [hi] at he
      cases he
      have hfirst := (resolveOperation_iff hi (hhandle a)).mp hone j b hj hij
      have hsecond := (resolveOperation_iff hi (hmethodPath ha)).mp htwo j b hj hij
      rw [(trimmed_handle hhash a).trim_eq] at hfirst
      rw [(trimmed_methodPath (mem_entries ha)).trim_eq] at hsecond
      exact (distinct_iff (mem_entries ha) (mem_entries (List.mem_of_getElem? hj))).mpr
        ⟨hfirst, hsecond⟩
    · intro hdistinct i listed hi
      rw [hoperations, List.getElem?_map] at hi
      rcases Option.map_eq_some_iff.mp hi with ⟨a, ha, rfl⟩
      have hmem := List.mem_of_getElem? ha
      refine ⟨a, ha, rfl, (resolveOperation_iff ha (hhandle a)).mpr (fun j b hj hij => ?_),
        (resolveOperation_iff ha (hmethodPath hmem)).mpr (fun j b hj hij => ?_)⟩
      · rw [(trimmed_handle hhash a).trim_eq]
        exact ((distinct_iff (mem_entries hmem) (mem_entries (List.mem_of_getElem? hj))).mp
          (hdistinct i j a b ha hj hij)).1
      · rw [(trimmed_methodPath (mem_entries hmem)).trim_eq]
        exact ((distinct_iff (mem_entries hmem) (mem_entries (List.mem_of_getElem? hj))).mp
          (hdistinct i j a b ha hj hij)).2
  · intro source operations hcollect
    have hhandle (o : AsyncApiOperation) : o.selectedBy o.handle = true := by
      simp [AsyncApiOperation.selectedBy]
    have hid (o : AsyncApiOperation) : o.selectedBy o.operationId = true := by
      simp [AsyncApiOperation.selectedBy]
    constructor
    · intro hall i j a b hi hj hij
      rcases hall a (List.mem_of_getElem? hi) with ⟨hone, htwo⟩
      exact AsyncApiOperation.distinct_iff.mpr
        ⟨(resolveAsyncapiOperation_iff hcollect hi (hhandle a)).mp hone j b hj hij,
          (resolveAsyncapiOperation_iff hcollect hi (hid a)).mp htwo j b hj hij⟩
    · intro hdistinct o ho
      rcases List.mem_iff_getElem?.mp ho with ⟨i, hi⟩
      exact ⟨(resolveAsyncapiOperation_iff hcollect hi (hhandle o)).mpr (fun j b hj hij =>
          (AsyncApiOperation.distinct_iff.mp (hdistinct i j o b hi hj hij)).1),
        (resolveAsyncapiOperation_iff hcollect hi (hid o)).mpr (fun j b hj hij =>
          (AsyncApiOperation.distinct_iff.mp (hdistinct i j o b hi hj hij)).2)⟩

theorem referenceCrates_blake3 (data : List UInt8) :
    ∀ c ∈ referenceCrates.blake3 data, isWhiteSpace c = false := by
  intro c hc
  rcases exists_hexDigit hc with ⟨n, hn, rfl⟩
  have hdigits : (List.range 16).all (fun n => !isWhiteSpace (hexDigit n)) = true := by decide
  have hsolid := List.all_eq_true.mp hdigits n (List.mem_range.mpr hn)
  rw [Bool.not_eq_true'] at hsolid
  exact hsolid

/-- A document with one operation for each of the paths. -/
def pathsSource (paths : List String) : OpenApiSource :=
  { document := jsonObject [("paths", jsonObject (paths.map (fun path =>
      (path, jsonObject [("get", jsonObject [])]))))]
    sourceFingerprint := "b3:paths"
    sourceHandle := "src:paths" }

/-- A document with two operations. -/
def catalogSource : OpenApiSource :=
  { document := jsonObject [("paths", jsonObject [
      ("/items", jsonObject [("get", jsonObject [("operationId", .string "listItems")])]),
      ("/Items/latest", jsonObject [("get", jsonObject [("operationId", .string "items")])])])]
    sourceFingerprint := "b3:c"
    sourceHandle := "src:c" }

/-- A document with an operation of two messages, which is listed twice. -/
def orderSource : AsyncApiSource :=
  { document := jsonObject [("asyncapi", .string "3.0.0"), ("operations", jsonObject [
      ("order", jsonObject [("action", .string "send"),
        ("channel", jsonObject [("address", .string "/orders")]),
        ("messages", .array [jsonObject [("name", .string "placed")],
          jsonObject [("name", .string "shipped")]])])])]
    sourceFingerprint := "b3:o"
    sourceHandle := "src:o"
    version := "3.0.0" }

/-- The two operations of the catalog, as they are compared: their handles,
    ids, and methods and paths. -/
theorem catalog_texts : catalogSource.entries.map (fun e =>
    (e.handle referenceCrates catalogSource.sourceFingerprint, e.operationId, e.methodPath)) =
      [("op:1df8926407ff".toList, "listItems".toList, "GET /items".toList),
        ("op:6aac00184440".toList, "items".toList, "GET /Items/latest".toList)] := by
  decide +kernel

/-- The two operations of the orders, as they are compared. -/
theorem order_texts : (collectAsyncapiOperations referenceCrates orderSource).toOption.map
    (List.map (fun o => (o.handle, o.operationId))) =
      some [("op:af2d22a4c290".toList, "order#placed-1".toList),
        ("op:283ef2b614be".toList, "order#shipped-2".toList)] := by
  decide +kernel

theorem distinct_catalog : AllDistinct (OperationEntry.Distinct referenceCrates catalogSource)
    catalogSource.entries := by
  have htexts := catalog_texts
  generalize catalogSource.entries = entries at htexts
  rcases List.map_eq_cons_iff.mp htexts with ⟨a, tail, rfl, ha, htail⟩
  rcases List.map_eq_cons_iff.mp htail with ⟨b, rest, rfl, hb, hrest⟩
  rw [List.map_eq_nil_iff.mp hrest]
  simp only [Prod.mk.injEq] at ha hb
  rcases ha with ⟨hahandle, haid, hapath⟩
  rcases hb with ⟨hbhandle, hbid, hbpath⟩
  refine allDistinct_pair.mpr ⟨⟨?_, ?_, ?_, ?_⟩, ⟨?_, ?_, ?_, ?_⟩⟩ <;>
    simp only [hahandle, haid, hapath, hbhandle, hbid, hbpath] <;> decide

theorem distinct_orders {operations : List AsyncApiOperation}
    (h : collectAsyncapiOperations referenceCrates orderSource = .ok operations) :
    AllDistinct AsyncApiOperation.Distinct operations := by
  have htexts := order_texts
  rw [h] at htexts
  rcases List.map_eq_cons_iff.mp (Option.some.inj htexts) with ⟨a, tail, rfl, ha, htail⟩
  rcases List.map_eq_cons_iff.mp htail with ⟨b, rest, rfl, hb, hrest⟩
  rw [List.map_eq_nil_iff.mp hrest]
  simp only [Prod.mk.injEq] at ha hb
  rcases ha with ⟨hahandle, haid⟩
  rcases hb with ⟨hbhandle, hbid⟩
  refine allDistinct_pair.mpr ⟨AsyncApiOperation.distinct_iff.mpr ⟨?_, ?_⟩,
      AsyncApiOperation.distinct_iff.mpr ⟨?_, ?_⟩⟩ <;>
    simp only [AsyncApiOperation.selectedBy, hahandle, haid, hbhandle, hbid] <;> decide

/-- Each of two operations is selected by its handle and its method and path,
    and each of two messages by its handle and its id. -/
theorem listed_resolves_pairs :
    (∃ a b, catalogSource.entries = [a, b] ∧ ∀ e ∈ [a, b],
      resolveOperation referenceCrates catalogSource
          (e.handle referenceCrates catalogSource.sourceFingerprint) =
        .ok (e.definition referenceCrates catalogSource) ∧
      resolveOperation referenceCrates catalogSource e.methodPath =
        .ok (e.definition referenceCrates catalogSource)) ∧
    ∃ a b, collectAsyncapiOperations referenceCrates orderSource = .ok [a, b] ∧ ∀ o ∈ [a, b],
      resolveAsyncapiOperation referenceCrates orderSource o.handle = .ok o ∧
      resolveAsyncapiOperation referenceCrates orderSource o.operationId = .ok o := by
  have hall := listed_resolves_iff referenceCrates referenceCrates_blake3
  constructor
  -- Two operations of one description.
  · have hlisted := (hall.1 catalogSource _ [] _ rfl).mpr distinct_catalog
    refine ⟨_, _, rfl, fun e he => ?_⟩
    rcases List.mem_iff_getElem?.mp he with ⟨i, hi⟩
    rcases hlisted i (e.indexed referenceCrates catalogSource.sourceFingerprint) (by
        rw [List.getElem?_map]
        exact congrArg (Option.map _) hi) with ⟨d, hd, _, hone, htwo⟩
    cases (hi.symm.trans hd)
    exact ⟨hone, htwo⟩
  -- Two operations of an AsyncAPI document.
  · rcases exists_ok_of_toOption order_texts with ⟨operations, hcollect, htexts⟩
    rcases List.map_eq_cons_iff.mp htexts with ⟨a, tail, rfl, _, htail⟩
    rcases List.map_eq_cons_iff.mp htail with ⟨b, rest, rfl, _, hrest⟩
    rw [List.map_eq_nil_iff.mp hrest] at hcollect
    exact ⟨a, b, hcollect, (hall.2 orderSource _ hcollect).mpr (distinct_orders hcollect)⟩

/-- Two paths that differ in the case of a letter make each other
    unselectable by method and path. -/
theorem listed_resolves_ambiguous :
    ¬ ∀ (lib : Crates), (∀ data, ∀ c ∈ lib.blake3 data, isWhiteSpace c = false) →
      ∀ (source : OpenApiSource) (operations : List IndexedOperation)
        (absent absent' : List AbsentCapability),
      collectOperations lib source.document source.sourceFingerprint absent =
          .ok (operations, absent') →
        ∀ (i : Nat) (listed : IndexedOperation), operations[i]? = some listed →
          ∃ e, source.entries[i]? = some e ∧ resolveOperation lib source (listed.method ++ ' ' :: listed.path) =
            .ok (e.definition lib source) := by
  intro h
  rcases h referenceCrates referenceCrates_blake3 (pathsSource ["/Items", "/items"]) _ [] _ rfl 0 _
    rfl with ⟨e, he, hresolve⟩
  have hself : e.selectedBy referenceCrates (pathsSource ["/Items", "/items"])
      (trim "GET /Items".toList) = true := by
    cases he
    exact decide_eq_true (Or.inr (Or.inr (by decide)))
  have hother := (resolveOperation_iff he hself).mp hresolve 1 _ rfl Nat.one_ne_zero
  rw [OperationEntry.selectedBy, decide_eq_false_iff_not] at hother
  exact hother (Or.inr (Or.inr (by decide)))

end Kahea
