import Kahea.Ingest.Sources
import Kahea.Plan.References

/-!
# Documents under Construction

What captures change in a document.

A capture adds at most one operation, at a place that was free, one security
scheme, named by its number, and some absences. `apply_added` says so of one
capture and `importCaptures_grown` of an import.

A request that is put between others moves those behind it: their numbers and
the locations of their absences change, and nothing else does. Such captures are
alike. When an import is repeated with alike captures on a document that has one
more operation, the two documents stay beside each other as long as no capture
takes the place of that operation.

## Main definitions

* `Capture.place`: The path and the method of the operation a capture adds.
* `Capture.Added`, `Grown`: What one and what several captures change.
* `Capture.Alike`: Captures with different numbers and locations.
* `ImportDocument.Sound`: What every document under construction satisfies.
* `Beside`: A document and the same document with one more request.

## Theorems

* `apply_added`, `exists_apply`: Applying a capture.
* `importCaptures_grown`, `importCaptures_beside`: Applying several.
-/

namespace Kahea

/-! ### Members of objects -/

/-- The first member of a record. -/
theorem jsonObject_get_head (name : String) (v : Value) (rest : List (String × Value)) :
    (jsonObject ((name, v) :: rest)).get name.toList = some v := if_pos rfl

/-- A name the record does not have. -/
theorem jsonObject_get_none {members : List (String × Value)} {key : Str}
    (h : key ∉ members.map (fun m => m.1.toList)) : (jsonObject members).get key = none := by
  induction members with
  | nil => rfl
  | cons m rest ih =>
      rw [List.map_cons, List.mem_cons, not_or] at h
      exact (if_neg (Ne.symm h.1)).trans (ih h.2)

/-! ### The effect of a capture -/

/-- Nothing is known about the responses of a request. -/
def CapturedResponses.isTrivial : CapturedResponses → Bool
  | .unknown | .examples [] => true
  | _ => false

/-- The place and the operation a request is imported as, when it can be
    imported. A contract of responses is looked up under the path of the URL,
    which must then not be empty. -/
def requestOperation (lib : Crates) (request : CapturedRequest) (index : Nat)
    (responses : CapturedResponses) : Option ((Str × Str) × ImportedOperation) := do
  let (url, host) ← (capturedUrl lib request).toOption
  let method ← (capturedMethod request).toOption
  let body ← (capturedBody lib request).toOption
  let operation := capturedOperation request index url host body
  if responses.isTrivial then some ((capturedPath url, method), operation)
  else if url.path = [] then none
  else some ((capturedPath url, method), withResponses lib operation responses)

namespace Capture

/-- The place and the operation a capture adds. -/
def operation (lib : Crates) : Capture → Option ((Str × Str) × ImportedOperation)
  | .request captured index responses => requestOperation lib captured index responses
  | _ => none

/-- The path and the method of the operation a capture adds. -/
def place (lib : Crates) (c : Capture) : Option (Str × Str) := (c.operation lib).map Prod.fst

/-- What a capture records as absent from the document. -/
def absences : Capture → List CapturedAbsence
  | .request captured index responses =>
      credentialAbsences captured index ++ responseAbsences index responses
  | .absent absence => [absence]
  | .failed _ => []

/-- The security scheme a capture adds. -/
def scheme : Capture → Option (Str × Value)
  | .request captured index _ => captured.auth.map (fun (auth : CapturedAuth) =>
      (schemeName index, auth.scheme))
  | _ => none

/-- A capture that an empty document accepts. -/
def Importable (lib : Crates) : Capture → Prop
  | .request captured index responses => (requestOperation lib captured index responses).isSome
  | .absent _ => True
  | .failed _ => False

/-- What a capture changes in a document. -/
structure Added (lib : Crates) (c : Capture) (document document' : ImportDocument) : Prop where
  absent : document'.absent = document.absent ++ c.absences.map CapturedAbsence.toValue
  schemes : document'.securitySchemes =
    (c.scheme.map (fun e => insert e.1 e.2 document.securitySchemes)).getD document.securitySchemes
  others : ∀ path method, c.place lib ≠ some (path, method) →
    document'.operationAt path method = document.operationAt path method
  here : ∀ path method o, c.operation lib = some ((path, method), o) →
    document.operationAt path method = none ∧ document'.operationAt path method = some o

end Capture

/-- The operation set. -/
theorem operationAt_setOperation (document : ImportDocument) (path method : Str)
    (o : ImportedOperation) : (document.setOperation path method o).operationAt path method = some o := by
  unfold ImportDocument.operationAt ImportDocument.setOperation
  rw [lookup_insert_self, Option.bind_some, lookup_insert_self]

/-- Every other operation stays. -/
theorem operationAt_setOperation_of_ne (document : ImportDocument) {path method p m : Str}
    (o : ImportedOperation) (h : (p, m) ≠ (path, method)) :
    (document.setOperation path method o).operationAt p m = document.operationAt p m := by
  unfold ImportDocument.operationAt ImportDocument.setOperation
  by_cases hpath : p = path
  · subst hpath
    have hmethod : m ≠ method := fun hm => h (by rw [hm])
    rw [lookup_insert_self, Option.bind_some, lookup_insert_of_ne hmethod]
    cases lookup p document.paths <;> rfl
  · rw [lookup_insert_of_ne hpath]

theorem capturedPath_ne_nil (url : Url) : capturedPath url ≠ [] := by
  unfold capturedPath
  split_ifs with h
  · decide
  · exact h

/-- A method that is accepted is one of the methods, in lower case. -/
theorem capturedMethod_ok {request : CapturedRequest} {method : Str}
    (h : capturedMethod request = .ok method) :
    method = lower request.method ∧ method ∈ HTTP_METHODS := by
  unfold capturedMethod at h
  split_ifs at h with hmethod
  cases h
  exact ⟨rfl, List.contains_iff_mem.mp hmethod⟩

theorem capturedUrl_ok {lib : Crates} {request : CapturedRequest} {url : Url} {host : Str}
    (h : capturedUrl lib request = .ok (url, host)) : lib.parseUrl request.url = .ok url := by
  unfold capturedUrl at h
  cases hparse : lib.parseUrl request.url with
  | error e =>
      rw [hparse] at h
      cases h
  | ok parsed =>
      rw [hparse] at h
      dsimp only at h
      split_ifs at h
      cases hhost : parsed.host with
      | none =>
          rw [hhost] at h
          cases h
      | some name =>
          rw [hhost] at h
          cases h
          rfl

/-- No operation has an empty path. -/
def ImportDocument.Rooted (document : ImportDocument) : Prop :=
  ∀ method, document.operationAt [] method = none

section

variable {lib : Crates} {document document' : ImportDocument}

/-- Responses of which nothing is known change nothing. -/
theorem addResponses_trivial {request : CapturedRequest} {index : Nat} {responses : CapturedResponses}
    (h : responses.isTrivial = true) :
    addResponses lib document request index responses = .ok document ∧
      responseAbsences index responses = [] := by
  rcases responses with _ | response | _ | ⟨e, examples⟩
  · exact ⟨rfl, rfl⟩
  · cases h
  · exact ⟨rfl, rfl⟩
  · cases h

/-- Absences are appended in their order. -/
theorem foldl_pushAbsent (absences : List CapturedAbsence) (document : ImportDocument) :
    absences.foldl ImportDocument.pushAbsent document =
      { document with absent := document.absent ++ absences.map CapturedAbsence.toValue } := by
  induction absences generalizing document with
  | nil => rw [List.foldl_nil, List.map_nil, List.append_nil]
  | cons absence absences ih =>
      rw [List.foldl_cons, ih, ImportDocument.pushAbsent, List.map_cons, List.append_assoc]
      rfl

/-- Responses go with the operation at the path of the URL. -/
theorem addResponses_found {request : CapturedRequest} {index : Nat} {responses : CapturedResponses}
    (h : responses.isTrivial = false) {url : Url} (hurl : lib.parseUrl request.url = .ok url)
    {o : ImportedOperation} (ho : document.operationAt url.path (lower request.method) = some o) :
    addResponses lib document request index responses =
      .ok { document.setOperation url.path (lower request.method) (withResponses lib o responses) with
        absent := document.absent ++ (responseAbsences index responses).map CapturedAbsence.toValue } := by
  rcases responses with _ | response | _ | ⟨e, examples⟩
  · cases h
  · unfold addResponses
    simp only [hurl, ho, foldl_pushAbsent]
    rfl
  · cases h
  · unfold addResponses
    simp only [hurl, ho, foldl_pushAbsent]
    rfl

theorem addResponses_missing {request : CapturedRequest} {index : Nat} {responses : CapturedResponses}
    (h : responses.isTrivial = false) {url : Url} (hurl : lib.parseUrl request.url = .ok url)
    (ho : document.operationAt url.path (lower request.method) = none) :
    addResponses lib document request index responses = .error (.parse responses.notFound) := by
  rcases responses with _ | response | _ | ⟨e, examples⟩
  · cases h
  · unfold addResponses
    simp only [hurl, ho]
  · cases h
  · unfold addResponses
    simp only [hurl, ho]

/-- The document `addRequest` leaves. -/
def requested (document : ImportDocument) (request : CapturedRequest) (index : Nat) (url : Url)
    (host method : Str) (body : Option (Str × Value)) : ImportDocument :=
  { document with
    securitySchemes := (request.auth.map (fun (auth : CapturedAuth) =>
      insert (schemeName index) auth.scheme document.securitySchemes)).getD document.securitySchemes
    absent := document.absent ++ (credentialAbsences request index).map CapturedAbsence.toValue
  }.setOperation (capturedPath url) method (capturedOperation request index url host body)

/-- A request that is added, in its parts. -/
theorem addRequest_ok {request : CapturedRequest} {index : Nat} :
    addRequest lib document request index = .ok document' ↔
      ∃ url host method body, capturedUrl lib request = .ok (url, host) ∧
        capturedMethod request = .ok method ∧ capturedBody lib request = .ok body ∧
        document.operationAt (capturedPath url) method = none ∧
        document' = requested document request index url host method body := by
  unfold addRequest
  simp only [except_bind_ok]
  constructor
  · rintro ⟨⟨url, host⟩, hurl, method, hmethod, body, hbody, h⟩
    -- A place that is taken is an error.
    cases hfree : document.operationAt (capturedPath url) method with
    | some o =>
        rw [hfree, Option.isSome_some, if_pos rfl] at h
        cases h
    | none =>
        rw [hfree, Option.isSome_none, if_neg Bool.false_ne_true] at h
        cases h
        exact ⟨url, host, method, body, hurl, hmethod, hbody, hfree, rfl⟩
  · rintro ⟨url, host, method, body, hurl, hmethod, hbody, hfree, rfl⟩
    refine ⟨(url, host), hurl, method, hmethod, body, hbody, ?_⟩
    rw [hfree, Option.isSome_none, if_neg Bool.false_ne_true]
    rfl

/-- The operation of a request, in its parts. -/
theorem requestOperation_eq {request : CapturedRequest} {index : Nat} {responses : CapturedResponses}
    {url : Url} {host method : Str} {body : Option (Str × Value)}
    (hurl : capturedUrl lib request = .ok (url, host)) (hmethod : capturedMethod request = .ok method)
    (hbody : capturedBody lib request = .ok body) :
    requestOperation lib request index responses =
      if responses.isTrivial then
        some ((capturedPath url, method), capturedOperation request index url host body)
      else if url.path = [] then none
      else some ((capturedPath url, method),
        withResponses lib (capturedOperation request index url host body) responses) := by
  unfold requestOperation
  rw [hurl, hmethod, hbody]
  rfl

/-- A request adds its own operation only. -/
theorem requested_others {request : CapturedRequest} {index : Nat} {url : Url} {host method : Str}
    {body : Option (Str × Value)} {p m : Str} (h : (p, m) ≠ (capturedPath url, method)) :
    (requested document request index url host method body).operationAt p m =
      document.operationAt p m := by
  unfold requested
  rw [operationAt_setOperation_of_ne _ _ h]
  rfl

/-- The operation a request adds. -/
theorem requested_here (request : CapturedRequest) (index : Nat) (url : Url) (host method : Str)
    (body : Option (Str × Value)) :
    (requested document request index url host method body).operationAt (capturedPath url) method =
      some (capturedOperation request index url host body) := by
  unfold requested
  rw [operationAt_setOperation]

theorem scheme_request (request : CapturedRequest) (index : Nat) (responses : CapturedResponses)
    (schemes : List (Str × Value)) :
    ((Capture.request request index responses).scheme.map (fun e => insert e.1 e.2 schemes)).getD
      schemes = (request.auth.map (fun (auth : CapturedAuth) =>
        insert (schemeName index) auth.scheme schemes)).getD schemes := by
  have hscheme : (Capture.request request index responses).scheme =
      request.auth.map (fun (auth : CapturedAuth) => (schemeName index, auth.scheme)) := rfl
  rw [hscheme, Option.map_map]
  rfl

/-- A capture that is applied changes only what it adds. -/
theorem apply_added (hroot : document.Rooted) {c : Capture}
    (h : c.apply lib document = .ok document') : c.Importable lib ∧ c.Added lib document document' := by
  cases c with
  | failed e => cases h
  | absent a =>
      cases h
      exact ⟨trivial, ⟨rfl, rfl, fun _ _ _ => rfl, fun _ _ _ ho => nomatch ho⟩⟩
  | request request index responses =>
      rcases except_bind_ok.mp h with ⟨document₁, hadd, hresponses⟩
      rcases addRequest_ok.mp hadd with ⟨url, host, method, body, hurl, hmethod, hbody, hfree, rfl⟩
      have heq := @requestOperation_eq lib request index responses _ _ _ _ hurl hmethod hbody
      have hlower := (capturedMethod_ok hmethod).1
      cases htrivial : responses.isTrivial with
      | true =>
          rcases addResponses_trivial htrivial with ⟨hsame, habsences⟩
          rw [hsame] at hresponses
          cases hresponses
          rw [htrivial, if_pos rfl] at heq
          refine ⟨Option.isSome_of_eq_some heq, ?_, ?_, ?_, ?_⟩
          · rw [Capture.absences, habsences, List.append_nil]
            rfl
          · exact (scheme_request request index responses _).symm
          · intro p m hp
            refine requested_others (fun hpm => hp ?_)
            rw [Capture.place, Capture.operation, heq, Option.map_some, hpm]
          · intro p m o ho
            rw [Capture.operation, heq] at ho
            cases ho
            exact ⟨hfree, requested_here _ _ _ _ _ _⟩
      | false =>
          have hparse := capturedUrl_ok hurl
          rw [htrivial, if_neg Bool.false_ne_true] at heq
          by_cases hpath : url.path = []
          · -- The contract is looked up at the empty path, where nothing is.
            have hmissing : (requested document request index url host method body).operationAt
                url.path (lower request.method) = none := by
              have hne : (url.path, lower request.method) ≠ (capturedPath url, method) :=
                fun hpm => capturedPath_ne_nil url ((Prod.ext_iff.mp hpm).1.symm.trans hpath)
              rw [requested_others hne, hpath]
              exact hroot _
            rw [addResponses_missing htrivial hparse hmissing] at hresponses
            cases hresponses
          · have hsame : capturedPath url = url.path := if_neg hpath
            have hhere : (requested document request index url host method body).operationAt
                url.path (lower request.method) =
                  some (capturedOperation request index url host body) := by
              rw [← hsame, ← hlower]
              exact requested_here _ _ _ _ _ _
            rw [addResponses_found htrivial hparse hhere] at hresponses
            rw [if_neg hpath] at heq
            cases hresponses
            refine ⟨Option.isSome_of_eq_some heq, ?_, ?_, ?_, ?_⟩
            · rw [Capture.absences, List.map_append, ← List.append_assoc]
              rfl
            · exact (scheme_request request index responses _).symm
            · intro p m hp
              have hne : (p, m) ≠ (capturedPath url, method) := by
                intro hpm
                refine hp ?_
                rw [Capture.place, Capture.operation, heq, Option.map_some, hpm]
              have hne' : (p, m) ≠ (url.path, lower request.method) := by
                rw [← hsame, ← hlower]
                exact hne
              exact (operationAt_setOperation_of_ne _ _ hne').trans (requested_others hne)
            · intro p m o ho
              rw [Capture.operation, heq] at ho
              cases ho
              refine ⟨hfree, ?_⟩
              rw [hsame, hlower]
              exact operationAt_setOperation _ _ _ _

/-- A capture that can be imported is applied where its place is free. -/
theorem exists_apply {c : Capture} (himport : c.Importable lib)
    (hfree : ∀ path method, c.place lib = some (path, method) →
      document.operationAt path method = none) : ∃ document', c.apply lib document = .ok document' := by
  cases c with
  | failed e => cases himport
  | absent a => exact ⟨_, rfl⟩
  -- A request is applied where it makes an operation and its place is free.
  | request request index responses =>
      rcases Option.isSome_iff_exists.mp himport with ⟨⟨⟨path, method⟩, o⟩, ho⟩
      have hplace : (Capture.request request index responses).place lib = some (path, method) := by
        rw [Capture.place, Capture.operation, ho, Option.map_some]
      have hnone := hfree path method hplace
      unfold requestOperation at ho
      rcases Option.bind_eq_some_iff.mp ho with ⟨⟨url, host⟩, hurl, ho⟩
      rcases Option.bind_eq_some_iff.mp ho with ⟨verb, hmethod, ho⟩
      rcases Option.bind_eq_some_iff.mp ho with ⟨body, hbody, ho⟩
      rw [toOption_eq_some] at hurl hmethod hbody
      have hlower := (capturedMethod_ok hmethod).1
      have hadd (hsame : (capturedPath url, verb) = (path, method)) :
          addRequest lib document request index =
            .ok (requested document request index url host verb body) := by
        cases hsame
        exact addRequest_ok.mpr ⟨url, host, _, body, hurl, hmethod, hbody, hnone, rfl⟩
      -- With a response that says nothing, the operation is the whole of it.
      cases htrivial : responses.isTrivial with
      | true =>
          rw [htrivial, if_pos rfl] at ho
          cases ho
          exact ⟨_, except_bind_ok.mpr ⟨_, hadd rfl, (addResponses_trivial htrivial).1⟩⟩
      | false =>
          rw [htrivial, if_neg Bool.false_ne_true] at ho
          -- Responses that say something are put under the path, so there must be one.
          by_cases hpath : url.path = []
          · rw [if_pos hpath] at ho
            cases ho
          · rw [if_neg hpath] at ho
            cases ho
            have hsame : capturedPath url = url.path := if_neg hpath
            have hhere := @requested_here document request index url host method body
            rw [hsame, hlower] at hhere
            rw [hlower] at hadd
            exact ⟨_, except_bind_ok.mpr ⟨_, hadd rfl,
              addResponses_found htrivial (capturedUrl_ok hurl) hhere⟩⟩

end

/-! ### The effect of several captures -/

/-- What every document under construction satisfies. Its operations have a
    path, a method and no references, and the schemes they name are there. -/
structure ImportDocument.Sound (document : ImportDocument) : Prop where
  operations : ∀ path method o, document.operationAt path method = some o →
    path ≠ [] ∧ method ∈ HTTP_METHODS ∧ ∀ v ∈ o.parameters, refFree v = true
  secured : ∀ path method o name, document.operationAt path method = some o →
    o.security = some name → (lookup name document.securitySchemes).isSome
  schemes : ∀ e ∈ document.securitySchemes, ∃ index, ∃ auth : CapturedAuth,
    e = (schemeName index, auth.scheme)

theorem ImportDocument.Sound.rooted {document : ImportDocument} (h : document.Sound) :
    document.Rooted := by
  intro method
  cases hat : document.operationAt [] method with
  | none => rfl
  | some o => exact absurd rfl (h.operations _ _ _ hat).1

/-- Captured parameters have no references. -/
theorem capturedParameter_refFree (location : String) (entry : Str × Str) :
    refFree (capturedParameter location entry) = true := by
  simp [capturedParameter, jsonObject, refFree, refFreeMembers, lookup]

theorem capturedParameters_refFree (url : Url) (headers : List (Str × Str)) :
    ∀ v ∈ capturedParameters url headers, refFree v = true := by
  intro v hv
  rcases List.mem_append.mp hv with hv | hv <;> rcases List.mem_map.mp hv with ⟨e, _, rfl⟩
  · exact capturedParameter_refFree "query" e
  · exact capturedParameter_refFree "header" e

/-- Responses change no parameter. -/
theorem withResponses_parameters (lib : Crates) (o : ImportedOperation)
    (responses : CapturedResponses) : (withResponses lib o responses).parameters = o.parameters := by
  cases responses <;> rfl

/-- The operation a capture adds has a path, a method and no references. -/
theorem operation_sound {lib : Crates} {c : Capture} {path method : Str} {o : ImportedOperation}
    (h : c.operation lib = some ((path, method), o)) :
    path ≠ [] ∧ method ∈ HTTP_METHODS ∧ ∀ v ∈ o.parameters, refFree v = true := by
  cases c with
  | failed e => cases h
  | absent a => cases h
  | request request index responses =>
      rcases Option.bind_eq_some_iff.mp h with ⟨⟨url, host⟩, hurl, h⟩
      rcases Option.bind_eq_some_iff.mp h with ⟨verb, hmethod, h⟩
      rcases Option.bind_eq_some_iff.mp h with ⟨body, hbody, h⟩
      rw [toOption_eq_some] at hmethod
      have hparameters := capturedParameters_refFree url request.headers
      dsimp only at h
      split_ifs at h
      · cases h
        exact ⟨capturedPath_ne_nil url, (capturedMethod_ok hmethod).2, hparameters⟩
      · cases h
        refine ⟨capturedPath_ne_nil url, (capturedMethod_ok hmethod).2, ?_⟩
        rw [withResponses_parameters]
        exact hparameters

theorem CapturedAuth.scheme_refFree (auth : CapturedAuth) : refFree auth.scheme = true := by
  unfold CapturedAuth.scheme
  cases auth.kind <;> simp [jsonObject, refFree, refFreeMembers, lookup]

/-- The scheme of a capture is named by the number of its request. -/
theorem scheme_eq_some {c : Capture} {e : Str × Value} (h : c.scheme = some e) :
    ∃ index, ∃ auth : CapturedAuth, e = (schemeName index, auth.scheme) := by
  cases c with
  | failed e => cases h
  | absent a => cases h
  | request request index responses =>
      rcases Option.map_eq_some_iff.mp h with ⟨auth, _, rfl⟩
      exact ⟨index, auth, rfl⟩

/-- The operation of a capture names the scheme of the capture. -/
theorem operation_security {lib : Crates} {c : Capture} {place : Str × Str} {o : ImportedOperation}
    (h : c.operation lib = some (place, o)) : o.security = c.scheme.map Prod.fst := by
  cases c with
  | failed e => cases h
  | absent a => cases h
  | request request index responses =>
      rcases Option.bind_eq_some_iff.mp h with ⟨⟨url, host⟩, _, h⟩
      rcases Option.bind_eq_some_iff.mp h with ⟨verb, _, h⟩
      rcases Option.bind_eq_some_iff.mp h with ⟨body, _, h⟩
      have hscheme : (Capture.request request index responses).scheme.map Prod.fst =
          request.auth.map (fun _ => schemeName index) := Option.map_map _ _ _
      rw [hscheme]
      dsimp only at h
      split_ifs at h
      · cases h
        rfl
      · cases h
        cases responses <;> rfl

section

variable {lib : Crates} {document document' : ImportDocument}

/-- A capture has a place exactly when it has an operation. -/
theorem place_eq_some {c : Capture} {place : Str × Str} :
    c.place lib = some place ↔ ∃ o, c.operation lib = some (place, o) := by
  unfold Capture.place
  constructor
  · intro h
    rcases Option.map_eq_some_iff.mp h with ⟨⟨p, o⟩, ho, rfl⟩
    exact ⟨o, ho⟩
  · rintro ⟨o, ho⟩
    rw [ho, Option.map_some]

/-- The operations of a document after a capture. -/
theorem Capture.Added.operationAt {c : Capture} (h : c.Added lib document document') {path method : Str}
    {o : ImportedOperation} (ho : document'.operationAt path method = some o) :
    document.operationAt path method = some o ∨ c.operation lib = some ((path, method), o) := by
  by_cases hplace : c.place lib = some (path, method)
  · rcases place_eq_some.mp hplace with ⟨o', ho'⟩
    have hsame := (h.here path method o' ho').2
    rw [ho] at hsame
    cases hsame
    exact Or.inr ho'
  · rw [h.others path method hplace] at ho
    exact Or.inl ho

/-- The schemes of a document keep their names. -/
theorem Capture.Added.named {c : Capture} (h : c.Added lib document document') {name : Str}
    (hname : (lookup name document.securitySchemes).isSome) :
    (lookup name document'.securitySchemes).isSome := by
  rw [h.schemes]
  cases hscheme : c.scheme with
  | none => exact hname
  | some e =>
      rw [Option.map_some, Option.getD_some]
      by_cases hsame : name = e.1
      · rw [hsame, lookup_insert_self]
        rfl
      · rw [lookup_insert_of_ne hsame]
        exact hname

/-- The scheme of an added capture is offered. -/
theorem Capture.Added.offered {c : Capture} (h : c.Added lib document document') {e : Str × Value}
    (hscheme : c.scheme = some e) : (lookup e.1 document'.securitySchemes).isSome := by
  rw [h.schemes, hscheme, Option.map_some, Option.getD_some, lookup_insert_self]
  rfl

/-- Adding keeps a document sound. -/
theorem Capture.Added.sound {c : Capture} (h : c.Added lib document document')
    (hsound : document.Sound) : document'.Sound := by
  refine ⟨fun path method o ho => ?_, fun path method o name ho hname => ?_, fun e he => ?_⟩
  · rcases h.operationAt ho with ho | ho
    · exact hsound.operations path method o ho
    · exact operation_sound ho
  -- The scheme an operation names is the one added with it.
  · rcases h.operationAt ho with ho | ho
    · exact h.named (hsound.secured path method o name ho hname)
    · rw [operation_security ho] at hname
      rcases Option.map_eq_some_iff.mp hname with ⟨e, he, rfl⟩
      exact h.offered he
  · rw [h.schemes] at he
    cases hscheme : c.scheme with
    | none =>
        rw [hscheme] at he
        exact hsound.schemes e he
    | some added =>
        rw [hscheme] at he
        rcases mem_of_mem_insert he with rfl | he
        · exact scheme_eq_some hscheme
        · exact hsound.schemes e he

/-- What several captures change in a document. -/
structure Grown (lib : Crates) (captures : List Capture) (document document' : ImportDocument) :
    Prop where
  importable : ∀ c ∈ captures, c.Importable lib
  free : ∀ c ∈ captures, ∀ path method, c.place lib = some (path, method) →
    document.operationAt path method = none
  here : ∀ c ∈ captures, ∀ path method o, c.operation lib = some ((path, method), o) →
    document'.operationAt path method = some o
  kept : ∀ path method o, document.operationAt path method = some o →
    document'.operationAt path method = some o
  origin : ∀ path method o, document'.operationAt path method = some o →
    document.operationAt path method = some o ∨
      ∃ c ∈ captures, c.operation lib = some ((path, method), o)
  absences : ∀ c ∈ captures, ∀ a ∈ c.absences, a.toValue ∈ document'.absent
  absent : ∀ v ∈ document.absent, v ∈ document'.absent
  offered : ∀ c ∈ captures, ∀ e, c.scheme = some e → (lookup e.1 document'.securitySchemes).isSome
  named : ∀ name, (lookup name document.securitySchemes).isSome →
    (lookup name document'.securitySchemes).isSome
  schemes : ∀ e ∈ document'.securitySchemes, e ∈ document.securitySchemes ∨
    ∃ c ∈ captures, c.scheme = some e

/-- The first capture, then the others. -/
theorem importCaptures_cons {c : Capture} {captures : List Capture} :
    importCaptures lib document (c :: captures) = .ok document' ↔
      ∃ next, c.apply lib document = .ok next ∧ importCaptures lib next captures = .ok document' := by
  unfold importCaptures
  rw [List.foldlM_cons, except_bind_ok]

/-- Captures in two parts. -/
theorem importCaptures_append {before after : List Capture} :
    importCaptures lib document (before ++ after) = .ok document' ↔
      ∃ next, importCaptures lib document before = .ok next ∧
        importCaptures lib next after = .ok document' := by
  unfold importCaptures
  rw [List.foldlM_append, except_bind_ok]

/-- One capture is a list of captures. -/
theorem Capture.Added.grown {c : Capture} (himport : c.Importable lib)
    (h : c.Added lib document document') : Grown lib [c] document document' := by
  -- One clause after the other, for the list of this capture alone.
  refine ⟨?_, ?_, ?_, ?_, ?_, ?_, ?_, ?_, fun name hname => h.named hname, ?_⟩
  · intro c' hc'
    rw [List.mem_singleton.mp hc']
    exact himport
  · intro c' hc' path method hplace
    rw [List.mem_singleton.mp hc'] at hplace
    rcases place_eq_some.mp hplace with ⟨o, ho⟩
    exact (h.here path method o ho).1
  · intro c' hc' path method o ho
    rw [List.mem_singleton.mp hc'] at ho
    exact (h.here path method o ho).2
  · intro path method o ho
    -- The operation at its place is its own, any other stayed.
    by_cases hplace : c.place lib = some (path, method)
    · rcases place_eq_some.mp hplace with ⟨o', ho'⟩
      rw [(h.here path method o' ho').1] at ho
      cases ho
    · rw [h.others path method hplace]
      exact ho
  · intro path method o ho
    rcases h.operationAt ho with ho | ho
    · exact Or.inl ho
    · exact Or.inr ⟨c, List.mem_singleton_self c, ho⟩
  · intro c' hc' a ha
    rw [List.mem_singleton.mp hc'] at ha
    rw [h.absent]
    exact List.mem_append_right _ (List.mem_map_of_mem ha)
  · intro v hv
    rw [h.absent]
    exact List.mem_append_left _ hv
  · intro c' hc' e he
    rw [List.mem_singleton.mp hc'] at he
    exact h.offered he
  · intro e he
    rw [h.schemes] at he
    -- The schemes grow by the one of its credential.
    cases hscheme : c.scheme with
    | none =>
        rw [hscheme] at he
        exact Or.inl he
    | some added =>
        rw [hscheme] at he
        rcases mem_of_mem_insert he with rfl | he
        · exact Or.inr ⟨c, List.mem_singleton_self c, hscheme⟩
        · exact Or.inl he

theorem Grown.refl (document : ImportDocument) : Grown lib [] document document := by
  have hnone (c : Capture) : c ∉ [] := List.not_mem_nil
  exact
    { importable := fun c hc => absurd hc (hnone c)
      free := fun c hc => absurd hc (hnone c)
      here := fun c hc => absurd hc (hnone c)
      kept := fun _ _ _ h => h
      origin := fun _ _ _ h => Or.inl h
      absences := fun c hc => absurd hc (hnone c)
      absent := fun _ h => h
      offered := fun c hc => absurd hc (hnone c)
      named := fun _ h => h
      schemes := fun _ h => Or.inl h }

/-- Growth in two parts. -/
theorem Grown.trans {before after : List Capture} {next : ImportDocument}
    (h : Grown lib before document next) (h' : Grown lib after next document') :
    Grown lib (before ++ after) document document' := by
  -- Each clause of the whole list comes from one of the two parts.
  refine ⟨?_, ?_, ?_, ?_, ?_, ?_, ?_, ?_, ?_, ?_⟩
  · intro c hc
    exact (List.mem_append.mp hc).elim (h.importable c) (h'.importable c)
  · intro c hc path method hplace
    rcases List.mem_append.mp hc with hc | hc
    · exact h.free c hc path method hplace
    -- A place that is free after the first captures was free before them.
    · have hnext := h'.free c hc path method hplace
      cases hat : document.operationAt path method with
      | none => rfl
      | some o =>
          rw [h.kept path method o hat] at hnext
          cases hnext
  · intro c hc path method o ho
    rcases List.mem_append.mp hc with hc | hc
    · exact h'.kept path method o (h.here c hc path method o ho)
    · exact h'.here c hc path method o ho
  · intro path method o ho
    exact h'.kept path method o (h.kept path method o ho)
  · intro path method o ho
    -- An operation was there, or it was made by a capture of either part.
    rcases h'.origin path method o ho with ho | ⟨c, hc, hoperation⟩
    · rcases h.origin path method o ho with ho | ⟨c, hc, hoperation⟩
      · exact Or.inl ho
      · exact Or.inr ⟨c, List.mem_append_left _ hc, hoperation⟩
    · exact Or.inr ⟨c, List.mem_append_right _ hc, hoperation⟩
  · intro c hc a ha
    rcases List.mem_append.mp hc with hc | hc
    · exact h'.absent _ (h.absences c hc a ha)
    · exact h'.absences c hc a ha
  · intro v hv
    exact h'.absent v (h.absent v hv)
  · intro c hc e he
    rcases List.mem_append.mp hc with hc | hc
    · exact h'.named e.1 (h.offered c hc e he)
    · exact h'.offered c hc e he
  · intro name hname
    exact h'.named name (h.named name hname)
  · intro e he
    rcases h'.schemes e he with he | ⟨c, hc, hscheme⟩
    · rcases h.schemes e he with he | ⟨c, hc, hscheme⟩
      · exact Or.inl he
      · exact Or.inr ⟨c, List.mem_append_left _ hc, hscheme⟩
    · exact Or.inr ⟨c, List.mem_append_right _ hc, hscheme⟩

/-- The place of an imported capture is taken. -/
theorem Grown.taken {captures : List Capture} (h : Grown lib captures document document')
    {c : Capture} (hc : c ∈ captures) {path method : Str} (hplace : c.place lib = some (path, method)) :
    document'.operationAt path method ≠ none := by
  rcases place_eq_some.mp hplace with ⟨o, ho⟩
  rw [h.here c hc path method o ho]
  nofun

/-- An import keeps a document sound and grows it by its captures. -/
theorem importCaptures_grown {captures : List Capture} (hsound : document.Sound)
    (h : importCaptures lib document captures = .ok document') :
    document'.Sound ∧ Grown lib captures document document' := by
  induction captures generalizing document with
  | nil =>
      cases h
      exact ⟨hsound, .refl _⟩
  | cons c captures ih =>
      rcases importCaptures_cons.mp h with ⟨next, hstep, hrest⟩
      rcases apply_added hsound.rooted hstep with ⟨himport, hadded⟩
      rcases ih (hadded.sound hsound) hrest with ⟨hsound', hgrown⟩
      exact ⟨hsound', (hadded.grown himport).trans hgrown⟩

end

/-! ### Captures that are alike -/

/-- Two requests that differ in their names and in where their absences are. -/
structure CapturedRequest.Alike (request request' : CapturedRequest) : Prop where
  method : request'.method = request.method
  url : request'.url = request.url
  headers : request'.headers = request.headers
  body : request'.body = request.body
  mediaType : request'.mediaType = request.mediaType
  auth : request'.auth = request.auth
  absent : request'.absent.map CapturedAbsence.blocking = request.absent.map CapturedAbsence.blocking

/-- Two captures that differ in the numbers of their requests and in where their
    absences are. -/
inductive Capture.Alike : Capture → Capture → Prop
  | request {request request' : CapturedRequest} (index index' : Nat)
      (responses : CapturedResponses) (h : request.Alike request') :
      Capture.Alike (.request request index responses) (.request request' index' responses)
  | absent {absence absence' : CapturedAbsence} (h : absence'.blocking = absence.blocking) :
      Capture.Alike (.absent absence) (.absent absence')
  | failed (error error' : IngestError) : Capture.Alike (.failed error) (.failed error')

/-- Two operations that are planned alike. -/
structure ImportedOperation.Alike (o o' : ImportedOperation) : Prop where
  origin : o'.origin = o.origin
  parameters : o'.parameters = o.parameters
  body : o'.body = o.body
  security : o'.security.isSome = o.security.isSome
  absent : o'.absent.map CapturedAbsence.blocking = o.absent.map CapturedAbsence.blocking

theorem ImportedOperation.Alike.refl (o : ImportedOperation) : o.Alike o := ⟨rfl, rfl, rfl, rfl, rfl⟩

section

variable {lib : Crates}

theorem CapturedRequest.Alike.refl (request : CapturedRequest) : request.Alike request :=
  ⟨rfl, rfl, rfl, rfl, rfl, rfl, rfl⟩

theorem Capture.Alike.refl (c : Capture) : c.Alike c := by
  cases c with
  | request request index responses => exact .request index index responses (.refl request)
  | absent a => exact .absent rfl
  | failed e => exact .failed e e

theorem Capture.Alike.symm {c c' : Capture} (h : c.Alike c') : c'.Alike c := by
  cases h with
  | request index index' responses h =>
      exact .request index' index responses ⟨h.method.symm, h.url.symm, h.headers.symm, h.body.symm,
        h.mediaType.symm, h.auth.symm, h.absent.symm⟩
  | absent h => exact .absent h.symm
  | failed e e' => exact .failed e' e

/-- Responses keep operations alike. -/
theorem withResponses_alike {o o' : ImportedOperation} (h : o.Alike o')
    (responses : CapturedResponses) :
    (withResponses lib o responses).Alike (withResponses lib o' responses) := by
  cases responses <;> exact ⟨h.origin, h.parameters, h.body, h.security, h.absent⟩

/-- Alike requests are read alike. -/
theorem CapturedRequest.Alike.parts {request request' : CapturedRequest} (h : request.Alike request') :
    (capturedUrl lib request').toOption = (capturedUrl lib request).toOption ∧
      (capturedMethod request').toOption = (capturedMethod request).toOption ∧
        capturedBody lib request' = capturedBody lib request := by
  refine ⟨?_, ?_, ?_⟩
  · -- The name of a request is in the errors of its URL.
    unfold capturedUrl
    rw [h.url]
    cases lib.parseUrl request.url with
    | error e => rfl
    | ok url =>
        dsimp only
        split_ifs <;> rfl
  · unfold capturedMethod
    rw [h.method]
  · have hcontent : capturedContentType request' = capturedContentType request := by
      unfold capturedContentType
      rw [h.headers, h.mediaType]
    unfold capturedBody capturedMediaType
    rw [h.body, hcontent]

namespace Capture.Alike

variable {c c' : Capture}

/-- Alike captures add alike operations at one place. -/
theorem operation (h : c.Alike c') :
    Option.Rel (fun added added' => added'.1 = added.1 ∧ added.2.Alike added'.2)
      (c.operation lib) (c'.operation lib) := by
  cases h with
  | absent _ => exact .none
  | failed _ _ => exact .none
  | @request request request' index index' responses h =>
      rcases @CapturedRequest.Alike.parts lib _ _ h with ⟨hurl, hmethod, hbody⟩
      change Option.Rel _ (requestOperation lib request index responses)
        (requestOperation lib request' index' responses)
      -- All that makes the operation is alike, apart from the name of its scheme.
      unfold requestOperation
      rw [hurl, hmethod, hbody]
      dsimp only [bind]
      cases (capturedUrl lib request).toOption with
      | none => exact .none
      | some parsed =>
          cases (capturedMethod request).toOption with
          | none => exact .none
          | some method =>
              cases (capturedBody lib request).toOption with
              | none => exact .none
              | some body =>
                  have halike : (capturedOperation request index parsed.1 parsed.2 body).Alike
                      (capturedOperation request' index' parsed.1 parsed.2 body) := by
                    -- The parameters, the body and the absences are the same.
                    refine ⟨rfl, ?_, rfl, ?_, h.absent⟩
                    · exact congrArg (capturedParameters parsed.1) h.headers
                    · have hauth : (request'.auth.map (fun _ => schemeName index')).isSome =
                          (request.auth.map (fun _ => schemeName index)).isSome := by
                        rw [Option.isSome_map, Option.isSome_map, h.auth]
                      exact hauth
                  simp only [Option.bind_some]
                  split_ifs
                  · exact .some ⟨rfl, halike⟩
                  · exact .none
                  · exact .some ⟨rfl, withResponses_alike halike responses⟩

theorem place (h : c.Alike c') : c'.place lib = c.place lib := by
  have hoperation := @Capture.Alike.operation lib c c' h
  unfold Capture.place
  generalize c.operation lib = added at hoperation ⊢
  generalize c'.operation lib = added' at hoperation ⊢
  cases hoperation with
  | none => rfl
  | some hsame => exact congrArg some hsame.1

theorem importable (h : c.Alike c') (himport : c.Importable lib) : c'.Importable lib := by
  have hoperation := @Capture.Alike.operation lib c c' h
  cases h with
  | absent _ => trivial
  | failed _ _ => cases himport
  | @request request request' index index' responses h =>
      change Option.Rel _ (requestOperation lib request index responses)
        (requestOperation lib request' index' responses) at hoperation
      change (requestOperation lib request index responses).isSome = true at himport
      change (requestOperation lib request' index' responses).isSome = true
      generalize requestOperation lib request index responses = added at hoperation himport
      generalize requestOperation lib request' index' responses = added' at hoperation ⊢
      cases hoperation with
      | none => exact himport
      | some _ => rfl

/-- Alike captures record alike absences. -/
theorem absences (h : c.Alike c') :
    c'.absences.map CapturedAbsence.blocking = c.absences.map CapturedAbsence.blocking := by
  cases h with
  | absent h => exact congrArg (fun b => [b]) h
  | failed _ _ => rfl
  | @request request request' index index' responses h =>
      have hcredentials : (credentialAbsences request' index').map CapturedAbsence.blocking =
          (credentialAbsences request index).map CapturedAbsence.blocking := by
        unfold credentialAbsences
        rw [h.headers, List.map_map, List.map_map]
        rfl
      have hresponses : (responseAbsences index' responses).map CapturedAbsence.blocking =
          (responseAbsences index responses).map CapturedAbsence.blocking := by
        cases responses <;> rfl
      change (credentialAbsences request' index' ++ responseAbsences index' responses).map _ =
        (credentialAbsences request index ++ responseAbsences index responses).map _
      rw [List.map_append, List.map_append, hcredentials, hresponses]

theorem unblocked (h : c.Alike c') (hblocks : ∀ a ∈ c.absences, a.blocking = false) :
    ∀ a ∈ c'.absences, a.blocking = false := by
  intro a ha
  have hmem := List.mem_map_of_mem (f := CapturedAbsence.blocking) ha
  rw [h.absences] at hmem
  rcases List.mem_map.mp hmem with ⟨b, hb, hsame⟩
  rw [← hsame]
  exact hblocks b hb

end Capture.Alike

end

/-! ### Documents with one more request -/

/-- The record of an absence blocks planning. -/
def blocks (absence : Value) : Bool := ((absence.get "blocking").bind Value.asBool).getD false

/-- A document and the same document with one more operation, at a place of its
    own: the other operations are alike, and nothing more blocks them. -/
structure Beside (place : Option (Str × Str)) (document document' : ImportDocument) : Prop where
  operations : ∀ path method, place ≠ some (path, method) →
    Option.Rel ImportedOperation.Alike (document.operationAt path method)
      (document'.operationAt path method)
  absent : (∀ v ∈ document.absent, blocks v = false) → ∀ v ∈ document'.absent, blocks v = false

section

variable {lib : Crates} {document document' : ImportDocument} {place : Option (Str × Str)}

theorem toValue_blocks (a : CapturedAbsence) : blocks a.toValue = a.blocking := by
  unfold blocks CapturedAbsence.toValue
  rw [jsonObject_get_head]
  rfl

/-- Blocking absences come from the captures. -/
theorem Capture.Added.unblocked {c : Capture} (h : c.Added lib document document') :
    (∀ v ∈ document'.absent, blocks v = false) ↔
      (∀ v ∈ document.absent, blocks v = false) ∧ ∀ a ∈ c.absences, a.blocking = false := by
  rw [h.absent, List.forall_mem_append, List.forall_mem_map]
  simp only [toValue_blocks]

theorem Beside.refl (document : ImportDocument) : Beside none document document := by
  refine ⟨fun path method _ => ?_, fun h => h⟩
  cases document.operationAt path method with
  | none => exact .none
  | some o => exact .some (.refl o)

/-- Where the place is free, an operation is at both documents or at none. -/
theorem Beside.free (h : Beside place document document') {path method : Str}
    (hother : place ≠ some (path, method)) (hfree : document.operationAt path method = none) :
    document'.operationAt path method = none := by
  have hrel := h.operations path method hother
  rw [hfree] at hrel
  revert hrel
  cases document'.operationAt path method with
  | none => exact fun _ => rfl
  | some o => nofun

/-- A capture that blocks nothing leaves the document beside the old one. -/
theorem Capture.Added.beside {c : Capture} {start : ImportDocument} (hbeside : Beside none start document)
    (h : c.Added lib document document') (hblocks : ∀ a ∈ c.absences, a.blocking = false) :
    Beside (c.place lib) start document' := by
  refine ⟨fun path method hplace => ?_, fun hstart => ?_⟩
  · rw [h.others path method hplace]
    exact hbeside.operations path method nofun
  · exact h.unblocked.mpr ⟨hbeside.absent hstart, hblocks⟩

/-- Two documents stay beside each other when alike captures with another place
    are applied to them. -/
theorem apply_beside (hsound : document.Sound) (hsound' : document'.Sound)
    (h : Beside place document document') {c c' : Capture} (halike : c.Alike c')
    {next : ImportDocument} (happly : c.apply lib document = .ok next)
    (hother : ∀ p, c.place lib = some p → place ≠ some p) :
    ∃ next', c'.apply lib document' = .ok next' ∧ Beside place next next' := by
  rcases apply_added hsound.rooted happly with ⟨himport, hadded⟩
  have hplaces : c'.place lib = c.place lib := halike.place
  have hfree : ∀ path method, c'.place lib = some (path, method) →
      document'.operationAt path method = none := by
    intro path method hplace
    rw [hplaces] at hplace
    rcases place_eq_some.mp hplace with ⟨o, ho⟩
    exact h.free (hother _ hplace) (hadded.here path method o ho).1
  rcases exists_apply (halike.importable himport) hfree with ⟨next', happly'⟩
  have hadded' := (apply_added hsound'.rooted happly').2
  refine ⟨next', happly', fun path method hplace => ?_, fun hnext => ?_⟩
  · by_cases hhere : c.place lib = some (path, method)
    · -- The two operations at the place of the captures are alike.
      rcases place_eq_some.mp hhere with ⟨o, ho⟩
      have hoperation := @Capture.Alike.operation lib c c' halike
      rw [ho] at hoperation
      rw [(hadded.here path method o ho).2]
      generalize hc' : c'.operation lib = found at hoperation
      cases hoperation with
      | @some _ added' hsame =>
          rcases added' with ⟨place', o'⟩
          rcases hsame with ⟨hplace', hsame⟩
          cases hplace'
          rw [(hadded'.here path method o' hc').2]
          exact .some hsame
    · have hhere' : c'.place lib ≠ some (path, method) := by
        rw [hplaces]
        exact hhere
      rw [hadded.others path method hhere, hadded'.others path method hhere']
      exact h.operations path method hplace
  · rcases hadded.unblocked.mp hnext with ⟨hdocument, hc⟩
    exact hadded'.unblocked.mpr ⟨h.absent hdocument, halike.unblocked hc⟩

/-- Two documents stay beside each other in the rest of an import that leaves
    the place free. -/
theorem importCaptures_beside {captures captures' : List Capture} {last : ImportDocument}
    (halike : List.Forall₂ Capture.Alike captures captures') (hsound : document.Sound)
    (hsound' : document'.Sound) (h : Beside place document document')
    (himport : importCaptures lib document captures = .ok last)
    (hfree : ∀ path method, place = some (path, method) → last.operationAt path method = none) :
    ∃ last', importCaptures lib document' captures' = .ok last' ∧ Beside place last last' := by
  induction halike generalizing document document' with
  | nil =>
      cases himport
      exact ⟨document', rfl, h⟩
  | @cons c c' captures captures' hc hrest ih =>
      have hgrown := (importCaptures_grown hsound himport).2
      rcases importCaptures_cons.mp himport with ⟨next, hstep, himport⟩
      -- The place is free at the end, so no capture on the way takes it.
      have hother : ∀ p, c.place lib = some p → place ≠ some p := fun p hplace hsame =>
        hgrown.taken List.mem_cons_self hplace (hfree p.1 p.2 hsame)
      rcases apply_beside hsound hsound' h hc hstep hother with ⟨next', hstep', hbeside⟩
      have hnext := (apply_added hsound.rooted hstep).2.sound hsound
      have hnext' := (apply_added hsound'.rooted hstep').2.sound hsound'
      rcases ih hnext hnext' hbeside himport with ⟨last', himport', hlast⟩
      exact ⟨last', importCaptures_cons.mpr ⟨next', hstep', himport'⟩, hlast⟩

end

end Kahea
