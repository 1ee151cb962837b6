import Kahea.Core.Reference
import Kahea.Ingest.Adding
import Kahea.Ingest.Imported

/-!
# Isolation of Imported Requests

What one request of a source does to the others of the same document.

An absence that is recorded with an operation blocks that operation, one that
is recorded with the document blocks all of them, and a request that cannot be
added fails the whole import. `Contained` says that the captures of a request
do none of the last two. Besides, the security schemes of a document are named
by the numbers of their requests, so a request put in front of others renames
theirs: `SchemeOffered` says that a scheme asked for by its name is still there.
Adding a request to a source, wherever it is put, keeps every other request
plannable exactly when both hold.

## Main definitions

* `Contained`: The captures of a request that touch no other request.
* `SchemeOffered`: The scheme that is asked for is one of the source.

## Theorems

* `import_of_contained`, `contained_of_import`: When the import goes on as before.
* `authOffered_iff`: When the authentication is still offered.
* `isolated_iff`: When adding a request affects no other.
-/

namespace Kahea

/-! ### Requests that touch no other -/

/-- The captures of a request, its absences and the request itself, touch no
    other request of a document: nothing blocks the document, and the request
    can be imported and has a place of its own. -/
structure Contained (lib : Crates) (absences : List CapturedAbsence) (c : Capture)
    (document : ImportDocument) : Prop where
  absences : ∀ a ∈ absences, a.blocking = false
  unblocked : ∀ a ∈ c.absences, a.blocking = false
  importable : c.Importable lib
  free : ∀ path method, c.place lib = some (path, method) →
    document.operationAt path method = none

/-- The number of a request does not matter. -/
theorem Contained.alike {lib : Crates} {absences : List CapturedAbsence} {c c' : Capture}
    {document : ImportDocument} (h : Contained lib absences c document) (halike : c.Alike c') :
    Contained lib absences c' document := by
  refine ⟨h.absences, halike.unblocked h.unblocked, halike.importable h.importable, ?_⟩
  intro path method hplace
  rw [halike.place] at hplace
  exact h.free path method hplace

section

variable {lib : Crates} {document document' : ImportDocument}

/-- The document an import starts with has no operations and no schemes. -/
theorem captures_base {source : CapturedSource} {base : ImportDocument} {captures : List Capture}
    (h : source.captures lib = .ok (base, captures)) :
    base.paths = [] ∧ base.securitySchemes = [] := by
  -- Every format starts from a document without paths.
  cases source with
  | har document =>
      unfold CapturedSource.captures at h
      dsimp only at h
      split_ifs at h
      cases h
      exact ⟨rfl, rfl⟩
  | postman collection =>
      unfold CapturedSource.captures at h
      dsimp only at h
      split_ifs at h
      cases h
      unfold postmanBase
      rw [foldl_pushAbsent]
      exact ⟨rfl, rfl⟩
  | http text =>
      unfold CapturedSource.captures at h
      cases h
      exact ⟨rfl, rfl⟩

theorem operationAt_empty {base : ImportDocument} (h : base.paths = []) (path method : Str) :
    base.operationAt path method = none := by
  unfold ImportDocument.operationAt
  rw [h]
  rfl

theorem sound_of_empty (hpaths : document.paths = []) (hschemes : document.securitySchemes = []) :
    document.Sound := by
  refine ⟨fun path method o ho => ?_, fun path method o name ho _ => ?_, fun e he => ?_⟩
  · rw [operationAt_empty hpaths] at ho
    cases ho
  · rw [operationAt_empty hpaths] at ho
    cases ho
  · rw [hschemes] at he
    cases he

/-- Absences that block nothing leave the document beside the old one. -/
theorem importCaptures_absences {absences : List CapturedAbsence} (hsound : document.Sound)
    (h : ∀ a ∈ absences, a.blocking = false) :
    ∃ next, importCaptures lib document (absences.map Capture.absent) = .ok next ∧
      next.Sound ∧ Beside none document next := by
  have hgoal {start : ImportDocument} (hstart : start.Sound) (hbeside : Beside none document start) :
      ∃ next, importCaptures lib start (absences.map Capture.absent) = .ok next ∧
        next.Sound ∧ Beside none document next := by
    induction absences generalizing start with
    | nil => exact ⟨start, rfl, hstart, hbeside⟩
    | cons a absences ih =>
        have happly : (Capture.absent a).apply lib start = .ok (start.pushAbsent a) := rfl
        have hadded := (apply_added hstart.rooted happly).2
        have hnext : Beside none document (start.pushAbsent a) := by
          refine hadded.beside hbeside (fun b hb => ?_)
          rw [List.mem_singleton.mp hb]
          exact h a List.mem_cons_self
        rcases ih (fun b hb => h b (List.mem_cons_of_mem a hb)) (hadded.sound hstart) hnext with
          ⟨next, himport, hrest⟩
        exact ⟨next, importCaptures_cons.mpr ⟨_, happly, himport⟩, hrest⟩
  exact hgoal hsound (.refl document)

theorem plannable_unblocked {world : World} {bytes : List UInt8} {options : PlanOptions}
    {configuration : ProjectConfiguration} {past : List Event} {path method : Str}
    (h : document.Plannable lib world bytes options configuration past path method) :
    ∀ v ∈ document.absent, blocks v = false := by
  rcases h with ⟨o, _, plan, hplan⟩
  rcases Eff.bind_ok hplan with ⟨parts, hparts, _⟩
  rcases Eff.bind_ok hparts with ⟨_, hcheck, _⟩
  have hok := (checkAbsence_ok.mp hcheck).1
  rw [documentAbsences] at hok
  exact hok

theorem importSource_eq {source : CapturedSource} {base : ImportDocument} {captures : List Capture}
    (h : source.captures lib = .ok (base, captures)) :
    importSource lib source = importCaptures lib base captures := by
  unfold importSource
  rw [h]
  rfl

/-- Contained captures are imported beside the rest of a source. -/
theorem import_of_contained {base start : ImportDocument} {before after after' : List Capture}
    {absences : List CapturedAbsence} {c : Capture} (hbase : base.Sound)
    (halike : List.Forall₂ Capture.Alike after after')
    (hbefore : importCaptures lib base before = .ok start)
    (hafter : importCaptures lib start after = .ok document) (h : Contained lib absences c document) :
    ∃ document', importCaptures lib base (before ++ ((absences.map Capture.absent ++ [c]) ++ after')) =
      .ok document' ∧ Beside (c.place lib) document document' := by
  have hstart := (importCaptures_grown hbase hbefore).1
  have hkept := (importCaptures_grown hstart hafter).2.kept
  -- The absences are noted, which takes no place.
  rcases importCaptures_absences hstart h.absences with ⟨noted, hnoted, hsound, hbeside⟩
  -- The place of the request is free, since nothing before it has it.
  have hfree : ∀ path method, c.place lib = some (path, method) →
      noted.operationAt path method = none := by
    intro path method hplace
    refine hbeside.free nofun ?_
    cases hat : start.operationAt path method with
    | none => rfl
    | some o =>
        have hnone := h.free path method hplace
        rw [hkept path method o hat] at hnone
        cases hnone
  rcases exists_apply h.importable hfree with ⟨next, hnext⟩
  have hadded := (apply_added hsound.rooted hnext).2
  have hpair := hadded.beside hbeside h.unblocked
  -- What comes after is applied to both documents alike.
  rcases importCaptures_beside halike hstart (hadded.sound hsound) hpair hafter h.free with
    ⟨last, hlast, hfinal⟩
  refine ⟨last, importCaptures_append.mpr ⟨start, hbefore, ?_⟩, hfinal⟩
  refine importCaptures_append.mpr ⟨next, ?_, hlast⟩
  exact importCaptures_append.mpr ⟨noted, hnoted, importCaptures_cons.mpr ⟨next, hnext, rfl⟩⟩

/-- What blocks no document and fails no import is contained. -/
theorem contained_of_import {base start : ImportDocument} {before after after' : List Capture}
    {absences : List CapturedAbsence} {c : Capture} (hbase : base.Sound)
    (halike : List.Forall₂ Capture.Alike after after')
    (hbefore : importCaptures lib base before = .ok start)
    (hafter : importCaptures lib start after = .ok document)
    (himport : importCaptures lib base (before ++ ((absences.map Capture.absent ++ [c]) ++ after')) =
      .ok document') (hblocks : ∀ v ∈ document'.absent, blocks v = false) :
    Contained lib absences c document := by
  have hstart := (importCaptures_grown hbase hbefore).1
  rcases importCaptures_append.mp himport with ⟨start', hbefore', hrest⟩
  have hsame : start' = start := by
    rw [hbefore] at hbefore'
    exact (Except.ok.inj hbefore').symm
  rw [hsame] at hrest
  rcases importCaptures_append.mp hrest with ⟨next, hadded, hafter'⟩
  rcases importCaptures_grown hstart hadded with ⟨hnext, hgrown⟩
  have hgrown' := (importCaptures_grown hnext hafter').2
  have hmem : c ∈ absences.map Capture.absent ++ [c] := List.mem_append_right _ List.mem_cons_self
  refine ⟨fun a ha => ?_, fun a ha => ?_, hgrown.importable c hmem, fun path method hplace => ?_⟩
  · have habsent := hgrown.absences (.absent a)
      (List.mem_append_left _ (List.mem_map_of_mem ha)) a List.mem_cons_self
    rw [← toValue_blocks a]
    exact hblocks _ (hgrown'.absent _ habsent)
  · rw [← toValue_blocks a]
    exact hblocks _ (hgrown'.absent _ (hgrown.absences c hmem a ha))
  · cases hat : document.operationAt path method with
    | none => rfl
    | some o =>
        rcases (importCaptures_grown hstart hafter).2.origin path method o hat with
          hat | ⟨d, hd, hoperation⟩
        · have hnone := hgrown.free c hmem path method hplace
          rw [hat] at hnone
          cases hnone
        · -- A later capture takes the place, and fails when it is taken.
          rcases exists_alike halike hd with ⟨d', hd', hsame⟩
          have hplace' : d'.place lib = some (path, method) := by
            rw [hsame.place]
            exact place_eq_some.mpr ⟨o, hoperation⟩
          exact absurd (hgrown'.free d' hd' path method hplace') (hgrown.taken hmem hplace)

/-! ### Schemes that are asked for by name -/

/-- The scheme that is asked for by its name is one of the source, and that of
    the request at the place where this one has a scheme. -/
def SchemeOffered (lib : Crates) (captures : List Capture) (path method : Str)
    (requested : Option Str) : Prop :=
  ∀ parts ∈ requested.bind (splitOnce "=".toList),
    (∃ c ∈ captures, c.scheme.map Prod.fst = some parts.1) ∧
      ∀ c ∈ captures, c.place lib = some (path, method) →
        ∀ name ∈ c.scheme.map Prod.fst, name = parts.1

instance (lib : Crates) (captures : List Capture) (path method : Str) (requested : Option Str) :
    Decidable (SchemeOffered lib captures path method requested) :=
  inferInstanceAs (Decidable (∀ parts ∈ requested.bind (splitOnce "=".toList),
    (∃ c ∈ captures, c.scheme.map Prod.fst = some parts.1) ∧
      ∀ c ∈ captures, c.place lib = some (path, method) →
        ∀ name ∈ c.scheme.map Prod.fst, name = parts.1))

/-- An authentication that could be asked for still can exactly when its scheme
    is offered. -/
theorem authOffered_iff {base : ImportDocument} {captures : List Capture} (hpaths : base.paths = [])
    (hschemes : base.securitySchemes = []) (hgrown : Grown lib captures base document')
    {path method : Str} {o o' : ImportedOperation} {requested : Option Str}
    (hat : document'.operationAt path method = some o') (halike : o.Alike o')
    (hoffered : document.AuthOffered o requested) :
    document'.AuthOffered o' requested ↔ SchemeOffered lib captures path method requested := by
  unfold ImportDocument.AuthOffered at hoffered ⊢
  cases requested with
  | none =>
      refine ⟨fun _ => nofun, fun _ => ?_⟩
      have hsecurity := halike.security
      rw [show o.security = none from hoffered, Option.isSome_none, Option.isSome_eq_false_iff,
        Option.isNone_iff_eq_none] at hsecurity
      exact hsecurity
  | some text =>
      dsimp only at hoffered ⊢
      cases hsplit : splitOnce "=" text with
      | none =>
          rw [hsplit] at hoffered
          refine ⟨fun _ parts hparts => ?_, fun _ => ?_⟩
          · have hnone : splitOnce "=".toList text = some parts := hparts
            rw [hsplit] at hnone
            cases hnone
          · dsimp only at hoffered ⊢
            rw [halike.security]
            exact hoffered
      | some parts =>
          rcases parts with ⟨scheme, profile⟩
          dsimp only
          constructor
          · rintro ⟨hname, hknown⟩ parts hparts
            have hsame : splitOnce "=".toList text = some parts := hparts
            rw [hsplit] at hsame
            cases hsame
            refine ⟨?_, fun c hc hplace name hscheme => ?_⟩
            · rcases Option.isSome_iff_exists.mp hknown with ⟨value, hvalue⟩
              rcases hgrown.schemes _ (lookup_mem hvalue) with hbase | ⟨c, hc, hscheme⟩
              · rw [hschemes] at hbase
                cases hbase
              · exact ⟨c, hc, congrArg (Option.map Prod.fst) hscheme⟩
            · -- The request at the place has been imported as the operation there.
              rcases place_eq_some.mp hplace with ⟨found, hfound⟩
              have hhere := hgrown.here c hc path method found hfound
              rw [hat] at hhere
              cases hhere
              rw [← operation_security hfound] at hscheme
              exact hname name hscheme
          · intro hscheme
            rcases hscheme (scheme, profile) hsplit with ⟨⟨c, hc, hname⟩, hown⟩
            refine ⟨fun name hsecurity => ?_, ?_⟩
            · rcases hgrown.origin path method o' hat with hbase | ⟨d, hd, hoperation⟩
              · rw [operationAt_empty hpaths] at hbase
                cases hbase
              · rw [operation_security hoperation] at hsecurity
                exact hown d hd (place_eq_some.mpr ⟨o', hoperation⟩) name hsecurity
            · rcases Option.map_eq_some_iff.mp hname with ⟨e, he, rfl⟩
              exact hgrown.offered c hc e he

/-! ### Adding a request -/

/-- Adding a request to a source, wherever it is put, keeps another request
    plannable exactly when the captures of the new request are contained and the
    scheme that is asked for is still offered. -/
theorem isolated_iff {world : World} {source source' : CapturedSource}
    {absences : List CapturedAbsence} {c : Capture} {base' : ImportDocument} {captures' : List Capture}
    {bytes bytes' : List UInt8} {options : PlanOptions} {configuration : ProjectConfiguration}
    {past : List Event} {path method : Str} (hadded : RequestAdded lib source source' absences c)
    (hsource' : source'.captures lib = .ok (base', captures'))
    (himport : importSource lib source = .ok document)
    (hother : c.place lib ≠ some (path, method))
    (hplan : document.Plannable lib world bytes options configuration past path method) :
    (∃ document', importSource lib source' = .ok document' ∧
        document'.Plannable lib world bytes' options configuration past path method) ↔
      Contained lib absences c document ∧
        SchemeOffered lib captures' path method (options.withDefaults configuration).auth := by
  rcases except_bind_ok.mp himport with ⟨⟨base, captures⟩, hsource, _⟩
  rw [importSource_eq hsource] at himport
  rw [importSource_eq hsource']
  rcases captures_added hadded hsource with ⟨before, after, after', c', rfl, hcaptures, hc, halike⟩
  rw [hsource'] at hcaptures
  cases hcaptures
  rcases captures_base hsource with ⟨hpaths, hempty⟩
  have hbase := sound_of_empty hpaths hempty
  rcases importCaptures_append.mp himport with ⟨start, hbefore, hafter⟩
  have hsound := (importCaptures_grown hbase himport).1
  have hplace : c'.place lib ≠ some (path, method) := by
    rw [hc.place]
    exact hother
  -- Beside the new request only the authentication decides.
  have hdecide (hcontained : Contained lib absences c' document) : ∃ document',
      importCaptures lib base' (before ++ ((absences.map Capture.absent ++ [c']) ++ after')) =
        .ok document' ∧ (document'.Plannable lib world bytes' options configuration past path method ↔
          SchemeOffered lib (before ++ ((absences.map Capture.absent ++ [c']) ++ after')) path method
            (options.withDefaults configuration).auth) := by
    rcases import_of_contained hbase halike hbefore hafter hcontained with
      ⟨document', himport', hbeside⟩
    rcases importCaptures_grown hbase himport' with ⟨hsound', hgrown'⟩
    refine ⟨document', himport', ?_⟩
    rcases hplan with ⟨o, hat, hplan⟩
    have hrel := hbeside.operations path method hplace
    rw [hat] at hrel
    generalize hat' : document'.operationAt path method = found at hrel
    cases hrel with
    | @some _ o' hsame =>
        have hoffered := offered_of_plan hsound hplan
        rw [← authOffered_iff hpaths hempty hgrown' hat' hsame hoffered]
        constructor
        · rintro ⟨o'', hat'', hplan'⟩
          rw [hat'] at hat''
          cases hat''
          exact offered_of_plan hsound' hplan'
        · intro hoffered'
          exact ⟨o', hat', (carries_of_beside lib hsound hsound' hbeside hat hat' hsame
            hoffered').plan_of_carries rfl hplan⟩
  constructor
  · rintro ⟨document', himport', hplan'⟩
    have hcontained := contained_of_import hbase halike hbefore hafter himport'
      (plannable_unblocked hplan')
    rcases hdecide hcontained with ⟨last, hlast, hiff⟩
    rw [himport'] at hlast
    cases hlast
    exact ⟨hcontained.alike hc.symm, hiff.mp hplan'⟩
  · rintro ⟨hcontained, hscheme⟩
    rcases hdecide (hcontained.alike hc) with ⟨document', himport', hiff⟩
    exact ⟨document', himport', hiff.mpr hscheme⟩

end

/-- A HAR document with the given entries. -/
def harOf (entries : List Value) : CapturedSource :=
  .har (jsonObject [("log", jsonObject [("entries", .array entries), ("version", .string "1.2")])])

/-- A HAR entry of a GET request. -/
def harGet (url : String) (headers : List Value) : Value :=
  jsonObject [("request", jsonObject [("headers", .array headers), ("method", .string "GET"),
    ("url", .string url.toList)])]

/-- The second member of an object, and all the others. -/
theorem jsonObject_get_two {first second : String} (u : Value) (hne : first.toList ≠ second.toList) :
    (∀ v, (jsonObject [(first, u), (second, v)]).get second.toList = some v) ∧
      ∀ v w key, key ≠ second.toList → (jsonObject [(first, u), (second, w)]).get key =
        (jsonObject [(first, u), (second, v)]).get key := by
  refine ⟨fun v => (if_neg hne).trans (if_pos rfl), fun v w key hkey => ?_⟩
  change (if first.toList = key then some u else if second.toList = key then some w else none) =
    (if first.toList = key then some u else if second.toList = key then some v else none)
  rw [if_neg (Ne.symm hkey), if_neg (Ne.symm hkey)]

/-- The version and the entries of a HAR document. -/
theorem harOf_pointer (entries : List Value) :
    (jsonObject [("log", jsonObject [("entries", .array entries), ("version", .string "1.2")])]).pointer
        "/log/version" = some (.string "1.2") ∧
      (jsonObject [("log", jsonObject [("entries", .array entries),
        ("version", .string "1.2")])]).pointer "/log/entries" = some (.array entries) := by
  have hversion : (jsonObject [("entries", .array entries), ("version", .string "1.2")]).get "version" =
      some (.string "1.2") := (jsonObject_get_two _ (by decide)).1 _
  have hlog (log : Value) : (jsonObject [("log", log)]).get "log" = some log := if_pos rfl
  rw [Value.pointer_two _ (by decide : pointerTokens "/log/version" = some ["log".toList, "version".toList])
      (by decide) (by decide),
    Value.pointer_two _ (by decide : pointerTokens "/log/entries" = some ["log".toList, "entries".toList])
      (by decide) (by decide), hlog, Option.bind_some, Option.bind_some, hversion]
  exact ⟨rfl, if_pos rfl⟩

theorem harOf_captures (lib : Crates) (entries : List Value) :
    (harOf entries).captures lib = .ok (baseDocument "HAR import", harCaptures entries) := by
  rcases harOf_pointer entries with ⟨hversion, hentries⟩
  unfold harOf CapturedSource.captures
  dsimp only
  rw [hversion, hentries]
  exact if_pos rfl

/-- A HAR document with one entry more. -/
theorem harOf_added (lib : Crates) (before after : List Value) (entry : Value) (number : Nat) :
    RequestAdded lib (harOf (before ++ after)) (harOf (before ++ entry :: after)) []
      (harCapture entry number) := by
  rcases harOf_pointer (before ++ after) with ⟨hversion, hentries⟩
  rcases harOf_pointer (before ++ entry :: after) with ⟨hversion', hentries'⟩
  exact .har entry number (hversion'.trans hversion.symm)
    (congrArg (fun v => (v.bind Value.asArray).getD []) hentries)
    (congrArg (fun v => (v.bind Value.asArray).getD []) hentries')

/-- A Postman collection with the given items. -/
def postmanOf (items : List Value) : Value :=
  jsonObject [("info", jsonObject [("name", .string "Examples"),
    ("schema", .string "https://schema.getpostman.com/json/collection/v2.1.0/collection.json")]),
    ("item", .array items)]

/-- A folder of a collection. -/
def postmanFolder (items : List Value) : Value :=
  jsonObject [("name", .string "more"), ("item", .array items)]

/-- An item with a GET request. -/
def postmanGet (url : String) (auth : List (String × Value)) : Value :=
  jsonObject [("name", .string "get"), ("request", jsonObject (auth ++ [("method", .string "GET"),
    ("url", .string url.toList)]))]

/-- The capture of such an item. -/
def postmanCapture (url : String) (number : Nat) : Capture :=
  .request { CapturedRequest.named "get" with url := url } number .unknown

/-- A bearer authentication. -/
def bearerAuth : List (String × Value) := [("auth", jsonObject [("type", .string "bearer")])]

/-- A collection with one item more in a folder. -/
theorem postmanOf_added : RequestAdded referenceCrates
    (.postman (postmanOf [postmanGet "https://example.com/a" bearerAuth, postmanFolder []]))
    (.postman (postmanOf [postmanGet "https://example.com/a" bearerAuth,
      postmanFolder [postmanGet "https://example.com/b" []]])) []
    (postmanCapture "https://example.com/b" 0) := by
  have hinfo : "info".toList ≠ "item".toList := by decide
  have hname : "name".toList ≠ "item".toList := by decide
  have hitems (items : List Value) : (((postmanOf items).get "item").bind Value.asArray).getD [] =
      items := congrArg (fun v => (v.bind Value.asArray).getD []) ((jsonObject_get_two _ hinfo).1 _)
  have hfolder (items : List Value) : (postmanFolder items).get "item" = some (.array items) :=
    (jsonObject_get_two _ hname).1 _
  have hadded (context : PostmanContext) := ItemAdded.inside [postmanGet "https://example.com/a" bearerAuth]
    [] (hfolder []) (hfolder [postmanGet "https://example.com/b" []])
    ((jsonObject_get_two _ hname).2 _ _) (.here (context.below (postmanFolder [])
      ("#/item" ++ '/' :: decimal 1)) ("#/item" ++ '/' :: decimal 1 ++ "/item") [] [])
  exact @RequestAdded.postman _ _ _ _ _ _ _ _ _ 0 ((jsonObject_get_two _ hinfo).2 _ _)
    (Eq.mpr (congrArg₂ (fun l l' => ItemAdded _ _ _ l l' _ _) (hitems _) (hitems _)) (hadded _)) rfl rfl rfl

/-- Planning with the scheme of the first request asked for by its name. -/
def askedOptions : PlanOptions := { PlanOptions.default with auth := some "importedAuth0=team" }

/-- A request put in front of another, and one put into a folder behind one whose
    scheme is asked for by its name, leave it plannable. -/
theorem isolated_plain :
    (∃ document', importSource referenceCrates
      (harOf [harGet "https://example.com/b" [], harGet "https://example.com/a" []]) = .ok document' ∧
        document'.Plannable referenceCrates referenceWorld [] .default .default [] "/a" "get") ∧
    ∃ document', importSource referenceCrates
      (.postman (postmanOf [postmanGet "https://example.com/a" bearerAuth,
        postmanFolder [postmanGet "https://example.com/b" []]])) = .ok document' ∧
        document'.Plannable referenceCrates referenceWorld [] askedOptions .default [] "/a" "get" := by
  -- A request without absences is contained where its place is its own.
  have hcontained {c : Capture} {document : ImportDocument} (hblocks : c.absences = [])
      (hplace : c.place referenceCrates = some ("/b".toList, "get".toList))
      (hsome : (c.operation referenceCrates).isSome = true) (hrequest : c.Importable referenceCrates =
        ((c.operation referenceCrates).isSome = true)) (hfree : document.operationAt "/b" "get" = none) :
      Contained referenceCrates [] c document := by
    refine ⟨nofun, ?_, hrequest.mpr hsome, fun path method hpath => ?_⟩
    · rw [hblocks]
      nofun
    · rw [hplace] at hpath
      cases hpath
      exact hfree
  constructor
  -- A HAR entry put before the others.
  · have himport : (importSource referenceCrates (harOf [harGet "https://example.com/a" []])).toOption.map
        (fun document => decide (document.Plannable referenceCrates referenceWorld [] .default .default []
          "/a" "get") && (document.operationAt "/b" "get").isNone) = some true := by decide +kernel
    rcases exists_ok_of_toOption himport with ⟨document, himport, hdocument⟩
    rw [Bool.and_eq_true, decide_eq_true_eq, Option.isNone_iff_eq_none] at hdocument
    have hplace : (harCapture (harGet "https://example.com/b" []) 0).place referenceCrates =
        some ("/b".toList, "get".toList) := by decide +kernel
    have hadded := harOf_added referenceCrates [] [harGet "https://example.com/a" []]
      (harGet "https://example.com/b" []) 0
    refine (isolated_iff hadded (harOf_captures _ _) himport ?_ hdocument.1).mpr
      ⟨hcontained rfl hplace (by decide +kernel) rfl hdocument.2, by decide⟩
    rw [hplace]
    decide
  -- An item put in a folder of a collection.
  · have himport : (importSource referenceCrates (.postman (postmanOf
        [postmanGet "https://example.com/a" bearerAuth, postmanFolder []]))).toOption.map
        (fun document => decide (document.Plannable referenceCrates referenceWorld [] askedOptions .default
          [] "/a" "get") && (document.operationAt "/b" "get").isNone) = some true := by decide +kernel
    rcases exists_ok_of_toOption himport with ⟨document, himport, hdocument⟩
    rw [Bool.and_eq_true, decide_eq_true_eq, Option.isNone_iff_eq_none] at hdocument
    have hplace : (postmanCapture "https://example.com/b" 0).place referenceCrates =
        some ("/b".toList, "get".toList) := by decide +kernel
    refine (isolated_iff postmanOf_added rfl himport ?_ hdocument.1).mpr
      ⟨hcontained rfl hplace (by decide +kernel) rfl hdocument.2, by decide +kernel⟩
    rw [hplace]
    decide

/-- A captured credential blocks the request of another entry. -/
theorem har_credential_blocks : ∃ document document',
    importSource referenceCrates (harOf [harGet "https://example.com/a" []]) = .ok document ∧
      importSource referenceCrates (harOf [harGet "https://example.com/a" [],
        harGet "https://example.com/b" [jsonObject [("name", .string "Authorization"),
          ("value", .string "Basic YTpi")]]]) = .ok document' ∧
      document.Plannable referenceCrates referenceWorld [] .default .default [] "/a" "get" ∧
      ¬ document'.Plannable referenceCrates referenceWorld [] .default .default [] "/a" "get" := by
  have hone : (importSource referenceCrates (harOf [harGet "https://example.com/a" []])).toOption.map
      (fun document => decide (document.Plannable referenceCrates referenceWorld [] .default .default []
        "/a" "get")) = some true := by decide +kernel
  have htwo : (importSource referenceCrates (harOf [harGet "https://example.com/a" [],
      harGet "https://example.com/b" [jsonObject [("name", .string "Authorization"),
        ("value", .string "Basic YTpi")]]])).toOption.map
      (fun document => decide (document.Plannable referenceCrates referenceWorld [] .default .default []
        "/a" "get")) = some false := by decide +kernel
  rcases exists_ok_of_toOption hone with ⟨document, hdocument, hplannable⟩
  rcases exists_ok_of_toOption htwo with ⟨document', hdocument', hblocked⟩
  exact ⟨document, document', hdocument, hdocument', of_decide_eq_true hplannable,
    of_decide_eq_false hblocked⟩

end Kahea
