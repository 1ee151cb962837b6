import Kahea.Base.Rewriting
import Kahea.Ingest.Growth

/-!
# Requests Added to Sources

What the importers read of a source that has one request more.

A request can be put anywhere: an entry of a HAR document between two others, a
section of an `.http` file in front, behind or in between, an item of a
collection in any of its folders. The captures of the other requests stay in
their order. Those behind the new request get new numbers and locations, and are
alike otherwise (`captures_added`).

## Main definitions

* `PostmanContext.Alike`: Contexts whose absences are somewhere else.
* `ItemAdded`, `SectionAdded`: A list of items and of lines with one request more.
* `RequestAdded`: A source with one request more.

## Theorems

* `walk_alike`: The walk over items that have been moved.
* `walk_added`, `closedSections_added`: The captures of the new request stand
  between those of the others.
* `captures_added`: The same for a source of each format.
-/

namespace Kahea

/-! ### Captures in another place -/

theorem alike_append {first first' second second' : List Capture}
    (h : List.Forall₂ Capture.Alike first first') (h' : List.Forall₂ Capture.Alike second second') :
    List.Forall₂ Capture.Alike (first ++ second) (first' ++ second') := List.rel_append h h'

theorem exists_alike {captures captures' : List Capture}
    (h : List.Forall₂ Capture.Alike captures captures') {c : Capture} (hc : c ∈ captures) :
    ∃ c' ∈ captures', c.Alike c' := by
  induction h with
  | nil => cases hc
  | @cons d d' _ _ hd _ ih =>
      rcases List.mem_cons.mp hc with rfl | hc
      · exact ⟨d', List.mem_cons_self, hd⟩
      · rcases ih hc with ⟨c', hc', halike⟩
        exact ⟨c', List.mem_cons_of_mem d' hc', halike⟩

/-- Absences that block alike are alike. -/
theorem alike_absences {absences absences' : List CapturedAbsence}
    (h : absences'.map CapturedAbsence.blocking = absences.map CapturedAbsence.blocking) :
    List.Forall₂ Capture.Alike (absences.map Capture.absent) (absences'.map Capture.absent) := by
  induction absences generalizing absences' with
  | nil =>
      rw [List.map_nil, List.map_eq_nil_iff] at h
      rw [h]
      exact .nil
  | cons a absences ih =>
      cases absences' with
      | nil => cases h
      | cons a' absences' =>
          rw [List.map_cons, List.map_cons, List.cons.injEq] at h
          exact .cons (.absent h.1) (ih h.2)

/-- The captures of numbered parts, counted from another number. -/
theorem alike_zipIdx {α : Type} {g : α → Nat → List Capture}
    (h : ∀ a n m, List.Forall₂ Capture.Alike (g a n) (g a m)) (l : List α) (n m : Nat) :
    List.Forall₂ Capture.Alike ((l.zipIdx n).flatMap (fun e => g e.1 e.2))
      ((l.zipIdx m).flatMap (fun e => g e.1 e.2)) := by
  induction l generalizing n m with
  | nil => exact .nil
  | cons a l ih =>
      rw [List.zipIdx_cons, List.zipIdx_cons, List.flatMap_cons, List.flatMap_cons]
      exact alike_append (h a n m) (ih (n + 1) (m + 1))

/-- One more numbered part between the others. -/
theorem flatMap_zipIdx_added {α : Type} (g : α → Nat → List Capture) (before after : List α) (a : α) :
    ((before ++ after).zipIdx.flatMap (fun e => g e.1 e.2) =
      before.zipIdx.flatMap (fun e => g e.1 e.2) ++
        (after.zipIdx before.length).flatMap (fun e => g e.1 e.2)) ∧
    (before ++ a :: after).zipIdx.flatMap (fun e => g e.1 e.2) =
      before.zipIdx.flatMap (fun e => g e.1 e.2) ++ (g a before.length ++
        (after.zipIdx (before.length + 1)).flatMap (fun e => g e.1 e.2)) := by
  rw [List.zipIdx_append, List.zipIdx_append, List.flatMap_append, List.flatMap_append, Nat.zero_add,
    List.zipIdx_cons, List.flatMap_cons]
  exact ⟨rfl, rfl⟩

/-! ### HAR documents -/

theorem harCaptures_eq (entries : List Value) :
    harCaptures entries = entries.zipIdx.flatMap (fun e => [harCapture e.1 e.2]) := by
  unfold harCaptures
  rw [← List.flatMap_pure_eq_map]
  rfl

/-- The number of an entry is in its name and its absences. -/
theorem harCapture_alike (entry : Value) (n m : Nat) :
    List.Forall₂ Capture.Alike [harCapture entry n] [harCapture entry m] := by
  refine .cons ?_ .nil
  unfold harCapture
  cases (entry.get "request").bind Value.asObject with
  | none => exact .failed _ _
  | some request => exact .request _ _ _ ⟨rfl, rfl, rfl, rfl, rfl, rfl, rfl⟩

/-! ### HTTP files -/

/-- A line that separates the sections of an HTTP file. -/
def isSeparator (line : Str) : Bool := startsWith "###" (line.dropWhile isWhiteSpace)

/-- The sections of an HTTP file that are not empty. -/
def closedSections (lines : List Str) : List (List Str) :=
  let state := lines.foldl httpSectionStep ([], [])
  if state.1.isEmpty then state.2 else state.2 ++ [state.1]

/-- An empty section has no request. -/
theorem httpCaptures_eq (text : Str) :
    httpCaptures text = (closedSections (textLines text)).zipIdx.flatMap (fun s => httpCapture s.1 s.2) := by
  unfold httpCaptures httpSections closedSections
  rcases (textLines text).foldl httpSectionStep ([], []) with ⟨current, done⟩
  cases current with
  | cons line current => rfl
  | nil =>
      dsimp only
      rw [List.isEmpty_nil, if_pos rfl, List.zipIdx_append, List.flatMap_append]
      exact List.append_nil _

theorem foldl_httpSectionStep {lines : List Str} (h : ∀ line ∈ lines, isSeparator line = false)
    (current : List Str) (done : List (List Str)) :
    lines.foldl httpSectionStep (current, done) = (current ++ lines, done) := by
  induction lines generalizing current with
  | nil => rw [List.foldl_nil, List.append_nil]
  | cons line lines ih =>
      have hline : httpSectionStep (current, done) line = (current ++ [line], done) := by
        have hnone : startsWith "###" (line.dropWhile isWhiteSpace) = false :=
          h line List.mem_cons_self
        unfold httpSectionStep
        rw [hnone]
        rfl
      rw [List.foldl_cons, hline, ih (fun l hl => h l (List.mem_cons_of_mem line hl)),
        List.append_assoc]
      rfl

/-- The sections that are done are not touched again. -/
theorem foldl_httpSectionStep_done (lines current : List Str) (done : List (List Str)) :
    lines.foldl httpSectionStep (current, done) =
      ((lines.foldl httpSectionStep (current, [])).1,
        done ++ (lines.foldl httpSectionStep (current, [])).2) := by
  induction lines generalizing current done with
  | nil => rw [List.foldl_nil, List.foldl_nil, List.append_nil]
  | cons line lines ih =>
      have hstep : httpSectionStep (current, done) line =
          ((httpSectionStep (current, []) line).1, done ++ (httpSectionStep (current, []) line).2) := by
        unfold httpSectionStep
        split_ifs
        · rw [List.append_nil]
        · rfl
        · rw [List.append_nil]
      rw [List.foldl_cons, List.foldl_cons, hstep, ih]
      rcases httpSectionStep (current, []) line with ⟨current', done'⟩
      dsimp only
      rw [ih current' done', List.append_assoc]

/-- A separator ends the section before it. -/
theorem closedSections_separator (before rest : List Str) {separator : Str}
    (h : isSeparator separator = true) :
    closedSections (before ++ separator :: rest) = closedSections before ++ closedSections rest := by
  have hstep (state : List Str × List (List Str)) : httpSectionStep state separator =
      ([], if state.1.isEmpty then state.2 else state.2 ++ [state.1]) := by
    unfold isSeparator at h
    unfold httpSectionStep
    rw [h, if_pos rfl]
    rcases state with ⟨_ | ⟨line, current⟩, done⟩
    · rfl
    · rfl
  unfold closedSections
  rw [List.foldl_append, List.foldl_cons, hstep, foldl_httpSectionStep_done]
  dsimp only
  split_ifs
  · rfl
  · rfl
  · rw [List.append_assoc]
  · rw [List.append_assoc]

/-- Lines without a separator are one section. -/
theorem closedSections_self {lines : List Str} (h : ∀ line ∈ lines, isSeparator line = false)
    (hne : lines ≠ []) : closedSections lines = [lines] := by
  unfold closedSections
  rw [foldl_httpSectionStep h]
  cases lines with
  | nil => exact absurd rfl hne
  | cons line lines => rfl

/-- The lines of an HTTP file with one section more. -/
inductive SectionAdded (lines : List Str) : List Str → List Str → Prop
  | first {separator : Str} (rest : List Str) (h : isSeparator separator = true) :
      SectionAdded lines rest (lines ++ separator :: rest)
  | last {separator : Str} (before : List Str) (h : isSeparator separator = true) :
      SectionAdded lines before (before ++ separator :: lines)
  | between {separator separator' : Str} (before rest : List Str) (h : isSeparator separator = true)
      (h' : isSeparator separator' = true) :
      SectionAdded lines (before ++ separator' :: rest)
        (before ++ separator :: (lines ++ separator' :: rest))

theorem closedSections_added {lines all all' : List Str} (hadded : SectionAdded lines all all')
    (h : ∀ line ∈ lines, isSeparator line = false) (hne : lines ≠ []) :
    ∃ before after, closedSections all = before ++ after ∧
      closedSections all' = before ++ lines :: after := by
  have hself := closedSections_self h hne
  cases hadded with
  | first rest hseparator =>
      refine ⟨[], closedSections all, rfl, ?_⟩
      rw [closedSections_separator _ _ hseparator, hself]
      rfl
  | last before hseparator =>
      refine ⟨closedSections all, [], (List.append_nil _).symm, ?_⟩
      rw [closedSections_separator _ _ hseparator, hself]
  | between before rest hseparator hseparator' =>
      refine ⟨closedSections before, closedSections rest,
        closedSections_separator _ _ hseparator', ?_⟩
      rw [closedSections_separator _ _ hseparator, closedSections_separator _ _ hseparator', hself]
      rfl

/-- The number of a section is in the name of its request. -/
theorem httpCapture_alike (lines : List Str) (n m : Nat) :
    List.Forall₂ Capture.Alike (httpCapture lines n) (httpCapture lines m) := by
  unfold httpCapture
  cases lines.dropWhile (fun line => !isRequestLine line) with
  | nil => exact .nil
  | cons first rest =>
      dsimp only
      rcases textWords first with _ | ⟨method, _ | ⟨url, words⟩⟩
      · exact .cons (.failed _ _) .nil
      · exact .cons (.failed _ _) .nil
      · dsimp only
        split_ifs
        · exact .cons (.absent rfl) .nil
        · exact .cons (.request _ _ _ ⟨rfl, rfl, rfl, rfl, rfl, rfl, rfl⟩) .nil

/-! ### Postman collections -/

/-- What the walk over a collection starts with. -/
def PostmanContext.top (collection : Value) : PostmanContext :=
  { vars := postmanVariables (collection.get "variable")
    auth := collection.get "auth"
    checks := (collectPostmanEvents collection "#").1
    absent := [] }

/-- Two contexts that differ in where their absences are. -/
structure PostmanContext.Alike (context context' : PostmanContext) : Prop where
  vars : context'.vars = context.vars
  auth : context'.auth = context.auth
  checks : context'.checks = context.checks
  absent : context'.absent.map CapturedAbsence.blocking = context.absent.map CapturedAbsence.blocking

theorem PostmanContext.Alike.refl (context : PostmanContext) : context.Alike context :=
  ⟨rfl, rfl, rfl, rfl⟩

/-- An event is read alike at another location. -/
theorem postmanEvent_alike (location location' : Str) (event : Value × Nat) :
    (postmanEvent location' event).getLeft? = (postmanEvent location event).getLeft? ∧
      (postmanEvent location' event).getRight?.map CapturedAbsence.blocking =
        (postmanEvent location event).getRight?.map CapturedAbsence.blocking := by
  unfold postmanEvent
  dsimp only
  cases (if ((event.1.get "listen").bind Value.asStr).getD "script" = "test" then
      translatedChecks (scriptLines event.1) else none) with
  | none => exact ⟨rfl, rfl⟩
  | some checks => exact ⟨rfl, rfl⟩

theorem collectPostmanEvents_alike (value : Value) (location location' : Str) :
    (collectPostmanEvents value location').1 = (collectPostmanEvents value location).1 ∧
      (collectPostmanEvents value location').2.map CapturedAbsence.blocking =
        (collectPostmanEvents value location).2.map CapturedAbsence.blocking := by
  unfold collectPostmanEvents
  dsimp only
  rw [List.filterMap_map, List.filterMap_map, List.filterMap_map, List.filterMap_map,
    List.map_filterMap, List.map_filterMap]
  refine ⟨?_, ?_⟩
  · refine congrArg (fun l : List (List Str) => dedup (sortStrings l.flatten)) ?_
    exact List.filterMap_congr (fun e _ => (postmanEvent_alike location location' e).1)
  · exact List.filterMap_congr (fun e _ => (postmanEvent_alike location location' e).2)

theorem PostmanContext.Alike.below {context context' : PostmanContext} (h : context.Alike context')
    (item : Value) (location location' : Str) :
    (context.below item location).Alike (context'.below item location') := by
  rcases collectPostmanEvents_alike item location location' with ⟨hchecks, habsent⟩
  unfold PostmanContext.below
  refine ⟨?_, ?_, ?_, ?_⟩
  · dsimp only
    rw [h.vars]
  · dsimp only
    rw [h.auth]
  · dsimp only
    rw [h.checks, hchecks]
  · dsimp only
    rw [List.map_append, List.map_append, List.map_append, List.map_append, h.absent, habsent]

theorem normalizePostmanAuth_alike (auth : Value) (location location' : Str) :
    (normalizePostmanAuth auth location').1 = (normalizePostmanAuth auth location).1 ∧
      (normalizePostmanAuth auth location').2.map CapturedAbsence.blocking =
        (normalizePostmanAuth auth location).2.map CapturedAbsence.blocking := by
  unfold normalizePostmanAuth
  dsimp only
  split_ifs
  · exact ⟨rfl, rfl⟩
  · cases authKind (lower (((auth.get "type").bind Value.asStr).getD "noauth")) with
    | none => exact ⟨rfl, rfl⟩
    | some kind => exact ⟨rfl, rfl⟩

section

variable {lib : Crates}

/-- The request of an item that has been moved. -/
theorem postmanRequest_alike {context context' : PostmanContext} (h : context.Alike context')
    (item : Value) (object : Option (List (Str × Value))) (location location' url : Str)
    (auth : Option CapturedAuth) :
    (postmanRequest context item object location url auth).Alike
      (postmanRequest context' item object location' url auth) := by
  -- The location is named in an absence, which blocks or not whatever it names.
  have hbody (body : Option Value) : (bodyModeAbsences body location').map CapturedAbsence.blocking =
      (bodyModeAbsences body location).map CapturedAbsence.blocking := by
    unfold bodyModeAbsences
    cases ((body.bind (fun b => b.get "mode")).bind Value.asStr).filter
        (fun (mode : Str) => mode ≠ "raw") with
    | none => rfl
    | some mode => rfl
  -- The absences of variables depend on the texts, not on where they stand.
  have hvariable (body : Option Str) (headers : List (Str × Str)) :
      (variableAbsences body headers location').map CapturedAbsence.blocking =
        (variableAbsences body headers location).map CapturedAbsence.blocking := by
    unfold variableAbsences
    split_ifs
    · rfl
    · rfl
  unfold postmanRequest
  refine ⟨rfl, rfl, ?_, ?_, rfl, rfl, ?_⟩
  · dsimp only
    rw [h.vars]
  · dsimp only
    rw [h.vars]
  · dsimp only
    rw [List.map_append, List.map_append, List.map_append, List.map_append, h.vars, h.absent, hbody,
      hvariable]

/-- An item that has been moved. -/
theorem postmanItem_alike {context context' : PostmanContext} (h : context.Alike context')
    (item request : Value) (location location' : Str) (index index' : Nat) :
    List.Forall₂ Capture.Alike (postmanItem lib context item request location index).1
      (postmanItem lib context' item request location' index').1 := by
  -- The number of the request is in the location of its authentication only.
  have hauth (auth : Option Value) :
      ((auth.map (fun auth => normalizePostmanAuth auth location')).getD (none, [])).1 =
          ((auth.map (fun auth => normalizePostmanAuth auth location)).getD (none, [])).1 ∧
        List.Forall₂ Capture.Alike
          (((auth.map (fun auth => normalizePostmanAuth auth location)).getD (none, [])).2.map
            Capture.absent)
          (((auth.map (fun auth => normalizePostmanAuth auth location')).getD (none, [])).2.map
            Capture.absent) := by
    cases auth with
    | none => exact ⟨rfl, .nil⟩
    | some auth =>
        rcases normalizePostmanAuth_alike auth location location' with ⟨hsame, habsent⟩
        exact ⟨hsame, alike_absences habsent⟩
  unfold postmanItem
  dsimp only
  rw [h.auth, h.vars]
  -- An item has its own authentication or the one it inherits; both contexts inherit alike.
  generalize ((request.asObject.bind (lookup "auth")).filter (fun auth =>
    (auth.get "type").bind Value.asStr ≠ some "inherit".toList)).or context.auth = own
  rcases hauth own with ⟨hsame, habsent⟩
  cases requestUrl lib request with
  | error e => exact alike_append habsent (.cons (.failed _ _) .nil)
  | ok url =>
      dsimp only
      split_ifs
      · exact alike_append habsent (.cons (.absent rfl) .nil)
      · rw [hsame]
        exact alike_append habsent (.cons (.request _ _ _ (postmanRequest_alike h _ _ _ _ _ _)) .nil)

theorem walk_cons (lib : Crates) (context : PostmanContext) (location : Str)
    (position index : Nat) (item : Value) (rest : List Value) :
    walkPostmanItems lib context location position index (item :: rest) =
      let first := walkPostmanItems lib context location position index [item]
      let second := walkPostmanItems lib context location (position + 1) first.2 rest
      (first.1 ++ second.1, second.2) := by
  simp only [walkPostmanItems, List.append_nil]

/-- The walk over items is the walk over the first and then over the rest. -/
theorem walk_append (lib : Crates) (context : PostmanContext) (location : Str)
    (position index : Nat) (items rest : List Value) :
    walkPostmanItems lib context location position index (items ++ rest) =
      let first := walkPostmanItems lib context location position index items
      let second := walkPostmanItems lib context location (position + items.length) first.2 rest
      (first.1 ++ second.1, second.2) := by
  induction items generalizing position index with
  | nil =>
      rw [List.nil_append, walkPostmanItems]
      rfl
  | cons item items ih =>
      rw [List.cons_append, walk_cons, walk_cons lib context location position index item items]
      dsimp only
      rw [ih, List.length_cons, List.append_assoc, Nat.add_assoc, Nat.add_comm 1]

theorem walk_folder_captures (context : PostmanContext) (location : Str) (position index : Nat)
    {folder nested : Value} (h : folder.get "item" = some nested) :
    (walkPostmanItems lib context location position index [folder]).1 =
      (walkPostmanItems lib (context.below folder (location ++ '/' :: decimal position))
        (location ++ '/' :: decimal position ++ "/item") 0 index (nested.asArray.getD [])).1 := by
  rw [walkPostmanItems]
  simp only [walkPostmanItems, List.append_nil]
  split
  · rename_i nested' hnested
    rw [h] at hnested
    cases hnested
    rfl
  · rename_i hnested
    rw [h] at hnested
    cases hnested

theorem walk_request_captures (context : PostmanContext) (location : Str) (position index : Nat)
    {item request : Value} (hitem : item.get "item" = none)
    (hrequest : item.get "request" = some request) :
    (walkPostmanItems lib context location position index [item]).1 =
      (postmanItem lib (context.below item (location ++ '/' :: decimal position)) item request
        (location ++ '/' :: decimal position) index).1 := by
  rw [walkPostmanItems]
  simp only [walkPostmanItems, List.append_nil]
  split
  · rename_i nested hnested
    rw [hitem] at hnested
    cases hnested
  · rw [hrequest]

theorem walk_other_captures (context : PostmanContext) (location : Str) (position index : Nat)
    {item : Value} (hitem : item.get "item" = none) (hrequest : item.get "request" = none) :
    (walkPostmanItems lib context location position index [item]).1 = [] := by
  rw [walkPostmanItems]
  simp only [walkPostmanItems, List.append_nil]
  split
  · rename_i nested hnested
    rw [hitem] at hnested
    cases hnested
  · rw [hrequest]

/-- Items that have been moved, with another number for the next request. -/
theorem walk_alike {context context' : PostmanContext} (h : context.Alike context')
    (location location' : Str) (position position' index index' : Nat) (items : List Value) :
    List.Forall₂ Capture.Alike (walkPostmanItems lib context location position index items).1
      (walkPostmanItems lib context' location' position' index' items).1 := by
  -- The induction is on the size of the items, since folders are items.
  induction hsize : sizeOf items using Nat.strong_induction_on
    generalizing context context' location location' position position' index index' items with
  | h size ih =>
      cases items with
      | nil =>
          rw [walkPostmanItems, walkPostmanItems]
          exact .nil
      | cons item rest =>
          rw [walk_cons, walk_cons lib context']
          refine alike_append ?_ ?_
          · cases hnested : item.get "item" with
            | some nested =>
                rw [walk_folder_captures _ _ _ _ hnested, walk_folder_captures _ _ _ _ hnested]
                have hlt := sizeOf_get_lt hnested
                have hitems := sizeOf_items_le nested
                rw [List.cons.sizeOf_spec] at hsize
                exact ih (sizeOf (nested.asArray.getD [])) (by omega) (h.below item _ _) _ _ _ _ _ _ _ rfl
            | none =>
                cases hrequest : item.get "request" with
                | none =>
                    rw [walk_other_captures _ _ _ _ hnested hrequest,
                      walk_other_captures _ _ _ _ hnested hrequest]
                    exact .nil
                | some request =>
                    rw [walk_request_captures _ _ _ _ hnested hrequest,
                      walk_request_captures _ _ _ _ hnested hrequest]
                    exact postmanItem_alike (h.below item _ _) _ _ _ _ _ _
          · rw [List.cons.sizeOf_spec] at hsize
            exact ih (sizeOf rest) (by omega) h _ _ _ _ _ _ _ rfl

/-- The items of a folder with one item more, in it or in a folder below, and
    the context and the location of the new item. -/
inductive ItemAdded (item : Value) :
    PostmanContext → Str → List Value → List Value → PostmanContext → Str → Prop
  | here (context : PostmanContext) (location : Str) (before after : List Value) :
      ItemAdded item context location (before ++ after) (before ++ item :: after)
        (context.below item (location ++ '/' :: decimal before.length))
        (location ++ '/' :: decimal before.length)
  | inside {context : PostmanContext} {location : Str} (before after : List Value)
      {folder folder' nested nested' : Value} {inner : PostmanContext} {innermost : Str}
      (hfolder : folder.get "item" = some nested) (hfolder' : folder'.get "item" = some nested')
      (hsame : ∀ key, key ≠ "item".toList → folder'.get key = folder.get key)
      (h : ItemAdded item (context.below folder (location ++ '/' :: decimal before.length))
        (location ++ '/' :: decimal before.length ++ "/item") (nested.asArray.getD [])
        (nested'.asArray.getD []) inner innermost) :
      ItemAdded item context location (before ++ folder :: after) (before ++ folder' :: after) inner
        innermost

/-- The context below a folder does not depend on its items. -/
theorem below_congr (context : PostmanContext) (location : Str) {folder folder' : Value}
    (h : ∀ key, key ≠ "item".toList → folder'.get key = folder.get key) :
    context.below folder' location = context.below folder location := by
  unfold PostmanContext.below collectPostmanEvents
  rw [h "event".toList (by decide), h "variable".toList (by decide), h "auth".toList (by decide),
    h "x-kahea-absent".toList (by decide)]

/-- The captures of the items in front come first. -/
theorem walk_front (context : PostmanContext) (location : Str) (index : Nat) (before rest : List Value) :
    (walkPostmanItems lib context location 0 index (before ++ rest)).1 =
      (walkPostmanItems lib context location 0 index before).1 ++
        (walkPostmanItems lib context location before.length
          (walkPostmanItems lib context location 0 index before).2 rest).1 := by
  rw [walk_append, Nat.zero_add]

/-- The captures of an added item stand between those of the others. -/
theorem walk_added {item request : Value} {context inner : PostmanContext} {location innermost : Str}
    {items items' : List Value} (h : ItemAdded item context location items items' inner innermost)
    (hitem : item.get "item" = none) (hrequest : item.get "request" = some request) (index : Nat) :
    ∃ before after after' number,
      (walkPostmanItems lib context location 0 index items).1 = before ++ after ∧
      (walkPostmanItems lib context location 0 index items').1 =
        before ++ ((postmanItem lib inner item request innermost number).1 ++ after') ∧
      List.Forall₂ Capture.Alike after after' := by
  -- By the place: in this list, or in a folder of it.
  induction h generalizing index with
  | here context location before after =>
      rcases hfront : walkPostmanItems lib context location 0 index before with ⟨first, number⟩
      have hnew : (walkPostmanItems lib context location 0 index (before ++ item :: after)).1 =
          first ++ ((postmanItem lib (context.below item (location ++ '/' :: decimal before.length)) item
            request (location ++ '/' :: decimal before.length) number).1 ++
              (walkPostmanItems lib context location (before.length + 1)
                (walkPostmanItems lib context location before.length number [item]).2 after).1) := by
        rw [walk_front, walk_cons, hfront]
        dsimp only
        rw [walk_request_captures _ _ _ _ hitem hrequest]
      -- What follows is walked with other numbers, which no capture but its scheme tells.
      have hold := @walk_front lib context location index before after
      rw [hfront] at hold
      exact ⟨_, _, _, _, hold, hnew, walk_alike (.refl context) _ _ _ _ _ _ _⟩
  -- The folder is walked in a context of its own, then the rest of the list.
  | @inside context location before after folder folder' nested nested' inner innermost hfolder
      hfolder' hsame h ih =>
      rcases hfront : walkPostmanItems lib context location 0 index before with ⟨first, next⟩
      rcases ih next with ⟨upper, lower, lower', number, hupper, hupper', halike⟩
      have hold : (walkPostmanItems lib context location 0 index (before ++ folder :: after)).1 =
          first ++ upper ++ (lower ++ (walkPostmanItems lib context location (before.length + 1)
            (walkPostmanItems lib context location before.length next [folder]).2 after).1) := by
        rw [walk_front, walk_cons, hfront]
        dsimp only
        rw [walk_folder_captures _ _ _ _ hfolder, hupper, List.append_assoc, List.append_assoc]
      have hnew : (walkPostmanItems lib context location 0 index (before ++ folder' :: after)).1 =
          first ++ upper ++ ((postmanItem lib inner item request innermost number).1 ++
            (lower' ++ (walkPostmanItems lib context location (before.length + 1)
              (walkPostmanItems lib context location before.length next [folder']).2 after).1)) := by
        rw [walk_front, walk_cons, hfront]
        dsimp only
        rw [walk_folder_captures _ _ _ _ hfolder', below_congr _ _ hsame, hupper', List.append_assoc,
          List.append_assoc, List.append_assoc]
      exact ⟨_, _, _, number, hold, hnew,
        alike_append halike (walk_alike (.refl context) _ _ _ _ _ _ _)⟩

/-- The number of an item is that of its request alone. -/
theorem postmanItem_number (context : PostmanContext) (item request : Value) (location : Str)
    (n m : Nat) :
    ∃ (first : List Capture) (c c' : Capture),
      (postmanItem lib context item request location n).1 = first ++ [c] ∧
        (postmanItem lib context item request location m).1 = first ++ [c'] ∧ c.Alike c' := by
  unfold postmanItem
  dsimp only
  cases requestUrl lib request with
  | error e => exact ⟨_, _, _, rfl, rfl, .refl _⟩
  | ok url =>
      dsimp only
      split_ifs
      · exact ⟨_, _, _, rfl, rfl, .refl _⟩
      · exact ⟨_, _, _, rfl, rfl, .request _ _ _ (.refl _)⟩

end

/-! ### Sources -/

/-- A source with one request more: the absences and the capture of the new
    request, under any number. -/
inductive RequestAdded (lib : Crates) :
    CapturedSource → CapturedSource → List CapturedAbsence → Capture → Prop
  | har {document document' : Value} {before after : List Value} (entry : Value) (number : Nat)
      (hversion : document'.pointer "/log/version" = document.pointer "/log/version")
      (hentries : ((document.pointer "/log/entries").bind Value.asArray).getD [] = before ++ after)
      (hentries' : ((document'.pointer "/log/entries").bind Value.asArray).getD [] =
        before ++ entry :: after) :
      RequestAdded lib (.har document) (.har document') [] (harCapture entry number)
  | http {text text' : Str} {lines : List Str} {c : Capture} {number : Nat}
      (hlines : ∀ line ∈ lines, isSeparator line = false)
      (hadded : SectionAdded lines (textLines text) (textLines text'))
      (hcapture : httpCapture lines number = [c]) :
      RequestAdded lib (.http text) (.http text') [] c
  | postman {collection collection' item request : Value} {inner : PostmanContext} {innermost : Str}
      {absences : List CapturedAbsence} {c : Capture} {number : Nat}
      (hsame : ∀ key, key ≠ "item".toList → collection'.get key = collection.get key)
      (hadded : ItemAdded item (.top collection) "#/item"
        (((collection.get "item").bind Value.asArray).getD [])
        (((collection'.get "item").bind Value.asArray).getD []) inner innermost)
      (hitem : item.get "item" = none) (hrequest : item.get "request" = some request)
      (hcaptures : (postmanItem lib inner item request innermost number).1 =
        absences.map Capture.absent ++ [c]) :
      RequestAdded lib (.postman collection) (.postman collection') absences c

/-- A collection with other items is read alike. -/
theorem collection_congr {collection collection' : Value}
    (h : ∀ key, key ≠ "item".toList → collection'.get key = collection.get key) :
    postmanBase collection' = postmanBase collection ∧
      supportedCollection collection' = supportedCollection collection ∧
        PostmanContext.top collection' = .top collection := by
  -- Only these members of a collection are read beside its items.
  have hname (v : Value) : v.pointer "/info/name" = (v.get "info").bind (fun info => info.get "name") :=
    Value.pointer_two v (by decide) (by decide) (by decide)
  have hschema (v : Value) : v.pointer "/info/schema" =
      (v.get "info").bind (fun info => info.get "schema") :=
    Value.pointer_two v (by decide) (by decide) (by decide)
  have hinfo := h "info".toList (by decide)
  have hevents (location : Str) :
      collectPostmanEvents collection' location = collectPostmanEvents collection location := by
    unfold collectPostmanEvents
    rw [h "event".toList (by decide)]
  refine ⟨?_, ?_, ?_⟩
  · unfold postmanBase
    rw [hname, hname, hinfo, hevents, h "x-kahea-absent".toList (by decide)]
  · unfold supportedCollection
    rw [hschema, hschema, hinfo, h "x-kahea-postman-v3".toList (by decide)]
  · unfold PostmanContext.top
    rw [hevents, h "variable".toList (by decide), h "auth".toList (by decide)]

/-- The captures of the new request stand between those of the others. -/
theorem captures_added {lib : Crates} {source source' : CapturedSource}
    {absences : List CapturedAbsence} {c : Capture} (h : RequestAdded lib source source' absences c)
    {base : ImportDocument} {captures : List Capture}
    (hsource : source.captures lib = .ok (base, captures)) :
    ∃ before after after' c', captures = before ++ after ∧
      source'.captures lib = .ok (base, before ++ ((absences.map Capture.absent ++ [c']) ++ after')) ∧
      c.Alike c' ∧ List.Forall₂ Capture.Alike after after' := by
  cases h with
  -- HAR: entries are captured one by one, with their number.
  | @har document document' before after entry number hversion hentries hentries' =>
      rcases flatMap_zipIdx_added (fun e n => [harCapture e n]) before after entry with ⟨hold, hnew⟩
      unfold CapturedSource.captures at hsource ⊢
      dsimp only at hsource ⊢
      rw [hentries, harCaptures_eq, hold] at hsource
      rw [hversion, hentries', harCaptures_eq, hnew]
      split_ifs at hsource ⊢ with hsupported
      cases hsource
      refine ⟨_, _, _, harCapture entry before.length, rfl, rfl, ?_, ?_⟩
      · exact (List.forall₂_cons.mp (harCapture_alike entry number before.length)).1
      · exact alike_zipIdx harCapture_alike after _ _
  -- A `.http` file: a section brings the captures of its lines.
  | @http text text' lines _ number hlines hadded hcapture =>
      have hne : lines ≠ [] := by
        rintro rfl
        cases hcapture
      rcases closedSections_added hadded hlines hne with ⟨before, after, hclosed, hclosed'⟩
      rcases flatMap_zipIdx_added httpCapture before after lines with ⟨hold, hnew⟩
      unfold CapturedSource.captures at hsource ⊢
      dsimp only at hsource ⊢
      rw [httpCaptures_eq, hclosed, hold] at hsource
      rw [httpCaptures_eq, hclosed', hnew]
      cases hsource
      have halike := httpCapture_alike lines number before.length
      rw [hcapture] at halike
      generalize hc : httpCapture lines before.length = found at halike
      cases halike with
      | @cons _ c' _ _ hc' hrest =>
          cases hrest
          exact ⟨_, _, _, c', rfl, rfl, hc', alike_zipIdx httpCapture_alike after _ _⟩
  -- Postman: the collections differ in the items only.
  | @postman collection collection' item request inner innermost _ _ number hsame hadded hitem hrequest
      hcaptures =>
      rcases collection_congr hsame with ⟨hbase, hsupported, htop⟩
      have hwalk (collection : Value) : postmanCaptures lib collection =
          (walkPostmanItems lib (.top collection) "#/item" 0 0
            (((collection.get "item").bind Value.asArray).getD [])).1 := rfl
      rcases @walk_added lib _ _ _ _ _ _ _ _ hadded hitem hrequest 0 with
        ⟨before, after, after', m, hold, hnew, halike⟩
      rcases @postmanItem_number lib inner item request innermost number m with
        ⟨first, c₀, c', hfirst, hsecond, hc⟩
      rw [hcaptures] at hfirst
      rcases List.append_inj' hfirst rfl with ⟨rfl, hlast⟩
      cases hlast
      rw [hsecond] at hnew
      unfold CapturedSource.captures at hsource ⊢
      dsimp only at hsource ⊢
      rw [hwalk, hold] at hsource
      rw [hwalk, htop, hnew, hbase, hsupported]
      split_ifs at hsource ⊢ with hsupported
      cases hsource
      exact ⟨before, after, after', c', rfl, rfl, hc, halike⟩

end Kahea
