import Kahea.Base.Nested
import Kahea.Base.Table
import Kahea.Plan.Request

/-!
# Reading Inputs

What the planner reads out of an input document and the explicit fields, and
what a returned plan records of it.

Of the two names of a section the first one in the document counts, name by
name, and an explicit field counts over both (`fromOptions_reads`). Every value
that is read is declared, a declared value must have been taken by a parameter,
and what a parameter takes is recorded in the derivations of the plan:
`plan_records`.

## Main definitions

* `documentValue`, `explicitValue`, `suppliedValue`: The value that is supplied
  for a location and a name.
* `writtenBody`: The body with the explicit fields written into it.
* `Records`: A plan records a value.

## Theorems

* `fromOptions_reads`: What is read.
* `plan_records`: What is recorded.
-/

namespace Kahea

/-! ### What is supplied -/

/-- The sections values are read for. -/
def isLocation (name : Str) : Bool := oneOf ["path", "query", "header", "cookie"] name

/-- The location a section name stands for. -/
def canonicalSection (name : Str) : Str :=
  if name = "headers" then "header" else if name = "cookies" then "cookie" else name

/-- The second name of a section. -/
def pluralSection (location : Str) : Option Str :=
  if location = "header" then some "headers" else if location = "cookie" then some "cookies"
  else none

/-- The members of an input document with sections; any other document is the
    body. -/
def structuredMembers (input : Option Value) : List (Str × Value) :=
  match input with
  | none => []
  | some document => match document.asObject with
    | some members =>
        if members.any (fun e => Inputs.isSection e.1 || e.1 = "body") then members
        else [("body", document)]
    | none => [("body", document)]

/-- The members of a section. -/
def sectionMembers (root : List (Str × Value)) (name : Str) : List (Str × Value) :=
  ((lookup name root).bind Value.asObject).getD []

/-- The value a plural section has for a name. -/
def pluralValue (root : List (Str × Value)) (location name : Str) : Option Value :=
  (pluralSection location).bind (fun plural => lookup name (sectionMembers root plural))

/-- The value a document has for a location and a name. -/
def documentValue (root : List (Str × Value)) (location name : Str) : Option Value :=
  (lookup name (sectionMembers root location)).or (pluralValue root location name)

/-- The location and the name an explicit field is for. -/
def fieldKey (key : Str) : Option (Str × Str) :=
  (splitOnce "." key).map (fun parts => (canonicalSection parts.1, parts.2))

/-- The value the explicit fields have for a location and a name: the last
    one counts. -/
def explicitValue (explicit : List (Str × Value)) (location name : Str) : Option Value :=
  explicit.reverse.findSome? (fun field =>
    if fieldKey field.1 = some (location, name) then some field.2 else none)

/-- The value that is supplied for a location and a name. -/
def suppliedValue (input : Option Value) (explicit : List (Str × Value)) (location name : Str) :
    Option Value :=
  (explicitValue explicit location name).or
    (documentValue (structuredMembers input) location name)

/-- The explicit fields of the body, with their paths. -/
def bodyFields (explicit : List (Str × Value)) : List (List Str × Value) :=
  explicit.filterMap (fun field => (splitOnce "." field.1).bind (fun parts =>
    if parts.1 = "body" then some (parts.2.splitOn '.', field.2) else none))

/-- A body with the explicit fields written into it. -/
def writtenBody (explicit : List (Str × Value)) (body : Option Value) : Option (Option Value) :=
  if (bodyFields explicit).isEmpty then some body
  else (putAll (bodyFields explicit) (body.getD (.object []))).map some

theorem isLocation_iff {location : Str} : isLocation location = true ↔
    location = "path".toList ∨ location = "query".toList ∨ location = "header".toList ∨
      location = "cookie".toList := by
  simp only [isLocation, oneOf, List.any_cons, List.any_nil, Bool.or_eq_true, beq_iff_eq,
    Bool.or_false, eq_comm (a := location)]

/-- The names a location is read under. -/
theorem canonicalSection_eq {location name : Str} (hlocation : isLocation location = true) :
    canonicalSection name = location ↔ name = location ∨ pluralSection location = some name := by
  unfold canonicalSection
  split_ifs with hheaders hcookies
  · subst hheaders
    rcases isLocation_iff.mp hlocation with rfl | rfl | rfl | rfl <;> decide
  · subst hcookies
    rcases isLocation_iff.mp hlocation with rfl | rfl | rfl | rfl <;> decide
  · refine (or_iff_left (fun hplural => ?_)).symm
    unfold pluralSection at hplural
    split_ifs at hplural
    · exact hheaders (Option.some.inj hplural).symm
    · exact hcookies (Option.some.inj hplural).symm

/-- A location is its own canonical name. -/
theorem canonicalSection_location {location : Str} (hlocation : isLocation location = true) :
    canonicalSection location = location := by
  rcases isLocation_iff.mp hlocation with rfl | rfl | rfl | rfl <;> rfl

/-- The plural name comes after the singular one. -/
theorem pluralSection_after {location plural : Str} (h : pluralSection location = some plural) :
    strLt plural location = false ∧ plural ≠ location := by
  unfold pluralSection at h
  split_ifs at h with hheader hcookie
  · rw [hheader, ← Option.some.inj h]
    decide
  · rw [hcookie, ← Option.some.inj h]
    decide

/-- The first member of an ordered object, as a section or as another name of
    it, and the rest. -/
theorem documentValue_cons {entry : Str × Value} {root : List (Str × Value)} {location : Str}
    (hordered : Ordered (entry :: root)) (hlocation : isLocation location = true) (name : Str) :
    documentValue (entry :: root) location name =
      (if canonicalSection entry.1 = location then lookup name (entry.2.asObject.getD [])
        else none).or (documentValue root location name) := by
  have hafter : ∀ e ∈ root, strLt entry.1 e.1 = true := (List.pairwise_cons.mp hordered).1
  have habsent {key : Str} (hkey : strLt entry.1 key = false) : sectionMembers root key = [] := by
    unfold sectionMembers
    rw [lookup_eq_none_of_notMem (fun e he heq => ?_)]
    · rfl
    · rw [← heq, hafter e he] at hkey
      exact absurd hkey (by decide)
  have hother {key : Str} (hkey : entry.1 ≠ key) :
      sectionMembers (entry :: root) key = sectionMembers root key := by
    unfold sectionMembers
    rw [lookup, if_neg hkey]
  have hsame : sectionMembers (entry :: root) entry.1 = entry.2.asObject.getD [] := by
    unfold sectionMembers
    rw [lookup, if_pos rfl]
    rfl
  unfold documentValue pluralValue
  by_cases hcanonical : canonicalSection entry.1 = location
  · rw [if_pos hcanonical]
    rcases (canonicalSection_eq hlocation).mp hcanonical with rfl | hplural
    · -- The singular section, which comes before the plural one.
      rw [hsame, habsent (strLt_irrefl _), lookup_nil, Option.none_or]
      congr 1
      cases hplural : pluralSection entry.1 with
      | none => rfl
      | some plural =>
          rw [Option.bind_some, Option.bind_some, hother (pluralSection_after hplural).2.symm]
    · -- The plural section, after which no singular one comes.
      rcases pluralSection_after hplural with ⟨hlt, hne⟩
      rw [hother hne, habsent hlt, lookup_nil, Option.none_or, Option.none_or, hplural,
        Option.bind_some, Option.bind_some, hsame, habsent (strLt_irrefl _), lookup_nil,
        Option.or_none]
  · rw [if_neg hcanonical, Option.none_or]
    rw [canonicalSection_eq hlocation, not_or] at hcanonical
    rw [hother hcanonical.1]
    congr 1
    cases hplural : pluralSection location with
    | none => rfl
    | some plural =>
        rw [Option.bind_some, Option.bind_some,
          hother (fun heq => hcanonical.2 (hplural.trans (congrArg some heq.symm)))]

theorem explicitValue_cons (field : Str × Value) (rest : List (Str × Value)) (location name : Str) :
    explicitValue (field :: rest) location name = (explicitValue rest location name).or
      (if fieldKey field.1 = some (location, name) then some field.2 else none) := by
  unfold explicitValue
  rw [List.reverse_cons, List.findSome?_append, List.findSome?_cons, List.findSome?_nil]
  congr 1
  split_ifs <;> rfl

theorem writtenBody_some (explicit : List (Str × Value)) (body : Value) :
    writtenBody explicit (some body) = (putAll (bodyFields explicit) body).map some := by
  unfold writtenBody
  cases bodyFields explicit with
  | nil => rfl
  | cons field fields => rfl

/-- An explicit field of a parameter leaves the body as it is. -/
theorem writtenBody_parameter {field : Str × Value} {location name : Str}
    (hfield : splitOnce "." field.1 = some (location, name)) (hlocation : location ≠ "body".toList)
    (rest : List (Str × Value)) (body : Option Value) :
    writtenBody (field :: rest) body = writtenBody rest body := by
  have hfields : bodyFields (field :: rest) = bodyFields rest := by
    unfold bodyFields
    rw [List.filterMap_cons, hfield, Option.bind_some, if_neg hlocation]
  unfold writtenBody
  rw [hfields]

/-- An explicit field of the body is written first. -/
theorem writtenBody_field {field : Str × Value} {name : Str} {body : Option Value} {written : Value}
    (hfield : splitOnce "." field.1 = some ("body".toList, name))
    (hwritten : putAt field.2 (name.splitOn '.') (body.getD (.object [])) = some written)
    (rest : List (Str × Value)) :
    writtenBody (field :: rest) body = writtenBody rest (some written) := by
  have hfields : bodyFields (field :: rest) = (name.splitOn '.', field.2) :: bodyFields rest := by
    unfold bodyFields
    rw [List.filterMap_cons, hfield, Option.bind_some, if_pos rfl]
  rw [writtenBody_some]
  unfold writtenBody
  rw [hfields, List.isEmpty_cons, if_neg Bool.false_ne_true, putAll, List.foldlM_cons, hwritten]
  rfl

/-! ### Reading a document -/

theorem isLocation_of_isSection {name : Str} (h : Inputs.isSection name = true) :
    isLocation (canonicalSection name) = true := by
  simp only [Inputs.isSection, oneOf, List.any_cons, List.any_nil, Bool.or_eq_true, beq_iff_eq,
    Bool.or_false, eq_comm (b := name)] at h
  rcases h with rfl | rfl | rfl | rfl | rfl | rfl <;> decide

theorem dot_notMem_location {location : Str} (h : isLocation location = true) : '.' ∉ location := by
  rcases isLocation_iff.mp h with rfl | rfl | rfl | rfl <;> decide

theorem fieldKey_dotted {location : Str} (h : isLocation location = true) (name : Str) :
    fieldKey (location ++ '.' :: name) = some (location, name) := by
  have hsplit : splitOnce ".".toList (location ++ '.' :: name) = some (location, name) :=
    splitOnce_singleton (dot_notMem_location h) name
  unfold fieldKey
  rw [hsplit, Option.map_some, canonicalSection_location h]

theorem fieldKey_undotted : fieldKey "body".toList = none := by decide

theorem fieldKey_body (name : Str) :
    fieldKey ("body.".toList ++ name) = some ("body".toList, name) := by
  have hdot : '.' ∉ "body".toList := by decide
  have hsplit : splitOnce ".".toList ("body.".toList ++ name) = some ("body".toList, name) :=
    splitOnce_singleton hdot name
  unfold fieldKey
  rw [hsplit]
  rfl

/-- Every value is declared, under its own name or the plural one. -/
def Declares (inputs : Inputs) : Prop :=
  ∀ location name, isLocation location = true → (lookup name (inputs.valuesOf location)).isSome →
    ∃ key ∈ inputs.declared, fieldKey key = some (location, name)

theorem insertBodyAt_putAt {path : Str} {value v r : Value} {segments : List Str}
    (hsegments : segments ≠ []) (h : insertBodyAt path value segments v = .ok r) :
    putAt value segments v = some r := by
  -- By the segments; only an object has members to go into.
  induction segments generalizing v r with
  | nil => exact absurd rfl hsegments
  | cons segment rest ih =>
      cases v with
      | object members =>
          cases rest with
          | nil =>
              cases h
              rfl
          | cons next rest =>
              rw [insertBodyAt, except_bind_ok] at h
              · rcases h with ⟨child, hchild, h⟩
                rw [except_pure_ok] at h
                rw [putAt, ih (List.cons_ne_nil next rest) hchild, ← h]
                rfl
              · exact fun hnil => absurd hnil (List.cons_ne_nil next rest)
      | null => cases rest <;> cases h
      | bool b => cases rest <;> cases h
      | number n => cases rest <;> cases h
      | string s => cases rest <;> cases h
      | array items => cases rest <;> cases h

theorem insertBodyValue_putAt {body written : Option Value} {path : Str} {value : Value}
    (h : insertBodyValue body path value = .ok written) :
    ∃ v, written = some v ∧ putAt value (path.splitOn '.') (body.getD (.object [])) = some v := by
  unfold insertBodyValue at h
  cases hinsert : insertBodyAt path value (path.splitOn '.') (body.getD (.object [])) with
  | error e =>
      rw [hinsert] at h
      cases h
  | ok v =>
      rw [hinsert] at h
      cases h
      exact ⟨v, rfl, insertBodyAt_putAt (List.splitOn_ne_nil '.' path) hinsert⟩

namespace Inputs

theorem lookup_store (m : List (Str × Value)) (name other : Str) (value : Value) (override : Bool) :
    lookup other (store m name value override) =
      if other = name then (if override then some value else (lookup name m).or (some value))
      else lookup other m := by
  unfold store
  by_cases hother : other = name
  · subst hother
    rw [if_pos rfl]
    -- Without the override a value that is there stays.
    cases override with
    | true => rw [Bool.true_or, if_pos rfl, if_pos rfl, lookup_insert_self]
    | false =>
        rw [Bool.false_or, if_neg Bool.false_ne_true]
        cases hthere : lookup other m with
        | none => rw [Option.isNone_none, if_pos rfl, lookup_insert_self, Option.none_or]
        | some v =>
            rw [Option.isNone_some, if_neg Bool.false_ne_true, Option.some_or]
            exact hthere
  · rw [if_neg hother]
    split_ifs
    · exact lookup_insert_of_ne hother value m
    · rfl

/-- Inserting a value stores it in its location, or writes it into the body. -/
theorem insertValue_ok {inputs inputs' : Inputs} {key : Str} {value : Value} {override : Bool}
    (h : inputs.insertValue key value override = .ok inputs') :
    ∃ location name, splitOnce "." key = some (location, name) ∧ inputs'.used = inputs.used ∧
      inputs'.declared = (location ++ '.' :: name) :: inputs.declared ∧
      (isLocation (canonicalSection location) = true ∧ inputs'.body = inputs.body ∧
          (∀ l, isLocation l = true → inputs'.valuesOf l = if canonicalSection location = l then
            store (inputs.valuesOf l) name value override else inputs.valuesOf l) ∨
        location = "body".toList ∧ (∀ l, inputs'.valuesOf l = inputs.valuesOf l) ∧
          insertBodyValue inputs.body name value = .ok inputs'.body) := by
  unfold insertValue at h
  cases hsplit : splitOnce "." key with
  | none =>
      rw [hsplit] at h
      cases h
  | some parts =>
      rcases parts with ⟨location, name⟩
      rw [hsplit] at h
      dsimp only at h
      refine ⟨location, name, rfl, ?_⟩
      -- One branch for each section name, the four places and the body.
      split_ifs at h with hpath hquery hheader hcookie hbody
      · cases h
        subst hpath
        refine ⟨rfl, rfl, Or.inl ⟨by decide, rfl, fun l hl => ?_⟩⟩
        rcases isLocation_iff.mp hl with rfl | rfl | rfl | rfl
        · exact (if_pos (by decide)).symm
        · exact (if_neg (by decide)).symm
        · exact (if_neg (by decide)).symm
        · exact (if_neg (by decide)).symm
      · cases h
        subst hquery
        refine ⟨rfl, rfl, Or.inl ⟨by decide, rfl, fun l hl => ?_⟩⟩
        rcases isLocation_iff.mp hl with rfl | rfl | rfl | rfl
        · exact (if_neg (by decide)).symm
        · exact (if_pos (by decide)).symm
        · exact (if_neg (by decide)).symm
        · exact (if_neg (by decide)).symm
      · cases h
        -- Headers and cookies have a second name, in the plural.
        have hcanonical : canonicalSection location = "header".toList := by
          rcases hheader with rfl | rfl <;> decide
        refine ⟨rfl, rfl, Or.inl ⟨by rw [hcanonical]; decide, rfl, fun l hl => ?_⟩⟩
        rw [hcanonical]
        rcases isLocation_iff.mp hl with rfl | rfl | rfl | rfl
        · exact (if_neg (by decide)).symm
        · exact (if_neg (by decide)).symm
        · exact (if_pos (by decide)).symm
        · exact (if_neg (by decide)).symm
      · cases h
        have hcanonical : canonicalSection location = "cookie".toList := by
          rcases hcookie with rfl | rfl <;> decide
        refine ⟨rfl, rfl, Or.inl ⟨by rw [hcanonical]; decide, rfl, fun l hl => ?_⟩⟩
        rw [hcanonical]
        rcases isLocation_iff.mp hl with rfl | rfl | rfl | rfl
        · exact (if_neg (by decide)).symm
        · exact (if_neg (by decide)).symm
        · exact (if_neg (by decide)).symm
        · exact (if_pos (by decide)).symm
      · rw [except_bind_ok] at h
        rcases h with ⟨body, hinsert, h⟩
        rw [except_pure_ok] at h
        subst h hbody
        exact ⟨rfl, rfl, Or.inr ⟨rfl, fun _ => rfl, hinsert⟩⟩

end Inputs

/-- An insertion keeps values declared. -/
theorem declares_insertValue {inputs inputs' : Inputs} {key : Str} {value : Value} {override : Bool}
    (h : inputs.insertValue key value override = .ok inputs') (hdeclares : Declares inputs) :
    Declares inputs' := by
  rcases Inputs.insertValue_ok h with ⟨location, name, hsplit, _, hdeclared, hplaced⟩
  intro l n hl hthere
  have hbefore (hsome : (lookup n (inputs.valuesOf l)).isSome) :
      ∃ key ∈ inputs'.declared, fieldKey key = some (l, n) := by
    rcases hdeclares l n hl hsome with ⟨key, hkey, heq⟩
    rw [hdeclared]
    exact ⟨key, List.mem_cons_of_mem _ hkey, heq⟩
  rcases hplaced with ⟨_, _, hvalues⟩ | ⟨_, hvalues, _⟩
  · rw [hvalues l hl] at hthere
    by_cases hcanonical : canonicalSection location = l
    · rw [if_pos hcanonical, Inputs.lookup_store] at hthere
      by_cases hname : n = name
      · -- The new value; its key is the first of the declared ones.
        refine ⟨location ++ '.' :: name, by rw [hdeclared]; exact List.mem_cons_self, ?_⟩
        have hkey : key = location ++ '.' :: name := by
          rw [splitOnce_eq_some _ _ _ _ hsplit, List.append_assoc]
          rfl
        unfold fieldKey
        rw [← hkey, hsplit, Option.map_some, hcanonical, hname]
      · rw [if_neg hname] at hthere
        exact hbefore hthere
    · rw [if_neg hcanonical] at hthere
      exact hbefore hthere
  · rw [hvalues l] at hthere
    exact hbefore hthere

/-- What reading a part of a document adds, where it does not override. -/
structure ReadsMore (value : Str → Str → Option Value) (body : Option Value)
    (inputs inputs' : Inputs) : Prop where
  used : inputs'.used = inputs.used
  values : ∀ location, isLocation location = true → ∀ name,
    lookup name (inputs'.valuesOf location) =
      (lookup name (inputs.valuesOf location)).or (value location name)
  body : inputs'.body = body.or inputs.body
  declares : Declares inputs → Declares inputs'

/-- The members of one section are read. -/
theorem readsMore_members {location : Str} (hlocation : isLocation location = true)
    {members : List (Str × Value)}
    {inputs inputs' : Inputs}
    (h : members.foldlM (fun acc e => acc.insertValue (location ++ '.' :: e.1) e.2 false) inputs =
      .ok inputs') :
    ReadsMore (fun l n => if location = l then lookup n members else none) none inputs inputs' := by
  -- By the members, each stored under its name.
  induction members generalizing inputs with
  | nil =>
      rw [List.foldlM_nil, except_pure_ok] at h
      subst h
      refine ⟨rfl, fun l _ n => ?_, rfl, id⟩
      rw [lookup_nil, ite_self, Option.or_none]
  | cons e rest ih =>
      rw [List.foldlM_cons, except_bind_ok] at h
      rcases h with ⟨next, hinsert, h⟩
      have htail := ih h
      rcases Inputs.insertValue_ok hinsert with ⟨section₁, name, hsplit, hused, _, hplaced⟩
      have hparts : splitOnce ".".toList (location ++ '.' :: e.1) = some (location, e.1) :=
        splitOnce_singleton (dot_notMem_location hlocation) e.1
      rw [hparts, Option.some.injEq, Prod.mk.injEq] at hsplit
      -- The place has no dot, so the key splits where it was joined.
      rcases hsplit with ⟨rfl, rfl⟩
      rcases hplaced with ⟨_, hbody, hvalues⟩ | ⟨hbody, _, _⟩
      · refine
          { used := htail.used.trans hused
            values := fun l hl n => ?_
            body := by rw [htail.body, hbody]
            declares := fun hdeclares => htail.declares (declares_insertValue hinsert hdeclares) }
        rw [htail.values l hl n, hvalues l hl, canonicalSection_location hlocation]
        -- Of this place only this name changes; a member read before is kept.
        by_cases hsame : location = l
        · rw [if_pos hsame, if_pos hsame, if_pos hsame, Inputs.lookup_store, lookup]
          by_cases hname : n = e.1
          · rw [if_pos hname, if_neg Bool.false_ne_true, if_pos hname.symm, hname, Option.or_assoc,
              Option.some_or]
          · rw [if_neg hname, if_neg (Ne.symm hname)]
        · rw [if_neg hsame, if_neg hsame, if_neg hsame]
      · rw [hbody] at hlocation
        exact absurd hlocation (by decide)

/-- One member of a document is read. -/
theorem readsMore_section {inputs inputs' : Inputs} {entry : Str × Value}
    (h : inputs.applySection entry = .ok inputs') :
    ReadsMore (fun l n => if canonicalSection entry.1 = l then
        lookup n (entry.2.asObject.getD []) else none)
      (if entry.1 = "body" then some entry.2 else none) inputs inputs' := by
  unfold Inputs.applySection at h
  dsimp only at h
  -- A section of parameters is read member by member.
  by_cases hsection : Inputs.isSection entry.1 = true
  · rw [if_pos hsection] at h
    have hlocation := isLocation_of_isSection hsection
    have hnotBody : entry.1 ≠ "body".toList := by
      intro hbody
      rw [hbody] at hsection
      exact absurd hsection (by decide)
    rw [if_neg hnotBody]
    cases hobject : entry.2.asObject with
    | none =>
        rw [hobject] at h
        cases h
    | some members =>
        rw [hobject] at h
        exact readsMore_members hlocation h
  · rw [if_neg hsection] at h
    split_ifs at h with hbody
    -- The body is taken as it stands.
    cases h
    rw [if_pos hbody, hbody]
    refine ⟨rfl, fun l hl n => ?_, rfl, fun hdeclares l n hl hthere => ?_⟩
    · have hother : canonicalSection "body".toList ≠ l := by
        rintro rfl
        exact absurd hl (by decide)
      rw [if_neg hother, Option.or_none]
      rfl
    · rcases hdeclares l n hl hthere with ⟨key, hkey, heq⟩
      exact ⟨key, List.mem_cons_of_mem _ hkey, heq⟩

/-- The members of a document are read in their order. -/
theorem readsMore_document {root : List (Str × Value)} (hordered : Ordered root)
    {inputs inputs' : Inputs} (h : root.foldlM Inputs.applySection inputs = .ok inputs') :
    ReadsMore (documentValue root) (lookup "body" root) inputs inputs' := by
  -- By the sections of the document.
  induction root generalizing inputs with
  | nil =>
      rw [List.foldlM_nil, except_pure_ok] at h
      subst h
      refine ⟨rfl, fun l _ n => ?_, rfl, id⟩
      have hnone : documentValue [] l n = none := by
        unfold documentValue pluralValue
        cases pluralSection l <;> rfl
      rw [hnone, Option.or_none]
  | cons entry rest ih =>
      rw [List.foldlM_cons, except_bind_ok] at h
      rcases h with ⟨next, hentry, h⟩
      have hhead := readsMore_section hentry
      have htail := ih (List.pairwise_cons.mp hordered).2 h
      refine
        { used := htail.used.trans hhead.used
          values := fun l hl n => ?_
          body := ?_
          declares := fun hdeclares => htail.declares (hhead.declares hdeclares) }
      · rw [htail.values l hl n, hhead.values l hl n, Option.or_assoc,
          documentValue_cons hordered hl n]
      -- The keys are ordered, so the body comes once.
      · rw [htail.body, hhead.body, lookup]
        by_cases hbody : entry.1 = "body".toList
        · have hafter : lookup "body".toList rest = none := by
            refine lookup_eq_none_of_notMem (fun e he heq => ?_)
            have hlt := (List.pairwise_cons.mp hordered).1 e he
            rw [hbody, heq, strLt_irrefl] at hlt
            exact absurd hlt (by decide)
          rw [if_pos hbody, if_pos hbody, hafter, Option.none_or, Option.some_or]
        · rw [if_neg hbody, if_neg hbody, Option.none_or]

theorem applyDocument_eq (inputs : Inputs) (document : Value) :
    inputs.applyDocument document = (structuredMembers (some document)).foldlM
      Inputs.applySection inputs := by
  unfold Inputs.applyDocument structuredMembers
  dsimp only
  cases document.asObject with
  | none => rfl
  | some members =>
      dsimp only
      split_ifs
      · rfl
      · rfl

/-! ### Explicit fields -/

/-- What the explicit fields change. -/
structure Overrides (explicit : List (Str × Value)) (inputs inputs' : Inputs) : Prop where
  used : inputs'.used = inputs.used
  values : ∀ location, isLocation location = true → ∀ name,
    lookup name (inputs'.valuesOf location) =
      (explicitValue explicit location name).or (lookup name (inputs.valuesOf location))
  body : writtenBody explicit inputs.body = some inputs'.body
  declares : Declares inputs → Declares inputs'

theorem overrides_explicit {explicit : List (Str × Value)} {inputs inputs' : Inputs}
    (h : explicit.foldlM (fun acc e => acc.insertValue e.1 e.2 true) inputs = .ok inputs') :
    Overrides explicit inputs inputs' := by
  -- By the fields; a later one counts over an earlier one.
  induction explicit generalizing inputs with
  | nil =>
      rw [List.foldlM_nil, except_pure_ok] at h
      subst h
      exact ⟨rfl, fun _ _ _ => rfl, rfl, id⟩
  | cons field rest ih =>
      rw [List.foldlM_cons, except_bind_ok] at h
      rcases h with ⟨next, hinsert, h⟩
      have htail := ih h
      rcases Inputs.insertValue_ok hinsert with ⟨location, name, hsplit, hused, _, hplaced⟩
      have hkey : fieldKey field.1 = some (canonicalSection location, name) := by
        unfold fieldKey
        rw [hsplit]
        rfl
      refine
        { used := htail.used.trans hused
          values := fun l hl n => ?_
          body := ?_
          declares := fun hdeclares => htail.declares (declares_insertValue hinsert hdeclares) }
      · rw [htail.values l hl n, explicitValue_cons, Option.or_assoc, hkey]
        congr 1
        -- A field of a parameter replaces the value at its place.
        rcases hplaced with ⟨_, _, hvalues⟩ | ⟨hbody, hvalues, _⟩
        · rw [hvalues l hl]
          by_cases hsame : canonicalSection location = l
          · rw [if_pos hsame, Inputs.lookup_store]
            by_cases hname : n = name
            · rw [if_pos hname, if_pos rfl, hsame, hname, if_pos rfl, Option.some_or]
            · rw [if_neg hname, if_neg (fun heq => hname (Prod.mk.inj (Option.some.inj heq)).2.symm),
                Option.none_or]
          · rw [if_neg hsame, if_neg (fun heq => hsame (Prod.mk.inj (Option.some.inj heq)).1),
              Option.none_or]
        · rw [hvalues l, if_neg, Option.none_or]
          intro heq
          have hcanonical := (Prod.mk.inj (Option.some.inj heq)).1
          rw [hbody] at hcanonical
          rw [← hcanonical] at hl
          exact absurd hl (by decide)
      -- A field of the body is put where its name says.
      · rcases hplaced with ⟨hlocation, hbody, _⟩ | ⟨rfl, _, hbody⟩
        · have hother : location ≠ "body".toList := by
            rintro rfl
            exact absurd hlocation (by decide)
          rw [writtenBody_parameter hsplit hother, ← hbody, htail.body]
        · rcases insertBodyValue_putAt hbody with ⟨written, hnext, hput⟩
          rw [writtenBody_field hsplit hput, ← hnext, htail.body]

/-- What is read out of a document and the explicit fields. -/
theorem fromOptions_reads {input : Option Value} {explicit : List (Str × Value)} {inputs : Inputs}
    (hordered : Ordered (structuredMembers input))
    (h : Inputs.fromOptions input explicit = .ok inputs) :
    inputs.used = [] ∧ Declares inputs ∧
      (∀ location, isLocation location = true → ∀ name,
        lookup name (inputs.valuesOf location) = suppliedValue input explicit location name) ∧
      writtenBody explicit (lookup "body" (structuredMembers input)) = some inputs.body := by
  -- First the document is read, then the fields.
  have hparts : ∃ read, (structuredMembers input).foldlM Inputs.applySection Inputs.default =
      .ok read ∧ explicit.foldlM (fun acc e => acc.insertValue e.1 e.2 true) read = .ok inputs := by
    unfold Inputs.fromOptions at h
    cases input with
    | none =>
        rcases except_bind_ok.mp h with ⟨read, hread, h⟩
        exact ⟨read, hread, h⟩
    | some document =>
        rcases except_bind_ok.mp h with ⟨read, hread, h⟩
        rw [applyDocument_eq] at hread
        exact ⟨read, hread, h⟩
  rcases hparts with ⟨read, hread, hexplicit⟩
  -- Both start from nothing.
  have hempty (l n : Str) : lookup n (Inputs.default.valuesOf l) = none := by
    unfold Inputs.valuesOf
    split_ifs <;> rfl
  have hnone : Declares Inputs.default := by
    intro l n _ hthere
    rw [hempty] at hthere
    cases hthere
  have hmore : ReadsMore (documentValue (structuredMembers input))
      (lookup "body" (structuredMembers input)) Inputs.default read :=
    readsMore_document hordered hread
  have hover := overrides_explicit hexplicit
  refine ⟨hover.used.trans hmore.used, hover.declares (hmore.declares hnone), fun l hl n => ?_, ?_⟩
  · rw [hover.values l hl n, hmore.values l hl n, hempty, Option.none_or]
    rfl
  · rw [← hover.body, hmore.body]
    exact congrArg _ (Option.or_none).symm

/-! ### What a plan records -/

/-- The derivations record a value for a field, and no other one. -/
def Records (derivations : List FieldDerivation) (field : Str) (value : Value) : Prop :=
  (∃ d ∈ derivations, d.field = field) ∧ ∀ d ∈ derivations, d.field = field → d.logicalValue = value

/-- The fields of the derivations are parameters, and what was read is
    recorded for each of them. -/
structure Bound (inputs : Inputs) (b : Bindings) : Prop where
  state : ∃ used, b.inputs = { inputs with used := used }
  taken : ∀ key ∈ b.inputs.used, key ∈ inputs.used ∨ ∃ d ∈ b.derivations, d.field = key
  recorded : ∀ d ∈ b.derivations, ∃ location name, isLocation location = true ∧
    d.field = location ++ '.' :: name ∧
      ∀ value, lookup name (inputs.valuesOf location) = some value → d.logicalValue = value

theorem placeParameter_records {b b' : Bindings} {location name provenance : Str} {value : Value}
    {wires : List Str} (h : placeParameter b location name value provenance wires = .ok b') :
    isLocation location = true ∧ b'.inputs = b.inputs ∧
      ∃ d, b'.derivations = b.derivations ++ [d] ∧ d.field = location ++ '.' :: name ∧
        d.logicalValue = value := by
  unfold placeParameter at h
  dsimp only at h
  split_ifs at h with hpath hquery hheader hcookie
  · cases h
    exact ⟨by rw [hpath]; decide, rfl, _, rfl, rfl, rfl⟩
  · cases h
    exact ⟨by rw [hquery]; decide, rfl, _, rfl, rfl, rfl⟩
  · cases h
    exact ⟨by rw [hheader]; decide, rfl, _, rfl, rfl, rfl⟩
  · cases h
    exact ⟨by rw [hcookie]; decide, rfl, _, rfl, rfl, rfl⟩

/-- What the value of a parameter is, and what it marks as taken. -/
theorem parameterValue_takes (inputs : Inputs) (parameter : List (Str × Value))
    (location name : Str) :
    (∀ value, lookup name (inputs.valuesOf location) = some value →
      (parameterValue inputs parameter location name).1 = some (value, "explicit-input".toList)) ∧
    ∀ key ∈ (parameterValue inputs parameter location name).2.used, key ∈ inputs.used ∨
      key = location ++ '.' :: name ∧
        ((parameterValue inputs parameter location name).1).isSome := by
  unfold parameterValue Inputs.take
  cases lookup name (inputs.valuesOf location) with
  | none =>
      refine ⟨fun value h => ?_, fun key hkey => Or.inl hkey⟩
      cases h
  | some found =>
      refine ⟨fun value h => ?_, fun key hkey => ?_⟩
      · cases h
        rfl
      · rcases List.mem_cons.mp hkey with rfl | hkey
        · exact Or.inr ⟨rfl, rfl⟩
        · exact Or.inl hkey

/-- The step of the parameter loop records what it takes. -/
theorem bound_bindParameter {source : OpenApiSource} {stack : Nat} {inputs : Inputs}
    {b b' : Bindings} {parameter : List (Str × Value)} (hbound : Bound inputs b)
    (h : bindParameter source stack b parameter = .ok b') : Bound inputs b' := by
  rcases hbound.state with ⟨used, hinputs⟩
  unfold bindParameter at h
  split at h
  rename_i location name hkey
  split at h
  -- A parameter without a name or a place binds nothing.
  · cases h
    exact hbound
  have hvalues : b.inputs.valuesOf location = inputs.valuesOf location := by rw [hinputs]; rfl
  rcases parameterValue_takes b.inputs parameter location name with ⟨hfound, hused⟩
  have hsame := parameterValue_inputs b.inputs parameter location name
  rw [hvalues] at hfound
  split at h
  -- Without a value nothing is recorded.
  · rename_i read hvalue
    rw [hvalue] at hused hsame
    dsimp only at h
    split at h
    · cases h
    · cases h
      refine ⟨?_, fun key hkey => ?_, hbound.recorded⟩
      · rcases hsame with ⟨used', hsame⟩
        exact ⟨used', by rw [hinputs] at hsame; exact hsame⟩
      · rcases hused key hkey with hbefore | ⟨_, hsome⟩
        · exact hbound.taken key hbefore
        · cases hsome
  · rename_i value provenance read hvalue
    rw [hvalue] at hused hsame hfound
    rw [except_bind_ok] at h
    rcases h with ⟨_, _, h⟩
    rw [except_bind_ok] at h
    rcases h with ⟨wires, _, hplace⟩
    rcases placeParameter_records hplace with ⟨hlocation, hafter, d, hderivations, hfield, hlogical⟩
    refine ⟨?_, fun key hkey => ?_, fun d' hd' => ?_⟩
    -- With one, a derivation is recorded for it, and its key counts as used.
    · rcases hsame with ⟨used', hsame⟩
      exact ⟨used', by rw [hafter]; rw [hinputs] at hsame; exact hsame⟩
    · rw [hafter] at hkey
      rw [hderivations]
      rcases hused key hkey with hbefore | ⟨rfl, _⟩
      · exact (hbound.taken key hbefore).imp_right (fun ⟨d', hd', heq⟩ =>
          ⟨d', List.mem_append_left _ hd', heq⟩)
      · exact Or.inr ⟨d, List.mem_append_right _ (List.mem_singleton_self d), hfield⟩
    · rw [hderivations] at hd'
      rcases List.mem_append.mp hd' with hd' | hd'
      · exact hbound.recorded d' hd'
      · rw [List.mem_singleton.mp hd']
        refine ⟨location, name, hlocation, hfield, fun v hv => ?_⟩
        have heq := hfound v hv
        rw [Option.some.injEq, Prod.mk.injEq] at heq
        rw [hlogical, heq.1]

theorem bound_bindParameters {source : OpenApiSource} {operation : OperationDefinition} {stack : Nat}
    {inputs : Inputs} {b : Bindings}
    (h : bindParameters source operation stack inputs = .ok b) : Bound inputs b := by
  unfold bindParameters at h
  rw [except_bind_ok] at h
  rcases h with ⟨declared, _, hfold⟩
  refine except_foldlM_invariant (Bound inputs) hfold ?_
    (fun _ _ _ _ hstep hbound => bound_bindParameter hbound hstep)
  exact ⟨⟨inputs.used, rfl⟩, fun key hkey => Or.inl hkey, fun d hd => absurd hd List.not_mem_nil⟩

section

variable {lib : Crates} {world : World} {source : OpenApiSource} {operation : OperationDefinition}
  {options : PlanOptions} {configuration : ProjectConfiguration} {past : List Event}

/-- What binding a body records, and what it marks as taken. -/
theorem bindBody_records {inputs : Inputs} {bound : BoundBody}
    (h : (bindBody lib world source operation inputs options past).1 = .ok bound) :
    (∀ body, inputs.body = some body → ∃ d, bound.derivations = [d] ∧ d.field = "body".toList ∧
        d.logicalValue = body) ∧
      (∀ d ∈ bound.derivations, d.field = "body".toList) ∧
      bound.inputs.declared = inputs.declared ∧
      ∀ key ∈ bound.inputs.used, key = "body".toList ∨ startsWith "body." key = true ∨
        key ∈ inputs.used := by
  -- Taking the body marks its own keys as used, and declares none.
  have htaken : (bodyValue operation inputs).2.declared = inputs.declared ∧
      ∀ key ∈ (bodyValue operation inputs).2.used, key = "body".toList ∨
        startsWith "body." key = true ∨ key ∈ inputs.used := by
    unfold bodyValue
    cases inputs.body with
    | none => exact ⟨rfl, fun key hkey => Or.inr (Or.inr hkey)⟩
    | some body =>
        refine ⟨rfl, fun key hkey => ?_⟩
        rcases List.mem_cons.mp hkey with rfl | hkey
        · exact Or.inl rfl
        · rcases List.mem_append.mp hkey with hkey | hkey
          · exact Or.inr (Or.inl (List.mem_filter.mp hkey).2)
          · exact Or.inr (Or.inr hkey)
  -- A body that is given comes before the captured one.
  have hvalue (body : Value) (hbody : inputs.body = some body) :
      (bodyValue operation inputs).1 = some (body, "explicit-input".toList) := by
    unfold bodyValue
    rw [hbody]
  unfold bindBody at h
  cases hrequest : lookup "requestBody" operation.operation with
  | none =>
      rw [hrequest] at h
      dsimp only at h
      -- An operation without a body refuses one that is given.
      split_ifs at h with hsome
      · cases h
      · cases h
        refine ⟨fun body hbody => ?_, fun d hd => absurd hd List.not_mem_nil, rfl,
          fun key hkey => Or.inr (Or.inr hkey)⟩
        rw [hbody] at hsome
        exact absurd rfl hsome
  | some requestBodyValue =>
      rw [hrequest] at h
      rcases Eff.ofExcept_bind_ok h with ⟨requestBody, _, h⟩
      rcases hbound : bodyValue operation inputs with ⟨_ | ⟨body, provenance⟩, inputs'⟩
      · rw [hbound] at h hvalue htaken
        dsimp only at h
        split_ifs at h
        · cases h
        · cases h
          exact ⟨fun body hbody => absurd (hvalue body hbody) nofun,
            fun d hd => absurd hd List.not_mem_nil, htaken.1, htaken.2⟩
      · rw [hbound] at h hvalue htaken
        rcases Eff.ofExcept_bind_ok h with ⟨media, _, h⟩
        rcases Eff.ofExcept_bind_ok h with ⟨_, _, h⟩
        rcases Eff.bind_ok h with ⟨wire, _, h⟩
        cases h
        refine ⟨fun body' hbody => ?_, fun d hd => ?_, htaken.1, htaken.2⟩
        -- One derivation is recorded, for the body as a whole.
        · have heq := hvalue body' hbody
          rw [Option.some.injEq, Prod.mk.injEq] at heq
          exact ⟨_, rfl, rfl, heq.1⟩
        · rw [List.mem_singleton.mp hd]
          rfl

/-- The stages of the planner the supplied values pass. -/
theorem planParts_reads {parts : PlanParts}
    (h : (planParts lib world source operation options configuration past).1 = .ok parts) :
    ∃ inputs, Inputs.fromOptions options.input options.explicit = .ok inputs ∧
      bindParameters source operation world.stack inputs = .ok parts.bindings ∧
      (bindBody lib world source operation parts.bindings.inputs (options.withDefaults configuration)
        past).1 = .ok parts.body ∧ parts.body.inputs.rejectUnused = .ok () := by
  unfold planParts at h
  -- The stages of the planner; the inputs, the bindings and the body are kept.
  rcases Eff.ofExcept_bind_ok h with ⟨_, _, h⟩
  rcases Eff.ofExcept_bind_ok h with ⟨inputs, hinputs, h⟩
  rcases Eff.ofExcept_bind_ok h with ⟨server, _, h⟩
  rcases Eff.ofExcept_bind_ok h with ⟨bindings, hbindings, h⟩
  rcases Eff.ofExcept_bind_ok h with ⟨_, _, h⟩
  rcases Eff.ofExcept_bind_ok h with ⟨base, _, h⟩
  rcases Eff.bind_ok h with ⟨body, hbody, h⟩
  rcases Eff.ofExcept_bind_ok h with ⟨auth, _, h⟩
  rcases Eff.ofExcept_bind_ok h with ⟨_, hunused, h⟩
  rcases Eff.ofExcept_bind_ok h with ⟨hostPort, _, h⟩
  rcases Eff.ofExcept_bind_ok h with ⟨_, _, h⟩
  rcases Eff.ofExcept_bind_ok h with ⟨grants, _, h⟩
  rcases Eff.ofExcept_bind_ok h with ⟨_, _, h⟩
  rcases Eff.ofExcept_bind_ok h with ⟨_, _, h⟩
  rcases Eff.ofExcept_bind_ok h with ⟨fingerprint, _, h⟩
  cases h
  exact ⟨inputs, hinputs, hbindings, hbody, hunused⟩

/-- Every declared value has been taken. -/
theorem rejectUnused_ok {inputs : Inputs} (h : inputs.rejectUnused = .ok ()) :
    ∀ key ∈ inputs.declared, key ∈ inputs.used ∨ key = "body".toList ∨
      startsWith "body." key = true := by
  unfold Inputs.rejectUnused at h
  intro key hkey
  split at h
  · cases h
  · rename_i hnone
    have hone := List.find?_eq_none.mp hnone key (by rw [mem_sortStrings]; exact hkey)
    simp only [Bool.and_eq_true, Bool.not_eq_true', List.contains_eq_mem, decide_eq_false_iff_not,
      decide_eq_true_eq, not_and, Bool.not_eq_false, ne_eq] at hone
    by_cases hused : key ∈ inputs.used
    · exact Or.inl hused
    · by_cases hbody : key = "body".toList
      · exact Or.inr (Or.inl hbody)
      · exact Or.inr (Or.inr (hone ⟨hused, hbody⟩))

/-- A plan records what was read: each supplied value of a parameter, and the
    body. -/
theorem plan_records {plan : RequestPlan}
    (hordered : Ordered (structuredMembers options.input))
    (h : (buildPlanWithConfiguration lib world source operation options configuration past).1
      = .ok plan) :
    (∀ location, isLocation location = true → ∀ name value,
        suppliedValue options.input options.explicit location name = some value →
          Records plan.derivations (location ++ '.' :: name) value) ∧
      ∃ body, writtenBody options.explicit (lookup "body" (structuredMembers options.input)) =
          some body ∧
        ∀ value, body = some value → Records plan.derivations "body" value := by
  rcases buildPlanWithConfiguration_ok h with ⟨parts, hparts, _, rfl⟩
  rcases planParts_reads hparts with ⟨inputs, hinputs, hbindings, hbody, hunused⟩
  rcases fromOptions_reads hordered hinputs with ⟨hused, hdeclares, hvalues, hwritten⟩
  have hbound := bound_bindParameters hbindings
  rcases bindBody_records hbody with ⟨hrecorded, hfields, hdeclared, htaken⟩
  rcases hbound.state with ⟨used, hafter⟩
  have hderivations : ((parts.assemble lib source operation options.checks configuration).sealed
      lib).derivations = parts.bindings.derivations ++ parts.body.derivations := rfl
  rw [hderivations]
  constructor
  · intro location hlocation name value hsupplied
    rw [← hvalues location hlocation name] at hsupplied
    constructor
    · -- The key is declared, so it was taken, which only a parameter does.
      rcases hdeclares location name hlocation (by rw [hsupplied]; rfl) with ⟨key, hkey, heq⟩
      have hmem : key ∈ parts.body.inputs.declared := by rw [hdeclared, hafter]; exact hkey
      have hparameter : key ≠ "body".toList ∧ ¬ startsWith "body." key = true := by
        refine ⟨?_, fun hstarts => ?_⟩
        · rintro rfl
          rw [fieldKey_undotted] at heq
          cases heq
        · rw [startsWith, List.isPrefixOf_iff_prefix] at hstarts
          rcases hstarts with ⟨rest, rfl⟩
          have hbodyKey := fieldKey_body rest
          rw [hbodyKey, Option.some.injEq, Prod.mk.injEq] at heq
          rw [← heq.1] at hlocation
          exact absurd hlocation (by decide)
      have hkeyUsed : key ∈ parts.bindings.inputs.used := by
        rcases rejectUnused_ok hunused key hmem with hin | hnot | hnot
        · rcases htaken key hin with hnot | hnot | hin
          · exact absurd hnot hparameter.1
          · exact absurd hnot hparameter.2
          · exact hin
        · exact absurd hnot hparameter.1
        · exact absurd hnot hparameter.2
      rcases hbound.taken key hkeyUsed with hin | ⟨d, hd, hfield⟩
      · rw [hused] at hin
        exact absurd hin List.not_mem_nil
      · rcases hbound.recorded d hd with ⟨l, n, hl, hdfield, _⟩
        rw [← hfield, hdfield, fieldKey_dotted hl, Option.some.injEq, Prod.mk.injEq] at heq
        refine ⟨d, List.mem_append_left _ hd, ?_⟩
        rw [hdfield, ← heq.1, ← heq.2]
    · intro d hd hfield
      rcases List.mem_append.mp hd with hd | hd
      · rcases hbound.recorded d hd with ⟨l, n, hl, hdfield, hvalue⟩
        have hsame := congrArg fieldKey (hdfield.symm.trans hfield)
        rw [fieldKey_dotted hl, fieldKey_dotted hlocation, Option.some.injEq, Prod.mk.injEq] at hsame
        rw [hsame.1, hsame.2] at hvalue
        exact hvalue value hsupplied
      · have hkey := congrArg fieldKey ((hfields d hd).symm.trans hfield)
        rw [fieldKey_dotted hlocation, fieldKey_undotted] at hkey
        cases hkey
  · refine ⟨inputs.body, hwritten, fun value hvalue => ?_⟩
    rcases hrecorded value (by rw [hafter]; exact hvalue) with ⟨d, hsingle, hfield, hlogical⟩
    rw [hsingle]
    refine ⟨⟨d, List.mem_append_right _ (List.mem_singleton_self d), hfield⟩, fun d' hd' heq => ?_⟩
    rcases List.mem_append.mp hd' with hd' | hd'
    · rcases hbound.recorded d' hd' with ⟨l, n, hl, hdfield, _⟩
      have hkey := congrArg fieldKey (hdfield.symm.trans heq)
      rw [fieldKey_dotted hl, fieldKey_undotted] at hkey
      cases hkey
    · rw [List.mem_singleton.mp hd']
      exact hlogical

end

end Kahea
