import Kahea.Conformance.Generation

/-!
# Baselines of Campaigns

What a campaign keeps of its baseline: the values that are pinned, in a section
of either name or by an explicit field, and the body.

Generation fills the sections of the singular names and completes the body, and
the planner then reads the result as it reads any document. The body that is
sent contains the pinned one, and a pinned value is bound unless it stands in a
plural section only and a value is generated for the same name: the singular
section comes first. `baseline_kept_iff` is that condition.

## Main definitions

* `KeepsPinned`: A request carries what is pinned.
* `filledValue`: The value that is generated for a location and a name.
* `Unshadowed`: No generated value stands before a pinned one.
* `PreservesBaseline`: Every positive case of a campaign carries what is
  pinned.

## Theorems

* `merged_explicit`: The baseline with the explicit fields.
* `filled_parameters`, `contains_completeValue`: What generation adds.
* `positive_kept_iff`: When the request of one variant carries what is pinned.
* `baseline_kept_iff`: When a campaign does.
-/

namespace Kahea

/-! ### What is pinned -/

/-- A request carries what is pinned: the value of each parameter, and a body
    with all parts of the pinned one. -/
structure KeepsPinned (input : Option Value) (explicit : List (Str × Value)) (request : RequestPlan) :
    Prop where
  parameters : ∀ location, isLocation location = true → ∀ name value,
    suppliedValue input explicit location name = some value →
      Records request.derivations (location ++ '.' :: name) value
  body : ∃ body, writtenBody explicit (lookup "body" (structuredMembers input)) = some body ∧
    ∀ pinned, body = some pinned →
      ∃ value, Records request.derivations "body" value ∧ Contains pinned value

/-- The parameter of a location and a name. -/
def declaresParameter (parameter : Value) (location name : Str) : Bool :=
  (parameter.get "in").bind Value.asStr = some location &&
    (parameter.get "name").bind Value.asStr = some name

section

variable (lib : Crates) (number : Value → Nat → Str → Except ConformanceError Value)
  (source : OpenApiSource) (operation : OperationDefinition)

/-- The value that is generated for a location and a name on account of one
    parameter: every required one has a value, the others for two variants of
    three. -/
def filledBy (variant : Nat) (location name : Str) (parameter : Value) : Option Value :=
  (resolveLocal source.document parameter "parameter").toOption.bind (fun parameter =>
    if declaresParameter parameter location name &&
        (requiredParameter parameter location || variant % 3 ≠ 0) then
      (generateParameter lib number source variant parameter name).toOption
    else none)

/-- The value that is generated for a location and a name. -/
def filledValue (variant : Nat) (location name : Str) : Option Value :=
  (declaredParameters operation).findSome? (filledBy lib number source variant location name)

/-- Where only a plural section has a value for a name, a value that is
    generated for it is the same. -/
def Unshadowed (input : Option Value) (explicit : List (Str × Value)) (variant : Nat) : Prop :=
  ∀ location name value generated, pluralValue (structuredMembers input) location name = some value →
    lookup name (sectionMembers (structuredMembers input) location) = none →
    explicitValue explicit location name = none →
    filledValue lib number source operation variant location name = some generated →
      generated = value

end

/-! ### Sections of a document -/

/-- A section that is set. -/
theorem sectionMembers_insert_self (root : List (Str × Value)) (location : Str)
    (members : List (Str × Value)) :
    sectionMembers (insert location (.object members) root) location = members := by
  unfold sectionMembers
  rw [lookup_insert_self]
  rfl

/-- Every other section stays. -/
theorem sectionMembers_insert_ne {location key : Str} (h : location ≠ key) (v : Value)
    (root : List (Str × Value)) :
    sectionMembers (insert key v root) location = sectionMembers root location := by
  unfold sectionMembers
  rw [lookup_insert_of_ne h]

/-- The document has a section or a body. -/
def Sectioned (root : List (Str × Value)) : Prop :=
  ∃ key, (Inputs.isSection key || key = "body") = true ∧ (lookup key root).isSome

theorem structuredMembers_of_sectioned {root : List (Str × Value)} (h : Sectioned root) :
    structuredMembers (some (.object root)) = root := by
  rcases h with ⟨key, hkey, hsome⟩
  rcases Option.isSome_iff_exists.mp hsome with ⟨v, hv⟩
  exact if_pos (List.any_eq_true.mpr ⟨(key, v), lookup_mem hv, hkey⟩)

/-- Inserting removes no section. -/
theorem sectioned_insert {root : List (Str × Value)} (h : Sectioned root) (k : Str) (v : Value) :
    Sectioned (insert k v root) := by
  rcases h with ⟨key, hkey, hsome⟩
  refine ⟨key, hkey, ?_⟩
  by_cases hk : key = k
  · rw [hk, lookup_insert_self]
    rfl
  · rw [lookup_insert_of_ne hk]
    exact hsome

theorem sectioned_location {location : Str} (h : isLocation location = true) (v : Value)
    (root : List (Str × Value)) : Sectioned (insert location v root) := by
  refine ⟨location, ?_, by rw [lookup_insert_self]; rfl⟩
  rcases isLocation_iff.mp h with rfl | rfl | rfl | rfl <;> decide

theorem sectioned_body (v : Value) (root : List (Str × Value)) :
    Sectioned (insert "body" v root) :=
  ⟨"body", by decide, by rw [lookup_insert_self]; rfl⟩

/-- What the sections are read from is such a document. -/
theorem sectioned_structuredMembers (document : Value) :
    Sectioned (structuredMembers (some document)) := by
  have hbody : Sectioned [("body".toList, document)] := ⟨"body", by decide, rfl⟩
  unfold structuredMembers
  dsimp only
  cases document.asObject with
  | none => exact hbody
  | some members =>
      dsimp only
      split_ifs with hany
      · rcases List.any_eq_true.mp hany with ⟨e, he, hsection⟩
        refine ⟨e.1, hsection, ?_⟩
        exact lookup_isSome_of_mem he
      · exact hbody

/-! ### The merged baseline -/

theorem insertNested_putAt {path : Str} {value v r : Value} {segments : List Str}
    (h : insertNested path value segments v = .ok r) : putAt value segments v = some r := by
  -- By the segments; only an object has members to go into.
  induction segments generalizing v r with
  | nil => cases h
  | cons segment rest ih =>
      cases v with
      | object members =>
          cases rest with
          | nil =>
              cases h
              rfl
          | cons next rest =>
              rw [insertNested, except_bind_ok] at h
              · rcases h with ⟨child, hchild, h⟩
                rw [except_pure_ok] at h
                rw [putAt, ih hchild, ← h]
                rfl
              · exact fun hnil => absurd hnil (List.cons_ne_nil next rest)
      | null => cases rest <;> cases h
      | bool b => cases rest <;> cases h
      | number n => cases rest <;> cases h
      | string s => cases rest <;> cases h
      | array items => cases rest <;> cases h

/-- What merging explicit fields into a document changes. -/
structure Merged (explicit : List (Str × Value)) (root root' : List (Str × Value)) : Prop where
  ordered : Ordered root → Ordered root'
  sections : ∀ location, isLocation location = true → ∀ name,
    lookup name (sectionMembers root' location) =
      (explicitValue explicit location name).or (lookup name (sectionMembers root location))
  others : ∀ key, isLocation key = false → key ≠ "body".toList → lookup key root' = lookup key root
  body : writtenBody explicit (lookup "body" root) = some (lookup "body" root')
  sectioned : explicit = [] ∧ root' = root ∨ Sectioned root'

/-- The explicit values are merged in, one after the other. -/
theorem merged_explicit {explicit : List (Str × Value)} {root root' : List (Str × Value)}
    (h : explicit.foldlM mergeExplicit root = .ok root') : Merged explicit root root' := by
  -- By the fields: `Merged` composes, the later field being the one that counts.
  induction explicit generalizing root with
  | nil =>
      rw [List.foldlM_nil, except_pure_ok] at h
      subst h
      exact ⟨id, fun _ _ _ => rfl, fun _ _ _ => rfl, rfl, Or.inl ⟨rfl, rfl⟩⟩
  | cons field rest ih =>
      rw [List.foldlM_cons, except_bind_ok] at h
      rcases h with ⟨next, hfield, h⟩
      have htail := ih h
      -- A document that has its sections keeps them through the rest.
      have hsectioned (hnext : Sectioned next) : Sectioned root' := by
        rcases htail.sectioned with ⟨_, heq⟩ | hsectioned
        · rw [heq]
          exact hnext
        · exact hsectioned
      unfold mergeExplicit at hfield
      cases hsplit : splitOnce "." field.1 with
      | none =>
          rw [hsplit] at hfield
          cases hfield
      | some parts =>
          rcases parts with ⟨location, name⟩
          have hkey : fieldKey field.1 = some (canonicalSection location, name) := by
            unfold fieldKey
            rw [hsplit]
            rfl
          rw [hsplit] at hfield
          dsimp only at hfield
          split_ifs at hfield with hbody hlocation
          · -- A field of the body.
            have hplain : location = "body".toList := by
              unfold canonicalSection at hbody
              split_ifs at hbody with hheaders hcookies
              · exact absurd hbody (by decide)
              · exact absurd hbody (by decide)
              · exact hbody
            subst hplain
            rw [except_bind_ok] at hfield
            rcases hfield with ⟨body, hinsert, hfield⟩
            rw [except_pure_ok] at hfield
            subst hfield
            refine
              { ordered := fun hordered => htail.ordered (ordered_insert hordered _ _)
                sections := fun l hl n => ?_
                others := fun key hkey hne => by
                  rw [htail.others key hkey hne, lookup_insert_of_ne hne]
                body := ?_
                sectioned := Or.inr (hsectioned (sectioned_body body root)) }
            · have hother : l ≠ "body".toList := by
                rintro rfl
                exact absurd hl (by decide)
              rw [htail.sections l hl n, sectionMembers_insert_ne hother, explicitValue_cons, hkey,
                if_neg, Option.or_none]
              exact fun heq => hother ((Prod.mk.inj (Option.some.inj heq)).1.symm.trans hbody)
            · rw [writtenBody_field hsplit (insertNested_putAt hinsert), ← htail.body,
                lookup_insert_self]
          · -- A field of a section.
            -- Any other field goes to the section of its location, which must be an object.
            have hother : location ≠ "body".toList := by
              rintro rfl
              exact hbody rfl
            cases hmembers : ((lookup (canonicalSection location) root).getD (.object [])).asObject with
            | none =>
                rw [hmembers] at hfield
                cases hfield
            | some members =>
                rw [hmembers] at hfield
                cases hfield
                have hsame : sectionMembers root (canonicalSection location) = members := by
                  unfold sectionMembers
                  cases hthere : lookup (canonicalSection location) root with
                  | none =>
                      rw [hthere] at hmembers
                      cases hmembers
                      rfl
                  | some v =>
                      rw [hthere, Option.getD_some] at hmembers
                      rw [Option.bind_some, hmembers]
                      rfl
                refine
                  { ordered := fun hordered => htail.ordered (ordered_insert hordered _ _)
                    sections := fun l hl n => ?_
                    others := fun key hkey hne => ?_
                    body := ?_
                    sectioned := Or.inr (hsectioned (sectioned_location hlocation _ root)) }
                · rw [htail.sections l hl n, explicitValue_cons, hkey, Option.or_assoc]
                  -- Of all the names only this one is written, in this section only.
                  congr 1
                  by_cases hl' : l = canonicalSection location
                  · subst hl'
                    rw [sectionMembers_insert_self, hsame]
                    by_cases hn : n = name
                    · rw [hn, lookup_insert_self, if_pos rfl, Option.some_or]
                    · rw [lookup_insert_of_ne hn, if_neg, Option.none_or]
                      exact fun heq => hn (Prod.mk.inj (Option.some.inj heq)).2.symm
                  · rw [sectionMembers_insert_ne hl', if_neg, Option.none_or]
                    exact fun heq => hl' (Prod.mk.inj (Option.some.inj heq)).1.symm
                · rw [htail.others key hkey hne, lookup_insert_of_ne]
                  rintro rfl
                  rw [hlocation] at hkey
                  cases hkey
                · rw [writtenBody_parameter hsplit hother, ← htail.body, lookup_insert_of_ne]
                  intro heq
                  rw [← heq] at hlocation
                  exact absurd hlocation (by decide)

/-! ### What generation adds -/

section

variable {lib : Crates} {number : Value → Nat → Str → Except ConformanceError Value}
  {source : OpenApiSource} {operation : OperationDefinition}

/-- What is there of an object is still there when it is completed. -/
theorem contains_completeProperty {generate : Value → Nat → Str → Except ConformanceError Value}
    {complete : Value → Nat → Str → Value → Except ConformanceError Value}
    (hcomplete : ∀ schema variant path baseline r, complete schema variant path baseline = .ok r →
      Contains baseline r)
    {schema : Value} {variant : Nat} {path : Str} {existing object object' : List (Str × Value)}
    {property : (Str × Value) × Nat}
    (h : completeProperty lib generate complete schema variant path existing object property =
      .ok object')
    (hkept : ∀ name w, lookup name existing = some w →
      ∃ w', lookup name object = some w' ∧ Contains w w') :
    ∀ name w, lookup name existing = some w → ∃ w', lookup name object' = some w' ∧ Contains w w' := by
  intro name w hw
  unfold completeProperty at h
  dsimp only at h
  -- A property the client may not write is left as the baseline has it.
  by_cases hreadOnly : readOnlyProperty property.1.2 = true
  · rw [if_pos hreadOnly] at h
    cases h
    exact hkept name w hw
  rw [if_neg hreadOnly] at h
  cases hthere : lookup property.1.1 existing with
  | some value =>
      rw [hthere] at h
      dsimp only at h
      cases hcompleted : complete property.1.2 (variantFor lib variant property.1.1)
          (path ++ '.' :: property.1.1) value with
      | error e =>
          rw [hcompleted] at h
          cases h
      | ok r =>
          rw [hcompleted] at h
          cases h
          -- A property already there is completed in its place, the others stay.
          by_cases hname : name = property.1.1
          · subst hname
            rw [hthere, Option.some.injEq] at hw
            subst hw
            exact ⟨r, lookup_insert_self _ _ _, hcomplete _ _ _ _ _ hcompleted⟩
          · rw [lookup_insert_of_ne hname]
            exact hkept name w hw
  | none =>
      rw [hthere] at h
      dsimp only at h
      -- One that is missing is added, so no name of the baseline is overwritten.
      split_ifs at h with hadded
      · unfold addProperty at h
        cases hgenerated : generate property.1.2 (variantFor lib variant property.1.1)
            (path ++ '.' :: property.1.1) with
        | error e =>
            rw [hgenerated] at h
            cases h
        | ok r =>
            rw [hgenerated] at h
            cases h
            have hname : name ≠ property.1.1 := by
              rintro rfl
              rw [hthere] at hw
              cases hw
            rw [lookup_insert_of_ne hname]
            exact hkept name w hw
      · cases h
        exact hkept name w hw

/-- A completed value has all parts of the one it was made from. -/
theorem contains_completeValue {levels : Nat} {schema baseline r : Value} {variant : Nat} {path : Str}
    (h : completeValue lib number source levels schema variant path baseline = .ok r) :
    Contains baseline r := by
  induction levels generalizing schema baseline r variant path with
  | zero => cases h
  | succ levels ih =>
      unfold completeValue at h
      rw [except_bind_ok] at h
      rcases h with ⟨resolved, _, h⟩
      -- Only an object with declared properties is completed.
      split at h
      · rename_i existing properties hexisting _
        rw [except_bind_ok] at h
        rcases h with ⟨object, hfold, h⟩
        rw [except_pure_ok] at h
        subst h
        have hbaseline : baseline = .object existing := by
          cases baseline with
          | object members =>
              cases hexisting
              rfl
          | null => cases hexisting
          | bool b => cases hexisting
          | number n => cases hexisting
          | string s => cases hexisting
          | array items => cases hexisting
        rw [hbaseline]
        -- The invariant of the fold: every member of the baseline is still there.
        refine contains_object (except_foldlM_invariant
          (fun object => ∀ name w, lookup name existing = some w →
            ∃ w', lookup name object = some w' ∧ Contains w w') hfold
          (fun name w hw => ⟨w, hw, contains_refl w⟩) ?_)
        intro property _ object object' hstep hkept
        exact contains_completeProperty (fun _ _ _ _ _ hok => ih hok) hstep hkept
      · rw [except_pure_ok] at h
        rw [h]
        exact contains_refl r

/-- What filling in one parameter changes. -/
structure Filled (value : Str → Str → Option Value) (root root' : List (Str × Value)) : Prop where
  ordered : Ordered root → Ordered root'
  sections : ∀ location, isLocation location = true → ∀ name,
    lookup name (sectionMembers root' location) =
      (lookup name (sectionMembers root location)).or (value location name)
  others : ∀ key, isLocation key = false → lookup key root' = lookup key root
  sectioned : Sectioned root → Sectioned root'

/-- One parameter is filled where nothing is given. -/
theorem filled_parameter {variant : Nat} {root root' : List (Str × Value)} {parameter : Value}
    (h : fillParameter lib number source variant root parameter = .ok root') :
    Filled (fun location name => filledBy lib number source variant location name parameter)
      root root' := by
  unfold fillParameter at h
  rw [except_bind_ok] at h
  rcases h with ⟨resolved, hresolved, h⟩
  cases hname : (resolved.get "name").bind Value.asStr with
  | none =>
      rw [hname] at h
      cases h
  | some name =>
  cases hin : (resolved.get "in").bind Value.asStr with
  | none =>
      rw [hname, hin] at h
      cases h
  | some location =>
  rw [hname, hin] at h
  dsimp only at h
  split_ifs at h with hunsupported
  rw [Bool.not_eq_true', Bool.not_eq_false] at hunsupported
  cases hmembers : ((lookup location root).getD (.object [])).asObject with
  | none =>
      rw [hmembers] at h
      cases h
  | some members =>
  rw [hmembers] at h
  dsimp only at h
  have hsame : sectionMembers root location = members := by
    unfold sectionMembers
    cases hthere : lookup location root with
    | none =>
        rw [hthere] at hmembers
        cases hmembers
        rfl
    | some v =>
        rw [hthere, Option.getD_some] at hmembers
        rw [Option.bind_some, hmembers]
        rfl
  -- The section that is put back has the generated value, or is as it was.
  have hother (l n : Str) (hne : ¬ (l = location ∧ n = name)) :
      filledBy lib number source variant l n parameter = none := by
    unfold filledBy declaresParameter
    rw [hresolved]
    simp only [Except.toOption, Option.bind_some]
    rw [if_neg]
    rw [hname, hin, Bool.and_eq_true, Bool.and_eq_true, decide_eq_true_eq, decide_eq_true_eq,
      Option.some.injEq, Option.some.injEq]
    exact fun hall => hne ⟨hall.1.1.symm, hall.1.2.symm⟩
  have hself : filledBy lib number source variant location name parameter =
      if requiredParameter resolved location || variant % 3 ≠ 0 then
        (generateParameter lib number source variant resolved name).toOption else none := by
    unfold filledBy declaresParameter
    rw [hresolved]
    simp only [Except.toOption, Option.bind_some, hname, hin, decide_true, Bool.and_self,
      Bool.true_and]
  have hput (members' : List (Str × Value))
      (hlookup : ∀ n, lookup n members' = (lookup n members).or
        (filledBy lib number source variant location n parameter))
      (hroot : root' = insert location (.object members') root) :
      Filled (fun location name => filledBy lib number source variant location name parameter)
        root root' := by
    subst hroot
    refine
      { ordered := fun hordered => ordered_insert hordered _ _
        sections := fun l hl n => ?_
        others := fun key hkey => ?_
        sectioned := fun hsectioned => sectioned_insert hsectioned _ _ }
    · by_cases hl' : l = location
      · rw [hl', sectionMembers_insert_self, hsame]
        exact hlookup n
      · rw [sectionMembers_insert_ne hl', hother l n (fun hboth => hl' hboth.1), Option.or_none]
    · rw [lookup_insert_of_ne]
      rintro rfl
      rw [hunsupported] at hkey
      cases hkey
  split_ifs at h with hfills
  · rw [except_bind_ok] at h
    rcases h with ⟨value, hvalue, h⟩
    rw [except_pure_ok] at h
    refine hput (insert name value members) (fun n => ?_) h.symm
    by_cases hn : n = name
    · subst hn
      have hnone := Option.isNone_iff_eq_none.mp hfills.1
      rw [lookup_insert_self, hnone, Option.none_or, hself, if_pos hfills.2, hvalue]
      rfl
    · rw [lookup_insert_of_ne hn, hother location n (fun hboth => hn hboth.2), Option.or_none]
  · rw [except_pure_ok] at h
    refine hput members (fun n => ?_) h.symm
    by_cases hn : n = name
    · subst hn
      cases hthere : lookup n members with
      | some v => rw [Option.some_or]
      | none =>
          rw [hthere] at hfills
          rw [Option.none_or, hself, if_neg (fun hfill => hfills ⟨rfl, hfill⟩)]
    · rw [hother location n (fun hboth => hn hboth.2), Option.or_none]

/-- All parameters. The induction is on those declared. -/
theorem filled_parameters {variant : Nat} {parameters : List Value} {root root' : List (Str × Value)}
    (h : parameters.foldlM (fillParameter lib number source variant) root = .ok root') :
    Filled (fun location name =>
      parameters.findSome? (filledBy lib number source variant location name)) root root' := by
  -- By the parameters: the first that fills a place is the one that counts.
  induction parameters generalizing root with
  | nil =>
      rw [List.foldlM_nil, except_pure_ok] at h
      subst h
      exact ⟨id, fun _ _ _ => Option.or_none.symm, fun _ _ => rfl, id⟩
  | cons parameter rest ih =>
      rw [List.foldlM_cons, except_bind_ok] at h
      rcases h with ⟨next, hparameter, h⟩
      have hhead := filled_parameter hparameter
      have htail := ih h
      refine
        { ordered := fun hordered => htail.ordered (hhead.ordered hordered)
          sections := fun l hl n => ?_
          others := fun key hkey => (htail.others key hkey).trans (hhead.others key hkey)
          sectioned := fun hsectioned => htail.sectioned (hhead.sectioned hsectioned) }
      rw [htail.sections l hl n, hhead.sections l hl n, Option.or_assoc, List.findSome?_cons]
      congr 1
      cases filledBy lib number source variant l n parameter <;> rfl

/-- What generation makes of the merged baseline. -/
structure Generated (lib : Crates) (number : Value → Nat → Str → Except ConformanceError Value)
    (source : OpenApiSource) (operation : OperationDefinition) (variant : Nat)
    (root root' : List (Str × Value)) : Prop where
  ordered : Ordered root → Ordered root'
  sections : ∀ location, isLocation location = true → ∀ name,
    lookup name (sectionMembers root' location) = (lookup name (sectionMembers root location)).or
      (filledValue lib number source operation variant location name)
  others : ∀ key, isLocation key = false → key ≠ "body".toList → lookup key root' = lookup key root
  body : ∀ pinned, lookup "body" root = some pinned →
    ∃ body, lookup "body" root' = some body ∧ Contains pinned body
  sectioned : Sectioned root → Sectioned root'

/-- What an input is made of. -/
theorem generated_input {baseline : Option Value} {contentType : Option Str} {variant : Nat}
    {input : Value}
    (h : generatedInput lib number source operation baseline contentType variant = .ok input) :
    ∃ root, input = .object root ∧
      Generated lib number source operation variant (structuredMembers baseline) root := by
  unfold generatedInput at h
  rw [except_bind_ok] at h
  rcases h with ⟨parameters, hparameters, h⟩
  rw [except_bind_ok] at h
  rcases h with ⟨filled, hfilled, h⟩
  rw [except_bind_ok] at h
  rcases h with ⟨schema, _, h⟩
  rw [except_bind_ok] at h
  rcases h with ⟨root, hbody, h⟩
  rw [except_pure_ok] at h
  have hdeclared : parameters = declaredParameters operation := by
    unfold campaignParameters at hparameters
    rw [except_bind_ok] at hparameters
    rcases hparameters with ⟨_, _, hparameters⟩
    exact (except_pure_ok.mp hparameters).symm
  subst hdeclared
  have hsections := filled_parameters hfilled
  have hkept : lookup "body" filled = lookup "body" (structuredMembers baseline) :=
    hsections.others "body" (by decide)
  refine ⟨root, h.symm, ?_⟩
  -- The body is put back completed, or nothing is done.
  have hput : root = filled ∨ ∃ body, root = insert "body" body filled ∧
      ∀ pinned, lookup "body" filled = some pinned → Contains pinned body := by
    unfold fillBody at hbody
    cases schema with
    | none =>
        cases hbody
        exact Or.inl rfl
    | some declared =>
        dsimp only at hbody
        by_cases hfills : (declared.2 || (lookup "body" filled).isSome || variant % 2 = 0) = true
        · rw [if_pos hfills] at hbody
          cases hgenerated : generateWithBaseline lib number source declared.1
              (variantFor lib variant "body") "body" (lookup "body" filled) with
          | error e =>
              rw [hgenerated] at hbody
              cases hbody
          | ok body =>
              rw [hgenerated] at hbody
              cases hbody
              refine Or.inr ⟨body, rfl, fun pinned hpinned => ?_⟩
              rw [hpinned] at hgenerated
              exact contains_completeValue hgenerated
        · rw [if_neg hfills] at hbody
          cases hbody
          exact Or.inl rfl
  rcases hput with rfl | ⟨body, rfl, hcontains⟩
  · exact
      { ordered := hsections.ordered
        sections := hsections.sections
        others := fun key hkey _ => hsections.others key hkey
        body := fun pinned hpinned => ⟨pinned, hkept.trans hpinned, contains_refl pinned⟩
        sectioned := hsections.sectioned }
  · refine
      { ordered := fun hordered => ordered_insert (hsections.ordered hordered) _ _
        sections := fun l hl n => ?_
        others := fun key hkey hne => by
          rw [lookup_insert_of_ne hne]
          exact hsections.others key hkey
        body := fun pinned hpinned =>
          ⟨body, lookup_insert_self _ _ _, hcontains pinned (hkept.trans hpinned)⟩
        sectioned := fun hsectioned => sectioned_insert (hsections.sectioned hsectioned) _ _ }
    have hother : l ≠ "body".toList := by
      rintro rfl
      exact absurd hl (by decide)
    rw [sectionMembers_insert_ne hother]
    exact hsections.sections l hl n

/-! ### One request -/

variable {world : World} {options : ConformanceOptions} {configuration : ProjectConfiguration}

/-- The plural sections are read alike where they agree. -/
theorem pluralValue_congr {root root' : List (Str × Value)}
    (h : ∀ key, isLocation key = false → key ≠ "body".toList → lookup key root' = lookup key root)
    (location name : Str) : pluralValue root' location name = pluralValue root location name := by
  unfold pluralValue pluralSection sectionMembers
  split_ifs
  · rw [Option.bind_some, Option.bind_some, h "headers" (by decide) (by decide)]
  · rw [Option.bind_some, Option.bind_some, h "cookies" (by decide) (by decide)]
  · rfl

theorem isLocation_of_plural {root : List (Str × Value)} {location name : Str} {value : Value}
    (h : pluralValue root location name = some value) : isLocation location = true := by
  unfold pluralValue pluralSection at h
  split_ifs at h with hheader hcookie
  · rw [hheader]
    decide
  · rw [hcookie]
    decide
  · cases h

/-- The body the planner writes the explicit fields into once more still has
    what they made of the baseline. -/
theorem contains_writtenBody {explicit : List (Str × Value)} {before : Option Value}
    {pinned completed : Value} {after : Option Value}
    (hpinned : writtenBody explicit before = some (some pinned)) (hcontains : Contains pinned completed)
    (hafter : writtenBody explicit (some completed) = some after) :
    ∃ value, after = some value ∧ Contains pinned value := by
  rw [writtenBody_some] at hafter
  rcases Option.map_eq_some_iff.mp hafter with ⟨value, hvalue, rfl⟩
  refine ⟨value, rfl, ?_⟩
  unfold writtenBody at hpinned
  cases hfields : bodyFields explicit with
  | nil =>
      rw [hfields] at hvalue
      cases hvalue
      exact hcontains
  | cons field fields =>
      rw [hfields, List.isEmpty_cons, if_neg Bool.false_ne_true, ← hfields] at hpinned
      rcases Option.map_eq_some_iff.mp hpinned with ⟨pinned', hput, heq⟩
      rw [Option.some.inj heq] at hput
      exact contains_putAll hput hvalue hcontains

/-- The request of one variant carries what is pinned exactly when no generated
    value stands before a pinned one. -/
theorem positive_kept_iff {contentType : Option Str} {variant : Nat} {baseline : Option Value}
    {past : List Event} {plan : RequestPlan}
    (hordered : Ordered (structuredMembers options.input))
    (hbaseline : baselineWithExplicit options.input options.plan.explicit = .ok baseline)
    (h : (positivePlan lib number world source operation options configuration baseline contentType
      variant past).1 = .ok plan) :
    KeepsPinned options.input options.plan.explicit plan ↔
      Unshadowed lib number source operation options.input options.plan.explicit variant := by
  unfold positivePlan at h
  rcases Eff.ofExcept_bind_ok h with ⟨input, hinput, hplan⟩
  rw [Eff.mapError, except_mapError_ok] at hplan
  rcases generated_input hinput with ⟨root, rfl, hgenerated⟩
  unfold baselineWithExplicit at hbaseline
  split_ifs at hbaseline with hnone
  · -- Nothing is pinned.
    rcases hnone with ⟨hinput, hexplicit⟩
    rw [Option.isNone_iff_eq_none.mp hinput, hexplicit]
    have hnothing (location name : Str) : suppliedValue none [] location name = none := by
      unfold suppliedValue documentValue pluralValue
      cases pluralSection location <;> rfl
    have hnone : ∀ pinned, (none : Option Value) = some pinned →
        ∃ value, Records plan.derivations "body" value ∧ Contains pinned value :=
      fun pinned hpinned => absurd hpinned (Option.some_ne_none pinned).symm
    refine iff_of_true ⟨fun l _ n v hv => ?_, none, rfl, hnone⟩ (fun l n v w hv => ?_)
    · rw [hnothing] at hv
      cases hv
    · unfold pluralValue at hv
      cases hplural : pluralSection l with
      | none =>
          rw [hplural] at hv
          cases hv
      | some plural =>
          rw [hplural] at hv
          cases hv
  · cases hmerge : options.plan.explicit.foldlM mergeExplicit (structuredMembers options.input) with
    | error e =>
        rw [hmerge] at hbaseline
        cases hbaseline
    | ok merged =>
        rw [hmerge] at hbaseline
        cases hbaseline
        have hmerged := merged_explicit hmerge
        have hsectioned : Sectioned merged := by
          rcases hmerged.sectioned with ⟨hexplicit, heq⟩ | hsectioned
          · cases hinput : options.input with
            | none => exact absurd ⟨by rw [hinput]; rfl, hexplicit⟩ hnone
            | some document =>
                rw [heq, hinput]
                exact sectioned_structuredMembers document
          · exact hsectioned
        rw [structuredMembers_of_sectioned hsectioned] at hgenerated
        have hroot : structuredMembers (some (.object root)) = root :=
          structuredMembers_of_sectioned (hgenerated.sectioned hsectioned)
        have hgeneratedOrdered : Ordered (structuredMembers (some (.object root))) := by
          rw [hroot]
          exact hgenerated.ordered (hmerged.ordered hordered)
        rcases @plan_records lib world source operation { options.plan with
            contentType := contentType, input := some (.object root) } configuration _ plan
            hgeneratedOrdered hplan with ⟨hvalues, body, hbody, hrecords⟩
        rw [hroot] at hbody
        -- What the planner reads for a location and a name.
        have hread (l : Str) (hl : isLocation l = true) (n : Str) :
            suppliedValue (some (.object root)) options.plan.explicit l n =
              (explicitValue options.plan.explicit l n).or
                ((lookup n (sectionMembers (structuredMembers options.input) l)).or
                  ((filledValue lib number source operation variant l n).or
                    (pluralValue (structuredMembers options.input) l n))) := by
          unfold suppliedValue documentValue
          rw [hroot, hgenerated.sections l hl n, hmerged.sections l hl n,
            pluralValue_congr (fun key hkey hne =>
              (hgenerated.others key hkey hne).trans (hmerged.others key hkey hne)),
            Option.or_assoc, Option.or_assoc]
          cases explicitValue options.plan.explicit l n <;> rfl
        have hpinned (l n : Str) : suppliedValue options.input options.plan.explicit l n =
            (explicitValue options.plan.explicit l n).or
              ((lookup n (sectionMembers (structuredMembers options.input) l)).or
                (pluralValue (structuredMembers options.input) l n)) := rfl
        constructor
        · intro hkeeps l n value generated hplural hsection hexplicit hfilled
          have hl := isLocation_of_plural hplural
          have hold : suppliedValue options.input options.plan.explicit l n = some value := by
            rw [hpinned, hexplicit, hsection, hplural]
            rfl
          have hnew : suppliedValue (some (.object root)) options.plan.explicit l n =
              some generated := by
            rw [hread l hl n, hexplicit, hsection, hfilled]
            rfl
          rcases hkeeps.parameters l hl n value hold with ⟨⟨d, hd, hfield⟩, hvalue⟩
          rw [← hvalue d hd hfield]
          exact ((hvalues l hl n generated hnew).2 d hd hfield).symm
        · intro hunshadowed
          refine ⟨fun l hl n value hvalue => hvalues l hl n value ?_, ?_⟩
          · rw [hpinned] at hvalue
            show suppliedValue (some (.object root)) options.plan.explicit l n = some value
            rw [hread l hl n]
            cases hexplicit : explicitValue options.plan.explicit l n with
            | some v =>
                rw [hexplicit] at hvalue
                exact hvalue
            | none =>
                cases hsection : lookup n (sectionMembers (structuredMembers options.input) l) with
                | some v =>
                    rw [hexplicit, hsection] at hvalue
                    exact hvalue
                | none =>
                    rw [hexplicit, hsection, Option.none_or, Option.none_or] at hvalue
                    rw [Option.none_or, Option.none_or]
                    cases hfilled : filledValue lib number source operation variant l n with
                    | none =>
                        rw [Option.none_or]
                        exact hvalue
                    | some generated =>
                        rw [Option.some_or, hunshadowed l n value generated hvalue hsection hexplicit
                          hfilled]
          · refine ⟨_, hmerged.body, fun pinned hpinnedBody => ?_⟩
            rcases hgenerated.body pinned hpinnedBody with ⟨completed, hcompleted, hcontains⟩
            rw [hcompleted] at hbody
            have hwritten := hmerged.body
            rw [hpinnedBody] at hwritten
            rcases contains_writtenBody hwritten hcontains hbody with ⟨value, rfl, hkept⟩
            exact ⟨value, hrecords value rfl, hkept⟩

/-! ### Campaigns -/

theorem mem_addDistinct {plans : List Strategic} {plan p : Strategic} (h : p ∈ addDistinct plans plan) :
    p ∈ plans ∨ p = plan := by
  unfold addDistinct at h
  split_ifs at h
  · exact Or.inl h
  · exact (List.mem_append.mp h).imp_right List.mem_singleton.mp

/-- Every positive plan is the one of a variant. -/
theorem mem_positivePlans {baseline : Option Value} {contentType : Option Str} {indices : List Nat}
    {acc result : List Strategic} {past : List Event}
    (h : (positivePlans lib number world source operation options configuration baseline contentType
      indices acc past).1 = .ok result) {p : Strategic} (hp : p ∈ result) :
    p ∈ acc ∨ ∃ index past',
      p.1 = positiveStrategy (variant lib options.seed index "positive") ∧
        (positivePlan lib number world source operation options configuration baseline contentType
          (variant lib options.seed index "positive") past').1 = .ok p.2 := by
  induction indices generalizing acc past with
  | nil =>
      cases h
      exact Or.inl hp
  | cons index rest ih =>
      unfold positivePlans at h
      rcases Eff.bind_ok h with ⟨plan, hplan, h⟩
      -- A new plan is the one just made, or it was there already.
      have hnew : p ∈ addDistinct acc
          (positiveStrategy (variant lib options.seed index "positive"), plan) →
          p ∈ acc ∨ ∃ index past',
            p.1 = positiveStrategy (variant lib options.seed index "positive") ∧
              (positivePlan lib number world source operation options configuration baseline
                contentType (variant lib options.seed index "positive") past').1 = .ok p.2 := by
        intro hmem
        rcases mem_addDistinct hmem with hmem | rfl
        · exact Or.inl hmem
        · exact Or.inr ⟨index, past, rfl, hplan⟩
      dsimp only at h
      -- The loop stops when it has enough distinct ones.
      split_ifs at h with henough
      · cases h
        exact hnew hp
      · rcases ih h with hmem | hvariant
        · exact hnew hmem
        · exact Or.inr hvariant

/-- A positive case that is selected is one of those offered. -/
theorem mem_interleave {limit : Nat} {positive negative : List Strategic} {s : Selected}
    (h : s ∈ interleave limit positive negative) (hs : s.1 = .positive) : s.2 ∈ positive := by
  -- By the turns of the two lists.
  fun_induction interleave limit positive negative with
  | case1 => cases h
  | case2 p ps negative =>
      rw [List.mem_singleton.mp h]
      exact List.mem_cons_self
  | case3 limit p ps q qs ih =>
      rcases List.mem_cons.mp h with rfl | h
      · exact List.mem_cons_self
      · rcases List.mem_cons.mp h with rfl | h
        · cases hs
        · exact List.mem_cons_of_mem _ (ih h)
  | case4 limit p ps _ ih =>
      rcases List.mem_cons.mp h with rfl | h
      · exact List.mem_cons_self
      · exact List.mem_cons_of_mem _ (ih h)
  | case5 limit q qs ih =>
      rcases List.mem_cons.mp h with rfl | h
      · cases hs
      · exact ih h
  | case6 => cases h

/-- The selected positive cases are among the positive plans. -/
theorem mem_selectCases {mode : ConformanceMode} {limit : Nat} {positive negative : List Strategic}
    {selected : List Selected} (h : selectCases mode limit positive negative = .ok selected)
    {s : Selected} (hs : s ∈ selected) (hpositive : s.1 = .positive) : s.2 ∈ positive := by
  unfold selectCases at h
  rcases except_bind_ok.mp h with ⟨chosen, hchosen, h⟩
  rcases except_bind_ok.mp h with ⟨_, _, h⟩
  rw [except_pure_ok] at h
  subst h
  unfold casesOf at hchosen
  -- Each mode selects from the lists it is named after.
  cases mode with
  | positive =>
      cases hchosen
      rcases List.mem_map.mp hs with ⟨p, hp, rfl⟩
      exact List.mem_of_mem_take hp
  | negative =>
      dsimp only at hchosen
      split_ifs at hchosen
      cases hchosen
      rcases List.mem_map.mp hs with ⟨p, hp, rfl⟩
      cases hpositive
  | mixed =>
      cases hchosen
      exact mem_interleave hs hpositive

/-- What a returned campaign is made of. -/
theorem buildConformancePlan_ok {past : List Event} {campaign : ConformancePlan}
    {requests : List RequestPlan}
    (h : (buildConformancePlan lib source operation options configuration number world past).1 =
      .ok (campaign, requests)) :
    ∃ contentType baseline past' positive negative selected,
      baselineWithExplicit options.input options.plan.explicit = .ok baseline ∧
      (positivePlans lib number world source operation options configuration baseline contentType
        (List.range (attempts options.cases)) [] past').1 = .ok positive ∧
      selectCases options.mode options.cases positive negative = .ok selected ∧
      campaign.cases = selected.zipIdx.map (casePlan lib source operation options) ∧
      requests = selected.map (fun s => s.2.2) := by
  unfold buildConformancePlan at h
  -- The stages of the builder, in its order.
  rcases Eff.ofExcept_bind_ok h with ⟨_, _, h⟩
  rcases Eff.ofExcept_bind_ok h with ⟨contentType, _, h⟩
  rcases Eff.ofExcept_bind_ok h with ⟨baseline, hbaseline, h⟩
  rcases Eff.bind_ok h with ⟨positive, hpositive, h⟩
  rcases Eff.ofExcept_bind_ok h with ⟨_, _, h⟩
  rcases Eff.ofExcept_bind_ok h with ⟨negative, _, h⟩
  rcases Eff.ofExcept_bind_ok h with ⟨selected, hselected, h⟩
  rcases Eff.ofExcept_bind_ok h with ⟨configFingerprint, _, h⟩
  cases h
  exact ⟨contentType, baseline, past, positive, negative, selected, hbaseline, hpositive, hselected,
    rfl, rfl⟩

/-- Every positive case of a campaign names a request that carries what is
    pinned. -/
def PreservesBaseline (options : ConformanceOptions) (campaign : ConformancePlan)
    (requests : List RequestPlan) : Prop :=
  List.Forall₂ (fun case request => case.plan = request.id ∧
    (case.generation = .positive → KeepsPinned options.input options.plan.explicit request))
      campaign.cases requests

/-- A campaign keeps its baseline exactly when, for the variants of its positive
    cases, no generated value stands before a pinned one. -/
theorem baseline_kept_iff {past : List Event} {campaign : ConformancePlan}
    {requests : List RequestPlan} (hordered : Ordered (structuredMembers options.input))
    (h : (buildConformancePlan lib source operation options configuration number world past).1 =
      .ok (campaign, requests)) :
    PreservesBaseline options campaign requests ↔
      ∀ case ∈ campaign.cases, case.generation = .positive →
        ∀ variant, case.strategy = positiveStrategy variant →
          Unshadowed lib number source operation options.input options.plan.explicit variant := by
  rcases buildConformancePlan_ok h with ⟨contentType, baseline, past', positive, negative, selected,
    hbaseline, hplans, hselected, hcases, hrequests⟩
  -- A selected positive case is the request of a variant, named by its strategy.
  have hcase (s : Selected) (hs : s ∈ selected) (hpositive : s.1 = .positive) :
      ∃ v, s.2.1 = positiveStrategy v ∧ (KeepsPinned options.input options.plan.explicit s.2.2 ↔
        Unshadowed lib number source operation options.input options.plan.explicit v) := by
    rcases mem_positivePlans hplans (mem_selectCases hselected hs hpositive)
      with hnone | ⟨index, past', hstrategy, hplan⟩
    · cases hnone
    · exact ⟨_, hstrategy, positive_kept_iff hordered hbaseline hplan⟩
  have hpaired : requests = selected.zipIdx.map (fun s => s.1.2.2) := by
    have hfst : selected.zipIdx.map Prod.fst = selected := List.zipIdx_map_fst 0 selected
    rw [hrequests]
    conv_lhs => rw [← hfst]
    rw [List.map_map]
    rfl
  have hmem {s : Selected × Nat} (hs : s ∈ selected.zipIdx) : s.1 ∈ selected := by
    have hfst : selected.zipIdx.map Prod.fst = selected := List.zipIdx_map_fst 0 selected
    rw [← hfst]
    exact List.mem_map_of_mem hs
  unfold PreservesBaseline
  rw [hcases, hpaired, List.forall₂_map_left_iff, List.forall₂_map_right_iff, List.forall₂_same]
  constructor
  · intro hkeeps case hin hpositive v hstrategy
    rcases List.mem_map.mp hin with ⟨s, hs, rfl⟩
    rcases hcase s.1 (hmem hs) hpositive with ⟨w, hname, hiff⟩
    have hsame : v = w :=
      decimal_injective (List.append_cancel_left (hstrategy.symm.trans hname))
    rw [hsame]
    exact hiff.mp ((hkeeps s hs).2 hpositive)
  · intro hunshadowed s hs
    refine ⟨rfl, fun hpositive => ?_⟩
    rcases hcase s.1 (hmem hs) hpositive with ⟨w, hname, hiff⟩
    exact hiff.mpr (hunshadowed _ (List.mem_map_of_mem hs) hpositive w hname)

end

/-! ### A resource identifier -/

theorem resourcePath_slash : "/items".toList.head? = some '/' := rfl

/-- An operation that requires a header. -/
def resourceOperation : OperationDefinition :=
  { handle := "op:resource"
    method := "GET"
    path := "/items"
    operationId := "listItems"
    risk := .read
    pathItem := []
    operation := [("parameters", .array [jsonObject [("name", .string "X-Id"),
      ("in", .string "header"), ("required", .bool true),
      ("schema", jsonObject [("type", .string "string")])]])]
    path_slash := resourcePath_slash }

def resourceSource : OpenApiSource :=
  { document := jsonObject [("servers", .array [jsonObject [("url", .string "https://api.test")]])]
    sourceFingerprint := "b3:source"
    sourceHandle := "src:resource" }

/-- A campaign of one case over a baseline with one header. -/
def resourceOptions (name : String) : ConformanceOptions :=
  { ConformanceOptions.default with
    cases := 1
    mode := .positive
    input := some (jsonObject [(name, jsonObject [("X-Id", .string "r-1")])]) }

/-- No schema of the operation is of type `number`. -/
def noNumbers : Value → Nat → Str → Except ConformanceError Value := fun _ _ path =>
  .error (generation path "numeric bounds are invalid")

def resourceCampaign (name : String) : Except ConformanceError (ConformancePlan × List RequestPlan) :=
  (buildConformancePlan referenceCrates resourceSource resourceOperation (resourceOptions name)
    .default noNumbers referenceWorld []).1

/-- No request of a campaign binds a value for a field. -/
def BindsNowhere (field : Str) (value : Value) (requests : List RequestPlan) : Bool :=
  requests.all (fun r => r.derivations.all (fun d => d.field ≠ field || d.logicalValue ≠ value))

theorem ordered_resource (name : String) :
    Ordered (structuredMembers (resourceOptions name).input) := by
  have hone (e : Str × Value) : Ordered [e] := List.pairwise_singleton _ _
  unfold structuredMembers resourceOptions
  dsimp only [jsonObject, Value.asObject]
  split_ifs
  · exact hone _
  · exact hone _

/-- The header is pinned under the name the planner reads first. -/
theorem baseline_kept_header : ∃ campaign requests,
    resourceCampaign "header" = .ok (campaign, requests) ∧
      PreservesBaseline (resourceOptions "header") campaign requests := by
  have hbuilt : (resourceCampaign "header").toOption.isSome = true := by decide +kernel
  rcases Option.isSome_iff_exists.mp hbuilt with ⟨⟨campaign, requests⟩, hsome⟩
  have hok := toOption_eq_some.mp hsome
  refine ⟨campaign, requests, hok,
    (baseline_kept_iff (ordered_resource "header") hok).mpr (fun _ _ _ _ _ => ?_)⟩
  intro location name value generated hplural
  -- There is no plural section.
  have hnone : pluralValue (structuredMembers (resourceOptions "header").input) location name =
      none := by
    unfold pluralValue pluralSection
    split_ifs <;> rfl
  rw [hnone] at hplural
  cases hplural

/-- The header is pinned under its plural name, and a generated one is sent. -/
theorem baseline_lost_headers : ∃ campaign requests,
    resourceCampaign "headers" = .ok (campaign, requests) ∧
      ¬ PreservesBaseline (resourceOptions "headers") campaign requests := by
  -- The one positive case, and the identifier bound in no request.
  have hbuilt : (resourceCampaign "headers").toOption.any (fun c =>
      c.1.cases.map ConformanceCasePlan.generation = [.positive] &&
        BindsNowhere "header.X-Id" (.string "r-1") c.2) = true := by
    decide +kernel
  cases hcampaign : resourceCampaign "headers" with
  | error e =>
      rw [hcampaign] at hbuilt
      cases hbuilt
  | ok built =>
      rcases built with ⟨campaign, requests⟩
      rw [hcampaign] at hbuilt
      refine ⟨campaign, requests, rfl, fun hkeeps => ?_⟩
      have hboth : (campaign.cases.map ConformanceCasePlan.generation = [.positive] &&
          BindsNowhere "header.X-Id" (.string "r-1") requests) = true := hbuilt
      rw [Bool.and_eq_true, decide_eq_true_eq] at hboth
      rcases hboth with ⟨hgeneration, hnowhere⟩
      unfold PreservesBaseline at hkeeps
      generalize campaign.cases = planned at hkeeps hgeneration
      cases hkeeps with
      | nil => cases hgeneration
      | @cons case request planned requests hfirst _ =>
          rw [List.map_cons, List.cons.injEq] at hgeneration
          -- The baseline does supply the identifier.
          have hsupplied : suppliedValue (resourceOptions "headers").input
              (resourceOptions "headers").plan.explicit "header" "X-Id" = some (.string "r-1") := by
            decide +kernel
          rcases (hfirst.2 hgeneration.1).parameters "header" (by decide) "X-Id" _ hsupplied
            with ⟨⟨d, hd, hfield⟩, hvalue⟩
          have hnone := List.all_eq_true.mp (List.all_eq_true.mp hnowhere request List.mem_cons_self) d hd
          rw [Bool.or_eq_true, decide_eq_true_eq, decide_eq_true_eq] at hnone
          rcases hnone with hnone | hnone
          · exact hnone hfield
          · exact hnone (hvalue d hd hfield)

end Kahea
