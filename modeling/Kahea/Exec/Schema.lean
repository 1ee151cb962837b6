import Kahea.Base.Lists
import Kahea.Exec.Checks

/-!
# Schemas

What the schema validator of the executor decides, said without messages.

The validator threads a list of messages through every keyword, through every
sub-schema and through every member of the value, and gives up at 64 of them.
`Satisfies` is the same judgement as a predicate: one condition a keyword, with
the sub-schemas judged one level down. A schema is satisfied exactly when the
validator hands back the messages it was given (`validateSchemaValue_eq_self`).

The proof rests on one property of every stage, that it only appends
(`Appends`). A sequence of such stages returns the list it was given exactly
when each of them does, so each keyword is judged alone and the 64 messages are
never reached on the way to an answer that adds none.

## Main definitions

* `Appends`: A stage that only adds messages.
* `LevelSatisfied`: The keywords of one level.
* `Satisfies`: A value that satisfies a schema.

## Theorems

* `Appends.comp_eq_self`, `foldl_eq_self`: Stages are judged one by one.
* `schemaLevel_eq_self`: One level.
* `validateSchemaValue_eq_self`: The validator decides `Satisfies`.
-/

namespace Kahea

/-! ### Stages that append -/

/-- A stage that only adds messages. -/
def Appends (f : List Str → List Str) : Prop := ∀ l, l <+: f l

namespace Appends

variable {f g : List Str → List Str}

/-- Composition of checks. -/
theorem comp (hf : Appends f) (hg : Appends g) : Appends (fun l => f (g l)) :=
  fun l => (hg l).trans (hf (g l))

/-- Of two stages neither adds a message exactly when their sequence adds
    none. -/
theorem comp_eq_self (hf : Appends f) (hg : Appends g) {l : List Str} :
    f (g l) = l ↔ g l = l ∧ f l = l := by
  constructor
  · intro h
    have hinner : g l = l := by
      refine ((hg l).eq_of_length_le ?_).symm
      calc (g l).length ≤ (f (g l)).length := (hf (g l)).length_le
        _ = l.length := by rw [h]
    rw [hinner] at h
    exact ⟨hinner, h⟩
  · rintro ⟨hinner, houter⟩
    rw [hinner, houter]

end Appends

/-- A loop of checks only appends. -/
theorem foldl_appends {α : Type} {f : List Str → α → List Str} (hf : ∀ x, Appends (f · x))
    (xs : List α) : Appends (xs.foldl f) := by
  intro l
  induction xs generalizing l with
  | nil => exact List.prefix_rfl
  | cons x xs ih => exact (hf x l).trans (ih (f l x))

/-- A loop of checks is silent exactly when every round is. -/
theorem foldl_eq_self {α : Type} {f : List Str → α → List Str} (hf : ∀ x, Appends (f · x))
    {xs : List α} {l : List Str} : xs.foldl f l = l ↔ ∀ x ∈ xs, f l x = l := by
  induction xs with
  | nil => simp only [List.foldl_nil, List.not_mem_nil, false_imp_iff, implies_true]
  | cons x xs ih =>
      rw [List.foldl_cons, (foldl_appends hf xs).comp_eq_self (hf x), ih, List.forall_mem_cons]

theorem failWhen_appends (condition : Bool) (message : Str) :
    Appends (failWhen condition message) := by
  intro l
  unfold failWhen
  split_ifs
  · exact List.prefix_append l _
  · exact List.prefix_rfl

/-- A check is silent exactly when its condition fails. -/
theorem failWhen_eq_self {condition : Bool} {message : Str} {l : List Str} :
    failWhen condition message l = l ↔ condition = false := by
  unfold failWhen
  cases condition with
  | true =>
      rw [if_pos rfl]
      exact iff_of_false (fun h => by simpa using congrArg List.length h) nofun
  | false => exact iff_of_true (if_neg Bool.false_ne_true) rfl

/-- A stage that depends on a member that may be missing. -/
def whenSome {α : Type} (o : Option α) (f : α → List Str → List Str) (l : List Str) : List Str :=
  match o with
  | none => l
  | some x => f x l

theorem whenSome_appends {α : Type} {o : Option α} {f : α → List Str → List Str}
    (hf : ∀ x, Appends (f x)) : Appends (whenSome o f) := by
  intro l
  cases o with
  | none => exact List.prefix_rfl
  | some x => exact hf x l

/-- A check of an optional value. -/
theorem whenSome_eq_self {α : Type} {o : Option α} {f : α → List Str → List Str} {l : List Str} :
    whenSome o f l = l ↔ ∀ x, o = some x → f x l = l := by
  cases o with
  | none => exact iff_of_true rfl nofun
  | some x => simp only [whenSome, Option.some.injEq, forall_eq']

/-! ### The judgement -/

/-- `$ref` with a text. -/
def isReference (schema : Value) : Bool := ((schema.get "$ref").bind Value.asStr).isSome

/-- A schema, or what its reference selects. -/
def refTarget (root schema : Value) : Option Value :=
  if isReference schema then resolveContractRef root schema else some schema

section

variable (lib : Crates)

/-- The keywords of one level, given what satisfies the sub-schemas. -/
structure LevelSatisfied (sat : Value → Value → Prop) (schema value : Value) : Prop where
  const : ∀ constant, schema.get "const" = some constant → constant = value
  enum : ∀ values, (schema.get "enum").bind Value.asArray = some values → value ∈ values
  allOf : ∀ branches, (schema.get "allOf").bind Value.asArray = some branches →
    ∀ branch ∈ branches, sat branch value
  anyOf : ∀ branches, (schema.get "anyOf").bind Value.asArray = some branches →
    ∃ branch ∈ branches, sat branch value
  oneOf : ∀ branches, (schema.get "oneOf").bind Value.asArray = some branches →
    ∃ before branch after, branches = before ++ branch :: after ∧ sat branch value ∧
      ∀ other ∈ before ++ after, ¬ sat other value
  type : contractTypes schema = [] ∨ ∃ kind ∈ contractTypes schema, hasType value kind = true
  minLength : ∀ text n, value.asStr = some text →
    (schema.get "minLength").bind Value.asU64 = some n → n ≤ text.length
  maxLength : ∀ text n, value.asStr = some text →
    (schema.get "maxLength").bind Value.asU64 = some n → text.length ≤ n
  minimum : ∀ number n, asNumber value = some number →
    (schema.get "minimum").bind asNumber = some n → lib.floatLt number n = false
  maximum : ∀ number n, asNumber value = some number →
    (schema.get "maximum").bind asNumber = some n → lib.floatLt n number = false
  required : ∀ names object, (schema.get "required").bind Value.asArray = some names →
    value.asObject = some object → ∀ name ∈ names.filterMap Value.asStr,
      (lookup name object).isSome
  properties : ∀ properties object, (schema.get "properties").bind Value.asObject =
      some properties → value.asObject = some object →
    ∀ property ∈ properties, ∀ child, lookup property.1 object = some child → sat property.2 child
  additional : schema.get "additionalProperties" = some (.bool false) →
    ∀ object, value.asObject = some object → ∀ name ∈ object.map Prod.fst,
      ∃ properties, (schema.get "properties").bind Value.asObject = some properties ∧
        (lookup name properties).isSome
  items : ∀ items values, schema.get "items" = some items → value.asArray = some values →
    ∀ child ∈ values, sat items child

/-- The value satisfies the schema, with the given number of levels for its
    references and sub-schemas. -/
def Satisfies (root : Value) : Nat → Value → Value → Prop
  | 0, _, _ => False
  | levels + 1, schema, value =>
      if ((schema.get "$ref").bind Value.asStr).isSome then
        ∃ resolved, resolveContractRef root schema = some resolved ∧
          Satisfies root levels resolved value
      else LevelSatisfied lib (Satisfies root levels) schema value

end

/-! ### The stages of a level -/

section

variable {lib : Crates} {schema value : Value} {path : Str} {l : List Str}

/-- The bounds as stages. -/
theorem scalarFailures_eq : scalarFailures lib schema value path = fun l =>
    whenSome (asNumber value) (fun number l =>
      failWhen (((schema.get "maximum").bind asNumber).any (fun n => lib.floatLt n number))
        (path ++ ": number is above maximum")
        (failWhen (((schema.get "minimum").bind asNumber).any (fun n => lib.floatLt number n))
          (path ++ ": number is below minimum") l))
      (whenSome value.asStr (fun text l =>
        failWhen (((schema.get "maxLength").bind Value.asU64).any (fun n => n < text.length))
          (path ++ ": string is longer than maxLength")
          (failWhen (((schema.get "minLength").bind Value.asU64).any (fun n => text.length < n))
            (path ++ ": string is shorter than minLength") l)) l) := by
  funext l
  unfold scalarFailures whenSome
  cases value.asStr <;> cases asNumber value <;> rfl

theorem scalarFailures_appends : Appends (scalarFailures lib schema value path) := by
  rw [scalarFailures_eq]
  exact (whenSome_appends fun _ => (failWhen_appends _ _).comp (failWhen_appends _ _)).comp
    (whenSome_appends fun _ => (failWhen_appends _ _).comp (failWhen_appends _ _))

theorem any_eq_false {α : Type} {o : Option α} {p : α → Bool} :
    o.any p = false ↔ ∀ x, o = some x → p x = false := by
  cases o with
  | none => exact iff_of_true rfl nofun
  | some x => simp only [Option.any_some, Option.some.injEq, forall_eq']

/-- The bounds of texts, numbers and arrays. -/
theorem scalarFailures_eq_self : scalarFailures lib schema value path l = l ↔
    ((∀ text n, value.asStr = some text →
        (schema.get "minLength").bind Value.asU64 = some n → n ≤ text.length) ∧
      ∀ text n, value.asStr = some text →
        (schema.get "maxLength").bind Value.asU64 = some n → text.length ≤ n) ∧
    (∀ number n, asNumber value = some number →
        (schema.get "minimum").bind asNumber = some n → lib.floatLt number n = false) ∧
      ∀ number n, asNumber value = some number →
        (schema.get "maximum").bind asNumber = some n → lib.floatLt n number = false := by
  -- Two checks that both append leave the list exactly when both are met.
  have htwo (a b : Bool) (m m' : Str) :
      Appends (fun l => failWhen a m (failWhen b m' l)) :=
    (failWhen_appends a m).comp (failWhen_appends b m')
  rw [scalarFailures_eq]
  rw [(whenSome_appends fun _ => htwo _ _ _ _).comp_eq_self (whenSome_appends fun _ => htwo _ _ _ _)]
  simp only [whenSome_eq_self, (failWhen_appends _ _).comp_eq_self (failWhen_appends _ _),
    failWhen_eq_self, any_eq_false, decide_eq_false_iff_not, Nat.not_lt]
  constructor
  · rintro ⟨hstring, hnumber⟩
    exact ⟨⟨fun text n ht hn => (hstring text ht).1 n hn,
      fun text n ht hn => (hstring text ht).2 n hn⟩,
      fun number n hv hn => (hnumber number hv).1 n hn,
      fun number n hv hn => (hnumber number hv).2 n hn⟩
  · rintro ⟨⟨hmin, hmax⟩, hlow, hhigh⟩
    exact ⟨fun text ht => ⟨fun n hn => hmin text n ht hn, fun n hn => hmax text n ht hn⟩,
      fun number hv => ⟨fun n hn => hlow number n hv hn, fun n hn => hhigh number n hv hn⟩⟩

theorem requiredFailures_eq : requiredFailures schema value path = whenSome
    ((schema.get "required").bind Value.asArray) (fun required => whenSome value.asObject
      (fun object l => (required.filterMap Value.asStr).foldl (fun failures name =>
        failWhen (lookup name object).isNone
          (path ++ '.' :: name ++ ": required property is missing") failures) l)) := by
  funext l
  unfold requiredFailures whenSome
  cases (schema.get "required").bind Value.asArray <;> cases value.asObject <;> rfl

theorem requiredFailures_appends : Appends (requiredFailures schema value path) := by
  rw [requiredFailures_eq]
  exact whenSome_appends fun _ => whenSome_appends fun _ =>
    foldl_appends (fun _ => failWhen_appends _ _) _

/-- The required members. -/
theorem requiredFailures_eq_self : requiredFailures schema value path l = l ↔
    ∀ names object, (schema.get "required").bind Value.asArray = some names →
      value.asObject = some object → ∀ name ∈ names.filterMap Value.asStr,
        (lookup name object).isSome := by
  rw [requiredFailures_eq]
  simp only [whenSome_eq_self, foldl_eq_self (fun _ => failWhen_appends _ _), failWhen_eq_self,
    Option.isNone_eq_false_iff]
  exact ⟨fun h names object hn ho => h names hn object ho,
    fun h names hn object ho => h names object hn ho⟩

theorem additionalFailures_eq : additionalFailures schema value path = fun l =>
    if schema.get "additionalProperties" = some (.bool false) then
      whenSome value.asObject (fun object l => (object.map Prod.fst).foldl (fun failures name =>
        failWhen (!(((schema.get "properties").bind Value.asObject).any
          (fun p => (lookup name p).isSome)))
          (path ++ '.' :: name ++ ": additional property is denied") failures) l) l
    else l := by
  funext l
  unfold additionalFailures whenSome
  cases value.asObject <;> rfl

theorem additionalFailures_appends : Appends (additionalFailures schema value path) := by
  rw [additionalFailures_eq]
  intro l
  split_ifs
  · exact whenSome_appends (fun _ => foldl_appends (fun _ => failWhen_appends _ _) _) l
  · exact List.prefix_rfl

/-- The members nothing declares. -/
theorem additionalFailures_eq_self : additionalFailures schema value path l = l ↔
    (schema.get "additionalProperties" = some (.bool false) →
      ∀ object, value.asObject = some object → ∀ name ∈ object.map Prod.fst,
        ∃ properties, (schema.get "properties").bind Value.asObject = some properties ∧
          (lookup name properties).isSome) := by
  rw [additionalFailures_eq]
  by_cases hdenied : schema.get "additionalProperties" = some (.bool false)
  · simp only [if_pos hdenied, whenSome_eq_self, foldl_eq_self (fun _ => failWhen_appends _ _),
      failWhen_eq_self, Bool.not_eq_false', Option.any_eq_true, forall_prop_of_true hdenied]
  · simp only [if_neg hdenied, forall_prop_of_false hdenied]

end

/-! ### One level -/

section

variable {lib : Crates} {recurse : Value → Value → Str → List Str → List Str}
  {sat : Value → Value → Prop} {schema value : Value} {path : Str} {l : List Str}

/-- The keywords that are judged before the type. -/
def combinatorFailures (recurse : Value → Value → Str → List Str → List Str)
    (schema value : Value) (path : Str) (l : List Str) : List Str :=
  whenSome ((schema.get "oneOf").bind Value.asArray) (fun branches => failWhen
    ((branches.filter (fun branch => (recurse branch value path []).isEmpty)).length != 1)
    (path ++ ": value does not satisfy " ++ "oneOf".toList))
  (whenSome ((schema.get "anyOf").bind Value.asArray) (fun branches => failWhen
    ((branches.filter (fun branch => (recurse branch value path []).isEmpty)).length == 0)
    (path ++ ": value does not satisfy " ++ "anyOf".toList))
  ((((schema.get "allOf").bind Value.asArray).getD []).foldl
    (fun failures branch => recurse branch value path failures)
  (failWhen (((schema.get "enum").bind Value.asArray).any
    (fun values => !(values.contains value))) (path ++ ": value is outside enum")
  (failWhen ((schema.get "const").any (fun constant => constant ≠ value))
    (path ++ ": value does not equal const") l))))

/-- The keywords that are judged after the type. -/
def shapeFailures (lib : Crates) (recurse : Value → Value → Str → List Str → List Str)
    (schema value : Value) (path : Str) (l : List Str) : List Str :=
  whenSome (schema.get "items") (fun items => whenSome value.asArray (fun values l =>
    values.zipIdx.foldl (fun failures child =>
      recurse items child.1 (path ++ '[' :: decimal child.2 ++ [']']) failures) l))
  (additionalFailures schema value path
  (whenSome ((schema.get "properties").bind Value.asObject) (fun properties =>
    whenSome value.asObject (fun object l => properties.foldl (fun failures property =>
      whenSome (lookup property.1 object)
        (fun child => recurse property.2 child (path ++ '.' :: property.1)) failures) l))
  (requiredFailures schema value path (scalarFailures lib schema value path l))))

/-- A level, read in one line: the wrong type ends it. -/
theorem schemaLevel_eq : schemaLevel lib recurse schema value path l =
    if !(contractTypes schema).isEmpty && !((contractTypes schema).any (hasType value)) then
      combinatorFailures recurse schema value path l ++
        [path ++ ": expected " ++ join " or " (contractTypes schema)]
    else shapeFailures lib recurse schema value path
      (combinatorFailures recurse schema value path l) := by
  cases hone : (schema.get "oneOf").bind Value.asArray <;>
  cases hany : (schema.get "anyOf").bind Value.asArray <;>
  simp only [schemaLevel, combinatorFailures, hone, hany, whenSome] <;>
  refine if_congr Iff.rfl rfl ?_ <;> unfold shapeFailures
  all_goals
    cases (schema.get "properties").bind Value.asObject <;>
    rcases value.asObject with _ | object <;> simp only [whenSome] <;>
    cases schema.get "items" <;> cases value.asArray <;> try rfl
  -- What is left differs in the order of the two branches of a lookup.
  all_goals
    dsimp only
    congr
    funext failures property
    cases lookup property.1 object <;> rfl

/-- What the level needs of the level below: it appends, and adds nothing to a
    short list exactly when the value satisfies the schema. -/
structure Judges (recurse : Value → Value → Str → List Str → List Str)
    (sat : Value → Value → Prop) : Prop where
  appends : ∀ schema value path, Appends (recurse schema value path)
  eq_self : ∀ schema value path l, l.length < 64 →
    (recurse schema value path l = l ↔ sat schema value)

theorem combinatorFailures_appends (hrec : ∀ s v p, Appends (recurse s v p)) :
    Appends (combinatorFailures recurse schema value path) := by
  intro l
  unfold combinatorFailures
  refine List.IsPrefix.trans ?_ (whenSome_appends (fun _ => failWhen_appends _ _) _)
  refine List.IsPrefix.trans ?_ (whenSome_appends (fun _ => failWhen_appends _ _) _)
  refine List.IsPrefix.trans ?_ (foldl_appends (fun branch => hrec branch value path) _ _)
  exact (failWhen_appends _ _).comp (failWhen_appends _ _) l

theorem shapeFailures_appends (hrec : ∀ s v p, Appends (recurse s v p)) :
    Appends (shapeFailures lib recurse schema value path) := by
  intro l
  unfold shapeFailures
  refine List.IsPrefix.trans ?_ (whenSome_appends (fun items => whenSome_appends
    fun (values : List Value) => foldl_appends (fun child => hrec items child.1 _) values.zipIdx) _)
  refine List.IsPrefix.trans ?_ (additionalFailures_appends _)
  refine List.IsPrefix.trans ?_ (whenSome_appends (fun properties => whenSome_appends
    fun object => foldl_appends (fun (property : Str × Value) => whenSome_appends
      fun child => hrec property.2 child _) properties) _)
  exact requiredFailures_appends.comp scalarFailures_appends l

theorem schemaLevel_appends (hrec : ∀ s v p, Appends (recurse s v p)) :
    Appends (schemaLevel lib recurse schema value path) := by
  intro l
  rw [schemaLevel_eq]
  split_ifs
  · exact (combinatorFailures_appends hrec l).trans (List.prefix_append _ _)
  · exact (combinatorFailures_appends hrec l).trans (shapeFailures_appends hrec _)

/-- `const`, `enum` and the combinators, given what the recursion judges. -/
theorem combinatorFailures_eq_self (h : Judges recurse sat) (hl : l.length < 64) :
    combinatorFailures recurse schema value path l = l ↔
      (∀ constant, schema.get "const" = some constant → constant = value) ∧
      (∀ values, (schema.get "enum").bind Value.asArray = some values → value ∈ values) ∧
      (∀ branches, (schema.get "allOf").bind Value.asArray = some branches →
        ∀ branch ∈ branches, sat branch value) ∧
      (∀ branches, (schema.get "anyOf").bind Value.asArray = some branches →
        ∃ branch ∈ branches, sat branch value) ∧
      ∀ branches, (schema.get "oneOf").bind Value.asArray = some branches →
        ∃ before branch after, branches = before ++ branch :: after ∧ sat branch value ∧
          ∀ other ∈ before ++ after, ¬ sat other value := by
  -- A branch judged from an empty list tells whether the value satisfies it.
  have hbranch (branch : Value) : (recurse branch value path []).isEmpty = true ↔
      sat branch value := by
    rw [List.isEmpty_iff]
    exact h.eq_self branch value path [] (by decide)
  have hunion (o : Option (List Value)) (wrong : List Value → Bool) (message : Str) :
      Appends (whenSome o (fun branches => failWhen (wrong branches) message)) :=
    whenSome_appends fun _ => failWhen_appends _ _
  -- Every part appends, so none of them appends exactly when all are met.
  have hall := foldl_appends (fun branch => h.appends branch value path)
    (((schema.get "allOf").bind Value.asArray).getD [])
  have hfirst := failWhen_appends (((schema.get "enum").bind Value.asArray).any
    (fun values => !(values.contains value))) (path ++ ": value is outside enum")
  have hsecond := failWhen_appends ((schema.get "const").any (fun constant => constant ≠ value))
    (path ++ ": value does not equal const")
  unfold combinatorFailures
  rw [(hunion _ _ _).comp_eq_self ((hunion _ _ _).comp (hall.comp (hfirst.comp hsecond))),
    (hunion _ _ _).comp_eq_self (hall.comp (hfirst.comp hsecond)),
    hall.comp_eq_self (hfirst.comp hsecond), hfirst.comp_eq_self hsecond]
  simp only [failWhen_eq_self, any_eq_false, whenSome_eq_self,
    foldl_eq_self (fun branch => h.appends branch value path), h.eq_self _ _ _ l hl,
    decide_eq_false_iff_not, not_not, Bool.not_eq_false', List.contains_iff_mem, and_assoc]
  refine and_congr_right' (and_congr_right' (and_congr ?_ (and_congr ?_ ?_)))
  · cases (schema.get "allOf").bind Value.asArray with
    | none => exact iff_of_true (fun _ hx => absurd hx List.not_mem_nil) nofun
    | some branches => simp only [Option.getD_some, Option.some.injEq, forall_eq']
  -- Both unions count the branches that are met.
  · refine forall_congr' (fun branches => imp_congr_right (fun _ => ?_))
    rw [beq_eq_false_iff_ne, Ne, List.length_eq_zero_iff, List.filter_eq_nil_iff]
    simp only [hbranch, not_forall, not_not, exists_prop]
  · refine forall_congr' (fun branches => imp_congr_right (fun _ => ?_))
    rw [bne_eq_false_iff_eq, length_filter_eq_one]
    simp only [hbranch]

/-- The rest of a level, given what the recursion judges. -/
theorem shapeFailures_eq_self (h : Judges recurse sat) (hl : l.length < 64) :
    shapeFailures lib recurse schema value path l = l ↔
      scalarFailures lib schema value path l = l ∧ requiredFailures schema value path l = l ∧
      (∀ properties object, (schema.get "properties").bind Value.asObject = some properties →
        value.asObject = some object → ∀ property ∈ properties,
          ∀ child, lookup property.1 object = some child → sat property.2 child) ∧
      additionalFailures schema value path l = l ∧
      ∀ items values, schema.get "items" = some items → value.asArray = some values →
        ∀ child ∈ values, sat items child := by
  -- Each keyword appends to the failures, so they stay as they were exactly when it is met.
  have hproperty (object : List (Str × Value)) (property : Str × Value) :
      Appends (whenSome (lookup property.1 object)
        (fun child => recurse property.2 child (path ++ '.' :: property.1))) :=
    whenSome_appends fun child => h.appends property.2 child _
  have hproperties : Appends (whenSome ((schema.get "properties").bind Value.asObject)
      (fun properties => whenSome value.asObject (fun object l => properties.foldl
        (fun failures property => whenSome (lookup property.1 object)
          (fun child => recurse property.2 child (path ++ '.' :: property.1)) failures) l))) :=
    whenSome_appends fun properties => whenSome_appends fun object =>
      foldl_appends (hproperty object) properties
  have hitem (items : Value) (child : Value × Nat) :
      Appends (recurse items child.1 (path ++ '[' :: decimal child.2 ++ [']'])) :=
    h.appends items child.1 _
  have hitems : Appends (whenSome (schema.get "items") (fun items => whenSome value.asArray
      (fun values l => values.zipIdx.foldl (fun failures child =>
        recurse items child.1 (path ++ '[' :: decimal child.2 ++ [']']) failures) l))) :=
    whenSome_appends fun items => whenSome_appends fun values =>
      foldl_appends (hitem items) values.zipIdx
  have hrequired := @requiredFailures_appends schema value path
  have hscalar := @scalarFailures_appends lib schema value path
  have hadditional := @additionalFailures_appends schema value path
  unfold shapeFailures
  rw [hitems.comp_eq_self (hadditional.comp (hproperties.comp (hrequired.comp hscalar))),
    hadditional.comp_eq_self (hproperties.comp (hrequired.comp hscalar)),
    hproperties.comp_eq_self (hrequired.comp hscalar), hrequired.comp_eq_self hscalar]
  simp only [whenSome_eq_self, foldl_eq_self (hitem _), foldl_eq_self (hproperty _),
    h.eq_self _ _ _ l hl, and_assoc]
  -- The index of an item is for the path of a failure only.
  have hindexed (items : Value) (values : List Value) :
      (∀ x ∈ values.zipIdx, sat items x.1) ↔ ∀ child ∈ values, sat items child := by
    conv_rhs => rw [← List.zipIdx_map_fst 0 values, List.forall_mem_map]
  simp only [hindexed]
  -- The clauses are the same, in another order.
  constructor
  · rintro ⟨hscalars, hreq, hprops, hadd, hit⟩
    exact ⟨hscalars, hreq, fun ps object hp ho => hprops ps hp object ho, hadd,
      fun items values hi hv => hit items hi values hv⟩
  · rintro ⟨hscalars, hreq, hprops, hadd, hit⟩
    exact ⟨hscalars, hreq, fun ps hp object ho => hprops ps object hp ho, hadd,
      fun items hi values hv => hit items values hi hv⟩

/-- One level adds nothing exactly when its keywords are satisfied. -/
theorem schemaLevel_eq_self (h : Judges recurse sat) (hl : l.length < 64) :
    schemaLevel lib recurse schema value path l = l ↔ LevelSatisfied lib sat schema value := by
  rw [schemaLevel_eq]
  have htypes : (!(contractTypes schema).isEmpty &&
      !((contractTypes schema).any (hasType value))) = true ↔
        ¬ (contractTypes schema = [] ∨ ∃ kind ∈ contractTypes schema, hasType value kind = true) := by
    simp only [Bool.and_eq_true, Bool.not_eq_true', List.isEmpty_eq_false_iff, not_or,
      List.any_eq_false, not_exists, not_and]
  by_cases htype : contractTypes schema = [] ∨ ∃ kind ∈ contractTypes schema,
    hasType value kind = true
  · rw [if_neg (fun hc => htypes.mp hc htype),
      (shapeFailures_appends h.appends).comp_eq_self (combinatorFailures_appends h.appends),
      combinatorFailures_eq_self h hl, shapeFailures_eq_self h hl, scalarFailures_eq_self,
      requiredFailures_eq_self, additionalFailures_eq_self]
    constructor
    · rintro ⟨⟨hconst, henum, hall, hany, hone⟩, ⟨⟨hmin, hmax⟩, hlow, hhigh⟩, hreq, hprops, hadd, hit⟩
      exact
        { const := hconst
          enum := henum
          allOf := hall
          anyOf := hany
          oneOf := hone
          type := htype
          minLength := hmin
          maxLength := hmax
          minimum := hlow
          maximum := hhigh
          required := hreq
          properties := hprops
          additional := hadd
          items := hit }
    · intro hs
      exact ⟨⟨hs.const, hs.enum, hs.allOf, hs.anyOf, hs.oneOf⟩,
        ⟨⟨hs.minLength, hs.maxLength⟩, hs.minimum, hs.maximum⟩, hs.required, hs.properties,
        hs.additional, hs.items⟩
  · -- A wrong type adds a message and ends the level.
    rw [if_pos (htypes.mpr htype)]
    refine iff_of_false (fun heq => ?_) (fun hs => htype hs.type)
    have hlength := congrArg List.length heq
    have hkept := (combinatorFailures_appends h.appends l : l <+: combinatorFailures recurse schema
      value path l).length_le
    rw [List.length_append, List.length_singleton] at hlength
    omega

/-! ### All levels -/

/-- The validator of any depth decides the judgement of that depth. -/
theorem validateSchemaValue_judges (root : Value) (levels : Nat) :
    Judges (validateSchemaValue lib root levels) (Satisfies lib root levels) := by
  induction levels with
  -- Without a level left a failure is reported and nothing is satisfied.
  | zero =>
      refine ⟨fun schema value path l => ?_, fun schema value path l hl => ?_⟩
      · unfold validateSchemaValue
        split_ifs
        · exact List.prefix_rfl
        · exact List.prefix_append _ _
      · unfold validateSchemaValue
        rw [if_neg (Nat.not_le_of_lt hl)]
        exact iff_of_false (fun h => by simpa using congrArg List.length h) id
  | succ levels ih =>
      -- It appends: to a full list nothing, else what the level finds.
      refine ⟨fun schema value path l => ?_, fun schema value path l hl => ?_⟩
      · unfold validateSchemaValue
        split_ifs
        · exact List.prefix_rfl
        · cases (schema.get "$ref").bind Value.asStr with
          | none => exact schemaLevel_appends ih.appends l
          | some reference =>
              cases resolveContractRef root schema with
              | none => exact List.prefix_append _ _
              | some resolved => exact ih.appends resolved value path l
      -- And it appends nothing exactly when the value satisfies the schema.
      · unfold validateSchemaValue Satisfies
        rw [if_neg (Nat.not_le_of_lt hl)]
        cases (schema.get "$ref").bind Value.asStr with
        | none =>
            rw [Option.isSome_none, if_neg Bool.false_ne_true]
            exact schemaLevel_eq_self ih hl
        | some reference =>
            rw [Option.isSome_some, if_pos rfl]
            cases resolveContractRef root schema with
            | none =>
                refine iff_of_false (fun h => ?_) (fun ⟨_, h, _⟩ => nomatch h)
                simpa using congrArg List.length h
            | some resolved =>
                simp only [Option.some.injEq, exists_eq_left']
                exact ih.eq_self resolved value path l hl

/-- The validator hands back a short list of messages exactly when the value
    satisfies the schema. -/
theorem validateSchemaValue_eq_self {root : Value} {levels : Nat} (hl : l.length < 64) :
    validateSchemaValue lib root levels schema value path l = l ↔
      Satisfies lib root levels schema value :=
  (validateSchemaValue_judges root levels).eq_self schema value path l hl

end

end Kahea
