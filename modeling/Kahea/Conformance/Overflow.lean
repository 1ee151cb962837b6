import Kahea.Base.Tracing
import Kahea.Conformance.Integers
import Mathlib.Logic.Relation

/-!
# Overflow in Generation

The generator in a build with overflow checks.

The generator is written once more, for any monad, with the operations it takes
from where it runs: failing, the sum of a variant and the index of a property,
the product of `generate_integer`, and the call one level down. With sums that
wrap it is the generator of the campaigns; with sums that are checked it is the
generator of a debug build, which panics; with events it tells the sums and the
calls of a position.

A position is a schema with a variant, a number of levels left and perhaps a
value to complete. What is reached from a position are the positions it calls,
level by level, so there are only finitely many below one.

Which sums and products a position makes is told by its schema: the type has to
decide (`Position.Typed`), and then an object adds the indices of its optional
properties to the variant, and an integer rounds one number to a multiple
(`only_events`). It makes them all, as long as the properties before can be
generated (`sum_mem_events`, `product_mem_events`).

## Main definitions

* `GenerationOps`: The operations of the generator.
* `generateIn`, `completeIn`: The generator in any monad.
* `generateChecked`: The generator of a build with overflow checks.
* `Position.Calls`, `Position.Fits`: The calls and the sums of one position.
* `Position.Optional`, `Position.Rounds`: The sums and the product a schema asks for.
* `Position.Room`: There is room for them.

## Theorems

* `positionIn_release`: The generator of the campaigns is an instance.
* `checked_panic_iff_reached`: When the checked generator panics.
* `fits_of_room`: A position with room calculates without overflow.
* `generation_sound`: When generation is free of overflow.
-/

namespace Kahea

/-! ### The generator in any monad -/

/-- The operations of the generator: the sum of a variant and an index, the
    product of two signed integers, and the call one level down, perhaps with a
    value to complete. -/
structure GenerationOps (m : Type → Type) where
  fail : {α : Type} → ConformanceError → m α
  sum : Nat → Nat → m Nat
  product : Int → Int → m Int
  call : Value → Nat → Str → Option Value → m Value

section

variable {m : Type → Type} [Monad m] (lib : Crates) (ops : GenerationOps m)

/-- A result of a function that has no operations. -/
def GenerationOps.lift {α : Type} : Except ConformanceError α → m α
  | .ok a => pure a
  | .error e => ops.fail e

/-- `generate_integer`. -/
def generateIntegerIn (schema : Value) (variant : Nat) (path : Str) : m Value :=
  let (minimum, maximum) := integerBounds schema
  if maximum < minimum then ops.fail (generation path "minimum exceeds maximum")
  else
    let selected := [minimum, maximum, max minimum (min 0 maximum)].getD (variant % 3) 0
    match (schema.get "multipleOf").bind Value.asI64 with
    | none => pure (jsonInt selected)
    | some multiple =>
        if multiple ≤ 0 then ops.fail (generation path "multipleOf must be positive")
        else do
          let floor ← ops.product (selected / multiple) multiple
          let selected := if floor < minimum then saturateI64 (floor + multiple) else floor
          if maximum < selected then
            ops.fail (generation path "no multipleOf value exists within bounds")
          else pure (jsonInt selected)

/-- The branches of `allOf`, merged. -/
def combineBranchesIn (variant : Nat) (path : Str) :
    List (Value × Nat) → List (Str × Value) → m Value
  | [], combined => pure (.object combined)
  | (branch, index) :: rest, combined => do
      let value ← ops.call branch (variantFor lib variant (decimal index)) path none
      match value.asObject with
      | none => pure value
      | some object => combineBranchesIn variant path rest (writeAll object combined)

/-- One item; a repeated one is generated anew where items are unique. -/
def generateItemIn (items : Value) (variant : Nat) (path : Str) (unique : Bool)
    (values : List Value) (index : Nat) : List Nat → m Value
  | [] => ops.fail (generation path "unique array items could not be generated")
  | attempt :: rest => do
      let candidate ← ops.call items
        (variantFor lib (wrappingAdd variant attempt) (decimal index))
        (path ++ '[' :: decimal index ++ [']']) none
      if !unique || !(values.contains candidate) then pure candidate
      else generateItemIn items variant path unique values index rest

/-- `generate_array`. -/
def generateArrayIn (schema : Value) (variant : Nat) (path : Str) : m Value :=
  let minimum := ((schema.get "minItems").bind Value.asU64).getD 0
  let maximum := ((schema.get "maxItems").bind Value.asU64).getD
    (min (minimum + 3) (u64Bound - 1))
  if maximum < minimum ∨ MAX_GENERATED_ARRAY < minimum then
    ops.fail (generation path "array bounds are not safely generatable")
  else do
    let upper := min maximum MAX_GENERATED_ARRAY
    let length := if upper = minimum then minimum else minimum + variant % (upper - minimum + 1)
    let unique := ((schema.get "uniqueItems").bind Value.asBool).getD false
    let values ← (List.range length).foldlM (fun values index => do
      let value ← generateItemIn lib ops ((schema.get "items").getD .null) variant path unique
        values index (List.range 16)
      pure (values ++ [value])) []
    pure (.array values)

def addPropertyIn (variant : Nat) (path : Str) (object : List (Str × Value))
    (property : Str × Value) : m (List (Str × Value)) := do
  let value ← ops.call property.2 (variantFor lib variant property.1)
    (path ++ '.' :: property.1) none
  pure (insert property.1 value object)

/-- A property that is required, or selected by the sum of the variant and its
    index. -/
def selectPropertyIn (schema : Value) (variant : Nat) (path : Str) (object : List (Str × Value))
    (p : (Str × Value) × Nat) : m (List (Str × Value)) :=
  if (requiredNames schema).contains p.1.1 then addPropertyIn lib ops variant path object p.1
  else do
    let sum ← ops.sum variant p.2
    if sum % 3 = 0 then addPropertyIn lib ops variant path object p.1 else pure object

/-- `generate_object`. -/
def generateObjectIn (schema : Value) (variant : Nat) (path : Str) : m Value := do
  let properties := ((schema.get "properties").bind Value.asObject).getD []
  let minimum := ((schema.get "minProperties").bind Value.asU64).getD 0
  let object ← properties.zipIdx.foldlM (fun object p =>
    if readOnlyProperty p.1.2 then pure object
    else selectPropertyIn lib ops schema variant path object p) []
  let object ← properties.foldlM (fun object property =>
    if object.length < minimum ∧ (lookup property.1 object).isNone ∧
        !(readOnlyProperty property.2) then
      addPropertyIn lib ops variant path object property
    else pure object) object
  ops.lift (ensure (minimum ≤ object.length)
    (generation path "minProperties cannot be generated safely"))
  ops.lift (ensure (((schema.get "maxProperties").bind Value.asU64).all (fun maximum =>
      object.length ≤ maximum))
    (generation path "required properties exceed maxProperties"))
  pure (.object object)

variable (number : Value → Nat → Str → Except ConformanceError Value) (source : OpenApiSource)

/-- A value of the type of a schema. -/
def generateTypedIn (schema : Value) (variant : Nat) (path : Str) : m Value :=
  let kind := selectedType schema variant
  if kind = "null" then pure .null
  else if kind = "boolean" then pure (.bool (variant % 2 = 0))
  else if kind = "integer" then generateIntegerIn ops schema variant path
  else if kind = "number" then ops.lift (number schema variant path)
  else if kind = "string" then ops.lift ((generateString schema variant path).map .string)
  else if kind = "array" then generateArrayIn lib ops schema variant path
  else if kind = "object" then generateObjectIn lib ops schema variant path
  else ops.fail (generation path ("unsupported schema type " ++ debugQuote kind))

/-- One level of `generate_value`. -/
def generateIn (schema : Value) (variant : Nat) (path : Str) : m Value := do
  let schema ← ops.lift (resolveLocal source.document schema path)
  match unsupportedKeywords.find? (fun keyword => (schema.get keyword).isSome) with
  | some keyword => ops.fail (generation path
      ("schema keyword " ++ debugQuote keyword ++ " requires baseline input"))
  | none => match schema.get "const" with
  | some value => pure value
  | none => match (schema.get "enum").bind Value.asArray with
  | some [] => ops.fail (generation path "enum is empty")
  | some (first :: rest) => pure ((first :: rest).getD (variant % (rest.length + 1)) .null)
  | none => match exampleValue schema variant with
  | some value => pure value
  | none => match alternatives schema with
  | first :: rest =>
      ops.call ((first :: rest).getD (variant % (rest.length + 1)) .null) (rotateLeft variant 7)
        path none
  | [] => match (schema.get "allOf").bind Value.asArray with
  | some branches => combineBranchesIn lib ops variant path branches.zipIdx []
  | none => generateTypedIn lib ops number schema variant path

/-- One property of `complete_value`. -/
def completePropertyIn (schema : Value) (variant : Nat) (path : Str) (existing : List (Str × Value))
    (object : List (Str × Value)) (p : (Str × Value) × Nat) : m (List (Str × Value)) :=
  if readOnlyProperty p.1.2 then pure object
  else match lookup p.1.1 existing with
    | some value => do
        let value ← ops.call p.1.2 (variantFor lib variant p.1.1) (path ++ '.' :: p.1.1)
          (some value)
        pure (insert p.1.1 value object)
    | none => selectPropertyIn lib ops schema variant path object p

/-- One level of `generate_value_with_baseline` with a baseline. -/
def completeIn (schema : Value) (variant : Nat) (path : Str) (baseline : Value) : m Value := do
  let schema ← ops.lift (resolveLocal source.document schema path)
  match baseline.asObject, schema.get "properties" with
  | some existing, some properties =>
      let object ← (properties.asObject.getD []).zipIdx.foldlM
        (completePropertyIn lib ops schema variant path existing) existing
      pure (.object object)
  | _, _ => pure baseline

/-- One level of `generate_value_with_baseline`. -/
def positionIn (schema : Value) (variant : Nat) (path : Str) : Option Value → m Value
  | some baseline => completeIn lib ops source schema variant path baseline
  | none => generateIn lib ops number source schema variant path

end

/-! ### A build without overflow checks -/

/-- The generator of one level, as the next one calls it. -/
abbrev Generator (ε : Type) : Type := Value → Nat → Str → Option Value → Except ε Value

section

variable (lib : Crates) (number : Value → Nat → Str → Except ConformanceError Value)
  (source : OpenApiSource)

/-- What overflows wraps around. -/
def releaseOps (call : Generator ConformanceError) : GenerationOps (Except ConformanceError) :=
  ⟨.error, fun v i => .ok (wrappingAdd v i), fun a b => .ok (wrapI64 (a * b)), call⟩

/-- The generator of the campaigns, with a number of levels left. -/
def generateRelease (levels : Nat) (schema : Value) (variant : Nat) (path : Str) :
    Option Value → Except ConformanceError Value
  | some baseline => completeValue lib number source levels schema variant path baseline
  | none => generateValue lib number source levels schema variant path

section

variable {lib number source} {call : Generator ConformanceError}

theorem lift_release {α : Type} (r : Except ConformanceError α) : (releaseOps call).lift r = r := by
  cases r <;> rfl

theorem except_map_eq {ε α β : Type} (x : Except ε α) (f : α → β) :
    x.map f = x >>= fun a => pure (f a) := by
  cases x <;> rfl

theorem generateIntegerIn_release (schema : Value) (variant : Nat) (path : Str) :
    generateIntegerIn (releaseOps call) schema variant path =
      generateInteger schema variant path := by
  unfold generateIntegerIn generateInteger
  rfl

theorem combineBranchesIn_release (variant : Nat) (path : Str) (branches : List (Value × Nat))
    (combined : List (Str × Value)) :
    combineBranchesIn lib (releaseOps call) variant path branches combined =
      combineBranches lib (fun schema variant path => call schema variant path none) variant path
        branches combined := by
  induction branches generalizing combined with
  | nil => rfl
  | cons branch rest ih =>
      rw [combineBranchesIn, combineBranches]
      refine congrArg (_ >>= ·) (funext fun value => ?_)
      cases value.asObject with
      | none => rfl
      | some object => exact ih _

theorem generateItemIn_release (items : Value) (variant : Nat) (path : Str) (unique : Bool)
    (values : List Value) (index : Nat) (attempts : List Nat) :
    generateItemIn lib (releaseOps call) items variant path unique values index attempts =
      generateItem lib (fun schema variant path => call schema variant path none) items variant path
        unique values index attempts := by
  induction attempts with
  | nil => rfl
  | cons attempt rest ih =>
      rw [generateItemIn, generateItem]
      refine congrArg (_ >>= ·) (funext fun candidate => ?_)
      rw [ih]

theorem generateArrayIn_release (schema : Value) (variant : Nat) (path : Str) :
    generateArrayIn lib (releaseOps call) schema variant path =
      generateArray lib (fun schema variant path => call schema variant path none) schema variant
        path := by
  unfold generateArrayIn generateArray
  dsimp only
  simp only [generateItemIn_release, except_map_eq]
  rfl

theorem addPropertyIn_release (variant : Nat) (path : Str) (object : List (Str × Value))
    (property : Str × Value) :
    addPropertyIn lib (releaseOps call) variant path object property =
      addProperty lib (fun schema variant path => call schema variant path none) variant path object
        property := by
  rw [addProperty, except_map_eq]
  rfl

/-- The two tests of a property are one. -/
theorem selectPropertyIn_release (schema : Value) (variant : Nat) (path : Str)
    (object : List (Str × Value)) (p : (Str × Value) × Nat) :
    selectPropertyIn lib (releaseOps call) schema variant path object p =
      if (requiredNames schema).contains p.1.1 || wrappingAdd variant p.2 % 3 = 0 then
        addProperty lib (fun schema variant path => call schema variant path none) variant path
          object p.1
      else .ok object := by
  unfold selectPropertyIn
  rw [addPropertyIn_release]
  cases (requiredNames schema).contains p.1.1 with
  | true => rfl
  | false =>
      change (if wrappingAdd variant p.2 % 3 = 0 then _ else _) = _
      simp only [Bool.false_or, decide_eq_true_eq]
      rfl

/-- The step over a property that may be read-only. -/
theorem objectStep_release (schema : Value) (variant : Nat) (path : Str) :
    (fun (object : List (Str × Value)) (p : (Str × Value) × Nat) =>
      if readOnlyProperty p.1.2 then (pure object : Except ConformanceError _)
      else selectPropertyIn lib (releaseOps call) schema variant path object p) =
    fun object p =>
      if !(readOnlyProperty p.1.2) &&
          ((requiredNames schema).contains p.1.1 || wrappingAdd variant p.2 % 3 = 0) then
        addProperty lib (fun schema variant path => call schema variant path none) variant path
          object p.1
      else .ok object := by
  funext object p
  rw [selectPropertyIn_release]
  cases readOnlyProperty p.1.2 with
  | true => rfl
  | false => rfl

theorem generateObjectIn_release (schema : Value) (variant : Nat) (path : Str) :
    generateObjectIn lib (releaseOps call) schema variant path =
      generateObject lib (fun schema variant path => call schema variant path none) schema variant
        path := by
  unfold generateObjectIn generateObject
  dsimp only
  rw [objectStep_release]
  simp only [addPropertyIn_release, lift_release]
  rfl

/-- With wrapping operations the generator is the one above. -/
theorem generateIn_release (levels : Nat) (schema : Value) (variant : Nat) (path : Str) :
    generateIn lib (releaseOps (generateRelease lib number source levels)) number source schema
      variant path = generateValue lib number source (levels + 1) schema variant path := by
  rw [generateIn, generateValue, lift_release]
  simp only [generateTypedIn, lift_release, generateIntegerIn_release, combineBranchesIn_release,
    generateArrayIn_release, generateObjectIn_release]
  rfl

/-- The same, of the completion of a baseline. -/
theorem completeIn_release (levels : Nat) (schema : Value) (variant : Nat) (path : Str)
    (baseline : Value) :
    completeIn lib (releaseOps (generateRelease lib number source levels)) source schema variant path
      baseline = completeValue lib number source (levels + 1) schema variant path baseline := by
  -- In release arithmetic the two folds have the same step.
  have hstep : ∀ schema existing, completePropertyIn lib
      (releaseOps (generateRelease lib number source levels)) schema variant path existing =
        completeProperty lib (generateValue lib number source levels)
          (completeValue lib number source levels) schema variant path existing := by
    intro schema existing
    funext object p
    unfold completePropertyIn completeProperty
    rw [selectPropertyIn_release]
    dsimp only
    split
    · rfl
    · cases lookup p.1.1 existing with
      | none => rfl
      | some value =>
          dsimp only
          rw [except_map_eq]
          rfl
  rw [completeIn, completeValue, lift_release]
  -- Schema and value decide alike whether there is anything to fold over.
  refine congrArg (_ >>= ·) (funext fun schema => ?_)
  cases baseline.asObject with
  | none => rfl
  | some existing =>
      cases schema.get "properties" with
      | none => rfl
      | some properties =>
          dsimp only
          rw [hstep]

/-- The generator of the campaigns is the generator with sums that wrap. -/
theorem positionIn_release (levels : Nat) (schema : Value) (variant : Nat) (path : Str)
    (baseline : Option Value) :
    positionIn lib (releaseOps (generateRelease lib number source levels)) number source schema
        variant path baseline =
      generateRelease lib number source (levels + 1) schema variant path baseline := by
  cases baseline with
  | none => exact generateIn_release levels schema variant path
  | some baseline => exact completeIn_release levels schema variant path baseline

end

/-! ### A build with overflow checks -/

/-- What happens at one level of generation. -/
inductive GenerationEvent where
  | sum (variant index : Nat)
  | product (a b : Int)
  | call (schema : Value) (variant : Nat) (path : Str) (baseline : Option Value)

instance (n : Int) : Decidable (InI64 n) := inferInstanceAs (Decidable (_ ∧ _))

/-- What overflows panics. -/
def checkedOps (call : Generator (Fault ConformanceError)) :
    GenerationOps (Except (Fault ConformanceError)) :=
  { fail := fun e => .error (.reported e)
    sum := fun v i => if v + i < u64Bound then .ok (v + i) else .error .panic
    product := fun a b => if InI64 (a * b) then .ok (a * b) else .error .panic
    call := call }

/-- What happens is told. -/
def tracedOps (call : Generator ConformanceError) :
    GenerationOps (Traced GenerationEvent ConformanceError) :=
  { fail := Traced.fail
    sum := fun v i => Traced.event (.sum v i) (.ok (wrappingAdd v i))
    product := fun a b => Traced.event (.product a b) (.ok (wrapI64 (a * b)))
    call := fun schema v path baseline =>
      Traced.event (.call schema v path baseline) (call schema v path baseline) }

/-- `generate_value_with_baseline` in a build with overflow checks. -/
def generateChecked : Nat → Generator (Fault ConformanceError)
  | 0, _, _, path, _ =>
      .error (.reported (generation path "schema generation exceeded 32 levels"))
  | levels + 1, schema, variant, path, baseline =>
      positionIn lib (checkedOps (generateChecked levels)) number source schema variant path baseline

/-- The events a build with overflow checks panics on. -/
def GenerationEvent.panics
    (call : Generator (Fault ConformanceError)) :
    GenerationEvent → Prop
  | .sum v i => u64Bound ≤ v + i
  | .product a b => ¬ InI64 (a * b)
  | .call schema v path baseline => call schema v path baseline = .error .panic

section

variable {lib number source} {release : Generator ConformanceError}
  {checked : Generator (Fault ConformanceError)}

/-- Calls that panic or do the same as without overflow checks. -/
def CallsAlike (release : Generator ConformanceError)
    (checked : Generator (Fault ConformanceError)) : Prop :=
  ∀ schema v path baseline, checked schema v path baseline ≠ .error .panic →
    checked schema v path baseline = (release schema v path baseline).mapError .reported

/-- A sum panics exactly when it leaves its range. -/
theorem alike_sum (v i : Nat) :
    RunsAlike (GenerationEvent.panics checked)
      ((tracedOps release).sum v i) ((checkedOps checked).sum v i)
      ((releaseOps release).sum v i) := by
  refine .event (fun hpanics => ?_) (fun hquiet => ?_)
  · have hover : ¬ v + i < u64Bound := Nat.not_lt.mpr hpanics
    simp only [checkedOps, hover, if_false]
  · have hfits : v + i < u64Bound := Nat.not_le.mp hquiet
    simp only [checkedOps, hfits, if_true, wrappingAdd, Nat.mod_eq_of_lt hfits]
    rfl

/-- So does a product. -/
theorem alike_product (a b : Int) :
    RunsAlike (GenerationEvent.panics checked)
      ((tracedOps release).product a b)
      ((checkedOps checked).product a b) ((releaseOps release).product a b) := by
  refine .event (fun hpanics => ?_) (fun hquiet => ?_)
  · have hover : ¬ InI64 (a * b) := hpanics
    simp only [checkedOps, hover, if_false]
  · have hfits : InI64 (a * b) := not_not.mp hquiet
    have hwrap : wrapI64 (a * b) = a * b := by
      unfold InI64 at hfits
      unfold wrapI64
      omega
    simp only [checkedOps, hfits, if_true, hwrap]
    rfl

theorem alike_call (h : CallsAlike release checked) (schema : Value) (v : Nat) (path : Str)
    (baseline : Option Value) :
    RunsAlike (GenerationEvent.panics checked)
      ((tracedOps release).call schema v path baseline)
      ((checkedOps checked).call schema v path baseline)
      ((releaseOps release).call schema v path baseline) :=
  .event (fun hpanics => hpanics) (fun hquiet => h schema v path baseline hquiet)

theorem alike_lift {α : Type} (r : Except ConformanceError α) :
    RunsAlike (GenerationEvent.panics checked)
      ((tracedOps release).lift r) ((checkedOps checked).lift r)
      ((releaseOps release).lift r) := by
  cases r with
  | ok a => exact .pure a
  | error e => exact .fail e

theorem alike_integer (schema : Value) (variant : Nat) (path : Str) :
    RunsAlike (GenerationEvent.panics checked)
      (generateIntegerIn (tracedOps release) schema variant path)
      (generateIntegerIn (checkedOps checked) schema variant path)
      (generateIntegerIn (releaseOps release) schema variant path) := by
  unfold generateIntegerIn
  dsimp only
  split
  · exact .fail _
  · split
    · exact .pure _
    · split
      · exact .fail _
      · refine .bind (alike_product _ _) (fun floor => ?_)
        generalize (if floor < (integerBounds schema).1 then _ else floor) = selected
        split
        · exact .fail _
        · exact .pure _

variable (h : CallsAlike release checked)

include h

theorem alike_branches (variant : Nat) (path : Str) (branches : List (Value × Nat))
    (combined : List (Str × Value)) :
    RunsAlike (GenerationEvent.panics checked)
      (combineBranchesIn lib (tracedOps release) variant path branches combined)
      (combineBranchesIn lib (checkedOps checked) variant path branches combined)
      (combineBranchesIn lib (releaseOps release) variant path branches combined) := by
  induction branches generalizing combined with
  | nil => exact .pure _
  | cons branch rest ih =>
      simp only [combineBranchesIn]
      refine .bind (alike_call h _ _ _ _) (fun value => ?_)
      cases value.asObject with
      | none => exact .pure _
      | some object => exact ih _

theorem alike_item (items : Value) (variant : Nat) (path : Str) (unique : Bool) (values : List Value)
    (index : Nat) (attempts : List Nat) :
    RunsAlike (GenerationEvent.panics checked)
      (generateItemIn lib (tracedOps release) items variant path unique values index attempts)
      (generateItemIn lib (checkedOps checked) items variant path unique values index attempts)
      (generateItemIn lib (releaseOps release) items variant path unique values index attempts) := by
  induction attempts with
  | nil => exact .fail _
  | cons attempt rest ih =>
      simp only [generateItemIn]
      refine .bind (alike_call h _ _ _ _) (fun candidate => ?_)
      by_cases hfresh : (!unique || !(values.contains candidate)) = true
      · simp only [hfresh, if_true]
        exact .pure _
      · simp only [hfresh]
        exact ih

theorem alike_array (schema : Value) (variant : Nat) (path : Str) :
    RunsAlike (GenerationEvent.panics checked)
      (generateArrayIn lib (tracedOps release) schema variant path)
      (generateArrayIn lib (checkedOps checked) schema variant path)
      (generateArrayIn lib (releaseOps release) schema variant path) := by
  unfold generateArrayIn
  exact .ite (.fail _) (.bind (.foldlM (fun values index =>
    .bind (alike_item h _ _ _ _ _ _ _) (fun _ => .pure _)) _ _) (fun values => .pure _))

theorem alike_addProperty (variant : Nat) (path : Str) (object : List (Str × Value))
    (property : Str × Value) :
    RunsAlike (GenerationEvent.panics checked)
      (addPropertyIn lib (tracedOps release) variant path object property)
      (addPropertyIn lib (checkedOps checked) variant path object property)
      (addPropertyIn lib (releaseOps release) variant path object property) :=
  .bind (alike_call h _ _ _ _) (fun _ => .pure _)

theorem alike_selectProperty (schema : Value) (variant : Nat) (path : Str)
    (object : List (Str × Value)) (p : (Str × Value) × Nat) :
    RunsAlike (GenerationEvent.panics checked)
      (selectPropertyIn lib (tracedOps release) schema variant path object p)
      (selectPropertyIn lib (checkedOps checked) schema variant path object p)
      (selectPropertyIn lib (releaseOps release) schema variant path object p) := by
  unfold selectPropertyIn
  have hadd := @alike_addProperty lib _ _ h variant path object p.1
  exact .ite hadd (.bind (alike_sum _ _) (fun _ => .ite hadd (.pure _)))

theorem alike_object (schema : Value) (variant : Nat) (path : Str) :
    RunsAlike (GenerationEvent.panics checked)
      (generateObjectIn lib (tracedOps release) schema variant path)
      (generateObjectIn lib (checkedOps checked) schema variant path)
      (generateObjectIn lib (releaseOps release) schema variant path) := by
  unfold generateObjectIn
  dsimp only
  refine .bind (.foldlM (fun object p => ?_) _ _) (fun object => ?_)
  · exact .ite (.pure _) (alike_selectProperty h _ _ _ _ _)
  · refine .bind (.foldlM (fun object property => ?_) _ _) (fun object => ?_)
    · exact .ite (alike_addProperty h _ _ _ _) (.pure _)
    · exact .bind (alike_lift _) (fun _ => .bind (alike_lift _) (fun _ => .pure _))

theorem alike_typed (schema : Value) (variant : Nat) (path : Str) :
    RunsAlike (GenerationEvent.panics checked)
      (generateTypedIn lib (tracedOps release) number schema variant path)
      (generateTypedIn lib (checkedOps checked) number schema variant path)
      (generateTypedIn lib (releaseOps release) number schema variant path) := by
  unfold generateTypedIn
  refine .ite (.pure _) (.ite (.pure _) (.ite ?_ (.ite (alike_lift _) (.ite (alike_lift _)
    (.ite ?_ (.ite ?_ (.fail _)))))))
  · exact alike_integer _ _ _
  · exact alike_array h _ _ _
  · exact alike_object h _ _ _

/-- One level of the generator. -/
theorem alike_generate (schema : Value) (variant : Nat) (path : Str) :
    RunsAlike (GenerationEvent.panics checked)
      (generateIn lib (tracedOps release) number source schema variant path)
      (generateIn lib (checkedOps checked) number source schema variant path)
      (generateIn lib (releaseOps release) number source schema variant path) := by
  unfold generateIn
  refine .bind (alike_lift _) (fun schema => ?_)
  -- The branches of the generator in its order, each the same in the three runs.
  split
  · exact .fail _
  split
  · exact .pure _
  split
  · exact .fail _
  · exact .pure _
  split
  · exact .pure _
  split
  · exact alike_call h _ _ _ _
  split
  · exact alike_branches h _ _ _ _
  · exact alike_typed h _ _ _

/-- One level of the completion. -/
theorem alike_complete (schema : Value) (variant : Nat) (path : Str) (baseline : Value) :
    RunsAlike (GenerationEvent.panics checked)
      (completeIn lib (tracedOps release) source schema variant path baseline)
      (completeIn lib (checkedOps checked) source schema variant path baseline)
      (completeIn lib (releaseOps release) source schema variant path baseline) := by
  unfold completeIn
  refine .bind (alike_lift _) (fun schema => ?_)
  split
  · refine .bind (.foldlM (fun object p => ?_) _ _) (fun object => .pure _)
    unfold completePropertyIn
    split
    · exact .pure _
    · split
      · exact .bind (alike_call h _ _ _ _) (fun value => .pure _)
      · exact alike_selectProperty h _ _ _ _ _
  · exact .pure _

/-- Either of them. -/
theorem alike_position (schema : Value) (variant : Nat) (path : Str) (baseline : Option Value) :
    RunsAlike (GenerationEvent.panics checked)
      (positionIn lib (tracedOps release) number source schema variant path baseline)
      (positionIn lib (checkedOps checked) number source schema variant path baseline)
      (positionIn lib (releaseOps release) number source schema variant path baseline) := by
  cases baseline with
  | none => exact alike_generate h _ _ _
  | some baseline => exact alike_complete h _ _ _ _

end

/-! ### Positions -/

/-- Where generation is: a schema with a variant and a path, the levels left, and
    the value to complete, if there is one. -/
structure Position where
  levels : Nat
  schema : Value
  variant : Nat
  path : Str
  baseline : Option Value

namespace Position

/-- What happens at a position. -/
def events : Position → List GenerationEvent
  | ⟨0, _, _, _, _⟩ => []
  | ⟨levels + 1, schema, variant, path, baseline⟩ =>
      (positionIn lib (tracedOps (generateRelease lib number source levels)) number source schema
        variant path baseline).1

/-- A position calls another, with one level fewer. -/
def Calls (c c' : Position) : Prop :=
  c.levels = c'.levels + 1 ∧
    .call c'.schema c'.variant c'.path c'.baseline ∈ c.events lib number source

/-- The sums and products of a position are machine integers. -/
structure Fits (c : Position) : Prop where
  sums : ∀ v i, .sum v i ∈ c.events lib number source → v + i < u64Bound
  products : ∀ a b, .product a b ∈ c.events lib number source → InI64 (a * b)

/-- Generation at a position, in a build with overflow checks. -/
def checked (c : Position) : Except (Fault ConformanceError) Value :=
  generateChecked lib number source c.levels c.schema c.variant c.path c.baseline

/-- Generation at a position. -/
def release (c : Position) : Except ConformanceError Value :=
  generateRelease lib number source c.levels c.schema c.variant c.path c.baseline

end Position

section

variable {lib number source}

/-- At every level the checked generator panics on an event, or does the same as
    the generator. -/
theorem callsAlike (levels : Nat) :
    CallsAlike (generateRelease lib number source levels) (generateChecked lib number source levels) := by
  induction levels with
  | zero =>
      intro schema v path baseline _
      cases baseline with
      | none => rfl
      | some baseline => rfl
  | succ levels ih =>
      intro schema v path baseline hnone
      have halike := @alike_position lib number source _ _ ih schema v path baseline
      rw [positionIn_release] at halike
      refine halike.quiet (fun e he hpanics => hnone ?_)
      exact halike.loud ⟨e, he, hpanics⟩

/-- One level: a panic comes from a sum or a product, or from a call. -/
theorem checked_panic_iff (c : Position) :
    c.checked lib number source = .error .panic ↔
      ¬ c.Fits lib number source ∨
        ∃ c', c.Calls lib number source c' ∧ c'.checked lib number source = .error .panic := by
  rcases c with ⟨levels, schema, variant, path, baseline⟩
  cases levels with
  -- Without a level left nothing is computed, so nothing panics.
  | zero =>
      refine ⟨nofun, ?_⟩
      rintro (hfits | ⟨c', ⟨hlevels, _⟩, _⟩)
      · exact absurd ⟨fun _ _ h => absurd h List.not_mem_nil,
          fun _ _ h => absurd h List.not_mem_nil⟩ hfits
      · cases hlevels
  | succ levels =>
      -- The events are those of the traced run; the first that is out of range panics.
      have halike := @alike_position lib number source _ _
        (@callsAlike lib number source levels) schema variant path baseline
      refine halike.panic_iff.trans ?_
      constructor
      · rintro ⟨e, he, hpanics⟩
        cases e with
        | sum v i => exact Or.inl (fun hfits => absurd (hfits.sums v i he) (Nat.not_lt.mpr hpanics))
        | product a b => exact Or.inl (fun hfits => hpanics (hfits.products a b he))
        | call schema' v path' baseline' =>
            exact Or.inr ⟨⟨levels, schema', v, path', baseline'⟩, ⟨rfl, he⟩, hpanics⟩
      -- A product or sum that does not fit panics here, a call further down.
      · rintro (hfits | ⟨⟨levels', schema', v, path', baseline'⟩, ⟨hlevels, hcall⟩, hpanics⟩)
        · by_contra hnone
          refine hfits ⟨fun v i he => ?_, fun a b he => ?_⟩
          · by_contra hover
            exact hnone ⟨_, he, Nat.not_lt.mp hover⟩
          · by_contra hover
            exact hnone ⟨_, he, hover⟩
        · have hsame : levels' = levels := (Nat.succ.inj hlevels).symm
          subst hsame
          exact ⟨_, hcall, hpanics⟩

/-- The checked generator panics if and only if some position it reaches does not
    fit: by induction on the levels, a panic comes from a position below. -/
theorem checked_panic_iff_reached (c : Position) :
    c.checked lib number source = .error .panic ↔
      ∃ c', Relation.ReflTransGen (Position.Calls lib number source) c c' ∧
        ¬ c'.Fits lib number source := by
  constructor
  · intro hpanic
    -- By the levels left, which every call makes fewer.
    induction hlevels : c.levels generalizing c with
    | zero =>
        rcases (checked_panic_iff c).mp hpanic with hfits | ⟨c', ⟨hfewer, _⟩, _⟩
        · exact ⟨c, .refl, hfits⟩
        · omega
    | succ levels ih =>
        rcases (checked_panic_iff c).mp hpanic with hfits | ⟨c', hcalls, hpanic'⟩
        · exact ⟨c, .refl, hfits⟩
        · have hfewer := hcalls.1
          rcases ih c' hpanic' (by omega) with ⟨c'', hreach, hfits⟩
          exact ⟨c'', .head hcalls hreach, hfits⟩
  · rintro ⟨c', hreach, hfits⟩
    -- Along the calls: a panic further down is handed up.
    induction hreach using Relation.ReflTransGen.head_induction_on with
    | refl => exact (checked_panic_iff _).mpr (Or.inl hfits)
    | head hcalls _ ih => exact (checked_panic_iff _).mpr (Or.inr ⟨_, hcalls, ih⟩)

/-- There is no endless chain of calls, whatever the references of the document
    are: each has one level fewer. -/
theorem calls_terminate (c : Position) : Acc (fun c' c => c.Calls lib number source c') c := by
  induction hlevels : c.levels generalizing c with
  | zero =>
      refine ⟨c, fun c' hcalls => ?_⟩
      have hfewer := hcalls.1
      omega
  | succ levels ih =>
      refine ⟨c, fun c' hcalls => ?_⟩
      have hfewer := hcalls.1
      exact ih c' (by omega)

end

/-! ### The sums and products of a position -/

/-- The type of a schema decides at a position: there is a level left and no value
    to complete, and nothing the generator looks at before the type is there. -/
structure Position.Typed (c : Position) (schema : Value) : Prop where
  levels : 0 < c.levels
  fresh : c.baseline = none
  resolved : resolveLocal source.document c.schema c.path = .ok schema
  supported : unsupportedKeywords.find? (fun keyword => (schema.get keyword).isSome) = none
  const : schema.get "const" = none
  enum : (schema.get "enum").bind Value.asArray = none
  sample : exampleValue schema c.variant = none
  alternatives : alternatives schema = []
  allOf : (schema.get "allOf").bind Value.asArray = none

/-- A position of an object: its schema, the properties that are gone through, and
    what the value to complete has already. -/
def Position.Object (c : Position) (schema : Value) (properties existing : List (Str × Value)) :
    Prop :=
  (c.Typed source schema ∧ selectedType schema c.variant = "object" ∧
    properties = ((schema.get "properties").bind Value.asObject).getD [] ∧ existing = []) ∨
  (0 < c.levels ∧ resolveLocal source.document c.schema c.path = .ok schema ∧
    ∃ baseline table, c.baseline = some baseline ∧ baseline.asObject = some existing ∧
      schema.get "properties" = some table ∧ properties = table.asObject.getD [])

/-- The property at an index is neither read-only nor required, nor is it in the
    value to complete. -/
structure OptionalAt (schema : Value) (properties existing : List (Str × Value)) (i : Nat)
    (name : Str) (child : Value) : Prop where
  listed : properties[i]? = some (name, child)
  writable : readOnlyProperty child = false
  optional : (requiredNames schema).contains name = false
  missing : lookup name existing = none

/-- A position has such a property at an index. -/
def Position.Optional (c : Position) (i : Nat) : Prop :=
  ∃ schema properties existing name child, c.Object source schema properties existing ∧
    OptionalAt schema properties existing i name child

/-- A position of an integer that has to be a multiple. -/
def Position.Rounds (c : Position) (quotient multiple : Int) : Prop :=
  ∃ schema, c.Typed source schema ∧ selectedType schema c.variant = "integer" ∧
    (integerBounds schema).1 ≤ (integerBounds schema).2 ∧
    readI64 schema "multipleOf" = some multiple ∧ 0 < multiple ∧
    quotient = integerChoice schema c.variant / multiple

/-- The variant of a position leaves room for the indices of its optional
    properties, and the multiple it rounds to is a machine integer. -/
structure Position.Room (c : Position) : Prop where
  sums : ∀ i, c.Optional source i → c.variant + i < u64Bound
  products : ∀ schema, c.Typed source schema → selectedType schema c.variant = "integer" →
    NoOverflow schema c.variant

/-- The events whose sums and products satisfy two conditions. -/
def EventMeets (sums : Nat → Nat → Prop) (products : Int → Int → Prop) : GenerationEvent → Prop
  | .sum v i => sums v i
  | .product a b => products a b
  | .call _ _ _ _ => True

section

variable {lib number source} {release : Generator ConformanceError} {sums : Nat → Nat → Prop}
  {products : Int → Int → Prop}

theorem only_call (schema : Value) (v : Nat) (path : Str) (baseline : Option Value) :
    Only (EventMeets sums products) ((tracedOps release).call schema v path baseline) := .event trivial

theorem only_lift {α : Type} (r : Except ConformanceError α) :
    Only (EventMeets sums products) ((tracedOps release).lift r) := by
  cases r with
  | ok a => exact .pure a
  | error e => exact .fail e

theorem only_addProperty (variant : Nat) (path : Str) (object : List (Str × Value))
    (property : Str × Value) :
    Only (EventMeets sums products)
      (addPropertyIn lib (tracedOps release) variant path object property) :=
  .bind (only_call _ _ _ _) (fun _ => .pure _)

theorem only_selectProperty {schema : Value} {variant : Nat} {path : Str}
    {object : List (Str × Value)} {p : (Str × Value) × Nat}
    (h : (requiredNames schema).contains p.1.1 = false → sums variant p.2) :
    Only (EventMeets sums products)
      (selectPropertyIn lib (tracedOps release) schema variant path object p) := by
  unfold selectPropertyIn
  split
  · exact only_addProperty _ _ _ _
  · rename_i hrequired
    refine .bind (.event (h (Bool.not_eq_true _ ▸ hrequired))) (fun sum => ?_)
    split
    · exact only_addProperty _ _ _ _
    · exact .pure _

/-- The one product of an integer. -/
theorem only_integer {schema : Value} {variant : Nat} {path : Str}
    (h : ∀ multiple, (integerBounds schema).1 ≤ (integerBounds schema).2 →
      readI64 schema "multipleOf" = some multiple → 0 < multiple →
        products (integerChoice schema variant / multiple) multiple) :
    Only (EventMeets sums products) (generateIntegerIn (tracedOps release) schema variant path) := by
  unfold generateIntegerIn
  dsimp only
  -- Up to the product there is no event, and after it none.
  split
  · exact .fail _
  rename_i hbounds
  split
  · exact .pure _
  rename_i multiple hmultiple
  split
  · exact .fail _
  rename_i hpositive
  refine .bind (.event (h multiple (Int.not_lt.mp hbounds) hmultiple (Int.not_le.mp hpositive)))
    (fun floor => ?_)
  generalize (if floor < (integerBounds schema).1 then _ else floor) = selected
  split
  · exact .fail _
  · exact .pure _

theorem only_branches (variant : Nat) (path : Str) (branches : List (Value × Nat))
    (combined : List (Str × Value)) :
    Only (EventMeets sums products)
      (combineBranchesIn lib (tracedOps release) variant path branches combined) := by
  induction branches generalizing combined with
  | nil => exact .pure _
  | cons branch rest ih =>
      simp only [combineBranchesIn]
      refine .bind (only_call _ _ _ _) (fun value => ?_)
      cases value.asObject with
      | none => exact .pure _
      | some object => exact ih _

theorem only_item (items : Value) (variant : Nat) (path : Str) (unique : Bool) (values : List Value)
    (index : Nat) (attempts : List Nat) :
    Only (EventMeets sums products)
      (generateItemIn lib (tracedOps release) items variant path unique values index attempts) := by
  induction attempts with
  | nil => exact .fail _
  | cons attempt rest ih =>
      simp only [generateItemIn]
      refine .bind (only_call _ _ _ _) (fun candidate => ?_)
      by_cases hfresh : (!unique || !(values.contains candidate)) = true
      · simp only [hfresh, if_true]
        exact .pure _
      · simp only [hfresh]
        exact ih

theorem only_array (schema : Value) (variant : Nat) (path : Str) :
    Only (EventMeets sums products) (generateArrayIn lib (tracedOps release) schema variant path) := by
  unfold generateArrayIn
  dsimp only
  split
  · exact .fail _
  · exact .bind (.foldlM (fun values index _ =>
      .bind (only_item _ _ _ _ _ _ _) (fun _ => .pure _)) _) (fun values => .pure _)

/-- The sums of an object are those of its optional properties. -/
theorem only_object {schema : Value} {variant : Nat} {path : Str}
    (h : ∀ i name child, OptionalAt schema (((schema.get "properties").bind Value.asObject).getD [])
      [] i name child → sums variant i) :
    Only (EventMeets sums products)
      (generateObjectIn lib (tracedOps release) schema variant path) := by
  unfold generateObjectIn
  dsimp only
  refine .bind (.foldlM (fun object p hp => ?_) _) (fun object => ?_)
  · split
    · exact .pure _
    · rename_i hwritable
      exact only_selectProperty (fun hrequired => h p.2 p.1.1 p.1.2
        ⟨List.mk_mem_zipIdx_iff_getElem?.mp hp, Bool.not_eq_true _ ▸ hwritable, hrequired, rfl⟩)
  · refine .bind (.foldlM (fun object property _ => ?_) _) (fun object => ?_)
    · split
      · exact only_addProperty _ _ _ _
      · exact .pure _
    · exact .bind (only_lift _) (fun _ => .bind (only_lift _) (fun _ => .pure _))

/-- One level without a value to complete: the sums are those of an object, the
    product is that of an integer. -/
theorem only_generate {levels : Nat} {schema : Value} {variant : Nat} {path : Str} :
    Only (EventMeets (fun v i => v = variant ∧
        Position.Optional source ⟨levels + 1, schema, variant, path, none⟩ i)
      (Position.Rounds source ⟨levels + 1, schema, variant, path, none⟩))
      (generateIn lib (tracedOps release) number source schema variant path) := by
  unfold generateIn
  cases hresolve : resolveLocal source.document schema path with
  | error e =>
      change Only _ (Traced.fail e >>= _)
      rw [Traced.fail_bind]
      exact .fail e
  | ok resolved =>
      change Only _ (pure resolved >>= _)
      rw [Traced.pure_bind]
      split
      · exact .fail _
      rename_i hsupported
      split
      · exact .pure _
      rename_i hconst
      split
      · exact .fail _
      · exact .pure _
      rename_i henum
      split
      · exact .pure _
      rename_i hsample
      split
      · exact only_call _ _ _ _
      rename_i halternatives
      split
      · exact only_branches _ _ _ _
      rename_i hallOf
      have htyped : Position.Typed source ⟨levels + 1, schema, variant, path, none⟩ resolved :=
        ⟨Nat.succ_pos levels, rfl, hresolve, hsupported, hconst, henum, hsample, halternatives, hallOf⟩
      -- Only an integer and an object calculate.
      unfold generateTypedIn
      refine .ite (fun _ => .pure _) (fun _ => .ite (fun _ => .pure _) (fun _ =>
        .ite (fun hkind => ?_) (fun _ => .ite (fun _ => only_lift _) (fun _ =>
          .ite (fun _ => only_lift _) (fun _ => .ite (fun _ => only_array _ _ _) (fun _ =>
            .ite (fun hkind => ?_) (fun _ => .fail _)))))))
      · exact only_integer (fun multiple hbounds hmultiple hpositive =>
          ⟨resolved, htyped, hkind, hbounds, hmultiple, hpositive, rfl⟩)
      · exact only_object (fun i name child hoptional =>
          ⟨rfl, resolved, _, _, name, child, Or.inl ⟨htyped, hkind, rfl, rfl⟩, hoptional⟩)

/-- One level with a value to complete: the sums are those of its properties. -/
theorem only_complete {levels : Nat} {schema : Value} {variant : Nat} {path : Str}
    {baseline : Value} :
    Only (EventMeets (fun v i => v = variant ∧
        Position.Optional source ⟨levels + 1, schema, variant, path, some baseline⟩ i) products)
      (completeIn lib (tracedOps release) source schema variant path baseline) := by
  unfold completeIn
  cases hresolve : resolveLocal source.document schema path with
  | error e =>
      change Only _ (Traced.fail e >>= _)
      rw [Traced.fail_bind]
      exact .fail e
  | ok resolved =>
      change Only _ (pure resolved >>= _)
      rw [Traced.pure_bind]
      -- One sum for each property that is offered, at its place in the table.
      split
      · rename_i existing table hexisting htable
        refine .bind (.foldlM (fun object p hp => ?_) _) (fun object => .pure _)
        unfold completePropertyIn
        split
        · exact .pure _
        -- A property already there is completed by a call, without a sum.
        rename_i hwritable
        split
        · exact .bind (only_call _ _ _ _) (fun _ => .pure _)
        rename_i hmissing
        exact only_selectProperty (fun hrequired => ⟨rfl, resolved, _, existing, p.1.1, p.1.2,
          Or.inr ⟨Nat.succ_pos levels, hresolve, baseline, table, rfl, hexisting, htable, rfl⟩,
          ⟨List.mk_mem_zipIdx_iff_getElem?.mp hp, Bool.not_eq_true _ ▸ hwritable, hrequired,
            hmissing⟩⟩)
      · exact .pure _

/-- The sums of a position are those of its variant and the indices of its
    optional properties, and its product is that of the multiple it rounds to. -/
theorem only_events (c : Position) :
    ∀ e ∈ c.events lib number source,
      EventMeets (fun v i => v = c.variant ∧ c.Optional source i) (c.Rounds source) e := by
  rcases c with ⟨levels, schema, variant, path, baseline⟩
  cases levels with
  | zero => exact fun e he => absurd he List.not_mem_nil
  | succ levels =>
      cases baseline with
      | none => exact only_generate
      | some baseline => exact only_complete

/-- A position fits when there is room. -/
theorem fits_of_room {c : Position} (h : c.Room source) : c.Fits lib number source := by
  refine ⟨fun v i hsum => ?_, fun a b hproduct => ?_⟩
  · rcases only_events c _ hsum with ⟨rfl, hoptional⟩
    exact h.sums i hoptional
  · rcases only_events c _ hproduct with ⟨schema, htyped, hkind, hbounds, hmultiple, hpositive, rfl⟩
    exact h.products schema htyped hkind hbounds b hmultiple hpositive

end

/-! ### What a position does -/

/-- The position of a property, one level down. -/
def Position.child (c : Position) (existing : List (Str × Value)) (p : Str × Value) : Position :=
  ⟨c.levels - 1, p.2, variantFor lib c.variant p.1, c.path ++ '.' :: p.1, lookup p.1 existing⟩

/-- The properties before an index that are generated have values. -/
def Position.FrontGenerated (c : Position) (schema : Value)
    (properties existing : List (Str × Value)) (i : Nat) : Prop :=
  ∀ j < i, ∀ p, properties[j]? = some p → readOnlyProperty p.2 = false →
    ((lookup p.1 existing).isSome = true ∨ (requiredNames schema).contains p.1 = true ∨
      wrappingAdd c.variant j % 3 = 0) →
    ∃ v, (c.child lib existing p).release lib number source = .ok v

/-- A position comes to its optional property at an index: nothing fails before. -/
def Position.ComesTo (c : Position) (i : Nat) : Prop :=
  ∃ schema properties existing name child, c.Object source schema properties existing ∧
    OptionalAt schema properties existing i name child ∧
    c.FrontGenerated lib number source schema properties existing i

section

variable {lib number source}

/-- The product of an integer is made. -/
theorem mem_integer {release : Generator ConformanceError} {schema : Value} {variant : Nat}
    {path : Str} {multiple : Int} (hbounds : (integerBounds schema).1 ≤ (integerBounds schema).2)
    (hmultiple : readI64 schema "multipleOf" = some multiple) (hpositive : 0 < multiple) :
    .product (integerChoice schema variant / multiple) multiple ∈
      (generateIntegerIn (tracedOps release) schema variant path).1 := by
  unfold readI64 at hmultiple
  unfold generateIntegerIn
  dsimp only
  rw [if_neg (Int.not_lt.mpr hbounds), hmultiple]
  dsimp only
  rw [if_neg (Int.not_le.mpr hpositive)]
  exact Traced.mem_bind List.mem_cons_self

/-- At a position whose type decides, the generator of that type runs. -/
theorem Position.Typed.events {c : Position} {schema : Value} (h : c.Typed source schema) :
    ∃ levels, c.levels = levels + 1 ∧ c.events lib number source =
      (generateTypedIn lib (tracedOps (generateRelease lib number source levels)) number schema
        c.variant c.path).1 := by
  -- None of the earlier branches of the generator is taken.
  rcases c with ⟨levels, raw, variant, path, baseline⟩
  rcases h with ⟨hlevels, hfresh, hresolve, hsupported, hconst, henum, hsample, halternatives, hallOf⟩
  dsimp only at hlevels hfresh hresolve hsample
  subst hfresh
  rcases Nat.exists_eq_add_one.mpr hlevels with ⟨fewer, rfl⟩
  refine ⟨fewer, rfl, ?_⟩
  change (generateIn lib (tracedOps (generateRelease lib number source fewer)) number source raw
    variant path).1 = _
  unfold generateIn
  rw [hresolve]
  change ((pure schema : Traced GenerationEvent ConformanceError Value) >>= _).1 = _
  rw [Traced.pure_bind, hsupported]
  dsimp only
  rw [hconst]
  dsimp only
  rw [henum]
  dsimp only
  rw [hsample]
  dsimp only
  rw [halternatives]
  dsimp only
  rw [hallOf]

/-- A position that rounds makes the product. -/
theorem product_mem_events {c : Position} {quotient multiple : Int}
    (h : c.Rounds source quotient multiple) :
    .product quotient multiple ∈ c.events lib number source := by
  rcases h with ⟨schema, htyped, hkind, hbounds, hmultiple, hpositive, rfl⟩
  rcases @Position.Typed.events lib number source c schema htyped with ⟨levels, _, hevents⟩
  rw [hevents]
  unfold generateTypedIn
  rw [hkind]
  exact mem_integer hbounds hmultiple hpositive

/-- The items before the one at an index, with their indices. -/
theorem zipIdx_split {α : Type} {l : List α} {i : Nat} {a : α} (h : l[i]? = some a) :
    ∃ front rest, l.zipIdx = front ++ (a, i) :: rest ∧ ∀ p ∈ front, p.2 < i ∧ l[p.2]? = some p.1 := by
  rcases List.getElem?_eq_some_iff.mp h with ⟨hlt, hget⟩
  have hsplit : l = l.take i ++ a :: l.drop (i + 1) := by
    rw [← hget, List.getElem_cons_drop, List.take_append_drop]
  have hlength : (l.take i).length = i := by
    rw [List.length_take]
    omega
  refine ⟨(l.take i).zipIdx, (l.drop (i + 1)).zipIdx (i + 1), ?_, fun p hp => ?_⟩
  · conv_lhs => rw [hsplit]
    rw [List.zipIdx_append, hlength, List.zipIdx_cons, Nat.zero_add]
  · have hfront := List.mk_mem_zipIdx_iff_getElem?.mp hp
    rcases List.getElem?_eq_some_iff.mp hfront with ⟨hbelow, _⟩
    rw [hlength] at hbelow
    rw [List.getElem?_take_of_lt hbelow] at hfront
    exact ⟨hbelow, hfront⟩

section

variable {release : Generator ConformanceError} {schema : Value} {variant : Nat} {path : Str}
  {object : List (Str × Value)} {p : (Str × Value) × Nat}

/-- The sum of an optional property is made. -/
theorem mem_selectProperty (h : (requiredNames schema).contains p.1.1 = false) :
    .sum variant p.2 ∈
      (selectPropertyIn lib (tracedOps release) schema variant path object p).1 := by
  unfold selectPropertyIn
  rw [if_neg (by rw [h]; exact Bool.false_ne_true)]
  exact Traced.mem_bind List.mem_cons_self

theorem addProperty_ok {v : Value} (h : release p.1.2 (variantFor lib variant p.1.1)
    (path ++ '.' :: p.1.1) none = .ok v) :
    ∃ b, (addPropertyIn lib (tracedOps release) variant path object p.1).2 = .ok b :=
  ⟨_, Traced.bind_ok h rfl⟩

/-- A property that is generated if it is selected lets the loop go on. -/
theorem selectProperty_ok (h : ((requiredNames schema).contains p.1.1 = true ∨
    wrappingAdd variant p.2 % 3 = 0) → ∃ v, release p.1.2 (variantFor lib variant p.1.1)
      (path ++ '.' :: p.1.1) none = .ok v) :
    ∃ b, (selectPropertyIn lib (tracedOps release) schema variant path object p).2 = .ok b := by
  unfold selectPropertyIn
  split_ifs with hrequired
  · rcases h (Or.inl hrequired) with ⟨v, hv⟩
    exact addProperty_ok hv
  · by_cases hselected : wrappingAdd variant p.2 % 3 = 0
    · rcases h (Or.inr hselected) with ⟨v, hv⟩
      rcases @addProperty_ok lib release variant path object p v hv with ⟨b, hb⟩
      refine ⟨b, Traced.bind_ok rfl ?_⟩
      rw [if_pos hselected]
      exact hb
    · refine ⟨object, Traced.bind_ok rfl ?_⟩
      rw [if_neg hselected]
      rfl

end

/-- A position makes the sum of its variant and the index of an optional property
    it comes to. -/
theorem sum_mem_events {c : Position} {i : Nat} (h : c.ComesTo lib number source i) :
    .sum c.variant i ∈ c.events lib number source := by
  rcases h with ⟨schema, properties, existing, name, child, hobject,
    ⟨hlisted, hwritable, hoptional, hmissing⟩, hfront⟩
  rcases zipIdx_split hlisted with ⟨front, rest, hsplit, hbefore⟩
  -- An object is generated, or one given is completed.
  rcases hobject with ⟨htyped, hkind, rfl, rfl⟩ |
    ⟨hlevels, hresolve, baseline, table, hbaseline, hexisting, htable, rfl⟩
  · rcases @Position.Typed.events lib number source c schema htyped with ⟨levels, hsucc, hevents⟩
    rw [hevents]
    unfold generateTypedIn
    rw [hkind]
    change _ ∈ (generateObjectIn lib (tracedOps (generateRelease lib number source levels)) schema
      c.variant c.path).1
    unfold generateObjectIn
    dsimp only
    rw [hsplit]
    refine Traced.mem_bind (Traced.mem_foldlM (fun object p hp => ?_) (fun object => ?_) [])
    -- Before this property every step of the fold succeeds.
    · rcases hbefore p hp with ⟨hlt, hget⟩
      split_ifs with hreadOnly
      · exact ⟨object, rfl⟩
      refine selectProperty_ok (fun hselected => ?_)
      rcases hfront p.2 hlt p.1 hget (Bool.not_eq_true _ ▸ hreadOnly) (Or.inr hselected) with ⟨v, hv⟩
      refine ⟨v, ?_⟩
      unfold Position.release Position.child at hv
      rw [hsucc] at hv
      exact hv
    · dsimp only
      rw [if_neg (by rw [hwritable]; exact Bool.false_ne_true)]
      exact mem_selectProperty hoptional
  · rcases c with ⟨levels, raw, variant, path, given⟩
    dsimp only at hlevels hresolve hbaseline hfront ⊢
    subst hbaseline
    rcases Nat.exists_eq_add_one.mpr hlevels with ⟨fewer, rfl⟩
    change _ ∈ (completeIn lib (tracedOps (generateRelease lib number source fewer)) source raw
      variant path baseline).1
    unfold completeIn
    rw [hresolve]
    change _ ∈ ((pure schema : Traced GenerationEvent ConformanceError Value) >>= _).1
    rw [Traced.pure_bind, hexisting, htable]
    dsimp only
    rw [hsplit]
    -- The same fold, starting from the members that are given.
    refine Traced.mem_bind (Traced.mem_foldlM (fun object p hp => ?_) (fun object => ?_) existing)
    · rcases hbefore p hp with ⟨hlt, hget⟩
      have hgenerated := hfront p.2 hlt p.1 hget
      unfold Position.release Position.child at hgenerated
      unfold completePropertyIn
      split_ifs with hreadOnly
      · exact ⟨object, rfl⟩
      cases hfound : lookup p.1.1 existing with
      | some value =>
          rcases hgenerated (Bool.not_eq_true _ ▸ hreadOnly) (Or.inl (by rw [hfound]; rfl)) with ⟨v, hv⟩
          rw [hfound] at hv
          exact ⟨_, Traced.bind_ok hv rfl⟩
      | none =>
          refine selectProperty_ok (fun hselected => ?_)
          rcases hgenerated (Bool.not_eq_true _ ▸ hreadOnly) (Or.inr hselected) with ⟨v, hv⟩
          rw [hfound] at hv
          exact ⟨v, hv⟩
    · unfold completePropertyIn
      dsimp only
      rw [if_neg (by rw [hwritable]; exact Bool.false_ne_true), hmissing]
      exact mem_selectProperty hoptional

end

/-- Generation never panics in a build with overflow checks and ends, whatever the
    references of the document are, if at every position that is reached there is
    room for the indices of its optional properties and for the multiple it rounds
    to. Where it does not panic, there is room for every multiple, and for every
    optional property a position comes to. -/
theorem generation_sound (c : Position) :
    ((∀ c', Relation.ReflTransGen (Position.Calls lib number source) c c' → c'.Room source) →
      c.checked lib number source ≠ .error .panic ∧
        Acc (fun c' c => c.Calls lib number source c') c) ∧
    (c.checked lib number source ≠ .error .panic →
      ∀ c', Relation.ReflTransGen (Position.Calls lib number source) c c' →
        (∀ schema, c'.Typed source schema → selectedType schema c'.variant = "integer" →
          NoOverflow schema c'.variant) ∧
        ∀ i, c'.ComesTo lib number source i → c'.variant + i < u64Bound) := by
  constructor
  -- With room for every sum and product nothing panics, and the calls end.
  · intro hroom
    refine ⟨fun hpanic => ?_, calls_terminate c⟩
    rcases (checked_panic_iff_reached c).mp hpanic with ⟨c', hreach, hfits⟩
    exact hfits (fits_of_room (hroom c' hreach))
  -- Without a panic every position reached fits, so its events are in range.
  · intro hquiet c' hreach
    have hfits : c'.Fits lib number source := by
      by_contra hnot
      exact hquiet ((checked_panic_iff_reached c).mpr ⟨c', hreach, hnot⟩)
    exact ⟨fun schema htyped hkind hbounds k hk hpositive => hfits.products _ _ (product_mem_events
        ⟨schema, htyped, hkind, hbounds, hk, hpositive, rfl⟩),
      fun i hcomes => hfits.sums _ _ (sum_mem_events hcomes)⟩

end

/-! ### A variant at the top of the range -/

/-- An object with two optional properties, and the largest variant. -/
def topPosition : Position :=
  { levels := MAX_GENERATION_DEPTH
    schema := .object [("type".toList, .string "object"),
      ("properties".toList, .object
        [("a".toList, .object [("type".toList, .string "boolean")]),
          ("b".toList, .object [("type".toList, .string "boolean")])])]
    variant := u64Bound - 1
    path := []
    baseline := none }

/-- A document without definitions. -/
def plainSource : OpenApiSource := ⟨.object [], [], []⟩

/-- Generation panics on the second property. -/
theorem generation_panics : ¬ ∀ (lib : Crates)
    (number : Value → Nat → Str → Except ConformanceError Value) (source : OpenApiSource)
    (c : Position), c.checked lib number source ≠ .error .panic := by
  intro h
  have hpanic : topPosition.checked referenceCrates (fun _ _ _ => .ok .null) plainSource =
      .error .panic := by
    decide +kernel
  exact h _ _ _ _ hpanic

end Kahea
