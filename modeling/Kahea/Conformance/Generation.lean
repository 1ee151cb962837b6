import Kahea.Base.Table
import Kahea.Conformance.Parameters
import Kahea.Plan.Reading
import Kahea.Plan.References
import Mathlib.Algebra.Order.Ring.Int

/-!
# Generated Requests

The generator of conformance campaigns, `build_conformance_plan`: the baseline
with the explicit fields merged in, the values it generates for what the
baseline leaves open, the request plans of the positive and the negative cases,
and the sealed campaign over a selection of them.

A value is generated from a schema and a 64-bit variant, the hash of where it
stands; sums of such words wrap around, as in a build without overflow checks. The functions that walk a schema take the number of levels left; a
helper of theirs takes the recursive call as an argument. What is drawn for a
schema of type `number` is computed in floating point and is the parameter
`number` here.

## Main definitions

* `variant`, `variantFor`: The numbers that select what is generated.
* `generateValue`, `generateWithBaseline`: A value for a schema.
* `baselineWithExplicit`, `generatedInput`: The input document of a case.
* `positivePlans`, `collectNegatives`, `selectCases`: The cases.
* `buildConformancePlan`: The campaign.
-/

namespace Kahea

def MAX_CASES : Nat := 256

def MAX_FAILURES : Nat := 256

def MAX_DELAY_MS : Nat := 60000

def MAX_GENERATION_DEPTH : Nat := 32

def MAX_GENERATED_STRING : Nat := 1024

def MAX_GENERATED_ARRAY : Nat := 16

/-! ### Machine integers -/

/-- The wrapping sum of two 64-bit words. -/
def wrappingAdd (a b : Nat) : Nat := (a + b) % u64Bound

/-- A 64-bit word rotated to the left. -/
def rotateLeft (n bits : Nat) : Nat := ((n <<< bits) ||| (n >>> (64 - bits))) % u64Bound

/-- The nearest signed 64-bit integer. -/
def saturateI64 (n : Int) : Int := max (-2 ^ 63) (min n (2 ^ 63 - 1))

/-- The signed 64-bit integer with the same low bits. -/
def wrapI64 (n : Int) : Int := (n + 2 ^ 63) % 2 ^ 64 - 2 ^ 63

/-- A signed 64-bit integer. -/
def Value.asI64 : Value → Option Int
  | .number (.posInt n) => if n < 2 ^ 63 then some n else none
  | .number (.negInt n) => some (-(n + 1 : Int))
  | _ => none

/-- The JSON number of an integer. -/
def jsonInt : Int → Value
  | .ofNat n => .number (.posInt n)
  | .negSucc n => .number (.negInt n)

/-! ### Scalars -/

/-- The function `generation`. -/
def generation (path reason : Str) : ConformanceError := .generation path reason

section

variable (lib : Crates)

/-- The first eight bytes of a hash, as a big-endian number. -/
def variant (seed index : Nat) (domain : Str) : Nat :=
  ((lib.blake3 (utf8 "kahea/conformance/v1\x00" ++ beBytes seed ++ beBytes index ++
    utf8 domain)).take 16).foldl (fun acc c => acc * 16 + (hexValue c).getD 0) 0

def variantFor (parent : Nat) (field : Str) : Nat := variant lib parent (utf8 field).length field

end

/-- The least and the greatest integer a schema admits. -/
def integerBounds (schema : Value) : Int × Int :=
  let minimum := ((schema.get "minimum").bind Value.asI64).getD (-100)
  let maximum := ((schema.get "maximum").bind Value.asI64).getD 100
  (match (schema.get "exclusiveMinimum").bind Value.asI64 with
    | some exclusive => max minimum (saturateI64 (exclusive + 1))
    | none => if schema.get "exclusiveMinimum" = some (.bool true) then saturateI64 (minimum + 1)
        else minimum,
  match (schema.get "exclusiveMaximum").bind Value.asI64 with
    | some exclusive => min maximum (saturateI64 (exclusive - 1))
    | none => if schema.get "exclusiveMaximum" = some (.bool true) then saturateI64 (maximum - 1)
        else maximum)

def generateInteger (schema : Value) (variant : Nat) (path : Str) :
    Except ConformanceError Value :=
  let (minimum, maximum) := integerBounds schema
  if maximum < minimum then .error (generation path "minimum exceeds maximum")
  else
    let selected := [minimum, maximum, max minimum (min 0 maximum)].getD (variant % 3) 0
    match (schema.get "multipleOf").bind Value.asI64 with
    | none => .ok (jsonInt selected)
    | some multiple =>
        if multiple ≤ 0 then .error (generation path "multipleOf must be positive")
        else
          let floor := wrapI64 (selected / multiple * multiple)
          let selected := if floor < minimum then saturateI64 (floor + multiple) else floor
          if maximum < selected then
            .error (generation path "no multipleOf value exists within bounds")
          else .ok (jsonInt selected)

/-- The text of a known string format. -/
def formatText (format : Str) : Option Str :=
  if format = "date" then some "2026-08-05"
  else if format = "date-time" then some "2026-08-05T00:00:00Z"
  else if format = "email" then some "kahea@example.test"
  else if format = "uuid" then some "00000000-0000-4000-8000-000000000001"
  else if format = "uri" ∨ format = "url" then some "https://example.test/resource"
  else if format = "hostname" then some "example.test"
  else if format = "ipv4" then some "192.0.2.1"
  else if format = "ipv6" then some "2001:db8::1"
  else if format = "byte" then some "a2FoZWE="
  else none

def simplePatternValue (pattern : Str) (minimum : Nat) : Option Str :=
  let length := max minimum 1
  if "\\d".toList <:+: pattern ∨ "0-9".toList <:+: pattern then some (List.replicate length '7')
  else if "A-Z".toList <:+: pattern then some (List.replicate length 'A')
  else if "a-z".toList <:+: pattern ∨ "A-Za-z".toList <:+: pattern then
    some (List.replicate length 'a')
  else none

/-- A text for a pattern, else an example of the schema. -/
def generatePattern (schema : Value) (pattern : Str) (minimum maximum : Nat) (path : Str) :
    Except ConformanceError Str :=
  match (simplePatternValue pattern minimum).filter (fun value => value.length ≤ maximum) with
  | some value => .ok value
  | none => match ((schema.get "example").or (schema.get "default")).bind Value.asStr with
    | some text => .ok text
    | none => .error (generation path
        "pattern is not in the bounded built-in subset; supply baseline input")

/-- A text between two lengths. -/
def generateText (variant minimum maximum : Nat) : Str :=
  let upper := min maximum MAX_GENERATED_STRING
  let length := [minimum, upper, min (minimum + 1) upper].getD (variant % 3) 0
  List.replicate length (['a', 'Z', '7'].getD (variant % 3) 'a')

def generateString (schema : Value) (variant : Nat) (path : Str) : Except ConformanceError Str :=
  let format := (schema.get "format").bind Value.asStr
  if format = some "binary".toList then
    .error (generation path "binary values require a baseline $file descriptor")
  else match format.bind formatText with
    | some text => .ok text
    | none =>
        let minimum := ((schema.get "minLength").bind Value.asU64).getD 0
        let maximum := ((schema.get "maxLength").bind Value.asU64).getD
          (min (minimum + 16) (u64Bound - 1))
        if maximum < minimum ∨ MAX_GENERATED_STRING < minimum then
          .error (generation path "string bounds are not safely generatable")
        else match (schema.get "pattern").bind Value.asStr with
          | some pattern => generatePattern schema pattern minimum maximum path
          | none => .ok (generateText variant minimum maximum)

/-! ### Values -/

/-- The keywords nothing is generated for. -/
def unsupportedKeywords : List Str :=
  ["not", "if", "then", "else", "dependentRequired", "dependentSchemas", "patternProperties",
    "propertyNames", "contains", "prefixItems", "unevaluatedProperties",
    "unevaluatedItems"].map String.toList

/-- An example of the schema, for every fifth variant. -/
def exampleValue (schema : Value) (variant : Nat) : Option Value :=
  if variant % 5 = 0 then
    ((schema.get "example").or (schema.get "default")).or
      (((schema.get "examples").bind Value.asArray).bind (fun values =>
        values[variant % max values.length 1]?))
  else none

/-- The branches of `oneOf`, or of `anyOf` in its absence. -/
def alternatives (schema : Value) : List Value :=
  (((schema.get "oneOf").or (schema.get "anyOf")).bind Value.asArray).getD []

/-- The type a value is generated of. -/
def selectedType (schema : Value) (variant : Nat) : Str :=
  match declaredTypes schema with
  | [] =>
      if (schema.get "properties").isSome then "object"
      else if (schema.get "items").isSome then "array"
      else "string"
  | types => types.getD (variant % types.length) []

/-- Whether a property is marked read-only. -/
def readOnlyProperty (child : Value) : Bool :=
  ((child.get "readOnly").bind Value.asBool).getD false

/-- The names a schema requires. -/
def requiredNames (schema : Value) : List Str :=
  (((schema.get "required").bind Value.asArray).getD []).filterMap Value.asStr

section

variable (lib : Crates) (recurse : Value → Nat → Str → Except ConformanceError Value)

/-- The members of the values of all branches; a branch that is no object is
    the value itself. -/
def combineBranches (variant : Nat) (path : Str) :
    List (Value × Nat) → List (Str × Value) → Except ConformanceError Value
  | [], combined => .ok (.object combined)
  | (branch, index) :: rest, combined => do
      let value ← recurse branch (variantFor lib variant (decimal index)) path
      match value.asObject with
      | none => pure value
      | some object => combineBranches variant path rest (writeAll object combined)

/-- One item, of the first attempt that gives one not to be repeated. -/
def generateItem (items : Value) (variant : Nat) (path : Str) (unique : Bool)
    (values : List Value) (index : Nat) : List Nat → Except ConformanceError Value
  | [] => .error (generation path "unique array items could not be generated")
  | attempt :: rest => do
      let candidate ← recurse items (variantFor lib (wrappingAdd variant attempt) (decimal index))
        (path ++ '[' :: decimal index ++ [']'])
      if !unique || !(values.contains candidate) then pure candidate
      else generateItem items variant path unique values index rest

/-- A value of type `array`. -/
def generateArray (schema : Value) (variant : Nat) (path : Str) : Except ConformanceError Value :=
  let minimum := ((schema.get "minItems").bind Value.asU64).getD 0
  let maximum := ((schema.get "maxItems").bind Value.asU64).getD
    (min (minimum + 3) (u64Bound - 1))
  if maximum < minimum ∨ MAX_GENERATED_ARRAY < minimum then
    .error (generation path "array bounds are not safely generatable")
  else do
    let upper := min maximum MAX_GENERATED_ARRAY
    let length := if upper = minimum then minimum else minimum + variant % (upper - minimum + 1)
    let unique := ((schema.get "uniqueItems").bind Value.asBool).getD false
    let values ← (List.range length).foldlM (fun values index =>
      (generateItem lib recurse ((schema.get "items").getD .null) variant path unique values index
        (List.range 16)).map (fun value => values ++ [value])) []
    pure (.array values)

/-- An object with a property generated. -/
def addProperty (variant : Nat) (path : Str) (object : List (Str × Value))
    (property : Str × Value) : Except ConformanceError (List (Str × Value)) :=
  (recurse property.2 (variantFor lib variant property.1) (path ++ '.' :: property.1)).map
    (fun value => insert property.1 value object)

/-- A value of type `object`: the required properties and some others, then
    more of them up to the least number. -/
def generateObject (schema : Value) (variant : Nat) (path : Str) :
    Except ConformanceError Value := do
  let properties := ((schema.get "properties").bind Value.asObject).getD []
  let minimum := ((schema.get "minProperties").bind Value.asU64).getD 0
  let object ← properties.zipIdx.foldlM (fun object p =>
    if !(readOnlyProperty p.1.2) &&
        ((requiredNames schema).contains p.1.1 || wrappingAdd variant p.2 % 3 = 0) then
      addProperty lib recurse variant path object p.1
    else .ok object) []
  let object ← properties.foldlM (fun object property =>
    if object.length < minimum ∧ (lookup property.1 object).isNone ∧
        !(readOnlyProperty property.2) then
      addProperty lib recurse variant path object property
    else .ok object) object
  ensure (minimum ≤ object.length)
    (generation path "minProperties cannot be generated safely")
  ensure (((schema.get "maxProperties").bind Value.asU64).all (fun maximum =>
      object.length ≤ maximum))
    (generation path "required properties exceed maxProperties")
  pure (.object object)

end

section

variable (lib : Crates) (number : Value → Nat → Str → Except ConformanceError Value)
  (source : OpenApiSource)

/-- The function `generate_value`; the first argument is the number of levels
    left. -/
def generateValue : Nat → Value → Nat → Str → Except ConformanceError Value
  | 0, _, _, path => .error (generation path "schema generation exceeded 32 levels")
  | levels + 1, schema, variant, path => do
      let schema ← resolveLocal source.document schema path
      match unsupportedKeywords.find? (fun keyword => (schema.get keyword).isSome) with
      | some keyword => .error (generation path
          ("schema keyword " ++ debugQuote keyword ++ " requires baseline input"))
      | none => match schema.get "const" with
      | some value => pure value
      | none => match (schema.get "enum").bind Value.asArray with
      | some [] => .error (generation path "enum is empty")
      | some (first :: rest) => pure ((first :: rest).getD (variant % (rest.length + 1)) .null)
      | none => match exampleValue schema variant with
      | some value => pure value
      | none => match alternatives schema with
      | first :: rest =>
          generateValue levels ((first :: rest).getD (variant % (rest.length + 1)) .null)
            (rotateLeft variant 7) path
      | [] => match (schema.get "allOf").bind Value.asArray with
      | some branches =>
          combineBranches lib (generateValue levels) variant path branches.zipIdx []
      | none =>
          let kind := selectedType schema variant
          if kind = "null" then pure .null
          else if kind = "boolean" then pure (.bool (variant % 2 = 0))
          else if kind = "integer" then generateInteger schema variant path
          else if kind = "number" then number schema variant path
          else if kind = "string" then (generateString schema variant path).map .string
          else if kind = "array" then generateArray lib (generateValue levels) schema variant path
          else if kind = "object" then
            generateObject lib (generateValue levels) schema variant path
          else .error (generation path ("unsupported schema type " ++ debugQuote kind))

/-- One property of an object that is completed: what is there is completed
    itself, and a required or selected one is generated. -/
def completeProperty (generate : Value → Nat → Str → Except ConformanceError Value)
    (complete : Value → Nat → Str → Value → Except ConformanceError Value)
    (schema : Value) (variant : Nat) (path : Str) (existing : List (Str × Value))
    (object : List (Str × Value)) (property : (Str × Value) × Nat) :
    Except ConformanceError (List (Str × Value)) :=
  let name := property.1.1
  if readOnlyProperty property.1.2 then .ok object
  else match lookup name existing with
    | some value =>
        (complete property.1.2 (variantFor lib variant name) (path ++ '.' :: name) value).map
          (fun value => insert name value object)
    | none =>
        if (requiredNames schema).contains name || wrappingAdd variant property.2 % 3 = 0 then
          addProperty lib generate variant path object property.1
        else .ok object

/-- A value of the baseline, completed; the first argument is the number of
    levels left. -/
def completeValue : Nat → Value → Nat → Str → Value → Except ConformanceError Value
  | 0, _, _, path, _ => .error (generation path "schema generation exceeded 32 levels")
  | levels + 1, schema, variant, path, baseline => do
      let schema ← resolveLocal source.document schema path
      match baseline.asObject, schema.get "properties" with
      | some existing, some properties =>
          let object ← (properties.asObject.getD []).zipIdx.foldlM
            (completeProperty lib (generateValue lib number source levels) (completeValue levels)
              schema variant path existing) existing
          pure (.object object)
      | _, _ => pure baseline

/-- The function `generate_value_with_baseline`. -/
def generateWithBaseline (schema : Value) (variant : Nat) (path : Str) (baseline : Option Value) :
    Except ConformanceError Value :=
  match baseline with
  | some baseline => completeValue lib number source MAX_GENERATION_DEPTH schema variant path baseline
  | none => generateValue lib number source MAX_GENERATION_DEPTH schema variant path

end

/-! ### Input documents -/

/-- The function `insert_nested`; `path` is the whole path, for the error. -/
def insertNested (path : Str) (value : Value) : List Str → Value → Except ConformanceError Value
  | [], _ => .error (generation path "explicit body path is empty")
  | [segment], .object members => .ok (.object (insert segment value members))
  | segment :: rest, .object members => do
      let child ← insertNested path value rest ((lookup segment members).getD (.object []))
      pure (.object (insert segment child members))
  | _ :: _, _ => .error (generation path "explicit body parent must be an object")

/-- One explicit field merged into an input document. -/
def mergeExplicit (root : List (Str × Value)) (field : Str × Value) :
    Except ConformanceError (List (Str × Value)) :=
  match splitOnce "." field.1 with
  | none => .error (generation field.1 "explicit field requires a location")
  | some (location, name) =>
      let location := canonicalSection location
      if location = "body" then do
        let body ← insertNested name field.2 (name.splitOn '.')
          ((lookup "body" root).getD (.object []))
        pure (insert "body" body root)
      else if isLocation location then
        match ((lookup location root).getD (.object [])).asObject with
        | some members => .ok (insert location (.object (insert name field.2 members)) root)
        | none => .error (generation location "input section must be an object")
      else .error (generation field.1 "unsupported explicit field location")

/-- The function `baseline_with_explicit`. -/
def baselineWithExplicit (baseline : Option Value) (explicit : List (Str × Value)) :
    Except ConformanceError (Option Value) :=
  if baseline.isNone ∧ explicit = [] then .ok none
  else (explicit.foldlM mergeExplicit (structuredMembers baseline)).map
    (fun root => some (.object root))

/-- The declared content of the request body, with whether a body is
    required. -/
def declaredContent (source : OpenApiSource) (body : Value) :
    Except ConformanceError (List (Str × Value) × Bool) := do
  let body ← resolveLocal source.document body "requestBody"
  match (body.get "content").bind Value.asObject with
  | some content => pure (content, ((body.get "required").bind Value.asBool).getD false)
  | none => .error (generation "body" "requestBody content is missing")

/-- The content type that is preferred: the first of JSON, else the first. -/
def preferredContent (content : List (Str × Value)) : Option (Str × Value) :=
  (content.find? (fun e => "json".toList <:+: e.1)).or content.head?

def selectedContentType (source : OpenApiSource) (operation : OperationDefinition)
    (requested : Option Str) : Except ConformanceError (Option Str) :=
  match lookup "requestBody" operation.operation with
  | none => .ok none
  | some body => do
      let (content, _) ← declaredContent source body
      match requested with
      | none => pure ((preferredContent content).map Prod.fst)
      | some requested =>
          if (lookup requested content).isSome then pure (some requested)
          else .error (generation "body"
            ("content type " ++ debugQuote requested ++ " is not declared"))

/-- The function `request_body_schema`. -/
def requestBodySchema (source : OpenApiSource) (operation : OperationDefinition)
    (mediaType : Option Str) : Except ConformanceError (Option (Value × Bool)) :=
  match lookup "requestBody" operation.operation with
  | none => .ok none
  | some body => do
      let (content, required) ← declaredContent source body
      let media := match mediaType with
        | some mediaType => lookup mediaType content
        | none => (preferredContent content).map Prod.snd
      match media with
      | none => .error (generation "body" "requested media type is not declared")
      | some media => match media.get "schema" with
        | some schema => pure (some (schema, required))
        | none => .error (generation "body" "request body schema is missing")

/-- The function `parameters`. -/
def campaignParameters (source : OpenApiSource) (operation : OperationDefinition) :
    Except ConformanceError (List Value) := do
  (declaredParameters operation).forM (fun value =>
    (resolveLocal source.document value "parameter").map (fun _ => ()))
  pure (declaredParameters operation)

/-- The parameter is required, or its location makes it so. -/
def requiredParameter (parameter : Value) (location : Str) : Bool :=
  ((parameter.get "required").bind Value.asBool).getD false || location = "path"

section

variable (lib : Crates) (number : Value → Nat → Str → Except ConformanceError Value)
  (source : OpenApiSource)

/-- The value that is generated for a parameter. -/
def generateParameter (variant : Nat) (parameter : Value) (name : Str) :
    Except ConformanceError Value :=
  generateValue lib number source MAX_GENERATION_DEPTH ((parameter.get "schema").getD .null)
    (variantFor lib variant name) name

/-- One parameter of a generated input document. -/
def fillParameter (variant : Nat) (root : List (Str × Value)) (parameter : Value) :
    Except ConformanceError (List (Str × Value)) := do
  let parameter ← resolveLocal source.document parameter "parameter"
  match (parameter.get "name").bind Value.asStr with
  | none => .error (generation "parameters" "parameter name is missing")
  | some name => match (parameter.get "in").bind Value.asStr with
  | none => .error (generation name "parameter location is missing")
  | some location =>
      if !(isLocation location) then
        .error (generation name ("unsupported location " ++ debugQuote location))
      else match ((lookup location root).getD (.object [])).asObject with
        | none => .error (generation location "input section must be an object")
        | some members =>
            if (lookup name members).isNone ∧
                (requiredParameter parameter location || variant % 3 ≠ 0) then do
              let value ← generateParameter lib number source variant parameter name
              pure (insert location (.object (insert name value members)) root)
            else pure (insert location (.object members) root)

/-- The body of a generated input document. -/
def fillBody (variant : Nat) (schema : Option (Value × Bool)) (root : List (Str × Value)) :
    Except ConformanceError (List (Str × Value)) :=
  match schema with
  | none => .ok root
  | some (schema, required) =>
      let existing := lookup "body" root
      if required || existing.isSome || variant % 2 = 0 then
        (generateWithBaseline lib number source schema (variantFor lib variant "body") "body"
          existing).map (fun body => insert "body" body root)
      else .ok root

/-- The function `generated_input`. -/
def generatedInput (operation : OperationDefinition) (baseline : Option Value)
    (contentType : Option Str) (variant : Nat) : Except ConformanceError Value := do
  let parameters ← campaignParameters source operation
  let root ← parameters.foldlM (fillParameter lib number source variant)
    (structuredMembers baseline)
  let schema ← requestBodySchema source operation contentType
  let root ← fillBody lib number source variant schema root
  pure (.object root)

end

/-! ### Cases -/

inductive ConformanceMode where
  | positive
  | negative
  | mixed
  deriving DecidableEq, Repr

structure ConformanceOptions where
  cases : Nat
  seed : Nat
  mode : ConformanceMode
  delayMs : Nat
  maxFailures : Nat
  input : Option Value
  plan : PlanOptions

/-- `ConformanceOptions::default()`. -/
def ConformanceOptions.default : ConformanceOptions :=
  ⟨32, 0, .mixed, 0, 10, none, PlanOptions.default⟩

def validateOptions (options : ConformanceOptions) : Except ConformanceError Unit := do
  ensure (1 ≤ options.cases && options.cases ≤ MAX_CASES)
    (.invalidOption ("cases must be between 1 and " ++ decimal MAX_CASES))
  ensure (1 ≤ options.maxFailures && options.maxFailures ≤ MAX_FAILURES)
    (.invalidOption ("max failures must be between 1 and " ++ decimal MAX_FAILURES))
  ensure (options.delayMs ≤ MAX_DELAY_MS)
    (.invalidOption ("delay must not exceed " ++ decimal MAX_DELAY_MS ++ " ms"))
  ensure options.plan.input.isNone
    (.invalidOption "supply baseline input through ConformanceOptions.input")

/-- A request plan, with the strategy it was made by. -/
abbrev Strategic := Str × RequestPlan

/-- The plans with one more, unless its request is there already. -/
def addDistinct (plans : List Strategic) (plan : Strategic) : List Strategic :=
  if plans.any (fun p => p.2.fingerprint = plan.2.fingerprint) then plans else plans ++ [plan]

/-- The strategy of a positive case. -/
def positiveStrategy (variant : Nat) : Str := "schema-valid:" ++ decimal variant

section

variable (lib : Crates) (number : Value → Nat → Str → Except ConformanceError Value)
  (world : World) (source : OpenApiSource) (operation : OperationDefinition)
  (options : ConformanceOptions) (configuration : ProjectConfiguration)

/-- The request of one variant. -/
def positivePlan (baseline : Option Value) (contentType : Option Str) (variant : Nat) :
    Eff Event ConformanceError RequestPlan := do
  let input ← Eff.ofExcept (generatedInput lib number source operation baseline contentType variant)
  (buildPlanWithConfiguration lib world source operation
    { options.plan with contentType := contentType, input := some input } configuration).mapError
      (fun error => .plan error.text)

/-- The loop over the attempts. -/
def positivePlans (baseline : Option Value) (contentType : Option Str) :
    List Nat → List Strategic → Eff Event ConformanceError (List Strategic)
  | [], positive => pure positive
  | index :: rest, positive => do
      let variant := variant lib options.seed index "positive"
      let plan ← positivePlan lib number world source operation options configuration baseline
        contentType variant
      let positive := addDistinct positive (positiveStrategy variant, plan)
      if options.cases ≤ positive.length then pure positive
      else positivePlans baseline contentType rest positive

end

/-- The derivation of a mutation. -/
def conformanceDerivation (strategy : Str) (logicalValue : Value) (wireValue : Option Str) :
    FieldDerivation :=
  { field := "conformance.mutation"
    source := "conformance-generator"
    sourceLocation := strategy
    logicalValue := logicalValue
    wireValue := wireValue
    transformations := ["schema-negative-mutation"] }

section

variable (lib : Crates) (source : OpenApiSource) (operation : OperationDefinition)

/-- A mutated plan, marked, with the grant it needs, and sealed. -/
def sealNegative (plan : RequestPlan) (strategy : Str) (logicalValue : Value)
    (wireValue : Option Str) : Strategic :=
  (strategy, ({ plan with
    valid := false
    derivations := plan.derivations ++ [conformanceDerivation strategy logicalValue wireValue]
    requiredGrants := dedup (sortStrings (plan.requiredGrants ++ ["conformance:negative".toList])) }
      : RequestPlan).sealed lib)

/-- The plan with another JSON body. -/
def mutatedBody (plan : RequestPlan) (body : PlannedBody) (mutation : Str × Value) : Strategic :=
  let bytes := utf8 mutation.2.render
  sealNegative lib { plan with
      body := some { body with
        bytes := bytes.length
        blake3 := digest lib bytes
        encoding := "utf-8"
        inline := mutation.2.render } }
    mutation.1 mutation.2 (some mutation.2.render)

/-- The mutations of the body. -/
def bodyNegatives (plan : RequestPlan) : Except ConformanceError (List Strategic) :=
  match plan.body.filter (fun body => "json".toList <:+: body.mediaType) with
  | none => .ok []
  | some body => match (lib.parseJson (utf8 body.inline)).toOption with
    | none => .ok []
    | some value => do
        match ← requestBodySchema source operation (some body.mediaType) with
        | none => pure []
        | some (schema, _) =>
            let mutations ← invalidJsonValues source.document MAX_GENERATION_DEPTH schema value
              "body"
            pure (mutations.map (mutatedBody lib plan body))

/-- The plan without a required parameter. -/
def omittedParameter (plan : RequestPlan) (parameter : Value) (location name : Str) :
    Except ConformanceError (List Strategic) :=
  if ((parameter.get "required").bind Value.asBool).getD false ∧ location ≠ "path".toList then
    (removeParameter lib plan location name).map (fun candidate => candidate.toList.map (fun plan =>
      sealNegative lib plan ("omit-required-" ++ location ++ ':' :: name) .null none))
  else .ok []

/-- The plan with an invalid value for a parameter. -/
def invalidParameter (plan : RequestPlan) (parameter : Value) (location name : Str) :
    Except ConformanceError (List Strategic) :=
  match invalidScalar ((parameter.get "schema").getD .null) with
  | none => .ok []
  | some invalid =>
      (replaceParameter lib plan location name invalid).map (fun candidate =>
        candidate.toList.map (fun plan =>
          sealNegative lib plan ("invalid-" ++ location ++ ':' :: name) (.string invalid) none))

/-- The mutations of one parameter. -/
def parameterNegatives (plan : RequestPlan) (parameter : Value) :
    Except ConformanceError (List Strategic) := do
  let parameter ← resolveLocal source.document parameter "parameter"
  match (parameter.get "name").bind Value.asStr, (parameter.get "in").bind Value.asStr with
  | some name, some location => do
      let omitted ← omittedParameter lib plan parameter location name
      let invalid ← invalidParameter lib plan parameter location name
      pure (omitted ++ invalid)
  | _, _ => pure []

def negativePlans (plan : RequestPlan) : Except ConformanceError (List Strategic) := do
  let bodies ← bodyNegatives lib source operation plan
  let parameters ← campaignParameters source operation
  let mutated ← parameters.mapM (parameterNegatives lib source plan)
  pure (bodies ++ mutated.flatten)

/-- Plans added until there are enough. -/
def addUntil (cases : Nat) : List Strategic → List Strategic → List Strategic
  | [], negative => negative
  | plan :: rest, negative =>
      let negative := addDistinct negative plan
      if cases ≤ negative.length then negative else addUntil cases rest negative

/-- The negative plans of the positive ones, until there are enough. -/
def collectNegatives (cases : Nat) :
    List Strategic → List Strategic → Except ConformanceError (List Strategic)
  | [], negative => .ok negative
  | plan :: rest, negative => do
      let found ← negativePlans lib source operation plan.2
      let negative := addUntil cases found negative
      if cases ≤ negative.length then pure negative else collectNegatives cases rest negative

end

/-- A selected case. -/
abbrev Selected := ConformanceGeneration × Strategic

/-- Positive and negative cases in turn, up to a limit. -/
def interleave : Nat → List Strategic → List Strategic → List Selected
  | 0, _, _ => []
  | 1, p :: _, _ => [(.positive, p)]
  | limit + 2, p :: ps, q :: qs =>
      (.positive, p) :: (.negative, q) :: interleave limit ps qs
  | limit + 1, p :: ps, [] => (.positive, p) :: interleave limit ps []
  | limit + 1, [], q :: qs => (.negative, q) :: interleave limit [] qs
  | _ + 1, [], [] => []

/-- The cases of a mode. -/
def casesOf (mode : ConformanceMode) (limit : Nat) (positive negative : List Strategic) :
    Except ConformanceError (List Selected) :=
  match mode with
  | .positive => .ok ((positive.take limit).map (fun p => (.positive, p)))
  | .negative =>
      if negative.isEmpty then .error (.noCases "negative")
      else .ok ((negative.take limit).map (fun p => (.negative, p)))
  | .mixed => .ok (interleave limit positive negative)

def selectCases (mode : ConformanceMode) (limit : Nat) (positive negative : List Strategic) :
    Except ConformanceError (List Selected) := do
  let selected ← casesOf mode limit positive negative
  ensure (!selected.isEmpty) (.noCases "requested")
  pure selected

/-! ### Campaigns -/

section

variable (lib : Crates) (source : OpenApiSource) (operation : OperationDefinition)
  (options : ConformanceOptions) (configuration : ProjectConfiguration)

/-- The case of a selected request. -/
def casePlan (selected : Selected × Nat) : ConformanceCasePlan :=
  { caseId := shortHandle lib "case" [utf8 source.sourceFingerprint, utf8 operation.handle,
      beBytes options.seed, beBytes selected.2, utf8 selected.1.2.2.fingerprint]
    generation := selected.1.1
    strategy := selected.1.2.1
    plan := selected.1.2.2.id
    planFingerprint := selected.1.2.2.fingerprint
    requestDigest := requestDigest lib selected.1.2.2 }

/-- The campaign before it is sealed. -/
def campaignPlan (configFingerprint : Str) (selected : List Selected) : ConformancePlan :=
  { protocol := PROTOCOL
    kind := "conformance-plan"
    version := VERSION
    configFingerprint := configFingerprint
    policyFingerprint := configuration.policyFingerprint lib
    sourceFingerprints := [source.sourceFingerprint]
    id := []
    operation := operation.handle
    seed := options.seed
    requestedCases := options.cases
    delayMs := options.delayMs
    maxFailures := options.maxFailures
    cases := selected.zipIdx.map (casePlan lib source operation options)
    risk := operation.risk
    requiredGrants := dedup (sortStrings (selected.flatMap (fun s => s.2.2.requiredGrants) ++
      ("conformance:execute:" ++ decimal selected.length) ::
        (if selected.any (fun s => s.1 = .negative) then ["conformance:negative".toList] else [])))
    fingerprint := []
    exit := 0 }

variable (number : Value → Nat → Str → Except ConformanceError Value) (world : World)

/-- The attempts at a positive case. -/
def attempts (cases : Nat) : Nat := max 16 (min (cases * 8) 2048)

def buildConformancePlan : Eff Event ConformanceError (ConformancePlan × List RequestPlan) := do
  Eff.ofExcept (validateOptions options)
  let contentType ← Eff.ofExcept (selectedContentType source operation options.plan.contentType)
  let baseline ← Eff.ofExcept (baselineWithExplicit options.input options.plan.explicit)
  let positive ← positivePlans lib number world source operation options configuration baseline
    contentType (List.range (attempts options.cases)) []
  Eff.ofExcept (ensure (!positive.isEmpty) (.noCases "positive"))
  let negative ← Eff.ofExcept (collectNegatives lib source operation options.cases positive [])
  let selected ← Eff.ofExcept (selectCases options.mode options.cases positive negative)
  let configFingerprint ← Eff.ofExcept ((configuration.configFingerprint lib).mapError
    (fun error => .plan error.text))
  pure ((campaignPlan lib source operation options configuration configFingerprint selected).sealed
    lib, selected.map (fun s => s.2.2))

end

end Kahea
