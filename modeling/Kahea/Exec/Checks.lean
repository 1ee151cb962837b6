import Kahea.Base.Utf8
import Kahea.Exec.Gate

/-!
# Response Checks

The checks of a response, `validate_checks`, and the response-side schema
validator.

A check is a text with a keyword in front; what it finds wrong is a list of
messages. The schema validator follows references and sub-schemas down to 64
levels, so it is structural in the levels that are left, and it stops adding
messages at 64 of them.

## Main definitions

* `validateSchemaValue`: The schema check of a value.
* `validateResponseSchema`: The check of a response against its contract.
* `validateCheck`, `validateChecks`: One check, and all checks of a plan.
-/

namespace Kahea

/-! ### Schemas -/

/-- A reference within the contract. -/
def resolveContractRef (root value : Value) : Option Value :=
  ((value.get "$ref").bind Value.asStr).bind (fun reference =>
    (stripPrefix "#" reference).bind root.pointer)

/-- The types a schema names. -/
def contractTypes (schema : Value) : List Str :=
  match schema.get "type" with
  | some (.string kind) => [kind]
  | some (.array kinds) => kinds.filterMap Value.asStr
  | _ => []

/-- Whether a value has a type; types without a meaning admit every value. -/
def hasType (value : Value) (kind : Str) : Bool :=
  if kind = "object" then value.asObject.isSome
  else if kind = "array" then value.asArray.isSome
  else if kind = "string" then value.asStr.isSome
  else if kind = "number" then (match value with
    | .number _ => true
    | _ => false)
  else if kind = "integer" then value.isInteger
  else if kind = "boolean" then value.asBool.isSome
  else if kind = "null" then value = .null
  else true

/-- A number, when the value is one. -/
def asNumber : Value → Option Number
  | .number n => some n
  | _ => none

/-- A message when a condition holds. -/
def failWhen (condition : Bool) (message : Str) (failures : List Str) : List Str :=
  if condition then failures ++ [message] else failures

section

variable (lib : Crates)

/-- The bounds on strings and numbers. -/
def scalarFailures (schema value : Value) (path : Str) (failures : List Str) : List Str :=
  let failures := match value.asStr with
    | none => failures
    | some text =>
        failWhen (((schema.get "maxLength").bind Value.asU64).any (fun n => n < text.length))
          (path ++ ": string is longer than maxLength")
          (failWhen (((schema.get "minLength").bind Value.asU64).any (fun n => text.length < n))
            (path ++ ": string is shorter than minLength") failures)
  match asNumber value with
  | none => failures
  | some number =>
      failWhen (((schema.get "maximum").bind asNumber).any (fun n => lib.floatLt n number))
        (path ++ ": number is above maximum")
        (failWhen (((schema.get "minimum").bind asNumber).any (fun n => lib.floatLt number n))
          (path ++ ": number is below minimum") failures)

/-- The required properties of an object. -/
def requiredFailures (schema value : Value) (path : Str) (failures : List Str) : List Str :=
  match (schema.get "required").bind Value.asArray, value.asObject with
  | some required, some object => (required.filterMap Value.asStr).foldl (fun failures name =>
      failWhen (lookup name object).isNone
        (path ++ '.' :: name ++ ": required property is missing") failures) failures
  | _, _ => failures

/-- The properties no schema names, when they are denied. -/
def additionalFailures (schema value : Value) (path : Str) (failures : List Str) : List Str :=
  if schema.get "additionalProperties" = some (.bool false) then
    match value.asObject with
    | none => failures
    | some object =>
        let properties := (schema.get "properties").bind Value.asObject
        (object.map Prod.fst).foldl (fun failures name =>
          failWhen (!(properties.any (fun p => (lookup name p).isSome)))
            (path ++ '.' :: name ++ ": additional property is denied") failures) failures
  else failures

/-- The schema check of a value, given the check of the level below. -/
def schemaLevel (recurse : Value → Value → Str → List Str → List Str) (schema value : Value)
    (path : Str) (failures : List Str) : List Str :=
  let failures := failWhen ((schema.get "const").any (fun constant => constant ≠ value))
    (path ++ ": value does not equal const") failures
  let failures := failWhen (((schema.get "enum").bind Value.asArray).any
    (fun values => !(values.contains value))) (path ++ ": value is outside enum") failures
  let failures := (((schema.get "allOf").bind Value.asArray).getD []).foldl
    (fun failures branch => recurse branch value path failures) failures
  -- A union counts the branches that find nothing wrong.
  let union (keyword : Str) (wrong : Nat → Bool) (failures : List Str) : List Str :=
    match (schema.get keyword).bind Value.asArray with
    | none => failures
    | some branches => failWhen
        (wrong (branches.filter (fun branch => (recurse branch value path []).isEmpty)).length)
        (path ++ ": value does not satisfy " ++ keyword) failures
  let failures := union "anyOf" (fun n => n == 0) failures
  let failures := union "oneOf" (fun n => n != 1) failures
  let types := contractTypes schema
  if !types.isEmpty && !(types.any (hasType value)) then
    failures ++ [path ++ ": expected " ++ join " or " types]
  else
    let failures := scalarFailures lib schema value path failures
    let failures := requiredFailures schema value path failures
    let failures := match (schema.get "properties").bind Value.asObject, value.asObject with
      | some properties, some object => properties.foldl (fun failures property =>
          match lookup property.1 object with
          | some child => recurse property.2 child (path ++ '.' :: property.1) failures
          | none => failures) failures
      | _, _ => failures
    let failures := additionalFailures schema value path failures
    match schema.get "items", value.asArray with
    | some items, some values => values.zipIdx.foldl (fun failures child =>
        recurse items child.1 (path ++ '[' :: decimal child.2 ++ [']']) failures) failures
    | _, _ => failures

/-- The schema check of a value; the first argument is the number of levels
    left. -/
def validateSchemaValue (root : Value) : Nat → Value → Value → Str → List Str → List Str
  | 0, _, _, path, failures =>
      if 64 ≤ failures.length then failures
      else failures ++ [path ++ ": schema validation exceeded 64 levels"]
  | levels + 1, schema, value, path, failures =>
      if 64 ≤ failures.length then failures
      else match (schema.get "$ref").bind Value.asStr with
        | some reference => match resolveContractRef root schema with
          | some resolved => validateSchemaValue root levels resolved value path failures
          | none =>
              failures ++ [path ++ ": unresolved schema reference " ++ debugQuote reference]
        | none => schemaLevel lib (validateSchemaValue root levels) schema value path failures

/-- The response object declared for a status: its own, that of its hundreds,
    or the default. -/
def declaredResponse (responses : List (Str × Value)) (status : Nat) : Option Value :=
  (lookup (decimal status) responses).or ((lookup (decimal (status / 100) ++ "XX") responses).or
    ((lookup (decimal (status / 100) ++ "xx") responses).or (lookup "default" responses)))

/-- The declared media type of a content type: the first one it begins with,
    else the first one. -/
def declaredMedia (content : List (Str × Value)) (contentType : Str) : Option (Str × Value) :=
  (content.find? (fun media => startsWith media.1 contentType)).or content.head?

/-- `validate_response_schema`. -/
def validateResponseSchema (contract : Value) (status : Nat) (contentType : Str)
    (data : List UInt8) (failures : List Str) : List Str :=
  match contract.asObject with
  | none => failures
  | some object =>
      let responses := ((lookup "responses" object).bind Value.asObject).getD object
      match declaredResponse responses status with
      | none => failures ++ ["response status " ++ decimal status ++ " is not declared"]
      | some response =>
          let response := (resolveContractRef contract response).getD response
          match ((response.get "content").bind Value.asObject).bind
              (fun content => declaredMedia content contentType) with
          | none => failures
          | some media => match media.2.get "schema" with
            | none => failures
            | some schema =>
                if "json".toList <:+: contentType then
                  match lib.parseJson data with
                  | .ok value => validateSchemaValue lib contract 64 schema value "$" failures
                  | .error e => failures ++ ["response is not valid JSON: " ++ e]
                else failures

/-! ### Checks -/

/-- What a check looks at. -/
structure CheckedResponse where
  status : Nat
  headers : HeaderMap
  contentType : Str
  data : List UInt8
  elapsed : Nat

/-- The texts of the values of a header. -/
def headerTexts (headers : HeaderMap) (name : Str) : List Str :=
  (headers.getAll name).filterMap headerText

/-- `validate_header_check`. -/
def validateHeaderCheck (headers : HeaderMap) (specification : Str) : List Str :=
  match stripSuffix ":exists".toList specification with
  | some name =>
      if (headers.get name).isSome then []
      else ["response header " ++ debugQuote name ++ " is missing"]
  | none => match splitOnce "=" specification with
    | none => ["invalid header check " ++ debugQuote specification]
    | some (name, expected) =>
        if (headerTexts headers name).contains expected then []
        else ["response header " ++ debugQuote name ++ " does not equal " ++ debugQuote expected]

def valueKind : Value → Str
  | .null => "null"
  | .bool _ => "boolean"
  | .number (.float _) => "number"
  | .number _ => "integer"
  | .string _ => "string"
  | .array _ => "array"
  | .object _ => "object"

/-- `validate_json_pointer_check`. -/
def validateJsonPointerCheck (data : List UInt8) (specification : Str) : List Str :=
  match lib.parseJson data with
  | .error _ => ["JSON Pointer check requires a valid JSON response"]
  | .ok document => match stripSuffix ":exists".toList specification with
    | some pointer =>
        if (document.pointer pointer).isSome then []
        else ["JSON Pointer " ++ debugQuote pointer ++ " did not match"]
    | none => match splitOnce ":type=" specification with
      | some (pointer, expected) => match document.pointer pointer with
        | some value =>
            if valueKind value = expected then []
            else ["JSON Pointer " ++ debugQuote pointer ++ " has type " ++ valueKind value ++
              ", not " ++ expected]
        | none => ["JSON Pointer " ++ debugQuote pointer ++ " did not match"]
      | none => match splitOnce "=" specification with
        | none => ["invalid JSON Pointer check " ++ debugQuote specification]
        | some (pointer, expected) =>
            let expected := match lib.parseJson (utf8 expected) with
              | .ok value => value
              | .error _ => .string expected
            if document.pointer pointer = some expected then []
            else ["JSON Pointer " ++ debugQuote pointer ++ " did not equal the expected value"]

/-- A query without the `:exists` it must end with, and whether it did. -/
def existsQuery (specification : Str) : Str × Bool :=
  match stripSuffix ":exists".toList specification with
  | some query => (query, true)
  | none => (specification, false)

/-- `validate_jsonpath_check`. -/
def validateJsonpathCheck (data : List UInt8) (specification : Str) : List Str :=
  match lib.parseJson data with
  | .error _ => ["JSONPath check requires a valid JSON response"]
  | .ok document =>
      let (query, closed) := existsQuery specification
      match lib.jsonPath query with
      | .error e => ["invalid JSONPath " ++ debugQuote query ++ ": " ++ e]
      | .ok selects =>
          if !(selects document) then ["JSONPath " ++ debugQuote query ++ " did not match"]
          else if closed then []
          else ["JSONPath check " ++ debugQuote specification ++ " must use :exists"]

/-- `validate_xpath_check`. -/
def validateXpathCheck (data : List UInt8) (specification : Str) : List Str :=
  let (query, closed) := existsQuery specification
  match fromUtf8 data with
  | none => ["XPath check requires UTF-8 XML"]
  | some text => match lib.xpath text with
    | none => ["XPath check requires valid XML"]
    | some evaluate => match evaluate query with
      | .error e => ["invalid XPath " ++ debugQuote query ++ ": " ++ e]
      | .ok .emptyNodeset => ["XPath " ++ debugQuote query ++ " did not match"]
      | .ok (.boolean false) => ["XPath " ++ debugQuote query ++ " evaluated false"]
      | .ok (.boolean true) =>
          if closed then [] else ["XPath check " ++ debugQuote specification ++ " must use :exists"]

/-- A status code of an unsigned 16-bit text. -/
def parseStatus (text : Str) : Option Nat := parseUnsigned 0x10000 text

/-- The messages of the status checks. -/
def validateStatusAny (check values : Str) (status : Nat) : List Str :=
  if ((values.splitOn ',').filterMap parseStatus).contains status then []
  else ["status " ++ decimal status ++ " is not allowed by " ++ check]

def validateStatus (expected : Str) (status : Nat) : List Str :=
  if parseStatus expected = some status then []
  else ["status " ++ decimal status ++ " does not equal " ++ expected]

def validateContentType (expected contentType : Str) : List Str :=
  if startsWith (lower expected) (lower contentType) then []
  else ["content type " ++ debugQuote contentType ++ " does not match " ++ debugQuote expected]

def validateBodyDigest (expected : Str) (data : List UInt8) : List Str :=
  if digest lib data = expected then [] else ["body digest does not equal " ++ expected]

def validateResponseBytes (check maximum : Str) (data : List UInt8) : List Str :=
  match parseUnsigned u64Bound maximum with
  | none => ["invalid response byte check " ++ debugQuote check]
  | some maximum =>
      if maximum < data.length then
        ["response body is " ++ decimal data.length ++ " bytes, exceeding " ++ decimal maximum]
      else []

def validateLatency (check maximum : Str) (elapsed : Nat) : List Str :=
  match lib.latencyCheck elapsed maximum with
  | none => ["invalid latency check " ++ debugQuote check]
  | some none => []
  | some (some (actual, maximum)) => ["latency " ++ actual ++ " ms exceeds " ++ maximum]

/-- The messages of a check, by the keyword in front of it. The schema check
    apart, whose own limit counts the messages there are. -/
def checkFailures (r : CheckedResponse) (check : Str) : List Str :=
  match (stripPrefix "status:any(" check).bind (stripSuffix ")".toList) with
  | some values => validateStatusAny check values r.status
  | none => match stripPrefix "status:" check with
  | some expected => validateStatus expected r.status
  | none => match stripPrefix "content-type:" check with
  | some expected => validateContentType expected r.contentType
  | none => match stripPrefix "header:" check with
  | some specification => validateHeaderCheck r.headers specification
  | none => match stripPrefix "json-pointer:" check with
  | some specification => validateJsonPointerCheck lib r.data specification
  | none => match stripPrefix "jsonpath:" check with
  | some specification => validateJsonpathCheck lib r.data specification
  | none => match stripPrefix "xpath:" check with
  | some specification => validateXpathCheck lib r.data specification
  | none => match stripPrefix "body-digest:" check with
  | some expected => validateBodyDigest lib expected r.data
  | none => match stripPrefix "response-bytes:max:" check with
  | some maximum => validateResponseBytes check maximum r.data
  | none => match stripPrefix "latency-ms:max:" check with
  | some maximum => validateLatency lib check maximum r.elapsed
  | none => ["unknown check syntax " ++ debugQuote check]

/-- One check, selected by how it begins. -/
def validateCheck (contract : Value) (r : CheckedResponse) (failures : List Str) (check : Str) :
    List Str :=
  if check = "response-schema:openapi" then
    validateResponseSchema lib contract r.status r.contentType r.data failures
  else failures ++ checkFailures lib r check

/-- The loop over the checks; it ends with twenty messages. -/
def validateChecksFrom (contract : Value) (r : CheckedResponse) (failures : List Str) :
    List Str → List Str
  | [] => failures
  | check :: rest =>
      let failures := validateCheck lib contract r failures check
      if 20 ≤ failures.length then failures.take 20
      else validateChecksFrom contract r failures rest

/-- `validate_checks`: all of them, at most twenty failures kept. -/
def validateChecks (plan : RequestPlan) (r : CheckedResponse) : List Str :=
  validateChecksFrom lib plan.responseContract r [] plan.checks

end

end Kahea
