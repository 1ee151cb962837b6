import Kahea.Core.Domain

/-!
# Operations of a Source

The part of `kahea-ingest` the planner works on: a loaded OpenAPI source, the
operation a selector resolves to, and local references.

The documents themselves come from parsers and importers that are not modelled
here; a source is any document with the fingerprint of its bytes. The path of
an operation is normalised when the operation is resolved, so it carries its
leading slash as a field, and a path that would run into the host of the
server it is appended to cannot be built.

## Main definitions

* `OpenApiSource`, `OperationDefinition`: A source and one operation of it.
* `normalizePath`: The path of an operation, with its leading slash.
* `resolveOperation`: The operation a selector means.
* `resolveRef`, `escapePointer`: Local references.

## Theorems

* `normalizePath_slash`: A path of the source begins with a slash.
-/

namespace Kahea

/-- An OpenAPI document, with its fingerprint. -/
structure OpenApiSource where
  document : Value
  sourceFingerprint : Str
  sourceHandle : Str

/-- One operation of a source. -/
structure OperationDefinition where
  handle : Str
  method : Str
  path : Str
  operationId : Str
  risk : RiskClass
  pathItem : List (Str × Value)
  operation : List (Str × Value)
  /-- The path is normalised. -/
  path_slash : path.head? = some '/'

/-- Why a source is refused. -/
inductive IngestError where
  | parse (message : Str)
  | unsupportedVersion
  | missingPaths
  | invalidCursor (cursor len : Nat)
  | unknownOperation (selector : Str)
  | ambiguousOperation (selector : Str)
  | invalidAsyncApi (message : Str)
  deriving DecidableEq, Repr

/-- The text of an error. -/
def IngestError.text : IngestError → Str
  | parse s => "source is not valid JSON or YAML: " ++ s
  | unsupportedVersion => "source does not declare a supported OpenAPI version"
  | missingPaths => "OpenAPI document is missing a paths object"
  | invalidCursor cursor len =>
      "cursor " ++ decimal cursor ++ " is outside the filtered operation set of " ++ decimal len
  | unknownOperation s => "operation " ++ debugQuote s ++ " was not found"
  | ambiguousOperation s => "operation selector " ++ debugQuote s ++ " is ambiguous"
  | invalidAsyncApi s => "invalid AsyncAPI source: " ++ s

/-- The methods a path item may have. -/
def HTTP_METHODS : List Str :=
  ["get", "head", "options", "post", "put", "patch", "delete", "trace", "query"].map String.toList

/-- A path begins with a slash. -/
def normalizePath (path : Str) : Str :=
  let trimmed := trim path
  if startsWith "/" trimmed then trimmed else '/' :: trimmed

theorem normalizePath_slash (path : Str) : (normalizePath path).head? = some '/' := by
  unfold normalizePath
  rcases htrim : trim path with _ | ⟨c, cs⟩
  · rfl
  · by_cases hc : startsWith "/" (c :: cs) = true
    · rw [if_pos hc]
      have hpre := List.isPrefixOf_iff_prefix.mp hc
      rcases hpre with ⟨t, ht⟩
      rw [← ht]
      rfl
    · rw [if_neg hc]
      rfl

/-- The handle of an operation. -/
def operationHandle (lib : Crates) (sourceFingerprint method path operationId : Str) : Str :=
  shortHandle lib "op" [utf8 sourceFingerprint, utf8 method, utf8 path, utf8 operationId]

/-- The string member of an object. -/
def stringField (object : List (Str × Value)) (key : Str) : Option Str :=
  (lookup key object).bind Value.asStr

/-- The operation of one method of a path item, when there is one and the
    selector means it. -/
def matchOperation (lib : Crates) (source : OpenApiSource) (selector path : Str)
    (pathItem : List (Str × Value)) (method : Str) : Option OperationDefinition := do
  let operation ← (lookup method pathItem).bind Value.asObject
  let methodUpper := upper method
  let operationId := (stringField operation "operationId").getD []
  let handle := operationHandle lib source.sourceFingerprint methodUpper path operationId
  let methodPath := methodUpper ++ ' ' :: normalizePath path
  if handle = selector ∨ (operationId ≠ [] ∧ operationId = selector) ∨
      eqIgnoreCase methodPath selector = true then
    some
      { handle := handle
        method := methodUpper
        path := normalizePath path
        operationId := operationId
        risk := .forHttpMethod methodUpper
        pathItem := pathItem
        operation := operation
        path_slash := normalizePath_slash path }
  else none

/-- The operations of a document a selector means. -/
def matchingOperations (lib : Crates) (source : OpenApiSource) (selector : Str)
    (paths : List (Str × Value)) : List OperationDefinition :=
  paths.flatMap (fun entry => match entry.2.asObject with
    | none => []
    | some pathItem => HTTP_METHODS.filterMap (matchOperation lib source selector entry.1 pathItem))

/-- The operation a selector names. -/
def resolveOperation (lib : Crates) (source : OpenApiSource) (selector : Str) :
    Except IngestError OperationDefinition :=
  match (source.document.get "paths").bind Value.asObject with
  | none => .error .missingPaths
  | some paths => match matchingOperations lib source (trim selector) paths with
    | [] => .error (.unknownOperation selector)
    | [operation] => .ok operation
    | _ => .error (.ambiguousOperation selector)

/-! ### Limits -/

def MAX_SOURCE_BYTES : Nat := 64 * 1024 * 1024

/-! ### References -/

/-- `escape_pointer`: the tilde first. -/
def escapePointer (value : Str) : Str := replaceAll "/" "~1" (replaceAll "~" "~0" value)

/-- The value of a local reference. -/
def resolveRef (source : OpenApiSource) (reference : Str) : Option Value :=
  (stripPrefix "#" reference).bind source.document.pointer

end Kahea
