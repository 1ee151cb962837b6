import Kahea.Ingest
import Kahea.Plan.Configuration

/-!
# Inputs and Schemas

The first half of planning: the values the caller supplies, the parameters an
operation declares, and the request-side schema validator.

Validation follows references and `allOf` without a limit of its own, so the
model counts the calls on the stack: `validateValue` runs out of it exactly
where the code never returns.

## Main definitions

* `Inputs`: The supplied values, by location.
* `parameters`: The declared parameters, in the order they are bound.
* `wireValues`, `scalarWire`: The text a value is sent as.
* `validateValue`: The schema check of a value.

## Theorems

* `Inputs.take_inputs`: Taking a value only marks it as used.
-/

namespace Kahea

/-! ### Supplied values -/

/-- The supplied values. `declared` and `used` are sets of keys. -/
structure Inputs where
  path : List (Str × Value)
  query : List (Str × Value)
  header : List (Str × Value)
  cookie : List (Str × Value)
  body : Option Value
  declared : List Str
  used : List Str

/-- `Inputs::default()`. -/
def Inputs.default : Inputs := ⟨[], [], [], [], none, [], []⟩

/-- Put a value at a dotted path of an object, creating the objects on the
    way. `path` is the whole path, for the error. -/
def insertBodyAt (path : Str) (value : Value) : List Str → Value → Except PlanError Value
  | [], current => .ok current
  | [segment], .object members => .ok (.object (insert segment value members))
  | segment :: rest, .object members => do
      let child ← insertBodyAt path value rest ((lookup segment members).getD (.object []))
      pure (.object (insert segment child members))
  | _ :: _, _ => .error (.invalidInput ("body." ++ path) "parent is not an object")

def insertBodyValue (body : Option Value) (path : Str) (value : Value) :
    Except PlanError (Option Value) :=
  (insertBodyAt path value (path.splitOn '.') (body.getD (.object []))).map some

namespace Inputs

/-- Store under a name unless it is there and must not be overridden. -/
def store (map : List (Str × Value)) (name : Str) (value : Value) (overrideExisting : Bool) :
    List (Str × Value) :=
  if overrideExisting || (lookup name map).isNone then insert name value map else map

/-- The method `insert`. -/
def insertValue (inputs : Inputs) (key : Str) (value : Value) (overrideExisting : Bool) :
    Except PlanError Inputs :=
  match splitOnce "." key with
  | none => .error (.invalidExplicitField key)
  | some (location, name) =>
      let declared := (location ++ '.' :: name) :: inputs.declared
      if location = "path" then
        .ok { inputs with
          path := store inputs.path name value overrideExisting, declared := declared }
      else if location = "query" then
        .ok { inputs with
          query := store inputs.query name value overrideExisting, declared := declared }
      else if location = "header" ∨ location = "headers" then
        .ok { inputs with
          header := store inputs.header name value overrideExisting, declared := declared }
      else if location = "cookie" ∨ location = "cookies" then
        .ok { inputs with
          cookie := store inputs.cookie name value overrideExisting, declared := declared }
      else if location = "body" then do
        let body ← insertBodyValue inputs.body name value
        pure { inputs with body := body, declared := ("body." ++ name) :: inputs.declared }
      else .error (.invalidExplicitField key)

/-- Whether a name is that of a section of a structured input document. -/
def isSection (name : Str) : Bool :=
  oneOf ["path", "query", "header", "headers", "cookie", "cookies"] name

/-- One section of a structured input document. -/
def applySection (inputs : Inputs) (entry : Str × Value) : Except PlanError Inputs :=
  let (name, value) := entry
  if isSection name then
    let canonical : Str :=
      if name = "headers" then "header" else if name = "cookies" then "cookie" else name
    match value.asObject with
    | none => .error (.invalidInput name "section must be an object")
    | some values =>
        values.foldlM (fun acc e => acc.insertValue (canonical ++ '.' :: e.1) e.2 false) inputs
  else if name = "body" then
    .ok { inputs with body := some value, declared := "body" :: inputs.declared }
  else .error (.unknownInput name)

def applyDocument (inputs : Inputs) (input : Value) : Except PlanError Inputs :=
  match input.asObject with
  | some object =>
      if object.any (fun e => isSection e.1 || e.1 = "body") then
        object.foldlM applySection inputs
      else .ok { inputs with body := some input, declared := "body" :: inputs.declared }
  | none => .ok { inputs with body := some input, declared := "body" :: inputs.declared }

def fromOptions (input : Option Value) (explicit : List (Str × Value)) :
    Except PlanError Inputs := do
  let inputs ← match input with
    | some document => default.applyDocument document
    | none => .ok default
  explicit.foldlM (fun acc e => acc.insertValue e.1 e.2 true) inputs

/-- The values of a location. -/
def valuesOf (inputs : Inputs) (location : Str) : List (Str × Value) :=
  if location = "path" then inputs.path
  else if location = "query" then inputs.query
  else if location = "header" then inputs.header
  else if location = "cookie" then inputs.cookie
  else []

/-- The method `take`: a value of a location and where it comes from. -/
def take (inputs : Inputs) (location name : Str) : Option (Value × Str) × Inputs :=
  match lookup name (inputs.valuesOf location) with
  | some value =>
      (some (value, "explicit-input"),
        { inputs with used := (location ++ '.' :: name) :: inputs.used })
  | none => (none, inputs)

/-- Taking a value only marks it as used. -/
theorem take_inputs (inputs : Inputs) (location name : Str) :
    ∃ used, (inputs.take location name).2 = { inputs with used := used } := by
  unfold take
  split
  · exact ⟨_, rfl⟩
  · exact ⟨inputs.used, rfl⟩

def rejectUnused (inputs : Inputs) : Except PlanError Unit :=
  match (sortStrings inputs.declared).find? (fun key =>
      !(inputs.used.contains key) && key ≠ "body" && !(startsWith "body." key)) with
  | some key => .error (.unknownInput key)
  | none => .ok ()

end Inputs

/-! ### Declared parameters -/

def resolveObject (source : OpenApiSource) (value : Value) (field : Str) :
    Except PlanError (List (Str × Value)) := do
  let value ← match (value.get "$ref").bind Value.asStr with
    | some reference => match resolveRef source reference with
      | some v => .ok v
      | none => .error (.invalidInput field ("unresolved reference " ++ debugQuote reference))
    | none => .ok value
  match value.asObject with
  | some object => .ok object
  | none => .error (.invalidInput field "expected an object")

/-- The location and the name of a parameter. -/
def parameterKey (parameter : List (Str × Value)) : Str × Str :=
  ((stringField parameter "in").getD [], (stringField parameter "name").getD [])

/-- Store a parameter under its location and name, replacing what was there. -/
def insertParameter (stored : List (List (Str × Value))) (parameter : List (Str × Value)) :
    List (List (Str × Value)) :=
  if stored.any (fun p => parameterKey p = parameterKey parameter) then
    stored.map (fun p => if parameterKey p = parameterKey parameter then parameter else p)
  else stored ++ [parameter]

/-- The order of locations and names. -/
def keyLe (a b : Str × Str) : Bool := strLt a.1 b.1 || (a.1 = b.1 && strLe a.2 b.2)

/-- The parameters of an operation, in the order of their keys; those of the
    operation replace those of its path item. -/
def parameters (source : OpenApiSource) (operation : OperationDefinition) :
    Except PlanError (List (List (Str × Value))) := do
  let declared := [operation.pathItem, operation.operation].flatMap (fun object =>
    ((lookup "parameters" object).bind Value.asArray).getD [])
  let resolved ← declared.mapM (fun value => resolveObject source value "parameter")
  pure ((resolved.foldl insertParameter []).insertionSort (fun p q =>
    keyLe (parameterKey p) (parameterKey q)))

theorem insertParameter_nodup (stored : List (List (Str × Value))) (parameter : List (Str × Value))
    (h : (stored.map parameterKey).Nodup) :
    ((insertParameter stored parameter).map parameterKey).Nodup := by
  unfold insertParameter
  split_ifs with hany
  -- Replacing keeps the keys as they were.
  · have hkeys : (stored.map (fun p =>
        if parameterKey p = parameterKey parameter then parameter else p)).map parameterKey
        = stored.map parameterKey := by
      rw [List.map_map]
      refine List.map_congr_left fun p _ => ?_
      simp only [Function.comp_apply]
      split_ifs with hp
      · exact hp.symm
      · rfl
    rw [hkeys]
    exact h
  -- Adding one comes with a new key.
  · rw [List.map_append, List.map_cons, List.map_nil, List.nodup_append]
    refine ⟨h, List.nodup_singleton _, fun a ha b hb => ?_⟩
    rw [List.mem_singleton.mp hb]
    rintro rfl
    rcases List.mem_map.mp ha with ⟨p, hp, hkey⟩
    exact hany (List.any_eq_true.mpr ⟨p, hp, decide_eq_true hkey⟩)

theorem foldl_insertParameter_nodup (l : List (List (Str × Value)))
    {stored : List (List (Str × Value))} (h : (stored.map parameterKey).Nodup) :
    ((l.foldl insertParameter stored).map parameterKey).Nodup := by
  induction l generalizing stored with
  | nil => exact h
  | cons p rest ih => exact ih (insertParameter_nodup stored p h)

/-! ### Wire texts -/

def scalarWire : Value → Except PlanError Str
  | .null => .ok []
  | .bool true => .ok "true"
  | .bool false => .ok "false"
  | .number n => .ok n.text
  | .string s => .ok s
  | .array _ | .object _ =>
      .error (.invalidInput "parameter"
        "object parameters are not yet supported; use a scalar or array")

def wireValues (value : Value) (parameter : List (Str × Value)) :
    Except PlanError (List Str) :=
  let explode := ((lookup "explode" parameter).bind Value.asBool).getD true
  match value with
  | .array values =>
      if explode then values.mapM scalarWire
      else do
        let wires ← values.mapM scalarWire
        pure [join "," wires]
  | _ => do
      let wire ← scalarWire value
      pure [wire]

/-- A string parameter is sent as it is. -/
@[simp] theorem wireValues_string (s : Str) (parameter : List (Str × Value)) :
    wireValues (.string s) parameter = .ok [s] := rfl

def derivation (field : Str) (logicalValue : Value) (source : Str) (wireValue : Option Str)
    (transformation : Str) : FieldDerivation :=
  { sourceLocation := "input:/" ++ field
    field := field
    source := source
    logicalValue := logicalValue
    wireValue := wireValue
    transformations := [transformation] }

/-! ### Schema validation -/

def typeMatches (kind : Str) (value : Value) : Bool :=
  if kind = "null" then value = .null
  else if kind = "boolean" then value.asBool.isSome
  else if kind = "integer" then value.isInteger
  else if kind = "number" then (match value with
    | .number _ => true
    | _ => false)
  else if kind = "string" then value.asStr.isSome
  else if kind = "array" then value.asArray.isSome
  else if kind = "object" then value.asObject.isSome
  else true

/-- The kind of a value, for messages about requests. -/
def requestValueKind : Value → Str
  | .null => "null"
  | .bool _ => "boolean"
  | .number _ => "number"
  | .string _ => "string"
  | .array _ => "array"
  | .object _ => "object"

/-- The types a schema declares. -/
def declaredTypes (schema : Value) : List Str :=
  match schema.get "type" with
  | some (.string kind) => [kind]
  | some (.array kinds) => kinds.filterMap Value.asStr
  | _ => []

/-- The schema a reference stands for. -/
def resolveSchema (source : OpenApiSource) (schema : Value) (field : Str) :
    Except PlanError Value :=
  match (schema.get "$ref").bind Value.asStr with
  | some reference => match resolveRef source reference with
    | some v => .ok v
    | none => .error (.invalidInput field ("unresolved schema reference " ++ debugQuote reference))
  | none => .ok schema

/-- The upload descriptor a binary string schema accepts in place of a
    string. -/
def uploadDescriptor (schema value : Value) : Option (List (Str × Value)) :=
  if (schema.get "type").bind Value.asStr = some "string".toList ∧
      (schema.get "format").bind Value.asStr = some "binary".toList then
    value.asObject.filter (fun file => (lookup "$file" file).isSome)
  else none

/-- The member is absent or a string. -/
def absentOrString (file : List (Str × Value)) (key : Str) : Bool :=
  (lookup key file).all (fun v => v.asStr.isSome)

def validateUpload (file : List (Str × Value)) (field : Str) : Except PlanError Unit :=
  match file.find? (fun e =>
      !(["$file", "filename", "content_type"].map String.toList).contains e.1) with
  | some entry => .error (.unknownInput (field ++ '.' :: entry.1))
  | none =>
      ensure ((stringField file "$file").isSome && absentOrString file "filename" &&
          absentOrString file "content_type")
        (.invalidInput field "binary upload descriptor fields must be strings")

def validateEnum (schema value : Value) (field : Str) : Except PlanError Unit :=
  match (schema.get "enum").bind Value.asArray with
  | some values => ensure (values.contains value)
      (.invalidInput field "value is not in the declared enum")
  | none => .ok ()

def validateType (schema value : Value) (field : Str) : Except PlanError Unit :=
  let types := declaredTypes schema
  ensure (types.isEmpty || types.any (typeMatches · value))
    (.invalidInput field
      ("expected " ++ join " or " types ++ ", received " ++ requestValueKind value))

/-- Whether a property is read-only. -/
def isReadOnly (properties : Option (List (Str × Value))) (name : Str) : Bool :=
  (((properties.bind (lookup name)).bind (fun p => p.get "readOnly")).bind Value.asBool).getD false

def validateRequired (schema : Value) (object : List (Str × Value)) (field : Str) :
    Except PlanError Unit :=
  let properties := (schema.get "properties").bind Value.asObject
  let required := (((schema.get "required").bind Value.asArray).getD []).filterMap Value.asStr
  match required.find? (fun name => !(isReadOnly properties name) && (lookup name object).isNone) with
  | some name => .error (.invalidInput (field ++ '.' :: name) "required field is missing")
  | none => .ok ()

/-- The number of stack frames bounds the calls. -/
def validateValue (source : OpenApiSource) : Nat → Value → Value → Str → Except PlanError Unit
  | 0, _, _, _ => .error .stackOverflow
  | stack + 1, schema, value, field => do
      let schema ← resolveSchema source schema field
      match uploadDescriptor schema value with
      | some file => validateUpload file field
      | none =>
        if value = .null ∧ ((schema.get "nullable").bind Value.asBool).getD false = true then
          .ok ()
        else do
          (((schema.get "allOf").bind Value.asArray).getD []).forM (fun child =>
            validateValue source stack child value field)
          validateEnum schema value field
          validateType schema value field
          match value.asObject with
          | some object => do
              validateRequired schema object field
              object.forM (fun entry =>
                match ((schema.get "properties").bind Value.asObject).bind (lookup entry.1) with
                | some child => validateValue source stack child entry.2 (field ++ '.' :: entry.1)
                | none =>
                    ensure (schema.get "additionalProperties" ≠ some (.bool false))
                      (.unknownInput (field ++ '.' :: entry.1)))
          | none => .ok ()
          match value.asArray, schema.get "items" with
          | some values, some items =>
              values.zipIdx.forM (fun entry =>
                validateValue source stack items entry.1
                  (field ++ '[' :: decimal entry.2 ++ "]".toList))
          | _, _ => .ok ()

/-- The check of a value against the schema it may have. -/
def validateDeclared (source : OpenApiSource) (stack : Nat) (schema : Option Value) (value : Value)
    (field : Str) : Except PlanError Unit :=
  match schema with
  | some schema => validateValue source stack schema value field
  | none => .ok ()

end Kahea
