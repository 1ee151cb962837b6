import Kahea.Plan.Inputs

/-!
# Request Bodies

Binding and serialising the body of a request.

The media type decides what a body value means. In a multipart body a member
that is an object with a `$file` key names a local file, which is opened and
copied into the request; `bodyFiles` lists these names, and `serializeBody_ensures`
says that no other file is read. This is the only place where planning reads a
file.

## Main definitions

* `serializeBody`: The bytes of a body value under a media type.
* `bindBody`: The body of an operation, with its header and derivation.
* `fileName`, `bodyFiles`: The files a body names.

## Theorems

* `serializeBody_ensures`, `bindBody_ensures`: Only files named by the body
  are read.
-/

namespace Kahea

/-- A serialised body. -/
structure SerializedBody where
  mediaType : Str
  bytes : List UInt8
  encoding : Str
  inline : Str
  transformation : Str

def rejectMultipartToken (value field : Str) : Except PlanError Unit :=
  ensure (!(value.any (fun c => c == '\r' || c == '\n' || c == '"')))
    (.invalidInput field "multipart metadata contains a forbidden character")

/-- The last component of a path. -/
def fileName (path : Str) : Option Str :=
  match ((path.splitOn '/').filter (fun c => c ≠ [] ∧ c ≠ ".")).getLast? with
  | some name => if name = ".." then none else some name
  | none => none

/-- The members of a multipart field that names a file. -/
def fileField (value : Value) : Option (List (Str × Value)) :=
  value.asObject.filter (fun file => (lookup "$file" file).isSome)

/-- The file a multipart field names. -/
def namedFile (value : Value) : Option Str :=
  (fileField value).bind (fun file => stringField file "$file")

/-- The files the fields of a body name. -/
def bodyFiles (body : Value) : List Str :=
  (body.asObject.getD []).filterMap (fun entry => namedFile entry.2)

section

variable (lib : Crates) (world : World)

/-- One field of a multipart body, after its boundary line. -/
def multipartField (name : Str) (value : Value) : Eff Event PlanError (List UInt8) :=
  match fileField value with
  | some file => do
      let path ← Eff.ofExcept (match stringField file "$file" with
        | some path => .ok path
        | none => .error (.invalidInput ("body." ++ name ++ ".$file") "file path must be a string"))
      let filename := ((stringField file "filename").or (fileName path)).getD "upload.bin"
      let contentType := (stringField file "content_type").getD "application/octet-stream"
      Eff.ofExcept (rejectMultipartToken filename "filename")
      Eff.ofExcept (rejectMultipartToken contentType "file content type")
      let content ← readFile world path
      let fileBytes ← Eff.ofExcept (content.mapError (fun error =>
        .invalidInput ("body." ++ name ++ ".$file")
          ("could not read upload file " ++ debugQuote path ++ ": " ++ error)))
      pure (utf8 ("Content-Disposition: form-data; name=\"" ++ name ++ "\"; filename=\"" ++
        filename ++ "\"\r\nContent-Type: " ++ contentType ++ "\r\n\r\n") ++ fileBytes)
  | none => do
      let wire ← Eff.ofExcept (scalarWire value)
      pure (utf8 ("Content-Disposition: form-data; name=\"" ++ name ++ "\"\r\n\r\n" ++ wire))

/-- The boundary of a multipart body, taken from its logical value. -/
def multipartBoundary (body : Value) : Str :=
  "kahea-" ++ ((digest lib (utf8 body.render)).drop 3).take 16

/-- The loop over the fields of a multipart body. -/
def multipartFields (boundary : Str) (bytes : List UInt8) (entry : Str × Value) :
    Eff Event PlanError (List UInt8) := do
  Eff.ofExcept (rejectMultipartToken entry.1 "field name")
  let field ← multipartField world entry.1 entry.2
  pure (bytes ++ utf8 ("--" ++ boundary ++ "\r\n") ++ field ++ utf8 "\r\n")

def serializeMultipart (body : Value) : Eff Event PlanError SerializedBody := do
  let object ← Eff.ofExcept (match body.asObject with
    | some object => .ok object
    | none => .error (.invalidInput "body" "multipart body must be an object of scalar fields"))
  let boundary := multipartBoundary lib body
  let bytes ← object.foldlM (multipartFields world boundary) []
  let bytes := bytes ++ utf8 ("--" ++ boundary ++ "--\r\n")
  pure
    { mediaType := "multipart/form-data; boundary=" ++ boundary
      bytes := bytes
      encoding := "base64"
      inline := base64Encode bytes
      transformation := "multipart-deterministic" }

/-- The pairs of one member of a form body. -/
def formMember (entry : Str × Value) : Except PlanError (List (Str × Str)) :=
  match entry.2 with
  | .array values => do
      let wires ← values.mapM scalarWire
      pure (wires.map (fun w => (entry.1, w)))
  | value => do
      let wire ← scalarWire value
      pure [(entry.1, wire)]

/-- A body that is sent as a text. -/
def textBody (mediaType text transformation : Str) : SerializedBody :=
  { mediaType := mediaType
    bytes := utf8 text
    encoding := "utf-8"
    inline := text
    transformation := transformation }

def serializeForm (mediaType : Str) (body : Value) : Except PlanError SerializedBody :=
  match body.asStr with
  | some captured => .ok (textBody mediaType captured "captured-form")
  | none => match body.asObject with
    | none => .error (.invalidInput "body" "form-urlencoded body must be an object")
    | some object => do
        let pairs ← object.mapM formMember
        pure (textBody mediaType (formText pairs.flatten) "form-urlencoded")

def serializeBinary (mediaType : Str) (body : Value) : Except PlanError SerializedBody :=
  match body.asStr with
  | none => .error (.invalidInput "body" ("binary " ++ mediaType ++ " body must be a base64 string"))
  | some text =>
      let encoded := (stripPrefix "base64:" text).getD text
      match base64Decode encoded with
      | none => .error (.invalidInput "body" ("invalid base64 body: " ++ lib.base64Error encoded))
      | some bytes => .ok
          { mediaType := mediaType
            bytes := bytes
            encoding := "base64"
            inline := encoded
            transformation := "base64-decode" }

def serializeBody (mediaType : Str) (body : Value) : Eff Event PlanError SerializedBody :=
  if mediaType = "application/json" ∨ endsWith "+json" mediaType = true then
    pure (textBody mediaType body.render "canonical-json")
  else if startsWith "text/" mediaType = true ∨ "xml".toList <:+: mediaType then
    Eff.ofExcept (match body.asStr with
      | some text => .ok (textBody mediaType text "text-utf8")
      | none => .error (.invalidInput "body" (mediaType ++ " body must be a string")))
  else if mediaType = "application/x-www-form-urlencoded" then
    Eff.ofExcept (serializeForm mediaType body)
  else if mediaType = "multipart/form-data" then serializeMultipart lib world body
  else Eff.ofExcept (serializeBinary lib mediaType body)

end

def selectContentType (content : List (Str × Value)) (requested : Option Str) :
    Except PlanError Str :=
  match requested with
  | some requested =>
      if (lookup requested content).isSome then .ok requested
      else .error (.unknownContentType requested)
  | none =>
      if (lookup "application/json" content).isSome then .ok "application/json"
      else match content with
        | [entry] => .ok entry.1
        | _ => .error (.invalidInput "requestBody.content"
            "multiple content types are declared; provide --content-type")

/-- What binding the body adds to the plan. -/
structure BoundBody where
  body : Option PlannedBody
  inputs : Inputs
  headers : List PlannedHeader
  derivations : List FieldDerivation

/-- A plan without a body. -/
def BoundBody.none (inputs : Inputs) : BoundBody := ⟨.none, inputs, [], []⟩

/-- The body value of an operation and where it comes from; the supplied one
    is taken out of the inputs. -/
def bodyValue (operation : OperationDefinition) (inputs : Inputs) :
    Option (Value × Str) × Inputs :=
  match inputs.body with
  | some body =>
      (some (body, "explicit-input"),
        { inputs with
          body := .none
          used := "body" :: (inputs.declared.filter (startsWith "body.") ++ inputs.used) })
  | none => ((lookup "x-kahea-captured-body" operation.operation).map
      (fun body => (body, "captured-source".toList)), inputs)

/-- The media type and the schema of the body, from the declared content. -/
def bodyMedia (requestBody : List (Str × Value)) (contentType : Option Str) :
    Except PlanError (Str × Option Value) := do
  let content ← match (lookup "content" requestBody).bind Value.asObject with
    | some content => .ok content
    | none => .error (.invalidInput "requestBody.content" "content map is missing")
  let mediaType ← selectContentType content contentType
  match (lookup mediaType content).bind Value.asObject with
  | some media => .ok (mediaType, lookup "schema" media)
  | none => .error (.unknownContentType mediaType)

def bindBody (lib : Crates) (world : World) (source : OpenApiSource)
    (operation : OperationDefinition) (inputs : Inputs) (options : PlanOptions) :
    Eff Event PlanError BoundBody :=
  match lookup "requestBody" operation.operation with
  | none =>
      if inputs.body.isSome then Eff.fail .unexpectedBody else pure (.none inputs)
  | some requestBodyValue => do
      let requestBody ← Eff.ofExcept (resolveObject source requestBodyValue "requestBody")
      let required := ((lookup "required" requestBody).bind Value.asBool).getD false
      match bodyValue operation inputs with
      | (none, inputs) => if required then Eff.fail .missingBody else pure (.none inputs)
      | (some (body, provenance), inputs) => do
          let (mediaType, schema) ← Eff.ofExcept (bodyMedia requestBody options.contentType)
          Eff.ofExcept (validateDeclared source world.stack schema body "body")
          let wire ← serializeBody lib world mediaType body
          pure
            { body := some
                { mediaType := wire.mediaType
                  bytes := wire.bytes.length
                  blake3 := digest lib wire.bytes
                  encoding := wire.encoding
                  inline := wire.inline }
              inputs := inputs
              headers := [⟨"Content-Type", wire.mediaType⟩]
              derivations :=
                [derivation "body" body provenance (some wire.inline) wire.transformation] }

/-! ### The files that are read -/

/-- The event is the reading of one of the files. -/
def ReadsOnly (files : List Str) (e : Event) : Prop := ∃ path ∈ files, e = .readFile path

section

variable {lib : Crates} {world : World}

theorem readFile_ensures {ε : Type} (path : Str) (files : List Str) (h : path ∈ files) :
    Ensures (readFile world path : Eff Event ε _) (fun _ => True) (ReadsOnly files) :=
  .bind .past (fun _ _ => .bind (.emit ⟨path, h, rfl⟩) (fun _ _ => .pure trivial))

theorem multipartField_ensures (name : Str) (value : Value) (files : List Str)
    (h : ∀ path, namedFile value = some path → path ∈ files) :
    Ensures (multipartField world name value) (fun _ => True) (ReadsOnly files) := by
  unfold multipartField
  rcases hfile : fileField value with _ | file
  · exact .bind (.ofExcept fun _ _ => trivial) (fun _ _ => .pure trivial)
  · simp only [namedFile, hfile, Option.bind_some] at h
    refine .bind (Q := fun path => stringField file "$file" = some path) ?_ (fun path hpath => ?_)
    · refine .ofExcept fun path hok => ?_
      rcases hfield : stringField file "$file" with _ | p
      · rw [hfield] at hok
        cases hok
      · rw [hfield] at hok
        cases hok
        rfl
    · refine .bind (.ofExcept fun _ _ => trivial) (fun _ _ => ?_)
      refine .bind (.ofExcept fun _ _ => trivial) (fun _ _ => ?_)
      refine .bind (readFile_ensures path files (h path hpath)) (fun _ _ => ?_)
      exact .bind (.ofExcept fun _ _ => trivial) (fun _ _ => .pure trivial)

theorem serializeMultipart_ensures (body : Value) :
    Ensures (serializeMultipart lib world body) (fun _ => True) (ReadsOnly (bodyFiles body)) := by
  unfold serializeMultipart
  rcases hobj : body.asObject with _ | object
  · exact .bind (Q := fun _ => False) (.ofExcept nofun) nofun
  · refine .bind (Q := fun o => o = object) (.ofExcept ?_) (fun o ho => ?_)
    · intro o ho
      cases ho
      rfl
    · rw [ho]
      refine .bind (.foldlM (I := fun _ => True) object ?_ trivial) (fun _ _ => .pure trivial)
      intro bytes entry hentry _
      refine .bind (.ofExcept fun _ _ => trivial) (fun _ _ => ?_)
      refine .bind (multipartField_ensures entry.1 entry.2 _ ?_) (fun _ _ => .pure trivial)
      intro path hpath
      simp only [bodyFiles, hobj, Option.getD_some]
      exact List.mem_filterMap.mpr ⟨entry, hentry, hpath⟩

/-- Serialising a body reads only files the body names. -/
theorem serializeBody_ensures (mediaType : Str) (body : Value) :
    Ensures (serializeBody lib world mediaType body) (fun _ => True)
      (ReadsOnly (bodyFiles body)) := by
  unfold serializeBody
  split
  · exact .pure trivial
  split
  · exact .ofExcept fun _ _ => trivial
  split
  · exact .ofExcept fun _ _ => trivial
  split
  · exact serializeMultipart_ensures body
  · exact .ofExcept fun _ _ => trivial

/-- Binding the body reads only files named by the body value it binds. -/
theorem bindBody_ensures (source : OpenApiSource) (operation : OperationDefinition)
    (inputs : Inputs) (options : PlanOptions) :
    Ensures (bindBody lib world source operation inputs options) (fun _ => True)
      (ReadsOnly (((bodyValue operation inputs).1.map (fun b => bodyFiles b.1)).getD [])) := by
  unfold bindBody
  split
  · split
    · exact .fail
    · exact .pure trivial
  refine .bind (.ofExcept fun _ _ => trivial) (fun requestBody _ => ?_)
  rcases hb : bodyValue operation inputs with ⟨_ | ⟨body, provenance⟩, inputs'⟩
  · dsimp only
    split
    · exact .fail
    · exact .pure trivial
  · simp only [Option.map_some, Option.getD_some]
    refine .bind (.ofExcept fun _ _ => trivial) (fun media _ => ?_)
    refine .bind (.ofExcept fun _ _ => trivial) (fun _ _ => ?_)
    exact .bind (serializeBody_ensures media.1 body) (fun _ _ => .pure trivial)

end

end Kahea
