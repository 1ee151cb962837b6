import Kahea.Ingest
import Kahea.Base.Table
import Kahea.Base.Utf8
import Kahea.Core.Reference
import Mathlib.Algebra.Group.Nat.Defs

/-!
# YAML Documents

How `parse_data_document` reads a document, and what the YAML route keeps of
it.

The parser hands over a tree with typed mapping keys and typed scalars. The
conversion writes every key as a text and stores the entry in an object, so that
two keys with one text end up as one member, with the value of the later entry.
Where the keys of each mapping have different texts (`KeysApart`) nothing is
lost (`Retains`): each mapping becomes an object with one member for every entry.

An integer that does not fit 64 bits with a sign comes as the text of its
digits and stays one, where the JSON route makes it a number. Everything else a
JSON document may hold besides numbers with a fraction is read alike on both
routes (`Agrees`).

## Main definitions

* `Yaml`, `YamlLibrary`: The trees of the YAML parser, and the parser.
* `yamlToJson`, `parseDocument`: The conversion, and the choice of the route.
* `KeysApart`, `Retains`: Trees whose keys have different texts, and values with
  everything a tree has.
* `JsonReading`, `Agrees`: What the two parsers make of one JSON text.

## Theorems

* `yamlToJson_array`, `yamlToJson_hash`: One level of the conversion.
* `yamlToJson_retains`: The conversion keeps a tree whose keys are apart.
* `yamlToJson_agrees`: It reads a JSON text as the JSON route does.
* `parseDocument_keeps`: Both, for documents.
-/

namespace Kahea

/-! ### Trees -/

/-- A node of a YAML document. A real number is the text it is written with. -/
inductive Yaml where
  | real (text : Str)
  | integer (n : Int)
  | string (text : Str)
  | boolean (b : Bool)
  | array (items : List Yaml)
  | hash (entries : List (Yaml × Yaml))
  | alias (id : Nat)
  | null
  | badValue

/-- The YAML parser and the parts of the standard library it is used with. -/
structure YamlLibrary where
  /-- `YamlLoader::load_from_str`: the documents of a text. -/
  load : Str → Except Str (List Yaml)
  /-- A text read as a floating point number that is finite, as a JSON number
      prints it. -/
  finite : Str → Option Str
  /-- What is reported of bytes that are no UTF-8. -/
  utf8Error : List UInt8 → Str

def MAX_DOCUMENT_DEPTH : Nat := 128

def MAX_DOCUMENT_NODES : Nat := 1000000

/-- The number of a 64-bit integer. -/
def Number.ofInt : Int → Number
  | .ofNat n => .posInt n
  | .negSucc n => .negInt n

/-- Whether a number is written with a fraction or an exponent. -/
def hasFraction (text : Str) : Bool := text.any (fun c => c == '.' || c == 'e' || c == 'E')

/-- The node is counted, if there is room for it. -/
def enterNode (location : Str) (depth nodes : Nat) : Except IngestError Nat := do
  ensure (depth ≤ MAX_DOCUMENT_DEPTH && nodes + 1 ≤ MAX_DOCUMENT_NODES)
    (.parse ("document complexity limit exceeded at " ++ location))
  pure (nodes + 1)

section

variable (yaml : YamlLibrary)

/-- A node without nodes inside. -/
def yamlScalar (location : Str) : Yaml → Except IngestError Value
  | .null => .ok .null
  | .boolean b => .ok (.bool b)
  | .integer n => .ok (.number (Number.ofInt n))
  | .real text =>
      if hasFraction text then
        match yaml.finite text with
        | some number => .ok (.number (.float number))
        | none => .error (.parse ("non-finite number at " ++ location ++ ": " ++ text))
      -- An integer too large for the parser keeps its digits.
      else .ok (.string text)
  | .string text => .ok (.string text)
  | _ => .error (.parse ("unsupported YAML node at " ++ location))

def yamlMappingKeyToString (location : Str) : Yaml → Except IngestError Str
  | .string text => .ok text
  | .integer n => .ok (Number.ofInt n).text
  | .real text =>
      if !hasFraction text || (yaml.finite text).isSome then .ok text
      else .error (.parse ("non-string mapping key at " ++ location))
  | _ => .error (.parse ("non-string mapping key at " ++ location))

mutual

/-- The conversion of a node, with the nodes counted so far and afterwards. -/
def yamlToJson : Yaml → Str → Nat → Nat → Except IngestError (Value × Nat)
  | .array values, location, depth, nodes => do
      let nodes ← enterNode location depth nodes
      let (items, nodes) ← yamlItems values location 0 (depth + 1) nodes
      pure (.array items, nodes)
  | .hash entries, location, depth, nodes => do
      let nodes ← enterNode location depth nodes
      let (members, nodes) ← yamlEntries entries location (depth + 1) nodes []
      pure (.object members, nodes)
  | value, location, depth, nodes => do
      let nodes ← enterNode location depth nodes
      let value ← yamlScalar yaml location value
      pure (value, nodes)

/-- The items of a sequence from an index on. -/
def yamlItems : List Yaml → Str → Nat → Nat → Nat → Except IngestError (List Value × Nat)
  | [], _, _, _, nodes => .ok ([], nodes)
  | value :: rest, location, index, depth, nodes => do
      let (item, nodes) ← yamlToJson value (location ++ '/' :: decimal index) depth nodes
      let (items, nodes) ← yamlItems rest location (index + 1) depth nodes
      pure (item :: items, nodes)

/-- The entries of a mapping, added to an object. -/
def yamlEntries : List (Yaml × Yaml) → Str → Nat → Nat → List (Str × Value) →
    Except IngestError (List (Str × Value) × Nat)
  | [], _, _, nodes, object => .ok (object, nodes)
  | (key, value) :: rest, location, depth, nodes, object => do
      let key ← yamlMappingKeyToString yaml location key
      let (value, nodes) ← yamlToJson value (location ++ '/' :: escapePointer key) depth nodes
      yamlEntries rest location depth nodes (insert key value object)

end

def parseYamlDocument (text : Str) : Except IngestError Value := do
  let documents ← (yaml.load text).mapError IngestError.parse
  match documents with
  | [document] => do
      let (value, _) ← yamlToJson yaml document "#" 0 0
      pure value
  | documents => .error (.parse
      ("expected one YAML document, found " ++ decimal documents.length))

/-- Whether a document is read as JSON, by the extension of its path or by how
    it begins. -/
def isJsonRoute (extension text : Str) : Bool :=
  lower extension = "json" || startsWith "\x7b".toList (text.dropWhile isWhiteSpace)

/-- `parse_document`, which is `parse_data_document`, for a path with an
    extension. -/
def parseDocument (lib : Crates) (extension : Str) (bytes : List UInt8) :
    Except IngestError Value := do
  ensure (bytes.length ≤ MAX_SOURCE_BYTES) (.parse
    ("source exceeds the " ++ decimal MAX_SOURCE_BYTES ++ " byte parser limit"))
  match fromUtf8 bytes with
  | none => .error (.parse (yaml.utf8Error bytes))
  | some text =>
      if isJsonRoute extension text then (lib.parseJson bytes).mapError IngestError.parse
      else parseYamlDocument yaml text

end

/-! ### What is kept -/

section

variable (yaml : YamlLibrary)

/-- The text of a mapping key, if it may be one. -/
def keyText (key : Yaml) : Option Str := (yamlMappingKeyToString yaml [] key).toOption

mutual

/-- In every mapping different keys have different texts. -/
def KeysApart : Yaml → Prop
  | .array values => KeysApartItems values
  | .hash entries => (entries.map (fun e => keyText yaml e.1)).Nodup ∧ KeysApartEntries entries
  | _ => True

/-- The same for the items of a sequence. -/
def KeysApartItems : List Yaml → Prop
  | [] => True
  | value :: rest => KeysApart value ∧ KeysApartItems rest

/-- The same for the values of a mapping. -/
def KeysApartEntries : List (Yaml × Yaml) → Prop
  | [] => True
  | (_, value) :: rest => KeysApart value ∧ KeysApartEntries rest

end

mutual

/-- The value has everything the tree has: its scalars, an item for every item,
    and a member for every entry. -/
def Retains : Yaml → Value → Prop
  | .null, v => v = .null
  | .boolean b, v => v = .bool b
  | .integer n, v => v = .number (Number.ofInt n)
  | .real text, v =>
      if hasFraction text then ∃ number, yaml.finite text = some number ∧ v = .number (.float number)
      else v = .string text
  | .string text, v => v = .string text
  | .array values, v => ∃ items, v = .array items ∧ RetainsItems values items
  | .hash entries, v => ∃ members pairs, v = .object members ∧ members.Perm pairs ∧
      RetainsEntries entries pairs
  | .alias _, _ => False
  | .badValue, _ => False

/-- An item for every item, in the same place. -/
def RetainsItems : List Yaml → List Value → Prop
  | [], items => items = []
  | value :: rest, items => ∃ item more, items = item :: more ∧ Retains value item ∧
      RetainsItems rest more

/-- A member for every entry, under the text of its key. -/
def RetainsEntries : List (Yaml × Yaml) → List (Str × Value) → Prop
  | [], pairs => pairs = []
  | (key, value) :: rest, pairs => ∃ name child more, pairs = (name, child) :: more ∧
      keyText yaml key = some name ∧ Retains value child ∧ RetainsEntries rest more

end

end

section

variable {yaml : YamlLibrary}

theorem enterNode_ok {location : Str} {depth nodes nodes' : Nat}
    (h : enterNode location depth nodes = .ok nodes') : nodes' = nodes + 1 := by
  rcases except_bind_ok.mp h with ⟨_, _, hnodes⟩
  cases hnodes
  rfl

theorem yamlMappingKeyToString_ok {location name : Str} {key : Yaml}
    (h : yamlMappingKeyToString yaml location key = .ok name) : keyText yaml key = some name := by
  unfold keyText
  cases key with
  | string text =>
      cases h
      rfl
  | integer n =>
      cases h
      rfl
  | real text =>
      unfold yamlMappingKeyToString at h ⊢
      dsimp only at h ⊢
      by_cases hfinite : (!hasFraction text || (yaml.finite text).isSome) = true
      · rw [if_pos hfinite] at h ⊢
        cases h
        rfl
      · rw [if_neg hfinite] at h
        cases h
  | _ => cases h

/-- The conversion of a sequence. -/
theorem yamlToJson_array {values : List Yaml} {location : Str} {depth nodes nodes' : Nat} {v : Value}
    (h : yamlToJson yaml (.array values) location depth nodes = .ok (v, nodes')) :
    ∃ items, v = .array items ∧
      yamlItems yaml values location 0 (depth + 1) (nodes + 1) = .ok (items, nodes') := by
  rw [yamlToJson] at h
  rcases except_bind_ok.mp h with ⟨entered, henter, h⟩
  cases enterNode_ok henter
  rcases except_bind_ok.mp h with ⟨⟨items, after⟩, hitems, hresult⟩
  cases hresult
  exact ⟨items, rfl, hitems⟩

/-- The conversion of a mapping. -/
theorem yamlToJson_hash {entries : List (Yaml × Yaml)} {location : Str}
    {depth nodes nodes' : Nat} {v : Value}
    (h : yamlToJson yaml (.hash entries) location depth nodes = .ok (v, nodes')) :
    ∃ members, v = .object members ∧
      yamlEntries yaml entries location (depth + 1) (nodes + 1) [] = .ok (members, nodes') := by
  rw [yamlToJson] at h
  rcases except_bind_ok.mp h with ⟨entered, henter, h⟩
  cases enterNode_ok henter
  rcases except_bind_ok.mp h with ⟨⟨members, after⟩, hmembers, hresult⟩
  cases hresult
  exact ⟨members, rfl, hmembers⟩

/-- Whether a node has nodes inside. -/
def isCollection : Yaml → Bool
  | .array _ => true
  | .hash _ => true
  | _ => false

/-- A node that has none. -/
theorem yamlToJson_scalar {y : Yaml} (hscalar : isCollection y = false) {location : Str}
    {depth nodes nodes' : Nat} {v : Value}
    (h : yamlToJson yaml y location depth nodes = .ok (v, nodes')) :
    yamlScalar yaml location y = .ok v := by
  rw [yamlToJson] at h
  · rcases except_bind_ok.mp h with ⟨entered, _, h⟩
    rcases except_bind_ok.mp h with ⟨value, hvalue, hresult⟩
    cases hresult
    exact hvalue
  · rintro values rfl
    cases hscalar
  · rintro entries rfl
    cases hscalar

theorem yamlItems_cons {value : Yaml} {rest : List Yaml} {location : Str}
    {index depth nodes nodes' : Nat} {items : List Value}
    (h : yamlItems yaml (value :: rest) location index depth nodes = .ok (items, nodes')) :
    ∃ item more between, items = item :: more ∧
      yamlToJson yaml value (location ++ '/' :: decimal index) depth nodes = .ok (item, between) ∧
      yamlItems yaml rest location (index + 1) depth between = .ok (more, nodes') := by
  rw [yamlItems] at h
  rcases except_bind_ok.mp h with ⟨⟨item, between⟩, hitem, h⟩
  rcases except_bind_ok.mp h with ⟨⟨more, after⟩, hmore, hresult⟩
  cases hresult
  exact ⟨item, more, between, rfl, hitem, hmore⟩

theorem yamlEntries_cons {key value : Yaml} {rest : List (Yaml × Yaml)} {location : Str}
    {depth nodes nodes' : Nat} {object members : List (Str × Value)}
    (h : yamlEntries yaml ((key, value) :: rest) location depth nodes object =
      .ok (members, nodes')) :
    ∃ name child between, yamlMappingKeyToString yaml location key = .ok name ∧
      yamlToJson yaml value (location ++ '/' :: escapePointer name) depth nodes =
        .ok (child, between) ∧
      yamlEntries yaml rest location depth between (insert name child object) =
        .ok (members, nodes') := by
  rw [yamlEntries] at h
  rcases except_bind_ok.mp h with ⟨name, hname, h⟩
  rcases except_bind_ok.mp h with ⟨⟨child, between⟩, hchild, h⟩
  exact ⟨name, child, between, hname, hchild, h⟩

theorem retainsEntries_names {entries : List (Yaml × Yaml)} {pairs : List (Str × Value)}
    (h : RetainsEntries yaml entries pairs) :
    entries.map (fun e => keyText yaml e.1) = (pairs.map Prod.fst).map some := by
  induction entries generalizing pairs with
  | nil =>
      cases h
      rfl
  | cons e rest ih =>
      rcases e with ⟨key, value⟩
      rcases h with ⟨name, child, more, rfl, hkey, _, hrest⟩
      rw [List.map_cons, List.map_cons, List.map_cons, hkey, ih hrest]

/-- A scalar is kept. -/
theorem yamlScalar_retains {location : Str} {y : Yaml} {v : Value}
    (h : yamlScalar yaml location y = .ok v) : Retains yaml y v := by
  cases y with
  | real text =>
      unfold yamlScalar at h
      unfold Retains
      dsimp only at h
      -- A real is kept as a number, or as text where it has no fraction.
      by_cases hfraction : hasFraction text = true
      · rw [if_pos hfraction] at h ⊢
        cases hnumber : yaml.finite text with
        | none =>
            rw [hnumber] at h
            cases h
        | some number =>
            rw [hnumber] at h
            cases h
            exact ⟨number, rfl, rfl⟩
      · rw [if_neg hfraction] at h ⊢
        cases h
        rfl
  | null | boolean b | integer n | string text =>
      cases h
      rfl
  | _ => cases h

mutual

/-- The conversion keeps everything of a tree whose keys are apart. -/
theorem yamlToJson_retains : ∀ (y : Yaml) {location : Str} {depth nodes nodes' : Nat} {v : Value},
    KeysApart yaml y → yamlToJson yaml y location depth nodes = .ok (v, nodes') → Retains yaml y v
  | .array values, location, depth, nodes, nodes', v, hapart, h => by
      rcases yamlToJson_array h with ⟨items, rfl, hitems⟩
      exact ⟨items, rfl, yamlItems_retains values hapart hitems⟩
  | .hash entries, location, depth, nodes, nodes', v, hapart, h => by
      rcases yamlToJson_hash h with ⟨members, rfl, hmembers⟩
      rcases yamlEntries_retains entries hapart.2 hmembers with ⟨pairs, rfl, hpairs⟩
      -- The names are as different as the keys, so that none is overwritten.
      have hnodup : (pairs.map Prod.fst).Nodup := by
        have hkeys := hapart.1
        rw [retainsEntries_names hpairs] at hkeys
        exact hkeys.of_map
      have hperm := writeAll_perm (m := []) hnodup (fun _ _ => List.not_mem_nil)
      rw [List.append_nil] at hperm
      exact ⟨_, pairs, rfl, hperm, hpairs⟩
  | .null, location, depth, nodes, nodes', v, _, h =>
      yamlScalar_retains (yamlToJson_scalar rfl h)
  | .boolean b, location, depth, nodes, nodes', v, _, h =>
      yamlScalar_retains (yamlToJson_scalar rfl h)
  | .integer n, location, depth, nodes, nodes', v, _, h =>
      yamlScalar_retains (yamlToJson_scalar rfl h)
  | .real text, location, depth, nodes, nodes', v, _, h =>
      yamlScalar_retains (yamlToJson_scalar rfl h)
  | .string text, location, depth, nodes, nodes', v, _, h =>
      yamlScalar_retains (yamlToJson_scalar rfl h)
  | .alias id, location, depth, nodes, nodes', v, _, h =>
      yamlScalar_retains (yamlToJson_scalar rfl h)
  | .badValue, location, depth, nodes, nodes', v, _, h =>
      yamlScalar_retains (yamlToJson_scalar rfl h)

theorem yamlItems_retains : ∀ (values : List Yaml) {location : Str} {index depth nodes nodes' : Nat}
    {items : List Value}, KeysApartItems yaml values →
    yamlItems yaml values location index depth nodes = .ok (items, nodes') →
    RetainsItems yaml values items
  | [], location, index, depth, nodes, nodes', items, _, h => by
      cases h
      rfl
  | value :: rest, location, index, depth, nodes, nodes', items, hapart, h => by
      rcases yamlItems_cons h with ⟨item, more, between, rfl, hitem, hmore⟩
      exact ⟨item, more, rfl, yamlToJson_retains value hapart.1 hitem,
        yamlItems_retains rest hapart.2 hmore⟩

theorem yamlEntries_retains : ∀ (entries : List (Yaml × Yaml)) {location : Str}
    {depth nodes nodes' : Nat} {object members : List (Str × Value)},
    KeysApartEntries yaml entries →
    yamlEntries yaml entries location depth nodes object = .ok (members, nodes') →
    ∃ pairs, members = writeAll pairs object ∧ RetainsEntries yaml entries pairs
  | [], location, depth, nodes, nodes', object, members, _, h => by
      cases h
      exact ⟨[], rfl, rfl⟩
  | (key, value) :: rest, location, depth, nodes, nodes', object, members, hapart, h => by
      rcases yamlEntries_cons h with ⟨name, child, between, hname, hchild, hrest⟩
      rcases yamlEntries_retains rest hapart.2 hrest with ⟨pairs, rfl, hpairs⟩
      exact ⟨(name, child) :: pairs, rfl, name, child, pairs, rfl,
        yamlMappingKeyToString_ok hname, yamlToJson_retains value hapart.1 hchild, hpairs⟩

end

end

/-! ### Documents that are JSON -/

/-- An integer of 64 bits with a sign. -/
def Number.Small : Number → Prop
  | .posInt n => n < 2 ^ 63
  | .negInt n => n < 2 ^ 63
  | .float _ => False

/-- An integer, however large. -/
def Number.Whole : Number → Prop
  | .posInt _ => True
  | .negInt _ => True
  | .float _ => False

mutual

/-- What the two parsers make of one JSON text. An integer the YAML parser can
    hold is one for both, except that a negative zero is a floating point number
    in JSON; every other number is left as a text by the one. Entries are in the
    order of the text in the one and stored one after the other by the other. -/
def JsonReading : Yaml → Value → Prop
  | .null, v => v = .null
  | .boolean b, v => v = .bool b
  | .string text, v => v = .string text
  | .integer n, v => v = .number (Number.ofInt n) ∨ ∃ text, v = .number (.float text)
  | .real _, v => ∃ number, v = .number number ∧ ¬ number.Small
  | .array values, v => ∃ items, v = .array items ∧ JsonReadingItems values items
  | .hash entries, v => ∃ pairs, v = .object (writeAll pairs []) ∧
      JsonReadingEntries entries pairs
  | .alias _, _ => False
  | .badValue, _ => False

def JsonReadingItems : List Yaml → List Value → Prop
  | [], items => items = []
  | value :: rest, items => ∃ item more, items = item :: more ∧ JsonReading value item ∧
      JsonReadingItems rest more

def JsonReadingEntries : List (Yaml × Yaml) → List (Str × Value) → Prop
  | [], pairs => pairs = []
  | (key, value) :: rest, pairs => ∃ name child more, pairs = (name, child) :: more ∧
      key = .string name ∧ JsonReading value child ∧ JsonReadingEntries rest more

end

/-- YAML is an extension of JSON: where the YAML parser reads a JSON text, it
    reads it as what it is. -/
def ReadsJson (lib : Crates) (yaml : YamlLibrary) : Prop :=
  ∀ text v documents, lib.parseJson (utf8 text) = .ok v → yaml.load text = .ok documents →
    ∃ document, documents = [document] ∧ JsonReading document v

section

variable (p : Number → Prop)

mutual

/-- The second value is the first one up to numbers of another kind. -/
def Agrees : Value → Value → Prop
  | .number n, w => p n → w = .number n
  | .array items, w => ∃ items', w = .array items' ∧ AgreesItems items items'
  | .object members, w => ∃ members', w = .object members' ∧ AgreesMembers members members'
  | .null, w => w = .null
  | .bool b, w => w = .bool b
  | .string text, w => w = .string text

def AgreesItems : List Value → List Value → Prop
  | [], items => items = []
  | item :: rest, items => ∃ item' more, items = item' :: more ∧ Agrees item item' ∧
      AgreesItems rest more

def AgreesMembers : List (Str × Value) → List (Str × Value) → Prop
  | [], members => members = []
  | (name, v) :: rest, members => ∃ w more, members = (name, w) :: more ∧ Agrees v w ∧
      AgreesMembers rest more

end

end

section

variable {yaml : YamlLibrary} {p : Number → Prop}

/-- Storing entries that agree keeps objects in agreement. -/
theorem agreesMembers_insert {name : Str} {v w : Value} (hvw : Agrees p v w)
    {members members' : List (Str × Value)} (h : AgreesMembers p members members') :
    AgreesMembers p (insert name v members) (insert name w members') := by
  induction members generalizing members' with
  | nil =>
      cases h
      exact ⟨w, [], rfl, hvw, rfl⟩
  | cons e rest ih =>
      rcases e with ⟨l, u⟩
      rcases h with ⟨u', more, rfl, hu, hrest⟩
      unfold insert
      by_cases hsame : name = l
      · rw [if_pos hsame, if_pos hsame]
        exact ⟨w, more, rfl, hvw, hrest⟩
      · rw [if_neg hsame, if_neg hsame]
        by_cases hbefore : strLt name l = true
        · rw [if_pos hbefore, if_pos hbefore]
          exact ⟨w, (l, u') :: more, rfl, hvw, u', more, rfl, hu, hrest⟩
        · rw [if_neg hbefore, if_neg hbefore]
          exact ⟨u', _, rfl, hu, ih hrest⟩

theorem ofInt_small_or {n : Int} {v w : Value} {location : Str}
    (hreading : JsonReading (.integer n) v)
    (h : yamlScalar yaml location (.integer n) = .ok w) : Agrees Number.Small v w := by
  cases h
  rcases hreading with rfl | ⟨text, rfl⟩
  · exact fun _ => rfl
  · exact False.elim

mutual

/-- On both routes a JSON text is the same value, up to numbers that do not fit
    64 bits with a sign. -/
theorem yamlToJson_agrees : ∀ (y : Yaml) {location : Str} {depth nodes nodes' : Nat} {v w : Value},
    JsonReading y v → yamlToJson yaml y location depth nodes = .ok (w, nodes') →
    Agrees Number.Small v w
  -- By the node; the count of nodes is passed on from item to item.
  | .array values, location, depth, nodes, nodes', v, w, hreading, h => by
      rcases hreading with ⟨items, rfl, hitems⟩
      rcases yamlToJson_array h with ⟨items', rfl, hrun⟩
      exact ⟨items', rfl, yamlItems_agrees values hitems hrun⟩
  | .hash entries, location, depth, nodes, nodes', v, w, hreading, h => by
      rcases hreading with ⟨pairs, rfl, hpairs⟩
      rcases yamlToJson_hash h with ⟨members, rfl, hrun⟩
      exact ⟨members, rfl, yamlEntries_agrees entries hpairs rfl hrun⟩
  | .null, location, depth, nodes, nodes', v, w, hreading, h => by
      cases hreading
      cases yamlToJson_scalar rfl h
      rfl
  | .boolean b, location, depth, nodes, nodes', v, w, hreading, h => by
      cases hreading
      cases yamlToJson_scalar rfl h
      rfl
  | .string text, location, depth, nodes, nodes', v, w, hreading, h => by
      cases hreading
      cases yamlToJson_scalar rfl h
      rfl
  | .integer n, location, depth, nodes, nodes', v, w, hreading, h =>
      ofInt_small_or hreading (yamlToJson_scalar rfl h)
  -- A real is read by its text, which need not be exact.
  | .real text, location, depth, nodes, nodes', v, w, hreading, _ => by
      rcases hreading with ⟨number, rfl, hlarge⟩
      exact fun hsmall => absurd hsmall hlarge
  | .alias id, location, depth, nodes, nodes', v, w, hreading, _ => hreading.elim
  | .badValue, location, depth, nodes, nodes', v, w, hreading, _ => hreading.elim

theorem yamlItems_agrees : ∀ (values : List Yaml) {location : Str} {index depth nodes nodes' : Nat}
    {items items' : List Value}, JsonReadingItems values items →
    yamlItems yaml values location index depth nodes = .ok (items', nodes') →
    AgreesItems Number.Small items items'
  | [], location, index, depth, nodes, nodes', items, items', hreading, h => by
      cases hreading
      cases h
      rfl
  | value :: rest, location, index, depth, nodes, nodes', items, items', hreading, h => by
      rcases hreading with ⟨item, more, rfl, hitem, hmore⟩
      rcases yamlItems_cons h with ⟨item', more', between, rfl, hrun, hrest⟩
      exact ⟨item', more', rfl, yamlToJson_agrees value hitem hrun,
        yamlItems_agrees rest hmore hrest⟩

theorem yamlEntries_agrees : ∀ (entries : List (Yaml × Yaml)) {location : Str}
    {depth nodes nodes' : Nat} {pairs object object' members : List (Str × Value)},
    JsonReadingEntries entries pairs → AgreesMembers Number.Small object object' →
    yamlEntries yaml entries location depth nodes object' = .ok (members, nodes') →
    -- By the entries, what was written so far agreeing.
    AgreesMembers Number.Small (writeAll pairs object) members
  | [], location, depth, nodes, nodes', pairs, object, object', members, hreading, hobject, h => by
      cases hreading
      cases h
      exact hobject
  | (key, value) :: rest, location, depth, nodes, nodes', pairs, object, object', members, hreading,
      hobject, h => by
      rcases hreading with ⟨name, child, more, rfl, rfl, hchild, hmore⟩
      rcases yamlEntries_cons h with ⟨name', child', between, hname, hrun, hrest⟩
      cases hname
      have hobject' : AgreesMembers Number.Small (insert name child object)
          (insert name child' object') :=
        agreesMembers_insert (yamlToJson_agrees value hchild hrun) hobject
      have hwrite : writeAll ((name, child) :: more) object =
          writeAll more (insert name child object) := rfl
      rw [hwrite]
      exact yamlEntries_agrees rest hmore hobject' hrest

end

end

/-! ### Documents -/

section

variable {lib : Crates} {yaml : YamlLibrary}

theorem parseYamlDocument_ok {text : Str} {w : Value} (h : parseYamlDocument yaml text = .ok w) :
    ∃ document nodes, yaml.load text = .ok [document] ∧
      yamlToJson yaml document "#" 0 0 = .ok (w, nodes) := by
  rcases except_bind_ok.mp h with ⟨documents, hload, h⟩
  rw [except_mapError_ok] at hload
  match documents, h with
  | [document], h => 
      rcases except_bind_ok.mp h with ⟨⟨value, nodes⟩, hrun, hresult⟩
      cases hresult
      exact ⟨document, nodes, hload, hrun⟩

/-- What decodes encodes back. -/
theorem utf8_of_fromUtf8 {bytes : List UInt8} {text : Str} (h : fromUtf8 bytes = some text) :
    utf8 text = bytes := by
  unfold fromUtf8 at h
  by_cases hvalid : utf8 (fromUtf8Lossy bytes) = bytes
  · rw [if_pos hvalid] at h
    cases h
    exact hvalid
  · rw [if_neg hvalid] at h
    cases h

theorem parseDocument_ok {extension : Str} {bytes : List UInt8} {text : Str} {w : Value}
    (htext : fromUtf8 bytes = some text) (h : parseDocument yaml lib extension bytes = .ok w) :
    (isJsonRoute extension text = true → lib.parseJson bytes = .ok w) ∧
      (isJsonRoute extension text = false → parseYamlDocument yaml text = .ok w) := by
  rcases except_bind_ok.mp h with ⟨_, _, h⟩
  rw [htext] at h
  dsimp only at h
  constructor
  · intro hroute
    rw [if_pos hroute] at h
    exact except_mapError_ok.mp h
  · intro hroute
    rw [if_neg (by rw [hroute]; exact Bool.false_ne_true)] at h
    exact h

end

/-- A document that is read as YAML keeps everything of its tree as long as the
    keys of each mapping have different texts, and where it is JSON as well, it
    is the same value up to numbers outside 64 bits with a sign. -/
theorem parseDocument_keeps {lib : Crates} {yaml : YamlLibrary} (hreads : ReadsJson lib yaml)
    {extension text : Str} {bytes : List UInt8} {w : Value} (htext : fromUtf8 bytes = some text)
    (hroute : isJsonRoute extension text = false)
    (h : parseDocument yaml lib extension bytes = .ok w) :
    ∃ document, yaml.load text = .ok [document] ∧
      (KeysApart yaml document → Retains yaml document w) ∧
      ∀ v, lib.parseJson bytes = .ok v → Agrees Number.Small v w := by
  rcases parseYamlDocument_ok ((parseDocument_ok htext h).2 hroute) with
    ⟨document, nodes, hload, hrun⟩
  refine ⟨document, hload, fun hapart => yamlToJson_retains document hapart hrun, fun v hv => ?_⟩
  have hbytes : utf8 text = bytes := utf8_of_fromUtf8 htext
  rw [← hbytes] at hv
  rcases hreads text v _ hv hload with ⟨only, heq, hreading⟩
  cases heq
  exact yamlToJson_agrees document hreading hrun

/-! ### Documents of one text -/

/-- A YAML parser that knows one text. -/
def textYaml (known : Str) (document : Yaml) : YamlLibrary :=
  { load := fun text => if text = known then .ok [document] else .error "unexpected text"
    finite := fun _ => none
    utf8Error := fun _ => "invalid utf-8" }

theorem readsJson_text {known : Str} {document : Yaml} {v : Value}
    (hparse : referenceCrates.parseJson (utf8 known) = .ok v) (hreading : JsonReading document v) :
    ReadsJson referenceCrates (textYaml known document) := by
  intro text value documents hvalue hload
  unfold textYaml at hload
  dsimp only at hload
  by_cases htext : text = known
  · subst htext
    rw [hparse] at hvalue
    cases hvalue
    rw [if_pos rfl] at hload
    cases hload
    exact ⟨document, rfl, hreading⟩
  · rw [if_neg htext] at hload
    cases hload

/-- A text with a mapping of two entries. -/
def answersText : Str := "[\x7b\"200\":5,\"default\":true\x7d]"

/-- Its tree. -/
def answersTree : Yaml :=
  .array [.hash [(.string "200", .integer 5), (.string "default", .boolean true)]]

/-- Its value. -/
def answersValue : Value :=
  .array [jsonObject [("200", .number (.posInt 5)), ("default", .bool true)]]

/-- The value of a mapping has both its entries, and is the same on both
    routes. -/
theorem parseDocument_mapping :
    parseDocument (textYaml answersText answersTree) referenceCrates "yaml" (utf8 answersText) =
      .ok answersValue ∧
    Retains (textYaml answersText answersTree) answersTree answersValue ∧
    referenceCrates.parseJson (utf8 answersText) = .ok answersValue ∧
    Agrees Number.Small answersValue answersValue := by
  have hparse : referenceCrates.parseJson (utf8 answersText) = .ok answersValue :=
    toOption_eq_some.mp (by decide +kernel)
  -- Both readers see the mapping.
  have hreading : JsonReading answersTree answersValue := by
    refine ⟨_, rfl, _, [], rfl,
      ⟨[("200", .number (.posInt 5)), ("default", .bool true)], rfl, ?_⟩, rfl⟩
    exact ⟨"200", _, _, rfl, rfl, Or.inl rfl, "default", _, [], rfl, rfl, rfl, rfl⟩
  have hdocument : parseDocument (textYaml answersText answersTree) referenceCrates "yaml"
      (utf8 answersText) = .ok answersValue := toOption_eq_some.mp (by decide +kernel)
  rcases parseDocument_keeps (readsJson_text hparse hreading) (fromUtf8_utf8 _)
    (by decide +kernel) hdocument with ⟨document, hload, hretains, hagrees⟩
  cases hload
  -- Its two keys are apart, so both entries are retained.
  have hkeys : ([Yaml.string "200", .string "default"].map
      (keyText (textYaml answersText answersTree))).Nodup := by decide +kernel
  exact ⟨hdocument, hretains ⟨⟨hkeys, trivial, trivial, trivial⟩, trivial⟩, hparse,
    hagrees _ hparse⟩

/-- An integer that does not fit 64 bits with a sign is a text on one route and
    a number on the other. -/
theorem parseDocument_large : ¬ ∀ (lib : Crates) (yaml : YamlLibrary), ReadsJson lib yaml →
    ∀ (extension text : Str) (bytes : List UInt8) (w : Value), fromUtf8 bytes = some text →
      isJsonRoute extension text = false → parseDocument yaml lib extension bytes = .ok w →
      ∃ document, yaml.load text = .ok [document] ∧ Retains yaml document w ∧
        ∀ v, lib.parseJson bytes = .ok v → Agrees Number.Whole v w := by
  intro hall
  -- An integer beyond the signed range.
  have hparse : referenceCrates.parseJson (utf8 "[9223372036854775808]") =
      .ok (.array [.number (.posInt 9223372036854775808)]) :=
    toOption_eq_some.mp (by decide +kernel)
  have hreads : ReadsJson referenceCrates
      (textYaml "[9223372036854775808]" (.array [.real "9223372036854775808"])) :=
    readsJson_text hparse ⟨_, rfl, _, [], rfl, ⟨_, rfl, Nat.lt_irrefl _⟩, rfl⟩
  have hdocument : parseDocument
      (textYaml "[9223372036854775808]" (.array [.real "9223372036854775808"])) referenceCrates
      "yaml" (utf8 "[9223372036854775808]") =
        .ok (.array [.string "9223372036854775808"]) := toOption_eq_some.mp (by decide +kernel)
  rcases hall _ _ hreads _ _ _ _ (fromUtf8_utf8 _) (by decide +kernel) hdocument with
    ⟨_, _, _, hagrees⟩
  -- The document has another number in its place.
  rcases hagrees _ hparse with ⟨items, hitems, item, more, hmore, hitem, _⟩
  cases hitems
  cases hmore
  cases hitem trivial

end Kahea
