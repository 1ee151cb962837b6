import Kahea.Base.Base64
import Kahea.Base.Search
import Kahea.Base.Utf8
import Kahea.Evidence.Store

/-!
# Explaining Evidence

The function `explain`, which shows a part of a stored record.

A selector names the part: a range of bytes, a header, a place in a JSON
document or an XPath. Every selector but the last compares what it has selected
with a limit. An XPath counts the nodes it selects and not their size, so its
answer is as large as the document. Without a selector a small record is shown
whole. Its media type says how it is read, and a record that is declared as JSON
but is none cannot be explained. These are the only exceptions: `explained_iff`.

What an XPath selects is known only by evaluating it, so nothing is said of the
record for which it does. What can be said is said of the selector: one that
selects as much as a document holds is within bounds exactly when it is not
evaluated as an XPath.

## Main definitions

* `Selectors`: The query languages.
* `selectBytes`, `selectHeader`, `selectJson`, `selectXml`: The selectors.
* `explain`: The explanation of a record.
* `Readable`, `IsXPath`: The records that are shown whole, and the selectors
  that are evaluated as XPaths.
* `ShowsWithin`, `Explained`: What an explanation should be.

## Theorems

* `explainedValue_within`: What is selected otherwise than by an XPath is within
  the limit.
* `explained_iff`: When a stored record is explained within bounds.
* `xpath_unbounded`: An XPath that selects more than any bound.
* `order_explained`: An order, and a place in it.
* `empty_json_unexplained`: An empty record that is declared as JSON.
-/

namespace Kahea

/-- What an XPath selects: a number is nothing when it is not finite. -/
inductive XPathSelection where
  | boolean (value : Bool)
  | number (value : Option Number)
  | string (value : Str)
  | nodeset (values : List Str)

/-- The query languages of selectors. -/
structure Selectors where
  /-- `JsonPath::parse`, and the nodes the query selects. -/
  jsonPath : Str → Except Str (Value → List Value)
  /-- `sxd_document::parser::parse`, and `sxd_xpath::evaluate_xpath`. -/
  xml : Str → Except Str (Str → Except Str XPathSelection)
  /-- The error of bytes that are not UTF-8. -/
  utf8Error : List UInt8 → Str

/-- The largest record that is shown whole. -/
def inlineLimit : Nat := 4 * 1024

/-- The largest selection. -/
def selectionLimit : Nat := 64 * 1024

/-- The number of bytes a value is written with. -/
def Value.serializedSize (value : Value) : Nat := (utf8 value.render).length

/-- The explanation of a record. -/
structure ExplanationEnvelope where
  protocol : Str
  kind : Str
  version : Str
  configFingerprint : Str
  handle : Str
  mediaType : Str
  selector : Option Str
  value : Option Value
  bytes : Nat
  truncated : Bool
  exit : Nat

section

variable (lib : Crates) (codec : Codec) (languages : Selectors)

/-- `serde_json::from_slice`, with its error. -/
def readJson (data : List UInt8) : Except EvidenceError Value :=
  match lib.parseJson data with
  | .ok value => .ok value
  | .error reason => .error (.serialization reason)

/-- The function `inline_value`. -/
def inlineValue (record : EvidenceRecord) : Except EvidenceError (Option Value) :=
  if "json".toList <:+: record.envelope.mediaType then (readJson lib record.data).map some
  else if startsWith "text/" record.envelope.mediaType ∨
      "xml".toList <:+: record.envelope.mediaType then
    .ok (some (.string (fromUtf8Lossy record.data)))
  else
    .ok (some (jsonObject [("data", .string (base64Encode record.data)),
      ("encoding", .string "base64")]))

/-- The function `bounded_selection`. -/
def boundedSelection (value : Value) (limit : Nat) : Except EvidenceError (Option Value) :=
  if limit < value.serializedSize then .error .selectionTooLarge else .ok (some value)

/-- The function `select_json`. -/
def selectJson (data : List UInt8) (selector : Str) (limit : Nat) :
    Except EvidenceError (Option Value) := do
  let document ← readJson lib data
  if startsWith "/" selector ∨ selector = [] then
    match document.pointer selector with
    | none => .error .selectionNotFound
    | some value => boundedSelection value limit
  else if ¬ startsWith "$" selector then
    .error (.invalidSelector "JSON selectors must be JSON Pointer or RFC 9535 JSONPath")
  else match languages.jsonPath selector with
    | .error reason => .error (.invalidSelector reason)
    | .ok query => match query document with
      | [] => .error .selectionNotFound
      | [node] => boundedSelection node limit
      | nodes =>
          if 100 < nodes.length then .error .selectionTooLarge
          else boundedSelection (.array nodes) limit

/-- The function `select_header`. -/
def selectHeader (data : List UInt8) (selector : Str) (limit : Nat) :
    Except EvidenceError (Option Value) := do
  let document ← readJson lib data
  let spec := trimStartMatches "header:" selector
  let (side, name) := (splitOnce ":" spec).getD ("response".toList, spec)
  if name = [] ∨ ¬ oneOf ["request", "response"] side then
    .error (.invalidSelector
      "header selector must be header:NAME or header:request|response:NAME")
  else match ((document.get side).bind (Value.get · "headers")).bind Value.asObject with
    | none => .error .selectionNotFound
    | some headers => match headers.find? (fun e => eqIgnoreCase e.1 name) with
      | none => .error .selectionNotFound
      | some (_, value) => boundedSelection value limit

/-- The part of a record between two positions, both in it. -/
def byteRange (data : List UInt8) (start stop : Nat) : Value :=
  jsonObject [("data", .string (base64Encode ((data.drop start).take (stop - start + 1)))),
    ("encoding", .string "base64"), ("end", jsonNat stop), ("start", jsonNat start)]

/-- The function `select_bytes`. -/
def selectBytes (data : List UInt8) (selector : Str) (limit : Nat) :
    Except EvidenceError (Option Value) :=
  match splitOnce "-" (trimStartMatches "bytes:" selector) with
  | none => .error (.invalidSelector "byte range must be bytes:START-END (inclusive)")
  | some (start, stop) => match parseUnsigned u64Bound start with
    | none => .error (.invalidSelector "invalid byte range start")
    | some start => match parseUnsigned u64Bound stop with
      | none => .error (.invalidSelector "invalid byte range end")
      | some stop =>
          if stop < start ∨ data.length ≤ start then .error .selectionNotFound
          else
            let stop := min stop (data.length - 1)
            if limit < stop - start + 1 then .error .selectionTooLarge
            else .ok (some (byteRange data start stop))

/-- The value of what an XPath selects. -/
def XPathSelection.value : XPathSelection → Except EvidenceError Value
  | boolean value => .ok (.bool value)
  | number none => .ok .null
  | number (some value) => .ok (.number value)
  | string value => .ok (.string value)
  | nodeset [] => .error .selectionNotFound
  | nodeset [value] => .ok (.string value)
  | nodeset values =>
      if 100 < values.length then .error .selectionTooLarge
      else .ok (.array (values.map .string))

/-- The function `select_xml`. -/
def selectXml (data : List UInt8) (selector : Str) : Except EvidenceError (Option Value) :=
  match fromUtf8 data with
  | none => .error (.invalidSelector (languages.utf8Error data))
  | some text => match languages.xml text with
    | .error reason => .error (.invalidSelector reason)
    | .ok evaluate => match evaluate selector with
      | .error reason => .error (.invalidSelector reason)
      | .ok selected => selected.value.map some

/-- The value that is shown of a record. -/
def explainedValue (record : EvidenceRecord) :
    Option Str → Except EvidenceError (Option Value)
  | some selector =>
      if 2048 < (utf8 selector).length then .error .selectionTooLarge
      else if startsWith "bytes:" selector then selectBytes record.data selector selectionLimit
      else if startsWith "header:" selector then
        selectHeader lib record.data selector selectionLimit
      else if "json".toList <:+: record.envelope.mediaType then
        selectJson lib languages record.data selector selectionLimit
      else if "xml".toList <:+: record.envelope.mediaType then
        selectXml languages record.data selector
      else .error (.invalidSelector (debugQuote selector ++ " is not valid for " ++
        record.envelope.mediaType))
  | none => if record.data.length ≤ inlineLimit then inlineValue lib record else .ok none

/-- The method `explain`. -/
def EvidenceStore.explain (store : EvidenceStore) (handle : Str) (selector : Option Str) :
    Except EvidenceError ExplanationEnvelope := do
  let record ← store.get lib codec handle
  let value ← explainedValue lib languages record selector
  pure
    { protocol := PROTOCOL
      kind := "explanation"
      version := VERSION
      configFingerprint := defaultConfigFingerprint lib
      handle := handle
      mediaType := record.envelope.mediaType
      selector := selector
      value := value
      bytes := record.data.length
      truncated := selector.isNone && decide (inlineLimit < record.data.length)
      exit := 0 }

/-! ### Stored records -/

/-- The largest value a selection may be shown as. A selection of bytes is
    shown in base64, which is longer than the bytes. -/
def explanationLimit : Nat := 2 * selectionLimit

/-- What a selector shows of a record is written within a bound. -/
def ShowsWithin (bound : Nat) (store : EvidenceStore) (handle selector : Str) : Prop :=
  ∀ explanation value, store.explain lib codec languages handle (some selector) = .ok explanation →
    explanation.value = some value → value.serializedSize ≤ bound

/-- What is explained without a selector is an explanation, and with one it is
    one within the limit, or an error. -/
def Explained (store : EvidenceStore) (handle : Str) : Option Str → Prop
  | none => ∃ explanation, store.explain lib codec languages handle none = .ok explanation
  | some selector => ShowsWithin lib codec languages explanationLimit store handle selector

/-- A record that is small and declared as JSON is JSON. -/
def Readable (record : EvidenceRecord) : Prop :=
  "json".toList <:+: record.envelope.mediaType → record.data.length ≤ inlineLimit →
    ∃ value, lib.parseJson record.data = .ok value

/-- A selector that is evaluated as an XPath. -/
structure IsXPath (mediaType selector : Str) : Prop where
  short : (utf8 selector).length ≤ 2048
  notBytes : startsWith "bytes:" selector = false
  notHeader : startsWith "header:" selector = false
  notJson : ¬ "json".toList <:+: mediaType
  xml : "xml".toList <:+: mediaType

/-- The data are the text of an XML document, and the selector is an XPath. -/
def Evaluates (data : List UInt8) (selector : Str) : Prop :=
  ∃ text evaluate selected, fromUtf8 data = some text ∧ languages.xml text = .ok evaluate ∧
    evaluate selector = .ok selected

/-- An XPath that selects as much as a document holds. -/
def Unlimited (selector : Str) : Prop :=
  ∀ bound, ∃ text evaluate selected value, languages.xml text = .ok evaluate ∧
    evaluate selector = .ok selected ∧ selected.value = .ok value ∧ bound < value.serializedSize

end

/-! ### The size of a part -/

theorem utf8_length_of_ascii {s : Str} (h : ∀ c ∈ s, (String.utf8EncodeChar c).length = 1) :
    (utf8 s).length = s.length := by
  induction s with
  | nil => rfl
  | cons c s ih =>
      rw [utf8_cons, List.length_append, h c List.mem_cons_self,
        ih (fun d hd => h d (List.mem_cons_of_mem c hd)), List.length_cons]
      omega

theorem quote_length_of_plain {s : Str}
    (h : ∀ c ∈ s, escapeChar c = [c] ∧ (String.utf8EncodeChar c).length = 1) :
    (utf8 (quote s)).length = s.length + 2 := by
  have hflat : s.flatMap escapeChar = s := by
    rw [List.flatMap_congr (fun c hc => (h c hc).1), List.flatMap_singleton']
  have hlength : (utf8 s).length = s.length := utf8_length_of_ascii (fun c hc => (h c hc).2)
  have hparts : utf8 (quote s) = utf8 "\"" ++ (utf8 s ++ utf8 "\"") := by
    rw [← utf8_append, ← utf8_append, quote, hflat]
    rfl
  have hmark : (utf8 "\"").length = 1 := by decide
  rw [hparts, List.length_append, List.length_append, hlength, hmark]
  omega

theorem isDigit_ascii {c : Char} (h : c.isDigit = true) : (String.utf8EncodeChar c).length = 1 := by
  have hle : c.val ≤ 127 := by
    unfold Char.isDigit at h
    rw [Bool.and_eq_true, decide_eq_true_eq, decide_eq_true_eq] at h
    have hbound := h.2
    rw [UInt32.le_iff_toNat_le] at hbound ⊢
    exact Nat.le_trans hbound (by decide)
  rw [String.length_utf8EncodeChar]
  exact if_pos hle

theorem decimal_length_le {n : Nat} (h : n < u64Bound) : (utf8 (decimal n)).length ≤ 20 := by
  rw [utf8_length_of_ascii (fun c hc => isDigit_ascii (isDigit_of_mem_decimal hc)), decimal,
    Nat.length_toDigits_le_iff (by omega) (by omega)]
  unfold u64Bound at h
  omega

theorem base64Encode_length (data : List UInt8) :
    (base64Encode data).length = 4 * ((data.length + 2) / 3) := by
  induction data using base64Encode.induct with
  | case1 => rfl
  | case2 a => simp only [base64Encode, List.length_cons, List.length_nil]
  | case3 a b => simp only [base64Encode, List.length_cons, List.length_nil]
  | case4 a b c rest ih =>
      simp only [base64Encode, List.length_cons, ih]
      omega

theorem base64Char_mem (n : Nat) : base64Char n ∈ '=' :: base64Alphabet := by
  refine List.mem_cons_of_mem _ ?_
  unfold base64Char
  rw [List.getD_eq_getElem?_getD]
  cases hn : base64Alphabet[n]? with
  | none => decide
  | some c => exact List.mem_of_getElem? hn

/-- The characters of base64. -/
theorem mem_base64Encode {data : List UInt8} {c : Char} (h : c ∈ base64Encode data) :
    c ∈ '=' :: base64Alphabet := by
  -- By the groups of the encoder; a pad is the one character outside the alphabet.
  induction data using base64Encode.induct with
  | case1 => exact absurd h List.not_mem_nil
  | case2 a =>
      simp only [base64Encode, List.mem_cons, List.not_mem_nil, or_false, or_self] at h
      rcases h with rfl | rfl | rfl
      · exact base64Char_mem _
      · exact base64Char_mem _
      · exact List.mem_cons_self
  | case3 a b =>
      simp only [base64Encode, List.mem_cons, List.not_mem_nil, or_false] at h
      rcases h with rfl | rfl | rfl | rfl
      · exact base64Char_mem _
      · exact base64Char_mem _
      · exact base64Char_mem _
      · exact List.mem_cons_self
  | case4 a b c rest ih =>
      simp only [base64Encode, List.mem_cons] at h
      rcases h with rfl | rfl | rfl | rfl | h
      · exact base64Char_mem _
      · exact base64Char_mem _
      · exact base64Char_mem _
      · exact base64Char_mem _
      · exact ih h

/-- Base64 needs neither escapes nor more than one byte a character. -/
theorem base64Encode_plain {data : List UInt8} {c : Char} (h : c ∈ base64Encode data) :
    escapeChar c = [c] ∧ (String.utf8EncodeChar c).length = 1 := by
  have hall : ('=' :: base64Alphabet).all (fun c => escapeChar c == [c] &&
      (String.utf8EncodeChar c).length == 1) = true := by decide +kernel
  have hplain := List.all_eq_true.mp hall c (mem_base64Encode h)
  rw [Bool.and_eq_true, beq_iff_eq, beq_iff_eq] at hplain
  exact hplain

/-- A range of bytes is shown in two bytes for each at most, and a frame. -/
theorem byteRange_size {data : List UInt8} {start stop limit : Nat} (hstart : start < u64Bound)
    (hstop : stop < u64Bound) (hlimit : stop - start + 1 ≤ limit) :
    (byteRange data start stop).serializedSize ≤ 4 * ((limit + 2) / 3) + 100 := by
  -- The text around the data and the two numbers has a fixed length.
  have hparts : (byteRange data start stop).render =
      "\x7b\"data\":".toList ++ (quote (base64Encode ((data.drop start).take (stop - start + 1))) ++
        (",\"encoding\":\"base64\",\"end\":".toList ++ (decimal stop ++
          (",\"start\":".toList ++ (decimal start ++ "\x7d".toList))))) := by
    simp only [byteRange, jsonObject, List.map_cons, List.map_nil, Value.render,
      Value.renderMembers, jsonNat, Number.text, List.append_assoc, List.cons_append]
    rfl
  have hdata := quote_length_of_plain (fun c hc =>
    @base64Encode_plain ((data.drop start).take (stop - start + 1)) c hc)
  have htake : ((data.drop start).take (stop - start + 1)).length ≤ limit := by
    rw [List.length_take]
    omega
  have hhead : (utf8 "\x7b\"data\":").length = 8 := by decide
  have hmiddle : (utf8 ",\"encoding\":\"base64\",\"end\":").length = 27 := by decide
  have hlast : (utf8 ",\"start\":").length = 9 := by decide
  have hclose : (utf8 "\x7d").length = 1 := by decide
  -- Each number has at most twenty digits.
  have hdigits := decimal_length_le hstart
  have hdigits' := decimal_length_le hstop
  rw [base64Encode_length] at hdata
  unfold Value.serializedSize
  simp only [hparts, utf8_append, List.length_append, hdata, hhead, hmiddle, hlast, hclose]
  omega

/-! ### Selectors -/

section

variable {lib : Crates} {codec : Codec} {languages : Selectors} {data : List UInt8} {selector : Str}
  {value : Value} {limit : Nat}

theorem boundedSelection_within {selected : Value}
    (h : boundedSelection selected limit = .ok (some value)) : value.serializedSize ≤ limit := by
  unfold boundedSelection at h
  by_cases hlarge : limit < selected.serializedSize
  · rw [if_pos hlarge] at h
    cases h
  · rw [if_neg hlarge] at h
    cases h
    exact Nat.le_of_not_lt hlarge

theorem selectJson_within (h : selectJson lib languages data selector limit = .ok (some value)) :
    value.serializedSize ≤ limit := by
  unfold selectJson at h
  rcases except_bind_ok.mp h with ⟨document, _, h⟩
  -- A pointer selects one value of the document.
  by_cases hpointer : startsWith "/" selector ∨ selector = []
  · rw [if_pos hpointer] at h
    cases hselected : document.pointer selector with
    | none =>
        rw [hselected] at h
        cases h
    | some selected =>
        rw [hselected] at h
        exact boundedSelection_within h
  rw [if_neg hpointer] at h
  by_cases hdollar : ¬ startsWith "$" selector
  · rw [if_pos hdollar] at h
    cases h
  rw [if_neg hdollar] at h
  -- A query may select none, one or several nodes; each selection is measured.
  cases hquery : languages.jsonPath selector with
  | error reason =>
      rw [hquery] at h
      cases h
  | ok query =>
      rw [hquery] at h
      dsimp only at h
      rcases hnodes : query document with _ | ⟨node, _ | ⟨node', nodes⟩⟩
      · rw [hnodes] at h
        cases h
      · rw [hnodes] at h
        exact boundedSelection_within h
      · rw [hnodes] at h
        dsimp only at h
        by_cases hmany : 100 < (node :: node' :: nodes).length
        · rw [if_pos hmany] at h
          cases h
        · rw [if_neg hmany] at h
          exact boundedSelection_within h

theorem selectHeader_within (h : selectHeader lib data selector limit = .ok (some value)) :
    value.serializedSize ≤ limit := by
  unfold selectHeader at h
  rcases except_bind_ok.mp h with ⟨document, _, h⟩
  dsimp only at h
  generalize (splitOnce ":" (trimStartMatches "header:" selector)).getD
    ("response".toList, trimStartMatches "header:" selector) = spec at h
  rcases spec with ⟨side, name⟩
  dsimp only at h
  -- The side must be one of the two, and the header must be there.
  by_cases hinvalid : name = [] ∨ ¬ oneOf ["request", "response"] side
  · rw [if_pos hinvalid] at h
    cases h
  rw [if_neg hinvalid] at h
  cases hheaders : ((document.get side).bind (Value.get · "headers")).bind Value.asObject with
  | none =>
      rw [hheaders] at h
      cases h
  | some headers =>
      rw [hheaders] at h
      dsimp only at h
      cases hfound : headers.find? (fun e => eqIgnoreCase e.1 name) with
      | none =>
          rw [hfound] at h
          cases h
      | some found =>
          rw [hfound] at h
          exact boundedSelection_within h

theorem parseUnsigned_lt {bound n : Nat} {s : Str} (h : parseUnsigned bound s = some n) :
    n < bound := by
  unfold parseUnsigned at h
  rw [Option.ite_none_right_eq_some] at h
  have h := h.2
  rw [Option.ite_none_right_eq_some] at h
  have hlt := h.1
  rwa [Option.some.inj h.2] at hlt

theorem selectBytes_within (h : selectBytes data selector limit = .ok (some value)) :
    value.serializedSize ≤ 4 * ((limit + 2) / 3) + 100 := by
  unfold selectBytes at h
  cases hrange : splitOnce "-" (trimStartMatches "bytes:" selector) with
  | none =>
      rw [hrange] at h
      cases h
  | some range =>
      rcases range with ⟨first, last⟩
      rw [hrange] at h
      -- Both ends must be numbers.
      dsimp only at h
      cases hstart : parseUnsigned u64Bound first with
      | none =>
          rw [hstart] at h
          cases h
      | some start =>
          rw [hstart] at h
          dsimp only at h
          cases hstop : parseUnsigned u64Bound last with
          | none =>
              rw [hstop] at h
              cases h
          | some stop =>
              rw [hstop] at h
              dsimp only at h
              by_cases houtside : stop < start ∨ data.length ≤ start
              · rw [if_pos houtside] at h
                cases h
              rw [if_neg houtside] at h
              -- The bytes are few enough, and base64 makes three of them four characters.
              by_cases hlarge : limit < min stop (data.length - 1) - start + 1
              · rw [if_pos hlarge] at h
                cases h
              rw [if_neg hlarge] at h
              cases h
              have hlast := parseUnsigned_lt hstop
              exact byteRange_size (parseUnsigned_lt hstart) (by omega) (by omega)

/-- What is selected otherwise than by an XPath is within the limit. -/
theorem explainedValue_within {record : EvidenceRecord}
    (hother : ¬ IsXPath record.envelope.mediaType selector)
    (h : explainedValue lib languages record (some selector) = .ok (some value)) :
    value.serializedSize ≤ explanationLimit := by
  have hlimit : selectionLimit ≤ explanationLimit := by decide
  have hbytes : 4 * ((selectionLimit + 2) / 3) + 100 ≤ explanationLimit := by decide
  rw [explainedValue] at h
  -- The branches in the order of the code; each has a limit of its own.
  by_cases hlong : 2048 < (utf8 selector).length
  · rw [if_pos hlong] at h
    cases h
  rw [if_neg hlong] at h
  by_cases hrange : startsWith "bytes:" selector = true
  · rw [if_pos hrange] at h
    exact Nat.le_trans (selectBytes_within h) hbytes
  rw [if_neg hrange] at h
  by_cases hheader : startsWith "header:" selector = true
  · rw [if_pos hheader] at h
    exact Nat.le_trans (selectHeader_within h) hlimit
  rw [if_neg hheader] at h
  by_cases hjson : "json".toList <:+: record.envelope.mediaType
  · rw [if_pos hjson] at h
    exact Nat.le_trans (selectJson_within h) hlimit
  rw [if_neg hjson] at h
  -- XML goes to the XPath evaluator, which is what the hypothesis excludes.
  by_cases hxml : "xml".toList <:+: record.envelope.mediaType
  · exact absurd ⟨Nat.le_of_not_lt hlong, Bool.eq_false_iff.mpr hrange, Bool.eq_false_iff.mpr hheader,
      hjson, hxml⟩ hother
  · rw [if_neg hxml] at h
    cases h

theorem explainedValue_xpath {record : EvidenceRecord}
    (hxpath : IsXPath record.envelope.mediaType selector) :
    explainedValue lib languages record (some selector) =
      selectXml languages record.data selector := by
  have hshort : ¬ 2048 < (utf8 selector).length := Nat.not_lt.mpr hxpath.short
  rw [explainedValue, if_neg hshort, if_neg (Bool.eq_false_iff.mp hxpath.notBytes),
    if_neg (Bool.eq_false_iff.mp hxpath.notHeader), if_neg hxpath.notJson, if_pos hxpath.xml]

/-- What an XPath shows is what it selects of the text, if the record is one. -/
theorem selectXml_ok : selectXml languages data selector = .ok (some value) ↔
    ∃ text evaluate selected, fromUtf8 data = some text ∧ languages.xml text = .ok evaluate ∧
      evaluate selector = .ok selected ∧ selected.value = .ok value := by
  unfold selectXml
  cases htext : fromUtf8 data with
  | none => simp
  | some text =>
      cases hxml : languages.xml text with
      | error reason => simp [hxml]
      | ok evaluate =>
          cases hselected : evaluate selector with
          | error reason => simp [hxml, hselected]
          | ok selected =>
              cases hvalue : selected.value with
              | error e => simp [hxml, hselected, hvalue, Except.map]
              | ok v => simp [hxml, hselected, hvalue, Except.map]

/-- An explanation shows the value of the record. -/
theorem explain_ok {store : EvidenceStore} {handle : Str} {record : EvidenceRecord}
    (hget : store.get lib codec handle = .ok record) {selector : Option Str}
    {explanation : ExplanationEnvelope}
    (h : store.explain lib codec languages handle selector = .ok explanation) :
    explainedValue lib languages record selector = .ok explanation.value := by
  unfold EvidenceStore.explain at h
  rw [hget] at h
  rcases except_bind_ok.mp h with ⟨_, hrecord, h⟩
  cases hrecord
  rcases except_bind_ok.mp h with ⟨shown, hvalue, h⟩
  cases h
  exact hvalue

theorem explain_of_value {store : EvidenceStore} {handle : Str} {record : EvidenceRecord}
    (hget : store.get lib codec handle = .ok record) {selector : Option Str} {shown : Option Value}
    (h : explainedValue lib languages record selector = .ok shown) :
    ∃ explanation, store.explain lib codec languages handle selector = .ok explanation ∧
      explanation.value = shown := by
  unfold EvidenceStore.explain
  rw [hget]
  change ∃ explanation, (explainedValue lib languages record selector >>= _) = _ ∧ _
  rw [h]
  exact ⟨_, rfl, rfl⟩

theorem inlineValue_ok {record : EvidenceRecord} (hsmall : record.data.length ≤ inlineLimit) :
    (∃ shown, inlineValue lib record = .ok shown) ↔ Readable lib record := by
  unfold inlineValue Readable readJson
  by_cases hjson : "json".toList <:+: record.envelope.mediaType
  · rw [if_pos hjson]
    cases hparse : lib.parseJson record.data with
    | error reason =>
        refine iff_of_false (fun h => ?_) (fun h => ?_)
        · rcases h with ⟨_, h⟩
          cases h
        · rcases h hjson hsmall with ⟨_, h⟩
          cases h
    | ok parsed => exact iff_of_true ⟨some parsed, rfl⟩ (fun _ _ => ⟨parsed, rfl⟩)
  · rw [if_neg hjson]
    refine iff_of_true ?_ (fun h => absurd h hjson)
    split
    · exact ⟨_, rfl⟩
    · exact ⟨_, rfl⟩

/-- A record that is read back is shown without a selector exactly when it is
    readable. -/
theorem explained_none {store : EvidenceStore} {handle : Str} {record : EvidenceRecord}
    (hget : store.get lib codec handle = .ok record) :
    Explained lib codec languages store handle none ↔ Readable lib record := by
  have hvalue : Explained lib codec languages store handle none ↔
      ∃ shown, explainedValue lib languages record none = .ok shown := by
    constructor
    · rintro ⟨explanation, h⟩
      exact ⟨_, explain_ok hget h⟩
    · rintro ⟨shown, h⟩
      rcases explain_of_value hget h with ⟨explanation, hexplain, _⟩
      exact ⟨explanation, hexplain⟩
  rw [hvalue, explainedValue]
  by_cases hsmall : record.data.length ≤ inlineLimit
  · rw [if_pos hsmall, inlineValue_ok hsmall]
  · rw [if_neg hsmall]
    exact iff_of_true ⟨none, rfl⟩ (fun _ h => absurd h hsmall)

/-- A selector that evaluates no XPath shows what is within the limit. -/
theorem explained_some {store : EvidenceStore} {handle : Str} {record : EvidenceRecord}
    (hget : store.get lib codec handle = .ok record)
    (h : IsXPath record.envelope.mediaType selector → ¬ Evaluates languages record.data selector) :
    Explained lib codec languages store handle (some selector) := by
  intro explanation value hexplain hsame
  have hshown := explain_ok hget hexplain
  rw [hsame] at hshown
  by_cases hxpath : IsXPath record.envelope.mediaType selector
  · rw [explainedValue_xpath hxpath] at hshown
    rcases selectXml_ok.mp hshown with ⟨text, evaluate, selected, htext, hxml, hselected, _⟩
    exact absurd ⟨text, evaluate, selected, htext, hxml, hselected⟩ (h hxpath)
  · exact explainedValue_within hxpath hshown

/-! ### A store of one record -/

theorem single_noCollision (lib : Crates) (p : Put) :
    NoCollision lib ([(p, DiskAnswers.fine)].map Prod.fst) := by
  have hsame : ∀ q ∈ [(p, DiskAnswers.fine)].map Prod.fst, q = p := fun q hq =>
    List.mem_singleton.mp hq
  refine ⟨fun q hq q' hq' _ => ?_, fun q hq q' hq' _ => ?_⟩
  · rw [hsame q hq, hsame q' hq']
    exact ⟨rfl, rfl⟩
  · rw [hsame q hq, hsame q' hq']

theorem single_recorded (lib : Crates) (codec : Codec) (p : Put) :
    (p, p.envelope lib) ∈ (runPuts lib codec [(p, .fine)] .empty).1 := by
  rcases @store_fine lib codec p .empty with ⟨s, hs⟩
  rw [runPuts_ok hs]
  exact List.mem_cons_self

/-- The only record of a store is read back as it was put. -/
theorem single_get (lib : Crates) (codec : Codec) (p : Put) :
    (runPuts lib codec [(p, .fine)] .empty).2.get lib codec (p.handle lib) =
      .ok ⟨p.envelope lib, p.data⟩ := by
  have hmem := single_recorded lib codec p
  have hreturned : ∀ q ∈ (runPuts lib codec [(p, .fine)] .empty).1.map Prod.fst, q = p := by
    intro q hq
    rcases List.mem_map.mp hq with ⟨r, hr, rfl⟩
    exact List.mem_singleton.mp (mem_runPuts _ _ r hr)
  have hsubset : ∀ q ∈ (runPuts lib codec [(p, .fine)] .empty).1.map Prod.fst,
      q ∈ [(p, DiskAnswers.fine)].map Prod.fst := fun q hq =>
    List.mem_singleton.mpr (hreturned q hq)
  rcases get_of_recorded (filed_run _) (single_noCollision lib p) hsubset
    (List.mem_map_of_mem hmem) with ⟨q, hq, _, _, hget⟩
  rw [hreturned q hq] at hget
  exact hget

/-- An XPath that selects as much as a document holds shows more than any bound. -/
theorem xpath_unbounded {mediaType : Str} (hselects : Unlimited languages selector)
    (hxpath : IsXPath mediaType selector) (bound : Nat) :
    ∃ p : Put, p.mediaType = mediaType ∧
      ¬ ShowsWithin lib codec languages bound (runPuts lib codec [(p, .fine)] .empty).2 (p.handle lib)
        selector := by
  rcases hselects bound with ⟨text, evaluate, selected, value, hxml, hselected, hvalue, hlarge⟩
  -- The document is stored as a body of the media type.
  refine ⟨⟨"body", mediaType, utf8 text, false⟩, rfl, fun h => ?_⟩
  have hget := single_get lib codec ⟨"body", mediaType, utf8 text, false⟩
  have hshown : explainedValue lib languages
      ⟨Put.envelope lib ⟨"body", mediaType, utf8 text, false⟩, utf8 text⟩ (some selector) =
        .ok (some value) := by
    rw [explainedValue_xpath hxpath]
    exact selectXml_ok.mpr ⟨text, evaluate, selected, fromUtf8_utf8 _, hxml, hselected, hvalue⟩
  rcases explain_of_value hget hshown with ⟨explanation, hexplain, hsame⟩
  exact Nat.not_le.mpr hlarge (h explanation value hexplain hsame)

/-- A record that was stored is read back. Without a selector it is explained
    exactly when it is readable, and with one it is where no XPath is evaluated.
    A selector that selects as much as a document holds is within a bound for
    all records of a media type exactly when it is no XPath there. -/
theorem explained_iff {calls : List (Put × DiskAnswers)}
    (hno : NoCollision lib (calls.map Prod.fst)) {r : Put × EvidenceEnvelope}
    (hr : r ∈ (runPuts lib codec calls .empty).1) :
    (∃ record, (runPuts lib codec calls .empty).2.get lib codec r.2.handle = .ok record ∧
      record.data = r.1.data ∧
      (Explained lib codec languages (runPuts lib codec calls .empty).2 r.2.handle none ↔
        Readable lib record) ∧
      ∀ selector, (IsXPath record.envelope.mediaType selector →
          ¬ Evaluates languages record.data selector) →
        Explained lib codec languages (runPuts lib codec calls .empty).2 r.2.handle
          (some selector)) ∧
    ∀ mediaType selector, Unlimited languages selector →
      ((∃ bound, ∀ p : Put, p.mediaType = mediaType → ShowsWithin lib codec languages bound
          (runPuts lib codec [(p, .fine)] .empty).2 (p.handle lib) selector) ↔
        ¬ IsXPath mediaType selector) := by
  constructor
  -- The record of this handle is the one that was put.
  · have hsubset : ∀ p ∈ (runPuts lib codec calls .empty).1.map Prod.fst,
        p ∈ calls.map Prod.fst := by
      intro p hp
      rcases List.mem_map.mp hp with ⟨r, hr, rfl⟩
      exact mem_runPuts calls .empty r hr
    rcases get_of_recorded (filed_run calls) hno hsubset (List.mem_map_of_mem hr) with
      ⟨q, _, _, _, hget⟩
    have hhandle : r.2.handle = r.1.handle lib := by rw [envelope_run hr]; rfl
    rw [hhandle]
    exact ⟨_, hget, rfl, explained_none hget, fun selector h => explained_some hget h⟩
  · intro mediaType selector hselects
    -- What an XPath selects can be longer than any bound.
    constructor
    · rintro ⟨bound, hbound⟩ hxpath
      rcases @xpath_unbounded lib codec languages selector mediaType hselects hxpath bound with
        ⟨p, hp, hlarge⟩
      exact hlarge (hbound p hp)
    -- Any other selector is bounded by the limit of an explanation.
    · intro hother
      refine ⟨explanationLimit, fun p hp => ?_⟩
      exact explained_some (single_get lib codec p)
        (fun hxpath => absurd (hp ▸ hxpath) hother)

end

/-! ### Records of a server -/

/-- A body as a server declares it. -/
def declaredBody (mediaType text : Str) : Put := ⟨"body", mediaType, utf8 text, false⟩

/-- Query languages without queries. -/
def noSelectors : Selectors where
  jsonPath := fun _ => .error "unsupported query"
  xml := fun _ => .error "unsupported document"
  utf8Error := fun _ => "invalid utf-8 sequence"

/-- An empty record that a server has declared as JSON is not explained. -/
theorem empty_json_unexplained : ¬ Explained referenceCrates plainCodec noSelectors
    (runPuts referenceCrates plainCodec [(declaredBody "application/json" [], .fine)] .empty).2
    ((declaredBody "application/json" []).handle referenceCrates) none := by
  rw [explained_none (single_get referenceCrates plainCodec _)]
  intro h
  have hjson : "json".toList <:+: "application/json".toList := ⟨"application/", [], by decide⟩
  rcases h hjson (by decide) with ⟨value, hvalue⟩
  have herror : ∀ v, parseJsonBytes [] ≠ .ok v := by
    intro v hv
    have hnone : (parseJsonBytes []).toOption = none := by decide +kernel
    rw [hv] at hnone
    cases hnone
  exact herror value hvalue

/-- An XPath of one element, which selects its text. -/
def elementSelectors : Selectors where
  jsonPath := fun _ => .error "unsupported query"
  xml := fun text => match (stripPrefix "<a>" text).bind (stripSuffix "</a>") with
    | some inner => .ok (fun selector =>
        if selector = "/a".toList then .ok (.nodeset [inner]) else .error "unsupported query")
    | none => .error "unsupported document"
  utf8Error := fun _ => "invalid utf-8 sequence"

/-- The XPath of an element selects as much as the element holds. -/
theorem element_unlimited : Unlimited elementSelectors "/a" := by
  intro bound
  -- An element with more text than the bound.
  refine ⟨"<a>" ++ List.replicate bound 'x' ++ "</a>", fun selector =>
    if selector = "/a".toList then .ok (.nodeset [List.replicate bound 'x'])
    else .error "unsupported query", .nodeset [List.replicate bound 'x'],
    .string (List.replicate bound 'x'), ?_, if_pos rfl, rfl, ?_⟩
  · have hinner : (stripPrefix "<a>".toList ("<a>" ++ List.replicate bound 'x' ++ "</a>")).bind
        (stripSuffix "</a>") = some (List.replicate bound 'x') := by
      rw [List.append_assoc, stripPrefix_append, Option.bind_some, stripSuffix_append]
    unfold elementSelectors
    dsimp only
    rw [hinner]
  · unfold Value.serializedSize
    rw [Value.render, quote_length_of_plain, List.length_replicate]
    · omega
    · intro c hc
      rw [List.eq_of_mem_replicate hc]
      decide

/-- A body that holds an order. -/
def orderBody : Put := declaredBody "application/json" "\x7b\"id\":\"o-1\"\x7d"

/-- The store that keeps the order. -/
def orderStore : EvidenceStore := (runPuts referenceCrates plainCodec [(orderBody, .fine)] .empty).2

/-- An order is explained, and so is a place in it. The text of an element is
    not bounded. -/
theorem order_explained :
    Explained referenceCrates plainCodec elementSelectors orderStore
        (orderBody.handle referenceCrates) none ∧
      Explained referenceCrates plainCodec elementSelectors orderStore
        (orderBody.handle referenceCrates) (some "/id") ∧
      ¬ ∃ bound, ∀ p : Put, p.mediaType = "text/xml".toList →
        ShowsWithin referenceCrates plainCodec elementSelectors bound
          (runPuts referenceCrates plainCodec [(p, .fine)] .empty).2 (p.handle referenceCrates)
          "/a" := by
  have hno := single_noCollision referenceCrates orderBody
  have hr := single_recorded referenceCrates plainCodec orderBody
  have hjson : "json".toList <:+: "application/json".toList := ⟨"application/", [], by decide⟩
  rcases @explained_iff referenceCrates plainCodec elementSelectors _ hno _ hr with
    ⟨⟨record, hget, hdata, hnone, hsome⟩, hxpath⟩
  have hrecord : record = ⟨orderBody.envelope referenceCrates, orderBody.data⟩ :=
    Except.ok.inj (hget.symm.trans (single_get referenceCrates plainCodec orderBody))
  refine ⟨hnone.mpr (fun _ _ => ?_), hsome _ (fun h => ?_), fun h => ?_⟩
  · have hparse : (parseJsonBytes orderBody.data).toOption.isSome = true := by decide +kernel
    rw [hdata]
    change ∃ value, parseJsonBytes orderBody.data = .ok value
    cases hvalue : parseJsonBytes orderBody.data with
    | ok value => exact ⟨value, rfl⟩
    | error reason =>
        rw [hvalue] at hparse
        cases hparse
  · rw [hrecord] at h
    exact absurd hjson h.notJson
  · -- The selector of the element is an XPath of documents.
    refine (hxpath _ _ element_unlimited).mp h ⟨by decide, by decide, by decide, by decide, ?_⟩
    exact ⟨"text/", [], by decide⟩

end Kahea
