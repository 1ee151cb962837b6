import Kahea.Base.Pieces
import Kahea.Base.Utf8
import Kahea.Core.Reference
import Kahea.Plan.Body

/-!
# Multipart Framing

Reading a multipart body back.

A multipart body is a sequence of parts, each between two boundary lines, with
the name of a field, for a file its name and type, and the content. A receiver
splits the body at the delimiter, which is the boundary of the content type at
the beginning of a line, and reads the header lines of each piece.
`parseMultipart` is such a receiver, and `bodyParts` says what there is to
receive.

The boundary is a digest of the logical body, where a file stands as its path.
The content of the file has no part in it, so that a file can contain the
delimiter of the body it is sent in, or begin with the boundary. The parts come
back exactly when no content does (`multipart_framed_iff`). The names cannot
do harm, because they are without line breaks and quotes (`Part.Plain`).

## Main definitions

* `Part`: A field of a multipart body.
* `bodyParts`: The fields of a body value, with the files as they are read.
* `parseMultipart`: The receiver.

## Theorems

* `parsePart_encode`: A part is read back.
* `serializeMultipart_bytes`: What is sent.
* `multipart_framed_iff`: When the parts come back.
-/

namespace Kahea

/-! ### Parts -/

/-- A field of a multipart body: its name, for a file the name and the type of
    the file, and the content. -/
structure Part where
  name : Str
  file : Option (Str × Str)
  content : List UInt8
  deriving DecidableEq

/-- The header lines of a part, up to the line break of the last. -/
def Part.header (part : Part) : List UInt8 :=
  match part.file with
  | some (filename, contentType) =>
      utf8 ("Content-Disposition: form-data; name=\"" ++ part.name ++ "\"; filename=\"" ++
        filename ++ "\"\r\nContent-Type: " ++ contentType ++ "\r\n")
  | none => utf8 ("Content-Disposition: form-data; name=\"" ++ part.name ++ "\"\r\n")

/-- A part as it is sent. -/
def Part.encode (part : Part) : List UInt8 := part.header ++ (utf8 "\r\n" ++ part.content)

/-- A text without line breaks and quotes. -/
def PlainToken (s : Str) : Prop := '\r' ∉ s ∧ '\n' ∉ s ∧ '"' ∉ s

/-- The names and types of a part are without line breaks and quotes. -/
def Part.Plain (part : Part) : Prop :=
  PlainToken part.name ∧ ∀ file, part.file = some file → PlainToken file.1 ∧ PlainToken file.2

/-! ### The receiver -/

/-- The names in the first header line of a part. -/
def parseDisposition (line : List UInt8) : Option (List UInt8 × Option (List UInt8)) := do
  let rest ← stripPrefix (utf8 "Content-Disposition: form-data; name=\"") line
  let (name, rest) ← splitOnce (utf8 "\"") rest
  match rest with
  | [] => some (name, none)
  | rest => do
      let rest ← stripPrefix (utf8 "; filename=\"") rest
      let (filename, rest) ← splitOnce (utf8 "\"") rest
      if rest = [] then some (name, some filename) else none

/-- A part: header lines up to an empty one, and the content. -/
def parsePart (section_ : List UInt8) : Option Part := do
  let (line, rest) ← splitOnce (utf8 "\r\n") section_
  match ← parseDisposition line with
  | (name, none) => do
      let content ← stripPrefix (utf8 "\r\n") rest
      let name ← fromUtf8 name
      some ⟨name, none, content⟩
  | (name, some filename) => do
      let (line, rest) ← splitOnce (utf8 "\r\n") rest
      let contentType ← stripPrefix (utf8 "Content-Type: ") line
      let content ← stripPrefix (utf8 "\r\n") rest
      let name ← fromUtf8 name
      let filename ← fromUtf8 filename
      let contentType ← fromUtf8 contentType
      some ⟨name, some (filename, contentType), content⟩

/-- The pieces behind the delimiters: a line break and a part each, and at the
    end the two hyphens that close the body. -/
def parseSections : List (List UInt8) → Option (List Part)
  | [] => none
  | [last] => if last = utf8 "--\r\n" then some [] else none
  | piece :: rest => do
      let section_ ← stripPrefix (utf8 "\r\n") piece
      let part ← parsePart section_
      let parts ← parseSections rest
      some (part :: parts)

/-- The delimiter of a boundary: the boundary at the beginning of a line. -/
def delimiter (boundary : Str) : List UInt8 := utf8 ("\r\n--" ++ boundary)

/-- The parts of a multipart body with a boundary. The body begins a line. -/
def parseMultipart (boundary : Str) (bytes : List UInt8) : Option (List Part) :=
  match splitAll (delimiter boundary) (bytes.length + 3) (utf8 "\r\n" ++ bytes) with
  | [] :: sections => parseSections sections
  | _ => none

/-- The parts of a body with the boundary that its content type names. -/
def parseBody (mediaType : Str) (bytes : List UInt8) : Option (List Part) :=
  (stripPrefix "multipart/form-data; boundary=" mediaType).bind (parseMultipart · bytes)

/-! ### Reading a part back -/

theorem splitOnce_line {line : List UInt8} (h : 13 ∉ line) (r : List UInt8) :
    splitOnce (utf8 "\r\n") (line ++ (utf8 "\r\n" ++ r)) = some (line, r) :=
  splitOnce_of_notMem (c := 13) (t := [10]) (by decide)
    (fun hin => h (hin.subset List.mem_cons_self)) r

theorem splitOnce_quote {name : List UInt8} (h : 34 ∉ name) (r : List UInt8) :
    splitOnce (utf8 "\"") (name ++ (utf8 "\"" ++ r)) = some (name, r) :=
  splitOnce_of_notMem (c := 34) (t := []) (by decide)
    (fun hin => h (hin.subset List.mem_cons_self)) r

section

variable {name filename contentType : Str}

theorem parseDisposition_field (hname : PlainToken name) : parseDisposition
    (utf8 ("Content-Disposition: form-data; name=\"" ++ name ++ "\"")) = some (utf8 name, none) := by
  have hquote : 34 ∉ utf8 name := fun h => hname.2.2 ((mem_utf8_iff (by decide)).mp h)
  have hsplit := splitOnce_quote hquote []
  rw [List.append_nil] at hsplit
  rw [parseDisposition, utf8_append, utf8_append, List.append_assoc, stripPrefix_append, some_bind,
    hsplit]
  rfl

theorem parseDisposition_file (hname : PlainToken name) (hfilename : PlainToken filename) :
    parseDisposition (utf8 ("Content-Disposition: form-data; name=\"" ++ name ++
      "\"; filename=\"" ++ filename ++ "\"")) = some (utf8 name, some (utf8 filename)) := by
  have hquote : 34 ∉ utf8 name := fun h => hname.2.2 ((mem_utf8_iff (by decide)).mp h)
  have hquote' : 34 ∉ utf8 filename := fun h => hfilename.2.2 ((mem_utf8_iff (by decide)).mp h)
  have hsplit := splitOnce_quote hquote' []
  rw [List.append_nil] at hsplit
  have hmiddle : utf8 "\"; filename=\"" = utf8 "\"" ++ utf8 "; filename=\"" := by decide
  rw [parseDisposition]
  simp only [utf8_append, List.append_assoc]
  rw [stripPrefix_append, some_bind, hmiddle, List.append_assoc, splitOnce_quote hquote, some_bind]
  dsimp only
  have hne : utf8 "; filename=\"" ++ (utf8 filename ++ utf8 "\"") ≠ [] :=
    List.append_ne_nil_of_left_ne_nil (by decide) _
  cases hrest : utf8 "; filename=\"" ++ (utf8 filename ++ utf8 "\"") with
  | nil => exact absurd hrest hne
  | cons b rest =>
      dsimp only
      rw [← hrest, stripPrefix_append, some_bind, hsplit]
      rfl

/-- A part with plain names is read back. -/
theorem parsePart_encode {part : Part} (h : part.Plain) : parsePart part.encode = some part := by
  rcases part with ⟨name, file, content⟩
  -- A plain token has no line end in it, so it stays on the line of its header.
  have hcr {s : Str} (hs : PlainToken s) : 13 ∉ utf8 s := fun hin =>
    hs.1 ((mem_utf8_iff (by decide)).mp hin)
  have hname : PlainToken name := h.1
  -- One header line for a field, two for a file.
  cases file with
  | none =>
      have hencode : Part.encode ⟨name, none, content⟩ =
          utf8 ("Content-Disposition: form-data; name=\"" ++ name ++ "\"") ++
            (utf8 "\r\n" ++ (utf8 "\r\n" ++ content)) := by
        simp only [Part.encode, Part.header, utf8_append, List.append_assoc]
        rfl
      have hline : 13 ∉ utf8 ("Content-Disposition: form-data; name=\"" ++ name ++ "\"") := by
        simp only [utf8_append, List.mem_append, not_or]
        exact ⟨⟨by decide, hcr hname⟩, by decide⟩
      rw [hencode, parsePart, splitOnce_line hline, some_bind]
      dsimp only
      rw [parseDisposition_field hname, some_bind]
      dsimp only
      rw [stripPrefix_append, some_bind, fromUtf8_utf8, some_bind]
  | some file =>
      rcases file with ⟨filename, contentType⟩
      have hfilename : PlainToken filename := (h.2 _ rfl).1
      have htype : PlainToken contentType := (h.2 _ rfl).2
      have hencode : Part.encode ⟨name, some (filename, contentType), content⟩ =
          utf8 ("Content-Disposition: form-data; name=\"" ++ name ++ "\"; filename=\"" ++
              filename ++ "\"") ++
            (utf8 "\r\n" ++ (utf8 ("Content-Type: " ++ contentType) ++
              (utf8 "\r\n" ++ (utf8 "\r\n" ++ content)))) := by
        have hmiddle : utf8 "\"\r\nContent-Type: " =
            utf8 "\"" ++ (utf8 "\r\n" ++ utf8 "Content-Type: ") := by decide
        simp only [Part.encode, Part.header, utf8_append, List.append_assoc, hmiddle]
      have hline : 13 ∉ utf8 ("Content-Disposition: form-data; name=\"" ++ name ++
          "\"; filename=\"" ++ filename ++ "\"") := by
        simp only [utf8_append, List.mem_append, not_or]
        exact ⟨⟨⟨⟨by decide, hcr hname⟩, by decide⟩, hcr hfilename⟩, by decide⟩
      have hline' : 13 ∉ utf8 ("Content-Type: " ++ contentType) := by
        rw [utf8_append, List.mem_append, not_or]
        exact ⟨by decide, hcr htype⟩
      rw [hencode, parsePart, splitOnce_line hline, some_bind]
      dsimp only
      rw [parseDisposition_file hname hfilename, some_bind]
      dsimp only
      rw [splitOnce_line hline', some_bind]
      dsimp only
      rw [utf8_append, stripPrefix_append, some_bind, stripPrefix_append, some_bind, fromUtf8_utf8,
        some_bind, fromUtf8_utf8, some_bind, fromUtf8_utf8, some_bind]

end

/-- The content of a part that is read stands behind a line break of its
    section. -/
theorem content_suffix_of_parsePart {bytes : List UInt8} {part : Part}
    (h : parsePart bytes = some part) : utf8 "\r\n" ++ part.content <:+ bytes := by
  rw [parsePart] at h
  rcases Option.bind_eq_some_iff.mp h with ⟨⟨line, rest⟩, hline, h⟩
  have hbytes := splitOnce_eq_some _ _ _ _ hline
  rcases Option.bind_eq_some_iff.mp h with ⟨⟨name, filename⟩, _, h⟩
  -- A field has one header line, a file two.
  cases filename with
  | none =>
      rcases Option.bind_eq_some_iff.mp h with ⟨content, hcontent, h⟩
      rcases Option.bind_eq_some_iff.mp h with ⟨name, _, h⟩
      cases h
      rw [hbytes, ← (stripPrefix_eq_some _ _ _).mp hcontent]
      exact List.suffix_append _ rest
  | some filename =>
      rcases Option.bind_eq_some_iff.mp h with ⟨⟨line', rest'⟩, hline', h⟩
      have hrest := splitOnce_eq_some _ _ _ _ hline'
      rcases Option.bind_eq_some_iff.mp h with ⟨_, _, h⟩
      rcases Option.bind_eq_some_iff.mp h with ⟨content, hcontent, h⟩
      rcases Option.bind_eq_some_iff.mp h with ⟨_, _, h⟩
      rcases Option.bind_eq_some_iff.mp h with ⟨_, _, h⟩
      rcases Option.bind_eq_some_iff.mp h with ⟨_, _, h⟩
      cases h
      rw [hbytes, hrest, ← (stripPrefix_eq_some _ _ _).mp hcontent]
      exact (List.suffix_append _ rest').trans (List.suffix_append _ _)

/-! ### The delimiter -/

theorem delimiter_eq (boundary : Str) :
    delimiter boundary = 13 :: 10 :: 45 :: 45 :: utf8 boundary := by
  rw [delimiter, utf8_append]
  rfl

/-- The delimiter does not begin at a line break behind which no hyphen stands,
    nor in the line that follows. -/
theorem infix_of_line {t line r : List UInt8} (hline : 13 ∉ line) (hhead : ¬ [45] <+: line ++ r)
    (h : 13 :: 10 :: 45 :: t <:+: utf8 "\r\n" ++ (line ++ r)) : 13 :: 10 :: 45 :: t <:+: r := by
  have hbytes : utf8 "\r\n" ++ (line ++ r) = 13 :: (10 :: line ++ r) := rfl
  rw [hbytes, List.infix_cons_iff] at h
  rcases h with h | h
  · refine absurd ?_ hhead
    have hrest := (List.cons_prefix_cons.mp (List.cons_prefix_cons.mp h).2).2
    exact (List.prefix_append [45] t).trans hrest
  · refine infix_of_infix_append ?_ h
    rw [List.mem_cons, not_or]
    exact ⟨by decide, hline⟩

theorem not_hyphen_prefix {a r : List UInt8} (h : a.head? = some 67) : ¬ [45] <+: a ++ r := by
  cases a with
  | nil => cases h
  | cons c a =>
      cases h
      exact fun hpre => absurd (List.cons_prefix_cons.mp hpre).1 (by decide)

/-- A delimiter in a part with plain names is one in its content, with the line
    break before it. -/
theorem delimiter_infix_content {boundary : Str} {part : Part} (hplain : part.Plain)
    (h : delimiter boundary <:+: utf8 "\r\n" ++ part.encode) :
    delimiter boundary <:+: utf8 "\r\n" ++ part.content := by
  rcases part with ⟨name, file, content⟩
  -- No header line has a line end in it, and the delimiter begins with one.
  have hcr {s : Str} (hs : PlainToken s) : 13 ∉ utf8 s := fun hin =>
    hs.1 ((mem_utf8_iff (by decide)).mp hin)
  -- The blank line before the content does not begin a delimiter.
  have hblank : ¬ [45] <+: [] ++ (utf8 "\r\n" ++ content) := fun hpre =>
    absurd (List.cons_prefix_cons.mp hpre).1 (by decide)
  rw [delimiter_eq] at h ⊢
  cases file with
  | none =>
      have hencode : Part.encode ⟨name, none, content⟩ =
          (utf8 "Content-Disposition: form-data; name=\"" ++ (utf8 name ++ utf8 "\"")) ++
            (utf8 "\r\n" ++ ([] ++ (utf8 "\r\n" ++ content))) := by
        simp only [Part.encode, Part.header, utf8_append, List.append_assoc, List.nil_append]
        rfl
      have hline : 13 ∉ utf8 "Content-Disposition: form-data; name=\"" ++ (utf8 name ++ utf8 "\"") := by
        simp only [List.mem_append, not_or]
        exact ⟨by decide, hcr hplain.1, by decide⟩
      rw [hencode] at h
      exact infix_of_line (List.not_mem_nil) hblank
        (infix_of_line hline (by
          rw [List.append_assoc]
          exact not_hyphen_prefix (by decide)) h)
  | some file =>
      rcases file with ⟨filename, contentType⟩
      have hencode : Part.encode ⟨name, some (filename, contentType), content⟩ =
          (utf8 "Content-Disposition: form-data; name=\"" ++ (utf8 name ++
            (utf8 "\"; filename=\"" ++ (utf8 filename ++ utf8 "\"")))) ++
            (utf8 "\r\n" ++ ((utf8 "Content-Type: " ++ utf8 contentType) ++
              (utf8 "\r\n" ++ ([] ++ (utf8 "\r\n" ++ content))))) := by
        have hmiddle : utf8 "\"\r\nContent-Type: " =
            utf8 "\"" ++ (utf8 "\r\n" ++ utf8 "Content-Type: ") := by decide
        simp only [Part.encode, Part.header, utf8_append, List.append_assoc, hmiddle,
          List.nil_append]
      have hline : 13 ∉ utf8 "Content-Disposition: form-data; name=\"" ++ (utf8 name ++
            (utf8 "\"; filename=\"" ++ (utf8 filename ++ utf8 "\""))) := by
        simp only [List.mem_append, not_or]
        exact ⟨by decide, hcr hplain.1, by decide, hcr (hplain.2 _ rfl).1, by decide⟩
      have hline' : 13 ∉ utf8 "Content-Type: " ++ utf8 contentType := by
        rw [List.mem_append, not_or]
        exact ⟨by decide, hcr (hplain.2 _ rfl).2⟩
      rw [hencode] at h
      -- So the delimiter lies behind the last header line.
      refine infix_of_line List.not_mem_nil hblank (infix_of_line hline' ?_ (infix_of_line hline ?_ h))
      · rw [List.append_assoc]
        exact not_hyphen_prefix (by decide)
      · rw [List.append_assoc]
        exact not_hyphen_prefix (by decide)

/-! ### Sections -/

/-- The bytes of a body with the given parts, each written out. -/
def framed (boundary : Str) (fields : List (List UInt8)) : List UInt8 :=
  fields.flatMap (fun field => utf8 ("--" ++ boundary ++ "\r\n") ++ field ++ utf8 "\r\n") ++
    utf8 ("--" ++ boundary ++ "--\r\n")

/-- Behind a line break the body is its sections, joined by the delimiter. -/
theorem glue_framed (boundary : Str) (p : List UInt8) (fields : List (List UInt8)) :
    p ++ (utf8 "\r\n" ++ framed boundary fields) =
      glue (delimiter boundary) p
        (fields.map (fun field => utf8 "\r\n" ++ field) ++ [utf8 "--\r\n"]) := by
  have hdelimiter : delimiter boundary = utf8 "\r\n" ++ (utf8 "--" ++ utf8 boundary) := by
    rw [delimiter_eq]
    rfl
  induction fields generalizing p with
  | nil =>
      rw [framed, List.flatMap_nil, List.nil_append, List.map_nil, List.nil_append, glue, glue,
        hdelimiter, utf8_append, utf8_append]
      simp only [List.append_assoc]
  | cons field fields ih =>
      rw [List.map_cons, List.cons_append, glue, ← ih, hdelimiter, framed, framed, List.flatMap_cons,
        utf8_append, utf8_append]
      simp only [List.append_assoc]

theorem parseSections_encode {parts : List Part} (h : ∀ part ∈ parts, part.Plain) :
    parseSections (parts.map (fun part => utf8 "\r\n" ++ part.encode) ++ [utf8 "--\r\n"]) =
      some parts := by
  induction parts with
  | nil => decide
  | cons part parts ih =>
      have hrest := ih (fun q hq => h q (List.mem_cons_of_mem part hq))
      cases hsections : parts.map (fun part => utf8 "\r\n" ++ part.encode) ++ [utf8 "--\r\n"] with
      | nil => exact absurd hsections (List.append_ne_nil_of_right_ne_nil _ (List.cons_ne_nil _ _))
      | cons q qs =>
          rw [hsections] at hrest
          rw [List.map_cons, List.cons_append, hsections, parseSections, stripPrefix_append, some_bind,
            parsePart_encode (h part List.mem_cons_self), some_bind, hrest, some_bind]
          exact nofun

/-- What is read stands in the sections, behind line breaks. -/
theorem content_infix_of_parseSections {sections : List (List UInt8)} {parts : List Part}
    (h : parseSections sections = some parts) {part : Part} (hpart : part ∈ parts) :
    ∃ piece ∈ sections, utf8 "\r\n" ++ part.content <:+: piece := by
  -- By the sections, the last of which is the end of the body.
  induction sections generalizing parts with
  | nil => cases h
  | cons piece rest ih =>
      cases rest with
      | nil =>
          rw [parseSections] at h
          split_ifs at h
          cases h
          exact absurd hpart List.not_mem_nil
      | cons q qs =>
          rw [parseSections] at h
          · rcases Option.bind_eq_some_iff.mp h with ⟨bytes, hbytes, h⟩
            rcases Option.bind_eq_some_iff.mp h with ⟨first, hfirst, h⟩
            rcases Option.bind_eq_some_iff.mp h with ⟨others, hothers, h⟩
            cases h
            rcases List.mem_cons.mp hpart with rfl | hpart
            · refine ⟨piece, List.mem_cons_self, ?_⟩
              rw [(stripPrefix_eq_some _ _ _).mp hbytes]
              exact ((content_suffix_of_parsePart hfirst).trans (List.suffix_append _ bytes)).isInfix
            · rcases ih hothers hpart with ⟨found, hfound, hin⟩
              exact ⟨found, List.mem_cons_of_mem piece hfound, hin⟩
          · exact nofun

/-- The parts of a framed body come back exactly when the delimiter is in no
    content, with the line break before it. -/
theorem parseMultipart_framed {boundary : Str} (hboundary : '\r' ∉ boundary) {parts : List Part}
    (hplain : ∀ part ∈ parts, part.Plain) :
    parseMultipart boundary (framed boundary (parts.map Part.encode)) = some parts ↔
      ∀ part ∈ parts, ¬ delimiter boundary <:+: utf8 "\r\n" ++ part.content := by
  have hglue := glue_framed boundary [] (parts.map Part.encode)
  rw [List.nil_append, List.map_map] at hglue
  -- The boundary has no line end, so two delimiters cannot overlap.
  have hcr : (13 : UInt8) ∉ 10 :: 45 :: 45 :: utf8 boundary := by
    simp only [List.mem_cons, not_or]
    exact ⟨by decide, by decide, by decide, fun hin => hboundary ((mem_utf8_iff (by decide)).mp hin)⟩
  have hlength : (utf8 "\r\n" ++ framed boundary (parts.map Part.encode)).length =
      (framed boundary (parts.map Part.encode)).length + 2 := by
    rw [List.length_append, Nat.add_comm]
    rfl
  constructor
  · intro h part hpart hin
    rw [parseMultipart] at h
    -- What lies between the delimiters is free of them, and the contents lie there.
    have hfree := @splitAll_free _ _ (delimiter boundary) (by rw [delimiter_eq]; exact nofun)
      ((framed boundary (parts.map Part.encode)).length + 3)
      (utf8 "\r\n" ++ framed boundary (parts.map Part.encode))
      (by rw [hlength]; omega)
    generalize splitAll (delimiter boundary) _ _ = pieces at h hfree
    rcases pieces with _ | ⟨first, sections⟩
    · cases h
    · cases first with
      | cons b first => cases h
      | nil =>
          rcases content_infix_of_parseSections h hpart with ⟨piece, hpiece, hcontent⟩
          exact hfree piece (List.mem_cons_of_mem _ hpiece) (hin.trans hcontent)
  · intro h
    -- The other way, every piece that was glued is free of the delimiter.
    have hfree : ∀ q ∈ [] :: (parts.map ((fun field => utf8 "\r\n" ++ field) ∘ Part.encode) ++
        [utf8 "--\r\n"]), ¬ delimiter boundary <:+: q := by
      intro q hq
      rcases List.mem_cons.mp hq with rfl | hq
      · rw [delimiter_eq, List.infix_nil]
        exact nofun
      · rcases List.mem_append.mp hq with hq | hq
        · rcases List.mem_map.mp hq with ⟨part, hpart, rfl⟩
          exact fun hin => h part hpart (delimiter_infix_content (hplain part hpart) hin)
        · rw [List.mem_singleton.mp hq, delimiter_eq]
          intro hin
          -- The end of the body is shorter than a delimiter.
          have hend : utf8 "--\r\n" = [45, 45] ++ [13, 10] := by decide
          rw [hend] at hin
          have hshort := (infix_of_infix_append (by decide) hin).length_le
          simp only [List.length_cons, List.length_nil] at hshort
          omega
    have hfuel := @length_le_glue _ (delimiter boundary) []
      (by rw [delimiter_eq]; exact nofun)
      (parts.map ((fun field => utf8 "\r\n" ++ field) ∘ Part.encode) ++ [utf8 "--\r\n"])
    rw [← hglue, hlength] at hfuel
    have hsplit : splitAll (delimiter boundary)
        ((framed boundary (parts.map Part.encode)).length + 3)
        (utf8 "\r\n" ++ framed boundary (parts.map Part.encode)) =
          [] :: (parts.map ((fun field => utf8 "\r\n" ++ field) ∘ Part.encode) ++
            [utf8 "--\r\n"]) := by
      rw [hglue]
      rw [delimiter_eq] at hfree ⊢
      exact splitAll_glue hcr hfree (by omega)
    rw [parseMultipart, hsplit]
    exact parseSections_encode hplain

/-! ### What is sent -/

section

variable (world : World)

/-- The part of a field of the body value, and the events after reading it. -/
def fieldPart (past : List Event) (entry : Str × Value) : Option (Part × List Event) :=
  match fileField entry.2 with
  | some file => do
      let path ← stringField file "$file"
      let content ← (world.readFile past path).toOption
      some (⟨entry.1, some (((stringField file "filename").or (fileName path)).getD "upload.bin",
        (stringField file "content_type").getD "application/octet-stream"), content⟩,
        past ++ [.readFile path])
  | none => (scalarWire entry.2).toOption.map (fun wire => (⟨entry.1, none, utf8 wire⟩, past))

/-- The parts of the fields of a body value, the files as they are read one
    after the other. -/
def bodyParts : List Event → List (Str × Value) → Option (List Part)
  | _, [] => some []
  | past, entry :: rest => do
      let (part, past) ← fieldPart world past entry
      let parts ← bodyParts past rest
      some (part :: parts)

end

section

variable {lib : Crates} {world : World}

theorem rejectMultipartToken_ok {value field : Str} {u : Unit} :
    rejectMultipartToken value field = .ok u ↔ PlainToken value := by
  rw [rejectMultipartToken, ensure_ok, Bool.not_eq_true', List.any_eq_false]
  constructor
  · intro h
    exact ⟨fun hin => h _ hin rfl, fun hin => h _ hin rfl, fun hin => h _ hin rfl⟩
  · rintro ⟨hcr, hlf, hquote⟩ c hc
    simp only [Bool.or_eq_true, beq_iff_eq, not_or]
    refine ⟨⟨?_, ?_⟩, ?_⟩ <;> rintro rfl
    · exact hcr hc
    · exact hlf hc
    · exact hquote hc

/-- A field that is written out is a part of the body, and its names are
    plain. -/
theorem multipartField_ok {past : List Event} {entry : Str × Value} {bytes : List UInt8}
    (hname : PlainToken entry.1) (h : (multipartField world entry.1 entry.2 past).1 = .ok bytes) :
    ∃ part, fieldPart world past entry =
        some (part, past ++ (multipartField world entry.1 entry.2 past).2) ∧
      bytes = part.encode ∧ part.Plain := by
  unfold multipartField fieldPart at *
  -- A scalar field, or a file named by a descriptor.
  cases hfile : fileField entry.2 with
  | none =>
      rw [hfile] at h
      dsimp only at h ⊢
      rw [Eff.ofExcept_bind] at h ⊢
      cases hwire : scalarWire entry.2 with
      | error e =>
          rw [hwire] at h
          cases h
      | ok wire =>
          rw [hwire] at h
          cases h
          refine ⟨⟨entry.1, none, utf8 wire⟩, ?_, ?_, hname, fun _ hnone => by cases hnone⟩
          · exact congrArg some (Prod.ext rfl (List.append_nil past).symm)
          · simp only [Part.encode, Part.header, utf8_append, List.append_assoc]
            rfl
  | some file =>
      rw [hfile] at h
      dsimp only at h ⊢
      rw [Eff.ofExcept_bind] at h ⊢
      cases hpath : stringField file "$file" with
      | none =>
          rw [hpath] at h
          cases h
      | some path =>
          rw [hpath] at h
          dsimp only at h ⊢
          rw [Eff.ofExcept_bind] at h ⊢
          rw [some_bind]
          generalize ((stringField file "filename").or (fileName path)).getD "upload.bin".toList =
            filename at h ⊢
          generalize (stringField file "content_type").getD "application/octet-stream".toList =
            contentType at h ⊢
          -- Both texts of a file are checked before they are written into a header.
          cases hfilename : rejectMultipartToken filename "filename" with
          | error e =>
              rw [hfilename] at h
              cases h
          | ok u =>
              rw [hfilename] at h
              dsimp only at h ⊢
              rw [Eff.ofExcept_bind] at h ⊢
              cases htype : rejectMultipartToken contentType "file content type" with
              | error e =>
                  rw [htype] at h
                  cases h
              | ok u' =>
                  rw [htype] at h
                  dsimp only at h ⊢
                  -- The file is read, which is the one event.
                  have hreadok : ((readFile world path : Eff Event PlanError _) past).1 =
                      .ok (world.readFile past path) := rfl
                  rw [Eff.bind_of_ok hreadok] at h ⊢
                  dsimp only at h ⊢
                  rw [Eff.ofExcept_bind] at h ⊢
                  cases hcontent : world.readFile past path with
                  | error e =>
                      rw [hcontent] at h
                      cases h
                  | ok content =>
                      rw [hcontent] at h
                      cases h
                      refine ⟨⟨entry.1, some (filename, contentType), content⟩, ?_, ?_, hname, ?_⟩
                      · rfl
                      · simp only [Part.encode, Part.header, utf8_append, List.append_assoc]
                        rfl
                      · rintro _ ⟨⟩
                        exact ⟨rejectMultipartToken_ok.mp hfilename, rejectMultipartToken_ok.mp htype⟩

/-- The loop over the fields, one field at a time. -/
theorem multipartFields_ok {past : List Event} {boundary : Str} {bytes out : List UInt8}
    {entry : Str × Value} (h : (multipartFields world boundary bytes entry past).1 = .ok out) :
    ∃ part, fieldPart world past entry =
        some (part, past ++ (multipartFields world boundary bytes entry past).2) ∧
      out = bytes ++ (utf8 ("--" ++ boundary ++ "\r\n") ++ part.encode ++ utf8 "\r\n") ∧
        part.Plain := by
  unfold multipartFields at *
  rw [Eff.ofExcept_bind] at h ⊢
  -- The name is checked before the field is made.
  cases hname : rejectMultipartToken entry.1 "field name" with
  | error e =>
      rw [hname] at h
      cases h
  | ok u =>
      rw [hname] at h
      dsimp only at h ⊢
      rcases Eff.bind_ok h with ⟨field, hfield, hout⟩
      rcases multipartField_ok (rejectMultipartToken_ok.mp hname) hfield with
        ⟨part, hpart, rfl, hplain⟩
      rw [Eff.bind_of_ok hfield]
      cases hout
      refine ⟨part, ?_, ?_, hplain⟩
      · rw [hpart]
        exact congrArg (fun events => some (part, past ++ events)) (List.append_nil _).symm
      · simp only [List.append_assoc]

theorem multipartFields_foldlM {boundary : Str} {entries : List (Str × Value)} {past : List Event}
    {bytes out : List UInt8}
    (h : (entries.foldlM (multipartFields world boundary) bytes past).1 = .ok out) :
    ∃ parts, bodyParts world past entries = some parts ∧ (∀ part ∈ parts, part.Plain) ∧
      out = bytes ++ (parts.map Part.encode).flatMap
        (fun field => utf8 ("--" ++ boundary ++ "\r\n") ++ field ++ utf8 "\r\n") := by
  induction entries generalizing past bytes with
  | nil =>
      cases h
      exact ⟨[], rfl, fun _ hpart => absurd hpart List.not_mem_nil, (List.append_nil _).symm⟩
  | cons entry rest ih =>
      rw [List.foldlM_cons] at h
      rcases Eff.bind_ok h with ⟨next, hnext, hrest⟩
      rcases multipartFields_ok hnext with ⟨part, hpart, rfl, hplain⟩
      rcases ih hrest with ⟨parts, hparts, hplains, rfl⟩
      refine ⟨part :: parts, ?_, List.forall_mem_cons.mpr ⟨hplain, hplains⟩, ?_⟩
      · rw [bodyParts, hpart, some_bind]
        dsimp only
        rw [hparts, some_bind]
      · rw [List.map_cons, List.flatMap_cons, List.append_assoc]

/-- What is sent is the parts of the body, framed by the boundary that the
    media type names. -/
theorem serializeMultipart_bytes {body : Value} {past : List Event} {wire : SerializedBody}
    (h : (serializeMultipart lib world body past).1 = .ok wire) :
    ∃ object parts, body.asObject = some object ∧ bodyParts world past object = some parts ∧
      (∀ part ∈ parts, part.Plain) ∧
      wire.mediaType = "multipart/form-data; boundary=" ++ multipartBoundary lib body ∧
      wire.bytes = framed (multipartBoundary lib body) (parts.map Part.encode) := by
  unfold serializeMultipart at h
  rcases Eff.ofExcept_bind_ok h with ⟨object, hobject, h⟩
  rcases Eff.bind_ok h with ⟨bytes, hbytes, h⟩
  rcases multipartFields_foldlM hbytes with ⟨parts, hparts, hplain, rfl⟩
  cases h
  refine ⟨object, parts, ?_, hparts, hplain, rfl, rfl⟩
  cases hmembers : body.asObject with
  | none =>
      rw [hmembers] at hobject
      cases hobject
  | some members =>
      rw [hmembers] at hobject
      exact congrArg some (Except.ok.inj hobject)

theorem serializeBody_multipart (body : Value) :
    serializeBody lib world "multipart/form-data" body = serializeMultipart lib world body := by
  have hjson : ¬ ("multipart/form-data".toList = "application/json" ∨
      endsWith "+json" "multipart/form-data".toList = true) := by decide
  have htext : ¬ (startsWith "text/" "multipart/form-data".toList = true ∨
      "xml".toList <:+: "multipart/form-data".toList) := by decide
  have hform : ¬ "multipart/form-data".toList = "application/x-www-form-urlencoded" := by decide
  rw [serializeBody, if_neg hjson, if_neg htext, if_neg hform, if_pos rfl]

theorem cr_notMem_multipartBoundary (hhex : ∀ bytes, '\r' ∉ lib.blake3 bytes) (body : Value) :
    '\r' ∉ multipartBoundary lib body := by
  intro h
  rcases List.mem_append.mp h with h | h
  · exact absurd h (by decide)
  · rcases List.mem_append.mp (List.mem_of_mem_drop (List.mem_of_mem_take h)) with h | h
    · exact absurd h (by decide)
    · exact hhex _ h

/-- The parts of a multipart body come back from what is sent, and the delimiter
    is in none of them, exactly when no content contains the delimiter or begins
    with the boundary: the line break before a content would complete it. -/
theorem multipart_framed_iff {body : Value} {past : List Event} {wire : SerializedBody}
    (hhex : ∀ bytes, '\r' ∉ lib.blake3 bytes)
    (h : (serializeBody lib world "multipart/form-data" body past).1 = .ok wire) :
    (∃ parts, bodyParts world past (body.asObject.getD []) = some parts ∧
      parseBody wire.mediaType wire.bytes = some parts ∧
      ∀ part ∈ parts, ¬ delimiter (multipartBoundary lib body) <:+: part.content) ↔
    ∀ parts, bodyParts world past (body.asObject.getD []) = some parts →
      ∀ part ∈ parts, ¬ delimiter (multipartBoundary lib body) <:+: utf8 "\r\n" ++ part.content := by
  rw [serializeBody_multipart] at h
  rcases serializeMultipart_bytes h with
    ⟨object, parts, hobject, hparts, hplain, hmediaType, hbytes⟩
  -- The body is parsed by the boundary in its media type.
  have hread : parseBody wire.mediaType wire.bytes = parseMultipart (multipartBoundary lib body)
      (framed (multipartBoundary lib body) (parts.map Part.encode)) := by
    rw [parseBody, hmediaType, hbytes, stripPrefix_append, Option.bind_some]
  have hiff := parseMultipart_framed (cr_notMem_multipartBoundary hhex body) hplain
  rw [hobject, Option.getD_some, hread]
  -- The parts are those of the body, in whichever way they are given.
  constructor
  · rintro ⟨parts', hparts', hback, _⟩ parts'' hparts''
    have hsame : parts' = parts := Option.some.inj (hparts'.symm.trans hparts)
    have hsame' : parts'' = parts := Option.some.inj (hparts''.symm.trans hparts)
    subst hsame
    subst hsame'
    exact hiff.mp hback
  · intro hfree
    refine ⟨parts, hparts, hiff.mpr (hfree parts hparts), fun part hpart hin => ?_⟩
    exact hfree parts hparts part hpart (hin.trans (List.suffix_append _ _).isInfix)

end

theorem cr_notMem_blake3Hex (bytes : List UInt8) : '\r' ∉ blake3Hex bytes := by
  have hdigit : ∀ n < 16, '\r' ≠ hexDigit n := by decide
  intro h
  rcases exists_hexDigit h with ⟨n, hn, heq⟩
  exact hdigit n hn heq

/-- A form with a text and a file. -/
def noteBody : Value := jsonObject [("note", .string "hello"),
  ("table", jsonObject [("$file", .string "notes.csv"), ("content_type", .string "text/csv")])]

/-- An outside where that file has two lines. -/
def noteWorld : World :=
  { referenceWorld with readFile := fun _ _ => .ok (utf8 "a,b\r\n1,2\r\n") }

/-- What the receiver of the form should see. -/
def noteParts : List Part :=
  [⟨"note", none, utf8 "hello"⟩,
    ⟨"table", some ("notes.csv".toList, "text/csv".toList), utf8 "a,b\r\n1,2\r\n"⟩]

/-- A text and a file with line breaks come back from what is sent. -/
theorem multipart_framed_note : ∃ wire,
    (serializeBody referenceCrates noteWorld "multipart/form-data" noteBody []).1 = .ok wire ∧
      parseBody wire.mediaType wire.bytes = some noteParts ∧
      ∀ part ∈ noteParts,
        ¬ delimiter (multipartBoundary referenceCrates noteBody) <:+: part.content := by
  have hserialized : ∃ wire,
      (serializeBody referenceCrates noteWorld "multipart/form-data" noteBody []).1 = .ok wire :=
    ⟨_, rfl⟩
  rcases hserialized with ⟨wire, hwire⟩
  have hparts : bodyParts noteWorld [] (noteBody.asObject.getD []) = some noteParts := by
    decide +kernel
  -- A delimiter has a hyphen, and none of the contents has one.
  have hhyphen : '-'.toUInt8 ∈ delimiter (multipartBoundary referenceCrates noteBody) := by
    unfold delimiter
    rw [utf8_append]
    exact List.mem_append_left _ (by decide)
  have hapart : ∀ part ∈ noteParts, '-'.toUInt8 ∉ utf8 "\r\n" ++ part.content := by decide +kernel
  rcases (multipart_framed_iff cr_notMem_blake3Hex hwire).mpr (fun parts hsame part hpart hin => by
    rw [hparts, Option.some.injEq] at hsame
    subst hsame
    exact hapart part hpart (hin.subset hhyphen)) with ⟨parts, hsame, hback, hout⟩
  rw [hparts, Option.some.injEq] at hsame
  subst hsame
  exact ⟨wire, hwire, hback, hout⟩

/-- A form with an upload. -/
def uploadBody : Value := jsonObject [("file", jsonObject [("$file", .string "upload.bin")])]

/-- An outside where the file is the delimiter of the form it is uploaded in. -/
def uploadWorld : World :=
  { referenceWorld with
    readFile := fun _ _ => .ok (delimiter (multipartBoundary referenceCrates uploadBody)) }

/-- The content of the upload is taken for the end of a part. -/
theorem multipart_broken : ¬ ∀ (lib : Crates) (world : World) (body : Value) (past : List Event)
    (wire : SerializedBody), (∀ bytes, '\r' ∉ lib.blake3 bytes) →
      (serializeBody lib world "multipart/form-data" body past).1 = .ok wire →
        ∃ parts, bodyParts world past (body.asObject.getD []) = some parts ∧
          parseBody wire.mediaType wire.bytes = some parts ∧
          ∀ part ∈ parts, ¬ delimiter (multipartBoundary lib body) <:+: part.content := by
  intro h
  rcases h referenceCrates uploadWorld uploadBody [] _ cr_notMem_blake3Hex rfl with
    ⟨parts, hparts, _, hfree⟩
  have hsent : bodyParts uploadWorld [] (uploadBody.asObject.getD []) = some
      [⟨"file", some ("upload.bin".toList, "application/octet-stream".toList),
        delimiter (multipartBoundary referenceCrates uploadBody)⟩] := rfl
  have hsame := Option.some.inj (hparts.symm.trans hsent)
  subst hsame
  exact hfree _ (List.mem_singleton_self _) List.infix_rfl

end Kahea
