import Kahea.Base.UrlParser
import Kahea.Base.Utf8

/-!
# Queries and Path Segments

Reading a query as pairs and writing the segments of a path back, as a URL
library does.

Pairs that are appended read back as they were (`queryPairs_appendPairs`): the
encoding leaves neither separator in a name or a value, and decoding undoes it.
Segments do not. They are encoded again when they are written, percent signs
included, a segment that spells dots is left out, and the empty segments in
front of the others are not kept: `setSegments_segments` says what is left of a
list of segments.

## Main definitions

* `formDecode`, `formParse`, `Url.queryPairs`: The pairs of a query.
* `Url.pathSegments`: The segments of a path that can be written.
* `encodeSegment`, `pushSegment`, `Url.setSegments`: Writing segments.
* `keptSegments`: What is left of a list of segments.

## Theorems

* `formDecode_formEncode`: Decoding undoes the encoding.
* `queryPairs_appendPair`, `queryPairs_appendPairs`: Appended pairs are read.
* `setSegments_segments`: The segments written are the kept ones.
-/

namespace Kahea

/-! ### Form encoding -/

/-- The text of a form-encoded name or value. -/
def formDecode (s : Str) : Str :=
  fromUtf8Lossy (percentDecode (s.map (fun c => if c = '+' then ' ' else c)))

/-- One pair of a form-encoded text. -/
def formPair (s : Str) : Str × Str :=
  match splitOnce "=" s with
  | some (name, value) => (formDecode name, formDecode value)
  | none => (formDecode s, formDecode [])

/-- The pairs of a form-encoded text. -/
def formParse (s : Str) : List (Str × Str) :=
  ((s.splitOn '&').filter (fun part => !part.isEmpty)).map formPair

/-- What the encoding of a byte is: the byte itself, where it is an ASCII
    character other than a percent or plus sign, a plus sign for a space, or an
    escape. -/
theorem formEncodeByte_cases (b : UInt8) :
    (b < 128 ∧ Char.ofNat b.toNat ≠ '%' ∧ Char.ofNat b.toNat ≠ '+' ∧
      formEncodeByte b = [Char.ofNat b.toNat]) ∨
    (b = 32 ∧ formEncodeByte b = ['+']) ∨ formEncodeByte b = percentEscape b := by
  unfold formEncodeByte
  dsimp only
  split_ifs with hplain hspace
  · rw [Bool.and_eq_true, decide_eq_true_eq] at hplain
    refine Or.inl ⟨hplain.1, fun h => ?_, fun h => ?_, rfl⟩
    · rw [h] at hplain
      exact absurd hplain.2 (by decide)
    · rw [h] at hplain
      exact absurd hplain.2 (by decide)
  · have hall : ∀ n, n < 256 → Char.ofNat n = ' ' → n = 32 := by decide +kernel
    have hb := hall b.toNat b.toNat_lt (beq_iff_eq.mp hspace)
    exact Or.inr (Or.inl ⟨UInt8.toNat_inj.mp hb, rfl⟩)
  · exact Or.inr (Or.inr rfl)

/-- A decoded byte, once plus signs are spaces. -/
theorem percentDecode_formEncodeByte (b : UInt8) (rest : Str) :
    percentDecode ((formEncodeByte b).map (fun c => if c = '+' then ' ' else c) ++ rest) =
      b :: percentDecode rest := by
  rcases formEncodeByte_cases b with ⟨hlt, hpercent, hplus, h⟩ | ⟨rfl, h⟩ | h
  · rw [h, List.map_singleton, if_neg hplus, List.singleton_append,
      percentDecode_ascii _ _ hpercent, utf8EncodeChar_ofNat b hlt, List.singleton_append]
  · rw [h, List.map_singleton, if_pos rfl, List.singleton_append,
      percentDecode_ascii _ _ (by decide)]
    rfl
  · have hdigit : ∀ n, n < 16 → upperHexDigit n ≠ '+' := by decide
    have hb : b.toNat < 256 := b.toNat_lt
    have hescape : (percentEscape b).map (fun c => if c = '+' then ' ' else c) =
        percentEscape b := by
      simp only [percentEscape, List.map_cons, List.map_nil,
        if_neg (hdigit (b.toNat / 16) (by omega)), if_neg (hdigit (b.toNat % 16) (by omega)),
        if_neg (by decide : ¬ '%' = '+')]
    rw [h, hescape, percentDecode_escape]

/-- Decoding undoes the encoding. -/
@[simp] theorem formDecode_formEncode (s : Str) : formDecode (formEncode s) = s := by
  have hbytes (bytes : List UInt8) :
      percentDecode ((bytes.flatMap formEncodeByte).map (fun c => if c = '+' then ' ' else c)) =
        bytes := by
    induction bytes with
    | nil => rfl
    | cons b bytes ih =>
        rw [List.flatMap_cons, List.map_append, percentDecode_formEncodeByte, ih]
  rw [formDecode, formEncode, hbytes, fromUtf8Lossy_utf8]

/-- The encoding has no separator in it. -/
theorem not_mem_formEncode {s : Str} {c : Char} (hc : c = '&' ∨ c = '=') : c ∉ formEncode s := by
  intro hmem
  rcases List.mem_flatMap.mp hmem with ⟨b, _, hb⟩
  have hall : ∀ n, n < 256 → '&' ∉ formEncodeByte n.toUInt8 ∧ '=' ∉ formEncodeByte n.toUInt8 := by
    decide +kernel
  have hbyte := hall b.toNat b.toNat_lt
  have hsame : b.toNat.toUInt8 = b := UInt8.ofNat_toNat
  rw [hsame] at hbyte
  rcases hc with rfl | rfl
  · exact hbyte.1 hb
  · exact hbyte.2 hb

/-- An encoded pair is read as the pair. -/
theorem formPair_encoded (name value : Str) :
    formPair (formEncode name ++ '=' :: formEncode value) = (name, value) := by
  have hsplit : splitOnce "=".toList (formEncode name ++ '=' :: formEncode value) =
      some (formEncode name, formEncode value) :=
    splitOnce_singleton (not_mem_formEncode (Or.inr rfl)) _
  rw [formPair, hsplit]
  simp only [formDecode_formEncode]

theorem formParse_encoded (name value : Str) :
    formParse (formEncode name ++ '=' :: formEncode value) = [(name, value)] := by
  have hamp : '&' ∉ formEncode name ++ '=' :: formEncode value := by
    rw [List.mem_append, List.mem_cons, not_or, not_or]
    exact ⟨not_mem_formEncode (Or.inl rfl), by decide, not_mem_formEncode (Or.inl rfl)⟩
  have hpart : (!(formEncode name ++ '=' :: formEncode value).isEmpty) = true := by
    cases formEncode name <;> rfl
  rw [formParse, List.splitOn_eq_singleton hamp]
  simp only [List.filter_cons, hpart, if_true, List.filter_nil, List.map_singleton,
    formPair_encoded]

theorem formParse_append (s t : Str) :
    formParse (s ++ '&' :: t) = formParse s ++ formParse t := by
  rw [formParse, List.splitOn_append_cons_self, List.filter_append, List.map_append]
  rfl

namespace Url

/-- The pairs of the query. -/
def queryPairs (u : Url) : List (Str × Str) := formParse (u.query.getD [])

theorem queryPairs_appendPair (u : Url) (name value : Str) :
    (u.appendPair name value).queryPairs = u.queryPairs ++ [(name, value)] := by
  unfold queryPairs appendPair
  cases hq : u.query with
  | none => exact formParse_encoded name value
  | some q =>
      cases q with
      | nil => exact formParse_encoded name value
      | cons c q =>
          simp only [Option.getD_some, formParse_append, formParse_encoded]

/-- Appended pairs are read after those that were there. -/
theorem queryPairs_appendPairs (u : Url) (pairs : List (Str × Str)) :
    (u.appendPairs pairs).queryPairs = u.queryPairs ++ pairs := by
  induction pairs generalizing u with
  | nil => exact (List.append_nil _).symm
  | cons p pairs ih =>
      have hstep : (u.appendPairs (p :: pairs)) = (u.appendPair p.1 p.2).appendPairs pairs := rfl
      rw [hstep, ih, queryPairs_appendPair, List.append_assoc, List.singleton_append]

/-- Appending pairs changes nothing but the query. -/
theorem appendPairs_eq (u : Url) (pairs : List (Str × Str)) :
    u.appendPairs pairs = { u with query := (u.appendPairs pairs).query } := by
  induction pairs generalizing u with
  | nil => rfl
  | cons p pairs ih => exact ih (u.appendPair p.1 p.2)

end Url

/-! ### Segments -/

/-- The characters encoded when a segment of a web URL is written. -/
def segmentSet (c : Char) : Bool := !isPathChar c || c == '%'

/-- A segment as it is written. -/
def encodeSegment (s : Str) : Str := percentEncode segmentSet s

/-- A segment that is left out when it is written. -/
def isLeftOut (s : Str) : Bool := oneOf [".", ".."] s

/-- Write one segment behind a path. The text has no tab and no line break in
    it, which would be dropped. -/
def pushSegment (path s : Str) : Str :=
  if isLeftOut s then path
  else (if path = [] ∨ 1 < path.length then path ++ ['/'] else path) ++ encodeSegment s

/-- What is left of a list of segments. -/
def keptSegments (segments : List Str) : List Str :=
  match ((segments.filter (fun s => !isLeftOut s)).map encodeSegment).dropWhile List.isEmpty with
  | [] => [[]]
  | s :: rest => s :: rest

namespace Url

/-- The segments of a path that can be written. -/
def pathSegments (u : Url) : Option (List Str) :=
  match u.path with
  | '/' :: rest => some (rest.splitOn '/')
  | _ => none

/-- The URL with its path cleared and the segments written. -/
def setSegments (u : Url) (segments : List Str) : Url :=
  { u with path := segments.foldl pushSegment ['/'] }

theorem pathSegments_eq_some {u : Url} {written : List Str} (h : u.pathSegments = some written) :
    u.segments = written := by
  unfold pathSegments at h
  split at h
  · rename_i rest hpath
    rw [Option.some.injEq] at h
    rw [segments, hpath, ← h]
    rfl
  · cases h

end Url

theorem encodeSegment_eq_nil {s : Str} (h : encodeSegment s = []) : s = [] := by
  have hdecode := percentDecode_percentEncode segmentSet (by decide) s
  rw [← encodeSegment, h] at hdecode
  cases s with
  | nil => rfl
  | cons c s =>
      rw [utf8_cons] at hdecode
      exact absurd (List.append_eq_nil_iff.mp hdecode.symm).1 (encodeChar_ne_nil c)

theorem slash_not_mem_encodeSegment (s : Str) : '/' ∉ encodeSegment s := by
  intro hmem
  exact absurd (mem_percentEncode segmentSet s '/' hmem) (by decide)

/-- An encoded byte is one character when it is left alone and longer when it
    is escaped. -/
theorem length_percentEncodeByte (set : Char → Bool) (b : UInt8) :
    1 ≤ (percentEncodeByte set b).length ∧
      ((percentEncodeByte set b).length = 1 →
        b < 128 ∧ set (Char.ofNat b.toNat) = false ∧
          percentEncodeByte set b = [Char.ofNat b.toNat]) := by
  unfold percentEncodeByte
  split_ifs with h
  · exact ⟨Nat.succ_pos 2, fun h => absurd h (by simp [percentEscape])⟩
  · rw [Bool.or_eq_true, decide_eq_true_eq, not_or, UInt8.not_le, Bool.not_eq_true] at h
    exact ⟨Nat.le_refl 1, fun _ => ⟨h.1, h.2, rfl⟩⟩

theorem length_percentEncode (set : Char → Bool) (s : Str) :
    s.length ≤ (percentEncode set s).length := by
  have hbytes (bytes : List UInt8) :
      bytes.length ≤ (bytes.flatMap (percentEncodeByte set)).length := by
    induction bytes with
    | nil => exact Nat.le_refl 0
    | cons b bytes ih =>
        have hone := (length_percentEncodeByte set b).1
        rw [List.flatMap_cons, List.length_append, List.length_cons]
        omega
  exact (length_le_utf8 s).trans (hbytes (utf8 s))

/-- A text is left alone by the encoding when none of its characters is
    escaped. -/
theorem percentEncode_eq_self {set : Char → Bool} {s : Str} :
    percentEncode set s = s ↔ ∀ c ∈ s, c.toNat < 128 ∧ set c = false := by
  induction s with
  | nil => exact iff_of_true rfl (fun _ hc => absurd hc List.not_mem_nil)
  | cons c s ih =>
      have hcons : percentEncode set (c :: s) =
          (encodeChar c).flatMap (percentEncodeByte set) ++ percentEncode set s := by
        rw [percentEncode, utf8_cons, List.flatMap_append]
        rfl
      rw [List.forall_mem_cons, ← ih, hcons]
      constructor
      · intro h
        have hlength := congrArg List.length h
        have hrest := length_percentEncode set s
        rw [List.length_append, List.length_cons] at hlength
        rcases encodeChar_eq_cons c with ⟨b, bytes, hc, _, _⟩
        have hone := length_percentEncodeByte set b
        rw [hc, List.flatMap_cons] at hlength h
        rw [List.length_append] at hlength
        -- The character is one byte, left alone.
        rcases hone.2 (by omega) with ⟨hlt, hset, hbyte⟩
        have hbytes : bytes.flatMap (percentEncodeByte set) = [] :=
          List.length_eq_zero_iff.mp (by omega)
        rw [hbytes, hbyte, List.append_nil, List.singleton_append, List.cons.injEq] at h
        have hall : ∀ n, n < 128 → (Char.ofNat n).toNat = n := by decide
        have hnat := hall b.toNat hlt
        rw [h.1] at hnat hset
        refine ⟨⟨?_, hset⟩, h.2⟩
        rw [hnat]
        exact hlt
      · rintro ⟨⟨hlt, hset⟩, hs⟩
        have hall : ∀ n, n < 128 → encodeChar (Char.ofNat n) = [n.toUInt8] := by decide
        have hc := hall c.toNat hlt
        have hbyte : percentEncodeByte set c.toNat.toUInt8 = [c] := by
          have hsmall : c.toNat.toUInt8.toNat = c.toNat := by
            exact UInt8.toNat_ofNat_of_lt' (Nat.lt_of_lt_of_le hlt (by decide))
          have hle : ¬ (128 : UInt8) ≤ c.toNat.toUInt8 := by
            rw [UInt8.le_iff_toNat_le, hsmall]
            exact Nat.not_le_of_lt hlt
          rw [percentEncodeByte, hsmall, Char.ofNat_toNat, hset, Bool.or_false,
            if_neg (by rw [decide_eq_true_eq]; exact hle)]
        rw [Char.ofNat_toNat] at hc
        rw [hc, List.flatMap_singleton, hbyte, hs, List.singleton_append]

/-- A segment is written as it is when no character of it is encoded. -/
theorem encodeSegment_eq_self {s : Str} :
    encodeSegment s = s ↔ s.all (fun c => !segmentSet c) = true := by
  rw [encodeSegment, percentEncode_eq_self, List.all_eq_true]
  constructor
  · intro h c hc
    rw [(h c hc).2]
    rfl
  · intro h c hc
    have hset : segmentSet c = false := by simpa using h c hc
    refine ⟨?_, hset⟩
    rw [segmentSet, Bool.or_eq_false_iff, Bool.not_eq_false'] at hset
    have hpath := hset.1
    simp only [isPathChar, Bool.and_eq_true, decide_eq_true_eq] at hpath
    omega

/-- Behind a path that is more than a slash every segment is written. -/
theorem foldl_pushSegment (stack segments : List Str) (h : 1 < (pathText stack).length) :
    segments.foldl pushSegment (pathText stack) =
      pathText (stack ++ (segments.filter (fun s => !isLeftOut s)).map encodeSegment) := by
  induction segments generalizing stack with
  | nil => rw [List.foldl_nil, List.filter_nil, List.map_nil, List.append_nil]
  | cons s segments ih =>
      rw [List.foldl_cons, pushSegment]
      by_cases hs : isLeftOut s = true
      · rw [if_pos hs, ih stack h, List.filter_cons_of_neg (by simpa using hs)]
      · have hpush : pathText stack ++ ['/'] ++ encodeSegment s = pathText (stack ++ [encodeSegment s]) := by
          rw [pathText_append, List.append_assoc]
          exact congrArg (pathText stack ++ ·) (List.append_nil _).symm
        have hlonger : 1 < (pathText (stack ++ [encodeSegment s])).length := by
          rw [pathText_append, List.length_append]
          omega
        rw [if_neg hs, if_pos (Or.inr h), hpush, ih _ hlonger,
          List.filter_cons_of_pos (by simpa using hs), List.map_cons, List.append_assoc,
          List.singleton_append]

/-- Behind a slash the empty segments in front are not kept. -/
theorem foldl_pushSegment_slash (segments : List Str) :
    segments.foldl pushSegment ['/'] = pathText (keptSegments segments) := by
  induction segments with
  | nil => rfl
  | cons s segments ih =>
      rw [List.foldl_cons, pushSegment]
      -- A segment of dots is left out here as well.
      by_cases hs : isLeftOut s = true
      · rw [if_pos hs, ih]
        unfold keptSegments
        rw [List.filter_cons_of_neg (by simpa using hs)]
      · rw [if_neg hs, if_neg (by decide)]
        have hkept : ((s :: segments).filter (fun s => !isLeftOut s)).map encodeSegment =
            encodeSegment s :: (segments.filter (fun s => !isLeftOut s)).map encodeSegment := by
          rw [List.filter_cons_of_pos (by simpa using hs), List.map_cons]
        -- An empty segment keeps its slash.
        cases he : encodeSegment s with
        | nil =>
            rw [List.append_nil, ih]
            unfold keptSegments
            rw [hkept, he, List.dropWhile_cons_of_pos rfl]
        | cons c e =>
            have hfirst : ['/'] ++ c :: e = pathText [c :: e] := (List.append_nil _).symm
            rw [hfirst, foldl_pushSegment [c :: e] segments (by rw [← hfirst]; simp)]
            unfold keptSegments
            rw [hkept, he, List.dropWhile_cons_of_neg (by simp)]
            rfl

theorem keptSegments_ne_nil (segments : List Str) : keptSegments segments ≠ [] := by
  unfold keptSegments
  split <;> exact List.cons_ne_nil _ _

theorem slash_not_mem_keptSegments {segments : List Str} {s : Str} (h : s ∈ keptSegments segments) :
    '/' ∉ s := by
  unfold keptSegments at h
  split at h
  · rw [List.mem_singleton.mp h]
    exact List.not_mem_nil
  · rename_i hd
    rw [← hd] at h
    rcases List.mem_map.mp ((List.dropWhile_sublist _).mem h) with ⟨t, _, rfl⟩
    exact slash_not_mem_encodeSegment t

/-- The segments written are the kept ones. -/
theorem Url.setSegments_segments (u : Url) (segments : List Str) :
    (u.setSegments segments).segments = keptSegments segments := by
  have hraw := rawSegments_pathText (keptSegments segments) (keptSegments_ne_nil segments)
    (fun _ h => slash_not_mem_keptSegments h)
  rw [Url.segments, Url.setSegments, foldl_pushSegment_slash]
  rcases hkept : keptSegments segments with _ | ⟨s, rest⟩
  · exact absurd hkept (keptSegments_ne_nil segments)
  · rw [hkept] at hraw
    exact hraw

/-- Every segment is kept when none is left out and the first is not empty. -/
theorem keptSegments_eq_map {segments : List Str} (hout : ∀ s ∈ segments, isLeftOut s = false)
    (hfirst : segments.head? = some [] → segments.length = 1) (hne : segments ≠ []) :
    keptSegments segments = segments.map encodeSegment := by
  have hall : segments.filter (fun s => !isLeftOut s) = segments :=
    List.filter_eq_self.mpr (fun s hs => by rw [hout s hs]; rfl)
  unfold keptSegments
  rw [hall]
  cases segments with
  | nil => exact absurd rfl hne
  | cons s rest =>
      by_cases hs : s = []
      · have hrest : rest = [] := by
          have hlength := hfirst (by rw [hs, List.head?_cons])
          rw [List.length_cons] at hlength
          exact List.length_eq_zero_iff.mp (by omega)
        rw [hs, hrest]
        rfl
      · have hnonempty : ¬ (encodeSegment s).isEmpty = true := fun h =>
          hs (encodeSegment_eq_nil (List.isEmpty_iff.mp h))
        rw [List.map_cons, List.dropWhile_cons_of_neg hnonempty]

/-- A list of segments that keeps its length is one that is kept, unless it is
    a single segment of dots. -/
theorem keptSegments_length {segments : List Str} (hne : segments ≠ [])
    (h : (keptSegments segments).length = segments.length) :
    (∀ s ∈ segments, isLeftOut s = false) ∧ (segments.head? = some [] → segments.length = 1) ∨
      ∃ s, segments = [s] ∧ isLeftOut s = true := by
  have hfilter : (segments.filter (fun s => !isLeftOut s)).length ≤ segments.length :=
    List.length_filter_le _ _
  unfold keptSegments at h
  split at h
  · -- Nothing but empty segments and dots.
    rcases List.length_eq_one_iff.mp h.symm with ⟨s, rfl⟩
    by_cases hs : isLeftOut s = true
    · exact Or.inr ⟨s, rfl, hs⟩
    · refine Or.inl ⟨fun t ht => ?_, fun _ => rfl⟩
      rw [List.mem_singleton.mp ht]
      exact Bool.eq_false_iff.mpr hs
  · rename_i first rest hdrop
    left
    rw [← hdrop] at h
    have hle := (List.dropWhile_sublist (l := (segments.filter (fun s => !isLeftOut s)).map
      encodeSegment) List.isEmpty).length_le
    rw [List.length_map] at hle
    have hall : ∀ s ∈ segments, (!isLeftOut s) = true :=
      List.length_filter_eq_length_iff.mp (by omega)
    refine ⟨fun s hs => by simpa using hall s hs, fun hhead => ?_⟩
    -- The first segment was dropped with the others.
    rw [List.filter_eq_self.mpr hall] at h
    cases segments with
    | nil => exact absurd rfl hne
    | cons s segments =>
        rw [List.head?_cons, Option.some.injEq] at hhead
        rw [hhead, List.map_cons, List.dropWhile_cons_of_pos rfl] at h
        have hshort := (List.dropWhile_sublist (l := segments.map encodeSegment)
          List.isEmpty).length_le
        rw [List.length_map] at hshort
        rw [h, List.length_cons] at hshort
        omega

end Kahea
