import Kahea.Base.Redact
import Kahea.Base.Utf8
import Kahea.Exec.Gate

/-!
# What Evidence Hides

How the executors keep credentials out of the evidence store: the byte strings
they replace, the JSON Pointers they blank, and the headers they show by name
only.

`Record.Free` says that a record does not contain a byte string. A record that
is JSON contains it when one of the texts the record is written with does; a
blob contains it when its bytes do; and the media type counts as well.

## Main definitions

* `secretRedactions`: What is replaced for the supplied secrets.
* `redactBytes`, `redactText`, `redactJsonPointers`: The replacements.
* `redactedHeaders`: The headers as a record shows them.
* `Record.Free`: A record without a byte string.

## Theorems

* `mem_secretRedactions`: The secrets and the strings inside them.
* `mem_texts_redactedHeaders`: The texts of shown headers.
-/

namespace Kahea

/-- What stands in place of a secret. -/
def marker : Str := "[REDACTED]"

/-- `redact_bytes`: one secret after the other. -/
def redactBytes (data : List UInt8) (secrets : List (List UInt8)) : List UInt8 :=
  redact (utf8 marker) data secrets

/-- Redaction of a text. -/
def redactText (text : Str) (secrets : List (List UInt8)) : Str :=
  fromUtf8Lossy (redactBytes (utf8 text) secrets)

mutual

/-- The string values inside a value, its member names left out. -/
def collectStringValues : Value → List Str
  | .string s => if s = [] then [] else [s]
  | .array xs => collectStringItems xs
  | .object m => collectStringMembers m
  | _ => []

/-- The texts in the items of a list. -/
def collectStringItems : List Value → List Str
  | [] => []
  | x :: xs => collectStringValues x ++ collectStringItems xs

/-- The texts in the members of an object. -/
def collectStringMembers : List (Str × Value) → List Str
  | [] => []
  | (_, v) :: m => collectStringValues v ++ collectStringMembers m

end

section

variable (lib : Crates)

/-- What one supplied secret makes the executors hide: itself, and the strings
    of the JSON document it may be. -/
def hiddenTexts (secret : Str) : List Str :=
  (if secret = [] then [] else [secret]) ++
    match lib.parseJson (utf8 secret) with
    | .ok value => collectStringValues value
    | .error _ => []

/-- All texts that are hidden for the secrets of an invocation. -/
def secretRedactions (options : InvokeOptions) : List (List UInt8) :=
  options.secrets.flatMap (fun entry => (hiddenTexts lib entry.2).map utf8)

/-- One pass of the loop over the pointers. -/
def redactPointer (state : Value × Bool) (pointer : Str) : Value × Bool :=
  match (pointerTokens pointer).bind (fun tokens => Value.replaceAt (.string marker) tokens state.1) with
  | some value => (value, true)
  | none => state

/-- What the pointers of the policy select, where the body is JSON. -/
def redactJsonPointers (data : List UInt8) (pointers : List Str) : List UInt8 :=
  if pointers.isEmpty then data
  else match lib.parseJson data with
    | .error _ => data
    | .ok value =>
        let (value, changed) := pointers.foldl redactPointer (value, false)
        if changed then utf8 value.render else data

end

/-! ### Headers -/

/-- The headers whose values are never shown. -/
def hiddenHeaders : List Str :=
  ["authorization", "proxy-authorization", "cookie", "set-cookie", "x-api-key"].map String.toList

/-- Whether the value of a header is hidden. -/
def isSensitive (configured : List Str) (h : Header) : Bool :=
  h.sensitive || configured.any (fun c => eqIgnoreCase c h.name) || hiddenHeaders.contains h.name

/-- What a record shows of a header's value. -/
def shownValue (configured : List Str) (h : Header) : Str :=
  if isSensitive configured h then marker else (headerText h.value).getD "[NON-UTF8]"

/-- The headers as a record shows them: of several values of a name the last. -/
def redactedHeaders (headers : HeaderMap) (configured : List Str) : Value :=
  .object (headers.foldl (fun shown h =>
    insert h.name (.string (shownValue configured h)) shown) [])

/-! ### Records without a secret -/

/-- No text of a value contains the byte string. -/
def Value.Free (s : List UInt8) (v : Value) : Prop := ∀ t ∈ v.texts, ¬ s <:+: utf8 t

instance (s : List UInt8) (v : Value) : Decidable (v.Free s) :=
  inferInstanceAs (Decidable (∀ t ∈ v.texts, ¬ s <:+: utf8 t))

/-- A record does not contain the byte string. -/
def Record.Free (s : List UInt8) (r : Record) : Prop :=
  ¬ s <:+: utf8 r.mediaType ∧
    match r.content with
    | .bytes data => ¬ s <:+: data
    | .json value => value.Free s

/-- Where a hidden text comes from. -/
theorem mem_secretRedactions {lib : Crates} {options : InvokeOptions} {s : List UInt8} :
    s ∈ secretRedactions lib options ↔
      ∃ entry ∈ options.secrets, ∃ text ∈ hiddenTexts lib entry.2, utf8 text = s := by
  simp only [secretRedactions, List.mem_flatMap, List.mem_map]

theorem not_infix_of_not_mem {α : Type} {s t : List α} {c : α} (hs : c ∈ s) (ht : c ∉ t) :
    ¬ s <:+: t :=
  fun h => ht (h.subset hs)

/-- A text next to shown headers is one of their names or shown values. -/
theorem mem_texts_redactedHeaders {headers : HeaderMap} {configured : List Str} {t : Str}
    (h : t ∈ (redactedHeaders headers configured).texts) :
    ∃ header ∈ headers, t = header.name ∨ t = shownValue configured header := by
  -- The members collected so far come from the headers passed so far.
  have hloop (rest : HeaderMap) (shown : List (Str × Value))
      (hshown : ∀ e ∈ shown, ∃ header ∈ headers,
        e = (header.name, .string (shownValue configured header)))
      (hrest : ∀ header ∈ rest, header ∈ headers) :
      ∀ e ∈ rest.foldl (fun shown h => insert h.name (.string (shownValue configured h)) shown) shown,
        ∃ header ∈ headers, e = (header.name, .string (shownValue configured header)) := by
    induction rest generalizing shown with
    | nil => exact hshown
    | cons header rest ih =>
        refine ih _ (fun e he => ?_) (fun x hx => hrest x (List.mem_cons_of_mem _ hx))
        rcases mem_of_mem_insert he with rfl | he
        · exact ⟨header, hrest header List.mem_cons_self, rfl⟩
        · exact hshown e he
  rw [redactedHeaders, Value.texts, Value.mem_textsMembers] at h
  rcases h with ⟨e, he, ht⟩
  rcases hloop headers [] (fun e he => absurd he List.not_mem_nil) (fun _ hx => hx) e he with
    ⟨header, hmem, rfl⟩
  refine ⟨header, hmem, ?_⟩
  rwa [Value.texts, List.mem_singleton] at ht

theorem Value.free_string {s : List UInt8} {t : Str} :
    (Value.string t).Free s ↔ ¬ s <:+: utf8 t := by
  simp only [Value.Free, Value.texts, List.mem_singleton, forall_eq]

theorem Value.free_array {s : List UInt8} {xs : List Value} :
    (Value.array xs).Free s ↔ ∀ x ∈ xs, x.Free s := by
  simp only [Value.Free, Value.texts, Value.mem_textsItems, forall_exists_index, and_imp]
  exact ⟨fun h x hx t ht => h t x hx ht, fun h t x hx ht => h x hx t ht⟩

theorem Value.free_object {s : List UInt8} {m : List (Str × Value)} :
    (Value.object m).Free s ↔ ∀ e ∈ m, ¬ s <:+: utf8 e.1 ∧ e.2.Free s := by
  simp only [Value.Free, Value.texts, Value.mem_textsMembers, forall_exists_index, and_imp]
  constructor
  · exact fun h e he => ⟨h e.1 e he (Or.inl rfl), fun t ht => h t e he (Or.inr ht)⟩
  · rintro h t e he (rfl | ht)
    · exact (h e he).1
    · exact (h e he).2 t ht

end Kahea
