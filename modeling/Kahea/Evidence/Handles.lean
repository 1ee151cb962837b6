import Kahea.Base.Prefixed
import Kahea.Base.Utf8
import Kahea.Conformance.Generation
import Kahea.Evidence.Store
import Kahea.Mcp.Inspect
import Mathlib.Data.List.Infix

/-!
# Handles

What the hash of a handle is taken of: a tag, the kind and the parts, each part
behind the eight big-endian bytes of its length. The kind carries no length.

A part below 2^56 bytes has a length whose first byte is zero, and a kind
without NUL has no zero byte. So the kind ends where the first zero byte is, and
the parts are read back after it (`handlePreimage_injective`). Everything a
handle is made for is told apart by its kind and its parts (`Handled`), whatever
the texts and bytes in them are.

## Main definitions

* `Framable`: A kind without NUL and parts below 2^56 bytes.
* `Handled`: What a handle is made for.

## Theorems

* `beBytes_sizeHeader`, `beBytes_marked`: The header of a part.
* `handlePreimage_injective`: The kind and the parts are read back.
* `handlePreimage_unambiguous`: No two inputs share what is hashed.
-/

namespace Kahea

/-! ### The header of a part -/

theorem length_beBytes (n : Nat) : (beBytes n).length = 8 := by
  unfold beBytes
  rw [List.length_map, List.length_range]

theorem toNat_toUInt8 (n : Nat) : n.toUInt8.toNat = n % 256 := by
  rw [Nat.toUInt8_eq, UInt8.toNat_ofNat']

/-- Two 64-bit numbers with the same bytes are the same. -/
theorem beBytes_injective {m n : Nat} (hm : m < u64Bound) (hn : n < u64Bound)
    (h : beBytes m = beBytes n) : m = n := by
  have hbyte (i : Nat) (hi : i ∈ List.range 8) :
      (m >>> (8 * (7 - i))) % 256 = (n >>> (8 * (7 - i))) % 256 := by
    rw [← toNat_toUInt8, ← toNat_toUInt8, List.map_inj_left.mp h i hi]
  -- From the first byte on, each makes the numbers agree in eight bits more.
  have hstep (i : Nat) (hnext : m >>> (i + 8) = n >>> (i + 8))
      (hlast : (m >>> i) % 256 = (n >>> i) % 256) : m >>> i = n >>> i := by
    rw [Nat.shiftRight_add, Nat.shiftRight_add, Nat.shiftRight_eq_div_pow _ 8,
      Nat.shiftRight_eq_div_pow _ 8] at hnext
    omega
  have hnone {k : Nat} (hk : k < u64Bound) : k >>> 64 = 0 := by
    rw [Nat.shiftRight_eq_div_pow]
    exact Nat.div_eq_of_lt hk
  have h0 := hstep 56 ((hnone hm).trans (hnone hn).symm) (hbyte 0 (by decide))
  have h1 := hstep 48 h0 (hbyte 1 (by decide))
  have h2 := hstep 40 h1 (hbyte 2 (by decide))
  have h3 := hstep 32 h2 (hbyte 3 (by decide))
  have h4 := hstep 24 h3 (hbyte 4 (by decide))
  have h5 := hstep 16 h4 (hbyte 5 (by decide))
  have h6 := hstep 8 h5 (hbyte 6 (by decide))
  exact hstep 0 h6 (hbyte 7 (by decide))

/-- The first length whose first byte is not zero, 2^56. -/
def MARKED_BOUND : Nat := 72057594037927936

theorem beBytes_sizeHeader : SizeHeader beBytes 8 MARKED_BOUND where
  width_pos := by decide
  length_eq := length_beBytes
  injective m n hm hn h := by
    unfold MARKED_BOUND at hm hn
    refine beBytes_injective ?_ ?_ h
    · unfold u64Bound
      omega
    · unfold u64Bound
      omega

/-- The first byte of a length below the bound is zero. -/
theorem beBytes_marked (n : Nat) (hn : n < MARKED_BOUND) : (beBytes n).head? = some 0 := by
  have hfirst : n >>> 56 = 0 := by
    unfold MARKED_BOUND at hn
    omega
  change some (n >>> 56).toUInt8 = some 0
  rw [hfirst]
  rfl

/-! ### The bytes that are hashed -/

/-- Only NUL is encoded with a zero byte. -/
theorem zero_notMem_utf8 {s : Str} (h : '\x00' ∉ s) : 0 ∉ utf8 s := by
  intro hzero
  have hbytes : utf8 ['\x00'] <:+: utf8 s := (List.singleton_infix_iff 0 (utf8 s)).mpr hzero
  have hchar := (utf8_isInfix (List.cons_ne_nil _ _)).mp hbytes
  exact h ((List.singleton_infix_iff _ s).mp hchar)

/-- A kind without NUL, and parts below 2^56 bytes. -/
structure Framable (kind : Str) (parts : List (List UInt8)) : Prop where
  kind_free : '\x00' ∉ kind
  parts_short : ∀ part ∈ parts, part.length < MARKED_BOUND

/-- The kind and the parts are read back from what is hashed. -/
theorem handlePreimage_injective {kind kind' : Str} {parts parts' : List (List UInt8)}
    (hframe : Framable kind parts) (hframe' : Framable kind' parts')
    (h : handlePreimage kind parts = handlePreimage kind' parts') :
    kind = kind' ∧ parts = parts' := by
  -- The tag is the same on both sides.
  have htail : utf8 kind ++ prefixed beBytes parts = utf8 kind' ++ prefixed beBytes parts' :=
    (List.cons.inj (List.append_cancel_left h)).2
  rcases lead_prefixed_injective beBytes_sizeHeader beBytes_marked
    (zero_notMem_utf8 hframe.kind_free) (zero_notMem_utf8 hframe'.kind_free)
    hframe.parts_short hframe'.parts_short htail with ⟨hkind, hparts⟩
  exact ⟨utf8_injective hkind, hparts⟩

/-! ### What handles are made for -/

/-- What a handle is made for: the operations of an OpenAPI document, of an
    AsyncAPI document and of a session, the workflows, the cases of a campaign
    and the records of the evidence. -/
inductive Handled where
  | operation (sourceFingerprint method path operationId : Str)
  | message (sourceFingerprint : Str) (key : OperationKey)
  | session (sourceFingerprint operationId : Str)
  | workflow (sourceFingerprint workflowId : Str)
  | conformance (sourceFingerprint definition : Str) (seed index : UInt64) (planFingerprint : Str)
  | record (kind : Str) (data : List UInt8)

namespace Handled

def kind : Handled → Str
  | operation _ _ _ _ => "op"
  | message _ _ => "op"
  | session _ _ => "op"
  | workflow _ _ => "workflow"
  | conformance _ _ _ _ _ => "case"
  | record kind _ => kind

def parts : Handled → List (List UInt8)
  | operation sourceFingerprint method path operationId =>
      [utf8 sourceFingerprint, utf8 method, utf8 path, utf8 operationId]
  | message sourceFingerprint key => [utf8 sourceFingerprint, utf8 key.action,
      utf8 key.channelName, utf8 key.operationId, utf8 key.messageName]
  | session sourceFingerprint operationId => [utf8 sourceFingerprint, utf8 operationId]
  | workflow sourceFingerprint workflowId => [utf8 sourceFingerprint, utf8 workflowId]
  | conformance sourceFingerprint definition seed index planFingerprint =>
      [utf8 sourceFingerprint, utf8 definition, beBytes seed.toNat, beBytes index.toNat,
        utf8 planFingerprint]
  | record _ data => [data]

/-- The bytes the handle is the hash of. -/
def preimage (h : Handled) : List UInt8 := handlePreimage h.kind h.parts

def handle (lib : Crates) (h : Handled) : Str := shortHandle lib h.kind h.parts

/-- The parts can be read back. -/
def Bounded (h : Handled) : Prop := Framable h.kind h.parts

/-- What a handle is made for is told apart by the kind and the parts: mostly by
    the number of the parts, otherwise by the kind. -/
theorem eq_of_parts {a b : Handled} (hkind : a.kind = b.kind) (hparts : a.parts = b.parts) :
    a = b := by
  -- Two kinds whose parts could agree have different words in their handles.
  have hlength : a.parts.length = b.parts.length := congrArg List.length hparts
  have hcase : "op".toList ≠ "case".toList := by decide
  have hworkflow : "op".toList ≠ "workflow".toList := by decide
  -- By the kinds; where they differ, the number of parts or the word does.
  cases a with
  | operation fingerprint method path operationId =>
      cases b with
      | operation fingerprint' method' path' operationId' =>
          simp only [parts, List.cons.injEq, utf8_injective.eq_iff, and_true] at hparts
          rcases hparts with ⟨rfl, rfl, rfl, rfl⟩
          rfl
      | message _ _ | session _ _ | workflow _ _ | conformance _ _ _ _ _ | record _ _ =>
          exact absurd hlength (by simp [parts])
  | message fingerprint key =>
      cases b with
      | message fingerprint' key' =>
          simp only [parts, List.cons.injEq, utf8_injective.eq_iff, and_true] at hparts
          cases key
          cases key'
          rcases hparts with ⟨rfl, rfl, rfl, rfl, rfl⟩
          rfl
      | conformance _ _ _ _ _ => exact absurd hkind hcase
      | operation _ _ _ _ | session _ _ | workflow _ _ | record _ _ =>
          exact absurd hlength (by simp [parts])
  | session fingerprint operationId =>
      cases b with
      | session fingerprint' operationId' =>
          simp only [parts, List.cons.injEq, utf8_injective.eq_iff, and_true] at hparts
          rcases hparts with ⟨rfl, rfl⟩
          rfl
      | workflow _ _ => exact absurd hkind hworkflow
      | operation _ _ _ _ | message _ _ | conformance _ _ _ _ _ | record _ _ =>
          exact absurd hlength (by simp [parts])
  | workflow fingerprint workflowId =>
      cases b with
      | workflow fingerprint' workflowId' =>
          simp only [parts, List.cons.injEq, utf8_injective.eq_iff, and_true] at hparts
          rcases hparts with ⟨rfl, rfl⟩
          rfl
      | session _ _ => exact absurd hkind hworkflow.symm
      | operation _ _ _ _ | message _ _ | conformance _ _ _ _ _ | record _ _ =>
          exact absurd hlength (by simp [parts])
  | conformance fingerprint definition seed index plan =>
      cases b with
      | conformance fingerprint' definition' seed' index' plan' =>
          simp only [parts, List.cons.injEq, utf8_injective.eq_iff, and_true] at hparts
          rcases hparts with ⟨rfl, rfl, hseed, hindex, rfl⟩
          -- The seed and the index are written with a fixed number of bytes.
          have hseed := UInt64.toNat_inj.mp (beBytes_injective seed.toNat_lt seed'.toNat_lt hseed)
          have hindex :=
            UInt64.toNat_inj.mp (beBytes_injective index.toNat_lt index'.toNat_lt hindex)
          rw [hseed, hindex]
      | message _ _ => exact absurd hkind hcase.symm
      | operation _ _ _ _ | session _ _ | workflow _ _ | record _ _ =>
          exact absurd hlength (by simp [parts])
  | record kind data =>
      cases b with
      | record kind' data' =>
          simp only [parts, List.cons.injEq, and_true] at hparts
          have hkind : kind = kind' := hkind
          rw [hkind, hparts]
      | operation _ _ _ _ | message _ _ | session _ _ | workflow _ _ | conformance _ _ _ _ _ =>
          exact absurd hlength (by simp [parts])

/-! ### Handles of the model -/

variable (lib : Crates)

end Handled

/-- What is hashed for a handle has one reading: two inputs with the same bytes
    have the same kind and the same parts, and what they are made for is the
    same. -/
theorem handlePreimage_unambiguous :
    (∀ (kind kind' : Str) (parts parts' : List (List UInt8)), Framable kind parts →
      Framable kind' parts' → handlePreimage kind parts = handlePreimage kind' parts' →
      kind = kind' ∧ parts = parts') ∧
    ∀ a b : Handled, a.Bounded → b.Bounded → a.preimage = b.preimage → a = b := by
  refine ⟨fun kind kind' parts parts' => handlePreimage_injective, ?_⟩
  intro a b ha hb h
  rcases handlePreimage_injective ha hb h with ⟨hkind, hparts⟩
  exact Handled.eq_of_parts hkind hparts

/-- A zero byte on the other side of a boundary is another input. -/
theorem handlePreimage_boundary :
    handlePreimage "op" [[0], []] ≠ handlePreimage "op" [[], [0]] := by
  intro h
  have hsame := (handlePreimage_unambiguous.1 "op" "op" [[0], []] [[], [0]]
    ⟨by decide, by decide⟩ ⟨by decide, by decide⟩ h).2
  exact absurd hsame (by decide)

end Kahea
