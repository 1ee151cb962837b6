import Kahea.Base.Pointer
import Kahea.Exec.Redaction

/-!
# Blanked Response Fields

What the configured JSON Pointers leave of a response body. The pointers are
applied one after another, each to the document the earlier ones have already
changed, and a pointer that finds nothing is passed over.

A pointer names a location by its tokens, so two spellings of one location are
the same here. What is said about a document is said about the value that is
rendered, or, where no pointer finds anything, about the value that was read.

## Main definitions

* `Apart`: A location that is neither listed, below a listed one nor above one.

## Theorems

* `redactPointer_comm`: The order of two pointers does not matter.
* `pointers_redacted`: What a list of pointers does to a body.
-/

namespace Kahea

/-- Neither listed, below a listed location, nor above one. -/
def Apart (pointers : List Str) (location : List Str) : Prop :=
  ∀ pointer ∈ pointers, ∀ listed, pointerTokens pointer = some listed →
    ¬ location <+: listed ∧ ¬ listed <+: location

/-- The document after one pointer. -/
def blanked (pointer : Str) (v : Value) : Value :=
  (pointerTokens pointer).elim v (fun tokens => (Value.string marker).overwrite tokens v)

theorem redactPointer_eq (v : Value) (changed : Bool) (pointer : Str) :
    redactPointer (v, changed) pointer =
      (blanked pointer v, changed || (v.pointer pointer).isSome) := by
  unfold redactPointer blanked Value.pointer
  cases htokens : pointerTokens pointer with
  | none => simp
  | some tokens =>
      rw [Option.bind_some, Option.bind_some, Value.replaceAt_eq]
      cases hv : v.descend tokens with
      | none => simp [Value.overwrite_of_descend hv]
      | some c => simp

/-- A pointer to nothing blanks nothing. -/
theorem blanked_of_pointer {pointer : Str} {v : Value} (h : v.pointer pointer = none) :
    blanked pointer v = v := by
  unfold blanked
  unfold Value.pointer at h
  cases htokens : pointerTokens pointer with
  | none => rfl
  | some tokens =>
      rw [htokens] at h
      exact Value.overwrite_of_descend h

/-- Blanking in either order gives the same. -/
theorem blanked_comm (p q : Str) (v : Value) : blanked p (blanked q v) = blanked q (blanked p v) := by
  unfold blanked
  cases pointerTokens p with
  | none => rfl
  | some tokens =>
      cases pointerTokens q with
      | none => rfl
      | some others => exact Value.overwrite_comm (Value.leaf_string marker) tokens others v

/-- The order of two pointers does not matter. -/
theorem redactPointer_comm (state : Value × Bool) (p q : Str) :
    redactPointer (redactPointer state p) q = redactPointer (redactPointer state q) p := by
  rcases state with ⟨v, changed⟩
  simp only [redactPointer_eq, blanked_comm q p, Prod.mk.injEq, true_and]
  -- A pointer that found something has set the flag; one that did not has left the document.
  by_cases hp : v.pointer p = none
  · rw [blanked_of_pointer hp, hp]
    by_cases hq : v.pointer q = none
    · simp [blanked_of_pointer hq, hp, hq]
    · simp [Option.isSome_iff_ne_none.mpr hq]
  · by_cases hq : v.pointer q = none
    · simp [blanked_of_pointer hq, hq, Option.isSome_iff_ne_none.mpr hp]
    · simp [Option.isSome_iff_ne_none.mpr hp, Option.isSome_iff_ne_none.mpr hq]

/-- Whether the location of a pointer holds the marker, or does not exist. -/
def Blank (pointer : Str) (v : Value) : Prop :=
  v.pointer pointer = none ∨ v.pointer pointer = some (.string marker)

/-- What is blanked is blank. -/
theorem blank_blanked (pointer : Str) (v : Value) : Blank pointer (blanked pointer v) := by
  unfold Blank Value.pointer blanked
  cases pointerTokens pointer with
  | none => exact Or.inl rfl
  | some tokens => exact Value.descend_overwrite_self (.string marker) tokens v

/-- And stays so. -/
theorem Blank.blanked {p : Str} {v : Value} (h : Blank p v) (q : Str) : Blank p (blanked q v) := by
  unfold Blank Value.pointer Kahea.blanked at *
  cases hp : pointerTokens p with
  | none => exact Or.inl rfl
  | some tokens =>
      cases hq : pointerTokens q with
      | none =>
          rw [hp] at h
          exact h
      | some others =>
          rw [hp] at h
          exact Value.descend_overwrite_stable (Value.leaf_string marker) others h

/-- The document after all pointers, and whether one of them found anything. -/
theorem redactPointers_spec (pointers : List Str) (v : Value) (changed : Bool) :
    ∃ w, ∃ found, pointers.foldl redactPointer (v, changed) = (w, found) ∧
      (found = false → changed = false ∧ w = v) ∧
      (∀ p ∈ pointers, Blank p w) ∧ (∀ p, Blank p v → Blank p w) ∧
      ∀ location, Apart pointers location → w.descend location = v.descend location := by
  -- By the pointers: what is blank stays blank, and a location apart from all is not touched.
  induction pointers generalizing v changed with
  | nil =>
      exact ⟨v, changed, rfl, fun h => ⟨h, rfl⟩, fun p hp => absurd hp List.not_mem_nil,
        fun p hp => hp, fun location _ => rfl⟩
  | cons p pointers ih =>
      rw [List.foldl_cons, redactPointer_eq]
      rcases ih (blanked p v) (changed || (v.pointer p).isSome) with
        ⟨w, found, hfold, hfound, hlisted, hkept, hapart⟩
      refine ⟨w, found, hfold, fun h => ?_, fun q hq => ?_, fun q hq => hkept q (hq.blanked p),
        fun location hlocation => ?_⟩
      · have hnothing := hfound h
        rw [Bool.or_eq_false_iff, Option.isSome_eq_false_iff, Option.isNone_iff_eq_none] at hnothing
        exact ⟨hnothing.1.1, hnothing.2.trans (blanked_of_pointer hnothing.1.2)⟩
      -- The pointer just blanked, or one that comes later.
      · rcases List.mem_cons.mp hq with rfl | hq
        · exact hkept q (blank_blanked q v)
        · exact hlisted q hq
      · rw [hapart location (fun q hq => hlocation q (List.mem_cons_of_mem p hq))]
        unfold blanked
        cases htokens : pointerTokens p with
        | none => rfl
        | some tokens =>
            -- The location lies neither above nor below the one blanked.
            have hfar := hlocation p List.mem_cons_self tokens htokens
            exact Value.descend_overwrite_apart (.string marker) hfar.1 hfar.2 v

section

variable (lib : Crates)

/-- What the configured pointers do to a body: a body that is no JSON document is
    left as it is. Of a document every listed pointer holds the marker or finds
    nothing, every location apart from the listed ones keeps its value, and the
    order of the pointers does not matter. -/
theorem pointers_redacted (data : List UInt8) (pointers : List Str) :
    (∀ document, lib.parseJson data = .ok document → ∃ redacted,
      (redactJsonPointers lib data pointers = utf8 redacted.render ∨
        redacted = document ∧ redactJsonPointers lib data pointers = data) ∧
      (∀ pointer ∈ pointers, redacted.pointer pointer = none ∨
        redacted.pointer pointer = some (.string "[REDACTED]")) ∧
      ∀ location, Apart pointers location →
        redacted.descend location = document.descend location) ∧
    ∀ reordered : List Str, reordered.Perm pointers →
      redactJsonPointers lib data reordered = redactJsonPointers lib data pointers := by
  constructor
  · intro document hdocument
    rcases redactPointers_spec pointers document false with
      ⟨redacted, found, hfold, hfound, hlisted, _, hapart⟩
    refine ⟨redacted, ?_, hlisted, hapart⟩
    cases pointers with
    | nil =>
        right
        exact ⟨(congrArg Prod.fst hfold).symm, rfl⟩
    | cons p pointers =>
        unfold redactJsonPointers
        rw [if_neg (by simp), hdocument]
        dsimp only
        rw [hfold]
        -- Nothing found means that the bytes are returned as they came.
        cases found with
        | true => exact Or.inl rfl
        | false => exact Or.inr ⟨(hfound rfl).2, rfl⟩
  -- The order is irrelevant because blanking commutes.
  · intro reordered hperm
    have hempty : reordered.isEmpty = pointers.isEmpty := by
      rw [Bool.eq_iff_iff, List.isEmpty_iff, List.isEmpty_iff]
      constructor
      · intro h
        exact List.perm_nil.mp (h ▸ hperm).symm
      · intro h
        exact List.perm_nil.mp (h ▸ hperm)
    have hfold (v : Value) :
        reordered.foldl redactPointer (v, false) = pointers.foldl redactPointer (v, false) :=
      hperm.foldl_eq' (fun p _ q _ state => redactPointer_comm state p q) (v, false)
    unfold redactJsonPointers
    rw [hempty]
    cases lib.parseJson data with
    | error e => rfl
    | ok v =>
        dsimp only
        rw [hfold]

end

end Kahea
