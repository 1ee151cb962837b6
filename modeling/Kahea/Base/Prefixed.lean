import Kahea.Base.Text

/-!
# Length-Prefixed Parts

A list of parts written one after the other, each behind a header that says how
long it is.

A header of one width that tells the lengths apart makes the parts readable
from the front, so that the list can be read back whatever the parts contain
(`prefixed_injective`). A lead before the parts has no length of its own. It can
still be told from them when every header starts with a mark that the lead does
not contain (`lead_prefixed_injective`): the lead ends where the first mark is,
or where everything ends.

## Main definitions

* `prefixed`: Parts behind their headers.
* `SizeHeader`: A header of one width that tells the lengths below a bound apart.

## Theorems

* `prefixed_injective`: The parts are read back.
* `lead_prefixed_injective`: The lead and the parts are read back.
-/

namespace Kahea

section

variable {α : Type}

/-- Parts one after the other, each behind the header of its length. -/
def prefixed (header : Nat → List α) (parts : List (List α)) : List α :=
  parts.flatMap (fun part => header part.length ++ part)

/-- Headers of one width, different for different lengths below a bound. -/
structure SizeHeader (header : Nat → List α) (width bound : Nat) : Prop where
  width_pos : 0 < width
  length_eq : ∀ n, (header n).length = width
  injective : ∀ m n, m < bound → n < bound → header m = header n → m = n

variable {header : Nat → List α} {width bound : Nat}

/-- Parts that are all shorter than the bound are read back from the front. -/
theorem prefixed_injective (hheader : SizeHeader header width bound) {parts parts' : List (List α)}
    (hparts : ∀ part ∈ parts, part.length < bound) (hparts' : ∀ part ∈ parts', part.length < bound)
    (h : prefixed header parts = prefixed header parts') : parts = parts' := by
  induction parts generalizing parts' with
  | nil =>
      cases parts' with
      | nil => rfl
      | cons part' rest' =>
          -- A header is not empty, and nothing was written.
          have hlength := congrArg List.length h
          have hwidth := hheader.length_eq part'.length
          have hpos := hheader.width_pos
          simp only [prefixed, List.flatMap_nil, List.flatMap_cons, List.length_nil,
            List.length_append] at hlength
          omega
  | cons part rest ih =>
      cases parts' with
      | nil =>
          have hlength := congrArg List.length h
          have hwidth := hheader.length_eq part.length
          have hpos := hheader.width_pos
          simp only [prefixed, List.flatMap_nil, List.flatMap_cons, List.length_nil,
            List.length_append] at hlength
          omega
      | cons part' rest' =>
          have happend : header part.length ++ (part ++ prefixed header rest) =
              header part'.length ++ (part' ++ prefixed header rest') := by
            rw [← List.append_assoc, ← List.append_assoc]
            exact h
          have hwidth : (header part.length).length = (header part'.length).length := by
            rw [hheader.length_eq, hheader.length_eq]
          rcases List.append_inj happend hwidth with ⟨hsame, htail⟩
          have hlength : part.length = part'.length := hheader.injective _ _
            (hparts part List.mem_cons_self) (hparts' part' List.mem_cons_self) hsame
          rcases List.append_inj htail hlength with ⟨rfl, hrest⟩
          rw [ih (fun p hp => hparts p (List.mem_cons_of_mem part hp))
            (fun p hp => hparts' p (List.mem_cons_of_mem part hp)) hrest]

/-- What is there before the first mark, whatever comes after it. -/
theorem lead_marked_injective {mark : α} {lead lead' rest rest' : List α} (hlead : mark ∉ lead)
    (hlead' : mark ∉ lead') (hrest : rest = [] ∨ rest.head? = some mark)
    (hrest' : rest' = [] ∨ rest'.head? = some mark) (h : lead ++ rest = lead' ++ rest') :
    lead = lead' ∧ rest = rest' := by
  induction lead generalizing lead' with
  | nil =>
      cases lead' with
      | nil => exact ⟨rfl, h⟩
      | cons a as =>
          -- The rest would start with something that is not the mark.
          have hhead : rest.head? = some a := congrArg List.head? h
          rcases hrest with hempty | hmark
          · rw [hempty] at hhead
            cases hhead
          · have hsame : mark = a := Option.some.inj (hmark.symm.trans hhead)
            exact absurd (hsame ▸ List.mem_cons_self) hlead'
  | cons a as ih =>
      cases lead' with
      | nil =>
          have hhead : some a = rest'.head? := congrArg List.head? h
          rcases hrest' with hempty | hmark
          · rw [hempty] at hhead
            cases hhead
          · have hsame : a = mark := Option.some.inj (hhead.trans hmark)
            exact absurd (hsame ▸ List.mem_cons_self) hlead
      | cons a' as' =>
          rcases List.cons.inj h with ⟨rfl, htail⟩
          rcases ih (fun hmem => hlead (List.mem_cons_of_mem a hmem))
            (fun hmem => hlead' (List.mem_cons_of_mem a hmem)) htail with ⟨rfl, hsame⟩
          exact ⟨rfl, hsame⟩

/-- Parts whose headers start with a mark are empty or start with it. -/
theorem prefixed_head {mark : α} (hmark : ∀ n < bound, (header n).head? = some mark)
    {parts : List (List α)} (hparts : ∀ part ∈ parts, part.length < bound) :
    prefixed header parts = [] ∨ (prefixed header parts).head? = some mark := by
  cases parts with
  | nil => exact Or.inl rfl
  | cons part rest =>
      refine Or.inr ?_
      have hhead := hmark part.length (hparts part List.mem_cons_self)
      unfold prefixed
      rw [List.flatMap_cons, List.append_assoc, List.head?_append, hhead]
      rfl

/-- A lead without the mark and the parts behind it are read back. -/
theorem lead_prefixed_injective (hheader : SizeHeader header width bound) {mark : α}
    (hmark : ∀ n < bound, (header n).head? = some mark) {lead lead' : List α}
    (hlead : mark ∉ lead) (hlead' : mark ∉ lead') {parts parts' : List (List α)}
    (hparts : ∀ part ∈ parts, part.length < bound) (hparts' : ∀ part ∈ parts', part.length < bound)
    (h : lead ++ prefixed header parts = lead' ++ prefixed header parts') :
    lead = lead' ∧ parts = parts' := by
  rcases lead_marked_injective hlead hlead' (prefixed_head hmark hparts)
    (prefixed_head hmark hparts') h with ⟨hsame, htail⟩
  exact ⟨hsame, prefixed_injective hheader hparts hparts' htail⟩

end

end Kahea
