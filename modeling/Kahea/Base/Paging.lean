import Kahea.Base.Text

/-!
# Paging

A listing that is handed out in pages. A page begins at a cursor, holds as many
items as the limit allows, and names the cursor of the next page in decimal
when there is more. A reader starts at some cursor and follows these names
until there is none (`Enumerates`).

The pages of a listing tile it when the limit is not zero. With a limit of zero
every page is empty and names itself as the next one, and no reader of a
listing with items ever comes to an end.

## Main definitions

* `Page`, `pageAt`: One page, and the page of a listing at a cursor.
* `Enumerates`: What a reader collects who follows the pages to the end.

## Theorems

* `Enumerates.unique`: There is one such collection at most.
* `enumerates_iff`: When a reader collects the listing.
-/

namespace Kahea

section

variable {α ε : Type}

structure Page (α : Type) where
  items : List α
  next : Option Str

/-- The page of a listing at a cursor. -/
def pageAt (items : List α) (limit cursor : Nat) : Page α :=
  let last := min (cursor + limit) items.length
  { items := (items.drop cursor).take limit
    next := if last < items.length then some (decimal last) else none }

/-- The items on the pages from a cursor on, up to a page that names no next
    one. -/
inductive Enumerates (fetch : Nat → Except ε (Page α)) : Nat → List α → Prop where
  | last {cursor : Nat} {page : Page α} (hpage : fetch cursor = .ok page)
      (hnext : page.next = none) : Enumerates fetch cursor page.items
  | more {cursor next : Nat} {page : Page α} {rest : List α} (hpage : fetch cursor = .ok page)
      (hnext : page.next = some (decimal next)) (hrest : Enumerates fetch next rest) :
      Enumerates fetch cursor (page.items ++ rest)

variable {fetch : Nat → Except ε (Page α)}

/-- The pages determine what is collected. -/
theorem Enumerates.unique {cursor : Nat} {items items' : List α}
    (h : Enumerates fetch cursor items) (h' : Enumerates fetch cursor items') :
    items = items' := by
  -- By the pages: the cursor gives the page, and the page gives the next cursor.
  induction h generalizing items' with
  | last hpage hnext =>
      cases h' with
      | last hpage' _ =>
          rw [hpage] at hpage'
          cases hpage'
          rfl
      | more hpage' hnext' _ =>
          rw [hpage] at hpage'
          cases hpage'
          rw [hnext] at hnext'
          cases hnext'
  | more hpage hnext hrest ih =>
      cases h' with
      | last hpage' hnext' =>
          rw [hpage] at hpage'
          cases hpage'
          rw [hnext] at hnext'
          cases hnext'
      | more hpage' hnext' hrest' =>
          rw [hpage] at hpage'
          cases hpage'
          rw [hnext] at hnext'
          rw [ih (decimal_injective (Option.some.inj hnext') ▸ hrest')]

variable {items : List α} {limit : Nat}

/-- From any cursor the pages hold what the listing has from there on. The
    induction is on how much that is. -/
theorem enumerates_drop
    (hfetch : ∀ cursor ≤ items.length, fetch cursor = .ok (pageAt items limit cursor))
    (hlimit : 0 < limit) (left cursor : Nat) (hleft : items.length - cursor ≤ left)
    (hcursor : cursor ≤ items.length) : Enumerates fetch cursor (items.drop cursor) := by
  -- By what is left: each page but the last brings the cursor closer to the end.
  induction left generalizing cursor with
  | zero =>
      have hend : cursor = items.length := by omega
      have hpage : (pageAt items limit cursor).items = items.drop cursor := by
        simp [pageAt, hend]
      have hnone : (pageAt items limit cursor).next = none := by
        simp [pageAt, hend]
      rw [← hpage]
      exact Enumerates.last (hfetch cursor hcursor) hnone
  | succ left ih =>
      -- A full page names the next cursor, the last one names none.
      by_cases hmore : cursor + limit < items.length
      · have hnext : (pageAt items limit cursor).next = some (decimal (cursor + limit)) := by
          simp [pageAt, Nat.min_eq_left (Nat.le_of_lt hmore), hmore]
        have hrest := ih (cursor + limit) (by omega) (by omega)
        have hsplit : items.drop cursor =
            (pageAt items limit cursor).items ++ items.drop (cursor + limit) := by
          rw [← List.drop_drop]
          exact (List.take_append_drop limit (items.drop cursor)).symm
        rw [hsplit]
        exact Enumerates.more (hfetch cursor hcursor) hnext hrest
      · have hpage : (pageAt items limit cursor).items = items.drop cursor := by
          refine List.take_of_length_le ?_
          rw [List.length_drop]
          omega
        have hnone : (pageAt items limit cursor).next = none := by
          simp only [pageAt, ite_eq_right_iff]
          intro hlt
          omega
        rw [← hpage]
        exact Enumerates.last (hfetch cursor hcursor) hnone

/-- A limit of zero leads nowhere while there are items. -/
theorem not_enumerates_zero
    (hfetch : ∀ cursor ≤ items.length, fetch cursor = .ok (pageAt items 0 cursor))
    {cursor : Nat} (hcursor : cursor < items.length) (collected : List α) :
    ¬ Enumerates fetch cursor collected := by
  intro h
  induction h with
  | last hpage hnext =>
      rw [hfetch _ (Nat.le_of_lt hcursor)] at hpage
      cases hpage
      simp [pageAt] at hnext
      omega
  | more hpage hnext _ ih =>
      rw [hfetch _ (Nat.le_of_lt hcursor)] at hpage
      cases hpage
      simp only [pageAt, Nat.add_zero, Nat.min_eq_left (Nat.le_of_lt hcursor), if_pos hcursor,
        Option.some.injEq] at hnext
      exact ih (decimal_injective hnext ▸ hcursor)

/-- A reader who starts at the front collects the listing exactly when the
    limit lets through what there is. -/
theorem enumerates_iff
    (hfetch : ∀ cursor ≤ items.length, fetch cursor = .ok (pageAt items limit cursor)) :
    Enumerates fetch 0 items ↔ 0 < limit ∨ items = [] := by
  constructor
  · intro h
    rcases Nat.eq_zero_or_pos limit with hzero | hpos
    · refine Or.inr (Classical.byContradiction fun hne => ?_)
      rw [hzero] at hfetch
      exact not_enumerates_zero hfetch (List.length_pos_iff.mpr hne) items h
    · exact Or.inl hpos
  · rintro (hpos | hempty)
    · exact enumerates_drop hfetch hpos items.length 0 (Nat.le_refl _) (Nat.zero_le _)
    · subst hempty
      have hpage : (pageAt ([] : List α) limit 0).items = [] := List.take_nil
      rw [← hpage]
      exact Enumerates.last (hfetch 0 (Nat.le_refl _)) (by simp [pageAt])

end

end Kahea
