import Mathlib.Data.List.Nodup
import Mathlib.Data.List.Perm.Subperm
import Mathlib.Data.List.TakeWhile
import Mathlib.Logic.Relation

/-!
# Exploring a Graph

A search that takes nodes off a stack, visits each of them once and puts what
a node leads to on top, until the stack is empty or the visits run out.

Only visiting tells what a node leads to, and visiting may fail, so the graph
is the one the successful visits show (`Leads`). A search that ends has found
what is reachable from its start, and it does end when every reachable node
can be visited and there are no more of them than visits.

## Main definitions

* `explore`: The search.
* `Leads`: The graph a visit shows.

## Theorems

* `explore_sound`: What a search that ends has found.
* `explore_total`: When a search ends.
* `explore_ok_iff`: A search from one node.
-/

namespace Kahea

section

variable {α β ε : Type} [DecidableEq α]

/-- Take nodes off a stack and visit those that were not visited before, at
    most `limit` of them. -/
def explore (visit : α → Except ε (β × List α)) (full : ε) :
    Nat → List α → List α → Except ε (List (α × β))
  | limit, stack, visited =>
      match stack.dropWhile (fun node => decide (node ∈ visited)), limit with
      | [], _ => .ok []
      | _ :: _, 0 => .error full
      | node :: rest, limit + 1 =>
          match visit node with
          | .error e => .error e
          | .ok (content, next) =>
              (explore visit full limit (next ++ rest) (node :: visited)).map
                ((node, content) :: ·)

/-- The graph that visits show. -/
def Leads (visit : α → Except ε (β × List α)) (a b : α) : Prop :=
  ∃ content next, visit a = .ok (content, next) ∧ b ∈ next

variable {visit : α → Except ε (β × List α)} {full : ε}

/-- What is passed over was visited before. -/
theorem mem_of_dropWhile (visited : List α) {stack : List α} {x : α} (h : x ∈ stack) :
    x ∈ visited ∨ x ∈ stack.dropWhile (fun node => decide (node ∈ visited)) := by
  rw [← List.takeWhile_append_dropWhile (p := fun node => decide (node ∈ visited)) (l := stack),
    List.mem_append] at h
  rcases h with h | h
  · have hp := List.mem_takeWhile_imp h
    exact Or.inl (of_decide_eq_true hp)
  · exact Or.inr h

/-- The node that is visited was not visited before. -/
theorem not_mem_of_dropWhile {stack visited rest : List α} {node : α}
    (h : stack.dropWhile (fun node => decide (node ∈ visited)) = node :: rest) :
    node ∉ visited := by
  have hhead := List.head_dropWhile_not (fun node => decide (node ∈ visited)) (l := stack)
    (by rw [h]; exact List.cons_ne_nil node rest)
  simp only [h, List.head_cons, decide_eq_false_iff_not] at hhead
  exact hhead

/-- What a search that ends has found: every node once, none that was visited
    before, all that the stack and the nodes it has found lead to, and only
    what is reachable from the stack. -/
structure Explored (visit : α → Except ε (β × List α)) (limit : Nat) (stack visited : List α)
    (found : List (α × β)) : Prop where
  nodup : (found.map Prod.fst).Nodup
  fresh : ∀ a ∈ found.map Prod.fst, a ∉ visited
  bounded : found.length ≤ limit
  stacked : ∀ a ∈ stack, a ∈ visited ∨ a ∈ found.map Prod.fst
  closed : ∀ e ∈ found, ∃ next, visit e.1 = .ok (e.2, next) ∧
    ∀ b ∈ next, b ∈ visited ∨ b ∈ found.map Prod.fst
  reached : ∀ b ∈ found.map Prod.fst, ∃ a ∈ stack, Relation.ReflTransGen (Leads visit) a b

theorem explore_sound (limit : Nat) (stack visited : List α) {found : List (α × β)}
    (h : explore visit full limit stack visited = .ok found) :
    Explored visit limit stack visited found := by
  induction limit generalizing stack visited found with
  | zero =>
      unfold explore at h
      cases hstack : stack.dropWhile (fun node => decide (node ∈ visited)) with
      | nil =>
          rw [hstack] at h
          cases h
          refine ⟨List.nodup_nil, nofun, Nat.le_refl 0, fun a ha => ?_, nofun, nofun⟩
          have hmem := mem_of_dropWhile visited ha
          rw [hstack] at hmem
          exact Or.inl (hmem.resolve_right List.not_mem_nil)
      | cons node rest =>
          rw [hstack] at h
          cases h
  | succ limit ih =>
      unfold explore at h
      cases hstack : stack.dropWhile (fun node => decide (node ∈ visited)) with
      | nil =>
          rw [hstack] at h
          cases h
          refine ⟨List.nodup_nil, nofun, Nat.zero_le _, fun a ha => ?_, nofun, nofun⟩
          have hmem := mem_of_dropWhile visited ha
          rw [hstack] at hmem
          exact Or.inl (hmem.resolve_right List.not_mem_nil)
      | cons node rest =>
          rw [hstack] at h
          dsimp only at h
          cases hvisit : visit node with
          | error e =>
              rw [hvisit] at h
              cases h
          | ok shown =>
              rcases shown with ⟨content, next⟩
              rw [hvisit] at h
              dsimp only at h
              cases hrest : explore visit full limit (next ++ rest) (node :: visited) with
              | error e =>
                  rw [hrest] at h
                  cases h
              | ok more =>
                  rw [hrest] at h
                  cases h
                  have hmore := ih _ _ hrest
                  have hnode : node ∉ visited := not_mem_of_dropWhile hstack
                  -- Being visited at this point is being found from here on.
                  have hmoved : ∀ b, b ∈ node :: visited ∨ b ∈ more.map Prod.fst →
                      b ∈ visited ∨ b ∈ ((node, content) :: more).map Prod.fst := by
                    intro b hb
                    rw [List.map_cons, List.mem_cons]
                    rcases hb with hb | hb
                    · rcases List.mem_cons.mp hb with rfl | hb
                      · exact Or.inr (Or.inl rfl)
                      · exact Or.inl hb
                    · exact Or.inr (Or.inr hb)
                  have hin : node ∈ stack :=
                    (List.dropWhile_sublist _).subset (by rw [hstack]; exact List.mem_cons_self)
                  refine ⟨?_, ?_, ?_, ?_, ?_, ?_⟩
                  · rw [List.map_cons, List.nodup_cons]
                    exact ⟨fun hm => hmore.fresh node hm List.mem_cons_self, hmore.nodup⟩
                  · intro a ha
                    rw [List.map_cons, List.mem_cons] at ha
                    rcases ha with rfl | ha
                    · exact hnode
                    · exact fun hv => hmore.fresh a ha (List.mem_cons_of_mem node hv)
                  · rw [List.length_cons]
                    have := hmore.bounded
                    omega
                  · intro a ha
                    rcases mem_of_dropWhile visited ha with hv | hd
                    · exact Or.inl hv
                    · rw [hstack] at hd
                      apply hmoved
                      rcases List.mem_cons.mp hd with rfl | hd
                      · exact Or.inl List.mem_cons_self
                      · exact hmore.stacked a (List.mem_append_right next hd)
                  · intro e he
                    rcases List.mem_cons.mp he with rfl | he
                    · exact ⟨next, hvisit, fun b hb =>
                        hmoved b (hmore.stacked b (List.mem_append_left rest hb))⟩
                    · rcases hmore.closed e he with ⟨next', hnext, hclosed⟩
                      exact ⟨next', hnext, fun b hb => hmoved b (hclosed b hb)⟩
                  · intro b hb
                    rw [List.map_cons, List.mem_cons] at hb
                    rcases hb with rfl | hb
                    · exact ⟨b, hin, Relation.ReflTransGen.refl⟩
                    · rcases hmore.reached b hb with ⟨a, ha, hreach⟩
                      rcases List.mem_append.mp ha with ha | ha
                      · exact ⟨node, hin, Relation.ReflTransGen.head ⟨content, next, hvisit, ha⟩ hreach⟩
                      · have hkept : a ∈ stack.dropWhile (fun node => decide (node ∈ visited)) := by
                          rw [hstack]
                          exact List.mem_cons_of_mem node ha
                        exact ⟨a, (List.dropWhile_sublist _).subset hkept, hreach⟩

/-- A search ends when the stack and the visited nodes stay within a set of
    nodes that can all be visited and lead nowhere else, and there are visits
    for the rest of it. -/
theorem explore_total {nodes : List α}
    (hvisit : ∀ a ∈ nodes, ∃ content next, visit a = .ok (content, next) ∧ ∀ b ∈ next, b ∈ nodes)
    (limit : Nat) (stack visited : List α) (hstack : ∀ a ∈ stack, a ∈ nodes)
    (hvisited : visited.Nodup) (hinside : ∀ a ∈ visited, a ∈ nodes)
    (hlimit : nodes.length ≤ limit + visited.length) :
    ∃ found, explore visit full limit stack visited = .ok found := by
  induction limit generalizing stack visited with
  | zero =>
      unfold explore
      cases hdrop : stack.dropWhile (fun node => decide (node ∈ visited)) with
      | nil => exact ⟨[], rfl⟩
      | cons node rest =>
          -- All nodes are visited already, so the next one would be one too many.
          exfalso
          have hin : node ∈ nodes := hstack node
            ((List.dropWhile_sublist _).subset (by rw [hdrop]; exact List.mem_cons_self))
          have hall : (node :: visited).Subperm nodes := by
            refine List.subperm_of_subset
              (List.nodup_cons.mpr ⟨not_mem_of_dropWhile hdrop, hvisited⟩) (fun a ha => ?_)
            rcases List.mem_cons.mp ha with rfl | ha
            · exact hin
            · exact hinside a ha
          have hlength := hall.length_le
          rw [List.length_cons] at hlength
          omega
  | succ limit ih =>
      unfold explore
      cases hdrop : stack.dropWhile (fun node => decide (node ∈ visited)) with
      | nil => exact ⟨[], rfl⟩
      | cons node rest =>
          have hkept : ∀ a ∈ node :: rest, a ∈ nodes := by
            intro a ha
            rw [← hdrop] at ha
            exact hstack a ((List.dropWhile_sublist _).subset ha)
          rcases hvisit node (hkept node List.mem_cons_self) with ⟨content, next, hok, hnext⟩
          have hmore := ih (next ++ rest) (node :: visited) ?_ ?_ ?_ ?_
          · rcases hmore with ⟨found, hfound⟩
            refine ⟨(node, content) :: found, ?_⟩
            dsimp only
            rw [hok]
            dsimp only
            rw [hfound]
            rfl
          · intro a ha
            rcases List.mem_append.mp ha with ha | ha
            · exact hnext a ha
            · exact hkept a (List.mem_cons_of_mem node ha)
          · exact List.nodup_cons.mpr ⟨not_mem_of_dropWhile hdrop, hvisited⟩
          · intro a ha
            rcases List.mem_cons.mp ha with rfl | ha
            · exact hkept a List.mem_cons_self
            · exact hinside a ha
          · rw [List.length_cons]
            omega

/-- What a search from one node has found is what is reachable from it. -/
theorem mem_explore {root : α} {limit : Nat} {found : List (α × β)}
    (h : explore visit full limit [root] [] = .ok found) (b : α) :
    b ∈ found.map Prod.fst ↔ Relation.ReflTransGen (Leads visit) root b := by
  have hfound := explore_sound limit [root] [] h
  constructor
  · intro hb
    rcases hfound.reached b hb with ⟨a, ha, hreach⟩
    rw [List.mem_singleton.mp ha] at hreach
    exact hreach
  · intro hreach
    induction hreach with
    | refl => exact (hfound.stacked root (List.mem_singleton_self root)).resolve_left List.not_mem_nil
    | tail _ hlead ih =>
        rcases List.mem_map.mp ih with ⟨e, he, rfl⟩
        rcases hfound.closed e he with ⟨next, hnext, hclosed⟩
        rcases hlead with ⟨content, next', hok, hb⟩
        rw [hnext] at hok
        cases hok
        exact (hclosed _ hb).resolve_left List.not_mem_nil

/-- A search from one node ends with the reachable nodes exactly when they can
    all be visited, if there are visits for them. -/
theorem explore_ok_iff {root : α} {limit : Nat} {nodes : List α}
    (hlimit : nodes.length ≤ limit) :
    (∃ found, explore visit full limit [root] [] = .ok found ∧
        ∀ b, b ∈ found.map Prod.fst ↔ b ∈ nodes) ↔
      (∀ b, Relation.ReflTransGen (Leads visit) root b ↔ b ∈ nodes) ∧
        ∀ b ∈ nodes, ∃ shown, visit b = .ok shown := by
  constructor
  -- What was found is closed under the visits, and each of it was visited.
  · rintro ⟨found, hok, hnodes⟩
    refine ⟨fun b => (mem_explore hok b).symm.trans (hnodes b), fun b hb => ?_⟩
    rcases List.mem_map.mp ((hnodes b).mpr hb) with ⟨e, he, rfl⟩
    rcases (explore_sound limit [root] [] hok).closed e he with ⟨next, hnext, _⟩
    exact ⟨_, hnext⟩
  · rintro ⟨hreach, hvisit⟩
    -- The other way, the limit is not reached before all nodes are found.
    have hclosed : ∀ a ∈ nodes, ∃ content next, visit a = .ok (content, next) ∧
        ∀ b ∈ next, b ∈ nodes := by
      intro a ha
      rcases hvisit a ha with ⟨⟨content, next⟩, hok⟩
      refine ⟨content, next, hok, fun b hb => (hreach b).mp ?_⟩
      exact Relation.ReflTransGen.tail ((hreach a).mpr ha) ⟨content, next, hok, hb⟩
    have hroot : ∀ a ∈ [root], a ∈ nodes := by
      intro a ha
      rw [List.mem_singleton.mp ha]
      exact (hreach root).mp Relation.ReflTransGen.refl
    rcases explore_total hclosed limit [root] [] hroot List.nodup_nil nofun
      (by rw [List.length_nil]; omega) with ⟨found, hfound⟩
    exact ⟨found, hfound, fun b => (mem_explore hfound b).trans (hreach b)⟩

end

end Kahea
