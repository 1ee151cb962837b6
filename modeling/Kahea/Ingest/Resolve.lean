import Kahea.Base.Parts
import Kahea.Ingest

/-!
# Following References

How the AsyncAPI part of `kahea-ingest` follows a chain of local references.

The loop keeps the references it has followed and stops with an error when one
comes up again. Nothing in it counts, so that it has to be shown to end: after
the first step the value at hand is a part of the document, and the references
of its parts are finitely many. `followReferences` is the loop with a number of
rounds, `followReferences_total` says how many rounds always do, and
`resolveValue` is the result the loop has then.

What a chain leads to does not depend on the loop. Each reference points at one
value (`Points`), a chain that ends ends in one place, and no reference comes
up twice on the way there, since it would lead back to itself.

## Main definitions

* `referenceOf`: The reference of a value, if it is one.
* `followReferences`, `resolveValue`: The loop, and its result.
* `Points`: Where a reference leads.

## Theorems

* `followReferences_total`: The loop ends.
* `resolveValue_ok_iff`: What it returns.
-/

namespace Kahea

/-- The reference of a value that is one. -/
def referenceOf (value : Value) : Option Str := (value.get "$ref").bind Value.asStr

/-- What a local reference selects, or why there is nothing. -/
def localTarget (root : Value) (reference location : Str) : Except IngestError Value :=
  match stripPrefix "#" reference with
  | none => .error (.invalidAsyncApi
      ("remote reference " ++ debugQuote reference ++ " is denied at " ++ location))
  | some pointer => match root.pointer pointer with
    | none => .error (.invalidAsyncApi
        ("unresolved local reference " ++ debugQuote reference ++ " at " ++ location))
    | some value => .ok value

/-- The loop of `resolve_value` for a number of rounds, with the references it
    has seen. There is no result when the rounds run out. -/
def followReferences (root : Value) (location : Str) :
    Nat → List Str → Value → Option (Except IngestError Value)
  | 0, _, _ => none
  | rounds + 1, seen, current => match referenceOf current with
    | none => some (.ok current)
    | some reference =>
        if reference ∈ seen then
          some (.error (.invalidAsyncApi
            ("cyclic reference " ++ debugQuote reference ++ " at " ++ location)))
        else match localTarget root reference location with
          | .error e => some (.error e)
          | .ok next => followReferences root location rounds (reference :: seen) next

/-! ### The loop ends -/

section

variable {root : Value} {location : Str}

theorem localTarget_ok {reference : Str} {next : Value}
    (h : localTarget root reference location = .ok next) :
    ∃ pointer, stripPrefix "#" reference = some pointer ∧ root.pointer pointer = some next := by
  unfold localTarget at h
  cases hp : stripPrefix "#" reference with
  | none =>
      rw [hp] at h
      cases h
  | some pointer =>
      rw [hp] at h
      dsimp only at h
      cases hv : root.pointer pointer with
      | none =>
          rw [hv] at h
          cases h
      | some value =>
          rw [hv] at h
          cases h
          exact ⟨pointer, rfl, hv⟩

/-- The references of the parts of a value. -/
def Value.references (root : Value) : List Str := root.parts.filterMap referenceOf

theorem length_references (root : Value) : root.references.length ≤ root.parts.length :=
  List.length_filterMap_le _ _

/-- Inside the document the references seen are different references of it. -/
theorem followReferences_inside (rounds : Nat) (seen : List Str) (first : List Str)
    (current : Value) (hcurrent : current ∈ root.parts) (hnodup : seen.Nodup)
    (hseen : ∀ r ∈ seen, r ∈ first ++ root.references)
    (hrounds : first.length + root.references.length < rounds + seen.length) :
    (followReferences root location rounds seen current).isSome := by
  induction rounds generalizing seen current with
  | zero =>
      -- There would be more references seen than there are.
      exfalso
      have hle := (List.subperm_of_subset hnodup hseen).length_le
      rw [List.length_append] at hle
      omega
  | succ rounds ih =>
      rw [followReferences]
      cases href : referenceOf current with
      | none => rfl
      | some reference =>
          dsimp only
          by_cases hin : reference ∈ seen
          · rw [if_pos hin]
            rfl
          · rw [if_neg hin]
            cases htarget : localTarget root reference location with
            | error e => rfl
            | ok next =>
                rcases localTarget_ok htarget with ⟨pointer, _, hpointer⟩
                have hmem : reference ∈ root.references :=
                  List.mem_filterMap.mpr ⟨current, hcurrent, href⟩
                refine ih (reference :: seen) next (mem_parts_of_pointer hpointer)
                  (List.nodup_cons.mpr ⟨hin, hnodup⟩) ?_ ?_
                · intro r hr
                  rcases List.mem_cons.mp hr with rfl | hr
                  · exact List.mem_append_right first hmem
                  · exact hseen r hr
                · rw [List.length_cons]
                  omega

/-- A number of rounds that always does. -/
def enoughRounds (root : Value) : Nat := root.parts.length + 3

/-- The loop ends. The value it starts with may lie outside the document, but
    the next one is a part of it. -/
theorem followReferences_total (root value : Value) (location : Str) (rounds : Nat)
    (hrounds : enoughRounds root ≤ rounds) :
    (followReferences root location rounds [] value).isSome := by
  have hlength := length_references root
  unfold enoughRounds at hrounds
  cases rounds with
  | zero => omega
  | succ rounds =>
      rw [followReferences]
      -- The first round; from there every reference is one of the document.
      cases href : referenceOf value with
      | none => rfl
      | some reference =>
          dsimp only
          rw [if_neg List.not_mem_nil]
          cases htarget : localTarget root reference location with
          | error e => rfl
          | ok next =>
              rcases localTarget_ok htarget with ⟨pointer, _, hpointer⟩
              refine followReferences_inside rounds [reference] [reference] next
                (mem_parts_of_pointer hpointer) (List.nodup_singleton reference) ?_ ?_
              · intro r hr
                exact List.mem_append_left _ hr
              · rw [List.length_singleton]
                omega

/-- More rounds than it takes change nothing. -/
theorem followReferences_more {rounds more : Nat} (hmore : rounds ≤ more) {seen : List Str}
    {current : Value} {result : Except IngestError Value}
    (h : followReferences root location rounds seen current = some result) :
    followReferences root location more seen current = some result := by
  -- By the rounds that were enough; both follow the same reference in each.
  induction rounds generalizing more seen current with
  | zero => cases h
  | succ rounds ih =>
      cases more with
      | zero => omega
      | succ more =>
          rw [followReferences] at h ⊢
          cases href : referenceOf current with
          | none =>
              rw [href] at h
              exact h
          | some reference =>
              rw [href] at h
              dsimp only at h ⊢
              by_cases hin : reference ∈ seen
              · rw [if_pos hin] at h ⊢
                exact h
              · rw [if_neg hin] at h ⊢
                cases htarget : localTarget root reference location with
                | error e =>
                    rw [htarget] at h
                    exact h
                | ok next =>
                    rw [htarget] at h
                    exact ih (by omega) h

end

/-- The value at the end of a chain of local references. -/
def resolveValue (root value : Value) (location : Str) : Except IngestError Value :=
  (followReferences root location (enoughRounds root) [] value).get
    (followReferences_total root value location _ (Nat.le_refl _))

/-! ### What the loop returns -/

/-- The value a reference points at. -/
def Points (root a b : Value) : Prop :=
  ∃ reference pointer, referenceOf a = some reference ∧ stripPrefix "#" reference = some pointer ∧
    root.pointer pointer = some b

/-- A chain of a number of references. -/
inductive Chain (root : Value) : Nat → Value → Value → Prop where
  | here (a : Value) : Chain root 0 a a
  | next {n : Nat} {a b c : Value} (hpoints : Points root a b) (hrest : Chain root n b c) :
      Chain root (n + 1) a c

section

variable {root : Value} {location : Str}

theorem localTarget_eq_ok_iff {reference : Str} {next : Value} :
    localTarget root reference location = .ok next ↔
      ∃ pointer, stripPrefix "#" reference = some pointer ∧ root.pointer pointer = some next := by
  refine ⟨localTarget_ok, ?_⟩
  rintro ⟨pointer, hp, hv⟩
  rw [localTarget, hp]
  dsimp only
  rw [hv]

/-- The end of a chain determines how long it is. -/
theorem Chain.length_unique {n m : Nat} {a c : Value} (h : Chain root n a c)
    (h' : Chain root m a c) (hend : referenceOf c = none) : n = m := by
  -- Along one chain: a value without a reference ends it, another has one successor.
  induction h generalizing m with
  | here a =>
      cases h' with
      | here => rfl
      | next hpoints _ =>
          rcases hpoints with ⟨reference, _, href, _⟩
          rw [href] at hend
          cases hend
  | next hpoints _ ih =>
      rcases hpoints with ⟨reference, pointer, href, hp, hv⟩
      cases h' with
      | here =>
          rw [href] at hend
          cases hend
      | next hpoints' hrest' =>
          rcases hpoints' with ⟨reference', pointer', href', hp', hv'⟩
          rw [href] at href'
          cases href'
          rw [hp] at hp'
          cases hp'
          rw [hv] at hv'
          cases hv'
          rw [ih hrest' hend]

theorem Chain.append {n m : Nat} {a b c : Value} (h : Chain root n a b) (h' : Chain root m b c) :
    Chain root (n + m) a c := by
  induction h with
  | here a =>
      rw [Nat.zero_add]
      exact h'
  | next hpoints _ ih =>
      rw [Nat.add_right_comm]
      exact Chain.next hpoints (ih h')

/-- A chain that ends passes every value a chain from the same start reaches. -/
theorem Chain.rest {n m : Nat} {a b c : Value} (h : Chain root n a b) (h' : Chain root m a c)
    (hend : referenceOf c = none) : ∃ k, Chain root k b c := by
  induction h generalizing m with
  | here a => exact ⟨m, h'⟩
  | next hpoints _ ih =>
      rcases hpoints with ⟨reference, pointer, href, hp, hv⟩
      cases h' with
      | here =>
          rw [href] at hend
          cases hend
      | next hpoints' hrest' =>
          rcases hpoints' with ⟨reference', pointer', href', hp', hv'⟩
          rw [href] at href'
          cases href'
          rw [hp] at hp'
          cases hp'
          rw [hv] at hv'
          cases hv'
          exact ih hrest'

/-- A chain that runs into a cycle has no end. -/
theorem Chain.endless {n m : Nat} {a b : Value} (h : Chain root n a b)
    (hcycle : Chain root (m + 1) b b) {c : Value} (hend : referenceOf c = none) (k : Nat) :
    ¬ Chain root k a c := by
  intro hc
  rcases h.rest hc hend with ⟨j, hj⟩
  have hlength := (hcycle.append hj).length_unique hj hend
  omega

/-- A result the loop returns is at the end of a chain. -/
theorem chain_of_followReferences {rounds : Nat} {seen : List Str} {current value : Value}
    (h : followReferences root location rounds seen current = some (.ok value)) :
    referenceOf value = none ∧ ∃ n, Chain root n current value := by
  -- By the rounds; a step of the loop is a link of the chain.
  induction rounds generalizing seen current with
  | zero => cases h
  | succ rounds ih =>
      rw [followReferences] at h
      cases href : referenceOf current with
      | none =>
          rw [href] at h
          cases h
          exact ⟨href, 0, Chain.here value⟩
      | some reference =>
          rw [href] at h
          dsimp only at h
          by_cases hin : reference ∈ seen
          · rw [if_pos hin] at h
            cases h
          · rw [if_neg hin] at h
            cases htarget : localTarget root reference location with
            | error e =>
                rw [htarget] at h
                cases h
            | ok next =>
                rw [htarget] at h
                rcases ih h with ⟨hend, n, hchain⟩
                rcases localTarget_ok htarget with ⟨pointer, hp, hv⟩
                exact ⟨hend, n + 1, Chain.next ⟨reference, pointer, href, hp, hv⟩ hchain⟩

/-- The loop returns what is at the end of a chain. A reference that was seen
    led to a chain at least as long as the one at hand, so that the next one is
    new. -/
theorem followReferences_of_chain {n : Nat} {current value : Value}
    (hchain : Chain root n current value) (hend : referenceOf value = none) (seen : List Str)
    (hseen : ∀ r ∈ seen, ∃ k w, n ≤ k ∧ Chain root k w value ∧
      localTarget root r location = .ok w) :
    followReferences root location (n + 1) seen current = some (.ok value) := by
  -- Along the chain, what was seen being farther from the end.
  induction hchain generalizing seen with
  | here a => rw [followReferences, hend]
  | next hpoints hrest ih =>
      rename_i n a b c
      rcases hpoints with ⟨reference, pointer, href, hp, hv⟩
      have htarget : localTarget root reference location = .ok b :=
        localTarget_eq_ok_iff.mpr ⟨pointer, hp, hv⟩
      -- So the reference is new.
      have hnew : reference ∉ seen := by
        intro hin
        rcases hseen reference hin with ⟨k, w, hk, hw, hsame⟩
        rw [htarget] at hsame
        cases hsame
        have hlength := hrest.length_unique hw hend
        omega
      rw [followReferences, href]
      dsimp only
      rw [if_neg hnew, htarget]
      refine ih hend (reference :: seen) (fun r hr => ?_)
      rcases List.mem_cons.mp hr with rfl | hr
      · exact ⟨n, b, Nat.le_refl n, hrest, htarget⟩
      · rcases hseen r hr with ⟨k, w, hk, hw, hsame⟩
        exact ⟨k, w, by omega, hw, hsame⟩

theorem followReferences_resolveValue (root value : Value) (location : Str) {rounds : Nat}
    (hrounds : enoughRounds root ≤ rounds) :
    followReferences root location rounds [] value = some (resolveValue root value location) :=
  followReferences_more hrounds (Option.some_get _).symm

/-- The result is the value at the end of the chain, if it has an end. -/
theorem resolveValue_ok_iff {value result : Value} :
    resolveValue root value location = .ok result ↔
      referenceOf result = none ∧ ∃ n, Chain root n value result := by
  constructor
  · intro h
    have hrun := followReferences_resolveValue root value location (Nat.le_refl _)
    rw [h] at hrun
    exact chain_of_followReferences hrun
  · rintro ⟨hend, n, hchain⟩
    have hrun : followReferences root location (n + 1) [] value = some (.ok result) :=
      followReferences_of_chain hchain hend [] nofun
    have hmax := followReferences_more (Nat.le_max_left (n + 1) (enoughRounds root)) hrun
    rw [followReferences_resolveValue root value location (Nat.le_max_right _ _)] at hmax
    exact Option.some.inj hmax

end

/-- References are followed to the end of their chain, however long it is: the
    loop ends after finitely many rounds, with the value at the end of the
    chain, which is no reference, or with an error when the chain has no end. -/
theorem resolveValue_terminates (root value : Value) (location : Str) :
    (∃ rounds, ∀ more, rounds ≤ more → followReferences root location more [] value =
        some (resolveValue root value location)) ∧
      (∀ result, resolveValue root value location = .ok result ↔
        referenceOf result = none ∧ ∃ n, Chain root n value result) ∧
      ((∃ n a, Chain root n value a ∧ ∃ m, Chain root (m + 1) a a) →
        ∃ e, resolveValue root value location = .error e) := by
  refine ⟨⟨enoughRounds root, fun more hmore => followReferences_resolveValue root value location
    hmore⟩, fun result => resolveValue_ok_iff, ?_⟩
  rintro ⟨n, a, hchain, m, hcycle⟩
  cases hresult : resolveValue root value location with
  | error e => exact ⟨e, rfl⟩
  | ok result =>
      rcases resolveValue_ok_iff.mp hresult with ⟨hend, k, hk⟩
      exact absurd hk (hchain.endless hcycle hend k)

end Kahea
