import Kahea.Base.Pointer
import Kahea.Base.Search
import Kahea.Workflow.Expression
import Mathlib.Algebra.Order.Ring.Int

/-!
# Keys in Expressions

Which value an expression over the workflow input or over the outputs of a step
selects.

A dotted path is turned into a JSON Pointer by putting slashes for its dots. A
key that has a slash, or that spells one of the two escapes of a pointer, is
then no longer one token; the paths of response bodies escape their keys first,
and name every key (`responseBodyPointer_descend`). The prefix of an expression
is taken off as often as it is there, and the parts of a step reference are found
by searching, so a step or an output can be taken for another one.

## Main definitions

* `PlainKeys`: The paths over the input that select what they spell.
* `PlainReference`: The step references that do.
* `nest`: A document with one location.

## Theorems

* `inputTokens_iff`: When the tokens of a path are its keys.
* `stepReference_plain`, `plainReference_of_stepReference`: When the parts of a
  reference are those it was made of.
* `expressions_exact_iff`: When an expression selects what it spells.
-/

namespace Kahea

/-! ### Documents with one location -/

/-- A document with one location. -/
def nest : List Str → Value
  | [] => .null
  | k :: ks => .object [(k, nest ks)]

/-- The tokens that reach the end of a nest are its keys. -/
theorem nest_descend (keys tokens : List Str) :
    (nest keys).descend tokens = some .null ↔ tokens = keys := by
  induction keys generalizing tokens with
  | nil =>
      cases tokens with
      | nil => exact iff_of_true rfl rfl
      | cons t tokens => exact iff_of_false (Option.some_ne_none _).symm (List.cons_ne_nil t tokens)
  | cons k keys ih =>
      cases tokens with
      | nil => exact iff_of_false (by simp [Value.descend, nest]) (List.cons_ne_nil k keys).symm
      | cons t tokens =>
          have hchild : (nest (k :: keys)).child t = if k = t then some (nest keys) else none := rfl
          change ((nest (k :: keys)).child t).bind (fun c => c.descend tokens) = _ ↔ _
          rw [hchild, List.cons.injEq]
          by_cases hk : k = t
          · rw [if_pos hk, Option.bind_some, ih, and_iff_right hk.symm]
          · rw [if_neg hk]
            exact iff_of_false (Option.some_ne_none _).symm (fun h => hk h.1.symm)

/-- A selection that agrees with a location on every document is that location. -/
theorem tokens_eq_of_descend {tokens keys : List Str}
    (h : ∀ (document v : Value), document.descend tokens = some v ↔ document.descend keys = some v) :
    tokens = keys :=
  (nest_descend keys tokens).mp ((h (nest keys) .null).mpr ((nest_descend keys keys).mpr rfl))

/-! ### Paths over the input -/

/-- A path without its leading keys that read as the prefix. -/
def droppedKeys : List Str → List Str
  | k :: l :: rest => if k = "$inputs".toList then droppedKeys (l :: rest) else k :: l :: rest
  | keys => keys

/-- A key that is one token of a pointer and spells no escape. -/
def PlainKey (k : Str) : Prop := '/' ∉ k ∧ ¬ "~1".toList <:+: k ∧ ¬ "~0".toList <:+: k

instance (k : Str) : Decidable (PlainKey k) := by unfold PlainKey; infer_instance

/-- The paths over the input that select what they spell. -/
def PlainKeys (keys : List Str) : Prop := droppedKeys keys = keys ∧ ∀ k ∈ keys, PlainKey k

instance (keys : List Str) : Decidable (PlainKeys keys) := by unfold PlainKeys; infer_instance

/-- The tokens of an expression over the input. -/
def inputTokens (expression : Str) : List Str :=
  ((replaceAll "." "/" (trimStartMatches "$inputs." expression)).splitOn '/').map unescapeToken

theorem resolveInputExpression_ok {expression : Str} {inputs v : Value} :
    resolveInputExpression expression inputs = .ok v ↔
      inputs.descend (inputTokens expression) = some v := by
  have hpointer : inputs.pointer
      ('/' :: replaceAll "." "/" (trimStartMatches "$inputs." expression)) =
        inputs.descend (inputTokens expression) := rfl
  unfold resolveInputExpression
  dsimp only
  rw [hpointer]
  cases inputs.descend (inputTokens expression) with
  | none => simp
  | some w => simp

theorem join_cons_cons (k l : Str) (rest : List Str) :
    join "." (k :: l :: rest) = k ++ '.' :: join "." (l :: rest) := by
  unfold join
  rw [List.intercalate_cons_cons]
  simp

/-- Trimming drops the leading keys `$inputs`. -/
theorem trimStartMatches_join {keys : List Str} (h : ∀ k ∈ keys, '.' ∉ k) :
    trimStartMatches "$inputs." (join "." keys) = join "." (droppedKeys keys) := by
  induction keys with
  | nil => decide
  | cons k keys ih =>
      rw [List.forall_mem_cons] at h
      cases keys with
      | nil =>
          refine trimStartMatches_eq_self (fun hpre => h.1 ?_)
          have hsingle : join "." [k] = k := List.intercalate_singleton
          rw [hsingle] at hpre
          exact hpre.subset (by decide)
      | cons l rest =>
          rw [join_cons_cons, droppedKeys]
          by_cases hk : k = "$inputs".toList
          · rw [if_pos hk, ← ih h.2, hk]
            exact trimStartMatches_append (by decide) _
          · rw [if_neg hk, join_cons_cons]
            refine trimStartMatches_eq_self (fun hpre => hk ?_)
            rcases hpre with ⟨u, hu⟩
            -- Up to the first dot the two texts are the key and the name of the input.
            have hleft : splitOnce "." ("$inputs".toList ++ '.' :: u) = some ("$inputs".toList, u) :=
              splitOnce_singleton (by decide) u
            have hright := splitOnce_singleton h.1 (join "." (l :: rest))
            have hsame : "$inputs".toList ++ '.' :: u = k ++ '.' :: join "." (l :: rest) := hu
            rw [← hsame] at hright
            have hparts := hleft.symm.trans hright
            rw [Option.some.injEq, Prod.mk.injEq] at hparts
            exact hparts.1.symm

/-- A dotted path splits into what its keys split into. -/
theorem splitOn_dotted {keys : List Str} (hne : keys ≠ []) (h : ∀ k ∈ keys, '.' ∉ k) :
    (replaceAll "." "/" (join "." keys)).splitOn '/' = keys.flatMap (fun k => k.splitOn '/') := by
  have hplain {k : Str} (hk : '.' ∉ k) : replaceAll "." "/" k = k := by
    refine replaceAll_of_not_infix _ _ _ (fun hinfix => hk ?_)
    exact hinfix.subset List.mem_cons_self
  -- By the keys, each dot between two of them becoming a slash.
  induction keys with
  | nil => exact absurd rfl hne
  | cons k keys ih =>
      rw [List.forall_mem_cons] at h
      cases keys with
      | nil =>
          have hsingle : join "." [k] = k := List.intercalate_singleton
          rw [hsingle, hplain h.1, List.flatMap_singleton]
      | cons l rest =>
          have hcut : replaceAll "." "/" (k ++ '.' :: join "." (l :: rest)) =
              k ++ '/' :: replaceAll "." "/" (join "." (l :: rest)) := by
            have hsingle (t : Str) := replaceAll_singleton '.' "/".toList t
            have hk := hplain h.1
            change replaceAll ['.'] "/".toList _ = _ ++ '/' :: replaceAll ['.'] "/".toList _
            change replaceAll ['.'] "/".toList k = k at hk
            rw [hsingle, List.flatMap_append, ← hsingle, hk, List.flatMap_cons, ← hsingle]
            rfl
          rw [join_cons_cons, hcut, List.splitOn_append_cons_self, List.flatMap_cons,
            ih (List.cons_ne_nil l rest) h.2]

/-- How many characters the keys of a path have together. -/
def weight (keys : List Str) : Nat := (keys.map List.length).sum

theorem weight_append (a b : List Str) : weight (a ++ b) = weight a + weight b := by
  unfold weight
  rw [List.map_append, List.sum_append]

theorem weight_map_le {f : Str → Str} (h : ∀ t, (f t).length ≤ t.length) (l : List Str) :
    weight (l.map f) ≤ weight l := by
  induction l with
  | nil => exact Nat.le_refl _
  | cons t l ih =>
      have ht := h t
      simp only [weight, List.map_cons, List.sum_cons] at ih ⊢
      omega

/-- Splitting keeps the weight: a separator counts as one token more. -/
theorem weight_splitOn (c : Char) (k : Str) :
    weight (k.splitOn c) + (k.splitOn c).length = k.length + 1 := by
  induction k with
  | nil => rfl
  | cons d k ih =>
      rw [List.splitOn_cons_eq_if_modifyHead]
      rcases hk : k.splitOn c with _ | ⟨t, ts⟩
      · exact absurd hk (List.splitOn_ne_nil c k)
      · rw [hk] at ih
        split_ifs
        · simp only [weight, List.map_cons, List.sum_cons, List.length_cons, List.length_nil] at ih ⊢
          omega
        · simp only [List.modifyHead_cons, weight, List.map_cons, List.sum_cons,
            List.length_cons] at ih ⊢
          omega

/-- Unescaping shortens exactly what it changes. -/
theorem unescapeToken_length (t : Str) : (unescapeToken t).length ≤ t.length ∧
    (¬ (¬ "~1".toList <:+: t ∧ ¬ "~0".toList <:+: t) → (unescapeToken t).length < t.length) := by
  have hslash := replaceAll_length (p := "~1".toList) (w := "/".toList) (by decide) t
  have htilde := replaceAll_length (p := "~0".toList) (w := "~".toList) (by decide)
    (replaceAll "~1" "/" t)
  unfold unescapeToken
  refine ⟨by omega, fun h => ?_⟩
  by_cases h1 : "~1".toList <:+: t
  · have := hslash.2 h1
    omega
  · have h0 : "~0".toList <:+: t := by
      by_contra hnot
      exact h ⟨h1, hnot⟩
    rw [ replaceAll_of_not_infix _ _ _ h1] at htilde ⊢
    exact htilde.2 h0

/-- The tokens of one key: the key itself when it is plain, and fewer
    characters otherwise. -/
theorem tokens_of_key (k : Str) :
    (PlainKey k → (k.splitOn '/').map unescapeToken = [k]) ∧
      weight ((k.splitOn '/').map unescapeToken) ≤ k.length ∧
      (¬ PlainKey k → weight ((k.splitOn '/').map unescapeToken) < k.length) := by
  have hsplit := weight_splitOn '/' k
  have hmap := weight_map_le (fun t => (unescapeToken_length t).1) (k.splitOn '/')
  have hpos : 0 < (k.splitOn '/').length := List.length_pos_iff.mpr (List.splitOn_ne_nil '/' k)
  refine ⟨fun h => ?_, by omega, fun h => ?_⟩
  · rw [List.splitOn_eq_singleton h.1, List.map_singleton]
    unfold unescapeToken
    rw [ replaceAll_of_not_infix _ _ _ h.2.1, replaceAll_of_not_infix _ _ _ h.2.2]
  · by_cases hslash : '/' ∈ k
    · -- A slash in the key is in none of its tokens.
      rcases List.append_of_mem hslash with ⟨a, b, rfl⟩
      have hparts : 2 ≤ ((a ++ '/' :: b).splitOn '/').length := by
        rw [List.splitOn_append_cons_self, List.length_append]
        have ha : 0 < (a.splitOn '/').length := List.length_pos_iff.mpr (List.splitOn_ne_nil '/' a)
        have hb : 0 < (b.splitOn '/').length := List.length_pos_iff.mpr (List.splitOn_ne_nil '/' b)
        omega
      omega
    · have hescape : ¬ (¬ "~1".toList <:+: k ∧ ¬ "~0".toList <:+: k) := fun hnone => h ⟨hslash, hnone⟩
      rw [List.splitOn_eq_singleton hslash]
      simpa [weight] using (unescapeToken_length k).2 hescape

/-- The tokens of a path have no more characters than it, and are its keys only
    where every key is plain. -/
theorem weight_tokens (keys : List Str) :
    weight ((keys.flatMap (fun k => k.splitOn '/')).map unescapeToken) ≤ weight keys ∧
      ((keys.flatMap (fun k => k.splitOn '/')).map unescapeToken = keys ↔ ∀ k ∈ keys, PlainKey k) := by
  induction keys with
  | nil => exact ⟨Nat.le_refl _, iff_of_true rfl (fun k hk => absurd hk List.not_mem_nil)⟩
  | cons k keys ih =>
      rcases tokens_of_key k with ⟨hplain, hle, hless⟩
      have hcons : weight (k :: keys) = k.length + weight keys := by
        simp [weight]
      rw [List.flatMap_cons, List.map_append, weight_append, List.forall_mem_cons]
      refine ⟨by omega, fun h => ?_, fun h => ?_⟩
      · have hk : PlainKey k := by
          by_contra hnot
          have hweight := congrArg weight h
          rw [weight_append, hcons] at hweight
          have := hless hnot
          omega
        rw [hplain hk, List.singleton_append, List.cons.injEq] at h
        exact ⟨hk, ih.2.mp h.2⟩
      · rw [hplain h.1, ih.2.mpr h.2, List.singleton_append]

/-- Dropping keys loses weight, unless nothing is dropped. -/
theorem weight_droppedKeys (keys : List Str) :
    weight (droppedKeys keys) ≤ weight keys ∧
      (droppedKeys keys ≠ keys → weight (droppedKeys keys) < weight keys) := by
  induction keys with
  | nil => exact ⟨Nat.le_refl _, fun h => absurd rfl h⟩
  | cons k keys ih =>
      cases keys with
      | nil => exact ⟨Nat.le_refl _, fun h => absurd rfl h⟩
      | cons l rest =>
          rw [droppedKeys]
          by_cases hk : k = "$inputs".toList
          · have hcons : weight (k :: l :: rest) = k.length + weight (l :: rest) := by
              simp [weight]
            have hlength : k.length = 7 := by
              rw [hk]
              rfl
            rw [if_pos hk]
            exact ⟨by omega, fun _ => by omega⟩
          · rw [if_neg hk]
            exact ⟨Nat.le_refl _, fun h => absurd rfl h⟩

theorem mem_droppedKeys {keys : List Str} {k : Str} (h : k ∈ droppedKeys keys) : k ∈ keys := by
  induction keys with
  | nil => exact h
  | cons l keys ih =>
      cases keys with
      | nil => exact h
      | cons m rest =>
          rw [droppedKeys] at h
          split_ifs at h
          · exact List.mem_cons_of_mem l (ih h)
          · exact h

theorem droppedKeys_ne_nil {keys : List Str} (h : keys ≠ []) : droppedKeys keys ≠ [] := by
  induction keys with
  | nil => exact absurd rfl h
  | cons l keys ih =>
      cases keys with
      | nil => exact h
      | cons m rest =>
          rw [droppedKeys]
          split_ifs
          · exact ih (List.cons_ne_nil m rest)
          · exact h

/-- The tokens of a path over the input are its keys exactly when it is plain. -/
theorem inputTokens_iff {keys : List Str} (hne : keys ≠ []) (h : ∀ k ∈ keys, '.' ∉ k) :
    inputTokens ("$inputs." ++ join "." keys) = keys ↔ PlainKeys keys := by
  have hdots : ∀ k ∈ droppedKeys keys, '.' ∉ k := fun k hk => h k (mem_droppedKeys hk)
  unfold inputTokens PlainKeys
  rw [trimStartMatches_append (by decide), trimStartMatches_join h,
    splitOn_dotted (droppedKeys_ne_nil hne) hdots]
  rcases weight_droppedKeys keys with ⟨_, hless⟩
  constructor
  · intro htokens
    have hkept : droppedKeys keys = keys := by
      by_contra hnot
      have hweight := (weight_tokens (droppedKeys keys)).1
      rw [htokens] at hweight
      have := hless hnot
      omega
    rw [hkept] at htokens
    exact ⟨hkept, (weight_tokens keys).2.mp htokens⟩
  · rintro ⟨hkept, hplain⟩
    rw [hkept]
    exact (weight_tokens keys).2.mpr hplain

/-! ### Paths of response bodies -/

/-- A dotted path of a response body names every key. -/
theorem responseBodyPointer_descend {keys : List Str} (hne : keys ≠ []) (h : ∀ k ∈ keys, '.' ∉ k)
    (body : Value) :
    (responseBodyPointer ("$response.body." ++ join "." keys)).bind body.pointer =
      body.descend keys := by
  -- The operand is a path with dots, and splits into its keys.
  have hfragment : stripPrefix "$response.body#" ("$response.body.".toList ++ join "." keys) = none := by
    rfl
  have hpath : stripPrefix "$response.body." ("$response.body.".toList ++ join "." keys) =
      some (join "." keys) := (stripPrefix_eq_some _ _ _).mpr rfl
  have hkeys : (join "." keys).splitOn '.' = keys := List.splitOn_intercalate '.' h hne
  -- Escaped and joined they are the tokens of the pointer.
  have htokens : (join "/" (keys.map (fun k => k.flatMap escapeTokenChar))).splitOn '/' =
      keys.map (fun k => k.flatMap escapeTokenChar) := by
    refine List.splitOn_intercalate '/' (fun t ht => ?_) (by simpa using hne)
    rcases List.mem_map.mp ht with ⟨k, _, rfl⟩
    exact slash_not_mem_escaped k
  unfold responseBodyPointer
  rw [hfragment, hpath]
  simp only [Option.map_some, Option.bind_some, hkeys, escapeSegment_eq]
  change body.descend _ = _
  rw [htokens, List.map_map]
  congr 1
  exact (List.map_congr_left (fun k _ => unescapeToken_escaped k)).trans (List.map_id keys)

/-! ### Outputs of steps -/

/-- The step references that select what they spell. -/
def PlainReference (step output : Str) : Prop :=
  ¬ "$steps.".toList <+: step ++ ['.'] ∧ ¬ ".outputs.".toList <:+: step ++ ".outputs".toList ∧
    '#' ∉ output

instance (step output : Str) : Decidable (PlainReference step output) := by
  unfold PlainReference
  infer_instance

/-- What follows the prefix of a reference. -/
def referenceBody (step output pointer : Str) : Str :=
  step ++ ".outputs.".toList ++ (output ++ '#' :: pointer)

/-- A step's name hides the prefix only when it begins like it. -/
theorem prefix_referenceBody {step : Str} (rest : Str) :
    "$steps.".toList <+: step ++ '.' :: rest ↔ "$steps.".toList <+: step ++ ['.'] := by
  constructor
  · rintro ⟨u, hu⟩
    have hsteps : "$steps".toList ++ '.' :: u = step ++ '.' :: rest := hu
    rcases List.append_eq_append_iff.mp hsteps with ⟨w, hstep, hw⟩ | ⟨w, hname, hw⟩
    · rw [hstep]
      cases w with
      | nil => exact ⟨[], rfl⟩
      | cons c w =>
          rw [List.cons_append, List.cons.injEq] at hw
          exact ⟨w ++ ['.'], by rw [← hw.1]; simp⟩
    · cases w with
      | nil =>
          rw [List.append_nil] at hname
          rw [← hname]
          exact ⟨[], rfl⟩
      | cons c w =>
          -- The name of the prefix has no dot before its end.
          rw [List.cons_append, List.cons.injEq] at hw
          have hdot : '.' ∈ "$steps".toList := by
            rw [hname, hw.1]
            exact List.mem_append_right step List.mem_cons_self
          exact absurd hdot (by decide)
  · rintro ⟨u, hu⟩
    refine ⟨u ++ rest, ?_⟩
    rw [← List.append_assoc, hu]
    simp

/-- Where the first `.outputs.` of a text is. -/
theorem splitOnce_outputs {s a b : Str} : splitOnce ".outputs." s = some (a, b) ↔
    s = a ++ ".outputs.".toList ++ b ∧ ¬ ".outputs.".toList <:+: a ++ ".outputs".toList :=
  splitOnce_iff (by decide)

theorem trimStartMatches_reference {step : Str} (h : ¬ "$steps.".toList <+: step ++ ['.'])
    (output pointer : Str) :
    trimStartMatches "$steps." ("$steps.".toList ++ referenceBody step output pointer) =
      referenceBody step output pointer := by
  have hbody : referenceBody step output pointer =
      step ++ '.' :: ("outputs.".toList ++ (output ++ '#' :: pointer)) := by
    simp [referenceBody]
  rw [trimStartMatches_append (by decide)]
  refine trimStartMatches_eq_self ?_
  rwa [hbody, prefix_referenceBody]

/-- The parts of a plain reference are those it was made of. -/
theorem stepReference_plain {step output : Str} (h : PlainReference step output) (pointer : Str) :
    stepReference ("$steps.".toList ++ referenceBody step output pointer) =
      some (step, output, pointer) := by
  rcases h with ⟨hpre, hfirst, hhash⟩
  have hcut : splitOnce "#" (output ++ '#' :: pointer) = some (output, pointer) :=
    splitOnce_singleton hhash pointer
  unfold stepReference
  rw [trimStartMatches_reference hpre, referenceBody, splitOnce_outputs.mpr ⟨rfl, hfirst⟩,
    Option.map_some]
  dsimp only
  rw [hcut]
  rfl

/-- A reference that finds its step and its output is plain. -/
theorem plainReference_of_stepReference {step output pointer p : Str}
    (h : stepReference ("$steps.".toList ++ referenceBody step output pointer) =
      some (step, output, p)) : PlainReference step output := by
  unfold stepReference at h
  rcases Option.map_eq_some_iff.mp h with ⟨⟨a, b⟩, hsplit, heq⟩
  rw [Prod.mk.injEq] at heq
  rcases heq with ⟨rfl, hrest⟩
  rcases splitOnce_outputs.mp hsplit with ⟨htext, hfirst⟩
  dsimp only at htext hfirst hrest ⊢
  -- What is left after the prefixes does not begin with one.
  have hpre : ¬ "$steps.".toList <+: a ++ ['.'] := by
    have hnot := not_prefix_trimStartMatches (p := "$steps.") (by decide)
      ("$steps.".toList ++ referenceBody a output pointer)
    have hdot : a ++ ".outputs.".toList ++ b = a ++ '.' :: ("outputs.".toList ++ b) := by simp
    rwa [htext, hdot, prefix_referenceBody] at hnot
  rw [trimStartMatches_reference hpre] at htext
  have hb : b = output ++ '#' :: pointer := (List.append_cancel_left htext).symm
  refine ⟨hpre, hfirst, fun hmem => ?_⟩
  -- The output that was found ends at the first hash sign.
  cases hhash : splitOnce "#" b with
  | none =>
      rw [splitOnce_eq_none] at hhash
      refine hhash ?_
      rw [hb]
      exact ⟨output, pointer, by simp⟩
  | some parts =>
      rcases parts with ⟨x, y⟩
      rw [hhash, Option.getD_some, Prod.mk.injEq] at hrest
      have hx : x = output := hrest.1
      have hnone : ¬ ['#'] <:+: x ++ [] := ((splitOnce_iff (by decide)).mp hhash).2
      rw [hx, List.append_nil, List.singleton_infix_iff] at hnone
      exact hnone hmem

/-- What a reference selects, once its parts are found. -/
theorem resolveStepExpression_of_reference {expression step output pointer : Str}
    (h : stepReference expression = some (step, output, pointer)) {steps : StepOutputs} {v : Value} :
    resolveStepExpression expression steps = .ok v ↔
      ((lookup step steps).bind (lookup output)).bind (fun w => w.pointer pointer) = some v := by
  unfold resolveStepExpression
  rw [h]
  dsimp only
  cases (lookup step steps).bind (lookup output) with
  | none => simp
  | some w =>
      have hwhole : w.pointer [] = some w := rfl
      dsimp only
      rw [Option.bind_some]
      by_cases hp : pointer = []
      · rw [if_pos hp, hp, hwhole]
        simp
      · rw [if_neg hp]
        cases w.pointer pointer with
        | none => simp
        | some u => simp

/-- An expression that resolves names a step, an output and a pointer. -/
theorem stepReference_of_ok {expression : Str} {steps : StepOutputs} {v : Value}
    (h : resolveStepExpression expression steps = .ok v) :
    ∃ step output pointer, stepReference expression = some (step, output, pointer) := by
  unfold resolveStepExpression at h
  cases hreference : stepReference expression with
  | none =>
      rw [hreference] at h
      cases h
  | some parts => exact ⟨parts.1, parts.2.1, parts.2.2, rfl⟩

/-- An expression over the input selects the value at its keys, on every input,
    exactly when its keys are plain; an expression over a step selects the part of
    its output, whatever the steps have handed on, exactly when the reference is
    plain. The path of a response body selects the value at its keys always. -/
theorem expressions_exact_iff {keys : List Str} {step output pointer : Str} (hne : keys ≠ [])
    (hdots : ∀ k ∈ keys, '.' ∉ k) (hpointer : (pointerTokens pointer).isSome) :
    ((∀ inputs steps v,
        materialize inputs steps (.string ("$inputs.".toList ++ join "." keys)) = .ok v ↔
          inputs.descend keys = some v) ↔ PlainKeys keys) ∧
      ((∀ inputs steps v,
        materialize inputs steps (.string ("$steps.".toList ++ (step ++ ".outputs.".toList ++
            (output ++ '#' :: pointer)))) = .ok v ↔
          ((lookup step steps).bind (lookup output)).bind (fun w => w.pointer pointer) = some v) ↔
        PlainReference step output) ∧
      ∀ body : Value, (responseBodyPointer ("$response.body.".toList ++ join "." keys)).bind
        body.pointer = body.descend keys := by
  have hinput (inputs : Value) (steps : StepOutputs) (t : Str) :
      materialize inputs steps (.string ("$inputs.".toList ++ t)) =
        resolveInputExpression ("$inputs.".toList ++ t) inputs := by
    rfl
  have hstep (inputs : Value) (steps : StepOutputs) (t : Str) :
      materialize inputs steps (.string ("$steps.".toList ++ t)) =
        resolveStepExpression ("$steps.".toList ++ t) steps := by
    rfl
  refine ⟨⟨fun h => ?_, fun h inputs steps v => ?_⟩, ⟨fun h => ?_, fun h inputs steps v => ?_⟩,
    responseBodyPointer_descend hne hdots⟩
  · refine (inputTokens_iff hne hdots).mp (tokens_eq_of_descend (fun document v => ?_))
    rw [← h document [] v, hinput]
    exact resolveInputExpression_ok.symm
  · rw [hinput, resolveInputExpression_ok]
    have htokens := (inputTokens_iff hne hdots).mpr h
    exact iff_of_eq (congrArg (fun tokens => inputs.descend tokens = some v) htokens)
  · -- The only output there is has the location of the pointer.
    rcases Option.isSome_iff_exists.mp hpointer with ⟨tokens, htokens⟩
    have hlocation : (nest tokens).pointer pointer = some .null := by
      unfold Value.pointer
      rw [htokens]
      exact (nest_descend tokens tokens).mpr rfl
    have hlookup {β : Type} (k : Str) (v : β) : lookup k [(k, v)] = some v := if_pos rfl
    have hfound := (h .null [(step, [(output, nest tokens)])] .null).mpr (by
      rw [hlookup, Option.bind_some, hlookup, Option.bind_some, hlocation])
    rw [hstep] at hfound
    rcases stepReference_of_ok hfound with ⟨step', output', p, hreference⟩
    have hvalue := (resolveStepExpression_of_reference hreference).mp hfound
    have hsame : step = step' ∧ output = output' := by
      by_cases hs : step = step'
      · by_cases ho : output = output'
        · exact ⟨hs, ho⟩
        · rw [← hs, hlookup, Option.bind_some, lookup, if_neg ho] at hvalue
          exact absurd hvalue (Option.some_ne_none _).symm
      · rw [lookup, if_neg hs] at hvalue
        exact absurd hvalue (Option.some_ne_none _).symm
    rw [← hsame.1, ← hsame.2] at hreference
    exact plainReference_of_stepReference hreference
  · rw [hstep]
    exact resolveStepExpression_of_reference (stepReference_plain h pointer)

/-- A path of two keys and a reference to an output. -/
theorem expressions_exact_plain :
    (∀ inputs steps v, materialize inputs steps (.string "$inputs.user.id") = .ok v ↔
        inputs.descend ["user".toList, "id".toList] = some v) ∧
      ∀ inputs steps v, materialize inputs steps (.string "$steps.create.outputs.item#/id") = .ok v ↔
        ((lookup "create".toList steps).bind (lookup "item".toList)).bind (fun w => w.pointer "/id") =
          some v := by
  have h := @expressions_exact_iff ["user".toList, "id".toList] "create" "item" "/id" (by decide)
    (by decide) (by decide)
  exact ⟨h.1.mpr (by decide), h.2.1.mpr (by decide)⟩

/-- A key with a slash selects another key's value, and an output with a hash
    sign selects another output. -/
theorem expressions_inexact :
    materialize (.object [("a/b", .bool true), ("a", .object [("b", .bool false)])]) []
        (.string "$inputs.a/b") = .ok (.bool false) ∧
      materialize .null [("s", [("o#x", .bool true), ("o", .object [("x#", .bool false)])])]
        (.string "$steps.s.outputs.o#x#") = .error (.invalid
          "runtime expression \"$steps.s.outputs.o#x#\" pointer did not match") ∧
      ¬ ∀ inputs steps v, materialize inputs steps (.string "$inputs.a/b") = .ok v ↔
        inputs.descend ["a/b".toList] = some v := by
  have hread : materialize (.object [("a/b", .bool true), ("a", .object [("b", .bool false)])]) []
      (.string "$inputs.a/b") = .ok (.bool false) := by decide
  refine ⟨hread, by decide, fun h => ?_⟩
  have hvalue := (h _ _ _).mp hread
  exact absurd hvalue (by decide)

end Kahea
