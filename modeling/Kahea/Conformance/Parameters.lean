import Kahea.Base.Search
import Kahea.Base.Query
import Kahea.Conformance.Mutation
import Kahea.Plan.Confinement

/-!
# Negative Parameters

How a campaign removes a parameter from a request or replaces its value.

Both work on the finished request. For a query, a header or a cookie that is
enough: the occurrences of the parameter are found by name, and everything else
is written back as it was read. A path has no names in it. The first segment
with the recorded text of the parameter is replaced, and all segments are
written again. So the change stays within the parameter exactly when that
segment is one of the placeholder's and the others survive being written:
`IsolatedSegment` says so for one request.

## Main definitions

* `removeParameter`, `replaceParameter`: The two mutations.
* `placeholderSegments`: The segments the placeholder of a parameter produced.
* `OnlyParameter`: A request differs from another in one parameter.
* `IsolatedSegment`: The condition on the segments of a path.

## Theorems

* `removeParameter_only`: Removing a parameter changes nothing else.
* `replaceSegment_only`: When replacing a segment changes nothing else.
* `mutation_isolated_iff`: When a mutation stays within the parameter.
* `mutation_isolated_profile`, `mutation_not_isolated_base`: Two requests.
-/

namespace Kahea

/-! ### The mutations -/

/-- The first element that a predicate picks, updated. -/
def updateFirst {α : Type} (p : α → Bool) (f : α → Option α) : List α → Option (List α)
  | [] => none
  | x :: rest =>
      if p x then (f x).map (fun y => y :: rest) else (updateFirst p f rest).map (fun ys => x :: ys)

/-- The query without a parameter, when it has it. -/
def removeQuery (u : Url) (name : Str) : Option Url :=
  let retained := u.queryPairs.filter (fun p => p.1 ≠ name)
  if retained.length = u.queryPairs.length then none
  else some ({ u with query := none }.appendPairs retained)

/-- The query with the values of a parameter replaced, when it has it. -/
def replaceQuery (u : Url) (name value : Str) : Option Url :=
  if u.queryPairs.any (fun p => p.1 = name) then
    some ({ u with query := none }.appendPairs
      (u.queryPairs.map (fun (p : Str × Str) => if p.1 = name then (p.1, value) else p)))
  else none

/-- The path with the first segment of the old text replaced, when there is
    one. -/
def replaceSegment (u : Url) (old value : Str) : Option Url :=
  u.pathSegments.bind (fun segments => (segments.findIdx? (fun s => s = old)).map (fun index =>
    u.setSegments (segments.set index value)))

/-- The pair of one part of a cookie header. -/
def cookiePair (part : Str) : Option (Str × Str) := splitOnce "=" (trim part)

/-- The pairs of a cookie header. -/
def cookiePairs (text : Str) : List (Str × Str) := (text.splitOn ';').filterMap cookiePair

/-- The pair of a mutated cookie header. -/
def mutatedPair (name : Str) (replacement : Option Str) (pair : Str × Str) : Option Str :=
  if pair.1 = name then replacement.map (fun value => pair.1 ++ '=' :: value)
  else some (pair.1 ++ '=' :: pair.2)

/-- A cookie header with one cookie replaced or removed, when it has it. -/
def mutatedCookie (name : Str) (replacement : Option Str) (header : PlannedHeader) :
    Option PlannedHeader :=
  if (cookiePairs header.value).any (fun p => p.1 = name) then
    some { header with
      value := join "; " ((cookiePairs header.value).filterMap (mutatedPair name replacement)) }
  else none

def hasName (name : Str) (header : PlannedHeader) : Bool := eqIgnoreCase header.name name

/-- The function `mutate_cookie`. -/
def mutateCookie (plan : RequestPlan) (name : Str) (replacement : Option Str) :
    Option RequestPlan :=
  (updateFirst (hasName "cookie") (mutatedCookie name replacement) plan.headers).map
    (fun headers => { plan with headers := headers })

/-- The text recorded for a path parameter. -/
def recordedWire (plan : RequestPlan) (name : Str) : Option Str :=
  (plan.derivations.find? (fun d => d.field = "path." ++ name)).bind FieldDerivation.wireValue

section

variable (lib : Crates)

/-- The target of a plan, parsed again. -/
def parsedTarget (plan : RequestPlan) : Except ConformanceError Url :=
  match lib.parseUrl plan.target with
  | .ok u => .ok u
  | .error e => .error (.plan e)

/-- The function `remove_parameter`: the mutated plan, when it has the
    parameter. -/
def removeParameter (plan : RequestPlan) (location name : Str) :
    Except ConformanceError (Option RequestPlan) :=
  if location = "query" then
    (parsedTarget lib plan).map (fun u => (removeQuery u name).map (fun v =>
      { plan with target := v.serialize }))
  else if location = "header" then
    let retained := plan.headers.filter (fun h => !hasName name h)
    .ok (if plan.headers.length = retained.length then none
      else some { plan with headers := retained })
  else if location = "cookie" then .ok (mutateCookie plan name none)
  else .ok none

/-- The function `replace_parameter`: the mutated plan, when it has the
    parameter. -/
def replaceParameter (plan : RequestPlan) (location name value : Str) :
    Except ConformanceError (Option RequestPlan) :=
  if location = "query" then
    (parsedTarget lib plan).map (fun u => (replaceQuery u name value).map (fun v =>
      { plan with target := v.serialize }))
  else if location = "header" then
    .ok ((updateFirst (hasName name) (fun h => some { h with value := value }) plan.headers).map
      (fun headers => { plan with headers := headers }))
  else if location = "cookie" then .ok (mutateCookie plan name (some value))
  else if location = "path" then
    match recordedWire plan name with
    | none => .ok none
    | some old => (parsedTarget lib plan).map (fun u => (replaceSegment u old value).map (fun v =>
        { plan with target := v.serialize }))
  else .ok none

end

/-! ### What may change -/

/-- The segments that the placeholder of a parameter is part of: those of the
    template come after those of the base. -/
def placeholderSegments (base : Url) (template name : Str) : List Nat :=
  ((templateSegments template).zipIdx base.baseSegments.length).filterMap (fun s =>
    if s.1.contains (.hole name) then some s.2 else none)

/-- Two lists of segments agree outside some places. -/
def AgreeOutside (places : List Nat) (before after : List Str) : Prop :=
  after.length = before.length ∧ ∀ k, k ∉ places → after[k]? = before[k]?

/-- A URL differs from another in one parameter at most. -/
structure UrlOnly (location name : Str) (places : List Nat) (u v : Url) : Prop where
  rest : v = { u with path := v.path, query := v.query }
  query : location ≠ "query".toList → v.query = u.query
  pairs : v.queryPairs.filter (fun p => p.1 ≠ name) = u.queryPairs.filter (fun p => p.1 ≠ name)
  path : location ≠ "path".toList → v.path = u.path
  segments : AgreeOutside places u.segments v.segments

/-- The cookies of a header differ from those of another in one name at most. -/
def CookieOnly (name : Str) (before after : PlannedHeader) : Prop :=
  after.name = before.name ∧
    (cookiePairs after.value).filter (fun p => p.1 ≠ name) =
      (cookiePairs before.value).filter (fun p => p.1 ≠ name)

/-- The headers of a request differ from those of another in one parameter at
    most. -/
structure HeadersOnly (location name : Str) (before after : List PlannedHeader) : Prop where
  headers : location ≠ "header".toList → location ≠ "cookie".toList → after = before
  others : location = "header".toList →
    after.filter (fun h => !hasName name h) = before.filter (fun h => !hasName name h)
  cookies : location = "cookie".toList → ∃ first header header' rest,
    before = first ++ header :: rest ∧ after = first ++ header' :: rest ∧ CookieOnly name header header'

/-- A request differs from another in one parameter at most. -/
structure OnlyParameter (lib : Crates) (location name : Str) (places : List Nat)
    (before after : RequestPlan) : Prop where
  frame : after = { before with target := after.target, headers := after.headers }
  target : ∀ u v, lib.parseUrl before.target = .ok u → lib.parseUrl after.target = .ok v →
    UrlOnly location name places u v
  headers : HeadersOnly location name before.headers after.headers

/-- Replacing the segment at an index by a value changes no other: the segment
    is the parameter's, and the others survive being written again. -/
structure IsolatedSegment (segments : List Str) (places : List Nat) (index : Nat) (old value : Str) :
    Prop where
  place : index ∈ places ∨ value = old
  plain : ∀ k, k ≠ index → k ∉ places → ∀ s, segments[k]? = some s → s.all (fun c => !segmentSet c)
  dots : ∀ s ∈ segments.set index value, isLeftOut s = false
  first : (segments.set index value).head? = some [] → segments.length = 1

/-! ### Segments -/

section

variable {u : Url} {segments : List Str} {places : List Nat} {index : Nat} {old value : Str}

/-- Writing the segments changes those of the parameter only, exactly when the
    replaced one is isolated. -/
theorem replaceSegment_only (hsegments : u.pathSegments = some segments)
    (hindex : segments.findIdx? (fun s => s = old) = some index)
    (hplain : encodeSegment value = value) (hkept : isLeftOut value = false) :
    AgreeOutside places u.segments (u.setSegments (segments.set index value)).segments ↔
      IsolatedSegment segments places index old value := by
  rw [List.findIdx?_eq_some_iff_getElem] at hindex
  rcases hindex with ⟨hlt, hold, _⟩
  have hold : segments[index]? = some old := by
    rw [List.getElem?_eq_getElem hlt, of_decide_eq_true hold]
  have hne : segments.set index value ≠ [] := by
    intro h
    have hlength := congrArg List.length h
    rw [List.length_set, List.length_nil] at hlength
    omega
  rw [Url.pathSegments_eq_some hsegments, Url.setSegments_segments, AgreeOutside]
  constructor
  · rintro ⟨hlength, hsame⟩
    have hkeeps : (∀ s ∈ segments.set index value, isLeftOut s = false) ∧
        ((segments.set index value).head? = some [] → (segments.set index value).length = 1) := by
      rcases keptSegments_length hne (by rw [hlength, List.length_set]) with h | ⟨s, hs, hout⟩
      · exact h
      · -- A single segment is the replaced one.
        have hmem : value ∈ segments.set index value := List.mem_set hlt value
        rw [hs, List.mem_singleton] at hmem
        rw [← hmem, hkept] at hout
        cases hout
    rw [keptSegments_eq_map hkeeps.1 hkeeps.2 hne] at hsame
    rw [List.length_set] at hkeeps
    refine ⟨?_, fun k hk hplace s hs => ?_, hkeeps.1, hkeeps.2⟩
    · by_cases hplace : index ∈ places
      · exact Or.inl hplace
      · have h := hsame index hplace
        rw [List.getElem?_map, List.getElem?_set_self hlt, Option.map_some, hplain, hold,
          Option.some.injEq] at h
        exact Or.inr h
    · have h := hsame k hplace
      rw [List.getElem?_map, List.getElem?_set_ne (Ne.symm hk), hs, Option.map_some,
        Option.some.injEq] at h
      exact encodeSegment_eq_self.mp h
  · rintro ⟨hplace, hothers, hdots, hfirst⟩
    rw [keptSegments_eq_map hdots (by rw [List.length_set]; exact hfirst) hne]
    refine ⟨by rw [List.length_map, List.length_set], fun k hk => ?_⟩
    rw [List.getElem?_map]
    by_cases hki : k = index
    · rw [hki] at hk ⊢
      rw [List.getElem?_set_self hlt, Option.map_some, hplain, hold]
      exact congrArg some (hplace.resolve_left hk)
    · rw [List.getElem?_set_ne (Ne.symm hki)]
      cases hs : segments[k]? with
      | none => rfl
      | some s => rw [Option.map_some, encodeSegment_eq_self.mpr (hothers k hki hk s hs)]

end

/-! ### Queries, headers and cookies -/

theorem AgreeOutside.refl (places : List Nat) (segments : List Str) :
    AgreeOutside places segments segments := ⟨rfl, fun _ _ => rfl⟩

theorem UrlOnly.refl (location name : Str) (places : List Nat) (u : Url) :
    UrlOnly location name places u u :=
  ⟨rfl, fun _ => rfl, rfl, fun _ => rfl, .refl _ _⟩

/-- Writing pairs in the place of a query that differ in one name only. -/
theorem urlOnly_query {name : Str} {places : List Nat} {u : Url} {pairs : List (Str × Str)}
    (h : pairs.filter (fun p => p.1 ≠ name) = u.queryPairs.filter (fun p => p.1 ≠ name)) :
    UrlOnly "query" name places u ({ u with query := none }.appendPairs pairs) := by
  have hpath : ({ u with query := none }.appendPairs pairs : Url).path = u.path :=
    Url.appendPairs_path _ _
  refine ⟨?_, fun hno => absurd rfl hno, ?_, fun _ => hpath, ?_⟩
  · rw [Url.appendPairs_eq]
  · rw [Url.queryPairs_appendPairs]
    exact h
  · have hsegments : ({ u with query := none }.appendPairs pairs : Url).segments = u.segments := by
      rw [Url.segments, Url.segments]
      exact congrArg (fun path => (path.drop 1).splitOn '/') hpath
    rw [hsegments]
    exact .refl _ _

theorem removeQuery_only {name : Str} {places : List Nat} {u v : Url}
    (h : removeQuery u name = some v) : UrlOnly "query" name places u v := by
  unfold removeQuery at h
  dsimp only at h
  split_ifs at h
  cases h
  refine urlOnly_query ?_
  rw [List.filter_filter]
  simp only [Bool.and_self]

theorem replaceQuery_only {name value : Str} {places : List Nat} {u v : Url}
    (h : replaceQuery u name value = some v) : UrlOnly "query" name places u v := by
  unfold replaceQuery at h
  split_ifs at h
  cases h
  refine urlOnly_query ?_
  induction u.queryPairs with
  | nil => rfl
  | cons p pairs ih =>
      rw [List.map_cons]
      by_cases hp : p.1 = name
      · rw [if_pos hp, List.filter_cons_of_neg (by simp [hp]), List.filter_cons_of_neg (by simp [hp]),
          ih]
      · rw [if_neg hp, List.filter_cons_of_pos (by simpa using hp),
          List.filter_cons_of_pos (by simpa using hp), ih]

/-- What updating the first element does. -/
theorem updateFirst_eq_some {α : Type} {p : α → Bool} {f : α → Option α} {l l' : List α}
    (h : updateFirst p f l = some l') :
    ∃ first x y rest, l = first ++ x :: rest ∧ l' = first ++ y :: rest ∧ p x = true ∧ f x = some y := by
  induction l generalizing l' with
  | nil => cases h
  | cons x l ih =>
      unfold updateFirst at h
      split_ifs at h with hx
      · rcases Option.map_eq_some_iff.mp h with ⟨y, hy, rfl⟩
        exact ⟨[], x, y, l, rfl, rfl, hx, hy⟩
      · rcases Option.map_eq_some_iff.mp h with ⟨ys, hys, rfl⟩
        rcases ih hys with ⟨first, z, y, rest, hl, hl', hz, hy⟩
        exact ⟨x :: first, z, y, rest, by rw [hl]; rfl, by rw [hl']; rfl, hz, hy⟩

/-- The separator is the first of its kind. -/
theorem not_mem_of_splitOnce {c : Char} {s a b : Str} (h : splitOnce [c] s = some (a, b)) : c ∉ a := by
  induction s generalizing a with
  | nil => cases h
  | cons d s ih =>
      rw [splitOnce] at h
      by_cases hd : c = d
      · rw [hd, stripPrefix, if_pos rfl, stripPrefix] at h
        cases h
        exact List.not_mem_nil
      · rw [stripPrefix, if_neg hd] at h
        rcases Option.map_eq_some_iff.mp h with ⟨⟨a', b'⟩, hab, heq⟩
        cases heq
        rw [List.mem_cons, not_or]
        exact ⟨hd, ih hab⟩

theorem filterMap_cons_toList {α β : Type} (f : α → Option β) (x : α) (xs : List α) :
    (x :: xs).filterMap f = (f x).toList ++ xs.filterMap f := by
  rw [List.filterMap_cons]
  cases f x <;> rfl

theorem cookiePairs_cons {t : Str} (h : ';' ∉ t) (s : Str) :
    cookiePairs (t ++ ';' :: ' ' :: s) = (cookiePair t).toList ++ cookiePairs s := by
  have hspace : cookiePairs (' ' :: s) = cookiePairs s := by
    rw [cookiePairs, List.splitOn_cons_eq_if_modifyHead, if_neg (by decide), cookiePairs]
    cases hs : s.splitOn ';' with
    | nil => rfl
    | cons part parts =>
        rw [List.modifyHead_cons, List.filterMap_cons, List.filterMap_cons, cookiePair, trim_space,
          ← cookiePair]
  rw [cookiePairs, List.splitOn_append_cons_self, List.splitOn_eq_singleton h, List.filterMap_append,
    ← cookiePairs, hspace]
  rw [filterMap_cons_toList, List.filterMap_nil, List.append_nil]

/-- The cookies of parts put together are those of the parts. -/
theorem cookiePairs_join {parts : List Str} (h : ∀ t ∈ parts, ';' ∉ t) :
    cookiePairs (join "; " parts) = parts.filterMap cookiePair := by
  induction parts with
  | nil => rfl
  | cons t parts ih =>
      rw [List.forall_mem_cons] at h
      cases parts with
      | nil =>
          rw [join, List.intercalate_singleton, cookiePairs, List.splitOn_eq_singleton h.1]
      | cons t' parts =>
          have hjoin : join "; " (t :: t' :: parts) = t ++ ';' :: ' ' :: join "; " (t' :: parts) := by
            rw [join, List.intercalate_cons_cons, ← join, List.append_assoc]
            rfl
          rw [hjoin, cookiePairs_cons h.1, ih h.2, ← filterMap_cons_toList]

/-- A value that can be written into any request. -/
structure Harmless (value : Str) : Prop where
  separator : ';' ∉ value
  last : ∀ c, value.getLast? = some c → isWhiteSpace c = false
  encoded : encodeSegment value = value
  kept : isLeftOut value = false

theorem last_of_all {value : Str} (h : value.getLast?.all (fun c => !isWhiteSpace c) = true) :
    ∀ c, value.getLast? = some c → isWhiteSpace c = false := by
  intro c hc
  rw [hc, Option.all_some, Bool.not_eq_true'] at h
  exact h

/-- The texts a campaign sends are harmless. -/
theorem harmless_invalidScalar {schema : Value} {value : Str} (h : invalidScalar schema = some value) :
    Harmless value := by
  -- The texts an invalid scalar can be.
  have hvalue : value ∈ [outsideEnum, "not-a-number".toList, "not-a-boolean".toList, []] := by
    unfold invalidScalar at h
    split_ifs at h with henum
    · rw [Option.some.injEq] at h
      rw [← h]
      exact List.mem_cons_self
    · cases hkind : singleType schema with
      | none =>
          rw [hkind] at h
          cases h
      | some kind =>
          rw [hkind] at h
          dsimp only at h
          split_ifs at h
          · cases h
            simp
          · cases h
            simp
          · cases h
            simp
  simp only [List.mem_cons, List.not_mem_nil, or_false] at hvalue
  -- None of them holds a character that would be read as structure.
  rcases hvalue with rfl | rfl | rfl | rfl
  · exact ⟨by decide, last_of_all (by decide), by decide +kernel, by decide⟩
  · exact ⟨by decide, last_of_all (by decide), by decide +kernel, by decide⟩
  · exact ⟨by decide, last_of_all (by decide), by decide +kernel, by decide⟩
  · exact ⟨by decide, nofun, rfl, by decide⟩

/-- The pair of a mutated cookie: the same, where the name is another. -/
theorem cookiePair_mutated {name text : Str} {replacement : Option Str}
    (hreplacement : ∀ value ∈ replacement, Harmless value) {pair : Str × Str}
    (hpair : pair ∈ cookiePairs text) {part : Str} (h : mutatedPair name replacement pair = some part) :
    ';' ∉ part ∧ ∃ value, cookiePair part = some (pair.1, value) ∧ (pair.1 ≠ name → value = pair.2) := by
  rcases List.mem_filterMap.mp hpair with ⟨old, hold, hsplit⟩
  unfold cookiePair at hsplit
  have htext : trim old = pair.1 ++ "=".toList ++ pair.2 := splitOnce_eq_some _ _ _ _ hsplit
  have hname : '=' ∉ pair.1 := not_mem_of_splitOnce hsplit
  have hsep : ';' ∉ trim old := fun hmem =>
    not_mem_of_mem_splitOn hold
      ((List.dropWhile_suffix _).mem ((List.rdropWhile_prefix _ _).mem hmem))
  have htrimmed := trimmed_trim old
  rw [htext] at hsep htrimmed
  -- What follows the name may be anything that keeps the text trimmed.
  have hwritten (value : Str) (hvalue : ';' ∉ value)
      (hlast : ∀ c, value.getLast? = some c → isWhiteSpace c = false) :
      ';' ∉ pair.1 ++ '=' :: value ∧ cookiePair (pair.1 ++ '=' :: value) = some (pair.1, value) := by
    constructor
    · rw [List.mem_append, List.mem_cons, not_or, not_or]
      refine ⟨fun hmem => hsep ?_, by decide, hvalue⟩
      rw [List.append_assoc, List.mem_append]
      exact Or.inl hmem
    · have htrim : Trimmed (pair.1 ++ '=' :: value) := by
        constructor
        · intro c hc
          refine htrimmed.1 c ?_
          cases hfirst : pair.1 with
          | nil =>
              rw [hfirst] at hc
              exact hc
          | cons d rest =>
              rw [hfirst] at hc
              exact hc
        · intro c hc
          rw [List.getLast?_append, List.getLast?_cons, Option.some_or, Option.some.injEq] at hc
          cases hvalueLast : value.getLast? with
          | none =>
              rw [hvalueLast, Option.getD_none] at hc
              rw [← hc]
              decide
          | some d =>
              rw [hvalueLast, Option.getD_some] at hc
              rw [← hc]
              exact hlast d hvalueLast
      rw [cookiePair, htrim.trim_eq]
      exact splitOnce_singleton hname value
  unfold mutatedPair at h
  split_ifs at h with hsame
  · rcases Option.map_eq_some_iff.mp h with ⟨value, hvalue, rfl⟩
    have hharmless := hreplacement value hvalue
    rcases hwritten value hharmless.separator hharmless.last with ⟨hno, hpairValue⟩
    exact ⟨hno, value, hpairValue, fun hne => absurd hsame hne⟩
  · cases h
    have hvalue : ';' ∉ pair.2 := fun hmem => hsep (List.mem_append_right _ hmem)
    have hlast : ∀ c, pair.2.getLast? = some c → isWhiteSpace c = false := by
      intro c hc
      refine htrimmed.2 c ?_
      rw [List.getLast?_append, hc, Option.some_or]
    rcases hwritten pair.2 hvalue hlast with ⟨hno, hpairValue⟩
    exact ⟨hno, pair.2, hpairValue, fun _ => rfl⟩

theorem mutatedCookie_only {name : Str} {replacement : Option Str}
    (hreplacement : ∀ value ∈ replacement, Harmless value) {header header' : PlannedHeader}
    (h : mutatedCookie name replacement header = some header') : CookieOnly name header header' := by
  unfold mutatedCookie at h
  split_ifs at h
  cases h
  refine ⟨rfl, ?_⟩
  dsimp only
  have hparts : ∀ part ∈ (cookiePairs header.value).filterMap (mutatedPair name replacement),
      ';' ∉ part := by
    intro part hpart
    rcases List.mem_filterMap.mp hpart with ⟨pair, hpair, hmutated⟩
    exact (cookiePair_mutated hreplacement hpair hmutated).1
  rw [cookiePairs_join hparts]
  have hall : ∀ pair ∈ cookiePairs header.value, ∀ part,
      mutatedPair name replacement pair = some part →
        ∃ value, cookiePair part = some (pair.1, value) ∧ (pair.1 ≠ name → value = pair.2) :=
    fun pair hpair part hpart => (cookiePair_mutated hreplacement hpair hpart).2
  generalize cookiePairs header.value = pairs at hall ⊢
  induction pairs with
  | nil => rfl
  | cons pair pairs ih =>
      rw [List.forall_mem_cons] at hall
      rw [filterMap_cons_toList, List.filterMap_append, List.filter_append, ih hall.2]
      cases hmutated : mutatedPair name replacement pair with
      | none =>
          -- Only a cookie of the name is removed.
          have hsame : pair.1 = name := by
            unfold mutatedPair at hmutated
            split_ifs at hmutated with hsame
            exact hsame
          rw [List.filter_cons_of_neg (by simpa using hsame)]
          rfl
      | some part =>
          rcases hall.1 part hmutated with ⟨value, hvalue, hother⟩
          rw [Option.toList_some, filterMap_cons_toList, hvalue]
          by_cases hsame : pair.1 = name
          · rw [List.filter_cons_of_neg (by simpa using hsame)]
            simp [hsame]
          · rw [List.filter_cons_of_pos (by simpa using hsame), hother hsame]
            simp [hsame]

theorem headersOnly_refl {location : Str} (name : Str) (headers : List PlannedHeader)
    (hcookie : location ≠ "cookie".toList) : HeadersOnly location name headers headers :=
  ⟨fun _ _ => rfl, fun _ => rfl, fun h => absurd h hcookie⟩

section

variable {lib : Crates} {plan after : RequestPlan} {location name value : Str} {places : List Nat}
  {u : Url}

/-- A mutated query. -/
theorem onlyParameter_query {v : Url} (hparse : lib.parseUrl plan.target = .ok u)
    (hround : lib.parseUrl v.serialize = .ok v) (h : UrlOnly "query" name places u v) :
    OnlyParameter lib "query" name places plan { plan with target := v.serialize } := by
  refine ⟨rfl, fun u' v' hu hv => ?_, headersOnly_refl name _ (by decide)⟩
  rw [hparse, Except.ok.injEq] at hu
  rw [hround, Except.ok.injEq] at hv
  rw [← hu, ← hv]
  exact h

/-- Mutated headers. -/
theorem onlyParameter_headers {headers : List PlannedHeader}
    (h : HeadersOnly location name plan.headers headers) :
    OnlyParameter lib location name places plan { plan with headers := headers } := by
  refine ⟨rfl, fun u v hu hv => ?_, h⟩
  have hv : lib.parseUrl plan.target = .ok v := hv
  rw [hu, Except.ok.injEq] at hv
  rw [hv]
  exact .refl _ _ _ _

theorem mutateCookie_only {replacement : Option Str}
    (hreplacement : ∀ value ∈ replacement, Harmless value)
    (h : mutateCookie plan name replacement = some after) :
    OnlyParameter lib "cookie" name places plan after := by
  rcases Option.map_eq_some_iff.mp h with ⟨headers, hheaders, rfl⟩
  rcases updateFirst_eq_some hheaders with ⟨first, header, header', rest, hbefore, hafter, _, hmutated⟩
  refine onlyParameter_headers ⟨fun _ hno => absurd rfl hno, fun h => absurd h (by decide), fun _ => ?_⟩
  exact ⟨first, header, header', rest, hbefore, hafter, mutatedCookie_only hreplacement hmutated⟩

/-- Removing a parameter changes nothing else. -/
theorem removeParameter_only (hparse : lib.parseUrl plan.target = .ok u)
    (hround : ∀ v, removeQuery u name = some v → lib.parseUrl v.serialize = .ok v)
    (h : removeParameter lib plan location name = .ok (some after)) :
    OnlyParameter lib location name places plan after := by
  unfold removeParameter at h
  -- A query, a header or a cookie; anything else is left in place.
  split_ifs at h with hquery hheader hcookie
  · subst hquery
    rw [parsedTarget, hparse] at h
    simp only [Except.map, Except.ok.injEq, Option.map_eq_some_iff] at h
    rcases h with ⟨v, hv, rfl⟩
    exact onlyParameter_query hparse (hround v hv) (removeQuery_only hv)
  · subst hheader
    simp only [Except.ok.injEq, Option.ite_none_left_eq_some, Option.some.injEq] at h
    rw [← h.2]
    refine onlyParameter_headers ⟨fun hno => absurd rfl hno, fun _ => ?_, fun h => absurd h (by decide)⟩
    rw [List.filter_filter]
    simp only [Bool.and_self]
  · subst hcookie
    rw [Except.ok.injEq] at h
    exact mutateCookie_only (fun v hv => absurd hv (Option.not_mem_none v)) h
  · cases h

/-- Outside paths replacing a parameter changes nothing else. -/
theorem replaceParameter_only (hvalue : Harmless value) (hpath : location ≠ "path".toList)
    (hparse : lib.parseUrl plan.target = .ok u)
    (hround : ∀ v, replaceQuery u name value = some v → lib.parseUrl v.serialize = .ok v)
    (h : replaceParameter lib plan location name value = .ok (some after)) :
    OnlyParameter lib location name places plan after := by
  unfold replaceParameter at h
  split_ifs at h with hquery hheader hcookie
  · subst hquery
    rw [parsedTarget, hparse] at h
    simp only [Except.map, Except.ok.injEq, Option.map_eq_some_iff] at h
    rcases h with ⟨v, hv, rfl⟩
    exact onlyParameter_query hparse (hround v hv) (replaceQuery_only hv)
  · subst hheader
    rw [Except.ok.injEq] at h
    rcases Option.map_eq_some_iff.mp h with ⟨headers, hheaders, rfl⟩
    rcases updateFirst_eq_some hheaders with ⟨first, x, y, rest, hbefore, hafter, hx, hy⟩
    refine onlyParameter_headers ⟨fun hno => absurd rfl hno, fun _ => ?_, fun h => absurd h (by decide)⟩
    -- Both the old and the new header have the name.
    have hy' : hasName name y = true := by
      cases hy
      exact hx
    rw [hbefore, hafter, List.filter_append, List.filter_append,
      List.filter_cons_of_neg (by simpa using hy'), List.filter_cons_of_neg (by simpa using hx)]
  · subst hcookie
    rw [Except.ok.injEq] at h
    refine mutateCookie_only (fun v hv => ?_) h
    rw [Option.mem_some_iff] at hv
    rw [← hv]
    exact hvalue
  · cases h

/-- Replacing a parameter in the path replaces the segment of its recorded
    text. -/
theorem replaceParameter_path (name value : Str) (hparse : lib.parseUrl plan.target = .ok u) :
    replaceParameter lib plan "path" name value =
      .ok (((recordedWire plan name).bind (fun old => replaceSegment u old value)).map
        (fun v => { plan with target := v.serialize })) := by
  have hstep : replaceParameter lib plan "path" name value = match recordedWire plan name with
      | none => .ok none
      | some old => (parsedTarget lib plan).map (fun u => (replaceSegment u old value).map (fun v =>
          { plan with target := v.serialize })) := by
    rw [replaceParameter]
    rfl
  rw [hstep]
  cases recordedWire plan name with
  | none => rfl
  | some old =>
      rw [parsedTarget, hparse]
      rfl

/-- A mutation changes nothing but the parameter exactly when, for a path, the
    segment replaced is isolated. -/
theorem mutation_isolated_iff {base : Url} {template : Str} {schema : Value}
    (hparse : lib.parseUrl plan.target = .ok u) (hvalue : invalidScalar schema = some value)
    (hround : ∀ v, removeQuery u name = some v ∨ replaceQuery u name value = some v ∨
      (recordedWire plan name).bind (fun old => replaceSegment u old value) = some v →
        lib.parseUrl v.serialize = .ok v) :
    (∀ after, removeParameter lib plan location name = .ok (some after) ∨
        replaceParameter lib plan location name value = .ok (some after) →
      OnlyParameter lib location name (placeholderSegments base template name) plan after) ↔
    (location = "path".toList → ∀ old segments index, recordedWire plan name = some old →
      u.pathSegments = some segments → segments.findIdx? (fun s => s = old) = some index →
        IsolatedSegment segments (placeholderSegments base template name) index old value) := by
  have hharmless := harmless_invalidScalar hvalue
  by_cases hpath : location = "path".toList
  · subst hpath
    -- A path parameter is never left out.
    have hremove : removeParameter lib plan "path" name = .ok none := rfl
    constructor
    -- The segment replaced is the first equal to the recorded text.
    · intro hall _ old segments index hold hsegments hindex
      have hreplaced : (recordedWire plan name).bind (fun old => replaceSegment u old value) =
          some (u.setSegments (segments.set index value)) := by
        rw [hold, Option.bind_some, replaceSegment, hsegments, Option.bind_some, hindex,
          Option.map_some]
      have hrun := replaceParameter_path name value hparse
      rw [hreplaced, Option.map_some] at hrun
      have honly := hall _ (Or.inr hrun)
      have hv := hround _ (Or.inr (Or.inr hreplaced))
      exact (replaceSegment_only hsegments hindex hharmless.encoded hharmless.kept).mp
        (honly.target _ _ hparse hv).segments
    -- The rest of the target is untouched, whichever segment that was.
    · intro hcondition after hafter
      rcases hafter with hafter | hafter
      · rw [hremove] at hafter
        cases hafter
      · rw [replaceParameter_path name value hparse, Except.ok.injEq] at hafter
        rcases Option.map_eq_some_iff.mp hafter with ⟨v, hreplaced, rfl⟩
        have hv := hround v (Or.inr (Or.inr hreplaced))
        rcases Option.bind_eq_some_iff.mp hreplaced with ⟨old, hold, hsegment⟩
        rcases Option.bind_eq_some_iff.mp hsegment with ⟨segments, hsegments, hset⟩
        rcases Option.map_eq_some_iff.mp hset with ⟨index, hindex, rfl⟩
        have hagree := (replaceSegment_only hsegments hindex hharmless.encoded hharmless.kept).mpr
          (hcondition rfl old segments index hold hsegments hindex)
        refine ⟨rfl, fun u' v' hu' hv' => ?_, headersOnly_refl name _ (by decide)⟩
        rw [hparse, Except.ok.injEq] at hu'
        rw [hv, Except.ok.injEq] at hv'
        rw [← hu', ← hv']
        exact ⟨rfl, fun _ => rfl, rfl, fun hno => absurd rfl hno, hagree⟩
  -- Elsewhere the parameter is found by its name.
  · refine iff_of_true (fun after hafter => ?_) (fun h => absurd h hpath)
    rcases hafter with hafter | hafter
    · exact removeParameter_only hparse (fun v hv => hround v (Or.inl hv)) hafter
    · exact replaceParameter_only hharmless hpath hparse
        (fun v hv => hround v (Or.inr (Or.inl hv))) hafter

end

/-! ### The segments of a planned request -/

/-- The schema of a number. -/
def numberSchema : Value := jsonObject [("type", .string "integer")]

/-- A path on the host of the profile operation. -/
def profileUrl (path : Str) : Url :=
  ⟨"https", [], none, some "api.example.com".toList, none, path, none, none⟩

/-- The plan of one user's profile. -/
theorem profile_plan (id target wire : Str)
    (h : (buildPlanWithConfiguration referenceCrates referenceWorld itemsSource readProfile
      (profileOptions id) .default []).1.toOption.map
        (fun plan => (plan.target, recordedWire plan "id")) = some (target, some wire)) :
    ∃ plan, (buildPlanWithConfiguration referenceCrates referenceWorld itemsSource readProfile
        (profileOptions id) .default []).1 = .ok plan ∧
      plan.target = target ∧ recordedWire plan "id" = some wire := by
  rcases exists_ok_of_toOption h with ⟨plan, hok, hparts⟩
  rw [Prod.mk.injEq] at hparts
  exact ⟨plan, hok, hparts⟩

/-- A user whose name is no other segment is replaced alone. -/
theorem mutation_isolated_profile :
    ∃ plan, (buildPlanWithConfiguration referenceCrates referenceWorld itemsSource readProfile
        (profileOptions "42") .default []).1 = .ok plan ∧
      (∃ after, replaceParameter referenceCrates plan "path" "id" "not-a-number" =
        .ok (some after)) ∧
      ∀ after, removeParameter referenceCrates plan "path" "id" = .ok (some after) ∨
          replaceParameter referenceCrates plan "path" "id" "not-a-number" = .ok (some after) →
        OnlyParameter referenceCrates "path" "id"
          (placeholderSegments (profileUrl "/v1") readProfile.path "id") plan after := by
  rcases profile_plan "42" "https://api.example.com/v1/users/42/profile" "42"
    (by decide +kernel) with ⟨plan, hok, htarget, hwire⟩
  have hparse : referenceCrates.parseUrl plan.target = .ok
      (profileUrl "/v1/users/42/profile") := by
    rw [htarget]
    decide +kernel
  have hreplaced : replaceSegment (profileUrl "/v1/users/42/profile") "42"
      "not-a-number" = some (profileUrl "/v1/users/not-a-number/profile") := by
    decide +kernel
  have hvalue : invalidScalar numberSchema = some "not-a-number".toList := by decide +kernel
  refine ⟨plan, hok, ?_, (mutation_isolated_iff hparse hvalue ?_).mpr ?_⟩
  -- The path is changed.
  · rw [replaceParameter_path _ _ hparse, hwire, Option.bind_some, hreplaced]
    exact ⟨_, rfl⟩
  · rw [hwire, Option.bind_some, hreplaced]
    rintro v (h | h | h)
    -- The URL has no query, so only the segment is replaced.
    · have hnone : removeQuery (profileUrl "/v1/users/42/profile") "id" = none := by decide +kernel
      rw [hnone] at h
      cases h
    · have hnone : replaceQuery (profileUrl "/v1/users/42/profile") "id" "not-a-number" = none := by
        decide +kernel
      rw [hnone] at h
      cases h
    · cases h
      decide +kernel
  · intro _ old segments index hold hsegments hindex
    rw [hwire, Option.some.injEq] at hold
    subst hold
    -- The text occurs in one segment only, the one of the template.
    have hfour : ((profileUrl "/v1/users/42/profile") : Url).pathSegments =
        some ["v1".toList, "users", "42", "profile"] := by decide +kernel
    rw [hfour, Option.some.injEq] at hsegments
    subst hsegments
    have htwo : ["v1".toList, "users", "42", "profile"].findIdx? (fun s => s = "42".toList) = some 2 := by
      decide +kernel
    rw [htwo, Option.some.injEq] at hindex
    subst hindex
    refine ⟨Or.inl (by decide +kernel), fun k _ _ s hs => ?_, by decide +kernel, by decide +kernel⟩
    have hall : ∀ s ∈ ["v1".toList, "users", "42", "profile"],
        s.all (fun c => !segmentSet c) = true := by decide +kernel
    exact hall s (List.mem_of_getElem? hs)

/-- A user named like a segment of the template is not replaced: the segment
    before is. -/
theorem mutation_not_isolated_base :
    ∃ plan, (buildPlanWithConfiguration referenceCrates referenceWorld itemsSource readProfile
        (profileOptions "users") .default []).1 = .ok plan ∧
      invalidScalar numberSchema = some "not-a-number".toList ∧
      ∃ after, replaceParameter referenceCrates plan "path" "id" "not-a-number" = .ok (some after) ∧
        after.target = "https://api.example.com/v1/not-a-number/users/profile".toList ∧
        ¬ OnlyParameter referenceCrates "path" "id"
          (placeholderSegments (profileUrl "/v1") readProfile.path "id") plan after := by
  rcases profile_plan "users" "https://api.example.com/v1/users/users/profile" "users"
    (by decide +kernel) with ⟨plan, hok, htarget, hwire⟩
  have hparse : referenceCrates.parseUrl plan.target = .ok
      (profileUrl "/v1/users/users/profile") := by
    rw [htarget]
    decide +kernel
  have hreplaced : replaceSegment (profileUrl "/v1/users/users/profile") "users"
      "not-a-number" = some (profileUrl "/v1/not-a-number/users/profile") := by
    decide +kernel
  have hrun := replaceParameter_path "id" "not-a-number" hparse
  rw [hwire, Option.bind_some, hreplaced, Option.map_some] at hrun
  have htext : (profileUrl "/v1/not-a-number/users/profile").serialize =
      "https://api.example.com/v1/not-a-number/users/profile".toList := by decide +kernel
  have hreparse : referenceCrates.parseUrl (profileUrl "/v1/not-a-number/users/profile").serialize =
      .ok (profileUrl "/v1/not-a-number/users/profile") := by decide +kernel
  refine ⟨plan, hok, by decide +kernel, _, hrun, htext, fun honly => ?_⟩
  -- The first segment of the template is not the placeholder's.
  have hsegments := (honly.target _ _ hparse hreparse).segments.2 1 (by decide +kernel)
  exact absurd hsegments (by decide +kernel)

end Kahea
