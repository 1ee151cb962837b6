import Kahea.Core.Reference
import Kahea.Plan.Production

/-!
# Path Parameters

Where the values of path parameters can make a planned request go.

A value is percent-encoded, put in the place of its placeholder, and the whole
is appended to the server's URL and parsed. The encoding leaves no delimiter of
a path in a value, so a value never opens or closes a segment; but it leaves
full stops alone, and the parser then removes segments that spell dots. A plan
is confined exactly when no segment of its filled template does.

## Main definitions

* `templateSegments`: The segments of a path template, in pieces.
* `pathWire`: The wire text of a path parameter.
* `PathConfined`: The target has the segments of the base and the template.
* `PlainRequest`: The base and the template need no repair by the parser.
* `NoDots`: No filled segment spells dots.

## Theorems

* `bindParameters_targetPath`: The path after the parameter loop.
* `target_segments`: The segments of the target.
* `pathConfined_iff_noDots`: When a plan is confined.
-/

namespace Kahea

/-! ### Filled templates -/

/-- The segments of a path template, in pieces. -/
def templateSegments (path : Str) : List (List Piece) :=
  ((path.drop 1).splitOn '/').map templatePieces

/-- The pieces of a path template, with its slashes. -/
def pathPieces (path : Str) : List Piece :=
  (templateSegments path).flatMap (fun s => .literal ['/'] :: s)

theorem templateText_pathPieces (path : Str) (h : path.head? = some '/') :
    templateText (pathPieces path) = path := by
  have hsegments : ∀ l : List Str,
      templateText ((l.map templatePieces).flatMap (fun s => .literal ['/'] :: s)) = pathText l := by
    intro l
    induction l with
    | nil => rfl
    | cons s rest ih =>
        rw [List.map_cons, List.flatMap_cons, templateText, List.flatMap_append, ← templateText,
          ← templateText, ih, templateText_cons, templateText_pieces]
        rfl
  rw [pathPieces, templateSegments, hsegments, pathText_splitOn]
  cases path with
  | nil => cases h
  | cons c cs =>
      rw [List.head?_cons, Option.some.injEq] at h
      rw [h, List.drop_succ_cons, List.drop_zero]

/-- The name and the wire text a declared path parameter is bound to. -/
def pathBinding (inputs : Inputs) (parameter : List (Str × Value)) : Option (Str × Str) :=
  let (location, name) := parameterKey parameter
  if location = "path" ∧ name ≠ [] then
    match (parameterValue inputs parameter location name).1 with
    | some (value, _) => match wireValues value parameter with
      | .ok wires => some (name, wires.headD [])
      | .error _ => none
    | none => none
  else none

/-- The wire text of a path parameter. -/
def pathWire (declared : List (List (Str × Value))) (inputs : Inputs) (name : Str) : Option Str :=
  declared.findSome? (fun p => (pathBinding inputs p).bind (fun b =>
    if b.1 = name then some b.2 else none))

/-- The encoded text of a path parameter. -/
def encodedWire (declared : List (List (Str × Value))) (inputs : Inputs) (name : Str) :
    Option Str :=
  (pathWire declared inputs name).map (percentEncode PATH_SEGMENT)

/-- A filled segment, as the planner fills it. -/
def filledSegment (declared : List (List (Str × Value))) (inputs : Inputs) (s : List Piece) : Str :=
  s.flatMap (Piece.fillWith (fun n => (encodedWire declared inputs n).getD []))

/-! ### The property and its condition -/

/-- The target has the segments of the base and then those of the template,
    where each placeholder is replaced by a text that decodes to the wire text
    of its parameter. -/
def PathConfined (lib : Crates) (server path : Str) (declared : List (List (Str × Value)))
    (inputs : Inputs) (target : Url) : Prop :=
  ∃ base, lib.parseUrl (trimEndMatches '/' server) = .ok base ∧
    ∃ fill : Str → Str,
      (∀ s ∈ templateSegments path, ∀ n, .hole n ∈ s →
        ∃ wire, pathWire declared inputs n = some wire ∧ percentDecode (fill n) = utf8 wire) ∧
      target.segments =
        base.baseSegments ++ (templateSegments path).map (List.flatMap (Piece.fillWith fill))

/-- A piece that the parser leaves as it is. -/
def Piece.Plain : Piece → Prop
  | literal s => s.all isPathChar = true
  | hole name => '\x7b' ∉ name ∧ '\x7d' ∉ name

instance (p : Piece) : Decidable p.Plain :=
  match p with
  | .literal s => inferInstanceAs (Decidable (s.all isPathChar = true))
  | .hole name => inferInstanceAs (Decidable ('\x7b' ∉ name ∧ '\x7d' ∉ name))

/-- The base is a web URL without query and fragment, and neither it nor the
    template has a character the parser would repair. -/
structure PlainRequest (lib : Crates) (server path : Str) (declared : List (List (Str × Value))) :
    Prop where
  base : ∃ base, lib.parseUrl (trimEndMatches '/' server) = .ok base ∧
    (base.scheme = "http" ∨ base.scheme = "https") ∧ base.query = none ∧ base.fragment = none
  plainEnd : PlainEnd (trimEndMatches '/' server)
  template : ∀ s ∈ templateSegments path, ∀ p ∈ s, p.Plain
  names : ∀ p ∈ declared, (parameterKey p).1 = "path" → '\x7d' ∉ (parameterKey p).2

/-- No segment of the template spells dots once it is filled. -/
def NoDots (path : Str) (declared : List (List (Str × Value))) (inputs : Inputs) : Prop :=
  ∀ s ∈ templateSegments path, isDots (filledSegment declared inputs s) = false

/-! ### Encoded values -/

/-- The characters of an encoded value are plain path characters. -/
theorem isPathChar_of_mem_encode {s : Str} {c : Char} (h : c ∈ percentEncode PATH_SEGMENT s) :
    isPathChar c = true := by
  have hascii : ∀ n, n < 128 → encodedChar PATH_SEGMENT (Char.ofNat n) = true →
      isPathChar (Char.ofNat n) = true := by decide +kernel
  have henc := mem_percentEncode PATH_SEGMENT s c h
  have hc := hascii c.toNat (toNat_lt_of_encodedChar henc)
  rw [Char.ofNat_toNat] at hc
  exact hc henc

theorem brace_not_mem_encode (s : Str) : '\x7b' ∉ percentEncode PATH_SEGMENT s := by
  intro h
  exact absurd (isPathChar_of_mem_encode h) (by decide)

/-! ### The parameter loop -/

section

variable {source : OpenApiSource} {operation : OperationDefinition} {stack : Nat}

/-- The binding of a parameter depends on the path inputs only. -/
theorem pathBinding_congr {inputs inputs' : Inputs} (h : inputs'.path = inputs.path)
    (parameter : List (Str × Value)) : pathBinding inputs' parameter = pathBinding inputs parameter := by
  unfold pathBinding
  split
  rename_i location name hkey
  split_ifs with hpath
  · have hvalues : inputs'.valuesOf location = inputs.valuesOf location := by
      rw [Inputs.valuesOf, Inputs.valuesOf, if_pos hpath.1, if_pos hpath.1, h]
    have hvalue : (parameterValue inputs' parameter location name).1
        = (parameterValue inputs parameter location name).1 := by
      simp only [parameterValue, Inputs.take, hvalues]
      cases lookup name (inputs.valuesOf location) <;> rfl
    rw [hvalue]
  · rfl

theorem pathBinding_key {inputs : Inputs} {parameter : List (Str × Value)} {name wire : Str}
    (h : pathBinding inputs parameter = some (name, wire)) :
    (parameterKey parameter).1 = "path" ∧ (parameterKey parameter).2 = name := by
  unfold pathBinding at h
  dsimp only at h
  split_ifs at h with hpath
  split at h
  · split at h
    · cases h
      exact ⟨hpath.1, rfl⟩
    · cases h
  · cases h

/-- What one step of the loop does to the path. -/
theorem bindParameter_targetPath {b b' : Bindings} {parameter : List (Str × Value)}
    (h : bindParameter source stack b parameter = .ok b') :
    b'.targetPath = match pathBinding b.inputs parameter with
      | some (name, wire) =>
          replaceAll (placeholder name) (percentEncode PATH_SEGMENT wire) b.targetPath
      | none => b.targetPath := by
  unfold bindParameter at h
  unfold pathBinding
  rcases hkey : parameterKey parameter with ⟨location, name⟩
  rw [hkey] at h
  dsimp only at h ⊢
  -- A parameter without a name or a place is passed over.
  by_cases hskip : name = [] ∨ location = []
  · rw [if_pos hskip] at h
    have hnot : ¬(location = "path" ∧ name ≠ []) := by
      rintro ⟨hl, hn⟩
      rcases hskip with hs | hs
      · exact hn hs
      · rw [hs] at hl
        exact absurd hl (by decide)
    cases h
    rw [if_neg hnot]
  rw [if_neg hskip] at h
  rw [not_or] at hskip
  rcases hvalue : parameterValue b.inputs parameter location name with ⟨_ | ⟨value, provenance⟩, inputs⟩
  -- Without a value the path is left, and a required one fails.
  · rw [hvalue] at h
    dsimp only at h ⊢
    split_ifs at h with hreq
    cases h
    split_ifs <;> rfl
  · rw [hvalue] at h
    simp only [except_bind_ok] at h
    rcases h with ⟨_, _, wires, hwires, hplace⟩
    dsimp only
    rw [hwires]
    unfold placeParameter at hplace
    -- Only a path parameter is filled into the path.
    by_cases hl : location = "path"
    · rw [if_pos hl] at hplace
      cases hplace
      rw [if_pos ⟨hl, hskip.1⟩]
    · rw [if_neg (fun hc => hl hc.1)]
      rw [if_neg hl] at hplace
      split_ifs at hplace <;> cases hplace <;> rfl

theorem encodedWire_append (done : List (List (Str × Value))) (parameter : List (Str × Value))
    (inputs : Inputs) (n : Str) :
    encodedWire (done ++ [parameter]) inputs n = (encodedWire done inputs n).or
      (((pathBinding inputs parameter).bind (fun b =>
        if b.1 = n then some b.2 else none)).map (percentEncode PATH_SEGMENT)) := by
  unfold encodedWire pathWire
  rw [List.findSome?_append]
  cases hdone : done.findSome? _ with
  | some w => rfl
  | none =>
      simp only [List.findSome?_cons, List.findSome?_nil, Option.map_none, Option.none_or]
      cases (pathBinding inputs parameter).bind _ <;> rfl

theorem encodedWire_safe (declared : List (List (Str × Value))) (inputs : Inputs) (n w : Str)
    (h : encodedWire declared inputs n = some w) : '\x7b' ∉ w := by
  rcases Option.map_eq_some_iff.mp h with ⟨wire, _, rfl⟩
  exact brace_not_mem_encode wire

/-- The loop, from any point of it on: the path is the template with the
    parameters bound so far filled in. -/
theorem bindParameter_fold {inputs : Inputs} {pieces : List Piece} (hsafe : ∀ p ∈ pieces, p.Safe)
    (todo done : List (List (Str × Value))) (b b' : Bindings)
    (hnames : ∀ p ∈ todo, (parameterKey p).1 = "path" → '\x7d' ∉ (parameterKey p).2)
    (hpath : b.inputs.path = inputs.path)
    (htarget : b.targetPath = templateText (pieces.map (Piece.fill (encodedWire done inputs))))
    (h : todo.foldlM (bindParameter source stack) b = .ok b') :
    b'.targetPath
      = templateText (pieces.map (Piece.fill (encodedWire (done ++ todo) inputs))) := by
  -- By the parameters: after each, the path is the template filled so far.
  induction todo generalizing done b with
  | nil =>
      rw [List.foldlM_nil, except_pure_ok] at h
      rw [← h, htarget, List.append_nil]
  | cons parameter rest ih =>
      rw [List.foldlM_cons, except_bind_ok] at h
      rcases h with ⟨c, hstep, hrest⟩
      have hsplit : done ++ parameter :: rest = done ++ [parameter] ++ rest := by
        rw [List.append_assoc, List.singleton_append]
      rw [hsplit]
      refine ih (done ++ [parameter]) c (fun p hp => hnames p (List.mem_cons_of_mem parameter hp))
        ?_ ?_ hrest
      · rcases bindParameter_inputs hstep with ⟨used, hused⟩
        rw [hused]
        exact hpath
      · rw [bindParameter_targetPath hstep, pathBinding_congr hpath, htarget]
        -- What was filled in opens no hole.
        have hfilled : ∀ p ∈ pieces.map (Piece.fill (encodedWire done inputs)), p.Safe := by
          intro p hp
          rcases List.mem_map.mp hp with ⟨q, hq, rfl⟩
          exact (hsafe q hq).fill (encodedWire_safe done inputs)
        cases hbinding : pathBinding inputs parameter with
        | none =>
            have hsame : encodedWire (done ++ [parameter]) inputs = encodedWire done inputs := by
              funext n
              rw [encodedWire_append, hbinding]
              exact Option.or_none
            rw [hsame]
        | some binding =>
            rcases binding with ⟨name, wire⟩
            -- The name is that of a declared parameter, which closes no hole.
            have hname : '\x7d' ∉ name := by
              rcases pathBinding_key hbinding with ⟨hlocation, rfl⟩
              exact hnames parameter List.mem_cons_self hlocation
            dsimp only
            rw [replaceAll_templateText name _ hname _ (fun p hp => (hfilled p hp).shut name),
              List.map_map]
            -- Piece by piece: a hole of this name is filled now, the others are as they were.
            refine congrArg templateText (List.map_congr_left fun p _ => ?_)
            rw [Function.comp_apply, Piece.fill_fill]
            congr 1
            funext n
            rw [encodedWire_append, hbinding]
            by_cases hn : n = name
            · subst hn
              simp only [fillOne, if_true, Option.bind_some, Option.map_some]
            · simp only [fillOne, if_neg hn, if_neg (Ne.symm hn), Option.bind_some,
                Option.map_none]

/-- The path after the parameter loop is the template with its parameters
    filled in. -/
theorem bindParameters_targetPath {inputs : Inputs} {b : Bindings}
    {declared : List (List (Str × Value))}
    (hdeclared : parameters source operation = .ok declared)
    (hsafe : ∀ p ∈ pathPieces operation.path, p.Safe)
    (hnames : ∀ p ∈ declared, (parameterKey p).1 = "path" → '\x7d' ∉ (parameterKey p).2)
    (h : bindParameters source operation stack inputs = .ok b) :
    b.targetPath = templateText
      ((pathPieces operation.path).map (Piece.fill (encodedWire declared inputs))) := by
  unfold bindParameters at h
  rw [hdeclared] at h
  have hnone : ∀ l : List Piece, l.map (Piece.fill (encodedWire [] inputs)) = l := by
    intro l
    refine List.map_id'' (fun p => ?_) l
    cases p <;> rfl
  refine bindParameter_fold hsafe declared [] _ b hnames rfl ?_ h
  rw [hnone, templateText_pathPieces operation.path operation.path_slash]

end

/-! ### Confined plans -/

/-- The text of the filled pieces is the path of the filled segments. -/
theorem flatMap_pathPieces (f : Str → Str) (path : Str) :
    (pathPieces path).flatMap (Piece.fillWith f)
      = pathText ((templateSegments path).map (List.flatMap (Piece.fillWith f))) := by
  unfold pathPieces
  induction templateSegments path with
  | nil => rfl
  | cons s rest ih =>
      rw [List.flatMap_cons, List.flatMap_append, ih, List.map_cons, List.flatMap_cons]
      rfl

theorem mem_pathPieces {path : Str} {p : Piece} (h : p ∈ pathPieces path) :
    p = .literal ['/'] ∨ ∃ s ∈ templateSegments path, p ∈ s := by
  rcases List.mem_flatMap.mp h with ⟨s, hs, hp⟩
  rcases List.mem_cons.mp hp with hp | hp
  · exact Or.inl hp
  · exact Or.inr ⟨s, hs, hp⟩

theorem Piece.Plain.safe {p : Piece} (h : p.Plain) : p.Safe := by
  cases p with
  | literal s =>
      intro hb
      exact absurd (List.all_eq_true.mp h _ hb) (by decide)
  | hole n => exact h

theorem templateSegments_ne_nil (path : Str) : templateSegments path ≠ [] := by
  unfold templateSegments
  rw [ne_eq, List.map_eq_nil_iff]
  exact List.splitOn_ne_nil _ _

section

variable {lib : Crates} {world : World} {source : OpenApiSource} {operation : OperationDefinition}
  {options : PlanOptions} {configuration : ProjectConfiguration} {past : List Event}
  {inputs : Inputs} {declared : List (List (Str × Value))} {server : Str} {target : Url}

section

variable (hparse : ExtendsPaths lib.parseUrl)
  (hinputs : Inputs.fromOptions options.input options.explicit = .ok inputs)
  (hdeclared : parameters source operation = .ok declared)
  (hserver : selectServer lib source operation (options.withDefaults configuration).server
    configuration = .ok server)
  (htarget : plannedTarget lib world source operation options configuration past = some target)
  (hplain : PlainRequest lib server operation.path declared)

include hparse hinputs hdeclared hserver htarget hplain

/-- What the target of a plain request is: the path state of the filled
    segments on top of the base. -/
theorem target_segments :
    (∀ s ∈ templateSegments operation.path, ∀ n, .hole n ∈ s →
        (encodedWire declared inputs n).isSome = true) ∧
      ∀ base, lib.parseUrl (trimEndMatches '/' server) = .ok base →
        target.segments = pathState base.baseSegments
          ((templateSegments operation.path).map (filledSegment declared inputs)) := by
  -- The target was planned, so every stage of the planner passed.
  rcases hparts : (planParts lib world source operation options configuration past).1 with e | parts
  · rw [plannedTarget, hparts] at htarget
    cases htarget
  have hsound := (planParts_ensures source operation options configuration past).1 parts hparts
  rw [plannedTarget, hparts] at htarget
  cases htarget
  have hserver' : parts.server = server := by
    have h := hsound.server
    rw [hserver] at h
    cases h
    rfl
  rcases hsound.bindings with ⟨inputs', hinputs', hbindings⟩
  rw [hinputs] at hinputs'
  cases hinputs'
  have hsafe : ∀ p ∈ pathPieces operation.path, p.Safe := by
    intro p hp
    rcases mem_pathPieces hp with rfl | ⟨s, hs, hps⟩
    · exact (by decide : '\x7b' ∉ ['/'])
    · exact (hplain.template s hs p hps).safe
  -- The path is the template with each hole filled by its encoded value.
  have hpath := bindParameters_targetPath hdeclared hsafe hplain.names hbindings
  have hresolved := hsound.resolved
  rw [hpath] at hresolved
  -- No hole was left, since the planner refuses an open brace.
  rcases templateText_fill _ _ hresolved with ⟨hsome, htext⟩
  rw [htext, flatMap_pathPieces] at hpath
  refine ⟨fun s hs n hn => hsome n (List.mem_flatMap.mpr ⟨s, hs, List.mem_cons_of_mem _ hn⟩), ?_⟩
  intro base hbase
  rcases hplain.base with ⟨base', hbase', hscheme, hquery, hfragment⟩
  rw [hbase] at hbase'
  cases hbase'
  -- An encoded value has no character that ends a segment.
  have hchars : ∀ t ∈ (templateSegments operation.path).map (filledSegment declared inputs),
      t.all isPathChar = true := by
    intro t ht
    rcases List.mem_map.mp ht with ⟨s, hs, rfl⟩
    rw [List.all_eq_true]
    intro c hc
    rcases List.mem_flatMap.mp hc with ⟨p, hp, hcp⟩
    cases p with
    | literal l => exact List.all_eq_true.mp (hplain.template s hs _ hp) c hcp
    | hole n =>
        rcases Option.isSome_iff_exists.mp
          (hsome n (List.mem_flatMap.mpr ⟨s, hs, List.mem_cons_of_mem _ hp⟩)) with ⟨w, hw⟩
        rcases Option.map_eq_some_iff.mp hw with ⟨wire, _, rfl⟩
        simp only [Piece.fillWith, hw, Option.getD_some] at hcp
        exact isPathChar_of_mem_encode hcp
  have hne : (templateSegments operation.path).map (filledSegment declared inputs) ≠ [] := by
    rw [ne_eq, List.map_eq_nil_iff]
    exact templateSegments_ne_nil operation.path
  -- So the parser reads the segments as they were written, behind those of the base.
  rcases hparse _ _ base hbase hscheme hquery hfragment hplain.plainEnd hne hchars with
    ⟨u, hu, hsegments, _⟩
  have hbuilt := (buildTarget_ok lib _ _ _ hsound.base).1
  rw [hserver', hpath] at hbuilt
  have hsame : u = parts.base := by
    have h := hu.symm.trans hbuilt
    cases h
    rfl
  rw [Url.segments, PlanParts.target, Url.appendPairs_path, ← Url.segments, ← hsame]
  exact hsegments

/-- Without dots a plan is confined. -/
theorem pathConfined_of_noDots
    (hdots : NoDots operation.path declared inputs) :
    PathConfined lib server operation.path declared inputs target := by
  rcases target_segments hparse hinputs hdeclared hserver htarget hplain with ⟨hsome, hsegments⟩
  rcases hplain.base with ⟨base, hbase, _⟩
  refine ⟨base, hbase, fun n => (encodedWire declared inputs n).getD [], ?_, ?_⟩
  -- Every hole is filled by its value, encoded.
  · intro s hs n hn
    rcases Option.isSome_iff_exists.mp (hsome s hs n hn) with ⟨w, hw⟩
    rcases Option.map_eq_some_iff.mp hw with ⟨wire, hwire, rfl⟩
    refine ⟨wire, hwire, ?_⟩
    dsimp only
    rw [hw]
    exact percentDecode_percentEncode PATH_SEGMENT (by decide) wire
  -- No segment is one of dots, so none is taken away.
  · rw [hsegments base hbase, pathState_of_plain]
    · rfl
    · intro t ht
      rcases List.mem_map.mp ht with ⟨s, hs, rfl⟩
      exact hdots s hs

/-- A confined plan has no dots. -/
theorem noDots_of_pathConfined
    (hconfined : PathConfined lib server operation.path declared inputs target) :
    NoDots operation.path declared inputs := by
  rcases target_segments hparse hinputs hdeclared hserver htarget hplain with ⟨_, hsegments⟩
  rcases hconfined with ⟨base, hbase, fill, hfill, heq⟩
  rw [hsegments base hbase] at heq
  rcases List.eq_nil_or_concat (templateSegments operation.path) with hnil | ⟨init, last, hsplit⟩
  · exact absurd hnil (templateSegments_ne_nil operation.path)
  rw [List.concat_eq_append] at hsplit
  rw [hsplit, List.map_append, List.map_append, List.map_singleton, List.map_singleton] at heq
  -- The number of segments rules out dots before the last one.
  have hinit := pathState_length base.baseSegments (init.map (filledSegment declared inputs))
    (filledSegment declared inputs last) (by
      rw [heq]
      simp only [List.length_append, List.length_map, List.length_singleton])
  -- Dots in the last one leave an empty segment, which only an empty value does.
  have hlast : isDots (filledSegment declared inputs last) = false := by
    by_contra hdots
    rw [Bool.not_eq_false] at hdots
    have hget := pathState_getLast base.baseSegments (init.map (filledSegment declared inputs)) _
      hdots
    rw [heq, ← List.append_assoc, List.getLast?_append, List.getLast?_singleton, Option.some_or,
      Option.some.injEq] at hget
    have hempty : filledSegment declared inputs last = [] := by
      unfold filledSegment
      rw [List.flatMap_eq_nil_iff] at hget ⊢
      intro p hp
      have hp' := hget p hp
      cases p with
      | literal s => exact hp'
      | hole n =>
          have hmem : last ∈ templateSegments operation.path := by
            rw [hsplit]
            exact List.mem_append_right init (List.mem_singleton_self last)
          rcases hfill last hmem n hp with ⟨wire, hwire, hdecode⟩
          have hfilln : fill n = [] := hp'
          rw [hfilln] at hdecode
          simp only [Piece.fillWith, encodedWire, hwire, Option.map_some, Option.getD_some,
            percentEncode, ← hdecode]
          rfl
    rw [hempty] at hdots
    exact absurd hdots (by decide)
  intro s hs
  rw [hsplit] at hs
  rcases List.mem_append.mp hs with hs | hs
  · exact hinit _ (List.mem_map_of_mem hs)
  · rw [List.mem_singleton.mp hs]
    exact hlast

end

/-- For a plain base and template, a plan is confined exactly when no filled
    segment spells dots. -/
theorem pathConfined_iff_noDots {plan : RequestPlan} (hparse : ExtendsPaths lib.parseUrl)
    (hplan : (buildPlanWithConfiguration lib world source operation options configuration past).1
      = .ok plan)
    (hinputs : Inputs.fromOptions options.input options.explicit = .ok inputs)
    (hdeclared : parameters source operation = .ok declared)
    (hserver : selectServer lib source operation (options.withDefaults configuration).server
      configuration = .ok server)
    (hplain : PlainRequest lib server operation.path declared) :
    ∃ target, plannedTarget lib world source operation options configuration past = some target ∧
      plan.target = target.serialize ∧
      (PathConfined lib server operation.path declared inputs target ↔
        NoDots operation.path declared inputs) := by
  rcases buildPlanWithConfiguration_ok hplan with ⟨parts, hparts, _, rfl⟩
  have htarget : plannedTarget lib world source operation options configuration past
      = some parts.target := by
    simp only [plannedTarget, hparts, Except.toOption, Option.map_some]
  exact ⟨parts.target, htarget, rfl,
    noDots_of_pathConfined hparse hinputs hdeclared hserver htarget hplain,
    pathConfined_of_noDots hparse hinputs hdeclared hserver htarget hplain⟩

end

/-! ### A value that leaves its segment -/

/-- The declaration of a required string parameter in the path. -/
def idParameter : List (Str × Value) :=
  [("in", .string "path"), ("name", .string "id"),
    ("schema", jsonObject [("type", .string "string")])]

/-- An operation on the profile of a user. -/
def readProfile : OperationDefinition :=
  { handle := "op:read-profile"
    method := "GET"
    path := "/users/\x7bid\x7d/profile"
    operationId := []
    risk := .read
    pathItem := []
    operation := [("parameters", .array [.object idParameter])]
    path_slash := rfl }

/-- The selection of one user. -/
def profileOptions (id : Str) : PlanOptions :=
  { PlanOptions.default with
    server := some "https://api.example.com/v1".toList
    input := some (jsonObject [("path", jsonObject [("id", .string id)])]) }

/-- The inputs of that selection. -/
def profileInputs (id : Str) : Inputs :=
  { Inputs.default with path := [("id", .string id)], declared := ["path.id"] }

/-- A user named by two full stops is planned to the path of another operation. -/
theorem pathConfined_double_dot :
    ∃ plan target, (buildPlanWithConfiguration referenceCrates referenceWorld itemsSource
        readProfile (profileOptions "..") .default []).1 = .ok plan ∧
      plannedTarget referenceCrates referenceWorld itemsSource readProfile (profileOptions "..")
        .default [] = some target ∧
      plan.target = "https://api.example.com/v1/profile".toList ∧
      ∀ declared inputs, ¬ PathConfined referenceCrates "https://api.example.com/v1"
        readProfile.path declared inputs target := by
  -- The plan and its target.
  have hplan : (buildPlanWithConfiguration referenceCrates referenceWorld itemsSource
      readProfile (profileOptions "..") .default []).1.toOption.map RequestPlan.target
      = some "https://api.example.com/v1/profile".toList := by decide +kernel
  have htarget : (plannedTarget referenceCrates referenceWorld itemsSource readProfile
      (profileOptions "..") .default []).map (fun t => t.segments.length) = some 2 := by
    decide +kernel
  rcases exists_ok_of_toOption hplan with ⟨plan, hok, htext⟩
  rcases Option.map_eq_some_iff.mp htarget with ⟨target, hsome, hlength⟩
  refine ⟨plan, target, hok, hsome, htext, fun declared inputs hconfined => ?_⟩
  rcases hconfined with ⟨base, _, fill, _, hsegments⟩
  -- The template has three segments, the target fewer behind the base.
  have hthree : (templateSegments readProfile.path).length = 3 := by decide +kernel
  rw [hsegments, List.length_append, List.length_map, hthree] at hlength
  omega

/-- A user named by a slash stays in its segment. -/
theorem pathConfined_slash :
    ∃ target, plannedTarget referenceCrates referenceWorld itemsSource readProfile
        (profileOptions "a/b") .default [] = some target ∧
      PathConfined referenceCrates "https://api.example.com/v1" readProfile.path [idParameter]
        (profileInputs "a/b") target := by
  have hplan : (buildPlanWithConfiguration referenceCrates referenceWorld itemsSource
      readProfile (profileOptions "a/b") .default []).1.toOption.map (fun _ => ())
      = some () := by decide +kernel
  rcases exists_ok_of_toOption hplan with ⟨plan, hok, _⟩
  -- The base, the template and the inputs are plain.
  have hbase : referenceCrates.parseUrl (trimEndMatches '/' "https://api.example.com/v1")
      = .ok ⟨"https", [], none, some "api.example.com".toList, none, "/v1", none, none⟩ := by
    decide +kernel
  have hplain : PlainRequest referenceCrates "https://api.example.com/v1" readProfile.path
      [idParameter] :=
    { base := ⟨_, hbase, Or.inr rfl, rfl, rfl⟩
      plainEnd := by decide +kernel
      template := by decide +kernel
      names := by decide +kernel }
  have hinputs : Inputs.fromOptions (profileOptions "a/b").input (profileOptions "a/b").explicit
      = .ok (profileInputs "a/b") := by rfl
  have hdeclared : parameters itemsSource readProfile = .ok [idParameter] := by rfl
  have hserver : selectServer referenceCrates itemsSource readProfile
      ((profileOptions "a/b").withDefaults .default).server .default
      = .ok "https://api.example.com/v1".toList := by rfl
  -- A slash in the value is encoded.
  rcases pathConfined_iff_noDots parseWebUrl_extendsPaths hok hinputs hdeclared hserver hplain with
    ⟨target, hsome, _, hiff⟩
  exact ⟨target, hsome, hiff.mpr (by unfold NoDots; decide +kernel)⟩

end Kahea
