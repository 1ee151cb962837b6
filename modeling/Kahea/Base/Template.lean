import Kahea.Base.Text

/-!
# Templates

Texts with named holes, `{name}`, and filling them by textual replacement.

A template is read once into its pieces. Replacing every occurrence of one
placeholder is then filling the holes of that name (`replaceAll_templateText`),
provided that the placeholder begins in no literal and in no other name: the
scan cannot start a match there, and at a hole the names must agree. Texts that
are filled in become literals, so the proviso carries over to the next
replacement when its placeholder does not begin in them either. A text without
an opening brace begins none.

## Main definitions

* `Piece`: A literal text or a hole.
* `scanPieces`, `templatePieces`: The pieces of a text.
* `Piece.text`, `templateText`: The text of pieces.
* `shut`, `Piece.Shut`: No placeholder of a name begins in a text.
* `Piece.fill`, `Piece.fillWith`: Filling holes.

## Theorems

* `templateText_pieces`: Reading the pieces loses nothing.
* `replaceAll_templateText`: Replacing a placeholder fills its holes.
* `templateText_fill`: A filled text without an opening brace has no hole left.
* `foldl_replaceAll`: Replacing several placeholders one after the other.
-/

namespace Kahea

/-- A piece of a template. -/
inductive Piece where
  | literal (s : Str)
  | hole (name : Str)
  deriving DecidableEq, Repr

/-- The text of a placeholder. -/
def placeholder (name : Str) : Str := '\x7b' :: name ++ ['\x7d']

/-- The text of a piece. -/
def Piece.text : Piece → Str
  | literal s => s
  | hole name => placeholder name

/-- The text of a template. -/
def templateText (pieces : List Piece) : Str := pieces.flatMap Piece.text

theorem templateText_cons (p : Piece) (rest : List Piece) :
    templateText (p :: rest) = p.text ++ templateText rest := rfl

/-- The pieces of a text; `opened` is the name read since an opening brace. -/
def scanPieces : Option Str → Str → List Piece
  | none, [] => []
  | some name, [] => [.literal ('\x7b' :: name)]
  | none, c :: cs =>
      if c = '\x7b' then scanPieces (some []) cs else .literal [c] :: scanPieces none cs
  | some name, c :: cs =>
      if c = '\x7d' then .hole name :: scanPieces none cs else scanPieces (some (name ++ [c])) cs

/-- The pieces of a text. -/
def templatePieces (s : Str) : List Piece := scanPieces none s

theorem templateText_scanPieces (opened : Option Str) (s : Str) :
    templateText (scanPieces opened s) = (opened.map ('\x7b' :: ·)).getD [] ++ s := by
  induction s generalizing opened with
  | nil => cases opened <;> simp [scanPieces, templateText, Piece.text]
  | cons c cs ih =>
      cases opened with
      | none =>
          simp only [scanPieces]
          split_ifs with hc
          · rw [ih, hc]
            rfl
          · rw [templateText_cons, ih]
            rfl
      | some name =>
          simp only [scanPieces]
          split_ifs with hc
          · rw [templateText_cons, ih, hc]
            simp [Piece.text, placeholder]
          · rw [ih]
            simp

/-- Reading the pieces loses nothing. -/
theorem templateText_pieces (s : Str) : templateText (templatePieces s) = s := by
  rw [templatePieces, templateText_scanPieces]
  rfl

/-- No literal opens a placeholder and no name has a brace. -/
def Piece.Safe : Piece → Prop
  | literal s => '\x7b' ∉ s
  | hole name => '\x7b' ∉ name ∧ '\x7d' ∉ name

/-- No placeholder of a name begins in a text, whatever comes behind it. -/
def shut (name : Str) : Str → Bool
  | [] => true
  | c :: cs => (c != '\x7b' || !(startsWith (name ++ ['\x7d']) cs ||
      startsWith cs (name ++ ['\x7d']))) && shut name cs

theorem shut_of_not_mem {name s : Str} (h : '\x7b' ∉ s) : shut name s = true := by
  induction s with
  | nil => rfl
  | cons c cs ih =>
      rw [List.mem_cons, not_or] at h
      rw [shut, ih h.2, Bool.and_true, Bool.or_eq_true]
      exact Or.inl (bne_iff_ne.mpr (Ne.symm h.1))

/-- The placeholder of a name begins in no literal and in no other name. -/
def Piece.Shut (name : Str) : Piece → Prop
  | literal s => shut name s = true
  | hole n => '\x7d' ∉ n ∧ (n = name ∨ shut name (n ++ ['\x7d']) = true)

theorem Piece.Safe.shut {p : Piece} (hp : p.Safe) (name : Str) : p.Shut name := by
  cases p with
  | literal s => exact shut_of_not_mem hp
  | hole n =>
      refine ⟨hp.2, Or.inr (shut_of_not_mem ?_)⟩
      rw [List.mem_append, not_or]
      exact ⟨hp.1, by decide⟩

/-- Fill the holes that have a text. -/
def Piece.fill (f : Str → Option Str) : Piece → Piece
  | literal s => literal s
  | hole name => match f name with
    | some w => literal w
    | none => hole name

/-- The text of a piece with every hole filled. -/
def Piece.fillWith (f : Str → Str) : Piece → Str
  | literal s => s
  | hole name => f name

/-- The filling of the holes of one name. -/
def fillOne (name w : Str) : Str → Option Str := fun n => if n = name then some w else none

/-- Filling twice is filling once, the first text of a hole winning. -/
theorem Piece.fill_fill (f g : Str → Option Str) (p : Piece) :
    (p.fill f).fill g = p.fill (fun n => (f n).or (g n)) := by
  cases p with
  | literal s => rfl
  | hole n =>
      simp only [Piece.fill]
      cases f n <;> rfl

theorem Piece.Safe.fill {f : Str → Option Str} {p : Piece} (hp : p.Safe)
    (hf : ∀ n w, f n = some w → '\x7b' ∉ w) : (p.fill f).Safe := by
  cases p with
  | literal s => exact hp
  | hole n =>
      simp only [Piece.fill]
      cases hn : f n with
      | none => exact hp
      | some w => exact hf n w hn

/-- A filled text without an opening brace has no hole left. -/
theorem templateText_fill (f : Str → Option Str) (pieces : List Piece)
    (h : '\x7b' ∉ templateText (pieces.map (Piece.fill f))) :
    (∀ n, .hole n ∈ pieces → (f n).isSome = true) ∧
      templateText (pieces.map (Piece.fill f))
        = pieces.flatMap (Piece.fillWith (fun n => (f n).getD [])) := by
  induction pieces with
  | nil => exact ⟨fun n hn => absurd hn List.not_mem_nil, rfl⟩
  | cons p rest ih =>
      rw [List.map_cons, templateText_cons, List.mem_append, not_or] at h
      rcases ih h.2 with ⟨hsome, htext⟩
      rw [List.map_cons, templateText_cons, htext, List.flatMap_cons]
      cases p with
      | literal s =>
          refine ⟨fun n hn => hsome n ?_, rfl⟩
          rcases List.mem_cons.mp hn with hn | hn
          · cases hn
          · exact hn
      | hole m =>
          -- A hole left open would show its brace.
          have hm : (f m).isSome = true := by
            cases hfm : f m with
            | some w => rfl
            | none =>
                simp only [Piece.fill, hfm, Piece.text, placeholder, List.cons_append] at h
                exact absurd List.mem_cons_self h.1
          rcases Option.isSome_iff_exists.mp hm with ⟨w, hw⟩
          refine ⟨fun n hn => ?_, by simp only [Piece.fill, hw, Piece.text, Piece.fillWith,
            Option.getD_some]⟩
          rcases List.mem_cons.mp hn with hn | hn
          · cases hn
            exact hm
          · exact hsome n hn

/-- A text in which the placeholder does not begin is passed over. -/
theorem replaceFrom_literal (name w s rest : Str) (h : shut name s = true) :
    replaceFrom (placeholder name) w 0 (s ++ rest)
      = s ++ replaceFrom (placeholder name) w 0 rest := by
  induction s with
  | nil => rfl
  | cons c cs ih =>
      rw [shut, Bool.and_eq_true, Bool.or_eq_true, Bool.not_eq_true', Bool.or_eq_false_iff] at h
      have hpre : startsWith (placeholder name) (c :: (cs ++ rest)) = false := by
        rw [startsWith, placeholder, List.cons_append, List.isPrefixOf_cons_cons,
          Bool.and_eq_false_iff]
        rcases h.1 with hc | ⟨hends, hbegins⟩
        · exact Or.inl (beq_eq_false_iff_ne.mpr (Ne.symm (bne_iff_ne.mp hc)))
        · -- What would match behind the brace is in the text, or goes beyond it.
          refine Or.inr (Bool.eq_false_iff.mpr (fun hmatch => ?_))
          rw [List.isPrefixOf_iff_prefix] at hmatch
          unfold startsWith at hends hbegins
          rw [Bool.eq_false_iff, Ne, List.isPrefixOf_iff_prefix] at hends hbegins
          rcases List.prefix_or_prefix_of_prefix hmatch (List.prefix_append cs rest) with
            hinside | hbeyond
          · exact hends hinside
          · exact hbegins hbeyond
      rw [List.cons_append, replaceFrom_cons _ _ _ _ hpre, ih h.2, List.cons_append]

/-- A placeholder matches at a hole exactly when the names agree. -/
theorem startsWith_placeholder (name n rest : Str) (hname : '\x7d' ∉ name) (hn : '\x7d' ∉ n) :
    startsWith (placeholder name) (placeholder n ++ rest) = true ↔ n = name := by
  rw [startsWith, List.isPrefixOf_iff_prefix]
  constructor
  · rintro ⟨t, ht⟩
    simp only [placeholder, List.cons_append, List.append_assoc, List.nil_append,
      List.cons.injEq, true_and] at ht
    have htake := congrArg (List.takeWhile (· != '\x7d')) ht
    have hall : ∀ (s x : Str), '\x7d' ∉ s →
        (s ++ '\x7d' :: x).takeWhile (· != '\x7d') = s := by
      intro s x hs
      rw [List.takeWhile_append_of_pos (fun c hc => bne_iff_ne.mpr (ne_of_mem_of_not_mem hc hs)),
        List.takeWhile_cons, if_neg (by decide), List.append_nil]
    rw [hall name _ hname, hall n _ hn] at htake
    exact htake.symm
  · rintro rfl
    exact List.prefix_append _ _

/-- Replacing a placeholder fills its holes. -/
theorem replaceAll_templateText (name w : Str) (hname : '\x7d' ∉ name) (pieces : List Piece)
    (h : ∀ p ∈ pieces, p.Shut name) :
    replaceAll (placeholder name) w (templateText pieces)
      = templateText (pieces.map (Piece.fill (fillOne name w))) := by
  have hne : placeholder name ≠ [] := List.cons_ne_nil _ _
  rw [replaceAll, if_neg hne]
  induction pieces with
  | nil => rfl
  | cons p rest ih =>
      have hrest := ih (fun q hq => h q (List.mem_cons_of_mem p hq))
      have hp := h p List.mem_cons_self
      rw [templateText_cons, List.map_cons, templateText_cons, ← hrest]
      cases p with
      -- The placeholder begins in no literal, and a hole shows it only when it has the name.
      | literal s => exact replaceFrom_literal name w s _ hp
      | hole n =>
          have hmatch := startsWith_placeholder name n (templateText rest) hname hp.1
          by_cases hn : n = name
          · subst hn
            simp only [Piece.text, Piece.fill, fillOne, if_true]
            exact replaceFrom_append _ w _ hne
          · have hfalse : startsWith (placeholder name)
                ('\x7b' :: (n ++ ['\x7d'] ++ templateText rest)) = false := by
              rw [Bool.eq_false_iff]
              exact fun ht => hn (hmatch.mp ht)
            have hclose := hp.2.resolve_left hn
            simp only [Piece.fill, fillOne, if_neg hn]
            change replaceFrom (placeholder name) w 0
              ('\x7b' :: (n ++ ['\x7d'] ++ templateText rest)) = '\x7b' :: (n ++ ['\x7d'] ++ _)
            rw [replaceFrom_cons _ _ _ _ hfalse, replaceFrom_literal name w _ _ hclose]

/-- Placeholders may be replaced one after the other when the one of a name
    begins neither in a later name nor in the text of an earlier one: each
    replacement fills the holes of its name. -/
theorem foldl_replaceAll (names : List Str) (texts : Str → Str) (hnames : ∀ n ∈ names, '\x7d' ∉ n)
    (horder : names.Pairwise (fun n m => shut n (m ++ ['\x7d']) = true ∧ shut m (texts n) = true))
    {pieces : List Piece} (hholes : ∀ n, .hole n ∈ pieces → n ∈ names)
    (hliterals : ∀ s, .literal s ∈ pieces → ∀ n ∈ names, shut n s = true) :
    names.foldl (fun target n => replaceAll (placeholder n) (texts n) target)
        (templateText pieces) =
      templateText (pieces.map (Piece.fill (fun n => if n ∈ names then some (texts n) else none))) := by
  induction names generalizing pieces with
  | nil =>
      have hsame : pieces.map (Piece.fill (fun n => if n ∈ ([] : List Str) then some (texts n)
          else none)) = pieces := by
        refine List.map_id'' (fun p => ?_) pieces
        cases p with
        | literal s => rfl
        | hole n =>
            unfold Piece.fill
            dsimp only
            rw [if_neg List.not_mem_nil]
      rw [hsame]
      rfl
  | cons name rest ih =>
      rw [List.pairwise_cons] at horder
      have hshut : ∀ p ∈ pieces, p.Shut name := by
        intro p hp
        cases p with
        | literal s => exact hliterals s hp name List.mem_cons_self
        | hole n =>
            refine ⟨hnames n (hholes n hp), ?_⟩
            rcases List.mem_cons.mp (hholes n hp) with heq | hn
            · exact Or.inl heq
            · exact Or.inr (horder.1 n hn).1
      -- What is left to be replaced has the later names alone.
      have hfilled : ∀ n, .hole n ∈ pieces.map (Piece.fill (fillOne name (texts name))) →
          n ∈ rest := by
        intro n hn
        rcases List.mem_map.mp hn with ⟨q, hq, heq⟩
        cases q with
        | literal s => cases heq
        | hole m =>
            unfold Piece.fill fillOne at heq
            by_cases hm : m = name
            · simp only [if_pos hm] at heq
              cases heq
            · simp only [if_neg hm] at heq
              cases heq
              exact (List.mem_cons.mp (hholes n hq)).resolve_left hm
      have hput : ∀ s, .literal s ∈ pieces.map (Piece.fill (fillOne name (texts name))) →
          ∀ n ∈ rest, shut n s = true := by
        intro s hs n hn
        rcases List.mem_map.mp hs with ⟨q, hq, heq⟩
        cases q with
        | literal t =>
            cases heq
            exact hliterals s hq n (List.mem_cons_of_mem name hn)
        | hole m =>
            unfold Piece.fill fillOne at heq
            by_cases hm : m = name
            · simp only [if_pos hm] at heq
              cases heq
              exact (horder.1 n hn).2
            · simp only [if_neg hm] at heq
              cases heq
      rw [List.foldl_cons, replaceAll_templateText name _ (hnames name List.mem_cons_self) _ hshut,
        ih (fun n hn => hnames n (List.mem_cons_of_mem name hn)) horder.2 hfilled hput,
        List.map_map]
      refine congrArg templateText (List.map_congr_left fun p _ => ?_)
      rw [Function.comp_apply, Piece.fill_fill]
      congr 1
      funext n
      unfold fillOne
      by_cases hn : n = name
      · subst hn
        rw [if_pos rfl, Option.some_or, if_pos List.mem_cons_self]
      · rw [if_neg hn, Option.none_or]
        by_cases hrest : n ∈ rest
        · rw [if_pos hrest, if_pos (List.mem_cons_of_mem name hrest)]
        · have hnot : n ∉ name :: rest := by
            rw [List.mem_cons, not_or]
            exact ⟨hn, hrest⟩
          rw [if_neg hrest, if_neg hnot]

/-- When every hole has a text, filling is putting the texts in. -/
theorem templateText_fill_all {pieces : List Piece} {names : List Str} (texts : Str → Str)
    (h : ∀ n, .hole n ∈ pieces → n ∈ names) :
    templateText (pieces.map (Piece.fill (fun n => if n ∈ names then some (texts n) else none))) =
      pieces.flatMap (Piece.fillWith texts) := by
  unfold templateText
  rw [List.flatMap_map]
  refine List.flatMap_congr (fun p hp => ?_)
  cases p with
  | literal s => rfl
  | hole n =>
      unfold Piece.fill
      dsimp only
      rw [if_pos (h n hp)]
      rfl

/-- A name ends at the first closing brace. -/
theorem hole_scanPieces {opened : Option Str} {s n : Str}
    (hopened : ∀ name, opened = some name → '\x7d' ∉ name) (h : .hole n ∈ scanPieces opened s) :
    '\x7d' ∉ n := by
  -- By the text; what is open so far has no closing brace in it.
  induction s generalizing opened with
  | nil =>
      cases opened with
      | none => cases h
      | some name =>
          rw [scanPieces, List.mem_singleton] at h
          cases h
  | cons c cs ih =>
      cases opened with
      | none =>
          unfold scanPieces at h
          by_cases hc : c = '\x7b'
          · rw [if_pos hc] at h
            refine ih (fun name heq => ?_) h
            cases heq
            exact List.not_mem_nil
          · rw [if_neg hc] at h
            rcases List.mem_cons.mp h with heq | h
            · cases heq
            · exact ih (fun name heq => by cases heq) h
      | some name =>
          unfold scanPieces at h
          -- The closing brace ends the name, any other character joins it.
          by_cases hc : c = '\x7d'
          · rw [if_pos hc] at h
            rcases List.mem_cons.mp h with heq | h
            · cases heq
              exact hopened n rfl
            · exact ih (fun name heq => by cases heq) h
          · rw [if_neg hc] at h
            refine ih (fun longer heq => ?_) h
            cases heq
            rw [List.mem_append, List.mem_singleton, not_or]
            exact ⟨hopened name rfl, fun hbrace => hc hbrace.symm⟩

end Kahea
