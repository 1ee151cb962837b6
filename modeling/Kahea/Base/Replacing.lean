import Mathlib.Data.List.Basic
import Mathlib.Logic.Function.Basic
import Mathlib.Logic.Relation

/-!
# Files that are Replaced

Writers that put a file in place of another: the new content goes to a temporary
file, piece by piece, and the temporary file is renamed when it is complete.

Any number of writers take turns. A writer makes its calls one after the other,
and a call writes its items one after the other; what fails ends the call and
leaves its temporary file as it is, and a writer that is killed takes no more
turns. `System` has what is written so far and, latest first, what has been put
in place.

Under two conditions nobody sees a file that is half written: no temporary file
has the name of a target, and no two writers have a temporary file in common.
Then a name that is no temporary one has what was put there last, or what it had
at the start (`Sound.reads`), and what a call puts in place comes after the
items before it in the call (`Sound.order`).

## Main definitions

* `Filing`: The temporary name, the name and the content of an item.
* `Writer`, `System`: One writer, and all of them with their files.
* `Acts`, `Turn`: A step of one writer, and of a system.
* `latest`: What was put under a name last.
* `Sound`: What holds in every state.

## Theorems

* `Sound.act`: A step keeps it.
* `sound_of_reaches`: So does a run.
* `exists_return`: A writer that is left alone comes to the end of its call.
-/

namespace Kahea

namespace Replacing

variable {ι ν β τ : Type} [DecidableEq ν]

/-- The files of a directory. -/
abbrev Files (ν β : Type) : Type := ν → Option (List β)

/-- Give a name a content or none. -/
def put (files : Files ν β) (name : ν) (content : Option (List β)) : Files ν β := fun n =>
  if n = name then content else files n

theorem put_same {files : Files ν β} {name : ν} {content : Option (List β)} :
    put files name content name = content := if_pos rfl

theorem put_other {files : Files ν β} {name n : ν} {content : Option (List β)} (h : n ≠ name) :
    put files name content n = files n := if_neg h

/-- Where an item is written, where it is put, and what is written. -/
structure Filing (ν β τ : Type) where
  temporary : τ → ν
  target : τ → ν
  content : τ → List β

/-- A writer. -/
structure Writer (β τ : Type) where
  /-- What is still to be written to the temporary file that is open. -/
  opened : Option (List β)
  /-- The items of the current call that are in place. -/
  done : List τ
  /-- The other items of the current call, and the calls after it. -/
  calls : List (List τ)
  /-- The calls that have returned without an error, latest first. -/
  returned : List (List τ)

/-- A step of a writer, with the item it puts in place if it does. -/
inductive Acts (F : Filing ν β τ) :
    Files ν β → Writer β τ → Files ν β → Writer β τ → List τ → Prop
  | create (files : Files ν β) (done : List τ) (item : τ) (rest : List τ) (calls returned) :
      Acts F files ⟨none, done, (item :: rest) :: calls, returned⟩
        (put files (F.temporary item) (some []))
        ⟨some (F.content item), done, (item :: rest) :: calls, returned⟩ []
  | append (files : Files ν β) (piece left : List β) (done : List τ) (item : τ) (rest : List τ)
      (calls returned) :
      Acts F files ⟨some (piece ++ left), done, (item :: rest) :: calls, returned⟩
        (put files (F.temporary item) ((files (F.temporary item)).map (fun c => c ++ piece)))
        ⟨some left, done, (item :: rest) :: calls, returned⟩ []
  | rename (files : Files ν β) (written : List β) (done : List τ) (item : τ) (rest : List τ)
      (calls returned) (h : files (F.temporary item) = some written) :
      Acts F files ⟨some [], done, (item :: rest) :: calls, returned⟩
        (put (put files (F.temporary item) none) (F.target item) (some written))
        ⟨none, done ++ [item], rest :: calls, returned⟩ [item]
  | succeed (files : Files ν β) (done : List τ) (calls returned) :
      Acts F files ⟨none, done, [] :: calls, returned⟩ files ⟨none, [], calls, done :: returned⟩ []
  | fail (files : Files ν β) (opened) (done : List τ) (call : List τ) (calls returned) :
      Acts F files ⟨opened, done, call :: calls, returned⟩ files ⟨none, [], calls, returned⟩ []

/-- The writers with their files and what is in place, latest first. -/
structure System (ι ν β τ : Type) where
  files : Files ν β
  writers : ι → Writer β τ
  placed : List τ

/-- The system before the first step. -/
def begin (files : Files ν β) (calls : ι → List (List τ)) : System ι ν β τ :=
  ⟨files, fun i => ⟨none, [], calls i, []⟩, []⟩

variable [DecidableEq ι]

/-- A turn of one of the writers. -/
inductive Turn (F : Filing ν β τ) : System ι ν β τ → System ι ν β τ → Prop
  | act (s : System ι ν β τ) (i : ι) (files : Files ν β) (writer : Writer β τ) (added : List τ)
      (h : Acts F s.files (s.writers i) files writer added) :
      Turn F s ⟨files, Function.update s.writers i writer, added ++ s.placed⟩

/-- The states of a run. -/
abbrev Reaches (F : Filing ν β τ) : System ι ν β τ → System ι ν β τ → Prop :=
  Relation.ReflTransGen (Turn F)

/-- The content that was put under a name last. -/
def latest (F : Filing ν β τ) (placed : List τ) (name : ν) : Option (List β) :=
  (placed.find? (fun item => F.target item = name)).map F.content

/-- The current call as it was and the calls after it. -/
def Writer.remaining (w : Writer β τ) : List (List τ) :=
  match w.calls with
  | [] => []
  | rest :: later => (w.done ++ rest) :: later

/-- What a temporary file has and what is still to be written is the whole
    content. -/
def Halfway (F : Filing ν β τ) (files : Files ν β) (w : Writer β τ) : Prop :=
  ∀ left, w.opened = some left → ∃ item rest later written, w.calls = (item :: rest) :: later ∧
    files (F.temporary item) = some written ∧ written ++ left = F.content item

/-- What is known of one writer. -/
structure WriterSound (F : Filing ν β τ) (calls : List (List τ)) (files : Files ν β)
    (placed : List τ) (w : Writer β τ) : Prop where
  halfway : Halfway F files w
  remaining : w.remaining <:+ calls
  done : ∀ item ∈ w.done, item ∈ placed
  returned : ∀ call ∈ w.returned, call ∈ calls ∧ ∀ item ∈ call, item ∈ placed

/-- An item comes after those before it in its call. -/
def InTurn (calls : ι → List (List τ)) (item : τ) (earlier : List τ) : Prop :=
  ∃ i, ∃ call ∈ calls i, ∃ before after, call = before ++ item :: after ∧
    ∀ b ∈ before, b ∈ earlier

/-- What holds in every state of a run. -/
structure Sound (F : Filing ν β τ) (start : Files ν β) (calls : ι → List (List τ))
    (s : System ι ν β τ) : Prop where
  writers : ∀ i, WriterSound F (calls i) s.files s.placed (s.writers i)
  reads : ∀ name, (∀ item, F.temporary item ≠ name) →
    s.files name = (latest F s.placed name).or (start name)
  order : ∀ later item earlier, s.placed = later ++ item :: earlier → InTurn calls item earlier

section

variable {F : Filing ν β τ} {files files' : Files ν β} {w w' : Writer β τ} {added : List τ}

/-- A step changes no file but the temporary one of the writer and a target. -/
theorem Acts.files_other (h : Acts F files w files' w' added) (name : ν)
    (htemporary : ∀ item ∈ w.calls.flatten, F.temporary item ≠ name)
    (htarget : ∀ item, F.target item ≠ name) : files' name = files name := by
  cases h with
  | create done item rest calls returned =>
      exact put_other (htemporary item List.mem_cons_self).symm
  | append piece left done item rest calls returned =>
      exact put_other (htemporary item List.mem_cons_self).symm
  | rename written done item rest calls returned hfile =>
      rw [put_other (htarget item).symm, put_other (htemporary item List.mem_cons_self).symm]
  | succeed done calls returned => rfl
  | fail opened done call calls returned => rfl

/-- A step puts nothing in place but what is complete. -/
theorem Acts.reads (h : Acts F files w files' w' added) (hhalfway : Halfway F files w) {name : ν}
    (hname : ∀ item, F.temporary item ≠ name) :
    files' name = (latest F added name).or (files name) := by
  -- Only renaming touches a name that is not temporary.
  cases h with
  | create done item rest calls returned => exact put_other (hname item).symm
  | append piece left done item rest calls returned => exact put_other (hname item).symm
  | rename written done item rest calls returned hfile =>
      rcases hhalfway [] rfl with ⟨other, others, later, content, hcalls, hcontent, hwhole⟩
      cases hcalls
      rw [hcontent] at hfile
      cases hfile
      rw [List.append_nil] at hwhole
      -- What it puts there is the whole content of the item.
      by_cases htarget : F.target item = name
      · rw [← htarget, put_same, hwhole, latest, List.find?_cons_of_pos (by simp)]
        rfl
      · have hnone : latest F [item] name = none := by
          rw [latest, List.find?_cons_of_neg (by simpa using htarget)]
          rfl
        rw [hnone, put_other (Ne.symm htarget), put_other (hname item).symm]
        rfl
  | succeed done calls returned => rfl
  | fail opened done call calls returned => rfl

/-- Tests that agree on a list find the same. -/
theorem find?_congr {α : Type} {p q : α → Bool} {l : List α} (h : ∀ a ∈ l, p a = q a) :
    l.find? p = l.find? q := by
  induction l with
  | nil => rfl
  | cons a rest ih =>
      rw [List.find?_cons, List.find?_cons, h a List.mem_cons_self,
        ih (fun b hb => h b (List.mem_cons_of_mem a hb))]

theorem latest_append (first second : List τ) (name : ν) :
    latest F (first ++ second) name = (latest F first name).or (latest F second name) := by
  rw [latest, latest, latest, List.find?_append]
  cases first.find? (fun item => F.target item = name) with
  | none => rfl
  | some item => rfl

/-- What is left to do is part of what there was to do. -/
theorem mem_remaining {item : τ} (h : item ∈ w.calls.flatten) : item ∈ w.remaining.flatten := by
  unfold Writer.remaining
  cases hcalls : w.calls with
  | nil =>
      rw [hcalls] at h
      exact h
  | cons rest later =>
      rw [hcalls, List.flatten_cons, List.mem_append] at h
      rw [List.flatten_cons, List.append_assoc]
      exact List.mem_append_right _ (List.mem_append.mpr h)

theorem remaining_cons {opened : Option (List β)} {done rest : List τ}
    {later returned : List (List τ)} :
    (⟨opened, done, rest :: later, returned⟩ : Writer β τ).remaining = (done ++ rest) :: later := rfl

/-- Between two calls nothing of the next one is in place. -/
theorem remaining_nil {opened : Option (List β)} {calls returned : List (List τ)} :
    (⟨opened, [], calls, returned⟩ : Writer β τ).remaining = calls := by
  cases calls <;> rfl

omit [DecidableEq ν] in
theorem WriterSound.mem_calls {calls : List (List τ)} {placed : List τ}
    (h : WriterSound F calls files placed w) {item : τ} (hitem : item ∈ w.calls.flatten) :
    item ∈ calls.flatten := by
  rcases List.mem_flatten.mp (mem_remaining hitem) with ⟨call, hcall, hmem⟩
  exact List.mem_flatten.mpr ⟨call, h.remaining.subset hcall, hmem⟩

/-- A writer keeps what is known of it. -/
theorem WriterSound.act {calls : List (List τ)} {placed : List τ}
    (hw : WriterSound F calls files placed w) (h : Acts F files w files' w' added) :
    WriterSound F calls files' (added ++ placed) w' := by
  rcases hw with ⟨hhalfway, hremaining, hdone, hreturned⟩
  cases h with
  -- Creating the file leaves it empty, and the calls as they were.
  | create done item rest later returned =>
      refine ⟨fun left hleft => ?_, hremaining, hdone, hreturned⟩
      cases hleft
      exact ⟨item, rest, later, [], rfl, put_same, rfl⟩
  -- A piece more of the same item is in the file.
  | append piece left done item rest later returned =>
      refine ⟨fun left' hleft => ?_, hremaining, hdone, hreturned⟩
      cases hleft
      rcases hhalfway _ rfl with ⟨other, others, after, written, hcalls, hfile, hwhole⟩
      cases hcalls
      refine ⟨item, rest, later, written ++ piece, rfl, ?_, ?_⟩
      · rw [put_same, hfile]
        rfl
      · rw [List.append_assoc, hwhole]
  -- The file is whole when it is renamed, so what is placed is an item of the call.
  | rename written done item rest later returned hfile =>
      refine ⟨nofun, ?_, fun b hb => ?_, fun call hcall => ?_⟩
      · rw [remaining_cons, List.append_assoc]
        exact hremaining
      · rcases List.mem_append.mp hb with hb | hb
        · exact List.mem_append_right _ (hdone b hb)
        · exact List.mem_append_left _ hb
      · exact ⟨(hreturned call hcall).1,
          fun b hb => List.mem_append_right _ ((hreturned call hcall).2 b hb)⟩
  | succeed done later returned =>
      rw [remaining_cons, List.append_nil] at hremaining
      refine ⟨nofun, ?_, nofun, fun call hcall => ?_⟩
      · rw [remaining_nil]
        exact (List.suffix_cons done later).trans hremaining
      · rcases List.mem_cons.mp hcall with rfl | hcall
        · exact ⟨hremaining.subset List.mem_cons_self, hdone⟩
        · exact hreturned call hcall
  -- A failure ends the call and places nothing.
  | fail opened done call later returned =>
      rw [remaining_cons] at hremaining
      refine ⟨nofun, ?_, nofun, hreturned⟩
      rw [remaining_nil]
      exact (List.suffix_cons _ later).trans hremaining

/-- What a step puts in place comes after the items before it in its call. -/
theorem Acts.order {calls : List (List τ)} {placed : List τ} (h : Acts F files w files' w' added)
    (hw : WriterSound F calls files placed w) : added = [] ∨ ∃ item, added = [item] ∧
      ∃ call ∈ calls, ∃ before after, call = before ++ item :: after ∧ ∀ b ∈ before, b ∈ placed := by
  cases h with
  | rename written done item rest later returned hfile =>
      have hremaining := hw.remaining
      rw [remaining_cons] at hremaining
      exact Or.inr ⟨item, rfl, done ++ item :: rest, hremaining.subset List.mem_cons_self, done, rest,
        rfl, hw.done⟩
  | _ => exact Or.inl rfl

end

/-- The temporary files of the writers are their own, and no targets. -/
structure Apart (F : Filing ν β τ) (calls : ι → List (List τ)) : Prop where
  target : ∀ a b, F.temporary a ≠ F.target b
  writers : ∀ i j, i ≠ j → ∀ a ∈ (calls i).flatten, ∀ b ∈ (calls j).flatten,
    F.temporary a ≠ F.temporary b

section

variable {F : Filing ν β τ} {start : Files ν β} {calls : ι → List (List τ)}

omit [DecidableEq ι] in
theorem sound_begin : Sound F start calls (begin start calls) :=
  { writers := fun i =>
      { halfway := nofun
        remaining := by simp only [begin, remaining_nil, List.suffix_rfl]
        done := nofun
        returned := nofun }
    reads := fun _ _ => rfl
    order := fun later item earlier h => by cases later <;> cases h }

/-- A step keeps what holds in every state. -/
theorem Sound.turn (hapart : Apart F calls) {s t : System ι ν β τ} (hs : Sound F start calls s)
    (h : Turn F s t) : Sound F start calls t := by
  cases h with
  | act i files writer added hact =>
  refine ⟨fun j => ?_, fun name hname => ?_, fun later item earlier heq => ?_⟩
  · by_cases hj : j = i
    · subst hj
      dsimp only
      rw [Function.update_self]
      exact (hs.writers j).act hact
    · -- the files of another writer are not touched
      dsimp only
      rw [Function.update_of_ne hj]
      refine { hs.writers j with
        halfway := fun left hleft => ?_
        done := fun b hb => List.mem_append_right _ ((hs.writers j).done b hb)
        returned := fun call hcall => ⟨((hs.writers j).returned call hcall).1,
          fun b hb => List.mem_append_right _ (((hs.writers j).returned call hcall).2 b hb)⟩ }
      rcases (hs.writers j).halfway left hleft with
        ⟨item, rest, later, written, hcalls, hfile, hwhole⟩
      have hitem : item ∈ (calls j).flatten := by
        refine (hs.writers j).mem_calls ?_
        rw [hcalls]
        exact List.mem_cons_self
      have hsame := hact.files_other (F.temporary item)
        (fun b hb => hapart.writers i j (Ne.symm hj) b ((hs.writers i).mem_calls hb) item hitem)
        (fun b => (hapart.target item b).symm)
      exact ⟨item, rest, later, written, hcalls, hsame.trans hfile, hwhole⟩
  · dsimp only
    rw [hact.reads (hs.writers i).halfway hname, hs.reads name hname, latest_append, Option.or_assoc]
  · rcases hact.order (hs.writers i) with rfl | ⟨last, rfl, call, hcall, before, after, heq', hin⟩
    · exact hs.order later item earlier heq
    · cases later with
      | nil =>
          cases heq
          exact ⟨i, call, hcall, before, after, heq', hin⟩
      | cons first later =>
          rcases List.cons.inj heq with ⟨_, hrest⟩
          exact hs.order later item earlier hrest

theorem sound_of_reaches (hapart : Apart F calls) {s : System ι ν β τ}
    (h : Reaches F (begin start calls) s) : Sound F start calls s := by
  induction h with
  | refl => exact sound_begin
  | tail _ hturn ih => exact ih.turn hapart hturn

theorem exists_turn {s : System ι ν β τ} {i : ι} {w w' : Writer β τ} {files : Files ν β}
    {added : List τ} (h : s.writers i = w) (hact : Acts F s.files w files w' added) :
    ∃ t, Turn F s t ∧ t.files = files ∧ t.writers i = w' ∧ t.placed = added ++ s.placed := by
  rw [← h] at hact
  exact ⟨_, Turn.act s i files w' added hact, rfl, Function.update_self i w' s.writers, rfl⟩

/-- Nothing keeps a writer from putting its next item in place. -/
theorem exists_place {s : System ι ν β τ} {i : ι} {done : List τ} {item : τ} {rest : List τ}
    {later returned : List (List τ)}
    (h : s.writers i = ⟨none, done, (item :: rest) :: later, returned⟩) :
    ∃ t, Reaches F s t ∧ t.writers i = ⟨none, done ++ [item], rest :: later, returned⟩ ∧
      t.placed = item :: s.placed := by
  rcases exists_turn h (Acts.create (F := F) s.files done item rest later returned) with
    ⟨first, hfirst, hempty, hopened, hnone⟩
  -- the whole content is written as one piece
  rcases exists_turn hopened ((List.append_nil (F.content item)) ▸
      Acts.append (F := F) first.files (F.content item) [] done item rest later returned) with
    ⟨second, hsecond, hfiles, hwritten, hstill⟩
  have hwhole : second.files (F.temporary item) = some (F.content item) := by
    rw [hfiles, put_same, hempty, put_same]
    rfl
  rcases exists_turn hwritten
    (Acts.rename second.files (F.content item) done item rest later returned hwhole) with
    ⟨third, hthird, _, hrenamed, hplaced⟩
  refine ⟨third, ((Relation.ReflTransGen.single hfirst).tail hsecond).tail hthird, hrenamed, ?_⟩
  rw [hplaced, hstill, hnone]
  rfl

/-- Nor from going through its call. -/
theorem exists_return {s : System ι ν β τ} {i : ι} {done call : List τ}
    {later returned : List (List τ)} (h : s.writers i = ⟨none, done, call :: later, returned⟩) :
    ∃ t, Reaches F s t ∧ t.writers i = ⟨none, [], later, (done ++ call) :: returned⟩ ∧
      t.placed = call.reverse ++ s.placed := by
  induction call generalizing s done with
  | nil =>
      have hact := Acts.succeed (F := F) s.files done later returned
      rw [← h] at hact
      refine ⟨_, Relation.ReflTransGen.single (Turn.act s i _ _ _ hact), ?_, rfl⟩
      dsimp only
      rw [Function.update_self, List.append_nil]
  | cons item rest ih =>
      rcases exists_place (F := F) h with ⟨t, hreach, hwriter, hplaced⟩
      rcases ih hwriter with ⟨u, hlater, hdone, hall⟩
      refine ⟨u, hreach.trans hlater, ?_, ?_⟩
      · rw [hdone, List.append_assoc]
        rfl
      · rw [hall, hplaced, List.reverse_cons, List.append_assoc]
        rfl

end

end Replacing

end Kahea
