import Mathlib.Data.List.Basic
import Mathlib.Data.List.Forall2

/-!
# Programs with a Trace

A monad for programs that may fail and whose effects on the outside are
observed as a trace of events, with the program logic the safety results are
proved in.

An effectful program is handed the events of the past and returns its result
together with the events it adds. Whatever answers it from outside — a name
server, a network peer, a file system — is a function of that past, so an
adversary who changes its answers over time is one such function and no
relation is needed.

`Ensures m Q P` is the only judgement. It says that whatever the past, a
normal result of `m` satisfies `Q` and every event `m` adds satisfies `P`,
also on the paths that end in an error. The rule for sequencing hands the
result's fact to the continuation, so the checks a program has passed so far
are the hypotheses under which the events after them are judged.

## Main definitions

* `ensure`, `okOr`: Failing unless a condition holds or a value is there.
* `Eff`: A program over events, errors and results.
* `Eff.emit`, `Eff.ofExcept`, `Eff.past`: The primitive programs.
* `Eff.Returns`: A program that does not end with an error.
* `Ensures`: Partial correctness with a condition on every event.
* `Spares`, `Avoids`: Errors that do not occur.

## Theorems

* `except_bind_ok`, `Eff.bind_ok`: A sequence that succeeds, taken apart.
* `except_foldlM_invariant`: The rule for a fallible loop.
* `Eff.mem_bind`: The events of a sequence.
* `Ensures.bind`: The sequencing rule.
* `Ensures.foldlM`: The rule for a loop over a list.
* `Ensures.mono`: Weakening both conditions.
-/

namespace Kahea

/-- A sequence of fallible computations that succeeds, taken apart. -/
theorem except_bind_ok {ε α β : Type} {x : Except ε α} {f : α → Except ε β} {b : β} :
    (x >>= f) = .ok b ↔ ∃ a, x = .ok a ∧ f a = .ok b := by
  cases x with
  | ok a =>
      constructor
      · exact fun h => ⟨a, rfl, h⟩
      · rintro ⟨_, ⟨⟩, h⟩
        exact h
  | error e =>
      constructor
      · exact fun h => by cases h
      · rintro ⟨_, h, _⟩
        cases h

theorem except_pure_ok {ε α : Type} {a b : α} : (pure a : Except ε α) = .ok b ↔ a = b :=
  ⟨fun h => by cases h; rfl, fun h => by rw [h]; rfl⟩

/-- A renamed error leaves results alone. -/
theorem except_mapError_ok {ε ε' α : Type} {x : Except ε α} {f : ε → ε'} {a : α} :
    x.mapError f = .ok a ↔ x = .ok a := by
  cases x with
  | ok b =>
      refine ⟨fun h => ?_, fun h => ?_⟩ <;> cases h <;> rfl
  | error e =>
      refine ⟨fun h => ?_, fun h => ?_⟩ <;> cases h

/-- A result under a function is the function of a result. -/
theorem except_map_ok {ε α β : Type} {x : Except ε α} {f : α → β} {y : β} :
    x.map f = .ok y ↔ ∃ a, x = .ok a ∧ f a = y := by
  cases x with
  | error e =>
      refine iff_of_false (by nofun) ?_
      rintro ⟨a, h, _⟩
      cases h
  | ok a =>
      constructor
      · intro h
        cases h
        exact ⟨a, rfl, rfl⟩
      · rintro ⟨_, ⟨⟩, rfl⟩
        rfl

/-- A result, seen as an option. -/
theorem toOption_eq_some {ε α : Type} {x : Except ε α} {a : α} :
    x.toOption = some a ↔ x = .ok a := by
  cases x with
  | ok b =>
      refine ⟨fun h => ?_, fun h => ?_⟩ <;> cases h <;> rfl
  | error e =>
      refine ⟨fun h => ?_, fun h => ?_⟩ <;> cases h

theorem some_bind {α β : Type} (x : α) (k : α → Option β) : (some x >>= k) = k x := rfl

/-- What a successful computation returns, read through a function of it. -/
theorem exists_ok_of_toOption {ε α β : Type} {x : Except ε α} {f : α → β} {b : β}
    (h : x.toOption.map f = some b) : ∃ a, x = .ok a ∧ f a = b := by
  cases x with
  | ok a => exact ⟨a, rfl, Option.some.inj h⟩
  | error e => cases h

/-- A fallible loop whose every pass preserves an invariant. -/
theorem except_foldlM_invariant {ε σ α : Type} {f : σ → α → Except ε σ} (I : σ → Prop)
    {l : List α} {s s' : σ} (h : l.foldlM f s = .ok s') (hs : I s)
    (hf : ∀ a ∈ l, ∀ t t', f t a = .ok t' → I t → I t') : I s' := by
  induction l generalizing s with
  | nil =>
      rw [List.foldlM_nil, except_pure_ok] at h
      rw [← h]
      exact hs
  | cons a rest ih =>
      rw [List.foldlM_cons, except_bind_ok] at h
      rcases h with ⟨t, ht, hrest⟩
      exact ih hrest (hf a List.mem_cons_self s t ht hs)
        (fun b hb => hf b (List.mem_cons_of_mem a hb))

/-- What a fallible map over a list returns, element by element. -/
theorem mapM_ok {ε α β : Type} {f : α → Except ε β} {xs : List α} {ys : List β}
    (h : xs.mapM f = .ok ys) : List.Forall₂ (fun x y => f x = .ok y) xs ys := by
  induction xs generalizing ys with
  | nil =>
      rw [List.mapM_nil, except_pure_ok] at h
      rw [← h]
      exact .nil
  | cons x xs ih =>
      rw [List.mapM_cons, except_bind_ok] at h
      rcases h with ⟨y, hy, h⟩
      rw [except_bind_ok] at h
      rcases h with ⟨rest, hrest, h⟩
      rw [except_pure_ok] at h
      rw [← h]
      exact .cons hy (ih hrest)

/-- Where an element of a flattened run comes from. -/
theorem mem_flatten_of_mapM {ε α β : Type} {f : α → Except ε (List β)} {xs : List α}
    {yss : List (List β)} (h : xs.mapM f = .ok yss) {y : β} :
    y ∈ yss.flatten ↔ ∃ x ∈ xs, ∃ ys, f x = .ok ys ∧ y ∈ ys := by
  have hall := mapM_ok h
  constructor
  · intro hy
    rcases List.mem_flatten.mp hy with ⟨ys, hys, hy⟩
    -- The lists come in the order of what they were made of.
    rcases List.forall₂_iff_get.mp hall with ⟨hlength, hget⟩
    rcases List.get_of_mem hys with ⟨i, rfl⟩
    have hi : i.val < xs.length := by
      rw [hlength]
      exact i.isLt
    exact ⟨xs.get ⟨i, hi⟩, List.get_mem _ _, _, hget i hi i.isLt, hy⟩
  · rintro ⟨x, hx, ys, hys, hy⟩
    rcases List.forall₂_iff_get.mp hall with ⟨hlength, hget⟩
    rcases List.get_of_mem hx with ⟨i, rfl⟩
    have hi : i.val < yss.length := by
      rw [← hlength]
      exact i.isLt
    have hsame := hget i i.isLt hi
    rw [hys, Except.ok.injEq] at hsame
    exact List.mem_flatten.mpr ⟨yss.get ⟨i, hi⟩, List.get_mem _ _, hsame ▸ hy⟩

/-- Results item by item make a result of the list. -/
theorem mapM_of_forall₂ {ε α β : Type} {f : α → Except ε β} {xs : List α} {ys : List β}
    (h : List.Forall₂ (fun x y => f x = .ok y) xs ys) : xs.mapM f = .ok ys := by
  induction h with
  | nil => rfl
  | cons hxy _ ih =>
      rw [List.mapM_cons, hxy, ih]
      rfl

/-- Each item of a list that returns returns. -/
theorem ok_of_mapM {ε α β : Type} {f : α → Except ε β} {xs : List α} {ys : List β}
    (h : xs.mapM f = .ok ys) {x : α} (hx : x ∈ xs) : ∃ y, f x = .ok y := by
  have hall := mapM_ok h
  clear h
  induction hall with
  | nil => cases hx
  | cons hxy _ ih =>
      rcases List.mem_cons.mp hx with rfl | hx
      · exact ⟨_, hxy⟩
      · exact ih hx

/-- A fallible map succeeds when it does so on every item. -/
theorem exists_mapM_ok {ε α β : Type} {f : α → Except ε β} {xs : List α} :
    (∃ ys, xs.mapM f = .ok ys) ↔ ∀ x ∈ xs, ∃ y, f x = .ok y := by
  constructor
  · rintro ⟨ys, hys⟩ x hx
    exact ok_of_mapM hys hx
  · intro h
    induction xs with
    | nil => exact ⟨[], rfl⟩
    | cons x rest ih =>
        rcases h x List.mem_cons_self with ⟨y, hy⟩
        rcases ih (fun z hz => h z (List.mem_cons_of_mem x hz)) with ⟨ys, hys⟩
        refine ⟨y :: ys, ?_⟩
        rw [List.mapM_cons, hy, hys]
        rfl

/-- Two maps whose values agree are equal. -/
theorem mapM_congr {ε α β : Type} {f g : α → Except ε β} {l : List α} (h : ∀ a ∈ l, f a = g a) :
    l.mapM f = l.mapM g := by
  induction l with
  | nil => rfl
  | cons a rest ih =>
      rw [List.mapM_cons, List.mapM_cons, h a List.mem_cons_self,
        ih (fun b hb => h b (List.mem_cons_of_mem a hb))]

/-- A check in front of a computation. -/
theorem unit_bind_ok {ε α : Type} {x : Except ε Unit} {f : Unit → Except ε α} {a : α} :
    (x >>= f) = .ok a ↔ x = .ok () ∧ f () = .ok a := by
  rw [except_bind_ok]
  exact ⟨fun ⟨_, hx, hf⟩ => ⟨hx, hf⟩, fun ⟨hx, hf⟩ => ⟨(), hx, hf⟩⟩

/-- Checks of all items. -/
theorem forM_ok {ε α : Type} {f : α → Except ε Unit} {l : List α} :
    l.forM f = .ok () ↔ ∀ a ∈ l, f a = .ok () := by
  induction l with
  | nil => exact iff_of_true rfl nofun
  | cons a l ih =>
      have hcons : (a :: l).forM f = f a >>= fun _ => l.forM f := rfl
      rw [hcons, except_bind_ok, List.forall_mem_cons, ← ih]
      exact ⟨fun ⟨_, ha, hl⟩ => ⟨ha, hl⟩, fun ⟨ha, hl⟩ => ⟨(), ha, hl⟩⟩

/-- Two loops whose passes agree are equal. -/
theorem forM_congr {ε α : Type} {f g : α → Except ε Unit} {l : List α} (h : ∀ a ∈ l, f a = g a) :
    l.forM f = l.forM g := by
  induction l with
  | nil => rfl
  | cons a rest ih =>
      have hcons (k : α → Except ε Unit) : (a :: rest).forM k = (k a >>= fun _ => rest.forM k) := rfl
      rw [hcons, hcons, h a List.mem_cons_self, ih (fun b hb => h b (List.mem_cons_of_mem a hb))]

/-- Two loops with a state whose steps agree are equal. -/
theorem foldlM_congr {ε σ α : Type} {f g : σ → α → Except ε σ} {l : List α}
    (h : ∀ s, ∀ a ∈ l, f s a = g s a) (s : σ) : l.foldlM f s = l.foldlM g s := by
  induction l generalizing s with
  | nil => rfl
  | cons a rest ih =>
      rw [List.foldlM_cons, List.foldlM_cons, h s a List.mem_cons_self]
      exact congrArg (g s a >>= ·) (funext fun t =>
        ih (fun s b hb => h s b (List.mem_cons_of_mem a hb)) t)

/-- Every step of a loop that succeeds succeeds. -/
theorem step_of_foldlM {ε σ α : Type} {f : σ → α → Except ε σ} {l : List α} {s s' : σ}
    (h : l.foldlM f s = .ok s') {a : α} (ha : a ∈ l) : ∃ t t', f t a = .ok t' := by
  induction l generalizing s with
  | nil => cases ha
  | cons x rest ih =>
      rw [List.foldlM_cons] at h
      rcases except_bind_ok.mp h with ⟨t, ht, hrest⟩
      rcases List.mem_cons.mp ha with rfl | ha
      · exact ⟨s, t, ht⟩
      · exact ih hrest ha

/-- A loop whose steps succeed in every state succeeds. -/
theorem exists_foldlM_ok {ε σ α : Type} {f : σ → α → Except ε σ} {l : List α}
    (h : ∀ a ∈ l, ∀ s, ∃ t, f s a = .ok t) (s : σ) : ∃ t, l.foldlM f s = .ok t := by
  induction l generalizing s with
  | nil => exact ⟨s, rfl⟩
  | cons x rest ih =>
      rcases h x List.mem_cons_self s with ⟨t, ht⟩
      rw [List.foldlM_cons, ht]
      exact ih (fun a ha => h a (List.mem_cons_of_mem x ha)) t

/-- Fail unless a condition holds. -/
def ensure {ε : Type} (condition : Bool) (e : ε) : Except ε Unit :=
  if condition then .ok () else .error e

/-- A check passes exactly when its condition holds. -/
theorem ensure_ok {ε : Type} {condition : Bool} {e : ε} {u : Unit} :
    ensure condition e = .ok u ↔ condition = true := by
  cases condition with
  | true => exact ⟨fun _ => rfl, fun _ => rfl⟩
  | false => exact ⟨nofun, nofun⟩

/-- A value that is there, or the error. -/
def okOr {ε α : Type} (e : ε) : Option α → Except ε α
  | some a => .ok a
  | none => .error e

/-- An option that must be there. -/
theorem okOr_ok {ε α : Type} {e : ε} {o : Option α} {a : α} : okOr e o = .ok a ↔ o = some a := by
  cases o with
  | none => exact ⟨nofun, nofun⟩
  | some b =>
      constructor
      · intro h
        cases h
        rfl
      · intro h
        cases h
        rfl

/-- A program that reads the past events and returns a result or an error
    together with the events it adds. -/
def Eff (ω ε α : Type) : Type := List ω → Except ε α × List ω

namespace Eff

variable {ω ε α β : Type}

/-- The program that does nothing. -/
def pure (a : α) : Eff ω ε α := fun _ => (.ok a, [])

/-- Run one program and, when it succeeds, the next one on its result. -/
def bind (m : Eff ω ε α) (f : α → Eff ω ε β) : Eff ω ε β := fun past =>
  match m past with
  | (.ok a, added) =>
      let r := f a (past ++ added)
      (r.1, added ++ r.2)
  | (.error e, added) => (.error e, added)

instance : Monad (Eff ω ε) where
  pure := Eff.pure
  bind := Eff.bind

/-- Fail. -/
def fail (e : ε) : Eff ω ε α := fun _ => (.error e, [])

/-- Add one event. -/
def emit (e : ω) : Eff ω ε Unit := fun _ => (.ok (), [e])

/-- The events so far. -/
def past : Eff ω ε (List ω) := fun h => (.ok h, [])

/-- A computation without effects. -/
def ofExcept (x : Except ε α) : Eff ω ε α := fun _ => (x, [])

/-- Turn the error of a program into another kind of error. -/
def mapError {ε' : Type} (f : ε → ε') (m : Eff ω ε α) : Eff ω ε' α := fun h =>
  ((m h).1.mapError f, (m h).2)

/-- The outcome of a program as a result, so that the caller can go on after
    an error. -/
def attempt {ε' : Type} (m : Eff ω ε α) : Eff ω ε' (Except ε α) := fun h =>
  (.ok (m h).1, (m h).2)

/-- A computation without effects hands its result on at once. -/
theorem ofExcept_bind {x : Except ε α} {f : α → Eff ω ε β} {h : List ω} :
    (ofExcept x >>= f) h = (match x with
      | .ok a => f a h
      | .error e => (.error e, [])) := by
  change Eff.bind (ofExcept x) f h = _
  unfold Eff.bind ofExcept
  cases x with
  | ok a => simp only [List.append_nil, List.nil_append]
  | error e => rfl

/-- A pure step in front emits nothing. -/
theorem ofExcept_bind_ok {x : Except ε α} {f : α → Eff ω ε β} {past : List ω} {b : β}
    (h : ((ofExcept x >>= f) past).1 = .ok b) : ∃ a, x = .ok a ∧ (f a past).1 = .ok b := by
  rw [ofExcept_bind] at h
  cases x with
  | ok a => exact ⟨a, rfl, h⟩
  | error e => cases h

/-- Reading the past hands it on. -/
theorem past_bind {f : List ω → Eff ω ε β} {h : List ω} : (past >>= f) h = f h h := by
  change Eff.bind past f h = _
  unfold Eff.bind past
  simp only [List.append_nil, List.nil_append]

/-- A sequence that returns, in its two parts. -/
theorem bind_ok {m : Eff ω ε α} {f : α → Eff ω ε β} {h : List ω} {b : β}
    (hb : ((m >>= f) h).1 = .ok b) :
    ∃ a, (m h).1 = .ok a ∧ (f a (h ++ (m h).2)).1 = .ok b := by
  change (Eff.bind m f h).1 = .ok b at hb
  unfold Eff.bind at hb
  rcases hm : m h with ⟨r, added⟩
  rw [hm] at hb
  cases r with
  | ok a => exact ⟨a, rfl, hb⟩
  | error e => exact absurd hb (by simp only [reduceCtorEq, not_false_eq_true])

/-- A first part that fails ends the sequence. -/
theorem bind_of_error {m : Eff ω ε α} {f : α → Eff ω ε β} {h : List ω} {e : ε}
    (he : (m h).1 = .error e) : (m >>= f) h = (.error e, (m h).2) := by
  change Eff.bind m f h = _
  unfold Eff.bind
  rcases hm : m h with ⟨r, added⟩
  rw [hm] at he
  cases he
  rfl

theorem bind_error {m : Eff ω ε α} {f : α → Eff ω ε β} {h : List ω} {e : ε}
    (he : (m h).1 = .error e) : ((m >>= f) h).1 = .error e := by
  rw [bind_of_error he]

/-- A first part that returns: the second runs after its events. -/
theorem bind_of_ok {m : Eff ω ε α} {f : α → Eff ω ε β} {h : List ω} {a : α}
    (ha : (m h).1 = .ok a) :
    (m >>= f) h = ((f a (h ++ (m h).2)).1, (m h).2 ++ (f a (h ++ (m h).2)).2) := by
  change Eff.bind m f h = _
  unfold Eff.bind
  rcases hm : m h with ⟨r, added⟩
  rw [hm] at ha
  cases ha
  rfl

/-- A program returns a result from a point of its run on. -/
def Returns (m : Eff ω ε α) (past : List ω) : Prop := ∃ a, (m past).1 = .ok a

/-- A sequence returns when its parts do. -/
theorem returns_bind {m : Eff ω ε α} {f : α → Eff ω ε β} {past : List ω} :
    (m >>= f).Returns past ↔
      ∃ a, (m past).1 = .ok a ∧ (f a).Returns (past ++ (m past).2) := by
  constructor
  · rintro ⟨b, hb⟩
    rcases bind_ok hb with ⟨a, ha, hrest⟩
    exact ⟨a, ha, b, hrest⟩
  · rintro ⟨a, ha, b, hb⟩
    refine ⟨b, ?_⟩
    rw [bind_of_ok ha]
    exact hb

/-- A pure step in front returns exactly when both do. -/
theorem returns_ofExcept_bind {x : Except ε α} {f : α → Eff ω ε β} {past : List ω} :
    (ofExcept x >>= f).Returns past ↔ ∃ a, x = .ok a ∧ (f a).Returns past := by
  rw [returns_bind]
  unfold ofExcept
  simp only [List.append_nil]

theorem not_returns_fail {e : ε} {past : List ω} : ¬ (fail e : Eff ω ε α).Returns past := by
  rintro ⟨a, h⟩
  cases h

/-- The events of a sequence are those of its parts. -/
theorem mem_bind {m : Eff ω ε α} {f : α → Eff ω ε β} {h : List ω} {e : ω} :
    e ∈ ((m >>= f) h).2 ↔
      e ∈ (m h).2 ∨ ∃ a, (m h).1 = .ok a ∧ e ∈ (f a (h ++ (m h).2)).2 := by
  change e ∈ (Eff.bind m f h).2 ↔ _
  unfold Eff.bind
  rcases m h with ⟨r, added⟩
  cases r with
  | ok a => simp only [List.mem_append, Except.ok.injEq, exists_eq_left']
  | error e' => simp only [reduceCtorEq, false_and, exists_false, or_false]

end Eff

/-- What follows a program may be replaced by what is the same on all its
    results. -/
theorem Eff.bind_congr {ω ε α β : Type} {m : Eff ω ε α} {f g : α → Eff ω ε β}
    (h : ∀ past a, (m past).1 = .ok a → f a = g a) : m >>= f = m >>= g := by
  funext past
  change Eff.bind m f past = Eff.bind m g past
  have hpast := h past
  unfold Eff.bind
  rcases hm : m past with ⟨result, added⟩
  cases result with
  | error e => rfl
  | ok a =>
      rw [hm] at hpast
      have hsame : f a (past ++ added) = g a (past ++ added) := congrFun (hpast a rfl) _
      dsimp only
      rw [hsame]

/-- Whatever the past, a normal result satisfies `Q` and every added event
    satisfies `P`. -/
def Ensures {ω ε α : Type} (m : Eff ω ε α) (Q : α → Prop) (P : ω → Prop) : Prop :=
  ∀ h, (∀ a, (m h).1 = .ok a → Q a) ∧ ∀ e ∈ (m h).2, P e

namespace Ensures

variable {ω ε ε' α β : Type} {P P' : ω → Prop} {Q Q' : α → Prop} {R : β → Prop}

theorem pure {a : α} (hq : Q a) : Ensures (Pure.pure a : Eff ω ε α) Q P := by
  intro h
  refine ⟨fun b hb => ?_, fun e he => absurd he (List.not_mem_nil)⟩
  cases hb
  exact hq

theorem fail {e : ε} : Ensures (Eff.fail e : Eff ω ε α) Q P := by
  intro h
  exact ⟨nofun, fun e he => absurd he (List.not_mem_nil)⟩

theorem emit {e : ω} (he : P e) : Ensures (Eff.emit e : Eff ω ε Unit) (fun _ => True) P := by
  intro h
  refine ⟨fun _ _ => trivial, fun e' he' => ?_⟩
  rw [List.mem_singleton.mp he']
  exact he

theorem past : Ensures (Eff.past : Eff ω ε (List ω)) (fun _ => True) P := by
  intro h
  exact ⟨fun _ _ => trivial, fun e he => absurd he (List.not_mem_nil)⟩

/-- A pure step ensures what its result has. -/
theorem ofExcept {x : Except ε α} (hx : ∀ a, x = .ok a → Q a) :
    Ensures (Eff.ofExcept x : Eff ω ε α) Q P := by
  intro h
  exact ⟨hx, fun e he => absurd he (List.not_mem_nil)⟩

/-- Sequencing: the first program's fact is a hypothesis of the second. -/
theorem bind {m : Eff ω ε α} {f : α → Eff ω ε β} (hm : Ensures m Q P)
    (hf : ∀ a, Q a → Ensures (f a) R P) : Ensures (m >>= f) R P := by
  intro h
  change (∀ b, (Eff.bind m f h).1 = .ok b → R b) ∧ ∀ e ∈ (Eff.bind m f h).2, P e
  rcases hm h with ⟨hres, hev⟩
  unfold Eff.bind
  rcases hmh : m h with ⟨r, added⟩
  rw [hmh] at hres hev
  cases r with
  | ok a =>
      rcases hf a (hres a rfl) (h ++ added) with ⟨hres', hev'⟩
      refine ⟨hres', fun e he => ?_⟩
      rcases List.mem_append.mp he with hl | hr
      · exact hev e hl
      · exact hev' e hr
  | error e => exact ⟨nofun, hev⟩

/-- Nothing is said of a program. -/
theorem any {m : Eff ω ε α} : Ensures m (fun _ => True) (fun _ => True) :=
  fun _ => ⟨fun _ _ => trivial, fun _ _ => trivial⟩

/-- Consequence. -/
theorem mono {m : Eff ω ε α} (hm : Ensures m Q P) (hq : ∀ a, Q a → Q' a)
    (hp : ∀ e, P e → P' e) : Ensures m Q' P' :=
  fun h => ⟨fun a ha => hq a ((hm h).1 a ha), fun e he => hp e ((hm h).2 e he)⟩

/-- A result's fact may be shown apart from the events. -/
theorem result {m : Eff ω ε α} (hm : Ensures m Q P) (h : ∀ past a, (m past).1 = .ok a → Q' a) :
    Ensures m Q' P :=
  fun past => ⟨h past, (hm past).2⟩

/-- Two guarantees at once. -/
theorem and {m : Eff ω ε α} (hm : Ensures m Q P) (hm' : Ensures m Q' P') :
    Ensures m (fun a => Q a ∧ Q' a) (fun e => P e ∧ P' e) :=
  fun h => ⟨fun a ha => ⟨(hm h).1 a ha, (hm' h).1 a ha⟩,
    fun e he => ⟨(hm h).2 e he, (hm' h).2 e he⟩⟩

/-- Another name for the error ensures the same. -/
theorem mapError {m : Eff ω ε α} {f : ε → ε'} (hm : Ensures m Q P) :
    Ensures (m.mapError f) Q P := by
  intro h
  refine ⟨fun a ha => (hm h).1 a ?_, (hm h).2⟩
  simp only [Eff.mapError] at ha
  cases hr : (m h).1 with
  | ok b =>
      rw [hr] at ha
      cases ha
      rfl
  | error e =>
      rw [hr] at ha
      cases ha

/-- A caught error counts as a result. -/
theorem attempt {m : Eff ω ε α} (hm : Ensures m Q P) :
    Ensures (m.attempt : Eff ω ε' (Except ε α)) (fun r => ∀ a, r = .ok a → Q a) P := by
  intro h
  refine ⟨fun r hr => ?_, (hm h).2⟩
  simp only [Eff.attempt, Except.ok.injEq] at hr
  rw [← hr]
  exact (hm h).1

/-- A loop whose every pass preserves an invariant of the carried state. -/
theorem foldlM {s : Type} {f : s → α → Eff ω ε s} {I : s → Prop} (l : List α)
    (hf : ∀ t a, a ∈ l → I t → Ensures (f t a) I P) {t : s} (ht : I t) :
    Ensures (l.foldlM f t) I P := by
  induction l generalizing t with
  | nil => exact pure ht
  | cons a rest ih =>
      rw [List.foldlM_cons]
      exact bind (hf t a List.mem_cons_self ht)
        (fun t' ht' => ih (fun u b hb hu => hf u b (List.mem_cons_of_mem a hb) hu) ht')

end Ensures

/-! ### Errors that do not occur -/

/-- No error of a fallible computation is bad. -/
def Spares {ε α : Type} (bad : ε → Prop) (x : Except ε α) : Prop := ∀ e, x = .error e → ¬ bad e

namespace Spares

variable {ε ε' α β : Type} {bad : ε → Prop}

theorem ok (a : α) : Spares bad (.ok a) := nofun

theorem error {e : ε} (h : ¬ bad e) : Spares bad (.error e : Except ε α) := by
  intro e' he
  cases he
  exact h

theorem ensure {condition : Bool} {e : ε} (h : ¬ bad e) : Spares bad (ensure condition e) := by
  cases condition with
  | true => exact ok ()
  | false => exact error h

theorem mapError {f : ε' → ε} {x : Except ε' α} (h : ∀ e, ¬ bad (f e)) :
    Spares bad (x.mapError f) := by
  cases x with
  | ok a => exact ok a
  | error e => exact error (h e)

theorem bind {x : Except ε α} {f : α → Except ε β} (hx : Spares bad x) (hf : ∀ a, Spares bad (f a)) :
    Spares bad (x >>= f) := by
  cases x with
  | ok a => exact hf a
  | error e =>
      have he := hx e rfl
      exact error he

theorem foldlM {σ : Type} {f : σ → α → Except ε σ} (hf : ∀ s a, Spares bad (f s a)) (l : List α)
    (s : σ) : Spares bad (l.foldlM f s) := by
  induction l generalizing s with
  | nil => exact ok s
  | cons a l ih =>
      rw [List.foldlM_cons]
      exact bind (hf s a) ih

end Spares

/-- Whatever the past, no error of a program is bad. -/
def Avoids {ω ε α : Type} (bad : ε → Prop) (m : Eff ω ε α) : Prop := ∀ h, Spares bad (m h).1

namespace Avoids

variable {ω ε ε' α β : Type} {bad : ε → Prop}

theorem pure (a : α) : Avoids bad (Pure.pure a : Eff ω ε α) := fun _ => Spares.ok a

theorem fail {e : ε} (h : ¬ bad e) : Avoids bad (Eff.fail e : Eff ω ε α) := fun _ => Spares.error h

theorem emit (e : ω) : Avoids bad (Eff.emit e : Eff ω ε Unit) := fun _ => Spares.ok ()

theorem past : Avoids bad (Eff.past : Eff ω ε (List ω)) := fun h => Spares.ok h

theorem ofExcept {x : Except ε α} (h : Spares bad x) : Avoids bad (Eff.ofExcept x : Eff ω ε α) :=
  fun _ => h

theorem mapError {f : ε' → ε} {m : Eff ω ε' α} (h : ∀ e, ¬ bad (f e)) : Avoids bad (m.mapError f) := by
  intro past
  unfold Eff.mapError
  cases (m past).1 with
  | ok a => exact Spares.ok a
  | error e => exact Spares.error (h e)

theorem bind {m : Eff ω ε α} {f : α → Eff ω ε β} (hm : Avoids bad m) (hf : ∀ a, Avoids bad (f a)) :
    Avoids bad (m >>= f) := by
  intro past
  change Spares bad (Eff.bind m f past).1
  unfold Eff.bind
  have hfirst := hm past
  rcases hr : m past with ⟨r, added⟩
  rw [hr] at hfirst
  cases r with
  | ok a => exact hf a (past ++ added)
  | error e => exact Spares.error (hfirst e rfl)

end Avoids

end Kahea
