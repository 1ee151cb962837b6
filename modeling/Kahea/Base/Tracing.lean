import Mathlib.Data.List.Basic

/-!
# Traced Programs

A fallible program run in three ways: as it is, with a list of the events on its
way (`Traced`), and in a build that panics on some of the events (`Fault`).

`RunsAlike` says that the three belong together: the traced run has the result of
the plain one, and the third panics exactly when the trace has an event to panic
on, and has the result of the plain one otherwise. The rules follow the program,
so a program that is written for any monad is alike in the three by its own
structure.

## Main definitions

* `Traced`: A result with the events before it.
* `Only`: A property of all events.
* `Fault`: An error, or a panic.
* `RunsAlike`: Three runs of a program.

## Theorems

* `RunsAlike.bind`, `RunsAlike.foldlM`: The rules for sequences and loops.
* `RunsAlike.panic_iff`: When the third run panics.
* `Only.bind`, `Traced.mem_foldlM`: What can happen, and what does.
-/

namespace Kahea

/-- A result with the events before it. -/
def Traced (ω ε α : Type) : Type := List ω × Except ε α

namespace Traced

variable {ω ε α β : Type}

/-- The sequence: a failure keeps the events before it. -/
def bind (t : Traced ω ε α) (f : α → Traced ω ε β) : Traced ω ε β :=
  match t.2 with
  | .ok a => (t.1 ++ (f a).1, (f a).2)
  | .error e => (t.1, .error e)

instance : Monad (Traced ω ε) where
  pure a := ([], .ok a)
  bind := bind

theorem pure_bind (a : α) (f : α → Traced ω ε β) : (pure a >>= f) = f a := rfl

/-- One event, with its result. -/
def event (e : ω) (result : Except ε α) : Traced ω ε α := ([e], result)

/-- A failure without an event. -/
def fail (e : ε) : Traced ω ε α := ([], .error e)

end Traced

/-- Every event of a run satisfies a property. -/
def Only {ω ε α : Type} (P : ω → Prop) (t : Traced ω ε α) : Prop := ∀ e ∈ t.1, P e

namespace Only

variable {ω ε α β : Type} {P : ω → Prop}

theorem pure (a : α) : Only P (Pure.pure a : Traced ω ε α) := fun _ he => absurd he List.not_mem_nil

theorem fail (e : ε) : Only P (Traced.fail e : Traced ω ε α) :=
  fun _ he => absurd he List.not_mem_nil

theorem event {e : ω} {r : Except ε α} (h : P e) : Only P (Traced.event e r) := by
  intro e' he'
  rw [List.mem_singleton.mp he']
  exact h

/-- Sequencing. -/
theorem bind {t : Traced ω ε α} {f : α → Traced ω ε β} (h : Only P t) (hf : ∀ a, Only P (f a)) :
    Only P (t >>= f) := by
  rcases t with ⟨events, result⟩
  cases result with
  | error e => exact h
  | ok a =>
      intro e he
      rcases List.mem_append.mp he with he | he
      · exact h e he
      · exact hf a e he

/-- A choice between two runs. -/
theorem ite {c : Prop} [Decidable c] {t t' : Traced ω ε α} (h : c → Only P t)
    (h' : ¬ c → Only P t') : Only P (if c then t else t') := by
  by_cases hc : c
  · rw [if_pos hc]
    exact h hc
  · rw [if_neg hc]
    exact h' hc

/-- A loop, by its rounds. -/
theorem foldlM {γ : Type} {f : α → γ → Traced ω ε α} {l : List γ}
    (h : ∀ a, ∀ c ∈ l, Only P (f a c)) (a : α) : Only P (l.foldlM f a) := by
  induction l generalizing a with
  | nil => exact pure a
  | cons c rest ih =>
      rw [List.foldlM_cons]
      exact bind (h a c List.mem_cons_self) (ih (fun a c hc => h a c (List.mem_cons_of_mem _ hc)))

end Only

theorem Traced.fail_bind {ω ε α β : Type} (e : ε) (f : α → Traced ω ε β) :
    ((Traced.fail e : Traced ω ε α) >>= f) = Traced.fail e := rfl

/-! ### Events that happen -/

section

variable {ω ε α β : Type} {t : Traced ω ε α} {f : α → Traced ω ε β} {e : ω}

/-- What happens in the first part of a sequence happens. -/
theorem Traced.mem_bind (h : e ∈ t.1) : e ∈ (t >>= f).1 := by
  rcases t with ⟨events, result⟩
  cases result with
  | error _ => exact h
  | ok a => exact List.mem_append_left _ h

/-- What happens in the second part happens if the first one has a result. -/
theorem Traced.mem_bind_ok {a : α} (ha : t.2 = .ok a) (h : e ∈ (f a).1) : e ∈ (t >>= f).1 := by
  rcases t with ⟨events, result⟩
  dsimp only at ha
  subst ha
  exact List.mem_append_right _ h

/-- A sequence of results. -/
theorem Traced.bind_ok {a : α} {b : β} (ha : t.2 = .ok a) (hb : (f a).2 = .ok b) :
    (t >>= f).2 = .ok b := by
  rcases t with ⟨events, result⟩
  dsimp only at ha
  subst ha
  exact hb

/-- What a step of a loop does happens if the steps before it have results. -/
theorem Traced.mem_foldlM {γ : Type} {f : α → γ → Traced ω ε α} {front rest : List γ} {c : γ}
    (hfront : ∀ a, ∀ c' ∈ front, ∃ b, (f a c').2 = .ok b) (h : ∀ a, e ∈ (f a c).1) (a : α) :
    e ∈ ((front ++ c :: rest).foldlM f a).1 := by
  induction front generalizing a with
  | nil =>
      rw [List.nil_append, List.foldlM_cons]
      exact mem_bind (h a)
  | cons first front ih =>
      rw [List.cons_append, List.foldlM_cons]
      rcases hfront a first List.mem_cons_self with ⟨b, hb⟩
      exact mem_bind_ok hb (ih (fun a c' hc' => hfront a c' (List.mem_cons_of_mem _ hc')) b)

end

/-- How a program ends that may panic. -/
inductive Fault (ε : Type) where
  | panic
  | reported (e : ε)
  deriving DecidableEq, Repr

section

variable {ω ε α β : Type} {panics : ω → Prop}

/-- A traced run, a run that may panic and a plain run belong together. -/
structure RunsAlike (panics : ω → Prop) (t : Traced ω ε α) (x : Except (Fault ε) α)
    (r : Except ε α) : Prop where
  result : t.2 = r
  loud : (∃ e ∈ t.1, panics e) → x = .error .panic
  quiet : (∀ e ∈ t.1, ¬ panics e) → x = r.mapError .reported

namespace RunsAlike

variable {t : Traced ω ε α} {x : Except (Fault ε) α} {r : Except ε α}

/-- The run panics exactly on an event to panic on. -/
theorem panic_iff (h : RunsAlike panics t x r) : x = .error .panic ↔ ∃ e ∈ t.1, panics e := by
  refine ⟨fun hpanic => ?_, h.loud⟩
  by_contra hnone
  have hquiet := h.quiet (fun e he hpanics => hnone ⟨e, he, hpanics⟩)
  rw [hpanic] at hquiet
  cases r with
  | ok a => cases hquiet
  | error e => cases hquiet

theorem pure (a : α) : RunsAlike panics (Pure.pure a : Traced ω ε α) (.ok a) (.ok a) :=
  ⟨rfl, fun ⟨_, he, _⟩ => absurd he List.not_mem_nil, fun _ => rfl⟩

theorem fail (e : ε) :
    RunsAlike panics (Traced.fail e : Traced ω ε α) (.error (.reported e)) (.error e) :=
  ⟨rfl, fun ⟨_, he, _⟩ => absurd he List.not_mem_nil, fun _ => rfl⟩

/-- One event: the run panics on it or has its result. -/
theorem event {e : ω} (hloud : panics e → x = .error .panic)
    (hquiet : ¬ panics e → x = r.mapError .reported) : RunsAlike panics (Traced.event e r) x r := by
  refine ⟨rfl, ?_, fun h => hquiet (h e (List.mem_singleton_self e))⟩
  rintro ⟨e', he', hpanics⟩
  rw [List.mem_singleton.mp he'] at hpanics
  exact hloud hpanics

/-- Sequencing, three runs at a time. -/
theorem bind {f : α → Traced ω ε β} {g : α → Except (Fault ε) β} {k : α → Except ε β}
    (h : RunsAlike panics t x r) (hf : ∀ a, RunsAlike panics (f a) (g a) (k a)) :
    RunsAlike panics (t >>= f) (x >>= g) (r >>= k) := by
  rcases t with ⟨events, result⟩
  rcases h with ⟨hresult, hloud, hquiet⟩
  dsimp only at hresult hloud hquiet
  subst hresult
  have hpanicked : (∃ e ∈ events, panics e) → (x >>= g) = .error .panic := by
    intro hpanics
    rw [hloud hpanics]
    rfl
  cases result with
  | error e =>
      refine ⟨rfl, hpanicked, fun hnone => ?_⟩
      rw [hquiet hnone]
      rfl
  | ok a =>
      rcases hf a with ⟨hresult', hloud', hquiet'⟩
      refine ⟨hresult', ?_, fun hnone => ?_⟩
      · rintro ⟨e, he, hpanics⟩
        by_cases hfirst : ∃ e ∈ events, panics e
        · exact hpanicked hfirst
        · -- Nothing has panicked before the second part.
          have hlater : e ∈ (f a).1 := by
            rcases List.mem_append.mp he with he | he
            · exact absurd ⟨e, he, hpanics⟩ hfirst
            · exact he
          rw [hquiet (fun e he hpanics => hfirst ⟨e, he, hpanics⟩)]
          exact hloud' ⟨e, hlater, hpanics⟩
      · rw [hquiet (fun e he => hnone e (List.mem_append_left _ he))]
        exact hquiet' (fun e he => hnone e (List.mem_append_right _ he))

/-- A choice that all three make alike. -/
theorem ite {c : Prop} [Decidable c] {t' : Traced ω ε α} {x' : Except (Fault ε) α}
    {r' : Except ε α} (h : RunsAlike panics t x r) (h' : RunsAlike panics t' x' r') :
    RunsAlike panics (if c then t else t') (if c then x else x') (if c then r else r') := by
  by_cases hc : c
  · rw [if_pos hc, if_pos hc, if_pos hc]
    exact h
  · rw [if_neg hc, if_neg hc, if_neg hc]
    exact h'

theorem foldlM {γ : Type} {f : α → γ → Traced ω ε α} {g : α → γ → Except (Fault ε) α}
    {k : α → γ → Except ε α} (h : ∀ a c, RunsAlike panics (f a c) (g a c) (k a c)) (l : List γ)
    (a : α) : RunsAlike panics (l.foldlM f a) (l.foldlM g a) (l.foldlM k a) := by
  induction l generalizing a with
  | nil => exact pure a
  | cons c rest ih =>
      rw [List.foldlM_cons, List.foldlM_cons, List.foldlM_cons]
      exact bind (h a c) ih

end RunsAlike

end

end Kahea
