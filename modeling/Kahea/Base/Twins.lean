import Kahea.Base.Effect

/-!
# Twin Runs

Two runs that look alike to an observer who does not see every event.

`Twins hidden m m'` says that the two programs, started where an observer has
seen the same, end with the same result and show the observer the same events.
What a program reads of its past may differ in the hidden events, so the rule
for reading it asks for twins at any two pasts that look alike.

## Main definitions

* `shown`: The events an observer sees.
* `Twins`: Two programs that look alike.

## Theorems

* `Twins.bind`, `Twins.reading`: The rules for sequences.
* `Twins.mapError`: The errors of both turned into others.
-/

namespace Kahea

variable {ω ε ε' α β : Type}

/-- The events an observer sees. -/
def shown (hidden : ω → Bool) (events : List ω) : List ω := events.filter (fun e => !hidden e)

@[simp] theorem shown_nil {hidden : ω → Bool} : shown hidden [] = [] := rfl

@[simp] theorem shown_append {hidden : ω → Bool} (first second : List ω) :
    shown hidden (first ++ second) = shown hidden first ++ shown hidden second :=
  List.filter_append first second

/-- Started where an observer has seen the same, two programs end alike and show
    the same. -/
def Twins (hidden : ω → Bool) (m m' : Eff ω ε α) : Prop :=
  ∀ past past', shown hidden past = shown hidden past' →
    (m past).1 = (m' past').1 ∧ shown hidden (m past).2 = shown hidden (m' past').2

namespace Twins

variable {hidden : ω → Bool}

/-- A value shows no events. -/
theorem pure (a : α) : Twins hidden (Pure.pure a : Eff ω ε α) (Pure.pure a) :=
  fun _ _ _ => ⟨rfl, rfl⟩

/-- The same event on both sides. -/
theorem emit (e : ω) : Twins hidden (Eff.emit e : Eff ω ε Unit) (Eff.emit e) :=
  fun _ _ _ => ⟨rfl, rfl⟩

theorem ofExcept (x : Except ε α) : Twins hidden (Eff.ofExcept x) (Eff.ofExcept x) :=
  fun _ _ _ => ⟨rfl, rfl⟩

/-- Sequencing, with the same rest for each result. -/
theorem bind {m m' : Eff ω ε α} {f f' : α → Eff ω ε β} (hm : Twins hidden m m')
    (hf : ∀ a, Twins hidden (f a) (f' a)) : Twins hidden (m >>= f) (m' >>= f') := by
  intro past past' hpast
  rcases hm past past' hpast with ⟨hresult, hevents⟩
  cases hrun : (m past).1 with
  | error e =>
      rw [Eff.bind_of_error hrun, Eff.bind_of_error (hresult.symm.trans hrun)]
      exact ⟨rfl, hevents⟩
  | ok a =>
      have hlater : shown hidden (past ++ (m past).2) = shown hidden (past' ++ (m' past').2) := by
        rw [shown_append, shown_append, hpast, hevents]
      rcases hf a _ _ hlater with ⟨hend, hmore⟩
      rw [Eff.bind_of_ok hrun, Eff.bind_of_ok (hresult.symm.trans hrun)]
      refine ⟨hend, ?_⟩
      rw [shown_append, shown_append, hevents, hmore]

/-- What follows a computation is judged on what it has computed. -/
theorem ofExcept_bind {x : Except ε α} {f f' : α → Eff ω ε β}
    (h : ∀ a, x = .ok a → Twins hidden (f a) (f' a)) :
    Twins hidden (Eff.ofExcept x >>= f) (Eff.ofExcept x >>= f') := by
  intro past past' hpast
  rw [Eff.ofExcept_bind, Eff.ofExcept_bind]
  cases hx : x with
  | error e => exact ⟨rfl, rfl⟩
  | ok a => exact h a hx past past' hpast

/-- What is read of the past may differ in what is hidden. -/
theorem reading {f f' : List ω → Eff ω ε β}
    (h : ∀ past past', shown hidden past = shown hidden past' → Twins hidden (f past) (f' past')) :
    Twins hidden (Eff.past >>= f) (Eff.past >>= f') := by
  intro past past' hpast
  rw [Eff.past_bind, Eff.past_bind]
  exact h past past' hpast past past' hpast

/-- Another name for the error. -/
theorem mapError {m m' : Eff ω ε' α} {f : ε' → ε} (h : Twins hidden m m') :
    Twins hidden (m.mapError f) (m'.mapError f) := by
  intro past past' hpast
  rcases h past past' hpast with ⟨hresult, hevents⟩
  refine ⟨?_, hevents⟩
  change (m past).1.mapError f = (m' past').1.mapError f
  rw [hresult]

end Twins

end Kahea
