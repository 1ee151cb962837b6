import Kahea.Base.Stateful

/-!
# Triples

Rules of pre- and postconditions for fallible programs over a state.

The state is kept when a program fails, so a triple has two postconditions:
`Triple P m Q R` says that from a state with `P` the program either returns with
`Q` or fails with `R`. It is `Keeps` for programs whose parts expect more than an
invariant.

## Main definitions

* `Triple`: A program between its conditions.

## Theorems

* `Triple.bind`: The rule for a sequence.
* `Triple.weaken_ok`, `Triple.weaken_error`: The rules of consequence.
* `Triple.keep`: A part that keeps the condition.
-/

namespace Kahea

variable {ε σ α β : Type}

/-- From a state with `P` a program returns with `Q` or fails with `R`. -/
def Triple (P : σ → Prop) (m : EStateM ε σ α) (Q : α → σ → Prop) (R : σ → Prop) : Prop :=
  ∀ s, P s → (∀ a t, m s = .ok a t → Q a t) ∧ ∀ e t, m s = .error e t → R t

namespace Triple

variable {P : σ → Prop} {Q : α → σ → Prop} {R : σ → Prop} {S : β → σ → Prop}

/-- A value runs from any state that meets its postcondition. -/
theorem pure {a : α} (h : ∀ s, P s → Q a s) : Triple P (Pure.pure a : EStateM ε σ α) Q R := by
  intro s hs
  refine ⟨fun b t hrun => ?_, fun e t hrun => by cases hrun⟩
  cases hrun
  exact h s hs

/-- A failure runs from any state that meets the second postcondition. -/
theorem throw {e : ε} (h : ∀ s, P s → R s) :
    Triple P (MonadExcept.throw e : EStateM ε σ α) Q R := by
  intro s hs
  refine ⟨fun b t hrun => (by cases hrun), fun e' t hrun => ?_⟩
  cases hrun
  exact h s hs

/-- Sequencing: what the first part establishes, the second starts from. -/
theorem bind {m : EStateM ε σ α} {f : α → EStateM ε σ β} (hm : Triple P m Q R)
    (hf : ∀ a, Triple (Q a) (f a) S R) : Triple P (m >>= f) S R := by
  intro s hs
  rcases hm s hs with ⟨hok, herror⟩
  change (∀ b t, EStateM.bind m f s = .ok b t → S b t) ∧
    ∀ e t, EStateM.bind m f s = .error e t → R t
  unfold EStateM.bind
  cases hrun : m s with
  | ok a t => exact hf a t (hok a t hrun)
  | error e t =>
      refine ⟨fun b u h => (by cases h), fun e' u h => ?_⟩
      cases h
      exact herror e t hrun

/-- A change of the state. -/
theorem modify {g : σ → σ} {Q : Unit → σ → Prop} (h : ∀ s, P s → Q () (g s)) :
    Triple P (modifyGet (fun s => ((), g s)) : EStateM ε σ Unit) Q R := by
  intro s hs
  refine ⟨fun u t hrun => ?_, fun e t hrun => by cases hrun⟩
  cases hrun
  exact h s hs

/-- A check either changes nothing or fails in the state it found. -/
theorem demand {condition : Bool} {e : ε} {Q : Unit → σ → Prop} (h : ∀ s, P s → Q () s)
    (hr : ∀ s, P s → R s) : Triple P (Kahea.demand condition e : EStateM ε σ Unit) Q R := by
  cases condition with
  | true => exact pure h
  | false => exact throw hr

/-- Consequence, for results. -/
theorem weaken_ok {Q' : α → σ → Prop} {m : EStateM ε σ α} (h : Triple P m Q R)
    (hq : ∀ a s, Q a s → Q' a s) : Triple P m Q' R :=
  fun s hs => ⟨fun a t hrun => hq a t ((h s hs).1 a t hrun), (h s hs).2⟩

/-- Consequence, for failures. -/
theorem weaken_error {R' : σ → Prop} {m : EStateM ε σ α} (h : Triple P m Q R)
    (hr : ∀ s, R s → R' s) : Triple P m Q R' :=
  fun s hs => ⟨(h s hs).1, fun e t hrun => hr t ((h s hs).2 e t hrun)⟩

/-- A program that keeps a condition. -/
theorem of_keeps {m : EStateM ε σ α} (h : Keeps P (fun _ => True) m) :
    Triple P m (fun _ => P) P :=
  fun _ hs => ⟨fun _ _ hrun => h.ok hrun hs, fun _ _ hrun => (h.error hrun hs).1⟩

/-- A part that keeps the condition comes first. -/
theorem keep {m : EStateM ε σ α} {f : α → EStateM ε σ β} (hm : Keeps P (fun _ => True) m)
    (hr : ∀ s, P s → R s) (hf : ∀ a, Triple P (f a) S R) : Triple P (m >>= f) S R :=
  bind (fun _ hs => ⟨fun _ _ hrun => hm.ok hrun hs,
    fun _ _ hrun => hr _ (hm.error hrun hs).1⟩) hf

/-- What a triple says of a run that returns. -/
theorem ok {m : EStateM ε σ α} (h : Triple P m Q R) {s t : σ} {a : α} (hrun : m s = .ok a t)
    (hs : P s) : Q a t := (h s hs).1 a t hrun

/-- What a triple says of a run that fails. -/
theorem error {m : EStateM ε σ α} (h : Triple P m Q R) {s t : σ} {e : ε}
    (hrun : m s = .error e t) (hs : P s) : R t := (h s hs).2 e t hrun

end Triple

end Kahea
