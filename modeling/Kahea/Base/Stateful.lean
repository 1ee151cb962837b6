import Mathlib.Data.List.Basic

/-!
# Programs with a State

Inversion rules for fallible programs over a state, and the rules of an
invariant. The state is kept when a program fails, so `Keeps I E m` speaks of
both ends of a run: `I` holds at either, and a failure satisfies `E`.

`Follows R esc m` compares two runs of a program that start in related states:
they end alike, in related states again, unless the first run escapes. A state
a run has escaped to stays escaped, so the comparison may be given up once and
for all.

## Main definitions

* `demand`: Failing unless a condition holds.
* `Keeps`: An invariant of a program, however it ends.
* `Follows`: Two runs of a program end alike.

## Theorems

* `state_bind_ok`, `demand_ok`: A sequence and a test that succeed, taken apart.
* `Keeps.bind`, `Keeps.modify`: The rules of an invariant.
* `final_bind`: The state a sequence ends in.
* `Follows.bind`, `Follows.reading`: The rules of two runs.
-/

namespace Kahea

section

variable {ε σ α β : Type}

/-- A sequence that succeeds, taken apart. -/
theorem state_bind_ok {m : EStateM ε σ α} {f : α → EStateM ε σ β} {s t : σ} {b : β} :
    (m >>= f) s = .ok b t ↔ ∃ a u, m s = .ok a u ∧ f a u = .ok b t := by
  change EStateM.bind m f s = .ok b t ↔ _
  unfold EStateM.bind
  cases m s with
  | ok a u =>
      constructor
      · exact fun h => ⟨a, u, rfl, h⟩
      · rintro ⟨_, _, ⟨⟩, h⟩
        exact h
  | error e u =>
      constructor
      · exact fun h => by cases h
      · rintro ⟨_, _, h, _⟩
        cases h

/-- A sequence whose first part succeeds goes on with the second. -/
theorem state_bind_of_ok {m : EStateM ε σ α} {f : α → EStateM ε σ β} {s t : σ} {a : α}
    (h : m s = .ok a t) : (m >>= f) s = f a t := by
  change EStateM.bind m f s = _
  unfold EStateM.bind
  rw [h]

/-- A sequence that fails does so in one of its parts. -/
theorem state_bind_error {m : EStateM ε σ α} {f : α → EStateM ε σ β} {s t : σ} {e : ε} :
    (m >>= f) s = .error e t ↔ m s = .error e t ∨ ∃ a u, m s = .ok a u ∧ f a u = .error e t := by
  change EStateM.bind m f s = .error e t ↔ _
  unfold EStateM.bind
  cases m s with
  | ok a u =>
      constructor
      · exact fun h => Or.inr ⟨a, u, rfl, h⟩
      · rintro (h | ⟨_, _, ⟨⟩, h⟩)
        · cases h
        · exact h
  | error e' u =>
      constructor
      · exact fun h => Or.inl (by cases h; rfl)
      · rintro (h | ⟨_, _, h, _⟩)
        · cases h
          rfl
        · cases h

/-- A value leaves the state alone. -/
theorem state_pure_ok {s t : σ} {a b : α} :
    (pure a : EStateM ε σ α) s = .ok b t ↔ a = b ∧ s = t := by
  change EStateM.Result.ok a s = _ ↔ _
  simp only [EStateM.Result.ok.injEq]

theorem state_throw_ok {s t : σ} {e : ε} {a : α} :
    (throw e : EStateM ε σ α) s = .ok a t ↔ False :=
  ⟨nofun, False.elim⟩

/-- A failure leaves the state alone. -/
theorem state_throw_error {s t : σ} {e e' : ε} :
    (throw e : EStateM ε σ α) s = .error e' t ↔ e = e' ∧ s = t := by
  change EStateM.Result.error e s = _ ↔ _
  simp only [EStateM.Result.error.injEq]

theorem state_get_bind {f : σ → EStateM ε σ β} {s : σ} : (get >>= f) s = f s s := rfl

theorem state_modify_bind {g : σ → σ} {f : Unit → EStateM ε σ β} {s : σ} :
    (modify g >>= f) s = f () (g s) := rfl

/-- Fail unless a condition holds. -/
def demand (condition : Bool) (e : ε) : EStateM ε σ Unit :=
  if condition then pure () else throw e

/-- A check that holds changes nothing. -/
theorem demand_ok {condition : Bool} {e : ε} {s t : σ} {u : Unit} :
    demand condition e s = .ok u t ↔ condition = true ∧ s = t := by
  cases condition with
  | true =>
      change (pure () : EStateM ε σ Unit) s = _ ↔ _
      rw [state_pure_ok]
      simp only [true_and]
  | false => exact ⟨nofun, nofun⟩

/-- A check that fails reports its error in the state it found. -/
theorem demand_error {condition : Bool} {e e' : ε} {s t : σ} :
    demand condition e s = .error e' t ↔ condition = false ∧ e = e' ∧ s = t := by
  cases condition with
  | true => exact ⟨nofun, nofun⟩
  | false =>
      change (throw e : EStateM ε σ Unit) s = _ ↔ _
      rw [state_throw_error]
      simp only [true_and]

/-- An invariant of a program, however it ends, and what its failures are. -/
def Keeps (I : σ → Prop) (E : ε → Prop) (m : EStateM ε σ α) : Prop :=
  ∀ s, I s → match m s with
    | .ok _ t => I t
    | .error e t => I t ∧ E e

namespace Keeps

variable {I : σ → Prop} {E : ε → Prop}

theorem pure {a : α} : Keeps I E (Pure.pure a : EStateM ε σ α) := fun _ hs => hs

theorem throw {e : ε} (h : E e) : Keeps I E (MonadExcept.throw e : EStateM ε σ α) :=
  fun _ hs => ⟨hs, h⟩

theorem get : Keeps I E (MonadState.get : EStateM ε σ σ) := fun _ hs => hs

/-- A change of the state that keeps the invariant. -/
theorem modify {g : σ → σ} (h : ∀ s, I s → I (g s)) :
    Keeps I E (modifyGet (fun s => ((), g s)) : EStateM ε σ Unit) := h

/-- A check with an error that is allowed. -/
theorem demand {condition : Bool} {e : ε} (h : E e) :
    Keeps I E (Kahea.demand condition e : EStateM ε σ Unit) := by
  cases condition with
  | true => exact pure
  | false => exact throw h

/-- Sequencing keeps what both parts keep. -/
theorem bind {m : EStateM ε σ α} {f : α → EStateM ε σ β} (hm : Keeps I E m)
    (hf : ∀ a, Keeps I E (f a)) : Keeps I E (m >>= f) := by
  intro s hs
  have h := hm s hs
  change (match EStateM.bind m f s with
    | .ok _ t => I t
    | .error e t => I t ∧ E e)
  unfold EStateM.bind
  cases hr : m s with
  | ok a t =>
      rw [hr] at h
      exact hf a t h
  | error e t =>
      rw [hr] at h
      exact h

/-- A run that returns keeps the invariant. -/
theorem ok {m : EStateM ε σ α} (h : Keeps I E m) {s t : σ} {a : α} (hr : m s = .ok a t)
    (hs : I s) : I t := by
  have hfinal := h s hs
  rw [hr] at hfinal
  exact hfinal

/-- A run that fails keeps the invariant, with an error that is allowed. -/
theorem error {m : EStateM ε σ α} (h : Keeps I E m) {s t : σ} {e : ε} (hr : m s = .error e t)
    (hs : I s) : I t ∧ E e := by
  have hfinal := h s hs
  rw [hr] at hfinal
  exact hfinal

end Keeps

/-! ### Two runs -/

/-- The state a run ends in. -/
def finalState : EStateM.Result ε σ α → σ
  | .ok _ s => s
  | .error _ s => s

/-- An invariant holds in the state a run ends in. -/
theorem Keeps.final {I : σ → Prop} {E : ε → Prop} {m : EStateM ε σ α} (h : Keeps I E m) {s : σ}
    (hs : I s) : I (finalState (m s)) := by
  cases hr : m s with
  | ok a t => exact h.ok hr hs
  | error e t => exact (h.error hr hs).1

/-- Two runs end alike, unless the first has escaped. -/
def Agree (R : σ → σ → Prop) (esc : σ → Prop) (x y : EStateM.Result ε σ α) : Prop :=
  esc (finalState x) ∨
    match x, y with
    | .ok a s, .ok b t => a = b ∧ R s t
    | .error e _, .error e' _ => e = e'
    | _, _ => False

/-- The state a sequence ends in: that of its first part, if it fails, or that of
    its second. -/
theorem final_bind {P : σ → Prop} {m : EStateM ε σ α} {f : α → EStateM ε σ β} {s : σ}
    (herror : ∀ e u, m s = .error e u → P u) (hok : ∀ a u, m s = .ok a u → P (finalState (f a u))) :
    P (finalState ((m >>= f) s)) := by
  change P (finalState (EStateM.bind m f s))
  unfold EStateM.bind
  cases hr : m s with
  | ok a u => exact hok a u hr
  | error e u => exact herror e u hr

/-- A sequence whose first part escapes stays escaped. -/
theorem stays_bind {esc : σ → Prop} {m : EStateM ε σ α} {f : α → EStateM ε σ β} {s : σ}
    (hm : esc (finalState (m s))) (hf : ∀ a u, esc u → esc (finalState (f a u))) :
    esc (finalState ((m >>= f) s)) := by
  refine final_bind (fun e u hr => ?_) (fun a u hr => ?_)
  · rw [hr] at hm
    exact hm
  · rw [hr] at hm
    exact hf a u hm

/-- Two sequences end alike when their parts do. -/
theorem agree_bind {R : σ → σ → Prop} {esc : σ → Prop} {m m' : EStateM ε σ α}
    {f f' : α → EStateM ε σ β} {s t : σ} (hm : Agree R esc (m s) (m' t))
    (hstays : ∀ a u, esc u → esc (finalState (f a u)))
    (hf : ∀ a u v, m s = .ok a u → m' t = .ok a v → R u v → Agree R esc (f a u) (f' a v)) :
    Agree R esc ((m >>= f) s) ((m' >>= f') t) := by
  -- A run that escaped stays so, whatever follows.
  rcases hm with hescaped | hagree
  · exact Or.inl (stays_bind hescaped hstays)
  change Agree R esc (EStateM.bind m f s) (EStateM.bind m' f' t)
  unfold EStateM.bind
  -- Otherwise both end alike, and only a value goes on.
  cases hs : m s with
  | ok a u =>
      cases ht : m' t with
      | ok b v =>
          rw [hs, ht] at hagree
          rcases hagree with ⟨rfl, huv⟩
          exact hf a u v hs ht huv
      | error e v =>
          rw [hs, ht] at hagree
          exact hagree.elim
  | error e u =>
      cases ht : m' t with
      | ok b v =>
          rw [hs, ht] at hagree
          exact hagree.elim
      | error e' v =>
          rw [hs, ht] at hagree
          exact Or.inr hagree

/-- Two runs of a program from related states end alike. -/
structure Follows (R : σ → σ → Prop) (esc : σ → Prop) (m : EStateM ε σ α) : Prop where
  stays : ∀ s, esc s → esc (finalState (m s))
  agrees : ∀ s t, R s t → Agree R esc (m s) (m t)

namespace Follows

variable {R : σ → σ → Prop} {esc : σ → Prop}

theorem pure {a : α} : Follows R esc (Pure.pure a : EStateM ε σ α) :=
  ⟨fun _ hs => hs, fun _ _ h => Or.inr ⟨rfl, h⟩⟩

theorem throw {e : ε} : Follows R esc (MonadExcept.throw e : EStateM ε σ α) :=
  ⟨fun _ hs => hs, fun _ _ _ => Or.inr rfl⟩

/-- The same change on both sides. -/
theorem modify {g : σ → σ} (hstays : ∀ s, esc s → esc (g s)) (h : ∀ s t, R s t → R (g s) (g t)) :
    Follows R esc (modifyGet (fun s => ((), g s)) : EStateM ε σ Unit) :=
  ⟨hstays, fun s t hst => Or.inr ⟨rfl, h s t hst⟩⟩

theorem demand {condition : Bool} {e : ε} :
    Follows R esc (Kahea.demand condition e : EStateM ε σ Unit) := by
  cases condition with
  | true => exact pure
  | false => exact throw

/-- Sequencing: a side that has escaped stays so. -/
theorem bind {m : EStateM ε σ α} {f : α → EStateM ε σ β} (hm : Follows R esc m)
    (hf : ∀ a, Follows R esc (f a)) : Follows R esc (m >>= f) :=
  ⟨fun s hs => stays_bind (hm.stays s hs) (fun a => (hf a).stays),
    fun s t hst => agree_bind (hm.agrees s t hst) (fun a => (hf a).stays)
      (fun a u v _ _ => (hf a).agrees u v)⟩

/-- A program that reads what is the same in related states. -/
theorem reading {g : σ → β} {f : β → EStateM ε σ α} (hg : ∀ s t, R s t → g s = g t)
    (hf : ∀ b, Follows R esc (f b)) : Follows R esc (get >>= fun s => f (g s)) := by
  refine ⟨fun s hs => (hf (g s)).stays s hs, fun s t hst => ?_⟩
  change Agree R esc (f (g s) s) (f (g t) t)
  rw [← hg s t hst]
  exact (hf (g s)).agrees s t hst

/-- A program that answers and changes its state alike. -/
theorem step {m : EStateM ε σ α} {answer : σ → α} {next : σ → σ}
    (hm : ∀ s, m s = .ok (answer s) (next s)) (hstays : ∀ s, esc s → esc (next s))
    (h : ∀ s t, R s t → answer s = answer t ∧ R (next s) (next t)) : Follows R esc m := by
  refine ⟨fun s hs => ?_, fun s t hst => ?_⟩
  · rw [hm]
    exact hstays s hs
  · rw [hm, hm]
    exact Or.inr (h s t hst)

end Follows

end

end Kahea
