import Mathlib.Order.Preorder.Finite
import Mathlib.Logic.Relation
import Mathlib.Order.WellFounded

/-!
# Sequential Calls

Recursive checks that run their steps in order and stop at the first failure.

A check is described by the steps of one activation: tests that pass or fail,
and calls of the check on something else. `runCalls` runs it on a stack of
bounded depth and has no result when the stack is too short. Which calls are
made is a relation of its own, `Calls`: a call is made when every step before
it passes, and passing is defined without a stack (`Passes`).

A check has a result on some stack exactly when no infinite chain of calls
starts from it (`runCalls_isSome_iff`). When only finitely many arguments can
be met on the way, that is the case exactly when no argument that is met leads
back to itself (`runCalls_isSome_iff_acyclic`).

## Main definitions

* `Step`: A test or a call.
* `runCalls`: Running a check on a bounded stack.
* `Passes`: A check that passes.
* `Calls`: The calls a check makes.

## Theorems

* `runCalls_mono`: A longer stack does not change a result.
* `runCalls_true_iff`: A check passes on some stack exactly when it passes.
* `runCalls_isSome_iff`: A check ends exactly when its calls do.
* `acc_iff_acyclic`: Among finitely many, chains end when there are no cycles.
-/

namespace Kahea

variable {σ : Type}

/-- A step of a check. -/
inductive Step (σ : Type) where
  | check (passes : Bool)
  | call (callee : σ)
  deriving DecidableEq

/-- The steps in order, up to the first that fails or has no result. -/
def runSteps (call : σ → Option Bool) : List (Step σ) → Option Bool
  | [] => some true
  | .check passes :: rest => if passes then runSteps call rest else some false
  | .call callee :: rest =>
      (call callee).bind (fun passes => if passes then runSteps call rest else some false)

/-- The check on a stack of the given depth. -/
def runCalls (steps : σ → List (Step σ)) : Nat → σ → Option Bool
  | 0, _ => none
  | depth + 1, s => runSteps (runCalls steps depth) (steps s)

/-- Steps one after the other. -/
theorem runSteps_append {call : σ → Option Bool} (before after : List (Step σ)) :
    runSteps call (before ++ after) = (runSteps call before).bind
      (fun passes => if passes then runSteps call after else some false) := by
  induction before with
  | nil => rfl
  | cons step before ih =>
      cases step with
      | check passes => cases passes <;> simp [runSteps, ih]
      | call callee =>
          cases hcallee : call callee with
          | none => simp [runSteps, hcallee]
          | some passes => cases passes <;> simp [runSteps, hcallee, ih]

theorem runSteps_check {call : σ → Option Bool} (passes : Bool) :
    runSteps call [.check passes] = some passes := by
  cases passes <;> rfl

theorem runSteps_call {call : σ → Option Bool} (callee : σ) :
    runSteps call [.call callee] = call callee := by
  cases h : call callee with
  | none => simp [runSteps, h]
  | some passes => cases passes <;> simp [runSteps, h]

/-- A result of the steps is a result with more results of the calls. -/
theorem runSteps_mono {call call' : σ → Option Bool} (hcall : ∀ s b, call s = some b → call' s = some b)
    {steps : List (Step σ)} {b : Bool} (h : runSteps call steps = some b) :
    runSteps call' steps = some b := by
  induction steps with
  | nil => exact h
  | cons step rest ih =>
      cases step with
      | check passes =>
          cases passes with
          | false => exact h
          | true => exact ih h
      | call callee =>
          rcases Option.bind_eq_some_iff.mp h with ⟨passes, hpasses, hrest⟩
          rw [runSteps, hcall callee passes hpasses, Option.bind_some]
          cases passes with
          | false => exact hrest
          | true => exact ih hrest

section

variable {steps : σ → List (Step σ)}

/-- More fuel changes no result. -/
theorem runCalls_mono {n m : Nat} {s : σ} {b : Bool} (hnm : n ≤ m)
    (h : runCalls steps n s = some b) : runCalls steps m s = some b := by
  induction n generalizing m s b with
  | zero => exact nomatch h
  | succ n ih =>
      rcases Nat.exists_eq_succ_of_ne_zero (Nat.ne_of_gt (Nat.lt_of_lt_of_le n.succ_pos hnm)) with
        ⟨k, rfl⟩
      exact runSteps_mono (fun c b hc => ih (Nat.le_of_succ_le_succ hnm) hc) h

end

/-! ### Passing -/

/-- A check of which every test and every call passes. -/
inductive Passes (steps : σ → List (Step σ)) : σ → Prop
  | intro {s : σ} (hchecks : ∀ passes, .check passes ∈ steps s → passes = true)
      (hcalls : ∀ callee, .call callee ∈ steps s → Passes steps callee) : Passes steps s

/-- A step that passes. -/
def Step.Passes (steps : σ → List (Step σ)) : Step σ → Prop
  | .check passes => passes = true
  | .call callee => Kahea.Passes steps callee

/-- The check calls another: the steps before the call pass. -/
def Calls (steps : σ → List (Step σ)) (s callee : σ) : Prop :=
  ∃ before after, steps s = before ++ .call callee :: after ∧ ∀ step ∈ before, step.Passes steps

section

variable {steps : σ → List (Step σ)} {s : σ}

theorem passes_iff : Passes steps s ↔ ∀ step ∈ steps s, step.Passes steps := by
  constructor
  · rintro ⟨hchecks, hcalls⟩ step hstep
    cases step with
    | check passes => exact hchecks passes hstep
    | call callee => exact hcalls callee hstep
  · intro h
    exact ⟨fun passes hpasses => h _ hpasses, fun callee hcallee => h _ hcallee⟩

/-- Steps all pass on one stack exactly when each passes on a stack of its
    own. -/
theorem runSteps_true_iff {list : List (Step σ)} :
    (∃ n, runSteps (runCalls steps n) list = some true) ↔
      ∀ step ∈ list, ∃ n, runSteps (runCalls steps n) [step] = some true := by
  induction list with
  | nil => exact iff_of_true ⟨0, rfl⟩ (fun step hstep => absurd hstep List.not_mem_nil)
  | cons step rest ih =>
      -- The levels that are enough for one step are not those of the next.
      have hsplit (n : Nat) : runSteps (runCalls steps n) (step :: rest) = some true ↔
          runSteps (runCalls steps n) [step] = some true ∧
            runSteps (runCalls steps n) rest = some true := by
        rw [← List.singleton_append, runSteps_append]
        cases runSteps (runCalls steps n) [step] with
        | none => simp
        | some passes => cases passes <;> simp
      rw [List.forall_mem_cons, ← ih]
      simp only [hsplit]
      constructor
      · rintro ⟨n, hstep, hrest⟩
        exact ⟨⟨n, hstep⟩, n, hrest⟩
      -- The larger of the two is enough for both.
      · rintro ⟨⟨n, hstep⟩, m, hrest⟩
        exact ⟨max n m, runSteps_mono (fun _ _ => runCalls_mono (Nat.le_max_left n m)) hstep,
          runSteps_mono (fun _ _ => runCalls_mono (Nat.le_max_right n m)) hrest⟩

theorem runCalls_true_iff : (∃ n, runCalls steps n s = some true) ↔ Passes steps s := by
  constructor
  · rintro ⟨n, h⟩
    induction n generalizing s with
    | zero => exact nomatch h
    | succ n ih =>
        refine passes_iff.mpr (fun step hstep => ?_)
        rcases List.append_of_mem hstep with ⟨before, after, hsteps⟩
        -- All steps of a run that passes do so on the same stack.
        have hpass : runSteps (runCalls steps n) [step] = some true := by
          rw [runCalls, hsteps, runSteps_append, ← List.singleton_append, runSteps_append] at h
          cases hbefore : runSteps (runCalls steps n) before with
          | none => simp [hbefore] at h
          | some passes =>
              cases passes with
              | false => simp [hbefore] at h
              | true =>
                  cases hone : runSteps (runCalls steps n) [step] with
                  | none => simp [hbefore, hone] at h
                  | some passes =>
                      cases passes with
                      | false => simp [hbefore, hone] at h
                      | true => rfl
        cases step with
        | check passes =>
            rw [runSteps_check] at hpass
            exact Option.some.inj hpass
        | call callee =>
            rw [runSteps_call] at hpass
            exact ih hpass
  · intro h
    induction h with
    | intro hchecks hcalls ih =>
        rename_i s
        have hlist : ∃ n, runSteps (runCalls steps n) (steps s) = some true := by
          refine runSteps_true_iff.mpr (fun step hstep => ?_)
          cases step with
          | check passes => exact ⟨0, (runSteps_check passes).trans (congrArg some (hchecks passes hstep))⟩
          | call callee =>
              rcases ih callee hstep with ⟨n, hn⟩
              exact ⟨n, (runSteps_call callee).trans hn⟩
        rcases hlist with ⟨n, hn⟩
        exact ⟨n + 1, hn⟩

/-- One step, with fuel enough. -/
theorem step_passes_iff {step : Step σ} :
    (∃ n, runSteps (runCalls steps n) [step] = some true) ↔ step.Passes steps := by
  cases step with
  | check passes =>
      simp only [runSteps_check, Option.some.injEq, exists_const]
      rfl
  | call callee =>
      simp only [runSteps_call]
      exact runCalls_true_iff

/-! ### Ending -/

/-- A check has a result on some stack exactly when every chain of its calls
    ends. -/
theorem runCalls_isSome_iff :
    (∃ n, (runCalls steps n s).isSome) ↔ Acc (fun callee s => Calls steps s callee) s := by
  constructor
  · rintro ⟨n, h⟩
    induction n generalizing s with
    | zero => exact nomatch h
    | succ n ih =>
        refine Acc.intro s (fun callee hcall => ih ?_)
        rcases hcall with ⟨before, after, hsteps, hbefore⟩
        rw [runCalls, hsteps, runSteps_append] at h
        -- The steps before the call have a result, which is that they pass.
        cases hpassed : runSteps (runCalls steps n) before with
        | none => simp [hpassed] at h
        | some passes =>
            rcases runSteps_true_iff.mpr (fun step hstep => step_passes_iff.mpr (hbefore step hstep))
              with ⟨m, hm⟩
            have hmax := runSteps_mono (fun _ _ => runCalls_mono (Nat.le_max_left n m)) hpassed
            have hmax' := runSteps_mono (fun _ _ => runCalls_mono (Nat.le_max_right n m)) hm
            have htrue : passes = true := Option.some.inj (hmax.symm.trans hmax')
            rw [hpassed, Option.bind_some, if_pos htrue, runSteps] at h
            cases hcallee : runCalls steps n callee with
            | none => simp [hcallee] at h
            | some b => rfl
  · intro h
    induction h with
    | intro s _ ih =>
        have hrest (rest : List (Step σ)) : ∀ before, steps s = before ++ rest →
            (∀ step ∈ before, step.Passes steps) →
              ∃ n, (runSteps (runCalls steps n) rest).isSome := by
          induction rest with
          | nil => exact fun _ _ _ => ⟨0, rfl⟩
          | cons step rest ihrest =>
              intro before hsteps hbefore
              have hnext (hstep : step.Passes steps) :
                  ∃ n, (runSteps (runCalls steps n) rest).isSome := by
                refine ihrest (before ++ [step]) (by rw [hsteps, List.append_assoc]; rfl) ?_
                intro other hother
                rcases List.mem_append.mp hother with hother | hother
                · exact hbefore other hother
                · rw [List.mem_singleton.mp hother]
                  exact hstep
              cases step with
              | check passes =>
                  cases passes with
                  | false => exact ⟨0, rfl⟩
                  | true => exact hnext rfl
              | call callee =>
                  rcases ih callee ⟨before, rest, hsteps, hbefore⟩ with ⟨n, hn⟩
                  rcases Option.isSome_iff_exists.mp hn with ⟨passes, hpasses⟩
                  cases passes with
                  | false => exact ⟨n, by rw [runSteps, hpasses]; rfl⟩
                  | true =>
                      rcases hnext (runCalls_true_iff.mp ⟨n, hpasses⟩) with ⟨m, hm⟩
                      rcases Option.isSome_iff_exists.mp hm with ⟨b, hb⟩
                      refine ⟨max n m, ?_⟩
                      rw [runSteps, runCalls_mono (Nat.le_max_left n m) hpasses, Option.bind_some,
                        if_pos rfl, runSteps_mono (fun _ _ => runCalls_mono (Nat.le_max_right n m)) hb]
                      rfl
        rcases hrest (steps s) [] rfl (fun _ hstep => absurd hstep List.not_mem_nil) with ⟨n, hn⟩
        exact ⟨n + 1, hn⟩

end

/-! ### Cycles -/

section

variable {r : σ → σ → Prop} {s : σ}

/-- A state from which no chain is endless is on no cycle. -/
theorem not_transGen_self_of_acc (h : Acc (fun t s => r s t) s) : ¬ Relation.TransGen r s s := by
  induction h with
  | intro s _ ih =>
      intro hcycle
      rcases Relation.TransGen.head'_iff.mp hcycle with ⟨t, hst, hts⟩
      exact ih t hst (Relation.TransGen.tail' hts hst)

theorem acc_of_reflTransGen {t : σ} (hst : Relation.ReflTransGen r s t)
    (h : Acc (fun t s => r s t) s) : Acc (fun t s => r s t) t := by
  induction hst with
  | refl => exact h
  | tail _ hstep ih => exact ih.inv hstep

/-- Where only finitely many places can be reached, every chain ends exactly
    when no place that is reached leads back to itself. -/
theorem acc_iff_acyclic (hfinite : {t | Relation.ReflTransGen r s t}.Finite) :
    Acc (fun t s => r s t) s ↔
      ¬ ∃ t, Relation.ReflTransGen r s t ∧ Relation.TransGen r t t := by
  constructor
  · rintro h ⟨t, hst, hcycle⟩
    exact not_transGen_self_of_acc (acc_of_reflTransGen hst h) hcycle
  · intro hacyclic
    by_contra hnot
    rcases not_acc_iff_exists_descending_chain.mp hnot with ⟨f, hzero, hchain⟩
    have hreach (n : Nat) : Relation.ReflTransGen r s (f n) := by
      induction n with
      | zero => rw [hzero]
      | succ n ih => exact ih.tail (hchain n)
    have hlater (n d : Nat) : Relation.TransGen r (f n) (f (n + d + 1)) := by
      induction d with
      | zero => exact Relation.TransGen.single (hchain n)
      | succ d ih => exact ih.tail (hchain (n + d + 1))
    -- An infinite chain meets one of finitely many places twice.
    rcases hfinite.exists_lt_map_eq_of_forall_mem hreach with ⟨n, m, hlt, heq⟩
    refine hacyclic ⟨f n, hreach n, ?_⟩
    have hcycle := hlater n (m - n - 1)
    rwa [show n + (m - n - 1) + 1 = m by omega, ← heq] at hcycle

end

/-- A check that can meet finitely many arguments has a result on some stack
    exactly when none that it meets leads back to itself. -/
theorem runCalls_isSome_iff_acyclic {steps : σ → List (Step σ)} {s : σ}
    (hfinite : {t | Relation.ReflTransGen (Calls steps) s t}.Finite) :
    (∃ n, (runCalls steps n s).isSome) ↔
      ¬ ∃ t, Relation.ReflTransGen (Calls steps) s t ∧ Relation.TransGen (Calls steps) t t :=
  runCalls_isSome_iff.trans (acc_iff_acyclic hfinite)

end Kahea
