import Kahea.Base.Effect

/-!
# Along a Trace

What holds of every event of a trace together with the events around it.

`Ensures` judges the events of a program one by one. Some facts about an event
are about the point of the run at which it is added: that a number in it is what
the outside would have answered there, or that something comes after it.
`Around P past events` says that `P` holds of each event, of everything that
came before it, the past included, and of what follows it. `Along P past events`
is the same for conditions that do not look ahead.

## Main definitions

* `Around`: Every event of a trace satisfies a condition on what is around it.
* `Along`: Every event of a trace satisfies a condition on it and its past.
* `Tells`: What is returned, with the history it is returned at.

## Theorems

* `around_append`, `along_append`: A trace in two parts.
* `around_iff`, `along_iff`: The events of a trace one by one.
* `Eff.along_bind`: The rule for a sequence.
* `Ensures.along`: A condition that does not depend on the past.
* `Tells.bind`: The rule for a sequence, for what is returned.
-/

namespace Kahea

variable {ω : Type}

/-- Every event of a trace satisfies a condition together with the events before
    it and those after it. -/
def Around (P : List ω → ω → List ω → Prop) : List ω → List ω → Prop
  | _, [] => True
  | past, e :: rest => P past e rest ∧ Around P (past ++ [e]) rest

theorem around_append {P : List ω → ω → List ω → Prop} (past first second : List ω) :
    Around P past (first ++ second) ↔
      Around (fun past e after => P past e (after ++ second)) past first ∧
        Around P (past ++ first) second := by
  induction first generalizing past with
  | nil => rw [List.nil_append, List.append_nil, Around, true_and]
  | cons e rest ih =>
      rw [List.cons_append, Around, Around, ih, and_assoc, List.append_assoc]
      rfl

/-- The events of a trace one by one, each with what is around it. -/
theorem around_iff {P : List ω → ω → List ω → Prop} {past events : List ω} :
    Around P past events ↔
      ∀ before e after, events = before ++ e :: after → P (past ++ before) e after := by
  induction events generalizing past with
  | nil =>
      refine iff_of_true trivial (fun before e after h => ?_)
      cases before <;> cases h
  | cons first rest ih =>
      rw [Around, ih]
      constructor
      -- The element is the first one, or it lies in the rest.
      · rintro ⟨hfirst, hrest⟩ before e after h
        cases before with
        | nil =>
            cases h
            rw [List.append_nil]
            exact hfirst
        | cons b before =>
            cases h
            have hat := hrest before e after rfl
            rw [List.append_assoc] at hat
            exact hat
      · intro h
        refine ⟨?_, fun before e after hsplit => ?_⟩
        · have hat := h [] first rest rfl
          rw [List.append_nil] at hat
          exact hat
        · have hat := h (first :: before) e after (by rw [hsplit, List.cons_append])
          rw [List.append_assoc]
          exact hat

theorem around_of_mem {P : List ω → ω → List ω → Prop} {past events : List ω}
    (h : ∀ e ∈ events, ∀ past after, P past e after) : Around P past events :=
  around_iff.mpr (fun before e after hsplit => h e (by
    rw [hsplit]
    exact List.mem_append_right _ List.mem_cons_self) _ _)

theorem Around.mono {P Q : List ω → ω → List ω → Prop} {past events : List ω}
    (h : Around P past events) (hpq : ∀ past e after, P past e after → Q past e after) :
    Around Q past events := by
  rw [around_iff] at h ⊢
  exact fun before e after hsplit => hpq _ _ _ (h before e after hsplit)

/-! ### Conditions on the past -/

variable {P : List ω → ω → Prop}

/-- Every event of a trace satisfies a condition together with the events
    before it. -/
def Along (P : List ω → ω → Prop) : List ω → List ω → Prop
  | _, [] => True
  | past, e :: rest => P past e ∧ Along P (past ++ [e]) rest

theorem along_iff_around {past events : List ω} :
    Along P past events ↔ Around (fun past e _ => P past e) past events := by
  induction events generalizing past with
  | nil => rfl
  | cons e rest ih => rw [Along, Around, ih]

/-- The condition of every event of a trace is decided event by event. -/
def decideAlong (P : List ω → ω → Prop) [∀ past e, Decidable (P past e)] :
    (past events : List ω) → Decidable (Along P past events)
  | _, [] => isTrue trivial
  | past, e :: rest =>
      have : Decidable (Along P (past ++ [e]) rest) := decideAlong P (past ++ [e]) rest
      inferInstanceAs (Decidable (P past e ∧ Along P (past ++ [e]) rest))

instance [∀ past e, Decidable (P past e)] (past events : List ω) :
    Decidable (Along P past events) := decideAlong P past events

theorem along_append (past first second : List ω) :
    Along P past (first ++ second) ↔ Along P past first ∧ Along P (past ++ first) second := by
  rw [along_iff_around, along_iff_around, along_iff_around]
  exact around_append past first second

/-- The events of a trace one by one, each with what came before it. -/
theorem along_iff {past events : List ω} : Along P past events ↔
    ∀ before e after, events = before ++ e :: after → P (past ++ before) e :=
  along_iff_around.trans around_iff

theorem along_of_mem {past events : List ω} (h : ∀ e ∈ events, ∀ past, P past e) :
    Along P past events :=
  along_iff_around.mpr (around_of_mem (fun e he past _ => h e he past))

/-! ### Programs -/

namespace Eff

variable {ε α β : Type}

/-- The events of a sequence: those of the first program, and those of the
    second one after them. -/
theorem along_bind {m : Eff ω ε α} {f : α → Eff ω ε β} {past : List ω} :
    Along P past ((m >>= f) past).2 ↔ Along P past (m past).2 ∧
      ∀ a, (m past).1 = .ok a → Along P (past ++ (m past).2) (f a (past ++ (m past).2)).2 := by
  change Along P past (Eff.bind m f past).2 ↔ _
  unfold Eff.bind
  rcases m past with ⟨r, added⟩
  cases r with
  | error e => exact ⟨fun h => ⟨h, nofun⟩, fun h => h.1⟩
  | ok a =>
      dsimp only
      rw [along_append]
      constructor
      · rintro ⟨hfirst, hrest⟩
        refine ⟨hfirst, fun b hb => ?_⟩
        cases hb
        exact hrest
      · exact fun h => ⟨h.1, h.2 a rfl⟩

end Eff

/-- A condition on the events alone holds along every run. -/
theorem Ensures.along {ε α : Type} {m : Eff ω ε α} {R : α → Prop} {C : ω → Prop}
    (h : Ensures m R C) (hp : ∀ past e, C e → P past e) (past : List ω) :
    Along P past (m past).2 :=
  along_of_mem (fun e he past' => hp past' e ((h past).2 e he))

/-! ### What a result tells -/

/-- What a program returns in a history that begins with `start` stands in a
    relation to the history it is returned at. -/
def Tells {ε α : Type} (start : List ω) (m : Eff ω ε α) (T : List ω → α → Prop) : Prop :=
  ∀ past a, start <+: past → (m past).1 = .ok a → T (past ++ (m past).2) a

/-- The second program of a sequence starts where the first one has returned. -/
theorem Tells.bind {ε α β : Type} {start : List ω} {m : Eff ω ε α} {f : α → Eff ω ε β}
    {T : List ω → α → Prop} {U : List ω → β → Prop} (hm : Tells start m T)
    (hf : ∀ a past, start <+: past → T past a → ∀ b, (f a past).1 = .ok b →
      U (past ++ (f a past).2) b) : Tells start (m >>= f) U := by
  intro past b hstart hb
  rcases Eff.bind_ok hb with ⟨a, ha, hrest⟩
  rw [Eff.bind_of_ok ha, ← List.append_assoc]
  exact hf a _ (hstart.trans (List.prefix_append past _)) (hm past a hstart ha) b hrest

end Kahea
