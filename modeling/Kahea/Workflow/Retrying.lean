import Kahea.Base.Along
import Kahea.Workflow.Ordering
import Kahea.Workflow.Settling

/-!
# The Retries of a Run

When an attempt is followed by another one of its step.

What comes after an attempt is decided by the action its result calls for, by the
number of the attempt, and by the time that is left when it ends: the delay of
the retry must fit into it. A session asks for the time once more when its next
attempt starts, a request has asked before its first one. Nothing else is looked
at, so in every run an attempt is followed by another one exactly when these
three say so (`retries_disciplined`).

The two loops share their shape, so the rule is proved for a loop whose single
attempt obeys it (`around_retryLoop`).

## Main definitions

* `calledAction`: The action a result calls for.
* `CallsFor`: A retry is called for, is not used up and can be waited for.
* `Retried`: The next attempt of a run is the next one of the same step.
* `Disciplined`: An attempt is followed by another one exactly when it should be.

## Theorems

* `httpAttempt_responds`, `websocketAttempt_responds`: One attempt.
* `around_retryLoop`: All attempts of a step.
* `retries_disciplined`: All attempts of a run.
-/

namespace Kahea

/-! ### What a result calls for -/

section

variable (lib : Crates) (world : WorkflowWorld) (options : InvokeOptions)

/-- The events of the delay of a retry. -/
def pauseEvents (action : Value) : List WorkflowEvent :=
  if retryDelay lib action = 0 then [] else [.slept (retryDelay lib action)]

/-- The action the result of an attempt calls for. A request asks for the first
    action that applies, a session and a broken transport for the first retry
    without criteria. -/
def calledAction (step : WorkflowStepTemplate) : AttemptResult → Run (Option Value)
  | .http result => failureAction lib world step.onFailure result
  | .webSocket (.observation o) =>
      pure (if o.exit ≠ 0 then unconditionalRetry step.onFailure else none)
  | .webSocket _ => pure none
  | .error _ => pure (unconditionalRetry step.onFailure)

/-- An action is a retry that is not used up and can be waited for. -/
def Wanted (retries : Nat) (past : List WorkflowEvent) (asked : Option Value) (action : Value) :
    Prop :=
  asked = some action ∧ Due retries action ∧ Affordable lib world options.timeout past action

/-- The result of an attempt calls for such an action. -/
def CallsFor (step : WorkflowStepTemplate) (retries : Nat) (result : AttemptResult)
    (past : List WorkflowEvent) (action : Value) : Prop :=
  ∃ asked, (calledAction lib world step result past).1 = .ok asked ∧
    Wanted lib world options retries past asked action

/-- There is time to start an attempt: a session looks again before each of its
    attempts. -/
def Ready (step : WorkflowStepTemplate) (past : List WorkflowEvent) : Prop :=
  step.transport = .webSocket → world.clock past < options.timeout

/-- The next attempt of a run is the next one of the same step. -/
def Retried (attempt : Attempt) (after : List WorkflowEvent) : Prop :=
  ∃ next, (begunAttempts after).head? = some next ∧ next.step = attempt.step ∧
    next.retries = attempt.retries + 1

/-- An attempt of a step is followed by another one exactly when its result calls
    for one and there is time for it. -/
def Disciplined (step : WorkflowStepTemplate) (past : List WorkflowEvent) (e : WorkflowEvent)
    (after : List WorkflowEvent) : Prop :=
  ∀ attempt result, e = .ended attempt result → AttemptOf step attempt ∧
    (Retried attempt after ↔ ∃ action, CallsFor lib world options step attempt.retries result
      (past ++ [e]) action ∧ Ready world options step (past ++ [e] ++ pauseEvents lib action))

end

section

variable {lib : Crates} {world : WorkflowWorld} {options : InvokeOptions} {retries : Nat}
  {past : List WorkflowEvent}

theorem pauseEvents_unmarked (lib : Crates) (action : Value) : ∀ e ∈ pauseEvents lib action, e.isMark = false := by
  unfold pauseEvents
  split_ifs
  · exact fun _ h => absurd h List.not_mem_nil
  · intro e he
    cases List.mem_singleton.mp he
    rfl

/-- Only one action is called for. -/
theorem CallsFor.unique {step : WorkflowStepTemplate} {result : AttemptResult} {a b : Value}
    (ha : CallsFor lib world options step retries result past a)
    (hb : CallsFor lib world options step retries result past b) : a = b := by
  rcases ha with ⟨x, hx, rfl, _⟩
  rcases hb with ⟨y, hy, rfl, _⟩
  exact Option.some.inj (Except.ok.inj (hx.symm.trans hy))

theorem CallsFor.limit {step : WorkflowStepTemplate} {result : AttemptResult} {a : Value}
    (h : CallsFor lib world options step retries result past a) :
    retries < largestRetryLimit step.onFailure := by
  rcases h with ⟨asked, hasked, rfl, hdue, _⟩
  suffices hmem : a ∈ step.onFailure from lt_of_lt_of_le hdue.2 (retryLimit_le_largest hmem)
  unfold calledAction at hasked
  -- The action called for is one of the list for failures.
  rcases result with r | r | text
  · dsimp only at hasked
    unfold failureAction at hasked
    split_ifs at hasked
    · exact selectAction_mem hasked
    · cases hasked
  · cases r with
    | observation o =>
        dsimp only at hasked
        split_ifs at hasked with hexit
        · exact unconditionalRetry_mem (Except.ok.inj hasked)
        · cases hasked
    | denied d => cases hasked
    | connected c => cases hasked
  · exact unconditionalRetry_mem (Except.ok.inj hasked)

/-! ### One attempt -/

/-- A program goes on to another attempt exactly when an action is wanted, and
    then it has waited for its delay. -/
def Responds {α : Type} (lib : Crates) (wanted : Value → Prop)
    (run : Except WorkflowError (Value × Option α) × List WorkflowEvent) : Prop :=
  (∃ a, wanted a ∧ run.2 = pauseEvents lib a ∧ ∃ record, run.1 = .ok (record, none)) ∨
    ((∀ a, ¬ wanted a) ∧ run.2 = [] ∧ ∀ record, run.1 ≠ .ok (record, none))

/-- The pause before a retry: it is as long as the action says, or there is no
    time for it. -/
theorem pauseBeforeRetry_run (options : InvokeOptions) (past : List WorkflowEvent) (action : Value) :
    (Affordable lib world options.timeout past action →
      pauseBeforeRetry lib world options.timeout action past = (.ok (), pauseEvents lib action)) ∧
    (¬ Affordable lib world options.timeout past action →
      ∃ e, pauseBeforeRetry lib world options.timeout action past = (.error e, [])) := by
  unfold pauseBeforeRetry pauseEvents Affordable
  by_cases hzero : retryDelay lib action = 0
  -- Without a delay there is no pause.
  · rw [if_pos hzero, if_pos hzero]
    exact ⟨fun _ => rfl, fun h => absurd (Or.inl hzero) h⟩
  · rw [if_neg hzero, if_neg hzero, or_iff_right hzero]
    unfold sleepRetryDelay
    rw [elapsed_bind, Eff.ofExcept_bind]
    -- The pause must end before the deadline; late already, none does.
    by_cases hnow : world.clock past ≤ options.timeout
    · have hensured : ensure (decide (world.clock past ≤ options.timeout)) budgetExhausted = .ok () :=
        ensure_ok.mpr (decide_eq_true hnow)
      rw [hensured]
      dsimp only
      rw [Eff.ofExcept_bind]
      by_cases hdelay : retryDelay lib action < options.timeout - world.clock past
      · rw [decide_eq_true hdelay]
        exact ⟨fun _ => rfl, fun h => absurd hdelay h⟩
      · rw [decide_eq_false hdelay]
        exact ⟨fun h => absurd h hdelay, fun _ => ⟨_, rfl⟩⟩
    · rw [decide_eq_false hnow]
      refine ⟨fun h => ?_, fun _ => ⟨_, rfl⟩⟩
      omega

/-- Asking whether to go on, and going on. -/
theorem responds_goesOn {α : Type} {asked : Option Value} {f : Bool → Run (Value × Option α)}
    {record : Value} (htrue : f true = pure (record, none))
    (hfalse : ∀ later, (f false later).2 = [] ∧ ∀ r, (f false later).1 ≠ .ok (r, none)) :
    Responds lib (Wanted lib world options retries past asked)
      ((goesOn lib world options.timeout retries asked >>= f) past) := by
  -- Where nothing is wanted, the loop stops or the pause fails.
  have hstop : (∀ a, ¬ Wanted lib world options retries past asked a) →
      (goesOn lib world options.timeout retries asked past = (.ok false, []) ∨
        ∃ e, goesOn lib world options.timeout retries asked past = (.error e, [])) →
      Responds lib (Wanted lib world options retries past asked)
        ((goesOn lib world options.timeout retries asked >>= f) past) := by
    rintro hnone (hrun | ⟨e, hrun⟩)
    · rw [Eff.bind_of_ok (congrArg Prod.fst hrun), hrun]
      exact Or.inr ⟨hnone, (hfalse _).1, (hfalse _).2⟩
    · rw [Eff.bind_of_error (congrArg Prod.fst hrun), hrun]
      exact Or.inr ⟨hnone, rfl, fun r h => by cases h⟩
  cases asked with
  | none => exact hstop (fun a h => by cases h.1) (Or.inl rfl)
  | some a =>
      by_cases hdue : isRetry a = true ∧ retries < retryLimit a
      · have hrun : goesOn lib world options.timeout retries (some a) =
            (pauseBeforeRetry lib world options.timeout a >>= fun _ => pure true) := if_pos hdue
        -- A retry that is due is taken when its pause is affordable.
        by_cases hafford : Affordable lib world options.timeout past a
        · have hpause := (pauseBeforeRetry_run options past a).1 hafford
          have hgo : goesOn lib world options.timeout retries (some a) past =
              (.ok true, pauseEvents lib a) := by
            rw [hrun, Eff.bind_of_ok (congrArg Prod.fst hpause), hpause]
            exact Prod.ext rfl (List.append_nil _)
          rw [Eff.bind_of_ok (congrArg Prod.fst hgo), hgo, htrue]
          exact Or.inl ⟨a, ⟨rfl, hdue, hafford⟩, List.append_nil _, record, rfl⟩
        · rcases (pauseBeforeRetry_run options past a).2 hafford with ⟨e, hpause⟩
          refine hstop (fun b h => ?_) (Or.inr ⟨e, ?_⟩)
          · rcases h with ⟨hb, _, hb'⟩
            cases hb
            exact hafford hb'
          · rw [hrun, Eff.bind_of_error (congrArg Prod.fst hpause), hpause]
      -- One that is not due is not taken.
      · have hrun : goesOn lib world options.timeout retries (some a) = pure false := if_neg hdue
        refine hstop (fun b h => ?_) (Or.inl (by rw [hrun]; rfl))
        rcases h with ⟨hb, hb', _⟩
        cases hb
        exact hdue hb'

/-- What a program that makes one attempt does: it fails at once when there is no
    time, or makes the attempt of its number and goes on when it is called for. -/
def AttemptResponds {α : Type} (lib : Crates) (world : WorkflowWorld) (options : InvokeOptions)
    (step : WorkflowStepTemplate) (retries : Nat) (past : List WorkflowEvent)
    (run : Except WorkflowError (Value × Option α) × List WorkflowEvent) : Prop :=
  (¬ Ready world options step past ∧ (∃ e, run.1 = .error e) ∧ run.2 = []) ∨
    (Ready world options step past ∧ ∃ attempt result middle tail,
      (∀ e ∈ middle, e.isMark = false) ∧ AttemptOf step attempt ∧ attempt.retries = retries ∧
      run.2 = .started attempt :: (middle ++ .ended attempt result :: tail) ∧
      Responds lib (CallsFor lib world options step retries result
        (past ++ .started attempt :: (middle ++ [.ended attempt result]))) (run.1, tail))

/-- An attempt that is followed by a program that goes on when it is called for. -/
theorem responds_markedAttempt {α : Type} {step : WorkflowStepTemplate} {attempt : Attempt}
    {result : α → AttemptResult} {program : World → Eff Event ExecError α}
    {next : Except ExecError α → Run (Value × Option α)} (hready : Ready world options step past)
    (hstep : AttemptOf step attempt) (hretries : attempt.retries = retries)
    (hnext : ∀ outcome later, Responds lib (CallsFor lib world options step retries
      (attemptResult result outcome) later) (next outcome later)) :
    AttemptResponds lib world options step retries past
      ((markedAttempt world attempt result program >>= next) past) := by
  rcases @markedAttempt_run world α attempt result program past with
    ⟨outcome, middle, hmiddle, hrun⟩
  have hok : (markedAttempt world attempt result program past).1 = .ok outcome := by rw [hrun]
  rw [Eff.bind_of_ok hok, hrun]
  refine Or.inr ⟨hready, attempt, attemptResult result outcome, middle, _, hmiddle, hstep, hretries,
    ?_, hnext outcome _⟩
  rw [List.cons_append, List.append_assoc]
  rfl

/-- What is wanted of the action a result calls for is what it calls for. -/
theorem Responds.calls {α : Type} {step : WorkflowStepTemplate} {result : AttemptResult}
    {asked : Option Value} {run : Except WorkflowError (Value × Option α) × List WorkflowEvent}
    (h : Responds lib (Wanted lib world options retries past asked) run)
    (hasked : (calledAction lib world step result past).1 = .ok asked) :
    Responds lib (CallsFor lib world options step retries result past) run := by
  rcases h with ⟨a, ha, hrest⟩ | ⟨hnone, hrest⟩
  · exact Or.inl ⟨a, ⟨asked, hasked, ha⟩, hrest⟩
  · refine Or.inr ⟨fun a ha => ?_, hrest⟩
    rcases ha with ⟨other, hother, ha⟩
    cases hasked.symm.trans hother
    exact hnone a ha

/-- A broken transport calls for the first retry without criteria, or ends the
    step. -/
theorem responds_error {α : Type} {step : WorkflowStepTemplate} {text : Str} {e : WorkflowError} :
    Responds lib (CallsFor lib world options step retries (.error text) past)
      ((goesOn lib world options.timeout retries (unconditionalRetry step.onFailure) >>= fun again =>
        (if again = true then pure (attemptError text, none) else Eff.fail e :
          Run (Value × Option α))) past) := by
  have hgo := @responds_goesOn lib world options retries past α (unconditionalRetry step.onFailure)
    (fun again => if again = true then pure (attemptError text, none) else Eff.fail e)
    (attemptError text) rfl (fun _ => ⟨rfl, fun _ h => by cases h⟩)
  exact hgo.calls rfl

/-- A result calls for another attempt, or is that of the step. -/
theorem responds_result {α : Type} {step : WorkflowStepTemplate} {result : AttemptResult}
    {asked : Option Value} {record : Value} {a : α}
    (hasked : (calledAction lib world step result past).1 = .ok asked) :
    Responds lib (CallsFor lib world options step retries result past)
      ((goesOn lib world options.timeout retries asked >>= fun again =>
        (pure (record, if again = true then none else some a) : Run (Value × Option α))) past) := by
  have hgo := @responds_goesOn lib world options retries past α asked
    (fun again => pure (record, if again = true then none else some a)) record rfl
    (fun _ => ⟨rfl, fun _ h => by cases h⟩)
  exact hgo.calls hasked

/-- A result that calls for nothing. -/
theorem responds_none {α : Type} {step : WorkflowStepTemplate} {result : AttemptResult}
    {run : Except WorkflowError (Value × Option α) × List WorkflowEvent}
    (hnone : ∀ a, (calledAction lib world step result past).1 ≠ .ok (some a)) (hevents : run.2 = [])
    (hrun : ∀ record, run.1 ≠ .ok (record, none)) :
    Responds lib (CallsFor lib world options step retries result past) run := by
  refine Or.inr ⟨fun a ha => ?_, hevents, hrun⟩
  rcases ha with ⟨asked, hasked, rfl, _⟩
  exact hnone a hasked

theorem httpAttempt_responds {step : WorkflowStepTemplate} {since timeout : Nat}
    {execute : World → Eff Event ExecError InvocationResult}
    (htransport : step.transport ≠ .webSocket) :
    AttemptResponds lib world options step retries past
      (httpAttempt lib world step options since timeout execute retries past) := by
  refine responds_markedAttempt (fun h => absurd h htransport) ⟨rfl, rfl⟩ rfl
    (fun outcome later => ?_)
  cases outcome with
  | error e => exact responds_error
  | ok result =>
      dsimp only
      have hsilent := (@silent_failureAction lib world step.onFailure result).events
      cases haction : (failureAction lib world step.onFailure result later).1 with
      | error e =>
          rw [Eff.bind_of_error haction, hsilent]
          refine responds_none (fun a ha => ?_) rfl (fun _ h => by cases h)
          cases haction.symm.trans ha
      | ok action =>
          rw [Eff.bind_of_ok haction, hsilent, List.append_nil]
          exact responds_result haction

theorem websocketAttempt_responds {step : WorkflowStepTemplate} {websocketPlan : WebSocketPlan}
    (htransport : step.transport = .webSocket) :
    AttemptResponds lib world options step retries past
      (websocketAttempt lib world step websocketPlan options retries past) := by
  unfold websocketAttempt
  rw [elapsed_bind, Eff.ofExcept_bind]
  unfold remainingStepTimeout
  by_cases hlt : world.clock past < options.timeout
  · rw [if_pos hlt]
    refine responds_markedAttempt (fun _ => hlt) ⟨rfl, rfl⟩ rfl (fun outcome later => ?_)
    rcases outcome with e | connected | observation | denial
    · exact responds_error
    · exact responds_none (fun _ h => by cases h) rfl (fun _ h => by cases h)
    · exact responds_result rfl
    · exact responds_none (fun _ h => by cases h) rfl (fun _ h => by cases h)
  · rw [if_neg hlt]
    exact Or.inl ⟨fun h => hlt (h htransport), ⟨_, rfl⟩, rfl⟩

/-! ### All attempts of a step -/

/-- What follows a step begins with a first attempt, if with any. -/
def StartsAfresh (events : List WorkflowEvent) : Prop :=
  ∀ a, (begunAttempts events).head? = some a → a.retries = 0

theorem not_retried {attempt : Attempt} {events : List WorkflowEvent} (h : StartsAfresh events) :
    ¬ Retried attempt events := by
  rintro ⟨next, hnext, _, hretries⟩
  have hzero := h next hnext
  omega

theorem StartsAfresh.append {events others : List WorkflowEvent} (h : StartsAfresh others)
    (hunmarked : ∀ e ∈ events, e.isMark = false) : StartsAfresh (events ++ others) := by
  intro a ha
  rw [begunAttempts_append, begunAttempts_unmarked hunmarked, List.nil_append] at ha
  exact h a ha

/-- An event that is no end of an attempt. -/
theorem disciplined_of_ne {step : WorkflowStepTemplate} {e : WorkflowEvent}
    {after : List WorkflowEvent} (h : ∀ attempt result, e ≠ .ended attempt result) :
    Disciplined lib world options step past e after :=
  fun attempt result he => absurd he (h attempt result)

theorem disciplined_unmarked {step : WorkflowStepTemplate} {e : WorkflowEvent}
    {after : List WorkflowEvent} (h : e.isMark = false) :
    Disciplined lib world options step past e after :=
  disciplined_of_ne (fun attempt result heq => by
    rw [heq] at h
    cases h)

/-- The events of an attempt are disciplined when its end is. -/
theorem disciplined_attempt {step : WorkflowStepTemplate} {attempt : Attempt}
    {result : AttemptResult} {middle tail next : List WorkflowEvent}
    (hmiddle : ∀ e ∈ middle, e.isMark = false) (htail : ∀ e ∈ tail, e.isMark = false)
    (hended : Disciplined lib world options step (past ++ .started attempt :: middle)
      (.ended attempt result) (tail ++ next)) :
    Around (fun past e after => Disciplined lib world options step past e (after ++ next)) past
      (.started attempt :: (middle ++ .ended attempt result :: tail)) := by
  refine ⟨disciplined_of_ne (fun _ _ h => by cases h), ?_⟩
  rw [around_append]
  refine ⟨around_of_mem (fun e he _ _ => disciplined_unmarked (hmiddle e he)), ?_,
    around_of_mem (fun e he _ _ => disciplined_unmarked (htail e he))⟩
  rw [List.append_assoc]
  exact hended

section

variable {α : Type} {step : WorkflowStepTemplate} {once : Nat → Run (Value × Option α)}
  (honce : ∀ retries past, AttemptResponds lib world options step retries past (once retries past))

include honce

/-- The first attempt of a loop, if there is time for it. -/
theorem begun_retryLoop (left retries : Nat) (records : List Value) (past : List WorkflowEvent) :
    (Ready world options step past → ∃ next,
      (begunAttempts (retryLoop once (left + 1) retries records past).2).head? = some next ∧
        next.step = step.stepId ∧ next.retries = retries) ∧
    (¬ Ready world options step past → (retryLoop once (left + 1) retries records past).2 = []) := by
  rw [retryLoop]
  rcases honce retries past with ⟨hnot, ⟨e, herror⟩, hnone⟩ |
    ⟨hready, attempt, result, middle, tail, hmiddle, hstep, hretries, hevents, _⟩
  · rw [Eff.bind_of_error herror]
    exact ⟨fun h => absurd h hnot, fun _ => hnone⟩
  · refine ⟨fun _ => ⟨attempt, ?_, hstep.1, hretries⟩, fun h => absurd hready h⟩
    cases hrun : (once retries past).1 with
    | error e =>
        rw [Eff.bind_of_error hrun, hevents]
        rfl
    | ok pair =>
        rw [Eff.bind_of_ok hrun, hevents]
        rfl

/-- The attempts of a loop with more attempts left than the limits allow. -/
theorem around_retryLoop {next : List WorkflowEvent} (hnext : StartsAfresh next) (left : Nat)
    (records : List Value) (hleft : largestRetryLimit step.onFailure < left + retries) :
    Around (fun past e after => Disciplined lib world options step past e (after ++ next)) past
      (retryLoop once left retries records past).2 := by
  induction left generalizing retries records past with
  | zero => exact trivial
  | succ left ih =>
      rw [retryLoop]
      rcases honce retries past with ⟨_, ⟨e, herror⟩, hnone⟩ |
        ⟨_, attempt, result, middle, tail, hmiddle, hstep, hretries, hevents, hresponds⟩
      · rw [Eff.bind_of_error herror, hnone]
        exact trivial
      have happend : past ++ .started attempt :: (middle ++ [.ended attempt result]) =
          past ++ .started attempt :: middle ++ [.ended attempt result] := by
        rw [List.append_assoc, List.cons_append]
      rw [happend] at hresponds
      rcases hresponds with ⟨a, hcalls, htail, record, hrun⟩ | ⟨hnocall, htail, hrun⟩
      · -- Another attempt is due, and there are some left.
        dsimp only at htail hrun
        have hlimit := hcalls.limit
        rcases Nat.exists_eq_succ_of_ne_zero (by omega : left ≠ 0) with ⟨fewer, rfl⟩
        rw [Eff.bind_of_ok hrun]
        dsimp only
        rw [around_append]
        refine ⟨?_, ih _ (by omega)⟩
        have hlater : past ++ (once retries past).2 =
            past ++ .started attempt :: middle ++ [.ended attempt result] ++ pauseEvents lib a := by
          rw [hevents, htail, List.append_assoc, List.append_assoc, List.cons_append]
          rfl
        -- The attempts of the rest begin where this one left off.
        rw [hlater]
        rcases begun_retryLoop honce fewer (retries + 1) (records ++ [record]) (past ++
          .started attempt :: middle ++ [.ended attempt result] ++ pauseEvents lib a)
          with ⟨hbegun, hnone⟩
        generalize (retryLoop once (fewer + 1) (retries + 1) (records ++ [record]) (past ++
          .started attempt :: middle ++ [.ended attempt result] ++ pauseEvents lib a)).2 = rest at hbegun hnone
        rw [hevents]
        have hunmarked := pauseEvents_unmarked lib a
        rw [← htail] at hunmarked
        -- The attempt has ended, and a further one begins exactly when one is called for.
        have hended : Disciplined lib world options step (past ++ .started attempt :: middle)
            (.ended attempt result) (tail ++ (rest ++ next)) := by
          intro other given heq
          cases heq
          refine ⟨hstep, ?_⟩
          rw [hretries]
          constructor
          · intro hretried
            refine ⟨a, hcalls, ?_⟩
            by_contra hnot
            rw [hnone hnot, List.nil_append] at hretried
            exact not_retried (hnext.append hunmarked) hretried
          · rintro ⟨b, hb, hready⟩
            cases hb.unique hcalls
            rcases hbegun hready with ⟨first, hfirst, hname, hnumber⟩
            refine ⟨first, ?_, hname.trans hstep.1.symm, hnumber.trans (by rw [hretries])⟩
            rw [begunAttempts_append, begunAttempts_unmarked hunmarked, List.nil_append,
              begunAttempts_append, List.head?_append, hfirst]
            rfl
        refine (disciplined_attempt hmiddle hunmarked hended).mono (fun past e after h => ?_)
        rw [List.append_assoc]
        exact h
      · -- The step ends here.
        dsimp only at htail hrun
        have hended : Disciplined lib world options step (past ++ .started attempt :: middle)
            (.ended attempt result) (tail ++ next) := by
          intro other given heq
          cases heq
          rw [htail, List.nil_append, hretries]
          refine ⟨hstep, iff_of_false (not_retried hnext) ?_⟩
          rintro ⟨a, ha, _⟩
          exact hnocall a ha
        have hunmarked : ∀ e ∈ tail, e.isMark = false := by
          rw [htail]
          exact fun _ h => absurd h List.not_mem_nil
        have hattempt := disciplined_attempt hmiddle hunmarked hended
        rw [← hevents] at hattempt
        cases hresult : (once retries past).1 with
        | error e =>
            rw [Eff.bind_of_error hresult]
            exact hattempt
        | ok pair =>
            rcases pair with ⟨record, outcome⟩
            cases outcome with
            | none => exact absurd hresult (hrun record)
            | some a =>
                rw [Eff.bind_of_ok hresult]
                change Around _ past ((once retries past).2 ++ [])
                rw [List.append_nil]
                exact hattempt

end

/-! ### All attempts of a run -/

/-- Behind a program without marks. -/
theorem Unmarked.disciplined_bind {α β : Type} {step : WorkflowStepTemplate} {m : Run α}
    {f : α → Run β} {next : List WorkflowEvent} (hm : Unmarked m)
    (hf : ∀ a later, Around (fun past e after => Disciplined lib world options step past e
      (after ++ next)) later (f a later).2) :
    Around (fun past e after => Disciplined lib world options step past e (after ++ next)) past
      ((m >>= f) past).2 := by
  have hevents := (hm past).2
  cases hrun : (m past).1 with
  | error e =>
      rw [Eff.bind_of_error hrun]
      exact around_of_mem (fun e he _ _ => disciplined_unmarked (hevents e he))
  | ok a =>
      rw [Eff.bind_of_ok hrun, around_append]
      exact ⟨around_of_mem (fun e he _ _ => disciplined_unmarked (hevents e he)), hf a _⟩

/-- Before programs without marks. -/
theorem disciplined_bind_unmarked {α β : Type} {step : WorkflowStepTemplate} {m : Run α}
    {f : α → Run β} {next : List WorkflowEvent} (hnext : StartsAfresh next)
    (hm : ∀ next, StartsAfresh next → Around (fun past e after => Disciplined lib world options step
      past e (after ++ next)) past (m past).2) (hf : ∀ a, Unmarked (f a)) :
    Around (fun past e after => Disciplined lib world options step past e (after ++ next)) past
      ((m >>= f) past).2 := by
  cases hrun : (m past).1 with
  | error e =>
      rw [Eff.bind_of_error hrun]
      exact hm next hnext
  | ok a =>
      have hevents := (hf a (past ++ (m past).2)).2
      rw [Eff.bind_of_ok hrun, around_append]
      refine ⟨?_, around_of_mem (fun e he _ _ => disciplined_unmarked (hevents e he))⟩
      refine (hm _ (hnext.append hevents)).mono (fun past e after h => ?_)
      rw [List.append_assoc]
      exact h

variable {describe : Value → Str} {plan : WorkflowPlan} {configuration : ProjectConfiguration}

/-- The attempts of a step, before a run that goes on with another one. -/
theorem invokeStep_disciplined (step : WorkflowStepTemplate) (outputs : StepOutputs)
    {next : List WorkflowEvent} (hnext : StartsAfresh next) (past : List WorkflowEvent) :
    Around (fun past e after => Disciplined lib world options step past e (after ++ next)) past
      (invokeStep lib world describe plan options configuration step outputs past).2 := by
  unfold invokeStep
  -- Either transport plans, reads the clock, and enters the loop.
  by_cases htransport : step.transport = .webSocket
  · rw [if_pos htransport]
    refine disciplined_bind_unmarked hnext (fun next hnext => ?_) (fun _ => .pure _)
    unfold invokeWebsocketWorkflowStep
    refine (Unmarked.ofExcept _).disciplined_bind (fun websocketPlan later => ?_)
    refine (pausing_storeStepPlan _ _).unmarked.disciplined_bind (fun _ later => ?_)
    exact disciplined_bind_unmarked hnext
      (fun next hnext => around_retryLoop (fun _ _ => websocketAttempt_responds htransport) hnext _ _
        (by omega)) (fun pair => (pausing_finishWebsocketStep _ _ _ _).unmarked)
  · rw [if_neg htransport]
    unfold invokeHttpStep
    refine (unmarked_planHttpStep _ _ _ _).disciplined_bind (fun requestPlan later => ?_)
    refine pausing_elapsed.unmarked.disciplined_bind (fun since later => ?_)
    refine (Unmarked.ofExcept _).disciplined_bind (fun timeout later => ?_)
    exact disciplined_bind_unmarked hnext
      (fun next hnext => around_retryLoop (fun _ _ => httpAttempt_responds htransport) hnext _ _
        (by omega)) (fun pair => (pausing_finishHttpStep _ _ _ _).unmarked)

/-- The first attempt of a list of stages is the first one of its step. -/
theorem startsAfresh_stages {stages : List Stage} (h : ∀ s ∈ stages, Begins s.step s.events) :
    StartsAfresh (stages.flatMap Stage.events) := by
  induction stages with
  | nil => exact fun a ha => by cases ha
  | cons stage rest ih =>
      intro a ha
      rw [List.flatMap_cons, begunAttempts_append] at ha
      have hnumbers := (h stage List.mem_cons_self).numbers
      cases hbegun : begunAttempts stage.events with
      | nil =>
          rw [hbegun, List.nil_append] at ha
          exact ih (fun s hs => h s (List.mem_cons_of_mem stage hs)) a ha
      | cons first others =>
          rw [hbegun] at ha hnumbers
          cases Option.some.inj ha
          rw [List.length_cons, List.range_succ_eq_map] at hnumbers
          exact (List.cons.inj hnumbers).1

/-- Every attempt of a run is followed by another one of its step exactly when it
    should be. -/
def RetriesDisciplined (lib : Crates) (world : WorkflowWorld) (options : InvokeOptions)
    (steps : List WorkflowStepTemplate) : List WorkflowEvent → List WorkflowEvent → Prop :=
  Around (fun past e after => ∃ step ∈ steps, Disciplined lib world options step past e after)

theorem RetriesDisciplined.mono {steps more : List WorkflowStepTemplate}
    {events : List WorkflowEvent} (h : RetriesDisciplined lib world options steps past events)
    (hmore : ∀ step ∈ steps, step ∈ more) : RetriesDisciplined lib world options more past events := by
  refine Around.mono h (fun past e after he => ?_)
  rcases he with ⟨step, hstep, hdisciplined⟩
  exact ⟨step, hmore step hstep, hdisciplined⟩

theorem invokeSteps_disciplined (steps : List WorkflowStepTemplate) (progress : Progress)
    (past : List WorkflowEvent) :
    RetriesDisciplined lib world options steps past
      (invokeSteps (invokeStep lib world describe plan options configuration) steps progress past).2 := by
  induction steps generalizing progress past with
  | nil => exact trivial
  | cons step rest ih =>
      -- The step alone, whatever follows it as long as it starts afresh.
      have hown : ∀ next, StartsAfresh next → Around (fun past e after => ∃ s ∈ step :: rest,
          Disciplined lib world options s past e (after ++ next)) past
          (invokeStep lib world describe plan options configuration step progress.outputs past).2 :=
        fun next hnext => (invokeStep_disciplined step progress.outputs hnext past).mono
          (fun past e after h => ⟨step, List.mem_cons_self, h⟩)
      have halone := hown [] (fun a ha => by cases ha)
      simp only [List.append_nil] at halone
      rw [invokeSteps]
      cases hrun : (invokeStep lib world describe plan options configuration step progress.outputs
          past).1 with
      | error e =>
          rw [Eff.bind_of_error hrun]
          exact halone
      | ok pair =>
          rcases pair with ⟨run, ends⟩
          rw [Eff.bind_of_ok hrun]
          dsimp only
          -- A step that ends the workflow is the last one.
          split_ifs
          · exact (List.append_nil _).symm ▸ halone
          · exact (List.append_nil _).symm ▸ halone
          · unfold RetriesDisciplined
            rw [around_append]
            -- The steps after it start afresh, so the retries of this one end here.
            rcases invokeSteps_stages (fun step outputs past => invokeStep_begins step outputs past)
              (fun _ _ _ _ _ => invokeStep_reported) rest _ _ with ⟨stages, hstages⟩
            refine ⟨hown _ ?_, RetriesDisciplined.mono (ih _ _)
              (fun s hs => List.mem_cons_of_mem step hs)⟩
            rw [hstages.events]
            exact startsAfresh_stages hstages.begins

end

/-- In every run an attempt is followed by another one of its step exactly when its
    result calls for a retry that is not used up and there is time for it. -/
theorem retries_disciplined (lib : Crates) (world : WorkflowWorld) (describe : Value → Str)
    (plan : WorkflowPlan) (options : InvokeOptions) (configuration : ProjectConfiguration)
    (past : List WorkflowEvent) :
    RetriesDisciplined lib world options plan.steps past
      (invokeWorkflow lib world describe plan options configuration past).2 := by
  unfold invokeWorkflow
  rw [Eff.ofExcept_bind]
  -- A workflow that is refused or denied makes no attempt.
  cases checkWorkflow lib plan options configuration with
  | error e => exact trivial
  | ok _ =>
      dsimp only
      cases missingGrant options.grants plan.requiredGrants with
      | some missing => exact trivial
      | none =>
          dsimp only
          have hsteps := @invokeSteps_disciplined lib world options describe plan configuration
            plan.steps ⟨[], []⟩ past
          -- What comes after the steps adds no event.
          cases hrun : (invokeSteps (invokeStep lib world describe plan options configuration)
              plan.steps ⟨[], []⟩ past).1 with
          | error e =>
              rw [Eff.bind_of_error hrun]
              exact hsteps
          | ok last =>
              rw [Eff.bind_of_ok hrun]
              dsimp only
              split_ifs
              · exact (List.append_nil _).symm ▸ hsteps
              · exact (List.append_nil _).symm ▸ hsteps

end Kahea
