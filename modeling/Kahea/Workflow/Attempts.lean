import Kahea.Exec.Exits
import Kahea.Workflow.Marks

/-!
# The Attempts of a Step

What a step of a run reports of its attempts, against the marks of the run.

One attempt leaves two marks, one where it starts and one where it ends, and
whatever is around them is not marked. So the marks of a step are its attempts
one after the other, numbered from zero, and the records a step reports are
those of its marks (`retryLoop_reported`). A step that ends with an error has
its marks as well, and reports nothing.

## Main definitions

* `begunAttempts`, `finishedAttempts`: The marks of a run.
* `OneAttempt`: The events of one attempt.
* `Attempting`: What a program that makes one attempt does.
* `Reported`: A list of records is that of the attempts of a run.

## Theorems

* `httpAttempt_attempting`, `websocketAttempt_attempting`: The attempts of the
  transports.
* `retryLoop_reported`: The records of a loop.
-/

namespace Kahea

/-! ### The marks of a run -/

/-- The attempts that were started, in their order. -/
def begunAttempts (events : List WorkflowEvent) : List Attempt :=
  events.filterMap (fun e => match e with
    | .started attempt => some attempt
    | _ => none)

/-- The attempts that ended, in their order, with what they ended with. -/
def finishedAttempts (events : List WorkflowEvent) : List (Attempt × AttemptResult) :=
  events.filterMap (fun e => match e with
    | .ended attempt result => some (attempt, result)
    | _ => none)

/-- Attempts begun in two parts of a run. -/
theorem begunAttempts_append (first second : List WorkflowEvent) :
    begunAttempts (first ++ second) = begunAttempts first ++ begunAttempts second :=
  List.filterMap_append

/-- Attempts finished in two parts of a run. -/
theorem finishedAttempts_append (first second : List WorkflowEvent) :
    finishedAttempts (first ++ second) = finishedAttempts first ++ finishedAttempts second :=
  List.filterMap_append

/-- Without marks no attempt begins. -/
theorem begunAttempts_unmarked {events : List WorkflowEvent} (h : ∀ e ∈ events, e.isMark = false) :
    begunAttempts events = [] := by
  refine List.filterMap_eq_nil_iff.mpr (fun e he => ?_)
  have hmark := h e he
  cases e with
  | started attempt => cases hmark
  | _ => rfl

theorem finishedAttempts_unmarked {events : List WorkflowEvent}
    (h : ∀ e ∈ events, e.isMark = false) : finishedAttempts events = [] := by
  refine List.filterMap_eq_nil_iff.mpr (fun e he => ?_)
  have hmark := h e he
  cases e with
  | ended attempt result => cases hmark
  | _ => rfl

/-- The point of a run at which an attempt starts. -/
theorem begunAttempts_split {events : List WorkflowEvent} {first : List Attempt} {attempt : Attempt}
    {later : List Attempt} (h : begunAttempts events = first ++ attempt :: later) :
    ∃ before after, events = before ++ .started attempt :: after ∧ begunAttempts before = first := by
  rcases List.filterMap_eq_append_iff.mp h with ⟨front, back, rfl, hfront, hback⟩
  rcases List.filterMap_eq_cons_iff.mp hback with ⟨skipped, e, after, rfl, hskipped, he, _⟩
  have hstarted : e = .started attempt := by
    cases e with
    | started other =>
        cases he
        rfl
    | _ => cases he
  subst hstarted
  refine ⟨front ++ skipped, after, (List.append_assoc _ _ _).symm, ?_⟩
  change begunAttempts front = first at hfront
  rw [begunAttempts_append, hfront]
  have hnone : begunAttempts skipped = [] := List.filterMap_eq_nil_iff.mpr hskipped
  rw [hnone, List.append_nil]

/-- The events of one attempt: its marks, and events without marks between them
    and behind them. -/
def OneAttempt (attempt : Attempt) (result : AttemptResult) (events : List WorkflowEvent) : Prop :=
  ∃ middle tail, (∀ e ∈ middle, e.isMark = false) ∧ (∀ e ∈ tail, e.isMark = false) ∧
    events = .started attempt :: (middle ++ .ended attempt result :: tail)

/-- One attempt begins once. -/
theorem OneAttempt.begun {attempt : Attempt} {result : AttemptResult} {events : List WorkflowEvent}
    (h : OneAttempt attempt result events) : begunAttempts events = [attempt] := by
  rcases h with ⟨middle, tail, hmiddle, htail, rfl⟩
  change attempt :: begunAttempts (middle ++ .ended attempt result :: tail) = [attempt]
  rw [begunAttempts_append, begunAttempts_unmarked hmiddle]
  change attempt :: ([] ++ begunAttempts tail) = [attempt]
  rw [begunAttempts_unmarked htail, List.append_nil]

/-- One attempt ends once, with its result. -/
theorem OneAttempt.finished {attempt : Attempt} {result : AttemptResult}
    {events : List WorkflowEvent} (h : OneAttempt attempt result events) :
    finishedAttempts events = [(attempt, result)] := by
  rcases h with ⟨middle, tail, hmiddle, htail, rfl⟩
  change finishedAttempts (middle ++ .ended attempt result :: tail) = [(attempt, result)]
  rw [finishedAttempts_append, finishedAttempts_unmarked hmiddle]
  change (attempt, result) :: finishedAttempts tail = [(attempt, result)]
  rw [finishedAttempts_unmarked htail]

/-! ### One attempt -/

/-- The documented exit of what an attempt ends with. An error of the executor is
    a broken transport. -/
def AttemptResult.documentedExit : AttemptResult → Nat
  | http (.observation o) => o.outcome.exit
  | webSocket (.observation o) => o.outcome.exit
  | http (.denied _) | webSocket (.denied _) => Outcome.denied.exit
  | webSocket (.connected _) | error _ => Outcome.error.exit

theorem InvocationResult.Contracted.exit {result : InvocationResult} (h : result.Contracted) :
    (AttemptResult.http result).exit = (AttemptResult.http result).documentedExit := by
  cases result with
  | observation o => exact h.2
  | denied d => exact h

theorem WebSocketConnectResult.Contracted.exit {result : WebSocketConnectResult}
    (h : result.Contracted) :
    (AttemptResult.webSocket result).exit = (AttemptResult.webSocket result).documentedExit := by
  cases result with
  | observation o => exact h.2
  | denied d => exact h
  | connected connection => rfl

/-- An attempt is one of a step. -/
def AttemptOf (step : WorkflowStepTemplate) (attempt : Attempt) : Prop :=
  attempt.step = step.stepId ∧ attempt.declared = step.timeoutMs.map (· * 1000000)

/-- What a program that makes one attempt does: it leaves no marks and fails,
    or makes the attempt of its number and returns the record of the result, and
    the result unless it asks for another attempt. -/
def Attempting {α : Type} (step : WorkflowStepTemplate) (retries : Nat) (result : α → AttemptResult)
    (run : Except WorkflowError (Value × Option α) × List WorkflowEvent) : Prop :=
  ((∃ e, run.1 = .error e) ∧ ∀ e ∈ run.2, e.isMark = false) ∨
    ∃ attempt ended, OneAttempt attempt ended run.2 ∧ AttemptOf step attempt ∧
      attempt.retries = retries ∧ ended.exit = ended.documentedExit ∧ ∀ record outcome, run.1 = .ok (record, outcome) →
        record = ended.record ∧ ∀ a, outcome = some a → ended = result a

section

variable {lib : Crates} {world : WorkflowWorld} {α : Type}

/-- An attempt that is followed by a program without marks. -/
theorem attempting_markedAttempt {step : WorkflowStepTemplate} {retries : Nat} {attempt : Attempt}
    {result : α → AttemptResult} {program : World → Eff Event ExecError α}
    {next : Except ExecError α → Run (Value × Option α)} (hstep : AttemptOf step attempt)
    (hretries : attempt.retries = retries)
    (hexit : ∀ w, Ensures (program w) (fun a => (result a).exit = (result a).documentedExit)
      (fun _ => True)) (hunmarked : ∀ outcome, Unmarked (next outcome))
    (hnext : ∀ outcome past record found, (next outcome past).1 = .ok (record, found) →
      record = (attemptResult result outcome).record ∧
        ∀ a, found = some a → attemptResult result outcome = result a) (past : List WorkflowEvent) :
    Attempting step retries result ((markedAttempt world attempt result program >>= next) past) := by
  rcases @markedAttempt_run world α attempt result program past with
    ⟨outcome, middle, hmiddle, hrun⟩
  have hok : (markedAttempt world attempt result program past).1 = .ok outcome := by rw [hrun]
  rw [Eff.bind_of_ok hok, hrun]
  dsimp only
  generalize past ++ WorkflowEvent.started attempt ::
    (middle ++ [WorkflowEvent.ended attempt (attemptResult result outcome)]) = later
  -- The attempt begins and ends around the program, and nothing else is marked.
  refine Or.inr ⟨attempt, attemptResult result outcome, ⟨middle, (next outcome later).2, hmiddle,
    (hunmarked outcome later).2, ?_⟩, hstep, hretries, ?_, fun record found h => hnext _ _ _ _ h⟩
  · rw [List.cons_append, List.append_assoc]
    rfl
  -- What it reports is what the program returned.
  · cases outcome with
    | error e => rfl
    | ok a =>
        have hprogram := Except.ok.inj hok
        exact (hexit _ _).1 a hprogram

/-- A request is one attempt. -/
theorem httpAttempt_attempting (step : WorkflowStepTemplate) (options : InvokeOptions)
    (since timeout retries : Nat) (execute : World → Eff Event ExecError InvocationResult)
    (hexecute : ∀ w, Ensures (execute w) InvocationResult.Contracted (fun _ => True))
    (past : List WorkflowEvent) : Attempting step retries .http
      (httpAttempt lib world step options since timeout execute retries past) := by
  refine attempting_markedAttempt ⟨rfl, rfl⟩ rfl (fun w => ?_) (fun outcome => ?_)
    (fun outcome past record found h => ?_) past
  · exact (hexecute w).mono (fun result h => h.exit) (fun _ h => h)
  -- The attempt returned or failed; a pause may follow, which is no mark.
  · cases outcome with
    | ok result =>
        exact (pausing_failureAction _ result).unmarked.bind (fun action =>
          (pausing_goesOn _ _ action).unmarked.bind (fun _ => .pure _))
    | error e =>
        refine (pausing_goesOn _ _ _).unmarked.bind (fun again => ?_)
        split_ifs
        · exact .pure _
        · exact .fail _
  -- A result is handed on only when no further attempt is due.
  · cases outcome with
    | ok result =>
        rcases Eff.bind_ok h with ⟨action, _, h⟩
        rcases Eff.bind_ok h with ⟨again, _, h⟩
        cases h
        refine ⟨rfl, fun a ha => ?_⟩
        split_ifs at ha
        cases ha
        rfl
    -- A failure that is retried hands on nothing.
    | error e =>
        rcases Eff.bind_ok h with ⟨again, _, h⟩
        cases again with
        | false => cases h
        | true =>
            cases h
            exact ⟨rfl, fun _ ha => by cases ha⟩

/-- A session is one attempt. -/
theorem websocketAttempt_attempting (step : WorkflowStepTemplate) (websocketPlan : WebSocketPlan)
    (options : InvokeOptions) (retries : Nat) (past : List WorkflowEvent) :
    Attempting step retries .webSocket
      (websocketAttempt lib world step websocketPlan options retries past) := by
  unfold websocketAttempt
  rw [elapsed_bind, Eff.ofExcept_bind]
  -- Without time left the attempt is not begun.
  cases remainingStepTimeout (world.clock past) options.timeout step.timeoutMs with
  | error e => exact Or.inl ⟨⟨e, rfl⟩, fun _ h => by cases h⟩
  | ok timeout =>
      dsimp only
      refine attempting_markedAttempt ⟨rfl, rfl⟩ rfl (fun w => ?_) (fun outcome => ?_)
        (fun outcome past record found h => ?_) past
      · exact executeWebsocket_contracted.mono (fun result h => h.exit) (fun _ h => h)
      -- A session may end with an error, an observation or a denial.
      · rcases outcome with e | connected | observation | denial
        · refine (pausing_goesOn _ _ _).unmarked.bind (fun again => ?_)
          split_ifs
          · exact .pure _
          · exact .fail _
        · exact .fail _
        · exact (pausing_goesOn _ _ _).unmarked.bind (fun _ => .pure _)
        · exact .pure _
      -- Only the last two are handed on.
      · rcases outcome with e | connected | observation | denial
        · dsimp only at h
          rcases Eff.bind_ok h with ⟨again, _, h⟩
          cases again with
          | false => cases h
          | true =>
              cases h
              exact ⟨rfl, fun _ ha => by cases ha⟩
        · dsimp only at h
          cases h
        · dsimp only at h
          rcases Eff.bind_ok h with ⟨again, _, h⟩
          cases h
          refine ⟨rfl, fun a ha => ?_⟩
          split_ifs at ha
          cases ha
          rfl
        · dsimp only at h
          cases h
          refine ⟨rfl, fun a ha => ?_⟩
          cases ha
          rfl

/-! ### All attempts of a step -/

/-- A list of records is that of the attempts of a run: they were made one after
    the other for one step, each ended, and these are their records. -/
structure Reported (step : WorkflowStepTemplate) (events : List WorkflowEvent) (records : List Value) : Prop where
  begun : begunAttempts events = (finishedAttempts events).map Prod.fst
  attempts : ∀ a ∈ finishedAttempts events, AttemptOf step a.1
  exits : ∀ a ∈ finishedAttempts events, a.2.exit = a.2.documentedExit
  numbers : (finishedAttempts events).map (fun a => a.1.retries) =
    List.range (finishedAttempts events).length
  records : records = (finishedAttempts events).map (fun a => a.2.record)

/-- The records of a loop, numbered from its first attempt on, and the result it
    ends with. -/
theorem retryLoop_reported {step : WorkflowStepTemplate} {result : α → AttemptResult}
    {once : Nat → Run (Value × Option α)}
    (honce : ∀ retries past, Attempting step retries result (once retries past))
    {left retries : Nat} {attempts records : List Value} {found : α} {past : List WorkflowEvent}
    (h : (retryLoop once left retries attempts past).1 = .ok (records, found)) :
    let events := (retryLoop once left retries attempts past).2
    begunAttempts events = (finishedAttempts events).map Prod.fst ∧
      (∀ a ∈ finishedAttempts events, AttemptOf step a.1 ∧ a.2.exit = a.2.documentedExit) ∧
      (finishedAttempts events).map (fun a => a.1.retries) =
        List.range' retries (finishedAttempts events).length ∧
      records = attempts ++ (finishedAttempts events).map (fun a => a.2.record) ∧
      ((finishedAttempts events).getLast?).map Prod.snd = some (result found) := by
  -- By the attempts still allowed, the records of the earlier ones being given.
  induction left generalizing retries attempts past with
  | zero => cases h
  | succ left ih =>
      rw [retryLoop] at h ⊢
      rcases Eff.bind_ok h with ⟨⟨record, outcome⟩, hrun, hrest⟩
      rw [Eff.bind_of_ok hrun]
      -- The attempt failed before it began, or it began and ended once.
      rcases honce retries past with ⟨⟨e, herror⟩, -⟩ | ⟨attempt, ended, hone, hstep, hretries, hexit, hok⟩
      · rw [herror] at hrun
        cases hrun
      rcases hok record outcome hrun with ⟨rfl, hended⟩
      dsimp only at hrest ⊢
      rw [begunAttempts_append, finishedAttempts_append, hone.begun, hone.finished]
      -- It was the last one, or the loop goes on with the next number.
      cases outcome with
      | some a =>
          cases hrest
          have hlast := hended found rfl
          refine ⟨rfl, fun b hb => ?_, ?_, rfl, congrArg some hlast⟩
          · cases List.mem_singleton.mp hb
            exact ⟨hstep, hexit⟩
          · change [attempt.retries] = [retries]
            rw [hretries]
      | none =>
          rcases ih hrest with ⟨hbegun, hsteps, hnumbers, hrecords, hlast⟩
          dsimp only at hbegun hsteps hnumbers hrecords hlast ⊢
          refine ⟨?_, fun b hb => ?_, ?_, ?_, ?_⟩
          · rw [hbegun]
            rfl
          · rcases List.mem_cons.mp hb with rfl | hb
            · exact ⟨hstep, hexit⟩
            · exact hsteps b hb
          · rw [List.singleton_append, List.map_cons, hnumbers, List.length_cons, List.range'_succ,
              hretries]
          · rw [hrecords, List.append_assoc]
            rfl
          · rw [List.singleton_append, List.getLast?_cons]
            rw [Option.map_eq_some_iff] at hlast ⊢
            rcases hlast with ⟨b, hb, hresult⟩
            exact ⟨b, by rw [hb]; rfl, hresult⟩

end

end Kahea
