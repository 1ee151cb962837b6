import Kahea.Core.Observation
import Kahea.Core.WebSocket

/-!
# Deadlines of a Session

The deadline the stream under a session waits for, from the executor of
WebSocket plans.

Three deadlines are in force: that of the session, that of the phase and that
of an idle stream. Each wait configures them anew and each transfer of bytes
moves the idle one. Configuring them moves the idle one as well, to the timeout
after the present instead of after the last transfer, so the bookkeeping is
right as long as no configuration comes late enough to matter (`OnTime`).

## Main definitions

* `DeadlineState`: The deadlines in force.
* `configureSessionDeadline`, `DeadlineState.noteActivity`: The two updates.
* `actionDeadline`: The deadline of a phase.
* `DeadlineEvent`, `SessionClock`: A run of updates.
* `Bookkept`: The active deadline is the one that counts.
* `OnTime`: No configuration moves an idle deadline that counts.

## Theorems

* `bookkept_configure_iff`, `bookkept_transfer`: The two updates.
* `deadlines_kept_iff`: When the bookkeeping is right in a whole run.
* `idle_pushed_back`: A configuration that moves the idle deadline.
-/

namespace Kahea

/-- The function `deadline`, on instants in nanoseconds. The sum does not
    overflow: the seconds of an instant have room for the milliseconds of any
    limit. -/
def deadline (started : Nat) (milliseconds : Nat) : Nat := started + 1000000 * milliseconds

/-- The earliest of three deadlines and its cause. -/
def selectDeadline (total phase idle : Nat) (phaseCause : WebSocketTerminalCause) :
    Nat × WebSocketTerminalCause :=
  if total ≤ phase ∧ total ≤ idle then (total, .totalTimeout)
  else if phase ≤ idle then (phase, phaseCause)
  else (idle, .idleTimeout)

/-- The deadlines in force. The idle timeout is in milliseconds. -/
structure DeadlineState where
  activeDeadline : Nat
  totalDeadline : Nat
  phaseDeadline : Nat
  idleTimeout : Option Nat
  phaseCause : WebSocketTerminalCause
  cause : WebSocketTerminalCause
  deriving DecidableEq, Repr

namespace DeadlineState

def fixed (deadline : Nat) (cause : WebSocketTerminalCause) : DeadlineState :=
  { activeDeadline := deadline
    totalDeadline := deadline
    phaseDeadline := deadline
    idleTimeout := none
    phaseCause := cause
    cause := cause }

/-- Bytes have been read or written. -/
def noteActivity (now : Nat) (s : DeadlineState) : DeadlineState :=
  match s.idleTimeout with
  | none => s
  | some timeout =>
      let selected :=
        selectDeadline s.totalDeadline s.phaseDeadline (deadline now timeout) s.phaseCause
      { s with activeDeadline := selected.1, cause := selected.2 }

end DeadlineState

section

variable (limits : WebSocketLimits) (total : Nat)

/-- The deadlines of a wait that begins now. -/
def configureSessionDeadline (now phaseDeadline : Nat) (phaseCause : WebSocketTerminalCause) :
    DeadlineState :=
  let selected :=
    selectDeadline total phaseDeadline (deadline now limits.idleTimeoutMs) phaseCause
  { activeDeadline := selected.1
    totalDeadline := total
    phaseDeadline := phaseDeadline
    idleTimeout := some limits.idleTimeoutMs
    phaseCause := phaseCause
    cause := selected.2 }

/-- The deadline of an action that begins now. -/
def actionDeadline (now : Nat) (action : WebSocketAction) : Nat :=
  let timeout := match action with
    | .expectText _ timeout | .expectBinary _ timeout | .expectJson _ _ _ timeout
    | .expectPong _ timeout | .expectClose _ _ timeout => timeout.getD limits.actionTimeoutMs
    | .close _ _ => limits.closeTimeoutMs
    | _ => limits.actionTimeoutMs
  min (deadline now timeout) total

/-! ### Runs -/

/-- An update of the deadlines, with the reading of the clock. -/
inductive DeadlineEvent where
  | configure (now phaseDeadline : Nat) (phaseCause : WebSocketTerminalCause)
  | transfer (now : Nat)

def DeadlineEvent.now : DeadlineEvent → Nat
  | configure now _ _ => now
  | transfer now => now

/-- The deadlines, and when the last bytes went by. Nothing reads the latter. -/
structure SessionClock where
  deadlines : DeadlineState
  lastTransfer : Nat

namespace SessionClock

/-- A session that has just been opened. -/
def opened (lastTransfer : Nat) : SessionClock := ⟨.fixed total .totalTimeout, lastTransfer⟩

def step (s : SessionClock) : DeadlineEvent → SessionClock
  | .configure now phaseDeadline phaseCause =>
      { s with deadlines := configureSessionDeadline limits total now phaseDeadline phaseCause }
  | .transfer now => ⟨s.deadlines.noteActivity now, now⟩

def run (s : SessionClock) (events : List DeadlineEvent) : SessionClock :=
  events.foldl (step limits total) s

/-- The idle timeout after the last bytes. -/
def idleDeadline (s : SessionClock) : Option Nat :=
  s.deadlines.idleTimeout.map (deadline s.lastTransfer)

end SessionClock

/-- The active deadline is the earliest one, reported with a cause that has it,
    and no later than that of the session. -/
structure Bookkept (s : SessionClock) : Prop where
  earliest : s.deadlines.activeDeadline =
    (s.idleDeadline.toList).foldl min (min total s.deadlines.phaseDeadline)
  cause :
    (s.deadlines.cause = .totalTimeout ∧ s.deadlines.activeDeadline = total) ∨
    (s.deadlines.cause = s.deadlines.phaseCause ∧
      s.deadlines.activeDeadline = s.deadlines.phaseDeadline) ∨
    (s.deadlines.cause = .idleTimeout ∧ s.idleDeadline = some s.deadlines.activeDeadline)
  bounded : s.deadlines.activeDeadline ≤ total

/-- A configuration comes with the last transfer, or its phase or the session
    ends no later than the stream has been idle for too long. -/
def Timely (last now phaseDeadline : Nat) : Prop :=
  now = last ∨ min total phaseDeadline ≤ deadline last limits.idleTimeoutMs

/-- Every configuration of a run is timely. -/
def OnTime (last : Nat) : List DeadlineEvent → Prop
  | [] => True
  | .configure now phaseDeadline _ :: rest =>
      Timely limits total last now phaseDeadline ∧ OnTime last rest
  | .transfer now :: rest => OnTime now rest

end

/-! ### One update -/

section

variable {limits : WebSocketLimits} {total : Nat}

/-- The selected deadline is the earliest one, with a cause that has it. -/
theorem selectDeadline_spec (total phase idle : Nat) (phaseCause : WebSocketTerminalCause) :
    (selectDeadline total phase idle phaseCause).1 = min (min total phase) idle ∧
      (selectDeadline total phase idle phaseCause =
          (total, WebSocketTerminalCause.totalTimeout) ∨
        selectDeadline total phase idle phaseCause = (phase, phaseCause) ∨
        (selectDeadline total phase idle phaseCause =
          (idle, WebSocketTerminalCause.idleTimeout) ∧ idle < min total phase)) := by
  unfold selectDeadline
  -- The earliest of the three, the first one where they are equal.
  by_cases htotal : total ≤ phase ∧ total ≤ idle
  · rw [if_pos htotal]
    refine ⟨?_, Or.inl rfl⟩
    dsimp only
    omega
  · rw [if_neg htotal]
    by_cases hphase : phase ≤ idle
    · rw [if_pos hphase]
      refine ⟨?_, Or.inr (Or.inl rfl)⟩
      dsimp only
      omega
    · rw [if_neg hphase]
      refine ⟨?_, Or.inr (Or.inr ⟨rfl, ?_⟩)⟩
      · dsimp only
        omega
      · omega

/-- The bookkeeping after an update is right exactly when the base of the idle
    deadline makes no difference to the earliest one. -/
theorem bookkept_selected_iff {last base phase : Nat} {phaseCause : WebSocketTerminalCause}
    {timeout : Nat} (hlast : last ≤ base) :
    Bookkept total
      ⟨{ activeDeadline := (selectDeadline total phase (deadline base timeout) phaseCause).1
         totalDeadline := total
         phaseDeadline := phase
         idleTimeout := some timeout
         phaseCause := phaseCause
         cause := (selectDeadline total phase (deadline base timeout) phaseCause).2 }, last⟩ ↔
      base = last ∨ min total phase ≤ deadline last timeout := by
  rcases selectDeadline_spec total phase (deadline base timeout) phaseCause with ⟨hmin, hcause⟩
  have hbase : deadline last timeout ≤ deadline base timeout := by
    unfold deadline
    omega
  constructor
  · intro h
    have hearliest : (selectDeadline total phase (deadline base timeout) phaseCause).1 =
        min (min total phase) (deadline last timeout) := h.earliest
    rw [hmin] at hearliest
    unfold deadline at hearliest hbase ⊢
    omega
  · intro h
    -- Either way the deadline that counts is the one after the last transfer.
    have hsame : min (min total phase) (deadline base timeout) =
        min (min total phase) (deadline last timeout) := by
      rcases h with rfl | h
      · rfl
      · omega
    refine ⟨hmin.trans hsame, ?_, ?_⟩
    · rcases hcause with hcause | hcause | ⟨hcause, hidle⟩
      · exact Or.inl (by rw [hcause]; exact ⟨rfl, rfl⟩)
      · exact Or.inr (Or.inl (by rw [hcause]; exact ⟨rfl, rfl⟩))
      · refine Or.inr (Or.inr ?_)
        rw [hcause]
        refine ⟨rfl, congrArg some ?_⟩
        dsimp only
        omega
    · dsimp only
      omega

theorem bookkept_opened (last : Nat) : Bookkept total (.opened total last) :=
  ⟨(Nat.min_self total).symm, Or.inl ⟨rfl, rfl⟩, le_rfl⟩

/-- What holds of the deadlines at any time: before the first configuration
    they are those of an opened session. -/
inductive Phased (limits : WebSocketLimits) (total : Nat) : DeadlineState → Prop where
  | opened : Phased limits total (.fixed total .totalTimeout)
  | configured {s : DeadlineState} (htotal : s.totalDeadline = total)
      (hidle : s.idleTimeout = some limits.idleTimeoutMs) : Phased limits total s

theorem phased_step {s : SessionClock} (h : Phased limits total s.deadlines) (e : DeadlineEvent) :
    Phased limits total (s.step limits total e).deadlines := by
  cases e with
  | configure now phase cause => exact .configured rfl rfl
  | transfer now =>
      change Phased limits total (s.deadlines.noteActivity now)
      rcases s with ⟨deadlines, last⟩
      cases h with
      | opened => exact .opened
      | configured htotal hidle =>
          dsimp only at htotal hidle ⊢
          rw [DeadlineState.noteActivity, hidle]
          exact .configured htotal rfl

/-- A configuration keeps the bookkeeping exactly when it is timely. -/
theorem bookkept_configure_iff {s : SessionClock} {now phase : Nat}
    {cause : WebSocketTerminalCause} (hnow : s.lastTransfer ≤ now) :
    Bookkept total (s.step limits total (.configure now phase cause)) ↔
      Timely limits total s.lastTransfer now phase :=
  bookkept_selected_iff hnow

/-- A transfer keeps the bookkeeping. -/
theorem bookkept_transfer {s : SessionClock} (h : Phased limits total s.deadlines) (now : Nat) :
    Bookkept total (s.step limits total (.transfer now)) := by
  rcases s with ⟨deadlines, last⟩
  cases h with
  | opened => exact bookkept_opened now
  | configured htotal hidle =>
      rcases deadlines with ⟨active, _, phase, _, phaseCause, cause⟩
      dsimp only at htotal hidle
      subst htotal hidle
      exact bookkept_selected_iff le_rfl |>.mpr (Or.inl rfl)

/-! ### A whole run -/

/-- After every update of a run the bookkeeping is right exactly when every
    configuration is timely. -/
theorem run_bookkept_iff {s : SessionClock} (h : Phased limits total s.deadlines)
    {events : List DeadlineEvent}
    (hclock : (s.lastTransfer :: events.map DeadlineEvent.now).Pairwise (· ≤ ·)) :
    (∀ before, before <+: events → before ≠ [] → Bookkept total (s.run limits total before)) ↔
      OnTime limits total s.lastTransfer events := by
  induction events generalizing s with
  | nil =>
      refine iff_of_true (fun before hbefore hne => ?_) trivial
      exact absurd (List.prefix_nil.mp hbefore) hne
  | cons e rest ih =>
      have hphased := phased_step h e
      have hnow : s.lastTransfer ≤ e.now := (List.pairwise_cons.mp hclock).1 _ List.mem_cons_self
      -- The clock goes on from the last transfer, be it this event or an earlier one.
      have hnext : ((s.step limits total e).lastTransfer ::
          rest.map DeadlineEvent.now).Pairwise (· ≤ ·) := by
        rw [List.map_cons] at hclock
        cases e with
        | configure now phase cause =>
            exact hclock.sublist (List.Sublist.cons_cons _ (List.sublist_cons_self _ _))
        | transfer now => exact (List.pairwise_cons.mp hclock).2
      have hrest := ih hphased hnext
      have hsplit : (∀ before, before <+: e :: rest → before ≠ [] →
          Bookkept total (s.run limits total before)) ↔
          Bookkept total (s.step limits total e) ∧
            ∀ before, before <+: rest → before ≠ [] →
              Bookkept total ((s.step limits total e).run limits total before) := by
        constructor
        · intro hall
          refine ⟨hall [e] (List.cons_prefix_cons.mpr ⟨rfl, List.nil_prefix⟩) (List.cons_ne_nil _ _), ?_⟩
          intro before hbefore _
          exact hall (e :: before) (List.cons_prefix_cons.mpr ⟨rfl, hbefore⟩) (List.cons_ne_nil _ _)
        · rintro ⟨hfirst, hmore⟩ before hbefore hne
          rcases List.prefix_cons_iff.mp hbefore with rfl | ⟨tail, rfl, htail⟩
          · exact absurd rfl hne
          · by_cases hnil : tail = []
            · rw [hnil]
              exact hfirst
            · exact hmore tail htail hnil
      rw [hsplit, hrest]
      cases e with
      | configure now phase cause => exact and_congr_left' (bookkept_configure_iff hnow)
      | transfer now => exact and_iff_right (bookkept_transfer h now)

/-- The bookkeeping of a session is right at all times exactly when every
    configuration is timely. -/
theorem deadlines_kept_iff (limits : WebSocketLimits) (total start : Nat)
    (events : List DeadlineEvent)
    (hclock : (start :: events.map DeadlineEvent.now).Pairwise (· ≤ ·)) :
    (∀ before, before <+: events →
      Bookkept total ((SessionClock.opened total start).run limits total before)) ↔
      OnTime limits total start events := by
  have hphased : Phased limits total (SessionClock.opened total start).deadlines := .opened
  have hrun := run_bookkept_iff hphased hclock
  constructor
  · exact fun h => hrun.mp (fun before hbefore _ => h before hbefore)
  · intro h before hbefore
    by_cases hnil : before = []
    · rw [hnil]
      exact bookkept_opened start
    · exact hrun.mpr h before hbefore hnil

end

/-! ### A late configuration -/

/-- Limits with an idle timeout of one second. -/
def idleLimits : WebSocketLimits :=
  ⟨10000, 10000, 1000, 10000, 60000, 65536, 65536, 16, 16, 16, 16, 65536, 65536⟩

/-- The waits of an expectation that begins with a transfer and goes on, so
    many milliseconds later, with the next message. -/
def waits (later : Nat) : List DeadlineEvent :=
  let phase := actionDeadline idleLimits (deadline 0 60000) 0 (.expectPong [] none)
  [.configure 0 phase .actionTimeout, .transfer (deadline 0 200),
    .configure (deadline 0 (200 + later)) phase .actionTimeout]

/-- A wait that goes on at once. -/
theorem deadlines_kept_at_once :
    Bookkept (deadline 0 60000) ((SessionClock.opened (deadline 0 60000) 0).run idleLimits
      (deadline 0 60000) (waits 0)) :=
  (deadlines_kept_iff idleLimits (deadline 0 60000) 0 (waits 0) (by decide)).mpr
    ⟨Or.inl rfl, Or.inl rfl, trivial⟩ (waits 0) List.prefix_rfl

/-- A wait that goes on half a second after the last bytes moves the idle
    deadline by as much. -/
theorem idle_pushed_back : ¬ ∀ events : List DeadlineEvent,
    (0 :: events.map DeadlineEvent.now).Pairwise (· ≤ ·) →
      Bookkept (deadline 0 60000) ((SessionClock.opened (deadline 0 60000) 0).run idleLimits
        (deadline 0 60000) events) := by
  intro h
  have hbookkept := (h (waits 500) (by decide)).earliest
  revert hbookkept
  decide

end Kahea
