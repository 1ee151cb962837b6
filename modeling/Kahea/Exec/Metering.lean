import Kahea.Exec.Framing

/-!
# Metering a Stream

The parser `WireParser` and the stream `AccountedStream`, over pieces of any
size.

A call observes a piece: it takes as much of a payload, or of a header, as there
is, in turns. Both directions have a parser of their own and share the
accounting. What a direction has counted after some calls depends on its bytes
alone, and it is what they announce (`metered_iff`).

## Main definitions

* `WireParser.observe`: The method `observe`, with its loop.
* `AccountedStream.calls`: Calls of both directions.
* `Metered`: What the accounting of the wire should be.

## Theorems

* `observe_run`: A piece goes byte by byte.
* `calls_run`: Pieces go byte by byte.
* `metered_iff`: When the accounting is what it should be.
* `observe_lane`: The wire of a session counts alike.
* `metered_pieces`, `payloads_overflow`: A stream where it is and one where it is not.
-/

namespace Kahea

/-- The limits of a direction. -/
def WebSocketLimits.lane (limits : WebSocketLimits) (inbound : Bool) : LaneLimits :=
  if inbound then ⟨limits.maxInboundFrames, limits.maxFrameBytes, limits.maxInboundBytes⟩
  else ⟨limits.maxOutboundFrames, limits.maxFrameBytes, limits.maxOutboundBytes⟩

namespace WireAccounting

/-- Payload bytes of a direction go by. -/
def consume (a : WireAccounting) (inbound : Bool) (consumed : Nat) : WireAccounting :=
  if inbound then a.consumeInbound consumed else a.consumeOutbound consumed

/-- Charge a frame against the limits of its direction. An addition that
    overflows is an error of its own. -/
def charge (a : WireAccounting) (limits : WebSocketLimits) (inbound : Bool) (payload : Nat) :
    WireAccounting × Option WireError :=
  let (frames, reserved, maxFrames, maxBytes) :=
    if inbound then (a.counters.inboundFrames, a.inboundReservedBytes, limits.maxInboundFrames,
      limits.maxInboundBytes)
    else (a.counters.outboundFrames, a.outboundReservedBytes, limits.maxOutboundFrames,
      limits.maxOutboundBytes)
  if exceeds limits frames reserved maxFrames maxBytes payload then
    ({ a with failure := some .budgetExhausted }, some (.rejected .budgetExhausted))
  else if u64Bound ≤ frames + 1 ∨ u64Bound ≤ reserved + payload then (a, some .overflow)
  else if inbound then
    ({ a with
      counters := { a.counters with inboundFrames := frames + 1 }
      inboundReservedBytes := reserved + payload }, none)
  else
    ({ a with
      counters := { a.counters with outboundFrames := frames + 1 }
      outboundReservedBytes := reserved + payload }, none)

/-- Judge a complete header. -/
def judge (a : WireAccounting) (limits : WebSocketLimits) (inbound : Bool) (header : List UInt8) :
    (WireParser × WireAccounting) × Option WireError :=
  match payloadLength header with
  | none =>
      ((⟨header, 0⟩, { a with failure := some .protocolViolation }),
        some (.rejected .protocolViolation))
  | some payload => match a.charge limits inbound payload with
    | (a, some e) => ((⟨header, 0⟩, a), some e)
    | (a, none) => ((⟨[], payload⟩, a), none)

/-- One direction of the accounting. -/
def lane (a : WireAccounting) (inbound : Bool) (parser : WireParser) : Lane :=
  if inbound then ⟨parser.header, parser.payloadRemaining, a.counters.inboundFrames,
    a.counters.inboundBytes, a.inboundReservedBytes⟩
  else ⟨parser.header, parser.payloadRemaining, a.counters.outboundFrames,
    a.counters.outboundBytes, a.outboundReservedBytes⟩

end WireAccounting

section

variable (limits : WebSocketLimits) (inbound : Bool)

/-- One turn of the loop of `observe`, and the bytes it leaves. -/
def observeTurn (wire : WireParser × WireAccounting) (bytes : List UInt8) :
    ((WireParser × WireAccounting) × Option WireError) × List UInt8 :=
  let (parser, accounting) := wire
  if parser.payloadRemaining ≠ 0 then
    let consumed := min parser.payloadRemaining bytes.length
    (((⟨parser.header, parser.payloadRemaining - consumed⟩, accounting.consume inbound consumed),
      none), bytes.drop consumed)
  else
    let copied := min (headerNeeded parser.header - parser.header.length) bytes.length
    let header := parser.header ++ bytes.take copied
    if header.length ≠ headerNeeded header then
      (((⟨header, 0⟩, accounting), none), bytes.drop copied)
    else (accounting.judge limits inbound header, bytes.drop copied)

/-- The loop of `observe`. A turn takes a byte at least, so there are no more
    turns than bytes. -/
def observeLoop : Nat → WireParser × WireAccounting → List UInt8 →
    (WireParser × WireAccounting) × Option WireError
  | _, wire, [] => (wire, none)
  | 0, wire, _ :: _ => (wire, none)
  | turns + 1, wire, byte :: bytes =>
      match observeTurn limits inbound wire (byte :: bytes) with
      | ((wire, none), rest) => observeLoop turns wire rest
      | ((wire, some e), _) => (wire, some e)

/-- The method `observe`. -/
def WireParser.observe (parser : WireParser) (accounting : WireAccounting) (bytes : List UInt8) :
    (WireParser × WireAccounting) × Option WireError :=
  observeLoop limits inbound bytes.length (parser, accounting) bytes

end

/-- The stream under a session. -/
structure AccountedStream where
  inbound : WireParser
  outbound : WireParser
  accounting : WireAccounting

namespace AccountedStream

def new : AccountedStream := ⟨WireParser.new, WireParser.new, WireAccounting.default⟩

/-- One direction of the stream. -/
def lane (s : AccountedStream) (inbound : Bool) : Lane :=
  s.accounting.lane inbound (if inbound then s.inbound else s.outbound)

end AccountedStream

/-- A piece that is read or written. -/
structure StreamCall where
  inbound : Bool
  bytes : List UInt8

section

variable (limits : WebSocketLimits)

/-- What a call does to the accounting, and its error. -/
def AccountedStream.call (s : AccountedStream) (c : StreamCall) :
    AccountedStream × Option WireError :=
  if c.inbound then
    let ((parser, accounting), error) := s.inbound.observe limits true s.accounting c.bytes
    ({ s with inbound := parser, accounting := accounting }, error)
  else
    let ((parser, accounting), error) := s.outbound.observe limits false s.accounting c.bytes
    ({ s with outbound := parser, accounting := accounting }, error)

/-- Calls, each with its error. -/
def AccountedStream.calls : AccountedStream → List StreamCall →
    AccountedStream × List (StreamCall × Option WireError)
  | s, [] => (s, [])
  | s, c :: rest =>
      let (s, error) := s.call limits c
      let (s, errors) := s.calls rest
      (s, (c, error) :: errors)

/-- The bytes of a direction. -/
def sent (inbound : Bool) (calls : List StreamCall) : List UInt8 :=
  (calls.filter (fun c => c.inbound == inbound)).flatMap StreamCall.bytes

/-- The first error of a direction. -/
def firstError (inbound : Bool) (results : List (StreamCall × Option WireError)) :
    Option WireError :=
  (results.filter (fun r => r.1.inbound == inbound)).findSome? Prod.snd

/-- The failure that stays recorded after a piece: its own rejection, or the one
    before it. -/
def recordedFailure : Option WireError → Option WebSocketTerminalCause →
    Option WebSocketTerminalCause
  | some (.rejected cause), _ => some cause
  | _, before => before

/-- The accounting of a direction after some calls is what it should be. -/
structure Metered (calls : List StreamCall) (inbound : Bool) : Prop where
  /-- The pieces of a direction could have come as one. -/
  together : (AccountedStream.new.calls limits calls).1.lane inbound =
    (AccountedStream.new.call limits ⟨inbound, sent inbound calls⟩).1.lane inbound
  verdict : firstError inbound (AccountedStream.new.calls limits calls).2 =
    (AccountedStream.new.call limits ⟨inbound, sent inbound calls⟩).2
  /-- What is counted is what the bytes announce. -/
  exact : Announces (limits.lane inbound) (sent inbound calls)
    ((AccountedStream.new.calls limits calls).1.lane inbound)
    (firstError inbound (AccountedStream.new.calls limits calls).2)
  balanced : ((AccountedStream.new.calls limits calls).1.lane inbound).Balanced
    (limits.lane inbound)
  /-- After an error nothing is counted, and every piece meets the error. -/
  permanent : ∀ e, firstError inbound (AccountedStream.new.calls limits calls).2 = some e →
    (AccountedStream.new.calls limits calls).1.accounting.failure.isSome ∧
      ∀ bytes, bytes ≠ [] →
        ((AccountedStream.new.calls limits calls).1.call limits ⟨inbound, bytes⟩).2 = some e ∧
        ((AccountedStream.new.calls limits calls).1.call limits ⟨inbound, bytes⟩).1.lane inbound =
          (AccountedStream.new.calls limits calls).1.lane inbound
  noOverflow : firstError inbound (AccountedStream.new.calls limits calls).2 ≠ some .overflow
  /-- The failure that both directions record in is the first error of one. -/
  recorded : ∀ cause, (AccountedStream.new.calls limits calls).1.accounting.failure = some cause →
    ∃ d, firstError d (AccountedStream.new.calls limits calls).2 = some (.rejected cause)

end

/-! ### One piece -/

/-- The state of a direction between two pieces: its header is unfinished, or
    it is judged with the same error again. -/
structure Lane.Sound (limits : LaneLimits) (state : Lane × Option WireError) : Prop where
  unfinished : state.2 = none → state.1.header.length < headerNeeded state.1.header
  stuck : ∀ e, state.2 = some e → state.1.remaining = 0 ∧
    state.1.header.length = headerNeeded state.1.header ∧
      state.1.judge limits = (state.1, some e)

section

variable {limits : LaneLimits}

/-- A judgement charges the frame or leaves the direction as it was. -/
theorem Lane.judge_cases (lane : Lane) :
    (∃ e, lane.judge limits = (lane, some e)) ∨
      ∃ payload, lane.judge limits =
        (⟨[], payload, lane.frames + 1, lane.bytes, lane.reserved + payload⟩, none) := by
  unfold Lane.judge
  split
  · exact Or.inl ⟨_, rfl⟩
  · split
    · exact Or.inl ⟨_, rfl⟩
    · split
      · exact Or.inl ⟨_, rfl⟩
      · exact Or.inr ⟨_, rfl⟩

theorem Lane.Sound.judge {lane : Lane} (hzero : lane.remaining = 0)
    (hfull : lane.header.length = headerNeeded lane.header) :
    Lane.Sound limits (lane.judge limits) := by
  rcases lane.judge_cases with ⟨e, he⟩ | ⟨payload, hpayload⟩
  · rw [he]
    refine ⟨nofun, fun e' he' => ?_⟩
    cases he'
    exact ⟨hzero, hfull, he⟩
  · rw [hpayload]
    exact ⟨fun _ => Nat.zero_lt_two, nofun⟩

theorem Lane.Sound.byte {state : Lane × Option WireError} (h : Lane.Sound limits state)
    (byte : UInt8) : Lane.Sound limits (Lane.byte limits state byte) := by
  rcases state with ⟨lane, _ | e⟩
  · have hopen := h.unfinished rfl
    by_cases hpayload : lane.remaining = 0
    · by_cases hmore : (lane.header ++ [byte]).length < headerNeeded (lane.header ++ [byte])
      · rw [Lane.byte_header hpayload hmore]
        exact ⟨fun _ => hmore, nofun⟩
      · have hfull := complete_of_not_unfinished hopen hmore
        rw [Lane.byte_complete hpayload hfull]
        exact Lane.Sound.judge hpayload hfull
    · rw [Lane.byte_payload hpayload]
      exact ⟨fun _ => hopen, nofun⟩
  · exact h

theorem Lane.Sound.run {state : Lane × Option WireError} (h : Lane.Sound limits state)
    (bytes : List UInt8) : Lane.Sound limits (Lane.run limits state bytes) := by
  induction bytes generalizing state with
  | nil => exact h
  | cons byte rest ih => exact ih (h.byte byte)

theorem Lane.Sound.start : Lane.Sound limits (Lane.after [], none) :=
  ⟨fun _ => Nat.zero_lt_two, nofun⟩

end

section

variable {limits : WebSocketLimits} {inbound : Bool}

theorem consume_lane (a : WireAccounting) (parser : WireParser) (consumed : Nat) :
    (a.consume inbound consumed).lane inbound
        ⟨parser.header, parser.payloadRemaining - consumed⟩ =
      { a.lane inbound parser with
        remaining := (a.lane inbound parser).remaining - consumed
        bytes := saturatingAdd (a.lane inbound parser).bytes consumed } := by
  cases inbound <;> rfl

theorem exceeds_iff {frames reserved maxFrames maxBytes payload : Nat} :
    WireAccounting.exceeds limits frames reserved maxFrames maxBytes payload = true ↔
      maxFrames ≤ frames ∨ limits.maxFrameBytes < payload ∨
        maxBytes < saturatingAdd reserved payload := by
  unfold WireAccounting.exceeds
  rw [Bool.or_eq_true, Bool.or_eq_true, decide_eq_true_eq, decide_eq_true_eq, decide_eq_true_eq,
    or_assoc]

/-- A frame is charged as in its direction. -/
theorem charge_lane (a : WireAccounting) (header : List UInt8) {payload : Nat}
    (hsize : payloadLength header = some payload) :
    Lane.judge (limits.lane inbound) (a.lane inbound ⟨header, 0⟩) =
      ((a.charge limits inbound payload).1.lane inbound
          (if (a.charge limits inbound payload).2.isSome then ⟨header, 0⟩ else ⟨[], payload⟩),
        (a.charge limits inbound payload).2) := by
  -- Both directions test the limits and then the sums, in their own counters.
  cases inbound with
  | true =>
      unfold Lane.judge
      change (match payloadLength header with | none => _ | some payload => _) = _
      rw [hsize]
      dsimp only [WireAccounting.lane, WireAccounting.charge, WebSocketLimits.lane]
      simp only [exceeds_iff, if_true]
      split
      · rfl
      · split
        · rfl
        · rfl
  | false =>
      unfold Lane.judge
      change (match payloadLength header with | none => _ | some payload => _) = _
      rw [hsize]
      dsimp only [WireAccounting.lane, WireAccounting.charge, WebSocketLimits.lane]
      simp only [exceeds_iff, Bool.false_eq_true, if_false]
      split
      · rfl
      · split
        · rfl
        · rfl

/-- A header is judged as in its direction. -/
theorem judge_lane (a : WireAccounting) (header : List UInt8) :
    Lane.judge (limits.lane inbound) (a.lane inbound ⟨header, 0⟩) =
      ((a.judge limits inbound header).1.2.lane inbound (a.judge limits inbound header).1.1,
        (a.judge limits inbound header).2) := by
  unfold WireAccounting.judge
  cases hsize : payloadLength header with
  | none =>
      unfold Lane.judge
      cases inbound <;>
      · change (match payloadLength header with | none => _ | some payload => _) = _
        rw [hsize]
        rfl
  | some payload =>
      rw [charge_lane a header hsize]
      dsimp only
      generalize a.charge limits inbound payload = charged
      rcases charged with ⟨a', _ | e⟩
      · rfl
      · rfl

/-- The wire of a direction, as its counters. -/
def wireLane (inbound : Bool) (result : (WireParser × WireAccounting) × Option WireError) :
    Lane × Option WireError :=
  (result.1.2.lane inbound result.1.1, result.2)

theorem lane_header (a : WireAccounting) (parser : WireParser) :
    (a.lane inbound parser).header = parser.header := by
  cases inbound <;> rfl

theorem lane_remaining (a : WireAccounting) (parser : WireParser) :
    (a.lane inbound parser).remaining = parser.payloadRemaining := by
  cases inbound <;> rfl

theorem lane_with_header (a : WireAccounting) {parser : WireParser} (header : List UInt8)
    (h : parser.payloadRemaining = 0) :
    a.lane inbound ⟨header, 0⟩ = { a.lane inbound parser with header := header } := by
  unfold WireAccounting.lane
  rw [h]
  cases inbound <;> rfl

theorem headerNeeded_short {header : List UInt8} (h : header.length < 2) :
    headerNeeded header = 2 := by
  rcases header with _ | ⟨first, _ | ⟨second, rest⟩⟩
  · rfl
  · rfl
  · rw [List.length_cons, List.length_cons] at h
    omega

variable (limits inbound) in
/-- A turn takes some bytes, one after the other. -/
theorem observeTurn_run {parser : WireParser} (a : WireAccounting) {bytes : List UInt8}
    (hbytes : bytes ≠ []) (hopen : parser.header.length < headerNeeded parser.header) :
    ∃ taken, taken ≠ [] ∧
      bytes = taken ++ (observeTurn limits inbound (parser, a) bytes).2 ∧
      wireLane inbound (observeTurn limits inbound (parser, a) bytes).1 =
        Lane.run (limits.lane inbound) (a.lane inbound parser, none) taken := by
  have hpos := List.length_pos_iff.mpr hbytes
  unfold observeTurn
  dsimp only
  by_cases hpayload : parser.payloadRemaining ≠ 0
  · rw [if_pos hpayload]
    have htaken : (bytes.take (min parser.payloadRemaining bytes.length)).length =
        min parser.payloadRemaining bytes.length := by
      rw [List.length_take]
      omega
    have hne : bytes.take (min parser.payloadRemaining bytes.length) ≠ [] := by
      rw [← List.length_pos_iff, htaken]
      omega
    refine ⟨_, hne, (List.take_append_drop _ _).symm, ?_⟩
    rw [Lane.run_payload hne (by rw [lane_remaining, htaken]; omega), htaken]
    unfold wireLane
    dsimp only
    rw [consume_lane]
  rw [if_neg hpayload]
  rw [not_not] at hpayload
  generalize hcopied : min (headerNeeded parser.header - parser.header.length) bytes.length = copied
  have htaken : (bytes.take copied).length = copied := by
    rw [List.length_take]
    omega
  have hne : bytes.take copied ≠ [] := by
    rw [← List.length_pos_iff, htaken]
    omega
  have hlength : (parser.header ++ bytes.take copied).length = parser.header.length + copied := by
    rw [List.length_append, htaken]
  refine ⟨bytes.take copied, hne, ?_⟩
  by_cases hmore : (parser.header ++ bytes.take copied).length ≠
      headerNeeded (parser.header ++ bytes.take copied)
  · rw [if_pos hmore]
    refine ⟨(List.take_append_drop _ _).symm, ?_⟩
    -- More bytes than the header needs are not taken.
    have hstill : (parser.header ++ bytes.take copied).length <
        headerNeeded (parser.header ++ bytes.take copied) := by
      have htwo := two_le_headerNeeded (parser.header ++ bytes.take copied)
      by_cases hshort : parser.header.length < 2
      · have hneeded := headerNeeded_short hshort
        omega
      · rw [headerNeeded_append (Nat.le_of_not_lt hshort)] at hmore ⊢
        omega
    rw [Lane.run_header (by rw [lane_remaining, hpayload]) (by rw [lane_header]; exact hstill),
      lane_header]
    unfold wireLane
    dsimp only
    rw [lane_with_header a _ hpayload]
  · rw [if_neg hmore]
    rw [not_not] at hmore
    refine ⟨(List.take_append_drop _ _).symm, ?_⟩
    rw [Lane.run_complete (by rw [lane_remaining, hpayload]) hne (by rw [lane_header]; exact hmore),
      lane_header, ← lane_with_header a _ hpayload, judge_lane]
    rfl

/-- A piece goes byte by byte. -/
theorem observeLoop_run (turns : Nat) {parser : WireParser} {a : WireAccounting}
    {bytes : List UInt8} (hturns : bytes.length ≤ turns)
    (hsound : Lane.Sound (limits.lane inbound) (a.lane inbound parser, none)) :
    wireLane inbound (observeLoop limits inbound turns (parser, a) bytes) =
      Lane.run (limits.lane inbound) (a.lane inbound parser, none) bytes := by
  -- By the turns: each takes at least one byte.
  induction turns generalizing parser a bytes with
  | zero =>
      rw [List.length_eq_zero_iff.mp (Nat.le_zero.mp hturns)]
      rfl
  | succ turns ih =>
      cases bytes with
      | nil => rfl
      | cons byte bytes =>
          have hopen := hsound.unfinished rfl
          dsimp only at hopen
          rw [lane_header] at hopen
          rcases observeTurn_run limits inbound a
            (List.cons_ne_nil byte bytes) hopen with ⟨taken, hne, hsplit, hturn⟩
          -- What is left is judged from where the turn ended.
          have hafter := hsound.run taken
          rw [← hturn] at hafter
          have hlength := congrArg List.length hsplit
          have hpos := List.length_pos_iff.mpr hne
          rw [List.length_append, List.length_cons] at hlength
          rw [List.length_cons] at hturns
          -- A turn that failed leaves the rest unread.
          rcases hresult : observeTurn limits inbound (parser, a) (byte :: bytes) with
            ⟨⟨⟨parser', a'⟩, _ | e⟩, rest⟩
          · rw [hresult] at hafter hlength hturn hsplit
            rw [observeLoop, hresult, hsplit, Lane.run_append, ← hturn]
            exact ih (by dsimp only at hlength; omega) hafter
          · rw [hresult] at hturn hsplit
            rw [observeLoop, hresult, hsplit, Lane.run_append, ← hturn]
            exact (Lane.run_error _ e rest).symm

/-- What a piece does in a direction, whatever was observed before. -/
theorem observe_run {parser : WireParser} {a : WireAccounting} {verdict : Option WireError}
    (hsound : Lane.Sound (limits.lane inbound) (a.lane inbound parser, verdict))
    {bytes : List UInt8} (hbytes : bytes ≠ []) :
    wireLane inbound (parser.observe limits inbound a bytes) =
      Lane.run (limits.lane inbound) (a.lane inbound parser, verdict) bytes := by
  unfold WireParser.observe
  cases verdict with
  | none => exact observeLoop_run bytes.length (Nat.le_refl _) hsound
  | some e =>
      -- The header is judged again.
      rcases hsound.stuck e rfl with ⟨hzero, hfull, hjudge⟩
      dsimp only at hzero hfull hjudge
      rw [lane_remaining] at hzero
      rw [lane_header] at hfull
      rcases parser with ⟨header, remaining⟩
      dsimp only at hzero hfull
      subst hzero
      rw [judge_lane, Prod.mk.injEq] at hjudge
      cases bytes with
      | nil => exact absurd rfl hbytes
      | cons byte bytes =>
          have hnone : min (headerNeeded header - header.length) (byte :: bytes).length = 0 := by
            omega
          have hturn : observeTurn limits inbound (⟨header, 0⟩, a) (byte :: bytes) =
              (a.judge limits inbound header, byte :: bytes) := by
            unfold observeTurn
            dsimp only
            rw [if_neg (not_not.mpr rfl), hnone, List.take_zero, List.append_nil,
              if_neg (not_not.mpr hfull), List.drop_zero]
          rw [List.length_cons, observeLoop, hturn, Lane.run_error]
          rcases hresult : a.judge limits inbound header with ⟨⟨parser', a'⟩, _ | e'⟩
          · rw [hresult] at hjudge
            cases hjudge.2
          · rw [hresult] at hjudge
            exact Prod.ext hjudge.1 hjudge.2

/-! ### The other direction -/

/-- What observing leaves alone, and what it records. -/
structure Leaves (inbound : Bool) (a : WireAccounting)
    (result : WireAccounting × Option WireError) : Prop where
  other : ∀ parser, result.1.lane (!inbound) parser = a.lane (!inbound) parser
  failure : result.1.failure = recordedFailure result.2 a.failure

theorem Leaves.refl (a : WireAccounting) : Leaves inbound a (a, none) :=
  ⟨fun _ => rfl, rfl⟩

theorem Leaves.trans {a b : WireAccounting} {result : WireAccounting × Option WireError}
    (h : Leaves inbound a (b, none)) (h' : Leaves inbound b result) : Leaves inbound a result := by
  have hsame : b.failure = a.failure := h.failure
  refine ⟨fun parser => (h'.other parser).trans (h.other parser), ?_⟩
  rw [h'.failure, hsame]

theorem leaves_consume (a : WireAccounting) (consumed : Nat) :
    Leaves inbound a (a.consume inbound consumed, none) := by
  cases inbound <;> exact ⟨fun _ => rfl, rfl⟩

variable (limits inbound) in
theorem leaves_charge (a : WireAccounting) (payload : Nat) :
    Leaves inbound a (a.charge limits inbound payload) := by
  unfold WireAccounting.charge
  cases inbound with
  | true =>
      simp only [if_true]
      split
      · exact ⟨fun _ => rfl, rfl⟩
      · split
        · exact ⟨fun _ => rfl, rfl⟩
        · exact ⟨fun _ => rfl, rfl⟩
  | false =>
      simp only [Bool.false_eq_true, if_false]
      split
      · exact ⟨fun _ => rfl, rfl⟩
      · split
        · exact ⟨fun _ => rfl, rfl⟩
        · exact ⟨fun _ => rfl, rfl⟩

theorem leaves_judge (a : WireAccounting) (header : List UInt8) :
    Leaves inbound a ((a.judge limits inbound header).1.2, (a.judge limits inbound header).2) := by
  unfold WireAccounting.judge
  cases payloadLength header with
  | none => exact ⟨fun _ => by cases inbound <;> rfl, rfl⟩
  | some payload =>
      have h := leaves_charge limits inbound a payload
      dsimp only
      rcases hcharge : a.charge limits inbound payload with ⟨a', _ | e⟩
      · rw [hcharge] at h
        exact h
      · rw [hcharge] at h
        exact h

variable (limits inbound) in
theorem leaves_turn (wire : WireParser × WireAccounting) (bytes : List UInt8) :
    Leaves inbound wire.2 ((observeTurn limits inbound wire bytes).1.1.2,
      (observeTurn limits inbound wire bytes).1.2) := by
  rcases wire with ⟨parser, a⟩
  unfold observeTurn
  dsimp only
  split
  · exact leaves_consume a _
  · split
    · exact Leaves.refl a
    · exact leaves_judge a _

variable (limits inbound) in
theorem leaves_loop (turns : Nat) (wire : WireParser × WireAccounting) (bytes : List UInt8) :
    Leaves inbound wire.2 ((observeLoop limits inbound turns wire bytes).1.2,
      (observeLoop limits inbound turns wire bytes).2) := by
  induction turns generalizing wire bytes with
  | zero => cases bytes <;> exact Leaves.refl wire.2
  | succ turns ih =>
      cases bytes with
      | nil => exact Leaves.refl wire.2
      | cons byte bytes =>
          have h := leaves_turn limits inbound wire (byte :: bytes)
          rw [observeLoop]
          rcases hresult : observeTurn limits inbound wire (byte :: bytes) with
            ⟨⟨wire', _ | e⟩, rest⟩
          · rw [hresult] at h
            exact h.trans (ih wire' rest)
          · rw [hresult] at h
            exact h

/-! ### Calls -/

theorem lane_call_self (s : AccountedStream) {c : StreamCall} {verdict : Option WireError}
    (hsound : Lane.Sound (limits.lane c.inbound) (s.lane c.inbound, verdict))
    (hbytes : c.bytes ≠ []) :
    ((s.call limits c).1.lane c.inbound, (s.call limits c).2) =
      Lane.run (limits.lane c.inbound) (s.lane c.inbound, verdict) c.bytes := by
  rcases c with ⟨_ | _, bytes⟩
  · exact observe_run hsound hbytes
  · exact observe_run hsound hbytes

theorem call_nil (s : AccountedStream) (inbound : Bool) : s.call limits ⟨inbound, []⟩ = (s, none) := by
  cases inbound <;> rfl

/-- A call leaves the other direction alone. -/
theorem lane_call_other (s : AccountedStream) {c : StreamCall} (h : c.inbound ≠ inbound) :
    (s.call limits c).1.lane inbound = s.lane inbound := by
  have hleaves := leaves_loop limits c.inbound c.bytes.length
    ((if c.inbound then s.inbound else s.outbound), s.accounting) c.bytes
  rcases c with ⟨_ | _, bytes⟩
  · cases inbound with
    | false => exact absurd rfl h
    | true => exact hleaves.other s.inbound
  · cases inbound with
    | false => exact hleaves.other s.outbound
    | true => exact absurd rfl h

variable (limits) in
/-- A call records its own rejection. -/
theorem failure_call (s : AccountedStream) (c : StreamCall) :
    (s.call limits c).1.accounting.failure =
      recordedFailure (s.call limits c).2 s.accounting.failure := by
  have hleaves := leaves_loop limits c.inbound c.bytes.length
    ((if c.inbound then s.inbound else s.outbound), s.accounting) c.bytes
  rcases c with ⟨_ | _, bytes⟩
  · exact hleaves.failure
  · exact hleaves.failure

theorem isSome_recordedFailure (e : Option WireError) {before : Option WebSocketTerminalCause}
    (h : before.isSome) : (recordedFailure e before).isSome := by
  rcases e with _ | _ | _
  · exact h
  · rfl
  · exact h

theorem sent_cons_self (c : StreamCall) (rest : List StreamCall) :
    sent c.inbound (c :: rest) = c.bytes ++ sent c.inbound rest := by
  unfold sent
  rw [List.filter_cons_of_pos (by simp), List.flatMap_cons]

theorem sent_cons_other {c : StreamCall} (h : c.inbound ≠ inbound) (rest : List StreamCall) :
    sent inbound (c :: rest) = sent inbound rest := by
  unfold sent
  rw [List.filter_cons_of_neg (by simpa using h)]

theorem firstError_cons_self (c : StreamCall) (e : Option WireError)
    (rest : List (StreamCall × Option WireError)) :
    firstError c.inbound ((c, e) :: rest) = e.or (firstError c.inbound rest) := by
  unfold firstError
  rw [List.filter_cons_of_pos (by simp), List.findSome?_cons]
  cases e <;> rfl

theorem firstError_cons_other {c : StreamCall} (h : c.inbound ≠ inbound) (e : Option WireError)
    (rest : List (StreamCall × Option WireError)) :
    firstError inbound ((c, e) :: rest) = firstError inbound rest := by
  unfold firstError
  rw [List.filter_cons_of_neg (by simpa using h)]

variable (limits inbound) in
/-- Pieces go byte by byte. -/
theorem calls_run (calls : List StreamCall) (s : AccountedStream) {verdict : Option WireError}
    (hsound : Lane.Sound (limits.lane inbound) (s.lane inbound, verdict)) :
    ((s.calls limits calls).1.lane inbound,
        verdict.or (firstError inbound (s.calls limits calls).2)) =
      Lane.run (limits.lane inbound) (s.lane inbound, verdict) (sent inbound calls) := by
  -- By the calls; those of the other direction leave this lane alone.
  induction calls generalizing s verdict with
  | nil =>
      change (s.lane inbound, verdict.or none) = (s.lane inbound, verdict)
      rw [Option.or_none]
  | cons c rest ih =>
      rw [AccountedStream.calls]
      dsimp only
      by_cases hc : c.inbound = inbound
      · subst hc
        rw [sent_cons_self, firstError_cons_self, Lane.run_append]
        by_cases hbytes : c.bytes = []
        · have hnil : s.call limits c = (s, none) := by
            rcases c with ⟨d, bytes⟩
            dsimp only at hbytes
            rw [hbytes, call_nil]
          rw [hnil, hbytes]
          exact ih s hsound
        · have hcall := lane_call_self s hsound hbytes
          have hafter := hsound.run c.bytes
          rw [← hcall] at hafter ⊢
          rw [← ih _ hafter]
          -- A lane that failed before stays failed.
          cases verdict with
          | none => rfl
          | some e =>
              rw [Lane.run_error] at hcall
              have herror : (s.call limits c).2 = some e := (Prod.mk.inj hcall).2
              rw [herror]
              rfl
      · rw [sent_cons_other hc, firstError_cons_other hc, ← lane_call_other s hc]
        refine ih _ ?_
        rw [lane_call_other s hc]
        exact hsound

variable (limits inbound) in
/-- After a rejection there is always one recorded. -/
theorem failure_calls (calls : List StreamCall) (s : AccountedStream) :
    (s.accounting.failure.isSome → (s.calls limits calls).1.accounting.failure.isSome) ∧
      ∀ cause, firstError inbound (s.calls limits calls).2 = some (.rejected cause) →
        (s.calls limits calls).1.accounting.failure.isSome := by
  -- By the calls: a failure that is recorded stays.
  induction calls generalizing s with
  | nil => exact ⟨id, nofun⟩
  | cons c rest ih =>
      rw [AccountedStream.calls]
      dsimp only
      have hfailure := failure_call limits s c
      rcases ih (s.call limits c).1 with ⟨hkeptRest, hrecordedRest⟩
      refine ⟨fun h => hkeptRest ?_, fun cause hcause => ?_⟩
      · rw [hfailure]
        exact isSome_recordedFailure _ h
      -- The error reported is of a call in this direction.
      by_cases hc : c.inbound = inbound
      · subst hc
        rw [firstError_cons_self] at hcause
        cases herror : (s.call limits c).2 with
        | none =>
            rw [herror] at hcause
            exact hrecordedRest cause hcause
        | some e =>
            rw [herror] at hcause hfailure
            cases hcause
            exact hkeptRest (by rw [hfailure]; rfl)
      · rw [firstError_cons_other hc] at hcause
        exact hrecordedRest cause hcause

variable (limits) in
/-- What is recorded was the first error of a direction: a direction that has
    met an error meets no other. -/
theorem recorded_calls (calls : List StreamCall) (s : AccountedStream)
    (verdicts : Bool → Option WireError)
    (hsound : ∀ d, Lane.Sound (limits.lane d) (s.lane d, verdicts d))
    (hbefore : ∀ cause, s.accounting.failure = some cause →
      ∃ d, verdicts d = some (.rejected cause))
    {cause : WebSocketTerminalCause}
    (h : (s.calls limits calls).1.accounting.failure = some cause) :
    ∃ d, (verdicts d).or (firstError d (s.calls limits calls).2) = some (.rejected cause) := by
  induction calls generalizing s verdicts with
  | nil =>
      rcases hbefore cause h with ⟨d, hd⟩
      exact ⟨d, by rw [hd]; rfl⟩
  | cons c rest ih =>
      rw [AccountedStream.calls] at h ⊢
      dsimp only at h ⊢
      by_cases hbytes : c.bytes = []
      · have hnil : s.call limits c = (s, none) := by
          rcases c with ⟨d, bytes⟩
          dsimp only at hbytes
          rw [hbytes, call_nil]
        rw [hnil] at h ⊢
        rcases ih s verdicts hsound hbefore h with ⟨d, hd⟩
        refine ⟨d, ?_⟩
        by_cases hc : c.inbound = d
        · subst hc
          rw [firstError_cons_self]
          exact hd
        · rw [firstError_cons_other hc]
          exact hd
      -- The direction of the call goes on, the other one stays.
      have hcall := lane_call_self s (hsound c.inbound) hbytes
      have hsame : ∀ e, verdicts c.inbound = some e → (s.call limits c).2 = some e := by
        intro e he
        rw [he, Lane.run_error] at hcall
        exact (Prod.mk.inj hcall).2
      have hnext (d : Bool) : Lane.Sound (limits.lane d) ((s.call limits c).1.lane d,
          if c.inbound = d then (s.call limits c).2 else verdicts d) := by
        by_cases hc : c.inbound = d
        · subst hc
          rw [if_pos rfl, hcall]
          exact (hsound c.inbound).run c.bytes
        · rw [if_neg hc, lane_call_other s hc]
          exact hsound d
      have hrecorded (cause : WebSocketTerminalCause)
          (hcause : (s.call limits c).1.accounting.failure = some cause) :
          ∃ d, (if c.inbound = d then (s.call limits c).2 else verdicts d) =
            some (.rejected cause) := by
        rw [failure_call] at hcause
        by_cases hown : (s.call limits c).2 = some (.rejected cause)
        · exact ⟨c.inbound, by rw [if_pos rfl]; exact hown⟩
        · have hkept : s.accounting.failure = some cause := by
            rcases herror : (s.call limits c).2 with _ | _ | _
            · rw [herror] at hcause
              exact hcause
            · rw [herror] at hcause hown
              cases hcause
              exact absurd rfl hown
            · rw [herror] at hcause
              exact hcause
          rcases hbefore cause hkept with ⟨d, hd⟩
          have hc : c.inbound ≠ d := fun hc => hown (hsame _ (hc ▸ hd))
          exact ⟨d, by rw [if_neg hc]; exact hd⟩
      rcases ih _ _ hnext hrecorded h with ⟨d, hd⟩
      refine ⟨d, ?_⟩
      by_cases hc : c.inbound = d
      · subst hc
        rw [if_pos rfl] at hd
        rw [firstError_cons_self]
        cases hverdict : verdicts c.inbound with
        | none => exact hd
        | some e =>
            rw [hsame e hverdict] at hd
            exact hd
      · rw [if_neg hc] at hd
        rw [firstError_cons_other hc]
        exact hd

theorem lane_new (inbound : Bool) : AccountedStream.new.lane inbound = Lane.after [] := by
  cases inbound <;> rfl

/-- What a direction has counted after some calls. -/
theorem calls_new (calls : List StreamCall) :
    ((AccountedStream.new.calls limits calls).1.lane inbound,
        firstError inbound (AccountedStream.new.calls limits calls).2) =
      Lane.run (limits.lane inbound) (Lane.after [], none) (sent inbound calls) := by
  have h := @calls_run limits inbound calls AccountedStream.new none
    (by rw [lane_new]; exact Lane.Sound.start)
  rw [lane_new] at h
  exact h

/-- The limits of both directions are unsigned 64-bit integers. -/
def WebSocketLimits.Fit (limits : WebSocketLimits) : Prop :=
  ∀ inbound, (limits.lane inbound).Fit

/-- The accounting is what it should be for all calls but those whose payloads
    leave 64 bits under the largest limit. -/
theorem metered_iff (hfit : limits.Fit) (calls : List StreamCall) :
    (∀ inbound, Metered limits calls inbound) ↔
      ∀ inbound, ¬ Overflows (limits.lane inbound) (sent inbound calls) := by
  constructor
  -- An overflow is the one verdict that metering excludes.
  · intro h inbound hoverflow
    have hnone := (h inbound).noOverflow
    rw [overflows_iff (hfit inbound), ← calls_new] at hoverflow
    exact hnone hoverflow
  · intro h inbound
    have hcalls := @calls_new limits inbound calls
    have hsound := (@Lane.Sound.start (limits.lane inbound)).run (sent inbound calls)
    rw [← hcalls] at hsound
    -- Without one, what the calls report is what the bytes announce.
    have hannounces := (announces_iff (hfit inbound)).mpr hcalls.symm
    have hno : firstError inbound (AccountedStream.new.calls limits calls).2 ≠ some .overflow := by
      intro hverdict
      refine h inbound ((overflows_iff (hfit inbound)).mpr ?_)
      rw [← hcalls]
      exact hverdict
    -- One call with all the bytes leaves the lane where the many calls left it.
    have hone : ((AccountedStream.new.call limits ⟨inbound, sent inbound calls⟩).1.lane inbound,
        (AccountedStream.new.call limits ⟨inbound, sent inbound calls⟩).2) =
        Lane.run (limits.lane inbound) (Lane.after [], none) (sent inbound calls) := by
      by_cases hempty : sent inbound calls = []
      · rw [hempty, call_nil, lane_new]
        rfl
      · rw [← lane_new inbound]
        refine lane_call_self (c := ⟨inbound, sent inbound calls⟩) AccountedStream.new ?_ hempty
        rw [lane_new]
        exact Lane.Sound.start
    rw [← hcalls, Prod.mk.injEq] at hone
    refine ⟨hone.1.symm, hone.2.symm, hannounces, hannounces.balanced, fun e he => ?_, hno,
      fun cause hcause => ?_⟩
    rotate_left
    · exact recorded_calls limits calls AccountedStream.new (fun _ => none)
        (fun d => by rw [lane_new]; exact Lane.Sound.start) nofun hcause
    -- The rest: the error of the call and what comes after it.
    refine ⟨?_, fun bytes hbytes => ?_⟩
    · cases e with
      | rejected cause => exact (failure_calls limits inbound calls AccountedStream.new).2 cause he
      | overflow => exact absurd he hno
    · have hcall := lane_call_self (c := ⟨inbound, bytes⟩) _ hsound hbytes
      dsimp only at hcall
      rw [he, Lane.run_error] at hcall
      exact ⟨(Prod.mk.inj hcall).2, (Prod.mk.inj hcall).1⟩

/-! ### The wire of a session -/

/-- A header is charged alike. -/
theorem charge_eq_reserve {a : WireAccounting} (hfailure : a.failure = none) {payload : Nat}
    (hno : (a.charge limits true payload).2 ≠ some .overflow) :
    (a.charge limits true payload).1 = a.reserveInbound limits payload ∧
      ((a.reserveInbound limits payload).failure.isSome ↔
        (a.charge limits true payload).2.isSome) := by
  unfold WireAccounting.charge at hno ⊢
  unfold WireAccounting.reserveInbound
  simp only [if_true] at hno ⊢
  by_cases hexceeds : WireAccounting.exceeds limits a.counters.inboundFrames a.inboundReservedBytes
      limits.maxInboundFrames limits.maxInboundBytes payload = true
  · simp only [hexceeds, if_true]
    exact ⟨trivial, iff_of_true rfl rfl⟩
  · simp only [hexceeds, Bool.false_eq_true, if_false] at hno ⊢
    by_cases hoverflow : u64Bound ≤ a.counters.inboundFrames + 1 ∨
        u64Bound ≤ a.inboundReservedBytes + payload
    · rw [if_pos hoverflow] at hno
      exact absurd rfl hno
    · rw [if_neg hoverflow, hfailure]
      exact ⟨rfl, iff_of_false Bool.false_ne_true Bool.false_ne_true⟩

/-- A byte of a session is a byte of the inbound direction. -/
theorem observeByte_lane {parser : WireParser} {a : WireAccounting} (hfailure : a.failure = none)
    (byte : UInt8)
    (hno : (Lane.byte (limits.lane true) (a.lane true parser, none) byte).2 ≠ some .overflow) :
    ((observeByte limits (parser, a) byte).2.lane true (observeByte limits (parser, a) byte).1 =
        (Lane.byte (limits.lane true) (a.lane true parser, none) byte).1) ∧
      ((observeByte limits (parser, a) byte).2.failure.isSome ↔
        (Lane.byte (limits.lane true) (a.lane true parser, none) byte).2.isSome) := by
  have hclean : ¬ a.failure.isSome := by rw [hfailure]; exact Bool.false_ne_true
  -- A byte of a payload only counts it down.
  by_cases hpayload : parser.payloadRemaining ≠ 0
  · have hlane : (a.lane true parser).remaining ≠ 0 := hpayload
    rw [Lane.byte_payload hlane, observeByte, if_neg hclean, if_pos hpayload]
    exact ⟨rfl, iff_of_false hclean Bool.false_ne_true⟩
  rw [not_not] at hpayload
  rcases parser with ⟨header, remaining⟩
  subst hpayload
  -- A header that is not complete grows by the byte.
  by_cases hmore : (header ++ [byte]).length ≠ headerNeeded (header ++ [byte])
  · have hbyte : Lane.byte (limits.lane true) (a.lane true ⟨header, 0⟩, none) byte =
        (a.lane true ⟨header ++ [byte], 0⟩, none) := if_pos hmore
    have hobserve : observeByte limits (⟨header, 0⟩, a) byte = (⟨header ++ [byte], 0⟩, a) := by
      rw [observeByte, if_neg hclean, if_neg (not_not.mpr rfl), if_pos hmore]
    rw [hbyte, hobserve]
    exact ⟨rfl, iff_of_false hclean Bool.false_ne_true⟩
  rw [not_not] at hmore
  have hbyte : Lane.byte (limits.lane true) (a.lane true ⟨header, 0⟩, none) byte =
      Lane.judge (limits.lane true) (a.lane true ⟨header ++ [byte], 0⟩) :=
    @Lane.byte_complete (limits.lane true) (a.lane true ⟨header, 0⟩) rfl byte hmore
  rw [hbyte, judge_lane] at hno ⊢
  rw [observeByte, if_neg hclean, if_neg (not_not.mpr rfl), if_neg (not_not.mpr hmore)]
  unfold WireAccounting.judge at hno ⊢
  -- A complete one is judged, and charged where it has a length.
  cases hsize : payloadLength (header ++ [byte]) with
  | none => exact ⟨rfl, iff_of_true rfl rfl⟩
  | some payload =>
      rw [hsize] at hno
      dsimp only at hno ⊢
      rcases hcharge : a.charge limits true payload with ⟨a', _ | e⟩
      · rw [hcharge] at hno
        rcases charge_eq_reserve hfailure (by rw [hcharge]; exact hno) with ⟨hsame, hfailed⟩
        rw [hcharge] at hsame hfailed
        rw [if_neg (mt hfailed.mp Bool.false_ne_true), ← hsame]
        rw [← hsame] at hfailed
        exact ⟨rfl, hfailed⟩
      · rw [hcharge] at hno
        rcases charge_eq_reserve hfailure (by rw [hcharge]; exact hno) with ⟨hsame, hfailed⟩
        rw [hcharge] at hsame hfailed
        rw [if_pos (hfailed.mpr rfl), ← hsame]
        rw [← hsame] at hfailed
        exact ⟨rfl, hfailed⟩

/-- The wire of a session counts what the inbound direction counts, unless a
    sum overflows. -/
theorem observe_lane {parser : WireParser} {a : WireAccounting} (hfailure : a.failure = none)
    (bytes : List UInt8)
    (hno : (Lane.run (limits.lane true) (a.lane true parser, none) bytes).2 ≠ some .overflow) :
    (observe limits (parser, a) bytes).2.lane true (observe limits (parser, a) bytes).1 =
        (Lane.run (limits.lane true) (a.lane true parser, none) bytes).1 ∧
      ((observe limits (parser, a) bytes).2.failure.isSome ↔
        (Lane.run (limits.lane true) (a.lane true parser, none) bytes).2.isSome) := by
  -- By the bytes, while nothing has failed.
  induction bytes generalizing parser a with
  | nil =>
      refine ⟨rfl, iff_of_false ?_ Bool.false_ne_true⟩
      change ¬ a.failure.isSome
      rw [hfailure]
      exact Bool.false_ne_true
  | cons byte rest ih =>
      rw [Lane.run_cons] at hno ⊢
      have hrest : observe limits (parser, a) (byte :: rest) =
          observe limits (observeByte limits (parser, a) byte) rest := rfl
      rw [hrest]
      -- The first byte alone overflows in neither.
      have hbyte : (Lane.byte (limits.lane true) (a.lane true parser, none) byte).2 ≠
          some .overflow := by
        intro hoverflow
        rcases hresult : Lane.byte (limits.lane true) (a.lane true parser, none) byte with ⟨lane, v⟩
        rw [hresult] at hno hoverflow
        dsimp only at hoverflow
        rw [hoverflow, Lane.run_error] at hno
        exact hno rfl
      rcases observeByte_lane hfailure byte hbyte with ⟨hlane, hfailed⟩
      rcases hwire : observeByte limits (parser, a) byte with ⟨parser', a'⟩
      rw [hwire] at hlane hfailed
      -- After a failure both sides stay as they are.
      rcases hresult : Lane.byte (limits.lane true) (a.lane true parser, none) byte with
        ⟨lane, _ | e⟩
      · rw [hresult] at hlane hfailed hno
        dsimp only at hlane hfailed
        rw [← hlane] at hno ⊢
        have hclean : a'.failure = none :=
          Option.not_isSome_iff_eq_none.mp (mt hfailed.mp Bool.false_ne_true)
        exact ih hclean hno
      · rw [hresult] at hlane hfailed
        rw [Lane.run_error, observe_of_failure (hfailed.mpr rfl)]
        exact ⟨hlane, hfailed⟩

end

/-! ### Examples -/

/-- Limits that are all alike. -/
def evenLimits (n : Nat) : WebSocketLimits := ⟨n, n, n, n, n, n, n, n, n, n, n, n, n⟩

theorem fit_evenLimits {n : Nat} (h : n < u64Bound) : (evenLimits n).Fit := by
  intro inbound
  cases inbound
  · exact ⟨h, h⟩
  · exact ⟨h, h⟩

/-- Below the largest limit nothing overflows. -/
theorem not_overflows_of_lt {limits : LaneLimits} (h : limits.maxBytes < u64Bound - 1)
    (bytes : List UInt8) : ¬ Overflows limits bytes := by
  rintro ⟨frames, header, n, rest, _, _, _, hoverflow⟩
  have hlimit := hoverflow.limit
  omega

/-- A frame of text comes in three pieces. -/
theorem metered_pieces : Metered (evenLimits 1000)
    [⟨true, [0x81]⟩, ⟨false, [0x88, 0x80]⟩, ⟨true, [0x02, 0x68]⟩, ⟨true, [0x69]⟩] true := by
  refine (metered_iff (fit_evenLimits (by decide)) _).mpr (fun inbound => ?_) true
  cases inbound
  · exact not_overflows_of_lt (by decide) _
  · exact not_overflows_of_lt (by decide) _

/-- A frame with the largest payload there is. -/
def largestFrame : Frame where
  header := ⟨0x82, 0x7f, [0x7f, 0xff, 0xff, 0xff, 0xff, 0xff, 0xff, 0xff], [], rfl, rfl⟩
  payload := List.replicate (2 ^ 63 - 1) 0
  size := by
    rw [List.length_replicate]
    decide

/-- The header of a frame of two bytes. -/
def smallHeader : FrameHeader := ⟨0x82, 0x02, [], [], rfl, rfl⟩

/-- Two of the largest frames and a small one leave 64 bits. -/
theorem payloads_overflow : ¬ ∀ inbound, Metered (evenLimits (u64Bound - 1))
    [⟨true, frameBytes [largestFrame, largestFrame] ++ smallHeader.bytes⟩] inbound := by
  rw [metered_iff (fit_evenLimits (by decide))]
  intro h
  have hsizes : sizes [largestFrame, largestFrame] = [2 ^ 63 - 1, 2 ^ 63 - 1] := by
    simp only [sizes, List.map_cons, List.map_nil, largestFrame, List.length_replicate]
  refine h true ⟨[largestFrame, largestFrame], smallHeader, 2, [], ?_, rfl, ?_, ?_⟩
  · rw [List.append_nil]
    change _ ++ [] = _
    rw [List.append_nil]
  · rw [hsizes]
    exact ⟨by decide, by decide, by decide⟩
  · rw [hsizes]
    exact ⟨by decide, by decide, rfl, by decide⟩

end Kahea
