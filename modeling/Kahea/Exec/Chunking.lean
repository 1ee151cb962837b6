import Kahea.Exec.Alongside
import Kahea.Exec.Soundness

/-!
# Splits of a Stream

What the cutting of the inbound stream into reads means to a session.

The socket delivers the messages of the bytes it has been given, in order, so
the messages of a session are those of its stream. The accounting, though,
charges a whole read before the socket sees any of it: when a frame in it is
beyond the limits, the messages that end before that frame in the same read
are lost (`outlook_script`).

## Main definitions

* `Split`: A stream, cut into the bytes that come with the handshake and reads.
* `Split.script`: What a socket meets over a split.
* `Split.before`: The bytes of the reads before a failure of the wire.
* `Split.Undisturbed`: No message is lost.

## Theorems

* `outlook_script`: The outlook of a session over a split.
* `splits_same_verdict`: Undisturbed sessions over one stream end alike.
-/

namespace Kahea

/-- A stream of bytes, cut into what comes with the handshake and the reads. -/
structure Split where
  buffered : List UInt8
  reads : List (List UInt8)

namespace Split

/-- The bytes of the stream. -/
def bytes (x : Split) : List UInt8 := x.buffered ++ x.reads.flatten

end Split

section

variable (decode : List UInt8 → List (Except SocketError Message)) (ending : StreamError)

/-- What a socket meets over the reads left, when it has been given some bytes
    and has taken some pieces for the message to come. The stream ends in some
    way after the last read. -/
def arrivalsFrom : List UInt8 → List (List UInt8) → List (List UInt8) → List Arrival
  | _, pieces, [] => [⟨pieces, .error (.stream ending)⟩]
  | seen, pieces, chunk :: rest =>
      match (decode (seen ++ chunk)).drop (decode seen).length with
      | [] => arrivalsFrom (seen ++ chunk) (pieces ++ [chunk]) rest
      | result :: more =>
          ⟨pieces ++ [chunk], result⟩ :: (more.map (fun r => ⟨[], r⟩) ++
            arrivalsFrom (seen ++ chunk) [] rest)

/-- What a socket meets over a split, given what it decodes. -/
def Split.script (x : Split) (sends : List (Option StreamError)) : SessionScript :=
  { arrivals := (decode x.buffered).map (fun r => ⟨[], r⟩) ++
      arrivalsFrom decode ending x.buffered [] x.reads
    sends := sends }

end

section

variable (limits : WebSocketLimits)

/-- The wire after the first bytes of a stream. -/
def wireAfter (bytes : List UInt8) : WireParser × WireAccounting :=
  observe limits (WireParser.new, WireAccounting.default) bytes

/-- The bytes before the one on which the wire fails. -/
def cleanFrom (wire : WireParser × WireAccounting) : List UInt8 → List UInt8
  | [] => []
  | byte :: rest =>
      if (observeByte limits wire byte).2.failure.isSome then []
      else byte :: cleanFrom (observeByte limits wire byte) rest

/-- The bytes of a stream before the one on which the wire fails. -/
def cleanPart (bytes : List UInt8) : List UInt8 :=
  cleanFrom limits (WireParser.new, WireAccounting.default) bytes

/-- The bytes of the reads before the one on which the wire fails. -/
def beforeFailure : List UInt8 → List (List UInt8) → List UInt8
  | seen, [] => seen
  | seen, chunk :: rest =>
      if (wireAfter limits (seen ++ chunk)).2.failure.isSome then seen
      else beforeFailure (seen ++ chunk) rest

namespace Split

variable (decode : List UInt8 → List (Except SocketError Message)) (x : Split)

/-- The bytes a session is handed before the read on which the wire fails. -/
def before : List UInt8 := beforeFailure limits x.buffered x.reads

/-- A session that reads so often is undisturbed: the read on which the wire
    fails brings the end of no message before the failure, or it is not made. -/
def Undisturbed (reads : Nat) : Prop :=
  decode (x.before limits) = decode (cleanPart limits x.bytes) ∨
    reads ≤ (decode (x.before limits)).length

end Split

end

/-! ### The outlook of a split -/

section

variable {limits : WebSocketLimits} {decode : List UInt8 → List (Except SocketError Message)}
  {ending : StreamError}

theorem wireAfter_append (xs ys : List UInt8) :
    wireAfter limits (xs ++ ys) = observe limits (wireAfter limits xs) ys :=
  observe_append _ xs ys

/-- How the outlook of a stream ends. -/
def lastOutlook (limits : WebSocketLimits) (ending : StreamError) (bytes : List UInt8) :
    Except WebSocketTerminalCause (Except SocketError Message) :=
  match (wireAfter limits bytes).2.failure with
  | some cause => .error cause
  | none => .ok (.error (.stream ending))

/-- Results that take nothing from the stream. -/
theorem outlook_ready {wire : WireParser × WireAccounting} (h : wire.2.failure = none)
    (results : List (Except SocketError Message)) (rest : List Arrival) :
    outlook limits wire (results.map (fun r => ⟨[], r⟩) ++ rest) =
      results.map .ok ++ outlook limits wire rest := by
  induction results with
  | nil => rfl
  | cons result more ih =>
      have hsame : observe limits wire ([] : List (List UInt8)).flatten = wire := rfl
      rw [List.map_cons, List.cons_append, outlook_cons h, hsame, h, ih]
      rfl

theorem failure_of_observe {wire : WireParser × WireAccounting} {bytes : List UInt8}
    (h : (observe limits wire bytes).2.failure = none) : wire.2.failure = none := by
  by_contra hne
  rw [observe_of_failure (Option.isSome_iff_ne_none.mpr hne)] at h
  exact hne h

/-- Pieces after a failure change nothing. -/
theorem observe_pieces {wire : WireParser × WireAccounting} {pieces : List (List UInt8)}
    {cause : WebSocketTerminalCause} (h : (observe limits wire pieces.flatten).2.failure = some cause)
    (more : List (List UInt8)) :
    (observe limits wire (pieces ++ more).flatten).2.failure = some cause := by
  have hsome : (observe limits wire pieces.flatten).2.failure.isSome := by
    rw [h]
    rfl
  rw [List.flatten_append, observe_failure_append hsome]
  exact h

/-- A read on which the wire fails is the last of the outlook. -/
theorem outlook_failing {wire : WireParser × WireAccounting} (hclean : wire.2.failure = none)
    {arrival : Arrival} {cause : WebSocketTerminalCause}
    (h : (observe limits wire arrival.pieces.flatten).2.failure = some cause) (rest : List Arrival) :
    outlook limits wire (arrival :: rest) = [.error cause] := by
  rw [outlook_cons hclean, h, outlook_of_failure h]
  rfl

/-- So is one that takes on from pieces on which the wire has failed. -/
theorem outlook_arrivalsFrom_failing {wire : WireParser × WireAccounting}
    (hclean : wire.2.failure = none) {seen : List UInt8} {pieces chunks : List (List UInt8)}
    {cause : WebSocketTerminalCause}
    (h : (observe limits wire pieces.flatten).2.failure = some cause) :
    outlook limits wire (arrivalsFrom decode ending seen pieces chunks) = [.error cause] := by
  induction chunks generalizing seen pieces with
  | nil => exact outlook_failing hclean h []
  | cons chunk rest ih =>
      unfold arrivalsFrom
      split
      · exact ih (observe_pieces h [chunk])
      · exact outlook_failing hclean (observe_pieces h [chunk]) _

theorem beforeFailure_eq_append (seen : List UInt8) (chunks : List (List UInt8)) :
    ∃ more, beforeFailure limits seen chunks = seen ++ more := by
  induction chunks generalizing seen with
  | nil => exact ⟨[], (List.append_nil seen).symm⟩
  | cons chunk rest ih =>
      unfold beforeFailure
      split
      · exact ⟨[], (List.append_nil seen).symm⟩
      · rcases ih (seen ++ chunk) with ⟨more, hmore⟩
        exact ⟨chunk ++ more, by rw [hmore, List.append_assoc]⟩

/-- What is left of the outlook over the reads left: the messages that end
    before the read on which the wire fails. -/
theorem outlook_arrivalsFrom (hdecode : ∀ xs ys, decode xs <+: decode (xs ++ ys))
    {wire : WireParser × WireAccounting} {seen : List UInt8} {pieces chunks : List (List UInt8)}
    (hwire : observe limits wire pieces.flatten = wireAfter limits seen)
    (hclean : (wireAfter limits seen).2.failure = none) :
    outlook limits wire (arrivalsFrom decode ending seen pieces chunks) =
      ((decode (beforeFailure limits seen chunks)).drop (decode seen).length).map .ok ++
        [lastOutlook limits ending (seen ++ chunks.flatten)] := by
  -- By the chunks, what was seen before being part of the statement.
  induction chunks generalizing wire seen pieces with
  | nil =>
      have hstart : wire.2.failure = none := failure_of_observe (by rw [hwire]; exact hclean)
      simp only [arrivalsFrom, beforeFailure, List.drop_length, List.map_nil, List.nil_append,
        List.flatten_nil, List.append_nil, lastOutlook, hclean]
      rw [outlook_cons hstart, hwire, hclean]
      simp only [outlook, hclean, Option.isSome_none, Bool.false_eq_true, if_false,
        Option.toList_none, List.map_nil, List.append_nil]
  | cons chunk rest ih =>
      have hstart : wire.2.failure = none := failure_of_observe (by rw [hwire]; exact hclean)
      have hnext : observe limits wire (pieces ++ [chunk]).flatten =
          wireAfter limits (seen ++ chunk) := by
        rw [List.flatten_append, List.flatten_singleton, observe_append, hwire, wireAfter_append]
      -- Either the accounting fails in this chunk, and it is the last one looked at.
      cases hfailure : (wireAfter limits (seen ++ chunk)).2.failure with
      | some cause =>
          have hsome : (wireAfter limits (seen ++ chunk)).2.failure.isSome := by
            rw [hfailure]
            rfl
          have hlast : lastOutlook limits ending (seen ++ (chunk :: rest).flatten) = .error cause := by
            have hwhole : wireAfter limits (seen ++ (chunk :: rest).flatten) =
                wireAfter limits (seen ++ chunk) := by
              rw [List.flatten_cons, ← List.append_assoc, wireAfter_append, observe_of_failure hsome]
            simp only [lastOutlook, hwhole, hfailure]
          have hbefore : beforeFailure limits seen (chunk :: rest) = seen := by
            rw [beforeFailure, if_pos hsome]
          have hfails : (observe limits wire (pieces ++ [chunk]).flatten).2.failure = some cause := by
            rw [hnext]
            exact hfailure
          rw [hlast, hbefore, List.drop_length]
          unfold arrivalsFrom
          split
          · exact outlook_arrivalsFrom_failing hstart hfails
          · exact outlook_failing hstart hfails _
      | none =>
          -- Or it does not, and what is decoded now is kept by every longer stream.
          have hbefore : beforeFailure limits seen (chunk :: rest) =
              beforeFailure limits (seen ++ chunk) rest := by
            rw [beforeFailure, hfailure]
            rfl
          have hbytes : seen ++ (chunk :: rest).flatten = (seen ++ chunk) ++ rest.flatten := by
            rw [List.flatten_cons, List.append_assoc]
          rcases hdecode seen chunk with ⟨fresh, hfresh⟩
          have hdrop : (decode (seen ++ chunk)).drop (decode seen).length = fresh := by
            rw [← hfresh, List.drop_left]
          rw [hbefore, hbytes]
          unfold arrivalsFrom
          rw [hdrop]
          -- The chunk may complete no message, one or several.
          cases fresh with
          | nil =>
              rw [List.append_nil] at hfresh
              simp only
              rw [ih hnext hfailure, hfresh]
          | cons result more =>
              have hmore : ∃ tail, beforeFailure limits (seen ++ chunk) rest = seen ++ chunk ++ tail :=
                beforeFailure_eq_append _ _
              rcases hmore with ⟨tail, htail⟩
              rcases hdecode (seen ++ chunk) tail with ⟨later, hlater⟩
              have hall : (decode (seen ++ chunk ++ tail)).drop (decode seen).length =
                  result :: (more ++ later) := by
                rw [← hlater, ← hfresh, List.append_assoc, List.drop_left, List.cons_append]
              have hlate : (decode (seen ++ chunk ++ tail)).drop (decode (seen ++ chunk)).length =
                  later := by
                rw [← hlater, List.drop_left]
              have hnil : observe limits (wireAfter limits (seen ++ chunk)) ([] : List (List UInt8)).flatten =
                  wireAfter limits (seen ++ chunk) := rfl
              have hrest := ih hnil hfailure
              simp only
              rw [outlook_cons hstart, hnext, hfailure, outlook_ready hfailure, hrest, htail, hall,
                hlate]
              simp only [Option.isSome_none, Bool.false_eq_true, if_false, List.cons_append,
                List.nil_append, List.map_cons, List.map_append, List.append_assoc]

/-- The outlook of a session over a split: the messages that end before the
    read on which the wire fails. -/
theorem outlook_script (hdecode : ∀ xs ys, decode xs <+: decode (xs ++ ys)) {x : Split}
    (hclean : (wireAfter limits x.buffered).2.failure = none) (sends : List (Option StreamError)) :
    outlook limits (wireAfter limits x.buffered) (x.script decode ending sends).arrivals =
      (decode (x.before limits)).map .ok ++ [lastOutlook limits ending x.bytes] := by
  have hbefore : ∃ more, beforeFailure limits x.buffered x.reads = x.buffered ++ more :=
    beforeFailure_eq_append _ _
  rcases hbefore with ⟨more, hmore⟩
  rcases hdecode x.buffered more with ⟨later, hlater⟩
  have hnil : observe limits (wireAfter limits x.buffered) ([] : List (List UInt8)).flatten =
      wireAfter limits x.buffered := rfl
  unfold Split.script Split.before Split.bytes
  rw [outlook_ready hclean, outlook_arrivalsFrom hdecode hnil hclean, hmore, ← hlater, List.drop_left,
    List.map_append, List.append_assoc]

/-! ### The clean part of a stream -/

theorem cleanFrom_append {wire : WireParser × WireAccounting} {xs : List UInt8}
    (h : (observe limits wire xs).2.failure = none) (ys : List UInt8) :
    cleanFrom limits wire (xs ++ ys) = xs ++ cleanFrom limits (observe limits wire xs) ys := by
  induction xs generalizing wire with
  | nil => rfl
  | cons byte rest ih =>
      have hrest : (observe limits (observeByte limits wire byte) rest).2.failure = none := h
      have hbyte : (observeByte limits wire byte).2.failure = none := failure_of_observe hrest
      rw [List.cons_append, cleanFrom, hbyte]
      simp only [Option.isSome_none, Bool.false_eq_true, if_false]
      rw [ih hrest]
      rfl

theorem cleanFrom_clean {wire : WireParser × WireAccounting} (h : wire.2.failure = none)
    (bytes : List UInt8) :
    (observe limits wire (cleanFrom limits wire bytes)).2.failure = none := by
  induction bytes generalizing wire with
  | nil => exact h
  | cons byte rest ih =>
      unfold cleanFrom
      split
      · exact h
      · rename_i hbyte
        rw [Bool.not_eq_true, Option.isSome_eq_false_iff, Option.isNone_iff_eq_none] at hbyte
        exact ih hbyte

theorem cleanFrom_isPrefixOf (wire : WireParser × WireAccounting) (bytes : List UInt8) :
    cleanFrom limits wire bytes <+: bytes := by
  induction bytes generalizing wire with
  | nil => exact List.prefix_rfl
  | cons byte rest ih =>
      unfold cleanFrom
      split
      · exact List.nil_prefix
      · exact List.cons_prefix_cons.mpr ⟨rfl, ih _⟩

/-- The reads before a failure are clean, and the first ones of the stream. -/
theorem beforeFailure_clean {seen : List UInt8} (h : (wireAfter limits seen).2.failure = none)
    (chunks : List (List UInt8)) :
    (wireAfter limits (beforeFailure limits seen chunks)).2.failure = none ∧
      beforeFailure limits seen chunks <+: seen ++ chunks.flatten := by
  induction chunks generalizing seen with
  | nil => exact ⟨h, List.prefix_append _ _⟩
  | cons chunk rest ih =>
      unfold beforeFailure
      split
      · exact ⟨h, List.prefix_append _ _⟩
      · rename_i hchunk
        rw [Bool.not_eq_true, Option.isSome_eq_false_iff, Option.isNone_iff_eq_none] at hchunk
        rw [List.flatten_cons, ← List.append_assoc]
        exact ih hchunk

/-- What is handed to a session before a failure is part of the clean part. -/
theorem before_isPrefixOf_cleanPart {x : Split} (h : (wireAfter limits x.buffered).2.failure = none) :
    x.before limits <+: cleanPart limits x.bytes := by
  rcases beforeFailure_clean h x.reads with ⟨hclean, more, hmore⟩
  have hbytes : x.bytes = beforeFailure limits x.buffered x.reads ++ more := hmore.symm
  rw [hbytes]
  unfold cleanPart Split.before
  rw [cleanFrom_append hclean]
  exact List.prefix_append _ _

/-- A stream cut where the wire fails. -/
def partedAt (limits : WebSocketLimits) (bytes : List UInt8) : Split :=
  ⟨cleanPart limits bytes, [bytes.drop (cleanPart limits bytes).length]⟩

theorem bytes_partedAt (bytes : List UInt8) : (partedAt limits bytes).bytes = bytes := by
  have hclean : cleanPart limits bytes <+: bytes := cleanFrom_isPrefixOf _ _
  unfold partedAt Split.bytes
  rw [List.flatten_singleton]
  exact List.prefix_iff_eq_append.mp hclean

theorem partedAt_clean (bytes : List UInt8) :
    (wireAfter limits (partedAt limits bytes).buffered).2.failure = none :=
  cleanFrom_clean rfl bytes

theorem before_partedAt (bytes : List UInt8) :
    (partedAt limits bytes).before limits = cleanPart limits bytes := by
  have hbytes : (partedAt limits bytes).bytes = bytes := bytes_partedAt bytes
  have hparted : (partedAt limits bytes).before limits <+:
      cleanPart limits (partedAt limits bytes).bytes := before_isPrefixOf_cleanPart (partedAt_clean bytes)
  rw [hbytes] at hparted
  have hmore : ∃ more, (partedAt limits bytes).before limits =
      cleanPart limits bytes ++ more := beforeFailure_eq_append _ _
  rcases hmore with ⟨more, hmore⟩
  exact List.IsPrefix.eq_of_length_le hparted (by
    rw [hmore, List.length_append]
    omega)

/-! ### Verdicts -/

/-- A connection whose handshake came with the first bytes of a split. -/
def WebSocketConnection.OpenedOn (limits : WebSocketLimits) (x : Split)
    (connection : WebSocketConnection) : Prop :=
  connection.accounting.failure = none ∧
    (connection.parser, connection.accounting) = wireAfter limits x.buffered

/-- The session over a split and the one over the stream cut where the wire
    fails are side by side. -/
theorem alongside_parted (hdecode : ∀ xs ys, decode xs <+: decode (xs ++ ys)) {x : Split}
    {connection other : WebSocketConnection} (h : connection.OpenedOn limits x)
    (hother : other.OpenedOn limits (partedAt limits x.bytes)) {bound : Nat}
    (hundisturbed : x.Undisturbed limits decode bound) (sends : List (Option StreamError)) :
    Alongside limits bound (connection.start (x.script decode ending sends))
      (other.start ((partedAt limits x.bytes).script decode ending sends)) := by
  have hclean : (wireAfter limits x.buffered).2.failure = none := by
    rw [← h.2]
    exact h.1
  -- Nothing has been sent when the session starts.
  have houtbound : ∀ {y : Split} {c : WebSocketConnection}, c.OpenedOn limits y →
      c.accounting.outbound = (0, 0, 0) := by
    intro y c hc
    have hwire := congrArg (fun wire => wire.2.outbound) hc.2
    simp only [wireAfter, observe_outbound] at hwire
    exact hwire
  refine
    { sends := rfl
      failure := h.1.trans hother.1.symm
      outbound := (houtbound h).trans (houtbound hother).symm
      outboundFrames := rfl
      outboundBytes := rfl
      outboundMessages := rfl
      inboundMessages := rfl
      outlook := ?_ }
  -- Both outlooks are the same messages, followed by what the stream ends with.
  have hlook : (connection.start (x.script decode ending sends)).outlook limits =
      (decode (x.before limits)).map .ok ++ [lastOutlook limits ending x.bytes] := by
    change outlook limits (connection.parser, connection.accounting)
      (x.script decode ending sends).arrivals = _
    rw [h.2, outlook_script hdecode hclean]
  have hlook' : (other.start ((partedAt limits x.bytes).script decode ending sends)).outlook limits =
      (decode (cleanPart limits x.bytes)).map .ok ++ [lastOutlook limits ending x.bytes] := by
    change outlook limits (other.parser, other.accounting)
      ((partedAt limits x.bytes).script decode ending sends).arrivals = _
    rw [hother.2, outlook_script hdecode (partedAt_clean _), before_partedAt, bytes_partedAt]
  rw [hlook, hlook']
  -- The split may have one more message in view, beyond the reads made.
  rcases hundisturbed with hsame | hfew
  · rw [hsame]
  · rcases before_isPrefixOf_cleanPart hclean with ⟨more, hmore⟩
    rcases hdecode (x.before limits) more with ⟨later, hlater⟩
    have hle : bound - 0 ≤ ((decode (x.before limits)).map
        (Except.ok : _ → Except WebSocketTerminalCause (Except SocketError Message))).length := by
      rw [List.length_map]
      exact hfew
    change List.take (bound - 0) _ = List.take (bound - 0) _
    rw [← hmore, ← hlater, List.map_append, List.append_assoc, List.take_append_of_le_length hle,
      List.take_append_of_le_length hle]

/-- The verdict of a session, undisturbed over its split, is that of the
    session over the stream cut where the wire fails. -/
theorem verdict_parted (hdecode : ∀ xs ys, decode xs <+: decode (xs ++ ys)) {lib : Crates}
    {actions : List WebSocketAction} {x : Split} {connection other : WebSocketConnection}
    (h : connection.OpenedOn limits x) (hother : other.OpenedOn limits (partedAt limits x.bytes))
    {sends : List (Option StreamError)} {terminal : SessionTerminal} {state : SessionState}
    (hrun : runActions lib limits 0 actions (connection.start (x.script decode ending sends)) =
      .ok (terminal, state)) (hundisturbed : x.Undisturbed limits decode state.reads) :
    ∃ t, runActions lib limits 0 actions
      (other.start ((partedAt limits x.bytes).script decode ending sends)) = .ok (terminal, t) :=
  runActions_alongside (alongside_parted hdecode h hother hundisturbed sends) hrun le_rfl

/-- Two sessions of one plan over the same stream report the same outcome,
    cause and exit, however the stream is split, as long as both are
    undisturbed. -/
theorem splits_same_verdict (hdecode : ∀ xs ys, decode xs <+: decode (xs ++ ys)) {lib : Crates}
    {plan : WebSocketPlan} {sends : List (Option StreamError)} {x y : Split}
    (hstream : x.bytes = y.bytes) {c d : WebSocketConnection} (hc : c.OpenedOn plan.limits x)
    (hd : d.OpenedOn plan.limits y) {world : World} {past past' : List Event}
    {first second : WebSocketObservation}
    (hfirst : (executeConnectedWebsocket lib (world.meeting (x.script decode ending sends)) plan c
      past).1 = .ok (.observation first))
    (hsecond : (executeConnectedWebsocket lib (world.meeting (y.script decode ending sends)) plan d
      past').1 = .ok (.observation second))
    (hx : ∀ terminal state, runActions lib plan.limits 0 plan.actions
      (c.start (x.script decode ending sends)) = .ok (terminal, state) →
        x.Undisturbed plan.limits decode state.reads)
    (hy : ∀ terminal state, runActions lib plan.limits 0 plan.actions
      (d.start (y.script decode ending sends)) = .ok (terminal, state) →
        y.Undisturbed plan.limits decode state.reads) :
    first.outcome = second.outcome ∧ first.terminalCause = second.terminalCause ∧
      first.exit = second.exit := by
  rcases executeConnectedWebsocket_ok hfirst with ⟨t, s, hrun, _, _, rfl⟩
  rcases executeConnectedWebsocket_ok hsecond with ⟨t', s', hrun', _, _, rfl⟩
  let wire := wireAfter plan.limits (cleanPart plan.limits x.bytes)
  -- Both runs are compared with one split, the one that depends on the bytes only.
  have hparted : (⟨c.metadata, wire.1, wire.2, []⟩ : WebSocketConnection).OpenedOn plan.limits
      (partedAt plan.limits x.bytes) := ⟨partedAt_clean x.bytes, rfl⟩
  have hleft := verdict_parted hdecode hc hparted hrun (hx t s hrun)
  rw [hstream] at hleft hparted
  have hright := verdict_parted hdecode hd hparted hrun' (hy t' s' hrun')
  rcases hleft with ⟨u, hu⟩
  rcases hright with ⟨v, hv⟩
  have hsame : t = t' := (Prod.mk.inj (Except.ok.inj (hu.symm.trans hv))).1
  rw [hsame]
  exact ⟨rfl, rfl, rfl⟩

end

/-! ### A stream of three frames -/

/-- What a socket makes of a short frame that is neither masked nor part of a
    longer message. -/
def frameMessage (opcode : UInt8) (payload : List UInt8) : Except SocketError Message :=
  if opcode = 0x81 then
    match fromUtf8 payload with
    | some text => .ok (.text text)
    | none => .error (.stream .protocol)
  else if opcode = 0x82 then .ok (.binary payload)
  else if opcode = 0x88 then
    match payload with
    | [] => .ok (.close none)
    | high :: low :: reason => .ok (.close (some (256 * high.toNat + low.toNat, fromUtf8Lossy reason)))
    | _ => .error (.stream .protocol)
  else if opcode = 0x89 then .ok (.ping payload)
  else if opcode = 0x8a then .ok (.pong payload)
  else .error (.stream .protocol)

/-- One byte of a stream of short frames: the frame so far and the messages. -/
def decodeByte : List UInt8 × List (Except SocketError Message) → UInt8 →
    List UInt8 × List (Except SocketError Message)
  | (frame, messages), byte =>
      match frame ++ [byte] with
      | opcode :: size :: payload =>
          if payload.length = size.toNat then ([], messages ++ [frameMessage opcode payload])
          else (frame ++ [byte], messages)
      | short => (short, messages)

/-- The messages of a stream of short frames. -/
def decodeFrames (bytes : List UInt8) : List (Except SocketError Message) :=
  (bytes.foldl decodeByte ([], [])).2

/-- More bytes only bring more messages. -/
theorem decodeFrames_isPrefixOf (xs ys : List UInt8) : decodeFrames xs <+: decodeFrames (xs ++ ys) := by
  have hstep : ∀ (state : List UInt8 × List (Except SocketError Message)) (byte : UInt8),
      state.2 <+: (decodeByte state byte).2 := by
    intro state byte
    unfold decodeByte
    split
    split
    · split
      · exact List.prefix_append _ _
      · exact List.prefix_rfl
    · exact List.prefix_rfl
  have hfold : ∀ (bytes : List UInt8) (state : List UInt8 × List (Except SocketError Message)),
      state.2 <+: (bytes.foldl decodeByte state).2 := by
    intro bytes
    induction bytes with
    | nil => exact fun state => List.prefix_rfl
    | cons byte rest ih => exact fun state => (hstep state byte).trans (ih _)
  unfold decodeFrames
  rw [List.foldl_append]
  exact hfold ys _

/-- A greeting, a close and a ping. -/
def greetingFrame : List UInt8 := [0x81, 0x02, 0x68, 0x69]

def closingFrame : List UInt8 := [0x88, 0x02, 0x03, 0xe8]

def pingFrame : List UInt8 := [0x89, 0x00]

/-- The verdict of the greeting session over a split, when a session may read
    so many frames. -/
def greetingVerdict (frames : Nat) (x : Split) : Option (SessionTerminal × Nat) :=
  (runActions referenceCrates (sessionLimits frames 125) 0 greetingActions
    (sessionConnection.start (x.script decodeFrames .endOfFile []))).toOption.map
      (fun r => (r.1, r.2.reads))

/-- The session over a split, in an outside that brings nothing else. -/
def greetingSession (x : Split) : Except ExecError WebSocketConnectResult :=
  (executeConnectedWebsocket referenceCrates
    (referenceWorld.meeting (x.script decodeFrames .endOfFile []))
    (sessionPlan (sessionLimits 2 125) greetingActions) sessionConnection []).1

/-- The greeting and the close in one read or in two: the verdict is the same,
    and it is a pass. -/
theorem splits_same_verdict_greeting :
    ∃ first second,
      greetingSession ⟨[], [greetingFrame, closingFrame, pingFrame]⟩ = .ok (.observation first) ∧
      greetingSession ⟨[], [greetingFrame ++ closingFrame, pingFrame]⟩ = .ok (.observation second) ∧
      first.outcome = .passed ∧ first.outcome = second.outcome ∧
      first.terminalCause = second.terminalCause ∧ first.exit = second.exit := by
  -- Both sessions pass.
  have hrun : (greetingSession ⟨[], [greetingFrame, closingFrame, pingFrame]⟩).toOption.map
      WebSocketConnectResult.outcome = some (some .passed) := by
    decide +kernel
  have hrun' : (greetingSession ⟨[], [greetingFrame ++ closingFrame, pingFrame]⟩).toOption.map
      WebSocketConnectResult.outcome = some (some .passed) := by
    decide +kernel
  rcases exists_ok_of_toOption hrun with ⟨result, hok, houtcome⟩
  rcases exists_ok_of_toOption hrun' with ⟨result', hok', houtcome'⟩
  rcases WebSocketConnectResult.outcome_some houtcome with ⟨first, rfl, hpassed⟩
  rcases WebSocketConnectResult.outcome_some houtcome' with ⟨second, rfl, _⟩
  -- The bytes are the same, split in two places.
  have hstream : (Split.mk [] [greetingFrame, closingFrame, pingFrame]).bytes =
      (Split.mk [] [greetingFrame ++ closingFrame, pingFrame]).bytes := rfl
  have hopened : ∀ {reads : List (List UInt8)},
      sessionConnection.OpenedOn (sessionPlan (sessionLimits 2 125) greetingActions).limits ⟨[], reads⟩ :=
    ⟨rfl, rfl⟩
  -- In both splits all that is read was decoded before the reads differ.
  have hx : decodeFrames
      ((Split.mk [] [greetingFrame, closingFrame, pingFrame]).before (sessionLimits 2 125)) =
        decodeFrames (cleanPart (sessionLimits 2 125)
          (Split.mk [] [greetingFrame, closingFrame, pingFrame]).bytes) := by
    decide +kernel
  have hy : decodeFrames
      ((Split.mk [] [greetingFrame ++ closingFrame, pingFrame]).before (sessionLimits 2 125)) =
        decodeFrames (cleanPart (sessionLimits 2 125)
          (Split.mk [] [greetingFrame ++ closingFrame, pingFrame]).bytes) := by
    decide +kernel
  unfold greetingSession at hok hok'
  exact ⟨first, second, hok, hok', hpassed, splits_same_verdict decodeFrames_isPrefixOf hstream hopened
    hopened hok hok' (fun _ _ _ => Or.inl hx) (fun _ _ _ => Or.inl hy)⟩

/-- Frame by frame the session passes, with the close the plan expects; in one
    read the third frame, beyond the limit of two, takes the verdict over. -/
theorem splits_differ :
    (sessionPlan (sessionLimits 2 125) greetingActions).validate = .ok () ∧
      (Split.mk [] [greetingFrame, closingFrame, pingFrame]).bytes =
        (Split.mk [] [greetingFrame ++ closingFrame ++ pingFrame]).bytes ∧
      greetingVerdict 2 ⟨[], [greetingFrame, closingFrame, pingFrame]⟩ =
        some (.passed (some ⟨.server, 1000, []⟩), 2) ∧
      greetingVerdict 2 ⟨[], [greetingFrame ++ closingFrame ++ pingFrame]⟩ =
        some (.failed .budgetExhausted, 1) := by
  decide +kernel

end Kahea
