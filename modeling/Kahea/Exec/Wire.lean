import Kahea.Core.Observation
import Kahea.Core.WebSocket

/-!
# Accounting on the Wire

The stream under a session counts the frames and payload bytes that go through
it. A parser follows the headers of the inbound frames and charges a frame
against the limits when its header is complete, before its payload has gone by;
outbound frames are charged whole.

What a parser makes of a stream does not depend on how the stream is cut into
pieces: it goes byte by byte (`observe_append`). After a failure it observes
nothing more, because the read or write in which the failure arises ends with
it.

## Main definitions

* `WireAccounting`: The counters of both directions, and the failure.
* `WireParser`: The header so far and what is left of the payload.
* `observe`: What a parser makes of bytes.
* `writeFrame`: A whole frame going out.

## Theorems

* `observe_append`: Bytes in two pieces.
* `observe_of_failure`: Nothing is observed after a failure.
* `observe_outbound`: Inbound bytes leave the outbound half alone.
* `WireAccounting.failure_writeFrame`: Writing fails only beyond the limits.
-/

namespace Kahea

structure WireAccounting where
  counters : WebSocketCounters
  inboundReservedBytes : Nat
  outboundReservedBytes : Nat
  failure : Option WebSocketTerminalCause
  deriving DecidableEq, Repr

def WireAccounting.default : WireAccounting := ⟨WebSocketCounters.default, 0, 0, none⟩

/-- The parser of the inbound direction. -/
structure WireParser where
  header : List UInt8
  payloadRemaining : Nat
  deriving DecidableEq, Repr

def WireParser.new : WireParser := ⟨[], 0⟩

/-- An addition of unsigned 64-bit integers that stops at the largest. -/
def saturatingAdd (a b : Nat) : Nat := min (a + b) (u64Bound - 1)

/-- The bytes of a header that begins like this. -/
def headerNeeded : List UInt8 → Nat
  | _ :: second :: _ =>
      let extended := if second &&& 0x7f = 126 then 2 else if second &&& 0x7f = 127 then 8 else 0
      2 + extended + if second &&& 0x80 ≠ 0 then 4 else 0
  | _ => 2

/-- A number in network byte order. -/
def bigEndian (bytes : List UInt8) : Nat := bytes.foldl (fun n b => 256 * n + b.toNat) 0

/-- The payload size a complete header announces; sizes from 2^63 on have
    none. -/
def payloadLength (header : List UInt8) : Option Nat :=
  let short := header.getD 1 0 &&& 0x7f
  if short = 126 then some (bigEndian ((header.drop 2).take 2))
  else if short = 127 then
    if header.getD 2 0 &&& 0x80 ≠ 0 then none else some (bigEndian ((header.drop 2).take 8))
  else some short.toNat

namespace WireAccounting

/-- Whether a frame goes beyond the limits of its direction. -/
def exceeds (limits : WebSocketLimits) (frames reserved maxFrames maxBytes payload : Nat) : Bool :=
  maxFrames ≤ frames || limits.maxFrameBytes < payload || maxBytes < saturatingAdd reserved payload

/-- Charge an inbound frame. -/
def reserveInbound (limits : WebSocketLimits) (a : WireAccounting) (payload : Nat) :
    WireAccounting :=
  if exceeds limits a.counters.inboundFrames a.inboundReservedBytes limits.maxInboundFrames
      limits.maxInboundBytes payload then
    { a with failure := some .budgetExhausted }
  else
    { a with
      counters := { a.counters with inboundFrames := a.counters.inboundFrames + 1 }
      inboundReservedBytes := a.inboundReservedBytes + payload }

/-- Charge an outbound frame. -/
def reserveOutbound (limits : WebSocketLimits) (a : WireAccounting) (payload : Nat) :
    WireAccounting :=
  if exceeds limits a.counters.outboundFrames a.outboundReservedBytes limits.maxOutboundFrames
      limits.maxOutboundBytes payload then
    { a with failure := some .budgetExhausted }
  else
    { a with
      counters := { a.counters with outboundFrames := a.counters.outboundFrames + 1 }
      outboundReservedBytes := a.outboundReservedBytes + payload }

/-- The `consumed` payload bytes of an inbound frame. -/
def consumeInbound (a : WireAccounting) (consumed : Nat) : WireAccounting :=
  { a with
    counters := { a.counters with inboundBytes := saturatingAdd a.counters.inboundBytes consumed } }

/-- The `consumed` payload bytes of an outbound frame. -/
def consumeOutbound (a : WireAccounting) (consumed : Nat) : WireAccounting :=
  { a with
    counters := { a.counters with
      outboundBytes := saturatingAdd a.counters.outboundBytes consumed } }

/-- A frame that the socket writes. The socket hands each frame over in one
    write, header and payload together, so the outbound parser meets whole
    frames. -/
def writeFrame (limits : WebSocketLimits) (a : WireAccounting) (payload : Nat) : WireAccounting :=
  let reserved := a.reserveOutbound limits payload
  if reserved.failure.isSome then reserved else reserved.consumeOutbound payload

end WireAccounting

/-- One inbound byte: of a payload, or of a header, which is judged as soon as
    it is complete. -/
def observeByte (limits : WebSocketLimits) :
    WireParser × WireAccounting → UInt8 → WireParser × WireAccounting
  | (parser, accounting), byte =>
      if accounting.failure.isSome then (parser, accounting)
      else if parser.payloadRemaining ≠ 0 then
        ({ parser with payloadRemaining := parser.payloadRemaining - 1 },
          accounting.consumeInbound 1)
      else
        let header := parser.header ++ [byte]
        if header.length ≠ headerNeeded header then ({ parser with header := header }, accounting)
        else
          match payloadLength header with
          | none =>
              ({ parser with header := header }, { accounting with failure := some .protocolViolation })
          | some payload =>
              let reserved := accounting.reserveInbound limits payload
              if reserved.failure.isSome then ({ parser with header := header }, reserved)
              else (⟨[], payload⟩, reserved)

/-- The method `observe` of the inbound parser. -/
def observe (limits : WebSocketLimits) (wire : WireParser × WireAccounting) (bytes : List UInt8) :
    WireParser × WireAccounting :=
  bytes.foldl (observeByte limits) wire

section

variable {limits : WebSocketLimits}

/-! ### Inbound -/

theorem observe_append (wire : WireParser × WireAccounting) (xs ys : List UInt8) :
    observe limits wire (xs ++ ys) = observe limits (observe limits wire xs) ys :=
  List.foldl_append

theorem observeByte_of_failure {wire : WireParser × WireAccounting} {byte : UInt8}
    (h : wire.2.failure.isSome) : observeByte limits wire byte = wire := by
  rcases wire with ⟨parser, accounting⟩
  simp only at h
  simp only [observeByte, h, if_true]

/-- Nothing is observed after a failure. -/
theorem observe_of_failure {wire : WireParser × WireAccounting} (h : wire.2.failure.isSome)
    (bytes : List UInt8) : observe limits wire bytes = wire := by
  induction bytes with
  | nil => rfl
  | cons byte rest ih =>
      unfold observe at ih ⊢
      rw [List.foldl_cons, observeByte_of_failure h]
      exact ih

/-- What the bytes of a stream bring about stays so with more of them. -/
theorem observe_failure_append {wire : WireParser × WireAccounting} {xs : List UInt8}
    (h : (observe limits wire xs).2.failure.isSome) (ys : List UInt8) :
    observe limits wire (xs ++ ys) = observe limits wire xs := by
  rw [observe_append, observe_of_failure h]

/-- A stream without failure has none before its end. -/
theorem observe_failure_prefix {wire : WireParser × WireAccounting} {xs ys : List UInt8}
    (h : (observe limits wire (xs ++ ys)).2.failure = none) :
    (observe limits wire xs).2.failure = none := by
  by_contra hne
  have hsome := Option.isSome_iff_ne_none.mpr hne
  rw [observe_failure_append hsome] at h
  exact hne h

/-- What an accounting says of the outbound direction. -/
def WireAccounting.outbound (a : WireAccounting) : Nat × Nat × Nat :=
  (a.counters.outboundFrames, a.counters.outboundBytes, a.outboundReservedBytes)

/-- Charging an inbound frame leaves the outbound half alone, whatever comes
    of it. -/
theorem WireAccounting.reserveInbound_outbound (a : WireAccounting) (payload : Nat) :
    (a.reserveInbound limits payload).outbound = a.outbound := by
  unfold reserveInbound
  split <;> rfl

theorem observeByte_outbound (wire : WireParser × WireAccounting) (byte : UInt8) :
    (observeByte limits wire byte).2.outbound = wire.2.outbound := by
  rcases wire with ⟨parser, accounting⟩
  unfold observeByte
  dsimp only
  split
  · rfl
  · split
    · rfl
    · split
      · rfl
      · split
        · rfl
        · rename_i payload _
          have h : (accounting.reserveInbound limits payload).outbound = accounting.outbound :=
            accounting.reserveInbound_outbound payload
          split <;> exact h

/-- Inbound bytes leave the outbound half alone. -/
theorem observe_outbound (wire : WireParser × WireAccounting) (bytes : List UInt8) :
    (observe limits wire bytes).2.outbound = wire.2.outbound := by
  induction bytes generalizing wire with
  | nil => rfl
  | cons byte rest ih =>
      exact (ih (observeByte limits wire byte)).trans (observeByte_outbound wire byte)

/-! ### Outbound -/

namespace WireAccounting

/-- A frame within the limits is counted, header and payload. -/
theorem writeFrame_of_not_exceeds {a : WireAccounting} {payload : Nat} (hfailure : a.failure = none)
    (h : exceeds limits a.counters.outboundFrames a.outboundReservedBytes limits.maxOutboundFrames
      limits.maxOutboundBytes payload = false) :
    a.writeFrame limits payload =
      { a with
        counters := { a.counters with
          outboundFrames := a.counters.outboundFrames + 1
          outboundBytes := saturatingAdd a.counters.outboundBytes payload }
        outboundReservedBytes := a.outboundReservedBytes + payload } := by
  simp only [writeFrame, reserveOutbound, h, hfailure, Bool.false_eq_true, if_false,
    Option.isSome_none, consumeOutbound]

/-- Writing fails only for a frame beyond the limits. -/
theorem failure_writeFrame {a : WireAccounting} {payload : Nat} (hfailure : a.failure = none) :
    (a.writeFrame limits payload).failure =
      if exceeds limits a.counters.outboundFrames a.outboundReservedBytes limits.maxOutboundFrames
        limits.maxOutboundBytes payload then some .budgetExhausted else none := by
  by_cases h : exceeds limits a.counters.outboundFrames a.outboundReservedBytes
      limits.maxOutboundFrames limits.maxOutboundBytes payload = true
  · simp only [writeFrame, reserveOutbound, h, if_true, Option.isSome_some]
  · rw [Bool.not_eq_true] at h
    simp only [writeFrame_of_not_exceeds hfailure h, h, Bool.false_eq_true, if_false, hfailure]

end WireAccounting

end

end Kahea
