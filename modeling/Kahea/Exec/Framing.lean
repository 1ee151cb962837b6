import Kahea.Exec.Wire
import Mathlib.Algebra.Order.Ring.Int

/-!
# Frames of a Stream

What a stream of bytes announces, and what one direction of the wire counts of
it.

A frame is a header and as many bytes of payload as it says. A stream is some
frames and then a part of a header or of a frame, or a header that is invalid or
beyond the limits, and `Announces` says what is to be counted of it in each
case. The counters of a direction go byte by byte, and they count what is
announced (`announces_iff`). The sum of the payloads leaves 64 bits only where
the limit of the payloads is the largest number: the test of the limit saturates
there, and the addition after it does not (`overflows_iff`).

## Main definitions

* `FrameHeader`, `Frame`: The base framing.
* `Lane`, `Lane.run`: The counters of one direction, byte by byte.
* `Announces`: What is counted of a stream.
* `Overflows`: The streams whose payloads leave 64 bits.

## Theorems

* `payloadLength_bytes`: What is read from a header is the size of its payload.
* `announces_total`, `announces_iff`: What is announced is what is counted.
* `Announces.balanced`: The counters keep to the limits.
* `overflows_iff`: When the sum overflows.
-/

namespace Kahea

/-- The number of bytes after the second one in which a length is written. -/
def extendedLength (second : UInt8) : Nat :=
  if second.toNat % 128 = 126 then 2 else if second.toNat % 128 = 127 then 8 else 0

/-- The header of a frame: seven bits of its second byte are a length or say how
    many bytes of a length follow, and the other one says whether a masking key
    does. -/
structure FrameHeader where
  first : UInt8
  second : UInt8
  extended : List UInt8
  key : List UInt8
  extended_length : extended.length = extendedLength second
  key_length : key.length = if 128 ≤ second.toNat then 4 else 0

namespace FrameHeader

def bytes (h : FrameHeader) : List UInt8 := h.first :: h.second :: (h.extended ++ h.key)

/-- The size of the payload. The first bit of a length of 64 bits has to be
    zero. -/
def payloadSize (h : FrameHeader) : Option Nat :=
  if h.second.toNat % 128 = 126 then some (bigEndian h.extended)
  else if h.second.toNat % 128 = 127 then
    if bigEndian h.extended < 2 ^ 63 then some (bigEndian h.extended) else none
  else some (h.second.toNat % 128)

end FrameHeader

/-- A frame: a header and as many bytes as it says. -/
structure Frame where
  header : FrameHeader
  payload : List UInt8
  size : header.payloadSize = some payload.length

def Frame.bytes (f : Frame) : List UInt8 := f.header.bytes ++ f.payload

/-! ### Headers -/

theorem toNat_and_7f (b : UInt8) : (b &&& 0x7f).toNat = b.toNat % 128 := by
  rw [UInt8.toNat_and]
  exact Nat.and_two_pow_sub_one_eq_mod b.toNat 7

theorem and_7f_eq_iff {b c : UInt8} : b &&& 0x7f = c ↔ b.toNat % 128 = c.toNat := by
  rw [← UInt8.toNat_inj, toNat_and_7f]

theorem and_80_ne_zero_iff {b : UInt8} : b &&& 0x80 ≠ 0 ↔ 128 ≤ b.toNat := by
  have hall : ∀ n : Fin 256, UInt8.ofNat n.val &&& 0x80 ≠ 0 ↔ 128 ≤ n.val := by decide +kernel
  have h := hall ⟨b.toNat, b.toNat_lt⟩
  rwa [UInt8.ofNat_toNat] at h

theorem bigEndian_append (xs ys : List UInt8) :
    bigEndian (xs ++ ys) = 256 ^ ys.length * bigEndian xs + bigEndian ys := by
  induction ys using List.reverseRecOn with
  | nil => simp [bigEndian]
  | append_singleton ys y ih =>
      unfold bigEndian at ih ⊢
      rw [← List.append_assoc, List.foldl_append, ih]
      simp only [List.foldl_append, List.foldl_cons, List.foldl_nil, List.length_append,
        List.length_singleton, Nat.pow_succ, Nat.mul_add]
      rw [Nat.mul_comm (256 ^ ys.length) 256, Nat.mul_assoc, Nat.add_assoc]

theorem bigEndian_lt (xs : List UInt8) : bigEndian xs < 256 ^ xs.length := by
  induction xs using List.reverseRecOn with
  | nil => simp [bigEndian]
  | append_singleton xs x ih =>
      have hx := x.toNat_lt
      rw [bigEndian_append, List.length_append, List.length_singleton, Nat.pow_succ]
      simp only [bigEndian, List.foldl_cons, List.foldl_nil]
      unfold bigEndian at ih
      omega

/-- The first bit of eight bytes. -/
theorem bigEndian_top {b : UInt8} {rest : List UInt8} (h : rest.length = 7) :
    bigEndian (b :: rest) < 2 ^ 63 ↔ b.toNat < 128 := by
  have hsplit := bigEndian_append [b] rest
  have hlast := bigEndian_lt rest
  have hfirst : bigEndian [b] = b.toNat := by simp [bigEndian]
  rw [h] at hsplit hlast
  rw [List.singleton_append, hfirst] at hsplit
  rw [hsplit]
  omega

theorem headerNeeded_cons (first second : UInt8) (rest : List UInt8) :
    headerNeeded (first :: second :: rest) =
      2 + extendedLength second + if 128 ≤ second.toNat then 4 else 0 := by
  unfold headerNeeded extendedLength
  simp only [and_7f_eq_iff, and_80_ne_zero_iff]
  rfl

/-- Once two bytes of a header are there, its length is known. -/
theorem headerNeeded_append {header : List UInt8} (h : 2 ≤ header.length) (more : List UInt8) :
    headerNeeded (header ++ more) = headerNeeded header := by
  rcases header with _ | ⟨first, _ | ⟨second, rest⟩⟩
  · exact absurd h (by decide)
  · exact absurd h (by simp)
  · rw [List.cons_append, List.cons_append, headerNeeded_cons, headerNeeded_cons]

theorem two_le_headerNeeded (header : List UInt8) : 2 ≤ headerNeeded header := by
  rcases header with _ | ⟨first, _ | ⟨second, rest⟩⟩
  · exact Nat.le_refl 2
  · exact Nat.le_refl 2
  · rw [headerNeeded_cons]
    omega

namespace FrameHeader

theorem headerNeeded_bytes (h : FrameHeader) : headerNeeded h.bytes = h.bytes.length := by
  rw [bytes, headerNeeded_cons]
  simp only [List.length_cons, List.length_append, h.extended_length, h.key_length]
  omega

/-- What the parser reads from a header is the size of the payload. -/
theorem payloadLength_bytes (h : FrameHeader) : payloadLength h.bytes = h.payloadSize := by
  have hextended := h.extended_length
  unfold extendedLength at hextended
  unfold payloadLength payloadSize bytes
  simp only [List.getD_cons_succ, List.getD_cons_zero, and_7f_eq_iff, List.drop_succ_cons,
    List.drop_zero, toNat_and_7f]
  -- Two extended bytes, eight of them, or none, by the second byte of the header.
  by_cases hmedium : h.second.toNat % 128 = 126
  · rw [if_pos hmedium] at hextended
    have htake : (h.extended ++ h.key).take 2 = h.extended := List.take_left' hextended
    have hbyte : h.second.toNat % 128 = UInt8.toNat 126 := hmedium
    rw [if_pos hbyte, if_pos hmedium, htake]
  have hnot : ¬ h.second.toNat % 128 = UInt8.toNat 126 := hmedium
  rw [if_neg hnot, if_neg hmedium]
  by_cases hlong : h.second.toNat % 128 = 127
  · rw [if_neg hmedium, if_pos hlong] at hextended
    have htake : (h.extended ++ h.key).take 8 = h.extended := List.take_left' hextended
    have hbyte : h.second.toNat % 128 = UInt8.toNat 127 := hlong
    rw [if_pos hbyte, if_pos hlong, htake]
    rcases hbytes : h.extended with _ | ⟨top, rest⟩
    · rw [hbytes] at hextended
      exact absurd hextended (by decide)
    · rw [hbytes, List.length_cons] at hextended
      have htop := @bigEndian_top top rest (by omega)
      rw [List.cons_append, List.getD_cons_zero]
      -- The highest bit of the eight must be clear.
      by_cases hvalid : bigEndian (top :: rest) < 2 ^ 63
      · rw [if_pos hvalid, if_neg]
        rw [and_80_ne_zero_iff]
        have := htop.mp hvalid
        omega
      · rw [if_neg hvalid, if_pos]
        rw [and_80_ne_zero_iff]
        have := mt htop.mpr hvalid
        omega
  · have hnot' : ¬ h.second.toNat % 128 = UInt8.toNat 127 := hlong
    rw [if_neg hnot', if_neg hlong]

/-- A complete header is one. -/
theorem exists_bytes {header : List UInt8} (h : header.length = headerNeeded header) :
    ∃ x : FrameHeader, x.bytes = header := by
  rcases header with _ | ⟨first, _ | ⟨second, rest⟩⟩
  · exact absurd h (by decide)
  · exact absurd (Nat.succ.inj h) Nat.zero_ne_one
  rw [headerNeeded_cons, List.length_cons, List.length_cons] at h
  refine ⟨⟨first, second, rest.take (extendedLength second), rest.drop (extendedLength second),
    ?_, ?_⟩, ?_⟩
  · rw [List.length_take]
    omega
  · rw [List.length_drop]
    omega
  · rw [bytes, List.take_append_drop]

end FrameHeader

/-! ### One direction -/

/-- Why an observation ends. -/
inductive WireError where
  | rejected (cause : WebSocketTerminalCause)
  | overflow
  deriving DecidableEq, Repr

/-- The limits of a direction. -/
structure LaneLimits where
  maxFrames : Nat
  maxFrameBytes : Nat
  maxBytes : Nat

/-- The limits are unsigned 64-bit integers. -/
structure LaneLimits.Fit (limits : LaneLimits) : Prop where
  frames : limits.maxFrames < u64Bound
  bytes : limits.maxBytes < u64Bound

/-- One direction of the wire: its parser and its counters. -/
@[ext]
structure Lane where
  header : List UInt8
  remaining : Nat
  frames : Nat
  bytes : Nat
  reserved : Nat
  deriving DecidableEq, Repr

/-- The frames of some sizes have gone by. -/
def Lane.after (sizes : List Nat) : Lane := ⟨[], 0, sizes.length, sizes.sum, sizes.sum⟩

/-- Judge a frame whose header is complete. -/
def Lane.judge (limits : LaneLimits) (lane : Lane) : Lane × Option WireError :=
  match payloadLength lane.header with
  | none => (lane, some (.rejected .protocolViolation))
  | some payload =>
      if limits.maxFrames ≤ lane.frames ∨ limits.maxFrameBytes < payload ∨
          limits.maxBytes < saturatingAdd lane.reserved payload then
        (lane, some (.rejected .budgetExhausted))
      else if u64Bound ≤ lane.frames + 1 ∨ u64Bound ≤ lane.reserved + payload then
        (lane, some .overflow)
      else (⟨[], payload, lane.frames + 1, lane.bytes, lane.reserved + payload⟩, none)

/-- One byte. Nothing changes after an error. -/
def Lane.byte (limits : LaneLimits) : Lane × Option WireError → UInt8 → Lane × Option WireError
  | (lane, some e), _ => (lane, some e)
  | (lane, none), byte =>
      if lane.remaining ≠ 0 then
        ({ lane with remaining := lane.remaining - 1, bytes := saturatingAdd lane.bytes 1 }, none)
      else if (lane.header ++ [byte]).length ≠ headerNeeded (lane.header ++ [byte]) then
        ({ lane with header := lane.header ++ [byte] }, none)
      else Lane.judge limits { lane with header := lane.header ++ [byte] }

/-- The bytes of a stream, one after the other. -/
def Lane.run (limits : LaneLimits) (start : Lane × Option WireError) (bytes : List UInt8) :
    Lane × Option WireError :=
  bytes.foldl (Lane.byte limits) start

/-! ### What a stream announces -/

/-- The sizes of some frames. -/
def sizes (frames : List Frame) : List Nat := frames.map (fun f => f.payload.length)

/-- The bytes of some frames. -/
def frameBytes (frames : List Frame) : List UInt8 := frames.flatMap Frame.bytes

/-- Frames of such sizes are within the limits. -/
structure WithinLimits (limits : LaneLimits) (sizes : List Nat) : Prop where
  count : sizes.length ≤ limits.maxFrames
  each : ∀ n ∈ sizes, n ≤ limits.maxFrameBytes
  total : sizes.sum ≤ limits.maxBytes

/-- The payloads are without limit, and the next one does not fit into 64 bits
    with those before it. -/
structure Overflowing (limits : LaneLimits) (sizes : List Nat) (n : Nat) : Prop where
  count : sizes.length < limits.maxFrames
  each : n ≤ limits.maxFrameBytes
  limit : limits.maxBytes = u64Bound - 1
  total : u64Bound ≤ sizes.sum + n

/-- A header of which not all bytes are there. -/
def Unfinished (p : List UInt8) : Prop := ∃ h : FrameHeader, p <+: h.bytes ∧ p ≠ h.bytes

/-- What is counted of a stream, and how its reading ends: the stream is some
    frames within the limits and a part of a header, or of a frame within the
    limits, or a header that is beyond them or invalid. -/
inductive Announces (limits : LaneLimits) : List UInt8 → Lane → Option WireError → Prop where
  | header (frames : List Frame) (p : List UInt8) (hwithin : WithinLimits limits (sizes frames))
      (hp : Unfinished p) :
      Announces limits (frameBytes frames ++ p) { Lane.after (sizes frames) with header := p } none
  | payload (frames : List Frame) (h : FrameHeader) (n : Nat) (q : List UInt8)
      (hsize : h.payloadSize = some n) (hwithin : WithinLimits limits (sizes frames ++ [n]))
      (hq : q.length < n) :
      Announces limits (frameBytes frames ++ (h.bytes ++ q))
        ⟨[], n - q.length, (sizes frames).length + 1, (sizes frames).sum + q.length,
          (sizes frames).sum + n⟩ none
  | beyond (frames : List Frame) (h : FrameHeader) (n : Nat) (rest : List UInt8)
      (hsize : h.payloadSize = some n) (hwithin : WithinLimits limits (sizes frames))
      (hbeyond : ¬ WithinLimits limits (sizes frames ++ [n]))
      (hfits : ¬ Overflowing limits (sizes frames) n) :
      Announces limits (frameBytes frames ++ (h.bytes ++ rest))
        { Lane.after (sizes frames) with header := h.bytes } (some (.rejected .budgetExhausted))
  | invalid (frames : List Frame) (h : FrameHeader) (rest : List UInt8)
      (hsize : h.payloadSize = none) (hwithin : WithinLimits limits (sizes frames)) :
      Announces limits (frameBytes frames ++ (h.bytes ++ rest))
        { Lane.after (sizes frames) with header := h.bytes } (some (.rejected .protocolViolation))
  | overflow (frames : List Frame) (h : FrameHeader) (n : Nat) (rest : List UInt8)
      (hsize : h.payloadSize = some n) (hwithin : WithinLimits limits (sizes frames))
      (hoverflow : Overflowing limits (sizes frames) n) :
      Announces limits (frameBytes frames ++ (h.bytes ++ rest))
        { Lane.after (sizes frames) with header := h.bytes } (some .overflow)

section

variable {limits : LaneLimits}

/-! ### Unfinished headers -/

/-- A part of a header is shorter than its first bytes say. -/
theorem length_lt_of_prefix {p q : List UInt8} (h : p <+: q) (hlt : p.length < headerNeeded q) :
    p.length < headerNeeded p := by
  rcases h with ⟨t, rfl⟩
  by_cases hshort : p.length < 2
  · exact Nat.lt_of_lt_of_le hshort (two_le_headerNeeded p)
  · rwa [headerNeeded_append (Nat.le_of_not_lt hshort)] at hlt

theorem exists_header_append {p : List UInt8} (h : p.length ≤ headerNeeded p) :
    ∃ x : FrameHeader, p <+: x.bytes := by
  rcases p with _ | ⟨first, _ | ⟨second, rest⟩⟩
  · exact ⟨⟨0, 0, [], [], rfl, rfl⟩, List.nil_prefix⟩
  · exact ⟨⟨first, 0, [], [], rfl, rfl⟩, ⟨[0], rfl⟩⟩
  -- The missing bytes may be zero.
  have hpad : (first :: second :: rest ++ List.replicate
      (headerNeeded (first :: second :: rest) - (first :: second :: rest).length) 0).length =
      headerNeeded (first :: second :: rest ++ List.replicate
        (headerNeeded (first :: second :: rest) - (first :: second :: rest).length) 0) := by
    rw [headerNeeded_append (by simp), List.length_append, List.length_replicate]
    omega
  rcases FrameHeader.exists_bytes hpad with ⟨x, hx⟩
  exact ⟨x, ⟨_, hx.symm⟩⟩

theorem unfinished_iff {p : List UInt8} : Unfinished p ↔ p.length < headerNeeded p := by
  constructor
  · rintro ⟨h, hprefix, hne⟩
    refine length_lt_of_prefix hprefix ?_
    rw [h.headerNeeded_bytes]
    rcases hprefix with ⟨t, ht⟩
    have hlength := congrArg List.length ht
    rw [List.length_append] at hlength
    have ht' : t ≠ [] := by
      rintro rfl
      rw [List.append_nil] at ht
      exact hne ht
    have hpos := List.length_pos_iff.mpr ht'
    omega
  · intro h
    rcases exists_header_append (Nat.le_of_lt h) with ⟨x, hx⟩
    refine ⟨x, hx, ?_⟩
    rintro rfl
    rw [x.headerNeeded_bytes] at h
    exact absurd h (Nat.lt_irrefl _)

/-- A header that is unfinished before a byte and not after it is complete. -/
theorem complete_of_not_unfinished {p : List UInt8} {b : UInt8} (h : p.length < headerNeeded p)
    (hnot : ¬ (p ++ [b]).length < headerNeeded (p ++ [b])) :
    (p ++ [b]).length = headerNeeded (p ++ [b]) := by
  have hlength : (p ++ [b]).length = p.length + 1 := by
    rw [List.length_append, List.length_singleton]
  have htwo := two_le_headerNeeded (p ++ [b])
  by_cases hshort : p.length < 2
  · omega
  · rw [headerNeeded_append (Nat.le_of_not_lt hshort)] at hnot ⊢
    omega

theorem unfinished_nil : Unfinished [] := unfinished_iff.mpr (by decide)

/-! ### Runs -/

theorem Lane.run_append (start : Lane × Option WireError) (xs ys : List UInt8) :
    Lane.run limits start (xs ++ ys) = Lane.run limits (Lane.run limits start xs) ys :=
  List.foldl_append

theorem Lane.run_cons (start : Lane × Option WireError) (x : UInt8) (xs : List UInt8) :
    Lane.run limits start (x :: xs) = Lane.run limits (Lane.byte limits start x) xs := rfl

/-- An error is permanent. -/
theorem Lane.run_error (lane : Lane) (e : WireError) (bytes : List UInt8) :
    Lane.run limits (lane, some e) bytes = (lane, some e) := by
  induction bytes with
  | nil => rfl
  | cons byte rest ih => exact ih

theorem Lane.byte_payload {lane : Lane} (h : lane.remaining ≠ 0) (byte : UInt8) :
    Lane.byte limits (lane, none) byte =
      ({ lane with remaining := lane.remaining - 1, bytes := saturatingAdd lane.bytes 1 }, none) :=
  if_pos h

theorem Lane.byte_header {lane : Lane} (h : lane.remaining = 0) {byte : UInt8}
    (hopen : (lane.header ++ [byte]).length < headerNeeded (lane.header ++ [byte])) :
    Lane.byte limits (lane, none) byte = ({ lane with header := lane.header ++ [byte] }, none) := by
  unfold Lane.byte
  dsimp only
  rw [if_neg (not_not.mpr h), if_pos (Nat.ne_of_lt hopen)]

theorem Lane.byte_complete {lane : Lane} (h : lane.remaining = 0) {byte : UInt8}
    (hfull : (lane.header ++ [byte]).length = headerNeeded (lane.header ++ [byte])) :
    Lane.byte limits (lane, none) byte =
      Lane.judge limits { lane with header := lane.header ++ [byte] } := by
  unfold Lane.byte
  dsimp only
  rw [if_neg (not_not.mpr h), if_neg (not_not.mpr hfull)]

theorem saturatingAdd_add (a b c : Nat) :
    saturatingAdd (saturatingAdd a b) c = saturatingAdd a (b + c) := by
  unfold saturatingAdd
  omega

/-- Bytes of a payload are counted. -/
theorem Lane.run_payload {lane : Lane} {xs : List UInt8} (hne : xs ≠ [])
    (h : xs.length ≤ lane.remaining) :
    Lane.run limits (lane, none) xs =
      ({ lane with
        remaining := lane.remaining - xs.length
        bytes := saturatingAdd lane.bytes xs.length }, none) := by
  induction xs generalizing lane with
  | nil => exact absurd rfl hne
  | cons x rest ih =>
      rw [List.length_cons] at h
      rw [Lane.run_cons, Lane.byte_payload (by omega)]
      by_cases hrest : rest = []
      · rw [hrest]
        rfl
      · rw [ih hrest (by simpa using by omega)]
        dsimp only
        rw [saturatingAdd_add, List.length_cons, Nat.sub_sub, Nat.add_comm 1]

/-- Bytes of an unfinished header are kept. -/
theorem Lane.run_header {lane : Lane} {xs : List UInt8} (h : lane.remaining = 0)
    (hopen : (lane.header ++ xs).length < headerNeeded (lane.header ++ xs)) :
    Lane.run limits (lane, none) xs = ({ lane with header := lane.header ++ xs }, none) := by
  induction xs generalizing lane with
  | nil => rw [List.append_nil]; rfl
  | cons x rest ih =>
      have hsplit : lane.header ++ x :: rest = lane.header ++ [x] ++ rest := by
        rw [List.append_assoc]
        rfl
      rw [hsplit] at hopen ⊢
      have hfirst : (lane.header ++ [x]).length < headerNeeded (lane.header ++ [x]) := by
        refine length_lt_of_prefix (List.prefix_append _ rest) ?_
        rw [List.length_append] at hopen
        omega
      rw [Lane.run_cons, Lane.byte_header h hfirst]
      exact ih h hopen

/-- A header is judged with its last byte. -/
theorem Lane.run_complete {lane : Lane} {xs : List UInt8} (h : lane.remaining = 0) (hne : xs ≠ [])
    (hfull : (lane.header ++ xs).length = headerNeeded (lane.header ++ xs)) :
    Lane.run limits (lane, none) xs =
      Lane.judge limits { lane with header := lane.header ++ xs } := by
  rcases List.eq_nil_or_concat xs with rfl | ⟨ys, y, rfl⟩
  · exact absurd rfl hne
  rw [List.concat_eq_append] at hfull ⊢
  rw [← List.append_assoc] at hfull ⊢
  have hbefore : (lane.header ++ ys).length < headerNeeded (lane.header ++ ys) := by
    refine length_lt_of_prefix (List.prefix_append _ [y]) ?_
    rw [← hfull]
    simp only [List.length_append, List.length_singleton]
    omega
  rw [Lane.run_append, Lane.run_header h hbefore]
  exact @Lane.byte_complete limits { lane with header := lane.header ++ ys } h y hfull

/-! ### Judgements -/

theorem WithinLimits.of_append {xs ys : List Nat} (h : WithinLimits limits (xs ++ ys)) :
    WithinLimits limits xs where
  count := by
    have hcount := h.count
    rw [List.length_append] at hcount
    omega
  each n hn := h.each n (List.mem_append_left ys hn)
  total := by
    have htotal := h.total
    rw [List.sum_append] at htotal
    omega

theorem WithinLimits.nil : WithinLimits limits [] := ⟨Nat.zero_le _, nofun, Nat.zero_le _⟩

/-- A frame is beyond the limits for one of three reasons. -/
theorem WithinLimits.append_iff {xs : List Nat} (h : WithinLimits limits xs) (n : Nat) :
    WithinLimits limits (xs ++ [n]) ↔
      xs.length < limits.maxFrames ∧ n ≤ limits.maxFrameBytes ∧ xs.sum + n ≤ limits.maxBytes := by
  constructor
  -- What bounds the longer list bounds its parts.
  · intro hmore
    have hcount := hmore.count
    have htotal := hmore.total
    rw [List.length_append, List.length_singleton] at hcount
    rw [List.sum_append, List.sum_singleton] at htotal
    exact ⟨hcount, hmore.each n (List.mem_append_right xs (List.mem_singleton_self n)), htotal⟩
  · rintro ⟨hcount, heach, htotal⟩
    refine ⟨?_, ?_, ?_⟩
    · rw [List.length_append, List.length_singleton]
      exact hcount
    · intro m hm
      rcases List.mem_append.mp hm with hm | hm
      · exact h.each m hm
      · rw [List.mem_singleton.mp hm]
        exact heach
    · rw [List.sum_append, List.sum_singleton]
      exact htotal

section

variable {lane : Lane} {xs : List Nat} {n : Nat}

/-- A frame within the limits is charged. -/
theorem judge_within (hfit : limits.Fit) (hsize : payloadLength lane.header = some n)
    (hframes : lane.frames = xs.length) (hreserved : lane.reserved = xs.sum)
    (h : WithinLimits limits (xs ++ [n])) :
    lane.judge limits = (⟨[], n, xs.length + 1, lane.bytes, xs.sum + n⟩, none) := by
  rcases (WithinLimits.append_iff h.of_append n).mp h with ⟨hcount, heach, htotal⟩
  have hbytes := hfit.bytes
  have hcounted := hfit.frames
  unfold Lane.judge
  rw [hsize, hframes, hreserved]
  dsimp only
  rw [if_neg, if_neg]
  · omega
  · unfold saturatingAdd
    omega

/-- A frame beyond the limits is rejected, unless the sum of the payloads
    overflows first. -/
theorem judge_beyond (hsize : payloadLength lane.header = some n)
    (hframes : lane.frames = xs.length) (hreserved : lane.reserved = xs.sum)
    (hfit : limits.Fit) (hwithin : WithinLimits limits xs) (h : ¬ WithinLimits limits (xs ++ [n]))
    (hno : ¬ Overflowing limits xs n) :
    lane.judge limits = (lane, some (.rejected .budgetExhausted)) := by
  rw [hwithin.append_iff] at h
  have hbytes := hfit.bytes
  unfold Lane.judge
  rw [hsize, hframes, hreserved]
  dsimp only
  rw [if_pos]
  by_cases hcount : limits.maxFrames ≤ xs.length
  · exact Or.inl hcount
  by_cases heach : limits.maxFrameBytes < n
  · exact Or.inr (Or.inl heach)
  refine Or.inr (Or.inr ?_)
  have hsum : limits.maxBytes < xs.sum + n := by omega
  -- At the largest limit the sum would not fit into 64 bits.
  have hlimit : limits.maxBytes = u64Bound - 1 → ¬ u64Bound ≤ xs.sum + n := fun hlimit htotal =>
    hno ⟨by omega, by omega, hlimit, htotal⟩
  unfold saturatingAdd
  unfold u64Bound at hlimit hbytes ⊢
  omega

theorem judge_overflow (hsize : payloadLength lane.header = some n)
    (hframes : lane.frames = xs.length) (hreserved : lane.reserved = xs.sum)
    (h : Overflowing limits xs n) : lane.judge limits = (lane, some .overflow) := by
  have hcount := h.count
  have heach := h.each
  have hlimit := h.limit
  have htotal := h.total
  unfold Lane.judge
  rw [hsize, hframes, hreserved]
  dsimp only
  rw [if_neg, if_pos (Or.inr htotal)]
  unfold saturatingAdd
  omega

theorem judge_invalid (hsize : payloadLength lane.header = none) :
    lane.judge limits = (lane, some (.rejected .protocolViolation)) := by
  unfold Lane.judge
  rw [hsize]

end

/-! ### Streams -/

theorem sizes_append (xs ys : List Frame) : sizes (xs ++ ys) = sizes xs ++ sizes ys :=
  List.map_append

theorem frameBytes_append (xs ys : List Frame) :
    frameBytes (xs ++ ys) = frameBytes xs ++ frameBytes ys := List.flatMap_append

/-- A header of a frame is judged against the frames before it. -/
theorem run_frame_header (xs : List Nat) (h : FrameHeader) :
    Lane.run limits (Lane.after xs, none) h.bytes =
      Lane.judge limits { Lane.after xs with header := h.bytes } := by
  refine Lane.run_complete rfl (List.cons_ne_nil _ _) ?_
  exact h.headerNeeded_bytes.symm

theorem run_frame (hfit : limits.Fit) {xs : List Nat} {f : Frame}
    (h : WithinLimits limits (xs ++ [f.payload.length])) :
    Lane.run limits (Lane.after xs, none) f.bytes =
      (Lane.after (xs ++ [f.payload.length]), none) := by
  have hbytes := hfit.bytes
  have htotal := h.total
  have hsize : payloadLength f.header.bytes = some f.payload.length := by
    rw [f.header.payloadLength_bytes, f.size]
  rw [Frame.bytes, Lane.run_append, run_frame_header, judge_within hfit hsize rfl rfl h]
  rw [List.sum_append, List.sum_singleton] at htotal
  -- The header leaves the payload to come, which then comes whole.
  unfold Lane.after
  rw [List.length_append, List.length_singleton, List.sum_append, List.sum_singleton]
  by_cases hempty : f.payload = []
  · rw [hempty]
    rfl
  · rw [Lane.run_payload hempty (Nat.le_refl _), Nat.sub_self]
    have hsum : saturatingAdd xs.sum f.payload.length = xs.sum + f.payload.length := by
      unfold saturatingAdd
      omega
    dsimp only
    rw [hsum]

/-- Frames within the limits go by. -/
theorem run_frames (hfit : limits.Fit) {frames : List Frame} (h : WithinLimits limits (sizes frames)) :
    Lane.run limits (Lane.after [], none) (frameBytes frames) = (Lane.after (sizes frames), none) := by
  induction frames using List.reverseRecOn with
  | nil => rfl
  | append_singleton frames f ih =>
      rw [sizes_append] at h ⊢
      have hlast : frameBytes [f] = f.bytes := by
        rw [frameBytes, List.flatMap_cons, List.flatMap_nil, List.append_nil]
      rw [frameBytes_append, Lane.run_append, ih h.of_append, hlast]
      exact run_frame hfit h

/-- What a stream announces is what is counted of it. -/
theorem run_of_announces (hfit : limits.Fit) {bytes : List UInt8} {lane : Lane}
    {verdict : Option WireError} (h : Announces limits bytes lane verdict) :
    Lane.run limits (Lane.after [], none) bytes = (lane, verdict) := by
  cases h with
  | header frames p hwithin hp =>
      rw [Lane.run_append, run_frames hfit hwithin]
      exact Lane.run_header rfl (unfinished_iff.mp hp)
  | payload frames h n q hsize hwithin hq =>
      have hbytes := hfit.bytes
      have htotal := hwithin.total
      rw [List.sum_append, List.sum_singleton] at htotal
      rw [Lane.run_append, run_frames hfit hwithin.of_append, Lane.run_append, run_frame_header,
        judge_within hfit (by rw [h.payloadLength_bytes, hsize]) rfl rfl hwithin]
      -- The payload that came is part of the last frame.
      by_cases hempty : q = []
      · rw [hempty]
        rfl
      · have hsum : saturatingAdd (sizes frames).sum q.length = (sizes frames).sum + q.length := by
          unfold saturatingAdd
          omega
        rw [Lane.run_payload hempty (Nat.le_of_lt hq)]
        dsimp only [Lane.after]
        rw [hsum]
  | beyond frames h n rest hsize hwithin hbeyond hfits =>
      rw [Lane.run_append, run_frames hfit hwithin, Lane.run_append, run_frame_header,
        judge_beyond (by rw [h.payloadLength_bytes, hsize]) rfl rfl hfit hwithin hbeyond hfits,
        Lane.run_error]
  | invalid frames h rest hsize hwithin =>
      rw [Lane.run_append, run_frames hfit hwithin, Lane.run_append, run_frame_header,
        judge_invalid (by rw [h.payloadLength_bytes, hsize]), Lane.run_error]
  | overflow frames h n rest hsize hwithin hoverflow =>
      rw [Lane.run_append, run_frames hfit hwithin, Lane.run_append, run_frame_header,
        judge_overflow (by rw [h.payloadLength_bytes, hsize]) rfl rfl hoverflow, Lane.run_error]

/-- Every stream can be read. -/
theorem announces_total (limits : LaneLimits) (bytes : List UInt8) :
    ∃ lane verdict, Announces limits bytes lane verdict := by
  induction bytes using List.reverseRecOn with
  | nil => exact ⟨_, _, .header [] [] WithinLimits.nil unfinished_nil⟩
  | append_singleton bytes b ih =>
      rcases ih with ⟨lane, verdict, h⟩
      cases h with
      | header frames p hwithin hp =>
          rw [List.append_assoc]
          by_cases hopen : Unfinished (p ++ [b])
          · exact ⟨_, _, .header frames (p ++ [b]) hwithin hopen⟩
          -- The header is complete with this byte.
          have hlt := unfinished_iff.mp hp
          have hfull : (p ++ [b]).length = headerNeeded (p ++ [b]) :=
            complete_of_not_unfinished hlt (mt unfinished_iff.mpr hopen)
          rcases FrameHeader.exists_bytes hfull with ⟨h, hh⟩
          rw [← hh, ← List.append_nil h.bytes]
          cases hsize : h.payloadSize with
          | none => exact ⟨_, _, .invalid frames h [] hsize hwithin⟩
          | some n =>
              by_cases hoverflow : Overflowing limits (sizes frames) n
              · exact ⟨_, _, .overflow frames h n [] hsize hwithin hoverflow⟩
              by_cases hmore : WithinLimits limits (sizes frames ++ [n])
              · by_cases hzero : n = 0
                · subst hzero
                  have hframe := Announces.header (frames ++ [⟨h, [], hsize⟩]) []
                    (by rw [sizes_append]; exact hmore) unfinished_nil
                  rw [frameBytes_append] at hframe
                  exact ⟨_, _, by simpa [frameBytes, Frame.bytes] using hframe⟩
                · exact ⟨_, _, .payload frames h n [] hsize hmore (Nat.pos_of_ne_zero hzero)⟩
              · exact ⟨_, _, .beyond frames h n [] hsize hwithin hmore hoverflow⟩
      | payload frames h n q hsize hwithin hq =>
          rw [List.append_assoc, List.append_assoc]
          by_cases hlast : (q ++ [b]).length = n
          · have hone : sizes [⟨h, q ++ [b], by rw [hsize, hlast]⟩] = [n] :=
              congrArg (fun m => [m]) hlast
            have hframe := Announces.header (frames ++ [⟨h, q ++ [b], by rw [hsize, hlast]⟩]) []
              (by rw [sizes_append, hone]; exact hwithin) unfinished_nil
            rw [frameBytes_append] at hframe
            exact ⟨_, _, by simpa [frameBytes, Frame.bytes] using hframe⟩
          · refine ⟨_, _, .payload frames h n (q ++ [b]) hsize hwithin ?_⟩
            rw [List.length_append, List.length_singleton] at hlast ⊢
            omega
      | beyond frames h n rest hsize hwithin hbeyond hfits =>
          rw [List.append_assoc, List.append_assoc]
          exact ⟨_, _, .beyond frames h n (rest ++ [b]) hsize hwithin hbeyond hfits⟩
      | invalid frames h rest hsize hwithin =>
          rw [List.append_assoc, List.append_assoc]
          exact ⟨_, _, .invalid frames h (rest ++ [b]) hsize hwithin⟩
      | overflow frames h n rest hsize hwithin hoverflow =>
          rw [List.append_assoc, List.append_assoc]
          exact ⟨_, _, .overflow frames h n (rest ++ [b]) hsize hwithin hoverflow⟩

/-- What is counted of a stream is what it announces. -/
theorem announces_iff (hfit : limits.Fit) {bytes : List UInt8} {lane : Lane}
    {verdict : Option WireError} :
    Announces limits bytes lane verdict ↔
      Lane.run limits (Lane.after [], none) bytes = (lane, verdict) := by
  constructor
  · exact run_of_announces hfit
  · intro h
    rcases announces_total limits bytes with ⟨lane', verdict', hannounces⟩
    have hsame := run_of_announces hfit hannounces
    rw [h, Prod.mk.injEq] at hsame
    rwa [hsame.1, hsame.2]

/-! ### What holds of the counters -/

/-- The counters of a direction keep to the limits, and what is charged is what
    has come or is awaited. -/
structure Lane.Balanced (limits : LaneLimits) (lane : Lane) : Prop where
  frames : lane.frames ≤ limits.maxFrames
  reserved : lane.reserved ≤ limits.maxBytes
  balance : lane.bytes + lane.remaining = lane.reserved

theorem Announces.balanced {bytes : List UInt8} {lane : Lane} {verdict : Option WireError}
    (h : Announces limits bytes lane verdict) : lane.Balanced limits := by
  cases h with
  | header frames p hwithin hp => exact ⟨hwithin.count, hwithin.total, rfl⟩
  | payload frames h n q hsize hwithin hq =>
      have hcount := hwithin.count
      have htotal := hwithin.total
      rw [List.length_append, List.length_singleton] at hcount
      rw [List.sum_append, List.sum_singleton] at htotal
      refine ⟨hcount, htotal, ?_⟩
      dsimp only
      omega
  | beyond frames h n rest hsize hwithin hbeyond hfits =>
      exact ⟨hwithin.count, hwithin.total, rfl⟩
  | invalid frames h rest hsize hwithin => exact ⟨hwithin.count, hwithin.total, rfl⟩
  | overflow frames h n rest hsize hwithin hoverflow =>
      exact ⟨hwithin.count, hwithin.total, rfl⟩

/-- A stream announces a frame whose payload does not fit into 64 bits with the
    payloads before it, and the limits let them all through. -/
def Overflows (limits : LaneLimits) (bytes : List UInt8) : Prop :=
  ∃ frames h n rest, bytes = frameBytes frames ++ (h.bytes ++ rest) ∧
    FrameHeader.payloadSize h = some n ∧ WithinLimits limits (sizes frames) ∧
      Overflowing limits (sizes frames) n

theorem overflows_iff (hfit : limits.Fit) {bytes : List UInt8} :
    Overflows limits bytes ↔
      (Lane.run limits (Lane.after [], none) bytes).2 = some .overflow := by
  constructor
  · rintro ⟨frames, h, n, rest, rfl, hsize, hwithin, hoverflow⟩
    rw [run_of_announces hfit (Announces.overflow frames h n rest hsize hwithin hoverflow)]
  · intro hverdict
    have hannounces := (announces_iff hfit).mpr
      (Prod.mk.eta (p := Lane.run limits (Lane.after [], none) bytes)).symm
    rw [hverdict] at hannounces
    generalize (Lane.run limits (Lane.after [], none) bytes).1 = lane at hannounces
    cases hannounces with
    | overflow frames h n rest hsize hwithin hoverflow =>
        exact ⟨frames, h, n, rest, rfl, hsize, hwithin, hoverflow⟩

end

end Kahea
