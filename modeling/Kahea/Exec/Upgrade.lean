import Kahea.Base.Search
import Kahea.Exec.Metering
import Kahea.Exec.WebSocket

/-!
# Reading the Head of a Handshake

The loop of `perform_upgrade` that reads until a blank line, and what becomes of
the bytes after it.

A read takes what is there, so the head ends anywhere in the last read, or at a
read's end. What is found does not depend on the reads: the first blank line of
the stream ends the head if it ends within the limit, and the loop ends before
it otherwise, or the check after the loop rejects what it has found
(`readHead_of_end`, `readUpgrade_lost`). The rest of the last read is accounted
first, by `acceptUpgrade`, and what comes after it then, so that the bytes of the
session are accounted once (`head_read`).

## Main definitions

* `headEnd`: Where the first blank line ends.
* `readHead`: The loop.
* `readUpgrade`: The response it reads.
* `Reading`: A stream in reads.
* `HeadRead`: What reading a head should come to.

## Theorems

* `readHead_of_end`: A head that ends within the limit is found.
* `readUpgrade_lost`: No other is.
* `head_read`: What reading a head comes to.
* `performUpgrade_accounted`: What a handshake leaves to the session.
* `head_read_straddling`: A head that ends in its second read.
-/

namespace Kahea

/-- What `httparse` reads of a head: its length, and the headers when they make
    a response. -/
structure ParsedHead where
  bytes : Nat
  code : Option Nat
  version : Option Nat
  headers : Option HeaderMap

/-- The version of a response. -/
def responseVersion : Option Nat → Option HttpVersion
  | some 1 => some .http11
  | some 0 => some .http10
  | _ => none

/-- The largest read. -/
def chunkBytes : Nat := 4 * 1024

/-- Where the first blank line of some bytes ends. -/
def headEnd (received : List UInt8) : Option Nat :=
  (splitOnce (utf8 "\r\n\r\n") received).map (fun parts => parts.1.length + 4)

section

variable (parse : List UInt8 → Option ParsedHead) (ending : UpgradeError)

/-- The loop that reads a head: where the head ends, what has been received, and
    the reads that are left. The stream ends after its reads. -/
def readHead (received : List UInt8) : List (List UInt8) →
    Except UpgradeError (Nat × List UInt8 × List (List UInt8))
  | [] => match headEnd received with
    | some headerEnd => .ok (headerEnd, received, [])
    | none => if maxHandshakeBytes ≤ received.length then .error .malformed else .error ending
  | chunk :: rest => match headEnd received with
    | some headerEnd => .ok (headerEnd, received, chunk :: rest)
    | none =>
        if maxHandshakeBytes ≤ received.length then .error .malformed
        else if chunk = [] then .error .endOfFile
        else if maxHandshakeBytes + chunkBytes < saturatingAdd received.length chunk.length then
          .error .malformed
        else readHead (received ++ chunk) rest

/-- The response of a head, with what has been received after it. -/
def judgeHead (headerEnd : Nat) (received : List UInt8) : Except UpgradeError HandshakeResponse :=
  match parse (received.take headerEnd) with
  | none => .error .malformed
  | some parsed =>
      if parsed.bytes ≠ headerEnd then .error .malformed
      else if maxHandshakeBytes < headerEnd then .error .malformed
      else match parsed.code, responseVersion parsed.version, parsed.headers with
        | some status, some version, some headers =>
            .ok ⟨status, version, headers, received.drop headerEnd⟩
        | _, _, _ => .error .malformed

/-- The response that `perform_upgrade` reads, and the reads that are left to the
    session. -/
def readUpgrade (reads : List (List UInt8)) :
    Except UpgradeError (HandshakeResponse × List (List UInt8)) := do
  let (headerEnd, received, unread) ← readHead ending [] reads
  let response ← judgeHead parse headerEnd received
  pure (response, unread)

end

/-- A stream in reads: each of them brings something, and no more than fits. -/
structure Reading (stream : List UInt8) where
  reads : List (List UInt8)
  bytes : reads.flatten = stream
  sizes : ∀ chunk ∈ reads, chunk ≠ [] ∧ chunk.length ≤ chunkBytes

/-- The calls that account the bytes of a session: what came with the head, and
    the reads after it. -/
def sessionCalls (buffered : List UInt8) (unread : List (List UInt8)) : List StreamCall :=
  ⟨true, buffered⟩ :: unread.map (fun chunk => ⟨true, chunk⟩)

/-- What reading a head should come to, for a way of reading a stream. -/
structure HeadRead (parse : List UInt8 → Option ParsedHead) (ending : UpgradeError)
    {stream : List UInt8} (r : Reading stream) : Prop where
  /-- A head is found exactly when the first blank line ends within the limit. -/
  found : (∃ headerEnd received unread, readHead ending [] r.reads = .ok (headerEnd, received, unread) ∧
      headerEnd ≤ maxHandshakeBytes) ↔
    ∃ headerEnd, headEnd stream = some headerEnd ∧ headerEnd ≤ maxHandshakeBytes
  /-- The head is the same for every way, and what has been received is some of
      the reads, no more than the head needs. -/
  head : ∀ headerEnd received unread, readHead ending [] r.reads = .ok (headerEnd, received, unread) →
    headerEnd ≤ maxHandshakeBytes → headEnd stream = some headerEnd ∧
      received.take headerEnd = stream.take headerEnd ∧
      ∃ before, r.reads = before ++ unread ∧ received = before.flatten ∧
        before.dropLast.flatten.length < headerEnd ∧ headerEnd ≤ received.length
  /-- A response is read only of such a head, and the bytes handed on are those
      that were received after it. -/
  response : ∀ response unread, readUpgrade parse ending r.reads = .ok (response, unread) →
    ∃ headerEnd received, readHead ending [] r.reads = .ok (headerEnd, received, unread) ∧
      headerEnd ≤ maxHandshakeBytes ∧ response.buffered = received.drop headerEnd
  /-- Every byte after the head is accounted once, in its order. -/
  accounted : ∀ response unread, readUpgrade parse ending r.reads = .ok (response, unread) →
    ∃ headerEnd, headEnd stream = some headerEnd ∧
      sent true (sessionCalls response.buffered unread) = stream.drop headerEnd ∧
      ∀ limits, observe limits (observe limits (WireParser.new, WireAccounting.default)
          response.buffered) unread.flatten =
        observe limits (WireParser.new, WireAccounting.default) (stream.drop headerEnd)
  /-- Every other way of reading the stream comes to the same response. -/
  same : ∀ other : Reading stream,
    (readUpgrade parse ending r.reads).map (fun x => { x.1 with buffered := [] }) =
      (readUpgrade parse ending other.reads).map (fun x => { x.1 with buffered := [] })

/-! ### Blank lines -/

theorem headEnd_append {received : List UInt8} {n : Nat} (h : headEnd received = some n)
    (more : List UInt8) : headEnd (received ++ more) = some n := by
  unfold headEnd at h ⊢
  rcases Option.map_eq_some_iff.mp h with ⟨⟨a, b⟩, hsplit, hn⟩
  rw [splitOnce_append hsplit, Option.map_some]
  exact congrArg some hn

theorem headEnd_le {received : List UInt8} {n : Nat} (h : headEnd received = some n) :
    n ≤ received.length := by
  unfold headEnd at h
  rcases Option.map_eq_some_iff.mp h with ⟨⟨a, b⟩, hsplit, rfl⟩
  have hlength := congrArg List.length (splitOnce_eq_some _ _ _ _ hsplit)
  have hfour : (utf8 "\r\n\r\n").length = 4 := by decide
  rw [List.length_append, List.length_append, hfour] at hlength
  dsimp only
  omega

/-- A blank line that was not there yet ends beyond what was received. -/
theorem length_lt_headEnd {received more : List UInt8} {n : Nat} (hnone : headEnd received = none)
    (h : headEnd (received ++ more) = some n) : received.length < n := by
  unfold headEnd at hnone h
  rcases Option.map_eq_some_iff.mp h with ⟨⟨a, b⟩, hsplit, rfl⟩
  rw [Option.map_eq_none_iff, splitOnce_eq_none] at hnone
  have hbytes := splitOnce_eq_some _ _ _ _ hsplit
  have hfour : (utf8 "\r\n\r\n").length = 4 := by decide
  by_contra hle
  refine hnone ?_
  -- Otherwise the blank line is among the bytes received.
  have hprefix : a ++ utf8 "\r\n\r\n" <+: received := by
    refine List.prefix_of_prefix_length_le ⟨b, hbytes.symm⟩ (List.prefix_append received more) ?_
    rw [List.length_append, hfour]
    dsimp only at hle
    omega
  exact (List.suffix_append a _).isInfix.trans hprefix.isInfix

/-! ### The loop -/

section

variable {parse : List UInt8 → Option ParsedHead} {ending : UpgradeError} {stream : List UInt8}

theorem readHead_done {received : List UInt8} {n : Nat} (h : headEnd received = some n)
    (reads : List (List UInt8)) : readHead ending received reads = .ok (n, received, reads) := by
  cases reads with
  | nil => rw [readHead, h]
  | cons chunk rest => rw [readHead, h]

theorem readHead_more {received chunk : List UInt8} (h : headEnd received = none)
    (hshort : received.length < maxHandshakeBytes) (hchunk : chunk ≠ [])
    (hsize : chunk.length ≤ chunkBytes) (rest : List (List UInt8)) :
    readHead ending received (chunk :: rest) = readHead ending (received ++ chunk) rest := by
  rw [readHead, h]
  dsimp only
  rw [if_neg (Nat.not_le.mpr hshort), if_neg hchunk, if_neg]
  unfold saturatingAdd
  omega

/-- A head that ends within the limit is found with the read that ends it. -/
theorem readHead_of_end {n : Nat} (hend : headEnd stream = some n) (hn : n ≤ maxHandshakeBytes)
    (reads : List (List UInt8)) (received : List UInt8) (hbytes : received ++ reads.flatten = stream)
    (hsizes : ∀ chunk ∈ reads, chunk ≠ [] ∧ chunk.length ≤ chunkBytes) :
    ∃ before unread, reads = before ++ unread ∧
      readHead ending received reads = .ok (n, received ++ before.flatten, unread) ∧
      n ≤ (received ++ before.flatten).length ∧
      (before ≠ [] → (received ++ before.dropLast.flatten).length < n) := by
  -- By the reads still to come, what was received being the start of the stream.
  induction reads generalizing received with
  | nil =>
      rw [List.flatten_nil, List.append_nil] at hbytes
      subst hbytes
      refine ⟨[], [], rfl, ?_, ?_, fun h => absurd rfl h⟩
      · rw [List.flatten_nil, List.append_nil]
        exact readHead_done hend []
      · rw [List.flatten_nil, List.append_nil]
        exact headEnd_le hend
  | cons chunk rest ih =>
      -- The end is in what was received, so nothing more is read.
      cases hreceived : headEnd received with
      | some m =>
          have hsame := headEnd_append hreceived (chunk :: rest).flatten
          rw [hbytes, hend, Option.some.injEq] at hsame
          subst hsame
          refine ⟨[], chunk :: rest, rfl, ?_, ?_, fun h => absurd rfl h⟩
          · rw [List.flatten_nil, List.append_nil]
            exact readHead_done hreceived _
          · rw [List.flatten_nil, List.append_nil]
            exact headEnd_le hreceived
      -- It is not, so what was received is too short to have it.
      | none =>
          have hlt : received.length < n := by
            rw [← hbytes] at hend
            exact length_lt_headEnd hreceived hend
          rcases hsizes chunk List.mem_cons_self with ⟨hchunk, hsize⟩
          rcases ih (received ++ chunk) (by rw [List.append_assoc]; exact hbytes)
            (fun c hc => hsizes c (List.mem_cons_of_mem chunk hc)) with
            ⟨before, unread, rfl, hread, hle, hlast⟩
          refine ⟨chunk :: before, unread, rfl, ?_, ?_, fun _ => ?_⟩
          · rw [readHead_more hreceived (by omega) hchunk hsize, hread, List.flatten_cons,
              List.append_assoc]
          · rw [List.flatten_cons, ← List.append_assoc]
            exact hle
          -- One read too few would end before the head does.
          · by_cases hone : before = []
            · rw [hone]
              simpa using hlt
            · rw [List.dropLast_cons_of_ne_nil hone, List.flatten_cons, ← List.append_assoc]
              exact hlast hone

/-- The loop finds the first blank line of the stream or nothing. -/
theorem headEnd_of_readHead {n : Nat} {reads unread : List (List UInt8)}
    {received received' : List UInt8} (hbytes : received ++ reads.flatten = stream)
    (h : readHead ending received reads = .ok (n, received', unread)) : headEnd stream = some n := by
  -- By the reads; the end found in what was received is the end in the stream.
  induction reads generalizing received with
  | nil =>
      rw [List.flatten_nil, List.append_nil] at hbytes
      subst hbytes
      rw [readHead] at h
      cases hend : headEnd received with
      | some m =>
          rw [hend] at h
          cases h
          rfl
      | none =>
          rw [hend] at h
          dsimp only at h
          split at h <;> cases h
  | cons chunk rest ih =>
      cases hend : headEnd received with
      | some m =>
          rw [readHead_done hend] at h
          cases h
          rw [← hbytes]
          exact headEnd_append hend _
      | none =>
          rw [readHead, hend] at h
          dsimp only at h
          split at h
          · cases h
          · split at h
            · cases h
            · split at h
              · cases h
              · exact ih (by rw [List.append_assoc]; exact hbytes) h

theorem judgeHead_ok {n : Nat} {received : List UInt8} {response : HandshakeResponse}
    (h : judgeHead parse n received = .ok response) :
    n ≤ maxHandshakeBytes ∧ response.buffered = received.drop n := by
  unfold judgeHead at h
  -- The head must parse, end where it was found and be short enough.
  cases hparse : parse (received.take n) with
  | none =>
      rw [hparse] at h
      cases h
  | some parsed =>
      rw [hparse] at h
      dsimp only at h
      by_cases hlength : parsed.bytes ≠ n
      · rw [if_pos hlength] at h
        cases h
      rw [if_neg hlength] at h
      by_cases hlong : maxHandshakeBytes < n
      · rw [if_pos hlong] at h
        cases h
      rw [if_neg hlong] at h
      refine ⟨Nat.le_of_not_lt hlong, ?_⟩
      split at h
      · cases h
        rfl
      · cases h

/-- A response depends on the head alone, but for what came after it. -/
theorem judgeHead_congr {n : Nat} {received received' : List UInt8}
    (h : received.take n = received'.take n) :
    (judgeHead parse n received).map (fun x => { x with buffered := [] }) =
      (judgeHead parse n received').map (fun x => { x with buffered := [] }) := by
  unfold judgeHead
  rw [h]
  cases parse (received'.take n) with
  | none => rfl
  | some parsed =>
      dsimp only
      split
      · rfl
      · split
        · rfl
        · split
          · rfl
          · rfl

/-- Without a blank line the stream is read to its end or to the limit. -/
theorem readHead_of_none (hend : headEnd stream = none) (reads : List (List UInt8))
    (received : List UInt8) (hbytes : received ++ reads.flatten = stream)
    (hsizes : ∀ chunk ∈ reads, chunk ≠ [] ∧ chunk.length ≤ chunkBytes) :
    readHead ending received reads =
      .error (if maxHandshakeBytes ≤ stream.length then .malformed else ending) := by
  -- What was received is a part of the stream, so it has no end either.
  have hreceived : headEnd received = none := by
    cases h : headEnd received with
    | none => rfl
    | some m =>
        rw [← hbytes, headEnd_append h] at hend
        cases hend
  induction reads generalizing received with
  | nil =>
      rw [List.flatten_nil, List.append_nil] at hbytes
      rw [readHead, hreceived, hbytes]
      dsimp only
      split <;> rfl
  | cons chunk rest ih =>
      -- There is room for another read, or the head is too long.
      by_cases hshort : received.length < maxHandshakeBytes
      · rcases hsizes chunk List.mem_cons_self with ⟨hchunk, hsize⟩
        have hmore : (received ++ chunk) ++ rest.flatten = stream := by
          rw [List.append_assoc]
          exact hbytes
        have hnext : headEnd (received ++ chunk) = none := by
          cases h : headEnd (received ++ chunk) with
          | none => rfl
          | some m =>
              rw [← hmore, headEnd_append h] at hend
              cases hend
        rw [readHead_more hreceived hshort hchunk hsize]
        exact ih (received ++ chunk) hmore
          (fun c hc => hsizes c (List.mem_cons_of_mem chunk hc)) hnext
      · have hlength := congrArg List.length hbytes
        rw [List.length_append] at hlength
        rw [readHead, hreceived]
        dsimp only
        rw [if_pos (Nat.le_of_not_lt hshort), if_pos (by omega)]

/-- A blank line beyond the limit is not looked for, or found and judged. -/
theorem readHead_of_far {n : Nat} (hend : headEnd stream = some n) (reads : List (List UInt8))
    (received : List UInt8) (hbytes : received ++ reads.flatten = stream)
    (hsizes : ∀ chunk ∈ reads, chunk ≠ [] ∧ chunk.length ≤ chunkBytes) :
    readHead ending received reads = .error .malformed ∨
      ∃ received' unread, readHead ending received reads = .ok (n, received', unread) := by
  -- By the reads: the head is found, or there is no room for more.
  induction reads generalizing received with
  | nil =>
      rw [List.flatten_nil, List.append_nil] at hbytes
      subst hbytes
      exact Or.inr ⟨_, _, readHead_done hend []⟩
  | cons chunk rest ih =>
      cases hreceived : headEnd received with
      | some m =>
          have hsame := headEnd_append hreceived (chunk :: rest).flatten
          rw [hbytes, hend, Option.some.injEq] at hsame
          subst hsame
          exact Or.inr ⟨_, _, readHead_done hreceived _⟩
      | none =>
          by_cases hshort : received.length < maxHandshakeBytes
          · rcases hsizes chunk List.mem_cons_self with ⟨hchunk, hsize⟩
            rw [readHead_more hreceived hshort hchunk hsize]
            exact ih (received ++ chunk) (by rw [List.append_assoc]; exact hbytes)
              (fun c hc => hsizes c (List.mem_cons_of_mem chunk hc))
          · refine Or.inl ?_
            rw [readHead, hreceived]
            exact if_pos (Nat.le_of_not_lt hshort)

theorem judgeHead_far {n : Nat} (h : maxHandshakeBytes < n) (received : List UInt8) :
    judgeHead parse n received = .error .malformed := by
  cases hresult : judgeHead parse n received with
  | ok response => exact absurd (judgeHead_ok hresult).1 (Nat.not_le.mpr h)
  | error e =>
      unfold judgeHead at hresult
      split at hresult
      · exact hresult.symm
      · split at hresult
        · exact hresult.symm
        · exact hresult.symm

/-- What a stream without a head in the limit comes to. -/
theorem readUpgrade_lost (h : ∀ n, headEnd stream = some n → maxHandshakeBytes < n)
    (r : Reading stream) :
    readUpgrade parse ending r.reads = .error (if maxHandshakeBytes ≤ stream.length then .malformed
      else ending) := by
  unfold readUpgrade
  cases hend : headEnd stream with
  | none =>
      rw [readHead_of_none hend r.reads [] r.bytes r.sizes]
      rfl
  | some n =>
      have hfar := h n hend
      have hlength := headEnd_le hend
      rw [if_pos (by omega)]
      rcases readHead_of_far hend r.reads [] r.bytes r.sizes with herror | ⟨received, unread, hok⟩
      · rw [herror]
        rfl
      · rw [hok]
        change (judgeHead parse n received >>= _) = _
        rw [judgeHead_far hfar]
        rfl

variable (ending) in
/-- A head in the limit is found by every way of reading the stream. -/
theorem readHead_reading {n : Nat} (hend : headEnd stream = some n) (hn : n ≤ maxHandshakeBytes)
    (r : Reading stream) :
    ∃ before unread, r.reads = before ++ unread ∧
      readHead ending [] r.reads = .ok (n, before.flatten, unread) ∧
      n ≤ before.flatten.length ∧ before.dropLast.flatten.length < n := by
  rcases readHead_of_end hend hn r.reads [] r.bytes r.sizes with
    ⟨before, unread, hreads, hread, hle, hlast⟩
  refine ⟨before, unread, hreads, hread, hle, ?_⟩
  by_cases hnone : before = []
  · subst hnone
    -- A blank line takes four bytes.
    have hpos : 4 ≤ n := by
      unfold headEnd at hend
      rcases Option.map_eq_some_iff.mp hend with ⟨_, _, rfl⟩
      exact Nat.le_add_left 4 _
    exact absurd (Nat.le_trans hpos hle) (by decide)
  · exact hlast hnone

theorem readUpgrade_ok {reads unread : List (List UInt8)} {response : HandshakeResponse}
    (h : readUpgrade parse ending reads = .ok (response, unread)) :
    ∃ n received, readHead ending [] reads = .ok (n, received, unread) ∧
      judgeHead parse n received = .ok response := by
  unfold readUpgrade at h
  rcases except_bind_ok.mp h with ⟨⟨n, received, unread'⟩, hread, h⟩
  rcases except_bind_ok.mp h with ⟨response', hjudge, h⟩
  cases h
  exact ⟨n, received, hread, hjudge⟩

theorem sent_sessionCalls (buffered : List UInt8) (unread : List (List UInt8)) :
    sent true (sessionCalls buffered unread) = buffered ++ unread.flatten := by
  have hall : ∀ c ∈ sessionCalls buffered unread, (c.inbound == true) = true := by
    intro c hc
    rcases List.mem_cons.mp hc with rfl | hc
    · rfl
    · rcases List.mem_map.mp hc with ⟨_, _, rfl⟩
      rfl
  unfold sent
  rw [List.filter_eq_self.mpr hall]
  unfold sessionCalls
  rw [List.flatMap_cons, List.flatMap_map, List.flatMap_id']

/-- What came with the head and what is left to read are the bytes after it. -/
theorem readUpgrade_accounted (r : Reading stream) {response : HandshakeResponse}
    {unread : List (List UInt8)} (h : readUpgrade parse ending r.reads = .ok (response, unread)) :
    ∃ n, headEnd stream = some n ∧ response.buffered ++ unread.flatten = stream.drop n := by
  rcases readUpgrade_ok h with ⟨n, received, hread, hjudge⟩
  rcases judgeHead_ok hjudge with ⟨hn, hbuffered⟩
  have hend := headEnd_of_readHead r.bytes hread
  rcases readHead_reading ending hend hn r with ⟨before, unread', hreads, hread', hle, _⟩
  rw [hread, Except.ok.injEq, Prod.mk.injEq, Prod.mk.injEq] at hread'
  rcases hread' with ⟨_, rfl, rfl⟩
  have hbytes := r.bytes
  rw [hreads, List.flatten_append] at hbytes
  refine ⟨n, hend, ?_⟩
  rw [hbuffered, ← hbytes, List.drop_append_of_le_length hle]

/-- What reading a head comes to. -/
theorem head_read (parse : List UInt8 → Option ParsedHead) (ending : UpgradeError)
    {stream : List UInt8} (r : Reading stream) : HeadRead parse ending r where
  found := by
    constructor
    -- A head is read exactly where its end comes early enough.
    · rintro ⟨n, received, unread, hread, hn⟩
      exact ⟨n, headEnd_of_readHead r.bytes hread, hn⟩
    · rintro ⟨n, hend, hn⟩
      rcases readHead_reading ending hend hn r with ⟨before, unread, _, hread, _, _⟩
      exact ⟨n, before.flatten, unread, hread, hn⟩
  head := by
    intro n received unread hread hn
    have hend := headEnd_of_readHead r.bytes hread
    rcases readHead_reading ending hend hn r with
      ⟨before, unread', hreads, hread', hle, hlast⟩
    rw [hread, Except.ok.injEq, Prod.mk.injEq, Prod.mk.injEq] at hread'
    rcases hread' with ⟨_, rfl, rfl⟩
    -- What is left over follows the head in the stream.
    refine ⟨hend, ?_, before, hreads, rfl, hlast, hle⟩
    have hbytes := r.bytes
    rw [hreads, List.flatten_append] at hbytes
    rw [← hbytes, List.take_append_of_le_length hle]
  response := by
    intro response unread h
    rcases readUpgrade_ok h with ⟨n, received, hread, hjudge⟩
    rcases judgeHead_ok hjudge with ⟨hn, hbuffered⟩
    exact ⟨n, received, hread, hn, hbuffered⟩
  accounted := by
    intro response unread h
    rcases readUpgrade_accounted r h with ⟨n, hend, hrest⟩
    refine ⟨n, hend, ?_, fun limits => ?_⟩
    · rw [sent_sessionCalls]
      exact hrest
    · rw [← observe_append, hrest]
  same := by
    -- Two readings of the stream that both find the end judge the same bytes.
    intro other
    by_cases hfound : ∃ n, headEnd stream = some n ∧ n ≤ maxHandshakeBytes
    · rcases hfound with ⟨n, hend, hn⟩
      have hparts : ∀ x : Reading stream,
          (readUpgrade parse ending x.reads).map (fun y => { y.1 with buffered := [] }) =
            (judgeHead parse n (stream.take n)).map (fun y => { y with buffered := [] }) := by
        intro x
        rcases readHead_reading ending hend hn x with
          ⟨before, unread, hreads, hread, hle, _⟩
        have hbytes := x.bytes
        rw [hreads, List.flatten_append] at hbytes
        have htake : before.flatten.take n = (stream.take n).take n := by
          rw [← hbytes, List.take_take, Nat.min_self, List.take_append_of_le_length hle]
        rw [← judgeHead_congr htake]
        unfold readUpgrade
        rw [hread]
        change Except.map _ (judgeHead parse n before.flatten >>= fun response =>
          pure (response, unread)) = _
        cases judgeHead parse n before.flatten with
        | error e => rfl
        | ok response => rfl
      rw [hparts r, hparts other]
    -- Neither finds it, and both fail alike.
    · have hlost : ∀ n, headEnd stream = some n → maxHandshakeBytes < n := fun n hend =>
        Nat.lt_of_not_le (fun hn => hfound ⟨n, hend, hn⟩)
      rw [readUpgrade_lost hlost r, readUpgrade_lost hlost other]

/-- The response of a handshake is the one read, and the wire it leaves has seen
    the bytes that came with the head. -/
theorem acceptUpgrade_wire {lib : Crates} {limits : WebSocketLimits} {offered : List Str}
    {key : Str} {response response' : HandshakeResponse} {wire : WireParser × WireAccounting}
    (h : acceptUpgrade lib limits offered key response = .ok (response', wire)) :
    response' = response ∧ wire.2.failure = none ∧
      wire = observe limits (WireParser.new, WireAccounting.default) response.buffered := by
  unfold acceptUpgrade at h
  by_cases hvalid : (!upgradeValid lib offered key response) = true
  · rw [if_pos hvalid] at h
    cases h
  rw [if_neg hvalid] at h
  dsimp only at h
  cases hfailure : (observe limits (WireParser.new, WireAccounting.default)
      response.buffered).2.failure with
  | some cause =>
      rw [hfailure] at h
      cases h
  | none =>
      rw [hfailure] at h
      cases h
      exact ⟨rfl, hfailure, rfl⟩

/-- The inbound direction after the calls of a session is the wire after all the
    bytes that follow the head. -/
theorem sessionCalls_lane {limits : WebSocketLimits} (hfit : limits.Fit) {bytes buffered : List UInt8}
    {unread : List (List UInt8)} (hbytes : buffered ++ unread.flatten = bytes)
    (hroom : ¬ Overflows (limits.lane true) bytes) :
    (AccountedStream.new.calls limits (sessionCalls buffered unread)).1.lane true =
      (observe limits (WireParser.new, WireAccounting.default) bytes).2.lane true
        (observe limits (WireParser.new, WireAccounting.default) bytes).1 := by
  have hcalls := @calls_new limits true (sessionCalls buffered unread)
  rw [sent_sessionCalls, hbytes] at hcalls
  have hno : (Lane.run (limits.lane true)
      (WireAccounting.default.lane true WireParser.new, none) bytes).2 ≠ some .overflow :=
    fun h => hroom ((overflows_iff (hfit true)).mpr h)
  have hwire := (observe_lane (a := WireAccounting.default) rfl bytes hno).1
  rw [hwire]
  exact (Prod.mk.inj hcalls).1

/-- The handshake over a stream: the session goes on with the response that is
    read and with the reads that are left, and what they bring the wire to is
    what all the bytes after the head bring it to at once. -/
theorem performUpgrade_accounted {lib : Crates} {world : World} {limits : WebSocketLimits}
    {path : Str} {request : HttpRequest} {tls : Bool} {r : Reading stream} (hfit : limits.Fit)
    (hanswer : ∀ past, world.upgrade past request =
      (readUpgrade parse ending r.reads).map Prod.fst) :
    Ensures (performUpgrade lib world limits path request tls)
      (fun outcome => ∀ response wire, outcome = .ok (response, wire) →
        ∃ n unread, readUpgrade parse ending r.reads = .ok (response, unread) ∧
          headEnd stream = some n ∧
          observe limits wire unread.flatten =
            observe limits (WireParser.new, WireAccounting.default) (stream.drop n) ∧
          (¬ Overflows (limits.lane true) (stream.drop n) →
            (AccountedStream.new.calls limits (sessionCalls response.buffered unread)).1.lane true =
              (observe limits wire unread.flatten).2.lane true
                (observe limits wire unread.flatten).1))
      (fun _ => True) := by
  unfold performUpgrade
  -- Without a key, or where the head cannot be written, nothing is read.
  split
  · exact .pure nofun
  · split
    · exact .pure nofun
    · refine .bind (.emit trivial) (fun _ _ => .bind .past (fun past _ => ?_))
      rw [hanswer]
      -- What the world answers is what the stream gives.
      cases hread : readUpgrade parse ending r.reads with
      | error e => exact .pure nofun
      | ok result =>
          rcases result with ⟨response, unread⟩
          refine .pure fun response' wire houtcome => ?_
          rcases acceptUpgrade_wire houtcome with ⟨rfl, _, hwire⟩
          rcases readUpgrade_accounted r hread with ⟨n, hend, hsent⟩
          -- What came with the head was observed first, then the rest.
          have hall : observe limits wire unread.flatten =
              observe limits (WireParser.new, WireAccounting.default) (stream.drop n) := by
            rw [hwire, ← observe_append, hsent]
          refine ⟨n, unread, rfl, hend, hall, fun hroom => ?_⟩
          rw [hall]
          exact sessionCalls_lane hfit hsent hroom

end

/-! ### A head in two reads -/

/-- A head, and a frame of text behind it. -/
def switchStream : List UInt8 := utf8 "HTTP/1.1 101 Upgraded\r\n\r\n" ++ [0x81, 0x01, 0x68]

/-- The head ends in the middle of the second read, and the third brings the rest
    of the frame. -/
def switchReading : Reading switchStream where
  reads := [utf8 "HTTP/1.1 101 Upgraded\r\n\r", utf8 "\n" ++ [0x81], [0x01, 0x68]]
  bytes := by decide +kernel
  sizes := by decide +kernel

/-- What there is to read of this head. -/
def parseSwitch (head : List UInt8) : Option ParsedHead := some ⟨head.length, some 101, some 1, some []⟩

/-- The byte that came with the head is handed on, and the frame is accounted as
    if it had come in one piece. -/
theorem head_read_straddling :
    readUpgrade parseSwitch .endOfFile switchReading.reads =
        .ok (⟨101, .http11, [], [0x81]⟩, [[0x01, 0x68]]) ∧
      sent true (sessionCalls [0x81] [[0x01, 0x68]]) = [0x81, 0x01, 0x68] ∧
      observe (evenLimits 10) (observe (evenLimits 10) (WireParser.new, WireAccounting.default)
          [0x81]) [0x01, 0x68] =
        observe (evenLimits 10) (WireParser.new, WireAccounting.default) [0x81, 0x01, 0x68] := by
  have hread : readUpgrade parseSwitch .endOfFile switchReading.reads =
      .ok (⟨101, .http11, [], [0x81]⟩, [[0x01, 0x68]]) := by rfl
  rcases (head_read parseSwitch .endOfFile switchReading).accounted _ _ hread with
    ⟨n, hend, hsent, hobserve⟩
  have hn : headEnd switchStream = some 25 := by decide +kernel
  rw [hn, Option.some.injEq] at hend
  subst hend
  exact ⟨hread, hsent, hobserve (evenLimits 10)⟩

end Kahea
