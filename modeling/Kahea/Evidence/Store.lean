import Kahea.Base.Stateful
import Kahea.Base.Table
import Kahea.Core.Reference

/-!
# The Evidence Store

The store of `kahea-evidence`: a directory of compressed blobs, named by the
digest of what they hold, and an index of rows under content handles.

A handle is made of the kind and the bytes alone. Storing the same bytes of a
kind again finds the handle taken, and the index keeps the row it has
(`INSERT OR IGNORE`), while the envelope is made from the arguments. So the
first media type and the first redaction flag stay, and an envelope agrees with
what is read back exactly when they did not change: `consistent_iff`.

## Main definitions

* `Codec`: The compression of blobs.
* `EvidenceStore`, `Row`, `EvidenceEnvelope`: The store and what describes a
  record.
* `Put.store`, `get`: Storing and reading back.
* `runPuts`: A run of puts.
* `Consistent`: Every envelope agrees with what is read back.

## Theorems

* `Filed.put`: What a put keeps.
* `get_of_recorded`: What a recorded handle is read back as.
* `consistent_iff`: When the store is consistent.
* `envelope_disagrees`: The same bytes under two media types.
-/

namespace Kahea

/-- The compression of blobs: reading undoes writing. -/
structure Codec where
  /-- `zstd::stream::encode_all`. -/
  encode : List UInt8 → List UInt8
  /-- `zstd::stream::decode_all`. -/
  decode : List UInt8 → Option (List UInt8)
  decode_encode : ∀ data, decode (encode data) = some data

inductive EvidenceError where
  | io (reason : Str)
  | database (reason : Str)
  | serialization (reason : Str)
  | notFound (handle : Str)
  | digestMismatch
  | invalidSelector (reason : Str)
  | selectionNotFound
  | selectionTooLarge
  deriving DecidableEq, Repr

/-- A row of the index. -/
structure Row where
  kind : Str
  mediaType : Str
  bytes : Nat
  blake3 : Str
  redacted : Bool
  blobPath : Str
  deriving DecidableEq, Repr

/-- The description of a stored record. -/
structure EvidenceEnvelope where
  protocol : Str
  kind : Str
  version : Str
  configFingerprint : Str
  handle : Str
  mediaType : Str
  bytes : Nat
  blake3 : Str
  redacted : Bool
  exit : Nat
  deriving DecidableEq, Repr

structure EvidenceRecord where
  envelope : EvidenceEnvelope
  data : List UInt8
  deriving DecidableEq, Repr

/-- The files below `blobs` and `observations`, and the index. -/
structure EvidenceStore where
  blobs : List (Str × List UInt8)
  observations : List (Str × List UInt8)
  index : List (Str × Row)

namespace EvidenceStore

/-- A store that was just created. -/
def empty : EvidenceStore := ⟨[], [], []⟩

end EvidenceStore

/-- What the disk and the index answer during one put. -/
structure DiskAnswers where
  createDir : Except Str Unit
  write : Except Str Unit
  rename : Except Str Unit
  execute : Except Str Unit

/-- A disk without faults. -/
def DiskAnswers.fine : DiskAnswers := ⟨.ok (), .ok (), .ok (), .ok ()⟩

section

variable (lib : Crates) (codec : Codec)

/-- The file of a blob, below the root of the store. -/
def blobPath (hex : Str) : Str := "blobs/" ++ hex.take 2 ++ '/' :: (hex ++ ".zst")

/-- The arguments of a put. -/
@[ext]
structure Put where
  kind : Str
  mediaType : Str
  data : List UInt8
  redacted : Bool
  deriving DecidableEq, Repr

namespace Put

def handle (p : Put) : Str := shortHandle lib p.kind [p.data]

def path (p : Put) : Str := blobPath (lib.blake3 p.data)

/-- The row a put wants to add. -/
def row (p : Put) : Row :=
  { kind := p.kind
    mediaType := p.mediaType
    bytes := p.data.length
    blake3 := digest lib p.data
    redacted := p.redacted
    blobPath := p.path lib }

/-- The envelope a put returns. -/
def envelope (p : Put) : EvidenceEnvelope :=
  { protocol := PROTOCOL
    kind := "evidence"
    version := VERSION
    configFingerprint := defaultConfigFingerprint lib
    handle := p.handle lib
    mediaType := p.mediaType
    bytes := p.data.length
    blake3 := digest lib p.data
    redacted := p.redacted
    exit := 0 }

end Put

/-- An answer of the disk. -/
def answered (answer : Except Str Unit) (error : Str → EvidenceError) :
    EStateM EvidenceError EvidenceStore Unit :=
  match answer with
  | .ok () => pure ()
  | .error reason => throw (error reason)

/-- Write a blob unless its file is there. It is written under another name
    first, so a file of this name is whole. -/
def writeBlob (answers : DiskAnswers) (path : Str) (data : List UInt8) :
    EStateM EvidenceError EvidenceStore Unit := do
  let store ← get
  if (lookup path store.blobs).isSome then pure ()
  else
    answered answers.createDir .io
    answered answers.write .io
    answered answers.rename .io
    modify (fun s => { s with blobs := addNew path (codec.encode data) s.blobs })

/-- The method `put_blob`. -/
def Put.store (answers : DiskAnswers) (p : Put) :
    EStateM EvidenceError EvidenceStore EvidenceEnvelope := do
  writeBlob codec answers (p.path lib) p.data
  answered answers.execute .database
  modify (fun s => { s with index := addNew (p.handle lib) (p.row lib) s.index })
  pure (p.envelope lib)

/-- The arguments `put_json` calls `put_blob` with. -/
def jsonPut (kind : Str) (value : Value) (redacted : Bool) : Put :=
  ⟨kind, "application/json", utf8 value.render, redacted⟩

namespace EvidenceStore

/-- The method `get`. -/
def get (store : EvidenceStore) (handle : Str) : Except EvidenceError EvidenceRecord :=
  match lookup handle store.index with
  | none => .error (.notFound handle)
  | some row => match lookup row.blobPath store.blobs with
    | none => .error (.io "No such file or directory")
    | some compressed => match codec.decode compressed with
      | none => .error (.io "Unknown frame descriptor")
      | some data =>
          if digest lib data ≠ row.blake3 ∨ data.length ≠ row.bytes then .error .digestMismatch
          else .ok
            { envelope :=
                { protocol := PROTOCOL
                  kind := "evidence"
                  version := VERSION
                  configFingerprint := defaultConfigFingerprint lib
                  handle := handle
                  mediaType := row.mediaType
                  bytes := row.bytes
                  blake3 := row.blake3
                  redacted := row.redacted
                  exit := 0 }
              data := data }

end EvidenceStore

/-! ### Runs of puts -/

/-- A run of puts: what the successful ones have returned, and the store they
    leave. -/
def runPuts : List (Put × DiskAnswers) → EvidenceStore →
    List (Put × EvidenceEnvelope) × EvidenceStore
  | [], store => ([], store)
  | (p, answers) :: rest, store =>
      match p.store lib codec answers store with
      | .ok envelope store =>
          let (returned, store) := runPuts rest store
          ((p, envelope) :: returned, store)
      | .error _ store => runPuts rest store

/-- No two puts of a run have the same handle or the same digest by accident. -/
structure NoCollision (puts : List Put) : Prop where
  handle : ∀ p ∈ puts, ∀ q ∈ puts, p.handle lib = q.handle lib → p.kind = q.kind ∧ p.data = q.data
  digest : ∀ p ∈ puts, ∀ q ∈ puts, lib.blake3 p.data = lib.blake3 q.data → p.data = q.data

/-- After every part of a run, each envelope that was returned so far is what
    its handle is read back with, and its data are those of its put. -/
def Consistent (calls : List (Put × DiskAnswers)) : Prop :=
  ∀ before, before <+: calls → ∀ r ∈ (runPuts lib codec before .empty).1,
    (runPuts lib codec before .empty).2.get lib codec r.2.handle = .ok ⟨r.2, r.1.data⟩

/-- The puts of a run that return give the same bytes of a kind the same media
    type and the same flag. -/
def Steady (calls : List (Put × DiskAnswers)) : Prop :=
  ∀ r ∈ (runPuts lib codec calls .empty).1, ∀ r' ∈ (runPuts lib codec calls .empty).1,
    r.1.kind = r'.1.kind → r.1.data = r'.1.data →
      r.1.mediaType = r'.1.mediaType ∧ r.1.redacted = r'.1.redacted

end

/-! ### What a put keeps -/

section

variable {lib : Crates} {codec : Codec}

/-- Different digests have different files. -/
theorem blobPath_injective {hex hex' : Str} (h : blobPath hex = blobPath hex') : hex = hex' := by
  unfold blobPath at h
  have hlength := congrArg List.length h
  simp only [List.length_append, List.length_cons, List.length_take] at hlength
  have hsame : hex.length = hex'.length := by omega
  have htake : ("blobs/" ++ hex.take 2 : Str).length = ("blobs/" ++ hex'.take 2 : Str).length := by
    simp only [List.length_append, List.length_take, hsame]
  have htail := (List.append_inj h htake).2
  rw [List.cons.injEq] at htail
  exact (List.append_inj htail.2 hsame).1

/-- The store holds the blobs of some puts, and rows of those that were
    recorded. -/
structure Filed (lib : Crates) (codec : Codec) (puts recorded : List Put) (s : EvidenceStore) :
    Prop where
  blobs : ∀ path content, lookup path s.blobs = some content →
    ∃ p ∈ puts, path = p.path lib ∧ content = codec.encode p.data
  written : ∀ p ∈ recorded, (lookup (p.path lib) s.blobs).isSome
  /-- The row of a handle is that of the first put with it. -/
  index : ∀ handle, lookup handle s.index
    = lookup handle (recorded.map (fun p => (p.handle lib, p.row lib)))

theorem Filed.empty : Filed lib codec [] [] .empty where
  blobs := nofun
  written := nofun
  index _ := rfl

/-- A blob is written, or was there, or the store is left as it was. -/
theorem writeBlob_cases (answers : DiskAnswers) (path : Str) (data : List UInt8)
    (s : EvidenceStore) :
    writeBlob codec answers path data s =
        .ok () { s with blobs := addNew path (codec.encode data) s.blobs } ∨
      ∃ e, writeBlob codec answers path data s = .error e s := by
  unfold writeBlob
  rw [state_get_bind]
  by_cases hthere : (lookup path s.blobs).isSome
  · have hsame : addNew path (codec.encode data) s.blobs = s.blobs := if_pos hthere
    rw [if_pos hthere, hsame]
    exact Or.inl rfl
  · rw [if_neg hthere]
    rcases answers with ⟨_ | _, _ | _, _ | _, _⟩
    all_goals first | exact Or.inl rfl | exact Or.inr ⟨_, rfl⟩

/-- A put that returns has written its blob and offered its row. -/
theorem store_ok {answers : DiskAnswers} {p : Put} {s t : EvidenceStore}
    {envelope : EvidenceEnvelope} (h : p.store lib codec answers s = .ok envelope t) :
    envelope = p.envelope lib ∧
      t = { s with
        blobs := addNew (p.path lib) (codec.encode p.data) s.blobs
        index := addNew (p.handle lib) (p.row lib) s.index } := by
  unfold Put.store at h
  rw [state_bind_ok] at h
  rcases h with ⟨_, u, hwrite, h⟩
  rcases writeBlob_cases answers (p.path lib) p.data s with hok | ⟨e, herror⟩
  · rw [hok] at hwrite
    cases hwrite
    rcases answers with ⟨_, _, _, _ | _⟩
    · cases h
    · cases h
      exact ⟨rfl, rfl⟩
  · rw [herror] at hwrite
    cases hwrite

/-- A put that fails has written its blob at most. -/
theorem store_error {answers : DiskAnswers} {p : Put} {s t : EvidenceStore} {e : EvidenceError}
    (h : p.store lib codec answers s = .error e t) :
    t = s ∨ t = { s with blobs := addNew (p.path lib) (codec.encode p.data) s.blobs } := by
  unfold Put.store at h
  rw [state_bind_error] at h
  -- The blob is written first, then the row.
  rcases writeBlob_cases answers (p.path lib) p.data s with hok | ⟨e', herror⟩
  · rcases h with h | ⟨_, u, hwrite, h⟩
    · rw [hok] at h
      cases h
    · rw [hok] at hwrite
      cases hwrite
      rcases answers with ⟨_, _, _, _ | _⟩
      · cases h
        exact Or.inr rfl
      · cases h
  · rcases h with h | ⟨_, u, hwrite, _⟩
    · rw [herror] at h
      cases h
      exact Or.inl rfl
    · rw [herror] at hwrite
      cases hwrite

/-- A disk without faults lets every put return. -/
theorem store_fine (p : Put) (s : EvidenceStore) :
    ∃ t, p.store lib codec .fine s = .ok (p.envelope lib) t := by
  unfold Put.store
  have hwrite : ∃ u, writeBlob codec .fine (p.path lib) p.data s = .ok () u := by
    unfold writeBlob
    rw [state_get_bind]
    split
    · exact ⟨s, rfl⟩
    · exact ⟨_, rfl⟩
  rcases hwrite with ⟨u, hu⟩
  rw [state_bind_of_ok hu]
  exact ⟨_, rfl⟩

section

variable {puts recorded : List Put} {s : EvidenceStore}

theorem Filed.more (h : Filed lib codec puts recorded s) (p : Put) :
    Filed lib codec (puts ++ [p]) recorded s where
  blobs path content hcontent := by
    rcases h.blobs path content hcontent with ⟨q, hq, hpath⟩
    exact ⟨q, List.mem_append_left [p] hq, hpath⟩
  written := h.written
  index := h.index

/-- Another blob, or one that was there. -/
theorem Filed.addBlob (h : Filed lib codec puts recorded s) (p : Put) :
    Filed lib codec (puts ++ [p]) recorded
      { s with blobs := addNew (p.path lib) (codec.encode p.data) s.blobs } where
  blobs := by
    intro path content hcontent
    dsimp only at hcontent
    rw [lookup_addNew] at hcontent
    rcases Option.or_eq_some_iff.mp hcontent with hold | ⟨_, hnew⟩
    · exact (h.more p).blobs path content hold
    · rw [Option.ite_none_right_eq_some] at hnew
      rcases hnew with ⟨rfl, hnew⟩
      cases hnew
      exact ⟨p, List.mem_append_right puts (List.mem_singleton_self p), rfl, rfl⟩
  written := by
    intro q hq
    dsimp only
    rw [lookup_addNew, Option.isSome_or, h.written q hq, Bool.true_or]
  index := h.index

/-- A put that returns is recorded. -/
theorem Filed.put (h : Filed lib codec puts recorded s) (p : Put) :
    Filed lib codec (puts ++ [p]) (recorded ++ [p])
      { s with
        blobs := addNew (p.path lib) (codec.encode p.data) s.blobs
        index := addNew (p.handle lib) (p.row lib) s.index } where
  blobs := (h.addBlob p).blobs
  written := by
    intro q hq
    rcases List.mem_append.mp hq with hq | hq
    · exact (h.addBlob p).written q hq
    · rw [List.mem_singleton.mp hq]
      dsimp only
      rw [lookup_addNew, if_pos rfl, Option.isSome_or, Option.isSome_some, Bool.or_true]
  index := by
    intro handle
    dsimp only
    rw [lookup_addNew, h.index, List.map_append, lookup_append]
    rfl

/-- A put that fails is not recorded. -/
theorem Filed.failed (h : Filed lib codec puts recorded s) {answers : DiskAnswers} {p : Put}
    {e : EvidenceError} {t : EvidenceStore} (hfailed : p.store lib codec answers s = .error e t) :
    Filed lib codec (puts ++ [p]) recorded t := by
  rcases store_error hfailed with rfl | rfl
  · exact h.more p
  · exact h.addBlob p

theorem runPuts_ok {p : Put} {answers : DiskAnswers} {s t : EvidenceStore}
    {envelope : EvidenceEnvelope} (h : p.store lib codec answers s = .ok envelope t)
    (rest : List (Put × DiskAnswers)) :
    runPuts lib codec ((p, answers) :: rest) s =
      ((p, envelope) :: (runPuts lib codec rest t).1, (runPuts lib codec rest t).2) := by
  rw [runPuts, h]

theorem runPuts_error {p : Put} {answers : DiskAnswers} {s t : EvidenceStore} {e : EvidenceError}
    (h : p.store lib codec answers s = .error e t) (rest : List (Put × DiskAnswers)) :
    runPuts lib codec ((p, answers) :: rest) s = runPuts lib codec rest t := by
  rw [runPuts, h]

/-- A run files its puts and records those that return, each with the envelope
    of its arguments. -/
theorem Filed.run (h : Filed lib codec puts recorded s) (calls : List (Put × DiskAnswers)) :
    Filed lib codec (puts ++ calls.map Prod.fst)
        (recorded ++ (runPuts lib codec calls s).1.map Prod.fst) (runPuts lib codec calls s).2 ∧
      ∀ r ∈ (runPuts lib codec calls s).1, r.2 = r.1.envelope lib := by
  -- By the calls; one that fails may leave a blob, but no row.
  induction calls generalizing puts recorded s with
  | nil =>
      rw [List.map_nil, List.append_nil]
      refine ⟨?_, nofun⟩
      rw [runPuts, List.map_nil, List.append_nil]
      exact h
  | cons call rest ih =>
      rcases call with ⟨p, answers⟩
      rw [List.map_cons, List.append_cons]
      cases hstore : p.store lib codec answers s with
      | error e t =>
          rw [runPuts_error hstore]
          exact ih (h.failed hstore)
      | ok envelope t =>
          rw [runPuts_ok hstore]
          rcases store_ok hstore with ⟨henvelope, rfl⟩
          rcases ih (h.put p) with ⟨hfiled, henvelopes⟩
          dsimp only
          rw [List.map_cons, List.append_cons recorded]
          refine ⟨hfiled, fun r hr => ?_⟩
          rcases List.mem_cons.mp hr with rfl | hr
          · exact henvelope
          · exact henvelopes r hr

end

/-- What a run of puts has recorded in a new store. -/
theorem filed_run (calls : List (Put × DiskAnswers)) :
    Filed lib codec (calls.map Prod.fst) ((runPuts lib codec calls .empty).1.map Prod.fst)
      (runPuts lib codec calls .empty).2 :=
  (Filed.empty.run calls).1

theorem envelope_run {calls : List (Put × DiskAnswers)} {r : Put × EvidenceEnvelope}
    (h : r ∈ (runPuts lib codec calls .empty).1) : r.2 = r.1.envelope lib :=
  (Filed.empty.run calls).2 r h

/-- What returns is among the calls. -/
theorem mem_runPuts (calls : List (Put × DiskAnswers)) (s : EvidenceStore) :
    ∀ r ∈ (runPuts lib codec calls s).1, r.1 ∈ calls.map Prod.fst := by
  induction calls generalizing s with
  | nil => exact nofun
  | cons call rest ih =>
      rcases call with ⟨p, answers⟩
      cases hstore : p.store lib codec answers s with
      | error e t =>
          rw [runPuts_error hstore]
          exact fun r hr => List.mem_cons_of_mem p (ih t r hr)
      | ok envelope t =>
          rw [runPuts_ok hstore]
          intro r hr
          rcases List.mem_cons.mp hr with rfl | hr
          · exact List.mem_cons_self
          · exact List.mem_cons_of_mem p (ih t r hr)

/-- What returns early in a run returns in the whole run. -/
theorem runPuts_append (before after : List (Put × DiskAnswers)) (s : EvidenceStore) :
    (runPuts lib codec (before ++ after) s).1 = (runPuts lib codec before s).1 ++
      (runPuts lib codec after (runPuts lib codec before s).2).1 := by
  induction before generalizing s with
  | nil => rfl
  | cons call rest ih =>
      rcases call with ⟨p, answers⟩
      rw [List.cons_append]
      cases hstore : p.store lib codec answers s with
      | error e t =>
          rw [runPuts_error hstore, runPuts_error hstore]
          exact ih t
      | ok envelope t =>
          rw [runPuts_ok hstore, runPuts_ok hstore]
          exact congrArg ((p, envelope) :: ·) (ih t)

/-! ### Reading back -/

theorem lookup_map_some {α β : Type} {key : α → Str} {f : α → β} {l : List α} {k : Str} {v : β}
    (h : lookup k (l.map (fun a => (key a, f a))) = some v) : ∃ a ∈ l, key a = k ∧ v = f a := by
  rcases List.mem_map.mp (lookup_mem h) with ⟨a, ha, heq⟩
  cases heq
  exact ⟨a, ha, rfl, rfl⟩

theorem lookup_map_isSome {α β : Type} (key : α → Str) (f : α → β) {l : List α} {a : α}
    (h : a ∈ l) : (lookup (key a) (l.map (fun a => (key a, f a)))).isSome := by
  induction l with
  | nil => cases h
  | cons b rest ih =>
      rw [List.map_cons, lookup]
      by_cases hkey : key b = key a
      · rw [if_pos hkey]
        rfl
      · rw [if_neg hkey]
        rcases List.mem_cons.mp h with rfl | h
        · exact absurd rfl hkey
        · exact ih h

/-- A recorded handle is read back with its data, and with the envelope of the
    put that recorded it first. -/
theorem get_of_recorded {puts recorded : List Put} {s : EvidenceStore}
    (h : Filed lib codec puts recorded s) (hno : NoCollision lib puts)
    (hsubset : ∀ p ∈ recorded, p ∈ puts) {p : Put} (hp : p ∈ recorded) :
    ∃ q ∈ recorded, q.kind = p.kind ∧ q.data = p.data ∧
      s.get lib codec (p.handle lib) = .ok ⟨q.envelope lib, p.data⟩ := by
  have hsome := lookup_map_isSome (fun p : Put => p.handle lib) (fun p => p.row lib) hp
  rcases Option.isSome_iff_exists.mp hsome with ⟨row, hrow⟩
  -- The row found under the handle was made by some put.
  rcases lookup_map_some hrow with ⟨q, hq, hhandle, rfl⟩
  -- Without a collision it is one of the same kind and data.
  rcases hno.handle q (hsubset q hq) p (hsubset p hp) hhandle with ⟨hkind, hdata⟩
  refine ⟨q, hq, hkind, hdata, ?_⟩
  rcases Option.isSome_iff_exists.mp (h.written q hq) with ⟨content, hcontent⟩
  rcases h.blobs _ _ hcontent with ⟨w, hw, hpath, rfl⟩
  have hsame : w.data = q.data :=
    (hno.digest q (hsubset q hq) w hw (blobPath_injective hpath)).symm
  -- The blob has the digest and the size the row says.
  unfold EvidenceStore.get
  rw [h.index, hrow]
  dsimp only [Put.row]
  rw [hcontent]
  dsimp only
  rw [codec.decode_encode, hsame]
  dsimp only
  have hmatch : ¬(digest lib q.data ≠ digest lib q.data ∨ q.data.length ≠ q.data.length) := by
    simp
  rw [if_neg hmatch, Put.envelope, ← hhandle, hdata]

/-! ### Consistency -/

/-- Envelopes that agree with the same row agree. -/
theorem steady_of_consistent {calls : List (Put × DiskAnswers)}
    (h : Consistent lib codec calls) : Steady lib codec calls := by
  intro r hr r' hr' hkind hdata
  have hget := h calls (List.prefix_refl calls) r hr
  have hget' := h calls (List.prefix_refl calls) r' hr'
  rw [envelope_run hr] at hget
  rw [envelope_run hr'] at hget'
  have hhandle : (r.1.envelope lib).handle = (r'.1.envelope lib).handle := by
    change shortHandle lib r.1.kind [r.1.data] = shortHandle lib r'.1.kind [r'.1.data]
    rw [hkind, hdata]
  rw [hhandle, hget', Except.ok.injEq, EvidenceRecord.mk.injEq] at hget
  have henvelope := hget.1
  exact ⟨(congrArg EvidenceEnvelope.mediaType henvelope).symm,
    (congrArg EvidenceEnvelope.redacted henvelope).symm⟩

/-- Every envelope agrees with what is read back, at any time after it was
    returned, exactly when the same bytes of a kind are always put with the
    same media type and the same flag. -/
theorem consistent_iff {calls : List (Put × DiskAnswers)}
    (hno : NoCollision lib (calls.map Prod.fst)) :
    Consistent lib codec calls ↔ Steady lib codec calls := by
  refine ⟨steady_of_consistent, fun h => ?_⟩
  rintro before ⟨after, rfl⟩ r hr
  have hpart : NoCollision lib (before.map Prod.fst) := by
    rw [List.map_append] at hno
    exact ⟨fun p hp q hq => hno.handle p (List.mem_append_left _ hp) q (List.mem_append_left _ hq),
      fun p hp q hq => hno.digest p (List.mem_append_left _ hp) q (List.mem_append_left _ hq)⟩
  have hsubset : ∀ p ∈ (runPuts lib codec before .empty).1.map Prod.fst,
      p ∈ before.map Prod.fst := by
    intro p hp
    rcases List.mem_map.mp hp with ⟨r, hr, rfl⟩
    exact mem_runPuts before .empty r hr
  rcases get_of_recorded (filed_run before) hpart hsubset (List.mem_map_of_mem hr) with
    ⟨q, hq, hkind, hdata, hget⟩
  rcases List.mem_map.mp hq with ⟨r', hr', rfl⟩
  have hwhole : ∀ x ∈ (runPuts lib codec before .empty).1,
      x ∈ (runPuts lib codec (before ++ after) .empty).1 := by
    intro x hx
    rw [runPuts_append]
    exact List.mem_append_left _ hx
  -- The put that recorded the handle first had the same arguments.
  rcases h r' (hwhole r' hr') r (hwhole r hr) hkind hdata with ⟨hmedia, hredacted⟩
  have hput : r'.1 = r.1 := Put.ext hkind hmedia hdata hredacted
  rw [hput] at hget
  rw [envelope_run hr]
  exact hget

end

/-- A compression that leaves the bytes alone. -/
def plainCodec : Codec := ⟨id, some, fun _ => rfl⟩

/-- A body as the store gets it. -/
def bodyPut (mediaType : Str) : Put := ⟨"body", mediaType, utf8 "{}", false⟩

/-- Storing a body again leaves the store consistent. -/
theorem consistent_again : Consistent referenceCrates plainCodec
    [(bodyPut "application/json", .fine), (bodyPut "application/json", .fine)] := by
  have hsame : ∀ p ∈ [bodyPut "application/json", bodyPut "application/json"],
      p = bodyPut "application/json" := by
    intro p hp
    simpa using hp
  refine (consistent_iff ⟨?_, ?_⟩).mpr ?_
  · intro p hp q hq _
    rw [hsame p hp, hsame q hq]
    exact ⟨rfl, rfl⟩
  · intro p hp q hq _
    rw [hsame p hp, hsame q hq]
  · intro r hr r' hr' _ _
    rw [hsame r.1 (mem_runPuts _ _ r hr), hsame r'.1 (mem_runPuts _ _ r' hr')]
    exact ⟨rfl, rfl⟩

/-- The same body is put under two media types, and the second envelope is not
    what its handle is read back with. -/
theorem envelope_disagrees : ¬ Consistent referenceCrates plainCodec
    [(bodyPut "text/plain", .fine), (bodyPut "application/json", .fine)] := by
  intro h
  have hsteady := steady_of_consistent h
  rcases @store_fine referenceCrates plainCodec (bodyPut "text/plain") .empty with ⟨s, hfirst⟩
  rcases @store_fine referenceCrates plainCodec (bodyPut "application/json") s with ⟨t, hsecond⟩
  have hrun : (runPuts referenceCrates plainCodec
      [(bodyPut "text/plain", .fine), (bodyPut "application/json", .fine)] .empty).1 =
        [(bodyPut "text/plain", (bodyPut "text/plain").envelope referenceCrates),
          (bodyPut "application/json", (bodyPut "application/json").envelope referenceCrates)] := by
    simp only [runPuts, hfirst, hsecond]
  unfold Steady at hsteady
  rw [hrun] at hsteady
  have hmedia := (hsteady _ List.mem_cons_self _ (List.mem_cons_of_mem _ List.mem_cons_self)
    rfl rfl).1
  have hne : "text/plain".toList ≠ "application/json".toList := by decide
  exact hne hmedia

end Kahea
