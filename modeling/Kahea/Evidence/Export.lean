import Kahea.Base.Explore
import Kahea.Core.Observation
import Kahea.Core.Reference
import Kahea.Evidence.Store

/-!
# Evidence Bundles

The method `export_bundle` of `kahea-evidence`: the records that are reachable
from one of them, in one file.

What a record refers to is read off its bytes. Every string of a JSON record
that looks like a handle is followed, whoever wrote it: a response body, a
header value in a trace. The references the executors write are among these
strings, so nothing of theirs is missed, but a look-alike adds a record, or
ends the export when nothing is stored under it. An export is complete exactly
when all texts it follows lead to records that the executors' own references
lead to as well: `export_complete_iff`.

## Main definitions

* `collectHandles`, `mentions`: The texts that are followed.
* `exportBundle`: The export.
* `Call`, `afterCalls`: Calls that store evidence, with the references the
  executors wrote into it.
* `Cites`: The references between stored records.
* `Complete`, `Followed`: What an export should be, and when it is.

## Theorems

* `export_complete_iff`: When an export is complete.
* `followed_of_written`: Written references are not missed.
* `export_observation`: An observation with its trace and its body.
* `export_lookalike`: A body with a look-alike.
-/

namespace Kahea

/-! ### Following handles -/

/-- The kinds of the handles that are followed. -/
def followedKinds : List Str :=
  ["body", "trace", "schema-error", "request-derivation", "observation", "certificate",
    "transcript", "websocket-trace", "websocket-handshake", "websocket-text", "websocket-json",
    "websocket-binary", "websocket-control"].map String.toList

/-- Whether a text looks like the handle of a record. -/
def looksLikeHandle (text : Str) : Bool :=
  match splitOnce ":" text with
  | some (kind, id) => followedKinds.contains kind && decide (8 ≤ (utf8 id).length)
  | none => false

mutual

/-- The texts of a value that look like handles, in order. -/
def collectHandles : Value → List Str
  | .string text => if looksLikeHandle text then [text] else []
  | .array values => collectItems values
  | .object members => collectMembers members
  | _ => []

def collectItems : List Value → List Str
  | [] => []
  | v :: rest => collectHandles v ++ collectItems rest

def collectMembers : List (Str × Value) → List Str
  | [] => []
  | (_, v) :: rest => collectHandles v ++ collectMembers rest

end

theorem mem_collectMembers {t : Str} {members : List (Str × Value)} :
    t ∈ collectMembers members ↔ ∃ e ∈ members, t ∈ collectHandles e.2 := by
  induction members with
  | nil => simp [collectMembers]
  | cons e rest ih =>
      rcases e with ⟨k, v⟩
      simp [collectMembers, ih]

section

variable (lib : Crates) (codec : Codec)

/-- The texts of a record that are followed. -/
def mentions (mediaType : Str) (data : List UInt8) : List Str :=
  if "json".toList <:+: mediaType then
    match lib.parseJson data with
    | .ok value => collectHandles value
    | .error _ => []
  else []

/-- Read a record and what it mentions; what is mentioned last is visited
    first. -/
def visitRecord (store : EvidenceStore) (handle : Str) :
    Except EvidenceError (EvidenceRecord × List Str) :=
  match store.get lib codec handle with
  | .error e => .error e
  | .ok record => .ok (record, (mentions lib record.envelope.mediaType record.data).reverse)

/-- The largest number of records in a bundle. -/
def bundleLimit : Nat := 1000

/-- What a bundle shows of a record. -/
def EvidenceRecord.toJson (record : EvidenceRecord) : Value :=
  jsonSorted [("media_type", .string record.envelope.mediaType),
    ("bytes", jsonNat record.envelope.bytes), ("blake3", .string record.envelope.blake3),
    ("redacted", .bool record.envelope.redacted), ("encoding", .string "base64"),
    ("data", .string (base64Encode record.data))]

/-- The text of a bundle. -/
def bundle (root : Str) (records : List (Str × EvidenceRecord)) : Value :=
  jsonSorted [("protocol", .string PROTOCOL), ("kind", .string "evidence-bundle"),
    ("version", .string VERSION), ("root", .string root),
    ("records", .object (writeAll (records.map (fun e => (e.1, e.2.toJson))) []))]

/-- The records of an export. -/
def exportRecords (store : EvidenceStore) (root : Str) :
    Except EvidenceError (List (Str × EvidenceRecord)) :=
  explore (visitRecord lib codec store) .selectionTooLarge bundleLimit [root] []

/-- The method `export_bundle`, up to the writing of the file. -/
def exportBundle (store : EvidenceStore) (root : Str) : Except EvidenceError Value :=
  (exportRecords lib codec store root).map (bundle root)

/-! ### Stored evidence -/

/-- A call that stores evidence. An executor that persists an observation
    writes a file of it as well. -/
structure Call where
  put : Put
  answers : DiskAnswers
  /-- The answers when the file of an observation is written and renamed. -/
  observation : Option (Except Str Unit × Except Str Unit)
  /-- The handles the executor wrote into the record. -/
  references : List Str

/-- The file of an observation. -/
def observationPath (handle : Str) : Str :=
  "observations/" ++ handle.map (fun c => if c = ':' then '-' else c) ++ ".json"

/-- The store after the file of an observation was written, if it was. -/
def Call.persist (c : Call) (s : EvidenceStore) : EvidenceStore :=
  match c.observation with
  | some (.ok (), .ok ()) =>
      { s with
        observations := insert (observationPath (c.put.handle lib)) c.put.data s.observations }
  | _ => s

/-- A run of calls: those that were recorded, and the store they leave. -/
def afterCalls : List Call → EvidenceStore → List Call × EvidenceStore
  | [], s => ([], s)
  | c :: rest, s =>
      match c.put.store lib codec c.answers s with
      | .ok _ t => (c :: (afterCalls rest (c.persist lib t)).1, (afterCalls rest (c.persist lib t)).2)
      | .error _ t => afterCalls rest t

/-- A stored record refers to another one. -/
def Cites (recorded : List Call) (a b : Str) : Prop :=
  ∃ c ∈ recorded, c.put.handle lib = a ∧ b ∈ c.references ∧
    ∃ d ∈ recorded, d.put.handle lib = b

/-- A stored record mentions a text that is followed. -/
def Mentions (store : EvidenceStore) (a b : Str) : Prop :=
  ∃ record, store.get lib codec a = .ok record ∧
    b ∈ mentions lib record.envelope.mediaType record.data

/-- The export succeeds, and its records are the given ones, as they are
    stored. -/
def Complete (calls : List Call) (root : Str) (nodes : List Str) : Prop :=
  ∃ records : List (Str × EvidenceRecord),
    exportRecords lib codec (afterCalls lib codec calls .empty).2 root = .ok records ∧
    exportBundle lib codec (afterCalls lib codec calls .empty).2 root = .ok (bundle root records) ∧
    (records.map Prod.fst).Nodup ∧ (∀ b, b ∈ records.map Prod.fst ↔ b ∈ nodes) ∧
    ∀ e ∈ records, (afterCalls lib codec calls .empty).2.get lib codec e.1 = .ok e.2

/-- The texts that are followed from a record on lead where the references
    lead. -/
structure Followed (calls : List Call) (root : Str) : Prop where
  only : ∀ a, Relation.ReflTransGen (Cites lib (afterCalls lib codec calls .empty).1) root a →
    ∀ t, Mentions lib codec (afterCalls lib codec calls .empty).2 a t →
      Relation.ReflTransGen (Cites lib (afterCalls lib codec calls .empty).1) root t
  all : ∀ a, Relation.ReflTransGen (Cites lib (afterCalls lib codec calls .empty).1) root a →
    Relation.ReflTransGen (Mentions lib codec (afterCalls lib codec calls .empty).2) root a

end

section

variable {lib : Crates} {codec : Codec}

/-! ### What is stored after a run -/

theorem afterCalls_ok {c : Call} {s t : EvidenceStore} {envelope : EvidenceEnvelope}
    (h : c.put.store lib codec c.answers s = .ok envelope t) (rest : List Call) :
    afterCalls lib codec (c :: rest) s =
      (c :: (afterCalls lib codec rest (c.persist lib t)).1,
        (afterCalls lib codec rest (c.persist lib t)).2) := by
  rw [afterCalls, h]

theorem afterCalls_error {c : Call} {s t : EvidenceStore} {e : EvidenceError}
    (h : c.put.store lib codec c.answers s = .error e t) (rest : List Call) :
    afterCalls lib codec (c :: rest) s = afterCalls lib codec rest t := by
  rw [afterCalls, h]

/-- The file of an observation is beside the blobs and the index. -/
theorem Filed.persist {puts recorded : List Put} {s : EvidenceStore}
    (h : Filed lib codec puts recorded s) (c : Call) : Filed lib codec puts recorded (c.persist lib s) := by
  unfold Call.persist
  split
  · exact ⟨h.blobs, h.written, h.index⟩
  · exact h

theorem Filed.calls {puts recorded : List Put} {s : EvidenceStore}
    (h : Filed lib codec puts recorded s) (calls : List Call) :
    Filed lib codec (puts ++ calls.map Call.put)
      (recorded ++ (afterCalls lib codec calls s).1.map Call.put) (afterCalls lib codec calls s).2 := by
  induction calls generalizing puts recorded s with
  | nil =>
      rw [afterCalls, List.map_nil, List.append_nil, List.append_nil]
      exact h
  | cons c rest ih =>
      rw [List.map_cons, List.append_cons]
      cases hstore : c.put.store lib codec c.answers s with
      | error e t =>
          rw [afterCalls_error hstore]
          exact ih (h.failed hstore)
      | ok envelope t =>
          rw [afterCalls_ok hstore]
          dsimp only
          rw [List.map_cons, List.append_cons recorded]
          rcases store_ok hstore with ⟨_, rfl⟩
          exact ih ((h.put c.put).persist c)

theorem mem_afterCalls (calls : List Call) (s : EvidenceStore) :
    ∀ c ∈ (afterCalls lib codec calls s).1, c ∈ calls := by
  induction calls generalizing s with
  | nil => exact nofun
  | cons c rest ih =>
      cases hstore : c.put.store lib codec c.answers s with
      | error e t =>
          rw [afterCalls_error hstore]
          exact fun d hd => List.mem_cons_of_mem c (ih t d hd)
      | ok envelope t =>
          rw [afterCalls_ok hstore]
          intro d hd
          rcases List.mem_cons.mp hd with rfl | hd
          · exact List.mem_cons_self
          · exact List.mem_cons_of_mem c (ih _ d hd)

/-- A recorded handle can be read back, with the envelope of a call of the same
    kind and the same bytes. -/
theorem get_of_call {calls : List Call} (hno : NoCollision lib (calls.map Call.put)) {c : Call}
    (hc : c ∈ (afterCalls lib codec calls .empty).1) :
    ∃ d ∈ (afterCalls lib codec calls .empty).1, d.put.kind = c.put.kind ∧
      d.put.data = c.put.data ∧
      (afterCalls lib codec calls .empty).2.get lib codec (c.put.handle lib) =
        .ok ⟨d.put.envelope lib, c.put.data⟩ := by
  have hfiled := @Filed.calls lib codec [] [] .empty Filed.empty calls
  rw [List.nil_append, List.nil_append] at hfiled
  have hsubset : ∀ p ∈ (afterCalls lib codec calls .empty).1.map Call.put,
      p ∈ calls.map Call.put := by
    intro p hp
    rcases List.mem_map.mp hp with ⟨d, hd, rfl⟩
    exact List.mem_map_of_mem (mem_afterCalls calls .empty d hd)
  rcases get_of_recorded hfiled hno hsubset (List.mem_map_of_mem hc) with ⟨p, hp, hkind, hdata, hget⟩
  rcases List.mem_map.mp hp with ⟨d, hd, rfl⟩
  exact ⟨d, hd, hkind, hdata, hget⟩

/-! ### When an export is complete -/

/-- What a visit leads to is what the record mentions. -/
theorem leads_iff {store : EvidenceStore} {a b : Str} :
    Leads (visitRecord lib codec store) a b ↔ Mentions lib codec store a b := by
  unfold Leads Mentions visitRecord
  cases store.get lib codec a with
  | error e =>
      constructor
      · rintro ⟨_, _, h, _⟩
        cases h
      · rintro ⟨_, h, _⟩
        cases h
  | ok record =>
      constructor
      · rintro ⟨_, _, ⟨⟩, hb⟩
        exact ⟨record, rfl, List.mem_reverse.mp hb⟩
      · rintro ⟨_, ⟨⟩, hb⟩
        exact ⟨record, _, rfl, List.mem_reverse.mpr hb⟩

theorem leads_eq (store : EvidenceStore) :
    Leads (visitRecord lib codec store) = Mentions lib codec store := by
  ext a b
  exact leads_iff

theorem get_of_visit {store : EvidenceStore} {handle : Str} {record : EvidenceRecord}
    {next : List Str} (h : visitRecord lib codec store handle = .ok (record, next)) :
    store.get lib codec handle = .ok record := by
  unfold visitRecord at h
  cases hget : store.get lib codec handle with
  | error e =>
      rw [hget] at h
      cases h
  | ok r =>
      rw [hget] at h
      cases h
      rfl

/-- An export is complete when the search finds the given records. -/
theorem complete_iff_explore {calls : List Call} {root : Str} {nodes : List Str} :
    Complete lib codec calls root nodes ↔
      ∃ found, explore (visitRecord lib codec (afterCalls lib codec calls .empty).2)
          .selectionTooLarge bundleLimit [root] [] = .ok found ∧
        ∀ b, b ∈ found.map Prod.fst ↔ b ∈ nodes := by
  constructor
  · rintro ⟨records, hrecords, _, _, hnodes, _⟩
    exact ⟨records, hrecords, hnodes⟩
  · rintro ⟨found, hfound, hnodes⟩
    have hsound := explore_sound bundleLimit [root] [] hfound
    refine ⟨found, hfound, ?_, hsound.nodup, hnodes, fun e he => ?_⟩
    · rw [exportBundle, exportRecords, hfound]
      rfl
    · rcases hsound.closed e he with ⟨next, hvisit, _⟩
      exact get_of_visit hvisit

/-- Where the references lead, a record is stored. -/
theorem recorded_of_cites {recorded : List Call} {root a : Str}
    (hroot : ∃ c ∈ recorded, c.put.handle lib = root)
    (h : Relation.ReflTransGen (Cites lib recorded) root a) :
    ∃ c ∈ recorded, c.put.handle lib = a := by
  induction h with
  | refl => exact hroot
  | tail _ hcites _ =>
      rcases hcites with ⟨_, _, _, _, hstored⟩
      exact hstored

/-- Every stored record is visited without fault. -/
theorem visit_of_recorded {calls : List Call} (hno : NoCollision lib (calls.map Call.put)) {a : Str}
    (h : ∃ c ∈ (afterCalls lib codec calls .empty).1, c.put.handle lib = a) :
    ∃ shown, visitRecord lib codec (afterCalls lib codec calls .empty).2 a = .ok shown := by
  rcases h with ⟨c, hc, rfl⟩
  rcases get_of_call hno hc with ⟨d, _, _, _, hget⟩
  unfold visitRecord
  rw [hget]
  exact ⟨_, rfl⟩

/-- The texts that are followed lead exactly where the references lead. -/
theorem followed_iff {calls : List Call} {root : Str} :
    Followed lib codec calls root ↔
      ∀ b, Relation.ReflTransGen (Mentions lib codec (afterCalls lib codec calls .empty).2) root b ↔
        Relation.ReflTransGen (Cites lib (afterCalls lib codec calls .empty).1) root b := by
  constructor
  · intro h b
    refine ⟨fun hmentions => ?_, h.all b⟩
    induction hmentions with
    | refl => exact Relation.ReflTransGen.refl
    | tail _ hmention ih => exact h.only _ ih _ hmention
  · intro h
    refine ⟨fun a ha t ht => ?_, fun a ha => (h a).mpr ha⟩
    exact (h t).mp (((h a).mpr ha).tail ht)

/-- An export of stored records is complete when they are what the texts that
    are followed lead to. -/
theorem complete_iff_mentions {calls : List Call} {root : Str} {nodes : List Str}
    (hno : NoCollision lib (calls.map Call.put))
    (hstored : ∀ b ∈ nodes, ∃ c ∈ (afterCalls lib codec calls .empty).1, c.put.handle lib = b)
    (hlimit : nodes.length ≤ bundleLimit) :
    Complete lib codec calls root nodes ↔
      ∀ b, Relation.ReflTransGen (Mentions lib codec (afterCalls lib codec calls .empty).2) root b ↔
        b ∈ nodes := by
  rw [complete_iff_explore, explore_ok_iff hlimit, leads_eq]
  exact ⟨And.left, fun h => ⟨h, fun b hb => visit_of_recorded hno (hstored b hb)⟩⟩

/-- An export of at most so many records as a bundle holds is complete exactly
    when the texts that are followed lead to the records that the references
    lead to. -/
theorem export_complete_iff {calls : List Call} {root : Str} {nodes : List Str}
    (hno : NoCollision lib (calls.map Call.put))
    (hroot : ∃ c ∈ (afterCalls lib codec calls .empty).1, c.put.handle lib = root)
    (hnodes : ∀ b, Relation.ReflTransGen (Cites lib (afterCalls lib codec calls .empty).1) root b ↔
      b ∈ nodes)
    (hlimit : nodes.length ≤ bundleLimit) :
    Complete lib codec calls root nodes ↔ Followed lib codec calls root := by
  have hstored : ∀ b ∈ nodes, ∃ c ∈ (afterCalls lib codec calls .empty).1, c.put.handle lib = b :=
    fun b hb => recorded_of_cites hroot ((hnodes b).mpr hb)
  rw [complete_iff_mentions hno hstored hlimit, followed_iff]
  constructor
  · exact fun h b => (h b).trans (hnodes b).symm
  · exact fun h b => (h b).trans (hnodes b)

/-! ### Written references -/

/-- The references of a call are texts of its JSON record that look like
    handles. -/
def Call.Written (lib : Crates) (c : Call) : Prop :=
  c.references ≠ [] → "json".toList <:+: c.put.mediaType ∧
    ∃ value, lib.parseJson c.put.data = .ok value ∧ ∀ r ∈ c.references, r ∈ collectHandles value

/-- Written references are not missed, if the same bytes of a kind always come
    with the same media type. -/
theorem followed_of_written {calls : List Call} {root : Str}
    (hno : NoCollision lib (calls.map Call.put)) (hwritten : ∀ c ∈ calls, c.Written lib)
    (hsteady : ∀ c ∈ calls, ∀ d ∈ calls, c.put.kind = d.put.kind → c.put.data = d.put.data →
      c.put.mediaType = d.put.mediaType)
    (honly : ∀ a, Relation.ReflTransGen (Cites lib (afterCalls lib codec calls .empty).1) root a →
      ∀ t, Mentions lib codec (afterCalls lib codec calls .empty).2 a t →
        Relation.ReflTransGen (Cites lib (afterCalls lib codec calls .empty).1) root t) :
    Followed lib codec calls root := by
  refine ⟨honly, fun a ha => ?_⟩
  -- Along the citations: the record that is read is the one that was put.
  induction ha with
  | refl => exact Relation.ReflTransGen.refl
  | tail _ hcites ih =>
      rcases hcites with ⟨c, hc, rfl, href, _⟩
      refine ih.tail ?_
      rcases get_of_call hno hc with ⟨d, hd, hkind, hdata, hget⟩
      have hcalled := mem_afterCalls calls .empty c hc
      -- What it cites is written in it, so it is found there.
      rcases hwritten c hcalled (List.ne_nil_of_mem href) with ⟨hjson, value, hvalue, hrefs⟩
      have hmedia : d.put.mediaType = c.put.mediaType :=
        hsteady d (mem_afterCalls calls .empty d hd) c hcalled hkind hdata
      refine ⟨_, hget, ?_⟩
      change _ ∈ mentions lib d.put.mediaType c.put.data
      rw [mentions, hmedia, if_pos hjson, hvalue]
      exact hrefs _ href

end

/-- The call that persists the observation of a request. -/
def observationCall (o : Observation) (answers : DiskAnswers)
    (files : Except Str Unit × Except Str Unit) : Call :=
  { put := jsonPut "observation" o.toJson true
    answers := answers
    observation := some files
    references := o.body.toList ++ o.trace.toList }

theorem mem_collect_jsonObject {members : List (String × Value)} {k : String} {t : Str}
    (h : (k, .string t) ∈ members) (ht : looksLikeHandle t = true) :
    t ∈ collectHandles (jsonObject members) := by
  rw [jsonObject, collectHandles, mem_collectMembers]
  refine ⟨_, List.mem_map_of_mem h, ?_⟩
  rw [collectHandles, if_pos ht]
  exact List.mem_singleton_self t

/-- The references of an observation are written, if its text is read back
    with the strings that look like handles. -/
theorem written_observation {lib : Crates} {o : Observation} {answers : DiskAnswers}
    {files : Except Str Unit × Except Str Unit}
    {value : Value} (hparse : lib.parseJson (utf8 o.toJson.render) = .ok value)
    (hkept : ∀ r ∈ collectHandles o.toJson, r ∈ collectHandles value)
    (hhandles : ∀ r ∈ o.body.toList ++ o.trace.toList, looksLikeHandle r = true) :
    (observationCall o answers files).Written lib := by
  have hjson : "json".toList <:+: "application/json".toList := by decide
  refine fun _ => ⟨hjson, value, hparse, fun r hr => hkept r ?_⟩
  have ht := hhandles r hr
  rcases List.mem_append.mp hr with hr | hr
  · rw [Option.mem_toList] at hr
    refine mem_collect_jsonObject (k := "body") ?_ ht
    simp [hr, optional]
  · rw [Option.mem_toList] at hr
    refine mem_collect_jsonObject (k := "trace") ?_ ht
    simp [hr, optional]

/-! ### Response bodies -/

/-- The call that stores a JSON response body. -/
def bodyCall (text : String) : Call :=
  { put := ⟨"body", "application/json", utf8 text, false⟩
    answers := .fine
    observation := none
    references := [] }

/-- On a disk without faults every call is recorded. -/
theorem recorded_fine {lib : Crates} {codec : Codec} {calls : List Call}
    (h : ∀ c ∈ calls, c.answers = .fine) (s : EvidenceStore) :
    (afterCalls lib codec calls s).1 = calls := by
  induction calls generalizing s with
  | nil => rfl
  | cons c rest ih =>
      rcases @store_fine lib codec c.put s with ⟨t, hstore⟩
      rw [← h c List.mem_cons_self] at hstore
      rw [afterCalls_ok hstore]
      exact congrArg (c :: ·) (ih (fun d hd => h d (List.mem_cons_of_mem c hd)) _)

/-- Where no two calls store the same kind, a record mentions what is in its
    own bytes. -/
theorem mentions_call {lib : Crates} {codec : Codec} {calls : List Call} {t : Str}
    (hno : NoCollision lib (calls.map Call.put)) (hfine : ∀ c ∈ calls, c.answers = .fine)
    (hkinds : ∀ c ∈ calls, ∀ d ∈ calls, d.put.kind = c.put.kind → d = c) {c : Call} (hc : c ∈ calls) :
    Mentions lib codec (afterCalls lib codec calls .empty).2 (c.put.handle lib) t ↔
      t ∈ mentions lib c.put.mediaType c.put.data := by
  have hrecorded : (afterCalls lib codec calls .empty).1 = calls := recorded_fine hfine .empty
  have hstored : c ∈ (afterCalls lib codec calls .empty).1 := by
    rw [hrecorded]
    exact hc
  rcases get_of_call hno hstored with ⟨d, hd, hkind, _, hget⟩
  rw [hrecorded] at hd
  have hsame := hkinds c hc d hd hkind
  subst hsame
  constructor
  · rintro ⟨record, hrecord, ht⟩
    rw [hget] at hrecord
    cases hrecord
    exact ht
  · exact fun ht => ⟨_, hget, ht⟩

theorem noCollision_body (text : String) :
    NoCollision referenceCrates ([bodyCall text].map Call.put) := by
  have hsame : ∀ p ∈ [bodyCall text].map Call.put, p = (bodyCall text).put :=
    fun p hp => List.mem_singleton.mp hp
  constructor
  · intro p hp q hq _
    rw [hsame p hp, hsame q hq]
    exact ⟨rfl, rfl⟩
  · intro p hp q hq _
    rw [hsame p hp, hsame q hq]

theorem recorded_body (text : String) :
    (afterCalls referenceCrates plainCodec [bodyCall text] .empty).1 = [bodyCall text] := by
  refine recorded_fine (fun c hc => ?_) .empty
  rw [List.mem_singleton.mp hc]
  rfl

theorem mentions_body {text : String} {t : Str} :
    Mentions referenceCrates plainCodec (afterCalls referenceCrates plainCodec [bodyCall text] .empty).2
        ((bodyCall text).put.handle referenceCrates) t ↔
      t ∈ mentions referenceCrates "application/json" (utf8 text) := by
  refine mentions_call (noCollision_body text) (fun c hc => ?_) (fun c hc d hd _ => ?_)
    (List.mem_singleton_self _)
  · rw [List.mem_singleton.mp hc]
    rfl
  · rw [List.mem_singleton.mp hc, List.mem_singleton.mp hd]

/-- A body without a look-alike. -/
def plainText : String := "\x7b\"ok\":true\x7d"

/-- A body with a text that looks like a handle. -/
def lookalikeText : String := "\x7b\"note\":\"body:!!!!!!!!\"\x7d"

/-- The handles of the body without a look-alike and of its trace. -/
def plainHandle : Str := "body:ee8d2fbac4ce"

def tracedHandle : Str := "trace:a9dc5b61e25d"

/-- The call that stores the trace of that body, with a header of the response. -/
def traceCall : Call :=
  { put := jsonPut "trace" (jsonObject [("response", jsonObject [("body", .string plainHandle),
      ("headers", jsonObject [("content-type", .string "application/json")])])]) true
    answers := .fine
    observation := none
    references := [plainHandle] }

/-- The observation of that exchange. -/
def tracedObservation : Observation :=
  { protocol := PROTOCOL
    kind := "observation"
    version := VERSION
    configFingerprint := []
    policyFingerprint := []
    sourceFingerprints := []
    toolVersion := VERSION
    plan := []
    outcome := .passed
    status := some 200
    responseSchema := none
    latencyMs := none
    responseBytes := some 11
    body := some plainHandle
    trace := some tracedHandle
    resolvedOrigin := none
    httpVersion := some "HTTP/1.1"
    secretRefs := []
    runtime := []
    exit := 0 }

/-- The calls that store an exchange: its body, its trace and its
    observation. -/
def exchangeCalls : List Call :=
  [bodyCall plainText, traceCall, observationCall tracedObservation .fine (.ok (), .ok ())]

theorem plainHandle_eq : (bodyCall plainText).put.handle referenceCrates = plainHandle := by
  decide +kernel

theorem tracedHandle_eq : traceCall.put.handle referenceCrates = tracedHandle := by decide +kernel

set_option maxRecDepth 100000 in
/-- The three records begin their digests differently. -/
theorem exchangeDigests : exchangeCalls.map (fun c => (referenceCrates.blake3 c.put.data).take 2) =
    ["ac".toList, "b2".toList, "bb".toList] := by decide +kernel

theorem exchangeKinds : (exchangeCalls.map (fun c => c.put.kind)).Nodup := by decide

/-- Two calls of the exchange that agree in something they all differ in are
    the same. -/
theorem exchange_inj {α : Type} {f : Call → α} (hf : (exchangeCalls.map f).Nodup) :
    ∀ c ∈ exchangeCalls, ∀ d ∈ exchangeCalls, f d = f c → d = c :=
  fun _ hc _ hd hsame => List.inj_on_of_nodup_map hf hd hc hsame

theorem noCollision_exchange : NoCollision referenceCrates (exchangeCalls.map Call.put) := by
  have hhandles : (exchangeCalls.map (fun c => (c.put.handle referenceCrates).take 2)).Nodup := by
    change ["bo".toList, "tr".toList, "ob".toList].Nodup
    decide
  have hdigests : (exchangeCalls.map (fun c => (referenceCrates.blake3 c.put.data).take 2)).Nodup := by
    rw [exchangeDigests]
    decide
  constructor
  · intro p hp q hq hsame
    rcases List.mem_map.mp hp with ⟨c, hc, rfl⟩
    rcases List.mem_map.mp hq with ⟨d, hd, rfl⟩
    have heq := exchange_inj hhandles d hd c hc (congrArg (List.take 2) hsame)
    rw [heq]
    exact ⟨rfl, rfl⟩
  · intro p hp q hq hsame
    rcases List.mem_map.mp hp with ⟨c, hc, rfl⟩
    rcases List.mem_map.mp hq with ⟨d, hd, rfl⟩
    rw [exchange_inj hdigests d hd c hc (congrArg (List.take 2) hsame)]

theorem exchange_fine : ∀ c ∈ exchangeCalls, c.answers = .fine := by
  simp [exchangeCalls, bodyCall, traceCall, observationCall]

theorem recorded_exchange :
    (afterCalls referenceCrates plainCodec exchangeCalls .empty).1 = exchangeCalls :=
  recorded_fine exchange_fine .empty

/-- What the three records mention is what the executors wrote into them. -/
theorem mentions_exchange : exchangeCalls.map (fun c =>
    mentions referenceCrates c.put.mediaType c.put.data) = exchangeCalls.map Call.references := by
  decide +kernel

/-- The references of the observation and of its trace are written. -/
theorem written_exchange : ∀ c ∈ exchangeCalls, c.Written referenceCrates := by
  have hobservation : (referenceCrates.parseJson (utf8 tracedObservation.toJson.render)).toOption.map
      (fun value => decide (∀ r ∈ collectHandles tracedObservation.toJson,
        r ∈ collectHandles value)) = some true := by decide +kernel
  have htrace : (referenceCrates.parseJson traceCall.put.data).toOption.map (fun value =>
      decide (plainHandle ∈ collectHandles value)) = some true := by decide +kernel
  intro c hc
  rw [exchangeCalls, List.mem_cons, List.mem_pair] at hc
  rcases hc with rfl | rfl | rfl
  · exact fun h => absurd rfl h
  · intro _
    rcases exists_ok_of_toOption htrace with ⟨value, hvalue, hmem⟩
    refine ⟨by decide, value, hvalue, fun r hr => ?_⟩
    rw [List.mem_singleton.mp hr]
    exact of_decide_eq_true hmem
  · rcases exists_ok_of_toOption hobservation with ⟨value, hvalue, hkept⟩
    exact written_observation hvalue (of_decide_eq_true hkept) (by decide)

/-- The observation of an exchange is exported with its trace and the body the
    trace has as well. -/
theorem export_observation : Complete referenceCrates plainCodec exchangeCalls
    ((observationCall tracedObservation .fine (.ok (), .ok ())).put.handle referenceCrates)
    [(observationCall tracedObservation .fine (.ok (), .ok ())).put.handle referenceCrates,
      tracedHandle, plainHandle] := by
  generalize hobservation : observationCall tracedObservation .fine (.ok (), .ok ()) = observation
  have hcalls : exchangeCalls = [bodyCall plainText, traceCall, observation] := by
    rw [← hobservation]
    rfl
  have hreferences : observation.references = [plainHandle, tracedHandle] := by
    rw [← hobservation]
    rfl
  have hstored : observation ∈ exchangeCalls := by
    rw [hcalls]
    simp
  have hreferred (a b : Str) : Cites referenceCrates exchangeCalls a b ↔
      ∃ c ∈ exchangeCalls, c.put.handle referenceCrates = a ∧ b ∈ c.references := by
    refine exists_congr (fun c => and_congr_right (fun hc => and_congr_right (fun _ =>
      and_iff_left_of_imp (fun href => ?_))))
    rw [hcalls, List.mem_cons, List.mem_pair] at hc
    rcases hc with rfl | rfl | rfl
    · cases href
    · exact ⟨bodyCall plainText, List.mem_cons_self, by
        rw [List.mem_singleton.mp href]
        exact plainHandle_eq⟩
    · rw [hreferences, List.mem_pair] at href
      rcases href with rfl | rfl
      · exact ⟨bodyCall plainText, List.mem_cons_self, plainHandle_eq⟩
      · exact ⟨traceCall, List.mem_cons_of_mem _ List.mem_cons_self, tracedHandle_eq⟩
  have hnodes : ∀ b, Relation.ReflTransGen (Cites referenceCrates
      (afterCalls referenceCrates plainCodec exchangeCalls .empty).1)
      (observation.put.handle referenceCrates) b ↔
        b ∈ [observation.put.handle referenceCrates, tracedHandle, plainHandle] := by
    intro b
    rw [recorded_exchange]
    constructor
    · intro h
      cases h with
      | refl => exact List.mem_cons_self
      | tail _ hcites =>
          -- Whatever is referred to is the trace or the body.
          rcases (hreferred _ _).mp hcites with ⟨c, hc, _, href⟩
          rw [hcalls, List.mem_cons, List.mem_pair] at hc
          rcases hc with rfl | rfl | rfl
          · cases href
          · rw [List.mem_singleton.mp href]
            simp
          · rw [hreferences, List.mem_pair] at href
            rcases href with rfl | rfl <;> simp
    · intro h
      rw [List.mem_cons, List.mem_pair] at h
      rcases h with rfl | href
      · exact Relation.ReflTransGen.refl
      · refine Relation.ReflTransGen.single ((hreferred _ _).mpr ⟨observation, hstored, rfl, ?_⟩)
        rw [hreferences, List.mem_pair]
        exact href.symm
  refine (export_complete_iff noCollision_exchange ?_ hnodes (by simp [bundleLimit])).mpr
    (followed_of_written noCollision_exchange written_exchange (fun c hc d hd hkind _ => ?_) ?_)
  · rw [recorded_exchange]
    exact ⟨observation, hstored, rfl⟩
  · rw [exchange_inj exchangeKinds d hd c hc hkind]
  · intro a ha t ht
    have hroot : ∃ c ∈ (afterCalls referenceCrates plainCodec exchangeCalls .empty).1,
        c.put.handle referenceCrates = observation.put.handle referenceCrates := by
      rw [recorded_exchange]
      exact ⟨observation, hstored, rfl⟩
    rcases recorded_of_cites hroot ha with ⟨c, hc, rfl⟩
    rw [recorded_exchange] at hc ha ⊢
    rw [mentions_call noCollision_exchange exchange_fine (exchange_inj exchangeKinds) hc,
      List.map_inj_left.mp mentions_exchange c hc] at ht
    exact ha.tail ((hreferred _ _).mpr ⟨c, hc, rfl, ht⟩)

/-- A body with a look-alike cannot be exported, where nothing is stored under
    it. -/
theorem export_lookalike : ¬ Complete referenceCrates plainCodec
    [bodyCall lookalikeText]
    ((bodyCall lookalikeText).put.handle referenceCrates)
    [(bodyCall lookalikeText).put.handle referenceCrates] := by
  intro h
  -- The body mentions a handle that no record has.
  have hmentions : "body:!!!!!!!!".toList ∈ mentions referenceCrates "application/json"
      (utf8 lookalikeText) := by
    decide +kernel
  have hstored : ∀ b ∈ [(bodyCall lookalikeText).put.handle referenceCrates],
      ∃ c ∈ (afterCalls referenceCrates plainCodec
        [bodyCall lookalikeText] .empty).1, c.put.handle referenceCrates = b := by
    intro b hb
    rw [recorded_body, List.mem_singleton.mp hb]
    exact ⟨_, List.mem_singleton_self _, rfl⟩
  rw [complete_iff_mentions (noCollision_body _) hstored (by decide)] at h
  -- Were the export complete, it would have to be in it.
  have hreached := (h "body:!!!!!!!!").mp (Relation.ReflTransGen.single (mentions_body.mpr hmentions))
  rw [List.mem_singleton] at hreached
  have hnot : '!' ∉ (bodyCall lookalikeText).put.handle referenceCrates :=
    not_mem_shortHandle (by decide) _
  rw [← hreached] at hnot
  exact hnot (by decide)

end Kahea
