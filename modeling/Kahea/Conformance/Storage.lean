import Kahea.Base.Replacing
import Kahea.Conformance.Campaign
import Kahea.Core.Survival

/-!
# The Store of Plans

The functions that store plans and load them by their handles, from
`kahea-plan`, `kahea-workflow` and `kahea-conformance`, and the directory
`store/plans` that several processes write at a time.

A plan is written to a temporary file that is then renamed to the name of its
handle. The name of the temporary file is made of the handle too, so processes
get into each other's way when they store plans under one handle, and only then.
While they do not, a load never meets a plan that is half written: it returns
what is read of the last plan that was put under the handle, or what it returned
before any of them (`loads_whole`).

A campaign is put in place after the request of each of its cases. So nobody
finds a campaign with a case that is not there yet, whatever failed
(`campaign_reloads`).

A file that cannot be read is like one that is absent. A call that fails to
make the directory does what one does that fails to write its first file.

## Main definitions

* `storePlan`, `storeWebsocketPlan`, `storeWorkflowPlan`,
  `storeConformancePlan`: The plans a call puts in place, and what it returns.
* `loadPlan`, `loadConformancePlan`: The loads.
* `OwnHandles`: No two processes store plans under one handle.
* `Stored`: The states of the store.

## Theorems

* `handle_eq`: A handle is told by the name of its file.
* `apart_of_ownHandles`: Processes with handles of their own keep apart.
* `loads_whole`: What a load returns while plans are stored.
* `campaign_reloads`: A campaign that is found, and its cases.
-/

namespace Kahea

/-! ### Storing -/

inductive StorageError where
  | io
  | serialization
  | invalidSeal
  | invalidCase (plan : Str)
  | plan (cause : StorageError)
  deriving DecidableEq, Repr

/-- `replace(':', "-")`. -/
def dashed (s : Str) : Str := s.map (fun c => if c = ':' then '-' else c)

/-- The file of a handle. -/
def handleFile (handle : Str) : Str := dashed handle ++ ".json"

/-- The file a plan is written to first; `with_extension` puts `json.tmp` in the
    place of `json`. -/
def StoredPlan.temporary : StoredPlan → Str
  | request p => '.' :: dashed p.id ++ ".tmp"
  | webSocket p => '.' :: dashed p.id ++ ".tmp"
  | workflow p => handleFile p.id ++ ".tmp"
  | conformance p => handleFile p.id ++ ".tmp"

/-- How plans are put in place. -/
def filing : Replacing.Filing Str UInt8 StoredPlan :=
  { temporary := StoredPlan.temporary
    target := fun p => handleFile p.id
    content := StoredPlan.written }

/-- What a call does when no file fails: the plans it puts in place, one after the
    other, and what it returns. -/
structure Saving where
  placements : List StoredPlan
  result : Except StorageError Unit

section

variable (lib : Crates)

/-- Store a plan whose seal verifies. -/
def storeSealed (p : StoredPlan) : Saving :=
  if p.verifySeal lib then ⟨[p], .ok ()⟩ else ⟨[], .error .invalidSeal⟩

def storePlan (p : RequestPlan) : Saving := storeSealed lib (.request p)

def storeWebsocketPlan (p : WebSocketPlan) : Saving := storeSealed lib (.webSocket p)

def storeWorkflowPlan (p : WorkflowPlan) : Saving := storeSealed lib (.workflow p)

/-- The request of a case: of two with one handle the last, when it has the
    fingerprint of the case and its seal verifies. -/
def caseRequest (requests : List RequestPlan) (c : ConformanceCasePlan) : Option RequestPlan :=
  (requests.reverse.find? (fun p => p.id = c.plan)).filter
    (fun p => p.fingerprint = c.planFingerprint && p.verifySeal lib)

/-- The loop over the cases of a campaign. -/
def storeCases (requests : List RequestPlan) : List ConformanceCasePlan → Saving
  | [] => ⟨[], .ok ()⟩
  | c :: rest =>
      match caseRequest lib requests c with
      | none => ⟨[], .error (.invalidCase c.plan)⟩
      | some request =>
          match (storePlan lib request).result with
          | .error e => ⟨(storePlan lib request).placements, .error (.plan e)⟩
          | .ok _ => ⟨(storePlan lib request).placements ++ (storeCases requests rest).placements,
              (storeCases requests rest).result⟩

def storeConformancePlan (p : ConformancePlan) (requests : List RequestPlan) : Saving :=
  if p.verifySeal lib then
    match (storeCases lib requests p.cases).result with
    | .error e => ⟨(storeCases lib requests p.cases).placements, .error e⟩
    | .ok _ => ⟨(storeCases lib requests p.cases).placements ++ [.conformance p], .ok ()⟩
  else ⟨[], .error .invalidSeal⟩

/-- A call of one of the four stores. -/
inductive StoreCall where
  | plan (p : RequestPlan)
  | webSocket (p : WebSocketPlan)
  | workflow (p : WorkflowPlan)
  | conformance (p : ConformancePlan) (requests : List RequestPlan)

def StoreCall.saving : StoreCall → Saving
  | plan p => storePlan lib p
  | webSocket p => storeWebsocketPlan lib p
  | workflow p => storeWorkflowPlan lib p
  | conformance p requests => storeConformancePlan lib p requests

/-- The plans of the calls of a process, call by call. -/
def savings (calls : List StoreCall) : List (List StoredPlan) :=
  calls.map (fun c => (c.saving lib).placements)

end

/-! ### Loading -/

/-- The part of a handle before its colon. -/
def PlanKind.handle : PlanKind → Str
  | request | webSocket => "plan"
  | workflow => "workflow-plan"
  | conformance => "conformance-plan"

section

variable (lib : Crates) (read : List UInt8 → Option Value)

/-- What a reference of a kind refers to: the file of a handle, or a path. A handle
    with a slash leads out of the directory of the plans. -/
def fetch (elsewhere : Str → Option (List UInt8)) (kind : PlanKind)
    (files : Replacing.Files Str UInt8) (reference : Str) : Option (List UInt8) :=
  if startsWith (kind.handle ++ [':']) reference then
    if reference.contains '/' then elsewhere ("store/plans/" ++ handleFile reference)
    else files (handleFile reference)
  else elsewhere reference

/-- A plan of a kind from its text, and whether its seal verifies. -/
def parseSealed (kind : PlanKind) (bytes : List UInt8) : Except StorageError StoredPlan :=
  match kind.read read bytes with
  | none => .error .serialization
  | some p => if p.verifySeal lib then .ok p else .error .invalidSeal

variable (elsewhere : Str → Option (List UInt8))

/-- Load a plan of a kind and check its seal. -/
def loadSealed (kind : PlanKind) (files : Replacing.Files Str UInt8) (reference : Str) :
    Except StorageError StoredPlan :=
  match fetch elsewhere kind files reference with
  | none => .error .io
  | some bytes => parseSealed lib read kind bytes

def loadPlan : Replacing.Files Str UInt8 → Str → Except StorageError StoredPlan :=
  loadSealed lib read elsewhere .request

def loadConformancePlan : Replacing.Files Str UInt8 → Str → Except StorageError StoredPlan :=
  loadSealed lib read elsewhere .conformance

/-- The handles of a kind. -/
def IsHandle (kind : PlanKind) (h : Str) : Prop :=
  startsWith (kind.handle ++ [':']) h = true ∧ '/' ∉ h

end

/-! ### Names -/

@[simp] theorem dashed_append (s t : Str) : dashed (s ++ t) = dashed s ++ dashed t := List.map_append

/-- A name of letters and digits is told by its dashed form. -/
theorem eq_of_dashed_eq {s t : Str} (hs : ∀ c ∈ s, c.isAlphanum = true) (h : dashed t = dashed s) :
    t = s := by
  induction t generalizing s with
  | nil => exact (List.map_eq_nil_iff.mp h.symm).symm
  | cons d t ih =>
      cases s with
      | nil => exact absurd h (List.cons_ne_nil _ _)
      | cons c s =>
          rw [List.forall_mem_cons] at hs
          rcases List.cons.inj h with ⟨hhead, htail⟩
          -- The text that is alphanumeric has neither of the two characters.
          have hcolon : c ≠ ':' := by
            rintro rfl
            exact absurd hs.1 (by decide)
          have hdash : c ≠ '-' := by
            rintro rfl
            exact absurd hs.1 (by decide)
          dsimp only at hhead
          rw [if_neg hcolon] at hhead
          by_cases hd : d = ':'
          · rw [if_pos hd] at hhead
            exact absurd hhead.symm hdash
          · rw [if_neg hd] at hhead
            rw [hhead, ih hs.2 htail]

theorem head_dashed (k : PlanKind) (s : Str) :
    (dashed (k.handle ++ s)).head? = k.handle.head? := by
  cases k <;> rfl

/-- The kinds of handles are told by their first letters. -/
theorem handle_eq_of_head {k l : PlanKind} (h : k.handle.head? = l.handle.head?) :
    k.handle = l.handle := by
  revert h
  cases k <;> cases l <;> decide

/-- The dashed handles of one kind begin alike, and those of two kinds do not. -/
theorem handle_eq_of_dashed {k l : PlanKind} {s t : Str}
    (h : dashed (k.handle ++ ':' :: s) = dashed (l.handle ++ ':' :: t)) :
    k.handle = l.handle ∧ dashed s = dashed t := by
  have hhead := congrArg List.head? h
  rw [head_dashed, head_dashed] at hhead
  have hkind := handle_eq_of_head hhead
  refine ⟨hkind, ?_⟩
  rw [hkind, dashed_append, dashed_append] at h
  exact (List.cons.inj (List.append_cancel_left h)).2

/-- A temporary file is not the file of a handle. -/
theorem temporary_ne_handleFile (p : StoredPlan) (h : Str) : p.temporary ≠ handleFile h := by
  intro heq
  have hlast := congrArg List.getLast? heq
  have htmp : ".tmp".toList.getLast? = some 'p' := by decide
  have hjson : ".json".toList.getLast? = some 'n' := by decide
  have hends : p.temporary.getLast? = some 'p' := by
    cases p <;>
      · rw [StoredPlan.temporary, List.getLast?_append, htmp]
        rfl
  rw [hends, handleFile, List.getLast?_append, hjson] at hlast
  exact absurd (Option.some.inj hlast) (by decide)

section

variable {lib : Crates} {read : List UInt8 → Option Value}

/-- The handle of a sealed plan. -/
theorem id_of_verifySeal {p : StoredPlan} (h : p.verifySeal lib = true) :
    p.id = p.kind.handle ++ ':' ::
      (lib.blake3 (handlePreimage p.kind.handle [utf8 p.fingerprint])).take 12 := by
  cases p <;>
    · simp only [StoredPlan.verifySeal, RequestPlan.verifySeal, WebSocketPlan.verifySeal,
        WorkflowPlan.verifySeal, ConformancePlan.verifySeal, Bool.and_eq_true,
        decide_eq_true_eq] at h
      exact h.2

theorem not_mem_handle (kind : PlanKind) : '/' ∉ kind.handle := by
  cases kind <;> decide

theorem handleFile_append (h : Str) : handleFile h ++ ".tmp" = dashed h ++ ".json.tmp" := by
  have hends : ".json".toList ++ ".tmp".toList = ".json.tmp".toList := by decide
  rw [handleFile, List.append_assoc, hends]

/-- The two forms of a temporary name. -/
theorem temporary_form (p : StoredPlan) :
    p.temporary = '.' :: (dashed p.id ++ ".tmp") ∨ p.temporary = dashed p.id ++ ".json.tmp" := by
  cases p with
  | request p => exact Or.inl rfl
  | webSocket p => exact Or.inl rfl
  | workflow p => exact Or.inr (handleFile_append p.id)
  | conformance p => exact Or.inr (handleFile_append p.id)

/-- The first letter of a handle is no dot. -/
theorem dashed_id_ne {p : StoredPlan} (hseal : p.verifySeal lib = true) (s t : Str) :
    dashed p.id ++ s ≠ '.' :: t := by
  rw [id_of_verifySeal hseal, dashed_append]
  cases p <;> exact fun h => absurd (List.cons.inj h).1 (by decide)

section

variable (hhex : ∀ bytes, ∀ c ∈ lib.blake3 bytes, c.isAlphanum = true)
include hhex

theorem isAlphanum_of_hash {bytes : List UInt8} {c : Char} (h : c ∈ (lib.blake3 bytes).take 12) :
    c.isAlphanum = true := hhex _ c (List.mem_of_mem_take h)

/-- A sealed plan has a handle of its kind. -/
theorem isHandle_id {p : StoredPlan} (hseal : p.verifySeal lib = true) : IsHandle p.kind p.id := by
  rw [id_of_verifySeal hseal]
  refine ⟨List.isPrefixOf_iff_prefix.mpr ⟨_, List.append_assoc _ _ _⟩, ?_⟩
  intro hmem
  rcases List.mem_append.mp hmem with hmem | hmem
  · exact not_mem_handle p.kind hmem
  · rcases List.mem_cons.mp hmem with hcolon | hhash
    · exact absurd hcolon (by decide)
    · exact absurd (isAlphanum_of_hash hhex hhash) (by decide)

/-- The handle of a sealed plan is told by its dashed form. -/
theorem id_eq_of_dashed {p : StoredPlan} (hseal : p.verifySeal lib = true) {kind : PlanKind}
    {h : Str} (hhandle : IsHandle kind h) (hname : dashed p.id = dashed h) : p.id = h := by
  rcases List.isPrefixOf_iff_prefix.mp hhandle.1 with ⟨t, rfl⟩
  rw [List.append_assoc, List.singleton_append] at hname ⊢
  rw [id_of_verifySeal hseal] at hname ⊢
  rcases handle_eq_of_dashed hname.symm with ⟨hkind, hrest⟩
  rw [eq_of_dashed_eq (fun c hc => isAlphanum_of_hash hhex hc) hrest, hkind]

/-- A handle is told by the name of its file. -/
theorem handle_eq {p : StoredPlan} (hseal : p.verifySeal lib = true) {kind : PlanKind} {h : Str}
    (hhandle : IsHandle kind h) : handleFile p.id = handleFile h ↔ p.id = h := by
  rw [handleFile, handleFile]
  constructor
  · intro hname
    exact id_eq_of_dashed hhex hseal hhandle (List.append_cancel_right hname)
  · intro hid
    rw [hid]

/-- Plans with different handles have different temporary files. -/
theorem id_eq_of_temporary {p q : StoredPlan} (hp : p.verifySeal lib = true)
    (hq : q.verifySeal lib = true) (h : p.temporary = q.temporary) : p.id = q.id := by
  have hsame : dashed p.id = dashed q.id → p.id = q.id :=
    id_eq_of_dashed hhex hp (isHandle_id hhex hq)
  rcases temporary_form p with hpform | hpform <;> rcases temporary_form q with hqform | hqform
  · rw [hpform, hqform] at h
    exact hsame (List.append_cancel_right (List.cons.inj h).2)
  · rw [hpform, hqform] at h
    exact absurd h.symm (dashed_id_ne hq _ _)
  · rw [hpform, hqform] at h
    exact absurd h (dashed_id_ne hp _ _)
  · rw [hpform, hqform] at h
    exact hsame (List.append_cancel_right h)

end

/-! ### What a call puts in place -/

theorem verifySeal_of_storeSealed {p q : StoredPlan} (h : q ∈ (storeSealed lib p).placements) :
    q = p ∧ p.verifySeal lib = true := by
  unfold storeSealed at h
  split_ifs at h with hseal
  · exact ⟨List.mem_singleton.mp h, hseal⟩
  · cases h

/-- A request is that of a case. -/
def ServesCase (lib : Crates) (c : ConformanceCasePlan) (r : RequestPlan) : Prop :=
  r.id = c.plan ∧ r.fingerprint = c.planFingerprint ∧ r.verifySeal lib = true

theorem servesCase_of_caseRequest {requests : List RequestPlan} {c : ConformanceCasePlan}
    {r : RequestPlan} (h : caseRequest lib requests c = some r) : ServesCase lib c r := by
  rcases Option.filter_eq_some_iff.mp h with ⟨hfind, hchecks⟩
  rw [Bool.and_eq_true, decide_eq_true_eq] at hchecks
  have hid := List.find?_some hfind
  rw [decide_eq_true_eq] at hid
  exact ⟨hid, hchecks⟩

/-- A request whose seal verifies is stored. -/
theorem storePlan_of_verifySeal {r : RequestPlan} (h : r.verifySeal lib = true) :
    storePlan lib r = ⟨[.request r], .ok ()⟩ := by
  have hseal : (StoredPlan.request r).verifySeal lib = true := h
  rw [storePlan, storeSealed, if_pos hseal]

/-- The loop stores requests, and where it succeeds one for each case. -/
theorem storeCases_placements (lib : Crates) (requests : List RequestPlan) (cases : List ConformanceCasePlan) :
    (∀ p ∈ (storeCases lib requests cases).placements,
      ∃ r, p = .request r ∧ r.verifySeal lib = true) ∧
    ((storeCases lib requests cases).result = .ok () →
      ∀ c ∈ cases, ∃ r, .request r ∈ (storeCases lib requests cases).placements ∧
        ServesCase lib c r) := by
  -- By the cases: each stores the plan it serves, or ends the storing.
  induction cases with
  | nil => exact ⟨nofun, fun _ => nofun⟩
  | cons c rest ih =>
      rw [storeCases]
      cases hrequest : caseRequest lib requests c with
      | none => exact ⟨nofun, nofun⟩
      | some request =>
          have hserves := servesCase_of_caseRequest hrequest
          dsimp only
          rw [storePlan_of_verifySeal hserves.2.2]
          refine ⟨fun p hp => ?_, fun hok d hd => ?_⟩
          · rcases List.mem_cons.mp hp with rfl | hp
            · exact ⟨request, rfl, hserves.2.2⟩
            · exact ih.1 p hp
          · rcases List.mem_cons.mp hd with rfl | hd
            · exact ⟨request, List.mem_cons_self, hserves⟩
            · rcases ih.2 hok d hd with ⟨r, hr, hs⟩
              exact ⟨r, List.mem_cons_of_mem _ hr, hs⟩

/-- A campaign of one case is stored with its request. -/
theorem storeConformancePlan_one {p : ConformancePlan} {c : ConformanceCasePlan} {r : RequestPlan}
    (hseal : p.verifySeal lib = true) (hcases : p.cases = [c]) (hserves : ServesCase lib c r) :
    (storeConformancePlan lib p [r]).placements = [.request r, .conformance p] := by
  have hchecks : (r.fingerprint = c.planFingerprint && r.verifySeal lib) = true := by
    rw [Bool.and_eq_true, decide_eq_true_eq]
    exact hserves.2
  have hrequest : caseRequest lib [r] c = some r := by
    have hfind : [r].reverse.find? (fun q => q.id = c.plan) = some r :=
      List.find?_cons_of_pos (decide_eq_true hserves.1)
    rw [caseRequest, hfind, Option.filter_some, if_pos hchecks]
  rw [storeConformancePlan, if_pos hseal, hcases, storeCases, hrequest]
  dsimp only
  rw [storePlan_of_verifySeal hserves.2.2]
  rfl

/-- A call of a campaign stores requests and then, when there is one for each
    case, the campaign. -/
theorem storeConformancePlan_placements (lib : Crates) (p : ConformancePlan) (requests : List RequestPlan) :
    ∃ stored, (∀ q ∈ stored, ∃ r, q = .request r ∧ r.verifySeal lib = true) ∧
      ((storeConformancePlan lib p requests).placements = stored ∨
        (storeConformancePlan lib p requests).placements = stored ++ [.conformance p] ∧
          p.verifySeal lib = true ∧
          ∀ c ∈ p.cases, ∃ r, .request r ∈ stored ∧ ServesCase lib c r) := by
  rcases storeCases_placements lib requests p.cases with ⟨hrequests, hcases⟩
  refine ⟨if p.verifySeal lib then (storeCases lib requests p.cases).placements else [], ?_, ?_⟩
  · split
    · exact hrequests
    · exact nofun
  · unfold storeConformancePlan
    by_cases hseal : p.verifySeal lib = true
    · rw [if_pos hseal, if_pos hseal]
      cases hresult : (storeCases lib requests p.cases).result with
      | error e => exact Or.inl rfl
      | ok u => exact Or.inr ⟨rfl, hseal, hcases hresult⟩
    · rw [if_neg hseal, if_neg hseal]
      exact Or.inl rfl

/-- Nothing is put in place whose seal does not verify. -/
theorem verifySeal_of_saving {call : StoreCall} {p : StoredPlan}
    (h : p ∈ (call.saving lib).placements) : p.verifySeal lib = true := by
  -- A plan alone is checked before it is stored.
  cases call with
  | plan q =>
      rcases verifySeal_of_storeSealed h with ⟨rfl, hseal⟩
      exact hseal
  | webSocket q =>
      rcases verifySeal_of_storeSealed h with ⟨rfl, hseal⟩
      exact hseal
  | workflow q =>
      rcases verifySeal_of_storeSealed h with ⟨rfl, hseal⟩
      exact hseal
  | conformance q requests =>
      -- A campaign is stored after the plans of its cases.
      rcases storeConformancePlan_placements lib q requests with
        ⟨stored, hstored, heq | ⟨heq, hseal, _⟩⟩
      · rw [StoreCall.saving, heq] at h
        rcases hstored p h with ⟨r, rfl, hr⟩
        exact hr
      · rw [StoreCall.saving, heq, List.mem_append, List.mem_singleton] at h
        rcases h with h | rfl
        · rcases hstored p h with ⟨r, rfl, hr⟩
          exact hr
        · exact hseal

/-- An item that is nowhere else is told by its place. -/
theorem eq_of_append_singleton {α : Type} {l before after : List α} {x y : α} (hy : y ∉ l)
    (h : l ++ [x] = before ++ y :: after) : before = l ∧ y = x := by
  rcases List.append_eq_append_iff.mp h with ⟨middle, rfl, hrest⟩ | ⟨middle, rfl, hrest⟩
  · cases middle with
    | nil =>
        cases hrest
        exact ⟨List.append_nil _, rfl⟩
    | cons m middle =>
        rcases List.cons.inj hrest with ⟨_, hnil⟩
        exact absurd hnil (by simp)
  · cases middle with
    | nil =>
        cases hrest
        exact ⟨(List.append_nil _).symm, rfl⟩
    | cons m middle =>
        rcases List.cons.inj hrest with ⟨rfl, _⟩
        exact absurd (List.mem_append_right _ List.mem_cons_self) hy

/-- The requests of a campaign come before it. -/
theorem requests_before {call : StoreCall} {before after : List StoredPlan} {p : ConformancePlan}
    (h : (call.saving lib).placements = before ++ .conformance p :: after) :
    ∀ c ∈ p.cases, ∃ r, .request r ∈ before ∧ ServesCase lib c r := by
  have hmem : StoredPlan.conformance p ∈ (call.saving lib).placements := by
    rw [h]
    exact List.mem_append_right _ List.mem_cons_self
  -- Only the storing of a campaign places one.
  cases call with
  | plan q => cases (verifySeal_of_storeSealed hmem).1
  | webSocket q => cases (verifySeal_of_storeSealed hmem).1
  | workflow q => cases (verifySeal_of_storeSealed hmem).1
  | conformance q requests =>
      rcases storeConformancePlan_placements lib q requests with ⟨stored, hstored, hcases⟩
      have hno : StoredPlan.conformance p ∉ stored := fun hin => by
        rcases hstored _ hin with ⟨r, heq, _⟩
        cases heq
      -- It comes last, so all the plans of its cases are before it.
      rcases hcases with heq | ⟨heq, _, hserved⟩
      · rw [StoreCall.saving, heq] at hmem
        exact absurd hmem hno
      · rw [StoreCall.saving, heq] at h
        rcases eq_of_append_singleton hno h with ⟨rfl, hsame⟩
        cases hsame
        exact hserved

/-! ### Processes that store plans -/

variable {ι : Type}

/-- No two processes store plans under one handle. -/
def OwnHandles (lib : Crates) (calls : ι → List StoreCall) : Prop :=
  ∀ i j, i ≠ j → ∀ p ∈ (savings lib (calls i)).flatten, ∀ q ∈ (savings lib (calls j)).flatten,
    p.id ≠ q.id

/-- The store while processes make their calls. -/
def Stored [DecidableEq ι] (lib : Crates) (disk : Replacing.Files Str UInt8) (calls : ι → List StoreCall)
    (s : Replacing.System ι Str UInt8 StoredPlan) : Prop :=
  Replacing.Reaches filing (Replacing.begin disk (fun i => savings lib (calls i))) s

theorem verifySeal_of_savings {calls : List StoreCall} {p : StoredPlan}
    (h : p ∈ (savings lib calls).flatten) : p.verifySeal lib = true := by
  rcases List.mem_flatten.mp h with ⟨plans, hplans, hp⟩
  rcases List.mem_map.mp hplans with ⟨call, _, rfl⟩
  exact verifySeal_of_saving hp

/-- Processes with handles of their own keep apart. -/
theorem apart_of_ownHandles (hhex : ∀ bytes, ∀ c ∈ lib.blake3 bytes, c.isAlphanum = true)
    {calls : ι → List StoreCall} (h : OwnHandles lib calls) :
    Replacing.Apart filing (fun i => savings lib (calls i)) :=
  { target := fun a b => temporary_ne_handleFile a b.id
    writers := fun i j hij a ha b hb heq => h i j hij a ha b hb
      (id_eq_of_temporary hhex (verifySeal_of_savings ha) (verifySeal_of_savings hb) heq) }

/-- What is known of a store that processes write: what is in place comes from
    their calls, all of it once a call has returned, and a load finds the last
    plan under its handle or what was there before. -/
structure LoadsWhole (lib : Crates) (read : List UInt8 → Option Value)
    (elsewhere : Str → Option (List UInt8)) (disk : Replacing.Files Str UInt8)
    (calls : ι → List StoreCall) (s : Replacing.System ι Str UInt8 StoredPlan) : Prop where
  origin : ∀ p ∈ s.placed, ∃ i, p ∈ (savings lib (calls i)).flatten
  returned : ∀ i, ∀ plans ∈ (s.writers i).returned, plans ∈ savings lib (calls i) ∧
    ∀ p ∈ plans, p ∈ s.placed
  loads : ∀ kind h, IsHandle kind h →
    loadSealed lib read elsewhere kind s.files h =
      match s.placed.find? (fun p => p.id = h) with
      | some p => parseSealed lib read kind p.written
      | none => loadSealed lib read elsewhere kind disk h

theorem mem_of_inTurn {calls : ι → List StoreCall} {p : StoredPlan} {earlier : List StoredPlan}
    (h : Replacing.InTurn (fun i => savings lib (calls i)) p earlier) :
    ∃ i, p ∈ (savings lib (calls i)).flatten := by
  rcases h with ⟨i, call, hcall, before, after, rfl, _⟩
  exact ⟨i, List.mem_flatten.mpr ⟨_, hcall, List.mem_append_right _ List.mem_cons_self⟩⟩

theorem fetch_handle {elsewhere : Str → Option (List UInt8)} {kind : PlanKind}
    {files : Replacing.Files Str UInt8} {h : Str} (hhandle : IsHandle kind h) :
    fetch elsewhere kind files h = files (handleFile h) := by
  have hslash : h.contains '/' = false := by
    rw [Bool.eq_false_iff]
    exact fun hc => hhandle.2 (List.contains_iff_mem.mp hc)
  rw [fetch, if_pos hhandle.1, hslash, if_neg Bool.false_ne_true]

/-- A plan is read back from its text. -/
def Legible (read : List UInt8 → Option Value) (p : StoredPlan) : Prop :=
  p.Typed ∧ ReadsBack read p.toJson ∧ p.toJson.depth < depthLimit

theorem parseSealed_written {p : StoredPlan} (hseal : p.verifySeal lib = true)
    (hread : Legible read p) : parseSealed lib read p.kind p.written = .ok p.forgetNulls := by
  rw [parseSealed, StoredPlan.read_written hread.1 hread.2.1, if_pos hread.2.2]
  dsimp only
  rw [StoredPlan.verifySeal_forgetNulls, if_pos hseal]

end

/-! ### A campaign of one case -/

theorem isAlphanum_of_blake3 (bytes : List UInt8) :
    ∀ c ∈ referenceCrates.blake3 bytes, c.isAlphanum = true := by
  have hdigit : ∀ n < 16, (hexDigit n).isAlphanum = true := by decide
  intro c hc
  rcases exists_hexDigit hc with ⟨n, hn, rfl⟩
  exact hdigit n hn

def storedRequest : RequestPlan := campaignRequest.sealed referenceCrates

/-- The case of that request. -/
def storedCase : ConformanceCasePlan :=
  { campaignCase with
    plan := storedRequest.id
    planFingerprint := storedRequest.fingerprint }

def storedCampaign : ConformancePlan :=
  ({ smallCampaign 1 with cases := [storedCase] } : ConformancePlan).sealed referenceCrates

/-- A process that stores the campaign. -/
def campaignCalls (_ : Unit) : List StoreCall := [.conformance storedCampaign [storedRequest]]

theorem cases_sealed (lib : Crates) (p : ConformancePlan) : (p.sealed lib).cases = p.cases := rfl

theorem cases_storedCampaign : storedCampaign.cases = [storedCase] := cases_sealed _ _

theorem storedRequest_sealed : storedRequest.verifySeal referenceCrates = true :=
  RequestPlan.verifySeal_sealed _ _

theorem storedCampaign_sealed : storedCampaign.verifySeal referenceCrates = true :=
  ConformancePlan.verifySeal_sealed _ _

theorem servesCase_stored : ServesCase referenceCrates storedCase storedRequest := by
  refine ⟨?_, ?_, storedRequest_sealed⟩
  · rw [storedCase]
  · rw [storedCase]

theorem savings_campaign (u : Unit) : savings referenceCrates (campaignCalls u) =
    [[.request storedRequest, .conformance storedCampaign]] := by
  rw [savings, campaignCalls, List.map_cons, List.map_nil, StoreCall.saving,
    storeConformancePlan_one storedCampaign_sealed cases_storedCampaign servesCase_stored]

theorem ownHandles_campaign : OwnHandles referenceCrates campaignCalls :=
  fun _ _ hij => absurd rfl hij

/-- The store after the process has stored the campaign. -/
theorem stored_campaign : ∃ s, Stored referenceCrates (fun _ => none) campaignCalls s ∧
    s.placed = [.conformance storedCampaign, .request storedRequest] := by
  have hstart : (Replacing.begin (fun _ => none)
      (fun i => savings referenceCrates (campaignCalls i)) :
        Replacing.System Unit Str UInt8 StoredPlan).writers () =
      ⟨none, [], [[.request storedRequest, .conformance storedCampaign]], []⟩ := by
    rw [Replacing.begin]
    dsimp only
    rw [savings_campaign]
  rcases Replacing.exists_return (F := filing) hstart with ⟨t, hreach, _, hplaced⟩
  exact ⟨t, hreach, hplaced⟩

/-- A reader of two texts. -/
def readEither (v w : Value) (bytes : List UInt8) : Option Value :=
  if bytes = utf8 v.render then some v else if bytes = utf8 w.render then some w else none

theorem readsBack_readEither {v w : Value} (hv : v.depth < depthLimit) (hw : w.depth < depthLimit)
    (hne : v.render.take 40 ≠ w.render.take 40) :
    ReadsBack (readEither v w) v ∧ ReadsBack (readEither v w) w := by
  rw [ReadsBack, ReadsBack, if_pos hv, if_pos hw]
  refine ⟨if_pos rfl, ?_⟩
  have hother : utf8 w.render ≠ utf8 v.render := fun h => hne (by rw [utf8_injective h])
  rw [readEither, if_neg hother, if_pos rfl]

/-- A reader of the two texts of the store. -/
def campaignReader : List UInt8 → Option Value :=
  readEither (StoredPlan.conformance storedCampaign).toJson (StoredPlan.request storedRequest).toJson

theorem legible_campaign : Legible campaignReader (.conformance storedCampaign) ∧
    Legible campaignReader (.request storedRequest) := by
  -- Both are shallow enough for the reader, and their texts differ early.
  have hcampaign : (StoredPlan.conformance storedCampaign).toJson.depth < depthLimit := by
    decide +kernel
  have hrequest : (StoredPlan.request storedRequest).toJson.depth < depthLimit := by
    decide +kernel
  have hdiffer : (StoredPlan.conformance storedCampaign).toJson.render.take 40 ≠
      (StoredPlan.request storedRequest).toJson.render.take 40 := by
    decide +kernel
  rcases readsBack_readEither hcampaign hrequest hdiffer with ⟨hfirst, hsecond⟩
  refine ⟨⟨?_, hfirst, hcampaign⟩, ⟨?_, hsecond, hrequest⟩⟩
  · exact
      { seed := by decide
        requestedCases := by decide
        delayMs := by decide
        maxFailures := by decide
        exit := by decide }
  · exact
      { body := nofun
        responseContract := rfl
        derivations := nofun
        exit := by decide }

theorem id_ne_campaign : storedCampaign.id ≠ storedRequest.id := by
  have hcampaign := @id_of_verifySeal referenceCrates (.conformance storedCampaign)
    storedCampaign_sealed
  have hrequest := @id_of_verifySeal referenceCrates (.request storedRequest) storedRequest_sealed
  intro h
  have heq : (StoredPlan.conformance storedCampaign).id = (StoredPlan.request storedRequest).id := h
  rw [hcampaign, hrequest] at heq
  exact absurd (List.cons.inj heq).1 (by decide)

/-! ### Loading while plans are stored -/

/-- A load returns what is read of the last plan that was put under its handle,
    whole, or what it returned before any of them. -/
theorem loads_whole {ι : Type} [DecidableEq ι] (lib : Crates) (read : List UInt8 → Option Value)
    (elsewhere : Str → Option (List UInt8)) (disk : Replacing.Files Str UInt8)
    (calls : ι → List StoreCall) (s : Replacing.System ι Str UInt8 StoredPlan)
    (hhex : ∀ bytes, ∀ c ∈ lib.blake3 bytes, c.isAlphanum = true) (hown : OwnHandles lib calls)
    (h : Stored lib disk calls s) : LoadsWhole lib read elsewhere disk calls s := by
  have hsound := Replacing.sound_of_reaches (apart_of_ownHandles hhex hown) h
  have horigin : ∀ p ∈ s.placed, ∃ i, p ∈ (savings lib (calls i)).flatten := by
    intro p hp
    rcases List.append_of_mem hp with ⟨later, earlier, heq⟩
    exact mem_of_inTurn (hsound.order later p earlier heq)
  refine
    { origin := horigin
      returned := fun i => (hsound.writers i).returned
      loads := fun kind handle hhandle => ?_ }
  -- the file of a handle tells the handle among the plans in place
  have hfind : s.placed.find? (fun p => filing.target p = handleFile handle) =
      s.placed.find? (fun p => p.id = handle) := by
    refine Replacing.find?_congr (fun p hp => ?_)
    rcases horigin p hp with ⟨i, hi⟩
    rw [decide_eq_decide]
    exact handle_eq hhex (verifySeal_of_savings hi) hhandle
  have hfile := hsound.reads (handleFile handle) (fun p => temporary_ne_handleFile p handle)
  rw [Replacing.latest, hfind] at hfile
  unfold loadSealed
  rw [fetch_handle hhandle, fetch_handle hhandle, hfile]
  cases s.placed.find? (fun p => p.id = handle) with
  | none => rfl
  | some p => rfl

theorem loads_whole_campaign : ∃ s, Stored referenceCrates (fun _ => none) campaignCalls s ∧
    s.placed = [.conformance storedCampaign, .request storedRequest] ∧
    LoadsWhole referenceCrates campaignReader (fun _ => none) (fun _ => none) campaignCalls s := by
  rcases stored_campaign with ⟨s, hs, hplaced⟩
  exact ⟨s, hs, hplaced, loads_whole referenceCrates campaignReader _ _ campaignCalls s
    isAlphanum_of_blake3 ownHandles_campaign hs⟩

/-- A campaign that is in place loads, and so does the request of each of its
    cases, with the fingerprint the campaign names. -/
theorem campaign_reloads {ι : Type} [DecidableEq ι] (lib : Crates) (read : List UInt8 → Option Value)
    (elsewhere : Str → Option (List UInt8)) (disk : Replacing.Files Str UInt8)
    (calls : ι → List StoreCall) (s : Replacing.System ι Str UInt8 StoredPlan)
    (hhex : ∀ bytes, ∀ c ∈ lib.blake3 bytes, c.isAlphanum = true) (hown : OwnHandles lib calls)
    (h : Stored lib disk calls s)
    (hnames : ∀ p ∈ s.placed, ∀ q ∈ s.placed, p.id = q.id → p = q)
    (hread : ∀ p ∈ s.placed, Legible read p) (campaign : ConformancePlan)
    (hcampaign : .conformance campaign ∈ s.placed) :
    loadConformancePlan lib read elsewhere s.files campaign.id = .ok (.conformance campaign) ∧
    ∀ c ∈ campaign.cases, ∃ r, loadPlan lib read elsewhere s.files c.plan = .ok (.request r) ∧
      ServesCase lib c r := by
  have hsound := Replacing.sound_of_reaches (apart_of_ownHandles hhex hown) h
  have hwhole := loads_whole lib read elsewhere disk calls s hhex hown h
  -- every plan in place loads, since no other one has its handle
  have hloads : ∀ p ∈ s.placed,
      loadSealed lib read elsewhere p.kind s.files p.id = .ok p.forgetNulls := by
    intro p hp
    rcases hwhole.origin p hp with ⟨i, hi⟩
    have hseal := verifySeal_of_savings hi
    have hfind : s.placed.find? (fun q => q.id = p.id) = some p := by
      cases hsome : s.placed.find? (fun q => q.id = p.id) with
      | none => exact absurd (List.find?_eq_none.mp hsome p hp) (by simp)
      | some q =>
          have hid := List.find?_some hsome
          rw [decide_eq_true_eq] at hid
          rw [hnames q (List.mem_of_find?_eq_some hsome) p hp hid]
    rw [hwhole.loads p.kind p.id (isHandle_id hhex hseal), hfind]
    exact parseSealed_written hseal (hread p hp)
  refine ⟨hloads _ hcampaign, fun c hc => ?_⟩
  rcases List.append_of_mem hcampaign with ⟨later, earlier, heq⟩
  rcases hsound.order later _ earlier heq with ⟨i, call, hcall, before, after, hplaces, hbefore⟩
  rcases List.mem_map.mp hcall with ⟨made, _, rfl⟩
  rcases requests_before hplaces c hc with ⟨r, hr, hserves⟩
  have hplaced : StoredPlan.request r ∈ s.placed := by
    rw [heq]
    exact List.mem_append_right _ (List.mem_cons_of_mem _ (hbefore _ hr))
  have hload := hloads _ hplaced
  rw [← hserves.1]
  exact ⟨r, hload, hserves⟩

theorem campaign_reloads_campaign : ∃ s r,
    Stored referenceCrates (fun _ => none) campaignCalls s ∧
    loadConformancePlan referenceCrates campaignReader (fun _ => none) s.files storedCampaign.id =
      .ok (.conformance storedCampaign) ∧
    loadPlan referenceCrates campaignReader (fun _ => none) s.files storedCase.plan =
      .ok (.request r) ∧ ServesCase referenceCrates storedCase r := by
  -- A state where both plans are in place, and both can be read back.
  rcases stored_campaign with ⟨s, hs, hplaced⟩
  rcases legible_campaign with ⟨hcampaign, hrequest⟩
  -- Their identifiers differ, so each is stored under a handle of its own.
  have hreloads := campaign_reloads referenceCrates campaignReader (fun _ => none) _ campaignCalls s
    isAlphanum_of_blake3 ownHandles_campaign hs
    (by
      intro p hp q hq hid
      rw [hplaced, List.mem_cons, List.mem_singleton] at hp hq
      rcases hp with rfl | rfl <;> rcases hq with rfl | rfl
      · rfl
      · exact absurd hid id_ne_campaign
      · exact absurd hid.symm id_ne_campaign
      · rfl)
    (by
      intro p hp
      rw [hplaced, List.mem_cons, List.mem_singleton] at hp
      rcases hp with rfl | rfl
      · exact hcampaign
      · exact hrequest)
    storedCampaign (by rw [hplaced]; exact List.mem_cons_self)
  rcases hreloads with ⟨hload, hcases⟩
  rcases hcases storedCase (by rw [cases_storedCampaign]; exact List.mem_cons_self) with ⟨r, hr, hs'⟩
  exact ⟨s, r, hs, hload, hr, hs'⟩

end Kahea
