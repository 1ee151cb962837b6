import Kahea.Base.Search
import Kahea.Exec.Invoke

/-!
# Remnants of Secrets

Which secrets redaction removes, whatever else is redacted with them.

Secrets are replaced one after the other, the long ones first, and a
replacement is not searched again. A secret that touches the marker, in the
sense of `Clear`, can then be left behind or be made up: it lies in the marker,
it goes on where the marker ends or ends where the marker begins, or it
contains the marker. For the last three a companion secret is enough to
show it. It is a run of one byte that is neither in the marker nor next to it,
one byte shorter than the secret, and it stands where the marker completes the
secret (`block_completes`).

## Main definitions

* `sortedRedactions`: Secrets in the order they are replaced in.
* `Redacted`: What redaction promises of one text.

## Theorems

* `not_clear_cases`: How a secret can touch the marker.
* `block_completes`: The marker completes a secret that touches it.
* `exists_remnant`: A secret that touches it can be left behind.
* `redaction_complete_iff`: Which secrets are removed.
-/

namespace Kahea

/-! ### Replacing -/

section

variable {α : Type} [DecidableEq α]

/-- A pattern that starts nowhere in the first part is replaced in the rest
    only. -/
theorem replaceFrom_apart {t a r : List α} (m : List α)
    (h : ∀ x, x ≠ [] → x <:+ a → ¬ t <+: x ++ r) :
    replaceFrom t m 0 (a ++ r) = a ++ replaceFrom t m 0 r := by
  induction a with
  | nil => rfl
  | cons c a ih =>
      have hstart : startsWith t (c :: (a ++ r)) = false := by
        rw [startsWith, Bool.eq_false_iff, Ne, List.isPrefixOf_iff_prefix]
        exact h (c :: a) (List.cons_ne_nil c a) List.suffix_rfl
      rw [List.cons_append, replaceFrom_cons t m c _ hstart,
        ih (fun x hx hsuffix => h x hx (hsuffix.trans (List.suffix_cons c a))), List.cons_append]

theorem redact_of_free {m data : List α} {secrets : List (List α)}
    (h : ∀ t ∈ secrets, ¬ t <:+: data) : redact m data secrets = data := by
  induction secrets with
  | nil => rfl
  | cons t rest ih =>
      rw [redact, List.foldl_cons, replaceAll_of_not_infix t m data (h t List.mem_cons_self)]
      exact ih (fun u hu => h u (List.mem_cons_of_mem t hu))

/-! ### Secrets that touch the marker -/

/-- A secret that touches the marker lies in it, or has a part of it that the
    whole marker completes. -/
theorem not_clear_cases {m s : List α} (hm : m ≠ []) (h : ¬ Clear m s) :
    s <:+: m ∨ ∃ a w c, s = a ++ (w ++ c) ∧ w ≠ [] ∧ w ⊆ m ∧ a ++ c ≠ [] ∧ s <:+: a ++ (m ++ c) := by
  by_cases hinside : s <:+: m
  · exact Or.inl hinside
  · have hne {a w c : List α} (hs : s = a ++ (w ++ c)) (hw : w <:+: m) : a ++ c ≠ [] := by
      intro hnil
      rcases List.append_eq_nil_iff.mp hnil with ⟨rfl, rfl⟩
      rw [List.nil_append, List.append_nil] at hs
      exact hinside (hs ▸ hw)
    refine Or.inr ?_
    by_cases htails : ∀ x ∈ s.tails, x ≠ [] → ¬ x <+: m
    · by_cases hinits : ∀ x ∈ s.inits, x ≠ [] → ¬ x <:+ m
      · -- What is left is that the secret contains the marker.
        have hcontains : m <:+: s := by
          by_contra hcontains
          exact h ⟨htails, hinits, hinside, hcontains⟩
        rcases hcontains with ⟨a, c, rfl⟩
        rw [List.append_assoc] at *
        exact ⟨a, m, c, rfl, hm, List.Subset.refl m, hne rfl List.infix_rfl, List.infix_rfl⟩
      · push Not at hinits
        rcases hinits with ⟨w, hw, hwne, y, hsuffix⟩
        rcases (List.mem_inits _ _).mp hw with ⟨c, rfl⟩
        refine ⟨[], w, c, rfl, hwne, ?_, hne rfl ⟨y, [], by rw [List.append_nil, hsuffix]⟩, ?_⟩
        · rw [← hsuffix]
          exact List.subset_append_right y w
        · rw [← hsuffix, List.nil_append, List.append_assoc]
          exact (List.suffix_append y (w ++ c)).isInfix
    · push Not at htails
      rcases htails with ⟨w, hw, hwne, y, hpre⟩
      rcases (List.mem_tails _ _).mp hw with ⟨a, rfl⟩
      refine ⟨a, w, [], by rw [List.append_nil], hwne, ?_,
        hne (by rw [List.append_nil]) ⟨[], y, by rw [List.nil_append, hpre]⟩, ?_⟩
      · rw [← hpre]
        exact List.subset_append_left w y
      · rw [← hpre, List.append_nil, ← List.append_assoc]
        exact (List.prefix_append (a ++ w) y).isInfix

omit [DecidableEq α] in
theorem clear_of_disjoint {m t : List α} (hm : m ≠ []) (ht : t ≠ []) (h : ∀ x ∈ t, x ∉ m) :
    Clear m t := by
  have hpart {x : List α} (hx : x ≠ []) (hxt : x ⊆ t) (hxm : x ⊆ m) : False := by
    rcases List.exists_mem_of_ne_nil x hx with ⟨b, hb⟩
    exact h b (hxt hb) (hxm hb)
  refine ⟨fun x hx hne hpre => ?_, fun x hx hne hsuffix => ?_, fun hin => ?_, fun hin => ?_⟩
  · exact hpart hne ((List.mem_tails _ _).mp hx).subset hpre.subset
  · exact hpart hne ((List.mem_inits _ _).mp hx).subset hsuffix.subset
  · exact hpart ht (List.Subset.refl t) hin.subset
  · exact hpart hm hin.subset (List.Subset.refl m)

/-! ### The companion -/

omit [DecidableEq α] in
/-- A secret with a byte that is not the one of the run is not made up by the
    run in place of its middle. -/
theorem not_infix_block {a w c : List α} {b : α} (hw : w ≠ []) (hb : b ∉ w) :
    ¬ a ++ (w ++ c) <:+: a ++ (List.replicate (a.length + w.length + c.length - 1) b ++ c) := by
  rintro ⟨x, y, hxy⟩
  rcases w with _ | ⟨d, w⟩
  · exact hw rfl
  generalize hk : a.length + (d :: w).length + c.length - 1 = k at hxy
  have hlength := congrArg List.length hxy
  simp only [List.length_append, List.length_cons, List.length_replicate] at hlength hk
  -- The first letter of the middle would stand inside the run.
  have hletter : (x ++ (a ++ (d :: w ++ c)) ++ y)[x.length + a.length]? = some d := by
    rw [List.append_assoc, List.getElem?_append_right (by omega), Nat.add_sub_cancel_left,
      List.append_assoc, List.getElem?_append_right (Nat.le_refl _), Nat.sub_self]
    rfl
  have hrun : (a ++ (List.replicate k b ++ c))[x.length + a.length]? = some b := by
    rw [List.getElem?_append_right (by omega), Nat.add_sub_cancel,
      List.getElem?_append_left (by rw [List.length_replicate]; omega), List.getElem?_replicate,
      if_pos (by omega)]
  rw [hxy, hrun] at hletter
  exact hb (Option.some.inj hletter ▸ List.mem_cons_self)

/-- The run is found where it was put, and the marker takes its place. -/
theorem block_completes {a c m : List α} {b : α} {k : Nat} (ha : ¬ [b] <:+ a) (hc : ¬ [b] <+: c)
    (hak : a.length ≤ k) (hck : c.length ≤ k) (hk : 0 < k) :
    replaceAll (List.replicate k b) m (a ++ (List.replicate k b ++ c)) = a ++ (m ++ c) := by
  have hne : List.replicate k b ≠ [] := by
    rw [Ne, List.replicate_eq_nil_iff]
    omega
  -- No match begins before the block: what comes first does not end with the byte.
  have hapart (x : List α) (hx : x ≠ []) (hxa : x <:+ a) :
      ¬ List.replicate k b <+: x ++ (List.replicate k b ++ c) := by
    intro hpre
    have hlength : x.length ≤ (List.replicate k b).length := by
      rw [List.length_replicate]
      exact hxa.length_le.trans hak
    have hxrun := List.prefix_of_prefix_length_le (List.prefix_append x _) hpre hlength
    have hlast : x.getLast hx = b := List.eq_of_mem_replicate (hxrun.subset (List.getLast_mem hx))
    refine ha (List.IsSuffix.trans ⟨x.dropLast, ?_⟩ hxa)
    rw [← hlast, List.dropLast_append_getLast hx]
  -- And none comes after it, where it is not long enough.
  have hrest : ¬ List.replicate k b <:+: c := by
    intro hin
    have heq := hin.eq_of_length_le (by rwa [List.length_replicate])
    refine hc ?_
    rw [← heq]
    exact ⟨List.replicate (k - 1) b, by
      rw [List.singleton_append, ← List.replicate_succ, Nat.sub_add_cancel hk]⟩
  have hkept := replaceAll_of_not_infix _ m c hrest
  rw [replaceAll, if_neg hne] at hkept ⊢
  rw [replaceFrom_apart m hapart, replaceFrom_append _ m c hne, hkept]

end

/-- A byte that is not in the marker, not before it and not behind it. -/
theorem exists_apart (a c : List UInt8) :
    ∃ b, b ∉ utf8 marker ∧ ¬ [b] <:+ a ∧ ¬ [b] <+: c := by
  have hfew : ∃ b ∈ ([0, 1, 2] : List UInt8), a.getLast? ≠ some b ∧ c.head? ≠ some b := by
    by_contra hnone
    push Not at hnone
    -- Two neighbours do not exclude three bytes.
    have hcovered (b : UInt8) (hb : b ∈ ([0, 1, 2] : List UInt8)) :
        a.getLast? = some b ∨ c.head? = some b := by
      by_cases hlast : a.getLast? = some b
      · exact Or.inl hlast
      · exact Or.inr (hnone b hb hlast)
    rcases hcovered 0 (by decide) with h0 | h0 <;> rcases hcovered 1 (by decide) with h1 | h1 <;>
      rcases hcovered 2 (by decide) with h2 | h2 <;> simp_all
  rcases hfew with ⟨b, hb, hlast, hhead⟩
  refine ⟨b, ?_, ?_, ?_⟩
  · have hall : ([0, 1, 2] : List UInt8).all (fun b => !(utf8 marker).contains b) = true := by decide
    have hcontains := List.all_eq_true.mp hall b hb
    rw [Bool.not_eq_true', List.contains_eq_mem, decide_eq_false_iff_not] at hcontains
    exact hcontains
  · rintro ⟨x, rfl⟩
    exact hlast List.getLast?_concat
  · rintro ⟨x, rfl⟩
    exact hhead rfl

/-! ### Redaction -/

/-- The order the executor replaces secrets in: long ones first, and of equal
    neighbours one. -/
def sortedRedactions (secrets : List (List UInt8)) : List (List UInt8) :=
  dedup (secrets.insertionSort (fun a b => b.length ≤ a.length))

theorem mem_sortedRedactions {secrets : List (List UInt8)} {t : List UInt8} :
    t ∈ sortedRedactions secrets ↔ t ∈ secrets := by
  rw [sortedRedactions, mem_dedup, List.mem_insertionSort]

theorem sortedRedactions_pair {s t : List UInt8} (h : t.length < s.length) :
    sortedRedactions [s, t] = [s, t] := by
  have hne : s ≠ t := by
    rintro rfl
    exact lt_irrefl _ h
  have hsorted : [s, t].Pairwise (fun a b => b.length ≤ a.length) := by
    rw [List.pairwise_pair]
    exact h.le
  rw [sortedRedactions, hsorted.insertionSort_eq, dedup, List.destutter_pair, if_pos hne]

/-- What redaction promises of a text: nothing is left of a secret, a text
    without secrets is returned as it is, and redacting again changes nothing. -/
structure Redacted (secrets : List (List UInt8)) (data : List UInt8) : Prop where
  free : ∀ t ∈ secrets, ¬ t <:+: redactBytes data secrets
  kept : (∀ t ∈ secrets, ¬ t <:+: data) → redactBytes data secrets = data
  again : redactBytes (redactBytes data secrets) secrets = redactBytes data secrets

theorem redacted_of_clear {secrets : List (List UInt8)} (data : List UInt8)
    (h : ∀ t ∈ secrets, t ≠ [] ∧ Clear (utf8 marker) t) : Redacted secrets data := by
  have hfree (t : List UInt8) (ht : t ∈ secrets) : ¬ t <:+: redactBytes data secrets :=
    not_infix_redact (h t ht).1 (h t ht).2 ht
  exact ⟨hfree, redact_of_free, redact_of_free hfree⟩

/-- A secret that is not clear is left in some text that some clear secrets are
    redacted from as well. -/
theorem exists_remnant {s : List UInt8} (hne : s ≠ []) (hclear : ¬ Clear (utf8 marker) s) :
    ∃ secrets data, s ∈ secrets ∧ (∀ t ∈ secrets, t ≠ [] ∧ (t ≠ s → Clear (utf8 marker) t)) ∧
      s <:+: redactBytes data (sortedRedactions secrets) := by
  have hmarker : utf8 marker ≠ [] := by decide
  rcases not_clear_cases hmarker hclear with hinside | ⟨a, w, c, rfl, hw, hwm, hac, hcompletes⟩
  · -- The secret alone is replaced by a text it occurs in.
    refine ⟨[s], s, List.mem_singleton_self s, fun t ht => ?_, ?_⟩
    · rw [List.mem_singleton.mp ht]
      exact ⟨hne, fun hs => absurd rfl hs⟩
    have hout : redactBytes s (sortedRedactions [s]) = utf8 marker := by
      have hall := replaceFrom_append s (utf8 marker) [] hne
      rw [List.append_nil, replaceFrom, List.append_nil] at hall
      change replaceAll s (utf8 marker) s = _
      rw [replaceAll, if_neg hne, hall]
    rw [hout]
    exact hinside
  · -- A run of one byte stands where the marker completes the secret.
    rcases exists_apart a c with ⟨b, hbm, hba, hbc⟩
    have hwlength := List.length_pos_iff.mpr hw
    have haclength := List.length_pos_iff.mpr hac
    rw [List.length_append] at haclength
    generalize hk : a.length + w.length + c.length - 1 = k
    have hrun : List.replicate k b ≠ [] := by
      rw [Ne, List.replicate_eq_nil_iff]
      omega
    have hshorter : (List.replicate k b).length < (a ++ (w ++ c)).length := by
      rw [List.length_replicate, List.length_append, List.length_append]
      omega
    have huntouched : ¬ a ++ (w ++ c) <:+: a ++ (List.replicate k b ++ c) := by
      rw [← hk]
      exact not_infix_block hw (fun hb => hbm (hwm hb))
    refine ⟨[a ++ (w ++ c), List.replicate k b], a ++ (List.replicate k b ++ c),
      List.mem_cons_self, fun t ht => ?_, ?_⟩
    · rcases List.mem_pair.mp ht with rfl | rfl
      · exact ⟨hne, fun hs => absurd rfl hs⟩
      · refine ⟨hrun, fun _ => clear_of_disjoint hmarker hrun (fun x hx => ?_)⟩
        rwa [List.eq_of_mem_replicate hx]
    · -- The secret is replaced first, when it is not there yet.
      rw [sortedRedactions_pair hshorter]
      change _ <:+: replaceAll _ _ (replaceAll _ _ _)
      rw [ replaceAll_of_not_infix _ _ _ huntouched,
        block_completes hba hbc (by omega) (by omega) (by omega)]
      exact hcompletes

/-- A secret is removed from every text, whichever clear secrets are redacted
    with it, exactly when it is clear itself. -/
theorem redaction_complete_iff {s : List UInt8} (hne : s ≠ []) :
    (∀ secrets data, (∀ t ∈ secrets, t ≠ [] ∧ (t ≠ s → Clear (utf8 marker) t)) →
      Redacted (sortedRedactions secrets) data) ↔ Clear (utf8 marker) s := by
  constructor
  · intro h
    by_contra hclear
    rcases exists_remnant hne hclear with ⟨secrets, data, hs, hsecrets, hleft⟩
    exact (h secrets data hsecrets).free s (mem_sortedRedactions.mpr hs) hleft
  · intro hclear secrets data hsecrets
    refine redacted_of_clear data (fun t ht => ?_)
    have hmem := hsecrets t (mem_sortedRedactions.mp ht)
    by_cases hts : t = s
    · rw [hts]
      exact ⟨hne, hclear⟩
    · exact ⟨hmem.1, hmem.2 hts⟩

/-- A secret of letters that the marker does not have. -/
theorem redaction_complete_pin :
    Redacted (sortedRedactions [utf8 "hunter2"]) (utf8 "token=hunter2") := by
  refine (redaction_complete_iff (s := utf8 "hunter2") (by decide)).mpr (by decide) _ _ ?_
  intro t ht
  rw [List.mem_singleton.mp ht]
  exact ⟨by decide, fun h => absurd rfl h⟩

/-- The secret `RED` is replaced by a text that contains it. -/
theorem redaction_incomplete : ¬ ∀ secrets data, (∀ t ∈ secrets, t ≠ []) →
    Redacted (sortedRedactions secrets) data := by
  intro h
  have hred := (h [utf8 "RED"] (utf8 "RED") (by decide)).free (utf8 "RED") (by decide)
  revert hred
  decide

end Kahea
