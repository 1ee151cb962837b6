import Kahea.Base.Order
import Kahea.Base.Search
import Kahea.Conformance.Parameters
import Kahea.Exec.Bodies
import Kahea.Exec.Origin

/-!
# Cookie Framing

The planner writes the cookies of a request into one header, each as its name,
an equals sign and its value, with semicolons between them, and nothing is
escaped. Two later readers take the header apart again: the conformance mutator,
and the executor when it adds the cookie of a credential.

`Framed` says of one cookie that it can be told apart in such a header. The
header is read back as it was written exactly when every cookie is framed and no
header parameter is itself named like the header (`cookiesRead_iff`); adding a
cookie moreover needs the header to be visible text, or the cookies in it are
dropped (`cookies_framed_iff`).

## Main definitions

* `Framed`: A cookie that can be told apart.
* `VisibleText`: A text a header value is read back as.
* `CookiesRead`: The planned header is read as the planned cookies.

## Theorems

* `cookiePairs_written`: When written cookies are read back.
* `headerText_utf8`: When the text of a header value is read back.
* `cookiesRead_iff`, `cookies_framed_iff`: The two readers.
-/

namespace Kahea

/-! ### Cookies in a header -/

/-- The text of one cookie. -/
def cookieText (c : Str × Str) : Str := c.1 ++ '=' :: c.2

/-- A cookie that can be told apart in a header. -/
structure Framed (c : Str × Str) : Prop where
  separator : ';' ∉ cookieText c
  name : '=' ∉ c.1
  trimmed : trim (cookieText c) = cookieText c

instance (c : Str × Str) : Decidable (Framed c) :=
  decidable_of_iff (';' ∉ cookieText c ∧ '=' ∉ c.1 ∧ trim (cookieText c) = cookieText c)
    ⟨fun h => ⟨h.1, h.2.1, h.2.2⟩, fun h => ⟨h.separator, h.name, h.trimmed⟩⟩

theorem cookiePair_framed {c : Str × Str} (h : Framed c) : cookiePair (cookieText c) = some c := by
  unfold cookiePair
  rw [h.trimmed]
  exact splitOnce_singleton h.name c.2

/-- What is read from a header is framed. -/
theorem framed_of_mem_cookiePairs {text : Str} {c : Str × Str} (h : c ∈ cookiePairs text) :
    Framed c := by
  rcases List.mem_filterMap.mp h with ⟨part, hpart, hsplit⟩
  unfold cookiePair at hsplit
  have htext : trim part = cookieText c := by
    rw [splitOnce_eq_some _ _ _ _ hsplit, List.append_assoc]
    rfl
  refine ⟨fun hmem => ?_, not_mem_of_splitOnce hsplit, ?_⟩
  · rw [← htext] at hmem
    exact not_mem_of_mem_splitOn hpart
      ((List.dropWhile_suffix _).mem ((List.rdropWhile_prefix _ _).mem hmem))
  · rw [← htext]
    exact (trimmed_trim part).trim_eq

/-- Written cookies are read back exactly when each of them is framed. -/
theorem cookiePairs_written (cookies : List (Str × Str)) :
    cookiePairs (join "; " (cookies.map cookieText)) = cookies ↔ ∀ c ∈ cookies, Framed c := by
  constructor
  · intro h c hc
    rw [← h] at hc
    exact framed_of_mem_cookiePairs hc
  · intro h
    have hparts : ∀ t ∈ cookies.map cookieText, ';' ∉ t := by
      intro t ht
      rcases List.mem_map.mp ht with ⟨c, hc, rfl⟩
      exact (h c hc).separator
    rw [cookiePairs_join hparts, List.filterMap_map]
    induction cookies with
    | nil => rfl
    | cons c cookies ih =>
        rw [List.forall_mem_cons] at h
        rw [List.map_cons, List.forall_mem_cons] at hparts
        rw [List.filterMap_cons, Function.comp_apply, cookiePair_framed h.1]
        dsimp only
        rw [ih h.2 hparts.2]

/-! ### Header values as text -/

/-- A text a header value is read back as: printable ASCII and tabs. -/
def VisibleText (s : Str) : Prop := ∀ c ∈ s, c.toNat = 9 ∨ 32 ≤ c.toNat ∧ c.toNat ≤ 126

instance (s : Str) : Decidable (VisibleText s) :=
  List.decidableBAll (fun c : Char => c.toNat = 9 ∨ 32 ≤ c.toNat ∧ c.toNat ≤ 126) s

/-- A byte a header value may have and be read back. -/
def visibleByte (b : UInt8) : Bool := b == 9 || (32 ≤ b && b ≤ 126)

theorem visibleByte_iff (b : UInt8) :
    visibleByte b = true ↔ b.toNat = 9 ∨ 32 ≤ b.toNat ∧ b.toNat ≤ 126 := by
  simp only [visibleByte, Bool.or_eq_true, beq_iff_eq, Bool.and_eq_true, decide_eq_true_eq,
    UInt8.le_iff_toNat_le, ← UInt8.toNat_inj]
  rfl

/-- A visible text has one byte for each character, and is read back from them. -/
theorem utf8_visible {s : Str} (h : VisibleText s) :
    (utf8 s).all visibleByte = true ∧ (utf8 s).map (fun b => Char.ofNat b.toNat) = s := by
  induction s with
  | nil => exact ⟨rfl, rfl⟩
  | cons c s ih =>
      have hrest : VisibleText s := fun d hd => h d (List.mem_cons_of_mem c hd)
      have hc := h c List.mem_cons_self
      -- A visible character is a single byte.
      have hbyte : (c.toNat.toUInt8).toNat = c.toNat := by
        change (UInt8.ofNat c.toNat).toNat = c.toNat
        rw [UInt8.toNat_ofNat']
        omega
      have hencode : encodeChar c = [c.toNat.toUInt8] := by
        have hlt : c.toNat.toUInt8 < 128 := by
          rw [UInt8.lt_iff_toNat_lt, hbyte]
          change c.toNat < 128
          omega
        have hchar := utf8EncodeChar_ofNat _ hlt
        rwa [hbyte, Char.ofNat_toNat] at hchar
      have hvisible : visibleByte c.toNat.toUInt8 = true := by
        rw [visibleByte_iff, hbyte]
        exact hc
      rw [utf8_cons, hencode, List.singleton_append, List.all_cons, hvisible, Bool.true_and,
        List.map_cons, hbyte, Char.ofNat_toNat, (ih hrest).2]
      exact ⟨(ih hrest).1, rfl⟩

/-- Bytes that are visible are the bytes of a visible text. -/
theorem utf8_of_visibleBytes {data : List UInt8} (h : data.all visibleByte = true) :
    utf8 (data.map (fun b => Char.ofNat b.toNat)) = data ∧
      VisibleText (data.map (fun b => Char.ofNat b.toNat)) := by
  induction data with
  | nil => exact ⟨rfl, fun c hc => absurd hc List.not_mem_nil⟩
  | cons b data ih =>
      rw [List.all_cons, Bool.and_eq_true, visibleByte_iff] at h
      rcases ih h.2 with ⟨hbytes, hvisible⟩
      -- A visible byte is below 128, so it is a character of its own.
      have hlt : b < 128 := by
        rw [UInt8.lt_iff_toNat_lt]
        change b.toNat < 128
        omega
      have hchar : (Char.ofNat b.toNat).toNat = b.toNat := by
        have hall : ∀ n < 128, (Char.ofNat n).toNat = n := by decide
        exact hall b.toNat (by omega)
      refine ⟨?_, fun c hc => ?_⟩
      · rw [List.map_cons, utf8_cons, hbytes]
        change String.utf8EncodeChar _ ++ data = _
        rw [utf8EncodeChar_ofNat b hlt, List.singleton_append]
      · rcases List.mem_cons.mp hc with rfl | hc
        · rw [hchar]
          exact h.1
        · exact hvisible c hc

/-- The text of a header value is read back exactly when it is visible. -/
theorem headerText_utf8 (s : Str) :
    headerText (utf8 s) = if VisibleText s then some s else none := by
  change (if (utf8 s).all visibleByte = true then
    some ((utf8 s).map (fun b => Char.ofNat b.toNat)) else none) = _
  by_cases h : VisibleText s
  · rcases utf8_visible h with ⟨hall, hmap⟩
    rw [if_pos hall, if_pos h, hmap]
  · rw [if_neg h, if_neg]
    intro hall
    rcases utf8_of_visibleBytes hall with ⟨hbytes, hvisible⟩
    rw [utf8_injective hbytes] at hvisible
    exact h hvisible

/-! ### The planned header -/

theorem lower_eq_of_hasName {name : Str} {h : PlannedHeader} :
    hasName name h = true ↔ lower h.name = lower name := by
  unfold hasName eqIgnoreCase
  exact decide_eq_true_iff

/-- Sorting keeps the order of what has one key. -/
theorem filter_sortBy {β : Type} (key : β → Str) (k : Str) (l : List β) :
    (sortBy key l).filter (fun x => key x = k) = l.filter (fun x => key x = k) := by
  have hequal : (l.filter (fun x => key x = k)).Pairwise (fun a b => strLe (key a) (key b)) := by
    refine List.pairwise_iff_forall_sublist.mpr (fun {a b} hab => ?_)
    have ha := (List.mem_filter.mp (hab.subset List.mem_cons_self)).2
    have hb := (List.mem_filter.mp (hab.subset (List.mem_cons_of_mem a List.mem_cons_self))).2
    rw [decide_eq_true_eq] at ha hb
    rw [ha, hb]
    exact (strLe_iff _ _).mpr le_rfl
  have hsub : (l.filter (fun x => key x = k)).Sublist
      ((sortBy key l).filter (fun x => key x = k)) := by
    have hfiltered := (List.sublist_insertionSort hequal List.filter_sublist).filter
      (fun x => decide (key x = k))
    simp only [List.filter_filter, Bool.and_self] at hfiltered
    exact hfiltered
  have hlength : (l.filter (fun x => key x = k)).length =
      ((sortBy key l).filter (fun x => key x = k)).length :=
    ((List.perm_insertionSort _ l).symm.filter _).length_eq
  exact (hsub.eq_of_length hlength).symm

/-- The cookies in the order they are written. -/
def sortedCookies (cookies : List (Str × Str)) : List (Str × Str) :=
  cookies.insertionSort (fun a b => keyLe a b)

theorem mem_sortedCookies {cookies : List (Str × Str)} {c : Str × Str} :
    c ∈ sortedCookies cookies ↔ c ∈ cookies := List.mem_insertionSort _

/-- The text the planner writes. -/
def writtenCookies (cookies : List (Str × Str)) : Str :=
  join "; " ((sortedCookies cookies).map cookieText)

theorem cookieHeader_eq (cookies : List (Str × Str)) :
    cookieHeader cookies = if cookies = [] then [] else [⟨"Cookie", writtenCookies cookies⟩] := by
  unfold cookieHeader
  cases cookies with
  | nil => rfl
  | cons c cookies => rfl

/-- The planned header is the only one of its name, it is read as the planned
    cookies, and the conformance mutator reads the same. -/
structure CookiesRead (plan : RequestPlan) (cookies : List (Str × Str)) : Prop where
  only : plan.headers.filter (hasName "cookie") = cookieHeader cookies
  pairs : ∀ h ∈ cookieHeader cookies, cookiePairs h.value = sortedCookies cookies
  mutated : ((plan.headers.find? (hasName "cookie")).map (fun h => cookiePairs h.value)).getD [] =
    sortedCookies cookies

section

variable {lib : Crates} {world : World} {source : OpenApiSource} {operation : OperationDefinition}
  {options : PlanOptions} {configuration : ProjectConfiguration} {past : List Event}
  {plan : RequestPlan} {inputs : Inputs} {b : Bindings}

/-- The header of a body is its content type. -/
theorem bindBody_headers {bound : BoundBody}
    (h : (bindBody lib world source operation inputs options past).1 = .ok bound) :
    ∀ header ∈ bound.headers, header.name = "Content-Type".toList := by
  unfold bindBody at h
  -- The only header a body adds is its content type.
  cases hrequest : lookup "requestBody" operation.operation with
  | none =>
      rw [hrequest] at h
      dsimp only at h
      split_ifs at h
      · cases h
      · cases h
        exact fun header hheader => absurd hheader List.not_mem_nil
  | some requestBodyValue =>
      rw [hrequest] at h
      rcases Eff.ofExcept_bind_ok h with ⟨requestBody, _, h⟩
      rcases hvalue : bodyValue operation inputs with ⟨_ | ⟨body, provenance⟩, inputs'⟩
      · rw [hvalue] at h
        dsimp only at h
        split_ifs at h
        · cases h
        · cases h
          exact fun header hheader => absurd hheader List.not_mem_nil
      · rw [hvalue] at h
        rcases Eff.ofExcept_bind_ok h with ⟨media, _, h⟩
        rcases Eff.ofExcept_bind_ok h with ⟨_, _, h⟩
        rcases Eff.bind_ok h with ⟨wire, _, h⟩
        cases h
        exact fun header hheader => by rw [List.mem_singleton.mp hheader]

/-- The headers of a plan that are named like the cookie header: those of the
    parameters first, and then the planned one. -/
theorem cookieHeaders_of_plan
    (hplan : (buildPlanWithConfiguration lib world source operation options configuration past).1 =
      .ok plan)
    (hinputs : Inputs.fromOptions options.input options.explicit = .ok inputs)
    (hbind : bindParameters source operation world.stack inputs = .ok b) :
    plan.headers.filter (hasName "cookie") =
      b.headers.filter (hasName "cookie") ++ cookieHeader b.cookies := by
  rcases buildPlanWithConfiguration_ok hplan with ⟨parts, hparts, _, rfl⟩
  rcases planParts_reads hparts with ⟨inputs', hinputs', hbind', hbody, _⟩
  rw [hinputs, Except.ok.injEq] at hinputs'
  rw [← hinputs', hbind, Except.ok.injEq] at hbind'
  -- The headers are those of the parameters, then the cookies, then those of the body.
  have hheaders : ((parts.assemble lib source operation options.checks configuration).sealed
      lib).headers = sortBy (fun h => lower h.name)
        (b.headers ++ cookieHeader b.cookies ++ parts.body.headers) := by
    rw [hbind']
    rfl
  have hname : hasName "cookie" = fun h => decide (lower h.name = "cookie".toList) := by
    ext h
    rw [Bool.eq_iff_iff, lower_eq_of_hasName, decide_eq_true_eq]
    exact Iff.rfl
  -- The cookie header is named so, whichever way the name is written.
  have hcookie : (cookieHeader b.cookies).filter (hasName "cookie") = cookieHeader b.cookies := by
    rw [List.filter_eq_self]
    intro h hh
    rw [cookieHeader_eq] at hh
    split_ifs at hh
    · exact absurd hh List.not_mem_nil
    · rw [List.mem_singleton.mp hh]
      have hlower : lower "Cookie" = lower "cookie" := by decide
      exact lower_eq_of_hasName.mpr hlower
  -- A body brings no header of that name.
  have hcontent : parts.body.headers.filter (hasName "cookie") = [] := by
    rw [List.filter_eq_nil_iff]
    intro h hh
    rw [lower_eq_of_hasName, bindBody_headers hbody h hh]
    decide
  rw [hheaders]
  conv_lhs => rw [hname]
  rw [filter_sortBy (fun h : PlannedHeader => lower h.name) "cookie", ← hname, List.filter_append,
    List.filter_append, hcookie, hcontent, List.append_nil]

/-- The planned cookies are read as they were planned exactly when each is
    framed and no header parameter has the name of their header. -/
theorem cookiesRead_iff
    (hplan : (buildPlanWithConfiguration lib world source operation options configuration past).1 =
      .ok plan)
    (hinputs : Inputs.fromOptions options.input options.explicit = .ok inputs)
    (hbind : bindParameters source operation world.stack inputs = .ok b) :
    CookiesRead plan b.cookies ↔
      (∀ h ∈ b.headers, hasName "cookie" h = false) ∧ ∀ c ∈ b.cookies, Framed c := by
  have hfilter := cookieHeaders_of_plan hplan hinputs hbind
  -- What is written is read back exactly when every cookie is framed.
  have hwritten : (∀ h ∈ cookieHeader b.cookies, cookiePairs h.value = sortedCookies b.cookies) ↔
      ∀ c ∈ b.cookies, Framed c := by
    rw [cookieHeader_eq]
    by_cases hnone : b.cookies = []
    · rw [if_pos hnone, hnone]
      exact iff_of_true (fun h hh => absurd hh List.not_mem_nil) (fun c hc => absurd hc List.not_mem_nil)
    · rw [if_neg hnone, List.forall_mem_singleton]
      refine (cookiePairs_written (sortedCookies b.cookies)).trans ?_
      exact forall_congr' (fun c => imp_congr_left mem_sortedCookies)
  constructor
  -- One header only, so none of the parameters may be another.
  · rintro ⟨honly, hpairs, _⟩
    refine ⟨fun h hh => ?_, hwritten.mp hpairs⟩
    rw [hfilter, List.append_left_eq_self, List.filter_eq_nil_iff] at honly
    exact Bool.eq_false_iff.mpr (honly h hh)
  · rintro ⟨hnames, hframed⟩
    have hpairs := hwritten.mpr hframed
    -- And conversely the cookie header is the only one.
    have honly : plan.headers.filter (hasName "cookie") = cookieHeader b.cookies := by
      rw [hfilter, List.append_left_eq_self, List.filter_eq_nil_iff]
      intro h hh
      rw [hnames h hh]
      exact Bool.false_ne_true
    refine ⟨honly, hpairs, ?_⟩
    rw [← List.head?_filter, honly]
    rw [cookieHeader_eq] at hpairs ⊢
    by_cases hnone : b.cookies = []
    · rw [if_pos hnone, hnone]
      rfl
    · rw [if_neg hnone] at hpairs ⊢
      exact hpairs _ List.mem_cons_self

/-! ### The cookie of a credential -/

theorem visibleText_append {s t : Str} :
    VisibleText (s ++ t) ↔ VisibleText s ∧ VisibleText t := List.forall_mem_append

theorem join_cookies_cons (c d : Str) (rest : List Str) :
    join "; " (c :: d :: rest) = c ++ ("; ".toList ++ join "; " (d :: rest)) := by
  unfold join
  rw [List.intercalate_cons_cons, List.append_assoc]

theorem join_cookies_append (parts : List Str) (hne : parts ≠ []) (last : Str) :
    join "; " (parts ++ [last]) = join "; " parts ++ "; ".toList ++ last := by
  induction parts with
  | nil => exact absurd rfl hne
  | cons c parts ih =>
      cases parts with
      | nil =>
          rw [List.singleton_append, join_cookies_cons]
          unfold join
          rw [List.intercalate_singleton, List.intercalate_singleton, List.append_assoc]
      | cons d rest =>
          rw [List.cons_append, List.cons_append, join_cookies_cons, ← List.cons_append,
            ih (List.cons_ne_nil d rest), join_cookies_cons]
          simp only [List.append_assoc]

theorem visibleText_join {parts : List Str} :
    VisibleText (join "; " parts) ↔ ∀ t ∈ parts, VisibleText t := by
  have hsep : VisibleText "; " := by decide
  induction parts with
  | nil => exact iff_of_true (fun c hc => absurd hc List.not_mem_nil) (fun t ht => absurd ht List.not_mem_nil)
  | cons c parts ih =>
      cases parts with
      | nil =>
          rw [List.forall_mem_singleton]
          unfold join
          rw [List.intercalate_singleton]
      | cons d rest =>
          rw [join_cookies_cons, visibleText_append, visibleText_append, List.forall_mem_cons]
          exact ⟨fun h => ⟨h.1, ih.mp h.2.2⟩, fun h => ⟨h.1, hsep, ih.mpr h.2⟩⟩

/-- The headers a plan is sent with are its own. -/
theorem plannedHeaders_sent (hname : ∀ s n, lib.headerName s = .ok n → n = lower s)
    (hvalue : ∀ s v, lib.headerValue s = .ok v → v = utf8 s) {headers : HeaderMap}
    (h : plannedHeaders lib plan = .ok headers) : headers = plan.headers.map PlannedHeader.sent := by
  have hloop (planned : List PlannedHeader) (before after : HeaderMap)
      (hfold : planned.foldlM (plannedHeader lib) before = .ok after) :
      after = before ++ planned.map PlannedHeader.sent := by
    induction planned generalizing before with
    | nil =>
        rw [List.foldlM_nil, except_pure_ok] at hfold
        rw [← hfold, List.map_nil, List.append_nil]
    | cons first rest ih =>
        rw [List.foldlM_cons, except_bind_ok] at hfold
        rcases hfold with ⟨middle, hfirst, hrest⟩
        rcases plannedHeader_ok hfirst with ⟨name, value, hn, hv, rfl⟩
        rw [ih _ hrest, hname _ _ hn, hvalue _ _ hv, List.append_assoc]
        rfl
  exact hloop plan.headers [] headers h

/-- The text a later reader finds in the cookie header of a plan. -/
theorem existing_of_sent (headers : List PlannedHeader) :
    ((HeaderMap.get (headers.map PlannedHeader.sent) "cookie").bind headerText) =
      (headers.find? (hasName "cookie")).bind (fun h => headerText (utf8 h.value)) := by
  have hname : hasName "cookie" = fun h => decide (lower h.name = lower "cookie".toList) := by
    ext h
    rw [Bool.eq_iff_iff, lower_eq_of_hasName, decide_eq_true_eq]
  unfold HeaderMap.get
  rw [hname, List.find?_map, Option.map_map, Option.bind_map]
  rfl

/-- The value the executor puts in the cookie header. -/
theorem cookieValue_of_read {cookies : List (Str × Str)} (h : CookiesRead plan cookies)
    (name secret : Str) :
    cookieValue (plan.headers.map PlannedHeader.sent) name secret =
      if cookies = [] ∨ ¬ VisibleText (writtenCookies cookies) then cookieText (name, secret)
      else writtenCookies cookies ++ "; ".toList ++ cookieText (name, secret) := by
  unfold cookieValue
  rw [existing_of_sent, ← List.head?_filter, h.only, cookieHeader_eq]
  -- The one cookie header is the first that is found, if there are cookies.
  by_cases hnone : cookies = []
  · rw [if_pos hnone, if_pos (Or.inl hnone)]
    rfl
  · rw [if_neg hnone, List.head?_cons, Option.bind_some, headerText_utf8]
    by_cases hvisible : VisibleText (writtenCookies cookies)
    -- It has text in it, so the credential is joined to it.
    · have hwritten : (writtenCookies cookies).isEmpty = false := by
        cases hsorted : sortedCookies cookies with
        | nil =>
            have hlength := (List.perm_insertionSort (fun a b => keyLe a b = true) cookies).length_eq
            change (sortedCookies cookies).length = _ at hlength
            rw [hsorted] at hlength
            exact absurd (List.length_eq_zero_iff.mp hlength.symm) hnone
        | cons c rest =>
            unfold writtenCookies
            rw [hsorted]
            cases rest with
            | nil =>
                unfold join
                rw [List.map_cons, List.map_nil, List.intercalate_singleton]
                simp [cookieText]
            | cons d rest =>
                rw [List.map_cons, List.map_cons, join_cookies_cons]
                simp [cookieText]
      rw [if_pos hvisible, if_neg (not_or.mpr ⟨hnone, not_not.mpr hvisible⟩)]
      simp only [Option.getD_some, hwritten, Bool.false_eq_true, if_false, cookieText,
        List.append_assoc]
    · rw [if_neg hvisible, if_pos (Or.inr hvisible)]
      rfl

/-- Adding a cookie keeps the others exactly when the header is visible text and
    all cookies, the new one included, are framed. -/
theorem cookiePairs_cookieValue {cookies : List (Str × Str)} (h : CookiesRead plan cookies)
    (hframed : ∀ c ∈ cookies, Framed c) (name secret : Str) :
    cookiePairs (cookieValue (plan.headers.map PlannedHeader.sent) name secret) =
        sortedCookies cookies ++ [(name, secret)] ↔
      (∀ c ∈ cookies, VisibleText (cookieText c)) ∧ Framed (name, secret) := by
  have hown : cookiePairs (cookieText (name, secret)) = [(name, secret)] ↔ Framed (name, secret) := by
    have hwritten := cookiePairs_written [(name, secret)]
    rwa [List.forall_mem_singleton, List.map_singleton, join, List.intercalate_singleton] at hwritten
  have hvisible : VisibleText (writtenCookies cookies) ↔ ∀ c ∈ cookies, VisibleText (cookieText c) := by
    unfold writtenCookies
    rw [visibleText_join, List.forall_mem_map]
    exact forall_congr' (fun c => imp_congr_left mem_sortedCookies)
  rw [cookieValue_of_read h]
  by_cases hnone : cookies = []
  · subst hnone
    rw [if_pos (Or.inl rfl), and_iff_right (fun c hc => absurd hc List.not_mem_nil)]
    exact hown
  · have hsorted : sortedCookies cookies ≠ [] := by
      intro hnil
      have hlength := (List.perm_insertionSort (fun a b => keyLe a b = true) cookies).length_eq
      change (sortedCookies cookies).length = _ at hlength
      rw [hnil] at hlength
      exact hnone (List.length_eq_zero_iff.mp hlength.symm)
    by_cases hv : VisibleText (writtenCookies cookies)
    · have hjoin : writtenCookies cookies ++ "; ".toList ++ cookieText (name, secret) =
          join "; " ((sortedCookies cookies ++ [(name, secret)]).map cookieText) := by
        rw [List.map_append, List.map_singleton, join_cookies_append _ (by simpa using hsorted)]
        rfl
      rw [if_neg (not_or.mpr ⟨hnone, not_not.mpr hv⟩), hjoin, cookiePairs_written,
        List.forall_mem_append, List.forall_mem_singleton, and_iff_right (hvisible.mp hv)]
      exact and_iff_right (fun c hc => hframed c (mem_sortedCookies.mp hc))
    · -- The planned cookies are dropped, and no reading of the new one gives them back.
      rw [if_pos (Or.inr hv)]
      refine iff_of_false (fun hread => ?_) (fun hall => hv (hvisible.mpr hall.1))
      have hmem : (name, secret) ∈ cookiePairs (cookieText (name, secret)) := by
        rw [hread]
        exact List.mem_append_right _ List.mem_cons_self
      have hsingle := hown.mpr (framed_of_mem_cookiePairs hmem)
      rw [hread, List.append_left_eq_self] at hsingle
      exact hsorted hsingle

/-- The cookies of a plan are read as they were planned, by splitting their
    header and by the conformance mutator, exactly when each is framed and no
    header parameter is named like the header. A credential placed in a cookie
    keeps them and adds its own exactly when moreover the planned cookies are
    visible text and its own is framed. -/
theorem cookies_framed_iff
    (hplan : (buildPlanWithConfiguration lib world source operation options configuration past).1 =
      .ok plan)
    (hinputs : Inputs.fromOptions options.input options.explicit = .ok inputs)
    (hbind : bindParameters source operation world.stack inputs = .ok b)
    (hname : ∀ s n, lib.headerName s = .ok n → n = lower s)
    (hvalue : ∀ s v, lib.headerValue s = .ok v → v = utf8 s) :
    (CookiesRead plan b.cookies ↔
      (∀ h ∈ b.headers, hasName "cookie" h = false) ∧ ∀ c ∈ b.cookies, Framed c) ∧
    ∀ (invokeOptions : InvokeOptions) (auth : PlannedAuth) (name secret : Str)
      (target target' : Url) (headers headers' : HeaderMap), plan.auth = some auth →
      Placement.parse auth.placement = .cookie name →
      resolveSecret invokeOptions auth.profile = .ok secret →
      plannedHeaders lib plan = .ok headers →
      applyAuth lib plan invokeOptions target headers = .ok (target', headers') →
      ((CookiesRead plan b.cookies ∧ ∃ text, headers'.getAll "cookie" = [utf8 text] ∧
          cookiePairs text = sortedCookies b.cookies ++ [(name, secret)]) ↔
        (∀ h ∈ b.headers, hasName "cookie" h = false) ∧ (∀ c ∈ b.cookies, Framed c) ∧
          (∀ c ∈ b.cookies, VisibleText (cookieText c)) ∧ Framed (name, secret)) := by
  have hread := cookiesRead_iff hplan hinputs hbind
  refine ⟨hread, ?_⟩
  intro invokeOptions auth name secret target target' headers headers' hauth hplacement hsecret
    hheaders happly
  have hsent := plannedHeaders_sent hname hvalue hheaders
  -- The cookie header of the request is the one the executor has written.
  have hcookie : headers'.getAll "cookie" = [utf8 (cookieValue headers name secret)] := by
    unfold applyAuth at happly
    rw [hauth] at happly
    rcases except_bind_ok.mp happly with ⟨found, hfound, happly⟩
    rw [hsecret, Except.ok.injEq] at hfound
    rw [hplacement, ← hfound] at happly
    rcases except_bind_ok.mp happly with ⟨inserted, hinsert, hpair⟩
    cases hpair
    rcases insertSensitiveHeader_ok hinsert with ⟨n, v, hn, hv, rfl⟩
    rw [hname _ _ hn, hvalue _ _ hv]
    unfold HeaderMap.getAll HeaderMap.insert
    -- What was there under the name has gone, so only the new header is found.
    have hnone (e : Header) : (decide (e.name = lower "cookie") &&
        decide (e.name ≠ lower "cookie")) = false := by
      rw [decide_not, Bool.and_not_self]
    rw [List.filter_append, List.filter_filter, List.filter_eq_nil_iff.mpr (fun e _ h =>
      Bool.false_ne_true ((hnone e).symm.trans h)), List.nil_append, List.filter_cons_of_pos]
    · rfl
    · exact decide_eq_true rfl
  have htext : (∃ text, headers'.getAll "cookie" = [utf8 text] ∧
      cookiePairs text = sortedCookies b.cookies ++ [(name, secret)]) ↔
      cookiePairs (cookieValue headers name secret) =
        sortedCookies b.cookies ++ [(name, secret)] := by
    rw [hcookie]
    constructor
    · rintro ⟨text, hsame, hpairs⟩
      rw [utf8_injective (List.singleton_injective hsame)]
      exact hpairs
    · intro hpairs
      exact ⟨_, rfl, hpairs⟩
  rw [htext, hsent]
  constructor
  · rintro ⟨hcookies, hpairs⟩
    rcases hread.mp hcookies with ⟨hnames, hframed⟩
    exact ⟨hnames, hframed, (cookiePairs_cookieValue hcookies hframed name secret).mp hpairs⟩
  · rintro ⟨hnames, hframed, hrest⟩
    have hcookies := hread.mpr ⟨hnames, hframed⟩
    exact ⟨hcookies, (cookiePairs_cookieValue hcookies hframed name secret).mpr hrest⟩

end

/-- A document with a key that goes into a cookie. -/
def accountSource : OpenApiSource :=
  ⟨jsonObject [("components", jsonObject [("securitySchemes", jsonObject [("login",
    jsonObject [("in", .string "cookie"), ("name", .string "token"), ("type", .string "apiKey")])])])],
    [], []⟩

/-- The operation on the items with two cookies and that key. -/
def listItemsAccount : OperationDefinition :=
  { listItems with
    operation := [("parameters", .array [
        .object [("in", .string "cookie"), ("name", .string "theme"),
          ("schema", jsonObject [("type", .string "string")])],
        .object [("in", .string "cookie"), ("name", .string "session"),
          ("schema", jsonObject [("type", .string "string")])]]),
      ("security", .array [jsonObject [("login", .array [])]])] }

def accountOptions : PlanOptions :=
  { PlanOptions.default with
    server := some "https://api.example.com".toList
    auth := some "login=me".toList
    input := some (jsonObject [("cookie", jsonObject [("session", .string "abc"),
      ("theme", .string "dark")])]) }

/-- The key itself. -/
def accountSecrets : InvokeOptions :=
  { InvokeOptions.default with secrets := [("me".toList, "s3cret".toList)] }

/-- Two cookies are read as they were planned, and the key that is sent with them
    keeps them. -/
theorem cookies_framed_account : ∃ plan headers,
    (buildPlanWithConfiguration referenceCrates referenceWorld accountSource listItemsAccount
      accountOptions .default []).1 = .ok plan ∧
    CookiesRead plan [("session".toList, "abc".toList), ("theme".toList, "dark".toList)] ∧
    plannedHeaders referenceCrates plan = .ok headers ∧
    ∀ target, ∃ headers', applyAuth referenceCrates plan accountSecrets target headers =
        .ok (target, headers') ∧ ∃ text, headers'.getAll "cookie" = [utf8 text] ∧
      cookiePairs text = [("session".toList, "abc".toList), ("theme".toList, "dark".toList),
        ("token".toList, "s3cret".toList)] := by
  -- The plan, its headers and its credential.
  have hplanned : (buildPlanWithConfiguration referenceCrates referenceWorld accountSource
      listItemsAccount accountOptions .default []).1.toOption.map (fun p => (p.headers, p.auth)) =
        some ([⟨"Cookie".toList, "session=abc; theme=dark".toList⟩],
          some ⟨"login", "apiKey", "me", "cookie:token", none, []⟩) := by
    decide +kernel
  rcases exists_ok_of_toOption hplanned with ⟨plan, hplan, hparts⟩
  rw [Prod.mk.injEq] at hparts
  rcases hparts with ⟨hheaders, hauth⟩
  -- The cookies that were bound.
  have hbound : ((Inputs.fromOptions accountOptions.input accountOptions.explicit).toOption.bind
      (fun inputs => (bindParameters accountSource listItemsAccount referenceWorld.stack
        inputs).toOption)).map (fun b => (b.headers, b.cookies)) =
          some ([], [("session".toList, "abc".toList), ("theme".toList, "dark".toList)]) := by
    decide +kernel
  rcases Option.map_eq_some_iff.mp hbound with ⟨b, hbound, hb⟩
  rcases Option.bind_eq_some_iff.mp hbound with ⟨inputs, hinputs, hbind⟩
  rw [Prod.mk.injEq] at hb
  have hsent : plannedHeaders referenceCrates plan =
      .ok [⟨"cookie", utf8 "session=abc; theme=dark", false⟩] := by
    unfold plannedHeaders
    rw [hheaders]
    exact toOption_eq_some.mp (by decide +kernel)
  -- The credential is joined to the header that is there.
  have happly (target : Url) : applyAuth referenceCrates plan accountSecrets target
      [⟨"cookie", utf8 "session=abc; theme=dark", false⟩] =
        .ok (target, [⟨"cookie", utf8 "session=abc; theme=dark; token=s3cret", true⟩]) := by
    unfold applyAuth
    rw [hauth]
    rfl
  rcases cookies_framed_iff hplan (toOption_eq_some.mp hinputs) (toOption_eq_some.mp hbind)
    headerLibrary_reference.name headerLibrary_reference.value with ⟨hread, hkey⟩
  rw [hb.1, hb.2] at hread hkey
  refine ⟨plan, _, hplan, hread.mpr ⟨fun h hh => absurd hh List.not_mem_nil, by decide⟩, hsent,
    fun target => ⟨_, happly target, ?_⟩⟩
  exact ((hkey accountSecrets _ "token" "s3cret" target target _ _ hauth (by decide) rfl hsent
    (happly target)).mpr ⟨fun h hh => absurd hh List.not_mem_nil, by decide, by decide, by decide⟩).2

/-- The operation on the items with a session cookie. -/
def listItemsSession : OperationDefinition :=
  { listItems with
    operation := [("parameters", .array [.object [("in", .string "cookie"),
      ("name", .string "session"), ("schema", jsonObject [("type", .string "string")])]])] }

def sessionOptions (value : Str) : PlanOptions :=
  { PlanOptions.default with
    server := some "https://api.example.com".toList
    input := some (jsonObject [("cookie", jsonObject [("session", .string value)])]) }

/-- A session with a semicolon in it is read as two cookies. -/
theorem cookie_added : ∃ plan,
    (buildPlanWithConfiguration referenceCrates referenceWorld itemsSource listItemsSession
      (sessionOptions "abc; admin=1") .default []).1 = .ok plan ∧
    plan.headers = [⟨"Cookie", "session=abc; admin=1"⟩] ∧
    cookiePairs "session=abc; admin=1" =
      [("session".toList, "abc".toList), ("admin".toList, "1".toList)] ∧
    ¬ CookiesRead plan [("session".toList, "abc; admin=1".toList)] := by
  have hplanned : (buildPlanWithConfiguration referenceCrates referenceWorld itemsSource
      listItemsSession (sessionOptions "abc; admin=1") .default []).1.toOption.map
        RequestPlan.headers = some [⟨"Cookie".toList, "session=abc; admin=1".toList⟩] := by
    decide +kernel
  rcases exists_ok_of_toOption hplanned with ⟨plan, hplan, hheaders⟩
  refine ⟨plan, hplan, hheaders, by decide, fun h => ?_⟩
  have hpairs := h.pairs ⟨"Cookie", "session=abc; admin=1"⟩ (by decide)
  exact absurd hpairs (by decide)

end Kahea
