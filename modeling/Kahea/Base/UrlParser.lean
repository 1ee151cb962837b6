import Kahea.Base.Net
import Kahea.Base.Url

/-!
# A URL Parser

A strict parser of hierarchical web URLs: the schemes of HTTP and WebSocket, an
authority without credentials whose host is a plain domain, a dotted IPv4
address or a bracketed IPv6 address, and a path, query and fragment that need
no percent-encoding.

On the texts it accepts it agrees with the parser of the URL standard: scheme
and host are lower-cased, the default port is dropped, IPv6 text is compressed
and the path goes through `pathState`. Everything else, which the standard
would repair or encode, it refuses. It is the concrete parser that statements
about an arbitrary parser are instantiated with.

## Main definitions

* `parseAuthority`: Host and port.
* `normalizedPath`: The path after the path state.
* `parseWebUrl`: The parser.

## Theorems

* `splitOn_pathText`: A path text is split into its segments.
* `pathState_append`: The path state of two paths, one after the other.
* `parseWebUrl_extendsPaths`: The parser extends paths.
-/

namespace Kahea

/-- The characters of a domain that need no further processing. -/
def isDomainChar (c : Char) : Bool := c.isAlphanum || c == '-' || c == '.' || c == '_'

/-- A plain domain or a dotted IPv4 address. -/
def parseDomain (s : Str) : Option Str :=
  let host := lower s
  let last := (host.splitOn '.').getLast?.getD []
  if host = [] ∨ ¬ host.all isDomainChar ∨ last = [] ∨
      (host.splitOn '.').any (startsWith "xn--") then none
  else if last.head?.any Char.isDigit then
    match readIpv4 host with
    | some (x, []) => some x.text
    | _ => none
  else some host

/-- The port of a scheme; the default port is dropped. -/
def parsePort (scheme s : Str) : Option (Option Nat) :=
  if s = [] then some none
  else if s.all Char.isDigit then
    (parseUnsigned 65536 s).map (fun n => if defaultPort scheme = some n then none else some n)
  else none

/-- Host and port of an authority without credentials. -/
def parseAuthority (scheme s : Str) : Option (Str × Option Nat) :=
  match stripPrefix "[" s with
  | some inner => do
      let (address, rest) ← splitOnce "]" inner
      let port ← (if rest = [] then some none else (stripPrefix ":" rest).bind (parsePort scheme))
      match readIpv6 address with
      | some (x, []) => some ('[' :: x.text ++ [']'], port)
      | _ => none
  | none => match splitOnce ":" s with
    | some (host, port) => do
        let host ← parseDomain host
        let port ← parsePort scheme port
        some (host, port)
    | none => (parseDomain s).map (fun host => (host, none))

/-- The characters that end an authority. -/
def endsAuthority (c : Char) : Bool := c == '/' || c == '?' || c == '#'

/-- The characters of a query or a fragment that need no encoding. -/
def isQueryChar (c : Char) : Bool := (isPathChar c || c == '/' || c == '?') && c != '\''

/-- The text before a character and, when it occurs, the text after it. -/
def cut (c : Char) (s : Str) : Str × Option Str :=
  (s.takeWhile (· != c), if c ∈ s then some ((s.dropWhile (· != c)).drop 1) else none)

/-- The segments of a path text; the empty text is the root. -/
def rawSegments : Str → List Str
  | [] => [[]]
  | _ :: rest => rest.splitOn '/'

/-- The path after the path state. -/
def normalizedPath (p : Str) : Str := pathText (pathState [] (rawSegments p))

/-- The parser. -/
def parseWebUrl (s : Str) : Except Str Url :=
  match splitOnce "://" s with
  | none => .error "relative URL without a base"
  | some (scheme, rest) =>
      let scheme := lower scheme
      let authority := rest.takeWhile (fun c => !endsAuthority c)
      let tail := rest.dropWhile (fun c => !endsAuthority c)
      let (before, fragment) := cut '#' tail
      let (path, query) := cut '?' before
      match parseAuthority scheme authority with
      | none => .error "invalid authority"
      | some (host, port) =>
          if (scheme = "http" ∨ scheme = "https" ∨ scheme = "ws" ∨ scheme = "wss") ∧
              path.all (fun c => isPathChar c || c == '/') = true ∧
              query.all (List.all · isQueryChar) = true ∧
              fragment.all (List.all · isQueryChar) = true then
            .ok { scheme := scheme, username := [], password := none, host := some host,
                  port := port, path := normalizedPath path, query := query,
                  fragment := fragment }
          else .error "unsupported URL"

example : (parseWebUrl "HTTPS://Example.com:443/a/./b/../c?q=1#f").toOption.map Url.serialize =
    some "https://example.com/a/c?q=1#f".toList := by decide

example : (parseWebUrl "http://[0:0::1]:8080/%2e%2E/x").toOption.map Url.serialize =
    some "http://[::1]:8080/x".toList := by decide

/-! ### Segments and path texts -/

theorem pathText_append (a b : List Str) : pathText (a ++ b) = pathText a ++ pathText b :=
  List.flatMap_append

/-- A path text is split into its segments. -/
theorem splitOn_pathText (s : Str) (rest : List Str) (h : ∀ t ∈ s :: rest, '/' ∉ t) :
    (s ++ pathText rest).splitOn '/' = s :: rest := by
  induction rest generalizing s with
  | nil =>
      rw [pathText, List.flatMap_nil, List.append_nil]
      exact List.splitOn_eq_singleton (h s List.mem_cons_self)
  | cons t rest ih =>
      have htail : pathText (t :: rest) = '/' :: (t ++ pathText rest) := rfl
      rw [htail, List.splitOn_append_cons_self_of_not_mem (h s List.mem_cons_self),
        ih t (fun u hu => h u (List.mem_cons_of_mem s hu))]

theorem rawSegments_pathText (segments : List Str) (hne : segments ≠ [])
    (h : ∀ t ∈ segments, '/' ∉ t) : rawSegments (pathText segments) = segments := by
  cases segments with
  | nil => exact absurd rfl hne
  | cons s rest => exact splitOn_pathText s rest h

/-- No segment of a text split at a character contains it. -/
theorem not_mem_of_mem_splitOn {c : Char} {s t : Str} (h : t ∈ s.splitOn c) : c ∉ t := by
  induction s generalizing t with
  | nil =>
      rw [List.splitOn_nil, List.mem_singleton] at h
      rw [h]
      exact List.not_mem_nil
  | cons d ds ih =>
      rw [List.splitOn_cons_eq_if_modifyHead] at h
      -- The character itself begins a new part, any other joins the first one.
      split at h
      · rcases List.mem_cons.mp h with rfl | h
        · exact List.not_mem_nil
        · exact ih h
      · rename_i hd
        rcases hds : ds.splitOn c with _ | ⟨u, us⟩
        · exact absurd hds (List.splitOn_ne_nil c ds)
        · rw [hds, List.modifyHead_cons] at h
          rcases List.mem_cons.mp h with rfl | h
          · rw [List.mem_cons, not_or]
            refine ⟨fun hc => hd (by rw [hc, beq_self_eq_true]), ih ?_⟩
            rw [hds]
            exact List.mem_cons_self
          · refine ih ?_
            rw [hds]
            exact List.mem_cons_of_mem u h

/-- An empty last segment comes from an empty text or a separator at the end. -/
theorem getLast_splitOn {c : Char} {s : Str} (h : (s.splitOn c).getLast? = some []) :
    s = [] ∨ s.getLast? = some c := by
  induction s with
  | nil => exact Or.inl rfl
  | cons d ds ih =>
      right
      rcases hds : ds.splitOn c with _ | ⟨u, us⟩
      · exact absurd hds (List.splitOn_ne_nil c ds)
      rw [List.splitOn_cons_eq_if_modifyHead, hds] at h
      rw [hds] at ih
      -- By the first character, which may be the separator.
      by_cases hd : (d == c) = true
      · rw [if_pos hd, List.getLast?_cons_cons] at h
        rcases ih h with rfl | hlast
        · rw [beq_iff_eq.mp hd]
          rfl
        · rw [List.getLast?_cons, hlast, Option.getD_some]
      · rw [if_neg hd, List.modifyHead_cons] at h
        cases us with
        | nil => cases h
        | cons v vs =>
            rw [List.getLast?_cons_cons] at h ih
            rcases ih h with rfl | hlast
            · rw [List.splitOn_nil] at hds
              cases hds
            · rw [List.getLast?_cons, hlast, Option.getD_some]

/-- The finished segments when more segments follow. -/
def pathStack : List Str → List Str → List Str
  | stack, [] => stack
  | stack, s :: rest =>
      if isDoubleDot s then pathStack stack.dropLast rest
      else if isSingleDot s then pathStack stack rest
      else pathStack (stack ++ [s]) rest

theorem pathStack_append (stack xs ys : List Str) :
    pathStack stack (xs ++ ys) = pathStack (pathStack stack xs) ys := by
  induction xs generalizing stack with
  | nil => rfl
  | cons s rest ih =>
      rw [List.cons_append, pathStack, pathStack, ih, ih, ih]
      split_ifs <;> rfl

/-- The path state of two paths, one after the other. -/
theorem pathState_append (stack xs ys : List Str) (hy : ys ≠ []) :
    pathState stack (xs ++ ys) = pathState (pathStack stack xs) ys := by
  induction xs generalizing stack with
  | nil => rfl
  | cons s rest ih =>
      rw [List.cons_append, pathState_cons stack s _ (List.append_ne_nil_of_right_ne_nil rest hy),
        pathStack, ih, ih, ih]
      split_ifs <;> rfl

/-- Dots at the end leave an empty segment that a following path takes away. -/
theorem pathState_eq (stack xs : List Str) (last : Str) :
    pathState stack (xs ++ [last]) =
      if isDots last then pathStack stack (xs ++ [last]) ++ [[]]
      else pathStack stack xs ++ [last] := by
  induction xs generalizing stack with
  | nil =>
      simp only [List.nil_append, pathState, pathStack, isDots, Bool.or_eq_true]
      by_cases hd : isDoubleDot last = true
      · rw [if_pos hd, if_pos (Or.inr hd), if_pos hd]
      · rw [if_neg hd, if_neg hd]
        by_cases hs : isSingleDot last = true
        · rw [if_pos hs, if_pos (Or.inl hs), if_pos hs]
        · rw [if_neg hs, if_neg (by rw [not_or]; exact ⟨hs, hd⟩)]
  | cons s rest ih =>
      rw [List.cons_append, pathState_cons stack s _ (List.append_ne_nil_of_right_ne_nil rest
        (List.cons_ne_nil last [])), pathStack, pathStack, ih, ih, ih]
      split_ifs <;> rfl

theorem pathState_ne_nil (stack xs : List Str) (hx : xs ≠ []) : pathState stack xs ≠ [] := by
  rcases List.eq_nil_or_concat xs with rfl | ⟨init, last, rfl⟩
  · exact absurd rfl hx
  · rw [List.concat_eq_append, pathState_eq]
    split <;> simp only [ne_eq, List.append_eq_nil_iff, List.cons_ne_nil, and_false,
      not_false_eq_true]

/-- The path state makes no segments but the given ones and empty ones. -/
theorem mem_pathState (stack xs : List Str) (s : Str) (h : s ∈ pathState stack xs) :
    s ∈ stack ∨ s ∈ xs ∨ s = [] := by
  induction xs generalizing stack with
  | nil => exact Or.inl h
  | cons t rest ih =>
      -- Whatever the segment does to the stack, it adds nothing but itself.
      have hstep : ∀ st, (∀ u ∈ st, u ∈ stack ∨ u = t) → s ∈ pathState st rest →
          s ∈ stack ∨ s ∈ t :: rest ∨ s = [] := by
        intro st hst hs
        rcases ih st hs with h | h | h
        · rcases hst s h with h | h
          · exact Or.inl h
          · exact Or.inr (Or.inl (List.mem_cons.mpr (Or.inl h)))
        · exact Or.inr (Or.inl (List.mem_cons_of_mem t h))
        · exact Or.inr (Or.inr h)
      rcases List.eq_nil_or_concat rest with rfl | ⟨init, last, rfl⟩
      · rw [← List.nil_append [t], pathState_eq] at h
        split_ifs at h
        · rcases List.mem_append.mp h with h | h
          · refine hstep (pathStack stack ([] ++ [t])) ?_ h
            intro u hu
            simp only [List.nil_append, pathStack] at hu
            split_ifs at hu
            · exact Or.inl (List.mem_of_mem_dropLast hu)
            · exact Or.inl hu
            · exact (List.mem_append.mp hu).imp id List.mem_singleton.mp
          · exact Or.inr (Or.inr (List.mem_singleton.mp h))
        · refine hstep (stack ++ [t]) ?_ h
          exact fun u hu => (List.mem_append.mp hu).imp id List.mem_singleton.mp
      · rw [pathState_cons _ _ _ (by simp only [List.concat_eq_append, ne_eq,
          List.append_eq_nil_iff, List.cons_ne_nil, and_false, not_false_eq_true])] at h
        split_ifs at h
        · exact hstep _ (fun u hu => Or.inl (List.mem_of_mem_dropLast hu)) h
        · exact hstep _ (fun u hu => Or.inl hu) h
        · exact hstep _ (fun u hu => (List.mem_append.mp hu).imp id List.mem_singleton.mp) h

/-- The segments of a normalised path. -/
theorem splitOn_normalizedPath (p : Str) :
    ((normalizedPath p).drop 1).splitOn '/' = pathState [] (rawSegments p) := by
  have hraw : rawSegments p ≠ [] := by
    cases p with
    | nil => exact List.cons_ne_nil _ _
    | cons c rest => exact List.splitOn_ne_nil _ _
  -- No segment has a slash in it, so the path splits where it was joined.
  have hslash : ∀ t ∈ pathState [] (rawSegments p), '/' ∉ t := by
    intro t ht
    rcases mem_pathState _ _ _ ht with h | h | rfl
    · exact absurd h List.not_mem_nil
    · cases p with
      | nil =>
          rw [rawSegments, List.mem_singleton] at h
          rw [h]
          exact List.not_mem_nil
      | cons c rest => exact not_mem_of_mem_splitOn h
    · exact List.not_mem_nil
  unfold normalizedPath
  rcases hps : pathState [] (rawSegments p) with _ | ⟨s, rest⟩
  · exact absurd hps (pathState_ne_nil _ _ hraw)
  · rw [hps] at hslash
    exact splitOn_pathText s rest hslash

/-! ### The parser extends paths -/

theorem cut_of_not_mem {c : Char} {s : Str} (h : c ∉ s) : cut c s = (s, none) := by
  have hall : ∀ x ∈ s, (x != c) = true := by
    intro x hx
    rw [bne_iff_ne]
    rintro rfl
    exact h hx
  simp only [cut, if_neg h, List.takeWhile_eq_self_iff.mpr hall]

theorem not_mem_of_cut_eq_none {c : Char} {s : Str} (h : (cut c s).2 = none) : c ∉ s := by
  intro hc
  simp only [cut, if_pos hc, reduceCtorEq] at h

/-- A path text begins with a slash and has no other delimiter. -/
theorem mem_pathText {segments : List Str} (h : ∀ s ∈ segments, s.all isPathChar = true) {c : Char}
    (hc : c ∈ pathText segments) : c = '/' ∨ isPathChar c = true := by
  rcases List.mem_flatMap.mp hc with ⟨s, hs, hcs⟩
  rcases List.mem_cons.mp hcs with hc | hc
  · exact Or.inl hc
  · exact Or.inr (List.all_eq_true.mp (h s hs) c hc)

/-- The base segments of a parsed URL are its path stack when its path has no
    open end. -/
theorem pathStack_eq_base (xs : List Str) (hlast : ∀ s, xs.getLast? = some s → s ≠ []) :
    pathStack [] xs = (let segments := pathState [] (if xs = [] then [[]] else xs)
      if segments.getLast? = some [] then segments.dropLast else segments) := by
  rcases List.eq_nil_or_concat xs with rfl | ⟨init, last, rfl⟩
  · rfl
  · rw [List.concat_eq_append] at hlast ⊢
    have hne : init ++ [last] ≠ [] :=
      List.append_ne_nil_of_right_ne_nil init (List.cons_ne_nil last [])
    have hl : last ≠ [] := hlast last (by rw [List.getLast?_append, List.getLast?_singleton,
      Option.some_or])
    dsimp only
    rw [if_neg hne, pathState_eq]
    by_cases hd : isDots last = true
    · rw [if_pos hd, List.getLast?_append, List.getLast?_singleton, Option.some_or, if_pos rfl,
        List.dropLast_concat]
    · have hplain : pathStack [] (init ++ [last]) = pathStack [] init ++ [last] := by
        simp only [isDots, Bool.or_eq_true, not_or] at hd
        rw [pathStack_append, pathStack, if_neg hd.2, if_neg hd.1, pathStack]
      rw [if_neg hd, List.getLast?_append, List.getLast?_singleton, Option.some_or,
        if_neg (by rw [Option.some.injEq]; exact hl), hplain]

/-- What a successful parse has read. -/
theorem parseWebUrl_ok {s : Str} {u : Url} (h : parseWebUrl s = .ok u) :
    ∃ scheme rest host port, splitOnce "://" s = some (scheme, rest) ∧
      parseAuthority (lower scheme) (rest.takeWhile (fun c => !endsAuthority c))
        = some (host, port) ∧
      u.scheme = lower scheme ∧ u.host = some host ∧ u.port = port ∧
      u.path = normalizedPath (cut '?' (cut '#' (rest.dropWhile (fun c => !endsAuthority c))).1).1 ∧
      u.query = (cut '?' (cut '#' (rest.dropWhile (fun c => !endsAuthority c))).1).2 ∧
      u.fragment = (cut '#' (rest.dropWhile (fun c => !endsAuthority c))).2 ∧
      (cut '?' (cut '#' (rest.dropWhile (fun c => !endsAuthority c))).1).1.all
        (fun c => isPathChar c || c == '/') = true := by
  unfold parseWebUrl at h
  -- The scheme, the authority and the characters of the path are checked in turn.
  split at h
  · cases h
  · rename_i scheme rest hsplit
    dsimp only at h
    split at h
    · cases h
    · rename_i host port hauth
      split_ifs at h with hplain
      cases h
      exact ⟨scheme, rest, host, port, hsplit, hauth, rfl, rfl, rfl, rfl, rfl, rfl, hplain.2.1⟩

/-- The schemes of a web URL. -/
theorem parseWebUrl_scheme {s : Str} {u : Url} (h : parseWebUrl s = .ok u) :
    u.scheme = "http" ∨ u.scheme = "https" ∨ u.scheme = "ws" ∨ u.scheme = "wss" := by
  unfold parseWebUrl at h
  split at h
  · cases h
  · dsimp only at h
    split at h
    · cases h
    · split_ifs at h with hplain
      cases h
      exact hplain.1

/-- A text behind a URL goes to the end of its path. -/
theorem split_appended {segments : List Str} (hne : segments ≠ []) (rest : Str) :
    (rest ++ pathText segments).takeWhile (fun c => !endsAuthority c) =
        rest.takeWhile (fun c => !endsAuthority c) ∧
      (rest ++ pathText segments).dropWhile (fun c => !endsAuthority c) =
        rest.dropWhile (fun c => !endsAuthority c) ++ pathText segments := by
  have hstart : (pathText segments).takeWhile (fun c => !endsAuthority c) = [] ∧
      (pathText segments).dropWhile (fun c => !endsAuthority c) = pathText segments := by
    cases segments with
    | nil => exact absurd rfl hne
    | cons t ts => exact ⟨rfl, rfl⟩
  constructor
  · rw [List.takeWhile_append, hstart.1, List.append_nil]
    split_ifs with hlen
    · exact (List.takeWhile_prefix _).eq_of_length hlen |>.symm
    · rfl
  · rw [List.dropWhile_append, hstart.2]
    split_ifs with hempty
    · rw [List.isEmpty_iff.mp hempty, List.nil_append]
    · rfl

/-- A path appended to a URL goes through the path state, and the rest of the
    URL is kept. -/
theorem parseWebUrl_append {base : Str} {segments : List Str} {b : Url}
    (hb : parseWebUrl base = .ok b) (hquery : b.query = none) (hfragment : b.fragment = none)
    (hend : PlainEnd base) (hne : segments ≠ [])
    (hsegments : ∀ s ∈ segments, s.all isPathChar = true) :
    ∃ path, parseWebUrl (base ++ pathText segments) = .ok { b with path := path } ∧
      ({ b with path := path } : Url).segments = pathState b.baseSegments segments := by
  rcases parseWebUrl_ok hb with
    ⟨scheme, rest, host, port, hsplit, hauth, hs, hh, hp, hpath, hq, hf, hchars⟩
  set tail := rest.dropWhile (fun c => !endsAuthority c) with htail
  rw [hf] at hfragment
  rw [hq] at hquery
  have hhash : '#' ∉ tail := not_mem_of_cut_eq_none hfragment
  rw [cut_of_not_mem hhash] at hpath hquery hchars
  have hmark : '?' ∉ tail := not_mem_of_cut_eq_none hquery
  rw [cut_of_not_mem hmark] at hpath hchars
  have hslash : ∀ t ∈ segments, '/' ∉ t := by
    intro t ht hc
    exact absurd (List.all_eq_true.mp (hsegments t ht) '/' hc) (by decide)
  have hpt := fun c => mem_pathText hsegments (c := c)
  -- The appended text goes to the end of the path.
  have hsplit' := splitOnce_append hsplit (pathText segments)
  rcases split_appended hne rest with ⟨htake, hdrop⟩
  rw [← htail] at hdrop
  have hhash' : '#' ∉ tail ++ pathText segments := by
    rw [List.mem_append, not_or]
    refine ⟨hhash, fun hc => ?_⟩
    rcases hpt '#' hc with h | h <;> exact absurd h (by decide)
  have hmark' : '?' ∉ tail ++ pathText segments := by
    rw [List.mem_append, not_or]
    refine ⟨hmark, fun hc => ?_⟩
    rcases hpt '?' hc with h | h <;> exact absurd h (by decide)
  have hchars' : (tail ++ pathText segments).all (fun c => isPathChar c || c == '/') = true := by
    rw [List.all_append, hchars, Bool.true_and, List.all_eq_true]
    intro c hc
    rcases hpt c hc with rfl | h
    · rfl
    · rw [h, Bool.true_or]
  have hweb : lower scheme = "http" ∨ lower scheme = "https" ∨ lower scheme = "ws" ∨
      lower scheme = "wss" := by
    rw [← hs]
    exact parseWebUrl_scheme hb
  refine ⟨normalizedPath (tail ++ pathText segments), ?_, ?_⟩
  · rcases b with ⟨_, username, password, _, _, _, _, _⟩
    have huser : username = [] ∧ password = none := by
      unfold parseWebUrl at hb
      rw [hsplit] at hb
      dsimp only at hb
      rw [hauth] at hb
      dsimp only at hb
      split_ifs at hb
      cases hb
      exact ⟨rfl, rfl⟩
    dsimp only at hs hh hp hq hf
    unfold parseWebUrl
    rw [hsplit']
    dsimp only
    rw [htake, hdrop, hauth, cut_of_not_mem hhash', cut_of_not_mem hmark']
    dsimp only
    rw [if_pos ⟨hweb, hchars', rfl, rfl⟩, huser.1, huser.2, hs, hh, hp, hq, hf,
      cut_of_not_mem hhash, cut_of_not_mem hmark]
  · unfold Url.baseSegments Url.segments
    dsimp only
    rw [splitOn_normalizedPath, hpath, splitOn_normalizedPath]
    cases htl : tail with
    | nil =>
        rw [List.nil_append, rawSegments_pathText segments hne hslash]
        rfl
    | cons c r =>
        have hc : c = '/' := by
          have hmem : c ∈ tail := by rw [htl]; exact List.mem_cons_self
          have hends : endsAuthority c = true := by
            have hhead := List.head?_dropWhile_not (fun c => !endsAuthority c) rest
            rw [← htail, htl, List.head?_cons] at hhead
            simpa only [Bool.not_eq_false'] using hhead
          simp only [endsAuthority, Bool.or_eq_true, beq_iff_eq] at hends
          rcases hends with (h | rfl) | rfl
          · exact h
          · exact absurd hmem hmark
          · exact absurd hmem hhash
        have hlast : ∀ s, (r.splitOn '/').getLast? = some s → s ≠ [] := by
          rintro s hs' rfl
          have hopen : (c :: r).getLast? = some '/' := by
            rcases getLast_splitOn hs' with rfl | h
            · rw [hc]
              rfl
            · rw [List.getLast?_cons, h, Option.getD_some]
          have hbase : base.getLast? = some '/' := by
            rw [splitOnce_eq_some _ _ _ _ hsplit,
              ← List.takeWhile_append_dropWhile (p := fun c => !endsAuthority c) (l := rest),
              ← htail, htl, List.getLast?_append, List.getLast?_append, hopen, Option.some_or,
              Option.some_or]
          exact (hend '/' hbase).2.1 rfl
        have hraw : rawSegments (c :: r ++ pathText segments) = r.splitOn '/' ++ segments := by
          cases segments with
          | nil => exact absurd rfl hne
          | cons t ts =>
              have hcons : pathText (t :: ts) = '/' :: (t ++ pathText ts) := rfl
              rw [List.cons_append, rawSegments, hcons, List.splitOn_append_cons_self,
                splitOn_pathText t ts hslash]
        have hbase := pathStack_eq_base (r.splitOn '/') hlast
        rw [if_neg (List.splitOn_ne_nil '/' r)] at hbase
        rw [hraw, pathState_append _ _ _ hne, hbase]
        rfl

theorem parseWebUrl_extendsPaths : ExtendsPaths parseWebUrl := by
  intro base segments b hb _ hquery hfragment hend hne hsegments
  rcases parseWebUrl_append hb hquery hfragment hend hne hsegments with ⟨path, hparse, hpath⟩
  exact ⟨{ b with path := path }, hparse, hpath, rfl, rfl, rfl⟩

theorem not_mem_pathText {segments : List Str} {c : Char} (hslash : c ≠ '/')
    (hnot : isSegmentChar c = false) (h : ∀ s ∈ segments, s.all isSegmentChar = true) :
    c ∉ pathText segments := by
  intro hmem
  rcases List.mem_flatMap.mp hmem with ⟨s, hs, hcs⟩
  rcases List.mem_cons.mp hcs with heq | hcs
  · exact hslash heq
  · have hc := List.all_eq_true.mp (h s hs) c hcs
    rw [hnot] at hc
    cases hc

/-- The reference parser accepts a path only when it needs no encoding. -/
theorem parseWebUrl_socketPaths : SocketPaths parseWebUrl id where
  dots := fun _ => rfl
  appended := by
    intro base segments b u hb _ hquery hfragment hend hne hsegments _ hu
    -- The segments that were joined contain characters of a path only.
    have hpath : ∀ s ∈ segments, s.all isPathChar = true := by
      rcases parseWebUrl_ok hb with ⟨scheme, rest, _, _, hsplit, _, _, _, _, _, hq, hf, _⟩
      rcases parseWebUrl_ok hu with ⟨_, _, _, _, hsplit', _, _, _, _, _, _, _, hchars⟩
      rw [splitOnce_append hsplit (pathText segments)] at hsplit'
      cases hsplit'
      rw [(split_appended hne rest).2] at hchars
      rw [hf] at hfragment
      rw [hq] at hquery
      -- Neither a fragment nor a query was there, and none can have been added.
      have hhash := not_mem_of_cut_eq_none hfragment
      rw [cut_of_not_mem hhash] at hquery
      have hmark := not_mem_of_cut_eq_none hquery
      have hhash' : '#' ∉ rest.dropWhile (fun c => !endsAuthority c) ++ pathText segments := by
        rw [List.mem_append, not_or]
        exact ⟨hhash, not_mem_pathText (by decide) (by decide) hsegments⟩
      have hmark' : '?' ∉ rest.dropWhile (fun c => !endsAuthority c) ++ pathText segments := by
        rw [List.mem_append, not_or]
        exact ⟨hmark, not_mem_pathText (by decide) (by decide) hsegments⟩
      rw [cut_of_not_mem hhash', cut_of_not_mem hmark'] at hchars
      intro s hs
      rw [List.all_eq_true] at hchars ⊢
      intro c hc
      have hmem : c ∈ pathText segments :=
        List.mem_flatMap.mpr ⟨s, hs, List.mem_cons_of_mem '/' hc⟩
      have hplain := hchars c (List.mem_append_right _ hmem)
      have hslash : c ≠ '/' := by
        rintro rfl
        exact absurd (List.all_eq_true.mp (hsegments s hs) '/' hc) (by decide)
      rw [Bool.or_eq_true, beq_iff_eq] at hplain
      exact hplain.resolve_right hslash
    -- So the parser splits the joined text where it was joined.
    rcases parseWebUrl_append hb hquery hfragment hend hne hpath with ⟨path, hparse, hresult⟩
    rw [hu] at hparse
    cases hparse
    rw [List.map_id]
    exact ⟨hresult, rfl, rfl, rfl, hquery, hfragment⟩

end Kahea
