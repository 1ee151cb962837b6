import Kahea.Base.Encode

/-!
# URLs

The record a URL parser returns, its serialisation, and the path state of the
parser.

The parser itself is a library outside this development, so it is a parameter
wherever it is used, a function from texts to `Url`. What it does with the path
of a hierarchical URL is written down here, because that is where a request can
be redirected: `pathState` is the stack of finished segments, a segment that
spells `..` pops it and a segment that spells `.` is dropped, whether the dots
are literal or percent-encoded. `ExtendsPaths` is the law a parser obeys when a
path is appended to a base URL. Its conditions keep out the texts on which the
parser does something else before it reaches the path: a base that ends in
white space (which is trimmed), in a slash or in a backslash (which opens one
more segment), and path characters that it would encode.

`pathState_of_plain` and `pathState_length` say when the path state is the
identity: exactly when no segment spells dots, and every other case is visible
in the number of segments or in an empty last segment.

## Main definitions

* `Url`: A parsed URL.
* `Url.portOrKnownDefault`, `Url.serialize`, `Url.appendPair`: Its operations.
* `isSingleDot`, `isDoubleDot`, `isDots`: Segments that spell dots.
* `pathState`: The path state of the parser.
* `ExtendsPaths`, `SocketPaths`: The laws of a parser on a base with an appended
  path.

## Theorems

* `pathState_of_plain`: Without dots the segments are pushed as they are.
* `pathState_length_le`, `pathState_length`: Dots never lengthen a path, and
  dots before the last segment shorten it.
* `pathState_getLast`: Dots in the last segment leave an empty segment.
-/

namespace Kahea

/-- A parsed URL. `port` is the explicit port and never the default of the
    scheme, and a host literal keeps its brackets. -/
structure Url where
  scheme : Str
  username : Str
  password : Option Str
  host : Option Str
  port : Option Nat
  path : Str
  query : Option Str
  fragment : Option Str
  deriving DecidableEq, Repr

/-- The default port of a scheme. -/
def defaultPort (scheme : Str) : Option Nat :=
  if scheme = "http" ∨ scheme = "ws" then some 80
  else if scheme = "https" ∨ scheme = "wss" then some 443
  else if scheme = "ftp" then some 21
  else none

namespace Url

/-- The explicit port or the default of the scheme. -/
def portOrKnownDefault (u : Url) : Option Nat := u.port.or (defaultPort u.scheme)

/-- The credentials part of the serialisation. -/
def userinfo (u : Url) : Str :=
  if u.username = [] ∧ u.password = none then []
  else u.username ++ (match u.password with
    | some p => ':' :: p
    | none => []) ++ ['@']

/-- The text of a URL. -/
def serialize (u : Url) : Str :=
  u.scheme ++ ':' :: (match u.host with
    | some h => "//" ++ u.userinfo ++ h ++ (match u.port with
      | some p => ':' :: decimal p
      | none => [])
    | none => []) ++ u.path ++ (match u.query with
      | some q => '?' :: q
      | none => []) ++ (match u.fragment with
      | some f => '#' :: f
      | none => [])

/-- Append one form-encoded pair to the query. -/
def appendPair (u : Url) (name value : Str) : Url :=
  let pair := formEncode name ++ '=' :: formEncode value
  { u with query := some (match u.query with
      | none => pair
      | some [] => pair
      | some q => q ++ '&' :: pair) }

/-- Append form-encoded pairs in order. -/
def appendPairs (u : Url) (pairs : List (Str × Str)) : Url :=
  pairs.foldl (fun v p => v.appendPair p.1 p.2) u

@[simp] theorem appendPair_scheme (u : Url) (n v : Str) :
    (u.appendPair n v).scheme = u.scheme := rfl

@[simp] theorem appendPair_path (u : Url) (n v : Str) : (u.appendPair n v).path = u.path := rfl

@[simp] theorem appendPair_username (u : Url) (n v : Str) :
    (u.appendPair n v).username = u.username := rfl

@[simp] theorem appendPair_password (u : Url) (n v : Str) :
    (u.appendPair n v).password = u.password := rfl

/-- Whatever the query does not reach, appending pairs leaves alone. -/
theorem appendPairs_frame {β : Type} (f : Url → β) (hf : ∀ u n v, f (u.appendPair n v) = f u)
    (u : Url) (pairs : List (Str × Str)) : f (u.appendPairs pairs) = f u := by
  induction pairs generalizing u with
  | nil => rfl
  | cons p rest ih => exact (ih (u.appendPair p.1 p.2)).trans (hf u p.1 p.2)

@[simp] theorem appendPairs_scheme (u : Url) (ps : List (Str × Str)) :
    (u.appendPairs ps).scheme = u.scheme := appendPairs_frame scheme appendPair_scheme u ps

@[simp] theorem appendPairs_path (u : Url) (ps : List (Str × Str)) :
    (u.appendPairs ps).path = u.path := appendPairs_frame path appendPair_path u ps

@[simp] theorem appendPairs_username (u : Url) (ps : List (Str × Str)) :
    (u.appendPairs ps).username = u.username :=
  appendPairs_frame username appendPair_username u ps

@[simp] theorem appendPairs_password (u : Url) (ps : List (Str × Str)) :
    (u.appendPairs ps).password = u.password :=
  appendPairs_frame password appendPair_password u ps

end Url

/-! ### Paths -/

/-- A segment that spells one dot. -/
def isSingleDot (s : Str) : Bool :=
  oneOf [".", "%2e"] (lower s)

/-- A segment that spells two dots. -/
def isDoubleDot (s : Str) : Bool :=
  oneOf ["..", ".%2e", "%2e.", "%2e%2e"] (lower s)

/-- A segment that spells dots. -/
def isDots (s : Str) : Bool := isSingleDot s || isDoubleDot s

/-- The finished segments after reading `segments` on top of `stack`. Dots
    in the last segment leave an empty segment behind. -/
def pathState : List Str → List Str → List Str
  | stack, [] => stack
  | stack, [s] =>
      if isDoubleDot s then stack.dropLast ++ [[]]
      else if isSingleDot s then stack ++ [[]]
      else stack ++ [s]
  | stack, s :: t :: rest =>
      if isDoubleDot s then pathState stack.dropLast (t :: rest)
      else if isSingleDot s then pathState stack (t :: rest)
      else pathState (stack ++ [s]) (t :: rest)

/-- The text of path segments, each after a slash. -/
def pathText (segments : List Str) : Str := segments.flatMap ('/' :: ·)

/-- The segments of a path. -/
def Url.segments (u : Url) : List Str := (u.path.drop 1).splitOn '/'

/-- The segments a path appended to this URL goes on top of: an empty last
    segment is the open end of the path and not a segment of its own. -/
def Url.baseSegments (u : Url) : List Str :=
  if u.segments.getLast? = some [] then u.segments.dropLast else u.segments

/-- The characters of a path segment that the parser leaves as they are. -/
def isPathChar (c : Char) : Bool :=
  0x21 ≤ c.toNat && c.toNat ≤ 0x7E &&
    !(['"', '#', '<', '>', '?', '^', '`', '\x7b', '\x7d', '/', '\\'].contains c)

/-- A base text that ends in an ordinary character, so that an appended slash
    opens a new segment. -/
def PlainEnd (base : Str) : Prop :=
  ∀ c, base.getLast? = some c → 0x20 < c.toNat ∧ c ≠ '/' ∧ c ≠ '\\'

instance (base : Str) : Decidable (PlainEnd base) :=
  match h : base.getLast? with
  | none => isTrue (fun c hc => by rw [h] at hc; cases hc)
  | some d =>
      if hd : 0x20 < d.toNat ∧ d ≠ '/' ∧ d ≠ '\\' then
        isTrue (fun c hc => by rw [h] at hc; cases hc; exact hd)
      else isFalse (fun hp => hd (hp d h))

/-- The law of a parser on a base URL with an appended path: the segments go
    through the path state on top of those of the base, and the authority is
    the base's. -/
def ExtendsPaths {ε : Type} (parse : Str → Except ε Url) : Prop :=
  ∀ (base : Str) (segments : List Str) (b : Url),
    parse base = .ok b → (b.scheme = "http" ∨ b.scheme = "https") →
    b.query = none → b.fragment = none → PlainEnd base →
    segments ≠ [] → (∀ s ∈ segments, s.all isPathChar = true) →
    ∃ u, parse (base ++ pathText segments) = .ok u ∧
      u.segments = pathState b.baseSegments segments ∧
      u.scheme = b.scheme ∧ u.host = b.host ∧ u.port = b.port

/-- The characters of a path segment: those that neither end it nor are dropped
    by the parser. -/
def isSegmentChar (c : Char) : Bool :=
  !(['/', '\\', '?', '#', '\t', '\n', '\r'].contains c)

/-- What a parser does with a path that is appended to a WebSocket URL: its
    segments are encoded and go through the path state, and the rest of the URL
    is kept. -/
structure SocketPaths {ε : Type} (parse : Str → Except ε Url) (encode : Str → Str) : Prop where
  /-- Encoding does not make dots or take them away. -/
  dots : ∀ s, isDots (encode s) = isDots s
  appended : ∀ (base : Str) (segments : List Str) (b u : Url), parse base = .ok b →
    (b.scheme = "ws" ∨ b.scheme = "wss") → b.query = none → b.fragment = none → PlainEnd base →
    segments ≠ [] → (∀ s ∈ segments, s.all isSegmentChar = true) →
    (∀ c, (pathText segments).getLast? = some c → 0x20 < c.toNat) →
    parse (base ++ pathText segments) = .ok u →
    u.segments = pathState b.baseSegments (segments.map encode) ∧
      u.scheme = b.scheme ∧ u.host = b.host ∧ u.port = b.port ∧
      u.query = none ∧ u.fragment = none

/-- The segments of a text, put together again. -/
theorem pathText_splitOn (s : Str) : pathText (s.splitOn '/') = '/' :: s := by
  induction s with
  | nil => rfl
  | cons c cs ih =>
      rcases hcs : cs.splitOn '/' with _ | ⟨t, ts⟩
      · exact absurd hcs (List.splitOn_ne_nil '/' cs)
      rw [List.splitOn_cons_eq_if_modifyHead]
      rw [hcs] at ih
      split_ifs with hc
      · rw [hcs, beq_iff_eq.mp hc]
        exact congrArg ('/' :: ·) ih
      · rw [hcs, List.modifyHead_cons]
        have htail : t ++ pathText ts = cs := (List.cons.inj ih).2
        rw [← htail]
        rfl

/-- One segment before others: it pops, is dropped or is pushed. -/
theorem pathState_cons (stack : List Str) (s : Str) (rest : List Str) (h : rest ≠ []) :
    pathState stack (s :: rest) =
      if isDoubleDot s then pathState stack.dropLast rest
      else if isSingleDot s then pathState stack rest
      else pathState (stack ++ [s]) rest := by
  cases rest with
  | nil => exact absurd rfl h
  | cons t rest => rfl

theorem pathState_cons_plain (stack rest : List Str) (s : Str) (hs : isDots s = false) :
    pathState stack (s :: rest) = pathState (stack ++ [s]) rest := by
  simp only [isDots, Bool.or_eq_false_iff] at hs
  cases rest with
  | nil => simp only [pathState, hs.1, hs.2, if_neg Bool.false_ne_true]
  | cons t rest => simp only [pathState, hs.1, hs.2, if_neg Bool.false_ne_true]

/-- A segment that spells dots, before others, never lengthens the stack. -/
theorem pathState_cons_dots (stack rest : List Str) (s : Str) (hs : isDots s = true)
    (h : rest ≠ []) :
    ∃ st : List Str, st.length ≤ stack.length ∧ pathState stack (s :: rest) = pathState st rest := by
  rw [pathState_cons stack s rest h]
  by_cases hd : isDoubleDot s = true
  · exact ⟨stack.dropLast, by rw [List.length_dropLast]; omega, if_pos hd⟩
  · have hsd : isSingleDot s = true := by
      simpa only [isDots, Bool.or_eq_true, hd, or_false, Bool.false_eq_true] using hs
    exact ⟨stack, Nat.le_refl _, by rw [if_neg hd, if_pos hsd]⟩

theorem pathState_of_plain (stack segments : List Str) (h : ∀ s ∈ segments, isDots s = false) :
    pathState stack segments = stack ++ segments := by
  induction segments generalizing stack with
  | nil => rw [List.append_nil]; rfl
  | cons s rest ih =>
      rw [pathState_cons_plain stack rest s (h s List.mem_cons_self),
        ih _ (fun t ht => h t (List.mem_cons_of_mem s ht)), List.append_assoc, List.singleton_append]

theorem pathState_length_le (stack segments : List Str) :
    (pathState stack segments).length ≤ stack.length + segments.length := by
  induction segments generalizing stack with
  | nil => exact Nat.le_refl _
  | cons s rest ih =>
      cases rest with
      -- The last segment decides whether the path ends with a slash.
      | nil =>
          simp only [pathState]
          split
          · simp only [List.length_append, List.length_dropLast, List.length_singleton]
            omega
          · split <;> simp only [List.length_append, List.length_singleton] <;> omega
      | cons t rest =>
          -- Dots take a segment off the stack or leave it, any other is added.
          by_cases hs : isDots s = true
          · rcases pathState_cons_dots stack (t :: rest) s hs (List.cons_ne_nil t rest) with
              ⟨st, hst, heq⟩
            have hle := ih st
            rw [heq]
            simp only [List.length_cons] at hle ⊢
            omega
          · rw [Bool.not_eq_true] at hs
            have hle := ih (stack ++ [s])
            rw [pathState_cons_plain _ _ _ hs]
            simp only [List.length_append, List.length_cons, List.length_nil] at hle ⊢
            omega

/-- A path that kept its length has no dots before its last segment. -/
theorem pathState_length (stack segments : List Str) (last : Str)
    (h : (pathState stack (segments ++ [last])).length
      = stack.length + (segments ++ [last]).length) :
    ∀ s ∈ segments, isDots s = false := by
  induction segments generalizing stack with
  | nil => exact fun s hs => absurd hs List.not_mem_nil
  | cons s rest ih =>
      have hne : rest ++ [last] ≠ [] :=
        List.append_ne_nil_of_right_ne_nil rest (List.cons_ne_nil last [])
      have hstep : isDots s = false := by
        by_contra hdots
        rw [Bool.not_eq_false] at hdots
        -- A popped or dropped segment is never made up for.
        rcases pathState_cons_dots stack (rest ++ [last]) s hdots hne with ⟨st, hst, heq⟩
        have hle := pathState_length_le st (rest ++ [last])
        rw [List.cons_append, heq, List.length_cons] at h
        omega
      intro u hu
      rcases List.mem_cons.mp hu with rfl | hu
      · exact hstep
      · rw [List.cons_append, pathState_cons_plain _ _ _ hstep] at h
        refine ih (stack ++ [s]) ?_ u hu
        rw [h]
        simp only [List.length_append, List.length_cons, List.length_nil]
        omega

/-- Dots in the last segment leave an empty segment. -/
theorem pathState_getLast (stack segments : List Str) (last : Str) (hl : isDots last = true) :
    (pathState stack (segments ++ [last])).getLast? = some [] := by
  induction segments generalizing stack with
  | nil =>
      simp only [List.nil_append, pathState]
      split
      · rw [List.getLast?_append, List.getLast?_singleton, Option.some_or]
      · rename_i hd
        have hsd : isSingleDot last = true := by
          simpa only [isDots, Bool.or_eq_true, hd, or_false, Bool.false_eq_true] using hl
        rw [if_pos hsd, List.getLast?_append, List.getLast?_singleton, Option.some_or]
  | cons s rest ih =>
      rw [List.cons_append, pathState_cons _ _ _
        (List.append_ne_nil_of_right_ne_nil rest (List.cons_ne_nil last []))]
      split_ifs
      · exact ih _
      · exact ih _
      · exact ih _

end Kahea
