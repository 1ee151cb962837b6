import Kahea.Ingest.AsyncApi
import Kahea.Base.Table
import Kahea.Base.Template
import Kahea.Core.Reference
import Kahea.Plan.Target

/-!
# AsyncAPI Addresses

How `compile_asyncapi_websocket` makes the URL of a session out of the templates
of a server and a channel, and when the values of channel parameters stay where
the template has them.

The names of a template are collected once, and then one placeholder after the
other is replaced in the whole text, in the order of the names. A value in which
the placeholder of a later name begins may be taken for it. The text is not
encoded either: the parser reads a delimiter in a value as its own, and removes
a segment that spells dots. A value is where the template has it when no later
placeholder begins in it, it has no delimiter and no line break, and no segment
of the filled address spells dots (`Settled`).

## Main definitions

* `AsyncApi.substituteVariables`, `joinAddress`, `compiledUrl`: The functions of
  the source.
* `filledText`: A template with all its values put in at once.
* `Unscanned`: No placeholder begins in what was put in before it.
* `AddressConfined`: The target has the segments of the base and the address.
* `Settled`: The condition.

## Theorems

* `substituteVariables_filled`: The text that is substituted.
* `confined_iff_dotless`: Only dots make a difference to settled values.
* `compiledUrl_confined`: Values that are settled stay in their segments.
-/

namespace Kahea

/-! ### Substitution -/

/-- The names between braces; `opened` is what has been read since an opening
    one. There is nothing when a brace stays open. -/
def scanNames : Option Str → Str → Option (List Str)
  | none, [] => some []
  | some _, [] => none
  | none, c :: cs => if c = '\x7b' then scanNames (some []) cs else scanNames none cs
  | some name, c :: cs =>
      if c = '\x7d' then (scanNames none cs).map (name :: ·) else scanNames (some (name ++ [c])) cs

/-- The names of a template, in the order of a sorted set. -/
def nameSet (names : List Str) : List Str :=
  (writeAll (names.map (fun name => (name, ()))) []).map Prod.fst

/-- A scalar as a text. -/
def scalar : Value → Option Str
  | .string text => some text
  | .number n => some n.text
  | .bool b => some (if b then "true" else "false")
  | _ => none

/-- The text a variable is replaced by: the value that is set, or its default. -/
def selectedText (definitions : Option (List (Str × Value))) (kind : Str)
    (values : List (Str × Value)) (name : Str) : Except IngestError Str := do
  let definition := definitions.bind (lookup name)
  let selected ← okOr
    (.invalidAsyncApi ("missing " ++ kind ++ " variable " ++ debugQuote name ++
      "; provide --set " ++ kind ++ '.' :: name ++ "=VALUE"))
    ((lookup (kind ++ '.' :: name) values).or (definition.bind (fun value =>
      (value.get "default").or ((value.get "schema").bind (·.get "default")))))
  let allowed := (definition.bind (fun value =>
    (value.get "enum").or ((value.get "schema").bind (·.get "enum")))).bind Value.asArray
  ensure (allowed.all (fun values => values.contains selected))
    (.invalidAsyncApi (kind ++ " variable " ++ debugQuote name ++ " is outside its declared enum"))
  okOr (.invalidAsyncApi (kind ++ " variable " ++ debugQuote name ++ " must be scalar"))
    (scalar selected)

def AsyncApi.substituteVariables (target : Str) (definitions : Option Value) (kind : Str)
    (values : List (Str × Value)) : Except IngestError Str := do
  let definitions := definitions.bind Value.asObject
  let names ← okOr (.invalidAsyncApi ("unterminated variable in " ++ debugQuote target))
    (scanNames none target)
  (nameSet names).foldlM (fun target name => do
    let selected ← selectedText definitions kind values name
    pure (replaceAll (placeholder name) selected target)) target

/-- The URL template of a server. -/
def serverTemplate (version : Str) (server : Value) : Str :=
  let text (name : Str) : Str := ((server.get name).bind Value.asStr).getD []
  if startsWith "2.6." version then text "url"
  else text "protocol" ++ "://" ++ text "host" ++ text "pathname"

/-- The protocol of a server, or the one its template begins with. -/
def serverProtocol (server : Value) (url : Str) : Str :=
  ((server.get "protocol").bind Value.asStr).getD
    (if startsWith "wss://" url then "wss" else if startsWith "ws://" url then "ws" else "")

/-- The address behind the URL, with one slash between them. -/
def joinAddress (url address : Str) : Str :=
  if address.isEmpty then url
  else
    let url := if !endsWith "/" url && !startsWith "/" address then url ++ "/" else url
    let url := if endsWith "/" url && startsWith "/" address then url.dropLast else url
    url ++ address

/-- The URL of `compile_asyncapi_websocket` for a server, a channel with its
    address, and the values that are set. -/
def compiledUrl (version serverName : Str) (server channel : Value) (address : Str)
    (values : List (Str × Value)) : Except IngestError Str := do
  let url := serverTemplate version server
  ensure (oneOf ["ws", "wss"] (serverProtocol server url))
    (.invalidAsyncApi ("server " ++ debugQuote serverName ++ " protocol must be ws or wss"))
  let url ← AsyncApi.substituteVariables url (server.get "variables") "server" values
  let address ← AsyncApi.substituteVariables address (channel.get "parameters") "channel" values
  pure (joinAddress url address)

/-! ### Values put in at once -/

/-- A template with all its values put in at once. -/
def filledText (texts : Str → Str) (template : Str) : Str :=
  (templatePieces template).flatMap (Piece.fillWith texts)

theorem scanNames_pieces {opened : Option Str} {s : Str} {names : List Str}
    (h : scanNames opened s = some names) :
    (∀ n, n ∈ names ↔ .hole n ∈ scanPieces opened s) ∧
      ∀ l, .literal l ∈ scanPieces opened s → '\x7b' ∉ l := by
  -- By the text, both scanners being in the same state.
  induction s generalizing opened names with
  | nil =>
      cases opened with
      | none =>
          cases h
          exact ⟨fun n => iff_of_false List.not_mem_nil List.not_mem_nil,
            fun l hl => absurd hl List.not_mem_nil⟩
      | some name => cases h
  | cons c cs ih =>
      cases opened with
      | none =>
          unfold scanNames at h
          unfold scanPieces
          by_cases hc : c = '\x7b'
          · rw [if_pos hc] at h ⊢
            exact ih h
          · rw [if_neg hc] at h ⊢
            rcases ih h with ⟨hnames, hliterals⟩
            refine ⟨fun n => ?_, fun l hl => ?_⟩
            · rw [hnames, List.mem_cons]
              exact ⟨Or.inr, fun hn => hn.resolve_left (fun heq => by cases heq)⟩
            · rcases List.mem_cons.mp hl with heq | hl
              · cases heq
                rw [List.mem_singleton]
                exact fun hbrace => hc hbrace.symm
              · exact hliterals l hl
      | some name =>
          unfold scanNames at h
          unfold scanPieces
          -- A name is closed, so a hole begins and the scan starts over.
          by_cases hc : c = '\x7d'
          · rw [if_pos hc] at h ⊢
            rcases Option.map_eq_some_iff.mp h with ⟨rest, hrest, rfl⟩
            rcases ih hrest with ⟨hnames, hliterals⟩
            refine ⟨fun n => ?_, fun l hl => ?_⟩
            · rw [List.mem_cons, List.mem_cons, hnames, Piece.hole.injEq]
            · rcases List.mem_cons.mp hl with heq | hl
              · cases heq
              · exact hliterals l hl
          · rw [if_neg hc] at h ⊢
            exact ih h

theorem mem_nameSet {names : List Str} {name : Str} : name ∈ nameSet names ↔ name ∈ names := by
  unfold nameSet
  constructor
  · intro h
    rcases List.mem_map.mp h with ⟨e, he, rfl⟩
    -- The set is a table whose names are distinct.
    have hordered : Ordered (writeAll (names.map (fun n => (n, ()))) []) :=
      ordered_writeAll List.Pairwise.nil
    have hnodup := hordered.nodup
    have hfound := (lookup_eq_some_iff_mem hnodup).mpr he
    rw [lookup_writeAll, lookup, Option.or_none] at hfound
    have hmem := List.mem_reverse.mp (lookup_mem hfound)
    rcases List.mem_map.mp hmem with ⟨n, hn, heq⟩
    cases heq
    exact hn
  -- A name of the list was written, so it is found.
  · intro h
    cases hfound : lookup name (writeAll (names.map (fun n => (n, ()))) []) with
    | some u => exact List.mem_map.mpr ⟨_, lookup_mem hfound, rfl⟩
    | none =>
        exfalso
        rw [lookup_writeAll, lookup, Option.or_none] at hfound
        have hmem : (name, ()) ∈ (names.map (fun n => (n, ()))).reverse :=
          List.mem_reverse.mpr (List.mem_map.mpr ⟨name, h, rfl⟩)
        have hsome := lookup_isSome_of_mem hmem
        rw [hfound] at hsome
        cases hsome

section

variable {definitions : Option (List (Str × Value))} {kind : Str} {values : List (Str × Value)}

/-- The text of a variable, if it has one. -/
def variableText (definitions : Option Value) (kind : Str) (values : List (Str × Value))
    (name : Str) : Str :=
  (selectedText (definitions.bind Value.asObject) kind values name).toOption.getD []

/-- A loop that succeeds has replaced every name by its text. -/
theorem substitute_foldlM {names : List Str} {target result : Str}
    (h : names.foldlM (fun target name => do
      let selected ← selectedText definitions kind values name
      pure (replaceAll (placeholder name) selected target)) target = .ok result) :
    result = names.foldl (fun target name => replaceAll (placeholder name)
        ((selectedText definitions kind values name).toOption.getD []) target) target ∧
      ∀ n ∈ names, ∃ text, selectedText definitions kind values n = .ok text := by
  -- By the names, in the order they are filled.
  induction names generalizing target with
  | nil =>
      cases h
      exact ⟨rfl, fun n hn => absurd hn List.not_mem_nil⟩
  | cons name rest ih =>
      rw [List.foldlM_cons, except_bind_ok] at h
      rcases h with ⟨next, hnext, hrest⟩
      rcases except_bind_ok.mp hnext with ⟨selected, hselected, hpure⟩
      cases hpure
      rcases ih hrest with ⟨hresult, hall⟩
      rw [List.foldl_cons, hselected]
      refine ⟨hresult, fun n hn => ?_⟩
      rcases List.mem_cons.mp hn with rfl | hn
      · exact ⟨selected, hselected⟩
      · exact hall n hn

/-- The names are replaced in the order of their set. The placeholder of a name
    begins neither in a later name nor in the text of an earlier one. -/
def Unscanned (definitions : Option Value) (kind : Str) (values : List (Str × Value))
    (template : Str) : Prop :=
  (nameSet ((scanNames none template).getD [])).Pairwise (fun n m =>
    shut n (m ++ ['\x7d']) = true ∧ shut m (variableText definitions kind values n) = true)

/-- A template is filled at once when no text is scanned for a later name. -/
theorem substituteVariables_filled {definitions : Option Value} {target result : Str}
    (hunscanned : Unscanned definitions kind values target)
    (h : AsyncApi.substituteVariables target definitions kind values = .ok result) :
    result = filledText (variableText definitions kind values) target ∧
      (∀ n, .hole n ∈ templatePieces target →
        ∃ text, selectedText (definitions.bind Value.asObject) kind values n = .ok text) ∧
      ∀ l, .literal l ∈ templatePieces target → '\x7b' ∉ l := by
  rcases except_bind_ok.mp h with ⟨names, hnames, hloop⟩
  rw [okOr_ok] at hnames
  rcases scanNames_pieces hnames with ⟨hholes, hliterals⟩
  unfold Unscanned at hunscanned
  rw [hnames, Option.getD_some] at hunscanned
  -- The names to fill are those of the holes.
  have hmem {n : Str} : n ∈ nameSet names ↔ .hole n ∈ templatePieces target :=
    mem_nameSet.trans (hholes n)
  refine ⟨?_, ?_, hliterals⟩
  -- A value that is not scanned again may be filled in any order.
  · rw [(substitute_foldlM hloop).1]
    have hfold := foldl_replaceAll (nameSet names) (variableText definitions kind values)
      (fun n hn => hole_scanPieces (fun name heq => by cases heq) (hmem.mp hn)) hunscanned
      (fun n hn => hmem.mpr hn) (fun l hl n _ => shut_of_not_mem (hliterals l hl))
    rw [templateText_pieces] at hfold
    exact hfold.trans (templateText_fill_all _ (fun n hn => hmem.mpr hn))
  · exact fun n hn => (substitute_foldlM hloop).2 n (hmem.mpr hn)

end

/-! ### Segments of an address -/

/-- The segments of an address; a slash at its front opens the first one. -/
def rawAddressSegments (address : Str) : List Str :=
  ((stripPrefix "/" address).getD address).splitOn '/'

/-- The segments of an address with all values put in at once. -/
def filledSegments (texts : Str → Str) (address : Str) : List Str :=
  (rawAddressSegments address).map (filledText texts)

/-- A text whose braces are closed is read on its own. -/
theorem scanPieces_append {opened : Option Str} {s : Str} (t : Str)
    (h : (scanNames opened s).isSome = true) :
    scanPieces opened (s ++ t) = scanPieces opened s ++ scanPieces none t := by
  -- By the first text; nothing is open where it ends.
  induction s generalizing opened with
  | nil =>
      cases opened with
      | none => rfl
      | some name => cases h
  | cons c cs ih =>
      cases opened with
      | none =>
          unfold scanNames at h
          rw [List.cons_append, scanPieces, scanPieces]
          by_cases hc : c = '\x7b'
          · rw [if_pos hc] at h ⊢
            rw [if_pos hc]
            exact ih h
          · rw [if_neg hc] at h ⊢
            rw [if_neg hc, ih h, List.cons_append]
      | some name =>
          unfold scanNames at h
          rw [List.cons_append, scanPieces, scanPieces]
          by_cases hc : c = '\x7d'
          · rw [if_pos hc] at h ⊢
            rw [Option.isSome_map] at h
            rw [if_pos hc, ih h, List.cons_append]
          · rw [if_neg hc] at h ⊢
            rw [if_neg hc]
            exact ih h

/-- Segments that close their braces are filled one by one. -/
theorem filledText_pathText (texts : Str → Str) {segments : List Str}
    (h : ∀ s ∈ segments, (scanNames none s).isSome = true) :
    filledText texts (pathText segments) = pathText (segments.map (filledText texts)) := by
  induction segments with
  | nil => rfl
  | cons s rest ih =>
      have htext : pathText (s :: rest) = '/' :: (s ++ pathText rest) := rfl
      have hslash : ('/' : Char) ≠ '\x7b' := by decide
      unfold filledText templatePieces at ih ⊢
      rw [htext, scanPieces, if_neg hslash, scanPieces_append _ (h s List.mem_cons_self),
        List.flatMap_cons, List.flatMap_append,
        ih (fun t ht => h t (List.mem_cons_of_mem s ht))]
      rfl

/-- A filled address, with a slash before it unless it has one. -/
theorem filledText_address (texts : Str → Str) {address : Str}
    (h : ∀ s ∈ rawAddressSegments address, (scanNames none s).isSome = true) :
    (if address.head? = some '/' then filledText texts address
      else '/' :: filledText texts address) = pathText (filledSegments texts address) := by
  have hfill := filledText_pathText texts h
  have hslash : ('/' : Char) ≠ '\x7b' := by decide
  unfold filledSegments
  rw [← hfill]
  unfold rawAddressSegments
  rw [pathText_splitOn]
  cases address with
  | nil =>
      rw [if_neg nofun]
      rfl
  | cons c cs =>
      -- With a leading slash the segments are those of the text.
      by_cases hc : c = '/'
      · subst hc
        have hhead : ('/' :: cs).head? = some '/' := rfl
        rw [if_pos hhead]
        rfl
      -- Without one the slash is added, and the first segment begins the address.
      · have hhead : (c :: cs).head? ≠ some '/' := by
          rw [List.head?_cons]
          exact fun heq => hc (Option.some.inj heq)
        have hstrip : stripPrefix "/" (c :: cs) = none := if_neg (fun heq => hc heq.symm)
        rw [if_neg hhead, hstrip, Option.getD_none]
        unfold filledText templatePieces
        rw [scanPieces.eq_def none ('/' :: c :: cs)]
        dsimp only
        rw [if_neg hslash, List.flatMap_cons]
        rfl

/-! ### Targets -/

/-- The URL an address is appended to, without the slash between them. -/
def serverBase (url : Str) : Str := if endsWith "/" url then url.dropLast else url

section

variable (lib : Crates) (version : Str) (server channel : Value) (address : Str)
  (values : List (Str × Value))

/-- The texts of the variables of a server. -/
def serverTexts : Str → Str := variableText (server.get "variables") "server" values

/-- The texts of the parameters of a channel. -/
def channelTexts : Str → Str := variableText (channel.get "parameters") "channel" values

/-- The URL of the server with its variables put in at once. -/
def filledServer : Str := filledText (serverTexts server values) (serverTemplate version server)

/-- The segments of the address with its parameters put in at once. -/
def filledAddress : List Str := filledSegments (channelTexts channel values) address

/-- The target has the host of the server, no query and no fragment, and behind
    the segments of the server a segment for every one of the address, which is
    the encoded text of it. Without an address it is the URL of the server. -/
def AddressConfined (encode : Str → Str) (target : Url) : Prop :=
  (address = [] → lib.parseUrl (filledServer version server values) = .ok target) ∧
    (address ≠ [] → ∃ base,
      lib.parseUrl (serverBase (filledServer version server values)) = .ok base ∧
        target.scheme = base.scheme ∧ target.host = base.host ∧ target.port = base.port ∧
        target.query = none ∧ target.fragment = none ∧
        target.segments = base.baseSegments ++ (filledAddress channel address values).map encode)

/-- The values begin no later placeholder and have no delimiters, and the
    templates are those of a path behind a URL. -/
structure Settled : Prop where
  serverTexts : Unscanned (server.get "variables") "server" values (serverTemplate version server)
  channelTexts : Unscanned (channel.get "parameters") "channel" values address
  /-- No placeholder goes across a slash. -/
  closed : ∀ s ∈ rawAddressSegments address, (scanNames none s).isSome = true
  /-- The server is a WebSocket URL without a query and a fragment. -/
  base : ∃ base, lib.parseUrl (serverBase (filledServer version server values)) = .ok base ∧
    (base.scheme = "ws" ∨ base.scheme = "wss") ∧ base.query = none ∧ base.fragment = none
  plainEnd : PlainEnd (serverBase (filledServer version server values))
  /-- No segment has a delimiter or a line break. -/
  delimiters : ∀ s ∈ filledAddress channel address values, s.all isSegmentChar = true
  /-- An address that begins with a placeholder does not begin with nothing. -/
  opening : address = [] ∨ address.head? = some '/' ∨
    (filledAddress channel address values).head? ≠ some []
  /-- The address does not end in white space. -/
  ending : ∀ c, (pathText (filledAddress channel address values)).getLast? = some c →
    0x20 < c.toNat

end

/-! ### Confined addresses -/

/-- No segment of the address spells dots. -/
def AddressDotless (channel : Value) (address : Str) (values : List (Str × Value)) : Prop :=
  ∀ s ∈ filledAddress channel address values, isDots s = false

theorem endsWith_slash {s : Str} (h : endsWith "/" s = true) : ∃ t, s = t ++ ['/'] := by
  unfold endsWith at h
  rw [List.isSuffixOf_iff_suffix] at h
  rcases h with ⟨t, ht⟩
  exact ⟨t, ht.symm⟩

/-- An address that does not begin with nothing is put behind the base. -/
theorem joinAddress_pathText {url address : Str} {segments : List Str}
    (haddress : (address.head? = some '/' ∧ address = pathText segments) ∨
      (address ≠ [] ∧ address.head? ≠ some '/' ∧ '/' :: address = pathText segments)) :
    joinAddress url address = serverBase url ++ pathText segments := by
  have hne : address.isEmpty = false := by
    rw [List.isEmpty_eq_false_iff]
    rintro rfl
    rcases haddress with ⟨hhead, _⟩ | ⟨hne, _, _⟩
    · cases hhead
    · exact hne rfl
  -- The code asks for the slash by a text, the statement by a character.
  have hstart : startsWith "/" address = true ↔ address.head? = some '/' := by
    cases address with
    | nil => cases hne
    | cons c cs =>
        rw [startsWith, List.isPrefixOf_iff_prefix, List.head?_cons, Option.some.injEq]
        constructor
        · rintro ⟨t, ht⟩
          exact (List.cons.inj ht).1.symm
        · rintro rfl
          exact ⟨cs, rfl⟩
  unfold joinAddress serverBase
  rw [hne, if_neg Bool.false_ne_true]
  dsimp only
  rcases haddress with ⟨hhead, htext⟩ | ⟨_, hhead, htext⟩
  · have hslash := hstart.mpr hhead
    rw [hslash, Bool.not_true, Bool.and_false, if_neg Bool.false_ne_true, Bool.and_true, ← htext]
  · have hslash : startsWith "/" address = false := by
      rw [Bool.eq_false_iff]
      exact fun h => hhead (hstart.mp h)
    rw [hslash, Bool.not_false, Bool.and_true, Bool.and_false, if_neg Bool.false_ne_true, ← htext]
    -- The server may end with a slash of its own, which is taken off.
    cases hend : endsWith "/" url with
    | true =>
        rcases endsWith_slash hend with ⟨t, rfl⟩
        rw [Bool.not_true, if_neg Bool.false_ne_true, if_pos rfl, List.dropLast_concat,
          List.append_assoc, List.singleton_append]
    | false =>
        rw [Bool.not_false, if_pos rfl, if_neg Bool.false_ne_true, List.append_assoc]
        rfl

section

variable {lib : Crates} {encode : Str → Str} {version serverName : Str} {server channel : Value}
  {address url : Str} {values : List (Str × Value)} {target : Url}

/-- The URL that is compiled has everything put in at once. -/
theorem compiledUrl_filled
    (hserver : Unscanned (server.get "variables") "server" values (serverTemplate version server))
    (hchannel : Unscanned (channel.get "parameters") "channel" values address)
    (h : compiledUrl version serverName server channel address values = .ok url) :
    url = joinAddress (filledServer version server values)
        (filledText (channelTexts channel values) address) ∧
      (∀ n, .hole n ∈ templatePieces (serverTemplate version server) → ∃ text, selectedText
        ((server.get "variables").bind Value.asObject) "server" values n = .ok text) ∧
      ∀ n, .hole n ∈ templatePieces address → ∃ text, selectedText
        ((channel.get "parameters").bind Value.asObject) "channel" values n = .ok text := by
  rcases except_bind_ok.mp h with ⟨_, _, h⟩
  rcases except_bind_ok.mp h with ⟨first, hfirst, h⟩
  rcases except_bind_ok.mp h with ⟨second, hsecond, h⟩
  rcases substituteVariables_filled hserver hfirst with ⟨rfl, hservers, _⟩
  rcases substituteVariables_filled hchannel hsecond with ⟨rfl, hchannels, _⟩
  cases h
  exact ⟨rfl, hservers, hchannels⟩

/-- An opening brace of a filled template is one of a text. -/
theorem brace_of_substituteVariables {definitions : Option Value} {kind template result : Str}
    (hunscanned : Unscanned definitions kind values template)
    (h : AsyncApi.substituteVariables template definitions kind values = .ok result)
    (hmem : '\x7b' ∈ result) : ∃ n, .hole n ∈ templatePieces template ∧
      '\x7b' ∈ variableText definitions kind values n := by
  rcases substituteVariables_filled hunscanned h with ⟨rfl, _, hliterals⟩
  rcases List.mem_flatMap.mp hmem with ⟨p, hp, hc⟩
  cases p with
  | literal l => exact absurd hc (hliterals l hp)
  | hole n => exact ⟨n, hp, hc⟩

theorem mem_joinAddress {base path : Str} {c : Char} (h : c ∈ joinAddress base path) :
    c ∈ base ∨ c = '/' ∨ c ∈ path := by
  unfold joinAddress at h
  dsimp only at h
  -- The branches of the join, by the slashes that are there.
  split_ifs at h with hempty hfirst hsecond hthird
  · exact Or.inl h
  · rcases List.mem_append.mp h with h | h
    · rcases List.mem_append.mp (List.mem_of_mem_dropLast h) with h | h
      · exact Or.inl h
      · exact Or.inr (Or.inl (List.mem_singleton.mp h))
    · exact Or.inr (Or.inr h)
  · rcases List.mem_append.mp h with h | h
    · rcases List.mem_append.mp h with h | h
      · exact Or.inl h
      · exact Or.inr (Or.inl (List.mem_singleton.mp h))
    · exact Or.inr (Or.inr h)
  · rcases List.mem_append.mp h with h | h
    · exact Or.inl (List.mem_of_mem_dropLast h)
    · exact Or.inr (Or.inr h)
  · rcases List.mem_append.mp h with h | h
    · exact Or.inl h
    · exact Or.inr (Or.inr h)

/-- No placeholder remains in the URL: its opening braces are those of values. -/
theorem brace_of_compiledUrl
    (hserver : Unscanned (server.get "variables") "server" values (serverTemplate version server))
    (hchannel : Unscanned (channel.get "parameters") "channel" values address)
    (h : compiledUrl version serverName server channel address values = .ok url)
    (hmem : '\x7b' ∈ url) :
    (∃ n, .hole n ∈ templatePieces (serverTemplate version server) ∧
        '\x7b' ∈ serverTexts server values n) ∨
      ∃ n, .hole n ∈ templatePieces address ∧ '\x7b' ∈ channelTexts channel values n := by
  rcases except_bind_ok.mp h with ⟨_, _, h⟩
  rcases except_bind_ok.mp h with ⟨first, hfirst, h⟩
  rcases except_bind_ok.mp h with ⟨second, hsecond, h⟩
  cases h
  rcases mem_joinAddress hmem with hmem | hslash | hmem
  · exact Or.inl (brace_of_substituteVariables hserver hfirst hmem)
  · exact absurd hslash (by decide)
  · exact Or.inr (brace_of_substituteVariables hchannel hsecond hmem)

/-- The URL is the base with the segments of the address behind it. -/
theorem joinAddress_settled (hsettled : Settled lib version server channel address values)
    (haddress : address ≠ []) :
    joinAddress (filledServer version server values)
        (filledText (channelTexts channel values) address) =
      serverBase (filledServer version server values) ++
        pathText (filledAddress channel address values) := by
  have htext := filledText_address (channelTexts channel values) hsettled.closed
  refine joinAddress_pathText ?_
  -- The address begins with a slash of its own.
  by_cases hhead : address.head? = some '/'
  · rw [if_pos hhead] at htext
    refine Or.inl ⟨?_, htext⟩
    rw [htext]
    cases hsegments : filledSegments (channelTexts channel values) address with
    | nil =>
        exact absurd (List.map_eq_nil_iff.mp hsegments) (List.splitOn_ne_nil '/' _)
    | cons s rest => rfl
  -- It does not, so its first segment must not become empty or begin with one.
  · rw [if_neg hhead] at htext
    have hopening := (hsettled.opening.resolve_left haddress).resolve_left hhead
    have hdelimiters := hsettled.delimiters
    unfold filledAddress at hopening hdelimiters ⊢
    cases hsegments : filledSegments (channelTexts channel values) address with
    | nil =>
        exact absurd (List.map_eq_nil_iff.mp hsegments) (List.splitOn_ne_nil '/' _)
    | cons s rest =>
        rw [hsegments] at htext hopening hdelimiters
        have hfilled : filledText (channelTexts channel values) address = s ++ pathText rest :=
          (List.cons.inj htext).2
        cases s with
        | nil => exact absurd rfl hopening
        | cons c cs =>
            have hc := List.all_eq_true.mp (hdelimiters _ List.mem_cons_self) c List.mem_cons_self
            refine Or.inr ⟨?_, ?_, htext⟩
            · rw [hfilled]
              exact List.cons_ne_nil _ _
            · rw [hfilled, List.cons_append, List.head?_cons, Ne, Option.some.injEq]
              rintro rfl
              exact absurd hc (by decide)

/-- What the target of a settled address is: the path state of its segments on
    top of the base. -/
theorem target_settled (hlaw : SocketPaths lib.parseUrl encode)
    (hsettled : Settled lib version server channel address values) (haddress : address ≠ [])
    (h : compiledUrl version serverName server channel address values = .ok url)
    (htarget : websocketTarget lib url = .ok target) :
    ∃ base, lib.parseUrl (serverBase (filledServer version server values)) = .ok base ∧
      target.scheme = base.scheme ∧ target.host = base.host ∧ target.port = base.port ∧
      target.query = none ∧ target.fragment = none ∧
      target.segments =
        pathState base.baseSegments ((filledAddress channel address values).map encode) := by
  rcases hsettled.base with ⟨base, hbase, hscheme, hquery, hfragment⟩
  rcases compiledUrl_filled hsettled.serverTexts hsettled.channelTexts h with ⟨hurl, _⟩
  rw [joinAddress_settled hsettled haddress] at hurl
  -- The target is the URL as the parser reads it.
  have hparse := (websocketTarget_ok lib _ _ htarget).1
  rw [hurl] at hparse
  have hne : filledAddress channel address values ≠ [] := by
    unfold filledAddress filledSegments
    rw [ne_eq, List.map_eq_nil_iff]
    exact List.splitOn_ne_nil '/' _
  rcases hlaw.appended _ _ base target hbase hscheme hquery hfragment hsettled.plainEnd hne
    hsettled.delimiters hsettled.ending hparse with
    ⟨hsegments, hscheme', hhost, hport, hquery', hfragment'⟩
  exact ⟨base, hbase, hscheme', hhost, hport, hquery', hfragment', hsegments⟩

/-- For settled values the address is confined exactly when no segment of it
    spells dots. -/
theorem confined_iff_dotless (hlaw : SocketPaths lib.parseUrl encode)
    (hsettled : Settled lib version server channel address values)
    (h : compiledUrl version serverName server channel address values = .ok url)
    (htarget : websocketTarget lib url = .ok target) :
    AddressConfined lib version server channel address values encode target ↔
      AddressDotless channel address values := by
  by_cases haddress : address = []
  · -- Without an address the URL is that of the server, and no segment is put in.
    rcases compiledUrl_filled hsettled.serverTexts hsettled.channelTexts h with ⟨hurl, _⟩
    subst haddress
    have hparse := (websocketTarget_ok lib _ _ htarget).1
    rw [hurl] at hparse
    refine iff_of_true ⟨fun _ => hparse, fun hne => absurd rfl hne⟩ (fun s hs => ?_)
    have hempty : s = [] := List.mem_singleton.mp hs
    rw [hempty]
    decide
  rcases target_settled hlaw hsettled haddress h htarget with
    ⟨base, hbase, hscheme, hhost, hport, hquery, hfragment, hsegments⟩
  have hne : filledAddress channel address values ≠ [] := by
    unfold filledAddress filledSegments
    rw [ne_eq, List.map_eq_nil_iff]
    exact List.splitOn_ne_nil '/' _
  constructor
  · intro hwhere
    rcases hwhere.2 haddress with ⟨base', hbase', _, _, _, _, _, hconfined⟩
    rw [hbase] at hbase'
    cases hbase'
    rw [hsegments] at hconfined
    rcases List.eq_nil_or_concat (filledAddress channel address values) with hnil | ⟨init, last, hsplit⟩
    · exact absurd hnil hne
    rw [List.concat_eq_append] at hsplit
    rw [hsplit, List.map_append, List.map_singleton] at hconfined
    -- The number of segments rules out dots before the last one.
    have hinit := pathState_length base.baseSegments (init.map encode) (encode last) (by
      rw [hconfined]
      simp only [List.length_append, List.length_map, List.length_singleton])
    -- Dots in the last one leave an empty segment, which spells none.
    have hlast : isDots last = false := by
      by_contra hdots
      rw [Bool.not_eq_false, ← hlaw.dots] at hdots
      have hget := pathState_getLast base.baseSegments (init.map encode) _ hdots
      rw [hconfined, ← List.append_assoc, List.getLast?_append, List.getLast?_singleton,
        Option.some_or, Option.some.injEq] at hget
      rw [hget] at hdots
      exact absurd hdots (by decide)
    intro s hs
    rw [hsplit] at hs
    rcases List.mem_append.mp hs with hs | hs
    · rw [← hlaw.dots]
      exact hinit _ (List.mem_map_of_mem hs)
    · rw [List.mem_singleton.mp hs]
      exact hlast
  · intro hdots
    refine ⟨fun hnil => absurd hnil haddress, fun _ =>
      ⟨base, hbase, hscheme, hhost, hport, hquery, hfragment, ?_⟩⟩
    rw [hsegments, pathState_of_plain]
    intro s hs
    rcases List.mem_map.mp hs with ⟨t, ht, rfl⟩
    rw [hlaw.dots]
    exact hdots t ht

end

/-- The compiled URL is the templates with every variable replaced at once by
    its text, without a placeholder left: an opening brace in it is one of a
    text. The parameters of the channel stay in their segments as long as none
    of these spells dots. -/
theorem compiledUrl_confined {lib : Crates} {encode : Str → Str}
    (hlaw : SocketPaths lib.parseUrl encode) {version serverName : Str} {server channel : Value}
    {address url : Str} {values : List (Str × Value)} {target : Url}
    (hsettled : Settled lib version server channel address values)
    (h : compiledUrl version serverName server channel address values = .ok url)
    (htarget : websocketTarget lib url = .ok target) :
    url = joinAddress (filledServer version server values)
        (filledText (channelTexts channel values) address) ∧
      (∀ n, .hole n ∈ templatePieces (serverTemplate version server) →
        selectedText ((server.get "variables").bind Value.asObject) "server" values n =
          .ok (serverTexts server values n)) ∧
      (∀ n, .hole n ∈ templatePieces address →
        selectedText ((channel.get "parameters").bind Value.asObject) "channel" values n =
          .ok (channelTexts channel values n)) ∧
      ('\x7b' ∈ url →
        (∃ n, .hole n ∈ templatePieces (serverTemplate version server) ∧
            '\x7b' ∈ serverTexts server values n) ∨
          ∃ n, .hole n ∈ templatePieces address ∧ '\x7b' ∈ channelTexts channel values n) ∧
      (AddressConfined lib version server channel address values encode target ↔
        AddressDotless channel address values) := by
  -- Both templates were filled, and the URL is put together from the two texts.
  rcases compiledUrl_filled hsettled.serverTexts hsettled.channelTexts h with
    ⟨hurl, hservers, hchannels⟩
  refine ⟨hurl, fun n hn => ?_, fun n hn => ?_,
    brace_of_compiledUrl hsettled.serverTexts hsettled.channelTexts h,
    confined_iff_dotless hlaw hsettled h htarget⟩
  -- Each hole of either template takes the text selected for its name.
  · rcases hservers n hn with ⟨text, htext⟩
    unfold serverTexts variableText
    rw [htext]
    rfl
  · rcases hchannels n hn with ⟨text, htext⟩
    unfold channelTexts variableText
    rw [htext]
    rfl

/-! ### A room, and a room that names another parameter -/

/-- A server for chats. -/
def chatServer : Value := .object [("url".toList, .string "wss://chat.example/".toList)]

/-- A channel whose parameters are declared without defaults. -/
def roomChannel : Value := .object []

/-- The values of the parameters of a channel. -/
def roomValues (room member : Str) : List (Str × Value) :=
  [("channel.member".toList, .string member), ("channel.room".toList, .string room)]

/-- The address of a member of a room. -/
def roomAddress : Str := "/rooms/\x7broom\x7d/\x7bmember\x7d"

theorem settled_room : Settled referenceCrates "2.6.0" chatServer roomChannel roomAddress
    (roomValues "blue" "ada") where
  serverTexts := by
    unfold Unscanned
    decide +kernel
  channelTexts := by
    unfold Unscanned
    decide +kernel
  closed := by decide +kernel
  base := by
    -- The server parses, without a query and a fragment.
    have hbase : (referenceCrates.parseUrl (serverBase (filledServer "2.6.0" chatServer
        (roomValues "blue" "ada")))).toOption.map (fun b => (b.scheme, b.query, b.fragment)) =
          some ("wss".toList, none, none) := by decide +kernel
    rcases exists_ok_of_toOption hbase with ⟨b, hb, heq⟩
    rcases Prod.mk.inj heq with ⟨hscheme, hrest⟩
    rcases Prod.mk.inj hrest with ⟨hquery, hfragment⟩
    exact ⟨b, hb, Or.inr hscheme, hquery, hfragment⟩
  plainEnd := by decide +kernel
  delimiters := by decide +kernel
  opening := Or.inr (Or.inl rfl)
  ending := by
    have hlast : (pathText (filledAddress roomChannel roomAddress
        (roomValues "blue" "ada"))).getLast? = some 'a' := by decide +kernel
    intro c hc
    rw [hlast] at hc
    cases hc
    decide

/-- A member of a room stays in its segment. -/
theorem compiledUrl_room : ∃ url target,
    compiledUrl "2.6.0" "chat" chatServer roomChannel roomAddress (roomValues "blue" "ada") =
      .ok url ∧ websocketTarget referenceCrates url = .ok target ∧
      AddressConfined referenceCrates "2.6.0" chatServer roomChannel roomAddress
        (roomValues "blue" "ada") id target := by
  have hcompile : compiledUrl "2.6.0" "chat" chatServer roomChannel roomAddress
      (roomValues "blue" "ada") = .ok "wss://chat.example/rooms/blue/ada" :=
    toOption_eq_some.mp (by decide +kernel)
  have htarget : (websocketTarget referenceCrates
      "wss://chat.example/rooms/blue/ada").toOption.map Url.path =
        some "/rooms/blue/ada".toList := by decide +kernel
  rcases exists_ok_of_toOption htarget with ⟨target, htarget, _⟩
  have hdotless : AddressDotless roomChannel roomAddress (roomValues "blue" "ada") := by
    unfold AddressDotless
    decide +kernel
  rcases compiledUrl_confined parseWebUrl_socketPaths settled_room hcompile
    htarget with ⟨_, _, _, _, hconfined⟩
  exact ⟨_, target, hcompile, htarget, hconfined.mpr hdotless⟩

/-- The value of a member is put in first, and a placeholder in it is taken for
    the one of the room. -/
theorem compiledUrl_rescanned : ¬ ∀ (version serverName : Str) (server channel : Value)
    (address url : Str) (values : List (Str × Value)) (target : Url),
    compiledUrl version serverName server channel address values = .ok url →
      websocketTarget referenceCrates url = .ok target →
        url = joinAddress (filledServer version server values)
          (filledText (channelTexts channel values) address) := by
  intro hall
  have hcompile : compiledUrl "2.6.0" "chat" chatServer roomChannel roomAddress
      (roomValues "blue" "\x7broom\x7d") = .ok "wss://chat.example/rooms/blue/blue" :=
    toOption_eq_some.mp (by decide +kernel)
  have htarget : (websocketTarget referenceCrates
      "wss://chat.example/rooms/blue/blue").toOption.map Url.path =
        some "/rooms/blue/blue".toList := by decide +kernel
  rcases exists_ok_of_toOption htarget with ⟨target, htarget, _⟩
  have hurl := hall _ _ _ _ _ _ _ _ hcompile htarget
  exact absurd hurl (by decide +kernel)

end Kahea
