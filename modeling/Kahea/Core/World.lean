import Kahea.Base.Effect
import Kahea.Base.Net
import Kahea.Core.Domain

/-!
# Events and the World

What the program does to the outside and what the outside answers.

`Event` lists the effects: reading a file, resolving a name, opening a
connection, sending a request over it and writing an evidence record. `World`
answers them, each answer a function of the events so far and of the question,
so the files, the name server and the remote side may change at any time and
may depend on everything they have seen. What a session sends is determined by
its plan and by what it has read, so a session is answered by one script, and
a peer that reacts to what it is sent is one of the scripts.

A request that is sent also records the profiles whose secret or client
identity it carries. That list is for the statements only; nothing reads it.

## Main definitions

* `HeaderMap`: HTTP headers, with the mark of a sensitive value.
* `HttpRequest`, `HttpResponse`: The two halves of an exchange.
* `Message`, `Arrival`, `SessionScript`: What the socket of a session meets.
* `Record`: An evidence record.
* `Event`, `World`: The effects and their answers.
* `readFile`, `putBlob`, `putJson`: The primitive effects.
-/

namespace Kahea

/-- One header of a request or response; names are in lower case. -/
structure Header where
  name : Str
  value : List UInt8
  sensitive : Bool
  deriving DecidableEq, Repr

abbrev HeaderMap := List Header

namespace HeaderMap

/-- The first value of a name. -/
def get (m : HeaderMap) (name : Str) : Option (List UInt8) :=
  (m.find? (·.name = lower name)).map Header.value

/-- Every value of a name, in order. -/
def getAll (m : HeaderMap) (name : Str) : List (List UInt8) :=
  (m.filter (·.name = lower name)).map Header.value

/-- Replace every value of a name. -/
def insert (m : HeaderMap) (h : Header) : HeaderMap := m.filter (·.name ≠ h.name) ++ [h]

theorem mem_insert (m : HeaderMap) (h x : Header) :
    x ∈ m.insert h ↔ (x ∈ m ∧ x.name ≠ h.name) ∨ x = h := by
  simp only [insert, List.mem_append, List.mem_filter, decide_eq_true_eq, List.mem_singleton]

end HeaderMap

/-- A header value as text; values outside printable ASCII have none. -/
def headerText (value : List UInt8) : Option Str :=
  if value.all (fun b => b == 9 || (32 ≤ b && b ≤ 126)) then
    some (value.map (fun b => Char.ofNat b.toNat))
  else none

/-- A request as it leaves the process. -/
structure HttpRequest where
  method : Str
  url : Url
  headers : HeaderMap
  body : List UInt8
  /-- The PEM text of the client identity of the connection. -/
  identity : Option Str
  /-- The profiles whose credential the request carries. -/
  credentials : List Str
  deriving DecidableEq, Repr

inductive HttpVersion where
  | http09
  | http10
  | http11
  | http2
  | http3
  deriving DecidableEq, Repr

/-- The debug format of a version. -/
def HttpVersion.text : HttpVersion → Str
  | http09 => "HTTP/0.9"
  | http10 => "HTTP/1.0"
  | http11 => "HTTP/1.1"
  | http2 => "HTTP/2.0"
  | http3 => "HTTP/3.0"

/-- A response; the body is an error when reading it fails. -/
structure HttpResponse where
  status : Nat
  version : HttpVersion
  headers : HeaderMap
  body : Except Str (List UInt8)

/-! ### Sessions -/

/-- A message of a WebSocket session. A close may come without code and
    reason, and `frame` is a raw frame. -/
inductive Message where
  | text (text : Str)
  | binary (data : List UInt8)
  | ping (data : List UInt8)
  | pong (data : List UInt8)
  | close (frame : Option (Nat × Str))
  | frame (payload : List UInt8)
  deriving DecidableEq, Repr

/-- The deadline that expired. -/
inductive Deadline where
  | total
  | phase
  | idle
  deriving DecidableEq, Repr

/-- How the stream under a socket fails, or a socket that is closed. An
    interruption comes from a cancellation if one was requested. -/
inductive StreamError where
  | interrupted (requested : Bool)
  | timedOut (deadline : Deadline)
  | endOfFile
  | connectionClosed
  | alreadyClosed
  | protocol
  | other
  deriving DecidableEq, Repr

/-- How a socket operation fails. `capacity` is the socket's own refusal of a
    message or a frame beyond its configured size. -/
inductive SocketError where
  | capacity
  | stream (error : StreamError)
  deriving DecidableEq, Repr

/-- What one read of a socket brings: the pieces it takes from the stream, and
    the message or the error it ends with. -/
structure Arrival where
  pieces : List (List UInt8)
  result : Except SocketError Message

/-- What a socket meets during a session: the reads in order, until the total
    deadline, and how its writes and flushes fail, if they do; those beyond the
    list succeed. -/
structure SessionScript where
  arrivals : List Arrival
  sends : List (Option StreamError)

/-- The answer to an attempt to connect to one address. An attempt that is
    refused may end after the deadline. -/
inductive ConnectOutcome where
  | connected
  | deadlinePassed
  | timedOut
  | refused (late : Bool)
  | unusable
  deriving DecidableEq, Repr

/-- How the exchange of a handshake fails before a response is parsed. -/
inductive UpgradeError where
  | interrupted
  | timedOut
  | invalidData
  | endOfFile
  | malformed
  | other
  deriving DecidableEq, Repr

/-- The response of a handshake, and the bytes of the session that came with
    it. -/
structure HandshakeResponse where
  status : Nat
  version : HttpVersion
  headers : HeaderMap
  buffered : List UInt8

/-! ### Effects and answers -/

/-- What an evidence record holds. -/
inductive Content where
  | bytes (data : List UInt8)
  | json (value : Value)
  deriving DecidableEq, Repr

/-- The stored bytes. -/
def Content.data : Content → List UInt8
  | bytes data => data
  | json value => utf8 value.render

/-- An evidence record. -/
structure Record where
  kind : Str
  mediaType : Str
  content : Content
  redacted : Bool
  deriving DecidableEq, Repr

/-- An effect on the outside. -/
inductive Event where
  | readFile (path : Str)
  | resolve (host : Str) (port : Nat)
  | connect (scheme host : Str) (port : Nat) (addresses : List SocketAddr)
  | send (request : HttpRequest)
  | store (record : Record)
  deriving DecidableEq, Repr

/-- How a transport fails. -/
inductive TransportFailure where
  | timeout
  | connect
  | other
  deriving DecidableEq, Repr

/-- The answers of the outside. -/
structure World where
  /-- The content of a file. -/
  readFile : List Event → Str → Except Str (List UInt8)
  /-- The addresses of a host and port. -/
  resolve : List Event → Str → Nat → Except Str (List SocketAddr)
  /-- Whether an HTTP client could be built. -/
  client : List Event → Except TransportFailure Unit
  /-- The response to a request. -/
  exchange : List Event → HttpRequest → Except TransportFailure HttpResponse
  /-- Whether a session has been cancelled. -/
  cancelled : List Event → Bool
  /-- The nonce of a handshake. -/
  websocketKey : List Event → Str
  /-- Whether the trust store could be loaded, with additional bundles. -/
  trustStore : List Event → List (List UInt8) → Except Str Unit
  /-- Whether an address accepts a connection. -/
  tcp : List Event → SocketAddr → ConnectOutcome
  /-- Whether a secured connection to a server name could be set up. -/
  tls : List Event → Str → Bool
  /-- The response to a handshake. -/
  upgrade : List Event → HttpRequest → Except UpgradeError HandshakeResponse
  /-- What the socket of a session meets. -/
  session : List Event → SessionScript
  /-- Whether an evidence record could be written. -/
  write : List Event → Record → Except Str Unit
  /-- Whether the file of an observation could be written. -/
  persist : List Event → Except Str Unit
  /-- The nanoseconds an exchange took. -/
  elapsed : List Event → Nat
  /-- The calls the stack has room for. -/
  stack : Nat

section Primitives

variable {ε : Type} (world : World)

/-- Read a file. -/
def readFile (path : Str) : Eff Event ε (Except Str (List UInt8)) := do
  let past ← Eff.past
  Eff.emit (.readFile path)
  pure (world.readFile past path)

/-- Resolve a host. -/
def resolveHost (host : Str) (port : Nat) : Eff Event ε (Except Str (List SocketAddr)) := do
  let past ← Eff.past
  Eff.emit (.resolve host port)
  pure (world.resolve past host port)

/-- What a continuation is handed after a resolution. -/
theorem resolveHost_bind {α : Type} {host : Str} {port : Nat}
    {f : Except Str (List SocketAddr) → Eff Event ε α} {past : List Event} :
    (resolveHost world host port >>= f) past =
      ((f (world.resolve past host port) (past ++ [.resolve host port])).1,
        .resolve host port :: (f (world.resolve past host port) (past ++ [.resolve host port])).2) := by
  change Eff.bind (resolveHost world host port) f past = _
  have h : resolveHost (ε := ε) world host port past =
      (.ok (world.resolve past host port), [.resolve host port]) := rfl
  unfold Eff.bind
  rw [h]
  rfl

theorem resolveHost_ensures {host : Str} {port : Nat} {P : Event → Prop}
    (h : P (.resolve host port)) :
    Ensures (resolveHost (ε := ε) world host port) (fun _ => True) P :=
  .bind .past (fun _ _ => .bind (.emit h) (fun _ _ => .pure trivial))

/-- Connect to the addresses of a host and send a request. -/
def exchange (host : Str) (port : Nat) (addresses : List SocketAddr) (request : HttpRequest) :
    Eff Event ε (Except TransportFailure HttpResponse) := do
  Eff.emit (.connect request.url.scheme host port addresses)
  Eff.emit (.send request)
  let past ← Eff.past
  pure (world.exchange past request)

/-- Write an evidence record and return its handle. -/
def put (lib : Crates) (record : Record) : Eff Event Str Str := do
  let past ← Eff.past
  Eff.ofExcept (world.write past record)
  Eff.emit (.store record)
  pure (shortHandle lib record.kind [record.content.data])

/-- The method `put_blob`. -/
def putBlob (lib : Crates) (kind mediaType : Str) (data : List UInt8) (redacted : Bool) :
    Eff Event Str Str :=
  put world lib ⟨kind, mediaType, .bytes data, redacted⟩

/-- The method `put_json`. -/
def putJson (lib : Crates) (kind : Str) (value : Value) (redacted : Bool) : Eff Event Str Str :=
  put world lib ⟨kind, "application/json", .json value, redacted⟩

/-- The method `persist_json_observation`: the record, and a file of its own. -/
def persistJsonObservation (lib : Crates) (kind : Str) (value : Value) : Eff Event Str Str := do
  let handle ← putJson world lib kind value true
  let past ← Eff.past
  Eff.ofExcept (world.persist past)
  pure handle

theorem put_ensures {lib : Crates} {record : Record} {P : Event → Prop} (h : P (.store record)) :
    Ensures (put world lib record)
      (fun handle => handle = shortHandle lib record.kind [record.content.data]) P :=
  .bind .past (fun _ _ => .bind (.ofExcept fun _ _ => trivial) (fun _ _ =>
    .bind (.emit h) (fun _ _ => .pure rfl)))

/-- A record the store accepts. -/
theorem put_of_write {lib : Crates} {record : Record} {past : List Event}
    (h : world.write past record = .ok ()) :
    put world lib record past =
      (.ok (shortHandle lib record.kind [record.content.data]), [.store record]) := by
  unfold put
  rw [Eff.past_bind, Eff.ofExcept_bind, h]
  rfl

theorem persistJsonObservation_ensures {lib : Crates} {kind : Str} {value : Value}
    {P : Event → Prop} (h : P (.store ⟨kind, "application/json", .json value, true⟩)) :
    Ensures (persistJsonObservation world lib kind value) (fun _ => True) P :=
  .bind ((put_ensures world h).mono (fun _ _ => trivial) (fun _ he => he)) (fun _ _ =>
    .bind .past (fun _ _ => .bind (.ofExcept fun _ _ => trivial) (fun _ _ => .pure trivial)))

/-- An exchange connects, sends and is answered. -/
theorem exchange_ensures {host : Str} {port : Nat} {addresses : List SocketAddr}
    {request : HttpRequest} {Q : Except TransportFailure HttpResponse → Prop} {P : Event → Prop}
    (hconnect : P (.connect request.url.scheme host port addresses)) (hsend : P (.send request))
    (hanswer : ∀ past, Q (world.exchange past request)) :
    Ensures (exchange (ε := ε) world host port addresses request) Q P :=
  .bind (.emit hconnect) (fun _ _ => .bind (.emit hsend) (fun _ _ => by
    refine .bind .past (fun past _ => .pure (hanswer past))))

end Primitives

end Kahea
