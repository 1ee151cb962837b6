import Kahea.Base.Blake3
import Kahea.Base.JsonParser
import Kahea.Base.UrlParser
import Kahea.Core.World

/-!
# Reference Libraries

Concrete library functions and a concrete outside, for the statements about
fixed inputs. The functions are the strict parsers and the hash of the
libraries below; they behave as the libraries the program links on every input
they accept.

## Main definitions

* `referenceCrates`: The library functions.
* `referenceWorld`: An outside without files, names or peers.
-/

namespace Kahea

mutual

/-- A value as the configuration format keeps it: null members are left out. -/
def tomlValue : Value → Value
  | .array items => .array (tomlItems items)
  | .object members => .object (tomlMembers members)
  | v => v

def tomlItems : List Value → List Value
  | [] => []
  | v :: rest => tomlValue v :: tomlItems rest

def tomlMembers : List (Str × Value) → List (Str × Value)
  | [] => []
  | (_, .null) :: rest => tomlMembers rest
  | (k, v) :: rest => insert k (tomlValue v) (tomlMembers rest)

end

/-- A character of an HTTP token. -/
def isTokenChar (c : Char) : Bool := c.isAlphanum || "!#$%&'*+-.^_`|~".toList.contains c

/-- The bytes of a header value without control characters. -/
def headerBytes (s : Str) : Except Str (List UInt8) :=
  if (utf8 s).all (fun b => b == 9 || (32 ≤ b && b != 127)) then .ok (utf8 s)
  else .error "failed to parse header value"

/-- The order of integers. -/
def integerLt : Number → Number → Bool
  | .posInt m, .posInt n => m < n
  | .negInt m, .negInt n => n < m
  | .negInt _, .posInt _ => true
  | _, _ => false

/-- The nanoseconds of a whole number of seconds. -/
def wholeSeconds : Number → Nat
  | .posInt n => n * 1000000000
  | _ => 0

/-- The digests of the handshake of the nonce below. -/
def handshakeDigest (input : List UInt8) : List UInt8 :=
  if input = utf8 "dGhlIHNhbXBsZSBub25jZQ==258EAFA5-E914-47DA-95CA-C5AB0DC85B11" then
    [0xb3, 0x7a, 0x4f, 0x2c, 0xc0, 0x62, 0x4f, 0x16, 0x90, 0xf6, 0x46, 0x06, 0xcf, 0x38, 0x59, 0x45,
      0xb2, 0xbe, 0xc4, 0xea]
  else []

/-- The path and the headers of a client request. -/
def clientHeaders (key target : Str) : Option (Str × List (Str × Str)) :=
  match parseWebUrl target with
  | .error _ => none
  | .ok url => url.host.map (fun host =>
      (url.path, [("host".toList, host), ("connection".toList, "Upgrade".toList),
        ("upgrade".toList, "websocket".toList), ("sec-websocket-version".toList, "13".toList),
        ("sec-websocket-key".toList, key)]))

/-- The library functions. -/
def referenceCrates : Crates :=
  { parseUrl := parseWebUrl
    blake3 := blake3Hex
    parseJson := parseJsonBytes
    tomlRoundTrip := fun v => .ok (tomlValue v)
    base64Error := fun _ => "Invalid padding"
    headerName := fun s =>
      if s ≠ [] ∧ s.all isTokenChar then .ok (lower s) else .error "invalid HTTP header name"
    headerValue := headerBytes
    method := fun s => if s ≠ [] ∧ s.all isTokenChar then .ok s else .error "invalid HTTP method"
    clientIdentity := startsWith "-----BEGIN ".toList
    jsonPath := fun _ => .error "unsupported query"
    xpath := fun _ => none
    floatLt := integerLt
    latencyCheck := fun elapsed maximum => (parseUnsigned u64Bound maximum).map (fun n =>
      if n < elapsed / 1000000 then some (decimal (elapsed / 1000000) ++ ".000", decimal n) else none)
    milliseconds := fun elapsed => decimal (elapsed / 1000000) ++ ".0"
    seconds := wholeSeconds
    sha1 := handshakeDigest
    clientRequest := clientHeaders
    serverName := fun _ => true
    splitWords := fun text => .ok ((text.splitOnP isWhiteSpace).filter (fun word => !word.isEmpty))
    runtime := "linux-x86_64" }

/-- A hash is written in hexadecimal digits. -/
theorem exists_hexDigit {bytes : List UInt8} {c : Char} (h : c ∈ blake3Hex bytes) :
    ∃ n < 16, c = hexDigit n := by
  simp only [blake3Hex, List.mem_flatMap, List.mem_cons, List.not_mem_nil, or_false] at h
  rcases h with ⟨word, _, i, _, h | h⟩
  · exact ⟨_, by omega, h⟩
  · exact ⟨_, by omega, h⟩

theorem not_mem_blake3Hex (bytes : List UInt8) : '!' ∉ blake3Hex bytes := by
  have hdigit : ∀ n < 16, '!' ≠ hexDigit n := by decide
  intro h
  rcases exists_hexDigit h with ⟨n, hn, heq⟩
  exact hdigit n hn heq

theorem not_mem_digest (data : List UInt8) : '!' ∉ digest referenceCrates data := by
  rw [digest, List.mem_append]
  rintro (h | h)
  · exact absurd h (by decide)
  · exact not_mem_blake3Hex data h

theorem not_mem_shortHandle {kind : Str} (hkind : '!' ∉ kind) (parts : List (List UInt8)) :
    '!' ∉ shortHandle referenceCrates kind parts := by
  rw [shortHandle, List.mem_append, List.mem_cons]
  rintro (h | h | h)
  · exact hkind h
  · exact absurd h (by decide)
  · exact not_mem_blake3Hex _ (List.mem_of_mem_take h)

/-- An outside without files, names or peers, whose store accepts every
    record. -/
def referenceWorld : World :=
  { readFile := fun _ _ => .error "No such file or directory (os error 2)"
    resolve := fun _ _ _ => .error "failed to lookup address information"
    client := fun _ => .ok ()
    exchange := fun _ _ => .error .connect
    cancelled := fun _ => false
    websocketKey := fun _ => "dGhlIHNhbXBsZSBub25jZQ=="
    trustStore := fun _ _ => .ok ()
    tcp := fun _ _ => .refused false
    tls := fun _ _ => false
    upgrade := fun _ _ => .error .other
    session := fun _ => ⟨[], []⟩
    write := fun _ _ => .ok ()
    persist := fun _ => .ok ()
    elapsed := fun _ => 0
    stack := 64 }

end Kahea
