import Kahea.Base.Net
import Kahea.Plan.Inputs

/-!
# Servers and Targets

Server selection, the target URL of a plan, and the two questions the planner
asks about a target: does its host literal lie in a special-purpose address
range, and is it a configured production server.

The second question has two answers in the source. The HTTP planner compares
the text of the configured URL with the origin of the target
(`servesOrigin`), the WebSocket planner compares parsed URLs
(`configuredServerMatchesTarget`).

## Main definitions

* `selectServer`, `resolveServerVariables`: The server of an operation.
* `buildTarget`, `websocketTarget`: The target URL.
* `isUnsafeAddress`, `networkGrant`: Addresses that need a grant.
* `serverOrigin`, `servesOrigin`, `configuredServerMatchesTarget`: The two
  comparisons with a configured server.

## Theorems

* `buildTarget_ok`, `websocketTarget_ok`: What a built target has passed.
-/

namespace Kahea

/-! ### Servers -/

/-- One server variable, replaced by its default. -/
def resolveServerVariable (result : Str) (entry : Str × Value) : Except PlanError Str :=
  match entry.2.get "default" with
  | none => .error (.invalidServer
      ("server variable " ++ debugQuote entry.1 ++ " has no default"))
  | some default => do
      let wire ← scalarWire default
      pure (replaceAll ('\x7b' :: entry.1 ++ ['\x7d']) wire result)

def resolveServerVariables (template : Str) (defaults : Option (List (Str × Value))) :
    Except PlanError Str := do
  let result ← (defaults.getD []).foldlM resolveServerVariable template
  ensure (!(result.contains '\x7b')) (.invalidServer "unresolved server variable")
  pure result

/-- The servers declared for an operation. -/
def declaredServers (source : OpenApiSource) (operation : OperationDefinition) : List Value :=
  ((((lookup "servers" operation.operation).or (lookup "servers" operation.pathItem)).or
    (source.document.get "servers")).bind Value.asArray).getD []

/-- Whether a selector names a declared server by its URL or description. -/
def serverNamed (selector : Str) (server : Value) : Bool :=
  (server.get "url").bind Value.asStr = some selector ||
    (server.get "description").bind Value.asStr = some selector

/-- The declared server a selector means. -/
def declaredServer (servers : List Value) (selector : Option Str) : Except PlanError Value :=
  match servers, selector with
  | [], _ => .error .missingServer
  | servers, some selector => match servers.find? (serverNamed selector) with
    | some server => .ok server
    | none => .error (.unknownServer selector)
  | [server], none => .ok server
  | _, none => .error .ambiguousServer

/-- The URL of a declared server. -/
def serverUrl (server : Value) : Except PlanError Str :=
  match (server.get "url").bind Value.asStr with
  | some url => resolveServerVariables url ((server.get "variables").bind Value.asObject)
  | none => .error (.invalidServer "server URL is missing")

section

variable (lib : Crates)

/-- Whether a text parses as a URL. -/
def parsesAsUrl (text : Str) : Bool :=
  match lib.parseUrl text with
  | .ok _ => true
  | .error _ => false

/-- An absolute selector is the server; a configured name comes next, and the
    declared servers last. -/
def selectServer (source : OpenApiSource) (operation : OperationDefinition)
    (selector : Option Str) (configuration : ProjectConfiguration) : Except PlanError Str :=
  match selector.filter (parsesAsUrl lib) with
  | some selector => resolveServerVariables selector none
  | none => match selector.bind (fun s => lookup s configuration.servers) with
    | some configured => resolveServerVariables configured.url none
    | none => do
        let server ← declaredServer (declaredServers source operation) selector
        serverUrl server

/-! ### Targets -/

def buildTarget (server path : Str) : Except PlanError Url :=
  match lib.parseUrl (trimEndMatches '/' server ++ path) with
  | .error e => .error (.invalidServer e)
  | .ok url => do
      ensure (url.scheme = "http" || url.scheme = "https")
        (.unsafeTarget ("scheme " ++ url.scheme ++ " is denied"))
      ensure (url.username = [] && url.password.isNone)
        (.unsafeTarget "userinfo in URLs is denied")
      pure url

/-- A built target is what the parser made of server and path. -/
theorem buildTarget_ok (server path : Str) (url : Url) (h : buildTarget lib server path = .ok url) :
    lib.parseUrl (trimEndMatches '/' server ++ path) = .ok url ∧
      (url.scheme = "http" ∨ url.scheme = "https") ∧ url.username = [] ∧ url.password = none := by
  unfold buildTarget at h
  split at h
  · cases h
  · rename_i u hu
    simp only [except_bind_ok, ensure_ok, except_pure_ok, Bool.or_eq_true, Bool.and_eq_true,
      decide_eq_true_eq, Option.isNone_iff_eq_none, exists_const] at h
    rcases h with ⟨hs, hp, rfl⟩
    exact ⟨hu, hs, hp.1, hp.2⟩

def websocketTarget (value : Str) : Except PlanError Url := do
  ensure ((utf8 value).length ≤ 8192) (.invalidWebSocketSource "target URL exceeds 8192 bytes")
  match lib.parseUrl value with
  | .error e => .error (.invalidWebSocketSource ("invalid target URL: " ++ e))
  | .ok url => do
      ensure (url.scheme = "ws" || url.scheme = "wss")
        (.unsafeTarget ("scheme " ++ url.scheme ++ " is denied for WebSocket planning"))
      ensure (url.username = [] && url.password.isNone)
        (.unsafeTarget "userinfo in URLs is denied")
      ensure url.fragment.isNone (.unsafeTarget "fragments in WebSocket URLs are denied")
      ensure url.host.isSome (.invalidWebSocketSource "target URL has no host")
      pure url

/-- A WebSocket target is what the parser made of the source URL. -/
theorem websocketTarget_ok (value : Str) (url : Url) (h : websocketTarget lib value = .ok url) :
    lib.parseUrl value = .ok url ∧ (url.scheme = "ws" ∨ url.scheme = "wss") ∧
      url.username = [] ∧ url.password = none ∧ url.fragment = none := by
  unfold websocketTarget at h
  rw [except_bind_ok] at h
  rcases h with ⟨_, _, h⟩
  split at h
  · cases h
  · rename_i u hu
    simp only [except_bind_ok, ensure_ok, except_pure_ok, Bool.or_eq_true, Bool.and_eq_true,
      decide_eq_true_eq, Option.isNone_iff_eq_none, exists_const] at h
    rcases h with ⟨hs, hp, hf, _, rfl⟩
    exact ⟨hu, hs, hp.1, hp.2, hf⟩

/-! ### Origins -/

def serverOrigin (url : Url) : Str :=
  url.scheme ++ "://" ++ url.host.getD [] ++ (match url.port with
    | some port => ':' :: decimal port
    | none => [])

def originTransportScheme (scheme : Str) : Str :=
  if scheme = "wss" then "https" else if scheme = "ws" then "http" else scheme

def isProduction (server : ConfiguredServer) : Bool :=
  server.classification = some "production".toList

/-- The comparison of the HTTP planner: the configured URL, without trailing
    slashes, is the text of the target's origin. -/
def servesOrigin (server : ConfiguredServer) (target : Url) : Bool :=
  trimEndMatches '/' server.url = serverOrigin target

/-- Whether two URLs have the same transport, host and effective port. -/
def sameOrigin (configured target : Url) : Bool :=
  originTransportScheme configured.scheme = originTransportScheme target.scheme &&
    (match configured.host, target.host with
      | some left, some right => eqIgnoreCase left right
      | _, _ => false) &&
    configured.portOrKnownDefault = target.portOrKnownDefault

/-- The comparison of the WebSocket planner. -/
def configuredServerMatchesTarget (server : ConfiguredServer) (target : Url) : Bool :=
  isProduction server && (match lib.parseUrl server.url with
    | .ok configured => sameOrigin configured target
    | .error _ => false)

end

/-! ### Addresses -/

def isPrivate : IpAddr → Bool
  | .v4 address => address.isPrivate
  | .v6 address => address.isUniqueLocal

def isLinkLocal : IpAddr → Bool
  | .v4 address => address.isLinkLocal
  | .v6 address => address.isUnicastLinkLocal

def isUnsafeAddress (address : IpAddr) : Bool :=
  address.isLoopback || address.isUnspecified || address.isMulticast || isPrivate address ||
    isLinkLocal address

/-- The grant for one address. -/
def cidrGrant (address : IpAddr) : Str :=
  match address with
  | .v4 x => "net-cidr:" ++ x.text ++ "/32"
  | .v6 x => "net-cidr:" ++ x.text ++ "/128"

/-- The grant for a host and port. -/
def networkGrant (host : Str) (port : Nat) : Str := "net:" ++ host ++ ':' :: decimal port

/-- The grant a planner lists for a host text, when the text is an address it
    calls unsafe. -/
def literalGrants (host : Str) : List Str :=
  match parseIpAddr host with
  | some address => if isUnsafeAddress address then [cidrGrant address] else []
  | none => []

end Kahea
