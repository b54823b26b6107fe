import Vastora.Landing.Grants
import Vastora.Library.Guard
import Vastora.Library.JsonInt
import Vastora.Library.SortSlice

/-!
# Model — the desired state of a gateway and its hash

A desired state has listeners, routes and, where the node shares its HTTPS port, routes by server name.
`validate` accepts it, `sorted` brings its collections into one order, and `configurationHash` is the
digest of the text of the sorted state and the sorted certificates.
-/

namespace Vastora
namespace Gateway

open Library Library.Guard Library.Pattern

/-! ## States -/

structure Upstream where
  address : String
  port : Int
deriving DecidableEq

structure Listener where
  kind : String
  address : String
  httpPort : Int
  httpsPort : Int
deriving DecidableEq

structure Route where
  id : String
  hostname : String
  path : String
  protocol : String
  upstreams : List Upstream
  tlsEnabled : Bool
  listenerKind : String
  system : Bool
deriving DecidableEq

structure Certificate where
  hostname : String
  certificatePEM : String
  privateKeyPEM : String
deriving DecidableEq

structure Layer4Route where
  id : String
  hostname : String
  applicationNodeID : String
  managedReality : Bool
  proxyProtocol : String
  upstreams : List Upstream
deriving DecidableEq

structure SharedHTTPS where
  address : String
  port : Int
  caddyAddress : String
  caddyPort : Int
  rejectUnmatched : Bool
  routes : List Layer4Route
deriving DecidableEq

structure DesiredState where
  revision : Int
  listeners : List Listener
  routes : List Route
  sharedHTTPS : Option SharedHTTPS
deriving DecidableEq

structure NodeListenerState where
  revision : Int
  nodeID : String
  listener : SharedHTTPS
deriving DecidableEq

/-! ## Validation -/

def isLowerAlnum (c : Char) : Bool := ('a' ≤ c && c ≤ 'z') || ('0' ≤ c && c ≤ '9')

/-- `[a-z0-9](?:[a-z0-9-]{0,61}[a-z0-9])?` -/
def validLabel (cs : List Char) : Bool :=
  cs.length ≤ 63 && cs.all (fun c => isLowerAlnum c || c == '-') && cs.head?.any isLowerAlnum &&
    cs.getLast?.any isLowerAlnum

/-- `hostnamePattern`: at least two labels. -/
def hostnamePattern (s : String) : Bool :=
  2 ≤ (s.toList.splitOn '.').length && (s.toList.splitOn '.').all validLabel

def containerHostnamePattern (s : String) : Bool := (s.toList.splitOn '.').all validLabel

/-- `unicode.ToLower`, as far as its results are ASCII characters. -/
def toLower (c : Char) : Char :=
  if c = 'K' then 'k' else if c = 'İ' then 'i' else c.toLower

section Validation

variable (quote : String → String) (parseIP : String → Option Bool)

/-- `net.ParseIP(value).To4() != nil`; `parseIP` tells whether an address is an IPv4 one. -/
def isIPv4 (value : String) : Bool := parseIP value == some true

def validPort (port : Int) : Bool := 1 ≤ port && port ≤ 65535

def validUpstreamAddress (value : String) : Bool :=
  let value := String.ofList ((trimSpace value).toList.map toLower)
  match parseIP value with
  | some v4 => v4
  | none => containerHostnamePattern value

def Upstream.valid (u : Upstream) : Bool := validUpstreamAddress parseIP u.address && validPort u.port

def Listener.knownKind (l : Listener) : Bool :=
  l.kind == "lan" || l.kind == "headscale" || l.kind == "public" || l.kind == "system"

def Listener.valid (l : Listener) : Bool :=
  isIPv4 parseIP l.address && validPort l.httpPort && validPort l.httpsPort

def checkListeners (seen : List String) : List Listener → Except String Unit
  | [] => .ok ()
  | l :: rest => do
      require l.knownKind ("gateway: unsupported listener kind " ++ quote l.kind)
      require (!seen.contains l.kind) ("gateway: duplicate listener kind " ++ quote l.kind)
      require (l.valid parseIP) ("gateway: invalid " ++ l.kind ++ " listener")
      checkListeners (l.kind :: seen) rest

/-- An exact path. -/
def validPath (path : String) : Bool :=
  path == "" || (hasPrefix path "/" && !path.toList.any (fun c => c == '?' || c == '#') &&
    path.utf8ByteSize ≤ 2048)

def Route.matchKey (r : Route) : String := r.listenerKind ++ "\x00" ++ r.hostname ++ "\x00" ++ r.path

def checkRoutes (kinds seenIDs seenMatches : List String) : List Route → Except String Unit
  | [] => .ok ()
  | r :: rest => do
      require (trimSpace r.id != "") "gateway: route id is required"
      require (!seenIDs.contains r.id) ("gateway: duplicate route id " ++ quote r.id)
      require (hostnamePattern r.hostname) ("gateway: invalid hostname " ++ quote r.hostname)
      require (validPath r.path) ("gateway: route " ++ quote r.id ++ " has an invalid exact path")
      require (!seenMatches.contains r.matchKey)
        ("gateway: duplicate hostname and path " ++ quote (r.hostname ++ r.path))
      require (kinds.contains r.listenerKind)
        ("gateway: route " ++ quote r.id ++ " references an unavailable listener")
      require (r.protocol == "http" || r.protocol == "https")
        ("gateway: unsupported protocol " ++ quote r.protocol)
      require (!r.upstreams.isEmpty) ("gateway: route " ++ quote r.id ++ " requires an upstream")
      require (r.upstreams.all (Upstream.valid parseIP))
        ("gateway: route " ++ quote r.id ++ " has an invalid upstream")
      checkRoutes kinds (r.id :: seenIDs) (r.matchKey :: seenMatches) rest

def checkLayer4 (webHosts seen : List String) : List Layer4Route → Except String Unit
  | [] => .ok ()
  | r :: rest => do
      require (trimSpace r.id != "" && hostnamePattern r.hostname && !r.upstreams.isEmpty)
        "gateway: invalid shared HTTPS route"
      require (r.proxyProtocol == "" || r.proxyProtocol == "v2")
        ("gateway: shared HTTPS route " ++ quote r.id ++ " has an invalid Proxy Protocol mode")
      require (!seen.contains r.hostname && !webHosts.contains r.hostname)
        ("gateway: duplicate shared HTTPS hostname " ++ quote r.hostname)
      require (r.upstreams.all (Upstream.valid parseIP))
        ("gateway: shared HTTPS route " ++ quote r.id ++ " has an invalid upstream")
      checkLayer4 webHosts (r.hostname :: seen) rest

/-- The hostnames that the gateway itself serves on the public listener with TLS. -/
def DesiredState.webHosts (state : DesiredState) : List String :=
  (state.routes.filter fun r => r.listenerKind == "public" && r.tlsEnabled).map Route.hostname

def SharedHTTPS.check (shared : SharedHTTPS) (state : DesiredState) : Except String Unit := do
  require (isIPv4 parseIP shared.address && validPort shared.port)
    "gateway: invalid shared HTTPS frontend"
  require (shared.rejectUnmatched ||
    (validUpstreamAddress parseIP shared.caddyAddress && validPort shared.caddyPort))
    "gateway: shared HTTPS frontend requires a Caddy backend"
  require (shared.rejectUnmatched ||
    !(shared.address == shared.caddyAddress && shared.port == shared.caddyPort))
    "gateway: shared HTTPS frontend and Caddy backend must use different sockets"
  require ((state.listeners.find? (·.kind == "public")).any fun l =>
    l.address == shared.address && l.httpsPort == shared.port)
    "gateway: shared HTTPS frontend requires the matching public listener"
  checkLayer4 quote parseIP state.webHosts [] shared.routes

def DesiredState.validate (state : DesiredState) : Except String Unit := do
  require (1 ≤ state.revision) "gateway: revision must be positive"
  checkListeners quote parseIP [] state.listeners
  checkRoutes quote parseIP (state.listeners.map Listener.kind) [] [] state.routes
  match state.sharedHTTPS with
  | none => return ()
  | some shared => shared.check quote parseIP state

/-- The gateway state that a listener of an application node is judged and sorted as. -/
def NodeListenerState.probe (state : NodeListenerState) : DesiredState :=
  ⟨state.revision, [⟨"public", state.listener.address, 80, state.listener.port⟩], [],
    some state.listener⟩

def NodeListenerState.validate (state : NodeListenerState) : Except String Unit := do
  require (1 ≤ state.revision) "node listener: revision must be positive"
  require (trimSpace state.nodeID != "") "node listener: accepting node is required"
  require (state.listener.routes.all (·.applicationNodeID == state.nodeID))
    "node listener: every upstream must belong to the accepting application node"
  state.probe.validate quote parseIP

end Validation

/-! ## Order -/

def Upstream.less (a b : Upstream) : Bool :=
  if a.address == b.address then a.port < b.port else a.address < b.address

def Listener.less (a b : Listener) : Bool := a.kind < b.kind

def Layer4Route.less (a b : Layer4Route) : Bool := a.id < b.id

/-- Routes with a path come before the one without. -/
def Route.less (a b : Route) : Bool :=
  if a.listenerKind != b.listenerKind then a.listenerKind < b.listenerKind
  else if a.hostname != b.hostname then a.hostname < b.hostname
  else if (a.path != "") != (b.path != "") then a.path != ""
  else if a.path != b.path then a.path < b.path
  else a.id < b.id

def Certificate.less (a b : Certificate) : Bool :=
  if a.hostname != b.hostname then a.hostname < b.hostname
  else if a.certificatePEM != b.certificatePEM then a.certificatePEM < b.certificatePEM
  else a.privateKeyPEM < b.privateKeyPEM

section Order

variable (sorter : Sorter)

def Route.sortUpstreams (r : Route) : Route :=
  { r with upstreams := sorter.sort Upstream.less r.upstreams }

def Layer4Route.sortUpstreams (r : Layer4Route) : Layer4Route :=
  { r with upstreams := sorter.sort Upstream.less r.upstreams }

def SharedHTTPS.sorted (shared : SharedHTTPS) : SharedHTTPS :=
  { shared with
    routes := sorter.sort Layer4Route.less (shared.routes.map (Layer4Route.sortUpstreams sorter)) }

def DesiredState.sorted (state : DesiredState) : DesiredState where
  revision := state.revision
  listeners := sorter.sort Listener.less state.listeners
  routes := sorter.sort Route.less (state.routes.map (Route.sortUpstreams sorter))
  sharedHTTPS := state.sharedHTTPS.map (SharedHTTPS.sorted sorter)

/-- Sorting the probe keeps its shared listener. -/
def NodeListenerState.sorted (state : NodeListenerState) : NodeListenerState :=
  { state with listener := (state.probe.sorted sorter).sharedHTTPS.getD state.listener }

end Order

/-! ## Text -/

/-- A copied slice, which is nil when it is empty. -/
def jsonSlice {α : Type} (f : α → Json) (items : List α) : Json :=
  if items.isEmpty then .null else .array (items.map f)

/-- A member that is left out when it has the zero value. -/
def omitEmpty (key : String) (value : String) : List (String × Json) :=
  if value = "" then [] else [(key, .string value)]

def omitFalse (key : String) (value : Bool) : List (String × Json) :=
  if value then [(key, .bool true)] else []

def Upstream.json (u : Upstream) : Json := .object [("address", .string u.address), ("port", .int u.port)]

def Listener.json (l : Listener) : Json :=
  .object [("kind", .string l.kind), ("address", .string l.address), ("httpPort", .int l.httpPort),
    ("httpsPort", .int l.httpsPort)]

def Route.json (r : Route) : Json :=
  .object ([("id", .string r.id), ("hostname", .string r.hostname)] ++ omitEmpty "path" r.path ++
    [("protocol", .string r.protocol), ("upstreams", jsonSlice Upstream.json r.upstreams),
      ("tlsEnabled", .bool r.tlsEnabled), ("listenerKind", .string r.listenerKind)] ++
    omitFalse "system" r.system)

def Certificate.json (c : Certificate) : Json :=
  .object [("hostname", .string c.hostname), ("certificatePem", .string c.certificatePEM),
    ("privateKeyPem", .string c.privateKeyPEM)]

def Layer4Route.json (r : Layer4Route) : Json :=
  .object ([("id", .string r.id), ("hostname", .string r.hostname)] ++
    omitEmpty "applicationNodeId" r.applicationNodeID ++ omitFalse "managedReality" r.managedReality ++
    omitEmpty "proxyProtocol" r.proxyProtocol ++ [("upstreams", jsonSlice Upstream.json r.upstreams)])

def SharedHTTPS.json (s : SharedHTTPS) : Json :=
  .object ([("address", .string s.address), ("port", .int s.port),
      ("caddyAddress", .string s.caddyAddress), ("caddyPort", .int s.caddyPort)] ++
    omitFalse "rejectUnmatched" s.rejectUnmatched ++ [("routes", jsonSlice Layer4Route.json s.routes)])

def DesiredState.json (state : DesiredState) : Json :=
  .object ([("revision", .int state.revision), ("listeners", jsonSlice Listener.json state.listeners),
      ("routes", jsonSlice Route.json state.routes)] ++
    state.sharedHTTPS.toList.map fun s => ("sharedHttps", s.json))

def NodeListenerState.json (state : NodeListenerState) : Json :=
  .object [("revision", .int state.revision), ("nodeId", .string state.nodeID),
    ("listener", state.listener.json)]

/-! ## Hashes -/

section Hashes

variable (quote : String → String) (parseIP : String → Option Bool) (sha256 : String → List UInt8)
  (sorter : Sorter)

def configurationHash (state : DesiredState) (certificates : List Certificate) :
    Except String String := do
  state.validate quote parseIP
  let encoded := (state.sorted sorter).json.encode
  let certificateJSON := (jsonSlice Certificate.json (sorter.sort Certificate.less certificates)).encode
  return Landing.hexEncode (sha256 (String.ofList (encoded ++ certificateJSON)))

def nodeListenerConfigurationHash (state : NodeListenerState) : Except String String := do
  state.validate quote parseIP
  return Landing.hexEncode (sha256 (String.ofList (state.sorted sorter).json.encode))

end Hashes

end Gateway
end Vastora
