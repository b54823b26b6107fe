import Vastora.Gateway.Certificates

/-!
# CaddyDriver — the Caddy configuration of a gateway

`caddyConfiguration` writes two servers per listener, one for HTTP and one for HTTPS, each with an ordered
list of routes.  A route with TLS is proxied by the HTTPS server, and its hostname is redirected by the HTTP
server; the redirect is written where the first such route of the hostname stands.

Caddy runs the routes of a server in order.  A route runs its handlers when one of its matchers accepts the
request, and a terminal route is the last one that is looked at (`handlers`).
-/

namespace Vastora
namespace Agent

open Library Library.Guard Library.Pattern Gateway

/-! ## Configurations -/

/-- A matcher set.  A member that is left out accepts everything. -/
structure Matcher where
  host : List String
  path : Option (List String)
  header : Option (List (String × List String))
deriving DecidableEq

inductive Transport where
  | tls
  | h2c
deriving DecidableEq

inductive Handler where
  | reverseProxy (dials : List String) (transport : Option Transport)
  | staticResponse (statusCode : Nat) (headers : List (String × List String))
deriving DecidableEq

structure CaddyRoute where
  «match» : List Matcher
  handle : List Handler
  terminal : Bool
deriving DecidableEq

/-- A TLS connection policy: the default one, one for server names, or a refusal. -/
inductive Policy where
  | any
  | sni (hosts : List String) (protocolMin : String)
  | drop
deriving DecidableEq

structure CaddyServer where
  listen : List String
  routes : List CaddyRoute
  automaticHTTPS : Option String
  protocols : Option (List String)
  strictSNIHost : Option Bool
  tlsConnectionPolicies : Option (List Policy)
deriving DecidableEq

structure CaddyConfig where
  adminListen : String
  servers : List (String × CaddyServer)
  loadPEM : List Certificate
deriving DecidableEq

/-! ## Text -/

def jsonStrings (values : List String) : Json := .array (values.map .string)

def jsonHeaders (headers : List (String × List String)) : Json :=
  .object (headers.map fun h => (h.1, jsonStrings h.2))

def Matcher.json (m : Matcher) : Json :=
  .object ((m.header.toList.map fun h => ("header", jsonHeaders h)) ++ [("host", jsonStrings m.host)] ++
    m.path.toList.map fun p => ("path", jsonStrings p))

def Transport.json : Transport → Json
  | tls => .object [("protocol", .string "http"), ("tls", .object [])]
  | h2c => .object [("protocol", .string "http"), ("versions", jsonStrings ["h2c"])]

def Handler.json : Handler → Json
  | reverseProxy dials transport =>
      .object ([("handler", .string "reverse_proxy")] ++
        (transport.toList.map fun t => ("transport", t.json)) ++
        [("upstreams", .array (dials.map fun d => .object [("dial", .string d)]))])
  | staticResponse statusCode headers =>
      .object [("handler", .string "static_response"), ("headers", jsonHeaders headers),
        ("status_code", .int statusCode)]

def CaddyRoute.json (r : CaddyRoute) : Json :=
  .object [("match", .array (r.match.map Matcher.json)), ("handle", .array (r.handle.map Handler.json)),
    ("terminal", .bool r.terminal)]

def Policy.json : Policy → Json
  | any => .object []
  | sni hosts protocolMin =>
      .object [("match", .object [("sni", jsonStrings hosts)]), ("protocol_min", .string protocolMin)]
  | drop => .object [("drop", .bool true)]

def CaddyServer.json (s : CaddyServer) : Json :=
  .object ((s.automaticHTTPS.toList.map fun key => ("automatic_https", .object [(key, .bool true)])) ++
    [("listen", jsonStrings s.listen)] ++ (s.protocols.toList.map fun p => ("protocols", jsonStrings p)) ++
    [("routes", .array (s.routes.map CaddyRoute.json))] ++
    (s.strictSNIHost.toList.map fun b => ("strict_sni_host", .bool b)) ++
    s.tlsConnectionPolicies.toList.map fun p => ("tls_connection_policies", .array (p.map Policy.json)))

def certificateJSON (c : Certificate) : Json :=
  .object [("certificate", .string c.certificatePEM), ("key", .string c.privateKeyPEM),
    ("tags", jsonStrings ["vastora-" ++ c.hostname])]

def CaddyConfig.json (c : CaddyConfig) : Json :=
  let servers : Json := .object (c.servers.foldr (fun s members => Json.insertMember s.1 s.2.json members) [])
  let http : List (String × Json) := [("http", .object [("servers", servers)])]
  let tls : List (String × Json) :=
    if c.loadPEM.isEmpty then []
    else [("tls", .object [("certificates", .object [("load_pem", .array (c.loadPEM.map certificateJSON))])])]
  .object [("admin", .object [("listen", .string c.adminListen)]), ("apps", .object (http ++ tls))]

/-! ## The configuration of a state -/

/-- `net.JoinHostPort`. -/
def joinHostPort (host port : String) : String :=
  if host.toList.contains ':' then "[" ++ host ++ "]:" ++ port else host ++ ":" ++ port

/-- `gatewayruntime.CaddyListenerPorts`. -/
def caddyListenerPorts (kind : String) : Option (Int × Int) :=
  if kind = "public" then some (80, 443)
  else if kind = "headscale" then some (10080, 10443)
  else if kind = "lan" then some (11080, 11443)
  else if kind = "system" then some (12080, 12443)
  else none

def centerGRPCPort : Int := 8089

def localTLSOriginPort : Int := 24483

def localTLSOrigin (r : Route) : Bool :=
  r.listenerKind == "public" && r.tlsEnabled && !r.system && r.path == ""

def matcher (r : Route) : Matcher :=
  ⟨[r.hostname], if r.path = "" then none else some [r.path], none⟩

def proxy (r : Route) : Handler :=
  .reverseProxy (r.upstreams.map fun u => joinHostPort u.address (toString u.port))
    (if r.protocol = "https" then some .tls else none)

def candidate (r : Route) : CaddyRoute := ⟨[matcher r], [proxy r], true⟩

/-- Center control and its cleanup callback also have an HTTP/2 upstream. -/
def servesGRPC (r : Route) : Bool :=
  r.system && (hasPrefix r.id "system-center" || hasPrefix r.id "system-agent-decommission-callback")

def grpcCandidate (r : Route) : CaddyRoute :=
  ⟨[{ matcher r with header := some [("Content-Type", ["application/grpc*"])] }],
    [.reverseProxy (r.upstreams.map fun u => joinHostPort u.address (toString centerGRPCPort)) (some .h2c)],
    true⟩

def redirectHandler : Handler :=
  .staticResponse 308 [("Location", ["https://\x7bhttp.request.host\x7d\x7bhttp.request.uri\x7d"])]

def redirect (hostname : String) : CaddyRoute := ⟨[⟨[hostname], none, none⟩], [redirectHandler], true⟩

structure ListenerRoutes where
  http : List CaddyRoute
  https : List CaddyRoute
  redirectHosts : List String

/-- One round of the loop over the routes of a listener. -/
def ListenerRoutes.add (acc : ListenerRoutes) (r : Route) : ListenerRoutes :=
  if r.tlsEnabled then
    let https := acc.https ++ (if servesGRPC r then [grpcCandidate r] else []) ++ [candidate r]
    if acc.redirectHosts.contains r.hostname then { acc with https := https }
    else ⟨acc.http ++ [redirect r.hostname], https, r.hostname :: acc.redirectHosts⟩
  else { acc with http := acc.http ++ [candidate r] }

/-- The routes that the loop of a listener does not skip. -/
def routesOfKind (desired : DesiredState) (kind : String) : List Route :=
  desired.routes.filter (·.listenerKind == kind)

def listenerRoutes (desired : DesiredState) (kind : String) : ListenerRoutes :=
  (routesOfKind desired kind).foldl ListenerRoutes.add ⟨[], [], []⟩

def httpServer (kind : String) : String := "vastora-" ++ kind ++ "-http"

def httpsServer (kind : String) : String := "vastora-" ++ kind ++ "-https"

def listenAny (port : Int) : List String := [joinHostPort "0.0.0.0" (toString port)]

/-- The servers of a listener: a list without routes gets none. -/
def listenerServers (quote : String → String) (desired : DesiredState) (l : Listener) :
    Except String (List (String × CaddyServer)) := do
  let ports ← fetch (caddyListenerPorts l.kind) ("agent: unsupported Caddy listener kind " ++ quote l.kind)
  let routes := listenerRoutes desired l.kind
  let http := if routes.http.isEmpty then []
    else [(httpServer l.kind, ⟨listenAny ports.1, routes.http, some "disable", none, none, none⟩)]
  let https := if routes.https.isEmpty then []
    else [(httpsServer l.kind, ⟨listenAny ports.2, routes.https, none, none, none, some [.any]⟩)]
  return http ++ https

/-- The server for the complete public sites, which only the node itself can reach. -/
def localServers (desired : DesiredState) : List (String × CaddyServer) :=
  let origins := (desired.listeners.flatMap fun l => routesOfKind desired l.kind).filter localTLSOrigin
  if origins.isEmpty then []
  else [("vastora-local-tls-origin", ⟨listenAny localTLSOriginPort, origins.map candidate,
    some "disable_redirects", some ["h1", "h2"], some true,
    some [.sni (origins.map Route.hostname) "tls1.3", .drop]⟩)]

section Configuration

variable (quote : String → String) (env : X509)

/-- `caddyConfiguration` before it is written as text. -/
def caddyConfig (desired : DesiredState) (certificates : List Certificate) (adminListen : String) :
    Except String CaddyConfig := do
  validateCertificatesForState quote env desired certificates
  let servers ← desired.listeners.mapM (listenerServers quote desired)
  return ⟨adminListen, servers.flatten ++ localServers desired, certificates⟩

def caddyConfiguration (desired : DesiredState) (certificates : List Certificate) (adminListen : String) :
    Except String (List Char) := do
  let config ← caddyConfig quote env desired certificates adminListen
  return config.json.encode

end Configuration

/-! ## What Caddy does with a request -/

/-- A request, with the value of its `Content-Type` header. -/
structure HTTPRequest where
  host : String
  path : String
  contentType : String

/-- A value that a header is compared with: a star at its end stands for any text. -/
def headerValueMatches (value pattern : String) : Bool :=
  if hasSuffix pattern "*" then hasPrefix value (Text.trimSuffix pattern "*") else value == pattern

def Matcher.accepts (m : Matcher) (request : HTTPRequest) : Bool :=
  m.host.contains request.host && m.path.all (·.contains request.path) &&
    m.header.all (·.all fun h => h.1 == "Content-Type" && h.2.any (headerValueMatches request.contentType))

def CaddyRoute.accepts (r : CaddyRoute) (request : HTTPRequest) : Bool :=
  r.match.any (·.accepts request)

/-- The handlers that run for a request. -/
def handlers (request : HTTPRequest) : List CaddyRoute → List Handler
  | [] => []
  | r :: routes =>
      if r.accepts request then r.handle ++ (if r.terminal then [] else handlers request routes)
      else handlers request routes

/-- The routes of a server; a server that is not there has none. -/
def serverRoutes (servers : List (String × CaddyServer)) (name : String) : List CaddyRoute :=
  ((servers.lookup name).map CaddyServer.routes).getD []

/-- The handlers that a server runs. -/
def CaddyConfig.answer (c : CaddyConfig) (server : String) (request : HTTPRequest) : List Handler :=
  handlers request (serverRoutes c.servers server)

end Agent
end Vastora
