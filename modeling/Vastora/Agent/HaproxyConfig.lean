import Vastora.Agent.CaddyDriver
import Vastora.Library.NetipText

/-!
# HaproxyConfig — the HAProxy configuration of a shared HTTPS port

HAProxy reads the server name of a connection and passes the connection on: each route has a `use_backend` line
in the frontend and a backend with one server per upstream, and the rest goes to Caddy or is rejected.

A configuration is read by lines and words.  A line that starts with the name of a section opens one, and the
lines up to the next section belong to it (`sections`).
-/

namespace Vastora
namespace Agent

open Library Library.Guard Library.Netip Library.Text Gateway

/-! ## The text -/

def haproxyPreamble : String :=
  "global\n  log stdout format raw local0\n  maxconn 4096\n\ndefaults\n  log global\n  mode tcp\n" ++
  "  option tcplog\n  timeout connect 10s\n  timeout client 1m\n  timeout client-fin 30s\n" ++
  "  timeout server 1m\n\nresolvers vastora-docker\n  nameserver docker 127.0.0.11:53\n" ++
  "  resolve_retries 3\n  timeout resolve 1s\n  timeout retry 1s\n\n"

def haproxyFrontend (desired : SharedHTTPS) : String :=
  "frontend vastora-shared-https\n  bind " ++ joinHostPort "0.0.0.0" (toString desired.port) ++
    "\n  tcp-request inspect-delay 5s\n  tcp-request content accept if \x7b req_ssl_hello_type 1 \x7d\n"

def useBackendText (index : Nat) (route : Layer4Route) : String :=
  "  use_backend vastora-raw-" ++ toString index ++ " if \x7b req.ssl_sni -i " ++ route.hostname ++ " \x7d\n"

def defaultBackendText (desired : SharedHTTPS) : String :=
  if desired.rejectUnmatched then
    "  default_backend vastora-reject\n\nbackend vastora-reject\n  server reject 127.0.0.1:1\n"
  else
    "  default_backend vastora-caddy\n\nbackend vastora-caddy\n" ++ "  server caddy " ++
      joinHostPort desired.caddyAddress (toString desired.caddyPort) ++
      " check resolvers vastora-docker init-addr libc,none\n"

def serverText (route : Layer4Route) (upstreamIndex : Nat) (upstream : Upstream) : String :=
  let proxyProtocol := if route.proxyProtocol == "v2" then " send-proxy-v2" else ""
  let resolver :=
    if (parseNetIP upstream.address).isNone then " resolvers vastora-docker init-addr libc,none" else ""
  "  server upstream-" ++ toString upstreamIndex ++ " " ++
    joinHostPort upstream.address (toString upstream.port) ++ " check" ++ proxyProtocol ++ resolver ++ "\n"

def backendText (index : Nat) (route : Layer4Route) : String :=
  "\nbackend vastora-raw-" ++ toString index ++ "\n  timeout tunnel 1h\n  timeout server-fin 30s\n" ++
    String.join (route.upstreams.mapIdx (serverText route))

def haproxyText (desired : SharedHTTPS) : String :=
  haproxyPreamble ++ haproxyFrontend desired ++ String.join (desired.routes.mapIdx useBackendText) ++
    defaultBackendText desired ++ String.join (desired.routes.mapIdx backendText)

/-- The gateway state that the listener is judged and sorted as. -/
def haproxyState (desired : SharedHTTPS) : DesiredState :=
  ⟨1, [⟨"public", desired.address, 80, desired.port⟩], [], some desired⟩

def haproxyConfiguration (quote : String → String) (sorter : Sorter) (desired : SharedHTTPS) :
    Except String String := do
  let state := haproxyState desired
  state.validate quote parseNetIP
  return haproxyText ((state.sorted sorter).sharedHTTPS.getD desired)

/-! ## How HAProxy reads a text -/

/-- The lines of a text, each by its words. -/
def words (text : String) : List (List String) :=
  (lines text.toList).map fun line => (fields line).map String.ofList

def isSection : List String → Bool
  | [] => false
  | word :: _ => ["global", "defaults", "resolvers", "frontend", "backend"].contains word

/-- The lines that open a section, with the lines up to the next one. -/
def sections : List (List String) → List (List String × List (List String))
  | [] => []
  | line :: rest =>
      if isSection line then (line, rest.takeWhile fun l => !isSection l) :: sections rest else sections rest

/-- The backend that a line selects, and the server name it does it for. -/
def useBackend? : List String → Option (String × String)
  | ["use_backend", backend, "if", "\x7b", "req.ssl_sni", "-i", hostname, "\x7d"] => some (backend, hostname)
  | _ => none

def defaultBackend? : List String → Option String
  | ["default_backend", backend] => some backend
  | _ => none

structure HaproxyServer where
  name : String
  address : String
  options : List String
deriving DecidableEq

def server? : List String → Option HaproxyServer
  | "server" :: name :: address :: options => some ⟨name, address, options⟩
  | _ => none

def useBackends (text : String) : List (String × String) := (words text).filterMap useBackend?

def defaultBackends (text : String) : List String := (words text).filterMap defaultBackend?

/-- The servers of the backends with a name, one list for each of them. -/
def backends (text name : String) : List (List HaproxyServer) :=
  ((sections (words text)).filter (·.1 == ["backend", name])).map fun s => s.2.filterMap server?

end Agent
end Vastora
