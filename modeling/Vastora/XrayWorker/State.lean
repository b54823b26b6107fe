import Mathlib
import Vastora.Landing.Address
import Vastora.Landing.Settings
import Vastora.Library.Float64
import Vastora.Library.JsonInt
import Vastora.Library.JsonNumbers
import Vastora.Library.NetipText

/-!
# XrayWorker.State — what an agent stores about its Xray worker

The inbounds of the worker are stored as JSON documents.  The agent reads them into maps, where numbers are
binary64 values, and writes the maps back; `unmarshal` is what such a map holds.  The counters of an account
stand beside the inbounds, under the account's name, and may be missing in a state that was imported.
`State.validate` is what every stored state has passed.
-/

namespace Vastora
namespace XrayWorker

open Library Library.Guard Library.Pattern Landing

/-- A Go map with text keys; `nil` is no map. -/
abbrev StringMap (α : Type) := AList fun _ : String => α

structure Traffic where
  up : Int64
  down : Int64
deriving DecidableEq

def Traffic.zero : Traffic := ⟨0, 0⟩

structure HostGroup where
  groupID : String
  inboundIDs : List Int
  hosts : List String
  port : Int
  sni : String
deriving DecidableEq

/-- `xrayWorkerState`. -/
structure State where
  applicationID : String
  imageReference : String
  address : String
  panelPort : Int
  apiToken : String
  revision : Nat
  appliedRevision : Nat
  nextInboundID : Int
  inbounds : List Json
  hostGroups : List HostGroup
  xraySetting : Json
  runtimeStats : Option (StringMap Int64)
  accountStats : Option (StringMap Traffic)
  controllerID : String
  controllerStats : Option (StringMap Traffic)
  blockedAccounts : Option (StringMap Bool)
  legacyImportSHA256 : String

def xrayWorkerImageReference : String :=
  "ghcr.io/xtls/xray-core:26.7.28@sha256:b697cda1588faca696ab7f7755dd1161f60862af3ff6026300e44cff6aedd558"

/-- What the worker takes from outside: the syntax of image references and UUIDs, and the result of converting
a number beyond 64 bits, which Go leaves to the platform. -/
structure Environment where
  validXrayWorkerImageReference : String → Bool
  parseUUID : String → Bool
  outside : Int → Int64 × Bool
  pinned : validXrayWorkerImageReference xrayWorkerImageReference = true

/-! ## Documents -/

/-- `json.Unmarshal` into a variable of type `any`: numbers are binary64 values, and every number must be one. -/
def unmarshal (raw : Json) : Option Json := (raw.mapNumbers Float64.rewrite).map Json.decode

/-- `json.Unmarshal` into a map: an object, or the nil map of `null`. -/
def unmarshalMap (raw : Json) : Option Json :=
  (unmarshal raw).filter fun j => match j with
    | .object _ | .null => true
    | _ => false

/-- A map member; the nil map is `null`, in which every lookup fails. -/
def mapField (key : String) (j : Json) : Json :=
  match j.field? key with
  | some (.object members) => .object members
  | _ => .null

def isNil : Json → Bool
  | .object _ => false
  | _ => true

/-- A boolean member. -/
def boolField (key : String) (j : Json) : Option Bool :=
  match j.field? key with
  | some (.bool b) => some b
  | _ => none

section Numbers

variable (env : Environment)

/-- The conversion of a binary64 value to `int64`, and whether it is exact. -/
def truncate (value : Bool × Nat × Int) : Int64 × Bool :=
  let (negative, m, e) := value
  let magnitude : Nat := if 0 ≤ e then m * 2 ^ e.toNat else m / 2 ^ (-e).toNat
  let exact : Bool := 0 ≤ e || m % 2 ^ (-e).toNat == 0
  let integer : Int := if negative then -magnitude else magnitude
  if -2 ^ 63 ≤ integer ∧ integer < 2 ^ 63 then (Int64.ofInt integer, exact) else env.outside integer

def jsonInteger64 (value : Option Json) : Int64 × Bool :=
  match value with
  | some (.number n) => ((Float64.binary n).map (truncate env)).getD (0, false)
  | _ => (0, false)

def jsonInteger (value : Option Json) : Int × Bool :=
  let (integer, ok) := jsonInteger64 env value
  (integer.toInt, ok)

/-- The map that an inbound is read into. -/
def inboundMap (raw : Json) : Json := (unmarshalMap raw).getD .null

def inboundID (raw : Json) : Int := (jsonInteger env ((inboundMap raw).field? "id")).1

end Numbers

/-! ## Validity -/

def threeXUIRealityPort : Int := 443

/-- `net.ParseIP` of an address that has an IPv4 form. -/
def parseIPv4Form (value : String) : Option Netip.IPv4 :=
  match (Netip.parseZonedAddr value).filter fun a => a.zone == "" with
  | some a =>
      match a.withoutZone.unmapped with
      | .v4 b => some b
      | .v6 _ => none
  | none => none

def inCGNAT (a : Netip.IPv4) : Bool := a.val / 2 ^ 22 == 100 * 4 + 1

def isPrivateServiceAddress (value : String) : Bool :=
  (parseIPv4Form (trimSpace value)).any fun a =>
    a.val != 0 && !(Netip.Addr.v4 a).isMulticast && !(Netip.Addr.v4 a).isLinkLocalUnicast &&
      ((Netip.Addr.v4 a).isLoopback || isPrivate4 a || inCGNAT a)

def validThreeXUIShareHostname (value : String) : Bool :=
  value != "" && value.utf8ByteSize ≤ 253 &&
    value.toList.all (fun c => !(['/', '\\', '?', '#', '@', ':'].contains c)) &&
    (value.toList.splitOn '.').all fun label =>
      !label.isEmpty && label.length ≤ 63 && label.head? != some '-' && label.getLast? != some '-' &&
        label.all fun c => ('a' ≤ c && c ≤ 'z') || ('0' ≤ c && c ≤ '9') || c == '-'

def validXrayWorkerHostGroup (group : HostGroup) (inboundIDs : List Int) : Bool :=
  trimSpace group.groupID != "" && group.inboundIDs.length == 1 &&
    group.inboundIDs.all inboundIDs.contains && group.hosts.length == 1 &&
    group.hosts.all validThreeXUIShareHostname && 1 ≤ group.port && group.port ≤ 65535 &&
    validThreeXUIShareHostname group.sni

/-- A fingerprint is empty or the lower-case hexadecimal text of 32 bytes. -/
def validFingerprint (value : String) : Bool :=
  value == "" || value.toList.length == 64 &&
    value.toList.all fun c => ('0' ≤ c && c ≤ '9') || ('a' ≤ c && c ≤ 'f')

def xrayWorkerAcceptsProxyProtocol (stream : Json) : Bool :=
  (boolField "acceptProxyProtocol" (mapField "sockopt" stream)).getD false

section Validate

variable (env : Environment)

/-- A quota or expiry, where a client has one. -/
def validLimit (key : String) (client : Json) : Bool :=
  match client.field? key with
  | none => true
  | some value =>
      let (limit, valid) := jsonInteger64 env (some value)
      valid && 0 ≤ limit

def validClient (protocol : String) (client : Json) : Bool :=
  !isNil client && trimSpace (textField "email" client) != "" &&
    validLimit env "totalGB" client && validLimit env "expiryTime" client &&
    (if protocol = "vless" then env.parseUUID (textField "id" client)
      else trimSpace (textField "auth" client) != "")

def validXrayWorkerClients (inbound : Json) (protocol : String) : Bool :=
  (itemsField "clients" (mapField "settings" inbound)).any fun clients =>
    clients.all (validClient env protocol) && (clients.map (textField "email")).Nodup

/-- What the inbounds before one have used up. -/
structure Seen where
  id : Int
  tag : String
  protocol : String

def validTransport (protocol : String) (port : Int) (stream : Json) : Bool :=
  let network := textField "network" stream
  let security := textField "security" stream
  port == threeXUIRealityPort &&
    !(protocol == "vless" && (security != "reality" || (network != "tcp" && network != "raw") ||
      !xrayWorkerAcceptsProxyProtocol stream)) &&
    !(protocol == "hysteria" && (security != "tls" || network != "hysteria"))

def checkInbound (seen : List Seen) (raw : Json) : Except String Seen := do
  let inbound ← fetch (unmarshalMap raw) "agent: invalid Xray worker inbound"
  let (id, ok) := jsonInteger env (inbound.field? "id")
  let tag := textField "tag" inbound
  let protocol := textField "protocol" inbound
  let (port, portOK) := jsonInteger env (inbound.field? "port")
  require (ok && 1 ≤ id && !(seen.map Seen.id).contains id && trimSpace tag != "" && tag != "api" &&
    !(seen.map Seen.tag).contains tag && portOK && 1 ≤ port && port ≤ 65535 &&
    (protocol == "vless" || protocol == "hysteria")) "agent: unsupported Xray worker inbound"
  let stream := mapField "streamSettings" inbound
  require (validTransport protocol port stream) "agent: unsupported Xray worker transport"
  require (!(protocol == "hysteria" && (stream.field? "finalmask").isSome))
    ("agent: Hysteria finalmask is unsupported because wildcard listeners cannot preserve the " ++
      "destination address on multi-homed hosts")
  require (validXrayWorkerClients env inbound protocol) "agent: invalid Xray worker clients"
  require (!(seen.map Seen.protocol).contains protocol) "agent: Xray worker port has conflicting inbounds"
  return ⟨id, tag, protocol⟩

def checkInbounds (seen : List Seen) : List Json → Except String (List Seen)
  | [] => return seen
  | raw :: inbounds => do
      let inbound ← checkInbound env seen raw
      checkInbounds (inbound :: seen) inbounds

def checkHostGroups (ids : List Int) (seen : List String) : List HostGroup → Except String Unit
  | [] => return ()
  | group :: groups => do
      require (validXrayWorkerHostGroup group ids && !seen.contains group.groupID)
        "agent: invalid Xray worker subscription host group"
      checkHostGroups ids (group.groupID :: seen) groups

/-- Every entry of a map passes a check; a map that is missing has none. -/
def allEntries {α : Type} (m : Option (StringMap α)) (check : String → α → Bool) : Bool :=
  m.all fun m => m.entries.all fun entry => check entry.1 entry.2

def validTraffic (email : String) (traffic : Traffic) : Bool :=
  trimSpace email != "" && 0 ≤ traffic.up && 0 ≤ traffic.down

def State.validate (state : State) : Except String Unit := do
  require (trimSpace state.applicationID != "" && env.validXrayWorkerImageReference state.imageReference &&
    isPrivateServiceAddress state.address && 1024 ≤ state.panelPort && state.panelPort ≤ 65535 &&
    state.panelPort != threeXUIRealityPort && trimSpace state.apiToken != "" &&
    state.apiToken.utf8ByteSize ≤ 4096 && state.revision != 0 &&
    state.appliedRevision ≤ state.revision && 1 ≤ state.nextInboundID) "agent: invalid Xray worker state"
  require (validFingerprint state.legacyImportSHA256) "agent: invalid Xray worker migration fingerprint"
  let seen ← checkInbounds env [] state.inbounds
  checkHostGroups (seen.map Seen.id) [] state.hostGroups
  require (unmarshalMap state.xraySetting).isSome "agent: invalid Xray worker settings"
  require (allEntries state.runtimeStats fun name value => trimSpace name != "" && 0 ≤ value)
    "agent: invalid Xray worker runtime counter"
  require (allEntries state.accountStats validTraffic) "agent: invalid Xray worker account counter"
  require (allEntries state.controllerStats validTraffic) "agent: invalid Xray worker controller counter"
  require (allEntries state.blockedAccounts fun email blocked => trimSpace email != "" && blocked)
    "agent: invalid Xray worker enforcement state"

/-- A state that is stored. -/
def State.Valid (state : State) : Prop := state.validate env = .ok ()

end Validate

end XrayWorker
end Vastora
