import Vastora.XrayWorker.Clients

/-!
# XrayWorker.Api — the requests that the worker answers

`xrayWorkerRequest` rejects a request, or returns the state that the request asks for, if it asks for another one.
The objects that are sent back are left out.
-/

namespace Vastora
namespace XrayWorker

open Library Library.Guard Library.Pattern Library.Text Landing

section Requests

variable (env : Environment)

/-! ## Counters of a controller -/

/-- A snapshot never takes a counter back. -/
def acceptTraffic (state : State) (stats : StringMap Traffic) (traffic : String × Traffic) : StringMap Traffic :=
  let email := trimSpace traffic.1
  if email = "" ∨ traffic.2.up < 0 ∨ traffic.2.down < 0 ∨ xrayWorkerHasClient state email = false then stats
  else
    let current := (stats.lookup email).getD .zero
    stats.insert email ⟨max current.up traffic.2.up, max current.down traffic.2.down⟩

def acceptXrayWorkerControllerStats (state : State) (request : Request) : Except String State := do
  let _ ← readJSONObject request
  let payload ← fetch request.snapshot "invalid controller traffic snapshot"
  require (trimSpace payload.controllerID != "") "invalid controller traffic snapshot"
  require (state.controllerID == "" || state.controllerID == payload.controllerID)
    "agent: Xray worker traffic controller changed"
  return { state with
    controllerID := payload.controllerID
    controllerStats := some (payload.traffics.foldl (acceptTraffic state) (state.controllerStats.getD ∅)) }

/-! ## Inbounds -/

def pathID (path pre : String) : Except String Int := do
  let id ← fetch (atoi (trimPrefix path pre).toList) "invalid id"
  require (1 ≤ id) "invalid id"
  return id

def readInboundPayload (request : Request) : Except String Json :=
  match request.content with
  | .form _ _ inbound => inbound
  | _ => readJSONObject request

def validOr (state : State) (message : String) : Except String Unit :=
  match state.validate env with
  | .ok () => .ok ()
  | .error _ => .error message

def addInbound (state : State) (request : Request) : Except String State := do
  let raw ← readInboundPayload request
  let inbound := (inboundMap raw).setField "id" (.int state.nextInboundID)
  let state := { state with nextInboundID := state.nextInboundID + 1, inbounds := state.inbounds ++ [inbound] }
  validOr env state "invalid inbound"
  return state

def zeroStat (stat : Json) : Json := (stat.setField "up" (.int 0)).setField "down" (.int 0)

def resetInbound (inbound : Json) : Json := (inbound.setField "up" (.int 0)).setField "down" (.int 0)

/-- An entry of `clientStats` that is no map cannot be written to, and the request is lost. -/
def resetAllTraffics (state : State) : Except String State := do
  require (state.inbounds.all fun raw => ((itemsField "clientStats" (inboundMap raw)).getD []).all fun stat =>
    !isNil stat) "assignment to entry in nil map"
  return { state with
    accountStats := some ∅
    controllerStats := some ∅
    inbounds := state.inbounds.map fun raw =>
      let inbound := resetInbound (inboundMap raw)
      match itemsField "clientStats" inbound with
      | some stats => inbound.setField "clientStats" (.array (stats.map zeroStat))
      | none => inbound }

def setSubSortIndex (state : State) (request : Request) (path : String) : Except String State := do
  let idText := trimSuffix (trimPrefix path "/panel/api/inbounds/") "/subSortIndex"
  let id ← fetch (atoi idText.toList) "invalid sort index"
  let index ← fetch (state.inbounds.findIdx? fun raw => inboundID env raw == id) "invalid sort index"
  let value ← fetch request.subSortIndex "invalid sort index"
  return { state with inbounds := state.inbounds.modify index fun raw =>
    (inboundMap raw).setField "subSortIndex" (.int value) }

/-- The operations on one inbound, in the order in which their paths are tried. -/
inductive InboundOp where
  | update | delete | enable | reset
deriving DecidableEq

def inboundOps : List (String × InboundOp) :=
  [("/panel/api/inbounds/update/", .update), ("/panel/api/inbounds/del/", .delete),
    ("/panel/api/inbounds/setEnable/", .enable), ("/panel/api/inbounds/", .reset)]

def editedInbound (op : InboundOp) (request : Request) (id : Int) (inbound : Json) : Except String Json :=
  match op with
  | .update => do
      let raw ← readInboundPayload request
      let update := ((inboundMap raw).members?).getD []
      return (update.foldl (fun inbound member => inbound.setField member.1 member.2) inbound).setField "id" (.int id)
  | .enable => do
      let raw ← readJSONObject request
      let enabled ← fetch (boolField "enable" (inboundMap raw)) "invalid enabled state"
      return inbound.setField "enable" (.bool enabled)
  | .reset => return resetInbound inbound
  | .delete => return inbound

def mutateInbound (state : State) (request : Request) (path : String) (operation : String × InboundOp) :
    Except String State := do
  let remaining := trimPrefix path operation.1
  let remaining := if operation.2 = .reset then trimSuffix remaining "/resetTraffic" else remaining
  let id ← fetch (atoi remaining.toList) "invalid id"
  require (1 ≤ id) "invalid id"
  let index ← fetch (state.inbounds.findIdx? fun raw => inboundID env raw == id) "not found"
  if operation.2 = .delete then
    return { state with
      inbounds := state.inbounds.eraseIdx index
      hostGroups := state.hostGroups.filter fun group => !group.inboundIDs.contains id }
  else
    let inbound ← editedInbound operation.2 request id (inboundMap (state.inbounds.getD index .null))
    let state := { state with inbounds := state.inbounds.set index inbound }
    validOr env state "invalid inbound"
    return state

/-! ## Other settings -/

def saveHostGroup (state : State) (request : Request) (path : String) : Except String State := do
  let group ← fetch request.hostGroup "invalid subscription host group"
  require (validXrayWorkerHostGroup group (state.inbounds.map (inboundID env))) "invalid subscription host group"
  let index := state.hostGroups.findIdx? fun current => current.groupID == group.groupID
  if path = "/panel/api/hosts/add" then
    require index.isNone "subscription host group already exists"
    return { state with hostGroups := state.hostGroups ++ [group] }
  else
    let groupID := trimPrefix path "/panel/api/hosts/update/"
    let index ← fetch (index.filter fun _ => groupID != "" && groupID == group.groupID)
      "subscription host group not found"
    return { state with hostGroups := state.hostGroups.set index group }

def updateXraySetting (state : State) (request : Request) : Except String State := do
  require request.fromNode "routing settings are managed by Vastora Agent"
  let raw ← request.xraySetting
  require (unmarshalMap raw).isSome "invalid settings"
  return { state with xraySetting := raw }

/-! ## Requests -/

def readRequest (state : State) (path : String) : Except String Unit :=
  if path = "/panel/api/server/status" then
    require (state.appliedRevision == state.revision) "agent: Xray worker revision is not applied"
  else if hasPrefix path "/panel/api/hosts/byInbound/" then do
    let _ ← pathID path "/panel/api/hosts/byInbound/"
  else if hasPrefix path "/panel/api/inbounds/get/" then do
    let id ← pathID path "/panel/api/inbounds/get/"
    require (state.inbounds.any fun raw => inboundID env raw == id) "not found"
  else require (["/panel/api/inbounds/list", "/panel/api/hosts/list", "/panel/api/server/descendants",
    "/panel/api/server/clientIps", "/panel/api/server/getWebCertFiles"].contains path) "unsupported endpoint"

/-- The endpoints that are posted to and only read. -/
def postedReads : List String :=
  ["/panel/api/xray", "/panel/api/clients/onlines", "/panel/api/clients/lastOnline",
    "/panel/api/clients/onlinesByGuid", "/panel/api/clients/clientIpsByGuid", "/panel/api/server/clientIps"]

/-- The state that a request asks for, if it asks for one. -/
def postRequest (state : State) (request : Request) (path : String) : Except String (Option State) :=
  if postedReads.contains path then .ok none
  else if path = "/panel/api/hosts/add" ∨ hasPrefix path "/panel/api/hosts/update/" then
    some <$> saveHostGroup env state request path
  else if path = "/panel/api/server/restartXrayService" then .ok (some state)
  else if path = "/panel/api/xray/update" then some <$> updateXraySetting state request
  else if path = "/panel/api/inbounds/add" then some <$> addInbound env state request
  else if path = "/panel/api/inbounds/resetAllTraffics" then some <$> resetAllTraffics state
  else if hasPrefix path "/panel/api/inbounds/" && hasSuffix path "/subSortIndex" then
    some <$> setSubSortIndex env state request path
  else if hasPrefix path clientsPrefix then some <$> mutateXrayWorkerClients env state request path
  else if path = "/panel/api/inbounds/pushClientTraffics" then
    some <$> acceptXrayWorkerControllerStats state request
  else
    match inboundOps.find? fun operation => hasPrefix path operation.1 with
    | some operation => some <$> mutateInbound env state request path operation
    | none => .error "unsupported endpoint"

def xrayWorkerRequest (state : State) (request : Request) : Except String (Option State) :=
  let path := trimSuffix request.path "/"
  match request.method with
  | .get => (fun _ => none) <$> readRequest env state path
  | .post => postRequest env state request path
  | .other => .error "unsupported endpoint"

end Requests

end XrayWorker
end Vastora
