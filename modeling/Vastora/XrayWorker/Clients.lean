import Vastora.Library.PathEscape
import Vastora.XrayWorker.State

/-!
# XrayWorker.Clients — client operations of the worker API

A client request names its operation and its account in the path, and the inbounds it is meant for in its body or
its query; without any it is meant for all of them.  `mutateXrayWorkerClients` edits the clients of these inbounds
and then the counters of the account.  The path has been unescaped when the handler sees it; `requestedEmail`
unescapes the name in it once more.
-/

namespace Vastora
namespace XrayWorker

open Library Library.Guard Library.Pattern Library.Text Library.PathEscape Landing

/-! ## Requests -/

inductive Method where
  | get | post | other
deriving DecidableEq

/-- The body of a request, or the document under `json` in a form. -/
inductive Content where
  | unreadable
  | plain (body : Document)
  | form (size : Nat) (json : Except String Document) (inbound : Except String Json)

/-- A controller's counters of the accounts, as the body of a request holds them. -/
structure Snapshot where
  controllerID : String
  traffics : List (String × Traffic)

/-- A request, with what its body and its form hold for the endpoints that read them. -/
structure Request where
  method : Method
  /-- `URL.Path`, which is unescaped. -/
  path : String
  contentLength : Int
  content : Content
  /-- `URL.Query()["inboundIds"]` -/
  inboundIds : List String
  hostGroup : Option HostGroup
  snapshot : Option Snapshot
  xraySetting : Except String Json
  subSortIndex : Option Int
  /-- The address of the node itself, which alone may write the routing document. -/
  fromNode : Bool

def xrayWorkerMaxBody : Nat := 4 * 2 ^ 20

def readObject (body : Document) : Except String Json := do
  require (body.size != 0) "invalid request"
  let raw ← fetch body.value "invalid request"
  require (unmarshalMap raw).isSome "invalid request"
  return raw

def readJSONObject (request : Request) : Except String Json :=
  match request.content with
  | .unreadable => .error "invalid request"
  | .plain body => do
      require (body.size ≤ xrayWorkerMaxBody) "invalid request"
      readObject body
  | .form size json _ => do
      require (size ≤ xrayWorkerMaxBody) "invalid request"
      let body ← json
      readObject body

/-- The map of the body; a request without content has none. -/
def requestBody (request : Request) : Except String Json :=
  match readJSONObject request with
  | .ok raw => .ok (inboundMap raw)
  | .error err => if 0 < request.contentLength then .error err else .ok .null

/-- `strconv.Atoi`. -/
def atoi (cs : List Char) : Option Int :=
  let (negative, digits) := match cs with
    | '-' :: ds => (true, ds)
    | '+' :: ds => (false, ds)
    | ds => (false, ds)
  if digits.isEmpty || !digits.all Char.isDigit then none
  else
    let value : Int := Netip.decimal digits
    (some (if negative then -value else value)).filter fun n => -2 ^ 63 ≤ n && n < 2 ^ 63

section Operations

variable (env : Environment)

/-- The inbounds that a request is meant for; none stands for all. -/
def targetIDs (body : Json) (request : Request) : List Int :=
  ((itemsField "inboundIds" body).getD []).filterMap (fun raw =>
    let (id, ok) := jsonInteger env (some raw)
    if ok then some id else none) ++
  request.inboundIds.flatMap fun raw => (raw.toList.splitOn ',').filterMap atoi

/-! ## Paths -/

def clientsPrefix : String := "/panel/api/clients/"

def addPath : String := "/panel/api/clients/add"

def updatePrefix : String := "/panel/api/clients/update/"

def delPrefix : String := "/panel/api/clients/del/"

def resetTrafficPrefix : String := "/panel/api/clients/resetTraffic/"

/-- `email, _ = url.PathUnescape(…)`: a failure leaves the empty text.  Bytes that are no text name no client. -/
def unescapedEmail (segment : String) : Option String :=
  match pathUnescape segment.toList with
  | some bytes => text? bytes
  | none => some ""

def requestedEmail (path : String) : Option String :=
  let email := [updatePrefix, delPrefix, resetTrafficPrefix].foldl
    (fun email pre => if hasPrefix path pre then unescapedEmail (trimPrefix path pre) else email) (some "")
  if hasPrefix path clientsPrefix && hasSuffix path "/detach" then
    unescapedEmail (trimSuffix (trimPrefix path clientsPrefix) "/detach")
  else email

/-- The client in the body; an update may have it as the whole body. -/
def requestClient (body : Json) (path : String) : Json :=
  let client := mapField "client" body
  if isNil client && hasPrefix path updatePrefix then body else client

/-- What is done to a client of the requested name. -/
inductive Action where
  | replace | reset | remove
deriving DecidableEq

def clientAction (path : String) (client : Json) : Action :=
  if hasPrefix path updatePrefix && !isNil client then .replace
  else if contains path "resetTraffic" then .reset
  else .remove

/-! ## Inbounds -/

def sameXrayWorkerClientCredential (current next : Json) (protocol : String) : Bool :=
  let field := if protocol = "hysteria" then "auth" else "id"
  !isNil current && !isNil next && trimSpace (textField field current) != "" &&
    textField field current == textField field next

def clientEmail (client : Json) : String := textField "email" client

/-- The entry of a name in `clientStats`, set to zero. -/
def resetStat (email : String) (stat : Json) : Json :=
  if stat.field? "email" = some (.string email) then (stat.setField "up" (.int 0)).setField "down" (.int 0)
  else stat

def resetXrayWorkerClientTraffic (inbound : Json) (email : String) : Json :=
  inbound.setField "clientStats" (match itemsField "clientStats" inbound with
    | some stats => .array (stats.map (resetStat email))
    | none => .null)

/-- What becomes of a client of the requested name. -/
def editClient (action : Action) (client : Json) (protocol : String) (current : Json) :
    Except String (List Json) :=
  match action with
  | .replace => do
      require (sameXrayWorkerClientCredential current client protocol)
        "client credential changes require explicit Vastora reconciliation"
      return [client]
  | .reset => .ok [current]
  | .remove => .ok []

/-- The loop over the clients of an inbound, and whether it has met the name. -/
def editClients (action : Action) (email : Option String) (client : Json) (protocol : String) :
    List Json → Except String (List Json × Bool)
  | [] => .ok ([], false)
  | current :: clients =>
      if some (clientEmail current) = email then do
        let edited ← editClient action client protocol current
        let rest ← editClients action email client protocol clients
        return (edited ++ rest.1, true)
      else do
        let rest ← editClients action email client protocol clients
        return (current :: rest.1, rest.2)

def setClients (inbound : Json) (clients : List Json) : Json :=
  inbound.setField "settings" ((mapField "settings" inbound).setField "clients" (.array clients))

def inboundClients (inbound : Json) : List Json :=
  (itemsField "clients" (mapField "settings" inbound)).getD []

/-- The body of the loop over the inbounds: the inbound that is stored, and whether it has changed. -/
def editInbound (ids : List Int) (path : String) (client : Json) (raw : Json) : Except String (Json × Bool) := do
  if ids ≠ [] ∧ inboundID env raw ∉ ids then return (raw, false)
  let inbound := inboundMap raw
  require (!isNil (mapField "settings" inbound)) "inbound settings unavailable"
  if path = addPath ∧ isNil client = false then
    require (trimSpace (clientEmail client) != "" && (inboundClients inbound).all fun current =>
      current.field? "email" != some (.string (clientEmail client))) "invalid or duplicate client"
    return (setClients inbound (inboundClients inbound ++ [client]), true)
  else
    let action := clientAction path client
    let (clients, changed) ← editClients action (requestedEmail path) client (textField "protocol" inbound)
      (inboundClients inbound)
    if changed then
      let counted := match action, requestedEmail path with
        | .reset, some email => resetXrayWorkerClientTraffic inbound email
        | _, _ => inbound
      return (setClients counted clients, true)
    else return (raw, false)

/-! ## Counters -/

/-- The counters that an imported state keeps with its inbounds: the largest of an account counts. -/
def legacyStats (inbounds : List Json) : StringMap Traffic :=
  inbounds.foldl (fun result raw =>
    ((itemsField "clientStats" (inboundMap raw)).getD []).foldl (fun result stat =>
      let email := textField "email" stat
      let current := (result.lookup email).getD .zero
      result.insert email ⟨max current.up (jsonInteger64 env (stat.field? "up")).1,
        max current.down (jsonInteger64 env (stat.field? "down")).1⟩) result) ∅

def xrayWorkerAccountStats (state : State) : StringMap Traffic :=
  state.accountStats.getD (legacyStats env state.inbounds)

def xrayWorkerHasClient (state : State) (email : String) : Bool :=
  state.inbounds.any fun raw => (inboundClients (inboundMap raw)).any fun client =>
    client.field? "email" == some (.string email)

/-- An entry under a new name; a missing entry is that of the zero value. -/
def moveEntry {α : Type} (zero : α) (old new : String) (m : StringMap α) : StringMap α :=
  (m.insert new ((m.lookup old).getD zero)).erase old

def settleReset (path email : String) (state : State) : State :=
  if contains path "resetTraffic" then
    { state with
      accountStats := some ((xrayWorkerAccountStats env state).insert email .zero)
      controllerStats := state.controllerStats.map (·.insert email .zero) }
  else state

def settleUpdate (path email : String) (client : Json) (state : State) : State :=
  let newEmail := clientEmail client
  if hasPrefix path updatePrefix && !isNil client && newEmail != "" && newEmail != email then
    { state with
      accountStats := some (moveEntry .zero email newEmail (xrayWorkerAccountStats env state))
      controllerStats := state.controllerStats.map (moveEntry .zero email newEmail)
      blockedAccounts := state.blockedAccounts.map (moveEntry false email newEmail) }
  else state

def settleDel (path email : String) (state : State) : State :=
  if hasPrefix path delPrefix then
    let accountStats := xrayWorkerAccountStats env state
    if xrayWorkerHasClient state email then { state with accountStats := some accountStats }
    else
      { state with
        accountStats := some (accountStats.erase email)
        controllerStats := state.controllerStats.map (·.erase email)
        blockedAccounts := state.blockedAccounts.map (·.erase email) }
  else state

def mutateXrayWorkerClients (state : State) (request : Request) (path : String) : Except String State := do
  require (!(["/panel/api/clients/onlines", "/panel/api/clients/lastOnline", "/panel/api/clients/onlinesByGuid",
    "/panel/api/clients/clientIpsByGuid"].contains path)) "not a mutation"
  let body ← requestBody request
  let ids := targetIDs env body request
  require (ids.all fun id => state.inbounds.any fun raw => inboundID env raw == id)
    "client target inbound not found"
  require (!(path == addPath && ids.isEmpty)) "client target inbounds are required"
  let client := requestClient body path
  let edited ← state.inbounds.mapM (editInbound env ids path client)
  require (edited.any Prod.snd) "client not found"
  let email := (requestedEmail path).getD ""
  let state := { state with inbounds := edited.map Prod.fst }
  return settleDel env path email (settleUpdate env path email client (settleReset env path email state))

end Operations

end XrayWorker
end Vastora
