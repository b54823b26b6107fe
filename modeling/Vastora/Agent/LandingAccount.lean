import Vastora.Landing.Quota
import Vastora.Library.Triple

/-!
# LandingAccount — the journal of shared accounts

The controller journals every shared account before it writes to the panel.  An operation works on a copy
of the journal and stores it with `saveLandingController`, which may fail; what it has stored by then
stays.  What the panel answers is a parameter of the operation.
-/

namespace Vastora
namespace Agent

open Library Library.Guard Landing

/-! ## Journal -/

inductive GrantPhase where
  | prepared | activating | ready | revoked
  | other (name : String)
deriving DecidableEq, Repr

/-- `landingControllerGrant`. -/
structure ControllerGrant where
  grant : ClientGrant
  phase : GrantPhase

/-- `landingControllerAccount`. -/
structure Account where
  id : String
  email : String
  enabled : Bool
  total : Int64
  expiry : Int64
  resetDays : Int64
  members : List QuotaMember
  limits : List QuotaLimit
  pendingLimits : List QuotaLimit
  pendingExpiry : Int64
  blocked : Bool
  deleted : Bool
  pendingOperation : String
  operationDigest : String
  lastOperation : String

/-- The zero value, which is read for a missing key. -/
def Account.zero : Account :=
  ⟨"", "", false, 0, 0, 0, [], [], [], 0, false, false, "", "", ""⟩

/-- `landingControllerState`: the grants in the order in which the map is iterated, and the accounts. -/
structure Controller where
  grants : List ControllerGrant
  accounts : String → Option Account

def Controller.account (c : Controller) (id : String) : Account := (c.accounts id).getD .zero

def Controller.setAccount (c : Controller) (id : String) (account : Account) : Controller :=
  { c with accounts := fun key => if key = id then some account else c.accounts key }

/-- The stored journal, the copy of it that an operation works on, and whether the next saves succeed. -/
structure Journal where
  stored : Controller
  state : Controller
  outcomes : List Bool

abbrev Op := EStateM String Journal

def setAccount (id : String) (account : Account) : Op PUnit :=
  modify fun j => { j with state := j.state.setAccount id account }

def Journal.save (j : Journal) : Journal :=
  { j with stored := j.state, outcomes := j.outcomes.tail }

def saveLandingController : Op PUnit := do
  let j ← get
  if j.outcomes.head? = some false then
    modify fun j => { j with outcomes := j.outcomes.tail }
    throw "agent: cannot save landing account journal"
  else modify Journal.save

/-! ## Panel -/

structure ClientView where
  email : String
  usedBytes : Int64
  totalBytes : Int64
  enabled : Bool

/-- What the panel answers during an operation. -/
structure Panel where
  /-- `listThreeXUIClients`. -/
  clients : Option (List ClientView)
  /-- `landing.Identity` of the client that the panel has under an email. -/
  identity : String → Option String
  /-- The limit of a client, after the old one, is confirmed. -/
  confirm : String → QuotaLimit → QuotaLimit → Int64 → Except String Unit

/-- The last client of the list with this email. -/
def Panel.client (panel : Panel) (email : String) : Option ClientView :=
  (panel.clients.getD []).reverse.find? (·.email == email)

/-! ## Names -/

/-- A map entry is set. -/
def setName (names : List (String × String)) (id user : String) : List (String × String) :=
  if names.any (·.1 == id) then names.map fun name => if name.1 == id then (id, user) else name
  else names ++ [(id, user)]

/-- The fixed identity is in use. -/
def ControllerGrant.current (g : ControllerGrant) : Bool :=
  (g.phase == .ready || g.phase == .activating) && g.grant.mode == .fixed

/-- The identities of an account and the emails of their clients.  A formerly fixed identity stays
accounted for. -/
def landingAccountNames (c : Controller) (parentID : String) :
    Except String (List (String × String)) := do
  let account ← fetch (c.accounts parentID) "agent: invalid shared account ownership"
  require (account.id == parentID && account.email != "") "agent: invalid shared account ownership"
  return c.grants.foldl (fun names g =>
    if g.grant.parentID == parentID &&
        (g.current || account.members.any (·.id == g.grant.fixedIdentity))
    then setName names g.grant.fixedIdentity g.grant.fixedUser else names) [(parentID, account.email)]

/-! ## Limits -/

/-- A limit that takes budget away. -/
def QuotaLimit.decreases (limit old : QuotaLimit) : Bool :=
  !limit.enabled || (0 < limit.total && (old.total == 0 || limit.total < old.total))

def enforceLimit (panel : Panel) (account : Account) (names : List (String × String))
    (decreaseOnly : Bool) (limit : QuotaLimit) : Except String Unit := do
  let email ← fetch (names.lookup limit.id) "agent: pending budget identity is unavailable"
  let old ← fetch (account.limits.reverse.find? (·.id == limit.id))
    "agent: previous budget is unavailable"
  if decreaseOnly != QuotaLimit.decreases limit old then return ()
  else panel.confirm email old limit account.pendingExpiry

/-- The limits that are enforced: none is on while the account is blocked. -/
def Account.targets (account : Account) : List QuotaLimit :=
  if account.blocked then account.pendingLimits.map fun limit => { limit with enabled := false }
  else account.pendingLimits

/-- Reductions are confirmed before any budget is released. -/
def applyLandingQuotaPlan (panel : Panel) (parentID : String) : Op PUnit := do
  let j ← get
  let account := j.state.account parentID
  let names ← attempt (landingAccountNames j.state parentID)
  attempt (account.targets.forM (enforceLimit panel account names true))
  attempt (account.targets.forM (enforceLimit panel account names false))
  setAccount parentID
    { account with limits := account.targets, pendingLimits := [], pendingExpiry := 0 }
  saveLandingController

/-! ## Observation -/

/-- What is collected while the clients of an account are visited. -/
structure Visit where
  counters : List (String × Int64)
  members : List QuotaMember
  limits : List QuotaLimit

/-- An identity without its client blocks the account. -/
def visitClient (panel : Panel) (v : Visit) (name : String × String) : Option Visit := do
  let client ← panel.client name.2
  guard (panel.identity name.2 = some name.1)
  let counters := (name.1, client.usedBytes) :: v.counters
  if v.members.any (·.id == name.1) then return { v with counters }
  else
    return ⟨counters, v.members ++ [⟨name.1, 0, 0, false⟩],
      v.limits ++ [⟨name.1, client.totalBytes, client.enabled⟩]⟩

/-- The parent is active, and a fixed identity as the last of its grants says. -/
def memberActive (grants : List ControllerGrant) (parentID id : String) : Bool :=
  grants.foldl (fun active g =>
    if g.grant.parentID == parentID && g.grant.fixedIdentity == id then
      (g.phase == .ready || g.phase == .activating) && g.grant.enabled && g.grant.mode == .fixed
    else active) (id == parentID)

def activateMembers (active : String → Bool) (members : List QuotaMember) : List QuotaMember :=
  members.map fun m => { m with active := active m.id }

/-- `int64(account.ResetDays) * int64(24*time.Hour/time.Millisecond)`. -/
def Account.period (account : Account) : Int64 := account.resetDays * 86400000

/-- The account is on and its period has ended. -/
def Account.due (account : Account) (now : Int64) : Bool :=
  account.enabled && !account.blocked && 0 < account.resetDays && 0 < account.expiry &&
    account.expiry ≤ now

def Account.rollOver (account : Account) (now : Int64) : Account :=
  if account.due now then
    { account with
      expiry := account.expiry + ((now - account.expiry) / account.period + 1) * account.period
      members := resetQuota account.members }
  else account

/-- The account with its members observed, or nothing if it has to be blocked. -/
def observedAccount (panel : Panel) (now : Int64) (grants : List ControllerGrant) (parentID : String)
    (names : List (String × String)) (account : Account) : Option Account := do
  let v ← names.foldlM (visitClient panel) ⟨[], account.members, account.limits⟩
  let members ← (observeQuota v.members fun id => v.counters.lookup id).toOption
  let members := activateMembers (memberActive grants parentID) members
  return Account.rollOver { account with members, limits := v.limits, blocked := false } now

/-- The account is on and has not expired. -/
def Account.open (account : Account) (now : Int64) : Bool :=
  account.enabled && !account.blocked && (account.expiry == 0 || now < account.expiry)

def Account.projectLimits (account : Account) (now : Int64) :
    Except String (List QuotaLimit × Int64) :=
  allocateQuota account.total (account.open now) account.members

/-- Fails closed: the clients of the account are switched off. -/
def blockLandingAccount (parentID : String) : Op PUnit := do
  let j ← get
  setAccount parentID { j.state.account parentID with blocked := true }
  saveLandingController
  throw "agent: shared account requires reconciliation; renewal is blocked"

/-- Limits that were journaled but not confirmed. -/
def finishPending (panel : Panel) (account : Account) (parentID : String) : Op PUnit :=
  if account.pendingLimits.isEmpty then pure ⟨⟩ else applyLandingQuotaPlan panel parentID

/-- The new limits are journaled and then enforced. -/
def journalLimits (panel : Panel) (now : Int64) (parentID : String) (account : Account) :
    Op PUnit := do
  let projected ← attempt (account.projectLimits now)
  setAccount parentID { account with pendingLimits := projected.1, pendingExpiry := account.expiry }
  saveLandingController
  applyLandingQuotaPlan panel parentID

def observeAccount (panel : Panel) (now : Int64) (parentID : String) : Op PUnit := do
  let j ← get
  let _ ← attempt (fetch panel.clients "agent: shared traffic inventory is unavailable")
  let names ← attempt (landingAccountNames j.state parentID)
  match observedAccount panel now j.state.grants parentID names (j.state.account parentID) with
  | none => blockLandingAccount parentID
  | some account => journalLimits panel now parentID account

def syncLandingAccount (panel : Panel) (now : Int64) (parentID : String) : Op PUnit := do
  let j ← get
  let account ← attempt
    (fetch (j.state.accounts parentID) "agent: shared traffic account is unavailable")
  if account.deleted then return ⟨⟩
  else
    finishPending panel account parentID
    observeAccount panel now parentID

/-! ## Commands -/

inductive CommandAction where
  | update | setEnabled | resetTraffic | delete
  | other (name : String)
deriving DecidableEq, Repr

/-- `ThreeXUIClientCommandTask`, with the answer of `clientInboundsAvailable` for its entries. -/
structure ClientCommand where
  managedParentID : String
  operationKey : String
  action : CommandAction
  email : String
  newEmail : String
  totalBytes : Int64
  expiryTime : Int64
  resetDays : Int64
  enabled : Bool
  inboundsAvailable : Bool

/-- What the panel answers to the writes of a command. -/
structure NativeWrites where
  /-- The client of an identity is gone. -/
  delete : String → Except String Unit
  /-- The client of the parent still has its identity. -/
  parent : Except String Unit
  /-- The writes of an update are confirmed. -/
  update : Except String Unit

def ClientCommand.supported (command : ClientCommand) : Bool :=
  command.managedParentID != "" && command.operationKey != "" &&
    (command.action == .update || command.action == .setEnabled || command.action == .resetTraffic ||
      command.action == .delete)

/-- The new plan of the account. -/
def Account.change (account : Account) (command : ClientCommand) : Except String Account :=
  match command.action with
  | .update => do
      require command.inboundsAvailable "agent: selected entries are unavailable"
      return { account with email := command.newEmail, total := command.totalBytes,
                            expiry := command.expiryTime, resetDays := command.resetDays }
  | .setEnabled => .ok { account with enabled := command.enabled }
  | .resetTraffic => .ok { account with members := resetQuota account.members }
  | .delete => .ok { account with enabled := false, deleted := true }
  | .other _ => .ok account

/-- Only an account that is deleted is not observed first. -/
def syncUnlessDelete (panel : Panel) (now : Int64) (command : ClientCommand) (accountID : String) :
    Op PUnit :=
  if command.action = .delete then pure ⟨⟩ else syncLandingAccount panel now accountID

/-- The new plan is journaled before the panel is written; a replay must not change it again. -/
def journalIntent (panel : Panel) (now : Int64) (digest : String) (command : ClientCommand)
    (account : Account) : Op PUnit :=
  if account.pendingOperation ≠ "" then
    attempt (require (account.operationDigest == digest)
      "agent: finish the pending shared account operation first")
  else do
    attempt (require (!account.deleted && account.email == command.email)
      "agent: shared parent ownership changed")
    syncUnlessDelete panel now command account.id
    let j ← get
    let changed ← attempt ((j.state.account account.id).change command)
    setAccount changed.id
      { changed with blocked := false, pendingOperation := command.operationKey, operationDigest := digest }
    saveLandingController

/-- The grants of an account after its deletion. -/
def revokeGrants (parentID : String) (grants : List ControllerGrant) : List ControllerGrant :=
  grants.map fun g =>
    if g.grant.parentID = parentID then
      { g with grant := { g.grant with enabled := false }, phase := .revoked }
    else g

/-- The grants of an account whose email has changed. -/
def renameBase (parentID email : String) (grants : List ControllerGrant) : List ControllerGrant :=
  grants.map fun g =>
    if g.grant.parentID = parentID then { g with grant := { g.grant with baseUser := email } } else g

def deleteClients (native : NativeWrites) (parentID : String) : Op PUnit := do
  let j ← get
  let names ← attempt (landingAccountNames j.state parentID)
  let children := ((names.map Prod.fst).filter (· != parentID)).insertionSort (· ≤ ·)
  attempt ((children ++ [parentID]).forM native.delete)
  modify fun j => { j with state := { j.state with grants := revokeGrants parentID j.state.grants } }

def updateClients (native : NativeWrites) (command : ClientCommand) (account : Account) : Op PUnit :=
  if command.action = .update then do
    attempt native.update
    modify fun j => { j with
      state := { j.state with grants := renameBase account.id account.email j.state.grants } }
    saveLandingController
  else pure ⟨⟩

/-- The journaled plan is carried out. -/
def executeIntent (panel : Panel) (now : Int64) (native : NativeWrites) (command : ClientCommand)
    (account : Account) : Op PUnit :=
  if command.action = .delete then deleteClients native account.id
  else do
    attempt native.parent
    updateClients native command account
    syncLandingAccount panel now account.id

/-- `before` and `after` are the panel and the time of the two observations. -/
def applyLandingParentMutation (fingerprint : ClientCommand → String) (before after : Panel × Int64)
    (native : NativeWrites) (command : ClientCommand) : Op PUnit := do
  attempt (require command.supported "agent: invalid shared account operation")
  let j ← get
  let account ← attempt
    (fetch (j.state.accounts command.managedParentID) "agent: shared parent identity is unavailable")
  let digest := fingerprint { command with operationKey := "" }
  if account.lastOperation = command.operationKey then
    attempt (require (account.operationDigest == digest) "agent: shared operation content changed")
  else
    journalIntent before.1 before.2 digest command account
    let j ← get
    executeIntent after.1 after.2 native command (j.state.account account.id)
    let j ← get
    let finished := j.state.account account.id
    setAccount finished.id { finished with pendingOperation := "", lastOperation := command.operationKey }
    saveLandingController

end Agent
end Vastora
