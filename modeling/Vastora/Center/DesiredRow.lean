import Vastora.Center.Execution.Model
import Vastora.Library.Fencing
import Vastora.Library.Guard

/-!
# DesiredRow — what Center wants of a node, and the results reported for it

Center keeps what it wants of a node in a row of `gateway_states`, `node_listener_states` or
`cloudflare_tunnels`.  A row is queued under a new revision, claimed for an attempt and projected from the
result of that attempt; leases end, results are confirmed later and operators give attempts up or put them
back.  The tables share these statements and differ in how a row is queued and in the order of the checks a
result has to pass.  While a node is reinstalled, its listener is queued, claimed and completed by other
functions on the same row.
-/

namespace Vastora
namespace Center
namespace Desired

open Library Library.Guard Library.Fencing

/-! ## Rows -/

inductive Status where
  | pending | applying | ready | failed | stopped
deriving DecidableEq, Repr

/-- A stored `desired_json`. -/
structure Document (α : Type) where
  revision : Int
  body : α
deriving DecidableEq, Repr

/-- The text `{}`. -/
def Document.zero (α : Type) [Inhabited α] : Document α := ⟨0, default⟩

structure Row (α : Type) where
  desiredRevision : Int
  appliedRevision : Int
  desired : Document α
  status : Status
  attempt : Int
  leaseExpiresAt : String
  lastError : String
deriving DecidableEq, Repr

/-- The part of a task that says which state it applies. -/
abbrev Task (α : Type) : Type := Ticket (Document α)

section Statements

variable {α : Type}

namespace Row

/-- `desired_revision > applied_revision AND status = 'pending'`. -/
def isPending (row : Row α) : Bool :=
  decide (row.appliedRevision < row.desiredRevision) && row.status == .pending

/-- `desired_revision = ? AND attempt = ?`. -/
def carries (revision attempt : Int) (row : Row α) : Bool :=
  row.desiredRevision == revision && row.attempt == attempt

/-- The statement of a claim. -/
def take (now : Instant) (revision attempt : Int) (row : Row α) : Option (Row α) :=
  if row.carries revision attempt ∧ row.status = .pending then
    some { row with
      status := .applying
      attempt := row.attempt + 1
      leaseExpiresAt := (now.add taskLeaseDuration).format }
  else none

/-- A claim whose task could not be delivered. -/
def release (revision attempt : Int) (row : Row α) : Option (Row α) :=
  if row.carries revision attempt ∧ row.status = .applying then
    some { row with status := .pending, leaseExpiresAt := "" }
  else none

/-- `RenewTaskLease`. -/
def renew (now : Instant) (revision attempt : Int) (row : Row α) : Option (Row α) :=
  if 0 < attempt ∧ row.carries revision attempt ∧ row.status = .applying ∧ now.format < row.leaseExpiresAt then
    some { row with leaseExpiresAt := (now.add taskLeaseDuration).format }
  else none

/-- The leases of an Agent that has restarted end now. -/
def interrupt (now : Instant) (row : Row α) : Row α :=
  if row.status = .applying then { row with leaseExpiresAt := now.format } else row

/-- `recoverExpiredTasks`. -/
def expire (now : Instant) (row : Row α) : Row α :=
  if row.status = .applying ∧ row.leaseExpiresAt ≠ "" ∧ row.leaseExpiresAt ≤ now.format then
    { row with
      status := .failed
      leaseExpiresAt := ""
      lastError := "Execution interrupted; manual verification required" }
  else row

/-- `executionConfirmationStatement`: a retained result is projected once more. -/
def reactivate (revision attempt : Int) (row : Row α) : Option (Row α) :=
  if row.carries revision attempt ∧ (row.status = .applying ∨ row.status = .failed) then
    some { row with status := .applying }
  else none

/-- `executionAbandonStatement` and `executionRequeueStatement`. -/
def dispose (status : Status) (revision attempt : Int) (row : Row α) : Option (Row α) :=
  if row.carries revision attempt ∧
      (row.status = .applying ∨ row.status = .failed ∨ row.status = .pending) then
    some { row with status := status, leaseExpiresAt := "" }
  else none

def abandon : Int → Int → Row α → Option (Row α) := dispose .failed

def requeue : Int → Int → Row α → Option (Row α) := dispose .pending

/-- `ON CONFLICT DO UPDATE` of a queued state. -/
def queued (document : Document α) (row : Row α) : Row α :=
  { row with
    desiredRevision := document.revision
    desired := document
    status := .pending
    leaseExpiresAt := ""
    lastError := "" }

/-- The row that a first queued state inserts. -/
def inserted (document : Document α) : Row α := ⟨document.revision, 0, document, .pending, 0, "", ""⟩

end Row

/-- `SELECT desired_revision`, zero where there is no row. -/
def current (row : Option (Row α)) : Int := row.elim 0 Row.desiredRevision

def upsert (document : Document α) : Option (Row α) → Row α
  | none => Row.inserted document
  | some row => row.queued document

/-- A claim of a row: `check` is what stands between reading the row and claiming it. -/
def claimRow (check : Int → Document α → Except String Unit) (changed : String) (now : Instant)
    (row : Row α) : Except String (Option (Task α × Row α)) := do
  if row.isPending then
    check row.desiredRevision row.desired
    let next ← fetch (row.take now row.desiredRevision row.attempt) changed
    return some (⟨row.desiredRevision, row.attempt + 1, row.desired⟩, next)
  else return none

/-- The row with a result in it: the revision is applied, or the error is kept. -/
def settledRow (applied : Int) (taskError : String) (succeeded : Bool) (row : Row α) : Row α :=
  if succeeded then
    { row with appliedRevision := applied, status := .ready, leaseExpiresAt := "", lastError := "" }
  else { row with status := .failed, leaseExpiresAt := "", lastError := taskError }

end Statements

def errStaleTaskLease : String := "center: task lease is stale or expired"

def errExecutionAuthorization : String := "center: execution authorization is no longer valid"

/-! ## `gateway_states` -/

section Gateway

variable {α : Type} (valid : Document α → Bool)

def queueGatewayState (desiredGatewayState : Int → Except String α) (row : Option (Row α)) :
    Except String (Option (Row α)) := do
  let revision := current row + 1
  let body ← desiredGatewayState revision
  return some (upsert ⟨revision, body⟩ row)

/-- The gateway part of `ClaimTask`. -/
def claimGatewayTask (gatewayCertificates : Except String Unit) :
    Instant → Row α → Except String (Option (Task α × Row α)) :=
  claimRow (fun revision state => do
      require (valid state && state.revision == revision) "center: invalid stored gateway desired state"
      gatewayCertificates)
    "center: gateway desired state changed while claiming"

/-- `rest` are the statements on other tables and the commit. -/
def projectGatewayState (rest : Except String Unit) (taskError : String) (revision expectedAttempt : Int)
    (succeeded : Bool) (row : Row α) : Except String (Option (Row α)) :=
  if revision ≤ row.appliedRevision then return none
  else if revision < row.desiredRevision then return none
  else if revision ≠ row.desiredRevision then throw "center: stale gateway result"
  else if row.status ≠ .applying then throw "center: gateway task is not active"
  else if expectedAttempt ≤ 0 ∨ expectedAttempt ≠ row.attempt then throw "center: stale gateway result"
  else do
    rest
    return some (settledRow revision taskError succeeded row)

end Gateway

/-! ## `node_listener_states` -/

section NodeListener

variable {α : Type} (validateCenterNodeListenerState : Document α → Except String Unit)

def saveNodeListenerState (state : Document α) (row : Option (Row α)) :
    Except String (Option (Row α)) := do
  validateCenterNodeListenerState state
  return some (upsert state row)

def queueNodeListenerState (desiredNodeListenerState : Int → Except String α)
    (row : Option (Row α)) : Except String (Option (Row α)) := do
  let revision := current row + 1
  let body ← desiredNodeListenerState revision
  saveNodeListenerState validateCenterNodeListenerState ⟨revision, body⟩ row

def claimNodeListenerTask : Instant → Row α → Except String (Option (Task α × Row α)) :=
  claimRow (fun revision state =>
      require ((validateCenterNodeListenerState state).isOk && state.revision == revision)
        "center: invalid stored node listener desired state")
    "center: node listener task changed while claiming"

/-- `math.MaxInt64`. -/
def maxInt64 : Int := 2 ^ 63 - 1

/-- `reviewed` are the checks of the approved recovery, which tell whether its listener is queued already; `rest` are
the statements on other tables. -/
def queueAgentReinstallListener (reviewed : Except String Bool) (buildNodeListenerState : Int → Except String α)
    (rest : Except String Unit) (row : Option (Row α)) : Except String (Option (Row α)) := do
  if ← reviewed then return row
  else
    let revision := current row
    let attempt := row.elim 0 Row.attempt
    require (!(decide (revision < 0) || revision == maxInt64 || decide (attempt < 0) || attempt == maxInt64))
      errExecutionAuthorization
    let body ← buildNodeListenerState (revision + 1)
    let next ← saveNodeListenerState validateCenterNodeListenerState ⟨revision + 1, body⟩ row
    rest
    return next

inductive ListenerInput (α : Type) where
  | queue (desiredNodeListenerState : Int → Except String α)
  | reinstall (reviewed : Except String Bool) (buildNodeListenerState : Int → Except String α)
      (rest : Except String Unit)

def queueListener : ListenerInput α → Option (Row α) → Except String (Option (Row α))
  | .queue build, row => queueNodeListenerState validateCenterNodeListenerState build row
  | .reinstall reviewed build rest, row =>
      queueAgentReinstallListener validateCenterNodeListenerState reviewed build rest row

/-- The revision and the attempt of the task that `reinstallListenerTask` finds approved. -/
abbrev ReinstallTask : Type := Except String (Option (Int × Int))

def claimReinstallListener (reinstallListenerTask : ReinstallTask) (rest : Except String Unit) (now : Instant)
    (row : Row α) : Except String (Option (Task α × Row α)) := do
  let found ← reinstallListenerTask
  let expected ← fetch found errExecutionAuthorization
  let claimed ← claimNodeListenerTask validateCenterNodeListenerState now row
  let (task, next) ← fetch claimed errExecutionAuthorization
  require (expected == (task.revision, task.attempt)) errExecutionAuthorization
  rest
  return some (task, next)

/-- A claim, during a reinstall that of the approved task. -/
def claimListener : Option (ReinstallTask × Except String Unit) → Instant → Row α →
    Except String (Option (Task α × Row α))
  | none => claimNodeListenerTask validateCenterNodeListenerState
  | some (task, rest) => claimReinstallListener validateCenterNodeListenerState task rest

def completeReinstallListener (reinstallListenerTask : ReinstallTask) (rest : Except String Unit) (taskError : String)
    (revision attempt : Int) (succeeded : Bool) (row : Row α) : Except String (Option (Row α)) := do
  let task ← reinstallListenerTask
  require (task.map Prod.snd == some attempt) errExecutionAuthorization
  require (row.carries revision attempt && row.status == .applying) errExecutionAuthorization
  rest
  return some (settledRow row.desiredRevision taskError succeeded row)

structure ListenerReport where
  /-- The node is blocked by a reinstall, or the task is one of its recovery. -/
  reinstall : Option ReinstallTask
  taskError : String
  rest : Except String Unit

def projectNodeListenerState (report : ListenerReport) (revision expectedAttempt : Int) (succeeded : Bool)
    (row : Row α) : Except String (Option (Row α)) :=
  match report.reinstall with
  | some task => completeReinstallListener task report.rest report.taskError revision expectedAttempt succeeded row
  | none =>
      if revision ≤ row.appliedRevision ∨ revision < row.desiredRevision ∨
          (revision = row.desiredRevision ∧ expectedAttempt < row.attempt) then return none
      else if revision ≠ row.desiredRevision ∨ row.attempt < expectedAttempt then
        throw "center: stale node listener result"
      else if row.status ≠ .applying then return none
      else do
        report.rest
        return some (settledRow row.desiredRevision report.taskError succeeded row)

end NodeListener

/-! ## `cloudflare_tunnels` -/

section Tunnel

variable {α : Type} [Inhabited α] (valid : Document α → Bool)

inductive TunnelInput (α : Type) where
  /-- The tunnel has been created at Cloudflare. -/
  | create
  | queue (tunnelIngressForNode : Except String α)

/-- A row begins stopped, with nothing queued. -/
def createTunnel : Row α := ⟨0, 0, Document.zero α, .stopped, 0, "", ""⟩

/-- Attempts are counted anew for every revision. -/
def queueTunnelState (tunnelIngressForNode : Except String α) (row : Option (Row α)) :
    Except String (Option (Row α)) := do
  let row ← fetch row "center: configure Cloudflare before creating a Tunnel publication"
  let ingress ← tunnelIngressForNode
  return some { row.queued ⟨row.desiredRevision + 1, ingress⟩ with attempt := 0 }

def queueTunnel : TunnelInput α → Option (Row α) → Except String (Option (Row α))
  | .create, none => return some createTunnel
  | .create, some _ => throw "center: save Cloudflare Tunnel"
  | .queue ingress, row => queueTunnelState ingress row

def claimTunnelTask (token : Except String Unit) :
    Instant → Row α → Except String (Option (Task α × Row α)) :=
  claimRow (fun revision state => do
      require (state.revision == revision && valid state) "center: invalid stored Tunnel desired state"
      token)
    "center: Tunnel desired state changed while claiming"

/-- The row with a result in it; here a success keeps the reported text as well. -/
def settledTunnel (revision : Int) (taskError : String) (succeeded : Bool) (row : Row α) : Row α :=
  { row with
    appliedRevision := if succeeded then revision else row.appliedRevision
    status := if succeeded then .ready else .failed
    leaseExpiresAt := ""
    lastError := taskError }

def projectTunnelState (rest : Except String Unit) (taskError : String) (revision expectedAttempt : Int)
    (succeeded : Bool) (row : Row α) : Except String (Option (Row α)) :=
  if revision ≤ row.appliedRevision then return none
  else if revision < row.desiredRevision ∨
      (revision = row.desiredRevision ∧ expectedAttempt < row.attempt) then return none
  else if revision ≠ row.desiredRevision ∨ row.attempt < expectedAttempt then
    throw "center: stale Tunnel result"
  else if row.status ≠ .applying then return none
  else do
    rest
    return some (settledTunnel revision taskError succeeded row)

end Tunnel

end Desired
end Center
end Vastora
