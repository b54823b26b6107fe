import Vastora.Center.Execution.Model
import Vastora.Library.Guard
import Vastora.Library.Table

/-!
# Grant — sessions, claims and the steps of an Agent process

The operations an Agent process performs on its own grants: it registers its session, claims a task,
consumes the offer, reports its steps, renews or stops, and uploads the result.  Every function is
one transaction of the store; the text comparisons of `expires_at` are the database's.
-/

namespace Vastora
namespace Center

open Library.Guard Library.Pattern Library.Table

/-! ## Statements -/

namespace Store

/-- An update of `task_executions`, rolled back with `err` unless it affects exactly one row. -/
def updateOne (p : Execution → Bool) (f : Execution → Execution) (err : StoreError) (s : Store) :
    Except StoreError Store :=
  match Library.Table.updateOne p f s.executions with
  | some rows => .ok { s with executions := rows }
  | none => .error err

/-- A statement on the table of a feature that must affect exactly one row. -/
def affectOne (st : Statement) (err : StoreError) (s : Store) : Except StoreError Unit :=
  require (s.business.affectsOne st) err

end Store

/-! ## Sessions -/

/-- `controlplane.ExecutionProtocol`. -/
def executionProtocol : Nat := 2

def authenticationFailed : StoreError := .message "center: agent authentication failed"

/-- Rows a replaced process leaves behind: nobody may infer their outcome. -/
def interruptExecution (stamp : String) (e : Execution) : Execution :=
  { e with
    state := .unknown
    lastError := "Agent process changed; verify the previous execution"
    updatedAt := stamp }

/-- The transaction of `RegisterExecutionSession`; the retained results it then recovers are
`projectRetainedExecutionResult` operations of their own. -/
def registerExecutionSession (now : Instant) (agentID credential sessionID : String)
    (protocol : Nat) (s : Store) : Except StoreError Store := do
  require (protocol == executionProtocol && 24 ≤ sessionID.utf8ByteSize &&
    sessionID.utf8ByteSize ≤ 128 && !sessionID.toList.any [' ', '\r', '\n', '\t'].contains)
    .executionAuthorization
  require (s.authenticateAgent agentID credential) authenticationFailed
  if s.hasSession agentID sessionID then
    return s
  require (!s.history.contains (agentID, sessionID)) .executionAuthorization
  return { s with
    executions := update
      (fun e => e.agentID == agentID && e.sessionID != sessionID && e.disposition.isNone &&
        e.state.isOfferedOrRunning)
      (interruptExecution now.format) s.executions
    sessions := Function.update s.sessions agentID (some sessionID)
    history := (agentID, sessionID) :: s.history }

/-! ## The fence in front of a claim -/

section Claim

variable (pf : Platform)

def agentUpdateFailureSuperseded (currentVersion failedTarget : String) : Bool :=
  let current := "v" ++ trimPrefix (trimSpace currentVersion) "v"
  let failed := "v" ++ trimPrefix (trimSpace failedTarget) "v"
  pf.semverIsValid current && pf.semverIsValid failed && 0 ≤ pf.semverCompare current failed

namespace Store

/-- `COALESCE(update_task.target_version,'')` of an execution's update task. -/
def targetVersion (s : Store) (e : Execution) : String :=
  match s.business.update e.taskID with
  | some u => if u.agentID == e.agentID then u.targetVersion else ""
  | none => ""

/-- A terminal update whose target the running version already covers. -/
def updateSuperseded (s : Store) (currentVersion : String) (e : Execution) : Bool :=
  agentUpdateFailureSuperseded pf currentVersion (s.targetVersion e)

def unresolvedExecutionBlocksAgentUpdate (s : Store) (agentID currentVersion : String) : Bool :=
  s.executions.any fun e => e.agentID == agentID && e.isUnresolved &&
    (e.state.isActive || e.kind == .agentDecommission ||
      (e.kind == .agentUpdate && !s.updateSuperseded pf currentVersion e))

def unresolvedExecutionBlocksAgentWork (s : Store) (agentID currentVersion : String) : Bool :=
  s.executions.any fun e => e.agentID == agentID && e.isUnresolved &&
    !(e.kind == .agentUpdate && !e.state.isActive && s.updateSuperseded pf currentVersion e)

end Store

end Claim

/-! ## Superseded landing failures -/

/-- Go's `strings.LastIndex`, in characters. -/
def lastIndex (s sub : List Char) : Option Nat :=
  (List.range (s.length + 1)).reverse.find? fun i => sub.isPrefixOf (s.drop i)

/-- Go's `strconv.ParseInt(s, 10, 64)`. -/
def parseInt (s : List Char) : Option Int :=
  let (negative, digits) := match s with
    | '-' :: rest => (true, rest)
    | '+' :: rest => (false, rest)
    | rest => (false, rest)
  if digits.isEmpty || !digits.all Char.isDigit then none
  else
    let magnitude : Int := digits.foldl (fun n c => 10 * n + (c.toNat - '0'.toNat : Int)) 0
    let value := if negative then -magnitude else magnitude
    if -2 ^ 63 ≤ value ∧ value < 2 ^ 63 then some value else none

/-- The revision at the end of a task id of the form `<pre><node><marker><revision>`; `least` is the
smallest accepted position of the marker behind the prefix. -/
def taskRevision (pre marker : String) (least : Nat) (id : String) : Option Nat := do
  let i ← lastIndex id.toList marker.toList
  guard (hasPrefix id pre && pre.length + least ≤ i)
  let revision ← parseInt (id.toList.drop (i + 2))
  guard (0 < revision)
  return revision.toNat

def landingProxyTaskRevision : String → Option Nat := taskRevision "landing-proxy-" "-r" 1

def landingServerTaskRevision : String → Option Nat := taskRevision "landing-server-" "-r" 1

def tunnelTaskRevision : String → Option Nat := taskRevision "tunnel-" "-r" 1

def gatewayTaskRevision : String → Option Nat := taskRevision "gateway-route-" "-r" 0

def nodeListenerTaskRevision : String → Option Nat := taskRevision "node-listener-" "-r" 0

def gatewayComponentTaskGeneration : String → Option Nat := taskRevision "gateway-component-" "-g" 0

/-- `fmt.Sprintf(pre+"%s"+marker+"%d", nodeID, revision)`. -/
def revisionTaskID (pre marker nodeID : String) (revision : Nat) : String :=
  pre ++ nodeID ++ marker ++ toString revision

def landingProxyTaskID : String → Nat → String := revisionTaskID "landing-proxy-" "-r"

def landingServerTaskID : String → Nat → String := revisionTaskID "landing-server-" "-r"

def tunnelTaskID : String → Nat → String := revisionTaskID "tunnel-" "-r"

def gatewayRouteTaskID : String → Nat → String := revisionTaskID "gateway-route-" "-r"

def nodeListenerTaskID : String → Nat → String := revisionTaskID "node-listener-" "-r"

def gatewayComponentTaskID : String → Nat → String := revisionTaskID "gateway-component-" "-g"

/-- The revision a landing execution was granted for, when its task id is the canonical one. -/
def landingRevision (e : Execution) : Option Nat :=
  match e.kind with
  | .landingProxyApply =>
      (landingProxyTaskRevision e.taskID).filter fun r => e.taskID == landingProxyTaskID e.agentID r
  | .landingServerApply =>
      (landingServerTaskRevision e.taskID).filter fun r => e.taskID == landingServerTaskID e.agentID r
  | _ => none

namespace Store

/-- The stored landing state an execution belongs to. -/
def landingState (s : Store) (e : Execution) : Option LandingState :=
  match e.kind with
  | .landingProxyApply => s.business.landingProxyState e.agentID
  | .landingServerApply => s.business.landingServerState e.agentID
  | _ => none

/-- Reported landing failures with the state they are compared with, proxies before servers. -/
def landingFailures (s : Store) (agentID : String) : List (Execution × LandingState) :=
  let rows (kind : TaskKind) := s.executions.filter fun e => e.kind == kind && e.disposition.isNone &&
    e.state == .failed && e.phase == "reported" && (agentID == "" || e.agentID == agentID)
  (rows .landingProxyApply ++ rows .landingServerApply).filterMap fun e =>
    (s.landingState e).map fun st => (e, st)

end Store

/-- A newer desired revision or attempt exists. -/
def landingSuperseded (e : Execution) (st : LandingState) : Bool :=
  match landingRevision e with
  | none => false
  | some r => !(st.desiredRevision < r || (r == st.desiredRevision && st.attempt ≤ e.attempt))

def supersedeExecution (stamp : String) (st : LandingState) (e : Execution) : Execution :=
  { e with
    disposition := some .superseded
    dispositionNote := "Superseded by landing revision " ++ toString st.desiredRevision ++
      " attempt " ++ toString st.attempt
    dispositionActor := "system"
    disposedAt := stamp
    updatedAt := stamp }

/-- The statement for one candidate of `disposeSupersededLandingExecutionFailures`. -/
def supersedeStep (stamp : String) (rows : List Execution) (c : Execution × LandingState) :
    Except StoreError (List Execution) :=
  if landingSuperseded c.1 c.2 then
    match Library.Table.updateOne
        (fun e => e.id == c.1.id && e.disposition.isNone && e.state == .failed)
        (supersedeExecution stamp c.2) rows with
    | some rows => .ok rows
    | none => .error (.message ("center: superseded landing execution " ++ c.1.id ++
        " changed during recovery"))
  else .ok rows

def disposeSupersededLandingExecutionFailures (agentID stamp : String) (s : Store) :
    Except StoreError Store := do
  let rows ← (s.landingFailures agentID).foldlM (supersedeStep stamp) s.executions
  return { s with executions := rows }

/-! ## Claims -/

def expireExecution (stamp : String) (e : Execution) : Execution :=
  { e with
    state := .unknown
    lastError := "Execution authorization expired; manual verification required"
    updatedAt := stamp }

namespace Store

/-- The expiry statement of `executionClaimAllowed`. -/
def expireExecutions (agentID stamp : String) (s : Store) : Store :=
  { s with
    executions := update
      (fun e => e.agentID == agentID && e.disposition.isNone && e.state.isActive &&
        decide (e.expiresAt ≤ stamp))
      (expireExecution stamp) s.executions }

end Store

section Claim

variable (pf : Platform)

def noRows : StoreError := .message "sql: no rows in result set"

/-- The claim check of an agent whose reinstall is under review: no statement is committed. -/
def reinstallClaimAllowed (agentID : String) (s : Store) : Except StoreError Unit := do
  let id ← s.business.pendingAgentReinstallTask agentID
  let agent ← fetch (s.business.agent agentID) noRows
  if hasPrefix id "node-listener-" then
    discard (s.business.reinstallListenerTask agentID id)
  else if hasPrefix id "reinstall-runtime-" then
    discard (s.business.reinstallRuntimeTask agentID id)
  else if hasPrefix id "reinstall-current-" then
    discard (s.business.reinstallCurrentTask agentID id)
  else
    discard (s.business.validateReinstallPreparation agentID id)
  require (!s.unresolvedExecutionBlocksAgentWork pf agentID agent.version) .executionBlocked

/-- Whether the agent may claim once expiry and supersession are committed. -/
def claimVerdict (agentID : String) (s : Store) : Except StoreError Bool :=
  if s.executions.any fun e => e.agentID == agentID && e.isUnresolved then do
    let agent ← fetch (s.business.agent agentID) noRows
    let ordinaryWorkBlocked := s.unresolvedExecutionBlocksAgentWork pf agentID agent.version
    let explicitRecovery := s.business.xrayRecoveryPending agentID
    let independentAgentUpdate := s.business.updatePending agentID &&
      !s.unresolvedExecutionBlocksAgentUpdate pf agentID agent.version
    return !ordinaryWorkBlocked || explicitRecovery || independentAgentUpdate
  else .ok true

/-- `executionClaimAllowed`: the committed store and whether the claim may go on. -/
def executionClaimAllowed (now : Instant) (agentID sessionID : String) (s : Store) :
    Except StoreError (Store × Bool) := do
  require (!s.business.executionClaimsPaused) .executionBlocked
  require (s.hasSession agentID sessionID) .executionAuthorization
  if s.business.tailscaleAwaitingDecision agentID then
    return (s, true)
  if s.business.agentReinstallBlocked agentID then
    reinstallClaimAllowed pf agentID s
    return (s, true)
  let s' ← disposeSupersededLandingExecutionFailures agentID now.format
    (s.expireExecutions agentID now.format)
  let allowed ← claimVerdict pf agentID s'
  return (s', allowed)

/-- The command row of the task has the given kind. -/
def commandIs (kind : String) (agentID : String) (task : AgentTask) (s : Store) : Bool :=
  task.kind == .applicationCommand &&
    (s.business.command task.id).any fun c => c.agentID == agentID && c.kind == kind

/-- A command payload must be queued, present, offered once where `once` says so, and equal to what
Center expects. -/
def checkCommandPayload (queued : Bool) (payload : Option String) (once : Bool) (task : AgentTask)
    (expected : Except StoreError String) : Except StoreError Unit :=
  if queued || payload.isSome then do
    require (queued && payload.isSome && (!once || (task.attempt == 1 && !task.reconcile)))
      .executionAuthorization
    let expected ← expected
    require (payload == some expected) .executionAuthorization
  else .ok ()

/-- The checks `persistExecutionAuthorization` makes of the task against the reinstall reviews. -/
def checkReinstallTask (agentID : String) (task : AgentTask) (s : Store) :
    Except StoreError Unit := do
  let b := s.business
  if task.kind == .applicationCommand then
    require (!b.reinstallCommandTargetBlocked agentID task.id) .executionBlocked
  checkCommandPayload (commandIs "meridian.recovery.acceptance" agentID task s)
    task.meridianAcceptance true task (b.validateReinstallAcceptance agentID task.id)
  checkCommandPayload (commandIs "pulse.node.reporting" agentID task s)
    task.senulunReporting true task (b.validateReinstallMonitorReporting agentID task.id)
  checkCommandPayload (commandIs "pulse.node.rotate" agentID task s)
    task.senulunRotation true task (b.validateReinstallMonitorRotation agentID task.id)
  checkCommandPayload (commandIs "pulse.enrollment.inspect" agentID task s)
    task.senulunInspection false task (b.validateReinstallInspection agentID task.id)
  let preparation ← b.validateReinstallPreparation agentID task.id
  if preparation then
    require (b.preparationTask task.id == some task) .executionAuthorization
  let restoredMonitor ← b.reinstallMonitorRestoreTask agentID task.id
  let currentRestore ← b.reinstallCurrentTask agentID task.id
  require (currentRestore.all (· == task)) .executionAuthorization
  if restoredMonitor.isSome || (task.senulunRestore.isSome && currentRestore.isNone) then
    require (task.senulunRestore.isSome && restoredMonitor == some task) .executionAuthorization
  let runtime ← b.reinstallRuntimeTask agentID task.id
  require (runtime.all (· == task)) .executionAuthorization
  let listener ← b.reinstallListenerTask agentID task.id
  require (listener.all (· == task)) .executionAuthorization
  require (!b.agentReinstallBlocked agentID || preparation || runtime.isSome || listener.isSome ||
    restoredMonitor.isSome || currentRestore.isSome) .executionBlocked

/-- The fence of the task's kind: updates, ordinary work, and none for the Xray kinds. -/
def checkFence (agentID : String) (task : AgentTask) (s : Store) : Except StoreError Unit :=
  if task.kind == .agentUpdate then do
    require (s.business.agentUpdateAllowed agentID) .executionBlocked
    let agent ← fetch (s.business.agent agentID) noRows
    require (!s.unresolvedExecutionBlocksAgentUpdate pf agentID agent.version) .executionBlocked
  else if !task.kind.isXray then do
    let agent ← fetch (s.business.agent agentID) noRows
    require (!s.unresolvedExecutionBlocksAgentWork pf agentID agent.version) .executionBlocked
  else .ok ()

/-- The row of a fresh grant. -/
def authorizedExecution (now : Instant) (agentID sessionID id : String) (task : AgentTask) :
    Execution :=
  { id := id
    agentID := agentID
    taskID := task.id
    kind := task.kind
    attempt := task.attempt
    sessionID := sessionID
    digest := pf.taskDigest task
    sealedTask := .task task
    sealedResult := none
    state := .offered
    phase := "authorized"
    lastError := ""
    expiresAt := (now.add taskLeaseDuration).format
    createdAt := now.format
    updatedAt := now.format
    disposition := none
    dispositionNote := ""
    dispositionActor := ""
    disposedAt := ""
    identityRetiredAt := "" }

namespace Store

/-- `INSERT INTO task_executions`, subject to the primary key and `UNIQUE(task_id, attempt)`. -/
def insertExecution (e : Execution) (s : Store) : Except StoreError Store :=
  if s.executions.any fun r => r.id == e.id || (r.taskID == e.taskID && r.attempt == e.attempt) then
    .error (.message "UNIQUE constraint failed")
  else .ok { s with executions := s.executions ++ [e] }

end Store

/-- `persistExecutionAuthorization`; `id` is the drawn random token. -/
def persistExecutionAuthorization (now : Instant) (agentID sessionID id : String)
    (task : AgentTask) (s : Store) : Except StoreError Store := do
  require (task.id != "" && 0 < task.attempt) .executionAuthorization
  checkReinstallTask agentID task s
  require (!s.business.executionClaimsPaused) .executionBlocked
  checkFence pf agentID task s
  require (s.hasSession agentID sessionID) .executionBlocked
  s.insertExecution (authorizedExecution pf now agentID sessionID id task)

end Claim

end Center
end Vastora
