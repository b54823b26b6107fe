import Vastora.Center.Execution.Grant

/-!
# Progress — consuming a grant, step by step

From the offer to the reported result: `startExecution` consumes the offer, `checkExecutionStep`
records a phase, `renewExecution` extends the lease, `stopExecution` gives up, `storeExecutionResult`
retains the evidence and `finalizeExecution` publishes it.  The last section holds the leases of the
queued tasks, which expire by the same text comparison.
-/

namespace Vastora
namespace Center

open Library.Guard Library.Pattern Library.Table

/-! ## Steps of a running execution -/

/-- The consumed offer. -/
def startedExecution (now : Instant) (e : Execution) : Execution :=
  { e with
    state := .running
    phase := "started"
    updatedAt := now.format
    expiresAt := (now.add taskLeaseDuration).format }

/-- A recorded step, with its renewed lease. -/
def steppedExecution (now : Instant) (phase : String) (e : Execution) : Execution :=
  { e with
    phase := phase
    updatedAt := now.format
    expiresAt := (now.add taskLeaseDuration).format }

def renewedExecution (now : Instant) (e : Execution) : Execution :=
  { e with
    expiresAt := (now.add taskLeaseDuration).format
    updatedAt := now.format }

/-- The statement part of `StartExecution`.  When the origin of a tunnel cannot be prepared
afterwards, the source calls `StopExecution`, which is an operation of its own. -/
def startExecution (now : Instant) (agentID sessionID id digest : String) (s : Store) :
    Except StoreError Store :=
  s.updateOne
    (fun e => e.id == id && e.agentID == agentID && e.sessionID == sessionID &&
      e.digest == digest && e.state == .offered && e.disposition.isNone &&
      decide (now.format < e.expiresAt) && s.hasSession agentID sessionID)
    (startedExecution now) .executionAuthorization

def executionPhases : List String := ["prepare", "apply", "persist", "report", "handoff"]

def checkExecutionStep (now : Instant) (agentID sessionID id phase : String) (s : Store) :
    Except StoreError Store := do
  require (executionPhases.contains phase) (.message "center: invalid execution phase")
  s.updateOne
    (fun e => e.id == id && e.agentID == agentID && e.sessionID == sessionID &&
      e.state == .running && e.phase != "result_received" && e.disposition.isNone &&
      decide (now.format < e.expiresAt) && s.hasSession agentID sessionID &&
      (e.kind != .nodeOSReinstall || (e.phase == "started" && phase == "apply")))
    (steppedExecution now phase) .executionAuthorization

def renewExecution (now : Instant) (agentID sessionID id : String) (s : Store) :
    Except StoreError Store :=
  s.updateOne
    (fun e => e.id == id && e.agentID == agentID && e.sessionID == sessionID &&
      e.state == .running && e.phase != "result_received" && e.disposition.isNone &&
      decide (now.format < e.expiresAt) && s.hasSession agentID sessionID)
    (renewedExecution now) .executionAuthorization

section Reports

variable (pf : Platform)

/-- `controlplane.SafeError`, cut to the column's length. -/
def errorMessage (taskError : String) : String :=
  String.ofList ((pf.safeError taskError).toList.take 1024)

def stoppedExecution (now : Instant) (unknown : Bool) (taskError : String) (e : Execution) :
    Execution :=
  { e with
    state := if unknown then .unknown else .failed
    lastError := errorMessage pf taskError
    updatedAt := now.format }

def stopExecution (now : Instant) (agentID sessionID id : String) (unknown : Bool)
    (taskError : String) (s : Store) : Except StoreError Store :=
  s.updateOne
    (fun e => e.id == id && e.agentID == agentID && e.sessionID == sessionID &&
      e.state.isOfferedOrRunning && e.phase != "result_received" && e.disposition.isNone &&
      s.hasSession agentID sessionID)
    (stoppedExecution pf now unknown taskError) .executionAuthorization

/-- The arguments of `StoreExecutionResult` that become evidence. -/
structure Report where
  result : RawMessage
  succeeded : Bool
  unknown : Bool
  taskError : String
  runtimeGeneration : Option Int
  hostUpdateHelper : Bool
deriving DecidableEq, Repr

def Report.evidence (r : Report) : Evidence :=
  { result := r.result
    succeeded := r.succeeded
    unknown := r.unknown
    applicationRuntimeGeneration := r.runtimeGeneration }

/-- The row that retains the evidence of a report. -/
def reportedExecution (now : Instant) (r : Report) (e : Execution) : Execution :=
  { e with
    sealedResult := some r.evidence
    phase := "result_received"
    lastError := errorMessage pf r.taskError
    updatedAt := now.format }

def storeExecutionResult (now : Instant) (agentID sessionID id : String) (r : Report) (s : Store) :
    Except StoreError Store := do
  require (r.result.valid && r.result.length ≤ 2 * 2 ^ 20)
    (.message "center: invalid execution result")
  s.updateOne
    (fun e => e.id == id && e.agentID == agentID && e.sessionID == sessionID &&
      ((!r.hostUpdateHelper && e.state == .running) ||
        (r.hostUpdateHelper && e.kind == .agentUpdate && e.state == .helperRunning)) &&
      e.phase != "result_received" && e.disposition.isNone &&
      decide (now.format < e.expiresAt) &&
      (e.state != .helperRunning || !r.succeeded || e.phase == "start") &&
      (e.state == .helperRunning || s.hasSession agentID sessionID))
    (reportedExecution pf now r) .executionAuthorization

end Reports

/-! ## Publishing a result -/

/-- The state an execution ends in. -/
def Evidence.outcome (v : Evidence) : ExecutionState :=
  if v.unknown then .unknown else if v.succeeded then .succeeded else .failed

/-- The task only read from its host, so that its failure leaves nothing to verify. -/
def executionFailureCanReleaseFence (task : AgentTask) : Bool :=
  if task.kind == .applicationMaintenance && task.packageMaintenanceAction == some "logs" then true
  else if task.kind == .applicationCommand && task.senulunInspection.isSome &&
      task.senulunInspectionValid then true
  else task.kind == .applicationCommand &&
    (task.clientCommandAction == some "list" || task.clientCommandAction == some "list_inbounds")

def releasesFence (v : Evidence) (task : AgentTask) : Bool :=
  v.outcome == .failed && executionFailureCanReleaseFence task

/-- The row `finalizeExecution` leaves behind; `disposed` is the clock reading of the release. -/
def finalizedExecution (disposed now : Instant) (v : Evidence) (task : AgentTask) (e : Execution) :
    Execution :=
  if releasesFence v task then
    { e with
      state := v.outcome
      phase := "reported"
      disposition := some .readOnlyFailure
      dispositionNote := "Read-only operation failed without changing node state"
      dispositionActor := "system"
      disposedAt := disposed.format
      updatedAt := now.format }
  else
    { e with
      state := v.outcome
      phase := "reported"
      disposition := none
      dispositionNote := ""
      dispositionActor := ""
      disposedAt := ""
      updatedAt := now.format }

/-- The row `finalizeExecution` reads. -/
def awaitsFinalization (agentID sessionID id : String) (e : Execution) : Bool :=
  e.id == id && e.agentID == agentID && e.sessionID == sessionID &&
    (e.state == .running || e.state == .helperRunning) && e.phase == "result_received" &&
    e.disposition.isNone

def finalizeExecution (disposed now : Instant) (agentID sessionID id : String) (s : Store) :
    Except StoreError Store := do
  let row ← fetch (s.executions.find? (awaitsFinalization agentID sessionID id))
    .executionAuthorization
  let evidence ← fetch row.sealedResult (.message "center: execution result evidence is invalid")
  let task ← fetch row.sealedTask.task? (.message "center: execution task evidence is invalid")
  s.updateOne
    (fun e => awaitsFinalization agentID sessionID id e && decide (now.format < e.expiresAt) &&
      (e.state == .helperRunning || s.hasSession agentID sessionID))
    (finalizedExecution disposed now evidence task)
    .executionAuthorization

/-! ## Leases of the queued tasks -/

def agentDecommissionTaskID (agentID : String) : String := "agent-decommission-" ++ agentID

def diagnosticKinds : List TaskKind :=
  [.nodeNetworkQuality, .nodeReturnRoute, .nodeInternationalBandwidth, .nodeHostProfile,
    .meridianLinkBandwidth, .meridianLinkBandwidthServer]

/-- The queue and the row `RenewTaskLease` addresses for a task id.  A landing id must be the
canonical one of the agent; the other revisions are looked up under the agent's own id. -/
def leaseTarget (agentID taskID : String) : Except StoreError (List TaskKind × String) :=
  let canonical (kind : TaskKind) (id : String) :=
    if taskID == id then .ok ([kind], id) else .error .staleTaskLease
  if hasPrefix taskID "node-site-" then .ok ([.nodeSiteCertificate], taskID)
  else if hasPrefix taskID "os-reinstall-" then .ok ([.nodeOSReinstall], taskID)
  else if hasPrefix taskID "node-security-" then .ok ([.nodeSecurity], taskID)
  else if hasPrefix taskID "application-maintenance-" then .ok ([.applicationMaintenance], taskID)
  else if hasPrefix taskID "application-adopt-" then .ok ([.applicationAdopt], taskID)
  else if hasPrefix taskID "ip-quality-" then .ok ([.nodeIPQuality], taskID)
  else if hasPrefix taskID "node-diagnostic-" then .ok (diagnosticKinds, taskID)
  else if hasPrefix taskID "xray-recovery-" then
    .ok ([.xrayConfigurationInspect, .xrayConfigurationApply], taskID)
  else if let some r := landingProxyTaskRevision taskID then
    canonical .landingProxyApply (landingProxyTaskID agentID r)
  else if let some r := landingServerTaskRevision taskID then
    canonical .landingServerApply (landingServerTaskID agentID r)
  else if hasPrefix taskID "application-command-" then .ok ([.applicationCommand], taskID)
  else if taskID == agentDecommissionTaskID agentID then .ok ([.agentDecommission], taskID)
  else if hasPrefix taskID "tailscale-update-" then .ok ([.tailscaleUpdate], taskID)
  else if hasPrefix taskID "agent-update-" then .ok ([.agentUpdate], taskID)
  else if let some r := gatewayTaskRevision taskID then
    .ok ([.gatewayRoutesApply], gatewayRouteTaskID agentID r)
  else if let some r := nodeListenerTaskRevision taskID then
    .ok ([.nodeListenerApply], nodeListenerTaskID agentID r)
  else if let some r := tunnelTaskRevision taskID then
    .ok ([.tunnelStateApply], tunnelTaskID agentID r)
  else if let some r := gatewayComponentTaskGeneration taskID then
    .ok ([.gatewayComponentApply], gatewayComponentTaskID agentID r)
  else .ok ([.applicationApply], taskID)

def renewTaskLease (now : Instant) (agentID credential taskID : String) (expectedAttempt : Nat)
    (s : Store) : Except StoreError Store := do
  require (0 < expectedAttempt && trimSpace taskID != "") .staleTaskLease
  require (s.authenticateAgent agentID credential) authenticationFailed
  let (kinds, id) ← leaseTarget agentID taskID
  match Library.Table.updateOne
      (fun l => kinds.contains l.kind && l.taskID == id && l.agentID == agentID && l.held &&
        l.attempt == expectedAttempt && decide (now.format < l.leaseExpiresAt))
      (fun l => { l with
        leaseExpiresAt := (now.add taskLeaseDuration).format
        updatedAt := now.format }) s.leases with
  | some leases => .ok { s with leases := leases }
  | none => .error .staleTaskLease

/-- `lease_expires_at<>'' AND lease_expires_at<=?` of a held lease of the agent. -/
def leaseExpired (agentID stamp : String) (l : TaskLease) : Bool :=
  l.agentID == agentID && l.held && l.leaseExpiresAt != "" && decide (l.leaseExpiresAt ≤ stamp)

def interruptedTaskExecution (stamp : String) (e : Execution) : Execution :=
  { e with
    state := .unknown
    lastError := "Execution interrupted; manual verification required"
    updatedAt := stamp }

def interruptTask (agentID stamp : String) (rows : List Execution) (l : TaskLease) :
    List Execution :=
  update
    (fun e => e.agentID == agentID && e.taskID == l.taskID && e.disposition.isNone &&
      e.state.isOfferedOrRunning)
    (interruptedTaskExecution stamp) rows

def recoverExpiredTasks (now : Instant) (agentID : String) (s : Store) : Store :=
  { s with
    leases := update (leaseExpired agentID now.format)
      (fun l => { l with
        held := false
        leaseExpiresAt := ""
        updatedAt := now.format }) s.leases
    executions := (s.leases.filter (leaseExpired agentID now.format)).foldl
      (interruptTask agentID now.format) s.executions }

def expiredReceivedExecution (stamp : String) (e : Execution) : Execution :=
  { e with
    state := .unknown
    lastError := "Execution authorization expired; retained result pending recovery"
    updatedAt := stamp }

/-- The statement of `recoverExpiredReceivedExecutionResults`; each retained result is then
projected by an operation of its own. -/
def recoverExpiredReceivedExecutionResults (now : Instant) (s : Store) : Store :=
  { s with
    executions := update
      (fun e => e.disposition.isNone && e.identityRetiredAt == "" &&
        (e.state == .running || e.state == .helperRunning || e.state == .unknown) &&
        e.phase == "result_received" && e.expiresAt != "" && decide (e.expiresAt ≤ now.format))
      (expiredReceivedExecution now.format) s.executions }

end Center
end Vastora
