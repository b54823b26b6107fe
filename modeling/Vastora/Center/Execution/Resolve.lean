import Vastora.Center.Execution.Handoff

/-!
# Resolve — how an unresolved execution stops fencing its host

Retained results are projected, operators dispose of executions they verified, a configuration
recovery releases what it repaired, and a replaced machine identity is retired.  Each function is one
transaction and sets the disposition under its own state filter.
-/

namespace Vastora
namespace Center

open Library.Guard Library.Pattern Library.Table

/-- The columns a disposition sets. -/
def dispose (d : Disposition) (note actor stamp : String) (e : Execution) : Execution :=
  { e with
    disposition := some d
    dispositionNote := note
    dispositionActor := actor
    disposedAt := stamp
    updatedAt := stamp }

inductive DispositionAction where
  | confirmCompleted | reexecute | abandon | other
deriving DecidableEq, Repr

/-- `controlplane.ExecutionDisposition`. -/
structure DispositionInput where
  action : DispositionAction
  executionStopped : Bool
  note : String
deriving DecidableEq, Repr

/-- The execution has stopped and the verification is recorded. -/
def DispositionInput.verified (input : DispositionInput) : Bool :=
  input.executionStopped && trimSpace input.note != "" && input.note.utf8ByteSize ≤ 1024

def administratorRequired : StoreError := .message "center: administrator authorization required"

def taskChanged : StoreError := .message "center: task changed; verify its current state"

def dedicatedWorkflow : StoreError :=
  .message "center: this execution requires its dedicated resolution workflow"

/-! ## Retained results -/

/-- The canonical task id of the kinds that apply a revision of a node's desired state. -/
def revisionKindTaskID (kind : TaskKind) (agentID : String) (revision : Nat) : Option String :=
  match kind with
  | .landingServerApply => some (landingServerTaskID agentID revision)
  | .landingProxyApply => some (landingProxyTaskID agentID revision)
  | .gatewayRoutesApply => some (gatewayRouteTaskID agentID revision)
  | .gatewayComponentApply => some (gatewayComponentTaskID agentID revision)
  | .nodeListenerApply => some (nodeListenerTaskID agentID revision)
  | .tunnelStateApply => some (tunnelTaskID agentID revision)
  | _ => none

/-- The kinds confirmed by reopening their own task row. -/
def confirmedByTask : List TaskKind :=
  [.nodeSiteCertificate, .applicationMaintenance, .applicationAdopt, .applicationCommand,
    .applicationApply]

def retainedResultSupportsConfirmation (kind : TaskKind) (v : Evidence) : Bool :=
  v.succeeded && !v.unknown && v.result.valid &&
    if kind == .applicationApply then v.applicationRuntimeGeneration.isSome
    else confirmedByTask.contains kind || (revisionKindTaskID kind "" 0).isSome

/-- `executionConfirmationStatement`. -/
def executionConfirmationStatement (task : AgentTask) (agentID : String) :
    Except StoreError Statement :=
  if confirmedByTask.contains task.kind then .ok (.confirmTask task agentID)
  else
    match revisionKindTaskID task.kind agentID task.revision with
    | none => .error dedicatedWorkflow
    | some expectedID =>
        if 0 < task.revision && task.id == expectedID then .ok (.confirmTask task agentID)
        else .error .executionAuthorization

/-- Who resolves a retained result. -/
inductive Resolution where
  | automatic
  | operator (adminID note : String)
deriving DecidableEq, Repr

/-- The states a resolution may start from. -/
def Resolution.accepts (resolution : Resolution) (e : Execution) : Bool :=
  match resolution with
  | .automatic => e.state == .unknown && e.phase == "result_received"
  | .operator _ _ => e.state.isFailedOrUnknown

/-- The row a resolution may address. -/
def retainedRow (resolution : Resolution) (id : String) (e : Execution) : Bool :=
  e.id == id && e.disposition.isNone && e.identityRetiredAt == "" && resolution.accepts e

section Resolve

variable (pf : Platform)

/-- What the committed projection does to the row. -/
def resolveRow (resolution : Resolution) (stamp : String) (e : Execution) : Execution :=
  match resolution with
  | .automatic =>
      { e with
        state := .succeeded
        phase := "reported"
        lastError := ""
        updatedAt := stamp }
  | .operator adminID note => dispose .confirmCompleted (pf.safeError note) adminID stamp e

/-- The automatic form reports every refusal as one error. -/
def Resolution.refuse (resolution : Resolution) (err : StoreError) : StoreError :=
  match resolution with
  | .automatic => .retainedExecutionNotRecoverable
  | .operator _ _ => err

/-- An operator must be an administrator. -/
def Resolution.authorized (resolution : Resolution) (b : Business) : Bool :=
  match resolution with
  | .automatic => true
  | .operator adminID _ => b.admin adminID

def projectRetainedExecutionResult (now : Instant) (id : String) (resolution : Resolution)
    (s : Store) : Except StoreError Store := do
  require (resolution.authorized s.business) administratorRequired
  let row ← fetch (s.executions.find? (retainedRow resolution id))
    (resolution.refuse .executionAuthorization)
  let task ← fetch row.task? (resolution.refuse .executionAuthorization)
  let evidence ← fetch row.sealedResult
    (resolution.refuse (.message "center: retained completion evidence is required"))
  require (retainedResultSupportsConfirmation row.kind evidence) (resolution.refuse (.message
    "center: retained result does not prove completion; verify or replace the missing evidence before confirming"))
  let statement ← executionConfirmationStatement task row.agentID
  s.affectOne statement
    (.message "center: application task changed; verify its current state")
  require (s.business.projects id evidence) (.message "center: execution projection was rejected")
  s.updateOne
    (fun e => e.id == id && e.disposition.isNone && resolution.accepts e)
    (resolveRow pf resolution now.format) .executionAuthorization

def confirmExecution (now : Instant) (id adminID : String) (input : DispositionInput) (s : Store) :
    Except StoreError Store := do
  require (input.action == .confirmCompleted && input.verified)
    (.message "center: confirm stopped execution and record verification")
  projectRetainedExecutionResult pf now id (.operator adminID input.note) s

/-- The retained results of a registered agent. -/
def receivedExecutionResults (agentID : String) (s : Store) : List String :=
  (s.executions.filter fun e => e.agentID == agentID && e.state == .unknown &&
    e.phase == "result_received" && e.disposition.isNone && e.identityRetiredAt == "").map (·.id)

/-- What `RegisterExecutionSession` does after its transaction.  A refused projection leaves the
fence as it is; `clock` gives each projection its own reading. -/
def recoverReceivedExecutionResults (clock : String → Instant) (agentID : String) (s : Store) :
    Store :=
  (receivedExecutionResults agentID s).foldl (fun s id =>
    match projectRetainedExecutionResult pf (clock id) id .automatic s with
    | .ok s' => s'
    | .error _ => s) s

/-! ## Decisions of an operator -/

/-- The kinds whose task can be queued again. -/
def requeueable : List TaskKind :=
  [.nodeIPQuality, .nodeNetworkQuality, .nodeReturnRoute, .nodeInternationalBandwidth,
    .nodeHostProfile, .meridianLinkBandwidth, .meridianLinkBandwidthServer,
    .xrayConfigurationInspect, .xrayConfigurationApply, .applicationApply, .applicationAdopt,
    .applicationCommand, .agentUpdate, .agentDecommission, .landingProxyApply, .landingServerApply,
    .gatewayRoutesApply, .gatewayComponentApply, .nodeListenerApply, .tunnelStateApply]

/-- Why a task of another kind is not queued again. -/
def requeueRefusal : TaskKind → String
  | .nodeSiteCertificate => "center: inspect the restored website after abandoning the uncertain execution; request a fresh revision"
  | .tailscaleUpdate => "center: inspect the Tailscale update before issuing a fresh operation"
  | .nodeSecurity => "center: inspect the host security checkpoint before issuing a fresh operation"
  | .applicationMaintenance => "center: uncertain package maintenance cannot be replayed; inspect retained resource and backup evidence"
  | _ => "center: unsupported execution kind"

/-- The kinds with a resolution workflow of their own. -/
def dedicatedKinds : List TaskKind := [.agentUpdate, .agentDecommission, .legacyReceipt]

/-- `executionRequeueStatement` and `executionAbandonStatement`. -/
def dispositionStatement (action : DispositionAction) (task : AgentTask) (agentID : String) :
    Except StoreError Statement :=
  if action == .abandon then
    if dedicatedKinds.contains task.kind then .error dedicatedWorkflow
    else .ok (.abandonTask task agentID)
  else if requeueable.contains task.kind then .ok (.requeueTask task agentID)
  else .error (.message (requeueRefusal task.kind))

/-- `ReexecuteExecution` and `AbandonExecution`. -/
def disposeTaskExecution (now : Instant) (executionID adminID : String) (input : DispositionInput)
    (s : Store) : Except StoreError Store := do
  require (input.action == .reexecute || input.action == .abandon) .executionAuthorization
  require input.verified (.message
    "center: confirm the previous execution stopped and record the verification before reexecution")
  require (s.business.admin adminID) administratorRequired
  let row ← fetch (s.executions.find? (·.id == executionID)) noRows
  require (row.state.isFailedOrUnknown && row.disposition.isNone)
    (.message "center: execution is not unresolved")
  require (row.identityRetiredAt == "" || input.action != .reexecute) (.message
    "center: previous machine identity was retired; create a new recovery task from reviewed intent")
  require (!(row.kind == .applicationCommand && input.action == .reexecute &&
    s.business.reinstallCommandTargetBlocked row.agentID row.taskID)) .executionBlocked
  let task ← fetch row.task?
    (.message "center: execution evidence does not match its identity")
  let statement ← dispositionStatement input.action task row.agentID
  -- An execution whose command was removed with its application can still be abandoned.
  require (s.business.affectsOne statement || (input.action == .abandon &&
    row.kind == .applicationCommand && (s.business.command row.taskID).isNone)) taskChanged
  s.updateOne
    (fun e => e.id == executionID && e.disposition.isNone && e.state.isFailedOrUnknown)
    (dispose (if input.action == .abandon then .abandon else .reexecute)
      (pf.safeError input.note) adminID now.format)
    .executionAuthorization

/-- A helper outcome is confirmed or abandoned; `observed` says that the target version was seen
online. -/
def disposeHelperExecution (now : Instant) (id adminID : String) (input : DispositionInput)
    (observed : Bool) (s : Store) : Except StoreError Store := do
  require ((input.action == .confirmCompleted || input.action == .abandon) && input.verified)
    (.message "center: confirm stopped execution and record verification")
  require (s.business.admin adminID) administratorRequired
  let row ← fetch (s.executions.find? fun e => e.id == id &&
      (e.kind == .agentUpdate || e.kind == .agentDecommission) && e.state.isFailedOrUnknown &&
      e.disposition.isNone)
    .executionAuthorization
  let completed := input.action == .confirmCompleted
  require (row.identityRetiredAt == "" || !completed) (.message
    "center: replacement machine observations cannot confirm the previous machine's helper execution")
  require (!completed || row.kind != .agentUpdate || observed)
    (.message "center: target version must be observed online before confirming completion")
  s.affectOne
    (if row.kind == .agentDecommission then .disposeDecommission row.agentID row.attempt completed
      else .disposeUpdate row.taskID row.agentID row.attempt completed) .executionAuthorization
  s.updateOne
    (fun e => e.id == id && e.disposition.isNone && e.state.isFailedOrUnknown)
    (dispose (if completed then .confirmCompleted else .abandon) (pf.safeError input.note) adminID
      now.format)
    .executionAuthorization

def acknowledgedExecution (note actor stamp : String) (e : Execution) : Execution :=
  dispose .abandon note actor stamp
    { e with state := if e.state == .helperRunning then .unknown else e.state }

/-- The review of a Tailscale update also ends a helper that is still running. -/
def acknowledgeTailscaleUpdate (now : Instant) (agentID taskID adminID : String)
    (confirmStopped : Bool) (note : String) (s : Store) : Except StoreError Store := do
  require (confirmStopped && trimSpace note != "" && note.utf8ByteSize ≤ 500)
    (.message "center: confirm the update stopped and record the review")
  s.affectOne (.acknowledgeTailscaleUpdate taskID agentID now.format)
    (.message "center: update is not eligible for review")
  return { s with
    executions := update
      (fun e => e.taskID == taskID && e.agentID == agentID && e.kind == .tailscaleUpdate &&
        e.disposition.isNone && (e.state.isFailedOrUnknown || e.state == .helperRunning))
      (acknowledgedExecution (pf.safeError (trimSpace note)) adminID now.format) s.executions }

/-- The recovery of a failed update abandons the execution of that update, if there is one. -/
def authorizeAgentUpdateRecovery (now : Instant) (agentID adminID failedUpdateID : String)
    (attempt : Nat) (confirmStopped : Bool) (note : String) (s : Store) :
    Except StoreError Store := do
  require (confirmStopped && trimSpace note != "") (.message
    "center: confirm the exact failed update is stopped and record recovery verification")
  require (s.business.admin adminID) administratorRequired
  s.affectOne (.recoverUpdate failedUpdateID agentID)
    (.message "center: failed update changed; verify its current state")
  match s.executions.find? (fun e => e.taskID == failedUpdateID && e.agentID == agentID &&
      e.kind == .agentUpdate && e.attempt == attempt) with
  | none => return s
  | some row => do
      require (row.state == .failed &&
        (row.disposition.isNone || row.disposition == some .abandon) && row.task?.isSome)
        (.message "center: failed update execution is not stopped")
      if row.disposition == some .abandon then
        return s
      s.updateOne (fun e => e.id == row.id && e.state == .failed && e.disposition.isNone)
        (dispose .abandon (pf.safeError (trimSpace note)) adminID now.format)
        .executionAuthorization

/-- The statement that settles one reviewed execution of a reinstalled machine. -/
def settleStep (agentID adminID stamp : String) (rows : List Execution) (id : String) :
    Except StoreError (List Execution) :=
  match Library.Table.updateOne
      (fun e => e.id == id && e.agentID == agentID && e.identityRetiredAt != "" &&
        e.state.isFailedOrUnknown && e.disposition.isNone)
      (dispose .abandon "Old-machine local execution isolated by reinstall recovery" adminID stamp)
      rows with
  | some rows => .ok rows
  | none => .error .executionAuthorization

def settleAgentReinstallLocalWork (now : Instant) (agentID adminID : String) (confirmLocal : Bool)
    (s : Store) : Except StoreError Store := do
  require (confirmLocal && s.business.admin adminID)
    (.message "center: explicitly confirm the reviewed old-machine executions")
  let rows ← (s.business.reinstallLocalExecutions agentID).foldlM
    (settleStep agentID adminID now.format) s.executions
  return { s with executions := rows }

/-- The part of `RecoverMeridianEndpoint` that resolves an uncertain command; the agent, the command
and its attempt are those of the endpoint. -/
def recoverMeridianEndpoint (now : Instant) (endpointID adminID : String) (confirmed : Bool)
    (s : Store) : Except StoreError Store := do
  require (trimSpace endpointID != "" && trimSpace adminID != "" && confirmed) (.message
    "center: confirm Center authority and that the previous Glivela execution has stopped")
  require (s.business.admin (trimSpace adminID)) administratorRequired
  let (nodeID, commandID, attempt) ← fetch (s.business.endpointAttempt (trimSpace endpointID))
    (.message "center: Glivela endpoint was not found")
  let row ← fetch (s.executions.find? fun e => e.agentID == nodeID && e.taskID == commandID &&
      e.attempt == attempt && e.state.isFailedOrUnknown && e.disposition.isNone)
    (.message "center: Glivela recovery execution evidence is unavailable")
  let s' ← s.updateOne
    (fun e => e.id == row.id && e.disposition.isNone && e.state.isFailedOrUnknown)
    (dispose .meridianCenterRecovery
      "Operator confirmed the previous execution stopped and selected current Center state"
      (trimSpace adminID) now.format)
    (.message "center: Glivela recovery execution changed; inspect again")
  s'.affectOne (.recoverEndpoint commandID nodeID attempt)
    (.message "center: Glivela recovery command changed; inspect again")
  return s'

/-! ## Receipts of the previous protocol -/

/-- The archived row of a receipt. -/
def archivedExecution (now : Instant) (agentID sessionID id digest : String) (r : LegacyReceipt) :
    Execution :=
  { id := id
    agentID := agentID
    taskID := id
    kind := .legacyReceipt
    attempt := r.attempt
    sessionID := sessionID
    digest := digest
    sealedTask := .receipt r
    sealedResult := none
    state := if r.state == "acknowledged" then .succeeded else .unknown
    phase := "legacy:" ++ r.state
    lastError := if r.state == "acknowledged" then "" else
      "Legacy execution requires operator verification"
    expiresAt := now.format
    createdAt := now.format
    updatedAt := now.format
    disposition := none
    dispositionNote := ""
    dispositionActor := ""
    disposedAt := ""
    identityRetiredAt := "" }

def importLegacyReceipt (now : Instant) (agentID credential sessionID digest : String)
    (r : LegacyReceipt) (s : Store) : Except StoreError Store := do
  require (s.authenticateAgent agentID credential) authenticationFailed
  require (pf.encodeLegacyReceipt r == some digest)
    (.message "center: invalid legacy evidence digest")
  let id := pf.legacyReceiptArchiveID agentID r.taskID r.attempt
  require (sessionID != "" && s.hasSession agentID sessionID) .executionAuthorization
  match s.executions.find? (fun e => e.id == id && e.agentID == agentID &&
      e.kind == .legacyReceipt) with
  | some row => do
      require (row.digest == digest && row.sealedTask == .receipt r)
        (.message "center: legacy evidence conflicts with retained archive")
      return s
  | none => do
      require (!s.executions.any fun e => e.agentID == agentID && e.isActive) .executionBlocked
      s.insertExecution (archivedExecution now agentID sessionID id digest r)

/-- The receipt of a revision names the canonical task id of its node; the other kinds are either
checked by the business update or archived only. -/
def receiptCanonical (agentID : String) (r : LegacyReceipt) : Bool :=
  let names (revision : String → Option Nat) (taskID : String → Nat → String) :=
    (revision r.taskID).any fun n => r.taskID == taskID agentID n
  match r.kind with
  | "landing.server.apply" => names landingServerTaskRevision landingServerTaskID
  | "landing.proxy.apply" => names landingProxyTaskRevision landingProxyTaskID
  | "gateway.routes.apply" => names gatewayTaskRevision gatewayRouteTaskID
  | "gateway.component.apply" => names gatewayComponentTaskGeneration gatewayComponentTaskID
  | "node.listener.apply" => names nodeListenerTaskRevision nodeListenerTaskID
  | "tunnel.state.apply" => names tunnelTaskRevision tunnelTaskID
  | _ => true

def abandonLegacyReceipt (now : Instant) (id adminID : String) (input : DispositionInput)
    (s : Store) : Except StoreError Store := do
  require (input.action == .abandon && input.verified)
    (.message "center: confirm stopped execution and record verification")
  require (s.business.admin adminID) administratorRequired
  let row ← fetch (s.executions.find? fun e => e.id == id && e.kind == .legacyReceipt &&
      e.state == .unknown && e.disposition.isNone)
    .executionAuthorization
  let r ← fetch row.sealedTask.receipt? .executionAuthorization
  require (receiptCanonical row.agentID r) .executionAuthorization
  s.updateOne
    (fun e => e.id == id && e.kind == .legacyReceipt && e.state == .unknown && e.disposition.isNone)
    (dispose .abandon (pf.safeError input.note) adminID now.format) .executionAuthorization

/-! ## Completion of a task -/

/-- The executions a configuration recovery of an application settles. -/
def recoveredBy (applicationID : String) (s : Store) (e : Execution) : Bool :=
  (e.kind == .applicationApply && s.business.deploymentApplication e.taskID == some applicationID) ||
    (e.kind == .applicationCommand &&
      ((s.business.command e.taskID).map (·.applicationID)) == some applicationID) ||
    e.kind.isXray

/-- The statement of `completeXrayConfigurationRecovery` on `task_executions`: every execution it
settles that is not `succeeded` is disposed, but for the one of the recovery task itself, which
`UNIQUE(task_id, attempt)` makes unique. -/
def recoverConfiguration (stamp agentID taskID : String) (attempt : Nat) (applicationID : String)
    (s : Store) : Store :=
  let own := (s.executions.filter fun e => e.taskID == taskID && e.attempt == attempt).map (·.id)
  { s with
    executions := update
      (fun e => e.agentID == agentID && !own.contains e.id && e.disposition.isNone &&
        e.state != .succeeded && recoveredBy applicationID s e)
      (dispose .configurationRecovered "Explicit Xray configuration recovery completed" "system"
        stamp)
      s.executions }

/-- The projection of an Xray recovery task; the lease is compared as a parsed time. -/
def completeXrayConfigurationRecovery (now : Instant) (agentID taskID : String) (attempt : Nat)
    (v : Evidence) (s : Store) : Except StoreError Store := do
  let r ← fetch (s.business.xrayRecovery taskID) .staleTaskLease
  require (0 < attempt && r.agentID == agentID && r.attempt == attempt && r.running &&
    r.lease.any fun t => decide (now.Before t)) .staleTaskLease
  return if v.succeeded && !r.inspect then
      recoverConfiguration now.format agentID taskID attempt r.applicationID s
    else s

/-- What the projection of a reported result does to the other executions. -/
def projectTask (now : Instant) (agentID taskID : String) (attempt : Nat) (v : Evidence)
    (s : Store) : Except StoreError Store :=
  if hasPrefix taskID "xray-recovery-" then
    completeXrayConfigurationRecovery now agentID taskID attempt v s
  else .ok s

/-- The second transaction of a reported result: the feature projects the retained evidence, and the
execution is finalized with it.  The request's outcome is the evidence it stored before. -/
def completeTask (disposed now : Instant) (agentID credential sessionID executionID taskID : String)
    (attempt : Nat) (s : Store) : Except StoreError Store := do
  let row ← fetch (s.executions.find? fun e => e.id == executionID && e.agentID == agentID &&
      e.taskID == taskID && e.attempt == attempt && e.sessionID == sessionID)
    .executionAuthorization
  let evidence ← fetch row.sealedResult .executionAuthorization
  require (s.authenticateAgent agentID credential) authenticationFailed
  require (!(evidence.unknown && evidence.succeeded))
    (.message "center: invalid reconciliation disposition")
  let s' ← projectTask now agentID taskID attempt evidence s
  require (s'.business.projects executionID evidence)
    (.message "center: execution projection was rejected")
  finalizeExecution disposed now agentID sessionID executionID s'

end Resolve

/-! ## Replaced machines -/

def retireExecution (stamp : String) (e : Execution) : Execution :=
  { e with
    identityRetiredAt := stamp
    updatedAt := stamp
    state := if e.state.isActive then .unknown else e.state
    lastError := if e.state.isActive && e.lastError == "" then
      "Agent identity replaced; inspect the previous machine execution" else e.lastError }

def retireAgentExecutionIdentity (now : Instant) (agentID : String) (s : Store) : Store :=
  { s with
    sessions := Function.update s.sessions agentID none
    executions := update
      (fun e => e.agentID == agentID && e.isUnresolved && e.identityRetiredAt == "")
      (retireExecution now.format) s.executions }

def pausedExecution (stamp : String) (e : Execution) : Execution :=
  { e with
    state := .unknown
    expiresAt := stamp
    updatedAt := stamp
    lastError := if e.lastError == "" then
      "Command target is being reinstalled; inspect the remote outcome" else e.lastError }

/-- Commands of other agents whose target is being reinstalled. -/
def pauseReinstallRelatedCommands (now : Instant) (agentID : String) (s : Store) : Store :=
  { s with
    executions := update
      (fun e => e.agentID != agentID && e.kind == .applicationCommand && e.isActive &&
        (s.business.command e.taskID).any fun c => c.agentID == e.agentID &&
          c.gatewayNodeID == agentID)
      (pausedExecution now.format) s.executions }

end Center
end Vastora
