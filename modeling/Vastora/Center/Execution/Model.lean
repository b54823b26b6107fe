import Vastora.Center.Timestamp
import Vastora.Library.Pattern

/-!
# Execution model — the rows of the execution store

Center grants a host at most one piece of work at a time.  Every grant is a row of
`task_executions`; the rows, the session of each Agent process, the history of retired sessions and
the leases of the queued tasks make up the `Store`.  The tables of the individual features
(deployments, agent updates, landing states, …) are consulted by the same transactions; what a
transaction reads from them, and whether its statements on them affect a row, is the `Business`
part of the store.
-/

namespace Vastora
namespace Center

open Library.Pattern

/-! ## Rows of `task_executions` -/

inductive ExecutionState where
  | offered | running | helperRunning | succeeded | failed | unknown
deriving DecidableEq, Repr

inductive Disposition where
  | confirmCompleted | reexecute | abandon | readOnlyFailure | superseded
  | configurationRecovered | meridianCenterRecovery
deriving DecidableEq, Repr

inductive TaskKind where
  | tailscaleUpdate | nodeSiteCertificate | nodeOSReinstall | nodeSecurity | nodeIPQuality
  | nodeNetworkQuality | nodeReturnRoute | nodeInternationalBandwidth | nodeHostProfile
  | meridianLinkBandwidth | meridianLinkBandwidthServer
  | xrayConfigurationInspect | xrayConfigurationApply
  | applicationApply | applicationAdopt | applicationMaintenance | applicationCommand
  | agentUpdate | agentDecommission
  | landingProxyApply | landingServerApply | gatewayRoutesApply | gatewayComponentApply
  | nodeListenerApply | tunnelStateApply | legacyReceipt
deriving DecidableEq, Repr

namespace TaskKind

/-- The two kinds that run beside other work. -/
def isXray : TaskKind → Bool
  | xrayConfigurationInspect | xrayConfigurationApply => true
  | _ => false

/-- The prefix the queues put on the task ids of a kind; deployments have plain ids. -/
def idPrefix : TaskKind → String
  | tailscaleUpdate => "tailscale-update-"
  | nodeSiteCertificate => "node-site-"
  | nodeOSReinstall => "os-reinstall-"
  | nodeSecurity => "node-security-"
  | nodeIPQuality => "ip-quality-"
  | nodeNetworkQuality | nodeReturnRoute | nodeInternationalBandwidth | nodeHostProfile
  | meridianLinkBandwidth | meridianLinkBandwidthServer => "node-diagnostic-"
  | xrayConfigurationInspect | xrayConfigurationApply => "xray-recovery-"
  | agentUpdate => "agent-update-"
  | agentDecommission => "agent-decommission-"
  | landingProxyApply => "landing-proxy-"
  | landingServerApply => "landing-server-"
  | gatewayRoutesApply => "gateway-route-"
  | gatewayComponentApply => "gateway-component-"
  | nodeListenerApply => "node-listener-"
  | tunnelStateApply => "tunnel-"
  | applicationApply | applicationAdopt | applicationMaintenance | applicationCommand
  | legacyReceipt => ""

end TaskKind

/-- A task as it is claimed, sealed into the execution row and sent to the Agent.  `payload` stands
for the members no modelled function reads. -/
structure AgentTask where
  id : String
  kind : TaskKind
  attempt : Nat
  revision : Nat
  reconcile : Bool
  meridianAcceptance : Option String
  senulunReporting : Option String
  senulunRotation : Option String
  senulunInspection : Option String
  senulunInspectionValid : Bool
  senulunRestore : Option String
  packageMaintenanceAction : Option String
  clientCommandAction : Option String
  payload : String
  id_named : hasPrefix id kind.idPrefix = true
deriving DecidableEq

/-- An uploaded JSON result: whether it parses, and its length. -/
structure RawMessage where
  text : String
  valid : Bool
  length : Nat
deriving DecidableEq, Repr

/-- `executionResultEvidence`. -/
structure Evidence where
  result : RawMessage
  succeeded : Bool
  unknown : Bool
  applicationRuntimeGeneration : Option Int
deriving DecidableEq, Repr

/-- A receipt of the protocol before this one, as an upgraded Agent uploads it. -/
structure LegacyReceipt where
  taskID : String
  kind : String
  attempt : Nat
  state : String
  body : String
deriving DecidableEq, Repr

/-- What `sealed_task` opens to. -/
inductive SealedTask where
  | task (t : AgentTask)
  | receipt (r : LegacyReceipt)
deriving DecidableEq

def SealedTask.task? : SealedTask → Option AgentTask
  | .task t => some t
  | .receipt _ => none

def SealedTask.receipt? : SealedTask → Option LegacyReceipt
  | .task _ => none
  | .receipt r => some r

/-- A row of `task_executions`; a `none` disposition is the empty string of the column. -/
structure Execution where
  id : String
  agentID : String
  taskID : String
  kind : TaskKind
  attempt : Nat
  sessionID : String
  digest : String
  sealedTask : SealedTask
  sealedResult : Option Evidence
  state : ExecutionState
  phase : String
  lastError : String
  expiresAt : String
  createdAt : String
  updatedAt : String
  disposition : Option Disposition
  dispositionNote : String
  dispositionActor : String
  disposedAt : String
  identityRetiredAt : String
deriving DecidableEq

namespace ExecutionState

/-- `state IN ('offered','running','helper_running')`. -/
def isActive : ExecutionState → Bool
  | offered | running | helperRunning => true
  | succeeded | failed | unknown => false

/-- `state IN ('failed','unknown')`. -/
def isFailedOrUnknown : ExecutionState → Bool
  | failed | unknown => true
  | _ => false

/-- `state IN ('offered','running')`. -/
def isOfferedOrRunning : ExecutionState → Bool
  | offered | running => true
  | _ => false

end ExecutionState

namespace Execution

/-- The row may still be executed on its host. -/
def isActive (e : Execution) : Bool := e.state.isActive && e.disposition.isNone

/-- The row fences its host: `disposition='' AND state<>'succeeded'`. -/
def isUnresolved (e : Execution) : Bool := e.disposition.isNone && e.state != .succeeded

/-- The task the row was granted for, when the sealed evidence names the row's own identity. -/
def task? (e : Execution) : Option AgentTask :=
  e.sealedTask.task?.filter fun t => t.id == e.taskID && t.kind == e.kind && t.attempt == e.attempt

end Execution

/-! ## The tables beside it -/

/-- The named errors of the store, and the others by their text. -/
inductive StoreError where
  | executionAuthorization
  | executionBlocked
  | staleTaskLease
  | retainedExecutionNotRecoverable
  | message (text : String)
deriving DecidableEq, Repr

structure AgentRow where
  version : String
  acceptsCredential : String → Bool

structure CommandRow where
  agentID : String
  kind : String
  applicationID : String
  gatewayNodeID : String

structure UpdateRow where
  agentID : String
  targetVersion : String

/-- `landing_proxy_states` and `landing_server_states`. -/
structure LandingState where
  desiredRevision : Nat
  attempt : Nat
deriving DecidableEq, Repr

structure DecommissionRow where
  cleaning : Bool
  attempt : Nat
  acceptsToken : String → Bool

/-- `xray_configuration_recoveries`; `lease` is the parsed lease time. -/
structure XrayRecovery where
  agentID : String
  attempt : Nat
  inspect : Bool
  running : Bool
  lease : Option Instant
  applicationID : String

inductive ReinstallState where
  | running | backupReady | armed | succeeded | other
deriving DecidableEq, Repr

/-- `os_reinstall_tasks`, with the checks of the uploaded evidence against the sealed plan. -/
structure ReinstallRow where
  agentID : String
  attempt : Nat
  state : ReinstallState
  leaseExpiresAt : String
  acceptsBackup : String → Bool
  acceptsArm : String → Bool
  acceptsReconnect : String → Bool

/-- The statements on the tables of the features that share a transaction with an execution row and
must affect exactly one row there. -/
inductive Statement where
  | transferAgentUpdate (taskID agentID : String) (attempt : Nat) (stamp : String)
  | transferDecommission (agentID : String) (attempt : Nat) (stamp : String)
  | transferTailscaleUpdate (taskID agentID : String) (attempt : Nat) (stamp : String)
  | settleTailscaleUpdate (taskID agentID : String) (attempt : Nat) (succeeded : Bool)
  | acknowledgeTailscaleUpdate (taskID agentID stamp : String)
  | finishDecommission (agentID : String) (attempt : Nat) (succeeded : Bool)
  | backUpReinstall (taskID agentID stamp : String)
  | armReinstall (taskID agentID stamp : String)
  | finishReinstall (taskID agentID : String)
  | confirmTask (task : AgentTask) (agentID : String)
  | requeueTask (task : AgentTask) (agentID : String)
  | abandonTask (task : AgentTask) (agentID : String)
  | disposeUpdate (taskID agentID : String) (attempt : Nat) (completed : Bool)
  | disposeDecommission (agentID : String) (attempt : Nat) (completed : Bool)
  | recoverUpdate (taskID agentID : String)
  | recoverEndpoint (taskID agentID : String) (attempt : Nat)
deriving DecidableEq

/-- What a transaction reads from the tables of the features. -/
structure Business where
  agent : String → Option AgentRow
  /-- Enrolled agents carry a generated id. -/
  agent_empty : agent "" = none
  admin : String → Bool
  executionClaimsPaused : Bool
  command : String → Option CommandRow
  deploymentApplication : String → Option String
  update : String → Option UpdateRow
  updatePending : String → Bool
  agentUpdateAllowed : String → Bool
  landingProxyState : String → Option LandingState
  landingServerState : String → Option LandingState
  decommission : String → Option DecommissionRow
  xrayRecovery : String → Option XrayRecovery
  xrayRecoveryPending : String → Bool
  tailscaleAwaitingDecision : String → Bool
  /-- `target_version` of an update task that awaits the decision. -/
  tailscaleTarget : String → String → Option String
  agentReinstallBlocked : String → Bool
  pendingAgentReinstallTask : String → Except StoreError String
  reinstallCommandTargetBlocked : String → String → Bool
  validateReinstallAcceptance : String → String → Except StoreError String
  validateReinstallMonitorReporting : String → String → Except StoreError String
  validateReinstallMonitorRotation : String → String → Except StoreError String
  validateReinstallInspection : String → String → Except StoreError String
  validateReinstallPreparation : String → String → Except StoreError Bool
  preparationTask : String → Option AgentTask
  reinstallMonitorRestoreTask : String → String → Except StoreError (Option AgentTask)
  reinstallCurrentTask : String → String → Except StoreError (Option AgentTask)
  reinstallRuntimeTask : String → String → Except StoreError (Option AgentTask)
  reinstallListenerTask : String → String → Except StoreError (Option AgentTask)
  /-- The reviewed executions a reinstall settles after isolation. -/
  reinstallLocalExecutions : String → List String
  reinstall : String → Option ReinstallRow
  endpointAttempt : String → Option (String × String × Nat)
  latestFailedUpdate : String → Option String
  /-- The feature accepts the reported result (`projectX`, `validateExecutionProjection`). -/
  projects : String → Evidence → Bool
  affectsOne : Statement → Bool

/-- A leased task of one of the queues; `held` is `state='running'` or its queue's equivalent. -/
structure TaskLease where
  kind : TaskKind
  taskID : String
  agentID : String
  attempt : Nat
  held : Bool
  leaseExpiresAt : String
  updatedAt : String
deriving DecidableEq, Repr

structure Store where
  executions : List Execution
  /-- `agent_execution_sessions`. -/
  sessions : String → Option String
  /-- `agent_execution_session_history`, as pairs of agent and session. -/
  history : List (String × String)
  leases : List TaskLease
  business : Business

/-- Functions outside the store: the semantic-version package, the digest of a task or a receipt,
the redaction of error texts and the archive id of a receipt. -/
structure Platform where
  semverIsValid : String → Bool
  semverCompare : String → String → Int
  taskDigest : AgentTask → String
  encodeLegacyReceipt : LegacyReceipt → Option String
  legacyReceiptArchiveID : String → String → Nat → String
  safeError : String → String

namespace Store

def empty (business : Business) : Store :=
  { executions := []
    sessions := fun _ => none
    history := []
    leases := []
    business := business }

/-- `EXISTS(SELECT 1 FROM agent_execution_sessions WHERE agent_id=? AND session_id=?)`. -/
def hasSession (s : Store) (agentID sessionID : String) : Bool :=
  s.sessions agentID == some sessionID

def authenticateAgent (s : Store) (agentID credential : String) : Bool :=
  (s.business.agent agentID).any fun a => a.acceptsCredential credential

end Store

/-- `taskLeaseDuration`, in seconds. -/
def taskLeaseDuration : Nat := 5 * 60

/-- The lifetime of an update, cleanup or Tailscale helper, in seconds. -/
def helperDuration : Nat := 30 * 60

/-- The lifetime of an armed reinstall, in seconds. -/
def reinstallDuration : Nat := 45 * 60

end Center
end Vastora
