import Vastora.Center.Execution.Resolve
import Vastora.Library.Run

/-!
# Operation — the execution store as a transition system

`Op` lists the transactions on `task_executions` with their arguments and clock readings, and
`apply` performs one.  A failed operation leaves the store as it was, so a history of the store is a
`Library.Run.run` of `apply`.  Between two operations the tables of the features may change in any
way (`Op.business`).
-/

namespace Vastora
namespace Center

open Library

inductive Op where
  | registerExecutionSession (now : Instant) (agentID credential sessionID : String) (protocol : Nat)
  | recoverReceivedExecutionResults (clock : String → Instant) (agentID : String)
  | recoverExpiredReceivedExecutionResults (now : Instant)
  | executionClaimAllowed (now : Instant) (agentID sessionID : String)
  | persistExecutionAuthorization (now : Instant) (agentID sessionID id : String) (task : AgentTask)
  | startExecution (now : Instant) (agentID sessionID id digest : String)
  | checkExecutionStep (now : Instant) (agentID sessionID id phase : String)
  | renewExecution (now : Instant) (agentID sessionID id : String)
  | stopExecution (now : Instant) (agentID sessionID id : String) (unknown : Bool)
      (taskError : String)
  | storeExecutionResult (now : Instant) (agentID sessionID id : String) (r : Report)
  | finalizeExecution (disposed now : Instant) (agentID sessionID id : String)
  | completeTask (disposed now : Instant)
      (agentID credential sessionID executionID taskID : String) (attempt : Nat)
  | renewTaskLease (now : Instant) (agentID credential taskID : String) (expectedAttempt : Nat)
  | recoverExpiredTasks (now : Instant) (agentID : String)
  | beginAgentUpdateExecution (now : Instant) (agentID credential taskID : String) (attempt : Nat)
      (executionID sessionID : String)
  | beginAgentDecommission (now later : Instant) (agentID credential taskID : String)
      (expectedAttempt : Nat) (executionID sessionID : String)
  | beginTailscaleUpdate (now : Instant) (agentID credential taskID executionID sessionID : String)
      (attempt : Nat)
  | checkUpdateHelperStep (now : Instant) (agentID sessionID executionID phase : String)
  | authorizeDecommissionStep (now : Instant) (taskID token : String) (attempt sequence : Nat)
      (phase : String)
  | completeAgentDecommissionCallback (now : Instant) (taskID token : String)
      (expectedAttempt : Nat) (taskError : String)
  | reconcileTailscaleUpdate (now disposed later : Instant) (agentID : String)
      (o : UpdateObservation)
  | recordOSReinstallBackup (now later : Instant) (agentID sessionID executionID evidence : String)
  | armOSReinstall (now : Instant) (agentID sessionID executionID evidence : String)
  | completeOSReinstall (now : Instant)
      (agentID credential sessionID executionID taskID evidence : String)
  | projectRetainedExecutionResult (now : Instant) (id : String) (resolution : Resolution)
  | confirmExecution (now : Instant) (id adminID : String) (input : DispositionInput)
  | disposeTaskExecution (now : Instant) (executionID adminID : String) (input : DispositionInput)
  | disposeHelperExecution (now : Instant) (id adminID : String) (input : DispositionInput)
      (observed : Bool)
  | acknowledgeTailscaleUpdate (now : Instant) (agentID taskID adminID : String)
      (confirmStopped : Bool) (note : String)
  | authorizeAgentUpdateRecovery (now : Instant) (agentID adminID failedUpdateID : String)
      (attempt : Nat) (confirmStopped : Bool) (note : String)
  | settleAgentReinstallLocalWork (now : Instant) (agentID adminID : String) (confirmLocal : Bool)
  | recoverMeridianEndpoint (now : Instant) (endpointID adminID : String) (confirmed : Bool)
  | importLegacyReceipt (now : Instant) (agentID credential sessionID digest : String)
      (r : LegacyReceipt)
  | abandonLegacyReceipt (now : Instant) (id adminID : String) (input : DispositionInput)
  | disposeSupersededLandingExecutionFailures (now : Instant) (agentID : String)
  | retireAgentExecutionIdentity (now : Instant) (agentID : String)
  | pauseReinstallRelatedCommands (now : Instant) (agentID : String)
  | business (b : Business) (leases : List TaskLease)

section Apply

variable (pf : Platform)

/-- The effect of one operation. -/
def apply : Op → Store → Except StoreError Store
  | .registerExecutionSession now a c sid p, s => registerExecutionSession now a c sid p s
  | .recoverReceivedExecutionResults clock a, s => .ok (recoverReceivedExecutionResults pf clock a s)
  | .recoverExpiredReceivedExecutionResults now, s =>
      .ok (recoverExpiredReceivedExecutionResults now s)
  | .executionClaimAllowed now a sid, s => (executionClaimAllowed pf now a sid s).map Prod.fst
  | .persistExecutionAuthorization now a sid id t, s =>
      persistExecutionAuthorization pf now a sid id t s
  | .startExecution now a sid id d, s => startExecution now a sid id d s
  | .checkExecutionStep now a sid id phase, s => checkExecutionStep now a sid id phase s
  | .renewExecution now a sid id, s => renewExecution now a sid id s
  | .stopExecution now a sid id u err, s => stopExecution pf now a sid id u err s
  | .storeExecutionResult now a sid id r, s => storeExecutionResult pf now a sid id r s
  | .finalizeExecution d now a sid id, s => finalizeExecution d now a sid id s
  | .completeTask d now a c sid id t n, s => completeTask d now a c sid id t n s
  | .renewTaskLease now a c t n, s => renewTaskLease now a c t n s
  | .recoverExpiredTasks now a, s => .ok (recoverExpiredTasks now a s)
  | .beginAgentUpdateExecution now a c t n id sid, s =>
      beginAgentUpdateExecution now a c t n id sid s
  | .beginAgentDecommission now l a c t n id sid, s =>
      beginAgentDecommission now l a c t n id sid s
  | .beginTailscaleUpdate now a c t id sid n, s => beginTailscaleUpdate now a c t id sid n s
  | .checkUpdateHelperStep now a sid id phase, s => checkUpdateHelperStep now a sid id phase s
  | .authorizeDecommissionStep now t tok n k phase, s =>
      authorizeDecommissionStep now t tok n k phase s
  | .completeAgentDecommissionCallback now t tok n err, s =>
      completeAgentDecommissionCallback pf now t tok n err s
  | .reconcileTailscaleUpdate now d l a o, s => reconcileTailscaleUpdate now d l a o s
  | .recordOSReinstallBackup now l a sid id ev, s => recordOSReinstallBackup now l a sid id ev s
  | .armOSReinstall now a sid id ev, s => armOSReinstall now a sid id ev s
  | .completeOSReinstall now a c sid id t ev, s => completeOSReinstall now a c sid id t ev s
  | .projectRetainedExecutionResult now id res, s => projectRetainedExecutionResult pf now id res s
  | .confirmExecution now id adm input, s => confirmExecution pf now id adm input s
  | .disposeTaskExecution now id adm input, s => disposeTaskExecution pf now id adm input s
  | .disposeHelperExecution now id adm input obs, s =>
      disposeHelperExecution pf now id adm input obs s
  | .acknowledgeTailscaleUpdate now a t adm ok note, s =>
      acknowledgeTailscaleUpdate pf now a t adm ok note s
  | .authorizeAgentUpdateRecovery now a adm id n ok note, s =>
      authorizeAgentUpdateRecovery pf now a adm id n ok note s
  | .settleAgentReinstallLocalWork now a adm ok, s =>
      settleAgentReinstallLocalWork now a adm ok s
  | .recoverMeridianEndpoint now id adm ok, s => recoverMeridianEndpoint now id adm ok s
  | .importLegacyReceipt now a c sid d r, s => importLegacyReceipt pf now a c sid d r s
  | .abandonLegacyReceipt now id adm input, s => abandonLegacyReceipt pf now id adm input s
  | .disposeSupersededLandingExecutionFailures now a, s =>
      disposeSupersededLandingExecutionFailures a now.format s
  | .retireAgentExecutionIdentity now a, s => .ok (retireAgentExecutionIdentity now a s)
  | .pauseReinstallRelatedCommands now a, s => .ok (pauseReinstallRelatedCommands now a s)
  | .business b leases, s => .ok { s with business := b, leases := leases }

/-- A store without executions and sessions. -/
def Initial (s : Store) : Prop := ∃ b, s = Store.empty b

/-- The stores that histories lead to. -/
def Reachable (s : Store) : Prop := Run.Reachable (apply pf) Initial s

end Apply

/-! ## A small installation

One agent with one deployment to apply; the witnesses of the theorems start from it. -/

namespace Sample

def agentID : String := "edge-1"

def sessionID : String := "session-000000000000000001"

/-- Noon of the first day the calendar counts from, plus `n` seconds. -/
def time (n : Nat) : Instant := ⟨43200 + n, 0, by decide⟩

def business : Business :=
  { agent := fun a => if a = agentID then some ⟨"1.0.0", fun _ => true⟩ else none
    agent_empty := by decide
    admin := fun _ => true
    executionClaimsPaused := false
    command := fun _ => none
    deploymentApplication := fun _ => none
    update := fun _ => none
    updatePending := fun _ => false
    agentUpdateAllowed := fun _ => true
    landingProxyState := fun _ => none
    landingServerState := fun _ => none
    decommission := fun _ => none
    xrayRecovery := fun _ => none
    xrayRecoveryPending := fun _ => false
    tailscaleAwaitingDecision := fun _ => false
    tailscaleTarget := fun _ _ => none
    agentReinstallBlocked := fun _ => false
    pendingAgentReinstallTask := fun _ => .ok ""
    reinstallCommandTargetBlocked := fun _ _ => false
    validateReinstallAcceptance := fun _ _ => .ok ""
    validateReinstallMonitorReporting := fun _ _ => .ok ""
    validateReinstallMonitorRotation := fun _ _ => .ok ""
    validateReinstallInspection := fun _ _ => .ok ""
    validateReinstallPreparation := fun _ _ => .ok false
    preparationTask := fun _ => none
    reinstallMonitorRestoreTask := fun _ _ => .ok none
    reinstallCurrentTask := fun _ _ => .ok none
    reinstallRuntimeTask := fun _ _ => .ok none
    reinstallListenerTask := fun _ _ => .ok none
    reinstallLocalExecutions := fun _ => []
    reinstall := fun _ => none
    endpointAttempt := fun _ => none
    latestFailedUpdate := fun _ => none
    projects := fun _ _ => true
    affectsOne := fun _ => true }

def platform : Platform :=
  { semverIsValid := fun _ => true
    semverCompare := fun _ _ => 0
    taskDigest := fun t => t.id
    encodeLegacyReceipt := fun r => some r.taskID
    legacyReceiptArchiveID := fun a t n => "legacy-" ++ a ++ t ++ toString n
    safeError := fun e => e }

/-- A task without payload. -/
def task (id : String) (kind : TaskKind) (h : Library.Pattern.hasPrefix id kind.idPrefix = true) :
    AgentTask :=
  { id := id
    kind := kind
    attempt := 1
    revision := 1
    reconcile := false
    meridianAcceptance := none
    senulunReporting := none
    senulunRotation := none
    senulunInspection := none
    senulunInspectionValid := false
    senulunRestore := none
    packageMaintenanceAction := none
    clientCommandAction := none
    payload := ""
    id_named := h }

def deployment : AgentTask := task "deployment-1" .applicationApply (by decide)

/-- The session registers and claims its deployment. -/
def claim : List Op :=
  [.registerExecutionSession (time 0) agentID "credential" sessionID 2,
    .persistExecutionAuthorization (time 1) agentID sessionID "execution-1" deployment]

/-- The store a history of the installation leads to. -/
def store (ops : List Op) : Store := Run.run (apply platform) ops (Store.empty business)

theorem store_reachable (ops : List Op) : Reachable platform (store ops) :=
  ⟨Store.empty business, ops, ⟨business, rfl⟩, rfl⟩

end Sample

end Center
end Vastora
