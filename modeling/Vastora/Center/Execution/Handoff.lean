import Vastora.Center.Execution.Progress

/-!
# Handoff — executions that outlive their Agent process

An update, a host cleanup, a Tailscale update and a reinstall replace or remove the process that was
granted them.  A handoff moves the running row to `helper_running` together with the lease of the
task, and the helper then consumes its own one-use permissions: the ordered phases of an update, the
numbered steps of a cleanup, and the verified reconnect of a reinstall.
-/

namespace Vastora
namespace Center

open Library.Guard Library.Pattern Library.Table

/-! ## Handoffs -/

/-- The row a helper takes over. -/
def handedOffExecution (phase : String) (now expiry : Instant) (e : Execution) : Execution :=
  { e with
    state := .helperRunning
    phase := phase
    updatedAt := now.format
    expiresAt := expiry.format }

/-- The statement the helper handoffs share: the row must be running in phase `handoff`, unexpired,
and of the current session. -/
def handOff (kind : TaskKind) (phase : String) (now expiry : Instant)
    (agentID taskID sessionID executionID : String) (attempt : Nat) (s : Store) :
    Except StoreError Store :=
  s.updateOne
    (fun e => e.id == executionID && e.agentID == agentID && e.taskID == taskID &&
      e.attempt == attempt && e.sessionID == sessionID && e.kind == kind && e.state == .running &&
      e.phase == "handoff" && e.disposition.isNone && decide (now.format < e.expiresAt) &&
      s.hasSession agentID sessionID)
    (handedOffExecution phase now expiry) .executionAuthorization

def beginAgentUpdateExecution (now : Instant) (agentID credential taskID : String) (attempt : Nat)
    (executionID sessionID : String) (s : Store) : Except StoreError Store := do
  require (s.authenticateAgent agentID credential) authenticationFailed
  require (executionID != "" && sessionID != "" && 0 < attempt) .executionAuthorization
  let s' ← handOff .agentUpdate "helper" now (now.add helperDuration) agentID taskID sessionID
    executionID attempt s
  s'.affectOne (.transferAgentUpdate taskID agentID attempt now.format) .staleTaskLease
  return s'

/-- The lifetime of the cleanup helper starts at a second clock reading, `later`. -/
def beginAgentDecommission (now later : Instant) (agentID credential taskID : String)
    (expectedAttempt : Nat) (executionID sessionID : String) (s : Store) :
    Except StoreError Store := do
  require (taskID == agentDecommissionTaskID agentID && 0 < expectedAttempt) .staleTaskLease
  require (s.authenticateAgent agentID credential) authenticationFailed
  require (executionID != "" && sessionID != "") .executionAuthorization
  let s' ← handOff .agentDecommission "cleanup" now (later.add helperDuration) agentID taskID
    sessionID executionID expectedAttempt s
  s'.affectOne (.transferDecommission agentID expectedAttempt now.format) .staleTaskLease
  return s'

def beginTailscaleUpdate (now : Instant) (agentID credential taskID executionID sessionID : String)
    (attempt : Nat) (s : Store) : Except StoreError Store := do
  require (s.authenticateAgent agentID credential) authenticationFailed
  let s' ← handOff .tailscaleUpdate "start" now (now.add helperDuration) agentID taskID sessionID
    executionID attempt s
  s'.affectOne (.transferTailscaleUpdate taskID agentID attempt now.format) .staleTaskLease
  return s'

/-! ## Phases of an update helper -/

/-- The phase each helper phase consumes. -/
def previousHelperPhase : String → Option String
  | "stop" => some "helper"
  | "backup" => some "stop"
  | "preserve" => some "backup"
  | "install" => some "preserve"
  | "start" => some "install"
  | _ => none

/-- A consumed phase; the lease of a helper is not renewed. -/
def advancedExecution (now : Instant) (phase : String) (e : Execution) : Execution :=
  { e with
    phase := phase
    updatedAt := now.format }

def checkUpdateHelperStep (now : Instant) (agentID sessionID executionID phase : String)
    (s : Store) : Except StoreError Store :=
  match previousHelperPhase phase with
  | none => .error .executionAuthorization
  | some previous =>
      s.updateOne
        (fun e => e.id == executionID && e.agentID == agentID && e.sessionID == sessionID &&
          e.kind == .agentUpdate && e.state == .helperRunning && e.phase == previous &&
          e.disposition.isNone && decide (now.format < e.expiresAt))
        (advancedExecution now phase) .executionAuthorization

/-! ## Steps of a cleanup helper -/

def decommissionPhases : List String := ["command", "runtime", "files", "cancel-update", "done"]

/-- `fmt.Sprintf("cleanup:%d:%s", sequence, phase)`. -/
def cleanupPhase (sequence : Nat) (phase : String) : String :=
  "cleanup:" ++ toString sequence ++ ":" ++ phase

/-- The agent whose cleanup has this task id. -/
def decommissionAgent (taskID : String) : Option String :=
  if hasPrefix taskID "agent-decommission-" then some (trimPrefix taskID "agent-decommission-")
  else none

namespace Store

/-- The cleanup in state `cleaning` that a callback token belongs to. -/
def cleaningAgent (s : Store) (taskID token : String) (attempt : Nat) : Option String := do
  let agentID ← decommissionAgent taskID
  let row ← s.business.decommission agentID
  guard (row.cleaning && row.attempt == attempt && row.acceptsToken token)
  return agentID

end Store

def authorizeDecommissionStep (now : Instant) (taskID token : String) (attempt sequence : Nat)
    (phase : String) (s : Store) : Except StoreError Store := do
  require (token != "" && 0 < attempt && 0 < sequence && sequence ≤ 1024 &&
    decommissionPhases.contains phase) .executionAuthorization
  let agentID ← fetch (s.cleaningAgent taskID token attempt) .executionAuthorization
  let initial := if sequence == 1 then "cleanup" else ""
  s.updateOne
    (fun e => e.agentID == agentID && e.taskID == taskID && e.attempt == attempt &&
      e.kind == .agentDecommission && e.state == .helperRunning && e.disposition.isNone &&
      decide (now.format < e.expiresAt) &&
      (e.phase == initial || like e.phase (cleanupPhase (sequence - 1) "%")) &&
      !like e.phase "cleanup:%:done")
    (advancedExecution now (cleanupPhase sequence phase)) .executionAuthorization

section Callback

variable (pf : Platform)

def invalidCallback : StoreError := .message "center: invalid Agent host cleanup callback"

/-- The evidence a cleanup callback leaves behind. -/
def callbackEvidence (message : String) : Evidence :=
  { result := { text := message, valid := true, length := message.length }
    succeeded := message == ""
    unknown := message != ""
    applicationRuntimeGeneration := none }

/-- The phase a cleanup callback leaves behind; `message` is the redacted error. -/
def callbackPhase (taskError message previous : String) : String :=
  if message != "" then previous else if taskError == "" then "completed" else "cleanup"

def cleanedUpExecution (now : Instant) (taskError message : String) (e : Execution) : Execution :=
  { e with
    state := if taskError == "" then .succeeded else .unknown
    phase := callbackPhase taskError message e.phase
    lastError := message
    sealedResult := some (callbackEvidence message)
    updatedAt := now.format }

/-- An error text that is blank once redacted is recorded with the phase `cleanup`. -/
def completeAgentDecommissionCallback (now : Instant) (rawTaskID rawToken : String)
    (expectedAttempt : Nat) (taskError : String) (s : Store) : Except StoreError Store := do
  let taskID := trimSpace rawTaskID
  let token := trimSpace rawToken
  require (taskID != "" && token != "" && 0 < expectedAttempt) invalidCallback
  let agentID ← fetch (s.cleaningAgent taskID token expectedAttempt) invalidCallback
  let message := if taskError == "" then "" else pf.safeError taskError
  let row ← fetch (s.executions.find? fun e => e.agentID == agentID && e.taskID == taskID &&
      e.attempt == expectedAttempt && e.kind == .agentDecommission && e.state == .helperRunning &&
      (e.phase == "cleanup" || like e.phase "cleanup:%") && e.disposition.isNone &&
      decide (now.format < e.expiresAt))
    .executionAuthorization
  require (message != "" || hasSuffix row.phase ":done") .executionAuthorization
  let s' ← s.updateOne
    (fun e => e.id == row.id && e.state == .helperRunning && e.phase == row.phase &&
      e.disposition.isNone && decide (now.format < e.expiresAt))
    (cleanedUpExecution now taskError message) .executionAuthorization
  s'.affectOne (.finishDecommission agentID expectedAttempt (taskError == ""))
    (.message "center: Agent host cleanup task is stale")
  return s'

end Callback

/-! ## Verified Tailscale updates -/

/-- What a heartbeat says about the update service of a node. -/
structure UpdateObservation where
  taskID : String
  state : String
  installedVersion : String
  runningVersion : String
deriving DecidableEq, Repr

/-- The outcome an observation proves, if any. -/
def UpdateObservation.outcome (o : UpdateObservation) (target : String) : Option Bool :=
  if o.state == "failed" then some false
  else if o.state == "succeeded" && o.installedVersion == target && o.runningVersion == target then
    some true
  else none

def tailscaleEvidence (succeeded : Bool) : Evidence :=
  { result := { text := "\x7b\x7d", valid := true, length := 2 }
    succeeded := succeeded
    unknown := false
    applicationRuntimeGeneration := none }

/-- The row a Tailscale observation settles. -/
def awaitsObservation (agentID taskID : String) (e : Execution) : Bool :=
  e.agentID == agentID && e.taskID == taskID && e.kind == .tailscaleUpdate &&
    e.state == .helperRunning && e.phase == "start" && e.disposition.isNone

def observedExecution (now : Instant) (succeeded : Bool) (e : Execution) : Execution :=
  { e with
    sealedResult := some (tailscaleEvidence succeeded)
    phase := "result_received"
    lastError := if succeeded then "" else "Package update failed; inspect the node before retrying"
    updatedAt := now.format }

/-- The evidence of an observation is stored and published in one transaction; `disposed` and
`later` are the clock readings inside `finalizeExecution`. -/
def settleTailscaleUpdate (now disposed later : Instant) (agentID taskID : String)
    (succeeded : Bool) (row : Execution) (s : Store) : Except StoreError Store := do
  let stored ← s.updateOne
    (fun e => e.id == row.id && e.agentID == agentID && e.taskID == taskID &&
      e.attempt == row.attempt && e.state == .helperRunning && e.phase == "start" &&
      e.disposition.isNone)
    (observedExecution now succeeded) .executionAuthorization
  stored.affectOne (.settleTailscaleUpdate taskID agentID row.attempt succeeded) .staleTaskLease
  require (stored.business.projects row.id (tailscaleEvidence succeeded))
    (.message "center: execution projection was rejected")
  finalizeExecution disposed later agentID row.sessionID row.id stored

/-- An observation that proves nothing, or that nobody waits for, changes nothing. -/
def reconcileTailscaleUpdate (now disposed later : Instant) (agentID : String)
    (o : UpdateObservation) (s : Store) : Except StoreError Store :=
  if !hasPrefix o.taskID "tailscale-update-" || 128 < o.taskID.utf8ByteSize then .ok s
  else
    match (s.business.tailscaleTarget o.taskID agentID).bind o.outcome,
      s.executions.find? (fun e => awaitsObservation agentID o.taskID e &&
        decide (now.format < e.expiresAt)) with
    | some succeeded, some row =>
        settleTailscaleUpdate now disposed later agentID o.taskID succeeded row s
    | _, _ => .ok s

/-! ## Reinstalls -/

def backupRejected : StoreError := .message "center: reinstall backup evidence rejected"

def armingRejected : StoreError := .message "center: reinstall arming evidence rejected"

def reconnectRejected : StoreError := .message "center: reinstall reconnect evidence rejected"

/-- A running reinstall row of the current session in the given phase. -/
def reinstallRow (now : Instant) (agentID sessionID executionID phase : String) (s : Store)
    (e : Execution) : Bool :=
  e.id == executionID && e.agentID == agentID && e.sessionID == sessionID &&
    e.kind == .nodeOSReinstall && e.state == .running && e.phase == phase &&
    e.disposition.isNone && decide (now.format < e.expiresAt) && s.hasSession agentID sessionID

/-- The reinstall task of a row, in the given state and with an unexpired lease. -/
def Store.reinstallTask (s : Store) (now : Instant) (state : ReinstallState) (e : Execution) :
    Option ReinstallRow :=
  (s.business.reinstall e.taskID).filter fun q => q.agentID == e.agentID && q.attempt == e.attempt &&
    q.attempt == 1 && q.state == state && decide (now.format < q.leaseExpiresAt) &&
    (s.business.agent e.agentID).isSome

/-- `now` is read before the uploaded artifact is inspected and `later` before it is recorded. -/
def recordOSReinstallBackup (now later : Instant) (agentID sessionID executionID evidence : String)
    (s : Store) : Except StoreError Store := do
  require (agentID != "" && sessionID != "" && executionID != "") backupRejected
  let row ← fetch (s.executions.find? (reinstallRow now agentID sessionID executionID "apply" s))
    backupRejected
  let task ← fetch (s.reinstallTask now .running row) backupRejected
  require (task.acceptsBackup evidence) backupRejected
  let s' ← s.updateOne
    (fun e => reinstallRow later agentID sessionID executionID "apply" s e && e.taskID == row.taskID)
    (advancedExecution later "backup_ready") .executionAuthorization
  s'.affectOne (.backUpReinstall row.taskID agentID later.format) .executionAuthorization
  return s'

def armOSReinstall (now : Instant) (agentID sessionID executionID evidence : String) (s : Store) :
    Except StoreError Store := do
  require (agentID != "" && sessionID != "" && executionID != "") armingRejected
  let row ← fetch
    (s.executions.find? (reinstallRow now agentID sessionID executionID "backup_ready" s))
    armingRejected
  let task ← fetch (s.reinstallTask now .backupReady row) armingRejected
  require (task.acceptsArm evidence) armingRejected
  let s' ← s.updateOne
    (fun e => reinstallRow now agentID sessionID executionID "backup_ready" s e &&
      e.taskID == row.taskID)
    (handedOffExecution "reinstall_armed" now (now.add reinstallDuration)) .executionAuthorization
  s'.affectOne (.armReinstall row.taskID agentID now.format) .executionAuthorization
  return s'

/-- A row whose verified reconnect may be accepted, or was accepted before. -/
def reconnectRow (now : Instant) (agentID sessionID executionID taskID : String) (e : Execution) :
    Bool :=
  e.id == executionID && e.agentID == agentID && e.taskID == taskID && e.kind == .nodeOSReinstall &&
    ((e.state == .helperRunning && e.phase == "reinstall_armed" && e.expiresAt != "") ||
      (e.state == .unknown && e.phase == "reinstall_armed" && e.expiresAt != "" &&
        decide (e.expiresAt ≤ now.format)) ||
      (e.state == .succeeded && e.phase == "reinstall_verified")) &&
    e.disposition.isNone && e.identityRetiredAt == "" && e.sessionID != sessionID

def reinstalledExecution (now : Instant) (e : Execution) : Execution :=
  { e with
    state := .succeeded
    phase := "reinstall_verified"
    lastError := ""
    updatedAt := now.format }

def completeOSReinstall (now : Instant) (agentID credential sessionID executionID taskID evidence :
    String) (s : Store) : Except StoreError Store := do
  require (agentID != "" && credential != "" && sessionID != "" && executionID != "" &&
    taskID != "" && s.authenticateAgent agentID credential && s.hasSession agentID sessionID)
    reconnectRejected
  let row ← fetch (s.executions.find? (reconnectRow now agentID sessionID executionID taskID))
    reconnectRejected
  let task ← fetch (s.business.reinstall taskID) reconnectRejected
  require (task.agentID == agentID && task.attempt == row.attempt && task.attempt == 1 &&
    task.acceptsReconnect evidence) reconnectRejected
  -- A lost response may be retried without another install.
  if task.state == .succeeded && row.state == .succeeded then
    return s
  require (task.state == .armed && row.state != .succeeded) reconnectRejected
  s.affectOne (.finishReinstall taskID agentID) reconnectRejected
  s.updateOne
    (fun e => e.id == executionID && e.agentID == agentID && e.taskID == taskID &&
      e.sessionID == row.sessionID && (e.state == .helperRunning || e.state == .unknown) &&
      e.phase == "reinstall_armed" && e.disposition.isNone && e.identityRetiredAt == "" &&
      e.expiresAt != "" && (e.state == .helperRunning || decide (e.expiresAt ≤ now.format)))
    (reinstalledExecution now) reconnectRejected

end Center
end Vastora
