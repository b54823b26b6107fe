import Vastora.Center.Execution.Operation

/-!
# Transition — what one operation does to one row

`Change pf s op e e'` says that `op`, performed in `s`, rewrites the row `e` to `e'`, and under which
guards; `Fresh pf s op e` says that `op` inserts `e`.  Guards that several operations share are
structures of their own.
-/

namespace Vastora
namespace Center

open Library.Pattern

section Relations

variable (pf : Platform) (s : Store)

/-- The row `e` belongs to the execution `id` of the session `sid` and has not been reported. -/
structure Held (a sid id : String) (e : Execution) : Prop where
  id : e.id = id
  agent : e.agentID = a
  session : e.sessionID = sid
  phase : e.phase ≠ "result_received"
  disposition : e.disposition = none

/-- The row `e` is ready to be finalized with the retained evidence `v` of its task `t`. -/
structure Finalizes (now : Instant) (a sid id : String) (e : Execution) (v : Evidence)
    (t : AgentTask) : Prop where
  id : e.id = id
  agent : e.agentID = a
  session : e.sessionID = sid
  state : e.state = .running ∨ e.state = .helperRunning
  phase : e.phase = "result_received"
  disposition : e.disposition = none
  expiry : now.format < e.expiresAt
  current : e.state = .helperRunning ∨ s.hasSession a sid
  result : e.sealedResult = some v
  task : e.sealedTask.task? = some t

/-- A reported landing failure below the stored revision and attempt. -/
structure Supersedes (a : String) (e : Execution) (st : LandingState) : Prop where
  agent : a = "" ∨ e.agentID = a
  disposition : e.disposition = none
  state : e.state = .failed
  phase : e.phase = "reported"
  landing : s.landingState e = some st
  newer : landingSuperseded e st

/-- What the handoffs share: the row and the guards under which a helper takes it over. -/
structure HandsOff (kind : TaskKind) (now : Instant) (a tid sid id : String) (n : Nat)
    (e : Execution) : Prop where
  id : e.id = id
  agent : e.agentID = a
  task : e.taskID = tid
  attempt : e.attempt = n
  session : e.sessionID = sid
  kind : e.kind = kind
  state : e.state = .running
  phase : e.phase = "handoff"
  disposition : e.disposition = none
  expiry : now.format < e.expiresAt
  current : s.hasSession a sid

/-- The row of a handed-off Tailscale update that a heartbeat settles. -/
structure Observes (now later : Instant) (a tid : String) (e : Execution) (t : AgentTask) : Prop where
  agent : e.agentID = a
  task : e.taskID = tid
  kind : e.kind = .tailscaleUpdate
  state : e.state = .helperRunning
  phase : e.phase = "start"
  disposition : e.disposition = none
  expiry : now.format < e.expiresAt
  expiryLater : later.format < e.expiresAt
  sealedTask : e.sealedTask.task? = some t

/-- The running reinstall row of the current session, in one of its own phases. -/
structure Reinstalls (now : Instant) (a sid id phase : String) (e : Execution) : Prop where
  id : e.id = id
  agent : e.agentID = a
  session : e.sessionID = sid
  kind : e.kind = .nodeOSReinstall
  state : e.state = .running
  phase : e.phase = phase
  disposition : e.disposition = none
  expiry : now.format < e.expiresAt
  current : s.hasSession a sid

/-- An update helper in the phase that `phase` follows. -/
structure HelperSteps (now : Instant) (a sid id phase : String) (e : Execution) : Prop where
  id : e.id = id
  agent : e.agentID = a
  session : e.sessionID = sid
  kind : e.kind = .agentUpdate
  state : e.state = .helperRunning
  phase : previousHelperPhase phase = some e.phase
  disposition : e.disposition = none
  expiry : now.format < e.expiresAt

/-- A cleanup helper that waits for the step with number `k`. -/
structure CleanupSteps (now : Instant) (tid tok : String) (n k : Nat) (phase : String)
    (e : Execution) : Prop where
  valid : phase ∈ decommissionPhases
  sequence : 0 < k
  callback : s.cleaningAgent tid tok n = some e.agentID
  task : e.taskID = tid
  attempt : e.attempt = n
  kind : e.kind = .agentDecommission
  state : e.state = .helperRunning
  disposition : e.disposition = none
  expiry : now.format < e.expiresAt
  phase : e.phase = (if k = 1 then "cleanup" else "") ∨ like e.phase (cleanupPhase (k - 1) "%")
  unfinished : like e.phase "cleanup:%:done" = false

/-- A cleanup helper that reports; `message` is the redacted error. -/
structure CleansUp (now : Instant) (tid tok : String) (n : Nat) (message : String) (e : Execution) :
    Prop where
  callback : s.cleaningAgent tid tok n = some e.agentID
  task : e.taskID = tid
  attempt : e.attempt = n
  kind : e.kind = .agentDecommission
  state : e.state = .helperRunning
  phase : e.phase = "cleanup" ∨ like e.phase "cleanup:%"
  disposition : e.disposition = none
  expiry : now.format < e.expiresAt
  done : message ≠ "" ∨ hasSuffix e.phase ":done"

/-- An armed reinstall whose node is back under another session. -/
structure Reconnects (a sid id tid : String) (e : Execution) : Prop where
  id : e.id = id
  agent : e.agentID = a
  task : e.taskID = tid
  kind : e.kind = .nodeOSReinstall
  state : e.state = .helperRunning ∨ e.state = .unknown
  phase : e.phase = "reinstall_armed"
  disposition : e.disposition = none
  identity : e.identityRetiredAt = ""
  current : s.hasSession a sid
  session : e.sessionID ≠ sid

/-- A retained result that proves completion. -/
structure Retained (e : Execution) (v : Evidence) : Prop where
  disposition : e.disposition = none
  identity : e.identityRetiredAt = ""
  state : e.state = .unknown
  phase : e.phase = "result_received"
  result : e.sealedResult = some v
  proof : retainedResultSupportsConfirmation e.kind v

/-- The completed recovery task `tid` disposes the row `e`: of all rows that are not `succeeded`, the
ones in its scope. -/
structure Recovers (a tid : String) (n : Nat) (v : Evidence) (e : Execution) : Prop where
  name : hasPrefix tid "xray-recovery-"
  scope : ∃ r, s.business.xrayRecovery tid = some r ∧ r.inspect = false ∧
    recoveredBy r.applicationID s e
  succeeded : v.succeeded
  agent : e.agentID = a
  other : ∀ own ∈ s.executions, own.taskID = tid → own.attempt = n → e.id ≠ own.id
  disposition : e.disposition = none
  state : e.state ≠ .succeeded

/-- The rewriting of one row by one operation. -/
inductive Change : Op → Execution → Execution → Prop where
  | interrupted {now a c sid p e} (hagent : e.agentID = a) (hsession : e.sessionID ≠ sid)
      (hdisp : e.disposition = none) (hstate : e.state.isOfferedOrRunning) :
      Change (.registerExecutionSession now a c sid p) e (interruptExecution now.format e)
  | recovered {clock a e v} (hretained : Retained e v) :
      Change (.recoverReceivedExecutionResults clock a) e
        (resolveRow pf .automatic (clock e.id).format e)
  | receivedExpired {now e} (hdisp : e.disposition = none) (hid : e.identityRetiredAt = "")
      (hstate : e.state = .running ∨ e.state = .helperRunning ∨ e.state = .unknown)
      (hphase : e.phase = "result_received") (hexpiry : e.expiresAt ≤ now.format) :
      Change (.recoverExpiredReceivedExecutionResults now) e
        (expiredReceivedExecution now.format e)
  | expired {now a sid e} (hagent : e.agentID = a) (hcurrent : s.hasSession a sid)
      (hdisp : e.disposition = none) (hstate : e.state.isActive)
      (hexpiry : e.expiresAt ≤ now.format) :
      Change (.executionClaimAllowed now a sid) e (expireExecution now.format e)
  | claimSuperseded {now a sid e st} (hcurrent : s.hasSession a sid)
      (hlanding : Supersedes s a e st) :
      Change (.executionClaimAllowed now a sid) e (supersedeExecution now.format st e)
  | superseded {now a e st} (hlanding : Supersedes s a e st) :
      Change (.disposeSupersededLandingExecutionFailures now a) e
        (supersedeExecution now.format st e)
  | started {now a sid id d e} (hid : e.id = id) (hagent : e.agentID = a)
      (hsession : e.sessionID = sid) (hdigest : e.digest = d) (hstate : e.state = .offered)
      (hdisp : e.disposition = none) (hexpiry : now.format < e.expiresAt)
      (hcurrent : s.hasSession a sid) :
      Change (.startExecution now a sid id d) e (startedExecution now e)
  | stepped {now a sid id phase e} (hvalid : phase ∈ executionPhases) (hstate : e.state = .running)
      (hexpiry : now.format < e.expiresAt) (hcurrent : s.hasSession a sid)
      (hkind : e.kind ≠ .nodeOSReinstall ∨ e.phase = "started" ∧ phase = "apply")
      (hrow : Held a sid id e) :
      Change (.checkExecutionStep now a sid id phase) e (steppedExecution now phase e)
  | renewed {now a sid id e} (hstate : e.state = .running) (hexpiry : now.format < e.expiresAt)
      (hcurrent : s.hasSession a sid) (hrow : Held a sid id e) :
      Change (.renewExecution now a sid id) e (renewedExecution now e)
  | stopped {now a sid id u err e} (hstate : e.state.isOfferedOrRunning)
      (hcurrent : s.hasSession a sid) (hrow : Held a sid id e) :
      Change (.stopExecution now a sid id u err) e (stoppedExecution pf now u err e)
  | reported {now a sid id r e}
      (hstate : e.state = .running ∧ s.hasSession a sid ∨
        e.state = .helperRunning ∧ e.kind = .agentUpdate)
      (hexpiry : now.format < e.expiresAt)
      (hhelper : e.state = .helperRunning → r.succeeded → e.phase = "start")
      (hrow : Held a sid id e) :
      Change (.storeExecutionResult now a sid id r) e (reportedExecution pf now r e)
  | finalized {d now a sid id e v t} (hfinal : Finalizes s now a sid id e v t) :
      Change (.finalizeExecution d now a sid id) e (finalizedExecution d now v t e)
  | completed {d now a c sid id tid n e v t} (hfinal : Finalizes s now a sid id e v t)
      (htaskID : e.taskID = tid) (hattempt : e.attempt = n) :
      Change (.completeTask d now a c sid id tid n) e (finalizedExecution d now v t e)
  | configurationRecovered {d now a c sid id tid n e own v t} (hown : own ∈ s.executions)
      (hfinal : Finalizes s now a sid id own v t) (htaskID : own.taskID = tid)
      (hattempt : own.attempt = n) (houtcome : v.outcome = .succeeded)
      (hrecovers : Recovers s a tid n v e) :
      Change (.completeTask d now a c sid id tid n) e
        (dispose .configurationRecovered "Explicit Xray configuration recovery completed" "system"
          now.format e)
  | taskInterrupted {now a e} (hagent : e.agentID = a)
      (hlease : ∃ l ∈ s.leases, leaseExpired a now.format l ∧ l.taskID = e.taskID)
      (hdisp : e.disposition = none) (hstate : e.state.isOfferedOrRunning) :
      Change (.recoverExpiredTasks now a) e (interruptedTaskExecution now.format e)
  | updateHandedOff {now a c tid n id sid e}
      (hrow : HandsOff s .agentUpdate now a tid sid id n e) :
      Change (.beginAgentUpdateExecution now a c tid n id sid) e
        (handedOffExecution "helper" now (now.add helperDuration) e)
  | decommissionHandedOff {now l a c tid n id sid e}
      (hrow : HandsOff s .agentDecommission now a tid sid id n e) :
      Change (.beginAgentDecommission now l a c tid n id sid) e
        (handedOffExecution "cleanup" now (l.add helperDuration) e)
  | tailscaleHandedOff {now a c tid id sid n e}
      (hrow : HandsOff s .tailscaleUpdate now a tid sid id n e) :
      Change (.beginTailscaleUpdate now a c tid id sid n) e
        (handedOffExecution "start" now (now.add helperDuration) e)
  | helperStepped {now a sid id phase e} (hrow : HelperSteps now a sid id phase e) :
      Change (.checkUpdateHelperStep now a sid id phase) e (advancedExecution now phase e)
  | cleanupStepped {now tid tok n k phase e} (hrow : CleanupSteps s now tid tok n k phase e) :
      Change (.authorizeDecommissionStep now tid tok n k phase) e
        (advancedExecution now (cleanupPhase k phase) e)
  | cleanedUp {now tid tok n err message e}
      (hmessage : message = if err = "" then "" else pf.safeError err)
      (hrow : CleansUp s now (trimSpace tid) (trimSpace tok) n message e) :
      Change (.completeAgentDecommissionCallback now tid tok n err) e
        (cleanedUpExecution now err message e)
  | observed {now d l a o succeeded e t} (hrow : Observes now l a o.taskID e t) :
      Change (.reconcileTailscaleUpdate now d l a o) e
        (finalizedExecution d l (tailscaleEvidence succeeded) t (observedExecution now succeeded e))
  | backedUp {now l a sid id ev e} (hrow : Reinstalls s l a sid id "apply" e) :
      Change (.recordOSReinstallBackup now l a sid id ev) e (advancedExecution l "backup_ready" e)
  | armed {now a sid id ev e} (hrow : Reinstalls s now a sid id "backup_ready" e) :
      Change (.armOSReinstall now a sid id ev) e
        (handedOffExecution "reinstall_armed" now (now.add reinstallDuration) e)
  | reinstalled {now a c sid id tid ev e} (hrow : Reconnects s a sid id tid e) :
      Change (.completeOSReinstall now a c sid id tid ev) e (reinstalledExecution now e)
  | projected {now id e v} (hid : e.id = id) (hretained : Retained e v) :
      Change (.projectRetainedExecutionResult now id .automatic) e
        (resolveRow pf .automatic now.format e)
  | confirmed {now id adm note e} (hid : e.id = id) (hdisp : e.disposition = none)
      (hidentity : e.identityRetiredAt = "") (hstate : e.state.isFailedOrUnknown) :
      Change (.projectRetainedExecutionResult now id (.operator adm note)) e
        (dispose .confirmCompleted (pf.safeError note) adm now.format e)
  | confirmedStopped {now id adm input e} (hid : e.id = id) (hdisp : e.disposition = none)
      (hidentity : e.identityRetiredAt = "") (hstate : e.state.isFailedOrUnknown) :
      Change (.confirmExecution now id adm input) e
        (dispose .confirmCompleted (pf.safeError input.note) adm now.format e)
  | disposed {now id adm input d e} (hid : e.id = id) (hdisp : e.disposition = none)
      (hstate : e.state.isFailedOrUnknown) (haction : d = .abandon ∨ d = .reexecute) :
      Change (.disposeTaskExecution now id adm input) e
        (dispose d (pf.safeError input.note) adm now.format e)
  | helperDisposed {now id adm input obs d e} (hid : e.id = id)
      (hkind : e.kind = .agentUpdate ∨ e.kind = .agentDecommission) (hdisp : e.disposition = none)
      (hstate : e.state.isFailedOrUnknown)
      (haction : d = .abandon ∨ d = .confirmCompleted ∧ e.identityRetiredAt = "") :
      Change (.disposeHelperExecution now id adm input obs) e
        (dispose d (pf.safeError input.note) adm now.format e)
  | acknowledged {now a tid adm ok note e} (htask : e.taskID = tid) (hagent : e.agentID = a)
      (hkind : e.kind = .tailscaleUpdate) (hdisp : e.disposition = none)
      (hstate : e.state.isFailedOrUnknown ∨ e.state = .helperRunning) :
      Change (.acknowledgeTailscaleUpdate now a tid adm ok note) e
        (acknowledgedExecution (pf.safeError (trimSpace note)) adm now.format e)
  | updateRecovered {now a adm fid n ok note e} (htask : e.taskID = fid) (hagent : e.agentID = a)
      (hkind : e.kind = .agentUpdate) (hdisp : e.disposition = none) (hstate : e.state = .failed) :
      Change (.authorizeAgentUpdateRecovery now a adm fid n ok note) e
        (dispose .abandon (pf.safeError (trimSpace note)) adm now.format e)
  | settled {now a adm ok e} (hagent : e.agentID = a) (hidentity : e.identityRetiredAt ≠ "")
      (hdisp : e.disposition = none) (hstate : e.state.isFailedOrUnknown) :
      Change (.settleAgentReinstallLocalWork now a adm ok) e
        (dispose .abandon "Old-machine local execution isolated by reinstall recovery" adm
          now.format e)
  | endpointRecovered {now eid adm ok e} (hdisp : e.disposition = none)
      (hstate : e.state.isFailedOrUnknown) :
      Change (.recoverMeridianEndpoint now eid adm ok) e
        (dispose .meridianCenterRecovery
          "Operator confirmed the previous execution stopped and selected current Center state"
          (trimSpace adm) now.format e)
  | receiptAbandoned {now id adm input e} (hid : e.id = id) (hkind : e.kind = .legacyReceipt)
      (hdisp : e.disposition = none) (hstate : e.state = .unknown) :
      Change (.abandonLegacyReceipt now id adm input) e
        (dispose .abandon (pf.safeError input.note) adm now.format e)
  | retired {now a e} (hagent : e.agentID = a) (hdisp : e.disposition = none)
      (hstate : e.state ≠ .succeeded) (hidentity : e.identityRetiredAt = "") :
      Change (.retireAgentExecutionIdentity now a) e (retireExecution now.format e)
  | paused {now a e} (hagent : e.agentID ≠ a) (hkind : e.kind = .applicationCommand)
      (hdisp : e.disposition = none) (hstate : e.state.isActive) :
      Change (.pauseReinstallRelatedCommands now a) e (pausedExecution now.format e)

/-- The insertion of a row by one operation. -/
inductive Fresh : Op → Execution → Prop where
  | authorized {now a sid id t} (htask : t.id ≠ "") (hattempt : 0 < t.attempt)
      (hfence : checkFence pf a t s = .ok ()) (hcurrent : s.hasSession a sid)
      (hid : ∀ r ∈ s.executions, r.id ≠ id)
      (hunique : ∀ r ∈ s.executions, r.taskID = t.id → r.attempt ≠ t.attempt) :
      Fresh (.persistExecutionAuthorization now a sid id t)
        (authorizedExecution pf now a sid id t)
  | archived {now a c sid d r} (hcurrent : s.hasSession a sid)
      (hidle : ∀ e ∈ s.executions, e.agentID = a → e.isActive = false)
      (hid : ∀ e ∈ s.executions, e.id ≠ pf.legacyReceiptArchiveID a r.taskID r.attempt)
      (hunique : ∀ e ∈ s.executions,
        e.taskID = pf.legacyReceiptArchiveID a r.taskID r.attempt → e.attempt ≠ r.attempt) :
      Fresh (.importLegacyReceipt now a c sid d r)
        (archivedExecution now a sid (pf.legacyReceiptArchiveID a r.taskID r.attempt) d r)

end Relations

end Center
end Vastora
