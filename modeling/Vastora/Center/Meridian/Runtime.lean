import Vastora.Center.Meridian.Usage

/-!
# Runtime — what a report of an entry changes

An Agent reports the counters of an entry with its heartbeat (`recordMeridianRuntimeObservation`) and
with the result of a command (`completeMeridianRuntimeCommand`).  Both compare the quotas before and
after the counters are observed, and a quota that was crossed asks for a new revision of every entry
that serves it.
-/

namespace Vastora
namespace Center
namespace Meridian

open Library Library.Guard

/-- `glivela.AccountPlan`. -/
structure AccountPlan where
  totalBytes : Int
  expiryTime : Int
  resetDays : Int
  enabled : Bool

/-- `glivela.UsageMember`. -/
structure UsageMember where
  credentialID : String
  baseline : Int
  observed : Int
  active : Bool

/-- The transport of a fixed egress, as a report has verified it. -/
structure RouteHealth where
  grantID : String
  egressID : String
  secondaryID : String
  healthy : Bool

/-- `application_commands.state` of a completed command. -/
inductive CommandState where
  | succeeded | failed
deriving DecidableEq, Repr

/-- The packages and features that a report goes through: `π` is the projection of an entry and `ρ` a
report.  Functions that write return the tables of other features. -/
structure Runtime (β π ρ : Type) extends Rest β where
  /-- `glivela.ProjectQuota`: the projected `Enabled`. -/
  projectQuota : AccountPlan → List UsageMember → Option Bool
  /-- `glivela.ParseXrayUserCounters`. -/
  parseXrayUserCounters : π → ρ → Option (List CounterSnapshot)
  buildMeridianRuntimeTask : Database β → String → String → Except String π
  /-- `projection.task.Desired.Revision`. -/
  revision : π → Int
  /-- `projection.task.RetireLegacy`. -/
  retireLegacy : π → Bool
  /-- `result.LegacyRetired`. -/
  legacyRetired : ρ → Bool
  /-- The report matches the projection. -/
  validate : π → ρ → Bool
  /-- The transports of the report can be judged. -/
  peerHealth : π → ρ → Instant → Bool
  /-- The result of a command is a receipt for the projection, with all evidence it needs. -/
  verifyReceipt : π → ρ → Instant → Except String Unit
  readyRoutes : π → ρ → Instant → Except String (List RouteHealth)
  /-- `projection.blockedRouteGrants`. -/
  blockedRoutes : π → List String
  /-- `applications.node_id`. -/
  applicationNode : β → String → Option String
  /-- The application is a running Meridian. -/
  running : β → String → Bool
  /-- `meridian_deployments.desired_revision` of a command. -/
  deployment : β → String → String → Option Int
  /-- The digest of that deployment has the form of one. -/
  deploymentValid : β → String → String → Bool
  recordRouteHealthDiagnostics : Database β → String → Except String β
  /-- The egress evidence of a receipt. -/
  storeEvidence : Database β → π → ρ → Except String β
  /-- The service and the deployment of a verified entry. -/
  applyDeployment : Database β → String → String → π → Except String β
  reconcileApplicationPublications : Database β → π → Except String β
  /-- The command, its event and the deployment of a failed one. -/
  finishCommand : Database β → String → CommandState → Except String β
  reconcileClientLandingSourcesForNode : Database β → String → Except String β
  reconcileMeridianCutoverInTx : Database β → Except String β

section Runtime

variable {β π ρ : Type} (rt : Runtime β π ρ)

/-! ## Quotas -/

def meridianAccountUsageInTx (db : Database β) (accountID : String) :
    Except String (List UsageMember) := do
  let credentials := (db.credentials.filter (·.accountID == accountID)).insertionSort (·.id ≤ ·.id)
  let usage ← credentials.mapM fun c => do
    let w ← fetch (db.watermark c.id) "center: Glivela usage watermark is missing"
    return UsageMember.mk c.id w.baselineBytes w.observedBytes c.enabled
  require (!usage.isEmpty) "center: Glivela account has no usage authority"
  return usage

/-- The plan of an account at a reading of the clock. -/
def Account.plan (a : Account) (now : Int) : AccountPlan where
  totalBytes := a.totalBytes
  expiryTime := a.expiryTime
  resetDays := a.resetDays
  enabled := a.enabled && a.status == .active && (a.expiryTime == 0 || now < a.expiryTime)

/-- The accounts of an entry and whether they are enabled.  The clock is read once for each account. -/
def meridianQuotaStatesInTx (clock : String → Int) (db : Database β) (endpointID : String) :
    Except String (List (String × Bool)) :=
  ((db.accounts.filter fun a => db.hasCredential a.id endpointID).insertionSort (·.id ≤ ·.id)).mapM
    fun a => do
      let usage ← meridianAccountUsageInTx db a.id
      let enabled ← fetch (rt.projectQuota (a.plan (clock a.id)) usage)
        "center: stored Glivela quota is invalid"
      return (a.id, enabled)

/-- The accounts whose state is another one afterwards. -/
def changedAccounts (before after : List (String × Bool)) : List String :=
  (before.filter fun state => after.lookup state.1 != some state.2).map Prod.fst

/-- One account of a crossed quota. -/
def rebuildAccount (db : Database β) (accountID : String) : Database β :=
  let revise (a : Account) : Account := { a with desiredRevision := a.desiredRevision + 1 }
  let db := { db with accounts := Table.update (·.id == accountID) revise db.accounts }
  db.rebuildAccountGrants accountID

def rebuildEndpoint (db : Database β) (endpointID : String) : Except String (Database β) := do
  let endpoints ← fetch (Table.updateOne (·.id == endpointID) Endpoint.rebuild db.endpoints)
    "center: Glivela quota boundary references an unavailable endpoint"
  return { db with endpoints }

/-- The entries in use of several accounts, each once and in order. -/
def affectedEndpoints (db : Database β) (accountIDs : List String) : List String :=
  (accountIDs.flatMap db.endpointsOf).dedup.insertionSort (· ≤ ·)

def markMeridianQuotaBoundaryChanged (rest : Rest β) (db : Database β) (accountIDs : List String) :
    Except String (Database β) := do
  let endpointIDs := affectedEndpoints db accountIDs
  require (!endpointIDs.isEmpty) "center: Glivela quota boundary has no affected endpoint"
  let db ← endpointIDs.foldlM (ensureMeridianSubscriptionSnapshotsForEndpointInTx rest) db
  let db := accountIDs.foldl rebuildAccount db
  endpointIDs.foldlM rebuildEndpoint db

/-! ## Fixed egresses -/

/-- The grant is neither revoked nor about to be. -/
def RouteGrant.live (g : RouteGrant) : Bool := g.enabled && g.status != .revoked && g.status != .revoking

/-- The transport of the applied revision was judged. -/
def RouteGrant.observe (healthy : Bool) (g : RouteGrant) : RouteGrant :=
  { g with appliedRevision := g.desiredRevision
           runtimeHealthy := healthy
           healthExpiresUnixMs := 0
           status := if healthy then .ready else .blocked }

/-- The revision of the entry was applied; a revocation is complete. -/
def RouteGrant.adopt (g : RouteGrant) : RouteGrant :=
  { g with appliedRevision := g.desiredRevision
           runtimeHealthy := false
           healthExpiresUnixMs := 0
           status := if g.status = .revoking then .revoked else g.status }

def RouteGrant.fail (g : RouteGrant) : RouteGrant :=
  { g with runtimeHealthy := false
           status := if g.status = .revoking ∨ g.status = .revoked then g.status else .failed }

def recordRoute (endpointID : String) (db : Database β) (r : RouteHealth) :
    Except String (Database β) := do
  let grants ← fetch (Table.updateOne (fun g => g.id == r.grantID && g.endpointID == endpointID &&
      g.egressNodeID == r.egressID && g.ipv4EgressNodeID.getD "" == r.secondaryID && g.live)
    (RouteGrant.observe r.healthy) db.grants)
    "center: Glivela route changed before its transport observation was committed"
  let other ← rt.recordRouteHealthDiagnostics { db with grants } r.grantID
  return { db with grants, other }

def blockRoute (endpointID : String) (db : Database β) (grantID : String) :
    Except String (Database β) := do
  let grants ← fetch (Table.updateOne
    (fun g => g.id == grantID && g.endpointID == endpointID && g.live) (RouteGrant.observe false)
    db.grants)
    "center: Glivela blocked route changed before its observation was committed"
  let other ← rt.recordRouteHealthDiagnostics { db with grants } grantID
  return { db with grants, other }

def recordMeridianRouteHealth (endpointID : String) (projection : π) (result : ρ) (now : Instant)
    (db : Database β) : Except String (Database β) := do
  let ready ← rt.readyRoutes projection result now
  let db ← ready.foldlM (recordRoute rt endpointID) db
  (rt.blockedRoutes projection).foldlM (blockRoute rt endpointID) db

/-! ## Counters -/

/-- What the counters of a report have changed: the accounts and the entry whose quota they crossed. -/
structure Crossing where
  accounts : List String
  endpoint : Bool

/-- The quotas before the counters are read: those of the accounts of the entry, and its own. -/
def quotasBefore (clock : String → Int) (endpointID : String) (db : Database β) :
    Except String (List (String × Bool) × Bool) := do
  let states ← meridianQuotaStatesInTx rt clock db endpointID
  let endpoint ← meridianEndpointQuotaEnabledInTx db endpointID
  return (states, endpoint)

/-- The counters are observed and the quotas are read again. -/
def observeCounters (clock : String → Int) (endpointID : String) (before : List (String × Bool) × Bool)
    (snapshots : List CounterSnapshot) (db : Database β) :
    Except String (Database β × Crossing) := do
  let db ← observeMeridianUsageInTx endpointID snapshots db
  let endpoint ← meridianEndpointQuotaEnabledInTx db endpointID
  let states ← meridianQuotaStatesInTx rt clock db endpointID
  return (db, ⟨changedAccounts before.1 states, before.2 != endpoint⟩)

/-- A crossed quota of an account rebuilds its entries, and with them the one that was observed. -/
def markCrossing (endpointID : String) (db : Database β) (crossing : Crossing) :
    Except String (Database β) :=
  if !crossing.accounts.isEmpty then
    markMeridianQuotaBoundaryChanged rt.toRest db crossing.accounts
  else if crossing.endpoint then markMeridianEndpointQuotaBoundaryChanged rt.toRest db endpointID
  else .ok db

/-! ## Heartbeats -/

/-- The entry of a heartbeat, unless a pilot owns it or its desired revision is not applied. -/
def observedEndpoint (agentID : String) (db : Database β) : Except String (Option Endpoint) := do
  if db.endpoints.any fun e => rt.pilotOwns db.other e.id &&
      rt.applicationNode db.other e.applicationID == some agentID then
    return none
  let e ← fetch (db.endpoints.find? fun e => rt.applicationNode db.other e.applicationID == some agentID &&
      rt.running db.other e.applicationID && e.status != .retired)
    "center: Agent reported a Glivela runtime without an owned endpoint"
  return if e.appliedRevision == 0 || e.appliedRevision != e.desiredRevision then none else some e

/-- Nothing was crossed: the entry is healthy. -/
def confirmEndpoint (endpointID : String) (projection : π) (result : ρ) (now : Instant)
    (db : Database β) : Except String (Database β) := do
  let endpoints ← fetch (Table.updateOne (fun e => e.id == endpointID && e.status == .ready &&
      e.desiredRevision == e.appliedRevision) (fun e => { e with runtimeHealthy := true }) db.endpoints)
    "center: Glivela endpoint changed during runtime observation"
  let db ← recordMeridianRouteHealth rt endpointID projection result now { db with endpoints }
  let other ← rt.reconcileMeridianCutoverInTx db
  return { db with other }

/-- A heartbeat for an entry whose desired revision is applied. -/
def observeEndpoint (agentID : String) (result : ρ) (now : Instant) (before after : String → Int)
    (endpointID : String) (db : Database β) : Except String (Database β) := do
  let mismatch := "center: Agent reported a Glivela runtime that does not match desired state"
  let projection ← fetch (rt.buildMeridianRuntimeTask db endpointID agentID).toOption mismatch
  require (rt.validate projection result) mismatch
  require (rt.peerHealth projection result now)
    "center: Agent reported invalid Glivela transport observations"
  let quotas ← quotasBefore rt before endpointID db
  let snapshots ← fetch (rt.parseXrayUserCounters projection result)
    "center: Agent reported invalid Glivela usage counters"
  let (db, crossing) ← observeCounters rt after endpointID quotas snapshots db
  if crossing.accounts.isEmpty && !crossing.endpoint then
    confirmEndpoint rt endpointID projection result now db
  else markCrossing rt endpointID db crossing

def recordMeridianRuntimeObservation (agentID : String) (result : ρ) (now : Instant)
    (before after : String → Int) (db : Database β) : Except String (Database β) := do
  match ← observedEndpoint rt agentID db with
  | none => return db
  | some e => observeEndpoint rt agentID result now before after e.id db

/-! ## Commands -/

/-- The account has nothing left to apply. -/
def settled (db : Database β) (accountID : String) : Bool :=
  db.credentials.all fun c => !(c.accountID == accountID && c.enabled) ||
    db.endpoints.all fun e => e.id != c.endpointID || e.status == .retired ||
      (e.status == .ready && e.runtimeHealthy && e.appliedRevision == e.desiredRevision)

def Endpoint.apply (revision : Int) (legacyRetired quotaEnabled : Bool) (e : Endpoint) : Endpoint :=
  { e with appliedRevision := revision
           runtimeHealthy := true
           legacyRetired := legacyRetired
           quotaAppliedEnabled := quotaEnabled
           status := .ready }

def projectVerifiedMeridianRuntime (endpointID taskID : String) (projection : π) (result : ρ)
    (quotaEnabled : Bool) (now : Instant) (db : Database β) : Except String (Database β) := do
  let endpoints ← fetch (Table.updateOne
    (fun e => e.id == endpointID && e.desiredRevision == rt.revision projection)
    (Endpoint.apply (rt.revision projection) (rt.legacyRetired result) quotaEnabled) db.endpoints)
    "center: Glivela endpoint changed before its runtime receipt was committed"
  let other ← rt.applyDeployment { db with endpoints } endpointID taskID projection
  let grants := Table.update (fun g => g.endpointID == endpointID && g.status != .revoked)
    RouteGrant.adopt db.grants
  let db ← recordMeridianRouteHealth rt endpointID projection result now
    { db with endpoints, other, grants }
  let accounts := Table.update (fun a => db.hasCredential a.id endpointID && settled db a.id)
    (fun a => { a with appliedRevision := a.desiredRevision }) db.accounts
  let db := { db with accounts }
  if rt.retireLegacy projection then return db
  else
    let other ← rt.reconcileApplicationPublications db projection
    return { db with other }

/-- A failed command takes the entry offline, unless it was to retire an old installation. -/
def failMeridianRuntimeCommand (endpointID taskID : String) (retirement : Bool) (db : Database β) :
    Except String (Database β × CommandState) := do
  let failed : Database β :=
    { db with endpoints := Table.update (·.id == endpointID)
                (fun e => { e with runtimeHealthy := false, status := .failed }) db.endpoints
              grants := Table.update (·.endpointID == endpointID) RouteGrant.fail db.grants }
  let db := if retirement then db else failed
  let other ← rt.finishCommand db taskID .failed
  return ({ db with other }, .failed)

/-- The result of a command is a receipt for the current revision. -/
def verifiedReceipt (agentID endpointID : String) (outcome : Except String ρ) (now : Instant)
    (db : Database β) : Except String (π × ρ) := do
  let result ← outcome
  let projection ← rt.buildMeridianRuntimeTask db endpointID agentID
  rt.verifyReceipt projection result now
  return (projection, result)

/-- A revision counts as applied, and a quota that the counters have crossed asks for another one at
once. -/
def applyMeridianRuntimeCommand (taskID agentID endpointID : String) (projection : π) (result : ρ)
    (quotaEnabled : Bool) (now : Instant) (crossing : Crossing) (db : Database β) :
    Except String (Database β × CommandState) := do
  let other ← rt.storeEvidence db projection result
  let db ← projectVerifiedMeridianRuntime rt endpointID taskID projection result quotaEnabled now
    { db with other }
  let other ← rt.finishCommand db taskID .succeeded
  let other ← rt.reconcileClientLandingSourcesForNode { db with other } agentID
  let db ← markCrossing rt endpointID { db with other } crossing
  let other ← rt.reconcileMeridianCutoverInTx db
  return ({ db with other }, .succeeded)

/-- The result of a command for the current revision. -/
def completeCurrentMeridianRuntimeCommand (taskID agentID endpointID : String)
    (outcome : Except String ρ) (now : Instant) (before after : String → Int) (db : Database β) :
    Except String (Database β × CommandState) :=
  match verifiedReceipt rt agentID endpointID outcome now db with
  | .error _ =>
      failMeridianRuntimeCommand rt endpointID taskID
        ((rt.buildMeridianRuntimeTask db endpointID agentID).toOption.any rt.retireLegacy) db
  | .ok (projection, result) => do
      let quotas ← quotasBefore rt before endpointID db
      match rt.parseXrayUserCounters projection result with
      | none => failMeridianRuntimeCommand rt endpointID taskID (rt.retireLegacy projection) db
      | some snapshots => do
          let (db, crossing) ← observeCounters rt after endpointID quotas snapshots db
          applyMeridianRuntimeCommand rt taskID agentID endpointID projection result quotas.2 now crossing
            db

/-- A command for a revision that was replaced meanwhile: the entry stays pending. -/
def completeSupersededMeridianRuntimeCommand (taskID endpointID : String) (current : Int)
    (succeeded : Bool) (db : Database β) : Except String (Database β × CommandState) := do
  let state : CommandState := if succeeded then .succeeded else .failed
  let endpoints := Table.update
    (fun e => e.id == endpointID && e.status != .retired && e.desiredRevision == current)
    (fun e => { e with runtimeHealthy := false, status := .pending }) db.endpoints
  let other ← rt.finishCommand { db with endpoints } taskID state
  return ({ db with endpoints, other }, state)

/-- `outcome` is the reported result, or the error of the task; `superseded` says whether it is a valid
receipt for the old revision. -/
def completeMeridianRuntimeCommand (taskID agentID endpointID : String) (outcome : Except String ρ)
    (superseded : Bool) (now : Instant) (before after : String → Int) (db : Database β) :
    Except String (Database β × CommandState) := do
  require (!rt.pilotOwns db.other endpointID)
    "center: this entry runtime is owned by the scoped Glivela pilot"
  let e ← fetch (db.endpoints.find? (·.id == endpointID)) noRows
  let commandRevision ← fetch (rt.deployment db.other endpointID taskID) noRows
  if commandRevision = e.desiredRevision then
    completeCurrentMeridianRuntimeCommand rt taskID agentID endpointID outcome now before after db
  else
    require (1 ≤ commandRevision && commandRevision ≤ e.desiredRevision &&
      rt.deploymentValid db.other endpointID taskID)
      "center: stored Glivela deployment revision is invalid"
    completeSupersededMeridianRuntimeCommand rt taskID endpointID e.desiredRevision superseded db

end Runtime

end Meridian
end Center
end Vastora
