import Mathlib.Data.List.Sort
import Vastora.Center.Timestamp
import Vastora.Library.Guard
import Vastora.Library.Table

/-!
# Tables — accounts, their entries and their traffic

The rows that the traffic ledger and the quotas are kept in, with the columns that decide something.
A transaction is a function on the tables; the tables of other features are one component that the
functions here only pass on.
-/

namespace Vastora
namespace Center
namespace Meridian

open Library Library.Guard

/-! ## Rows -/

inductive EndpointStatus where
  | importing | pending | applying | ready | failed | retired
deriving DecidableEq, Repr

inductive AccountStatus where
  | importing | active | disabled | expired | failed
deriving DecidableEq, Repr

inductive GrantStatus where
  | importing | pending | applying | ready | blocked | revoking | revoked | failed
deriving DecidableEq, Repr

/-- `meridian_credentials`: what an account uses on an entry. -/
structure Credential where
  id : String
  accountID : String
  endpointID : String
  enabled : Bool

/-- `meridian_endpoints`: an entry, with the traffic cap that all its credentials share. -/
structure Endpoint where
  id : String
  applicationID : String
  serviceID : String
  totalBytes : Int
  usedBytes : Int
  quotaAppliedEnabled : Bool
  resetDay : Int
  nextResetAt : String
  lastResetAt : String
  desiredRevision : Int
  appliedRevision : Int
  runtimeHealthy : Bool
  legacyRetired : Bool
  status : EndpointStatus

/-- `meridian_accounts`. -/
structure Account where
  id : String
  totalBytes : Int
  expiryTime : Int
  resetDays : Int
  nextResetAt : String
  lastResetAt : String
  enabled : Bool
  desiredRevision : Int
  appliedRevision : Int
  status : AccountStatus

/-- `meridian_route_grants`: a fixed egress of an account on an entry. -/
structure RouteGrant where
  id : String
  accountID : String
  endpointID : String
  egressNodeID : String
  ipv4EgressNodeID : Option String
  enabled : Bool
  desiredRevision : Int
  appliedRevision : Int
  runtimeHealthy : Bool
  healthExpiresUnixMs : Int
  status : GrantStatus

/-- `meridian_usage_watermarks`: what a credential has used, and the counters it was last seen with. -/
structure Watermark where
  credentialID : String
  baselineBytes : Int
  observedBytes : Int
  rawUpBytes : Int
  rawDownBytes : Int

/-- `meridian_line_usage`. -/
structure LineUsage where
  credentialID : String
  uploadBytes : Int
  downloadBytes : Int

structure Database (β : Type) where
  credentials : List Credential
  endpoints : List Endpoint
  accounts : List Account
  grants : List RouteGrant
  watermarks : List Watermark
  lineUsage : List LineUsage
  other : β

/-- The functions of other features that are called here.  They read all tables and write only their
own. -/
structure Rest (β : Type) where
  /-- `ensureMeridianSubscriptionSnapshotsForEndpointInTx`. -/
  ensureSnapshots : Database β → String → Except String β
  /-- The time zone of the site of a service, if the service and its site exist. -/
  timezone : β → String → Option String
  /-- `time.LoadLocation` and `threeXUIResetBoundary`. -/
  resetBoundary : Instant → Int → String → Option String
  /-- `julianday` of the database. -/
  julianday : String → Option Int
  /-- `glivelaPilotOwnsEndpoint`. -/
  pilotOwns : β → String → Bool
  /-- `glivela.MaxResetDays`. -/
  maxResetDays : Int

/-! ## Statements -/

/-- A new revision of an entry has to be applied. -/
def Endpoint.rebuild (e : Endpoint) : Endpoint :=
  { e with desiredRevision := e.desiredRevision + 1, runtimeHealthy := false, status := .pending }

/-- A new revision of a fixed egress has to be applied, unless it is being revoked. -/
def RouteGrant.rebuild (g : RouteGrant) : RouteGrant :=
  { g with desiredRevision := g.desiredRevision + 1
           runtimeHealthy := false
           status := if g.status = .revoking ∨ g.status = .revoked then g.status else .pending }

/-- `t.UnixMilli()`. -/
def unixMilli (t : Instant) : Int := ((t.sec : Int) - 62167219200) * 1000 + t.nsec / 1000000

section Statements

variable {β : Type}

/-- The account has a credential on the entry. -/
def Database.hasCredential (db : Database β) (accountID endpointID : String) : Bool :=
  db.credentials.any fun c => c.accountID == accountID && c.endpointID == endpointID

/-- The entries in use on which an account has a credential, each once and in order. -/
def Database.endpointsOf (db : Database β) (accountID : String) : List String :=
  ((db.endpoints.filter fun e => e.status != .retired && db.hasCredential accountID e.id).map
    Endpoint.id).dedup.insertionSort (· ≤ ·)

/-- The write of another feature. -/
def ensureMeridianSubscriptionSnapshotsForEndpointInTx (rest : Rest β) (db : Database β)
    (endpointID : String) : Except String (Database β) := do
  let other ← rest.ensureSnapshots db endpointID
  return { db with other }

def ensureMeridianSubscriptionSnapshotsForAccountEndpointsInTx (rest : Rest β) (db : Database β)
    (accountID : String) : Except String (Database β) :=
  (db.endpointsOf accountID).foldlM (ensureMeridianSubscriptionSnapshotsForEndpointInTx rest) db

/-- `UPDATE meridian_endpoints … WHERE status<>'retired'` on the entries of an account. -/
def Database.rebuildAccountEndpoints (db : Database β) (accountID : String) : Database β :=
  { db with
    endpoints := Table.update (fun e => e.status != .retired && db.hasCredential accountID e.id)
      Endpoint.rebuild db.endpoints }

/-- `UPDATE meridian_route_grants … WHERE account_id=?`. -/
def Database.rebuildAccountGrants (db : Database β) (accountID : String) : Database β :=
  { db with grants := Table.update (·.accountID == accountID) RouteGrant.rebuild db.grants }

variable {rest : Rest β} {db db' : Database β}

theorem ensureSnapshotsForEndpoint_ok {endpointID : String}
    (hok : ensureMeridianSubscriptionSnapshotsForEndpointInTx rest db endpointID = .ok db') :
    ∃ other, db' = { db with other } := by
  obtain ⟨other, -, hdb⟩ := bind_eq_ok_iff.1 hok
  exact ⟨other, (pure_eq_ok_iff.1 hdb).symm⟩

/-- Capturing subscriptions writes no table of this component. -/
theorem ensureSnapshotsForEndpoints_ok {endpointIDs : List String}
    (hok : endpointIDs.foldlM (ensureMeridianSubscriptionSnapshotsForEndpointInTx rest) db = .ok db') :
    ∃ other, db' = { db with other } := by
  refine @Table.foldlM_invariant _ _ _ _ _ (fun s => ∃ other, s = { db with other }) _ _ ?_
    ⟨db.other, rfl⟩ hok
  rintro _ id s' - ⟨other, rfl⟩ hstep
  obtain ⟨other', rfl⟩ := ensureSnapshotsForEndpoint_ok hstep
  exact ⟨other', rfl⟩

end Statements

end Meridian
end Center
end Vastora
