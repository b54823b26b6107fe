import Vastora.Center.Meridian.Tables

/-!
# Reset — the periods of accounts and entries

An account starts a new period by moving the baselines of its credentials to what they have used; an
entry starts one by forgetting its own traffic.  Expired accounts are switched off in the same pass.
-/

namespace Vastora
namespace Center
namespace Meridian

open Library Library.Guard

variable {β : Type}

/-! ## Accounts -/

/-- The accounts whose period has ended. -/
def dueAccounts (now : Instant) (db : Database β) : List Account :=
  (db.accounts.filter fun a => 0 < a.resetDays && a.status == .active && a.nextResetAt != "" &&
    a.nextResetAt ≤ now.format).insertionSort (·.id ≤ ·.id)

/-- `UPDATE meridian_usage_watermarks SET baseline_bytes=observed_bytes` for an account. -/
def Database.rebase (db : Database β) (accountID : String) : Database β :=
  { db with
    watermarks := Table.update
      (fun w => db.credentials.any fun c => c.id == w.credentialID && c.accountID == accountID)
      (fun w => { w with baselineBytes := w.observedBytes }) db.watermarks }

/-- The columns that a reset of an account sets. -/
def Account.reset (a : Account) (now : Instant) (days : Int) : Account :=
  { a with desiredRevision := a.desiredRevision + 1
           lastResetAt := now.format
           nextResetAt := (now.add (days.toNat * 86400)).format }

def resetAccount (rest : Rest β) (now : Instant) (db : Database β) (account : Account) :
    Except String (Database β) := do
  require (1 ≤ account.resetDays && account.resetDays ≤ rest.maxResetDays)
    "center: stored Glivela reset schedule is invalid"
  let db ← ensureMeridianSubscriptionSnapshotsForAccountEndpointsInTx rest db account.id
  let db := db.rebase account.id
  let db := { db with
    accounts := Table.update (·.id == account.id) (·.reset now account.resetDays) db.accounts }
  return (db.rebuildAccountEndpoints account.id).rebuildAccountGrants account.id

/-- The accounts that have expired but are still on. -/
def expiredAccounts (now : Instant) (db : Database β) : List String :=
  ((db.accounts.filter fun a => a.status == .active && a.enabled && 0 < a.expiryTime &&
    a.expiryTime ≤ unixMilli now).map Account.id).insertionSort (· ≤ ·)

def expireAccount (rest : Rest β) (db : Database β) (accountID : String) :
    Except String (Database β) := do
  let db ← ensureMeridianSubscriptionSnapshotsForAccountEndpointsInTx rest db accountID
  let expire (a : Account) : Account :=
    { a with enabled := false, status := .expired, desiredRevision := a.desiredRevision + 1 }
  let db := { db with accounts := Table.update (·.id == accountID) expire db.accounts }
  return (db.rebuildAccountEndpoints accountID).rebuildAccountGrants accountID

def resetDueMeridianAccounts (rest : Rest β) (now : Instant) (db : Database β) :
    Except String (Database β) := do
  let db ← (dueAccounts now db).foldlM (resetAccount rest now) db
  (expiredAccounts now db).foldlM (expireAccount rest) db

/-! ## Entries -/

def invalidEntryTraffic : String := "center: stored Glivela entry traffic is invalid"

def noRows : String := "sql: no rows in result set"

/-- The cap of an entry is not reached. -/
def Endpoint.quotaEnabled (e : Endpoint) : Bool := e.totalBytes == 0 || e.usedBytes < e.totalBytes

def meridianEndpointQuotaEnabledInTx (db : Database β) (endpointID : String) : Except String Bool := do
  let e ← fetch (db.endpoints.find? (·.id == endpointID)) noRows
  require (0 ≤ e.totalBytes && 0 ≤ e.usedBytes) invalidEntryTraffic
  return e.quotaEnabled

def markMeridianEndpointQuotaBoundaryChanged (rest : Rest β) (db : Database β) (endpointID : String) :
    Except String (Database β) := do
  let db ← ensureMeridianSubscriptionSnapshotsForEndpointInTx rest db endpointID
  let endpoints ← fetch (Table.updateOne (fun e => e.id == endpointID && e.status != .retired)
    Endpoint.rebuild db.endpoints) "center: Glivela entry traffic boundary has no active endpoint"
  let grants := Table.update (fun g => g.endpointID == endpointID && g.status != .revoked)
    RouteGrant.rebuild db.grants
  return { db with endpoints, grants }

/-- The entries whose period has ended, with their time zones. -/
def dueEndpoints (rest : Rest β) (now : Instant) (db : Database β) : List (Endpoint × String) :=
  (db.endpoints.filterMap fun e =>
    if 0 < e.resetDay && e.nextResetAt != "" && e.status != .retired &&
        !rest.pilotOwns db.other e.id && (rest.julianday e.nextResetAt).any fun next =>
          (rest.julianday now.format).any (next ≤ ·)
    then (rest.timezone db.other e.serviceID).map fun zone => (e, zone)
    else none).insertionSort (·.1.id ≤ ·.1.id)

/-- The columns that a reset of an entry sets. -/
def Endpoint.reset (e : Endpoint) (now : Instant) (next : String) : Endpoint :=
  { e with usedBytes := 0, lastResetAt := now.format, nextResetAt := next }

/-- Before an entry is served again, its subscriptions are captured. -/
def captureBlocked (rest : Rest β) (wasEnabled : Bool) (db : Database β) (endpointID : String) :
    Except String (Database β) :=
  if wasEnabled then .ok db else ensureMeridianSubscriptionSnapshotsForEndpointInTx rest db endpointID

def resetEndpoint (rest : Rest β) (now : Instant) (db : Database β) (due : Endpoint × String) :
    Except String (Database β) := do
  require (1 ≤ due.1.resetDay && due.1.resetDay ≤ 31)
    "center: stored Glivela entry reset day is invalid"
  let next ← fetch (rest.resetBoundary now due.1.resetDay due.2)
    "center: stored Glivela entry timezone is invalid"
  let wasEnabled ← meridianEndpointQuotaEnabledInTx db due.1.id
  let db ← captureBlocked rest wasEnabled db due.1.id
  let endpoints ← fetch (Table.updateOne (fun e => e.id == due.1.id && e.status != .retired)
    (·.reset now next) db.endpoints) "center: Glivela entry changed before its traffic reset"
  let db := { db with endpoints }
  if wasEnabled then return db
  else markMeridianEndpointQuotaBoundaryChanged rest db due.1.id

def resetDueMeridianEndpoints (rest : Rest β) (now : Instant) (db : Database β) :
    Except String (Database β) :=
  (dueEndpoints rest now db).foldlM (resetEndpoint rest now) db

end Meridian
end Center
end Vastora
