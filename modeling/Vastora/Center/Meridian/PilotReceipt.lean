import Vastora.Center.Meridian.Boundary
import Vastora.MeridianRuntime.PilotLedger

/-!
# PilotReceipt — the ledger of a staged entry

A staged entry is run by a native worker, and its receipts are the only writer of its counters.
`recordGlivelaPilotReceiptInTx` advances the checkpoint of the entry and the watermarks of its credentials in one
transaction, and refuses when either was changed by anyone else.  `observeGlivelaPilotInTx` polls the worker of a
node.  What a recorded receipt has passed and done is said once (`Records`).
-/

namespace Vastora
namespace Center
namespace Meridian

open Library Library.Guard
open MeridianRuntime (PilotCounters PilotQuota PilotReceipt PilotEnv Advance isZero)

/-! ## Tables -/

/-- `glivela_pilot_checkpoint`; there is no checkpoint where the stored text is not one. -/
structure CheckpointRow where
  endpointID : String
  checkpoint : Option PilotCounters

/-- The checkpoints beside the tables of the other features. -/
structure Staged (β : Type) where
  checkpoints : List CheckpointRow
  rest : β

/-- What a poll reads from the private state of a worker: a receipt, whether its publication is withheld, and what
`PilotPeerReadiness` makes of its peers. -/
structure PilotSample where
  receipt : PilotReceipt
  publicationSuspended : Bool
  readiness : PilotCounters → Except String (String → Bool)

/-- The features that a receipt goes through. -/
structure PilotRuntime (β π ρ : Type) extends Runtime (Staged β) π ρ where
  env : PilotEnv
  /-- `Format(time.RFC3339Nano)` in UTC. -/
  format : Int → String

/-! ## Receipts -/

/-- The totals of a checkpoint, as the ledger observes them. -/
def snapshots (totals : List MeridianRuntime.CounterSnapshot) : List CounterSnapshot :=
  totals.map fun total => ⟨total.credentialID, total.upBytes.toInt, total.downBytes.toInt⟩

section Receipts

variable {β π ρ : Type} (pr : PilotRuntime β π ρ)

def requireOwned (endpointID : String) (db : Database (Staged β)) (counter : MeridianRuntime.CounterSnapshot) :
    Except String Unit :=
  require (db.credentials.any fun c => c.id == counter.credentialID && c.endpointID == endpointID)
    "center: Glivela pilot credential ownership changed"

/-- The checkpoint pins the sole writer of the ledger. -/
def requireWatermark (db : Database (Staged β)) (counter : MeridianRuntime.CounterSnapshot) : Except String Unit := do
  let w ← fetch (db.watermark counter.credentialID) noRows
  require (w.rawUpBytes == counter.upBytes.toInt && w.rawDownBytes == counter.downBytes.toInt)
    "center: Glivela pilot ledger watermark changed outside receipt transaction"

def requireQuota (endpointID : String) (db : Database (Staged β)) : Option PilotQuota → Except String Unit
  | none => .ok ()
  | some q => do
      let e ← fetch (db.endpoints.find? (·.id == endpointID)) noRows
      let zone ← fetch (pr.timezone db.other e.serviceID) noRows
      require (e.totalBytes == q.totalBytes.toInt && e.usedBytes == q.usedBytes.toInt && e.resetDay == q.resetDay &&
        zone == q.timezone) "center: staged quota changed outside its receipt transaction"

/-- `last_reset_at` and `next_reset_at`, empty for a zero time. -/
def resetText (t : Int) : String := if isZero t then "" else pr.format t

/-- The columns that a quota of a receipt sets. -/
def Endpoint.stage (q : PilotQuota) (e : Endpoint) : Endpoint :=
  { e with usedBytes := q.usedBytes.toInt
           lastResetAt := resetText pr q.lastResetAt
           nextResetAt := resetText pr q.nextResetAt
           quotaAppliedEnabled := q.totalBytes == 0 || q.usedBytes < q.totalBytes }

def storeQuota (endpointID : String) (db : Database (Staged β)) :
    Option PilotQuota → Except String (Database (Staged β))
  | none => .ok db
  | some q => do
      let endpoints ← fetch (Table.updateOne (fun e => e.id == endpointID && e.totalBytes == q.totalBytes.toInt &&
          e.resetDay == q.resetDay) (Endpoint.stage pr q) db.endpoints)
        "center: staged quota policy changed outside its owner"
      return { db with endpoints }

/-- `UPDATE glivela_pilot_checkpoint … WHERE endpoint_id=?`. -/
def Database.storeCheckpoint (db : Database (Staged β)) (endpointID : String) (next : PilotCounters) :
    Database (Staged β) :=
  { db with other := { db.other with
      checkpoints := Table.update (·.endpointID == endpointID) (fun row => { row with checkpoint := some next })
        db.other.checkpoints } }

def recordGlivelaPilotReceiptInTx (receipt : PilotReceipt) (now : Int) (db : Database (Staged β)) :
    Except String (Database (Staged β)) := do
  let row ← fetch (db.other.checkpoints.find? fun row => db.endpoints.any fun e =>
    e.id == row.endpointID && e.applicationID == receipt.entryID) noRows
  let previous ← fetch row.checkpoint "center: invalid Glivela pilot checkpoint"
  let e ← fetch (db.endpoints.find? fun e => e.id == row.endpointID && e.status != .retired) noRows
  require (previous.entryID == e.applicationID) "center: Glivela pilot entry ownership changed"
  let next ← MeridianRuntime.advancePilotCounters pr.env previous receipt now
  next.totals.forM (requireOwned row.endpointID db)
  previous.totals.forM (requireWatermark db)
  requireQuota pr row.endpointID db previous.quota
  let db ← observeMeridianUsageInTx row.endpointID (snapshots next.totals) db
  let db ← storeQuota pr row.endpointID db next.quota
  return db.storeCheckpoint row.endpointID next

/-! ## Polls -/

/-- The transport of a fixed egress: both its exits are ready, and it is published. -/
def RouteGrant.stage (ready : String → Bool) (suspended : Bool) (g : RouteGrant) : Bool :=
  ready g.egressNodeID && (g.ipv4EgressNodeID.getD "" == "" || ready (g.ipv4EgressNodeID.getD "")) && !suspended

/-- The columns that a poll sets of a fixed egress. -/
def RouteGrant.judge (healthy : Bool) (g : RouteGrant) : RouteGrant :=
  { g with runtimeHealthy := healthy
           healthExpiresUnixMs := 0
           status := if healthy then .ready else .blocked }

/-- One round of the loop over the fixed egresses. -/
def recordPilotRoute (endpointID : String) (ready : String → Bool) (suspended : Bool) (grants : List RouteGrant)
    (route : RouteGrant) : Except String (List RouteGrant) := do
  require (route.desiredRevision == route.appliedRevision)
    "center: legacy route configuration changed during Glivela pilot"
  return Table.update (fun g => g.id == route.id && g.endpointID == endpointID)
    (RouteGrant.judge (route.stage ready suspended)) grants

def recordGlivelaPilotHealthInTx (endpointID : String) (checkpoint : PilotCounters) (sample : PilotSample)
    (db : Database (Staged β)) : Except String (Database (Staged β)) := do
  let ready ← sample.readiness checkpoint
  let routes := db.grants.filter fun g => g.endpointID == endpointID && g.live
  let grants ← routes.foldlM (recordPilotRoute endpointID ready sample.publicationSuspended) db.grants
  -- the applied runtime stays ready; only publication is withheld
  let endpoints ← fetch (Table.updateOne (fun e => e.id == endpointID && e.status != .retired &&
      e.desiredRevision == e.appliedRevision && 0 < e.appliedRevision)
    (fun e => { e with runtimeHealthy := !sample.publicationSuspended, status := .ready }) db.endpoints)
    "center: legacy entry configuration changed during Glivela pilot"
  return { db with grants, endpoints }

/-- No fresh receipt: the entry and its fixed egresses are not served. -/
def Database.awaitReceipt (db : Database (Staged β)) (endpointID : String) : Database (Staged β) :=
  { db with
    endpoints := Table.update (·.id == endpointID) (fun e => { e with runtimeHealthy := false }) db.endpoints
    grants := Table.update (fun g => g.endpointID == endpointID && g.status != .revoked && g.status != .revoking)
      (fun g => { g with runtimeHealthy := false, healthExpiresUnixMs := 0 }) db.grants }

/-- The checkpoint of the staged entry on a node. -/
def Database.pilotOf (db : Database (Staged β)) (agentID : String) : Option CheckpointRow :=
  db.other.checkpoints.find? fun row => db.endpoints.any fun e =>
    e.id == row.endpointID && pr.applicationNode db.other e.applicationID == some agentID

/-- `source` is what is read from the private state for a checkpoint, if anything. -/
def observeGlivelaPilotInTx (agentID : String) (now : Int) (source : PilotCounters → Option PilotSample)
    (db : Database (Staged β)) : Except String (Database (Staged β)) :=
  match db.pilotOf pr agentID with
  | none => .ok db
  | some row => do
      let checkpoint ← fetch row.checkpoint "center: invalid Glivela pilot checkpoint"
      match source checkpoint with
      | none => return db.awaitReceipt row.endpointID
      | some sample => do
          let db ← recordGlivelaPilotReceiptInTx pr sample.receipt now db
          recordGlivelaPilotHealthInTx row.endpointID checkpoint sample db

end Receipts

/-! ## What an observation does to the watermarks -/

/-- A watermark after the counters of a snapshot. -/
def Watermark.advance (w : Watermark) (s : CounterSnapshot) : Watermark :=
  { w with observedBytes := saturatingAdd w.observedBytes
             (saturatingAdd (growth w.rawUpBytes s.upBytes) (growth w.rawDownBytes s.downBytes))
           rawUpBytes := s.upBytes
           rawDownBytes := s.downBytes }

section Observation

variable {β : Type} {db db' : Database β} {s : CounterSnapshot} {batch : List CounterSnapshot} {delta delta' : Int}
  {endpointID : String}

theorem SameButLines.watermark (h : SameButLines db db') (c : String) : db'.watermark c = db.watermark c := by
  obtain ⟨lines, rfl⟩ := h
  rfl

/-- A snapshot is of one credential, whose watermark it advances. -/
theorem observeSnapshot_writes (h : observeSnapshot saturatingAdd (db, delta) s = .ok (db', delta')) :
    Table.Writes Database.watermark s.credentialID (·.advance s) db db' := by
  unfold observeSnapshot at h
  obtain ⟨-, -, h⟩ := bind_eq_ok_iff.1 h
  split at h
  · rename_i hnone
    obtain ⟨-, -, h⟩ := bind_eq_ok_iff.1 h
    obtain ⟨db₁, hline, h⟩ := bind_eq_ok_iff.1 h
    obtain ⟨rfl, -⟩ := Prod.mk.inj (pure_eq_ok_iff.1 h)
    refine ⟨fun c hc => ?_, fun w hw => ?_⟩
    · rw [(observeMeridianLineUsage_frame hline).watermark, Database.watermark, List.find?_append,
        List.find?_cons_of_neg (by rw [beq_iff_eq]; exact Ne.symm hc), List.find?_nil, Option.or_none, Database.watermark]
    · rw [Database.watermark, hnone] at hw
      cases hw
  · rename_i row hrow
    obtain ⟨db₁, hline, h⟩ := bind_eq_ok_iff.1 h
    obtain ⟨-, -, h⟩ := bind_eq_ok_iff.1 h
    obtain ⟨watermarks, hupdate, h⟩ := bind_eq_ok_iff.1 h
    obtain ⟨rfl, -⟩ := Prod.mk.inj (pure_eq_ok_iff.1 h)
    obtain ⟨lines, rfl⟩ := observeMeridianLineUsage_frame hline
    obtain ⟨-, rfl⟩ := Table.updateOne_eq_some_iff.1 (fetch_eq_ok_iff.1 hupdate)
    let next (w : Watermark) : Watermark :=
      { w with observedBytes := (row.advance s).observedBytes, rawUpBytes := s.upBytes, rawDownBytes := s.downBytes }
    obtain ⟨hothers, hown⟩ : Table.Writes (fun (rows : List Watermark) c => rows.find? (·.credentialID == c))
        s.credentialID (fun w => if w.credentialID == s.credentialID then next w else w) db.watermarks
        (Table.update (·.credentialID == s.credentialID) next db.watermarks) :=
      Table.update_writes (f := next) (fun _ => rfl) fun _ hw => beq_iff_eq.1 hw
    refine ⟨hothers, fun w hw => ?_⟩
    obtain rfl := Option.some.inj (hrow.symm.trans hw)
    have hid : row.credentialID = s.credentialID := by simpa using List.find?_some hrow
    exact (hown row hw).trans (congrArg some (if_pos (beq_iff_eq.2 hid)))

/-- Credentials that are not in a batch keep their watermarks. -/
theorem observeSnapshots_others
    (h : batch.foldlM (observeSnapshot saturatingAdd) (db, delta) = .ok (db', delta')) {c : String}
    (hc : c ∉ batch.map CounterSnapshot.credentialID) : db'.watermark c = db.watermark c :=
  Table.foldlM_writes_others (fun st : Database β × Int => st.1.watermark)
    (fun _ _ _ _ hstep => observeSnapshot_writes hstep) h hc

/-- Each credential of a batch is advanced once. -/
theorem observeSnapshots_own (hdistinct : (batch.map CounterSnapshot.credentialID).Nodup)
    (h : batch.foldlM (observeSnapshot saturatingAdd) (db, delta) = .ok (db', delta')) (hs : s ∈ batch) {w : Watermark}
    (hw : db.watermark s.credentialID = some w) : db'.watermark s.credentialID = some (w.advance s) :=
  Table.foldlM_writes_own (fun st : Database β × Int => st.1.watermark)
    (fun _ _ _ _ hstep => observeSnapshot_writes hstep) hdistinct h hs hw

/-- An observation writes the ledger and what the entry has used. -/
theorem observeMeridianUsageInTx_ok (h : observeMeridianUsageInTx endpointID batch db = .ok db') :
    ∃ (delta : Int) (watermarks : List Watermark) (lineUsage : List LineUsage) (used : Endpoint → Int),
      batch.foldlM (observeSnapshot saturatingAdd) (db, 0) = .ok ({ db with watermarks, lineUsage }, delta) ∧
      db' = { db with
        watermarks
        lineUsage
        endpoints := Table.update (·.id == endpointID) (fun e => { e with usedBytes := used e }) db.endpoints } := by
  obtain ⟨⟨db₁, delta⟩, hfold, hcredit⟩ := bind_eq_ok_iff.1 h
  have hframe : ∃ watermarks lineUsage, db₁ = { db with watermarks, lineUsage } := by
    refine @Table.foldlM_invariant _ _ _ _ _
      (fun st : Database β × Int => ∃ watermarks lineUsage, st.1 = { db with watermarks, lineUsage }) _ _ ?_
      ⟨db.watermarks, db.lineUsage, rfl⟩ hfold
    rintro ⟨_, delta⟩ s ⟨db₂, delta₂⟩ - ⟨watermarks, lineUsage, rfl⟩ hstep
    obtain ⟨watermarks', lineUsage', rfl⟩ := observeSnapshot_frame hstep
    exact ⟨watermarks', lineUsage', rfl⟩
  obtain ⟨watermarks, lineUsage, rfl⟩ := hframe
  change creditEndpoint saturatingAdd endpointID _ delta = .ok db' at hcredit
  unfold creditEndpoint at hcredit
  split at hcredit
  · simp only [bind_eq_ok_iff, fetch_eq_ok_iff, require_eq_ok_iff, exists_const, pure_eq_ok_iff] at hcredit
    obtain ⟨e, -, -, endpoints, hupdate, rfl⟩ := hcredit
    obtain ⟨-, rfl⟩ := Table.updateOne_eq_some_iff.1 hupdate
    exact ⟨delta, watermarks, lineUsage, fun _ => saturatingAdd e.usedBytes delta, hfold, rfl⟩
  · obtain rfl := Except.ok.inj hcredit
    refine ⟨delta, watermarks, lineUsage, Endpoint.usedBytes, hfold, ?_⟩
    have hsame : Table.update (·.id == endpointID) (fun e : Endpoint => { e with usedBytes := e.usedBytes })
        db.endpoints = db.endpoints := by
      rw [Table.update]
      simp only [ite_self, List.map_id']
    rw [hsame]

end Observation

/-! ## What a recorded receipt has passed -/

/-- A receipt was recorded: it advances the checkpoint of one entry, whose credentials stood where the checkpoint
had left them. -/
structure Records {β π ρ : Type} (pr : PilotRuntime β π ρ) (receipt : PilotReceipt) (now : Int)
    (db : Database (Staged β)) (endpointID : String) (previous next : PilotCounters) (db' : Database (Staged β)) :
    Prop where
  entry : ∃ e ∈ db.endpoints, e.id = endpointID ∧ e.applicationID = receipt.entryID
  stored : ⟨endpointID, some previous⟩ ∈ db.other.checkpoints
  advance : Advance pr.env previous receipt now next
  owned : ∀ total ∈ next.totals, ∃ c ∈ db.credentials, c.id = total.credentialID ∧ c.endpointID = endpointID
  pinned : ∀ total ∈ previous.totals, ∃ w, db.watermark total.credentialID = some w ∧
    w.rawUpBytes = total.upBytes.toInt ∧ w.rawDownBytes = total.downBytes.toInt
  written : ∃ db₁ db₂, observeMeridianUsageInTx endpointID (snapshots next.totals) db = .ok db₁ ∧
    storeQuota pr endpointID db₁ next.quota = .ok db₂ ∧ db' = db₂.storeCheckpoint endpointID next

section Recorded

variable {β π ρ : Type} {pr : PilotRuntime β π ρ} {receipt : PilotReceipt} {now : Int} {db db' : Database (Staged β)}

theorem requireOwned_iff {endpointID : String} {counter : MeridianRuntime.CounterSnapshot} {u : Unit} :
    requireOwned endpointID db counter = .ok u ↔
      ∃ c ∈ db.credentials, c.id = counter.credentialID ∧ c.endpointID = endpointID := by
  rw [requireOwned, require_eq_ok_iff, List.any_eq_true]
  simp only [Bool.and_eq_true, beq_iff_eq]

theorem requireWatermark_iff {counter : MeridianRuntime.CounterSnapshot} {u : Unit} :
    requireWatermark db counter = .ok u ↔ ∃ w, db.watermark counter.credentialID = some w ∧
      w.rawUpBytes = counter.upBytes.toInt ∧ w.rawDownBytes = counter.downBytes.toInt := by
  rw [requireWatermark, fetch_bind_eq_ok_iff]
  simp only [require_eq_ok_iff, Bool.and_eq_true, beq_iff_eq]

theorem record_ok (h : recordGlivelaPilotReceiptInTx pr receipt now db = .ok db') :
    ∃ endpointID previous next, Records pr receipt now db endpointID previous next db' := by
  rw [recordGlivelaPilotReceiptInTx, fetch_bind_eq_ok_iff] at h
  obtain ⟨row, hrow, h⟩ := h
  rw [fetch_bind_eq_ok_iff] at h
  obtain ⟨previous, hprevious, h⟩ := h
  rw [fetch_bind_eq_ok_iff] at h
  obtain ⟨_, -, h⟩ := h
  rw [require_bind_eq_ok_iff, bind_eq_ok_iff] at h
  obtain ⟨-, next, hadvance, h⟩ := h
  rw [bind_eq_ok_iff] at h
  obtain ⟨_, howned, h⟩ := h
  rw [bind_eq_ok_iff] at h
  obtain ⟨_, hpinned, h⟩ := h
  rw [bind_eq_ok_iff] at h
  obtain ⟨_, -, h⟩ := h
  rw [bind_eq_ok_iff] at h
  obtain ⟨db₁, hobserve, h⟩ := h
  rw [bind_eq_ok_iff] at h
  obtain ⟨db₂, hquota, h⟩ := h
  have hany := List.find?_some (p := fun row : CheckpointRow => db.endpoints.any fun e =>
    e.id == row.endpointID && e.applicationID == receipt.entryID) hrow
  obtain ⟨e, he, hguard⟩ := List.any_eq_true.1 hany
  rw [Bool.and_eq_true, beq_iff_eq, beq_iff_eq] at hguard
  refine ⟨row.endpointID, previous, next, ⟨e, he, hguard⟩, ?_, MeridianRuntime.advance_iff.1 hadvance, ?_, ?_, db₁, db₂,
    hobserve, hquota, (pure_eq_ok_iff.1 h).symm⟩
  · rw [← hprevious]
    exact List.mem_of_find?_eq_some hrow
  · exact fun total htotal => requireOwned_iff.1 (forM_eq_ok_iff.1 howned total htotal)
  · exact fun total htotal => requireWatermark_iff.1 (forM_eq_ok_iff.1 hpinned total htotal)

end Recorded

end Meridian
end Center
end Vastora
