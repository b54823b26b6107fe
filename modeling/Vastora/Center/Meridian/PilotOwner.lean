import Vastora.Center.Meridian.Ledger
import Vastora.Center.Meridian.PilotReceipt

/-!
# PilotOwner — what the other transactions leave to a staged entry

Heartbeats, results of commands and resets run beside the polls of a staged entry.  None of them writes its
checkpoint, its quota or the counters of its credentials, and none of them serves one of its fixed egresses
(`Leaves`).  Each statement is looked at once; a transaction is the composition of its statements.
-/

namespace Vastora
namespace Center
namespace Meridian

open Library Library.Guard
open MeridianRuntime (PilotCounters PilotQuota PilotReceipt)

/-! ## Frames -/

/-- What names an entry and, for the staged one, its quota. -/
def Endpoint.staged (id : String) (e : Endpoint) : String × String × Option (Int × Int × Int) :=
  (e.id, e.applicationID, if e.id = id then some (e.totalBytes, e.usedBytes, e.resetDay) else none)

/-- What was counted for a credential. -/
def Watermark.counted (w : Watermark) : Int × Int × Int := (w.observedBytes, w.rawUpBytes, w.rawDownBytes)

/-- The fixed egress is in use and its transport works. -/
def RouteGrant.served (g : RouteGrant) : Bool := g.live && g.runtimeHealthy

/-- What names a fixed egress. -/
def RouteGrant.route (g : RouteGrant) : String × String × String × Option String :=
  (g.id, g.endpointID, g.egressNodeID, g.ipv4EgressNodeID)

/-- The same fixed egress; on the staged entry it is served only if it was. -/
structure RouteGrant.Dims (id : String) (g g' : RouteGrant) : Prop where
  route : g'.route = g.route
  served : g.endpointID = id → g'.served = true → g.served = true

/-- The checkpoint, the quota and the counters of a staged entry are as they were. -/
structure KeepsLedger {β : Type} (id : String) (db db' : Database (Staged β)) : Prop where
  credentials : db'.credentials = db.credentials
  entries : db'.endpoints.map (Endpoint.staged id) = db.endpoints.map (Endpoint.staged id)
  keys : db'.other.checkpoints.map CheckpointRow.endpointID = db.other.checkpoints.map CheckpointRow.endpointID
  checkpoint : ∀ row, row.endpointID = id → (row ∈ db'.other.checkpoints ↔ row ∈ db.other.checkpoints)
  rows : ∀ c ∈ db.credentials, c.endpointID = id →
    (db'.watermark c.id).map Watermark.counted = (db.watermark c.id).map Watermark.counted

/-- Nothing was written that a staged entry owns. -/
structure Leaves {β : Type} (id : String) (db db' : Database (Staged β)) : Prop extends KeepsLedger id db db' where
  grants : Table.Rewrites (RouteGrant.Dims id) db.grants db'.grants

/-- The other features write their own tables, and the counters of a report are those of the entry it is for. -/
structure Separate {β π ρ : Type} (pr : PilotRuntime β π ρ) : Prop where
  owns : ∀ other id, pr.pilotOwns other id = other.checkpoints.any (·.endpointID == id)
  snapshots : ∀ {db id other}, pr.ensureSnapshots db id = .ok other → other.checkpoints = db.other.checkpoints
  diagnostics : ∀ {db id other}, pr.recordRouteHealthDiagnostics db id = .ok other →
    other.checkpoints = db.other.checkpoints
  evidence : ∀ {db projection result other}, pr.storeEvidence db projection result = .ok other →
    other.checkpoints = db.other.checkpoints
  deployment : ∀ {db id taskID projection other}, pr.applyDeployment db id taskID projection = .ok other →
    other.checkpoints = db.other.checkpoints
  publications : ∀ {db projection other}, pr.reconcileApplicationPublications db projection = .ok other →
    other.checkpoints = db.other.checkpoints
  command : ∀ {db taskID state other}, pr.finishCommand db taskID state = .ok other →
    other.checkpoints = db.other.checkpoints
  landing : ∀ {db agentID other}, pr.reconcileClientLandingSourcesForNode db agentID = .ok other →
    other.checkpoints = db.other.checkpoints
  cutover : ∀ {db other}, pr.reconcileMeridianCutoverInTx db = .ok other →
    other.checkpoints = db.other.checkpoints
  counters : ∀ {db id agentID projection result batch}, pr.buildMeridianRuntimeTask db id agentID = .ok projection →
    pr.parseXrayUserCounters projection result = some batch →
    ∀ s ∈ batch, ∃ c ∈ db.credentials, c.id = s.credentialID ∧ c.endpointID = id

theorem Endpoint.staged_of_ne {id : String} {e : Endpoint} (h : e.id ≠ id) :
    e.staged id = (e.id, e.applicationID, none) := by
  rw [Endpoint.staged, if_neg h]

theorem RouteGrant.Dims.endpointID {id : String} {g g' : RouteGrant} (h : g.Dims id g') :
    g'.endpointID = g.endpointID := congrArg (·.2.1) h.route

theorem RouteGrant.Dims.trans {id : String} {g g₁ g₂ : RouteGrant} (h₁ : g.Dims id g₁) (h₂ : g₁.Dims id g₂) :
    g.Dims id g₂ where
  route := h₂.route.trans h₁.route
  served hid hserved := h₁.served hid (h₂.served (h₁.endpointID.trans hid) hserved)

/-- A transport that does not work is not served. -/
theorem RouteGrant.served_of_unhealthy {g : RouteGrant} (h : g.runtimeHealthy = false) : g.served = false := by
  rw [RouteGrant.served, h, Bool.and_false]

section Statements

variable {β : Type} {id : String} {db db' db'' : Database (Staged β)}

theorem KeepsLedger.refl (db : Database (Staged β)) : KeepsLedger id db db :=
  ⟨rfl, rfl, rfl, fun _ _ => Iff.rfl, fun _ _ _ => rfl⟩

theorem KeepsLedger.trans (h₁ : KeepsLedger id db db') (h₂ : KeepsLedger id db' db'') : KeepsLedger id db db'' where
  credentials := h₂.credentials.trans h₁.credentials
  entries := h₂.entries.trans h₁.entries
  keys := h₂.keys.trans h₁.keys
  checkpoint row hrow := (h₂.checkpoint row hrow).trans (h₁.checkpoint row hrow)
  rows c hc hid := (h₂.rows c (h₁.credentials ▸ hc) hid).trans (h₁.rows c hc hid)

/-- Tables that have no part in the ledger. -/
theorem keepsLedger_of_tables {accounts : List Account} {grants : List RouteGrant} {lineUsage : List LineUsage}
    {other : Staged β} (hother : other.checkpoints = db.other.checkpoints) :
    KeepsLedger id db { db with accounts, grants, lineUsage, other } where
  credentials := rfl
  entries := rfl
  keys := by rw [hother]
  checkpoint _ _ := by rw [hother]
  rows _ _ _ := rfl

theorem keepsLedger_of_endpoints {p : Endpoint → Bool} {f : Endpoint → Endpoint}
    (h : ∀ e, p e = true → (f e).staged id = e.staged id) :
    KeepsLedger id db { db with endpoints := Table.update p f db.endpoints } where
  credentials := rfl
  entries := by
    rw [Table.update, List.map_map]
    refine List.map_congr_left fun e _ => ?_
    by_cases hp : p e = true
    · rw [Function.comp_apply, if_pos hp, h e hp]
    · rw [Function.comp_apply, if_neg hp]
  keys := rfl
  checkpoint _ _ := Iff.rfl
  rows _ _ _ := rfl

theorem Leaves.refl (db : Database (Staged β)) : Leaves id db db := ⟨.refl db, Table.rewrites_refl _⟩

theorem Leaves.trans (h₁ : Leaves id db db') (h₂ : Leaves id db' db'') : Leaves id db db'' where
  toKeepsLedger := h₁.toKeepsLedger.trans h₂.toKeepsLedger
  grants := h₁.grants.trans h₂.grants (fun _ _ h => h) (fun _ _ h => h) fun _ _ _ => RouteGrant.Dims.trans

theorem leaves_of_other {other : Staged β} (hother : other.checkpoints = db.other.checkpoints) :
    Leaves id db { db with other } := ⟨keepsLedger_of_tables hother, Table.rewrites_refl _⟩

theorem leaves_of_accounts {accounts : List Account} : Leaves id db { db with accounts } :=
  ⟨keepsLedger_of_tables rfl, Table.rewrites_refl _⟩

theorem leaves_of_endpoints {p : Endpoint → Bool} {f : Endpoint → Endpoint}
    (h : ∀ e, p e = true → (f e).staged id = e.staged id) :
    Leaves id db { db with endpoints := Table.update p f db.endpoints } :=
  ⟨keepsLedger_of_endpoints h, Table.rewrites_refl _⟩

theorem leaves_of_update_grants {p : RouteGrant → Bool} {f : RouteGrant → RouteGrant}
    (h : ∀ g, p g = true → g.Dims id (f g)) :
    Leaves id db { db with grants := Table.update p f db.grants } :=
  ⟨keepsLedger_of_tables rfl, Table.update_rewrites fun g _ hp => h g hp⟩

/-- A change that leaves a fixed egress not served. -/
theorem RouteGrant.dims_of_unhealthy {f : RouteGrant → RouteGrant} (g : RouteGrant)
    (hroute : (f g).route = g.route) (h : (f g).runtimeHealthy = false) : g.Dims id (f g) := by
  refine ⟨hroute, fun _ hserved => ?_⟩
  rw [RouteGrant.served_of_unhealthy h] at hserved
  cases hserved

theorem RouteGrant.dims_rebuild (g : RouteGrant) : g.Dims id g.rebuild := g.dims_of_unhealthy rfl rfl

theorem Endpoint.staged_rebuild (e : Endpoint) : e.rebuild.staged id = e.staged id := rfl

/-- A new revision is asked for of some entries and fixed egresses. -/
theorem leaves_rebuildAccount (accountID : String) :
    Leaves id db ((db.rebuildAccountEndpoints accountID).rebuildAccountGrants accountID) :=
  (leaves_of_endpoints fun e _ => e.staged_rebuild).trans (leaves_of_update_grants fun g _ => g.dims_rebuild)

theorem leaves_rebase (accountID : String) : Leaves id db (db.rebase accountID) := by
  refine ⟨⟨rfl, rfl, rfl, fun _ _ => Iff.rfl, fun c _ _ => ?_⟩, Table.rewrites_refl _⟩
  have hfind : (db.rebase accountID).watermark c.id = (db.watermark c.id).map fun w =>
      if db.credentials.any fun x => x.id == w.credentialID && x.accountID == accountID then
        { w with baselineBytes := w.observedBytes } else w := Table.find?_update fun _ => rfl
  rw [hfind, Option.map_map]
  refine congrArg (Option.map · _) (funext fun w => ?_)
  rw [Function.comp_apply, apply_ite Watermark.counted]
  exact ite_self _

/-- An observation for another entry. -/
theorem leaves_observe {endpointID : String} {batch : List CounterSnapshot} (hne : endpointID ≠ id)
    (hkeys : (db.credentials.map Credential.id).Nodup)
    (hbatch : ∀ s ∈ batch, ∃ c ∈ db.credentials, c.id = s.credentialID ∧ c.endpointID = endpointID)
    (h : observeMeridianUsageInTx endpointID batch db = .ok db') : Leaves id db db' := by
  obtain ⟨delta, watermarks, lineUsage, used, hfold, rfl⟩ := observeMeridianUsageInTx_ok h
  have hrows : Leaves id db { db with watermarks, lineUsage } := by
    refine ⟨⟨rfl, rfl, rfl, fun _ _ => Iff.rfl, fun c hc hid => ?_⟩, Table.rewrites_refl _⟩
    refine congrArg _ (observeSnapshots_others hfold fun hmem => ?_)
    -- a credential of the batch is one of the other entry
    obtain ⟨s, hs, hsc⟩ := List.mem_map.1 hmem
    obtain ⟨c', hc', hkey, howner⟩ := hbatch s hs
    obtain rfl := Table.eq_of_key hkeys hc' hc (hkey.trans hsc)
    exact hne (howner.symm.trans hid)
  refine hrows.trans (leaves_of_endpoints fun e he => ?_)
  have hid : e.id ≠ id := fun heq => hne ((beq_iff_eq.1 he).symm.trans heq)
  rw [Endpoint.staged_of_ne hid]
  exact Endpoint.staged_of_ne hid

end Statements

/-! ## Subscriptions and quotas -/

section Quotas

variable {β π ρ : Type} {pr : PilotRuntime β π ρ} {id : String} {db db' : Database (Staged β)}

theorem Separate.leaves_ensure (hpr : Separate pr) {endpointID : String}
    (h : ensureMeridianSubscriptionSnapshotsForEndpointInTx pr.toRest db endpointID = .ok db') : Leaves id db db' := by
  obtain ⟨other, hother, hdb⟩ := bind_eq_ok_iff.1 h
  rw [← pure_eq_ok_iff.1 hdb]
  exact leaves_of_other (hpr.snapshots hother)

theorem Separate.leaves_ensureAll (hpr : Separate pr) {endpointIDs : List String}
    (h : endpointIDs.foldlM (ensureMeridianSubscriptionSnapshotsForEndpointInTx pr.toRest) db = .ok db') :
    Leaves id db db' :=
  Table.foldlM_invariant (fun _ _ _ _ hs hstep => hs.trans (hpr.leaves_ensure hstep)) (Leaves.refl db) h

theorem Separate.leaves_markEndpoint (hpr : Separate pr) {endpointID : String}
    (h : markMeridianEndpointQuotaBoundaryChanged pr.toRest db endpointID = .ok db') : Leaves id db db' := by
  simp only [markMeridianEndpointQuotaBoundaryChanged, bind_eq_ok_iff, fetch_eq_ok_iff, pure_eq_ok_iff] at h
  obtain ⟨db₁, hensure, endpoints, hupdate, rfl⟩ := h
  obtain ⟨-, rfl⟩ := Table.updateOne_eq_some_iff.1 hupdate
  exact (hpr.leaves_ensure hensure).trans
    ((leaves_of_endpoints fun e _ => e.staged_rebuild).trans (leaves_of_update_grants fun g _ => g.dims_rebuild))

theorem leaves_rebuildAccounts (accountIDs : List String) : Leaves id db (accountIDs.foldl rebuildAccount db) :=
  Table.foldl_invariant (fun _ _ _ hs => hs.trans
    (leaves_of_accounts.trans (leaves_of_update_grants fun g _ => g.dims_rebuild))) (Leaves.refl db)

theorem leaves_rebuildEndpoints {endpointIDs : List String} (h : endpointIDs.foldlM rebuildEndpoint db = .ok db') :
    Leaves id db db' := by
  refine Table.foldlM_invariant (fun s _ s' _ hs hstep => hs.trans ?_) (Leaves.refl db) h
  simp only [rebuildEndpoint, bind_eq_ok_iff, fetch_eq_ok_iff, pure_eq_ok_iff] at hstep
  obtain ⟨endpoints, hupdate, rfl⟩ := hstep
  obtain ⟨-, rfl⟩ := Table.updateOne_eq_some_iff.1 hupdate
  exact leaves_of_endpoints fun e _ => e.staged_rebuild

theorem Separate.leaves_markCrossing (hpr : Separate pr) {endpointID : String} {crossing : Crossing}
    (h : markCrossing pr.toRuntime endpointID db crossing = .ok db') : Leaves id db db' := by
  unfold markCrossing at h
  split at h
  · simp only [markMeridianQuotaBoundaryChanged, bind_eq_ok_iff, require_eq_ok_iff, exists_const] at h
    obtain ⟨-, db₁, hensure, hrebuild⟩ := h
    exact (hpr.leaves_ensureAll hensure).trans
      ((leaves_rebuildAccounts crossing.accounts).trans (leaves_rebuildEndpoints hrebuild))
  · split at h
    · exact hpr.leaves_markEndpoint h
    · obtain rfl := Except.ok.inj h
      exact Leaves.refl db

/-! ## Resets -/

theorem Separate.leaves_resetAccount (hpr : Separate pr) {now : Instant} {account : Account}
    (h : resetAccount pr.toRest now db account = .ok db') : Leaves id db db' := by
  simp only [resetAccount, bind_eq_ok_iff, require_eq_ok_iff, exists_const, pure_eq_ok_iff] at h
  obtain ⟨-, db₁, hensure, rfl⟩ := h
  exact (hpr.leaves_ensureAll hensure).trans
    ((leaves_rebase account.id).trans (leaves_of_accounts.trans (leaves_rebuildAccount account.id)))

theorem Separate.leaves_expireAccount (hpr : Separate pr) {accountID : String}
    (h : expireAccount pr.toRest db accountID = .ok db') : Leaves id db db' := by
  simp only [expireAccount, bind_eq_ok_iff, pure_eq_ok_iff] at h
  obtain ⟨db₁, hensure, rfl⟩ := h
  exact (hpr.leaves_ensureAll hensure).trans (leaves_of_accounts.trans (leaves_rebuildAccount accountID))

theorem Separate.leaves_resetAccounts (hpr : Separate pr) {now : Instant}
    (h : resetDueMeridianAccounts pr.toRest now db = .ok db') : Leaves id db db' := by
  obtain ⟨db₁, hdue, hexpired⟩ := bind_eq_ok_iff.1 h
  have hreset : Leaves id db db₁ := Table.foldlM_invariant
    (fun _ _ _ _ hs hstep => hs.trans (hpr.leaves_resetAccount hstep)) (Leaves.refl db) hdue
  exact hreset.trans (Table.foldlM_invariant
    (fun _ _ _ _ hs hstep => hs.trans (hpr.leaves_expireAccount hstep)) (Leaves.refl db₁) hexpired)

theorem Separate.leaves_resetEndpoint (hpr : Separate pr) {now : Instant} {due : Endpoint × String}
    (hne : due.1.id ≠ id) (h : resetEndpoint pr.toRest now db due = .ok db') : Leaves id db db' := by
  simp only [resetEndpoint, bind_eq_ok_iff, require_eq_ok_iff, exists_const, fetch_eq_ok_iff] at h
  obtain ⟨-, next, -, wasEnabled, -, db₁, hcapture, endpoints, hupdate, h⟩ := h
  have hcaptured : Leaves id db db₁ := by
    cases wasEnabled with
    | true =>
        obtain rfl := Except.ok.inj hcapture
        exact Leaves.refl db
    | false => exact hpr.leaves_ensure hcapture
  obtain ⟨-, rfl⟩ := Table.updateOne_eq_some_iff.1 hupdate
  have hreset : ∀ e : Endpoint, (e.id == due.1.id && e.status != .retired) = true →
      (e.reset now next).staged id = e.staged id := by
    intro e he
    rw [Bool.and_eq_true, beq_iff_eq] at he
    have hid : e.id ≠ id := fun heq => hne (he.1.symm.trans heq)
    rw [Endpoint.staged_of_ne hid]
    exact Endpoint.staged_of_ne hid
  cases wasEnabled with
  | true =>
      obtain rfl := pure_eq_ok_iff.1 h
      exact hcaptured.trans (leaves_of_endpoints hreset)
  | false => exact (hcaptured.trans (leaves_of_endpoints hreset)).trans (hpr.leaves_markEndpoint h)

/-- The entries that are due are not staged. -/
theorem Separate.leaves_resetEndpoints (hpr : Separate pr) {now : Instant}
    (howned : db.other.checkpoints.any (·.endpointID == id) = true)
    (h : resetDueMeridianEndpoints pr.toRest now db = .ok db') : Leaves id db db' := by
  refine Table.foldlM_invariant (fun s due s' hdue hs hstep => hs.trans (hpr.leaves_resetEndpoint ?_ hstep))
    (Leaves.refl db) h
  rw [dueEndpoints, List.mem_insertionSort, List.mem_filterMap] at hdue
  obtain ⟨e, -, hdue⟩ := hdue
  split at hdue
  · rename_i hguard
    rw [Option.map_eq_some_iff] at hdue
    obtain ⟨zone, -, rfl⟩ := hdue
    simp only [Bool.and_eq_true, Bool.not_eq_true', hpr.owns] at hguard
    rintro rfl
    rw [howned] at hguard
    cases hguard.1.2
  · cases hdue

end Quotas

/-! ## Reports -/

section Reports

variable {β π ρ : Type} {pr : PilotRuntime β π ρ} {id endpointID : String} {db db' : Database (Staged β)}

theorem RouteGrant.dims_observe {healthy : Bool} {g : RouteGrant} (hne : g.endpointID ≠ id) :
    g.Dims id (g.observe healthy) := ⟨rfl, fun hid => absurd hid hne⟩

theorem Separate.leaves_routeHealth (hpr : Separate pr) (hne : endpointID ≠ id) {projection : π} {result : ρ}
    {now : Instant} (h : recordMeridianRouteHealth pr.toRuntime endpointID projection result now db = .ok db') :
    Leaves id db db' := by
  simp only [recordMeridianRouteHealth, bind_eq_ok_iff] at h
  obtain ⟨ready, -, db₁, hready, hblocked⟩ := h
  have hrecord : Leaves id db db₁ := by
    refine Table.foldlM_invariant (fun s r s' _ hs hstep => hs.trans ?_) (Leaves.refl db) hready
    simp only [recordRoute, bind_eq_ok_iff, fetch_eq_ok_iff, pure_eq_ok_iff] at hstep
    obtain ⟨grants, hupdate, other, hother, rfl⟩ := hstep
    obtain ⟨-, rfl⟩ := Table.updateOne_eq_some_iff.1 hupdate
    refine (leaves_of_update_grants fun g hg => RouteGrant.dims_observe ?_).trans
      (leaves_of_other (hpr.diagnostics hother))
    simp only [Bool.and_eq_true, beq_iff_eq] at hg
    exact fun heq => hne (hg.1.1.1.2.symm.trans heq)
  refine hrecord.trans (Table.foldlM_invariant (fun s r s' _ hs hstep => hs.trans ?_) (Leaves.refl db₁) hblocked)
  simp only [blockRoute, bind_eq_ok_iff, fetch_eq_ok_iff, pure_eq_ok_iff] at hstep
  obtain ⟨grants, hupdate, other, hother, rfl⟩ := hstep
  obtain ⟨-, rfl⟩ := Table.updateOne_eq_some_iff.1 hupdate
  refine (leaves_of_update_grants fun g hg => RouteGrant.dims_observe ?_).trans
    (leaves_of_other (hpr.diagnostics hother))
  simp only [Bool.and_eq_true, beq_iff_eq] at hg
  exact fun heq => hne (hg.1.2.symm.trans heq)

theorem observeCounters_leaves (hne : endpointID ≠ id) (hkeys : (db.credentials.map Credential.id).Nodup)
    {clock : String → Int} {quotas : List (String × Bool) × Bool} {batch : List CounterSnapshot} {crossing : Crossing}
    (hbatch : ∀ s ∈ batch, ∃ c ∈ db.credentials, c.id = s.credentialID ∧ c.endpointID = endpointID)
    (h : observeCounters pr.toRuntime clock endpointID quotas batch db = .ok (db', crossing)) : Leaves id db db' := by
  simp only [observeCounters, bind_eq_ok_iff, pure_eq_ok_iff, Prod.mk.injEq] at h
  obtain ⟨db₁, hobserve, _, -, _, -, rfl, -⟩ := h
  exact leaves_observe hne hkeys hbatch hobserve

theorem Separate.leaves_observeEndpoint (hpr : Separate pr) (hne : endpointID ≠ id)
    (hkeys : (db.credentials.map Credential.id).Nodup) {agentID : String} {result : ρ} {now : Instant}
    {before after : String → Int}
    (h : observeEndpoint pr.toRuntime agentID result now before after endpointID db = .ok db') : Leaves id db db' := by
  simp only [observeEndpoint, bind_eq_ok_iff, fetch_eq_ok_iff, require_eq_ok_iff, exists_const] at h
  obtain ⟨projection, hbuild, -, -, quotas, -, batch, hparse, ⟨db₁, crossing⟩, hobserve, h⟩ := h
  have hbuilt : pr.buildMeridianRuntimeTask db endpointID agentID = .ok projection := toOption_eq_some_iff.1 hbuild
  have hcounted : Leaves id db db₁ := observeCounters_leaves hne hkeys (hpr.counters hbuilt hparse) hobserve
  refine hcounted.trans ?_
  dsimp only at h
  split at h
  · simp only [confirmEndpoint, bind_eq_ok_iff, fetch_eq_ok_iff, pure_eq_ok_iff] at h
    obtain ⟨endpoints, hupdate, db₂, hroutes, other, hother, rfl⟩ := h
    obtain ⟨-, rfl⟩ := Table.updateOne_eq_some_iff.1 hupdate
    refine (leaves_of_endpoints fun _ _ => ?_).trans
      ((hpr.leaves_routeHealth hne hroutes).trans (leaves_of_other (hpr.cutover hother)))
    rfl
  · exact hpr.leaves_markCrossing h

/-- A heartbeat of the node of a staged entry changes nothing; that of another node is for another entry. -/
theorem Separate.leaves_heartbeat (hpr : Separate pr) (howned : db.other.checkpoints.any (·.endpointID == id) = true)
    (hkeys : (db.credentials.map Credential.id).Nodup) {agentID : String} {result : ρ} {now : Instant}
    {before after : String → Int}
    (h : recordMeridianRuntimeObservation pr.toRuntime agentID result now before after db = .ok db') :
    Leaves id db db' := by
  obtain ⟨found, hfound, h⟩ := bind_eq_ok_iff.1 h
  cases found with
  | none =>
      obtain rfl := pure_eq_ok_iff.1 h
      exact Leaves.refl db
  | some e =>
      refine hpr.leaves_observeEndpoint ?_ hkeys h
      rintro rfl
      unfold observedEndpoint at hfound
      split at hfound
      · cases hfound
      · rename_i hnone
        rw [fetch_bind_eq_ok_iff] at hfound
        obtain ⟨e', hfind, hfound⟩ := hfound
        have hmem := List.mem_of_find?_eq_some hfind
        have hguard := List.find?_some hfind
        have heq : e' = e := by
          rw [pure_eq_ok_iff] at hfound
          split at hfound
          · cases hfound
          · exact Option.some.inj hfound
        subst heq
        simp only [Bool.and_eq_true] at hguard
        refine hnone (List.any_eq_true.2 ⟨e', hmem, ?_⟩)
        rw [Bool.and_eq_true, hpr.owns]
        exact ⟨howned, hguard.1.1⟩

/-! ## Commands -/

theorem Separate.leaves_project (hpr : Separate pr) (hne : endpointID ≠ id) {taskID : String} {projection : π}
    {result : ρ} {quotaEnabled : Bool} {now : Instant}
    (h : projectVerifiedMeridianRuntime pr.toRuntime endpointID taskID projection result quotaEnabled now db = .ok db') :
    Leaves id db db' := by
  simp only [projectVerifiedMeridianRuntime, bind_eq_ok_iff, fetch_eq_ok_iff] at h
  obtain ⟨endpoints, hupdate, other, hother, db₁, hroutes, h⟩ := h
  obtain ⟨-, rfl⟩ := Table.updateOne_eq_some_iff.1 hupdate
  have happlied : Leaves id db db₁ := by
    refine Leaves.trans ?_ (hpr.leaves_routeHealth hne hroutes)
    refine (leaves_of_endpoints fun _ _ => ?_).trans ((leaves_of_other (hpr.deployment hother)).trans
      (leaves_of_update_grants fun g _ => g.dims_of_unhealthy rfl rfl))
    rfl
  split at h
  · obtain rfl := pure_eq_ok_iff.1 h
    exact happlied.trans leaves_of_accounts
  · obtain ⟨other', hother', h⟩ := bind_eq_ok_iff.1 h
    obtain rfl := pure_eq_ok_iff.1 h
    exact happlied.trans (leaves_of_accounts.trans (leaves_of_other (hpr.publications hother')))

theorem Separate.leaves_fail (hpr : Separate pr) {taskID : String} {retirement : Bool} {state : CommandState}
    (h : failMeridianRuntimeCommand pr.toRuntime endpointID taskID retirement db = .ok (db', state)) :
    Leaves id db db' := by
  simp only [failMeridianRuntimeCommand, bind_eq_ok_iff, pure_eq_ok_iff, Prod.mk.injEq] at h
  obtain ⟨other, hother, rfl, -⟩ := h
  refine Leaves.trans ?_ (leaves_of_other (hpr.command hother))
  cases retirement with
  | true => exact Leaves.refl db
  | false =>
      refine (leaves_of_endpoints fun _ _ => ?_).trans
        (leaves_of_update_grants fun g _ => g.dims_of_unhealthy rfl rfl)
      rfl

theorem Separate.leaves_apply (hpr : Separate pr) (hne : endpointID ≠ id) {taskID agentID : String} {projection : π}
    {result : ρ} {quotaEnabled : Bool} {now : Instant} {crossing : Crossing} {state : CommandState}
    (h : applyMeridianRuntimeCommand pr.toRuntime taskID agentID endpointID projection result quotaEnabled now crossing
      db = .ok (db', state)) : Leaves id db db' := by
  simp only [applyMeridianRuntimeCommand, bind_eq_ok_iff, pure_eq_ok_iff, Prod.mk.injEq] at h
  obtain ⟨other, hother, db₁, hproject, other₁, hother₁, other₂, hother₂, db₂, hmark, other₃, hother₃, rfl, -⟩ := h
  exact (leaves_of_other (hpr.evidence hother)).trans ((hpr.leaves_project hne hproject).trans
    ((leaves_of_other ((hpr.landing hother₂).trans (hpr.command hother₁))).trans
      ((hpr.leaves_markCrossing hmark).trans (leaves_of_other (hpr.cutover hother₃)))))

theorem Separate.leaves_current (hpr : Separate pr) (hne : endpointID ≠ id)
    (hkeys : (db.credentials.map Credential.id).Nodup) {taskID agentID : String} {outcome : Except String ρ}
    {now : Instant} {before after : String → Int} {state : CommandState}
    (h : completeCurrentMeridianRuntimeCommand pr.toRuntime taskID agentID endpointID outcome now before after db =
      .ok (db', state)) : Leaves id db db' := by
  unfold completeCurrentMeridianRuntimeCommand at h
  split at h
  · exact hpr.leaves_fail h
  · rename_i projection result hreceipt
    simp only [verifiedReceipt, bind_eq_ok_iff, pure_eq_ok_iff, Prod.mk.injEq] at hreceipt
    obtain ⟨_, -, _, hbuild, _, -, rfl, -⟩ := hreceipt
    obtain ⟨quotas, -, h⟩ := bind_eq_ok_iff.1 h
    split at h
    · exact hpr.leaves_fail h
    · rename_i batch hparse
      obtain ⟨⟨db₁, crossing⟩, hobserve, h⟩ := bind_eq_ok_iff.1 h
      exact (observeCounters_leaves hne hkeys (hpr.counters hbuild hparse) hobserve).trans (hpr.leaves_apply hne h)

/-- A command of a staged entry is refused. -/
theorem Separate.leaves_command (hpr : Separate pr) (howned : db.other.checkpoints.any (·.endpointID == id) = true)
    (hkeys : (db.credentials.map Credential.id).Nodup) {taskID agentID : String} {outcome : Except String ρ}
    {superseded : Bool} {now : Instant} {before after : String → Int} {state : CommandState}
    (h : completeMeridianRuntimeCommand pr.toRuntime taskID agentID endpointID outcome superseded now before after db =
      .ok (db', state)) : Leaves id db db' := by
  rw [completeMeridianRuntimeCommand, require_bind_eq_ok_iff, fetch_bind_eq_ok_iff] at h
  obtain ⟨hfree, e, -, h⟩ := h
  rw [fetch_bind_eq_ok_iff] at h
  obtain ⟨revision, -, h⟩ := h
  have hne : endpointID ≠ id := by
    rintro rfl
    rw [hpr.owns, howned] at hfree
    cases hfree
  split at h
  · exact hpr.leaves_current hne hkeys h
  · rw [require_bind_eq_ok_iff] at h
    simp only [completeSupersededMeridianRuntimeCommand, bind_eq_ok_iff, pure_eq_ok_iff, Prod.mk.injEq] at h
    obtain ⟨-, other, hother, rfl, -⟩ := h
    refine (leaves_of_endpoints fun _ _ => ?_).trans (leaves_of_other (hpr.command hother))
    rfl

end Reports

end Meridian
end Center
end Vastora
