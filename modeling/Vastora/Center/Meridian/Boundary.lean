import Mathlib.Data.List.Dedup
import Vastora.Center.Meridian.Runtime

/-!
# Boundary — a crossed quota rebuilds the entries that serve it

Nothing that a report does before its quotas are compared changes a desired revision
(`SameRevisions`), so that what `markCrossing` adds is exact: one revision for every entry of an account
whose quota was crossed, and one for the entry itself.
-/

namespace Vastora
namespace Center
namespace Meridian

open Library Library.Guard

variable {β π ρ : Type}

/-! ## Revisions that stay -/

/-- The same revision of an entry, which is still in use if it was. -/
def Endpoint.Keeps (e e' : Endpoint) : Prop :=
  e'.id = e.id ∧ e'.desiredRevision = e.desiredRevision ∧ (e.status ≠ .retired → e'.status ≠ .retired)

/-- The same revision of a grant. -/
def RouteGrant.Keeps (g g' : RouteGrant) : Prop :=
  g'.id = g.id ∧ g'.accountID = g.accountID ∧ g'.desiredRevision = g.desiredRevision

theorem Endpoint.Keeps.trans {e e₁ e₂ : Endpoint} (h₁ : e.Keeps e₁) (h₂ : e₁.Keeps e₂) :
    e.Keeps e₂ :=
  ⟨h₂.1.trans h₁.1, h₂.2.1.trans h₁.2.1, fun h => h₂.2.2 (h₁.2.2 h)⟩

theorem RouteGrant.Keeps.trans {g g₁ g₂ : RouteGrant} (h₁ : g.Keeps g₁) (h₂ : g₁.Keeps g₂) :
    g.Keeps g₂ :=
  ⟨h₂.1.trans h₁.1, h₂.2.1.trans h₁.2.1, h₂.2.2.trans h₁.2.2⟩

/-- Tables with the same credentials and the same desired revisions. -/
structure SameRevisions (db db' : Database β) : Prop where
  credentials : db'.credentials = db.credentials
  endpoints : Table.Rewrites Endpoint.Keeps db.endpoints db'.endpoints
  grants : Table.Rewrites RouteGrant.Keeps db.grants db'.grants

section Frames

variable {db db' : Database β} {rt : Runtime β π ρ} {endpointID : String} {add : Int → Int → Int}

theorem SameRevisions.trans {db'' : Database β} (h₁ : SameRevisions db db')
    (h₂ : SameRevisions db' db'') : SameRevisions db db'' where
  credentials := h₂.credentials.trans h₁.credentials
  endpoints := h₁.endpoints.trans h₂.endpoints (fun _ _ h => h) (fun _ _ h => h)
    fun _ _ _ => Endpoint.Keeps.trans
  grants := h₁.grants.trans h₂.grants (fun _ _ h => h) (fun _ _ h => h)
    fun _ _ _ => RouteGrant.Keeps.trans

theorem observeMeridianLineUsage_frame {c : String} {up down : Int}
    (h : observeMeridianLineUsage add db c up down = .ok db') : SameButLines db db' := by
  unfold observeMeridianLineUsage at h
  split at h
  · obtain ⟨-, -, h⟩ := bind_eq_ok_iff.1 h
    exact ⟨_, (pure_eq_ok_iff.1 h).symm⟩
  · obtain ⟨-, -, h⟩ := bind_eq_ok_iff.1 h
    exact ⟨_, (pure_eq_ok_iff.1 h).symm⟩

/-- A snapshot changes watermarks and line usage only. -/
theorem observeSnapshot_frame {s : CounterSnapshot} {delta delta' : Int}
    (h : observeSnapshot add (db, delta) s = .ok (db', delta')) :
    ∃ watermarks lineUsage, db' = { db with watermarks, lineUsage } := by
  unfold observeSnapshot at h
  obtain ⟨-, -, h⟩ := bind_eq_ok_iff.1 h
  split at h
  · obtain ⟨-, -, h⟩ := bind_eq_ok_iff.1 h
    obtain ⟨db₁, hline, h⟩ := bind_eq_ok_iff.1 h
    obtain ⟨lines, rfl⟩ := observeMeridianLineUsage_frame hline
    obtain ⟨rfl, -⟩ := Prod.mk.inj (pure_eq_ok_iff.1 h)
    exact ⟨_, _, rfl⟩
  · obtain ⟨db₁, hline, h⟩ := bind_eq_ok_iff.1 h
    obtain ⟨lines, rfl⟩ := observeMeridianLineUsage_frame hline
    obtain ⟨-, -, h⟩ := bind_eq_ok_iff.1 h
    obtain ⟨watermarks, -, h⟩ := bind_eq_ok_iff.1 h
    obtain ⟨rfl, -⟩ := Prod.mk.inj (pure_eq_ok_iff.1 h)
    exact ⟨_, _, rfl⟩

/-- An observation changes the ledger and the used bytes of the entry only. -/
theorem observeMeridianUsageInTx_frame {snapshots : List CounterSnapshot}
    (h : observeMeridianUsageInTx endpointID snapshots db = .ok db') :
    SameRevisions db db' ∧ db'.accounts = db.accounts := by
  obtain ⟨⟨db₁, delta⟩, hfold, hcredit⟩ := bind_eq_ok_iff.1 h
  have hsnapshots : ∃ watermarks lineUsage, db₁ = { db with watermarks, lineUsage } := by
    refine @Table.foldlM_invariant _ _ _ _ _
      (fun st : Database β × Int => ∃ watermarks lineUsage, st.1 = { db with watermarks, lineUsage }) _ _ ?_
      ⟨db.watermarks, db.lineUsage, rfl⟩ hfold
    rintro ⟨_, delta⟩ s ⟨db₂, delta₂⟩ - ⟨watermarks, lineUsage, rfl⟩ hstep
    obtain ⟨watermarks', lineUsage', rfl⟩ := observeSnapshot_frame hstep
    exact ⟨watermarks', lineUsage', rfl⟩
  obtain ⟨watermarks, lineUsage, rfl⟩ := hsnapshots
  change creditEndpoint saturatingAdd endpointID _ delta = .ok db' at hcredit
  unfold creditEndpoint at hcredit
  split at hcredit
  · simp only [bind_eq_ok_iff, fetch_eq_ok_iff, require_eq_ok_iff, exists_const, pure_eq_ok_iff]
      at hcredit
    obtain ⟨e, -, -, endpoints, hupdate, rfl⟩ := hcredit
    obtain ⟨-, rfl⟩ := Table.updateOne_eq_some_iff.1 hupdate
    refine ⟨⟨rfl, Table.update_rewrites fun e _ _ => ?_, Table.rewrites_refl _⟩, rfl⟩
    exact ⟨rfl, rfl, id⟩
  · obtain rfl := Except.ok.inj hcredit
    exact ⟨⟨rfl, Table.rewrites_refl _, Table.rewrites_refl _⟩, rfl⟩

theorem recordRoute_frame {r : RouteHealth} (h : recordRoute rt endpointID db r = .ok db') :
    ∃ grants other, db' = { db with grants, other } ∧ Table.Rewrites RouteGrant.Keeps db.grants grants := by
  simp only [recordRoute, bind_eq_ok_iff, fetch_eq_ok_iff, pure_eq_ok_iff] at h
  obtain ⟨grants, hupdate, other, -, rfl⟩ := h
  obtain ⟨-, rfl⟩ := Table.updateOne_eq_some_iff.1 hupdate
  exact ⟨_, other, rfl, Table.update_rewrites fun g _ _ => ⟨rfl, rfl, rfl⟩⟩

theorem blockRoute_frame {grantID : String} (h : blockRoute rt endpointID db grantID = .ok db') :
    ∃ grants other, db' = { db with grants, other } ∧ Table.Rewrites RouteGrant.Keeps db.grants grants := by
  simp only [blockRoute, bind_eq_ok_iff, fetch_eq_ok_iff, pure_eq_ok_iff] at h
  obtain ⟨grants, hupdate, other, -, rfl⟩ := h
  obtain ⟨-, rfl⟩ := Table.updateOne_eq_some_iff.1 hupdate
  exact ⟨_, other, rfl, Table.update_rewrites fun g _ _ => ⟨rfl, rfl, rfl⟩⟩

/-- Observed transports change columns of the grants that are no revisions. -/
theorem recordMeridianRouteHealth_frame {projection : π} {result : ρ} {now : Instant}
    (h : recordMeridianRouteHealth rt endpointID projection result now db = .ok db') :
    ∃ grants other, db' = { db with grants, other } ∧ Table.Rewrites RouteGrant.Keeps db.grants grants := by
  let Frame (db' : Database β) : Prop := ∃ grants other, db' = { db with grants, other } ∧
    Table.Rewrites RouteGrant.Keeps db.grants grants
  have hnext : ∀ {db₁ db₂ : Database β}, Frame db₁ →
      (∃ grants other, db₂ = { db₁ with grants, other } ∧
        Table.Rewrites RouteGrant.Keeps db₁.grants grants) → Frame db₂ := by
    rintro _ _ ⟨grants, other, rfl, hgrants⟩ ⟨grants', other', rfl, hgrants'⟩
    exact ⟨grants', other', rfl, hgrants.trans hgrants' (fun _ _ h => h) (fun _ _ h => h)
      fun _ _ _ => RouteGrant.Keeps.trans⟩
  simp only [recordMeridianRouteHealth, bind_eq_ok_iff] at h
  obtain ⟨ready, -, db₁, hready, hblocked⟩ := h
  have hstart : Frame db := ⟨db.grants, db.other, rfl, Table.rewrites_refl _⟩
  have h₁ : Frame db₁ := @Table.foldlM_invariant _ _ _ _ _ Frame _ _
    (fun _ _ _ _ hs hstep => hnext hs (recordRoute_frame hstep)) hstart hready
  exact @Table.foldlM_invariant _ _ _ _ _ Frame _ _
    (fun _ _ _ _ hs hstep => hnext hs (blockRoute_frame hstep)) h₁ hblocked

/-- A verified revision counts as applied, and the entry is ready. -/
theorem projectVerifiedMeridianRuntime_frame {taskID : String} {projection : π} {result : ρ}
    {quotaEnabled : Bool} {now : Instant}
    (h : projectVerifiedMeridianRuntime rt endpointID taskID projection result quotaEnabled now db =
      .ok db') :
    SameRevisions db db' ∧ ∃ e ∈ db'.endpoints, e.id = endpointID ∧ e.status ≠ .retired := by
  simp only [projectVerifiedMeridianRuntime, bind_eq_ok_iff, fetch_eq_ok_iff] at h
  obtain ⟨endpoints, hupdate, other, -, db₁, hroutes, h⟩ := h
  obtain ⟨grants, other₁, rfl, hgrants⟩ := recordMeridianRouteHealth_frame hroutes
  have hframe : db'.credentials = db.credentials ∧ db'.grants = grants ∧ db'.endpoints = endpoints := by
    split at h
    · obtain rfl := pure_eq_ok_iff.1 h
      exact ⟨rfl, rfl, rfl⟩
    · obtain ⟨other₂, -, h⟩ := bind_eq_ok_iff.1 h
      obtain rfl := pure_eq_ok_iff.1 h
      exact ⟨rfl, rfl, rfl⟩
  obtain ⟨hcredentials, hg, he⟩ := hframe
  obtain ⟨hcount, rfl⟩ := Table.updateOne_eq_some_iff.1 hupdate
  refine ⟨⟨hcredentials, ?_, ?_⟩, ?_⟩
  · rw [he]
    exact Table.update_rewrites fun e _ _ => ⟨rfl, rfl, fun _ => by simp [Endpoint.apply]⟩
  · rw [hg]
    refine Table.Rewrites.trans (Table.update_rewrites fun g _ _ => ?_) hgrants (fun _ _ h => h)
      (fun _ _ h => h) fun _ _ _ => RouteGrant.Keeps.trans
    exact ⟨rfl, rfl, rfl⟩
  · -- The guarded update has found the row of the entry.
    have hpos : 0 < db.endpoints.countP fun e =>
        e.id == endpointID && e.desiredRevision == rt.revision projection := by omega
    obtain ⟨e, hmem, hguard⟩ := List.countP_pos_iff.1 hpos
    rw [he]
    refine ⟨_, Table.mem_update_of_pos hmem hguard, ?_, by simp [Endpoint.apply]⟩
    rw [Bool.and_eq_true, beq_iff_eq] at hguard
    exact hguard.1

end Frames

/-! ## Revisions that are asked for -/

/-- Exactly one revision more has to be applied, and until then the entry is not served. -/
structure Endpoint.Rebuilt (e e' : Endpoint) : Prop where
  id : e'.id = e.id
  desiredRevision : e'.desiredRevision = e.desiredRevision + 1
  status : e'.status = .pending
  runtimeHealthy : e'.runtimeHealthy = false

/-- A newer revision of the fixed egress has to be applied. -/
structure RouteGrant.Rebuilt (g g' : RouteGrant) : Prop where
  id : g'.id = g.id
  desiredRevision : g.desiredRevision < g'.desiredRevision
  runtimeHealthy : g'.runtimeHealthy = false

/-- Every entry in use and every fixed egress of an account is rebuilt. -/
structure RebuildsAccount (accountID : String) (db db' : Database β) : Prop where
  endpoints : List.Forall₂ (fun e e' => e.status ≠ .retired → db.hasCredential accountID e.id →
    e.Rebuilt e') db.endpoints db'.endpoints
  grants : List.Forall₂ (fun g g' => g.accountID = accountID → g.Rebuilt g') db.grants db'.grants

def RebuildsEndpoint (endpointID : String) (db db' : Database β) : Prop :=
  List.Forall₂ (fun e e' => e.id = endpointID → e.Rebuilt e') db.endpoints db'.endpoints

section Marking

variable {db db₁ db' : Database β} {rest : Rest β} {endpointID accountID : String}
  {accountIDs endpointIDs : List String}

theorem Endpoint.Keeps.rebuilt {e e₁ : Endpoint} (h : e₁ = e ∨ e.Keeps e₁) : e.Rebuilt e₁.rebuild := by
  rcases h with rfl | ⟨hid, hrevision, -⟩
  · exact ⟨rfl, rfl, rfl, rfl⟩
  · exact ⟨hid, by rw [Endpoint.rebuild, hrevision], rfl, rfl⟩

theorem RouteGrant.Keeps.rebuilt {g g₁ : RouteGrant} (h : g₁ = g ∨ g.Keeps g₁) :
    g.Rebuilt g₁.rebuild := by
  have hrevision : g₁.desiredRevision = g.desiredRevision := by
    rcases h with rfl | h
    · rfl
    · exact h.2.2
  refine ⟨?_, ?_, rfl⟩
  · rcases h with rfl | h
    · rfl
    · exact h.1
  · have hnext : g₁.rebuild.desiredRevision = g₁.desiredRevision + 1 := rfl
    omega

theorem hasCredential_congr (h : db'.credentials = db.credentials) :
    db'.hasCredential accountID endpointID = db.hasCredential accountID endpointID := by
  rw [Database.hasCredential, h, Database.hasCredential]

theorem mem_affectedEndpoints {e : Endpoint} (he : e ∈ db.endpoints) (hstatus : e.status ≠ .retired)
    (haccount : accountID ∈ accountIDs) (hcredential : db.hasCredential accountID e.id) :
    e.id ∈ affectedEndpoints db accountIDs := by
  have hof : e.id ∈ db.endpointsOf accountID := by
    rw [Database.endpointsOf, List.mem_insertionSort, List.mem_dedup, List.mem_map]
    exact ⟨e, List.mem_filter.2 ⟨he, by simp [hstatus, hcredential]⟩, rfl⟩
  rw [affectedEndpoints, List.mem_insertionSort, List.mem_dedup, List.mem_flatMap]
  exact ⟨accountID, haccount, hof⟩

theorem nodup_affectedEndpoints : (affectedEndpoints db accountIDs).Nodup :=
  (List.perm_insertionSort _ _).nodup_iff.2 (List.nodup_dedup _)

theorem foldl_rebuildAccount (accountIDs : List String) (db : Database β) :
    ∃ accounts, accountIDs.foldl rebuildAccount db =
      { db with accounts
                grants := accountIDs.foldl (fun rows id =>
                  Table.update (fun g => g.accountID == id) RouteGrant.rebuild rows) db.grants } := by
  induction accountIDs generalizing db with
  | nil => exact ⟨db.accounts, rfl⟩
  | cons id accountIDs ih =>
      obtain ⟨accounts, h⟩ := ih (rebuildAccount db id)
      exact ⟨accounts, h⟩

theorem foldlM_rebuildEndpoint (h : endpointIDs.foldlM rebuildEndpoint db = .ok db') :
    db' = { db with endpoints := endpointIDs.foldl (fun rows id =>
      Table.update (fun e => e.id == id) Endpoint.rebuild rows) db.endpoints } := by
  induction endpointIDs generalizing db with
  | nil => exact (Except.ok.inj h).symm
  | cons id endpointIDs ih =>
      rw [List.foldlM_cons] at h
      obtain ⟨db₁, hstep, hrest⟩ := bind_eq_ok_iff.1 h
      simp only [rebuildEndpoint, bind_eq_ok_iff, fetch_eq_ok_iff, pure_eq_ok_iff] at hstep
      obtain ⟨endpoints, hupdate, rfl⟩ := hstep
      obtain ⟨-, rfl⟩ := Table.updateOne_eq_some_iff.1 hupdate
      exact ih hrest

/-- Crossed quotas of accounts: their grants and the entries in use that serve them. -/
theorem markMeridianQuotaBoundaryChanged_ok (hnodup : accountIDs.Nodup)
    (h : markMeridianQuotaBoundaryChanged rest db accountIDs = .ok db') :
    db'.endpoints = Table.update (fun e => (affectedEndpoints db accountIDs).contains e.id)
        Endpoint.rebuild db.endpoints ∧
      db'.grants = Table.update (fun g => accountIDs.contains g.accountID) RouteGrant.rebuild
        db.grants := by
  simp only [markMeridianQuotaBoundaryChanged, bind_eq_ok_iff, require_eq_ok_iff, exists_const] at h
  obtain ⟨-, db₁, hensure, hrebuild⟩ := h
  obtain ⟨other, rfl⟩ := ensureSnapshotsForEndpoints_ok hensure
  obtain ⟨accounts, haccounts⟩ := foldl_rebuildAccount accountIDs { db with other }
  rw [haccounts] at hrebuild
  obtain rfl := foldlM_rebuildEndpoint hrebuild
  exact ⟨Table.foldl_update_key nodup_affectedEndpoints fun _ => rfl,
    Table.foldl_update_key hnodup fun _ => rfl⟩

theorem rebuildsAccount_of_mark (hsame : SameRevisions db db₁) (hnodup : accountIDs.Nodup)
    (haccount : accountID ∈ accountIDs)
    (h : markMeridianQuotaBoundaryChanged rest db₁ accountIDs = .ok db') :
    RebuildsAccount accountID db db' := by
  obtain ⟨hendpoints, hgrants⟩ := markMeridianQuotaBoundaryChanged_ok hnodup h
  constructor
  · rw [hendpoints]
    refine hsame.endpoints.forall₂_update ?_
    intro e e₁ he₁ hkeeps hstatus hcredential
    have hid : e₁.id = e.id := hkeeps.elim (fun h => h ▸ rfl) fun h => h.1
    have hstatus₁ : e₁.status ≠ .retired := hkeeps.elim (fun h => h ▸ hstatus) fun h => h.2.2 hstatus
    have hmem : e₁.id ∈ affectedEndpoints db₁ accountIDs := by
      refine mem_affectedEndpoints he₁ hstatus₁ haccount ?_
      rwa [hasCredential_congr hsame.credentials, hid]
    rw [if_pos (List.contains_iff_mem.2 hmem)]
    exact Endpoint.Keeps.rebuilt hkeeps
  · rw [hgrants]
    refine hsame.grants.forall₂_update ?_
    intro g g₁ _ hkeeps hid
    have hid₁ : g₁.accountID = accountID := hkeeps.elim (fun h => h ▸ hid) fun h => h.2.1.trans hid
    rw [if_pos (List.contains_iff_mem.2 (hid₁ ▸ haccount))]
    exact RouteGrant.Keeps.rebuilt hkeeps

/-- A crossed cap of an entry: the entry, which is in use. -/
theorem rebuildsEndpoint_of_mark (hsame : SameRevisions db db₁)
    (hkeys : (db.endpoints.map Endpoint.id).Nodup)
    (h : markMeridianEndpointQuotaBoundaryChanged rest db₁ endpointID = .ok db') :
    RebuildsEndpoint endpointID db db' := by
  simp only [markMeridianEndpointQuotaBoundaryChanged, bind_eq_ok_iff, fetch_eq_ok_iff,
    pure_eq_ok_iff] at h
  obtain ⟨db₂, hensure, endpoints, hupdate, rfl⟩ := h
  obtain ⟨other, rfl⟩ := ensureSnapshotsForEndpoint_ok hensure
  obtain ⟨e₂, he₂, hguard⟩ := Table.exists_of_updateOne hupdate
  obtain ⟨-, rfl⟩ := Table.updateOne_eq_some_iff.1 hupdate
  have hkeys₁ : (db₁.endpoints.map Endpoint.id).Nodup := by
    rwa [hsame.endpoints.map_key fun _ _ h => h.1]
  refine hsame.endpoints.forall₂_update ?_
  intro e e₁ he₁ hkeeps hid
  have hid₁ : e₁.id = endpointID := hkeeps.elim (fun h => h ▸ hid) fun h => h.1.trans hid
  have hid₂ : e₂.id = endpointID := by
    rw [Bool.and_eq_true, beq_iff_eq] at hguard
    exact hguard.1
  -- The row that the statement has found is the one with this key.
  obtain rfl := Table.eq_of_key hkeys₁ he₁ he₂ (hid₁.trans hid₂.symm)
  rw [if_pos hguard]
  exact Endpoint.Keeps.rebuilt hkeeps

/-- A crossed quota of an account on an entry in use rebuilds that entry, too. -/
theorem rebuildsEndpoint_of_account (hsame : SameRevisions db db₁)
    (hactive : ∃ e ∈ db₁.endpoints, e.id = endpointID ∧ e.status ≠ .retired) (hnodup : accountIDs.Nodup)
    (haccount : accountID ∈ accountIDs) (hcredential : db.hasCredential accountID endpointID)
    (h : markMeridianQuotaBoundaryChanged rest db₁ accountIDs = .ok db') :
    RebuildsEndpoint endpointID db db' := by
  obtain ⟨hendpoints, -⟩ := markMeridianQuotaBoundaryChanged_ok hnodup h
  obtain ⟨e₂, he₂, hid₂, hstatus⟩ := hactive
  have hmem : endpointID ∈ affectedEndpoints db₁ accountIDs := by
    rw [← hid₂]
    refine mem_affectedEndpoints he₂ hstatus haccount ?_
    rwa [hasCredential_congr hsame.credentials, hid₂]
  rw [RebuildsEndpoint, hendpoints]
  refine hsame.endpoints.forall₂_update ?_
  intro e e₁ _ hkeeps hid
  have hid₁ : e₁.id = endpointID := hkeeps.elim (fun h => h ▸ hid) fun h => h.1.trans hid
  rw [if_pos (List.contains_iff_mem.2 (hid₁ ▸ hmem))]
  exact Endpoint.Keeps.rebuilt hkeeps

end Marking

/-! ## Quotas before and after -/

/-- The projected `Enabled` of an account at a reading of the clock. -/
def projectedEnabled (rt : Runtime β π ρ) (now : Int) (db : Database β) (a : Account) : Option Bool :=
  (meridianAccountUsageInTx db a.id).toOption.bind (rt.projectQuota (a.plan now))

/-- The cap of an entry is not reached. -/
def capEnabled (db : Database β) (endpointID : String) : Option Bool :=
  (db.endpoints.find? (·.id == endpointID)).map Endpoint.quotaEnabled

section Quotas

variable {rt : Runtime β π ρ} {clock : String → Int} {db mid : Database β} {endpointID : String}
  {states after : List (String × Bool)}

/-- The state that is read for an account. -/
theorem quotaState_ok {a : Account} {state : String × Bool} :
    (do let usage ← meridianAccountUsageInTx db a.id
        let enabled ← fetch (rt.projectQuota (a.plan (clock a.id)) usage)
          "center: stored Glivela quota is invalid"
        return (a.id, enabled)) = Except.ok state ↔
      state.1 = a.id ∧ projectedEnabled rt (clock a.id) db a = some state.2 := by
  simp only [bind_eq_ok_iff, fetch_eq_ok_iff, pure_eq_ok_iff, projectedEnabled]
  constructor
  · rintro ⟨usage, husage, enabled, henabled, rfl⟩
    exact ⟨rfl, by rw [husage]; exact henabled⟩
  · rintro ⟨hid, hprojected⟩
    cases husage : meridianAccountUsageInTx db a.id with
    | error err => simp [husage, Except.toOption] at hprojected
    | ok usage =>
        rw [husage] at hprojected
        exact ⟨usage, rfl, state.2, hprojected, Prod.ext hid.symm rfl⟩

theorem exists_quotaState (h : meridianQuotaStatesInTx rt clock db endpointID = .ok states)
    {a : Account} (ha : a ∈ db.accounts) (hcredential : db.hasCredential a.id endpointID) :
    ∃ enabled, (a.id, enabled) ∈ states ∧ projectedEnabled rt (clock a.id) db a = some enabled := by
  have hmem : a ∈ (db.accounts.filter fun a => db.hasCredential a.id endpointID).insertionSort
      (·.id ≤ ·.id) := (List.mem_insertionSort _).2 (List.mem_filter.2 ⟨ha, hcredential⟩)
  obtain ⟨state, hstate, hok⟩ := exists_of_mapM_ok h hmem
  obtain ⟨hid, hprojected⟩ := quotaState_ok.1 hok
  exact ⟨state.2, hid ▸ hstate, hprojected⟩

theorem mem_quotaStates (h : meridianQuotaStatesInTx rt clock db endpointID = .ok states)
    {state : String × Bool} (hstate : state ∈ states) :
    ∃ a ∈ db.accounts, db.hasCredential a.id endpointID ∧ state.1 = a.id ∧
      projectedEnabled rt (clock a.id) db a = some state.2 := by
  obtain ⟨a, ha, hok⟩ := mem_of_mapM_ok h hstate
  obtain ⟨hid, hprojected⟩ := quotaState_ok.1 hok
  obtain ⟨hmem, hcredential⟩ := List.mem_filter.1 ((List.mem_insertionSort _).1 ha)
  exact ⟨a, hmem, hcredential, hid, hprojected⟩

theorem nodup_quotaStates (hkeys : (db.accounts.map Account.id).Nodup)
    (h : meridianQuotaStatesInTx rt clock db endpointID = .ok states) :
    (states.map Prod.fst).Nodup := by
  rw [map_of_mapM_ok h fun a state hok => (quotaState_ok.1 hok).1]
  refine ((List.perm_insertionSort _ _).map Account.id).nodup_iff.2 ?_
  exact hkeys.sublist (List.filter_sublist.map _)

theorem meridianEndpointQuotaEnabledInTx_ok {enabled : Bool}
    (h : meridianEndpointQuotaEnabledInTx db endpointID = .ok enabled) :
    capEnabled db endpointID = some enabled := by
  simp only [meridianEndpointQuotaEnabledInTx, bind_eq_ok_iff, fetch_eq_ok_iff, require_eq_ok_iff,
    exists_const, pure_eq_ok_iff] at h
  obtain ⟨e, hfind, -, rfl⟩ := h
  rw [capEnabled, hfind, Option.map_some]

/-- The quotas that the counters of a report have crossed, all of them. -/
structure Crosses (rt : Runtime β π ρ) (before after : String → Int) (endpointID : String)
    (db mid : Database β) (crossing : Crossing) : Prop where
  nodup : crossing.accounts.Nodup
  credential : ∀ id ∈ crossing.accounts, db.hasCredential id endpointID
  accounts : ∀ a ∈ db.accounts, db.hasCredential a.id endpointID →
    projectedEnabled rt (before a.id) db a ≠ projectedEnabled rt (after a.id) mid a →
      a.id ∈ crossing.accounts
  endpoint : capEnabled db endpointID ≠ capEnabled mid endpointID → crossing.endpoint = true

theorem observeCounters_crosses {before after : String → Int} {quotas : List (String × Bool) × Bool}
    {snapshots : List CounterSnapshot} {crossing : Crossing}
    (hkeys : (db.accounts.map Account.id).Nodup)
    (hbefore : quotasBefore rt before endpointID db = .ok quotas)
    (h : observeCounters rt after endpointID quotas snapshots db = .ok (mid, crossing)) :
    observeMeridianUsageInTx endpointID snapshots db = .ok mid ∧
      Crosses rt before after endpointID db mid crossing := by
  simp only [quotasBefore, bind_eq_ok_iff, pure_eq_ok_iff] at hbefore
  obtain ⟨states, hstates, cap, hcap, rfl⟩ := hbefore
  simp only [observeCounters, bind_eq_ok_iff, pure_eq_ok_iff, Prod.mk.injEq] at h
  obtain ⟨_, hobserve, cap', hcap', states', hstates', rfl, rfl⟩ := h
  obtain ⟨-, haccounts⟩ := observeMeridianUsageInTx_frame hobserve
  have hsublist : (changedAccounts states states').Sublist (states.map Prod.fst) :=
    List.filter_sublist.map _
  refine ⟨hobserve, (nodup_quotaStates hkeys hstates).sublist hsublist, ?_, ?_, ?_⟩
  · intro id hid
    obtain ⟨state, hstate, rfl⟩ := List.mem_map.1 (hsublist.subset hid)
    obtain ⟨a, -, hcredential, heq, -⟩ := mem_quotaStates hstates hstate
    rwa [heq]
  · intro a ha hcredential hne
    obtain ⟨enabled, hmem, hprojected⟩ := exists_quotaState hstates ha hcredential
    refine List.mem_map.2 ⟨(a.id, enabled), List.mem_filter.2 ⟨hmem, ?_⟩, rfl⟩
    rw [bne_iff_ne]
    intro hlookup
    -- The same state afterwards would be the state of the same account.
    obtain ⟨before', after', hsplit, -⟩ := List.lookup_eq_some_iff.1 hlookup
    have hmem' : (a.id, enabled) ∈ states' := by
      rw [hsplit]
      simp
    obtain ⟨a', ha', -, hid, hprojected'⟩ := mem_quotaStates hstates' hmem'
    rw [haccounts] at ha'
    obtain rfl := Table.eq_of_key hkeys ha ha' hid
    exact hne (hprojected.trans hprojected'.symm)
  · intro hne
    rw [meridianEndpointQuotaEnabledInTx_ok hcap, meridianEndpointQuotaEnabledInTx_ok hcap'] at hne
    exact bne_iff_ne.2 fun heq => hne (congrArg some heq)

end Quotas

/-! ## Reports -/

/-- A crossed quota is scheduled: `mid` is the state in which the counters are observed. -/
structure Scheduled (rt : Runtime β π ρ) (before after : String → Int) (endpointID : String)
    (db mid db' : Database β) : Prop where
  account : ∀ a ∈ db.accounts, db.hasCredential a.id endpointID →
    projectedEnabled rt (before a.id) db a ≠ projectedEnabled rt (after a.id) mid a →
      RebuildsAccount a.id db db'
  endpoint : capEnabled db endpointID ≠ capEnabled mid endpointID → RebuildsEndpoint endpointID db db'

section Reports

variable {rt : Runtime β π ρ} {before after : String → Int} {db mid db₁ db' : Database β}
  {agentID endpointID : String} {crossing : Crossing} {result : ρ} {now : Instant}

theorem scheduled_of_markCrossing (hcross : Crosses rt before after endpointID db mid crossing)
    (hsame : SameRevisions db db₁) (hkeys : (db.endpoints.map Endpoint.id).Nodup)
    (hactive : ∃ e ∈ db₁.endpoints, e.id = endpointID ∧ e.status ≠ .retired)
    (h : markCrossing rt endpointID db₁ crossing = .ok db') :
    Scheduled rt before after endpointID db mid db' := by
  unfold markCrossing at h
  cases haccounts : crossing.accounts with
  | nil =>
      simp only [haccounts, List.isEmpty_nil, Bool.not_true, Bool.false_eq_true, if_false] at h
      refine ⟨?_, ?_⟩
      · intro a ha hcredential hne
        have := hcross.accounts a ha hcredential hne
        rw [haccounts] at this
        cases this
      · intro hne
        rw [if_pos (hcross.endpoint hne)] at h
        exact rebuildsEndpoint_of_mark hsame hkeys h
  | cons first accounts =>
      rw [if_pos (by rw [haccounts]; rfl)] at h
      have hfirst : first ∈ crossing.accounts := by
        rw [haccounts]
        exact List.mem_cons_self
      refine ⟨?_, fun _ => ?_⟩
      · intro a ha hcredential hne
        exact rebuildsAccount_of_mark hsame hcross.nodup (hcross.accounts a ha hcredential hne) h
      · exact rebuildsEndpoint_of_account hsame hactive hcross.nodup hfirst
          (hcross.credential first hfirst) h

/-- An entry in use is still there when its revision is the same. -/
theorem SameRevisions.active (hsame : SameRevisions db db₁)
    (h : ∃ e ∈ db.endpoints, e.id = endpointID ∧ e.status ≠ .retired) :
    ∃ e ∈ db₁.endpoints, e.id = endpointID ∧ e.status ≠ .retired := by
  obtain ⟨e, he, hid, hstatus⟩ := h
  obtain ⟨e₁, he₁, rfl | hkeeps⟩ := hsame.endpoints.forward he
  · exact ⟨e₁, he₁, hid, hstatus⟩
  · exact ⟨e₁, he₁, hkeeps.1.trans hid, hkeeps.2.2 hstatus⟩

theorem observedEndpoint_active {e : Endpoint} (h : observedEndpoint rt agentID db = .ok (some e)) :
    e ∈ db.endpoints ∧ e.status ≠ .retired := by
  unfold observedEndpoint at h
  split at h
  · cases h
  · simp only [bind_eq_ok_iff, fetch_eq_ok_iff, pure_eq_ok_iff] at h
    obtain ⟨e', hfind, hchoice⟩ := h
    split at hchoice
    · cases hchoice
    · obtain rfl := Option.some.inj hchoice
      refine ⟨List.mem_of_find?_eq_some hfind, ?_⟩
      have hguard := List.find?_some hfind
      simp only [Bool.and_eq_true, bne_iff_ne] at hguard
      exact hguard.2

theorem recordMeridianRuntimeObservation_scheduled {e : Endpoint}
    (haccounts : (db.accounts.map Account.id).Nodup) (hendpoints : (db.endpoints.map Endpoint.id).Nodup)
    (hobserved : observedEndpoint rt agentID db = .ok (some e))
    (h : recordMeridianRuntimeObservation rt agentID result now before after db = .ok db') :
    ∃ projection snapshots mid, rt.buildMeridianRuntimeTask db e.id agentID = .ok projection ∧
      rt.parseXrayUserCounters projection result = some snapshots ∧
        observeMeridianUsageInTx e.id snapshots db = .ok mid ∧
          Scheduled rt before after e.id db mid db' := by
  rw [recordMeridianRuntimeObservation, hobserved] at h
  change observeEndpoint rt agentID result now before after e.id db = .ok db' at h
  simp only [observeEndpoint, bind_eq_ok_iff, fetch_eq_ok_iff, require_eq_ok_iff, exists_const] at h
  obtain ⟨projection, hbuild, -, -, quotas, hquotas, snapshots, hparse, ⟨mid, crossing⟩, hcounters, h⟩ := h
  obtain ⟨hobserve, hcross⟩ := observeCounters_crosses haccounts hquotas hcounters
  refine ⟨projection, snapshots, mid, toOption_eq_some_iff.1 hbuild, hparse, hobserve, ?_⟩
  obtain ⟨hsame, -⟩ := observeMeridianUsageInTx_frame hobserve
  obtain ⟨hmem, hstatus⟩ := observedEndpoint_active hobserved
  split at h
  · -- Nothing was crossed.
    rename_i hnone
    rw [Bool.and_eq_true, List.isEmpty_iff, Bool.not_eq_true'] at hnone
    refine ⟨fun a ha hcredential hne => ?_, fun hne => ?_⟩
    · have hin := hcross.accounts a ha hcredential hne
      rw [hnone.1] at hin
      cases hin
    · rw [hcross.endpoint hne] at hnone
      exact absurd hnone.2 (by decide)
  · exact scheduled_of_markCrossing hcross hsame hendpoints
      (hsame.active ⟨e, hmem, rfl, hstatus⟩) h

/-- The marks of a completed command are made after its revision counts as applied. -/
theorem applyMeridianRuntimeCommand_scheduled {taskID : String} {projection : π} {quotaEnabled : Bool}
    (hendpoints : (db.endpoints.map Endpoint.id).Nodup) (hsame : SameRevisions db mid)
    (hcross : Crosses rt before after endpointID db mid crossing)
    (h : applyMeridianRuntimeCommand rt taskID agentID endpointID projection result quotaEnabled now
      crossing mid = .ok (db', .succeeded)) : Scheduled rt before after endpointID db mid db' := by
  simp only [applyMeridianRuntimeCommand, bind_eq_ok_iff, pure_eq_ok_iff] at h
  obtain ⟨other, -, db₁, hproject, other₁, -, other₂, -, db₂, hmark, other₃, -, hdb⟩ := h
  obtain ⟨hverified, hactive⟩ := projectVerifiedMeridianRuntime_frame hproject
  have hmid : SameRevisions mid { mid with other } :=
    ⟨rfl, Table.rewrites_refl _, Table.rewrites_refl _⟩
  have hnext : SameRevisions db₁ { db₁ with other := other₂ } :=
    ⟨rfl, Table.rewrites_refl _, Table.rewrites_refl _⟩
  have hscheduled : Scheduled rt before after endpointID db mid db₂ :=
    scheduled_of_markCrossing hcross (((hsame.trans hmid).trans hverified).trans hnext) hendpoints
      hactive hmark
  obtain ⟨rfl, -⟩ := Prod.mk.inj hdb
  exact ⟨fun a ha hcredential hne =>
    ⟨(hscheduled.account a ha hcredential hne).endpoints, (hscheduled.account a ha hcredential hne).grants⟩,
    hscheduled.endpoint⟩

theorem completeMeridianRuntimeCommand_scheduled {taskID : String} {outcome : Except String ρ}
    {superseded : Bool} {e : Endpoint}
    (haccounts : (db.accounts.map Account.id).Nodup) (hendpoints : (db.endpoints.map Endpoint.id).Nodup)
    (hfind : db.endpoints.find? (·.id == endpointID) = some e)
    (hcurrent : rt.deployment db.other endpointID taskID = some e.desiredRevision)
    (h : completeMeridianRuntimeCommand rt taskID agentID endpointID outcome superseded now before after
      db = .ok (db', .succeeded)) :
    ∃ result projection snapshots mid, outcome = .ok result ∧
      rt.buildMeridianRuntimeTask db endpointID agentID = .ok projection ∧
        rt.parseXrayUserCounters projection result = some snapshots ∧
          observeMeridianUsageInTx endpointID snapshots db = .ok mid ∧
            Scheduled rt before after endpointID db mid db' := by
  simp only [completeMeridianRuntimeCommand, bind_eq_ok_iff, require_eq_ok_iff, exists_const, hfind,
    hcurrent, fetch_eq_ok_iff, Option.some.injEq] at h
  obtain ⟨-, _, rfl, _, rfl, h⟩ := h
  rw [if_pos rfl] at h
  -- A command that failed is reported as such.
  have hfailed : ∀ {taskID : String} {retirement : Bool},
      failMeridianRuntimeCommand rt endpointID taskID retirement db ≠ .ok (db', .succeeded) := by
    intro taskID retirement hfail
    simp only [failMeridianRuntimeCommand, bind_eq_ok_iff, pure_eq_ok_iff, Prod.mk.injEq] at hfail
    obtain ⟨-, -, -, hstate⟩ := hfail
    cases hstate
  unfold completeCurrentMeridianRuntimeCommand at h
  split at h
  · exact absurd h hfailed
  · rename_i projection result hreceipt
    obtain ⟨quotas, hquotas, h⟩ := bind_eq_ok_iff.1 h
    split at h
    · exact absurd h hfailed
    · rename_i snapshots hparse
      obtain ⟨⟨mid, crossing⟩, hcounters, h⟩ := bind_eq_ok_iff.1 h
      obtain ⟨hobserve, hcross⟩ := observeCounters_crosses haccounts hquotas hcounters
      simp only [verifiedReceipt, bind_eq_ok_iff, pure_eq_ok_iff, Prod.mk.injEq] at hreceipt
      obtain ⟨_, houtcome, _, hbuild, -, -, rfl, rfl⟩ := hreceipt
      exact ⟨_, _, snapshots, mid, houtcome, hbuild, hparse, hobserve,
        applyMeridianRuntimeCommand_scheduled hendpoints (observeMeridianUsageInTx_frame hobserve).1 hcross
          h⟩

end Reports

/-- A report that is accepted, with a heartbeat for the applied revision of an entry or as the result of
the command for its current revision, rebuilds what its counters have sent over a quota or back. -/
theorem quota_crossing_schedules_rebuild (rt : Runtime β π ρ) (now : Instant)
    (before after : String → Int) (db db' : Database β)
    (haccounts : (db.accounts.map Account.id).Nodup)
    (hendpoints : (db.endpoints.map Endpoint.id).Nodup) :
    (∀ agentID result e, observedEndpoint rt agentID db = .ok (some e) →
      recordMeridianRuntimeObservation rt agentID result now before after db = .ok db' →
        ∃ projection snapshots mid, rt.buildMeridianRuntimeTask db e.id agentID = .ok projection ∧
          rt.parseXrayUserCounters projection result = some snapshots ∧
            observeMeridianUsageInTx e.id snapshots db = .ok mid ∧
              Scheduled rt before after e.id db mid db') ∧
      ∀ taskID agentID endpointID outcome superseded e,
        db.endpoints.find? (·.id == endpointID) = some e →
        rt.deployment db.other endpointID taskID = some e.desiredRevision →
        completeMeridianRuntimeCommand rt taskID agentID endpointID outcome superseded now before after
          db = .ok (db', .succeeded) →
          ∃ result projection snapshots mid, outcome = .ok result ∧
            rt.buildMeridianRuntimeTask db endpointID agentID = .ok projection ∧
              rt.parseXrayUserCounters projection result = some snapshots ∧
                observeMeridianUsageInTx endpointID snapshots db = .ok mid ∧
                  Scheduled rt before after endpointID db mid db' := by
  refine ⟨?_, ?_⟩
  · intro agentID result e hobserved h
    exact recordMeridianRuntimeObservation_scheduled haccounts hendpoints hobserved h
  · intro taskID agentID endpointID outcome superseded e hfind hcurrent h
    exact completeMeridianRuntimeCommand_scheduled haccounts hendpoints hfind hcurrent h

namespace BoundaryTrial

/-- The report is the list of its counters, and the projection its revision. -/
def runtime : Runtime Unit Int (List CounterSnapshot) where
  ensureSnapshots _ _ := .ok ()
  timezone _ _ := some "UTC"
  resetBoundary _ _ _ := none
  julianday _ := none
  pilotOwns _ _ := false
  maxResetDays := 3650
  projectQuota plan usage :=
    some (plan.enabled && (usage.map fun m => m.observed - m.baseline).sum < plan.totalBytes)
  parseXrayUserCounters _ counters := some counters
  buildMeridianRuntimeTask _ _ _ := .ok 1
  revision revision := revision
  retireLegacy _ := false
  legacyRetired _ := true
  validate _ _ := true
  peerHealth _ _ _ := true
  verifyReceipt _ _ _ := .ok ()
  readyRoutes _ _ _ := .ok []
  blockedRoutes _ := []
  applicationNode _ application := if application = "entry" then some "node" else none
  running _ _ := true
  deployment _ _ _ := some 1
  deploymentValid _ _ _ := true
  recordRouteHealthDiagnostics _ _ := .ok ()
  storeEvidence _ _ _ := .ok ()
  applyDeployment _ _ _ _ := .ok ()
  reconcileApplicationPublications _ _ := .ok ()
  finishCommand _ _ _ := .ok ()
  reconcileClientLandingSourcesForNode _ _ := .ok ()
  reconcileMeridianCutoverInTx _ := .ok ()

/-- An account on two entries, with half of its traffic used on the first one. -/
def tables : Database Unit where
  credentials := [⟨"c", "a", "e", true⟩, ⟨"d", "a", "f", true⟩]
  endpoints := [⟨"e", "entry", "", 0, 500, true, 0, "", "", 1, 1, true, true, .ready⟩,
    ⟨"f", "other", "", 0, 0, true, 0, "", "", 7, 7, true, true, .ready⟩]
  accounts := [⟨"a", 1000, 0, 0, "", "", true, 1, 1, .active⟩]
  grants := [⟨"g", "a", "f", "egress", none, true, 2, 2, true, 0, .ready⟩]
  watermarks := [⟨"c", 0, 500, 10, 490⟩, ⟨"d", 0, 0, 0, 0⟩]
  lineUsage := [⟨"c", 10, 490⟩, ⟨"d", 0, 0⟩]
  other := ()

/-- The account has used all of its traffic. -/
def counters : List CounterSnapshot := [⟨"c", 10, 1000⟩]

def clock : String → Int := fun _ => 0

def now : Instant := ⟨0, 0, Nat.pow_pos (Nat.succ_pos 9)⟩

/-- The observed counters exhaust the account. -/
theorem crossed {mid db' : Database Unit}
    (hobserve : observeMeridianUsageInTx "e" counters tables = .ok mid)
    (h : Scheduled runtime clock clock "e" tables mid db') : RebuildsAccount "a" tables db' := by
  have hne : (observeMeridianUsageInTx "e" counters tables).toOption.all fun mid =>
      tables.accounts.all fun a => projectedEnabled runtime 0 tables a != projectedEnabled runtime 0 mid a := by
    decide +kernel
  rw [hobserve] at hne
  have ha : (⟨"a", 1000, 0, 0, "", "", true, 1, 1, .active⟩ : Account) ∈ tables.accounts :=
    List.mem_singleton.2 rfl
  exact h.account _ ha (by decide +kernel) (bne_iff_ne.1 (List.all_eq_true.1 hne _ ha))

/-- The heartbeat is for the first entry. -/
theorem observed : ∃ e, observedEndpoint runtime "node" tables = .ok (some e) ∧ e.id = "e" :=
  ⟨_, rfl, rfl⟩

end BoundaryTrial

/-- The heartbeat and the result of a command: both rebuild the entries of an exhausted account. -/
theorem quota_crossing_schedules_rebuild_exhausted :
    (∃ db', recordMeridianRuntimeObservation BoundaryTrial.runtime "node" BoundaryTrial.counters
        BoundaryTrial.now BoundaryTrial.clock BoundaryTrial.clock BoundaryTrial.tables = .ok db' ∧
      RebuildsAccount "a" BoundaryTrial.tables db') ∧
    ∃ db', completeMeridianRuntimeCommand BoundaryTrial.runtime "task" "node" "e"
        (.ok BoundaryTrial.counters) false BoundaryTrial.now BoundaryTrial.clock BoundaryTrial.clock
        BoundaryTrial.tables = .ok (db', .succeeded) ∧
      RebuildsAccount "a" BoundaryTrial.tables db' := by
  have haccounts : (BoundaryTrial.tables.accounts.map Account.id).Nodup := List.nodup_singleton _
  have hendpoints : (BoundaryTrial.tables.endpoints.map Endpoint.id).Nodup := by decide
  constructor
  · have hok : (recordMeridianRuntimeObservation BoundaryTrial.runtime "node" BoundaryTrial.counters
        BoundaryTrial.now BoundaryTrial.clock BoundaryTrial.clock BoundaryTrial.tables).toOption.any fun _ => true := by
      decide +kernel
    obtain ⟨db', h, -⟩ := any_toOption_iff.1 hok
    obtain ⟨e, hobserved, hid⟩ := BoundaryTrial.observed
    obtain ⟨_, _, mid, -, hparse, hobserve, hscheduled⟩ := (quota_crossing_schedules_rebuild
      BoundaryTrial.runtime BoundaryTrial.now BoundaryTrial.clock BoundaryTrial.clock
      BoundaryTrial.tables db' haccounts hendpoints).1 "node" BoundaryTrial.counters e hobserved h
    obtain rfl := Option.some.inj hparse
    rw [hid] at hobserve hscheduled
    exact ⟨db', h, BoundaryTrial.crossed hobserve hscheduled⟩
  · have hok : (completeMeridianRuntimeCommand BoundaryTrial.runtime "task" "node" "e"
        (.ok BoundaryTrial.counters) false BoundaryTrial.now BoundaryTrial.clock BoundaryTrial.clock
        BoundaryTrial.tables).toOption.any fun r => r.2 == .succeeded := by
      decide +kernel
    obtain ⟨⟨db', state⟩, h, hstate⟩ := any_toOption_iff.1 hok
    obtain rfl : state = .succeeded := beq_iff_eq.1 hstate
    obtain ⟨_, _, _, mid, houtcome, -, hparse, hobserve, hscheduled⟩ := (quota_crossing_schedules_rebuild
      BoundaryTrial.runtime BoundaryTrial.now BoundaryTrial.clock BoundaryTrial.clock
      BoundaryTrial.tables db' haccounts hendpoints).2 "task" "node" "e" (.ok BoundaryTrial.counters)
      false _ rfl rfl h
    obtain rfl := Except.ok.inj houtcome
    obtain rfl := Option.some.inj hparse
    exact ⟨db', h, BoundaryTrial.crossed hobserve hscheduled⟩

end Meridian
end Center
end Vastora
