import Vastora.Center.Meridian.PilotOwner

/-!
# PilotRun — a staged entry has one writer

Polls, heartbeats, results of commands and resets in any order, each of which commits or changes nothing.  The
polls that were committed are kept in a journal beside the tables.  Two results are about every such run:

* `staged_entry_has_one_writer` — the checkpoint, the watermarks and the quota of a staged entry agree, and its
  credentials have used what they had and, for each process of its worker, the last counter of a committed receipt;
* `staged_egress_served_by_last_poll` — a fixed egress of the entry is served only if the last committed poll of the
  entry found it ready.
-/

namespace Vastora
namespace Center
namespace Meridian

open Library Library.Guard
open MeridianRuntime (PilotCounters PilotQuota PilotReceipt Accounted Delivery ids counterOf isZero)

/-! ## Transactions -/

/-- The transactions on the tables of the entries. -/
inductive EntryOp (ρ : Type) where
  | poll (agentID : String) (now : Int) (source : PilotCounters → Option PilotSample)
  | heartbeat (agentID : String) (result : ρ) (now : Instant) (before after : String → Int)
  | command (taskID agentID endpointID : String) (outcome : Except String ρ) (superseded : Bool) (now : Instant)
      (before after : String → Int)
  | resetAccounts (now : Instant)
  | resetEndpoints (now : Instant)

/-- A committed poll of a staged entry, with the checkpoint it has found. -/
structure Poll where
  endpointID : String
  checkpoint : PilotCounters
  now : Int
  sample : Option PilotSample

/-- The tables and the polls that were committed, the newest first. -/
structure Journal (β : Type) where
  db : Database (Staged β)
  polls : List Poll

section Steps

variable {β π ρ : Type} (pr : PilotRuntime β π ρ)

def EntryOp.commit (db : Database (Staged β)) : EntryOp ρ → Except String (Database (Staged β))
  | .poll agentID now source => observeGlivelaPilotInTx pr agentID now source db
  | .heartbeat agentID result now before after =>
      recordMeridianRuntimeObservation pr.toRuntime agentID result now before after db
  | .command taskID agentID endpointID outcome superseded now before after => do
      let (db, _) ← completeMeridianRuntimeCommand pr.toRuntime taskID agentID endpointID outcome superseded now before
        after db
      return db
  | .resetAccounts now => resetDueMeridianAccounts pr.toRest now db
  | .resetEndpoints now => resetDueMeridianEndpoints pr.toRest now db

/-- The entry that a poll is of. -/
def EntryOp.polled (db : Database (Staged β)) : EntryOp ρ → Option Poll
  | .poll agentID now source => do
      let row ← db.pilotOf pr agentID
      let checkpoint ← row.checkpoint
      return ⟨row.endpointID, checkpoint, now, source checkpoint⟩
  | _ => none

def Journal.step (op : EntryOp ρ) (j : Journal β) : Except String (Journal β) := do
  let db ← op.commit pr j.db
  return ⟨db, (op.polled pr j.db).toList ++ j.polls⟩

end Steps

/-- The receipt of a poll, if it is of an entry. -/
def Poll.delivery (entryID : String) (p : Poll) : Option Delivery :=
  p.sample.bind fun sample => if sample.receipt.entryID = entryID then some (sample.receipt, p.now) else none

/-- The receipts of an entry that were recorded. -/
def Journal.deliveries {β : Type} (j : Journal β) (entryID : String) : List Delivery :=
  j.polls.filterMap (Poll.delivery entryID)

/-! ## The staged entry -/

/-- The constraints of the tables, and the staged entry among the entries. -/
structure Constrained {β : Type} (id entryID : String) (db : Database (Staged β)) : Prop where
  credentials : (db.credentials.map Credential.id).Nodup
  endpoints : (db.endpoints.map Endpoint.id).Nodup
  applications : (db.endpoints.map Endpoint.applicationID).Nodup
  checkpoints : (db.other.checkpoints.map CheckpointRow.endpointID).Nodup
  entry : ∃ e ∈ db.endpoints, e.id = id ∧ e.applicationID = entryID

/-- The checkpoint of an entry, the watermarks of its credentials and its quota say the same. -/
structure Agrees {β : Type} (id : String) (c : PilotCounters) (db : Database (Staged β)) : Prop where
  stored : ⟨id, some c⟩ ∈ db.other.checkpoints
  marks : ∀ k ∈ ids c.totals, ∃ w, db.watermark k = some w ∧
    w.rawUpBytes = (counterOf c.totals k).upBytes.toInt ∧ w.rawDownBytes = (counterOf c.totals k).downBytes.toInt
  quota : ∀ q, c.quota = some q → ∃ e ∈ db.endpoints, e.id = id ∧ e.totalBytes = q.totalBytes.toInt ∧
    e.usedBytes = q.usedBytes.toInt ∧ e.resetDay = q.resetDay

/-- An entry that was handed over: its checkpoint has seen no receipt, and its credentials are its own. -/
structure Handover {β : Type} (id : String) (c₀ : PilotCounters) (db₀ : Database (Staged β)) : Prop
    extends Constrained id c₀.entryID db₀, Agrees id c₀ db₀ where
  first : isZero c₀.startedAt = true
  owned : ∀ k ∈ ids c₀.totals, ∃ c ∈ db₀.credentials, c.id = k ∧ c.endpointID = id
  observed : ∀ k ∈ ids c₀.totals, 0 ≤ db₀.observed k ∧ db₀.observed k ≤ maxInt64

section Keeping

variable {β : Type} {id entryID : String} {db db' : Database (Staged β)} {c : PilotCounters}

/-- The rows have the names they had. -/
structure SameNames (db db' : Database (Staged β)) : Prop where
  credentials : db'.credentials = db.credentials
  endpoints : db'.endpoints.map (fun e => (e.id, e.applicationID)) = db.endpoints.map fun e => (e.id, e.applicationID)
  checkpoints : db'.other.checkpoints.map CheckpointRow.endpointID = db.other.checkpoints.map CheckpointRow.endpointID

theorem SameNames.constrained (h : SameNames db db') (hdb : Constrained id entryID db) : Constrained id entryID db' := by
  have hids : db'.endpoints.map Endpoint.id = db.endpoints.map Endpoint.id := by
    have hmap := congrArg (List.map Prod.fst) h.endpoints
    rwa [List.map_map, List.map_map] at hmap
  have happs : db'.endpoints.map Endpoint.applicationID = db.endpoints.map Endpoint.applicationID := by
    have hmap := congrArg (List.map Prod.snd) h.endpoints
    rwa [List.map_map, List.map_map] at hmap
  refine ⟨h.credentials ▸ hdb.credentials, hids ▸ hdb.endpoints, happs ▸ hdb.applications,
    h.checkpoints ▸ hdb.checkpoints, ?_⟩
  obtain ⟨e, he, hid, happ⟩ := hdb.entry
  have hmem : (id, entryID) ∈ db'.endpoints.map fun e => (e.id, e.applicationID) := by
    rw [h.endpoints]
    exact List.mem_map.2 ⟨e, he, by rw [hid, happ]⟩
  obtain ⟨e', he', heq⟩ := List.mem_map.1 hmem
  exact ⟨e', he', (Prod.mk.inj heq).1, (Prod.mk.inj heq).2⟩

theorem KeepsLedger.sameNames (h : KeepsLedger id db db') : SameNames db db' where
  credentials := h.credentials
  endpoints := by
    have hmap := congrArg (List.map fun t : String × String × Option (Int × Int × Int) => (t.1, t.2.1)) h.entries
    rwa [List.map_map, List.map_map] at hmap
  checkpoints := h.keys

theorem KeepsLedger.agrees (h : KeepsLedger id db db') (howned : ∀ k ∈ ids c.totals, ∃ x ∈ db.credentials,
    x.id = k ∧ x.endpointID = id) (hdb : Agrees id c db) : Agrees id c db' where
  stored := (h.checkpoint _ rfl).2 hdb.stored
  marks k hk := by
    obtain ⟨x, hx, rfl, hid⟩ := howned k hk
    obtain ⟨w, hw, hup, hdown⟩ := hdb.marks x.id hk
    have hrow := h.rows x hx hid
    rw [hw, Option.map_some, Option.map_eq_some_iff] at hrow
    obtain ⟨w', hw', hcounted⟩ := hrow
    simp only [Watermark.counted, Prod.mk.injEq] at hcounted
    exact ⟨w', hw', hcounted.2.1.trans hup, hcounted.2.2.trans hdown⟩
  quota q hq := by
    obtain ⟨e, he, hid, htotal, hused, hreset⟩ := hdb.quota q hq
    have hmem : e.staged id ∈ db'.endpoints.map (Endpoint.staged id) := by
      rw [h.entries]
      exact List.mem_map_of_mem he
    obtain ⟨e', he', heq⟩ := List.mem_map.1 hmem
    simp only [Endpoint.staged, Prod.mk.injEq] at heq
    have hid' : e'.id = id := heq.1.trans hid
    obtain ⟨htotal', hused', hreset'⟩ : e'.totalBytes = e.totalBytes ∧ e'.usedBytes = e.usedBytes ∧
        e'.resetDay = e.resetDay := by
      have hquota := heq.2.2
      rw [if_pos hid', if_pos hid, Option.some.injEq, Prod.mk.injEq, Prod.mk.injEq] at hquota
      exact hquota
    exact ⟨e', he', hid', htotal'.trans htotal, hused'.trans hused, hreset'.trans hreset⟩

theorem observed_of_watermark {k : String} {w : Watermark} (h : db.watermark k = some w) :
    db.observed k = w.observedBytes := by
  rw [Database.observed, Database.row, h, Option.getD_some]

theorem KeepsLedger.observed (h : KeepsLedger id db db') {k : String}
    (howned : ∃ x ∈ db.credentials, x.id = k ∧ x.endpointID = id) : db'.observed k = db.observed k := by
  obtain ⟨x, hx, rfl, hid⟩ := howned
  have hrow := h.rows x hx hid
  cases hw : db.watermark x.id with
  | none =>
      rw [hw, Option.map_none, Option.map_eq_none_iff] at hrow
      rw [Database.observed, Database.row, hrow, Database.observed, Database.row, hw]
  | some w =>
      rw [hw, Option.map_some, Option.map_eq_some_iff] at hrow
      obtain ⟨w', hw', hcounted⟩ := hrow
      rw [observed_of_watermark hw', observed_of_watermark hw]
      exact (Prod.mk.inj hcounted).1

end Keeping

/-! ## Polls -/

section Polls

variable {β π ρ : Type} {pr : PilotRuntime β π ρ} {id entryID endpointID : String} {receipt : PilotReceipt} {now : Int}
  {db db' : Database (Staged β)} {previous next checkpoint : PilotCounters} {sample : PilotSample}

/-- What a committed poll has done. -/
theorem poll_ok {agentID : String} {source : PilotCounters → Option PilotSample}
    (h : observeGlivelaPilotInTx pr agentID now source db = .ok db') :
    ((EntryOp.poll agentID now source : EntryOp ρ).polled pr db = none ∧ db' = db) ∨
      ∃ endpointID checkpoint, (EntryOp.poll agentID now source : EntryOp ρ).polled pr db =
          some ⟨endpointID, checkpoint, now, source checkpoint⟩ ∧
        ((source checkpoint = none ∧ db' = db.awaitReceipt endpointID) ∨
          ∃ sample db₁, source checkpoint = some sample ∧
            recordGlivelaPilotReceiptInTx pr sample.receipt now db = .ok db₁ ∧
            recordGlivelaPilotHealthInTx endpointID checkpoint sample db₁ = .ok db') := by
  unfold observeGlivelaPilotInTx at h
  split at h
  · rename_i hnone
    refine Or.inl ⟨?_, (Except.ok.inj h).symm⟩
    rw [EntryOp.polled, hnone]
    rfl
  · rename_i row hrow
    rw [fetch_bind_eq_ok_iff] at h
    obtain ⟨checkpoint, hcheckpoint, h⟩ := h
    have hpolled : (EntryOp.poll agentID now source : EntryOp ρ).polled pr db =
        some ⟨row.endpointID, checkpoint, now, source checkpoint⟩ := by
      rw [EntryOp.polled, hrow, Option.bind_eq_bind, Option.bind_some, hcheckpoint]
      rfl
    refine Or.inr ⟨row.endpointID, checkpoint, hpolled, ?_⟩
    split at h
    · rename_i hsource
      exact Or.inl ⟨hsource, (pure_eq_ok_iff.1 h).symm⟩
    · rename_i sample hsource
      obtain ⟨db₁, hrecord, hhealth⟩ := bind_eq_ok_iff.1 h
      exact Or.inr ⟨sample, db₁, hsource, hrecord, hhealth⟩

theorem keepsLedger_awaitReceipt : KeepsLedger id db (db.awaitReceipt endpointID) :=
  (keepsLedger_of_endpoints (f := fun e => { e with runtimeHealthy := false }) fun _ _ => rfl).trans
    (keepsLedger_of_tables rfl)

theorem keepsLedger_health (h : recordGlivelaPilotHealthInTx endpointID checkpoint sample db = .ok db') :
    KeepsLedger id db db' := by
  simp only [recordGlivelaPilotHealthInTx, bind_eq_ok_iff, fetch_eq_ok_iff, pure_eq_ok_iff] at h
  obtain ⟨ready, -, grants, -, endpoints, hupdate, rfl⟩ := h
  obtain ⟨-, rfl⟩ := Table.updateOne_eq_some_iff.1 hupdate
  refine (keepsLedger_of_endpoints fun _ _ => ?_).trans (keepsLedger_of_tables rfl)
  rfl

end Polls

/-! ## Recorded receipts -/

theorem saturatingAdd_eq_min {a b : Int} (ha : 0 ≤ a) (hb : 0 ≤ b) : saturatingAdd a b = min maxInt64 (a + b) := by
  unfold saturatingAdd maxInt64
  split <;> omega

/-- Where the counters have not fallen, a watermark gains the differences. -/
theorem Watermark.observed_advance {w : Watermark} {s : CounterSnapshot} (hw : 0 ≤ w.observedBytes)
    (hup : w.rawUpBytes ≤ s.upBytes) (hdown : w.rawDownBytes ≤ s.downBytes) :
    (w.advance s).observedBytes = min maxInt64 (w.observedBytes +
      ((s.upBytes - w.rawUpBytes) + (s.downBytes - w.rawDownBytes))) := by
  have hupGrowth : growth w.rawUpBytes s.upBytes = s.upBytes - w.rawUpBytes := if_pos hup
  have hdownGrowth : growth w.rawDownBytes s.downBytes = s.downBytes - w.rawDownBytes := if_pos hdown
  change saturatingAdd w.observedBytes (saturatingAdd (growth _ _) (growth _ _)) = _
  rw [hupGrowth, hdownGrowth, saturatingAdd_eq_min (sub_nonneg.2 hup) (sub_nonneg.2 hdown),
    saturatingAdd_eq_min hw (le_min (by decide) (by omega))]
  unfold maxInt64
  omega

section Recorded

variable {β π ρ : Type} {pr : PilotRuntime β π ρ} {id entryID endpointID k : String} {receipt : PilotReceipt} {now : Int}
  {db db' : Database (Staged β)} {previous next : PilotCounters} {quota : Option PilotQuota}

theorem storeQuota_ok (h : storeQuota pr endpointID db quota = .ok db') :
    (quota = none ∧ db' = db) ∨ ∃ q, quota = some q ∧
      (∃ e ∈ db.endpoints, e.id = endpointID ∧ e.totalBytes = q.totalBytes.toInt ∧ e.resetDay = q.resetDay ∧
        e.stage pr q ∈ db'.endpoints) ∧
      db' = { db with endpoints := Table.update (fun e => e.id == endpointID && e.totalBytes == q.totalBytes.toInt &&
        e.resetDay == q.resetDay) (Endpoint.stage pr q) db.endpoints } := by
  cases quota with
  | none => exact Or.inl ⟨rfl, (Except.ok.inj h).symm⟩
  | some q =>
      rw [storeQuota, fetch_bind_eq_ok_iff] at h
      obtain ⟨endpoints, hupdate, h⟩ := h
      obtain rfl := pure_eq_ok_iff.1 h
      obtain ⟨e, he, hguard⟩ := Table.exists_of_updateOne hupdate
      obtain ⟨-, rfl⟩ := Table.updateOne_eq_some_iff.1 hupdate
      have hcolumns := hguard
      simp only [Bool.and_eq_true, beq_iff_eq] at hcolumns
      refine Or.inr ⟨q, rfl, ⟨e, he, hcolumns.1.1, hcolumns.1.2, hcolumns.2, ?_⟩, rfl⟩
      exact Table.mem_update_of_pos he hguard

theorem storeQuota_watermark (h : storeQuota pr endpointID db quota = .ok db') (c : String) :
    db'.watermark c = db.watermark c := by
  rcases storeQuota_ok h with ⟨-, rfl⟩ | ⟨q, -, -, rfl⟩
  · rfl
  · rfl

theorem mem_ids_snapshots {totals : List MeridianRuntime.CounterSnapshot} :
    (snapshots totals).map CounterSnapshot.credentialID = ids totals := by
  rw [snapshots, List.map_map]
  rfl

namespace Records

/-- The application that a receipt names tells the entry. -/
theorem endpointID_eq_iff (h : Records pr receipt now db endpointID previous next db')
    (hdb : Constrained id entryID db) : endpointID = id ↔ receipt.entryID = entryID := by
  obtain ⟨e, he, hid, happ⟩ := h.entry
  obtain ⟨e₀, he₀, hid₀, happ₀⟩ := hdb.entry
  constructor
  · rintro rfl
    rw [← happ, ← happ₀, Table.eq_of_key hdb.endpoints he he₀ (hid.trans hid₀.symm)]
  · rintro rfl
    rw [← hid, ← hid₀, Table.eq_of_key hdb.applications he he₀ (happ.trans happ₀.symm)]

/-- A receipt of another entry. -/
theorem leaves (h : Records pr receipt now db endpointID previous next db') (hne : endpointID ≠ id)
    (hkeys : (db.credentials.map Credential.id).Nodup) : Leaves id db db' := by
  obtain ⟨db₁, db₂, hobserve, hquota, rfl⟩ := h.written
  have hbatch : ∀ s ∈ snapshots next.totals, ∃ c ∈ db.credentials, c.id = s.credentialID ∧ c.endpointID = endpointID := by
    intro s hs
    obtain ⟨total, htotal, rfl⟩ := List.mem_map.1 hs
    exact h.owned total htotal
  have hstored : Leaves id db₁ db₂ := by
    rcases storeQuota_ok hquota with ⟨-, rfl⟩ | ⟨q, -, -, rfl⟩
    · exact Leaves.refl _
    · refine leaves_of_endpoints fun e he => ?_
      simp only [Bool.and_eq_true, beq_iff_eq] at he
      have hid : e.id ≠ id := fun heq => hne (he.1.1.symm.trans heq)
      rw [Endpoint.staged_of_ne hid]
      exact Endpoint.staged_of_ne hid
  refine ((leaves_observe hne hkeys hbatch hobserve).trans hstored).trans ⟨⟨rfl, rfl, ?_, ?_, fun _ _ _ => rfl⟩,
    Table.rewrites_refl _⟩
  · exact Table.map_key_update fun _ => rfl
  · intro row hrow
    rw [Database.storeCheckpoint, Table.mem_update]
    constructor
    · rintro ⟨row', hrow', rfl⟩
      split at hrow
      · rename_i hother
        exact absurd ((beq_iff_eq.1 hother).symm.trans hrow) hne
      · rename_i hother
        rwa [if_neg hother]
    · intro hmem
      exact ⟨row, hmem, by rw [if_neg (by rw [beq_iff_eq, hrow]; exact Ne.symm hne)]⟩

variable (h : Records pr receipt now db id previous next db')
include h

/-- The watermark of a credential of the entry moves from the old totals to the new ones. -/
theorem watermark_advance (hk : k ∈ ids previous.totals) :
    ∃ w, db.watermark k = some w ∧ w.rawUpBytes = (counterOf previous.totals k).upBytes.toInt ∧
      w.rawDownBytes = (counterOf previous.totals k).downBytes.toInt ∧
      db'.watermark k = some (w.advance
        ⟨k, (counterOf next.totals k).upBytes.toInt, (counterOf next.totals k).downBytes.toInt⟩) := by
  obtain ⟨db₁, db₂, hobserve, hquota, rfl⟩ := h.written
  obtain ⟨hmem, hid⟩ := MeridianRuntime.counterOf_mem hk
  obtain ⟨w, hw, hup, hdown⟩ := h.pinned _ hmem
  rw [hid] at hw
  obtain ⟨delta, watermarks, lineUsage, used, hfold, rfl⟩ := observeMeridianUsageInTx_ok hobserve
  have hnext : k ∈ ids next.totals := by
    rw [h.advance.ids_next]
    exact h.advance.credentials.mem_iff.2 hk
  obtain ⟨hmem', hid'⟩ := MeridianRuntime.counterOf_mem hnext
  have hs : (⟨k, (counterOf next.totals k).upBytes.toInt, (counterOf next.totals k).downBytes.toInt⟩ : CounterSnapshot) ∈
      snapshots next.totals := List.mem_map.2 ⟨_, hmem', by rw [hid']⟩
  have hdistinct : ((snapshots next.totals).map CounterSnapshot.credentialID).Nodup := by
    rw [mem_ids_snapshots, h.advance.ids_next]
    exact h.advance.counters.distinct
  refine ⟨w, hw, hup, hdown, (storeQuota_watermark hquota k).trans ?_⟩
  exact observeSnapshots_own hdistinct hfold hs hw

theorem sameNames : SameNames db db' := by
  obtain ⟨db₁, db₂, hobserve, hquota, rfl⟩ := h.written
  obtain ⟨delta, watermarks, lineUsage, used, -, rfl⟩ := observeMeridianUsageInTx_ok hobserve
  have hupdate : ∀ (p : Endpoint → Bool) (f : Endpoint → Endpoint) (rows : List Endpoint),
      (∀ e, ((f e).id, (f e).applicationID) = (e.id, e.applicationID)) →
      (Table.update p f rows).map (fun e => (e.id, e.applicationID)) = rows.map fun e => (e.id, e.applicationID) :=
    fun p f rows hf => Table.map_key_update hf
  have hkeys : ∀ rows : List CheckpointRow, (Table.update (·.endpointID == id)
      (fun row => { row with checkpoint := some next }) rows).map CheckpointRow.endpointID =
        rows.map CheckpointRow.endpointID := fun rows => Table.map_key_update fun _ => rfl
  rcases storeQuota_ok hquota with ⟨-, rfl⟩ | ⟨q, -, -, rfl⟩
  · exact ⟨rfl, hupdate _ _ _ fun _ => rfl, hkeys _⟩
  · refine ⟨rfl, (hupdate _ (Endpoint.stage pr q) _ fun _ => rfl).trans ?_, hkeys _⟩
    exact hupdate _ _ _ fun _ => rfl

/-- The tables agree with the new checkpoint. -/
theorem agrees : Agrees id next db' := by
  obtain ⟨db₁, db₂, hobserve, hquota, hwritten⟩ := h.written
  refine ⟨?_, fun k hk => ?_, fun q hq => ?_⟩
  · have hother : db₂.other = db.other := by
      obtain ⟨delta, watermarks, lineUsage, used, -, rfl⟩ := observeMeridianUsageInTx_ok hobserve
      rcases storeQuota_ok hquota with ⟨-, rfl⟩ | ⟨q, -, -, rfl⟩
      · rfl
      · rfl
    have hstored : (⟨id, some previous⟩ : CheckpointRow) ∈ db₂.other.checkpoints := hother ▸ h.stored
    rw [hwritten]
    exact Table.mem_update_of_pos (f := fun row : CheckpointRow => { row with checkpoint := some next }) hstored
      (beq_iff_eq.2 rfl)
  · have hprevious : k ∈ ids previous.totals := by
      rw [h.advance.ids_next] at hk
      exact h.advance.credentials.mem_iff.1 hk
    obtain ⟨w, -, -, -, hw⟩ := h.watermark_advance hprevious
    exact ⟨_, hw, rfl, rfl⟩
  · rcases storeQuota_ok hquota with ⟨hnone, -⟩ | ⟨q', hsome, ⟨e, -, hid, htotal, hreset, hmem⟩, -⟩
    · rw [hnone] at hq
      cases hq
    · obtain rfl := Option.some.inj (hsome.symm.trans hq)
      rw [hwritten]
      exact ⟨_, hmem, hid, htotal, rfl, hreset⟩

/-- Totals do not fall. -/
theorem totals_le (hk : k ∈ ids previous.totals) :
    (counterOf previous.totals k).upBytes.toInt ≤ (counterOf next.totals k).upBytes.toInt ∧
      (counterOf previous.totals k).downBytes.toInt ≤ (counterOf next.totals k).downBytes.toInt := by
  obtain ⟨hup, hdown, hupNext, hdownNext⟩ := h.advance.total_eq hk
  omega

/-- A credential has used what its totals have grown by. -/
theorem observed_eq (hk : k ∈ ids previous.totals) (hobserved : 0 ≤ db.observed k) :
    db'.observed k = min maxInt64 (db.observed k +
      (((counterOf next.totals k).upBytes.toInt - (counterOf previous.totals k).upBytes.toInt) +
        ((counterOf next.totals k).downBytes.toInt - (counterOf previous.totals k).downBytes.toInt))) := by
  obtain ⟨w, hw, hup, hdown, hw'⟩ := h.watermark_advance hk
  obtain ⟨hupGrown, hdownGrown⟩ := h.totals_le hk
  rw [observed_of_watermark hw] at hobserved
  rw [observed_of_watermark hw', observed_of_watermark hw]
  rw [Watermark.observed_advance hobserved (by rw [hup]; exact hupGrown) (by rw [hdown]; exact hdownGrown), hup, hdown]

end Records

end Recorded

/-! ## Runs -/

/-- The staged entry beside the journal: where its checkpoint stands, and what its credentials have used since the
handover. -/
structure Staging {β : Type} (id : String) (db₀ : Database (Staged β)) (c₀ c : PilotCounters) (j : Journal β) :
    Prop where
  constrained : Constrained id c₀.entryID j.db
  credentials : j.db.credentials = db₀.credentials
  agrees : Agrees id c j.db
  tracked : MeridianRuntime.Tracked c₀ c (j.deliveries c₀.entryID)
  grown : ∀ k ∈ ids c₀.totals, (counterOf c₀.totals k).upBytes.toInt ≤ (counterOf c.totals k).upBytes.toInt ∧
    (counterOf c₀.totals k).downBytes.toInt ≤ (counterOf c.totals k).downBytes.toInt
  observed : ∀ k ∈ ids c₀.totals, j.db.observed k = min maxInt64 (db₀.observed k +
    (((counterOf c.totals k).upBytes.toInt - (counterOf c₀.totals k).upBytes.toInt) +
      ((counterOf c.totals k).downBytes.toInt - (counterOf c₀.totals k).downBytes.toInt)))

section Runs

variable {β π ρ : Type} {pr : PilotRuntime β π ρ} {id : String} {db₀ db' : Database (Staged β)} {c₀ c : PilotCounters}
  {j j' : Journal β} {polls : List Poll}

theorem Staging.start (h₀ : Handover id c₀ db₀) : Staging id db₀ c₀ c₀ ⟨db₀, []⟩ where
  constrained := h₀.toConstrained
  credentials := rfl
  agrees := h₀.toAgrees
  tracked := MeridianRuntime.tracked_start
  grown _ _ := ⟨le_rfl, le_rfl⟩
  observed k hk := by
    have hbound := h₀.observed k hk
    rw [sub_self, sub_self, add_zero, add_zero]
    exact (min_eq_right hbound.2).symm

/-- The credentials of the checkpoint are those of the entry. -/
theorem Staging.owned (h : Staging id db₀ c₀ c j) (h₀ : Handover id c₀ db₀) :
    ∀ k ∈ ids c.totals, ∃ x ∈ j.db.credentials, x.id = k ∧ x.endpointID = id := by
  intro k hk
  rw [h.credentials]
  exact h₀.owned k (h.tracked.credentials.mem_iff.1 hk)

theorem Staging.staged (h : Staging id db₀ c₀ c j) : j.db.other.checkpoints.any (·.endpointID == id) = true :=
  List.any_eq_true.2 ⟨_, h.agrees.stored, beq_iff_eq.2 rfl⟩

/-- A step that keeps the ledger and records no receipt of the entry. -/
theorem Staging.keeps (h : Staging id db₀ c₀ c j) (h₀ : Handover id c₀ db₀) (hkeeps : KeepsLedger id j.db db')
    (hpolls : polls.filterMap (Poll.delivery c₀.entryID) = j.deliveries c₀.entryID) :
    Staging id db₀ c₀ c ⟨db', polls⟩ where
  constrained := hkeeps.sameNames.constrained h.constrained
  credentials := hkeeps.credentials.trans h.credentials
  agrees := hkeeps.agrees (h.owned h₀) h.agrees
  tracked := by
    rw [Journal.deliveries, hpolls]
    exact h.tracked
  grown := h.grown
  observed k hk := by
    rw [hkeeps.observed (h.owned h₀ k (h.tracked.credentials.mem_iff.2 hk))]
    exact h.observed k hk

/-- A step that records a receipt of the entry. -/
theorem Staging.records (h : Staging id db₀ c₀ c j) (h₀ : Handover id c₀ db₀) {receipt : PilotReceipt} {now : Int}
    {previous next : PilotCounters} (hrecords : Records pr receipt now j.db id previous next db') :
    ∀ polls : List Poll, polls.filterMap (Poll.delivery c₀.entryID) =
        (receipt, now) :: j.deliveries c₀.entryID → Staging id db₀ c₀ next ⟨db', polls⟩ := by
  intro polls hpolls
  -- the checkpoint that was found is the one of the entry
  obtain rfl : previous = c := by
    have hrow := Table.eq_of_key h.constrained.checkpoints hrecords.stored h.agrees.stored rfl
    exact Option.some.inj (CheckpointRow.mk.inj hrow).2
  refine ⟨hrecords.sameNames.constrained h.constrained, hrecords.sameNames.credentials.trans h.credentials,
    hrecords.agrees, ?_, fun k hk => ?_, fun k hk => ?_⟩
  · rw [Journal.deliveries, hpolls]
    exact MeridianRuntime.tracked_step (d := (receipt, now)) h₀.first h.tracked hrecords.advance
  · obtain ⟨hup, hdown⟩ := hrecords.totals_le (h.tracked.credentials.mem_iff.2 hk)
    exact ⟨(h.grown k hk).1.trans hup, (h.grown k hk).2.trans hdown⟩
  · have hprevious : k ∈ ids previous.totals := h.tracked.credentials.mem_iff.2 hk
    have hgrown := h.grown k hk
    have hnext := hrecords.totals_le hprevious
    have hbound := h₀.observed k hk
    have hsince := h.observed k hk
    have hnonneg : 0 ≤ j.db.observed k := by
      rw [hsince]
      exact le_min (by decide) (by omega)
    rw [hrecords.observed_eq hprevious hnonneg, hsince]
    unfold maxInt64
    omega

/-- Every committed transaction. -/
theorem Staging.step (hpr : Separate pr) (h₀ : Handover id c₀ db₀) (h : Staging id db₀ c₀ c j) {op : EntryOp ρ}
    (hstep : Journal.step pr op j = .ok j') : ∃ c', Staging id db₀ c₀ c' j' := by
  obtain ⟨db', hcommit, hj⟩ := bind_eq_ok_iff.1 hstep
  obtain rfl := pure_eq_ok_iff.1 hj
  have hkeys := h.constrained.credentials
  cases op with
  | poll agentID now source =>
      rcases poll_ok hcommit with ⟨hnone, rfl⟩ | ⟨endpointID, checkpoint, hpolled, hpoll⟩
      · rw [hnone]
        exact ⟨c, h⟩
      · rw [hpolled, Option.toList_some, List.singleton_append]
        rcases hpoll with ⟨hsource, rfl⟩ | ⟨sample, db₁, hsource, hrecord, hhealth⟩
        · refine ⟨c, h.keeps h₀ keepsLedger_awaitReceipt (List.filterMap_cons_none ?_)⟩
          rw [Poll.delivery, hsource, Option.bind_none]
        · obtain ⟨endpointID', previous, next, hrecords⟩ := record_ok hrecord
          have hentry := hrecords.endpointID_eq_iff h.constrained
          by_cases hid : endpointID' = id
          · subst hid
            -- the receipt of the entry, then the health of the polled one
            have hrecorded : Staging endpointID' db₀ c₀ next
                ⟨db₁, ⟨endpointID, checkpoint, now, source checkpoint⟩ :: j.polls⟩ := by
              refine h.records h₀ hrecords _ (List.filterMap_cons_some ?_)
              rw [Poll.delivery, hsource, Option.bind_some, if_pos (hentry.1 rfl)]
            exact ⟨next, hrecorded.keeps h₀ (keepsLedger_health hhealth) rfl⟩
          · refine ⟨c, h.keeps h₀ ((hrecords.leaves hid hkeys).toKeepsLedger.trans (keepsLedger_health hhealth))
              (List.filterMap_cons_none ?_)⟩
            rw [Poll.delivery, hsource, Option.bind_some, if_neg fun heq => hid (hentry.2 heq)]
  | heartbeat agentID result now before after =>
      exact ⟨c, h.keeps h₀ (hpr.leaves_heartbeat h.staged hkeys hcommit).toKeepsLedger rfl⟩
  | command taskID agentID endpointID outcome superseded now before after =>
      obtain ⟨⟨db₁, state⟩, hcomplete, hdb⟩ := bind_eq_ok_iff.1 hcommit
      obtain rfl := pure_eq_ok_iff.1 hdb
      exact ⟨c, h.keeps h₀ (hpr.leaves_command h.staged hkeys hcomplete).toKeepsLedger rfl⟩
  | resetAccounts now => exact ⟨c, h.keeps h₀ (hpr.leaves_resetAccounts hcommit).toKeepsLedger rfl⟩
  | resetEndpoints now => exact ⟨c, h.keeps h₀ (hpr.leaves_resetEndpoints h.staged hcommit).toKeepsLedger rfl⟩

theorem Staging.run (hpr : Separate pr) (h₀ : Handover id c₀ db₀) (ops : List (EntryOp ρ)) :
    ∃ c, Staging id db₀ c₀ c (Run.run (Journal.step pr) ops ⟨db₀, []⟩) := by
  refine @Run.run_induction _ _ _ (Journal.step pr) ⟨db₀, []⟩ ops (fun j => ∃ c, Staging id db₀ c₀ c j) ?_
    ⟨c₀, Staging.start h₀⟩
  rintro op j j' ⟨c, h⟩ hstep
  exact h.step hpr h₀ hstep

/-- Whatever is polled, reported, completed and reset after a handover: the checkpoint of the entry, the watermarks of
its credentials and its quota agree, and a credential has used what it had used before and, for each process of the
worker, the last counter of a committed receipt. -/
theorem staged_entry_has_one_writer (hpr : Separate pr) (h₀ : Handover id c₀ db₀) (ops : List (EntryOp ρ)) :
    ∃ c, Agrees id c (Run.run (Journal.step pr) ops ⟨db₀, []⟩).db ∧
      Accounted c₀ c ((Run.run (Journal.step pr) ops ⟨db₀, []⟩).deliveries c₀.entryID) ∧
      ∀ k ∈ ids c₀.totals, (Run.run (Journal.step pr) ops ⟨db₀, []⟩).db.observed k = min maxInt64 (db₀.observed k +
        (Epochs.total Delivery.epoch (Delivery.upBytes k)
            ((Run.run (Journal.step pr) ops ⟨db₀, []⟩).deliveries c₀.entryID) +
          Epochs.total Delivery.epoch (Delivery.downBytes k)
            ((Run.run (Journal.step pr) ops ⟨db₀, []⟩).deliveries c₀.entryID))) := by
  obtain ⟨c, h⟩ := Staging.run hpr h₀ ops
  refine ⟨c, h.agrees, h.tracked.toAccounted, fun k hk => ?_⟩
  rw [h.observed k hk, h.tracked.up k hk, h.tracked.down k hk, add_sub_cancel_left, add_sub_cancel_left]

end Runs

/-! ## Fixed egresses -/

/-- A poll has found the exits of a fixed egress ready, and its publication is not withheld. -/
def Poll.Approves (p : Poll) (g : RouteGrant) : Prop :=
  ∃ sample ready, p.sample = some sample ∧ sample.readiness p.checkpoint = .ok ready ∧
    g.stage ready sample.publicationSuspended = true

section Grants

variable {β π ρ : Type} {pr : PilotRuntime β π ρ} {id endpointID : String} {receipt : PilotReceipt} {now : Int}
  {db db' : Database (Staged β)} {previous next checkpoint : PilotCounters} {sample : PilotSample} {g g' : RouteGrant}
  {ready : String → Bool} {suspended : Bool} {grants grants' : List RouteGrant} {p : Poll}

theorem stage_of_route (h : g'.route = g.route) : g'.stage ready suspended = g.stage ready suspended := by
  simp only [RouteGrant.route, Prod.mk.injEq] at h
  rw [RouteGrant.stage, RouteGrant.stage, h.2.2.1, h.2.2.2]

theorem Poll.Approves.of_route (h : p.Approves g) (hroute : g'.route = g.route) : p.Approves g' := by
  obtain ⟨sample, ready, hsample, hready, hstage⟩ := h
  exact ⟨sample, ready, hsample, hready, (stage_of_route hroute).trans hstage⟩

/-- A round of the loop writes one row. -/
theorem recordPilotRoute_writes {route : RouteGrant}
    (h : recordPilotRoute endpointID ready suspended grants route = .ok grants') :
    Table.Writes (fun (grants : List RouteGrant) k => grants.find? (·.id == k)) route.id
      (fun g => if (g.id == route.id && g.endpointID == endpointID) = true then
        g.judge (route.stage ready suspended) else g) grants grants' := by
  rw [recordPilotRoute, require_bind_eq_ok_iff] at h
  obtain rfl := pure_eq_ok_iff.1 h.2
  refine Table.update_writes (fun _ => rfl) fun g hg => ?_
  rw [Bool.and_eq_true, beq_iff_eq] at hg
  exact hg.1

theorem recordPilotRoute_route {route : RouteGrant}
    (h : recordPilotRoute endpointID ready suspended grants route = .ok grants') :
    grants'.map RouteGrant.route = grants.map RouteGrant.route := by
  rw [recordPilotRoute, require_bind_eq_ok_iff] at h
  obtain rfl := pure_eq_ok_iff.1 h.2
  exact Table.map_key_update fun _ => rfl

theorem recordPilotRoute_others {route : RouteGrant} (hne : endpointID ≠ id)
    (h : recordPilotRoute endpointID ready suspended grants route = .ok grants') :
    Table.Rewrites (RouteGrant.Dims id) grants grants' := by
  rw [recordPilotRoute, require_bind_eq_ok_iff] at h
  obtain rfl := pure_eq_ok_iff.1 h.2
  refine Table.update_rewrites fun g _ hg => ⟨rfl, fun hid => ?_⟩
  rw [Bool.and_eq_true, beq_iff_eq, beq_iff_eq] at hg
  exact absurd (hg.2.symm.trans hid) hne

theorem rewrites_trans {grants'' : List RouteGrant} (h₁ : Table.Rewrites (RouteGrant.Dims id) grants grants')
    (h₂ : Table.Rewrites (RouteGrant.Dims id) grants' grants'') : Table.Rewrites (RouteGrant.Dims id) grants grants'' :=
  h₁.trans h₂ (fun _ _ h => h) (fun _ _ h => h) fun _ _ _ => RouteGrant.Dims.trans

/-- The health of another entry. -/
theorem health_others (hne : endpointID ≠ id)
    (h : recordGlivelaPilotHealthInTx endpointID checkpoint sample db = .ok db') :
    Table.Rewrites (RouteGrant.Dims id) db.grants db'.grants := by
  simp only [recordGlivelaPilotHealthInTx, bind_eq_ok_iff, fetch_eq_ok_iff, pure_eq_ok_iff] at h
  obtain ⟨ready, -, grants, hroutes, endpoints, -, rfl⟩ := h
  exact Table.foldlM_invariant (fun _ _ _ _ hs hstep => rewrites_trans hs (recordPilotRoute_others hne hstep))
    (Table.rewrites_refl _) hroutes

/-- After the health of an entry was recorded, exactly what was found ready is served. -/
theorem health_own (hkeys : (db.grants.map RouteGrant.id).Nodup)
    (h : recordGlivelaPilotHealthInTx endpointID checkpoint sample db = .ok db') :
    db'.grants.map RouteGrant.route = db.grants.map RouteGrant.route ∧
      ∃ ready, sample.readiness checkpoint = .ok ready ∧ ∀ g ∈ db'.grants, g.endpointID = endpointID →
        g.served = true → g.stage ready sample.publicationSuspended = true := by
  simp only [recordGlivelaPilotHealthInTx, bind_eq_ok_iff, fetch_eq_ok_iff, pure_eq_ok_iff] at h
  obtain ⟨ready, hready, grants, hroutes, endpoints, -, rfl⟩ := h
  have hnames : grants.map RouteGrant.route = db.grants.map RouteGrant.route :=
    @Table.foldlM_invariant _ _ _ _ _ (fun rows => rows.map RouteGrant.route = db.grants.map RouteGrant.route) _ _
      (fun _ _ _ _ hs hstep => (recordPilotRoute_route hstep).trans hs) rfl hroutes
  have hids : grants.map RouteGrant.id = db.grants.map RouteGrant.id := by
    have hmap := congrArg (List.map Prod.fst) hnames
    rwa [List.map_map, List.map_map] at hmap
  refine ⟨hnames, ready, hready, fun g hg hid hserved => ?_⟩
  have hfound : grants.find? (·.id == g.id) = some g := Table.find?_key (hids ▸ hkeys) hg
  by_cases hroute : g.id ∈ (db.grants.filter fun g => g.endpointID == endpointID && g.live).map RouteGrant.id
  · obtain ⟨r, hr, hrid⟩ := List.mem_map.1 hroute
    obtain ⟨hmem, hguard⟩ := List.mem_filter.1 hr
    rw [Bool.and_eq_true, beq_iff_eq] at hguard
    have hjudged := Table.foldlM_writes_own (fun (grants : List RouteGrant) k => grants.find? (·.id == k))
      (fun _ _ _ _ hstep => recordPilotRoute_writes hstep) ((hkeys.sublist (List.filter_sublist.map _))) hroutes hr
      (Table.find?_key hkeys hmem)
    rw [if_pos (by rw [hguard.1, beq_self_eq_true, beq_self_eq_true]; rfl), hrid] at hjudged
    obtain rfl := Option.some.inj (hfound.symm.trans hjudged)
    rw [RouteGrant.served, Bool.and_eq_true] at hserved
    exact hserved.2
  · -- what the loop has not visited is not in use
    have hsame := Table.foldlM_writes_others (fun (grants : List RouteGrant) k => grants.find? (·.id == k))
      (fun _ _ _ _ hstep => recordPilotRoute_writes hstep) hroutes hroute
    have hmem : g ∈ db.grants := List.mem_of_find?_eq_some (hsame.symm.trans hfound)
    rw [RouteGrant.served, Bool.and_eq_true] at hserved
    refine absurd (List.mem_map_of_mem (List.mem_filter.2 ⟨hmem, ?_⟩)) hroute
    rw [Bool.and_eq_true, beq_iff_eq]
    exact ⟨hid, hserved.1⟩

theorem Records.grants_eq (h : Records pr receipt now db endpointID previous next db') : db'.grants = db.grants := by
  obtain ⟨db₁, db₂, hobserve, hquota, rfl⟩ := h.written
  obtain ⟨delta, watermarks, lineUsage, used, -, rfl⟩ := observeMeridianUsageInTx_ok hobserve
  rcases storeQuota_ok hquota with ⟨-, rfl⟩ | ⟨q, -, -, rfl⟩
  · rfl
  · rfl

/-- Without a receipt, nothing of the entry is served. -/
theorem served_awaitReceipt (hg : g ∈ (db.awaitReceipt endpointID).grants) (hid : g.endpointID = endpointID) :
    g.served = false := by
  rw [Database.awaitReceipt, Table.mem_update] at hg
  obtain ⟨g₀, -, rfl⟩ := hg
  split at hid
  · rename_i hguard
    rw [if_pos hguard]
    exact RouteGrant.served_of_unhealthy rfl
  · rename_i hguard
    rw [if_neg hguard]
    -- a grant that is skipped is revoked or about to be
    have hlive : g₀.live = false := by
      rw [Bool.not_eq_true] at hguard
      cases hrevoked : g₀.status != .revoked with
      | false => rw [RouteGrant.live, hrevoked, Bool.and_false, Bool.false_and]
      | true =>
          rw [hid, beq_self_eq_true, hrevoked, Bool.true_and, Bool.true_and] at hguard
          rw [RouteGrant.live, hguard, Bool.and_false]
    rw [RouteGrant.served, hlive, Bool.false_and]

theorem awaitReceipt_dims :
    Table.Rewrites (RouteGrant.Dims id) db.grants (db.awaitReceipt endpointID).grants :=
  Table.update_rewrites fun g _ _ => g.dims_of_unhealthy (f := fun g => { g with
    runtimeHealthy := false, healthExpiresUnixMs := 0 }) rfl rfl

end Grants

/-- What is served of the entry was approved by its last poll. -/
structure Watched {β : Type} (id : String) (j : Journal β) : Prop where
  keys : (j.db.grants.map RouteGrant.id).Nodup
  approved : ∀ g ∈ j.db.grants, g.endpointID = id → g.served = true →
    ∃ p, j.polls.find? (·.endpointID == id) = some p ∧ p.Approves g

section Watching

variable {β π ρ : Type} {pr : PilotRuntime β π ρ} {id : String} {db₀ db' : Database (Staged β)} {c₀ c : PilotCounters}
  {j j' : Journal β} {polls : List Poll}

theorem Watched.rewrites (h : Watched id j) (hgrants : Table.Rewrites (RouteGrant.Dims id) j.db.grants db'.grants)
    (hpolls : polls.find? (·.endpointID == id) = j.polls.find? (·.endpointID == id)) : Watched id ⟨db', polls⟩ where
  keys := by
    have hids : db'.grants.map RouteGrant.id = j.db.grants.map RouteGrant.id :=
      hgrants.map_key fun _ _ hdims => congrArg Prod.fst hdims.route
    exact hids ▸ h.keys
  approved g' hg' hid hserved := by
    rw [hpolls]
    obtain ⟨g, hg, rfl | hdims⟩ := hgrants.backward hg'
    · exact h.approved g' hg hid hserved
    · have hid₀ : g.endpointID = id := hdims.endpointID.symm.trans hid
      obtain ⟨p, hp, happroves⟩ := h.approved g hg hid₀ (hdims.served hid₀ hserved)
      exact ⟨p, hp, happroves.of_route hdims.route⟩

theorem Watched.leaves (h : Watched id j) (hleaves : Leaves id j.db db') : Watched id ⟨db', j.polls⟩ :=
  h.rewrites hleaves.grants rfl

/-- Every committed transaction. -/
theorem Watched.step (hpr : Separate pr) (hstaging : Staging id db₀ c₀ c j) (h : Watched id j) {op : EntryOp ρ}
    (hstep : Journal.step pr op j = .ok j') : Watched id j' := by
  obtain ⟨db', hcommit, hj⟩ := bind_eq_ok_iff.1 hstep
  obtain rfl := pure_eq_ok_iff.1 hj
  have hkeys := hstaging.constrained.credentials
  cases op with
  | poll agentID now source =>
      rcases poll_ok hcommit with ⟨hnone, rfl⟩ | ⟨endpointID, checkpoint, hpolled, hpoll⟩
      · rw [hnone]
        exact h
      · rw [hpolled, Option.toList_some, List.singleton_append]
        by_cases hid : endpointID = id
        · subst hid
          rcases hpoll with ⟨hsource, rfl⟩ | ⟨sample, db₁, hsource, hrecord, hhealth⟩
          · refine ⟨?_, fun g hg hgid hserved => ?_⟩
            · rw [show (j.db.awaitReceipt endpointID).grants.map RouteGrant.id = j.db.grants.map RouteGrant.id from
                Table.map_key_update fun _ => rfl]
              exact h.keys
            · rw [served_awaitReceipt hg hgid] at hserved
              cases hserved
          · obtain ⟨_, _, _, hrecords⟩ := record_ok hrecord
            obtain ⟨hroutes, ready, hready, hserved⟩ := health_own (hrecords.grants_eq ▸ h.keys) hhealth
            refine ⟨?_, fun g hg hgid hgserved => ⟨_, List.find?_cons_of_pos (beq_iff_eq.2 rfl), ?_⟩⟩
            · have hids := congrArg (List.map Prod.fst) hroutes
              rw [List.map_map, List.map_map, hrecords.grants_eq] at hids
              exact (show db'.grants.map RouteGrant.id = j.db.grants.map RouteGrant.id from hids) ▸ h.keys
            · exact ⟨sample, ready, hsource, hready, hserved g hg hgid hgserved⟩
        · have hskip : (⟨endpointID, checkpoint, now, source checkpoint⟩ :: j.polls).find? (·.endpointID == id) =
              j.polls.find? (·.endpointID == id) := List.find?_cons_of_neg (by rw [beq_iff_eq]; exact hid)
          rcases hpoll with ⟨hsource, rfl⟩ | ⟨sample, db₁, hsource, hrecord, hhealth⟩
          · exact h.rewrites awaitReceipt_dims hskip
          · obtain ⟨_, _, _, hrecords⟩ := record_ok hrecord
            exact h.rewrites (hrecords.grants_eq ▸ health_others hid hhealth) hskip
  | heartbeat agentID result now before after => exact h.leaves (hpr.leaves_heartbeat hstaging.staged hkeys hcommit)
  | command taskID agentID endpointID outcome superseded now before after =>
      obtain ⟨⟨db₁, state⟩, hcomplete, hdb⟩ := bind_eq_ok_iff.1 hcommit
      obtain rfl := pure_eq_ok_iff.1 hdb
      exact h.leaves (hpr.leaves_command hstaging.staged hkeys hcomplete)
  | resetAccounts now => exact h.leaves (hpr.leaves_resetAccounts hcommit)
  | resetEndpoints now => exact h.leaves (hpr.leaves_resetEndpoints hstaging.staged hcommit)

/-- Whatever is polled, reported, completed and reset: a fixed egress of a staged entry is served only if the last poll
of the entry that was committed found it ready. -/
theorem staged_egress_served_by_last_poll (hpr : Separate pr) (h₀ : Handover id c₀ db₀)
    (hkeys : (db₀.grants.map RouteGrant.id).Nodup)
    (hunserved : ∀ g ∈ db₀.grants, g.endpointID = id → g.served = false) (ops : List (EntryOp ρ)) :
    ∀ g ∈ (Run.run (Journal.step pr) ops ⟨db₀, []⟩).db.grants, g.endpointID = id → g.served = true →
      ∃ p, (Run.run (Journal.step pr) ops ⟨db₀, []⟩).polls.find? (·.endpointID == id) = some p ∧ p.Approves g := by
  have hstart : Watched id (⟨db₀, []⟩ : Journal β) := by
    refine ⟨hkeys, fun g hg hid hserved => ?_⟩
    rw [hunserved g hg hid] at hserved
    cases hserved
  have hrun := @Run.run_induction _ _ _ (Journal.step pr) ⟨db₀, []⟩ ops
    (fun j => (∃ c, Staging id db₀ c₀ c j) ∧ Watched id j)
    (fun op j j' ⟨⟨c, hstaging⟩, hwatched⟩ hstep => ⟨hstaging.step hpr h₀ hstep, hwatched.step hpr hstaging hstep⟩)
    ⟨⟨c₀, Staging.start h₀⟩, hstart⟩
  exact hrun.2.approved

end Watching

namespace HandedOver

open MeridianRuntime (zeroTime)

/-- A projection is the credentials of its entry, and a report the list of its counters. -/
def runtime : PilotRuntime Unit (List String) (List CounterSnapshot) where
  ensureSnapshots db _ := .ok db.other
  timezone _ _ := some "UTC"
  resetBoundary _ _ _ := none
  julianday _ := none
  pilotOwns other id := other.checkpoints.any (·.endpointID == id)
  maxResetDays := 3650
  projectQuota plan _ := some plan.enabled
  parseXrayUserCounters known counters :=
    if counters.all fun s => known.contains s.credentialID then some counters else none
  buildMeridianRuntimeTask db id _ := .ok ((db.credentials.filter (·.endpointID == id)).map Credential.id)
  revision _ := 1
  retireLegacy _ := false
  legacyRetired _ := true
  validate _ _ := true
  peerHealth _ _ _ := true
  verifyReceipt _ _ _ := .ok ()
  readyRoutes _ _ _ := .ok []
  blockedRoutes _ := []
  applicationNode _ application := if application = "entry" then some "node" else some "old node"
  running _ _ := true
  deployment _ _ _ := some 1
  deploymentValid _ _ _ := true
  recordRouteHealthDiagnostics db _ := .ok db.other
  storeEvidence db _ _ := .ok db.other
  applyDeployment db _ _ _ := .ok db.other
  reconcileApplicationPublications db _ := .ok db.other
  finishCommand db _ _ := .ok db.other
  reconcileClientLandingSourcesForNode db _ := .ok db.other
  reconcileMeridianCutoverInTx db := .ok db.other
  env := MeridianRuntime.RestartedWorker.env
  format _ := ""

theorem separate : Separate runtime where
  owns _ _ := rfl
  snapshots h := by cases h; rfl
  diagnostics h := by cases h; rfl
  evidence h := by cases h; rfl
  deployment h := by cases h; rfl
  publications h := by cases h; rfl
  command h := by cases h; rfl
  landing h := by cases h; rfl
  cutover h := by cases h; rfl
  counters hbuild hparse s hs := by
    obtain rfl := Except.ok.inj hbuild
    obtain ⟨hall, heq⟩ := Option.ite_none_right_eq_some.1 hparse
    obtain rfl := Option.some.inj heq
    obtain ⟨c, hc, hid⟩ := List.mem_map.1 (List.contains_iff_mem.1 (List.all_eq_true.1 hall s hs))
    obtain ⟨hmem, howner⟩ := List.mem_filter.1 hc
    exact ⟨c, hmem, hid, beq_iff_eq.1 howner⟩

/-- A staged entry with one fixed egress, and an entry of the old runtime. -/
def tables : Database (Staged Unit) where
  credentials := [⟨"a", "account", "staged", true⟩, ⟨"b", "account", "staged", true⟩, ⟨"c", "account", "old", true⟩]
  endpoints := [⟨"staged", "entry", "", 0, 0, true, 0, "", "", 1, 1, false, true, .ready⟩,
    ⟨"old", "other", "", 0, 0, true, 0, "", "", 1, 1, true, true, .ready⟩]
  accounts := [⟨"account", 0, 0, 0, "", "", true, 1, 1, .active⟩]
  grants := [⟨"g", "account", "staged", "exit", none, true, 1, 1, false, 0, .blocked⟩]
  watermarks := [⟨"a", 0, 350, 100, 200⟩, ⟨"b", 0, 0, 0, 0⟩, ⟨"c", 0, 10, 10, 0⟩]
  lineUsage := []
  other := ⟨[⟨"staged", some MeridianRuntime.RestartedWorker.start⟩], ()⟩

theorem handover : Handover "staged" MeridianRuntime.RestartedWorker.start tables where
  credentials := by decide
  endpoints := by decide
  applications := by decide
  checkpoints := by decide
  entry := ⟨_, List.mem_cons_self .., rfl, rfl⟩
  stored := List.mem_singleton.2 rfl
  marks := List.forall_mem_cons.2 ⟨⟨_, rfl, by decide, by decide⟩,
    List.forall_mem_singleton.2 ⟨_, rfl, by decide, by decide⟩⟩
  quota _ hq := by cases hq
  first := by decide
  owned := List.forall_mem_cons.2 ⟨⟨_, List.mem_cons_self .., rfl, rfl⟩,
    List.forall_mem_singleton.2 ⟨_, List.mem_cons_of_mem _ (List.mem_cons_self ..), rfl, rfl⟩⟩
  observed := List.forall_mem_cons.2 ⟨by decide, List.forall_mem_singleton.2 (by decide)⟩

/-- Polls of two processes of the worker, and between them a heartbeat of the other node and a late one of the node
itself. -/
def ops : List (EntryOp (List CounterSnapshot)) :=
  let sample (startedAt sampledAt : Int) (a b : Int64) : PilotSample :=
    ⟨MeridianRuntime.RestartedWorker.receipt startedAt sampledAt a b, false, fun _ => .ok fun id => id == "exit"⟩
  [.poll "node" 125 fun _ => some (sample 110 120 3 1),
    .heartbeat "old node" [⟨"c", 30, 40⟩] BoundaryTrial.now BoundaryTrial.clock BoundaryTrial.clock,
    .heartbeat "node" [⟨"a", 999, 999⟩] BoundaryTrial.now BoundaryTrial.clock BoundaryTrial.clock,
    .poll "node" 151 fun _ => some (sample 140 150 2 4)]

theorem two_processes_counted :
    (Run.run (Journal.step runtime) ops ⟨tables, []⟩).db.observed "a" = 369 ∧
      ∃ c, Agrees "staged" c (Run.run (Journal.step runtime) ops ⟨tables, []⟩).db := by
  obtain ⟨c, hagrees, -, -⟩ := staged_entry_has_one_writer separate handover ops
  exact ⟨by decide +kernel, c, hagrees⟩

theorem ready_exit_served :
    ∃ g ∈ (Run.run (Journal.step runtime) ops ⟨tables, []⟩).db.grants, g.served = true ∧
      ∃ p ∈ (Run.run (Journal.step runtime) ops ⟨tables, []⟩).polls, p.Approves g := by
  have hserved : (Run.run (Journal.step runtime) ops ⟨tables, []⟩).db.grants.any
      (fun g => g.endpointID == "staged" && g.served) = true := by decide +kernel
  obtain ⟨g, hg, hguard⟩ := List.any_eq_true.1 hserved
  rw [Bool.and_eq_true, beq_iff_eq] at hguard
  have hunserved : ∀ g ∈ tables.grants, g.endpointID = "staged" → g.served = false :=
    List.forall_mem_singleton.2 fun _ => rfl
  obtain ⟨p, hp, happroves⟩ := staged_egress_served_by_last_poll separate handover (List.nodup_singleton _) hunserved
    ops g hg hguard.1 hguard.2
  exact ⟨g, hg, hguard.2, p, List.mem_of_find?_eq_some hp, happroves⟩

end HandedOver

end Meridian
end Center
end Vastora
