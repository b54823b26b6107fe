import Vastora.Library.Epochs
import Vastora.Library.MachineInt
import Vastora.Library.Run
import Vastora.MeridianRuntime.Pilot

/-!
# PilotLedger — every byte of a worker is counted once

What an accepted receipt does is said once (`Advance`).  The epochs of a worker are the times its processes were
started, and an accepted receipt is of the last process or of one that was started after the last sample.  So a
checkpoint that has been advanced by any receipts has, for each credential, what it had at first and the last
counter of each process (`pilot_counts_every_byte_once`).
-/

namespace Vastora
namespace MeridianRuntime

open Library Library.Guard Library.MachineInt

/-! ## Counters by credential -/

/-- The credentials that counters are of. -/
def ids (counters : List CounterSnapshot) : List String := counters.map CounterSnapshot.credentialID

/-- What `pilotCounterMap` accepts. -/
structure ValidCounters (env : PilotEnv) (counters : List CounterSnapshot) : Prop where
  distinct : (ids counters).Nodup
  valid : ∀ c ∈ counters, env.validIdentifier c.credentialID = true ∧ 0 ≤ c.upBytes ∧ 0 ≤ c.downBytes

section Counters

variable {env : PilotEnv} {counters result acc : List CounterSnapshot} {c : CounterSnapshot} {id : String}

theorem any_id_iff : counters.any (·.credentialID == id) = true ↔ id ∈ ids counters := by
  rw [List.any_eq_true, ids, List.mem_map]
  exact exists_congr fun c => and_congr_right fun _ => beq_iff_eq

theorem counterOf_of_mem (hdistinct : (ids counters).Nodup) (hc : c ∈ counters) :
    counterOf counters c.credentialID = c := by
  induction counters with
  | nil => cases hc
  | cons head rest ih =>
      rw [ids, List.map_cons, List.nodup_cons] at hdistinct
      rw [counterOf, List.find?_cons]
      rcases List.mem_cons.1 hc with rfl | hrest
      · rw [beq_self_eq_true]
        rfl
      · have hne : head.credentialID ≠ c.credentialID :=
          fun heq => hdistinct.1 (heq ▸ List.mem_map_of_mem hrest)
        rw [beq_eq_false_iff_ne.2 hne]
        exact ih hdistinct.2 hrest

/-- A credential of a map is found with its counter. -/
theorem counterOf_mem (h : id ∈ ids counters) :
    counterOf counters id ∈ counters ∧ (counterOf counters id).credentialID = id := by
  obtain ⟨c, hc, rfl⟩ := List.mem_map.1 h
  obtain ⟨found, hfound⟩ : ∃ found, counters.find? (·.credentialID == c.credentialID) = some found :=
    Option.isSome_iff_exists.1 (List.find?_isSome.2 ⟨c, hc, beq_self_eq_true _⟩)
  have hid : (found.credentialID == c.credentialID) = true :=
    List.find?_some (p := fun x : CounterSnapshot => x.credentialID == c.credentialID) hfound
  rw [counterOf, hfound, Option.getD_some]
  exact ⟨List.mem_of_find?_eq_some hfound, eq_of_beq hid⟩

theorem validCounters_append_singleton (hacc : ValidCounters env acc) : ValidCounters env (acc ++ [c]) ↔
    (env.validIdentifier c.credentialID && !acc.any (·.credentialID == c.credentialID) &&
      0 ≤ c.upBytes && 0 ≤ c.downBytes) = true := by
  have hnew : (!acc.any (·.credentialID == c.credentialID)) = true ↔ c.credentialID ∉ ids acc := by
    rw [Bool.not_eq_true', ← Bool.not_eq_true, any_id_iff]
  simp only [Bool.and_eq_true, decide_eq_true_eq, hnew]
  constructor
  · rintro ⟨hdistinct, hvalid⟩
    obtain ⟨hid, hup, hdown⟩ := hvalid c (by simp)
    rw [ids, List.map_append, List.map_singleton] at hdistinct
    refine ⟨⟨⟨hid, fun hmem => ?_⟩, hup⟩, hdown⟩
    exact (List.nodup_append.1 hdistinct).2.2 _ hmem _ (List.mem_singleton_self _) rfl
  · rintro ⟨⟨⟨hid, hnew⟩, hup⟩, hdown⟩
    refine ⟨?_, List.forall_mem_append.2 ⟨hacc.valid, List.forall_mem_singleton.2 ⟨hid, hup, hdown⟩⟩⟩
    rw [ids, List.map_append, List.map_singleton]
    refine List.nodup_append.2 ⟨hacc.distinct, List.nodup_singleton _, fun a ha b hb heq => ?_⟩
    rw [List.mem_singleton.1 hb] at heq
    exact hnew (heq ▸ ha)

theorem ValidCounters.left (h : ValidCounters env (acc ++ counters)) : ValidCounters env acc where
  distinct := by
    have hdistinct := h.distinct
    rw [ids, List.map_append] at hdistinct
    exact (List.nodup_append.1 hdistinct).1
  valid := (List.forall_mem_append.1 h.valid).1

theorem foldlM_addCounter_iff (hacc : ValidCounters env acc) :
    counters.foldlM (addCounter env) acc = .ok result ↔
      result = acc ++ counters ∧ ValidCounters env (acc ++ counters) := by
  induction counters generalizing acc with
  | nil =>
      rw [List.foldlM_nil, pure_eq_ok_iff, List.append_nil, eq_comm]
      exact (and_iff_left hacc).symm
  | cons head rest ih =>
      rw [List.foldlM_cons, bind_eq_ok_iff, List.append_cons acc head rest]
      simp only [addCounter, require_bind_eq_ok_iff, pure_eq_ok_iff, ← validCounters_append_singleton hacc]
      constructor
      · rintro ⟨next, ⟨hhead, rfl⟩, hrest⟩
        exact (ih hhead).1 hrest
      · rintro ⟨hresult, hvalid⟩
        exact ⟨_, ⟨hvalid.left, rfl⟩, (ih hvalid.left).2 ⟨hresult, hvalid⟩⟩

/-- A map that is accepted holds the counters as they are. -/
theorem pilotCounterMap_iff :
    pilotCounterMap env counters = .ok result ↔ result = counters ∧ ValidCounters env counters :=
  foldlM_addCounter_iff ⟨List.nodup_nil, fun _ hc => by cases hc⟩

theorem fetch_counterMap_iff {ρ : Type} {k : List CounterSnapshot → Except String ρ} {r : ρ} :
    (fetch (pilotCounterMap env counters).toOption invalid >>= k) = .ok r ↔
      ValidCounters env counters ∧ k counters = .ok r := by
  have hsome : ∀ found, (pilotCounterMap env counters).toOption = some found ↔
      found = counters ∧ ValidCounters env counters := by
    intro found
    rw [toOption_eq_some_iff, pilotCounterMap_iff]
  simp only [fetch_bind_eq_ok_iff, hsome]
  constructor
  · rintro ⟨_, ⟨rfl, hvalid⟩, h⟩
    exact ⟨hvalid, h⟩
  · rintro ⟨hvalid, h⟩
    exact ⟨counters, ⟨rfl, hvalid⟩, h⟩

end Counters

/-! ## One receipt -/

/-- What a worker has counted for a credential in one of its processes. -/
def last (sameProcess : Bool) (raw : List CounterSnapshot) (id : String) : CounterSnapshot :=
  if sameProcess then counterOf raw id else ⟨"", 0, 0⟩

section Counter

variable {raw totals : List CounterSnapshot} {sameProcess sameSample : Bool} {incoming next : CounterSnapshot}

theorem credentialID_advanceCounter (h : advanceCounter raw totals sameProcess sameSample incoming = .ok next) :
    next.credentialID = (counterOf totals incoming.credentialID).credentialID := by
  rw [advanceCounter, require_bind_eq_ok_iff, require_bind_eq_ok_iff, require_bind_eq_ok_iff, pure_eq_ok_iff] at h
  obtain ⟨-, -, -, rfl⟩ := h
  rfl

/-- A counter of a receipt: the total grows by what is new, exactly. -/
theorem advanceCounter_ok (h : advanceCounter raw totals sameProcess sameSample incoming = .ok next)
    (hraw : 0 ≤ (last sameProcess raw incoming.credentialID).upBytes ∧
      0 ≤ (last sameProcess raw incoming.credentialID).downBytes)
    (htotal : 0 ≤ (counterOf totals incoming.credentialID).upBytes ∧
      0 ≤ (counterOf totals incoming.credentialID).downBytes)
    (hincoming : 0 ≤ incoming.upBytes ∧ 0 ≤ incoming.downBytes) :
    (last sameProcess raw incoming.credentialID).upBytes.toInt ≤ incoming.upBytes.toInt ∧
      (last sameProcess raw incoming.credentialID).downBytes.toInt ≤ incoming.downBytes.toInt ∧
      next.upBytes.toInt = (counterOf totals incoming.credentialID).upBytes.toInt +
        (incoming.upBytes.toInt - (last sameProcess raw incoming.credentialID).upBytes.toInt) ∧
      next.downBytes.toInt = (counterOf totals incoming.credentialID).downBytes.toInt +
        (incoming.downBytes.toInt - (last sameProcess raw incoming.credentialID).downBytes.toInt) := by
  rw [advanceCounter, require_bind_eq_ok_iff, require_bind_eq_ok_iff, require_bind_eq_ok_iff, pure_eq_ok_iff] at h
  obtain ⟨hgrown, -, hroom, rfl⟩ := h
  simp only [Bool.and_eq_true, decide_eq_true_eq] at hroom
  -- a new process starts at zero, so both cases are a growth from `last`
  have hdelta : ∀ (value before : Int64), 0 ≤ before → before ≤ value →
      0 ≤ value - before ∧ (value - before).toInt = value.toInt - before.toInt := by
    intro value before hbefore hle
    have hsub := toInt_sub_of_le hbefore hle
    have hle' := Int64.le_iff_toInt_le.1 hle
    exact ⟨Int64.le_iff_toInt_le.2 (by rw [hsub, Int64.toInt_zero]; omega), hsub⟩
  cases sameProcess with
  | true =>
      simp only [last, if_true] at hraw hroom ⊢
      simp only [Bool.not_true, Bool.false_or, Bool.and_eq_true, decide_eq_true_eq] at hgrown
      obtain ⟨hup, hupEq⟩ := hdelta _ _ hraw.1 hgrown.1
      obtain ⟨hdown, hdownEq⟩ := hdelta _ _ hraw.2 hgrown.2
      refine ⟨Int64.le_iff_toInt_le.1 hgrown.1, Int64.le_iff_toInt_le.1 hgrown.2, ?_, ?_⟩
      · rw [toInt_add_of_le htotal.1 hup hroom.1, hupEq]
      · rw [toInt_add_of_le htotal.2 hdown hroom.2, hdownEq]
  | false =>
      simp only [last, Bool.false_eq_true, if_false] at hroom ⊢
      refine ⟨toInt_nonneg hincoming.1, toInt_nonneg hincoming.2, ?_, ?_⟩
      · rw [toInt_add_of_le htotal.1 hincoming.1 hroom.1, Int64.toInt_zero, sub_zero]
      · rw [toInt_add_of_le htotal.2 hincoming.2 hroom.2, Int64.toInt_zero, sub_zero]

end Counter

/-- The receipt is of the process that the checkpoint has seen last. -/
def isSameProcess (previous : PilotCounters) (receipt : PilotReceipt) : Bool :=
  !isZero previous.startedAt && receipt.startedAt == previous.startedAt

/-- What a receipt that is accepted has passed, and what becomes of the checkpoint. -/
structure Advance (env : PilotEnv) (previous : PilotCounters) (receipt : PilotReceipt) (now : Int)
    (next : PilotCounters) : Prop where
  scope : inScope env previous receipt now = true
  totals : ValidCounters env previous.totals
  nonempty : previous.totals ≠ []
  counters : ValidCounters env receipt.counters
  credentials : (ids receipt.counters).Perm (ids previous.totals)
  raw : ValidCounters env previous.raw
  seen : (if isZero previous.startedAt then isZero previous.sampledAt && previous.raw == []
    else continues previous receipt previous.raw previous.totals) = true
  process : isZero previous.startedAt = true ∨ isSameProcess previous receipt = true ∨
    previous.sampledAt < receipt.startedAt
  advanced : receipt.counters.mapM (advanceCounter previous.raw previous.totals (isSameProcess previous receipt)
    (receipt.sampledAt == previous.sampledAt)) = .ok next.totals
  quota : nextQuota env previous.quota receipt.quota previous.totals next.totals receipt.sampledAt now = .ok next.quota
  checkpoint : next = { previous with
    quota := next.quota
    startedAt := receipt.startedAt
    sampledAt := receipt.sampledAt
    raw := receipt.counters
    totals := next.totals }

section Receipt

variable {env : PilotEnv} {previous next : PilotCounters} {receipt : PilotReceipt} {now : Int}
  {counters totals : List CounterSnapshot}

/-- Two maps of the same size with the credentials of the one in the other have the same credentials. -/
theorem perm_ids_iff (htotals : (ids totals).Nodup) :
    ((counters.length == totals.length) = true ∧
      (totals.all fun total => counters.any (·.credentialID == total.credentialID)) = true) ↔
    (ids counters).Perm (ids totals) := by
  have hall : (totals.all fun total => counters.any (·.credentialID == total.credentialID)) = true ↔
      ids totals ⊆ ids counters := by
    rw [List.all_eq_true]
    simp only [any_id_iff]
    exact (List.forall_mem_map (f := CounterSnapshot.credentialID) (P := (· ∈ ids counters))).symm
  have hlength : (counters.length == totals.length) = true ↔ (ids counters).length = (ids totals).length := by
    rw [beq_iff_eq, ids, ids, List.length_map, List.length_map]
  rw [hall, hlength]
  constructor
  · rintro ⟨hsize, hsubset⟩
    exact ((List.subperm_of_subset htotals hsubset).perm_of_length_le hsize.le).symm
  · intro hperm
    exact ⟨hperm.length_eq, hperm.symm.subset⟩

theorem advance_iff : advancePilotCounters env previous receipt now = .ok next ↔
    Advance env previous receipt now next := by
  have hprocess_iff : (isZero previous.startedAt || isSameProcess previous receipt ||
      decide (previous.sampledAt < receipt.startedAt)) = true ↔ isZero previous.startedAt = true ∨
        isSameProcess previous receipt = true ∨ previous.sampledAt < receipt.startedAt := by
    rw [Bool.or_eq_true, Bool.or_eq_true, decide_eq_true_eq, or_assoc]
  rw [advancePilotCounters, require_bind_eq_ok_iff, fetch_counterMap_iff, require_bind_eq_ok_iff,
    fetch_counterMap_iff, require_bind_eq_ok_iff, require_bind_eq_ok_iff, fetch_counterMap_iff,
    require_bind_eq_ok_iff, require_bind_eq_ok_iff]
  simp only [bind_eq_ok_iff, pure_eq_ok_iff]
  constructor
  · rintro ⟨hscope, htotals, hnonempty, hcounters, hlength, hall, hraw, hseen, hprocess, totals, hmap, quota, hquota,
      rfl⟩
    refine ⟨hscope, htotals, bne_iff_ne.1 hnonempty, hcounters, ?_, hraw, hseen, ?_, hmap, hquota, rfl⟩
    · exact (perm_ids_iff htotals.distinct).1 ⟨hlength, hall⟩
    · exact hprocess_iff.1 hprocess
  · rintro ⟨hscope, htotals, hnonempty, hcounters, hperm, hraw, hseen, hprocess, hmap, hquota, hnext⟩
    obtain ⟨hlength, hall⟩ := (perm_ids_iff htotals.distinct).2 hperm
    exact ⟨hscope, htotals, bne_iff_ne.2 hnonempty, hcounters, hlength, hall, hraw, hseen, hprocess_iff.2 hprocess,
      next.totals, hmap, next.quota, hquota, hnext.symm⟩

namespace Advance

variable (h : Advance env previous receipt now next) {id : String}
include h

theorem startedAt_eq : next.startedAt = receipt.startedAt := by rw [h.checkpoint]

theorem sampledAt_eq : next.sampledAt = receipt.sampledAt := by rw [h.checkpoint]

theorem raw_eq : next.raw = receipt.counters := by rw [h.checkpoint]

theorem seen_first (hfirst : isZero previous.startedAt = true) : previous.raw = [] := by
  have hseen := h.seen
  rw [if_pos hfirst, Bool.and_eq_true, beq_iff_eq] at hseen
  exact hseen.2

theorem seen_before (hfirst : isZero previous.startedAt = false) :
    previous.startedAt ≤ previous.sampledAt ∧ previous.startedAt ≤ receipt.startedAt ∧
      ∀ total ∈ previous.totals, total.credentialID ∈ ids previous.raw ∧
        (counterOf previous.raw total.credentialID).upBytes ≤ total.upBytes ∧
        (counterOf previous.raw total.credentialID).downBytes ≤ total.downBytes := by
  have hseen := h.seen
  rw [hfirst, if_neg Bool.false_ne_true, continues] at hseen
  simp only [Bool.and_eq_true, decide_eq_true_eq, List.all_eq_true, any_id_iff] at hseen
  obtain ⟨⟨⟨⟨⟨-, hsampled⟩, hstarted⟩, -⟩, -⟩, hall⟩ := hseen
  exact ⟨hsampled, hstarted, fun total htotal => ⟨(hall total htotal).1.1, (hall total htotal).1.2, (hall total htotal).2⟩⟩

/-- Where a process goes on, its last counters are known and not above the totals. -/
theorem last_bounds (hid : id ∈ ids previous.totals) :
    0 ≤ (last (isSameProcess previous receipt) previous.raw id).upBytes ∧
      0 ≤ (last (isSameProcess previous receipt) previous.raw id).downBytes ∧
      (last (isSameProcess previous receipt) previous.raw id).upBytes ≤ (counterOf previous.totals id).upBytes ∧
      (last (isSameProcess previous receipt) previous.raw id).downBytes ≤ (counterOf previous.totals id).downBytes := by
  obtain ⟨hmem, hcredential⟩ := counterOf_mem hid
  have htotal := (h.totals.valid _ hmem).2
  cases hsame : isSameProcess previous receipt with
  | false => exact ⟨Int64.le_refl 0, Int64.le_refl 0, htotal⟩
  | true =>
      rw [isSameProcess, Bool.and_eq_true, Bool.not_eq_true'] at hsame
      obtain ⟨hknown, hup, hdown⟩ := (h.seen_before hsame.1).2.2 _ hmem
      rw [hcredential] at hknown hup hdown
      have hraw := (h.raw.valid _ (counterOf_mem hknown).1).2
      exact ⟨hraw.1, hraw.2, hup, hdown⟩

theorem ids_next : ids next.totals = ids receipt.counters := by
  have hkeys : ids next.totals = receipt.counters.map fun incoming =>
      (counterOf previous.totals incoming.credentialID).credentialID :=
    map_of_mapM_ok h.advanced fun _ _ hadvance => credentialID_advanceCounter hadvance
  rw [hkeys]
  refine List.map_congr_left fun incoming hincoming => ?_
  exact (counterOf_mem (h.credentials.subset (List.mem_map_of_mem hincoming))).2

/-- The totals of a credential grow by what its process has counted since it was last seen. -/
theorem total_eq (hid : id ∈ ids previous.totals) :
    (last (isSameProcess previous receipt) previous.raw id).upBytes.toInt ≤
        (counterOf receipt.counters id).upBytes.toInt ∧
      (last (isSameProcess previous receipt) previous.raw id).downBytes.toInt ≤
        (counterOf receipt.counters id).downBytes.toInt ∧
      (counterOf next.totals id).upBytes.toInt = (counterOf previous.totals id).upBytes.toInt +
        ((counterOf receipt.counters id).upBytes.toInt -
          (last (isSameProcess previous receipt) previous.raw id).upBytes.toInt) ∧
      (counterOf next.totals id).downBytes.toInt = (counterOf previous.totals id).downBytes.toInt +
        ((counterOf receipt.counters id).downBytes.toInt -
          (last (isSameProcess previous receipt) previous.raw id).downBytes.toInt) := by
  obtain ⟨hincoming, hcredential⟩ := counterOf_mem (h.credentials.mem_iff.2 hid)
  obtain ⟨total, htotal, hadvance⟩ := exists_of_mapM_ok h.advanced hincoming
  have hbounds := h.last_bounds hid
  have hprevious := (h.totals.valid _ (counterOf_mem hid).1).2
  have htotalID : total.credentialID = id := by
    rw [credentialID_advanceCounter hadvance, hcredential]
    exact (counterOf_mem hid).2
  have hnext : counterOf next.totals id = total := by
    rw [← htotalID]
    exact counterOf_of_mem (h.ids_next ▸ h.counters.distinct) htotal
  have hok := advanceCounter_ok hadvance (by rw [hcredential]; exact ⟨hbounds.1, hbounds.2.1⟩)
    (by rw [hcredential]; exact hprevious) (h.counters.valid _ hincoming).2
  rwa [hcredential, ← hnext] at hok

end Advance

end Receipt

/-! ## Whole runs -/

/-- A receipt and the time it is held against. -/
abbrev Delivery := PilotReceipt × Int

def step (env : PilotEnv) (d : Delivery) (c : PilotCounters) : Except String PilotCounters :=
  advancePilotCounters env c d.1 d.2

def Delivery.upBytes (id : String) (d : Delivery) : Int := (counterOf d.1.counters id).upBytes.toInt

def Delivery.downBytes (id : String) (d : Delivery) : Int := (counterOf d.1.counters id).downBytes.toInt

/-- When the process of a receipt was started, which tells it from the others. -/
def Delivery.epoch (d : Delivery) : Int := d.1.startedAt

/-- A checkpoint against the one it came from and the receipts it has accepted, the newest first. -/
structure Accounted (c₀ c : PilotCounters) (accepted : List Delivery) : Prop where
  credentials : (ids c.totals).Perm (ids c₀.totals)
  up : ∀ id ∈ ids c₀.totals, (counterOf c.totals id).upBytes.toInt =
    (counterOf c₀.totals id).upBytes.toInt + Epochs.total Delivery.epoch (Delivery.upBytes id) accepted
  down : ∀ id ∈ ids c₀.totals, (counterOf c.totals id).downBytes.toInt =
    (counterOf c₀.totals id).downBytes.toInt + Epochs.total Delivery.epoch (Delivery.downBytes id) accepted
  /-- The counters of the last process are part of the totals. -/
  raw : accepted ≠ [] → ∀ id ∈ ids c₀.totals,
    0 ≤ (counterOf c.raw id).upBytes.toInt ∧ 0 ≤ (counterOf c.raw id).downBytes.toInt ∧
      (counterOf c.raw id).upBytes.toInt ≤ (counterOf c.totals id).upBytes.toInt ∧
      (counterOf c.raw id).downBytes.toInt ≤ (counterOf c.totals id).downBytes.toInt

/-- What is kept beside the account: the checkpoint has seen the last receipt, and no process was started later. -/
structure Tracked (c₀ c : PilotCounters) (accepted : List Delivery) : Prop extends Accounted c₀ c accepted where
  start : accepted = [] → c = c₀
  last : ∀ d ∈ accepted.head?, c.startedAt = d.1.startedAt ∧ c.raw = d.1.counters ∧ c.raw ≠ []
  order : ∀ d ∈ accepted, d.1.startedAt ≤ c.startedAt

section Runs

variable {env : PilotEnv} {c₀ c c' : PilotCounters} {d : Delivery} {accepted : List Delivery} {id : String}

theorem tracked_start : Tracked c₀ c₀ [] where
  credentials := List.Perm.refl _
  up _ _ := (add_zero _).symm
  down _ _ := (add_zero _).symm
  raw h := absurd rfl h
  start _ := rfl
  last _ hd := by cases hd
  order _ hd := by cases hd

/-- What the checkpoint takes for the last counter of a process is the last one it has accepted. -/
theorem lastIn_eq (id : String) (value : String → Delivery → Int) (field : CounterSnapshot → Int64)
    (hvalue : ∀ d id, value id d = (field (counterOf d.1.counters id)).toInt) (hfield : field ⟨"", 0, 0⟩ = 0)
    (hzero : isZero c₀.startedAt = true) (htracked : Tracked c₀ c accepted) (h : Advance env c d.1 d.2 c') :
    Epochs.lastIn Delivery.epoch (value id) d.epoch accepted =
      (field (last (isSameProcess c d.1) c.raw id)).toInt := by
  cases hfirst : isZero c.startedAt with
  | true =>
      -- only a checkpoint that has accepted nothing has no counters
      have hnone : accepted = [] := by
        cases haccepted : accepted with
        | nil => rfl
        | cons head rest => exact absurd (h.seen_first hfirst) (htracked.last head (by rw [haccepted]; rfl)).2.2
      rw [hnone, last, isSameProcess, hfirst, Bool.not_true, Bool.false_and, if_neg Bool.false_ne_true, hfield]
      rfl
  | false =>
      obtain ⟨hsampled, -⟩ := h.seen_before hfirst
      cases haccepted : accepted with
      | nil =>
          rw [htracked.start haccepted, hzero] at hfirst
          cases hfirst
      | cons head rest =>
          obtain ⟨hstarted, hraw, -⟩ := htracked.last head (by rw [haccepted]; rfl)
          cases hsame : isSameProcess c d.1 with
          | true =>
              rw [isSameProcess, Bool.and_eq_true, beq_iff_eq] at hsame
              have hepoch : d.epoch = Delivery.epoch head := hsame.2.trans hstarted
              rw [hepoch, Epochs.lastIn_cons_self, hvalue, last, if_pos rfl, hraw]
          | false =>
              -- the new process was started after the last sample, so after every other one
              have hlater : c.sampledAt < d.1.startedAt := by
                rcases h.process with hzero' | hsame' | hlater
                · rw [hfirst] at hzero'
                  cases hzero'
                · rw [hsame] at hsame'
                  cases hsame'
                · exact hlater
              have hnew : ∀ d' ∈ head :: rest, Delivery.epoch d' ≠ d.epoch := by
                intro d' hd' heq
                have hle := htracked.order d' (haccepted ▸ hd')
                have heq' : d'.1.startedAt = d.1.startedAt := heq
                omega
              rw [Epochs.lastIn_of_notMem hnew, last, if_neg Bool.false_ne_true, hfield]
              rfl

theorem tracked_step (hzero : isZero c₀.startedAt = true) (htracked : Tracked c₀ c accepted)
    (h : Advance env c d.1 d.2 c') : Tracked c₀ c' (d :: accepted) := by
  have hperm : (ids c'.totals).Perm (ids c₀.totals) := by
    rw [h.ids_next]
    exact h.credentials.trans htracked.credentials
  have hcounters : c'.raw ≠ [] := by
    rw [h.raw_eq]
    intro hnil
    have hids := h.credentials.length_eq
    rw [hnil, ids, ids, List.length_map, List.length_map, List.length_nil] at hids
    exact h.nonempty (List.eq_nil_of_length_eq_zero hids.symm)
  have hid : ∀ id ∈ ids c₀.totals, id ∈ ids c.totals := fun id hid => htracked.credentials.mem_iff.2 hid
  refine ⟨⟨hperm, ?_, ?_, ?_⟩, fun hnil => absurd hnil (List.cons_ne_nil _ _), ?_, ?_⟩
  · intro id hmem
    have hlast := lastIn_eq id Delivery.upBytes CounterSnapshot.upBytes (fun _ _ => rfl) rfl hzero htracked h
    rw [Epochs.total_cons, hlast, (h.total_eq (hid id hmem)).2.2.1, htracked.up id hmem, Delivery.upBytes]
    omega
  · intro id hmem
    have hlast := lastIn_eq id Delivery.downBytes CounterSnapshot.downBytes (fun _ _ => rfl) rfl hzero htracked h
    rw [Epochs.total_cons, hlast, (h.total_eq (hid id hmem)).2.2.2, htracked.down id hmem, Delivery.downBytes]
    omega
  · intro _ id hmem
    obtain ⟨-, -, hup, hdown⟩ := h.total_eq (hid id hmem)
    obtain ⟨-, -, hlastUp, hlastDown⟩ := h.last_bounds (hid id hmem)
    have hvalid := (h.counters.valid _ (counterOf_mem (h.credentials.mem_iff.2 (hid id hmem))).1).2
    have hupLe := Int64.le_iff_toInt_le.1 hlastUp
    have hdownLe := Int64.le_iff_toInt_le.1 hlastDown
    rw [h.raw_eq]
    exact ⟨toInt_nonneg hvalid.1, toInt_nonneg hvalid.2, by omega, by omega⟩
  · intro d' hd'
    obtain rfl : d = d' := Option.some.inj hd'
    exact ⟨h.startedAt_eq, h.raw_eq, hcounters⟩
  · intro d' hd'
    rw [h.startedAt_eq]
    rcases List.mem_cons.1 hd' with rfl | hold
    · exact le_rfl
    · have hle := htracked.order d' hold
      cases hfirst : isZero c.startedAt with
      | true =>
          cases haccepted : accepted with
          | nil =>
              rw [haccepted] at hold
              cases hold
          | cons head rest => exact absurd (h.seen_first hfirst) (htracked.last head (by rw [haccepted]; rfl)).2.2
      | false => exact hle.trans (h.seen_before hfirst).2.1

theorem tracked_run (hzero : isZero c₀.startedAt = true) (ops : List Delivery) :
    Tracked c₀ (Run.run (step env) ops c₀) (Run.successes (step env) ops c₀).reverse := by
  have hrun := @Run.history_induction _ _ _ (step env) c₀ ops (fun accepted c => Tracked c₀ c accepted)
    (fun d accepted c c' htracked hstep => tracked_step hzero htracked (advance_iff.1 hstep)) [] tracked_start
  rwa [List.append_nil] at hrun

/-- Totals do not shrink, whatever is delivered. -/
theorem totals_mono (ops : List Delivery) :
    (ids (Run.run (step env) ops c).totals).Perm (ids c.totals) ∧ ∀ id ∈ ids c.totals,
      (counterOf c.totals id).upBytes.toInt ≤ (counterOf (Run.run (step env) ops c).totals id).upBytes.toInt ∧
      (counterOf c.totals id).downBytes.toInt ≤ (counterOf (Run.run (step env) ops c).totals id).downBytes.toInt := by
  refine @Run.run_induction _ _ _ (step env) c ops
    (fun c' => (ids c'.totals).Perm (ids c.totals) ∧ ∀ id ∈ ids c.totals,
      (counterOf c.totals id).upBytes.toInt ≤ (counterOf c'.totals id).upBytes.toInt ∧
        (counterOf c.totals id).downBytes.toInt ≤ (counterOf c'.totals id).downBytes.toInt)
    ?_ ⟨List.Perm.refl _, fun _ _ => ⟨le_rfl, le_rfl⟩⟩
  rintro d c₁ c₂ ⟨hperm, hle⟩ hstep
  have h := advance_iff.1 hstep
  refine ⟨(h.ids_next ▸ h.credentials).trans hperm, fun id hid => ?_⟩
  obtain ⟨hupLast, hdownLast, hup, hdown⟩ := h.total_eq (hperm.mem_iff.2 hid)
  have := hle id hid
  omega

/-- Whatever receipts are delivered to a checkpoint that has seen none, and however often: its totals are those it
started with and, for each process of the worker, the last counter that was accepted of it. -/
theorem pilot_counts_every_byte_once (hzero : isZero c₀.startedAt = true) (before after : List Delivery) :
    Accounted c₀ (Run.run (step env) (before ++ after) c₀) (Run.successes (step env) (before ++ after) c₀).reverse ∧
      ∀ id ∈ ids c₀.totals,
        (counterOf (Run.run (step env) before c₀).totals id).upBytes.toInt ≤
            (counterOf (Run.run (step env) (before ++ after) c₀).totals id).upBytes.toInt ∧
          (counterOf (Run.run (step env) before c₀).totals id).downBytes.toInt ≤
            (counterOf (Run.run (step env) (before ++ after) c₀).totals id).downBytes.toInt := by
  refine ⟨(tracked_run hzero _).toAccounted, fun id hid => ?_⟩
  rw [Run.run_append]
  have hmem : id ∈ ids (Run.run (step env) before c₀).totals := (tracked_run hzero before).credentials.mem_iff.2 hid
  exact (totals_mono after).2 id hmem

end Runs

/-! ## Delivering a receipt again -/

section Again

variable {env : PilotEnv} {previous next : PilotCounters} {receipt : PilotReceipt} {now later : Int}
  {totals : List CounterSnapshot}

theorem addGrowth_self {c : CounterSnapshot} (hdistinct : (ids totals).Nodup) (hc : c ∈ totals) :
    addGrowth totals 0 c = .ok 0 := by
  have hself := counterOf_of_mem hdistinct hc
  rw [addGrowth, hself]
  simp only [Int64.sub_self]
  rfl

/-- Totals that stay have grown by nothing. -/
theorem grownBytes_self (hdistinct : (ids totals).Nodup) : grownBytes totals totals = .ok 0 := by
  have hloop : ∀ rest ⊆ totals, rest.foldlM (addGrowth totals) 0 = .ok 0 := by
    intro rest hrest
    induction rest with
    | nil => rfl
    | cons c rest ih =>
        rw [List.cons_subset] at hrest
        rw [List.foldlM_cons, addGrowth_self hdistinct hrest.1]
        exact ih hrest.2
  exact hloop totals (List.Subset.refl _)

theorem zero_le_max_sub {a : Int64} (h : 0 ≤ a) : 0 ≤ Int64.maxValue - a := by
  have hmax : a ≤ Int64.maxValue := Int64.le_iff_toInt_le.2 (by
    have := a.toInt_lt
    rw [Int64.toInt_maxValue]
    omega)
  refine Int64.le_iff_toInt_le.2 ?_
  rw [toInt_sub_of_le h hmax, Int64.toInt_zero]
  have := Int64.le_iff_toInt_le.1 hmax
  omega

theorem advanceQuota_again {p q : PilotQuota} {old next : List CounterSnapshot} {sampledAt : Int}
    (h : advanceQuota env p q old next sampledAt now = .ok ()) (hlater : now ≤ later)
    (hdistinct : (ids totals).Nodup) : advanceQuota env q q totals totals sampledAt later = .ok () := by
  rw [advanceQuota, require_bind_eq_ok_iff] at h
  have hq := h.1
  simp only [Bool.and_eq_true, decide_eq_true_eq] at hq
  obtain ⟨⟨⟨⟨-, hused⟩, -⟩, -⟩, hreset⟩ := hq
  rw [advanceQuota, require_bind_eq_ok_iff, if_pos (beq_self_eq_true q.lastResetAt), bind_eq_ok_iff]
  refine ⟨?_, 0, grownBytes_self hdistinct, ?_⟩
  · simp [hused, hreset.trans hlater]
  · dsimp only
    rw [require_eq_ok_iff, ite_self, Int64.add_zero, beq_self_eq_true, decide_eq_true (zero_le_max_sub hused)]
    rfl

theorem nextQuota_again {p q r : Option PilotQuota} {old next : List CounterSnapshot} {sampledAt : Int}
    (h : nextQuota env p q old next sampledAt now = .ok r) (hlater : now ≤ later)
    (hdistinct : (ids totals).Nodup) : r = q ∧ nextQuota env q q totals totals sampledAt later = .ok q := by
  cases p with
  | none =>
      cases q with
      | none => exact ⟨(Except.ok.inj h).symm, rfl⟩
      | some q => cases h
  | some p =>
      cases q with
      | none => cases h
      | some q =>
          rw [nextQuota, bind_eq_ok_iff] at h
          obtain ⟨_, hadvance, hr⟩ := h
          refine ⟨(pure_eq_ok_iff.1 hr).symm, ?_⟩
          rw [nextQuota, bind_eq_ok_iff]
          exact ⟨(), advanceQuota_again hadvance hlater hdistinct, rfl⟩

/-- A counter that has not moved since the last receipt of its process leaves its total. -/
theorem advanceCounter_again {raw : List CounterSnapshot} {c total : CounterSnapshot}
    (hraw : counterOf raw c.credentialID = c) (htotal : counterOf totals c.credentialID = total)
    (hup : 0 ≤ total.upBytes) (hdown : 0 ≤ total.downBytes) :
    advanceCounter raw totals true true c = .ok total := by
  rw [advanceCounter, hraw, htotal]
  simp only [if_true, Int64.sub_self, Int64.add_zero, Bool.not_true, Bool.false_or, Bool.and_self, Int64.le_refl, decide_true,
    beq_self_eq_true, zero_le_max_sub hup, zero_le_max_sub hdown]
  rfl

theorem zeroTime_lt_startedAt (h : Advance env previous receipt now next) (hcutover : zeroTime < previous.cutoverAt) :
    isZero next.startedAt = false := by
  have hscope := h.scope
  simp only [inScope, Bool.and_eq_true, decide_eq_true_eq] at hscope
  obtain ⟨⟨⟨⟨-, hstarted⟩, -⟩, -⟩, -⟩ := hscope
  rw [h.startedAt_eq, isZero, beq_eq_false_iff_ne]
  omega

/-- The next checkpoint is one that `continues` accepts. -/
theorem validCounters_next (h : Advance env previous receipt now next) : ValidCounters env next.totals where
  distinct := h.ids_next ▸ h.counters.distinct
  valid := by
    intro total htotal
    have hid : total.credentialID ∈ ids receipt.counters := h.ids_next ▸ List.mem_map_of_mem htotal
    have hid' := h.credentials.mem_iff.1 hid
    obtain ⟨hmem, hcredential⟩ := counterOf_mem hid
    obtain ⟨hupLast, hdownLast, hup, hdown⟩ := h.total_eq hid'
    rw [counterOf_of_mem (h.ids_next ▸ h.counters.distinct) htotal] at hup hdown
    have hprevious := (h.totals.valid _ (counterOf_mem hid').1).2
    have hupNonneg := toInt_nonneg hprevious.1
    have hdownNonneg := toInt_nonneg hprevious.2
    refine ⟨hcredential ▸ (h.counters.valid _ hmem).1, Int64.le_iff_toInt_le.2 ?_, Int64.le_iff_toInt_le.2 ?_⟩
    · rw [Int64.toInt_zero]
      omega
    · rw [Int64.toInt_zero]
      omega

/-- The totals stand in the order of the receipt. -/
theorem totals_next (h : Advance env previous receipt now next) :
    next.totals = receipt.counters.map fun c => counterOf next.totals c.credentialID := by
  have hself : (ids next.totals).map (counterOf next.totals) = next.totals := by
    rw [ids, List.map_map]
    conv_rhs => rw [← List.map_id next.totals]
    exact List.map_congr_left fun total htotal => counterOf_of_mem (h.ids_next ▸ h.counters.distinct) htotal
  rw [h.ids_next, ids, List.map_map] at hself
  exact hself.symm

theorem raw_le_totals (h : Advance env previous receipt now next) : ∀ total ∈ next.totals,
    (counterOf next.raw total.credentialID).upBytes ≤ total.upBytes ∧
      (counterOf next.raw total.credentialID).downBytes ≤ total.downBytes := by
  intro total htotal
  have hid : total.credentialID ∈ ids previous.totals :=
    h.credentials.mem_iff.1 (h.ids_next ▸ List.mem_map_of_mem htotal)
  obtain ⟨-, -, hup, hdown⟩ := h.total_eq hid
  obtain ⟨-, -, hlastUp, hlastDown⟩ := h.last_bounds hid
  rw [counterOf_of_mem (h.ids_next ▸ h.counters.distinct) htotal] at hup hdown
  have hupLe := Int64.le_iff_toInt_le.1 hlastUp
  have hdownLe := Int64.le_iff_toInt_le.1 hlastDown
  rw [h.raw_eq]
  exact ⟨Int64.le_iff_toInt_le.2 (by omega), Int64.le_iff_toInt_le.2 (by omega)⟩

/-- A receipt that was accepted is accepted again as long as it is recent, and changes nothing. -/
theorem redelivery_changes_nothing (h : advancePilotCounters env previous receipt now = .ok next)
    (hcutover : zeroTime < previous.cutoverAt) (hlater : now ≤ later)
    (hrecent : later - receipt.sampledAt ≤ 30 * nanoseconds) :
    advancePilotCounters env next receipt later = .ok next := by
  have h := advance_iff.1 h
  have hnotZero := zeroTime_lt_startedAt h hcutover
  have htotals := validCounters_next h
  have hscope := h.scope
  simp only [inScope, Bool.and_eq_true, decide_eq_true_eq, beq_iff_eq] at hscope
  obtain ⟨⟨⟨⟨⟨⟨⟨⟨⟨⟨hentry, hconfig⟩, hsameEntry⟩, hsameConfig⟩, hcut⟩, hcutNow⟩, hready⟩, hcutStart⟩, hstartSample⟩,
    hsampleNow⟩, -⟩ := hscope
  have hfields : next.entryID = previous.entryID ∧ next.configSHA256 = previous.configSHA256 ∧
      next.cutoverAt = previous.cutoverAt := by
    rw [h.checkpoint]
    exact ⟨rfl, rfl, rfl⟩
  have hsame : isSameProcess next receipt = true := by
    rw [isSameProcess, hnotZero, h.startedAt_eq, beq_self_eq_true]
    rfl
  have hquota := nextQuota_again h.quota hlater htotals.distinct
  refine advance_iff.2 ⟨?_, htotals, ?_, h.counters, ?_, ?_, ?_, .inr (.inl hsame), ?_, ?_, ?_⟩
  · simp only [inScope, hfields.1, hfields.2.1, hfields.2.2, Bool.and_eq_true, decide_eq_true_eq, beq_iff_eq]
    exact ⟨⟨⟨⟨⟨⟨⟨⟨⟨⟨hentry, hconfig⟩, hsameEntry⟩, hsameConfig⟩, hcut⟩, hcutNow.trans hlater⟩, hready⟩, hcutStart⟩,
      hstartSample⟩, hsampleNow.trans hlater⟩, hrecent⟩
  · intro hnil
    have hlength := congrArg List.length h.ids_next
    rw [hnil, h.credentials.length_eq, ids, ids, List.length_map, List.length_map] at hlength
    exact h.nonempty (List.eq_nil_of_length_eq_zero hlength.symm)
  · rw [h.ids_next]
  · rw [h.raw_eq]
    exact h.counters
  · rw [hnotZero, if_neg Bool.false_ne_true, continues, h.startedAt_eq, h.sampledAt_eq, hfields.2.2]
    have hlength : next.raw.length = next.totals.length := by
      have hids := congrArg List.length h.ids_next
      rw [ids, ids, List.length_map, List.length_map] at hids
      rw [h.raw_eq, hids]
    simp only [Bool.and_eq_true, decide_eq_true_eq, beq_iff_eq, List.all_eq_true, any_id_iff]
    refine ⟨⟨⟨⟨⟨hcutStart, hstartSample⟩, le_rfl⟩, le_rfl⟩, hlength⟩, fun total htotal => ?_⟩
    refine ⟨⟨?_, (raw_le_totals h total htotal).1⟩, (raw_le_totals h total htotal).2⟩
    rw [h.raw_eq, ← h.ids_next]
    exact List.mem_map_of_mem htotal
  · rw [hsame, h.sampledAt_eq, beq_self_eq_true, mapM_eq_ok_iff, totals_next h, List.forall₂_map_right_iff,
      List.forall₂_same]
    intro c hc
    have hid : c.credentialID ∈ ids next.totals := h.ids_next ▸ List.mem_map_of_mem hc
    have hvalid := (htotals.valid _ (counterOf_mem hid).1).2
    rw [← totals_next h]
    refine advanceCounter_again ?_ rfl hvalid.1 hvalid.2
    rw [h.raw_eq]
    exact counterOf_of_mem h.counters.distinct hc
  · rw [hquota.1]
    exact hquota.1 ▸ hquota.2
  · rw [← h.startedAt_eq, ← h.sampledAt_eq, ← h.raw_eq]

end Again

/-! ## A worker that is started again -/

namespace RestartedWorker

def env : PilotEnv := ⟨fun _ => true, fun _ => true, fun _ => none⟩

/-- A checkpoint that has seen no receipt; the totals are those of the runtime before. -/
def start : PilotCounters where
  quota := none
  entryID := "entry"
  configSHA256 := "digest"
  cutoverAt := 100
  startedAt := zeroTime
  sampledAt := zeroTime
  raw := []
  totals := [⟨"a", 100, 200⟩, ⟨"b", 0, 0⟩]

def receipt (startedAt sampledAt : Int) (a b : Int64) : PilotReceipt :=
  ⟨none, "entry", "digest", startedAt, sampledAt, true, [⟨"b", b, 0⟩, ⟨"a", a, 7⟩]⟩

/-- Two receipts of one process, one of the next, and one of the first process that comes too late. -/
def deliveries : List Delivery :=
  [(receipt 110 120 3 1, 125), (receipt 110 130 5 1, 131), (receipt 140 150 2 4, 151), (receipt 110 160 9 9, 161)]

theorem restart_counted :
    (counterOf (Run.run (step env) (deliveries ++ []) start).totals "a").upBytes = 107 ∧
      Accounted start (Run.run (step env) (deliveries ++ []) start)
        (Run.successes (step env) (deliveries ++ []) start).reverse := by
  have hzero : isZero start.startedAt = true := by decide
  exact ⟨by decide +kernel, (pilot_counts_every_byte_once hzero deliveries []).1⟩

/-- The checkpoint after the first receipt. -/
def seen : PilotCounters :=
  { start with startedAt := 110, sampledAt := 120, raw := (receipt 110 120 3 1).counters
               totals := [⟨"b", 1, 0⟩, ⟨"a", 103, 207⟩] }

theorem first_receipt_again :
    advancePilotCounters env start (receipt 110 120 3 1) 125 = .ok seen ∧
      advancePilotCounters env seen (receipt 110 120 3 1) 126 = .ok seen := by
  have haccepted : advancePilotCounters env start (receipt 110 120 3 1) 125 = .ok seen := by decide +kernel
  exact ⟨haccepted, redelivery_changes_nothing haccepted (by decide) (by decide) (by decide)⟩

end RestartedWorker

end MeridianRuntime
end Vastora
