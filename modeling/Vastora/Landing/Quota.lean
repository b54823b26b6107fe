import Mathlib.Algebra.Order.BigOperators.Group.List
import Mathlib.Data.List.Sort
import Vastora.Landing.Grants
import Vastora.Library.MachineInt

/-!
# Quota — one traffic ledger for all identities of an account

Every identity has a counter that only grows.  A reset moves its baseline up to the counter, and an
identity that is no longer active stays in the ledger.  `allocateQuota` adds up what all of them have used
and switches the active ones on or off.
-/

namespace Vastora
namespace Landing

open Library Library.Guard Library.MachineInt

structure QuotaMember where
  id : String
  baseline : Int64
  observed : Int64
  active : Bool
deriving DecidableEq, Repr

structure QuotaLimit where
  id : String
  total : Int64
  enabled : Bool
deriving DecidableEq, Repr

/-- What the loop of `AllocateQuota` accepts of a member: `previous` is the identity before it and `used`
what is added up so far. -/
def QuotaMember.accepted (m : QuotaMember) (previous : Option String) (used : Int64) : Bool :=
  validGrantID m.id && previous != some m.id && 0 ≤ m.baseline && m.baseline ≤ m.observed &&
    m.observed - m.baseline ≤ Int64.maxValue - used

def sumUsage (previous : Option String) (used : Int64) : List QuotaMember → Except String Int64
  | [] => .ok used
  | m :: rest => do
      require (m.accepted previous used) "landing: invalid shared traffic observation"
      sumUsage (some m.id) (used + (m.observed - m.baseline)) rest

/-- The limits of the members and the used bytes. -/
def allocateQuota (total : Int64) (enabled : Bool) (members : List QuotaMember) :
    Except String (List QuotaLimit × Int64) := do
  require (0 ≤ total && !members.isEmpty && members.length ≤ 513) "landing: invalid shared traffic plan"
  let ordered := members.insertionSort (·.id ≤ ·.id)
  let used ← sumUsage none 0 ordered
  let accountEnabled := enabled && (total == 0 || used < total)
  return (ordered.map fun m => ⟨m.id, 0, accountEnabled && m.active⟩, used)

def observeMember (counters : String → Option Int64) (m : QuotaMember) : Except String QuotaMember := do
  let value ← fetch (counters m.id) "landing: shared traffic counters changed or are incomplete"
  require (m.observed ≤ value) "landing: shared traffic counters changed or are incomplete"
  return { m with observed := value }

def observeQuota (members : List QuotaMember) (counters : String → Option Int64) :
    Except String (List QuotaMember) :=
  members.mapM (observeMember counters)

def QuotaMember.reset (m : QuotaMember) : QuotaMember := { m with baseline := m.observed }

def resetQuota (members : List QuotaMember) : List QuotaMember := members.map QuotaMember.reset

/-! ## The ledger -/

/-- A member that the ledger may hold. -/
structure QuotaMember.Valid (m : QuotaMember) : Prop where
  id : validGrantID m.id
  nonneg : 0 ≤ m.baseline
  le : m.baseline ≤ m.observed

/-- Different valid identities, each with a baseline up to its counter. -/
structure ValidLedger (members : List QuotaMember) : Prop where
  nodup : (members.map QuotaMember.id).Nodup
  valid : ∀ m ∈ members, m.Valid

/-- What a member has used since the last reset. -/
def QuotaMember.used (m : QuotaMember) : Int := m.observed.toInt - m.baseline.toInt

/-- What the account has used since the last reset. -/
def ledgerUsed (members : List QuotaMember) : Int := (members.map QuotaMember.used).sum

section Allocation

variable {m : QuotaMember} {members ordered : List QuotaMember} {previous : Option String}
  {used result total : Int64} {enabled : Bool} {limits : List QuotaLimit}

theorem QuotaMember.Valid.toInt_used (h : m.Valid) : (m.observed - m.baseline).toInt = m.used :=
  toInt_sub_of_le h.nonneg h.le

theorem QuotaMember.Valid.used_nonneg (h : m.Valid) : 0 ≤ m.used := by
  have hle := Int64.le_iff_toInt_le.1 h.le
  unfold QuotaMember.used
  omega

theorem accepted_iff : m.accepted previous used ↔ m.Valid ∧ previous ≠ some m.id ∧
    m.observed - m.baseline ≤ Int64.maxValue - used := by
  simp only [QuotaMember.accepted, Bool.and_eq_true, bne_iff_ne, decide_eq_true_eq]
  constructor
  · rintro ⟨⟨⟨⟨hid, hprevious⟩, hnonneg⟩, hle⟩, hroom⟩
    exact ⟨⟨hid, hnonneg, hle⟩, hprevious, hroom⟩
  · rintro ⟨⟨hid, hnonneg, hle⟩, hprevious, hroom⟩
    exact ⟨⟨⟨⟨hid, hprevious⟩, hnonneg⟩, hle⟩, hroom⟩

/-- The loop adds without overflow, and has checked every member it has added. -/
theorem sumUsage_ok (hused : 0 ≤ used) (h : sumUsage previous used ordered = .ok result) :
    result.toInt = used.toInt + ledgerUsed ordered ∧ 0 ≤ result ∧ (∀ m ∈ ordered, m.Valid) ∧
      (previous.toList ++ ordered.map QuotaMember.id).IsChain (· ≠ ·) := by
  induction ordered generalizing previous used with
  | nil =>
      obtain rfl := Except.ok.inj h
      refine ⟨by simp [ledgerUsed], hused, by simp, ?_⟩
      cases previous <;> simp
  | cons m rest ih =>
      obtain ⟨haccepted, h⟩ := require_bind_eq_ok_iff.1 h
      obtain ⟨hvalid, hprevious, hroom⟩ := accepted_iff.1 haccepted
      -- The guard leaves room for the difference.
      have hpart : 0 ≤ m.observed - m.baseline := by
        rw [Int64.le_iff_toInt_le, hvalid.toInt_used]
        exact hvalid.used_nonneg
      have hsum : (used + (m.observed - m.baseline)).toInt = used.toInt + m.used := by
        rw [toInt_add_of_le hused hpart hroom, hvalid.toInt_used]
      have hnext : 0 ≤ used + (m.observed - m.baseline) := by
        rw [Int64.le_iff_toInt_le, hsum]
        have := hvalid.used_nonneg
        have := toInt_nonneg hused
        change (0 : Int) ≤ _
        omega
      obtain ⟨hresult, hnonneg, hall, hchain⟩ := ih hnext h
      refine ⟨?_, hnonneg, List.forall_mem_cons.2 ⟨hvalid, hall⟩, ?_⟩
      · rw [hresult, hsum, ledgerUsed, ledgerUsed, List.map_cons, List.sum_cons]
        omega
      · cases previous with
        | none => exact hchain
        | some id =>
            refine List.isChain_cons_cons.2 ⟨?_, hchain⟩
            exact fun heq => hprevious (congrArg some heq)

theorem ledgerUsed_perm {members' : List QuotaMember} (h : members.Perm members') :
    ledgerUsed members = ledgerUsed members' := (h.map QuotaMember.used).sum_eq

/-- Neighbours that are ordered and different are all different. -/
theorem nodup_of_sorted {ids : List String} (hsorted : ids.Pairwise (· ≤ ·))
    (hchain : ids.IsChain (· ≠ ·)) : ids.Nodup := by
  induction ids with
  | nil => exact List.nodup_nil
  | cons a rest ih =>
      obtain ⟨hhead, htail⟩ := List.pairwise_cons.1 hsorted
      cases rest with
      | nil => exact List.nodup_singleton a
      | cons b rest =>
          obtain ⟨hne, hchain⟩ := List.isChain_cons_cons.1 hchain
          refine List.nodup_cons.2 ⟨?_, ih htail hchain⟩
          intro hmem
          -- A repetition further on would be at most its right neighbour.
          have hba : b ≤ a := by
            rcases List.mem_cons.1 hmem with rfl | hmem
            · exact le_refl a
            · exact (List.pairwise_cons.1 htail).1 a hmem
          exact hne (le_antisymm (hhead b (by simp)) hba)

/-- A ledger that can be allocated is valid, and its use is added up exactly. -/
theorem allocateQuota_ok (h : allocateQuota total enabled members = .ok (limits, used)) :
    ValidLedger members ∧ used.toInt = ledgerUsed members ∧
      ∀ l ∈ limits, l.enabled → (∃ m ∈ members, m.id = l.id ∧ m.active) ∧ enabled ∧
        (total = 0 ∨ used < total) := by
  simp only [allocateQuota, bind_eq_ok_iff, require_eq_ok_iff, exists_const, pure_eq_ok_iff,
    Prod.mk.injEq] at h
  obtain ⟨-, result, hsum, rfl, rfl⟩ := h
  obtain ⟨hresult, -, hvalid, hchain⟩ := sumUsage_ok (Int64.le_refl 0) hsum
  have hperm := List.perm_insertionSort (fun a b : QuotaMember => a.id ≤ b.id) members
  refine ⟨⟨?_, ?_⟩, ?_, ?_⟩
  · refine (hperm.map QuotaMember.id).nodup_iff.1 (nodup_of_sorted ?_ hchain)
    exact List.pairwise_map.2 (List.pairwise_insertionSort _ members)
  · exact fun m hm => hvalid m (hperm.mem_iff.2 hm)
  · rw [hresult, ledgerUsed_perm hperm]
    change 0 + ledgerUsed members = ledgerUsed members
    omega
  · intro l hl henabled
    obtain ⟨m, hm, rfl⟩ := List.mem_map.1 hl
    simp only [Bool.and_eq_true, Bool.or_eq_true, beq_iff_eq, decide_eq_true_eq] at henabled
    obtain ⟨⟨henabled, htotal⟩, hactive⟩ := henabled
    exact ⟨⟨m, hperm.mem_iff.1 hm, rfl, hactive⟩, henabled, htotal⟩

end Allocation

/-! ## Observations and resets -/

section Changes

variable {m m' : QuotaMember} {members members' : List QuotaMember} {counters : String → Option Int64}

theorem observeMember_ok (h : observeMember counters m = .ok m') :
    ∃ value, counters m.id = some value ∧ m.observed ≤ value ∧ m' = { m with observed := value } := by
  simp only [observeMember, bind_eq_ok_iff, fetch_eq_ok_iff, require_eq_ok_iff, exists_const,
    pure_eq_ok_iff, decide_eq_true_eq] at h
  obtain ⟨value, hvalue, hle, rfl⟩ := h
  exact ⟨value, hvalue, hle, rfl⟩

theorem ids_observeQuota (h : observeQuota members counters = .ok members') :
    members'.map QuotaMember.id = members.map QuotaMember.id := by
  refine map_of_mapM_ok h fun m m' hm => ?_
  obtain ⟨value, -, -, rfl⟩ := observeMember_ok hm
  rfl

theorem ValidLedger.observeQuota (hvalid : ValidLedger members)
    (h : observeQuota members counters = .ok members') : ValidLedger members' := by
  refine ⟨?_, ?_⟩
  · rw [ids_observeQuota h]
    exact hvalid.nodup
  · intro m' hm'
    obtain ⟨m, hm, hok⟩ := mem_of_mapM_ok h hm'
    obtain ⟨value, -, hle, rfl⟩ := observeMember_ok hok
    have hold := hvalid.valid m hm
    exact ⟨hold.id, hold.nonneg, Int64.le_trans hold.le hle⟩

/-- Counters only grow. -/
theorem ledgerUsed_observeQuota (h : observeQuota members counters = .ok members') :
    ledgerUsed members ≤ ledgerUsed members' := by
  unfold ledgerUsed
  have hrows := mapM_eq_ok_iff.1 h
  induction hrows with
  | nil => simp
  | @cons m m' rest rest' hm hrest ih =>
      obtain ⟨value, -, hle, rfl⟩ := observeMember_ok hm
      have hrest' := ih (mapM_eq_ok_iff.2 hrest)
      have hgrow := Int64.le_iff_toInt_le.1 hle
      have hhead : m.used ≤ QuotaMember.used { m with observed := value } := by
        change m.observed.toInt - m.baseline.toInt ≤ value.toInt - m.baseline.toInt
        omega
      rw [List.map_cons, List.sum_cons, List.map_cons, List.sum_cons]
      omega

theorem ids_resetQuota : (resetQuota members).map QuotaMember.id = members.map QuotaMember.id := by
  unfold resetQuota
  rw [List.map_map]
  rfl

theorem ValidLedger.resetQuota (hvalid : ValidLedger members) : ValidLedger (resetQuota members) := by
  refine ⟨?_, ?_⟩
  · rw [ids_resetQuota]
    exact hvalid.nodup
  · intro m' hm'
    obtain ⟨m, hm, rfl⟩ := List.mem_map.1 hm'
    have hold := hvalid.valid m hm
    exact ⟨hold.id, Int64.le_trans hold.nonneg hold.le, Int64.le_refl _⟩

end Changes

end Landing
end Vastora
