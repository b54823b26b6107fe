import Mathlib.Algebra.Order.BigOperators.Group.List
import Mathlib.Algebra.Order.Ring.Defs
import Mathlib.Tactic.Common

/-!
# PartialScore — bounds of a score whose parts are not all known

An item has a weight and a share of it between nothing and all, which may be unknown.  `lowSum` and `highSum`
are the sums of the least and the most that the items can contribute.  More evidence moves them towards each
other (`lowSum_mono`, `highSum_anti`).  `lowest` and `highest` are the extremes over a list of candidates.
-/

namespace Vastora
namespace Library
namespace PartialScore

variable {ι ρ K : Type}

/-! ## Shares -/

section Shares

variable [Zero K] [One K] [Preorder K] {s s' : Option K}

/-- What is known stays so. -/
def Completed (s s' : Option K) : Prop := ∀ v, s = some v → s' = some v

/-- A known share is between nothing and all. -/
def IsShare (s : Option K) : Prop := ∀ v ∈ s, 0 ≤ v ∧ v ≤ 1

theorem getD_le_getD [ZeroLEOneClass K] : s.getD 0 ≤ s.getD 1 := by
  cases s with
  | none => exact zero_le_one
  | some v => exact le_rfl

theorem getD_zero_mono (h : IsShare s') (hc : Completed s s') : s.getD 0 ≤ s'.getD 0 := by
  cases s with
  | some v => rw [hc v rfl]
  | none =>
      cases s' with
      | none => exact le_rfl
      | some v => exact (h v rfl).1

theorem getD_one_anti (h : IsShare s') (hc : Completed s s') : s'.getD 1 ≤ s.getD 1 := by
  cases s with
  | some v => rw [hc v rfl]
  | none =>
      cases s' with
      | none => exact le_rfl
      | some v => exact (h v rfl).2

end Shares

/-! ## Weighted items -/

section Sums

variable [Semiring K] {weight : ι → K} {share share' : ι → Option K} {items : List ι}

def lowSum (weight : ι → K) (share : ι → Option K) (items : List ι) : K :=
  (items.map fun i => weight i * (share i).getD 0).sum

def highSum (weight : ι → K) (share : ι → Option K) (items : List ι) : K :=
  (items.map fun i => weight i * (share i).getD 1).sum

/-- Nothing is left open when all shares are known. -/
theorem lowSum_eq_highSum (h : ∀ i ∈ items, (share i).isSome) :
    lowSum weight share items = highSum weight share items := by
  unfold lowSum highSum
  congr 1
  refine List.map_congr_left fun i hi => ?_
  obtain ⟨v, hv⟩ := Option.isSome_iff_exists.1 (h i hi)
  rw [hv]
  rfl

variable [PartialOrder K] [IsOrderedRing K]

theorem lowSum_le_highSum (hweight : ∀ i ∈ items, 0 ≤ weight i) :
    lowSum weight share items ≤ highSum weight share items :=
  List.sum_le_sum fun i hi => mul_le_mul_of_nonneg_left getD_le_getD (hweight i hi)

theorem lowSum_mono (hweight : ∀ i ∈ items, 0 ≤ weight i) (hshare : ∀ i ∈ items, IsShare (share' i))
    (hc : ∀ i ∈ items, Completed (share i) (share' i)) :
    lowSum weight share items ≤ lowSum weight share' items :=
  List.sum_le_sum fun i hi =>
    mul_le_mul_of_nonneg_left (getD_zero_mono (hshare i hi) (hc i hi)) (hweight i hi)

theorem highSum_anti (hweight : ∀ i ∈ items, 0 ≤ weight i) (hshare : ∀ i ∈ items, IsShare (share' i))
    (hc : ∀ i ∈ items, Completed (share i) (share' i)) :
    highSum weight share' items ≤ highSum weight share items :=
  List.sum_le_sum fun i hi =>
    mul_le_mul_of_nonneg_left (getD_one_anti (hshare i hi) (hc i hi)) (hweight i hi)

end Sums

/-! ## Candidates -/

section Candidates

variable [LinearOrder K] {f g : ρ → K} {start x : K} {rules rules' : List ρ}

/-- The least of a start value and the values of all candidates. -/
def lowest (start : K) (f : ρ → K) (rules : List ρ) : K := rules.foldl (fun lo rule => min lo (f rule)) start

/-- The greatest of a start value and the values of all candidates. -/
def highest (start : K) (f : ρ → K) (rules : List ρ) : K := rules.foldl (fun hi rule => max hi (f rule)) start

theorem le_lowest_iff : x ≤ lowest start f rules ↔ x ≤ start ∧ ∀ rule ∈ rules, x ≤ f rule := by
  induction rules generalizing start with
  | nil => simp [lowest]
  | cons rule rules ih =>
      have hstep : lowest start f (rule :: rules) = lowest (min start (f rule)) f rules := rfl
      rw [hstep, ih, le_min_iff, List.forall_mem_cons, and_assoc]

theorem highest_le_iff : highest start f rules ≤ x ↔ start ≤ x ∧ ∀ rule ∈ rules, f rule ≤ x := by
  induction rules generalizing start with
  | nil => simp [highest]
  | cons rule rules ih =>
      have hstep : highest start f (rule :: rules) = highest (max start (f rule)) f rules := rfl
      rw [hstep, ih, max_le_iff, List.forall_mem_cons, and_assoc]

theorem lowest_le {rule : ρ} (h : rule ∈ rules) : lowest start f rules ≤ f rule :=
  (le_lowest_iff.1 le_rfl).2 rule h

theorem le_highest {rule : ρ} (h : rule ∈ rules) : f rule ≤ highest start f rules :=
  (highest_le_iff.1 le_rfl).2 rule h

/-- Fewer candidates with greater values have a greater minimum. -/
theorem lowest_mono (hsubset : ∀ rule ∈ rules', rule ∈ rules) (h : ∀ rule ∈ rules', f rule ≤ g rule) :
    lowest start f rules ≤ lowest start g rules' :=
  le_lowest_iff.2 ⟨(le_lowest_iff.1 le_rfl).1, fun rule hrule =>
    (lowest_le (hsubset rule hrule)).trans (h rule hrule)⟩

/-- Fewer candidates with smaller values have a smaller maximum. -/
theorem highest_anti (hsubset : ∀ rule ∈ rules', rule ∈ rules) (h : ∀ rule ∈ rules', g rule ≤ f rule) :
    highest start g rules' ≤ highest start f rules :=
  highest_le_iff.2 ⟨(highest_le_iff.1 le_rfl).1, fun rule hrule =>
    (h rule hrule).trans (le_highest (hsubset rule hrule))⟩

end Candidates

end PartialScore
end Library
end Vastora
