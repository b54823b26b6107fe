import Mathlib.Algebra.BigOperators.Group.Finset.Basic
import Mathlib.Tactic.Ring

/-!
# Epochs — counters that start again

A counter of a process only grows while the process runs and is zero again after a restart.  What it
has counted in all is the sum, over the epochs of the process, of the last value sampled in each.
Samples are listed newest first; `total_cons` says what one more sample adds.
-/

namespace Vastora
namespace Library
namespace Epochs

variable {α κ : Type*} [DecidableEq κ] (epoch : α → κ) (value : α → Int)

/-- The last value sampled in an epoch; zero before the first sample. -/
def lastIn (e : κ) (samples : List α) : Int :=
  ((samples.find? fun s => epoch s = e).map value).getD 0

/-- The sum of the last values of all epochs. -/
def total (samples : List α) : Int :=
  ∑ e ∈ (samples.map epoch).toFinset, lastIn epoch value e samples

variable {epoch value} {s : α} {samples : List α} {e : κ}

@[simp]

theorem lastIn_cons_self : lastIn epoch value (epoch s) (s :: samples) = value s := by
  simp [lastIn]

theorem lastIn_cons_of_ne (h : epoch s ≠ e) :
    lastIn epoch value e (s :: samples) = lastIn epoch value e samples := by
  simp [lastIn, h]

/-- Nothing was sampled in an epoch that no sample has. -/
theorem lastIn_of_notMem (h : ∀ s ∈ samples, epoch s ≠ e) : lastIn epoch value e samples = 0 := by
  have hnone : samples.find? (fun s => epoch s = e) = none :=
    List.find?_eq_none.2 fun s hs => by simpa using h s hs
  rw [lastIn, hnone]
  rfl

/-- A sample replaces the last value of its own epoch. -/
theorem total_cons : total epoch value (s :: samples) =
    total epoch value samples + (value s - lastIn epoch value (epoch s) samples) := by
  -- The other epochs keep their last values.
  have hothers : ∑ e ∈ (samples.map epoch).toFinset.erase (epoch s),
        lastIn epoch value e (s :: samples) =
      ∑ e ∈ (samples.map epoch).toFinset.erase (epoch s), lastIn epoch value e samples :=
    Finset.sum_congr rfl fun e he => lastIn_cons_of_ne (Finset.ne_of_mem_erase he).symm
  have hinsert : ((s :: samples).map epoch).toFinset =
      insert (epoch s) ((samples.map epoch).toFinset.erase (epoch s)) := by
    ext e
    by_cases he : e = epoch s <;> simp [he]
  have hold : total epoch value samples = lastIn epoch value (epoch s) samples +
      ∑ e ∈ (samples.map epoch).toFinset.erase (epoch s), lastIn epoch value e samples := by
    by_cases hmem : epoch s ∈ (samples.map epoch).toFinset
    · exact (Finset.add_sum_erase _ _ hmem).symm
    · have hnew : ∀ s' ∈ samples, epoch s' ≠ epoch s := fun s' hs' heq =>
        hmem (List.mem_toFinset.2 (List.mem_map.2 ⟨s', hs', heq⟩))
      rw [lastIn_of_notMem hnew, Finset.erase_eq_of_notMem hmem, zero_add, total]
  rw [total, hinsert, Finset.sum_insert (Finset.notMem_erase _ _), hothers, lastIn_cons_self, hold]
  ring

end Epochs
end Library
end Vastora
