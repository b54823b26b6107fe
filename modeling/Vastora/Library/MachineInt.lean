import Mathlib.Tactic.Common

/-!
# MachineInt — signed 64-bit arithmetic that does not overflow

`Int64` wraps around.  These are the guards under which a difference or a sum is the one of the integers.
-/

namespace Vastora
namespace Library
namespace MachineInt

variable {a b : Int64}

theorem toInt_nonneg (h : 0 ≤ a) : 0 ≤ a.toInt := Int64.le_iff_toInt_le.1 h

/-- Nothing is lost when a part is taken off a counter. -/
theorem toInt_sub_of_le (hb : 0 ≤ b) (h : b ≤ a) : (a - b).toInt = a.toInt - b.toInt := by
  have hb' := toInt_nonneg hb
  have hle := Int64.le_iff_toInt_le.1 h
  have hlt := a.toInt_lt
  rw [Int64.toInt_sub]
  exact Int.bmod_eq_of_le (by omega) (by omega)

/-- `b ≤ math.MaxInt64-a` guards the sum. -/
theorem toInt_add_of_le (ha : 0 ≤ a) (hb : 0 ≤ b) (h : b ≤ Int64.maxValue - a) :
    (a + b).toInt = a.toInt + b.toInt := by
  have ha' := toInt_nonneg ha
  have hb' := toInt_nonneg hb
  have hmax : a ≤ Int64.maxValue := Int64.le_iff_toInt_le.2 (by
    have := a.toInt_lt
    rw [Int64.toInt_maxValue]
    omega)
  have hle := Int64.le_iff_toInt_le.1 h
  rw [toInt_sub_of_le ha hmax, Int64.toInt_maxValue] at hle
  rw [Int64.toInt_add]
  exact Int.bmod_eq_of_le (by omega) (by omega)

end MachineInt
end Library
end Vastora
