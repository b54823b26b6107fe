import Mathlib

/-!
# Months — the months of the proleptic Gregorian calendar and their days

Days are counted from 1970-01-01 and months from January of the year 0, so that month `12 * y + m - 1` is
month `m` of the year `y`.  `firstDay` is the day a month starts with and `monthOf` the month of a day.
-/

namespace Vastora
namespace Library
namespace Months

def isLeap (year : Int) : Bool := year % 4 == 0 && (year % 100 != 0 || year % 400 == 0)

/-- The number of days of a month. -/
def daysIn (month : Int) : Int :=
  match month % 12 with
  | 1 => if isLeap (month / 12) then 29 else 28
  | 3 | 5 | 8 | 10 => 30
  | _ => 31

/-- The days before a month of a year that begins with March. -/
def daysSinceMarch (month : Int) : Int := (153 * month + 2) / 5

def firstDay (month : Int) : Int :=
  let year := (month - 2) / 12
  365 * year + year / 4 - year / 100 + year / 400 + daysSinceMarch ((month - 2) % 12) - 719468

/-- A month next to the one of a day, from the mean length of a month. -/
def nearMonth (day : Int) : Int := (day + 719468) * 4800 / 146097 + 2

def monthOf (day : Int) : Int :=
  let near := nearMonth day
  if day < firstDay near then near - 1 else if firstDay (near + 1) ≤ day then near + 1 else near

theorem daysIn_bounds (month : Int) : 28 ≤ daysIn month ∧ daysIn month ≤ 31 := by
  unfold daysIn
  split
  · split <;> omega
  all_goals omega

/-- A leap year has one more multiple of 4 that counts. -/
theorem leap_step (year : Int) :
    (year + 1) / 4 - (year + 1) / 100 + (year + 1) / 400 =
      year / 4 - year / 100 + year / 400 + if isLeap (year + 1) then 1 else 0 := by
  unfold isLeap
  by_cases h₄ : (year + 1) % 4 = 0
  · by_cases h₁₀₀ : (year + 1) % 100 = 0
    · by_cases h₄₀₀ : (year + 1) % 400 = 0
      · simp [h₄, h₄₀₀]
        omega
      · simp [h₁₀₀, h₄₀₀]
        omega
    · simp [h₄, h₁₀₀]
      omega
  · simp [h₄]
    omega

/-- Every month is one of the twelve from some March on. -/
theorem exists_since_march (month : Int) : ∃ year k, 0 ≤ k ∧ k < 12 ∧ month = 12 * year + 2 + k :=
  ⟨(month - 2) / 12, (month - 2) % 12, by omega, by omega, by omega⟩

theorem firstDay_since_march {year k : Int} (h₀ : 0 ≤ k) (h₁ : k < 12) :
    firstDay (12 * year + 2 + k) =
      365 * year + year / 4 - year / 100 + year / 400 + daysSinceMarch k - 719468 := by
  have hdiv : (12 * year + 2 + k - 2) / 12 = year := by omega
  have hmod : (12 * year + 2 + k - 2) % 12 = k := by omega
  rw [firstDay, hdiv, hmod]

theorem daysIn_since_march {year k : Int} (h₀ : 0 ≤ k) (h₁ : k < 11) :
    daysIn (12 * year + 2 + k) = daysSinceMarch (k + 1) - daysSinceMarch k := by
  have hmod : (12 * year + 2 + k) % 12 = (2 + k) % 12 := by omega
  unfold daysIn
  rw [hmod]
  interval_cases k <;> rfl

theorem daysIn_february (year : Int) :
    daysIn (12 * year + 2 + 11) = 28 + if isLeap (year + 1) then 1 else 0 := by
  have hmod : (12 * year + 2 + 11) % 12 = 1 := by omega
  have hdiv : (12 * year + 2 + 11) / 12 = year + 1 := by omega
  unfold daysIn
  rw [hmod, hdiv]
  change (if isLeap (year + 1) then 29 else 28) = _
  split <;> rfl

/-- A month ends where the next one starts. -/
theorem firstDay_succ (month : Int) : firstDay (month + 1) = firstDay month + daysIn month := by
  obtain ⟨year, k, h₀, h₁, rfl⟩ := exists_since_march month
  by_cases hk : k = 11
  · -- February is followed by the March of the next year.
    subst hk
    have hnext : 12 * year + 2 + 11 + 1 = 12 * (year + 1) + 2 + 0 := by ring
    have hleap := leap_step year
    have hstart : daysSinceMarch 0 = 0 := rfl
    have hend : daysSinceMarch 11 = 337 := rfl
    rw [hnext, firstDay_since_march (by omega) (by omega), firstDay_since_march h₀ h₁,
      daysIn_february, hstart, hend]
    omega
  · have hlt : k < 11 := by omega
    rw [add_assoc _ k, firstDay_since_march (by omega) (by omega), firstDay_since_march h₀ h₁,
      daysIn_since_march h₀ hlt]
    ring

theorem firstDay_lt_succ (month : Int) : firstDay month < firstDay (month + 1) := by
  have h := daysIn_bounds month
  rw [firstDay_succ]
  omega

theorem firstDay_strictMono : StrictMono firstDay :=
  strictMono_int_of_lt_succ firstDay_lt_succ

/-- The start of a month from the mean length of a month, to less than three days. -/
theorem firstDay_near (month : Int) :
    146097 * (month - 2) - 4800 * 3 ≤ 4800 * (firstDay month + 719468) ∧
      4800 * (firstDay month + 719468) ≤ 146097 * (month - 2) + 4800 * 3 := by
  obtain ⟨year, k, h₀, h₁, rfl⟩ := exists_since_march month
  rw [firstDay_since_march h₀ h₁]
  unfold daysSinceMarch
  omega

/-- The month of a day is the one that has started and whose successor has not. -/
theorem firstDay_monthOf (day : Int) :
    firstDay (monthOf day) ≤ day ∧ day < firstDay (monthOf day + 1) := by
  have hdef : nearMonth day = (day + 719468) * 4800 / 146097 + 2 := rfl
  have hprev := firstDay_near (nearMonth day - 1)
  have hnext := firstDay_near (nearMonth day + 1 + 1)
  unfold monthOf
  dsimp only
  split_ifs with hlow hhigh
  · constructor
    · omega
    · rwa [Int.sub_add_cancel]
  · exact ⟨hhigh, by omega⟩
  · exact ⟨not_lt.1 hlow, not_le.1 hhigh⟩

theorem le_monthOf_iff {month day : Int} : month ≤ monthOf day ↔ firstDay month ≤ day := by
  obtain ⟨hstart, hend⟩ := firstDay_monthOf day
  constructor
  · intro h
    exact (firstDay_strictMono.monotone h).trans hstart
  · intro h
    have hlt := firstDay_strictMono.lt_iff_lt.1 (h.trans_lt hend)
    omega

theorem monthOf_eq {month day : Int} (hstart : firstDay month ≤ day) (hend : day < firstDay (month + 1)) :
    monthOf day = month := by
  have hle := le_monthOf_iff.2 hstart
  have hlt : ¬ month + 1 ≤ monthOf day := fun h => by
    have := le_monthOf_iff.1 h
    omega
  omega

end Months
end Library
end Vastora
