import Mathlib.Data.Nat.Find
import Mathlib.Order.Monotone.Basic
import Mathlib.Tactic.IntervalCases
import Vastora.Library.TextOrder

/-!
# Calendar — proleptic Gregorian date and time of a second count

Seconds are counted from 0000-01-01T00:00:00Z.  A count is split greedily: the greatest year that
has begun, then the greatest month of that year that has begun, and so on.  Such a split compares
like the count itself (`findGreatest_split_lt`), so the list of date and time fields is strictly
monotone in the count (`fields_lt_fields`).
-/

namespace Vastora
namespace Library
namespace Calendar

/-! ## Greedy splitting -/

section Split

variable {f : Nat → Nat} {bound : Nat → Nat}

/-- The greatest block that starts at or before `d`; block `q` starts at `f q`. -/
def block (f bound : Nat → Nat) (d : Nat) : Nat := Nat.findGreatest (fun q => f q ≤ d) (bound d)

theorem block_start_le (h0 : f 0 = 0) (d : Nat) : f (block f bound d) ≤ d :=
  Nat.findGreatest_spec (P := fun q => f q ≤ d) (Nat.zero_le _) (by simp [h0])

theorem lt_next_block (d : Nat) (hb : ∀ q, bound d < q → d < f q) :
    d < f (block f bound d + 1) := by
  by_cases hq : block f bound d + 1 ≤ bound d
  · have := Nat.findGreatest_is_greatest (P := fun q => f q ≤ d) (Nat.lt_succ_self _) hq
    exact Nat.lt_of_not_le this
  · exact hb _ (Nat.lt_of_not_le hq)

/-- A later count lies in a later block, or further into the same block. -/
theorem findGreatest_split_lt (f bound : Nat → Nat) (h0 : f 0 = 0) (hmono : Monotone bound) {d e : Nat} (h : d < e) :
    block f bound d < block f bound e ∨
      block f bound d = block f bound e ∧
        d - f (block f bound d) < e - f (block f bound e) := by
  have hd : f (block f bound d) ≤ d := block_start_le h0 d
  have hle : block f bound d ≤ block f bound e :=
    Nat.le_findGreatest ((Nat.findGreatest_le _).trans (hmono h.le)) (hd.trans h.le)
  rcases hle.lt_or_eq with hlt | heq
  · exact Or.inl hlt
  · refine Or.inr ⟨heq, ?_⟩
    rw [← heq]
    omega

end Split

/-! ## Years and months -/

/-- Days from 0000-01-01 to the first day of year `y`. -/
def daysBeforeYear (y : Nat) : Nat :=
  365 * y + ((y + 3) / 4 + (y + 399) / 400 - (y + 99) / 100)

def isLeap (y : Nat) : Bool := y % 4 == 0 && (y % 100 != 0 || y % 400 == 0)

theorem daysBeforeYear_succ (y : Nat) :
    daysBeforeYear (y + 1) = daysBeforeYear y + if isLeap y then 366 else 365 := by
  unfold daysBeforeYear isLeap
  by_cases h4 : y % 4 = 0 <;> by_cases h100 : y % 100 = 0 <;> by_cases h400 : y % 400 = 0 <;>
    simp [h4, h100, h400] <;> omega

/-- Days from the first day of the year to the first day of its month `m`, counted from `0`. -/
def daysBeforeMonth (leap : Bool) (m : Nat) : Nat :=
  [0, 31, 59, 90, 120, 151, 181, 212, 243, 273, 304, 334].getD m 365 +
    if leap && decide (2 ≤ m) then 1 else 0

def year (days : Nat) : Nat := block daysBeforeYear (· / 365) days

def dayOfYear (days : Nat) : Nat := days - daysBeforeYear (year days)

def month (leap : Bool) (yday : Nat) : Nat := block (daysBeforeMonth leap) (fun _ => 11) yday

def dayOfMonth (leap : Bool) (yday : Nat) : Nat := yday - daysBeforeMonth leap (month leap yday)

theorem daysBeforeMonth_zero (leap : Bool) : daysBeforeMonth leap 0 = 0 := by
  cases leap <;> rfl

theorem dayOfYear_lt (days : Nat) : dayOfYear days < 366 := by
  have hnext : days < daysBeforeYear (year days + 1) := by
    refine lt_next_block days ?_
    intro q hq
    have : 365 * q ≤ daysBeforeYear q := Nat.le_add_right _ _
    have hq' : days < 365 * q := by
      have := Nat.lt_mul_of_div_lt hq (by decide)
      omega
    omega
  rw [daysBeforeYear_succ] at hnext
  unfold dayOfYear
  split at hnext <;> omega

theorem dayOfMonth_lt (leap : Bool) {yday : Nat} (h : yday < 366) : dayOfMonth leap yday < 32 := by
  have hle : month leap yday ≤ 11 := Nat.findGreatest_le _
  have hnext : daysBeforeMonth leap (month leap yday + 1) ≤
      daysBeforeMonth leap (month leap yday) + 31 ∨ month leap yday = 11 := by
    interval_cases month leap yday <;> cases leap <;> decide
  unfold dayOfMonth
  rcases hnext with hnext | heq
  · by_cases hq : month leap yday + 1 ≤ 11
    · have hgt : ¬ daysBeforeMonth leap (month leap yday + 1) ≤ yday :=
        Nat.findGreatest_is_greatest (P := fun m => daysBeforeMonth leap m ≤ yday)
          (Nat.lt_succ_self _) hq
      omega
    · have h11 : month leap yday = 11 := by omega
      rw [h11]
      cases leap <;> simp [daysBeforeMonth] <;> omega
  · rw [heq]
    cases leap <;> simp [daysBeforeMonth] <;> omega

/-! ## Date and time fields -/

/-- Year, month, day, hour, minute and second of a second count. -/
def fields (sec : Nat) : List Nat :=
  let days := sec / 86400
  let yday := dayOfYear days
  let leap := isLeap (year days)
  [year days, month leap yday + 1, dayOfMonth leap yday + 1,
    sec % 86400 / 3600, sec % 3600 / 60, sec % 60]

theorem fields_lt_fields {s t : Nat} (h : s < t) : fields s < fields t := by
  unfold fields
  simp only [List.cons_lt_cons_iff]
  rcases Nat.lt_or_ge (s / 86400) (t / 86400) with hday | hday
  · have hyear := findGreatest_split_lt daysBeforeYear (· / 365) rfl
      (fun _ _ hab => Nat.div_le_div_right hab) hday
    rcases hyear with hlt | ⟨heq, hyday⟩
    · exact Or.inl hlt
    · have hleap : year (s / 86400) = year (t / 86400) := heq
      have hmonth := findGreatest_split_lt (daysBeforeMonth (isLeap (year (t / 86400))))
        (fun _ => 11) (daysBeforeMonth_zero _) (fun _ _ _ => le_rfl) hyday
      refine Or.inr ⟨heq, ?_⟩
      rw [hleap]
      rcases hmonth with hlt | ⟨hm, hd⟩
      · exact Or.inl (Nat.succ_lt_succ hlt)
      · exact Or.inr ⟨congrArg (· + 1) hm, Or.inl (Nat.succ_lt_succ hd)⟩
  · have hsame : s / 86400 = t / 86400 := Nat.le_antisymm (Nat.div_le_div_right h.le) hday
    rw [hsame]
    refine Or.inr ⟨rfl, Or.inr ⟨rfl, Or.inr ⟨rfl, ?_⟩⟩⟩
    omega

/-- The layout `2006-01-02T15:04:05`. -/
def layout : List (Nat × List Char) :=
  [(4, ['-']), (2, ['-']), (2, ['T']), (2, [':']), (2, [':']), (2, [])]

theorem fits_fields {s : Nat} (h : year (s / 86400) < 10000) : TextOrder.Fits layout (fields s) := by
  have hmonth : month (isLeap (year (s / 86400))) (dayOfYear (s / 86400)) ≤ 11 :=
    Nat.findGreatest_le _
  have hday := dayOfMonth_lt (isLeap (year (s / 86400))) (dayOfYear_lt (s / 86400))
  unfold TextOrder.Fits layout fields
  simp only [List.forall₂_cons]
  refine ⟨h, ?_, ?_, ?_, ?_, ?_, List.Forall₂.nil⟩ <;> norm_num <;> omega

end Calendar
end Library
end Vastora
