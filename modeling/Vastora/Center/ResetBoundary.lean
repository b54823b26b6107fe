import Vastora.Library.TimeZone

/-!
# ResetBoundary — the monthly boundaries of a traffic plan

A plan is reset at midnight of its reset day, or of the last day of a month that is shorter.  Boundaries are
instants, in nanoseconds; the texts that they are stored as are left out.  The loop that advances a boundary
has no bound of its own: the model gives it fuel, and it returns nothing when the fuel runs out.
-/

namespace Vastora
namespace Center

open Library Library.Months

/-! ## Boundaries -/

/-- The day on which the month ends, as `monthlyBoundary` finds it. -/
def lastDay (location : Zone) (year month : Int) : Int :=
  let firstOfFollowingMonth := location.date year (month + 1) 1 0 0
  location.day (location.addDate firstOfFollowingMonth 0 0 (-1))

def monthlyBoundary (year month resetDay : Int) (location : Zone) : Int :=
  let lastDay := lastDay location year month
  let resetDay := if resetDay > lastDay then lastDay else resetDay
  location.date year month resetDay 0 0

/-- There is no boundary without a reset day. -/
def threeXUIResetBoundary (now resetDay : Int) (location : Option Zone) : Option Int :=
  if resetDay ≤ 0 then none
  else
    let location := location.getD .utc
    let next := monthlyBoundary (location.year now) (location.month now) resetDay location
    if now < next then some next
    else some (monthlyBoundary (location.year now) (location.month now + 1) resetDay location)

/-- The loop of `advanceThreeXUIResetBoundary`. -/
def advanceLoop (resetDay now : Int) (location : Zone) : Nat → Int → Option Int
  | 0, _ => none
  | fuel + 1, boundary =>
      if now < boundary then some boundary
      else
        advanceLoop resetDay now location fuel
          (monthlyBoundary (location.year boundary) (location.month boundary + 1) resetDay location)

/-- An anchor that could not be parsed is missing. -/
def advanceThreeXUIResetBoundary (fuel : Nat) (anchor : Option Int) (resetDay now : Int)
    (location : Option Zone) : Option (Except String (Option Int)) :=
  if resetDay ≤ 0 then some (.ok none)
  else
    match anchor with
    | none => some (.error "center: stored REALITY traffic reset boundary is invalid")
    | some boundary =>
        (advanceLoop resetDay now (location.getD .utc) fuel boundary).map fun local' => .ok (some local')

/-! ## What the boundaries are for -/

/-- Midnight of the reset day in a month, or of the month's last day when it is shorter, on the wall clock. -/
def midnight (resetDay month : Int) : Int := secondsPerDay * (firstDay month + min resetDay (daysIn month) - 1)

/-- The instant of that midnight. -/
def clampedBoundary (z : Zone) (resetDay month : Int) : Int := z.instant (midnight resetDay month) * nanoseconds

/-- The next boundary lies ahead, and none was passed over. -/
def NextAhead (z : Zone) (resetDay now : Int) : Prop :=
  ∃ next, threeXUIResetBoundary now resetDay (some z) = some next ∧ now < next ∧
    ∀ month, ¬ (now < clampedBoundary z resetDay month ∧ clampedBoundary z resetDay month < next)

/-- Advancing an anchor ends, with the anchor itself or with a boundary ahead. -/
def Advances (z : Zone) (resetDay anchor now : Int) : Prop :=
  ∃ fuel result, advanceThreeXUIResetBoundary fuel (some anchor) resetDay now (some z) = some (.ok (some result)) ∧
    (now < anchor → result = anchor) ∧
    (anchor ≤ now → now < result ∧ ∃ month, result = clampedBoundary z resetDay month)

/-! ## Offsets where months meet -/

/-- The clock is set back where a month ends: asked for the first midnight behind it and then for a day before
the time it shows, it falls short in sum. -/
def SetBack (z : Zone) (month : Int) : Prop :=
  z.drift (midnight 1 (month + 1)) +
    z.drift (midnight 1 (month + 1) + z.drift (midnight 1 (month + 1)) - secondsPerDay) < 0

/-- The month's boundary is on its last day and the clock is set back at its end. -/
def DayEarly (z : Zone) (resetDay month : Int) : Prop := daysIn month ≤ resetDay ∧ SetBack z month

instance (z : Zone) (month : Int) : Decidable (SetBack z month) := Int.decLt _ _

instance (z : Zone) (resetDay month : Int) : Decidable (DayEarly z resetDay month) := instDecidableAnd

/-- The midnight that is taken for the boundary of a month. -/
def taken (z : Zone) (resetDay month : Int) : Int :=
  if DayEarly z resetDay month then midnight resetDay month - secondsPerDay else midnight resetDay month

/-- Read with the offset that a time on the wall clock is read with, `now` is before that time. -/
def Before (z : Zone) (now wall : Int) : Prop := unix now + z.used wall < wall

instance (z : Zone) (now wall : Int) : Decidable (Before z now wall) := Int.decLt _ _

/-- The offsets around the month of `now` let the next boundary be found. -/
structure NextInTime (z : Zone) (resetDay now : Int) : Prop where
  /-- While a month is shown, the midnight that ends it has not passed. -/
  first : resetDay = 1 → Before z now (midnight 1 (z.monthIndex now + 1))
  /-- `now` is not on the day by which the boundary is early. -/
  last : DayEarly z resetDay (z.monthIndex now) →
    Before z now (midnight resetDay (z.monthIndex now) - secondsPerDay) ∨
      ¬ Before z now (midnight resetDay (z.monthIndex now))

/-- The offsets from the month of the anchor to the month after `now` let the loop end on a boundary. -/
structure EndsInTime (z : Zone) (resetDay anchor now : Int) : Prop where
  /-- A first midnight that has passed is not shown in the month before. -/
  passed : resetDay = 1 → ∀ month, z.monthIndex anchor < month → ¬ Before z now (midnight 1 month) →
    0 ≤ z.drift (midnight 1 month)
  /-- The first boundary that is ahead is not a day early. -/
  reached : ∀ month, z.monthIndex anchor < month → Before z now (taken z resetDay month) →
    (month = z.monthIndex anchor + 1 ∨ ¬ Before z now (taken z resetDay (month - 1))) →
    ¬ DayEarly z resetDay month

section Boundaries

variable {z : Zone} {resetDay : Int}

theorem midnight_one (month : Int) : midnight 1 month = secondsPerDay * firstDay month := by
  have hlen := daysIn_bounds month
  rw [midnight, min_eq_left (by omega)]
  ring

/-! ## The last day of a month -/

/-- A calm zone finds the last day of a month, or the day before it. -/
theorem lastDay_eq (hcalm : z.Calm) (year month : Int) : lastDay z year month =
    daysIn (12 * year + (month - 1)) - if SetBack z (12 * year + (month - 1)) then 1 else 0 := by
  set k := 12 * year + (month - 1) with hk
  set first := midnight 1 (k + 1) with hfirst
  have hdate : z.date year (month + 1) 1 0 0 = z.instant first * nanoseconds := by
    have hindex : 12 * year + (month + 1 - 1) = k + 1 := by omega
    have hasked : secondsPerDay * (firstDay (k + 1) + 1 - 1) + 0 = first := by
      rw [hfirst, midnight_one]
      ring
    rw [Zone.date, hindex, hasked, Int.add_zero]
  have hbefore : z.addDate (z.date year (month + 1) 1 0 0) 0 0 (-1) =
      z.instant (first + z.drift first - secondsPerDay) * nanoseconds := by
    have hwhole : z.instant first * nanoseconds % nanoseconds = 0 := Int.mul_emod_left _ _
    rw [hdate, Zone.addDate_pred, Zone.wall_instant, hwhole, Int.add_zero]
  have hdrift := hcalm.drift_bounds first
  have hdrift' := hcalm.drift_bounds (first + z.drift first - secondsPerDay)
  have hlen := daysIn_bounds k
  have hstart := firstDay_succ k
  have hmonth : monthOf ((first + z.drift first - secondsPerDay +
      z.drift (first + z.drift first - secondsPerDay)) / secondsPerDay) = k := by
    rw [hfirst, midnight_one, secondsPerDay] at *
    exact monthOf_eq (by omega) (by omega)
  unfold lastDay
  dsimp only
  rw [hbefore, Zone.day, Zone.monthIndex, Zone.wall_instant, hmonth]
  have hset : SetBack z k ↔ z.drift first + z.drift (first + z.drift first - secondsPerDay) < 0 := Iff.rfl
  rw [hfirst, midnight_one, secondsPerDay] at *
  split
  · have := hset.1 ‹_›
    omega
  · have := mt hset.2 ‹_›
    omega

theorem monthlyBoundary_eq (hcalm : z.Calm) (year month : Int) :
    monthlyBoundary year month resetDay z =
      z.instant (taken z resetDay (12 * year + (month - 1))) * nanoseconds := by
  have hday : secondsPerDay * (firstDay (12 * year + (month - 1)) +
      (if resetDay > lastDay z year month then lastDay z year month else resetDay) - 1) =
        taken z resetDay (12 * year + (month - 1)) := by
    rw [lastDay_eq hcalm]
    unfold taken DayEarly midnight secondsPerDay
    by_cases hset : SetBack z (12 * year + (month - 1))
    · simp only [hset, if_true, and_true]
      split_ifs <;> omega
    · simp only [hset, if_false, and_false]
      split_ifs <;> omega
  unfold monthlyBoundary
  dsimp only
  rw [Zone.date, Int.add_zero, Int.add_zero, hday]

/-! ## The order of the boundaries -/

theorem taken_le (month : Int) : taken z resetDay month ≤ midnight resetDay month := by
  unfold taken secondsPerDay
  split <;> omega

/-- Boundaries are weeks apart before their offsets count. -/
theorem midnight_lt_taken (hday : 1 ≤ resetDay) (month : Int) :
    midnight resetDay month + 27 * secondsPerDay ≤ taken z resetDay (month + 1) := by
  have hlen := daysIn_bounds month
  have hlen' := daysIn_bounds (month + 1)
  have hstart := firstDay_succ month
  unfold taken DayEarly midnight secondsPerDay
  split_ifs <;> omega

theorem midnight_le (month : Int) : midnight resetDay month + secondsPerDay ≤ midnight 1 (month + 1) := by
  have hstart := firstDay_succ month
  rw [midnight_one]
  unfold midnight secondsPerDay
  omega

/-- Only a boundary on the first day stands at the start of its month. -/
theorem le_taken (hday : 2 ≤ resetDay) (month : Int) :
    midnight 1 month + secondsPerDay ≤ taken z resetDay month := by
  have hlen := daysIn_bounds month
  rw [midnight_one]
  unfold taken DayEarly midnight secondsPerDay
  split_ifs <;> omega

theorem taken_one (month : Int) : taken z 1 month = midnight 1 month := by
  have hlen := daysIn_bounds month
  exact if_neg fun h => absurd h.1 (by omega)

theorem instant_lt {wall wall' : Int} (h : wall + 2 * secondsPerDay ≤ wall') :
    z.instant wall * nanoseconds < z.instant wall' * nanoseconds := by
  have hlow := Zone.instant_bounds z wall
  have hhigh := Zone.instant_bounds z wall'
  exact Int.mul_lt_mul_of_pos_right (by omega) (by decide)

/-- In a calm zone even a day keeps its order. -/
theorem instant_pred_lt (hcalm : z.Calm) (wall : Int) :
    z.instant (wall - secondsPerDay) * nanoseconds < z.instant wall * nanoseconds := by
  have hbound : -86400 < z.offset (wall - secondsPerDay) ∧ z.offset (wall - secondsPerDay) < 86400 :=
    z.bounded (wall - secondsPerDay)
  refine Int.mul_lt_mul_of_pos_right ?_ (by decide)
  rw [Zone.instant_eq, Zone.instant_eq]
  rw [secondsPerDay] at *
  have hnear := hcalm.used_near wall (s := wall - 86400 - z.offset (wall - 86400)) (by omega) (by omega)
  have hused : z.used (wall - 86400) = z.offset (wall - 86400 - z.offset (wall - 86400)) := rfl
  omega

/-- The instant that is taken for the boundary of a month. -/
def takenBoundary (z : Zone) (resetDay month : Int) : Int := z.instant (taken z resetDay month) * nanoseconds

theorem before_iff {now wall : Int} : Before z now wall ↔ now < z.instant wall * nanoseconds :=
  Zone.lt_instant_iff.symm

theorem takenBoundary_lt (hcalm : z.Calm) {month : Int} (h : DayEarly z resetDay month) :
    takenBoundary z resetDay month < clampedBoundary z resetDay month := by
  rw [takenBoundary, taken, if_pos h]
  exact instant_pred_lt hcalm _

theorem takenBoundary_eq {month : Int} (h : ¬ DayEarly z resetDay month) :
    takenBoundary z resetDay month = clampedBoundary z resetDay month := by
  rw [takenBoundary, taken, if_neg h, clampedBoundary]

theorem takenBoundary_le (hcalm : z.Calm) (month : Int) :
    takenBoundary z resetDay month ≤ clampedBoundary z resetDay month := by
  by_cases h : DayEarly z resetDay month
  · exact (takenBoundary_lt hcalm h).le
  · exact (takenBoundary_eq h).le

theorem clampedBoundary_lt_taken (hday : 1 ≤ resetDay) (month : Int) :
    clampedBoundary z resetDay month < takenBoundary z resetDay (month + 1) := by
  have h := midnight_lt_taken (z := z) hday month
  exact instant_lt (by rw [secondsPerDay] at *; omega)

theorem takenBoundary_strictMono (hcalm : z.Calm) (hday : 1 ≤ resetDay) : StrictMono (takenBoundary z resetDay) :=
  strictMono_int_of_lt_succ fun month => (takenBoundary_le hcalm month).trans_lt (clampedBoundary_lt_taken hday month)

theorem clampedBoundary_strictMono (hcalm : z.Calm) (hday : 1 ≤ resetDay) :
    StrictMono (clampedBoundary z resetDay) :=
  strictMono_int_of_lt_succ fun month => (clampedBoundary_lt_taken hday month).trans_le (takenBoundary_le hcalm _)

/-! ## The month of an instant -/

theorem monthIndex_bounds (z : Zone) (t : Int) : midnight 1 (z.monthIndex t) ≤ unix t + z.offset (unix t) ∧
    unix t + z.offset (unix t) < midnight 1 (z.monthIndex t + 1) := by
  have hlow : firstDay (z.monthIndex t) ≤ z.wall t / secondsPerDay := le_monthOf_iff.1 le_rfl
  have hhigh : ¬ firstDay (z.monthIndex t + 1) ≤ z.wall t / secondsPerDay := fun h => by
    have hle : z.monthIndex t + 1 ≤ z.monthIndex t := le_monthOf_iff.2 h
    omega
  have hwall : z.wall t = unix t + z.offset (unix t) := rfl
  rw [midnight_one, midnight_one, ← hwall]
  rw [secondsPerDay] at *
  omega

/-- The boundary of the month before has passed. -/
theorem clampedBoundary_pred_le (hcalm : z.Calm) (now : Int) :
    clampedBoundary z resetDay (z.monthIndex now - 1) ≤ now := by
  have hmonth := (monthIndex_bounds z now).1
  have hbefore : midnight resetDay (z.monthIndex now - 1) + secondsPerDay ≤ midnight 1 (z.monthIndex now - 1 + 1) :=
    midnight_le _
  rw [Int.sub_add_cancel] at hbefore
  have hoffset : -86400 < z.offset (unix now) ∧ z.offset (unix now) < 86400 := z.bounded (unix now)
  have hused : ∀ wall, -86400 < z.used wall ∧ z.used wall < 86400 := fun wall => z.bounded (wall - z.offset wall)
  rw [← not_lt, clampedBoundary, Zone.lt_instant_iff]
  intro hlt
  have hused := hused (midnight resetDay (z.monthIndex now - 1))
  rw [secondsPerDay] at *
  have hnear := hcalm.used_near (midnight resetDay (z.monthIndex now - 1)) (s := unix now) (by omega) (by omega)
  omega

/-- A midnight behind the first day of the next month lies ahead. -/
theorem before_of_next_day (hcalm : z.Calm) {now wall : Int}
    (h : midnight 1 (z.monthIndex now + 1) + secondsPerDay ≤ wall) : Before z now wall := by
  have hmonth := (monthIndex_bounds z now).2
  have hoffset : -86400 < z.offset (unix now) ∧ z.offset (unix now) < 86400 := z.bounded (unix now)
  have hused : -86400 < z.used wall ∧ z.used wall < 86400 := z.bounded (wall - z.offset wall)
  unfold Before
  rw [secondsPerDay] at h
  by_contra hpast
  have hnear := hcalm.used_near wall (s := unix now) (by omega) (by omega)
  omega

/-! ## The next boundary -/

theorem threeXUIResetBoundary_eq (hcalm : z.Calm) (hday : 1 ≤ resetDay) (now : Int) :
    threeXUIResetBoundary now resetDay (some z) =
      if now < takenBoundary z resetDay (z.monthIndex now)
      then some (takenBoundary z resetDay (z.monthIndex now))
      else some (takenBoundary z resetDay (z.monthIndex now + 1)) := by
  have hthis : 12 * z.year now + (z.month now - 1) = z.monthIndex now := by
    have h := Zone.year_month z now 0
    omega
  rw [threeXUIResetBoundary, if_neg (by omega), Option.getD_some]
  dsimp only
  rw [monthlyBoundary_eq hcalm, monthlyBoundary_eq hcalm, hthis, Zone.year_month z now 1]
  rfl

theorem nextInTime_of_nextAhead (hcalm : z.Calm) (hday : 1 ≤ resetDay) {now : Int}
    (h : NextAhead z resetDay now) : NextInTime z resetDay now := by
  obtain ⟨next, hnext, hahead, hnone⟩ := h
  rw [threeXUIResetBoundary_eq hcalm hday] at hnext
  have hmono : takenBoundary z resetDay (z.monthIndex now) < takenBoundary z resetDay (z.monthIndex now + 1) :=
    takenBoundary_strictMono hcalm hday (by omega)
  constructor
  · rintro rfl
    have hlt : now < takenBoundary z 1 (z.monthIndex now + 1) := by
      split at hnext
      · exact lt_trans ‹_› hmono
      · exact Option.some.inj hnext ▸ hahead
    rwa [takenBoundary, taken_one, ← before_iff] at hlt
  · intro hearly
    rw [before_iff, before_iff]
    by_cases hlt : now < takenBoundary z resetDay (z.monthIndex now)
    · rw [takenBoundary, taken, if_pos hearly] at hlt
      exact Or.inl hlt
    · rw [if_neg hlt] at hnext
      refine Or.inr fun hclamped => hnone (z.monthIndex now) ⟨hclamped, ?_⟩
      rw [← Option.some.inj hnext]
      exact clampedBoundary_lt_taken hday _

theorem nextAhead_of_nextInTime (hcalm : z.Calm) (hday : 1 ≤ resetDay) {now : Int}
    (h : NextInTime z resetDay now) : NextAhead z resetDay now := by
  have hmono := clampedBoundary_strictMono (z := z) hcalm hday
  rw [NextAhead, threeXUIResetBoundary_eq hcalm hday]
  by_cases hlt : now < takenBoundary z resetDay (z.monthIndex now)
  · refine ⟨_, if_pos hlt, hlt, fun month ⟨hafter, hbefore⟩ => ?_⟩
    have hearlier : month < z.monthIndex now := hmono.lt_iff_lt.1 (hbefore.trans_le (takenBoundary_le hcalm _))
    have hpast := hmono.monotone (show month ≤ z.monthIndex now - 1 by omega)
    exact absurd hafter (not_lt.2 (hpast.trans (clampedBoundary_pred_le hcalm now)))
  · refine ⟨_, if_neg hlt, ?_, fun month ⟨hafter, hbefore⟩ => ?_⟩
    · rcases (show resetDay = 1 ∨ 2 ≤ resetDay by omega) with rfl | hlater
      · rw [takenBoundary, taken_one, ← before_iff]
        exact h.first rfl
      · exact before_iff.1 (before_of_next_day hcalm (le_taken hlater _))
    · have hearlier : month < z.monthIndex now + 1 :=
        hmono.lt_iff_lt.1 (hbefore.trans_le (takenBoundary_le hcalm _))
      have hle := hmono.monotone (show month ≤ z.monthIndex now by omega)
      -- the boundary of this month has passed too
      by_cases hearly : DayEarly z resetDay (z.monthIndex now)
      · rcases h.last hearly with hbefore' | hafter'
        · rw [before_iff] at hbefore'
          rw [takenBoundary, taken, if_pos hearly] at hlt
          exact hlt hbefore'
        · rw [before_iff] at hafter'
          exact hafter' (hafter.trans_le hle)
      · rw [takenBoundary_eq hearly] at hlt
        exact hlt (hafter.trans_le hle)

/-! ## The loop -/

/-- A first midnight that is shown in the month before leads back to itself. -/
def Stuck (z : Zone) (resetDay month : Int) : Prop := resetDay = 1 ∧ z.drift (midnight 1 month) < 0

theorem monthIndex_takenBoundary (hcalm : z.Calm) (hday : 1 ≤ resetDay) (month : Int) :
    Stuck z resetDay month ∧ z.monthIndex (takenBoundary z resetDay month) = month - 1 ∨
      ¬ Stuck z resetDay month ∧ z.monthIndex (takenBoundary z resetDay month) = month := by
  have hdrift := hcalm.drift_bounds (taken z resetDay month)
  have hlen := daysIn_bounds (month - 1)
  have hstart := firstDay_succ (month - 1)
  have hend : midnight resetDay month + secondsPerDay ≤ midnight 1 (month + 1) := midnight_le month
  have htaken : taken z resetDay month ≤ midnight resetDay month := taken_le month
  have hfirst := midnight_one month
  have hnext := midnight_one (month + 1)
  rw [Int.sub_add_cancel] at hstart
  rw [Zone.monthIndex, takenBoundary, Zone.wall_instant]
  rcases (show resetDay = 1 ∨ 2 ≤ resetDay by omega) with rfl | hlater
  · rw [taken_one] at *
    by_cases hstuck : z.drift (midnight 1 month) < 0
    · refine Or.inl ⟨⟨rfl, hstuck⟩, monthOf_eq ?_ ?_⟩
      · rw [secondsPerDay] at *
        omega
      · rw [Int.sub_add_cancel]
        rw [secondsPerDay] at *
        omega
    · refine Or.inr ⟨fun h => hstuck h.2, monthOf_eq ?_ ?_⟩ <;> rw [secondsPerDay] at * <;> omega
  · have hafter : midnight 1 month + secondsPerDay ≤ taken z resetDay month := le_taken hlater month
    refine Or.inr ⟨fun h => absurd h.1 (by omega), monthOf_eq ?_ ?_⟩ <;> rw [secondsPerDay] at * <;> omega

theorem advanceLoop_succ (hcalm : z.Calm) (now boundary : Int) (fuel : Nat) :
    advanceLoop resetDay now z (fuel + 1) boundary =
      if now < boundary then some boundary
      else advanceLoop resetDay now z fuel (takenBoundary z resetDay (z.monthIndex boundary + 1)) := by
  rw [advanceLoop, monthlyBoundary_eq hcalm, Zone.year_month z boundary 1]
  rfl

/-- The loop never leaves a month that it is stuck in. -/
theorem advanceLoop_stuck (hcalm : z.Calm) (hday : 1 ≤ resetDay) {now month : Int} (hstuck : Stuck z resetDay month)
    (hpast : takenBoundary z resetDay month ≤ now) (fuel : Nat) :
    ∀ start ≤ month, advanceLoop resetDay now z fuel (takenBoundary z resetDay start) = none := by
  induction fuel with
  | zero => exact fun _ _ => rfl
  | succ fuel ih =>
      intro start hstart
      have hle := (takenBoundary_strictMono (z := z) hcalm hday).monotone hstart
      rw [advanceLoop_succ hcalm, if_neg (by omega)]
      rcases monthIndex_takenBoundary hcalm hday start with ⟨-, hmonth⟩ | ⟨hfree, hmonth⟩
      · rw [hmonth, Int.sub_add_cancel]
        exact ih start hstart
      · rw [hmonth]
        rcases hstart.eq_or_lt with rfl | hlt
        · exact absurd hstuck hfree
        · exact ih _ (by omega)

/-- What the loop returns is the first of the boundaries from `first` on that lies ahead. -/
theorem advanceLoop_result (hcalm : z.Calm) (hday : 1 ≤ resetDay) {now first result : Int} (fuel : Nat) :
    ∀ start, first ≤ start → (start = first ∨ takenBoundary z resetDay (start - 1) ≤ now) →
      advanceLoop resetDay now z fuel (takenBoundary z resetDay start) = some result →
      ∃ month, first ≤ month ∧ result = takenBoundary z resetDay month ∧ now < result ∧
        (month = first ∨ takenBoundary z resetDay (month - 1) ≤ now) := by
  induction fuel with
  | zero => exact fun _ _ _ h => by cases h
  | succ fuel ih =>
      intro start hstart hbefore h
      rw [advanceLoop_succ hcalm] at h
      split at h
      · cases h
        exact ⟨start, hstart, rfl, ‹_›, hbefore⟩
      · rename_i hpast
        rcases monthIndex_takenBoundary hcalm hday start with ⟨-, hmonth⟩ | ⟨-, hmonth⟩
        · rw [hmonth, Int.sub_add_cancel] at h
          exact ih start hstart hbefore h
        · rw [hmonth] at h
          refine ih (start + 1) (by omega) (Or.inr ?_) h
          rw [Int.add_sub_cancel]
          exact not_lt.1 hpast

/-- Where it is not stuck, each turn of the loop is a month further, so that it ends before its fuel does. -/
theorem advanceLoop_returns (hcalm : z.Calm) (hday : 1 ≤ resetDay) {now first : Int}
    (hfree : ∀ month, first ≤ month → takenBoundary z resetDay month ≤ now → ¬ Stuck z resetDay month) (fuel : Nat) :
    ∀ start, first ≤ start → now < takenBoundary z resetDay (start + fuel) →
      ∃ result, advanceLoop resetDay now z (fuel + 1) (takenBoundary z resetDay start) = some result := by
  induction fuel with
  | zero =>
      intro start _ hnow
      rw [Nat.cast_zero, Int.add_zero] at hnow
      exact ⟨_, by rw [advanceLoop, if_pos hnow]⟩
  | succ fuel ih =>
      intro start hstart hnow
      rw [advanceLoop_succ hcalm]
      by_cases hdone : now < takenBoundary z resetDay start
      · exact ⟨_, by rw [if_pos hdone]⟩
      · rw [if_neg hdone]
        rcases monthIndex_takenBoundary hcalm hday start with ⟨hstuck, -⟩ | ⟨-, hmonth⟩
        · exact absurd hstuck (hfree start hstart (not_lt.1 hdone))
        · rw [hmonth]
          refine ih _ (by omega) ?_
          rwa [Nat.cast_succ, add_comm (fuel : Int), ← add_assoc] at hnow

theorem exists_later_boundary {f : Int → Int} (hf : StrictMono f) (start now : Int) :
    ∃ fuel : Nat, now < f (start + fuel) := by
  have hgrowth : ∀ k : Nat, f start + k ≤ f (start + k) := by
    intro k
    induction k with
    | zero => simp
    | succ k ih =>
        have hstep : f (start + k) < f (start + (k + 1 : Nat)) := hf (by omega)
        omega
  refine ⟨(now - f start + 1).toNat, ?_⟩
  have h := hgrowth (now - f start + 1).toNat
  omega

/-- Two months that are the first ahead are the same. -/
theorem first_ahead_unique {f : Int → Int} (hf : StrictMono f) {now first month month' : Int} (h : first ≤ month)
    (hnow : now < f month) (hbefore' : month' = first ∨ f (month' - 1) ≤ now) : month' ≤ month := by
  by_contra hlt
  rcases hbefore' with rfl | hbefore'
  · omega
  · have hle := hf.monotone (show month ≤ month' - 1 by omega)
    omega

theorem advanceThreeXUIResetBoundary_eq (hday : 1 ≤ resetDay) {fuel : Nat} {anchor now result : Int} :
    advanceThreeXUIResetBoundary fuel (some anchor) resetDay now (some z) = some (.ok (some result)) ↔
      advanceLoop resetDay now z fuel anchor = some result := by
  rw [advanceThreeXUIResetBoundary, if_neg (by omega)]
  simp

theorem endsInTime_of_advances (hcalm : z.Calm) (hday : 1 ≤ resetDay) {anchor now : Int} (hanchor : anchor ≤ now)
    (h : Advances z resetDay anchor now) : EndsInTime z resetDay anchor now := by
  have hmono := takenBoundary_strictMono (z := z) hcalm hday
  obtain ⟨fuel, result, hloop, -, hresult⟩ := h
  obtain ⟨hahead, month', hboundary⟩ := hresult hanchor
  rw [advanceThreeXUIResetBoundary_eq hday] at hloop
  obtain ⟨fuel, rfl⟩ : ∃ rest, fuel = rest + 1 := by
    cases fuel with
    | zero => cases hloop
    | succ rest => exact ⟨rest, rfl⟩
  rw [advanceLoop_succ hcalm, if_neg (by omega)] at hloop
  constructor
  · rintro rfl month hmonth hpast
    by_contra hstuck
    rw [before_iff, not_lt, ← taken_one (z := z)] at hpast
    rw [advanceLoop_stuck hcalm hday ⟨rfl, not_le.1 hstuck⟩ hpast fuel _ (by omega)] at hloop
    cases hloop
  · intro month hmonth hnow hfirst hearly
    rw [before_iff] at hnow
    rw [before_iff, not_lt] at hfirst
    obtain ⟨stop, hstart, rfl, hstop, hbefore⟩ := advanceLoop_result hcalm hday fuel _ le_rfl (Or.inl rfl) hloop
    have hsame : stop = month := le_antisymm (first_ahead_unique hmono (by omega) hnow hbefore)
      (first_ahead_unique hmono hstart hstop hfirst)
    -- the boundary that is a day early is none
    rw [hsame] at hboundary
    have hlt := takenBoundary_lt hcalm hearly
    rcases lt_trichotomy month' month with hlt' | rfl | hlt'
    · have hle := (clampedBoundary_strictMono (z := z) hcalm hday).monotone (show month' ≤ month - 1 by omega)
      have hnext := clampedBoundary_lt_taken (z := z) hday (month - 1)
      rw [Int.sub_add_cancel] at hnext
      omega
    · omega
    · have := clampedBoundary_strictMono (z := z) hcalm hday hlt'
      omega

theorem advances_of_endsInTime (hcalm : z.Calm) (hday : 1 ≤ resetDay) {anchor now : Int}
    (h : anchor ≤ now → EndsInTime z resetDay anchor now) : Advances z resetDay anchor now := by
  by_cases hanchor : now < anchor
  · have hloop : advanceLoop resetDay now z 1 anchor = some anchor := by rw [advanceLoop, if_pos hanchor]
    exact ⟨1, anchor, (advanceThreeXUIResetBoundary_eq hday).2 hloop, fun _ => rfl,
      fun hle => absurd hanchor (not_lt.2 hle)⟩
  · obtain ⟨hpassed, hreached⟩ := h (not_lt.1 hanchor)
    have hfree : ∀ month, z.monthIndex anchor + 1 ≤ month → takenBoundary z resetDay month ≤ now →
        ¬ Stuck z resetDay month := by
      rintro month hmonth hpast ⟨rfl, hdrift⟩
      rw [takenBoundary, taken_one, ← not_lt, ← before_iff] at hpast
      have := hpassed rfl month (by omega) hpast
      omega
    obtain ⟨fuel, hfuel⟩ := exists_later_boundary (takenBoundary_strictMono (z := z) hcalm hday)
      (z.monthIndex anchor + 1) now
    obtain ⟨result, hloop⟩ := advanceLoop_returns hcalm hday hfree fuel _ le_rfl hfuel
    obtain ⟨stop, hstart, rfl, hstop, hbefore⟩ := advanceLoop_result hcalm hday _ _ le_rfl (Or.inl rfl) hloop
    have hfull : advanceLoop resetDay now z (fuel + 1 + 1) anchor = some (takenBoundary z resetDay stop) := by
      rw [advanceLoop_succ hcalm, if_neg hanchor, hloop]
    refine ⟨_, _, (advanceThreeXUIResetBoundary_eq hday).2 hfull, fun hlt => absurd hlt hanchor,
      fun _ => ⟨hstop, stop, takenBoundary_eq (hreached stop (by omega) (before_iff.2 hstop) ?_)⟩⟩
    rwa [before_iff, not_lt]

/-- In a zone with small steps the next boundary, the advance of an anchor and the last day of a month are right
exactly where the offsets around the months in question are in time. -/
theorem boundaries_move_forward_iff (z : Zone) (hcalm : z.Calm) (resetDay : Int) (hday : 1 ≤ resetDay) :
    (∀ now, NextAhead z resetDay now ↔ NextInTime z resetDay now) ∧
    (∀ anchor now, Advances z resetDay anchor now ↔ (anchor ≤ now → EndsInTime z resetDay anchor now)) ∧
    ∀ year month, lastDay z year month = daysIn (12 * year + (month - 1)) ↔
      ¬ SetBack z (12 * year + (month - 1)) := by
  refine ⟨fun now => ⟨nextInTime_of_nextAhead hcalm hday, nextAhead_of_nextInTime hcalm hday⟩,
    fun anchor now => ⟨fun h hanchor => endsInTime_of_advances hcalm hday hanchor h,
      advances_of_endsInTime hcalm hday⟩, fun year month => ?_⟩
  rw [lastDay_eq hcalm]
  split <;> simp_all

end Boundaries

/-! ## A midnight that is skipped -/

namespace SkippedMidnight

/-- Behind UTC by four hours, and by three from midnight of 1 October 2023 on: that midnight is skipped. -/
def zone : Zone := .change 1696132800 (-14400) (-10800) (by decide) (by decide)

def september : Int := 1693555200 * nanoseconds

def halfHourBefore : Int := (1696132800 - 1800) * nanoseconds

/-- Midnight of 1 October is given as 23:00 of 30 September, from where the next month is October again. -/
theorem advanceLoop_never_returns (fuel : Nat) :
    advanceLoop 1 halfHourBefore zone fuel september = none := by
  have hfixed : ∀ fuel, advanceLoop 1 halfHourBefore zone fuel
      ((1696132800 - 3600) * nanoseconds) = none := by
    intro fuel
    induction fuel with
    | zero => rfl
    | succ fuel ih =>
        have hsame : monthlyBoundary (zone.year ((1696132800 - 3600) * nanoseconds))
            (zone.month ((1696132800 - 3600) * nanoseconds) + 1) 1 zone =
              (1696132800 - 3600) * nanoseconds := by decide +kernel
        rw [advanceLoop, if_neg (by decide +kernel), hsame, ih]
  cases fuel with
  | zero => rfl
  | succ fuel =>
      have hnext : monthlyBoundary (zone.year september) (zone.month september + 1) 1 zone =
          (1696132800 - 3600) * nanoseconds := by decide +kernel
      rw [advanceLoop, if_neg (by decide +kernel), hnext, hfixed]

/-- The next boundary lies in the past, advancing to it never ends, and September is given 29 days. -/
theorem skipped_midnight_stops_resets :
    threeXUIResetBoundary halfHourBefore 1 (some zone) = some (halfHourBefore - 1800 * nanoseconds) ∧
      (∀ fuel, advanceThreeXUIResetBoundary fuel (some september) 1 halfHourBefore (some zone) = none) ∧
      lastDay zone 2023 9 = 29 := by
  refine ⟨by decide +kernel, fun fuel => ?_, by decide +kernel⟩
  rw [advanceThreeXUIResetBoundary, if_neg (by decide)]
  exact congrArg (Option.map _) (advanceLoop_never_returns fuel)

def hourBefore : Int := (1696132800 - 3601) * nanoseconds

def nextJanuary : Int := 1736899200 * nanoseconds

/-- The midnight is only skipped for those who are past 23:00 of the day before. -/
theorem resets_until_skipped_midnight :
    zone.Calm ∧ NextAhead zone 1 hourBefore ∧ Advances zone 1 september hourBefore ∧
      NextAhead zone 31 nextJanuary ∧ lastDay zone 2023 10 = 31 := by
  have hcalm : zone.Calm := Zone.calm_change (by decide)
  have hfirst : ∀ month, ¬ DayEarly zone 1 month := fun month h => by
    have := daysIn_bounds month
    have := h.1
    omega
  have hahead : ∀ month, zone.monthIndex september < month → Before zone hourBefore (midnight 1 month) := by
    intro month hmonth
    have hnext : Before zone hourBefore (midnight 1 (zone.monthIndex september + 1)) := by decide +kernel
    rw [before_iff] at *
    exact hnext.trans_le ((clampedBoundary_strictMono hcalm (by decide)).monotone hmonth)
  have hone := boundaries_move_forward_iff zone hcalm 1 (by decide)
  refine ⟨hcalm, (hone.1 _).2 ⟨fun _ => by decide +kernel, fun h => absurd h (hfirst _)⟩,
    (hone.2.1 _ _).2 fun _ => ⟨fun _ month hmonth hpast => absurd (hahead month hmonth) hpast,
      fun month _ _ _ => hfirst month⟩, ?_, (hone.2.2 2023 10).2 (by decide +kernel)⟩
  refine ((boundaries_move_forward_iff zone hcalm 31 (by decide)).1 _).2 ⟨fun h => absurd h (by decide), fun h => ?_⟩
  exact absurd h (by decide +kernel)

end SkippedMidnight

end Center
end Vastora
