import Vastora.Library.Months

/-!
# TimeZone — instants, wall clocks and the dates asked of them

A zone gives each second the period it lies in and the offset in force there.  `Zone.date` finds an instant
for a date and time on the wall clock: it tries the offset that the wall clock, read as UTC, would have,
and takes the one in force at the outcome where the outcome has left that period.  The wall clock may show
another time there than the one asked for; `Zone.drift` is the difference, which is one of offsets.
-/

namespace Vastora
namespace Library

open Months

/-- A stretch of time with one offset from UTC, in seconds; an end that is missing is infinite. -/
structure Period where
  offset : Int
  start : Option Int
  stop : Option Int

def Period.has (p : Period) (t : Int) : Bool := p.start.all (· ≤ t) && p.stop.all (t < ·)

structure Zone where
  lookup : Int → Period
  lookup_has : ∀ t, (lookup t).has t
  constant : ∀ t u, (lookup t).has u → (lookup u).offset = (lookup t).offset
  bounded : ∀ t, -86400 < (lookup t).offset ∧ (lookup t).offset < 86400

def secondsPerDay : Int := 86400

def nanoseconds : Int := 1000000000

/-- The second that an instant, in nanoseconds, lies in. -/
def unix (t : Int) : Int := t / nanoseconds

namespace Zone

/-- One offset for ever. -/
def fixed (offset : Int) (h : -86400 < offset ∧ offset < 86400) : Zone where
  lookup _ := ⟨offset, none, none⟩
  lookup_has _ := rfl
  constant _ _ _ := rfl
  bounded _ := h

def utc : Zone := fixed 0 (by decide)

/-- A change of the offset at one second. -/
def change (change before after : Int) (hb : -86400 < before ∧ before < 86400)
    (ha : -86400 < after ∧ after < 86400) : Zone where
  lookup t := if t < change then ⟨before, none, some change⟩ else ⟨after, some change, none⟩
  lookup_has t := by
    split
    · simpa [Period.has]
    · simpa [Period.has] using not_lt.1 ‹_›
  constant t u h := by
    split at h
    · have hu : u < change := by simpa [Period.has] using h
      rw [if_pos hu, if_pos ‹_›]
    · have hu : change ≤ u := by simpa [Period.has] using h
      rw [if_neg (not_lt.2 hu), if_neg ‹_›]
  bounded t := by
    split
    · exact hb
    · exact ha

variable (z : Zone)

/-! ## Wall clocks -/

/-- The date and time on the wall clock, in seconds as if it were UTC. -/
def wall (t : Int) : Int := unix t + (z.lookup (unix t)).offset

def monthIndex (t : Int) : Int := monthOf (z.wall t / secondsPerDay)

def year (t : Int) : Int := z.monthIndex t / 12

def month (t : Int) : Int := z.monthIndex t % 12 + 1

def day (t : Int) : Int := z.wall t / secondsPerDay - firstDay (z.monthIndex t) + 1

def clock (t : Int) : Int := z.wall t % secondsPerDay

/-! ## Dates -/

/-- The second at which the wall clock is asked to show `wall`. -/
def instant (wall : Int) : Int :=
  let period := z.lookup wall
  if period.offset = 0 then wall
  else
    let utc := wall - period.offset
    if period.has utc then utc else wall - (z.lookup utc).offset

/-- `time.Date`; months and days beyond their range count on into the next. -/
def date (year month day seconds nanos : Int) : Int :=
  z.instant (secondsPerDay * (firstDay (12 * year + (month - 1)) + day - 1) + seconds) * nanoseconds + nanos

/-- `Time.AddDate`. -/
def addDate (t years months days : Int) : Int :=
  z.date (z.year t + years) (z.month t + months) (z.day t + days) (z.clock t) (t % nanoseconds)

/-! ## Offsets -/

/-- The offset in force at a second. -/
def offset (s : Int) : Int := (z.lookup s).offset

/-- The offset that a time on the wall clock is read with. -/
def used (wall : Int) : Int := z.offset (wall - z.offset wall)

/-- By how much the offset in force exceeds the one that the time was read with, and the wall clock the time
asked for. -/
def drift (wall : Int) : Int := z.offset (wall - z.used wall) - z.used wall

/-- Steps of at most a few hours: within three days the offset moves by less than half a day. -/
def Calm : Prop := ∀ s t : Int, s - t ≤ 3 * 86400 → t - s ≤ 3 * 86400 → z.offset s - z.offset t < 43200

variable {z} {wall : Int}

theorem unix_mul (s : Int) : unix (s * nanoseconds) = s :=
  Int.mul_ediv_cancel s (by decide)

theorem lt_mul_nanoseconds_iff {t s : Int} : t < s * nanoseconds ↔ unix t < s :=
  (Int.ediv_lt_iff_lt_mul (by decide)).symm

/-- In its period a second has the offset of the period, and outside it the offset in force is taken: the
outcome always has the offset in force at the first guess. -/
theorem instant_eq : z.instant wall = wall - z.used wall := by
  unfold instant used offset
  dsimp only
  split_ifs with hzero hhas
  · rw [hzero, Int.sub_zero, hzero, Int.sub_zero]
  · rw [z.constant _ _ hhas]
  · rfl

theorem lt_instant_iff {t : Int} : t < z.instant wall * nanoseconds ↔ unix t + z.used wall < wall := by
  rw [lt_mul_nanoseconds_iff, instant_eq]
  omega

theorem instant_bounds (z : Zone) (wall : Int) :
    wall - secondsPerDay < z.instant wall ∧ z.instant wall < wall + secondsPerDay := by
  have h : -86400 < z.used wall ∧ z.used wall < 86400 := z.bounded (wall - z.offset wall)
  rw [instant_eq, secondsPerDay]
  omega

theorem wall_instant (z : Zone) (wall : Int) :
    z.wall (z.instant wall * nanoseconds) = wall + z.drift wall := by
  have hoffset : (z.lookup (z.instant wall)).offset = z.offset (wall - z.used wall) := by
    rw [instant_eq]
    rfl
  rw [Zone.wall, unix_mul, hoffset, instant_eq, drift]
  omega

section Calm

variable (hcalm : z.Calm)

include hcalm

/-- Near a time on the wall clock no offset is far from the one that the time is read with. -/
theorem Calm.used_near (wall : Int) {s : Int} (hlow : wall - 2 * 86400 ≤ s) (hhigh : s ≤ wall + 2 * 86400) :
    z.offset s - z.used wall < 43200 ∧ z.used wall - z.offset s < 43200 := by
  have h : -86400 < z.offset wall ∧ z.offset wall < 86400 := z.bounded wall
  exact ⟨hcalm _ _ (by omega) (by omega), hcalm _ _ (by omega) (by omega)⟩

theorem Calm.drift_bounds (wall : Int) : -43200 < z.drift wall ∧ z.drift wall < 43200 := by
  have hused : -86400 < z.used wall ∧ z.used wall < 86400 := z.bounded (wall - z.offset wall)
  have hnear := hcalm.used_near wall (s := wall - z.used wall) (by omega) (by omega)
  unfold drift
  omega

end Calm

theorem calm_change {second before after : Int} {hb : -86400 < before ∧ before < 86400}
    {ha : -86400 < after ∧ after < 86400} (h : before - after < 43200 ∧ after - before < 43200) :
    (change second before after hb ha).Calm := by
  intro s t _ _
  unfold offset change
  dsimp only
  split <;> split <;> dsimp only <;> omega

/-- The year and the month of a date make up its month. -/
theorem year_month (z : Zone) (t k : Int) :
    12 * z.year t + (z.month t + k - 1) = z.monthIndex t + k := by
  unfold year month
  omega

/-- The day before is asked for at the time that the wall clock shows. -/
theorem addDate_pred (z : Zone) (t : Int) :
    z.addDate t 0 0 (-1) = z.instant (z.wall t - secondsPerDay) * nanoseconds + t % nanoseconds := by
  have hmonth : 12 * (z.year t + 0) + (z.month t + 0 - 1) = z.monthIndex t := by
    rw [Int.add_zero, year_month, Int.add_zero]
  have hwall : secondsPerDay * (z.wall t / secondsPerDay) + z.wall t % secondsPerDay = z.wall t :=
    Int.mul_ediv_add_emod _ _
  have hasked : secondsPerDay * (firstDay (z.monthIndex t) + (z.day t + -1) - 1) + z.clock t =
      z.wall t - secondsPerDay := by
    unfold day clock
    rw [secondsPerDay] at *
    omega
  rw [addDate, date, hmonth, hasked]

end Zone

end Library
end Vastora
