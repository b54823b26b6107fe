import Mathlib.Tactic.Common
import Mathlib.Algebra.Order.Group.Nat

/-!
# FailureWindow — failures in a fixed window with a lockout

Failures are counted in a window that starts with the first of them.  A failure after the end of the window
starts a new one, and the failure that reaches the limit starts the window again and locks for its length.

An interval that is shorter than a window can still meet two of them: the end of one, without its first failure
and without a lock, and the start of the next.  `room` is how many more failures such an interval has place for,
and it shrinks with every failure (`room_fail`), so there are at most `2 * limit - 2` of them.
-/

namespace Vastora
namespace Library

/-- The count of failures, and when they were started to be counted. -/
structure FailureWindow where
  count : Nat
  started : Nat
deriving DecidableEq

namespace FailureWindow

variable (length limit : Nat)

/-- The window that a failure is counted in, before it is counted. -/
def current (previous : Option FailureWindow) (now : Nat) : FailureWindow :=
  match previous with
  | none => ⟨0, now⟩
  | some w => if now < w.started + length then w else ⟨0, now⟩

def fail (previous : Option FailureWindow) (now : Nat) : FailureWindow :=
  let w := current length previous now
  if limit ≤ w.count + 1 then ⟨w.count + 1, now⟩ else ⟨w.count + 1, w.started⟩

/-- The failures that an interval from `first` on, shorter than a window, has place for. -/
def room (first : Nat) (w : FailureWindow) : Nat :=
  if first ≤ w.started then limit - w.count else (limit - 1 - w.count) + limit

variable {length limit} {first now : Nat} {w : FailureWindow}

theorem current_of_lt (h : now < w.started + length) : current length (some w) now = w := if_pos h

theorem current_of_le (h : w.started + length ≤ now) : current length (some w) now = ⟨0, now⟩ :=
  if_neg (not_lt.2 h)

theorem fail_count (previous : Option FailureWindow) (now : Nat) :
    (fail length limit previous now).count = (current length previous now).count + 1 := by
  unfold fail
  dsimp only
  split <;> rfl

theorem fail_started (previous : Option FailureWindow) (now : Nat) :
    (fail length limit previous now).started =
      if limit ≤ (current length previous now).count + 1 then now else (current length previous now).started := by
  unfold fail
  dsimp only
  split <;> rfl

/-- Every failure of the interval takes some of the room. -/
theorem room_fail (hw : w.count < limit) (hfirst : first ≤ now) (hnow : now < first + length) :
    room limit first (fail length limit (some w) now) + 1 ≤ room limit first w := by
  unfold room
  rw [fail_count, fail_started]
  by_cases hwindow : now < w.started + length
  · rw [current_of_lt hwindow]
    split_ifs <;> omega
  · -- Only a window that was started before the interval can end in it.
    have hstale : ¬ first ≤ w.started := by omega
    rw [current_of_le (not_lt.1 hwindow), if_neg hstale]
    split_ifs <;> omega

/-- The first failure of the interval. -/
theorem room_first {previous : Option FailureWindow} (hlimit : 2 ≤ limit)
    (hprevious : ∀ w, previous = some w → 0 < w.count) :
    room limit now (fail length limit previous now) + 1 ≤ 2 * limit - 2 := by
  unfold room
  rw [fail_count, fail_started]
  cases previous with
  | none =>
      have hcurrent : current length none now = ⟨0, now⟩ := rfl
      rw [hcurrent]
      dsimp only
      split_ifs <;> omega
  | some w =>
      have hcount := hprevious w rfl
      by_cases hwindow : now < w.started + length
      · rw [current_of_lt hwindow]
        split_ifs <;> omega
      · rw [current_of_le (not_lt.1 hwindow)]
        dsimp only
        split_ifs <;> omega

end FailureWindow

end Library
end Vastora
