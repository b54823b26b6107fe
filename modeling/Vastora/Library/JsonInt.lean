import Vastora.Library.Float64
import Vastora.Library.JsonText

/-!
# JsonInt — integers as JSON numbers
-/

namespace Vastora
namespace Library

theorem isUnsigned_toDigits (n : Nat) : isUnsigned (Nat.toDigits 10 n) := by
  by_cases h : n = 0
  · subst h
    rfl
  · obtain ⟨c, cs, hcs, hdigit, hne, hall⟩ := Float64.toDigits_head h
    rw [hcs, ← List.append_nil cs]
    exact Float64.isUnsigned_of_digits cs [] hdigit hne hall (by simp) rfl

/-- The decimal literal of an integer. -/
def NumberLiteral.ofInt : Int → NumberLiteral
  | .ofNat n => ⟨String.ofList (Nat.toDigits 10 n), by
      rw [String.toList_ofList]
      exact Float64.isNumber_of_isUnsigned (isUnsigned_toDigits n)⟩
  | .negSucc n => ⟨String.ofList ('-' :: Nat.toDigits 10 (n + 1)), by
      rw [String.toList_ofList]
      exact isUnsigned_toDigits (n + 1)⟩

def Json.int (n : Int) : Json := .number (.ofInt n)

end Library
end Vastora
