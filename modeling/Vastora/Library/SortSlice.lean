import Mathlib.Data.List.Sort
import Mathlib.Data.Prod.Lex
import Mathlib.Data.String.Basic
import Mathlib.Order.BooleanAlgebra.Basic

/-!
# SortSlice — sorting by a comparison, without stability

A `Sorter` returns the elements of a list in an order that the comparison allows; elements that compare
equal may come out in any order.  The result is determined by the elements alone exactly when no two
different ones compare equal (`Sorter.sort_eq_of_perm`, `Sorter.exists_perm_sort_ne`).
-/

namespace Vastora
namespace Library

/-- A sorting routine for comparisons by a key.  Nothing is said about equal keys, but all that it learns
of the elements is how they compare. -/
structure Sorter where
  sort : {α : Type} → (α → α → Bool) → List α → List α
  perm : ∀ {α : Type} (less : α → α → Bool) (l : List α), (sort less l).Perm l
  sorted : ∀ {α κ : Type} [LinearOrder κ] (key : α → κ) (less : α → α → Bool) (l : List α),
    (∀ a b, less a b = true ↔ key a < key b) → (sort less l).Pairwise fun a b => key a ≤ key b
  natural : ∀ {α : Type} (less : α → α → Bool) (f : α → α) (l : List α),
    (∀ a b, less (f a) (f b) = less a b) → sort less (l.map f) = (sort less l).map f

/-- Insertion sort, which leaves equal elements in place. -/
def insertionSorter : Sorter where
  sort less l := l.insertionSort fun a b => less b a = false
  perm _ l := List.perm_insertionSort _ l
  sorted := by
    intro α κ _ key less l hkey
    have hrel : ∀ a b, less b a = false ↔ key a ≤ key b := by
      intro a b
      rw [← not_lt, ← hkey, Bool.not_eq_true]
    have htotal : Std.Total fun a b => less b a = false :=
      ⟨fun a b => by rw [hrel, hrel]; exact le_total _ _⟩
    have htrans : IsTrans α fun a b => less b a = false :=
      ⟨fun a b c hab hbc => by rw [hrel] at *; exact hab.trans hbc⟩
    exact (List.pairwise_insertionSort (fun a b => less b a = false) l).imp fun h => (hrel _ _).1 h
  natural := by
    intro α less f l hf
    refine (List.map_insertionSort (fun a b => less b a = false) _ f l fun a _ b _ => ?_).symm
    rw [hf]

namespace Sorter

variable {α κ : Type} [LinearOrder κ] {key : α → κ} {less : α → α → Bool} {l l' : List α}

theorem mem_sort {s : Sorter} {a : α} : a ∈ s.sort less l ↔ a ∈ l := (s.perm less l).mem_iff

/-- The order of a list does not matter when its keys tell its elements apart. -/
theorem sort_eq_of_perm (s s' : Sorter) (hless : ∀ a b, less a b = true ↔ key a < key b)
    (hinj : ∀ a ∈ l, ∀ b ∈ l, key a = key b → a = b) (h : l.Perm l') :
    s.sort less l = s'.sort less l' := by
  refine List.Perm.eq_of_pairwise ?_ (s.sorted key less l hless) (s'.sorted key less l' hless)
    (((s.perm less l).trans h).trans (s'.perm less l').symm)
  intro a b ha hb hab hba
  have ha' := mem_sort.1 ha
  have hb' := h.mem_iff.2 (mem_sort.1 hb)
  exact hinj a ha' b hb' (le_antisymm hab hba)

/-- Where two different elements have one key, their exchange is seen in the result. -/
theorem exists_perm_sort_ne (s : Sorter) (hless : ∀ a b, less a b = true ↔ key a < key b) {a b : α}
    (hnodup : l.Nodup) (ha : a ∈ l) (hb : b ∈ l) (hne : a ≠ b) (hkey : key a = key b) :
    ∃ l', l.Perm l' ∧ s.sort less l' ≠ s.sort less l := by
  classical
  have hswap : ∀ x, key (Equiv.swap a b x) = key x := by
    intro x
    rw [Equiv.swap_apply_def]
    split_ifs with hxa hxb
    · rw [hxa, hkey]
    · rw [hxb, hkey]
    · rfl
  have hmem : ∀ x, x ∈ l ↔ Equiv.swap a b x ∈ l := by
    intro x
    rw [Equiv.swap_apply_def]
    split_ifs with hxa hxb
    · simp [hxa, ha, hb]
    · simp [hxb, ha, hb]
    · rfl
  have hnatural : s.sort less (l.map (Equiv.swap a b)) = (s.sort less l).map (Equiv.swap a b) := by
    refine s.natural less _ l fun x y => ?_
    rw [Bool.eq_iff_iff, hless, hless, hswap, hswap]
  refine ⟨l.map (Equiv.swap a b), ?_, ?_⟩
  · refine (List.perm_ext_iff_of_nodup hnodup (hnodup.map (Equiv.swap a b).injective)).2 fun x => ?_
    rw [hmem x]
    constructor
    · intro hx
      exact List.mem_map.2 ⟨_, hx, Equiv.swap_apply_self a b x⟩
    · intro hx
      obtain ⟨y, hy, rfl⟩ := List.mem_map.1 hx
      rwa [Equiv.swap_apply_self]
  · intro hsame
    have hfixed : (s.sort less l).map (Equiv.swap a b) = (s.sort less l).map id := by
      rw [← hnatural, hsame, List.map_id]
    have hab : Equiv.swap a b a = a := List.map_inj_left.1 hfixed a (mem_sort.2 ha)
    rw [Equiv.swap_apply_left] at hab
    exact hne hab.symm

end Sorter

end Library
end Vastora
