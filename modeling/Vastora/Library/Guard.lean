import Mathlib.Data.List.Forall2
import Mathlib.Tactic.Common

/-!
# Guard — fallible functions as sequences of checks

A function that stops at its first failed check is a chain of `require` and `fetch` in `Except`.  Each
lemma peels one link off a chain that has returned.
-/

namespace Vastora
namespace Library
namespace Guard

variable {ε α β : Type*}

def require (b : Bool) (err : ε) : Except ε Unit :=
  if b then .ok () else .error err

/-- The value that was found, or `err` when there is none. -/
def fetch (found : Option α) (err : ε) : Except ε α :=
  match found with
  | some a => .ok a
  | none => .error err

variable {b : Bool} {err : ε}

theorem bind_eq_ok_iff {ε α β : Type} {x : Except ε α} {k : α → Except ε β} {r : β} :
    (x >>= k) = .ok r ↔ ∃ a, x = .ok a ∧ k a = .ok r := by
  cases x <;> simp [bind, Except.bind]

theorem require_eq_ok_iff {u : Unit} : require b err = .ok u ↔ b = true := by
  cases b <;> simp [require]

theorem require_bind_eq_ok_iff {ε α : Type} {err : ε} {k : Unit → Except ε α} {r : α} :
    (require b err >>= k) = .ok r ↔ b = true ∧ k () = .ok r := by
  cases b <;> simp [require, bind, Except.bind]

theorem fetch_eq_ok_iff {found : Option α} {a : α} : fetch found err = .ok a ↔ found = some a := by
  cases found <;> simp [fetch]

theorem fetch_bind_eq_ok_iff {ε α β : Type} {err : ε} {found : Option α} {k : α → Except ε β}
    {r : β} : (fetch found err >>= k) = .ok r ↔ ∃ a, found = some a ∧ k a = .ok r := by
  cases found <;> simp [fetch, bind, Except.bind]

theorem pure_eq_ok_iff {a r : α} : (pure a : Except ε α) = .ok r ↔ a = r := by
  simp [pure, Except.pure]

theorem toOption_eq_some_iff {x : Except ε α} {a : α} : x.toOption = some a ↔ x = .ok a := by
  cases x <;> simp [Except.toOption]

/-- A function that has returned a value with some property. -/
theorem any_toOption_iff {x : Except ε α} {p : α → Bool} :
    x.toOption.any p = true ↔ ∃ a, x = .ok a ∧ p a = true := by
  cases x <;> simp [Except.toOption]

/-- A loop that collects one result per element. -/
theorem mapM_eq_ok_iff {ε α β : Type} {f : α → Except ε β} {xs : List α} {ys : List β} :
    xs.mapM f = .ok ys ↔ List.Forall₂ (fun x y => f x = .ok y) xs ys := by
  induction xs generalizing ys with
  | nil =>
      rw [List.mapM_nil, pure_eq_ok_iff, List.forall₂_nil_left_iff, eq_comm]
  | cons x xs ih =>
      rw [List.mapM_cons, List.forall₂_cons_left_iff]
      simp only [bind_eq_ok_iff, pure_eq_ok_iff]
      constructor
      · rintro ⟨y, hy, zs, hzs, rfl⟩
        exact ⟨y, zs, hy, ih.1 hzs, rfl⟩
      · rintro ⟨y, zs, hy, hzs, rfl⟩
        exact ⟨y, hy, zs, ih.2 hzs, rfl⟩

/-- Every element of a loop that has returned has a result. -/
theorem exists_of_mapM_ok {ε α β : Type} {f : α → Except ε β} {xs : List α} {ys : List β} {x : α}
    (h : xs.mapM f = .ok ys) (hx : x ∈ xs) : ∃ y ∈ ys, f x = .ok y := by
  induction mapM_eq_ok_iff.1 h with
  | nil => cases hx
  | @cons x' y xs ys hy hrest ih =>
      rcases List.mem_cons.1 hx with rfl | hx
      · exact ⟨y, by simp, hy⟩
      · obtain ⟨y', hy', hf⟩ := ih (mapM_eq_ok_iff.2 hrest) hx
        exact ⟨y', by simp [hy'], hf⟩

/-- Every result of a loop that has returned comes from an element. -/
theorem mem_of_mapM_ok {ε α β : Type} {f : α → Except ε β} {xs : List α} {ys : List β} {y : β}
    (h : xs.mapM f = .ok ys) (hy : y ∈ ys) : ∃ x ∈ xs, f x = .ok y := by
  induction mapM_eq_ok_iff.1 h with
  | nil => cases hy
  | @cons x y' xs ys hx hrest ih =>
      rcases List.mem_cons.1 hy with rfl | hy
      · exact ⟨x, by simp, hx⟩
      · obtain ⟨x', hx', hf⟩ := ih (mapM_eq_ok_iff.2 hrest) hy
        exact ⟨x', by simp [hx'], hf⟩

/-- The results of a loop that copies a key of its elements. -/
theorem map_of_mapM_ok {ε α β κ : Type} {f : α → Except ε β} {xs : List α} {ys : List β}
    {key : α → κ} {key' : β → κ} (h : xs.mapM f = .ok ys)
    (hkey : ∀ x y, f x = .ok y → key' y = key x) : ys.map key' = xs.map key := by
  induction mapM_eq_ok_iff.1 h with
  | nil => rfl
  | cons hy hrest ih => rw [List.map_cons, List.map_cons, hkey _ _ hy, ih (mapM_eq_ok_iff.2 hrest)]

/-- A loop that fetches one value per element. -/
theorem mapM_fetch_eq_ok_iff {ε α β : Type} {f : α → Option β} {err : ε} {xs : List α}
    {ys : List β} : (xs.mapM fun x => fetch (f x) err) = .ok ys ↔ xs.mapM f = some ys := by
  induction xs generalizing ys with
  | nil => rw [List.mapM_nil, List.mapM_nil, pure_eq_ok_iff, Option.pure_def, Option.some_inj]
  | cons x xs ih =>
      simp only [List.mapM_cons, bind_eq_ok_iff, fetch_eq_ok_iff, pure_eq_ok_iff, ih,
        Option.bind_eq_bind, Option.bind_eq_some_iff, Option.pure_def, Option.some.injEq]

/-- A loop of checks. -/
theorem forM_eq_ok_iff {ε α : Type} {f : α → Except ε Unit} {xs : List α} {u : Unit} :
    xs.forM f = .ok u ↔ ∀ x ∈ xs, f x = .ok () := by
  induction xs with
  | nil => simp [pure, Except.pure]
  | cons x xs ih =>
      have hstep : (x :: xs).forM f = (f x >>= fun _ => xs.forM f) := rfl
      rw [hstep, bind_eq_ok_iff, List.forall_mem_cons]
      simp only [ih, exists_and_right]
      exact and_congr_left fun _ => ⟨fun ⟨_, h⟩ => h, fun h => ⟨(), h⟩⟩

end Guard
end Library
end Vastora
