import Mathlib.Data.List.ReduceOption
import Mathlib.Tactic.Common

/-!
# FirstMatch — ordered rules, of which the first that applies decides

`select hits target rules d` is the target of the first rule that `hits`, or `d`.  The lemmas say what
happens to the decision when rules are put in front, when some rules are copied to the front with a
changed condition, and when one rule is moved to the front.
-/

namespace Vastora
namespace Library
namespace FirstMatch

variable {ρ τ : Type*}

/-- The target of the first rule that applies, or the default. -/
def select (hits : ρ → Bool) (target : ρ → τ) (rules : List ρ) (d : τ) : τ :=
  match rules.find? hits with
  | some r => target r
  | none => d

/-- The first element with the property is moved to the front. -/
def moveToFront (p : ρ → Bool) (rules : List ρ) : List ρ :=
  match rules.find? p with
  | some r => r :: rules.eraseP p
  | none => rules

variable {hits keep p : ρ → Bool} {target : ρ → τ} {rules pre post : List ρ} {r : ρ} {d : τ}

theorem select_cons : select hits target (r :: rules) d =
    if hits r then target r else select hits target rules d := by
  cases h : hits r <;> simp [select, h]

theorem select_append : select hits target (pre ++ rules) d =
    select hits target pre (select hits target rules d) := by
  unfold select
  rw [List.find?_append]
  cases pre.find? hits <;> rfl

/-- Rules that do not apply decide nothing. -/
theorem select_of_not_hit (h : ∀ r ∈ rules, hits r = false) : select hits target rules d = d := by
  have hnone : rules.find? hits = none := List.find?_eq_none.2 fun r hr => by simp [h r hr]
  rw [select, hnone]

/-- The decision is the default or the target of a rule that applies. -/
theorem select_cases (hits : ρ → Bool) (target : ρ → τ) (rules : List ρ) (d : τ) :
    (∀ r ∈ rules, hits r = false) ∧ select hits target rules d = d ∨
      ∃ r ∈ rules, hits r ∧ select hits target rules d = target r := by
  cases h : rules.find? hits with
  | none =>
      refine Or.inl ⟨fun r hr => ?_, by rw [select, h]⟩
      simpa using List.find?_eq_none.1 h r hr
  | some r =>
      exact Or.inr ⟨r, List.mem_of_find?_eq_some h, List.find?_some h, by rw [select, h]⟩

/-- No rule has the property, or there is a first one that has it. -/
theorem exists_first (q : ρ → Prop) (rules : List ρ) :
    (∀ r ∈ rules, ¬ q r) ∨ ∃ pre r post, rules = pre ++ r :: post ∧ (∀ r' ∈ pre, ¬ q r') ∧ q r := by
  induction rules with
  | nil => exact Or.inl (by simp)
  | cons r rules ih =>
      by_cases hr : q r
      · exact Or.inr ⟨[], r, rules, rfl, by simp, hr⟩
      · rcases ih with ih | ⟨pre, r', post, rfl, hpre, hr'⟩
        · exact Or.inl (List.forall_mem_cons.2 ⟨hr, ih⟩)
        · exact Or.inr ⟨r :: pre, r', post, rfl, List.forall_mem_cons.2 ⟨hr, hpre⟩, hr'⟩

/-- A copy applies where its rule applies and is to be kept, and has the same target; without a copy
there is nothing to keep. -/
def IsCopy (hits keep : ρ → Bool) (target : ρ → τ) (r : ρ) : Option ρ → Prop
  | some r' => hits r' = (hits r && keep r) ∧ target r' = target r
  | none => (hits r && keep r) = false

/-- Copies decide like the rules they stand for. -/
theorem select_copies {copies : List (Option ρ)}
    (h : List.Forall₂ (IsCopy hits keep target) rules copies) :
    select hits target copies.reduceOption d =
      select (fun r => hits r && keep r) target rules d := by
  induction h with
  | nil => rfl
  | @cons r r' rules copies hr _ ih =>
      cases r' with
      | none =>
          rw [List.reduceOption_cons_of_none, select_cons, hr, ih]
          rfl
      | some r' =>
          rw [List.reduceOption_cons_of_some, select_cons, select_cons, hr.1, hr.2, ih]

theorem moveToFront_append (hpre : ∀ r' ∈ pre, ¬ p r') (hr : p r) :
    moveToFront p (pre ++ r :: post) = r :: (pre ++ post) := by
  have hfind : (pre ++ r :: post).find? p = some r := by
    rw [List.find?_append, List.find?_eq_none.2 hpre, List.find?_cons_of_pos hr, Option.none_or]
  rw [moveToFront, hfind, List.eraseP_append_right _ hpre, List.eraseP_cons_of_pos hr]

/-- Moving a rule to the front keeps the decision when no rule before it applies with it. -/
theorem select_moveToFront (hpre : ∀ r' ∈ pre, ¬ p r') (hr : p r)
    (h : hits r → ∀ r' ∈ pre, hits r' = false) :
    select hits target (moveToFront p (pre ++ r :: post)) d =
      select hits target (pre ++ r :: post) d := by
  rw [moveToFront_append hpre hr, select_cons, select_append, select_append, select_cons]
  by_cases hhit : hits r
  · rw [if_pos hhit, if_pos hhit, select_of_not_hit (h hhit)]
  · rw [if_neg hhit, if_neg hhit]

theorem moveToFront_cons (h : p r) : moveToFront p (r :: rules) = r :: rules := by
  simp [moveToFront, h]

theorem moveToFront_idempotent (p : ρ → Bool) (rules : List ρ) :
    moveToFront p (moveToFront p rules) = moveToFront p rules := by
  cases hfind : rules.find? p with
  | none => simp [moveToFront, hfind]
  | some r =>
      have hmoved : moveToFront p rules = r :: rules.eraseP p := by rw [moveToFront, hfind]
      rw [hmoved, moveToFront_cons (List.find?_some hfind)]

theorem mem_moveToFront : r ∈ moveToFront p rules ↔ r ∈ rules := by
  unfold moveToFront
  cases hfind : rules.find? p with
  | none => rfl
  | some r' =>
      obtain ⟨hr, pre, post, rfl, hpre⟩ := List.find?_eq_some_iff_append.1 hfind
      have hpre' : ∀ r' ∈ pre, ¬ p r' := fun r' hr' => by simpa using hpre r' hr'
      simp only [List.eraseP_append_right _ hpre', List.eraseP_cons_of_pos hr, List.mem_cons,
        List.mem_append]
      tauto

/-! ## Sorted rules -/

/-- In a sorted list the first element with a property stands before the others that have it. -/
theorem rel_of_find? {R : ρ → ρ → Prop} {a b : ρ} (hrules : rules.Pairwise R) (hfind : rules.find? p = some a)
    (hb : b ∈ rules) (hpb : p b) : a = b ∨ R a b := by
  obtain ⟨-, pre, post, rfl, hpre⟩ := List.find?_eq_some_iff_append.1 hfind
  rcases List.mem_append.1 hb with hb | hb
  · have hnot := hpre b hb
    simp [hpb] at hnot
  · rcases List.mem_cons.1 hb with rfl | hb
    · exact Or.inl rfl
    · have htail := (List.pairwise_append.1 hrules).2.1
      exact Or.inr ((List.pairwise_cons.1 htail).1 b hb)

/-- An element with the property that no other one with it may stand before is the first. -/
theorem find?_eq_some_of_pairwise {R : ρ → ρ → Prop} {a : ρ} (hrules : rules.Pairwise R) (ha : a ∈ rules)
    (hpa : p a) (h : ∀ b ∈ rules, p b → b = a ∨ ¬ R b a) : rules.find? p = some a := by
  cases hfind : rules.find? p with
  | none => exact absurd hpa (List.find?_eq_none.1 hfind a ha)
  | some b =>
      rcases h b (List.mem_of_find?_eq_some hfind) (List.find?_some hfind) with rfl | hnot
      · rfl
      · rcases rel_of_find? hrules hfind ha hpa with rfl | hrel
        · rfl
        · exact absurd hrel hnot

end FirstMatch
end Library
end Vastora
