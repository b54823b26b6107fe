import Mathlib.Data.List.Range
import Mathlib.Tactic.Common

/-!
# Run — histories of fallible atomic operations

A store is driven by operations that either commit a new state or fail and leave the state as it
was.  `run` is the state after a list of attempted operations and `successes` the operations of
that list that committed, in order.  The rules below turn facts about one committed operation into
facts about whole histories:

* `run_induction` — what every commit preserves holds after every history, and `Along.induction` the
  same for the histories whose operations meet a condition;
* `history_induction` — the same for what is kept of a state together with the operations behind it;
* `not_hit_after` — once a permission is spent it is never granted again;
* `labels_eq_range'` — permissions that come in a sequence are granted in order, each once;
* `exists_trigger` — a condition that only one kind of operation establishes was established by it.
-/

namespace Vastora
namespace Library
namespace Run

variable {σ ω ε : Type*} (step : ω → σ → Except ε σ)

/-- The state after attempting one operation: a failed one changes nothing. -/
def attempt (o : ω) (s : σ) : σ :=
  match step o s with
  | .ok s' => s'
  | .error _ => s

/-- The state after attempting a list of operations. -/
def run : List ω → σ → σ
  | [], s => s
  | o :: ops, s => run ops (attempt step o s)

/-- The operations of a list that committed, in order. -/
def successes : List ω → σ → List ω
  | [], _ => []
  | o :: ops, s =>
      match step o s with
      | .ok s' => o :: successes ops s'
      | .error _ => successes ops s

/-- Every operation of the list that commits meets `cond` in the state it is attempted in. -/
def Along (cond : ω → σ → Prop) : List ω → σ → Prop
  | [], _ => True
  | o :: ops, s => (∀ s', step o s = .ok s' → cond o s) ∧ Along cond ops (attempt step o s)

/-- The states a history can lead to. -/
def Reachable (init : σ → Prop) (s : σ) : Prop := ∃ s₀ ops, init s₀ ∧ run step ops s₀ = s

variable {step} {o : ω} {s s' : σ} {ops : List ω} {err : ε}

theorem attempt_of_ok (h : step o s = .ok s') : attempt step o s = s' := by
  simp [attempt, h]

theorem attempt_of_error (h : step o s = .error err) : attempt step o s = s := by
  simp [attempt, h]

theorem run_append (xs ys : List ω) (s : σ) :
    run step (xs ++ ys) s = run step ys (run step xs s) := by
  induction xs generalizing s with
  | nil => rfl
  | cons o xs ih => exact ih _

/-! ## Rules for histories -/

/-- What every committed operation preserves holds after every history. -/
theorem run_induction {inv : σ → Prop} (hstep : ∀ o s s', inv s → step o s = .ok s' → inv s')
    (hs : inv s) : inv (run step ops s) := by
  induction ops generalizing s with
  | nil => exact hs
  | cons o ops ih =>
      refine ih ?_
      cases h : step o s with
      | ok s' =>
          rw [attempt_of_ok h]
          exact hstep o s s' hs h
      | error e =>
          rw [attempt_of_error h]
          exact hs

/-- What every committed operation keeps of the state and the operations before it, the newest first. -/
theorem history_induction {inv : List ω → σ → Prop}
    (hstep : ∀ o past s s', inv past s → step o s = .ok s' → inv (o :: past) s') {past : List ω} (hs : inv past s) :
    inv ((successes step ops s).reverse ++ past) (run step ops s) := by
  induction ops generalizing s past with
  | nil => exact hs
  | cons o ops ih =>
      cases ho : step o s with
      | ok s' =>
          have hnext := ih (hstep o past s s' hs ho)
          rw [run, attempt_of_ok ho, successes, ho]
          simpa using hnext
      | error e =>
          rw [run, attempt_of_error ho, successes, ho]
          exact ih hs

theorem Along.left {cond : ω → σ → Prop} {pre post : List ω} (h : Along step cond (pre ++ post) s) :
    Along step cond pre s := by
  induction pre generalizing s with
  | nil => trivial
  | cons o pre ih => exact ⟨h.1, ih h.2⟩

/-- What every committed operation that meets `cond` preserves holds after every history of such
operations. -/
theorem Along.induction {cond : ω → σ → Prop} {inv : σ → Prop}
    (hstep : ∀ o s s', inv s → cond o s → step o s = .ok s' → inv s') (hs : inv s)
    (h : Along step cond ops s) : inv (run step ops s) := by
  induction ops generalizing s with
  | nil => exact hs
  | cons o ops ih =>
      refine ih ?_ h.2
      cases ho : step o s with
      | ok s' =>
          rw [attempt_of_ok ho]
          exact hstep o s s' hs (h.1 s' ho) ho
      | error e =>
          rw [attempt_of_error ho]
          exact hs

theorem reachable_induction {init inv : σ → Prop} (hinit : ∀ s, init s → inv s)
    (hstep : ∀ o s s', inv s → step o s = .ok s' → inv s') (h : Reachable step init s) : inv s := by
  rcases h with ⟨s₀, ops, h0, rfl⟩
  exact run_induction hstep (hinit s₀ h0)

theorem Reachable.run {init : σ → Prop} (h : Reachable step init s) (ops : List ω) :
    Reachable step init (Run.run step ops s) := by
  rcases h with ⟨s₀, pre, h0, rfl⟩
  exact ⟨s₀, pre ++ ops, h0, run_append pre ops s₀⟩

theorem Reachable.commit {init : σ → Prop} (h : Reachable step init s) (ho : step o s = .ok s') :
    Reachable step init s' := by
  have := h.run [o]
  rwa [Run.run, Run.run, attempt_of_ok ho] at this

section Rules

variable {inv spent : σ → Prop} {trigger hit : ω → Prop} {lab : Type*} {label : ω → Option lab}
  {seq : Nat → lab} {taken : Nat → σ → Prop}

/-- No spent permission is granted in a history that starts with it spent. -/
theorem not_hit_of_spent (hinv : ∀ o s s', inv s → step o s = .ok s' → inv s')
    (hkeep : ∀ o s s', inv s → spent s → step o s = .ok s' → spent s')
    (hblock : ∀ o s s', inv s → spent s → step o s = .ok s' → ¬ hit o)
    (hs : inv s) (h : spent s) : ∀ o ∈ successes step ops s, ¬ hit o := by
  induction ops generalizing s with
  | nil => simp [successes]
  | cons o ops ih =>
      cases ho : step o s with
      | ok s' =>
          intro o' ho'
          rw [successes, ho, List.mem_cons] at ho'
          rcases ho' with rfl | ho'
          · exact hblock _ s s' hs h ho
          · exact ih (hinv o s s' hs ho) (hkeep o s s' hs h ho) o' ho'
      | error e =>
          intro o' ho'
          rw [successes, ho] at ho'
          exact ih hs h o' ho'

/-- After an operation that spends a permission, no later one is granted it. -/
theorem not_hit_after (hinv : ∀ o s s', inv s → step o s = .ok s' → inv s')
    (hspend : ∀ o s s', inv s → trigger o → step o s = .ok s' → spent s')
    (hkeep : ∀ o s s', inv s → spent s → step o s = .ok s' → spent s')
    (hblock : ∀ o s s', inv s → spent s → step o s = .ok s' → ¬ hit o) (hs : inv s)
    {pre post : List ω} (hsplit : successes step ops s = pre ++ o :: post) (ht : trigger o) :
    ∀ o' ∈ post, ¬ hit o' := by
  induction ops generalizing s pre with
  | nil => simp [successes] at hsplit
  | cons o₁ ops ih =>
      cases ho : step o₁ s with
      | error e =>
          rw [successes, ho] at hsplit
          exact ih hs hsplit
      | ok s' =>
          rw [successes, ho] at hsplit
          have hs' := hinv o₁ s s' hs ho
          cases pre with
          | cons p pre =>
              exact ih hs' (List.cons.inj hsplit).2
          | nil =>
              rcases List.cons.inj hsplit with ⟨rfl, rfl⟩
              exact not_hit_of_spent hinv hkeep hblock hs' (hspend _ s s' hs ht ho)

/-- A permission that spends itself is granted at most once. -/
theorem countP_successes_le_one {hit : ω → Bool}
    (hinv : ∀ o s s', inv s → step o s = .ok s' → inv s')
    (hspend : ∀ o s s', inv s → hit o → step o s = .ok s' → spent s')
    (hkeep : ∀ o s s', inv s → spent s → step o s = .ok s' → spent s')
    (hblock : ∀ o s s', inv s → spent s → step o s = .ok s' → ¬ hit o) (hs : inv s) :
    (successes step ops s).countP hit ≤ 1 := by
  induction ops generalizing s with
  | nil => simp [successes]
  | cons o ops ih =>
      cases ho : step o s with
      | error e =>
          rw [successes, ho]
          exact ih hs
      | ok s' =>
          rw [successes, ho]
          have hs' := hinv o s s' hs ho
          by_cases hh : hit o
          · have hrest : ∀ o' ∈ successes step ops s', ¬ hit o' :=
              not_hit_of_spent hinv hkeep hblock hs' (hspend o s s' hs hh ho)
            rw [List.countP_cons_of_pos hh, List.countP_eq_zero.2 hrest]
          · rw [List.countP_cons_of_neg hh]
            exact ih hs'

/-- Permissions that come in a sequence are granted in that order, each once, starting where the
state says. -/
theorem labels_eq_range' (htake : ∀ n o s s', taken n s → step o s = .ok s' →
      (∀ l, label o = some l → l = seq n ∧ taken (n + 1) s') ∧ (label o = none → taken n s'))
    {n : Nat} (hs : taken n s) :
    ∃ m, (successes step ops s).filterMap label = (List.range' n m).map seq ∧
      taken (n + m) (run step ops s) := by
  induction ops generalizing s n with
  | nil => exact ⟨0, rfl, hs⟩
  | cons o ops ih =>
      cases ho : step o s with
      | error e =>
          rw [successes, ho, run, attempt_of_error ho]
          exact ih hs
      | ok s' =>
          rw [successes, ho, run, attempt_of_ok ho]
          rcases htake n o s s' hs ho with ⟨hsome, hnone⟩
          cases hl : label o with
          | none =>
              rw [List.filterMap_cons_none hl]
              exact ih (hnone hl)
          | some l =>
              rcases hsome l hl with ⟨rfl, hs'⟩
              rcases ih hs' with ⟨m, hm, ht⟩
              refine ⟨m + 1, ?_, ?_⟩
              · rw [List.filterMap_cons_some hl, hm, List.range'_succ, List.map_cons]
              · rwa [Nat.add_assoc, Nat.add_comm 1 m] at ht

/-- A condition that only a trigger establishes was established by one. -/
theorem exists_trigger {cond : σ → Prop} (hinv : ∀ o s s', inv s → step o s = .ok s' → inv s')
    (hstep : ∀ o s s', inv s → ¬ cond s → step o s = .ok s' → cond s' → trigger o)
    (hs : inv s) (h0 : ¬ cond s) (h : cond (run step ops s)) :
    ∃ o ∈ successes step ops s, trigger o := by
  induction ops generalizing s with
  | nil => exact absurd h h0
  | cons o ops ih =>
      cases ho : step o s with
      | error e =>
          rw [run, attempt_of_error ho] at h
          rw [successes, ho]
          exact ih hs h0 h
      | ok s' =>
          rw [run, attempt_of_ok ho] at h
          rw [successes, ho]
          by_cases hc : cond s'
          · exact ⟨o, by simp, hstep o s s' hs h0 ho hc⟩
          · rcases ih (hinv o s s' hs ho) hc h with ⟨o', ho', ht⟩
            exact ⟨o', List.mem_cons_of_mem _ ho', ht⟩

end Rules

end Run
end Library
end Vastora
