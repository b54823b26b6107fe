import Mathlib.Tactic.Common

/-!
# Triple — pre- and postconditions of fallible state transformers

An operation of `EStateM` that fails keeps the state it has reached, as a program does that has already
written part of its work.  `Triple pre op post fail` says what holds of that state in both cases.
-/

namespace Vastora
namespace Library

variable {ε σ α β ι : Type}

/-- From a state with `pre`, a return satisfies `post` and a failure leaves a state with `fail`. -/
def Triple (pre : σ → Prop) (op : EStateM ε σ α) (post : α → σ → Prop) (fail : σ → Prop) : Prop :=
  ∀ s, pre s → match op s with
    | .ok a s' => post a s'
    | .error _ s' => fail s'

/-- The state in which an operation ends. -/
def finalState (op : EStateM ε σ α) (s : σ) : σ :=
  match op s with
  | .ok _ s' => s'
  | .error _ s' => s'

/-- A pure computation that may fail. -/
def attempt (x : Except ε α) : EStateM ε σ α :=
  match x with
  | .ok a => pure a
  | .error err => throw err

namespace Triple

variable {pre mid : σ → Prop} {post : α → σ → Prop} {fail : σ → Prop} {op : EStateM ε σ α}

theorem of_finalState {s : σ} {inv : σ → Prop} (h : Triple pre op (fun _ => inv) inv) (hs : pre s) :
    inv (finalState op s) := by
  have hop := h s hs
  unfold finalState
  split at hop
  · exact hop
  · exact hop

theorem weaken {pre' : σ → Prop} {post' : α → σ → Prop} {fail' : σ → Prop}
    (h : Triple pre op post fail) (hpre : ∀ s, pre' s → pre s) (hpost : ∀ a s, post a s → post' a s)
    (hfail : ∀ s, fail s → fail' s) : Triple pre' op post' fail' := by
  intro s hs
  have hop := h s (hpre s hs)
  split at hop
  · exact hpost _ _ hop
  · exact hfail _ hop

/-- What the precondition says apart from the state can be used throughout. -/
theorem of_fact {p : Prop} (hp : ∀ s, pre s → p) (h : p → Triple pre op post fail) : Triple pre op post fail :=
  fun s hs => h (hp s hs) s hs

theorem of_pure {a : α} (h : ∀ s, pre s → post a s) :
    Triple pre (pure a : EStateM ε σ α) post fail := h

theorem of_throw {err : ε} (h : ∀ s, pre s → fail s) :
    Triple pre (throw err : EStateM ε σ α) post fail := h

/-- One operation after another: both may fail. -/
theorem bind {k : α → EStateM ε σ β} {post' : β → σ → Prop} (between : α → σ → Prop)
    (hop : Triple pre op between fail) (hk : ∀ a, Triple (between a) (k a) post' fail) :
    Triple pre (op >>= k) post' fail := by
  intro s hs
  have hstep := hop s hs
  change match EStateM.bind op k s with
    | .ok a s' => post' a s'
    | .error _ s' => fail s'
  unfold EStateM.bind
  cases hres : op s with
  | ok a s' =>
      rw [hres] at hstep
      exact hk a s' hstep
  | error err s' =>
      rw [hres] at hstep
      exact hstep

/-- A continuation that has read the state. -/
theorem get_bind {k : σ → EStateM ε σ β} {post' : β → σ → Prop}
    (hk : ∀ s, pre s → Triple (fun s' => s' = s) (k s) post' fail) :
    Triple pre (get >>= k) post' fail := by
  intro s hs
  exact hk s hs s rfl

/-- A computation that has read a state goes on from it. -/
theorem attempt_bind {s : σ} {x : Except ε α} {k : α → EStateM ε σ β} {post' : β → σ → Prop}
    (hfail : fail s) (hk : ∀ a, x = .ok a → Triple (fun s' => s' = s) (k a) post' fail) :
    Triple (fun s' => s' = s) (attempt x >>= k) post' fail := by
  cases x with
  | ok a => exact hk a rfl
  | error err =>
      rintro s' rfl
      exact hfail

theorem of_modify {f : σ → σ} {post : PUnit → σ → Prop} (h : ∀ s, pre s → post ⟨⟩ (f s)) :
    Triple pre (modify f : EStateM ε σ PUnit) post fail := h

theorem of_set {s' : σ} {post : PUnit → σ → Prop} (h : ∀ s, pre s → post ⟨⟩ s') :
    Triple pre (set s' : EStateM ε σ PUnit) post fail := h

theorem of_ite {c : Prop} [Decidable c] {op' : EStateM ε σ α} (hthen : c → Triple pre op post fail)
    (helse : ¬ c → Triple pre op' post fail) : Triple pre (if c then op else op') post fail := by
  by_cases hc : c
  · rw [if_pos hc]
    exact hthen hc
  · rw [if_neg hc]
    exact helse hc

theorem of_attempt {x : Except ε α} (hok : ∀ a s, x = .ok a → pre s → post a s)
    (hfail : ∀ s, pre s → fail s) : Triple pre (attempt x) post fail := by
  cases x with
  | ok a => exact fun s hs => hok a s rfl hs
  | error err => exact fun s hs => hfail s hs

end Triple

end Library
end Vastora
