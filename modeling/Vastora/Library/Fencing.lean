import Mathlib.Algebra.Order.Group.Int
import Mathlib.Data.List.Pairwise
import Mathlib.Tactic.Common

/-!
# Fencing — desired revisions, tickets and confirmations

A controller keeps one wanted document, numbered by its revision, and lets workers put it into effect.
A worker is granted a ticket (revision, attempt and document) and reports back under it.  `Step` is
what may happen at such a desk, `Desk.Sound` what every step keeps and `Desk.Grows` what never goes back:

* the applied revision never passes the wanted one, and meets it exactly when the desk is settled;
* tickets are granted in strictly increasing order of revision and attempt, and a revision has one
  document;
* what is confirmed was granted, each revision at most once, and the applied revision is the one
  confirmed last.
-/

namespace Vastora
namespace Library
namespace Fencing

inductive Phase where
  /-- The wanted document is in effect. -/
  | settled
  /-- It can be granted. -/
  | waiting
  /-- It is granted. -/
  | held
  /-- It failed or its outcome is not known. -/
  | halted
deriving DecidableEq, Repr

/-- What a worker is handed. -/
structure Ticket (δ : Type*) where
  revision : Int
  attempt : Int
  document : δ

/-- Tickets come in the order of their revisions, those of one revision in the order of attempts. -/
def Ticket.Before {δ : Type*} (t u : Ticket δ) : Prop :=
  t.revision < u.revision ∨ t.revision = u.revision ∧ t.attempt < u.attempt

structure Desk (δ : Type*) where
  desired : Int
  applied : Int
  attempt : Int
  phase : Phase
  document : δ
  /-- The tickets granted so far, the newest first. -/
  issued : List (Ticket δ)
  /-- The tickets under which the document was reported to be in effect. -/
  confirmed : List (Ticket δ)

variable {δ : Type*} {s s' : Desk δ}

/-- The ticket that a report has to carry now. -/
def Desk.ticket (s : Desk δ) : Ticket δ := ⟨s.desired, s.attempt, s.document⟩

inductive Step : Desk δ → Desk δ → Prop where
  /-- A new document is wanted; attempts may be counted anew. -/
  | publish (s : Desk δ) (d : δ) (n : Int) (hn : n = 0 ∨ n = s.attempt) :
      Step s { s with desired := s.desired + 1, attempt := n, phase := .waiting, document := d }
  | grant (s : Desk δ) (h : s.phase = .waiting) :
      Step s { s with
        attempt := s.attempt + 1
        phase := .held
        issued := ⟨s.desired, s.attempt + 1, s.document⟩ :: s.issued }
  /-- A report comes in time, or is taken up later from a worker that had the current ticket. -/
  | confirm (s : Desk δ) (h : s.phase = .held ∨ s.phase = .halted ∧ s.ticket ∈ s.issued) :
      Step s { s with applied := s.desired, phase := .settled, confirmed := s.ticket :: s.confirmed }
  /-- The document is put off or given up. -/
  | park (s : Desk δ) (p : Phase) (h : s.phase ≠ .settled) (hp : p = .waiting ∨ p = .halted) :
      Step s { s with phase := p }

structure Desk.Sound (s : Desk δ) : Prop where
  applied_le : s.applied ≤ s.desired
  settled_iff : s.phase = .settled ↔ s.applied = s.desired
  issued_le : ∀ t ∈ s.issued, t.revision < s.desired ∨
    t.revision = s.desired ∧ t.attempt ≤ s.attempt ∧ t.document = s.document
  issued_ordered : s.issued.Pairwise fun t u => u.Before t
  one_document : ∀ t ∈ s.issued, ∀ u ∈ s.issued, t.revision = u.revision → t.document = u.document
  held_issued : s.phase = .held → s.ticket ∈ s.issued
  confirmed_issued : ∀ t ∈ s.confirmed, t ∈ s.issued
  confirmed_le : ∀ t ∈ s.confirmed, t.revision ≤ s.applied
  confirmed_once : s.confirmed.Pairwise fun t u => u.revision < t.revision
  last_confirmed : s.applied = 0 ∨ ∃ t ∈ s.confirmed, t.revision = s.applied

namespace Desk

/-- A desk nothing was ever asked of. -/
def opened (d : δ) : Desk δ := ⟨0, 0, 0, .settled, d, [], []⟩

theorem sound_opened (d : δ) : (opened d).Sound where
  applied_le := le_refl _
  settled_iff := by simp [opened]
  issued_le := by simp [opened]
  issued_ordered := .nil
  one_document := by simp [opened]
  held_issued := by simp [opened]
  confirmed_issued := by simp [opened]
  confirmed_le := by simp [opened]
  confirmed_once := .nil
  last_confirmed := .inl rfl

theorem Sound.applied_lt (h : s.Sound) (hs : s.phase ≠ .settled) : s.applied < s.desired :=
  lt_of_le_of_ne h.applied_le fun heq => hs (h.settled_iff.2 heq)

theorem Sound.publish (h : s.Sound) (d : δ) (n : Int) :
    Sound { s with desired := s.desired + 1, attempt := n, phase := .waiting, document := d } where
  applied_le := h.applied_le.trans (by simp)
  settled_iff := by
    have := h.applied_le
    constructor
    · intro hp
      cases hp
    · intro heq
      simp only at heq
      omega
  issued_le := by
    intro t ht
    left
    rcases h.issued_le t ht with hlt | ⟨heq, -⟩
    · exact hlt.trans (by simp)
    · simp [heq]
  issued_ordered := h.issued_ordered
  one_document := h.one_document
  held_issued := by
    intro hp
    cases hp
  confirmed_issued := h.confirmed_issued
  confirmed_le := h.confirmed_le
  confirmed_once := h.confirmed_once
  last_confirmed := h.last_confirmed

theorem Sound.grant (h : s.Sound) (hw : s.phase = .waiting) :
    Sound { s with
      attempt := s.attempt + 1
      phase := .held
      issued := ⟨s.desired, s.attempt + 1, s.document⟩ :: s.issued } where
  applied_le := h.applied_le
  settled_iff := by
    have hlt := h.applied_lt (by simp [hw])
    simp [hlt.ne]
  issued_le := by
    intro t ht
    rcases List.mem_cons.1 ht with rfl | ht
    · exact .inr ⟨rfl, le_refl _, rfl⟩
    · rcases h.issued_le t ht with hlt | ⟨hrev, hattempt, hdoc⟩
      · exact .inl hlt
      · exact .inr ⟨hrev, hattempt.trans (by simp), hdoc⟩
  issued_ordered := by
    -- The new ticket has the wanted revision and an attempt beyond those counted so far.
    refine List.pairwise_cons.2 ⟨?_, h.issued_ordered⟩
    intro t ht
    rcases h.issued_le t ht with hlt | ⟨hrev, hattempt, -⟩
    · exact .inl hlt
    · exact .inr ⟨hrev, Int.lt_add_one_of_le hattempt⟩
  one_document := by
    have hnew : ∀ t ∈ s.issued, t.revision = s.desired → t.document = s.document := by
      intro t ht hrev
      rcases h.issued_le t ht with hlt | ⟨-, -, hdoc⟩
      · exact absurd hrev hlt.ne
      · exact hdoc
    intro t ht u hu hrev
    rcases List.mem_cons.1 ht with rfl | ht
    · rcases List.mem_cons.1 hu with rfl | hu
      · rfl
      · exact (hnew u hu hrev.symm).symm
    · rcases List.mem_cons.1 hu with rfl | hu
      · exact hnew t ht hrev
      · exact h.one_document t ht u hu hrev
  held_issued := by
    intro _
    exact List.mem_cons_self
  confirmed_issued := by
    intro t ht
    exact List.mem_cons_of_mem _ (h.confirmed_issued t ht)
  confirmed_le := h.confirmed_le
  confirmed_once := h.confirmed_once
  last_confirmed := h.last_confirmed

theorem Sound.confirm (h : s.Sound) (hs : s.phase = .held ∨ s.phase = .halted ∧ s.ticket ∈ s.issued) :
    Sound { s with
      applied := s.desired, phase := .settled, confirmed := s.ticket :: s.confirmed } where
  applied_le := le_refl _
  settled_iff := by simp
  issued_le := h.issued_le
  issued_ordered := h.issued_ordered
  one_document := h.one_document
  held_issued := by
    intro hp
    cases hp
  confirmed_issued := by
    intro t ht
    rcases List.mem_cons.1 ht with rfl | ht
    · exact hs.elim h.held_issued And.right
    · exact h.confirmed_issued t ht
  confirmed_le := by
    intro t ht
    rcases List.mem_cons.1 ht with rfl | ht
    · exact le_refl _
    · exact (h.confirmed_le t ht).trans h.applied_le
  confirmed_once := by
    -- Nothing was confirmed for the wanted revision: the desk was not settled.
    have hopen : s.phase ≠ .settled := by
      rcases hs with hphase | ⟨hphase, -⟩ <;> simp [hphase]
    refine List.pairwise_cons.2 ⟨?_, h.confirmed_once⟩
    intro t ht
    exact (h.confirmed_le t ht).trans_lt (h.applied_lt hopen)
  last_confirmed := .inr ⟨s.ticket, List.mem_cons_self, rfl⟩

theorem Sound.park (h : s.Sound) {p : Phase} (hs : s.phase ≠ .settled) (hp : p = .waiting ∨ p = .halted) :
    Sound { s with phase := p } where
  applied_le := h.applied_le
  settled_iff := by
    have hlt := h.applied_lt hs
    rcases hp with rfl | rfl <;> simp [hlt.ne]
  issued_le := h.issued_le
  issued_ordered := h.issued_ordered
  one_document := h.one_document
  held_issued := by
    intro hheld
    rcases hp with rfl | rfl <;> cases hheld
  confirmed_issued := h.confirmed_issued
  confirmed_le := h.confirmed_le
  confirmed_once := h.confirmed_once
  last_confirmed := h.last_confirmed

theorem Sound.step (h : s.Sound) (hstep : Step s s') : s'.Sound := by
  cases hstep with
  | publish d n hn => exact h.publish d n
  | grant hw => exact h.grant hw
  | confirm hs => exact h.confirm hs
  | park p hs hp => exact h.park hs hp

/-! ## What only grows -/

/-- Revisions do not go back. -/
structure Grows (s s' : Desk δ) : Prop where
  desired : s.desired ≤ s'.desired
  applied : s.applied ≤ s'.applied

theorem Grows.refl (s : Desk δ) : Grows s s := ⟨le_refl _, le_refl _⟩

theorem Grows.trans {t : Desk δ} (h : Grows s s') (h' : Grows s' t) : Grows s t :=
  ⟨h.desired.trans h'.desired, h.applied.trans h'.applied⟩

theorem Sound.grows (h : s.Sound) (hstep : Step s s') : Grows s s' := by
  cases hstep with
  | publish d n hn => exact ⟨by simp, le_refl _⟩
  | grant hw => exact ⟨le_refl _, le_refl _⟩
  | confirm hs => exact ⟨le_refl _, h.applied_le⟩
  | park p hs hp => exact ⟨le_refl _, le_refl _⟩

/-- After `n` steps from an opened desk no count is above `n`. -/
structure Within (n : Nat) (s : Desk δ) : Prop where
  desired : s.desired ≤ n
  applied_nonneg : 0 ≤ s.applied
  attempt : 0 ≤ s.attempt ∧ s.attempt ≤ n
  issued : ∀ t ∈ s.issued, (0 < t.revision ∧ t.revision ≤ n) ∧ 0 < t.attempt ∧ t.attempt ≤ n

theorem within_opened (d : δ) : Within 0 (opened d) := ⟨le_refl _, le_refl _, ⟨le_refl _, le_refl _⟩, nofun⟩

theorem Within.succ {n : Nat} (h : Within n s) : Within (n + 1) s := by
  obtain ⟨hdesired, happlied, hattempt, hissued⟩ := h
  refine ⟨by omega, happlied, by omega, fun t ht => ?_⟩
  have hticket := hissued t ht
  omega

theorem Within.step {n : Nat} (h : Within n s) (hsound : s.Sound) (hstep : Step s s') : Within (n + 1) s' := by
  have hmore := h.succ
  obtain ⟨hdesired, happlied, hattempt, -⟩ := h
  cases hstep with
  | publish d m hm => exact ⟨by simpa using hdesired, happlied, by simp only; omega, hmore.issued⟩
  | grant hw =>
      have hlt := hsound.applied_lt (by simp [hw])
      refine ⟨hmore.desired, happlied, by simp only; omega, fun t ht => ?_⟩
      rcases List.mem_cons.1 ht with rfl | ht
      · simp only
        omega
      · exact hmore.issued t ht
  | confirm hs => exact ⟨hmore.desired, happlied.trans hsound.applied_le, hmore.attempt, hmore.issued⟩
  | park p hs hp => exact ⟨hmore.desired, happlied, hmore.attempt, hmore.issued⟩

/-- The document of a settled desk is one that was granted and confirmed. -/
theorem Sound.document_confirmed (h : s.Sound) (hs : s.phase = .settled) (hpos : s.desired ≠ 0) :
    ∃ t ∈ s.confirmed, t ∈ s.issued ∧ t.revision = s.desired ∧ t.document = s.document := by
  have happlied := h.settled_iff.1 hs
  rcases h.last_confirmed with hzero | ⟨t, ht, hrev⟩
  · exact absurd (happlied.symm.trans hzero) hpos
  · have hissued := h.confirmed_issued t ht
    rcases h.issued_le t hissued with hlt | ⟨hdesired, -, hdoc⟩
    · exact absurd (hrev.trans happlied) hlt.ne
    · exact ⟨t, ht, hissued, hdesired, hdoc⟩

end Desk
end Fencing
end Library
end Vastora
