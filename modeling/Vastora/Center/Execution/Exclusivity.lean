import Vastora.Center.Execution.Invariant

/-!
# Exclusivity — a host has at most one live grant

No statement brings a finished row back to life, and the fence in front of an insertion refuses while
any row of the host is active.  Hence at most one row beside those of the Xray kinds is active, in
every reachable store, whatever the interleaving of claims, session changes and recoveries.
-/

namespace Vastora
namespace Center

open Library Library.Guard Library.Table

section Step

variable {pf : Platform} {op : Op} {s s' : Store} {e e' : Execution}

/-- A row that is active after an operation was active before. -/
theorem Change.isActive (h : Change pf s op e e') (hactive : e'.isActive) : e.isActive := by
  have hstate := h.state_isActive ((Bool.and_eq_true _ _).mp hactive).1
  simp [Execution.isActive, hstate, h.undisposed]

/-- A grant beside those of the Xray kinds is only inserted on a host without active rows. -/
theorem idle_of_checkFence {a : String} {t : AgentTask} (hkind : t.kind.isXray = false)
    (h : checkFence pf a t s = .ok ()) : ∀ r ∈ s.executions, r.agentID = a → r.isActive = false := by
  intro r hr hagent
  by_contra hactive
  have hactive : r.state.isActive = true ∧ r.disposition = none := by
    simpa [Execution.isActive] using hactive
  have hunresolved : r.isUnresolved := by
    have hstate : r.state ≠ .succeeded := by
      intro hstate
      simp [hstate, ExecutionState.isActive] at hactive
    simp [Execution.isUnresolved, hactive.2, hstate]
  unfold checkFence at h
  split at h
  · -- An update is fenced by every active row.
    simp only [require_bind_eq_ok_iff, fetch_bind_eq_ok_iff, require_eq_ok_iff] at h
    rcases h with ⟨-, agent, -, hfree⟩
    simp only [Store.unresolvedExecutionBlocksAgentUpdate, Bool.not_eq_true', List.any_eq_false] at hfree
    simpa [hagent, hunresolved, hactive.1] using hfree r hr
  · simp only [hkind, Bool.not_false, if_true, fetch_bind_eq_ok_iff, require_eq_ok_iff] at h
    rcases h with ⟨agent, -, hfree⟩
    simp only [Store.unresolvedExecutionBlocksAgentWork, Bool.not_eq_true', List.any_eq_false] at hfree
    simpa [hagent, hunresolved, hactive.1] using hfree r hr

theorem Fresh.unique {r : Execution} (h : Fresh pf s op e) (h' : Fresh pf s op r) : e = r := by
  cases h <;> cases h' <;> rfl

/-- A new row that takes part in the fence belongs to a host without active rows. -/
theorem Fresh.idle (h : Fresh pf s op e) (hkind : e.kind.isXray = false) (hactive : e.isActive) :
    ∀ r ∈ s.executions, r.agentID = e.agentID → r.isActive = false := by
  cases h with
  | authorized _ _ hfence => exact idle_of_checkFence hkind hfence
  | archived =>
      simp only [Execution.isActive, archivedExecution, Bool.and_eq_true] at hactive
      split at hactive <;> cases hactive.1

/-- The row takes part in the fence of its host and may still be executed. -/
def Execution.isLive (a : String) (e : Execution) : Bool :=
  e.agentID == a && !e.kind.isXray && e.isActive

/-- Two live rows of one host are the same row. -/
def Exclusive (s : Store) : Prop :=
  ∀ a, ∀ e ∈ s.executions, ∀ r ∈ s.executions, e.isLive a → r.isLive a → e.id = r.id

theorem Change.isLive {a : String} (h : Change pf s op e e') (hlive : e'.isLive a) : e.isLive a := by
  have hsame := h.sameGrant
  simp only [Execution.isLive, Bool.and_eq_true, Bool.not_eq_true', beq_iff_eq] at hlive ⊢
  exact ⟨⟨hsame.agentID ▸ hlive.1.1, hsame.kind ▸ hlive.1.2⟩, h.isActive hlive.2⟩

theorem Fresh.not_live {a : String} {r : Execution} (h : Fresh pf s op e) (hlive : e.isLive a)
    (hr : r ∈ s.executions) : ¬ r.isLive a := by
  intro hlive'
  simp only [Execution.isLive, Bool.and_eq_true, Bool.not_eq_true', beq_iff_eq] at hlive hlive'
  have hidle := h.idle hlive.1.2 hlive.2 r hr (hlive'.1.1.trans hlive.1.1.symm)
  rw [hlive'.2] at hidle
  cases hidle

theorem exclusive_of_apply (hs : WellFormed s) (hexclusive : Exclusive s)
    (h : apply pf op s = .ok s') : Exclusive s' := by
  intro a e' he' r' hr' hlive hlive'
  have hrows := apply_evolves hs.ids h
  -- A live row is new or comes from a live row.
  have hback : ∀ e' ∈ s'.executions, e'.isLive a →
      Fresh pf s op e' ∨ ∃ e ∈ s.executions, e.isLive a ∧ e'.id = e.id := by
    intro e' he' hlive
    rcases hrows.backward he' with hfresh | ⟨e, he, rfl | hchange⟩
    · exact Or.inl hfresh
    · exact Or.inr ⟨e', he, hlive, rfl⟩
    · exact Or.inr ⟨e, he, hchange.isLive hlive, hchange.sameGrant.id⟩
  rcases hback e' he' hlive with hfresh | ⟨e, he, hold, hid⟩
  · rcases hback r' hr' hlive' with hfresh' | ⟨r, hr, hold', -⟩
    · rw [hfresh.unique hfresh']
    · exact absurd hold' (hfresh.not_live hlive hr)
  · rcases hback r' hr' hlive' with hfresh' | ⟨r, hr, hold', hid'⟩
    · exact absurd hold (hfresh'.not_live hlive' he)
    · rw [hid, hid']
      exact hexclusive a e he r hr hold hold'

end Step

theorem Reachable.exclusive {pf : Platform} {s : Store} (h : Reachable pf s) : Exclusive s := by
  refine Reachable.induction ?_ ?_ h
  · intro b
    simp [Exclusive, Store.empty]
  · intro op s s' hs hexclusive hop
    exact exclusive_of_apply hs hexclusive hop

/-- The row does not stand in the way of ordinary work on a host that runs `version`. -/
def Settled (pf : Platform) (s : Store) (version : String) (e : Execution) : Prop :=
  e.state = .succeeded ∨ e.disposition ≠ none ∨
    e.kind = .agentUpdate ∧ e.state.isActive = false ∧ s.updateSuperseded pf version e

theorem settled_of_checkFence {pf : Platform} {s : Store} {a : String} {t : AgentTask}
    (hupdate : t.kind ≠ .agentUpdate) (hxray : t.kind.isXray = false)
    (h : checkFence pf a t s = .ok ()) :
    ∃ agent, s.business.agent a = some agent ∧
      ∀ e ∈ s.executions, e.agentID = a → Settled pf s agent.version e := by
  simp only [checkFence, beq_eq_false_iff_ne.2 hupdate, hxray, Bool.false_eq_true, if_false,
    Bool.not_false, if_true, fetch_bind_eq_ok_iff, require_eq_ok_iff] at h
  rcases h with ⟨agent, hrow, hfree⟩
  refine ⟨agent, hrow, ?_⟩
  intro e he hagent
  simp only [Store.unresolvedExecutionBlocksAgentWork, Bool.not_eq_true', List.any_eq_false] at hfree
  have hpassed := hfree e he
  simp only [hagent, Execution.isUnresolved, beq_self_eq_true, Bool.true_and, Bool.and_eq_true,
    Option.isNone_iff_eq_none, bne_iff_ne, Bool.not_eq_true', not_and, and_imp,
    Bool.not_eq_false, beq_iff_eq] at hpassed
  by_cases hstate : e.state = .succeeded
  · exact Or.inl hstate
  by_cases hdisp : e.disposition = none
  · have hsuperseded := hpassed hdisp hstate
    exact Or.inr (Or.inr ⟨hsuperseded.1.1, hsuperseded.1.2, hsuperseded.2⟩)
  · exact Or.inr (Or.inl hdisp)

/-- In every reachable store each host has at most one live execution, and a grant of ordinary work
is only inserted when every earlier execution of the host is settled. -/
theorem one_live_execution (pf : Platform) {s : Store} (hs : Reachable pf s) (a : String) :
    (s.executions.filter (Execution.isLive a)).length ≤ 1 ∧
      ∀ now sid id t s', persistExecutionAuthorization pf now a sid id t s = .ok s' →
        t.kind ≠ .agentUpdate → t.kind.isXray = false →
        s'.executions = s.executions ++ [authorizedExecution pf now a sid id t] ∧
          ∃ agent, s.business.agent a = some agent ∧
            ∀ e ∈ s.executions, e.agentID = a → Settled pf s agent.version e := by
  constructor
  · refine length_filter_le_one hs.wellFormed.ids ?_
    intro e he r hr hlive hlive'
    exact hs.exclusive a e he r hr hlive hlive'
  · intro now sid id t s' h hupdate hxray
    obtain ⟨e, hfresh, rfl⟩ := persistExecutionAuthorization_fresh h
    cases hfresh with
    | authorized _ _ hfence => exact ⟨rfl, settled_of_checkFence hupdate hxray hfence⟩

/-- The claimed deployment is the only live execution, and it keeps the next one out. -/
theorem one_live_execution_claimed :
    (((Sample.store Sample.claim).executions.filter (Execution.isLive Sample.agentID)).length = 1 ∧
      (persistExecutionAuthorization Sample.platform (Sample.time 2) Sample.agentID Sample.sessionID
        "execution-2" (Sample.task "deployment-2" .applicationApply (by decide))
        (Sample.store Sample.claim)).toOption.isNone) ∧
      ((Sample.store Sample.claim).executions.filter (Execution.isLive Sample.agentID)).length ≤ 1 :=
  ⟨by decide, (one_live_execution Sample.platform (Sample.store_reachable Sample.claim)
    Sample.agentID).1⟩

end Center
end Vastora
