import Vastora.Center.Execution.Inversion

/-!
# Invariant — what every reachable execution store satisfies

The identity columns of a row are written once, by the insertion; a disposed row is final, and the
state of a row only moves forward through its life.  From the first follow the keys of the table (`id`, and `task_id` with
`attempt`) and the naming of task ids, for every reachable store.
-/

namespace Vastora
namespace Center

open Library Library.Pattern Library.Table

/-- The two rows agree on the columns that are written once. -/
structure SameGrant (e e' : Execution) : Prop where
  id : e'.id = e.id
  agentID : e'.agentID = e.agentID
  taskID : e'.taskID = e.taskID
  kind : e'.kind = e.kind
  attempt : e'.attempt = e.attempt
  sessionID : e'.sessionID = e.sessionID

section Step

variable {pf : Platform} {op : Op} {s s' : Store} {e e' : Execution}

theorem finalizedExecution_sameGrant (d now : Instant) (v : Evidence) (t : AgentTask)
    (e : Execution) : SameGrant e (finalizedExecution d now v t e) := by
  unfold finalizedExecution
  split <;> exact ⟨rfl, rfl, rfl, rfl, rfl, rfl⟩

theorem Change.sameGrant (h : Change pf s op e e') : SameGrant e e' := by
  cases h
  case finalized => exact finalizedExecution_sameGrant ..
  case completed => exact finalizedExecution_sameGrant ..
  case observed now d l a o succeeded t hrow =>
      have hsame := finalizedExecution_sameGrant d l (tailscaleEvidence succeeded) t
        (observedExecution now succeeded e)
      exact ⟨hsame.id, hsame.agentID, hsame.taskID, hsame.kind, hsame.attempt, hsame.sessionID⟩
  all_goals exact ⟨rfl, rfl, rfl, rfl, rfl, rfl⟩

/-- How far an execution is in its life: offered, running, in the hands of a helper, finished. -/
def ExecutionState.stage : ExecutionState → Nat
  | .offered => 0
  | .running => 1
  | .helperRunning => 2
  | .succeeded | .failed | .unknown => 3

theorem stage_lt_three_iff {st : ExecutionState} : st.stage < 3 ↔ st.isActive := by
  cases st <;> decide

theorem isActive_of_isOfferedOrRunning {st : ExecutionState} (h : st.isOfferedOrRunning) :
    st.isActive := by
  cases st <;> first | rfl | cases h

theorem not_isActive_of_isFailedOrUnknown {st : ExecutionState} (h : st.isFailedOrUnknown) :
    st.isActive = false := by
  cases st <;> first | rfl | cases h

theorem stage_outcome (v : Evidence) : v.outcome.stage = 3 := by
  unfold Evidence.outcome
  split
  · rfl
  · split <;> rfl

theorem outcome_not_active (v : Evidence) : v.outcome.isActive = false := by
  rw [Bool.eq_false_iff, ne_eq, ← stage_lt_three_iff, stage_outcome]
  decide

theorem finalizedExecution_state (d now : Instant) (v : Evidence) (t : AgentTask) (e : Execution) :
    (finalizedExecution d now v t e).state = v.outcome := by
  unfold finalizedExecution
  split <;> rfl

/-- Every statement addresses rows without a disposition: a disposed row is final. -/
theorem Change.undisposed (h : Change pf s op e e') : e.disposition = none := by
  cases h
  case recovered hretained => exact hretained.disposition
  case claimSuperseded hlanding => exact hlanding.disposition
  case superseded hlanding => exact hlanding.disposition
  case stepped hrow => exact hrow.disposition
  case renewed hrow => exact hrow.disposition
  case stopped hrow => exact hrow.disposition
  case reported hrow => exact hrow.disposition
  case finalized hfinal => exact hfinal.disposition
  case completed hfinal _ _ => exact hfinal.disposition
  case configurationRecovered hrecovers => exact hrecovers.disposition
  case updateHandedOff hrow => exact hrow.disposition
  case decommissionHandedOff hrow => exact hrow.disposition
  case tailscaleHandedOff hrow => exact hrow.disposition
  case helperStepped hrow => exact hrow.disposition
  case cleanupStepped hrow => exact hrow.disposition
  case cleanedUp hrow => exact hrow.disposition
  case observed hrow => exact hrow.disposition
  case reinstalled hrow => exact hrow.disposition
  case backedUp hrow => exact hrow.disposition
  case armed hrow => exact hrow.disposition
  case projected _ hretained => exact hretained.disposition
  all_goals assumption

/-- No statement takes an execution back in its life. -/
theorem Change.stage_le (h : Change pf s op e e') : e.state.stage ≤ e'.state.stage := by
  have hlast : ∀ st : ExecutionState, st.stage ≤ 3 := by
    intro st
    cases st <;> decide
  cases h
  case started => simp [‹e.state = .offered›, startedExecution, ExecutionState.stage]
  case updateHandedOff hrow => simp [hrow.state, handedOffExecution, ExecutionState.stage]
  case decommissionHandedOff hrow => simp [hrow.state, handedOffExecution, ExecutionState.stage]
  case tailscaleHandedOff hrow => simp [hrow.state, handedOffExecution, ExecutionState.stage]
  case armed hrow => simp [hrow.state, handedOffExecution, ExecutionState.stage]
  case finalized => simpa [finalizedExecution_state, stage_outcome] using hlast _
  case completed => simpa [finalizedExecution_state, stage_outcome] using hlast _
  case observed => simpa [finalizedExecution_state, stage_outcome] using hlast _
  case stopped =>
      simp only [stoppedExecution]
      split <;> exact hlast _
  case cleanedUp =>
      simp only [cleanedUpExecution]
      split <;> exact hlast _
  case acknowledged =>
      simp only [acknowledgedExecution, dispose]
      split
      · exact hlast _
      · exact le_rfl
  case retired =>
      simp only [retireExecution]
      split
      · exact hlast _
      · exact le_rfl
  -- The other statements keep the state or end it.
  all_goals first
    | exact le_rfl
    | exact hlast _

/-- A statement that leaves an active state behind found one. -/
theorem Change.state_isActive (h : Change pf s op e e') (hactive : e'.state.isActive) :
    e.state.isActive := by
  rw [← stage_lt_three_iff] at hactive ⊢
  exact lt_of_le_of_lt h.stage_le hactive

/-- The operations that settle rows which have ended. -/
def Op.Settles : Op → Prop
  | .recoverReceivedExecutionResults .. | .recoverExpiredReceivedExecutionResults ..
  | .executionClaimAllowed .. | .disposeSupersededLandingExecutionFailures .. | .completeTask ..
  | .completeOSReinstall .. | .projectRetainedExecutionResult .. | .confirmExecution ..
  | .disposeTaskExecution .. | .disposeHelperExecution .. | .acknowledgeTailscaleUpdate ..
  | .authorizeAgentUpdateRecovery .. | .settleAgentReinstallLocalWork ..
  | .recoverMeridianEndpoint .. | .abandonLegacyReceipt .. | .retireAgentExecutionIdentity .. => True
  | _ => False

theorem Finalizes.isActive {now : Instant} {a sid id : String} {v : Evidence} {t : AgentTask}
    (h : Finalizes s now a sid id e v t) : e.state.isActive := by
  rcases h.state with hstate | hstate <;> rw [hstate] <;> rfl

/-- Every other operation addresses active rows. -/
theorem Change.active_or_settles (h : Change pf s op e e') : e.state.isActive ∨ op.Settles := by
  cases h
  case interrupted => exact Or.inl (isActive_of_isOfferedOrRunning ‹_›)
  case taskInterrupted => exact Or.inl (isActive_of_isOfferedOrRunning ‹_›)
  case stopped => exact Or.inl (isActive_of_isOfferedOrRunning ‹_›)
  case paused => exact Or.inl ‹_›
  case started => exact Or.inl (by rw [‹e.state = .offered›]; rfl)
  case stepped => exact Or.inl (by rw [‹e.state = .running›]; rfl)
  case renewed => exact Or.inl (by rw [‹e.state = .running›]; rfl)
  case reported hreport _ _ _ =>
      rcases hreport with ⟨hstate, -⟩ | ⟨hstate, -⟩ <;> exact Or.inl (by rw [hstate]; rfl)
  case finalized hfinal => exact Or.inl hfinal.isActive
  case updateHandedOff hrow => exact Or.inl (by rw [hrow.state]; rfl)
  case decommissionHandedOff hrow => exact Or.inl (by rw [hrow.state]; rfl)
  case tailscaleHandedOff hrow => exact Or.inl (by rw [hrow.state]; rfl)
  case helperStepped hrow => exact Or.inl (by rw [hrow.state]; rfl)
  case cleanupStepped hrow => exact Or.inl (by rw [hrow.state]; rfl)
  case cleanedUp hrow => exact Or.inl (by rw [hrow.state]; rfl)
  case observed hrow => exact Or.inl (by rw [hrow.state]; rfl)
  case backedUp hrow => exact Or.inl (by rw [hrow.state]; rfl)
  case armed hrow => exact Or.inl (by rw [hrow.state]; rfl)
  all_goals exact Or.inr trivial

/-- The keys of `task_executions`, and task ids named after their kind. -/
structure WellFormed (s : Store) : Prop where
  ids : (s.executions.map Execution.id).Nodup
  attempts : (s.executions.map fun e => (e.taskID, e.attempt)).Nodup
  named : ∀ e ∈ s.executions, hasPrefix e.taskID e.kind.idPrefix

theorem wellFormed_of_initial (h : Initial s) : WellFormed s := by
  rcases h with ⟨b, rfl⟩
  exact ⟨List.nodup_nil, List.nodup_nil, by simp [Store.empty]⟩

theorem Fresh.named (h : Fresh pf s op e) : hasPrefix e.taskID e.kind.idPrefix := by
  cases h with
  | @authorized now a sid id t => exact t.id_named
  | archived => simp [archivedExecution, TaskKind.idPrefix, hasPrefix]

theorem wellFormed_of_apply (hs : WellFormed s) (h : apply pf op s = .ok s') : WellFormed s' := by
  have hrows := apply_evolves hs.ids h
  refine ⟨?_, ?_, ?_⟩
  · refine hrows.nodup_key hs.ids (fun e e' hc => hc.sameGrant.id) ?_
    intro e he
    cases he with
    | authorized _ _ _ _ hid => exact hid
    | archived _ _ hid => exact hid
  · refine hrows.nodup_key hs.attempts ?_ ?_
    · intro e e' hc
      rw [hc.sameGrant.taskID, hc.sameGrant.attempt]
    · intro e he r hr hkey
      rcases Prod.mk.inj hkey with ⟨htask, hattempt⟩
      cases he with
      | authorized _ _ _ _ _ hunique => exact hunique r hr htask hattempt
      | archived _ _ _ hunique => exact hunique r hr htask hattempt
  · intro e' he'
    rcases hrows.backward he' with hfresh | ⟨e, he, rfl | hchange⟩
    · exact hfresh.named
    · exact hs.named e' he
    · have hsame := hchange.sameGrant
      rw [hsame.taskID, hsame.kind]
      exact hs.named e he

end Step

theorem Reachable.wellFormed {pf : Platform} {s : Store} (h : Reachable pf s) : WellFormed s :=
  Run.reachable_induction (fun _ => wellFormed_of_initial)
    (fun _ _ _ => wellFormed_of_apply) h

/-- What holds of every empty store and is kept by every commit holds of every reachable store. -/
theorem Reachable.induction {pf : Platform} {inv : Store → Prop} (hinit : ∀ b, inv (Store.empty b))
    (hstep : ∀ op s s', WellFormed s → inv s → apply pf op s = .ok s' → inv s') {s : Store}
    (h : Reachable pf s) : inv s := by
  refine (@Run.reachable_induction _ _ _ (apply pf) s Initial (fun s => WellFormed s ∧ inv s)
    ?_ ?_ h).2
  · rintro s ⟨b, rfl⟩
    exact ⟨wellFormed_of_initial ⟨b, rfl⟩, hinit b⟩
  · intro op s s' hs hop
    exact ⟨wellFormed_of_apply hs.1 hop, hstep op s s' hs.1 hs.2 hop⟩

/-- What every commit preserves in well-formed stores holds along the histories of a reachable one. -/
theorem Reachable.run_induction {inv : Store → Prop} (h : Reachable pf s)
    (hstep : ∀ op s s', WellFormed s → inv s → apply pf op s = .ok s' → inv s') (hs : inv s)
    (ops : List Op) : inv (Run.run (apply pf) ops s) := by
  have hrun := @Run.run_induction _ _ _ (apply pf) s ops (fun s => WellFormed s ∧ inv s)
    (fun op s s' hinv ho => ⟨wellFormed_of_apply hinv.1 ho, hstep op s s' hinv.1 hinv.2 ho⟩)
    ⟨h.wellFormed, hs⟩
  exact hrun.2

end Center
end Vastora
