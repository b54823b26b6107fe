import Vastora.Center.Execution.Fence
import Vastora.Center.Execution.OneUse

/-!
# Session — a replaced process and a retired identity stay fenced

A session is registered once.  What a replaced session still presents is refused, except for the rows
that its helpers held at the replacement; and the rows a retired identity left unresolved never count
as completed.

* `Replaced a sid ids` — the session `sid` of `a` is over and holds at most the helper rows `ids`;
* `RetiredRow id` — the row `id` belongs to a machine identity that is gone.
-/

namespace Vastora
namespace Center

open Library Library.Guard Library.Pattern Library.Table

/-! ## Sessions of reachable stores -/

/-- The kinds whose executions are handed over to a helper. -/
def helperKinds : List TaskKind :=
  [.agentUpdate, .agentDecommission, .tailscaleUpdate, .nodeOSReinstall]

/-- What holds of the sessions and of the helpers in every reachable store. -/
structure SessionsRecorded (s : Store) : Prop where
  recorded : ∀ a sid, s.sessions a = some sid → (a, sid) ∈ s.history
  named : s.sessions "" = none
  helpers : ∀ e ∈ s.executions, e.state = .helperRunning → e.kind ∈ helperKinds

section Sessions

variable {pf : Platform} {op : Op} {s s' : Store} {e e' : Execution} {a sid : String}

theorem Op.HandsOver.kind (h : op.HandsOver e) : e.kind ∈ helperKinds := by
  cases op
  case beginAgentUpdateExecution => simp [helperKinds, h.2]
  case beginAgentDecommission => simp [helperKinds, h.2]
  case beginTailscaleUpdate => simp [helperKinds, h.2]
  case armOSReinstall => simp [helperKinds, h.2]
  all_goals exact h.elim

theorem sessionsRecorded_of_apply (hw : WellFormed s) (hs : SessionsRecorded s)
    (h : apply pf op s = .ok s') : SessionsRecorded s' := by
  have hhelpers : ∀ e ∈ s'.executions, e.state = .helperRunning → e.kind ∈ helperKinds := by
    intro e' he' hstate
    rcases (apply_evolves hw.ids h).backward he' with hfresh | ⟨e, he, rfl | hchange⟩
    · exact absurd hstate hfresh.not_helperRunning
    · exact hs.helpers _ he hstate
    · rw [hchange.sameGrant.kind]
      rcases hchange.helperRunning hstate with hbefore | ⟨-, -, hover⟩
      · exact hs.helpers e he hbefore
      · exact hover.kind
  rcases apply_sessions hw.ids h with ⟨hsessions, hhistory⟩ |
    ⟨now, a, c, sid, p, -, hcredential, -, hsessions, hhistory⟩ | ⟨now, a, -, hsessions, hhistory⟩
  · exact ⟨by rw [hsessions, hhistory]; exact hs.recorded, by rw [hsessions]; exact hs.named, hhelpers⟩
  · refine ⟨?_, ?_, hhelpers⟩
    · intro a' sid' hcurrent
      rw [hsessions, Function.update_apply] at hcurrent
      rw [hhistory, List.mem_cons]
      split at hcurrent
      · rename_i heq
        exact Or.inl (by rw [heq, Option.some.inj hcurrent])
      · exact Or.inr (hs.recorded a' sid' hcurrent)
    · have hne : "" ≠ a := by
        rintro rfl
        simp [Store.authenticateAgent, s.business.agent_empty] at hcredential
      rw [hsessions, Function.update_of_ne hne]
      exact hs.named
  · refine ⟨?_, ?_, hhelpers⟩
    · intro a' sid' hcurrent
      rw [hsessions, Function.update_apply] at hcurrent
      rw [hhistory]
      split at hcurrent
      · cases hcurrent
      · exact hs.recorded a' sid' hcurrent
    · rw [hsessions, Function.update_apply, hs.named]
      split <;> rfl

theorem Reachable.sessionsRecorded (h : Reachable pf s) : SessionsRecorded s := by
  refine Reachable.induction ?_ ?_ h
  · intro b
    exact ⟨fun a sid hcurrent => by simp [Store.empty] at hcurrent, rfl, by simp [Store.empty]⟩
  · intro op s s' hw hs hop
    exact sessionsRecorded_of_apply hw hs hop

/-! ## What a session presents -/

/-- The session an operation is presented with. -/
def Op.session? : Op → Option String
  | .registerExecutionSession _ _ _ sid _ | .executionClaimAllowed _ _ sid
  | .persistExecutionAuthorization _ _ sid _ _ | .startExecution _ _ sid _ _
  | .checkExecutionStep _ _ sid _ _ | .renewExecution _ _ sid _ | .stopExecution _ _ sid _ _ _
  | .storeExecutionResult _ _ sid _ _ | .finalizeExecution _ _ _ sid _
  | .completeTask _ _ _ _ sid _ _ _ | .beginAgentUpdateExecution _ _ _ _ _ _ sid
  | .beginAgentDecommission _ _ _ _ _ _ _ sid | .beginTailscaleUpdate _ _ _ _ _ sid _
  | .checkUpdateHelperStep _ _ sid _ _ | .recordOSReinstallBackup _ _ _ sid _ _
  | .armOSReinstall _ _ sid _ _ | .completeOSReinstall _ _ _ sid _ _ _
  | .importLegacyReceipt _ _ _ sid _ _ => some sid
  | _ => none

/-- The task of a helper is not an explicit configuration recovery. -/
theorem not_xrayRecovery_of_helper (hw : WellFormed s) (hs : SessionsRecorded s)
    (he : e ∈ s.executions) (hstate : e.state = .helperRunning) :
    ¬ hasPrefix e.taskID "xray-recovery-" := by
  intro hrecovery
  have hnamed := hw.named e he
  simp only [hasPrefix, List.isPrefixOf_iff_prefix] at hrecovery hnamed
  have hkind := hs.helpers e he hstate
  simp only [helperKinds, List.mem_cons, List.not_mem_nil, or_false] at hkind
  -- Two starts of one text are comparable, and these are not.
  rcases List.prefix_or_prefix_of_prefix hnamed hrecovery with h | h <;>
    rcases hkind with hkind | hkind | hkind | hkind <;> rw [hkind] at h <;> revert h <;> decide

/-- A row changes under a session when it is the current one, or when a helper of it holds the row. -/
theorem Change.presented (hw : WellFormed s) (hs : SessionsRecorded s) (h : Change pf s op e e')
    (hop : op.session? = some sid) :
    s.hasSession e.agentID sid ∨ e.sessionID = sid ∧ e.state = .helperRunning ∨
      ∃ now c p, op = .registerExecutionSession now e.agentID c sid p := by
  cases h <;> simp only [Op.session?, reduceCtorEq, Option.some.injEq] at hop
  all_goals subst hop
  case interrupted =>
      obtain rfl := ‹e.agentID = _›
      exact Or.inr (Or.inr ⟨_, _, _, rfl⟩)
  case claimSuperseded hcurrent hlanding =>
      rcases hlanding.agent with rfl | hagent
      · simp [Store.hasSession, hs.named] at hcurrent
      · exact Or.inl (hagent ▸ hcurrent)
  case expired => exact Or.inl (‹e.agentID = _› ▸ ‹_›)
  case started => exact Or.inl (‹e.agentID = _› ▸ ‹_›)
  case stepped hrow => exact Or.inl (hrow.agent ▸ ‹_›)
  case renewed hrow => exact Or.inl (hrow.agent ▸ ‹_›)
  case stopped hrow => exact Or.inl (hrow.agent ▸ ‹_›)
  case reported hreport _ _ hrow =>
      rcases hreport with ⟨-, hcurrent⟩ | ⟨hstate, -⟩
      · exact Or.inl (hrow.agent ▸ hcurrent)
      · exact Or.inr (Or.inl ⟨hrow.session, hstate⟩)
  case finalized hfinal =>
      rcases hfinal.current with hstate | hcurrent
      · exact Or.inr (Or.inl ⟨hfinal.session, hstate⟩)
      · exact Or.inl (hfinal.agent ▸ hcurrent)
  case completed hfinal _ _ =>
      rcases hfinal.current with hstate | hcurrent
      · exact Or.inr (Or.inl ⟨hfinal.session, hstate⟩)
      · exact Or.inl (hfinal.agent ▸ hcurrent)
  case configurationRecovered hown hfinal htask _ _ hrecovers =>
      rcases hfinal.current with hstate | hcurrent
      · exact absurd (htask ▸ hrecovers.name) (not_xrayRecovery_of_helper hw hs hown hstate)
      · exact Or.inl (hrecovers.agent ▸ hcurrent)
  case helperStepped hrow => exact Or.inr (Or.inl ⟨hrow.session, hrow.state⟩)
  case updateHandedOff hrow => exact Or.inl (hrow.agent ▸ hrow.current)
  case decommissionHandedOff hrow => exact Or.inl (hrow.agent ▸ hrow.current)
  case tailscaleHandedOff hrow => exact Or.inl (hrow.agent ▸ hrow.current)
  case backedUp hrow => exact Or.inl (hrow.agent ▸ hrow.current)
  case armed hrow => exact Or.inl (hrow.agent ▸ hrow.current)
  case reinstalled hrow => exact Or.inl (hrow.agent ▸ hrow.current)

theorem Fresh.presented (h : Fresh pf s op e) (hop : op.session? = some sid) :
    s.hasSession e.agentID sid := by
  cases h with
  | authorized _ _ _ hcurrent =>
      obtain rfl := Option.some.inj hop
      exact hcurrent
  | archived hcurrent =>
      obtain rfl := Option.some.inj hop
      exact hcurrent

/-! ## Replacement -/

/-- A helper holds the execution. -/
def HeldByHelper (s : Store) (id : String) : Prop :=
  HasRow (fun e => e.id = id ∧ e.state = .helperRunning) s

/-- The session `sid` of the agent is over; its helpers hold at most the executions in `held`. -/
structure Replaced (a sid : String) (held : String → Prop) (s : Store) : Prop where
  recorded : (a, sid) ∈ s.history
  ended : s.sessions a ≠ some sid
  helpers : ∀ e ∈ s.executions, e.agentID = a → e.sessionID = sid → e.state = .helperRunning →
    held e.id

/-- The rows of an agent are the same in both stores, except for the executions in `held`. -/
def SameRowsBut (a : String) (held : String → Prop) (s s' : Store) : Prop :=
  (∀ e ∈ s.executions, e.agentID = a → e ∈ s'.executions ∨ held e.id) ∧
    ∀ e' ∈ s'.executions, e'.agentID = a → e' ∈ s.executions ∨ held e'.id

variable {held : String → Prop}

theorem Replaced.not_hasSession (h : Replaced a sid held s) : ¬ s.hasSession a sid := by
  intro hcurrent
  exact h.ended (by simpa [Store.hasSession] using hcurrent)

theorem Replaced.not_registered (h : Replaced a sid held s) (now : Instant) (c : String) (p : Nat) :
    apply pf (.registerExecutionSession now a c sid p) s ≠ .ok s' := by
  intro hcommit
  obtain ⟨-, -, ⟨hcurrent, -⟩ | ⟨hunused, -⟩⟩ := registerExecutionSession_cases pf hcommit
  · exact h.not_hasSession hcurrent
  · exact hunused h.recorded

/-- The registration of another session replaces the current one. -/
theorem replaced_of_register {now : Instant} {c sid' : String} {p : Nat} (hw : WellFormed s)
    (hs : SessionsRecorded s) (hcurrent : s.sessions a = some sid) (hne : sid ≠ sid')
    (h : apply pf (.registerExecutionSession now a c sid' p) s = .ok s') :
    Replaced a sid (HeldByHelper s) s' := by
  have hrows := apply_evolves hw.ids h
  obtain ⟨-, -, ⟨hsame, -⟩ | ⟨-, hsessions, hhistory, -⟩⟩ := registerExecutionSession_cases pf h
  · simp [Store.hasSession, hcurrent, hne] at hsame
  refine ⟨?_, ?_, ?_⟩
  · rw [hhistory]
    exact List.mem_cons_of_mem _ (hs.recorded a sid hcurrent)
  · simpa [hsessions] using hne.symm
  · intro e' he' _ _ hstate
    rcases hrows.backward he' with hfresh | ⟨e, he, rfl | hchange⟩
    · exact absurd hstate hfresh.not_helperRunning
    · exact ⟨_, he, rfl, hstate⟩
    · rcases hchange.helperRunning hstate with hbefore | ⟨-, -, hover⟩
      · exact ⟨e, he, hchange.sameGrant.id.symm, hbefore⟩
      · exact hover.elim

theorem replaced_of_apply (hw : WellFormed s) (hs : Replaced a sid held s)
    (h : apply pf op s = .ok s') : Replaced a sid held s' := by
  have hhelpers : ∀ e ∈ s'.executions, e.agentID = a → e.sessionID = sid →
      e.state = .helperRunning → held e.id := by
    intro e' he' hagent hsession hstate
    rcases (apply_evolves hw.ids h).backward he' with hfresh | ⟨e, he, rfl | hchange⟩
    · exact absurd hstate hfresh.not_helperRunning
    · exact hs.helpers _ he hagent hsession hstate
    · have hsame := hchange.sameGrant
      rw [hsame.agentID] at hagent
      rw [hsame.sessionID] at hsession
      rw [hsame.id]
      rcases hchange.helperRunning hstate with hbefore | ⟨-, hcurrent, -⟩
      · exact hs.helpers e he hagent hsession hbefore
      · -- A handoff needs the current session.
        rw [hagent, hsession] at hcurrent
        exact absurd hcurrent hs.not_hasSession
  rcases apply_sessions hw.ids h with ⟨hsessions, hhistory⟩ |
    ⟨now, a', c, sid', p, -, -, hunused, hsessions, hhistory⟩ | ⟨now, a', -, hsessions, hhistory⟩
  · exact ⟨hhistory ▸ hs.recorded, hsessions ▸ hs.ended, hhelpers⟩
  · refine ⟨hhistory ▸ List.mem_cons_of_mem _ hs.recorded, ?_, hhelpers⟩
    rw [hsessions, Function.update_apply]
    split
    · rename_i heq
      intro hsid
      rw [← heq, Option.some.inj hsid] at hunused
      exact hunused hs.recorded
    · exact hs.ended
  · refine ⟨hhistory ▸ hs.recorded, ?_, hhelpers⟩
    rw [hsessions, Function.update_apply]
    split
    · simp
    · exact hs.ended

/-- What a replaced session presents leaves the rows of its agent as they are. -/
theorem Replaced.sameRowsBut (hw : WellFormed s) (hs : SessionsRecorded s)
    (hr : Replaced a sid held s) (hop : op.session? = some sid) (h : apply pf op s = .ok s') :
    SameRowsBut a held s s' := by
  have hrows := apply_evolves hw.ids h
  have hchanged : ∀ e ∈ s.executions, ∀ e', Change pf s op e e' → e.agentID = a → held e.id := by
    intro e he e' hchange hagent
    rcases hchange.presented hw hs hop with hcurrent | ⟨hsession, hstate⟩ | ⟨now, c, p, rfl⟩
    · exact absurd (hagent ▸ hcurrent) hr.not_hasSession
    · exact hr.helpers e he hagent hsession hstate
    · rw [hagent] at h
      exact absurd h (hr.not_registered now c p)
  refine ⟨?_, ?_⟩
  · intro e he hagent
    rcases hrows.forward he with ⟨e', he', rfl | hchange⟩
    · exact Or.inl he'
    · exact Or.inr (hchanged e he e' hchange hagent)
  · intro e' he' hagent
    rcases hrows.backward he' with hfresh | ⟨e, he, rfl | hchange⟩
    · exact absurd (hagent ▸ hfresh.presented hop) hr.not_hasSession
    · exact Or.inl he
    · have hsame := hchange.sameGrant
      rw [hsame.agentID] at hagent
      exact Or.inr (hsame.id ▸ hchanged e he e' hchange hagent)

end Sessions

/-! ## Retirement -/

section Retirement

variable {pf : Platform} {op : Op} {s s' : Store} {e e' : Execution} {id : String}

/-- The execution `id` belongs to a retired machine identity and has not been completed. -/
structure RetiredRow (id : String) (e : Execution) : Prop where
  id : e.id = id
  identity : e.identityRetiredAt ≠ ""
  ended : e.state.isActive = false
  state : e.state ≠ .succeeded
  disposition : e.disposition ≠ some .confirmCompleted

/-- The transactions that write the result of the execution `id` into the tables of its feature. -/
def Op.Projects (id : String) (s : Store) : Op → Prop
  | .projectRetainedExecutionResult _ id' _ | .confirmExecution _ id' _ _ => id' = id
  | .finalizeExecution _ _ _ _ id' | .completeTask _ _ _ _ _ id' _ _ => id' = id
  | .recoverReceivedExecutionResults _ a => id ∈ receivedExecutionResults a s
  | .reconcileTailscaleUpdate _ _ _ a o =>
      HasRow (fun e => e.id = id ∧ awaitsObservation a o.taskID e) s
  | _ => False

theorem finalizedExecution_identity (d now : Instant) (v : Evidence) (t : AgentTask) (e : Execution) :
    (finalizedExecution d now v t e).identityRetiredAt = e.identityRetiredAt := by
  unfold finalizedExecution
  split <;> rfl

/-- An identity is retired once, and its rows have ended. -/
theorem Change.identity (h : Change pf s op e e') :
    e'.identityRetiredAt = e.identityRetiredAt ∨
      e.identityRetiredAt = "" ∧ e'.state.isActive = false := by
  cases h
  case retired hidentity =>
      refine Or.inr ⟨hidentity, ?_⟩
      simp only [retireExecution]
      split
      · rfl
      · simpa using ‹¬ e.state.isActive = true›
  case finalized => exact Or.inl (finalizedExecution_identity ..)
  case completed => exact Or.inl (finalizedExecution_identity ..)
  case observed => exact Or.inl (finalizedExecution_identity ..)
  all_goals exact Or.inl rfl

/-- The rows of retired identities have ended. -/
def RetiredEnded (s : Store) : Prop :=
  ∀ e ∈ s.executions, e.identityRetiredAt ≠ "" → e.state.isActive = false

theorem Reachable.retiredEnded (h : Reachable pf s) : RetiredEnded s := by
  refine Reachable.induction ?_ ?_ h
  · intro b
    simp [RetiredEnded, Store.empty]
  · intro op s s' hw hs hop e' he' hidentity
    rcases (apply_evolves hw.ids hop).backward he' with hfresh | ⟨e, he, rfl | hchange⟩
    · cases hfresh <;> exact absurd rfl hidentity
    · exact hs _ he hidentity
    · rcases hchange.identity with hsame | ⟨-, hended⟩
      · have hended := hs e he (hsame ▸ hidentity)
        by_contra hactive
        rw [hchange.state_isActive (by simpa using hactive)] at hended
        cases hended
      · exact hended

theorem RetiredRow.dispose (h : RetiredRow id e) {d : Disposition} (hd : d ≠ .confirmCompleted)
    (note actor stamp : String) : RetiredRow id (Center.dispose d note actor stamp e) :=
  ⟨h.id, h.identity, h.ended, h.state, by simpa [Center.dispose] using hd⟩

/-- No statement completes the row of a retired identity. -/
theorem Change.retiredRow (h : Change pf s op e e') (hrow : RetiredRow id e) : RetiredRow id e' := by
  have hsettles : op.Settles := h.active_or_settles.resolve_left (by simp [hrow.ended])
  cases h
  -- Proofs of completion ask for an identity that is not retired.
  case recovered hretained => exact absurd hretained.identity hrow.identity
  case projected hretained => exact absurd hretained.identity hrow.identity
  case reinstalled hback => exact absurd hback.identity hrow.identity
  case receivedExpired => exact absurd ‹e.identityRetiredAt = ""› hrow.identity
  case confirmed => exact absurd ‹e.identityRetiredAt = ""› hrow.identity
  case confirmedStopped => exact absurd ‹e.identityRetiredAt = ""› hrow.identity
  case retired => exact absurd ‹e.identityRetiredAt = ""› hrow.identity
  case expired => exact absurd ‹e.state.isActive = true› (by simp [hrow.ended])
  case completed hfinal _ _ => exact absurd hfinal.isActive (by simp [hrow.ended])
  case helperDisposed haction =>
      rcases haction with rfl | ⟨-, hidentity⟩
      · exact hrow.dispose (by decide) ..
      · exact absurd hidentity hrow.identity
  case disposed =>
      rcases ‹_ = Disposition.abandon ∨ _ = Disposition.reexecute› with rfl | rfl
      · exact hrow.dispose (by decide) ..
      · exact hrow.dispose (by decide) ..
  case acknowledged =>
      have hstate : e.state ≠ .helperRunning := by
        intro hhelper
        simpa [hhelper, ExecutionState.isActive] using hrow.ended
      unfold acknowledgedExecution
      rw [if_neg (by simpa using hstate)]
      exact hrow.dispose (by decide) ..
  all_goals first
    | exact hrow.dispose (by decide) ..
    | exact hsettles.elim

/-- Retiring an identity retires all its unresolved rows, those of an earlier replacement too. -/
theorem retiredRow_of_retire (now : Instant) (hs : RetiredEnded s) (he : e ∈ s.executions)
    (hunresolved : e.isUnresolved) :
    HasRow (RetiredRow e.id) (retireAgentExecutionIdentity now e.agentID s) := by
  simp only [Execution.isUnresolved, Bool.and_eq_true, Option.isNone_iff_eq_none, bne_iff_ne]
    at hunresolved
  rcases hunresolved with ⟨hdisp, hstate⟩
  by_cases hidentity : e.identityRetiredAt = ""
  · refine ⟨retireExecution now.format e, mem_update_of_pos he ?_, rfl, ?_, ?_, ?_, ?_⟩
    · simp [Execution.isUnresolved, hdisp, hstate, hidentity]
    · exact now.format_ne_empty
    · simp only [retireExecution]
      split
      · rfl
      · simpa using ‹¬ e.state.isActive = true›
    · simp only [retireExecution]
      split
      · simp
      · exact hstate
    · simp [retireExecution, hdisp]
  · refine ⟨e, mem_update.2 ⟨e, he, ?_⟩, rfl, hidentity, hs e he hidentity, hstate, by simp [hdisp]⟩
    simp [hidentity]

theorem retiredRow_of_apply (hw : WellFormed s) (hrow : HasRow (RetiredRow id) s)
    (h : apply pf op s = .ok s') : HasRow (RetiredRow id) s' :=
  hrow.keep hw h fun _ _ hchange => hchange.retiredRow

/-- The result of a retired row is not projected. -/
theorem RetiredRow.not_projects (hw : WellFormed s) (he : e ∈ s.executions) (hrow : RetiredRow id e)
    (h : apply pf op s = .ok s') : ¬ op.Projects id s := by
  have hretained : ∀ res, ∀ row ∈ s.executions, row.id = id → ¬ retainedRow res id row := by
    intro res row hmem hid hretained
    obtain rfl := hw.eq_of_id hmem he (hid.trans hrow.id.symm)
    simp only [retainedRow, Bool.and_eq_true, beq_iff_eq] at hretained
    exact hrow.identity hretained.1.2
  have hactive : ∀ row ∈ s.executions, row.id = id → ¬ row.state.isActive := by
    intro row hmem hid
    obtain rfl := hw.eq_of_id hmem he (hid.trans hrow.id.symm)
    simp [hrow.ended]
  intro hproject
  cases op
  case projectRetainedExecutionResult =>
      obtain rfl := hproject
      obtain ⟨row, -, hmem, hid, hretain, -⟩ := projectRetainedExecutionResult_cases hw.ids h
      exact hretained _ row hmem hid hretain
  case confirmExecution =>
      obtain rfl := hproject
      obtain ⟨-, h⟩ := require_bind_eq_ok_iff.1 h
      obtain ⟨row, -, hmem, hid, hretain, -⟩ := projectRetainedExecutionResult_cases hw.ids h
      exact hretained _ row hmem hid hretain
  case finalizeExecution =>
      obtain rfl := hproject
      obtain ⟨own, v, t, hmem, hid, hfinal, -⟩ := finalizeExecution_cases hw.ids h
      exact hactive own hmem hid hfinal.isActive
  case completeTask =>
      obtain rfl := hproject
      obtain ⟨own, v, t, -, hmem, hfinal, -⟩ := completeTask_cases hw.ids h
      exact hactive own hmem hfinal.id hfinal.isActive
  case recoverReceivedExecutionResults =>
      simp only [Op.Projects, receivedExecutionResults, List.mem_map, List.mem_filter,
        Bool.and_eq_true, beq_iff_eq] at hproject
      obtain ⟨row, ⟨hmem, hreceived⟩, hid⟩ := hproject
      obtain rfl := hw.eq_of_id hmem he (hid.trans hrow.id.symm)
      exact hrow.identity hreceived.2
  case reconcileTailscaleUpdate =>
      obtain ⟨row, hmem, hid, hawaits⟩ := hproject
      refine hactive row hmem hid ?_
      simp only [awaitsObservation, Bool.and_eq_true, beq_iff_eq] at hawaits
      rw [hawaits.1.1.2]
      rfl
  all_goals exact hproject

end Retirement

/-- After a session has been replaced it is never registered again, and what it still presents
changes no row of its agent but those its helpers held at the replacement.  After an identity has
been retired, no row it left unresolved counts as completed, and no result of it is projected. -/
theorem session_and_identity_fenced (pf : Platform) {s₀ s₁ : Store} (hs : Reachable pf s₀) :
    (∀ now a c p old new, s₀.sessions a = some old → old ≠ new →
      apply pf (.registerExecutionSession now a c new p) s₀ = .ok s₁ →
      ∀ ops s', (∀ now' c' p', apply pf (.registerExecutionSession now' a c' old p')
          (Run.run (apply pf) ops s₁) ≠ .ok s') ∧
        ∀ op, op.session? = some old → apply pf op (Run.run (apply pf) ops s₁) = .ok s' →
          SameRowsBut a (HeldByHelper s₀) (Run.run (apply pf) ops s₁) s') ∧
    (∀ now a, apply pf (.retireAgentExecutionIdentity now a) s₀ = .ok s₁ →
      ∀ e₀ ∈ s₀.executions, e₀.agentID = a → e₀.isUnresolved →
      ∀ ops, (∀ e ∈ (Run.run (apply pf) ops s₁).executions, e.id = e₀.id →
          e.state ≠ .succeeded ∧ e.disposition ≠ some .confirmCompleted) ∧
        ∀ op s', apply pf op (Run.run (apply pf) ops s₁) = .ok s' →
          ¬ op.Projects e₀.id (Run.run (apply pf) ops s₁)) := by
  refine ⟨?_, ?_⟩
  · intro now a c p old new hcurrent hne hregister ops s'
    have hs₁ : Reachable pf s₁ := Run.Reachable.commit hs hregister
    have hreach : Reachable pf (Run.run (apply pf) ops s₁) := Run.Reachable.run hs₁ ops
    have hstart := replaced_of_register hs.wellFormed hs.sessionsRecorded hcurrent hne hregister
    have hreplaced : Replaced a old (HeldByHelper s₀) (Run.run (apply pf) ops s₁) :=
      hs₁.run_induction (fun o s s' hw hr ho => replaced_of_apply hw hr ho) hstart ops
    refine ⟨fun now' c' p' => hreplaced.not_registered now' c' p', ?_⟩
    intro op hop hcommit
    exact hreplaced.sameRowsBut hreach.wellFormed hreach.sessionsRecorded hop hcommit
  · rintro now a hretire e₀ he₀ rfl hunresolved ops
    have hs₁ : Reachable pf s₁ := Run.Reachable.commit hs hretire
    have hreach : Reachable pf (Run.run (apply pf) ops s₁) := Run.Reachable.run hs₁ ops
    obtain rfl := Except.ok.inj hretire
    have hstart := retiredRow_of_retire now hs.retiredEnded he₀ hunresolved
    rcases hs₁.run_induction (fun o s s' hw hr ho => retiredRow_of_apply hw hr ho) hstart ops with
      ⟨r, hr, hretired⟩
    refine ⟨?_, fun op s' hcommit => hretired.not_projects hreach.wellFormed hr hcommit⟩
    intro e he hid
    obtain rfl := hreach.wellFormed.eq_of_id he hr (hid.trans hretired.id.symm)
    exact ⟨hretired.state, hretired.disposition⟩

/-- The second session of the sample is replaced by a third one, or its identity is retired while a
deployment is unresolved. -/
theorem session_and_identity_fenced_interrupted :
    (∃ s₁, apply Sample.platform (.registerExecutionSession (Sample.time 4) Sample.agentID
        "credential" "session-000000000000000003" 2) (Sample.store Sample.interrupted) = .ok s₁ ∧
      ∀ ops s', apply Sample.platform (.registerExecutionSession (Sample.time 5) Sample.agentID
        "credential" "session-000000000000000002" 2) (Run.run (apply Sample.platform) ops s₁)
          ≠ .ok s') ∧
    ∃ e₀ ∈ (Sample.store Sample.interrupted).executions, ∀ ops, ∀ e ∈ (Run.run
        (apply Sample.platform) ops (retireAgentExecutionIdentity (Sample.time 4) Sample.agentID
          (Sample.store Sample.interrupted))).executions,
      e.id = e₀.id → e.state ≠ .succeeded ∧ e.disposition ≠ some .confirmCompleted := by
  have hreach := Sample.store_reachable Sample.interrupted
  refine ⟨?_, ?_⟩
  · have hcommit : (apply Sample.platform (.registerExecutionSession (Sample.time 4) Sample.agentID
        "credential" "session-000000000000000003" 2) (Sample.store Sample.interrupted)).toBool
          = true := by decide
    cases h : apply Sample.platform (.registerExecutionSession (Sample.time 4) Sample.agentID
        "credential" "session-000000000000000003" 2) (Sample.store Sample.interrupted) with
    | error err => simp [h, Except.toBool] at hcommit
    | ok s₁ =>
        refine ⟨s₁, rfl, fun ops s' => ?_⟩
        exact ((session_and_identity_fenced Sample.platform hreach).1 _ _ _ _
          "session-000000000000000002" _ (by decide) (by decide) h ops s').1 _ _ _
  · have hrow : ((Sample.store Sample.interrupted).executions.any fun e =>
        e.agentID == Sample.agentID && e.isUnresolved) = true := by decide
    rcases List.any_eq_true.1 hrow with ⟨e₀, he₀, hp⟩
    simp only [Bool.and_eq_true, beq_iff_eq] at hp
    refine ⟨e₀, he₀, fun ops => ?_⟩
    exact ((session_and_identity_fenced Sample.platform hreach).2 _ _ rfl e₀ he₀ hp.1 hp.2 ops).1

end Center
end Vastora
