import Vastora.Center.Execution.Invariant

/-!
# Fence — an unresolved execution is released by proof or by an operator

An execution that failed, or whose outcome is unknown, fences its host.  `Released` lists the proofs
that lift the fence without an operator: a retained result that shows success, a newer landing state,
the verified reconnect of an armed reinstall, and a completed configuration recovery.
-/

namespace Vastora
namespace Center

open Library Library.Pattern Library.Table

/-- The operations an administrator performs. -/
def Op.IsOperator : Op → Prop
  | .projectRetainedExecutionResult _ _ (.operator _ _) | .confirmExecution .. => True
  | .disposeTaskExecution .. | .disposeHelperExecution .. | .acknowledgeTailscaleUpdate .. => True
  | .authorizeAgentUpdateRecovery .. | .settleAgentReinstallLocalWork .. => True
  | .recoverMeridianEndpoint .. | .abandonLegacyReceipt .. => True
  | _ => False

/-- The proofs that release the row `e` of the store `s` when `op` is performed. -/
inductive Released (s : Store) (op : Op) (e : Execution) : Prop where
  /-- A retained result of this machine reports success. -/
  | retained (v : Evidence) (hstate : e.state = .unknown) (hphase : e.phase = "result_received")
      (hidentity : e.identityRetiredAt = "") (hresult : e.sealedResult = some v)
      (hsucceeded : v.succeeded = true) (hknown : v.unknown = false)
  /-- The stored landing state is beyond the revision and attempt that failed. -/
  | superseded (st : LandingState) (revision : Nat)
      (hkind : e.kind = .landingProxyApply ∨ e.kind = .landingServerApply)
      (hstate : e.state = .failed) (hphase : e.phase = "reported")
      (hlanding : s.landingState e = some st) (hrevision : landingRevision e = some revision)
      (hnewer : revision < st.desiredRevision ∨
        revision = st.desiredRevision ∧ e.attempt < st.attempt)
  /-- The reinstalled node has reconnected. -/
  | reconnected (now : Instant) (c sid ev : String)
      (hop : op = .completeOSReinstall now e.agentID c sid e.id e.taskID ev)
      (hkind : e.kind = .nodeOSReinstall) (hphase : e.phase = "reinstall_armed")
  /-- A configuration recovery of the application has been applied. -/
  | recovered (d now : Instant) (c sid : String) (own : Execution) (r : XrayRecovery) (v : Evidence)
      (hop : op = .completeTask d now e.agentID c sid own.id own.taskID own.attempt)
      (hown : own ∈ s.executions) (hresult : own.sealedResult = some v)
      (houtcome : v.outcome = .succeeded) (hname : hasPrefix own.taskID "xray-recovery-")
      (hrecovery : s.business.xrayRecovery own.taskID = some r) (happly : r.inspect = false)
      (hscope : recoveredBy r.applicationID s e)

section Step

variable {pf : Platform} {op : Op} {s s' : Store} {e e' : Execution}

theorem Supersedes.released {a : String} {st : LandingState} (h : Supersedes s a e st) :
    Released s op e := by
  have hkind : e.kind = .landingProxyApply ∨ e.kind = .landingServerApply := by
    have hlanding := h.landing
    unfold Store.landingState at hlanding
    split at hlanding
    · exact Or.inl ‹_›
    · exact Or.inr ‹_›
    · cases hlanding
  have hnewer := h.newer
  unfold landingSuperseded at hnewer
  split at hnewer
  · cases hnewer
  · rename_i revision hrevision
    refine .superseded st revision hkind h.state h.phase h.landing hrevision ?_
    simp only [Bool.not_eq_true', Bool.or_eq_false_iff, Bool.and_eq_false_iff,
      decide_eq_false_iff_not, beq_eq_false_iff_ne] at hnewer
    omega

theorem Retained.released {v : Evidence} (h : Retained e v) : Released s op e := by
  have hproof := h.proof
  simp only [retainedResultSupportsConfirmation, Bool.and_eq_true, Bool.not_eq_true'] at hproof
  exact .retained v h.state h.phase h.identity h.result hproof.1.1.1 hproof.1.1.2

/-- One statement on an unresolved row: it stays unresolved, or a proof releases it. -/
theorem Change.fence (h : Change pf s op e e') (hop : ¬ op.IsOperator)
    (hstate : e.state.isFailedOrUnknown) : e'.isUnresolved ∨ Released s op e := by
  have hended := not_isActive_of_isFailedOrUnknown hstate
  have hsettles : op.Settles := h.active_or_settles.resolve_left (by simp [hended])
  cases h
  case recovered hretained => exact Or.inr hretained.released
  case projected hretained => exact Or.inr hretained.released
  case claimSuperseded hlanding => exact Or.inr hlanding.released
  case superseded hlanding => exact Or.inr hlanding.released
  case configurationRecovered hown hfinal htask hattempt houtcome hrecovers =>
      obtain ⟨r, hrecovery, happly, hscope⟩ := hrecovers.scope
      obtain rfl := hrecovers.agent
      obtain rfl := hfinal.id
      subst htask hattempt
      exact Or.inr (.recovered _ _ _ _ _ r _ rfl hown hfinal.result houtcome hrecovers.name hrecovery
        happly hscope)
  case reinstalled hrow =>
      obtain rfl := hrow.id
      obtain rfl := hrow.agent
      obtain rfl := hrow.task
      exact Or.inr (.reconnected _ _ _ _ rfl hrow.kind hrow.phase)
  case receivedExpired =>
      refine Or.inl ?_
      simp [Execution.isUnresolved, expiredReceivedExecution, ‹e.disposition = none›]
  case retired =>
      refine Or.inl ?_
      simp only [Execution.isUnresolved, retireExecution, ‹e.disposition = none›]
      split
      · rfl
      · simpa using ‹e.state ≠ .succeeded›
  case expired => simp [‹e.state.isActive = true›] at hended
  case completed hfinal _ _ => simp [hfinal.isActive] at hended
  -- The other settling statements belong to an operator.
  all_goals first
    | exact hsettles.elim
    | exact absurd trivial hop

end Step

/-- Whatever an Agent triggers in a reachable store, an execution that failed or whose outcome is
unknown keeps fencing its host, unless one of the proofs releases it. -/
theorem fence_released_by_proof (pf : Platform) {s s' : Store} {op : Op} (hs : Reachable pf s)
    (hop : ¬ op.IsOperator) (h : apply pf op s = .ok s') {e : Execution} (he : e ∈ s.executions)
    (hstate : e.state.isFailedOrUnknown) (hdisp : e.disposition = none) :
    ∃ e' ∈ s'.executions, e'.id = e.id ∧ (e'.isUnresolved ∨ Released s op e) := by
  rcases (apply_evolves hs.wellFormed.ids h).forward he with ⟨e', he', rfl | hchange⟩
  · refine ⟨e', he', rfl, Or.inl ?_⟩
    have hended : e'.state ≠ .succeeded := by
      intro hsucceeded
      simp [hsucceeded, ExecutionState.isFailedOrUnknown] at hstate
    simp [Execution.isUnresolved, hdisp, hended]
  · exact ⟨e', he', hchange.sameGrant.id, hchange.fence hop hstate⟩

/-- A started deployment whose process was replaced, and the session that replaced it. -/
def Sample.interrupted : List Op :=
  claim ++ [.startExecution (time 2) agentID sessionID "execution-1" "deployment-1",
    .registerExecutionSession (time 3) agentID "credential" "session-000000000000000002" 2]

/-- The interrupted deployment is unknown, and the next claim finds it unresolved. -/
theorem fence_keeps_interrupted :
    ∃ e s', e ∈ (Sample.store Sample.interrupted).executions ∧ e.state = .unknown ∧
      apply Sample.platform
        (.executionClaimAllowed (Sample.time 4) Sample.agentID "session-000000000000000002")
        (Sample.store Sample.interrupted) = .ok s' ∧
      ∃ e' ∈ s'.executions, e'.id = e.id ∧ (e'.isUnresolved ∨ Released
        (Sample.store Sample.interrupted)
        (.executionClaimAllowed (Sample.time 4) Sample.agentID "session-000000000000000002") e) := by
  have hrow : ((Sample.store Sample.interrupted).executions.any fun e =>
      e.state == .unknown && e.disposition.isNone) = true := by decide
  rcases List.any_eq_true.1 hrow with ⟨e, he, hp⟩
  simp only [Bool.and_eq_true, beq_iff_eq, Option.isNone_iff_eq_none] at hp
  have hcommit : (apply Sample.platform
      (.executionClaimAllowed (Sample.time 4) Sample.agentID "session-000000000000000002")
      (Sample.store Sample.interrupted)).toBool = true := by decide
  cases h : apply Sample.platform
      (.executionClaimAllowed (Sample.time 4) Sample.agentID "session-000000000000000002")
      (Sample.store Sample.interrupted) with
  | error err => simp [h, Except.toBool] at hcommit
  | ok s' =>
      exact ⟨e, s', he, hp.1, rfl, fence_released_by_proof Sample.platform
        (Sample.store_reachable _) (by intro hop; exact hop) h he (by rw [hp.1]; rfl) hp.2⟩

end Center
end Vastora
