import Vastora.Center.Execution.Invariant

/-!
# Lease — which leases the guards take for expired

Every guard compares a lease with the clock as text.  The text order is the order in time except for
two instants of one second whose fractions are written with different lengths, one of them the start
of the other (`Instant.Clash`); for those the guard decides the wrong way round.
-/

namespace Vastora
namespace Center

open Library Library.Guard Library.Table

/-- The operations that need an unexpired lease of one execution, with their clock reading. -/
def Op.leaseCheck? : Op → Option (Instant × String)
  | .startExecution now _ _ id _ | .checkExecutionStep now _ _ id _ | .renewExecution now _ _ id
  | .storeExecutionResult now _ _ id _ | .finalizeExecution _ now _ _ id
  | .completeTask _ now _ _ _ id _ _ | .beginAgentUpdateExecution now _ _ _ _ id _
  | .beginAgentDecommission now _ _ _ _ _ id _ | .beginTailscaleUpdate now _ _ _ id _ _
  | .checkUpdateHelperStep now _ _ id _ | .armOSReinstall now _ _ id _ => some (now, id)
  | _ => none

section Guards

variable {pf : Platform} {op : Op} {s s' : Store} {e e' : Execution} {now x : Instant} {a id : String}

/-- A guard that has let a lease pass decided rightly unless the two texts clash. -/
theorem before_iff_of_format_lt (hnow : now.InRange) (hx : x.InRange) (h : now.format < x.format) :
    now.Before x ↔ ¬ Instant.Clash now x := by
  rw [← Instant.format_lt_iff_before_iff hnow hx]
  exact ⟨fun hbefore => ⟨fun _ => hbefore, fun _ => h⟩, fun hiff => hiff.1 h⟩

/-- The negated guard, for the statements that expire. -/
theorem expires_iff (hnow : now.InRange) (hx : x.InRange) :
    (x.format ≤ now.format ↔ ¬ now.Before x) ↔ ¬ Instant.Clash now x := by
  rw [← Instant.format_lt_iff_before_iff hnow hx, ← not_lt, not_iff_not]

theorem Change.lease (h : Change pf s op e e') (hgrant : op.IsGrantStep)
    (hop : op.leaseCheck? = some (now, id)) : e.id = id ∧ now.format < e.expiresAt := by
  cases h <;> simp only [Op.leaseCheck?, reduceCtorEq, Option.some.injEq, Prod.mk.injEq] at hop
  all_goals rcases hop with ⟨rfl, rfl⟩
  case started => exact ⟨‹_›, ‹_›⟩
  case stepped hrow => exact ⟨hrow.id, ‹_›⟩
  case renewed hrow => exact ⟨hrow.id, ‹_›⟩
  case reported hrow => exact ⟨hrow.id, ‹_›⟩
  case updateHandedOff hrow => exact ⟨hrow.id, hrow.expiry⟩
  case decommissionHandedOff hrow => exact ⟨hrow.id, hrow.expiry⟩
  case tailscaleHandedOff hrow => exact ⟨hrow.id, hrow.expiry⟩
  case helperStepped hrow => exact ⟨hrow.id, hrow.expiry⟩
  case armed hrow => exact ⟨hrow.id, hrow.expiry⟩
  all_goals exact hgrant.elim

/-- An operation that needs a lease commits only on a row whose lease text is later. -/
theorem exists_lease (hw : WellFormed s) (h : apply pf op s = .ok s')
    (hop : op.leaseCheck? = some (now, id)) :
    ∃ e ∈ s.executions, e.id = id ∧ now.format < e.expiresAt := by
  by_cases hgrant : op.IsGrantStep
  · rcases apply_hit hw.ids h hgrant with ⟨e, he, e', -, hchange⟩
    exact ⟨e, he, hchange.lease hgrant hop⟩
  · cases op
    case finalizeExecution =>
        obtain ⟨own, v, t, hown, -, hfinal, -⟩ := finalizeExecution_cases hw.ids h
        obtain ⟨rfl, rfl⟩ := Prod.mk.inj (Option.some.inj hop)
        exact ⟨own, hown, hfinal.id, hfinal.expiry⟩
    case completeTask =>
        obtain ⟨own, v, t, -, hown, hfinal, -⟩ := completeTask_cases hw.ids h
        obtain ⟨rfl, rfl⟩ := Prod.mk.inj (Option.some.inj hop)
        exact ⟨own, hown, hfinal.id, hfinal.expiry⟩
    all_goals first
      | exact absurd trivial hgrant
      | cases hop

/-- The expiry statement of a claim that reaches it marks the rows whose lease text is not later. -/
theorem claim_expires (hw : WellFormed s) {sid : String}
    (htailscale : s.business.tailscaleAwaitingDecision a = false)
    (hreinstall : s.business.agentReinstallBlocked a = false)
    (h : apply pf (.executionClaimAllowed now a sid) s = .ok s') (he : e ∈ s.executions)
    (hagent : e.agentID = a) (hdisp : e.disposition = none) (hactive : e.state.isActive) :
    ∃ e' ∈ s'.executions, e'.id = e.id ∧ (e'.state = .unknown ↔ e.expiresAt ≤ now.format) := by
  obtain ⟨-, ⟨hreview, -⟩ | hmid⟩ := executionClaimAllowed_cases h
  · simp [htailscale, hreinstall] at hreview
  have hsuperseded := disposeSuperseded_rewritten (nodup_expireExecutions hw.ids) hmid
  -- Supersession only touches failed rows, so the outcome is that of the expiry statement.
  have hkeep : ∀ r ∈ (s.expireExecutions a now.format).executions, r.state ≠ .failed →
      r ∈ s'.executions := by
    intro r hr hstate
    rcases hsuperseded.rows.forward hr with ⟨r', hr', rfl | ⟨st, hsupersedes, -⟩⟩
    · exact hr'
    · exact absurd hsupersedes.state hstate
  by_cases hexpired : e.expiresAt ≤ now.format
  · refine ⟨expireExecution now.format e, hkeep _ ?_ (by simp [expireExecution]), rfl, ?_⟩
    · exact mem_update_of_pos he (by simp [hagent, hdisp, hactive, hexpired])
    · simp [expireExecution, hexpired]
  · refine ⟨e, hkeep e (mem_update.2 ⟨e, he, by simp [hexpired]⟩) ?_, rfl, ?_⟩
    · intro hstate
      simp [hstate, ExecutionState.isActive] at hactive
    · simp only [hexpired, iff_false]
      intro hstate
      simp [hstate, ExecutionState.isActive] at hactive

/-- A lease that a renewal changes has the later text. -/
theorem renewTaskLease_lease {c tid : String} {n i : Nat} {l l' : TaskLease}
    (h : apply pf (.renewTaskLease now a c tid n) s = .ok s') (hl : s.leases[i]? = some l)
    (hl' : s'.leases[i]? = some l') (hne : l' ≠ l) : now.format < l.leaseExpiresAt := by
  have h : renewTaskLease now a c tid n s = .ok s' := h
  simp only [renewTaskLease, require_bind_eq_ok_iff] at h
  rcases h with ⟨-, -, h⟩
  obtain ⟨⟨kinds, target⟩, -, h⟩ := bind_eq_ok_iff.1 h
  split at h
  · rename_i leases hupdate
    obtain rfl := Except.ok.inj h
    obtain rfl := (updateOne_eq_some_iff.1 hupdate).2
    rw [update, List.getElem?_map, hl, Option.map_some, Option.some.injEq] at hl'
    split at hl'
    · rename_i hp
      simp only [Bool.and_eq_true, decide_eq_true_eq] at hp
      exact hp.2
    · exact absurd hl'.symm hne
  · cases h

/-- The recovery releases the held leases of the agent whose text is not later. -/
theorem recoverExpiredTasks_lease (now : Instant) {i : Nat} {l : TaskLease} (hl : s.leases[i]? = some l)
    (hagent : l.agentID = a) (hheld : l.held) (hx : l.leaseExpiresAt = x.format) :
    ∃ l', (recoverExpiredTasks now a s).leases[i]? = some l' ∧
      (l'.held = false ↔ x.format ≤ now.format) := by
  refine ⟨_, by rw [recoverExpiredTasks, update, List.getElem?_map, hl, Option.map_some], ?_⟩
  split
  · rename_i hexpired
    simp only [leaseExpired, hx, Bool.and_eq_true, decide_eq_true_eq] at hexpired
    simp [hexpired.2]
  · rename_i hexpired
    simp only [leaseExpired, hx, hagent, hheld, Bool.and_eq_true, decide_eq_true_eq, beq_self_eq_true,
      bne_iff_ne, ne_eq, x.format_ne_empty, not_false_eq_true, true_and] at hexpired
    simp [hheld, hexpired]

end Guards

/-- A guard compares a lease with the clock in the order of time exactly when the two texts do not
clash.  So an operation that needs a lease commits on an unexpired one, and the expiry statements end
the expired leases and no others, exactly under that condition. -/
theorem lease_guards_follow_time (pf : Platform) {now x : Instant} (hnow : now.InRange)
    (hx : x.InRange) :
    ((now.format < x.format ↔ now.Before x) ↔ ¬ Instant.Clash now x) ∧
    (∀ op s s' e, Reachable pf s → apply pf op s = .ok s' → e ∈ s.executions →
      op.leaseCheck? = some (now, e.id) → e.expiresAt = x.format →
      (now.Before x ↔ ¬ Instant.Clash now x)) ∧
    (∀ a c tid n s s' (i : Nat) (l l' : TaskLease),
      apply pf (.renewTaskLease now a c tid n) s = .ok s' → s.leases[i]? = some l →
      s'.leases[i]? = some l' → l' ≠ l → l.leaseExpiresAt = x.format →
      (now.Before x ↔ ¬ Instant.Clash now x)) ∧
    (∀ a sid s s' e, Reachable pf s → s.business.tailscaleAwaitingDecision a = false →
      s.business.agentReinstallBlocked a = false →
      apply pf (.executionClaimAllowed now a sid) s = .ok s' → e ∈ s.executions → e.agentID = a →
      e.disposition = none → e.state.isActive → e.expiresAt = x.format →
      ∃ e' ∈ s'.executions, e'.id = e.id ∧
        ((e'.state = .unknown ↔ ¬ now.Before x) ↔ ¬ Instant.Clash now x)) ∧
    ∀ a (s : Store) (i : Nat) (l : TaskLease), s.leases[i]? = some l → l.agentID = a →
      l.held → l.leaseExpiresAt = x.format → ∃ l', (recoverExpiredTasks now a s).leases[i]? = some l' ∧
        ((l'.held = false ↔ ¬ now.Before x) ↔ ¬ Instant.Clash now x) := by
  refine ⟨Instant.format_lt_iff_before_iff hnow hx, ?_, ?_, ?_, ?_⟩
  · intro op s s' e hs h he hop hlease
    rcases exists_lease hs.wellFormed h hop with ⟨r, hr, hid, hlater⟩
    obtain rfl := eq_of_key hs.wellFormed.ids hr he hid
    exact before_iff_of_format_lt hnow hx (hlease ▸ hlater)
  · intro a c tid n s s' i l l' h hl hl' hne hlease
    exact before_iff_of_format_lt hnow hx (hlease ▸ renewTaskLease_lease h hl hl' hne)
  · intro a sid s s' e hs htailscale hreinstall h he hagent hdisp hactive hlease
    rcases claim_expires hs.wellFormed htailscale hreinstall h he hagent hdisp hactive with
      ⟨e', he', hid, hexpired⟩
    refine ⟨e', he', hid, ?_⟩
    rw [hexpired, hlease]
    exact expires_iff hnow hx
  · intro a s i l hl hagent hheld hlease
    obtain ⟨l', hl', hexpired⟩ := recoverExpiredTasks_lease now hl hagent hheld hlease
    refine ⟨l', hl', ?_⟩
    rw [hexpired]
    exact expires_iff hnow hx

/-- The sample's deployment is started, which leases it for five minutes to a whole second. -/
def Sample.started : List Op :=
  claim ++ [.startExecution (time 2) agentID sessionID "execution-1" "deployment-1"]

/-- Half a second after the lease of the started deployment ends. -/
def Sample.halfPast : Instant := ⟨43200 + 302, 500000000, by decide⟩

theorem lease_guards_follow_time_halfPast :
    (Sample.halfPast.format < (Sample.time 303).format ↔
      Sample.halfPast.Before (Sample.time 303)) ↔
    ¬ Instant.Clash Sample.halfPast (Sample.time 303) :=
  (lease_guards_follow_time Sample.platform (by decide) (by decide)).1

/-- An execution is renewed half a second after its lease ended. -/
theorem expired_execution_renewed :
    (∃ e ∈ (Sample.store Sample.started).executions, e.id = "execution-1" ∧
      e.expiresAt = (Sample.time 302).format) ∧
    (Sample.time 302).Before Sample.halfPast ∧
    ∃ s', apply Sample.platform (.renewExecution Sample.halfPast Sample.agentID Sample.sessionID
      "execution-1") (Sample.store Sample.started) = .ok s' := by
  refine ⟨?_, by decide, ?_⟩
  · have hrow : ((Sample.store Sample.started).executions.any fun e => e.id == "execution-1" &&
        e.expiresAt == (Sample.time 302).format) = true := by decide
    rcases List.any_eq_true.1 hrow with ⟨e, he, hp⟩
    simp only [Bool.and_eq_true, beq_iff_eq] at hp
    exact ⟨e, he, hp⟩
  · have hcommit : (apply Sample.platform (.renewExecution Sample.halfPast Sample.agentID
        Sample.sessionID "execution-1") (Sample.store Sample.started)).toBool = true := by decide
    cases h : apply Sample.platform (.renewExecution Sample.halfPast Sample.agentID
        Sample.sessionID "execution-1") (Sample.store Sample.started) with
    | error err => simp [h, Except.toBool] at hcommit
    | ok s' => exact ⟨s', rfl⟩

end Center
end Vastora
