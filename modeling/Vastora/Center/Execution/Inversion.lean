import Vastora.Center.Execution.Transition

/-!
# Inversion — every committed operation is a set of transitions

Each operation is inverted once: what it committed is a rewriting of rows by `Change`, or the
insertion of a `Fresh` row.  `apply_evolves` assembles the cases, and every invariant of the store is
derived from it.  The operations address a row by its id, so the lemmas assume that ids are unique;
`Center.Execution.Invariant` discharges that assumption.
-/

namespace Vastora
namespace Center

open Library.Guard Library.Pattern Library.Table

/-! ## Inversion of the statements -/

/-- The primary key of `agent_task_executions`. -/
abbrev Store.Keyed (s : Store) : Prop := (s.executions.map Execution.id).Nodup

theorem Store.Keyed.of_ids {s s' : Store} (h : s.Keyed)
    (hids : s'.executions.map Execution.id = s.executions.map Execution.id) : s'.Keyed := by rwa [Store.Keyed, hids]

section Plumbing

variable {α : Type} {err : StoreError} {p : Execution → Bool} {f : Execution → Execution}
  {s s' : Store}

theorem affectOne_bind_eq_ok_iff {st : Statement} {k : Unit → Except StoreError α} {r : α} :
    (s.affectOne st err >>= k) = .ok r ↔ s.business.affectsOne st = true ∧ k () = .ok r :=
  require_bind_eq_ok_iff

/-- A committed one-row statement, as an equation between stores. -/
theorem updateOne_eq_ok_iff : s.updateOne p f err = .ok s' ↔
    s.executions.countP p = 1 ∧ s' = { s with executions := update p f s.executions } := by
  unfold Store.updateOne Library.Table.updateOne
  by_cases h : s.executions.countP p = 1
  · simp [h, eq_comm]
  · simp [h]

/-- A transaction that rewrites execution rows and keeps the sessions. -/
structure Rewritten (change : Execution → Execution → Prop) (s s' : Store) : Prop where
  rows : Rewrites change s.executions s'.executions
  sessions : s'.sessions = s.sessions
  history : s'.history = s.history

theorem rewritten_refl {change : Execution → Execution → Prop} (s : Store) : Rewritten change s s :=
  ⟨rewrites_refl _, rfl, rfl⟩

theorem Rewritten.mono {change change' : Execution → Execution → Prop} (h : Rewritten change s s')
    (hc : ∀ e e', change e e' → change' e e') : Rewritten change' s s' :=
  ⟨h.rows.mono hc, h.sessions, h.history⟩

theorem update_rewritten {change : Execution → Execution → Prop}
    (hrow : ∀ e ∈ s.executions, p e → change e (f e)) :
    Rewritten change s { s with executions := update p f s.executions } :=
  ⟨update_rewrites hrow, rfl, rfl⟩

/-- A transaction that rewrites at least one execution row. -/
structure RewrittenOne (change : Execution → Execution → Prop) (s s' : Store) : Prop
    extends Rewritten change s s' where
  hit : ∃ e ∈ s.executions, ∃ e' ∈ s'.executions, change e e'

theorem RewrittenOne.mono {change change' : Execution → Execution → Prop}
    (h : RewrittenOne change s s') (hc : ∀ e e', change e e' → change' e e') :
    RewrittenOne change' s s' := by
  refine ⟨h.toRewritten.mono hc, ?_⟩
  rcases h.hit with ⟨e, he, e', he', hchange⟩
  exact ⟨e, he, e', he', hc e e' hchange⟩

theorem updateOne_rewritten {change : Execution → Execution → Prop}
    (h : s.updateOne p f err = .ok s') (hrow : ∀ e ∈ s.executions, p e → change e (f e)) :
    RewrittenOne change s s' := by
  obtain ⟨hcount, rfl⟩ := updateOne_eq_ok_iff.1 h
  obtain ⟨e, he, hp⟩ := List.countP_pos_iff.1 (by rw [hcount]; exact one_pos)
  exact ⟨update_rewritten hrow, e, he, f e, mem_update_of_pos he hp, hrow e he hp⟩

/-- With unique ids, the row a query found is the row of that id. -/
theorem eq_of_find {q : Execution → Bool} {e row : Execution}
    (hkeys : s.Keyed) (hfind : s.executions.find? q = some row)
    (he : e ∈ s.executions) (hid : e.id = row.id) : e = row :=
  eq_of_key hkeys he (List.mem_of_find?_eq_some hfind) hid

/-- A one-row statement that addresses its row by id. -/
theorem updateOne_eq_update_id (hkeys : s.Keyed) (id : String)
    (h : s.updateOne p f err = .ok s') (hid : ∀ e, p e → e.id = id) :
    ∃ row ∈ s.executions, p row ∧ row.id = id ∧
      s' = { s with executions := update (fun e => e.id == id) f s.executions } := by
  obtain ⟨hcount, rfl⟩ := updateOne_eq_ok_iff.1 h
  obtain ⟨row, hrow, hp⟩ := List.countP_pos_iff.1 (by rw [hcount]; exact one_pos)
  obtain rfl := hid row hp
  exact ⟨row, hrow, hp, rfl, by rw [update_eq_of_key hkeys hrow hp hid]⟩

theorem update_id_rewritten (hkeys : s.Keyed) {row : Execution}
    (hrow : row ∈ s.executions) {change : Execution → Execution → Prop} (hc : change row (f row)) :
    Rewritten change s
      { s with executions := update (fun e => e.id == row.id) f s.executions } := by
  refine update_rewritten ?_
  intro e he hp
  obtain rfl := eq_of_key hkeys he hrow (by simpa using hp)
  exact hc

end Plumbing

/-! ## Grants -/

section Grants

variable {pf : Platform} {s s' : Store} {now : Instant} {a c sid id : String}

variable (pf) in
/-- A committed registration: a repeated one changes nothing, another replaces the session, records
it and interrupts the rows of every other session. -/
theorem registerExecutionSession_cases {p : Nat}
    (h : registerExecutionSession now a c sid p s = .ok s') :
    24 ≤ sid.utf8ByteSize ∧ s.authenticateAgent a c ∧
      (s.hasSession a sid ∧ s' = s ∨
        (a, sid) ∉ s.history ∧ s'.sessions = Function.update s.sessions a (some sid) ∧
          s'.history = (a, sid) :: s.history ∧
          Rewrites (Change pf s (.registerExecutionSession now a c sid p)) s.executions
            s'.executions) := by
  simp only [registerExecutionSession, require_bind_eq_ok_iff, Bool.and_eq_true,
    decide_eq_true_eq] at h
  rcases h with ⟨hvalid, hcredential, h⟩
  refine ⟨hvalid.1.1.2, hcredential, ?_⟩
  split at h
  · rename_i hcurrent
    exact Or.inl ⟨hcurrent, (pure_eq_ok_iff.1 h).symm⟩
  · simp only [require_bind_eq_ok_iff, pure_eq_ok_iff] at h
    rcases h with ⟨hunused, rfl⟩
    refine Or.inr ⟨by simpa using hunused, rfl, rfl, update_rewrites ?_⟩
    intro e _ hp
    simp only [Bool.and_eq_true, beq_iff_eq, bne_iff_ne, Option.isNone_iff_eq_none] at hp
    exact .interrupted hp.1.1.1 hp.1.1.2 hp.1.2 hp.2

theorem startExecution_rewritten {d : String} (h : startExecution now a sid id d s = .ok s') :
    RewrittenOne (Change pf s (.startExecution now a sid id d)) s s' := by
  refine updateOne_rewritten h ?_
  intro e _ hp
  simp only [Bool.and_eq_true, beq_iff_eq, decide_eq_true_eq, Option.isNone_iff_eq_none,
    and_assoc] at hp
  rcases hp with ⟨hid, hagent, hsession, hdigest, hstate, hdisp, hexpiry, hcurrent⟩
  exact .started hid hagent hsession hdigest hstate hdisp hexpiry hcurrent

theorem checkExecutionStep_rewritten {phase : String}
    (h : checkExecutionStep now a sid id phase s = .ok s') :
    RewrittenOne (Change pf s (.checkExecutionStep now a sid id phase)) s s' := by
  simp only [checkExecutionStep, require_bind_eq_ok_iff] at h
  rcases h with ⟨hvalid, h⟩
  refine updateOne_rewritten h ?_
  intro e _ hp
  simp only [Bool.and_eq_true, Bool.or_eq_true, beq_iff_eq, bne_iff_ne, decide_eq_true_eq,
    Option.isNone_iff_eq_none, and_assoc] at hp
  rcases hp with ⟨hid, hagent, hsession, hstate, hphase, hdisp, hexpiry, hcurrent, hkind⟩
  exact .stepped (by simpa using hvalid) hstate hexpiry hcurrent hkind
    ⟨hid, hagent, hsession, hphase, hdisp⟩

theorem renewExecution_rewritten (h : renewExecution now a sid id s = .ok s') :
    RewrittenOne (Change pf s (.renewExecution now a sid id)) s s' := by
  refine updateOne_rewritten h ?_
  intro e _ hp
  simp only [Bool.and_eq_true, beq_iff_eq, bne_iff_ne, decide_eq_true_eq,
    Option.isNone_iff_eq_none, and_assoc] at hp
  rcases hp with ⟨hid, hagent, hsession, hstate, hphase, hdisp, hexpiry, hcurrent⟩
  exact .renewed hstate hexpiry hcurrent ⟨hid, hagent, hsession, hphase, hdisp⟩

theorem stopExecution_rewritten {u : Bool} {taskError : String}
    (h : stopExecution pf now a sid id u taskError s = .ok s') :
    RewrittenOne (Change pf s (.stopExecution now a sid id u taskError)) s s' := by
  refine updateOne_rewritten h ?_
  intro e _ hp
  simp only [Bool.and_eq_true, beq_iff_eq, bne_iff_ne, Option.isNone_iff_eq_none, and_assoc] at hp
  rcases hp with ⟨hid, hagent, hsession, hstate, hphase, hdisp, hcurrent⟩
  exact .stopped hstate hcurrent ⟨hid, hagent, hsession, hphase, hdisp⟩

theorem storeExecutionResult_rewritten {r : Report}
    (h : storeExecutionResult pf now a sid id r s = .ok s') :
    RewrittenOne (Change pf s (.storeExecutionResult now a sid id r)) s s' := by
  simp only [storeExecutionResult, require_bind_eq_ok_iff] at h
  rcases h with ⟨-, h⟩
  refine updateOne_rewritten h ?_
  intro e _ hp
  simp only [Bool.and_eq_true, Bool.or_eq_true, Bool.not_eq_true', beq_iff_eq, bne_iff_ne,
    decide_eq_true_eq, Option.isNone_iff_eq_none, and_assoc] at hp
  rcases hp with ⟨hid, hagent, hsession, howner, hphase, hdisp, hexpiry, hhelper, hcurrent⟩
  refine .reported ?_ hexpiry ?_ ⟨hid, hagent, hsession, hphase, hdisp⟩
  · -- Without the helper flag the row is running, so the session must be the current one.
    rcases howner with ⟨-, hstate⟩ | ⟨-, hkind, hstate⟩
    · refine Or.inl ⟨hstate, ?_⟩
      simpa [hstate] using hcurrent
    · exact Or.inr ⟨hstate, hkind⟩
  · intro hstate hsucceeded
    simpa [hstate, hsucceeded] using hhelper

end Grants

/-! ## Claims -/

section Claims

variable {pf : Platform} {s s' : Store} {now : Instant} {a sid id stamp : String}

theorem mem_landingFailures {c : Execution × LandingState} (h : c ∈ s.landingFailures a) :
    c.1 ∈ s.executions ∧ (landingSuperseded c.1 c.2 → Supersedes s a c.1 c.2) := by
  simp only [Store.landingFailures, List.mem_filterMap, List.mem_append, List.mem_filter,
    Option.map_eq_some_iff, Bool.and_eq_true, Bool.or_eq_true, beq_iff_eq,
    Option.isNone_iff_eq_none] at h
  rcases h with ⟨e, hrow, st, hlanding, rfl⟩
  rcases hrow with ⟨he, ⟨⟨⟨⟨-, hdisp⟩, hstate⟩, hphase⟩, hagent⟩⟩ |
    ⟨he, ⟨⟨⟨⟨-, hdisp⟩, hstate⟩, hphase⟩, hagent⟩⟩
  all_goals exact ⟨he, fun hnewer => ⟨hagent, hdisp, hstate, hphase, hlanding, hnewer⟩⟩

/-- The loop over superseded landing failures disposes each of them at most once. -/
theorem disposeSuperseded_rewritten (hkeys : s.Keyed)
    (h : disposeSupersededLandingExecutionFailures a stamp s = .ok s') :
    Rewritten (fun e e' => ∃ st, Supersedes s a e st ∧ e' = supersedeExecution stamp st e) s s' := by
  simp only [disposeSupersededLandingExecutionFailures, bind_eq_ok_iff, pure_eq_ok_iff] at h
  rcases h with ⟨rows, hloop, rfl⟩
  refine ⟨?_, rfl, rfl⟩
  refine foldlM_invariant ?_ (rewrites_refl _) hloop
  intro mid c mid' hc hmid hstep
  rcases mem_landingFailures hc with ⟨hrow, hsupersedes⟩
  unfold supersedeStep at hstep
  split at hstep
  · rename_i hnewer
    split at hstep
    · rename_i rows' hupdate
      obtain rfl := Except.ok.inj hstep
      rw [(updateOne_eq_some_iff.1 hupdate).2]
      refine hmid.update_again ?_ ?_
      · intro e he hp
        simp only [Bool.and_eq_true, beq_iff_eq] at hp
        obtain rfl := eq_of_key hkeys he hrow hp.1.1
        exact ⟨c.2, hsupersedes hnewer, rfl⟩
      · -- A superseded row carries a disposition, so no later statement of the loop meets it again.
        rintro e e' ⟨st, -, rfl⟩
        simp [supersedeExecution]
    · cases hstep
  · obtain rfl := Except.ok.inj hstep
    exact hmid

theorem expireExecutions_rewrites :
    Rewrites (fun e e' => e.agentID = a ∧ e.disposition = none ∧ e.state.isActive ∧
        e.expiresAt ≤ stamp ∧ e' = expireExecution stamp e) s.executions
      (s.expireExecutions a stamp).executions := by
  refine update_rewrites ?_
  intro e _ hp
  simp only [Bool.and_eq_true, beq_iff_eq, decide_eq_true_eq, Option.isNone_iff_eq_none] at hp
  exact ⟨hp.1.1.1, hp.1.1.2, hp.1.2, hp.2, rfl⟩

theorem nodup_expireExecutions (hkeys : s.Keyed) :
    ((s.expireExecutions a stamp).executions.map Execution.id).Nodup := by
  have hids : (s.expireExecutions a stamp).executions.map Execution.id =
      s.executions.map Execution.id := map_key_update fun _ => rfl
  rwa [hids]

/-- A committed claim: the reviews of a node stop it before its statements, which otherwise expire
and then supersede rows. -/
theorem executionClaimAllowed_cases
    (h : (executionClaimAllowed pf now a sid s).map Prod.fst = .ok s') :
    s.hasSession a sid ∧
      ((s.business.tailscaleAwaitingDecision a ∨ s.business.agentReinstallBlocked a) ∧ s' = s ∨
        disposeSupersededLandingExecutionFailures a now.format (s.expireExecutions a now.format) =
          .ok s') := by
  cases hclaim : executionClaimAllowed pf now a sid s with
  | error err =>
      rw [hclaim] at h
      cases h
  | ok r =>
      rw [hclaim] at h
      obtain rfl := Except.ok.inj h
      simp only [executionClaimAllowed, require_bind_eq_ok_iff] at hclaim
      rcases hclaim with ⟨-, hcurrent, hclaim⟩
      refine ⟨hcurrent, ?_⟩
      split at hclaim
      · obtain rfl := pure_eq_ok_iff.1 hclaim
        exact Or.inl ⟨Or.inl ‹_›, rfl⟩
      split at hclaim
      · obtain ⟨-, -, hclaim⟩ := bind_eq_ok_iff.1 hclaim
        obtain rfl := pure_eq_ok_iff.1 hclaim
        exact Or.inl ⟨Or.inr ‹_›, rfl⟩
      · obtain ⟨mid, hmid, hclaim⟩ := bind_eq_ok_iff.1 hclaim
        obtain ⟨verdict, -, hclaim⟩ := bind_eq_ok_iff.1 hclaim
        obtain rfl := pure_eq_ok_iff.1 hclaim
        exact Or.inr hmid

theorem executionClaimAllowed_rewritten (hkeys : s.Keyed)
    (h : (executionClaimAllowed pf now a sid s).map Prod.fst = .ok s') :
    Rewritten (Change pf s (.executionClaimAllowed now a sid)) s s' := by
  obtain ⟨hcurrent, ⟨-, rfl⟩ | hmid⟩ := executionClaimAllowed_cases h
  · exact rewritten_refl _
  · have hexpired := @expireExecutions_rewrites s a now.format
    have hsuperseded := disposeSuperseded_rewritten (nodup_expireExecutions hkeys) hmid
    refine ⟨hexpired.trans hsuperseded.rows ?_ ?_ ?_, hsuperseded.sessions, hsuperseded.history⟩
    · rintro e e' ⟨hagent, hdisp, hstate, hexpiry, rfl⟩
      exact .expired hagent hcurrent hdisp hstate hexpiry
    · rintro e e' ⟨st, hsupersedes, rfl⟩
      exact .claimSuperseded hcurrent ⟨hsupersedes.agent, hsupersedes.disposition,
        hsupersedes.state, hsupersedes.phase, hsupersedes.landing, hsupersedes.newer⟩
    · -- A row that has just expired is `unknown`, and only a failed row is superseded.
      rintro e m e' ⟨-, -, -, -, rfl⟩ ⟨st, hsupersedes, -⟩
      cases hsupersedes.state

theorem insertExecution_eq_ok_iff {e : Execution} : s.insertExecution e = .ok s' ↔
    (∀ r ∈ s.executions, r.id ≠ e.id) ∧
      (∀ r ∈ s.executions, r.taskID = e.taskID → r.attempt ≠ e.attempt) ∧
      s' = { s with executions := s.executions ++ [e] } := by
  unfold Store.insertExecution
  split
  · rename_i hclash
    simp only [List.any_eq_true, Bool.or_eq_true, Bool.and_eq_true, beq_iff_eq] at hclash
    rcases hclash with ⟨r, hr, hid | ⟨htask, hattempt⟩⟩
    · simp only [reduceCtorEq, false_iff]
      exact fun h => h.1 r hr hid
    · simp only [reduceCtorEq, false_iff]
      exact fun h => h.2.1 r hr htask hattempt
  · rename_i hclash
    simp only [List.any_eq_true, Bool.or_eq_true, Bool.and_eq_true, beq_iff_eq, not_exists, not_and,
      not_or] at hclash
    refine ⟨fun h => ⟨?_, ?_, (Except.ok.inj h).symm⟩, fun h => by rw [h.2.2]⟩
    · exact fun r hr => (hclash r hr).1
    · exact fun r hr => (hclash r hr).2

theorem persistExecutionAuthorization_fresh {t : AgentTask}
    (h : persistExecutionAuthorization pf now a sid id t s = .ok s') :
    ∃ e, Fresh pf s (.persistExecutionAuthorization now a sid id t) e ∧
      s' = { s with executions := s.executions ++ [e] } := by
  simp only [persistExecutionAuthorization, require_bind_eq_ok_iff] at h
  rcases h with ⟨htask, h⟩
  obtain ⟨-, -, h⟩ := bind_eq_ok_iff.1 h
  obtain ⟨-, h⟩ := require_bind_eq_ok_iff.1 h
  obtain ⟨⟨⟩, hfence, h⟩ := bind_eq_ok_iff.1 h
  obtain ⟨hcurrent, h⟩ := require_bind_eq_ok_iff.1 h
  obtain ⟨hid, hunique, rfl⟩ := insertExecution_eq_ok_iff.1 h
  simp only [Bool.and_eq_true, bne_iff_ne, decide_eq_true_eq] at htask
  exact ⟨_, .authorized htask.1 htask.2 hfence hcurrent hid hunique, rfl⟩

end Claims

/-! ## Publication and leases -/

section Publication

variable {pf : Platform} {s s' : Store} {d now : Instant} {a c sid id tid stamp : String} {n : Nat}

/-- A committed finalization found a row that was ready for it and rewrote that row. -/
theorem finalizeExecution_cases (hkeys : s.Keyed)
    (h : finalizeExecution d now a sid id s = .ok s') :
    ∃ own v t, own ∈ s.executions ∧ own.id = id ∧ Finalizes s now a sid id own v t ∧
      s' = { s with
        executions := update (fun e => e.id == id) (finalizedExecution d now v t) s.executions } := by
  simp only [finalizeExecution, fetch_bind_eq_ok_iff] at h
  rcases h with ⟨row, hfind, v, hresult, t, htask, h⟩
  have hid : ∀ e, awaitsFinalization a sid id e → e.id = id := by
    intro e he
    simp only [awaitsFinalization, Bool.and_eq_true, beq_iff_eq] at he
    exact he.1.1.1.1.1
  obtain ⟨own, hown, hp, hownID, hs'⟩ := updateOne_eq_update_id hkeys id h (by
    intro e he
    simp only [Bool.and_eq_true] at he
    exact hid e he.1.1)
  obtain rfl : own = row :=
    eq_of_find hkeys hfind hown (hownID.trans (hid row (List.find?_some hfind)).symm)
  simp only [awaitsFinalization, Bool.and_eq_true, Bool.or_eq_true, beq_iff_eq, decide_eq_true_eq,
    Option.isNone_iff_eq_none, and_assoc] at hp
  rcases hp with ⟨-, hagent, hsession, hstate, hphase, hdisp, hexpiry, hcurrent⟩
  exact ⟨own, v, t, hown, hownID,
    ⟨hownID, hagent, hsession, hstate, hphase, hdisp, hexpiry, hcurrent, hresult, htask⟩, hs'⟩

theorem finalizeExecution_rewritten (hkeys : s.Keyed)
    (h : finalizeExecution d now a sid id s = .ok s') :
    Rewritten (Change pf s (.finalizeExecution d now a sid id)) s s' := by
  obtain ⟨own, v, t, hown, rfl, hfinal, rfl⟩ := finalizeExecution_cases hkeys h
  exact update_id_rewritten hkeys hown (.finalized hfinal)

theorem projectTask_rewritten {v : Evidence} (h : projectTask now a tid n v s = .ok s') :
    Rewritten (fun e e' => Recovers s a tid n v e ∧
        e' = dispose .configurationRecovered "Explicit Xray configuration recovery completed"
          "system" now.format e) s s' := by
  unfold projectTask at h
  split at h
  · rename_i hname
    simp only [completeXrayConfigurationRecovery, fetch_bind_eq_ok_iff, require_bind_eq_ok_iff,
      pure_eq_ok_iff] at h
    rcases h with ⟨r, hrecovery, -, rfl⟩
    split
    · rename_i happly
      simp only [Bool.and_eq_true, Bool.not_eq_true'] at happly
      refine update_rewritten ?_
      intro e _ hp
      simp only [Bool.and_eq_true, Bool.not_eq_true', beq_iff_eq, bne_iff_ne,
        Option.isNone_iff_eq_none, and_assoc] at hp
      rcases hp with ⟨hagent, hother, hdisp, hstate, hscope⟩
      refine ⟨⟨hname, ⟨r, hrecovery, happly.2, hscope⟩, happly.1, hagent, ?_, hdisp, hstate⟩, rfl⟩
      intro own hown htask hattempt hid
      simp only [List.contains_eq_mem, List.mem_map, List.mem_filter, Bool.and_eq_true, beq_iff_eq,
        decide_eq_false_iff_not, not_exists, not_and] at hother
      exact hother own ⟨hown, htask, hattempt⟩ hid.symm
    · exact rewritten_refl _
  · obtain rfl := Except.ok.inj h
    exact rewritten_refl _

/-- A completed task: the recovery it may stand for, then the finalization of its own row. -/
theorem completeTask_cases (hkeys : s.Keyed)
    (h : completeTask d now a c sid id tid n s = .ok s') :
    ∃ own v t mid, own ∈ s.executions ∧ Finalizes s now a sid id own v t ∧ own.taskID = tid ∧
      own.attempt = n ∧ (v.unknown = false ∨ v.succeeded = false) ∧
      Rewritten (fun e e' => Recovers s a tid n v e ∧
        e' = dispose .configurationRecovered "Explicit Xray configuration recovery completed"
          "system" now.format e) s mid ∧
      Rewritten (fun e e' => e = own ∧ e' = finalizedExecution d now v t e) mid s' := by
  simp only [completeTask, fetch_bind_eq_ok_iff, require_bind_eq_ok_iff] at h
  rcases h with ⟨row, hfind, v, hresult, -, hdefinite, h⟩
  obtain ⟨mid, hproject, h⟩ := bind_eq_ok_iff.1 h
  obtain ⟨-, h⟩ := require_bind_eq_ok_iff.1 h
  have hmid := projectTask_rewritten hproject
  have hids : mid.executions.map Execution.id = s.executions.map Execution.id := by
    refine hmid.rows.map_key ?_
    rintro e e' ⟨-, rfl⟩
    rfl
  obtain ⟨own, v', t, hown, rfl, hfinal, rfl⟩ := finalizeExecution_cases (hkeys.of_ids hids) h
  have hrows : Rewritten (fun e e' => e = own ∧ e' = finalizedExecution d now v' t e) mid _ :=
    update_id_rewritten (hkeys.of_ids hids) hown ⟨rfl, rfl⟩
  -- The finalized row carries no disposition, so the recovery has not touched it.
  have hown : own ∈ s.executions := by
    rcases hmid.rows.backward hown with ⟨e, he, rfl | ⟨-, rfl⟩⟩
    · exact he
    · cases hfinal.disposition
  have hfound := List.find?_some hfind
  simp only [Bool.and_eq_true, beq_iff_eq] at hfound
  obtain rfl : own = row :=
    eq_of_find hkeys hfind hown hfound.1.1.1.1.symm
  obtain rfl : v' = v := Option.some.inj (hfinal.result.symm.trans hresult)
  have hfinal : Finalizes s now a sid own.id own v' t := by
    refine ⟨hfinal.id, hfinal.agent, hfinal.session, hfinal.state, hfinal.phase,
      hfinal.disposition, hfinal.expiry, ?_, hfinal.result, hfinal.task⟩
    simpa [Store.hasSession, hmid.sessions] using hfinal.current
  exact ⟨own, v', t, mid, hown, hfinal, hfound.1.1.2, hfound.1.2, by simpa using hdefinite, hmid,
    hrows⟩

theorem completeTask_rewritten (hkeys : s.Keyed)
    (h : completeTask d now a c sid id tid n s = .ok s') :
    Rewritten (Change pf s (.completeTask d now a c sid id tid n)) s s' := by
  rcases completeTask_cases hkeys h with
    ⟨own, v, t, mid, hown, hfinal, htask, hattempt, hdefinite, hmid, hrows⟩
  refine ⟨hmid.rows.trans hrows.rows ?_ ?_ ?_, hrows.sessions.trans hmid.sessions,
    hrows.history.trans hmid.history⟩
  · rintro e e' ⟨hrecovers, rfl⟩
    refine .configurationRecovered hown hfinal htask hattempt ?_ hrecovers
    have hsucceeded := hrecovers.succeeded
    rcases hdefinite with hunknown | hfailed
    · simp [Evidence.outcome, hunknown, hsucceeded]
    · simp [hsucceeded] at hfailed
  · rintro e e' ⟨rfl, rfl⟩
    exact .completed hfinal htask hattempt
  · rintro e m e' ⟨-, rfl⟩ ⟨rfl, -⟩
    cases hfinal.disposition

theorem recoverExpiredTasks_rewritten :
    Rewritten (Change pf s (.recoverExpiredTasks now a)) s (recoverExpiredTasks now a s) := by
  refine ⟨?_, rfl, rfl⟩
  have hloop : Rewrites (fun e e' => e.agentID = a ∧
        (∃ l ∈ s.leases, leaseExpired a now.format l ∧ l.taskID = e.taskID) ∧
        e.disposition = none ∧ e.state.isOfferedOrRunning ∧
        e' = interruptedTaskExecution now.format e)
      s.executions (recoverExpiredTasks now a s).executions := by
    refine foldl_invariant ?_ (rewrites_refl _)
    intro mid l hl hmid
    rw [List.mem_filter] at hl
    refine hmid.update_again ?_ ?_
    · intro e _ hp
      simp only [Bool.and_eq_true, beq_iff_eq, Option.isNone_iff_eq_none] at hp
      exact ⟨hp.1.1.1, ⟨l, hl.1, hl.2, hp.1.1.2.symm⟩, hp.1.2, hp.2, rfl⟩
    · rintro e e' ⟨-, -, -, -, rfl⟩
      simp [interruptedTaskExecution, ExecutionState.isOfferedOrRunning]
  refine hloop.mono ?_
  rintro e e' ⟨hagent, hlease, hdisp, hstate, rfl⟩
  exact .taskInterrupted hagent hlease hdisp hstate

theorem recoverExpiredReceivedExecutionResults_rewritten :
    Rewritten (Change pf s (.recoverExpiredReceivedExecutionResults now)) s
      (recoverExpiredReceivedExecutionResults now s) := by
  refine update_rewritten ?_
  intro e _ hp
  simp only [Bool.and_eq_true, Bool.or_eq_true, beq_iff_eq, bne_iff_ne, decide_eq_true_eq,
    Option.isNone_iff_eq_none, and_assoc, or_assoc] at hp
  rcases hp with ⟨hdisp, hidentity, hstate, hphase, -, hexpiry⟩
  exact .receivedExpired hdisp hidentity hstate hphase hexpiry

theorem renewTaskLease_rewritten (h : renewTaskLease now a c tid n s = .ok s') :
    Rewritten (Change pf s (.renewTaskLease now a c tid n)) s s' := by
  simp only [renewTaskLease, require_bind_eq_ok_iff] at h
  rcases h with ⟨-, -, h⟩
  obtain ⟨⟨kinds, target⟩, -, h⟩ := bind_eq_ok_iff.1 h
  split at h
  · obtain rfl := Except.ok.inj h
    exact ⟨rewrites_refl _, rfl, rfl⟩
  · cases h

end Publication

/-! ## Helpers -/

section Helpers

variable {pf : Platform} {s s' : Store} {d now later : Instant} {a c sid id tid phase : String}
  {n : Nat}

theorem handOff_rewritten {kind : TaskKind}
    (h : handOff kind phase now later a tid sid id n s = .ok s') :
    RewrittenOne (fun e e' => HandsOff s kind now a tid sid id n e ∧
      e' = handedOffExecution phase now later e) s s' := by
  refine updateOne_rewritten h ?_
  intro e _ hp
  simp only [Bool.and_eq_true, beq_iff_eq, decide_eq_true_eq, Option.isNone_iff_eq_none,
    and_assoc] at hp
  rcases hp with ⟨hid, hagent, htask, hattempt, hsession, hkind, hstate, hphase, hdisp, hexpiry,
    hcurrent⟩
  exact ⟨⟨hid, hagent, htask, hattempt, hsession, hkind, hstate, hphase, hdisp, hexpiry, hcurrent⟩,
    rfl⟩

theorem beginAgentUpdateExecution_rewritten
    (h : beginAgentUpdateExecution now a c tid n id sid s = .ok s') :
    RewrittenOne (Change pf s (.beginAgentUpdateExecution now a c tid n id sid)) s s' := by
  simp only [beginAgentUpdateExecution, require_bind_eq_ok_iff] at h
  rcases h with ⟨-, -, h⟩
  obtain ⟨mid, hmid, h⟩ := bind_eq_ok_iff.1 h
  simp only [affectOne_bind_eq_ok_iff, pure_eq_ok_iff] at h
  rcases h with ⟨-, rfl⟩
  refine (handOff_rewritten hmid).mono ?_
  rintro e e' ⟨hrow, rfl⟩
  exact .updateHandedOff hrow

theorem beginAgentDecommission_rewritten
    (h : beginAgentDecommission now later a c tid n id sid s = .ok s') :
    RewrittenOne (Change pf s (.beginAgentDecommission now later a c tid n id sid)) s s' := by
  simp only [beginAgentDecommission, require_bind_eq_ok_iff] at h
  rcases h with ⟨-, -, -, h⟩
  obtain ⟨mid, hmid, h⟩ := bind_eq_ok_iff.1 h
  simp only [affectOne_bind_eq_ok_iff, pure_eq_ok_iff] at h
  rcases h with ⟨-, rfl⟩
  refine (handOff_rewritten hmid).mono ?_
  rintro e e' ⟨hrow, rfl⟩
  exact .decommissionHandedOff hrow

theorem beginTailscaleUpdate_rewritten
    (h : beginTailscaleUpdate now a c tid id sid n s = .ok s') :
    RewrittenOne (Change pf s (.beginTailscaleUpdate now a c tid id sid n)) s s' := by
  simp only [beginTailscaleUpdate, require_bind_eq_ok_iff] at h
  rcases h with ⟨-, h⟩
  obtain ⟨mid, hmid, h⟩ := bind_eq_ok_iff.1 h
  simp only [affectOne_bind_eq_ok_iff, pure_eq_ok_iff] at h
  rcases h with ⟨-, rfl⟩
  refine (handOff_rewritten hmid).mono ?_
  rintro e e' ⟨hrow, rfl⟩
  exact .tailscaleHandedOff hrow

theorem checkUpdateHelperStep_rewritten (h : checkUpdateHelperStep now a sid id phase s = .ok s') :
    RewrittenOne (Change pf s (.checkUpdateHelperStep now a sid id phase)) s s' := by
  unfold checkUpdateHelperStep at h
  cases hprevious : previousHelperPhase phase with
  | none => simp [hprevious] at h
  | some previous =>
      simp only [hprevious] at h
      refine updateOne_rewritten h ?_
      intro e _ hp
      simp only [Bool.and_eq_true, beq_iff_eq, decide_eq_true_eq, Option.isNone_iff_eq_none,
        and_assoc] at hp
      rcases hp with ⟨hid, hagent, hsession, hkind, hstate, hphase, hdisp, hexpiry⟩
      subst hphase
      exact .helperStepped ⟨hid, hagent, hsession, hkind, hstate, hprevious, hdisp, hexpiry⟩

theorem authorizeDecommissionStep_rewritten {tok : String} {k : Nat}
    (h : authorizeDecommissionStep now tid tok n k phase s = .ok s') :
    RewrittenOne (Change pf s (.authorizeDecommissionStep now tid tok n k phase)) s s' := by
  simp only [authorizeDecommissionStep, require_bind_eq_ok_iff, fetch_bind_eq_ok_iff] at h
  rcases h with ⟨hvalid, agent, hcallback, h⟩
  simp only [Bool.and_eq_true, decide_eq_true_eq, List.contains_eq_mem] at hvalid
  refine updateOne_rewritten h ?_
  intro e _ hp
  simp only [Bool.and_eq_true, Bool.or_eq_true, Bool.not_eq_true', beq_iff_eq, decide_eq_true_eq,
    Option.isNone_iff_eq_none, and_assoc] at hp
  rcases hp with ⟨hagent, htask, hattempt, hkind, hstate, hdisp, hexpiry, hphase, hopen⟩
  exact .cleanupStepped ⟨hvalid.2, hvalid.1.1.2, hagent ▸ hcallback, htask, hattempt, hkind, hstate,
    hdisp, hexpiry, hphase, hopen⟩

theorem completeAgentDecommissionCallback_rewritten
    (hkeys : s.Keyed) {tok taskError : String}
    (h : completeAgentDecommissionCallback pf now tid tok n taskError s = .ok s') :
    RewrittenOne (Change pf s (.completeAgentDecommissionCallback now tid tok n taskError)) s s' := by
  simp only [completeAgentDecommissionCallback, require_bind_eq_ok_iff, fetch_bind_eq_ok_iff] at h
  rcases h with ⟨-, agent, hcallback, row, hfind, hdone, h⟩
  obtain ⟨mid, hmid, h⟩ := bind_eq_ok_iff.1 h
  simp only [affectOne_bind_eq_ok_iff, pure_eq_ok_iff] at h
  rcases h with ⟨-, rfl⟩
  have hfound := List.find?_some hfind
  simp only [Bool.and_eq_true, Bool.or_eq_true, beq_iff_eq, decide_eq_true_eq,
    Option.isNone_iff_eq_none, and_assoc] at hfound
  rcases hfound with ⟨hagent, htask, hattempt, hkind, hstate, hphase, hdisp, hexpiry⟩
  refine updateOne_rewritten hmid ?_
  intro e he hp
  simp only [Bool.and_eq_true, beq_iff_eq] at hp
  obtain rfl := eq_of_find hkeys hfind he hp.1.1.1.1
  exact .cleanedUp (by simp) ⟨hagent ▸ hcallback, htask, hattempt, hkind, hstate, hphase, hdisp,
    hexpiry, by simpa using hdone⟩

theorem settleTailscaleUpdate_rewritten (hkeys : s.Keyed)
    {succeeded : Bool} {row : Execution} {o : UpdateObservation} (hrow : row ∈ s.executions)
    (hready : awaitsObservation a o.taskID row) (hexpiry : now.format < row.expiresAt)
    (h : settleTailscaleUpdate now d later a o.taskID succeeded row s = .ok s') :
    Rewritten (Change pf s (.reconcileTailscaleUpdate now d later a o)) s s' := by
  unfold settleTailscaleUpdate at h
  obtain ⟨stored, hstored, h⟩ := bind_eq_ok_iff.1 h
  simp only [affectOne_bind_eq_ok_iff, require_bind_eq_ok_iff] at h
  rcases h with ⟨-, -, h⟩
  obtain ⟨-, -, -, -, rfl⟩ := updateOne_eq_update_id hkeys row.id hstored (by
    intro e he
    simp only [Bool.and_eq_true, beq_iff_eq] at he
    exact he.1.1.1.1.1.1)
  have hids : (update (fun e => e.id == row.id) (observedExecution now succeeded)
      s.executions).map Execution.id = s.executions.map Execution.id := map_key_update fun _ => rfl
  obtain ⟨own, v, t, hown, hownID, hfinal, rfl⟩ := finalizeExecution_cases (hkeys.of_ids hids) h
  -- The finalized row is the one whose evidence has just been stored.
  obtain rfl : own = observedExecution now succeeded row := by
    rcases mem_update.1 hown with ⟨e, he, hm⟩
    by_cases hid : e.id = row.id
    · obtain rfl := eq_of_key hkeys he hrow hid
      simpa using hm
    · obtain rfl : own = e := by simpa [hid] using hm
      exact absurd hownID hid
  obtain rfl : tailscaleEvidence succeeded = v := Option.some.inj hfinal.result
  have hcompose : update (fun e => e.id == row.id)
      (finalizedExecution d later (tailscaleEvidence succeeded) t)
      (update (fun e => e.id == row.id) (observedExecution now succeeded) s.executions) =
      update (fun e => e.id == row.id) (fun e => finalizedExecution d later
        (tailscaleEvidence succeeded) t (observedExecution now succeeded e)) s.executions :=
    update_key_update_key fun _ => rfl
  simp only [hcompose]
  refine update_id_rewritten hkeys hrow ?_
  simp only [awaitsObservation, Bool.and_eq_true, beq_iff_eq, Option.isNone_iff_eq_none,
    and_assoc] at hready
  rcases hready with ⟨hagent, htask, hkind, hstate, hphase, hdisp⟩
  exact .observed ⟨hagent, htask, hkind, hstate, hphase, hdisp, hexpiry, hfinal.expiry, hfinal.task⟩

theorem reconcileTailscaleUpdate_rewritten (hkeys : s.Keyed)
    {o : UpdateObservation} (h : reconcileTailscaleUpdate now d later a o s = .ok s') :
    Rewritten (Change pf s (.reconcileTailscaleUpdate now d later a o)) s s' := by
  unfold reconcileTailscaleUpdate at h
  split at h
  · obtain rfl := Except.ok.inj h
    exact rewritten_refl _
  split at h
  · rename_i succeeded row _ hfind
    have hfound := List.find?_some hfind
    simp only [Bool.and_eq_true, decide_eq_true_eq] at hfound
    exact settleTailscaleUpdate_rewritten hkeys (List.mem_of_find?_eq_some hfind) hfound.1 hfound.2 h
  · obtain rfl := Except.ok.inj h
    exact rewritten_refl _

theorem reinstalls_of_reinstallRow {e : Execution} (h : reinstallRow now a sid id phase s e) :
    Reinstalls s now a sid id phase e := by
  simp only [reinstallRow, Bool.and_eq_true, beq_iff_eq, decide_eq_true_eq,
    Option.isNone_iff_eq_none, and_assoc] at h
  rcases h with ⟨hid, hagent, hsession, hkind, hstate, hphase, hdisp, hexpiry, hcurrent⟩
  exact ⟨hid, hagent, hsession, hkind, hstate, hphase, hdisp, hexpiry, hcurrent⟩

theorem recordOSReinstallBackup_rewritten {evidence : String}
    (h : recordOSReinstallBackup now later a sid id evidence s = .ok s') :
    RewrittenOne (Change pf s (.recordOSReinstallBackup now later a sid id evidence)) s s' := by
  simp only [recordOSReinstallBackup, require_bind_eq_ok_iff, fetch_bind_eq_ok_iff] at h
  rcases h with ⟨-, row, -, task, -, -, h⟩
  obtain ⟨mid, hmid, h⟩ := bind_eq_ok_iff.1 h
  simp only [affectOne_bind_eq_ok_iff, pure_eq_ok_iff] at h
  rcases h with ⟨-, rfl⟩
  refine updateOne_rewritten hmid ?_
  intro e _ hp
  exact .backedUp (reinstalls_of_reinstallRow ((Bool.and_eq_true _ _).mp hp).1)

theorem armOSReinstall_rewritten {evidence : String}
    (h : armOSReinstall now a sid id evidence s = .ok s') :
    RewrittenOne (Change pf s (.armOSReinstall now a sid id evidence)) s s' := by
  simp only [armOSReinstall, require_bind_eq_ok_iff, fetch_bind_eq_ok_iff] at h
  rcases h with ⟨-, row, -, task, -, -, h⟩
  obtain ⟨mid, hmid, h⟩ := bind_eq_ok_iff.1 h
  simp only [affectOne_bind_eq_ok_iff, pure_eq_ok_iff] at h
  rcases h with ⟨-, rfl⟩
  refine updateOne_rewritten hmid ?_
  intro e _ hp
  exact .armed (reinstalls_of_reinstallRow ((Bool.and_eq_true _ _).mp hp).1)

theorem completeOSReinstall_rewritten (hkeys : s.Keyed)
    {evidence : String} (h : completeOSReinstall now a c sid id tid evidence s = .ok s') :
    Rewritten (Change pf s (.completeOSReinstall now a c sid id tid evidence)) s s' := by
  simp only [completeOSReinstall, require_bind_eq_ok_iff, fetch_bind_eq_ok_iff] at h
  rcases h with ⟨hrequest, row, hfind, task, -, -, h⟩
  split at h
  · obtain rfl := pure_eq_ok_iff.1 h
    exact rewritten_refl _
  simp only [require_bind_eq_ok_iff, affectOne_bind_eq_ok_iff] at h
  rcases h with ⟨-, -, h⟩
  have hfound := List.find?_some hfind
  simp only [reconnectRow, Bool.and_eq_true, beq_iff_eq, bne_iff_ne] at hfound hrequest
  refine (updateOne_rewritten h ?_).toRewritten
  intro e he hp
  simp only [Bool.and_eq_true, Bool.or_eq_true, beq_iff_eq, bne_iff_ne, decide_eq_true_eq,
    Option.isNone_iff_eq_none, and_assoc] at hp
  rcases hp with ⟨hid, hagent, htask, -, hstate, hphase, hdisp, hidentity, -, -⟩
  obtain rfl := eq_of_find hkeys hfind he (hid.trans hfound.1.1.1.1.1.1.1.symm)
  exact .reinstalled ⟨hid, hagent, htask, hfound.1.1.1.1.2, hstate, hphase, hdisp, hidentity,
    hrequest.2, hfound.2⟩

end Helpers

/-! ## Resolutions -/

section Resolutions

variable {pf : Platform} {s s' : Store} {now : Instant} {a c sid id tid adm note : String} {n : Nat}

/-- A committed projection found a row with a retained result and rewrote that row. -/
theorem projectRetainedExecutionResult_cases (hkeys : s.Keyed)
    {res : Resolution} (h : projectRetainedExecutionResult pf now id res s = .ok s') :
    ∃ row v, row ∈ s.executions ∧ row.id = id ∧ retainedRow res id row ∧
      row.sealedResult = some v ∧ retainedResultSupportsConfirmation row.kind v ∧
      s' = { s with
        executions := update (fun e => e.id == id) (resolveRow pf res now.format) s.executions } := by
  simp only [projectRetainedExecutionResult, require_bind_eq_ok_iff, fetch_bind_eq_ok_iff] at h
  rcases h with ⟨-, row, hfind, task, -, v, hresult, hproof, h⟩
  obtain ⟨statement, -, h⟩ := bind_eq_ok_iff.1 h
  simp only [affectOne_bind_eq_ok_iff, require_bind_eq_ok_iff] at h
  rcases h with ⟨-, -, h⟩
  obtain ⟨-, -, -, -, rfl⟩ := updateOne_eq_update_id hkeys id h (by
    intro e he
    simp only [Bool.and_eq_true, beq_iff_eq] at he
    exact he.1.1)
  have hfound := List.find?_some hfind
  refine ⟨row, v, List.mem_of_find?_eq_some hfind, ?_, hfound, hresult, hproof, rfl⟩
  simp only [retainedRow, Bool.and_eq_true, beq_iff_eq] at hfound
  exact hfound.1.1.1

theorem retained_of_retainedRow {e : Execution} {v : Evidence} (h : retainedRow .automatic id e)
    (hresult : e.sealedResult = some v) (hproof : retainedResultSupportsConfirmation e.kind v) :
    Retained e v := by
  simp only [retainedRow, Resolution.accepts, Bool.and_eq_true, beq_iff_eq,
    Option.isNone_iff_eq_none] at h
  exact ⟨h.1.1.2, h.1.2, h.2.1, h.2.2, hresult, hproof⟩

theorem projectRetainedExecutionResult_rewritten (hkeys : s.Keyed)
    {res : Resolution} (h : projectRetainedExecutionResult pf now id res s = .ok s') :
    Rewritten (Change pf s (.projectRetainedExecutionResult now id res)) s s' := by
  obtain ⟨row, v, hrow, rfl, hfound, hresult, hproof, rfl⟩ :=
    projectRetainedExecutionResult_cases hkeys h
  refine update_id_rewritten hkeys hrow ?_
  cases res with
  | automatic => exact .projected rfl (retained_of_retainedRow hfound hresult hproof)
  | operator adm note =>
      simp only [retainedRow, Bool.and_eq_true, beq_iff_eq, Option.isNone_iff_eq_none] at hfound
      exact .confirmed rfl hfound.1.1.2 hfound.1.2 hfound.2

theorem confirmExecution_rewritten (hkeys : s.Keyed)
    {input : DispositionInput} (h : confirmExecution pf now id adm input s = .ok s') :
    Rewritten (Change pf s (.confirmExecution now id adm input)) s s' := by
  simp only [confirmExecution, require_bind_eq_ok_iff] at h
  obtain ⟨row, v, hrow, rfl, hfound, -, -, rfl⟩ := projectRetainedExecutionResult_cases hkeys h.2
  simp only [retainedRow, Bool.and_eq_true, beq_iff_eq, Option.isNone_iff_eq_none] at hfound
  exact update_id_rewritten hkeys hrow (.confirmedStopped rfl hfound.1.1.2 hfound.1.2 hfound.2)

theorem recoverReceivedExecutionResults_rewritten (hkeys : s.Keyed)
    {clock : String → Instant} :
    Rewritten (Change pf s (.recoverReceivedExecutionResults clock a)) s
      (recoverReceivedExecutionResults pf clock a s) := by
  have hloop : Rewritten (fun e e' => (∃ v, Retained e v) ∧
      e' = resolveRow pf .automatic (clock e.id).format e) s
      (recoverReceivedExecutionResults pf clock a s) := by
    refine foldl_invariant ?_ (rewritten_refl _)
    intro mid id _ hmid
    have hids : mid.executions.map Execution.id = s.executions.map Execution.id := by
      refine hmid.rows.map_key ?_
      rintro e e' ⟨-, rfl⟩
      rfl
    split
    · rename_i mid' hproject
      obtain ⟨row, v, hrow, rfl, hfound, hresult, hproof, rfl⟩ :=
        projectRetainedExecutionResult_cases (hkeys.of_ids hids) hproject
      have hretained := retained_of_retainedRow hfound hresult hproof
      have hstep : Rewritten (fun e e' => (∃ v, Retained e v) ∧
          e' = resolveRow pf .automatic (clock e.id).format e) mid _ :=
        update_id_rewritten (hkeys.of_ids hids) hrow ⟨⟨v, hretained⟩, rfl⟩
      refine ⟨hmid.rows.trans hstep.rows (fun _ _ h => h) (fun _ _ h => h) ?_, hmid.sessions,
        hmid.history⟩
      -- A projected row has succeeded, so no later projection of the loop finds it.
      rintro e m e' ⟨-, rfl⟩ ⟨⟨w, hw⟩, -⟩
      cases hw.state
    · exact hmid
  refine hloop.mono ?_
  rintro e e' ⟨⟨v, hretained⟩, rfl⟩
  exact .recovered hretained

theorem disposeTaskExecution_rewritten {input : DispositionInput}
    (h : disposeTaskExecution pf now id adm input s = .ok s') :
    Rewritten (Change pf s (.disposeTaskExecution now id adm input)) s s' := by
  simp only [disposeTaskExecution, require_bind_eq_ok_iff, fetch_bind_eq_ok_iff] at h
  rcases h with ⟨-, -, -, row, -, -, -, -, task, -, h⟩
  obtain ⟨statement, -, h⟩ := bind_eq_ok_iff.1 h
  obtain ⟨-, h⟩ := require_bind_eq_ok_iff.1 h
  refine (updateOne_rewritten h ?_).toRewritten
  intro e _ hp
  simp only [Bool.and_eq_true, beq_iff_eq, Option.isNone_iff_eq_none] at hp
  refine .disposed hp.1.1 hp.1.2 hp.2 ?_
  by_cases haction : input.action = .abandon
  · simp [haction]
  · simp [haction]

theorem disposeHelperExecution_rewritten (hkeys : s.Keyed)
    {input : DispositionInput} {observed : Bool}
    (h : disposeHelperExecution pf now id adm input observed s = .ok s') :
    Rewritten (Change pf s (.disposeHelperExecution now id adm input observed)) s s' := by
  simp only [disposeHelperExecution, require_bind_eq_ok_iff, fetch_bind_eq_ok_iff,
    affectOne_bind_eq_ok_iff] at h
  rcases h with ⟨-, -, row, hfind, hidentity, -, -, h⟩
  have hfound := List.find?_some hfind
  simp only [Bool.and_eq_true, Bool.or_eq_true, beq_iff_eq] at hfound
  refine (updateOne_rewritten h ?_).toRewritten
  intro e he hp
  simp only [Bool.and_eq_true, beq_iff_eq, Option.isNone_iff_eq_none] at hp
  obtain rfl := eq_of_find hkeys hfind he (hp.1.1.trans hfound.1.1.1.symm)
  refine .helperDisposed hp.1.1 hfound.1.1.2 hp.1.2 hp.2 ?_
  by_cases haction : input.action = .confirmCompleted
  · exact Or.inr ⟨by simp [haction], by simpa [haction] using hidentity⟩
  · exact Or.inl (by simp [haction])

theorem acknowledgeTailscaleUpdate_rewritten {ok : Bool}
    (h : acknowledgeTailscaleUpdate pf now a tid adm ok note s = .ok s') :
    Rewritten (Change pf s (.acknowledgeTailscaleUpdate now a tid adm ok note)) s s' := by
  simp only [acknowledgeTailscaleUpdate, require_bind_eq_ok_iff, affectOne_bind_eq_ok_iff,
    pure_eq_ok_iff] at h
  rcases h with ⟨-, -, rfl⟩
  refine update_rewritten ?_
  intro e _ hp
  simp only [Bool.and_eq_true, Bool.or_eq_true, beq_iff_eq, Option.isNone_iff_eq_none] at hp
  exact .acknowledged hp.1.1.1.1 hp.1.1.1.2 hp.1.1.2 hp.1.2 hp.2

theorem authorizeAgentUpdateRecovery_rewritten (hkeys : s.Keyed)
    {ok : Bool} (h : authorizeAgentUpdateRecovery pf now a adm tid n ok note s = .ok s') :
    Rewritten (Change pf s (.authorizeAgentUpdateRecovery now a adm tid n ok note)) s s' := by
  simp only [authorizeAgentUpdateRecovery, require_bind_eq_ok_iff, affectOne_bind_eq_ok_iff] at h
  rcases h with ⟨-, -, -, h⟩
  split at h
  · obtain rfl := pure_eq_ok_iff.1 h
    exact rewritten_refl _
  · rename_i row hfind
    obtain ⟨-, h⟩ := require_bind_eq_ok_iff.1 h
    split at h
    · obtain rfl := pure_eq_ok_iff.1 h
      exact rewritten_refl _
    · have hfound := List.find?_some hfind
      simp only [Bool.and_eq_true, beq_iff_eq] at hfound
      refine (updateOne_rewritten h ?_).toRewritten
      intro e he hp
      simp only [Bool.and_eq_true, beq_iff_eq, Option.isNone_iff_eq_none] at hp
      obtain rfl := eq_of_find hkeys hfind he hp.1.1
      exact .updateRecovered hfound.1.1.1 hfound.1.1.2 hfound.1.2 hp.2 hp.1.2

theorem settleAgentReinstallLocalWork_rewritten {ok : Bool}
    (h : settleAgentReinstallLocalWork now a adm ok s = .ok s') :
    Rewritten (Change pf s (.settleAgentReinstallLocalWork now a adm ok)) s s' := by
  simp only [settleAgentReinstallLocalWork, require_bind_eq_ok_iff] at h
  rcases h with ⟨-, h⟩
  obtain ⟨rows, hloop, h⟩ := bind_eq_ok_iff.1 h
  obtain rfl := pure_eq_ok_iff.1 h
  have hrows : Rewrites (fun e e' => e.agentID = a ∧ e.identityRetiredAt ≠ "" ∧
      e.disposition = none ∧ e.state.isFailedOrUnknown ∧
      e' = dispose .abandon "Old-machine local execution isolated by reinstall recovery" adm
        now.format e) s.executions rows := by
    refine foldlM_invariant ?_ (rewrites_refl _) hloop
    intro mid id mid' _ hmid hstep
    unfold settleStep at hstep
    split at hstep
    · rename_i rows' hupdate
      obtain rfl := Except.ok.inj hstep
      rw [(updateOne_eq_some_iff.1 hupdate).2]
      refine hmid.update_again ?_ ?_
      · intro e _ hp
        simp only [Bool.and_eq_true, beq_iff_eq, bne_iff_ne, Option.isNone_iff_eq_none] at hp
        exact ⟨hp.1.1.1.2, hp.1.1.2, hp.2, hp.1.2, rfl⟩
      · rintro e e' ⟨-, -, -, -, rfl⟩
        simp [dispose]
    · cases hstep
  refine ⟨hrows.mono ?_, rfl, rfl⟩
  rintro e e' ⟨hagent, hidentity, hdisp, hstate, rfl⟩
  exact .settled hagent hidentity hdisp hstate

theorem recoverMeridianEndpoint_rewritten {ok : Bool}
    (h : recoverMeridianEndpoint now id adm ok s = .ok s') :
    Rewritten (Change pf s (.recoverMeridianEndpoint now id adm ok)) s s' := by
  simp only [recoverMeridianEndpoint, require_bind_eq_ok_iff, fetch_bind_eq_ok_iff] at h
  rcases h with ⟨-, -, ⟨nodeID, commandID, attempt⟩, -, row, -, h⟩
  obtain ⟨mid, hmid, h⟩ := bind_eq_ok_iff.1 h
  simp only [affectOne_bind_eq_ok_iff, pure_eq_ok_iff] at h
  rcases h with ⟨-, rfl⟩
  refine (updateOne_rewritten hmid ?_).toRewritten
  intro e _ hp
  simp only [Bool.and_eq_true, Option.isNone_iff_eq_none] at hp
  exact .endpointRecovered hp.1.2 hp.2

theorem abandonLegacyReceipt_rewritten {input : DispositionInput}
    (h : abandonLegacyReceipt pf now id adm input s = .ok s') :
    Rewritten (Change pf s (.abandonLegacyReceipt now id adm input)) s s' := by
  simp only [abandonLegacyReceipt, require_bind_eq_ok_iff, fetch_bind_eq_ok_iff] at h
  rcases h with ⟨-, -, row, -, r, -, -, h⟩
  refine (updateOne_rewritten h ?_).toRewritten
  intro e _ hp
  simp only [Bool.and_eq_true, beq_iff_eq, Option.isNone_iff_eq_none] at hp
  exact .receiptAbandoned hp.1.1.1 hp.1.1.2 hp.2 hp.1.2

/-- An import archives a new receipt of an idle agent, or finds it archived already. -/
theorem importLegacyReceipt_cases {digest : String} {r : LegacyReceipt}
    (h : importLegacyReceipt pf now a c sid digest r s = .ok s') :
    s' = s ∨ ∃ e, Fresh pf s (.importLegacyReceipt now a c sid digest r) e ∧
      s' = { s with executions := s.executions ++ [e] } := by
  simp only [importLegacyReceipt, require_bind_eq_ok_iff] at h
  rcases h with ⟨-, -, hcurrent, h⟩
  split at h
  · obtain ⟨-, h⟩ := require_bind_eq_ok_iff.1 h
    exact Or.inl (pure_eq_ok_iff.1 h).symm
  · obtain ⟨hidle, h⟩ := require_bind_eq_ok_iff.1 h
    obtain ⟨hid, hunique, rfl⟩ := insertExecution_eq_ok_iff.1 h
    refine Or.inr ⟨_, .archived ((Bool.and_eq_true _ _).mp hcurrent).2 ?_ hid hunique, rfl⟩
    intro e he hagent
    simp only [Bool.not_eq_true', List.any_eq_false, Bool.and_eq_true, beq_iff_eq, not_and,
      Bool.not_eq_true] at hidle
    exact hidle e he hagent

theorem retireAgentExecutionIdentity_rewrites :
    Rewrites (Change pf s (.retireAgentExecutionIdentity now a)) s.executions
      (retireAgentExecutionIdentity now a s).executions := by
  refine update_rewrites ?_
  intro e _ hp
  simp only [Execution.isUnresolved, Bool.and_eq_true, beq_iff_eq, bne_iff_ne,
    Option.isNone_iff_eq_none] at hp
  exact .retired hp.1.1 hp.1.2.1 hp.1.2.2 hp.2

theorem pauseReinstallRelatedCommands_rewritten :
    Rewritten (Change pf s (.pauseReinstallRelatedCommands now a)) s
      (pauseReinstallRelatedCommands now a s) := by
  refine update_rewritten ?_
  intro e _ hp
  simp only [Execution.isActive, Bool.and_eq_true, beq_iff_eq, bne_iff_ne,
    Option.isNone_iff_eq_none] at hp
  exact .paused hp.1.1.1 hp.1.1.2 hp.1.2.2 hp.1.2.1

end Resolutions

/-! ## The inversion of the store -/

section Inversion

variable {pf : Platform} {op : Op} {s s' : Store}

/-- The operations that replace or end the session of an agent. -/
def Op.IsSession : Op → Prop
  | .registerExecutionSession .. | .retireAgentExecutionIdentity .. => True
  | _ => False

/-- Every committed operation beside those on sessions rewrites rows or inserts one. -/
theorem apply_cases (hkeys : s.Keyed) (hop : ¬ op.IsSession)
    (h : apply pf op s = .ok s') :
    Rewritten (Change pf s op) s s' ∨
      ∃ e, Fresh pf s op e ∧ s' = { s with executions := s.executions ++ [e] } := by
  cases op
  case registerExecutionSession => exact absurd trivial hop
  case retireAgentExecutionIdentity => exact absurd trivial hop
  case persistExecutionAuthorization => exact Or.inr (persistExecutionAuthorization_fresh h)
  case importLegacyReceipt =>
      rcases importLegacyReceipt_cases h with rfl | hfresh
      · exact Or.inl (rewritten_refl _)
      · exact Or.inr hfresh
  -- What is left rewrites rows.
  all_goals refine Or.inl ?_
  case recoverReceivedExecutionResults =>
      obtain rfl := Except.ok.inj h
      exact recoverReceivedExecutionResults_rewritten hkeys
  case recoverExpiredReceivedExecutionResults =>
      obtain rfl := Except.ok.inj h
      exact recoverExpiredReceivedExecutionResults_rewritten
  case executionClaimAllowed => exact executionClaimAllowed_rewritten hkeys h
  case startExecution => exact (startExecution_rewritten h).toRewritten
  case checkExecutionStep => exact (checkExecutionStep_rewritten h).toRewritten
  case renewExecution => exact (renewExecution_rewritten h).toRewritten
  case stopExecution => exact (stopExecution_rewritten h).toRewritten
  case storeExecutionResult => exact (storeExecutionResult_rewritten h).toRewritten
  case finalizeExecution => exact finalizeExecution_rewritten hkeys h
  case completeTask => exact completeTask_rewritten hkeys h
  case renewTaskLease => exact renewTaskLease_rewritten h
  case recoverExpiredTasks =>
      obtain rfl := Except.ok.inj h
      exact recoverExpiredTasks_rewritten
  case beginAgentUpdateExecution => exact (beginAgentUpdateExecution_rewritten h).toRewritten
  case beginAgentDecommission => exact (beginAgentDecommission_rewritten h).toRewritten
  case beginTailscaleUpdate => exact (beginTailscaleUpdate_rewritten h).toRewritten
  case checkUpdateHelperStep => exact (checkUpdateHelperStep_rewritten h).toRewritten
  case authorizeDecommissionStep => exact (authorizeDecommissionStep_rewritten h).toRewritten
  case completeAgentDecommissionCallback =>
      exact (completeAgentDecommissionCallback_rewritten hkeys h).toRewritten
  case reconcileTailscaleUpdate => exact reconcileTailscaleUpdate_rewritten hkeys h
  case recordOSReinstallBackup => exact (recordOSReinstallBackup_rewritten h).toRewritten
  case armOSReinstall => exact (armOSReinstall_rewritten h).toRewritten
  case completeOSReinstall => exact completeOSReinstall_rewritten hkeys h
  case projectRetainedExecutionResult => exact projectRetainedExecutionResult_rewritten hkeys h
  case confirmExecution => exact confirmExecution_rewritten hkeys h
  case disposeTaskExecution => exact disposeTaskExecution_rewritten h
  case disposeHelperExecution => exact disposeHelperExecution_rewritten hkeys h
  case acknowledgeTailscaleUpdate => exact acknowledgeTailscaleUpdate_rewritten h
  case authorizeAgentUpdateRecovery => exact authorizeAgentUpdateRecovery_rewritten hkeys h
  case settleAgentReinstallLocalWork => exact settleAgentReinstallLocalWork_rewritten h
  case recoverMeridianEndpoint => exact recoverMeridianEndpoint_rewritten h
  case abandonLegacyReceipt => exact abandonLegacyReceipt_rewritten h
  case disposeSupersededLandingExecutionFailures =>
      refine (disposeSuperseded_rewritten hkeys h).mono ?_
      rintro e e' ⟨st, hsupersedes, rfl⟩
      exact .superseded hsupersedes
  case pauseReinstallRelatedCommands =>
      obtain rfl := Except.ok.inj h
      exact pauseReinstallRelatedCommands_rewritten
  case business =>
      obtain rfl := Except.ok.inj h
      exact ⟨rewrites_refl _, rfl, rfl⟩

/-- A committed operation keeps every row, unchanged or by a `Change`, and adds `Fresh` rows. -/
theorem apply_evolves (hkeys : s.Keyed)
    (h : apply pf op s = .ok s') :
    Evolves (Change pf s op) (Fresh pf s op) s.executions s'.executions := by
  by_cases hop : op.IsSession
  · cases op
    case registerExecutionSession =>
        obtain ⟨-, -, ⟨-, rfl⟩ | ⟨-, -, -, hrows⟩⟩ := registerExecutionSession_cases pf h
        · exact evolves_refl _
        · exact hrows.evolves
    case retireAgentExecutionIdentity =>
        obtain rfl := Except.ok.inj h
        exact retireAgentExecutionIdentity_rewrites.evolves
    all_goals exact hop.elim
  · rcases apply_cases hkeys hop h with hrows | ⟨e, hfresh, rfl⟩
    · exact hrows.rows.evolves
    · exact evolves_append_singleton hfresh

/-- What a committed operation does to the sessions: it keeps them, replaces the one of an agent by a
session never seen before, or removes it. -/
theorem apply_sessions (hkeys : s.Keyed)
    (h : apply pf op s = .ok s') :
    s'.sessions = s.sessions ∧ s'.history = s.history ∨
      (∃ now a c sid p, op = .registerExecutionSession now a c sid p ∧ s.authenticateAgent a c ∧
        (a, sid) ∉ s.history ∧ s'.sessions = Function.update s.sessions a (some sid) ∧
        s'.history = (a, sid) :: s.history) ∨
      ∃ now a, op = .retireAgentExecutionIdentity now a ∧
        s'.sessions = Function.update s.sessions a none ∧ s'.history = s.history := by
  by_cases hop : op.IsSession
  · cases op
    case registerExecutionSession now a c sid p =>
        obtain ⟨-, hcredential, ⟨-, rfl⟩ | ⟨hunused, hsessions, hhistory, -⟩⟩ :=
          registerExecutionSession_cases pf h
        · exact Or.inl ⟨rfl, rfl⟩
        · exact Or.inr (Or.inl ⟨now, a, c, sid, p, rfl, hcredential, hunused, hsessions, hhistory⟩)
    case retireAgentExecutionIdentity now a =>
        obtain rfl := Except.ok.inj h
        exact Or.inr (Or.inr ⟨now, a, rfl, rfl, rfl⟩)
    all_goals exact hop.elim
  · rcases apply_cases hkeys hop h with hrows | ⟨e, -, rfl⟩
    · exact Or.inl ⟨hrows.sessions, hrows.history⟩
    · exact Or.inl ⟨rfl, rfl⟩

/-- The operations that consume a permission of one execution. -/
def Op.IsGrantStep : Op → Prop
  | .startExecution .. | .checkExecutionStep .. | .renewExecution .. | .stopExecution ..
  | .storeExecutionResult .. | .beginAgentUpdateExecution .. | .beginAgentDecommission ..
  | .beginTailscaleUpdate .. | .checkUpdateHelperStep .. | .authorizeDecommissionStep ..
  | .completeAgentDecommissionCallback .. | .recordOSReinstallBackup .. | .armOSReinstall .. => True
  | _ => False

/-- A consumed permission found its row and left it changed. -/
theorem apply_hit (hkeys : s.Keyed) (h : apply pf op s = .ok s')
    (hop : op.IsGrantStep) :
    ∃ e ∈ s.executions, ∃ e' ∈ s'.executions, Change pf s op e e' := by
  cases op
  case startExecution => exact (startExecution_rewritten h).hit
  case checkExecutionStep => exact (checkExecutionStep_rewritten h).hit
  case renewExecution => exact (renewExecution_rewritten h).hit
  case stopExecution => exact (stopExecution_rewritten h).hit
  case storeExecutionResult => exact (storeExecutionResult_rewritten h).hit
  case beginAgentUpdateExecution => exact (beginAgentUpdateExecution_rewritten h).hit
  case beginAgentDecommission => exact (beginAgentDecommission_rewritten h).hit
  case beginTailscaleUpdate => exact (beginTailscaleUpdate_rewritten h).hit
  case checkUpdateHelperStep => exact (checkUpdateHelperStep_rewritten h).hit
  case authorizeDecommissionStep => exact (authorizeDecommissionStep_rewritten h).hit
  case completeAgentDecommissionCallback =>
      exact (completeAgentDecommissionCallback_rewritten hkeys h).hit
  case recordOSReinstallBackup => exact (recordOSReinstallBackup_rewritten h).hit
  case armOSReinstall => exact (armOSReinstall_rewritten h).hit
  all_goals exact hop.elim

end Inversion

end Center
end Vastora
