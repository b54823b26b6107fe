import Vastora.Center.Execution.Invariant

/-!
# OneUse — a permission of an execution is consumed once

Every permission is a compare-and-set on the state and the phase of one row.  The lemmas below say
what a row can still become once it is running, reported or in the hands of a helper; the rules of
`Library.Run` turn them into statements about the operations that succeed in a whole history:

* an offer is started once;
* a reported execution grants nothing any more;
* the phases of an update helper are granted in order, after the handoff;
* the steps of a cleanup are numbered 1, 2, 3, …, end with `done`, and only then the cleanup may
  report success.
-/

namespace Vastora
namespace Center

open Library Library.Pattern Library.Table

/-! ## The text of a cleanup phase -/

theorem cleanupPhase_toList (k : Nat) (phase : String) :
    (cleanupPhase k phase).toList =
      "cleanup:".toList ++ ((Nat.repr k).toList ++ ':' :: phase.toList) := by
  simp [cleanupPhase, toString]

theorem literal_cleanup (k : Nat) :
    ∀ c ∈ "cleanup:".toList ++ ((Nat.repr k).toList ++ [':']), Literal c ∧ c.toLower = c := by
  intro c hc
  rcases List.mem_append.1 hc with hc | hc
  · have hall : ("cleanup:".toList.all fun c => c != '%' && c != '_' && c.toLower == c) = true := by
      decide
    have hc := List.all_eq_true.1 hall c hc
    simpa [Literal] using hc
  rcases List.mem_append.1 hc with hc | hc
  · have hdigit := isDigit_of_mem_repr hc
    exact ⟨literal_of_isDigit hdigit, toLower_of_isDigit hdigit⟩
  · obtain rfl := List.mem_singleton.1 hc
    exact ⟨⟨by decide, by decide⟩, by decide⟩

theorem lower_cleanup (k : Nat) :
    ("cleanup:".toList ++ ((Nat.repr k).toList ++ [':'])).map Char.toLower =
      "cleanup:".toList ++ ((Nat.repr k).toList ++ [':']) := by
  refine (List.map_congr_left ?_).trans (List.map_id _)
  exact fun c hc => (literal_cleanup k c hc).2

/-- A phase the guard of step `k + 1` accepts starts with `cleanup:k:`. -/
theorem prefix_of_like_cleanupPhase {phase : String} {k : Nat}
    (h : like phase (cleanupPhase k "%")) :
    "cleanup:".toList ++ ((Nat.repr k).toList ++ [':']) <+: phase.toList.map Char.toLower := by
  have hpattern : (cleanupPhase k "%").toList =
      ("cleanup:".toList ++ ((Nat.repr k).toList ++ [':'])) ++ ['%'] := by
    simp [cleanupPhase_toList]
  rw [like, hpattern] at h
  have hprefix := prefix_of_likeChars (fun c hc => (literal_cleanup k c hc).1) h
  rwa [lower_cleanup] at hprefix

theorem not_like_cleanupPhase {phase : String} (k : Nat)
    (h : ("cleanup:".toList.isPrefixOf (phase.toList.map Char.toLower)) = false) :
    like phase (cleanupPhase k "%") = false := by
  by_contra hlike
  have hprefix := prefix_of_like_cleanupPhase (Bool.eq_true_of_not_eq_false hlike)
  have hstart : "cleanup:".toList <+: phase.toList.map Char.toLower :=
    (List.prefix_append _ _).trans hprefix
  rw [← List.isPrefixOf_iff_prefix, h] at hstart
  cases hstart

/-- The guard of step `k + 1` accepts the phases of step `k` only. -/
theorem eq_of_like_cleanupPhase {j k : Nat} {phase : String}
    (h : like (cleanupPhase j phase) (cleanupPhase k "%")) : k = j := by
  have hprefix := prefix_of_like_cleanupPhase h
  -- The text before the separator is its own lower-case form, so the counters can be compared.
  have htext : (cleanupPhase j phase).toList.map Char.toLower =
      "cleanup:".toList ++ ((Nat.repr j).toList ++ ':' :: phase.toList.map Char.toLower) := by
    have hsplit : (cleanupPhase j phase).toList =
        ("cleanup:".toList ++ ((Nat.repr j).toList ++ [':'])) ++ phase.toList := by
      simp [cleanupPhase_toList]
    rw [hsplit, List.map_append, lower_cleanup]
    simp
  rw [htext, List.prefix_append_right_inj] at hprefix
  exact repr_prefix_injective (by decide) hprefix

theorem like_done (k : Nat) : like (cleanupPhase k "done") "cleanup:%:done" := by
  have hlit : ∀ c ∈ "cleanup:".toList, Literal c := by
    intro c hc
    exact (literal_cleanup k c (List.mem_append_left _ hc)).1
  have hsuf : ∀ c ∈ ":done".toList, Literal c := by
    intro c hc
    have hall : (":done".toList.all fun c => c != '%' && c != '_') = true := by decide
    simpa [Literal] using List.all_eq_true.1 hall c hc
  have hlike := likeChars_prefix_suffix "cleanup:".toList (Nat.repr k).toList ":done".toList hlit hsuf
  rw [like, cleanupPhase_toList]
  exact hlike

theorem phase_of_hasSuffix_done {k : Nat} {phase : String} (hphase : phase ∈ decommissionPhases)
    (h : hasSuffix (cleanupPhase k phase) ":done") : phase = "done" := by
  have hsuffix : ":done".toList <:+ (cleanupPhase k phase).toList := by
    simpa [hasSuffix, List.isSuffixOf_iff_suffix] using h
  have htail : ':' :: phase.toList <:+ (cleanupPhase k phase).toList := by
    rw [cleanupPhase_toList, ← List.append_assoc]
    exact List.suffix_append _ _
  have hlong : ":done".toList.length ≤ (':' :: phase.toList).length := by
    have hall : (decommissionPhases.all fun p => decide (5 ≤ (':' :: p.toList).length)) = true := by
      decide
    simpa using List.all_eq_true.1 hall phase hphase
  have hend := List.suffix_of_suffix_length_le hsuffix htail hlong
  rw [← List.isSuffixOf_iff_suffix] at hend
  have hall : (decommissionPhases.all fun p =>
      !(":done".toList.isSuffixOf (':' :: p.toList)) || p == "done") = true := by decide
  have hone := List.all_eq_true.1 hall phase hphase
  simpa only [hend, Bool.not_true, Bool.false_or, beq_iff_eq] using hone

/-! ## What a statement leaves of a row -/

theorem previousHelperPhase_ne_received {phase previous : String}
    (h : previousHelperPhase phase = some previous) : previous ≠ "result_received" := by
  rintro rfl
  unfold previousHelperPhase at h
  split at h <;> simp at h

/-- Some row of the store satisfies `P`. -/
def HasRow (P : Execution → Prop) (s : Store) : Prop := ∃ e ∈ s.executions, P e

section Rows

variable {pf : Platform} {op : Op} {s s' : Store} {e e' : Execution} {P : Execution → Prop}

theorem HasRow.keep (hs : WellFormed s) (h : apply pf op s = .ok s') (hrow : HasRow P s)
    (hP : ∀ e e', Change pf s op e e' → P e → P e') : HasRow P s' := by
  rcases hrow with ⟨e, he, hpe⟩
  rcases (apply_evolves hs.ids h).forward he with ⟨e', he', rfl | hchange⟩
  · exact ⟨e', he', hpe⟩
  · exact ⟨e', he', hP e e' hchange hpe⟩

theorem WellFormed.eq_of_id (hs : WellFormed s) (he : e ∈ s.executions) (he' : e' ∈ s.executions)
    (h : e.id = e'.id) : e = e' :=
  eq_of_key hs.ids he he' h

theorem WellFormed.eq_of_attempt (hs : WellFormed s) (he : e ∈ s.executions)
    (he' : e' ∈ s.executions) (htask : e.taskID = e'.taskID) (hattempt : e.attempt = e'.attempt) :
    e = e' :=
  eq_of_key hs.attempts he he' (by rw [htask, hattempt])

/-- The operations that move an active row on. -/
def Op.IsMove : Op → Prop
  | .startExecution .. | .checkExecutionStep .. | .storeExecutionResult ..
  | .beginAgentUpdateExecution .. | .beginAgentDecommission .. | .beginTailscaleUpdate ..
  | .checkUpdateHelperStep .. | .authorizeDecommissionStep .. | .recordOSReinstallBackup ..
  | .armOSReinstall .. => True
  | _ => False

/-- Every other operation ends the row or keeps its state and phase. -/
theorem Change.move_cases (h : Change pf s op e e') :
    e'.state.stage = 3 ∨ e'.state = e.state ∧ e'.phase = e.phase ∨ op.IsMove := by
  cases h
  case finalized => exact Or.inl (by rw [finalizedExecution_state, stage_outcome])
  case completed => exact Or.inl (by rw [finalizedExecution_state, stage_outcome])
  case observed => exact Or.inl (by rw [finalizedExecution_state, stage_outcome])
  case stopped =>
      refine Or.inl ?_
      simp only [stoppedExecution]
      split <;> rfl
  case cleanedUp =>
      refine Or.inl ?_
      simp only [cleanedUpExecution]
      split <;> rfl
  case acknowledged =>
      simp only [acknowledgedExecution, dispose]
      split
      · exact Or.inl rfl
      · exact Or.inr (Or.inl ⟨rfl, trivial⟩)
  case retired =>
      simp only [retireExecution]
      split
      · exact Or.inl rfl
      · exact Or.inr (Or.inl ⟨rfl, trivial⟩)
  all_goals first
    | exact Or.inr (Or.inr trivial)
    | exact Or.inl rfl
    | exact Or.inr (Or.inl ⟨rfl, rfl⟩)

/-- A statement on a row that awaits its finalization ends the row or leaves it as it is. -/
theorem Change.received (h : Change pf s op e e')
    (hstate : e.state = .running ∨ e.state = .helperRunning) (hphase : e.phase = "result_received") :
    e'.state.stage = 3 ∨ e'.state = e.state ∧ e'.phase = "result_received" := by
  rcases h.move_cases with hend | ⟨hkeep, hkeep'⟩ | hmove
  · exact Or.inl hend
  · exact Or.inr ⟨hkeep, hkeep'.trans hphase⟩
  -- Every move asks for another state or phase.
  exfalso
  cases h
  case started => rcases hstate with hstate | hstate <;> simp [‹e.state = .offered›] at hstate
  case stepped hrow => exact hrow.phase hphase
  case reported hrow => exact hrow.phase hphase
  case updateHandedOff hrow => simp [hrow.phase] at hphase
  case decommissionHandedOff hrow => simp [hrow.phase] at hphase
  case tailscaleHandedOff hrow => simp [hrow.phase] at hphase
  case backedUp hrow => simp [hrow.phase] at hphase
  case armed hrow => simp [hrow.phase] at hphase
  case helperStepped hrow => exact previousHelperPhase_ne_received hrow.phase hphase
  case cleanupStepped hrow =>
      rcases hrow.phase with hfrom | hfrom
      · rw [hphase] at hfrom
        split at hfrom <;> simp at hfrom
      · rw [hphase, not_like_cleanupPhase _ (by decide)] at hfrom
        cases hfrom
  all_goals exact hmove

/-- The handoffs of an execution to its helper. -/
def Op.HandsOver (e : Execution) : Op → Prop
  | .beginAgentUpdateExecution _ _ _ _ _ id _ => id = e.id ∧ e.kind = .agentUpdate
  | .beginAgentDecommission _ _ _ _ _ _ id _ => id = e.id ∧ e.kind = .agentDecommission
  | .beginTailscaleUpdate _ _ _ _ id _ _ => id = e.id ∧ e.kind = .tailscaleUpdate
  | .armOSReinstall _ _ _ id _ => id = e.id ∧ e.kind = .nodeOSReinstall
  | _ => False

/-- A row in the hands of a helper was there before, or its own session has just handed it over. -/
theorem Change.helperRunning (h : Change pf s op e e') (hstate : e'.state = .helperRunning) :
    e.state = .helperRunning ∨
      e.state = .running ∧ s.hasSession e.agentID e.sessionID ∧ op.HandsOver e := by
  rcases h.move_cases with hend | ⟨hkeep, -⟩ | hmove
  · rw [hstate] at hend
    cases hend
  · exact Or.inl (hkeep ▸ hstate)
  cases h
  case updateHandedOff hrow =>
      refine Or.inr ⟨hrow.state, ?_, hrow.id.symm, hrow.kind⟩
      rw [hrow.agent, hrow.session]
      exact hrow.current
  case decommissionHandedOff hrow =>
      refine Or.inr ⟨hrow.state, ?_, hrow.id.symm, hrow.kind⟩
      rw [hrow.agent, hrow.session]
      exact hrow.current
  case tailscaleHandedOff hrow =>
      refine Or.inr ⟨hrow.state, ?_, hrow.id.symm, hrow.kind⟩
      rw [hrow.agent, hrow.session]
      exact hrow.current
  case armed hrow =>
      refine Or.inr ⟨hrow.state, ?_, hrow.id.symm, hrow.kind⟩
      rw [hrow.agent, hrow.session]
      exact hrow.current
  case started => cases hstate
  all_goals first
    | exact Or.inl hstate
    | exact hmove.elim

theorem Fresh.not_helperRunning (h : Fresh pf s op e) : e.state ≠ .helperRunning := by
  cases h with
  | authorized => simp [authorizedExecution]
  | archived =>
      simp only [archivedExecution]
      split <;> simp

end Rows

/-! ## Offers and reports -/

section Grants

variable {pf : Platform} {id : String} {s : Store} {ops : List Op}

/-- A success of `StartExecution` for the execution. -/
def Op.starts (id : String) : Op → Bool
  | .startExecution _ _ _ id' _ => id' == id
  | _ => false

theorem starts_at_most_once (hs : WellFormed s) :
    (Run.successes (apply pf) ops s).countP (Op.starts id) ≤ 1 := by
  -- The permission is spent once the row has left `offered`.
  refine @Run.countP_successes_le_one _ _ _ (apply pf) s ops WellFormed
    (HasRow fun e => e.id = id ∧ 1 ≤ e.state.stage) (Op.starts id) (fun _ _ _ => wellFormed_of_apply)
    ?_ ?_ ?_ hs
  · intro op s s' hs hstart h
    cases op <;> simp only [Op.starts, Bool.false_eq_true, beq_iff_eq] at hstart
    subst hstart
    rcases apply_hit hs.ids h trivial with ⟨e, -, e', he', hchange⟩
    refine ⟨e', he', ?_⟩
    cases hchange with
    | started hid => exact ⟨hid, Nat.le_refl 1⟩
  · intro op s s' hs hrow h
    refine hrow.keep hs h ?_
    intro e e' hchange he
    exact ⟨hchange.sameGrant.id.trans he.1, he.2.trans hchange.stage_le⟩
  · intro op s s' hs hrow h hstart
    cases op <;> simp only [Op.starts, Bool.false_eq_true, beq_iff_eq] at hstart
    subst hstart
    rcases hrow with ⟨r, hr, hrid, hstage⟩
    rcases apply_hit hs.ids h trivial with ⟨e, he, e', -, hchange⟩
    cases hchange with
    | started hid _ _ _ hstate =>
        obtain rfl := hs.eq_of_id hr he (hrid.trans hid.symm)
        simp [hstate, ExecutionState.stage] at hstage

/-- The operations a reported execution must refuse. -/
def Op.Spends (id : String) : Op → Prop
  | .checkExecutionStep _ _ _ id' _ | .renewExecution _ _ _ id' | .stopExecution _ _ _ id' _ _
  | .storeExecutionResult _ _ _ id' _ | .checkUpdateHelperStep _ _ _ id' _
  | .beginAgentUpdateExecution _ _ _ _ _ id' _ | .beginAgentDecommission _ _ _ _ _ _ id' _
  | .beginTailscaleUpdate _ _ _ _ id' _ _ | .recordOSReinstallBackup _ _ _ _ id' _
  | .armOSReinstall _ _ _ id' _ => id' = id
  | _ => False

/-- A row that has reported: it awaits its finalization or has ended. -/
def Reported (id : String) (e : Execution) : Prop :=
  e.id = id ∧ (e.state.stage = 3 ∨
    (e.state = .running ∨ e.state = .helperRunning) ∧ e.phase = "result_received")

theorem Change.keeps_reported {op : Op} {e e' : Execution} (h : Change pf s op e e')
    (he : Reported id e) : Reported id e' := by
  refine ⟨h.sameGrant.id.trans he.1, ?_⟩
  rcases he.2 with hend | ⟨hstate, hphase⟩
  · have hle := h.stage_le
    have hlast : e'.state.stage ≤ 3 := by cases e'.state <;> decide
    exact Or.inl (by omega)
  · rcases h.received hstate hphase with hend | ⟨hkeep, hphase'⟩
    · exact Or.inl hend
    · exact Or.inr ⟨by rwa [hkeep], hphase'⟩

/-- The row a spending operation finds has not reported. -/
theorem Change.not_reported {op : Op} {e e' : Execution} (h : Change pf s op e e')
    (hop : op.Spends id) : e.id = id ∧ ¬ Reported id e := by
  -- A guard on an active state and on another phase excludes both ways to have reported.
  have hopen : ∀ {e : Execution}, e.state.isActive → e.phase ≠ "result_received" →
      ¬ Reported id e := by
    rintro e hactive hphase ⟨-, hend | ⟨-, hreceived⟩⟩
    · rw [← stage_lt_three_iff, hend] at hactive
      exact absurd hactive (by decide)
    · exact hphase hreceived
  cases h
  case stepped hrow =>
      refine ⟨hrow.id.trans hop, hopen ?_ hrow.phase⟩
      simp [‹e.state = .running›, ExecutionState.isActive]
  case renewed hrow =>
      refine ⟨hrow.id.trans hop, hopen ?_ hrow.phase⟩
      simp [‹e.state = .running›, ExecutionState.isActive]
  case stopped hstate hrow =>
      refine ⟨hrow.id.trans hop, hopen ?_ hrow.phase⟩
      cases hrunning : e.state <;> simp_all [ExecutionState.isActive, ExecutionState.isOfferedOrRunning]
  case reported hstate _ _ hrow =>
      refine ⟨hrow.id.trans hop, hopen ?_ hrow.phase⟩
      rcases hstate with ⟨hstate, -⟩ | ⟨hstate, -⟩ <;> simp [hstate, ExecutionState.isActive]
  case helperStepped hrow =>
      refine ⟨hrow.id.trans hop, hopen (by simp [hrow.state, ExecutionState.isActive]) ?_⟩
      exact previousHelperPhase_ne_received hrow.phase
  case updateHandedOff hrow =>
      exact ⟨hrow.id.trans hop, hopen (by simp [hrow.state, ExecutionState.isActive])
        (by simp [hrow.phase])⟩
  case decommissionHandedOff hrow =>
      exact ⟨hrow.id.trans hop, hopen (by simp [hrow.state, ExecutionState.isActive])
        (by simp [hrow.phase])⟩
  case tailscaleHandedOff hrow =>
      exact ⟨hrow.id.trans hop, hopen (by simp [hrow.state, ExecutionState.isActive])
        (by simp [hrow.phase])⟩
  case backedUp hrow =>
      exact ⟨hrow.id.trans hop, hopen (by simp [hrow.state, ExecutionState.isActive])
        (by simp [hrow.phase])⟩
  case armed hrow =>
      exact ⟨hrow.id.trans hop, hopen (by simp [hrow.state, ExecutionState.isActive])
        (by simp [hrow.phase])⟩
  all_goals exact hop.elim

theorem spends_nothing_after_report {pre post : List Op} {now : Instant} {a sid : String} {r : Report}
    (hs : WellFormed s)
    (hsplit : Run.successes (apply pf) ops s = pre ++ .storeExecutionResult now a sid id r :: post) :
    ∀ op ∈ post, ¬ op.Spends id := by
  refine @Run.not_hit_after _ _ _ (apply pf) _ s ops WellFormed (HasRow (Reported id))
    (fun op => ∃ now a sid r, op = .storeExecutionResult now a sid id r) (Op.Spends id)
    (fun _ _ _ => wellFormed_of_apply) ?_ ?_ ?_ hs pre post hsplit ⟨now, a, sid, r, rfl⟩
  · rintro op s s' hs ⟨now, a, sid, r, rfl⟩ h
    rcases apply_hit hs.ids h trivial with ⟨e, -, e', he', hchange⟩
    refine ⟨e', he', ?_⟩
    cases hchange with
    | reported hstate _ _ hrow =>
        refine ⟨hrow.id, Or.inr ⟨?_, rfl⟩⟩
        exact hstate.imp And.left And.left
  · intro op s s' hs hrow h
    exact hrow.keep hs h fun e e' hchange he => hchange.keeps_reported he
  · intro op s s' hs hrow h hop
    rcases hrow with ⟨r, hr, hreported⟩
    have hstep : op.IsGrantStep := by cases op <;> trivial
    rcases apply_hit hs.ids h hstep with ⟨e, he, e', -, hchange⟩
    rcases hchange.not_reported hop with ⟨hid, hnot⟩
    obtain rfl := hs.eq_of_id hr he (hreported.1.trans hid.symm)
    exact hnot hreported

end Grants

/-! ## Phases of an update helper -/

section Helper

variable {pf : Platform} {id : String} {s s' : Store} {op : Op} {e e' : Execution} {ops : List Op}

/-- The handoff and the phases after it, in the order of the protocol. -/
def updatePhases : List String := ["helper", "stop", "backup", "preserve", "install", "start"]

/-- The phase an operation grants to the update helper of the execution. -/
def Op.updatePhase? (id : String) : Op → Option String
  | .beginAgentUpdateExecution _ _ _ _ _ id' _ => if id' = id then some "helper" else none
  | .checkUpdateHelperStep _ _ _ id' phase => if id' = id then some phase else none
  | _ => none

theorem updatePhases_succ {phase : String} {n : Nat} (hn : n < 6)
    (h : previousHelperPhase phase = some (updatePhases.getD n "")) :
    n + 1 < 6 ∧ phase = updatePhases.getD (n + 1) "" := by
  unfold previousHelperPhase at h
  split at h
  case h_6 => cases h
  all_goals
    have hphase := Option.some.inj h
    interval_cases n
    all_goals first
      | exact ⟨by decide, rfl⟩
      | exact absurd hphase (by decide)

/-- An update row in the hands of its helper, in the phase with number `n`, or after that. -/
def InUpdatePhase (id : String) (n : Nat) (e : Execution) : Prop :=
  e.id = id ∧ e.kind = .agentUpdate ∧ (e.state.stage = 3 ∨ e.state = .helperRunning ∧
    (e.phase = updatePhases.getD n "" ∨ e.phase = "result_received"))

/-- The next phase to grant is the one with number `n`. -/
def NextUpdatePhase (id : String) : Nat → Store → Prop
  | 0, s => WellFormed s ∧
      ∀ e ∈ s.executions, e.id = id → e.kind = .agentUpdate → e.state ≠ .helperRunning
  | n + 1, s => WellFormed s ∧ n < 6 ∧ HasRow (InUpdatePhase id n) s

/-- An operation that grants no phase leaves the helper in its phase, reported or ended. -/
theorem Change.inUpdatePhase {n : Nat} (h : Change pf s op e e') (hop : op.updatePhase? id = none)
    (he : InUpdatePhase id n e) : InUpdatePhase id n e' := by
  rcases he with ⟨hid, hkind, hrest⟩
  have hsame := h.sameGrant
  refine ⟨hsame.id.trans hid, hsame.kind.trans hkind, ?_⟩
  rcases hrest with hend | ⟨hstate, hphase⟩
  · have hle := h.stage_le
    have hlast : e'.state.stage ≤ 3 := by cases e'.state <;> decide
    exact Or.inl (by omega)
  rcases h.move_cases with hend | ⟨hkeep, hkeep'⟩ | hmove
  · exact Or.inl hend
  · exact Or.inr ⟨hkeep.trans hstate, by rwa [hkeep']⟩
  cases h
  case reported => exact Or.inr ⟨hstate, Or.inr rfl⟩
  case helperStepped hrow => simp [Op.updatePhase?, hrow.id.symm.trans hid] at hop
  case started => simp [hstate] at *
  case stepped => simp [hstate] at *
  case updateHandedOff hrow => simp [hrow.state] at hstate
  case decommissionHandedOff hrow => simp [hrow.state] at hstate
  case tailscaleHandedOff hrow => simp [hrow.state] at hstate
  case cleanupStepped hrow => simp [hrow.kind] at hkind
  case backedUp hrow => simp [hrow.state] at hstate
  case armed hrow => simp [hrow.state] at hstate
  all_goals exact hmove.elim

/-- An operation that grants a phase changes the row of the execution. -/
theorem updatePhase_hit {phase : String} (hs : WellFormed s) (h : apply pf op s = .ok s')
    (hop : op.updatePhase? id = some phase) :
    ∃ e ∈ s.executions, ∃ e' ∈ s'.executions, e.id = id ∧ e.kind = .agentUpdate ∧
      SameGrant e e' ∧ e'.state = .helperRunning ∧ e'.phase = phase ∧
      (phase = "helper" ∧ e.state = .running ∨
        previousHelperPhase phase = some e.phase ∧ e.state = .helperRunning) := by
  cases op <;> simp only [Op.updatePhase?, reduceCtorEq] at hop
  case beginAgentUpdateExecution =>
      split at hop <;> cases hop
      rename_i hid
      rcases apply_hit hs.ids h trivial with ⟨e, he, e', he', hchange⟩
      have hsame := hchange.sameGrant
      cases hchange with
      | updateHandedOff hrow =>
          exact ⟨e, he, _, he', hrow.id.trans hid, hrow.kind, hsame, rfl, rfl,
            Or.inl ⟨rfl, hrow.state⟩⟩
  case checkUpdateHelperStep =>
      split at hop <;> cases hop
      rename_i hid
      rcases apply_hit hs.ids h trivial with ⟨e, he, e', he', hchange⟩
      have hsame := hchange.sameGrant
      cases hchange with
      | helperStepped hrow =>
          exact ⟨e, he, _, he', hrow.id.trans hid, hrow.kind, hsame, hrow.state, rfl,
            Or.inr ⟨hrow.phase, hrow.state⟩⟩

theorem nextUpdatePhase_of_apply {n : Nat} (hs : NextUpdatePhase id n s)
    (h : apply pf op s = .ok s') :
    (∀ phase, op.updatePhase? id = some phase →
        phase = updatePhases.getD n "" ∧ NextUpdatePhase id (n + 1) s') ∧
      (op.updatePhase? id = none → NextUpdatePhase id n s') := by
  cases n with
  | zero =>
      rcases hs with ⟨hs, hnone⟩
      constructor
      · intro phase hop
        rcases updatePhase_hit hs h hop with
          ⟨e, he, e', he', hid, hkind, hsame, hstate, hphase, ⟨rfl, -⟩ | ⟨-, hhelper⟩⟩
        · refine ⟨rfl, wellFormed_of_apply hs h, by decide, e', he', hsame.id.trans hid,
            hsame.kind.trans hkind, Or.inr ⟨hstate, Or.inl hphase⟩⟩
        · exact absurd hhelper (hnone e he hid hkind)
      · intro hop
        refine ⟨wellFormed_of_apply hs h, ?_⟩
        intro e' he' hid hkind hstate
        rcases (apply_evolves hs.ids h).backward he' with hfresh | ⟨e, he, rfl | hchange⟩
        · exact hfresh.not_helperRunning hstate
        · exact hnone e' he hid hkind hstate
        · have hsame := hchange.sameGrant
          rcases hchange.helperRunning hstate with hhelper | ⟨-, -, hhands⟩
          · exact hnone e he (hsame.id ▸ hid) (hsame.kind ▸ hkind) hhelper
          · -- Only the handoff of an update makes an update row helper-run.
            rw [hsame.id] at hid
            rw [hsame.kind] at hkind
            cases op <;> simp_all [Op.HandsOver, Op.updatePhase?]
  | succ n =>
      rcases hs with ⟨hs, hn, r, hr, hrid, hrkind, hrest⟩
      constructor
      · intro phase hop
        rcases updatePhase_hit hs h hop with
          ⟨e, he, e', he', hid, hkind, hsame, hstate, hphase, hfrom⟩
        obtain rfl := hs.eq_of_id he hr (hid.trans hrid.symm)
        rcases hfrom with ⟨-, hrunning⟩ | ⟨hprevious, hhelper⟩
        · rcases hrest with hend | ⟨hhelper, -⟩
          · simp [hrunning, ExecutionState.stage] at hend
          · simp [hrunning] at hhelper
        · rcases hrest with hend | ⟨-, hat | hreceived⟩
          · simp [hhelper, ExecutionState.stage] at hend
          · rw [hat] at hprevious
            rcases updatePhases_succ hn hprevious with ⟨hnext, rfl⟩
            exact ⟨rfl, wellFormed_of_apply hs h, hnext, e', he', hsame.id.trans hid,
              hsame.kind.trans hkind, Or.inr ⟨hstate, Or.inl hphase⟩⟩
          · exact absurd hreceived (previousHelperPhase_ne_received hprevious)
      · intro hop
        refine ⟨wellFormed_of_apply hs h, hn, ?_⟩
        have hrow : HasRow (InUpdatePhase id n) s := ⟨r, hr, hrid, hrkind, hrest⟩
        exact hrow.keep hs h fun e e' hchange he => hchange.inUpdatePhase hop he

/-- The phases granted to an update helper are a start of the protocol. -/
theorem updatePhases_granted (b : Business) :
    (Run.successes (apply pf) ops (Store.empty b)).filterMap (Op.updatePhase? id) <+: updatePhases := by
  have hstart : NextUpdatePhase id 0 (Store.empty b) :=
    ⟨wellFormed_of_initial ⟨b, rfl⟩, by simp [Store.empty]⟩
  obtain ⟨m, hm, hend⟩ := @Run.labels_eq_range' _ _ _ (apply pf) _ ops _ (Op.updatePhase? id)
    (fun n => updatePhases.getD n "") (NextUpdatePhase id)
    (fun n o s s' hs h => nextUpdatePhase_of_apply hs h) 0 hstart
  have hbound : m ≤ 6 := by
    cases m with
    | zero => decide
    | succ m =>
        rw [Nat.zero_add] at hend
        exact hend.2.1
  rw [hm]
  interval_cases m <;> decide

end Helper

/-! ## Steps of a cleanup -/

section Cleanup

variable {pf : Platform} {tid : String} {n k : Nat} {s s' : Store} {op : Op} {e e' : Execution}
  {ops : List Op}

/-- The number of the cleanup step an operation grants to the attempt. -/
def Op.cleanupStep? (tid : String) (n : Nat) : Op → Option Nat
  | .authorizeDecommissionStep _ tid' _ n' k _ => if tid' = tid ∧ n' = n then some k else none
  | _ => none

/-- The grant of the last step of the attempt. -/
def Op.IsDone (tid : String) (n : Nat) (op : Op) : Prop :=
  ∃ now tok k, op = .authorizeDecommissionStep now tid tok n k "done"

/-- The row of the attempt is in the hands of its cleanup helper and satisfies `P`, or has ended. -/
def InCleanup (tid : String) (n : Nat) (P : String → Prop) (e : Execution) : Prop :=
  e.taskID = tid ∧ e.attempt = n ∧ e.kind = .agentDecommission ∧
    (e.state.stage = 3 ∨ e.state = .helperRunning ∧ P e.phase)

/-- Where the phase of a running cleanup helper comes from. -/
theorem Change.cleanup_phase (h : Change pf s op e e') (hkind : e.kind = .agentDecommission)
    (hstate : e'.state = .helperRunning) :
    e.state = .helperRunning ∧ e'.phase = e.phase ∨ e.state = .running ∧ e'.phase = "cleanup" ∨
      ∃ now tok k phase, op = .authorizeDecommissionStep now e.taskID tok e.attempt k phase ∧
        CleanupSteps s now e.taskID tok e.attempt k phase e ∧ e'.phase = cleanupPhase k phase := by
  rcases h.move_cases with hend | ⟨hkeep, hkeep'⟩ | hmove
  · rw [hstate] at hend
    cases hend
  · exact Or.inl ⟨hkeep ▸ hstate, hkeep'⟩
  cases h
  case cleanupStepped hrow =>
      obtain rfl := hrow.task
      obtain rfl := hrow.attempt
      exact Or.inr (Or.inr ⟨_, _, _, _, rfl, hrow, rfl⟩)
  case decommissionHandedOff hrow => exact Or.inr (Or.inl ⟨hrow.state, rfl⟩)
  case reported hreport _ _ _ =>
      rcases hreport with ⟨hrunning, -⟩ | ⟨-, hupdate⟩
      · cases hrunning.symm.trans hstate
      · simp [hupdate] at hkind
  case started => cases hstate
  case stepped hrow => cases (‹e.state = .running›).symm.trans hstate
  case updateHandedOff hrow => simp [hrow.kind] at hkind
  case tailscaleHandedOff hrow => simp [hrow.kind] at hkind
  case helperStepped hrow => simp [hrow.kind] at hkind
  case backedUp hrow => simp [hrow.kind] at hkind
  case armed hrow => simp [hrow.kind] at hkind
  all_goals exact hmove.elim

/-- A running cleanup helper keeps its phase until a step is authorized. -/
theorem Change.inCleanup {P : String → Prop} (h : Change pf s op e e')
    (hop : op.cleanupStep? tid n = none ∨ ∀ phase, P phase → like phase "cleanup:%:done")
    (he : InCleanup tid n P e) : InCleanup tid n P e' := by
  rcases he with ⟨rfl, rfl, hkind, hrest⟩
  have hsame := h.sameGrant
  refine ⟨hsame.taskID, hsame.attempt, hsame.kind.trans hkind, ?_⟩
  by_cases hend : e'.state.stage = 3
  · exact Or.inl hend
  have hle := h.stage_le
  have hstate : e.state = .helperRunning ∧ P e.phase := by
    refine hrest.resolve_left ?_
    intro hlast
    cases hst : e'.state <;> simp_all [ExecutionState.stage]
  have hstate' : e'.state = .helperRunning := by
    cases hst : e'.state <;> simp_all [ExecutionState.stage]
  rcases h.cleanup_phase hkind hstate' with
    ⟨-, hkeep⟩ | ⟨hrunning, -⟩ | ⟨now, tok, k, phase, rfl, hrow, -⟩
  · exact Or.inr ⟨hstate', by rw [hkeep]; exact hstate.2⟩
  · cases hrunning.symm.trans hstate.1
  · rcases hop with hop | hdone
    · simp [Op.cleanupStep?] at hop
    · have hlike := hdone e.phase hstate.2
      rw [hrow.unfinished] at hlike
      cases hlike

/-- A granted step changes the row of the attempt. -/
theorem cleanupStep_hit (hs : WellFormed s) (h : apply pf op s = .ok s')
    (hop : op.cleanupStep? tid n = some k) :
    ∃ now tok phase, op = .authorizeDecommissionStep now tid tok n k phase ∧
      ∃ e ∈ s.executions, ∃ e' ∈ s'.executions, CleanupSteps s now tid tok n k phase e ∧
        e' = advancedExecution now (cleanupPhase k phase) e := by
  cases op <;> simp only [Op.cleanupStep?, reduceCtorEq] at hop
  case authorizeDecommissionStep now tid' tok n' k' phase =>
      split at hop <;> cases hop
      rename_i hkey
      obtain ⟨rfl, rfl⟩ := hkey
      rcases apply_hit hs.ids h trivial with ⟨e, he, e', he', hchange⟩
      cases hchange with
      | cleanupStepped hrow => exact ⟨now, tok, phase, rfl, e, he, _, he', hrow, rfl⟩

/-- The next step to grant to the attempt has the number `k + 1`. -/
def NextCleanupStep (tid : String) (n : Nat) : Nat → Store → Prop
  | 0, s => WellFormed s ∧ ∀ e ∈ s.executions, e.taskID = tid → e.attempt = n →
      e.kind = .agentDecommission → e.state = .helperRunning → e.phase = "cleanup"
  | k + 1, s => WellFormed s ∧
      HasRow (InCleanup tid n fun phase => ∃ p, phase = cleanupPhase (k + 1) p) s

/-- The guard of a step with number `k` in a phase that no step has changed yet. -/
theorem eq_one_of_cleanup {phase : String} {now : Instant} {tok : String}
    (h : CleanupSteps s now tid tok n k phase e) (hphase : e.phase = "cleanup") : k = 1 := by
  rcases h.phase with hfrom | hfrom
  · by_contra hk
    rw [hphase, if_neg hk] at hfrom
    simp at hfrom
  · rw [hphase, not_like_cleanupPhase _ (by decide)] at hfrom
    cases hfrom

/-- The guard of a step with number `k` in the phase of step `j`. -/
theorem eq_succ_of_cleanupPhase {j : Nat} {p phase : String} {now : Instant} {tok : String}
    (h : CleanupSteps s now tid tok n k phase e) (hphase : e.phase = cleanupPhase j p) :
    k = j + 1 := by
  rcases h.phase with hfrom | hfrom
  · have htext := congrArg (fun t => "cleanup:".toList.isPrefixOf t.toList) (hphase.symm.trans hfrom)
    simp only [cleanupPhase_toList] at htext
    rw [List.isPrefixOf_iff_prefix.2 (List.prefix_append _ _)] at htext
    split at htext <;> exact absurd htext (by decide)
  · rw [hphase] at hfrom
    have hcounter := eq_of_like_cleanupPhase hfrom
    have hpos := h.sequence
    omega

theorem nextCleanupStep_of_apply (hs : NextCleanupStep tid n k s) (h : apply pf op s = .ok s') :
    (∀ j, op.cleanupStep? tid n = some j → j = k + 1 ∧ NextCleanupStep tid n (k + 1) s') ∧
      (op.cleanupStep? tid n = none → NextCleanupStep tid n k s') := by
  have hstepped : ∀ {j : Nat} {now : Instant} {tok phase : String} {e : Execution}, WellFormed s →
      CleanupSteps s now tid tok n j phase e → j = k + 1 →
      advancedExecution now (cleanupPhase j phase) e ∈ s'.executions →
      NextCleanupStep tid n (k + 1) s' := by
    rintro j now tok phase e hs hrow rfl he'
    exact ⟨wellFormed_of_apply hs h, _, he', hrow.task, hrow.attempt, hrow.kind,
      Or.inr ⟨hrow.state, phase, rfl⟩⟩
  cases k with
  | zero =>
      rcases hs with ⟨hs, hfirst⟩
      constructor
      · intro j hop
        rcases cleanupStep_hit hs h hop with ⟨now, tok, phase, rfl, e, he, _, he', hrow, rfl⟩
        have hone := eq_one_of_cleanup hrow
          (hfirst e he hrow.task hrow.attempt hrow.kind hrow.state)
        exact ⟨hone, hstepped hs hrow hone he'⟩
      · intro hop
        refine ⟨wellFormed_of_apply hs h, ?_⟩
        intro e' he' htask hattempt hkind hstate
        rcases (apply_evolves hs.ids h).backward he' with hfresh | ⟨e, he, rfl | hchange⟩
        · exact absurd hstate hfresh.not_helperRunning
        · exact hfirst e' he htask hattempt hkind hstate
        · have hsame := hchange.sameGrant
          rw [hsame.taskID] at htask
          rw [hsame.attempt] at hattempt
          rw [hsame.kind] at hkind
          rcases hchange.cleanup_phase hkind hstate with
            ⟨hhelper, hkeep⟩ | ⟨-, hcleanup⟩ | ⟨now, tok, j, phase, rfl, -, -⟩
          · rw [hkeep]
            exact hfirst e he htask hattempt hkind hhelper
          · exact hcleanup
          · simp [Op.cleanupStep?, htask, hattempt] at hop
  | succ k =>
      rcases hs with ⟨hs, r, hr, hrtask, hrattempt, hrkind, hrest⟩
      constructor
      · intro j hop
        rcases cleanupStep_hit hs h hop with ⟨now, tok, phase, rfl, e, he, _, he', hrow, rfl⟩
        obtain rfl := hs.eq_of_attempt he hr (hrow.task.trans hrtask.symm)
          (hrow.attempt.trans hrattempt.symm)
        rcases hrest with hend | ⟨-, p, hphase⟩
        · simp [hrow.state, ExecutionState.stage] at hend
        · have hnext := eq_succ_of_cleanupPhase hrow hphase
          exact ⟨hnext, hstepped hs hrow hnext he'⟩
      · intro hop
        refine ⟨wellFormed_of_apply hs h, ?_⟩
        refine HasRow.keep hs h ⟨r, hr, hrtask, hrattempt, hrkind, hrest⟩ ?_
        intro e e' hchange he
        exact hchange.inCleanup (Or.inl hop) he

/-- The steps granted to an attempt are numbered from 1 on, each once. -/
theorem cleanupSteps_granted (b : Business) :
    ∃ m, (Run.successes (apply pf) ops (Store.empty b)).filterMap (Op.cleanupStep? tid n) =
      List.range' 1 m := by
  have hstart : NextCleanupStep tid n 0 (Store.empty b) :=
    ⟨wellFormed_of_initial ⟨b, rfl⟩, by simp [Store.empty]⟩
  obtain ⟨m, hm, -⟩ := @Run.labels_eq_range' _ _ _ (apply pf) _ ops _ (Op.cleanupStep? tid n)
    (fun k => k + 1) (NextCleanupStep tid n)
    (fun k o s s' hs h => nextCleanupStep_of_apply hs h) 0 hstart
  refine ⟨m, hm.trans ?_⟩
  have hshift : (List.range' 0 m).map (1 + ·) = List.range' (1 + 0) m := List.map_add_range' 0 m 1
  simpa [Nat.add_comm] using hshift

theorem no_step_after_done {pre post : List Op} (hs : WellFormed s) (hdone : op.IsDone tid n)
    (hsplit : Run.successes (apply pf) ops s = pre ++ op :: post) :
    ∀ o ∈ post, o.cleanupStep? tid n = none := by
  have hlater : ∀ o ∈ post, ¬ (fun o : Op => o.cleanupStep? tid n ≠ none) o := by
    refine @Run.not_hit_after _ _ _ (apply pf) op s ops WellFormed
      (HasRow (InCleanup tid n fun phase => like phase "cleanup:%:done")) (Op.IsDone tid n)
      (fun o => o.cleanupStep? tid n ≠ none) (fun _ _ _ => wellFormed_of_apply) ?_ ?_ ?_ hs pre post
      hsplit hdone
    · rintro op s s' hs ⟨now, tok, k, rfl⟩ h
      rcases apply_hit hs.ids h trivial with ⟨e, -, e', he', hchange⟩
      refine ⟨e', he', ?_⟩
      cases hchange with
      | cleanupStepped hrow =>
          exact ⟨hrow.task, hrow.attempt, hrow.kind, Or.inr ⟨hrow.state, like_done k⟩⟩
    · intro op s s' hs hrow h
      exact hrow.keep hs h fun e e' hchange he => hchange.inCleanup (Or.inr fun _ hp => hp) he
    · intro op s s' hs hrow h hstep
      obtain ⟨k, hk⟩ := Option.ne_none_iff_exists'.1 hstep
      rcases hrow with ⟨r, hr, hrtask, hrattempt, -, hrest⟩
      rcases cleanupStep_hit hs h hk with ⟨now, tok, phase, rfl, e, he, _, -, hguard, rfl⟩
      obtain rfl := hs.eq_of_attempt he hr (hguard.task.trans hrtask.symm)
        (hguard.attempt.trans hrattempt.symm)
      rcases hrest with hend | ⟨-, hlike⟩
      · simp [hguard.state, ExecutionState.stage] at hend
      · rw [hguard.unfinished] at hlike
        cases hlike
  intro o ho
  by_contra hstep
  exact hlater o ho hstep

/-- A cleanup reports success only after its last step was granted. -/
theorem done_before_callback (b : Business) {now : Instant} {tok : String}
    (h : apply pf (.completeAgentDecommissionCallback now tid tok n "")
      (Run.run (apply pf) ops (Store.empty b)) = .ok s') :
    ∃ o ∈ Run.successes (apply pf) ops (Store.empty b), o.IsDone (trimSpace tid) n := by
  have hstart : WellFormed (Store.empty b) := wellFormed_of_initial ⟨b, rfl⟩
  have hrun : WellFormed (Run.run (apply pf) ops (Store.empty b)) :=
    Run.run_induction (fun _ _ _ => wellFormed_of_apply) hstart
  refine @Run.exists_trigger _ _ _ (apply pf) _ ops WellFormed (Op.IsDone (trimSpace tid) n)
    (HasRow fun e => e.taskID = trimSpace tid ∧ e.attempt = n ∧ e.kind = .agentDecommission ∧
      e.state = .helperRunning ∧ hasSuffix e.phase ":done")
    (fun _ _ _ => wellFormed_of_apply) ?_ hstart (by simp [HasRow, Store.empty]) ?_
  · -- Only a step with the phase `done` leaves a phase with that suffix behind.
    rintro op s s' hs hnone h ⟨e', he', htask, hattempt, hkind, hstate, hsuffix⟩
    rcases (apply_evolves hs.ids h).backward he' with hfresh | ⟨e, he, rfl | hchange⟩
    · exact absurd hstate hfresh.not_helperRunning
    · exact absurd ⟨e', he, htask, hattempt, hkind, hstate, hsuffix⟩ hnone
    · have hsame := hchange.sameGrant
      rw [hsame.taskID] at htask
      rw [hsame.attempt] at hattempt
      rw [hsame.kind] at hkind
      rcases hchange.cleanup_phase hkind hstate with
        ⟨hhelper, hkeep⟩ | ⟨-, hcleanup⟩ | ⟨now, tok, k, phase, rfl, hrow, hphase⟩
      · rw [hkeep] at hsuffix
        exact absurd ⟨e, he, htask, hattempt, hkind, hhelper, hsuffix⟩ hnone
      · rw [hcleanup] at hsuffix
        exact absurd hsuffix (by decide)
      · rw [hphase] at hsuffix
        obtain rfl := phase_of_hasSuffix_done hrow.valid hsuffix
        exact ⟨now, tok, k, by rw [htask, hattempt]⟩
  · rcases apply_hit hrun.ids h trivial with ⟨e, he, e', -, hchange⟩
    cases hchange with
    | cleanedUp hmessage hrow =>
        have hdone := hrow.done.resolve_left (by simp [hmessage])
        exact ⟨e, he, hrow.task, hrow.attempt, hrow.kind, hrow.state, hdone⟩

end Cleanup

/-- In every history, every permission of an execution is granted once and in order. -/
theorem one_use_authority (pf : Platform) (b : Business) (ops : List Op) :
    (∀ id, (Run.successes (apply pf) ops (Store.empty b)).countP (Op.starts id) ≤ 1) ∧
      (∀ id pre now a sid r post, Run.successes (apply pf) ops (Store.empty b) =
          pre ++ .storeExecutionResult now a sid id r :: post → ∀ o ∈ post, ¬ o.Spends id) ∧
      (∀ id, (Run.successes (apply pf) ops (Store.empty b)).filterMap (Op.updatePhase? id) <+:
          updatePhases) ∧
      (∀ tid n, ∃ m, (Run.successes (apply pf) ops (Store.empty b)).filterMap
          (Op.cleanupStep? tid n) = List.range' 1 m) ∧
      (∀ tid n pre o post, Run.successes (apply pf) ops (Store.empty b) = pre ++ o :: post →
          o.IsDone tid n → ∀ o' ∈ post, o'.cleanupStep? tid n = none) ∧
      (∀ now tid tok n s', apply pf (.completeAgentDecommissionCallback now tid tok n "")
          (Run.run (apply pf) ops (Store.empty b)) = .ok s' →
          ∃ o ∈ Run.successes (apply pf) ops (Store.empty b), o.IsDone (trimSpace tid) n) := by
  have hs : WellFormed (Store.empty b) := wellFormed_of_initial ⟨b, rfl⟩
  refine ⟨?_, ?_, ?_, ?_, ?_, ?_⟩
  · exact fun id => starts_at_most_once hs
  · exact fun id pre now a sid r post hsplit => spends_nothing_after_report hs hsplit
  · exact fun id => updatePhases_granted b
  · exact fun tid n => cleanupSteps_granted b
  · exact fun tid n pre o post hsplit hdone => no_step_after_done hs hdone hsplit
  · exact fun now tid tok n s' h => done_before_callback b h

/-- An update that is handed over and runs through all its phases, with a repeated request. -/
def Sample.updateRun : List Op :=
  [.registerExecutionSession (time 0) agentID "credential" sessionID 2,
    .persistExecutionAuthorization (time 1) agentID sessionID "execution-1"
      (task "agent-update-1" .agentUpdate (by decide)),
    .startExecution (time 2) agentID sessionID "execution-1" "agent-update-1",
    .checkExecutionStep (time 3) agentID sessionID "execution-1" "handoff",
    .beginAgentUpdateExecution (time 4) agentID "credential" "agent-update-1" 1 "execution-1"
      sessionID] ++
    ["stop", "backup", "backup", "preserve", "install", "start"].map
      (.checkUpdateHelperStep (time 5) agentID sessionID "execution-1")

example : (Run.successes (apply Sample.platform) Sample.updateRun
    (Store.empty Sample.business)).filterMap (Op.updatePhase? "execution-1") = updatePhases := by
  decide

end Center
end Vastora
