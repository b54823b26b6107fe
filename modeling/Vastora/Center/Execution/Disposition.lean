import Vastora.Center.Execution.Invariant

/-!
# Disposition — which rows are taken out of the fence

Every statement that sets a disposition filters the states it accepts, but for one: a completed Xray
configuration recovery disposes every row of its scope that is not `succeeded`, running ones
included.  A history in which no recovery meets an active row disposes finished rows only.
-/

namespace Vastora
namespace Center

open Library Library.Pattern Library.Table

/-- Rows with a disposition have ended. -/
def OnlyEndedDisposed (s : Store) : Prop :=
  ∀ e ∈ s.executions, e.disposition ≠ none → e.state.isActive = false

/-- When the operation completes a configuration recovery, no row it disposes is active. -/
def RecoversQuietly : Op → Store → Prop
  | .completeTask _ _ a _ _ id tid n, s =>
      ∀ own ∈ s.executions, own.id = id → ∀ v, own.sealedResult = some v →
        ∀ e ∈ s.executions, Recovers s a tid n v e → e.state.isActive = false
  | _, _ => True

section Step

variable {pf : Platform} {op : Op} {s s' : Store} {e e' : Execution}

/-- A statement that disposes a row found it ended, or is a configuration recovery. -/
theorem Change.disposed_ended (h : Change pf s op e e') (hop : RecoversQuietly op s)
    (he : e ∈ s.executions) (hdisp : e'.disposition ≠ none) : e'.state.isActive = false := by
  have hbefore := h.undisposed
  cases h
  case configurationRecovered hown hfinal _ _ _ hrecovers =>
      exact hop _ hown hfinal.id _ hfinal.result e he hrecovers
  case finalized => rw [finalizedExecution_state, outcome_not_active]
  case completed => rw [finalizedExecution_state, outcome_not_active]
  case observed => rw [finalizedExecution_state, outcome_not_active]
  case claimSuperseded hlanding => simp [supersedeExecution, hlanding.state, ExecutionState.isActive]
  case superseded hlanding => simp [supersedeExecution, hlanding.state, ExecutionState.isActive]
  case acknowledged hstate =>
      simp only [acknowledgedExecution, dispose]
      split
      · rfl
      · rename_i hhelper
        refine not_isActive_of_isFailedOrUnknown (hstate.resolve_right ?_)
        simpa using hhelper
  case updateRecovered => simp [dispose, ‹e.state = .failed›, ExecutionState.isActive]
  case receiptAbandoned => simp [dispose, ‹e.state = .unknown›, ExecutionState.isActive]
  -- The other statements keep the disposition or accept failed and unknown rows only.
  all_goals first
    | exact absurd hbefore hdisp
    | exact not_isActive_of_isFailedOrUnknown ‹_›

theorem onlyEndedDisposed_of_apply (hs : WellFormed s) (hended : OnlyEndedDisposed s)
    (hop : RecoversQuietly op s) (h : apply pf op s = .ok s') : OnlyEndedDisposed s' := by
  intro e' he' hdisp
  rcases (apply_evolves hs.ids h).backward he' with hfresh | ⟨e, he, rfl | hchange⟩
  · exfalso
    cases hfresh with
    | authorized => exact hdisp rfl
    | archived => exact hdisp rfl
  · exact hended e' he hdisp
  · exact hchange.disposed_ended hop he hdisp

end Step

/-- In every history whose configuration recoveries meet no active row in their scope, every row with
a disposition has ended, in every state on the way. -/
theorem disposed_rows_ended (pf : Platform) (b : Business) (ops : List Op)
    (h : Run.Along (apply pf) RecoversQuietly ops (Store.empty b)) :
    ∀ pre, pre <+: ops → OnlyEndedDisposed (Run.run (apply pf) pre (Store.empty b)) := by
  rintro pre ⟨post, rfl⟩
  have hrun := @Run.Along.induction _ _ _ (apply pf) _ pre RecoversQuietly
    (fun s => WellFormed s ∧ OnlyEndedDisposed s) ?_ ?_ h.left
  · exact hrun.2
  · intro op s s' hs hop hstep
    exact ⟨wellFormed_of_apply hs.1 hstep, onlyEndedDisposed_of_apply hs.1 hs.2 hop hstep⟩
  · exact ⟨wellFormed_of_initial ⟨b, rfl⟩, by simp [OnlyEndedDisposed, Store.empty]⟩

/-- The installation with a command and a configuration recovery of the same application. -/
def Sample.recovering : Business :=
  { business with
    command := fun _ => some ⟨agentID, "client", "application-1", ""⟩
    xrayRecovery := fun _ =>
      some ⟨agentID, 1, false, true, some (time 1000), "application-1"⟩ }

/-- A command is started and, after some other operations, the recovery of its application. -/
def Sample.recoveryStarted (between : List Op) : List Op :=
  [.registerExecutionSession (time 0) agentID "credential" sessionID 2,
    .persistExecutionAuthorization (time 1) agentID sessionID "execution-1"
      (task "application-command-1" .applicationCommand (by decide)),
    .startExecution (time 2) agentID sessionID "execution-1" "application-command-1"] ++ between ++
  [.persistExecutionAuthorization (time 3) agentID sessionID "execution-2"
      (task "xray-recovery-1" .xrayConfigurationApply (by decide)),
    .startExecution (time 4) agentID sessionID "execution-2" "xray-recovery-1",
    .storeExecutionResult (time 5) agentID sessionID "execution-2"
      ⟨⟨"\x7b\x7d", true, 2⟩, true, false, "", none, false⟩]

def Sample.recoveryCompleted : Op :=
  .completeTask (time 6) (time 6) agentID "credential" sessionID "execution-2" "xray-recovery-1" 1

/-- The command has been given up as lost before its application is recovered. -/
def Sample.lost : List Op :=
  [.stopExecution (time 2) agentID sessionID "execution-1" true "lost"]

theorem Sample.quiet_recovery : RecoversQuietly Sample.recoveryCompleted
    (Run.run (apply Sample.platform) (Sample.recoveryStarted Sample.lost) (Store.empty Sample.recovering)) := by
  have hactive : ∀ e ∈ (Run.run (apply Sample.platform) (Sample.recoveryStarted Sample.lost)
      (Store.empty Sample.recovering)).executions, e.state.isActive = true →
      e.taskID = "xray-recovery-1" ∧ e.attempt = 1 := by decide
  intro own _ _ v _ e he hrecovers
  rw [← Bool.not_eq_true]
  intro hstate
  exact hrecovers.other e he (hactive e he hstate).1 (hactive e he hstate).2 rfl

/-- The command that was lost is disposed by the recovery, and the recovery itself succeeds. -/
theorem disposed_rows_ended_recovered :
    (Run.run (apply Sample.platform) (Sample.recoveryStarted Sample.lost ++ [Sample.recoveryCompleted])
      (Store.empty Sample.recovering)).executions.map (fun e => (e.state, e.disposition)) =
        [(.unknown, some .configurationRecovered), (.succeeded, none)] ∧
      OnlyEndedDisposed (Run.run (apply Sample.platform)
        (Sample.recoveryStarted Sample.lost ++ [Sample.recoveryCompleted]) (Store.empty Sample.recovering)) := by
  refine ⟨by decide, disposed_rows_ended Sample.platform Sample.recovering _ ?_ _ (List.prefix_refl _)⟩
  refine ⟨?_, ?_, ?_, ?_, ?_, ?_, ?_, ?_, trivial⟩
  all_goals first
    | exact fun _ _ => trivial
    | exact fun _ _ => Sample.quiet_recovery

/-- The running command is disposed by the recovery. -/
theorem running_command_disposed :
    ∃ s, Reachable Sample.platform s ∧
      ∃ e ∈ s.executions, e.state = .running ∧ e.disposition = some .configurationRecovered := by
  refine ⟨Run.run (apply Sample.platform) (Sample.recoveryStarted [] ++ [Sample.recoveryCompleted])
      (Store.empty Sample.recovering),
    ⟨_, _, ⟨_, rfl⟩, rfl⟩, ?_⟩
  have hrow : ((Run.run (apply Sample.platform) (Sample.recoveryStarted [] ++ [Sample.recoveryCompleted])
      (Store.empty Sample.recovering)).executions.any fun e =>
        e.state == .running && e.disposition == some .configurationRecovered) = true := by decide
  rcases List.any_eq_true.1 hrow with ⟨e, he, hp⟩
  simp only [Bool.and_eq_true, beq_iff_eq] at hp
  exact ⟨e, he, hp.1, hp.2⟩

end Center
end Vastora
