import Vastora.Center.DesiredTable
import Vastora.Library.Run

/-!
# DesiredRun — histories of a desired state

A `Journal` is a row with the tasks that its claims have handed out and those whose success was projected.
`step` is one transaction on the row: it is queued, claimed, completed under any revision and attempt, or
touched by a lease, a restart, an operator or a retained result; an operator and a retained result name an
execution, which keeps the task it was made for.  `Effect` says what a committed transaction does; each is at
most one step of the row's desk (`Effect.desk_step`), so that what holds of desks holds of the three tables.
-/

namespace Vastora
namespace Center
namespace Desired

open Library Library.Guard Library.Fencing

inductive Op (ι κ ρ : Type) where
  | queue (input : ι)
  | claim (env : κ) (now : Instant)
  /-- A result, of whatever revision and attempt. -/
  | complete (revision attempt : Int) (succeeded : Bool) (report : ρ)
  /-- The retained result of an execution is confirmed. -/
  | confirm (execution : Nat) (report : ρ)
  | release (execution : Nat)
  | renew (now : Instant) (revision attempt : Int)
  | interrupt (now : Instant)
  | expire (now : Instant)
  | abandon (execution : Nat)
  | requeue (execution : Nat)

structure Journal (α : Type) where
  row : Option (Row α)
  /-- The tasks of the executions, the newest first. -/
  issued : List (Task α)
  confirmed : List (Task α)

def Journal.empty {α : Type} : Journal α := ⟨none, [], []⟩

def taskChanged : String := "center: task changed; verify its current state"

section Steps

variable {α ι κ ρ : Type} [Inhabited α] (T : Table α ι κ ρ)

/-- The journal after a projection of `row`. -/
def Journal.project (j : Journal α) (row : Row α) (revision attempt : Int) (succeeded : Bool)
    (row' : Row α) : Journal α :=
  { j with
    row := some row'
    confirmed := if succeeded then ⟨revision, attempt, row.desired⟩ :: j.confirmed else j.confirmed }

/-- A statement on the row that has to affect it. -/
def Journal.write (j : Journal α) (statement : Row α → Option (Row α)) (err : String) :
    Except String (Journal α) := do
  let row ← fetch j.row err
  let next ← fetch (statement row) err
  return { j with row := some next }

def completeTask (revision attempt : Int) (succeeded : Bool) (report : ρ) (j : Journal α) :
    Except String (Journal α) := do
  let row ← fetch j.row (T.missing report)
  match ← T.project report revision attempt succeeded row with
  | none => return j
  | some row' => return j.project row revision attempt succeeded row'

/-- `confirmRetainedExecution`: the row is reopened and its result projected in one transaction, which has
to reach its commit. -/
def confirmExecution (execution : Nat) (report : ρ) (j : Journal α) : Except String (Journal α) := do
  let task ← fetch j.issued[execution]? errExecutionAuthorization
  require (decide (0 < task.revision)) errExecutionAuthorization
  let row ← fetch j.row "center: application task changed; verify its current state"
  let reopened ← fetch (row.reactivate task.revision task.attempt)
    "center: application task changed; verify its current state"
  let projected ← T.project report task.revision task.attempt true reopened
  let row' ← fetch projected errExecutionAuthorization
  return j.project row task.revision task.attempt true row'

def claimTask (env : κ) (now : Instant) (j : Journal α) : Except String (Journal α) :=
  match j.row with
  | none => return j
  | some row => do
      match ← T.claim env now row with
      | none => return j
      | some (task, row') => return { j with row := some row', issued := task :: j.issued }

def step : Op ι κ ρ → Journal α → Except String (Journal α)
  | .queue input, j => do
      let row ← T.queue input j.row
      return { j with row := row }
  | .claim env now, j => claimTask T env now j
  | .complete revision attempt succeeded report, j => completeTask T revision attempt succeeded report j
  | .confirm execution report, j => confirmExecution T execution report j
  | .release execution, j => do
      let task ← fetch j.issued[execution]? errExecutionAuthorization
      j.write (Row.release task.revision task.attempt)
        "center: claimed task changed before its lease could be released"
  | .renew now revision attempt, j => j.write (Row.renew now revision attempt) errStaleTaskLease
  | .interrupt now, j => return { j with row := j.row.map (Row.interrupt now) }
  | .expire now, j => return { j with row := j.row.map (Row.expire now) }
  | .abandon execution, j => do
      let task ← fetch j.issued[execution]? errExecutionAuthorization
      j.write (Row.abandon task.revision task.attempt) taskChanged
  | .requeue execution, j => do
      let task ← fetch j.issued[execution]? errExecutionAuthorization
      j.write (Row.requeue task.revision task.attempt) taskChanged

/-- The journal after a list of attempted transactions. -/
def history (ops : List (Op ι κ ρ)) : Journal α := Run.run (step T) ops Journal.empty

end Steps

/-! ## What a transaction does -/

section Effects

variable {α ι κ ρ : Type} [Inhabited α] {T : Table α ι κ ρ} {op : Op ι κ ρ} {j j' : Journal α} {row row' : Row α}
  {issued confirmed : List (Task α)} {revision attempt : Int} {now : Instant}

/-- A row that is not there yet is a desk that nothing was asked of. -/
def desk (issued confirmed : List (Task α)) : Option (Row α) → Desk (Document α)
  | none => { Desk.opened (Document.zero α) with issued := issued, confirmed := confirmed }
  | some row => ⟨row.desiredRevision, row.appliedRevision, row.attempt, row.status.phase, row.desired, issued,
      confirmed⟩

def Journal.desk (j : Journal α) : Desk (Document α) := Desired.desk j.issued j.confirmed j.row

/-- A result for the revision and the attempt of the row, reported while it is applied or retained. -/
def Op.Reports (j : Journal α) (row : Row α) (succeeded : Bool) : Op ι κ ρ → Prop
  | .complete revision attempt reported _ => reported = succeeded ∧ Accepted revision attempt row
  | .confirm execution _ => succeeded = true ∧ ∃ task, j.issued[execution]? = some task ∧
      row.carries task.revision task.attempt = true ∧ (row.status = .applying ∨ row.status = .failed)
  | _ => False

/-- What a committed transaction does to the journal. -/
inductive Effect (j : Journal α) (op : Op ι κ ρ) (j' : Journal α) : Prop where
  /-- The desk makes at most one step, which applies nothing, and a row stays. -/
  | moved (hdesk : j'.desk = j.desk ∨ Step j.desk j'.desk) (happlied : j'.desk.applied = j.desk.applied)
      (hstays : j.row.isSome = true → j'.row.isSome = true)
  | settled {row row' : Row α} {succeeded : Bool} (hrow : j.row = some row) (hop : op.Reports j row succeeded)
      (h : Settled succeeded row row') (hj' : j' = j.project row row.desiredRevision row.attempt succeeded row')

theorem Effect.refl : Effect j op j := .moved (.inl rfl) rfl id

/-- The row in another phase, with the rest of its desk unchanged. -/
def Parks (p : Phase) (row row' : Row α) : Prop :=
  ∀ issued confirmed, desk issued confirmed (some row') = { desk issued confirmed (some row) with phase := p }

theorem effect_of_parks {p : Phase} (hrow : j.row = some row) (hopen : row.status.phase ≠ .settled)
    (hp : p = .waiting ∨ p = .halted) (h : Parks p row row') : Effect j op { j with row := some row' } := by
  refine .moved (.inr ?_) ?_ fun _ => rfl
  · rw [Journal.desk, Journal.desk, hrow, h]
    exact .park _ _ hopen hp
  · rw [Journal.desk, Journal.desk, hrow, h]

theorem effect_of_renewed (hrow : j.row = some row) (h : Parks row.status.phase row row') :
    Effect j op { j with row := some row' } := by
  have hdesk : Journal.desk { j with row := some row' } = j.desk := by
    rw [Journal.desk, Journal.desk, hrow, h]
    rfl
  exact .moved (.inl hdesk) (congrArg Desk.applied hdesk) fun _ => rfl

theorem parks_release (h : row.release revision attempt = some row') :
    row.status.phase ≠ .settled ∧ Parks .waiting row row' := by
  unfold Row.release at h
  split at h
  · next hheld =>
      obtain rfl := Option.some.inj h
      exact ⟨by simp [hheld.2, Status.phase], fun _ _ => rfl⟩
  · cases h

theorem parks_renew (h : row.renew now revision attempt = some row') : Parks row.status.phase row row' := by
  unfold Row.renew at h
  split at h
  · obtain rfl := Option.some.inj h
    exact fun _ _ => rfl
  · cases h

theorem parks_dispose {status : Status} (h : row.dispose status revision attempt = some row') :
    row.status.phase ≠ .settled ∧ Parks status.phase row row' := by
  unfold Row.dispose at h
  split at h
  · next hopen =>
      obtain rfl := Option.some.inj h
      refine ⟨?_, fun _ _ => rfl⟩
      rcases hopen.2 with hstatus | hstatus | hstatus <;> simp [hstatus, Status.phase]
  · cases h

theorem effect_of_write {statement : Row α → Option (Row α)} {err : String} {p : Phase}
    (hp : p = .waiting ∨ p = .halted)
    (hstatement : ∀ {row row'}, statement row = some row' → row.status.phase ≠ .settled ∧ Parks p row row')
    (h : j.write statement err = .ok j') : Effect j op j' := by
  obtain ⟨row, hrow, h⟩ := fetch_bind_eq_ok_iff.1 h
  obtain ⟨row', hrow', h⟩ := fetch_bind_eq_ok_iff.1 h
  rw [← pure_eq_ok_iff.1 h]
  exact effect_of_parks hrow (hstatement hrow').1 hp (hstatement hrow').2

theorem effect_of_queued {found' : Option (Row α)} (h : Queued j.row found') :
    Effect j op { j with row := found' } := by
  obtain ⟨found, issued, confirmed⟩ := j
  cases h with
  | same => exact .refl
  | created => exact .moved (.inl rfl) rfl fun _ => rfl
  | @next _ row' h =>
      have hdesk : desk issued confirmed (some row') =
          { desk issued confirmed found with
            desired := (desk issued confirmed found).desired + 1
            attempt := row'.attempt
            phase := .waiting
            document := row'.desired } := by
        cases found <;> simp [desk, Desk.opened, h.desiredRevision, h.appliedRevision, h.status, current, Status.phase]
      refine .moved (.inr ?_) ?_ fun _ => rfl
      · change Step (desk issued confirmed found) (desk issued confirmed (some row'))
        rw [hdesk]
        refine .publish _ _ _ ?_
        cases found <;> exact h.attempt
      · have happlied := congrArg Desk.applied hdesk
        exact happlied

theorem effect_of_claim {env : κ} (h : claimTask T env now j = .ok j') : Effect j op j' := by
  unfold claimTask at h
  split at h
  · rw [← pure_eq_ok_iff.1 h]
    exact .refl
  · next row hrow =>
      obtain ⟨claimed, hclaimed, h⟩ := bind_eq_ok_iff.1 h
      split at h
      · rw [← pure_eq_ok_iff.1 h]
        exact .refl
      · have hgranted := T.claim_ok hclaimed
        obtain ⟨lease, rfl⟩ := hgranted.row_eq
        rw [← pure_eq_ok_iff.1 h, hgranted.task_eq]
        refine .moved (.inr ?_) ?_ fun _ => rfl
        · rw [Journal.desk, Journal.desk, hrow]
          exact .grant _ (by simp [desk, hgranted.pending, Status.phase])
        · rw [Journal.desk, Journal.desk, hrow]
          rfl

theorem effect_of_complete {report : ρ} {succeeded : Bool}
    (h : completeTask T revision attempt succeeded report j = .ok j') :
    Effect j (.complete revision attempt succeeded report : Op ι κ ρ) j' := by
  obtain ⟨row, hrow, h⟩ := fetch_bind_eq_ok_iff.1 h
  obtain ⟨projected, hprojected, h⟩ := bind_eq_ok_iff.1 h
  split at h
  · rw [← pure_eq_ok_iff.1 h]
    exact .refl
  · obtain ⟨haccepted, hsettled⟩ := T.project_ok hprojected
    refine .settled hrow ⟨rfl, haccepted⟩ hsettled ?_
    rw [← pure_eq_ok_iff.1 h, haccepted.revision_eq, haccepted.attempt_eq]

/-- A retained result is projected onto the row as it was before it was reopened. -/
theorem effect_of_confirm {execution : Nat} {report : ρ} (h : confirmExecution T execution report j = .ok j') :
    Effect j (.confirm execution report : Op ι κ ρ) j' := by
  obtain ⟨task, htask, h⟩ := fetch_bind_eq_ok_iff.1 h
  obtain ⟨-, h⟩ := require_bind_eq_ok_iff.1 h
  obtain ⟨row, hrow, h⟩ := fetch_bind_eq_ok_iff.1 h
  obtain ⟨reopened, hreopened, h⟩ := fetch_bind_eq_ok_iff.1 h
  obtain ⟨projected, hprojected, h⟩ := bind_eq_ok_iff.1 h
  obtain ⟨row', hrow', hcommit⟩ := fetch_bind_eq_ok_iff.1 h
  rw [hrow'] at hprojected
  unfold Row.reactivate at hreopened
  split at hreopened
  · next hopen =>
      obtain rfl := Option.some.inj hreopened
      have hnext := (T.project_ok hprojected).2
      have hsettled : Settled true row row' :=
        ⟨hnext.desiredRevision, hnext.attempt, hnext.desired, hnext.succeeds, hnext.fails⟩
      obtain ⟨hrevision, hattempt⟩ := Row.carries_iff.1 hopen.1
      refine .settled hrow ⟨rfl, task, htask, hopen.1, hopen.2⟩ hsettled ?_
      rw [← pure_eq_ok_iff.1 hcommit, hrevision, hattempt]
  · cases hreopened

theorem effect_of_step (h : step T op j = .ok j') : Effect j op j' := by
  cases op with
  | queue input =>
      obtain ⟨found, hfound, h⟩ := bind_eq_ok_iff.1 h
      rw [← pure_eq_ok_iff.1 h]
      exact effect_of_queued (T.queue_ok hfound)
  | claim env now => exact effect_of_claim h
  | complete revision attempt succeeded report => exact effect_of_complete h
  | confirm execution report => exact effect_of_confirm h
  | release execution =>
      obtain ⟨task, -, h⟩ := fetch_bind_eq_ok_iff.1 h
      exact effect_of_write (.inl rfl) parks_release h
  | renew now revision attempt =>
      obtain ⟨row, hrow, h⟩ := fetch_bind_eq_ok_iff.1 h
      obtain ⟨row', hrow', h⟩ := fetch_bind_eq_ok_iff.1 h
      rw [← pure_eq_ok_iff.1 h]
      exact effect_of_renewed hrow (parks_renew hrow')
  | interrupt now =>
      rw [← pure_eq_ok_iff.1 h]
      obtain ⟨_ | row, issued, confirmed⟩ := j
      · exact .refl
      · refine effect_of_renewed rfl ?_
        unfold Row.interrupt
        split <;> exact fun _ _ => rfl
  | expire now =>
      rw [← pure_eq_ok_iff.1 h]
      obtain ⟨_ | row, issued, confirmed⟩ := j
      · exact .refl
      · rw [Option.map_some, Row.expire]
        split
        · next hexpired =>
            exact effect_of_parks rfl (by simp [hexpired.1, Status.phase]) (.inr rfl) fun _ _ => rfl
        · exact .refl
  | abandon execution =>
      obtain ⟨task, -, h⟩ := fetch_bind_eq_ok_iff.1 h
      exact effect_of_write (.inr rfl) parks_dispose h
  | requeue execution =>
      obtain ⟨task, -, h⟩ := fetch_bind_eq_ok_iff.1 h
      exact effect_of_write (.inl rfl) parks_dispose h

end Effects

/-! ## Every transaction is a step of the desk -/

section Refinement

variable {α ι κ ρ : Type} [Inhabited α] {T : Table α ι κ ρ} {op : Op ι κ ρ} {j j' : Journal α} {row row' : Row α}

/-- A success is confirmed while the row is held, or under the ticket of an execution that had it. -/
theorem Op.Reports.confirms {confirmed : List (Task α)} (hj : (desk j.issued confirmed (some row)).Sound)
    (h : op.Reports j row true) :
    (desk j.issued confirmed (some row)).phase = .held ∨ (desk j.issued confirmed (some row)).phase = .halted ∧
      (desk j.issued confirmed (some row)).ticket ∈ j.issued := by
  cases op with
  | complete revision attempt succeeded report => exact .inl (by simp [desk, h.2.applying, Status.phase])
  | confirm execution report =>
      obtain ⟨-, task, htask, hcarries, happlying | hfailed⟩ := h
      · exact .inl (by simp [desk, happlying, Status.phase])
      · refine .inr ⟨by simp [desk, hfailed, Status.phase], ?_⟩
        obtain ⟨hrevision, hattempt⟩ := Row.carries_iff.1 hcarries
        have hmem : task ∈ j.issued := List.mem_of_getElem? htask
        -- The task of the current revision has the document of the row.
        rcases hj.issued_le task hmem with hlt | ⟨-, -, hdocument⟩
        · exact absurd hrevision.symm hlt.ne
        · have hticket : (desk j.issued confirmed (some row)).ticket = task := by
            change (⟨row.desiredRevision, row.attempt, row.desired⟩ : Task α) = task
            rw [hrevision, hattempt, ← show task.document = row.desired from hdocument]
          rwa [hticket]
  | _ => exact absurd h id

omit [Inhabited α] in
theorem Op.Reports.open (h : op.Reports j row false) : row.status.phase ≠ .settled := by
  cases op with
  | complete revision attempt succeeded report => simp [h.2.applying, Status.phase]
  | confirm execution report => cases h.1
  | _ => exact absurd h id

theorem Effect.desk_step (hj : j.desk.Sound) (h : Effect j op j') : j'.desk = j.desk ∨ Step j.desk j'.desk := by
  cases h with
  | moved hdesk => exact hdesk
  | @settled row row' succeeded hrow hop h hj' =>
      have hdesk : j.desk = desk j.issued j.confirmed (some row) := by rw [Journal.desk, hrow]
      rw [hdesk] at hj ⊢
      rw [hj']
      refine .inr ?_
      cases succeeded with
      | true =>
          obtain ⟨happlied, hstatus⟩ := h.succeeds rfl
          refine Eq.mp ?_ (Step.confirm _ (hop.confirms hj))
          simp [Journal.desk, Journal.project, desk, Desk.ticket, h.desiredRevision, h.attempt, h.desired, happlied,
            hstatus, Status.phase]
      | false =>
          obtain ⟨happlied, hstatus⟩ := h.fails rfl
          refine Eq.mp ?_ (Step.park (desk j.issued j.confirmed (some row)) .halted hop.open (.inr rfl))
          simp [Journal.desk, Journal.project, desk, h.desiredRevision, h.attempt, h.desired, happlied, hstatus,
            Status.phase]

theorem Effect.sound (h : Effect j op j') (hj : j.desk.Sound) : j'.desk.Sound := by
  rcases h.desk_step hj with hsame | hstep
  · rwa [hsame]
  · exact hj.step hstep

theorem sound_empty : (Journal.empty : Journal α).desk.Sound := Desk.sound_opened (Document.zero α)

theorem sound_history (ops : List (Op ι κ ρ)) : (history T ops).desk.Sound :=
  @Run.run_induction _ _ _ (step T) _ ops (fun j => j.desk.Sound) (fun _ _ _ hj h => (effect_of_step h).sound hj)
    sound_empty

theorem sound_row {ops : List (Op ι κ ρ)} (hrow : (history T ops).row = some row) :
    (desk (history T ops).issued (history T ops).confirmed (some row)).Sound :=
  hrow ▸ sound_history (T := T) ops

/-- Rows stay, and what a desk has does not go back. -/
theorem grows_run (hj : j.desk.Sound) (ops : List (Op ι κ ρ)) :
    Desk.Grows j.desk (Run.run (step T) ops j).desk ∧
      (j.row.isSome = true → (Run.run (step T) ops j).row.isSome = true) := by
  have hrun := @Run.run_induction _ _ _ (step T) j ops (fun j' => j'.desk.Sound ∧ Desk.Grows j.desk j'.desk ∧
    (j.row.isSome = true → j'.row.isSome = true)) ?_ ⟨hj, .refl _, id⟩
  · exact hrun.2
  · rintro op mid j' ⟨hmid, hgrows, hsome⟩ hstep
    have heffect := effect_of_step hstep
    refine ⟨heffect.sound hmid, hgrows.trans ?_, ?_⟩
    · rcases heffect.desk_step hmid with hsame | hnext
      · rw [hsame]
        exact .refl _
      · exact hmid.grows hnext
    · cases heffect with
      | moved _ _ hstays => exact fun hs => hstays (hsome hs)
      | settled _ _ _ hj' => exact fun _ => by rw [hj']; rfl

/-- No count is above the number of transactions that have committed. -/
theorem within_history (ops : List (Op ι κ ρ)) :
    Desk.Within (Run.successes (step T) ops Journal.empty).length (history T ops).desk := by
  have hrun := @Run.history_induction _ _ _ (step T) Journal.empty ops
    (fun past j => j.desk.Sound ∧ Desk.Within past.length j.desk) ?_ [] ⟨sound_empty, Desk.within_opened _⟩
  · simpa [history] using hrun.2
  · rintro op past j j' ⟨hj, hwithin⟩ hstep
    have heffect := effect_of_step hstep
    refine ⟨heffect.sound hj, ?_⟩
    rcases heffect.desk_step hj with hsame | hnext
    · rw [hsame]
      exact hwithin.succ
    · exact hwithin.step hj hnext

/-- The applied revision changes only where a success is reported. -/
theorem Effect.applies (h : Effect j op j') (hrow : j.row = some row) (hrow' : j'.row = some row')
    (hne : row'.appliedRevision ≠ row.appliedRevision) :
    op.Reports j row true ∧ row'.appliedRevision = row.desiredRevision := by
  cases h with
  | moved _ happlied =>
      rw [Journal.desk, Journal.desk, hrow, hrow'] at happlied
      exact absurd happlied hne
  | @settled found next succeeded hfound hop h hj' =>
      obtain rfl := Option.some.inj (hrow.symm.trans hfound)
      rw [hj'] at hrow'
      obtain rfl : next = row' := Option.some.inj hrow'
      cases succeeded with
      | true => exact ⟨hop, (h.succeeds rfl).1⟩
      | false => exact absurd (h.fails rfl).1 hne

/-- A result that does not carry the revision and the attempt of an applying row changes nothing. -/
theorem attempt_complete_of_stale {report : ρ} {revision attempt : Int} {succeeded : Bool} (hrow : j.row = some row)
    (h : ∀ row', T.project report revision attempt succeeded row ≠ .ok (some row')) :
    Run.attempt (step T) (.complete revision attempt succeeded report) j = j := by
  cases hstep : step T (.complete revision attempt succeeded report) j with
  | error err => exact Run.attempt_of_error hstep
  | ok j' =>
      rw [Run.attempt_of_ok hstep]
      obtain ⟨found, hfound, hstep⟩ := fetch_bind_eq_ok_iff.1 hstep
      obtain rfl := Option.some.inj (hrow.symm.trans hfound)
      obtain ⟨projected, hprojected, hstep⟩ := bind_eq_ok_iff.1 hstep
      split at hstep
      · exact (pure_eq_ok_iff.1 hstep).symm
      · exact absurd hprojected (h _)

end Refinement

/-! ## The three tables -/

section Tables

variable {α ι κ ρ : Type} [Inhabited α]

/-- No result overwrites a newer state. -/
structure Fenced (T : Table α ι κ ρ) : Prop where
  applied_le : ∀ ops row, (history T ops).row = some row → row.appliedRevision ≤ row.desiredRevision
  settled_iff : ∀ ops row, (history T ops).row = some row →
    (row.status = .ready ∨ row.status = .stopped ↔ row.appliedRevision = row.desiredRevision)
  /-- Rows stay, and their revisions do not go back. -/
  grows : ∀ ops later row, (history T ops).row = some row →
    ∃ row', (history T (ops ++ later)).row = some row' ∧ row.desiredRevision ≤ row'.desiredRevision ∧
      row.appliedRevision ≤ row'.appliedRevision
  /-- A revision is applied by a success under the current revision and attempt, and by nothing else. -/
  applies : ∀ ops op j' row row', (history T ops).row = some row → step T op (history T ops) = .ok j' →
    j'.row = some row' → row'.appliedRevision ≠ row.appliedRevision →
    op.Reports (history T ops) row true ∧ row'.appliedRevision = row.desiredRevision
  /-- A result without the revision and the attempt of an applying row is not committed, and changes nothing. -/
  stale : ∀ ops row report revision attempt succeeded, (history T ops).row = some row →
    ¬ Accepted revision attempt row →
    (∀ row', T.project report revision attempt succeeded row ≠ .ok (some row')) ∧
      Run.attempt (step T) (.complete revision attempt succeeded report) (history T ops) = history T ops
  /-- The counts are bounded by the transactions that have committed: below `2 ^ 63` of them none is out of range. -/
  bounded : ∀ ops row, (history T ops).row = some row →
    let committed := (Run.successes (step T) ops Journal.empty).length
    0 ≤ row.appliedRevision ∧ row.desiredRevision ≤ committed ∧ 0 ≤ row.attempt ∧ row.attempt ≤ committed

theorem fenced (T : Table α ι κ ρ) : Fenced T where
  applied_le ops row hrow := (sound_row hrow).applied_le
  settled_iff ops row hrow := Status.phase_eq_settled.symm.trans (sound_row hrow).settled_iff
  grows ops later row hrow := by
    obtain ⟨hgrows, hsome⟩ := grows_run (T := T) (sound_history (T := T) ops) later
    rw [history, Run.run_append]
    obtain ⟨row', hrow'⟩ := Option.isSome_iff_exists.1 (hsome (by rw [hrow]; rfl))
    rw [Journal.desk, Journal.desk, hrow, hrow'] at hgrows
    exact ⟨row', hrow', hgrows.desired, hgrows.applied⟩
  applies ops op j' row row' hrow hstep hrow' hne := (effect_of_step hstep).applies hrow hrow' hne
  stale ops row report revision attempt succeeded hrow hstale := by
    have hproject : ∀ row', T.project report revision attempt succeeded row ≠ .ok (some row') :=
      fun row' hrow' => hstale (T.project_ok hrow').1
    exact ⟨hproject, attempt_complete_of_stale hrow hproject⟩
  bounded ops row hrow := by
    have hwithin := within_history (T := T) ops
    rw [Journal.desk, hrow] at hwithin
    exact ⟨hwithin.applied_nonneg, hwithin.desired, hwithin.attempt⟩

/-- A state is queued again while its first revision is applied: the late result is dropped. -/
example :
    let now : Instant := ⟨63934444800, 0, by decide⟩
    let T : Table Nat _ _ _ := gatewayStates fun _ => true
    let ops := [.queue fun _ => .ok 7, .claim (.ok ()) now, .queue fun _ => .ok 8, .claim (.ok ()) now,
      .complete 1 1 true ("", .ok ())]
    ((history T ops).row.map fun row => (row.desiredRevision, row.appliedRevision, row.status)) =
      some (2, 0, .applying) ∧
    ((history T (ops ++ [.complete 2 2 true ("", .ok ())])).confirmed.map fun t => (t.revision, t.document.body)) =
      [(2, 8)] := by
  exact ⟨rfl, rfl⟩

/-- What is in effect was handed out and confirmed as it is stored. -/
structure Delivered (T : Table α ι κ ρ) : Prop where
  /-- Every task carries a revision and an attempt that no other has. -/
  ordered : ∀ ops, (history T ops).issued.Pairwise fun t u => u.Before t
  /-- The tasks of one revision carry one document. -/
  one_document : ∀ ops, ∀ t ∈ (history T ops).issued, ∀ u ∈ (history T ops).issued,
    t.revision = u.revision → t.document = u.document
  /-- The state of an applying row is with the task of its revision and attempt. -/
  applying : ∀ ops row, (history T ops).row = some row → row.status = .applying →
    ⟨row.desiredRevision, row.attempt, row.desired⟩ ∈ (history T ops).issued
  /-- Confirmed are only tasks, each revision once. -/
  confirmed : ∀ ops, ∀ t ∈ (history T ops).confirmed, t ∈ (history T ops).issued
  once : ∀ ops, (history T ops).confirmed.Pairwise fun t u => u.revision < t.revision
  /-- A settled row has the document of a confirmed task. -/
  settled : ∀ ops row, (history T ops).row = some row → row.status = .ready ∨ row.status = .stopped →
    row.desiredRevision ≠ 0 → ∃ t ∈ (history T ops).confirmed, t ∈ (history T ops).issued ∧
      t.revision = row.desiredRevision ∧ t.document = row.desired
  /-- The counts of a task start at one and are bounded by the transactions that have committed. -/
  bounded : ∀ ops, ∀ t ∈ (history T ops).issued,
    let committed := (Run.successes (step T) ops Journal.empty).length
    (0 < t.revision ∧ t.revision ≤ committed) ∧ 0 < t.attempt ∧ t.attempt ≤ committed

theorem issued_desk (j : Journal α) : j.desk.issued = j.issued := by
  unfold Journal.desk desk
  split <;> rfl

theorem confirmed_desk (j : Journal α) : j.desk.confirmed = j.confirmed := by
  unfold Journal.desk desk
  split <;> rfl

theorem delivered (T : Table α ι κ ρ) : Delivered T where
  ordered ops := issued_desk (history T ops) ▸ (sound_history ops).issued_ordered
  one_document ops := issued_desk (history T ops) ▸ (sound_history ops).one_document
  applying ops row hrow hstatus := by
    refine (sound_row hrow).held_issued ?_
    simp [desk, hstatus, Status.phase]
  confirmed ops := by
    have hmem := (sound_history (T := T) ops).confirmed_issued
    rwa [issued_desk, confirmed_desk] at hmem
  once ops := confirmed_desk (history T ops) ▸ (sound_history ops).confirmed_once
  settled ops row hrow hstatus hpos := (sound_row hrow).document_confirmed (Status.phase_eq_settled.2 hstatus) hpos
  bounded ops := issued_desk (history T ops) ▸ (within_history ops).issued

end Tables

end Desired
end Center
end Vastora
