import Vastora.Center.DesiredRow

/-!
# DesiredTable — the tables as one

What the functions of a table may do to a row is said once: queueing makes the next revision of it (`Queued`), a
claim takes it (`Granted`), and a projection settles it where the result carries the revision and the attempt that
it is applying (`Accepted`, `Settled`).  `Table` carries these facts, and each of the three tables is one.
-/

namespace Vastora
namespace Center
namespace Desired

open Library Library.Guard Library.Fencing

def Status.phase : Status → Phase
  | .pending => .waiting
  | .applying => .held
  | .failed => .halted
  | .ready => .settled
  | .stopped => .settled

theorem Status.phase_eq_settled {s : Status} : s.phase = .settled ↔ s = .ready ∨ s = .stopped := by
  cases s <;> simp [Status.phase]

section Specifications

variable {α : Type} {row row' : Row α} {found found' : Option (Row α)}

/-- The next revision of a row, or the first of a new one; attempts are counted on or anew. -/
structure Next (found : Option (Row α)) (row' : Row α) : Prop where
  desiredRevision : row'.desiredRevision = current found + 1
  appliedRevision : row'.appliedRevision = found.elim 0 Row.appliedRevision
  attempt : row'.attempt = 0 ∨ row'.attempt = found.elim 0 Row.attempt
  status : row'.status = .pending

/-- What queueing may do. -/
inductive Queued [Inhabited α] : Option (Row α) → Option (Row α) → Prop where
  | same (found : Option (Row α)) : Queued found found
  | created : Queued none (some createTunnel)
  | next {found : Option (Row α)} {row' : Row α} (h : Next found row') : Queued found (some row')

/-- What a claim does: the row is taken, and its state handed out. -/
structure Granted (row : Row α) (task : Task α) (row' : Row α) : Prop where
  pending : row.status = .pending
  task_eq : task = ⟨row.desiredRevision, row.attempt + 1, row.desired⟩
  row_eq : ∃ lease, row' = { row with status := .applying, attempt := row.attempt + 1, leaseExpiresAt := lease }

/-- A result is projected for the revision and the attempt that the row is applying. -/
structure Accepted (revision attempt : Int) (row : Row α) : Prop where
  applying : row.status = .applying
  revision_eq : revision = row.desiredRevision
  attempt_eq : attempt = row.attempt

/-- The row with the result in it. -/
structure Settled (succeeded : Bool) (row row' : Row α) : Prop where
  desiredRevision : row'.desiredRevision = row.desiredRevision
  attempt : row'.attempt = row.attempt
  desired : row'.desired = row.desired
  succeeds : succeeded = true → row'.appliedRevision = row.desiredRevision ∧ row'.status = .ready
  fails : succeeded = false → row'.appliedRevision = row.appliedRevision ∧ row'.status = .failed

theorem next_upsert {document : Document α} (h : document.revision = current found + 1) :
    Next found (upsert document found) := by
  cases found with
  | none => exact ⟨h, rfl, .inl rfl, rfl⟩
  | some row => exact ⟨h, rfl, .inr rfl, rfl⟩

theorem claimRow_ok {check : Int → Document α → Except String Unit} {changed : String} {now : Instant}
    {task : Task α} (h : claimRow check changed now row = .ok (some (task, row'))) : Granted row task row' := by
  unfold claimRow at h
  split at h
  · obtain ⟨⟨⟩, -, h⟩ := bind_eq_ok_iff.1 h
    obtain ⟨next, hnext, h⟩ := fetch_bind_eq_ok_iff.1 h
    obtain ⟨rfl, rfl⟩ := Prod.mk.inj (Option.some.inj (pure_eq_ok_iff.1 h))
    unfold Row.take at hnext
    split at hnext
    · next hpending => exact ⟨hpending.2, rfl, _, (Option.some.inj hnext).symm⟩
    · cases hnext
  · cases pure_eq_ok_iff.1 h

theorem settled_settledRow {applied : Int} {taskError : String} {succeeded : Bool}
    (h : applied = row.desiredRevision) : Settled succeeded row (settledRow applied taskError succeeded row) := by
  cases succeeded with
  | true => exact ⟨rfl, rfl, rfl, fun _ => ⟨h, rfl⟩, nofun⟩
  | false => exact ⟨rfl, rfl, rfl, nofun, fun _ => ⟨rfl, rfl⟩⟩

theorem Row.carries_iff {revision attempt : Int} : row.carries revision attempt = true ↔
    row.desiredRevision = revision ∧ row.attempt = attempt := by
  rw [Row.carries, Bool.and_eq_true, beq_iff_eq, beq_iff_eq]

end Specifications

/-- A table: its functions, and what they may do. -/
structure Table (α ι κ ρ : Type) [Inhabited α] where
  /-- The answer to a result for a row that is not there. -/
  missing : ρ → String
  queue : ι → Option (Row α) → Except String (Option (Row α))
  claim : κ → Instant → Row α → Except String (Option (Task α × Row α))
  project : ρ → Int → Int → Bool → Row α → Except String (Option (Row α))
  queue_ok : ∀ {input found found'}, queue input found = .ok found' → Queued found found'
  claim_ok : ∀ {env now row task row'}, claim env now row = .ok (some (task, row')) → Granted row task row'
  project_ok : ∀ {report revision attempt succeeded row row'},
    project report revision attempt succeeded row = .ok (some row') →
    Accepted revision attempt row ∧ Settled succeeded row row'

/-! ## The three tables -/

section Gateway

variable {α : Type}

theorem projectGatewayState_ok {rest : Except String Unit} {taskError : String} {revision attempt : Int}
    {succeeded : Bool} {row row' : Row α}
    (h : projectGatewayState rest taskError revision attempt succeeded row = .ok (some row')) :
    Accepted revision attempt row ∧ Settled succeeded row row' := by
  unfold projectGatewayState at h
  split_ifs at h with happlied hold hrevision hstatus hattempt
  all_goals try cases h
  obtain ⟨⟨⟩, -, h⟩ := bind_eq_ok_iff.1 h
  rw [not_or, not_not] at hattempt
  rw [not_not] at hrevision hstatus
  rw [← Option.some.inj (pure_eq_ok_iff.1 h)]
  exact ⟨⟨hstatus, hrevision, hattempt.2⟩, settled_settledRow hrevision⟩

variable [Inhabited α]

theorem queueGatewayState_ok {build : Int → Except String α} {found found' : Option (Row α)}
    (h : queueGatewayState build found = .ok found') : Queued found found' := by
  obtain ⟨body, -, h⟩ := bind_eq_ok_iff.1 h
  rw [← pure_eq_ok_iff.1 h]
  exact .next (next_upsert rfl)

def gatewayStates (valid : Document α → Bool) :
    Table α (Int → Except String α) (Except String Unit) (String × Except String Unit) where
  missing _ := "center: gateway desired state not found"
  queue := queueGatewayState
  claim := claimGatewayTask valid
  project report := projectGatewayState report.2 report.1
  queue_ok h := queueGatewayState_ok h
  claim_ok h := claimRow_ok h
  project_ok h := projectGatewayState_ok h

end Gateway

section NodeListener

variable {α : Type} {validate : Document α → Except String Unit}

/-- The statement of a reinstall asks for the revision, the attempt and the status itself. -/
theorem completeReinstallListener_ok {task : ReinstallTask} {rest : Except String Unit} {taskError : String}
    {revision attempt : Int} {succeeded : Bool} {row row' : Row α}
    (h : completeReinstallListener task rest taskError revision attempt succeeded row = .ok (some row')) :
    Accepted revision attempt row ∧ Settled succeeded row row' := by
  obtain ⟨found, -, h⟩ := bind_eq_ok_iff.1 h
  obtain ⟨-, h⟩ := require_bind_eq_ok_iff.1 h
  obtain ⟨haccepted, h⟩ := require_bind_eq_ok_iff.1 h
  obtain ⟨⟨⟩, -, h⟩ := bind_eq_ok_iff.1 h
  rw [Bool.and_eq_true, Row.carries_iff, beq_iff_eq] at haccepted
  rw [← Option.some.inj (pure_eq_ok_iff.1 h)]
  exact ⟨⟨haccepted.2, haccepted.1.1.symm, haccepted.1.2.symm⟩, settled_settledRow rfl⟩

theorem projectNodeListenerState_ok {report : ListenerReport} {revision attempt : Int} {succeeded : Bool}
    {row row' : Row α} (h : projectNodeListenerState report revision attempt succeeded row = .ok (some row')) :
    Accepted revision attempt row ∧ Settled succeeded row row' := by
  unfold projectNodeListenerState at h
  split at h
  · exact completeReinstallListener_ok h
  split_ifs at h with hold hstale hstatus
  all_goals try cases h
  obtain ⟨⟨⟩, -, h⟩ := bind_eq_ok_iff.1 h
  rw [not_not] at hstatus
  rw [← Option.some.inj (pure_eq_ok_iff.1 h)]
  exact ⟨⟨hstatus, by omega, by omega⟩, settled_settledRow rfl⟩

theorem claimListener_ok {env : Option (ReinstallTask × Except String Unit)} {now : Instant} {row row' : Row α}
    {task : Task α} (h : claimListener validate env now row = .ok (some (task, row'))) : Granted row task row' := by
  cases env with
  | none =>
      rw [claimListener, claimNodeListenerTask] at h
      exact claimRow_ok h
  | some env =>
      obtain ⟨found, -, h⟩ := bind_eq_ok_iff.1 h
      obtain ⟨expected, -, h⟩ := fetch_bind_eq_ok_iff.1 h
      obtain ⟨claimed, hclaimed, h⟩ := bind_eq_ok_iff.1 h
      obtain ⟨⟨taken, next⟩, rfl, h⟩ := fetch_bind_eq_ok_iff.1 h
      obtain ⟨-, h⟩ := require_bind_eq_ok_iff.1 h
      obtain ⟨⟨⟩, -, h⟩ := bind_eq_ok_iff.1 h
      obtain ⟨rfl, rfl⟩ := Prod.mk.inj (Option.some.inj (pure_eq_ok_iff.1 h))
      rw [claimNodeListenerTask] at hclaimed
      exact claimRow_ok hclaimed

variable [Inhabited α]

theorem saveNodeListenerState_ok {state : Document α} {found found' : Option (Row α)}
    (hstate : state.revision = current found + 1) (h : saveNodeListenerState validate state found = .ok found') :
    Queued found found' := by
  obtain ⟨⟨⟩, -, h⟩ := bind_eq_ok_iff.1 h
  rw [← pure_eq_ok_iff.1 h]
  exact .next (next_upsert hstate)

theorem queueListener_ok {input : ListenerInput α} {found found' : Option (Row α)}
    (h : queueListener validate input found = .ok found') : Queued found found' := by
  cases input with
  | queue build =>
      obtain ⟨body, -, h⟩ := bind_eq_ok_iff.1 h
      exact saveNodeListenerState_ok rfl h
  | reinstall reviewed build rest =>
      obtain ⟨queued, -, h⟩ := bind_eq_ok_iff.1 h
      split at h
      · rw [← pure_eq_ok_iff.1 h]
        exact .same found
      · obtain ⟨-, h⟩ := require_bind_eq_ok_iff.1 h
        obtain ⟨body, -, h⟩ := bind_eq_ok_iff.1 h
        obtain ⟨next, hnext, h⟩ := bind_eq_ok_iff.1 h
        obtain ⟨⟨⟩, -, h⟩ := bind_eq_ok_iff.1 h
        rw [← pure_eq_ok_iff.1 h]
        exact saveNodeListenerState_ok rfl hnext

def nodeListenerStates (validate : Document α → Except String Unit) :
    Table α (ListenerInput α) (Option (ReinstallTask × Except String Unit)) ListenerReport where
  missing report :=
    if report.reinstall.isSome then errExecutionAuthorization else "center: node listener desired state not found"
  queue := queueListener validate
  claim := claimListener validate
  project := projectNodeListenerState
  queue_ok h := queueListener_ok h
  claim_ok h := claimListener_ok h
  project_ok h := projectNodeListenerState_ok h

end NodeListener

section Tunnel

variable {α : Type}

theorem projectTunnelState_ok {rest : Except String Unit} {taskError : String} {revision attempt : Int}
    {succeeded : Bool} {row row' : Row α}
    (h : projectTunnelState rest taskError revision attempt succeeded row = .ok (some row')) :
    Accepted revision attempt row ∧ Settled succeeded row row' := by
  unfold projectTunnelState at h
  split_ifs at h with happlied hold hstale hstatus
  all_goals try cases h
  obtain ⟨⟨⟩, -, h⟩ := bind_eq_ok_iff.1 h
  rw [not_not] at hstatus
  have hrevision : revision = row.desiredRevision := by omega
  rw [← Option.some.inj (pure_eq_ok_iff.1 h)]
  refine ⟨⟨hstatus, hrevision, by omega⟩, ?_⟩
  cases succeeded with
  | true => exact ⟨rfl, rfl, rfl, fun _ => ⟨hrevision, rfl⟩, nofun⟩
  | false => exact ⟨rfl, rfl, rfl, nofun, fun _ => ⟨rfl, rfl⟩⟩

variable [Inhabited α]

theorem queueTunnel_ok {input : TunnelInput α} {found found' : Option (Row α)}
    (h : queueTunnel input found = .ok found') : Queued found found' := by
  cases input with
  | create =>
      cases found with
      | none =>
          cases h
          exact .created
      | some row => cases h
  | queue ingress =>
      rw [queueTunnel, queueTunnelState] at h
      obtain ⟨row, rfl, hrow⟩ := fetch_bind_eq_ok_iff.1 h
      obtain ⟨body, -, hbody⟩ := bind_eq_ok_iff.1 hrow
      rw [← pure_eq_ok_iff.1 hbody]
      exact .next ⟨rfl, rfl, .inl rfl, rfl⟩

def cloudflareTunnels (valid : Document α → Bool) :
    Table α (TunnelInput α) (Except String Unit) (String × Except String Unit) where
  missing _ := "center: Tunnel desired state not found"
  queue := queueTunnel
  claim := claimTunnelTask valid
  project report := projectTunnelState report.2 report.1
  queue_ok h := queueTunnel_ok h
  claim_ok h := claimRow_ok h
  project_ok h := projectTunnelState_ok h

end Tunnel

end Desired
end Center
end Vastora
