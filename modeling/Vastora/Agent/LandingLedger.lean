import Vastora.Agent.LandingAccount
import Vastora.Library.Table

/-!
# LandingLedger — traffic that was used stays used

The members of a shared account change in a few ways: a new identity joins, the counters are observed, a
reset moves the baselines, and identities are switched on and off (`LedgerStep`).  From the history of
accepted steps alone one can tell what `allocateQuota` adds up (`Recorded.ledgerUsed`).  What an operation may
do is limited by its powers: it observes the counters of its panels, and it resets a plan whose period has
ended, or by the command to do so (`Powers.Permits`).
-/

namespace Vastora
namespace Agent

open Library Library.Guard Landing

/-! ## Steps -/

/-- What decides about the traffic of an account: its members, whether it is on, and its period. -/
structure Plan where
  members : List QuotaMember
  enabled : Bool
  expiry : Int64
  resetDays : Int64

def Account.plan (account : Account) : Plan :=
  ⟨account.members, account.enabled, account.expiry, account.resetDays⟩

/-- The plan is on and its period has ended. -/
def Plan.Ended (p : Plan) (now : Int64) : Prop :=
  p.enabled = true ∧ 0 < p.resetDays ∧ 0 < p.expiry ∧ p.expiry ≤ now

/-- What a command makes of a plan. -/
def ClientCommand.replan (command : ClientCommand) (p : Plan) : Plan :=
  match command.action with
  | .update => { p with expiry := command.expiryTime, resetDays := command.resetDays }
  | .setEnabled => { p with enabled := command.enabled }
  | .delete => { p with enabled := false }
  | _ => p

/-- A reset is made by a command, or when the plan rolls over to a new period. -/
inductive LedgerStep where
  | add (id : String)
  | observe (counters : String → Option Int64)
  | activate (active : String → Bool)
  | reset
  | rollOver (expiry : Int64)
  | replan (command : ClientCommand)

def LedgerStep.apply (p : Plan) : LedgerStep → Except String Plan
  | .add id => do
      require (validGrantID id && !p.members.any (·.id == id)) "the identity is not a new one"
      return { p with members := p.members ++ [⟨id, 0, 0, false⟩] }
  | .observe counters => do
      let members ← observeQuota p.members counters
      return { p with members }
  | .activate active => .ok { p with members := activateMembers active p.members }
  | .reset => .ok { p with members := resetQuota p.members }
  | .rollOver expiry => .ok { p with members := resetQuota p.members, expiry }
  | .replan command => .ok (command.replan p)

def LedgerStep.isReset : LedgerStep → Bool
  | .reset | .rollOver _ => true
  | _ => false

/-- The plan after a history of accepted steps that `permits` admits, the last one first. -/
inductive LedgerRun (permits : Plan → LedgerStep → Prop) (start : Plan) : List LedgerStep → Plan → Prop where
  | start : LedgerRun permits start [] start
  | step {history p p'} {s : LedgerStep} (hrun : LedgerRun permits start history p) (hpermits : permits p s)
      (hstep : s.apply p = .ok p') : LedgerRun permits start (s :: history) p'

/-! ## Powers -/

/-- The counters are what the panel has counted for the clients with these identities. -/
def Panel.Counted (panel : Panel) (counters : String → Option Int64) : Prop :=
  ∀ id value, counters id = some value → ∃ email client, panel.client email = some client ∧
    panel.identity email = some id ∧ client.usedBytes = value

/-- What an operation has for an account: panels that it reads, each at a time, and a command. -/
structure Powers where
  observations : List (Panel × Int64)
  command : Option ClientCommand

/-- The steps that the powers justify. -/
def Powers.Permits (w : Powers) (p : Plan) : LedgerStep → Prop
  | .add _ | .activate _ => True
  | .observe counters => ∃ o ∈ w.observations, o.1.Counted counters
  | .reset => ∃ command, w.command = some command ∧ command.action = .resetTraffic
  | .rollOver _ => ∃ o ∈ w.observations, p.Ended o.2
  | .replan command => w.command = some command

/-- The powers suffice for a reset of the plan, as it is or as the command makes it. -/
def Powers.MayReset (w : Powers) (p : Plan) : Prop :=
  (∃ command, w.command = some command ∧ command.action = .resetTraffic) ∨
    ∃ o ∈ w.observations, p.Ended o.2 ∨ ∃ command, w.command = some command ∧ (command.replan p).Ended o.2

/-! ## What a history says -/

/-- The identities that were ever added. -/
def addedIDs (start : List QuotaMember) : List LedgerStep → List String
  | [] => start.map QuotaMember.id
  | .add id :: history => addedIDs start history ++ [id]
  | _ :: history => addedIDs start history

/-- The last accepted counter of an identity. -/
def lastCounter (start : List QuotaMember) (id : String) : List LedgerStep → Int64
  | [] => ((start.find? (·.id == id)).map QuotaMember.observed).getD 0
  | .add new :: history => if new = id then 0 else lastCounter start id history
  | .observe counters :: history => (counters id).getD (lastCounter start id history)
  | _ :: history => lastCounter start id history

/-- The counter of an identity at the last reset. -/
def resetCounter (start : List QuotaMember) (id : String) : List LedgerStep → Int64
  | [] => ((start.find? (·.id == id)).map QuotaMember.baseline).getD 0
  | .add new :: history => if new = id then 0 else resetCounter start id history
  | .reset :: history | .rollOver _ :: history => lastCounter start id history
  | _ :: history => resetCounter start id history

/-- What all identities together have used since the last reset. -/
def historyUsed (start : List QuotaMember) (history : List LedgerStep) : Int :=
  ((addedIDs start history).map fun id =>
    (lastCounter start id history).toInt - (resetCounter start id history).toInt).sum

/-- The members are what the history says. -/
structure Recorded (start : List QuotaMember) (history : List LedgerStep)
    (members : List QuotaMember) : Prop where
  ids : members.map QuotaMember.id = addedIDs start history
  observed : ∀ m ∈ members, m.observed = lastCounter start m.id history
  baseline : ∀ m ∈ members, m.baseline = resetCounter start m.id history

section History

variable {permits : Plan → LedgerStep → Prop} {start : List QuotaMember} {p p' : Plan}
  {history later : List LedgerStep} {s : LedgerStep} {active : String → Bool}

theorem add_ok {id : String} (h : (LedgerStep.add id).apply p = .ok p') :
    validGrantID id ∧ id ∉ p.members.map QuotaMember.id ∧
      p' = { p with members := p.members ++ [⟨id, 0, 0, false⟩] } := by
  obtain ⟨hguard, h⟩ := require_bind_eq_ok_iff.1 h
  simp only [Bool.and_eq_true, Bool.not_eq_true', List.any_eq_false, beq_iff_eq] at hguard
  refine ⟨hguard.1, ?_, (pure_eq_ok_iff.1 h).symm⟩
  intro hmem
  obtain ⟨m, hm, hid⟩ := List.mem_map.1 hmem
  exact hguard.2 m hm hid

theorem observe_ok {counters : String → Option Int64} (h : (LedgerStep.observe counters).apply p = .ok p') :
    ∃ members, observeQuota p.members counters = .ok members ∧ p' = { p with members } := by
  obtain ⟨members, hmembers, h⟩ := bind_eq_ok_iff.1 h
  exact ⟨members, hmembers, (pure_eq_ok_iff.1 h).symm⟩

theorem members_replan (command : ClientCommand) (p : Plan) : (command.replan p).members = p.members := by
  unfold ClientCommand.replan
  split <;> rfl

theorem ids_activateMembers {members : List QuotaMember} :
    (activateMembers active members).map QuotaMember.id = members.map QuotaMember.id := by
  unfold activateMembers
  rw [List.map_map]
  rfl

/-- Every accepted step keeps the ledger valid. -/
theorem validLedger_step (hvalid : ValidLedger p.members) (h : s.apply p = .ok p') : ValidLedger p'.members := by
  cases s with
  | add id =>
      obtain ⟨hid, hnew, rfl⟩ := add_ok h
      refine ⟨?_, ?_⟩
      · rw [List.map_append]
        refine List.nodup_append.2 ⟨hvalid.nodup, List.nodup_singleton _, ?_⟩
        intro a ha b hb hab
        obtain rfl := List.mem_singleton.1 hb
        exact hnew (hab ▸ ha)
      · intro m hm
        rcases List.mem_append.1 hm with hm | hm
        · exact hvalid.valid m hm
        · obtain rfl := List.mem_singleton.1 hm
          exact ⟨hid, Int64.le_refl 0, Int64.le_refl 0⟩
  | observe counters =>
      obtain ⟨members, hmembers, rfl⟩ := observe_ok h
      exact hvalid.observeQuota hmembers
  | reset | rollOver expiry =>
      obtain rfl := Except.ok.inj h
      exact hvalid.resetQuota
  | activate active =>
      obtain rfl := Except.ok.inj h
      refine ⟨?_, ?_⟩
      · rw [ids_activateMembers]
        exact hvalid.nodup
      · intro m' hm'
        obtain ⟨m, hm, rfl⟩ := List.mem_map.1 hm'
        have hold := hvalid.valid m hm
        exact ⟨hold.id, hold.nonneg, hold.le⟩
  | replan command =>
      obtain rfl := Except.ok.inj h
      rwa [members_replan]

/-- Nothing that was used is forgotten, except by a reset. -/
theorem ledgerUsed_step (hs : ¬ s.isReset) (h : s.apply p = .ok p') :
    ledgerUsed p.members ≤ ledgerUsed p'.members := by
  cases s with
  | add id =>
      obtain ⟨-, -, rfl⟩ := add_ok h
      have hnew : QuotaMember.used ⟨id, 0, 0, false⟩ = 0 := rfl
      rw [ledgerUsed, ledgerUsed, List.map_append, List.sum_append, List.map_singleton,
        List.sum_singleton, hnew]
      omega
  | observe counters =>
      obtain ⟨members, hmembers, rfl⟩ := observe_ok h
      exact ledgerUsed_observeQuota hmembers
  | reset | rollOver expiry => exact absurd rfl hs
  | activate active =>
      obtain rfl := Except.ok.inj h
      unfold activateMembers ledgerUsed
      rw [List.map_map]
      exact le_refl _
  | replan command =>
      obtain rfl := Except.ok.inj h
      rw [members_replan]

theorem Recorded.step (hrec : Recorded start history p.members) (h : s.apply p = .ok p') :
    Recorded start (s :: history) p'.members := by
  cases s with
  | add id =>
      obtain ⟨-, hnew, rfl⟩ := add_ok h
      -- An identity that was there before is not the new one.
      have hne : ∀ m ∈ p.members, id ≠ m.id := fun m hm heq => hnew (heq ▸ List.mem_map_of_mem hm)
      refine ⟨?_, ?_, ?_⟩
      · rw [List.map_append, hrec.ids]
        rfl
      · intro m hm
        rcases List.mem_append.1 hm with hm | hm
        · rw [lastCounter, if_neg (hne m hm), hrec.observed m hm]
        · obtain rfl := List.mem_singleton.1 hm
          rw [lastCounter, if_pos rfl]
      · intro m hm
        rcases List.mem_append.1 hm with hm | hm
        · rw [resetCounter, if_neg (hne m hm), hrec.baseline m hm]
        · obtain rfl := List.mem_singleton.1 hm
          rw [resetCounter, if_pos rfl]
  | observe counters =>
      obtain ⟨members, hmembers, rfl⟩ := observe_ok h
      refine ⟨(ids_observeQuota hmembers).trans hrec.ids, ?_, ?_⟩
      · intro m' hm'
        obtain ⟨m, -, hok⟩ := mem_of_mapM_ok hmembers hm'
        obtain ⟨value, hvalue, -, rfl⟩ := observeMember_ok hok
        rw [lastCounter, hvalue, Option.getD_some]
      · intro m' hm'
        obtain ⟨m, hm, hok⟩ := mem_of_mapM_ok hmembers hm'
        obtain ⟨value, -, -, rfl⟩ := observeMember_ok hok
        exact hrec.baseline m hm
  | reset | rollOver expiry =>
      obtain rfl := Except.ok.inj h
      refine ⟨ids_resetQuota.trans hrec.ids, ?_, ?_⟩
      · intro m' hm'
        obtain ⟨m, hm, rfl⟩ := List.mem_map.1 hm'
        exact hrec.observed m hm
      · intro m' hm'
        obtain ⟨m, hm, rfl⟩ := List.mem_map.1 hm'
        exact hrec.observed m hm
  | activate active =>
      obtain rfl := Except.ok.inj h
      refine ⟨ids_activateMembers.trans hrec.ids, ?_, ?_⟩
      · intro m' hm'
        obtain ⟨m, hm, rfl⟩ := List.mem_map.1 hm'
        exact hrec.observed m hm
      · intro m' hm'
        obtain ⟨m, hm, rfl⟩ := List.mem_map.1 hm'
        exact hrec.baseline m hm
  | replan command =>
      obtain rfl := Except.ok.inj h
      rw [members_replan]
      exact ⟨hrec.ids, hrec.observed, hrec.baseline⟩

theorem recorded_start (hstart : ValidLedger start) : Recorded start [] start := by
  refine ⟨rfl, ?_, ?_⟩
  · intro m hm
    rw [lastCounter, Table.find?_key hstart.nodup hm, Option.map_some, Option.getD_some]
  · intro m hm
    rw [resetCounter, Table.find?_key hstart.nodup hm, Option.map_some, Option.getD_some]

theorem Recorded.ledgerUsed {members : List QuotaMember} (hrec : Recorded start history members) :
    ledgerUsed members = historyUsed start history := by
  rw [historyUsed, ← hrec.ids, List.map_map, Landing.ledgerUsed]
  refine congrArg List.sum (List.map_congr_left ?_)
  intro m hm
  rw [QuotaMember.used, Function.comp_apply, hrec.observed m hm, hrec.baseline m hm]

end History

section Runs

variable {permits permits' : Plan → LedgerStep → Prop} {start p p' : Plan} {history later : List LedgerStep}
  {s : LedgerStep} {w : Powers}

theorem LedgerRun.valid (hstart : ValidLedger start.members) (hrun : LedgerRun permits start history p) :
    ValidLedger p.members := by
  induction hrun with
  | start => exact hstart
  | step _ _ hstep ih => exact validLedger_step ih hstep

theorem LedgerRun.recorded (hstart : ValidLedger start.members) (hrun : LedgerRun permits start history p) :
    Recorded start.members history p.members := by
  induction hrun with
  | start => exact recorded_start hstart
  | step _ _ hstep ih => exact ih.step hstep

theorem LedgerRun.ledgerUsed_le (hrun : LedgerRun permits start history p)
    (hreset : ∀ s ∈ history, ¬ s.isReset) : ledgerUsed start.members ≤ ledgerUsed p.members := by
  induction hrun with
  | start => exact le_refl _
  | @step history mid p' s _ _ hstep ih =>
      have hearlier := ih fun t ht => hreset t (List.mem_cons_of_mem s ht)
      have hlast := ledgerUsed_step (hreset s List.mem_cons_self) hstep
      exact hearlier.trans hlast

theorem LedgerRun.trans (h₁ : LedgerRun permits start history p) (h₂ : LedgerRun permits p later p') :
    LedgerRun permits start (later ++ history) p' := by
  induction h₂ with
  | start => exact h₁
  | step _ hpermits hstep ih => exact ih.step hpermits hstep

/-- The plan is on for the same period. -/
def Plan.SamePeriod (p p' : Plan) : Prop :=
  p'.enabled = p.enabled ∧ p'.expiry = p.expiry ∧ p'.resetDays = p.resetDays

theorem Plan.SamePeriod.ended {now : Int64} (h : p.SamePeriod p') (hended : p'.Ended now) : p.Ended now := by
  unfold Plan.Ended at *
  rwa [h.1, h.2.1, h.2.2] at hended

theorem samePeriod_replan {command : ClientCommand} (h : p.SamePeriod p') :
    (command.replan p).SamePeriod (command.replan p') := by
  unfold ClientCommand.replan
  split
  · exact ⟨h.1, rfl, rfl⟩
  · exact ⟨rfl, h.2.1, h.2.2⟩
  · exact ⟨rfl, h.2.1, h.2.2⟩
  · exact h

theorem replan_replan (command : ClientCommand) (p : Plan) :
    command.replan (command.replan p) = command.replan p := by
  unfold ClientCommand.replan
  cases command.action <;> rfl

/-- A step that is no reset keeps the period, or sets the one of the command. -/
theorem samePeriod_step (hpermits : w.Permits p s) (hs : ¬ s.isReset) (h : s.apply p = .ok p') :
    p.SamePeriod p' ∨ ∃ command, w.command = some command ∧ p' = command.replan p := by
  cases s with
  | add id =>
      obtain ⟨-, -, rfl⟩ := add_ok h
      exact Or.inl ⟨rfl, rfl, rfl⟩
  | observe counters =>
      obtain ⟨members, -, rfl⟩ := observe_ok h
      exact Or.inl ⟨rfl, rfl, rfl⟩
  | activate active =>
      obtain rfl := Except.ok.inj h
      exact Or.inl ⟨rfl, rfl, rfl⟩
  | reset | rollOver expiry => exact absurd rfl hs
  | replan command =>
      obtain rfl := Except.ok.inj h
      exact Or.inr ⟨command, hpermits, rfl⟩

/-- Without the powers there is no reset. -/
theorem LedgerRun.no_reset (hrun : LedgerRun w.Permits start history p) (hmay : ¬ w.MayReset start) :
    (∀ s ∈ history, ¬ s.isReset) ∧
      (start.SamePeriod p ∨ ∃ command, w.command = some command ∧ (command.replan start).SamePeriod p) := by
  induction hrun with
  | start => exact ⟨by simp, Or.inl ⟨rfl, rfl, rfl⟩⟩
  | @step history p p' s _ hpermits hstep ih =>
      obtain ⟨hnone, hperiod⟩ := ih
      have hs : ¬ s.isReset := by
        intro hreset
        cases s with
        | reset => exact hmay (Or.inl hpermits)
        | rollOver expiry =>
            obtain ⟨o, ho, hended⟩ := hpermits
            refine hmay (Or.inr ⟨o, ho, ?_⟩)
            rcases hperiod with hsame | ⟨command, hcommand, hsame⟩
            · exact Or.inl (hsame.ended hended)
            · exact Or.inr ⟨command, hcommand, hsame.ended hended⟩
        | _ => cases hreset
      refine ⟨List.forall_mem_cons.2 ⟨hs, hnone⟩, ?_⟩
      rcases samePeriod_step hpermits hs hstep with hnext | ⟨command, hcommand, rfl⟩
      · refine hperiod.imp (fun h => ?_) fun ⟨command, hcommand, h⟩ => ⟨command, hcommand, ?_⟩
        · exact ⟨hnext.1.trans h.1, hnext.2.1.trans h.2.1, hnext.2.2.trans h.2.2⟩
        · exact ⟨hnext.1.trans h.1, hnext.2.1.trans h.2.1, hnext.2.2.trans h.2.2⟩
      · refine Or.inr ⟨command, hcommand, ?_⟩
        rcases hperiod with hsame | ⟨command', hcommand', hsame⟩
        · exact samePeriod_replan hsame
        · obtain rfl := Option.some.inj (hcommand.symm.trans hcommand')
          rw [← replan_replan]
          exact samePeriod_replan hsame

end Runs

/-- The plan can be reached from `start` by accepted and permitted steps. -/
def LedgerPath (w : Powers) (start p : Plan) : Prop := ∃ history, LedgerRun w.Permits start history p

section Path

variable {w : Powers} {start p p' : Plan} {s : LedgerStep}

theorem ledgerPath_refl (w : Powers) (p : Plan) : LedgerPath w p p := ⟨[], .start⟩

theorem LedgerPath.step (h : LedgerPath w start p) (s : LedgerStep) (hpermits : w.Permits p s)
    (hstep : s.apply p = .ok p') : LedgerPath w start p' := by
  obtain ⟨history, hrun⟩ := h
  exact ⟨s :: history, hrun.step hpermits hstep⟩

theorem LedgerPath.trans (h₁ : LedgerPath w start p) (h₂ : LedgerPath w p p') : LedgerPath w start p' := by
  obtain ⟨history, hrun⟩ := h₁
  obtain ⟨later, hlater⟩ := h₂
  exact ⟨later ++ history, hrun.trans hlater⟩

end Path

/-! ## The steps of an observation -/

section Observation

variable {w : Powers} {panel : Panel} {now : Int64} {grants : List ControllerGrant} {parentID : String}
  {names : List (String × String)} {account account' : Account} {v v' : Visit} {name : String × String}

theorem visitClient_members (h : visitClient panel v name = some v') :
    v'.members = v.members ∨
      (∀ m ∈ v.members, m.id ≠ name.1) ∧ v'.members = v.members ++ [⟨name.1, 0, 0, false⟩] := by
  simp only [visitClient, Option.bind_eq_bind, Option.bind_eq_some_iff] at h
  obtain ⟨client, -, -, -, h⟩ := h
  split at h
  · obtain rfl := Option.some.inj h
    exact Or.inl rfl
  · rename_i hnew
    obtain rfl := Option.some.inj h
    refine Or.inr ⟨?_, rfl⟩
    intro m hm hid
    exact hnew (List.any_eq_true.2 ⟨m, hm, beq_iff_eq.2 hid⟩)

/-- A visit counts what the panel has counted for the client of the identity. -/
theorem visitClient_counted (h : visitClient panel v name = some v')
    (hcounted : panel.Counted fun id => v.counters.lookup id) : panel.Counted fun id => v'.counters.lookup id := by
  simp only [visitClient, Option.bind_eq_bind, Option.bind_eq_some_iff] at h
  obtain ⟨client, hclient, _, hguard, h⟩ := h
  have hidentity : panel.identity name.2 = some name.1 := by
    by_contra hne
    simp [guard, hne] at hguard
  have hcounters : v'.counters = (name.1, client.usedBytes) :: v.counters := by
    split at h <;> exact (congrArg Visit.counters (Option.some.inj h)).symm
  intro id value hvalue
  dsimp only at hvalue
  rw [hcounters, List.lookup_cons] at hvalue
  split at hvalue
  · rename_i heq
    obtain rfl := beq_iff_eq.1 heq
    exact ⟨name.2, client, hclient, hidentity, Option.some.inj hvalue⟩
  · exact hcounted id value hvalue

theorem visitClients_counted (h : names.foldlM (visitClient panel) v = some v')
    (hcounted : panel.Counted fun id => v.counters.lookup id) : panel.Counted fun id => v'.counters.lookup id := by
  induction names generalizing v with
  | nil =>
      obtain rfl := Option.some.inj h
      exact hcounted
  | cons name names ih =>
      rw [List.foldlM_cons, Option.bind_eq_bind, Option.bind_eq_some_iff] at h
      obtain ⟨v₁, hvisit, hrest⟩ := h
      exact ih hrest (visitClient_counted hvisit hcounted)

/-- Visiting the clients adds the new identities, provided that they are valid. -/
theorem ledgerPath_visitClients (h : names.foldlM (visitClient panel) v = some v')
    (hvalid : ∀ m ∈ v'.members, validGrantID m.id) (p : Plan) :
    v.members ⊆ v'.members ∧ LedgerPath w { p with members := v.members } { p with members := v'.members } := by
  induction names generalizing v with
  | nil =>
      obtain rfl := Option.some.inj h
      exact ⟨List.Subset.refl _, ledgerPath_refl _ _⟩
  | cons name names ih =>
      rw [List.foldlM_cons, Option.bind_eq_bind, Option.bind_eq_some_iff] at h
      obtain ⟨v₁, hvisit, hrest⟩ := h
      obtain ⟨hsub, hpath⟩ := ih hrest
      rcases visitClient_members hvisit with heq | ⟨hnew, heq⟩
      · rw [heq] at hsub hpath
        exact ⟨hsub, hpath⟩
      · have hin : v.members ⊆ v₁.members := heq ▸ List.subset_append_left _ _
        refine ⟨List.Subset.trans hin hsub, LedgerPath.trans ?_ hpath⟩
        -- The identity ends up in the ledger that was found to be valid.
        have hid : validGrantID name.1 :=
          hvalid ⟨name.1, 0, 0, false⟩ (hsub (by rw [heq]; simp))
        refine (ledgerPath_refl _ _).step (.add name.1) trivial ?_
        have hguard : (validGrantID name.1 && !v.members.any (·.id == name.1)) = true := by
          rw [Bool.and_eq_true, Bool.not_eq_true', List.any_eq_false]
          exact ⟨hid, fun m hm heq => hnew m hm (beq_iff_eq.1 heq)⟩
        rw [LedgerStep.apply, hguard, heq]
        rfl

theorem Account.ended_of_due (h : account.due now) : account.plan.Ended now := by
  simp only [Account.due, Bool.and_eq_true, decide_eq_true_eq] at h
  exact ⟨h.1.1.1.1, h.1.1.2, h.1.2, h.2⟩

/-- What is observed, and can be allocated, is the result of accepted steps. -/
theorem ledgerPath_observedAccount (hw : (panel, now) ∈ w.observations)
    (h : observedAccount panel now grants parentID names account = some account')
    (hvalid : ValidLedger account'.members) : LedgerPath w account.plan account'.plan := by
  simp only [observedAccount, Option.bind_eq_bind, Option.bind_eq_some_iff, Option.pure_def,
    Option.some.injEq] at h
  obtain ⟨v, hvisits, members, hmembers, rfl⟩ := h
  have hobserve : observeQuota v.members (fun id => v.counters.lookup id) = .ok members := by
    cases hres : observeQuota v.members (fun id => v.counters.lookup id) with
    | error err =>
        rw [hres] at hmembers
        cases hmembers
    | ok result =>
        rw [hres] at hmembers
        exact congrArg Except.ok (Option.some.inj hmembers)
  let active := memberActive grants parentID
  have hids : ∀ result : List QuotaMember, result.map QuotaMember.id = v.members.map QuotaMember.id →
      (∀ m ∈ result, validGrantID m.id) → ∀ m ∈ v.members, validGrantID m.id := by
    intro result hsame hall m hm
    have hin : m.id ∈ result.map QuotaMember.id := hsame ▸ List.mem_map_of_mem hm
    obtain ⟨m', hm', heq⟩ := List.mem_map.1 hin
    exact heq ▸ hall m' hm'
  have hactivated : (activateMembers active members).map QuotaMember.id =
      v.members.map QuotaMember.id := ids_activateMembers.trans (ids_observeQuota hobserve)
  have hcounted := visitClients_counted hvisits (fun _ _ h => by cases h)
  have hpath : (∀ m ∈ v.members, validGrantID m.id) →
      LedgerPath w account.plan { account.plan with members := activateMembers active members } := by
    intro hall
    obtain ⟨-, hadded⟩ := ledgerPath_visitClients (w := w) hvisits hall account.plan
    have hobserved : LedgerPath w account.plan { account.plan with members } :=
      hadded.step (.observe _) ⟨_, hw, hcounted⟩ (bind_eq_ok_iff.2 ⟨members, hobserve, rfl⟩)
    exact hobserved.step (.activate active) trivial rfl
  unfold Account.rollOver at hvalid ⊢
  split at hvalid
  · rename_i hdue
    rw [if_pos hdue]
    have hall := hids _ (ids_resetQuota.trans hactivated) fun m hm => (hvalid.valid m hm).id
    have hended := Account.ended_of_due hdue
    exact (hpath hall).step (.rollOver _) ⟨_, hw, hended⟩ rfl
  · rename_i hdue
    rw [if_neg hdue]
    exact hpath (hids _ hactivated fun m hm => (hvalid.valid m hm).id)

theorem projectLimits_valid {limits : List QuotaLimit} {used : Int64}
    (h : account.projectLimits now = .ok (limits, used)) : ValidLedger account.members :=
  (allocateQuota_ok h).1

end Observation

end Agent
end Vastora
