import Vastora.Agent.LandingLedger

/-!
# LandingJournal — what the operations on shared accounts store

`Within` describes the accounts of a journal: every key is the identity of its account, and the plan of an
account is an allowed one.  Each operation is a triple over it, for a return as well as for a failure,
so that the stored journal is described whichever save or write has failed.
-/

namespace Vastora
namespace Agent

open Library Library.Guard Landing

/-- The grants satisfy `grants`, and the accounts of `domain` are there with plans that `allowed` admits. -/
structure Within (grants : List ControllerGrant → Prop) (domain : String → Prop)
    (allowed : String → Plan → Prop) (c : Controller) : Prop where
  keyed : ∀ key a, c.accounts key = some a → a.id = key
  grants : grants c.grants
  accounts : ∀ key, domain key → ∃ a, c.accounts key = some a ∧ allowed key a.plan

/-- The stored journal and the copy that is worked on. -/
def Journal.Within (grants : List ControllerGrant → Prop) (domain : String → Prop)
    (stored state : String → Plan → Prop) (j : Journal) : Prop :=
  Agent.Within grants domain stored j.stored ∧ Agent.Within grants domain state j.state

section Journal

variable {G : List ControllerGrant → Prop} {D : String → Prop}
  {A B S : String → Plan → Prop} {c : Controller} {key parentID : String}
  {account account' : Account} {panel : Panel} {now : Int64}

theorem Within.mono (h : Within G D A c) (hAB : ∀ key plan, A key plan → B key plan) :
    Within G D B c := by
  refine ⟨h.keyed, h.grants, fun key hkey => ?_⟩
  obtain ⟨a, ha, hplan⟩ := h.accounts key hkey
  exact ⟨a, ha, hAB key a.plan hplan⟩

theorem account_of_some (h : c.accounts key = some account) : c.account key = account := by
  rw [Controller.account, h, Option.getD_some]

/-- An account is replaced by one with the same identity and an allowed plan. -/
theorem Within.setAccount (h : Within G D A c) (hid : account.id = key)
    (hplan : D key → A key account.plan) : Within G D A (c.setAccount key account) := by
  refine ⟨?_, h.grants, ?_⟩
  · intro key' a ha
    simp only [Controller.setAccount] at ha
    split at ha
    · rename_i heq
      rw [← Option.some.inj ha, hid, heq]
    · exact h.keyed key' a ha
  · intro key' hkey'
    by_cases heq : key' = key
    · refine ⟨account, if_pos heq, ?_⟩
      rw [heq] at hkey' ⊢
      exact hplan hkey'
    · obtain ⟨a, ha, hallowed⟩ := h.accounts key' hkey'
      exact ⟨a, (if_neg heq).trans ha, hallowed⟩

/-- The plan of the account that is read is allowed. -/
theorem Within.plan (h : Within G D A c) (ha : c.accounts key = some account) (hkey : D key) :
    A key account.plan := by
  obtain ⟨a, ha', hallowed⟩ := h.accounts key hkey
  rw [ha] at ha'
  rwa [Option.some.inj ha']

/-! ## Statements -/

theorem save_triple :
    Triple (Journal.Within G D S A) saveLandingController (fun _ => Journal.Within G D A A)
      (Journal.Within G D S A) := by
  refine Triple.get_bind fun j hj => ?_
  split
  · refine Triple.bind (fun _ => Journal.Within G D S A) (Triple.of_modify ?_) fun _ =>
      Triple.of_throw fun _ h => h
    rintro _ rfl
    exact hj
  · refine Triple.of_modify ?_
    rintro _ rfl
    exact ⟨hj.2, hj.2⟩

theorem setAccount_triple {j : Journal} {fail : Journal → Prop} (hj : Journal.Within G D S A j)
    (hAB : ∀ key plan, A key plan → B key plan) (hid : account.id = key)
    (hplan : D key → B key account.plan) :
    Triple (fun j' => j' = j) (setAccount key account) (fun _ => Journal.Within G D S B) fail := by
  refine Triple.of_modify ?_
  rintro _ rfl
  exact ⟨hj.1, (hj.2.mono hAB).setAccount hid hplan⟩

/-- The account that the names are read from. -/
theorem landingAccountNames_ok {names : List (String × String)}
    (h : landingAccountNames c parentID = .ok names) :
    ∃ a, c.accounts parentID = some a ∧ a.id = parentID := by
  simp only [landingAccountNames, bind_eq_ok_iff, fetch_eq_ok_iff, require_eq_ok_iff, exists_const,
    Bool.and_eq_true, beq_iff_eq] at h
  obtain ⟨a, ha, ⟨hid, -⟩, -⟩ := h
  exact ⟨a, ha, hid⟩

/-- Enforcing limits changes no plan. -/
theorem applyLandingQuotaPlan_triple :
    Triple (Journal.Within G D S A) (applyLandingQuotaPlan panel parentID)
      (fun _ => Journal.Within G D A A) (Journal.Within G D S A) := by
  refine Triple.get_bind fun j hj => ?_
  refine Triple.attempt_bind hj fun names hnames => ?_
  obtain ⟨a, ha, hid⟩ := landingAccountNames_ok hnames
  rw [account_of_some ha]
  have hplan : D parentID → A parentID a.plan := hj.2.plan ha
  refine Triple.attempt_bind hj fun _ _ => Triple.attempt_bind hj fun _ _ => ?_
  exact Triple.bind _ (setAccount_triple hj (fun _ _ h => h) hid hplan) fun _ => save_triple

/-- A blocked account keeps its plan. -/
theorem blockLandingAccount_triple {j : Journal} {post : PUnit → Journal → Prop}
    (hj : Journal.Within G D A A j) (ha : j.state.accounts parentID = some account) :
    Triple (fun j' => j' = j) (blockLandingAccount parentID) post (Journal.Within G D A A) := by
  refine Triple.get_bind fun j' hj' => ?_
  subst hj'
  rw [account_of_some ha]
  have hid := hj.2.keyed parentID account ha
  have hplan : D parentID → A parentID account.plan := hj.2.plan ha
  refine Triple.bind _ (setAccount_triple hj (fun _ _ h => h) hid hplan) fun _ => ?_
  exact Triple.bind _ save_triple fun _ => Triple.of_throw fun _ h => h

/-- The limits of an observed account are journaled, with its plan, and enforced. -/
theorem journalLimits_triple {j : Journal} (hj : Journal.Within G D A A j)
    (hAB : ∀ key plan, A key plan → B key plan) (hid : account.id = parentID)
    (hplan : D parentID → ∀ limits used, account.projectLimits now = .ok (limits, used) →
      B parentID account.plan) :
    Triple (fun j' => j' = j) (journalLimits panel now parentID account)
      (fun _ => Journal.Within G D B B) (Journal.Within G D B B) := by
  have hstored : Journal.Within G D B A j := ⟨hj.1.mono hAB, hj.2⟩
  refine Triple.attempt_bind ⟨hj.1.mono hAB, hj.2.mono hAB⟩ fun projected hprojected => ?_
  have hallowed : D parentID → B parentID account.plan := fun hkey =>
    hplan hkey projected.1 projected.2 hprojected
  refine Triple.bind _ (setAccount_triple hstored hAB hid hallowed) fun _ => ?_
  exact Triple.bind _ save_triple fun _ => applyLandingQuotaPlan_triple

theorem observedAccount_id {grants : List ControllerGrant} {names : List (String × String)}
    (h : observedAccount panel now grants parentID names account = some account') :
    account'.id = account.id := by
  simp only [observedAccount, Option.bind_eq_bind, Option.bind_eq_some_iff, Option.pure_def,
    Option.some.injEq] at h
  obtain ⟨v, -, members, -, rfl⟩ := h
  unfold Account.rollOver
  split
  · rfl
  · rfl

/-- An observation stores the plan as it was, or as it is observed and allocated. -/
theorem observeAccount_triple (hAB : ∀ key plan, A key plan → B key plan)
    (hstep : ∀ c account account' names limits used, Within G D A c → D parentID →
      c.accounts parentID = some account →
      observedAccount panel now c.grants parentID names account = some account' →
      account'.projectLimits now = .ok (limits, used) → B parentID account'.plan) :
    Triple (Journal.Within G D A A) (observeAccount panel now parentID)
      (fun _ => Journal.Within G D B B) (Journal.Within G D B B) := by
  refine Triple.get_bind fun j hj => ?_
  have hfail : Journal.Within G D B B j := ⟨hj.1.mono hAB, hj.2.mono hAB⟩
  refine Triple.attempt_bind hfail fun _ _ => Triple.attempt_bind hfail fun names hnames => ?_
  obtain ⟨a, ha, hid⟩ := landingAccountNames_ok hnames
  rw [account_of_some ha]
  split
  · exact blockLandingAccount_triple hfail ha
  · rename_i account' hobserved
    refine journalLimits_triple hj hAB ((observedAccount_id hobserved).trans hid) ?_
    intro hkey limits used hprojected
    exact hstep j.state a account' names limits used hj.2 hkey ha hobserved hprojected

/-- What `syncLandingAccount` stores, whether it returns or fails. -/
theorem syncLandingAccount_triple (hAB : ∀ key plan, A key plan → B key plan)
    (hstep : ∀ c account account' names limits used, Within G D A c → D parentID →
      c.accounts parentID = some account →
      observedAccount panel now c.grants parentID names account = some account' →
      account'.projectLimits now = .ok (limits, used) → B parentID account'.plan) :
    Triple (Journal.Within G D A A) (syncLandingAccount panel now parentID)
      (fun _ => Journal.Within G D B B) (Journal.Within G D B B) := by
  refine Triple.get_bind fun j hj => ?_
  have hfail : Journal.Within G D B B j := ⟨hj.1.mono hAB, hj.2.mono hAB⟩
  refine Triple.attempt_bind hfail fun account _ => ?_
  split
  · refine Triple.of_pure ?_
    rintro _ rfl
    exact hfail
  · have hpending : Triple (fun j' => j' = j) (finishPending panel account parentID)
        (fun _ => Journal.Within G D A A) (Journal.Within G D B B) := by
      unfold finishPending
      split
      · refine Triple.of_pure ?_
        rintro _ rfl
        exact hj
      · refine (applyLandingQuotaPlan_triple (S := A)).weaken ?_ (fun _ _ h => h) ?_
        · rintro _ rfl
          exact hj
        · exact fun j' h => ⟨h.1.mono hAB, h.2.mono hAB⟩
    exact Triple.bind _ hpending fun _ => observeAccount_triple hAB hstep

end Journal

/-! ## Whole operations -/

/-- The plan of an account is reached from the one it had at the start. -/
def Evolved (w : String → Powers) (start : Controller) (key : String) (plan : Plan) : Prop :=
  ∃ a, start.accounts key = some a ∧ LedgerPath (w key) a.plan plan

/-- Every account of the start is there, with a plan that its powers reach from the one it had. -/
def Evolves (w : String → Powers) (start : Controller) : Controller → Prop :=
  Within (fun _ => True) (fun key => (start.accounts key).isSome) (Evolved w start)

def Journal.Evolves (w : String → Powers) (start : Controller) (j : Journal) : Prop :=
  Agent.Evolves w start j.stored ∧ Agent.Evolves w start j.state

section Operations

variable {w : String → Powers} {start c : Controller} {panel : Panel} {now : Int64} {parentID digest : String}
  {command : ClientCommand} {account account' : Account} {native : NativeWrites}

theorem evolves_refl (hkeyed : ∀ key a, start.accounts key = some a → a.id = key) :
    Evolves w start start := by
  refine ⟨hkeyed, trivial, fun key hkey => ?_⟩
  obtain ⟨a, ha⟩ := Option.isSome_iff_exists.1 hkey
  exact ⟨a, ha, a, ha, ledgerPath_refl _ _⟩

theorem Evolved.path {key : String} {plan plan' : Plan} (h : Evolved w start key plan)
    (hpath : LedgerPath (w key) plan plan') : Evolved w start key plan' := by
  obtain ⟨a, ha, hfirst⟩ := h
  exact ⟨a, ha, hfirst.trans hpath⟩

theorem syncLandingAccount_evolves (hw : (panel, now) ∈ (w parentID).observations) :
    Triple (Journal.Evolves w start) (syncLandingAccount panel now parentID)
      (fun _ => Journal.Evolves w start) (Journal.Evolves w start) := by
  refine syncLandingAccount_triple (fun _ _ h => h) ?_
  intro c account account' names limits used hc hkey ha hobserved hprojected
  have hpath := ledgerPath_observedAccount hw hobserved (projectLimits_valid hprojected)
  exact (hc.plan ha hkey).path hpath

theorem Account.change_ok {w : Powers} (hw : w.command = some command) (h : account.change command = .ok account') :
    account'.id = account.id ∧ LedgerPath w account.plan account'.plan := by
  have hreplan : ∀ {p' : Plan}, p' = command.replan account.plan → LedgerPath w account.plan p' := by
    rintro _ rfl
    exact (ledgerPath_refl _ _).step (.replan command) hw rfl
  unfold Account.change at h
  split at h
  · rename_i haction
    obtain ⟨-, h⟩ := require_bind_eq_ok_iff.1 h
    obtain rfl := pure_eq_ok_iff.1 h
    exact ⟨rfl, hreplan (by rw [ClientCommand.replan, haction]; rfl)⟩
  · rename_i haction
    obtain rfl := Except.ok.inj h
    exact ⟨rfl, hreplan (by rw [ClientCommand.replan, haction]; rfl)⟩
  · rename_i haction
    obtain rfl := Except.ok.inj h
    exact ⟨rfl, (ledgerPath_refl _ _).step .reset ⟨command, hw, haction⟩ rfl⟩
  · rename_i haction
    obtain rfl := Except.ok.inj h
    exact ⟨rfl, hreplan (by rw [ClientCommand.replan, haction]; rfl)⟩
  · obtain rfl := Except.ok.inj h
    exact ⟨rfl, ledgerPath_refl _ _⟩

/-- Replacing the grants changes no account. -/
theorem Journal.Evolves.grants {j : Journal} (hj : j.Evolves w start) (grants : List ControllerGrant) :
    Journal.Evolves w start { j with state := { j.state with grants } } :=
  ⟨hj.1, hj.2.keyed, trivial, hj.2.accounts⟩

/-- An account of the start is replaced by a later state of itself. -/
theorem setAccount_evolves {j : Journal} {fail : Journal → Prop} (account' : Account)
    (hj : j.Evolves w start)
    (ha : j.state.accounts parentID = some account) (hid : account'.id = account.id)
    (hpath : LedgerPath (w parentID) account.plan account'.plan) :
    Triple (fun j' => j' = j) (setAccount account'.id account') (fun _ => Journal.Evolves w start)
      fail := by
  have hkey : account'.id = parentID := hid.trans (hj.2.keyed parentID account ha)
  rw [hkey]
  refine setAccount_triple hj (fun _ _ h => h) hkey fun hstart => ?_
  exact (hj.2.plan ha hstart).path hpath

theorem save_evolves :
    Triple (Journal.Evolves w start) saveLandingController (fun _ => Journal.Evolves w start)
      (Journal.Evolves w start) := save_triple

/-- The plan is journaled once; a replay finds it there. -/
theorem journalIntent_evolves (hpanel : (panel, now) ∈ (w account.id).observations)
    (hw : (w account.id).command = some command) (hstart : (start.accounts account.id).isSome) :
    Triple (Journal.Evolves w start) (journalIntent panel now digest command account)
      (fun _ => Journal.Evolves w start) (Journal.Evolves w start) := by
  unfold journalIntent
  split
  · exact Triple.of_attempt (fun _ _ _ h => h) fun _ h => h
  · refine Triple.bind _ (Triple.of_attempt (fun _ _ _ h => h) fun _ h => h) fun _ => ?_
    have hsync : Triple (Journal.Evolves w start) (syncUnlessDelete panel now command account.id)
        (fun _ => Journal.Evolves w start) (Journal.Evolves w start) := by
      unfold syncUnlessDelete
      split
      · exact Triple.of_pure fun _ h => h
      · exact syncLandingAccount_evolves hpanel
    refine Triple.bind _ hsync fun _ => Triple.get_bind fun j hj => ?_
    refine Triple.attempt_bind hj fun changed hchanged => ?_
    obtain ⟨a, ha, -⟩ := hj.2.accounts account.id hstart
    rw [account_of_some ha] at hchanged
    obtain ⟨hid, hpath⟩ := Account.change_ok hw hchanged
    let planned : Account := { changed with
      blocked := false, pendingOperation := command.operationKey, operationDigest := digest }
    exact Triple.bind _ (setAccount_evolves planned hj ha hid hpath) fun _ => save_evolves

theorem executeIntent_evolves (hpanel : (panel, now) ∈ (w account.id).observations) :
    Triple (Journal.Evolves w start) (executeIntent panel now native command account)
      (fun _ => Journal.Evolves w start) (Journal.Evolves w start) := by
  unfold executeIntent
  split
  · refine Triple.get_bind fun j hj => ?_
    refine Triple.attempt_bind hj fun _ _ => Triple.attempt_bind hj fun _ _ => Triple.of_modify ?_
    rintro _ rfl
    exact hj.grants _
  · refine Triple.bind _ (Triple.of_attempt (fun _ _ _ h => h) fun _ h => h) fun _ => ?_
    refine Triple.bind (fun _ => Journal.Evolves w start) ?_ fun _ => syncLandingAccount_evolves hpanel
    unfold updateClients
    split
    · refine Triple.bind _ (Triple.of_attempt (fun _ _ _ h => h) fun _ h => h) fun _ => ?_
      refine Triple.bind _ (Triple.of_modify fun j hj => hj.grants _) fun _ => save_evolves
    · exact Triple.of_pure fun _ h => h

theorem applyLandingParentMutation_evolves {fingerprint : ClientCommand → String}
    {before after : Panel × Int64} (hkeyed : ∀ key a, start.accounts key = some a → a.id = key)
    (hbefore : before ∈ (w command.managedParentID).observations)
    (hafter : after ∈ (w command.managedParentID).observations)
    (hw : (w command.managedParentID).command = some command) :
    Triple (fun j => j.Evolves w start ∧ j.state = start)
      (applyLandingParentMutation fingerprint before after native command)
      (fun _ => Journal.Evolves w start) (Journal.Evolves w start) := by
  refine Triple.bind (fun _ j => j.Evolves w start ∧ j.state = start)
    (Triple.of_attempt (fun _ _ _ h => h) fun _ h => h.1) fun _ => ?_
  refine Triple.get_bind fun j hj => Triple.attempt_bind hj.1 fun account haccount => ?_
  have ha := fetch_eq_ok_iff.1 haccount
  rw [hj.2] at ha
  have hid := hkeyed _ _ ha
  have hstart : (start.accounts account.id).isSome := by
    rw [hid, ha]
    rfl
  rw [← hid] at hbefore hafter hw
  split
  · refine Triple.of_attempt ?_ ?_
    · rintro _ _ _ rfl
      exact hj.1
    · rintro _ rfl
      exact hj.1
  · have hjournal : Triple (Journal.Evolves w start) (journalIntent before.1 before.2
        (fingerprint { command with operationKey := "" }) command account)
        (fun _ => Journal.Evolves w start) (Journal.Evolves w start) :=
      journalIntent_evolves hbefore hw hstart
    refine Triple.bind (fun _ => Journal.Evolves w start) (hjournal.weaken ?_ (fun _ _ h => h)
      fun _ h => h) fun _ => ?_
    · rintro _ rfl
      exact hj.1
    refine Triple.get_bind fun j₁ hj₁ => ?_
    obtain ⟨a₁, ha₁, -⟩ := hj₁.2.accounts account.id hstart
    rw [account_of_some ha₁]
    rw [← hj₁.2.keyed _ _ ha₁] at hafter
    refine Triple.bind (fun _ => Journal.Evolves w start) ((executeIntent_evolves hafter).weaken ?_
      (fun _ _ h => h) fun _ h => h) fun _ => ?_
    · rintro _ rfl
      exact hj₁
    refine Triple.get_bind fun j₂ hj₂ => ?_
    obtain ⟨a, ha₂, -⟩ := hj₂.2.accounts account.id hstart
    rw [account_of_some ha₂]
    let finished : Account := { a with pendingOperation := "", lastOperation := command.operationKey }
    exact Triple.bind _ (setAccount_evolves finished hj₂ ha₂ rfl (ledgerPath_refl _ _)) fun _ =>
      save_evolves

end Operations

/-! ## Sequences of operations -/

/-- An operation on the journal.  `regrant` stands for the operations that prepare, activate and retire
grants; they write no account that is there. -/
inductive LandingCall where
  | sync (panel : Panel) (now : Int64) (parentID : String)
  | mutate (fingerprint : ClientCommand → String) (before after : Panel × Int64)
      (native : NativeWrites) (command : ClientCommand)
  | regrant (grants : List ControllerGrant)

def LandingCall.op : LandingCall → Op PUnit
  | .sync panel now parentID => syncLandingAccount panel now parentID
  | .mutate fingerprint before after native command =>
      applyLandingParentMutation fingerprint before after native command
  | .regrant grants => do
      modify fun j => { j with state := { j.state with grants } }
      saveLandingController

/-- What a call has for an account: nothing if it is about another one. -/
def LandingCall.powers (key : String) : LandingCall → Powers
  | .sync panel now parentID => if parentID = key then ⟨[(panel, now)], none⟩ else ⟨[], none⟩
  | .mutate _ before after _ command =>
      if command.managedParentID = key then ⟨[before, after], some command⟩ else ⟨[], none⟩
  | .regrant _ => ⟨[], none⟩

/-- The stored journal after a call, given which of its saves succeed. -/
def LandingCall.run (stored : Controller) (call : LandingCall × List Bool) : Controller :=
  (finalState call.1.op ⟨stored, stored, call.2⟩).stored

/-- The plan of an account after a list of calls, each of which makes only steps that its powers permit. -/
inductive CallsRun (key : String) : Plan → List (LandingCall × List Bool) → List LedgerStep → Plan → Prop where
  | nil {plan} : CallsRun key plan [] [] plan
  | cons {plan plan' plan'' call calls history later} (hcall : LedgerRun (call.1.powers key).Permits plan history plan')
      (hcalls : CallsRun key plan' calls later plan'') : CallsRun key plan (call :: calls) (later ++ history) plan''

/-- No call may reset the account as it is stored when the call is made. -/
def NoReset (key : String) : Controller → List (LandingCall × List Bool) → Prop
  | _, [] => True
  | c, call :: calls => (∀ a, c.accounts key = some a → ¬ (call.1.powers key).MayReset a.plan) ∧
      NoReset key (LandingCall.run c call) calls

section Calls

variable {start : Controller}

theorem LandingCall.run_evolves (call : LandingCall × List Bool)
    (hkeyed : ∀ key a, start.accounts key = some a → a.id = key) :
    Evolves (fun key => call.1.powers key) start (LandingCall.run start call) := by
  have hj : ∀ w, Journal.Evolves w start ⟨start, start, call.2⟩ := fun w =>
    ⟨evolves_refl hkeyed, evolves_refl hkeyed⟩
  obtain ⟨call, outcomes⟩ := call
  cases call with
  | sync panel now parentID =>
      have hw : (panel, now) ∈ ((LandingCall.sync panel now parentID).powers parentID).observations := by
        simp [LandingCall.powers]
      exact ((syncLandingAccount_evolves (w := fun key => (LandingCall.sync panel now parentID).powers key)
        hw).of_finalState (hj _)).1
  | mutate fingerprint before after native command =>
      have hw : (LandingCall.mutate fingerprint before after native command).powers command.managedParentID =
          ⟨[before, after], some command⟩ := by simp [LandingCall.powers]
      exact ((applyLandingParentMutation_evolves
        (w := fun key => (LandingCall.mutate fingerprint before after native command).powers key) hkeyed
        (by simp [hw]) (by simp [hw]) (by simp [hw])).of_finalState ⟨hj _, rfl⟩).1
  | regrant grants =>
      have hop : ∀ w, Triple (Journal.Evolves w start) (LandingCall.regrant grants).op
          (fun _ => Journal.Evolves w start) (Journal.Evolves w start) := fun w =>
        Triple.bind _ (Triple.of_modify fun j hj => hj.grants grants) fun _ => save_evolves
      exact ((hop _).of_finalState (hj _)).1

/-- What one call does to an account. -/
theorem LandingCall.run_plan (call : LandingCall × List Bool)
    (hkeyed : ∀ key a, start.accounts key = some a → a.id = key) {key : String} {a : Account}
    (ha : start.accounts key = some a) : ∃ a' history, (LandingCall.run start call).accounts key = some a' ∧
      LedgerRun (call.1.powers key).Permits a.plan history a'.plan := by
  obtain ⟨a', ha', a₀, ha₀, history, hrun⟩ :=
    (LandingCall.run_evolves call hkeyed).accounts key (Option.isSome_iff_exists.2 ⟨a, ha⟩)
  obtain rfl := Option.some.inj (ha.symm.trans ha₀)
  exact ⟨a', history, ha', hrun⟩

/-- Any sequence of calls, whichever of them fail. -/
theorem callsRun (calls : List (LandingCall × List Bool))
    (hkeyed : ∀ key a, start.accounts key = some a → a.id = key) {key : String} {a : Account}
    (ha : start.accounts key = some a) : ∃ a' history, (calls.foldl LandingCall.run start).accounts key = some a' ∧
      CallsRun key a.plan calls history a'.plan := by
  induction calls generalizing start a with
  | nil => exact ⟨a, [], ha, .nil⟩
  | cons call calls ih =>
      obtain ⟨a₁, history, ha₁, hrun⟩ := LandingCall.run_plan call hkeyed ha
      obtain ⟨a', later, ha', hruns⟩ := ih (LandingCall.run_evolves call hkeyed).keyed ha₁
      exact ⟨a', later ++ history, ha', .cons hrun hruns⟩

theorem CallsRun.ledgerRun {key : String} {plan plan' : Plan} {calls : List (LandingCall × List Bool)}
    {history : List LedgerStep} (h : CallsRun key plan calls history plan') :
    LedgerRun (fun _ _ => True) plan history plan' := by
  have hfree : ∀ {permits plan plan' history}, LedgerRun permits plan history plan' →
      LedgerRun (fun _ _ => True) plan history plan' := by
    intro permits plan plan' history hrun
    induction hrun with
    | start => exact .start
    | step _ _ hstep ih => exact ih.step trivial hstep
  induction h with
  | nil => exact .start
  | cons hcall _ ih => exact (hfree hcall).trans ih

/-- Between resets the traffic of an account only grows. -/
theorem ledgerUsed_le_of_noReset (calls : List (LandingCall × List Bool))
    (hkeyed : ∀ key a, start.accounts key = some a → a.id = key) {key : String} {a a' : Account}
    (ha : start.accounts key = some a) (hreset : NoReset key start calls)
    (ha' : (calls.foldl LandingCall.run start).accounts key = some a') :
    ledgerUsed a.members ≤ ledgerUsed a'.members := by
  induction calls generalizing start a with
  | nil =>
      obtain rfl := Option.some.inj (ha.symm.trans ha')
      exact le_refl _
  | cons call calls ih =>
      obtain ⟨a₁, history, ha₁, hrun⟩ := LandingCall.run_plan call hkeyed ha
      have hfirst := hrun.ledgerUsed_le (hrun.no_reset (hreset.1 a ha)).1
      exact hfirst.trans (ih (LandingCall.run_evolves call hkeyed).keyed ha₁ hreset.2 ha')

/-- A single observation: unless all its steps are accepted, the stored members are the old ones. -/
theorem syncLandingAccount_members {panel : Panel} {now : Int64} {parentID : String} {a : Account}
    (outcomes : List Bool) (hkeyed : ∀ key a, start.accounts key = some a → a.id = key)
    (ha : start.accounts parentID = some a) :
    ∃ a', (LandingCall.run start (.sync panel now parentID, outcomes)).accounts parentID = some a' ∧
      (a'.members = a.members ∨ ∃ account account' names limits used, account.members = a.members ∧
        observedAccount panel now start.grants parentID names account = some account' ∧
        account'.projectLimits now = .ok (limits, used) ∧ a'.members = account'.members) := by
  let accepted (members : List QuotaMember) : Prop :=
    ∃ account account' names limits used, account.members = a.members ∧
      observedAccount panel now start.grants parentID names account = some account' ∧
      account'.projectLimits now = .ok (limits, used) ∧ members = account'.members
  have htriple : Triple (Journal.Within (· = start.grants) (· = parentID)
      (fun _ plan => plan.members = a.members) fun _ plan => plan.members = a.members)
      (syncLandingAccount panel now parentID)
      (fun _ => Journal.Within (· = start.grants) (· = parentID)
        (fun _ plan => plan.members = a.members ∨ accepted plan.members)
        fun _ plan => plan.members = a.members ∨ accepted plan.members)
      (Journal.Within (· = start.grants) (· = parentID)
        (fun _ plan => plan.members = a.members ∨ accepted plan.members)
        fun _ plan => plan.members = a.members ∨ accepted plan.members) := by
    refine syncLandingAccount_triple (fun _ _ h => Or.inl h) ?_
    intro c account account' names limits used hc hkey haccount hobserved hprojected
    rw [hc.grants] at hobserved
    exact Or.inr ⟨account, account', names, limits, used, hc.plan haccount hkey, hobserved,
      hprojected, rfl⟩
  have hstart : Within (· = start.grants) (· = parentID) (fun _ plan => plan.members = a.members)
      start := by
    refine ⟨hkeyed, rfl, ?_⟩
    rintro _ rfl
    exact ⟨a, ha, rfl⟩
  have hfinal := htriple.of_finalState (s := ⟨start, start, outcomes⟩) ⟨hstart, hstart⟩
  exact hfinal.1.accounts parentID rfl

end Calls

/-- The shared ledger never refunds.  Along any history of accepted steps it stays valid, what is allocated is
what the history says, nothing but a reset lowers it, and only active members of an account that is on, not
expired and below its total are enabled.  Whatever the panels answer and whichever saves fail, the operations
make only steps that their powers permit; without a due period and a command to reset, what an account has used
never decreases. -/
theorem shared_ledger_never_refunds :
    (∀ permits start history p, ValidLedger start.members → LedgerRun permits start history p →
      ValidLedger p.members ∧
      (∀ total enabled limits used, allocateQuota total enabled p.members = .ok (limits, used) →
        used.toInt = historyUsed start.members history) ∧
      ∀ later p', LedgerRun permits p later p' → (∀ s ∈ later, ¬ s.isReset) →
        ∀ total total' enabled enabled' limits limits' used used',
          allocateQuota total enabled p.members = .ok (limits, used) →
          allocateQuota total' enabled' p'.members = .ok (limits', used') → used ≤ used') ∧
    (∀ (account : Account) now limits used, account.projectLimits now = .ok (limits, used) →
      ∀ l ∈ limits, l.enabled → (∃ m ∈ account.members, m.id = l.id ∧ m.active) ∧ account.enabled ∧
        (account.expiry = 0 ∨ now < account.expiry) ∧ (account.total = 0 ∨ used < account.total)) ∧
    ∀ start : Controller, (∀ key a, start.accounts key = some a → a.id = key) →
      (∀ (calls : List (LandingCall × List Bool)) key a, start.accounts key = some a → ∃ a' history,
        (calls.foldl LandingCall.run start).accounts key = some a' ∧
          CallsRun key a.plan calls history a'.plan ∧ LedgerRun (fun _ _ => True) a.plan history a'.plan ∧
          (NoReset key start calls → ∀ total total' enabled enabled' limits limits' used used',
            allocateQuota total enabled a.members = .ok (limits, used) →
            allocateQuota total' enabled' a'.members = .ok (limits', used') → used ≤ used')) ∧
      ∀ panel now parentID outcomes a, start.accounts parentID = some a →
        ∃ a', (LandingCall.run start (.sync panel now parentID, outcomes)).accounts parentID = some a' ∧
          (a'.members = a.members ∨ ∃ account account' names limits used,
            account.members = a.members ∧
            observedAccount panel now start.grants parentID names account = some account' ∧
            account'.projectLimits now = .ok (limits, used) ∧ a'.members = account'.members) := by
  have hle : ∀ {members members'}, ledgerUsed members ≤ ledgerUsed members' →
      ∀ total total' enabled enabled' limits limits' used used',
        allocateQuota total enabled members = .ok (limits, used) →
        allocateQuota total' enabled' members' = .ok (limits', used') → used ≤ used' := by
    intro members members' hused total total' enabled enabled' limits limits' used used' h h'
    rwa [Int64.le_iff_toInt_le, (allocateQuota_ok h).2.1, (allocateQuota_ok h').2.1]
  refine ⟨?_, ?_, ?_⟩
  · intro permits start history p hstart hrun
    refine ⟨hrun.valid hstart, ?_, fun later p' hlater hreset => hle (hlater.ledgerUsed_le hreset)⟩
    intro total enabled limits used h
    rw [(allocateQuota_ok h).2.1, (hrun.recorded hstart).ledgerUsed]
  · intro account now limits used h l hl henabled
    obtain ⟨hmember, hopen, htotal⟩ := (allocateQuota_ok h).2.2 l hl henabled
    simp only [Account.open, Bool.and_eq_true, Bool.or_eq_true, beq_iff_eq, decide_eq_true_eq] at hopen
    exact ⟨hmember, hopen.1.1, hopen.2, htotal⟩
  · intro start hkeyed
    refine ⟨?_, ?_⟩
    · intro calls key a ha
      obtain ⟨a', history, ha', hruns⟩ := callsRun calls hkeyed ha
      exact ⟨a', history, ha', hruns, hruns.ledgerRun,
        fun hreset => hle (ledgerUsed_le_of_noReset calls hkeyed ha hreset ha')⟩
    · intro panel now parentID outcomes a ha
      exact syncLandingAccount_members outcomes hkeyed ha

namespace LedgerTrial

/-- One identity, on for an unlimited time. -/
def startPlan : Plan := ⟨[⟨"a", 0, 0, true⟩], true, 0, 0⟩

/-- A second identity joins, both are observed, and the second one is revoked. -/
def history : List LedgerStep :=
  [.activate (· == "a"), .observe fun id => if id == "a" then some 70 else some 30, .add "b"]

def finalPlan : Plan := ⟨[⟨"a", 0, 70, true⟩, ⟨"b", 0, 30, false⟩], true, 0, 0⟩

theorem valid : ValidLedger startPlan.members :=
  ⟨List.nodup_singleton _, by
    intro m hm
    obtain rfl := List.mem_singleton.1 hm
    exact ⟨by decide, Int64.le_refl 0, Int64.le_refl 0⟩⟩

theorem run : LedgerRun (fun _ _ => True) startPlan history finalPlan :=
  .step (.step (.step .start trivial rfl) trivial rfl) trivial rfl

/-- The account of the first identity. -/
def controller : Controller where
  grants := []
  accounts key := if key = "a" then
    some ⟨"a", "user", true, 1000, 0, 0, startPlan.members, [⟨"a", 0, true⟩], [], 0, false, false, "", "", ""⟩ else none

theorem keyed : ∀ key a, controller.accounts key = some a → a.id = key := by
  intro key a ha
  simp only [controller] at ha
  split at ha
  · rename_i hkey
    rw [← Option.some.inj ha, hkey]
  · cases ha

/-- The panel has counted some bytes for it. -/
def panel (bytes : Int64) : Panel where
  clients := some [⟨"user", bytes, 0, true⟩]
  identity _ := some "a"
  confirm _ _ _ _ := .ok ()

/-- Three observations; the second one cannot be saved. -/
def calls : List (LandingCall × List Bool) :=
  [(.sync (panel 70) 0 "a", []), (.sync (panel 80) 0 "a", [false]), (.sync (panel 90) 0 "a", [])]

/-- An account without a period is never due. -/
theorem not_mayReset {c : Controller} (bytes : Int64) (h : (c.accounts "a").all (·.resetDays == 0) = true) :
    ∀ a, c.accounts "a" = some a → ¬ ((LandingCall.sync (panel bytes) 0 "a").powers "a").MayReset a.plan := by
  intro a ha hmay
  have hpowers : (LandingCall.sync (panel bytes) 0 "a").powers "a" = ⟨[(panel bytes, 0)], none⟩ := by
    simp [LandingCall.powers]
  rw [hpowers] at hmay
  rcases hmay with ⟨command, hcommand, -⟩ | ⟨o, -, hended | ⟨command, hcommand, -⟩⟩
  · cases hcommand
  · rw [ha, Option.all_some, beq_iff_eq] at h
    have hdays : (0 : Int64) < a.resetDays := hended.2.1
    rw [h] at hdays
    exact absurd hdays (by decide)
  · cases hcommand

theorem noReset : NoReset "a" controller calls :=
  ⟨not_mayReset 70 (by decide +kernel), not_mayReset 80 (by decide +kernel), not_mayReset 90 (by decide +kernel),
    trivial⟩

end LedgerTrial

/-- A revoked identity still counts; observations are journaled as steps, and what they have counted stays. -/
theorem shared_ledger_never_refunds_revoked :
    (∃ limits used, allocateQuota 1000 true LedgerTrial.finalPlan.members = .ok (limits, used) ∧
      used.toInt = historyUsed LedgerTrial.startPlan.members LedgerTrial.history ∧ used = 100) ∧
    ∃ a' history, (LedgerTrial.calls.foldl LandingCall.run LedgerTrial.controller).accounts "a" = some a' ∧
      a'.members = [⟨"a", 0, 90, true⟩] ∧ CallsRun "a" LedgerTrial.startPlan LedgerTrial.calls history a'.plan ∧
      ∀ limits limits' used used', allocateQuota 0 true LedgerTrial.startPlan.members = .ok (limits, used) →
        allocateQuota 0 true a'.members = .ok (limits', used') → used ≤ used' := by
  refine ⟨⟨_, _, rfl, ?_, by decide⟩, ?_⟩
  · exact (shared_ledger_never_refunds.1 _ _ _ _ LedgerTrial.valid LedgerTrial.run).2.1 1000 true _ _ rfl
  · have hmembers : ((LedgerTrial.calls.foldl LandingCall.run LedgerTrial.controller).accounts "a").map
        Account.members = some [⟨"a", 0, 90, true⟩] := by
      decide +kernel
    obtain ⟨a', history, ha', hruns, -, hused⟩ :=
      (shared_ledger_never_refunds.2.2 _ LedgerTrial.keyed).1 LedgerTrial.calls "a" _ rfl
    rw [ha'] at hmembers
    exact ⟨a', history, ha', Option.some.inj hmembers, hruns, hused LedgerTrial.noReset 0 0 true true⟩

end Agent
end Vastora
