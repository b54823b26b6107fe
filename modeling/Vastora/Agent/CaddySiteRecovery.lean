import Vastora.Agent.CaddySiteStore
import Vastora.Library.Table

/-!
# CaddySiteRecovery — updates of websites survive a crash at every step

Each journal leads to one website: the one before the update while the update is under way, and its own website
otherwise.  A save is made so that this does not change, except for the save that commits a candidate.  Together
with "where all journals are applied, Caddy serves the persisted websites" this holds at every step of every call
(`Consistent`), and so also where the agent dies.
-/

namespace Vastora
namespace Agent

open Library Gateway

variable {η : Type}

/-! ## Rows -/

namespace SharedCaddy

variable {s : SharedCaddy η} {journal row : CaddySiteJournal η} {id : String}

theorem mem_save : row ∈ (s.save journal).journals ↔
    row = journal ∨ row ∈ s.journals ∧ row.applicationID ≠ journal.applicationID := by
  have hrows : ∀ rows : List (CaddySiteJournal η), (rows.Pairwise fun a b => a.applicationID < b.applicationID) →
      (row ∈ upsert journal rows ↔ row = journal ∨ row ∈ rows ∧ row.applicationID ≠ journal.applicationID) := by
    intro rows hordered
    induction rows with
    | nil => simp [upsert]
    | cons first rows ih =>
        rw [List.pairwise_cons] at hordered
        unfold upsert
        split
        · next heq =>
            -- The rows behind the replaced one have larger keys.
            have hother : row ∈ rows → row.applicationID ≠ journal.applicationID :=
              fun hrow => heq ▸ (hordered.1 row hrow).ne'
            grind
        · next hne =>
            split
            · next hlt =>
                have hother : row ∈ rows → row.applicationID ≠ journal.applicationID :=
                  fun hrow => (hlt.trans (hordered.1 row hrow)).ne'
                grind
            · have hrest := ih hordered.2
              grind
  exact hrows s.journals s.ordered

theorem mem_save_self (journal : CaddySiteJournal η) (s : SharedCaddy η) : journal ∈ (s.save journal).journals :=
  mem_save.2 (Or.inl rfl)

theorem journal_of_mem (h : journal ∈ s.journals) : s.journal journal.applicationID = some journal := by
  have hnodup : (s.journals.map CaddySiteJournal.applicationID).Nodup := by
    rw [List.nodup_iff_pairwise_ne, List.pairwise_map]
    exact s.ordered.imp fun hlt => hlt.ne
  exact Table.find?_key hnodup h

theorem journal_eq_some_iff : s.journal id = some journal ↔ journal ∈ s.journals ∧ journal.applicationID = id := by
  constructor
  · intro h
    exact ⟨List.mem_of_find?_eq_some h, by simpa using List.find?_some h⟩
  · rintro ⟨hmem, rfl⟩
    exact journal_of_mem hmem

theorem journal_save_self : (s.save journal).journal journal.applicationID = some journal :=
  journal_of_mem (mem_save_self journal s)

theorem journal_save_of_ne (h : id ≠ journal.applicationID) : (s.save journal).journal id = s.journal id := by
  refine Option.ext fun row => ?_
  rw [journal_eq_some_iff, journal_eq_some_iff, mem_save]
  constructor
  · rintro ⟨rfl | hrow, rfl⟩
    · exact absurd rfl h
    · exact ⟨hrow.1, rfl⟩
  · rintro ⟨hrow, rfl⟩
    exact ⟨Or.inr ⟨hrow, h⟩, rfl⟩

/-- A save that keeps the website of its application keeps what a reload loads. -/
theorem sites_save (h : s.site journal.applicationID = journal.site) : (s.save journal).sites = s.sites := by
  have hrows : ∀ rows : List (CaddySiteJournal η), (rows.Pairwise fun a b => a.applicationID < b.applicationID) →
      (rows.find? fun row => row.applicationID == journal.applicationID).bind CaddySiteJournal.site = journal.site →
      (upsert journal rows).filterMap CaddySiteJournal.site = rows.filterMap CaddySiteJournal.site := by
    intro rows hordered hsite
    induction rows with
    | nil =>
        have hnone : journal.site = none := hsite.symm
        rw [upsert, List.filterMap_cons_none hnone]
    | cons first rows ih =>
        rw [List.pairwise_cons] at hordered
        unfold upsert
        split
        · next heq =>
            rw [List.find?_cons_of_pos (by simp [heq]), Option.bind_some] at hsite
            rw [List.filterMap_cons, List.filterMap_cons, hsite]
        · next hne =>
            rw [List.find?_cons_of_neg (by simpa using Ne.symm hne)] at hsite
            split
            · next hlt =>
                -- The row is new, so it had no website.
                have habsent : (rows.find? fun row => row.applicationID == journal.applicationID) = none :=
                  List.find?_eq_none.2 fun row hrow => by simpa using (hlt.trans (hordered.1 row hrow)).ne'
                rw [habsent, Option.bind_none] at hsite
                rw [List.filterMap_cons_none hsite.symm]
            · rw [List.filterMap_cons, List.filterMap_cons, ih hordered.2 hsite]
  exact hrows s.journals s.ordered h

/-- The website that recovery leads to. -/
def target (s : SharedCaddy η) (id : String) : Option CaddySite :=
  (s.journal id).bind fun journal => journal.recover.site

theorem target_of_mem (h : journal ∈ s.journals) : s.target journal.applicationID = journal.recover.site := by
  rw [target, journal_of_mem h, Option.bind_some]

theorem recover_of_ne (h : journal.state ≠ .applying) : journal.recover = journal := if_neg h

theorem target_eq_site (h : ∀ journal ∈ s.journals, journal.state ≠ .applying) (id : String) :
    s.target id = s.site id := by
  rw [target, site]
  cases hjournal : s.journal id with
  | none => rfl
  | some journal =>
      rw [Option.bind_some, Option.bind_some, recover_of_ne (h journal (journal_eq_some_iff.1 hjournal).1)]

theorem AllApplied.target_eq_site (h : s.AllApplied) (id : String) : s.target id = s.site id :=
  SharedCaddy.target_eq_site (fun journal hjournal => by rw [h journal hjournal]; decide) id

/-- A save to what its application leads to already. -/
theorem target_save {committed : String → Option CaddySite} (h : ∀ id, s.target id = committed id)
    (hjournal : journal.recover.site = committed journal.applicationID) (id : String) :
    (s.save journal).target id = committed id := by
  by_cases hid : id = journal.applicationID
  · rw [hid, target, journal_save_self, Option.bind_some, hjournal]
  · rw [target, journal_save_of_ne hid]
    exact h id

end SharedCaddy

/-! ## Consistency -/

/-- The journals lead to the committed websites, and Caddy serves them where all journals are applied. -/
structure Consistent (committed : String → Option CaddySite) (s : SharedCaddy η) : Prop where
  target : ∀ id, s.target id = committed id
  loaded : s.AllApplied → s.loaded = s.sites

section Consistency

variable {committed : String → Option CaddySite} {s : SharedCaddy η} {journal : CaddySiteJournal η}

theorem Consistent.load (h : Consistent committed s) : Consistent committed s.load := ⟨h.target, fun _ => rfl⟩

/-- A record of work under way. -/
theorem Consistent.save_open (h : Consistent committed s) (hstate : journal.state ≠ .applied)
    (hjournal : journal.recover.site = committed journal.applicationID) : Consistent committed (s.save journal) :=
  ⟨SharedCaddy.target_save h.target hjournal, fun happlied =>
    absurd (happlied journal (SharedCaddy.mem_save_self journal s)) hstate⟩

/-- A record that the work is done, after a reload. -/
theorem Consistent.save_applied (h : Consistent committed s) (hloaded : s.loaded = s.sites)
    (hstate : journal.state = .applied) (hsite : s.site journal.applicationID = journal.site)
    (hjournal : journal.site = committed journal.applicationID) : Consistent committed (s.save journal) := by
  have hrecover : journal.recover = journal := SharedCaddy.recover_of_ne (by rw [hstate]; decide)
  refine ⟨SharedCaddy.target_save h.target (by rw [hrecover]; exact hjournal), fun _ => ?_⟩
  rw [SharedCaddy.sites_save hsite]
  exact hloaded

end Consistency

/-! ## Steps -/

/-- A condition on the store and the events. -/
def On (P : SharedCaddy η → List (SiteEvent η) → Prop) (process : SiteProcess η) : Prop :=
  P process.store process.events

section Steps

variable {env : SiteEnv} {P I : SharedCaddy η → List (SiteEvent η) → Prop}
  {Q : Option SiteError → SharedCaddy η → List (SiteEvent η) → Prop} {journal : CaddySiteJournal η}

theorem nextFate_triple (hI : ∀ s events, P s events → I s events) :
    Triple (On P) (nextFate env : SiteOp η Fate) (fun _ => On P) (On I) := by
  refine Triple.get_bind fun process hprocess => ?_
  refine Triple.bind (fun _ => On P) (Triple.of_set fun _ _ => hprocess) fun _ => ?_
  exact Triple.of_ite (fun _ => Triple.of_throw fun _ h => hI _ _ h) fun _ => Triple.of_pure fun _ h => h

theorem effect_triple {change : SharedCaddy η → SharedCaddy η} {event : SiteEvent η} {R : SharedCaddy η → List (SiteEvent η) → Prop}
    (h : ∀ s events, P s events → R (change s) (event :: events)) :
    Triple (On P) (effect change event) (fun _ => On R) (On I) :=
  Triple.of_modify fun _ hprocess => h _ _ hprocess

/-- Reading changes nothing. -/
theorem sharedCaddyJournals_triple (hI : ∀ s events, P s events → I s events) :
    Triple (On P) (sharedCaddyJournals env) (fun states process => On P process ∧
      ∀ rows, states = .ok rows → rows = process.store.journals) (On I) := by
  refine Triple.bind (fun _ => On P) (nextFate_triple hI) fun fate => ?_
  refine Triple.get_bind fun process hprocess => Triple.of_pure ?_
  rintro _ rfl
  refine ⟨hprocess, fun rows hrows => ?_⟩
  split at hrows
  · exact (Except.ok.inj hrows).symm
  · cases hrows

theorem readCaddySite_triple (id : String) (hI : ∀ s events, P s events → I s events) :
    Triple (On P) (readCaddySite env id) (fun previous process => On P process ∧
      ∀ row, previous = .ok row → row = process.store.journal id) (On I) := by
  refine Triple.bind (fun _ => On P) (nextFate_triple hI) fun fate => ?_
  refine Triple.get_bind fun process hprocess => Triple.of_pure ?_
  rintro _ rfl
  refine ⟨hprocess, fun row hrow => ?_⟩
  split at hrow
  · exact (Except.ok.inj hrow).symm
  · cases hrow

theorem saveCaddySite_triple (hI : ∀ s events, P s events → I s events)
    (hsaved : ∀ s events, P s events → Q none (s.save journal) (.saved journal :: events))
    (hfailed : ∀ s events, P s events → Q (some .environment) s events) :
    Triple (On P) (saveCaddySite env journal) (fun err => On (Q err)) (On I) := by
  refine Triple.bind (fun _ => On P) (nextFate_triple hI) fun fate => Triple.of_ite (fun _ => ?_) fun _ => ?_
  · exact Triple.bind (fun _ => On (Q none)) (effect_triple hsaved) fun _ => Triple.of_pure fun _ h => h
  · exact Triple.of_pure fun process h => hfailed _ _ h

theorem reloadSharedCaddy_triple (hI : ∀ s events, P s events → I s events)
    (hloaded : ∀ s events, P s events → Q none s.load (.reloaded true :: events))
    (hlate : ∀ s events, P s events → Q (some .environment) s.load (.reloaded false :: events))
    (hfailed : ∀ s events, P s events → Q (some .environment) s (.reloaded false :: events)) :
    Triple (On P) (reloadSharedCaddy env) (fun err => On (Q err)) (On I) := by
  refine Triple.bind (fun _ => On P) (nextFate_triple hI) fun fate => Triple.of_ite (fun _ => ?_) fun _ => ?_
  · exact Triple.bind (fun _ => On (Q none)) (effect_triple hloaded) fun _ => Triple.of_pure fun _ h => h
  · refine Triple.bind (fun _ => On (Q (some .environment))) (effect_triple fun s events h => ?_) fun _ =>
      Triple.of_pure fun _ h => h
    split
    · exact hlate s events h
    · exact hfailed s events h

theorem verifySite_triple (hI : ∀ s events, P s events → I s events)
    (hverified : ∀ s events, P s events → Q none s (.verified true :: events))
    (hfailed : ∀ s events, P s events → Q (some .environment) s (.verified false :: events)) :
    Triple (On P) (verifySite env) (fun err => On (Q err)) (On I) := by
  refine Triple.bind (fun _ => On P) (nextFate_triple hI) fun fate => ?_
  by_cases hfate : fate = .succeeds
  · simp only [hfate, decide_true, if_true]
    exact Triple.bind (fun _ => On (Q none)) (effect_triple hverified) fun _ => Triple.of_pure fun _ h => h
  · simp only [hfate, decide_false, if_false]
    exact Triple.bind (fun _ => On (Q (some .environment))) (effect_triple hfailed) fun _ =>
      Triple.of_pure fun _ h => h

theorem verifyIfGiven_triple {verify : Bool} (hI : ∀ s events, P s events → I s events)
    (hverified : ∀ s events, P s events → Q none s (if verify then .verified true :: events else events))
    (hfailed : ∀ s events, P s events → Q (some .environment) s (.verified false :: events)) :
    Triple (On P) (verifyIfGiven env verify) (fun err => On (Q err)) (On I) := by
  refine Triple.of_ite (fun hverify => ?_) fun hverify => ?_
  · simp only [hverify, if_true] at hverified
    exact verifySite_triple hI hverified hfailed
  · simp only [hverify] at hverified
    exact Triple.of_pure fun process h => hverified _ _ h

end Steps

/-! ## An update -/

/-- A store is consistent with what a call has committed so far, and a commit leaves nothing under way. -/
def Held (call : SiteCall) (committed : String → Option CaddySite) (s : SharedCaddy η)
    (events : List (SiteEvent η)) : Prop :=
  Consistent (call.commit events committed) s ∧ (call.commit events committed = committed ∨ s.AllApplied)

section Update

variable {env : SiteEnv} {id : String} {candidate : Option CaddySite} {verify : Bool}
  {committed : String → Option CaddySite} {s : SharedCaddy η} {events : List (SiteEvent η)}
  {state journal : CaddySiteJournal η}

theorem candidateSaved_saved (h : journal.state ≠ .applied ∨ journal.site ≠ candidate) :
    candidateSaved id candidate verify (.saved journal :: events) = false := by
  unfold candidateSaved
  split
  · next heq =>
      obtain rfl := SiteEvent.saved.inj (List.cons.inj heq).1
      grind
  · next heq =>
      obtain rfl := SiteEvent.saved.inj (List.cons.inj heq).1
      grind
  · rfl

/-- A store that has committed nothing new. -/
def Uncommitted (id : String) (candidate : Option CaddySite) (verify : Bool) (committed : String → Option CaddySite)
    (s : SharedCaddy η) (events : List (SiteEvent η)) : Prop :=
  Consistent committed s ∧ candidateSaved id candidate verify events = false

theorem Uncommitted.held (h : Uncommitted id candidate verify committed s events) :
    Held (.update id candidate verify) committed s events := by
  have hcommit : (SiteCall.update id candidate verify).commit events committed = committed := by
    rw [SiteCall.commit, h.2, if_neg Bool.false_ne_true]
  rw [Held, hcommit]
  exact ⟨h.1, Or.inl rfl⟩

def OthersApplied (id : String) (s : SharedCaddy η) : Prop :=
  ∀ journal ∈ s.journals, journal.applicationID ≠ id → journal.state = .applied

/-- The record that commits a candidate. -/
theorem held_commit (h : Consistent committed s) (hloaded : s.loaded = s.sites)
    (hjournal : journal.applicationID = id ∧ journal.state = .applied ∧ journal.site = candidate)
    (hsite : s.site id = candidate) (hothers : OthersApplied id s)
    (hsaved : candidateSaved id candidate verify events = true) :
    Held (.update id candidate verify) committed (s.save journal) events := by
  obtain ⟨rfl, hstate, rfl⟩ := hjournal
  rw [Held, SiteCall.commit, if_pos hsaved]
  refine ⟨⟨fun other => ?_, fun _ => ?_⟩, Or.inr fun row hrow => ?_⟩
  · by_cases hother : other = journal.applicationID
    · rw [hother, Function.update_self, SharedCaddy.target_of_mem (SharedCaddy.mem_save_self journal s),
        SharedCaddy.recover_of_ne (by rw [hstate]; decide)]
    · rw [Function.update_of_ne hother, SharedCaddy.target, SharedCaddy.journal_save_of_ne hother]
      exact h.target other
  · rw [SharedCaddy.sites_save hsite]
    exact hloaded
  · rcases SharedCaddy.mem_save.1 hrow with rfl | ⟨hmem, hne⟩
    · exact hstate
    · exact hothers row hmem hne

theorem commitCandidate_triple (hid : state.applicationID = id) (hsite : state.site = candidate) :
    Triple (On fun s events => Uncommitted id candidate verify committed s events ∧ s.site id = candidate ∧
        OthersApplied id s)
      (commitCandidate env state verify)
      (fun err => On fun s events => match err with
        | none => Held (.update id candidate verify) committed s events
        | some _ => Uncommitted id candidate verify committed s events)
      (On (Held (.update id candidate verify) committed)) := by
  let applied : CaddySiteJournal η := { state with state := .applied }
  -- After the reload and the probe the next save commits.
  let Ready (s : SharedCaddy η) (events : List (SiteEvent η)) : Prop :=
    Uncommitted id candidate verify committed s events ∧ (s.site id = candidate ∧ OthersApplied id s) ∧
      s.loaded = s.sites ∧ candidateSaved id candidate verify (.saved applied :: events) = true
  let Reloaded (err : Option SiteError) (s : SharedCaddy η) (events : List (SiteEvent η)) : Prop :=
    Uncommitted id candidate verify committed s events ∧
      (err = none → (s.site id = candidate ∧ OthersApplied id s) ∧ s.loaded = s.sites ∧
        ∃ rest, events = .reloaded true :: rest)
  refine Triple.bind (fun err => On (Reloaded err)) ?_ fun err => ?_
  · refine reloadSharedCaddy_triple (fun s events h => h.1.held) (fun s events h => ?_) (fun s events h => ?_)
      fun s events h => ?_
    · exact ⟨⟨h.1.1.load, rfl⟩, fun _ => ⟨h.2, rfl, events, rfl⟩⟩
    · exact ⟨⟨h.1.1.load, rfl⟩, fun hnone => by cases hnone⟩
    · exact ⟨⟨h.1.1, rfl⟩, fun hnone => by cases hnone⟩
  cases err with
  | some err => exact Triple.of_pure fun process h => h.1
  | none =>
      let Probed (err : Option SiteError) (s : SharedCaddy η) (events : List (SiteEvent η)) : Prop :=
        match err with
        | none => Ready s events
        | some _ => Uncommitted id candidate verify committed s events
      refine Triple.bind (fun err => On (Probed err)) ?_ fun err => ?_
      · refine verifyIfGiven_triple (fun s events h => h.1.held) (fun s events h => ?_) fun s events h => ⟨h.1.1, rfl⟩
        obtain ⟨hsame, hloaded, rest, rfl⟩ := h.2 rfl
        cases verify with
        | true => exact ⟨⟨h.1.1, rfl⟩, hsame, hloaded, by simp [candidateSaved, applied, hid, hsite]⟩
        | false => exact ⟨h.1, hsame, hloaded, by simp [candidateSaved, applied, hid, hsite]⟩
      · cases err with
        | some err => exact Triple.of_pure fun process h => h
        | none =>
            exact saveCaddySite_triple (fun s events h => h.1.held)
              (fun s events h => held_commit h.1.1 h.2.2.1 ⟨hid, rfl, hsite⟩ h.2.1.1 h.2.1.2 h.2.2.2)
              fun s events h => h.1

theorem recoverPrevious_triple {err : SiteError} (hid : state.applicationID = id)
    (hprevious : state.previous = committed id) (hchanged : committed id ≠ candidate) :
    Triple (On (Uncommitted id candidate verify committed)) (recoverPrevious env state err)
      (fun _ => On (Held (.update id candidate verify) committed))
      (On (Held (.update id candidate verify) committed)) := by
  let recovering : CaddySiteJournal η := { state with site := state.previous, previous := none, state := .recovering }
  let applied : CaddySiteJournal η := { recovering with state := .applied }
  let Recorded (err : Option SiteError) (s : SharedCaddy η) (events : List (SiteEvent η)) : Prop :=
    Uncommitted id candidate verify committed s events ∧ (err = none → s.site id = committed id)
  refine Triple.bind (fun err => On (Recorded err)) ?_ fun err => ?_
  · refine saveCaddySite_triple (fun s events h => h.held) (fun s events h => ?_) fun s events h =>
      ⟨h, fun hnone => by cases hnone⟩
    have hsite : recovering.recover.site = committed recovering.applicationID := hprevious.trans (congrArg committed hid.symm)
    have hstate : recovering.state ≠ .applied := fun heq => by cases heq
    refine ⟨⟨h.1.save_open hstate hsite, candidateSaved_saved (Or.inl hstate)⟩, fun _ => ?_⟩
    have hjournal : (s.save recovering).journal id = some recovering := hid ▸ SharedCaddy.journal_save_self
    rw [SharedCaddy.site, hjournal]
    exact hprevious
  cases err with
  | some err => exact Triple.of_pure fun process h => h.1.held
  | none =>
      let Reloaded (err : Option SiteError) (s : SharedCaddy η) (events : List (SiteEvent η)) : Prop :=
        Uncommitted id candidate verify committed s events ∧
          (err = none → s.site id = committed id ∧ s.loaded = s.sites)
      refine Triple.bind (fun err => On (Reloaded err)) ?_ fun err => ?_
      · exact reloadSharedCaddy_triple (fun s events h => h.1.held)
          (fun s events h => ⟨⟨h.1.1.load, rfl⟩, fun _ => ⟨h.2 rfl, rfl⟩⟩)
          (fun s events h => ⟨⟨h.1.1.load, rfl⟩, fun hnone => by cases hnone⟩)
          fun s events h => ⟨⟨h.1.1, rfl⟩, fun hnone => by cases hnone⟩
      · cases err with
        | some err => exact Triple.of_pure fun process h => h.1.held
        | none =>
            refine Triple.bind (fun _ => On (Held (.update id candidate verify) committed)) ?_ fun _ =>
              Triple.of_pure fun _ h => h
            refine saveCaddySite_triple (Q := fun _ => Held (.update id candidate verify) committed)
              (fun s events h => h.1.held) (fun s events h => ?_) fun s events h => h.1.held
            obtain ⟨hsite, hloaded⟩ := h.2 rfl
            refine Uncommitted.held ⟨h.1.1.save_applied hloaded rfl ?_ ?_, candidateSaved_saved (Or.inr ?_)⟩
            · exact (congrArg s.site hid).trans (hsite.trans hprevious.symm)
            · exact hprevious.trans (congrArg committed hid.symm)
            · exact fun heq => hchanged (hprevious.symm.trans heq)

theorem allApplied_of_not_any {states : List (CaddySiteJournal η)}
    (h : ¬ (states.any fun state => state.state != .applied) = true) : ∀ state ∈ states, state.state = .applied := by
  intro state hstate
  by_contra hne
  exact h (List.any_eq_true.2 ⟨state, hstate, by simpa using hne⟩)

/-- The update from where the journal of its application was read. -/
theorem update_read_triple {previous : Option (CaddySiteJournal η)} (hprevious : previous.bind CaddySiteJournal.site = committed id)
    (hchanged : siteText (committed id) ≠ siteText candidate) :
    Triple (On fun s events => (Consistent committed s ∧ events = []) ∧ s.AllApplied)
      (do
        let state : CaddySiteJournal η :=
          ⟨id, .applying, candidate, previous.bind CaddySiteJournal.site, previous.bind CaddySiteJournal.handover⟩
        match ← saveCaddySite env state with
        | some err => return some err
        | none =>
            match ← commitCandidate env state verify with
            | none => return none
            | some err => recoverPrevious env state err)
      (fun _ => On (Held (.update id candidate verify) committed))
      (On (Held (.update id candidate verify) committed)) := by
  let state : CaddySiteJournal η :=
    ⟨id, .applying, candidate, previous.bind CaddySiteJournal.site, previous.bind CaddySiteJournal.handover⟩
  let Recorded (err : Option SiteError) (s : SharedCaddy η) (events : List (SiteEvent η)) : Prop :=
    Uncommitted id candidate verify committed s events ∧
      (err = none → s.site id = candidate ∧ OthersApplied id s)
  refine Triple.bind (fun err => On (Recorded err)) ?_ fun err => ?_
  · refine saveCaddySite_triple ?_ ?_ ?_
    · rintro s events ⟨⟨h, rfl⟩, -⟩
      exact Uncommitted.held ⟨h, rfl⟩
    · rintro s events ⟨⟨h, rfl⟩, happlied⟩
      have hstate : state.state ≠ .applied := fun heq => by cases heq
      refine ⟨⟨h.save_open hstate hprevious, candidateSaved_saved (Or.inl hstate)⟩, fun _ => ?_⟩
      have hjournal : (s.save state).journal id = some state := SharedCaddy.journal_save_self
      refine ⟨by rw [SharedCaddy.site, hjournal]; rfl, fun row hrow hne => ?_⟩
      rcases SharedCaddy.mem_save.1 hrow with rfl | ⟨hmem, -⟩
      · exact absurd rfl hne
      · exact happlied row hmem
    · rintro s events ⟨⟨h, rfl⟩, -⟩
      exact ⟨⟨h, rfl⟩, fun hnone => by cases hnone⟩
  cases err with
  | some err => exact Triple.of_pure fun _ h => h.1.held
  | none =>
      refine Triple.bind _ ((commitCandidate_triple rfl rfl).weaken (fun _ h => ⟨h.1, h.2 rfl⟩) (fun _ _ h => h)
        fun _ h => h) fun err => ?_
      cases err with
      | none => exact Triple.of_pure fun _ h => h
      | some err => exact recoverPrevious_triple rfl hprevious fun heq => hchanged (congrArg siteText heq)

theorem updateCaddySite_triple (env : SiteEnv) (id : String) (candidate : Option CaddySite) (verify : Bool)
    (committed : String → Option CaddySite) :
    Triple (On fun s events => Consistent committed s ∧ events = []) (updateCaddySite env id candidate verify)
      (fun _ => On fun (s : SharedCaddy η) events => Held (.update id candidate verify) committed s events)
      (On (Held (.update id candidate verify) committed)) := by
  have hstart : ∀ (s : SharedCaddy η) events, Consistent committed s ∧ events = [] →
      Held (.update id candidate verify) committed s events := by
    rintro s events ⟨h, rfl⟩
    exact Uncommitted.held ⟨h, rfl⟩
  refine Triple.of_ite (fun _ => Triple.of_pure fun _ h => hstart _ _ h) fun _ => ?_
  refine Triple.of_ite (fun _ => Triple.of_pure fun _ h => hstart _ _ h) fun _ => ?_
  refine Triple.bind _ (sharedCaddyJournals_triple hstart) fun states => ?_
  cases states with
  | error err => exact Triple.of_pure fun _ h => hstart _ _ h.1
  | ok states =>
      refine Triple.of_ite (fun _ => Triple.of_pure fun _ h => hstart _ _ h.1) fun hstates => ?_
      -- All journals are applied from here on, so they hold what was committed.
      let Idle (s : SharedCaddy η) (events : List (SiteEvent η)) : Prop :=
        (Consistent committed s ∧ events = []) ∧ s.AllApplied
      have happlied := allApplied_of_not_any hstates
      have hidle : ∀ process : SiteProcess η, Consistent committed process.store ∧ process.events = [] →
          states = process.store.journals → On Idle process :=
        fun process h hrows => ⟨h, fun journal hjournal => happlied journal (hrows ▸ hjournal)⟩
      refine Triple.weaken (Triple.bind _ (readCaddySite_triple id fun s events h => hstart s events h.1)
        fun previous => ?_) (fun process h => hidle process h.1 (h.2 states rfl)) (fun _ _ h => h) fun _ h => h
      cases previous with
      | error err => exact Triple.of_pure fun _ h => hstart _ _ h.1.1
      | ok previous =>
          refine Triple.of_fact (p := previous.bind CaddySiteJournal.site = committed id) ?_ fun hprevious => ?_
          · rintro process ⟨⟨h, happlied⟩, hrow⟩
            rw [hrow previous rfl, ← h.1.target, happlied.target_eq_site]
            rfl
          refine Triple.of_ite (fun _ => ?_) fun hchanged => ?_
          · refine (verifyIfGiven_triple (Q := fun _ => Held (.update id candidate verify) committed) hstart
              ?_ ?_).weaken (fun _ h => h.1.1) (fun _ _ h => h) fun _ h => h
            · rintro s events ⟨h, rfl⟩
              cases verify with
              | true => exact Uncommitted.held ⟨h, rfl⟩
              | false => exact Uncommitted.held ⟨h, rfl⟩
            · rintro s events ⟨h, rfl⟩
              exact Uncommitted.held ⟨h, rfl⟩
          · exact (update_read_triple hprevious (hprevious ▸ hchanged)).weaken (fun _ h => h.1) (fun _ _ h => h)
              fun _ h => h

/-- An update does nothing while another one is interrupted. -/
theorem updateCaddySite_interrupted (h : ¬ s.AllApplied) :
    Triple (On fun s' events => s' = s ∧ events = []) (updateCaddySite env id candidate verify)
      (fun _ => On fun s' events => s' = s ∧ events = []) (On fun s' events => s' = s ∧ events = []) := by
  refine Triple.of_ite (fun _ => Triple.of_pure fun _ hs => hs) fun _ => ?_
  refine Triple.of_ite (fun _ => Triple.of_pure fun _ hs => hs) fun _ => ?_
  refine Triple.bind _ (sharedCaddyJournals_triple fun _ _ hs => hs) fun states => ?_
  cases states with
  | error err => exact Triple.of_pure fun _ hs => hs.1
  | ok states =>
      refine Triple.of_ite (fun _ => Triple.of_pure fun _ hs => hs.1) fun hstates => ?_
      rintro process ⟨⟨hstore, -⟩, hrows⟩
      refine absurd (fun journal hjournal => ?_) h
      refine allApplied_of_not_any hstates journal ?_
      rwa [hrows states rfl, hstore]

end Update

/-! ## Recovery -/

section Restore

variable {env : SiteEnv} {committed : String → Option CaddySite} {s : SharedCaddy η}

/-- A loop of saves, with a condition on the store and the saves to come. -/
theorem saveCaddySites_triple {P : List (CaddySiteJournal η) → SharedCaddy η → Prop} {I : SharedCaddy η → Prop}
    (hstep : ∀ state states s, P (state :: states) s → P states (s.save state)) (hI : ∀ states s, P states s → I s)
    (states : List (CaddySiteJournal η)) :
    Triple (On fun s _ => P states s) (saveCaddySites env states)
      (fun err => On fun s _ => I s ∧ (err = none → P [] s)) (On fun s _ => I s) := by
  induction states with
  | nil => exact Triple.of_pure fun process h => ⟨hI _ _ h, fun _ => h⟩
  | cons state states ih =>
      refine Triple.bind (fun err => On fun s _ => I s ∧ (err = none → P states s)) ?_ fun err => ?_
      · exact saveCaddySite_triple (Q := fun err s _ => I s ∧ (err = none → P states s)) (fun s _ h => hI _ s h)
          (fun s _ h => ⟨hI _ _ (hstep state states s h), fun _ => hstep state states s h⟩)
          fun s _ h => ⟨hI _ s h, fun hnone => by cases hnone⟩
      · cases err with
        | some err => exact Triple.of_pure fun process h => ⟨h.1, fun hnone => by cases hnone⟩
        | none => exact ih.weaken (fun _ h => h.2 rfl) (fun _ _ h => h) fun _ h => h

/-- Before the reload: `states` are still to be recorded, and nothing outside `all` is under way. -/
structure TakingBack (committed : String → Option CaddySite) (all : List String)
    (states : List (CaddySiteJournal η)) (s : SharedCaddy η) : Prop where
  consistent : Consistent committed s
  recovering : ∀ state ∈ states, state.state = .recovering ∧ state.site = committed state.applicationID
  listed : ∀ state ∈ states, state.applicationID ∈ all
  applying : ∀ journal ∈ s.journals, journal.state = .applying →
    journal.applicationID ∈ states.map CaddySiteJournal.applicationID
  interrupted : ∀ journal ∈ s.journals, journal.state ≠ .applied → journal.applicationID ∈ all

theorem TakingBack.step {all : List String} {state : CaddySiteJournal η} {states : List (CaddySiteJournal η)}
    (h : TakingBack committed all (state :: states) s) : TakingBack committed all states (s.save state) := by
  obtain ⟨hstate, hsite⟩ := h.recovering state List.mem_cons_self
  have hrecover : state.recover = state := SharedCaddy.recover_of_ne (by rw [hstate]; decide)
  refine ⟨h.consistent.save_open (by rw [hstate]; decide) (by rw [hrecover]; exact hsite),
    fun other hother => h.recovering other (List.mem_cons_of_mem _ hother),
    fun other hother => h.listed other (List.mem_cons_of_mem _ hother), fun journal hjournal happlying => ?_,
    fun journal hjournal hopen => ?_⟩
  · rcases SharedCaddy.mem_save.1 hjournal with rfl | ⟨hmem, hne⟩
    · exact absurd (happlying.symm.trans hstate) (by decide)
    · exact (List.mem_cons.1 (h.applying journal hmem happlying)).resolve_left hne
  · rcases SharedCaddy.mem_save.1 hjournal with rfl | ⟨hmem, -⟩
    · exact h.listed _ List.mem_cons_self
    · exact h.interrupted journal hmem hopen

/-- After the reload: only `states` are still to be recorded as applied. -/
structure Finishing (committed : String → Option CaddySite) (states : List (CaddySiteJournal η))
    (s : SharedCaddy η) : Prop where
  target : ∀ id, s.target id = committed id
  loaded : s.loaded = s.sites
  applied : ∀ state ∈ states, state.state = .applied ∧ state.site = committed state.applicationID
  notApplying : ∀ journal ∈ s.journals, journal.state ≠ .applying
  interrupted : ∀ journal ∈ s.journals, journal.state ≠ .applied →
    journal.applicationID ∈ states.map CaddySiteJournal.applicationID

theorem Finishing.step {state : CaddySiteJournal η} {states : List (CaddySiteJournal η)}
    (h : Finishing committed (state :: states) s) : Finishing committed states (s.save state) := by
  obtain ⟨hstate, hsite⟩ := h.applied state List.mem_cons_self
  have hrecover : state.recover = state := SharedCaddy.recover_of_ne (by rw [hstate]; decide)
  have hsame : s.site state.applicationID = state.site := by
    rw [hsite, ← h.target, SharedCaddy.target_eq_site h.notApplying]
  refine ⟨SharedCaddy.target_save h.target (by rw [hrecover]; exact hsite), ?_,
    fun other hother => h.applied other (List.mem_cons_of_mem _ hother), fun journal hjournal => ?_,
    fun journal hjournal hopen => ?_⟩
  · rw [SharedCaddy.sites_save hsame]
    exact h.loaded
  · rcases SharedCaddy.mem_save.1 hjournal with rfl | ⟨hmem, -⟩
    · rw [hstate]
      decide
    · exact h.notApplying journal hmem
  · rcases SharedCaddy.mem_save.1 hjournal with rfl | ⟨hmem, hne⟩
    · exact absurd hstate hopen
    · exact (List.mem_cons.1 (h.interrupted journal hmem hopen)).resolve_left hne

theorem recover_applicationID (journal : CaddySiteJournal η) : journal.recover.applicationID = journal.applicationID := by
  unfold CaddySiteJournal.recover
  split <;> rfl

theorem recover_state (journal : CaddySiteJournal η) (h : journal.state ≠ .applied) :
    journal.recover.state = .recovering := by
  unfold CaddySiteJournal.recover
  cases hstate : journal.state with
  | applied => exact absurd hstate h
  | applying => rw [if_pos rfl]
  | recovering => rw [if_neg (by decide), hstate]

/-- The journals of a store that recovery takes back. -/
def interruptedOf (states : List (CaddySiteJournal η)) : List (CaddySiteJournal η) :=
  (states.map CaddySiteJournal.recover).filter fun state => state.state = .recovering

theorem takingBack_start (h : Consistent committed s) : TakingBack committed
    ((interruptedOf s.journals).map CaddySiteJournal.applicationID) (interruptedOf s.journals) s := by
  have hlisted : ∀ journal ∈ s.journals, journal.state ≠ .applied →
      journal.applicationID ∈ (interruptedOf s.journals).map CaddySiteJournal.applicationID := by
    intro journal hjournal hopen
    refine List.mem_map.2 ⟨journal.recover, List.mem_filter.2 ⟨List.mem_map_of_mem hjournal, ?_⟩,
      recover_applicationID journal⟩
    exact decide_eq_true (recover_state journal hopen)
  refine ⟨h, fun state hstate => ?_, fun state hstate => List.mem_map_of_mem hstate,
    fun journal hjournal happlying => hlisted journal hjournal (by rw [happlying]; decide), hlisted⟩
  obtain ⟨hmem, hrecovering⟩ := List.mem_filter.1 hstate
  obtain ⟨journal, hjournal, rfl⟩ := List.mem_map.1 hmem
  refine ⟨of_decide_eq_true hrecovering, ?_⟩
  rw [recover_applicationID, ← h.target, SharedCaddy.target_of_mem hjournal]

theorem TakingBack.finishing {states : List (CaddySiteJournal η)}
    (hstates : ∀ state ∈ states, state.state = .recovering ∧ state.site = committed state.applicationID)
    (h : TakingBack committed (states.map CaddySiteJournal.applicationID) [] s) :
    Finishing committed (states.map fun state => { state with state := .applied }) s.load := by
  refine ⟨h.consistent.target, rfl, fun state hstate => ?_, fun journal hjournal happlying => ?_,
    fun journal hjournal hopen => ?_⟩
  · obtain ⟨state', hstate', rfl⟩ := List.mem_map.1 hstate
    exact ⟨rfl, (hstates state' hstate').2⟩
  · exact absurd (h.applying journal hjournal happlying) List.not_mem_nil
  · rw [List.map_map]
    exact h.interrupted journal hjournal hopen

theorem restoreSharedCaddySites_triple (env : SiteEnv) (committed : String → Option CaddySite) :
    Triple (On fun s _ => Consistent committed s) (restoreSharedCaddySites env : SiteOp η _)
      (fun err => On fun s _ => Consistent committed s ∧ (err = none → s.AllApplied))
      (On fun s _ => Consistent committed s) := by
  refine Triple.bind _ (sharedCaddyJournals_triple fun _ _ h => h) fun states => ?_
  cases states with
  | error err => exact Triple.of_pure fun _ h => ⟨h.1, fun hnone => by cases hnone⟩
  | ok states =>
      refine Triple.of_ite (fun happlied => ?_) fun _ => ?_
      · refine Triple.of_pure fun process h => ⟨h.1, fun _ journal hjournal => ?_⟩
        exact allApplied_of_not_any (by simpa using happlied) journal (h.2 states rfl ▸ hjournal)
      refine Triple.of_ite (fun _ => Triple.of_pure fun _ h => ⟨h.1, fun hnone => by cases hnone⟩) fun _ => ?_
      let all := (interruptedOf states).map CaddySiteJournal.applicationID
      refine Triple.of_fact (p := ∀ state ∈ interruptedOf states,
        state.state = .recovering ∧ state.site = committed state.applicationID) ?_ fun hstates => ?_
      · rintro process ⟨h, hrows⟩
        rw [hrows states rfl]
        exact (takingBack_start h).recovering
      refine Triple.bind _ ((saveCaddySites_triple (P := TakingBack committed all) (I := Consistent committed)
        (fun _ _ _ h => h.step) (fun _ _ h => h.consistent) (interruptedOf states)).weaken ?_ (fun _ _ h => h)
        fun _ h => h) fun err => ?_
      · rintro process ⟨h, hrows⟩
        have hstart := takingBack_start h
        rw [← hrows states rfl] at hstart
        exact hstart
      cases err with
      | some err => exact Triple.of_pure fun _ h => ⟨h.1, fun hnone => by cases hnone⟩
      | none =>
          let applied := (interruptedOf states).map fun state => { state with state := SiteState.applied }
          refine Triple.bind (fun err => On fun s _ => Consistent committed s ∧ (err = none → Finishing committed applied s))
            ?_ fun err => ?_
          · exact reloadSharedCaddy_triple
              (Q := fun err s _ => Consistent committed s ∧ (err = none → Finishing committed applied s))
              (fun _ _ h => h.1) (fun s _ h => ⟨h.1.load, fun _ => (h.2 rfl).finishing hstates⟩)
              (fun s _ h => ⟨h.1.load, fun hnone => by cases hnone⟩) fun s _ h => ⟨h.1, fun hnone => by cases hnone⟩
          · cases err with
            | some err => exact Triple.of_pure fun _ h => ⟨h.1, fun hnone => by cases hnone⟩
            | none =>
                refine (saveCaddySites_triple (P := Finishing committed) (I := Consistent committed)
                  (fun _ _ _ h => h.step) (fun _ _ h => ⟨h.target, fun _ => h.loaded⟩) applied).weaken
                  (fun _ h => h.2 rfl) (fun err process h => ⟨h.1, fun hnone journal hjournal => ?_⟩) fun _ h => h
                by_contra hopen
                exact absurd ((h.2 hnone).interrupted journal hjournal hopen) List.not_mem_nil

end Restore

/-! ## Recovery without failures -/

/-- Caddy is configured and no step fails. -/
structure SiteEnv.Clean (env : SiteEnv) : Prop where
  sharedCaddy : env.sharedCaddy = true
  fates : ∀ n, env.fates n = .succeeds

section Clean

variable {env : SiteEnv}

theorem nextFate_clean (h : env.Clean) : Triple (fun _ => True) (nextFate env : SiteOp η Fate)
    (fun fate _ => fate = .succeeds) (fun _ => False) := by
  refine Triple.get_bind fun process _ => ?_
  refine Triple.bind (fun _ _ => True) (Triple.of_set fun _ _ => trivial) fun _ => ?_
  refine Triple.of_ite (fun hcrash => ?_) fun _ => Triple.of_pure fun _ _ => h.fates _
  exact absurd ((h.fates _).symm.trans hcrash) (by decide)

theorem sharedCaddyJournals_clean (h : env.Clean) : Triple (fun _ => True)
    (sharedCaddyJournals env : SiteOp η _) (fun states _ => ∃ rows, states = .ok rows) (fun _ => False) := by
  refine Triple.bind _ (nextFate_clean h) fun fate => Triple.get_bind fun process hfate => Triple.of_pure ?_
  rintro _ rfl
  exact ⟨_, if_pos hfate⟩

theorem saveCaddySite_clean (h : env.Clean) (journal : CaddySiteJournal η) : Triple (fun _ => True)
    (saveCaddySite env journal) (fun err _ => err = none) (fun _ => False) := by
  refine Triple.bind _ (nextFate_clean h) fun fate => Triple.of_ite (fun _ => ?_) fun hne => ?_
  · exact Triple.bind (fun _ _ => True) (Triple.of_modify fun _ _ => trivial) fun _ => Triple.of_pure fun _ _ => rfl
  · exact Triple.of_pure fun _ heq => absurd heq hne

theorem reloadSharedCaddy_clean (h : env.Clean) : Triple (fun _ => True)
    (reloadSharedCaddy env : SiteOp η _) (fun err _ => err = none) (fun _ => False) := by
  refine Triple.bind _ (nextFate_clean h) fun fate => Triple.of_ite (fun _ => ?_) fun hne => ?_
  · exact Triple.bind (fun _ _ => True) (Triple.of_modify fun _ _ => trivial) fun _ => Triple.of_pure fun _ _ => rfl
  · exact Triple.of_fact (fun _ heq => hne heq) False.elim

theorem saveCaddySites_clean (h : env.Clean) (states : List (CaddySiteJournal η)) : Triple (fun _ => True)
    (saveCaddySites env states) (fun err _ => err = none) (fun _ => False) := by
  induction states with
  | nil => exact Triple.of_pure fun _ _ => rfl
  | cons state states ih =>
      refine Triple.bind _ (saveCaddySite_clean h state) fun err => Triple.of_fact (fun _ herr => herr) ?_
      rintro rfl
      exact ih.weaken (fun _ _ => trivial) (fun _ _ hnone => hnone) fun _ hfail => hfail

theorem restoreSharedCaddySites_clean (h : env.Clean) : Triple (fun _ => True)
    (restoreSharedCaddySites env : SiteOp η _) (fun err _ => err = none) (fun _ => False) := by
  refine Triple.bind _ (sharedCaddyJournals_clean h) fun states => Triple.of_fact (fun _ hok => hok) ?_
  rintro ⟨rows, rfl⟩
  refine Triple.of_ite (fun _ => Triple.of_pure fun _ _ => rfl) fun _ => ?_
  refine Triple.of_ite (fun hnone => absurd hnone (by simp [h.sharedCaddy])) fun _ => ?_
  refine Triple.bind _ ((saveCaddySites_clean h _).weaken (fun _ _ => trivial) (fun _ _ herr => herr)
    fun _ hfail => hfail) fun err => Triple.of_fact (fun _ herr => herr) ?_
  rintro rfl
  refine Triple.bind _ ((reloadSharedCaddy_clean h).weaken (fun _ _ => trivial) (fun _ _ herr => herr)
    fun _ hfail => hfail) fun err => Triple.of_fact (fun _ herr => herr) ?_
  rintro rfl
  exact (saveCaddySites_clean h _).weaken (fun _ _ => trivial) (fun _ _ hnone => hnone) fun _ hfail => hfail

/-- A recovery in which no step fails ends with what was committed. -/
theorem restore_clean {committed : String → Option CaddySite} {s : SharedCaddy η} (h : env.Clean)
    (hs : Consistent committed s) : ∃ process, (SiteCall.restore.op env) ⟨s, 0, []⟩ = .ok none process ∧
      process.store.AllApplied ∧ process.store.loaded = process.store.sites ∧
      ∀ id, process.store.site id = committed id := by
  have hend := restoreSharedCaddySites_triple env committed ⟨s, 0, []⟩ hs
  have hclean := restoreSharedCaddySites_clean h (⟨s, 0, []⟩ : SiteProcess η) trivial
  rw [SiteCall.op]
  cases hrun : restoreSharedCaddySites env (⟨s, 0, []⟩ : SiteProcess η) with
  | error err process =>
      rw [hrun] at hclean
      exact hclean.elim
  | ok err process =>
      rw [hrun] at hclean hend
      obtain rfl := hclean
      have happlied := hend.2 rfl
      exact ⟨process, rfl, happlied, hend.1.loaded happlied, fun id =>
        (happlied.target_eq_site id).symm.trans (hend.1.target id)⟩

end Clean

/-! ## Histories -/

section Histories

variable {committed : String → Option CaddySite} {s : SharedCaddy η}

/-- One call, cut anywhere. -/
theorem SiteCall.exec_held (env : SiteEnv) (call : SiteCall) (h : Consistent committed s) :
    Held call committed (call.exec env s).store (call.exec env s).events := by
  cases call with
  | update id candidate verify =>
      exact (updateCaddySite_triple env id candidate verify committed).of_finalState ⟨h, rfl⟩
  | restore =>
      have hend : Consistent committed (SiteCall.restore.exec env s).store :=
        ((restoreSharedCaddySites_triple env committed).weaken (fun _ hs => hs) (fun _ _ hs => hs.1) fun _ hs => hs).of_finalState h
      exact ⟨hend, Or.inl rfl⟩

theorem siteHistory_consistent (calls : List (SiteEnv × SiteCall)) (h : Consistent committed s) :
    Consistent (siteHistory calls s committed).2 (siteHistory calls s committed).1 := by
  induction calls generalizing s committed with
  | nil => exact h
  | cons call calls ih => exact ih (call.2.exec_held call.1 h).1

/-- Updates of websites are crash consistent: whatever calls are cut short, a clean restore loads what was committed. -/
theorem website_updates_crash_consistent {start : SharedCaddy η} (happlied : start.AllApplied)
    (hloaded : start.loaded = start.sites) (calls : List (SiteEnv × SiteCall))
    (hhistory : siteHistory calls start start.site = (s, committed)) :
    (s.AllApplied → s.loaded = s.sites ∧ ∀ id, s.site id = committed id) ∧
    (¬ s.AllApplied → ∀ env id candidate verify,
      ((SiteCall.update id candidate verify).exec env s).store = s ∧
        ((SiteCall.update id candidate verify).exec env s).events = []) ∧
    (∀ env : SiteEnv, env.Clean → ∃ process, (SiteCall.restore.op env) ⟨s, 0, []⟩ = .ok none process ∧
      process.store.AllApplied ∧ process.store.loaded = process.store.sites ∧
      ∀ id, process.store.site id = committed id) ∧
    (s.AllApplied → ∀ env call, ¬ (SiteCall.exec env call s).store.AllApplied → ∀ env' : SiteEnv, env'.Clean →
      ∃ process, (SiteCall.restore.op env') ⟨(call.exec env s).store, 0, []⟩ = .ok none process ∧
        process.store.AllApplied ∧ ∀ id, process.store.site id = s.site id) := by
  have hs : Consistent committed s := by
    have hstart : Consistent start.site start := ⟨fun id => happlied.target_eq_site id, fun _ => hloaded⟩
    have hend := siteHistory_consistent calls hstart
    rwa [hhistory] at hend
  have hsite : s.AllApplied → ∀ id, s.site id = committed id := fun hall id =>
    (hall.target_eq_site id).symm.trans (hs.target id)
  refine ⟨fun hall => ⟨hs.loaded hall, hsite hall⟩, fun hopen env id candidate verify => ?_,
    fun env hclean => restore_clean hclean hs, fun hall env call hcut env' hclean => ?_⟩
  · exact (updateCaddySite_interrupted hopen).of_finalState ⟨rfl, rfl⟩
  · -- The call was cut, so it has committed nothing.
    obtain ⟨hcall, hcommit⟩ := call.exec_held env hs
    rw [hcommit.resolve_right hcut] at hcall
    obtain ⟨process, hrun, hdone, -, hsame⟩ := restore_clean hclean hcall
    exact ⟨process, hrun, hdone, fun id => (hsame id).trans (hsite hall id).symm⟩

end Histories

/-! ## An update that is cut after its reload -/

namespace InterruptedUpdate

def site (html : String) : CaddySite :=
  ⟨"app", "www.example", "10.0.0.1", 8080, 0, "", html, ⟨"", "", ""⟩, "/usr/bin/caddy", ""⟩

def start : SharedCaddy Unit where
  journals := [⟨"app", .applied, some (site "old"), none, none⟩]
  loaded := [site "old"]
  ordered := List.pairwise_singleton _ _

/-- The agent dies before the probe. -/
def cut : SiteEnv := ⟨true, fun _ => true, fun n => if n = 4 then .crashes else .succeeds⟩

def calm : SiteEnv := ⟨true, fun _ => true, fun _ => .succeeds⟩

def calls : List (SiteEnv × SiteCall) := [(cut, .update "app" (some (site "new")) true)]

def stored : SharedCaddy Unit := (siteHistory calls start start.site).1

theorem interrupted_update_taken_back :
    ¬ stored.AllApplied ∧ stored.loaded = [site "new"] ∧
      ∃ process, (SiteCall.restore.op calm) ⟨stored, 0, []⟩ = .ok none process ∧
        process.store.AllApplied ∧ process.store.loaded = process.store.sites ∧
        ∀ id, process.store.site id = (siteHistory calls start start.site).2 id := by
  refine ⟨by decide +kernel, by decide +kernel, ?_⟩
  exact (website_updates_crash_consistent (by decide) rfl calls rfl).2.2.1 calm ⟨rfl, fun _ => rfl⟩

end InterruptedUpdate

end Agent
end Vastora
