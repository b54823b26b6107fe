import Vastora.Gateway.Model
import Vastora.Library.Triple

/-!
# CaddySiteStore — the journals of the shared websites

Every website of an application has a journal: what is to be served, what was served before, and whether the
update of it has come to its end.  `updateCaddySite` writes a journal, loads all websites into Caddy, and writes
the journal again; `restoreSharedCaddySites` takes interrupted updates back after a restart.

The agent can die before every step of them.  What the database, Caddy and the probe do, and where the agent
dies, is a sequence of fates, one for each step.
-/

namespace Vastora
namespace Agent

open Library Gateway

/-! ## Websites and their journals -/

structure CaddySite where
  applicationID : String
  hostname : String
  address : String
  httpPort : Int
  tlsPort : Int
  publicListen : String
  html : String
  certificate : Certificate
  caddyPath : String
  caddySHA256 : String
deriving DecidableEq

def CaddySite.json (site : CaddySite) : Json :=
  .object ([("applicationId", .string site.applicationID), ("hostname", .string site.hostname),
      ("address", .string site.address), ("httpPort", .int site.httpPort)] ++
    (if site.tlsPort = 0 then [] else [("tlsPort", .int site.tlsPort)]) ++
    omitEmpty "publicListen" site.publicListen ++
    [("html", .string site.html), ("certificate", site.certificate.json), ("caddyPath", .string site.caddyPath),
      ("caddySha256", .string site.caddySHA256)])

/-- What `json.Marshal` writes of a website or of none. -/
def siteText (site : Option CaddySite) : List Char := ((site.map CaddySite.json).getD .null).encode

inductive SiteState where
  | applied
  | applying
  | recovering
deriving DecidableEq

variable (η : Type) in
/-- A journal; `η` is the type of the handover that it carries along. -/
structure CaddySiteJournal where
  applicationID : String
  state : SiteState
  site : Option CaddySite
  previous : Option CaddySite
  handover : Option η
deriving DecidableEq

variable {η : Type}

/-- `ON CONFLICT(application_id) DO UPDATE` on rows that are read in the order of their keys. -/
def upsert (journal : CaddySiteJournal η) : List (CaddySiteJournal η) → List (CaddySiteJournal η)
  | [] => [journal]
  | row :: rows =>
      if journal.applicationID = row.applicationID then journal :: rows
      else if journal.applicationID < row.applicationID then journal :: row :: rows
      else row :: upsert journal rows

theorem mem_upsert {journal row : CaddySiteJournal η} {rows : List (CaddySiteJournal η)}
    (h : row ∈ upsert journal rows) : row = journal ∨ row ∈ rows := by
  induction rows with
  | nil => exact Or.inl (List.mem_singleton.1 h)
  | cons first rows ih =>
      unfold upsert at h
      split at h
      · exact (List.mem_cons.1 h).imp_right (List.mem_cons_of_mem _)
      · split at h
        · exact List.mem_cons.1 h
        · rcases List.mem_cons.1 h with rfl | h
          · exact Or.inr List.mem_cons_self
          · exact (ih h).imp_right (List.mem_cons_of_mem _)

theorem ordered_upsert (journal : CaddySiteJournal η) {rows : List (CaddySiteJournal η)}
    (h : rows.Pairwise fun a b => a.applicationID < b.applicationID) :
    (upsert journal rows).Pairwise fun a b => a.applicationID < b.applicationID := by
  induction rows with
  | nil => exact List.pairwise_singleton _ _
  | cons row rows ih =>
      rw [List.pairwise_cons] at h
      unfold upsert
      split
      · next heq => exact List.pairwise_cons.2 ⟨fun b hb => heq ▸ h.1 b hb, h.2⟩
      · next hne =>
          split
          · next hlt =>
              refine List.pairwise_cons.2 ⟨fun b hb => ?_, List.pairwise_cons.2 h⟩
              rcases List.mem_cons.1 hb with rfl | hb
              · exact hlt
              · exact hlt.trans (h.1 b hb)
          · next hlt =>
              refine List.pairwise_cons.2 ⟨fun b hb => ?_, ih h.2⟩
              rcases mem_upsert hb with rfl | hb
              · exact lt_of_le_of_ne (not_lt.1 hlt) (Ne.symm hne)
              · exact h.1 b hb

/-! ## What outlives the agent -/

variable (η) in
/-- The table of the journals, in the order of its keys, and the websites that Caddy serves. -/
structure SharedCaddy where
  journals : List (CaddySiteJournal η)
  loaded : List CaddySite
  ordered : journals.Pairwise fun a b => a.applicationID < b.applicationID

namespace SharedCaddy

def save (journal : CaddySiteJournal η) (s : SharedCaddy η) : SharedCaddy η where
  journals := upsert journal s.journals
  loaded := s.loaded
  ordered := ordered_upsert journal s.ordered

def journal (s : SharedCaddy η) (id : String) : Option (CaddySiteJournal η) :=
  s.journals.find? fun journal => journal.applicationID == id

/-- The website that is persisted for an application. -/
def site (s : SharedCaddy η) (id : String) : Option CaddySite := (s.journal id).bind CaddySiteJournal.site

/-- `SharedCaddySites`. -/
def sites (s : SharedCaddy η) : List CaddySite := s.journals.filterMap CaddySiteJournal.site

def load (s : SharedCaddy η) : SharedCaddy η := { s with loaded := s.sites }

def AllApplied (s : SharedCaddy η) : Prop := ∀ journal ∈ s.journals, journal.state = .applied

instance (s : SharedCaddy η) : Decidable s.AllApplied := inferInstanceAs (Decidable (∀ _ ∈ _, _))

end SharedCaddy

/-! ## Steps -/

/-- What becomes of a step.  A reload can have loaded the websites when it reports a failure. -/
inductive Fate where
  | succeeds
  | fails
  | loadsAndFails
  | crashes
deriving DecidableEq

variable (η) in
/-- A step that had an effect or an answer. -/
inductive SiteEvent where
  | saved (journal : CaddySiteJournal η)
  | reloaded (ok : Bool)
  | verified (ok : Bool)
deriving DecidableEq

variable (η) in
/-- The agent within a call: the steps it has taken, and their events with the last one first. -/
structure SiteProcess where
  store : SharedCaddy η
  steps : Nat
  events : List (SiteEvent η)

/-- An error of the environment, or of the agent. -/
inductive SiteError where
  | environment
  | refused (message : String)
  | joined (first second : SiteError)
deriving DecidableEq

/-- `errors.Join`. -/
def joinErrors : Option SiteError → Option SiteError → Option SiteError
  | none, err => err
  | err, none => err
  | some first, some second => some (.joined first second)

variable (η) in
/-- A procedure of the agent.  It ends with its error, or in the middle when the agent dies. -/
abbrev SiteOp (α : Type) := EStateM Unit (SiteProcess η) α

/-- What a call is given: whether Caddy is configured, which websites are valid, and the fates of its steps. -/
structure SiteEnv where
  sharedCaddy : Bool
  validate : CaddySite → Bool
  fates : Nat → Fate

section Procedures

variable (env : SiteEnv)

def nextFate : SiteOp η Fate := do
  let process ← get
  set { process with steps := process.steps + 1 }
  if env.fates process.steps = .crashes then throw () else return env.fates process.steps

def effect (change : SharedCaddy η → SharedCaddy η) (event : SiteEvent η) : SiteOp η Unit :=
  modify fun process => { process with store := change process.store, events := event :: process.events }

def sharedCaddyJournals : SiteOp η (Except SiteError (List (CaddySiteJournal η))) := do
  let fate ← nextFate env
  let process ← get
  return if fate = .succeeds then .ok process.store.journals else .error .environment

def readCaddySite (id : String) : SiteOp η (Except SiteError (Option (CaddySiteJournal η))) := do
  let fate ← nextFate env
  let process ← get
  return if fate = .succeeds then .ok (process.store.journal id) else .error .environment

/-- A save that fails has written nothing. -/
def saveCaddySite (journal : CaddySiteJournal η) : SiteOp η (Option SiteError) := do
  let fate ← nextFate env
  if fate = .succeeds then
    effect (SharedCaddy.save journal) (.saved journal)
    return none
  else return some .environment

def reloadSharedCaddy : SiteOp η (Option SiteError) := do
  let fate ← nextFate env
  if fate = .succeeds then
    effect SharedCaddy.load (.reloaded true)
    return none
  else
    effect (if fate = .loadsAndFails then SharedCaddy.load else id) (.reloaded false)
    return some .environment

def verifySite : SiteOp η (Option SiteError) := do
  let fate ← nextFate env
  effect id (.verified (fate = .succeeds))
  return if fate = .succeeds then none else some .environment

/-- The caller may give nothing to verify. -/
def verifyIfGiven (verify : Bool) : SiteOp η (Option SiteError) := if verify then verifySite env else pure none

/-! ## The update of a website -/

/-- The candidate is loaded, probed and recorded. -/
def commitCandidate (state : CaddySiteJournal η) (verify : Bool) : SiteOp η (Option SiteError) := do
  match ← reloadSharedCaddy env with
  | some err => return some err
  | none =>
      match ← verifyIfGiven env verify with
      | some err => return some err
      | none => saveCaddySite env { state with state := .applied }

/-- The website before the update is recorded, loaded and recorded as applied. -/
def recoverPrevious (state : CaddySiteJournal η) (err : SiteError) : SiteOp η (Option SiteError) := do
  let state := { state with site := state.previous, previous := none, state := .recovering }
  match ← saveCaddySite env state with
  | some recoveryErr => return joinErrors (some err) (some recoveryErr)
  | none =>
      match ← reloadSharedCaddy env with
      | some recoveryErr => return joinErrors (some err) (some recoveryErr)
      | none => return joinErrors (some err) (← saveCaddySite env { state with state := .applied })

def updateCaddySite (id : String) (candidate : Option CaddySite) (verify : Bool) :
    SiteOp η (Option SiteError) := do
  if !env.sharedCaddy then
    return some (.refused "agent: shared Caddy is not configured")
  else if candidate.any fun site => site.applicationID != id || !env.validate site then
    return some (.refused "agent: invalid website update identity")
  else
    match ← sharedCaddyJournals env with
    | .error err => return some err
    | .ok states =>
        if states.any fun state => state.state != .applied then
          return some (.refused "agent: recover the interrupted shared website update first")
        else
          match ← readCaddySite env id with
          | .error err => return some err
          | .ok previous =>
              let old := previous.bind CaddySiteJournal.site
              if siteText old = siteText candidate then verifyIfGiven env verify
              else
                let state : CaddySiteJournal η :=
                  ⟨id, .applying, candidate, old, previous.bind CaddySiteJournal.handover⟩
                match ← saveCaddySite env state with
                | some err => return some err
                | none =>
                    match ← commitCandidate env state verify with
                    | none => return none
                    | some err => recoverPrevious env state err

/-! ## Recovery -/

/-- An update that was interrupted is taken back. -/
def CaddySiteJournal.recover (state : CaddySiteJournal η) : CaddySiteJournal η :=
  if state.state = .applying then { state with site := state.previous, previous := none, state := .recovering }
  else state

def saveCaddySites : List (CaddySiteJournal η) → SiteOp η (Option SiteError)
  | [] => return none
  | state :: states => do
      match ← saveCaddySite env state with
      | some err => return some err
      | none => saveCaddySites states

def restoreSharedCaddySites : SiteOp η (Option SiteError) := do
  match ← sharedCaddyJournals env with
  | .error err => return some err
  | .ok states =>
      if !states.any fun state => state.state != .applied then return none
      else if !env.sharedCaddy then
        return some (.refused "agent: shared website runtime is unavailable during recovery")
      else
        let interrupted := (states.map CaddySiteJournal.recover).filter fun state => state.state = .recovering
        match ← saveCaddySites env interrupted with
        | some err => return some err
        | none =>
            match ← reloadSharedCaddy env with
            | some err => return some err
            | none => saveCaddySites env (interrupted.map fun state => { state with state := .applied })

end Procedures

/-! ## Calls -/

inductive SiteCall where
  | update (id : String) (candidate : Option CaddySite) (verify : Bool)
  | restore

def SiteCall.op (env : SiteEnv) : SiteCall → SiteOp η (Option SiteError)
  | .update id candidate verify => updateCaddySite env id candidate verify
  | .restore => restoreSharedCaddySites env

/-- A call from its first step to its end, or to where the agent died. -/
def SiteCall.exec (env : SiteEnv) (call : SiteCall) (s : SharedCaddy η) : SiteProcess η :=
  finalState (call.op env) ⟨s, 0, []⟩

/-- The reload and the probe of a candidate have succeeded, and its applied record was saved. -/
def candidateSaved (id : String) (candidate : Option CaddySite) (verify : Bool) : List (SiteEvent η) → Bool
  | .saved journal :: .reloaded true :: _ =>
      !verify && journal.applicationID == id && journal.state == .applied && journal.site == candidate
  | .saved journal :: .verified true :: .reloaded true :: _ =>
      verify && journal.applicationID == id && journal.state == .applied && journal.site == candidate
  | _ => false

/-- The websites after a call that had these events, by what was committed. -/
def SiteCall.commit (call : SiteCall) (events : List (SiteEvent η)) (committed : String → Option CaddySite) :
    String → Option CaddySite :=
  match call with
  | .update id candidate verify =>
      if candidateSaved id candidate verify events then Function.update committed id candidate else committed
  | .restore => committed

/-- Calls one after another, each cut where the agent died, with the websites that were committed. -/
def siteHistory : List (SiteEnv × SiteCall) → SharedCaddy η → (String → Option CaddySite) →
    SharedCaddy η × (String → Option CaddySite)
  | [], s, committed => (s, committed)
  | (env, call) :: calls, s, committed =>
      let process := call.exec env s
      siteHistory calls process.store (call.commit process.events committed)

end Agent
end Vastora
