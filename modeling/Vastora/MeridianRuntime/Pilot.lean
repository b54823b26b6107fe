import Vastora.Library.Guard
import Vastora.Library.TimeZone

/-!
# Pilot — receipts of a staged entry

A native worker reports counters that start at zero with each of its processes.  `advancePilotCounters` turns a
receipt into the next checkpoint: the totals grow by what the process has counted since its last receipt.
Counters are signed 64-bit integers as in the source.  Instants are nanoseconds from 1970.
-/

namespace Vastora
namespace MeridianRuntime

open Library Library.Guard

/-! ## Receipts and checkpoints -/

/-- `glivela.CounterSnapshot`. -/
structure CounterSnapshot where
  credentialID : String
  upBytes : Int64
  downBytes : Int64
deriving DecidableEq

structure PilotQuota where
  totalBytes : Int64
  usedBytes : Int64
  resetDay : Int
  timezone : String
  lastResetAt : Int
  nextResetAt : Int
  cutoverAt : Int
  baseSHA256 : String
deriving DecidableEq

structure PilotReceipt where
  quota : Option PilotQuota
  entryID : String
  configSHA256 : String
  startedAt : Int
  sampledAt : Int
  ready : Bool
  counters : List CounterSnapshot
deriving DecidableEq

structure PilotCounters where
  quota : Option PilotQuota
  entryID : String
  configSHA256 : String
  cutoverAt : Int
  startedAt : Int
  sampledAt : Int
  raw : List CounterSnapshot
  totals : List CounterSnapshot
deriving DecidableEq

/-- The checks of identifiers, and the time zones that can be loaded. -/
structure PilotEnv where
  validIdentifier : String → Bool
  validIdentity : String → Bool
  loadLocation : String → Option Zone

/-- Go's zero time, the start of the year 1. -/
def zeroTime : Int := secondsPerDay * Months.firstDay 12 * nanoseconds

def isZero (t : Int) : Bool := t == zeroTime

section Cycle

/-- The boundary of a month, as `validPilotQuotaCycle` finds it. -/
def cycleBoundary (zone : Zone) (resetDay year month : Int) : Int :=
  let first := zone.date year month 1 0 0
  let day := min resetDay (zone.day (zone.addDate first 0 1 (-1)))
  zone.date (zone.year first) (zone.month first) day 0 0

def validPilotQuotaCycle (env : PilotEnv) (q : PilotQuota) (now : Int) : Bool :=
  match env.loadLocation q.timezone with
  | none => false
  | some zone =>
      1 ≤ q.resetDay && q.resetDay ≤ 31 &&
        q.lastResetAt == cycleBoundary zone q.resetDay (zone.year q.lastResetAt) (zone.month q.lastResetAt) &&
        q.nextResetAt == cycleBoundary zone q.resetDay (zone.year q.lastResetAt) (zone.month q.lastResetAt + 1) &&
        q.lastResetAt ≤ now && now < q.nextResetAt

end Cycle

/-! ## Counters by credential -/

/-- What a map from credentials gives, with Go's zero value for a missing one. -/
def counterOf (counters : List CounterSnapshot) (id : String) : CounterSnapshot :=
  (counters.find? (·.credentialID == id)).getD ⟨"", 0, 0⟩

/-- One round of the loop of `pilotCounterMap`. -/
def addCounter (env : PilotEnv) (result : List CounterSnapshot) (counter : CounterSnapshot) :
    Except String (List CounterSnapshot) := do
  require (env.validIdentifier counter.credentialID && !result.any (·.credentialID == counter.credentialID) &&
    0 ≤ counter.upBytes && 0 ≤ counter.downBytes) "meridianruntime: invalid pilot counters"
  return result ++ [counter]

def pilotCounterMap (env : PilotEnv) (counters : List CounterSnapshot) : Except String (List CounterSnapshot) :=
  counters.foldlM (addCounter env) []

def invalid : String := "meridianruntime: invalid scoped pilot observation"

/-- One round of the loop over the counters of a receipt. -/
def advanceCounter (raw totals : List CounterSnapshot) (sameProcess sameSample : Bool) (incoming : CounterSnapshot) :
    Except String CounterSnapshot := do
  let last := counterOf raw incoming.credentialID
  require (!sameProcess || last.upBytes ≤ incoming.upBytes && last.downBytes ≤ incoming.downBytes) invalid
  require (!(sameProcess && sameSample) || incoming == last) invalid
  let deltaUp := if sameProcess then incoming.upBytes - last.upBytes else incoming.upBytes
  let deltaDown := if sameProcess then incoming.downBytes - last.downBytes else incoming.downBytes
  let total := counterOf totals incoming.credentialID
  require (deltaUp ≤ Int64.maxValue - total.upBytes && deltaDown ≤ Int64.maxValue - total.downBytes) invalid
  return { total with upBytes := total.upBytes + deltaUp, downBytes := total.downBytes + deltaDown }

/-- One round of the loop that adds up what the totals have grown by. -/
def addGrowth (totals : List CounterSnapshot) (delta : Int64) (total : CounterSnapshot) : Except String Int64 := do
  let prior := counterOf totals total.credentialID
  let up := total.upBytes - prior.upBytes
  let down := total.downBytes - prior.downBytes
  require (up ≤ Int64.maxValue - down && up + down ≤ Int64.maxValue - delta) invalid
  return delta + (up + down)

/-- Both branches of the quota check have this loop. -/
def grownBytes (totals next : List CounterSnapshot) : Except String Int64 := next.foldlM (addGrowth totals) 0

/-- The quota that a receipt reports, held against the one of the checkpoint. -/
def advanceQuota (env : PilotEnv) (p q : PilotQuota) (totals next : List CounterSnapshot) (sampledAt now : Int) :
    Except String Unit := do
  require (q.baseSHA256 == p.baseSHA256 && q.totalBytes == p.totalBytes && q.resetDay == p.resetDay &&
    q.timezone == p.timezone && q.cutoverAt == p.cutoverAt && 0 ≤ q.usedBytes && p.lastResetAt ≤ q.lastResetAt &&
    p.nextResetAt ≤ q.nextResetAt && q.lastResetAt ≤ now) invalid
  if q.lastResetAt == p.lastResetAt then
    let grown ← grownBytes totals next
    let delta := if sampledAt < q.lastResetAt then 0 else grown
    require (delta ≤ Int64.maxValue - p.usedBytes && q.usedBytes == p.usedBytes + delta) invalid
  else
    require (q.resetDay != 0 && !isZero p.nextResetAt && p.nextResetAt ≤ q.lastResetAt &&
      validPilotQuotaCycle env q now) invalid
    let available ← grownBytes totals next
    require (q.usedBytes ≤ available) invalid

def nextQuota (env : PilotEnv) (previous receipt : Option PilotQuota) (totals next : List CounterSnapshot)
    (sampledAt now : Int) : Except String (Option PilotQuota) :=
  match previous, receipt with
  | some p, some q => do
      advanceQuota env p q totals next sampledAt now
      return some q
  | none, none => .ok none
  | _, _ => .error invalid

/-! ## Advancing -/

/-- The checkpoint and the receipt belong together, and the receipt is recent. -/
def inScope (env : PilotEnv) (previous : PilotCounters) (receipt : PilotReceipt) (now : Int) : Bool :=
  env.validIdentifier previous.entryID && env.validIdentity previous.configSHA256 &&
    receipt.entryID == previous.entryID && receipt.configSHA256 == previous.configSHA256 &&
    !isZero previous.cutoverAt && previous.cutoverAt ≤ now && receipt.ready &&
    previous.cutoverAt ≤ receipt.startedAt && receipt.startedAt ≤ receipt.sampledAt &&
    receipt.sampledAt ≤ now && now - receipt.sampledAt ≤ 30 * nanoseconds

/-- The checkpoint of a process that has been seen before, and a receipt that does not go back. -/
def continues (previous : PilotCounters) (receipt : PilotReceipt) (raw totals : List CounterSnapshot) : Bool :=
  previous.cutoverAt ≤ previous.startedAt && previous.startedAt ≤ previous.sampledAt &&
    previous.startedAt ≤ receipt.startedAt && previous.sampledAt ≤ receipt.sampledAt &&
    raw.length == totals.length &&
    totals.all fun total => raw.any (·.credentialID == total.credentialID) &&
      (counterOf raw total.credentialID).upBytes ≤ total.upBytes &&
      (counterOf raw total.credentialID).downBytes ≤ total.downBytes

def advancePilotCounters (env : PilotEnv) (previous : PilotCounters) (receipt : PilotReceipt) (now : Int) :
    Except String PilotCounters := do
  require (inScope env previous receipt now) invalid
  let totals ← fetch (pilotCounterMap env previous.totals).toOption invalid
  require (totals != []) invalid
  let current ← fetch (pilotCounterMap env receipt.counters).toOption invalid
  require (current.length == totals.length) invalid
  require (totals.all fun total => current.any (·.credentialID == total.credentialID)) invalid
  let raw ← fetch (pilotCounterMap env previous.raw).toOption invalid
  let first := isZero previous.startedAt
  require (if first then isZero previous.sampledAt && raw == [] else continues previous receipt raw totals) invalid
  let sameProcess := !first && receipt.startedAt == previous.startedAt
  require (first || sameProcess || previous.sampledAt < receipt.startedAt) invalid
  let next ← receipt.counters.mapM
    (advanceCounter raw totals sameProcess (receipt.sampledAt == previous.sampledAt))
  let quota ← nextQuota env previous.quota receipt.quota totals next receipt.sampledAt now
  return { previous with
    quota
    startedAt := receipt.startedAt
    sampledAt := receipt.sampledAt
    raw := receipt.counters
    totals := next }

end MeridianRuntime
end Vastora
