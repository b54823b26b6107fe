import Mathlib.Data.Rat.Floor
import Vastora.IPQuality.Report

/-!
# Assessment — scoring a report

`assessAt` adds up four parts: the usage type, which is voted for, the risk scores of some sources, that of
IPPure, and the services that the address unlocks.  What is unknown keeps its whole range, so the result is an
interval, and a score only where enough is known.  IPv6 addresses have weights of their own and no IPPure part.
`compare` recommends a candidate whose least score is clearly above the greatest of the current address.
-/

namespace Vastora
namespace IPQuality

open Library

structure Preferences where
  requiredServices : List String
  targetRegion : String
deriving DecidableEq, Repr

structure Contribution where
  id : String
  weight : ℚ
  min : ℚ := 0
  max : ℚ := 0
  missing : List String := []
deriving DecidableEq, Repr

inductive Status where
  | partialEvidence
  | ipChanged
  | expired
  | complete
  | conservative
deriving DecidableEq, Repr

inductive Grade where
  | unknown
  | excellent
  | premium
  | good
  | fair
  | poor
deriving DecidableEq, Repr

inductive Advice where
  | recheck
  | compare
  | direct
deriving DecidableEq, Repr

structure Assessment where
  version : String
  status : Status
  score : Option Int
  min : Int
  max : Int
  grade : Grade
  /-- `none` is the type `unknown`. -/
  ipType : Option IPType
  typeCandidates : List IPType
  typeEvidence : List Classification
  contributions : List Contribution
  missing : List String
  advice : Advice
  reasons : List String
  requiredFailed : List String
  requiredUnknown : List String
  preferences : Preferences
  validUntil : String
deriving DecidableEq, Repr

/-! ## Weights -/

structure TypeRule where
  name : IPType
  points : ℚ
  cap : ℚ
deriving DecidableEq, Repr

structure WeightedItem where
  name : String
  weight : ℚ
deriving DecidableEq, Repr

def typeRules : List TypeRule :=
  [⟨.residential, 20, 100⟩, ⟨.mobile, 17, 95⟩, ⟨.business, 10, 89⟩, ⟨.hosting, 5, 79⟩]

def scoreWeights : List WeightedItem := [⟨"SCAMALYTICS", 10⟩, ⟨"IPQS", 10⟩, ⟨"AbuseIPDB", 5⟩]

def unlockWeights : List WeightedItem :=
  [⟨"ChatGPT", 15⟩, ⟨"Netflix", 6⟩, ⟨"DisneyPlus", 4⟩, ⟨"Youtube", 2⟩, ⟨"AmazonPrimeVideo", 2⟩, ⟨"TikTok", 1⟩]

def ipv6TypeRules : List TypeRule :=
  [⟨.residential, 30, 100⟩, ⟨.mobile, 26, 95⟩, ⟨.business, 18, 89⟩, ⟨.hosting, 10, 79⟩]

def ipv6ScoreWeights : List WeightedItem := [⟨"IPQS", 20⟩, ⟨"AbuseIPDB", 5⟩]

def ipv6UnlockWeights : List WeightedItem :=
  [⟨"ChatGPT", 22⟩, ⟨"Netflix", 10⟩, ⟨"DisneyPlus", 6⟩, ⟨"Youtube", 3⟩, ⟨"AmazonPrimeVideo", 3⟩, ⟨"TikTok", 1⟩]

/-- The constants of an address family. -/
structure Family where
  version : String
  types : List TypeRule
  sources : List WeightedItem
  unlocks : List WeightedItem
  typeWeight : ℚ
  unlockWeight : ℚ

def family (ipv6 : Bool) : Family :=
  if ipv6 then ⟨"meridian-ipv6-v2", ipv6TypeRules, ipv6ScoreWeights, ipv6UnlockWeights, 30, 45⟩
  else ⟨"meridian-v5", typeRules, scoreWeights, unlockWeights, 20, 30⟩

/-- `math.Round` of the value brought between 1 and 100. -/
def roundedScore (value : ℚ) : Int := ⌊max 1 (min 100 value) + 1 / 2⌋

def grade (score : Int) : Grade :=
  if 90 ≤ score then .excellent
  else if 80 ≤ score then .premium
  else if 60 ≤ score then .good
  else if 40 ≤ score then .fair
  else .poor

/-! ## The type -/

section Parts

variable (env : Env) (r : Report) (now : Int)

/-- One round of the loop over the usage types: `seen` sources have voted. -/
def voteStep (state : List String × List IPType) (evidence : Classification) : List String × List IPType :=
  match usageType (normalizedValue evidence.value 48) with
  | none => state
  | some kind =>
      if state.1.contains evidence.source || !r.typeSourceAvailable env evidence.source now then state
      else (evidence.source :: state.1, kind :: state.2)

/-- The vote of each source that has one. -/
def votes : List IPType := (r.usageTypes.foldl (voteStep env r now) ([], [])).2

/-- The largest count of votes. -/
def mostVotes (votes : List IPType) : Nat := votes.foldl (fun most kind => max most (votes.count kind)) 0

/-- The rules with the largest vote; ties remain. -/
def possibleTypes (types : List TypeRule) (votes : List IPType) : List TypeRule :=
  types.filter fun rule => mostVotes votes == 0 || votes.count rule.name == mostVotes votes

def ipTypeOf (types : List TypeRule) (votes : List IPType) : Option IPType :=
  match possibleTypes types votes with
  | [rule] => if 0 < mostVotes votes then some rule.name else none
  | _ => none

def typePart (ipv6 : Bool) (weight : ℚ) (possible : List TypeRule) (ipType : Option IPType) : Contribution :=
  let start : Contribution := { id := "type", weight := weight, min := weight }
  let part := possible.foldl (fun part rule =>
    { part with min := min part.min rule.points, max := max part.max rule.points }) start
  if ipType.isNone then { part with missing := ["type"], min := if ipv6 then 0 else part.min } else part

/-! ## The other parts -/

/-- One more item: its value if it is known, or its whole range. -/
def addItem (part : Contribution) (name : String) (weight : ℚ) : Option ℚ → Contribution
  | some value => { part with min := part.min + value, max := part.max + value }
  | none => { part with max := part.max + weight, missing := part.missing ++ [name] }

/-- The risk of a source.  Two providers share the slot of `SCAMALYTICS` for IPv4, and the worse score counts. -/
def slotRisk (ipv6 : Bool) (source : String) : Option ℚ :=
  let rawRisk := r.sourceRiskScore env source now
  if !ipv6 && source == "SCAMALYTICS" then
    match r.sourceRiskScore env "IP2LOCATION" now with
    | some ip2Risk =>
        match rawRisk with
        | some rawRisk => if rawRisk < ip2Risk then some ip2Risk else some rawRisk
        | none => some ip2Risk
    | none => rawRisk
  else rawRisk

def missingName (ipv6 : Bool) (source : String) : String :=
  if !ipv6 && source == "SCAMALYTICS" then "SCAMALYTICS/IP2LOCATION" else source

def riskPart (ipv6 : Bool) (sources : List WeightedItem) : Contribution :=
  sources.foldl (fun part source =>
    addItem part (missingName ipv6 source.name) source.weight
      ((slotRisk env r now ipv6 source.name).map fun rawRisk => source.weight * (1 - rawRisk / 100)))
    { id := "sources", weight := 25 }

def ipPurePart : Contribution :=
  match r.ipPureScore env now with
  | some score => { id := "ippure", weight := 25, min := 25 * (1 - score / 100), max := 25 * (1 - score / 100) }
  | none => { id := "ippure", weight := 25, max := 25, missing := ["IPPure"] }

def unlockPart (region : String) (weight : ℚ) (unlocks : List WeightedItem) : Contribution :=
  unlocks.foldl (fun part item =>
    match serviceState env r item.name region now with
    | .yes => addItem part item.name item.weight (some item.weight)
    | .no => part
    | .unknown => addItem part item.name item.weight none)
    { id := "unlock", weight := weight }

/-- The required services in one state. -/
def requiredIn (state : ServiceState) (preferences : Preferences) : List String :=
  preferences.requiredServices.filter fun name => serviceState env r name preferences.targetRegion now == state

/-- The extremes over the possible types, before rounding. -/
def scoreRange (zeroed : Bool) (possible : List TypeRule) (low high : ℚ) : ℚ × ℚ :=
  possible.foldl (fun range rule =>
    let points := if zeroed then 0 else rule.points
    (min range.1 (min rule.cap (points + low)), max range.2 (min rule.cap (rule.points + high)))) (100, 0)

/-! ## Expiry -/

/-- One more stamp of successful evidence; 0 is the zero time. -/
def earlier (expiry : Int) (checkedAt : String) : Int :=
  match env.parseTime checkedAt with
  | some stamp =>
      let limit := stamp + evidenceMaxAge
      if expiry = 0 || limit < expiry then limit else expiry
  | none => expiry

def expiryOf (ipv6 : Bool) (checkedAt : String) : Int :=
  let expiry := ((env.parseTime checkedAt).map (· + evidenceMaxAge)).getD 0
  let expiry := r.observations.foldl (fun expiry observation =>
    if observation.status != "ok" || ipv6 && observation.source == "SCAMALYTICS" then expiry
    else earlier env expiry observation.checkedAt) expiry
  match r.ipPure with
  | some p => if !ipv6 && p.status == "ok" then earlier env expiry p.checkedAt else expiry
  | none => expiry

end Parts

/-! ## Assessments -/

section Assess

variable (env : Env)

/-- What is assessed whatever the outcome. -/
def measured (report : Option Report) (checkedAt : String) (now : Int) (preferences : Preferences) :
    Assessment :=
  let r := report.getD {}
  let ipv6 := isIPv6 r.address
  let family := family ipv6
  let votes := votes env r now
  let possible := possibleTypes family.types votes
  let ipType := ipTypeOf family.types votes
  let risk := riskPart env r now ipv6 family.sources
  let ipPure := ipPurePart env r now
  let unlock := unlockPart env r now preferences.targetRegion family.unlockWeight family.unlocks
  let contributions := [typePart ipv6 family.typeWeight possible ipType, risk] ++
    (if ipv6 then [] else [ipPure]) ++ [unlock]
  let requiredUnknown := requiredIn env r now .unknown preferences
  let missing := requiredUnknown.foldl (fun missing name =>
    if missing.contains name then missing else missing ++ [name]) (contributions.flatMap (·.missing))
  let range := scoreRange (ipv6 && ipType.isNone) possible
    (risk.min + (if ipv6 then 0 else ipPure.min) + unlock.min)
    (risk.max + (if ipv6 then 0 else ipPure.max) + unlock.max)
  let expiry := expiryOf env r ipv6 checkedAt
  { version := family.version, status := .partialEvidence, score := none,
    min := roundedScore range.1, max := roundedScore range.2, grade := .unknown, ipType := ipType,
    typeCandidates := possible.map (·.name),
    typeEvidence := r.usageTypes.map fun evidence =>
      { evidence with value := normalizedValue evidence.value 48 },
    contributions := contributions, missing := missing, advice := .recheck, reasons := [],
    requiredFailed := requiredIn env r now .no preferences, requiredUnknown := requiredUnknown,
    preferences := preferences, validUntil := if expiry = 0 then "" else env.formatTime expiry }

/-- Missing evidence that still allows a score from below. -/
def conservativeScore (ipv6 : Bool) (total : Nat) (missing : List String) : Bool :=
  ipv6 || !missing.any fun source => source != "IPQS" && (source != "type" || total < 2)

def scored (status : Status) (a : Assessment) : Assessment :=
  { a with status := status, score := some a.min, grade := grade a.min }

def advised (a : Assessment) : Assessment :=
  if !a.requiredFailed.isEmpty then { a with advice := .compare, reasons := a.reasons ++ ["required_failed"] }
  else
    match a.score with
    | none => { a with reasons := a.reasons ++ ["incomplete"] }
    | some score =>
        if !a.requiredUnknown.isEmpty then { a with reasons := a.reasons ++ ["incomplete"] }
        else if score < 60 then { a with advice := .compare, reasons := a.reasons ++ ["low_score"] }
        else { a with advice := .direct, reasons := a.reasons ++ ["requirements_met"] }

def assessAt (report : Option Report) (checkedAt : String) (changed : Bool) (now : Int)
    (preferences : Preferences) : Assessment :=
  let r := report.getD {}
  let ipv6 := isIPv6 r.address
  let a := measured env report checkedAt now preferences
  let expiry := expiryOf env r ipv6 checkedAt
  if changed then { a with status := .ipChanged, reasons := a.reasons ++ ["ip_changed"] }
  else if report.isSome && (!freshAt env checkedAt now || expiry != 0 && expiry < now) then
    { a with status := .expired, reasons := a.reasons ++ ["expired"] }
  else if a.missing.isEmpty then advised (scored .complete a)
  else if conservativeScore ipv6 (votes env r now).length a.missing then advised (scored .conservative a)
  else advised a

/-- An expired result is the one of its acquisition time. -/
def assess (report : Option Report) (checkedAt : String) (changed : Bool) (now : Int)
    (preferences : Preferences) : Assessment :=
  let a := assessAt env report checkedAt changed now preferences
  if a.status != .expired then a
  else
    match env.parseTime checkedAt with
    | none => a
    | some stamp =>
        if now < stamp then a
        else
          { assessAt env report checkedAt changed stamp preferences with
            status := .expired, advice := .recheck, reasons := ["expired"] }

end Assess

inductive Verdict where
  | connectionUnverified
  | recheck
  | requirementsNotMet
  | unlocksImproved
  | scoreImproved
  | noClearImprovement
deriving DecidableEq, Repr

def compare (current candidate : Assessment) (compatible : Bool) : Bool × Verdict × Option Int :=
  if !compatible then (false, .connectionUnverified, none)
  else if current.status == .ipChanged || current.status == .expired ||
      (candidate.status != .complete && candidate.status != .conservative) || candidate.score.isNone then
    (false, .recheck, none)
  else if current.version != candidate.version ||
      current.preferences.requiredServices != candidate.preferences.requiredServices ||
      current.preferences.targetRegion != candidate.preferences.targetRegion then
    (false, .recheck, none)
  else
    let delta := current.score.map fun _ => candidate.min - current.max
    if 0 < candidate.requiredFailed.length + candidate.requiredUnknown.length then
      (false, .requirementsNotMet, delta)
    else if 0 < current.requiredFailed.length then (true, .unlocksImproved, delta)
    else if 0 < current.requiredUnknown.length || current.score.isNone then (false, .recheck, delta)
    else if delta.any (10 ≤ ·) then (true, .scoreImproved, delta)
    else (false, .noClearImprovement, delta)

end IPQuality
end Vastora
