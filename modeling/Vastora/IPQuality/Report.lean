import Vastora.Library.NetipText

/-!
# Report — the evidence in an IP quality report

A report holds what providers said about an address: usage types, risk scores, and which services it unlocks.
An observation dates each source.  The functions here read one piece of evidence each; what is missing, stale
or about another address is no evidence.  Numbers are exact, and times are nanoseconds from Go's zero time.
-/

namespace Vastora
namespace IPQuality

open Library Library.Netip Library.Pattern

/-- What the standard library reads and writes. -/
structure Env where
  /-- `strconv.ParseFloat`, for texts of finite numbers. -/
  parseFloat : String → Option ℚ
  /-- `time.Parse(time.RFC3339Nano, …)`. -/
  parseTime : String → Option Int
  /-- `UTC().Format(time.RFC3339Nano)`. -/
  formatTime : Int → String

structure Score where
  source : String
  value : String
deriving DecidableEq, Repr

structure Service where
  name : String
  status : String
  regionCode : String
deriving DecidableEq, Repr

structure Classification where
  source : String
  value : String
deriving DecidableEq, Repr

structure Observation where
  source : String
  status : String
  address : String
  checkedAt : String
deriving DecidableEq, Repr

structure IPPureResult where
  provider : String
  status : String
  address : String
  checkedAt : String
  riskScore : Option ℚ
deriving DecidableEq, Repr

/-- The fields that assessments read. -/
structure Report where
  observations : List Observation := []
  ipPure : Option IPPureResult := none
  address : String := ""
  usageTypes : List Classification := []
  scores : List Score := []
  services : List Service := []
deriving DecidableEq, Repr

def ipPureProvider : String := "https://my.ippure.com/v1/info"

/-! ## Texts -/

/-- The length of the rest of a terminal escape, from its bracket on. -/
def bracketLength : List Char → Option Nat
  | '[' :: cs =>
      let parameters := cs.takeWhile fun c => '0' ≤ c && c ≤ '?'
      let cs := cs.dropWhile fun c => '0' ≤ c && c ≤ '?'
      let intermediates := cs.takeWhile fun c => ' ' ≤ c && c ≤ '/'
      match cs.dropWhile fun c => ' ' ≤ c && c ≤ '/' with
      | c :: _ => if '@' ≤ c && c ≤ '~' then some (parameters.length + intermediates.length + 2) else none
      | [] => none
  | _ => none

/-- `terminalEscapePattern` at the start of a text: the length of its match. -/
def escapeLength : List Char → Option Nat
  | '\x1b' :: cs => (bracketLength cs).map (· + 1)
  | '\\' :: 'x' :: '1' :: 'b' :: cs => (bracketLength cs).map (· + 4)
  | 'x' :: '1' :: 'b' :: cs => (bracketLength cs).map (· + 3)
  | _ => none

/-- The text without its escapes; `skip` characters belong to the one before. -/
def stripEscapes : Nat → List Char → List Char
  | _, [] => []
  | skip + 1, _ :: cs => stripEscapes skip cs
  | 0, c :: cs =>
      match escapeLength (c :: cs) with
      | some n => stripEscapes (n - 1) cs
      | none => c :: stripEscapes 0 cs

def bounded (value : String) (limit : Nat) : String :=
  let value := trimSpace value
  if value = "null" || limit < value.utf8ByteSize then "" else value

def terminalValue (value : String) (limit : Nat) : String :=
  bounded (String.ofList ([' '].intercalate (Text.fields (stripEscapes 0 value.toList)))) limit

def normalizedValue (value : String) (limit : Nat) : String := terminalValue value limit

example : normalizedValue "\x1b[32m Line  ISP\\x1b[0m" 48 = "Line ISP" := by decide

/-- `strings.ToLower`, as far as its results are ASCII characters. -/
def toLower (s : String) : String :=
  s.map fun c => if c = 'K' then 'k' else if c = 'İ' then 'i' else c.toLower

inductive IPType where
  | residential
  | mobile
  | business
  | hosting
deriving DecidableEq, Repr

def usageType (value : String) : Option IPType :=
  let value := toLower (trimSpace value)
  if ["isp", "line isp", "residential", "residential isp"].contains value then some .residential
  else if ["mobile", "mobile isp"].contains value then some .mobile
  else if ["business", "commercial"].contains value then some .business
  else if ["hosting", "data center", "datacenter", "cdn"].contains value then some .hosting
  else none

/-! ## Addresses and times -/

/-- `net.ParseIP`; an IPv4-mapped address is an IPv4 one. -/
def parseIP (value : String) : Option Addr :=
  (parseZonedAddr value).bind fun
    | .v4 a => some (.v4 a)
    | .v6 a zone => if zone = "" then some (Addr.v6 a).unmapped else none

/-- `ip != nil && ip.To4() == nil`. -/
def isIPv6 (value : String) : Bool := (parseIP value).any fun a => !a.is4

def sameIP (a b : String) : Bool := (parseIP a).any fun ip => parseIP b == some ip

def second : Int := 1000000000

def evidenceMaxAge : Int := 24 * 3600 * second

section Evidence

variable (env : Env)

def freshAt (stamp : String) (now : Int) : Bool :=
  (env.parseTime stamp).any fun t => t ≤ now + 5 * second && now - t ≤ evidenceMaxAge

namespace Report

variable (r : Report)

def sourceFresh (source : String) (now : Int) : Bool :=
  (r.observations.find? (·.source == source)).any fun item =>
    item.status == "ok" && sameIP item.address r.address && freshAt env item.checkedAt now

/-- Type evidence does not expire. -/
def typeSourceAvailable (source : String) (now : Int) : Bool :=
  (r.observations.find? (·.source == source)).any fun item =>
    item.status == "ok" && sameIP item.address r.address &&
      (env.parseTime item.checkedAt).any (· ≤ now + 5 * second)

/-- The first valid score of a source, from 0 to 100. -/
def sourceRiskScore (source : String) (now : Int) : Option ℚ :=
  r.scores.findSome? fun raw =>
    if raw.source != source then none
    else
      let limit : ℚ := if source = "IP2LOCATION" then 99 else 100
      (env.parseFloat raw.value).bind fun value =>
        if 0 ≤ value && value ≤ limit && r.sourceFresh env source now then
          some (if source = "IP2LOCATION" then value * 100 / 99 else value)
        else none

/-- The risk score of IPPure, if its result is valid evidence for the address. -/
def ipPureScore (now : Int) : Option ℚ :=
  r.ipPure.bind fun p =>
    p.riskScore.bind fun score =>
      if p.status == "ok" && p.provider == ipPureProvider && 0 ≤ score && score ≤ 100 &&
          sameIP p.address r.address && freshAt env p.checkedAt now then some score
      else none

end Report

inductive ServiceState where
  | yes
  | no
  | unknown
deriving DecidableEq, Repr

def serviceOutcome (status : String) : ServiceState :=
  let status := toLower (trimSpace status)
  if status = "yes" then .yes
  else if ["no", "block", "org", "originals only", "nf.only", "apponly", "webonly", "china",
    "noprem."].contains status then .no
  else .unknown

def serviceState (r : Report) (name region : String) (now : Int) : ServiceState :=
  if !r.sourceFresh env ("service:" ++ name) now then .unknown
  else
    (r.services.findSome? fun item =>
      if item.name != name then none
      else
        match serviceOutcome item.status with
        | .no => some .no
        | .yes =>
            if region != "" && item.regionCode == "" then some .unknown
            else if region != "" && item.regionCode != region then some .no
            else some .yes
        | .unknown => none).getD .unknown

/-! ## Ranges of scores -/

variable {env} {r : Report} {source : String} {now : Int} {v : ℚ}

theorem sourceRiskScore_range (h : r.sourceRiskScore env source now = some v) : 0 ≤ v ∧ v ≤ 100 := by
  obtain ⟨raw, -, hraw⟩ := List.exists_of_findSome?_eq_some h
  obtain ⟨-, hraw⟩ := Option.ite_none_left_eq_some.1 hraw
  obtain ⟨value, -, hvalue⟩ := Option.bind_eq_some_iff.1 hraw
  obtain ⟨hrange, hvalue⟩ := Option.ite_none_right_eq_some.1 hvalue
  simp only [Bool.and_eq_true, decide_eq_true_eq] at hrange
  obtain ⟨⟨hnonneg, hlimit⟩, -⟩ := hrange
  rw [← Option.some.inj hvalue]
  -- the scores of `IP2LOCATION` go up to 99 and are scaled
  by_cases hsource : source = "IP2LOCATION"
  · rw [if_pos hsource] at hlimit ⊢
    constructor <;> linarith
  · rw [if_neg hsource] at hlimit ⊢
    exact ⟨hnonneg, hlimit⟩

theorem ipPureScore_range (h : r.ipPureScore env now = some v) : 0 ≤ v ∧ v ≤ 100 := by
  obtain ⟨p, -, hp⟩ := Option.bind_eq_some_iff.1 h
  obtain ⟨score, -, hscore⟩ := Option.bind_eq_some_iff.1 hp
  obtain ⟨hrange, hscore⟩ := Option.ite_none_right_eq_some.1 hscore
  simp only [Bool.and_eq_true, decide_eq_true_eq] at hrange
  rw [← Option.some.inj hscore]
  exact ⟨hrange.1.1.1.2, hrange.1.1.2⟩

end Evidence

end IPQuality
end Vastora
