import Vastora.IPQuality.Assessment
import Vastora.Library.PartialScore

/-!
# Interval — what more evidence can do to an assessment

The parts of a score are sums of weighted shares, and the types that are still possible are its candidates, so
the bounds of an assessment are those of `PartialScore`.  A check that completes another one, by adding to its
evidence and narrowing its types, has its interval inside the other's.
-/

namespace Vastora
namespace IPQuality

open Library Library.PartialScore

/-! ## Parts as sums -/

/-- The share of the weight that a risk from 0 to 100 leaves. -/
def riskShare (risk : Option ℚ) : Option ℚ := risk.map fun v => 1 - v / 100

def unlockShare : ServiceState → Option ℚ
  | .yes => some 1
  | .no => some 0
  | .unknown => none

theorem isShare_riskShare {risk : Option ℚ} (h : ∀ v, risk = some v → 0 ≤ v ∧ v ≤ 100) :
    IsShare (riskShare risk) := by
  intro share hshare
  obtain ⟨v, hv, rfl⟩ := Option.map_eq_some_iff.1 hshare
  obtain ⟨hnonneg, hle⟩ := h v hv
  constructor <;> linarith

theorem isShare_unlockShare (state : ServiceState) : IsShare (unlockShare state) := by
  intro share hshare
  cases state <;> cases hshare <;> norm_num

theorem completed_riskShare {risk risk' : Option ℚ} (h : Completed risk risk') :
    Completed (riskShare risk) (riskShare risk') := by
  intro share hshare
  obtain ⟨v, hv, rfl⟩ := Option.map_eq_some_iff.1 hshare
  rw [riskShare, h v hv]
  rfl

theorem completed_unlockShare {state state' : ServiceState} (h : state ≠ .unknown → state' = state) :
    Completed (unlockShare state) (unlockShare state') := by
  intro share hshare
  cases state with
  | unknown => cases hshare
  | yes => rw [h (by decide), hshare]
  | no => rw [h (by decide), hshare]

theorem foldl_addItem (name : WeightedItem → String) (share : WeightedItem → Option ℚ)
    (items : List WeightedItem) (part : Contribution) :
    items.foldl (fun part item =>
        addItem part (name item) item.weight ((share item).map (item.weight * ·))) part =
      { part with
        min := part.min + lowSum WeightedItem.weight share items
        max := part.max + highSum WeightedItem.weight share items
        missing := part.missing ++ (items.filter fun item => (share item).isNone).map name } := by
  induction items generalizing part with
  | nil => simp [lowSum, highSum]
  | cons item items ih =>
      rw [List.foldl_cons, ih]
      cases hshare : share item with
      | none => simp [addItem, lowSum, highSum, hshare, add_assoc]
      | some v => simp [addItem, lowSum, highSum, hshare, add_assoc]

section Parts

variable (env : Env) (r : Report) (now : Int) (ipv6 : Bool)

def sourceShare (source : WeightedItem) : Option ℚ := riskShare (slotRisk env r now ipv6 source.name)

def serviceShare (region : String) (item : WeightedItem) : Option ℚ :=
  unlockShare (serviceState env r item.name region now)

theorem riskPart_eq (sources : List WeightedItem) :
    riskPart env r now ipv6 sources =
      { id := "sources", weight := 25
        min := lowSum WeightedItem.weight (sourceShare env r now ipv6) sources
        max := highSum WeightedItem.weight (sourceShare env r now ipv6) sources
        missing := (sources.filter fun source => (sourceShare env r now ipv6 source).isNone).map
          fun source => missingName ipv6 source.name } := by
  have hfold := foldl_addItem (fun source => missingName ipv6 source.name) (sourceShare env r now ipv6) sources
    { id := "sources", weight := 25 }
  simp only [sourceShare, riskShare, Option.map_map, Function.comp_def, zero_add, List.nil_append] at hfold
  exact hfold

theorem unlockPart_eq (region : String) (weight : ℚ) (unlocks : List WeightedItem) :
    unlockPart env r now region weight unlocks =
      { id := "unlock", weight := weight
        min := lowSum WeightedItem.weight (serviceShare env r now region) unlocks
        max := highSum WeightedItem.weight (serviceShare env r now region) unlocks
        missing := (unlocks.filter fun item => (serviceShare env r now region item).isNone).map (·.name) } := by
  have hstep : ∀ (part : Contribution) (item : WeightedItem),
      (match serviceState env r item.name region now with
        | .yes => addItem part item.name item.weight (some item.weight)
        | .no => part
        | .unknown => addItem part item.name item.weight none) =
      addItem part item.name item.weight ((serviceShare env r now region item).map (item.weight * ·)) := by
    intro part item
    unfold serviceShare
    cases serviceState env r item.name region now <;> simp [unlockShare, addItem]
  have hfold := foldl_addItem (·.name) (serviceShare env r now region) unlocks { id := "unlock", weight := weight }
  simp only [← hstep, zero_add, List.nil_append] at hfold
  exact hfold

theorem slotRisk_range {source : String} {v : ℚ} (h : slotRisk env r now ipv6 source = some v) :
    0 ≤ v ∧ v ≤ 100 := by
  have hraw : ∀ {s : String} {w : ℚ}, r.sourceRiskScore env s now = some w → 0 ≤ w ∧ w ≤ 100 :=
    sourceRiskScore_range
  unfold slotRisk at h
  cases hown : r.sourceRiskScore env source now with
  | none =>
      cases hother : r.sourceRiskScore env "IP2LOCATION" now with
      | none => simp [hown, hother] at h
      | some w =>
          rw [hown, hother] at h
          split at h
          · cases h
            exact hraw hother
          · cases h
  | some u =>
      cases hother : r.sourceRiskScore env "IP2LOCATION" now with
      | none =>
          rw [hown, hother] at h
          simp only [ite_self, Option.some.injEq] at h
          exact h ▸ hraw hown
      | some w =>
          rw [hown, hother] at h
          dsimp only at h
          split at h
          · split at h
            · cases h
              exact hraw hother
            · cases h
              exact hraw hown
          · cases h
            exact hraw hown

end Parts

theorem scoreRange_eq (zeroed : Bool) (possible : List TypeRule) (low high : ℚ) :
    scoreRange zeroed possible low high =
      (lowest 100 (fun rule => min rule.cap ((if zeroed then 0 else rule.points) + low)) possible,
        highest 0 (fun rule => min rule.cap (rule.points + high)) possible) := by
  have hfold : ∀ start : ℚ × ℚ, possible.foldl (fun range rule =>
      (min range.1 (min rule.cap ((if zeroed then 0 else rule.points) + low)),
        max range.2 (min rule.cap (rule.points + high)))) start =
      (lowest start.1 (fun rule => min rule.cap ((if zeroed then 0 else rule.points) + low)) possible,
        highest start.2 (fun rule => min rule.cap (rule.points + high)) possible) := by
    induction possible with
    | nil => exact fun _ => rfl
    | cons rule rules ih => exact fun start => ih _
  exact hfold (100, 0)

/-! ## Types -/

section Types

variable {ipv6 : Bool} {votes : List IPType}

theorem exists_rule (ipv6 : Bool) (kind : IPType) : ∃ rule ∈ (family ipv6).types, rule.name = kind := by
  cases ipv6 <;> cases kind <;> decide

theorem rule_eq_of_name : ∀ a ∈ (family ipv6).types, ∀ b ∈ (family ipv6).types, a.name = b.name → a = b := by
  cases ipv6 <;> decide

theorem nodup_types (ipv6 : Bool) : (family ipv6).types.Nodup := by
  cases ipv6 <;> decide

theorem points_nonneg : ∀ rule ∈ (family ipv6).types, 0 ≤ rule.points := by
  cases ipv6 <;> decide

theorem source_weight_nonneg : ∀ item ∈ (family ipv6).sources, 0 ≤ item.weight := by
  cases ipv6 <;> decide

theorem unlock_weight_nonneg : ∀ item ∈ (family ipv6).unlocks, 0 ≤ item.weight := by
  cases ipv6 <;> decide

/-- The largest count is one of the counts. -/
theorem mostVotes_attained (votes : List IPType) :
    mostVotes votes = 0 ∨ ∃ kind ∈ votes, votes.count kind = mostVotes votes := by
  have hfold : ∀ (kinds : List IPType) (start : Nat),
      kinds.foldl (fun most kind => max most (votes.count kind)) start = start ∨
        ∃ kind ∈ kinds, votes.count kind = kinds.foldl (fun most kind => max most (votes.count kind)) start := by
    intro kinds
    induction kinds with
    | nil => exact fun _ => Or.inl rfl
    | cons kind kinds ih =>
        intro start
        rw [List.foldl_cons]
        rcases ih (max start (votes.count kind)) with h | ⟨k, hk, h⟩
        · rcases max_choice start (votes.count kind) with hmax | hmax
          · exact Or.inl (h.trans hmax)
          · exact Or.inr ⟨kind, List.mem_cons_self, (h.trans hmax).symm⟩
        · exact Or.inr ⟨k, List.mem_cons_of_mem _ hk, h⟩
  exact hfold votes 0

theorem mem_possibleTypes {types : List TypeRule} {rule : TypeRule} : rule ∈ possibleTypes types votes ↔
    rule ∈ types ∧ (mostVotes votes = 0 ∨ votes.count rule.name = mostVotes votes) := by
  simp [possibleTypes]

/-- Some type is possible. -/
theorem exists_possible (ipv6 : Bool) (votes : List IPType) :
    ∃ rule, rule ∈ possibleTypes (family ipv6).types votes := by
  rcases mostVotes_attained votes with hzero | ⟨kind, -, hcount⟩
  · obtain ⟨rule, hrule, -⟩ := exists_rule ipv6 .residential
    exact ⟨rule, mem_possibleTypes.2 ⟨hrule, Or.inl hzero⟩⟩
  · obtain ⟨rule, hrule, rfl⟩ := exists_rule ipv6 kind
    exact ⟨rule, mem_possibleTypes.2 ⟨hrule, Or.inr hcount⟩⟩

/-- The type is known when one is left, which then has votes. -/
theorem ipTypeOf_isSome_iff : (ipTypeOf (family ipv6).types votes).isSome ↔
    ∃ rule, possibleTypes (family ipv6).types votes = [rule] := by
  unfold ipTypeOf
  constructor
  · intro h
    split at h
    · rename_i rule hrule
      exact ⟨rule, hrule⟩
    · cases h
  · rintro ⟨rule, hrule⟩
    rw [hrule]
    -- without votes all four rules would be possible
    have hmost : 0 < mostVotes votes := by
      refine Nat.pos_of_ne_zero fun hzero => ?_
      have hall : possibleTypes (family ipv6).types votes = (family ipv6).types := by
        simp [possibleTypes, hzero]
      have hlength := congrArg List.length (hall.symm.trans hrule)
      rw [List.length_singleton] at hlength
      cases ipv6 <;> exact absurd hlength (by decide)
    simp [hmost]

/-- A known type stays known when the candidates are narrowed. -/
theorem known_of_subset {votes' : List IPType}
    (hsubset : ∀ rule ∈ possibleTypes (family ipv6).types votes', rule ∈ possibleTypes (family ipv6).types votes)
    (h : (ipTypeOf (family ipv6).types votes).isSome) : (ipTypeOf (family ipv6).types votes').isSome := by
  obtain ⟨rule, hrule⟩ := ipTypeOf_isSome_iff.1 h
  obtain ⟨rule', hrule'⟩ := exists_possible ipv6 votes'
  have hone : ∀ a ∈ possibleTypes (family ipv6).types votes', a = rule := fun a ha => by
    simpa [hrule] using hsubset a ha
  have hnodup : (possibleTypes (family ipv6).types votes').Nodup := (nodup_types ipv6).filter _
  refine ipTypeOf_isSome_iff.2 ⟨rule, ?_⟩
  have hreplicate := List.eq_replicate_of_mem hone
  rw [hreplicate, List.nodup_replicate] at hnodup
  have hpos := List.length_pos_of_mem hrule'
  rw [hreplicate, le_antisymm hnodup hpos, List.replicate_one]

end Types

/-! ## Rounding -/

theorem roundedScore_mono {x y : ℚ} (h : x ≤ y) : roundedScore x ≤ roundedScore y :=
  Int.floor_mono (add_le_add_left (max_le_max le_rfl (min_le_min le_rfl h)) _)

theorem roundedScore_range (x : ℚ) : 1 ≤ roundedScore x ∧ roundedScore x ≤ 100 := by
  have hlow : (1 : ℚ) ≤ max 1 (min 100 x) := le_max_left _ _
  have hhigh : max 1 (min 100 x) ≤ (100 : ℚ) := max_le (by norm_num) (min_le_left _ _)
  constructor
  · rw [roundedScore, Int.le_floor]
    push_cast
    linarith
  · have hlt : roundedScore x < 101 := by
      rw [roundedScore, Int.floor_lt]
      push_cast
      linarith
    omega

/-- The limits of the scale do not matter after rounding. -/
theorem roundedScore_limits (x : ℚ) : roundedScore (min 100 x) = roundedScore (max 0 x) := by
  have hlow : min 100 (min 100 x) = min 100 x := by rw [← min_assoc, min_self]
  have hhigh : max 1 (min 100 (max 0 x)) = max 1 (min 100 x) := by
    rcases le_total 0 x with hx | hx
    · rw [max_eq_right hx]
    · rw [max_eq_left hx, min_eq_right (by norm_num : (0 : ℚ) ≤ 100), min_eq_right (by linarith : x ≤ 100),
        max_eq_left (by norm_num : (0 : ℚ) ≤ 1), max_eq_left (by linarith : x ≤ 1)]
  rw [roundedScore, roundedScore, hlow, hhigh]

/-! ## Checks -/

/-- What an assessment is made of. -/
structure Check where
  report : Option Report
  checkedAt : String
  changed : Bool
  now : Int
  preferences : Preferences

namespace Check

variable (env : Env) (c : Check)

def assessAt : Assessment := IPQuality.assessAt env c.report c.checkedAt c.changed c.now c.preferences

def assess : Assessment := IPQuality.assess env c.report c.checkedAt c.changed c.now c.preferences

def measured : Assessment := IPQuality.measured env c.report c.checkedAt c.now c.preferences

/-- The report; without one it is empty. -/
def r : Report := c.report.getD {}

def ipv6 : Bool := isIPv6 c.r.address

def slot (source : String) : Option ℚ := slotRisk env c.r c.now c.ipv6 source

def ipPure : Option ℚ := if c.ipv6 then some 100 else c.r.ipPureScore env c.now

def service (name : String) : ServiceState := serviceState env c.r name c.preferences.targetRegion c.now

def possible : List TypeRule := possibleTypes (family c.ipv6).types (votes env c.r c.now)

def known : Bool := (ipTypeOf (family c.ipv6).types (votes env c.r c.now)).isSome

def sourceShare (source : WeightedItem) : Option ℚ := riskShare (c.slot env source.name)

def serviceShare (item : WeightedItem) : Option ℚ := unlockShare (c.service env item.name)

/-- The least sum of all parts but the type. -/
def low : ℚ :=
  lowSum WeightedItem.weight (c.sourceShare env) (family c.ipv6).sources +
    25 * (riskShare (c.ipPure env)).getD 0 +
    lowSum WeightedItem.weight (c.serviceShare env) (family c.ipv6).unlocks

/-- The greatest sum of all parts but the type. -/
def high : ℚ :=
  highSum WeightedItem.weight (c.sourceShare env) (family c.ipv6).sources +
    25 * (riskShare (c.ipPure env)).getD 1 +
    highSum WeightedItem.weight (c.serviceShare env) (family c.ipv6).unlocks

/-- The points of a type from below: an unknown type has none for IPv6. -/
def leastPoints (rule : TypeRule) : ℚ := if c.ipv6 && !c.known env then 0 else rule.points

/-- The score with a type from below. -/
def lowValue (rule : TypeRule) : ℚ := min rule.cap (c.leastPoints env rule + c.low env)

/-- The score with a type from above. -/
def highValue (rule : TypeRule) : ℚ := min rule.cap (rule.points + c.high env)

def lowerBound : ℚ := lowest 100 (c.lowValue env) (c.possible env)

def upperBound : ℚ := highest 0 (c.highValue env) (c.possible env)

/-! ### The model has these bounds -/

theorem ipPurePart_min : (if c.ipv6 then 0 else (ipPurePart env c.r c.now).min) =
    25 * (riskShare (c.ipPure env)).getD 0 := by
  unfold Check.ipPure ipPurePart
  cases c.ipv6 with
  | true => norm_num [riskShare]
  | false => cases c.r.ipPureScore env c.now <;> simp [riskShare]

theorem ipPurePart_max : (if c.ipv6 then 0 else (ipPurePart env c.r c.now).max) =
    25 * (riskShare (c.ipPure env)).getD 1 := by
  unfold Check.ipPure ipPurePart
  cases c.ipv6 with
  | true => norm_num [riskShare]
  | false => cases c.r.ipPureScore env c.now <;> simp [riskShare]

/-- The range of `measured`, in the parts it is computed from. -/
def partsRange : ℚ × ℚ :=
  scoreRange (c.ipv6 && (ipTypeOf (family c.ipv6).types (votes env c.r c.now)).isNone) (c.possible env)
    ((riskPart env c.r c.now c.ipv6 (family c.ipv6).sources).min +
      (if c.ipv6 then 0 else (ipPurePart env c.r c.now).min) +
      (unlockPart env c.r c.now c.preferences.targetRegion (family c.ipv6).unlockWeight
        (family c.ipv6).unlocks).min)
    ((riskPart env c.r c.now c.ipv6 (family c.ipv6).sources).max +
      (if c.ipv6 then 0 else (ipPurePart env c.r c.now).max) +
      (unlockPart env c.r c.now c.preferences.targetRegion (family c.ipv6).unlockWeight
        (family c.ipv6).unlocks).max)

theorem partsRange_eq : c.partsRange env = (c.lowerBound env, c.upperBound env) := by
  have hzeroed : (ipTypeOf (family c.ipv6).types (votes env c.r c.now)).isNone = !c.known env := by
    rw [Check.known, Option.not_isSome]
  rw [partsRange, scoreRange_eq, ipPurePart_min, ipPurePart_max, riskPart_eq, unlockPart_eq, hzeroed]
  rfl

theorem measured_min : (c.measured env).min = roundedScore (c.lowerBound env) := by
  have hmin : (c.measured env).min = roundedScore (c.partsRange env).1 := rfl
  rw [hmin, partsRange_eq]

theorem measured_max : (c.measured env).max = roundedScore (c.upperBound env) := by
  have hmax : (c.measured env).max = roundedScore (c.partsRange env).2 := rfl
  rw [hmax, partsRange_eq]

theorem advised_eq (a : Assessment) : ∃ advice reasons, advised a = { a with advice := advice, reasons := reasons } := by
  unfold advised
  split
  · exact ⟨_, _, rfl⟩
  · split
    · exact ⟨_, _, rfl⟩
    · split
      · exact ⟨_, _, rfl⟩
      · split
        · exact ⟨_, _, rfl⟩
        · exact ⟨_, _, rfl⟩

/-- What the outcome adds to what is measured. -/
theorem assessAt_eq : ∃ status score grade advice reasons,
    c.assessAt env = { c.measured env with
      status := status, score := score, grade := grade, advice := advice, reasons := reasons } ∧
    (∀ s, score = some s → s = (c.measured env).min) ∧
    (status = .complete → (c.measured env).missing = []) := by
  have hassess : c.assessAt env = IPQuality.assessAt env c.report c.checkedAt c.changed c.now c.preferences := rfl
  have hmeasured : IPQuality.measured env c.report c.checkedAt c.now c.preferences = c.measured env := rfl
  have hscore : ∀ s, (c.measured env).score = some s → s = (c.measured env).min := fun s h => by cases h
  have hstatus : (c.measured env).status = .complete → (c.measured env).missing = [] := fun h => by cases h
  rw [hassess, IPQuality.assessAt]
  dsimp only
  rw [hmeasured]
  split
  · exact ⟨_, _, _, _, _, rfl, hscore, fun h => by cases h⟩
  · split
    · exact ⟨_, _, _, _, _, rfl, hscore, fun h => by cases h⟩
    · split
      · rename_i hmissing
        obtain ⟨advice, reasons, hadvised⟩ := advised_eq (scored .complete (c.measured env))
        exact ⟨_, _, _, _, _, hadvised, fun s h => (Option.some.inj h).symm,
          fun _ => List.isEmpty_iff.1 hmissing⟩
      · split
        · obtain ⟨advice, reasons, hadvised⟩ := advised_eq (scored .conservative (c.measured env))
          exact ⟨_, _, _, _, _, hadvised, fun s h => (Option.some.inj h).symm, fun h => by cases h⟩
        · obtain ⟨advice, reasons, hadvised⟩ := advised_eq (c.measured env)
          exact ⟨_, _, _, _, _, hadvised, hscore, hstatus⟩

theorem assessAt_min : (c.assessAt env).min = roundedScore (c.lowerBound env) := by
  obtain ⟨_, _, _, _, _, h, -, -⟩ := c.assessAt_eq env
  rw [h, ← measured_min]

theorem assessAt_max : (c.assessAt env).max = roundedScore (c.upperBound env) := by
  obtain ⟨_, _, _, _, _, h, -, -⟩ := c.assessAt_eq env
  rw [h, ← measured_max]

theorem assessAt_typeCandidates : (c.assessAt env).typeCandidates = (c.possible env).map (·.name) := by
  obtain ⟨_, _, _, _, _, h, -, -⟩ := c.assessAt_eq env
  rw [h]
  rfl

/-! ### Order of the bounds -/

theorem isShare_slot (source : String) : IsShare (riskShare (c.slot env source)) :=
  isShare_riskShare fun _ hv => slotRisk_range env c.r c.now c.ipv6 hv

theorem isShare_ipPure : IsShare (riskShare (c.ipPure env)) := by
  refine isShare_riskShare fun v hv => ?_
  unfold Check.ipPure at hv
  split at hv
  · cases hv
    norm_num
  · exact ipPureScore_range hv

theorem low_le_high : c.low env ≤ c.high env := by
  have hrisk : lowSum WeightedItem.weight (c.sourceShare env) (family c.ipv6).sources ≤
      highSum WeightedItem.weight (c.sourceShare env) (family c.ipv6).sources :=
    lowSum_le_highSum source_weight_nonneg
  have hunlock : lowSum WeightedItem.weight (c.serviceShare env) (family c.ipv6).unlocks ≤
      highSum WeightedItem.weight (c.serviceShare env) (family c.ipv6).unlocks :=
    lowSum_le_highSum unlock_weight_nonneg
  have hpure : (riskShare (c.ipPure env)).getD 0 ≤ (riskShare (c.ipPure env)).getD 1 := getD_le_getD
  unfold Check.low Check.high
  linarith

theorem mem_types {rule : TypeRule} (h : rule ∈ c.possible env) : rule ∈ (family c.ipv6).types :=
  (mem_possibleTypes.1 h).1

theorem leastPoints_le {rule : TypeRule} (h : rule ∈ c.possible env) : c.leastPoints env rule ≤ rule.points := by
  unfold Check.leastPoints
  split
  · exact points_nonneg rule (c.mem_types env h)
  · exact le_rfl

theorem lowerBound_le_upperBound : c.lowerBound env ≤ c.upperBound env := by
  obtain ⟨rule, hrule⟩ : ∃ rule, rule ∈ c.possible env := exists_possible _ _
  calc c.lowerBound env ≤ c.lowValue env rule := lowest_le hrule
    _ ≤ c.highValue env rule :=
        min_le_min le_rfl (add_le_add (c.leastPoints_le env hrule) (c.low_le_high env))
    _ ≤ c.upperBound env := le_highest hrule

/-! ### Complete assessments -/

/-- Required services only add to what is missing. -/
theorem missing_of_parts {names missing : List String}
    (h : names.foldl (fun missing name => if missing.contains name then missing else missing ++ [name]) missing = []) :
    missing = [] := by
  induction names generalizing missing with
  | nil => exact h
  | cons name names ih =>
      have hnext : (if missing.contains name then missing else missing ++ [name]) = [] := ih h
      split at hnext
      · exact hnext
      · simp at hnext

theorem contributions_eq : (c.measured env).contributions =
    [typePart c.ipv6 (family c.ipv6).typeWeight (c.possible env)
        (ipTypeOf (family c.ipv6).types (votes env c.r c.now)),
      riskPart env c.r c.now c.ipv6 (family c.ipv6).sources] ++
    (if c.ipv6 then [] else [ipPurePart env c.r c.now]) ++
    [unlockPart env c.r c.now c.preferences.targetRegion (family c.ipv6).unlockWeight (family c.ipv6).unlocks] := rfl

theorem contributions_missing (h : (c.measured env).missing = []) :
    ∀ part ∈ (c.measured env).contributions, part.missing = [] :=
  List.flatMap_eq_nil_iff.1 (missing_of_parts h)

theorem known_of_missing {ipv6 : Bool} {weight : ℚ} {possible : List TypeRule} {ipType : Option IPType}
    (h : (typePart ipv6 weight possible ipType).missing = []) : ipType.isSome := by
  cases ipType with
  | none => simp [typePart] at h
  | some kind => rfl

theorem known_of_filter {items : List WeightedItem} {share : WeightedItem → Option ℚ}
    {name : WeightedItem → String} (h : (items.filter fun item => (share item).isNone).map name = []) :
    ∀ item ∈ items, (share item).isSome := by
  intro item hitem
  have hnone := List.filter_eq_nil_iff.1 (List.map_eq_nil_iff.1 h) item hitem
  simpa [← Option.isSome_iff_ne_none] using hnone

theorem ipPure_of_missing (h : c.ipv6 = false → (ipPurePart env c.r c.now).missing = []) :
    (c.ipPure env).isSome := by
  unfold Check.ipPure
  cases hfamily : c.ipv6 with
  | true => rfl
  | false =>
      have hpart := h hfamily
      unfold ipPurePart at hpart
      cases hscore : c.r.ipPureScore env c.now with
      | none => simp [hscore] at hpart
      | some score => rfl

/-- With nothing missing the least and the greatest sum agree. -/
theorem low_eq_high (h : (c.measured env).missing = []) : c.low env = c.high env := by
  have hparts := c.contributions_missing env h
  rw [contributions_eq] at hparts
  have hrisk := hparts (riskPart env c.r c.now c.ipv6 (family c.ipv6).sources) (by simp)
  have hunlock := hparts (unlockPart env c.r c.now c.preferences.targetRegion (family c.ipv6).unlockWeight
    (family c.ipv6).unlocks) (by simp)
  have hpure := c.ipPure_of_missing env fun hfamily => hparts (ipPurePart env c.r c.now) (by simp [hfamily])
  rw [riskPart_eq] at hrisk
  rw [unlockPart_eq] at hunlock
  have hriskSum : lowSum WeightedItem.weight (c.sourceShare env) (family c.ipv6).sources =
      highSum WeightedItem.weight (c.sourceShare env) (family c.ipv6).sources :=
    lowSum_eq_highSum (known_of_filter hrisk)
  have hunlockSum : lowSum WeightedItem.weight (c.serviceShare env) (family c.ipv6).unlocks =
      highSum WeightedItem.weight (c.serviceShare env) (family c.ipv6).unlocks :=
    lowSum_eq_highSum (known_of_filter hunlock)
  obtain ⟨score, hscore⟩ := Option.isSome_iff_exists.1 hpure
  rw [Check.low, Check.high, hriskSum, hunlockSum, hscore]
  rfl

/-- With nothing missing one type is left. -/
theorem possible_of_missing (h : (c.measured env).missing = []) :
    c.known env = true ∧ ∃ rule, c.possible env = [rule] := by
  have hparts := c.contributions_missing env h
  rw [contributions_eq] at hparts
  have hknown := known_of_missing (hparts _ (List.mem_append_left _ (List.mem_append_left _ List.mem_cons_self)))
  exact ⟨hknown, ipTypeOf_isSome_iff.1 hknown⟩

/-- Nothing is open in a complete assessment. -/
theorem bounds_of_complete (h : (c.assessAt env).status = .complete) :
    (c.assessAt env).min = (c.assessAt env).max := by
  obtain ⟨status, _, _, _, _, heq, -, hcomplete⟩ := c.assessAt_eq env
  have hstatus : status = .complete := by rw [← h, heq]
  have hmissing := hcomplete hstatus
  obtain ⟨hknown, rule, hrule⟩ := c.possible_of_missing env hmissing
  have hvalue : c.lowValue env rule = c.highValue env rule := by
    rw [lowValue, highValue, leastPoints, hknown, c.low_eq_high env hmissing]
    simp
  have hlower : c.lowerBound env = min 100 (c.lowValue env rule) := by rw [lowerBound, hrule]; rfl
  have hupper : c.upperBound env = max 0 (c.highValue env rule) := by rw [upperBound, hrule]; rfl
  rw [assessAt_min, assessAt_max, hlower, hupper, hvalue]
  exact roundedScore_limits _

end Check

/-! ## Completions -/

/-- `c'` is about the same address, has the valid evidence of `c`, and no other types. -/
structure Completes (env : Env) (c c' : Check) : Prop where
  address : parseIP c'.r.address = parseIP c.r.address
  slots : ∀ source ∈ (family c.ipv6).sources, Completed (c.slot env source.name) (c'.slot env source.name)
  ipPure : c.ipv6 = false → Completed (c.r.ipPureScore env c.now) (c'.r.ipPureScore env c'.now)
  services : ∀ item ∈ (family c.ipv6).unlocks,
    c.service env item.name ≠ .unknown → c'.service env item.name = c.service env item.name
  types : ∀ kind ∈ (c'.assessAt env).typeCandidates, kind ∈ (c.assessAt env).typeCandidates

namespace Completes

theorem refl (env : Env) (c : Check) : Completes env c c where
  address := rfl
  slots _ _ _ hv := hv
  ipPure _ _ hv := hv
  services _ _ _ := rfl
  types _ hkind := hkind

variable {env : Env} {c c' : Check}

theorem ipv6_eq (h : Completes env c c') : c'.ipv6 = c.ipv6 := by
  rw [Check.ipv6, Check.ipv6, isIPv6, isIPv6, h.address]

theorem completed_ipPure (h : Completes env c c') : Completed (c.ipPure env) (c'.ipPure env) := by
  intro v hv
  unfold Check.ipPure at hv ⊢
  rw [h.ipv6_eq]
  cases hfamily : c.ipv6 with
  | true => rwa [hfamily] at hv
  | false =>
      rw [hfamily] at hv
      exact h.ipPure hfamily v hv

theorem subset (h : Completes env c c') : ∀ rule ∈ c'.possible env, rule ∈ c.possible env := by
  intro rule hrule
  have hname : rule.name ∈ (c.assessAt env).typeCandidates := by
    refine h.types _ ?_
    rw [Check.assessAt_typeCandidates]
    exact List.mem_map_of_mem hrule
  rw [Check.assessAt_typeCandidates] at hname
  obtain ⟨old, hold, hsame⟩ := List.mem_map.1 hname
  have hmem := c'.mem_types env hrule
  rw [h.ipv6_eq] at hmem
  exact rule_eq_of_name old (c.mem_types env hold) rule hmem hsame ▸ hold

theorem known (h : Completes env c c') (hknown : c.known env = true) : c'.known env = true := by
  have hsubset := h.subset
  unfold Check.possible at hsubset
  unfold Check.known at hknown ⊢
  rw [h.ipv6_eq] at hsubset ⊢
  exact known_of_subset hsubset hknown

theorem leastPoints_le (h : Completes env c c') {rule : TypeRule} (hrule : rule ∈ c'.possible env) :
    c.leastPoints env rule ≤ c'.leastPoints env rule := by
  have hnonneg := points_nonneg rule (c'.mem_types env hrule)
  unfold Check.leastPoints
  rw [h.ipv6_eq]
  cases hknown : c.known env with
  | true => rw [h.known hknown]
  | false =>
      cases c'.known env with
      | true => cases c.ipv6 <;> simp [hnonneg]
      | false => exact le_rfl

theorem low_le (h : Completes env c c') : c.low env ≤ c'.low env := by
  have hrisk : lowSum WeightedItem.weight (c.sourceShare env) (family c.ipv6).sources ≤
      lowSum WeightedItem.weight (c'.sourceShare env) (family c.ipv6).sources :=
    lowSum_mono source_weight_nonneg (fun _ _ => c'.isShare_slot env _)
      fun source hsource => completed_riskShare (h.slots source hsource)
  have hunlock : lowSum WeightedItem.weight (c.serviceShare env) (family c.ipv6).unlocks ≤
      lowSum WeightedItem.weight (c'.serviceShare env) (family c.ipv6).unlocks :=
    lowSum_mono unlock_weight_nonneg (fun _ _ => isShare_unlockShare _)
      fun item hitem => completed_unlockShare (h.services item hitem)
  have hpure : (riskShare (c.ipPure env)).getD 0 ≤ (riskShare (c'.ipPure env)).getD 0 :=
    getD_zero_mono (c'.isShare_ipPure env) (completed_riskShare h.completed_ipPure)
  unfold Check.low
  rw [h.ipv6_eq]
  linarith

theorem high_le (h : Completes env c c') : c'.high env ≤ c.high env := by
  have hrisk : highSum WeightedItem.weight (c'.sourceShare env) (family c.ipv6).sources ≤
      highSum WeightedItem.weight (c.sourceShare env) (family c.ipv6).sources :=
    highSum_anti source_weight_nonneg (fun _ _ => c'.isShare_slot env _)
      fun source hsource => completed_riskShare (h.slots source hsource)
  have hunlock : highSum WeightedItem.weight (c'.serviceShare env) (family c.ipv6).unlocks ≤
      highSum WeightedItem.weight (c.serviceShare env) (family c.ipv6).unlocks :=
    highSum_anti unlock_weight_nonneg (fun _ _ => isShare_unlockShare _)
      fun item hitem => completed_unlockShare (h.services item hitem)
  have hpure : (riskShare (c'.ipPure env)).getD 1 ≤ (riskShare (c.ipPure env)).getD 1 :=
    getD_one_anti (c'.isShare_ipPure env) (completed_riskShare h.completed_ipPure)
  unfold Check.high
  rw [h.ipv6_eq]
  linarith

theorem min_le (h : Completes env c c') : (c.assessAt env).min ≤ (c'.assessAt env).min := by
  rw [Check.assessAt_min, Check.assessAt_min]
  exact roundedScore_mono (lowest_mono h.subset fun rule hrule =>
    min_le_min le_rfl (add_le_add (h.leastPoints_le hrule) h.low_le))

theorem max_le (h : Completes env c c') : (c'.assessAt env).max ≤ (c.assessAt env).max := by
  rw [Check.assessAt_max, Check.assessAt_max]
  exact roundedScore_mono (highest_anti h.subset fun rule hrule =>
    min_le_min le_rfl (add_le_add le_rfl h.high_le))

end Completes

/-! ## Comparisons -/

theorem assess_eq_of_status {env : Env} {c : Check} (h : (c.assess env).status ≠ .expired) :
    c.assess env = c.assessAt env := by
  have hassess : c.assess env = IPQuality.assess env c.report c.checkedAt c.changed c.now c.preferences := rfl
  rw [hassess, IPQuality.assess] at h ⊢
  dsimp only at h ⊢
  split
  · rfl
  · rename_i hexpired
    rw [if_neg hexpired] at h
    split
    · rfl
    · rename_i stamp hstamp
      rw [hstamp] at h
      dsimp only at h
      split
      · rfl
      · rename_i hlater
        rw [if_neg hlater] at h
        exact absurd rfl h

theorem delta_of_scoreImproved {current candidate : Assessment} {compatible : Bool} {delta : Option Int}
    (h : compare current candidate compatible = (true, .scoreImproved, delta)) :
    current.status ≠ .expired ∧ candidate.status ≠ .expired ∧ 10 ≤ candidate.min - current.max := by
  unfold compare at h
  split at h
  · cases h
  · split at h
    · cases h
    · rename_i hstatus
      split at h
      · cases h
      · dsimp only at h
        split at h
        · cases h
        · split at h
          · cases h
          · split at h
            · cases h
            · split at h
              · rename_i hdelta
                simp only [Bool.or_eq_true, Bool.and_eq_true, beq_iff_eq, bne_iff_ne, not_or, not_and,
                  not_not] at hstatus
                refine ⟨hstatus.1.1.2, fun hexpired => ?_, ?_⟩
                · have hcomplete := hstatus.1.2
                  rw [hexpired] at hcomplete
                  exact absurd (hcomplete (by decide)) (by decide)
                · cases hscore : current.score with
                  | none => simp [hscore] at hdelta
                  | some score => simpa [hscore] using hdelta
              · cases h

/-! ## Soundness -/

/-- The interval of an assessment is one, holds its score, and holds the intervals of all checks that complete
it; so a recommendation by score stands whatever the missing evidence turns out to be. -/
theorem quality_interval_sound (env : Env) :
    (∀ c : Check, 1 ≤ (c.assessAt env).min ∧ (c.assessAt env).min ≤ (c.assessAt env).max ∧
      (c.assessAt env).max ≤ 100 ∧ (∀ score, (c.assessAt env).score = some score → score = (c.assessAt env).min) ∧
      ((c.assessAt env).status = .complete → (c.assessAt env).min = (c.assessAt env).max)) ∧
    (∀ c c' : Check, Completes env c c' →
      (c.assessAt env).min ≤ (c'.assessAt env).min ∧ (c'.assessAt env).min ≤ (c'.assessAt env).max ∧
        (c'.assessAt env).max ≤ (c.assessAt env).max) ∧
    (∀ (current candidate : Check) (a b : Assessment) (compatible : Bool) (delta : Option Int),
      a = current.assessAt env ∨ a = current.assess env → b = candidate.assessAt env ∨ b = candidate.assess env →
      compare a b compatible = (true, .scoreImproved, delta) →
      ∀ current' candidate' : Check, Completes env current current' → Completes env candidate candidate' →
        (current'.assessAt env).max + 10 ≤ (candidate'.assessAt env).min) := by
  have horder : ∀ c : Check, (c.assessAt env).min ≤ (c.assessAt env).max := by
    intro c
    rw [Check.assessAt_min, Check.assessAt_max]
    exact roundedScore_mono (c.lowerBound_le_upperBound env)
  refine ⟨fun c => ⟨?_, horder c, ?_, ?_, c.bounds_of_complete env⟩, fun c c' h => ?_, ?_⟩
  · rw [Check.assessAt_min]
    exact (roundedScore_range _).1
  · rw [Check.assessAt_max]
    exact (roundedScore_range _).2
  · intro score hscore
    obtain ⟨_, _, _, _, _, heq, hmin, -⟩ := c.assessAt_eq env
    rw [heq] at hscore ⊢
    exact hmin score hscore
  · exact ⟨h.min_le, horder c', h.max_le⟩
  · intro current candidate a b compatible delta ha hb hcompare current' candidate' hcurrent hcandidate
    obtain ⟨hastatus, hbstatus, hdelta⟩ := delta_of_scoreImproved hcompare
    have haeq : a = current.assessAt env := by
      rcases ha with ha | ha
      · exact ha
      · rw [ha] at hastatus ⊢
        exact assess_eq_of_status hastatus
    have hbeq : b = candidate.assessAt env := by
      rcases hb with hb | hb
      · exact hb
      · rw [hb] at hbstatus ⊢
        exact assess_eq_of_status hbstatus
    rw [haeq, hbeq] at hdelta
    have hmax := hcurrent.max_le
    have hmin := hcandidate.min_le
    omega

namespace HostedAddress

/-- Two numbers and one time are read. -/
def env : Env where
  parseFloat text := if text = "0" then some 0 else if text = "100" then some 100 else none
  parseTime text := if text = "2026-09-25T00:00:00Z" then some (63925891200 * second) else none
  formatTime _ := "2026-09-26T00:00:00Z"

def observed (address : String) (sources : List String) : List Observation :=
  sources.map fun source => ⟨source, "ok", address, "2026-09-25T00:00:00Z"⟩

def check (report : Report) : Check :=
  ⟨some report, "2026-09-25T00:00:00Z", false, 63925891200 * second, ⟨[], ""⟩⟩

/-- A hosted address with the worst scores that does not unlock one service. -/
def current : Check := check
  { address := "2a01:4f8::1",
    observations := observed "2a01:4f8::1" ["ipapi", "IPQS", "AbuseIPDB", "service:ChatGPT"],
    usageTypes := [⟨"ipapi", "hosting"⟩], scores := [⟨"IPQS", "100"⟩, ⟨"AbuseIPDB", "100"⟩],
    services := [⟨"ChatGPT", "Block", ""⟩] }

/-- A residential address with the best scores, whose services are not known. -/
def candidate : Check := check
  { address := "2a01:4f8::2", observations := observed "2a01:4f8::2" ["ipapi", "IPQS", "AbuseIPDB"],
    usageTypes := [⟨"ipapi", "residential"⟩], scores := [⟨"IPQS", "0"⟩, ⟨"AbuseIPDB", "0"⟩] }

/-- What is found out later about the residential address. -/
def completed : Check := check
  { address := "2a01:4f8::2",
    observations := observed "2a01:4f8::2" ["ipapi", "IPQS", "AbuseIPDB", "service:ChatGPT"],
    usageTypes := [⟨"ipapi", "residential"⟩], scores := [⟨"IPQS", "0"⟩, ⟨"AbuseIPDB", "0"⟩],
    services := [⟨"ChatGPT", "Block", ""⟩] }

theorem candidate_completed : Completes env candidate completed where
  address := rfl
  slots source hsource := by
    have hsame : ∀ source ∈ (family candidate.ipv6).sources,
        candidate.slot env source.name = completed.slot env source.name := by decide +kernel
    exact fun v hv => hsame source hsource ▸ hv
  ipPure h := absurd h (by decide)
  services := by decide +kernel
  types := by decide +kernel

theorem recommendation_stands :
    compare (current.assessAt env) (candidate.assessAt env) true = (true, .scoreImproved, some 22) ∧
      (current.assessAt env).max + 10 ≤ (completed.assessAt env).min := by
  have hcompare : compare (current.assessAt env) (candidate.assessAt env) true =
      (true, .scoreImproved, some 22) := by decide +kernel
  obtain ⟨-, -, hstands⟩ := quality_interval_sound env
  exact ⟨hcompare, hstands current candidate _ _ true _ (Or.inl rfl) (Or.inl rfl) hcompare current completed
    (Completes.refl env current) candidate_completed⟩

end HostedAddress

end IPQuality
end Vastora
