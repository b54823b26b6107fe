import Vastora.Landing.Sources
import Vastora.Library.JsonDecode
import Vastora.Library.JsonIndent

/-!
# Policy — access rules in the network policy

A rule lets one private address reach the ports of a landing server at another.  `normalizeAccessRules` is the
union of rules on pairs of addresses, computed by merging neighbours in a sorted copy, and
`extendHeadscalePolicy` adds one grant for each of them to the deployer's base policy.  The raw messages of the
base policy are its documents.
-/

namespace Vastora
namespace Landing

open Library Library.Guard

structure AccessRule where
  source : String
  destination : String
  tcpOnly : Bool
deriving DecidableEq, Repr

def AccessRule.less (a b : AccessRule) : Bool :=
  if a.source < b.source then true
  else if b.source < a.source then false
  else decide (a.destination < b.destination)

def AccessRule.valid (rule : AccessRule) : Bool :=
  tailnetIPv4 rule.source && tailnetIPv4 rule.destination && rule.source != rule.destination

/-- One round of the loop over the sorted rules. -/
def mergeRule (merged : List AccessRule) (rule : AccessRule) : List AccessRule :=
  match merged.getLast? with
  | some last =>
      if last.source = rule.source ∧ last.destination = rule.destination then
        merged.dropLast ++ [{ last with tcpOnly := last.tcpOnly && rule.tcpOnly }]
      else merged ++ [rule]
  | none => merged ++ [rule]

def normalizeAccessRules (sorter : Sorter) (rules : List AccessRule) : Except String (List AccessRule) := do
  require (rules.length ≤ 128) "landing: too many access rules"
  require (rules.all AccessRule.valid) "landing: invalid private access rule"
  return (sorter.sort AccessRule.less rules).foldl mergeRule []

/-! ## The network policy -/

/-- `SOCKSPort`, and the ports from `UDPRelayFirst` to `UDPRelayLast`. -/
def rulePorts (rule : AccessRule) : List String :=
  if rule.tcpOnly then ["tcp:1080"] else ["tcp:1080", "udp:1081-1208"]

def ruleGrant (rule : AccessRule) : Json :=
  .object [("src", .array [.string (rule.source ++ "/32")]),
    ("dst", .array [.string (rule.destination ++ "/32")]),
    ("ip", .array ((rulePorts rule).map .string))]

/-- A slice of raw messages; `none` is the nil slice. -/
def unmarshalRaws : Json → Option (Option (List Json))
  | .null => some none
  | .array items => some (some items)
  | _ => none

def marshalRaws : Option (List Json) → Json
  | none => .null
  | some items => .array items

/-- A map of raw messages, in the order of its keys. -/
def unmarshalRawMap : Json → Option (List (String × Json))
  | .object members => some (members.foldl (fun policy member => Json.insertMember member.1 member.2 policy) [])
  | _ => none

/-- `base` is the document of the base text, if it is one. -/
def extendHeadscalePolicy (sorter : Sorter) (base : Option Json) (rules : List AccessRule) :
    Except String (List Char) := do
  let rules ← normalizeAccessRules sorter rules
  let policy ← fetch (base.bind unmarshalRawMap) "landing: invalid base network policy"
  let grants ← fetch ((policy.lookup "grants").bind unmarshalRaws) "landing: base management grants are missing"
  let grants := rules.foldl (fun grants rule => some (grants.getD [] ++ [ruleGrant rule])) grants
  return Json.encodeIndent 0 (.object (Json.insertMember "grants" (marshalRaws grants) policy))

/-! ## Merging neighbours -/

def AccessRule.pair (rule : AccessRule) : String ×ₗ String := toLex (rule.source, rule.destination)

/-- What the rules come to. -/
def RuleUnion : List AccessRule → List AccessRule → Prop := IsUnion AccessRule.pair AccessRule.tcpOnly

/-- The same in ascending order of the pairs. -/
def AscendingRules : List AccessRule → List AccessRule → Prop :=
  IsAscendingUnion AccessRule.pair AccessRule.tcpOnly

theorem AccessRule.pair_eq_iff {a b : AccessRule} :
    a.pair = b.pair ↔ a.source = b.source ∧ a.destination = b.destination := by
  rw [AccessRule.pair, AccessRule.pair, toLex_inj, Prod.mk.injEq]

theorem AccessRule.ext_of (a b : AccessRule) (hpair : a.pair = b.pair) (htcp : a.tcpOnly = b.tcpOnly) : a = b := by
  obtain ⟨hsource, hdestination⟩ := AccessRule.pair_eq_iff.1 hpair
  cases a
  cases b
  simp_all

theorem AccessRule.less_iff (a b : AccessRule) : a.less b = true ↔ a.pair < b.pair := by
  rw [AccessRule.pair, AccessRule.pair, Prod.Lex.toLex_lt_toLex, AccessRule.less]
  rcases lt_trichotomy a.source b.source with h | h | h
  · simp [h]
  · simp [h]
  · simp [h, h.not_gt, h.ne']

section Rules

variable {rules rules' rest merged result : List AccessRule} {rule : AccessRule}

/-- One round keeps the union of the rules so far when the next rule is not before them. -/
theorem mergeRule_ascending (h : AscendingRules rules merged) (hle : ∀ a ∈ merged, a.pair ≤ rule.pair) :
    AscendingRules (rules ++ [rule]) (mergeRule merged rule) := by
  rcases List.eq_nil_or_concat merged with rfl | ⟨before, last, rfl⟩
  · exact ⟨IsUnion.add_fresh h.union (by simp), List.pairwise_singleton _ _⟩
  · rw [List.concat_eq_append] at *
    obtain ⟨hbefore, -, hlast⟩ := List.pairwise_append.1 h.ascending
    have hlast : ∀ a ∈ before, a.pair < last.pair := fun a ha => hlast a ha last (List.mem_singleton_self _)
    have hstep : mergeRule (before ++ [last]) rule =
        if last.pair = rule.pair then before ++ [{ last with tcpOnly := last.tcpOnly && rule.tcpOnly }]
        else before ++ [last] ++ [rule] := by
      simp [mergeRule, AccessRule.pair_eq_iff]
    rw [hstep]
    split
    · rename_i hpair
      -- the last entry is rewritten and keeps its place
      refine ⟨IsUnion.add_known h.union hpair.symm rfl (Bool.and_comm _ _), ?_⟩
      refine List.pairwise_append.2 ⟨hbefore, List.pairwise_singleton _ _, fun a ha b hb => ?_⟩
      rw [List.mem_singleton.1 hb]
      exact hlast a ha
    · rename_i hpair
      have hlt : last.pair < rule.pair := lt_of_le_of_ne (hle last (by simp)) hpair
      have hgreater : ∀ a ∈ before ++ [last], a.pair < rule.pair := by
        intro a ha
        rcases List.mem_append.1 ha with ha | ha
        · exact (hlast a ha).trans hlt
        · rw [List.mem_singleton.1 ha]
          exact hlt
      refine ⟨IsUnion.add_fresh h.union fun a ha => (hgreater a ha).ne, ?_⟩
      refine List.pairwise_append.2 ⟨h.ascending, List.pairwise_singleton _ _, fun a ha b hb => ?_⟩
      rw [List.mem_singleton.1 hb]
      exact hgreater a ha

theorem mergeRules_ascending (h : AscendingRules rules merged)
    (hsorted : rest.Pairwise fun a b => a.pair ≤ b.pair) (hle : ∀ a ∈ merged, ∀ b ∈ rest, a.pair ≤ b.pair) :
    AscendingRules (rules ++ rest) (rest.foldl mergeRule merged) := by
  induction rest generalizing rules merged with
  | nil => rwa [List.append_nil]
  | cons rule rest ih =>
      rw [List.pairwise_cons] at hsorted
      have hstep := mergeRule_ascending h fun a ha => hle a ha rule List.mem_cons_self
      have hnext : ∀ a ∈ mergeRule merged rule, ∀ b ∈ rest, a.pair ≤ b.pair := by
        intro a ha b hb
        obtain ⟨use, huse, hpair⟩ := IsUnion.exists_use hstep.union ha
        rcases List.mem_append.1 huse with huse | huse
        · obtain ⟨old, hold, holdpair⟩ := IsUnion.exists_key h.union huse
          rw [← hpair, ← holdpair]
          exact hle old hold b (List.mem_cons_of_mem _ hb)
        · rw [← hpair, List.mem_singleton.1 huse]
          exact hsorted.1 b hb
      have hrest := ih hstep hsorted.2 hnext
      rwa [List.append_assoc, List.singleton_append] at hrest

theorem sortedRules_ascending (sorter : Sorter) (rules : List AccessRule) :
    AscendingRules rules ((sorter.sort AccessRule.less rules).foldl mergeRule []) := by
  have hsorted := sorter.sorted AccessRule.pair AccessRule.less rules AccessRule.less_iff
  have hmerged : AscendingRules ([] ++ _) _ :=
    mergeRules_ascending ⟨IsUnion.nil, List.Pairwise.nil⟩ hsorted (by simp)
  exact ⟨hmerged.union.congr fun _ => Sorter.mem_sort, hmerged.ascending⟩

theorem normalizeAccessRules_eq (sorter : Sorter) (hunion : AscendingRules rules result) :
    normalizeAccessRules sorter rules =
      if rules.length ≤ 128 then
        if rules.all AccessRule.valid then .ok result else .error "landing: invalid private access rule"
      else .error "landing: too many access rules" := by
  have hresult : (sorter.sort AccessRule.less rules).foldl mergeRule [] = result :=
    (sortedRules_ascending sorter rules).unique AccessRule.ext_of hunion
  rw [normalizeAccessRules, hresult]
  by_cases hmany : rules.length ≤ 128
  · cases hvalid : rules.all AccessRule.valid <;> simp [require, hmany] <;> rfl
  · simp [require, hmany]
    rfl

section Normalized

variable {sorter sorter' : Sorter}

theorem normalizeAccessRules_eq_ok_iff : normalizeAccessRules sorter rules = .ok result ↔
    rules.length ≤ 128 ∧ (∀ rule ∈ rules, rule.valid = true) ∧ AscendingRules rules result := by
  have hunion := sortedRules_ascending sorter rules
  rw [normalizeAccessRules_eq sorter hunion, ← List.all_eq_true]
  constructor
  · intro h
    split at h
    · rename_i hmany
      split at h
      · rename_i hvalid
        cases h
        exact ⟨hmany, hvalid, hunion⟩
      · cases h
    · cases h
  · rintro ⟨hmany, hvalid, hresult⟩
    rw [if_pos hmany, if_pos hvalid, hunion.unique AccessRule.ext_of hresult]

/-- Rules with the same members are normalised the same way if the lists are both too long or both not. -/
theorem normalizeAccessRules_congr (hlength : rules.length ≤ 128 ↔ rules'.length ≤ 128)
    (hmem : ∀ rule, rule ∈ rules ↔ rule ∈ rules') :
    normalizeAccessRules sorter rules = normalizeAccessRules sorter' rules' := by
  have hunion' := sortedRules_ascending sorter' rules'
  have hunion : AscendingRules rules _ := ⟨hunion'.union.congr fun rule => (hmem rule).symm, hunion'.ascending⟩
  have hvalid : rules.all AccessRule.valid = rules'.all AccessRule.valid := by
    rw [Bool.eq_iff_iff, List.all_eq_true, List.all_eq_true]
    exact forall_congr' fun rule => imp_congr_left (hmem rule)
  rw [normalizeAccessRules_eq sorter hunion, normalizeAccessRules_eq sorter' hunion', hvalid]
  simp only [hlength]

theorem valid_of_union (hunion : RuleUnion rules result) (hvalid : ∀ rule ∈ rules, rule.valid = true) :
    ∀ rule ∈ result, rule.valid = true := by
  intro rule hrule
  obtain ⟨use, huse, hpair⟩ := IsUnion.exists_use hunion hrule
  obtain ⟨hsource, hdestination⟩ := AccessRule.pair_eq_iff.1 hpair
  have huse := hvalid use huse
  rwa [AccessRule.valid, hsource, hdestination] at huse

/-- The union of some rules stands for them. -/
theorem normalizeAccessRules_absorb {total : List AccessRule} (h : normalizeAccessRules sorter rules = .ok result)
    (htotal : normalizeAccessRules sorter (rules ++ rest) = .ok total) :
    normalizeAccessRules sorter' (result ++ rest) = .ok total := by
  obtain ⟨-, hvalid, hunion⟩ := normalizeAccessRules_eq_ok_iff.1 h
  obtain ⟨hlength, hvalidAll, hunionAll⟩ := normalizeAccessRules_eq_ok_iff.1 htotal
  rw [List.forall_mem_append] at hvalidAll
  have hshorter : (result ++ rest).length ≤ 128 := by
    refine le_trans ?_ hlength
    rw [List.length_append, List.length_append]
    exact Nat.add_le_add_right hunion.union.length_le _
  have hvalid' : ∀ rule ∈ result ++ rest, rule.valid = true :=
    List.forall_mem_append.2 ⟨valid_of_union hunion.union hvalid, hvalidAll.2⟩
  obtain ⟨hsame, hascending⟩ := sortedRules_ascending sorter' (result ++ rest)
  have hmerged : AscendingRules (rules ++ rest) _ := ⟨hunion.union.absorb hsame, hascending⟩
  rw [hmerged.unique AccessRule.ext_of hunionAll] at hsame
  exact normalizeAccessRules_eq_ok_iff.2 ⟨hshorter, hvalid', hsame, hunionAll.ascending⟩

theorem normalizeAccessRules_idem (h : normalizeAccessRules sorter rules = .ok result) :
    normalizeAccessRules sorter' result = .ok result := by
  have hnil : normalizeAccessRules sorter (rules ++ []) = .ok result := by rwa [List.append_nil]
  have hagain : normalizeAccessRules sorter' (result ++ []) = .ok result := normalizeAccessRules_absorb h hnil
  rwa [List.append_nil] at hagain

/-- Fewer rules are normalised too. -/
theorem normalizeAccessRules_of_sublist (sorter' : Sorter) (h : normalizeAccessRules sorter rules = .ok result)
    (hsub : rules'.Sublist rules) : ∃ result', normalizeAccessRules sorter' rules' = .ok result' := by
  obtain ⟨hlength, hvalid, -⟩ := normalizeAccessRules_eq_ok_iff.1 h
  exact ⟨_, normalizeAccessRules_eq_ok_iff.2 ⟨hsub.length_le.trans hlength,
    fun rule hrule => hvalid rule (hsub.subset hrule), sortedRules_ascending sorter' rules'⟩⟩

end Normalized

/-! ## The text of the policy -/

section Text

variable {sorter sorter' : Sorter} {base : Option Json} {policy : List (String × Json)} {text : List Char}

/-- What the policy language grants for a rule: the source reaches TCP port 1080 of the destination, and its UDP
ports 1081 to 1208 unless the rule is for TCP only. -/
def GrantFor (rule : AccessRule) (grant : Json) : Prop :=
  grant = .object [("src", .array [.string (rule.source ++ "/32")]),
    ("dst", .array [.string (rule.destination ++ "/32")]),
    ("ip", .array (.string "tcp:1080" :: if rule.tcpOnly then [] else [.string "udp:1081-1208"]))]

/-- `text` is the policy with one more grant for each rule, and nothing else changed. -/
structure GrantsAdded (policy : List (String × Json)) (rules : List AccessRule) (text : List Char)
    (document : List (String × Json)) : Prop where
  written : text = Json.encodeIndent 0 (.object document)
  readable : ∀ other, text = Json.encodeIndent 0 other → other = .object document
  names : document.Pairwise fun m m' => m.1 < m'.1
  others : ∀ name, name ≠ "grants" → document.lookup name = policy.lookup name
  grants : ∃ old new added, (policy.lookup "grants").bind unmarshalRaws = some old ∧
    (document.lookup "grants").bind unmarshalRaws = some new ∧
    new.getD [] = old.getD [] ++ added ∧ List.Forall₂ GrantFor rules added

theorem ruleGrant_grantFor (rule : AccessRule) : GrantFor rule (ruleGrant rule) := by
  rw [GrantFor, ruleGrant, rulePorts]
  split <;> rfl

theorem forall_grantFor (rules : List AccessRule) : List.Forall₂ GrantFor rules (rules.map ruleGrant) :=
  List.forall₂_map_right_iff.2 (List.forall₂_same.2 fun rule _ => ruleGrant_grantFor rule)

theorem unmarshalRaws_marshalRaws (grants : Option (List Json)) :
    unmarshalRaws (marshalRaws grants) = some grants := by
  cases grants <;> rfl

theorem addGrants (rules : List AccessRule) (grants : Option (List Json)) :
    (rules.foldl (fun grants rule => some (grants.getD [] ++ [ruleGrant rule])) grants).getD [] =
      grants.getD [] ++ rules.map ruleGrant := by
  induction rules generalizing grants with
  | nil => simp
  | cons rule rules ih =>
      rw [List.foldl_cons, ih]
      simp

theorem pairwise_unmarshalRawMap (h : base.bind unmarshalRawMap = some policy) :
    policy.Pairwise fun m m' => m.1 < m'.1 := by
  have hfold : ∀ (members policy : List (String × Json)), (policy.Pairwise fun m m' => m.1 < m'.1) →
      (members.foldl (fun policy member => Json.insertMember member.1 member.2 policy) policy).Pairwise
        fun m m' => m.1 < m'.1 := by
    intro members
    induction members with
    | nil => exact fun _ h => h
    | cons member members ih => exact fun _ h => ih _ (Json.pairwise_insertMember h)
  obtain ⟨document, -, hmap⟩ := Option.bind_eq_some_iff.1 h
  cases document with
  | object members =>
      cases hmap
      exact hfold members [] List.Pairwise.nil
  | _ => cases hmap

theorem extendHeadscalePolicy_grants (h : extendHeadscalePolicy sorter base rules = .ok text) :
    ∃ merged policy document, normalizeAccessRules sorter rules = .ok merged ∧
      base.bind unmarshalRawMap = some policy ∧ GrantsAdded policy merged text document := by
  rw [extendHeadscalePolicy] at h
  obtain ⟨merged, hmerged, h⟩ := bind_eq_ok_iff.1 h
  obtain ⟨policy, hpolicy, h⟩ := fetch_bind_eq_ok_iff.1 h
  obtain ⟨grants, hgrants, h⟩ := fetch_bind_eq_ok_iff.1 h
  have htext := (pure_eq_ok_iff.1 h).symm
  refine ⟨merged, policy, _, hmerged, hpolicy, htext, ?_, ?_, ?_, grants, _, _, hgrants, ?_,
    addGrants merged grants, forall_grantFor merged⟩
  · intro other hother
    exact Json.encodeIndent_injective (hother.symm.trans htext)
  · exact Json.pairwise_insertMember (pairwise_unmarshalRawMap hpolicy)
  · intro name hname
    rw [Json.lookup_insertMember, if_neg hname]
  · rw [Json.lookup_insertMember, if_pos rfl]
    exact unmarshalRaws_marshalRaws _

theorem extendHeadscalePolicy_congr
    (h : normalizeAccessRules sorter rules = normalizeAccessRules sorter' rules') :
    extendHeadscalePolicy sorter base rules = extendHeadscalePolicy sorter' base rules' := by
  rw [extendHeadscalePolicy, extendHeadscalePolicy, h]

end Text

end Rules

/-! ## Union of authority -/

/-- Merging sources and rules is a union of authority: how the uses are ordered, grouped and repeated does not
matter, no use is lost or narrowed, and the policy has one grant for each pair of addresses. -/
theorem authority_merged_by_union (sorter sorter' : Sorter) (range range' : Range) :
    (∀ uses uses', uses.flatten.Perm uses'.flatten →
      mergeSources sorter range uses = mergeSources sorter' range' uses') ∧
    (∀ a b merged, mergeSources sorter range [a] = .ok merged →
      mergeSources sorter range [a, b] = mergeSources sorter' range' [merged, b]) ∧
    (∀ uses merged, mergeSources sorter range uses = .ok merged → AscendingSources uses.flatten merged) ∧
    (∀ uses merged kept, mergeSources sorter range uses = .ok merged →
      (∀ source ∈ kept.flatten, source ∈ uses.flatten) →
      ∃ merged', mergeSources sorter' range' kept = .ok merged' ∧ ∀ source ∈ kept.flatten,
        ∃ node ∈ merged', node.address = source.address ∧ (node.tcpOnly = true → source.tcpOnly = true)) ∧
    (∀ rules rules', rules.Perm rules' →
      normalizeAccessRules sorter rules = normalizeAccessRules sorter' rules') ∧
    (∀ a b merged total, normalizeAccessRules sorter a = .ok merged →
      normalizeAccessRules sorter (a ++ b) = .ok total →
      normalizeAccessRules sorter' (merged ++ b) = .ok total) ∧
    (∀ rules merged, normalizeAccessRules sorter rules = .ok merged →
      AscendingRules rules merged ∧ normalizeAccessRules sorter' merged = .ok merged) ∧
    (∀ rules merged kept, normalizeAccessRules sorter rules = .ok merged → kept.Sublist rules →
      ∃ merged', normalizeAccessRules sorter' kept = .ok merged' ∧ ∀ rule ∈ kept,
        ∃ node ∈ merged', node.pair = rule.pair ∧ (node.tcpOnly = true → rule.tcpOnly = true)) ∧
    (∀ base rules rules', rules.Perm rules' →
      extendHeadscalePolicy sorter base rules = extendHeadscalePolicy sorter' base rules') ∧
    (∀ base rules rules', (∀ rule, rule ∈ rules ↔ rule ∈ rules') → rules.length ≤ 128 → rules'.length ≤ 128 →
      extendHeadscalePolicy sorter base rules = extendHeadscalePolicy sorter' base rules') ∧
    (∀ base rules text, extendHeadscalePolicy sorter base rules = .ok text →
      ∃ merged policy document, AscendingRules rules merged ∧ base.bind unmarshalRawMap = some policy ∧
        GrantsAdded policy merged text document) := by
  refine ⟨?_, ?_, ?_, ?_, ?_, ?_, ?_, ?_, ?_, ?_, ?_⟩
  · intro uses uses' hperm
    refine mergeSources_congr ?_ fun result hunion => hunion.congr fun _ => hperm.symm.mem_iff
    exact forall_congr' fun source => imp_congr_left hperm.mem_iff
  · intro a b merged hmerged
    have habsorb : mergeSources sorter range ([a] ++ [b]) = mergeSources sorter' range' [merged, b] :=
      mergeSources_absorb hmerged
    exact habsorb
  · intro uses merged hmerged
    exact (mergeSources_eq_ok_iff.1 hmerged).2.1
  · intro uses merged kept hmerged hsubset
    obtain ⟨merged', hmerged'⟩ := mergeSources_of_subset sorter' range' hmerged hsubset
    exact ⟨merged', hmerged', fun source hsource =>
      (mergeSources_eq_ok_iff.1 hmerged').2.1.union.grants hsource⟩
  · intro rules rules' hperm
    exact normalizeAccessRules_congr (by rw [hperm.length_eq]) fun _ => hperm.mem_iff
  · intro a b merged total hmerged htotal
    exact normalizeAccessRules_absorb hmerged htotal
  · intro rules merged hmerged
    exact ⟨(normalizeAccessRules_eq_ok_iff.1 hmerged).2.2, normalizeAccessRules_idem hmerged⟩
  · intro rules merged kept hmerged hsub
    obtain ⟨merged', hmerged'⟩ := normalizeAccessRules_of_sublist sorter' hmerged hsub
    exact ⟨merged', hmerged', fun rule hrule =>
      (normalizeAccessRules_eq_ok_iff.1 hmerged').2.2.union.grants hrule⟩
  · intro base rules rules' hperm
    exact extendHeadscalePolicy_congr (normalizeAccessRules_congr (by rw [hperm.length_eq]) fun _ => hperm.mem_iff)
  · intro base rules rules' hmem hlength hlength'
    exact extendHeadscalePolicy_congr
      (normalizeAccessRules_congr ⟨fun _ => hlength', fun _ => hlength⟩ hmem)
  · intro base rules text htext
    obtain ⟨merged, policy, document, hmerged, hpolicy, hadded⟩ := extendHeadscalePolicy_grants htext
    exact ⟨merged, policy, document, (normalizeAccessRules_eq_ok_iff.1 hmerged).2.2, hpolicy, hadded⟩

namespace SharedServer

/-- Two features let the first address in, one of them over TCP only. -/
def uses : List (List AuthorizedNode) :=
  [[⟨"100.64.0.3", true⟩, ⟨"100.64.0.2", true⟩], [⟨"100.64.0.2", false⟩]]

def rules : List AccessRule :=
  [⟨"100.64.0.2", "100.64.0.9", true⟩, ⟨"100.64.0.2", "100.64.0.9", false⟩]

def base : Option Json := some (.object [("grants", .array [])])

theorem both_orders_merged :
    mergeSources insertionSorter .inOrder uses = .ok [⟨"100.64.0.2", false⟩, ⟨"100.64.0.3", true⟩] ∧
    mergeSources insertionSorter .inOrder uses.reverse = mergeSources insertionSorter .inOrder uses ∧
    extendHeadscalePolicy insertionSorter base rules.reverse = extendHeadscalePolicy insertionSorter base rules := by
  obtain ⟨hsources, -, -, -, -, -, -, -, hpolicy, -⟩ :=
    authority_merged_by_union insertionSorter insertionSorter .inOrder .inOrder
  exact ⟨rfl, hsources _ _ (by decide), hpolicy _ _ _ (List.reverse_perm _)⟩

end SharedServer

end Landing
end Vastora
