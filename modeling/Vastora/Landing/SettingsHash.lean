import Vastora.Landing.RouteChain

/-!
# SettingsHash — what the hash of a settings document tells

Canonical settings differ from the decoded ones in the place of one rule only, the first dedicated rule of
the management API (`APIRuleFirst`).  Documents have the same hash exactly when they are equal as values
once that rule is in front, so no other edit of the rules goes unnoticed.
-/

namespace Vastora
namespace Landing

open Library Library.Guard Library.FirstMatch

/-- The rule has exactly the form that 3x-ui gives the rule of its API.  The members of a decoded rule stand in
the order of their names. -/
def ExactAPIRule (config rule : Json) : Prop :=
  ∃ tag, tag ≠ "" ∧ (config.field? "api").bind (Json.field? "tag") = some (.string tag) ∧
    rule = .object [("inboundTag", .array [.string tag]), ("outboundTag", .string tag), ("type", .string "field")]

/-- `after` is `before` with its first exact API rule in front of the other rules, which keep their order. -/
inductive APIRuleFirst (before : Json) : Json → Prop
  | absent : (∀ routing rules rule, before.field? "routing" = some routing →
      routing.field? "rules" = some (.array rules) → rule ∈ rules → ¬ ExactAPIRule before rule) →
      APIRuleFirst before before
  | moved (routing : Json) (pre : List Json) (rule : Json) (post : List Json) :
      before.field? "routing" = some routing → routing.field? "rules" = some (.array (pre ++ rule :: post)) →
      (∀ r ∈ pre, ¬ ExactAPIRule before r) → ExactAPIRule before rule →
      APIRuleFirst before (before.setField "routing" (routing.setField "rules" (.array (rule :: (pre ++ post)))))

section Rules

variable {config before rule : Json} {rules : List Json} {raw canonical x y : Document}
  {sha256 : String → List UInt8} {hash hash' : String}

theorem apiTag_eq_iff {tag : String} (h : tag ≠ "") :
    apiTag config = tag ↔ (config.field? "api").bind (Json.field? "tag") = some (.string tag) := by
  unfold apiTag textField
  cases config.field? "api" with
  | none => simp [h.symm]
  | some api =>
      rw [Option.map_some, Option.getD_some, Option.bind_some]
      cases api.field? "tag" with
      | none => simp [h.symm]
      | some value => cases value <;> simp [Json.text?, h.symm]

theorem mem_of_lookup {key : String} {value : Json} {members : List (String × Json)}
    (h : members.lookup key = some value) : (key, value) ∈ members := by
  obtain ⟨before, after, rfl, -⟩ := List.lookup_eq_some_iff.1 h
  simp

/-- Three members with these names are all the members of a decoded rule with three members. -/
theorem eq_object_of_isAPIRule {tag : String} (hsorted : rule.Sorted) (h : isAPIRule tag rule) :
    rule = .object [("inboundTag", .array [.string tag]), ("outboundTag", .string tag),
      ("type", .string "field")] := by
  simp only [isAPIRule, Bool.and_eq_true, beq_iff_eq] at h
  obtain ⟨⟨⟨hthree, htype⟩, houtbound⟩, hinbound⟩ := h
  obtain ⟨members, rfl, hlookup⟩ := Json.eq_object_of_field? htype
  rw [Json.field?_object] at houtbound hinbound
  have hlength : members.length = 3 := by simpa [Json.members?] using hthree
  have hmem : ∀ m ∈ [("inboundTag", strings [tag]), ("outboundTag", .string tag), ("type", .string "field")],
      m ∈ members := by
    simp only [List.forall_mem_cons, List.not_mem_nil, false_implies, implies_true, and_true]
    exact ⟨mem_of_lookup hinbound, mem_of_lookup houtbound,
      mem_of_lookup hlookup⟩
  have hperm := (List.subperm_of_subset (by simp) hmem).perm_of_length_le (by simp [hlength])
  have hnames : [("inboundTag", strings [tag]), ("outboundTag", Json.string tag),
      ("type", .string "field")].Pairwise fun m m' => m.1 < m'.1 := by
    simp only [List.pairwise_cons, List.forall_mem_cons, List.not_mem_nil, false_implies, implies_true, and_true,
      List.Pairwise.nil]
    decide
  rw [← hperm.eq_of_pairwise (fun a b _ _ hab hba => absurd hab (not_lt_of_gt hba)) hnames hsorted.1]
  rfl

theorem exactAPIRule_iff (hsorted : rule.Sorted) :
    ExactAPIRule config rule ↔ apiTag config ≠ "" ∧ isAPIRule (apiTag config) rule := by
  constructor
  · rintro ⟨tag, hne, htag, rfl⟩
    rw [(apiTag_eq_iff hne).2 htag]
    refine ⟨hne, ?_⟩
    simp [isAPIRule, Json.members?, Json.field?, List.lookup, strings]
  · rintro ⟨hne, hrule⟩
    exact ⟨apiTag config, hne, (apiTag_eq_iff hne).1 rfl, eq_object_of_isAPIRule hsorted hrule⟩

/-- The canonical rules when one of the rules is the exact API rule. -/
theorem canonicalRules_of_exact {pre post : List Json} (hsorted : ∀ r ∈ pre ++ rule :: post, r.Sorted)
    (hpre : ∀ r ∈ pre, ¬ ExactAPIRule config r) (hrule : ExactAPIRule config rule) :
    canonicalRules config (pre ++ rule :: post) = rule :: (pre ++ post) := by
  obtain ⟨hne, hrule⟩ := (exactAPIRule_iff (hsorted rule (by simp))).1 hrule
  rw [canonicalRules, if_neg hne]
  refine moveToFront_append (fun r hr hapi => ?_) hrule
  exact hpre r hr ((exactAPIRule_iff (hsorted r (by simp [hr]))).2 ⟨hne, hapi⟩)

/-- The canonical rules when none of them is. -/
theorem canonicalRules_of_absent (hsorted : ∀ r ∈ rules, r.Sorted) (h : ∀ r ∈ rules, ¬ ExactAPIRule config r) :
    canonicalRules config rules = rules := by
  unfold canonicalRules
  split
  · rfl
  · rename_i hne
    have hnone : rules.find? (isAPIRule (apiTag config)) = none := List.find?_eq_none.2 fun r hr hapi =>
      h r hr ((exactAPIRule_iff (hsorted r hr)).2 ⟨hne, hapi⟩)
    rw [moveToFront, hnone]

/-- The canonical rules are the rules, or the first API rule and then the others as they were. -/
theorem canonicalRules_cases (config : Json) (rules : List Json) :
    canonicalRules config rules = rules ∨ ∃ pre rule post, rules = pre ++ rule :: post ∧
      isAPIRule (apiTag config) rule ∧ (∀ r ∈ pre, ¬ isAPIRule (apiTag config) r) ∧
      canonicalRules config rules = rule :: (pre ++ post) := by
  unfold canonicalRules
  split
  · exact Or.inl rfl
  · rcases exists_first (fun r => isAPIRule (apiTag config) r = true) rules with hnone |
      ⟨pre, rule, post, rfl, hpre, hrule⟩
    · exact Or.inl (by rw [moveToFront, List.find?_eq_none.2 hnone])
    · exact Or.inr ⟨pre, rule, post, rfl, hrule, hpre, moveToFront_append hpre hrule⟩

/-- The same rules, and without the API rule in the same order. -/
theorem canonicalRules_perm (config : Json) (rules : List Json) :
    (canonicalRules config rules).Perm rules ∧
      (canonicalRules config rules).eraseP (isAPIRule (apiTag config)) =
        rules.eraseP (isAPIRule (apiTag config)) := by
  rcases canonicalRules_cases config rules with h | ⟨pre, rule, post, rfl, hrule, hpre, h⟩
  · rw [h]
    exact ⟨List.Perm.refl _, rfl⟩
  · rw [h]
    refine ⟨List.perm_middle.symm, ?_⟩
    rw [List.eraseP_cons_of_pos hrule, List.eraseP_append_right _ hpre, List.eraseP_cons_of_pos hrule]

theorem sorted_rules {routing : Json} (h : before.Sorted) (hrouting : before.field? "routing" = some routing)
    (hrules : routing.field? "rules" = some (.array rules)) : ∀ r ∈ rules, r.Sorted :=
  Json.sortedItems_iff.1 (Json.sorted_of_field? (Json.sorted_of_field? h hrouting) hrules)

theorem apiRuleFirst_canonicalConfig (h : before.Sorted) : APIRuleFirst before (canonicalConfig before) := by
  rcases canonicalConfig_cases before with ⟨hnone, hsame⟩ | ⟨routing, rules, hrouting, hrules, hconfig⟩
  · rw [hsame]
    refine .absent fun routing rules rule hrouting hrules => ?_
    rw [hrouting, Option.bind_some, itemsField_eq_some_iff.2 hrules] at hnone
    cases hnone
  · have hsorted := sorted_rules h hrouting hrules
    rcases exists_first (ExactAPIRule before) rules with habsent | ⟨pre, rule, post, rfl, hpre, hrule⟩
    · -- Nothing has moved: every member is set to the value it has.
      rw [canonicalRules_of_absent hsorted habsent, Json.setField_of_field? (Json.sorted_of_field? h hrouting) hrules,
        Json.setField_of_field? h hrouting] at hconfig
      rw [hconfig]
      refine .absent fun routing' rules' rule hrouting' hrules' hrule => ?_
      obtain rfl := Option.some.inj (hrouting.symm.trans hrouting')
      obtain rfl := Json.array.inj (Option.some.inj (hrules.symm.trans hrules'))
      exact habsent rule hrule
    · rw [hconfig, canonicalRules_of_exact hsorted hpre hrule]
      exact .moved routing pre rule post hrouting hrules hpre hrule

/-- There is one such value. -/
theorem apiRuleFirst_iff (h : before.Sorted) : APIRuleFirst before config ↔ config = canonicalConfig before := by
  refine ⟨fun hfirst => ?_, fun heq => heq ▸ apiRuleFirst_canonicalConfig h⟩
  cases hfirst with
  | absent habsent =>
      rcases canonicalConfig_cases config with ⟨-, hsame⟩ | ⟨routing, rules, hrouting, hrules, hconfig⟩
      · exact hsame.symm
      · rw [hconfig, canonicalRules_of_absent (sorted_rules h hrouting hrules)
          (fun r hr => habsent routing rules r hrouting hrules hr),
          Json.setField_of_field? (Json.sorted_of_field? h hrouting) hrules, Json.setField_of_field? h hrouting]
  | moved routing pre rule post hrouting hrules hpre hrule =>
      rw [canonicalConfig, hrouting]
      simp only [itemsField_eq_some_iff.2 hrules,
        canonicalRules_of_exact (sorted_rules h hrouting hrules) hpre hrule]

/-- A canonical document that may be read again is read as it is. -/
theorem decodeRouteSettings_idempotent (h : decodeRouteSettings raw = .ok (config, canonical))
    (hsize : canonical.size ≤ 4 * 2 ^ 20) :
    decodeRouteSettings canonical = .ok (config, canonical) := by
  obtain ⟨hcanonical, rfl⟩ := decodeRouteSettings_canonical h
  have hread := decodeRouteSettings_marshal hcanonical.sorted hcanonical.object hsize
  rwa [hcanonical.fixed] at hread

/-- Equal hashes are equal settings once the API rules are in front. -/
theorem hash_eq_iff (hsha : Function.Injective sha256) {vx vy : Json} (hvx : x.value = some vx)
    (hvy : y.value = some vy) (hx : routeSettingsHash sha256 x = .ok hash)
    (hy : routeSettingsHash sha256 y = .ok hash') :
    hash = hash' ↔ ∃ settings, APIRuleFirst vx.decode settings ∧ APIRuleFirst vy.decode settings := by
  obtain ⟨configx, hconfigx, rfl⟩ := routeSettingsHash_eq_ok_iff.1 hx
  obtain ⟨configy, hconfigy, rfl⟩ := routeSettingsHash_eq_ok_iff.1 hy
  rw [canonicalOf_eq_some_iff] at hconfigx hconfigy
  obtain ⟨-, -, vx', hvx', -, hx', -⟩ := decodeRouteSettings_eq_ok_iff.1 hconfigx
  obtain ⟨-, -, vy', hvy', -, hy', -⟩ := decodeRouteSettings_eq_ok_iff.1 hconfigy
  obtain rfl := Option.some.inj (hvx.symm.trans hvx')
  obtain rfl := Option.some.inj (hvy.symm.trans hvy')
  simp only [apiRuleFirst_iff (Json.sorted_decode _), exists_eq_left]
  rw [← hx', ← hy']
  exact (hashOf_injective hsha).eq_iff

end Rules

/-! ## Documents that grow -/

theorem length_le_utf8ByteSize (cs : List Char) : cs.length ≤ (String.ofList cs).utf8ByteSize := by
  induction cs with
  | nil => simp
  | cons c cs ih =>
      have hpos := c.utf8Size_pos
      simp only [String.ofList_cons, String.utf8ByteSize_append, List.length_cons]
      simp only [String.utf8ByteSize_singleton]
      omega

/-- The text with one member, whose value consists of `n` opening brackets. -/
def bracketsDocument (n : Nat) : Document :=
  ⟨n + 8, some (.object [("a", .string (String.ofList (List.replicate n '<')))])⟩

/-- Every bracket is written with six characters. -/
theorem brackets_size (n : Nat) : 6 * n ≤
    (marshal (.object [("a", .string (String.ofList (List.replicate n '<')))])).size := by
  refine le_trans ?_ (length_le_utf8ByteSize _)
  have hescape : Json.escape '<' = ['\\', 'u', '0', '0', '3', 'c'] := by decide
  have hlength : ((List.replicate n '<').flatMap Json.escape).length = n * 6 := by
    rw [List.length_flatMap, List.map_replicate, List.sum_replicate_nat, hescape]
    rfl
  simp only [Json.encode, Json.quote, String.toList_ofList, List.length_cons, List.length_append, hlength]
  omega

theorem decodeRouteSettings_brackets {n : Nat} (h : n + 8 ≤ 4 * 2 ^ 20) :
    decodeRouteSettings (bracketsDocument n) =
      .ok (.object [("a", .string (String.ofList (List.replicate n '<')))],
        marshal (.object [("a", .string (String.ofList (List.replicate n '<')))])) :=
  decodeRouteSettings_eq_ok_iff.2 ⟨Nat.succ_pos _, h, _, rfl, rfl, rfl, rfl⟩

/-- A text of 700008 bytes has a canonical form of more than 4 MiB, which is refused. -/
theorem canonical_document_too_large : ∃ config canonical,
    decodeRouteSettings (bracketsDocument 700000) = .ok (config, canonical) ∧
      decodeRouteSettings canonical = .error invalidSettings := by
  refine ⟨_, _, decodeRouteSettings_brackets (by decide), ?_⟩
  have hsize := brackets_size 700000
  have hlarge : ¬ (marshal (.object [("a", .string (String.ofList (List.replicate 700000 '<')))])).size ≤
      4 * 2 ^ 20 := by omega
  rw [decodeRouteSettings, decide_eq_false hlarge, Bool.and_false]
  rfl

/-- Canonical settings that may be read again are read unchanged; they are the decoded settings with the first
exact API rule in front of the other rules; and the hash tells settings apart that differ in anything else. -/
theorem canonicalisation_moves_only_api_rule (sha256 : String → List UInt8)
    (hsha : Function.Injective sha256) :
    (∀ raw config canonical, decodeRouteSettings raw = .ok (config, canonical) →
      canonical.size ≤ 4 * 2 ^ 20 → decodeRouteSettings canonical = .ok (config, canonical)) ∧
    (∀ raw value config canonical, raw.value = some value →
      decodeRouteSettings raw = .ok (config, canonical) →
      APIRuleFirst value.decode config ∧ ∀ other, APIRuleFirst value.decode other → other = config) ∧
    (∀ config rules, (canonicalRules config rules).Perm rules ∧
      (canonicalRules config rules).eraseP (isAPIRule (apiTag config)) =
        rules.eraseP (isAPIRule (apiTag config))) ∧
    ∀ x y vx vy hash hash', x.value = some vx → y.value = some vy →
      routeSettingsHash sha256 x = .ok hash → routeSettingsHash sha256 y = .ok hash' →
        (hash = hash' ↔ ∃ settings, APIRuleFirst vx.decode settings ∧ APIRuleFirst vy.decode settings) := by
  refine ⟨?_, ?_, canonicalRules_perm, ?_⟩
  · intro raw config canonical h hsize
    exact decodeRouteSettings_idempotent h hsize
  · intro raw value config canonical hvalue h
    obtain ⟨-, -, value', hvalue', -, rfl, -⟩ := decodeRouteSettings_eq_ok_iff.1 h
    obtain rfl := Option.some.inj (hvalue.symm.trans hvalue')
    have hsorted := Json.sorted_decode value
    exact ⟨apiRuleFirst_canonicalConfig hsorted, fun other hother => (apiRuleFirst_iff hsorted).1 hother⟩
  · intro x y vx vy hash hash' hvx hvy hx hy
    exact hash_eq_iff hsha hvx hvy hx hy

namespace RuleOrder

def rule (outbound : String) : Json := .object [("outboundTag", .string outbound), ("type", .string "field")]

def apiRule : Json :=
  .object [("inboundTag", .array [.string "api"]), ("outboundTag", .string "api"), ("type", .string "field")]

def settings (rules : List Json) : Json :=
  .object [("api", .object [("tag", .string "api")]), ("routing", .object [("rules", .array rules)])]

theorem exists_hash (rules : List Json) (h : (canonicalOf (marshal (settings rules))).isSome = true) :
    ∃ hash, routeSettingsHash Sample.bytes (marshal (settings rules)) = .ok hash := by
  obtain ⟨config, hconfig⟩ := Option.isSome_iff_exists.1 h
  exact ⟨_, routeSettingsHash_eq_ok_iff.2 ⟨config, hconfig, rfl⟩⟩

/-- Settings have the same hash when only their API rule stands elsewhere, and another one when other rules are
exchanged. -/
theorem canonicalisation_moves_only_api_rule_sample :
    (∃ hash, routeSettingsHash Sample.bytes (marshal (settings [rule "block", apiRule, rule "direct"])) = .ok hash ∧
      routeSettingsHash Sample.bytes (marshal (settings [apiRule, rule "block", rule "direct"])) = .ok hash) ∧
    ∃ hash hash',
      routeSettingsHash Sample.bytes (marshal (settings [rule "block", apiRule, rule "direct"])) = .ok hash ∧
      routeSettingsHash Sample.bytes (marshal (settings [rule "direct", apiRule, rule "block"])) = .ok hash' ∧
      hash ≠ hash' := by
  have hhash := (canonicalisation_moves_only_api_rule Sample.bytes Sample.bytes_injective).2.2.2
  obtain ⟨hash, h⟩ := exists_hash [rule "block", apiRule, rule "direct"] (by decide +kernel)
  obtain ⟨moved, hmoved⟩ := exists_hash [apiRule, rule "block", rule "direct"] (by decide +kernel)
  obtain ⟨other, hother⟩ := exists_hash [rule "direct", apiRule, rule "block"] (by decide +kernel)
  refine ⟨⟨hash, h, ?_⟩, hash, other, h, hother, fun heq => ?_⟩
  · have hsame : canonicalConfig (settings [rule "block", apiRule, rule "direct"]).decode =
        canonicalConfig (settings [apiRule, rule "block", rule "direct"]).decode := by decide +kernel
    have hfirst := apiRuleFirst_canonicalConfig
      (Json.sorted_decode (settings [apiRule, rule "block", rule "direct"]))
    rw [← hsame] at hfirst
    have hequal := (hhash _ _ _ _ hash moved rfl rfl h hmoved).2
      ⟨_, apiRuleFirst_canonicalConfig (Json.sorted_decode _), hfirst⟩
    rw [hmoved, hequal]
  · obtain ⟨read, hx, hy⟩ := (hhash _ _ _ _ _ _ rfl rfl h hother).1 heq
    have hequal := ((apiRuleFirst_iff (Json.sorted_decode _)).1 hx).symm.trans
      ((apiRuleFirst_iff (Json.sorted_decode _)).1 hy)
    exact absurd hequal (by decide +kernel)

end RuleOrder

end Landing
end Vastora
