import Vastora.Landing.RouteChain

/-!
# RouteFrame — what the routes leave alone

`OnlyRoutes` says that settings differ from others only by added outbounds and rules.  The forced
landing and the client grants change nothing else; but the state that blocks users reads the settings
into binary64 numbers and writes them back, so that `routes_change_nothing_else` holds for it exactly
when the numbers of the original settings survive that.
-/

namespace Vastora
namespace Landing

open Library Library.Guard Library.FirstMatch

/-! ## Frames -/

/-- The rules without the exact rule of the API. -/
def exceptAPI (config : Json) (rules : List Json) : List Json :=
  if apiTag config = "" then rules else rules.eraseP (isAPIRule (apiTag config))

/-- Rules among which the original ones are kept, those other than the API rule at the end. -/
structure KeepsRules (config : Json) (rules : List Json) : Prop where
  kept : (rulesOf config).Sublist rules
  last : exceptAPI config (rulesOf config) <:+ rules

/-- Settings that differ from the original ones only by added outbounds and rules. -/
structure OnlyRoutes (config after : Json) : Prop where
  settings : ∀ key, key ≠ "outbounds" → key ≠ "routing" → after.field? key = config.field? key
  routing : ∀ key, key ≠ "rules" → (after.field? "routing").bind (Json.field? key) =
    (config.field? "routing").bind (Json.field? key)
  outbounds : outboundsOf config <+: outboundsOf after
  rules : KeepsRules config (rulesOf after)

section Frames

variable {config routing : Json} {rules rules' outbounds outbounds' : List Json}

theorem KeepsRules.append (h : KeepsRules config rules) (front : List Json) :
    KeepsRules config (front ++ rules) :=
  ⟨h.kept.trans (List.sublist_append_right front rules), h.last.trans (List.suffix_append front rules)⟩

/-- In canonical settings the API rule is the first one. -/
theorem canonical_rules (h : Canonical config) :
    exceptAPI config (rulesOf config) = rulesOf config ∧
      (apiTag config = "" ∨ ∀ rule ∈ rulesOf config, ¬ isAPIRule (apiTag config) rule) ∨
    ∃ rule, apiTag config ≠ "" ∧ isAPIRule (apiTag config) rule ∧
      rulesOf config = rule :: exceptAPI config (rulesOf config) := by
  have hfixed : canonicalRules config (rulesOf config) = rulesOf config := by
    rw [← rulesOf_canonicalConfig, h.fixed]
  unfold canonicalRules at hfixed
  unfold exceptAPI
  by_cases hempty : apiTag config = ""
  · exact Or.inl ⟨if_pos hempty, Or.inl hempty⟩
  rw [if_neg hempty] at hfixed ⊢
  cases hfind : (rulesOf config).find? (isAPIRule (apiTag config)) with
  | none =>
      have hnone := List.find?_eq_none.1 hfind
      exact Or.inl ⟨List.eraseP_of_forall_not hnone, Or.inr hnone⟩
  | some rule =>
      rw [moveToFront, hfind] at hfixed
      exact Or.inr ⟨rule, hempty, List.find?_some hfind, hfixed.symm⟩

theorem routing_canonicalConfig {key : String} (h : key ≠ "rules") :
    ((canonicalConfig config).field? "routing").bind (Json.field? key) =
      (config.field? "routing").bind (Json.field? key) := by
  rcases canonicalConfig_cases config with ⟨-, hcanonical⟩ | ⟨routing, rules, hr, -, hcanonical⟩
  · rw [hcanonical]
  · obtain ⟨members, rfl, -⟩ := Json.eq_object_of_field? hr
    rw [hcanonical, Json.field?_setField_self rfl, hr, Option.bind_some, Option.bind_some,
      Json.field?_setField_of_ne h]

theorem keepsRules_self (h : Canonical config) : KeepsRules config (rulesOf config) := by
  refine ⟨List.Sublist.refl _, ?_⟩
  rcases canonical_rules h with ⟨hsame, -⟩ | ⟨rule, -, -, hsplit⟩
  · rw [hsame]
  · conv_rhs => rw [hsplit]
    exact List.suffix_cons rule _

theorem onlyRoutes_self (h : Canonical config) : OnlyRoutes config config :=
  ⟨fun _ _ _ => rfl, fun _ _ => rfl, List.prefix_refl _, keepsRules_self h⟩

/-- Rules in front and outbounds behind are no other change. -/
theorem OnlyRoutes.withRoutes {original : Json} (h : OnlyRoutes original config)
    (hconfig : config.members?.isSome) (hrouting : config.field? "routing" = some routing)
    (hobject : routing.members?.isSome) (front more : List Json) :
    OnlyRoutes original
      (withRoutes config routing (front ++ rulesOf config) (outboundsOf config ++ more)) := by
  have hset : (Landing.withRoutes config routing (front ++ rulesOf config)
      (outboundsOf config ++ more)).field? "routing" =
      some (routing.setField "rules" (.array (front ++ rulesOf config))) := by
    rw [Landing.withRoutes, Json.field?_setField_of_ne (by decide), Json.field?_setField_self hconfig]
  refine ⟨fun key hne hne' => ?_, fun key hne => ?_, ?_, ?_⟩
  · rw [Landing.withRoutes, Json.field?_setField_of_ne hne, Json.field?_setField_of_ne hne',
      h.settings key hne hne']
  · rw [← h.routing key hne, hset, hrouting, Option.bind_some, Option.bind_some,
      Json.field?_setField_of_ne hne]
  · rw [outboundsOf_withRoutes hconfig]
    exact h.outbounds.trans (List.prefix_append _ _)
  · rw [rulesOf_withRoutes hconfig hobject]
    exact h.rules.append front

end Frames

/-! ## Forced landing -/

section Forced

variable {raw : Document} {revision : Nat} {tags : List String} {peer : PeerIdentity}
  {config routing : Json} {outbounds rules : List Json} {copies : List (Option Json)}
  {change : RouteChange}

theorem Prepared.onlyRoutes
    (h : Prepared raw revision tags peer config routing outbounds rules copies change) :
    OnlyRoutes config change.after.settings := by
  have honly := (onlyRoutes_self h.canonical).withRoutes h.canonical.object h.hasRouting
    h.routing_object (copies.reduceOption ++ [landingRule tags])
    [socksOutbound proxyOutboundTag peer]
  rwa [rulesOf_eq h.hasRouting h.hasRules, outboundsOf_eq h.hasOutbounds, List.append_assoc,
    List.singleton_append, ← h.settings_after] at honly

/-- Saving the new settings in canonical form keeps the original rules as well. -/
theorem Prepared.keepsRules_canonicalConfig
    (h : Prepared raw revision tags peer config routing outbounds rules copies change) :
    KeepsRules config (rulesOf (canonicalConfig change.after.settings)) := by
  have hrules : rulesOf change.after.settings = (copies.reduceOption ++ [landingRule tags]) ++ rules := by
    rw [h.settings_after, rulesOf_withRoutes h.canonical.object h.routing_object]
    simp
  have hconfig := rulesOf_eq h.hasRouting h.hasRules
  rw [rulesOf_canonicalConfig, canonicalRules, hrules, h.apiTag_after]
  rcases canonical_rules h.canonical with ⟨hsame, hnone⟩ | ⟨rule, hne, hrule, hsplit⟩
  · -- No API rule: nothing moves.
    have hkeep := (keepsRules_self h.canonical).append (copies.reduceOption ++ [landingRule tags])
    rw [hconfig] at hkeep hnone
    split
    · exact hkeep
    · rename_i hempty
      have hfree := hnone.resolve_left hempty
      rwa [moveToFront, List.find?_eq_none.2 fun r hr => ?_]
      rcases List.mem_append.1 hr with hr | hr
      · exact h.not_isAPIRule r hr
      · exact hfree r hr
  · -- The API rule moves in front of the new rules.
    have hmove : moveToFront (isAPIRule (apiTag config))
        (copies.reduceOption ++ [landingRule tags] ++ rulesOf config) =
          rule :: (copies.reduceOption ++ [landingRule tags] ++ exceptAPI config (rulesOf config)) := by
      conv_lhs => rw [hsplit]
      exact moveToFront_append h.not_isAPIRule hrule
    rw [if_neg hne, ← hconfig, hmove]
    refine ⟨?_, ?_⟩
    · conv_lhs => rw [hsplit]
      exact (List.sublist_append_right _ _).cons_cons rule
    · rw [← List.cons_append]
      exact List.suffix_append _ _

end Forced

/-! ## Client grants -/

section Grants

variable {sha256 : String → List UInt8} {raw base : Document} {revision : Nat}
  {forced : Option ProxyPlan} {grants : List ClientGrant} {config routing original : Json}
  {outbounds rules : List Json} {change : RouteChange}

/-- The settings under the grants keep the original ones. -/
theorem ClientPrepared.onlyRoutes_base
    (h : ClientPrepared sha256 raw revision forced grants base config routing outbounds rules change)
    (hdecoded : decodeRouteSettings raw = .ok (original, change.before)) :
    OnlyRoutes original config := by
  obtain ⟨hcanonical, hbefore⟩ := decodeRouteSettings_canonical hdecoded
  have hcomposed := h.composed
  rw [h.config_eq]
  cases forced with
  | none =>
      obtain rfl := Except.ok.inj hcomposed
      rw [hbefore, settings_marshal hcanonical.sorted, hcanonical.fixed]
      exact onlyRoutes_self hcanonical
  | some plan =>
      obtain ⟨forcedChange, hforced, hbase⟩ := bind_eq_ok_iff.1 hcomposed
      obtain rfl := pure_eq_ok_iff.1 hbase
      obtain ⟨config', _, _, _, _, hp⟩ := prepareRouteChange_cases hforced
      obtain ⟨rfl, -⟩ := decodeRouteSettings_again hdecoded hp.decoded
      have honly := hp.onlyRoutes
      refine ⟨fun key hne hne' => ?_, fun key hne => ?_, ?_, hp.keepsRules_canonicalConfig⟩
      · rw [field?_canonicalConfig hne', honly.settings key hne hne']
      · rw [← honly.routing key hne, routing_canonicalConfig hne]
      · rw [outboundsOf_canonicalConfig]
        exact honly.outbounds

theorem ClientPrepared.onlyRoutes
    (h : ClientPrepared sha256 raw revision forced grants base config routing outbounds rules change)
    (hdecoded : decodeRouteSettings raw = .ok (original, change.before)) :
    OnlyRoutes original change.after.settings := by
  have honly := (h.onlyRoutes_base hdecoded).withRoutes h.canonical.object h.hasRouting
    h.routing_object (grantRules sha256 (orderedGrants grants) (isBlackhole config) rules)
    ((orderedGrants grants).flatMap (fixedOutbounds sha256) ++ [denyOutbound])
  rwa [rulesOf_eq h.hasRouting h.hasRules, outboundsOf_eq h.hasOutbounds, ← List.append_assoc,
    ← h.settings_after] at honly

end Grants

/-! ## Numbers -/

section Numbers

variable {f : NumberLiteral → Option NumberLiteral} {config routing original j : Json}
  {rules outbounds : List Json}

theorem fixed_strings (names : List String) : Json.Fixed f (strings names) :=
  Json.fixed_array_iff.2 fun item hitem => by
    obtain ⟨name, -, rfl⟩ := List.mem_map.1 hitem
    exact Json.fixed_string name

theorem fixed_withRoutes (hconfig : Json.Fixed f config) (hrouting : Json.Fixed f routing)
    (hrules : ∀ rule ∈ rules, Json.Fixed f rule)
    (houtbounds : ∀ outbound ∈ outbounds, Json.Fixed f outbound) :
    Json.Fixed f (withRoutes config routing rules outbounds) :=
  Json.fixed_setField
    (Json.fixed_setField hconfig (Json.fixed_setField hrouting (Json.fixed_array_iff.2 hrules)))
    (Json.fixed_array_iff.2 houtbounds)

theorem fixed_canonicalConfig (h : Json.Fixed f config) : Json.Fixed f (canonicalConfig config) := by
  rcases canonicalConfig_cases config with ⟨-, hcanonical⟩ | ⟨routing, rules, hr, hrs, hcanonical⟩
  · rwa [hcanonical]
  · have hrouting := Json.fixed_of_field? h hr
    have hrules := Json.fixed_array_iff.1 (Json.fixed_of_field? hrouting hrs)
    rw [hcanonical]
    refine Json.fixed_setField h (Json.fixed_setField hrouting (Json.fixed_array_iff.2 fun rule hrule => ?_))
    unfold canonicalRules at hrule
    split at hrule
    · exact hrules rule hrule
    · exact hrules rule (mem_moveToFront.1 hrule)

/-- The port of the service is written as a binary64 value is. -/
theorem fixed_socksOutbound (tag : String) (peer : PeerIdentity) :
    Json.Fixed Float64.rewrite (socksOutbound tag peer) := by
  have hport : Float64.rewrite socksPort = some socksPort := by decide +kernel
  intro n hn
  have hmem : n = socksPort := by
    simpa [socksOutbound, Json.numbers, Json.numbersMembers, Json.numbersItems] using hn
  rw [hmem, hport]

theorem fixed_scopedRule {members : List (String × Json)}
    (hvalues : ∀ m ∈ members, (∃ text, m.2 = .string text) ∨ ∃ names, m.2 = strings names) :
    Json.Fixed f (.object members) := by
  refine Json.fixed_object_iff.2 fun m hm => ?_
  rcases hvalues m hm with ⟨text, h⟩ | ⟨names, h⟩
  · rw [h]
    exact Json.fixed_string text
  · rw [h]
    exact fixed_strings names

/-- The exact API rule has no numbers: it has three members, and they are known. -/
theorem fixed_isAPIRule {tag : String} {rule : Json} (h : isAPIRule tag rule) :
    Json.Fixed f rule := by
  simp only [isAPIRule, Bool.and_eq_true, beq_iff_eq] at h
  obtain ⟨⟨⟨hlength, htype⟩, houtbound⟩, hinbound⟩ := h
  obtain ⟨members, rfl, htype⟩ := Json.eq_object_of_field? htype
  have hmem : ∀ {key : String} {value : Json}, members.lookup key = some value →
      (key, value) ∈ members := by
    intro key value hlookup
    obtain ⟨l₁, l₂, hl, -⟩ := List.lookup_eq_some_iff.1 hlookup
    simp [hl]
  have hknown : [("type", .string "field"), ("outboundTag", .string tag),
      ("inboundTag", strings [tag])].Perm members := by
    refine (List.subperm_of_subset (by simp) ?_).perm_of_length_le ?_
    · intro m hm
      simp only [List.mem_cons, List.not_mem_nil, or_false] at hm
      rcases hm with rfl | rfl | rfl
      · exact hmem htype
      · exact hmem houtbound
      · exact hmem hinbound
    · have hthree : members.length = 3 := by simpa [Json.members?] using hlength
      exact hthree.le
  refine fixed_scopedRule fun m hm => ?_
  have hm := hknown.mem_iff.2 hm
  simp only [List.mem_cons, List.not_mem_nil, or_false] at hm
  rcases hm with rfl | rfl | rfl
  · exact Or.inl ⟨_, rfl⟩
  · exact Or.inl ⟨_, rfl⟩
  · exact Or.inr ⟨_, rfl⟩

theorem fixed_landingRule (tags : List String) : Json.Fixed f (landingRule tags) :=
  fixed_scopedRule (by simp)

theorem fixed_denyOutbound : Json.Fixed f denyOutbound := by
  refine Json.fixed_object_iff.2 ?_
  simp [Json.Fixed, Json.numbers, Json.numbersMembers]

end Numbers

/-! ## New routes have no other numbers -/

section Fixed

variable {sha256 : String → List UInt8} {raw base : Document} {revision : Nat} {tags : List String}
  {peer : PeerIdentity} {forced : Option ProxyPlan} {grants : List ClientGrant}
  {config routing original : Json} {outbounds rules : List Json} {copies : List (Option Json)}
  {change : RouteChange}

theorem Prepared.fixed_after
    (h : Prepared raw revision tags peer config routing outbounds rules copies change)
    (hconfig : Json.Fixed Float64.rewrite config) :
    Json.Fixed Float64.rewrite change.after.settings := by
  have hrouting := Json.fixed_of_field? hconfig h.hasRouting
  have hrules := Json.fixed_array_iff.1 (Json.fixed_of_field? hrouting h.hasRules)
  have houtbounds := Json.fixed_array_iff.1 (Json.fixed_of_field? hconfig h.hasOutbounds)
  rw [h.settings_after]
  refine fixed_withRoutes hconfig hrouting (fun rule hrule => ?_) fun outbound houtbound => ?_
  · rcases List.mem_append.1 hrule with hcopy | hrule
    · -- A copy is an original rule with another scope.
      obtain ⟨rule', hrule', known, hscope⟩ := h.rule_of_copy hcopy
      obtain ⟨scope, -, -, -, rfl⟩ := scopeRule_scope hscope
      exact Json.fixed_setField (hrules rule' hrule') (fixed_strings scope)
    · rcases List.mem_cons.1 hrule with rfl | hrule
      · exact fixed_landingRule tags
      · exact hrules rule hrule
  · rcases List.mem_append.1 houtbound with houtbound | houtbound
    · exact houtbounds outbound houtbound
    · rw [List.mem_singleton.1 houtbound]
      exact fixed_socksOutbound proxyOutboundTag peer

theorem fixed_grantRules {rule : Json} {blocked : String → Bool}
    (hvalid : ∀ g ∈ grants, g.Valid sha256) (hrules : ∀ rule ∈ rules, Json.Fixed Float64.rewrite rule)
    (h : rule ∈ grantRules sha256 grants blocked rules) : Json.Fixed Float64.rewrite rule := by
  rcases mem_grantRules hvalid h with ⟨g, -, rfl⟩ | ⟨rule, hrule, -, g, -, user, -, rfl⟩ | ⟨g, -, hrule⟩
  · exact fixed_scopedRule (by simp)
  · exact Json.fixed_setField (Json.fixed_setField (hrules rule hrule) (fixed_strings _))
      (fixed_strings _)
  · obtain ⟨-, rfl | ⟨-, rfl | rfl⟩⟩ := mem_fixedRules hrule
    · exact fixed_scopedRule (by simp)
    · exact fixed_scopedRule (by simp)
    · exact fixed_scopedRule (by simp)

theorem ClientPrepared.fixed_base
    (h : ClientPrepared sha256 raw revision forced grants base config routing outbounds rules change)
    (hdecoded : decodeRouteSettings raw = .ok (original, change.before))
    (horiginal : Json.Fixed Float64.rewrite original) : Json.Fixed Float64.rewrite config := by
  obtain ⟨hcanonical, hbefore⟩ := decodeRouteSettings_canonical hdecoded
  have hcomposed := h.composed
  rw [h.config_eq]
  refine fixed_canonicalConfig ?_
  cases forced with
  | none =>
      obtain rfl := Except.ok.inj hcomposed
      rwa [hbefore, settings_marshal hcanonical.sorted]
  | some plan =>
      obtain ⟨forcedChange, hforced, hbase⟩ := bind_eq_ok_iff.1 hcomposed
      obtain rfl := pure_eq_ok_iff.1 hbase
      obtain ⟨config', _, _, _, _, hp⟩ := prepareRouteChange_cases hforced
      obtain ⟨rfl, -⟩ := decodeRouteSettings_again hdecoded hp.decoded
      exact hp.fixed_after horiginal

theorem ClientPrepared.fixed_after
    (h : ClientPrepared sha256 raw revision forced grants base config routing outbounds rules change)
    (hdecoded : decodeRouteSettings raw = .ok (original, change.before))
    (horiginal : Json.Fixed Float64.rewrite original) :
    Json.Fixed Float64.rewrite change.after.settings := by
  have hconfig := h.fixed_base hdecoded horiginal
  have hrouting := Json.fixed_of_field? hconfig h.hasRouting
  have hrules := Json.fixed_array_iff.1 (Json.fixed_of_field? hrouting h.hasRules)
  have houtbounds := Json.fixed_array_iff.1 (Json.fixed_of_field? hconfig h.hasOutbounds)
  rw [h.settings_after]
  refine fixed_withRoutes hconfig hrouting (fun rule hrule => ?_) fun outbound houtbound => ?_
  · rcases List.mem_append.1 hrule with hrule | hrule
    · exact fixed_grantRules h.checked.valid hrules hrule
    · exact hrules rule hrule
  · simp only [List.mem_append, List.mem_singleton, List.mem_flatMap] at houtbound
    rcases houtbound with (houtbound | ⟨g, -, houtbound⟩) | rfl
    · exact houtbounds outbound houtbound
    · unfold fixedOutbounds at houtbound
      split at houtbound
      · rw [List.mem_singleton.1 houtbound]
        exact fixed_socksOutbound _ g.peer
      · cases houtbound
    · exact fixed_denyOutbound

end Fixed

/-! ## Blocked users -/

section Blocked

variable {f : NumberLiteral → Option NumberLiteral} {original before j routing : Json}
  {rules outbounds : List Json} {blocks : List ClientBlock}

theorem rulesOf_blockUsers (hrouting : j.field? "routing" = some routing)
    (hrules : routing.field? "rules" = some (.array rules)) :
    rulesOf (blockUsers j blocks) = blocks.map (fun block => denyUserRule block.user) ++ rulesOf j := by
  obtain ⟨members, rfl, -⟩ := Json.eq_object_of_field? hrules
  rw [rulesOf_eq hrouting hrules,
    rulesOf_eq (routing_blockUsers hrouting hrules) (Json.field?_setField_self rfl)]

/-- Denying users adds rules in front. -/
theorem OnlyRoutes.blockUsers (h : OnlyRoutes original j) (hrouting : j.field? "routing" = some routing)
    (hrules : routing.field? "rules" = some (.array rules)) :
    OnlyRoutes original (blockUsers j blocks) := by
  refine ⟨fun key hne hne' => ?_, fun key hne => ?_, ?_, ?_⟩
  · rw [field?_blockUsers hne', h.settings key hne hne']
  · rw [← h.routing key hne, routing_blockUsers hrouting hrules, hrouting, Option.bind_some,
      Option.bind_some, Json.field?_setField_of_ne hne]
  · rw [outboundsOf_blockUsers]
    exact h.outbounds
  · rw [rulesOf_blockUsers hrouting hrules]
    exact h.rules.append _

/-- Settings that have arrays where routes are added. -/
structure Routable (config routing : Json) (outbounds rules : List Json) : Prop where
  hasOutbounds : config.field? "outbounds" = some (.array outbounds)
  hasRouting : config.field? "routing" = some routing
  hasRules : routing.field? "rules" = some (.array rules)

/-- The API rule has no numbers, so that the numbers of the other rules decide. -/
theorem fixed_rules (hcanonical : Canonical original)
    (h : ∀ rule ∈ exceptAPI original (rulesOf original), Json.Fixed f rule) :
    ∀ rule ∈ rulesOf original, Json.Fixed f rule := by
  intro rule hrule
  rcases canonical_rules hcanonical with ⟨hsame, -⟩ | ⟨api, -, hapi, hsplit⟩
  · rw [hsame] at h
    exact h rule hrule
  · rw [hsplit] at hrule
    rcases List.mem_cons.1 hrule with rfl | hrule
    · exact fixed_isAPIRule hapi
    · exact h rule hrule

/-- If reading the numbers and writing them back changes nothing but routes, it keeps every original
number. -/
theorem fixed_of_onlyRoutes {routing' : Json} {rules' outbounds' : List Json}
    (hcanonical : Canonical original) (horiginal : Routable original routing outbounds rules)
    (hbefore : Routable before routing' outbounds' rules') (h : OnlyRoutes original before)
    (hmap : before.mapNumbers f = some j) (hafter : OnlyRoutes original (blockUsers j blocks)) :
    Json.Fixed f original := by
  obtain ⟨routing'', hrouting, hmaprouting⟩ := Json.exists_field?_mapNumbers hmap hbefore.hasRouting
  obtain ⟨rules'', hrules, hforall⟩ := Json.exists_items_mapNumbers hmaprouting hbefore.hasRules
  obtain ⟨outbounds'', houtbounds, hforall'⟩ := Json.exists_items_mapNumbers hmap hbefore.hasOutbounds
  have hroutingSorted := Json.sorted_of_field? hcanonical.sorted horiginal.hasRouting
  -- A member that is the same before and after is kept.
  have hmember : ∀ {k k' : Json} {key : String} {value : Json}, k.mapNumbers f = some k' →
      k.field? key = some value → k'.field? key = some value → Json.Fixed f value := by
    intro k k' key value hk hfield hfield'
    obtain ⟨value', hvalue', hvalue⟩ := Json.exists_field?_mapNumbers hk hfield
    rw [hfield', Option.some_inj] at hvalue'
    exact Json.fixed_iff.2 (hvalue' ▸ hvalue)
  refine Json.fixed_of_sorted hcanonical.sorted hcanonical.object fun key value hvalue => ?_
  by_cases hkey : key = "outbounds"
  · subst hkey
    obtain rfl := Option.some.inj (hvalue.symm.trans horiginal.hasOutbounds)
    have h₀ := h.outbounds
    have h₁ := hafter.outbounds
    rw [outboundsOf_eq hvalue] at h₀ h₁
    rw [outboundsOf_eq hbefore.hasOutbounds] at h₀
    rw [outboundsOf_blockUsers, outboundsOf_eq houtbounds] at h₁
    exact Json.fixed_array_iff.2 (Json.fixed_of_prefix hforall' h₀ h₁)
  by_cases hkey' : key = "routing"
  · subst hkey'
    obtain rfl := Option.some.inj (hvalue.symm.trans horiginal.hasRouting)
    obtain ⟨members, rfl, -⟩ := Json.eq_object_of_field? horiginal.hasRules
    refine Json.fixed_of_sorted hroutingSorted rfl fun key value hfield => ?_
    by_cases hrulesKey : key = "rules"
    · subst hrulesKey
      obtain rfl := Option.some.inj (hfield.symm.trans horiginal.hasRules)
      have h₀ := h.rules.last
      have h₁ := hafter.rules.last
      rw [rulesOf_eq hbefore.hasRouting hbefore.hasRules] at h₀
      rw [rulesOf_blockUsers hrouting hrules, rulesOf_eq hrouting hrules] at h₁
      -- The original rules are no more than the rules without the denials.
      have h₂ := List.suffix_of_suffix_length_le h₁ (List.suffix_append _ _)
        (h₀.length_le.trans hforall.length_eq.le)
      have hall := fixed_rules hcanonical (Json.fixed_of_suffix hforall h₀ h₂)
      rw [rulesOf_eq hvalue hfield] at hall
      exact Json.fixed_array_iff.2 hall
    · have h₀ := h.routing key hrulesKey
      have h₁ := hafter.routing key hrulesKey
      rw [hbefore.hasRouting, hvalue, Option.bind_some, Option.bind_some, hfield] at h₀
      rw [routing_blockUsers hrouting hrules, hvalue, Option.bind_some, Option.bind_some,
        Json.field?_setField_of_ne hrulesKey, hfield] at h₁
      exact hmember hmaprouting h₀ h₁
  · have h₀ := h.settings key hkey hkey'
    have h₁ := hafter.settings key hkey hkey'
    rw [field?_blockUsers hkey'] at h₁
    exact hmember hmap (h₀.trans hvalue) (h₁.trans hvalue)

end Blocked

section State

variable {sha256 : String → List UInt8} {raw base : Document} {revision : Nat}
  {forced : Option ProxyPlan} {grants : List ClientGrant} {config routing original : Json}
  {outbounds rules : List Json} {change : RouteChange} {state : DesiredState}

theorem ClientPrepared.routable
    (h : ClientPrepared sha256 raw revision forced grants base config routing outbounds rules change)
    (hdecoded : decodeRouteSettings raw = .ok (original, change.before)) :
    ∃ routing outbounds rules, Routable original routing outbounds rules := by
  have hcomposed := h.composed
  cases forced with
  | none =>
      obtain rfl := Except.ok.inj hcomposed
      obtain ⟨rfl, -⟩ := decodeRouteSettings_again hdecoded h.baseDecoded
      exact ⟨routing, outbounds, rules, h.hasOutbounds, h.hasRouting, h.hasRules⟩
  | some plan =>
      obtain ⟨forcedChange, hforced, hbase⟩ := bind_eq_ok_iff.1 hcomposed
      obtain ⟨config', routing', outbounds', rules', _, hp⟩ := prepareRouteChange_cases hforced
      obtain ⟨rfl, -⟩ := decodeRouteSettings_again hdecoded hp.decoded
      exact ⟨routing', outbounds', rules', hp.hasOutbounds, hp.hasRouting, hp.hasRules⟩

/-- The routes of a state change nothing else exactly when it has no clients, or when every number of
the original settings has the text of its binary64 value. -/
theorem routes_change_nothing_else (h : state.prepareRoutes sha256 raw = .ok change) :
    ∃ config, decodeRouteSettings raw = .ok (config, change.before) ∧
      (OnlyRoutes config change.after.settings ↔
        state.clients = none ∨ ∀ n ∈ config.numbers, Float64.rewrite n = some n) := by
  unfold DesiredState.prepareRoutes at h
  cases hclients : state.clients with
  | some clients =>
      simp only [hclients, bind_eq_ok_iff, fetch_eq_ok_iff, pure_eq_ok_iff] at h
      obtain ⟨client, hclient, j, hj, rfl⟩ := h
      obtain ⟨base, config, routing, outbounds, rules, hp⟩ := prepareClientRoutes_cases hclient
      obtain ⟨original, hdecoded⟩ := hp.decoded
      obtain ⟨hcanonical, -⟩ := decodeRouteSettings_canonical hdecoded
      have hmap := unmarshal_eq_some hj
      have honly := hp.onlyRoutes hdecoded
      obtain ⟨routing', hrouting, hrules⟩ := hp.routing_after
      obtain ⟨routing'', hrouting', hmaprouting⟩ := Json.exists_field?_mapNumbers hmap hrouting
      obtain ⟨rules'', hrules', -⟩ := Json.exists_items_mapNumbers hmaprouting hrules
      have hsettings : (marshal (blockUsers j clients.blockedUsers)).settings =
          blockUsers j clients.blockedUsers := settings_marshal
        (sorted_blockUsers (Json.sorted_mapNumbers hmap (sorted_settings _)) hrouting' hrules')
      refine ⟨original, hdecoded, ?_⟩
      simp only [hsettings, reduceCtorEq, false_or]
      constructor
      · intro hafter
        obtain ⟨_, _, _, hroutable⟩ := hp.routable hdecoded
        exact fixed_of_onlyRoutes hcanonical hroutable ⟨hp.outbounds_after, hrouting, hrules⟩ honly hmap
          hafter
      · intro hfixed
        -- Nothing is rewritten, so the denials are the only other change.
        have hsame := Json.fixed_iff.1 (hp.fixed_after hdecoded hfixed)
        obtain rfl := Option.some.inj (hsame.symm.trans hmap)
        exact honly.blockUsers hrouting hrules
  | none =>
      cases hproxy : state.proxy with
      | none =>
          simp only [hclients, hproxy] at h
          cases h
      | some proxy =>
          simp only [hclients, hproxy] at h
          obtain ⟨config, routing, outbounds, rules, copies, hp⟩ := prepareRouteChange_cases h
          have hbefore : change.before = marshal config := by rw [hp.built]
          exact ⟨config, hbefore ▸ hp.decoded, by simpa using hp.onlyRoutes⟩

end State

namespace Sample

/-- The sample settings with a number outside the routes. -/
def metered (n : NumberLiteral) : Json :=
  settings.setField "policy" (.object [("bufferSize", .number n)])

def clientState : DesiredState where
  revision := 1
  proxy := none
  clients := some ⟨"app", peer, [grant], [], false⟩

end Sample

/-- A number that a binary64 value writes the same way stays as it is. -/
theorem routes_change_nothing_else_sample :
    ∃ change, Sample.clientState.prepareRoutes Sample.digest (marshal (Sample.metered ⟨"512", by decide⟩)) =
        .ok change ∧
      OnlyRoutes (Sample.metered ⟨"512", by decide⟩) change.after.settings := by
  have hdecoded : (decodeRouteSettings (marshal (Sample.metered ⟨"512", by decide⟩))).toOption.map Prod.fst =
      some (Sample.metered ⟨"512", by decide⟩) := by decide +kernel
  have hprepared : (Sample.clientState.prepareRoutes Sample.digest
      (marshal (Sample.metered ⟨"512", by decide⟩))).toOption.any (fun _ => true) = true := by decide +kernel
  have hnumbers : ∀ n ∈ (Sample.metered ⟨"512", by decide⟩).numbers, Float64.rewrite n = some n := by
    decide +kernel
  obtain ⟨change, h, -⟩ := any_toOption_iff.1 hprepared
  obtain ⟨config, hconfig, honly⟩ := routes_change_nothing_else h
  rw [hconfig] at hdecoded
  obtain rfl := Option.some.inj hdecoded
  exact ⟨change, h, honly.2 (Or.inr hnumbers)⟩

/-- A larger integer is rounded, though it is no part of the routes. -/
theorem routes_round_large_number :
    ∃ change, Sample.clientState.prepareRoutes Sample.digest
        (marshal (Sample.metered ⟨"9007199254740993", by decide⟩)) = .ok change ∧
      change.before.settings.field? "policy" =
        some (.object [("bufferSize", .number ⟨"9007199254740993", by decide⟩)]) ∧
      change.after.settings.field? "policy" =
        some (.object [("bufferSize", .number ⟨"9007199254740992", by decide⟩)]) := by
  have hprepared : (Sample.clientState.prepareRoutes Sample.digest
      (marshal (Sample.metered ⟨"9007199254740993", by decide⟩))).toOption.any (fun change =>
        change.before.settings.field? "policy" =
          some (.object [("bufferSize", .number ⟨"9007199254740993", by decide⟩)]) &&
        change.after.settings.field? "policy" =
          some (.object [("bufferSize", .number ⟨"9007199254740992", by decide⟩)])) = true := by
    decide +kernel
  obtain ⟨change, h, hpolicy⟩ := any_toOption_iff.1 hprepared
  rw [Bool.and_eq_true] at hpolicy
  exact ⟨change, h, of_decide_eq_true hpolicy.1, of_decide_eq_true hpolicy.2⟩

end Landing
end Vastora
