import Vastora.Landing.Routes

/-!
# Routing — what the settings do to a connection

Xray tries the rules of `routing.rules` in order and takes the outbound of the first that matches, or
the first outbound.  A list of inbounds or users that is absent or empty matches anything, any other
list its members; what the other fields of a rule mean is left open (`Xray.other`), except for the
fields the landing rules themselves use.

`forced_landing_preserves_routing` compares the routing before and after a forced landing.
-/

namespace Vastora
namespace Landing

open Library Library.Guard Library.FirstMatch

inductive Network where
  | tcp | udp
deriving DecidableEq, Repr

/-- The texts of a rule's `network` field that occur here. -/
def networkTexts : List (String × List Network) :=
  [("tcp", [.tcp]), ("udp", [.udp]), ("tcp,udp", [.tcp, .udp])]

/-- The routing of Xray over connections of type `γ`. -/
structure Xray (γ : Type) where
  inbound : γ → String
  user : γ → String
  network : γ → Network
  destination : γ → String
  /-- The fields of a rule other than its inbounds, users and outbound, as one condition. -/
  other : List (String × Json) → γ → Bool
  /-- A scope that is not a list of names. -/
  malformed : Json → γ → Bool
  other_type : ∀ c, other [("type", .string "field")] c = true
  other_network : ∀ c text networks, (text, networks) ∈ networkTexts →
    other [("network", .string text), ("type", .string "field")] c = networks.contains (network c)
  other_ip : ∀ c address, tailnetIPv4 address →
    other [("ip", strings [address ++ "/32"]), ("type", .string "field")] c =
      (destination c == address)

/-! ## Rules -/

/-- The fields of a rule that say what it applies to, other than its inbounds and users. -/
def conditions (rule : Json) : List (String × Json) :=
  (rule.members?.getD []).filter fun m => ! (["inboundTag", "user", "outboundTag"].contains m.1)

/-- The names a scope lists. -/
def scopeNames (scope : Json) : Option (List String) :=
  scope.items?.bind fun items => items.mapM Json.text?

section Matching

variable {γ : Type} (x : Xray γ)

def scopeMatches (scope : Option Json) (name : String) (c : γ) : Bool :=
  match scope with
  | none => true
  | some value =>
      match scopeNames value with
      | some names => names.isEmpty || names.contains name
      | none => x.malformed value c

def ruleMatches (rule : Json) (c : γ) : Bool :=
  scopeMatches x (rule.field? "inboundTag") (x.inbound c) c &&
    scopeMatches x (rule.field? "user") (x.user c) c && x.other (conditions rule) c

end Matching

/-! ## Settings -/

def rulesOf (config : Json) : List Json := ((config.field? "routing").bind (itemsField "rules")).getD []

def outboundsOf (config : Json) : List Json := (itemsField "outbounds" config).getD []

def defaultOutbound (config : Json) : String := ((outboundsOf config).head?.map (textField "tag")).getD ""

/-- The outbound of this tag discards its traffic. -/
def isBlackhole (config : Json) (tag : String) : Bool :=
  (outboundsOf config).any fun outbound =>
    textField "tag" outbound == tag && textField "protocol" outbound == "blackhole"

/-- The outbound a connection takes. -/
def routeOf {γ : Type} (x : Xray γ) (config : Json) (c : γ) : String :=
  select (ruleMatches x · c) (textField "outboundTag") (rulesOf config) (defaultOutbound config)

/-- The settings that a document holds. -/
def Document.settings (d : Document) : Json := (d.value.map Json.decode).getD .null

theorem settings_marshal {config : Json} (h : config.Sorted) : (marshal config).settings = config :=
  Json.decode_of_sorted config h

theorem sorted_settings (d : Document) : d.settings.Sorted := by
  unfold Document.settings
  cases d.value with
  | none => trivial
  | some value => exact Json.sorted_decode value

/-! ## Scopes -/

section Scopes

variable {γ : Type} {x : Xray γ} {c : γ} {rule value : Json} {name key : String}
  {names tags scope : List String}

theorem scopeNames_strings (names : List String) : scopeNames (strings names) = some names := by
  have hnames : (names.map Json.string).mapM Json.text? = some names := by
    induction names with
    | nil => rfl
    | cons name names ih => simp [List.mapM_cons, Json.text?, ih]
  simpa [scopeNames, strings, Json.items?] using hnames

theorem scopeMatches_strings (h : names ≠ []) :
    scopeMatches x (some (strings names)) name c = names.contains name := by
  simp [scopeMatches, scopeNames_strings, h]

theorem conditions_setField (hkey : key ∈ ["inboundTag", "user", "outboundTag"]) :
    conditions (rule.setField key value) = conditions rule := by
  cases rule with
  | object members =>
      refine Json.filter_insertMember fun v => ?_
      simp only [List.contains_iff_mem.2 hkey, Bool.not_true]
  | _ => rfl

theorem inboundScope_subset (h : inboundScope tags rule = .ok scope) : ∀ tag ∈ scope, tag ∈ tags := by
  unfold inboundScope at h
  split at h
  · obtain rfl := Except.ok.inj h
    exact fun tag htag => htag
  · obtain ⟨values, -, h⟩ := fetch_bind_eq_ok_iff.1 h
    split at h
    · obtain rfl := pure_eq_ok_iff.1 h
      exact fun tag htag => htag
    · obtain ⟨names, -, h⟩ := bind_eq_ok_iff.1 h
      obtain rfl := pure_eq_ok_iff.1 h
      intro tag htag
      simpa using (List.mem_filter.1 (List.mem_eraseDups.1 htag)).2

/-- On a selected inbound, the scope of a copy decides like the scope of its rule. -/
theorem scopeMatches_inboundScope (h : inboundScope tags rule = .ok scope) (hc : x.inbound c ∈ tags) :
    scopeMatches x (rule.field? "inboundTag") (x.inbound c) c = scope.contains (x.inbound c) := by
  unfold inboundScope at h
  cases hfield : rule.field? "inboundTag" with
  | none =>
      rw [hfield] at h
      obtain rfl := Except.ok.inj h
      simp [scopeMatches, hc]
  | some value =>
      simp only [hfield, fetch_bind_eq_ok_iff] at h
      obtain ⟨values, hvalues, h⟩ := h
      obtain rfl := Json.items?_eq_some_iff.1 hvalues
      split at h
      · rename_i hempty
        obtain rfl := pure_eq_ok_iff.1 h
        obtain rfl := List.isEmpty_iff.1 hempty
        simp [scopeMatches, scopeNames, Json.items?, hc]
      · rename_i hempty
        obtain ⟨names, hnames, h⟩ := bind_eq_ok_iff.1 h
        obtain rfl := pure_eq_ok_iff.1 h
        have hscope : scopeNames (.array values) = some names := mapM_fetch_eq_ok_iff.1 hnames
        have hne : names ≠ [] := by
          rintro rfl
          cases mapM_eq_ok_iff.1 hnames
          exact hempty rfl
        rw [scopeMatches, hscope]
        simp [hne, hc]

end Scopes

/-! ## Copied rules -/

section Copies

variable {γ : Type} {x : Xray γ} {c : γ} {rule copy : Json} {tags known names : List String}
  {owners : List (String × Bool)}

theorem textField_setField_of_ne {key key' : String} {value : Json} (h : key ≠ key') :
    textField key (rule.setField key' value) = textField key rule := by
  rw [textField, textField, Json.field?_setField_of_ne h]

/-- A rule with other inbounds applies to these and keeps its other conditions. -/
theorem ruleMatches_setField_inboundTag (hrule : rule.members?.isSome) (hnames : names ≠ []) :
    ruleMatches x (rule.setField "inboundTag" (strings names)) c =
      (names.contains (x.inbound c) && scopeMatches x (rule.field? "user") (x.user c) c &&
        x.other (conditions rule) c) := by
  rw [ruleMatches, Json.field?_setField_self hrule, scopeMatches_strings hnames,
    Json.field?_setField_of_ne (by decide), conditions_setField (by simp)]

/-- What the loop over the rules makes of one of them: its copy applies to the connections of the
selection that the rule rejects; without a copy there are none. -/
theorem scopeRule_spec {copy : Option Json} (h : scopeRule tags known owners rule = .ok copy)
    (x : Xray γ) (c : γ) :
    IsCopy (ruleMatches x · c) (fun rule => tags.contains (x.inbound c) &&
      owners.contains (textField "outboundTag" rule, true)) (textField "outboundTag") rule copy := by
  simp only [scopeRule, require_bind_eq_ok_iff] at h
  obtain ⟨hrule, -, -, h⟩ := h
  split at h
  · rename_i hblocked
    obtain ⟨scope, hscope, h⟩ := bind_eq_ok_iff.1 h
    have hcopy := pure_eq_ok_iff.1 h
    have hsub := inboundScope_subset hscope
    have hmatch := @scopeMatches_inboundScope _ x c _ _ _ hscope
    by_cases hempty : scope = []
    · subst hempty hcopy
      by_cases hc : x.inbound c ∈ tags
      · simp [IsCopy, ruleMatches, hmatch hc]
      · simp [IsCopy, hc]
    · rw [if_neg (by simpa using hempty)] at hcopy
      subst hcopy
      refine ⟨?_, textField_setField_of_ne (by decide)⟩
      beta_reduce
      rw [ruleMatches_setField_inboundTag hrule hempty, hblocked, Bool.and_true]
      by_cases hc : x.inbound c ∈ tags
      · simp [ruleMatches, hmatch hc, hc]
      · have hnot : x.inbound c ∉ scope := fun hmem => hc (hsub _ hmem)
        simp [hc, hnot]
  · rename_i hblocked
    obtain rfl := pure_eq_ok_iff.1 h
    simp only [IsCopy, hblocked, Bool.and_false]

theorem sorted_strings (names : List String) : (strings names).Sorted :=
  Json.sortedItems_iff.2 fun item hitem => by
    obtain ⟨name, -, rfl⟩ := List.mem_map.1 hitem
    trivial

/-- A copy is the rule with inbounds of the selection. -/
theorem scopeRule_scope (h : scopeRule tags known owners rule = .ok (some copy)) :
    ∃ scope, scope ≠ [] ∧ (∀ tag ∈ scope, tag ∈ tags) ∧ rule.members?.isSome ∧
      copy = rule.setField "inboundTag" (strings scope) := by
  simp only [scopeRule, require_bind_eq_ok_iff] at h
  obtain ⟨hrule, -, -, h⟩ := h
  split at h
  · obtain ⟨scope, hscope, h⟩ := bind_eq_ok_iff.1 h
    have hcopy := pure_eq_ok_iff.1 h
    split at hcopy
    · cases hcopy
    · rename_i hempty
      exact ⟨scope, by simpa using hempty, inboundScope_subset hscope, hrule,
        (Option.some.inj hcopy).symm⟩
  · cases pure_eq_ok_iff.1 h

theorem ruleMatches_landingRule (htags : tags ≠ []) :
    ruleMatches x (landingRule tags) c = tags.contains (x.inbound c) := by
  have hother : x.other (conditions (landingRule tags)) c = true := by
    have hnetwork := x.other_network c "tcp,udp" [.tcp, .udp] (by simp [networkTexts])
    have hmem : [Network.tcp, .udp].contains (x.network c) = true := by
      cases x.network c <;> rfl
    rwa [hmem] at hnetwork
  rw [ruleMatches, hother, Bool.and_true]
  have hinbound : (landingRule tags).field? "inboundTag" = some (strings tags) := rfl
  have huser : (landingRule tags).field? "user" = none := rfl
  rw [hinbound, huser, scopeMatches_strings htags, scopeMatches, Bool.and_true]

end Copies

/-! ## Rewritten settings -/

section Rewritten

variable {config routing : Json} {rules outbounds : List Json}

theorem rulesOf_eq (hrouting : config.field? "routing" = some routing)
    (hrules : routing.field? "rules" = some (.array rules)) : rulesOf config = rules := by
  simp [rulesOf, hrouting, itemsField_eq_some_iff.2 hrules]

theorem outboundsOf_eq (h : config.field? "outbounds" = some (.array outbounds)) :
    outboundsOf config = outbounds := by
  simp [outboundsOf, itemsField_eq_some_iff.2 h]

theorem rulesOf_withRoutes (hconfig : config.members?.isSome) (hrouting : routing.members?.isSome) :
    rulesOf (withRoutes config routing rules outbounds) = rules := by
  refine rulesOf_eq ?_ (Json.field?_setField_self hrouting)
  rw [withRoutes, Json.field?_setField_of_ne (by decide), Json.field?_setField_self hconfig]

theorem outboundsOf_withRoutes (hconfig : config.members?.isSome) :
    outboundsOf (withRoutes config routing rules outbounds) = outbounds :=
  outboundsOf_eq (Json.field?_setField_self (by rwa [Json.members?_setField_isSome]))

theorem sorted_withRoutes (hconfig : config.Sorted) (hrouting : routing.Sorted)
    (hrules : ∀ rule ∈ rules, rule.Sorted) (houtbounds : ∀ outbound ∈ outbounds, outbound.Sorted) :
    (withRoutes config routing rules outbounds).Sorted :=
  Json.sorted_setField
    (Json.sorted_setField hconfig (Json.sorted_setField hrouting (Json.sortedItems_iff.2 hrules)))
    (Json.sortedItems_iff.2 houtbounds)

theorem apiTag_withRoutes : apiTag (withRoutes config routing rules outbounds) = apiTag config := by
  rw [apiTag, apiTag, withRoutes, Json.field?_setField_of_ne (by decide),
    Json.field?_setField_of_ne (by decide)]

/-! Canonical form only rearranges the rules. -/

theorem rulesOf_canonicalConfig (config : Json) :
    rulesOf (canonicalConfig config) = canonicalRules config (rulesOf config) := by
  rcases canonicalConfig_cases config with ⟨hnone, hcanonical⟩ | ⟨routing, rules, hr, hrs, hcanonical⟩
  · rw [hcanonical, rulesOf, hnone]
    simp [canonicalRules, moveToFront]
  · obtain ⟨members, rfl, -⟩ := Json.eq_object_of_field? hr
    obtain ⟨members', rfl, -⟩ := Json.eq_object_of_field? hrs
    rw [rulesOf_eq hr hrs, hcanonical]
    exact rulesOf_eq (Json.field?_setField_self rfl) (Json.field?_setField_self rfl)

theorem outboundsOf_canonicalConfig (config : Json) :
    outboundsOf (canonicalConfig config) = outboundsOf config := by
  rw [outboundsOf, outboundsOf, itemsField, itemsField, field?_canonicalConfig (by decide)]

theorem sorted_landingRule (tags : List String) : (landingRule tags).Sorted :=
  Json.sorted_object
    (show ["inboundTag", "network", "outboundTag", "type"].Pairwise (· < ·) by decide)
    (by simp [sorted_strings, Json.Sorted])

theorem sorted_socksOutbound (tag : String) (peer : PeerIdentity) :
    (socksOutbound tag peer).Sorted := by
  have hserver : Json.Sorted (.object
      [("address", .string peer.address), ("port", .number socksPort)]) :=
    Json.sorted_object (show ["address", "port"].Pairwise (· < ·) by decide) (by simp [Json.Sorted])
  refine Json.sorted_object (show ["protocol", "settings", "tag"].Pairwise (· < ·) by decide) ?_
  simpa [Json.Sorted, Json.SortedMembers, Json.SortedItems] using hserver

end Rewritten

/-! ## Forced landing -/

section Forced

variable {γ : Type} {raw : Document} {revision : Nat} {tags : List String} {peer : PeerIdentity}
  {config routing : Json} {outbounds rules : List Json} {copies : List (Option Json)}
  {change : RouteChange}

theorem isBlackhole_eq (h : config.field? "outbounds" = some (.array outbounds)) (tag : String) :
    isBlackhole config tag = (outbounds.map ownerOf).contains (tag, true) := by
  rw [isBlackhole, outboundsOf_eq h, Bool.eq_iff_iff]
  simp [ownerOf]

theorem strings_injective {names names' : List String} (h : strings names = strings names') :
    names = names' := by
  have hsame := congrArg scopeNames h
  rwa [scopeNames_strings, scopeNames_strings, Option.some_inj] at hsame

theorem inbound_of_isAPIRule {rule : Json} {tag : String} (h : isAPIRule tag rule) :
    rule.field? "inboundTag" = some (strings [tag]) := by
  simp only [isAPIRule, Bool.and_eq_true, beq_iff_eq] at h
  exact h.2

section Change

variable (h : Prepared raw revision tags peer config routing outbounds rules copies change)

include h

/-- Every copy comes from a rule. -/
theorem Prepared.rule_of_copy {copy : Json}
    (hcopy : copy ∈ copies.reduceOption) :
    ∃ rule ∈ rules, ∃ known, scopeRule tags known (outbounds.map ownerOf) rule = .ok (some copy) := by
  obtain ⟨known, hcopied⟩ := h.copied
  clear h
  rw [List.reduceOption_mem_iff] at hcopy
  induction hcopied with
  | nil => cases hcopy
  | @cons rule copy' rules copies hrule _ ih =>
      rcases List.mem_cons.1 hcopy with rfl | hcopy
      · exact ⟨rule, by simp, known, hrule⟩
      · obtain ⟨rule', hmem, hrule'⟩ := ih hcopy
        exact ⟨rule', by simp [hmem], hrule'⟩

theorem Prepared.sorted_copies :
    ∀ copy ∈ copies.reduceOption, copy.Sorted := by
  intro copy hcopy
  have hrules := Json.sortedItems_iff.1
    (Json.sorted_of_field? (Json.sorted_of_field? h.canonical.sorted h.hasRouting) h.hasRules)
  obtain ⟨rule, hrule, known, hscope⟩ := h.rule_of_copy hcopy
  obtain ⟨scope, -, -, -, rfl⟩ := scopeRule_scope hscope
  exact Json.sorted_setField (hrules rule hrule) (sorted_strings scope)

/-- The rules in front are about selected inbounds. -/
theorem Prepared.scoped :
    ∀ rule ∈ copies.reduceOption ++ [landingRule tags], ∃ scope, scope ≠ [] ∧
      (∀ tag ∈ scope, tag ∈ tags) ∧ rule.field? "inboundTag" = some (strings scope) := by
  intro rule hrule
  rcases List.mem_append.1 hrule with hcopy | hlanding
  · obtain ⟨rule', -, known, hscope⟩ := h.rule_of_copy hcopy
    obtain ⟨scope, hne, hsub, hobject, rfl⟩ := scopeRule_scope hscope
    exact ⟨scope, hne, hsub, Json.field?_setField_self hobject⟩
  · rw [List.mem_singleton.1 hlanding]
    exact ⟨tags, h.selected, fun tag htag => htag, rfl⟩

theorem Prepared.settings_before :
    change.before.settings = config := by
  rw [h.built, settings_marshal h.canonical.sorted]

theorem Prepared.routing_object :
    routing.members?.isSome := by
  obtain ⟨members, rfl, -⟩ := Json.eq_object_of_field? h.hasRules
  rfl

theorem Prepared.settings_after :
    change.after.settings = withRoutes config routing
      (copies.reduceOption ++ landingRule tags :: rules)
      (outbounds ++ [socksOutbound proxyOutboundTag peer]) := by
  have hconfig := h.canonical.sorted
  have hrouting := Json.sorted_of_field? hconfig h.hasRouting
  have hrules := Json.sortedItems_iff.1 (Json.sorted_of_field? hrouting h.hasRules)
  have houtbounds := Json.sortedItems_iff.1 (Json.sorted_of_field? hconfig h.hasOutbounds)
  rw [h.built]
  refine settings_marshal (sorted_withRoutes hconfig hrouting ?_ ?_)
  · intro rule hrule
    rcases List.mem_append.1 hrule with hrule | hrule
    · exact h.sorted_copies rule hrule
    · rcases List.mem_cons.1 hrule with rfl | hrule
      · exact sorted_landingRule tags
      · exact hrules rule hrule
  · intro outbound houtbound
    rcases List.mem_append.1 houtbound with houtbound | houtbound
    · exact houtbounds outbound houtbound
    · rw [List.mem_singleton.1 houtbound]
      exact sorted_socksOutbound proxyOutboundTag peer

/-- The copies decide like the rejecting rules, for the connections of the selection. -/
theorem Prepared.select_copies (x : Xray γ)
    (c : γ) (d : String) :
    select (ruleMatches x · c) (textField "outboundTag") copies.reduceOption d =
      select (fun rule => ruleMatches x rule c && (tags.contains (x.inbound c) &&
        isBlackhole config (textField "outboundTag" rule))) (textField "outboundTag") rules d := by
  obtain ⟨known, hcopied⟩ := h.copied
  simp only [isBlackhole_eq h.hasOutbounds]
  refine FirstMatch.select_copies (hcopied.imp fun rule copy hcopy => ?_)
  exact scopeRule_spec hcopy x c

theorem Prepared.defaultOutbound_after :
    defaultOutbound change.after.settings = defaultOutbound config := by
  rw [defaultOutbound, defaultOutbound, h.settings_after, outboundsOf_withRoutes h.canonical.object,
    outboundsOf_eq h.hasOutbounds]
  cases houtbounds : outbounds with
  | nil => exact absurd houtbounds h.nonempty
  | cons outbound outbounds => rfl

theorem Prepared.routeOf_before (x : Xray γ)
    (c : γ) : routeOf x change.before.settings c =
      select (ruleMatches x · c) (textField "outboundTag") rules (defaultOutbound config) := by
  rw [routeOf, h.settings_before, rulesOf_eq h.hasRouting h.hasRules]

/-- After the change: the rejecting rules first, then the peer, then the routing as it was. -/
theorem Prepared.routeOf_after (x : Xray γ)
    (c : γ) : routeOf x change.after.settings c =
      select (fun rule => ruleMatches x rule c && (tags.contains (x.inbound c) &&
        isBlackhole config (textField "outboundTag" rule))) (textField "outboundTag") rules
        (if tags.contains (x.inbound c) then proxyOutboundTag
          else routeOf x change.before.settings c) := by
  rw [routeOf, h.defaultOutbound_after, h.settings_after,
    rulesOf_withRoutes h.canonical.object h.routing_object, select_append, select_cons,
    ruleMatches_landingRule h.selected, h.select_copies, h.routeOf_before]
  rfl

theorem Prepared.apiTag_after :
    apiTag change.after.settings = apiTag config := by
  rw [h.settings_after, apiTag_withRoutes]

theorem Prepared.not_isAPIRule :
    ∀ rule ∈ copies.reduceOption ++ [landingRule tags], ¬ isAPIRule (apiTag config) rule := by
  intro rule hrule hapiRule
  obtain ⟨scope, -, hsub, hfield⟩ := h.scoped rule hrule
  rw [inbound_of_isAPIRule hapiRule, Option.some_inj] at hfield
  exact h.apiFree (hsub _ (strings_injective hfield ▸ List.mem_singleton_self _))

/-- The settings after the change may be saved in canonical form: the rule of the API then comes before
the new rules, which are about other inbounds. -/
theorem Prepared.routeOf_canonicalConfig (x : Xray γ)
    (c : γ) : routeOf x (canonicalConfig change.after.settings) c =
      routeOf x change.after.settings c := by
  have hrules : rulesOf change.after.settings = (copies.reduceOption ++ [landingRule tags]) ++ rules := by
    rw [h.settings_after, rulesOf_withRoutes h.canonical.object h.routing_object]
    simp
  have hfixed : canonicalRules config rules = rules := by
    have := rulesOf_canonicalConfig config
    rwa [h.canonical.fixed, rulesOf_eq h.hasRouting h.hasRules, eq_comm] at this
  rw [routeOf, routeOf, defaultOutbound, defaultOutbound, outboundsOf_canonicalConfig,
    rulesOf_canonicalConfig, hrules, canonicalRules, h.apiTag_after]
  by_cases hempty : apiTag config = ""
  · rw [if_pos hempty]
  rw [canonicalRules, if_neg hempty] at hfixed
  rw [if_neg hempty]
  cases hfind : rules.find? (isAPIRule (apiTag config)) with
  | none =>
      have hnone : (copies.reduceOption ++ [landingRule tags] ++ rules).find?
          (isAPIRule (apiTag config)) = none := by
        rw [List.find?_append, List.find?_eq_none.2 h.not_isAPIRule, hfind]
        rfl
      rw [moveToFront, hnone]
  | some rule =>
      have hsplit : rules = rule :: rules.eraseP (isAPIRule (apiTag config)) := by
        rw [moveToFront, hfind] at hfixed
        exact hfixed.symm
      have hrule : isAPIRule (apiTag config) rule := List.find?_some hfind
      rw [hsplit]
      refine select_moveToFront h.not_isAPIRule hrule fun hhit rule' hrule' => ?_
      -- The API rule applies to its own inbound only, which is not selected.
      have hinbound : x.inbound c = apiTag config := by
        simp only [ruleMatches, inbound_of_isAPIRule hrule, Bool.and_eq_true] at hhit
        rw [scopeMatches_strings (by simp)] at hhit
        simpa using hhit.1.1
      obtain ⟨scope, hne, hsub, hfield⟩ := h.scoped rule' hrule'
      have hnot : x.inbound c ∉ scope := fun hmem => h.apiFree (hinbound ▸ hsub _ hmem)
      rw [ruleMatches, hfield, scopeMatches_strings hne]
      simp [hnot]

end Change

/-- The outbound that `proxyOutboundTag` stands for: the SOCKS service of the peer. -/
structure SocksTo (peer : PeerIdentity) (outbound : Json) : Prop where
  tag : textField "tag" outbound = "vastora-landing-egress"
  protocol : textField "protocol" outbound = "socks"
  server : outbound.field? "settings" = some (.object [("servers", .array [
    .object [("address", .string peer.address), ("port", .number socksPort)]])])

/-- Forced landing keeps the routing of other inbounds and what is rejected of the selected ones;
everything else of these goes to the peer, whose outbound is added behind the others. -/
theorem forced_landing_preserves_routing (x : Xray γ)
    (h : prepareRouteChange raw revision tags peer = .ok change) :
    (∃ outbound, SocksTo peer outbound ∧
      outboundsOf change.after.settings = outboundsOf change.before.settings ++ [outbound]) ∧
    (∀ c, x.inbound c ∉ tags →
      routeOf x change.after.settings c = routeOf x change.before.settings c) ∧
    ∀ c, x.inbound c ∈ tags → routeOf x change.after.settings c =
      select (fun rule => ruleMatches x rule c &&
          isBlackhole change.before.settings (textField "outboundTag" rule))
        (textField "outboundTag") (rulesOf change.before.settings) proxyOutboundTag := by
  obtain ⟨config, routing, outbounds, rules, copies, hprepared⟩ := prepareRouteChange_cases h
  refine ⟨⟨socksOutbound proxyOutboundTag peer, ⟨rfl, rfl, rfl⟩, ?_⟩, fun c hc => ?_, fun c hc => ?_⟩
  · rw [hprepared.settings_after, hprepared.settings_before, outboundsOf_withRoutes hprepared.canonical.object,
      outboundsOf_eq hprepared.hasOutbounds]
  · have hcontains : tags.contains (x.inbound c) = false := by simpa using hc
    rw [hprepared.routeOf_after, select_of_not_hit fun rule _ => by rw [hcontains, Bool.false_and, Bool.and_false],
      hcontains]
    rfl
  · have hcontains : tags.contains (x.inbound c) = true := by simpa using hc
    rw [hprepared.routeOf_after, hprepared.settings_before, rulesOf_eq hprepared.hasRouting hprepared.hasRules,
      hcontains]
    simp only [Bool.true_and, if_true]

end Forced

namespace Sample

/-- A connection, with what the rules of the samples look at. -/
structure Connection where
  inbound : String
  user : String
  network : Network
  destination : String

/-- Fields that only restrict the network or the destination address; rules with others never match. -/
def other : List (String × Json) → Connection → Bool
  | [_], _ => true
  | [("network", .string text), _], c => networkTexts.any fun t => t.1 == text && t.2.contains c.network
  | [("ip", value), _], c => value == strings [c.destination ++ "/32"]
  | _, _ => false

def xray : Xray Connection where
  inbound := Connection.inbound
  user := Connection.user
  network := Connection.network
  destination := Connection.destination
  other := other
  malformed _ _ := false
  other_type _ := rfl
  other_network c text networks h := by
    simp only [networkTexts, List.mem_cons, Prod.mk.injEq, List.not_mem_nil, or_false] at h
    rcases h with ⟨rfl, rfl⟩ | ⟨rfl, rfl⟩ | ⟨rfl, rfl⟩ <;> cases hc : c.network <;>
      simp [other, networkTexts, hc]
  other_ip c address _ := by
    have hends : ∀ a b : String, a ++ "/32" = b ++ "/32" ↔ a = b := fun a b => by
      simp [← String.toList_inj]
    rw [Bool.eq_iff_iff, beq_iff_eq]
    simp only [other, strings, beq_iff_eq, List.map_cons, List.map_nil, Json.array.injEq,
      List.cons.injEq, and_true, Json.string.injEq, hends]
    exact eq_comm

def peer : PeerIdentity := ⟨"peer", "key", "100.64.0.7"⟩

/-- One outbound that forwards, one that rejects, and a rule that rejects a destination. -/
def settings : Json :=
  .object [("outbounds", .array [
      .object [("protocol", .string "freedom"), ("tag", .string "direct")],
      .object [("protocol", .string "blackhole"), ("tag", .string "blocked")]]),
    ("routing", .object [("rules", .array [
      .object [("ip", strings ["100.64.0.9/32"]), ("outboundTag", .string "blocked"),
        ("type", .string "field")]])])]

end Sample

/-- A rejected destination stays rejected on a selected inbound, and another goes to the peer. -/
theorem forced_landing_preserves_routing_sample :
    ∃ change, prepareRouteChange (marshal Sample.settings) 1 ["in-1"] Sample.peer = .ok change ∧
      routeOf Sample.xray change.after.settings ⟨"in-1", "u", .tcp, "100.64.0.9"⟩ = "blocked" ∧
      routeOf Sample.xray change.after.settings ⟨"in-1", "u", .udp, "1.1.1.1"⟩ = proxyOutboundTag ∧
      routeOf Sample.xray change.after.settings ⟨"in-2", "u", .tcp, "1.1.1.1"⟩ = "direct" := by
  have hprepared : (prepareRouteChange (marshal Sample.settings) 1 ["in-1"] Sample.peer).toOption.any
      (·.before.settings = Sample.settings) = true := by decide +kernel
  obtain ⟨change, h, hbefore⟩ := any_toOption_iff.1 hprepared
  have hbefore : change.before.settings = Sample.settings := of_decide_eq_true hbefore
  obtain ⟨-, hothers, hselected⟩ := forced_landing_preserves_routing Sample.xray h
  refine ⟨change, h, ?_, ?_, ?_⟩
  · rw [hselected _ (by decide), hbefore]
    decide +kernel
  · rw [hselected _ (by decide), hbefore]
    decide +kernel
  · rw [hothers _ (by decide), hbefore]
    decide +kernel

end Landing
end Vastora
