import Vastora.Landing.GrantRoutes

/-!
# Confinement — client grants cannot escape

Every rule that the grants put in front names one user, the base or the fixed user of a grant.  From
that, `client_grants_confined`: other users are routed as before, base users as before or nowhere, and
fixed users through their own outbound or nowhere.
-/

namespace Vastora
namespace Landing

open Library Library.Guard Library.FirstMatch Library.Pattern

/-! ## Repeated rejections -/

section Rejects

variable {rule r : Json} {tag tag' user user' : String} {st : List Json × List String}
  {sha256 : String → List UInt8} {g : ClientGrant} {grants : List ClientGrant}

/-- The user of a scope key is what follows its last zero character. -/
theorem scopeKey_injective (hu : '\x00' ∉ user.toList) (hu' : '\x00' ∉ user'.toList)
    (h : tag ++ "\x00" ++ user = tag' ++ "\x00" ++ user') : tag = tag' ∧ user = user' := by
  have hlist : tag.toList ++ '\x00' :: user.toList = tag'.toList ++ '\x00' :: user'.toList := by
    have := congrArg String.toList h
    simpa using this
  have hrev := congrArg List.reverse hlist
  simp only [List.reverse_append, List.reverse_cons, List.append_assoc, List.singleton_append] at hrev
  -- Read backwards, the user ends at the first zero character.
  have hcut : ∀ u t : String, '\x00' ∉ u.toList →
      (u.toList.reverse ++ '\x00' :: t.toList.reverse).takeWhile (· != '\x00') =
        u.toList.reverse := by
    intro u t hnul
    rw [List.takeWhile_append_of_pos fun c hc => ?_, List.takeWhile_cons_of_neg (by simp),
      List.append_nil]
    rw [bne_iff_ne]
    rintro rfl
    exact hnul (List.mem_reverse.1 hc)
  have husers : user.toList.reverse = user'.toList.reverse := by
    rw [← hcut user tag hu, hrev, hcut user' tag' hu']
  have htags : tag.toList.reverse = tag'.toList.reverse := by
    rw [husers] at hrev
    simpa using List.append_cancel_left hrev
  exact ⟨String.toList_inj.1 (List.reverse_injective htags),
    String.toList_inj.1 (List.reverse_injective husers)⟩

/-- A user of a grant. -/
def ClientGrant.HasUser (g : ClientGrant) (user : String) : Prop :=
  user ≠ "" ∧ (user = g.baseUser ∨ user = g.fixedUser)

theorem hexEncode_noNul (bytes : List UInt8) : '\x00' ∉ (hexEncode bytes).toList := by
  have hdigit : ∀ n, Json.hexDigit n ≠ '\x00' := by
    intro n
    by_cases hn : n < 16
    · have hall : ∀ n < 16, Json.hexDigit n ≠ '\x00' := by decide
      exact hall n hn
    · have hlen : "0123456789abcdef".toList.length ≤ n := by
        have : "0123456789abcdef".toList.length = 16 := by decide
        omega
      rw [Json.hexDigit, List.getD_eq_default _ _ hlen]
      decide
  simp only [hexEncode, String.toList_ofList, List.mem_flatMap, not_exists, not_and]
  intro b _ hmem
  rcases List.mem_cons.1 hmem with h | h
  · exact hdigit _ h.symm
  · exact hdigit _ (List.mem_singleton.1 h).symm

theorem ClientGrant.Valid.noNul (h : g.Valid sha256) (hu : g.HasUser user) :
    '\x00' ∉ user.toList := by
  rcases hu with ⟨hne, rfl | rfl⟩
  · exact h.baseUser.2
  · rcases h.fixedUser with hf | hf
    · exact absurd hf hne
    · rw [hf, Landing.fixedUser, String.toList_append, List.mem_append, not_or]
      exact ⟨by decide, hexEncode_noNul _⟩

/-- What the loops over grants and users have collected. -/
structure Rejects (rule : Json) (grants : List ClientGrant) (st : List Json × List String) : Prop where
  sound : ∀ r ∈ st.1, ∃ g ∈ grants, ∃ user, g.HasUser user ∧ r = rejectClone rule g.inboundTag user
  seen : ∀ key ∈ st.2, ∃ tag user, '\x00' ∉ user.toList ∧ key = tag ++ "\x00" ++ user ∧
    rejectClone rule tag user ∈ st.1

/-- One user: the collection stays sound and grows, and has the user if the rule covers it. -/
theorem rejectUser_spec (hst : Rejects rule grants st) (hg : g ∈ grants) (hvalid : g.Valid sha256)
    (hu : user = g.baseUser ∨ user = g.fixedUser) :
    Rejects rule grants (rejectUser rule g.inboundTag st user) ∧
      st.1 ⊆ (rejectUser rule g.inboundTag st user).1 ∧
      (user ≠ "" → scopeCovers "user" rule user →
        rejectClone rule g.inboundTag user ∈ (rejectUser rule g.inboundTag st user).1) := by
  unfold rejectUser
  by_cases hempty : user = ""
  · subst hempty
    exact ⟨hst, List.Subset.refl _, fun h => absurd rfl h⟩
  have huser : g.HasUser user := ⟨hempty, hu⟩
  have hnul := hvalid.noNul huser
  by_cases hseen : g.inboundTag ++ "\x00" ++ user ∈ st.2
  · -- The scope was met before, so its clone is there already.
    obtain ⟨tag, user', hnul', hkey, hmem⟩ := hst.seen _ hseen
    obtain ⟨rfl, rfl⟩ := scopeKey_injective hnul hnul' hkey
    simp only [List.contains_iff_mem.2 hseen, Bool.or_true, if_true]
    exact ⟨hst, List.Subset.refl _, fun _ _ => hmem⟩
  have hnew : (user == "" || st.2.contains (g.inboundTag ++ "\x00" ++ user)) = false := by
    simp [hempty, hseen]
  simp only [hnew, Bool.false_eq_true, if_false]
  by_cases hcovers : scopeCovers "user" rule user
  · rw [if_pos hcovers]
    refine ⟨⟨fun r hr => ?_, fun key hkey => ?_⟩, List.subset_append_left _ _, fun _ _ => by simp⟩
    · rcases List.mem_append.1 hr with hr | hr
      · exact hst.sound r hr
      · exact ⟨g, hg, user, huser, List.mem_singleton.1 hr⟩
    · rcases List.mem_append.1 hkey with hkey | hkey
      · obtain ⟨tag, user', hnul', heq, hmem⟩ := hst.seen key hkey
        exact ⟨tag, user', hnul', heq, List.mem_append_left _ hmem⟩
      · exact ⟨g.inboundTag, user, hnul, List.mem_singleton.1 hkey, by simp⟩
  · rw [if_neg hcovers]
    exact ⟨hst, List.Subset.refl _, fun _ h => absurd h hcovers⟩

/-- One grant: both of its users. -/
theorem rejectGrant_spec (hst : Rejects rule grants st) (hg : g ∈ grants) (hvalid : g.Valid sha256) :
    Rejects rule grants (rejectGrant rule st g) ∧ st.1 ⊆ (rejectGrant rule st g).1 ∧
      ∀ user, g.HasUser user → scopeCovers "inboundTag" rule g.inboundTag →
        scopeCovers "user" rule user → rejectClone rule g.inboundTag user ∈ (rejectGrant rule st g).1 := by
  unfold rejectGrant
  split
  · obtain ⟨hbase, hsub, hmem⟩ := rejectUser_spec hst hg hvalid (Or.inl rfl)
    obtain ⟨hfixed, hsub', hmem'⟩ := rejectUser_spec hbase hg hvalid (Or.inr rfl)
    refine ⟨hfixed, fun r hr => hsub' (hsub hr), ?_⟩
    rintro user ⟨hne, rfl | rfl⟩ _ hcovers
    · exact hsub' (hmem hne hcovers)
    · exact hmem' hne hcovers
  · rename_i hcovers
    exact ⟨hst, List.Subset.refl _, fun _ _ h => absurd h hcovers⟩

theorem rejectGrant_foldl {todo : List ClientGrant} (hst : Rejects rule grants st)
    (hsub : todo ⊆ grants) (hvalid : ∀ g ∈ grants, g.Valid sha256) :
    Rejects rule grants (todo.foldl (rejectGrant rule) st) ∧
      st.1 ⊆ (todo.foldl (rejectGrant rule) st).1 ∧
      ∀ g ∈ todo, ∀ user, g.HasUser user → scopeCovers "inboundTag" rule g.inboundTag →
        scopeCovers "user" rule user →
        rejectClone rule g.inboundTag user ∈ (todo.foldl (rejectGrant rule) st).1 := by
  induction todo generalizing st with
  | nil => exact ⟨hst, List.Subset.refl _, by simp⟩
  | cons g todo ih =>
      have hg : g ∈ grants := hsub (by simp)
      obtain ⟨hstep, hgrow, hmem⟩ := rejectGrant_spec hst hg (hvalid g hg)
      obtain ⟨hall, hgrow', hmem'⟩ := ih hstep fun g' hg' => hsub (by simp [hg'])
      refine ⟨hall, fun r hr => hgrow' (hgrow hr), ?_⟩
      intro g' hg' user hu hinbound huser
      rcases List.mem_cons.1 hg' with rfl | hg'
      · exact hgrow' (hmem user hu hinbound huser)
      · exact hmem' g' hg' user hu hinbound huser

/-- The clones of a rule are those for the covered inbounds and users of the grants. -/
theorem scopedGrantRejects_spec (hvalid : ∀ g ∈ grants, g.Valid sha256) :
    (∀ r ∈ scopedGrantRejects rule grants, ∃ g ∈ grants, ∃ user, g.HasUser user ∧
      r = rejectClone rule g.inboundTag user) ∧
    ∀ g ∈ grants, ∀ user, g.HasUser user → scopeCovers "inboundTag" rule g.inboundTag →
      scopeCovers "user" rule user →
      rejectClone rule g.inboundTag user ∈ scopedGrantRejects rule grants := by
  have hinit : Rejects rule grants ([], []) := ⟨by simp, by simp⟩
  obtain ⟨hall, -, hmem⟩ := rejectGrant_foldl hinit (List.Subset.refl _) hvalid
  exact ⟨hall.sound, hmem⟩

end Rejects

/-! ## When the new rules apply -/

section Matching

variable {γ : Type} {x : Xray γ} {c : γ} {rule : Json} {g : ClientGrant} {tag user field name : String}

theorem scopeMatches_single : scopeMatches x (some (strings [user])) name c = (name == user) := by
  rw [scopeMatches_strings (by simp), List.contains_cons, List.contains_nil, Bool.or_false]

theorem ruleMatches_peerDenyRule (h : tailnetIPv4 g.peer.address) :
    ruleMatches x (peerDenyRule g) c = (x.inbound c == g.inboundTag && x.user c == g.baseUser &&
      x.destination c == g.peer.address) := by
  have hother : x.other (conditions (peerDenyRule g)) c = (x.destination c == g.peer.address) :=
    x.other_ip c _ h
  have hinbound : (peerDenyRule g).field? "inboundTag" = some (strings [g.inboundTag]) := rfl
  have huser : (peerDenyRule g).field? "user" = some (strings [g.baseUser]) := rfl
  rw [ruleMatches, hother, hinbound, huser, scopeMatches_single, scopeMatches_single]

theorem ruleMatches_fixedScope {network outbound : String} {networks : List Network}
    (h : (network, networks) ∈ networkTexts) :
    ruleMatches x (fixedScope g network outbound) c = (x.inbound c == g.inboundTag &&
      x.user c == g.fixedUser && networks.contains (x.network c)) := by
  have hother : x.other (conditions (fixedScope g network outbound)) c =
      networks.contains (x.network c) := x.other_network c _ _ h
  have hinbound : (fixedScope g network outbound).field? "inboundTag" =
      some (strings [g.inboundTag]) := rfl
  have huser : (fixedScope g network outbound).field? "user" = some (strings [g.fixedUser]) := rfl
  rw [ruleMatches, hother, hinbound, huser, scopeMatches_single, scopeMatches_single]

theorem ruleMatches_denyUserRule : ruleMatches x (denyUserRule user) c = (x.user c == user) := by
  have hother : x.other (conditions (denyUserRule user)) c = true := x.other_type c
  have hinbound : (denyUserRule user).field? "inboundTag" = none := rfl
  have huser : (denyUserRule user).field? "user" = some (strings [user]) := rfl
  rw [ruleMatches, hother, hinbound, huser, scopeMatches_single, scopeMatches, Bool.true_and,
    Bool.and_true]

theorem ruleMatches_rejectClone (h : rule.members?.isSome) :
    ruleMatches x (rejectClone rule tag user) c =
      (x.inbound c == tag && x.user c == user && x.other (conditions rule) c) := by
  have hobject : (rule.setField "inboundTag" (strings [tag])).members?.isSome := by
    rwa [Json.members?_setField_isSome]
  rw [ruleMatches, rejectClone, Json.field?_setField_self hobject,
    Json.field?_setField_of_ne (by decide), Json.field?_setField_self h, scopeMatches_single,
    scopeMatches_single, conditions_setField (by simp), conditions_setField (by simp)]

theorem exists_texts {values : List Json} (h : ∀ value ∈ values, value.text?.isSome) :
    ∃ names : List String, values = names.map .string := by
  induction values with
  | nil => exact ⟨[], rfl⟩
  | cons value values ih =>
      obtain ⟨names, rfl⟩ := ih fun value hvalue => h value (by simp [hvalue])
      obtain ⟨name, hname⟩ := Option.isSome_iff_exists.1 (h value (by simp))
      exact ⟨name :: names, by rw [Json.text?_eq_some_iff.1 hname, List.map_cons]⟩

/-- A checked scope decides like Xray. -/
theorem scopeMatches_eq_scopeCovers {u : Unit} (h : checkScope rule field = .ok u) :
    scopeMatches x (rule.field? field) name c = scopeCovers field rule name := by
  unfold checkScope at h
  cases hfield : rule.field? field with
  | none => simp [scopeMatches, scopeCovers, itemsField, hfield]
  | some value =>
      simp only [hfield, fetch_bind_eq_ok_iff, require_eq_ok_iff, List.all_eq_true] at h
      obtain ⟨values, hvalues, htexts⟩ := h
      obtain rfl := Json.items?_eq_some_iff.1 hvalues
      obtain ⟨names, rfl⟩ := exists_texts htexts
      have hscope : scopeNames (.array (names.map .string)) = some names := scopeNames_strings names
      rw [scopeMatches, hscope, scopeCovers, itemsField_eq_some_iff.2 hfield]
      simp

end Matching

/-! ## What a preparation reads and builds -/

/-- A tag under which nothing leaves. -/
def Denied (config : Json) (tag : String) : Prop := isBlackhole config tag ∨ tag = grantDenyTag

section Composition

variable {sha256 : String → List UInt8} {raw base : Document} {revision : Nat}
  {forced : Option ProxyPlan} {grants : List ClientGrant} {config routing : Json}
  {outbounds rules : List Json} {change : RouteChange}

/-- What `prepareClientRoutes` has read from the settings, and what it has built. -/
structure ClientPrepared (sha256 : String → List UInt8) (raw : Document) (revision : Nat)
    (forced : Option ProxyPlan) (grants : List ClientGrant) (base : Document) (config routing : Json)
    (outbounds rules : List Json) (change : RouteChange) : Prop where
  dated : revision ≠ 0
  decoded : ∃ original, decodeRouteSettings raw = .ok (original, change.before)
  composed : clientBase change.before revision forced = .ok base
  baseDecoded : decodeRouteSettings base = .ok (config, marshal config)
  canonical : Canonical config
  hasOutbounds : config.field? "outbounds" = some (.array outbounds)
  nonempty : outbounds ≠ []
  ownTags : ∀ outbound ∈ outbounds, grantReserved (textField "tag" outbound) = false
  hasRouting : config.field? "routing" = some routing
  hasRules : routing.field? "rules" = some (.array rules)
  checked : Checked sha256 (orderedGrants grants)
  checkedRules : ∃ known, ∀ rule ∈ rules, checkRule known rule = .ok ()
  built : change = { revision, before := change.before
                     after := marshal (withRoutes config routing
                       (grantRules sha256 (orderedGrants grants) (isBlackhole config) rules ++ rules)
                       (outbounds ++ (orderedGrants grants).flatMap (fixedOutbounds sha256) ++
                         [denyOutbound]))
                     replaces := .empty }

theorem prepareClientRoutes_cases
    (h : prepareClientRoutes sha256 raw revision forced grants = .ok change) :
    ∃ base config routing outbounds rules, ClientPrepared sha256 raw revision forced grants base config
      routing outbounds rules change := by
  simp only [prepareClientRoutes, bind_eq_ok_iff, require_eq_ok_iff, exists_const, fetch_eq_ok_iff,
    Prod.exists, pure_eq_ok_iff] at h
  obtain ⟨hplan, original, before, hdecoded, base, hbase, config, canonical, hconfig, outbounds,
    houtbounds, hnonempty, routing, hrouting, -, rules, hrules, -, owners, howners, -, _, hgrants, _,
    hcheck, rfl⟩ := h
  obtain ⟨hcanonical, rfl⟩ := decodeRouteSettings_canonical hconfig
  obtain ⟨rfl, htags⟩ := readOutbounds_eq_ok howners
  have houtbounds' := itemsField_eq_some_iff.1 houtbounds
  simp only [Bool.and_eq_true, bne_iff_ne] at hplan
  have hblocked : (fun tag => (outbounds.map ownerOf).contains (tag, true)) = isBlackhole config :=
    funext fun tag => (isBlackhole_eq houtbounds' tag).symm
  refine ⟨base, config, routing, outbounds, rules, hplan.1, ⟨original, hdecoded⟩, hbase, hconfig,
    hcanonical, houtbounds', by simpa using hnonempty, htags, hrouting,
    itemsField_eq_some_iff.1 hrules, checked_of_checkGrants hgrants, ⟨_, forM_eq_ok_iff.1 hcheck⟩, ?_⟩
  rw [hblocked]

/-- The three groups of new rules. -/
theorem mem_grantRules {blocked : String → Bool} {r : Json} (hvalid : ∀ g ∈ grants, g.Valid sha256)
    (h : r ∈ grantRules sha256 grants blocked rules) :
    (∃ g ∈ grants, r = peerDenyRule g) ∨
    (∃ rule ∈ rules, blocked (textField "outboundTag" rule) ∧ ∃ g ∈ grants, ∃ user, g.HasUser user ∧
      r = rejectClone rule g.inboundTag user) ∨
    (∃ g ∈ grants, r ∈ fixedRules sha256 g) := by
  simp only [grantRules, List.mem_append, List.mem_map, List.mem_flatMap, List.mem_filter] at h
  rcases h with (⟨g, hg, rfl⟩ | ⟨rule, ⟨hrule, hblocked⟩, hr⟩) | ⟨g, hg, hr⟩
  · exact Or.inl ⟨g, hg, rfl⟩
  · obtain ⟨g, hg, user, huser, rfl⟩ := (scopedGrantRejects_spec hvalid).1 r hr
    exact Or.inr (Or.inl ⟨rule, hrule, hblocked, g, hg, user, huser, rfl⟩)
  · exact Or.inr (Or.inr ⟨g, hg, hr⟩)

/-- The rules for a fixed user. -/
theorem mem_fixedRules {g : ClientGrant} {r : Json} (h : r ∈ fixedRules sha256 g) :
    g.fixedUser ≠ "" ∧ (r = denyUserRule g.fixedUser ∨ g.routed ∧
      (r = fixedScope g "udp" grantDenyTag ∨
        r = fixedScope g "tcp" (fixedOutbound sha256 g.id))) := by
  unfold fixedRules at h
  split at h
  · cases h
  · rename_i hne
    refine ⟨hne, ?_⟩
    rcases List.mem_append.1 h with h | h
    · split at h
      · rename_i hrouted
        exact Or.inr ⟨hrouted, by simpa using h⟩
      · cases h
    · exact Or.inl (List.mem_singleton.1 h)

theorem sorted_scopedRule {members : List (String × Json)}
    (hkeys : (members.map Prod.fst).Pairwise (· < ·))
    (hvalues : ∀ m ∈ members, (∃ text, m.2 = .string text) ∨ ∃ names, m.2 = strings names) :
    Json.Sorted (.object members) := by
  refine Json.sorted_object hkeys fun m hm => ?_
  rcases hvalues m hm with ⟨text, h⟩ | ⟨names, h⟩
  · rw [h]
    trivial
  · rw [h]
    exact sorted_strings names

theorem sorted_denyUserRule (user : String) : (denyUserRule user).Sorted :=
  sorted_scopedRule (show ["outboundTag", "type", "user"].Pairwise (· < ·) by decide) (by simp)

theorem sorted_grantRules {blocked : String → Bool} (hvalid : ∀ g ∈ grants, g.Valid sha256)
    (hrules : ∀ rule ∈ rules, rule.Sorted) :
    ∀ rule ∈ grantRules sha256 grants blocked rules, rule.Sorted := by
  intro r hr
  rcases mem_grantRules hvalid hr with ⟨g, -, rfl⟩ | ⟨rule, hrule, -, g, -, user, -, rfl⟩ | ⟨g, -, hr⟩
  · exact sorted_scopedRule
      (show ["inboundTag", "ip", "outboundTag", "type", "user"].Pairwise (· < ·) by decide) (by simp)
  · exact Json.sorted_setField (Json.sorted_setField (hrules rule hrule) (sorted_strings _))
      (sorted_strings _)
  · have hscoped : ∀ network outbound, (fixedScope g network outbound).Sorted := fun _ _ =>
      sorted_scopedRule (show ["inboundTag", "network", "outboundTag", "type", "user"].Pairwise (· < ·)
        by decide) (by simp)
    rcases mem_fixedRules hr with ⟨-, rfl | ⟨-, rfl | rfl⟩⟩
    · exact sorted_denyUserRule _
    · exact hscoped _ _
    · exact hscoped _ _

theorem sorted_denyOutbound : denyOutbound.Sorted :=
  Json.sorted_object (show ["protocol", "settings", "tag"].Pairwise (· < ·) by decide)
    (by simp [Json.Sorted, Json.SortedMembers])

theorem mem_fixedOutbounds {g : ClientGrant} {outbound : Json}
    (h : outbound ∈ fixedOutbounds sha256 g) :
    outbound = socksOutbound (fixedOutbound sha256 g.id) g.peer := by
  unfold fixedOutbounds at h
  split at h
  · exact List.mem_singleton.1 h
  · cases h

section Change

variable (h : ClientPrepared sha256 raw revision forced grants base config routing outbounds rules change)

include h

theorem ClientPrepared.settings_after :
    change.after.settings = withRoutes config routing
      (grantRules sha256 (orderedGrants grants) (isBlackhole config) rules ++ rules)
      (outbounds ++ (orderedGrants grants).flatMap (fixedOutbounds sha256) ++ [denyOutbound]) := by
  have hconfig := h.canonical.sorted
  have hrouting := Json.sorted_of_field? hconfig h.hasRouting
  have hrules := Json.sortedItems_iff.1 (Json.sorted_of_field? hrouting h.hasRules)
  have houtbounds := Json.sortedItems_iff.1 (Json.sorted_of_field? hconfig h.hasOutbounds)
  rw [h.built]
  refine settings_marshal (sorted_withRoutes hconfig hrouting ?_ ?_)
  · intro rule hrule
    rcases List.mem_append.1 hrule with hrule | hrule
    · exact sorted_grantRules h.checked.valid hrules rule hrule
    · exact hrules rule hrule
  · intro outbound houtbound
    simp only [List.mem_append, List.mem_flatMap, List.mem_singleton] at houtbound
    rcases houtbound with (houtbound | ⟨g, -, houtbound⟩) | rfl
    · exact houtbounds outbound houtbound
    · rw [mem_fixedOutbounds houtbound]
      exact sorted_socksOutbound _ _
    · exact sorted_denyOutbound

theorem ClientPrepared.routing_object :
    routing.members?.isSome := by
  obtain ⟨members, rfl, -⟩ := Json.eq_object_of_field? h.hasRules
  rfl

/-- The composition adds outbounds, so what rejects keeps rejecting. -/
theorem ClientPrepared.isBlackhole_after {tag : String} (htag : Denied config tag) :
    isBlackhole change.after.settings tag := by
  rw [h.settings_after, isBlackhole, outboundsOf_withRoutes h.canonical.object, List.any_append,
    List.any_append]
  rcases htag with htag | rfl
  · rw [isBlackhole, outboundsOf_eq h.hasOutbounds] at htag
    rw [htag]
    rfl
  · have hdeny : ([denyOutbound].any fun outbound => textField "tag" outbound == grantDenyTag &&
        textField "protocol" outbound == "blackhole") = true := by decide
    rw [hdeny, Bool.or_true]

/-- A tag that rejects is not the outbound of a grant. -/
theorem ClientPrepared.ne_fixedOutbound {tag id : String} (htag : Denied config tag) :
    tag ≠ fixedOutbound sha256 id := by
  have hown : hasPrefix (fixedOutbound sha256 id) combinationPrefix = true := by
    rw [fixedOutbound, hasPrefix, String.toList_append, List.isPrefixOf_iff_prefix]
    exact List.prefix_append _ _
  rintro rfl
  rcases htag with htag | htag
  · rw [isBlackhole, outboundsOf_eq h.hasOutbounds, List.any_eq_true] at htag
    obtain ⟨outbound, houtbound, htag⟩ := htag
    rw [Bool.and_eq_true, beq_iff_eq] at htag
    have hfree := h.ownTags outbound houtbound
    rw [htag.1, grantReserved, hown, Bool.or_true] at hfree
    cases hfree
  · rw [htag] at hown
    exact absurd hown (by decide)

/-- After the composition: the new rules first, then the routing of the base. -/
theorem ClientPrepared.routeOf_after {γ : Type} (x : Xray γ) (c : γ) :
    routeOf x change.after.settings c = select (ruleMatches x · c) (textField "outboundTag")
      (grantRules sha256 (orderedGrants grants) (isBlackhole config) rules)
      (routeOf x config c) := by
  have hdefault : defaultOutbound change.after.settings = defaultOutbound config := by
    rw [defaultOutbound, defaultOutbound, h.settings_after, outboundsOf_withRoutes h.canonical.object,
      outboundsOf_eq h.hasOutbounds]
    cases houtbounds : outbounds with
    | nil => exact absurd houtbounds h.nonempty
    | cons outbound outbounds => rfl
  rw [routeOf, hdefault, h.settings_after, rulesOf_withRoutes h.canonical.object h.routing_object,
    select_append, routeOf, rulesOf_eq h.hasRouting h.hasRules]

/-- The composition starts from the settings of the base. -/
theorem ClientPrepared.config_eq :
    config = canonicalConfig base.settings := by
  obtain ⟨-, -, value, hvalue, -, hconfig, -⟩ := decodeRouteSettings_eq_ok_iff.1 h.baseDecoded
  rw [hconfig, Document.settings, hvalue]
  rfl

theorem ClientPrepared.routeOf_base
    {γ : Type} (x : Xray γ) (c : γ) : routeOf x config c = routeOf x base.settings c := by
  rw [h.config_eq]
  have hcomposed := h.composed
  cases forced with
  | none =>
      obtain ⟨original, hdecoded⟩ := h.decoded
      obtain ⟨hcanonical, hbefore⟩ := decodeRouteSettings_canonical hdecoded
      obtain rfl := Except.ok.inj hcomposed
      rw [hbefore, settings_marshal hcanonical.sorted, hcanonical.fixed]
  | some plan =>
      obtain ⟨forcedChange, hforced, hbase⟩ := bind_eq_ok_iff.1 hcomposed
      obtain rfl := pure_eq_ok_iff.1 hbase
      obtain ⟨_, _, _, _, _, hprepared⟩ := prepareRouteChange_cases hforced
      exact hprepared.routeOf_canonicalConfig x c

/-- The rules of the base that reject a connection. -/
theorem ClientPrepared.rejects_base {rule : Json} (hrule : rule ∈ rulesOf base.settings)
    (hblocked : isBlackhole base.settings (textField "outboundTag" rule)) :
    rule ∈ rules ∧ isBlackhole config (textField "outboundTag" rule) := by
  rw [← rulesOf_eq h.hasRouting h.hasRules, h.config_eq, rulesOf_canonicalConfig, isBlackhole,
    outboundsOf_canonicalConfig]
  refine ⟨?_, hblocked⟩
  unfold canonicalRules
  split
  · exact hrule
  · exact mem_moveToFront.2 hrule

end Change

end Composition

/-! ## Where connections go -/

section Confined

variable {γ : Type} {x : Xray γ} {c : γ} {sha256 : String → List UInt8} {raw base : Document}
  {revision : Nat} {forced : Option ProxyPlan} {grants : List ClientGrant} {config routing : Json}
  {outbounds rules : List Json} {change : RouteChange}

section Reached

variable (h : ClientPrepared sha256 raw revision forced grants base config routing outbounds rules change)

include h

theorem ClientPrepared.rule_object {rule : Json} (hrule : rule ∈ rules) :
    rule.members?.isSome ∧ (∃ u, checkScope rule "inboundTag" = .ok u) ∧
      ∃ u, checkScope rule "user" = .ok u := by
  obtain ⟨known, hcheck⟩ := h.checkedRules
  have hrule := hcheck rule hrule
  simp only [checkRule, bind_eq_ok_iff, require_eq_ok_iff, exists_const] at hrule
  obtain ⟨hobject, -, u, hinbound, u', huser, -⟩ := hrule
  exact ⟨hobject, ⟨u, hinbound⟩, u', huser⟩

/-- A new rule applies to a user of a grant; it denies, or it is the way out of an enabled grant. -/
theorem ClientPrepared.of_hit
    {r : Json} (hr : r ∈ grantRules sha256 (orderedGrants grants) (isBlackhole config) rules)
    (hhit : ruleMatches x r c) :
    (∃ g ∈ grants, g.HasUser (x.user c)) ∧ (Denied config (textField "outboundTag" r) ∨
      ∃ g ∈ grants, g.fixedUser ≠ "" ∧ x.user c = g.fixedUser ∧ g.enabled ∧
        x.inbound c = g.inboundTag ∧ x.network c = .tcp ∧
        textField "outboundTag" r = fixedOutbound sha256 g.id) := by
  rcases mem_grantRules h.checked.valid hr with
    ⟨g, hg, rfl⟩ | ⟨rule, hrule, hblocked, g, hg, user, huser, rfl⟩ | ⟨g, hg, hr⟩
  · have hvalid := h.checked.valid g hg
    rw [ruleMatches_peerDenyRule hvalid.peer] at hhit
    simp only [Bool.and_eq_true, beq_iff_eq] at hhit
    exact ⟨⟨g, mem_orderedGrants.1 hg, hhit.1.2 ▸ hvalid.baseUser.1, Or.inl hhit.1.2⟩,
      Or.inl (Or.inr rfl)⟩
  · rw [ruleMatches_rejectClone (h.rule_object hrule).1] at hhit
    simp only [Bool.and_eq_true, beq_iff_eq] at hhit
    refine ⟨⟨g, mem_orderedGrants.1 hg, hhit.1.2 ▸ huser⟩, Or.inl (Or.inl ?_)⟩
    rwa [rejectClone, textField_setField_of_ne (by decide), textField_setField_of_ne (by decide)]
  · have hg' := mem_orderedGrants.1 hg
    obtain ⟨hne, hr⟩ := mem_fixedRules hr
    rcases hr with rfl | ⟨hrouted, rfl | rfl⟩
    · rw [ruleMatches_denyUserRule, beq_iff_eq] at hhit
      exact ⟨⟨g, hg', hhit ▸ hne, Or.inr hhit⟩, Or.inl (Or.inr rfl)⟩
    · rw [ruleMatches_fixedScope (show ("udp", [Network.udp]) ∈ networkTexts by simp [networkTexts])]
        at hhit
      simp only [Bool.and_eq_true, beq_iff_eq] at hhit
      exact ⟨⟨g, hg', hhit.1.2 ▸ hne, Or.inr hhit.1.2⟩, Or.inl (Or.inr rfl)⟩
    · rw [ruleMatches_fixedScope (show ("tcp", [Network.tcp]) ∈ networkTexts by simp [networkTexts])]
        at hhit
      simp only [Bool.and_eq_true, beq_iff_eq] at hhit
      simp only [ClientGrant.routed, Bool.and_eq_true] at hrouted
      exact ⟨⟨g, hg', hhit.1.2 ▸ hne, Or.inr hhit.1.2⟩, Or.inr ⟨g, hg', hne, hhit.1.2, hrouted.1.2,
        hhit.1.1, by simpa using hhit.2, rfl⟩⟩

/-- Before the rules of the fixed users there are only denials. -/
theorem ClientPrepared.denied_of_hit {r : Json} (hr : r ∈ (orderedGrants grants).map peerDenyRule ++
      (rules.filter fun rule => isBlackhole config (textField "outboundTag" rule)).flatMap
        (scopedGrantRejects · (orderedGrants grants)))
    (hhit : ruleMatches x r c) : Denied config (routeOf x change.after.settings c) := by
  rw [h.routeOf_after, grantRules, select_append]
  rcases select_cases (ruleMatches x · c) (textField "outboundTag") _ _ with
    ⟨hnone, -⟩ | ⟨r', hr', -, hselect⟩
  · exact absurd hhit (by rw [hnone r hr]; decide)
  · rw [hselect]
    simp only [List.mem_append, List.mem_map, List.mem_flatMap, List.mem_filter] at hr'
    rcases hr' with ⟨g, -, rfl⟩ | ⟨rule, ⟨hrule, hblocked⟩, hr'⟩
    · exact Or.inr rfl
    · obtain ⟨g, -, user, -, rfl⟩ := (scopedGrantRejects_spec h.checked.valid).1 r' hr'
      refine Or.inl ?_
      rwa [rejectClone, textField_setField_of_ne (by decide), textField_setField_of_ne (by decide)]

/-- A connection takes a denied tag, the outbound of an enabled grant of its fixed user, or no new rule
applies to it. -/
theorem ClientPrepared.route_cases (x : Xray γ) (c : γ) :
    ((∀ r ∈ grantRules sha256 (orderedGrants grants) (isBlackhole config) rules,
        ruleMatches x r c = false) ∧
      routeOf x change.after.settings c = routeOf x base.settings c) ∨
    ((∃ g ∈ grants, g.HasUser (x.user c)) ∧
      (Denied config (routeOf x change.after.settings c) ∨
        ∃ g ∈ grants, g.fixedUser ≠ "" ∧ x.user c = g.fixedUser ∧ g.enabled ∧
          x.inbound c = g.inboundTag ∧ x.network c = .tcp ∧
          routeOf x change.after.settings c = fixedOutbound sha256 g.id)) := by
  rw [h.routeOf_after, ← h.routeOf_base]
  rcases select_cases (ruleMatches x · c) (textField "outboundTag")
      (grantRules sha256 (orderedGrants grants) (isBlackhole config) rules) (routeOf x config c) with
    hnone | ⟨r, hr, hhit, hselect⟩
  · exact Or.inl hnone
  · rw [hselect]
    exact Or.inr (h.of_hit hr hhit)

theorem ClientPrepared.other_user
    (hother : ∀ g ∈ grants, x.user c ≠ g.baseUser ∧ (g.fixedUser ≠ "" → x.user c ≠ g.fixedUser)) :
    routeOf x change.after.settings c = routeOf x base.settings c := by
  rcases h.route_cases x c with ⟨-, hroute⟩ | ⟨⟨g, hg, hne, huser⟩, -⟩
  · exact hroute
  · rcases huser with huser | huser
    · exact absurd huser (hother g hg).1
    · exact absurd huser ((hother g hg).2 (huser ▸ hne))

theorem ClientPrepared.base_user {g : ClientGrant} (hg : g ∈ grants) (huser : x.user c = g.baseUser) :
    routeOf x change.after.settings c = routeOf x base.settings c ∨
      Denied config (routeOf x change.after.settings c) := by
  rcases h.route_cases x c with ⟨-, hroute⟩ | ⟨-, hdenied | ⟨g', hg', hne, huser', -⟩⟩
  · exact Or.inl hroute
  · exact Or.inr hdenied
  · -- A base user is not a fixed one.
    exact absurd (huser ▸ huser') (h.checked.baseUsers g (mem_orderedGrants.2 hg) g'
      (mem_orderedGrants.2 hg') hne)

theorem ClientPrepared.base_user_peer {g : ClientGrant} (hg : g ∈ grants) (huser : x.user c = g.baseUser)
    (hinbound : x.inbound c = g.inboundTag) (hpeer : x.destination c = g.peer.address) :
    Denied config (routeOf x change.after.settings c) := by
  have hg' := mem_orderedGrants.2 hg
  refine @ClientPrepared.denied_of_hit _ x c _ _ _ _ _ _ _ _ _ _ _ h (peerDenyRule g)
    (List.mem_append_left _ (List.mem_map_of_mem hg')) ?_
  rw [ruleMatches_peerDenyRule (h.checked.valid g hg').peer, huser, hinbound, hpeer]
  simp

theorem ClientPrepared.fixed_user
    {g : ClientGrant} (hg : g ∈ grants) (hne : g.fixedUser ≠ "") (huser : x.user c = g.fixedUser) :
    Denied config (routeOf x change.after.settings c) ∨
      routeOf x change.after.settings c = fixedOutbound sha256 g.id ∧ g.enabled ∧
        x.inbound c = g.inboundTag ∧ x.network c = .tcp := by
  have hg' := mem_orderedGrants.2 hg
  rcases h.route_cases x c with ⟨hnone, -⟩ | ⟨-, hdenied | ⟨g₁, hg₁, hne₁, huser₁, henabled, hin, hnet,
    hroute⟩⟩
  · -- The last rule of the user applies in any case.
    have hlast : denyUserRule g.fixedUser ∈
        grantRules sha256 (orderedGrants grants) (isBlackhole config) rules := by
      refine List.mem_append_right _ (List.mem_flatMap.2 ⟨g, hg', ?_⟩)
      rw [fixedRules, if_neg hne]
      simp
    have hmiss := hnone _ hlast
    rw [ruleMatches_denyUserRule, huser, beq_self_eq_true] at hmiss
    cases hmiss
  · exact Or.inl hdenied
  · obtain rfl := h.checked.apart g hg' g₁ (mem_orderedGrants.2 hg₁) hne (huser ▸ huser₁)
    exact Or.inr ⟨hroute, henabled, hin, hnet⟩

/-- What the base rejects is rejected for a fixed user on its inbound. -/
theorem ClientPrepared.fixed_user_rejected
    {g : ClientGrant} (hg : g ∈ grants) (hne : g.fixedUser ≠ "") (huser : x.user c = g.fixedUser)
    (hinbound : x.inbound c = g.inboundTag) {rule : Json} (hrule : rule ∈ rulesOf base.settings)
    (hblocked : isBlackhole base.settings (textField "outboundTag" rule))
    (hhit : ruleMatches x rule c) : Denied config (routeOf x change.after.settings c) := by
  obtain ⟨hrule, hblocked⟩ := h.rejects_base hrule hblocked
  obtain ⟨hobject, ⟨_, hscope⟩, _, hscope'⟩ := h.rule_object hrule
  simp only [ruleMatches, scopeMatches_eq_scopeCovers hscope, scopeMatches_eq_scopeCovers hscope',
    Bool.and_eq_true] at hhit
  refine @ClientPrepared.denied_of_hit _ x c _ _ _ _ _ _ _ _ _ _ _ h
    (rejectClone rule g.inboundTag g.fixedUser) (List.mem_append_right _ (List.mem_flatMap.2
      ⟨rule, List.mem_filter.2 ⟨hrule, hblocked⟩, ?_⟩)) ?_
  · exact (scopedGrantRejects_spec h.checked.valid).2 g (mem_orderedGrants.2 hg) _ ⟨hne, Or.inr rfl⟩
      (hinbound ▸ hhit.1.1) (huser ▸ hhit.1.2)
  · rw [ruleMatches_rejectClone hobject, huser, hinbound, hhit.2]
    simp

end Reached

/-- Client grants cannot escape: a fixed user leaves through the outbound of its enabled grant, over tcp
and its own inbound, and only what the base does not reject; a base user as the base routes it, and
never to the landing peer itself; anyone else exactly as the base routes them.  An empty fixed user
stands for none. -/
theorem client_grants_confined (x : Xray γ)
    (h : prepareClientRoutes sha256 raw revision forced grants = .ok change) (c : γ) :
    ∃ base, clientBase change.before revision forced = .ok base ∧
      (∀ g ∈ grants, g.fixedUser ≠ "" → x.user c = g.fixedUser →
        (isBlackhole change.after.settings (routeOf x change.after.settings c) ∨
          routeOf x change.after.settings c = fixedOutbound sha256 g.id) ∧
        (routeOf x change.after.settings c = fixedOutbound sha256 g.id →
          g.enabled ∧ x.inbound c = g.inboundTag ∧ x.network c = .tcp ∧
          ∀ rule ∈ rulesOf base.settings,
            isBlackhole base.settings (textField "outboundTag" rule) →
            ruleMatches x rule c = false)) ∧
      ((∀ g ∈ grants, x.user c ≠ g.baseUser ∧ (g.fixedUser ≠ "" → x.user c ≠ g.fixedUser)) →
        routeOf x change.after.settings c = routeOf x base.settings c) ∧
      (∀ g ∈ grants, x.user c = g.baseUser →
        (routeOf x change.after.settings c = routeOf x base.settings c ∨
          isBlackhole change.after.settings (routeOf x change.after.settings c)) ∧
        (x.inbound c = g.inboundTag → x.destination c = g.peer.address →
          isBlackhole change.after.settings (routeOf x change.after.settings c))) := by
  obtain ⟨base, config, routing, outbounds, rules, hp⟩ := prepareClientRoutes_cases h
  refine ⟨base, hp.composed, fun g hg hne huser => ⟨?_, fun hroute => ?_⟩, hp.other_user,
    fun g hg huser => ⟨?_, fun hinbound hpeer => ?_⟩⟩
  · rcases hp.fixed_user hg hne huser with hdenied | ⟨hroute, -⟩
    · exact Or.inl (hp.isBlackhole_after hdenied)
    · exact Or.inr hroute
  · rcases hp.fixed_user hg hne huser with hdenied | ⟨-, henabled, hinbound, hnetwork⟩
    · exact absurd hroute (hp.ne_fixedOutbound hdenied)
    · refine ⟨henabled, hinbound, hnetwork, fun rule hrule hblocked => ?_⟩
      by_contra hhit
      exact hp.ne_fixedOutbound (hp.fixed_user_rejected hg hne huser hinbound hrule hblocked
        (by simpa using hhit)) hroute
  · exact (hp.base_user hg huser).imp_right hp.isBlackhole_after
  · exact hp.isBlackhole_after (hp.base_user_peer hg huser hinbound hpeer)

end Confined

namespace Sample

/-- A digest for the samples. -/
def digest (_ : String) : List UInt8 := List.replicate 32 0

def grant : ClientGrant where
  id := "grant-1"
  parentID := hexEncode (List.replicate 32 0)
  inboundTag := "in-1"
  baseUser := "base"
  baseIdentity := hexEncode (List.replicate 32 0)
  fixedUser := fixedUser digest "grant-1"
  fixedIdentity := hexEncode (List.replicate 32 0)
  peer := peer
  mode := .fixed
  enabled := true
  hideBase := false

end Sample

/-- The base user of a grant may not reach the landing peer on the inbound of the grant. -/
theorem client_grants_confined_sample :
    ∃ change, prepareClientRoutes Sample.digest (marshal Sample.settings) 1 none [Sample.grant] =
        .ok change ∧
      isBlackhole change.after.settings
        (routeOf Sample.xray change.after.settings ⟨"in-1", "base", .tcp, "100.64.0.7"⟩) := by
  have hprepared : (prepareClientRoutes Sample.digest (marshal Sample.settings) 1 none
      [Sample.grant]).toOption.any (fun _ => true) = true := by decide +kernel
  obtain ⟨change, h, -⟩ := any_toOption_iff.1 hprepared
  obtain ⟨base, -, -, -, hbase⟩ := client_grants_confined Sample.xray h ⟨"in-1", "base", .tcp, "100.64.0.7"⟩
  exact ⟨change, h, (hbase Sample.grant (by simp) rfl).2 rfl rfl⟩

end Landing
end Vastora
