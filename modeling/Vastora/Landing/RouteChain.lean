import Vastora.Landing.RouteState

/-!
# RouteChain — the original routes stay recoverable

Every change of a chain keeps the canonical form of the original settings as its `before`, and an
`after` with more outbounds.  From that, `routes_recoverable`: the wanted document of a change is
granted over exactly its own documents and the one it replaces.
-/

namespace Vastora
namespace Landing

open Library Library.Guard Library.FirstMatch

/-! ## Canonical forms -/

/-- The settings of a document in canonical form, if it is one. -/
def canonicalOf (d : Document) : Option Json := (decodeRouteSettings d).toOption.map Prod.fst

/-- Two documents with the same canonical form. -/
def SameSettings (d d' : Document) : Prop := ∃ config, canonicalOf d = some config ∧ canonicalOf d' = some config

section Canonical

variable {sha256 : String → List UInt8} {d d' : Document} {config : Json} {hash : String}

theorem canonicalOf_eq_some_iff :
    canonicalOf d = some config ↔ decodeRouteSettings d = .ok (config, marshal config) := by
  unfold canonicalOf
  cases h : decodeRouteSettings d with
  | error e => simp [Except.toOption]
  | ok r =>
      obtain ⟨config', canonical⟩ := r
      obtain ⟨-, rfl⟩ := decodeRouteSettings_canonical h
      simp only [Except.toOption, Option.map_some, Option.some.injEq, Except.ok.injEq, Prod.mk.injEq]
      constructor
      · rintro rfl
        exact ⟨rfl, rfl⟩
      · exact And.left

theorem hexDigit_pair_injective {a b : UInt8} (h₁ : Json.hexDigit (a.toNat / 16) = Json.hexDigit (b.toNat / 16))
    (h₂ : Json.hexDigit (a.toNat % 16) = Json.hexDigit (b.toNat % 16)) : a = b := by
  have ha := a.toNat_lt
  have hb := b.toNat_lt
  have hhigh := Json.hexDigit_injective _ (by omega) _ (by omega) h₁
  have hlow := Json.hexDigit_injective _ (by omega) _ (by omega) h₂
  exact UInt8.toNat_inj.1 (by omega)

theorem hexEncode_injective : Function.Injective hexEncode := by
  intro bytes bytes' h
  have hlist := String.ofList_injective h
  induction bytes generalizing bytes' with
  | nil =>
      cases bytes' with
      | nil => rfl
      | cons b bytes' => simp at hlist
  | cons a bytes ih =>
      cases bytes' with
      | nil => simp at hlist
      | cons b bytes' =>
          simp only [List.flatMap_cons, List.cons_append, List.nil_append, List.cons.injEq] at hlist
          obtain rfl := hexDigit_pair_injective hlist.1 hlist.2.1
          rw [ih (by rw [hexEncode, hexEncode, hlist.2.2]) hlist.2.2]

/-- The hash that stands for a canonical form. -/
def hashOf (sha256 : String → List UInt8) (config : Json) : String :=
  hexEncode (sha256 (String.ofList config.encode))

theorem hashOf_injective (hsha : Function.Injective sha256) : Function.Injective (hashOf sha256) :=
  fun _ _ h => Json.encode_injective (String.ofList_injective (hsha (hexEncode_injective h)))

theorem routeSettingsHash_eq_ok_iff : routeSettingsHash sha256 d = .ok hash ↔
    ∃ config, canonicalOf d = some config ∧ hash = hashOf sha256 config := by
  simp only [routeSettingsHash, bind_eq_ok_iff, Prod.exists, pure_eq_ok_iff, canonicalOf_eq_some_iff]
  constructor
  · rintro ⟨config, canonical, h, rfl⟩
    obtain ⟨-, rfl⟩ := decodeRouteSettings_canonical h
    exact ⟨config, h, rfl⟩
  · rintro ⟨config, h, rfl⟩
    exact ⟨config, marshal config, h, rfl⟩

theorem toOption_routeSettingsHash : (routeSettingsHash sha256 d).toOption =
    (canonicalOf d).map (hashOf sha256) := by
  unfold routeSettingsHash canonicalOf
  cases decodeRouteSettings d <;> rfl

end Canonical

/-! ## Writes -/

section Writes

variable {sha256 : String → List UInt8} {change : RouteChange} {current : Document}
  {before after config : Json} {enable : Bool}

/-- The checkpoint of a change: its documents have different canonical forms. -/
structure Checkpoint (change : RouteChange) (before after : Json) : Prop where
  dated : change.revision ≠ 0
  hasBefore : canonicalOf change.before = some before
  hasAfter : canonicalOf change.after = some after
  changed : before ≠ after

/-- The canonical form of the wanted document. -/
def wantedConfig (before after : Json) (enable : Bool) : Json := if enable then after else before

/-- What `nextWrite` decides. -/
theorem nextWrite_eq (hsha : Function.Injective sha256) (h : Checkpoint change before after)
    (hcurrent : canonicalOf current = some config) :
    change.nextWrite sha256 current enable =
      if config = wantedConfig before after enable then .ok (change.wanted enable, false)
      else if config = wantedConfig before after (!enable) then .ok (change.wanted enable, true)
      else if canonicalOf change.replaces = some config then .ok (change.wanted enable, true)
      else .error "landing: local routing changed outside the pending operation" := by
  have hinj := hashOf_injective hsha
  have hbefore : routeSettingsHash sha256 change.before = .ok (hashOf sha256 before) :=
    routeSettingsHash_eq_ok_iff.2 ⟨before, h.hasBefore, rfl⟩
  have hafter : (routeSettingsHash sha256 change.after).toOption = some (hashOf sha256 after) := by
    rw [toOption_routeSettingsHash, h.hasAfter, Option.map_some]
  have hnow : routeSettingsHash sha256 current = .ok (hashOf sha256 config) :=
    routeSettingsHash_eq_ok_iff.2 ⟨config, hcurrent, rfl⟩
  have hdated : (change.revision != 0) = true := by simpa using h.dated
  have hchanged : (hashOf sha256 before != hashOf sha256 after) = true := by
    simpa using fun heq => h.changed (hinj heq)
  -- A document that can be decoded is not empty.
  have hreplaces : (0 < change.replaces.size ∧ (routeSettingsHash sha256 change.replaces).toOption =
      some (hashOf sha256 config)) ↔ canonicalOf change.replaces = some config := by
    rw [toOption_routeSettingsHash, Option.map_eq_some_iff]
    constructor
    · rintro ⟨-, config', hconfig, heq⟩
      rw [hconfig, hinj heq]
    · intro hconfig
      have hdecoded := decodeRouteSettings_eq_ok_iff.1 (canonicalOf_eq_some_iff.1 hconfig)
      exact ⟨hdecoded.1, config, hconfig, rfl⟩
  unfold RouteChange.nextWrite
  simp only [hdated, hbefore, hafter, hchanged, hnow, require, fetch, if_true, bind, Except.bind,
    hreplaces]
  cases enable <;> simp only [wantedConfig, Bool.not_true, Bool.not_false, if_true, if_false,
    Bool.false_eq_true, hinj.eq_iff] <;> rfl

/-- The documents over which a change may be written. -/
def Accepts (change : RouteChange) (current : Document) : Prop :=
  SameSettings current change.before ∨ SameSettings current change.after ∨
    SameSettings current change.replaces

theorem accepts_iff (h : Checkpoint change before after) (enable : Bool) :
    Accepts change current ↔ ∃ config, canonicalOf current = some config ∧
      (config = wantedConfig before after enable ∨ config = wantedConfig before after (!enable) ∨
        canonicalOf change.replaces = some config) := by
  have hor : ∀ config, (config = wantedConfig before after enable ∨
      config = wantedConfig before after (!enable)) ↔ config = before ∨ config = after := by
    intro config
    cases enable
    · exact Iff.rfl
    · exact or_comm
  simp only [Accepts, SameSettings, h.hasBefore, h.hasAfter, Option.some.injEq, ← or_assoc, hor]
  constructor
  · rintro ((⟨config, hc, rfl⟩ | ⟨config, hc, rfl⟩) | ⟨config, hc, hr⟩)
    · exact ⟨_, hc, Or.inl (Or.inl rfl)⟩
    · exact ⟨_, hc, Or.inl (Or.inr rfl)⟩
    · exact ⟨config, hc, Or.inr hr⟩
  · rintro ⟨config, hc, (rfl | rfl) | hr⟩
    · exact Or.inl (Or.inl ⟨_, hc, rfl⟩)
    · exact Or.inl (Or.inr ⟨_, hc, rfl⟩)
    · exact Or.inr ⟨config, hc, hr⟩

theorem Checkpoint.canonicalOf_wanted (h : Checkpoint change before after) (enable : Bool) :
    canonicalOf (change.wanted enable) = some (wantedConfig before after enable) := by
  cases enable
  · exact h.hasBefore
  · exact h.hasAfter

/-- A document that cannot be decoded is not accepted. -/
theorem nextWrite_undecodable (hcurrent : canonicalOf current = none) :
    ∃ e, change.nextWrite sha256 current enable = .error e := by
  cases hnext : change.nextWrite sha256 current enable with
  | error e => exact ⟨e, rfl⟩
  | ok r =>
      simp only [RouteChange.nextWrite, bind_eq_ok_iff, require_eq_ok_iff, exists_const] at hnext
      obtain ⟨-, _, -, _, -, -, hash, hhash, -⟩ := hnext
      obtain ⟨config, hconfig, -⟩ := routeSettingsHash_eq_ok_iff.1 hhash
      rw [hcurrent] at hconfig
      cases hconfig

/-- The wanted document is granted over the accepted documents, and has to be written unless it is
there. -/
theorem nextWrite_of_accepts (hsha : Function.Injective sha256) (h : Checkpoint change before after)
    (haccepts : Accepts change current) (enable : Bool) :
    ∃ write, change.nextWrite sha256 current enable = .ok (change.wanted enable, write) ∧
      (write = false ↔ SameSettings current (change.wanted enable)) := by
  obtain ⟨config, hcurrent, hconfig⟩ := (accepts_iff h enable).1 haccepts
  have hsame : SameSettings current (change.wanted enable) ↔
      config = wantedConfig before after enable := by
    simp only [SameSettings, hcurrent, h.canonicalOf_wanted enable, Option.some.injEq]
    exact ⟨fun ⟨_, h₁, h₂⟩ => h₁.trans h₂.symm, fun heq => ⟨config, rfl, heq.symm⟩⟩
  rw [nextWrite_eq hsha h hcurrent, hsame]
  by_cases hwant : config = wantedConfig before after enable
  · exact ⟨false, by rw [if_pos hwant], by simp [hwant]⟩
  · refine ⟨true, ?_, by simp [hwant]⟩
    rw [if_neg hwant]
    rcases hconfig.resolve_left hwant with hother | hreplaced
    · rw [if_pos hother]
    · rw [if_pos hreplaced, ite_self]

theorem nextWrite_of_not_accepts (hsha : Function.Injective sha256) (h : Checkpoint change before after)
    (hnot : ¬ Accepts change current) (enable : Bool) :
    ∃ e, change.nextWrite sha256 current enable = .error e := by
  cases hcurrent : canonicalOf current with
  | none => exact nextWrite_undecodable hcurrent
  | some config =>
      rw [accepts_iff h enable] at hnot
      rw [nextWrite_eq hsha h hcurrent, if_neg fun hc => hnot ⟨config, hcurrent, Or.inl hc⟩,
        if_neg fun hc => hnot ⟨config, hcurrent, Or.inr (Or.inl hc)⟩,
        if_neg fun hc => hnot ⟨config, hcurrent, Or.inr (Or.inr hc)⟩]
      exact ⟨_, rfl⟩

end Writes

/-! ## Chains -/

section Chains

variable {sha256 : String → List UInt8} {raw base : Document} {revision : Nat} {tags : List String}
  {peer : PeerIdentity} {forced : Option ProxyPlan} {grants : List ClientGrant}
  {config routing original : Json} {outbounds rules : List Json} {copies : List (Option Json)}
  {change previous : RouteChange} {state : DesiredState}

/-- A change on top of the original settings: it keeps their canonical form, and its new settings have
more outbounds. -/
structure Composed (raw : Document) (change : RouteChange) (original after : Json) : Prop where
  dated : change.revision ≠ 0
  decoded : decodeRouteSettings raw = .ok (original, change.before)
  written : change.after = marshal after
  sorted : after.Sorted
  object : after.members?.isSome
  more : (outboundsOf original).length < (outboundsOf after).length

theorem Composed.checkpoint {after : Json} (h : Composed raw change original after)
    (hbefore : change.before.size ≤ 4 * 2 ^ 20) (hafter : change.after.size ≤ 4 * 2 ^ 20) :
    Checkpoint change original (canonicalConfig after) := by
  obtain ⟨hcanonical, hmarshal⟩ := decodeRouteSettings_canonical h.decoded
  refine ⟨h.dated, ?_, ?_, ?_⟩
  · rw [hmarshal] at hbefore ⊢
    rw [canonicalOf_eq_some_iff, decodeRouteSettings_marshal hcanonical.sorted hcanonical.object hbefore,
      hcanonical.fixed]
  · rw [h.written] at hafter ⊢
    rw [canonicalOf_eq_some_iff, decodeRouteSettings_marshal h.sorted h.object hafter]
  · intro heq
    have hmore := h.more
    rw [heq, outboundsOf_canonicalConfig] at hmore
    exact lt_irrefl _ hmore

theorem Prepared.composed
    (h : Prepared raw revision tags peer config routing outbounds rules copies change) :
    Composed raw change config change.after.settings := by
  have hafter : change.after = marshal change.after.settings := by
    rw [h.settings_after, h.built]
  have hbefore : change.before = marshal config := by rw [h.built]
  refine ⟨by rw [h.built]; exact h.dated, hbefore ▸ h.decoded, hafter, sorted_settings _, ?_, ?_⟩
  · rw [h.settings_after, withRoutes, Json.members?_setField_isSome, Json.members?_setField_isSome]
    exact h.canonical.object
  · rw [h.settings_after, outboundsOf_withRoutes h.canonical.object, outboundsOf_eq h.hasOutbounds]
    simp

/-- The settings under the grants have the original outbounds first. -/
theorem ClientPrepared.outbounds_base
    (h : ClientPrepared sha256 raw revision forced grants base config routing outbounds rules change)
    (hdecoded : decodeRouteSettings raw = .ok (original, change.before)) :
    ∃ more, outbounds = outboundsOf original ++ more := by
  have hcomposed := h.composed
  rw [← outboundsOf_eq h.hasOutbounds, h.config_eq, outboundsOf_canonicalConfig]
  cases forced with
  | none =>
      obtain ⟨hcanonical, hbefore⟩ := decodeRouteSettings_canonical hdecoded
      obtain rfl := Except.ok.inj hcomposed
      rw [hbefore, settings_marshal hcanonical.sorted]
      exact ⟨[], by simp⟩
  | some plan =>
      obtain ⟨forcedChange, hforced, hbase⟩ := bind_eq_ok_iff.1 hcomposed
      obtain rfl := pure_eq_ok_iff.1 hbase
      obtain ⟨config', _, outbounds', _, _, hprepared⟩ := prepareRouteChange_cases hforced
      obtain ⟨rfl, -⟩ := decodeRouteSettings_again hdecoded hprepared.decoded
      rw [hprepared.settings_after, outboundsOf_withRoutes hprepared.canonical.object,
        outboundsOf_eq hprepared.hasOutbounds]
      exact ⟨_, rfl⟩

theorem ClientPrepared.outbounds_after
    (h : ClientPrepared sha256 raw revision forced grants base config routing outbounds rules change) :
    change.after.settings.field? "outbounds" = some (.array (outbounds ++
      (orderedGrants grants).flatMap (fixedOutbounds sha256) ++ [denyOutbound])) := by
  rw [h.settings_after, withRoutes, Json.field?_setField_self]
  rw [Json.members?_setField_isSome]
  exact h.canonical.object

theorem ClientPrepared.routing_after
    (h : ClientPrepared sha256 raw revision forced grants base config routing outbounds rules change) :
    ∃ routing', change.after.settings.field? "routing" = some routing' ∧
      routing'.field? "rules" = some (.array
        (grantRules sha256 (orderedGrants grants) (isBlackhole config) rules ++ rules)) := by
  refine ⟨_, ?_, Json.field?_setField_self h.routing_object⟩
  rw [h.settings_after, withRoutes, Json.field?_setField_of_ne (by decide),
    Json.field?_setField_self h.canonical.object]

/-- The routes of a state are composed on top of the original settings. -/
theorem prepareRoutes_composed (h : state.prepareRoutes sha256 raw = .ok change) :
    change.replaces = .empty ∧ ∃ original after, Composed raw change original after := by
  unfold DesiredState.prepareRoutes at h
  cases hclients : state.clients with
  | some clients =>
      simp only [hclients, bind_eq_ok_iff, fetch_eq_ok_iff, pure_eq_ok_iff] at h
      obtain ⟨client, hclient, config, hconfig, rfl⟩ := h
      obtain ⟨base, config', routing, outbounds, rules, hp⟩ := prepareClientRoutes_cases hclient
      obtain ⟨original, hdecoded⟩ := hp.decoded
      obtain ⟨more, hmore⟩ := hp.outbounds_base hdecoded
      have hmap := unmarshal_eq_some hconfig
      obtain ⟨routing', hrouting, hrules⟩ := hp.routing_after
      obtain ⟨routing'', hrouting', hmaprouting⟩ := Json.exists_field?_mapNumbers hmap hrouting
      obtain ⟨rules', hrules', -⟩ := Json.exists_items_mapNumbers hmaprouting hrules
      obtain ⟨outbounds', houtbounds, hforall⟩ := Json.exists_items_mapNumbers hmap hp.outbounds_after
      refine ⟨by rw [hp.built], original, blockUsers config clients.blockedUsers, ?_, hdecoded, rfl,
        ?_, ?_, ?_⟩
      · rw [hp.built]
        exact hp.dated
      · exact sorted_blockUsers (Json.sorted_mapNumbers hmap (sorted_settings _)) hrouting' hrules'
      · rw [members?_blockUsers, Json.members?_mapNumbers hmap, hp.settings_after, withRoutes,
          Json.members?_setField_isSome, Json.members?_setField_isSome]
        exact hp.canonical.object
      · rw [outboundsOf_blockUsers, outboundsOf_eq houtbounds, ← hforall.length_eq, hmore]
        simp
  | none =>
      cases hproxy : state.proxy with
      | none =>
          simp only [hclients, hproxy] at h
          cases h
      | some proxy =>
          simp only [hclients, hproxy] at h
          obtain ⟨config, routing, outbounds, rules, copies, hp⟩ := prepareRouteChange_cases h
          exact ⟨by rw [hp.built], config, _, hp.composed⟩

/-- Every change of a chain is one on top of the original settings. -/
theorem RouteChain.composed (h : RouteChain sha256 raw change) :
    ∃ original after, Composed raw change original after := by
  induction h with
  | start h => exact (prepareRoutes_composed h).2
  | @replace state previous change current hprevious h ih =>
      simp only [DesiredState.replaceRoutes, bind_eq_ok_iff, require_eq_ok_iff, exists_const,
        pure_eq_ok_iff] at h
      obtain ⟨-, -, next, hnext, rfl⟩ := h
      obtain ⟨original, after, hcomposed⟩ := ih
      obtain ⟨-, original', after', hnext⟩ := prepareRoutes_composed hnext
      -- The replacement starts from the canonical form again.
      obtain ⟨rfl, hbefore⟩ := decodeRouteSettings_again hcomposed.decoded hnext.decoded
      exact ⟨original', after', hnext.dated, hbefore ▸ hcomposed.decoded, hnext.written, hnext.sorted,
        hnext.object, hnext.more⟩

/-- The original routes are recoverable and foreign edits are never overwritten: along a chain of
changes every `before` is the canonical form of the original settings, and the wanted document of a
change is granted over exactly its own documents and the one it replaces; once it is there, nothing is
left to write. -/
theorem routes_recoverable (hsha : Function.Injective sha256) (h : RouteChain sha256 raw change)
    (hbefore : change.before.size ≤ 4 * 2 ^ 20) (hafter : change.after.size ≤ 4 * 2 ^ 20) :
    (∃ config, decodeRouteSettings raw = .ok (config, change.before)) ∧
    ∀ enable,
      (∀ current, (∃ write, change.nextWrite sha256 current enable =
          .ok (if enable then change.after else change.before, write)) ↔
        SameSettings current change.before ∨ SameSettings current change.after ∨
          SameSettings current change.replaces) ∧
      (∀ current document write, change.nextWrite sha256 current enable = .ok (document, write) →
        document = (if enable then change.after else change.before) ∧
          (write = false ↔ SameSettings current document) ∧
          change.nextWrite sha256 document enable = .ok (document, false)) ∧
      (∀ current, ¬ (SameSettings current change.before ∨ SameSettings current change.after ∨
          SameSettings current change.replaces) →
        ∃ e, change.nextWrite sha256 current enable = .error e) := by
  obtain ⟨original, after, hcomposed⟩ := h.composed
  have hcheckpoint := hcomposed.checkpoint hbefore hafter
  refine ⟨⟨original, hcomposed.decoded⟩, fun enable => ⟨fun current => ⟨?_, fun haccepts => ?_⟩, ?_,
    fun current hnot => nextWrite_of_not_accepts hsha hcheckpoint hnot enable⟩⟩
  · rintro ⟨write, hwrite⟩
    by_contra hnot
    obtain ⟨e, he⟩ := nextWrite_of_not_accepts hsha hcheckpoint hnot enable
    rw [he] at hwrite
    cases hwrite
  · obtain ⟨write, hwrite, -⟩ := nextWrite_of_accepts hsha hcheckpoint haccepts enable
    exact ⟨write, hwrite⟩
  · intro current document write hwrite
    have haccepts : Accepts change current := by
      by_contra hnot
      obtain ⟨e, he⟩ := nextWrite_of_not_accepts hsha hcheckpoint hnot enable
      rw [he] at hwrite
      cases hwrite
    obtain ⟨write', hwrite', hsame⟩ := nextWrite_of_accepts hsha hcheckpoint haccepts enable
    rw [hwrite'] at hwrite
    cases hwrite
    refine ⟨rfl, hsame, ?_⟩
    rw [nextWrite_eq hsha hcheckpoint (hcheckpoint.canonicalOf_wanted enable), if_pos rfl]

end Chains

namespace Sample

/-- A text as its own digest, which has no collisions. -/
def bytes (s : String) : List UInt8 := s.toByteArray.data.toList

theorem bytes_injective : Function.Injective bytes := by
  intro s s' h
  exact String.toByteArray_inj.1 (ByteArray.ext (Array.toList_inj.1 h))

/-- The inbound lands at a peer. -/
def forcedState (revision : Nat) (peer : PeerIdentity) : DesiredState where
  revision := revision
  proxy := some ⟨"app", ["in-1"], peer⟩
  clients := none

def otherPeer : PeerIdentity := ⟨"peer-2", "key-2", "100.64.0.8"⟩

end Sample

/-- An inbound that lands at a peer is moved to another: the new settings are granted over those of the first change,
and the original ones over the new. -/
theorem routes_recoverable_sample :
    ∃ first second, RouteChain Sample.bytes (marshal Sample.settings) first ∧
      (Sample.forcedState 2 Sample.otherPeer).replaceRoutes Sample.bytes first first.after = .ok second ∧
      (∃ write, second.nextWrite Sample.bytes first.after true = .ok (second.after, write)) ∧
      ∃ write, second.nextWrite Sample.bytes second.after false = .ok (first.before, write) := by
  let small (d : Document) : Bool := decide (d.size ≤ 4 * 2 ^ 20) && (canonicalOf d).isSome
  have hrun : ((Sample.forcedState 1 Sample.peer).prepareRoutes Sample.bytes (marshal Sample.settings)).toOption.any
      (fun first => small first.before && small first.after && first.revision == 1 &&
        ((Sample.forcedState 2 Sample.otherPeer).prepareRoutes Sample.bytes first.before).toOption.any
          fun second => small second.before && small second.after) = true := by
    decide +kernel
  obtain ⟨first, hfirst, hrun⟩ := Guard.any_toOption_iff.1 hrun
  simp only [small, Bool.and_eq_true, decide_eq_true_eq, beq_iff_eq] at hrun
  obtain ⟨⟨⟨⟨hbefore, -⟩, hafter, hread⟩, hrevision⟩, hrun⟩ := hrun
  obtain ⟨next, hnext, hrun⟩ := Guard.any_toOption_iff.1 hrun
  simp only [Bool.and_eq_true, decide_eq_true_eq] at hrun
  obtain ⟨⟨hbefore', -⟩, hafter', hread'⟩ := hrun
  obtain ⟨config, hconfig⟩ := Option.isSome_iff_exists.1 hread
  obtain ⟨config', hconfig'⟩ := Option.isSome_iff_exists.1 hread'
  have hchain : RouteChain Sample.bytes (marshal Sample.settings) first := .start hfirst
  obtain ⟨⟨_, horiginal⟩, hwrites⟩ := routes_recoverable Sample.bytes_injective hchain hbefore hafter
  have hwritten : first.nextWrite Sample.bytes first.after true = .ok (first.after, false) := by
    obtain ⟨write, hwrite⟩ := ((hwrites true).1 first.after).2 (Or.inr (Or.inl ⟨config, hconfig, hconfig⟩))
    exact ((hwrites true).2.1 _ _ _ hwrite).2.2
  have hreplaced : (Sample.forcedState 2 Sample.otherPeer).replaceRoutes Sample.bytes first first.after =
      .ok { next with replaces := first.after } := by
    have hlater : first.revision < (Sample.forcedState 2 Sample.otherPeer).revision := by
      rw [hrevision]
      decide
    rw [DesiredState.replaceRoutes, hwritten, hnext, require_bind_eq_ok_iff, decide_eq_true hlater]
    exact ⟨rfl, rfl⟩
  obtain ⟨⟨_, horiginal'⟩, hwrites'⟩ :=
    routes_recoverable Sample.bytes_injective (.replace hchain hreplaced) hbefore' hafter'
  have hsame : first.before = next.before := by
    rw [horiginal] at horiginal'
    exact congrArg Prod.snd (Except.ok.inj horiginal')
  refine ⟨first, _, hchain, hreplaced, ((hwrites' true).1 first.after).2 (Or.inr (Or.inr ⟨config, hconfig, hconfig⟩)), ?_⟩
  rw [hsame]
  exact ((hwrites' false).1 _).2 (Or.inr (Or.inl ⟨config', hconfig', hconfig'⟩))

end Landing
end Vastora
