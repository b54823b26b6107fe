import Vastora.Gateway.Model
import Vastora.Library.Table

/-!
# Order — what a permutation of a desired state changes

Every comparison of `sorted` is one by a key.  On a valid state the keys of listeners, routes, upstreams
and certificates tell their elements apart, so that sorting forgets the order they came in.  The routes by
server name are sorted by their ID, but what is checked is that their hostnames differ.
-/

namespace Vastora
namespace Gateway

open Library Library.Guard Library.Pattern

/-! ## Keys -/

def Upstream.key (u : Upstream) : String ×ₗ Int := toLex (u.address, u.port)

def Route.key (r : Route) : String ×ₗ String ×ₗ Bool ×ₗ String ×ₗ String :=
  toLex (r.listenerKind, toLex (r.hostname, toLex (r.path == "", toLex (r.path, r.id))))

def Certificate.key (c : Certificate) : String ×ₗ String ×ₗ String :=
  toLex (c.hostname, toLex (c.certificatePEM, c.privateKeyPEM))

theorem Upstream.less_iff (a b : Upstream) : a.less b = true ↔ a.key < b.key := by
  unfold Upstream.less Upstream.key
  rw [Prod.Lex.toLex_lt_toLex]
  by_cases h : a.address = b.address
  · simp [h]
  · simp [h]

theorem Certificate.less_iff (a b : Certificate) : a.less b = true ↔ a.key < b.key := by
  unfold Certificate.less Certificate.key
  rw [Prod.Lex.toLex_lt_toLex, Prod.Lex.toLex_lt_toLex]
  by_cases h : a.hostname = b.hostname
  · by_cases h' : a.certificatePEM = b.certificatePEM
    · simp [h, h']
    · simp [h, h']
  · simp [h]

theorem Listener.less_iff (a b : Listener) : a.less b = true ↔ a.kind < b.kind := by
  simp [Listener.less]

theorem Layer4Route.less_iff (a b : Layer4Route) : a.less b = true ↔ a.id < b.id := by
  simp [Layer4Route.less]

/-- The path decides after the listener and the hostname, and the empty one comes last. -/
theorem Route.less_iff (a b : Route) : a.less b = true ↔ a.key < b.key := by
  unfold Route.less Route.key
  simp only [Prod.Lex.toLex_lt_toLex]
  by_cases hkind : a.listenerKind = b.listenerKind
  · by_cases hhost : a.hostname = b.hostname
    · cases ha : a.path == "" with
      | true =>
          cases hb : b.path == "" with
          | true => simp [hkind, hhost, beq_iff_eq.1 ha, beq_iff_eq.1 hb]
          | false => simp [hkind, hhost, bne, ha, hb]
      | false =>
          cases hb : b.path == "" with
          | true => simp [hkind, hhost, bne, ha, hb]
          | false =>
              by_cases hpath : a.path = b.path
              · simp [hkind, hhost, hpath]
              · simp [hkind, hhost, bne, ha, hb, hpath]
    · simp [hkind, hhost]
  · simp [hkind]

theorem Upstream.key_injective {a b : Upstream} (h : a.key = b.key) : a = b := by
  have hpair := toLex.injective h
  obtain ⟨address, port⟩ := a
  obtain ⟨address', port'⟩ := b
  obtain ⟨rfl, rfl⟩ := Prod.mk.inj hpair
  rfl

theorem Certificate.key_injective {a b : Certificate} (h : a.key = b.key) : a = b := by
  obtain ⟨hostname, certificate, key⟩ := a
  obtain ⟨hostname', certificate', key'⟩ := b
  obtain ⟨rfl, hrest⟩ := Prod.mk.inj (toLex.injective h)
  obtain ⟨rfl, rfl⟩ := Prod.mk.inj (toLex.injective hrest)
  rfl

theorem Route.id_of_key {a b : Route} (h : a.key = b.key) : a.id = b.id := by
  have hhost := (Prod.mk.inj (toLex.injective h)).2
  have hempty := (Prod.mk.inj (toLex.injective hhost)).2
  have hpath := (Prod.mk.inj (toLex.injective hempty)).2
  exact (Prod.mk.inj (toLex.injective hpath)).2

/-! ## Reordered states -/

/-- The elements of a list, each changed by `change`, in any order. -/
def Shuffled {α : Type} (change : α → α → Prop) (l l' : List α) : Prop :=
  ∃ mid, List.Forall₂ change l mid ∧ mid.Perm l'

structure Route.Reordered (r r' : Route) : Prop where
  same : r' = { r with upstreams := r'.upstreams }
  upstreams : r.upstreams.Perm r'.upstreams

structure Layer4Route.Reordered (r r' : Layer4Route) : Prop where
  same : r' = { r with upstreams := r'.upstreams }
  upstreams : r.upstreams.Perm r'.upstreams

structure SharedHTTPS.Reordered (s s' : SharedHTTPS) : Prop where
  same : s' = { s with routes := s'.routes }
  routes : Shuffled Layer4Route.Reordered s.routes s'.routes

/-- The same state with its collections in another order. -/
structure DesiredState.Reordered (state state' : DesiredState) : Prop where
  revision : state'.revision = state.revision
  listeners : state.listeners.Perm state'.listeners
  routes : Shuffled Route.Reordered state.routes state'.routes
  sharedHTTPS : Option.Rel SharedHTTPS.Reordered state.sharedHTTPS state'.sharedHTTPS

structure NodeListenerState.Reordered (state state' : NodeListenerState) : Prop where
  revision : state'.revision = state.revision
  nodeID : state'.nodeID = state.nodeID
  listener : state.listener.Reordered state'.listener

section Shuffles

variable {α β : Type} {change : α → α → Prop} {l l' : List α}

/-- A function that the changes do not affect sees a permutation. -/
theorem Shuffled.map_perm {f : α → β} (h : Shuffled change l l')
    (hf : ∀ a b, change a b → f b = f a) : (l.map f).Perm (l'.map f) := by
  obtain ⟨mid, hmid, hperm⟩ := h
  have hsame : mid.map f = l.map f := by
    clear hperm
    induction hmid with
    | nil => rfl
    | cons hab _ ih => rw [List.map_cons, List.map_cons, hf _ _ hab, ih]
  exact hsame ▸ hperm.map f

theorem Shuffled.forall_mem {p q : α → Prop} (h : Shuffled change l l')
    (hp : ∀ a b, change a b → p a → q b) (hl : ∀ a ∈ l, p a) : ∀ a ∈ l', q a := by
  obtain ⟨mid, hmid, hperm⟩ := h
  have hall : ∀ a ∈ mid, q a := by
    clear hperm
    induction hmid with
    | nil => simp
    | cons hab _ ih =>
        rw [List.forall_mem_cons] at hl ⊢
        exact ⟨hp _ _ hab hl.1, ih hl.2⟩
  exact fun a ha => hall a (hperm.mem_iff.2 ha)

theorem Shuffled.exists_mem (h : Shuffled change l l') {a : α} (ha : a ∈ l) : ∃ b ∈ l', change a b := by
  obtain ⟨mid, hmid, hperm⟩ := h
  have hexists : ∃ b ∈ mid, change a b := by
    clear hperm
    induction hmid with
    | nil => cases ha
    | cons hab _ ih =>
        rcases List.mem_cons.1 ha with rfl | ha
        · exact ⟨_, List.mem_cons_self, hab⟩
        · obtain ⟨b, hb, hchange⟩ := ih ha
          exact ⟨b, List.mem_cons_of_mem _ hb, hchange⟩
  obtain ⟨b, hb, hchange⟩ := hexists
  exact ⟨b, hperm.mem_iff.1 hb, hchange⟩

theorem shuffled_refl (hrefl : ∀ a, change a a) (l : List α) : Shuffled change l l :=
  ⟨l, List.forall₂_same.2 fun a _ => hrefl a, List.Perm.refl l⟩

end Shuffles

/-! ## What is accepted -/

/-- What is asked of a route on its own. -/
def Route.accepted (parseIP : String → Option Bool) (kinds : List String) (r : Route) : Bool :=
  trimSpace r.id != "" && hostnamePattern r.hostname && validPath r.path &&
    kinds.contains r.listenerKind && (r.protocol == "http" || r.protocol == "https") &&
    !r.upstreams.isEmpty && r.upstreams.all (Upstream.valid parseIP)

def Layer4Route.accepted (parseIP : String → Option Bool) (webHosts : List String)
    (r : Layer4Route) : Bool :=
  (trimSpace r.id != "" && hostnamePattern r.hostname && !r.upstreams.isEmpty) &&
    (r.proxyProtocol == "" || r.proxyProtocol == "v2") && !webHosts.contains r.hostname &&
    r.upstreams.all (Upstream.valid parseIP)

/-- What is asked of the shared listener apart from its routes. -/
def SharedHTTPS.accepted (parseIP : String → Option Bool) (s : SharedHTTPS) : Bool :=
  (isIPv4 parseIP s.address && validPort s.port) &&
    (s.rejectUnmatched || (validUpstreamAddress parseIP s.caddyAddress && validPort s.caddyPort)) &&
    (s.rejectUnmatched || !(s.address == s.caddyAddress && s.port == s.caddyPort))

structure SharedHTTPS.Valid (parseIP : String → Option Bool) (state : DesiredState)
    (s : SharedHTTPS) : Prop where
  accepted : s.accepted parseIP
  frontend : ∃ l ∈ state.listeners, l.kind = "public" ∧ l.address = s.address ∧ l.httpsPort = s.port
  routes : ∀ r ∈ s.routes, r.accepted parseIP state.webHosts
  hostnames : (s.routes.map Layer4Route.hostname).Nodup

/-- The states that `validate` accepts. -/
structure DesiredState.Valid (parseIP : String → Option Bool) (state : DesiredState) : Prop where
  revision : 1 ≤ state.revision
  listeners : ∀ l ∈ state.listeners, l.knownKind ∧ l.valid parseIP
  kinds : (state.listeners.map Listener.kind).Nodup
  routes : ∀ r ∈ state.routes, r.accepted parseIP (state.listeners.map Listener.kind)
  ids : (state.routes.map Route.id).Nodup
  matchKeys : (state.routes.map Route.matchKey).Nodup
  sharedHTTPS : ∀ s, state.sharedHTTPS = some s → s.Valid parseIP state

section Validity

variable {quote : String → String} {parseIP : String → Option Bool} {u : Unit}

/-- Keys that differ from one more key that was seen. -/
theorem forall_notMem_cons {α : Type} {f : α → String} {k : String} {seen : List String} {l : List α} :
    (∀ a ∈ l, f a ∉ k :: seen) ↔ k ∉ l.map f ∧ ∀ a ∈ l, f a ∉ seen := by
  simp only [List.mem_cons, not_or, List.mem_map, not_exists, not_and]
  exact forall₂_and

theorem not_contains_iff {k : String} {seen : List String} :
    (!seen.contains k) = true ↔ k ∉ seen := by simp

theorem checkListeners_eq_ok_iff {seen : List String} {listeners : List Listener} :
    checkListeners quote parseIP seen listeners = .ok u ↔
      (∀ l ∈ listeners, l.knownKind ∧ l.valid parseIP) ∧ (listeners.map Listener.kind).Nodup ∧
        ∀ l ∈ listeners, l.kind ∉ seen := by
  induction listeners generalizing seen with
  | nil => simp [checkListeners]
  | cons l rest ih =>
      simp only [checkListeners, require_bind_eq_ok_iff, ih, List.forall_mem_cons, List.map_cons,
        List.nodup_cons, forall_notMem_cons, not_contains_iff]
      tauto

theorem checkRoutes_eq_ok_iff {kinds seenIDs seenMatches : List String} {routes : List Route} :
    checkRoutes quote parseIP kinds seenIDs seenMatches routes = .ok u ↔
      (∀ r ∈ routes, r.accepted parseIP kinds) ∧ (routes.map Route.id).Nodup ∧
        (routes.map Route.matchKey).Nodup ∧ (∀ r ∈ routes, r.id ∉ seenIDs) ∧
        ∀ r ∈ routes, r.matchKey ∉ seenMatches := by
  induction routes generalizing seenIDs seenMatches with
  | nil => simp [checkRoutes]
  | cons r rest ih =>
      have hhead : r.accepted parseIP kinds ↔ (trimSpace r.id != "") ∧ hostnamePattern r.hostname ∧
          validPath r.path ∧ kinds.contains r.listenerKind ∧
          (r.protocol == "http" || r.protocol == "https") ∧ (!r.upstreams.isEmpty) ∧
          r.upstreams.all (Upstream.valid parseIP) := by
        simp only [Route.accepted, Bool.and_eq_true, and_assoc]
      simp only [checkRoutes, require_bind_eq_ok_iff, ih, List.forall_mem_cons, List.map_cons,
        List.nodup_cons, forall_notMem_cons, not_contains_iff, hhead]
      constructor
      · rintro ⟨h₁, hid, h₂, h₃, hmatch, h₄, h₅, h₆, h₇, hrest, hids, hmatches, ⟨hid', hids'⟩, hmatch',
          hmatches'⟩
        exact ⟨⟨⟨h₁, h₂, h₃, h₄, h₅, h₆, h₇⟩, hrest⟩, ⟨hid', hids⟩, ⟨hmatch', hmatches⟩, ⟨hid, hids'⟩,
          hmatch, hmatches'⟩
      · rintro ⟨⟨⟨h₁, h₂, h₃, h₄, h₅, h₆, h₇⟩, hrest⟩, ⟨hid', hids⟩, ⟨hmatch', hmatches⟩, ⟨hid, hids'⟩,
          hmatch, hmatches'⟩
        exact ⟨h₁, hid, h₂, h₃, hmatch, h₄, h₅, h₆, h₇, hrest, hids, hmatches, ⟨hid', hids'⟩, hmatch',
          hmatches'⟩

theorem checkLayer4_eq_ok_iff {webHosts seen : List String} {routes : List Layer4Route} :
    checkLayer4 quote parseIP webHosts seen routes = .ok u ↔
      (∀ r ∈ routes, r.accepted parseIP webHosts) ∧ (routes.map Layer4Route.hostname).Nodup ∧
        ∀ r ∈ routes, r.hostname ∉ seen := by
  induction routes generalizing seen with
  | nil => simp [checkLayer4]
  | cons r rest ih =>
      have hhead : r.accepted parseIP webHosts ↔
          (trimSpace r.id != "" && hostnamePattern r.hostname && !r.upstreams.isEmpty) ∧
          (r.proxyProtocol == "" || r.proxyProtocol == "v2") ∧ r.hostname ∉ webHosts ∧
          r.upstreams.all (Upstream.valid parseIP) := by
        rw [Layer4Route.accepted, Bool.and_eq_true, Bool.and_eq_true, Bool.and_eq_true, not_contains_iff]
        simp only [and_assoc]
      simp only [checkLayer4, require_bind_eq_ok_iff, ih, List.forall_mem_cons, List.map_cons,
        List.nodup_cons, forall_notMem_cons, hhead]
      rw [Bool.and_eq_true (!seen.contains r.hostname), not_contains_iff, not_contains_iff]
      constructor
      · rintro ⟨h₁, h₂, ⟨hseen, h₃⟩, h₄, hrest, hhosts, hhost, hseen'⟩
        exact ⟨⟨⟨h₁, h₂, h₃, h₄⟩, hrest⟩, ⟨hhost, hhosts⟩, hseen, hseen'⟩
      · rintro ⟨⟨⟨h₁, h₂, h₃, h₄⟩, hrest⟩, ⟨hhost, hhosts⟩, hseen, hseen'⟩
        exact ⟨h₁, h₂, ⟨hseen, h₃⟩, h₄, hrest, hhosts, hhost, hseen'⟩

theorem find_public_iff {listeners : List Listener} {p : Listener → Bool}
    (hkinds : (listeners.map Listener.kind).Nodup) :
    (listeners.find? (·.kind == "public")).any p = true ↔ ∃ l ∈ listeners, l.kind = "public" ∧ p l := by
  constructor
  · intro h
    obtain ⟨l, hl, hp⟩ := (Option.any_eq_true _ _).1 h
    exact ⟨l, List.mem_of_find?_eq_some hl, by simpa using List.find?_some hl, hp⟩
  · rintro ⟨l, hl, hkind, hp⟩
    rw [← hkind, Table.find?_key hkinds hl]
    exact hp

theorem SharedHTTPS.check_eq_ok_iff {s : SharedHTTPS} {state : DesiredState}
    (hkinds : (state.listeners.map Listener.kind).Nodup) :
    s.check quote parseIP state = .ok u ↔ s.Valid parseIP state := by
  have hhead : s.accepted parseIP ↔ (isIPv4 parseIP s.address && validPort s.port) ∧
      (s.rejectUnmatched || (validUpstreamAddress parseIP s.caddyAddress && validPort s.caddyPort)) ∧
      (s.rejectUnmatched || !(s.address == s.caddyAddress && s.port == s.caddyPort)) := by
    rw [SharedHTTPS.accepted, Bool.and_eq_true, Bool.and_eq_true, and_assoc]
  have hfront : (state.listeners.find? (·.kind == "public")).any (fun l =>
      l.address == s.address && l.httpsPort == s.port) = true ↔
      ∃ l ∈ state.listeners, l.kind = "public" ∧ l.address = s.address ∧ l.httpsPort = s.port := by
    rw [find_public_iff hkinds]
    simp only [Bool.and_eq_true, beq_iff_eq]
  simp only [SharedHTTPS.check, require_bind_eq_ok_iff, checkLayer4_eq_ok_iff, hfront]
  constructor
  · rintro ⟨h₁, h₂, h₃, hfrontend, hroutes, hhosts, -⟩
    exact ⟨hhead.2 ⟨h₁, h₂, h₃⟩, hfrontend, hroutes, hhosts⟩
  · rintro ⟨haccepted, hfrontend, hroutes, hhosts⟩
    obtain ⟨h₁, h₂, h₃⟩ := hhead.1 haccepted
    exact ⟨h₁, h₂, h₃, hfrontend, hroutes, hhosts, fun _ _ => List.not_mem_nil⟩

theorem DesiredState.validate_eq_ok_iff {state : DesiredState} :
    state.validate quote parseIP = .ok u ↔ state.Valid parseIP := by
  simp only [DesiredState.validate, require_bind_eq_ok_iff, decide_eq_true_eq]
  constructor
  · rintro ⟨hrevision, h⟩
    obtain ⟨_, hlisteners, h⟩ := bind_eq_ok_iff.1 h
    obtain ⟨_, hroutes, h⟩ := bind_eq_ok_iff.1 h
    obtain ⟨hvalid, hkinds, -⟩ := checkListeners_eq_ok_iff.1 hlisteners
    obtain ⟨haccepted, hids, hmatches, -⟩ := checkRoutes_eq_ok_iff.1 hroutes
    refine ⟨hrevision, hvalid, hkinds, haccepted, hids, hmatches, ?_⟩
    intro s hs
    rw [hs] at h
    exact (SharedHTTPS.check_eq_ok_iff hkinds).1 h
  · rintro ⟨hrevision, hvalid, hkinds, haccepted, hids, hmatches, hshared⟩
    refine ⟨hrevision, bind_eq_ok_iff.2 ⟨(), checkListeners_eq_ok_iff.2 ⟨hvalid, hkinds, ?_⟩,
      bind_eq_ok_iff.2 ⟨(), checkRoutes_eq_ok_iff.2 ⟨haccepted, hids, hmatches, ?_, ?_⟩, ?_⟩⟩⟩
    · exact fun _ _ => List.not_mem_nil
    · exact fun _ _ => List.not_mem_nil
    · exact fun _ _ => List.not_mem_nil
    · cases hs : state.sharedHTTPS with
      | none => rfl
      | some s => exact (SharedHTTPS.check_eq_ok_iff hkinds).2 (hshared s hs)

end Validity

/-! ## Order and validity -/

section Invariance

variable {parseIP : String → Option Bool} {state state' : DesiredState}

theorem perm_all {α : Type} {p : α → Bool} {l l' : List α} (h : l.Perm l') : l'.all p = l.all p := by
  rw [Bool.eq_iff_iff, List.all_eq_true, List.all_eq_true]
  exact forall_congr' fun a => by rw [h.mem_iff]

theorem perm_isEmpty {α : Type} {l l' : List α} (h : l.Perm l') : l'.isEmpty = l.isEmpty := by
  rw [Bool.eq_iff_iff, List.isEmpty_iff, List.isEmpty_iff]
  exact ⟨fun hl => (hl ▸ h).eq_nil, fun hl => (hl ▸ h).symm.eq_nil⟩

theorem Route.Reordered.accepted {kinds kinds' : List String} {r r' : Route} (h : r.Reordered r')
    (hkinds : kinds.Perm kinds') : r'.accepted parseIP kinds' = r.accepted parseIP kinds := by
  have hcontains : kinds'.contains r.listenerKind = kinds.contains r.listenerKind := by
    rw [Bool.eq_iff_iff, List.contains_iff_mem, List.contains_iff_mem, hkinds.mem_iff]
  rw [h.same]
  simp only [Route.accepted, perm_isEmpty h.upstreams, perm_all h.upstreams, hcontains]

theorem Layer4Route.Reordered.accepted {hosts hosts' : List String} {r r' : Layer4Route}
    (h : r.Reordered r') (hhosts : hosts.Perm hosts') :
    r'.accepted parseIP hosts' = r.accepted parseIP hosts := by
  have hcontains : hosts'.contains r.hostname = hosts.contains r.hostname := by
    rw [Bool.eq_iff_iff, List.contains_iff_mem, List.contains_iff_mem, hhosts.mem_iff]
  rw [h.same]
  simp only [Layer4Route.accepted, perm_isEmpty h.upstreams, perm_all h.upstreams, hcontains]

/-- Reordering keeps the hostnames that are served with TLS. -/
theorem DesiredState.Reordered.webHosts (h : state.Reordered state') :
    state.webHosts.Perm state'.webHosts := by
  have hpairs := h.routes.map_perm (f := fun r => (r.listenerKind == "public" && r.tlsEnabled, r.hostname))
    fun a b hab => by rw [hab.same]
  have hfilter := (hpairs.filter Prod.fst).map Prod.snd
  simpa only [DesiredState.webHosts, List.filter_map, List.map_map, Function.comp_def] using hfilter

theorem SharedHTTPS.Reordered.valid {s s' : SharedHTTPS} (h : s.Reordered s')
    (hstate : state.Reordered state') (hs : s.Valid parseIP state) : s'.Valid parseIP state' where
  accepted := by
    rw [h.same]
    exact hs.accepted
  frontend := by
    obtain ⟨l, hl, hkind, haddress, hport⟩ := hs.frontend
    rw [h.same]
    exact ⟨l, hstate.listeners.mem_iff.1 hl, hkind, haddress, hport⟩
  routes := by
    refine h.routes.forall_mem (fun a b hab ha => ?_) hs.routes
    rwa [hab.accepted hstate.webHosts]
  hostnames := by
    have hperm := h.routes.map_perm (f := Layer4Route.hostname) fun a b hab => by rw [hab.same]
    exact hperm.nodup_iff.1 hs.hostnames

/-- Validity does not depend on order. -/
theorem DesiredState.Reordered.valid (h : state.Reordered state') (hstate : state.Valid parseIP) :
    state'.Valid parseIP where
  revision := h.revision ▸ hstate.revision
  listeners := fun l hl => hstate.listeners l (h.listeners.mem_iff.2 hl)
  kinds := (h.listeners.map _).nodup_iff.1 hstate.kinds
  routes := by
    refine h.routes.forall_mem (fun a b hab ha => ?_) hstate.routes
    rwa [hab.accepted (h.listeners.map _)]
  ids := (h.routes.map_perm fun a b hab => by rw [hab.same]).nodup_iff.1 hstate.ids
  matchKeys := by
    have hperm := h.routes.map_perm (f := Route.matchKey) fun a b hab => by rw [hab.same]; rfl
    exact hperm.nodup_iff.1 hstate.matchKeys
  sharedHTTPS := by
    intro s' hs'
    have hrel := h.sharedHTTPS
    rw [hs'] at hrel
    cases hs : state.sharedHTTPS with
    | none => rw [hs] at hrel; cases hrel
    | some s =>
        rw [hs] at hrel
        cases hrel with
        | some hss => exact hss.valid h (hstate.sharedHTTPS s hs)

end Invariance

/-! ## Order and sorting -/

section Sorting

variable {parseIP : String → Option Bool} {sorter : Sorter} {state state' : DesiredState}
  {s s' : SharedHTTPS}

theorem sort_upstreams_eq {l l' : List Upstream} (h : l.Perm l') :
    sorter.sort Upstream.less l' = sorter.sort Upstream.less l :=
  (sorter.sort_eq_of_perm sorter Upstream.less_iff (fun _ _ _ _ => Upstream.key_injective) h).symm

theorem sort_certificates_eq {l l' : List Certificate} (h : l.Perm l') :
    sorter.sort Certificate.less l' = sorter.sort Certificate.less l :=
  (sorter.sort_eq_of_perm sorter Certificate.less_iff (fun _ _ _ _ => Certificate.key_injective) h).symm

theorem Route.Reordered.sortUpstreams {r r' : Route} (h : r.Reordered r') :
    r'.sortUpstreams sorter = r.sortUpstreams sorter := by
  rw [h.same]
  unfold Route.sortUpstreams
  rw [sort_upstreams_eq h.upstreams]

theorem Layer4Route.Reordered.sortUpstreams {r r' : Layer4Route} (h : r.Reordered r') :
    r'.sortUpstreams sorter = r.sortUpstreams sorter := by
  rw [h.same]
  unfold Layer4Route.sortUpstreams
  rw [sort_upstreams_eq h.upstreams]

theorem Route.reordered_sortUpstreams (r : Route) : r.Reordered (r.sortUpstreams sorter) :=
  ⟨rfl, (sorter.perm _ _).symm⟩

theorem Layer4Route.reordered_sortUpstreams (r : Layer4Route) :
    r.Reordered (r.sortUpstreams sorter) :=
  ⟨rfl, (sorter.perm _ _).symm⟩

/-- Changing every element and then sorting is a shuffle. -/
theorem shuffled_sort {α : Type} {change : α → α → Prop} {less : α → α → Bool} {f : α → α}
    (hf : ∀ a, change a (f a)) (l : List α) : Shuffled change l (sorter.sort less (l.map f)) :=
  ⟨l.map f, List.forall₂_map_right_iff.2 (List.forall₂_same.2 fun a _ => hf a),
    (sorter.perm less (l.map f)).symm⟩

theorem SharedHTTPS.reordered_sorted (s : SharedHTTPS) : s.Reordered (s.sorted sorter) :=
  ⟨rfl, shuffled_sort Layer4Route.reordered_sortUpstreams s.routes⟩

/-- A state is sorted by a reordering of it. -/
theorem DesiredState.reordered_sorted (state : DesiredState) : state.Reordered (state.sorted sorter) where
  revision := rfl
  listeners := (sorter.perm _ _).symm
  routes := shuffled_sort Route.reordered_sortUpstreams state.routes
  sharedHTTPS := by
    unfold DesiredState.sorted
    cases state.sharedHTTPS with
    | none => exact .none
    | some s => exact .some s.reordered_sorted

theorem SharedHTTPS.Reordered.sorted (h : s.Reordered s')
    (hids : (s.routes.map Layer4Route.id).Nodup) : s'.sorted sorter = s.sorted sorter := by
  have hperm := h.routes.map_perm (f := Layer4Route.sortUpstreams sorter) fun a b hab =>
    hab.sortUpstreams
  have hkeys : ((s.routes.map (Layer4Route.sortUpstreams sorter)).map Layer4Route.id).Nodup := by
    rw [List.map_map]
    exact hids
  rw [h.same]
  unfold SharedHTTPS.sorted
  rw [sorter.sort_eq_of_perm sorter Layer4Route.less_iff
    (fun a ha b hb hab => Table.eq_of_key hkeys ha hb hab) hperm]

theorem DesiredState.Reordered.sorted (h : state.Reordered state') (hvalid : state.Valid parseIP)
    (hids : ∀ s, state.sharedHTTPS = some s → (s.routes.map Layer4Route.id).Nodup) :
    state'.sorted sorter = state.sorted sorter := by
  have hlisteners : sorter.sort Listener.less state'.listeners =
      sorter.sort Listener.less state.listeners :=
    (sorter.sort_eq_of_perm sorter Listener.less_iff
      (fun a ha b hb hab => Table.eq_of_key hvalid.kinds ha hb hab) h.listeners).symm
  have hroutes : sorter.sort Route.less (state'.routes.map (Route.sortUpstreams sorter)) =
      sorter.sort Route.less (state.routes.map (Route.sortUpstreams sorter)) := by
    have hkeys : ((state.routes.map (Route.sortUpstreams sorter)).map Route.id).Nodup := by
      rw [List.map_map]
      exact hvalid.ids
    refine (sorter.sort_eq_of_perm sorter Route.less_iff (fun a ha b hb hab => ?_)
      (h.routes.map_perm fun a b hab => hab.sortUpstreams)).symm
    exact Table.eq_of_key hkeys ha hb (Route.id_of_key hab)
  have hshared : state'.sharedHTTPS.map (SharedHTTPS.sorted sorter) =
      state.sharedHTTPS.map (SharedHTTPS.sorted sorter) := by
    have hrel := h.sharedHTTPS
    generalize state'.sharedHTTPS = o' at hrel ⊢
    cases hs : state.sharedHTTPS with
    | none =>
        rw [hs] at hrel
        cases hrel
        rfl
    | some s =>
        rw [hs] at hrel
        cases hrel with
        | some hss => rw [Option.map_some, Option.map_some, hss.sorted (hids s hs)]
  unfold DesiredState.sorted
  rw [h.revision, hlisteners, hroutes, hshared]

/-- Two routes by server name that share their ID are told apart by the order they came in. -/
theorem SharedHTTPS.exists_reordered_sorted_ne (sorter : Sorter)
    (hhosts : (s.routes.map Layer4Route.hostname).Nodup)
    (hids : ¬ (s.routes.map Layer4Route.id).Nodup) :
    ∃ s', s.Reordered s' ∧ s'.sorted sorter ≠ s.sorted sorter := by
  set sortedRoutes := s.routes.map (Layer4Route.sortUpstreams sorter) with hdef
  have hnodup : sortedRoutes.Nodup := by
    refine List.Nodup.of_map Layer4Route.hostname ?_
    rw [hdef, List.map_map]
    exact hhosts
  have hids' : ¬ (sortedRoutes.map Layer4Route.id).Nodup := by
    rw [hdef, List.map_map]
    exact hids
  rw [List.nodup_map_iff_inj_on hnodup] at hids'
  push Not at hids'
  obtain ⟨a, ha, b, hb, hab, hne⟩ := hids'
  obtain ⟨routes', hperm, hsort⟩ :=
    sorter.exists_perm_sort_ne Layer4Route.less_iff hnodup ha hb hne hab
  -- The upstreams of the exchanged routes are in order already.
  have hfixed : routes'.map (Layer4Route.sortUpstreams sorter) = routes' := by
    refine (List.map_congr_left fun r hr => ?_).trans (List.map_id routes')
    obtain ⟨r₀, -, rfl⟩ := List.mem_map.1 (hperm.mem_iff.2 hr)
    exact r₀.reordered_sortUpstreams.sortUpstreams
  refine ⟨{ s with routes := routes' }, ⟨rfl, sortedRoutes, ?_, hperm⟩, ?_⟩
  · exact List.forall₂_map_right_iff.2 (List.forall₂_same.2 fun a _ => a.reordered_sortUpstreams)
  · intro hsame
    have hroutes := congrArg SharedHTTPS.routes hsame
    unfold SharedHTTPS.sorted at hroutes
    exact hsort (by rwa [hfixed] at hroutes)

end Sorting

/-! ## Order and hashes -/

section Hashes

variable (quote : String → String) (parseIP : String → Option Bool) (sha256 : String → List UInt8)
  (sorter : Sorter)

/-- Neither the sorted value nor the hash of a state depends on the order of its collections. -/
structure DesiredState.OrderFree (state : DesiredState) : Prop where
  sorted : ∀ state', state.Reordered state' → state'.sorted sorter = state.sorted sorter
  idempotent : (state.sorted sorter).sorted sorter = state.sorted sorter
  hash : ∀ state' certificates certificates', state.Reordered state' → certificates.Perm certificates' →
    configurationHash quote parseIP sha256 sorter state' certificates' =
      configurationHash quote parseIP sha256 sorter state certificates

structure NodeListenerState.OrderFree (state : NodeListenerState) : Prop where
  sorted : ∀ state', state.Reordered state' → state'.sorted sorter = state.sorted sorter
  idempotent : (state.sorted sorter).sorted sorter = state.sorted sorter
  hash : ∀ state', state.Reordered state' →
    nodeListenerConfigurationHash quote parseIP sha256 sorter state' =
      nodeListenerConfigurationHash quote parseIP sha256 sorter state

variable {quote parseIP sha256 sorter}

theorem DesiredState.orderFree {state : DesiredState} (hvalid : state.Valid parseIP)
    (hids : ∀ s, state.sharedHTTPS = some s → (s.routes.map Layer4Route.id).Nodup) :
    state.OrderFree quote parseIP sha256 sorter where
  sorted := fun _ h => h.sorted hvalid hids
  idempotent := state.reordered_sorted.sorted hvalid hids
  hash := by
    intro state' certificates certificates' h hcerts
    have hok : state.validate quote parseIP = .ok () := DesiredState.validate_eq_ok_iff.2 hvalid
    have hok' : state'.validate quote parseIP = .ok () :=
      DesiredState.validate_eq_ok_iff.2 (h.valid hvalid)
    unfold configurationHash
    rw [hok, hok', h.sorted hvalid hids, sort_certificates_eq hcerts]

theorem NodeListenerState.Reordered.probe {state state' : NodeListenerState}
    (h : state.Reordered state') : state.probe.Reordered state'.probe where
  revision := h.revision
  listeners := by
    unfold NodeListenerState.probe
    rw [h.listener.same]
  routes := shuffled_refl (fun r => ⟨rfl, .refl _⟩) []
  sharedHTTPS := .some h.listener

theorem NodeListenerState.validate_eq_ok_iff {state : NodeListenerState} :
    state.validate quote parseIP = .ok () ↔ 1 ≤ state.revision ∧ trimSpace state.nodeID ≠ "" ∧
      (∀ r ∈ state.listener.routes, r.applicationNodeID = state.nodeID) ∧ state.probe.Valid parseIP := by
  simp only [NodeListenerState.validate, require_bind_eq_ok_iff, DesiredState.validate_eq_ok_iff,
    decide_eq_true_eq, bne_iff_ne, List.all_eq_true, beq_iff_eq]

theorem NodeListenerState.Reordered.validate {state state' : NodeListenerState}
    (h : state.Reordered state') (hvalid : state.validate quote parseIP = .ok ()) :
    state'.validate quote parseIP = .ok () := by
  obtain ⟨hrevision, hnode, happs, hprobe⟩ := NodeListenerState.validate_eq_ok_iff.1 hvalid
  refine NodeListenerState.validate_eq_ok_iff.2 ⟨h.revision ▸ hrevision, h.nodeID ▸ hnode, ?_,
    h.probe.valid hprobe⟩
  rw [h.nodeID]
  refine h.listener.routes.forall_mem (fun a b hab ha => ?_) happs
  rw [hab.same]
  exact ha

theorem NodeListenerState.sorted_eq (state : NodeListenerState) :
    state.sorted sorter = { state with listener := state.listener.sorted sorter } := rfl

theorem NodeListenerState.orderFree {state : NodeListenerState}
    (hvalid : state.validate quote parseIP = .ok ())
    (hids : (state.listener.routes.map Layer4Route.id).Nodup) :
    state.OrderFree quote parseIP sha256 sorter where
  sorted := by
    intro state' h
    rw [NodeListenerState.sorted_eq, NodeListenerState.sorted_eq, h.listener.sorted hids, h.revision,
      h.nodeID]
  idempotent := by
    rw [NodeListenerState.sorted_eq, NodeListenerState.sorted_eq,
      state.listener.reordered_sorted.sorted hids]
  hash := by
    intro state' h
    unfold nodeListenerConfigurationHash
    rw [hvalid, h.validate hvalid, NodeListenerState.sorted_eq, NodeListenerState.sorted_eq,
      h.listener.sorted hids, h.revision, h.nodeID]

/-- Order is forgotten exactly where the IDs of the routes by server name differ, whichever way the
sorting treats equal keys. -/
theorem order_free_iff_layer4_ids_distinct :
    (∀ state : DesiredState, state.validate quote parseIP = .ok () →
      (state.OrderFree quote parseIP sha256 sorter ↔
        ∀ s, state.sharedHTTPS = some s → (s.routes.map Layer4Route.id).Nodup)) ∧
    (∀ state : NodeListenerState, state.validate quote parseIP = .ok () →
      (state.OrderFree quote parseIP sha256 sorter ↔
        (state.listener.routes.map Layer4Route.id).Nodup)) := by
  constructor
  · intro state hok
    have hvalid := DesiredState.validate_eq_ok_iff.1 hok
    refine ⟨fun hfree s hs => ?_, DesiredState.orderFree hvalid⟩
    by_contra hids
    obtain ⟨s', hss', hne⟩ := SharedHTTPS.exists_reordered_sorted_ne sorter
      (hvalid.sharedHTTPS s hs).hostnames hids
    have hreordered : state.Reordered { state with sharedHTTPS := some s' } :=
      ⟨rfl, .refl _, shuffled_refl (fun r => ⟨rfl, .refl _⟩) _, hs ▸ .some hss'⟩
    have hshared := congrArg DesiredState.sharedHTTPS (hfree.sorted _ hreordered)
    unfold DesiredState.sorted at hshared
    rw [hs] at hshared
    exact hne (Option.some.inj hshared)
  · intro state hok
    obtain ⟨-, -, -, hprobe⟩ := NodeListenerState.validate_eq_ok_iff.1 hok
    refine ⟨fun hfree => ?_, NodeListenerState.orderFree hok⟩
    by_contra hids
    obtain ⟨s', hss', hne⟩ := SharedHTTPS.exists_reordered_sorted_ne sorter
      (hprobe.sharedHTTPS _ rfl).hostnames hids
    have hlistener := congrArg NodeListenerState.listener
      (hfree.sorted { state with listener := s' } ⟨rfl, rfl, hss'⟩)
    exact hne hlistener

end Hashes

/-! ## Two routes with one ID -/

namespace SharedID

def parseIP (value : String) : Option Bool := if value = "10.0.0.1" then some true else none

def route (hostname : String) : Layer4Route := ⟨"site", hostname, "node", false, "", [⟨"backend", 443⟩]⟩

def listener (routes : List Layer4Route) : NodeListenerState :=
  ⟨1, "node", ⟨"10.0.0.1", 443, "", 0, true, routes⟩⟩

def one : NodeListenerState := listener [route "a.example", route "b.example"]

def other : NodeListenerState := listener [route "b.example", route "a.example"]

theorem reordered : one.Reordered other :=
  ⟨rfl, rfl, rfl, _, List.forall₂_same.2 fun _ _ => ⟨rfl, .refl _⟩, .swap _ _ _⟩

/-- Both orders are accepted; they are sorted to different values and written as different texts. -/
theorem sorted_depends_on_order :
    (one.validate id parseIP).isOk ∧ (one.probe.validate id parseIP).isOk ∧ one.Reordered other ∧
      other.sorted insertionSorter ≠ one.sorted insertionSorter ∧
      (other.sorted insertionSorter).json.encode ≠ (one.sorted insertionSorter).json.encode ∧
      (other.probe.sorted insertionSorter).json.encode ≠
        (one.probe.sorted insertionSorter).json.encode := by
  refine ⟨by decide +kernel, by decide +kernel, reordered, by decide +kernel, by decide +kernel,
    by decide +kernel⟩

end SharedID

/-! ## Routes with IDs of their own -/

namespace DistinctIDs

/-- A text as its own digest. -/
def bytes (s : String) : List UInt8 := s.toByteArray.data.toList

theorem bytes_injective : Function.Injective bytes := fun _ _ h =>
  String.toByteArray_inj.1 (ByteArray.ext (Array.toList_inj.1 h))

section Exchanged

variable (order : (α : Type) → List α → List α)

def upstreams : List Upstream := order _ [⟨"second", 443⟩, ⟨"first", 8443⟩]

def shared : SharedHTTPS :=
  ⟨"10.0.0.1", 443, "caddy", 443, false,
    order _ [⟨"two", "a.example", "node", false, "", upstreams order⟩,
      ⟨"one", "b.example", "node", true, "v2", upstreams order⟩]⟩

def gateway : DesiredState where
  revision := 1
  listeners := order _ [⟨"public", "10.0.0.1", 80, 443⟩, ⟨"lan", "10.0.0.1", 8080, 8443⟩]
  routes := order _ [⟨"late", "www.example", "", "https", upstreams order, true, "public", false⟩,
    ⟨"early", "www.example", "/a", "http", upstreams order, false, "public", false⟩]
  sharedHTTPS := some (shared order)

def node : NodeListenerState := ⟨1, "node", shared order⟩

def certificates : List Certificate := order _ [⟨"www.example", "pem", "key"⟩, ⟨"lan.example", "pem", "key"⟩]

end Exchanged

def given (α : Type) (items : List α) : List α := items

def exchanged (α : Type) (items : List α) : List α := items.reverse

theorem perm_exchanged {α : Type} (items : List α) : items.Perm (exchanged α items) :=
  (List.reverse_perm items).symm

theorem shared_reordered : (shared given).Reordered (shared exchanged) :=
  ⟨rfl, _, .cons ⟨rfl, perm_exchanged _⟩ (.cons ⟨rfl, perm_exchanged _⟩ .nil), perm_exchanged _⟩

theorem gateway_reordered : (gateway given).Reordered (gateway exchanged) :=
  ⟨rfl, perm_exchanged _, ⟨_, .cons ⟨rfl, perm_exchanged _⟩ (.cons ⟨rfl, perm_exchanged _⟩ .nil), perm_exchanged _⟩,
    .some shared_reordered⟩

/-- Listeners, routes, upstreams and certificates are all exchanged, and the hashes stay. -/
theorem exchanged_order_free :
    Function.Injective bytes ∧ (gateway given).Reordered (gateway exchanged) ∧
      (gateway exchanged).sorted insertionSorter = (gateway given).sorted insertionSorter ∧
      configurationHash id SharedID.parseIP bytes insertionSorter (gateway exchanged) (certificates exchanged) =
        configurationHash id SharedID.parseIP bytes insertionSorter (gateway given) (certificates given) ∧
      (node exchanged).sorted insertionSorter = (node given).sorted insertionSorter ∧
      nodeListenerConfigurationHash id SharedID.parseIP bytes insertionSorter (node exchanged) =
        nodeListenerConfigurationHash id SharedID.parseIP bytes insertionSorter (node given) := by
  have hgateway : (gateway given).OrderFree id SharedID.parseIP bytes insertionSorter := by
    refine (order_free_iff_layer4_ids_distinct.1 _ (by decide +kernel)).2 fun s hs => ?_
    rw [← Option.some.inj hs]
    decide
  have hnode : (node given).OrderFree id SharedID.parseIP bytes insertionSorter :=
    (order_free_iff_layer4_ids_distinct.2 _ (by decide +kernel)).2 (by decide)
  have hnodes : (node given).Reordered (node exchanged) := ⟨rfl, rfl, shared_reordered⟩
  exact ⟨bytes_injective, gateway_reordered, hgateway.sorted _ gateway_reordered,
    hgateway.hash _ _ _ gateway_reordered (perm_exchanged _), hnode.sorted _ hnodes, hnode.hash _ hnodes⟩

end DistinctIDs

end Gateway
end Vastora
