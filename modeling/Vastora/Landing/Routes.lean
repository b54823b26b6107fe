import Vastora.Landing.Address
import Vastora.Landing.Settings
import Vastora.Library.Pattern

/-!
# Routes — forced landing of selected inbounds

`prepareRouteChange` rewrites the routing of the selected inbounds of a settings document: the rules
that reject traffic are copied to the front, scoped to the selection, and a last rule in front of the
original ones sends what is left to the landing peer.  A `RouteChange` keeps the document before and
after; `nextWrite` says which of them may replace the current one.
-/

namespace Vastora
namespace Landing

open Library Library.Guard Library.FirstMatch Library.Pattern

def proxyOutboundTag : String := "vastora-landing-egress"

/-- `SOCKSPort`, as it is written. -/
def socksPort : NumberLiteral := ⟨"1080", by decide⟩

structure PeerIdentity where
  id : String
  publicKey : String
  address : String
deriving DecidableEq, Repr

/-- A prepared change of the routes; `replaces` is empty unless it succeeds another change. -/
structure RouteChange where
  revision : Nat
  before : Document
  after : Document
  replaces : Document

/-! ## Outbounds -/

/-- One round of the loop over the outbounds: an outbound needs a protocol and a tag of its own that is
not `reserved`.  The tag is remembered with whether the outbound rejects traffic. -/
def readOutbound (reserved : String → Bool) (conflict : String) (seen : List (String × Bool))
    (item : Json) : Except String (List (String × Bool)) := do
  require item.members?.isSome "landing: invalid original outbound"
  let tag := textField "tag" item
  let protocol := textField "protocol" item
  require (tag != "" && !(seen.map Prod.fst).contains tag && !reserved tag && protocol != "") conflict
  return seen ++ [(tag, protocol == "blackhole")]

def readOutbounds (reserved : String → Bool) (conflict : String) (outbounds : List Json) :
    Except String (List (String × Bool)) :=
  outbounds.foldlM (readOutbound reserved conflict) []

/-- The outbound towards a landing peer. -/
def socksOutbound (tag : String) (peer : PeerIdentity) : Json :=
  .object [("protocol", .string "socks"),
    ("settings", .object [("servers", .array [.object
      [("address", .string peer.address), ("port", .number socksPort)]])]),
    ("tag", .string tag)]

/-- The domain strategies that do not resolve names before the rules are tried. -/
def resolvesLate (routing : Json) : Bool :=
  ["", "AsIs", "IPIfNonMatch"].contains (textField "domainStrategy" routing)

/-! ## Rules -/

def invalidScope : String := "landing: invalid original inbound scope"

/-- The selected inbounds that a rule covers.  Xray's empty list is unscoped. -/
def inboundScope (tags : List String) (rule : Json) : Except String (List String) :=
  match rule.field? "inboundTag" with
  | none => .ok tags
  | some value => do
      let values ← fetch value.items? invalidScope
      if values.isEmpty then
        return tags
      let names ← values.mapM fun value => fetch value.text? invalidScope
      return (names.filter tags.contains).eraseDups

/-- The copy of a rejecting rule, scoped to the selection; other rules are not copied. -/
def scopeRule (tags known : List String) (owners : List (String × Bool)) (rule : Json) :
    Except String (Option Json) := do
  require rule.members?.isSome "landing: invalid original routing rule"
  require ((rule.field? "balancerTag").all (· == .string "")) "landing: original routing uses a balancer"
  let outbound := textField "outboundTag" rule
  require (known.contains outbound) "landing: original routing references an unknown outbound"
  if owners.contains (outbound, true) then
    let intersection ← inboundScope tags rule
    return if intersection.isEmpty then none
      else some (rule.setField "inboundTag" (strings intersection))
  else return none

/-- The rule that sends what is left of the selected inbounds to the peer. -/
def landingRule (tags : List String) : Json :=
  .object [("inboundTag", strings tags), ("network", .string "tcp,udp"),
    ("outboundTag", .string proxyOutboundTag), ("type", .string "field")]

/-- The selection names each inbound once. -/
def validSelection (tags : List String) : Bool :=
  tags.all (fun tag => trimSpace tag == tag && tag != "" && tag.utf8ByteSize ≤ 128) && tags.Nodup

/-- The settings with other rules and outbounds. -/
def withRoutes (config routing : Json) (rules outbounds : List Json) : Json :=
  (config.setField "routing" (routing.setField "rules" (.array rules))).setField "outbounds"
    (.array outbounds)

def prepareRouteChange (raw : Document) (revision : Nat) (tags : List String) (peer : PeerIdentity) :
    Except String RouteChange := do
  require (revision != 0 && tailnetIPv4 peer.address && peer.id != "" && peer.publicKey != "" &&
    !tags.isEmpty) "landing: invalid route plan"
  require (validSelection tags) "landing: invalid business inbound selection"
  let (config, before) ← decodeRouteSettings raw
  let outbounds ← fetch (itemsField "outbounds" config) "landing: missing original outbounds"
  require (!outbounds.isEmpty) "landing: missing original outbounds"
  let owners ← readOutbounds (· == proxyOutboundTag) "landing: ambiguous original outbound ownership"
    outbounds
  let seen := owners.map Prod.fst
  let api := apiTag config
  require (api == "" || !(seen.contains api || api == proxyOutboundTag || tags.contains api))
    "landing: ambiguous API route ownership"
  let known := if api == "" then seen else seen ++ [api]
  let routing ← fetch (config.field? "routing") "landing: missing original routing settings"
  require routing.members?.isSome "landing: missing original routing settings"
  require (resolvesLate routing) "landing: original routing requires local DNS resolution"
  let rules ← fetch (itemsField "rules" routing) "landing: missing original routing rules"
  let copies ← rules.mapM (scopeRule tags known owners)
  return { revision, before
           after := marshal (withRoutes config routing
             (copies.reduceOption ++ landingRule tags :: rules)
             (outbounds ++ [socksOutbound proxyOutboundTag peer]))
           replaces := .empty }

/-! ## What a preparation reads and builds -/

section Outbounds

variable {reserved : String → Bool} {conflict : String} {outbounds : List Json}
  {owners : List (String × Bool)}

/-- The entry of an outbound. -/
def ownerOf (outbound : Json) : String × Bool :=
  (textField "tag" outbound, textField "protocol" outbound == "blackhole")

theorem readOutbounds_foldlM {seen : List (String × Bool)}
    (h : outbounds.foldlM (readOutbound reserved conflict) seen = .ok owners) :
    owners = seen ++ outbounds.map ownerOf ∧
      ∀ outbound ∈ outbounds, reserved (textField "tag" outbound) = false := by
  induction outbounds generalizing seen with
  | nil =>
      obtain rfl := pure_eq_ok_iff.1 h
      exact ⟨by simp, by simp⟩
  | cons outbound outbounds ih =>
      rw [List.foldlM_cons] at h
      obtain ⟨seen', hstep, h⟩ := bind_eq_ok_iff.1 h
      simp only [readOutbound, require_bind_eq_ok_iff, pure_eq_ok_iff, Bool.and_eq_true,
        Bool.not_eq_true'] at hstep
      obtain ⟨-, ⟨⟨-, hfree⟩, -⟩, rfl⟩ := hstep
      obtain ⟨howners, hrest⟩ := ih h
      exact ⟨by rw [howners]; simp [ownerOf], List.forall_mem_cons.2 ⟨hfree, hrest⟩⟩

theorem readOutbounds_eq_ok (h : readOutbounds reserved conflict outbounds = .ok owners) :
    owners = outbounds.map ownerOf ∧
      ∀ outbound ∈ outbounds, reserved (textField "tag" outbound) = false := by
  simpa using readOutbounds_foldlM h

end Outbounds

/-- What `prepareRouteChange` has read from the settings, and what it has built. -/
structure Prepared (raw : Document) (revision : Nat) (tags : List String) (peer : PeerIdentity)
    (config routing : Json) (outbounds rules : List Json) (copies : List (Option Json))
    (change : RouteChange) : Prop where
  dated : revision ≠ 0
  selected : tags ≠ []
  decoded : decodeRouteSettings raw = .ok (config, marshal config)
  canonical : Canonical config
  hasOutbounds : config.field? "outbounds" = some (.array outbounds)
  nonempty : outbounds ≠ []
  ownTags : ∀ outbound ∈ outbounds, textField "tag" outbound ≠ proxyOutboundTag
  apiFree : apiTag config ∉ tags
  hasRouting : config.field? "routing" = some routing
  hasRules : routing.field? "rules" = some (.array rules)
  copied : ∃ known, List.Forall₂
    (fun rule copy => scopeRule tags known (outbounds.map ownerOf) rule = .ok copy) rules copies
  built : change = { revision, before := marshal config
                     after := marshal (withRoutes config routing
                       (copies.reduceOption ++ landingRule tags :: rules)
                       (outbounds ++ [socksOutbound proxyOutboundTag peer]))
                     replaces := .empty }

theorem prepareRouteChange_cases {raw : Document} {revision : Nat} {tags : List String}
    {peer : PeerIdentity} {change : RouteChange}
    (h : prepareRouteChange raw revision tags peer = .ok change) :
    ∃ config routing outbounds rules copies,
      Prepared raw revision tags peer config routing outbounds rules copies change := by
  simp only [prepareRouteChange, bind_eq_ok_iff, require_eq_ok_iff, exists_const, fetch_eq_ok_iff,
    Prod.exists, pure_eq_ok_iff] at h
  obtain ⟨hplan, hselection, config, before, hdecoded, outbounds, houtbounds, hnonempty, owners,
    howners, hapi, routing, hrouting, -, -, rules, hrules, copies, hcopies, rfl⟩ := h
  obtain ⟨hconfig, rfl⟩ := decodeRouteSettings_canonical hdecoded
  obtain ⟨rfl, htags⟩ := readOutbounds_eq_ok howners
  simp only [Bool.and_eq_true, Bool.not_eq_true', bne_iff_ne, List.isEmpty_eq_false_iff] at hplan
  -- A selected tag is not empty, so a missing API tag is not selected either.
  have hapiFree : apiTag config ∉ tags := by
    intro hmem
    simp only [validSelection, Bool.and_eq_true, List.all_eq_true] at hselection
    have hne : apiTag config ≠ "" := by simpa using (hselection.1 _ hmem).1.2
    simp [hne, hmem] at hapi
  exact ⟨config, routing, outbounds, rules, copies, hplan.1.1.1.1, hplan.2, hdecoded, hconfig,
    itemsField_eq_some_iff.1 houtbounds, by simpa using hnonempty,
    fun outbound houtbound => by simpa using htags outbound houtbound, hapiFree, hrouting,
    itemsField_eq_some_iff.1 hrules, ⟨_, mapM_eq_ok_iff.1 hcopies⟩, rfl⟩

end Landing
end Vastora
