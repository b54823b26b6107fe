import Vastora.Landing.Confinement
import Vastora.Library.Float64
import Vastora.Library.JsonNumbers

/-!
# RouteState — the routes of a desired state, and what may be written

A desired state forces selected inbounds through a peer, grants clients a way out, or both.
`prepareRoutes` composes the routes on top of the original settings; `replaceRoutes` does the same for
the state that follows an applied one.  `nextWrite` decides from the hashes of the documents whether a
change may be written: never over settings that another operation has edited.
-/

namespace Vastora
namespace Landing

open Library Library.Guard Library.FirstMatch

structure ClientBlock where
  parentID : String
  inboundTag : String
  user : String
  identity : String

structure ClientPlan where
  applicationID : String
  source : PeerIdentity
  grants : List ClientGrant
  blockedUsers : List ClientBlock
  allowSessionReset : Bool

/-- `DesiredState`, as far as the routes depend on it. -/
structure DesiredState where
  revision : Nat
  proxy : Option ProxyPlan
  clients : Option ClientPlan

/-! ## Composition -/

/-- `json.Unmarshal` into a map: numbers become binary64 values, and are written back as such. -/
def unmarshal (d : Document) : Option Json :=
  (d.value.map Json.decode).bind (Json.mapNumbers Float64.rewrite)

/-- Blocked users come before every other rule. -/
def blockUsers (config : Json) (blocks : List ClientBlock) : Json :=
  let routing := (config.field? "routing").getD .null
  let rules := (itemsField "rules" routing).getD []
  config.setField "routing" (routing.setField "rules"
    (.array (blocks.map (fun block => denyUserRule block.user) ++ rules)))

section Composition

variable (sha256 : String → List UInt8)

def DesiredState.prepareRoutes (state : DesiredState) (raw : Document) : Except String RouteChange :=
  match state.clients with
  | some clients => do
      let change ← prepareClientRoutes sha256 raw state.revision state.proxy clients.grants
      let config ← fetch (unmarshal change.after) "landing: invalid client route output"
      return { change with after := marshal (blockUsers config clients.blockedUsers) }
  | none =>
      match state.proxy with
      | some proxy => prepareRouteChange raw state.revision proxy.inboundTags proxy.peer
      | none => .error "landing: disabled state has no routes"

/-! ## Writes -/

def routeSettingsHash (raw : Document) : Except String String := do
  let (config, _) ← decodeRouteSettings raw
  return hexEncode (sha256 (String.ofList config.encode))

def invalidCheckpoint : String := "landing: invalid route checkpoint"

/-- The document that is wanted. -/
def RouteChange.wanted (change : RouteChange) (enable : Bool) : Document :=
  if enable then change.after else change.before

/-- The wanted document and whether it has to be written. -/
def RouteChange.nextWrite (change : RouteChange) (current : Document) (enable : Bool) :
    Except String (Document × Bool) := do
  require (change.revision != 0) invalidCheckpoint
  let beforeHash ← routeSettingsHash sha256 change.before
  let afterHash ← fetch (routeSettingsHash sha256 change.after).toOption invalidCheckpoint
  require (beforeHash != afterHash) invalidCheckpoint
  let currentHash ← routeSettingsHash sha256 current
  let want := change.wanted enable
  let wantHash := if enable then afterHash else beforeHash
  let otherHash := if enable then beforeHash else afterHash
  if currentHash = wantHash then return (want, false)
  else if currentHash = otherHash then return (want, true)
  -- The configuration that this change replaces is the only other source.
  else if 0 < change.replaces.size ∧
      (routeSettingsHash sha256 change.replaces).toOption = some currentHash then return (want, true)
  else throw "landing: local routing changed outside the pending operation"

def DesiredState.replaceRoutes (state : DesiredState) (previous : RouteChange) (current : Document) :
    Except String RouteChange := do
  require (previous.revision < state.revision) "landing: stale replacement"
  require ((previous.nextWrite sha256 current true).toOption.any fun next => !next.2)
    "landing: original route ownership changed"
  let change ← state.prepareRoutes sha256 previous.before
  return { change with replaces := previous.after }

/-- The changes that successive states make of one settings document. -/
inductive RouteChain (raw : Document) : RouteChange → Prop where
  | start {state : DesiredState} {change : RouteChange}
      (h : state.prepareRoutes sha256 raw = .ok change) : RouteChain raw change
  | replace {state : DesiredState} {previous change : RouteChange} {current : Document}
      (hprevious : RouteChain raw previous)
      (h : state.replaceRoutes sha256 previous current = .ok change) : RouteChain raw change

end Composition

/-! ## Blocked users -/

section Blocked

variable {d : Document} {j routing : Json} {rules : List Json} {blocks : List ClientBlock} {key : String}

theorem unmarshal_eq_some (h : unmarshal d = some j) :
    d.settings.mapNumbers Float64.rewrite = some j := by
  unfold unmarshal at h
  unfold Document.settings
  cases hvalue : d.value with
  | none => simp [hvalue] at h
  | some value => simpa [hvalue] using h

theorem field?_blockUsers (h : key ≠ "routing") : (blockUsers j blocks).field? key = j.field? key :=
  Json.field?_setField_of_ne h

theorem members?_blockUsers : (blockUsers j blocks).members?.isSome = j.members?.isSome :=
  Json.members?_setField_isSome

theorem outboundsOf_blockUsers : outboundsOf (blockUsers j blocks) = outboundsOf j := by
  rw [outboundsOf, outboundsOf, itemsField, itemsField, field?_blockUsers (by decide)]

/-- The routing of the settings, with the denials in front of its rules. -/
theorem routing_blockUsers (hrouting : j.field? "routing" = some routing)
    (hrules : routing.field? "rules" = some (.array rules)) :
    (blockUsers j blocks).field? "routing" = some (routing.setField "rules"
      (.array (blocks.map (fun block => denyUserRule block.user) ++ rules))) := by
  obtain ⟨members, rfl, -⟩ := Json.eq_object_of_field? hrouting
  rw [blockUsers, Json.field?_setField_self rfl, hrouting, Option.getD_some,
    itemsField_eq_some_iff.2 hrules, Option.getD_some]

theorem sorted_blockUsers (h : j.Sorted) (hrouting : j.field? "routing" = some routing)
    (hrules : routing.field? "rules" = some (.array rules)) : (blockUsers j blocks).Sorted := by
  have hsorted := Json.sorted_of_field? h hrouting
  rw [blockUsers, hrouting, Option.getD_some, itemsField_eq_some_iff.2 hrules, Option.getD_some]
  refine Json.sorted_setField h (Json.sorted_setField hsorted (Json.sortedItems_iff.2 ?_))
  intro rule hrule
  rcases List.mem_append.1 hrule with hrule | hrule
  · obtain ⟨block, -, rfl⟩ := List.mem_map.1 hrule
    exact sorted_denyUserRule block.user
  · exact Json.sortedItems_iff.1 (Json.sorted_of_field? hsorted hrules) rule hrule

end Blocked

end Landing
end Vastora
