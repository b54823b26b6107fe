import Vastora.Landing.Grants
import Vastora.Landing.Routing

/-!
# GrantRoutes — the routes of client grants

`prepareClientRoutes` composes the grants on top of the original settings, after the forced landing if
there is one.  It puts three groups of rules in front: the base users may not reach the landing peers
themselves, every rejecting rule is repeated for the users of the grants, and a fixed user leaves
through its own outbound or not at all.
-/

namespace Vastora
namespace Landing

open Library Library.Guard Library.FirstMatch Library.Pattern

def grantDenyTag : String := "vastora-client-landing-deny"

def grantPrivateTag : String := "vastora-client-landing-private-"

structure ProxyPlan where
  applicationID : String
  inboundTags : List String
  peer : PeerIdentity

/-- The tags that the original settings may not use. -/
def grantReserved (tag : String) : Bool :=
  tag == grantDenyTag || hasPrefix tag grantPrivateTag || hasPrefix tag combinationPrefix

/-! ## Original rules -/

def malformedScope : String := "landing: malformed original route scope"

/-- A scope, if there is one, is a list of names. -/
def checkScope (rule : Json) (field : String) : Except String Unit :=
  match rule.field? field with
  | none => .ok ()
  | some value => do
      let values ← fetch value.items? malformedScope
      require (values.all (·.text?.isSome)) malformedScope

def checkRule (known : List String) (rule : Json) : Except String Unit := do
  require rule.members?.isSome "landing: invalid original routing rule"
  require (known.contains (textField "outboundTag" rule)) "landing: unknown original outbound"
  checkScope rule "inboundTag"
  checkScope rule "user"
  require ((rule.field? "balancerTag").all (· == .null)) "landing: ambiguous original security policy"

/-! ## New rules -/

/-- The base user may not reach the landing peer itself. -/
def peerDenyRule (grant : ClientGrant) : Json :=
  .object [("inboundTag", strings [grant.inboundTag]), ("ip", strings [grant.peer.address ++ "/32"]),
    ("outboundTag", .string grantDenyTag), ("type", .string "field"),
    ("user", strings [grant.baseUser])]

/-- A scope that is absent, empty or lists the name. -/
def scopeCovers (field : String) (rule : Json) (name : String) : Bool :=
  (itemsField field rule).all fun values => values.isEmpty || values.contains (.string name)

def rejectClone (rule : Json) (tag user : String) : Json :=
  (rule.setField "inboundTag" (strings [tag])).setField "user" (strings [user])

/-- One round of the inner loop of `scopedGrantRejects`: the clones so far and the scopes they have. -/
def rejectUser (rule : Json) (tag : String) (st : List Json × List String) (user : String) :
    List Json × List String :=
  let key := tag ++ "\x00" ++ user
  if user == "" || st.2.contains key then st
  else if scopeCovers "user" rule user then (st.1 ++ [rejectClone rule tag user], st.2 ++ [key])
  else st

def rejectGrant (rule : Json) (st : List Json × List String) (grant : ClientGrant) :
    List Json × List String :=
  if scopeCovers "inboundTag" rule grant.inboundTag then
    [grant.baseUser, grant.fixedUser].foldl (rejectUser rule grant.inboundTag) st
  else st

/-- A rejecting rule, once for each user and inbound of the grants that it covers. -/
def scopedGrantRejects (rule : Json) (grants : List ClientGrant) : List Json :=
  (grants.foldl (rejectGrant rule) ([], [])).1

/-- A rule for the fixed user on its own inbound. -/
def fixedScope (grant : ClientGrant) (network outbound : String) : Json :=
  .object [("inboundTag", strings [grant.inboundTag]), ("network", .string network),
    ("outboundTag", .string outbound), ("type", .string "field"), ("user", strings [grant.fixedUser])]

/-- A user that may not leave at all, whatever its inbound. -/
def denyUserRule (user : String) : Json :=
  .object [("outboundTag", .string grantDenyTag), ("type", .string "field"), ("user", strings [user])]

def denyOutbound : Json :=
  .object [("protocol", .string "blackhole"), ("settings", .object []), ("tag", .string grantDenyTag)]

section Fixed

variable (sha256 : String → List UInt8)

/-- The grant's own outbound is in use. -/
def ClientGrant.routed (grant : ClientGrant) : Bool :=
  grant.fixedUser != "" && grant.enabled && grant.mode == .fixed

def fixedRules (grant : ClientGrant) : List Json :=
  if grant.fixedUser = "" then []
  else (if grant.routed then [fixedScope grant "udp" grantDenyTag,
      fixedScope grant "tcp" (fixedOutbound sha256 grant.id)] else []) ++ [denyUserRule grant.fixedUser]

def fixedOutbounds (grant : ClientGrant) : List Json :=
  if grant.routed then [socksOutbound (fixedOutbound sha256 grant.id) grant.peer] else []

/-! ## Composition -/

/-- The settings under the grants: the original ones, or those of the forced landing. -/
def clientBase (before : Document) (revision : Nat) : Option ProxyPlan → Except String Document
  | none => .ok before
  | some plan => do
      let change ← prepareRouteChange before revision plan.inboundTags plan.peer
      return change.after

/-- The rules that the grants put in front. -/
def grantRules (grants : List ClientGrant) (blocked : String → Bool) (rules : List Json) : List Json :=
  grants.map peerDenyRule ++
    (rules.filter fun rule => blocked (textField "outboundTag" rule)).flatMap
      (scopedGrantRejects · grants) ++
    grants.flatMap (fixedRules sha256)

def prepareClientRoutes (raw : Document) (revision : Nat) (forced : Option ProxyPlan)
    (grants : List ClientGrant) : Except String RouteChange := do
  require (revision != 0 && grants.length ≤ 512) "landing: invalid client route plan"
  let (_, before) ← decodeRouteSettings raw
  let base ← clientBase before revision forced
  let (config, _) ← decodeRouteSettings base
  let outbounds ← fetch (itemsField "outbounds" config) "landing: missing original outbounds"
  require (!outbounds.isEmpty) "landing: missing original outbounds"
  let routing ← fetch (config.field? "routing") "landing: missing original routing"
  require routing.members?.isSome "landing: missing original routing"
  let rules ← fetch (itemsField "rules" routing) "landing: missing original routing rules"
  require (resolvesLate routing) "landing: original routing requires local DNS resolution"
  let owners ← readOutbounds grantReserved "landing: conflicting client route ownership" outbounds
  let seen := owners.map Prod.fst
  let api := apiTag config
  require (api == "" || !(seen.contains api || api == grantDenyTag || hasPrefix api grantPrivateTag))
    "landing: ambiguous API route"
  let known := if api == "" then seen else seen ++ [api]
  let ordered := orderedGrants grants
  checkGrants sha256 ordered
  rules.forM (checkRule known)
  return { revision, before
           after := marshal (withRoutes config routing
             (grantRules sha256 ordered (fun tag => owners.contains (tag, true)) rules ++ rules)
             (outbounds ++ ordered.flatMap (fixedOutbounds sha256) ++ [denyOutbound]))
           replaces := .empty }

end Fixed

end Landing
end Vastora
