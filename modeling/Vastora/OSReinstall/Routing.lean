import Vastora.Landing.Settings
import Vastora.Library.JsonDecode
import Vastora.Library.JsonInt
import Vastora.Library.Table
import Vastora.OSReinstall.RenderedLines

/-!
# Routing — the review of routing rules and routes against a plan

`validatePlanRouting` reads what `ip -j rule` and `ip -j route` print and refuses a host whose routing the plan
would not restore.  `Reviewed` is what the review is for: the rules are the built-in ones, every route is one
that the plan restores, and the routes that the plan declares are there.
-/

namespace Vastora
namespace OSReinstall

open Library Library.Guard Library.Netip Library.Pattern Landing

/-! ## Observations -/

structure Address where
  pre : String
  dynamic : Bool

structure Gateway where
  family : String
  address : String
  onLink : Bool
  dynamic : Bool

structure Network where
  iface : String
  mac : String
  addresses : List Address
  gateways : List Gateway
  dns : List String
  additional : List Network

def networkNICs (n : Network) : List Network :=
  ⟨n.iface, n.mac, n.addresses, n.gateways, [], []⟩ :: n.additional

/-! ## Rules -/

abbrev Members := List (String × Json)

structure Rule where
  priority : Int
  src : String
  table : String
deriving DecidableEq

def member (members : Members) (key : String) : Option Json := members.lookup key

def decodeRule (members : Members) : Option Rule :=
  if members.length != 3 then none
  else do
    let priority ← (← member members "priority").unmarshalInt
    let src ← (← member members "src").unmarshalString
    let table ← (← member members "table").unmarshalString
    some ⟨priority, src, table⟩

/-- The rules of the kernel; there is no `default` table for IPv6. -/
def wantedRules (family : String) : List (Int × String) :=
  [(0, "local"), (32766, "main")] ++ (if family == "-6" then [] else [(32767, "default")])

/-- The rules in turn; `wanted` are those that have not come. -/
def checkRules (wanted : List (Int × String)) : List Rule → Bool
  | [] => true
  | r :: rest =>
      r.src == "all" && (wanted.lookup r.priority).getD "" == r.table &&
        checkRules (wanted.filter fun w => w.1 != r.priority) rest

def decodeRules (rules : Document) : Option (List Rule) := do
  let members ← (← rules.value).decode.unmarshalMaps
  members.mapM decodeRule

/-! ## Routes -/

structure Route where
  dst : String
  dev : String
  via : String
  table : String
  proto : String
  kind : String
  scope : String
  flags : List String
deriving DecidableEq

def routeKeys : List String :=
  ["dst", "dev", "gateway", "table", "protocol", "scope", "prefsrc", "type", "flags", "metric", "pref",
    "expires", "nhid"]

/-- A member that is not a string counts as one that nothing accepts. -/
def get (members : Members) (key : String) : String :=
  match member members key with
  | some value => value.unmarshalString.getD "!invalid"
  | none => ""

/-- The metric of a route that is not the kernel's is the default one. -/
def validMetric (members : Members) (family proto : String) : Bool :=
  match member members "metric" with
  | some value =>
      !(proto == "static" || proto == "boot" || proto == "") ||
        value.unmarshalInt.any fun metric =>
          !(family == "-4" && metric != 0) && !(family == "-6" && metric != 1024)
  | none => true

/-- The members of a route that are checked on their own. -/
def decodeRoute (family : String) (members : Members) : Option Route := do
  let flags ← ((member members "flags").map Json.unmarshalStrings).getD (some [])
  let r : Route := ⟨get members "dst", get members "dev", get members "gateway", get members "table",
    get members "protocol", get members "type", get members "scope", flags⟩
  if members.all (fun m => routeKeys.contains m.1) &&
      (r.table == "" || r.table == "main" || r.table == "local") &&
      validMetric members family r.proto && r.flags.all (· == "onlink")
  then some r else none

def decodeRoutes (family : String) (routes : Document) : Option (List Route) := do
  let members ← (← routes.value).decode.unmarshalMaps
  if 256 < members.length then none else members.mapM (decodeRoute family)

/-- The destination, where a single address has all its bits. -/
def destination (dst : String) : Option IPPrefix :=
  match parseIPPrefix dst with
  | some ip => some ip
  | none => (parseZonedAddr dst).map fun a => ⟨a.withoutZone, a.bitLen⟩

/-- The plan of a device that has none. -/
def noPlan : StaticNetworkPlan :=
  ⟨"", "", "", "", [], [], "", "", "", [], "", false, false, false, false, false, [], 0, []⟩

section Review

variable (family : String) (plan : StaticNetworkPlan) (observed : Network)

/-- The last plan of a device. -/
def planOf (dev : String) : Option StaticNetworkPlan :=
  (planNICs plan).reverse.find? fun n => n.iface == dev

def observedOn (dev : String) : Option Network :=
  (networkNICs observed).reverse.find? fun n => n.iface == dev

def addressesOn (dev : String) : List Address := ((observedOn observed dev).map Network.addresses).getD []

def gatewaysOn (dev : String) : List Gateway := ((observedOn observed dev).map Network.gateways).getD []

def routeKey (dev dst : String) : String := dev ++ ":" ++ dst

def ofFamily (dst : String) : Bool := ((parseIPPrefix dst).any (·.addr.is4)) == (family == "-4")

/-- The direct routes of the family, by device and destination. -/
def declaredRoutes : List String :=
  (planNICs plan).flatMap fun n => (n.directRoutes.filter (ofFamily family)).map (routeKey n.iface)

/-- Routes of the local table are the kernel's for addresses that were observed. -/
def acceptsLocal (r : Route) : Bool :=
  (destination r.dst).any fun ip =>
    if r.dev == "lo" then ip.addr.isLoopback
    else ip.addr.isLinkLocalUnicast || ip.addr.isMulticast ||
      (addressesOn observed r.dev).any fun a =>
        (parseIPPrefix a.pre).any fun p => p.masked.contains ip.zoned

def isStatic (proto : String) : Bool := proto == "" || proto == "boot" || proto == "static"

def acceptsDefault (p : StaticNetworkPlan) (r : Route) : Bool :=
  (family == "-4" && r.via == p.gateway && (isStatic r.proto || (p.dhcp4 && r.proto == "dhcp")) &&
    r.flags.contains "onlink" == p.gatewayOnLink) ||
  (family == "-6" && r.via == p.gateway6 && isStatic r.proto &&
    r.flags.contains "onlink" == p.gateway6OnLink) ||
  (family == "-6" && r.proto == "ra" && p.ipv6AcceptRA != "0" &&
    (gatewaysOn observed r.dev).any fun g => g.dynamic && g.address == r.via)

def acceptsDeclared (r : Route) (ip : IPPrefix) : Bool :=
  (declaredRoutes family plan).contains (routeKey r.dev ip.text) && r.via == "" && isStatic r.proto &&
    r.scope == "link"

def acceptsConnected (p : StaticNetworkPlan) (r : Route) (ip : IPPrefix) : Bool :=
  (family == "-6" && ip.addr.isLoopback && r.dev == "lo" && r.proto == "kernel") ||
  (family == "-6" && (ip.addr.isLinkLocalUnicast || ip.addr.isMulticast) && r.via == "" &&
    r.proto == "kernel") ||
  (r.via == "" && (r.proto == "kernel" || (r.proto == "ra" && p.ipv6AcceptRA != "0") ||
      (r.proto == "dhcp" && p.dhcp4)) &&
    (addressesOn observed r.dev).any fun a =>
      (parseIPPrefix a.pre).any fun q => ip == q.masked || ip.addr == q.addr) ||
  (family == "-4" && p.gatewayOnLink && r.via == "" && ip.bits == 32 && formatAddr ip.addr == p.gateway &&
    r.scope == "link" && isStatic r.proto)

/-- Whether a route passes, and the declared route that it is. -/
def reviewRoute (r : Route) : Option (Option String) :=
  if (planOf plan r.dev).isNone && r.dev != "lo" then none
  else
    let p := (planOf plan r.dev).getD noPlan
    if r.table == "local" && r.proto == "kernel" &&
        (r.kind == "local" || r.kind == "broadcast" || r.kind == "multicast") then
      if acceptsLocal observed r then some none else none
    else if r.table == "local" || r.kind != "" then none
    else if r.dst == "default" then
      if acceptsDefault family observed p r then some none else none
    else
      (destination r.dst).bind fun ip =>
        if acceptsDeclared family plan r ip then some (some (routeKey r.dev ip.text))
        else if acceptsConnected family observed p r ip then some none
        else none

def validatePlanRouting (rulesJSON routesJSON : Document) : Except String Unit := do
  require (rulesJSON.size ≤ 1024 * 1024) networkError
  let rules ← fetch (decodeRules rulesJSON) networkError
  require (rules.length == (wantedRules family).length && checkRules (wantedRules family) rules) networkError
  require (routesJSON.size ≤ 2 * 1024 * 1024) networkError
  let routes ← fetch (decodeRoutes family routesJSON) networkError
  let present ← routes.mapM fun r => fetch (reviewRoute family plan observed r) networkError
  require ((declaredRoutes family plan).all (present.reduceOption.contains ·)) networkError

/-! ## What the review is for -/

/-- The rules that the kernel starts with. -/
def builtinRules : List Rule := (wantedRules family).map fun w => ⟨w.1, "all", w.2⟩

/-- The routes that the restored plan brings back. -/
inductive Restorable (r : Route) : Prop where
  /-- A default route through the declared gateway. -/
  | gateway (n : StaticNetworkPlan) (plan_nic : n ∈ planNICs plan) (device : n.iface = r.dev)
      (default : r.dst = "default") (ipv4 : family = "-4") (declared : n.gateway ≠ "")
      (via : r.via = n.gateway) (onLink : r.flags.contains "onlink" = n.gatewayOnLink)
  | gateway6 (n : StaticNetworkPlan) (plan_nic : n ∈ planNICs plan) (device : n.iface = r.dev)
      (default : r.dst = "default") (ipv6 : family = "-6") (declared : n.gateway6 ≠ "")
      (via : r.via = n.gateway6) (onLink : r.flags.contains "onlink" = n.gateway6OnLink)
  /-- A default route that was learnt from an observed router. -/
  | advertised (n : StaticNetworkPlan) (plan_nic : n ∈ planNICs plan) (device : n.iface = r.dev)
      (default : r.dst = "default") (ipv6 : family = "-6") (learnt : r.proto = "ra")
      (accepts : n.ipv6AcceptRA ≠ "0")
      (observed : ∃ o ∈ networkNICs observed, o.iface = r.dev ∧
        ∃ g ∈ o.gateways, g.dynamic = true ∧ g.address = r.via)
  /-- A connected route of an observed address. -/
  | connected (ip : IPPrefix) (dst : destination r.dst = some ip) (direct : r.via = "")
      (observed : ∃ o ∈ networkNICs observed, o.iface = r.dev ∧
        ∃ a ∈ o.addresses, ∃ q, parseIPPrefix a.pre = some q ∧ (ip = q.masked ∨ ip.addr = q.addr))
  | linkLocal (ip : IPPrefix) (dst : destination r.dst = some ip) (direct : r.via = "")
      (ipv6 : family = "-6") (kernel : r.proto = "kernel")
      (scope : ip.addr.isLinkLocalUnicast = true ∨ ip.addr.isMulticast = true)
  | declared (n : StaticNetworkPlan) (plan_nic : n ∈ planNICs plan) (device : n.iface = r.dev)
      (ip : IPPrefix) (dst : destination r.dst = some ip) (direct : r.via = "")
      (declared : ip.text ∈ n.directRoutes)
  /-- The host route of the declared gateway on the link. -/
  | onLinkGateway (n : StaticNetworkPlan) (plan_nic : n ∈ planNICs plan) (device : n.iface = r.dev)
      (ip : IPPrefix) (dst : destination r.dst = some ip) (direct : r.via = "") (ipv4 : family = "-4")
      (onLink : n.gatewayOnLink = true) (host : ip.bits = 32) (gateway : formatAddr ip.addr = n.gateway)

structure Reviewed (rules : List Rule) (routes : List Route) : Prop where
  builtin : rules.Perm (builtinRules family)
  restorable : ∀ r ∈ routes, r.table ≠ "local" → r.dev ≠ "lo" → Restorable family plan observed r
  defaults : ∀ r ∈ routes, r.dst = "default" → r.dev ≠ "lo" ∧
    (r.proto = "ra" ∨ ∃ n ∈ planNICs plan, n.iface = r.dev ∧
      ((family = "-4" ∧ n.gateway ≠ "") ∨ (family = "-6" ∧ n.gateway6 ≠ "")))
  declared : ∀ n ∈ planNICs plan, ∀ dst ∈ n.directRoutes, ofFamily family dst = true →
    ∃ r ∈ routes, r.dev = n.iface ∧ ∃ ip, destination r.dst = some ip ∧ ip.text = dst

end Review

/-! ## Rules -/

section Rules

theorem perm_cons_filter_key {wanted : List (Int × String)} {w : Int × String}
    (hnodup : (wanted.map Prod.fst).Nodup) (hw : w ∈ wanted) :
    wanted.Perm (w :: wanted.filter fun x => x.1 != w.1) := by
  have herase : wanted.erase w = wanted.filter fun x => x.1 != w.1 := by
    rw [List.Nodup.erase_eq_filter hnodup.of_map]
    refine List.filter_congr fun x hx => ?_
    rw [Bool.eq_iff_iff, bne_iff_ne, bne_iff_ne]
    exact not_congr ⟨fun h => h ▸ rfl, fun h => Table.eq_of_key hnodup hx hw h⟩
  exact herase ▸ List.perm_cons_erase hw

/-- Rules that all name a table are the wanted ones. -/
theorem perm_of_checkRules {wanted : List (Int × String)} {rules : List Rule}
    (hnodup : (wanted.map Prod.fst).Nodup) (hlength : rules.length = wanted.length)
    (hcheck : checkRules wanted rules = true) (htables : ∀ r ∈ rules, r.table ≠ "") :
    rules.Perm (wanted.map fun w => ⟨w.1, "all", w.2⟩) := by
  induction rules generalizing wanted with
  | nil =>
      obtain rfl := List.length_eq_zero_iff.1 hlength.symm
      exact .refl _
  | cons r rest ih =>
      rw [List.forall_mem_cons] at htables
      simp only [checkRules, Bool.and_eq_true, beq_iff_eq] at hcheck
      obtain ⟨⟨hsrc, htable⟩, hrest⟩ := hcheck
      have hlookup : wanted.lookup r.priority = some r.table := by
        cases hfound : wanted.lookup r.priority with
        | none =>
            rw [hfound] at htable
            exact absurd htable.symm htables.1
        | some table =>
            rw [hfound] at htable
            exact congrArg some htable
      obtain ⟨before, after, hsplit, -⟩ := List.lookup_eq_some_iff.1 hlookup
      have hmem : (r.priority, r.table) ∈ wanted := by simp [hsplit]
      have hperm := perm_cons_filter_key hnodup hmem
      have hlength' := hperm.length_eq
      have hrest' := ih (hnodup.sublist (List.filter_sublist.map _))
        (by simp only [List.length_cons] at hlength hlength'; omega) hrest htables.2
      have hhead : r = ⟨r.priority, "all", r.table⟩ := by rw [← hsrc]
      have hwanted := hperm.map fun w : Int × String => (⟨w.1, "all", w.2⟩ : Rule)
      rw [List.map_cons] at hwanted
      rw [hhead]
      exact (hrest'.cons _).trans hwanted.symm

end Rules

/-! ## Routes -/

section Routes

variable {family : String} {plan : StaticNetworkPlan} {observed : Network} {r : Route}

theorem mem_planNICs_of_planOf {dev : String} {n : StaticNetworkPlan} (h : planOf plan dev = some n) :
    n ∈ planNICs plan ∧ n.iface = dev :=
  ⟨List.mem_reverse.1 (List.mem_of_find?_eq_some h), by simpa using List.find?_some h⟩

theorem exists_of_addressesOn {dev : String} {a : Address} (h : a ∈ addressesOn observed dev) :
    ∃ o ∈ networkNICs observed, o.iface = dev ∧ a ∈ o.addresses := by
  unfold addressesOn at h
  cases ho : observedOn observed dev with
  | none => simp [ho] at h
  | some o =>
      rw [ho] at h
      exact ⟨o, List.mem_reverse.1 (List.mem_of_find?_eq_some ho), by simpa using List.find?_some ho, h⟩

theorem exists_of_gatewaysOn {dev : String} {g : Gateway} (h : g ∈ gatewaysOn observed dev) :
    ∃ o ∈ networkNICs observed, o.iface = dev ∧ g ∈ o.gateways := by
  unfold gatewaysOn at h
  cases ho : observedOn observed dev with
  | none => simp [ho] at h
  | some o =>
      rw [ho] at h
      exact ⟨o, List.mem_reverse.1 (List.mem_of_find?_eq_some ho), by simpa using List.find?_some ho, h⟩

/-- Names without a colon and destinations are read back from a key. -/
theorem routeKey_injective {dev dev' dst dst' : String} (hdev : ':' ∉ dev.toList) (hdev' : ':' ∉ dev'.toList)
    (h : routeKey dev dst = routeKey dev' dst') : dev = dev' ∧ dst = dst' := by
  have hchars : dev.toList ++ ':' :: dst.toList = dev'.toList ++ ':' :: dst'.toList := by
    simpa [routeKey, String.toList_append] using congrArg String.toList h
  have hsplit := congrArg (List.splitOn ':') hchars
  rw [List.splitOn_append_cons_self_of_not_mem hdev, List.splitOn_append_cons_self_of_not_mem hdev'] at hsplit
  have hname : dev.toList = dev'.toList := (List.cons.inj hsplit).1
  rw [hname, List.append_cancel_left_eq, List.cons.injEq] at hchars
  exact ⟨String.toList_inj.1 hname, String.toList_inj.1 hchars.2⟩

/-- No destination is called `default`. -/
theorem destination_default : destination "default" = none := by decide +kernel

/-- What a route that passes is. -/
theorem reviewRoute_cases {mark : Option String} (h : reviewRoute family plan observed r = some mark) :
    (r.dev = "lo" ∨ ∃ n ∈ planNICs plan, n.iface = r.dev ∧ planOf plan r.dev = some n) ∧
      ((r.table = "local" ∧ r.dst ≠ "default" ∧ mark = none) ∨
       (r.table ≠ "local" ∧ r.dst = "default" ∧ mark = none ∧
          acceptsDefault family observed ((planOf plan r.dev).getD noPlan) r = true) ∨
       (r.table ≠ "local" ∧ r.dst ≠ "default" ∧ ∃ ip, destination r.dst = some ip ∧
          ((acceptsDeclared family plan r ip = true ∧ mark = some (routeKey r.dev ip.text)) ∨
           (mark = none ∧
              acceptsConnected family observed ((planOf plan r.dev).getD noPlan) r ip = true)))) := by
  unfold reviewRoute at h
  split at h
  · cases h
  · next hdev =>
      constructor
      · cases hplan : planOf plan r.dev with
        | none =>
            left
            simpa [hplan] using hdev
        | some n =>
            obtain ⟨hn, hiface⟩ := mem_planNICs_of_planOf hplan
            exact .inr ⟨n, hn, hiface, rfl⟩
      · dsimp only at h
        split at h
        · next hlocal =>
            simp only [Bool.and_eq_true, beq_iff_eq] at hlocal
            split at h
            · next haccepts =>
                refine .inl ⟨hlocal.1.1, ?_, (Option.some.inj h).symm⟩
                intro hdefault
                simp [acceptsLocal, hdefault, destination_default] at haccepts
            · cases h
        · split at h
          · cases h
          · next hmain =>
              simp only [Bool.or_eq_true, beq_iff_eq, not_or] at hmain
              split at h
              · next hdefault =>
                  rw [beq_iff_eq] at hdefault
                  split at h
                  · next haccepts =>
                      exact .inr (.inl ⟨hmain.1, hdefault, (Option.some.inj h).symm, haccepts⟩)
                  · cases h
              · next hdefault =>
                  rw [beq_iff_eq] at hdefault
                  obtain ⟨ip, hip, h⟩ := Option.bind_eq_some_iff.1 h
                  refine .inr (.inr ⟨hmain.1, hdefault, ip, hip, ?_⟩)
                  split at h
                  · next hdeclared => exact .inl ⟨hdeclared, (Option.some.inj h).symm⟩
                  · split at h
                    · next hconnected => exact .inr ⟨(Option.some.inj h).symm, hconnected⟩
                    · cases h

/-- The local table has no default route. -/
theorem table_ne_local {mark : Option String} (h : reviewRoute family plan observed r = some mark)
    (hdst : r.dst = "default") : r.table ≠ "local" := by
  rcases (reviewRoute_cases h).2 with ⟨-, hnot, -⟩ | ⟨htable, -⟩ | ⟨htable, -⟩
  · exact absurd hdst hnot
  · exact htable
  · exact htable

/-- A default route that is restored was learnt or goes through the declared gateway. -/
theorem Restorable.default_cases (h : Restorable family plan observed r) (hdst : r.dst = "default") :
    r.proto = "ra" ∨ (r.via ≠ "" ∧ ∃ n ∈ planNICs plan, n.iface = r.dev ∧
      ((family = "-4" ∧ n.gateway ≠ "") ∨ (family = "-6" ∧ n.gateway6 ≠ ""))) := by
  have hnone : ∀ {ip}, destination r.dst ≠ some ip := by
    rw [hdst, destination_default]
    simp
  cases h with
  | gateway n hn hdev _ hfamily hdeclared hvia =>
      exact .inr ⟨hvia ▸ hdeclared, n, hn, hdev, .inl ⟨hfamily, hdeclared⟩⟩
  | gateway6 n hn hdev _ hfamily hdeclared hvia =>
      exact .inr ⟨hvia ▸ hdeclared, n, hn, hdev, .inr ⟨hfamily, hdeclared⟩⟩
  | advertised n _ _ _ _ hra => exact .inl hra
  | connected ip hip => exact absurd hip hnone
  | linkLocal ip hip => exact absurd hip hnone
  | declared n _ _ ip hip => exact absurd hip hnone
  | onLinkGateway n _ _ ip hip => exact absurd hip hnone

/-- The declared gateway, or an observed router where routes are learnt. -/
theorem restorable_default {n : StaticNetworkPlan} (hn : n ∈ planNICs plan) (hdev : n.iface = r.dev)
    (hdst : r.dst = "default") (hvia : r.via ≠ "" ∨ r.proto = "ra")
    (h : acceptsDefault family observed n r = true) : Restorable family plan observed r := by
  have hnot : isStatic "ra" = false := by decide
  simp only [acceptsDefault, Bool.or_eq_true, Bool.and_eq_true, beq_iff_eq, bne_iff_ne] at h
  rcases h with (⟨⟨⟨hfamily, hgateway⟩, hproto⟩, honlink⟩ | ⟨⟨⟨hfamily, hgateway⟩, hproto⟩, honlink⟩) |
    ⟨⟨⟨hfamily, hproto⟩, hra⟩, hobserved⟩
  · have hne : r.via ≠ "" := by
      refine hvia.resolve_right fun hra => ?_
      rw [hra, hnot] at hproto
      simp at hproto
    exact .gateway n hn hdev hdst hfamily (hgateway ▸ hne) hgateway honlink
  · have hne : r.via ≠ "" := by
      refine hvia.resolve_right fun hra => ?_
      rw [hra, hnot] at hproto
      cases hproto
    exact .gateway6 n hn hdev hdst hfamily (hgateway ▸ hne) hgateway honlink
  · obtain ⟨g, hg, hdynamic⟩ := List.any_eq_true.1 hobserved
    obtain ⟨o, ho, hiface, hmem⟩ := exists_of_gatewaysOn hg
    rw [Bool.and_eq_true, beq_iff_eq] at hdynamic
    exact .advertised n hn hdev hdst hfamily hproto hra ⟨o, ho, hiface, g, hmem, hdynamic⟩

theorem restorable_connected {n : StaticNetworkPlan} (hn : n ∈ planNICs plan) (hdev : n.iface = r.dev)
    (hlo : r.dev ≠ "lo") {ip : IPPrefix} (hip : destination r.dst = some ip)
    (h : acceptsConnected family observed n r ip = true) : Restorable family plan observed r := by
  simp only [acceptsConnected, Bool.or_eq_true, Bool.and_eq_true, beq_iff_eq] at h
  rcases h with ((h | h) | h) | h
  · exact absurd h.1.2 hlo
  · obtain ⟨⟨⟨hfamily, hscope⟩, hvia⟩, hproto⟩ := h
    exact .linkLocal ip hip hvia hfamily hproto hscope
  · obtain ⟨⟨hvia, -⟩, hobserved⟩ := h
    obtain ⟨a, ha, hcovers⟩ := List.any_eq_true.1 hobserved
    obtain ⟨q, hq, hcovers⟩ := (Option.any_eq_true _ _).1 hcovers
    obtain ⟨o, ho, hiface, hmem⟩ := exists_of_addressesOn ha
    rw [Bool.or_eq_true, beq_iff_eq, beq_iff_eq] at hcovers
    exact .connected ip hip hvia ⟨o, ho, hiface, a, hmem, q, hq, hcovers⟩
  · obtain ⟨⟨⟨⟨⟨⟨hfamily, honlink⟩, hvia⟩, hbits⟩, hgateway⟩, -⟩, -⟩ := h
    exact .onLinkGateway n hn hdev ip hip hvia hfamily honlink hbits hgateway

section Declared

variable (hnames : ∀ n ∈ planNICs plan, ':' ∉ n.iface.toList)

include hnames

theorem colon_not_mem_dev {mark : Option String} (h : reviewRoute family plan observed r = some mark) :
    ':' ∉ r.dev.toList := by
  rcases (reviewRoute_cases h).1 with hlo | ⟨n, hn, hdev, -⟩
  · rw [hlo]
    decide
  · exact hdev ▸ hnames n hn

theorem restorable_declared {ip : IPPrefix} (hcolon : ':' ∉ r.dev.toList)
    (hip : destination r.dst = some ip) (h : acceptsDeclared family plan r ip = true) :
    Restorable family plan observed r := by
  simp only [acceptsDeclared, Bool.and_eq_true, beq_iff_eq, List.contains_iff_mem] at h
  obtain ⟨⟨⟨hkey, hvia⟩, -⟩, -⟩ := h
  obtain ⟨n, hn, hkey⟩ := List.mem_flatMap.1 hkey
  obtain ⟨dst, hdst, hkey⟩ := List.mem_map.1 hkey
  obtain ⟨hdev, rfl⟩ := routeKey_injective (hnames n hn) hcolon hkey
  exact .declared n hn hdev ip hip hvia (List.mem_of_mem_filter hdst)

/-- A route that passes outside the local table is restored if it is not a default without a gateway. -/
theorem restorable_of_review {mark : Option String} (h : reviewRoute family plan observed r = some mark)
    (htable : r.table ≠ "local") (hlo : r.dev ≠ "lo")
    (hdefault : r.dst = "default" → r.via ≠ "" ∨ r.proto = "ra") : Restorable family plan observed r := by
  have hcolon := colon_not_mem_dev hnames h
  obtain ⟨hdev, hcases⟩ := reviewRoute_cases h
  obtain ⟨n, hn, hiface, hplan⟩ := hdev.resolve_left hlo
  rw [hplan, Option.getD_some] at hcases
  rcases hcases with ⟨hlocal, -⟩ | ⟨-, hdst, -, haccepts⟩ | ⟨-, -, ip, hip, hdeclared | hconnected⟩
  · exact absurd hlocal htable
  · exact restorable_default hn hiface hdst (hdefault hdst) haccepts
  · exact restorable_declared hnames hcolon hip hdeclared.1
  · exact restorable_connected hn hiface hlo hip hconnected.2

theorem declared_present {routes : List Route} {present : List (Option String)}
    (hroutes : routes.mapM (fun r => fetch (reviewRoute family plan observed r) networkError) = .ok present)
    (hpresent : (declaredRoutes family plan).all (present.reduceOption.contains ·) = true)
    {n : StaticNetworkPlan} (hn : n ∈ planNICs plan) {dst : String} (hdst : dst ∈ n.directRoutes)
    (hfamily : ofFamily family dst = true) :
    ∃ r ∈ routes, r.dev = n.iface ∧ ∃ ip, destination r.dst = some ip ∧ ip.text = dst := by
  have hkey : routeKey n.iface dst ∈ declaredRoutes family plan :=
    List.mem_flatMap.2 ⟨n, hn, List.mem_map.2 ⟨dst, List.mem_filter.2 ⟨hdst, hfamily⟩, rfl⟩⟩
  have hmark := List.contains_iff_mem.1 (List.all_eq_true.1 hpresent _ hkey)
  obtain ⟨r, hr, hreview⟩ := mem_of_mapM_ok hroutes (List.reduceOption_mem_iff.1 hmark)
  rw [fetch_eq_ok_iff] at hreview
  have hcolon := colon_not_mem_dev hnames hreview
  rcases (reviewRoute_cases hreview).2 with ⟨-, -, hnone⟩ | ⟨-, -, hnone, -⟩ |
    ⟨-, -, ip, hip, ⟨-, hsome⟩ | ⟨hnone, -⟩⟩
  · cases hnone
  · cases hnone
  · obtain ⟨hdev, htext⟩ := routeKey_injective (hnames n hn) hcolon (Option.some.inj hsome)
    exact ⟨r, hr, hdev.symm, ip, hip, htext.symm⟩
  · cases hnone

end Declared

end Routes

theorem nodup_wantedRules (family : String) : ((wantedRules family).map Prod.fst).Nodup := by
  unfold wantedRules
  split <;> decide

theorem builtinRules_table {family : String} {rule : Rule} (h : rule ∈ builtinRules family) :
    rule.table ≠ "" := by
  have htables : ∀ w ∈ wantedRules family, w.2 ≠ "" := by
    unfold wantedRules
    split <;> decide
  obtain ⟨w, hw, rfl⟩ := List.mem_map.1 h
  exact htables w hw

/-- An accepted review does what it is for exactly where every rule names a table and every default route has
a device other than `lo` and a gateway, unless it was learnt. -/
theorem review_fails_closed_iff {family : String} {plan : StaticNetworkPlan} {observed : Network}
    {rulesJSON routesJSON : Document} {files : String × String × String}
    (hplan : renderStaticNetwork plan = .ok files)
    (h : validatePlanRouting family plan observed rulesJSON routesJSON = .ok ()) :
    ∃ rules routes, decodeRules rulesJSON = some rules ∧ decodeRoutes family routesJSON = some routes ∧
      (Reviewed family plan observed rules routes ↔
        (∀ rule ∈ rules, rule.table ≠ "") ∧
          ∀ r ∈ routes, r.dst = "default" → r.dev ≠ "lo" ∧ (r.via ≠ "" ∨ r.proto = "ra")) := by
  obtain ⟨link, interfaces, resolver⟩ := files
  have hnames : ∀ n ∈ planNICs plan, ':' ∉ n.iface.toList := fun n hn =>
    ((accepted_of_render hplan).1.nics n hn).colon
  simp only [validatePlanRouting, bind_eq_ok_iff, require_eq_ok_iff, fetch_eq_ok_iff, exists_const,
    Bool.and_eq_true, beq_iff_eq] at h
  obtain ⟨-, rules, hrules, ⟨hlength, hcheck⟩, -, routes, hroutes, present, hreview, hpresent⟩ := h
  have hroute : ∀ r ∈ routes, ∃ mark, reviewRoute family plan observed r = some mark := by
    intro r hr
    obtain ⟨mark, -, hmark⟩ := exists_of_mapM_ok hreview hr
    exact ⟨mark, fetch_eq_ok_iff.1 hmark⟩
  refine ⟨rules, routes, hrules, hroutes, ?_, ?_⟩
  · intro hreviewed
    refine ⟨fun rule hrule => builtinRules_table (hreviewed.builtin.mem_iff.1 hrule), fun r hr hdst => ?_⟩
    obtain ⟨mark, hmark⟩ := hroute r hr
    have hlo := (hreviewed.defaults r hr hdst).1
    have hrestorable := hreviewed.restorable r hr (table_ne_local hmark hdst) hlo
    rcases hrestorable.default_cases hdst with hra | ⟨hvia, -⟩
    · exact ⟨hlo, .inr hra⟩
    · exact ⟨hlo, .inl hvia⟩
  · rintro ⟨htables, hdefaults⟩
    have hrestorable : ∀ r ∈ routes, r.table ≠ "local" → r.dev ≠ "lo" →
        Restorable family plan observed r := by
      intro r hr htable hlo
      obtain ⟨mark, hmark⟩ := hroute r hr
      exact restorable_of_review hnames hmark htable hlo fun hdst => (hdefaults r hr hdst).2
    refine ⟨perm_of_checkRules (nodup_wantedRules family) hlength hcheck htables, hrestorable, ?_,
      fun n hn dst hdst hfamily => declared_present hnames hreview hpresent hn hdst hfamily⟩
    intro r hr hdst
    obtain ⟨mark, hmark⟩ := hroute r hr
    have hlo := (hdefaults r hr hdst).1
    have hdefault := (hrestorable r hr (table_ne_local hmark hdst) hlo).default_cases hdst
    exact ⟨hlo, hdefault.imp_right And.right⟩

/-! ## Rules without a table and defaults without a gateway -/

namespace Unreviewed

/-- A second interface without an address. -/
def second : StaticNetworkPlan :=
  { noPlan with iface := "eth1", mac := "52:54:00:12:34:57", ipv6AcceptRA := "0" }

def plan : StaticNetworkPlan := { ZoneBreak.plan "" with additional := [second] }

def observed : Network := ⟨"eth0", "52:54:00:12:34:56", [⟨"192.0.2.10/24", false⟩], [], [], []⟩

def rule (priority : Int) (table : String) : Json :=
  .object [("priority", .int priority), ("src", .string "all"), ("table", .string table)]

def route (dev : String) (gateway : List String) : Json :=
  .object ([("dst", .string "default"), ("dev", .string dev)] ++
    gateway.map fun via => ("gateway", .string via))

def nameless : Document := marshal (.array [rule 7 "", rule 8 "", rule 9 ""])

def defaults : Document := marshal (.array [route "eth1" [], route "lo" []])

/-- Three rules of no table are taken for the built-in ones, and defaults without a gateway are accepted on
an interface that has none and on the loopback interface. -/
theorem accepts_defaults_without_gateway :
    (renderStaticNetwork plan).toOption.isSome = true ∧
      validatePlanRouting "-4" plan observed nameless defaults = .ok () ∧
      decodeRules nameless = some [⟨7, "all", ""⟩, ⟨8, "all", ""⟩, ⟨9, "all", ""⟩] ∧
      ¬ List.Perm [⟨7, "all", ""⟩, ⟨8, "all", ""⟩, ⟨9, "all", ""⟩] (builtinRules "-4") ∧
      decodeRoutes "-4" defaults =
        some [⟨"default", "eth1", "", "", "", "", "", []⟩, ⟨"default", "lo", "", "", "", "", "", []⟩] ∧
      second.gateway = "" := by
  refine ⟨by decide +kernel, ?_, ?_, ?_, ?_, rfl⟩
  all_goals decide +kernel

def builtin : Document := marshal (.array [rule 0 "local", rule 32766 "main", rule 32767 "default"])

def declaredDefault : Document := marshal (.array [route "eth0" ["192.0.2.1"]])

theorem reviewed_default_route :
    ∃ rules routes, decodeRules builtin = some rules ∧ decodeRoutes "-4" declaredDefault = some routes ∧
      Reviewed "-4" plan observed rules routes := by
  obtain ⟨link, resolver, hplan⟩ := ZoneBreak.exists_render (p := plan) (by decide +kernel)
  have hvalid : validatePlanRouting "-4" plan observed builtin declaredDefault = .ok () := by decide +kernel
  have hbuiltin : decodeRules builtin =
      some [⟨0, "all", "local"⟩, ⟨32766, "all", "main"⟩, ⟨32767, "all", "default"⟩] := by decide +kernel
  have hdefault : decodeRoutes "-4" declaredDefault =
      some [⟨"default", "eth0", "192.0.2.1", "", "", "", "", []⟩] := by decide +kernel
  obtain ⟨rules, routes, hrules, hroutes, hiff⟩ := review_fails_closed_iff hplan hvalid
  refine ⟨rules, routes, hrules, hroutes, hiff.2 ?_⟩
  obtain rfl := Option.some.inj (hbuiltin.symm.trans hrules)
  obtain rfl := Option.some.inj (hdefault.symm.trans hroutes)
  decide

end Unreviewed

end OSReinstall
end Vastora
