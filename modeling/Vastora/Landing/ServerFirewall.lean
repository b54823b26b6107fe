import Mathlib.Data.List.Sort
import Vastora.Landing.Address
import Vastora.Library.Guard
import Vastora.Library.Nftables

/-!
# ServerFirewall — the packet filter of a landing server

`ServerFirewall.objects` builds the filter of the account that runs the landing service: the service is
reached only from authorised tailnet nodes, and reaches only public addresses besides its replies.
`firewall_admits_authorised` reads the chains as nftables does and says which packets pass.
-/

namespace Vastora
namespace Landing

open Library.Guard Library.Netip Library.Nftables

structure ServerFirewall where
  egressIP : String
  revision : Nat
  address : String
  sources : List String
  tcpOnlySources : List String
  interface : String
  uid : Nat

/-- `^[a-zA-Z0-9][a-zA-Z0-9_.-]{0,14}$`. -/
def bridgeNamePattern (s : String) : Bool :=
  match s.toList with
  | [] => false
  | c :: cs => c.isAlphanum && cs.length ≤ 14 &&
      cs.all fun c => c.isAlphanum || c == '_' || c == '.' || c == '-'

namespace ServerFirewall

def validate (policy : ServerFirewall) : Except String Unit := do
  require (policy.egressIP == "" || validEgressIP policy.egressIP) "landing: invalid firewall egress IP"
  require (policy.revision != 0 && tailnetIPv4 policy.address && policy.uid != 0 &&
    policy.uid != 65534 && bridgeNamePattern policy.interface && policy.sources.length ≤ 128)
    "landing: invalid native firewall identity"
  require (policy.sources.all (fun source => tailnetIPv4 source && source != policy.address) &&
    policy.sources.Nodup) "landing: invalid native firewall source"
  require (policy.tcpOnlySources.all policy.sources.contains)
    "landing: TCP-only source is not authorized"

end ServerFirewall

/-! ## Ports and prefixes -/

def managementPorts : String :=
  "22,23,135,139,445,1080,1433,1521,2053,2375,2376,3306,3389,5432,5900,6379,6443,8006,9000,9090,9100,10000"

def managementPortList : List Nat :=
  (managementPorts.toList.splitOn ',').map fun port => (parseDecimal port).getD 0

/-- The port of the SOCKS service, and the range of its UDP relays. -/
def servicePorts : Protocol → Value
  | .tcp => .number 1080
  | .udp => .range 1081 1208

def protocols : List Protocol := [.tcp, .udp]

/-- The prefix of a network, as nftables takes it. -/
def subnetOf (cidr : String) : Value :=
  match cidr.toList.splitOn '/' with
  | [addr, len] => .subnet (String.ofList addr) ((parseDecimal len).getD 0)
  | _ => .text cidr

def resolvers : List String := ["1.1.1.1", "1.0.0.1"]

/-! ## Objects -/

namespace ServerFirewall

variable (policy : ServerFirewall)

def sortedSources : List String := policy.sources.insertionSort (· ≤ ·)

def is6 : Bool :=
  match parseAddr policy.egressIP with
  | some (.v6 _) => true
  | _ => false

def sourceMatches (source : String) : List Match :=
  [⟨.iifname, .text policy.interface⟩, ⟨.ip .saddr, .text source⟩] ++
    if policy.tcpOnlySources.contains source then [⟨.l4proto, .text "tcp"⟩] else []

/-- The sources with the protocols over which they are answered. -/
def replyScopes : List (String × Protocol) :=
  policy.sortedSources.flatMap fun source =>
    (protocols.filter fun protocol =>
      !(protocol == .udp && policy.tcpOnlySources.contains source)).map fun protocol => (source, protocol)

def replyMatches (scope : String × Protocol) : List Match :=
  [⟨.oifname, .text policy.interface⟩, ⟨.ip .saddr, .text policy.address⟩,
    ⟨.ip .daddr, .text scope.1⟩, ⟨.port scope.2 .sport, servicePorts scope.2⟩,
    ⟨.ctDirection, .text "reply"⟩]

def managementScopes : List (Nat × Protocol) :=
  managementPortList.flatMap fun port => protocols.map fun protocol => (port, protocol)

def resolverScopes : List (String × Protocol) :=
  if policy.egressIP = "" then []
  else resolvers.flatMap fun resolver => protocols.map fun protocol => (resolver, protocol)

def egressMatches4 (protocol : Protocol) : List Match :=
  [⟨.nfproto, .text "ipv4"⟩, ⟨.l4proto, .text protocol.text⟩] ++
    if policy.egressIP = "" then [] else [⟨.ip .saddr, .text policy.egressIP⟩]

def egressMatches6 : List Match :=
  [⟨.ip6 .saddr, .text policy.egressIP⟩, ⟨.ip6 .daddr, .subnet "2000::" 3⟩, ⟨.l4proto, .text "tcp"⟩]

/-- The way out: IPv6 for an IPv6 exit, and IPv4 otherwise. -/
def egressRules : List (List Statement) :=
  if policy.is6 then
    (blockedIPv6.map fun cidr => guarded [⟨.ip6 .daddr, subnetOf cidr⟩] .drop) ++
      [guarded policy.egressMatches6 .ret]
  else protocols.map fun protocol => guarded (policy.egressMatches4 protocol) .ret

def inputRules : List (List Statement) :=
  protocols.map fun protocol => guarded [⟨.ip .daddr, .text policy.address⟩,
    ⟨.port protocol .dport, servicePorts protocol⟩] (.jump "sources")

def sourcesRules : List (List Statement) :=
  (policy.sortedSources.map fun source => guarded (policy.sourceMatches source) .ret) ++ [[.drop]]

def outputRules : List (List Statement) :=
  [guarded [⟨.skuid, .number policy.uid⟩] (.jump "destinations")]

def destinationsRules : List (List Statement) :=
  (policy.replyScopes.map fun scope => guarded (policy.replyMatches scope) .ret) ++
    ((blockedIPv4.map fun cidr => guarded [⟨.ip .daddr, subnetOf cidr⟩] .drop) ++
    ((managementScopes.map fun scope => guarded [⟨.port scope.2 .dport, .number scope.1⟩] .drop) ++
    ((policy.resolverScopes.map fun scope =>
      guarded [⟨.ip .daddr, .text scope.1⟩, ⟨.port scope.2 .dport, .number 53⟩] .ret) ++
    (policy.egressRules ++ [[.drop]]))))

/-- The table, its chains and their rules.  The name of the table and its comment identify the policy. -/
def objects (table marker : String) : List Object :=
  [.table table marker, .base "input" .input (-10) true, .base "output" .output 10 true,
    .chain "sources", .chain "destinations"] ++
  (policy.inputRules.map (.rule "input") ++ (policy.sourcesRules.map (.rule "sources") ++
    (policy.outputRules.map (.rule "output") ++ policy.destinationsRules.map (.rule "destinations"))))

end ServerFirewall

/-! ## The chains as nftables reads them -/

section Chains

variable {policy : ServerFirewall} {table marker : String} {p : Packet}

theorem chainRules_objects : chainRules (policy.objects table marker) "input" = policy.inputRules ∧
    chainRules (policy.objects table marker) "sources" = policy.sourcesRules ∧
    chainRules (policy.objects table marker) "output" = policy.outputRules ∧
    chainRules (policy.objects table marker) "destinations" = policy.destinationsRules := by
  refine ⟨?_, ?_, ?_, ?_⟩ <;>
    simp [ServerFirewall.objects, chainRules]

/-- The chain of the sources spares those that are admitted. -/
theorem runRules_sources {call : String → Outcome} :
    runRules call p policy.sourcesRules ≠ .drop ↔
      ∃ source ∈ policy.sources, (policy.sourceMatches source).all (Match.holds p) := by
  rw [ServerFirewall.sourcesRules, runRules_returns, runRules_last]
  simp only [ServerFirewall.sortedSources, List.mem_insertionSort, ne_eq, not_true_eq_false, or_false]

/-- The chain of the destinations spares replies and what may leave. -/
theorem runRules_destinations {call : String → Outcome} :
    runRules call p policy.destinationsRules ≠ .drop ↔
      (∃ scope ∈ policy.replyScopes, (policy.replyMatches scope).all (Match.holds p)) ∨
      (¬ ∃ cidr ∈ blockedIPv4, Match.holds p ⟨.ip .daddr, subnetOf cidr⟩) ∧
      (¬ ∃ scope ∈ ServerFirewall.managementScopes,
        Match.holds p ⟨.port scope.2 .dport, .number scope.1⟩) ∧
      ((∃ scope ∈ policy.resolverScopes, Match.holds p ⟨.ip .daddr, .text scope.1⟩ ∧
          Match.holds p ⟨.port scope.2 .dport, .number 53⟩) ∨
        runRules call p (policy.egressRules ++ [[.drop]]) ≠ .drop) := by
  rw [ServerFirewall.destinationsRules, runRules_returns, runRules_drops, runRules_drops,
    runRules_returns]
  simp only [List.all_cons, List.all_nil, Bool.and_true, Bool.and_eq_true]

theorem runRules_egress {call : String → Outcome} :
    runRules call p (policy.egressRules ++ [[.drop]]) ≠ .drop ↔
      if policy.is6 then
        (¬ ∃ cidr ∈ blockedIPv6, Match.holds p ⟨.ip6 .daddr, subnetOf cidr⟩) ∧
          policy.egressMatches6.all (Match.holds p)
      else ∃ protocol ∈ protocols, (policy.egressMatches4 protocol).all (Match.holds p) := by
  unfold ServerFirewall.egressRules
  split
  · have hone : [guarded policy.egressMatches6 .ret] =
        [()].map fun _ => guarded policy.egressMatches6 .ret := rfl
    rw [List.append_assoc, runRules_drops, hone, runRules_returns, runRules_last]
    simp only [List.all_cons, List.all_nil, Bool.and_true, List.mem_singleton, true_and, exists_const,
      ne_eq, not_true_eq_false, or_false]
  · rw [runRules_returns, runRules_last]
    simp only [ne_eq, not_true_eq_false, or_false]

theorem passes_input_iff : passes (policy.objects table marker) .input p ↔
    runRules (runChain (policy.objects table marker) p 15) p policy.inputRules ≠ .drop := by
  have hchain : runChain (policy.objects table marker) p jumpDepth "input" =
      runRules (runChain (policy.objects table marker) p 15) p policy.inputRules := by
    rw [jumpDepth, runChain, chainRules_objects.1]
  rw [← hchain]
  simp [passes, ServerFirewall.objects]

theorem passes_output_iff : passes (policy.objects table marker) .output p ↔
    runRules (runChain (policy.objects table marker) p 15) p policy.outputRules ≠ .drop := by
  have hchain : runChain (policy.objects table marker) p jumpDepth "output" =
      runRules (runChain (policy.objects table marker) p 15) p policy.outputRules := by
    rw [jumpDepth, runChain, chainRules_objects.2.2.1]
  rw [← hchain]
  simp [passes, ServerFirewall.objects]

end Chains

/-! ## What the matches say -/

section Matches

variable {policy : ServerFirewall} {p : Packet} {text : String} {protocol : Protocol}

theorem parseAddr_eq_v4_iff {a : IPv4} : parseAddr text = some (.v4 a) ↔ parseIPv4 text = some a := by
  unfold parseAddr
  cases h : parseIPv4 text with
  | none => simp
  | some b => simp

theorem holds_saddr (h : (parseIPv4 text).isSome) :
    Match.holds p ⟨.ip .saddr, .text text⟩ ↔ parseAddr text = some p.saddr := by
  obtain ⟨a, ha⟩ := Option.isSome_iff_exists.1 h
  rw [parseAddr_eq_v4_iff.2 ha]
  cases hp : p.header <;> simp [Match.holds, Selector.read, Value.holds, Packet.saddr, hp, ha]

theorem holds_daddr (h : (parseIPv4 text).isSome) :
    Match.holds p ⟨.ip .daddr, .text text⟩ ↔ parseAddr text = some p.daddr := by
  obtain ⟨a, ha⟩ := Option.isSome_iff_exists.1 h
  rw [parseAddr_eq_v4_iff.2 ha]
  cases hp : p.header <;> simp [Match.holds, Selector.read, Value.holds, Packet.daddr, hp, ha]

theorem holds_dport {value : Value} : Match.holds p ⟨.port protocol .dport, value⟩ ↔
    ∃ sport dport, p.transport = .ports protocol sport dport ∧ value.holds (.number dport) := by
  cases hp : p.transport with
  | other n => simp [Match.holds, Selector.read, hp]
  | ports protocol' sport dport =>
      by_cases h : protocol = protocol'
      · simp [Match.holds, Selector.read, hp, h]
      · simp [Match.holds, Selector.read, hp, h, Ne.symm h]

theorem holds_sport {value : Value} : Match.holds p ⟨.port protocol .sport, value⟩ ↔
    ∃ sport dport, p.transport = .ports protocol sport dport ∧ value.holds (.number sport) := by
  cases hp : p.transport with
  | other n => simp [Match.holds, Selector.read, hp]
  | ports protocol' sport dport =>
      by_cases h : protocol = protocol'
      · simp [Match.holds, Selector.read, hp, h]
      · simp [Match.holds, Selector.read, hp, h, Ne.symm h]

theorem holds_l4proto : Match.holds p ⟨.l4proto, .text protocol.text⟩ ↔
    ∃ sport dport, p.transport = .ports protocol sport dport := by
  cases hp : p.transport with
  | other n => simp [Match.holds, Selector.read, hp, Value.holds]
  | ports protocol' sport dport =>
      cases protocol <;> cases protocol' <;>
        simp [Match.holds, Selector.read, hp, Value.holds, Protocol.text]

/-- A valid interface name has no wildcard. -/
theorem ifnameMatches_of_valid {name : String} (h : bridgeNamePattern text) :
    ifnameMatches text name ↔ name = text := by
  have hlast : text.toList.getLast? ≠ some '*' := by
    intro hlast
    have hmem : '*' ∈ text.toList := List.mem_of_getLast? hlast
    unfold bridgeNamePattern at h
    split at h
    · cases h
    · rename_i c cs htext
      rw [htext] at hmem
      simp only [Bool.and_eq_true, List.all_eq_true] at h
      rcases List.mem_cons.1 hmem with rfl | hmem
      · exact absurd h.1.1 (by decide)
      · exact absurd (h.2 _ hmem) (by decide)
  rw [ifnameMatches, if_neg hlast, beq_iff_eq]
  exact eq_comm

theorem holds_iifname (h : bridgeNamePattern text) :
    Match.holds p ⟨.iifname, .text text⟩ ↔ p.iifname = text :=
  ifnameMatches_of_valid h

theorem holds_oifname (h : bridgeNamePattern text) :
    Match.holds p ⟨.oifname, .text text⟩ ↔ p.oifname = text :=
  ifnameMatches_of_valid h

theorem holds_reply : Match.holds p ⟨.ctDirection, .text "reply"⟩ ↔ p.reply := by
  cases h : p.reply <;> simp [Match.holds, Selector.read, Value.holds, h]

end Matches

/-! ## Public destinations -/

section Public

variable {p : Packet} {cidr : String}

/-- nftables and `netip` read the same network. -/
theorem subnetOf_of_parsePrefix {w : Nat} {parse : String → Option (Fin (2 ^ w))} {net : Prefix w}
    (h : parsePrefix parse cidr = some net) :
    ∃ addr, subnetOf cidr = .subnet addr net.len ∧ parse addr = some net.addr := by
  unfold parsePrefix at h
  split at h
  · rename_i addr len hsplit
    simp only [Option.bind_eq_bind, Option.bind_eq_some_iff] at h
    obtain ⟨b, hb, n, hn, h⟩ := h
    split at h
    · obtain rfl := Option.some.inj h
      exact ⟨String.ofList addr, by simp [subnetOf, hsplit, hn], hb⟩
    · cases h
  · cases h

theorem holds_subnet4 {a : IPv4} (h : (parsePrefix parseIPv4 cidr).isSome) :
    (subnetOf cidr).holds (.ip a) = inPrefix4 cidr a := by
  obtain ⟨net, hnet⟩ := Option.isSome_iff_exists.1 h
  obtain ⟨addr, hsubnet, haddr⟩ := subnetOf_of_parsePrefix hnet
  rw [inPrefix4, hnet, hsubnet, Value.holds, haddr]
  rfl

theorem holds_subnet6 {a : IPv6} (h : (parsePrefix parseIPv6 cidr).isSome) :
    (subnetOf cidr).holds (.ip6 a) = inPrefix6 cidr a := by
  obtain ⟨net, hnet⟩ := Option.isSome_iff_exists.1 h
  obtain ⟨addr, hsubnet, haddr⟩ := subnetOf_of_parsePrefix hnet
  rw [inPrefix6, hnet, hsubnet, Value.holds, haddr]
  rfl

theorem blockedIPv4_parses : ∀ cidr ∈ blockedIPv4, (parsePrefix parseIPv4 cidr).isSome := by decide

theorem blockedIPv6_parses : ∀ cidr ∈ blockedIPv6, (parsePrefix parseIPv6 cidr).isSome := by decide

/-- The blocked networks hold every address that is not global unicast. -/
theorem publicIPv4_iff {a : IPv4} :
    publicIPv4 (.v4 a) ↔ ∀ cidr ∈ blockedIPv4, inPrefix4 cidr a = false := by
  have hglobal : (∀ cidr ∈ blockedIPv4, inPrefix4 cidr a = false) → isGlobalUnicast4 a := by
    intro h
    have hzero := h "0.0.0.0/8" (by simp [blockedIPv4])
    have hloop := h "127.0.0.0/8" (by simp [blockedIPv4])
    have hlink := h "169.254.0.0/16" (by simp [blockedIPv4])
    have hmulti := h "224.0.0.0/4" (by simp [blockedIPv4])
    have hclassE := h "240.0.0.0/4" (by simp [blockedIPv4])
    rw [inPrefix4, show parsePrefix parseIPv4 "0.0.0.0/8" = some ⟨0, 8⟩ by decide] at hzero
    rw [inPrefix4, show parsePrefix parseIPv4 "127.0.0.0/8" = some ⟨Fin.ofNat _ (127 * 2 ^ 24), 8⟩
      by decide] at hloop
    rw [inPrefix4, show parsePrefix parseIPv4 "169.254.0.0/16" =
      some ⟨Fin.ofNat _ ((169 * 256 + 254) * 2 ^ 16), 16⟩ by decide] at hlink
    rw [inPrefix4, show parsePrefix parseIPv4 "224.0.0.0/4" = some ⟨Fin.ofNat _ (14 * 2 ^ 28), 4⟩
      by decide] at hmulti
    rw [inPrefix4, show parsePrefix parseIPv4 "240.0.0.0/4" = some ⟨Fin.ofNat _ (15 * 2 ^ 28), 4⟩
      by decide] at hclassE
    simp [Prefix.contains] at hzero hloop hlink hmulti hclassE
    simp [isGlobalUnicast4]
    omega
  simp only [publicIPv4, Bool.and_eq_true, List.all_eq_true, Bool.not_eq_true']
  exact ⟨And.right, fun h => ⟨hglobal h, h⟩⟩

/-- No global unicast address is an IPv4-mapped one. -/
theorem publicIPv6_iff {a : IPv6} : publicIPv6 (.v6 a) ↔
    inPrefix6 "2000::/3" a ∧ ∀ cidr ∈ blockedIPv6, inPrefix6 cidr a = false := by
  have hmapped : inPrefix6 "2000::/3" a → mapped.contains a = false := by
    intro h
    rw [inPrefix6, show parsePrefix parseIPv6 "2000::/3" = some ⟨Fin.ofNat _ (2 ^ 125), 3⟩ by decide] at h
    simp [Prefix.contains] at h
    simp [mapped, Prefix.contains]
    omega
  simp only [publicIPv6, Bool.and_eq_true, List.all_eq_true, Bool.not_eq_true']
  exact ⟨fun h => ⟨h.1.2, h.2⟩, fun h => ⟨⟨hmapped h.1, h.1⟩, h.2⟩⟩

/-- What the two groups of drops leave. -/
theorem not_blocked4_iff : (¬ ∃ cidr ∈ blockedIPv4, Match.holds p ⟨.ip .daddr, subnetOf cidr⟩) ↔
    ∀ a, p.daddr = .v4 a → publicIPv4 (.v4 a) := by
  simp only [publicIPv4_iff]
  cases hp : p.header with
  | ip s d =>
      have hread : ∀ cidr ∈ blockedIPv4,
          Match.holds p ⟨.ip .daddr, subnetOf cidr⟩ = inPrefix4 cidr d := by
        intro cidr hcidr
        rw [← holds_subnet4 (blockedIPv4_parses cidr hcidr)]
        simp [Match.holds, Selector.read, hp]
      simp +contextual [Packet.daddr, hp, hread]
  | ip6 s d => simp [Packet.daddr, Match.holds, Selector.read, hp]

theorem not_blocked6_iff : (¬ ∃ cidr ∈ blockedIPv6, Match.holds p ⟨.ip6 .daddr, subnetOf cidr⟩) ↔
    ∀ a, p.daddr = .v6 a → ∀ cidr ∈ blockedIPv6, inPrefix6 cidr a = false := by
  cases hp : p.header with
  | ip s d => simp [Packet.daddr, Match.holds, Selector.read, hp]
  | ip6 s d =>
      have hread : ∀ cidr ∈ blockedIPv6,
          Match.holds p ⟨.ip6 .daddr, subnetOf cidr⟩ = inPrefix6 cidr d := by
        intro cidr hcidr
        rw [← holds_subnet6 (blockedIPv6_parses cidr hcidr)]
        simp [Match.holds, Selector.read, hp]
      simp +contextual [Packet.daddr, hp, hread]

end Public

/-! ## Admitted traffic -/

/-- The ports of the service. -/
def isServicePort : Protocol → Nat → Bool
  | .tcp, port => port == 1080
  | .udp, port => 1081 ≤ port && port ≤ 1208

namespace ServerFirewall

/-- The source is authorised for the protocol. -/
def Authorises (policy : ServerFirewall) (source : String) (protocol : Protocol) : Prop :=
  source ∈ policy.sources ∧ (protocol = .tcp ∨ source ∉ policy.tcpOnlySources)

/-- A packet to the service, over this protocol. -/
def ToService (policy : ServerFirewall) (p : Packet) (protocol : Protocol) : Prop :=
  parseAddr policy.address = some p.daddr ∧
    ∃ sport dport, p.transport = .ports protocol sport dport ∧ isServicePort protocol dport

/-- A reply of the service to an authorised source. -/
def Answers (policy : ServerFirewall) (p : Packet) : Prop :=
  p.reply ∧ p.oifname = policy.interface ∧ parseAddr policy.address = some p.saddr ∧
    ∃ protocol sport dport, p.transport = .ports protocol sport dport ∧ isServicePort protocol sport ∧
      ∃ source, policy.Authorises source protocol ∧ parseAddr source = some p.daddr

/-- A packet that may leave: to a public address and not to a management port, for name resolution or
from the address of the exit. -/
def MayLeave (policy : ServerFirewall) (p : Packet) : Prop :=
  publicIP p.daddr ∧ ∃ protocol sport dport, p.transport = .ports protocol sport dport ∧
    dport ∉ managementPortList ∧
    (policy.egressIP ≠ "" ∧ dport = 53 ∧ (∃ resolver ∈ resolvers, parseAddr resolver = some p.daddr) ∨
      policy.is6 ∧ protocol = .tcp ∧ parseAddr policy.egressIP = some p.saddr ∨
      policy.is6 = false ∧ (∃ s d, p.header = .ip s d) ∧
        (policy.egressIP ≠ "" → parseAddr policy.egressIP = some p.saddr))

/-- What validation establishes. -/
structure Valid (policy : ServerFirewall) : Prop where
  egressIP : policy.egressIP = "" ∨ (parseAddr policy.egressIP).isSome
  address : (parseIPv4 policy.address).isSome
  interface : bridgeNamePattern policy.interface
  sources : ∀ source ∈ policy.sources, (parseIPv4 source).isSome

theorem isSome_of_tailnetIPv4 {text : String} (h : tailnetIPv4 text) : (parseIPv4 text).isSome := by
  unfold tailnetIPv4 at h
  cases hparse : parseIPv4 text with
  | none => simp [hparse] at h
  | some a => rfl

theorem valid_of_validate {policy : ServerFirewall} {u : Unit} (h : policy.validate = .ok u) :
    policy.Valid := by
  simp only [validate, require_bind_eq_ok_iff, require_eq_ok_iff, Bool.and_eq_true, Bool.or_eq_true,
    beq_iff_eq, List.all_eq_true] at h
  obtain ⟨hegress, ⟨⟨⟨⟨⟨-, haddress⟩, -⟩, -⟩, hinterface⟩, -⟩, ⟨hsources, -⟩, -⟩ := h
  refine ⟨hegress.imp_right fun hvalid => ?_, isSome_of_tailnetIPv4 haddress, hinterface,
    fun source hsource => isSome_of_tailnetIPv4 (hsources source hsource).1⟩
  unfold validEgressIP at hvalid
  cases hparse : parseAddr policy.egressIP with
  | none => simp [hparse] at hvalid
  | some a => rfl

section Admitted

variable {policy : ServerFirewall} {p : Packet} {table marker : String} {protocol : Protocol}
  {sport dport : Nat}

theorem holds_servicePorts {port : Nat} :
    (servicePorts protocol).holds (.number port) = isServicePort protocol port := by
  cases protocol with
  | tcp =>
      change (1080 == port) = (port == 1080)
      rw [Bool.eq_iff_iff, beq_iff_eq, beq_iff_eq]
      exact eq_comm
  | udp => rfl

theorem sourceMatches_iff (h : policy.Valid) {source : String} (hsource : source ∈ policy.sources)
    (hp : p.transport = .ports protocol sport dport) :
    (policy.sourceMatches source).all (Match.holds p) ↔ p.iifname = policy.interface ∧
      parseAddr source = some p.saddr ∧ (protocol = .tcp ∨ source ∉ policy.tcpOnlySources) := by
  have htcp : Match.holds p ⟨.l4proto, .text "tcp"⟩ ↔ protocol = .tcp := by
    rw [show "tcp" = Protocol.text .tcp from rfl, holds_l4proto, hp]
    simp
  unfold sourceMatches
  by_cases honly : source ∈ policy.tcpOnlySources
  · rw [if_pos (by simpa using honly)]
    simp only [List.cons_append, List.nil_append, List.all_cons, List.all_nil, Bool.and_true,
      Bool.and_eq_true, holds_iifname h.interface, holds_saddr (h.sources source hsource), htcp,
      honly, not_true_eq_false, or_false]
  · rw [if_neg (by simpa using honly)]
    simp only [List.append_nil, List.all_cons, List.all_nil, Bool.and_true, Bool.and_eq_true,
      holds_iifname h.interface,
      holds_saddr (h.sources source hsource), honly, not_false_eq_true, or_true, and_true]

theorem toService_iff (h : policy.Valid) :
    [(⟨.ip .daddr, .text policy.address⟩ : Match), ⟨.port protocol .dport, servicePorts protocol⟩].all
      (Match.holds p) ↔ policy.ToService p protocol := by
  simp only [List.all_cons, List.all_nil, Bool.and_true, Bool.and_eq_true, holds_daddr h.address,
    holds_dport, holds_servicePorts, ToService]

theorem mem_protocols : protocol ∈ protocols := by
  cases protocol <;> simp [protocols]

/-- Input: the service is reached by authorised sources over the tailnet interface. -/
theorem passes_input (h : policy.Valid) : passes (policy.objects table marker) .input p ↔
    ((∃ protocol, policy.ToService p protocol) → p.iifname = policy.interface ∧
      ∃ source protocol, policy.ToService p protocol ∧ policy.Authorises source protocol ∧
        parseAddr source = some p.saddr) := by
  have hsources : runChain (policy.objects table marker) p 15 "sources" ≠ .drop ↔
      ∃ source ∈ policy.sources, (policy.sourceMatches source).all (Match.holds p) := by
    rw [runChain, chainRules_objects.2.1, runRules_sources]
  rw [passes_input_iff, inputRules, runRules_jumps, hsources]
  simp only [toService_iff h, mem_protocols, true_and]
  refine imp_congr_right ?_
  rintro ⟨protocol, hto⟩
  obtain ⟨-, sport, dport, hp, -⟩ := id hto
  constructor
  · rintro ⟨source, hsource, hmatches⟩
    obtain ⟨hif, haddr, hallowed⟩ := (sourceMatches_iff h hsource hp).1 hmatches
    exact ⟨hif, source, protocol, hto, ⟨hsource, hallowed⟩, haddr⟩
  · rintro ⟨hif, source, protocol', ⟨-, _, _, hp', -⟩, ⟨hsource, hallowed⟩, haddr⟩
    exact ⟨source, hsource, (sourceMatches_iff h hsource hp').2 ⟨hif, haddr, hallowed⟩⟩

theorem mem_replyScopes {source : String} : (source, protocol) ∈ policy.replyScopes ↔
    policy.Authorises source protocol := by
  simp only [replyScopes, List.mem_flatMap, List.mem_map, List.mem_filter, mem_protocols, true_and,
    sortedSources, List.mem_insertionSort, Prod.mk.injEq, Authorises]
  constructor
  · rintro ⟨source, hsource, protocol, hallowed, rfl, rfl⟩
    refine ⟨hsource, ?_⟩
    cases protocol with
    | tcp => exact Or.inl rfl
    | udp => exact Or.inr (by simpa using hallowed)
  · rintro ⟨hsource, hallowed⟩
    refine ⟨source, hsource, protocol, ?_, rfl, rfl⟩
    rcases hallowed with rfl | hallowed
    · rfl
    · simp [hallowed]

theorem answers_iff (h : policy.Valid) :
    (∃ scope ∈ policy.replyScopes, (policy.replyMatches scope).all (Match.holds p)) ↔
      policy.Answers p := by
  have hmatches : ∀ source protocol, policy.Authorises source protocol →
      ((policy.replyMatches (source, protocol)).all (Match.holds p) ↔ p.oifname = policy.interface ∧
        parseAddr policy.address = some p.saddr ∧ parseAddr source = some p.daddr ∧
        (∃ sport dport, p.transport = .ports protocol sport dport ∧ isServicePort protocol sport) ∧
        p.reply) := by
    intro source protocol hauth
    simp only [replyMatches, List.all_cons, List.all_nil, Bool.and_true, Bool.and_eq_true,
      holds_oifname h.interface, holds_saddr h.address, holds_daddr (h.sources source hauth.1),
      holds_sport, holds_servicePorts, holds_reply]
  constructor
  · rintro ⟨⟨source, protocol⟩, hscope, hall⟩
    have hauth := mem_replyScopes.1 hscope
    obtain ⟨hif, hsaddr, hdaddr, ⟨sport, dport, hp, hport⟩, hreply⟩ :=
      (hmatches source protocol hauth).1 hall
    exact ⟨hreply, hif, hsaddr, protocol, sport, dport, hp, hport, source, hauth, hdaddr⟩
  · rintro ⟨hreply, hif, hsaddr, protocol, sport, dport, hp, hport, source, hauth, hdaddr⟩
    exact ⟨(source, protocol), mem_replyScopes.2 hauth, (hmatches source protocol hauth).2
      ⟨hif, hsaddr, hdaddr, ⟨sport, dport, hp, hport⟩, hreply⟩⟩

theorem not_management_iff (hp : p.transport = .ports protocol sport dport) :
    (¬ ∃ scope ∈ managementScopes, Match.holds p ⟨.port scope.2 .dport, .number scope.1⟩) ↔
      dport ∉ managementPortList := by
  refine not_congr ⟨?_, fun hmem => ?_⟩
  · rintro ⟨⟨port, protocol'⟩, hscope, hholds⟩
    obtain ⟨_, _, hp', hport⟩ := holds_dport.1 hholds
    rw [hp] at hp'
    cases hp'
    obtain ⟨port', hmem, hscope⟩ := List.mem_flatMap.1 hscope
    obtain ⟨_, -, hscope⟩ := List.mem_map.1 hscope
    cases hscope
    have hport : port = dport := by simpa [Value.holds] using hport
    exact hport ▸ hmem
  · refine ⟨(dport, protocol), List.mem_flatMap.2 ⟨dport, hmem, List.mem_map.2
      ⟨protocol, mem_protocols, rfl⟩⟩, holds_dport.2 ⟨sport, dport, hp, ?_⟩⟩
    simp [Value.holds]

theorem resolves_iff (hp : p.transport = .ports protocol sport dport) :
    (∃ scope ∈ policy.resolverScopes, Match.holds p ⟨.ip .daddr, .text scope.1⟩ ∧
      Match.holds p ⟨.port scope.2 .dport, .number 53⟩) ↔
      policy.egressIP ≠ "" ∧ dport = 53 ∧ ∃ resolver ∈ resolvers, parseAddr resolver = some p.daddr := by
  have hresolvers : ∀ resolver ∈ resolvers, (parseIPv4 resolver).isSome := by decide
  unfold resolverScopes
  by_cases hempty : policy.egressIP = ""
  · simp [hempty]
  rw [if_neg hempty]
  constructor
  · rintro ⟨⟨resolver, protocol'⟩, hscope, hdaddr, hport⟩
    obtain ⟨_, _, hp', hport⟩ := holds_dport.1 hport
    rw [hp] at hp'
    cases hp'
    obtain ⟨resolver', hmem, hscope⟩ := List.mem_flatMap.1 hscope
    obtain ⟨_, -, hscope⟩ := List.mem_map.1 hscope
    cases hscope
    have hport : 53 = dport := by simpa [Value.holds] using hport
    exact ⟨hempty, hport.symm, resolver, hmem, (holds_daddr (hresolvers resolver hmem)).1 hdaddr⟩
  · rintro ⟨-, rfl, resolver, hmem, hdaddr⟩
    exact ⟨(resolver, protocol), List.mem_flatMap.2 ⟨resolver, hmem, List.mem_map.2
      ⟨protocol, mem_protocols, rfl⟩⟩, (holds_daddr (hresolvers resolver hmem)).2 hdaddr,
      holds_dport.2 ⟨sport, 53, hp, rfl⟩⟩

/-- An exit with an IPv4 address, or none. -/
theorem egress4_iff (h : policy.Valid) (h4 : policy.is6 = false)
    (hp : p.transport = .ports protocol sport dport) :
    (∃ protocol ∈ protocols, (policy.egressMatches4 protocol).all (Match.holds p)) ↔
      (∃ s d, p.header = .ip s d) ∧
        (policy.egressIP ≠ "" → parseAddr policy.egressIP = some p.saddr) := by
  have hnfproto : Match.holds p ⟨.nfproto, .text "ipv4"⟩ ↔ ∃ s d, p.header = .ip s d := by
    cases hheader : p.header <;> simp [Match.holds, Selector.read, Value.holds, hheader]
  have hprotocol : ∀ protocol', Match.holds p ⟨.l4proto, .text protocol'.text⟩ ↔ protocol' = protocol := by
    intro protocol'
    rw [holds_l4proto, hp]
    simp [eq_comm]
  unfold egressMatches4
  by_cases hempty : policy.egressIP = ""
  · simp [hempty, hnfproto, hprotocol, mem_protocols]
  · -- A valid address that is not an IPv6 one is an IPv4 one.
    have hparse : (parseIPv4 policy.egressIP).isSome := by
      obtain ⟨a, ha⟩ := Option.isSome_iff_exists.1 (h.egressIP.resolve_left hempty)
      cases a with
      | v4 a => rw [parseAddr_eq_v4_iff.1 ha]; rfl
      | v6 a => simp [is6, ha] at h4
    simp [hempty, hnfproto, hprotocol, mem_protocols, holds_saddr hparse]

/-- An exit with an IPv6 address. -/
theorem egress6_iff (h6 : policy.is6) (hp : p.transport = .ports protocol sport dport) :
    ((¬ ∃ cidr ∈ blockedIPv6, Match.holds p ⟨.ip6 .daddr, subnetOf cidr⟩) ∧
      policy.egressMatches6.all (Match.holds p)) ↔
      publicIPv6 p.daddr ∧ protocol = .tcp ∧ parseAddr policy.egressIP = some p.saddr := by
  obtain ⟨e, he, he6⟩ : ∃ e, parseAddr policy.egressIP = some (.v6 e) ∧
      parseIPv6 policy.egressIP = some e := by
    unfold is6 at h6
    split at h6
    · rename_i e he
      refine ⟨e, he, ?_⟩
      unfold parseAddr at he
      split at he
      · cases he
      · simpa using he
    · cases h6
  have htcp : Match.holds p ⟨.l4proto, .text "tcp"⟩ ↔ protocol = .tcp := by
    rw [show "tcp" = Protocol.text .tcp from rfl, holds_l4proto, hp]
    simp
  have hnet : subnetOf "2000::/3" = .subnet "2000::" 3 := by decide
  rw [not_blocked6_iff]
  cases hheader : p.header with
  | ip s d =>
      simp [egressMatches6, Match.holds, Selector.read, hheader, Packet.daddr, publicIPv6]
  | ip6 s d =>
      have hdaddr : p.daddr = .v6 d := by simp [Packet.daddr, hheader]
      have hsaddr : p.saddr = .v6 s := by simp [Packet.saddr, hheader]
      have hglobal : Match.holds p ⟨.ip6 .daddr, .subnet "2000::" 3⟩ = inPrefix6 "2000::/3" d := by
        rw [← hnet, ← holds_subnet6 (by decide)]
        simp [Match.holds, Selector.read, hheader]
      have hsource : Match.holds p ⟨.ip6 .saddr, .text policy.egressIP⟩ ↔ e = s := by
        simp [Match.holds, Selector.read, Value.holds, hheader, he6]
      rw [hdaddr, hsaddr, he, publicIPv6_iff]
      simp only [egressMatches6, List.all_cons, List.all_nil, Bool.and_true, Bool.and_eq_true, hglobal,
        hsource, htcp, Option.some.injEq, Addr.v6.injEq, forall_eq']
      tauto

/-- What passes after the replies, for a packet with ports. -/
theorem mayLeave_iff (h : policy.Valid) (hp : p.transport = .ports protocol sport dport)
    {call : String → Outcome} :
    ((∀ a, p.daddr = .v4 a → publicIPv4 (.v4 a)) ∧ dport ∉ managementPortList ∧
      ((policy.egressIP ≠ "" ∧ dport = 53 ∧ ∃ resolver ∈ resolvers, parseAddr resolver = some p.daddr) ∨
        runRules call p (policy.egressRules ++ [[.drop]]) ≠ .drop)) ↔ policy.MayLeave p := by
  have hv4 : ∀ a, p.daddr = .v4 a → ((∀ a, p.daddr = .v4 a → publicIPv4 (.v4 a)) ↔ publicIP p.daddr) := by
    intro a ha
    simp [ha, publicIP, publicIPv6]
  have hleave : policy.MayLeave p ↔ publicIP p.daddr ∧ dport ∉ managementPortList ∧
      (policy.egressIP ≠ "" ∧ dport = 53 ∧ (∃ resolver ∈ resolvers, parseAddr resolver = some p.daddr) ∨
        policy.is6 ∧ protocol = .tcp ∧ parseAddr policy.egressIP = some p.saddr ∨
        policy.is6 = false ∧ (∃ s d, p.header = .ip s d) ∧
          (policy.egressIP ≠ "" → parseAddr policy.egressIP = some p.saddr)) := by
    simp [MayLeave, hp]
  -- The resolvers are IPv4 addresses, so an IPv6 destination is not one of them.
  have hresolver : ∀ d, p.daddr = .v6 d → ¬ ∃ resolver ∈ resolvers, parseAddr resolver = some p.daddr := by
    rintro d hd ⟨resolver, hmem, hparse⟩
    have hall : ∀ resolver ∈ resolvers, (parseIPv4 resolver).isSome := by decide
    obtain ⟨a, ha⟩ := Option.isSome_iff_exists.1 (hall resolver hmem)
    rw [parseAddr_eq_v4_iff.2 ha, hd] at hparse
    cases hparse
  rw [runRules_egress, hleave]
  cases hheader : p.header with
  | ip s d =>
      have hdaddr : p.daddr = .v4 d := by simp [Packet.daddr, hheader]
      rw [hv4 d hdaddr]
      cases h6 : policy.is6 with
      | true =>
          have hnot : ∀ e, parseAddr policy.egressIP = some (.v6 e) →
              parseAddr policy.egressIP ≠ some p.saddr := by
            intro e he hsaddr
            rw [he] at hsaddr
            simp [Packet.saddr, hheader] at hsaddr
          obtain ⟨e, he⟩ : ∃ e, parseAddr policy.egressIP = some (.v6 e) := by
            unfold is6 at h6
            split at h6
            · exact ⟨_, by assumption⟩
            · cases h6
          rw [if_pos rfl, egress6_iff h6 hp]
          simp [hnot e he]
      | false =>
          rw [if_neg (by decide), egress4_iff h h6 hp, hheader]
          simp
  | ip6 s d =>
      have hdaddr : p.daddr = .v6 d := by simp [Packet.daddr, hheader]
      have hpublic : publicIP p.daddr ↔ publicIPv6 p.daddr := by simp [publicIP, hdaddr, publicIPv4]
      have hfree : ∀ a, p.daddr = .v4 a → publicIPv4 (.v4 a) := fun a ha => by
        rw [hdaddr] at ha
        cases ha
      have hno := hresolver d hdaddr
      cases h6 : policy.is6 with
      | true =>
          rw [if_pos rfl, egress6_iff h6 hp, hpublic]
          simp only [hno, and_false, false_or, Bool.true_eq_false, false_and, or_false, true_and]
          tauto
      | false =>
          rw [if_neg (by decide), egress4_iff h h6 hp, hheader]
          simp [hno]

/-- Output of the service account: its replies, and what may leave. -/
theorem passes_output (h : policy.Valid) (howner : p.skuid = some policy.uid) :
    passes (policy.objects table marker) .output p ↔ policy.Answers p ∨ policy.MayLeave p := by
  have hone : policy.outputRules =
      [()].map fun _ => guarded [⟨.skuid, .number policy.uid⟩] (.jump "destinations") := rfl
  have howned : Match.holds p ⟨.skuid, .number policy.uid⟩ := by
    simp [Match.holds, Selector.read, Value.holds, howner]
  rw [passes_output_iff, hone, runRules_jumps]
  simp only [List.mem_singleton, List.all_cons, List.all_nil, howned, Bool.and_true, and_true,
    exists_const, forall_const]
  rw [runChain, chainRules_objects.2.2.2, runRules_destinations, answers_iff h, not_blocked4_iff]
  refine or_congr_right ?_
  cases hp : p.transport with
  | other n =>
      -- Without ports neither resolution nor an exit applies.
      have hno : ¬ policy.MayLeave p := by
        rintro ⟨-, _, _, _, hp', -⟩
        rw [hp] at hp'
        cases hp'
      have hdport : ∀ protocol value, ¬ Match.holds p ⟨.port protocol .dport, value⟩ := by
        intro protocol value hholds
        obtain ⟨_, _, hp', -⟩ := holds_dport.1 hholds
        rw [hp] at hp'
        cases hp'
      have hl4 : ∀ protocol, ¬ Match.holds p ⟨.l4proto, .text (Protocol.text protocol)⟩ := by
        intro protocol hholds
        obtain ⟨_, _, hp'⟩ := holds_l4proto.1 hholds
        rw [hp] at hp'
        cases hp'
      have hegress : ¬ runRules (runChain (policy.objects table marker) p 14) p
          (policy.egressRules ++ [[.drop]]) ≠ .drop := by
        rw [runRules_egress]
        have htcp := hl4 .tcp
        simp only [Protocol.text] at htcp
        cases policy.is6 <;> simp [egressMatches4, egressMatches6, hl4, htcp]
      simp [hno, hdport, hegress]
  | ports protocol sport dport =>
      rw [not_management_iff hp, resolves_iff hp]
      exact mayLeave_iff h hp

end Admitted

end ServerFirewall

/-- The filter of a valid policy admits exactly the authorised traffic. -/
theorem firewall_admits_authorised {policy : ServerFirewall} {u : Unit} (h : policy.validate = .ok u)
    (table marker : String) (p : Packet) :
    (∀ protocol, policy.ToService p protocol → (passes (policy.objects table marker) .input p ↔
      p.iifname = policy.interface ∧
        ∃ source, policy.Authorises source protocol ∧ parseAddr source = some p.saddr)) ∧
    ((∀ protocol, ¬ policy.ToService p protocol) → passes (policy.objects table marker) .input p) ∧
    (p.skuid = some policy.uid → (passes (policy.objects table marker) .output p ↔
      policy.Answers p ∨ policy.MayLeave p)) := by
  have hvalid := ServerFirewall.valid_of_validate h
  refine ⟨fun protocol hto => ?_, fun hnot => ?_, ServerFirewall.passes_output hvalid⟩
  · rw [ServerFirewall.passes_input hvalid]
    constructor
    · intro hpass
      obtain ⟨hif, source, protocol', hto', hauth, haddr⟩ := hpass ⟨protocol, hto⟩
      -- A packet has one protocol.
      obtain ⟨-, _, _, hp, -⟩ := hto
      obtain ⟨-, _, _, hp', -⟩ := hto'
      rw [hp] at hp'
      cases hp'
      exact ⟨hif, source, hauth, haddr⟩
    · rintro ⟨hif, source, hauth, haddr⟩ _
      exact ⟨hif, source, protocol, hto, hauth, haddr⟩
  · rw [ServerFirewall.passes_input hvalid]
    rintro ⟨protocol, hto⟩
    exact absurd hto (hnot protocol)

namespace Sample

def firewall : ServerFirewall where
  egressIP := ""
  revision := 1
  address := "100.64.0.7"
  sources := ["100.64.0.8"]
  tcpOnlySources := ["100.64.0.8"]
  interface := "tailscale0"
  uid := 990

/-- A connection of the authorised source to the service. -/
def request : Packet where
  iifname := "tailscale0"
  oifname := ""
  header := .ip ⟨0x64400008, by decide⟩ ⟨0x64400007, by decide⟩
  transport := .ports .tcp 40000 1080
  skuid := none
  reply := false

end Sample

/-- The authorised source reaches the service over tcp, and not over udp. -/
theorem firewall_admits_authorised_request :
    passes (Sample.firewall.objects "t" "m") .input Sample.request ∧
      ¬ passes (Sample.firewall.objects "t" "m") .input
        { Sample.request with transport := .ports .udp 40000 1100 } := by
  have hvalid : Sample.firewall.validate = .ok () := by decide +kernel
  constructor
  · refine ((firewall_admits_authorised hvalid "t" "m" Sample.request).1 .tcp
      ⟨by decide +kernel, 40000, 1080, rfl, rfl⟩).2 ⟨rfl, "100.64.0.8", ⟨?_, Or.inl rfl⟩, ?_⟩
    · decide
    · decide +kernel
  · intro hpass
    obtain ⟨-, source, ⟨hsource, hudp | honly⟩, -⟩ := ((firewall_admits_authorised hvalid "t" "m"
      { Sample.request with transport := .ports .udp 40000 1100 }).1 .udp
      ⟨by decide +kernel, 40000, 1100, rfl, rfl⟩).1 hpass
    · cases hudp
    · exact honly hsource

end Landing
end Vastora
