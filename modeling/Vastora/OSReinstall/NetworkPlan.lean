import Vastora.Library.Guard
import Vastora.Library.NetipText

/-!
# NetworkPlan — the declared network of a host and the files it is restored from

A plan has the policy of the primary interface and of up to seven others.  `renderStaticNetwork` checks it and
writes the udev rules, the interfaces file and the resolver settings.  The interfaces file is modelled line by
line: a `Line` is one line template of the renderer with the values of its slots.
-/

namespace Vastora
namespace OSReinstall

open Library Library.Guard Library.Netip Library.Pattern Library.Text

/-! ## Plans -/

structure StaticNetworkPlan where
  iface : String
  mac : String
  address : String
  gateway : String
  dns : List String
  search : List String
  resolver : String
  ipv6Autoconf : String
  ipv6AcceptRA : String
  ipv6 : List String
  gateway6 : String
  gatewayOnLink : Bool
  gateway6OnLink : Bool
  dhcp4 : Bool
  dynamicDNS : Bool
  dhcp6 : Bool
  directRoutes : List String
  mtu : Int
  additional : List StaticNetworkPlan

def networkError : String := "reinstall: network configuration requires review"

def planNICs (p : StaticNetworkPlan) : List StaticNetworkPlan := p :: p.additional

/-! ## Resolver settings -/

def isLabelChar (c : Char) : Bool :=
  ('a' ≤ c && c ≤ 'z') || ('A' ≤ c && c ≤ 'Z') || ('0' ≤ c && c ≤ '9') || c == '-'

def validSearchDomain (value : String) : Bool :=
  value.utf8ByteSize != 0 && value.utf8ByteSize ≤ 253 && !hasPrefix value "." && !hasSuffix value "." &&
    (value.toList.splitOn '.').all fun label =>
      !label.isEmpty && (String.ofList label).utf8ByteSize ≤ 63 && label.head? != some '-' &&
        label.getLast? != some '-' && label.all isLabelChar

/-- A name server is given by the canonical text of its address. -/
def nameserver (dns : List String) (value : String) : Option String :=
  (parseZonedAddr value).bind fun ip =>
    if !ip.isGlobalUnicast || ip.withoutZone.isLoopback || ip.withoutZone.isLinkLocalUnicast ||
      ip.text == "100.100.100.100" || ip.text == "fd7a:115c:a1e0::53" || dns.contains ip.text
    then none else some ip.text

/-- The words of a line before its comment. -/
def resolverFields (line : List Char) : List String :=
  (fields ((line.takeWhile (· != '#')).takeWhile (· != ';'))).map String.ofList

def resolverLine : List String × List String → List String → Option (List String × List String)
  | (dns, search), [] => some (dns, search)
  | (dns, search), "nameserver" :: values =>
      match values with
      | [value] => (nameserver dns value).map fun ip => (dns ++ [ip], search)
      | _ => none
  | (dns, search), "search" :: values =>
      if !search.isEmpty || values.isEmpty || !values.all validSearchDomain then none
      else some (dns, search ++ values)
  | _, _ => none

def resolverSettings (data : String) : Option (List String × List String) :=
  if data.utf8ByteSize == 0 || 64 * 1024 < data.utf8ByteSize then none
  else
    (((data.toList.splitOn '\n').map resolverFields).foldlM resolverLine ([], [])).filter
      fun (dns, search) => !dns.isEmpty && dns.length ≤ 8 && search.length ≤ 6

/-! ## Interfaces -/

/-- Two lower case hexadecimal digits. -/
def isMACByte (cs : List Char) : Bool := cs.length == 2 && cs.all fun c => (hexValue c).isSome

/-- The bytes of a hardware address in its canonical text; `validateNIC` refuses the other texts. -/
def parseMAC (s : String) : Option (List Nat) :=
  let bytes := s.toList.splitOn ':'
  if bytes.length == 6 && bytes.all isMACByte then some (bytes.map hexValueOf) else none

def isInterfaceChar (c : Char) : Bool :=
  ('a' ≤ c && c ≤ 'z') || ('A' ≤ c && c ≤ 'Z') || ('0' ≤ c && c ≤ '9') || c == '_' || c == '.' || c == ':' ||
    c == '-'

/-- `ifacePattern` -/
def ifacePattern (s : String) : Bool :=
  1 ≤ s.toList.length && s.toList.length ≤ 32 && s.toList.all isInterfaceChar

def validInterface (p : StaticNetworkPlan) : Bool :=
  ((parseMAC p.mac).any fun mac => mac.headD 0 % 2 == 0) && p.mac != "00:00:00:00:00:00" &&
    ifacePattern p.iface && !p.iface.toList.any (fun c => c == '.' || c == ':' || c == '/') &&
    p.iface != "lo" && (p.mtu == 0 || (1280 ≤ p.mtu && p.mtu ≤ 9000)) &&
    (p.ipv6AcceptRA == "" || p.ipv6AcceptRA == "0" || p.ipv6AcceptRA == "1" || p.ipv6AcceptRA == "2") &&
    p.ipv6.length ≤ 16

/-- A prefix in its canonical text. -/
def canonicalPrefix (accept : IPPrefix → Bool) (value : String) : Bool :=
  (parseIPPrefix value).any fun ip => accept ip && ip.text == value

def validAddress (p : StaticNetworkPlan) : Bool :=
  p.address == "" ||
    canonicalPrefix (fun ip => ip.addr.is4 && ip.zoned.isGlobalUnicast) p.address

def validGateway (p : StaticNetworkPlan) : Bool :=
  p.gateway == "" ||
    (parseZonedAddr p.gateway).any fun gw => gw.is4 && gw.isGlobalUnicast &&
      (parseIPPrefix p.address).any fun ip => ip.masked.contains gw || p.gatewayOnLink

/-- Each text once. -/
def distinct (values : List String) : Bool := decide values.Nodup

def validDirectRoutes (p : StaticNetworkPlan) : Bool :=
  p.directRoutes.all (fun value => (parseIPPrefix value).any fun ip =>
    ip.bits != 0 && ip.zoned.isGlobalUnicast && ip.masked.text == value) &&
  distinct p.directRoutes && p.directRoutes.length ≤ 16

def validIPv6 (p : StaticNetworkPlan) : Bool :=
  p.ipv6.all (canonicalPrefix fun ip => !ip.addr.is4 && ip.zoned.isGlobalUnicast) &&
    distinct p.ipv6

def validGateway6 (p : StaticNetworkPlan) : Bool :=
  p.gateway6 == "" ||
    (parseZonedAddr p.gateway6).any fun g =>
      !g.is4 && (g.isGlobalUnicast || g.withoutZone.isLinkLocalUnicast) && !p.ipv6.isEmpty &&
        (g.withoutZone.isLinkLocalUnicast ||
          p.ipv6.any (fun value => (parseIPPrefix value).any fun ip => ip.masked.contains g) ||
          p.gateway6OnLink)

def validateNIC (p : StaticNetworkPlan) (primary : Bool) : Bool :=
  validInterface p && validAddress p && !(primary && (p.address == "" || p.gateway == "")) &&
    validGateway p && validDirectRoutes p && validIPv6 p && validGateway6 p &&
    (p.ipv6Autoconf == "" || p.ipv6Autoconf == "0" || p.ipv6Autoconf == "1") &&
    !(p.dhcp6 && p.ipv6AcceptRA == "0")

/-! ## The interfaces file -/

inductive Family where
  | v4
  | v6
deriving DecidableEq

/-- The option of the `ip` command. -/
def Family.option : Family → String
  | v4 => "-4"
  | v6 => "-6"

/-- The line templates of the renderer and the values of their slots. -/
inductive Line where
  | source
  | blank
  | autoLoopback
  | loopback
  | mac (value : String)
  | auto (device : String)
  | inet (device method : String)
  | mtu (value : Int)
  | acceptRA (device value : String)
  | address (value : String)
  | defaultOnLink (family : Family) (via device : String)
  | gateway (value : String)
  | directRoute (family : Family) (destination device : String)
  | nameservers (values : List String)
  | search (values : List String)
  | inet6Static (device : String)
  | inet6Auto (device : String)
  | dhcp (value : String)
  | autoconf (device value : String)

/-- A piece of a line: fixed text or the value of a slot. -/
inductive Piece where
  | lit (text : String)
  | slot (value : String)

def Piece.chars : Piece → List Char
  | lit text => text.toList
  | slot value => value.toList

namespace Line

def pieces : Line → List Piece
  | source => [.lit "source /etc/network/interfaces.d/*"]
  | blank => []
  | autoLoopback => [.lit "auto lo"]
  | loopback => [.lit "iface lo inet loopback"]
  | mac value => [.lit "# mac ", .slot value]
  | auto device => [.lit "auto ", .slot device]
  | inet device method => [.lit "iface ", .slot device, .lit " inet ", .slot method]
  | mtu value => [.lit "    mtu ", .slot (toString value)]
  | acceptRA device value =>
      [.lit "    pre-up /sbin/sysctl -q -w net.ipv6.conf.", .slot device, .lit ".accept_ra=", .slot value]
  | address value => [.lit "    address ", .slot value]
  | defaultOnLink family via device =>
      [.lit "    up /sbin/ip ", .lit family.option, .lit " route replace default via ", .slot via,
        .lit " dev ", .slot device, .lit " onlink"]
  | gateway value => [.lit "    gateway ", .slot value]
  | directRoute family destination device =>
      [.lit "    up /sbin/ip ", .lit family.option, .lit " route replace ", .slot destination,
        .lit " dev ", .slot device]
  | nameservers values => .lit "    dns-nameservers " :: (values.map .slot).intersperse (.lit " ")
  | search values => .lit "    dns-search " :: (values.map .slot).intersperse (.lit " ")
  | inet6Static device => [.lit "iface ", .slot device, .lit " inet6 static"]
  | inet6Auto device => [.lit "iface ", .slot device, .lit " inet6 auto"]
  | dhcp value => [.lit "    dhcp ", .slot value]
  | autoconf device value =>
      [.lit "    post-up /sbin/sysctl -q -w net.ipv6.conf.", .slot device, .lit ".autoconf=", .slot value]

def chars (line : Line) : List Char := line.pieces.flatMap Piece.chars

end Line

def method (n : StaticNetworkPlan) : String :=
  if n.dhcp4 then "dhcp" else if n.address == "" then "manual" else "static"

def acceptRA (n : StaticNetworkPlan) : String := if n.ipv6AcceptRA == "" then "0" else n.ipv6AcceptRA

/-- The line of a gateway, which is a route of its own when it is on the link. -/
def gatewayLines (family : Family) (via : String) (onLink : Bool) (device : String) : List Line :=
  if via == "" then []
  else if onLink then [.defaultOnLink family via device] else [.gateway via]

def directRouteLine (n : StaticNetworkPlan) (destination : String) : Line :=
  .directRoute (if (parseIPPrefix destination).any (·.addr.is4) then .v4 else .v6) destination n.iface

/-- The gateway stands with the first address. -/
def ipv6Lines (n : StaticNetworkPlan) : List Line :=
  match n.ipv6 with
  | [] => []
  | first :: rest =>
      [.inet6Static n.iface, .address first] ++
        gatewayLines .v6 n.gateway6 n.gateway6OnLink n.iface ++
        rest.flatMap fun value => [.inet6Static n.iface, .address value]

def resolverLines (p : StaticNetworkPlan) : List Line :=
  .nameservers p.dns :: (if p.search.isEmpty then [] else [.search p.search])

def headLines (n : StaticNetworkPlan) : List Line :=
  let mtu : List Line := if n.mtu != 0 then [.mtu n.mtu] else []
  .blank :: .mac n.mac :: .auto n.iface :: .inet n.iface (method n) ::
    (mtu ++ [Line.acceptRA n.iface (acceptRA n)])

def addressLines (n : StaticNetworkPlan) : List Line :=
  if !n.dhcp4 && n.address != "" then
    .address n.address :: gatewayLines .v4 n.gateway n.gatewayOnLink n.iface
  else []

def dynamicLines (n : StaticNetworkPlan) : List Line :=
  let auto : List Line :=
    if acceptRA n != "0" then [.inet6Auto n.iface, .dhcp (if n.dhcp6 then "1" else "0")] else []
  let autoconf : List Line :=
    if n.ipv6Autoconf != "" then [.autoconf n.iface n.ipv6Autoconf] else []
  auto ++ autoconf

def nicLines (p : StaticNetworkPlan) (primary : Bool) (n : StaticNetworkPlan) : List Line :=
  headLines n ++ addressLines n ++ n.directRoutes.map (directRouteLine n) ++
    (if primary && !p.dynamicDNS then resolverLines p else []) ++ ipv6Lines n ++ dynamicLines n

def configLines (p : StaticNetworkPlan) : List Line :=
  .source :: .blank :: .autoLoopback :: .loopback ::
    (nicLines p true p ++ p.additional.flatMap (nicLines p false))

def interfacesText (p : StaticNetworkPlan) : String :=
  String.ofList ((configLines p).flatMap fun line => line.chars ++ ['\n'])

/-- The rule that binds an interface by its hardware address. -/
def linkRule (n : StaticNetworkPlan) : String :=
  "SUBSYSTEM==\"net\", ACTION==\"add\", ATTR\x7baddress\x7d==\"" ++ n.mac ++ "\", NAME=\"" ++ n.iface ++
    "\"\n"

/-- The checks of the interfaces, the primary one first. -/
def checkNICs (primary : Bool) (seenNames seenMAC : List String) : List StaticNetworkPlan → Bool
  | [] => true
  | n :: rest =>
      validateNIC n primary &&
        (primary || (n.additional.isEmpty && n.dns.isEmpty && n.resolver == "")) &&
        !seenNames.contains n.iface && !seenMAC.contains n.mac &&
        checkNICs false (n.iface :: seenNames) (n.mac :: seenMAC) rest

def renderStaticNetwork (p : StaticNetworkPlan) : Except String (String × String × String) := do
  let (dns, search) ← fetch (resolverSettings p.resolver) networkError
  require (dns == p.dns && search == p.search && p.additional.length ≤ 7) networkError
  require (checkNICs true [] [] (planNICs p)) networkError
  return ("".intercalate ((planNICs p).map linkRule), interfacesText p, p.resolver)

end OSReinstall
end Vastora
