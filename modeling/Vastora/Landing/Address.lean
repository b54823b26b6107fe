import Vastora.Library.Netip

/-!
# Address — which addresses the landing service accepts

`blockedIPv4` and `blockedIPv6` are never destinations of a landing exit; tailnet addresses are those of
`100.64.0.0/10`.  Texts are compared with the canonical text of the address they name.
-/

namespace Vastora
namespace Landing

open Library.Netip

def blockedIPv4 : List String :=
  ["0.0.0.0/8", "10.0.0.0/8", "100.64.0.0/10", "127.0.0.0/8", "169.254.0.0/16", "172.16.0.0/12",
    "192.0.0.0/24", "192.0.2.0/24", "192.88.99.0/24", "192.168.0.0/16", "198.18.0.0/15",
    "198.51.100.0/24", "203.0.113.0/24", "224.0.0.0/4", "240.0.0.0/4"]

def blockedIPv6 : List String := ["2001::/23", "2001:db8::/32", "2002::/16", "3fff::/20"]

/-- `netip.MustParsePrefix(value).Contains(address)`. -/
def inPrefix4 (value : String) (a : IPv4) : Bool := (parsePrefix parseIPv4 value).any (·.contains a)

def inPrefix6 (value : String) (a : IPv6) : Bool := (parsePrefix parseIPv6 value).any (·.contains a)

/-- `IsGlobalUnicast` of an IPv4 address. -/
def isGlobalUnicast4 (a : IPv4) : Bool :=
  a.val != 0 && a.val != 2 ^ 32 - 1 && a.val / 2 ^ 24 != 127 && a.val / 2 ^ 28 != 14 &&
    a.val / 2 ^ 16 != 169 * 256 + 254

/-- `IsPrivate` of an IPv4 address. -/
def isPrivate4 (a : IPv4) : Bool :=
  a.val / 2 ^ 24 == 10 || a.val / 2 ^ 20 == 172 * 16 + 1 || a.val / 2 ^ 16 == 192 * 256 + 168

def publicIPv4 : Addr → Bool
  | .v4 a => isGlobalUnicast4 a && blockedIPv4.all fun value => !inPrefix4 value a
  | .v6 _ => false

def publicIPv6 : Addr → Bool
  | .v4 _ => false
  | .v6 a => !mapped.contains a && inPrefix6 "2000::/3" a &&
      blockedIPv6.all fun value => !inPrefix6 value a

def publicIP (a : Addr) : Bool := publicIPv4 a || publicIPv6 a

def validEgressIP (value : String) : Bool :=
  (parseAddr value).any fun
    | .v4 a => publicIP (.v4 a) || isPrivate4 a
    | .v6 a => publicIP (.v6 a)

def tailnetIPv4 (value : String) : Bool := (parseIPv4 value).any (inPrefix4 "100.64.0.0/10")

example : tailnetIPv4 "100.100.0.7" = true := by decide

example : validEgressIP "2a01:4f8::1" = true ∧ validEgressIP "100.64.0.1" = false := by decide

end Landing
end Vastora
