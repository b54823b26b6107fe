import Mathlib.Tactic.Ring

/-!
# Netip — network addresses, prefixes and their canonical texts

Addresses are numbers below `2 ^ 32` and `2 ^ 128`.  `parseAddr` reads the canonical text of an address
and no other, so that the text of an address and the address determine each other; addresses with a
zone and IPv4-mapped IPv6 addresses are not read.
-/

namespace Vastora
namespace Library
namespace Netip

abbrev IPv4 := Fin (2 ^ 32)

abbrev IPv6 := Fin (2 ^ 128)

inductive Addr where
  | v4 (a : IPv4)
  | v6 (a : IPv6)
deriving DecidableEq

/-- The addresses of `w` bits that share their first `len` bits with `addr`. -/
structure Prefix (w : Nat) where
  addr : Fin (2 ^ w)
  len : Nat
deriving DecidableEq

def Prefix.contains {w : Nat} (p : Prefix w) (a : Fin (2 ^ w)) : Bool :=
  a.val / 2 ^ (w - p.len) == p.addr.val / 2 ^ (w - p.len)

/-! ## Texts -/

def decimal (cs : List Char) : Nat := cs.foldl (fun n c => 10 * n + (c.toNat - '0'.toNat)) 0

/-- A decimal number without sign and leading zeros. -/
def parseDecimal (cs : List Char) : Option Nat :=
  if !cs.isEmpty && cs.all Char.isDigit && (cs.length == 1 || cs.head? != some '0') then
    some (decimal cs)
  else none

def parseOctet (cs : List Char) : Option Nat := (parseDecimal cs).filter (· < 256)

def parseIPv4 (s : String) : Option IPv4 :=
  match s.toList.splitOn '.' with
  | [a, b, c, d] => do
      let a ← parseOctet a
      let b ← parseOctet b
      let c ← parseOctet c
      let d ← parseOctet d
      some (Fin.ofNat _ (((a * 256 + b) * 256 + c) * 256 + d))
  | _ => none

/-- The eight groups of an address, the first one first. -/
def groups (a : IPv6) : List Nat := (List.range 8).map fun i => a.val / 65536 ^ (7 - i) % 65536

/-- Start and length of the first longest run of at least two zero groups; length `0` if there is
none. -/
def zeroRun (gs : List Nat) : Nat × Nat :=
  (List.range gs.length).foldl (fun best i =>
    let len := ((gs.drop i).takeWhile (· == 0)).length
    if 2 ≤ len ∧ best.2 < len then (i, len) else best) (0, 0)

def formatGroups (gs : List Nat) : List Char := [':'].intercalate (gs.map (Nat.toDigits 16))

def formatIPv6 (a : IPv6) : String :=
  let gs := groups a
  let run := zeroRun gs
  String.ofList (if run.2 = 0 then formatGroups gs
    else formatGroups (gs.take run.1) ++ ':' :: ':' :: formatGroups (gs.drop (run.1 + run.2)))

def hexValue (c : Char) : Option Nat :=
  if c.isDigit then some (c.toNat - '0'.toNat)
  else if 'a' ≤ c ∧ c ≤ 'f' then some (c.toNat - 'a'.toNat + 10)
  else none

def parseGroup (cs : List Char) : Option Nat :=
  if 1 ≤ cs.length ∧ cs.length ≤ 4 then
    (cs.mapM hexValue).map fun ds => ds.foldl (fun n d => 16 * n + d) 0
  else none

def parseGroups (cs : List Char) : Option (List Nat) :=
  if cs.isEmpty then some [] else (cs.splitOn ':').mapM parseGroup

/-- What stands before and after the first `::`. -/
def splitDouble : List Char → Option (List Char × List Char)
  | ':' :: ':' :: cs => some ([], cs)
  | c :: cs => (splitDouble cs).map fun (l, r) => (c :: l, r)
  | [] => none

/-- The prefix `::ffff:0:0/96` of the IPv4-mapped addresses. -/
def mapped : Prefix 128 := ⟨Fin.ofNat _ (65535 * 65536 ^ 2), 96⟩

def parseIPv6 (s : String) : Option IPv6 := do
  let gs ← match splitDouble s.toList with
    | some (l, r) => do
        let l ← parseGroups l
        let r ← parseGroups r
        some (l ++ List.replicate (8 - (l.length + r.length)) 0 ++ r)
    | none => parseGroups s.toList
  let a : IPv6 := Fin.ofNat _ (gs.foldl (fun n g => 65536 * n + g) 0)
  if gs.length = 8 ∧ formatIPv6 a = s ∧ mapped.contains a = false then some a else none

def parseAddr (s : String) : Option Addr :=
  match parseIPv4 s with
  | some a => some (.v4 a)
  | none => (parseIPv6 s).map .v6

/-- A prefix written as an address, `/` and a length. -/
def parsePrefix {w : Nat} (parse : String → Option (Fin (2 ^ w))) (s : String) : Option (Prefix w) :=
  match s.toList.splitOn '/' with
  | [a, len] => do
      let a ← parse (String.ofList a)
      let len ← parseDecimal len
      if len ≤ w then some ⟨a, len⟩ else none
  | _ => none

/-- The address of a number, less the bits that an address has no room for. -/
def ipv4OfNat (n : Nat) : IPv4 := Fin.ofNat _ n

def ipv6OfNat (n : Nat) : IPv6 := Fin.ofNat _ n

example : parseAddr "2001:db8::1:0:0:1" =
    some (.v6 (Fin.ofNat _ 0x20010db8000000000001000000000001)) := by decide

example : parseAddr "2001:db8:0:0:1::1" = none := by decide

example : parsePrefix parseIPv4 "100.64.0.0/10" = some ⟨Fin.ofNat _ 0x64400000, 10⟩ := by decide

end Netip
end Library
end Vastora
