import Vastora.Library.Netip

/-!
# Nftables — chains of packet filter rules

A ruleset is a list of objects: chains, some of them attached to a hook with a policy, and rules, each
a list of statements in a chain.  A rule stops at its first match that fails; a jump runs another chain
and comes back behind the rule when that chain ends or returns; a base chain that is not decided by a
rule is decided by its policy.  A match on a payload protocol implies that protocol.
-/

namespace Vastora
namespace Library
namespace Nftables

open Netip

/-! ## Packets -/

inductive Protocol where
  | tcp | udp
deriving DecidableEq, Repr

def Protocol.text : Protocol → String
  | .tcp => "tcp"
  | .udp => "udp"

inductive Transport where
  | ports (protocol : Protocol) (sport dport : Nat)
  | other (number : Nat)
deriving DecidableEq, Repr

inductive Header where
  | ip (saddr daddr : IPv4)
  | ip6 (saddr daddr : IPv6)
deriving DecidableEq

structure Packet where
  iifname : String
  oifname : String
  header : Header
  transport : Transport
  /-- The owner of the local socket. -/
  skuid : Option Nat
  /-- The packet goes against the direction of its connection. -/
  reply : Bool

def Packet.saddr (p : Packet) : Addr :=
  match p.header with
  | .ip s _ => .v4 s
  | .ip6 s _ => .v6 s

def Packet.daddr (p : Packet) : Addr :=
  match p.header with
  | .ip _ d => .v4 d
  | .ip6 _ d => .v6 d

/-! ## Matches -/

inductive Direction where
  | saddr | daddr
deriving DecidableEq, Repr

inductive PortField where
  | sport | dport
deriving DecidableEq, Repr

/-- The left side of a match. -/
inductive Selector where
  | ip (field : Direction)
  | ip6 (field : Direction)
  | port (protocol : Protocol) (field : PortField)
  | iifname | oifname | skuid | l4proto | nfproto
  | ctDirection
deriving DecidableEq, Repr

/-- The right side of a match. -/
inductive Value where
  | text (s : String)
  | number (n : Nat)
  | range (first last : Nat)
  | subnet (addr : String) (len : Nat)
deriving DecidableEq, Repr

/-- What a selector finds in a packet. -/
inductive Datum where
  | ip (a : IPv4)
  | ip6 (a : IPv6)
  | number (n : Nat)
  | ifname (s : String)
  | word (s : String)

def Selector.read (p : Packet) : Selector → Option Datum
  | .ip field =>
      match p.header, field with
      | .ip s _, .saddr => some (.ip s)
      | .ip _ d, .daddr => some (.ip d)
      | .ip6 _ _, _ => none
  | .ip6 field =>
      match p.header, field with
      | .ip6 s _, .saddr => some (.ip6 s)
      | .ip6 _ d, .daddr => some (.ip6 d)
      | .ip _ _, _ => none
  | .port protocol field =>
      match p.transport, field with
      | .ports protocol' sport _, .sport => if protocol = protocol' then some (.number sport) else none
      | .ports protocol' _ dport, .dport => if protocol = protocol' then some (.number dport) else none
      | .other _, _ => none
  | .iifname => some (.ifname p.iifname)
  | .oifname => some (.ifname p.oifname)
  | .skuid => p.skuid.map .number
  | .l4proto =>
      match p.transport with
      | .ports protocol _ _ => some (.word protocol.text)
      | .other number => some (.number number)
  | .nfproto =>
      match p.header with
      | .ip _ _ => some (.word "ipv4")
      | .ip6 _ _ => some (.word "ipv6")
  | .ctDirection => some (.word (if p.reply then "reply" else "original"))

/-- An interface name; a pattern that ends in `*` stands for every name that starts like it. -/
def ifnameMatches (pattern name : String) : Bool :=
  if pattern.toList.getLast? = some '*' then pattern.toList.dropLast.isPrefixOf name.toList
  else pattern == name

def Value.holds : Value → Datum → Bool
  | .text s, .ip a => parseIPv4 s == some a
  | .text s, .ip6 a => parseIPv6 s == some a
  | .text s, .ifname name => ifnameMatches s name
  | .text s, .word w => s == w
  | .number n, .number m => n == m
  | .range first last, .number n => first ≤ n && n ≤ last
  | .subnet addr len, .ip a => (parseIPv4 addr).any fun b => (⟨b, len⟩ : Prefix 32).contains a
  | .subnet addr len, .ip6 a => (parseIPv6 addr).any fun b => (⟨b, len⟩ : Prefix 128).contains a
  | _, _ => false

/-- `left == right`. -/
structure Match where
  left : Selector
  right : Value
deriving DecidableEq, Repr

def Match.holds (p : Packet) (m : Match) : Bool := (m.left.read p).any m.right.holds

/-! ## Rules and chains -/

inductive Statement where
  | matches (m : Match)
  | jump (target : String)
  | ret | drop
deriving DecidableEq, Repr

inductive Hook where
  | input | output
deriving DecidableEq, Repr

inductive Object where
  | table (name comment : String)
  | base (name : String) (hook : Hook) (prio : Int) (accept : Bool)
  | chain (name : String)
  | rule (chain : String) (expr : List Statement)
deriving DecidableEq, Repr

/-- What a rule or a chain does: nothing so far, return to the caller, or drop the packet. -/
inductive Outcome where
  | next | ret | drop
deriving DecidableEq, Repr

def runExpr (call : String → Outcome) (p : Packet) : List Statement → Outcome
  | [] => .next
  | .matches m :: expr => if m.holds p then runExpr call p expr else .next
  | .jump target :: _ => if call target = .drop then .drop else .next
  | .ret :: _ => .ret
  | .drop :: _ => .drop

def runRules (call : String → Outcome) (p : Packet) : List (List Statement) → Outcome
  | [] => .next
  | expr :: rules =>
      match runExpr call p expr with
      | .next => runRules call p rules
      | outcome => outcome

def chainRules (objects : List Object) (chain : String) : List (List Statement) :=
  objects.filterMap fun
    | .rule chain' expr => if chain' = chain then some expr else none
    | _ => none

/-- A chain with at most `depth` nested jumps; deeper rulesets are not loaded. -/
def runChain (objects : List Object) (p : Packet) : Nat → String → Outcome
  | 0, _ => .drop
  | depth + 1, chain => runRules (runChain objects p depth) p (chainRules objects chain)

/-- The nesting that is accepted. -/
def jumpDepth : Nat := 16

/-- Every base chain of the hook lets the packet pass. -/
def passes (objects : List Object) (hook : Hook) (p : Packet) : Bool :=
  objects.all fun
    | .base name hook' _ accept =>
        hook' != hook || (accept && runChain objects p jumpDepth name != .drop)
    | _ => true

/-! ## Guarded actions -/

/-- Matches and then one action. -/
def guarded (conds : List Match) (action : Statement) : List Statement :=
  conds.map .matches ++ [action]

section Evaluation

variable {call : String → Outcome} {p : Packet} {conds : List Match} {action : Statement}
  {rules rules' : List (List Statement)} {ι : Type*}

theorem runExpr_guarded : runExpr call p (guarded conds action) =
    if conds.all (Match.holds p) then runExpr call p [action] else .next := by
  induction conds with
  | nil => rfl
  | cons m conds ih =>
      have hstep : guarded (m :: conds) action = .matches m :: guarded conds action := rfl
      rw [hstep, runExpr, ih, List.all_cons]
      cases m.holds p <;> simp

theorem runRules_append : runRules call p (rules ++ rules') =
    if runRules call p rules = .next then runRules call p rules' else runRules call p rules := by
  induction rules with
  | nil => rfl
  | cons expr rules ih =>
      rw [List.cons_append, runRules, runRules]
      cases h : runExpr call p expr with
      | next => simpa using ih
      | ret => simp
      | drop => simp

theorem runRules_cons_guarded : runRules call p (guarded conds action :: rules) =
    if conds.all (Match.holds p) ∧ runExpr call p [action] ≠ .next then runExpr call p [action]
    else runRules call p rules := by
  rw [runRules, runExpr_guarded]
  by_cases h : conds.all (Match.holds p)
  · rw [if_pos h]
    cases haction : runExpr call p [action] <;> simp [h]
  · rw [if_neg h]
    simp [h]

/-- A family of rules with one action acts when one of them applies. -/
theorem runRules_family {items : List ι} {conds : ι → List Match} (h : runExpr call p [action] ≠ .next) :
    runRules call p (items.map fun i => guarded (conds i) action) =
      if items.any fun i => (conds i).all (Match.holds p) then runExpr call p [action] else .next := by
  induction items with
  | nil => rfl
  | cons i items ih =>
      rw [List.map_cons, runRules_cons_guarded, ih, List.any_cons]
      cases (conds i).all (Match.holds p) <;> simp [h]

/-- Rules that return for some packets and leave the rest to other rules. -/
theorem runRules_returns {items : List ι} {conds : ι → List Match} :
    runRules call p ((items.map fun i => guarded (conds i) .ret) ++ rules) ≠ .drop ↔
      (∃ i ∈ items, (conds i).all (Match.holds p)) ∨ runRules call p rules ≠ .drop := by
  have hret : runExpr call p [.ret] = .ret := rfl
  rw [runRules_append, runRules_family (by rw [hret]; decide), hret, ← List.any_eq_true]
  cases items.any fun i => (conds i).all (Match.holds p) <;> simp

/-- Rules that drop some packets and leave the rest to other rules. -/
theorem runRules_drops {items : List ι} {conds : ι → List Match} :
    runRules call p ((items.map fun i => guarded (conds i) .drop) ++ rules) ≠ .drop ↔
      (¬ ∃ i ∈ items, (conds i).all (Match.holds p)) ∧ runRules call p rules ≠ .drop := by
  have hdrop : runExpr call p [.drop] = .drop := rfl
  rw [runRules_append, runRules_family (by rw [hdrop]; decide), hdrop, ← List.any_eq_true]
  cases items.any fun i => (conds i).all (Match.holds p) <;> simp

/-- Rules that send some packets through another chain. -/
theorem runRules_jumps {items : List ι} {conds : ι → List Match} {target : String} :
    runRules call p (items.map fun i => guarded (conds i) (.jump target)) ≠ .drop ↔
      ((∃ i ∈ items, (conds i).all (Match.holds p)) → call target ≠ .drop) := by
  by_cases hcall : call target = .drop
  · have hjump : runExpr call p [.jump target] = .drop := by rw [runExpr, if_pos hcall]
    rw [runRules_family (by rw [hjump]; decide), hjump, ← List.any_eq_true]
    cases items.any fun i => (conds i).all (Match.holds p) <;> simp [hcall]
  · have hjump : runExpr call p [.jump target] = .next := by rw [runExpr, if_neg hcall]
    have hnext : runRules call p (items.map fun i => guarded (conds i) (.jump target)) = .next := by
      induction items with
      | nil => rfl
      | cons i items ih =>
          rw [List.map_cons, runRules_cons_guarded, hjump, if_neg (by simp), ih]
    simp [hnext, hcall]

theorem runRules_last : runRules call p [[.drop]] = .drop := rfl

end Evaluation

end Nftables
end Library
end Vastora
