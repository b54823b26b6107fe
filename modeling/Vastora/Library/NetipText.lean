import Vastora.Library.Netip
import Vastora.Library.Text

/-!
# NetipText — addresses and prefixes in all the texts that Go's `netip` reads

`ParseAddr` reads more than the canonical text of an address: upper case digits, an IPv4 tail, zeros that are
written out, and a zone, which is any text after a `%`.  `ZonedAddr.text` and `IPPrefix.text` write the
canonical text.  A prefix has no zone.
-/

namespace Vastora
namespace Library
namespace Netip

open Pattern

/-! ## Addresses -/

inductive ZonedAddr where
  | v4 (a : IPv4)
  | v6 (a : IPv6) (zone : String)
deriving DecidableEq

def hexDigit? (c : Char) : Option Nat :=
  if '0' ≤ c ∧ c ≤ '9' then some (c.toNat - '0'.toNat)
  else if 'a' ≤ c ∧ c ≤ 'f' then some (c.toNat - 'a'.toNat + 10)
  else if 'A' ≤ c ∧ c ≤ 'F' then some (c.toNat - 'A'.toNat + 10)
  else none

def hexValueOf (cs : List Char) : Nat := cs.foldl (fun n c => 16 * n + (hexDigit? c).getD 0) 0

/-- The loop of `parseIPv6`: the groups that were read, and how many of them stand before `::`.  The number
of groups that may still come is its fuel. -/
def parseFields : Nat → List Nat → Option Nat → List Char → Option (List Nat × Option Nat)
  | 0, _, _, _ => none
  | room + 1, groups, ellipsis, cs =>
      let digits := cs.takeWhile fun c => (hexDigit? c).isSome
      let groups' := groups ++ [hexValueOf digits]
      if digits.length = 0 ∨ 4 < digits.length then none
      else
        match cs.dropWhile fun c => (hexDigit? c).isSome with
        | [] => some (groups', ellipsis)
        | '.' :: _ =>
            -- The rest is an IPv4 address in the place of the last two groups.
            if (ellipsis.isNone && groups.length != 6) || 6 < groups.length then none
            else (parseIPv4 (String.ofList cs)).map fun a =>
              (groups ++ [a.val / 65536, a.val % 65536], ellipsis)
        | ':' :: ':' :: rest =>
            if ellipsis.isSome then none
            else if rest.isEmpty then some (groups', some groups'.length)
            else parseFields room groups' (some groups'.length) rest
        | ':' :: c :: rest => parseFields room groups' ellipsis (c :: rest)
        | _ => none

/-- The eight groups, with zeros in the place of `::`. -/
def expand : List Nat × Option Nat → Option (List Nat)
  | (groups, none) => if groups.length = 8 then some groups else none
  | (groups, some at') =>
      if groups.length < 8 then
        some (groups.take at' ++ List.replicate (8 - groups.length) 0 ++ groups.drop at')
      else none

def parseGroups6 : List Char → Option (List Nat)
  | [':', ':'] => some (List.replicate 8 0)
  | ':' :: ':' :: rest => (parseFields 8 [] (some 0) rest).bind expand
  | cs => (parseFields 8 [] none cs).bind expand

def ofGroups (groups : List Nat) : IPv6 := ipv6OfNat (groups.foldl (fun n g => 65536 * n + g) 0)

/-- `parseIPv6`; what follows the first `%` is the zone. -/
def parseZoned6 (cs : List Char) : Option ZonedAddr :=
  let address := cs.takeWhile (· != '%')
  match cs.dropWhile (· != '%') with
  | [] => (parseGroups6 address).map fun groups => .v6 (ofGroups groups) ""
  | _ :: zone =>
      if zone.isEmpty then none
      else (parseGroups6 address).map fun groups => .v6 (ofGroups groups) (String.ofList zone)

/-- `netip.ParseAddr`: the first `.`, `:` or `%` decides. -/
def parseZonedAddr (s : String) : Option ZonedAddr :=
  match s.toList.find? fun c => c == '.' || c == ':' || c == '%' with
  | some '.' => (parseIPv4 s).map .v4
  | some ':' => parseZoned6 s.toList
  | _ => none

def formatIPv4 (a : IPv4) : String :=
  String.ofList (['.'].intercalate ([a.val / 2 ^ 24, a.val / 2 ^ 16 % 256, a.val / 2 ^ 8 % 256, a.val % 256].map
    (Nat.toDigits 10)))

/-- The IPv4 address of an IPv4-mapped address. -/
def unmap (a : IPv6) : Option IPv4 := if mapped.contains a then some (ipv4OfNat a.val) else none

def formatAddr : Addr → String
  | .v4 a => formatIPv4 a
  | .v6 a =>
      match unmap a with
      | some a => "::ffff:" ++ formatIPv4 a
      | none => formatIPv6 a

namespace ZonedAddr

def withoutZone : ZonedAddr → Addr
  | v4 a => .v4 a
  | v6 a _ => .v6 a

/-- `Addr.String`. -/
def text : ZonedAddr → String
  | v4 a => formatAddr (.v4 a)
  | v6 a zone => formatAddr (.v6 a) ++ (if zone = "" then "" else "%" ++ zone)

def is4 : ZonedAddr → Bool
  | v4 _ => true
  | v6 _ _ => false

def bitLen : ZonedAddr → Nat
  | v4 _ => 32
  | v6 _ _ => 128

end ZonedAddr

namespace Addr

def is4 : Addr → Bool
  | v4 _ => true
  | v6 _ => false

/-- The classes of an IPv4-mapped address are those of its IPv4 address. -/
def unmapped : Addr → Addr
  | v4 a => .v4 a
  | v6 a => ((Netip.unmap a).map Addr.v4).getD (.v6 a)

def isLoopback (a : Addr) : Bool :=
  match a.unmapped with
  | v4 a => a.val / 2 ^ 24 == 127
  | v6 a => a.val == 1

def isMulticast (a : Addr) : Bool :=
  match a.unmapped with
  | v4 a => a.val / 2 ^ 28 == 0xe
  | v6 a => a.val / 2 ^ 120 == 0xff

def isLinkLocalUnicast (a : Addr) : Bool :=
  match a.unmapped with
  | v4 a => a.val / 2 ^ 16 == 0xa9fe
  | v6 a => a.val / 2 ^ 118 == 0x3fa

end Addr

def ZonedAddr.zone : ZonedAddr → String
  | v4 _ => ""
  | v6 _ zone => zone

/-- `Addr.IsGlobalUnicast`; the unspecified IPv6 address is compared with its zone. -/
def ZonedAddr.isGlobalUnicast (a : ZonedAddr) : Bool :=
  (match a.withoutZone.unmapped with
    | .v4 b => b.val != 0 && b.val != 2 ^ 32 - 1
    | .v6 b => !(b.val == 0 && a.zone == "")) &&
  !a.withoutZone.isLoopback && !a.withoutZone.isMulticast && !a.withoutZone.isLinkLocalUnicast

/-! ## Prefixes -/

structure IPPrefix where
  addr : Addr
  bits : Nat
deriving DecidableEq

def lastSlash (cs : List Char) : Option (List Char × List Char) :=
  match cs.reverse.dropWhile (· != '/') with
  | [] => none
  | _ :: before => some (before.reverse, (cs.reverse.takeWhile (· != '/')).reverse)

/-- `netip.ParsePrefix`; a zone is an error. -/
def parseIPPrefix (s : String) : Option IPPrefix := do
  let (address, bits) ← lastSlash s.toList
  let addr ← parseZonedAddr (String.ofList address)
  let bits ← parseDecimal bits
  match addr with
  | .v4 a => if bits ≤ 32 then some ⟨.v4 a, bits⟩ else none
  | .v6 a zone => if zone = "" ∧ bits ≤ 128 then some ⟨.v6 a, bits⟩ else none

namespace IPPrefix

def text (p : IPPrefix) : String := formatAddr p.addr ++ "/" ++ String.ofList (Nat.toDigits 10 p.bits)

def masked (p : IPPrefix) : IPPrefix :=
  match p.addr with
  | .v4 a => ⟨.v4 (ipv4OfNat (a.val / 2 ^ (32 - p.bits) * 2 ^ (32 - p.bits))), p.bits⟩
  | .v6 a => ⟨.v6 (ipv6OfNat (a.val / 2 ^ (128 - p.bits) * 2 ^ (128 - p.bits))), p.bits⟩

/-- `Prefix.Addr`, which has no zone. -/
def zoned (p : IPPrefix) : ZonedAddr :=
  match p.addr with
  | .v4 a => .v4 a
  | .v6 a => .v6 a ""

/-- No prefix has an address with a zone. -/
def contains (p : IPPrefix) : ZonedAddr → Bool
  | .v4 b =>
      match p.addr with
      | .v4 a => Prefix.contains ⟨a, p.bits⟩ b
      | .v6 _ => false
  | .v6 b zone =>
      match p.addr with
      | .v4 _ => false
      | .v6 a => zone == "" && Prefix.contains ⟨a, p.bits⟩ b

end IPPrefix

/-! ## Texts without white space -/

section Words

open Text

theorem digitChar_not_space (d : Nat) : isSpace (Nat.digitChar d) = false := by
  have hhex : ∀ d < 16, isSpace (Nat.digitChar d) = false := by decide
  by_cases hd : d < 16
  · exact hhex d hd
  · -- There is no digit for it, and a star stands in its place.
    have hstar : Nat.digitChar d = '*' := by
      unfold Nat.digitChar
      iterate 16 rw [if_neg (by omega)]
    rw [hstar]
    decide

theorem not_space_of_mem_toDigits {b n : Nat} {c : Char} (h : c ∈ Nat.toDigits b n) :
    isSpace c = false := by
  have hcore : ∀ fuel n ds, (∀ c ∈ ds, isSpace c = false) →
      ∀ c ∈ Nat.toDigitsCore b fuel n ds, isSpace c = false := by
    intro fuel
    induction fuel with
    | zero => exact fun _ _ hds => hds
    | succ fuel ih =>
        intro n ds hds
        have hcons : ∀ c ∈ Nat.digitChar (n % b) :: ds, isSpace c = false :=
          List.forall_mem_cons.2 ⟨digitChar_not_space _, hds⟩
        rw [Nat.toDigitsCore]
        split_ifs
        · exact hcons
        · exact ih _ _ hcons
  exact hcore _ _ [] (by simp) c h

theorem not_space_formatDigits {sep : Char} (hsep : isSpace sep = false) (b : Nat) (ns : List Nat) :
    ∀ c ∈ [sep].intercalate (ns.map (Nat.toDigits b)), isSpace c = false := by
  refine forall_mem_intercalate hsep fun part hpart c hc => ?_
  obtain ⟨n, -, rfl⟩ := List.mem_map.1 hpart
  exact not_space_of_mem_toDigits hc

theorem not_space_formatIPv4 (a : IPv4) : ∀ c ∈ (formatIPv4 a).toList, isSpace c = false := by
  rw [formatIPv4, String.toList_ofList]
  exact not_space_formatDigits (by decide) 10 _

theorem not_space_formatIPv6 (a : IPv6) : ∀ c ∈ (formatIPv6 a).toList, isSpace c = false := by
  have hgroups : ∀ gs, ∀ c ∈ formatGroups gs, isSpace c = false := fun gs =>
    not_space_formatDigits (by decide) 16 gs
  have hcolon : isSpace ':' = false := by decide
  rw [formatIPv6, String.toList_ofList]
  intro c hc
  split at hc
  · exact hgroups _ c hc
  · rw [List.mem_append, List.mem_cons, List.mem_cons] at hc
    rcases hc with hc | rfl | rfl | hc
    · exact hgroups _ c hc
    · exact hcolon
    · exact hcolon
    · exact hgroups _ c hc

theorem not_space_formatAddr (a : Addr) : ∀ c ∈ (formatAddr a).toList, isSpace c = false := by
  unfold formatAddr
  split
  · exact not_space_formatIPv4 _
  · split
    · intro c hc
      rw [String.toList_append, List.mem_append] at hc
      rcases hc with hc | hc
      · have hmapped : ("::ffff:".toList.all fun c => !isSpace c) = true := by decide +kernel
        simpa using List.all_eq_true.1 hmapped c hc
      · exact not_space_formatIPv4 _ c hc
    · exact not_space_formatIPv6 _

/-- The text of a prefix is a word. -/
theorem IPPrefix.isToken_text (p : IPPrefix) : IsToken p.text := by
  constructor
  · intro h
    have hslash : '/' ∈ p.text.toList := by simp [IPPrefix.text]
    rw [h] at hslash
    simp at hslash
  · intro c hc
    rw [IPPrefix.text, String.toList_append, String.toList_append, List.mem_append, List.mem_append] at hc
    rcases hc with (hc | hc) | hc
    · exact not_space_formatAddr _ c hc
    · obtain rfl : c = '/' := by simpa using hc
      decide
    · rw [String.toList_ofList] at hc
      exact not_space_of_mem_toDigits hc

/-- An IPv4 address is written in digits and dots. -/
theorem isToken_of_parseIPv4 {s : String} {a : IPv4} (h : parseIPv4 s = some a) : IsToken s := by
  have hoctet : ∀ {cs n}, parseOctet cs = some n → ∀ c ∈ cs, isSpace c = false := by
    intro cs n hcs c hc
    rw [parseOctet, Option.filter_eq_some_iff, parseDecimal] at hcs
    obtain ⟨hcs, -⟩ := hcs
    split at hcs
    · next hdigits =>
        rw [Bool.and_eq_true, Bool.and_eq_true, List.all_eq_true] at hdigits
        exact not_space_of_isDigit (hdigits.1.2 c hc)
    · cases hcs
  have hsplit : ['.'].intercalate (s.toList.splitOn '.') = s.toList := List.intercalate_splitOn '.'
  unfold parseIPv4 at h
  split at h
  · next a b c d hparts =>
      simp only [Option.bind_eq_bind, Option.bind_eq_some_iff] at h
      obtain ⟨_, ha, _, hb, _, hc, _, hd, -⟩ := h
      rw [hparts] at hsplit
      constructor
      · intro hempty
        rw [hempty] at hsplit
        simp [List.intercalate] at hsplit
      · rw [← hsplit]
        refine forall_mem_intercalate (by decide) ?_
        simp only [List.forall_mem_cons]
        exact ⟨hoctet ha, hoctet hb, hoctet hc, hoctet hd, by simp⟩
  · cases h

theorem isToken_of_parse_v4 {s : String} {a : ZonedAddr} (h : parseZonedAddr s = some a)
    (h4 : a.is4 = true) : IsToken s := by
  unfold parseZonedAddr at h
  split at h
  · obtain ⟨b, hb, -⟩ := Option.map_eq_some_iff.1 h
    exact isToken_of_parseIPv4 hb
  · unfold parseZoned6 at h
    dsimp only at h
    split at h
    · obtain ⟨_, -, rfl⟩ := Option.map_eq_some_iff.1 h
      cases h4
    · split at h
      · cases h
      · obtain ⟨_, -, rfl⟩ := Option.map_eq_some_iff.1 h
        cases h4
  · cases h

/-- A zone is part of the text that was read. -/
theorem zone_chars_of_parse {s : String} {a : ZonedAddr} (h : parseZonedAddr s = some a) :
    ∀ c ∈ a.zone.toList, c ∈ s.toList := by
  unfold parseZonedAddr at h
  split at h
  · obtain ⟨_, -, rfl⟩ := Option.map_eq_some_iff.1 h
    simp [ZonedAddr.zone]
  · unfold parseZoned6 at h
    dsimp only at h
    split at h
    · obtain ⟨_, -, rfl⟩ := Option.map_eq_some_iff.1 h
      simp [ZonedAddr.zone]
    · next hrest =>
        split at h
        · cases h
        · obtain ⟨_, -, rfl⟩ := Option.map_eq_some_iff.1 h
          intro c hc
          rw [ZonedAddr.zone, String.toList_ofList] at hc
          exact List.dropWhile_subset _ (hrest ▸ List.mem_cons_of_mem _ hc)
  · cases h

theorem formatAddr_ne_empty (a : Addr) : formatAddr a ≠ "" := by
  have hv4 : ∀ a : IPv4, '.' ∈ (formatIPv4 a).toList := by
    intro a
    rw [formatIPv4, String.toList_ofList]
    simp [List.intercalate]
  have hv6 : ∀ a : IPv6, ':' ∈ (formatIPv6 a).toList := by
    intro a
    rw [formatIPv6, String.toList_ofList]
    split
    · simp [formatGroups, groups, List.range_succ, List.intercalate]
    · simp
  intro h
  unfold formatAddr at h
  split at h
  · have hdot := hv4 ‹_›
    rw [h] at hdot
    simp at hdot
  · split at h
    · simpa using congrArg String.toList h
    · have hcolon := hv6 ‹_›
      rw [h] at hcolon
      simp at hcolon

/-- The text of an address is a word if its zone has no white space. -/
theorem ZonedAddr.isToken_text {a : ZonedAddr} (h : ∀ c ∈ a.zone.toList, isSpace c = false) :
    IsToken a.text := by
  cases a with
  | v4 a => exact ⟨formatAddr_ne_empty (.v4 a), not_space_formatAddr (.v4 a)⟩
  | v6 a zone =>
      constructor
      · intro hempty
        have hformat := (String.append_eq_empty_iff.1 hempty).1
        exact formatAddr_ne_empty _ hformat
      · intro c hc
        rw [ZonedAddr.text, String.toList_append, List.mem_append] at hc
        rcases hc with hc | hc
        · exact not_space_formatAddr _ c hc
        · split at hc
          · simp at hc
          · rw [String.toList_append, List.mem_append] at hc
            rcases hc with hc | hc
            · obtain rfl : c = '%' := by simpa using hc
              decide
            · exact h c hc

/-! ## `net.ParseIP` -/

theorem not_space_of_hexDigit {c : Char} (h : (hexDigit? c).isSome) : isSpace c = false := by
  have hlow : '!' ≤ '0' ∧ '!' ≤ 'a' ∧ '!' ≤ 'A' := by decide
  have hhigh : '9' ≤ '~' ∧ 'f' ≤ '~' ∧ 'F' ≤ '~' := by decide
  unfold hexDigit? at h
  split at h
  · next hdigit => exact not_space_of_graphic (hlow.1.trans hdigit.1) (le_trans hdigit.2 hhigh.1)
  · split at h
    · next hlower => exact not_space_of_graphic (hlow.2.1.trans hlower.1) (le_trans hlower.2 hhigh.2.1)
    · split at h
      · next hupper => exact not_space_of_graphic (hlow.2.2.trans hupper.1) (le_trans hupper.2 hhigh.2.2)
      · cases h

/-- The groups of an address are written in digits, colons and dots. -/
theorem not_space_of_parseFields {room : Nat} {groups : List Nat} {ellipsis : Option Nat} {cs : List Char}
    {result : List Nat × Option Nat} (h : parseFields room groups ellipsis cs = some result) :
    ∀ c ∈ cs, isSpace c = false := by
  induction room generalizing groups ellipsis cs with
  | zero => cases h
  | succ room ih =>
      have hdigits : ∀ c ∈ cs.takeWhile (fun c => (hexDigit? c).isSome), isSpace c = false := by
        intro c hc
        have hdigit := List.mem_takeWhile_imp (p := fun c => (hexDigit? c).isSome) hc
        exact not_space_of_hexDigit hdigit
      have hcolon : isSpace ':' = false := by decide
      -- What follows the digits of the first group decides.
      have hrest : ∀ {rest}, (∀ c ∈ rest, isSpace c = false) →
          cs.dropWhile (fun c => (hexDigit? c).isSome) = rest → ∀ c ∈ cs, isSpace c = false := by
        intro rest hrest hdrop c hc
        rw [← List.takeWhile_append_dropWhile (p := fun c => (hexDigit? c).isSome) (l := cs), hdrop,
          List.mem_append] at hc
        exact hc.elim (hdigits c) (hrest c)
      rw [parseFields] at h
      split at h
      · cases h
      · split at h
        · next hdrop => exact hrest (by simp) hdrop
        · split at h
          · cases h
          · obtain ⟨a, ha, -⟩ := Option.map_eq_some_iff.1 h
            simpa using (isToken_of_parseIPv4 ha).2
        · next rest hdrop =>
            split at h
            · cases h
            · split at h
              · next hempty =>
                  rw [List.isEmpty_iff] at hempty
                  subst hempty
                  exact hrest (by simp [hcolon]) hdrop
              · exact hrest (by simpa [hcolon] using ih h) hdrop
        · next c rest hdrop =>
            exact hrest (List.forall_mem_cons.2 ⟨hcolon, ih h⟩) hdrop
        · cases h

theorem not_space_of_parseGroups6 {cs : List Char} {groups : List Nat} (h : parseGroups6 cs = some groups) :
    ∀ c ∈ cs, isSpace c = false := by
  have hcolon : isSpace ':' = false := by decide
  unfold parseGroups6 at h
  split at h
  · simp [hcolon]
  · obtain ⟨_, hfields, -⟩ := Option.bind_eq_some_iff.1 h
    simpa [hcolon] using not_space_of_parseFields hfields
  · obtain ⟨_, hfields, -⟩ := Option.bind_eq_some_iff.1 h
    exact not_space_of_parseFields hfields

/-- `net.ParseIP`, which reads no zones; tells whether `To4` finds an IPv4 address. -/
def parseNetIP (value : String) : Option Bool :=
  (parseZonedAddr value).bind fun
    | .v4 _ => some true
    | .v6 a zone => if zone = "" then some (unmap a).isSome else none

theorem isToken_of_parseNetIP {value : String} {v4 : Bool} (h : parseNetIP value = some v4) : IsToken value := by
  obtain ⟨a, ha, hv4⟩ := Option.bind_eq_some_iff.1 h
  cases a with
  | v4 a => exact isToken_of_parse_v4 ha rfl
  | v6 a zone =>
      dsimp only at hv4
      split at hv4
      · next hzone =>
          subst hzone
          unfold parseZonedAddr at ha
          split at ha
          · obtain ⟨_, -, hfalse⟩ := Option.map_eq_some_iff.1 ha
            cases hfalse
          · next hfind =>
              have hmem := List.mem_of_find?_eq_some hfind
              refine ⟨fun hempty => by simp [hempty] at hmem, ?_⟩
              unfold parseZoned6 at ha
              dsimp only at ha
              split at ha
              · next hdrop =>
                  obtain ⟨groups, hgroups, -⟩ := Option.map_eq_some_iff.1 ha
                  have hwhole : value.toList.takeWhile (· != '%') = value.toList := by
                    simpa [hdrop] using List.takeWhile_append_dropWhile (p := (· != '%')) (l := value.toList)
                  rw [← hwhole]
                  exact not_space_of_parseGroups6 hgroups
              · next zone hdrop =>
                  split at ha
                  · cases ha
                  · next hne =>
                      -- A zone that was read is not empty.
                      obtain ⟨groups, -, hzone⟩ := Option.map_eq_some_iff.1 ha
                      have hempty : zone = [] := by simpa using (ZonedAddr.v6.inj hzone).2
                      simp [hempty] at hne
          · cases ha
      · cases hv4

end Words

end Netip
end Library
end Vastora
