import Mathlib.Data.List.Sort
import Vastora.Landing.Routes

/-!
# Grants — client grants and their identities

A grant lets the user of a base credential reach a landing peer through a credential of its own, the
fixed user, whose name is derived from the grant's ID.  The digest is a parameter; only its hexadecimal
text is looked at here.
-/

namespace Vastora
namespace Landing

open Library Library.Guard Library.Pattern

/-- `PublishingMode`; the name of an unknown mode is kept. -/
inductive PublishingMode where
  | fixed
  | other (name : String)
deriving DecidableEq, Repr

def PublishingMode.valid (m : PublishingMode) : Bool := m == .fixed

structure ClientGrant where
  id : String
  parentID : String
  inboundTag : String
  baseUser : String
  baseIdentity : String
  fixedUser : String
  fixedIdentity : String
  peer : PeerIdentity
  mode : PublishingMode
  enabled : Bool
  hideBase : Bool
deriving DecidableEq, Repr

/-! ## Names -/

def combinationPrefix : String := "vastora-combination-"

/-- `hex.EncodeToString`. -/
def hexEncode (bytes : List UInt8) : String :=
  String.ofList (bytes.flatMap fun b => [Json.hexDigit (b.toNat / 16), Json.hexDigit (b.toNat % 16)])

def isGrantChar (c : Char) : Bool :=
  ('a' ≤ c && c ≤ 'z') || ('A' ≤ c && c ≤ 'Z') || ('0' ≤ c && c ≤ '9') || c == '-' || c == '_'

def validGrantID (id : String) : Bool :=
  id != "" && id.utf8ByteSize ≤ 128 && id.toList.all isGrantChar

def validRouteUser (user : String) : Bool :=
  user != "" && user.utf8ByteSize ≤ 256 && trimSpace user == user &&
    user.toList.all fun c => c != '\r' && c != '\n' && c != '\x00'

/-- The lowercase hexadecimal text of 32 bytes. -/
def validIdentity (id : String) : Bool :=
  id.toList.length == 64 && id.toList.all fun c => ('0' ≤ c && c ≤ '9') || ('a' ≤ c && c ≤ 'f')

section Names

variable (sha256 : String → List UInt8)

def grantTag (id : String) : String := hexEncode ((sha256 id).take 16)

def fixedUser (id : String) : String := combinationPrefix ++ grantTag sha256 id

def fixedOutbound (id : String) : String := combinationPrefix ++ grantTag sha256 id

end Names

/-! ## Validation -/

section Validation

variable (sha256 : String → List UInt8)

def ClientGrant.validate (g : ClientGrant) : Except String Unit := do
  require (validGrantID g.id && validGrantID g.parentID && g.mode.valid && validRouteUser g.baseUser &&
    !hasPrefix g.baseUser combinationPrefix && validIdentity g.baseIdentity &&
    g.parentID == g.baseIdentity && g.inboundTag != "" && g.inboundTag.utf8ByteSize ≤ 128 &&
    trimSpace g.inboundTag == g.inboundTag && tailnetIPv4 g.peer.address && g.peer.id != "" &&
    g.peer.publicKey != "") "landing: invalid client grant"
  require (g.fixedUser == "" || (g.fixedUser == Landing.fixedUser sha256 g.id && validIdentity g.fixedIdentity))
    "landing: invalid fixed identity ownership"
  require (!(g.enabled && g.mode == .fixed && g.fixedUser == "")) "landing: missing fixed identity"

/-- What a grant is about: its parent, inbound and peer. -/
def ClientGrant.scope (g : ClientGrant) : String :=
  g.parentID ++ "\x00" ++ g.inboundTag ++ "\x00" ++ g.peer.id

/-- One round of the loop that checks the grants against those before. -/
def checkGrant (seen : List ClientGrant) (grant : ClientGrant) : Except String (List ClientGrant) := do
  grant.validate sha256
  require (!((seen.map ClientGrant.id).contains grant.id ||
      (seen.map ClientGrant.scope).contains grant.scope ||
      (grant.fixedUser != "" && (seen.map ClientGrant.fixedUser).contains grant.fixedUser)))
    "landing: duplicate client grant"
  return seen ++ [grant]

/-- The grants are valid and distinct, and no base user is a fixed one. -/
def checkGrants (grants : List ClientGrant) : Except String Unit := do
  let seen ← grants.foldlM (checkGrant sha256) []
  let fixedUsers := (seen.map ClientGrant.fixedUser).filter (· != "")
  require (seen.all fun grant => !fixedUsers.contains grant.baseUser)
    "landing: combination cannot be an advanced entry"

/-- The order of `strings.Compare` on the IDs. -/
def orderedGrants (grants : List ClientGrant) : List ClientGrant :=
  grants.insertionSort fun a b => a.id ≤ b.id

end Validation

/-! ## What the checks establish -/

section Checked

variable {sha256 : String → List UInt8} {g g' : ClientGrant} {grants seen seen' : List ClientGrant}

/-- The facts about a valid grant that the routes rest on. -/
structure ClientGrant.Valid (sha256 : String → List UInt8) (g : ClientGrant) : Prop where
  fixedMode : g.mode = .fixed
  inboundTag : g.inboundTag ≠ ""
  baseUser : g.baseUser ≠ "" ∧ '\x00' ∉ g.baseUser.toList
  notCombination : hasPrefix g.baseUser combinationPrefix = false
  peer : tailnetIPv4 g.peer.address
  fixedUser : g.fixedUser = "" ∨ g.fixedUser = Landing.fixedUser sha256 g.id
  enabled : g.enabled → g.fixedUser ≠ ""

theorem ClientGrant.valid_of_validate {u : Unit} (h : g.validate sha256 = .ok u) : g.Valid sha256 := by
  simp only [ClientGrant.validate, require_bind_eq_ok_iff, require_eq_ok_iff, Bool.and_eq_true,
    Bool.or_eq_true, Bool.not_eq_true', bne_iff_ne, beq_iff_eq, PublishingMode.valid,
    validRouteUser, List.all_eq_true] at h
  obtain ⟨⟨⟨⟨⟨⟨⟨⟨⟨⟨⟨⟨⟨-, -⟩, hmode⟩, hbase⟩, hprefix⟩, -⟩, -⟩, htag⟩, -⟩, -⟩, hpeer⟩, -⟩, -⟩,
    hfixed, henabled⟩ := h
  refine ⟨hmode, htag, ⟨hbase.1.1.1, fun hnul => (hbase.2 _ hnul).2 rfl⟩, hprefix, hpeer,
    hfixed.imp_right And.left, fun he hf => ?_⟩
  simp [he, hf, hmode] at henabled

/-- Fixed users are distinct. -/
def ClientGrant.Apart (g g' : ClientGrant) : Prop := g.fixedUser ≠ "" → g.fixedUser ≠ g'.fixedUser

instance : Std.Symm ClientGrant.Apart :=
  ⟨fun _ _ h hne heq => h (heq ▸ hne) heq.symm⟩

theorem checkGrant_foldlM (h : grants.foldlM (checkGrant sha256) seen = .ok seen')
    (happart : seen.Pairwise ClientGrant.Apart) :
    seen' = seen ++ grants ∧ seen'.Pairwise ClientGrant.Apart ∧ ∀ g ∈ grants, g.Valid sha256 := by
  induction grants generalizing seen with
  | nil =>
      obtain rfl := pure_eq_ok_iff.1 h
      exact ⟨by simp, happart, by simp⟩
  | cons g grants ih =>
      rw [List.foldlM_cons] at h
      obtain ⟨mid, hstep, h⟩ := bind_eq_ok_iff.1 h
      simp only [checkGrant, bind_eq_ok_iff, require_eq_ok_iff, exists_const, pure_eq_ok_iff] at hstep
      obtain ⟨_, hvalid, hnew, rfl⟩ := hstep
      have happart' : (seen ++ [g]).Pairwise ClientGrant.Apart := by
        refine List.pairwise_append.2 ⟨happart, List.pairwise_singleton _ _, ?_⟩
        rintro g' hg' _ hg hne heq
        obtain rfl := List.mem_singleton.1 hg
        have hmem : g'.fixedUser ∈ seen.map ClientGrant.fixedUser := List.mem_map_of_mem hg'
        simp [← heq, hne, hmem] at hnew
      obtain ⟨rfl, hall, hrest⟩ := ih h happart'
      exact ⟨by simp, hall, List.forall_mem_cons.2 ⟨ClientGrant.valid_of_validate hvalid, hrest⟩⟩

/-- The facts about a checked list of grants. -/
structure Checked (sha256 : String → List UInt8) (grants : List ClientGrant) : Prop where
  valid : ∀ g ∈ grants, g.Valid sha256
  apart : ∀ g ∈ grants, ∀ g' ∈ grants, g.fixedUser ≠ "" → g.fixedUser = g'.fixedUser → g = g'
  baseUsers : ∀ g ∈ grants, ∀ g' ∈ grants, g'.fixedUser ≠ "" → g.baseUser ≠ g'.fixedUser

theorem checked_of_checkGrants {u : Unit} (h : checkGrants sha256 grants = .ok u) :
    Checked sha256 grants := by
  simp only [checkGrants, bind_eq_ok_iff, require_eq_ok_iff] at h
  obtain ⟨seen, hseen, hbase⟩ := h
  obtain ⟨rfl, happart, hvalid⟩ := checkGrant_foldlM hseen List.Pairwise.nil
  refine ⟨hvalid, fun g hg g' hg' hne heq => ?_, fun g hg g' hg' hne heq => ?_⟩
  · by_contra hdiff
    exact happart.forall hg hg' hdiff hne heq
  · have hmem : g.baseUser ∈ (seen.map ClientGrant.fixedUser).filter (· != "") :=
      List.mem_filter.2 ⟨heq ▸ List.mem_map_of_mem hg', by simpa [heq] using hne⟩
    have := List.all_eq_true.1 hbase g hg
    rw [List.contains_iff_mem.2 hmem] at this
    cases this

theorem mem_orderedGrants : g ∈ orderedGrants grants ↔ g ∈ grants :=
  List.mem_insertionSort _

end Checked

end Landing
end Vastora
