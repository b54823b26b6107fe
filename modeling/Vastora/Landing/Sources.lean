import Vastora.Landing.Address
import Vastora.Library.Guard
import Vastora.Library.KeyedUnion
import Vastora.Library.SortSlice

/-!
# Sources — the addresses that may use a landing server

Several features let a source reach the same server, some of them over TCP only.  `mergeSources` is the union
of these uses: it gathers them in a map, whose iteration order is arbitrary (`Range`), and sorts what comes out
by address.  Only which uses there are decides the result (`mergeSources_congr`).
-/

namespace Vastora
namespace Landing

open Library Library.Guard

structure AuthorizedNode where
  address : String
  tcpOnly : Bool
deriving DecidableEq, Repr

/-- The order in which `range` visits a map. -/
structure Range where
  visit : {α : Type} → List α → List α
  perm : ∀ {α : Type} (entries : List α), (visit entries).Perm entries

def Range.inOrder : Range := ⟨fun entries => entries, fun _ => List.Perm.refl _⟩

/-- `byAddress[source.Address] = source`. -/
def putSource (byAddress : List AuthorizedNode) (source : AuthorizedNode) : List AuthorizedNode :=
  source :: byAddress.filter fun node => node.address != source.address

/-- One round of the loop over the sources. -/
def addSource (byAddress : List AuthorizedNode) (source : AuthorizedNode) :
    Except String (List AuthorizedNode) := do
  require (tailnetIPv4 source.address) "landing: invalid source identity"
  match byAddress.find? fun node => node.address == source.address with
  | some previous => return putSource byAddress { source with tcpOnly := source.tcpOnly && previous.tcpOnly }
  | none => return putSource byAddress source

def mergeSources (sorter : Sorter) (range : Range) (uses : List (List AuthorizedNode)) :
    Except String (List AuthorizedNode) := do
  let byAddress ← uses.foldlM (fun byAddress use => use.foldlM addSource byAddress) []
  require (byAddress.length ≤ 128) "landing: too many source identities"
  return sorter.sort (fun a b => a.address < b.address) (range.visit byAddress)

/-- What the uses of some sources come to. -/
def SourceUnion : List AuthorizedNode → List AuthorizedNode → Prop :=
  IsUnion AuthorizedNode.address AuthorizedNode.tcpOnly

/-- The same in ascending order of the addresses. -/
def AscendingSources : List AuthorizedNode → List AuthorizedNode → Prop :=
  IsAscendingUnion AuthorizedNode.address AuthorizedNode.tcpOnly

theorem AuthorizedNode.ext_of (a b : AuthorizedNode) (haddress : a.address = b.address)
    (htcp : a.tcpOnly = b.tcpOnly) : a = b := by
  cases a
  cases b
  simp_all

/-! ## Gathering -/

variable {byAddress uses : List AuthorizedNode} {source : AuthorizedNode}

/-- Replacing an entry of the map. -/
theorem putSource_perm {before after : List AuthorizedNode} {previous : AuthorizedNode}
    (h : ((before ++ previous :: after).map AuthorizedNode.address).Nodup)
    (haddress : source.address = previous.address) :
    (putSource (before ++ previous :: after) source).Perm (before ++ source :: after) := by
  have hdistinct := (List.perm_middle.map AuthorizedNode.address).nodup_iff.1 h
  rw [List.map_cons, List.nodup_cons] at hdistinct
  have hothers : (before ++ after).filter (fun node => node.address != source.address) = before ++ after := by
    refine List.filter_eq_self.2 fun node hnode => bne_iff_ne.2 fun heq => hdistinct.1 ?_
    rw [← haddress, ← heq]
    exact List.mem_map_of_mem hnode
  have hprevious : (previous.address != source.address) = false := by simp [haddress]
  rw [List.filter_append] at hothers
  rw [putSource, List.filter_append, List.filter_cons_of_neg (by simp [hprevious]), hothers]
  exact List.perm_middle.symm

theorem addSource_union (h : SourceUnion uses byAddress) (hvalid : tailnetIPv4 source.address = true) :
    ∃ byAddress', addSource byAddress source = .ok byAddress' ∧ SourceUnion (uses ++ [source]) byAddress' := by
  have hadd : addSource byAddress source =
      match byAddress.find? fun node => node.address == source.address with
      | some previous =>
          .ok (putSource byAddress { source with tcpOnly := source.tcpOnly && previous.tcpOnly })
      | none => .ok (putSource byAddress source) := by
    rw [addSource, hvalid]
    rfl
  cases hfind : byAddress.find? fun node => node.address == source.address with
  | none =>
      have hfresh : ∀ node ∈ byAddress, node.address ≠ source.address := fun node hnode =>
        by simpa using List.find?_eq_none.1 hfind node hnode
      have hput : putSource byAddress source = source :: byAddress := by
        rw [putSource, List.filter_eq_self.2 fun node hnode => bne_iff_ne.2 (hfresh node hnode)]
      refine ⟨source :: byAddress, by rw [hadd, hfind, hput], ?_⟩
      exact (IsUnion.add_fresh h hfresh).perm (List.perm_append_singleton source byAddress)
  | some previous =>
      obtain ⟨haddress, before, after, rfl, -⟩ := List.find?_eq_some_iff_append.1 hfind
      have haddress : source.address = previous.address := (beq_iff_eq.1 haddress).symm
      let merged : AuthorizedNode := { source with tcpOnly := source.tcpOnly && previous.tcpOnly }
      have hmerged : merged.address = previous.address := haddress
      refine ⟨putSource (before ++ previous :: after) merged, by rw [hadd, hfind], ?_⟩
      exact (IsUnion.add_known h haddress hmerged rfl).perm (putSource_perm h.distinct hmerged).symm

/-- A whole run over valid sources. -/
theorem addSources_union (h : SourceUnion uses byAddress) {sources : List AuthorizedNode}
    (hvalid : ∀ source ∈ sources, tailnetIPv4 source.address = true) :
    ∃ byAddress', sources.foldlM addSource byAddress = .ok byAddress' ∧
      SourceUnion (uses ++ sources) byAddress' := by
  induction sources generalizing uses byAddress with
  | nil => exact ⟨byAddress, rfl, by rwa [List.append_nil]⟩
  | cons source sources ih =>
      rw [List.forall_mem_cons] at hvalid
      obtain ⟨next, hnext, hunion⟩ := addSource_union h hvalid.1
      obtain ⟨byAddress', hrun, hunion'⟩ := ih hunion hvalid.2
      refine ⟨byAddress', ?_, by simpa using hunion'⟩
      rw [List.foldlM_cons, hnext]
      exact hrun

/-- A run that meets a source that is not valid. -/
theorem addSources_invalid {sources : List AuthorizedNode}
    (hinvalid : ∃ source ∈ sources, tailnetIPv4 source.address = false) (h : SourceUnion uses byAddress) :
    sources.foldlM addSource byAddress = .error "landing: invalid source identity" := by
  induction sources generalizing uses byAddress with
  | nil => simp at hinvalid
  | cons source sources ih =>
      rw [List.foldlM_cons]
      cases hsource : tailnetIPv4 source.address with
      | false =>
          rw [addSource, hsource]
          rfl
      | true =>
          obtain ⟨next, hnext, hunion⟩ := addSource_union h hsource
          rw [hnext]
          refine ih ?_ hunion
          simpa [hsource] using hinvalid

theorem foldlM_uses (uses : List (List AuthorizedNode)) (byAddress : List AuthorizedNode) :
    uses.foldlM (fun byAddress use => use.foldlM addSource byAddress) byAddress =
      uses.flatten.foldlM addSource byAddress := by
  induction uses generalizing byAddress with
  | nil => rfl
  | cons use uses ih =>
      rw [List.foldlM_cons, List.flatten_cons, List.foldlM_append]
      exact bind_congr fun next => ih next

/-! ## The merged sources -/

section Merged

variable {sorter sorter' : Sorter} {range range' : Range} {uses uses' : List (List AuthorizedNode)}
  {result : List AuthorizedNode}

theorem AscendingSources.unique {uses result result' : List AuthorizedNode} (h : AscendingSources uses result)
    (h' : AscendingSources uses result') : result = result' :=
  IsAscendingUnion.unique AuthorizedNode.ext_of h h'

theorem ascending_sort (sorter : Sorter) (range : Range) {uses : List AuthorizedNode}
    (h : SourceUnion uses byAddress) :
    AscendingSources uses (sorter.sort (fun a b => a.address < b.address) (range.visit byAddress)) := by
  have hperm := (sorter.perm (fun a b => a.address < b.address) (range.visit byAddress)).trans
    (range.perm byAddress)
  exact .of_sorted (IsUnion.perm h hperm.symm) (sorter.sorted AuthorizedNode.address _ _ fun a b =>
    decide_eq_true_iff)

/-- What `mergeSources` returns: the union of the uses, or one of its two errors. -/
theorem mergeSources_cases (sorter : Sorter) (range : Range) (uses : List (List AuthorizedNode)) :
    ((∃ source ∈ uses.flatten, tailnetIPv4 source.address = false) ∧
      mergeSources sorter range uses = .error "landing: invalid source identity") ∨
    ((∀ source ∈ uses.flatten, tailnetIPv4 source.address = true) ∧
      ∃ result, AscendingSources uses.flatten result ∧
        mergeSources sorter range uses =
          if result.length ≤ 128 then .ok result else .error "landing: too many source identities") := by
  by_cases hvalid : ∀ source ∈ uses.flatten, tailnetIPv4 source.address = true
  · obtain ⟨byAddress, hrun, hunion⟩ := addSources_union IsUnion.nil hvalid
    have hascending : AscendingSources uses.flatten _ := ascending_sort sorter range hunion
    refine Or.inr ⟨hvalid, _, hascending, ?_⟩
    have hlength := IsUnion.length_eq hunion hascending.union fun _ => Iff.rfl
    rw [mergeSources, foldlM_uses, hrun, ← hlength]
    by_cases hmany : byAddress.length ≤ 128
    · simp only [bind, Except.bind, require, hmany, decide_true, if_true]
      rfl
    · simp only [bind, Except.bind, require, hmany, decide_false, if_false, Bool.false_eq_true]
  · have hinvalid : ∃ source ∈ uses.flatten, tailnetIPv4 source.address = false := by
      simpa only [not_forall, Bool.not_eq_true, exists_prop] using hvalid
    refine Or.inl ⟨hinvalid, ?_⟩
    rw [mergeSources, foldlM_uses, addSources_invalid hinvalid IsUnion.nil]
    rfl

theorem mergeSources_eq_ok_iff : mergeSources sorter range uses = .ok result ↔
    (∀ source ∈ uses.flatten, tailnetIPv4 source.address = true) ∧
      AscendingSources uses.flatten result ∧ result.length ≤ 128 := by
  rcases mergeSources_cases sorter range uses with ⟨⟨source, hsource, hinvalid⟩, h⟩ | ⟨hvalid, merged, hmerged, h⟩
  · rw [h]
    refine ⟨fun herr => absurd herr (by simp), fun hok => ?_⟩
    rw [hok.1 source hsource] at hinvalid
    cases hinvalid
  · rw [h]
    constructor
    · intro hok
      split at hok
      · cases hok
        exact ⟨hvalid, hmerged, by assumption⟩
      · cases hok
    · rintro ⟨-, hresult, hlength⟩
      rw [hmerged.unique hresult, if_pos hlength]

/-- Uses that are as valid and have the same union are merged the same way, whatever the order of the map and
of equal elements. -/
theorem mergeSources_congr
    (hvalid : (∀ source ∈ uses.flatten, tailnetIPv4 source.address = true) ↔
      ∀ source ∈ uses'.flatten, tailnetIPv4 source.address = true)
    (hunion : ∀ result, SourceUnion uses'.flatten result → SourceUnion uses.flatten result) :
    mergeSources sorter range uses = mergeSources sorter' range' uses' := by
  have hcontra : ∀ {l : List AuthorizedNode}, (∃ source ∈ l, tailnetIPv4 source.address = false) →
      ¬ ∀ source ∈ l, tailnetIPv4 source.address = true := by
    rintro l ⟨source, hsource, hinvalid⟩ hall
    rw [hall source hsource] at hinvalid
    cases hinvalid
  rcases mergeSources_cases sorter range uses with ⟨hinvalid, h⟩ | ⟨hall, merged, hmerged, h⟩
  · rcases mergeSources_cases sorter' range' uses' with ⟨-, h'⟩ | ⟨hall', -, -, -⟩
    · rw [h, h']
    · exact absurd (hvalid.2 hall') (hcontra hinvalid)
  · rcases mergeSources_cases sorter' range' uses' with ⟨hinvalid', -⟩ | ⟨-, merged', hmerged', h'⟩
    · exact absurd (hvalid.1 hall) (hcontra hinvalid')
    · rw [h, h', hmerged.unique ⟨hunion merged' hmerged'.union, hmerged'.ascending⟩]

/-- The union of some uses stands for them. -/
theorem mergeSources_absorb (h : mergeSources sorter range uses = .ok result) :
    mergeSources sorter range (uses ++ uses') = mergeSources sorter' range' (result :: uses') := by
  obtain ⟨hvalid, ⟨hunion, -⟩, -⟩ := mergeSources_eq_ok_iff.1 h
  have hresult : ∀ source ∈ result, tailnetIPv4 source.address = true := by
    intro source hsource
    obtain ⟨use, huse, haddress⟩ := IsUnion.exists_use hunion hsource
    exact haddress ▸ hvalid use huse
  refine mergeSources_congr ?_ fun total htotal => ?_
  · simp only [List.flatten_append, List.flatten_cons, List.forall_mem_append]
    exact and_congr_left' ⟨fun _ => hresult, fun _ => hvalid⟩
  · rw [List.flatten_append]
    exact IsUnion.absorb hunion htotal

/-- Fewer uses are merged too. -/
theorem mergeSources_of_subset (sorter' : Sorter) (range' : Range)
    (h : mergeSources sorter range uses = .ok result) (hsubset : ∀ source ∈ uses'.flatten, source ∈ uses.flatten) :
    ∃ result', mergeSources sorter' range' uses' = .ok result' := by
  obtain ⟨hvalid, ⟨hunion, -⟩, hlength⟩ := mergeSources_eq_ok_iff.1 h
  rcases mergeSources_cases sorter' range' uses' with ⟨⟨source, hsource, hinvalid⟩, -⟩ | ⟨-, merged, hmerged, h'⟩
  · rw [hvalid source (hsubset source hsource)] at hinvalid
    cases hinvalid
  · have hfewer := (IsUnion.length_le_of_subset hmerged.union hunion hsubset).trans hlength
    exact ⟨merged, by rw [h', if_pos hfewer]⟩

end Merged

end Landing
end Vastora
