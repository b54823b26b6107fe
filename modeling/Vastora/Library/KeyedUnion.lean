import Mathlib.Data.List.Nodup
import Mathlib.Data.List.Sort
import Mathlib.Tactic.Common

/-!
# KeyedUnion — the union of uses that may be restricted

A use names a key and may restrict it.  A union of uses has each key once and restricts it where every use of
it does, so no use is lost or narrowed (`IsUnion.grants`).  Which uses there are decides it up to order
(`IsUnion.congr`, `IsUnion.perm_of`), and entirely when it ascends (`IsAscendingUnion.unique`).  It can be
built one use at a time (`IsUnion.add_fresh`, `IsUnion.add_known`) or in parts (`IsUnion.absorb`).
-/

namespace Vastora
namespace Library

variable {α κ : Type}

/-- `result` is a union of `uses`. -/
structure IsUnion (key : α → κ) (restricted : α → Bool) (uses result : List α) : Prop where
  distinct : (result.map key).Nodup
  keys : ∀ k, k ∈ result.map key ↔ k ∈ uses.map key
  restricted_iff : ∀ a ∈ result, restricted a = true ↔ ∀ u ∈ uses, key u = key a → restricted u = true

namespace IsUnion

variable {key : α → κ} {restricted : α → Bool} {uses uses' rest result result' : List α} {a b u : α}

theorem nil : IsUnion key restricted [] [] := ⟨List.nodup_nil, fun _ => Iff.rfl, by simp⟩

/-- For a union only which uses there are matters. -/
theorem congr (h : IsUnion key restricted uses result) (huses : ∀ u, u ∈ uses ↔ u ∈ uses') :
    IsUnion key restricted uses' result := by
  refine ⟨h.distinct, fun k => ?_, fun a ha => ?_⟩
  · rw [h.keys]
    simp only [List.mem_map, huses]
  · rw [h.restricted_iff a ha]
    exact forall_congr' fun u => imp_congr_left (huses u)

/-- The order of a union does not matter. -/
theorem perm (h : IsUnion key restricted uses result) (hperm : result.Perm result') :
    IsUnion key restricted uses result' := by
  refine ⟨(hperm.map key).nodup_iff.1 h.distinct, fun k => ?_, fun a ha => ?_⟩
  · rw [← (hperm.map key).mem_iff, h.keys]
  · exact h.restricted_iff a (hperm.mem_iff.2 ha)

theorem exists_key (h : IsUnion key restricted uses result) (hu : u ∈ uses) : ∃ a ∈ result, key a = key u :=
  List.mem_map.1 ((h.keys (key u)).2 (List.mem_map_of_mem hu))

theorem exists_use (h : IsUnion key restricted uses result) (ha : a ∈ result) : ∃ u ∈ uses, key u = key a :=
  List.mem_map.1 ((h.keys (key a)).1 (List.mem_map_of_mem ha))

/-- No use is lost, and none is narrowed. -/
theorem grants (h : IsUnion key restricted uses result) (hu : u ∈ uses) :
    ∃ a ∈ result, key a = key u ∧ (restricted a = true → restricted u = true) := by
  obtain ⟨a, ha, hkey⟩ := h.exists_key hu
  exact ⟨a, ha, hkey, fun hrestricted => (h.restricted_iff a ha).1 hrestricted u hu hkey.symm⟩

theorem perm_of (hext : ∀ a b, key a = key b → restricted a = restricted b → a = b)
    (h : IsUnion key restricted uses result) (h' : IsUnion key restricted uses result') :
    result.Perm result' := by
  have hsubset : ∀ {r r'}, IsUnion key restricted uses r → IsUnion key restricted uses r' → ∀ a ∈ r, a ∈ r' := by
    intro r r' hr hr' a ha
    obtain ⟨u, hu, hukey⟩ := hr.exists_use ha
    obtain ⟨b, hb, hbkey⟩ := hr'.exists_key hu
    have hkey : key b = key a := hbkey.trans hukey
    have hrestricted : restricted b = restricted a := by
      rw [Bool.eq_iff_iff, hr'.restricted_iff b hb, hr.restricted_iff a ha, hkey]
    exact hext b a hkey hrestricted ▸ hb
  exact (List.perm_ext_iff_of_nodup h.distinct.of_map h'.distinct.of_map).2
    fun a => ⟨hsubset h h' a, hsubset h' h a⟩

/-- The same uses have unions of one length. -/
theorem length_eq (h : IsUnion key restricted uses result) (h' : IsUnion key restricted uses' result')
    (hkeys : ∀ k, k ∈ uses.map key ↔ k ∈ uses'.map key) : result.length = result'.length := by
  have hperm : (result.map key).Perm (result'.map key) :=
    (List.perm_ext_iff_of_nodup h.distinct h'.distinct).2 fun k => by rw [h.keys, h'.keys, hkeys]
  simpa using hperm.length_eq

theorem length_le_of_subset (h : IsUnion key restricted uses result)
    (h' : IsUnion key restricted uses' result') (hsubset : ∀ u ∈ uses, u ∈ uses') :
    result.length ≤ result'.length := by
  have hkeys : result.map key ⊆ result'.map key := fun k hk =>
    (h'.keys k).2 (List.map_subset key hsubset ((h.keys k).1 hk))
  simpa using (List.subperm_of_subset h.distinct hkeys).length_le

theorem length_le (h : IsUnion key restricted uses result) : result.length ≤ uses.length := by
  have hkeys : result.map key ⊆ uses.map key := fun k hk => (h.keys k).1 hk
  simpa using (List.subperm_of_subset h.distinct hkeys).length_le

/-- Some uses can be replaced by their union. -/
theorem absorb (hpart : IsUnion key restricted uses result) {total : List α}
    (h : IsUnion key restricted (result ++ rest) total) : IsUnion key restricted (uses ++ rest) total := by
  refine ⟨h.distinct, fun k => ?_, fun a ha => ?_⟩
  · rw [h.keys, List.map_append, List.map_append, List.mem_append, List.mem_append, hpart.keys]
  · rw [h.restricted_iff a ha]
    simp only [List.mem_append, or_imp, forall_and]
    refine and_congr_left' ⟨fun hall u hu hkey => ?_, fun hall b hb hkey => ?_⟩
    · obtain ⟨b, hb, hbkey, hgrant⟩ := hpart.grants hu
      exact hgrant (hall b hb (hbkey.trans hkey))
    · exact (hpart.restricted_iff b hb).2 fun u hu hukey => hall u hu (hukey.trans hkey)

/-- A use of a new key is added as it is. -/
theorem add_fresh (h : IsUnion key restricted uses result) (hfresh : ∀ a ∈ result, key a ≠ key u) :
    IsUnion key restricted (uses ++ [u]) (result ++ [u]) := by
  refine ⟨?_, fun k => ?_, fun a ha => ?_⟩
  · rw [List.map_append, List.map_singleton]
    refine h.distinct.append (List.nodup_singleton _) (List.disjoint_singleton.2 fun hmem => ?_)
    obtain ⟨a, ha, hkey⟩ := List.mem_map.1 hmem
    exact hfresh a ha hkey
  · rw [List.map_append, List.map_append, List.mem_append, List.mem_append, h.keys]
  · simp only [List.mem_append, List.mem_singleton, or_imp, forall_and, forall_eq]
    rcases List.mem_append.1 ha with ha | ha
    · rw [h.restricted_iff a ha]
      exact (and_iff_left fun hkey => absurd hkey.symm (hfresh a ha)).symm
    · obtain rfl := List.mem_singleton.1 ha
      refine ⟨fun hrestricted => ⟨fun v hv hkey => ?_, fun _ => hrestricted⟩, fun hall => hall.2 rfl⟩
      obtain ⟨b, hb, hbkey⟩ := h.exists_key hv
      exact absurd (hbkey.trans hkey) (hfresh b hb)

/-- A use of a known key restricts it where both do. -/
theorem add_known {before after : List α} (h : IsUnion key restricted uses (before ++ a :: after))
    (hkey : key u = key a) (hb : key b = key a) (hrestricted : restricted b = (restricted u && restricted a)) :
    IsUnion key restricted (uses ++ [u]) (before ++ b :: after) := by
  have hmap : (before ++ b :: after).map key = (before ++ a :: after).map key := by
    rw [List.map_append, List.map_append, List.map_cons, List.map_cons, hb]
  have ha : a ∈ before ++ a :: after := by simp
  -- the other keys of the union are not that of the new use
  have hne : ∀ c ∈ before ++ after, key u ≠ key c := by
    intro c hc heq
    have hdistinct := (List.perm_middle.map key).nodup_iff.1 h.distinct
    rw [List.map_cons, List.nodup_cons] at hdistinct
    exact hdistinct.1 (hkey ▸ heq ▸ List.mem_map_of_mem hc)
  refine ⟨hmap ▸ h.distinct, fun k => ?_, fun c hc => ?_⟩
  · rw [hmap, h.keys, List.map_append, List.mem_append, List.map_singleton, List.mem_singleton, hkey]
    refine ⟨Or.inl, fun hk => hk.elim id ?_⟩
    rintro rfl
    exact (h.keys _).1 (List.mem_map_of_mem ha)
  · simp only [List.mem_append, List.mem_singleton, or_imp, forall_and, forall_eq]
    rcases List.mem_cons.1 (List.perm_middle.mem_iff.1 hc) with rfl | hmem
    · rw [hrestricted, Bool.and_eq_true, h.restricted_iff a ha, hb, and_comm]
      exact and_congr_right fun _ => ⟨fun hu _ => hu, fun hu => hu hkey⟩
    · rw [h.restricted_iff c (List.perm_middle.mem_iff.2 (List.mem_cons_of_mem _ hmem))]
      exact (and_iff_left fun heq => absurd heq (hne c hmem)).symm

end IsUnion

/-! ## Ascending unions -/

section Ascending

variable [LinearOrder κ]

/-- The union with its keys in ascending order. -/
structure IsAscendingUnion (key : α → κ) (restricted : α → Bool) (uses result : List α) : Prop where
  union : IsUnion key restricted uses result
  ascending : result.Pairwise fun a b => key a < key b

namespace IsAscendingUnion

variable {key : α → κ} {restricted : α → Bool} {uses result result' : List α}

theorem unique (hext : ∀ a b, key a = key b → restricted a = restricted b → a = b)
    (h : IsAscendingUnion key restricted uses result) (h' : IsAscendingUnion key restricted uses result') :
    result = result' :=
  (h.union.perm_of hext h'.union).eq_of_pairwise (fun _ _ _ _ hab hba => absurd hab (lt_asymm hba))
    h.ascending h'.ascending

/-- A union that has been sorted. -/
theorem of_sorted (h : IsUnion key restricted uses result) (hsorted : result.Pairwise fun a b => key a ≤ key b) :
    IsAscendingUnion key restricted uses result := by
  have hdistinct := List.pairwise_map.1 (List.nodup_iff_pairwise_ne.1 h.distinct)
  exact ⟨h, (hsorted.and hdistinct).imp fun hab => lt_of_le_of_ne hab.1 hab.2⟩

end IsAscendingUnion

end Ascending

end Library
end Vastora
