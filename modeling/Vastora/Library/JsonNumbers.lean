import Mathlib.Data.List.Forall2
import Vastora.Library.Json

/-!
# JsonNumbers — the number literals of a document

`mapNumbers f` replaces every number literal of a document by `f` of it and fails where `f` does.  It
keeps the shape of the document, and it changes nothing exactly when `f` keeps every literal.
-/

namespace Vastora
namespace Library
namespace Json

mutual

/-- The number literals of a document. -/
def numbers : Json → List NumberLiteral
  | null | bool _ | string _ => []
  | number n => [n]
  | array items => numbersItems items
  | object members => numbersMembers members

def numbersItems : List Json → List NumberLiteral
  | [] => []
  | item :: items => item.numbers ++ numbersItems items

def numbersMembers : List (String × Json) → List NumberLiteral
  | [] => []
  | (_, value) :: members => value.numbers ++ numbersMembers members

end

mutual

def mapNumbers (f : NumberLiteral → Option NumberLiteral) : Json → Option Json
  | null => some null
  | bool b => some (bool b)
  | string s => some (string s)
  | number n => (f n).map number
  | array items => (mapNumbersItems f items).map array
  | object members => (mapNumbersMembers f members).map object

def mapNumbersItems (f : NumberLiteral → Option NumberLiteral) : List Json → Option (List Json)
  | [] => some []
  | item :: items => (item.mapNumbers f).bind fun item' =>
      (mapNumbersItems f items).map fun items' => item' :: items'

def mapNumbersMembers (f : NumberLiteral → Option NumberLiteral) :
    List (String × Json) → Option (List (String × Json))
  | [] => some []
  | (key, value) :: members => (value.mapNumbers f).bind fun value' =>
      (mapNumbersMembers f members).map fun members' => (key, value') :: members'

end

variable {f : NumberLiteral → Option NumberLiteral} {j j' : Json} {items items' : List Json}
  {members members' : List (String × Json)} {key : String}

/-! ## Nothing changes -/

mutual

theorem mapNumbers_eq_self_iff : ∀ j : Json, j.mapNumbers f = some j ↔ ∀ n ∈ j.numbers, f n = some n
  | null | bool _ | string _ => by simp [mapNumbers, numbers]
  | number n => by simp [mapNumbers, numbers]
  | array items => by simp [mapNumbers, numbers, mapNumbersItems_eq_self_iff items]
  | object members => by simp [mapNumbers, numbers, mapNumbersMembers_eq_self_iff members]

theorem mapNumbersItems_eq_self_iff : ∀ items : List Json,
    mapNumbersItems f items = some items ↔ ∀ n ∈ numbersItems items, f n = some n
  | [] => by simp [mapNumbersItems, numbersItems]
  | item :: items => by
      simp only [mapNumbersItems, numbersItems, Option.bind_eq_some_iff, Option.map_eq_some_iff,
        List.cons.injEq, List.forall_mem_append, ← mapNumbers_eq_self_iff item,
        ← mapNumbersItems_eq_self_iff items]
      aesop

theorem mapNumbersMembers_eq_self_iff : ∀ members : List (String × Json),
    mapNumbersMembers f members = some members ↔ ∀ n ∈ numbersMembers members, f n = some n
  | [] => by simp [mapNumbersMembers, numbersMembers]
  | (key, value) :: members => by
      simp only [mapNumbersMembers, numbersMembers, Option.bind_eq_some_iff, Option.map_eq_some_iff,
        List.cons.injEq, Prod.mk.injEq, true_and, List.forall_mem_append,
        ← mapNumbers_eq_self_iff value, ← mapNumbersMembers_eq_self_iff members]
      aesop

end

/-! ## Shape -/

theorem mapNumbersItems_eq_some_iff : mapNumbersItems f items = some items' ↔
    List.Forall₂ (fun item item' => item.mapNumbers f = some item') items items' := by
  induction items generalizing items' with
  | nil => rw [mapNumbersItems, Option.some_inj, List.forall₂_nil_left_iff, eq_comm]
  | cons item items ih =>
      rw [List.forall₂_cons_left_iff]
      simp only [mapNumbersItems, Option.bind_eq_some_iff, Option.map_eq_some_iff, ih]
      constructor
      · rintro ⟨item', hitem, rest, hrest, rfl⟩
        exact ⟨item', rest, hitem, hrest, rfl⟩
      · rintro ⟨item', rest, hitem, hrest, rfl⟩
        exact ⟨item', hitem, rest, hrest, rfl⟩

theorem mem_numbersItems {n : NumberLiteral} :
    n ∈ numbersItems items ↔ ∃ item ∈ items, n ∈ item.numbers := by
  induction items with
  | nil => simp [numbersItems]
  | cons item items ih => simp [numbersItems, ih]

theorem mem_numbersMembers {n : NumberLiteral} :
    n ∈ numbersMembers members ↔ ∃ m ∈ members, n ∈ m.2.numbers := by
  induction members with
  | nil => simp [numbersMembers]
  | cons m members ih => simp [numbersMembers, ih]

/-- The members of the result are those of the document, under the same names. -/
theorem lookup_mapNumbersMembers (h : mapNumbersMembers f members = some members') :
    members'.map Prod.fst = members.map Prod.fst ∧
      ∀ key, members'.lookup key = (members.lookup key).bind (mapNumbers f) := by
  induction members generalizing members' with
  | nil =>
      obtain rfl := Option.some.inj h
      exact ⟨rfl, fun key => rfl⟩
  | cons m members ih =>
      rcases m with ⟨k, v⟩
      simp only [mapNumbersMembers, Option.bind_eq_some_iff, Option.map_eq_some_iff] at h
      obtain ⟨v', hv, rest, hrest, rfl⟩ := h
      obtain ⟨hkeys, hlookup⟩ := ih hrest
      refine ⟨by rw [List.map_cons, List.map_cons, hkeys], fun key => ?_⟩
      rw [lookup_cons_eq_ite, lookup_cons_eq_ite]
      split
      · rw [Option.bind_some, hv]
      · exact hlookup key

theorem mapNumbers_of_lookup (h : mapNumbersMembers f members = some members') {value : Json}
    (hvalue : members.lookup key = some value) : (value.mapNumbers f).isSome := by
  induction members generalizing members' with
  | nil => cases hvalue
  | cons m members ih =>
      rcases m with ⟨k, v⟩
      simp only [mapNumbersMembers, Option.bind_eq_some_iff, Option.map_eq_some_iff] at h
      obtain ⟨v', hv, rest, hrest, -⟩ := h
      rw [lookup_cons_eq_ite] at hvalue
      split at hvalue
      · obtain rfl := Option.some.inj hvalue
        rw [hv]
        rfl
      · exact ih hrest hvalue

theorem members?_mapNumbers (h : j.mapNumbers f = some j') :
    j'.members?.isSome = j.members?.isSome := by
  cases j <;> simp only [mapNumbers, Option.map_eq_some_iff, Option.some.injEq] at h
  all_goals first
    | subst h; rfl
    | obtain ⟨_, -, rfl⟩ := h; rfl

/-- A member stays, with its numbers replaced. -/
theorem exists_field?_mapNumbers (h : j.mapNumbers f = some j') {value : Json}
    (hfield : j.field? key = some value) :
    ∃ value', j'.field? key = some value' ∧ value.mapNumbers f = some value' := by
  obtain ⟨members, rfl, hlookup⟩ := eq_object_of_field? hfield
  simp only [mapNumbers, Option.map_eq_some_iff] at h
  obtain ⟨members', hmembers, rfl⟩ := h
  have hsome := mapNumbers_of_lookup hmembers hlookup
  obtain ⟨value', hvalue⟩ := Option.isSome_iff_exists.1 hsome
  refine ⟨value', ?_, hvalue⟩
  rw [field?_object, (lookup_mapNumbersMembers hmembers).2 key, hlookup, Option.bind_some, hvalue]

/-- An array member stays one, item by item. -/
theorem exists_items_mapNumbers (h : j.mapNumbers f = some j')
    (hfield : j.field? key = some (array items)) :
    ∃ items', j'.field? key = some (array items') ∧
      List.Forall₂ (fun item item' => item.mapNumbers f = some item') items items' := by
  obtain ⟨value, hvalue, hmap⟩ := exists_field?_mapNumbers h hfield
  simp only [mapNumbers, Option.map_eq_some_iff, mapNumbersItems_eq_some_iff] at hmap
  obtain ⟨items', hitems, rfl⟩ := hmap
  exact ⟨items', hvalue, hitems⟩

mutual

/-- The names stay in order. -/
theorem sorted_mapNumbers : ∀ {j j' : Json}, j.mapNumbers f = some j' → j.Sorted → j'.Sorted
  | null, _, h, _ | bool _, _, h, _ | string _, _, h, _ => by
      obtain rfl := Option.some.inj h
      trivial
  | number _, _, h, _ => by
      simp only [mapNumbers, Option.map_eq_some_iff] at h
      obtain ⟨_, -, rfl⟩ := h
      trivial
  | array items, _, h, hs => by
      simp only [mapNumbers, Option.map_eq_some_iff] at h
      obtain ⟨items', hitems, rfl⟩ := h
      exact sortedItems_mapNumbers hitems hs
  | object members, _, h, hs => by
      simp only [mapNumbers, Option.map_eq_some_iff] at h
      obtain ⟨members', hmembers, rfl⟩ := h
      refine ⟨?_, sortedMembers_mapNumbers hmembers hs.2⟩
      have hkeys := List.pairwise_map.2 hs.1
      rw [← (lookup_mapNumbersMembers hmembers).1] at hkeys
      exact List.pairwise_map.1 hkeys

theorem sortedItems_mapNumbers : ∀ {items items' : List Json},
    mapNumbersItems f items = some items' → SortedItems items → SortedItems items'
  | [], _, h, _ => by
      obtain rfl := Option.some.inj h
      trivial
  | item :: items, _, h, hs => by
      simp only [mapNumbersItems, Option.bind_eq_some_iff, Option.map_eq_some_iff] at h
      obtain ⟨item', hitem, rest, hrest, rfl⟩ := h
      exact ⟨sorted_mapNumbers hitem hs.1, sortedItems_mapNumbers hrest hs.2⟩

theorem sortedMembers_mapNumbers : ∀ {members members' : List (String × Json)},
    mapNumbersMembers f members = some members' → SortedMembers members → SortedMembers members'
  | [], _, h, _ => by
      obtain rfl := Option.some.inj h
      trivial
  | (k, v) :: members, _, h, hs => by
      simp only [mapNumbersMembers, Option.bind_eq_some_iff, Option.map_eq_some_iff] at h
      obtain ⟨v', hv, rest, hrest, rfl⟩ := h
      exact ⟨sorted_mapNumbers hv hs.1, sortedMembers_mapNumbers hrest hs.2⟩

end

/-! ## Documents that are kept -/

/-- Every number of the document is kept. -/
def Fixed (f : NumberLiteral → Option NumberLiteral) (j : Json) : Prop := ∀ n ∈ j.numbers, f n = some n

theorem fixed_iff : Fixed f j ↔ j.mapNumbers f = some j := (mapNumbers_eq_self_iff j).symm

theorem fixed_array_iff : Fixed f (array items) ↔ ∀ item ∈ items, Fixed f item := by
  simp only [Fixed, numbers, mem_numbersItems]
  exact ⟨fun h item hitem n hn => h n ⟨item, hitem, hn⟩, fun h n ⟨item, hitem, hn⟩ => h item hitem n hn⟩

theorem fixed_object_iff : Fixed f (object members) ↔ ∀ m ∈ members, Fixed f m.2 := by
  simp only [Fixed, numbers, mem_numbersMembers]
  exact ⟨fun h m hm n hn => h n ⟨m, hm, hn⟩, fun h n ⟨m, hm, hn⟩ => h m hm n hn⟩

theorem fixed_string (s : String) : Fixed f (string s) := by simp [Fixed, numbers]

theorem fixed_setField {value : Json} (hj : Fixed f j) (hvalue : Fixed f value) :
    Fixed f (j.setField key value) := by
  cases j with
  | object members =>
      refine fixed_object_iff.2 fun m hm => ?_
      rcases mem_of_mem_insertMember hm with rfl | hm
      · exact hvalue
      · exact fixed_object_iff.1 hj m hm
  | _ => exact hj

theorem fixed_of_field? {value : Json} (hj : Fixed f j) (h : j.field? key = some value) :
    Fixed f value := by
  obtain ⟨members, rfl, hlookup⟩ := eq_object_of_field? h
  obtain ⟨l₁, l₂, hl, -⟩ := List.lookup_eq_some_iff.1 hlookup
  exact fixed_object_iff.1 hj (key, value) (by simp [hl])

/-- A map is kept when each of its members is. -/
theorem fixed_of_sorted (hj : j.Sorted) (hobject : j.members?.isSome)
    (h : ∀ key value, j.field? key = some value → Fixed f value) : Fixed f j := by
  obtain ⟨members, hmembers⟩ := Option.isSome_iff_exists.1 hobject
  obtain rfl := members?_eq_some_iff.1 hmembers
  exact fixed_object_iff.2 fun m hm => h m.1 m.2 (lookup_of_mem hj.1 hm)

/-- Items in front of a list that stay in front of it are kept. -/
theorem fixed_of_prefix {items₀ items₁ : List Json}
    (h : List.Forall₂ (fun item item' => item.mapNumbers f = some item') items₀ items₁)
    (h₀ : items <+: items₀) (h₁ : items <+: items₁) : ∀ item ∈ items, Fixed f item := by
  have htake := List.forall₂_take items.length h
  rw [← List.prefix_iff_eq_take.1 h₀, ← List.prefix_iff_eq_take.1 h₁] at htake
  exact fun item hitem => fixed_iff.2 (List.forall₂_same.1 htake item hitem)

/-- Items at the end of a list that stay at its end are kept. -/
theorem fixed_of_suffix {items₀ items₁ : List Json}
    (h : List.Forall₂ (fun item item' => item.mapNumbers f = some item') items₀ items₁)
    (h₀ : items <:+ items₀) (h₁ : items <:+ items₁) : ∀ item ∈ items, Fixed f item := by
  have hdrop := List.forall₂_drop (items₀.length - items.length) h
  rw [← List.suffix_iff_eq_drop.1 h₀, h.length_eq, ← List.suffix_iff_eq_drop.1 h₁] at hdrop
  exact fun item hitem => fixed_iff.2 (List.forall₂_same.1 hdrop item hitem)

end Json
end Library
end Vastora
