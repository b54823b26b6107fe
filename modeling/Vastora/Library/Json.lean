import Mathlib.Data.List.TakeWhile
import Mathlib.Data.String.Basic
import Mathlib.Tactic.Common

/-!
# Json — documents, and the values a decoder keeps of them

`Json` is the syntax of a document: numbers are their literals, and the members of an object stand in
the order they were written in, repeated names included.  A decoder that reads objects into maps keeps
the last member of each name; `decode` is that value, with the members in the order of their names, so
that two maps are equal exactly when their values are.

* `insertMember`, `field?`, `setField` — objects as maps;
* `Sorted` — the values a decoder produces; `decode` is the identity on them.
-/

namespace Vastora
namespace Library

/-! ## Number literals -/

/-- The characters of number literals. -/
def isNumberChar (c : Char) : Bool :=
  c.isDigit || c == '-' || c == '+' || c == '.' || c == 'e' || c == 'E'

/-- `([eE][+-]?[0-9]+)?` -/
def isExponent : List Char → Bool
  | [] => true
  | c :: cs =>
      let digits := match cs with
        | '+' :: ds => ds
        | '-' :: ds => ds
        | ds => ds
      (c == 'e' || c == 'E') && !digits.isEmpty && digits.all Char.isDigit

/-- `([.][0-9]+)?` and an exponent. -/
def isFraction : List Char → Bool
  | '.' :: cs => !(cs.takeWhile Char.isDigit).isEmpty && isExponent (cs.dropWhile Char.isDigit)
  | cs => isExponent cs

/-- `0` or digits that do not start with `0`, and a fraction. -/
def isUnsigned : List Char → Bool
  | [] => false
  | c :: cs =>
      if c = '0' then isFraction cs
      else c.isDigit && isFraction (cs.dropWhile Char.isDigit)

/-- The grammar of JSON numbers. -/
def isNumber : List Char → Bool
  | '-' :: cs => isUnsigned cs
  | cs => isUnsigned cs

theorem isNumberChar_of_isDigit {c : Char} (h : c.isDigit) : isNumberChar c := by
  simp [isNumberChar, h]

theorem isNumberChar_of_isExponent {cs : List Char} (h : isExponent cs) :
    ∀ c ∈ cs, isNumberChar c := by
  cases cs with
  | nil => simp
  | cons e cs =>
      simp only [isExponent, Bool.and_eq_true, List.all_eq_true] at h
      have he : isNumberChar e := by
        rcases Bool.or_eq_true _ _ ▸ h.1.1 with he | he <;> simp [isNumberChar, beq_iff_eq.1 he]
      have hdigits := fun c hc => isNumberChar_of_isDigit (h.2 c hc)
      refine List.forall_mem_cons.2 ⟨he, ?_⟩
      split at hdigits
      · exact List.forall_mem_cons.2 ⟨rfl, hdigits⟩
      · exact List.forall_mem_cons.2 ⟨rfl, hdigits⟩
      · exact hdigits

theorem isNumberChar_of_dropWhile {cs : List Char}
    (h : ∀ c ∈ cs.dropWhile Char.isDigit, isNumberChar c) : ∀ c ∈ cs, isNumberChar c := by
  intro c hc
  rw [← List.takeWhile_append_dropWhile (p := Char.isDigit) (l := cs), List.mem_append] at hc
  rcases hc with hc | hc
  · exact isNumberChar_of_isDigit (List.mem_takeWhile_imp hc)
  · exact h c hc

theorem isNumberChar_of_isFraction {cs : List Char} (h : isFraction cs) :
    ∀ c ∈ cs, isNumberChar c := by
  unfold isFraction at h
  split at h
  · rw [Bool.and_eq_true] at h
    have hrest := isNumberChar_of_dropWhile (isNumberChar_of_isExponent h.2)
    exact List.forall_mem_cons.2 ⟨rfl, hrest⟩
  · exact isNumberChar_of_isExponent h

theorem isUnsigned_chars {cs : List Char} (h : isUnsigned cs) :
    (∃ c rest, cs = c :: rest ∧ c.isDigit) ∧ ∀ c ∈ cs, isNumberChar c := by
  cases cs with
  | nil => cases h
  | cons c cs =>
      simp only [isUnsigned] at h
      split at h
      · rename_i hzero
        subst hzero
        exact ⟨⟨'0', cs, rfl, rfl⟩, List.forall_mem_cons.2 ⟨rfl, isNumberChar_of_isFraction h⟩⟩
      · rw [Bool.and_eq_true] at h
        have hrest := isNumberChar_of_dropWhile (isNumberChar_of_isFraction h.2)
        exact ⟨⟨c, cs, rfl, h.1⟩, List.forall_mem_cons.2 ⟨isNumberChar_of_isDigit h.1, hrest⟩⟩

/-- A number starts with a digit or a sign, and all its characters are those of numbers. -/
theorem isNumber_chars {cs : List Char} (h : isNumber cs) :
    (∃ c rest, cs = c :: rest ∧ (c.isDigit ∨ c = '-')) ∧ ∀ c ∈ cs, isNumberChar c := by
  unfold isNumber at h
  split at h
  · exact ⟨⟨_, _, rfl, Or.inr rfl⟩, List.forall_mem_cons.2 ⟨rfl, (isUnsigned_chars h).2⟩⟩
  · obtain ⟨⟨c, rest, hcs, hdigit⟩, hchars⟩ := isUnsigned_chars h
    exact ⟨⟨c, rest, hcs, Or.inl hdigit⟩, hchars⟩

/-- A number as it is written. -/
structure NumberLiteral where
  text : String
  valid : isNumber text.toList = true
deriving DecidableEq

/-! ## Documents -/

inductive Json where
  | null
  | bool (b : Bool)
  | number (n : NumberLiteral)
  | string (s : String)
  | array (items : List Json)
  | object (members : List (String × Json))

namespace Json

def items? : Json → Option (List Json)
  | array items => some items
  | _ => none

def members? : Json → Option (List (String × Json))
  | object members => some members
  | _ => none

def text? : Json → Option String
  | string s => some s
  | _ => none

/-- The value of a member, for objects that have it. -/
def field? (key : String) (j : Json) : Option Json := j.members?.bind fun members => members.lookup key

/-- A map with one more or one replaced member, in the order of the names. -/
def insertMember (key : String) (value : Json) : List (String × Json) → List (String × Json)
  | [] => [(key, value)]
  | (k, v) :: members =>
      if key = k then (key, value) :: members
      else if key < k then (key, value) :: (k, v) :: members
      else (k, v) :: insertMember key value members

/-- The object with a member set; other values stay. -/
def setField (j : Json) (key : String) (value : Json) : Json :=
  match j with
  | object members => object (insertMember key value members)
  | j => j

mutual

/-- The value of a document: of equal names the last member counts. -/
def decode : Json → Json
  | null => null
  | bool b => bool b
  | number n => number n
  | string s => string s
  | array items => array (decodeItems items)
  | object members => object (decodeMembers members)

def decodeItems : List Json → List Json
  | [] => []
  | item :: items => decode item :: decodeItems items

def decodeMembers : List (String × Json) → List (String × Json)
  | [] => []
  | (k, v) :: members =>
      if ((decodeMembers members).lookup k).isSome then decodeMembers members
      else insertMember k (decode v) (decodeMembers members)

end

mutual

/-- The members of every object stand in the order of their names, each name once. -/
def Sorted : Json → Prop
  | null | bool _ | number _ | string _ => True
  | array items => SortedItems items
  | object members => members.Pairwise (fun m m' => m.1 < m'.1) ∧ SortedMembers members

def SortedItems : List Json → Prop
  | [] => True
  | item :: items => Sorted item ∧ SortedItems items

def SortedMembers : List (String × Json) → Prop
  | [] => True
  | (_, v) :: members => Sorted v ∧ SortedMembers members

end

/-! ## Objects as maps -/

section Maps

variable {key k : String} {value v j : Json} {members : List (String × Json)} {items : List Json}

theorem lookup_cons_eq_ite : ((key, value) :: members).lookup k =
    if k = key then some value else members.lookup k := by
  by_cases h : k = key
  · simp [h]
  · simp [List.lookup_cons, h, beq_eq_false_iff_ne.2 h]

theorem lookup_insertMember : (insertMember key value members).lookup k =
    if k = key then some value else members.lookup k := by
  induction members with
  | nil => rw [insertMember, lookup_cons_eq_ite]
  | cons m members ih =>
      rcases m with ⟨k', v'⟩
      unfold insertMember
      split
      · rename_i hkey
        subst hkey
        rw [lookup_cons_eq_ite, lookup_cons_eq_ite]
        split <;> rfl
      · rename_i hkey
        split
        · rw [lookup_cons_eq_ite]
        · -- The new member stands behind `k'`, which is another name.
          rw [lookup_cons_eq_ite, lookup_cons_eq_ite, ih]
          by_cases hk : k = k'
          · subst hk
            simp [Ne.symm hkey]
          · simp [hk]

theorem mem_of_mem_insertMember {m : String × Json} (h : m ∈ insertMember key value members) :
    m = (key, value) ∨ m ∈ members := by
  induction members with
  | nil => exact Or.inl (List.mem_singleton.1 h)
  | cons m' members ih =>
      rcases m' with ⟨k', v'⟩
      unfold insertMember at h
      split at h
      · rcases List.mem_cons.1 h with h | h
        · exact Or.inl h
        · exact Or.inr (List.mem_cons_of_mem _ h)
      · split at h
        · exact List.mem_cons.1 h
        · rcases List.mem_cons.1 h with h | h
          · exact Or.inr (by simp [h])
          · exact (ih h).imp_right (List.mem_cons_of_mem _)

/-- A member that a filter drops may be set. -/
theorem filter_insertMember {p : String × Json → Bool} (h : ∀ v, p (key, v) = false) :
    (insertMember key value members).filter p = members.filter p := by
  induction members with
  | nil => simp [insertMember, h]
  | cons m members ih =>
      rcases m with ⟨k', v'⟩
      unfold insertMember
      split
      · rename_i hkey
        subst hkey
        simp [h]
      · split
        · simp [h]
        · rw [List.filter_cons, List.filter_cons, ih]

theorem pairwise_insertMember (h : members.Pairwise (fun m m' => m.1 < m'.1)) :
    (insertMember key value members).Pairwise (fun m m' => m.1 < m'.1) := by
  induction members with
  | nil => exact List.pairwise_singleton _ _
  | cons m members ih =>
      rcases m with ⟨k', v'⟩
      rw [List.pairwise_cons] at h
      unfold insertMember
      split
      · rename_i hkey
        subst hkey
        exact List.pairwise_cons.2 h
      · rename_i hkey
        split
        · rename_i hlt
          refine List.pairwise_cons.2 ⟨?_, List.pairwise_cons.2 h⟩
          exact List.forall_mem_cons.2 ⟨hlt, fun m hm => lt_trans hlt (h.1 m hm)⟩
        · rename_i hlt
          refine List.pairwise_cons.2 ⟨?_, ih h.2⟩
          intro m hm
          rcases mem_of_mem_insertMember hm with rfl | hm
          · exact lt_of_le_of_ne (not_lt.1 hlt) (Ne.symm hkey)
          · exact h.1 m hm

/-- A member before all others is put in front. -/
theorem insertMember_of_lt (h : ∀ m ∈ members, key < m.1) :
    insertMember key value members = (key, value) :: members := by
  cases members with
  | nil => rfl
  | cons m members =>
      have hlt : key < m.1 := h m (by simp)
      simp [insertMember, hlt, hlt.ne]

theorem lookup_eq_none_of_lt (h : ∀ m ∈ members, key < m.1) : members.lookup key = none := by
  induction members with
  | nil => rfl
  | cons m members ih =>
      have hlt : key < m.1 := h m (by simp)
      rw [lookup_cons_eq_ite, if_neg hlt.ne]
      exact ih fun m hm => h m (by simp [hm])

/-- Setting a member to the value it has changes nothing. -/
theorem insertMember_of_lookup (hkeys : members.Pairwise (fun m m' => m.1 < m'.1))
    (h : members.lookup key = some value) : insertMember key value members = members := by
  induction members with
  | nil => cases h
  | cons m members ih =>
      rcases m with ⟨k', v'⟩
      rw [List.pairwise_cons] at hkeys
      rw [lookup_cons_eq_ite] at h
      unfold insertMember
      split at h
      · rename_i hkey
        rw [if_pos hkey, hkey, Option.some.inj h]
      · rename_i hkey
        have hlt : ¬ key < k' := by
          intro hlt
          rw [lookup_eq_none_of_lt fun m hm => lt_trans hlt (hkeys.1 m hm)] at h
          cases h
        rw [if_neg hkey, if_neg hlt, ih hkeys.2 h]

theorem lookup_of_mem (hkeys : members.Pairwise (fun m m' => m.1 < m'.1)) {m : String × Json}
    (h : m ∈ members) : members.lookup m.1 = some m.2 := by
  induction members with
  | nil => cases h
  | cons m' members ih =>
      rcases m' with ⟨k', v'⟩
      rw [List.pairwise_cons] at hkeys
      rw [lookup_cons_eq_ite]
      rcases List.mem_cons.1 h with rfl | h
      · rw [if_pos rfl]
      · have hlt : k' < m.1 := hkeys.1 m h
        rw [if_neg fun heq => absurd (heq ▸ hlt) (lt_irrefl _), ih hkeys.2 h]

theorem sortedItems_iff : SortedItems items ↔ ∀ item ∈ items, Sorted item := by
  induction items with
  | nil => simp [SortedItems]
  | cons item items ih => simp [SortedItems, ih]

theorem sortedMembers_iff : SortedMembers members ↔ ∀ m ∈ members, Sorted m.2 := by
  induction members with
  | nil => simp [SortedMembers]
  | cons m members ih => simp [SortedMembers, ih]

theorem sortedMembers_insertMember (hv : Sorted value) (h : SortedMembers members) :
    SortedMembers (insertMember key value members) := by
  rw [sortedMembers_iff] at h ⊢
  intro m hm
  rcases mem_of_mem_insertMember hm with rfl | hm
  · exact hv
  · exact h m hm

theorem sorted_object (hkeys : (members.map Prod.fst).Pairwise (· < ·))
    (hvalues : ∀ m ∈ members, Sorted m.2) : Sorted (object members) :=
  ⟨List.pairwise_map.1 hkeys, sortedMembers_iff.2 hvalues⟩

mutual

theorem sorted_decode : ∀ j : Json, Sorted (decode j)
  | null | bool _ | number _ | string _ => trivial
  | array items => sortedItems_decodeItems items
  | object members => sorted_decodeMembers members

theorem sortedItems_decodeItems : ∀ items : List Json, SortedItems (decodeItems items)
  | [] => trivial
  | item :: items => ⟨sorted_decode item, sortedItems_decodeItems items⟩

theorem sorted_decodeMembers : ∀ members : List (String × Json),
    (decodeMembers members).Pairwise (fun m m' => m.1 < m'.1) ∧ SortedMembers (decodeMembers members)
  | [] => ⟨List.Pairwise.nil, trivial⟩
  | (k, v) :: members => by
      have ih := sorted_decodeMembers members
      unfold decodeMembers
      split
      · exact ih
      · exact ⟨pairwise_insertMember ih.1, sortedMembers_insertMember (sorted_decode v) ih.2⟩

end

mutual

theorem decode_of_sorted : ∀ j : Json, Sorted j → decode j = j
  | null, _ | bool _, _ | number _, _ | string _, _ => rfl
  | array items, h => by rw [decode, decodeItems_of_sorted items h]
  | object members, h => by rw [decode, decodeMembers_of_sorted members h.1 h.2]

theorem decodeItems_of_sorted : ∀ items : List Json, SortedItems items → decodeItems items = items
  | [], _ => rfl
  | item :: items, h => by
      rw [decodeItems, decode_of_sorted item h.1, decodeItems_of_sorted items h.2]

theorem decodeMembers_of_sorted : ∀ members : List (String × Json),
    members.Pairwise (fun m m' => m.1 < m'.1) → SortedMembers members →
    decodeMembers members = members
  | [], _, _ => rfl
  | (k, v) :: members, hkeys, h => by
      rw [List.pairwise_cons] at hkeys
      rw [decodeMembers, decodeMembers_of_sorted members hkeys.2 h.2,
        lookup_eq_none_of_lt hkeys.1, decode_of_sorted v h.1, insertMember_of_lt hkeys.1]
      rfl

end

theorem sorted_of_lookup (h : SortedMembers members) (hv : members.lookup key = some value) :
    Sorted value := by
  obtain ⟨l₁, l₂, hl, -⟩ := List.lookup_eq_some_iff.1 hv
  exact sortedMembers_iff.1 h (key, value) (by simp [hl])

/-! ## Members of a value -/

theorem members?_eq_some_iff : j.members? = some members ↔ j = object members := by
  cases j <;> simp [members?]

theorem items?_eq_some_iff : j.items? = some items ↔ j = array items := by
  cases j <;> simp [items?]

theorem text?_eq_some_iff : j.text? = some k ↔ j = string k := by
  cases j <;> simp [text?]

theorem field?_object : (object members).field? key = members.lookup key := rfl

/-- A value with a member is an object. -/
theorem eq_object_of_field? (h : j.field? key = some value) :
    ∃ members, j = object members ∧ members.lookup key = some value := by
  cases j with
  | object members => exact ⟨members, rfl, h⟩
  | _ => cases h

theorem members?_setField_isSome : (j.setField key value).members?.isSome = j.members?.isSome := by
  cases j <;> rfl

theorem field?_setField_self (h : j.members?.isSome) :
    (j.setField key value).field? key = some value := by
  obtain ⟨members, hj⟩ := Option.isSome_iff_exists.1 h
  obtain rfl := members?_eq_some_iff.1 hj
  simp [setField, field?_object, lookup_insertMember]

theorem field?_setField_of_ne (h : k ≠ key) : (j.setField key value).field? k = j.field? k := by
  cases j with
  | object members => simp [setField, field?_object, lookup_insertMember, h]
  | _ => rfl

theorem sorted_setField (hj : Sorted j) (hv : Sorted value) : Sorted (j.setField key value) := by
  cases j with
  | object members => exact ⟨pairwise_insertMember hj.1, sortedMembers_insertMember hv hj.2⟩
  | _ => exact hj

theorem setField_of_field? (hj : Sorted j) (h : j.field? key = some value) :
    j.setField key value = j := by
  obtain ⟨members, rfl, hlookup⟩ := eq_object_of_field? h
  rw [setField, insertMember_of_lookup hj.1 hlookup]

theorem sorted_of_field? (hj : Sorted j) (h : j.field? key = some value) : Sorted value := by
  obtain ⟨members, rfl, hlookup⟩ := eq_object_of_field? h
  exact sorted_of_lookup hj.2 hlookup

end Maps

end Json

end Library
end Vastora
