import Vastora.Library.Json

/-!
# JsonText — the text an encoder writes

`encode` is the compact text of a value, in the escaping that is safe inside HTML.  Texts are readable
in one way only: a value and what follows it are determined by the characters (`encode_append_inj`), so
equal texts come from equal values.
-/

namespace Vastora
namespace Library
namespace Json

/-! ## Strings -/

/-- The characters with an escape of two characters. -/
def shortEscapes : List (Char × Char) :=
  [('"', '"'), ('\\', '\\'), ('\x08', 'b'), ('\x0c', 'f'), ('\n', 'n'), ('\r', 'r'), ('\t', 't')]

/-- The other characters that are not written as they are. -/
def isEscaped (c : Char) : Bool :=
  c.toNat < 32 || ['<', '>', '&', '\u2028', '\u2029'].contains c

def hexDigit (n : Nat) : Char := "0123456789abcdef".toList.getD n '0'

def hex4 (n : Nat) : List Char :=
  [hexDigit (n / 4096 % 16), hexDigit (n / 256 % 16), hexDigit (n / 16 % 16), hexDigit (n % 16)]

def escape (c : Char) : List Char :=
  match shortEscapes.lookup c with
  | some e => ['\\', e]
  | none => if isEscaped c then '\\' :: 'u' :: hex4 c.toNat else [c]

def quote (s : String) : List Char := '"' :: (s.toList.flatMap escape ++ ['"'])

/-! ## Values -/

mutual

def encode : Json → List Char
  | null => ['n', 'u', 'l', 'l']
  | bool true => ['t', 'r', 'u', 'e']
  | bool false => ['f', 'a', 'l', 's', 'e']
  | number n => n.text.toList
  | string s => quote s
  | array [] => ['[', ']']
  | array (item :: items) => '[' :: (encode item ++ encodeItems items)
  | object [] => ['\x7b', '\x7d']
  | object ((k, v) :: members) => '\x7b' :: (quote k ++ ':' :: (encode v ++ encodeMembers members))

/-- The items after the first and the closing bracket. -/
def encodeItems : List Json → List Char
  | [] => [']']
  | item :: items => ',' :: (encode item ++ encodeItems items)

/-- The members after the first and the closing brace. -/
def encodeMembers : List (String × Json) → List Char
  | [] => ['\x7d']
  | (k, v) :: members => ',' :: (quote k ++ ':' :: (encode v ++ encodeMembers members))

end

/-! ## Readability of strings -/

theorem hexDigit_injective : ∀ n < 16, ∀ m < 16, hexDigit n = hexDigit m → n = m := by decide

theorem hex4_injective {n m : Nat} (hn : n < 65536) (hm : m < 65536) (h : hex4 n = hex4 m) :
    n = m := by
  simp only [hex4, List.cons.injEq, and_true] at h
  have h3 := hexDigit_injective _ (Nat.mod_lt _ (by decide)) _ (Nat.mod_lt _ (by decide)) h.1
  have h2 := hexDigit_injective _ (Nat.mod_lt _ (by decide)) _ (Nat.mod_lt _ (by decide)) h.2.1
  have h1 := hexDigit_injective _ (Nat.mod_lt _ (by decide)) _ (Nat.mod_lt _ (by decide)) h.2.2.1
  have h0 := hexDigit_injective _ (Nat.mod_lt _ (by decide)) _ (Nat.mod_lt _ (by decide)) h.2.2.2
  omega

theorem toNat_of_isEscaped {c : Char} (h : isEscaped c) : c.toNat < 65536 := by
  simp only [isEscaped, Bool.or_eq_true, decide_eq_true_eq, List.contains_eq_mem, List.mem_cons,
    List.not_mem_nil, or_false] at h
  rcases h with h | rfl | rfl | rfl | rfl | rfl
  · omega
  all_goals decide

theorem mem_shortEscapes {c e : Char} (h : shortEscapes.lookup c = some e) : (c, e) ∈ shortEscapes := by
  obtain ⟨l₁, l₂, hl, -⟩ := List.lookup_eq_some_iff.1 h
  rw [hl]
  simp

/-- The three forms a character is written in. -/
theorem escape_cases (c : Char) :
    (∃ e, (c, e) ∈ shortEscapes ∧ escape c = ['\\', e]) ∨
      (isEscaped c ∧ escape c = '\\' :: 'u' :: hex4 c.toNat) ∨
      (c ≠ '\\' ∧ c ≠ '"' ∧ escape c = [c]) := by
  unfold escape
  cases h : shortEscapes.lookup c with
  | some e => exact Or.inl ⟨e, mem_shortEscapes h, rfl⟩
  | none =>
      by_cases he : isEscaped c
      · exact Or.inr (Or.inl ⟨he, by simp [he]⟩)
      · refine Or.inr (Or.inr ⟨?_, ?_, by simp [he]⟩)
        · rintro rfl
          cases h
        · rintro rfl
          cases h

theorem escape_append_inj {c d : Char} {r r' : List Char} (h : escape c ++ r = escape d ++ r') :
    c = d ∧ r = r' := by
  have hshort : ∀ p ∈ shortEscapes, ∀ q ∈ shortEscapes, p.2 = q.2 → p.1 = q.1 := by decide
  have hu : ∀ p ∈ shortEscapes, p.2 ≠ 'u' := by decide
  rcases escape_cases c with ⟨e, he, hc⟩ | ⟨he, hc⟩ | ⟨hslash, -, hc⟩ <;>
    rcases escape_cases d with ⟨e', he', hd⟩ | ⟨he', hd⟩ | ⟨hslash', -, hd⟩ <;>
    rw [hc, hd] at h
  · simp only [List.cons_append, List.nil_append, List.cons.injEq, true_and] at h
    exact ⟨hshort _ he _ he' h.1, h.2⟩
  · simp only [List.cons_append, List.nil_append, List.cons.injEq, true_and] at h
    exact absurd h.1 (hu _ he)
  · simp only [List.cons_append, List.cons.injEq] at h
    exact absurd h.1.symm hslash'
  · simp only [List.cons_append, List.nil_append, List.cons.injEq, true_and] at h
    exact absurd h.1.symm (hu _ he')
  · simp only [List.cons_append, List.cons.injEq, true_and] at h
    obtain ⟨hhex, hr⟩ := List.append_inj h rfl
    refine ⟨?_, hr⟩
    exact Char.toNat_inj.1 (hex4_injective (toNat_of_isEscaped he) (toNat_of_isEscaped he') hhex)
  · simp only [List.cons_append, List.cons.injEq] at h
    exact absurd h.1.symm hslash'
  · simp only [List.cons_append, List.cons.injEq] at h
    exact absurd h.1 hslash
  · simp only [List.cons_append, List.cons.injEq] at h
    exact absurd h.1 hslash
  · simpa using h

theorem quote_not_escape {c : Char} {r r' : List Char} : '"' :: r ≠ escape c ++ r' := by
  rcases escape_cases c with ⟨e, he, hc⟩ | ⟨he, hc⟩ | ⟨-, hquote, hc⟩ <;> rw [hc]
  · simp
  · simp
  · simpa using fun h => absurd h.symm hquote

theorem escapes_append_inj {cs ds r r' : List Char}
    (h : cs.flatMap escape ++ '"' :: r = ds.flatMap escape ++ '"' :: r') : cs = ds ∧ r = r' := by
  induction cs generalizing ds with
  | nil =>
      cases ds with
      | nil => simpa using h
      | cons d ds =>
          rw [List.flatMap_cons, List.append_assoc] at h
          exact absurd h quote_not_escape
  | cons c cs ih =>
      rw [List.flatMap_cons, List.append_assoc] at h
      cases ds with
      | nil => exact absurd h.symm quote_not_escape
      | cons d ds =>
          rw [List.flatMap_cons, List.append_assoc] at h
          obtain ⟨rfl, htail⟩ := escape_append_inj h
          obtain ⟨rfl, hr⟩ := ih htail
          exact ⟨rfl, hr⟩

theorem quote_append_inj {s t : String} {r r' : List Char} (h : quote s ++ r = quote t ++ r') :
    s = t ∧ r = r' := by
  simp only [quote, List.cons_append, List.append_assoc, List.nil_append, List.cons.injEq,
    true_and] at h
  obtain ⟨hchars, hr⟩ := escapes_append_inj h
  exact ⟨String.toList_inj.1 hchars, hr⟩

/-! ## Readability of values -/

/-- The kind of value that a text with this first character is. -/
def kindOf (c : Char) : Nat :=
  if c = 'n' then 0
  else if c = 't' ∨ c = 'f' then 1
  else if c.isDigit ∨ c = '-' then 2
  else if c = '"' then 3
  else if c = '[' then 4
  else if c = '\x7b' then 5
  else 6

def kind : Json → Nat
  | null => 0
  | bool _ => 1
  | number _ => 2
  | string _ => 3
  | array _ => 4
  | object _ => 5

theorem kindOf_of_number {c : Char} (h : c.isDigit ∨ c = '-') : kindOf c = 2 := by
  have hn : c ≠ 'n' := by
    rintro rfl
    revert h
    decide
  have htf : ¬ (c = 't' ∨ c = 'f') := by
    rintro (rfl | rfl) <;> revert h <;> decide
  simp [kindOf, hn, htf, h]

theorem encode_head (j : Json) : ∃ c cs, encode j = c :: cs ∧ kindOf c = kind j := by
  cases j with
  | null => exact ⟨_, _, rfl, rfl⟩
  | bool b => cases b <;> exact ⟨_, _, rfl, rfl⟩
  | number n =>
      obtain ⟨⟨c, cs, hcs, hc⟩, -⟩ := isNumber_chars n.valid
      exact ⟨c, cs, hcs, kindOf_of_number hc⟩
  | string s => exact ⟨_, _, rfl, rfl⟩
  | array items => cases items <;> exact ⟨_, _, rfl, rfl⟩
  | object members => cases members <;> exact ⟨_, _, rfl, rfl⟩

theorem kind_eq_of_append {j j' : Json} {r r' : List Char} (h : encode j ++ r = encode j' ++ r') :
    kind j = kind j' := by
  obtain ⟨c, cs, hj, hc⟩ := encode_head j
  obtain ⟨c', cs', hj', hc'⟩ := encode_head j'
  rw [hj, hj', List.cons_append, List.cons_append, List.cons.injEq] at h
  rw [← hc, ← hc', h.1]

theorem encode_ne_bracket {j : Json} {r r' : List Char} : encode j ++ r ≠ ']' :: r' := by
  obtain ⟨c, cs, hj, hc⟩ := encode_head j
  rw [hj]
  intro h
  obtain rfl := (List.cons.inj h).1
  have hother : kindOf ']' = 6 := by decide
  rw [hother] at hc
  cases j <;> cases hc

/-- What may follow a value: a number does not run into it. -/
def Ends (r : List Char) : Prop := ∀ c ∈ r.head?, isNumberChar c = false

theorem ends_encodeItems (items : List Json) (r : List Char) : Ends (encodeItems items ++ r) := by
  cases items <;> simp [Ends, encodeItems] <;> decide

theorem ends_encodeMembers (members : List (String × Json)) (r : List Char) :
    Ends (encodeMembers members ++ r) := by
  cases members <;> simp [Ends, encodeMembers] <;> decide

theorem takeWhile_number {cs r : List Char} (hcs : ∀ c ∈ cs, isNumberChar c) (hr : Ends r) :
    (cs ++ r).takeWhile isNumberChar = cs := by
  rw [List.takeWhile_append_of_pos hcs]
  cases r with
  | nil => simp
  | cons c r => simp [hr c rfl]

theorem number_append_inj {n m : NumberLiteral} {r r' : List Char} (hr : Ends r) (hr' : Ends r')
    (h : n.text.toList ++ r = m.text.toList ++ r') : n = m ∧ r = r' := by
  have htext : n.text.toList = m.text.toList := by
    rw [← takeWhile_number (isNumber_chars n.valid).2 hr, h,
      takeWhile_number (isNumber_chars m.valid).2 hr']
  rw [htext, List.append_cancel_left_eq] at h
  cases n
  cases m
  exact ⟨by simpa using String.toList_inj.1 htext, h⟩

mutual

/-- A value and what follows it are determined by the text. -/
theorem encode_append_inj : ∀ (j j' : Json) {r r' : List Char}, Ends r → Ends r' →
    encode j ++ r = encode j' ++ r' → j = j' ∧ r = r'
  | null, j', r, r', _, _, h => by
      cases j' with
      | null => simpa [encode] using h
      | _ => cases kind_eq_of_append h
  | bool b, j', r, r', _, _, h => by
      cases j' with
      | bool b' =>
          obtain rfl : b = b' := by
            cases b <;> cases b' <;> simp [encode] at h ⊢
          exact ⟨rfl, List.append_cancel_left h⟩
      | _ => cases kind_eq_of_append h
  | number n, j', r, r', hr, hr', h => by
      cases j' with
      | number m =>
          obtain ⟨rfl, hrest⟩ := number_append_inj hr hr' h
          exact ⟨rfl, hrest⟩
      | _ => cases kind_eq_of_append h
  | string s, j', r, r', _, _, h => by
      cases j' with
      | string t =>
          obtain ⟨rfl, hrest⟩ := quote_append_inj h
          exact ⟨rfl, hrest⟩
      | _ => cases kind_eq_of_append h
  | array items, j', r, r', _, _, h => by
      obtain ⟨items', rfl⟩ : ∃ items', j' = array items' := by
        cases j' with
        | array items' => exact ⟨items', rfl⟩
        | _ => cases kind_eq_of_append h
      cases items with
      | nil =>
          cases items' with
          | nil => simpa [encode] using h
          | cons item' items' =>
              simp only [encode, List.cons_append, List.nil_append, List.append_assoc,
                List.cons.injEq, true_and] at h
              exact absurd h.symm encode_ne_bracket
      | cons item items =>
          cases items' with
          | nil =>
              simp only [encode, List.cons_append, List.nil_append, List.append_assoc,
                List.cons.injEq, true_and] at h
              exact absurd h encode_ne_bracket
          | cons item' items' =>
              simp only [encode, List.cons_append, List.append_assoc, List.cons.injEq,
                true_and] at h
              obtain ⟨rfl, hrest⟩ := encode_append_inj item item' (ends_encodeItems _ _)
                (ends_encodeItems _ _) h
              obtain ⟨rfl, hr⟩ := encodeItems_append_inj items items' hrest
              exact ⟨rfl, hr⟩
  | object members, j', r, r', _, _, h => by
      obtain ⟨members', rfl⟩ : ∃ members', j' = object members' := by
        cases j' with
        | object members' => exact ⟨members', rfl⟩
        | _ => cases kind_eq_of_append h
      cases members with
      | nil =>
          cases members' with
          | nil => simpa [encode] using h
          | cons m' members' => simp [encode, quote] at h
      | cons m members =>
          cases members' with
          | nil => simp [encode, quote] at h
          | cons m' members' =>
              simp only [encode, List.cons_append, List.append_assoc, List.cons.injEq,
                true_and] at h
              obtain ⟨hk, hrest⟩ := quote_append_inj h
              simp only [List.cons.injEq, true_and] at hrest
              obtain ⟨hv, hrest⟩ := encode_append_inj m.2 m'.2 (ends_encodeMembers _ _)
                (ends_encodeMembers _ _) hrest
              obtain ⟨rfl, hr⟩ := encodeMembers_append_inj members members' hrest
              exact ⟨by rw [Prod.ext hk hv], hr⟩

theorem encodeItems_append_inj : ∀ (items items' : List Json) {r r' : List Char},
    encodeItems items ++ r = encodeItems items' ++ r' → items = items' ∧ r = r'
  | [], items', r, r', h => by
      cases items' with
      | nil => simpa [encodeItems] using h
      | cons item' items' => simp [encodeItems] at h
  | item :: items, items', r, r', h => by
      cases items' with
      | nil => simp [encodeItems] at h
      | cons item' items' =>
          simp only [encodeItems, List.cons_append, List.append_assoc, List.cons.injEq,
            true_and] at h
          obtain ⟨rfl, hrest⟩ := encode_append_inj item item' (ends_encodeItems _ _)
            (ends_encodeItems _ _) h
          obtain ⟨rfl, hr⟩ := encodeItems_append_inj items items' hrest
          exact ⟨rfl, hr⟩

theorem encodeMembers_append_inj : ∀ (members members' : List (String × Json)) {r r' : List Char},
    encodeMembers members ++ r = encodeMembers members' ++ r' → members = members' ∧ r = r'
  | [], members', r, r', h => by
      cases members' with
      | nil => simpa [encodeMembers] using h
      | cons m' members' => simp [encodeMembers] at h
  | (k, v) :: members, members', r, r', h => by
      cases members' with
      | nil => simp [encodeMembers] at h
      | cons m' members' =>
          simp only [encodeMembers, List.cons_append, List.append_assoc, List.cons.injEq,
            true_and] at h
          obtain ⟨hk, hrest⟩ := quote_append_inj h
          simp only [List.cons.injEq, true_and] at hrest
          obtain ⟨hv, hrest⟩ := encode_append_inj v m'.2 (ends_encodeMembers _ _)
            (ends_encodeMembers _ _) hrest
          obtain ⟨rfl, hr⟩ := encodeMembers_append_inj members members' hrest
          exact ⟨by rw [hk, hv], hr⟩

end

theorem encode_injective : Function.Injective encode := by
  intro j j' h
  have hends : Ends [] := by simp [Ends]
  exact (encode_append_inj j j' hends hends (by simpa using h)).1

instance : DecidableEq Json := fun j j' =>
  decidable_of_iff (encode j = encode j') encode_injective.eq_iff

end Json
end Library
end Vastora
