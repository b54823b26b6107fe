import Vastora.Library.JsonText

/-!
# JsonIndent — the text an encoder writes for readers

`encodeIndent` puts every item and member on a line of its own, indented by two blanks a level.  Without the
white space between its tokens the text is the compact one (`compact_encodeIndent`), so it is readable in one
way only too.
-/

namespace Vastora
namespace Library
namespace Json

def newline (depth : Nat) : List Char := '\n' :: List.replicate (2 * depth) ' '

mutual

/-- The text of `json.MarshalIndent` with no prefix, `depth` levels down. -/
def encodeIndent (depth : Nat) : Json → List Char
  | array (item :: items) =>
      '[' :: (newline (depth + 1) ++ (encodeIndent (depth + 1) item ++ encodeIndentItems depth items))
  | object ((k, v) :: members) =>
      '\x7b' :: (newline (depth + 1) ++ (quote k ++ ':' :: ' ' ::
        (encodeIndent (depth + 1) v ++ encodeIndentMembers depth members)))
  | j => encode j

/-- The items after the first and the closing bracket. -/
def encodeIndentItems (depth : Nat) : List Json → List Char
  | [] => newline depth ++ [']']
  | item :: items =>
      ',' :: (newline (depth + 1) ++ (encodeIndent (depth + 1) item ++ encodeIndentItems depth items))

/-- The members after the first and the closing brace. -/
def encodeIndentMembers (depth : Nat) : List (String × Json) → List Char
  | [] => newline depth ++ ['\x7d']
  | (k, v) :: members =>
      ',' :: (newline (depth + 1) ++ (quote k ++ ':' :: ' ' ::
        (encodeIndent (depth + 1) v ++ encodeIndentMembers depth members)))

end

/-! ## Without white space -/

/-- Where a reader of the text is. -/
inductive Place where
  | outside
  | inString
  | afterSlash
deriving DecidableEq

def isBlank (c : Char) : Bool := c == ' ' || c == '\n'

/-- The text without the blanks that are in no string. -/
def compact : Place → List Char → List Char
  | _, [] => []
  | .outside, c :: cs =>
      if isBlank c then compact .outside cs
      else c :: compact (if c = '"' then .inString else .outside) cs
  | .inString, c :: cs =>
      c :: compact (if c = '"' then .outside else if c = '\\' then .afterSlash else .inString) cs
  | .afterSlash, c :: cs => c :: compact .inString cs

variable {r : List Char}

theorem compact_newline (depth : Nat) : compact .outside (newline depth ++ r) = compact .outside r := by
  have hblanks : ∀ n, compact .outside (List.replicate n ' ' ++ r) = compact .outside r := by
    intro n
    induction n with
    | zero => rfl
    | succ n ih => exact ih
  exact hblanks _

/-- Characters outside strings that are kept. -/
theorem compact_plain {cs : List Char} (h : ∀ c ∈ cs, isBlank c = false ∧ c ≠ '"') :
    compact .outside (cs ++ r) = cs ++ compact .outside r := by
  induction cs with
  | nil => rfl
  | cons c cs ih =>
      obtain ⟨hblank, hquote⟩ := h c List.mem_cons_self
      rw [List.cons_append, compact, hblank, if_neg hquote, ih fun d hd => h d (List.mem_cons_of_mem _ hd)]
      rfl

theorem hexDigit_plain : ∀ n < 16, hexDigit n ≠ '"' ∧ hexDigit n ≠ '\\' := by decide

theorem compact_inString {cs : List Char} (h : ∀ c ∈ cs, c ≠ '"' ∧ c ≠ '\\') :
    compact .inString (cs ++ r) = cs ++ compact .inString r := by
  induction cs with
  | nil => rfl
  | cons c cs ih =>
      obtain ⟨hquote, hslash⟩ := h c List.mem_cons_self
      rw [List.cons_append, compact, if_neg hquote, if_neg hslash, ih fun d hd => h d (List.mem_cons_of_mem _ hd)]
      rfl

theorem compact_escape (c : Char) :
    compact .inString (escape c ++ r) = escape c ++ compact .inString r := by
  rcases escape_cases c with ⟨e, -, hc⟩ | ⟨-, hc⟩ | ⟨hslash, hquote, hc⟩
  · rw [hc]
    rfl
  · have hhex : ∀ d ∈ hex4 c.toNat, d ≠ '"' ∧ d ≠ '\\' := by
      intro d hd
      simp only [hex4, List.mem_cons, List.not_mem_nil, or_false] at hd
      rcases hd with rfl | rfl | rfl | rfl
      all_goals exact hexDigit_plain _ (Nat.mod_lt _ (by decide))
    rw [hc]
    exact congrArg (fun cs => '\\' :: 'u' :: cs) (compact_inString hhex)
  · rw [hc]
    exact compact_inString (List.forall_mem_singleton.2 ⟨hquote, hslash⟩)

theorem compact_quote (s : String) : compact .outside (quote s ++ r) = quote s ++ compact .outside r := by
  have hchars : ∀ cs : List Char, compact .inString (cs.flatMap escape ++ ('"' :: r)) =
      cs.flatMap escape ++ ('"' :: compact .outside r) := by
    intro cs
    induction cs with
    | nil => rfl
    | cons c cs ih => rw [List.flatMap_cons, List.append_assoc, compact_escape, ih, List.append_assoc]
  have hquote : ∀ r' : List Char, quote s ++ r' = '"' :: (s.toList.flatMap escape ++ ('"' :: r')) := by
    intro r'
    simp [quote]
  rw [hquote, hquote, ← hchars]
  rfl

theorem not_blank_of_isNumberChar {c : Char} (h : isNumberChar c) : isBlank c = false ∧ c ≠ '"' := by
  constructor
  · rw [Bool.eq_false_iff]
    intro hblank
    rcases Bool.or_eq_true _ _ ▸ hblank with hc | hc
    all_goals
      rw [beq_iff_eq.1 hc] at h
      exact absurd h (by decide)
  · rintro rfl
    exact absurd h (by decide)

mutual

theorem compact_encodeIndent (depth : Nat) : ∀ (j : Json) {r : List Char},
    compact .outside (encodeIndent depth j ++ r) = encode j ++ compact .outside r
  | null, r => rfl
  | bool true, r => rfl
  | bool false, r => rfl
  | number n, r => compact_plain fun c hc => not_blank_of_isNumberChar ((isNumber_chars n.valid).2 c hc)
  | string s, r => compact_quote s
  | array [], r => rfl
  | array (item :: items), r => by
      have hitem := compact_encodeIndent (depth + 1) item (r := encodeIndentItems depth items ++ r)
      rw [compact_encodeIndentItems] at hitem
      simp only [encodeIndent, encode, List.cons_append, List.append_assoc, ← hitem]
      exact congrArg ('[' :: ·) (compact_newline _)
  | object [], r => rfl
  | object ((k, v) :: members), r => by
      have hvalue := compact_encodeIndent (depth + 1) v (r := encodeIndentMembers depth members ++ r)
      rw [compact_encodeIndentMembers] at hvalue
      simp only [encodeIndent, encode, List.cons_append, List.append_assoc, ← hvalue]
      exact congrArg ('\x7b' :: ·) ((compact_newline _).trans (compact_quote k))

theorem compact_encodeIndentItems (depth : Nat) : ∀ (items : List Json) {r : List Char},
    compact .outside (encodeIndentItems depth items ++ r) = encodeItems items ++ compact .outside r
  | [], r => by
      rw [encodeIndentItems, List.append_assoc, compact_newline]
      rfl
  | item :: items, r => by
      have hitem := compact_encodeIndent (depth + 1) item (r := encodeIndentItems depth items ++ r)
      rw [compact_encodeIndentItems] at hitem
      simp only [encodeIndentItems, encodeItems, List.cons_append, List.append_assoc, ← hitem]
      exact congrArg (',' :: ·) (compact_newline _)

theorem compact_encodeIndentMembers (depth : Nat) : ∀ (members : List (String × Json)) {r : List Char},
    compact .outside (encodeIndentMembers depth members ++ r) = encodeMembers members ++ compact .outside r
  | [], r => by
      rw [encodeIndentMembers, List.append_assoc, compact_newline]
      rfl
  | (k, v) :: members, r => by
      have hvalue := compact_encodeIndent (depth + 1) v (r := encodeIndentMembers depth members ++ r)
      rw [compact_encodeIndentMembers] at hvalue
      simp only [encodeIndentMembers, encodeMembers, List.cons_append, List.append_assoc, ← hvalue]
      exact congrArg (',' :: ·) ((compact_newline _).trans (compact_quote k))

end

/-- Equal texts come from equal values. -/
theorem encodeIndent_injective : Function.Injective (encodeIndent 0) := by
  intro j j' h
  have hcompact := congrArg (fun text => compact .outside (text ++ [])) h
  simp only [compact_encodeIndent] at hcompact
  exact encode_injective (List.append_cancel_right hcompact)

end Json
end Library
end Vastora
