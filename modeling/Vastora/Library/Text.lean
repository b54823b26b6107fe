import Vastora.Library.Pattern

/-!
# Text — words and lines

`fields` are the stretches of a text between white space, as Go's `strings.Fields` finds them, and `lines` the
lines of a text that ends each of them.  Such a text, put together from parts that are ended one by one, has
the lines of its parts (`lines_flatMap`).
-/

namespace Vastora
namespace Library
namespace Text

open Pattern

/-- `strings.Fields`. -/
def fields (cs : List Char) : List (List Char) := (cs.splitOnP isSpace).filter fun piece => !piece.isEmpty

/-- The lines of a text whose last line is ended too. -/
def lines (cs : List Char) : List (List Char) := (cs.splitOn '\n').dropLast

/-- `strings.TrimSuffix`. -/
def trimSuffix (s suf : String) : String :=
  if hasSuffix s suf then String.ofList (s.toList.take (s.toList.length - suf.toList.length)) else s

/-- `strings.Contains`. -/
def contains (s sub : String) : Bool := s.toList.tails.any sub.toList.isPrefixOf

/-- A word: something, and no white space in it. -/
def IsToken (s : String) : Prop := s ≠ "" ∧ ∀ c ∈ s.toList, isSpace c = false

theorem isToken_iff (s : String) : (s != "" && s.toList.all fun c => !isSpace c) = true ↔ IsToken s := by
  simp [IsToken]

instance (s : String) : Decidable (IsToken s) := decidable_of_iff _ (isToken_iff s)

section Split

variable {sep : Char → Bool} {cs : List Char}

/-- The pieces have no separators in them. -/
theorem not_sep_of_mem_splitOnP {piece : List Char} (h : piece ∈ cs.splitOnP sep) :
    ∀ c ∈ piece, sep c = false := by
  induction cs generalizing piece with
  | nil =>
      rw [List.splitOnP_nil, List.mem_singleton] at h
      simp [h]
  | cons d cs ih =>
      obtain ⟨first, rest, hsplit⟩ := List.exists_cons_of_ne_nil (List.splitOnP_ne_nil sep cs)
      rw [List.splitOnP_cons_eq_if_modifyHead, hsplit] at h
      rw [hsplit] at ih
      cases hd : sep d with
      | true =>
          rw [if_pos hd, List.mem_cons] at h
          rcases h with rfl | h
          · simp
          · exact ih h
      | false =>
          rw [hd, if_neg Bool.false_ne_true, List.modifyHead_cons, List.mem_cons] at h
          rcases h with rfl | h
          · exact List.forall_mem_cons.2 ⟨hd, ih List.mem_cons_self⟩
          · exact ih (List.mem_cons_of_mem _ h)

theorem isToken_of_mem_fields {piece : List Char} (h : piece ∈ fields cs) :
    IsToken (String.ofList piece) := by
  obtain ⟨hmem, hne⟩ := List.mem_filter.1 h
  constructor
  · intro hempty
    have hnil : piece = [] := by simpa using congrArg String.toList hempty
    simp [hnil] at hne
  · intro c hc
    exact not_sep_of_mem_splitOnP hmem c (by simpa using hc)

/-- What holds of the separator and of the parts holds of every character between them. -/
theorem forall_mem_intercalate {p : Char → Prop} {sep : Char} (hsep : p sep) {parts : List (List Char)}
    (h : ∀ part ∈ parts, ∀ c ∈ part, p c) : ∀ c ∈ [sep].intercalate parts, p c := by
  induction parts with
  | nil => simp [List.intercalate]
  | cons part parts ih =>
      rw [List.forall_mem_cons] at h
      cases parts with
      | nil => simpa [List.intercalate] using h.1
      | cons next parts =>
          have hrest := ih h.2
          intro c hc
          have hmem : c ∈ part ∨ c = sep ∨ c ∈ [sep].intercalate (next :: parts) := by
            simpa [List.intercalate] using hc
          rcases hmem with hc | rfl | hc
          · exact h.1 c hc
          · exact hsep
          · exact hrest c hc

/-- White space divides the words. -/
theorem fields_append_space (cs ds : List Char) : fields (cs ++ ' ' :: ds) = fields cs ++ fields ds := by
  have hspace : isSpace ' ' = true := by decide
  rw [fields, List.splitOnP_append_cons _ _ hspace, List.filter_append, fields, fields]

theorem not_space_of_graphic {c : Char} (hlow : '!' ≤ c) (hhigh : c ≤ '~') : isSpace c = false := by
  rw [← Bool.not_eq_true]
  intro hspace
  rw [isSpace, Bool.or_eq_true, List.contains_iff_mem, Bool.and_eq_true, decide_eq_true_eq] at hspace
  rcases hspace with hspace | ⟨hblank, -⟩
  · have hnone : (['\t', '\n', '\x0b', '\x0c', '\r', ' ', '\u0085', '\u00a0', '\u1680', '\u2028', '\u2029',
        '\u202f', '\u205f', '\u3000'].all fun d => !decide ('!' ≤ d ∧ d ≤ '~')) = true := by decide
    simpa [hlow, hhigh] using List.all_eq_true.1 hnone c hspace
  · exact absurd (hblank.trans hhigh) (by decide)

theorem not_space_of_isDigit {c : Char} (h : c.isDigit) : isSpace c = false := by
  simp only [Char.isDigit, Bool.and_eq_true, decide_eq_true_eq] at h
  have hlow : '!' ≤ '0' := by decide
  have hhigh : '9' ≤ '~' := by decide
  exact not_space_of_graphic (hlow.trans h.1) (le_trans h.2 hhigh)

/-- A decimal number is a word. -/
theorem isToken_toString {v : Int} (h : 0 ≤ v) : IsToken (toString v) := by
  obtain ⟨k, rfl⟩ := Int.eq_ofNat_of_zero_le h
  have hrepr : toString (k : Int) = Nat.repr k := rfl
  rw [hrepr]
  constructor
  · intro hempty
    have hnil : Nat.toDigits 10 k = [] := by simpa [Nat.repr] using congrArg String.toList hempty
    exact Nat.toDigits_ne_nil hnil
  · intro c hc
    exact not_space_of_isDigit (isDigit_of_mem_repr hc)

/-- The lines of a text put together from ended parts. -/
theorem lines_flatMap {α : Type} (f : α → List Char) (parts : List α) :
    lines (parts.flatMap fun part => f part ++ ['\n']) = parts.flatMap fun part => (f part).splitOn '\n' := by
  have hsplit : (parts.flatMap fun part => f part ++ ['\n']).splitOn '\n' =
      (parts.flatMap fun part => (f part).splitOn '\n') ++ [[]] := by
    induction parts with
    | nil => rfl
    | cons part parts ih =>
        rw [List.flatMap_cons, List.flatMap_cons, List.append_assoc, List.singleton_append,
          List.splitOn_append_cons_self, ih, List.append_assoc]
  rw [lines, hsplit, List.dropLast_concat]

end Split

end Text
end Library
end Vastora
