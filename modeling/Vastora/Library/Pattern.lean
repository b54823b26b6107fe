import Mathlib

/-!
# Pattern — prefixes, suffixes and SQL `LIKE` on text

`like` is the `LIKE` operator of SQLite: `%` stands for any text, `_` for one character, and letters
compare without case.  The lemmas treat the two pattern shapes that occur as guards of counters kept
in text: a literal followed by `%`, and a literal, `%` and a literal suffix.
-/

namespace Vastora
namespace Library
namespace Pattern

def hasPrefix (s pre : String) : Bool := pre.toList.isPrefixOf s.toList

def hasSuffix (s suf : String) : Bool := suf.toList.isSuffixOf s.toList

/-- `s` without `pre`, when it starts with it. -/
def trimPrefix (s pre : String) : String :=
  if hasPrefix s pre then String.ofList (s.toList.drop pre.toList.length) else s

/-- Go's `unicode.IsSpace`. -/
def isSpace (c : Char) : Bool :=
  ['\t', '\n', '\x0b', '\x0c', '\r', ' ', '\u0085', '\u00a0', '\u1680', '\u2028', '\u2029', '\u202f',
    '\u205f', '\u3000'].contains c || ('\u2000' ≤ c && c ≤ '\u200a')

/-- Go's `strings.TrimSpace`. -/
def trimSpace (s : String) : String :=
  String.ofList ((s.toList.dropWhile isSpace).rdropWhile isSpace)

/-- SQLite's `LIKE`, on characters. -/
def likeChars : List Char → List Char → Bool
  | [], t => t.isEmpty
  | q :: p, t =>
      if q = '%' then t.tails.any (likeChars p)
      else
        match t with
        | [] => false
        | c :: t => (q == '_' || q.toLower == c.toLower) && likeChars p t

/-- `text LIKE pattern`. -/
def like (text pattern : String) : Bool := likeChars pattern.toList text.toList

variable {p t lit suf : List Char}

/-- A pattern character that stands for itself. -/
def Literal (c : Char) : Prop := c ≠ '%' ∧ c ≠ '_'

theorem likeChars_percent_cons (p t : List Char) :
    likeChars ('%' :: p) t = t.tails.any (likeChars p) := by
  simp [likeChars.eq_def ('%' :: p) t]

theorem likeChars_literal_nil {q : Char} (hq : Literal q) (p : List Char) :
    likeChars (q :: p) [] = false := by
  simp [likeChars.eq_def (q :: p) [], hq.1]

theorem likeChars_literal_cons {q : Char} (hq : Literal q) (c : Char) (p t : List Char) :
    likeChars (q :: p) (c :: t) = (q.toLower == c.toLower && likeChars p t) := by
  have hw : (q == '_') = false := by simpa using hq.2
  simp [likeChars.eq_def (q :: p) (c :: t), hq.1, hw]

/-- A literal start of a pattern is matched by the start of the text, up to case. -/
theorem prefix_of_likeChars (hlit : ∀ c ∈ lit, Literal c) (h : likeChars (lit ++ p) t) :
    lit.map Char.toLower <+: t.map Char.toLower := by
  induction lit generalizing t with
  | nil => exact List.nil_prefix
  | cons q lit ih =>
      have hq : Literal q := hlit q (by simp)
      cases t with
      | nil => simp [likeChars_literal_nil hq] at h
      | cons c t =>
          rw [List.cons_append, likeChars_literal_cons hq, Bool.and_eq_true, beq_iff_eq] at h
          have htail := ih (fun c hc => hlit c (by simp [hc])) h.2
          simpa [h.1] using htail

theorem likeChars_literal_append (lit p t : List Char) (hlit : ∀ c ∈ lit, Literal c) :
    likeChars (lit ++ p) (lit ++ t) = likeChars p t := by
  induction lit with
  | nil => rfl
  | cons q lit ih =>
      rw [List.cons_append, List.cons_append, likeChars_literal_cons (hlit q (by simp)),
        ih fun c hc => hlit c (by simp [hc])]
      simp

/-- `lit%suf` matches every text that starts with `lit` and continues to `suf`. -/
theorem likeChars_prefix_suffix (lit mid suf : List Char) (hlit : ∀ c ∈ lit, Literal c)
    (hsuf : ∀ c ∈ suf, Literal c) : likeChars (lit ++ '%' :: suf) (lit ++ (mid ++ suf)) = true := by
  rw [likeChars_literal_append lit _ _ hlit, likeChars_percent_cons, List.any_eq_true]
  refine ⟨suf, (List.mem_tails _ _).2 (List.suffix_append mid suf), ?_⟩
  have hself := likeChars_literal_append suf [] [] hsuf
  simpa [likeChars] using hself

/-! ## Counters written in decimal -/

theorem isDigit_of_mem_repr {n : Nat} {c : Char} (h : c ∈ (Nat.repr n).toList) : c.isDigit := by
  rw [Nat.toList_repr] at h
  exact Nat.isDigit_of_mem_toDigits (by decide) (by decide) h

theorem literal_of_isDigit {c : Char} (h : c.isDigit) : Literal c := by
  constructor <;> rintro rfl <;> simp at h

theorem toLower_of_isDigit {c : Char} (h : c.isDigit) : c.toLower = c := by
  unfold Char.toLower
  simp only [Char.isDigit, Bool.and_eq_true, decide_eq_true_eq] at h
  rw [dif_neg]
  rintro ⟨hA, -⟩
  exact absurd (UInt32.le_trans hA h.2) (by decide)

/-- A decimal counter ends at the first separator, so a matching one is the same counter. -/
theorem repr_prefix_injective {m n : Nat} {sep : Char} (hsep : sep.isDigit = false)
    (h : (Nat.repr m).toList ++ [sep] <+: (Nat.repr n).toList ++ sep :: t) : m = n := by
  rcases h with ⟨rest, hrest⟩
  have hcut : ∀ (k : Nat) (u : List Char),
      ((Nat.repr k).toList ++ sep :: u).takeWhile Char.isDigit = (Nat.repr k).toList := by
    intro k u
    rw [List.takeWhile_append_of_pos fun c hc => isDigit_of_mem_repr hc,
      List.takeWhile_cons_of_neg (by simp [hsep]), List.append_nil]
  have heq := hcut m rest
  rw [← List.singleton_append, ← List.append_assoc, hrest, hcut n t] at heq
  exact Nat.repr_injective (String.toList_inj.1 heq.symm)

end Pattern
end Library
end Vastora
