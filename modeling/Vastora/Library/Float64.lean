import Mathlib.Tactic.Linarith
import Vastora.Library.Json

/-!
# Float64 — number literals that pass through a binary64 value

A decoder that keeps numbers as binary64 values and an encoder that writes the shortest decimal of a
value rewrite a literal.  `rewrite` is that function, on exact fractions: it rounds the literal to the
nearest value, ties to even, and fails when there is none; the text is the shortest decimal that rounds
to the value, the closest of these, ties to even, in positional notation between `1e-6` and `1e21`
and with an exponent otherwise.  `binary` is the value itself.
-/

namespace Vastora
namespace Library
namespace Float64

/-! ## Rounding -/

/-- `num / den` rounded to an integer, ties to even. -/
def roundEven (num den : Nat) : Nat :=
  let q := num / den
  let r := num % den
  if 2 * r < den ∨ 2 * r = den ∧ q % 2 = 0 then q else q + 1

/-- The fraction `num / den / base ^ e`. -/
def scale (base num den : Nat) (e : Int) : Nat × Nat :=
  if 0 ≤ e then (num, den * base ^ e.toNat) else (num * base ^ (-e).toNat, den)

/-- The weight of the last bit of the values next to `num / den`. -/
def lastPlace (num den : Nat) : Int :=
  let e : Int := Nat.log2 num - Nat.log2 den - 52
  let (n, d) := scale 2 num den e
  max (-1074) (if n / d < 2 ^ 52 then e - 1 else e)

/-- The significand and exponent of the nearest value; large fractions have none. -/
def nearest (num den : Nat) : Option (Nat × Int) :=
  let e := lastPlace num den
  let (n, d) := scale 2 num den e
  let m := roundEven n d
  let value := if m = 2 ^ 53 then (2 ^ 52, e + 1) else (m, e)
  if value.2 ≤ 971 then some value else none

/-! ## Shortest decimals -/

/-- The number of digits before the decimal point, negative for leading zeros behind it. -/
def magnitude (num den : Nat) : Int :=
  if den ≤ num then (Nat.toDigits 10 (num / den)).length
  else 1 - ((Nat.toDigits 10 ((den - 1) / num)).length : Int)

/-- The closest decimal with last digit `10 ^ p` that rounds to the value; of two, the even one. -/
def candidate (value : Nat × Int) (num den : Nat) (p : Int) : Option (Nat × Int) :=
  let (n, d) := scale 10 num den p
  let rounds (digits : Nat) : Bool :=
    let (n, d) := scale 10 digits 1 (-p)
    nearest n d == some value
  let low := n / d
  match rounds low, rounds (low + 1) with
  | true, true => some (roundEven n d, p)
  | true, false => some (low, p)
  | false, true => some (low + 1, p)
  | false, false => none

/-- Seventeen digits determine a value. -/
def shortest (value : Nat × Int) : Nat × Int :=
  let (num, den) := scale 2 value.1 1 (-value.2)
  ((List.range 17).findSome? fun n => candidate value num den (magnitude num den - (n + 1))).getD value

/-- Trailing zeros are moved into the exponent. -/
def trimZeros : Nat → Nat × Int → Nat × Int
  | 0, x => x
  | fuel + 1, (digits, p) =>
      if digits ≠ 0 ∧ digits % 10 = 0 then trimZeros fuel (digits / 10, p + 1) else (digits, p)

/-! ## Texts -/

/-- `digits * 10 ^ p`, without sign. -/
def render (digits : Nat) (p : Int) : List Char :=
  let ds := Nat.toDigits 10 digits
  let exponent : Int := ds.length + p - 1
  if digits = 0 then ['0']
  else if exponent < -6 ∨ 21 ≤ exponent then
    ds.take 1 ++ (if ds.length = 1 then [] else '.' :: ds.drop 1) ++
      'e' :: (if exponent < 0 then '-' else '+') :: Nat.toDigits 10 exponent.natAbs
  else if 0 ≤ p then ds ++ List.replicate p.toNat '0'
  else
    let k := (-p).toNat
    if k < ds.length then ds.take (ds.length - k) ++ '.' :: ds.drop (ds.length - k)
    else '0' :: '.' :: (List.replicate (k - ds.length) '0' ++ ds)

/-- The fraction that an unsigned literal denotes. -/
def fraction (cs : List Char) : Nat × Nat :=
  let whole := cs.takeWhile Char.isDigit
  let rest := cs.dropWhile Char.isDigit
  let part := match rest with
    | '.' :: cs => cs.takeWhile Char.isDigit
    | _ => []
  let tail := match rest with
    | '.' :: cs => cs.dropWhile Char.isDigit
    | cs => cs
  let exponent : Int := match tail with
    | _ :: '-' :: ds => -(Nat.ofDigitChars 10 ds 0 : Int)
    | _ :: '+' :: ds => Nat.ofDigitChars 10 ds 0
    | _ :: ds => Nat.ofDigitChars 10 ds 0
    | [] => 0
  scale 10 (Nat.ofDigitChars 10 (whole ++ part) 0) 1 (part.length - exponent)

/-! ## The text is a number -/

section Render

variable {c : Char} {cs : List Char}

theorem toDigits_head {n : Nat} (h : n ≠ 0) :
    ∃ c cs, Nat.toDigits 10 n = c :: cs ∧ c.isDigit ∧ c ≠ '0' ∧ ∀ c' ∈ cs, c'.isDigit := by
  induction n using Nat.strongRecOn with
  | _ n ih =>
      by_cases hlt : n < 10
      · refine ⟨Nat.digitChar n, [], Nat.toDigits_of_lt_base hlt, ?_, ?_, by simp⟩
        · have hall : ∀ n < 10, (Nat.digitChar n).isDigit := by decide
          exact hall n hlt
        · have hall : ∀ n < 10, n ≠ 0 → Nat.digitChar n ≠ '0' := by decide
          exact hall n hlt h
      · obtain ⟨c, cs, hcs, hdigit, hne, hall⟩ := ih (n / 10) (by omega) (by omega)
        have hlast : (Nat.digitChar (n % 10)).isDigit := by
          have hall : ∀ n < 10, (Nat.digitChar n).isDigit := by decide
          exact hall _ (by omega)
        refine ⟨c, cs ++ [Nat.digitChar (n % 10)], ?_, hdigit, hne, ?_⟩
        · rw [Nat.toDigits_of_base_le (by decide) (by omega), hcs, List.cons_append]
        · intro c' hc'
          rcases List.mem_append.1 hc' with hc' | hc'
          · exact hall c' hc'
          · rwa [List.mem_singleton.1 hc']

theorem dropWhile_digits {rest : List Char} (h : ∀ c ∈ cs, c.isDigit) (hrest : ∀ c ∈ rest.head?, c.isDigit = false) :
    (cs ++ rest).dropWhile Char.isDigit = rest := by
  rw [List.dropWhile_append_of_pos h]
  cases rest with
  | nil => rfl
  | cons c rest => exact List.dropWhile_cons_of_neg (by simp [hrest c (by simp)])

theorem isUnsigned_of_digits (cs rest : List Char) (hc : c.isDigit) (hne : c ≠ '0')
    (hcs : ∀ c ∈ cs, c.isDigit)
    (hrest : ∀ c ∈ rest.head?, c.isDigit = false) (h : isFraction rest) :
    isUnsigned (c :: (cs ++ rest)) := by
  rw [isUnsigned, if_neg hne, hc, Bool.true_and, dropWhile_digits hcs hrest]
  exact h

theorem isFraction_of_digits (rest : List Char) (hcs : ∀ c ∈ cs, c.isDigit) (hne : cs ≠ [])
    (hrest : ∀ c ∈ rest.head?, c.isDigit = false) (h : isExponent rest) :
    isFraction ('.' :: (cs ++ rest)) := by
  have htake : (cs ++ rest).takeWhile Char.isDigit ≠ [] := by
    cases cs with
    | nil => exact absurd rfl hne
    | cons c cs => simp [hcs c (by simp)]
  rw [isFraction, dropWhile_digits hcs hrest, h]
  simpa using htake

theorem isExponent_text {n : Nat} {sign : Char} (h : sign = '-' ∨ sign = '+') :
    isExponent ('e' :: sign :: Nat.toDigits 10 n) := by
  have hdigits : ∀ c ∈ Nat.toDigits 10 n, c.isDigit := fun c hc =>
    Nat.isDigit_of_mem_toDigits (by decide) (by decide) hc
  have hne : Nat.toDigits 10 n ≠ [] := Nat.toDigits_ne_nil
  rcases h with rfl | rfl <;> simpa [isExponent, hne] using hdigits

theorem isUnsigned_render (digits : Nat) (p : Int) : isUnsigned (render digits p) := by
  unfold render
  by_cases hzero : digits = 0
  · simp only [hzero, if_true]
    rfl
  obtain ⟨c, cs, hds, hc, hne, hcs⟩ := toDigits_head hzero
  simp only [hzero, if_false, hds]
  split
  · -- With an exponent: one digit, and the others behind the point.
    have hexp : isExponent ('e' :: (if ((c :: cs).length + p - 1 : Int) < 0 then '-' else '+') ::
        Nat.toDigits 10 ((c :: cs).length + p - 1 : Int).natAbs) :=
      isExponent_text (by split <;> simp)
    cases cs with
    | nil => exact isUnsigned_of_digits [] _ hc hne (by simp) (by simp) (by simpa [isFraction] using hexp)
    | cons c' cs =>
        refine isUnsigned_of_digits [] _ hc hne (by simp) (by simp) ?_
        exact isFraction_of_digits _ hcs (by simp) (by simp) hexp
  · split
    · have hall : ∀ c' ∈ cs ++ List.replicate p.toNat '0', c'.isDigit := by
        intro c' hc'
        rcases List.mem_append.1 hc' with hc' | hc'
        · exact hcs c' hc'
        · rw [(List.mem_replicate.1 hc').2]
          rfl
      simpa using isUnsigned_of_digits _ [] hc hne hall (by simp) rfl
    · rename_i hp
      split
      · -- The point stands inside the digits.
        rename_i hk
        obtain ⟨i, hi⟩ : ∃ i, (c :: cs).length - (-p).toNat = i + 1 :=
          ⟨(c :: cs).length - (-p).toNat - 1, by omega⟩
        have hi' : i < cs.length := by
          rw [List.length_cons] at hi hk
          omega
        rw [hi, List.take_succ_cons, List.drop_succ_cons, List.cons_append]
        refine isUnsigned_of_digits _ _ hc hne (fun c' hc' => hcs c' (List.mem_of_mem_take hc'))
          (by simp) ?_
        have hdrop : cs.drop i ≠ [] := by simpa using hi'
        simpa using isFraction_of_digits [] (fun c' hc' => hcs c' (List.mem_of_mem_drop hc')) hdrop
          (by simp) rfl
      · -- The digits stand behind zeros.
        have hall : ∀ c' ∈ List.replicate ((-p).toNat - (c :: cs).length) '0' ++ c :: cs, c'.isDigit := by
          intro c' hc'
          rcases List.mem_append.1 hc' with hc' | hc'
          · rw [(List.mem_replicate.1 hc').2]
            rfl
          · rcases List.mem_cons.1 hc' with rfl | hc'
            · exact hc
            · exact hcs c' hc'
        rw [isUnsigned, if_pos rfl]
        simpa using isFraction_of_digits [] hall (by simp) (by simp) rfl

theorem isNumber_of_isUnsigned (h : isUnsigned cs) : isNumber cs := by
  unfold isNumber
  split
  · cases h
  · exact h

end Render

/-! ## Rewriting -/

/-- An unsigned literal after it was a binary64 value. -/
def rewriteUnsigned (cs : List Char) : Option { text : List Char // isUnsigned text } :=
  let (num, den) := fraction cs
  if num = 0 then some ⟨['0'], rfl⟩
  else (nearest num den).map fun value =>
    let x := trimZeros 17 (shortest value)
    ⟨render x.1 x.2, isUnsigned_render x.1 x.2⟩

/-- A literal after it was a binary64 value; a zero keeps its sign. -/
def rewrite (n : NumberLiteral) : Option NumberLiteral :=
  match n.text.toList with
  | '-' :: cs => (rewriteUnsigned cs).map fun text =>
      ⟨String.ofList ('-' :: text.1), by simpa [isNumber] using text.2⟩
  | cs => (rewriteUnsigned cs).map fun text =>
      ⟨String.ofList text.1, by simpa using isNumber_of_isUnsigned text.2⟩

example : (rewrite ⟨"9007199254740993", by decide⟩).map NumberLiteral.text = some "9007199254740992" ∧
    (rewrite ⟨"25e-6", by decide⟩).map NumberLiteral.text = some "0.000025" ∧
    (rewrite ⟨"1125899906842624.7", by decide⟩).map NumberLiteral.text = some "1125899906842624.8" := by
  decide +kernel

/-! ## Values -/

/-- The significand and exponent of the value of an unsigned literal. -/
def binaryUnsigned (cs : List Char) : Option (Nat × Int) :=
  if (fraction cs).1 = 0 then some (0, 0)
  else (nearest (fraction cs).1 (fraction cs).2).map fun value => if value.1 = 0 then (0, 0) else value

/-- The binary64 value of a literal: its sign, significand and exponent. -/
def binary (n : NumberLiteral) : Option (Bool × Nat × Int) :=
  match n.text.toList with
  | '-' :: cs => (binaryUnsigned cs).map fun value => (true, value)
  | cs => (binaryUnsigned cs).map fun value => (false, value)

end Float64
end Library
end Vastora
