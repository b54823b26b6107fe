import Mathlib.Data.Char
import Mathlib.Data.List.DropRight
import Mathlib.Data.Nat.Digits.Defs
import Mathlib.Order.Lattice
import Mathlib.Tactic.Ring
import Mathlib.Tactic.NormNum

/-!
# TextOrder — bytewise comparison of numbers written as text

Text is compared as lists of characters, first difference first.  This file develops what such a
comparison says about the numbers that were written:

* blocks of equal length are compared before what follows them (`append_lt_append_iff`);
* zero-padded decimal fields of one width compare as the numbers (`pad_lt_pad_iff`), and so does
  a whole record of such fields (`render_lt_render_iff`);
* a list with its trailing zeros removed and an upper terminator appended compares the *wrong*
  way round exactly when one list extends the other (`terminated_lt_iff`, `zeroPadded_lt_iff`).
-/

namespace Vastora
namespace Library
namespace TextOrder

/-! ## Comparison of lists -/

section Lists

variable {α : Type*} [LinearOrder α] {a b x y : List α} {z : α}

theorem append_lt_append_iff (h : a.length = b.length) :
    a ++ x < b ++ y ↔ a < b ∨ a = b ∧ x < y := by
  induction a generalizing b with
  | nil =>
      cases b with
      | nil => simp
      | cons d b => simp at h
  | cons c a ih =>
      cases b with
      | nil => simp at h
      | cons d b =>
          have hl : a.length = b.length := by simpa using h
          simp only [List.cons_append, List.cons_lt_cons_iff, ih hl, List.cons.injEq]
          tauto

theorem append_left_lt_iff : a ++ x < a ++ y ↔ x < y := by
  rw [append_lt_append_iff rfl]
  simp

/-- Two lists of which neither extends the other differ at a first position. -/
theorem exists_first_difference (hxy : ¬ x <+: y) (hyx : ¬ y <+: x) :
    ∃ p c d x' y', x = p ++ c :: x' ∧ y = p ++ d :: y' ∧ c ≠ d := by
  induction x generalizing y with
  | nil => exact absurd List.nil_prefix hxy
  | cons c x ih =>
      cases y with
      | nil => exact absurd List.nil_prefix hyx
      | cons d y =>
          by_cases hcd : c = d
          · subst hcd
            have hx : ¬ x <+: y := fun h => hxy (by simpa using h)
            have hy : ¬ y <+: x := fun h => hyx (by simpa using h)
            rcases ih hx hy with ⟨p, c', d', x', y', rfl, rfl, hne⟩
            exact ⟨c :: p, c', d', x', y', rfl, rfl, hne⟩
          · exact ⟨[], c, d, x, y, rfl, rfl, hcd⟩

/-- After a first difference the tails no longer matter. -/
theorem append_lt_append_of_incomparable (hxy : ¬ x <+: y) (hyx : ¬ y <+: x) :
    x ++ a < y ++ b ↔ x < y := by
  rcases exists_first_difference hxy hyx with ⟨p, c, d, x', y', rfl, rfl, hne⟩
  simp only [List.append_assoc, append_left_lt_iff, List.cons_append, List.cons_lt_cons_iff]
  simp [hne]

/-- With a terminator above every element, the list that continues is the smaller one. -/
theorem terminated_lt_of_prefix (hz : ∀ c ∈ y, c < z) (hxy : x <+: y) (hne : x ≠ y) :
    y ++ [z] < x ++ [z] := by
  rcases hxy with ⟨t, rfl⟩
  cases t with
  | nil => simp at hne
  | cons c t =>
      have hc : c < z := hz c (by simp)
      rw [List.append_assoc, append_left_lt_iff]
      simp [List.cons_lt_cons_iff, hc]

/-- Comparison of terminated lists. -/
theorem terminated_lt_iff (hx : ∀ c ∈ x, c < z) (hy : ∀ c ∈ y, c < z) (hne : x ≠ y) :
    x ++ [z] < y ++ [z] ↔ y <+: x ∨ ¬ x <+: y ∧ x < y := by
  by_cases hyx : y <+: x
  · simp [hyx, terminated_lt_of_prefix hx hyx (Ne.symm hne)]
  · by_cases hxy : x <+: y
    · have hlt : y ++ [z] < x ++ [z] := terminated_lt_of_prefix hy hxy hne
      refine ⟨fun h => absurd hlt (List.lt_asymm h), ?_⟩
      rintro (h | ⟨h, -⟩)
      · exact absurd h hyx
      · exact absurd hxy h
    · simp [hyx, hxy, append_lt_append_of_incomparable hxy hyx]

omit [LinearOrder α] in
/-- A list that does not end in `z` and extends into a block of `z`s stops before that block. -/
theorem prefix_of_prefix_append_replicate {n : Nat} (hlast : ∀ h : x ≠ [], x.getLast h ≠ z)
    (h : x <+: y ++ List.replicate n z) : x <+: y := by
  rcases List.prefix_or_prefix_of_prefix h (List.prefix_append y _) with hxy | ⟨t, rfl⟩
  · exact hxy
  · rcases List.eq_nil_or_concat t with rfl | ⟨t', c, rfl⟩
    · simp
    · have ht : t' ++ [c] <+: List.replicate n z := by
        simpa [List.prefix_append_right_inj] using h
      have hmem : c ∈ List.replicate n z := ht.subset (by simp)
      have hc : c = z := List.eq_of_mem_replicate hmem
      exact absurd hc (by simpa using hlast (by simp))

/-- A proper extension that does not end in the least element `z` is larger after padding. -/
theorem zeroPadded_lt_of_prefix {p q : Nat} (hz : ∀ c ∈ y, z ≤ c)
    (hlast : ∀ h : y ≠ [], y.getLast h ≠ z) (hlen : x.length + p = y.length + q)
    (hxy : x <+: y) (hne : x ≠ y) :
    x ++ List.replicate p z < y ++ List.replicate q z := by
  rcases hxy with ⟨t, rfl⟩
  have htail : List.replicate p z < t ++ List.replicate q z := by
    have hp : p = t.length + q := by simpa [Nat.add_assoc] using hlen
    have htne : t ≠ [] := by rintro rfl; simp at hne
    have hlt : t.getLast htne ≠ z := by
      simpa [List.getLast_append_of_ne_nil, htne] using hlast (by simp [htne])
    have htz : ∀ c ∈ t, z ≤ c := fun c hc => hz c (by simp [hc])
    subst hp
    rw [← List.replicate_append_replicate]
    clear hlast hne hlen hz
    induction t with
    | nil => exact absurd rfl htne
    | cons c t ih =>
        rw [List.length_cons, List.replicate_succ, List.cons_append, List.cons_append,
          List.cons_lt_cons_iff]
        rcases (htz c (by simp)).lt_or_eq with hc | rfl
        · exact Or.inl hc
        · cases t with
          | nil => simp at hlt
          | cons d t =>
              exact Or.inr ⟨rfl, ih (by simp) (by simpa using hlt)
                (fun e he => htz e (by simp [he]))⟩
  rw [List.append_assoc]
  exact append_left_lt_iff.2 htail

/-- Comparison of zero-padded lists. -/
theorem zeroPadded_lt_iff {p q : Nat} (hx : ∀ c ∈ x, z ≤ c) (hy : ∀ c ∈ y, z ≤ c)
    (hxl : ∀ h : x ≠ [], x.getLast h ≠ z) (hyl : ∀ h : y ≠ [], y.getLast h ≠ z)
    (hlen : x.length + p = y.length + q) (hne : x ≠ y) :
    x ++ List.replicate p z < y ++ List.replicate q z ↔ x <+: y ∨ ¬ y <+: x ∧ x < y := by
  by_cases hxy : x <+: y
  · simp [hxy, zeroPadded_lt_of_prefix hy hyl hlen hxy hne]
  · by_cases hyx : y <+: x
    · have hlt : y ++ List.replicate q z < x ++ List.replicate p z :=
        zeroPadded_lt_of_prefix hx hxl hlen.symm hyx (Ne.symm hne)
      refine ⟨fun h => absurd hlt (List.lt_asymm h), ?_⟩
      rintro (h | ⟨h, -⟩)
      · exact absurd h hxy
      · exact absurd hyx h
    · simp [hyx, hxy, append_lt_append_of_incomparable hxy hyx]

end Lists

/-! ## Zero-padded decimal fields -/

/-- The decimal digit of `n % 10`. -/
def digit (n : Nat) : Char := Nat.digitChar (n % 10)

theorem digit_lt_digit_iff (m n : Nat) : digit m < digit n ↔ m % 10 < n % 10 := by
  have key : ∀ i j : Fin 10, Nat.digitChar i.1 < Nat.digitChar j.1 ↔ i.1 < j.1 := by decide
  exact key ⟨m % 10, Nat.mod_lt _ (by decide)⟩ ⟨n % 10, Nat.mod_lt _ (by decide)⟩

theorem digit_eq_digit_iff (m n : Nat) : digit m = digit n ↔ m % 10 = n % 10 := by
  have key : ∀ i j : Fin 10, Nat.digitChar i.1 = Nat.digitChar j.1 ↔ i.1 = j.1 := by decide
  exact key ⟨m % 10, Nat.mod_lt _ (by decide)⟩ ⟨n % 10, Nat.mod_lt _ (by decide)⟩

theorem digit_mem_range (n : Nat) : '0' ≤ digit n ∧ digit n ≤ '9' := by
  have key : ∀ i : Fin 10, '0' ≤ Nat.digitChar i.1 ∧ Nat.digitChar i.1 ≤ '9' := by decide
  exact key ⟨n % 10, Nat.mod_lt _ (by decide)⟩

/-- The last `w` decimal digits of `n`, most significant first. -/
def pad : Nat → Nat → List Char
  | 0, _ => []
  | w + 1, n => digit (n / 10 ^ w) :: pad w n

@[simp] theorem length_pad (w n : Nat) : (pad w n).length = w := by
  induction w with
  | zero => rfl
  | succ w ih => simp [pad, ih]

theorem mem_pad {w n : Nat} {c : Char} (h : c ∈ pad w n) : '0' ≤ c ∧ c ≤ '9' := by
  induction w with
  | zero => simp [pad] at h
  | succ w ih =>
      rcases List.mem_cons.1 h with rfl | h
      · exact digit_mem_range _
      · exact ih h

private theorem mod_pow_succ_lt_iff (w m n : Nat) :
    m % 10 ^ (w + 1) < n % 10 ^ (w + 1) ↔
      m / 10 ^ w % 10 < n / 10 ^ w % 10 ∨
        m / 10 ^ w % 10 = n / 10 ^ w % 10 ∧ m % 10 ^ w < n % 10 ^ w := by
  have hm : m % 10 ^ w < 10 ^ w := Nat.mod_lt _ (by positivity)
  have hn : n % 10 ^ w < 10 ^ w := Nat.mod_lt _ (by positivity)
  rw [Nat.mod_pow_succ, Nat.mod_pow_succ]
  generalize m % 10 ^ w = a at *
  generalize n % 10 ^ w = b at *
  generalize m / 10 ^ w % 10 = i
  generalize n / 10 ^ w % 10 = j
  generalize 10 ^ w = P at *
  rcases Nat.lt_trichotomy i j with h | rfl | h
  · have : P * (i + 1) ≤ P * j := Nat.mul_le_mul_left _ h
    constructor
    · intro _; exact Or.inl h
    · intro _; rw [Nat.mul_add] at this; omega
  · simp
  · have : P * (j + 1) ≤ P * i := Nat.mul_le_mul_left _ h
    rw [Nat.mul_add] at this
    constructor <;> intro _ <;> omega

theorem pad_lt_pad_mod_iff (w m n : Nat) : pad w m < pad w n ↔ m % 10 ^ w < n % 10 ^ w := by
  induction w with
  | zero => simp [pad, Nat.mod_one]
  | succ w ih =>
      rw [mod_pow_succ_lt_iff, pad, pad, List.cons_lt_cons_iff, digit_lt_digit_iff,
        digit_eq_digit_iff, ih]

/-- Fields of one width compare as the numbers written in them. -/
theorem pad_lt_pad_iff {w m n : Nat} (hm : m < 10 ^ w) (hn : n < 10 ^ w) :
    pad w m < pad w n ↔ m < n := by
  rw [pad_lt_pad_mod_iff, Nat.mod_eq_of_lt hm, Nat.mod_eq_of_lt hn]

theorem mod_eq_of_pad_eq {w m n : Nat} (h : pad w m = pad w n) : m % 10 ^ w = n % 10 ^ w := by
  rcases Nat.lt_trichotomy (m % 10 ^ w) (n % 10 ^ w) with hlt | heq | hgt
  · exact absurd ((pad_lt_pad_mod_iff w m n).2 hlt) (by simp [h])
  · exact heq
  · exact absurd ((pad_lt_pad_mod_iff w n m).2 hgt) (by simp [h])

theorem pad_injective {w m n : Nat} (hm : m < 10 ^ w) (hn : n < 10 ^ w)
    (h : pad w m = pad w n) : m = n := by
  simpa [Nat.mod_eq_of_lt hm, Nat.mod_eq_of_lt hn] using mod_eq_of_pad_eq h

/-- The leading digits of a field are the field of the quotient. -/
theorem pad_add (k j n : Nat) : pad (k + j) n = pad k (n / 10 ^ j) ++ pad j n := by
  induction k with
  | zero => simp [pad]
  | succ k ih =>
      rw [Nat.succ_add, pad, pad, ih, Nat.div_div_eq_div_mul, ← Nat.pow_add, Nat.add_comm j k]
      rfl

theorem take_pad_add (k j n : Nat) : (pad (k + j) n).take k = pad k (n / 10 ^ j) := by
  rw [pad_add, List.take_left' (length_pad k _)]

theorem pad_of_dvd {j n : Nat} (h : 10 ^ j ∣ n) : pad j n = List.replicate j '0' := by
  induction j with
  | zero => rfl
  | succ j ih =>
      have hdig : digit (n / 10 ^ j) = '0' := by
        rcases h with ⟨q, rfl⟩
        have : 10 ^ (j + 1) * q / 10 ^ j = 10 * q := by
          rw [Nat.pow_succ, Nat.mul_assoc, Nat.mul_div_cancel_left _ (by positivity)]
        simp [digit, this]
      rw [pad, hdig, ih (dvd_trans (pow_dvd_pow 10 (Nat.le_succ j)) h), List.replicate_succ]

/-! ## Records of fixed-width fields -/

/-- A decimal number, zero-padded to `width` and written in full when it is wider. -/
def appendInt (n width : Nat) : List Char :=
  if n < 10 ^ width then pad width n else Nat.toDigits 10 n

/-- The fields `values` of widths and separators `layout`, one after the other. -/
def render : List (Nat × List Char) → List Nat → List Char
  | (w, sep) :: layout, v :: values => appendInt v w ++ sep ++ render layout values
  | _, _ => []

/-- Every value fits the width of its field. -/
def Fits (layout : List (Nat × List Char)) (values : List Nat) : Prop :=
  List.Forall₂ (fun f v => v < 10 ^ f.1) layout values

theorem render_lt_render_iff {layout : List (Nat × List Char)} {u v : List Nat}
    (hu : Fits layout u) (hv : Fits layout v) :
    render layout u < render layout v ↔ u < v := by
  induction hu generalizing v with
  | nil =>
      cases hv
      simp [render]
  | cons hm _ ih =>
      rcases hv with _ | ⟨hn, hv⟩
      rw [render, render, appendInt, appendInt, if_pos hm, if_pos hn, List.append_assoc,
        List.append_assoc, append_lt_append_iff (by simp), append_left_lt_iff, ih hv,
        pad_lt_pad_iff hm hn, List.cons_lt_cons_iff]
      constructor
      · rintro (h | ⟨h, ht⟩)
        · exact Or.inl h
        · exact Or.inr ⟨pad_injective hm hn h, ht⟩
      · rintro (h | ⟨rfl, ht⟩)
        · exact Or.inl h
        · exact Or.inr ⟨rfl, ht⟩

theorem length_render_eq {layout : List (Nat × List Char)} {u v : List Nat}
    (hu : Fits layout u) (hv : Fits layout v) :
    (render layout u).length = (render layout v).length := by
  induction hu generalizing v with
  | nil =>
      cases hv
      rfl
  | cons hm _ ih =>
      rcases hv with _ | ⟨hn, hv⟩
      simp [render, appendInt, hm, hn, ih hv]

/-! ## Fractions with trailing zeros removed -/

/-- The `w` digits of a fraction without its trailing zeros. -/
def trimmed (w n : Nat) : List Char := (pad w n).rdropWhile (· == '0')

/-- `a` is `b` cut off after one of its `w` fraction digits. -/
def Truncates (w a b : Nat) : Prop := ∃ j ≤ w, a = b / 10 ^ j * 10 ^ j

theorem trimmed_prefix_pad (w n : Nat) : trimmed w n <+: pad w n := List.rdropWhile_prefix _ _

theorem mem_trimmed {w n : Nat} {c : Char} (h : c ∈ trimmed w n) : '0' ≤ c ∧ c ≤ '9' :=
  mem_pad ((trimmed_prefix_pad w n).subset h)

theorem getLast_trimmed_ne (w n : Nat) (h : trimmed w n ≠ []) :
    (trimmed w n).getLast h ≠ '0' := by
  have hnot := List.rdropWhile_last_not (fun c => c == '0') (pad w n) h
  rwa [beq_iff_eq] at hnot

theorem pad_eq_trimmed_append (w n : Nat) :
    pad w n = trimmed w n ++ List.replicate (w - (trimmed w n).length) '0' := by
  have hsplit : trimmed w n ++ (pad w n).rtakeWhile (· == '0') = pad w n :=
    List.rdropWhile_append_rtakeWhile
  have hzeros : (pad w n).rtakeWhile (· == '0') =
      List.replicate ((pad w n).rtakeWhile (· == '0')).length '0' :=
    List.eq_replicate_iff.2 ⟨rfl, fun c hc => by simpa using List.mem_rtakeWhile_imp hc⟩
  have hlen : ((pad w n).rtakeWhile (· == '0')).length = w - (trimmed w n).length := by
    have := congrArg List.length hsplit
    rw [List.length_append, length_pad] at this
    omega
  rw [← hlen, ← hzeros, hsplit]

theorem length_trimmed_le (w n : Nat) : (trimmed w n).length ≤ w := by
  simpa using (trimmed_prefix_pad w n).length_le

/-- A trimmed fraction is the field of its significant digits, and the rest of it is zero. -/
theorem trimmed_eq_pad {k j n : Nat} (hk : (trimmed (k + j) n).length = k) :
    trimmed (k + j) n = pad k (n / 10 ^ j) ∧ n / 10 ^ j * 10 ^ j = n := by
  have hsig : trimmed (k + j) n = pad k (n / 10 ^ j) := by
    rw [List.prefix_iff_eq_take.1 (trimmed_prefix_pad (k + j) n), hk, take_pad_add]
  have hzero : pad j n = pad j 0 := by
    have h := pad_eq_trimmed_append (k + j) n
    rw [hk, hsig, pad_add, Nat.add_sub_cancel_left] at h
    rw [List.append_cancel_left h, pad_of_dvd (dvd_zero _)]
  have hmod : n % 10 ^ j = 0 := by simpa using mod_eq_of_pad_eq hzero
  exact ⟨hsig, Nat.div_mul_cancel (Nat.dvd_of_mod_eq_zero hmod)⟩

/-- The trimmed digits of `a` begin those of `b` exactly when `a` is a truncation of `b`. -/
theorem trimmed_prefix_trimmed_iff {w a b : Nat} (ha : a < 10 ^ w) (hb : b < 10 ^ w) :
    trimmed w a <+: trimmed w b ↔ Truncates w a b := by
  constructor
  · intro h
    -- The significant digits of `a` are `k` in number, and `b` agrees with `a` on them.
    obtain ⟨k, hk⟩ : ∃ k, (trimmed w a).length = k := ⟨_, rfl⟩
    obtain ⟨j, rfl⟩ := Nat.exists_eq_add_of_le (hk ▸ length_trimmed_le w a)
    rcases trimmed_eq_pad hk with ⟨hsig, hcut⟩
    have hb' : trimmed (k + j) a = pad k (b / 10 ^ j) := by
      have hpre := h.trans (trimmed_prefix_pad (k + j) b)
      rw [List.prefix_iff_eq_take.1 hpre, hk, take_pad_add]
    have hlt : ∀ n, n < 10 ^ (k + j) → n / 10 ^ j < 10 ^ k := by
      intro n hn
      exact Nat.div_lt_of_lt_mul (by rwa [← Nat.pow_add, Nat.add_comm j k])
    have hq := pad_injective (hlt a ha) (hlt b hb) (hsig.symm.trans hb')
    exact ⟨j, Nat.le_add_left j k, by rw [← hq, hcut]⟩
  · rintro ⟨j, hj, rfl⟩
    obtain ⟨k, rfl⟩ := Nat.exists_eq_add_of_le' hj
    have hpad : pad (k + j) (b / 10 ^ j * 10 ^ j) =
        pad k (b / 10 ^ j) ++ List.replicate j '0' := by
      rw [pad_add, Nat.mul_div_cancel _ (by positivity), pad_of_dvd (dvd_mul_left _ _)]
    -- Its last digit is not a zero, so the trimmed text stops inside the first `k` digits.
    have hk : trimmed (k + j) (b / 10 ^ j * 10 ^ j) <+: pad k (b / 10 ^ j) := by
      refine prefix_of_prefix_append_replicate (n := j) (getLast_trimmed_ne _ _) ?_
      exact hpad ▸ trimmed_prefix_pad (k + j) _
    have hpb : pad k (b / 10 ^ j) <+: pad (k + j) b := ⟨pad j b, (pad_add k j b).symm⟩
    have hpre := hk.trans hpb
    rw [pad_eq_trimmed_append (k + j) b] at hpre
    exact prefix_of_prefix_append_replicate (getLast_trimmed_ne _ _) hpre

theorem trimmed_injective {w a b : Nat} (ha : a < 10 ^ w) (hb : b < 10 ^ w)
    (h : trimmed w a = trimmed w b) : a = b := by
  refine pad_injective ha hb ?_
  rw [pad_eq_trimmed_append w a, pad_eq_trimmed_append w b, h]

theorem lt_iff_trimmed {w a b : Nat} (ha : a < 10 ^ w) (hb : b < 10 ^ w) (hne : a ≠ b) :
    a < b ↔ Truncates w a b ∨ ¬ Truncates w b a ∧ trimmed w a < trimmed w b := by
  have hne' : trimmed w a ≠ trimmed w b := fun h => hne (trimmed_injective ha hb h)
  have hla := length_trimmed_le w a
  have hlb := length_trimmed_le w b
  rw [← pad_lt_pad_iff ha hb, pad_eq_trimmed_append w a, pad_eq_trimmed_append w b,
    zeroPadded_lt_iff (fun c hc => (mem_trimmed hc).1) (fun c hc => (mem_trimmed hc).1)
      (getLast_trimmed_ne w a) (getLast_trimmed_ne w b) (by omega) hne',
    trimmed_prefix_trimmed_iff ha hb, trimmed_prefix_trimmed_iff hb ha]

/-- Trimmed fractions behind a terminator above the digits compare as the fractions, unless one
is a truncation of the other: then the longer one comes first. -/
theorem terminated_trimmed_lt_iff {w a b : Nat} {z : Char} (ha : a < 10 ^ w) (hb : b < 10 ^ w)
    (hz : '9' < z) :
    trimmed w a ++ [z] < trimmed w b ++ [z] ↔
      a ≠ b ∧ (Truncates w b a ∨ ¬ Truncates w a b ∧ a < b) := by
  by_cases hne : a = b
  · simp [hne]
  have hne' : trimmed w a ≠ trimmed w b := fun h => hne (trimmed_injective ha hb h)
  rw [terminated_lt_iff (fun c hc => (mem_trimmed hc).2.trans_lt hz)
      (fun c hc => (mem_trimmed hc).2.trans_lt hz) hne',
    trimmed_prefix_trimmed_iff ha hb, trimmed_prefix_trimmed_iff hb ha, lt_iff_trimmed ha hb hne]
  tauto

end TextOrder
end Library
end Vastora
