import Vastora.Library.Calendar

/-!
# Timestamp — instants as Center stores them

Center writes an instant as UTC text in Go's `RFC3339Nano` layout and lets the database compare the
text.  `Instant.format` is that text and `format_lt_format_iff` says what the comparison decides:
instants of different seconds compare in time order, and inside one second so do all pairs but
those in which one nanosecond count is a truncation of the other (`Instant.Clash`).
-/

namespace Vastora
namespace Center

open Library.TextOrder Library.Calendar

/-- A point in time, counted from 0000-01-01T00:00:00Z. -/
structure Instant where
  sec : Nat
  nsec : Nat
  nsec_lt : nsec < 10 ^ 9
deriving DecidableEq, Repr

namespace Instant

variable {a b : Instant}

/-- `a` is strictly earlier than `b`. -/
def Before (a b : Instant) : Prop := a.sec < b.sec ∨ a.sec = b.sec ∧ a.nsec < b.nsec

instance : Decidable (Before a b) := inferInstanceAs (Decidable (_ ∨ _))

/-- `t.Add` of a whole number of seconds. -/
def add (t : Instant) (seconds : Nat) : Instant := { t with sec := t.sec + seconds }

/-- The instant has a year of four digits. -/
def InRange (t : Instant) : Prop := year (t.sec / 86400) < 10000

instance (t : Instant) : Decidable t.InRange :=
  inferInstanceAs (Decidable (year (t.sec / 86400) < 10000))

/-- The fraction of `RFC3339Nano`: trailing zeros removed, omitted when it is zero. -/
def appendNano (nsec : Nat) : List Char :=
  if trimmed 9 nsec = [] then [] else '.' :: trimmed 9 nsec

/-- `t.UTC().Format(time.RFC3339Nano)`. -/
def format (t : Instant) : String :=
  String.ofList (render layout (fields t.sec) ++ (appendNano t.nsec ++ ['Z']))

theorem format_ne_empty (t : Instant) : t.format ≠ "" := by
  intro h
  have hchars := congrArg String.toList h
  simp [format] at hchars

/-- Two instants of one second of which one drops fraction digits of the other. -/
def Clash (a b : Instant) : Prop :=
  a.sec = b.sec ∧ a.nsec ≠ b.nsec ∧ (Truncates 9 a.nsec b.nsec ∨ Truncates 9 b.nsec a.nsec)

/-! ## Comparison of formatted instants -/

/-- The decimal point orders like an empty fraction: it only ever meets the terminator. -/
theorem appendNano_lt_iff (m n : Nat) :
    appendNano m ++ ['Z'] < appendNano n ++ ['Z'] ↔ trimmed 9 m ++ ['Z'] < trimmed 9 n ++ ['Z'] := by
  have hdigit : ∀ k c l, trimmed 9 k = c :: l → c < 'Z' := by
    intro k c l h
    exact (mem_trimmed (w := 9) (n := k) (by simp [h])).2.trans_lt (by decide)
  unfold appendNano
  cases hm : trimmed 9 m with
  | nil =>
      cases hn : trimmed 9 n with
      | nil => simp
      | cons d l =>
          have hd := hdigit n d l hn
          simp [List.cons_lt_cons_iff, hd.not_gt, hd.ne']
  | cons c k =>
      have hc := hdigit m c k hm
      cases hn : trimmed 9 n with
      | nil =>
          simp [List.cons_lt_cons_iff, hc]
      | cons d l => simp [List.cons_lt_cons_iff]

theorem format_lt_format_iff (ha : a.InRange) (hb : b.InRange) :
    a.format < b.format ↔ a.sec < b.sec ∨ a.sec = b.sec ∧ a.nsec ≠ b.nsec ∧
      (Truncates 9 b.nsec a.nsec ∨ ¬ Truncates 9 a.nsec b.nsec ∧ a.nsec < b.nsec) := by
  have hfa := fits_fields ha
  have hfb := fits_fields hb
  have hlen := length_render_eq hfa hfb
  unfold format
  rw [String.lt_iff, String.toList_ofList, String.toList_ofList,
    append_lt_append_iff hlen, render_lt_render_iff hfa hfb, appendNano_lt_iff,
    terminated_trimmed_lt_iff a.nsec_lt b.nsec_lt (by decide)]
  rcases Nat.lt_trichotomy a.sec b.sec with hlt | heq | hgt
  · simp [hlt, fields_lt_fields hlt]
  · simp [heq]
  · have hf := fields_lt_fields hgt
    have hne : render layout (fields a.sec) ≠ render layout (fields b.sec) := by
      intro h
      have hlt := (render_lt_render_iff hfb hfa).2 hf
      rw [h] at hlt
      exact List.lt_irrefl _ hlt
    have hnf : ¬ fields a.sec < fields b.sec := List.lt_asymm hf
    simp [hgt.ne', hgt.not_gt, hne, hnf]

theorem le_of_truncates {w m n : Nat} (h : Truncates w m n) : m ≤ n := by
  rcases h with ⟨j, -, rfl⟩
  exact Nat.div_mul_le_self n _

/-- The text comparison follows time order exactly on the pairs that do not clash. -/
theorem format_lt_iff_before_iff (ha : a.InRange) (hb : b.InRange) :
    (a.format < b.format ↔ a.Before b) ↔ ¬ Clash a b := by
  rw [format_lt_format_iff ha hb]
  unfold Before Clash
  by_cases hs : a.sec = b.sec
  · by_cases hn : a.nsec = b.nsec
    · simp [hs, hn]
    · by_cases h1 : Truncates 9 a.nsec b.nsec
      · have hab := le_of_truncates h1
        by_cases h2 : Truncates 9 b.nsec a.nsec
        · exact absurd (hab.antisymm (le_of_truncates h2)) hn
        · simp [hs, hn, h1, h2]
          omega
      · by_cases h2 : Truncates 9 b.nsec a.nsec
        · have hba := le_of_truncates h2
          simp [hs, hn, h1, h2]
          omega
        · simp [hs, hn, h1, h2]
  · simp [hs]

example : format ⟨63934444800, 510000000, by decide⟩ = "2026-01-01T00:00:00.51Z" := by decide

end Instant
end Center
end Vastora
