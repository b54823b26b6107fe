import Vastora.Library.PathEscape

/-!
# Runes — byte strings as texts

Go's strings are bytes, and what reads them as text takes a byte that starts no valid UTF-8 sequence for the
replacement character.  `runes` are the characters read that way and `replaceInvalid` is the string they are
written back to, which is what becomes of a string in JSON.  It changes exactly the strings that are not valid,
and its results are valid (`replaceInvalid_replaceInvalid`).
-/

namespace Vastora
namespace Library
namespace Runes

open PathEscape (utf8)

abbrev Bytes := List UInt8

/-- The valid sequence at the start of a string. -/
def firstRune (bytes : Bytes) : Option Char := bytes.toByteArray.utf8DecodeChar? 0

/-- The characters of a string that has at most `fuel` bytes. -/
def readRunes : Nat → Bytes → List Char
  | 0, _ => []
  | _ + 1, [] => []
  | fuel + 1, b :: bytes =>
      match firstRune (b :: bytes) with
      | some c => c :: readRunes fuel ((b :: bytes).drop c.utf8Size)
      | none => '\ufffd' :: readRunes fuel bytes

/-- `[]rune(s)`. -/
def runes (bytes : Bytes) : List Char := readRunes bytes.length bytes

/-- The string with U+FFFD for every byte that is not part of a valid sequence. -/
def replaceInvalid (bytes : Bytes) : Bytes := utf8 (runes bytes)

/-- `utf8.ValidString`. -/
def IsValid (bytes : Bytes) : Prop := replaceInvalid bytes = bytes

instance (bytes : Bytes) : Decidable (IsValid bytes) := inferInstanceAs (Decidable (_ = _))

theorem firstRune_utf8 (c : Char) (rest : Bytes) : firstRune (String.utf8EncodeChar c ++ rest) = some c := by
  rw [firstRune, List.toByteArray_append]
  exact ByteArray.utf8DecodeChar?_utf8EncodeChar_append

theorem readRunes_utf8 (cs : List Char) : ∀ fuel, (utf8 cs).length ≤ fuel → readRunes fuel (utf8 cs) = cs := by
  induction cs with
  | nil =>
      intro fuel _
      cases fuel <;> rfl
  | cons c cs ih =>
      intro fuel hfuel
      have hcons : utf8 (c :: cs) = String.utf8EncodeChar c ++ utf8 cs := rfl
      have hsize : (String.utf8EncodeChar c).length = c.utf8Size := String.length_utf8EncodeChar c
      have hpos : 0 < c.utf8Size := Char.utf8Size_pos c
      rw [hcons] at hfuel ⊢
      rw [List.length_append, hsize] at hfuel
      obtain ⟨b, bytes, hbytes⟩ : ∃ b bytes, String.utf8EncodeChar c ++ utf8 cs = b :: bytes := by
        cases hlist : String.utf8EncodeChar c ++ utf8 cs with
        | nil =>
            have hlength := congrArg List.length hlist
            rw [List.length_append, hsize, List.length_nil] at hlength
            omega
        | cons b bytes => exact ⟨b, bytes, rfl⟩
      cases fuel with
      | zero => omega
      | succ fuel =>
          rw [hbytes, readRunes, ← hbytes, firstRune_utf8]
          dsimp only
          rw [← hsize, List.drop_left, ih fuel (by omega)]

@[simp] theorem runes_utf8 (cs : List Char) : runes (utf8 cs) = cs := readRunes_utf8 cs _ le_rfl

theorem isValid_utf8 (cs : List Char) : IsValid (utf8 cs) := by
  rw [IsValid, replaceInvalid, runes_utf8]

/-- ASCII strings are valid. -/
theorem isValid_of_ascii {bytes : Bytes} (h : ∀ b ∈ bytes, b.toNat < 128) : IsValid bytes := by
  have hcode : ∀ n < 128, String.utf8EncodeChar (Char.ofNat n) = [UInt8.ofNat n] := by decide
  have hutf8 : utf8 (bytes.map fun b => Char.ofNat b.toNat) = bytes := by
    induction bytes with
    | nil => rfl
    | cons b bytes ih =>
        rw [List.forall_mem_cons] at h
        rw [utf8, List.map_cons, List.flatMap_cons, hcode b.toNat h.1, UInt8.ofNat_toNat]
        exact congrArg (b :: ·) (ih h.2)
  rw [← hutf8]
  exact isValid_utf8 _

theorem replaceInvalid_replaceInvalid (bytes : Bytes) :
    replaceInvalid (replaceInvalid bytes) = replaceInvalid bytes := isValid_utf8 (runes bytes)

end Runes
end Library
end Vastora
