import Vastora.Library.NetipText

/-!
# PathEscape — segments of URL paths

A segment is escaped byte by byte.  Unescaping gives bytes, which need not be a text; `pathUnescape` and
`pathEscape` are Go's `url.PathUnescape` and `url.PathEscape`.  What was escaped is unescaped to what it was
(`urlText_pathEscape`), in the middle of any other text.
-/

namespace Vastora
namespace Library
namespace PathEscape

def utf8 (cs : List Char) : List UInt8 := cs.flatMap String.utf8EncodeChar

/-- The text that bytes encode. -/
def text? (bytes : List UInt8) : Option String := String.fromUTF8? bytes.toByteArray

def pathUnescape : List Char → Option (List UInt8)
  | [] => some []
  | '%' :: a :: b :: cs => do
      let high ← Netip.hexDigit? a
      let low ← Netip.hexDigit? b
      let rest ← pathUnescape cs
      some (UInt8.ofNat (16 * high + low) :: rest)
  | c :: cs => if c = '%' then none else (pathUnescape cs).map (String.utf8EncodeChar c ++ ·)

/-- The text that a path stands for. -/
def urlText (path : List Char) : Option String := (pathUnescape path).bind text?

/-- The characters that stand for themselves in a segment. -/
def isPlain (c : Char) : Bool :=
  c.isAlphanum || ['-', '_', '.', '~', '$', '&', '+', '=', ':', '@'].contains c

def hexDigitUpper (n : Nat) : Char := "0123456789ABCDEF".toList.getD n '0'

def escapeByte (b : UInt8) : List Char := ['%', hexDigitUpper (b.toNat / 16), hexDigitUpper (b.toNat % 16)]

def pathEscape (s : String) : List Char :=
  s.toList.flatMap fun c => if isPlain c then [c] else (String.utf8EncodeChar c).flatMap escapeByte

/-! ## Round trip -/

variable {c : Char} {cs ds : List Char} {bytes : List UInt8}

theorem pathUnescape_cons_of_ne (h : c ≠ '%') :
    pathUnescape (c :: cs) = (pathUnescape cs).map (String.utf8EncodeChar c ++ ·) := by
  rw [pathUnescape, if_neg h]
  intro a b cs heq
  exact absurd heq h

theorem hexDigit?_hexDigitUpper : ∀ n < 16, Netip.hexDigit? (hexDigitUpper n) = some n := by decide

theorem pathUnescape_escapeByte (b : UInt8) :
    pathUnescape (escapeByte b ++ cs) = (pathUnescape cs).map (b :: ·) := by
  have hlt := b.toNat_lt
  have hhigh := hexDigit?_hexDigitUpper (b.toNat / 16) (by omega)
  have hlow := hexDigit?_hexDigitUpper (b.toNat % 16) (by omega)
  have hbyte : UInt8.ofNat (16 * (b.toNat / 16) + b.toNat % 16) = b := by
    rw [Nat.div_add_mod, UInt8.ofNat_toNat]
  simp only [escapeByte, List.cons_append, List.nil_append, pathUnescape, hhigh, hlow, Option.bind_eq_bind,
    Option.bind_some, hbyte]
  cases pathUnescape cs <;> rfl

theorem pathUnescape_escapeBytes :
    pathUnescape (bytes.flatMap escapeByte ++ cs) = (pathUnescape cs).map (bytes ++ ·) := by
  induction bytes with
  | nil => simp
  | cons b bytes ih =>
      rw [List.flatMap_cons, List.append_assoc, pathUnescape_escapeByte, ih, Option.map_map]
      rfl

/-- Characters that are not `%` are kept. -/
theorem pathUnescape_append (h : ∀ c ∈ cs, c ≠ '%') :
    pathUnescape (cs ++ ds) = (pathUnescape ds).map (utf8 cs ++ ·) := by
  induction cs with
  | nil => simp [utf8]
  | cons c cs ih =>
      rw [List.forall_mem_cons] at h
      rw [List.cons_append, pathUnescape_cons_of_ne h.1, ih h.2, Option.map_map]
      simp [utf8, Function.comp_def]

theorem ne_percent_of_isPlain (h : isPlain c) : c ≠ '%' := by
  rintro rfl
  revert h
  decide

theorem pathUnescape_pathEscape (s : String) :
    pathUnescape (pathEscape s ++ ds) = (pathUnescape ds).map (utf8 s.toList ++ ·) := by
  unfold pathEscape
  induction s.toList with
  | nil => simp [utf8]
  | cons c cs ih =>
      rw [List.flatMap_cons, List.append_assoc]
      have hstep : pathUnescape ((if isPlain c then [c] else (String.utf8EncodeChar c).flatMap escapeByte) ++
          ((cs.flatMap fun c => if isPlain c then [c] else (String.utf8EncodeChar c).flatMap escapeByte) ++ ds)) =
          (pathUnescape ((cs.flatMap fun c => if isPlain c then [c]
            else (String.utf8EncodeChar c).flatMap escapeByte) ++ ds)).map (String.utf8EncodeChar c ++ ·) := by
        split
        · rename_i hplain
          exact pathUnescape_cons_of_ne (ne_percent_of_isPlain hplain)
        · exact pathUnescape_escapeBytes
      rw [hstep, ih, Option.map_map]
      simp [utf8, Function.comp_def]

theorem text?_utf8 (cs : List Char) : text? (utf8 cs) = some (String.ofList cs) := by
  have hbytes : (utf8 cs).toByteArray = (String.ofList cs).toByteArray := by
    rw [String.toByteArray_ofList]
    rfl
  rw [text?, hbytes, String.fromUTF8?, dif_pos (String.ofList cs).isValidUTF8]
  rfl

/-- A text in which a segment was escaped. -/
theorem urlText_pathEscape (s : String) (hcs : ∀ c ∈ cs, c ≠ '%') (hds : ∀ c ∈ ds, c ≠ '%') :
    urlText (cs ++ (pathEscape s ++ ds)) = some (String.ofList (cs ++ (s.toList ++ ds))) := by
  have hrest : pathUnescape ds = some (utf8 ds) := by
    have h : pathUnescape (ds ++ []) = (pathUnescape []).map (utf8 ds ++ ·) := pathUnescape_append hds
    rw [List.append_nil] at h
    simpa [pathUnescape] using h
  rw [urlText, pathUnescape_append hcs, pathUnescape_pathEscape, hrest, ← text?_utf8]
  simp [utf8]

example : urlText (pathEscape "a%41/é") = some "a%41/é" ∧ urlText "a%41/é".toList = some "aA/é" := by
  decide +kernel

end PathEscape
end Library
end Vastora
