import Intake.Text.Utf8

/-!
# The order of texts and the order of their bytes

Texts are compared by their characters everywhere. `encode_lt` says that this is the order of their
UTF-8 bytes. It holds because the encoding of a smaller character is smaller at a byte that both
encodings have, whatever follows them.
-/

namespace Intake.Utf8

/-- The code point of a character lies below the end of Unicode. -/
theorem codePoint_lt (c : Char) : c.val.toNat < 0x110000 := by
  have valid : c.val.toNat < 0xd800 ∨ 0xdfff < c.val.toNat ∧ c.val.toNat < 0x110000 := c.valid
  omega

/-- The encodings of two characters are ordered as the characters are, whatever follows them. -/
theorem encodeChar_append_lt {c d : Char} (before : c < d) (left right : List UInt8) :
    String.utf8EncodeChar c ++ left < String.utf8EncodeChar d ++ right := by
  have order : c.val.toNat < d.val.toNat := before
  have bound := codePoint_lt d
  unfold String.utf8EncodeChar
  generalize c.val.toNat = smaller at *
  generalize d.val.toNat = greater at *
  -- One case for each pair of lengths; the first byte decides unless the lengths agree.
  dsimp only
  repeat' split
  all_goals
    simp only [List.cons_append, List.nil_append, List.cons_lt_cons_iff, UInt8.lt_iff_toNat_lt,
      UInt8.toNat_ofNat', ← UInt8.toNat_inj]
    simp (disch := omega) only [Nat.mod_eq_of_lt]
    omega

/-- A text that comes before another comes before it byte by byte. -/
theorem encode_lt {left right : List Char} (before : left < right) :
    encode left < encode right := by
  have ordered : List.Lex (· < ·) left right := before
  induction ordered with
  | nil =>
    rename_i c rest
    obtain ⟨first, others, shape⟩ := List.exists_cons_of_ne_nil (@String.utf8EncodeChar_ne_nil c)
    simp [encode, shape]
  | cons tail ih =>
    simpa only [encode, List.flatMap_cons] using List.append_left_lt (ih tail)
  | rel smaller => exact encodeChar_append_lt smaller _ _

end Intake.Utf8
