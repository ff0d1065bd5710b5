/-!
# Blank characters

The characters with the Unicode property `White_Space`, and the text left when they are removed
from the ends. Names, layouts and input lines all use this one class.
-/

namespace Intake

/-- A character with the Unicode property `White_Space`. -/
def isBlank (c : Char) : Bool :=
  let n := c.toNat
  (9 ≤ n && n ≤ 13) || n == 0x20 || n == 0x85 || n == 0xA0 || n == 0x1680 ||
    (0x2000 ≤ n && n ≤ 0x200A) || n == 0x2028 || n == 0x2029 || n == 0x202F || n == 0x205F ||
    n == 0x3000

/-- The characters that remain after the leading blanks. -/
def trimStart (text : List Char) : List Char := text.dropWhile isBlank

/-- The characters between the leading and the trailing blanks. -/
def trim (text : List Char) : List Char := (trimStart (trimStart text).reverse).reverse

/-- A text holds nothing but blanks. -/
def isBlankText (text : String) : Bool := text.toList.all isBlank

/-- Removing leading blanks never lengthens a text. -/
theorem trimStart_length_le (text : List Char) : (trimStart text).length ≤ text.length :=
  (List.dropWhile_sublist _).length_le

/-- What remains after the leading blanks does not start with one. -/
theorem trimStart_idem (text : List Char) : trimStart (trimStart text) = trimStart text := by
  induction text with
  | nil => rfl
  | cons c rest ih =>
    unfold trimStart at ih ⊢
    by_cases h : isBlank c
    · simpa [h] using ih
    · simp [h]

end Intake
