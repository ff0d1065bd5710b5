import Intake.Unicode.Lookup

/-!
# Quoting a text visibly

A text of unknown contents is quoted in messages so that every character of it can be seen: those
that show nothing, or that only change the character before them, are written as escapes.
-/

namespace Intake

/-- Characters that show nothing of themselves. -/
def hiddenChars : CharSet :=
  ((Unicode.categorySet "C").union (Unicode.categorySet "Z")).union
    (Unicode.propertySet "Grapheme_Extend")
  |>.diff (.range 0x20 0x20)

/-- The visible form of a character inside double quotes. -/
def visibleChar (c : Char) : List Char :=
  match c with
  | '\x00' => ['\\', '0']
  | '\t' => ['\\', 't']
  | '\r' => ['\\', 'r']
  | '\n' => ['\\', 'n']
  | '\\' => ['\\', '\\']
  | '"' => ['\\', '"']
  | c =>
    if hiddenChars.contains c.toNat then
      "\\u\x7b".toList ++ Nat.toDigits 16 c.toNat ++ ['\x7d']
    else [c]

/-- A text in double quotes with all its characters visible. -/
def quotedVisibly (text : String) : String :=
  "\"" ++ String.ofList (text.toList.flatMap visibleChar) ++ "\""

end Intake
