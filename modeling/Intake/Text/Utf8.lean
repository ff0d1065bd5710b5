/-!
# UTF-8

Decoding byte by byte. Overlong forms, surrogates and values above U+10FFFF are refused, so every
text has exactly one encoding.
-/

namespace Intake

namespace Utf8

/-- A continuation byte. -/
def isContinuation (byte : UInt8) : Bool := 0x80 ≤ byte && byte ≤ 0xBF

/-- The low six bits of a continuation byte. -/
def payload (byte : UInt8) : Nat := byte.toNat % 64

/-- The character at the front of a byte list, with the bytes after it. -/
def decodeChar? : List UInt8 → Option (Char × List UInt8)
  | [] => none
  | a :: rest =>
    if a < 0x80 then some (Char.ofNat a.toNat, rest)
    else
      match rest with
      | b :: rest =>
        if !isContinuation b || a < 0xC2 then none
        else if a < 0xE0 then some (Char.ofNat (a.toNat % 32 * 64 + payload b), rest)
        else
          match rest with
          | c :: rest =>
            if !isContinuation c then none
            else if a < 0xF0 then
              let value := (a.toNat % 16 * 64 + payload b) * 64 + payload c
              if value < 0x800 ∨ (0xD800 ≤ value ∧ value ≤ 0xDFFF) then none
              else some (Char.ofNat value, rest)
            else
              match rest with
              | d :: rest =>
                let value := ((a.toNat % 8 * 64 + payload b) * 64 + payload c) * 64 + payload d
                if !isContinuation d || a > 0xF4 || value < 0x10000 || 0x10FFFF < value then none
                else some (Char.ofNat value, rest)
              | [] => none
          | [] => none
      | [] => none

/-- A decoded character takes at least one byte. -/
theorem decodeChar?_length {bytes rest : List UInt8} {c : Char}
    (found : decodeChar? bytes = some (c, rest)) : rest.length < bytes.length := by
  unfold decodeChar? at found
  repeat' split at found
  all_goals simp_all
  all_goals omega

/-- The characters of the longest prefix that is valid UTF-8, and the bytes after it. -/
def decodeValid (bytes : List UInt8) : List Char × List UInt8 :=
  match found : decodeChar? bytes with
  | some (c, rest) =>
    have := decodeChar?_length found
    let (text, rest) := decodeValid rest
    (c :: text, rest)
  | none => ([], bytes)
  termination_by bytes.length

/-- The text that bytes encode, if they are valid UTF-8. -/
def decode? (bytes : List UInt8) : Option (List Char) :=
  match decodeValid bytes with
  | (text, []) => some text
  | _ => none

/-- The bytes of a text. -/
def encode (text : List Char) : List UInt8 := text.flatMap String.utf8EncodeChar

end Utf8

end Intake
