import DocExcerpt.Charset.Index.SimplifiedChinese
import DocExcerpt.Charset.Sequence

/-!
# GB18030

A character has one byte, two, or four. The four bytes of a character are, by turns, ones that can
begin a character and digits; together they cover all of Unicode.
-/

namespace DocExcerpt.Charset.Gb18030

def isLead (b : UInt8) : Bool := 0x81 ≤ b && b ≤ 0xFE

def isDigit (b : UInt8) : Bool := 0x30 ≤ b && b ≤ 0x39

/-! ## Two bytes -/

def column? (b : UInt8) : Option Nat :=
  if 0x40 ≤ b ∧ b ≤ 0x7E then some (b.toNat - 0x40)
  else if 0x80 ≤ b ∧ b ≤ 0xFE then some (b.toNat - 0x41)
  else none

/-- The character in one of the areas that are left to users. They are of private use. -/
def userDefined? (row column : Nat) : Option Char :=
  if column < 96 then
    if 0x20 ≤ row ∧ row ≤ 0x26 then some (Char.ofNat (0xE4C6 + 96 * (row - 0x20) + column))
    else none
  else if 0x29 ≤ row ∧ row ≤ 0x2E then
    some (Char.ofNat (0xE000 + 94 * (row - 0x29) + (column - 96)))
  else if 0x77 ≤ row ∧ row ≤ 0x7D then
    some (Char.ofNat (0xE234 + 94 * (row - 0x77) + (column - 96)))
  else none

def pair? (first second : UInt8) : Option Char := do
  let row := first.toNat - 0x81
  let column ← column? second
  (Index.simplifiedChinese.character? row column).or (userDefined? row column)

/-! ## Four bytes -/

def place (first second third fourth : UInt8) : Nat :=
  (((first.toNat - 0x81) * 10 + (second.toNat - 0x30)) * 126 + (third.toNat - 0x81)) * 10
    + (fourth.toNat - 0x30)

/-- The character at a place. One place lies outside its range. -/
def characterAt? (place : Nat) : Option Char :=
  if (39419 < place ∧ place < 189000) ∨ 1237575 < place then none
  else if place = 7457 then some '\uE7C7'
  else
    (Index.fourByteRanges.reverse.find? fun range => range.1 ≤ place).map fun range =>
      Char.ofNat (range.2 + (place - range.1))

/-! ## Texts -/

def decode : Bytes → Text
  | [] => []
  | first :: bytes =>
    if first < 0x80 then asciiCharacter first :: decode bytes
    else if first = 0x80 then '€' :: decode bytes
    else if !isLead first then Utf8.replacement :: decode bytes
    else
      match bytes with
      | [] => [Utf8.replacement]
      | second :: bytes =>
        if isDigit second then
          match bytes with
          | [] => [Utf8.replacement]
          | third :: rest =>
            if !isLead third then
              Utf8.replacement :: asciiCharacter second :: decode (third :: rest)
            else
              match rest with
              | [] => [Utf8.replacement]
              | fourth :: rest =>
                if isDigit fourth then
                  (characterAt? (place first second third fourth)).getD Utf8.replacement
                    :: decode rest
                else
                  Utf8.replacement :: asciiCharacter second :: decode (third :: fourth :: rest)
        else sequenceText ((pair? first second).map ([·])) second ++ decode bytes
termination_by bytes => bytes.length

end DocExcerpt.Charset.Gb18030
