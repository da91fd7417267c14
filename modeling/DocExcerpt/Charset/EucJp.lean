import DocExcerpt.Charset.Index.Japanese
import DocExcerpt.Charset.Sequence

/-!
# EUC-JP

A character has one byte, two, or three: ASCII, katakana of half width behind a shift byte, the
characters of JIS X 0208, and those of JIS X 0212 behind another shift byte.
-/

namespace DocExcerpt.Charset.EucJp

def cell? (b : UInt8) : Option Nat :=
  if 0xA1 ≤ b ∧ b ≤ 0xFE then some (b.toNat - 0xA1) else none

def inIndex? (index : Index) (first second : UInt8) : Option Char := do
  index.character? (← cell? first) (← cell? second)

/-- The character of two bytes, without those behind the longer shift. -/
def pair? (first second : UInt8) : Option Char :=
  if first = 0x8E then Index.halfwidthKatakana? second else inIndex? Index.jisX0208 first second

def decode : Bytes → Text
  | [] => []
  | first :: bytes =>
    if first < 0x80 then asciiCharacter first :: decode bytes
    else if first ≠ 0x8E ∧ first ≠ 0x8F ∧ (cell? first).isNone then
      Utf8.replacement :: decode bytes
    else
      match bytes with
      | [] => [Utf8.replacement]
      | second :: bytes =>
        if first = 0x8F ∧ (cell? second).isSome then
          match bytes with
          | [] => [Utf8.replacement]
          | third :: bytes =>
            sequenceText ((inIndex? Index.jisX0212 second third).map ([·])) third ++ decode bytes
        else sequenceText ((pair? first second).map ([·])) second ++ decode bytes

end DocExcerpt.Charset.EucJp
