import DocExcerpt.Charset.Index.Japanese
import DocExcerpt.Charset.Index.Korean
import DocExcerpt.Charset.Index.TraditionalChinese
import DocExcerpt.Charset.Sequence

/-!
# Double-byte character sets

In each of these sets a character has one byte or two. The first byte of a pair gives a row and the
second one a column, and what they stand for is found in an index.
-/

namespace DocExcerpt.Charset

inductive DoubleByte where
  | shiftJis
  | eucKr
  | big5
  deriving DecidableEq, Repr

namespace DoubleByte

def single? (set : DoubleByte) (b : UInt8) : Option Char :=
  if b < 0x80 then some (asciiCharacter b)
  else
    match set with
    | .shiftJis => if b = 0x80 then some '\u0080' else Index.halfwidthKatakana? b
    | .eucKr | .big5 => none

def row? (set : DoubleByte) (b : UInt8) : Option Nat :=
  match set with
  | .shiftJis =>
    if 0x81 ≤ b ∧ b ≤ 0x9F then some (b.toNat - 0x81)
    else if 0xE0 ≤ b ∧ b ≤ 0xFC then some (b.toNat - 0xC1)
    else none
  | .eucKr | .big5 => if 0x81 ≤ b ∧ b ≤ 0xFE then some (b.toNat - 0x81) else none

def column? (set : DoubleByte) (b : UInt8) : Option Nat :=
  match set with
  | .shiftJis =>
    if 0x40 ≤ b ∧ b ≤ 0x7E then some (b.toNat - 0x40)
    else if 0x80 ≤ b ∧ b ≤ 0xFC then some (b.toNat - 0x41)
    else none
  | .eucKr => if 0x41 ≤ b ∧ b ≤ 0xFE then some (b.toNat - 0x41) else none
  | .big5 =>
    if 0x40 ≤ b ∧ b ≤ 0x7E then some (b.toNat - 0x40)
    else if 0xA1 ≤ b ∧ b ≤ 0xFE then some (b.toNat - 0x62)
    else none

/-- The character at a place of Shift_JIS. Some rows are left to users; their characters are of
private use. -/
def shiftJisCharacter? (place : Nat) : Option Char :=
  if 8836 ≤ place ∧ place ≤ 10715 then some (Char.ofNat (0xE000 + (place - 8836)))
  else Index.jisX0208.characterAt? place

/-- The letters of Big5 that Unicode composes of two characters, by row and column. -/
def composedLetter? (row column : Nat) : Option Text :=
  match row, column with
  | 7, 34 => some ['\u00CA', '\u0304']
  | 7, 36 => some ['\u00CA', '\u030C']
  | 7, 65 => some ['\u00EA', '\u0304']
  | 7, 67 => some ['\u00EA', '\u030C']
  | _, _ => none

def pair? (set : DoubleByte) (row column : Nat) : Option Text :=
  match set with
  | .shiftJis => (shiftJisCharacter? (188 * row + column)).map ([·])
  | .eucKr => (Index.korean.character? row column).map ([·])
  | .big5 =>
    (composedLetter? row column).or ((Index.traditionalChinese.character? row column).map ([·]))

def decode (set : DoubleByte) : Bytes → Text
  | [] => []
  | first :: bytes =>
    match set.single? first, set.row? first with
    | some c, _ => c :: decode set bytes
    | none, none => Utf8.replacement :: decode set bytes
    | none, some row =>
      match bytes with
      | [] => [Utf8.replacement]
      | second :: bytes =>
        sequenceText ((set.column? second).bind (set.pair? row)) second ++ decode set bytes

end DoubleByte

end DocExcerpt.Charset
