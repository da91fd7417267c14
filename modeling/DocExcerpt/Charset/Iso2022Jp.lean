import DocExcerpt.Charset.Index.Japanese
import DocExcerpt.Charset.Sequence

/-!
# ISO-2022-JP

All bytes are ASCII. An escape sequence says what the bytes behind it stand for, until the next
one. Two escape sequences with nothing in between are malformed, but the second one counts.
-/

namespace DocExcerpt.Charset.Iso2022Jp

inductive Mode where
  | ascii
  /-- ASCII with a yen sign and an overline. -/
  | roman
  | katakana
  /-- Pairs of bytes, each a character of JIS X 0208. -/
  | pairs
  deriving DecidableEq, Repr

def escape : UInt8 := 0x1B

/-- The mode that an escape sequence leads to, by the two bytes behind its first one. -/
def Mode.ofEscape? : Bytes → Option Mode
  | 0x28 :: 0x42 :: _ => some .ascii
  | 0x28 :: 0x4A :: _ => some .roman
  | 0x28 :: 0x49 :: _ => some .katakana
  | 0x24 :: 0x40 :: _ => some .pairs
  | 0x24 :: 0x42 :: _ => some .pairs
  | _ => none

def cell? (b : UInt8) : Option Nat :=
  if 0x21 ≤ b ∧ b ≤ 0x7E then some (b.toNat - 0x21) else none

/-- The ASCII character of a byte. The bytes that shift to other sets elsewhere are malformed. -/
def ascii? (b : UInt8) : Option Char :=
  if b < 0x80 ∧ b ≠ 0x0E ∧ b ≠ 0x0F then some (asciiCharacter b) else none

def Mode.single? (mode : Mode) (b : UInt8) : Option Char :=
  match mode with
  | .ascii => ascii? b
  | .roman => if b = 0x5C then some '¥' else if b = 0x7E then some '‾' else ascii? b
  | .katakana => if b < 0x80 then Index.halfwidthKatakana? (b + 0x80) else none
  | .pairs => none

def pair? (row : Nat) (second : UInt8) : Option Char := do
  Index.jisX0208.character? row (← cell? second)

/-- The text of bytes in a mode; `fresh` says whether an escape sequence has just led to it. -/
def decodeIn (mode : Mode) (fresh : Bool) : Bytes → Text
  | [] => []
  | b :: bytes =>
    if b = escape then
      match Mode.ofEscape? bytes with
      | none => Utf8.replacement :: decodeIn mode false bytes
      | some mode =>
        (if fresh then [Utf8.replacement] else []) ++ decodeIn mode true (bytes.drop 2)
    else
      match mode, cell? b, bytes with
      | .pairs, some row, second :: rest =>
        if second = escape then Utf8.replacement :: decodeIn mode false (second :: rest)
        else (pair? row second).getD Utf8.replacement :: decodeIn mode false rest
      | mode, _, bytes => (mode.single? b).getD Utf8.replacement :: decodeIn mode false bytes
termination_by bytes => bytes.length
decreasing_by
  all_goals simp only [List.length_cons, List.length_drop]
  all_goals omega

def decode (bytes : Bytes) : Text := decodeIn .ascii false bytes

end DocExcerpt.Charset.Iso2022Jp
