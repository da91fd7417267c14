import DocExcerpt.Text.Basic

/-!
# Blanks and lines of a text

The characters with the Unicode property `White_Space`, and the lines of a text.
-/

namespace DocExcerpt.Text

/-- Whether a character has the property `White_Space`. -/
def isBlank (c : Char) : Bool :=
  let n := c.toNat
  (0x09 ≤ n && n ≤ 0x0D) || n = 0x20 || n = 0x85 || n = 0xA0 || n = 0x1680 ||
    (0x2000 ≤ n && n ≤ 0x200A) || n = 0x2028 || n = 0x2029 || n = 0x202F || n = 0x205F || n = 0x3000

def trimBlanks (t : Text) : Text := t.trimBoth isBlank

def withoutReturn (line : Text) : Text :=
  if line.getLast? = some '\r' then line.dropLast else line

/-- The lines of a text: each ends at a line feed, which is dropped together with one carriage
return before it. A last line without a line feed keeps its carriage return. -/
def lines (t : Text) : List Text :=
  let pieces := t.splitOnChar '\n'
  pieces.dropLast.map withoutReturn ++ (pieces.getLast?.filter (!·.isEmpty)).toList

end DocExcerpt.Text
