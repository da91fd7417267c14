import DocExcerpt.Charset.DoubleByte
import DocExcerpt.Charset.EucJp
import DocExcerpt.Charset.Gb18030
import DocExcerpt.Charset.Iso2022Jp
import DocExcerpt.Charset.SingleByte
import DocExcerpt.Charset.Utf16

/-!
# Character sets

The text of a message body under a character set. A byte order mark at the head of the body wins
over the set that was named, and is no part of the text. Malformed bytes become replacement
characters, so every body has a text.
-/

namespace DocExcerpt

inductive Charset where
  | utf8
  | utf16 (order : Charset.Utf16.Order)
  | singleByte (set : Charset.SingleByte)
  | doubleByte (set : Charset.DoubleByte)
  | eucJp
  | iso2022Jp
  | gb18030
  /-- ASCII, and for each other byte a character of private use. -/
  | userDefined
  /-- A set that is not decoded, since its texts could be misread. -/
  | replacement

namespace Charset

def userDefinedCharacter (b : UInt8) : Char :=
  if b < 0x80 then Char.ofNat b.toNat else Char.ofNat (0xF700 + b.toNat)

def decodeBody (charset : Charset) (bytes : Bytes) : Text :=
  match charset with
  | .utf8 => Utf8.decode bytes
  | .utf16 order => Utf16.decode order bytes
  | .singleByte set => set.decode bytes
  | .doubleByte set => set.decode bytes
  | .eucJp => EucJp.decode bytes
  | .iso2022Jp => Iso2022Jp.decode bytes
  | .gb18030 => Gb18030.decode bytes
  | .userDefined => bytes.map userDefinedCharacter
  | .replacement => if bytes.isEmpty then [] else [Utf8.replacement]

/-- The set that a byte order mark at the head of bytes announces, and the bytes behind it. -/
def ofMark? : Bytes → Option (Charset × Bytes)
  | 0xEF :: 0xBB :: 0xBF :: bytes => some (.utf8, bytes)
  | 0xFF :: 0xFE :: bytes => some (.utf16 .littleEndian, bytes)
  | 0xFE :: 0xFF :: bytes => some (.utf16 .bigEndian, bytes)
  | _ => none

def decode (charset : Charset) (bytes : Bytes) : Text :=
  match ofMark? bytes with
  | some (marked, rest) => marked.decodeBody rest
  | none => charset.decodeBody bytes

end Charset

end DocExcerpt
