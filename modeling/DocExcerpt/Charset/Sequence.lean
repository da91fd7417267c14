import DocExcerpt.Text.Utf8

/-!
# Sequences of bytes that make up a character

Where a set takes several bytes for a character, its decoders agree on what malformed sequences
are: they become one replacement character, except that an ASCII byte at the end of a sequence is
no part of it.
-/

namespace DocExcerpt.Charset

def asciiCharacter (b : UInt8) : Char := Char.ofNat b.toNat

/-- The text of a sequence that ends with `last`: that of its characters if it has any. -/
def sequenceText (characters : Option Text) (last : UInt8) : Text :=
  match characters with
  | some t => t
  | none =>
    if last < 0x80 then [Utf8.replacement, asciiCharacter last] else [Utf8.replacement]

end DocExcerpt.Charset
