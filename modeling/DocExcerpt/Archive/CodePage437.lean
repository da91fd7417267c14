import DocExcerpt.Text.Basic

/-!
# Code page 437

The single-byte character set of the names in old archives: ASCII in its lower half, letters,
frames and signs in its upper half.
-/

namespace DocExcerpt.Archive.CodePage437

def upperHalf : String :=
  "ÇüéâäàåçêëèïîìÄÅÉæÆôöòûùÿÖÜ¢£¥₧ƒ" ++
  "áíóúñÑªº¿⌐¬½¼¡«»░▒▓│┤╡╢╖╕╣║╗╝╜╛┐" ++
  "└┴┬├─┼╞╟╚╔╩╦╠═╬╧╨╤╥╙╘╒╓╫╪┘┌█▄▌▐▀" ++
  "αßΓπΣσµτΦΘΩδ∞φε∩≡±≥≤⌠⌡÷≈°∙·√ⁿ²■\u00a0"

def character (b : UInt8) : Char :=
  if b < 0x80 then Char.ofNat b.toNat else upperHalf.toList.getD (b.toNat - 0x80) ' '

def decode (bytes : Bytes) : Text := bytes.map character

end DocExcerpt.Archive.CodePage437
