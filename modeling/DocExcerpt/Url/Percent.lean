import DocExcerpt.Text.Digit

/-!
# Percent decoding
-/

namespace DocExcerpt.Url

def hexByte? (b : UInt8) : Option Nat := digitValue? (Char.ofNat b.toNat)

def hexPair? (high low : UInt8) : Option UInt8 := do
  let h ← hexByte? high
  let l ← hexByte? low
  some (UInt8.ofNat (h * 16 + l))

/-- Replaces each percent sign that two hexadecimal digits follow, together with them, by the byte
that they denote. Other percent signs stay. -/
def percentDecode : Bytes → Bytes
  | 0x25 :: high :: low :: bytes =>
    match hexPair? high low with
    | some b => b :: percentDecode bytes
    | none => 0x25 :: percentDecode (high :: low :: bytes)
  | b :: bytes => b :: percentDecode bytes
  | [] => []

end DocExcerpt.Url
