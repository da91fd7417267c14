import DocExcerpt.Text.Utf8

/-!
# UTF-16

Each unit takes two bytes. A unit that is half of a pair without the other half is malformed, and
so is a byte left over at the end; a half and a byte left over behind it are malformed together.
-/

namespace DocExcerpt.Charset.Utf16

/-- Whether the more significant byte of a unit comes first. -/
inductive Order where
  | bigEndian
  | littleEndian
  deriving DecidableEq, Repr

def Order.unit (order : Order) (first second : UInt8) : Nat :=
  match order with
  | .bigEndian => first.toNat * 256 + second.toNat
  | .littleEndian => second.toNat * 256 + first.toNat

def isHigh (unit : Nat) : Bool := 0xD800 ≤ unit && unit ≤ 0xDBFF

def isLow (unit : Nat) : Bool := 0xDC00 ≤ unit && unit ≤ 0xDFFF

def paired (high low : Nat) : Char := Char.ofNat (0x10000 + (high - 0xD800) * 1024 + (low - 0xDC00))

/-- What a unit completes behind a pending first half, and the first half that it leaves. -/
def step (pending : Option Nat) (unit : Nat) : Text × Option Nat :=
  match pending with
  | some high =>
    if isLow unit then ([paired high unit], none)
    else if isHigh unit then ([Utf8.replacement], some unit)
    else ([Utf8.replacement, Char.ofNat unit], none)
  | none =>
    if isHigh unit then ([], some unit)
    else if isLow unit then ([Utf8.replacement], none)
    else ([Char.ofNat unit], none)

def decodeFrom (order : Order) (pending : Option Nat) : Bytes → Text
  | first :: second :: bytes =>
    let (t, pending) := step pending (order.unit first second)
    t ++ decodeFrom order pending bytes
  | [_] => [Utf8.replacement]
  | [] => if pending.isSome then [Utf8.replacement] else []

def decode (order : Order) (bytes : Bytes) : Text := decodeFrom order none bytes

end DocExcerpt.Charset.Utf16
