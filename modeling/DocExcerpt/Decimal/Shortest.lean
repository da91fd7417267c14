import DocExcerpt.Text.Basic

/-!
# The shortest decimal of a float

A float stands for all the reals that round to it, an interval around its value. Its shortest
decimal is the one with the fewest digits in that interval, and the nearest to the value among
those. All arithmetic is exact: a float is a fraction, and a decimal with `k` digits is a point of
a grid, so only the two neighbours of the value on each grid have to be looked at.
-/

namespace DocExcerpt.Decimal

/-- A positive number `digits · 10 ^ scale`. -/
structure Scaled where
  digits : Nat
  scale : Int
  deriving DecidableEq, Repr

/-- The reals that round to a positive float, over a common denominator: the value, the two ends,
and whether the ends belong to them. -/
structure Interval where
  denominator : Nat
  low : Nat
  value : Nat
  high : Nat
  closed : Bool
  deriving Repr

def fractionCount : Nat := 0x10000000000000

def unsignedCount : Nat := 0x8000000000000000

def infinity : Nat := 0x7FF0000000000000

/-- The interval of a positive finite float, given by its bits without the sign. In units of a
quarter of the last place the value is four times the mantissa and the ends lie two units away,
but only one below a power of two. -/
def Interval.ofBits (bits : Nat) : Interval :=
  let fraction := bits % fractionCount
  let stored := bits / fractionCount
  let mantissa := if stored = 0 then fraction else fractionCount + fraction
  let below := if fraction = 0 ∧ 1 < stored then 1 else 2
  let power := (max stored 1 : Nat)
  -- The unit is `2 ^ (power - 1077)`.
  let scaleUp := Nat.pow 2 (power - 1077)
  { denominator := Nat.pow 2 (1077 - power)
    low := (4 * mantissa - below) * scaleUp
    value := 4 * mantissa * scaleUp
    high := (4 * mantissa + 2) * scaleUp
    closed := mantissa % 2 = 0 }

def scaled (n : Nat) (s : Int) : Nat × Nat := (n * Nat.pow 10 s.toNat, Nat.pow 10 (-s).toNat)

def Interval.has (i : Interval) (d : Scaled) : Bool :=
  let (n, divisor) := scaled (d.digits * i.denominator) d.scale
  let low := i.low * divisor
  let high := i.high * divisor
  (low < n && n < high) || (i.closed && (n = low || n = high))

/-- The number of decimal places before the point of the value: the least `p` with
`value < 10 ^ p`. -/
def Interval.magnitude (i : Interval) : Int :=
  if i.denominator ≤ i.value then ((Nat.repr (i.value / i.denominator)).length : Int)
  else
    let shift := (List.range 400).find? (fun j => i.denominator ≤ i.value * Nat.pow 10 (j + 1))
    0 - ((shift.getD 0 : Nat) : Int)

/-- The decimal of at most `count` digits in an interval that is nearest to its value, if there is
one. -/
def Interval.nearest? (i : Interval) (count : Nat) : Option Scaled :=
  let scale := i.magnitude - count
  let divisor := (scaled 1 scale).1 * i.denominator
  let value := i.value * (scaled 1 scale).2
  let below : Scaled := ⟨value / divisor, scale⟩
  let above : Scaled := ⟨value / divisor + 1, scale⟩
  match i.has below, i.has above with
  | true, true => some (if value % divisor * 2 < divisor then below else above)
  | true, false => some below
  | false, true => some above
  | false, false => none

/-- The shortest decimal in an interval. Seventeen digits always suffice. -/
def Interval.shortest (i : Interval) : Scaled :=
  ((List.range 17).findSome? fun k => i.nearest? (k + 1)).getD ⟨0, 0⟩

/-- A decimal written out with a point and at least one digit on either side of it. -/
def Scaled.positional (d : Scaled) : Text :=
  let digits := Text.ofNat d.digits
  if 0 ≤ d.scale then digits ++ List.replicate d.scale.toNat '0' ++ ".0".toList
  else
    let places := (-d.scale).toNat
    let padded := List.replicate (places + 1 - digits.length) '0' ++ digits
    let whole := padded.take (padded.length - places)
    let fraction := (padded.drop (padded.length - places)).reverse.dropWhile (· = '0') |>.reverse
    whole ++ '.' :: if fraction.isEmpty then ['0'] else fraction

/-- A float written out in full: its shortest decimal with a point, or a word for what is no
number. -/
def positional (x : Float) : Text :=
  let bits := x.toBits.toNat
  let sign := if unsignedCount ≤ bits then ['-'] else []
  let bits := bits % unsignedCount
  if infinity < bits then "NaN".toList
  else if bits = infinity then sign ++ "inf".toList
  else if bits = 0 then sign ++ "0.0".toList
  else sign ++ (Interval.ofBits bits).shortest.positional

end DocExcerpt.Decimal
