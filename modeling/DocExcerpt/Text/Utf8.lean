import DocExcerpt.Text.Basic

/-!
# UTF-8

A decoder that reads one byte at a time. Between two characters it is at rest; inside a character
it remembers how many continuation bytes are owed and in which range the next one has to lie. A
byte that cannot continue the character ends it as malformed and is then read afresh, so each
malformed stretch is the longest one that could still have become a character.
-/

namespace DocExcerpt.Utf8

/-- The range of a continuation byte. Only the byte after the first may be restricted: to rule
out overlong forms, surrogates, and values beyond the last code point. -/
inductive Tail where
  | any
  | notOverlongThree
  | notSurrogate
  | notOverlongFour
  | notBeyond
  deriving DecidableEq, Repr

def Tail.low : Tail → UInt8
  | .notOverlongThree => 0xA0
  | .notOverlongFour => 0x90
  | _ => 0x80

def Tail.high : Tail → UInt8
  | .notSurrogate => 0x9F
  | .notBeyond => 0x8F
  | _ => 0xBF

/-- Where the decoder stands between two bytes. -/
inductive State where
  /-- Between characters. -/
  | rest
  /-- Inside a character: `owed + 1` continuation bytes are missing, the next one lies in the
  range `next`, and `bits` are the bits collected so far. -/
  | inside (owed : Nat) (next : Tail) (bits : Nat)
  deriving DecidableEq, Repr

/-- What a byte completes: characters, with `none` for a malformed stretch that it ended. -/
abbrev Output := List (Option Char)

def start (b : UInt8) : Output × State :=
  if b < 0x80 then ([some (Char.ofNat b.toNat)], .rest)
  else if 0xC2 ≤ b ∧ b ≤ 0xDF then ([], .inside 0 .any (b.toNat - 0xC0))
  else if b = 0xE0 then ([], .inside 1 .notOverlongThree 0)
  else if b = 0xED then ([], .inside 1 .notSurrogate 0xD)
  else if 0xE1 ≤ b ∧ b ≤ 0xEF then ([], .inside 1 .any (b.toNat - 0xE0))
  else if b = 0xF0 then ([], .inside 2 .notOverlongFour 0)
  else if 0xF1 ≤ b ∧ b ≤ 0xF3 then ([], .inside 2 .any (b.toNat - 0xF0))
  else if b = 0xF4 then ([], .inside 2 .notBeyond 4)
  else ([none], .rest)

def step : State → UInt8 → Output × State
  | .rest, b => start b
  | .inside owed next bits, b =>
    if next.low ≤ b ∧ b ≤ next.high then
      let bits := bits * 64 + (b.toNat - 0x80)
      match owed with
      | 0 => ([some (Char.ofNat bits)], .rest)
      | owed + 1 => ([], .inside owed .any bits)
    else
      (none :: (start b).1, (start b).2)

/-- What the end of the input completes: a character left unfinished is malformed. -/
def finish : State → Output
  | .rest => []
  | .inside .. => [none]

/-- Everything that `bytes` complete, read from a given state up to their end. -/
def outputFrom : State → Bytes → Output
  | q, [] => finish q
  | q, b :: bytes => (step q b).1 ++ outputFrom (step q b).2 bytes

def replacement : Char := '\uFFFD'

/-- The text of `bytes`, each malformed stretch read as one replacement character. -/
def decode (bytes : Bytes) : Text :=
  (outputFrom .rest bytes).map (·.getD replacement)

def decode? (bytes : Bytes) : Option Text :=
  (outputFrom .rest bytes).mapM id

def encode (t : Text) : Bytes := t.flatMap String.utf8EncodeChar

end DocExcerpt.Utf8
