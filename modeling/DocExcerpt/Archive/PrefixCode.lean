import DocExcerpt.Text.Basic

/-!
# Canonical prefix codes

A prefix code is given by the length of each symbol's code word. Code words of one length are
consecutive numbers in the order of their symbols, and they follow those of the lengths below. A
reader therefore needs no tree: it lengthens the word bit by bit and compares it with the range of
words of that length.
-/

namespace DocExcerpt.Archive

/-- A prefix code: the symbols of each word length, from length one on. -/
structure PrefixCode where
  levels : List (List Nat)
  deriving DecidableEq, Repr

namespace PrefixCode

def longest : Nat := 15

/-- The code that has a word of the given length for each symbol; none where the length is zero. -/
def ofLengths (lengths : List Nat) : PrefixCode :=
  ⟨(List.range longest).map fun n =>
    (lengths.zipIdx.filter fun entry => entry.1 = n + 1).map (·.2)⟩

def size (code : PrefixCode) : Nat := code.levels.flatten.length

/-- The part of all words of the greatest length that begin with a code word, counted in such
words. -/
def coverage : List (List Nat) → Nat
  | [] => 0
  | symbols :: levels => symbols.length * Nat.pow 2 levels.length + coverage levels

/-- Whether every sequence of bits begins with exactly one code word. -/
def isComplete (code : PrefixCode) : Bool := coverage code.levels = Nat.pow 2 longest

/-- What the head of a sequence of bits is. -/
inductive Word where
  | symbol (value : Nat) (rest : List Bool)
  /-- No code word, and none can come of it. -/
  | unassigned
  /-- The bits end inside a code word. -/
  | unfinished
  deriving DecidableEq, Repr

/-- Reads a code word. `word` are the bits read so far, and `first` is the least word of their
length that is not a code word nor begins with one. -/
def readFrom : List (List Nat) → Nat → Nat → List Bool → Word
  | [], _, _, _ => .unassigned
  | _ :: _, _, _, [] => .unfinished
  | symbols :: levels, word, first, bit :: bits =>
    let word := 2 * word + bit.toNat
    let first := 2 * first
    match symbols[word - first]? with
    | some value => .symbol value bits
    | none => readFrom levels word (first + symbols.length) bits

def read (code : PrefixCode) (bits : List Bool) : Word := readFrom code.levels 0 0 bits

end PrefixCode

end DocExcerpt.Archive
