import DocExcerpt.Archive.PrefixCode
import DocExcerpt.Files

/-!
# Inflating compressed data

The data is a sequence of bits, the least significant bit of each byte first. It consists of
blocks, the last one marked: bytes as they are, or symbols under prefix codes that are fixed or
given at the head of the block. A symbol is a byte, the end of the block, or the length of a copy
that a distance follows. A distance that reaches before the start of the data copies zeros.

Data that ends early is no error here: what it gives so far is the result, and the checksum tells
whether that is all.
-/

namespace DocExcerpt.Archive.Deflate

/-- Why decoding stops before the last block has ended. -/
inductive Stop where
  | endsEarly
  | malformed
  deriving DecidableEq, Repr

/-- The bits that are left, and the bytes that came of those before. -/
structure State where
  bits : List Bool
  output : Array UInt8

abbrev Decoder := ExceptT Stop (StateM State)

def bitsOf (bytes : Bytes) : List Bool :=
  bytes.flatMap fun b => (List.range 8).map b.toNat.testBit

/-- The number that bits denote, the least significant bit first. -/
def numberOf : List Bool → Nat
  | [] => 0
  | bit :: bits => bit.toNat + 2 * numberOf bits

/-! ## Reading -/

def number (count : Nat) : Decoder Nat := do
  let state ← get
  let taken := state.bits.take count
  if taken.length < count then throw .endsEarly
  set { state with bits := state.bits.drop count }
  return numberOf taken

def symbol (code : PrefixCode) : Decoder Nat := do
  let state ← get
  match code.read state.bits with
  | .symbol value rest =>
    set { state with bits := rest }
    return value
  | .unassigned => throw .malformed
  | .unfinished => throw .endsEarly

def put (b : UInt8) : Decoder Unit :=
  modify fun state => { state with output := state.output.push b }

/-- Puts out `length` bytes, each equal to the one `distance` bytes before it. -/
def copy (distance : Nat) : Nat → Decoder Unit
  | 0 => return
  | length + 1 => do
    let output := (← get).output
    put (if distance ≤ output.size then output.getD (output.size - distance) 0 else 0)
    copy distance length

/-! ## Stored blocks -/

def stored : Nat → Decoder Unit
  | 0 => return
  | count + 1 => do
    put (UInt8.ofNat (← number 8))
    stored count

/-- Reads a block of bytes: from the next byte on, their number, its complement, and the bytes. -/
def storedBlock : Decoder Unit := do
  let state ← get
  set { state with bits := state.bits.drop (state.bits.length % 8) }
  let count ← number 16
  let complement ← number 16
  if count + complement ≠ 0xFFFF then throw .malformed
  stored count

/-! ## Symbols -/

/-- The least length of each length symbol and the number of bits that are added to it. -/
def lengths : List (Nat × Nat) :=
  [(3, 0), (4, 0), (5, 0), (6, 0), (7, 0), (8, 0), (9, 0), (10, 0), (11, 1), (13, 1), (15, 1),
    (17, 1), (19, 2), (23, 2), (27, 2), (31, 2), (35, 3), (43, 3), (51, 3), (59, 3), (67, 4),
    (83, 4), (99, 4), (115, 4), (131, 5), (163, 5), (195, 5), (227, 5), (258, 0)]

/-- The least distance of each distance symbol and the number of bits that are added to it. -/
def distances : List (Nat × Nat) :=
  [(1, 0), (2, 0), (3, 0), (4, 0), (5, 1), (7, 1), (9, 2), (13, 2), (17, 3), (25, 3), (33, 4),
    (49, 4), (65, 5), (97, 5), (129, 6), (193, 6), (257, 7), (385, 7), (513, 8), (769, 8),
    (1025, 9), (1537, 9), (2049, 10), (3073, 10), (4097, 11), (6145, 11), (8193, 12), (12289, 12),
    (16385, 13), (24577, 13)]

/-- Reads the number that a symbol and the bits behind it stand for. -/
def extended (table : List (Nat × Nat)) (symbol : Nat) : Decoder Nat := do
  match table[symbol]? with
  | none => throw .malformed
  | some (least, bits) => return least + (← number bits)

/-- Reads symbols up to the end of the block. Each takes a bit at least, so that `fuel` bounds
their number if it bounds that of the bits. -/
def symbols (literals distanceCode : PrefixCode) : Nat → Decoder Unit
  | 0 => throw .endsEarly
  | fuel + 1 => do
    let value ← symbol literals
    if value = 256 then return
    if value < 256 then
      put (UInt8.ofNat value)
    else
      let length ← extended lengths (value - 257)
      let distance ← extended distances (← symbol distanceCode)
      copy distance length
    symbols literals distanceCode fuel

/-! ## Codes -/

def fixedLiterals : PrefixCode :=
  .ofLengths (List.replicate 144 8 ++ List.replicate 112 9 ++ List.replicate 24 7
    ++ List.replicate 8 8)

def fixedDistances : PrefixCode := .ofLengths (List.replicate 32 5)

/-- The order in which the lengths of the code of code lengths are given. -/
def lengthOrder : List Nat := [16, 17, 18, 0, 8, 7, 9, 6, 10, 5, 11, 4, 12, 3, 13, 2, 14, 1, 15]

def shortNumbers : Nat → Decoder (List Nat)
  | 0 => return []
  | count + 1 => do
    let n ← number 3
    return n :: (← shortNumbers count)

/-- Reads code lengths after those read before, which come in reverse, up to a number of them. Runs
may not go beyond it. -/
def codeLengths (code : PrefixCode) (count : Nat) : Nat → List Nat → Decoder (List Nat)
  | 0, _ => throw .endsEarly
  | fuel + 1, before => do
    if count < before.length then throw .malformed
    if before.length = count then return before.reverse
    let value ← symbol code
    if value < 16 then codeLengths code count fuel (value :: before)
    else if value = 16 then
      match before.head? with
      | none => throw .malformed
      | some last =>
        let run ← number 2
        codeLengths code count fuel (List.replicate (run + 3) last ++ before)
    else
      let run ← if value = 17 then (· + 3) <$> number 3 else (· + 11) <$> number 7
      codeLengths code count fuel (List.replicate run 0 ++ before)

/-- A code of symbols: complete, or of at most one symbol. -/
def symbolCode (lengths : List Nat) : Decoder PrefixCode :=
  let code := PrefixCode.ofLengths lengths
  if code.isComplete ∨ code.size ≤ 1 then return code else throw .malformed

def codes : Decoder (PrefixCode × PrefixCode) := do
  let literals := (← number 5) + 257
  let distances := (← number 5) + 1
  let given := (← number 4) + 4
  if 286 < literals ∨ 30 < distances then throw .malformed
  let short ← shortNumbers given
  let code := PrefixCode.ofLengths ((List.range 19).map fun value =>
    ((lengthOrder.zip short).lookup value).getD 0)
  if !code.isComplete then throw .malformed
  let all ← codeLengths code (literals + distances) (literals + distances + 1) []
  return (← symbolCode (all.take literals), ← symbolCode (all.drop literals))

/-! ## Blocks -/

/-- Reads blocks up to the last one. Each takes a bit at least. -/
def blocks : Nat → Decoder Unit
  | 0 => throw .endsEarly
  | fuel + 1 => do
    let last ← number 1
    match ← number 2 with
    | 0 => storedBlock
    | 1 => symbols fixedLiterals fixedDistances ((← get).bits.length + 1)
    | 2 =>
      let (literals, distances) ← codes
      symbols literals distances ((← get).bits.length + 1)
    | _ => throw .malformed
    if last = 1 then return
    blocks fuel

/-- The data that compressed data stands for. -/
def inflate (compressed : Bytes) : Except FileFault Bytes :=
  let bits := bitsOf compressed
  match (blocks (bits.length + 1)).run ⟨bits, #[]⟩ with
  | (.error .malformed, _) => .error .malformedDeflate
  | (_, state) => .ok state.output.toList

end DocExcerpt.Archive.Deflate
