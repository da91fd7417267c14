import DocExcerpt.Archive.CodePage437
import DocExcerpt.FetchError

/-!
# The directory of an archive

An archive ends with a directory of its entries and a record that says where the directory is.
The record is looked for from the end of the file, so that anything may follow the archive, and
the place of the first directory header tells how many bytes were put before it. Each candidate
record that does not lead to a directory is passed over; the reason of a failure is that of the
directories that were tried, or else that of the records.
-/

namespace DocExcerpt.Archive

/-! ## Fields -/

/-- The number that bytes denote, the least significant byte first. -/
def littleEndian : Bytes → Nat
  | [] => 0
  | b :: bytes => b.toNat + 256 * littleEndian bytes

/-- The `width` bytes of a record from `offset` on, as a number. -/
def field (record : Bytes) (offset width : Nat) : Nat :=
  littleEndian ((record.drop offset).take width)

def slice (file : Bytes) (position size : Nat) : Except ArchiveFault Bytes :=
  let bytes := (file.drop position).take size
  if bytes.length < size then .error (.file .endsEarly) else .ok bytes

/-- The positions before `stop` at which `signature` begins, in order. -/
def occurrences (signature : Bytes) (stop : Nat) (position : Nat) : Bytes → List Nat
  | [] => []
  | b :: bytes =>
    if stop < position + signature.length then []
    else if signature.isPrefixOf (b :: bytes) then
      position :: occurrences signature stop (position + 1) bytes
    else occurrences signature stop (position + 1) bytes

/-! ## The end record -/

structure EndRecord where
  position : Nat
  disk : Nat
  directoryDisk : Nat
  /-- The number of entries on this disk, and on all disks. -/
  entriesHere : Nat
  entries : Nat
  /-- Where the directory starts, counted from the start of the archive. -/
  directoryOffset : Nat

def EndRecord.signature : Bytes := [0x50, 0x4B, 0x05, 0x06]

def headerSignature : Bytes := [0x50, 0x4B, 0x01, 0x02]

def localSignature : Bytes := [0x50, 0x4B, 0x03, 0x04]

/-- Reads the end record at a position. Its comment may not go beyond the file. -/
def EndRecord.read (file : Bytes) (position : Nat) : Except ArchiveFault EndRecord := do
  let record ← slice file position 22
  if file.length < position + 22 + field record 20 2 then throw .commentBeyondEnd
  return ⟨position, field record 4 2, field record 6 2, field record 8 2, field record 10 2,
    field record 16 4⟩

/-- How many bytes stand before the archive. An archive without entries ends with its record,
otherwise the first directory header after the offset that the record gives is the place of the
directory. -/
def EndRecord.bytesBefore (file : Bytes) (record : EndRecord) : Except ArchiveFault Nat :=
  let offset := record.directoryOffset
  if record.entries = 0 then .ok (record.position - offset)
  else if record.position ≤ offset then .error .directoryBeyondEndRecord
  else
    match (occurrences headerSignature record.position offset (file.drop offset)).head? with
    | some start => .ok (start - offset)
    | none => .error .noDirectoryHeader

/-! ## Entries -/

/-- An entry: its name, how its data is stored, and where. -/
structure Entry where
  name : Text
  encrypted : Bool
  method : Nat
  checksum : UInt32
  storedSize : Nat
  dataStart : Nat
  deriving DecidableEq, Repr

/-- The place of the data behind the local header at a position. -/
def dataPosition (file : Bytes) (position : Nat) : Except ArchiveFault Nat := do
  let header ← slice file position 30
  if header.take 4 ≠ localSignature then throw .malformedLocalHeader
  return position + 30 + field header 26 2 + field header 28 2

/-- Reads the directory header at a position, in an archive with `before` bytes before it and a
directory at `start`. Entries lie before the directory. Returns the position after the header. -/
def Entry.read (file : Bytes) (before start position : Nat) : Except ArchiveFault (Entry × Nat) := do
  let header ← slice file position 46
  if header.take 4 ≠ headerSignature then throw .malformedDirectoryHeader
  let nameSize := field header 28 2
  let rest := nameSize + field header 30 2 + field header 32 2
  let name := (← slice file (position + 46) rest).take nameSize
  let flags := field header 8 2
  let entryStart := before + field header 42 4
  if start ≤ entryStart then throw .entryAfterDirectory
  let data ← dataPosition file entryStart
  if start < data then throw .dataAfterDirectory
  return (
    { name := if flags.testBit 11 then Utf8.decode name else CodePage437.decode name
      encrypted := flags.testBit 0
      method := field header 10 2
      checksum := UInt32.ofNat (field header 16 4)
      storedSize := field header 20 4
      dataStart := data },
    position + 46 + rest)

/-- Reads `count` directory headers from a position on. -/
def Entry.readAll (file : Bytes) (before start : Nat) :
    Nat → Nat → Except ArchiveFault (List Entry)
  | 0, _ => .ok []
  | count + 1, position => do
    let (entry, next) ← Entry.read file before start position
    return entry :: (← Entry.readAll file before start count next)

/-! ## The directory -/

/-- The entries that an end record leads to, given the number of bytes before the archive. -/
def EndRecord.directory (file : Bytes) (record : EndRecord) (before : Nat) :
    Except ArchiveFault (List Entry) :=
  let start := before + record.directoryOffset
  if record.disk ≠ record.directoryDisk then .error .severalDisks
  else Entry.readAll file before start record.entriesHere start

/-- Tries the end records at positions. A record that is cut off does not count as a reason when
there was one before; other faults of a record do. -/
def directoryFrom (file : Bytes) (recordFault headerFault : Option ArchiveFault) :
    List Nat → Except ArchiveFault (List Entry)
  | [] => .error (headerFault.getD (recordFault.getD .noEndRecord))
  | position :: positions =>
    match EndRecord.read file position with
    | .error fault => directoryFrom file (some (recordFault.getD fault)) headerFault positions
    | .ok record =>
      match record.bytesBefore file with
      | .error fault => directoryFrom file (some fault) headerFault positions
      | .ok before =>
        match record.directory file before with
        | .error fault => directoryFrom file none (some fault) positions
        | .ok entries => .ok entries

def directory (file : Bytes) : Except ArchiveFault (List Entry) :=
  directoryFrom file none none (occurrences EndRecord.signature file.length 0 file).reverse

/-- The entry of a name; the last one if there are several. -/
def Entry.find? (entries : List Entry) (name : Text) : Option Entry :=
  entries.reverse.find? (·.name = name)

end DocExcerpt.Archive
