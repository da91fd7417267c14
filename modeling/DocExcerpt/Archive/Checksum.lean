import DocExcerpt.Text.Basic

/-!
# The checksum of an archive entry

The cyclic redundancy check with the reflected polynomial `0xEDB88320`, taken over the complement.
-/

namespace DocExcerpt.Archive.Checksum

def shift (remainder : UInt32) : UInt32 :=
  if remainder &&& 1 = 1 then (remainder >>> 1) ^^^ 0xEDB88320 else remainder >>> 1

def absorb (remainder : UInt32) (b : UInt8) : UInt32 :=
  Nat.repeat shift 8 (remainder ^^^ b.toUInt32)

def ofBytes (bytes : Bytes) : UInt32 :=
  bytes.foldl absorb 0xFFFFFFFF ^^^ 0xFFFFFFFF

end DocExcerpt.Archive.Checksum
