import DocExcerpt.Archive.Checksum
import DocExcerpt.Archive.Deflate
import DocExcerpt.Archive.Directory

/-!
# The content of an archive entry

An entry is stored as it is or compressed. Its content has to have the checksum that the directory
gives.
-/

namespace DocExcerpt.Archive

/-- How the data of an entry is stored. -/
inductive Method where
  | stored
  | deflated
  deriving DecidableEq, Repr

def Method.ofNat? : Nat → Option Method
  | 0 => some .stored
  | 8 => some .deflated
  | _ => none

/-- How an entry is stored, if it can be read. -/
def Entry.readable (entry : Entry) : Except ArchiveFault Method :=
  if entry.encrypted then .error .passwordRequired
  else
    match Method.ofNat? entry.method with
    | some method => .ok method
    | none => .error .unsupportedMethod

def Entry.content (file : Bytes) (entry : Entry) (method : Method) : Except FileFault Bytes := do
  let data := (file.drop entry.dataStart).take entry.storedSize
  let content ←
    match method with
    | .stored => .ok data
    | .deflated => Deflate.inflate data
  if Checksum.ofBytes content = entry.checksum then .ok content else .error .wrongChecksum

end DocExcerpt.Archive
