import DocExcerpt.Files
import DocExcerpt.Url.Parse

/-!
# Local paths of file URLs

The path of a file URL is cut into segments at slashes and backslashes. A segment `.` is dropped
and `..` takes the segment before it away, unless that names a drive. What is left names a local
file, provided that the URL has no host.
-/

namespace DocExcerpt.Url

def isDot (segment : Text) : Bool := Text.lower segment = ['.'] || Text.lower segment = "%2e".toList

def isDoubleDot (segment : Text) : Bool :=
  ["..", "%2e%2e", ".%2e", "%2e."].any fun form => form.toList = Text.lower segment

def segmentsOf (t : Text) : List Text :=
  Text.splitOnChar '/' (t.map fun c => if c = '\\' then '/' else c)

def withColon (segment : Text) : Text := segment.take 1 ++ [':']

def parentOf (segments : List Text) : List Text :=
  match segments.getLast? with
  | some last => if isDriveLetter last then segments else segments.dropLast
  | none => []

/-- The segments of a path as they are read: those that are kept so far, and whether one of them
came first and names a drive. -/
structure PathReading where
  kept : List Text
  hasDrive : Bool

/-- Reads a segment. The last one leaves an empty segment where it is not kept itself. -/
def PathReading.add (reading : PathReading) (isLast : Bool) (segment : Text) : PathReading :=
  let final := if isLast then [[]] else []
  if isDoubleDot segment then ⟨parentOf reading.kept ++ final, reading.hasDrive⟩
  else if isDot segment then ⟨reading.kept ++ final, reading.hasDrive⟩
  else if reading.kept.isEmpty ∧ isDriveLetter segment then ⟨[withColon segment], true⟩
  else ⟨reading.kept ++ [segment], reading.hasDrive⟩

def PathReading.addAll : PathReading → List Text → PathReading
  | reading, [] => reading
  | reading, segment :: segments => (reading.add segments.isEmpty segment).addAll segments

/-- Reads the path of a file URL. The slash at its head stands before the first segment. -/
def PathReading.of (path : Text) : PathReading :=
  let pieces := segmentsOf path
  let isRooted := pieces.head? = some [] ∧ 1 < pieces.length
  PathReading.addAll ⟨[], false⟩ (if isRooted then pieces.drop 1 else pieces)

/-- The segments that name the local file: those that are kept, without empty ones at their
head. -/
def PathReading.names (reading : PathReading) : List Text :=
  let named := reading.kept.dropWhile (·.isEmpty)
  if named.isEmpty then [[]] else named

/-- A path that ends in a drive ends in a slash. -/
def closeDrive (path : Path) : Path :=
  match path.reverse with
  | mark :: letter :: _ :: _ =>
    if (mark = 0x3A ∨ mark = 0x7C) ∧ (Char.ofNat letter.toNat).isAlpha then path ++ [0x2F] else path
  | _ => path

/-- The local path of a file URL. A host does not count where the path begins with a drive. -/
def filePath? (url : Url) : Option Path :=
  let reading := PathReading.of url.path
  if url.host.isNone ∨ reading.hasDrive then
    some (closeDrive (reading.names.flatMap fun segment =>
      0x2F :: percentDecode (Utf8.encode segment)))
  else none

end DocExcerpt.Url
