import DocExcerpt.Archive.Content

/-!
# Reading archives

Archives are read by a library, which is a parameter of all that is built on it.  The reader that is
used where none is named knows neither the records of archives beyond 32 bits nor the field for a
path in Unicode.
-/

namespace DocExcerpt.Archive

/-- A reader of archives: the content of the entry of a name, if an archive has one.  A fault of the
archive is told apart from one that is met in the data of the entry. -/
class Reader where
  entry? : Bytes → Text → Except ArchiveFault (Option (Except FileFault Bytes))

instance : Reader where
  entry? file name := do
    match Entry.find? (← directory file) name with
    | none => return none
    | some entry =>
      let method ← entry.readable
      return some (entry.content file method)

end DocExcerpt.Archive
