import DocExcerpt.Files
import DocExcerpt.Settings.Format

/-!
# Where settings are kept

The settings file lies in the configuration directory of the user. The first use creates it with
the default settings; afterwards it is only read.
-/

namespace DocExcerpt.Settings

structure UserDirectories where
  configuration : Path
  state : Path

def below (directory : Path) (name : String) : Path :=
  (if directory.getLast? = some 0x2F then directory else directory ++ [0x2F])
    ++ Utf8.encode name.toList

/-- The directory that a variable names, if it is an absolute path, or else one below the home
directory. -/
def directoryOr (named : Option Path) (home : Path) (name : String) : Path :=
  match named with
  | some path => if path.head? = some 0x2F then path else below home name
  | none => below home name

/-- The directories of a user with a home directory and perhaps with variables that name others. -/
def UserDirectories.of (home : Path) (configuration state : Option Path) : UserDirectories :=
  ⟨directoryOr configuration home ".config", directoryOr state home ".local/state"⟩

inductive LoadError where
  | file (fault : FileFault)
  | notToml (path : Path)
  | format (path : Path) (fault : FormatFault)
  deriving DecidableEq, Repr

/-- Finds the settings file, and makes the directory that it lies in. -/
def place (files : FileTree) (base : Location) (user : UserDirectories) :
    FileTree × Except FileFault Path :=
  match files.makeDirectories base (below user.configuration "docfilter") with
  | (files, .ok ()) => (files, .ok (below user.configuration "docfilter/config.toml"))
  | (files, .error fault) => (files, .error fault)

def read (files : FileTree) (base : Location) (path : Path) : Except LoadError Settings := do
  let t ← (files.readText base path).mapError .file
  match Toml.document? t with
  | none => throw (.notToml path)
  | some entries => (ofEntries entries).mapError (.format path)

/-- Loads the settings, and creates the file with the default ones where there is none. -/
def loadOrCreate (files : FileTree) (base : Location) (user : UserDirectories) :
    FileTree × Except LoadError Settings :=
  match place files base user with
  | (files, .error fault) => (files, .error (.file fault))
  | (files, .ok path) =>
    if files.pathExists base path then (files, read files base path)
    else
      match files.write base path (Utf8.encode (numbersText {})) with
      | .ok files => (files, .ok {})
      | .error fault => (files, .error (.file fault))

end DocExcerpt.Settings
