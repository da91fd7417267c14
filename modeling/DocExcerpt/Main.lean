import DocExcerpt.CommandLine.Run

/-!
# The program

Reads the files that a run needs from the disk, runs the program on them, and writes the files that
have changed. No network is spoken to.
-/

namespace DocExcerpt.CommandLine

def diskPath (place : Location) : String :=
  "/" ++ "/".intercalate (place.map fun name => String.ofList (Utf8.decode name))

def nodeOnDisk (place : Location) : IO (Option FileNode) := do
  match ← (IO.FS.readBinFile (diskPath place)).toBaseIO with
  | .ok content => return some (.file content.toList)
  | .error _ =>
    match ← (IO.FS.realPath (diskPath place)).toBaseIO with
    | .ok path => return if ← path.isDir then some .directory else none
    | .error _ => return none

def loadPath (base : Location) (files : FileTree) (path : Path) : IO FileTree :=
  (FileTree.placesOn base path).foldlM (fun files place => do
    if (files.node? place).isSome then return files
    match ← nodeOnDisk place with
    | some node => return files.put place node
    | none => return files) files

def store (before after : FileTree) : IO Unit :=
  after.nodes.forM fun (place, node) => do
    if before.node? place = some node then return
    match node with
    | .directory => IO.FS.createDirAll (diskPath place)
    | .file content => IO.FS.writeBinFile (diskPath place) ⟨content.toArray⟩

def pathVariable? (name : String) : IO (Option Path) :=
  return (← IO.getEnv name).map fun value => Utf8.encode value.toList

def environment : IO Environment := do
  let directory := Utf8.encode (← IO.currentDir).toString.toList
  let home := (← pathVariable? "HOME").getD directory
  let user := Settings.UserDirectories.of home (← pathVariable? "XDG_CONFIG_HOME")
    (← pathVariable? "XDG_STATE_HOME")
  return ⟨(FileTree.pathPieces directory).filter (!·.isEmpty), user, .unreachable⟩

def runOnDisk (arguments : List Text) : IO UInt32 := do
  let env ← environment
  let known ← (needs env .empty arguments).foldlM (loadPath env.base) .empty
  let files ← (needs env known arguments).foldlM (loadPath env.base) known
  let (after, outcome) := run env files arguments
  store files after
  (← IO.getStdout).putStr (String.ofList outcome.output)
  (← IO.getStderr).putStr (String.ofList outcome.errors)
  return UInt32.ofNat outcome.code

end DocExcerpt.CommandLine

def main (arguments : List String) : IO UInt32 :=
  DocExcerpt.CommandLine.runOnDisk (arguments.map (·.toList))
