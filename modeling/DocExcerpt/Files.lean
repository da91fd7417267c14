import DocExcerpt.Text.Utf8

/-!
# A tree of files

The files that the library sees are a value: a tree that is looked at through paths and that
answers as an operating system does. A path is walked name by name from the root, or from a given
directory if it is relative; a name can only be looked up in a directory. There are no links and
no permissions.
-/

namespace DocExcerpt

abbrev Path := Bytes

/-- Why a file could not be read or written. -/
inductive FileFault where
  | notFound
  | notADirectory
  | isADirectory
  | alreadyExists
  | nameTooLong
  | nulInName
  | notUtf8
  | wrongChecksum
  | malformedDeflate
  | endsEarly
  /-- Any other reason, in its own words. -/
  | other (wording : String)
  deriving DecidableEq, Repr

def FileFault.message : FileFault → String
  | .notFound => "No such file or directory (os error 2)"
  | .notADirectory => "Not a directory (os error 20)"
  | .isADirectory => "Is a directory (os error 21)"
  | .alreadyExists => "File exists (os error 17)"
  | .nameTooLong => "File name too long (os error 36)"
  | .nulInName => "file name contained an unexpected NUL byte"
  | .notUtf8 => "stream did not contain valid UTF-8"
  | .wrongChecksum => "Invalid checksum"
  | .malformedDeflate => "corrupt deflate stream"
  | .endsEarly => "failed to fill whole buffer"
  | .other wording => wording

inductive FileNode where
  | file (content : Bytes)
  | directory
  deriving DecidableEq, Repr

abbrev Location := List Bytes

/-- A tree of files: what stands at each location. The root is always a directory. -/
structure FileTree where
  nodes : List (Location × FileNode)

namespace FileTree

def empty : FileTree := ⟨[]⟩

def node? (tree : FileTree) (place : Location) : Option FileNode :=
  if place.isEmpty then some .directory else tree.nodes.lookup place

/-- Puts a node at a location, in place of the one that was there. -/
def put (tree : FileTree) (place : Location) (node : FileNode) : FileTree :=
  if (tree.nodes.lookup place).isSome then
    ⟨tree.nodes.map fun entry => if entry.1 == place then (place, node) else entry⟩
  else ⟨tree.nodes ++ [(place, node)]⟩

/-- Puts a node at a location, and directories where none are above it. -/
def plant (tree : FileTree) (place : Location) (node : FileNode) : FileTree :=
  let above := (List.range (place.length - 1)).map fun n => place.take (n + 1)
  (above.foldl (fun tree place =>
    if (tree.node? place).isSome then tree else tree.put place .directory) tree).put place node

/-! ## Paths -/

def pathPieces : Path → List Bytes
  | [] => [[]]
  | b :: path =>
    match pathPieces path with
    | [] => [[b]]
    | piece :: pieces => if b = 0x2F then [] :: piece :: pieces else (b :: piece) :: pieces

/-- The place from which a path is walked: the root, or the directory `base`. -/
def startOf (base : Location) (path : Path) : Location :=
  if path.head? = some 0x2F then [] else base

/-- Walks from a node along pieces of a path: what stands at the end, and where. An empty piece
and `.` stay, `..` goes to the parent, and every piece needs a directory to start from. -/
def walk (tree : FileTree) : Location → FileNode → List Bytes → Except FileFault (Location × FileNode)
  | place, node, [] => .ok (place, node)
  | place, node, piece :: pieces =>
    match node with
    | .file _ => .error .notADirectory
    | .directory =>
      if piece.isEmpty ∨ piece = [0x2E] then walk tree place .directory pieces
      else if piece = [0x2E, 0x2E] then walk tree place.dropLast .directory pieces
      else if 255 < piece.length then .error .nameTooLong
      else
        match tree.node? (place ++ [piece]) with
        | none => .error .notFound
        | some next => walk tree (place ++ [piece]) next pieces

/-- The places that a path passes, up to the one that it leads to. -/
def placesOn (base : Location) (path : Path) : List Location :=
  go (startOf base path) (pathPieces path)
where
  /-- The places that pieces pass from a place on. -/
  go (place : Location) : List Bytes → List Location
    | [] => [place]
    | piece :: pieces =>
      if piece.isEmpty ∨ piece = [0x2E] then go place pieces
      else if piece = [0x2E, 0x2E] then place :: go place.dropLast pieces
      else place :: go (place ++ [piece]) pieces

/-- What a path leads to, and where. -/
def find (tree : FileTree) (base : Location) (path : Path) : Except FileFault (Location × FileNode) :=
  if 0 ∈ path then .error .nulInName
  else if path.isEmpty then .error .notFound
  else tree.walk (startOf base path) .directory (pathPieces path)

def isDirectory (tree : FileTree) (base : Location) (path : Path) : Bool :=
  match tree.find base path with
  | .ok (_, .directory) => true
  | _ => false

def pathExists (tree : FileTree) (base : Location) (path : Path) : Bool :=
  match tree.find base path with
  | .ok _ => true
  | .error _ => false

/-! ## Reading and writing -/

def read (tree : FileTree) (base : Location) (path : Path) : Except FileFault Bytes :=
  match tree.find base path with
  | .ok (_, .file content) => .ok content
  | .ok (_, .directory) => .error .isADirectory
  | .error fault => .error fault

def readText (tree : FileTree) (base : Location) (path : Path) : Except FileFault Text := do
  let content ← tree.read base path
  match Utf8.decode? content with
  | some text => .ok text
  | none => .error .notUtf8

/-- Where a path would create its last name: in a directory that exists. Without a last name there
is nothing to create. -/
def findNew (tree : FileTree) (base : Location) (path : Path) : Except FileFault Location := do
  if 0 ∈ path then throw .nulInName
  if path.isEmpty then throw .notFound
  let pieces := (pathPieces path).reverse.dropWhile (·.isEmpty) |>.reverse
  match pieces.getLast? with
  | none => throw .alreadyExists
  | some name =>
    match ← tree.walk (startOf base path) .directory pieces.dropLast with
    | (_, .file _) => throw .notADirectory
    | (parent, .directory) =>
      if name = [0x2E] ∨ name = [0x2E, 0x2E] then throw .alreadyExists
      if 255 < name.length then throw .nameTooLong
      return parent ++ [name]

def write (tree : FileTree) (base : Location) (path : Path) (content : Bytes) :
    Except FileFault FileTree :=
  match tree.find base path with
  | .ok (place, .file _) => .ok (tree.put place (.file content))
  | .ok (_, .directory) => .error .isADirectory
  | .error .notFound => do
    if path.getLast? = some 0x2F then throw .isADirectory
    let place ← tree.findNew base path
    return tree.put place (.file content)
  | .error fault => .error fault

def makeDirectory (tree : FileTree) (base : Location) (path : Path) : Except FileFault FileTree := do
  let place ← tree.findNew base path
  match tree.node? place with
  | some _ => throw .alreadyExists
  | none => return tree.put place .directory

/-- The path of the directory that holds a path: all before its last name. The root and an empty
path have none. -/
def parentPath? (path : Path) : Option Path :=
  let isSlash : UInt8 → Bool := (· == 0x2F)
  let trimmed := path.reverse.dropWhile isSlash
  if trimmed.isEmpty then none
  else
    let parent := trimmed.dropWhile (!isSlash ·)
    let bare := parent.dropWhile isSlash
    some (if bare.isEmpty ∧ !parent.isEmpty then [0x2F] else bare.reverse)

/-- Makes a directory and those above it that are missing. A directory that is there is left
alone. What was made before a failure stays. -/
def makeDirectories (tree : FileTree) (base : Location) (path : Path) :
    FileTree × Except FileFault Unit :=
  go (path.length + 1) tree path
where
  /-- Makes `path` after what is above it; a path above is shorter, so `fuel` suffices. -/
  go : Nat → FileTree → Path → FileTree × Except FileFault Unit
    | 0, tree, _ => (tree, .error .notFound)
    | fuel + 1, tree, path =>
      if path.isEmpty then (tree, .ok ())
      else
        match tree.makeDirectory base path with
        | .ok made => (made, .ok ())
        | .error .notFound =>
          match parentPath? path with
          | none => (tree, .error .notFound)
          | some parent =>
            match go fuel tree parent with
            | (above, .error fault) => (above, .error fault)
            | (above, .ok ()) => settle above (above.makeDirectory base path) path
        | .error fault => settle tree (.error fault) path
  /-- A directory that cannot be made because it is there is as good as made. -/
  settle (tree : FileTree) (made : Except FileFault FileTree) (path : Path) :
      FileTree × Except FileFault Unit :=
    match made with
    | .ok made => (made, .ok ())
    | .error fault => if tree.isDirectory base path then (tree, .ok ()) else (tree, .error fault)

end FileTree

end DocExcerpt
