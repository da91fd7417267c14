import DocExcerpt.Proofs.Files.Directories
import DocExcerpt.Proofs.Text.Utf8
import DocExcerpt.Settings.Store

/-!
# Settings from the first use on

The first use of the settings makes what is missing and hands out the default settings; every later
use reads them from the file that the first one made (`Use.answers`).  What was there before stays as
it was (`Use.extends`), and using the settings again changes nothing and gives the same answer, but
for a way that goes back by `..` (`loadOrCreate_again`).
-/

namespace DocExcerpt.Settings

open FileTree

variable {files grown : FileTree} {base place : Location} {user : UserDirectories}

/-! ## The file and its directory -/

def directoryName : Bytes := Utf8.encode "docfilter".toList

def fileName : Bytes := Utf8.encode "config.toml".toList

theorem isName_directoryName : IsName directoryName := by
  constructor <;> decide

theorem isName_fileName : IsName fileName := by
  constructor <;> decide

def directory (user : UserDirectories) : Path := below user.configuration "docfilter"

def file (user : UserDirectories) : Path := below user.configuration "docfilter/config.toml"

theorem file_eq (user : UserDirectories) : file user = directory user ++ 0x2F :: fileName := by
  have cut : Utf8.encode "docfilter/config.toml".toList = directoryName ++ 0x2F :: fileName := by
    decide
  rw [file, directory, below, below, cut, directoryName, List.append_assoc]

theorem pathNames_directory (user : UserDirectories) :
    pathNames (directory user) = pathNames user.configuration ++ [directoryName] := by
  have appended (front : Path) := pathNames_append_name front isName_directoryName.noSlash
    isName_directoryName.nonempty
  rw [directory, below, ← directoryName]
  split_ifs with slash
  · obtain ⟨front, eq⟩ := List.getLast?_eq_some_iff.1 slash
    rw [eq, List.append_assoc, List.singleton_append, appended, pathNames_append_slashes (by simp)]
  · rw [List.append_assoc, List.singleton_append, appended]

theorem directory_ne_nil (user : UserDirectories) : directory user ≠ [] :=
  ne_nil_of_pathNames (pathNames_directory user)

theorem find_file (noNul : 0 ∉ directory user)
    (way : files.descend (startOf base (directory user)) (pathNames (directory user)) = .ok place) :
    files.find base (file user) = files.lookIn fileName place := by
  rw [file_eq, find_append_slash isName_fileName noNul (directory_ne_nil user), way]
  rfl

theorem pathExists_file (noNul : 0 ∉ directory user)
    (way : files.descend (startOf base (directory user)) (pathNames (directory user)) = .ok place) :
    files.pathExists base (file user) = (files.node? (place ++ [fileName])).isSome := by
  rw [pathExists, find_file noNul way, lookIn]
  cases files.node? (place ++ [fileName]) <;> rfl

/-! ## The default settings -/

def defaultContent : Bytes := Utf8.encode (numbersText {})

theorem read_defaultContent {path : Path} (content : files.read base path = .ok defaultContent) :
    read files base path = .ok {} := by
  have text : files.readText base path = .ok (numbersText {}) := by
    simp only [readText, content, bind, Except.bind, defaultContent, Utf8.decode?_encode]
  have parsed : (Toml.document? (numbersText {})).map ofEntries = some (.ok {}) := rfl
  obtain ⟨entries, isDocument, holds⟩ := Option.map_eq_some_iff.1 parsed
  simp only [read, text, bind, Except.bind, Except.mapError, isDocument, holds]

/-! ## The uses -/

/-- What a use of the settings can do. -/
inductive Use (files : FileTree) (base : Location) (user : UserDirectories) :
    FileTree × Except LoadError Settings → Prop
  | refused {grown : FileTree} {fault : FileFault}
      (made : files.makeDirectories base (directory user) = (grown, .error fault)) :
      Use files base user (grown, .error (.file fault))
  | existing {grown : FileTree}
      (made : files.makeDirectories base (directory user) = (grown, .ok ()))
      (there : grown.pathExists base (file user) = true) :
      Use files base user (grown, read grown base (file user))
  | created {grown : FileTree} {place : Location}
      (made : files.makeDirectories base (directory user) = (grown, .ok ()))
      (way : grown.descend (startOf base (directory user)) (pathNames (directory user)) = .ok place)
      (free : grown.node? (place ++ [fileName]) = none) :
      Use files base user (grown.put (place ++ [fileName]) (.file defaultContent), .ok {})

theorem loadOrCreate_of_refused {fault : FileFault}
    (made : files.makeDirectories base (directory user) = (grown, .error fault)) :
    loadOrCreate files base user = (grown, .error (.file fault)) := by
  rw [directory] at made
  rw [loadOrCreate, Settings.place, made]

theorem loadOrCreate_of_existing
    (made : files.makeDirectories base (directory user) = (grown, .ok ()))
    (there : grown.pathExists base (file user) = true) :
    loadOrCreate files base user = (grown, read grown base (file user)) := by
  rw [directory] at made
  rw [file] at there
  rw [loadOrCreate, Settings.place, made]
  exact if_pos there

theorem loadOrCreate_of_missing
    (made : files.makeDirectories base (directory user) = (grown, .ok ()))
    (way : grown.descend (startOf base (directory user)) (pathNames (directory user)) = .ok place)
    (noNul : 0 ∉ directory user) (free : grown.node? (place ++ [fileName]) = none) :
    loadOrCreate files base user = (grown.put (place ++ [fileName]) (.file defaultContent), .ok {}) := by
  have missing : grown.pathExists base (file user) = false := by
    rw [pathExists_file noNul way, free, Option.isSome_none]
  have written := write_of_free isName_fileName noNul (directory_ne_nil user) way free defaultContent
  rw [← file_eq] at written
  rw [directory] at made
  rw [file] at missing written
  rw [loadOrCreate, Settings.place, made]
  simp only [missing]
  rw [← defaultContent, written]
  rfl

theorem loadOrCreate_use (files : FileTree) (base : Location) (user : UserDirectories) :
    Use files base user (loadOrCreate files base user) := by
  cases made : files.makeDirectories base (directory user) with
  | mk grown answer =>
    cases answer with
    | error fault =>
      rw [loadOrCreate_of_refused made]
      exact .refused made
    | ok =>
      have named := pathNames_directory user
      obtain ⟨noNul, place, way⟩ := reached_of_makeDirectories named made
      rw [← named] at way
      by_cases there : grown.pathExists base (file user) = true
      · rw [loadOrCreate_of_existing made there]
        exact .existing made there
      · have free : grown.node? (place ++ [fileName]) = none := by
          rw [pathExists_file noNul way] at there
          simpa using there
        rw [loadOrCreate_of_missing made way noNul free]
        exact .created made way free

theorem loadOrCreate_of_there (there : files.pathExists base (file user) = true) :
    loadOrCreate files base user = (files, read files base (file user)) := by
  have noNul : 0 ∉ directory user := by
    intro nul
    have inFile : 0 ∈ file user := by
      rw [file_eq]
      exact List.mem_append_left _ nul
    simp [pathExists, find, inFile] at there
  cases way : files.descend (startOf base (directory user)) (pathNames (directory user)) with
  | error fault =>
    have lost : files.find base (file user) = .error fault := by
      rw [file_eq, find_append_slash isName_fileName noNul (directory_ne_nil user), way]
      rfl
    simp [pathExists, lost] at there
  | ok place =>
    rw [pathNames_directory] at way
    exact loadOrCreate_of_existing
      (makeDirectories_of_there noNul (pathNames_directory user) way) there

/-! ## Using the settings again -/

variable {answer : Except LoadError Settings}

theorem Use.extends (use : Use files base user (grown, answer)) : files.Extends grown := by
  have named := pathNames_directory user
  cases use with
  | refused made => exact (extends_of_makeDirectories named made).keeps
  | existing made there => exact (extends_of_makeDirectories named made).keeps
  | created made way free =>
    exact (extends_of_makeDirectories named made).keeps.trans
      (extends_put (by simp) free _)

theorem read_created
    (way : files.descend (startOf base (directory user)) (pathNames (directory user)) = .ok place)
    (noNul : 0 ∉ directory user) (free : files.node? (place ++ [fileName]) = none) :
    (files.put (place ++ [fileName]) (.file defaultContent)).read base (file user)
      = .ok defaultContent := by
  have still := (extends_put (by simp) free (.file defaultContent)).descend_eq_ok way
  rw [FileTree.read, find_file noNul still, lookIn, node?_put (by simp), if_pos rfl]

/-- A use fails to make the directory, or leaves a file behind and answers as that file reads.  It
makes the file only if it hands out the default settings. -/
theorem Use.answers (use : Use files base user (grown, answer)) :
    (∃ fault, files.makeDirectories base (directory user) = (grown, .error fault) ∧
      answer = .error (.file fault)) ∨
    (grown.pathExists base (file user) = true ∧ answer = read grown base (file user) ∧
      (answer = .ok {} ∨ files.makeDirectories base (directory user) = (grown, .ok ()))) := by
  cases use with
  | refused made => exact .inl ⟨_, made, rfl⟩
  | existing made there => exact .inr ⟨there, rfl, .inr made⟩
  | created made way free =>
    have noNul := (reached_of_makeDirectories (pathNames_directory user) made).1
    have found := read_created way noNul free
    exact .inr ⟨pathExists_of_read found, (read_defaultContent found).symm, .inl rfl⟩

theorem Use.again (use : Use files base user (grown, answer)) :
    ∃ second, loadOrCreate grown base user = (grown, second) ∧
      (second = answer ∨ answer = .error (.file .alreadyExists) ∧
        second = .error (.file .notADirectory) ∧
        ¬(files.WellFormed ∧ [0x2E, 0x2E] ∉ pathNames user.configuration)) := by
  have named := pathNames_directory user
  cases use with
  | @refused grown fault made =>
    obtain ⟨second, twice, rfl | ⟨first, rfl, around⟩⟩ := makeDirectories_again named made
    · exact ⟨_, loadOrCreate_of_refused twice, .inl rfl⟩
    · cases first
      refine ⟨_, loadOrCreate_of_refused twice, .inr ⟨rfl, rfl, ?_⟩⟩
      rintro ⟨wellFormed, straight⟩
      refine around ⟨wellFormed, ?_⟩
      rw [List.mem_append, List.mem_singleton, not_or]
      exact ⟨straight, isName_directoryName.noDots.2.symm⟩
  | existing made there => exact ⟨_, loadOrCreate_of_there there, .inl rfl⟩
  | @created grown place made way free =>
    have noNul := (reached_of_makeDirectories named made).1
    have found := read_created way noNul free
    have there := pathExists_of_read found
    exact ⟨_, loadOrCreate_of_there there, .inl (read_defaultContent found)⟩

/-- A second use of the settings changes nothing, and ends as the first one did, but where the way
to the directory goes back by `..`: there the first use may have made directories before it came to
a file, and the second one comes to that file at once.  No use changes what was there, a settings
file that was there least of all.  The first use answers as the file reads that it leaves behind,
unless the directory cannot be made. -/
theorem loadOrCreate_again (wellFormed : files.WellFormed) (base : Location)
    (user : UserDirectories) :
    let once := loadOrCreate files base user
    files.Extends once.1 ∧
    (files.pathExists base (file user) = true → once.1 = files) ∧
    ((∃ fault, files.makeDirectories base (directory user) = (once.1, .error fault) ∧
        once.2 = .error (.file fault)) ∨
      (once.1.pathExists base (file user) = true ∧ once.2 = read once.1 base (file user) ∧
        (once.2 = .ok {} ∨ files.makeDirectories base (directory user) = (once.1, .ok ())))) ∧
    ∃ second, loadOrCreate once.1 base user = (once.1, second) ∧
      ([0x2E, 0x2E] ∉ pathNames user.configuration → second = once.2) ∧
      (second = once.2 ∨
        once.2 = .error (.file .alreadyExists) ∧ second = .error (.file .notADirectory)) := by
  intro once
  have use : Use files base user (once.1, once.2) := loadOrCreate_use files base user
  refine ⟨use.extends, ?_, use.answers, ?_⟩
  · intro there
    exact congrArg Prod.fst (loadOrCreate_of_there there)
  · obtain ⟨second, twice, same | ⟨first, again, around⟩⟩ := use.again
    · exact ⟨second, twice, fun _ => same, .inl same⟩
    · refine ⟨second, twice, fun straight => ?_, .inr ⟨first, again⟩⟩
      exact absurd ⟨wellFormed, straight⟩ around

def freshHome : FileTree := ⟨[([[0x68]], .directory)]⟩

/-- A user whose configuration directory is `/h/.config`. -/
def plainUser : UserDirectories := ⟨Utf8.encode "/h/.config".toList, []⟩

theorem loadOrCreate_again_freshHome :
    freshHome.WellFormed ∧ [0x2E, 0x2E] ∉ pathNames plainUser.configuration ∧
      loadOrCreate (loadOrCreate freshHome [] plainUser).1 [] plainUser
        = loadOrCreate freshHome [] plainUser := by
  have wellFormed : freshHome.WellFormed := wellFormed_of_nodes (by decide)
  have straight : [0x2E, 0x2E] ∉ pathNames plainUser.configuration := by decide
  obtain ⟨-, -, -, second, again, same, -⟩ := loadOrCreate_again wellFormed [] plainUser
  exact ⟨wellFormed, straight, by rw [again, same straight]⟩

def loneFile : FileTree := ⟨[([[0x66]], .file [])]⟩

def roundaboutUser : UserDirectories := ⟨Utf8.encode "/x/../f".toList, []⟩

/-- The first use makes `/x`, comes back and cannot create `/f`; the second cannot enter it. -/
theorem loadOrCreate_twice_roundabout :
    loneFile.WellFormed ∧
      (loadOrCreate loneFile [] roundaboutUser).2 = .error (.file .alreadyExists) ∧
      (loadOrCreate (loadOrCreate loneFile [] roundaboutUser).1 [] roundaboutUser).2
        = .error (.file .notADirectory) := by
  refine ⟨wellFormed_of_nodes (by decide), ?_, ?_⟩ <;> rfl

end DocExcerpt.Settings
