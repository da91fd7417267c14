import DocExcerpt.CommandLine.Usage
import DocExcerpt.Provider
import DocExcerpt.Settings.Store
import DocExcerpt.Symbols

/-!
# Running the program

A run takes the arguments, the files and the network to what is printed, an exit code, and the
files afterwards. The log file is made first, whatever the arguments are, and a failure to make it
is no failure of the run. The settings are loaded, and made where they are missing, before a command
that uses them does anything.
-/

namespace DocExcerpt.CommandLine

structure Environment where
  /-- Where relative paths start. -/
  base : Location
  user : Settings.UserDirectories
  transport : Http.Transport

structure Outcome where
  code : Nat
  output : Text
  errors : Text
  deriving DecidableEq, Repr

namespace Outcome

def success (output : Text) : Outcome := ⟨0, output, []⟩

def failure (reasons : List String) : Outcome :=
  ⟨1, [], (programName ++ " error: " ++ ": ".intercalate reasons ++ "\n").toList⟩

def refusal : Refusal → Outcome
  | .help none => success helpText.toList
  | .help (some form) => success form.helpText.toList
  | .usage fault => ⟨2, [], fault.report.toList⟩

end Outcome

def shown (path : Path) : String := String.ofList (Utf8.decode path)

/-- The reasons of a failure to load the settings, outermost first. -/
def settingsReasons : Settings.LoadError → List String
  | .file fault => [fault.message]
  | .notToml path => ["parse " ++ shown path, "TOML parse error"]
  | .format path fault => ["parse " ++ shown path, "TOML parse error: " ++ fault.message]

def openLog (files : FileTree) (env : Environment) : FileTree :=
  match files.makeDirectories env.base (Settings.below env.user.state programName) with
  | (files, .error _) => files
  | (files, .ok ()) =>
    let path := Settings.below env.user.state (programName ++ "/" ++ programName ++ ".log")
    if files.pathExists env.base path then files
    else
      match files.write env.base path [] with
      | .ok files => files
      | .error _ => files

/-- The symbols of a run: those of the file that the command names, or else the settings, or
none. -/
def resolverOf (files : FileTree) (env : Environment) (settings : Settings)
    (symbolFile : Option Path) : Except (List String) Resolver :=
  match symbolFile.or (settings.symbolFile.map Utf8.encode) with
  | none => .ok noSymbols
  | some path =>
    match Symbols.load files env.base path with
    | .ok symbols => .ok symbols.has
    | .error fault => .error ["read symbols " ++ shown path ++ ": " ++ fault.message]

def providerOf (files : FileTree) (env : Environment) (settings : Settings) (resolver : Resolver) :
    Provider where
  resolver := resolver
  adjust := id
  sources := ⟨files, env.transport, settings.transfer⟩
  lookahead := settings.detection.lookahead

/-! ## Commands -/

/-- Prints the documentation at an address. That there is none is said, but is no failure. -/
def runFetch (files : FileTree) (env : Environment) (settings : Settings) (address : Text)
    (symbolFile : Option Path) (containingClass : Option Text) : Outcome :=
  match resolverOf files env settings symbolFile with
  | .error reasons => .failure reasons
  | .ok resolver =>
    let target := match containingClass with
      | some name => Target.method name
      | none => Target.other
    let provider := providerOf files env settings resolver
    match (provider.externalFor .idle address target).1 with
    | .error error => .failure (("fetch " ++ String.ofList address) :: error.messages)
    | .ok (some documentation) => .success (documentation ++ ['\n'])
    | .ok none => ⟨0, [], "no documentation found at ".toList ++ address ++ ['\n']⟩

def runRelink (files : FileTree) (env : Environment) (settings : Settings) (path : Path)
    (address : Option Text) (symbolFile : Option Path) : Outcome :=
  match files.readText env.base path with
  | .error fault => .failure ["read " ++ shown path, fault.message]
  | .ok page =>
    match resolverOf files env settings symbolFile with
    | .error reasons => .failure reasons
    | .ok resolver =>
      .success (((providerOf files env settings resolver).internal (some page) address).getD [])

def runDetect (files : FileTree) (env : Environment) (settings : Settings) (address : Text) :
    Outcome :=
  let found := (providerOf files env settings noSymbols).isJavadoc address
  .success (address ++ (if found then ": javadoc\n" else ": not javadoc\n").toList)

def runCommand (files : FileTree) (env : Environment) (settings : Settings) : Command → Outcome
  | .fetch address symbolFile containingClass =>
    runFetch files env settings address symbolFile containingClass
  | .relink path address symbolFile => runRelink files env settings path address symbolFile
  | .detect address => runDetect files env settings address
  | .completions shell => .success shell.completions.toList

def run (env : Environment) (files : FileTree) (arguments : List Text) : FileTree × Outcome :=
  let files := openLog files env
  match parse arguments with
  | .error refusal => (files, .refusal refusal)
  | .ok (.completions shell) => (files, .success shell.completions.toList)
  | .ok command =>
    match Settings.loadOrCreate files env.base env.user with
    | (files, .error error) => (files, .failure (settingsReasons error))
    | (files, .ok settings) => (files, runCommand files env settings command)

/-! ## Needed files -/

def Command.reads : Command → List Path
  | .fetch address symbolFile _ => localPath address ++ symbolFile.toList
  | .relink path _ symbolFile => path :: symbolFile.toList
  | .detect address => localPath address
  | .completions _ => []
where
  /-- The local file in which the page at an address is. -/
  localPath (address : Text) : List Path :=
    match Text.afterPhrase? Sources.archiveMark address with
    | some locator => ((Sources.archiveEntry address locator).toOption.map (·.1)).toList
    | none => ((Url.parse address).toOption.bind Url.filePath?).toList

/-- The paths that a run looks at, as far as the files that are known so far tell. The symbol file
is only known when the settings are. -/
def needs (env : Environment) (files : FileTree) (arguments : List Text) : List Path :=
  let symbolFile := match (Settings.loadOrCreate files env.base env.user).2 with
    | .ok settings => (settings.symbolFile.map Utf8.encode).toList
    | .error _ => []
  let command := match parse arguments with
    | .ok command => command.reads
    | .error _ => []
  [Settings.below env.user.state (programName ++ "/" ++ programName ++ ".log"),
    Settings.below env.user.configuration (programName ++ "/config.toml")] ++ symbolFile ++ command

end DocExcerpt.CommandLine
