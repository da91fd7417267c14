import DocExcerpt.Archive.Reader
import DocExcerpt.Http.Body
import DocExcerpt.Http.Lines
import DocExcerpt.Link.Address
import DocExcerpt.Page.Excerpt
import DocExcerpt.Url.FilePath

/-!
# Where pages come from

A page is fetched over HTTP, read from a local file, or taken from an archive, which an address
`jar:archive!/entry` names. An archive or an entry that is not there is no error: there is just
no page. A fragment is no part of what is read.
-/

namespace DocExcerpt

/-- All that pages can come from: the local files, by themselves and as archives, and the network. -/
structure Sources where
  files : FileTree
  transport : Http.Transport
  options : TransferOptions
  [archives : Archive.Reader]

/-- An open page: its bytes, and the fault that is met after a number of them, if any. -/
structure OpenPage where
  bytes : Bytes
  failsAfter : Option (Nat × FileFault)
  deriving DecidableEq, Repr

namespace OpenPage

def whole (bytes : Bytes) : OpenPage := ⟨bytes, none⟩

def reading (page : OpenPage) (cancelled : Bool) : Page.Reading :=
  Page.Reading.ofBytes { Page.Disturbance.ofCancelled cancelled with failsAfter := page.failsAfter }
    page.bytes

def content (page : OpenPage) : Except FetchError Bytes :=
  match page.failsAfter with
  | some (limit, fault) => if limit ≤ page.bytes.length then .error (.read fault) else .ok page.bytes
  | none => .ok page.bytes

end OpenPage

namespace Sources

/-! ## Local files -/

/-- Opens a local file. A directory can be opened, but not read. -/
def openFile (files : FileTree) (path : Path) : Except FetchError OpenPage :=
  match files.find [] path with
  | .ok (_, .file content) => .ok (.whole content)
  | .ok (_, .directory) => .ok ⟨[], some (0, .isADirectory)⟩
  | .error fault => .error (.read fault)

/-! ## Archives -/

def archiveMark : Text := "jar:".toList

/-- The archive and the entry that an address names behind its mark. -/
def archiveEntry (address locator : Text) : Except FetchError (Path × Text) :=
  match Text.splitAtPhrase? "!/".toList (Link.withoutFragment locator) with
  | none => .error (.malformedAddress address .noEntrySeparator)
  | some (archive, entry) =>
    match Url.parse archive with
    | .error reason => .error (.malformedAddress address (.url reason))
    | .ok url =>
      if url.scheme ≠ "file".toList then .error (.unsupportedScheme (archiveMark ++ url.scheme))
      else
        match url.filePath? with
        | none => .error (.malformedAddress address .archiveNotLocal)
        | some path => .ok (path, entry)

def openEntry (reader : Archive.Reader) (path : Path) (file : Bytes) (name : Text) :
    Except FetchError (Option OpenPage) :=
  match reader.entry? file name with
  | .error fault => .error (.archive path fault)
  | .ok none => .ok none
  | .ok (some (.error fault)) => .error (.read fault)
  | .ok (some (.ok content)) =>
    .ok (some (.whole (Utf8.encode (Charset.decode .utf8 content))))

def openArchived (sources : Sources) (address locator : Text) :
    Except FetchError (Option OpenPage) :=
  match archiveEntry address locator with
  | .error error => .error error
  | .ok (path, entry) =>
    match sources.files.find [] path with
    | .ok (_, .file content) => openEntry sources.archives path content entry
    | _ => .ok none

/-! ## Pages -/

def isHttp (scheme : Text) : Bool := scheme = "http".toList || scheme = "https".toList

def openPage (sources : Sources) (cancelled : Bool) (address : Text) :
    Except FetchError (Option OpenPage) :=
  match Text.afterPhrase? archiveMark address with
  | some locator => sources.openArchived address locator
  | none =>
    match Url.parse address with
    | .error reason => .error (.malformedAddress address (.url reason))
    | .ok url =>
      if isHttp url.scheme then
        (Http.fetch sources.transport sources.options cancelled address).map (some ∘ .whole)
      else if url.scheme = "file".toList then
        match url.filePath? with
        | none => .error (.malformedAddress address .notLocal)
        | some path => (openFile sources.files path).map some
      else .error (.unsupportedScheme url.scheme)

/-- The section that an address names, cut out of its page. No page gives no section, and a page
without the section gives an empty one. -/
def fetchExcerpt (sources : Sources) (cancelled : Bool) (address : Text) :
    Except FetchError (Option Text) :=
  match sources.openPage cancelled address with
  | .error error => .error error
  | .ok none => .ok none
  | .ok (some page) =>
    ((page.reading cancelled).excerpt (Page.Section.of address)).map some

/-! ## Lines -/

def visitReading {σ : Type} (visit : Http.Visitor σ) (error : Option FetchError) :
    List Text → σ → σ × Except FetchError Unit
  | [], state =>
    match error with
    | some error => (state, .error error)
    | none => (state, .ok ())
  | line :: lines, state =>
    let (state, wantsMore) := visit state line
    if wantsMore then visitReading visit error lines state else (state, .ok ())

/-- Whether the lines of an address are visited while they come over the network. -/
def isStreamed (address : Text) : Bool :=
  (Text.afterPhrase? archiveMark address).isNone &&
    match Url.parse address with
    | .ok url => isHttp url.scheme
    | .error _ => false

def visitLines {σ : Type} (sources : Sources) (cancelled : Bool) (address : Text)
    (visit : Http.Visitor σ) (state : σ) : σ × Except FetchError Unit :=
  if isStreamed address then
    Http.visitLines visit sources.transport sources.options cancelled address state
  else
    match sources.openPage cancelled address with
    | .error error => (state, .error error)
    | .ok none => (state, .ok ())
    | .ok (some page) =>
      let reading := page.reading cancelled
      visitReading visit reading.error reading.lines state

end Sources

end DocExcerpt
