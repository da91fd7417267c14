import DocExcerpt.Files
import DocExcerpt.Url.Error

/-!
# Why a page could not be fetched
-/

namespace DocExcerpt

/-- Why an address does not say where a page is. -/
inductive AddressFault where
  | url (reason : Url.Error)
  | noEntrySeparator
  | archiveNotLocal
  | notLocal
  deriving DecidableEq, Repr

def AddressFault.message : AddressFault → String
  | .url reason => reason.message
  | .noEntrySeparator => "missing \x60!/\x60 entry separator"
  | .archiveNotLocal => "archive is not a local file"
  | .notLocal => "not a local file path"

inductive ArchiveFault where
  | noEndRecord
  | commentBeyondEnd
  | directoryBeyondEndRecord
  | noDirectoryHeader
  | malformedDirectoryHeader
  | malformedLocalHeader
  | entryAfterDirectory
  | dataAfterDirectory
  | severalDisks
  | unsupportedMethod
  | passwordRequired
  | file (fault : FileFault)
  deriving DecidableEq, Repr

def ArchiveFault.message : ArchiveFault → String
  | .noEndRecord => "invalid Zip archive: Could not find EOCD"
  | .commentBeyondEnd => "invalid Zip archive: EOCD comment exceeds file boundary"
  | .directoryBeyondEndRecord => "invalid Zip archive: Invalid CDFH offset in EOCD"
  | .noDirectoryHeader => "invalid Zip archive: No CDFH found"
  | .malformedDirectoryHeader => "invalid Zip archive: Invalid Central Directory header"
  | .malformedLocalHeader => "invalid Zip archive: Invalid local file header"
  | .entryAfterDirectory =>
    "invalid Zip archive: A local file entry can't start after the central directory"
  | .dataAfterDirectory =>
    "invalid Zip archive: File data can't start after the central directory"
  | .severalDisks =>
    "unsupported Zip archive: Support for multi-disk files is not implemented"
  | .unsupportedMethod => "unsupported Zip archive: Compression method not supported"
  | .passwordRequired => "unsupported Zip archive: Password required to decrypt file"
  | .file _ => "i/o error"

/-- Why a transfer over HTTP broke off: what the transfer library says, as a number and in words. -/
structure TransferFault where
  code : Nat
  description : String
  deriving DecidableEq, Repr

namespace TransferFault

def message (fault : TransferFault) : String :=
  "[" ++ Nat.repr fault.code ++ "] " ++ fault.description

/-- The fault of a transfer whose data is not taken. -/
def notTaken : TransferFault := ⟨23, "Failed writing received data to disk/application"⟩

def isNotTaken (fault : TransferFault) : Bool := fault.code = 23

/-- Whether the transfer was given up when the library asked whether to go on. -/
def isGivenUp (fault : TransferFault) : Bool := fault.code = 42

/-- Whether the library refused the status of an answer. -/
def isRefused (fault : TransferFault) : Bool := fault.code = 22

end TransferFault

/-- Why a page could not be fetched. A cancelled fetch is no failure of the page. -/
inductive FetchError where
  | malformedAddress (address : Text) (reason : AddressFault)
  | unsupportedScheme (scheme : Text)
  | transfer (fault : TransferFault)
  | status (address : Text) (code : Nat)
  | read (fault : FileFault)
  | archive (path : Path) (fault : ArchiveFault)
  | cancelled
  deriving DecidableEq, Repr

namespace FetchError

def message : FetchError → String
  | .malformedAddress address reason =>
    "invalid URL " ++ String.ofList address ++ ": " ++ reason.message
  | .unsupportedScheme scheme => "unsupported URL scheme \x60" ++ String.ofList scheme ++ "\x60"
  | .transfer fault => fault.message
  | .status address code =>
    "GET " ++ String.ofList address ++ " returned HTTP " ++ Nat.repr code
  | .read fault => "read failed: " ++ fault.message
  | .archive path fault =>
    "archive " ++ String.ofList (Utf8.decode path) ++ ": " ++ fault.message
  | .cancelled => "fetch cancelled"

/-- The wordings of an error and of the faults behind it, outermost first. -/
def messages (error : FetchError) : List String :=
  match error with
  | .read fault => [error.message, fault.message]
  | .archive _ (.file fault) =>
    [error.message, (ArchiveFault.file fault).message, fault.message]
  | .archive _ fault => [error.message, fault.message]
  | error => [error.message]

end FetchError

end DocExcerpt
