import DocExcerpt.Url.Domain
import DocExcerpt.Url.Host
import DocExcerpt.Url.Percent

/-!
# Absolute URLs

Reads a text as an absolute URL: a scheme, then either an authority and a path or a path alone.
Blanks and controls around the text are dropped, and so are tabs and line ends anywhere in it. The
special schemes accept a backslash for a slash and any number of slashes before the host, which
they cannot do without; `file` has an optional host and no port.
-/

namespace DocExcerpt

/-- An absolute URL, as far as it says where a page is. The path is kept as written, up to the
query or the fragment. -/
structure Url where
  scheme : Text
  host : Option Url.Host
  port : Option Nat
  path : Text
  deriving Repr

namespace Url

/-! ## Schemes -/

/-- How a scheme treats the text behind it. -/
inductive SchemeKind where
  | file
  | special
  | other
  deriving DecidableEq, Repr

def SchemeKind.of (scheme : Text) : SchemeKind :=
  if scheme = "file".toList then .file
  else if ["http", "https", "ws", "wss", "ftp"].any (fun s => s.toList = scheme) then .special
  else .other

def SchemeKind.isSpecial (kind : SchemeKind) : Bool := kind ≠ .other

def isSchemeChar (c : Char) : Bool := c.isAlphanum || c = '+' || c = '-' || c = '.'

/-- The scheme of a text, in lower case, and what follows its colon. -/
def cutScheme? (t : Text) : Option (Text × Text) :=
  match t.head?, t.dropWhile isSchemeChar with
  | some first, ':' :: rest =>
    if first.isAlpha then some (Text.lower (t.takeWhile isSchemeChar), rest) else none
  | _, _ => none

/-! ## Authorities -/

def isSlash (kind : SchemeKind) (c : Char) : Bool := c = '/' || (kind.isSpecial && c = '\\')

/-- A character that ends an authority. -/
def endsAuthority (kind : SchemeKind) (c : Char) : Bool := isSlash kind c || c = '?' || c = '#'

def splitAtLastAt? (t : Text) : Option (Text × Text) :=
  (Text.splitAtChar? '@' t.reverse).map fun cut => (cut.2.reverse, cut.1.reverse)

def hasCredentials (credentials : Text) : Bool := !credentials.isEmpty && credentials ≠ [':']

/-- The length of the host at the head of an authority: it ends at the first colon outside
brackets. -/
def hostLength (inBrackets : Bool) : Text → Nat
  | [] => 0
  | c :: t =>
    if c = ':' ∧ !inBrackets then 0
    else hostLength (if c = '[' then true else if c = ']' then false else inBrackets) t + 1

/-- The host of a special URL: an IPv6 address in brackets, an IPv4 address, or a domain name. -/
def specialHost (t : Text) : Except Error Host :=
  if t.head? = some '[' then bracketedHost t
  else
    match asciiDomain? (percentDecode (Utf8.encode t)) with
    | none => .error .malformedDomain
    | some [] => .error .emptyHost
    | some name =>
      if endsInNumber name then
        match ipv4? name with
        | some address => .ok (.ipv4 address)
        | none => .error .malformedIpv4
      else .ok (.domain name)

/-- A character that may not stand in the host of a URL that is not special. -/
def isForbiddenInHost (c : Char) : Bool :=
  "\x00\t\n\r #/:<>?@[\\]^|".toList.contains c

/-- The host of a URL that is not special: any text without forbidden characters. -/
def plainHost (t : Text) : Except Error Host :=
  if t.head? = some '[' then bracketedHost t
  else if t.any isForbiddenInHost then .error .malformedHostCharacter
  else .ok (.domain t)

def defaultPort? (scheme : Text) : Option Nat :=
  if scheme = "http".toList ∨ scheme = "ws".toList then some 80
  else if scheme = "https".toList ∨ scheme = "wss".toList then some 443
  else if scheme = "ftp".toList then some 21
  else none

/-- Reads the text behind a host: nothing, or a colon and a port of at most sixteen bits. An empty
port and the port that the scheme implies count as none. A backslash may follow the digits under
any scheme. -/
def readPort (scheme : Text) : Text → Except Error (Option Nat)
  | ':' :: t =>
    let digits := t.takeWhile Char.isDigit
    match (t.dropWhile Char.isDigit).head?, Text.number? 10 digits with
    | none, some n | some '\\', some n =>
      if 65535 < n then .error .malformedPort
      else .ok (if digits.isEmpty ∨ defaultPort? scheme = some n then none else some n)
    | _, _ => .error .malformedPort
  | _ => .ok none

/-- Reads an authority, up to the slash, query or fragment that follows it. Credentials are
skipped. -/
def readAuthority (scheme : Text) (kind : SchemeKind) (t : Text) :
    Except Error (Option Host × Option Nat) := do
  let whole := t.takeWhile (!endsAuthority kind ·)
  let rest := t.dropWhile (!endsAuthority kind ·)
  let (credentials, place) := (splitAtLastAt? whole).getD ([], whole)
  if (splitAtLastAt? whole).isSome ∧ credentials.isEmpty ∧ place.isEmpty ∧ !rest.isEmpty then
    throw .emptyHost
  let hostText := place.take (hostLength false place)
  let afterHost := place.drop (hostLength false place)
  if kind.isSpecial then
    if hostText.isEmpty then throw .emptyHost
    let host ← specialHost hostText
    let port ← readPort scheme afterHost
    return (some host, port)
  else
    let host ← plainHost hostText
    if hostText.isEmpty ∧ !afterHost.isEmpty then throw .emptyHost
    let port ← readPort scheme afterHost
    if hostText.isEmpty then
      if hasCredentials credentials then throw .emptyHost
      return (none, port)
    return (some host, port)

/-! ## Paths -/

/-- The path at the head of a text: all before the query and the fragment. -/
def pathOf (t : Text) : Text := t.takeWhile fun c => c ≠ '?' && c ≠ '#'

def isDriveLetter : Text → Bool
  | [letter, mark] => letter.isAlpha && (mark = ':' || mark = '|')
  | _ => false

/-- The URL of a file, read from the text behind `file:`. The host is what stands between two
slashes and the next one, unless that is a drive; the local host is no host. -/
def readFile (t : Text) : Except Error Url := do
  let scheme := "file".toList
  match t with
  | a :: b :: t =>
    if isSlash .file a ∧ isSlash .file b then
      let hostText := t.takeWhile (!endsAuthority .file ·)
      if hostText.isEmpty ∨ isDriveLetter hostText then
        return ⟨scheme, none, none, pathOf t⟩
      let path := pathOf (t.dropWhile (!endsAuthority .file ·))
      match ← specialHost hostText with
      | .domain name =>
        if name = "localhost".toList then return ⟨scheme, none, none, path⟩
        return ⟨scheme, some (.domain name), none, path⟩
      | host => return ⟨scheme, some host, none, path⟩
    else return ⟨scheme, none, none, pathOf (a :: b :: t)⟩
  | t => return ⟨scheme, none, none, pathOf t⟩

/-! ## Whole URLs -/

/-- The text that is read as a URL: without controls and blanks at its ends, and without tabs and
line ends. -/
def cleaned (t : Text) : Text :=
  (t.trimBoth fun c => c.toNat ≤ 0x20).filter fun c => c ≠ '\t' && c ≠ '\n' && c ≠ '\r'

def parse (t : Text) : Except Error Url := do
  match cutScheme? (cleaned t) with
  | none => throw .relative
  | some (scheme, rest) =>
    match SchemeKind.of scheme with
    | .file => readFile rest
    | .special =>
      let t := rest.dropWhile (isSlash .special)
      let (host, port) ← readAuthority scheme .special t
      return ⟨scheme, host, port, pathOf (t.dropWhile (!endsAuthority .special ·))⟩
    | .other =>
      match rest with
      | '/' :: '/' :: t =>
        let (host, port) ← readAuthority scheme .other t
        return ⟨scheme, host, port, pathOf (t.dropWhile (!endsAuthority .other ·))⟩
      | _ => return ⟨scheme, none, none, pathOf rest⟩

def isAbsolute (t : Text) : Bool :=
  match parse t with
  | .ok _ => true
  | .error _ => false

end Url

end DocExcerpt
