import DocExcerpt.Proofs.Page.Description
import DocExcerpt.Proofs.Source.Opening

/-!
# All kinds of sources agree on a page

A page is a local file, an entry of an archive, or the body of an answer.  A file is split into lines
as it is stored, and each line is decoded; an entry and a body are decoded whole, and the text is
encoded and split again.  For a page without a byte order mark that is read as UTF-8, the section
that is cut out of it is the same on both ways, however malformed the page is.

Behind this stands `Page.ofBytes_encode_decode`.  Here each kind of source is followed to the bytes
that it opens (`openPage_of_holds`); from there on only the fragment of the address counts.

A body need not be read as UTF-8 although its answer leaves the character set open.  The library
reports the content type of an answer that was left for another address, if the last one has none,
and asking for a content type that is no text fails (`fetchExcerpt_of_foreign_types`).
-/

namespace DocExcerpt

open Http

namespace Sources

/-! ## What sources hold -/

/-- Whether the content type that the library finds in header lines, if there is one, is text and
names no character set, an unknown one, or UTF-8. -/
def LeavesUtf8 (lines : List Bytes) : Prop :=
  ∀ value, libraryType? lines = some value →
    ∃ contentType, Utf8.decode? value = some contentType ∧ NamesNoOther contentType

/-- The page at an address, as it is stored or sent. -/
inductive Holds (sources : Sources) : Text → Bytes → Prop
  /-- A local file. -/
  | file {address : Text} {url : Url} {path : Path} {place : Location} {page : Bytes}
      (parsed : Url.parse address = .ok url) (ofFile : url.scheme = "file".toList)
      (named : url.filePath? = some path)
      (found : sources.files.find [] path = .ok (place, .file page)) :
      Holds sources address page
  /-- An entry of an archive, which the reader of archives hands over as it is stored. -/
  | entry {address locator name : Text} {path : Path} {place : Location} {archive page : Bytes}
      (marked : Text.afterPhrase? archiveMark address = some locator)
      (located : archiveEntry address locator = .ok (path, name))
      (found : sources.files.find [] path = .ok (place, .file archive))
      (stored : sources.archives.entry? archive name = .ok (some (.ok page))) :
      Holds sources address page
  /-- The body of an answer of success, whose own header and, if that gives no content type, the
  headers of the answers that were left for it leave it in UTF-8. -/
  | answer {address : Text} {transfer : Transfer} {left own chunks trailers : List Bytes}
      (streamed : isStreamed address = true) (made : sources.opening address = .ok transfer)
      (comes : transfer.events = inOrder (left ++ own) chunks trailers)
      (reports : transfer.Reports (left ++ own))
      (complete : transfer.ending = .ok ()) (success : transfer.IsSuccess)
      (ownType : LeavesUtf8 own) (leftType : libraryType? own = none → LeavesUtf8 left) :
      Holds sources address chunks.flatten

variable {sources : Sources} {address : Text} {page : Bytes}

/-! ## Addresses -/

theorem trimBoth_append {drop : Char → Bool} {first : Char} {before : Text}
    (kept : ∀ c ∈ first :: before, drop c = false) (rest : Text) :
    Text.trimBoth drop (first :: before ++ rest) =
      first :: before ++ (rest.reverse.dropWhile drop).reverse := by
  have head : List.dropWhile drop (first :: before ++ rest) = first :: before ++ rest :=
    List.dropWhile_cons_of_neg (by simp [kept first])
  have backwards : List.dropWhile drop (first :: before).reverse = (first :: before).reverse := by
    rw [List.dropWhile_eq_self_iff]
    intro nonempty
    have last : (first :: before).reverse[0] ∈ first :: before :=
      List.mem_reverse.mp (List.getElem_mem nonempty)
    exact Bool.eq_false_iff.mp (kept _ last)
  rw [Text.trimBoth, head, List.reverse_append, List.dropWhile_append]
  split
  next nothing =>
    rw [backwards, List.reverse_reverse, List.isEmpty_iff.mp nothing, List.reverse_nil,
      List.append_nil]
  next => rw [List.reverse_append, List.reverse_reverse]

theorem scheme_of_archiveMark {address locator : Text} {url : Url}
    (marked : Text.afterPhrase? archiveMark address = some locator)
    (parsed : Url.parse address = .ok url) : url.scheme = "jar".toList := by
  obtain ⟨rest, rfl⟩ : ∃ rest, address = archiveMark ++ rest := by
    unfold Text.afterPhrase? at marked
    split at marked
    next begins =>
      obtain ⟨rest, rfl⟩ := List.isPrefixOf_iff_prefix.mp begins
      exact ⟨rest, rfl⟩
    next => cases marked
  have cut : ∃ left, Url.cutScheme? (Url.cleaned (archiveMark ++ rest)) =
      some ("jar".toList, left) := by
    have kept : ∀ c ∈ 'j' :: ['a', 'r', ':'], decide (c.toNat ≤ 0x20) = false := by simp
    rw [Url.cleaned, show archiveMark = 'j' :: ['a', 'r', ':'] from rfl, trimBoth_append kept,
      List.filter_append]
    exact ⟨_, rfl⟩
  obtain ⟨left, cut⟩ := cut
  rw [Url.parse, cut] at parsed
  simp only [show Url.SchemeKind.of "jar".toList = .other from rfl] at parsed
  split at parsed
  next =>
    cases authority : Url.readAuthority "jar".toList .other _ with
    | error => rw [authority] at parsed; cases parsed
    | ok read => rw [authority] at parsed; cases parsed; rfl
  next => cases parsed; rfl

theorem afterPhrase?_archiveMark {url : Url} (parsed : Url.parse address = .ok url)
    (otherwise : url.scheme ≠ "jar".toList) : Text.afterPhrase? archiveMark address = none := by
  cases marked : Text.afterPhrase? archiveMark address with
  | none => rfl
  | some locator => exact absurd (scheme_of_archiveMark marked parsed) otherwise

/-! ## Opening a page -/

theorem decode_utf8 (unmarked : Charset.ofMark? page = none) :
    Charset.decode .utf8 page = Utf8.decode page := by
  rw [Charset.decode, unmarked]
  rfl

theorem decodeLabelled_utf8 (unmarked : Charset.ofMark? page = none) {label : Option Text}
    (labelled : ∀ name set, label = some name →
      Charset.ofLabel? (Text.trimBlanks name) = some set → set = .utf8) :
    Charset.decodeLabelled label page = Utf8.decode page := by
  unfold Charset.decodeLabelled
  cases named : label.bind fun name => Charset.ofLabel? (Text.trimBlanks name) with
  | none => exact decode_utf8 unmarked
  | some set =>
    obtain ⟨name, isLabel, known⟩ := Option.bind_eq_some_iff.mp named
    obtain rfl := labelled name set isLabel known
    exact decode_utf8 unmarked

theorem LeavesUtf8.append {left own : List Bytes} (ownType : LeavesUtf8 own)
    (leftType : libraryType? own = none → LeavesUtf8 left) : LeavesUtf8 (left ++ own) := by
  intro value found
  rw [libraryType?_append] at found
  cases last : libraryType? own with
  | none =>
    rw [last, Option.none_or] at found
    exact leftType last value found
  | some other =>
    rw [last, Option.some_or] at found
    exact ownType value (last.trans found)

theorem exists_contentType_of_leavesUtf8 {transfer : Transfer} {head : List Bytes}
    (reports : transfer.Reports head) (leaves : LeavesUtf8 head) :
    ∃ contentType, transfer.contentType = .ok contentType ∧
      ∀ label set, contentType.bind charsetLabel? = some label →
        Charset.ofLabel? (Text.trimBlanks label) = some set → set = .utf8 := by
  unfold Transfer.Reports at reports
  cases found : libraryType? head with
  | none =>
    rw [found] at reports
    exact ⟨none, reports, nofun⟩
  | some value =>
    obtain ⟨contentType, decoded, plain⟩ := leaves value found
    simp only [found, decoded] at reports
    exact ⟨some contentType, reports, plain⟩

/-- Sources open the page that they hold as it is, or decoded and encoded again, which is the same
to a reader of lines. -/
theorem openPage_of_holds (unmarked : Charset.ofMark? page = none)
    (holds : sources.Holds address page) :
    ∃ opened, Page.Reading.ofBytes .none opened = Page.Reading.ofBytes .none page ∧
      sources.openPage false address = .ok (some (.whole opened)) := by
  cases holds with
  | file parsed ofFile named found =>
    have unarchived := afterPhrase?_archiveMark parsed (by rw [ofFile]; decide)
    have notHttp : isHttp "file".toList = false := by decide
    refine ⟨page, rfl, ?_⟩
    simp only [openPage, unarchived, parsed, ofFile, notHttp, named, openFile, found]
    rfl
  | entry marked located found stored =>
    refine ⟨_, Page.ofBytes_encode_decode page, ?_⟩
    simp only [openPage, marked, openArchived, located, found, openEntry, stored,
      decode_utf8 unmarked]
  | @answer transfer left own chunks trailers streamed made comes reports complete success
      ownType leftType =>
    obtain ⟨contentType, reported, labelled⟩ :=
      exists_contentType_of_leavesUtf8 reports (ownType.append leftType)
    refine ⟨_, Page.ofBytes_encode_decode chunks.flatten, ?_⟩
    rw [openPage_of_opening streamed made, complete, Transfer.checkStatus_of_success success,
      reported, transfer.body_of_inOrder comes]
    simp only [decodeLabelled_utf8 unmarked labelled]

/-! ## Cutting the section out -/

theorem reading_whole (bytes : Bytes) :
    (OpenPage.whole bytes).reading false = Page.Reading.ofBytes .none bytes := rfl

theorem section_of_fragment (address : Text) :
    Page.Section.of address = match Link.fragment? address with
      | some name => .member name.upper
      | none => .classDoc := rfl

theorem fetchExcerpt_of_openPage {bytes : Bytes}
    (opens : sources.openPage false address = .ok (some (.whole bytes))) :
    sources.fetchExcerpt false address =
      ((Page.Reading.ofBytes .none bytes).excerpt (Page.Section.of address)).map some := by
  rw [fetchExcerpt, opens]
  simp only [reading_whole]

theorem exists_fault_of_malformed {transfer : Transfer} {head : List Bytes} {value : Bytes}
    (reports : transfer.Reports head) (found : libraryType? head = some value)
    (malformed : Utf8.decode? value = none) : ∃ fault, transfer.contentType = .error fault := by
  simpa only [Transfer.Reports, found, malformed] using reports

/-- For each page and each fragment there is one section that is cut out, wherever the page comes
from.  The body of any other answer of success is read by the content type that the library reports,
whichever answer that is from, and not at all if it is no text. -/
theorem fetchExcerpt_of_holds (page : Bytes) (unmarked : Charset.ofMark? page = none)
    (fragment : Option Text) :
    ∃ text,
      (∀ address, Link.fragment? address = fragment →
        (Page.Reading.ofBytes .none page).excerpt (Page.Section.of address) = .ok text) ∧
      (∀ (sources : Sources) (address : Text), sources.Holds address page →
        Link.fragment? address = fragment → sources.fetchExcerpt false address = .ok (some text)) ∧
      (∀ (sources : Sources) (address : Text) (transfer : Transfer)
          (head chunks trailers : List Bytes),
        isStreamed address = true → sources.opening address = .ok transfer →
        transfer.events = inOrder head chunks trailers → chunks.flatten = page →
        transfer.Reports head → transfer.ending = .ok () → transfer.IsSuccess →
        (∀ contentType, transfer.contentType = .ok contentType →
          sources.fetchExcerpt false address =
            ((Page.Reading.ofBytes .none (Utf8.encode
              (Charset.decodeLabelled (contentType.bind charsetLabel?) page))).excerpt
                (Page.Section.of address)).map some) ∧
        (∀ value, libraryType? head = some value → Utf8.decode? value = none →
          ∃ fault, sources.fetchExcerpt false address = .error (.transfer fault))) := by
  obtain ⟨text, cutOut⟩ := Page.exists_excerpt page
    (match fragment with | some name => .member name.upper | none => .classDoc)
  have excerpt : ∀ address, Link.fragment? address = fragment →
      (Page.Reading.ofBytes .none page).excerpt (Page.Section.of address) = .ok text := by
    rintro address rfl
    rw [section_of_fragment]
    exact cutOut
  refine ⟨text, excerpt, fun sources address holds asks => ?_, ?_⟩
  · obtain ⟨opened, same, opens⟩ := openPage_of_holds unmarked holds
    rw [fetchExcerpt_of_openPage opens, same, excerpt address asks]
    rfl
  · rintro sources address transfer head chunks trailers streamed made comes rfl reports complete
      success
    have opens := openPage_of_opening streamed made
    rw [complete, Transfer.checkStatus_of_success success, transfer.body_of_inOrder comes] at opens
    constructor
    · intro contentType reported
      rw [reported] at opens
      exact fetchExcerpt_of_openPage opens
    · intro value found malformed
      obtain ⟨fault, failed⟩ := exists_fault_of_malformed reports found malformed
      rw [failed] at opens
      exact ⟨fault, by rw [fetchExcerpt, opens]⟩

/-- A page that begins a member, and that breaks off a character before its line ends. -/
def brokenPage : Bytes :=
  [0x3C, 0x41, 0x20, 0x4E, 0x41, 0x4D, 0x45, 0x3D, 0x22, 0x66, 0x22, 0x3E, 0xE2, 0x82, 0x0D, 0x0A]

/-- An archive that stores the broken page as its only entry. -/
def brokenArchive : Bytes :=
  [0x50, 0x4B, 0x03, 0x04, 0x14, 0x00, 0x00, 0x00, 0x00, 0x00, 0x00, 0x00, 0x00, 0x00, 0x1E, 0xB3,
    0x85, 0x9E, 0x10, 0x00, 0x00, 0x00, 0x10, 0x00, 0x00, 0x00, 0x01, 0x00, 0x00, 0x00, 0x70] ++
  brokenPage ++
  [0x50, 0x4B, 0x01, 0x02, 0x14, 0x00, 0x14, 0x00, 0x00, 0x00, 0x00, 0x00, 0x00, 0x00, 0x00, 0x00,
    0x1E, 0xB3, 0x85, 0x9E, 0x10, 0x00, 0x00, 0x00, 0x10, 0x00, 0x00, 0x00, 0x01, 0x00, 0x00, 0x00,
    0x00, 0x00, 0x00, 0x00, 0x00, 0x00, 0x00, 0x00, 0x00, 0x00, 0x00, 0x00, 0x00, 0x00, 0x70] ++
  [0x50, 0x4B, 0x05, 0x06, 0x00, 0x00, 0x00, 0x00, 0x01, 0x00, 0x01, 0x00, 0x2F, 0x00, 0x00, 0x00,
    0x2F, 0x00, 0x00, 0x00, 0x00, 0x00]

/-- The header of an answer that was left for another address. -/
def leftHeader : List Bytes :=
  headerLines ["HTTP/1.1 302 Found", "Location: /p", "Content-Type: text/plain"]

def ownHeader : List Bytes :=
  headerLines ["HTTP/1.1 200 OK", "Content-Type: text/html; charset=utf-8"]

/-- A transfer of the broken page, cut inside the broken character. -/
def brokenTransfer : Transfer where
  events := inOrder (leftHeader ++ ownHeader) [brokenPage.take 13, brokenPage.drop 13] []
  ending := .ok ()
  status := .ok 200
  contentType := .ok (some "text/html; charset=utf-8".toList)

def brokenSources : Sources where
  files := ⟨[([[0x70]], .file brokenPage), ([[0x7A]], .file brokenArchive)]⟩
  transport := .always brokenTransfer
  options := ⟨15, 30, none, none⟩

theorem namesNoOther_utf8 : NamesNoOther "text/html; charset=utf-8".toList := by
  intro label set named known
  have label_eq : charsetLabel? "text/html; charset=utf-8".toList = some "utf-8".toList := by
    decide +kernel
  have set_eq : Charset.ofLabel? (Text.trimBlanks "utf-8".toList) = some .utf8 := rfl
  obtain rfl := Option.some.inj (label_eq.symm.trans named)
  exact Option.some.inj (known.symm.trans set_eq)

theorem libraryType?_ownHeader :
    libraryType? ownHeader = some (Utf8.encode "text/html; charset=utf-8".toList) := by
  decide +kernel

theorem leavesUtf8_ownHeader : LeavesUtf8 ownHeader := by
  intro value found
  obtain rfl := Option.some.inj (libraryType?_ownHeader.symm.trans found)
  exact ⟨_, Utf8.decode?_encode _, namesNoOther_utf8⟩

theorem leavesUtf8_leftHeader (untyped : libraryType? ownHeader = none) :
    LeavesUtf8 leftHeader := by
  rw [libraryType?_ownHeader] at untyped
  cases untyped

theorem reports_brokenTransfer : brokenTransfer.Reports (leftHeader ++ ownHeader) := by
  simp only [Transfer.Reports, libraryType?_append, libraryType?_ownHeader, Option.some_or,
    Utf8.decode?_encode]
  rfl

theorem fetchExcerpt_brokenPage :
    brokenSources.fetchExcerpt false "file:///p#f".toList =
        brokenSources.fetchExcerpt false "jar:file:///z!/p#f".toList ∧
      brokenSources.fetchExcerpt false "file:///p#f".toList =
        brokenSources.fetchExcerpt false "http://[::1]/p#f".toList := by
  have inFile : brokenSources.Holds "file:///p#f".toList brokenPage := .file rfl rfl rfl rfl
  have inArchive : brokenSources.Holds "jar:file:///z!/p#f".toList brokenPage := by
    have stored : brokenSources.archives.entry? brokenArchive "p".toList =
        .ok (some (.ok brokenPage)) := by decide +kernel
    exact .entry rfl rfl rfl stored
  have inAnswer : brokenSources.Holds "http://[::1]/p#f".toList brokenPage := by
    have comes : brokenTransfer.events = inOrder (leftHeader ++ ownHeader)
        [brokenPage.take 13, brokenPage.drop 13] [] := rfl
    exact .answer rfl rfl comes reports_brokenTransfer rfl ⟨200, rfl, by decide⟩
      leavesUtf8_ownHeader leavesUtf8_leftHeader
  obtain ⟨text, -, same, -⟩ := fetchExcerpt_of_holds brokenPage rfl (some "f".toList)
  rw [same _ _ inFile rfl, same _ _ inArchive rfl, same _ _ inAnswer rfl]
  exact ⟨rfl, rfl⟩

/-- A page with one character that is malformed in UTF-8. -/
def latinPage : Bytes := Utf8.encode "<A NAME=\"f\">caf".toList ++ [0xE9, 0x0A]

def latinTransfer (head : List Bytes) (contentType : Except TransferFault (Option Text)) :
    Transfer :=
  ⟨inOrder head [latinPage] [], .ok (), .ok 200, contentType⟩

/-- Sources with the page as a file, and with a network that sends it. -/
def latinSources (transfer : Transfer) : Sources :=
  ⟨⟨[([[0x70]], .file latinPage)]⟩, .always transfer, ⟨15, 30, none, none⟩⟩

def untypedHeader : List Bytes := headerLines ["HTTP/1.1 200 OK"]

/-- The header of an answer in Latin-1 that was left for another address. -/
def latinHeader : List Bytes :=
  headerLines ["HTTP/1.1 301 Moved Permanently", "Location: /p",
    "Content-Type: text/html; charset=ISO-8859-1"]

/-- The header of an answer whose content type has a parameter that is no text. -/
def malformedHeader : List Bytes :=
  [Utf8.encode "HTTP/1.1 200 OK\r\n".toList,
    Utf8.encode "Content-Type: text/html; x=".toList ++ [0xE9, 0x0D, 0x0A], [0x0D, 0x0A]]

def latinType : Text := "text/html; charset=ISO-8859-1".toList

theorem reports_latin {own : List Bytes} (untyped : libraryType? own = none) :
    (latinTransfer (latinHeader ++ own) (.ok (some latinType))).Reports (latinHeader ++ own) := by
  have leftType : libraryType? latinHeader = some (Utf8.encode latinType) := by decide +kernel
  simp only [Transfer.Reports, libraryType?_append, untyped, Option.none_or, leftType,
    Utf8.decode?_encode]
  rfl

/-- The fault of asking for a content type that is no text. -/
def noTextFault : TransferFault := ⟨75, "Unknown error"⟩

theorem reports_malformed :
    (latinTransfer malformedHeader (.error noTextFault)).Reports malformedHeader := by
  have ownType : libraryType? malformedHeader =
      some (Utf8.encode "text/html; x=".toList ++ [0xE9]) := by decide +kernel
  have noText : Utf8.decode? (Utf8.encode "text/html; x=".toList ++ [0xE9]) = none := by
    decide +kernel
  simp only [Transfer.Reports, ownType, noText]
  exact ⟨noTextFault, rfl⟩

theorem openPage_latin (head : List Bytes) :
    (latinSources (latinTransfer head (.ok (some latinType)))).openPage false
        "http://[::1]/p#f".toList =
      .ok (some (.whole (Utf8.encode "<A NAME=\"f\">café\n".toList))) := by
  have decoded : Charset.decodeLabelled ((some latinType).bind charsetLabel?) latinPage =
      "<A NAME=\"f\">café\n".toList := by decide +kernel
  have opens := @openPage_of_opening (latinSources (latinTransfer head (.ok (some latinType))))
    "http://[::1]/p#f".toList _ rfl rfl
  rw [Transfer.body_of_inOrder _ rfl, Transfer.checkStatus_of_success ⟨200, rfl, by decide⟩,
    List.flatten_singleton] at opens
  rw [opens]
  simp only [latinTransfer, decoded]

/-- Neither answer names a character set.  The body of the first is decoded by that of an answer
which was left, and the body of the second is not decoded at all. -/
theorem fetchExcerpt_of_foreign_types :
    let redirected := latinTransfer (latinHeader ++ untypedHeader) (.ok (some latinType))
    let malformed := latinTransfer malformedHeader (.error noTextFault)
    (redirected.Reports (latinHeader ++ untypedHeader) ∧ libraryType? untypedHeader = none ∧
      (latinSources redirected).fetchExcerpt false "file:///p#f".toList =
        .ok (some "<HTML><A NAME=\"f\">caf\uFFFD</HTML>".toList) ∧
      (latinSources redirected).fetchExcerpt false "http://[::1]/p#f".toList =
        .ok (some "<HTML><A NAME=\"f\">café</HTML>".toList)) ∧
    (malformed.Reports malformedHeader ∧
      (latinSources malformed).fetchExcerpt false "file:///p#f".toList =
        .ok (some "<HTML><A NAME=\"f\">caf\uFFFD</HTML>".toList) ∧
      (latinSources malformed).fetchExcerpt false "http://[::1]/p#f".toList =
        .error (.transfer noTextFault)) := by
  intro redirected malformed
  have untyped : libraryType? untypedHeader = none := by decide +kernel
  refine ⟨⟨reports_latin untyped, untyped, by decide +kernel, ?_⟩,
    reports_malformed, by decide +kernel, by decide +kernel⟩
  rw [fetchExcerpt_of_openPage (openPage_latin _)]
  decide +kernel

end Sources

end DocExcerpt
