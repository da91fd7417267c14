import DocExcerpt.Proofs.Source.Agreement
import DocExcerpt.Proofs.Source.Visiting

/-!
# Streamed lines are the lines of the open page

The lines of a page on the network come to a visitor in two ways.  When they are streamed, each is
cut out of the bytes, looked at for a byte order mark of its own, and decoded by itself, by the last
content type in the header lines that have come.  When the page is opened, its body is decoded whole,
by the content type that the library reports, and the text is cut into lines.

The two agree on an answer of success that both read as UTF-8, if none of its lines begins with a
mark and no carriage return stands at its end (`IsPlain.lines_eq`): then a mark is found on neither
way, a line feed is one in bytes and in text, and each way drops the same carriage returns.  What is
malformed does not matter, nor where the network cuts the body.

They do not agree on the content type itself.  One that is no text fails the opening of the page and
is nothing to the stream, and one that is empty is nothing to the library
(`streamed_lines_of_foreign_types`).
-/

namespace DocExcerpt

open Http Page Pieces

/-! ## Byte order marks -/

/-- The byte order marks of UTF-8 and of both kinds of UTF-16. -/
def Charset.marks : List Bytes := [[0xEF, 0xBB, 0xBF], [0xFF, 0xFE], [0xFE, 0xFF]]

theorem Charset.ofMark?_eq_none_iff (bytes : Bytes) :
    ofMark? bytes = none ↔ ∀ mark ∈ marks, ¬ mark <+: bytes := by
  unfold ofMark?
  split
  next => simp [marks]
  next => simp [marks]
  next => simp [marks]
  next noUtf8 noLittle noBig =>
    simp only [marks, true_iff, List.forall_mem_cons]
    refine ⟨?_, ?_, ?_, nofun⟩
    · rintro ⟨rest, rfl⟩
      exact noUtf8 rest rfl
    · rintro ⟨rest, rfl⟩
      exact noLittle rest rfl
    · rintro ⟨rest, rfl⟩
      exact noBig rest rfl

/-- A mark holds no line feed, so that a body that begins with one has it in its first line. -/
theorem Charset.ofMark?_eq_none_of_lines {bytes : Bytes}
    (unmarked : ∀ line ∈ bytes.splitOn 0x0A, ∀ mark ∈ marks, ¬ mark <+: line) :
    ofMark? bytes = none := by
  rw [ofMark?_eq_none_iff]
  intro mark isMark
  induction bytes using piecewise (0x0A : UInt8) with
  | unended line noFeed =>
    rw [List.splitOn_eq_singleton noFeed] at unmarked
    exact unmarked line List.mem_cons_self mark isMark
  | ended line rest noFeed _ =>
    rw [List.splitOn_append_cons_self_of_not_mem noFeed] at unmarked
    have noFeedInMark : ∀ mark ∈ marks, 0x0A ∉ mark := by decide
    rw [prefix_append_mark_iff (noFeedInMark mark isMark)]
    exact unmarked line List.mem_cons_self mark isMark

/-! ## Plain bodies -/

namespace Http

/-- Whether the content type that header lines give to a visitor of lines, if there is one, names no
character set, an unknown one, or UTF-8. -/
def GivesUtf8 (lines : List Bytes) : Prop :=
  ∀ value, LastOf GivesContentType lines (some value) → NamesNoOther value

theorem GivesUtf8.append {front own : List Bytes} (ownType : GivesUtf8 own)
    (frontType : LastOf GivesContentType own none → GivesUtf8 front) : GivesUtf8 (front ++ own) := by
  intro value last
  rw [lastOf_givesContentType_iff, List.reverse_append, List.findSome?_append] at last
  cases found : own.reverse.findSome? contentTypeOf? with
  | none =>
    rw [found, Option.none_or] at last
    exact frontType (lastOf_givesContentType_iff.mpr found) value
      (lastOf_givesContentType_iff.mpr last)
  | some other =>
    rw [found, Option.some_or] at last
    exact ownType value (lastOf_givesContentType_iff.mpr (found.trans last))

/-- Whether the lines of a body are read the same one by one and together, as far as that is up to
its bytes: no line begins with a byte order mark, and no carriage return stands at its end. -/
structure IsPlain (body : Bytes) : Prop where
  unmarked : ∀ line ∈ body.splitOn 0x0A, ∀ mark ∈ Charset.marks, ¬ mark <+: line
  noReturn : body.getLast? ≠ some 0x0D

variable {body : Bytes}

/-- A line of a plain body is decoded as a line of an open page is, if its carriage return is cut
off there, too. -/
theorem IsPlain.textOf_eq (plain : IsPlain body) {stream : Stream}
    (plainType : ∀ value, stream.contentType = some value → NamesNoOther value) {line : Bytes}
    (isLine : line ∈ body.splitOn 0x0A) {ended : Bool}
    (sameEnd : ended = true ∨ line.getLast? ≠ some 0x0D) :
    stream.textOf line = (RawLine.mk line ended).text := by
  have cut : trimReturn line = (RawLine.mk line ended).trimmed := by
    rcases sameEnd with rfl | noReturn
    · simp [trimReturn, RawLine.trimmed]
    · simp [trimReturn, RawLine.trimmed, noReturn]
  have kept : (RawLine.mk line ended).trimmed <+: line := by
    rw [← cut, trimReturn]
    split
    · exact List.dropLast_prefix line
    · exact List.prefix_rfl
  have unmarked : Charset.ofMark? (RawLine.mk line ended).trimmed = none := by
    rw [Charset.ofMark?_eq_none_iff]
    exact fun mark isMark begins => plain.unmarked line isLine mark isMark (begins.trans kept)
  rw [Stream.textOf, cut, RawLine.text]
  refine Sources.decodeLabelled_utf8 unmarked fun label set named => ?_
  obtain ⟨value, given, labelled⟩ := Option.bind_eq_some_iff.mp named
  exact plainType value given label set labelled

theorem IsPlain.lines_eq {head chunks trailers : List Bytes} (plain : IsPlain chunks.flatten)
    (headType : GivesUtf8 head) (trailersType : GivesUtf8 trailers) {transfer : Transfer}
    (comes : transfer.events = inOrder head chunks trailers) :
    transfer.lines = (ended 0x0A chunks.flatten).map (fun line => (RawLine.mk line true).text) ∧
      transfer.lines ++ transfer.lastLine =
        (RawLine.ofBytes chunks.flatten).map RawLine.text := by
  obtain ⟨lines, rest⟩ := linesOf_inOrder head chunks trailers
  have endType : GivesUtf8 (head ++ trailers) := trailersType.append fun _ => headType
  have ended_eq : transfer.lines =
      (ended 0x0A chunks.flatten).map (fun line => (RawLine.mk line true).text) := by
    rw [Transfer.lines, comes, lines]
    apply List.map_congr_left
    intro line isEnded
    exact plain.textOf_eq (fun value given => headType value (lastOf_givesContentType_iff.mpr given))
      (List.dropLast_subset _ isEnded) (.inl rfl)
  refine ⟨ended_eq, ?_⟩
  rw [RawLine.ofBytes_eq, List.map_append, List.map_map, ended_eq]
  congr 1
  rw [Transfer.lastLine, comes, rest]
  simp only
  split
  next => rfl
  next nonempty =>
    have noReturn : (unended 0x0A chunks.flatten).getLast? ≠ some 0x0D := by
      have ends := plain.noReturn
      rwa [← @flatMap_ended_append_unended _ _ 0x0A chunks.flatten,
        List.getLast?_append_of_ne_nil _ nonempty] at ends
    rw [List.map_singleton, plain.textOf_eq
      (fun value given => endType value (lastOf_givesContentType_iff.mpr given))
      (unended_mem_splitOn _) (.inr noReturn)]

end Http

/-! ## Both ways to the lines -/

namespace Sources

variable {sources : Sources} {address : Text} {first second : Transfer}
  {left own trailers : List Bytes} {body : Bytes}

/-- Whether one answer of success is sent twice, once to open its page and once to stream it, each
time in chunks of its own, behind the answers that were left for it. -/
structure SameAnswer (first second : Transfer) (left own trailers : List Bytes) (body : Bytes) :
    Prop where
  opened : ∃ chunks, chunks.flatten = body ∧ first.events = inOrder (left ++ own) chunks trailers
  visited : ∃ chunks, chunks.flatten = body ∧ second.events = inOrder (left ++ own) chunks trailers
  success : first.IsSuccess
  sameStatus : second.status = first.status
  reports : first.Reports (left ++ own)

/-- Whether the content types that an answer and those left for it give to a visitor of lines leave
its body in UTF-8.  Where the answer gives none, the last one before it counts. -/
structure StreamsUtf8 (left own trailers : List Bytes) : Prop where
  ownGives : GivesUtf8 own
  leftGives : LastOf GivesContentType own none → GivesUtf8 left
  trailersGive : GivesUtf8 trailers

theorem SameAnswer.visited_success (same : SameAnswer first second left own trailers body) :
    second.IsSuccess := by
  obtain ⟨code, found, within⟩ := same.success
  exact ⟨code, same.sameStatus.trans found, within⟩

theorem SameAnswer.visitLines_eq (same : SameAnswer first second left own trailers body)
    (streamed : isStreamed address = true) (visited : sources.visiting address = .ok second)
    (types : StreamsUtf8 left own trailers) (plain : IsPlain body) (complete : second.ending = .ok ())
    {σ : Type} (visit : Visitor σ) (state : σ) :
    sources.visitLines false address visit state =
      visitReading visit none ((RawLine.ofBytes body).map RawLine.text) state := by
  obtain ⟨chunks, rfl, comes⟩ := same.visited
  have lines := (plain.lines_eq (types.ownGives.append types.leftGives) types.trailersGive comes).2
  rw [Sources.visitLines_eq, handedOver_of_visiting streamed visited, Transfer.handedOver, complete,
    Transfer.checkStatus_of_success same.visited_success]
  simp only
  rw [lines]

theorem SameAnswer.openPage_eq (same : SameAnswer first second left own trailers body)
    (streamed : isStreamed address = true) (opened : sources.opening address = .ok first)
    (plain : IsPlain body) (complete : first.ending = .ok ()) (ownType : LeavesUtf8 own)
    (leftType : libraryType? own = none → LeavesUtf8 left) :
    ∃ page, sources.openPage false address = .ok (some page) ∧
      page.reading false = ⟨(RawLine.ofBytes body).map RawLine.text, none⟩ := by
  obtain ⟨chunks, rfl, comes⟩ := same.opened
  obtain ⟨contentType, reported, labelled⟩ :=
    exists_contentType_of_leavesUtf8 same.reports (ownType.append leftType)
  have decoded : Charset.decodeLabelled (contentType.bind charsetLabel?) chunks.flatten =
      Utf8.decode chunks.flatten :=
    decodeLabelled_utf8 (Charset.ofMark?_eq_none_of_lines plain.unmarked) labelled
  refine ⟨.whole (Utf8.encode (Utf8.decode chunks.flatten)), ?_, ?_⟩
  · rw [openPage_of_opening streamed opened, complete,
      Transfer.checkStatus_of_success same.success, reported, first.body_of_inOrder comes]
    simp only [decoded]
  · rw [reading_whole, ofBytes_encode_decode, Reading.ofBytes_none]

/-- Let one answer of success be sent for an address, once to open the page and once to stream it.
If both transfers are complete and all content types leave its plain body in UTF-8, the page opens,
and a visitor of the stream sees the lines of the page, as far as it wants.  If the library finds a
content type that is no text, the stream has the lines of the body all the same, but the page does
not open.  If the transfers break off alike, both fail alike. -/
theorem streamed_lines_are_page_lines (streamed : isStreamed address = true)
    (opened : sources.opening address = .ok first) (visited : sources.visiting address = .ok second)
    (same : SameAnswer first second left own trailers body)
    (types : StreamsUtf8 left own trailers) (plain : IsPlain body) :
    (first.ending = .ok () → second.ending = .ok () → LeavesUtf8 own →
      (libraryType? own = none → LeavesUtf8 left) → ∃ page lines,
        sources.openPage false address = .ok (some page) ∧ page.reading false = ⟨lines, none⟩ ∧
          sources.visitLines false address .collect [] = (lines, .ok ()) ∧
          ∀ {σ : Type} (visit : Visitor σ) (state : σ),
            sources.visitLines false address visit state = visitReading visit none lines state) ∧
    (first.ending = .ok () → second.ending = .ok () → ∀ value,
      libraryType? (left ++ own) = some value → Utf8.decode? value = none →
        sources.visitLines false address .collect [] =
            ((RawLine.ofBytes body).map RawLine.text, .ok ()) ∧
          ∃ fault, sources.openPage false address = .error (.transfer fault)) ∧
    (∀ fault, first.ending = .error fault → second.ending = .error fault → ∃ error,
      sources.openPage false address = .error error ∧
        (sources.visitLines false address .collect []).2 = .error error) := by
  refine ⟨fun completeFirst completeSecond ownType leftType => ?_,
    fun completeFirst completeSecond value found malformed => ⟨?_, ?_⟩,
    fun fault brokenFirst brokenSecond => ?_⟩
  · obtain ⟨page, opens, read⟩ :=
      same.openPage_eq streamed opened plain completeFirst ownType leftType
    refine ⟨page, _, opens, read, ?_, same.visitLines_eq streamed visited types plain completeSecond⟩
    rw [same.visitLines_eq streamed visited types plain completeSecond, visitReading_collect]
    rfl
  · rw [same.visitLines_eq streamed visited types plain completeSecond, visitReading_collect]
    rfl
  · obtain ⟨fault, failed⟩ := exists_fault_of_malformed same.reports found malformed
    rw [openPage_of_opening streamed opened, completeFirst,
      Transfer.checkStatus_of_success same.success, failed]
    exact ⟨fault, rfl⟩
  · refine ⟨if fault.isGivenUp then .cancelled else .transfer fault, ?_, ?_⟩
    · rw [openPage_of_opening streamed opened, brokenFirst]
    · rw [visitLines_collect, handedOver_of_visiting streamed visited, Transfer.handedOver,
        brokenSecond]
      simp only [Transfer.failure, Transfer.checkStatus_of_success same.visited_success, ite_self]

def bytewiseTransfer : Transfer :=
  { brokenTransfer with events := inOrder (leftHeader ++ ownHeader) (brokenPage.map ([·])) [] }

/-- Sources with a network that makes one transfer to open a page, and another to stream it. -/
def eitherWay (first second : Transfer) : Sources where
  files := .empty
  transport := ⟨fun request => .ok (if request.refusesErrors then second else first)⟩
  options := ⟨15, 30, none, none⟩

theorem givesUtf8_ownHeader : GivesUtf8 ownHeader := by
  intro value last
  have given : ownHeader.reverse.findSome? contentTypeOf? =
      some "text/html; charset=utf-8".toList := by decide +kernel
  obtain rfl := Option.some.inj (given.symm.trans (lastOf_givesContentType_iff.mp last))
  exact namesNoOther_utf8

theorem streamed_lines_of_brokenPage :
    let sources := eitherWay brokenTransfer bytewiseTransfer
    let lines := ["<A NAME=\"f\">\uFFFD".toList]
    ∃ page, sources.openPage false "http://[::1]/p".toList = .ok (some page) ∧
      page.reading false = ⟨lines, none⟩ ∧
        sources.visitLines false "http://[::1]/p".toList .collect [] = (lines, .ok ()) := by
  intro sources expected
  have same : SameAnswer brokenTransfer bytewiseTransfer leftHeader ownHeader [] brokenPage :=
    ⟨⟨_, rfl, rfl⟩, ⟨_, rfl, rfl⟩, ⟨200, rfl, by decide⟩, rfl, reports_brokenTransfer⟩
  have types : StreamsUtf8 leftHeader ownHeader [] := by
    refine ⟨givesUtf8_ownHeader, fun untyped => ?_, fun value last => ?_⟩
    · exact absurd (lastOf_givesContentType_iff.mp untyped) (by decide +kernel)
    · cases lastOf_givesContentType_iff.mp last
  have plain : IsPlain brokenPage := ⟨by decide +kernel, by decide⟩
  obtain ⟨page, lines, opens, read, visits, -⟩ :=
    (@streamed_lines_are_page_lines sources "http://[::1]/p".toList _ _ _ _ _ _ rfl rfl rfl same
      types plain).1 rfl rfl leavesUtf8_ownHeader leavesUtf8_leftHeader
  have seen : (sources.visitLines false "http://[::1]/p".toList .collect []).1 = expected := by
    decide +kernel
  obtain rfl : lines = expected := by rw [← seen, visits]
  exact ⟨page, opens, read, visits⟩

def emptyHeader : List Bytes := headerLines ["HTTP/1.1 200 OK", "Content-Type:"]

/-- Neither answer names a character set, and each is streamed in UTF-8.  The page of the first is
decoded by the content type of an answer that was left, and the page of the second does not open. -/
theorem streamed_lines_of_foreign_types :
    let redirected := latinTransfer (latinHeader ++ emptyHeader) (.ok (some latinType))
    let malformed := latinTransfer malformedHeader (.error noTextFault)
    let streamed := ["<A NAME=\"f\">caf\uFFFD".toList]
    IsPlain latinPage ∧
    (redirected.Reports (latinHeader ++ emptyHeader) ∧ libraryType? emptyHeader = none ∧
      (∃ page, (latinSources redirected).openPage false "http://[::1]/p#f".toList =
          .ok (some page) ∧ page.reading false = ⟨["<A NAME=\"f\">café".toList], none⟩) ∧
      (latinSources redirected).visitLines false "http://[::1]/p#f".toList .collect [] =
        (streamed, .ok ())) ∧
    (malformed.Reports malformedHeader ∧
      (latinSources malformed).openPage false "http://[::1]/p#f".toList =
        .error (.transfer noTextFault) ∧
      (latinSources malformed).visitLines false "http://[::1]/p#f".toList .collect [] =
        (streamed, .ok ())) := by
  intro redirected malformed streamed
  have untyped : libraryType? emptyHeader = none := by decide +kernel
  refine ⟨⟨by decide +kernel, by decide +kernel⟩,
    ⟨reports_latin untyped, untyped, ⟨_, openPage_latin _, by decide +kernel⟩, by decide +kernel⟩,
    reports_malformed, by decide +kernel, by decide +kernel⟩

end Sources

end DocExcerpt
