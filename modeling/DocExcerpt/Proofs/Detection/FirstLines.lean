import DocExcerpt.Detection
import DocExcerpt.Proofs.Source.Visiting
import DocExcerpt.Proofs.Text.Phrase

/-!
# Detection looks at the first lines

A page is taken for one of the tool's pages exactly if the marker is among the first lines that its
source hands over (`isJavadoc_iff`).  The search counts the lines down and stops at the first with
the marker, or when it has looked at as many as it may, so that nothing behind the line which
decides has a say: not the rest of a body, not the trailers, and not how the transfer ends
(`isJavadoc_by_first_lines`).

What stands before the body has a say.  If the header of an answer gives no content type, its lines
are read by that of an answer which was left for it (`isJavadoc_of_left_type`).
-/

namespace DocExcerpt.Detection

open Http Pieces

variable {lookahead : Nat} {lines : List Text}

/-! ## The search -/

/-- Whether a line has what the tool writes. -/
def Marked (line : Text) : Prop := marker <:+: line

instance : DecidablePred Marked := fun _ => inferInstanceAs (Decidable (_ <:+: _))

/-- What a search has found once the visit is over.  A visit that fails finds nothing. -/
def verdict : Search × Except FetchError Unit → Bool
  | (search, .ok ()) => search.found
  | (_, .error _) => false

theorem look_of_marked {line : Text} (marked : Marked line) (remaining : Nat) (found : Bool) :
    Search.look ⟨remaining + 1, found⟩ line = (⟨remaining, true⟩, false) :=
  if_pos (Text.hasPhrase_iff.mpr marked)

theorem look_of_not_marked {line : Text} (unmarked : ¬ Marked line) (remaining : Nat)
    (found : Bool) :
    Search.look ⟨remaining + 1, found⟩ line = (⟨remaining, found⟩, decide (remaining ≠ 0)) :=
  if_neg fun found => unmarked (Text.hasPhrase_iff.mp found)

theorem verdict_visitReading (error : Option FetchError) (lines : List Text) (remaining : Nat) :
    verdict (Sources.visitReading Search.look error lines ⟨remaining + 1, false⟩) = true ↔
      ∃ line ∈ lines.take (remaining + 1), Marked line := by
  induction lines generalizing remaining with
  | nil => cases error <;> simp [Sources.visitReading, verdict]
  | cons line lines inductionHypothesis =>
    rw [List.take_succ_cons, Sources.visitReading]
    by_cases marked : Marked line
    · simp [look_of_marked marked, verdict, marked]
    · rw [look_of_not_marked marked]
      cases remaining with
      | zero => simp [verdict, marked]
      | succ remaining => simpa [marked] using inductionHypothesis remaining

/-- A page is one of the tool's if the marker is among the first lines that its source hands
over. -/
theorem isJavadoc_iff (sources : Sources) (lookahead : Nat) (address : Text) :
    isJavadoc sources lookahead address = true ↔
      ∃ line ∈ (sources.handedOver address).lines.take lookahead, Marked line := by
  cases lookahead with
  | zero => simp [isJavadoc]
  | succ remaining =>
    have answer : isJavadoc sources (remaining + 1) address = verdict
        (sources.visitLines false address Search.look ⟨remaining + 1, false⟩) := rfl
    rw [answer, Sources.visitLines_eq, verdict_visitReading]

/-! ## Lines that decide -/

/-- Whether lines decide a search: they are as many as it looks at, or one has the marker. -/
def Decides (lookahead : Nat) (lines : List Text) : Prop :=
  lookahead ≤ lines.length ∨ ∃ line ∈ lines, Marked line

theorem Decides.exists_marked_append_iff (decides : Decides lookahead lines) (more : List Text) :
    (∃ line ∈ (lines ++ more).take lookahead, Marked line) ↔
      ∃ line ∈ lines.take lookahead, Marked line := by
  by_cases enough : lookahead ≤ lines.length
  · rw [List.take_append_of_le_length enough]
  · obtain ⟨line, member, marked⟩ := decides.resolve_left enough
    have all : lines.take lookahead = lines := List.take_of_length_le (Nat.le_of_not_le enough)
    rw [List.take_append, all]
    exact iff_of_true ⟨line, List.mem_append_left _ member, marked⟩ ⟨line, member, marked⟩

/-! ## The head of a body -/

variable {sources : Sources} {address : Text} {transfer : Transfer}
  {head chunks trailers : List Bytes} {contentType : Option Text} {common : Bytes}

theorem exists_marked_handedOver_iff (streamed : Sources.isStreamed address = true)
    (made : sources.visiting address = .ok transfer)
    (comes : transfer.events = inOrder head chunks trailers)
    (typed : LastOf GivesContentType head contentType) (begins : common <+: chunks.flatten)
    (read : List.Forall₂ (Reads contentType) (ended 0x0A common) lines)
    (decides : Decides lookahead lines) :
    (∃ line ∈ (sources.handedOver address).lines.take lookahead, Marked line) ↔
      ∃ line ∈ lines.take lookahead, Marked line := by
  obtain ⟨rest, body⟩ := begins
  obtain ⟨more, handed⟩ := transfer.lines_prefix_handedOver address
  have front : transfer.lines = lines ++
      (ended 0x0A (unended 0x0A common ++ rest)).map (Stream.textOf ⟨contentType, []⟩) := by
    rw [Transfer.lines, comes, (linesOf_inOrder head chunks trailers).1,
      lastOf_givesContentType_iff.mp typed, ← body, ended_append, List.map_append,
      forall₂_reads_iff.mp read]
  rw [Sources.handedOver_of_visiting streamed made, ← handed, front, List.append_assoc,
    decides.exists_marked_append_iff]

/-- Content types of the header of an answer hide those of the answers before it. -/
theorem lastOf_append_congr {left other own : List Bytes}
    (typed : (∃ line ∈ own, ∃ value, GivesContentType line value) ∨
      ∀ contentType, LastOf GivesContentType left contentType ↔
        LastOf GivesContentType other contentType) :
    LastOf GivesContentType (left ++ own) contentType ↔
      LastOf GivesContentType (other ++ own) contentType := by
  simp only [lastOf_givesContentType_iff, List.reverse_append, List.findSome?_append] at typed ⊢
  cases last : own.reverse.findSome? contentTypeOf? with
  | some value => rw [Option.some_or, Option.some_or]
  | none =>
    rcases typed with ⟨line, member, value, given⟩ | same
    · have silent := List.findSome?_eq_none_iff.mp last line (List.mem_reverse.mpr member)
      rw [contentTypeOf?_eq_some_iff.mpr given] at silent
      cases silent
    · rw [Option.none_or, Option.none_or]
      exact same contentType

/-- The marker among the first lines is all that counts, whatever the source: it is found exactly if
one of them has it, wherever reading breaks off.  Two answers with the same header whose bodies agree
up to the line that decides are told apart neither by what comes behind that line nor by how their
transfers end, if the header gives a content type or the answers left for them give the same. -/
theorem isJavadoc_by_first_lines (lookahead : Nat) (address : Text) :
    (∀ sources : Sources,
      isJavadoc sources lookahead address = true ↔
        ∃ line ∈ (sources.visitLines false address .collect []).1.take lookahead,
          marker <:+: line) ∧
    (∀ reading : Page.Reading, 0 < lookahead →
      (verdict (Sources.visitReading Search.look reading.error reading.lines ⟨lookahead, false⟩) =
          true ↔
        ∃ line ∈ reading.lines.take lookahead, marker <:+: line)) ∧
    (∀ sources : Sources,
      lookahead = 0 ∨ (∃ error, sources.visitLines false address .collect [] = ([], .error error)) →
      isJavadoc sources lookahead address = false) ∧
    (∀ (sources : Sources) (lines : List Text) (error : FetchError),
      sources.visitLines false address .collect [] = (lines, .error error) →
      (∀ line ∈ lines.take lookahead, ¬ marker <:+: line) →
      isJavadoc sources lookahead address = false) ∧
    (∀ (one other : Sources) (first second : Transfer)
        (left otherLeft own chunks otherChunks trailers otherTrailers : List Bytes)
        (contentType : Option Text) (common : Bytes) (lines : List Text),
      Sources.isStreamed address = true →
      one.visiting address = .ok first → other.visiting address = .ok second →
      first.events = inOrder (left ++ own) chunks trailers →
      second.events = inOrder (otherLeft ++ own) otherChunks otherTrailers →
      ((∃ line ∈ own, ∃ value, GivesContentType line value) ∨
        ∀ contentType, LastOf GivesContentType left contentType ↔
          LastOf GivesContentType otherLeft contentType) →
      LastOf GivesContentType (left ++ own) contentType →
      common <+: chunks.flatten → common <+: otherChunks.flatten →
      List.Forall₂ (Reads contentType) (ended 0x0A common) lines → Decides lookahead lines →
      isJavadoc one lookahead address = isJavadoc other lookahead address) := by
  refine ⟨fun sources => ?_, fun reading some => ?_, fun sources nothing => ?_,
    fun sources lines error broken unmarked => ?_, ?_⟩
  · rw [isJavadoc_iff, Sources.visitLines_collect]
    rfl
  · obtain ⟨remaining, rfl⟩ := Nat.exists_eq_succ_of_ne_zero (Nat.ne_of_gt some)
    exact verdict_visitReading reading.error reading.lines remaining
  · rw [← Bool.not_eq_true, isJavadoc_iff]
    rintro ⟨line, member, -⟩
    rcases nothing with rfl | ⟨error, closed⟩
    · cases member
    · rw [Sources.visitLines_collect] at closed
      have handed : (sources.handedOver address).lines = [] := congrArg Prod.fst closed
      rw [handed, List.take_nil] at member
      cases member
  · rw [Sources.visitLines_collect] at broken
    have handed : (sources.handedOver address).lines = lines := congrArg Prod.fst broken
    rw [← Bool.not_eq_true, isJavadoc_iff, handed]
    rintro ⟨line, member, marked⟩
    exact unmarked line member marked
  · intro one other first second left otherLeft own chunks otherChunks trailers otherTrailers
      contentType common lines streamed madeOne madeOther comesOne comesOther typed inForce
      beginsOne beginsOther read decides
    rw [Bool.eq_iff_iff, isJavadoc_iff, isJavadoc_iff,
      exists_marked_handedOver_iff streamed madeOne comesOne inForce beginsOne read decides,
      exists_marked_handedOver_iff streamed madeOther comesOther
        ((lastOf_append_congr typed).mp inForce) beginsOther read decides]

def markedLine : Bytes := Utf8.encode "<!-- Generated by javadoc -->\n".toList

/-- Sources with nothing but a network that makes one transfer over and over. -/
def sending (transfer : Transfer) : Sources := ⟨.empty, .always transfer, ⟨15, 30, none, none⟩⟩

def typedHeader : List Bytes := headerLines ["HTTP/1.1 200 OK", "Content-Type: text/html"]

/-- A transfer that is cut short behind the line that decides, inside the next. -/
def cutShort : Transfer where
  events := inOrder typedHeader [markedLine ++ [0x3C]] []
  ending := .error ⟨18, "Transferred a partial file"⟩
  status := .ok 200
  contentType := .ok (some "text/html".toList)

/-- A transfer of which no more than the line that decides ever comes, in two chunks. -/
def heldBack : Transfer where
  events := inOrder typedHeader [markedLine.take 7, markedLine.drop 7] []
  ending := .error ⟨28, "Timeout was reached"⟩
  status := .ok 200
  contentType := .ok (some "text/html".toList)

theorem isJavadoc_cutShort_heldBack :
    isJavadoc (sending cutShort) 6 "http://[::1]/p".toList = true ∧
      isJavadoc (sending cutShort) 6 "http://[::1]/p".toList =
        isJavadoc (sending heldBack) 6 "http://[::1]/p".toList := by
  obtain ⟨firstLines, -, -, -, unchanged⟩ := isJavadoc_by_first_lines 6 "http://[::1]/p".toList
  constructor
  · refine (firstLines _).mpr ⟨"<!-- Generated by javadoc -->".toList, ?_, by decide⟩
    decide +kernel
  · have given : typedHeader.reverse.findSome? contentTypeOf? = some "text/html".toList := by
      decide +kernel
    have typed : LastOf GivesContentType typedHeader (some "text/html".toList) :=
      lastOf_givesContentType_iff.mpr given
    have named : ∃ line ∈ typedHeader, ∃ value, GivesContentType line value := by
      refine ⟨Utf8.encode "Content-Type: text/html\r\n".toList, by decide +kernel,
        "text/html".toList, contentTypeOf?_eq_some_iff.mp (by decide +kernel)⟩
    have decides : Decides 6
        ((ended 0x0A markedLine).map (Stream.textOf ⟨some "text/html".toList, []⟩)) :=
      .inr (by decide +kernel)
    exact unchanged _ _ cutShort heldBack [] [] typedHeader _ _ [] [] _ markedLine _ rfl rfl rfl rfl
      rfl (.inl named) typed (by decide +kernel) (by decide +kernel) (forall₂_reads_iff.mpr rfl)
      decides

/-- The header of an answer in UTF-16 that was left for another address. -/
def leftInUtf16 : List Bytes :=
  headerLines ["HTTP/1.1 302 Found", "Location: /p", "Content-Type: text/html; charset=UTF-16LE"]

/-- A transfer of a page of the tool in an answer without a content type. -/
def untyped (left : List Bytes) (contentType : Option Text) : Transfer where
  events := inOrder (left ++ headerLines ["HTTP/1.1 200 OK"]) [markedLine] []
  ending := .ok ()
  status := .ok 200
  contentType := .ok contentType

/-- The two answers are the same, and one of them is read by the content type of another that was
left for it. -/
theorem isJavadoc_of_left_type :
    isJavadoc (sending (untyped [] none)) 6 "http://[::1]/p".toList = true ∧
      isJavadoc (sending (untyped leftInUtf16 (some "text/html; charset=UTF-16LE".toList))) 6
        "http://[::1]/p".toList = false := by
  decide +kernel

end DocExcerpt.Detection
