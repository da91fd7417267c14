import DocExcerpt.Page.Excerpt
import DocExcerpt.Proofs.Page.Lines
import DocExcerpt.Proofs.Text.Phrase
import Mathlib

/-!
# The description of a class on a page

`Description` says what the description of a class consists of: the line that begins it, and four
parts between delimiters, each of which runs to the end of the page if its delimiter is missing.
Every page either has no such line, or has exactly these parts, and the excerpt is put together from
them (`excerpt_classDoc`).  A page that is cut off somewhere is a page like any other.

The excerpt itself is made while the lines are read.  `linesUntil_eq` is the one lemma about that
reading; all four parts are read by the same reader, one behind the other.
-/

namespace DocExcerpt.Page

/-! ## The parts of a description -/

/-- The lines before the first end, and the lines behind it. -/
def cutAt (isEnd : Text → Prop) [DecidablePred isEnd] (lines : List Text) :
    List Text × List Text :=
  (lines.takeWhile fun line => ¬ isEnd line, (lines.dropWhile fun line => ¬ isEnd line).tail)

/-- What the description of a class consists of. -/
structure Description where
  /-- The line that begins it. -/
  first : Text
  title : List Text
  details : List Text
  definitions : List Text
  body : List Text

/-- Whether a line stands behind a description. -/
def EndsDescription (line : Text) : Prop := "SUMMARY ======== -->".toList <:+: line

instance : DecidablePred EndsDescription := fun _ => inferInstanceAs (Decidable (_ <:+: _))

/-- The parts behind the line that begins a description, up to one delimiter after the other. -/
def Description.of (first : Text) (lines : List Text) : Description :=
  let (title, lines) := cutAt (fun line => line.upper = "<DL>".toList) lines
  let (details, lines) := cutAt (fun line => line.upper = "<HR>".toList) lines
  let (definitions, lines) := cutAt (fun line => line.upper = "<P>".toList) lines
  let (body, _) := cutAt EndsDescription lines
  { first, title, details, definitions, body }

/-- The description on a page, begun by the first line that has the mark of a class. -/
def Description.of? (lines : List Text) : Option Description :=
  match lines.dropWhile fun line => ¬ Section.classStart <:+: line.upper with
  | [] => none
  | first :: lines => some (.of first lines)

/-- Whether a line closes a heading of the second level. -/
def ClosesHeading (line : Text) : Prop := "</H2>".toList <:+: line.upper

instance : DecidablePred ClosesHeading := fun _ => inferInstanceAs (Decidable (_ <:+: _))

/-- The heading of a description: each line that closes a heading gives the closing tag alone, and
behind the first such line no other line gives anything. -/
def headingText (lines : List Text) : Text :=
  (lines.mapIdx fun k line =>
    if ClosesHeading line then "</H2>".toList
    else if ∃ earlier ∈ lines.take k, ClosesHeading earlier then []
    else line).flatten

/-- The text of a description: a line break stands behind each term, the details follow the
definitions, and no line of the body has a rule. -/
def Description.text (d : Description) : Text :=
  "<HTML>".toList ++ d.first ++ headingText d.title ++ "<DL>".toList ++
    d.definitions.flatMap (Text.addBehind "<DT>".toList "<BR>".toList []) ++ d.details.flatten ++
    "<P>".toList ++ (d.body.filter fun line => ¬ "<HR>".toList <:+: line.upper).flatten ++
    "</HTML>".toList

/-! ## The pieces of the text -/

theorem hasTag_eq (tag line : Text) : hasTag tag line = decide (tag <:+: line.upper) := by
  rw [Bool.eq_iff_iff, hasTag, Text.hasPhrase_iff, decide_eq_true_iff]

theorem flatten_mapIdx_closing (close : Text) (lines : List Text) :
    (lines.mapIdx fun _ line => if ClosesHeading line then close else []).flatten =
      (lines.filter fun line => ClosesHeading line).flatMap fun _ => close := by
  induction lines with
  | nil => rfl
  | cons line lines inductionHypothesis =>
    rw [List.mapIdx_cons, List.flatten_cons, inductionHypothesis, List.filter_cons]
    by_cases closing : ClosesHeading line <;> simp [closing]

theorem titleText_eq (lines : List Text) : titleText lines = headingText lines := by
  have closes : hasTag "</H2>".toList = fun line => decide (ClosesHeading line) :=
    funext (hasTag_eq _)
  simp only [titleText, headingText, closes]
  induction lines with
  | nil => rfl
  | cons line lines inductionHypothesis =>
    by_cases closing : ClosesHeading line
    · have later := flatten_mapIdx_closing "</H2>".toList lines
      simpa [closing, List.mapIdx_cons] using later.symm
    · simpa [closing, List.mapIdx_cons] using inductionHypothesis

theorem definitionsText_eq (lines : List Text) :
    definitionsText lines = lines.flatMap (Text.addBehind "<DT>".toList "<BR>".toList []) := by
  have single : Text.Unbordered "<DT>".toList := Text.unbordered_of_not_mem (by decide)
  unfold definitionsText
  congr 1
  funext line
  exact Text.replaceAll_eq_addBehind single (by decide) "<BR>".toList line

theorem bodyText_eq (lines : List Text) :
    bodyText lines = (lines.filter fun line => ¬ "<HR>".toList <:+: line.upper).flatten := by
  simp [bodyText, hasTag_eq]

/-! ## Reading the parts -/

theorem linesUntil_eq (stop : Text → Bool) (lines : List Text) :
    linesUntil stop ⟨lines, none⟩ =
      .ok ((lines.takeWhile (!stop ·), (lines.dropWhile (!stop ·)).head?),
        ⟨(lines.dropWhile (!stop ·)).tail, none⟩) := by
  unfold linesUntil
  induction lines with
  | nil => rfl
  | cons line lines inductionHypothesis =>
    rw [linesUntil.go]
    by_cases stops : stop line = true
    · simp [stops]
    · simp only [inductionHypothesis]
      simp [stops]

theorem linesUntil_eq_cutAt {stop : Text → Bool} {isEnd : Text → Prop} [DecidablePred isEnd]
    (same : ∀ line, stop line = decide (isEnd line)) (lines : List Text) :
    linesUntil stop ⟨lines, none⟩ =
      .ok (((cutAt isEnd lines).1, (lines.dropWhile fun line => ¬ isEnd line).head?),
        ⟨(cutAt isEnd lines).2, none⟩) := by
  obtain rfl : stop = fun line => decide (isEnd line) := funext same
  simp [linesUntil_eq, cutAt]

theorem bind_eq_of_eq_ok {α β : Type} {reader : Reader α} {next : α → Reader β}
    {reading after : Reading} {a : α} (reads : reader reading = .ok (a, after)) :
    (reader >>= next) reading = next a after := by
  change (reader reading >>= fun read => next read.1 read.2) = _
  rw [reads]
  rfl

theorem pure_eq_ok {α : Type} (a : α) (reading : Reading) :
    (pure a : Reader α) reading = .ok (a, reading) := rfl

/-- What comes before the body is read part by part; the lines of the body are left. -/
theorem classSummary_eq (first : Text) (lines : List Text) :
    ∃ rest, classSummary ⟨lines, none⟩ =
        .ok (headingText (Description.of first lines).title ++ "<DL>".toList ++
          (Description.of first lines).definitions.flatMap
            (Text.addBehind "<DT>".toList "<BR>".toList []) ++
          (Description.of first lines).details.flatten ++ "<P>".toList, ⟨rest, none⟩) ∧
      (cutAt EndsDescription rest).1 = (Description.of first lines).body := by
  have isTag_eq : ∀ tag line, isTag tag line = decide (line.upper = tag) := fun _ _ => rfl
  refine ⟨_, ?_, rfl⟩
  rw [classSummary, bind_eq_of_eq_ok (linesUntil_eq_cutAt (isTag_eq _) lines)]
  simp only
  rw [bind_eq_of_eq_ok (linesUntil_eq_cutAt (isTag_eq _) _)]
  simp only
  rw [bind_eq_of_eq_ok (linesUntil_eq_cutAt (isTag_eq _) _)]
  simp only [titleText_eq, definitionsText_eq]
  rfl

theorem exists_excerpt (page : Bytes) (part : Section) :
    ∃ text, (Reading.ofBytes .none page).excerpt part = .ok text := by
  rw [Reading.ofBytes_none, Reading.excerpt, excerpt, bind_eq_of_eq_ok (linesUntil_eq _ _)]
  simp only
  generalize List.dropWhile _ _ = found
  cases found with
  | nil => exact ⟨[], rfl⟩
  | cons first lines =>
    obtain ⟨rest, summary, -⟩ := classSummary_eq first lines
    simp only [List.head?_cons, List.tail_cons]
    split
    next =>
      rw [bind_eq_of_eq_ok summary, bind_eq_of_eq_ok (linesUntil_eq _ rest)]
      exact ⟨_, rfl⟩
    next =>
      rw [bind_eq_of_eq_ok (pure_eq_ok [] _), bind_eq_of_eq_ok (linesUntil_eq _ lines)]
      exact ⟨_, rfl⟩

/-- A section of a page is what the decoded text of the page has of it in memory. -/
theorem excerptOfText_decode (page : Bytes) (part : Section) :
    (Reading.ofBytes .none page).excerpt part = .ok (excerptOfText (Utf8.decode page) part) := by
  obtain ⟨text, cutOut⟩ := exists_excerpt page part
  rw [excerptOfText, ofBytes_encode_decode, cutOut]
  rfl

/-- The excerpt of a class is its description, put together in order. -/
theorem excerpt_classDoc (page : Bytes) :
    (Reading.ofBytes .none page).excerpt .classDoc =
      .ok (match Description.of? (Reading.ofBytes .none page).lines with
        | some description => description.text
        | none => []) := by
  have starts : ∀ line, hasTag Section.classDoc.startMark line =
      decide (Section.classStart <:+: line.upper) := hasTag_eq Section.classStart
  have ends : ∀ line, Text.hasPhrase Section.classDoc.endMark line =
      decide (EndsDescription line) := by
    intro line
    rw [Bool.eq_iff_iff, Text.hasPhrase_iff, decide_eq_true_iff]
    rfl
  rw [Reading.ofBytes_none, Reading.excerpt, excerpt,
    bind_eq_of_eq_ok (linesUntil_eq_cutAt starts _), Description.of?, cutAt]
  simp only
  generalize List.dropWhile _ _ = found
  cases found with
  | nil => rfl
  | cons first lines =>
    obtain ⟨rest, summary, body⟩ := classSummary_eq first lines
    simp only [List.head?_cons, List.tail_cons, if_true]
    rw [bind_eq_of_eq_ok summary, bind_eq_of_eq_ok (linesUntil_eq_cutAt ends rest), body,
      bodyText_eq]
    have begins : (Description.of first lines).first = first := rfl
    rw [pure_eq_ok]
    simp only [Except.map]
    unfold Description.text
    simp only [List.append_assoc, begins]

end DocExcerpt.Page
