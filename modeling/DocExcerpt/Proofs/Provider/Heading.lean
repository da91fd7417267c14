import DocExcerpt.Proofs.Text.Phrase
import DocExcerpt.Provider

/-!
# The heading of a method

The documentation of a method is shown under the name of its class, which takes the place of the
title of the first heading.  The title ends at the nearest end of a heading, and nothing else of the
document changes (`Retitled`), unless that title is empty: then the end of the heading is passed
over, and all that follows, up to the next end of a heading, is taken for the title
(`replaceHeading_of_empty`).  So the document is retitled exactly if its first heading has a title,
or if there is nothing to put there and nothing to lose (`externalFor_retitled_iff`).
-/

namespace DocExcerpt

/-! ## Headings of a document -/

/-- A heading in a document: its title, and what stands before and behind its two tags. -/
structure Heading where
  before : Text
  title : Text
  after : Text

namespace Heading

variable {heading : Heading} {doc content : Text}

/-- The document that a heading stands in, with another title. -/
def entitled (heading : Heading) (title : Text) : Text :=
  heading.before ++ "<H3>".toList ++ (title ++ "</H3>".toList ++ heading.after)

def document (heading : Heading) : Text := heading.entitled heading.title

/-- Whether a heading begins at the first tag of a document and ends at the nearest end. -/
structure IsFirst (heading : Heading) (doc : Text) : Prop where
  whole : heading.document = doc
  first : ¬ "<H3>".toList <:+: heading.before
  nearest : ¬ "</H3>".toList <:+: heading.title

theorem unbordered_start : Text.Unbordered "<H3>".toList :=
  Text.unbordered_of_not_mem (by decide)

theorem unbordered_end : Text.Unbordered "</H3>".toList :=
  Text.unbordered_of_not_mem (by decide)

theorem exists_first_tag (there : heading.document = doc) :
    ∃ before behind, doc = before ++ "<H3>".toList ++ behind ∧
      ¬ "<H3>".toList <:+: before ∧ "</H3>".toList <:+: behind := by
  have ends : "</H3>".toList <:+: heading.title ++ "</H3>".toList ++ heading.after :=
    ⟨heading.title, heading.after, rfl⟩
  by_cases earlier : "<H3>".toList <:+: heading.before
  · obtain ⟨before, between, cut, first⟩ := Text.exists_first_of_infix (by decide) earlier
    refine ⟨before, between ++ "<H3>".toList ++ (heading.title ++ "</H3>".toList ++ heading.after),
      ?_, first, ends.trans (List.suffix_append _ _).isInfix⟩
    rw [← there, document, entitled, cut]
    simp only [List.append_assoc]
  · exact ⟨heading.before, _, there.symm, earlier, ends⟩

theorem exists_isFirst (there : heading.document = doc) : ∃ first : Heading, first.IsFirst doc := by
  obtain ⟨before, behind, cut, first, ends⟩ := exists_first_tag there
  obtain ⟨title, after, cutBehind, nearest⟩ := Text.exists_first_of_infix (by decide) ends
  refine ⟨⟨before, title, after⟩, ?_, first, nearest⟩
  rw [document, entitled, cut, cutBehind]

/-- Whether a text is a document with nothing but the title of its first heading replaced. -/
structure Retitled (content doc shown : Text) : Prop where
  heading : ∀ heading : Heading, heading.IsFirst doc → shown = heading.entitled content
  noHeading : (∀ heading : Heading, heading.document ≠ doc) → shown = doc

/-! ## The search for a heading -/

theorem afterPhrase?_eq_none_iff {phrase t : Text} :
    Text.afterPhrase? phrase t = none ↔ ¬ phrase <+: t := by
  simp [Text.afterPhrase?]

theorem suffix_of_afterPhrase? {phrase t behind : Text}
    (found : Text.afterPhrase? phrase t = some behind) : behind <:+ t := by
  unfold Text.afterPhrase? at found
  split at found
  next =>
    cases found
    exact List.drop_suffix _ t
  next => cases found

theorem replaceHeading_cons_of_none {c : Char} {t : Text}
    (noTag : Text.afterPhrase? "<H3>".toList (c :: t) = none) :
    replaceHeading content (c :: t) = c :: replaceHeading content t := by
  rw [replaceHeading, noTag]

theorem replaceHeading_before {before : Text} (first : ¬ "<H3>".toList <:+: before) (t : Text) :
    replaceHeading content (before ++ "<H3>".toList ++ t) =
      before ++ replaceHeading content ("<H3>".toList ++ t) := by
  induction before with
  | nil => rfl
  | cons c before inductionHypothesis =>
    have notHere : Text.afterPhrase? "<H3>".toList (c :: (before ++ "<H3>".toList ++ t)) = none := by
      rw [afterPhrase?_eq_none_iff]
      intro begins
      exact first (Text.prefix_of_prefix_append_phrase unbordered_start
        (List.cons_ne_nil c before) begins).isInfix
    change replaceHeading content (c :: (before ++ "<H3>".toList ++ t)) = _
    rw [replaceHeading_cons_of_none notHere,
      inductionHypothesis fun later => first (List.infix_cons later), List.cons_append]

theorem replaceHeading_append {s : Text} (noTag : '<' ∉ s) (t : Text) :
    replaceHeading content (s ++ t) = s ++ replaceHeading content t := by
  induction s with
  | nil => rfl
  | cons c s inductionHypothesis =>
    have notHere : Text.afterPhrase? "<H3>".toList (c :: (s ++ t)) = none := by
      rw [afterPhrase?_eq_none_iff]
      intro begins
      obtain ⟨rfl, -⟩ := List.cons_prefix_cons.mp begins
      exact noTag List.mem_cons_self
    rw [List.cons_append, replaceHeading_cons_of_none notHere,
      inductionHypothesis fun member => noTag (List.mem_cons_of_mem c member), List.cons_append]

theorem replaceHeading_of_no_tag {t : Text} (noTag : ¬ "<H3>".toList <:+: t) :
    replaceHeading content t = t := by
  induction t with
  | nil => rfl
  | cons c t inductionHypothesis =>
    have notHere : Text.afterPhrase? "<H3>".toList (c :: t) = none :=
      afterPhrase?_eq_none_iff.mpr fun begins => noTag begins.isInfix
    rw [replaceHeading_cons_of_none notHere,
      inductionHypothesis fun later => noTag (List.infix_cons later)]

theorem replaceHeading_of_no_end {t : Text} (noEnd : ¬ "</H3>".toList <:+: t) :
    replaceHeading content t = t := by
  induction t with
  | nil => rfl
  | cons c t inductionHypothesis =>
    have rest := inductionHypothesis fun later => noEnd (List.infix_cons later)
    rw [replaceHeading]
    split
    next => rw [rest]
    next => rw [rest]
    next first behind found =>
      have noEndBehind : Text.splitAtPhrase? "</H3>".toList behind = none := by
        rw [Text.splitAtPhrase?_eq_none_iff (by decide)]
        intro later
        exact noEnd (later.trans ((List.suffix_cons first behind).trans
          (suffix_of_afterPhrase? found)).isInfix)
      rw [noEndBehind]
      exact congrArg (c :: ·) rest

/-- At a tag, one character is passed over before the end of the heading is looked for. -/
theorem replaceHeading_of_end (content after : Text) {first : Char} {inner : Text}
    (nearest : ¬ "</H3>".toList <:+: inner) (oneLine : '\n' ∉ first :: inner) :
    replaceHeading content ("<H3>".toList ++ (first :: inner ++ "</H3>".toList ++ after)) =
      "<H3>".toList ++ (content ++ "</H3>".toList ++ after) := by
  have cut := Text.splitAtPhrase?_append unbordered_end (by decide) nearest after
  have tag : Text.afterPhrase? "<H3>".toList ('<' :: ("H3>".toList ++
      (first :: (inner ++ "</H3>".toList ++ after)))) =
        some (first :: (inner ++ "</H3>".toList ++ after)) := rfl
  change replaceHeading content ('<' :: ("H3>".toList ++
    (first :: (inner ++ "</H3>".toList ++ after)))) = _
  rw [replaceHeading, tag]
  simp only [cut, if_neg oneLine]
  simp only [List.append_assoc]

/-! ## The first heading -/

theorem replaceHeading_of_titled (isFirst : heading.IsFirst doc) (oneLine : '\n' ∉ doc)
    (titled : heading.title ≠ []) : replaceHeading content doc = heading.entitled content := by
  obtain ⟨before, title, after⟩ := heading
  obtain ⟨first, inner, rfl⟩ := List.exists_cons_of_ne_nil titled
  obtain ⟨rfl, noTag, nearest⟩ := isFirst
  have oneLineTitle : '\n' ∉ first :: inner := fun member => oneLine (by
    simp only [document, entitled, List.mem_append]
    exact .inr (.inl (.inl member)))
  rw [document, entitled, replaceHeading_before noTag, replaceHeading_of_end content after
    (fun later => nearest (List.infix_cons later)) oneLineTitle]
  simp only [entitled, List.append_assoc]

theorem not_infix_end_append {t : Text} (noEnd : ¬ "</H3>".toList <:+: t) :
    ¬ "</H3>".toList <:+: "/H3>".toList ++ t := by
  simpa [List.infix_cons_iff] using noEnd

/-- The end of an empty heading is passed over, and the next end is taken for it. -/
theorem replaceHeading_of_empty {before swallowed rest : Text} (noTag : ¬ "<H3>".toList <:+: before)
    (nearest : ¬ "</H3>".toList <:+: swallowed) (oneLine : '\n' ∉ swallowed) :
    replaceHeading content (entitled ⟨before, [], swallowed ++ "</H3>".toList ++ rest⟩ []) =
      entitled ⟨before, [], rest⟩ content := by
  have oneLineTitle : '\n' ∉ '<' :: ("/H3>".toList ++ swallowed) := by simpa using oneLine
  have found := replaceHeading_of_end content rest (not_infix_end_append nearest) oneLineTitle
  simp only [List.cons_append, List.append_assoc] at found
  rw [entitled, replaceHeading_before noTag, entitled, List.append_assoc]
  simp only [List.append_assoc]
  exact congrArg (before ++ ·) found

/-- An empty heading without another end behind it stays as it is, with all that follows. -/
theorem replaceHeading_of_empty_last {before after : Text} (noTag : ¬ "<H3>".toList <:+: before)
    (last : ¬ "</H3>".toList <:+: after) :
    replaceHeading content (entitled ⟨before, [], after⟩ []) = entitled ⟨before, [], after⟩ [] := by
  have noEnd : Text.splitAtPhrase? "</H3>".toList ("/H3>".toList ++ after) = none :=
    (Text.splitAtPhrase?_eq_none_iff (by decide)).mpr (not_infix_end_append last)
  have passed : replaceHeading content ("<H3>".toList ++ ("</H3>".toList ++ after)) =
      "<H3>".toList ++ replaceHeading content ("</H3>".toList ++ after) := by
    have tag : Text.afterPhrase? "<H3>".toList ('<' :: ("H3>".toList ++ ("</H3>".toList ++ after))) =
        some ('<' :: ("/H3>".toList ++ after)) := rfl
    change replaceHeading content ('<' :: ("H3>".toList ++ ("</H3>".toList ++ after))) = _
    rw [replaceHeading, tag]
    simp only [noEnd]
    rw [replaceHeading_append (by decide)]
    rfl
  have noTagInEnd : Text.afterPhrase? "<H3>".toList ('<' :: ("/H3>".toList ++ after)) = none := rfl
  have endKept : replaceHeading content ("</H3>".toList ++ after) = "</H3>".toList ++ after := by
    change replaceHeading content ('<' :: ("/H3>".toList ++ after)) = _
    rw [replaceHeading_cons_of_none noTagInEnd, replaceHeading_append (by decide),
      replaceHeading_of_no_end last]
    rfl
  rw [entitled, List.nil_append, replaceHeading_before noTag, passed, endKept, List.append_assoc]

theorem replaceHeading_of_no_heading (none : ∀ heading : Heading, heading.document ≠ doc) :
    replaceHeading content doc = doc := by
  by_cases tagged : "<H3>".toList <:+: doc
  · obtain ⟨before, behind, rfl, noTag⟩ := Text.exists_first_of_infix (by decide) tagged
    have noEnd : ¬ "</H3>".toList <:+: behind := by
      rintro ⟨title, after, rfl⟩
      exact none ⟨before, title, after⟩ rfl
    have noEndBehindTag : ¬ "</H3>".toList <:+: "<H3>".toList ++ behind := by
      simpa [List.infix_cons_iff] using noEnd
    rw [replaceHeading_before noTag, replaceHeading_of_no_end noEndBehindTag, List.append_assoc]
  · exact replaceHeading_of_no_tag tagged

/-- The document is retitled exactly if its first heading has a title, or if there is neither a title
to put there nor another end of a heading behind it. -/
theorem retitled_replaceHeading_iff (oneLine : '\n' ∉ doc) :
    Retitled content doc (replaceHeading content doc) ↔
      ∀ heading : Heading, heading.IsFirst doc → heading.title = [] →
        content = [] ∧ ¬ "</H3>".toList <:+: heading.after := by
  constructor
  · rintro retitled ⟨before, title, after⟩ isFirst rfl
    have shown := retitled.heading _ isFirst
    obtain ⟨rfl, noTag, -⟩ := isFirst
    have last : ¬ "</H3>".toList <:+: after := by
      intro ends
      obtain ⟨swallowed, rest, rfl, nearest⟩ := Text.exists_first_of_infix (by decide) ends
      have oneLineSwallowed : '\n' ∉ swallowed := fun member => oneLine (by
        simp [document, entitled, member])
      rw [document, replaceHeading_of_empty noTag nearest oneLineSwallowed] at shown
      have lengths := congrArg List.length shown
      simp only [entitled, List.length_append] at lengths
      have long : 0 < "</H3>".toList.length := by decide
      omega
    rw [document, replaceHeading_of_empty_last noTag last] at shown
    refine ⟨?_, last⟩
    simpa [entitled] using shown
  · intro harmless
    refine ⟨fun heading isFirst => ?_, replaceHeading_of_no_heading⟩
    by_cases titled : heading.title = []
    · obtain ⟨rfl, last⟩ := harmless heading isFirst titled
      obtain ⟨before, title, after⟩ := heading
      obtain rfl : title = [] := titled
      obtain ⟨rfl, noTag, -⟩ := isFirst
      exact replaceHeading_of_empty_last noTag last
    · exact replaceHeading_of_titled isFirst oneLine titled

end Heading

/-! ## The documentation of a method -/

namespace Provider

open Heading

/-- The documentation of a method is its document, retitled with the name of the class, exactly if
its first heading has a title, or if there is nothing to put there and nothing to lose.  Otherwise
the heading ends at the next end behind its own, and what stands between the two is lost. -/
theorem externalFor_retitled_iff (provider : Provider) (coordinator : Fetch.Coordinator)
    (address containingClass doc : Text)
    (found : (provider.external coordinator address).1 = .ok (some doc)) (oneLine : '\n' ∉ doc) :
    (∀ heading : Heading, heading.document = doc → ∃ first : Heading, first.IsFirst doc) ∧
    ∃ shown, (provider.externalFor coordinator address (.method containingClass)).1 =
        .ok (some shown) ∧
      (Retitled containingClass doc shown ↔
        ∀ heading : Heading, heading.IsFirst doc → heading.title = [] →
          containingClass = [] ∧ ¬ "</H3>".toList <:+: heading.after) ∧
      ∀ before after, Heading.IsFirst ⟨before, [], after⟩ doc →
        (¬ "</H3>".toList <:+: after → shown = doc) ∧
        ∀ swallowed rest, after = swallowed ++ "</H3>".toList ++ rest →
          ¬ "</H3>".toList <:+: swallowed →
          shown = entitled ⟨before, [], rest⟩ containingClass := by
  refine ⟨fun _ => exists_isFirst,
    replaceHeading containingClass doc, ?_, retitled_replaceHeading_iff oneLine, ?_⟩
  · change (provider.external coordinator address).1.map _ = _
    rw [found]
    rfl
  · rintro before after ⟨rfl, noTag, -⟩
    refine ⟨replaceHeading_of_empty_last noTag, ?_⟩
    rintro swallowed rest rfl nearest
    have oneLineSwallowed : '\n' ∉ swallowed := fun member => oneLine (by
      simp [document, entitled, member])
    exact replaceHeading_of_empty noTag nearest oneLineSwallowed

def ofPage (page : String) : Provider where
  resolver := noSymbols
  adjust := id
  sources := ⟨⟨[([[0x70]], .file (Utf8.encode page.toList))]⟩, .unreachable, ⟨15, 30, none, none⟩⟩
  lookahead := 6

/-- Of two headings the first is retitled, with a name that is taken as it is. -/
theorem externalFor_retitled_twoHeadings :
    ((ofPage "<A NAME=\"f\"><H3>f</H3>\n<H3>g</H3>\n").externalFor .idle "file:///p#f".toList
        (.method "A$1".toList)).1 =
      .ok (some "<HTML><A NAME=\"f\"><H3>A$1</H3><H3>g</H3></HTML>".toList) := by
  have found : ((ofPage "<A NAME=\"f\"><H3>f</H3>\n<H3>g</H3>\n").external .idle
      "file:///p#f".toList).1 =
        .ok (some "<HTML><A NAME=\"f\"><H3>f</H3><H3>g</H3></HTML>".toList) := by decide +kernel
  obtain ⟨-, shown, told, retitled, -⟩ := externalFor_retitled_iff _ _ _ "A$1".toList _ found
    (by decide)
  have noEmpty : ¬ "<H3></H3>".toList <:+:
      "<HTML><A NAME=\"f\"><H3>f</H3><H3>g</H3></HTML>".toList := by decide
  have first : Heading.IsFirst
      ⟨"<HTML><A NAME=\"f\">".toList, "f".toList, "<H3>g</H3></HTML>".toList⟩
      "<HTML><A NAME=\"f\"><H3>f</H3><H3>g</H3></HTML>".toList :=
    ⟨rfl, by decide, by decide⟩
  rw [told, (retitled.mpr ?_).heading _ first]
  · rfl
  · rintro ⟨before, title, after⟩ isFirst rfl
    refine absurd ⟨before, after, ?_⟩ noEmpty
    rw [← isFirst.whole, document, entitled]
    simp

def untitled : Provider := ofPage "<A NAME=\"f\"><H3></H3>\n<P>Spins.\n<H3>See</H3>\n"

/-- The description behind the empty heading is lost, and the next heading with it. -/
theorem externalFor_not_retitled_untitled :
    let doc := "<HTML><A NAME=\"f\"><H3></H3><P>Spins.<H3>See</H3></HTML>".toList
    let shown := "<HTML><A NAME=\"f\"><H3>A</H3></HTML>".toList
    (untitled.external .idle "file:///p#f".toList).1 = .ok (some doc) ∧ '\n' ∉ doc ∧
      (untitled.externalFor .idle "file:///p#f".toList (.method "A".toList)).1 = .ok (some shown) ∧
      ¬ Retitled "A".toList doc shown := by
  intro doc shown
  refine ⟨by decide +kernel, by decide, by decide +kernel, fun retitled => ?_⟩
  have first : Heading.IsFirst
      ⟨"<HTML><A NAME=\"f\">".toList, [], "<P>Spins.<H3>See</H3></HTML>".toList⟩ doc :=
    ⟨rfl, by decide, by decide⟩
  exact absurd (retitled.heading _ first) (by decide)

end Provider

end DocExcerpt
