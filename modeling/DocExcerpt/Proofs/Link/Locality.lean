import DocExcerpt.Proofs.Link.Relink
import DocExcerpt.Proofs.Text.Pieces

/-!
# Links are converted tag by tag

Neither an opening nor a value holds a `>`, so that a selection lies on one side of each `>` of a
page (`select?_append_end`), and a pass over a page is a pass over the text before a `>` and one
over the text behind it (`replaceValues_append_end`).  The `>` itself stays where it is.  So two
passes may be made part by part as well, whatever the first of them writes: the page address may
hold quotes and tags of its own.

What becomes of a link does then not depend on what stands before the last `>` in front of it, be it
well formed or not (`relink_is_local`).
-/

namespace DocExcerpt.Link

variable {known : Resolver} {root opening href : Text}

namespace Selector

variable {s : Selector} {convert : Text → Text}

/-! ## Selections before the end of a tag -/

theorem IsOpening.end_not_mem {t : Text} (opens : s.IsOpening t) : '>' ∉ t :=
  opens.not_mem (by decide) (by decide)

/-- A selection in front of a `>` is found whatever follows, and nothing else is found there. -/
theorem select?_append_end (t after : Text) :
    s.select? (t ++ '>' :: after) =
      (s.select? t).map fun found => { found with rest := found.rest ++ '>' :: after } := by
  cases select : s.select? t with
  | some found =>
    obtain ⟨o, opens, opening, rfl, allowed⟩ := select?_eq_some_iff.mp select
    exact select?_eq_some_iff.mpr ⟨o, opens, opening, by simp, allowed⟩
  | none =>
    cases across : s.select? (t ++ '>' :: after) with
    | none => rfl
    | some found =>
      obtain ⟨o, opens, opening, whole, allowed⟩ := select?_eq_some_iff.mp across
      have noEnd : '>' ∉ found.value := fun member => absurd (allowed _ member) (by decide)
      have closed : '>' ∉ o ++ '"' :: (found.value ++ ['"']) := by
        simp [opens.end_not_mem, noEnd]
      have begins : o ++ '"' :: (found.value ++ ['"']) <+: t ++ '>' :: after :=
        ⟨found.rest, by simp [whole]⟩
      obtain ⟨rest, rfl⟩ := (Pieces.prefix_append_mark_iff closed _ _).mp begins
      have found : s.select? (o ++ '"' :: (found.value ++ ['"']) ++ rest) =
          some ⟨o ++ ['"'], found.value, rest⟩ :=
        select?_eq_some_iff.mpr ⟨o, opens, rfl, by simp, allowed⟩
      rw [found] at select
      cases select

/-! ## A pass over two parts -/

theorem replaceValues_of_some {t : Text} {found : Selection} (select : s.select? t = some found) :
    s.replaceValues convert t =
      found.opening ++ convert found.value ++ '"' :: s.replaceValues convert found.rest := by
  rw [replaceValues]
  split
  next other eq =>
    rw [select] at eq
    cases eq
    rfl
  next eq =>
    rw [select] at eq
    cases eq

theorem replaceValues_cons_of_none {c : Char} {t : Text} (select : s.select? (c :: t) = none) :
    s.replaceValues convert (c :: t) = c :: s.replaceValues convert t := by
  rw [replaceValues]
  split
  next other eq =>
    rw [select] at eq
    cases eq
  next => rfl

theorem replaceValues_append_end (before after : Text) :
    s.replaceValues convert (before ++ '>' :: after) =
      s.replaceValues convert before ++ '>' :: s.replaceValues convert after := by
  have across := fun t => select?_append_end (s := s) t after
  fun_induction replaceValues s convert before with
  | case1 t found select inductionHypothesis =>
    have foundBoth := across t
    rw [select] at foundBoth
    rw [replaceValues_of_some foundBoth, inductionHypothesis]
    simp
  | case2 select =>
    have notFound : s.select? ('>' :: after) = none := by
      have alone := across []
      rwa [select] at alone
    exact replaceValues_cons_of_none notFound
  | case3 c t select inductionHypothesis =>
    have notFoundBoth : s.select? (c :: (t ++ '>' :: after)) = none := by
      have both := across (c :: t)
      rwa [select] at both
    rw [List.cons_append, List.cons_append, replaceValues_cons_of_none notFoundBoth,
      inductionHypothesis]

/-! ## A pass over one tag -/

def tagged (opening value rest : Text) : Text := opening ++ '"' :: (value ++ '"' :: '>' :: rest)

theorem replaceValues_one (noQuote : '"' ∉ opening) (noValueQuote : '"' ∉ href) :
    s.replaceValues convert (opening ++ '"' :: (href ++ ['"'])) =
      quoted (s.convertInOrder convert [opening, href, []]) := by
  rw [replaceValues_eq, segments_append_quote noQuote, segments_append_quote noValueQuote]
  rfl

theorem replaceValues_tagged (noQuote : '"' ∉ opening) (noValueQuote : '"' ∉ href) (rest : Text) :
    s.replaceValues convert (tagged opening href rest) =
      quoted (s.convertInOrder convert [opening, href, []]) ++
        '>' :: s.replaceValues convert rest := by
  have cut : tagged opening href rest = opening ++ '"' :: (href ++ ['"']) ++ '>' :: rest := by
    simp [tagged]
  rw [cut, replaceValues_append_end, replaceValues_one noQuote noValueQuote]

theorem replaceValues_tagged_of_opens (noQuote : '"' ∉ opening) (noValueQuote : '"' ∉ href)
    (closed : '>' ∉ href) (opens : s.EndsInOpening opening) (rest : Text) :
    s.replaceValues convert (tagged opening href rest) =
      tagged opening (convert href) (s.replaceValues convert rest) := by
  rw [replaceValues_tagged noQuote noValueQuote, convertInOrder, if_pos ⟨opens, closed⟩]
  simp [quoted, tagged, convertInOrder]

theorem replaceValues_tagged_of_not_opens (noQuote : '"' ∉ opening) (noValueQuote : '"' ∉ href)
    (opensNothing : ¬ s.EndsInOpening opening) (rest : Text) :
    s.replaceValues convert (tagged opening href rest) =
      tagged opening href (s.replaceValues convert rest) := by
  rw [replaceValues_tagged noQuote noValueQuote, convertInOrder,
    if_neg fun selected => opensNothing selected.1]
  simp [quoted, tagged, convertInOrder]

end Selector

open Selector

/-! ## Both passes -/

theorem relink_append_end (known : Resolver) (root before after : Text) :
    relink known root (before ++ '>' :: after) =
      relink known root before ++ '>' :: relink known root after := by
  simp only [relink, Rule.apply, replaceValues_append_end]

theorem relink_nil (known : Resolver) (root : Text) : relink known root [] = [] := by
  simp [relink, Rule.apply, replaceValues, select?, cutOpening?, cutPhrase?, Text.upper]

theorem relink_eq_intercalate (known : Resolver) (root text : Text) :
    relink known root text = ['>'].intercalate ((text.splitOn '>').map (relink known root)) := by
  induction text using Pieces.piecewise '>' with
  | unended piece whole => simp [List.splitOn_eq_singleton whole]
  | ended piece rest whole inductionHypothesis =>
    have some : (rest.splitOn '>').map (relink known root) ≠ [] := by
      simp [List.splitOn_ne_nil]
    rw [relink_append_end, List.splitOn_append_cons_self_of_not_mem whole, List.map_cons,
      List.intercalate_cons_of_ne_nil some, ← inductionHypothesis]
    simp

theorem relink_tagged_anchor (noRootQuote : '"' ∉ root) (noQuote : '"' ∉ opening)
    (noValueQuote : '"' ∉ href) (closed : '>' ∉ href) (opens : anchors.EndsInOpening opening)
    (rest : Text) :
    relink known root (tagged opening href rest) =
      tagged opening (convertAnchor known root href) (relink known root rest) := by
  have noQuoteAfter : '"' ∉ convertAnchor known root href :=
    not_mem_convertAnchor known (by decide) noRootQuote noValueQuote
  have first : (anchorRule known).apply root (tagged opening href rest) =
      tagged opening (convertAnchor known root href) ((anchorRule known).apply root rest) :=
    replaceValues_tagged_of_opens noQuote noValueQuote closed opens rest
  rw [relink, first]
  exact replaceValues_tagged_of_not_opens noQuote noQuoteAfter (not_endsInOpening_images opens) _

theorem relink_tagged_image (noQuote : '"' ∉ opening) (noValueQuote : '"' ∉ href)
    (closed : '>' ∉ href) (opens : images.EndsInOpening opening) (rest : Text) :
    relink known root (tagged opening href rest) =
      tagged opening (convertImage root href) (relink known root rest) := by
  have noAnchor : ¬ anchors.EndsInOpening opening := fun both =>
    not_endsInOpening_images both opens
  have first : (anchorRule known).apply root (tagged opening href rest) =
      tagged opening href ((anchorRule known).apply root rest) :=
    replaceValues_tagged_of_not_opens noQuote noValueQuote noAnchor rest
  rw [relink, first]
  exact replaceValues_tagged_of_opens noQuote noValueQuote closed opens _

/-- Each `>` of a page is a boundary: what stands before it and what stands behind it are converted
on their own, so that a page may be converted part by part, cut at every `>`.  An anchor or an image
behind one is converted whatever stands before, closed or not. -/
theorem relink_is_local (known : Resolver) (root : Text) :
    (∀ before after, relink known root (before ++ '>' :: after) =
      relink known root (before ++ ['>']) ++ relink known root after) ∧
    (∀ text, relink known root text =
      ['>'].intercalate ((text.splitOn '>').map (relink known root))) ∧
    (∀ before opening href after, '"' ∉ opening → '"' ∉ href → '>' ∉ href →
      ('"' ∉ root → anchors.EndsInOpening opening →
        relink known root (before ++ '>' :: tagged opening href after) =
          relink known root (before ++ ['>']) ++
            tagged opening (convertAnchor known root href) (relink known root after)) ∧
      (images.EndsInOpening opening →
        relink known root (before ++ '>' :: tagged opening href after) =
          relink known root (before ++ ['>']) ++
            tagged opening (convertImage root href) (relink known root after))) := by
  have boundary : ∀ before after, relink known root (before ++ '>' :: after) =
      relink known root (before ++ ['>']) ++ relink known root after := by
    intro before after
    rw [relink_append_end, relink_append_end, relink_nil]
    simp
  refine ⟨boundary, relink_eq_intercalate known root, ?_⟩
  intro before opening href after noQuote noValueQuote closed
  constructor
  · intro noRootQuote opens
    rw [boundary, relink_tagged_anchor noRootQuote noQuote noValueQuote closed opens]
  · intro opens
    rw [boundary, relink_tagged_image noQuote noValueQuote closed opens]

/-- An image that is never closed stands before the anchor, and the page address holds a tag. -/
theorem relink_is_local_behind_broken_image :
    let root := "http://x/<p>/Y.html".toList
    let broken := "<IMG SRC=\"z.png".toList
    relink noSymbols root (broken ++ '>' :: tagged "<a\nhref=".toList "#a".toList []) =
      relink noSymbols root (broken ++ ['>']) ++
        tagged "<a\nhref=".toList "doc_element://http://x/<p>/Y#a".toList
          (relink noSymbols root []) := by
  intro root broken
  obtain ⟨-, -, tags⟩ := relink_is_local noSymbols root
  exact (tags broken "<a\nhref=".toList "#a".toList [] (by decide) (by decide) (by decide)).1
    (by decide) (by decide)

end DocExcerpt.Link
