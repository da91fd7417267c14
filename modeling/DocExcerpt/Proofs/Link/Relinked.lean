import DocExcerpt.Proofs.Link.Relink

/-!
# What the selectors find on a converted page

A conversion writes no `>` that was not there, and changes what the end of a segment opens only for
values of its own selector, behind which nothing is selected anyway.  So a selector finds on the
page that it has converted what it found before (`selects_convertSelected_iff`), and the pass over
images hides no anchor and exposes none (`selects_anchors_relinked_iff`).

Each value that is found on the page in the end has therefore been converted, and a converted link
is relative no more (`relink_leaves_no_relative_link`).
-/

namespace DocExcerpt.Link

open Selector

variable {known : Resolver} {root text : Text} {pieces : List Text} {k : Nat}

namespace Selector

variable {s : Selector} {convert : Text → Text}

/-! ## Selections that stay -/

/-- A selection depends on which segments hold a `>`, and on what the ends of those segments open
that are not selected. -/
theorem selects_iff_of_agree {others : List Text} (length : others.length = pieces.length)
    (closing : ∀ k, '>' ∈ others.getD k [] ↔ '>' ∈ pieces.getD k [])
    (opening : ∀ k, ¬ s.Selects pieces k →
      (s.EndsInOpening (others.getD k []) ↔ s.EndsInOpening (pieces.getD k []))) (k : Nat) :
    s.Selects others k ↔ s.Selects pieces k := by
  induction k with
  | zero => exact iff_of_false (not_selects_zero _) (not_selects_zero _)
  | succ k inductionHypothesis =>
    by_cases before : s.Selects pieces k
    · exact iff_of_false (fun selects => selects.2.2.2 (inductionHypothesis.2 before))
        (fun selects => selects.2.2.2 before)
    · rw [selects_succ_iff, selects_succ_iff, inductionHypothesis, opening k before, closing,
        length]

theorem closed_of_selects (selects : s.Selects pieces k) : '>' ∉ pieces.getD k [] := by
  cases k with
  | zero => exact absurd selects (not_selects_zero pieces)
  | succ k => exact selects.2.1

theorem end_mem_convertSelected_iff (noEnd : ∀ href, '>' ∉ href → '>' ∉ convert href)
    (pieces : List Text) (k : Nat) :
    '>' ∈ (s.convertSelected convert pieces).getD k [] ↔ '>' ∈ pieces.getD k [] := by
  by_cases selects : s.Selects pieces k
  · have closed := closed_of_selects selects
    rw [getD_convertSelected_of_selects selects]
    exact iff_of_false (noEnd _ closed) closed
  · rw [getD_convertSelected_of_not_selects selects]

theorem selects_convertSelected_iff (noEnd : ∀ href, '>' ∉ href → '>' ∉ convert href)
    (pieces : List Text) (k : Nat) :
    s.Selects (s.convertSelected convert pieces) k ↔ s.Selects pieces k := by
  apply selects_iff_of_agree (length_convertSelected _ _) (end_mem_convertSelected_iff noEnd pieces)
  intro k unselected
  rw [getD_convertSelected_of_not_selects unselected]

end Selector

/-! ## The converted page -/

def relinked (known : Resolver) (root : Text) (pieces : List Text) : List Text :=
  images.convertSelected (convertImage root) (anchored known root pieces)

theorem end_not_mem_convertAnchor (noEnd : '>' ∉ root) :
    ∀ href, '>' ∉ href → '>' ∉ convertAnchor known root href :=
  fun _ => not_mem_convertAnchor known (by decide) noEnd

theorem end_not_mem_convertImage (noEnd : '>' ∉ root) :
    ∀ href, '>' ∉ href → '>' ∉ convertImage root href :=
  fun _ => not_mem_convertImage (by decide) noEnd

theorem selects_images_relinked_iff (noEnd : '>' ∉ root) (k : Nat) :
    images.Selects (relinked known root pieces) k ↔
      images.Selects (anchored known root pieces) k :=
  selects_convertSelected_iff (end_not_mem_convertImage noEnd) _ k

/-- The pass over images keeps what a segment opens, so that it keeps the anchors. -/
theorem selects_anchors_relinked_iff (noTag : '<' ∉ root) (noEnd : '>' ∉ root) (k : Nat) :
    anchors.Selects (relinked known root pieces) k ↔ anchors.Selects pieces k := by
  have before : anchors.Selects (anchored known root pieces) k ↔ anchors.Selects pieces k :=
    selects_convertSelected_iff (end_not_mem_convertAnchor noEnd) pieces k
  rw [← before]
  exact anchors_apart_images.symm.selects_convertSelected_iff
    (fun _ _ _ _ => endsInOpening_convertImage_iff noTag _) k

theorem getD_relinked_of_selects (anchor : anchors.Selects pieces k) :
    (relinked known root pieces).getD k [] = convertAnchor known root (pieces.getD k []) := by
  rw [relinked, getD_convertSelected_of_not_selects (not_selects_images_anchored anchor),
    getD_anchored_of_selects anchor]

/-! ## What converted links are -/

theorem convertAnchor_is_reference (known : Resolver) (root href : Text) :
    Url.isAbsolute (convertAnchor known root href) = true ∨
      symbolScheme <+: convertAnchor known root href ∨
      pageScheme <+: convertAnchor known root href := by
  unfold convertAnchor
  split
  next absolute => exact .inl absolute
  next =>
    split
    next =>
      rw [fragmentReference, List.append_assoc]
      exact .inr (.inr (List.prefix_append _ _))
    next =>
      split
      next => exact .inr (.inl (List.prefix_append _ _))
      next => exact .inr (.inr (List.prefix_append _ _))

theorem convertImage_is_reference (root href : Text) :
    pageScheme <+: convertImage root href ∨ directory root <+: convertImage root href := by
  unfold convertImage
  split
  next =>
    rw [fragmentReference, List.append_assoc]
    exact .inl (List.prefix_append _ _)
  next => exact .inr (List.prefix_append _ _)

/-- On a converted page each anchor is absolute or has a scheme of this library, and each image
begins like a reference to a page or with the directory of the page it stands on.  The anchors are
where they were: no anchor is left out, and no new one comes up. -/
theorem relink_leaves_no_relative_link (noQuote : '"' ∉ root) (noTag : '<' ∉ root)
    (noEnd : '>' ∉ root) :
    (∀ k, anchors.Selects (segments (relink known root text)) k →
      Url.isAbsolute ((segments (relink known root text)).getD k []) = true ∨
        symbolScheme <+: (segments (relink known root text)).getD k [] ∨
        pageScheme <+: (segments (relink known root text)).getD k []) ∧
    (∀ k, images.Selects (segments (relink known root text)) k →
      pageScheme <+: (segments (relink known root text)).getD k [] ∨
        directory root <+: (segments (relink known root text)).getD k []) ∧
    (∀ k, anchors.Selects (segments (relink known root text)) k ↔
      anchors.Selects (segments text) k) := by
  have page : segments (relink known root text) = relinked known root (segments text) :=
    segments_relink noQuote
  simp only [page]
  refine ⟨fun k found => ?_, fun k found => ?_, selects_anchors_relinked_iff noTag noEnd⟩
  · have anchor := (selects_anchors_relinked_iff noTag noEnd k).1 found
    rw [getD_relinked_of_selects anchor]
    exact convertAnchor_is_reference known root _
  · have image := (selects_images_relinked_iff noEnd k).1 found
    rw [relinked, getD_convertSelected_of_selects image]
    exact convertImage_is_reference root _

/-- An anchor whose conversion opens the image behind it, and one that is relative to its page. -/
theorem relink_leaves_no_relative_link_gadget :
    let known : Resolver := fun name => name = "Gadget".toList
    let root := "http://x/pkg/Y.html".toList
    let text := "<A HREF=\"Gadget.html#<IM.htmG SRC=\"y.png\"><A HREF=\"../z.html\">".toList
    '"' ∉ root ∧ '<' ∉ root ∧ '>' ∉ root ∧
      ∀ k ∈ [1, 4], anchors.Selects (segments (relink known root text)) k ∧
        (Url.isAbsolute ((segments (relink known root text)).getD k []) = true ∨
          symbolScheme <+: (segments (relink known root text)).getD k [] ∨
          pageScheme <+: (segments (relink known root text)).getD k []) := by
  intro known root text
  have noQuote : '"' ∉ root := by decide
  have noTag : '<' ∉ root := by decide
  have noEnd : '>' ∉ root := by decide
  obtain ⟨settled, -, same⟩ := @relink_leaves_no_relative_link known root text noQuote noTag noEnd
  have were : ∀ k ∈ [1, 4], anchors.Selects (segments text) k := by decide
  exact ⟨noQuote, noTag, noEnd, fun k member =>
    ⟨(same k).2 (were k member), settled k ((same k).2 (were k member))⟩⟩

end DocExcerpt.Link
